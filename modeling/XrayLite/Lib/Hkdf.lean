import XrayLite.Lib.Octets

/-! HKDF (RFC 5869) over any HMAC with an `n`-byte output.

Extract keys the HMAC with the salt. Expand chains blocks
`T(i) = HMAC(PRK, T(i-1) ‖ info ‖ i)` and cuts their concatenation to the
length asked for, refusing more than 255 blocks. Implementations that only
ever need one block compute `HMAC(PRK, info ‖ 0x01)` and cut it: `okm_of_le`
says that this is HKDF-Expand.
-/

set_option autoImplicit false

namespace Hkdf

variable {n : Nat} (mac : List UInt8 → List UInt8 → Octets n)

def extract (salt ikm : List UInt8) : Octets n := mac salt ikm

/-- `T(i) ‖ T(i+1) ‖ …`, `count` blocks, after `T(i-1) = previous`. -/
def blocks (prk info : List UInt8) : Nat → Nat → List UInt8 → List UInt8
  | 0, _, _ => []
  | count + 1, i, previous =>
    let block := (mac prk (previous ++ info ++ [UInt8.ofNat i])).toList
    block ++ blocks prk info count (i + 1) block

def okm (prk info : List UInt8) (length : Nat) : List UInt8 :=
  (blocks mac prk info ((length + n - 1) / n) 1 []).take length

/-- HKDF-Expand, which is defined for at most `255 · n` bytes. -/
def expand (prk info : List UInt8) (length : Nat) : Option (List UInt8) :=
  if length ≤ 255 * n then some (okm mac prk info length) else none

variable {mac}

/-- One block is enough for at most `n` bytes. -/
theorem okm_of_le (prk info : List UInt8) {length : Nat} (short : length ≤ n) :
    okm mac prk info length = (mac prk (info ++ [1])).toList.take length := by
  rcases Nat.eq_zero_or_pos length with empty | positive
  case inl => simp [empty, okm]
  case inr =>
    have single : (length + n - 1) / n = 1 := Nat.div_eq_of_lt_le (by omega) (by omega)
    simp [okm, single, blocks]

theorem length_okm_of_le (prk info : List UInt8) {length : Nat} (short : length ≤ n) :
    (okm mac prk info length).length = length := by
  rw [okm_of_le prk info short, List.length_take, Octets.length_toList]
  omega

theorem expand_of_le (prk info : List UInt8) {length : Nat} (within : length ≤ 255 * n) :
    expand mac prk info length = some (okm mac prk info length) := by
  simp [expand, within]

end Hkdf
