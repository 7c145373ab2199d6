import XrayLite.Lib.Octets

/-! The `hex` crate (0.4): `hex::decode` and `hex::encode`.

`decode` reads the bytes of its argument two at a time, upper- or lowercase
digits, and fails on an odd length or on the first byte that is not a digit;
`encode` writes lowercase digits.
-/

set_option autoImplicit false

namespace Hex

inductive FromHexError where
  | oddLength
  | invalidHexCharacter (c : Char) (index : Nat)
  deriving DecidableEq, Repr

-- `val`: one digit, reported at its byte index when it is not one
def val (c : UInt8) (index : Nat) : Except FromHexError UInt8 :=
  if 0x41 ≤ c ∧ c ≤ 0x46 then .ok (c - 0x41 + 10)
  else if 0x61 ≤ c ∧ c ≤ 0x66 then .ok (c - 0x61 + 10)
  else if 0x30 ≤ c ∧ c ≤ 0x39 then .ok (c - 0x30)
  else .error (.invalidHexCharacter (Char.ofNat c.toNat) index)

-- `hex.chunks(2).enumerate().map(..).collect()`; the length is even by then
def decodePairs (index : Nat) : List UInt8 → Except FromHexError (List UInt8)
  | hi :: lo :: rest => do
    let high ← val hi index
    let low ← val lo (index + 1)
    let bytes ← decodePairs (index + 2) rest
    pure ((high <<< 4 ||| low) :: bytes)
  | _ => .ok []

def decode (hex : String) : Except FromHexError (List UInt8) :=
  let bytes := Utf8.encode hex
  if bytes.length % 2 ≠ 0 then .error .oddLength else decodePairs 0 bytes

def digit (n : Nat) : Char := "0123456789abcdef".toList.getD n '0'

def encode (bytes : List UInt8) : String :=
  String.ofList (bytes.flatMap fun byte => [digit (byte.toNat / 16), digit (byte.toNat % 16)])

end Hex
