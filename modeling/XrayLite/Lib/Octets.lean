import Mathlib

/-! Byte strings as wire formats carry them: fixed-length octet arrays,
big-endian integers of a given width, and UTF-8 text.

These are the conversions of a byte buffer API (`get_u16`, `put_u32`,
`copy_to_slice`, `String::from_utf8`) stated over `List UInt8`, with the
laws that decoders and encoders built from them rely on.
-/

set_option autoImplicit false

/-- An array of exactly `n` bytes, such as `[u8; 16]`. -/
structure Octets (n : Nat) where
  toList : List UInt8
  length_eq : toList.length = n
  deriving DecidableEq, Repr

namespace Octets

variable {n : Nat}

@[simp] theorem length_toList (octets : Octets n) : octets.toList.length = n := octets.length_eq

/-- Fill an `n`-byte array from the front of `bytes`; missing bytes stay zero,
as in an array initialised to `[0u8; n]` before a copy. -/
def ofList (n : Nat) (bytes : List UInt8) : Octets n :=
  ⟨(bytes ++ List.replicate n 0).take n, by simp⟩

theorem ofList_take (n : Nat) (bytes : List UInt8) (long : n ≤ bytes.length) :
    (ofList n bytes).toList = bytes.take n := by
  simp [ofList, List.take_append_of_le_length long]

@[simp] theorem ofList_toList (octets : Octets n) : ofList n octets.toList = octets := by
  obtain ⟨bytes, rfl⟩ := octets
  simp [ofList]

@[simp] theorem ofList_take_self (bytes : List UInt8) : ofList n (bytes.take n) = ofList n bytes := by
  have prefixed : ((bytes.take n) ++ List.replicate n 0).take n = (bytes ++ List.replicate n 0).take n := by
    simp only [List.take_append, List.take_take, Nat.min_self, List.length_take]
    congr 2
    omega
  simp only [ofList, prefixed]

theorem ofList_append_of_length {front : List UInt8} (sized : front.length = n) (rest : List UInt8) :
    ofList n (front ++ rest) = ofList n front := by
  rw [← ofList_take_self, List.take_left' sized]

theorem ofList_take_append (octets : Octets n) (rest : List UInt8) :
    ofList n (octets.toList ++ rest) = octets := by
  obtain ⟨bytes, rfl⟩ := octets
  simp [ofList]

end Octets

namespace BigEndian

/-- The value of a byte string read most significant byte first, as
`u16::from_be_bytes` and `u32::from_be_bytes` read their arrays. -/
def value (bytes : List UInt8) : Nat :=
  bytes.foldl (fun acc byte => acc * 256 + byte.toNat) 0

/-- The `width` low bytes of `v`, most significant first, as `put_u16` and
`put_u32` write them. -/
def bytes : Nat → Nat → List UInt8
  | 0, _ => []
  | width + 1, v => bytes width (v / 256) ++ [UInt8.ofNat v]

@[simp] theorem length_bytes (width v : Nat) : (bytes width v).length = width := by
  induction width generalizing v with
  | zero => rfl
  | succ width ih => simp [bytes, ih]

private theorem foldl_from (acc : Nat) (xs : List UInt8) :
    xs.foldl (fun acc byte => acc * 256 + byte.toNat) acc = acc * 256 ^ xs.length + value xs := by
  induction xs generalizing acc with
  | nil => simp [value]
  | cons x xs ih =>
    simp only [List.foldl_cons, value, List.length_cons]
    rw [ih, ih (0 * 256 + x.toNat), pow_succ]
    ring

theorem value_append (xs ys : List UInt8) :
    value (xs ++ ys) = value xs * 256 ^ ys.length + value ys := by
  simp only [value, List.foldl_append]
  exact foldl_from _ ys

@[simp] theorem value_nil : value [] = 0 := rfl

@[simp] theorem value_singleton (byte : UInt8) : value [byte] = byte.toNat := by
  show 0 * 256 + byte.toNat = byte.toNat
  omega

theorem value_lt (xs : List UInt8) : value xs < 256 ^ xs.length := by
  induction xs using List.reverseRecOn with
  | nil => simp
  | append_singleton xs x ih =>
    have hx : x.toNat < 256 := x.toNat_lt
    rw [value_append, value_singleton, List.length_append, List.length_singleton, pow_one, pow_succ]
    nlinarith

theorem value_bytes (width v : Nat) (small : v < 256 ^ width) : value (bytes width v) = v := by
  induction width generalizing v with
  | zero => simp at small; simp [bytes, small]
  | succ width ih =>
    have quotient : v / 256 < 256 ^ width := by
      rw [Nat.div_lt_iff_lt_mul (by decide)]
      simpa [pow_succ] using small
    simp only [bytes, value_append, ih _ quotient, List.length_singleton, pow_one, value_singleton,
      UInt8.toNat_ofNat']
    omega

theorem bytes_value (xs : List UInt8) : bytes xs.length (value xs) = xs := by
  induction xs using List.reverseRecOn with
  | nil => rfl
  | append_singleton xs x ih =>
    have hx := x.toNat_lt
    have quotient : (value xs * 256 + x.toNat) / 256 = value xs := by omega
    rw [value_append, List.length_append, List.length_singleton, value_singleton, pow_one, bytes,
      quotient, ih]
    congr
    apply UInt8.toNat_inj.mp
    simp only [UInt8.toNat_ofNat']
    omega

@[simp] theorem drop_bytes_append (width v : Nat) (rest : List UInt8) : (bytes width v ++ rest).drop width = rest :=
  List.drop_left' (length_bytes width v)

theorem drop_bytes_bytes_append (a b : Nat) (rest : List UInt8) : (bytes 2 a ++ (bytes 2 b ++ rest)).drop 4 = rest := by
  rw [show 4 = 2 + 2 from rfl, ← List.drop_drop, drop_bytes_append, drop_bytes_append]

def getU16 (hi lo : UInt8) : UInt16 := UInt16.ofNat (value [hi, lo])

def putU16 (v : UInt16) : List UInt8 := bytes 2 v.toNat

@[simp] theorem length_putU16 (v : UInt16) : (putU16 v).length = 2 := by simp [putU16]

theorem putU16_eq (v : UInt16) : ∃ hi lo, putU16 v = [hi, lo] ∧ getU16 hi lo = v := by
  have small : v.toNat < 256 ^ 2 := by simpa using v.toNat_lt
  match h : putU16 v with
  | [hi, lo] =>
    refine ⟨hi, lo, rfl, ?_⟩
    rw [getU16, ← h, putU16, value_bytes 2 _ small, UInt16.ofNat_toNat]
  | [] | [_] | _ :: _ :: _ :: _ => simpa using congrArg List.length h

end BigEndian

namespace Utf8

/-- `String::from_utf8`: the text a byte string encodes, if it is valid UTF-8
(shortest forms, no surrogates, nothing above U+10FFFF). -/
def decode (bytes : List UInt8) : Option String := String.fromUTF8? ⟨bytes.toArray⟩

def encode (text : String) : List UInt8 := text.toByteArray.data.toList

theorem decode_eq_some_iff (bytes : List UInt8) (text : String) :
    decode bytes = some text ↔ encode text = bytes := by
  unfold decode encode String.fromUTF8?
  constructor
  · intro found
    split at found
    · cases found
      rfl
    · cases found
  · intro same
    subst same
    have valid : (⟨text.toByteArray.data.toList.toArray⟩ : ByteArray).IsValidUTF8 := text.isValidUTF8
    rw [dif_pos valid]
    rfl

@[simp] theorem decode_encode (text : String) : decode (encode text) = some text :=
  (decode_eq_some_iff _ _).mpr rfl

theorem length_encode (text : String) : (encode text).length = text.utf8ByteSize := by
  simp only [encode, Array.length_toList, ByteArray.size_data, String.size_toByteArray]

-- `str::find` with a `&str` pattern: the byte offset of the first match
def find (haystack needle : String) : Option Nat :=
  (List.range ((encode haystack).length + 1)).find? fun offset =>
    decide (encode needle <+: (encode haystack).drop offset)

end Utf8

namespace Except

variable {ε ε' α β : Type}

theorem bind_eq_ok_iff {x : Except ε α} {f : α → Except ε β} {b : β} :
    (x >>= f) = .ok b ↔ ∃ a, x = .ok a ∧ f a = .ok b := by
  cases x with
  | error e => simp [bind, Except.bind]
  | ok a => simp [bind, Except.bind]

/-- What follows a `throw` in a `do` block is never run. Rewriting with this before
the block's join points are unfolded keeps each of them in one place. -/
@[simp] theorem throw_bind (e : ε) (f : α → Except ε β) : (throw e >>= f : Except ε β) = throw e := rfl

@[simp] theorem mapError_eq_ok_iff {x : Except ε α} {g : ε → ε'} {a : α} :
    x.mapError g = .ok a ↔ x = .ok a := by
  cases x <;> simp [Except.mapError]

end Except
