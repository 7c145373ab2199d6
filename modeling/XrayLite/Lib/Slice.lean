import XrayLite.Lib.Octets

/-! Slice access as Rust performs it.

`xs[i]` and `&xs[lo..hi]` panic when out of bounds; `xs.get(i)` returns an
`Option`. Code that indexes directly is modelled in `Except Panic`, so that
"never panics" is the statement that the result is never `.error`.

`bytes::Buf` on a `&[u8]` reads from the front of the slice: the cursor is the
list of bytes not yet read, and `get_*`, `advance` and `copy_to_slice` panic
when fewer are left than they take. A read returns what is left with its length
in its type, so that a loop reading on from it is seen to terminate.
-/

set_option autoImplicit false

inductive Panic where
  | outOfBounds
  deriving DecidableEq, Repr

/-- A check that a function and its model make alike: where it fails both return
the same value, so only the code after it is left to compare. -/
theorem Except.ite_ok {ε β : Type} {c : Prop} [Decidable c] {x other : β} {rest : Except ε β}
    (passes : ¬ c → rest = .ok other) : (if c then .ok x else rest) = .ok (if c then x else other) := by
  by_cases failed : c
  case pos => rw [if_pos failed, if_pos failed]
  case neg => rw [if_neg failed, if_neg failed, passes failed]

namespace Slice

variable {α : Type}

def index (xs : List α) (i : Nat) : Except Panic α :=
  match xs[i]? with
  | some x => .ok x
  | none => .error .outOfBounds

def range (xs : List α) (lo hi : Nat) : Except Panic (List α) :=
  if lo ≤ hi ∧ hi ≤ xs.length then .ok ((xs.take hi).drop lo) else .error .outOfBounds

/-- `u16::from_be_bytes([xs[i], xs[i + 1]])`, as a `usize`. -/
def be16At (xs : List UInt8) (i : Nat) : Except Panic Nat := do
  let hi ← index xs i
  let lo ← index xs (i + 1)
  pure (BigEndian.value [hi, lo])

/-- `array.copy_from_slice(src)` into a `[u8; n]`: it panics unless `src` has
exactly `n` bytes. -/
def copyFromSlice (n : Nat) (src : List UInt8) : Except Panic (Octets n) :=
  if sized : src.length = n then .ok ⟨src, sized⟩ else .error .outOfBounds

theorem copyFromSlice_of_length {n : Nat} {src : List UInt8} (sized : src.length = n) :
    copyFromSlice n src = .ok ⟨src, sized⟩ := by
  simp [copyFromSlice, sized]

theorem index_of_lt {xs : List α} {i : Nat} (inside : i < xs.length) : index xs i = .ok xs[i] := by
  simp [index, inside]

theorem index_eq_getD {xs : List α} {i : Nat} (inside : i < xs.length) (fallback : α) :
    index xs i = .ok (xs.getD i fallback) := by
  rw [index_of_lt inside, List.getD_eq_getElem]

theorem drop_eq_getD_cons {xs : List α} {i : Nat} (inside : i < xs.length) (fallback : α) :
    xs.drop i = xs.getD i fallback :: xs.drop (i + 1) := by
  rw [List.drop_eq_getElem_cons inside, List.getD_eq_getElem]

theorem range_of_le {xs : List α} {lo hi : Nat} (ordered : lo ≤ hi) (inside : hi ≤ xs.length) :
    range xs lo hi = .ok ((xs.take hi).drop lo) := by
  simp [range, ordered, inside]

theorem range_zero_of_le {xs : List α} {n : Nat} (inside : n ≤ xs.length) : range xs 0 n = .ok (xs.take n) := by
  rw [range_of_le (Nat.zero_le n) inside, List.drop_zero]

theorem range_length_of_le {xs : List α} {lo : Nat} (inside : lo ≤ xs.length) :
    range xs lo xs.length = .ok (xs.drop lo) := by
  rw [range_of_le inside (Nat.le_refl _), List.take_length]

theorem be16At_of_lt {xs : List UInt8} {i : Nat} (inside : i + 1 < xs.length) :
    be16At xs i = .ok (BigEndian.value [xs[i], xs[i + 1]]) := by
  simp [be16At, index_of_lt inside, index_of_lt (show i < xs.length by omega), bind, Except.bind,
    pure, Except.pure]

/-! Reads at a position where the slice is known from there on: a cursor that
walks encoded fields is a position together with the bytes left after it. -/

theorem drop_of_drop_eq {xs front rest : List α} {i j : Nat} (layout : xs.drop i = front ++ rest)
    (past : j = i + front.length) : xs.drop j = rest := by
  rw [past, ← List.drop_drop, layout, List.drop_left]

theorem drop_succ_of_drop_eq {xs rest : List α} {i : Nat} {x : α} (layout : xs.drop i = x :: rest) :
    xs.drop (i + 1) = rest :=
  drop_of_drop_eq (show xs.drop i = [x] ++ rest from layout) rfl

theorem drop_bytes_of_drop_eq {xs rest : List UInt8} {i width v : Nat}
    (layout : xs.drop i = BigEndian.bytes width v ++ rest) : xs.drop (i + width) = rest :=
  drop_of_drop_eq layout (by rw [BigEndian.length_bytes])

theorem getElem?_of_drop_eq {xs rest : List α} {i : Nat} {x : α} (layout : xs.drop i = x :: rest) :
    xs[i]? = some x := by
  have first := congrArg (·[0]?) layout
  simpa [List.getElem?_drop] using first

theorem length_sub_of_drop_eq {xs rest : List α} {i : Nat} (layout : xs.drop i = rest) :
    xs.length - i = rest.length := by
  rw [← List.length_drop, layout]

theorem index_of_drop_eq {xs rest : List α} {i : Nat} {x : α} (layout : xs.drop i = x :: rest) :
    index xs i = .ok x := by
  rw [index, getElem?_of_drop_eq layout]

theorem range_of_drop_eq {xs slice rest : List α} {lo : Nat} (layout : xs.drop lo = slice ++ rest)
    (within : lo ≤ xs.length) : range xs lo (lo + slice.length) = .ok slice := by
  have room := length_sub_of_drop_eq layout
  rw [List.length_append] at room
  rw [range_of_le (by omega) (by omega), List.drop_take, layout, Nat.add_sub_cancel_left, List.take_left]

theorem be16At_of_drop_eq {xs rest : List UInt8} {i n : Nat} (layout : xs.drop i = BigEndian.bytes 2 n ++ rest)
    (small : n < 65536) : be16At xs i = .ok n := by
  have digits : BigEndian.bytes 2 n = [UInt8.ofNat (n / 256), UInt8.ofNat n] := rfl
  rw [digits] at layout
  have second := drop_succ_of_drop_eq layout
  simp only [be16At, index_of_drop_eq layout, index_of_drop_eq second, bind, Except.bind, pure, Except.pure]
  rw [← digits, BigEndian.value_bytes 2 n (by omega)]

end Slice

namespace Buf

variable {α : Type}

/-- What is left of `cursor` once `n` items are read. -/
abbrev After (cursor : List α) (n : Nat) := {rest : List α // rest.length + n = cursor.length}

def advance (cursor : List α) (n : Nat) : Except Panic (After cursor n) :=
  if fits : n ≤ cursor.length then .ok ⟨cursor.drop n, by simp; omega⟩ else .error .outOfBounds

def copyToSlice (cursor : List α) (n : Nat) : Except Panic (List α × After cursor n) :=
  if fits : n ≤ cursor.length then .ok (cursor.take n, ⟨cursor.drop n, by simp; omega⟩) else .error .outOfBounds

def getU8 : (cursor : List UInt8) → Except Panic (UInt8 × After cursor 1)
  | byte :: rest => .ok (byte, ⟨rest, rfl⟩)
  | [] => .error .outOfBounds

def getU16 : (cursor : List UInt8) → Except Panic (Nat × After cursor 2)
  | hi :: lo :: rest => .ok (BigEndian.value [hi, lo], ⟨rest, rfl⟩)
  | _ => .error .outOfBounds

theorem getU16_of_le {cursor : List UInt8} (fits : 2 ≤ cursor.length) :
    getU16 cursor = .ok (BigEndian.value (cursor.take 2), ⟨cursor.drop 2, by simp; omega⟩) := by
  match cursor, fits with
  | hi :: lo :: rest, _ => rfl

theorem advance_of_le {cursor : List α} {n : Nat} (fits : n ≤ cursor.length) :
    advance cursor n = .ok ⟨cursor.drop n, by simp; omega⟩ := by
  simp [advance, fits]

theorem copyToSlice_of_le {cursor : List α} {n : Nat} (fits : n ≤ cursor.length) :
    copyToSlice cursor n = .ok (cursor.take n, ⟨cursor.drop n, by simp; omega⟩) := by
  simp [copyToSlice, fits]

/-! A cursor that starts with the bytes a read takes: the read returns them and
leaves the cursor on what follows. -/

theorem exists_append_of_le {cursor : List α} {n : Nat} (fits : n ≤ cursor.length) :
    ∃ front rest, cursor = front ++ rest ∧ front.length = n :=
  ⟨cursor.take n, cursor.drop n, (List.take_append_drop n cursor).symm, List.length_take_of_le fits⟩

theorem exists_cons_cons_of_le {cursor : List α} (fits : 2 ≤ cursor.length) : ∃ hi lo rest, cursor = hi :: lo :: rest := by
  match cursor, fits with
  | hi :: lo :: rest, _ => exact ⟨hi, lo, rest, rfl⟩

@[simp] theorem getU8_cons (byte : UInt8) (rest : List UInt8) : getU8 (byte :: rest) = .ok (byte, ⟨rest, rfl⟩) :=
  rfl

@[simp] theorem getU16_cons (hi lo : UInt8) (rest : List UInt8) :
    getU16 (hi :: lo :: rest) = .ok (BigEndian.value [hi, lo], ⟨rest, rfl⟩) :=
  rfl

theorem advance_append {front rest : List α} {n : Nat} (sized : front.length = n) :
    advance (front ++ rest) n = .ok ⟨rest, by simp [sized]; omega⟩ := by
  simp [advance_of_le (show n ≤ (front ++ rest).length by simp; omega), List.drop_left' sized]

theorem copyToSlice_append {front rest : List α} {n : Nat} (sized : front.length = n) :
    copyToSlice (front ++ rest) n = .ok (front, ⟨rest, by simp [sized]; omega⟩) := by
  simp [copyToSlice_of_le (show n ≤ (front ++ rest).length by simp; omega), List.drop_left' sized,
    List.take_left' sized]

end Buf

/-! `bytes::Buf` on a `std::io::Cursor` over a slice: the cursor is a position,
which `set_position` moves anywhere, and a read past the end panics. -/

namespace Cursor

variable {α : Type}

def copyToSlice (data : List α) (pos n : Nat) : Except Panic (List α) :=
  if data.length - pos < n then .error .outOfBounds else .ok ((data.drop pos).take n)

theorem copyToSlice_of_le {data : List α} {pos n : Nat} (fits : pos + n ≤ data.length) :
    copyToSlice data pos n = .ok ((data.drop pos).take n) := by
  simp [copyToSlice]
  omega

theorem copyToSlice_of_drop_eq {data front rest : List α} {pos n : Nat} (layout : data.drop pos = front ++ rest)
    (sized : front.length = n) : copyToSlice data pos n = .ok front := by
  have room := Slice.length_sub_of_drop_eq layout
  rw [List.length_append] at room
  rw [copyToSlice, if_neg (by omega), layout, ← sized, List.take_left]

end Cursor
