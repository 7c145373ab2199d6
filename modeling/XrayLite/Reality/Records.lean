import XrayLite.Reality.Stream

/-! TLS 1.3 record protection (RFC 8446, section 5.2) as the peer of a
`TlsStream` applies it: what a record carries, and the bytes of records sealed
one after another under consecutive sequence numbers.

This is the description the read half is checked against and the write half
is shown to produce. A record carries a `TLSInnerPlaintext`: the content, its
real content type, which is never 0, and zero padding. The five header bytes
give the sealed length, which has to fit in their sixteen bits.
-/

set_option autoImplicit false

namespace XrayLite.Reality

/-- The identity cipher: sealing appends a tag of sixteen zero bytes, opening
drops the last sixteen bytes. It keeps both laws of `Aead`. -/
def Aead.clear : Aead where
  sealAppendTag _ _ plaintext := plaintext ++ List.replicate tagLen 0
  openInPlace _ _ sealed := some (sealed.take (sealed.length - tagLen))
  length_sealAppendTag _ _ plaintext := by simp
  openInPlace_sealAppendTag _ _ plaintext := by simp

/-- `TLSInnerPlaintext`: the content, its type, and `zeros` bytes of padding. -/
structure InnerPlaintext where
  content : List UInt8
  contentType : UInt8
  zeros : Nat
  typed : contentType ≠ 0
  fits : content.length + 1 + zeros + tagLen < 65536
  deriving DecidableEq

namespace InnerPlaintext

variable (inner : InnerPlaintext)

def encode : List UInt8 := inner.content ++ inner.contentType :: List.replicate inner.zeros 0

def header : List UInt8 := [23, 0x03, 0x03] ++ BigEndian.bytes 2 (inner.encode.length + tagLen)

def appData : List UInt8 := if inner.contentType = 23 then inner.content else []

def sealedLength : Nat := 5 + (inner.encode.length + tagLen)

@[simp] theorem length_encode : inner.encode.length = inner.content.length + 1 + inner.zeros := by
  simp [encode]
  omega

@[simp] theorem length_header : inner.header.length = 5 := by simp [header]

theorem value_header : BigEndian.value [inner.header.getD 3 0, inner.header.getD 4 0] = inner.encode.length + tagLen := by
  have small : inner.encode.length + tagLen < 256 ^ 2 := by
    rw [length_encode, show (256 : Nat) ^ 2 = 65536 from rfl]
    exact inner.fits
  obtain ⟨hi, lo, split⟩ := List.length_eq_two.mp (BigEndian.length_bytes 2 (inner.encode.length + tagLen))
  have field := BigEndian.value_bytes 2 _ small
  rw [split] at field
  rw [header, split]
  exact field

theorem getD_encode_content : inner.encode.getD inner.content.length 0 = inner.contentType := by
  simp [encode]

theorem getD_encode_padding {j : Nat} (inside : j < inner.zeros) :
    inner.encode.getD (inner.content.length + 1 + j) 0 = 0 := by
  rw [encode, List.getD_eq_getElem?_getD, List.getElem?_append_right (by omega),
    show inner.content.length + 1 + j - inner.content.length = j + 1 by omega]
  simp [inside]

end InnerPlaintext

section Sealing

variable (key : Aead) (iv : Octets 12)

/-- One record under sequence number `seq`: the header, then the inner plaintext
sealed with the header as additional data. -/
def sealRecord (seq : Nat) (inner : InnerPlaintext) : List UInt8 :=
  inner.header ++ key.sealAppendTag (recordNonce iv seq) inner.header inner.encode

/-- Records one after another, from sequence number `seq` on. -/
def sealRecords : Nat → List InnerPlaintext → List UInt8
  | _, [] => []
  | seq, inner :: inners => sealRecord key iv seq inner ++ sealRecords (seq + 1) inners

def appData (records : List InnerPlaintext) : List UInt8 := records.flatMap InnerPlaintext.appData

@[simp] theorem sealRecords_nil (seq : Nat) : sealRecords key iv seq [] = [] := rfl

@[simp] theorem sealRecords_cons (seq : Nat) (inner : InnerPlaintext) (inners : List InnerPlaintext) :
    sealRecords key iv seq (inner :: inners) = sealRecord key iv seq inner ++ sealRecords key iv (seq + 1) inners := rfl

@[simp] theorem appData_nil : appData [] = [] := rfl

@[simp] theorem appData_cons (inner : InnerPlaintext) (inners : List InnerPlaintext) :
    appData (inner :: inners) = inner.appData ++ appData inners := rfl

theorem appData_append (front back : List InnerPlaintext) : appData (front ++ back) = appData front ++ appData back :=
  List.flatMap_append

theorem appData_take_append_drop (records : List InnerPlaintext) (k : Nat) :
    appData (records.take k) ++ appData (records.drop k) = appData records := by
  rw [← appData_append, List.take_append_drop]

theorem sealRecords_append (seq : Nat) (front back : List InnerPlaintext) :
    sealRecords key iv seq (front ++ back) = sealRecords key iv seq front ++ sealRecords key iv (seq + front.length) back := by
  induction front generalizing seq with
  | nil => simp
  | cons inner front ih =>
    rw [List.cons_append, sealRecords_cons, sealRecords_cons, ih, List.length_cons, List.append_assoc]
    congr 3
    omega

theorem sealRecords_take_append_drop (seq : Nat) (records : List InnerPlaintext) {k : Nat} (within : k ≤ records.length) :
    sealRecords key iv seq records =
      sealRecords key iv seq (records.take k) ++ sealRecords key iv (seq + k) (records.drop k) := by
  conv => lhs; rw [← List.take_append_drop k records]
  rw [sealRecords_append, List.length_take_of_le within]

@[simp] theorem length_sealRecord (seq : Nat) (inner : InnerPlaintext) :
    (sealRecord key iv seq inner).length = inner.sealedLength := by
  simp [sealRecord, key.length_sealAppendTag, InnerPlaintext.sealedLength]

/-- A buffer whose first five bytes are those of a record reads the record's
sealed length from them, however much of the record it holds. -/
theorem value_of_sealed_front {input incoming more : List UInt8} {seq : Nat} {inner : InnerPlaintext}
    (joined : input ++ incoming = sealRecord key iv seq inner ++ more) (five : 5 ≤ input.length) :
    BigEndian.value [input.getD 3 0, input.getD 4 0] = inner.encode.length + tagLen := by
  have read : ∀ i, i < 5 → input.getD i 0 = inner.header.getD i 0 := by
    intro i small
    have same := congrArg (fun bytes => bytes.getD i 0) joined
    simp only [List.getD_eq_getElem?_getD] at same ⊢
    rw [List.getElem?_append_left (by omega), List.getElem?_append_left (by simp [InnerPlaintext.sealedLength]; omega),
      sealRecord, List.getElem?_append_left (by simp; omega)] at same
    exact same
  rw [read 3 (by decide), read 4 (by decide)]
  exact inner.value_header

theorem exists_append_of_sealed {input incoming rest : List UInt8} {seq : Nat} {inner : InnerPlaintext}
    (joined : input ++ incoming = sealRecord key iv seq inner ++ rest) (whole : inner.sealedLength ≤ input.length) :
    ∃ more, input = sealRecord key iv seq inner ++ more ∧ more ++ incoming = rest := by
  rcases List.append_eq_append_iff.mp joined with ⟨extra, longer, _⟩ | ⟨more, split, after⟩
  case inl =>
    have sized := congrArg List.length longer
    simp only [List.length_append, length_sealRecord] at sized
    have none : extra = [] := List.eq_nil_of_length_eq_zero (by omega)
    subst none
    exact ⟨[], by simpa using longer.symm, by simp_all⟩
  case inr => exact ⟨more, split, after.symm⟩

theorem sealRecords_drop_of_split {input incoming rest : List UInt8} {seq k : Nat} {records : List InnerPlaintext}
    (sealed : input ++ incoming = sealRecords key iv seq records) (within : k ≤ records.length)
    (split : input = sealRecords key iv seq (records.take k) ++ rest) :
    rest ++ incoming = sealRecords key iv (seq + k) (records.drop k) := by
  rw [sealRecords_take_append_drop key iv seq records within, split, List.append_assoc] at sealed
  exact List.append_cancel_left sealed

theorem eq_nil_of_unfinished {rest : List UInt8} {seq : Nat} {records : List InnerPlaintext}
    (sealed : rest ++ [] = sealRecords key iv seq records)
    (unfinished : ∀ inner ∈ records.head?, rest.length < inner.sealedLength) :
    records = [] ∧ rest = [] := by
  cases records with
  | nil => exact ⟨rfl, by simpa using sealed⟩
  | cons inner records =>
    have sized := congrArg List.length sealed
    simp only [List.append_nil, sealRecords_cons, List.length_append, length_sealRecord] at sized
    have := unfinished inner rfl
    omega

end Sealing

end XrayLite.Reality
