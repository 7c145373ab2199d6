import XrayLite.Lib.Octets

/-! The write half of `TlsStream` (`src/transport/reality/stream.rs`) and the
record it seals with `TlsKeys::encrypt_server_record` (`crypto.rs`).

`poll_write` only copies the caller's bytes into `write_buffer`, unless the
buffer and the write together pass 14336 bytes: then the buffer is flushed
first. A flush seals the whole buffer into one record under the next write
sequence number and hands it to the socket in one `poll_write`. The AEAD is
`ring`'s AES-128-GCM; it enters as a structure with the two laws the record
layer relies on, so that a key breaking them cannot be built.
-/

set_option autoImplicit false

namespace XrayLite.Reality

def tagLen : Nat := 16

/-- `aead::LessSafeKey`: sealing appends a tag, and opening with the same nonce
and additional data gives the plaintext back. -/
structure Aead where
  sealAppendTag : List UInt8 → List UInt8 → List UInt8 → List UInt8
  openInPlace : List UInt8 → List UInt8 → List UInt8 → Option (List UInt8)
  length_sealAppendTag : ∀ nonce aad plaintext,
    (sealAppendTag nonce aad plaintext).length = plaintext.length + tagLen
  openInPlace_sealAppendTag : ∀ nonce aad plaintext,
    openInPlace nonce aad (sealAppendTag nonce aad plaintext) = some plaintext

structure ServerKeys where
  serverWriteKey : Aead
  serverIv : Octets 12

/-- `server_iv[i] ^ padded_seq[i]`, with the sequence number big-endian in the
last eight of twelve bytes. -/
def recordNonce (iv : Octets 12) (seq : Nat) : List UInt8 :=
  List.zipWith (· ^^^ ·) iv.toList (List.replicate 4 0 ++ BigEndian.bytes 8 seq)

/-- `encrypt_server_record`. Neither of its errors can happen: the nonce has 12
bytes, and `seal_in_place_append_tag` refuses only inputs of gigabytes. -/
def encryptServerRecord (keys : ServerKeys) (seq : Nat) (plaintext : List UInt8) (contentType : UInt8) :
    List UInt8 :=
  let buffer := plaintext ++ [contentType]
  let encryptedLen := buffer.length + tagLen
  -- `encrypted_len as u16` keeps the low 16 bits
  let header := [23, 0x03, 0x03] ++ BigEndian.bytes 2 (encryptedLen % 65536)
  header ++ keys.serverWriteKey.sealAppendTag (recordNonce keys.serverIv seq) header buffer

inductive Poll (α : Type) where
  | ready (value : α)
  | pending
  deriving DecidableEq, Repr

inductive WriteError where
  -- the socket's own error
  | socket
  -- "Partial TLS record write"
  | partialRecord
  deriving DecidableEq, Repr

/-- What the socket's `poll_write` does with the bytes it is handed:
`Ready(Ok(n))` after taking the first `n`, `Ready(Err(_))`, or `Pending`. -/
inductive SocketWrite where
  | ready (n : Nat)
  | failed
  | pending
  deriving DecidableEq, Repr

abbrev Socket := List UInt8 → SocketWrite

/-- The write half of a `TlsStream`, with the bytes the socket has taken. -/
structure WriteHalf where
  writeBuffer : List UInt8
  -- `u64`; it would take 2^64 records to wrap
  writeSeq : Nat
  sent : List UInt8
  deriving DecidableEq, Repr

def WriteHalf.initial : WriteHalf := ⟨[], 0, []⟩

def flushWriteBuffer (keys : ServerKeys) (socket : Socket) (s : WriteHalf) :
    Poll (Except WriteError Unit) × WriteHalf :=
  if s.writeBuffer.isEmpty then (.ready (.ok ()), s)
  else
    let encryptedRecord := encryptServerRecord keys s.writeSeq s.writeBuffer 23
    match socket encryptedRecord with
    | .ready n =>
      let s := { s with sent := s.sent ++ encryptedRecord.take n }
      if n < encryptedRecord.length then (.ready (.error .partialRecord), s)
      else (.ready (.ok ()), { s with writeSeq := s.writeSeq + 1, writeBuffer := [] })
    | .failed => (.ready (.error .socket), s)
    | .pending => (.pending, s)

def pollWrite (keys : ServerKeys) (socket : Socket) (buf : List UInt8) (s : WriteHalf) :
    Poll (Except WriteError Nat) × WriteHalf :=
  if s.writeBuffer.length + buf.length > 14336 then
    match flushWriteBuffer keys socket s with
    | (.ready (.error e), s) => (.ready (.error e), s)
    | (_, s) =>
      -- a flush that did not empty the buffer takes nothing more
      if !s.writeBuffer.isEmpty then (.pending, s)
      else (.ready (.ok buf.length), { s with writeBuffer := s.writeBuffer ++ buf })
  else (.ready (.ok buf.length), { s with writeBuffer := s.writeBuffer ++ buf })

def flushThen (keys : ServerKeys) (socket : Socket) (after : Poll (Except WriteError Unit)) (s : WriteHalf) :
    Poll (Except WriteError Unit) × WriteHalf :=
  match flushWriteBuffer keys socket s with
  | (.ready (.ok ()), s) => (after, s)
  | flushed => flushed

def pollFlush (keys : ServerKeys) (socket : Socket) (socketFlush : Poll (Except WriteError Unit)) (s : WriteHalf) :
    Poll (Except WriteError Unit) × WriteHalf :=
  flushThen keys socket socketFlush s

def pollShutdown (keys : ServerKeys) (socket : Socket) (socketShutdown : Poll (Except WriteError Unit))
    (s : WriteHalf) : Poll (Except WriteError Unit) × WriteHalf :=
  flushThen keys socket socketShutdown s

inductive WriteCall where
  | write (buf : List UInt8) (socket : Socket)
  | flush (socket : Socket) (socketFlush : Poll (Except WriteError Unit))
  | shutdown (socket : Socket) (socketShutdown : Poll (Except WriteError Unit))

def WriteCall.step (keys : ServerKeys) : WriteCall → WriteHalf → List UInt8 × WriteHalf
  | .write buf socket, s =>
    match pollWrite keys socket buf s with
    | (.ready (.ok _), s) => (buf, s)
    | (_, s) => ([], s)
  | .flush socket socketFlush, s => ([], (pollFlush keys socket socketFlush s).2)
  | .shutdown socket socketShutdown, s => ([], (pollShutdown keys socket socketShutdown s).2)

def run (keys : ServerKeys) : List WriteCall → WriteHalf → List UInt8 × WriteHalf
  | [], s => ([], s)
  | call :: calls, s =>
    let (taken, s) := call.step keys s
    let (more, s) := run keys calls s
    (taken ++ more, s)

/-! ### The record

A record is its five header bytes and the sealed plaintext with its content
type. The header's length field is the sealed length modulo 2^16, which is the
sealed length itself exactly when the plaintext is shorter than 65519 bytes.
-/

section Record

variable (keys : ServerKeys) (seq : Nat) (plaintext : List UInt8) (contentType : UInt8)

def lengthField (record : List UInt8) : Nat := BigEndian.value ((record.take 5).drop 3)

theorem take_encryptServerRecord :
    (encryptServerRecord keys seq plaintext contentType).take 5 =
      [23, 0x03, 0x03] ++ BigEndian.bytes 2 ((plaintext.length + 1 + tagLen) % 65536) := by
  simp [encryptServerRecord]

theorem drop_encryptServerRecord :
    (encryptServerRecord keys seq plaintext contentType).drop 5 =
      keys.serverWriteKey.sealAppendTag (recordNonce keys.serverIv seq)
        ((encryptServerRecord keys seq plaintext contentType).take 5) (plaintext ++ [contentType]) := by
  rw [take_encryptServerRecord]
  simp [encryptServerRecord]

theorem length_encryptServerRecord :
    (encryptServerRecord keys seq plaintext contentType).length = 5 + (plaintext.length + 1 + tagLen) := by
  simp [encryptServerRecord, keys.serverWriteKey.length_sealAppendTag]
  omega

theorem lengthField_encryptServerRecord :
    lengthField (encryptServerRecord keys seq plaintext contentType) = (plaintext.length + 1 + tagLen) % 65536 := by
  have small : (plaintext.length + 1 + tagLen) % 65536 < 256 ^ 2 := Nat.mod_lt _ (by decide)
  rw [lengthField, take_encryptServerRecord]
  exact BigEndian.value_bytes 2 _ small

theorem length_drop_encryptServerRecord :
    ((encryptServerRecord keys seq plaintext contentType).drop 5).length = plaintext.length + 1 + tagLen := by
  rw [drop_encryptServerRecord, keys.serverWriteKey.length_sealAppendTag, List.length_append, List.length_singleton]

/-- A peer holding the keys opens the record under its sequence number, with the
header as additional data, to the plaintext and its content type. -/
theorem openInPlace_encryptServerRecord :
    keys.serverWriteKey.openInPlace (recordNonce keys.serverIv seq)
        ((encryptServerRecord keys seq plaintext contentType).take 5)
        ((encryptServerRecord keys seq plaintext contentType).drop 5) =
      some (plaintext ++ [contentType]) := by
  rw [drop_encryptServerRecord, keys.serverWriteKey.openInPlace_sealAppendTag]

end Record

/-! ### One call

What a flush can do: nothing on an empty buffer; on a full one, send the sealed
buffer whole and move to the next sequence number, send a part of it, or leave
the state as it was. A write into an empty buffer is always taken whole, since
the flush it may start has nothing to do.
-/

section Calls

variable (keys : ServerKeys) (socket : Socket) (s : WriteHalf)

/-- A socket that takes what it is offered whole or not at all. -/
def Socket.Whole (socket : Socket) : Prop := ∀ bytes n, socket bytes = .ready n → bytes.length ≤ n

theorem flushWriteBuffer_nil (empty : s.writeBuffer = []) : flushWriteBuffer keys socket s = (.ready (.ok ()), s) := by
  simp [flushWriteBuffer, empty]

theorem flushWriteBuffer_sent (full : s.writeBuffer ≠ []) {n : Nat}
    (taken : socket (encryptServerRecord keys s.writeSeq s.writeBuffer 23) = .ready n)
    (whole : (encryptServerRecord keys s.writeSeq s.writeBuffer 23).length ≤ n) :
    flushWriteBuffer keys socket s =
      (.ready (.ok ()), ⟨[], s.writeSeq + 1, s.sent ++ encryptServerRecord keys s.writeSeq s.writeBuffer 23⟩) := by
  simp [flushWriteBuffer, List.isEmpty_iff, full, taken, Nat.not_lt.mpr whole, List.take_of_length_le whole]

theorem flushWriteBuffer_kept (full : s.writeBuffer ≠ [])
    (refused : socket (encryptServerRecord keys s.writeSeq s.writeBuffer 23) = .failed ∨
      socket (encryptServerRecord keys s.writeSeq s.writeBuffer 23) = .pending) :
    (flushWriteBuffer keys socket s).2 = s ∧ (flushWriteBuffer keys socket s).1 ≠ .ready (.ok ()) := by
  rcases refused with refused | refused <;> simp [flushWriteBuffer, List.isEmpty_iff, full, refused]

theorem flushWriteBuffer_cases (whole : socket.Whole) :
    s.writeBuffer = [] ∧ flushWriteBuffer keys socket s = (.ready (.ok ()), s) ∨
    s.writeBuffer ≠ [] ∧ flushWriteBuffer keys socket s =
      (.ready (.ok ()), ⟨[], s.writeSeq + 1, s.sent ++ encryptServerRecord keys s.writeSeq s.writeBuffer 23⟩) ∨
    s.writeBuffer ≠ [] ∧ (flushWriteBuffer keys socket s).2 = s ∧ (flushWriteBuffer keys socket s).1 ≠ .ready (.ok ()) := by
  by_cases empty : s.writeBuffer = []
  case pos => exact .inl ⟨empty, flushWriteBuffer_nil keys socket s empty⟩
  case neg =>
    cases offered : socket (encryptServerRecord keys s.writeSeq s.writeBuffer 23) with
    | ready n => exact .inr (.inl ⟨empty, flushWriteBuffer_sent keys socket s empty offered (whole _ n offered)⟩)
    | failed => exact .inr (.inr ⟨empty, flushWriteBuffer_kept keys socket s empty (.inl offered)⟩)
    | pending => exact .inr (.inr ⟨empty, flushWriteBuffer_kept keys socket s empty (.inr offered)⟩)

theorem pollWrite_of_nil (empty : s.writeBuffer = []) (buf : List UInt8) :
    pollWrite keys socket buf s = (.ready (.ok buf.length), { s with writeBuffer := buf }) := by
  unfold pollWrite
  rw [flushWriteBuffer_nil keys socket s empty]
  simp [empty]

theorem run_write_flush (data : List UInt8) (nonempty : data ≠ []) (socketFlush : Poll (Except WriteError Unit)) :
    run keys [.write data (fun bytes => .ready bytes.length), .flush (fun bytes => .ready bytes.length) socketFlush]
        .initial = (data, ⟨[], 1, encryptServerRecord keys 0 data 23⟩) := by
  have offered := pollWrite_of_nil keys (fun bytes => .ready bytes.length) .initial rfl data
  simp only [run, WriteCall.step, offered, pollFlush, flushThen]
  rw [flushWriteBuffer_sent _ _ _ nonempty rfl (Nat.le_refl _)]
  simp [WriteHalf.initial]

end Calls

/-- One write of 65519 bytes, then a flush, on a socket that takes what it is
offered: the write is taken whole and goes out as one record, whose plaintext
is far over the 2^14 bytes a TLS record may carry, and whose length field has
wrapped to 0 while 65536 bytes of ciphertext follow it. -/
theorem pollWrite_large_write_breaks_record (keys : ServerKeys) :
    run keys [.write (List.replicate 65519 0) (fun bytes => .ready bytes.length),
        .flush (fun bytes => .ready bytes.length) (.ready (.ok ()))] .initial =
      (List.replicate 65519 0, ⟨[], 1, encryptServerRecord keys 0 (List.replicate 65519 0) 23⟩) ∧
    keys.serverWriteKey.openInPlace (recordNonce keys.serverIv 0)
        ((encryptServerRecord keys 0 (List.replicate 65519 0) 23).take 5)
        ((encryptServerRecord keys 0 (List.replicate 65519 0) 23).drop 5) =
      some (List.replicate 65519 0 ++ [23]) ∧
    2 ^ 14 < (List.replicate 65519 (0 : UInt8)).length ∧
    lengthField (encryptServerRecord keys 0 (List.replicate 65519 0) 23) = 0 ∧
    ((encryptServerRecord keys 0 (List.replicate 65519 0) 23).drop 5).length = 65536 := by
  refine ⟨?_, openInPlace_encryptServerRecord keys 0 _ 23, by rw [List.length_replicate]; norm_num, ?_, ?_⟩
  case refine_1 => exact run_write_flush keys _ (List.ne_nil_of_length_pos (by rw [List.length_replicate]; decide)) _
  case refine_2 => rw [lengthField_encryptServerRecord, List.length_replicate, tagLen]
  case refine_3 => rw [length_drop_encryptServerRecord, List.length_replicate, tagLen]

end XrayLite.Reality
