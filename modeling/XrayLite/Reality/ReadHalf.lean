import XrayLite.Reality.Records

/-! The read half of `TlsStream` (`src/transport/reality/stream.rs`) and the
record opening it calls, `TlsKeys::decrypt_client_record` (`crypto.rs`).

`poll_read` first hands out what is left of the decrypted buffer. Otherwise it
loops: `process_record` splits the first whole record off the input buffer and
opens it under the next read sequence number, and only when no whole record is
buffered does the loop read from the socket. A record of any type but
application data is opened and dropped. At the end of the socket's stream, a
partial record left in the buffer is an error.
-/

set_option autoImplicit false

namespace XrayLite.Reality

structure ClientKeys where
  clientWriteKey : Aead
  clientIv : Octets 12

inductive ReadError where
  -- "Decryption failed"
  | decryptionFailed
  -- "Empty plaintext"
  | emptyPlaintext
  -- "Incomplete TLS record", `UnexpectedEof`
  | incompleteRecord
  -- the socket's own error
  | socket
  deriving DecidableEq, Repr

def skipPadding (plaintext : List UInt8) : Nat → Nat
  | 0 => 0
  | scanIdx + 1 => if plaintext.getD (scanIdx + 1) 0 = 0 then skipPadding plaintext scanIdx else scanIdx + 1

/-- `decrypt_client_record`: the content type and the content's length, with the
plaintext that `open_in_place` leaves at the front of the buffer. The scan
starts at the plaintext's last byte, so every index it reads is in bounds. -/
def decryptClientRecord (keys : ClientKeys) (seq : Nat) (header ciphertext : List UInt8) :
    Except ReadError (UInt8 × Nat × List UInt8) :=
  match keys.clientWriteKey.openInPlace (recordNonce keys.clientIv seq) header ciphertext with
  | none => .error .decryptionFailed
  | some plaintext =>
    if plaintext.length = 0 then .error .emptyPlaintext
    else
      let scanIdx := skipPadding plaintext (plaintext.length - 1)
      .ok (plaintext.getD scanIdx 0, scanIdx, plaintext)

structure ReadHalf where
  inputBuffer : List UInt8
  decryptedBuffer : List UInt8
  -- `u64`; it would take 2^64 records to wrap
  readSeq : Nat
  deriving DecidableEq, Repr

def ReadHalf.initial (initialData : List UInt8) : ReadHalf := ⟨initialData, [], 0⟩

/-- `process_record`: `Ok(false)` while no whole record is buffered. The record
is split off the buffer before it is opened, so one that fails to open is gone
as well. -/
def processRecord (keys : ClientKeys) (s : ReadHalf) : Except ReadError Bool × ReadHalf :=
  if s.inputBuffer.length < 5 then (.ok false, s)
  else
    let length := BigEndian.value [s.inputBuffer.getD 3 0, s.inputBuffer.getD 4 0]
    if s.inputBuffer.length < 5 + length then (.ok false, s)
    else
      let recordData := s.inputBuffer.take (5 + length)
      let s := { s with inputBuffer := s.inputBuffer.drop (5 + length) }
      match decryptClientRecord keys s.readSeq (recordData.take 5) (recordData.drop 5) with
      | .error error => (.error error, s)
      | .ok (contentType, len, plaintext) =>
        let s := { s with readSeq := s.readSeq + 1 }
        -- an alert, `close_notify` among them, is dropped like any other record
        if contentType = 23 then (.ok true, { s with decryptedBuffer := s.decryptedBuffer ++ plaintext.take len })
        else (.ok true, s)

theorem length_inputBuffer_processRecord_lt (keys : ClientKeys) (s : ReadHalf)
    (processed : (processRecord keys s).1 = .ok true) :
    (processRecord keys s).2.inputBuffer.length < s.inputBuffer.length := by
  delta processRecord at processed ⊢
  split at processed
  case isTrue => simp at processed
  case isFalse long =>
    dsimp only at processed ⊢
    split at processed
    case isTrue => simp at processed
    case isFalse whole =>
      have shorter : (s.inputBuffer.drop (5 + BigEndian.value [s.inputBuffer.getD 3 0, s.inputBuffer.getD 4 0])).length <
          s.inputBuffer.length := by
        rw [List.length_drop]
        omega
      rw [if_neg long, if_neg whole]
      split
      case h_1 => exact shorter
      case h_2 => split <;> exact shorter

-- `processed` is used by `decreasing_by`, which the linter does not see
set_option linter.unusedVariables false in
/-- `poll_read`'s loop on what is buffered: records are processed until one
leaves decrypted bytes, or no whole record is left. -/
def processRecords (keys : ClientKeys) (s : ReadHalf) : Except ReadError Bool × ReadHalf :=
  match processed : processRecord keys s with
  | (.ok true, next) => if next.decryptedBuffer.isEmpty then processRecords keys next else (.ok true, next)
  | result => result
termination_by s.inputBuffer.length
decreasing_by
  have shorter := length_inputBuffer_processRecord_lt keys s (by rw [processed])
  rw [processed] at shorter
  exact shorter

/-- What the socket's `poll_read` does: `Ready(Ok(()))` with the bytes it put in
the buffer, none at the end of its stream; `Ready(Err(_))`; or `Pending`. -/
inductive SocketRead where
  | ready (bytes : List UInt8)
  | failed
  | pending
  deriving DecidableEq, Repr

def deliver (capacity : Nat) (s : ReadHalf) : List UInt8 × ReadHalf :=
  (s.decryptedBuffer.take capacity, { s with decryptedBuffer := s.decryptedBuffer.drop capacity })

def endOfStream (s : ReadHalf) : Poll (Except ReadError (List UInt8)) :=
  if s.inputBuffer.isEmpty then .ready (.ok []) else .ready (.error .incompleteRecord)

/-- The `loop` of `poll_read`, given the socket's answers to its reads in turn;
when they run out, the socket's stream has ended. What is left of the answers
comes back with the result. -/
def readLoop (keys : ClientKeys) (capacity : Nat) (answers : List SocketRead) (s : ReadHalf) :
    Poll (Except ReadError (List UInt8)) × ReadHalf × List SocketRead :=
  match processRecords keys s with
  | (.error error, s) => (.ready (.error error), s, answers)
  | (.ok true, s) => (.ready (.ok (deliver capacity s).1), (deliver capacity s).2, answers)
  | (.ok false, s) =>
    match answers with
    | [] => (endOfStream s, s, [])
    | .ready [] :: answers => (endOfStream s, s, answers)
    | .ready bytes :: answers => readLoop keys capacity answers { s with inputBuffer := s.inputBuffer ++ bytes }
    | .failed :: answers => (.ready (.error .socket), s, answers)
    | .pending :: answers => (.pending, s, answers)

def pollRead (keys : ClientKeys) (capacity : Nat) (answers : List SocketRead) (s : ReadHalf) :
    Poll (Except ReadError (List UInt8)) × ReadHalf × List SocketRead :=
  if s.decryptedBuffer.isEmpty then readLoop keys capacity answers s
  else (.ready (.ok (deliver capacity s).1), (deliver capacity s).2, answers)

/-! ### The loop's steps

Each of `processRecords` and `readLoop` is unfolded once here, by what the step
before it returned; later proofs cite these and never the definitions. -/

section Steps

variable {keys : ClientKeys} {s next : ReadHalf}

theorem processRecord_of_short (short : s.inputBuffer.length < 5) : processRecord keys s = (.ok false, s) := by
  delta processRecord
  rw [if_pos short]

theorem processRecords_of_processed {result : Except ReadError Bool} (processed : processRecord keys s = (result, next)) :
    processRecords keys s =
      if result = .ok true ∧ next.decryptedBuffer = [] then processRecords keys next else (result, next) := by
  rw [processRecords]
  split <;> simp_all

theorem processRecords_of_false (processed : processRecord keys s = (.ok false, next)) :
    processRecords keys s = (.ok false, next) := by
  rw [processRecords_of_processed processed, if_neg (by simp)]

theorem processRecords_of_data (processed : processRecord keys s = (.ok true, next)) (data : next.decryptedBuffer ≠ []) :
    processRecords keys s = (.ok true, next) := by
  rw [processRecords_of_processed processed, if_neg (by simp [data])]

theorem processRecords_of_nil (processed : processRecord keys s = (.ok true, next)) (empty : next.decryptedBuffer = []) :
    processRecords keys s = processRecords keys next := by
  rw [processRecords_of_processed processed, if_pos ⟨rfl, empty⟩]

theorem processRecord_of_false (processed : processRecord keys s = (.ok false, next)) : next = s := by
  delta processRecord at processed
  split at processed
  case isTrue => exact (Prod.mk.inj processed).2.symm
  case isFalse =>
    dsimp only at processed
    split at processed
    case isTrue => exact (Prod.mk.inj processed).2.symm
    case isFalse =>
      split at processed
      case h_1 => simp at processed
      case h_2 => split at processed <;> simp at processed

theorem decryptedBuffer_prefix_processRecord : s.decryptedBuffer <+: (processRecord keys s).2.decryptedBuffer := by
  delta processRecord
  split
  case isTrue => exact List.prefix_refl _
  case isFalse =>
    dsimp only
    split
    case isTrue => exact List.prefix_refl _
    case isFalse =>
      split
      case h_1 => exact List.prefix_refl _
      case h_2 => split <;> simp

theorem decryptedBuffer_processRecords_of_true (processed : processRecords keys s = (.ok true, next)) :
    next.decryptedBuffer ≠ [] := by
  fun_induction processRecords keys s
  case case1 ih => exact ih processed
  case case2 nonempty =>
    rw [← (Prod.mk.inj processed).2]
    simpa [List.isEmpty_iff] using nonempty
  case case3 s' never => exact (never next processed).elim

theorem decryptedBuffer_processRecords_of_false (processed : processRecords keys s = (.ok false, next)) :
    next.decryptedBuffer = s.decryptedBuffer := by
  fun_induction processRecords keys s
  case case1 s' after step empty ih =>
    have grown : s'.decryptedBuffer <+: after.decryptedBuffer := by
      have extended : s'.decryptedBuffer <+: (processRecord keys s').2.decryptedBuffer :=
        decryptedBuffer_prefix_processRecord
      rwa [step] at extended
    rw [List.isEmpty_iff] at empty
    rw [empty] at grown
    rw [ih processed, empty]
    exact (List.prefix_nil.mp grown).symm
  case case2 => simp at processed
  case case3 => rw [processRecord_of_false processed]

variable (capacity : Nat) (answers : List SocketRead)

theorem readLoop_of_data (processed : processRecords keys s = (.ok true, next)) :
    readLoop keys capacity answers s = (.ready (.ok (deliver capacity next).1), (deliver capacity next).2, answers) := by
  rw [readLoop, processed]

theorem readLoop_of_error {error : ReadError} (processed : processRecords keys s = (.error error, next)) :
    readLoop keys capacity answers s = (.ready (.error error), next, answers) := by
  rw [readLoop, processed]

theorem readLoop_of_false (processed : processRecords keys s = (.ok false, next)) :
    readLoop keys capacity answers s =
      match answers with
      | [] => (endOfStream next, next, [])
      | .ready [] :: answers => (endOfStream next, next, answers)
      | .ready bytes :: answers => readLoop keys capacity answers { next with inputBuffer := next.inputBuffer ++ bytes }
      | .failed :: answers => (.ready (.error .socket), next, answers)
      | .pending :: answers => (.pending, next, answers) := by
  rw [readLoop, processed]

theorem readLoop_of_eof (processed : processRecords keys s = (.ok false, next)) :
    readLoop keys capacity (.ready [] :: answers) s = (endOfStream next, next, answers) := by
  rw [readLoop_of_false capacity _ processed]

theorem readLoop_of_failed (processed : processRecords keys s = (.ok false, next)) :
    readLoop keys capacity (.failed :: answers) s = (.ready (.error .socket), next, answers) := by
  rw [readLoop_of_false capacity _ processed]

theorem readLoop_of_pending (processed : processRecords keys s = (.ok false, next)) :
    readLoop keys capacity (.pending :: answers) s = (.pending, next, answers) := by
  rw [readLoop_of_false capacity _ processed]

theorem readLoop_of_end (processed : processRecords keys s = (.ok false, next)) :
    readLoop keys capacity [] s = (endOfStream next, next, []) := by
  rw [readLoop_of_false capacity _ processed]

theorem readLoop_of_bytes (processed : processRecords keys s = (.ok false, next)) {bytes : List UInt8}
    (arrived : bytes ≠ []) :
    readLoop keys capacity (.ready bytes :: answers) s =
      readLoop keys capacity answers { next with inputBuffer := next.inputBuffer ++ bytes } := by
  obtain ⟨byte, bytes, rfl⟩ := List.exists_cons_of_ne_nil arrived
  rw [readLoop_of_false capacity _ processed]

end Steps

/-! ### The end of the stream

Whatever the socket and whatever the buffered bytes, a call that is ready,
succeeds and hands out nothing, which is how the end of the stream reads to
the caller, leaves nothing buffered: a stream cut inside a record is an error,
never a clean end. -/

section End

variable {keys : ClientKeys} {capacity : Nat}

theorem deliver_ne_nil_of_true (positive : 0 < capacity) {s next : ReadHalf}
    (processed : processRecords keys s = (.ok true, next)) : (deliver capacity next).1 ≠ [] := by
  intro none
  rcases List.take_eq_nil_iff.mp none with zero | empty
  case inl => omega
  case inr => exact decryptedBuffer_processRecords_of_true processed empty

theorem endOfStream_ended {s : ReadHalf} (ended : endOfStream s = .ready (.ok [])) : s.inputBuffer = [] := by
  unfold endOfStream at ended
  split at ended
  case isTrue empty => exact List.isEmpty_iff.mp empty
  case isFalse => simp at ended

theorem readLoop_not_ended (positive : 0 < capacity) (answers : List SocketRead) {s next : ReadHalf}
    {result : Except ReadError Bool} (processed : processRecords keys s = (result, next)) (going : result ≠ .ok false) :
    (readLoop keys capacity answers s).1 ≠ .ready (.ok []) := by
  rcases result with error | _ | _
  case error => simp [readLoop_of_error capacity answers processed]
  case ok.true =>
    rw [readLoop_of_data capacity answers processed]
    simpa using deliver_ne_nil_of_true positive processed
  case ok.false => exact absurd rfl going

theorem readLoop_ends_at_boundary (positive : 0 < capacity) (answers : List SocketRead) (s : ReadHalf)
    (fresh : s.decryptedBuffer = []) (ended : (readLoop keys capacity answers s).1 = .ready (.ok [])) :
    (readLoop keys capacity answers s).2.1.inputBuffer = [] ∧ (readLoop keys capacity answers s).2.1.decryptedBuffer = [] := by
  induction answers generalizing s with
  | nil =>
    cases processed : processRecords keys s with
    | mk result next =>
      by_cases going : result = .ok false
      case neg => exact absurd ended (readLoop_not_ended positive [] processed going)
      subst going
      rw [readLoop_of_end capacity processed] at ended ⊢
      exact ⟨endOfStream_ended ended, (decryptedBuffer_processRecords_of_false processed).trans fresh⟩
  | cons answer answers ih =>
    cases processed : processRecords keys s with
    | mk result next =>
      by_cases going : result = .ok false
      case neg => exact absurd ended (readLoop_not_ended positive _ processed going)
      subst going
      have kept := (decryptedBuffer_processRecords_of_false processed).trans fresh
      rcases answer with _ | _ | _
      case ready bytes =>
        cases bytes with
        | nil =>
          rw [readLoop_of_eof capacity answers processed] at ended ⊢
          exact ⟨endOfStream_ended ended, kept⟩
        | cons byte bytes =>
          rw [readLoop_of_bytes capacity answers processed (List.cons_ne_nil byte bytes)] at ended ⊢
          exact ih _ kept ended
      case failed => simp [readLoop_of_failed capacity answers processed] at ended
      case pending => simp [readLoop_of_pending capacity answers processed] at ended

/-- `poll_read` hands out nothing, and succeeds, only with nothing left buffered. -/
theorem pollRead_ends_at_boundary (positive : 0 < capacity) (answers : List SocketRead) (s : ReadHalf)
    (ended : (pollRead keys capacity answers s).1 = .ready (.ok [])) :
    (pollRead keys capacity answers s).2.1.inputBuffer = [] ∧ (pollRead keys capacity answers s).2.1.decryptedBuffer = [] := by
  unfold pollRead at ended ⊢
  split at ended
  case isTrue fresh =>
    rw [if_pos fresh]
    exact readLoop_ends_at_boundary positive answers s (List.isEmpty_iff.mp fresh) ended
  case isFalse full =>
    have handed : (deliver capacity s).1 ≠ [] := by
      intro none
      rcases List.take_eq_nil_iff.mp none with zero | empty
      case inl => omega
      case inr => exact full (List.isEmpty_iff.mpr empty)
    exact absurd (by simpa using ended) handed

/-- A sealed alert (`close_notify`, with a byte of padding) that arrives in two
reads, and then the end of the socket's stream. -/
theorem pollRead_ends_at_boundary_of_alert :
    let keys : ClientKeys := ⟨Aead.clear, Octets.ofList 12 []⟩
    let record := sealRecord Aead.clear (Octets.ofList 12 []) 0 ⟨[1, 0], 21, 1, by decide, by decide⟩
    let answers := [SocketRead.ready (record.take 4), .ready (record.drop 4)]
    0 < 1 ∧ (pollRead keys 1 answers (.initial [])).1 = .ready (.ok []) ∧
      (pollRead keys 1 answers (.initial [])).2.1.inputBuffer = [] ∧
      (pollRead keys 1 answers (.initial [])).2.1.decryptedBuffer = [] := by
  intro keys record answers
  have ended : (pollRead keys 1 answers (.initial [])).1 = .ready (.ok []) := by decide +kernel
  exact ⟨by decide, ended, pollRead_ends_at_boundary (by decide) answers _ ended⟩

end End

/-! ### Sealed records

Records sealed as a peer seals them open to what they carry: the scan past the
padding stops at the content type, which is never 0. -/

section Sealed

variable {key : Aead} {iv : Octets 12}

theorem skipPadding_encode (inner : InnerPlaintext) :
    skipPadding inner.encode (inner.encode.length - 1) = inner.content.length := by
  have padded : ∀ k, k ≤ inner.zeros → skipPadding inner.encode (inner.content.length + k) = inner.content.length := by
    intro k
    induction k with
    | zero =>
      intro _
      cases sized : inner.content.length with
      | zero => rfl
      | succ n =>
        have typed : inner.encode.getD (n + 1) 0 ≠ 0 := by
          rw [← sized, inner.getD_encode_content]
          exact inner.typed
        rw [Nat.add_zero, skipPadding, if_neg typed]
    | succ k ih =>
      intro within
      have zero : inner.encode.getD (inner.content.length + k + 1) 0 = 0 := by
        rw [Nat.add_right_comm]
        exact inner.getD_encode_padding (by omega)
      rw [← Nat.add_assoc, skipPadding, if_pos zero]
      exact ih (by omega)
  have last : inner.encode.length - 1 = inner.content.length + inner.zeros := by
    rw [InnerPlaintext.length_encode]
    omega
  rw [last]
  exact padded inner.zeros (Nat.le_refl _)

theorem decryptClientRecord_sealed (seq : Nat) (inner : InnerPlaintext) :
    decryptClientRecord ⟨key, iv⟩ seq inner.header (key.sealAppendTag (recordNonce iv seq) inner.header inner.encode) =
      .ok (inner.contentType, inner.content.length, inner.encode) := by
  have nonempty : inner.encode.length ≠ 0 := by simp
  simp only [decryptClientRecord, key.openInPlace_sealAppendTag]
  rw [if_neg nonempty, skipPadding_encode, inner.getD_encode_content]

theorem processRecord_whole {s : ReadHalf} {inner : InnerPlaintext} {more : List UInt8}
    (buffered : s.inputBuffer = sealRecord key iv s.readSeq inner ++ more) :
    processRecord ⟨key, iv⟩ s = (.ok true, ⟨more, s.decryptedBuffer ++ inner.appData, s.readSeq + 1⟩) := by
  have sized : (sealRecord key iv s.readSeq inner).length = 5 + (inner.encode.length + tagLen) :=
    length_sealRecord key iv s.readSeq inner
  have total : s.inputBuffer.length = 5 + (inner.encode.length + tagLen) + more.length := by
    rw [buffered, List.length_append, sized]
  have field := value_of_sealed_front key iv (show s.inputBuffer ++ [] = sealRecord key iv s.readSeq inner ++ more by
    rw [List.append_nil, buffered]) (by omega)
  have long : ¬ s.inputBuffer.length < 5 := by omega
  have whole : ¬ s.inputBuffer.length < 5 + (inner.encode.length + tagLen) := by omega
  have opened : decryptClientRecord ⟨key, iv⟩ s.readSeq inner.header
      (key.sealAppendTag (recordNonce iv s.readSeq) inner.header inner.encode) =
        .ok (inner.contentType, inner.content.length, inner.encode) :=
    decryptClientRecord_sealed s.readSeq inner
  delta processRecord
  rw [if_neg long]
  dsimp only
  rw [field, if_neg whole, buffered, List.take_left' sized, List.drop_left' sized, sealRecord,
    List.take_left' inner.length_header, List.drop_left' inner.length_header, opened]
  dsimp only
  have content : inner.encode.take inner.content.length = inner.content := by simp [InnerPlaintext.encode]
  by_cases data : inner.contentType = 23
  case pos => simp [data, content, InnerPlaintext.appData]
  case neg => simp [data, InnerPlaintext.appData]

theorem processRecord_unfinished {s : ReadHalf} {incoming more : List UInt8} {seq : Nat} {inner : InnerPlaintext}
    (joined : s.inputBuffer ++ incoming = sealRecord key iv seq inner ++ more)
    (unfinished : s.inputBuffer.length < inner.sealedLength) (keys : ClientKeys) :
    processRecord keys s = (.ok false, s) := by
  by_cases short : s.inputBuffer.length < 5
  case pos => exact processRecord_of_short short
  case neg =>
    delta processRecord
    rw [if_neg short]
    dsimp only
    rw [value_of_sealed_front key iv joined (by omega), if_pos (by unfold InnerPlaintext.sealedLength at unfinished; omega)]

end Sealed

/-! ### Runs over sealed records

From a state whose buffer, with the bytes still to come after it, is records
sealed from the read sequence number on, each call hands out the front of their
application data and leaves a state of the same kind. -/

section Run

variable {key : Aead} {iv : Octets 12}

/-- With nothing decrypted, the loop on the buffer processes the first `k`
records: all the whole ones, or up to the first that carries application data. -/
theorem processRecords_sealed {records : List InnerPlaintext} {s : ReadHalf} {incoming : List UInt8}
    (sealed : s.inputBuffer ++ incoming = sealRecords key iv s.readSeq records) (fresh : s.decryptedBuffer = []) :
    ∃ k rest, k ≤ records.length ∧ s.inputBuffer = sealRecords key iv s.readSeq (records.take k) ++ rest ∧
      processRecords ⟨key, iv⟩ s =
        (.ok !(appData (records.take k)).isEmpty, ⟨rest, appData (records.take k), s.readSeq + k⟩) ∧
      (appData (records.take k) = [] → ∀ inner ∈ (records.drop k).head?, rest.length < inner.sealedLength) := by
  obtain ⟨input, decrypted, seq⟩ := s
  dsimp only at sealed fresh ⊢
  subst fresh
  induction records generalizing input seq with
  | nil =>
    have empty : input = [] := (List.append_eq_nil_iff.mp sealed).1
    subst empty
    refine ⟨0, [], Nat.le_refl _, rfl, ?_, by simp⟩
    rw [processRecords_of_false (processRecord_of_short (by simp))]
    rfl
  | cons inner records ih =>
    rw [sealRecords_cons] at sealed
    by_cases whole : inner.sealedLength ≤ input.length
    case neg =>
      have unfinished : input.length < inner.sealedLength := Nat.lt_of_not_le whole
      refine ⟨0, input, Nat.zero_le _, by simp, ?_, fun _ => by simpa using unfinished⟩
      rw [processRecords_of_false (processRecord_unfinished sealed unfinished _)]
      simp
    case pos =>
      obtain ⟨more, buffered, after⟩ := exists_append_of_sealed key iv sealed whole
      have processed := processRecord_whole (s := ⟨input, [], seq⟩) buffered
      rw [List.nil_append] at processed
      by_cases data : inner.appData = []
      case neg =>
        refine ⟨1, more, by simp, by simp [buffered], ?_, fun none => absurd (by simpa using none) data⟩
        rw [processRecords_of_data processed data]
        simp [data]
      case pos =>
        rw [data] at processed
        obtain ⟨k, rest, within, split, loop, unfinished⟩ := ih more (seq + 1) after
        have taken : appData ((inner :: records).take (k + 1)) = appData (records.take k) := by
          simp [data]
        refine ⟨k + 1, rest, by simp [within], ?_, ?_, ?_⟩
        case refine_1 => rw [buffered, split, List.take_succ_cons, sealRecords_cons, List.append_assoc]
        case refine_2 =>
          rw [processRecords_of_nil processed rfl, loop, taken, Nat.add_right_comm]
          rfl
        case refine_3 =>
          rw [taken, List.drop_succ_cons]
          exact unfinished

/-- What a call that hands out `delivered` leaves: `next` holds the records from
the `k`-th on, with the segments `left` still to come, and is yet to hand out
what `s` was, less `delivered`; that is no more than `capacity` bytes, and
nothing only if nothing was left. -/
structure Delivered (key : Aead) (iv : Octets 12) (capacity : Nat) (s : ReadHalf) (records : List InnerPlaintext)
    (delivered : List UInt8) (next : ReadHalf) (left : List (List UInt8)) (k : Nat) : Prop where
  readSeq_eq : next.readSeq = s.readSeq + k
  sealed : next.inputBuffer ++ left.flatten = sealRecords key iv next.readSeq (records.drop k)
  front : delivered ++ (next.decryptedBuffer ++ appData (records.drop k)) = s.decryptedBuffer ++ appData records
  bounded : delivered.length ≤ capacity
  ended : 0 < capacity → delivered = [] → s.decryptedBuffer ++ appData records = []

theorem delivered_of_decrypted (capacity : Nat) {s : ReadHalf} {records : List InnerPlaintext}
    {left : List (List UInt8)} (sealed : s.inputBuffer ++ left.flatten = sealRecords key iv s.readSeq records)
    (data : s.decryptedBuffer ≠ []) :
    Delivered key iv capacity s records (deliver capacity s).1 (deliver capacity s).2 left 0 where
  readSeq_eq := rfl
  sealed := sealed
  front := by
    simp only [deliver, List.drop_zero]
    rw [← List.append_assoc, List.take_append_drop]
  bounded := List.length_take_le _ _
  ended positive none := by
    rcases List.take_eq_nil_iff.mp none with zero | empty
    case inl => omega
    case inr => exact absurd empty data

theorem readLoop_of_found (capacity : Nat) {segments : List (List UInt8)} {records : List InnerPlaintext}
    {s : ReadHalf} {rest : List UInt8} {k : Nat} (fresh : s.decryptedBuffer = [])
    (found : processRecords ⟨key, iv⟩ s = (.ok true, ⟨rest, appData (records.take k), s.readSeq + k⟩))
    (after : rest ++ segments.flatten = sealRecords key iv (s.readSeq + k) (records.drop k))
    (data : appData (records.take k) ≠ []) :
    ∃ delivered next left k,
      readLoop ⟨key, iv⟩ capacity (segments.map .ready) s = (.ready (.ok delivered), next, left.map .ready) ∧
      left <:+ segments ∧ Delivered key iv capacity s records delivered next left k := by
  have whole := appData_take_append_drop records k
  have handed := delivered_of_decrypted capacity (s := ⟨rest, appData (records.take k), s.readSeq + k⟩) after data
  refine ⟨_, _, segments, k, readLoop_of_data capacity _ found, List.suffix_refl _, ?_⟩
  exact ⟨rfl, after, by simpa [fresh, whole] using handed.front, handed.bounded,
    fun positive none => by simpa [fresh, whole] using handed.ended positive none⟩

/-- The loop, on the segments the socket has still to deliver and then the end
of its stream. -/
theorem readLoop_sealed (capacity : Nat) {segments : List (List UInt8)} (nonempty : ∀ segment ∈ segments, segment ≠ [])
    {records : List InnerPlaintext} {s : ReadHalf}
    (sealed : s.inputBuffer ++ segments.flatten = sealRecords key iv s.readSeq records) (fresh : s.decryptedBuffer = []) :
    ∃ delivered next left k,
      readLoop ⟨key, iv⟩ capacity (segments.map .ready) s = (.ready (.ok delivered), next, left.map .ready) ∧
      left <:+ segments ∧ Delivered key iv capacity s records delivered next left k := by
  induction segments generalizing s records with
  | nil =>
    obtain ⟨k, rest, within, split, processed, unfinished⟩ := processRecords_sealed sealed fresh
    have after := sealRecords_drop_of_split key iv sealed within split
    by_cases data : appData (records.take k) = []
    case neg =>
      rw [List.isEmpty_eq_false_iff.mpr data] at processed
      exact readLoop_of_found capacity fresh processed after data
    case pos =>
      have waiting : processRecords ⟨key, iv⟩ s = (.ok false, ⟨rest, [], s.readSeq + k⟩) := by
        rw [processed, data]
        rfl
      rw [List.flatten_nil] at after
      obtain ⟨none, empty⟩ := eq_nil_of_unfinished key iv after (unfinished data)
      subst empty
      have nothing : s.decryptedBuffer ++ appData records = [] := by
        rw [fresh, ← appData_take_append_drop records k, data, none]
        rfl
      refine ⟨[], ⟨[], [], s.readSeq + k⟩, [], k, ?_, List.suffix_refl _, ?_⟩
      case refine_1 =>
        rw [List.map_nil, readLoop_of_end capacity waiting]
        rfl
      case refine_2 =>
        exact ⟨rfl, by rw [none]; rfl, by rw [nothing, none]; rfl, Nat.zero_le _, fun _ _ => nothing⟩
  | cons segment segments ih =>
    obtain ⟨k, rest, within, split, processed, unfinished⟩ := processRecords_sealed sealed fresh
    have after := sealRecords_drop_of_split key iv sealed within split
    have whole := appData_take_append_drop records k
    by_cases data : appData (records.take k) = []
    case neg =>
      rw [List.isEmpty_eq_false_iff.mpr data] at processed
      exact readLoop_of_found capacity fresh processed after data
    case pos =>
      have waiting : processRecords ⟨key, iv⟩ s = (.ok false, ⟨rest, [], s.readSeq + k⟩) := by
        rw [processed, data]
        rfl
      have sealed' : (rest ++ segment) ++ segments.flatten = sealRecords key iv (s.readSeq + k) (records.drop k) := by
        rw [List.append_assoc, ← List.flatten_cons, after]
      obtain ⟨delivered, next, left, k', loop, suffix, handed⟩ :=
        ih (fun segment member => nonempty segment (List.mem_cons_of_mem _ member)) (s := ⟨rest ++ segment, [], s.readSeq + k⟩)
          sealed' rfl
      refine ⟨delivered, next, left, k + k', ?_, suffix.trans (List.suffix_cons _ _), ?_⟩
      case refine_1 =>
        rw [List.map_cons, readLoop_of_bytes capacity _ waiting (nonempty segment List.mem_cons_self)]
        exact loop
      case refine_2 =>
        have remaining : s.decryptedBuffer ++ appData records = [] ++ appData (records.drop k) := by
          rw [fresh, ← whole, data, List.nil_append]
        refine ⟨?_, ?_, ?_, handed.bounded, ?_⟩
        case refine_1 => rw [handed.readSeq_eq, Nat.add_assoc]
        case refine_2 => rw [← List.drop_drop]; exact handed.sealed
        case refine_3 => rw [remaining, ← handed.front, List.drop_drop]
        case refine_4 => exact fun positive none => remaining.trans (handed.ended positive none)
theorem pollRead_sealed (capacity : Nat) {segments : List (List UInt8)} (nonempty : ∀ segment ∈ segments, segment ≠ [])
    {records : List InnerPlaintext} {s : ReadHalf}
    (sealed : s.inputBuffer ++ segments.flatten = sealRecords key iv s.readSeq records) :
    ∃ delivered next left k,
      pollRead ⟨key, iv⟩ capacity (segments.map .ready) s = (.ready (.ok delivered), next, left.map .ready) ∧
      left <:+ segments ∧ Delivered key iv capacity s records delivered next left k := by
  by_cases fresh : s.decryptedBuffer = []
  case pos =>
    rw [pollRead, if_pos (List.isEmpty_iff.mpr fresh)]
    exact readLoop_sealed capacity nonempty sealed fresh
  case neg =>
    rw [pollRead, if_neg (by rw [List.isEmpty_iff]; exact fresh)]
    exact ⟨_, _, segments, 0, rfl, List.suffix_refl _, delivered_of_decrypted capacity sealed fresh⟩

end Run

end XrayLite.Reality
