import XrayLite.Reality.ReadHalf
import XrayLite.Lib.Reader

/-! What a `TlsStream` reads: a reader of the application data its peer sealed.

A `SealedStream` is a read half, the segments its socket has still to deliver,
and the records that the two hold between them, sealed from the read sequence
number on; the records say what the bytes mean, and nothing of the code reads
them. Its `read` is `poll_read` with the socket answering with its segments,
then with the end of its stream. It keeps the reader laws, so what is proved of
readers holds of the TLS stream: a run of reads hands out the records'
application data in order, and reading to the end hands out all of it, however
the socket cut the bytes into segments and however much room each read had.
-/

set_option autoImplicit false

namespace XrayLite.Reality

structure SealedStream (key : Aead) (iv : Octets 12) where
  half : ReadHalf
  incoming : Inflow UInt8
  records : List InnerPlaintext
  sealed : half.inputBuffer ++ incoming.bytes = sealRecords key iv half.readSeq records

def handedOut : Poll (Except ReadError (List UInt8)) → List UInt8
  | .ready (.ok bytes) => bytes
  | _ => []

namespace SealedStream

variable {key : Aead} {iv : Octets 12} (stream : SealedStream key iv) (capacity : Nat)

def rest : List UInt8 := stream.half.decryptedBuffer ++ appData stream.records

def poll : Poll (Except ReadError (List UInt8)) × ReadHalf × List SocketRead :=
  pollRead ⟨key, iv⟩ capacity (stream.incoming.segments.map .ready) stream.half

def left : List (List UInt8) :=
  stream.incoming.segments.drop (stream.incoming.segments.length - (stream.poll capacity).2.2.length)

def processed : Nat := (stream.poll capacity).2.1.readSeq - stream.half.readSeq

theorem poll_spec : ∃ delivered,
    stream.poll capacity = (.ready (.ok delivered), (stream.poll capacity).2.1, (stream.left capacity).map .ready) ∧
    Delivered key iv capacity stream.half stream.records delivered (stream.poll capacity).2.1 (stream.left capacity)
      (stream.processed capacity) := by
  obtain ⟨delivered, next, left, k, called, suffix, handed⟩ :=
    pollRead_sealed capacity stream.incoming.nonempty stream.sealed
  have dropped : stream.left capacity = left := by
    rw [SealedStream.left, poll, called, List.length_map]
    exact (List.suffix_iff_eq_drop.mp suffix).symm
  have counted : stream.processed capacity = k := by
    rw [processed, poll, called]
    dsimp only
    rw [handed.readSeq_eq]
    omega
  rw [dropped, counted, poll, called]
  exact ⟨delivered, rfl, handed⟩

def read : List UInt8 × SealedStream key iv :=
  (handedOut (stream.poll capacity).1,
    ⟨(stream.poll capacity).2.1,
      ⟨stream.left capacity, fun segment member => stream.incoming.nonempty segment (List.mem_of_mem_drop member)⟩,
      stream.records.drop (stream.processed capacity),
      (stream.poll_spec capacity).elim fun _ spec => spec.2.sealed⟩)

theorem read_spec : Delivered key iv capacity stream.half stream.records (stream.read capacity).1
    (stream.read capacity).2.half (stream.read capacity).2.incoming.segments (stream.processed capacity) := by
  obtain ⟨delivered, called, handed⟩ := stream.poll_spec capacity
  have out : (stream.read capacity).1 = delivered := by
    show handedOut (stream.poll capacity).1 = delivered
    rw [called]
    rfl
  rw [out]
  exact handed

end SealedStream

/-- The TLS stream as a reader of the application data. -/
def SealedStream.reader (key : Aead) (iv : Octets 12) : Reader (SealedStream key iv) UInt8 where
  read := SealedStream.read
  rest := SealedStream.rest
  read_append stream capacity := (stream.read_spec capacity).front
  length_read_le stream capacity := (stream.read_spec capacity).bounded
  read_eq_nil_iff stream capacity positive := by
    have handed := stream.read_spec capacity
    refine ⟨handed.ended positive, fun empty => ?_⟩
    have front := handed.front
    rw [SealedStream.rest] at empty
    rw [empty] at front
    exact (List.append_eq_nil_iff.mp front).1

/-! ### Reading to the end -/

/-- Reading a `TlsStream` until `poll_read` hands out nothing: a stream that
starts from `initialData`, whose socket delivers `incoming` in any segments and
then ends, and whose bytes are records sealed from sequence number 0, hands out
exactly the records' application data, in order. Records of other types hand
out nothing, and the padding of each is stripped. -/
theorem tlsStream_reads_appData {key : Aead} {iv : Octets 12} {capacity : Nat} (positive : 0 < capacity)
    (initialData : List UInt8) (incoming : Inflow UInt8) (records : List InnerPlaintext)
    (sealed : initialData ++ incoming.bytes = sealRecords key iv 0 records) :
    ((SealedStream.reader key iv).drain capacity ⟨ReadHalf.initial initialData, incoming, records, sealed⟩).flatten =
      appData records :=
  (SealedStream.reader key iv).flatten_drain positive _

theorem tlsStream_reads_appData_padded :
    0 < 1 ∧
      ([] : List UInt8) ++ (Inflow.single (sealRecords Aead.clear (Octets.ofList 12 []) 0
          [⟨[1, 2, 3], 23, 2, by decide, by decide⟩])).bytes =
        sealRecords Aead.clear (Octets.ofList 12 []) 0 [⟨[1, 2, 3], 23, 2, by decide, by decide⟩] ∧
      ((SealedStream.reader Aead.clear (Octets.ofList 12 [])).drain 1
          ⟨.initial [], Inflow.single (sealRecords Aead.clear (Octets.ofList 12 []) 0
            [⟨[1, 2, 3], 23, 2, by decide, by decide⟩]), [⟨[1, 2, 3], 23, 2, by decide, by decide⟩],
            by simp [ReadHalf.initial]⟩).flatten =
        appData [⟨[1, 2, 3], 23, 2, by decide, by decide⟩] :=
  ⟨by decide, by simp, tlsStream_reads_appData (by decide) [] _ _ (by simp)⟩

/-! ### What the write half sends

With writes of at most 65518 bytes, so that a record's length field never
wraps, and sockets that take what they are offered whole or not at all, the
write half sends one application data record per flush, sealed under
consecutive sequence numbers from 0; the records and the buffer hold what it
took. -/

def InnerPlaintext.applicationData (content : List UInt8) (fits : content.length + 1 + tagLen < 65536) :
    InnerPlaintext :=
  ⟨content, 23, 0, by decide, by simpa using fits⟩

theorem encryptServerRecord_eq_sealRecord (keys : ServerKeys) (seq : Nat) (plaintext : List UInt8)
    (fits : plaintext.length + 1 + tagLen < 65536) :
    encryptServerRecord keys seq plaintext 23 =
      sealRecord keys.serverWriteKey keys.serverIv seq (.applicationData plaintext fits) := by
  have small : (plaintext.length + 1 + tagLen) % 65536 = plaintext.length + 1 + tagLen := Nat.mod_eq_of_lt fits
  simp [encryptServerRecord, sealRecord, InnerPlaintext.header, InnerPlaintext.encode,
    InnerPlaintext.applicationData, small]

/-- The write half has sent `records`, sealed from sequence number 0, and with
its buffer they hold what it took. -/
structure Framed (keys : ServerKeys) (records : List InnerPlaintext) (taken : List UInt8) (s : WriteHalf) : Prop where
  sent_eq : s.sent = sealRecords keys.serverWriteKey keys.serverIv 0 records
  writeSeq_eq : s.writeSeq = records.length
  taken_eq : appData records ++ s.writeBuffer = taken
  small : s.writeBuffer.length ≤ 65518
  applicationData : ∀ record ∈ records, record.contentType = 23 ∧ record.zeros = 0 ∧ record.content ≠ []

/-- A call whose socket takes what it is offered whole or not at all, and whose
write, if it is one, has at most 65518 bytes. -/
def WriteCall.Fits : WriteCall → Prop
  | .write buf socket => socket.Whole ∧ buf.length ≤ 65518
  | .flush socket _ => socket.Whole
  | .shutdown socket _ => socket.Whole

section Framing

variable {keys : ServerKeys} {socket : Socket} {records : List InnerPlaintext} {taken : List UInt8} {s : WriteHalf}

theorem framed_initial (keys : ServerKeys) : Framed keys [] [] .initial :=
  ⟨rfl, rfl, rfl, Nat.zero_le _, fun _ absent => absurd absent List.not_mem_nil⟩

theorem flushWriteBuffer_framed (whole : socket.Whole) (framed : Framed keys records taken s) :
    ∃ records', Framed keys records' taken (flushWriteBuffer keys socket s).2 ∧
      records'.length ≤ records.length + 1 ∧
      ((flushWriteBuffer keys socket s).1 = .ready (.ok ()) → (flushWriteBuffer keys socket s).2.writeBuffer = []) := by
  rcases flushWriteBuffer_cases keys socket s whole with ⟨empty, flushed⟩ | ⟨nonempty, flushed⟩ | ⟨_, kept, refused⟩
  case inl =>
    rw [flushed]
    exact ⟨records, framed, by omega, fun _ => empty⟩
  case inr.inl =>
    have fits : s.writeBuffer.length + 1 + tagLen < 65536 := by have := framed.small; simp only [tagLen]; omega
    refine ⟨records ++ [.applicationData s.writeBuffer fits], ?_, by simp, fun _ => by rw [flushed]⟩
    rw [flushed]
    refine ⟨?_, ?_, ?_, Nat.zero_le _, ?_⟩
    case refine_1 =>
      rw [sealRecords_append, sealRecords_cons, sealRecords_nil, List.append_nil, ← framed.sent_eq, Nat.zero_add,
        ← framed.writeSeq_eq, encryptServerRecord_eq_sealRecord keys s.writeSeq s.writeBuffer fits]
    case refine_2 => simp [framed.writeSeq_eq]
    case refine_3 =>
      rw [appData_append, List.append_nil, ← framed.taken_eq]
      simp [InnerPlaintext.appData, InnerPlaintext.applicationData]
    case refine_4 =>
      intro record member
      rcases List.mem_append.mp member with earlier | last
      case inl => exact framed.applicationData record earlier
      case inr =>
        rw [List.mem_singleton.mp last]
        exact ⟨rfl, rfl, nonempty⟩
  case inr.inr =>
    rw [kept]
    exact ⟨records, framed, by omega, fun ok => absurd ok refused⟩

theorem flushThen_snd (after : Poll (Except WriteError Unit)) :
    (flushThen keys socket after s).2 = (flushWriteBuffer keys socket s).2 := by
  unfold flushThen
  split <;> simp_all

theorem pollWrite_framed {buf : List UInt8} (whole : socket.Whole) (short : buf.length ≤ 65518)
    (framed : Framed keys records taken s) :
    ∃ records', records'.length ≤ records.length + 1 ∧
      ((pollWrite keys socket buf s).1 = .ready (.ok buf.length) ∧
          Framed keys records' (taken ++ buf) (pollWrite keys socket buf s).2 ∨
        (∀ n, (pollWrite keys socket buf s).1 ≠ .ready (.ok n)) ∧ Framed keys records' taken (pollWrite keys socket buf s).2) := by
  unfold pollWrite
  by_cases flushesFirst : s.writeBuffer.length + buf.length > 14336
  case neg =>
    rw [if_neg flushesFirst]
    refine ⟨records, by omega, .inl ⟨rfl, framed.sent_eq, framed.writeSeq_eq, by rw [← List.append_assoc, framed.taken_eq],
      ?_, framed.applicationData⟩⟩
    simp only [List.length_append]
    omega
  case pos =>
    rw [if_pos flushesFirst]
    obtain ⟨records', flushedFramed, counted, emptied⟩ := flushWriteBuffer_framed whole framed
    rcases flushed : flushWriteBuffer keys socket s with ⟨result, next⟩
    rw [flushed] at flushedFramed emptied
    have accepted (empty : next.writeBuffer = []) :
        Framed keys records' (taken ++ buf) { next with writeBuffer := next.writeBuffer ++ buf } := by
      have sent := flushedFramed.taken_eq
      rw [empty, List.append_nil] at sent
      exact ⟨flushedFramed.sent_eq, flushedFramed.writeSeq_eq, by rw [empty, List.nil_append, sent], by simpa [empty],
        flushedFramed.applicationData⟩
    rcases result with (error | ok) | _
    case ready.error => exact ⟨records', counted, .inr ⟨by simp, flushedFramed⟩⟩
    case ready.ok =>
      have empty : next.writeBuffer = [] := emptied rfl
      refine ⟨records', counted, .inl ⟨?_, ?_⟩⟩
      · simp [empty]
      · simpa [empty] using accepted empty
    case pending =>
      by_cases empty : next.writeBuffer = []
      case pos =>
        refine ⟨records', counted, .inl ⟨?_, ?_⟩⟩
        · simp [empty]
        · simpa [empty] using accepted empty
      case neg => exact ⟨records', counted, .inr ⟨by simp [empty], by simpa [empty] using flushedFramed⟩⟩

/-- One call keeps the framing, with what the caller is told was taken added to
it, and sends at most one record. -/
theorem step_framed (call : WriteCall) (fits : call.Fits) (framed : Framed keys records taken s) :
    ∃ records', Framed keys records' (taken ++ (call.step keys s).1) (call.step keys s).2 ∧
      records'.length ≤ records.length + 1 := by
  cases call with
  | write buf socket =>
    obtain ⟨whole, short⟩ := fits
    obtain ⟨records', counted, written⟩ := pollWrite_framed whole short framed
    refine ⟨records', ?_, counted⟩
    rw [WriteCall.step]
    rcases called : pollWrite keys socket buf s with ⟨result, next⟩
    rw [called] at written
    dsimp only at written
    rcases written with ⟨taken', nextFramed⟩ | ⟨refused, nextFramed⟩
    case inl =>
      subst taken'
      exact nextFramed
    case inr =>
      rcases result with (error | n) | _
      case ready.ok => exact absurd rfl (refused n)
      all_goals simpa using nextFramed
  | flush socket socketFlush =>
    obtain ⟨records', flushedFramed, counted, -⟩ := flushWriteBuffer_framed fits framed
    refine ⟨records', ?_, counted⟩
    simpa [WriteCall.step, pollFlush, flushThen_snd] using flushedFramed
  | shutdown socket socketShutdown =>
    obtain ⟨records', flushedFramed, counted, -⟩ := flushWriteBuffer_framed fits framed
    refine ⟨records', ?_, counted⟩
    simpa [WriteCall.step, pollShutdown, flushThen_snd] using flushedFramed

theorem run_framed (calls : List WriteCall) (fits : ∀ call ∈ calls, call.Fits) (framed : Framed keys records taken s) :
    ∃ records', Framed keys records' (taken ++ (run keys calls s).1) (run keys calls s).2 ∧
      records'.length ≤ records.length + calls.length := by
  induction calls generalizing records taken s with
  | nil => exact ⟨records, by simpa [run] using framed, by simp⟩
  | cons call calls ih =>
    obtain ⟨records', stepped, counted⟩ := step_framed call (fits call List.mem_cons_self) framed
    obtain ⟨records'', rest, counted'⟩ := ih (fun c member => fits c (List.mem_cons_of_mem _ member)) stepped
    refine ⟨records'', ?_, by simp only [List.length_cons]; omega⟩
    simpa [run, List.append_assoc] using rest

end Framing

/-- What the write half of one `TlsStream` sends, read by a `TlsStream` whose
read keys are its write keys, however the bytes are cut into segments and
however much room each read has: the reader hands out everything the writer
took, in order, but for what is still in the writer's buffer. -/
theorem tlsStream_loopback (keys : ServerKeys) (calls : List WriteCall) (fits : ∀ call ∈ calls, call.Fits)
    (incoming : Inflow UInt8) (carried : incoming.bytes = (run keys calls .initial).2.sent) {capacity : Nat}
    (positive : 0 < capacity) :
    ∃ stream : SealedStream keys.serverWriteKey keys.serverIv, stream.half = .initial [] ∧ stream.incoming = incoming ∧
      ((SealedStream.reader _ _).drain capacity stream).flatten ++ (run keys calls .initial).2.writeBuffer =
        (run keys calls .initial).1 := by
  obtain ⟨records, framed, -⟩ := run_framed calls fits (framed_initial keys)
  have sealed : (ReadHalf.initial []).inputBuffer ++ incoming.bytes =
      sealRecords keys.serverWriteKey keys.serverIv (ReadHalf.initial []).readSeq records := by
    rw [carried, framed.sent_eq]
    rfl
  refine ⟨⟨.initial [], incoming, records, sealed⟩, rfl, rfl, ?_⟩
  rw [(SealedStream.reader _ _).flatten_drain positive]
  simpa [SealedStream.reader, SealedStream.rest, ReadHalf.initial] using framed.taken_eq

theorem tlsStream_loopback_write_flush :
    (∀ call ∈ [WriteCall.write [1, 2, 3] (fun bytes => .ready bytes.length),
        .flush (fun bytes => .ready bytes.length) (.ready (.ok ()))], call.Fits) ∧
      (Inflow.single (run ⟨Aead.clear, Octets.ofList 12 []⟩ [.write [1, 2, 3] (fun bytes => .ready bytes.length),
          .flush (fun bytes => .ready bytes.length) (.ready (.ok ()))] .initial).2.sent).bytes =
        (run ⟨Aead.clear, Octets.ofList 12 []⟩ [.write [1, 2, 3] (fun bytes => .ready bytes.length),
          .flush (fun bytes => .ready bytes.length) (.ready (.ok ()))] .initial).2.sent ∧
      0 < 1 ∧
      ∃ stream : SealedStream Aead.clear (Octets.ofList 12 []), stream.half = .initial [] ∧
        stream.incoming = Inflow.single (run ⟨Aead.clear, Octets.ofList 12 []⟩
          [.write [1, 2, 3] (fun bytes => .ready bytes.length),
            .flush (fun bytes => .ready bytes.length) (.ready (.ok ()))] .initial).2.sent ∧
        ((SealedStream.reader _ _).drain 1 stream).flatten ++
            (run ⟨Aead.clear, Octets.ofList 12 []⟩ [.write [1, 2, 3] (fun bytes => .ready bytes.length),
              .flush (fun bytes => .ready bytes.length) (.ready (.ok ()))] .initial).2.writeBuffer =
          (run ⟨Aead.clear, Octets.ofList 12 []⟩ [.write [1, 2, 3] (fun bytes => .ready bytes.length),
            .flush (fun bytes => .ready bytes.length) (.ready (.ok ()))] .initial).1 := by
  have fits : ∀ call ∈ [WriteCall.write [1, 2, 3] (fun bytes => .ready bytes.length),
      .flush (fun bytes => .ready bytes.length) (.ready (.ok ()))], call.Fits := by
    simp [WriteCall.Fits, Socket.Whole]
  exact ⟨fits, Inflow.bytes_single _, by decide, tlsStream_loopback ⟨Aead.clear, Octets.ofList 12 []⟩ _ fits _ (Inflow.bytes_single _)
    (show 0 < 1 by decide)⟩

end XrayLite.Reality
