import XrayLite.Lib.Octets

/-! gRPC length-prefixed messages (`src/transport/xhttp/grpc.rs`) and the loop
that takes them apart on the upload side of a standalone XHTTP request: the
`while leftover.len() >= 5` loop of `handle_standalone`'s up task.

A message is a flag byte, a 4-byte big-endian length and the data. The loop
does not look at the flag; a length above 65535 makes it give up on gRPC and
pass everything on as it is.
-/

set_option autoImplicit false

namespace XrayLite.Xhttp

open BigEndian

structure GrpcMessage where
  compressed : Bool
  data : List UInt8
  deriving DecidableEq, Repr

def GrpcMessage.new (data : List UInt8) : GrpcMessage := ⟨false, data⟩

-- `put_u32(self.data.len() as u32)`: the length modulo 2^32
def GrpcMessage.encode (message : GrpcMessage) : List UInt8 :=
  (if message.compressed then 1 else 0) :: bytes 4 message.data.length ++ message.data

def GrpcMessage.decode (data : List UInt8) : Option GrpcMessage :=
  match data with
  | flag :: rest =>
    if data.length < 5 then none
    else
      let length := value (rest.take 4)
      if data.length < 5 + length then none else some ⟨flag ≠ 0, (rest.drop 4).take length⟩
  | [] => none

-- The header's length field, as the loop reads it: `leftover[1..5]`.
def frameLength (leftover : List UInt8) : Nat := value ((leftover.take 5).drop 1)

/-- The deframing loop, from a leftover buffer: what it writes to the VLESS side,
the leftover it keeps, and whether gRPC mode survived. On a length above 65535
it writes the whole leftover and leaves gRPC mode. -/
def drainFrames (leftover : List UInt8) : List UInt8 × List UInt8 × Bool :=
  if leftover.length ≥ 5 then
    let msgLen := frameLength leftover
    if msgLen > 65535 then (leftover, [], false)
    else if leftover.length ≥ 5 + msgLen then
      let (written, rest, grpc) := drainFrames (leftover.drop (5 + msgLen))
      ((leftover.drop 5).take msgLen ++ written, rest, grpc)
    else ([], leftover, true)
  else ([], leftover, true)
termination_by leftover.length

theorem length_encode (message : GrpcMessage) : message.encode.length = 5 + message.data.length := by
  simp [GrpcMessage.encode]
  omega

theorem frameLength_encode_append (message : GrpcMessage) (rest : List UInt8)
    (small : message.data.length < 2 ^ 32) :
    frameLength (message.encode ++ rest) = message.data.length := by
  have header : ((message.encode ++ rest).take 5).drop 1 = bytes 4 message.data.length := by
    simp [GrpcMessage.encode]
  rw [frameLength, header, value_bytes 4 _ (by simpa using small)]

theorem decode_encode (message : GrpcMessage) (small : message.data.length < 2 ^ 32) :
    GrpcMessage.decode message.encode = some message := by
  obtain ⟨compressed, data⟩ := message
  have header : value (bytes 4 data.length) = data.length := value_bytes 4 _ (by simpa using small)
  cases compressed <;> simp [GrpcMessage.decode, GrpcMessage.encode, header] <;> omega

theorem frameLength_append {x : List UInt8} (y : List UInt8) (long : 5 ≤ x.length) :
    frameLength (x ++ y) = frameLength x := by
  simp [frameLength, List.take_append_of_le_length long]

/-! The three things one turn of the loop can do. -/

theorem drainFrames_of_tooLong {x : List UInt8} (long : 5 ≤ x.length) (tooLong : 65535 < frameLength x) :
    drainFrames x = (x, [], false) := by
  rw [drainFrames, if_pos long]
  simp only [gt_iff_lt, if_pos tooLong]

theorem drainFrames_of_whole {x : List UInt8} (fits : frameLength x ≤ 65535)
    (whole : 5 + frameLength x ≤ x.length) :
    drainFrames x =
      let (written, rest, grpc) := drainFrames (x.drop (5 + frameLength x))
      ((x.drop 5).take (frameLength x) ++ written, rest, grpc) := by
  rw [drainFrames, if_pos (by omega)]
  simp only [gt_iff_lt, show ¬ 65535 < frameLength x by omega, if_false, ge_iff_le, if_pos whole]

theorem drainFrames_of_incomplete {x : List UInt8}
    (incomplete : x.length < 5 ∨ (frameLength x ≤ 65535 ∧ x.length < 5 + frameLength x)) :
    drainFrames x = ([], x, true) := by
  rw [drainFrames]
  rcases incomplete with short | ⟨fits, partOnly⟩
  case inl => rw [if_neg (by omega)]
  case inr =>
    simp only [ge_iff_le, gt_iff_lt, show ¬ 65535 < frameLength x by omega, if_false,
      show ¬ 5 + frameLength x ≤ x.length by omega]
    split <;> rfl

theorem drainFrames_encode_append (message : GrpcMessage) (rest : List UInt8)
    (small : message.data.length ≤ 65535) :
    drainFrames (message.encode ++ rest) =
      let (written, left, grpc) := drainFrames rest
      (message.data ++ written, left, grpc) := by
  have announced := frameLength_encode_append message rest (by omega)
  have long : 5 + frameLength (message.encode ++ rest) ≤ (message.encode ++ rest).length := by
    simp [length_encode, announced]
  rw [drainFrames_of_whole (by omega) long, announced]
  have after : (message.encode ++ rest).drop (5 + message.data.length) = rest := by
    rw [← length_encode, List.drop_left]
  have data : ((message.encode ++ rest).drop 5).take message.data.length = message.data := by
    simp [GrpcMessage.encode]
  rw [after, data]

/-- Draining in two parts is draining the whole: the first part's leftover is
prepended to the second, or, once gRPC mode is left, the second passes through. -/
theorem drainFrames_append (x y : List UInt8) :
    drainFrames (x ++ y) =
      let (written, left, grpc) := drainFrames x
      if grpc then
        let (written', left', grpc') := drainFrames (left ++ y)
        (written ++ written', left', grpc')
      else (written ++ y, [], false) := by
  induction x using drainFrames.induct with
  | case1 x long msgLen tooLong =>
    have same := frameLength_append y long
    rw [drainFrames_of_tooLong long tooLong,
      drainFrames_of_tooLong (by simp; omega) (by rw [same]; exact tooLong)]
    rfl
  | case2 x long msgLen fits whole written rest grpc drained ih =>
    have same := frameLength_append y long
    have wholeAppended : 5 + frameLength (x ++ y) ≤ (x ++ y).length := by
      simp only [same, List.length_append]
      omega
    have after : (x ++ y).drop (5 + frameLength x) = x.drop (5 + frameLength x) ++ y :=
      List.drop_append_of_le_length whole
    have data : ((x ++ y).drop 5).take (frameLength x) = (x.drop 5).take (frameLength x) := by
      rw [List.drop_append_of_le_length (by omega), List.take_append_of_le_length (by simp; omega)]
    dsimp only [msgLen] at ih drained
    rw [drainFrames_of_whole (by omega) whole, drainFrames_of_whole (by rw [same]; omega) wholeAppended,
      same, after, data, ih]
    simp only [drained]
    cases grpc <;> simp
  | case3 x long msgLen fits incomplete =>
    rw [drainFrames_of_incomplete (x := x) (.inr ⟨by omega, by omega⟩)]
    simp
  | case4 x short =>
    rw [drainFrames_of_incomplete (x := x) (.inl (by omega))]
    simp

/-- A body of whole messages of at most 65535 bytes each is taken apart completely,
and gRPC mode is kept. -/
theorem drainFrames_messages (messages : List GrpcMessage)
    (small : ∀ message ∈ messages, message.data.length ≤ 65535) :
    drainFrames (messages.flatMap GrpcMessage.encode) = (messages.flatMap GrpcMessage.data, [], true) := by
  induction messages with
  | nil => exact drainFrames_of_incomplete (.inl (by simp))
  | cons message messages ih =>
    have rest := ih fun m member => small m (List.mem_cons_of_mem _ member)
    rw [List.flatMap_cons, drainFrames_encode_append message _ (small message List.mem_cons_self), rest]
    simp

theorem drainFrames_stable (x : List UInt8) :
    ∀ {written left : List UInt8}, drainFrames x = (written, left, true) → drainFrames left = ([], left, true) := by
  induction x using drainFrames.induct with
  | case1 x long msgLen =>
    rename_i tooLong
    intro written left drained
    rw [drainFrames_of_tooLong long tooLong] at drained
    cases drained
  | case2 x long msgLen fits whole written' rest grpc drainedRest =>
    rename_i ih
    intro written left drained
    rw [drainFrames_of_whole (by omega) whole, drainedRest] at drained
    simp only [Prod.mk.injEq] at drained
    obtain ⟨-, rfl, rfl⟩ := drained
    exact ih drainedRest
  | case3 x long msgLen fits =>
    rename_i incomplete
    intro written left drained
    have same := drainFrames_of_incomplete (x := x) (.inr ⟨by omega, by omega⟩)
    rw [same] at drained
    cases drained
    exact same
  | case4 x short =>
    intro written left drained
    have same := drainFrames_of_incomplete (x := x) (.inl (by omega))
    rw [same] at drained
    cases drained
    exact same

theorem drainFrames_cleared (x : List UInt8) :
    ∀ {written left : List UInt8}, drainFrames x = (written, left, false) → left = [] := by
  induction x using drainFrames.induct with
  | case1 x long msgLen =>
    rename_i tooLong
    intro written left drained
    rw [drainFrames_of_tooLong long tooLong] at drained
    cases drained
    rfl
  | case2 x long msgLen fits whole written' rest grpc drainedRest =>
    rename_i ih
    intro written left drained
    rw [drainFrames_of_whole (by omega) whole, drainedRest] at drained
    simp only [Prod.mk.injEq] at drained
    obtain ⟨-, rfl, rfl⟩ := drained
    exact ih drainedRest
  | case3 x long msgLen fits =>
    rename_i incomplete
    intro written left drained
    rw [drainFrames_of_incomplete (x := x) (.inr ⟨by omega, by omega⟩)] at drained
    cases drained
  | case4 x short =>
    intro written left drained
    rw [drainFrames_of_incomplete (x := x) (.inl (by omega))] at drained
    cases drained

end XrayLite.Xhttp
