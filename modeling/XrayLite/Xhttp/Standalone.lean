import XrayLite.Xhttp.Grpc
import XrayLite.Lib.Transition

/-! A standalone XHTTP request, `H2Handler::handle_standalone` in
`src/transport/xhttp/h2.rs`: one HTTP/2 stream carries the VLESS connection both
ways. The up task takes the request body apart into the bytes it writes to the
VLESS side; the down task frames what the VLESS side answers into the response.
Both read the one flag `use_grpc_framing`, which only the up task clears.

The request body is a list of DATA chunks, empty ones included: quantifying over
the list quantifies over every way HTTP/2 can split the body.
-/

set_option autoImplicit false

namespace XrayLite.Xhttp

/-- The up task's state between two chunks: the leftover buffer, the first-chunk
flag, and `use_grpc_framing` as the up task last stored it. -/
structure UpTask where
  leftover : List UInt8
  firstChunk : Bool
  grpc : Bool
  deriving DecidableEq, Repr

def UpTask.start (isGrpc : Bool) : UpTask := ⟨[], true, isGrpc⟩

-- The first-chunk check keeps gRPC mode unless the chunk starts with a byte other than 0 and 1.
def firstChunkGrpc : List UInt8 → Bool
  | byte :: _ => byte = 0x00 ∨ byte = 0x01
  | [] => true

def UpTask.step (task : UpTask) (chunk : List UInt8) : UpTask × List UInt8 :=
  let (firstChunk, grpc) :=
    if task.firstChunk ∧ task.grpc then (false, firstChunkGrpc chunk) else (task.firstChunk, task.grpc)
  if grpc then
    let (written, leftover, grpc) := drainFrames (task.leftover ++ chunk)
    (⟨leftover, firstChunk, grpc⟩, written)
  else (⟨task.leftover, firstChunk, false⟩, chunk)

def UpTask.run (task : UpTask) : List (List UInt8) → UpTask × List UInt8
  | [] => (task, [])
  | chunk :: chunks =>
    let (task, written) := task.step chunk
    let (task, rest) := task.run chunks
    (task, written ++ rest)

theorem UpTask.step_grpc_le (task : UpTask) (chunk : List UInt8) :
    (task.step chunk).1.grpc = true → task.grpc = true := by
  unfold UpTask.step
  intro kept
  by_contra cleared
  simp only [Bool.not_eq_true] at cleared
  simp [cleared] at kept

theorem UpTask.run_of_raw (task : UpTask) (raw : task.grpc = false) (chunks : List (List UInt8)) :
    task.run chunks = (task, chunks.flatten) := by
  induction chunks with
  | nil => rfl
  | cons chunk chunks ih =>
    have stepped : task.step chunk = (task, chunk) := by
      obtain ⟨leftover, firstChunk, grpc⟩ := task
      cases raw
      simp [UpTask.step]
    simp [UpTask.run, stepped, ih]

theorem UpTask.run_of_grpc (leftover : List UInt8) (stable : drainFrames leftover = ([], leftover, true))
    (chunks : List (List UInt8)) :
    (⟨leftover, false, true⟩ : UpTask).run chunks =
      let (written, left, grpc) := drainFrames (leftover ++ chunks.flatten)
      (⟨left, false, grpc⟩, written) := by
  induction chunks generalizing leftover with
  | nil => simp [UpTask.run, stable]
  | cons chunk chunks ih =>
    have whole := drainFrames_append (leftover ++ chunk) chunks.flatten
    rw [List.flatten_cons, ← List.append_assoc, whole]
    rcases drained : drainFrames (leftover ++ chunk) with ⟨written, left, grpc⟩
    have stepped : (⟨leftover, false, true⟩ : UpTask).step chunk = (⟨left, false, grpc⟩, written) := by
      simp [UpTask.step, drained]
    cases grpc
    case false =>
      obtain rfl := drainFrames_cleared _ drained
      simp [UpTask.run, stepped, UpTask.run_of_raw ⟨[], false, false⟩ rfl]
    case true =>
      simp [UpTask.run, stepped, ih left (drainFrames_stable _ drained)]

theorem UpTask.run_start_of_check (chunk : List UInt8) (chunks : List (List UInt8))
    (checked : firstChunkGrpc chunk = true) :
    (UpTask.start true).run (chunk :: chunks) =
      let (written, left, grpc) := drainFrames (chunk ++ chunks.flatten)
      (⟨left, false, grpc⟩, written) := by
  have same : (UpTask.start true).step chunk = (⟨[], false, true⟩ : UpTask).step chunk := by
    simp [UpTask.start, UpTask.step, checked]
  have asLater : (UpTask.start true).run (chunk :: chunks) =
      (⟨[], false, true⟩ : UpTask).run (chunk :: chunks) := by
    simp only [UpTask.run, same]
  rw [asLater, UpTask.run_of_grpc [] (drainFrames_of_incomplete (.inl (by simp)))]
  simp

theorem UpTask.run_start (isGrpc : Bool) (chunk : List UInt8) (chunks : List (List UInt8)) :
    ((UpTask.start isGrpc).run (chunk :: chunks)).2 =
      if isGrpc ∧ firstChunkGrpc chunk then (drainFrames (chunk ++ chunks.flatten)).1
      else chunk ++ chunks.flatten := by
  cases isGrpc
  case false => simp [UpTask.start, UpTask.run_of_raw ⟨[], true, false⟩ rfl]
  case true =>
    cases checked : firstChunkGrpc chunk
    case false =>
      have stepped : (UpTask.start true).step chunk = (⟨[], false, false⟩, chunk) := by
        simp [UpTask.start, UpTask.step, checked]
      simp [UpTask.run, stepped, UpTask.run_of_raw ⟨[], false, false⟩ rfl]
    case true =>
      rw [UpTask.run_start_of_check chunk chunks checked]
      simp

theorem UpTask.run_append (task : UpTask) (first second : List (List UInt8)) :
    task.run (first ++ second) =
      (((task.run first).1.run second).1, (task.run first).2 ++ ((task.run first).1.run second).2) := by
  induction first generalizing task with
  | nil => simp [UpTask.run]
  | cons chunk first ih => simp [UpTask.run, ih]

theorem UpTask.run_grpc_le (task : UpTask) (chunks : List (List UInt8)) :
    (task.run chunks).1.grpc = true → task.grpc = true := by
  induction chunks generalizing task with
  | nil => simp [UpTask.run]
  | cons chunk chunks ih =>
    intro kept
    exact task.step_grpc_le chunk (ih _ kept)

/-- A body of whole gRPC messages of at most 65535 bytes each, however HTTP/2 splits
it, empty chunks included: the up task writes exactly the messages' data, in order,
and gRPC mode holds after every chunk. -/
theorem UpTask.run_grpc_messages (messages : List (List UInt8))
    (small : ∀ message ∈ messages, message.length ≤ 65535) (chunks : List (List UInt8))
    (body : chunks.flatten = messages.flatMap fun message => (GrpcMessage.new message).encode) :
    ((UpTask.start true).run chunks).2 = messages.flatten ∧
      ∀ n, ((UpTask.start true).run (chunks.take n)).1.grpc = true := by
  have drained := drainFrames_messages (messages.map GrpcMessage.new) (by simpa [GrpcMessage.new] using small)
  simp only [List.flatMap_map] at drained
  have final : (UpTask.start true).run chunks =
      (⟨[], chunks = [], true⟩, messages.flatten) := by
    cases chunks with
    | nil =>
      have none : messages = [] := by
        cases messages with
        | nil => rfl
        | cons message messages => simp [GrpcMessage.new, GrpcMessage.encode] at body
      simp [UpTask.run, UpTask.start, none]
    | cons chunk chunks =>
      have checked : firstChunkGrpc chunk = true := by
        cases chunk with
        | nil => rfl
        | cons byte rest =>
          cases messages with
          | nil => simp at body
          | cons message messages =>
            simp only [List.flatten_cons, List.cons_append, List.flatMap_cons, GrpcMessage.new,
              GrpcMessage.encode, Bool.false_eq_true, if_false, List.cons.injEq] at body
            simp [firstChunkGrpc, body.1]
      rw [UpTask.run_start_of_check chunk chunks checked, ← List.flatten_cons, body, drained]
      simp [GrpcMessage.new]
  constructor
  case left => rw [final]
  case right =>
    intro n
    have whole := UpTask.run_append (UpTask.start true) (chunks.take n) (chunks.drop n)
    rw [List.take_append_drop, final] at whole
    apply UpTask.run_grpc_le _ (chunks.drop n)
    rw [← congrArg (fun result => result.1.grpc) whole]

theorem UpTask.run_raw_body (chunk : List UInt8) (chunks : List (List UInt8))
    (raw : firstChunkGrpc chunk = false ∨
      (5 ≤ (chunk ++ chunks.flatten).length ∧ 65535 < frameLength (chunk ++ chunks.flatten))) :
    ((UpTask.start true).run (chunk :: chunks)).2 = chunk ++ chunks.flatten := by
  rw [UpTask.run_start]
  rcases raw with refused | ⟨long, tooLong⟩
  case inl => simp [refused]
  case inr =>
    split
    case isTrue => rw [drainFrames_of_tooLong long tooLong]
    case isFalse => rfl

/-- A raw body whose first byte is 5, sent as an empty DATA frame and then the
rest: the check falls on the empty chunk, and the five bytes are taken for an
empty gRPC message. Sent as one chunk, the same body passes through. -/
theorem upTask_empty_first_chunk :
    ((UpTask.start true).run [[], [5, 0, 0, 0, 0]]).2 = [] ∧
      ((UpTask.start true).run [[5, 0, 0, 0, 0]]).2 = [5, 0, 0, 0, 0] := by
  constructor
  case left => decide +kernel
  case right => decide +kernel

/-! ### The down task and the two tasks together -/

structure ChunkSize where
  size : Nat
  lower : 8192 ≤ size
  upper : size < 16384

/-- `send_split_data`: `src` cut into pieces of the drawn sizes, the last one shorter;
`draw i` is the size drawn for the `i`-th piece. -/
def sendSplitData (draw : Nat → ChunkSize) (src : List UInt8) : List (List UInt8) :=
  if src = [] then []
  else
    let splitLen := min src.length (draw 0).size
    src.take splitLen :: sendSplitData (fun i => draw (i + 1)) (src.drop splitLen)
termination_by src.length
decreasing_by
  have drawn := (draw 0).lower
  have filled : 0 < src.length := List.length_pos_iff.mpr ‹_›
  simp only [List.length_drop]
  omega

theorem flatten_sendSplitData (draw : Nat → ChunkSize) (src : List UInt8) :
    (sendSplitData draw src).flatten = src := by
  induction draw, src using sendSplitData.induct with
  | case1 draw => simp [sendSplitData]
  | case2 draw src filled splitLen ih =>
    rw [sendSplitData, if_neg filled, List.flatten_cons, ih]
    exact List.take_append_drop _ _

theorem length_mem_sendSplitData (draw : Nat → ChunkSize) (src : List UInt8) :
    ∀ piece ∈ sendSplitData draw src, 1 ≤ piece.length ∧ piece.length ≤ 16383 := by
  induction draw, src using sendSplitData.induct with
  | case1 draw => simp [sendSplitData]
  | case2 draw src filled splitLen ih =>
    rw [sendSplitData, if_neg filled]
    intro piece member
    rcases List.mem_cons.mp member with rfl | member
    case inl =>
      have lower := (draw 0).lower
      have upper := (draw 0).upper
      have nonempty : 0 < src.length := List.length_pos_iff.mpr filled
      simp only [List.length_take]
      omega
    case inr => exact ih piece member

inductive Ending where
  | trailers
  | endStream
  deriving DecidableEq, Repr

/-- Both tasks of one standalone request. The VLESS side and the client are the
environment: what the down task reads, and the body chunks the up task receives. -/
structure Standalone where
  up : UpTask
  -- the body chunks the up task has not received yet
  body : List (List UInt8)
  -- what the up task has written to the VLESS side
  toVless : List UInt8
  -- the reads `r1, .., rk` the down task has taken from the VLESS side
  reads : List (List UInt8)
  -- the pieces passed to `send_data` before the end of the response
  sent : List (List UInt8)
  ending : Option Ending
  deriving DecidableEq, Repr

def Standalone.init (isGrpc : Bool) (body : List (List UInt8)) : Standalone :=
  ⟨UpTask.start isGrpc, body, [], [], [], none⟩

inductive Standalone.Action where
  -- the up task receives the next chunk of the body
  | upChunk
  -- the down task reads `data` from the VLESS side and sends it, drawing piece sizes from `draw`
  | downRead (data : List UInt8) (draw : Nat → ChunkSize)
  -- the VLESS side has closed: the down task ends the response
  | downEnd

/-- One step of either task. The down task reads the shared flag when it sends. -/
def Standalone.next (s : Standalone) : Standalone.Action → Option Standalone
  | .upChunk =>
    match s.body with
    | [] => none
    | chunk :: body =>
      let (up, written) := s.up.step chunk
      some { s with up, body, toVless := s.toVless ++ written }
  | .downRead data draw =>
    if s.ending.isSome ∨ data = [] then none
    else
      let frame := if s.up.grpc then (GrpcMessage.new data).encode else data
      some { s with reads := s.reads ++ [data], sent := s.sent ++ sendSplitData draw frame }
  | .downEnd =>
    if s.ending.isSome then none
    else some { s with ending := some (if s.up.grpc then .trailers else .endStream) }

section Steps

variable {s s' : Standalone}

theorem Standalone.next_upChunk (stepped : s.next .upChunk = some s') :
    ∃ chunk body, s.body = chunk :: body ∧
      s' = { s with up := (s.up.step chunk).1, body, toVless := s.toVless ++ (s.up.step chunk).2 } := by
  simp only [Standalone.next] at stepped
  split at stepped
  case h_1 => cases stepped
  case h_2 chunk body popped =>
    cases stepped
    exact ⟨chunk, body, popped, rfl⟩

theorem Standalone.next_downRead {data : List UInt8} {draw : Nat → ChunkSize}
    (stepped : s.next (.downRead data draw) = some s') :
    s.ending = none ∧ data ≠ [] ∧
      s' = { s with reads := s.reads ++ [data],
                    sent := s.sent ++ sendSplitData draw
                      (if s.up.grpc then (GrpcMessage.new data).encode else data) } := by
  simp only [Standalone.next] at stepped
  split at stepped
  case isTrue => cases stepped
  case isFalse running =>
    simp only [Option.isSome_iff_ne_none, ne_eq, not_or, not_not] at running
    cases stepped
    exact ⟨running.1, running.2, rfl⟩

theorem Standalone.next_downEnd (stepped : s.next .downEnd = some s') :
    s.ending = none ∧ s' = { s with ending := some (if s.up.grpc then .trailers else .endStream) } := by
  simp only [Standalone.next] at stepped
  split at stepped
  case isTrue => cases stepped
  case isFalse running =>
    cases stepped
    exact ⟨by simpa using running, rfl⟩

end Steps

/-- The shape of the response so far: the first `framed` reads went out framed and
the rest as they are; framing holds up to the last read while the flag is set, is
never used unless the request opened in gRPC mode, and precedes any trailers; every
piece has 1 to 16383 bytes. -/
def ResponseShape (isGrpc : Bool) (s : Standalone) : Prop :=
  ∃ framed ≤ s.reads.length,
    s.sent.flatten =
      (s.reads.take framed).flatMap (fun read => (GrpcMessage.new read).encode) ++ (s.reads.drop framed).flatten ∧
    (s.up.grpc = true → framed = s.reads.length) ∧
    (isGrpc = false → s.up.grpc = false ∧ framed = 0) ∧
    (s.ending = some .trailers → isGrpc = true ∧ framed = s.reads.length) ∧
    ∀ piece ∈ s.sent, 1 ≤ piece.length ∧ piece.length ≤ 16383

theorem responseShape_init (isGrpc : Bool) (body : List (List UInt8)) :
    ResponseShape isGrpc (Standalone.init isGrpc body) := by
  refine ⟨0, le_refl _, by simp [Standalone.init], ?_, ?_, ?_, ?_⟩
  case refine_1 => simp [Standalone.init]
  case refine_2 => intro opened; simp [Standalone.init, UpTask.start, opened]
  case refine_3 => simp [Standalone.init]
  case refine_4 => simp [Standalone.init]

theorem length_mem_append_sendSplitData {sent : List (List UInt8)} (draw : Nat → ChunkSize) (src : List UInt8)
    (sized : ∀ piece ∈ sent, 1 ≤ piece.length ∧ piece.length ≤ 16383) :
    ∀ piece ∈ sent ++ sendSplitData draw src, 1 ≤ piece.length ∧ piece.length ≤ 16383 := by
  intro piece member
  rcases List.mem_append.mp member with old | new
  case inl => exact sized piece old
  case inr => exact length_mem_sendSplitData draw src piece new

theorem responseShape_next {isGrpc : Bool} {s s' : Standalone} {a : Standalone.Action}
    (shape : ResponseShape isGrpc s) (stepped : s.next a = some s') : ResponseShape isGrpc s' := by
  obtain ⟨framed, bounded, sent, flagged, opened, trailed, sized⟩ := shape
  cases a with
  | upChunk =>
    obtain ⟨chunk, body, -, rfl⟩ := Standalone.next_upChunk stepped
    have kept := s.up.step_grpc_le chunk
    refine ⟨framed, bounded, sent, fun grpc => flagged (kept grpc), ?_, trailed, sized⟩
    intro plain
    obtain ⟨cleared, none⟩ := opened plain
    refine ⟨?_, none⟩
    cases grpc : (s.up.step chunk).1.grpc
    case false => rfl
    case true => simp [kept grpc] at cleared
  | downRead data draw =>
    obtain ⟨running, -, rfl⟩ := Standalone.next_downRead stepped
    have pieces := fun src => length_mem_append_sendSplitData draw src sized
    cases grpc : s.up.grpc
    case true =>
      have all := flagged grpc
      refine ⟨s.reads.length + 1, by simp, ?_, fun _ => by simp, ?_, ?_, ?_⟩
      case refine_1 =>
        have whole : (s.reads ++ [data]).take (s.reads.length + 1) = s.reads ++ [data] :=
          List.take_of_length_le (by simp)
        have none : (s.reads ++ [data]).drop (s.reads.length + 1) = [] := List.drop_of_length_le (by simp)
        simp [sent, all, whole, none, flatten_sendSplitData]
      case refine_2 => intro plain; simp [(opened plain).1] at grpc
      case refine_3 => simp [running]
      case refine_4 => exact pieces _
    case false =>
      refine ⟨framed, by simp; omega, ?_, by simp [grpc], ?_, ?_, ?_⟩
      case refine_1 =>
        simp [sent, flatten_sendSplitData, List.take_append_of_le_length bounded,
          List.drop_append_of_le_length bounded]
      case refine_2 => intro plain; exact ⟨grpc, (opened plain).2⟩
      case refine_3 => simp [running]
      case refine_4 => exact pieces _
  | downEnd =>
    obtain ⟨running, rfl⟩ := Standalone.next_downEnd stepped
    refine ⟨framed, bounded, sent, flagged, opened, ?_, sized⟩
    intro trailers
    cases grpc : s.up.grpc
    case false => simp [grpc] at trailers
    case true =>
      refine ⟨?_, flagged grpc⟩
      cases isGrpc
      case false => simp [(opened rfl).1] at grpc
      case true => rfl

theorem ResponseShape.trailers_framed {isGrpc : Bool} {s : Standalone} (shape : ResponseShape isGrpc s)
    (trailers : s.ending = some .trailers) :
    isGrpc = true ∧ s.sent.flatten = s.reads.flatMap fun read => (GrpcMessage.new read).encode := by
  obtain ⟨framed, -, sent, -, -, trailed, -⟩ := shape
  obtain ⟨opened, all⟩ := trailed trailers
  refine ⟨opened, ?_⟩
  rw [sent, all, List.take_length, List.drop_length]
  simp

theorem ResponseShape.plain_raw {s : Standalone} (shape : ResponseShape false s) :
    s.sent.flatten = s.reads.flatten := by
  obtain ⟨framed, -, sent, -, opened, -, -⟩ := shape
  rw [sent, (opened rfl).2]
  simp

/-- Whatever the interleaving of the two tasks, however the body is split into chunks
and the VLESS side's answer into reads, the response has the shape above. -/
theorem standalone_response_shape (isGrpc : Bool) (body : List (List UInt8)) (s : Standalone)
    (reached : Transition.Reachable Standalone.next (· = Standalone.init isGrpc body) s) :
    ResponseShape isGrpc s := by
  refine Transition.Reachable.invariant ?_ ?_ reached
  case refine_1 =>
    intro start opening
    rw [opening]
    exact responseShape_init isGrpc body
  case refine_2 =>
    intro s a s' shape stepped
    exact responseShape_next shape stepped

/-- The interleaving where the up task leaves gRPC mode between two reads of the down
task: a first message `[7]`, a read `[9]`, then a frame header announcing 65536 bytes,
a read `[8]`, and the end of the VLESS side. -/
theorem reachable_after_switch :
    Transition.Reachable Standalone.next (· = Standalone.init true [[0, 0, 0, 0, 1, 7], [0, 0, 1, 0, 0]])
      ⟨⟨[], false, false⟩, [], [7, 0, 0, 1, 0, 0], [[9], [8]], [[0, 0, 0, 0, 1, 9], [8]], some .endStream⟩ := by
  let draw : Nat → ChunkSize := fun _ => ⟨8192, by decide, by decide⟩
  refine Transition.Reachable.of_exec (Transition.Reachable.init rfl)
    (?_ : Transition.exec Standalone.next _
      [.upChunk, .downRead [9] draw, .upChunk, .downRead [8] draw, .downEnd] = _)
  decide +kernel

theorem standalone_response_shape_after_switch :
    ResponseShape true
      ⟨⟨[], false, false⟩, [], [7, 0, 0, 1, 0, 0], [[9], [8]], [[0, 0, 0, 0, 1, 9], [8]], some .endStream⟩ :=
  standalone_response_shape true _ _ reachable_after_switch

/-- After that interleaving the response is the first read framed and the second raw,
followed by end-of-stream: neither all framed nor all raw. -/
theorem standalone_mixed_response :
    let s : Standalone :=
      ⟨⟨[], false, false⟩, [], [7, 0, 0, 1, 0, 0], [[9], [8]], [[0, 0, 0, 0, 1, 9], [8]], some .endStream⟩
    Transition.Reachable Standalone.next (· = Standalone.init true [[0, 0, 0, 0, 1, 7], [0, 0, 1, 0, 0]]) s ∧
      s.sent.flatten ≠ s.reads.flatMap (fun read => (GrpcMessage.new read).encode) ∧
      s.sent.flatten ≠ s.reads.flatten ∧ s.ending = some .endStream := by
  intro s
  refine ⟨reachable_after_switch, ?_, ?_, rfl⟩
  case refine_1 => decide
  case refine_2 => decide

end XrayLite.Xhttp
