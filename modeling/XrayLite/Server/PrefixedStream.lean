import XrayLite.Lib.Reader

/-! `PrefixedStream`: bytes already taken from a stream, put back in front of it.

`src/server.rs` and `src/transport/reality/server_rustls.rs` each define one, and
their `poll_read` is the same code; this is both. The bytes put back sit in a
`std::io::Cursor<Vec<u8>>`. A read serves them first, as many as the buffer has
room for, and goes to the inner stream only once the cursor is at the end. Writes
go to the inner stream and are not modelled.
-/

set_option autoImplicit false

namespace XrayLite

/-- `std::io::Cursor<Vec<u8>>`, as `bytes::Buf` reads it. -/
structure Cursor where
  -- `get_ref()`
  data : List UInt8
  position : Nat
  deriving DecidableEq, Repr

namespace Cursor

def new (data : List UInt8) : Cursor := ⟨data, 0⟩

-- `Buf::remaining`: nothing once the position is at or past the end
def remaining (cursor : Cursor) : Nat := cursor.data.length - cursor.position

def hasRemaining (cursor : Cursor) : Bool := cursor.remaining > 0

def setPosition (cursor : Cursor) (position : Nat) : Cursor := { cursor with position }

def rest (cursor : Cursor) : List UInt8 := cursor.data.drop cursor.position

@[simp] theorem rest_new (data : List UInt8) : (new data).rest = data := by
  simp [new, rest]

theorem rest_eq_nil_iff (cursor : Cursor) : cursor.rest = [] ↔ cursor.hasRemaining = false := by
  simp [rest, hasRemaining, remaining]

theorem slice_append_rest (cursor : Cursor) (n : Nat) :
    (cursor.data.take (cursor.position + n)).drop cursor.position ++ (cursor.setPosition (cursor.position + n)).rest =
      cursor.rest := by
  simp only [rest, setPosition, List.drop_take, Nat.add_sub_cancel_left, ← List.drop_drop]
  exact List.take_append_drop n (cursor.data.drop cursor.position)

theorem length_slice (cursor : Cursor) (n : Nat) :
    ((cursor.data.take (cursor.position + n)).drop cursor.position).length = min n cursor.remaining := by
  simp only [List.length_drop, List.length_take, remaining]
  omega

end Cursor

/-- `PrefixedStream<S>`: the field `prefix` is `replay` here. -/
structure PrefixedStream (σ : Type) where
  replay : Cursor
  inner : σ
  deriving DecidableEq, Repr

namespace PrefixedStream

variable {σ : Type}

def new (replay : List UInt8) (inner : σ) : PrefixedStream σ := ⟨Cursor.new replay, inner⟩

/-- `poll_read` once ready, with room for `room` bytes in the buffer: the bytes it puts
there, and the stream after. -/
def pollRead (reader : Reader σ UInt8) (stream : PrefixedStream σ) (room : Nat) : List UInt8 × PrefixedStream σ :=
  if stream.replay.hasRemaining then
    let n := min room stream.replay.remaining
    let pos := stream.replay.position
    -- `pos + n` never passes the end, so the slice is in bounds
    ((stream.replay.data.take (pos + n)).drop pos, { stream with replay := stream.replay.setPosition (pos + n) })
  else ((reader.read stream.inner room).1, { stream with inner := (reader.read stream.inner room).2 })

def rest (reader : Reader σ UInt8) (stream : PrefixedStream σ) : List UInt8 :=
  stream.replay.rest ++ reader.rest stream.inner

section Spec

variable (reader : Reader σ UInt8) (stream : PrefixedStream σ) (room : Nat)

theorem pollRead_of_replay (replaying : stream.replay.hasRemaining = true) :
    pollRead reader stream room =
      ((stream.replay.data.take (stream.replay.position + min room stream.replay.remaining)).drop
          stream.replay.position,
        { stream with replay := stream.replay.setPosition (stream.replay.position + min room stream.replay.remaining) }) := by
  simp [pollRead, replaying]

theorem pollRead_of_replayed (replayed : stream.replay.hasRemaining = false) :
    pollRead reader stream room =
      ((reader.read stream.inner room).1, { stream with inner := (reader.read stream.inner room).2 }) := by
  simp [pollRead, replayed]

theorem pollRead_append :
    (pollRead reader stream room).1 ++ rest reader (pollRead reader stream room).2 = rest reader stream := by
  cases replaying : stream.replay.hasRemaining
  case true =>
    rw [pollRead_of_replay reader stream room replaying, rest, rest, ← List.append_assoc]
    exact congrArg (· ++ reader.rest stream.inner) (stream.replay.slice_append_rest _)
  case false =>
    have replayed : stream.replay.rest = [] := (Cursor.rest_eq_nil_iff _).mpr replaying
    rw [pollRead_of_replayed reader stream room replaying, rest, rest, replayed]
    exact reader.read_append stream.inner room

theorem length_pollRead_le : (pollRead reader stream room).1.length ≤ room := by
  cases replaying : stream.replay.hasRemaining
  case true =>
    rw [pollRead_of_replay reader stream room replaying, Cursor.length_slice]
    omega
  case false =>
    rw [pollRead_of_replayed reader stream room replaying]
    exact reader.length_read_le stream.inner room

theorem pollRead_eq_nil_iff (positive : 0 < room) :
    (pollRead reader stream room).1 = [] ↔ rest reader stream = [] := by
  cases replaying : stream.replay.hasRemaining
  case true =>
    have left : stream.replay.rest ≠ [] := by
      rw [ne_eq, Cursor.rest_eq_nil_iff, replaying]
      simp
    have copied : ((stream.replay.data.take (stream.replay.position + min room stream.replay.remaining)).drop
        stream.replay.position) ≠ [] := by
      simp only [Cursor.hasRemaining, decide_eq_true_eq] at replaying
      rw [ne_eq, ← List.length_eq_zero_iff, Cursor.length_slice]
      omega
    rw [pollRead_of_replay reader stream room replaying, rest]
    simp [copied, left]
  case false =>
    have replayed : stream.replay.rest = [] := (Cursor.rest_eq_nil_iff _).mpr replaying
    rw [pollRead_of_replayed reader stream room replaying, rest, replayed, List.nil_append]
    exact reader.read_eq_nil_iff stream.inner room positive

end Spec

def reader (inner : Reader σ UInt8) : Reader (PrefixedStream σ) UInt8 :=
  ⟨pollRead inner, rest inner, pollRead_append inner, length_pollRead_le inner,
    fun stream room positive => pollRead_eq_nil_iff inner stream room positive⟩

@[simp] theorem rest_reader_new (inner : Reader σ UInt8) (replay : List UInt8) (stream : σ) :
    (reader inner).rest (new replay stream) = replay ++ inner.rest stream := by
  simp [reader, rest, new]

/-- Whatever the sizes of the reads, a `PrefixedStream` delivers the bytes put back and
then the inner stream, in order, and a read with room comes back empty only after
all of them were delivered. -/
theorem readMany_new (inner : Reader σ UInt8) (replay : List UInt8) (stream : σ) (rooms : List Nat)
    (room : ∀ capacity ∈ rooms, 0 < capacity) :
    let reads := (reader inner).readMany (new replay stream) rooms
    reads.1.flatten ++ (reader inner).rest reads.2 = replay ++ inner.rest stream ∧
      ∀ (i : Nat) (inside : i < reads.1.length), reads.1[i] = [] →
        (reads.1.take i).flatten = replay ++ inner.rest stream := by
  intro reads
  constructor
  case left =>
    rw [← rest_reader_new]
    exact (reader inner).flatten_readMany_append _ rooms
  case right =>
    intro i inside empty
    rw [← rest_reader_new]
    exact (reader inner).readMany_eq_nil _ rooms room i inside empty

end PrefixedStream

end XrayLite
