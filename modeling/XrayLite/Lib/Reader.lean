import XrayLite.Lib.Inflow

/-! Readers: a stream as the code that consumes it sees it.

A reader has the items left to read and one `read` with room for `capacity`
items. The read returns a front of what is left, never more than `capacity`
items. With room for one item or more, it returns nothing only when the stream
has ended. That is `AsyncRead::poll_read` once it is ready. The laws are fields,
so a reader that breaks them cannot be built.

A wrapper around a reader is again a reader when it keeps the laws, and so is a
choice between two readers (`Box<dyn AsyncRead>`). What a consumer gets then
follows from the laws alone: any run of reads delivers the stream in order,
and reading until a read returns nothing delivers all of it.
-/

set_option autoImplicit false

structure Reader (σ α : Type) where
  read : σ → Nat → List α × σ
  rest : σ → List α
  read_append : ∀ stream capacity, (read stream capacity).1 ++ rest (read stream capacity).2 = rest stream
  length_read_le : ∀ stream capacity, (read stream capacity).1.length ≤ capacity
  read_eq_nil_iff : ∀ stream capacity, 0 < capacity → ((read stream capacity).1 = [] ↔ rest stream = [])

namespace Reader

variable {σ τ α : Type} (reader : Reader σ α)

theorem length_rest_read_lt (stream : σ) (capacity : Nat) (taken : (reader.read stream capacity).1 ≠ []) :
    (reader.rest (reader.read stream capacity).2).length < (reader.rest stream).length := by
  have whole := congrArg List.length (reader.read_append stream capacity)
  have positive : 0 < (reader.read stream capacity).1.length := List.length_pos_iff.mpr taken
  rw [List.length_append] at whole
  omega

/-- Successive reads with the given capacities: what each returned, and the stream after. -/
def readMany : σ → List Nat → List (List α) × σ
  | stream, [] => ([], stream)
  | stream, capacity :: capacities =>
    let taken := reader.read stream capacity
    let after := readMany taken.2 capacities
    (taken.1 :: after.1, after.2)

@[simp] theorem readMany_nil (stream : σ) : reader.readMany stream [] = ([], stream) := rfl

theorem readMany_cons (stream : σ) (capacity : Nat) (capacities : List Nat) :
    reader.readMany stream (capacity :: capacities) =
      ((reader.read stream capacity).1 :: (reader.readMany (reader.read stream capacity).2 capacities).1,
        (reader.readMany (reader.read stream capacity).2 capacities).2) := rfl

@[simp] theorem length_readMany (stream : σ) (capacities : List Nat) :
    (reader.readMany stream capacities).1.length = capacities.length := by
  induction capacities generalizing stream with
  | nil => rfl
  | cons capacity capacities ih => simp [readMany_cons, ih]

theorem flatten_readMany_append (stream : σ) (capacities : List Nat) :
    (reader.readMany stream capacities).1.flatten ++ reader.rest (reader.readMany stream capacities).2 =
      reader.rest stream := by
  induction capacities generalizing stream with
  | nil => rfl
  | cons capacity capacities ih =>
    rw [readMany_cons, List.flatten_cons, List.append_assoc, ih]
    exact reader.read_append stream capacity

theorem readMany_eq_nil (stream : σ) (capacities : List Nat) (room : ∀ capacity ∈ capacities, 0 < capacity)
    (i : Nat) (inside : i < (reader.readMany stream capacities).1.length)
    (empty : (reader.readMany stream capacities).1[i] = []) :
    ((reader.readMany stream capacities).1.take i).flatten = reader.rest stream := by
  induction capacities generalizing stream i with
  | nil => simp at inside
  | cons capacity capacities ih =>
    have first : 0 < capacity := room capacity List.mem_cons_self
    simp only [readMany_cons] at inside empty ⊢
    cases i with
    | zero =>
      simp only [List.getElem_cons_zero] at empty
      simp [((reader.read_eq_nil_iff stream capacity first).mp empty)]
    | succ i =>
      simp only [List.getElem_cons_succ] at empty
      have later := ih (reader.read stream capacity).2 (fun c member => room c (List.mem_cons_of_mem _ member)) i
        (by simpa using inside) empty
      rw [List.take_succ_cons, List.flatten_cons, later]
      exact reader.read_append stream capacity

def drain (capacity : Nat) (stream : σ) : List (List α) :=
  let taken := reader.read stream capacity
  if taken.1 = [] then [] else taken.1 :: drain capacity taken.2
termination_by (reader.rest stream).length
decreasing_by exact reader.length_rest_read_lt stream capacity ‹_›

/-- Reading until the end delivers every item once, in order. -/
theorem flatten_drain {capacity : Nat} (room : 0 < capacity) (stream : σ) :
    (reader.drain capacity stream).flatten = reader.rest stream := by
  induction stream using drain.induct reader capacity with
  | case1 stream taken ended =>
    rw [drain, if_pos ended]
    exact ((reader.read_eq_nil_iff stream capacity room).mp ended).symm
  | case2 stream taken more ih =>
    rw [drain, if_neg more, List.flatten_cons, ih]
    exact reader.read_append stream capacity

/-- One interface over two kinds of stream (`Box<dyn AsyncRead>`): each read goes
to the stream that is there. -/
def sum (left : Reader σ α) (right : Reader τ α) : Reader (σ ⊕ τ) α where
  read
    | .inl stream, capacity => ((left.read stream capacity).1, .inl (left.read stream capacity).2)
    | .inr stream, capacity => ((right.read stream capacity).1, .inr (right.read stream capacity).2)
  rest
    | .inl stream => left.rest stream
    | .inr stream => right.rest stream
  read_append
    | .inl stream, capacity => left.read_append stream capacity
    | .inr stream, capacity => right.read_append stream capacity
  length_read_le
    | .inl stream, capacity => left.length_read_le stream capacity
    | .inr stream, capacity => right.length_read_le stream capacity
  read_eq_nil_iff
    | .inl stream, capacity => left.read_eq_nil_iff stream capacity
    | .inr stream, capacity => right.read_eq_nil_iff stream capacity

@[simp] theorem rest_sum_inl (left : Reader σ α) (right : Reader τ α) (stream : σ) :
    (sum left right).rest (.inl stream) = left.rest stream := rfl

@[simp] theorem rest_sum_inr (left : Reader σ α) (right : Reader τ α) (stream : τ) :
    (sum left right).rest (.inr stream) = right.rest stream := rfl

end Reader

def Inflow.reader {α : Type} : Reader (Inflow α) α :=
  ⟨Inflow.read, Inflow.bytes, Inflow.read_append, Inflow.length_read_le,
    fun stream _ room => stream.read_eq_nil_iff room⟩

@[simp] theorem Inflow.rest_reader {α : Type} (stream : Inflow α) : Inflow.reader.rest stream = stream.bytes := rfl
