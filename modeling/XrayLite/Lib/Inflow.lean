import Mathlib

/-! A byte stream as its reader sees it.

The peer's bytes arrive in segments whose boundaries the reader does not
choose: TCP segments, TLS records, HTTP/2 DATA frames, or a local pipe's
writes. A `read` with room for `capacity` bytes returns the front of the first
segment, never more than `capacity`; it returns nothing only at the end of the
stream. Quantifying over `Inflow` values quantifies over every way a stream can
be split into reads.
-/

set_option autoImplicit false

/-- The bytes a peer has sent and the reader has not taken yet, segment by segment. -/
structure Inflow (α : Type) where
  segments : List (List α)
  nonempty : ∀ segment ∈ segments, segment ≠ []

namespace Inflow

variable {α : Type}

def bytes (inflow : Inflow α) : List α := inflow.segments.flatten

def empty : Inflow α := ⟨[], by simp⟩

def single (data : List α) : Inflow α :=
  if empty : data = [] then ⟨[], by simp⟩ else ⟨[data], by simpa using empty⟩

@[simp] theorem bytes_empty : (empty : Inflow α).bytes = [] := rfl

@[simp] theorem bytes_single (data : List α) : (single data).bytes = data := by
  unfold single
  split <;> simp_all [bytes]

/-- One `read` with room for `capacity` bytes. -/
def read (inflow : Inflow α) (capacity : Nat) : List α × Inflow α :=
  match inflow with
  | ⟨[], _⟩ => ([], inflow)
  | ⟨segment :: segments, nonempty⟩ =>
    if fits : segment.length ≤ capacity then
      (segment, ⟨segments, fun s member => nonempty s (List.mem_cons_of_mem _ member)⟩)
    else
      (segment.take capacity, ⟨segment.drop capacity :: segments, by
        intro s member
        rcases List.mem_cons.mp member with rfl | member
        · simp only [ne_eq, List.drop_eq_nil_iff]
          omega
        · exact nonempty s (List.mem_cons_of_mem _ member)⟩)

theorem read_append (inflow : Inflow α) (capacity : Nat) :
    (inflow.read capacity).1 ++ (inflow.read capacity).2.bytes = inflow.bytes := by
  obtain ⟨segments, nonempty⟩ := inflow
  cases segments with
  | nil => rfl
  | cons segment segments =>
    simp only [read]
    split
    · simp [bytes]
    · simp [bytes, ← List.append_assoc]

theorem length_read_le (inflow : Inflow α) (capacity : Nat) :
    (inflow.read capacity).1.length ≤ capacity := by
  obtain ⟨segments, nonempty⟩ := inflow
  cases segments with
  | nil => simp [read]
  | cons segment segments =>
    simp only [read]
    split
    · assumption
    · simp

theorem read_eq_nil_iff (inflow : Inflow α) {capacity : Nat} (room : 0 < capacity) :
    (inflow.read capacity).1 = [] ↔ inflow.bytes = [] := by
  obtain ⟨segments, nonempty⟩ := inflow
  cases segments with
  | nil => simp [read, bytes]
  | cons segment segments =>
    have filled : segment ≠ [] := nonempty segment (by simp)
    simp only [read, bytes, List.flatten_cons, List.append_eq_nil_iff]
    split
    · simp [filled]
    · simp [filled, List.take_eq_nil_iff]
      omega

theorem length_bytes_read_lt (inflow : Inflow α) (capacity : Nat)
    (taken : (inflow.read capacity).1 ≠ []) :
    (inflow.read capacity).2.bytes.length < inflow.bytes.length := by
  have whole := congrArg List.length (inflow.read_append capacity)
  rw [List.length_append] at whole
  have : 0 < (inflow.read capacity).1.length := List.length_pos_iff.mpr taken
  omega

def drain (inflow : Inflow α) (capacity : Nat) : List (List α) :=
  let taken := inflow.read capacity
  if taken.1 = [] then [] else taken.1 :: taken.2.drain capacity
termination_by inflow.bytes.length
decreasing_by exact inflow.length_bytes_read_lt capacity ‹_›

/-- Reading until the end of the stream delivers every byte once, in order. -/
theorem flatten_drain (inflow : Inflow α) {capacity : Nat} (room : 0 < capacity) :
    (inflow.drain capacity).flatten = inflow.bytes := by
  induction inflow using drain.induct capacity with
  | case1 inflow taken ended =>
    rw [drain, if_pos ended]
    exact ((inflow.read_eq_nil_iff room).mp ended).symm
  | case2 inflow taken more ih =>
    rw [drain, if_neg more, List.flatten_cons, ih]
    exact inflow.read_append capacity

def dropSegments (n : Nat) : List (List α) → List (List α)
  | [] => []
  | segment :: segments =>
    if n < segment.length then segment.drop n :: segments
    else dropSegments (n - segment.length) segments

theorem flatten_dropSegments (n : Nat) (segments : List (List α)) :
    (dropSegments n segments).flatten = segments.flatten.drop n := by
  induction segments generalizing n with
  | nil => simp [dropSegments]
  | cons segment segments ih =>
    simp only [dropSegments, List.flatten_cons]
    split
    · rw [List.drop_append_of_le_length (by omega)]
      simp
    · have used : segment.length ≤ n := by omega
      rw [ih, List.drop_append, List.drop_eq_nil_of_le used, List.nil_append]

theorem dropSegments_nonempty (n : Nat) (segments : List (List α))
    (nonempty : ∀ segment ∈ segments, segment ≠ []) :
    ∀ segment ∈ dropSegments n segments, segment ≠ [] := by
  induction segments generalizing n with
  | nil => simp [dropSegments]
  | cons segment segments ih =>
    have tail : ∀ s ∈ segments, s ≠ [] := fun s member => nonempty s (List.mem_cons_of_mem _ member)
    simp only [dropSegments]
    split
    · intro s member
      rcases List.mem_cons.mp member with rfl | member
      · simp only [ne_eq, List.drop_eq_nil_iff]
        omega
      · exact tail s member
    · exact ih _ tail

def skip (inflow : Inflow α) (n : Nat) : Inflow α :=
  ⟨dropSegments n inflow.segments, dropSegments_nonempty n inflow.segments inflow.nonempty⟩

@[simp] theorem bytes_skip (inflow : Inflow α) (n : Nat) : (inflow.skip n).bytes = inflow.bytes.drop n :=
  flatten_dropSegments n inflow.segments

/-- `read_exact` of `n` bytes: it reads until `n` bytes have arrived, and fails
(`UnexpectedEof`) if the stream ends first. -/
def readExact (inflow : Inflow α) (n : Nat) : Option (List α × Inflow α) :=
  if n ≤ inflow.bytes.length then some (inflow.bytes.take n, inflow.skip n) else none

theorem readExact_eq_some_iff (inflow : Inflow α) (n : Nat) (taken : List α) (rest : Inflow α) :
    inflow.readExact n = some (taken, rest) ↔
      n ≤ inflow.bytes.length ∧ taken = inflow.bytes.take n ∧ rest = inflow.skip n := by
  unfold readExact
  split <;> simp_all [eq_comm]

end Inflow
