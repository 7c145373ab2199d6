import XrayLite.Lib.Transition

/-! `H2Handler::handle` in `src/transport/xhttp/h2.rs`: the accept loop of one
HTTP/2 connection.

Every request that `connection.accept()` yields is counted in `active_streams` and
handed to a task of its own, which takes itself off the count when
`handle_request` returns. Each turn of the loop first reads the count. When it
read zero, the `select!` races the next `accept` against a 300 s sleep, and a
sleep that wins ends the connection: the "zombie watchdog". When it read more, the
sleep is disabled for the whole turn, which then only the next `accept` ends.

Time enters as one action, `quiet`: 300 s pass with no request. The handshake
timeout, the PING task, the stream limit of the h2 builder and what a request does
are not modelled; a request's task may return at any step, before or after the
loop ends.
-/

set_option autoImplicit false

namespace XrayLite.Xhttp

inductive LoopPhase where
  /-- The top of a turn, before `active_streams.load`. -/
  | top
  /-- In the `select!`, with the `is_idle` the turn read. -/
  | selecting (isIdle : Bool)
  /-- Ended by `break` after the watchdog's sleep. -/
  | zombie
  /-- Ended by `break` after `accept` gave an error or no request. -/
  | closed
  deriving DecidableEq, Repr

/-- The loop and the tasks it spawned. -/
structure ConnectionState where
  activeStreams : Nat
  phase : LoopPhase
  /-- One entry per accepted request, in order: whether its task still runs. -/
  streams : List Bool
  deriving DecidableEq, Repr

def ConnectionState.init : ConnectionState := ⟨0, .top, []⟩

inductive ConnectionAction where
  /-- The loop reads `active_streams`. -/
  | load
  /-- The next `connection.accept()` yields a request. -/
  | request
  /-- The next `connection.accept()` yields `Some(Err(_))` or `None`. -/
  | acceptEnd
  /-- Time passes: 300 s with no request. -/
  | quiet
  /-- The task of the request with this index returns. -/
  | streamReturn (stream : Nat)
  deriving DecidableEq, Repr

def ConnectionState.next (s : ConnectionState) : ConnectionAction → Option ConnectionState
  | .load =>
    match s.phase with
    | .top => some { s with phase := .selecting (s.activeStreams == 0) }
    | _ => none
  | .request =>
    match s.phase with
    -- `fetch_add(1)`, then `tokio::spawn`
    | .selecting _ => some ⟨s.activeStreams + 1, .top, s.streams ++ [true]⟩
    | _ => none
  | .acceptEnd =>
    match s.phase with
    | .selecting _ => some { s with phase := .closed }
    | _ => none
  | .quiet =>
    match s.phase with
    | .selecting true => some { s with phase := .zombie }
    -- no sleep races this turn's `accept`, or the loop is not waiting on one
    | _ => some s
  | .streamReturn stream =>
    -- `fetch_sub(1)` once `handle_request` has returned, `Ok` or `Err`
    if s.streams[stream]? = some true then
      some { s with activeStreams := s.activeStreams - 1, streams := s.streams.set stream false }
    else none

section Steps

variable {s s' : ConnectionState}

theorem ConnectionState.next_load (stepped : s.next .load = some s') :
    s.phase = .top ∧ s' = { s with phase := .selecting (s.activeStreams == 0) } := by
  simp only [ConnectionState.next] at stepped
  split at stepped
  case h_1 top => exact ⟨top, (Option.some.inj stepped).symm⟩
  case h_2 => cases stepped

theorem ConnectionState.next_request (stepped : s.next .request = some s') :
    (∃ idle, s.phase = .selecting idle) ∧ s' = ⟨s.activeStreams + 1, .top, s.streams ++ [true]⟩ := by
  simp only [ConnectionState.next] at stepped
  split at stepped
  case h_1 idle selecting => exact ⟨⟨idle, selecting⟩, (Option.some.inj stepped).symm⟩
  case h_2 => cases stepped

theorem ConnectionState.next_acceptEnd (stepped : s.next .acceptEnd = some s') :
    (∃ idle, s.phase = .selecting idle) ∧ s' = { s with phase := .closed } := by
  simp only [ConnectionState.next] at stepped
  split at stepped
  case h_1 idle selecting => exact ⟨⟨idle, selecting⟩, (Option.some.inj stepped).symm⟩
  case h_2 => cases stepped

theorem ConnectionState.next_quiet (stepped : s.next .quiet = some s') :
    (s.phase = .selecting true ∧ s' = { s with phase := .zombie }) ∨
      (s.phase ≠ .selecting true ∧ s' = s) := by
  simp only [ConnectionState.next] at stepped
  split at stepped
  case h_1 idle => exact .inl ⟨idle, (Option.some.inj stepped).symm⟩
  case h_2 busy => exact .inr ⟨busy, (Option.some.inj stepped).symm⟩

theorem ConnectionState.next_streamReturn {stream : Nat} (stepped : s.next (.streamReturn stream) = some s') :
    s.streams[stream]? = some true ∧
      s' = { s with activeStreams := s.activeStreams - 1, streams := s.streams.set stream false } := by
  simp only [ConnectionState.next] at stepped
  split at stepped
  case isTrue running => exact ⟨running, (Option.some.inj stepped).symm⟩
  case isFalse => cases stepped

theorem ConnectionState.next_quiet_of_busy (busy : s.phase ≠ .selecting true) : s.next .quiet = some s := by
  simp only [ConnectionState.next]

end Steps

/-- The count is the number of running tasks, and a turn that read a zero count
has had no task start since. -/
structure ConnectionInv (s : ConnectionState) : Prop where
  counted : s.activeStreams = s.streams.count true
  idle : s.phase = .selecting true → s.activeStreams = 0

theorem connectionInv_init : ConnectionInv ConnectionState.init where
  counted := rfl
  idle := fun _ => rfl

theorem connectionInv_next {s s' : ConnectionState} {a : ConnectionAction} (inv : ConnectionInv s)
    (stepped : s.next a = some s') : ConnectionInv s' := by
  cases a with
  | load =>
    obtain ⟨-, rfl⟩ := ConnectionState.next_load stepped
    refine ⟨inv.counted, fun idle => ?_⟩
    simpa using idle
  | request =>
    obtain ⟨-, rfl⟩ := ConnectionState.next_request stepped
    refine ⟨?_, fun top => by cases top⟩
    rw [List.count_append, List.count_singleton_self, inv.counted]
  | acceptEnd =>
    obtain ⟨-, rfl⟩ := ConnectionState.next_acceptEnd stepped
    exact ⟨inv.counted, fun closed => by cases closed⟩
  | quiet =>
    rcases ConnectionState.next_quiet stepped with ⟨-, rfl⟩ | ⟨-, rfl⟩
    case inl => exact ⟨inv.counted, fun zombie => by cases zombie⟩
    case inr => exact inv
  | streamReturn stream =>
    obtain ⟨running, rfl⟩ := ConnectionState.next_streamReturn stepped
    obtain ⟨within, found⟩ := List.getElem?_eq_some_iff.mp running
    have returned : (s.streams.set stream false).count true = s.streams.count true - 1 := by
      simp [List.count_set within, found]
    refine ⟨?_, fun idle => ?_⟩
    case refine_1 => rw [returned, inv.counted]
    case refine_2 =>
      have zero : s.activeStreams = 0 := inv.idle idle
      simp only at zero ⊢
      omega

/-- Over every interleaving of the loop with its tasks, the count is the number
of running tasks, and a turn that read a zero count still has none. -/
theorem connectionInv_reachable {s : ConnectionState}
    (reached : Transition.Reachable ConnectionState.next (· = .init) s) : ConnectionInv s := by
  refine Transition.Reachable.invariant ?_ ?_ reached
  case refine_1 => rintro _ rfl; exact connectionInv_init
  case refine_2 => exact fun _ _ _ inv stepped => connectionInv_next inv stepped

theorem watchdog_reaps_idle_turn {s : ConnectionState}
    (reached : Transition.Reachable ConnectionState.next (· = .init) s)
    (top : s.phase = .top) (idle : true ∉ s.streams) :
    Transition.exec ConnectionState.next s [.load, .quiet] = some { s with phase := .zombie } := by
  have zero : s.activeStreams = 0 := by
    rw [(connectionInv_reachable reached).counted]
    exact List.count_eq_zero.mpr idle
  simp [Transition.exec_cons, ConnectionState.next, top, zero]

theorem exec_quiet_of_busy {s : ConnectionState} (busy : s.phase ≠ .selecting true) (k : Nat) :
    Transition.exec ConnectionState.next s (List.replicate k .quiet) = some s := by
  induction k with
  | zero => rfl
  | succ k ih =>
    rw [List.replicate_succ, Transition.exec_cons, ConnectionState.next_quiet_of_busy busy]
    exact ih

/-- A connection whose last task returns while the loop waits on `accept` stays
open with no stream for as long as no request comes: the watchdog, meant to close
a connection that has no active stream and no new request for 300 s, never fires.
One request, whose task returns after the next turn read the count, is enough. -/
theorem watchdog_misses_idle_connection :
    ∃ s, Transition.Reachable ConnectionState.next (· = .init) s ∧ s.phase = .selecting false ∧
      true ∉ s.streams ∧ ∀ k, Transition.exec ConnectionState.next s (List.replicate k .quiet) = some s := by
  refine ⟨⟨0, .selecting false, [false]⟩, ?_, rfl, by decide, exec_quiet_of_busy (by decide)⟩
  exact Transition.Reachable.of_exec (Transition.Reachable.init rfl)
    (show Transition.exec ConnectionState.next ConnectionState.init [.load, .request, .load, .streamReturn 0] =
      some ⟨0, .selecting false, [false]⟩ from rfl)

end XrayLite.Xhttp
