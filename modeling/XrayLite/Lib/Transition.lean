import Mathlib

/-! Labelled transition systems given by a partial step function.

`next s a` is the state after action `a` from `s`, or `none` when `a` cannot
happen there. A run takes a list of actions in order; a state is reachable
when some run leads to it from an initial state. Safety is proved by the
invariant rule: a property of the initial states that every step keeps holds
on every reachable state. `exec` runs a list of actions, so that a particular
interleaving can be evaluated.
-/

set_option autoImplicit false

namespace Transition

variable {σ α : Type} (next : σ → α → Option σ)

def exec : σ → List α → Option σ
  | s, [] => some s
  | s, a :: actions => (next s a).bind fun s' => exec s' actions

/-- The states reachable from `init` through actions that can happen. -/
inductive Reachable (init : σ → Prop) : σ → Prop
  | init {s : σ} : init s → Reachable init s
  | step {s s' : σ} (a : α) : Reachable init s → next s a = some s' → Reachable init s'

variable {next}

@[simp] theorem exec_nil (s : σ) : exec next s [] = some s := rfl

theorem exec_cons (s : σ) (a : α) (actions : List α) :
    exec next s (a :: actions) = (next s a).bind fun s' => exec next s' actions := rfl

theorem Reachable.of_exec {init : σ → Prop} {s s' : σ} (start : Reachable next init s) :
    ∀ {actions : List α}, exec next s actions = some s' → Reachable next init s'
  | [], ran => by
    cases ran
    exact start
  | a :: actions, ran => by
    rw [exec_cons] at ran
    cases stepped : next s a with
    | none => rw [stepped] at ran; cases ran
    | some s₁ =>
      rw [stepped] at ran
      exact Reachable.of_exec (start.step a stepped) ran

/-- The invariant rule. -/
theorem Reachable.invariant {init inv : σ → Prop} (initial : ∀ s, init s → inv s)
    (preserved : ∀ s a s', inv s → next s a = some s' → inv s') {s : σ} :
    Reachable next init s → inv s := by
  intro reachable
  induction reachable with
  | init start => exact initial _ start
  | step a _ stepped ih => exact preserved _ a _ ih stepped

end Transition
