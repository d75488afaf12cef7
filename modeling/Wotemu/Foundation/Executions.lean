import Wotemu.Foundation.Transition

/-! Endless executions of a system that takes labelled steps.

The steps may be any time apart. A process is treated fairly when it takes
another step again and again until it is over.
-/

set_option autoImplicit false

namespace Wotemu.Foundation

variable {σ ε : Type}

structure Execution (step : Transition σ ε) (start : σ) where
  states : Nat → σ
  events : Nat → Option ε
  starts : states 0 = start
  idles : ∀ time, events time = none → states (time + 1) = states time
  steps : ∀ time event, events time = some event → step (states time) event = some (states (time + 1))

namespace Execution

variable {step : Transition σ ε} {start : σ} (execution : Execution step start)

theorem exists_run (time : Nat) :
    ∃ events, Transition.run step start events = some (execution.states time) := by
  induction time with
  | zero => exact ⟨[], congrArg some execution.starts.symm⟩
  | succ time ih =>
    obtain ⟨events, ran⟩ := ih
    cases taken : execution.events time with
    | none => exact ⟨events, by rw [ran, execution.idles time taken]⟩
    | some event =>
      have last : Transition.run step (execution.states time) [event] = some (execution.states (time + 1)) :=
        Transition.run_cons.mpr ⟨_, execution.steps time event taken, rfl⟩
      exact ⟨events ++ [event], Transition.run_append ran last⟩

theorem keeps {kept : σ → Prop} (preserves : ∀ state event next, kept state → step state event = some next → kept next)
    {first later : Nat} (le : first ≤ later) (here : kept (execution.states first)) :
    kept (execution.states later) := by
  induction le with
  | refl => exact here
  | @step time _ ih =>
    cases taken : execution.events time with
    | none => exact execution.idles time taken ▸ ih
    | some event => exact preserves _ _ _ ih (execution.steps time event taken)

def Fair (own : ε → Prop) (ended : σ → Prop) : Prop := ∀ first, ∃ time, first ≤ time ∧
  (ended (execution.states time) ∨ ∃ event, execution.events time = some event ∧ own event)

variable {execution}

theorem Fair.exists_step {own : ε → Prop} {ended : σ → Prop} (fair : execution.Fair own ended)
    (never : ∀ time, ¬ ended (execution.states time)) (first : Nat) :
    ∃ time event, first ≤ time ∧ own event ∧ execution.events time = some event ∧
      step (execution.states time) event = some (execution.states (time + 1)) := by
  obtain ⟨time, later, stopped | ⟨event, taken, isOwn⟩⟩ := fair first
  · exact absurd stopped (never time)
  · exact ⟨time, event, later, isOwn, taken, execution.steps time event taken⟩

end Execution

end Wotemu.Foundation
