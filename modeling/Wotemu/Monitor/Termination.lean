import Mathlib.Algebra.Order.Ring.Rat
import Mathlib.Data.Rat.Floor
import Mathlib.Tactic.Linarith
import Wotemu.Foundation.Transition

/-! How `monitor_packets` ends its capture process.

The process is asked to stop, then terminated, then killed. Between two of
these the coroutine polls the exit code until a deadline. The process exits at
any time of its own, and a cancellation arrives where the coroutine sleeps.
-/

set_option autoImplicit false

namespace Wotemu

open Wotemu.Foundation

/-- Where a call of `_wait_process_exit` is. It counts its sleeps. -/
inductive ExitWait where
  | called
  | testing (limit : Rat) (naps : Nat)
  | reading (limit : Rat) (naps : Nat)
  | sleeping (limit : Rat) (naps : Nat) (wake : Rat)
  deriving DecidableEq

/-- Where `_terminate_process` is. -/
inductive TerminationStage where
  | starting
  | stopping (wait : ExitWait)
  | deciding
  | terminating
  | joining (wait : ExitWait)
  | checking
  | killing
  | returned
  | raised
  deriving DecidableEq

structure Termination where
  now : Rat
  exited : Bool
  stopSet : Option Rat
  terminated : Option Rat
  killed : Option Rat
  /-- The second wait was cancelled, or `terminate` raised. -/
  interrupted : Bool
  stage : TerminationStage
  deriving DecidableEq

/-- A signal may fail. The clock and the process go on between any two steps of the coroutine. -/
inductive TerminationEvent where
  | tick (elapsed : Rat)
  | exit
  | step
  | terminate (ok : Bool)
  | kill (ok : Bool)
  | cancel
  deriving DecidableEq

structure TerminationSetup where
  stopSleep : Rat
  stopTimeout : Rat
  stopJoinTimeout : Rat

/-- The defaults of `monitor_packets`. -/
def TerminationSetup.default : TerminationSetup where
  stopSleep := 1 / 10
  stopTimeout := 5
  stopJoinTimeout := 5

namespace TerminationEvent

def program : TerminationEvent → Bool
  | step | terminate _ | kill _ => true
  | _ => false

def interrupts : TerminationEvent → Bool
  | cancel => true
  | terminate ok => !ok
  | _ => false

end TerminationEvent

namespace ExitWait

/-- A step of `_wait_process_exit`, unless it sleeps. It may return. -/
def step (timeout nap now : Rat) (exited : Bool) : ExitWait → Option (Option ExitWait)
  | called => some (some (testing (now + timeout) 0))
  | testing limit naps => some (if now ≤ limit then some (reading limit naps) else none)
  | reading limit naps => some (if exited then none else some (sleeping limit (naps + 1) (now + nap)))
  | sleeping limit naps wake => if wake ≤ now then some (some (testing limit naps)) else none

def asleep : ExitWait → Bool
  | sleeping _ _ _ => true
  | _ => false

/-- A wait that was called at a time has its deadline, and has slept no longer than the deadline allows. -/
def Within (timeout nap since now : Rat) : ExitWait → Prop
  | called => since ≤ now
  | testing limit naps => since + timeout ≤ limit ∧ naps * nap ≤ now - (limit - timeout) ∧
      naps * nap ≤ max 0 timeout + nap
  | reading limit naps => since + timeout ≤ limit ∧ naps * nap ≤ now - (limit - timeout) ∧ naps * nap ≤ timeout
  | sleeping limit naps wake => since + timeout ≤ limit ∧ naps * nap ≤ wake - (limit - timeout) ∧
      naps * nap ≤ timeout + nap

variable {timeout nap since now after : Rat} {exited : Bool} {wait next : ExitWait}

theorem Within.later (within : wait.Within timeout nap since now) (passes : now ≤ after) :
    wait.Within timeout nap since after := by
  cases wait with
  | called => exact le_trans within passes
  | testing limit naps => exact ⟨within.1, by linarith [within.2.1], within.2.2⟩
  | reading limit naps => exact ⟨within.1, by linarith [within.2.1], within.2.2⟩
  | sleeping limit naps wake => exact within

theorem Within.step (within : wait.Within timeout nap since now) (positive : 0 ≤ nap)
    (stepped : wait.step timeout nap now exited = some (some next)) : next.Within timeout nap since now := by
  cases wait with
  | called =>
    cases stepped
    have slack := le_max_left 0 timeout
    simp only [Within] at within ⊢
    refine ⟨by linarith, by simp, ?_⟩
    simp only [Nat.cast_zero, zero_mul]
    linarith
  | testing limit naps =>
    simp only [ExitWait.step, Option.some.injEq] at stepped
    split at stepped
    · rename_i early
      cases stepped
      exact ⟨within.1, within.2.1, by linarith [within.2.1]⟩
    · cases stepped
  | reading limit naps =>
    simp only [ExitWait.step, Option.some.injEq] at stepped
    split at stepped
    · cases stepped
    · cases stepped
      obtain ⟨deadline, elapsed, slept⟩ := within
      -- one more nap, which the bound counts
      have grows : ((naps + 1 : Nat) : Rat) * nap = naps * nap + nap := by
        push_cast
        ring
      simp only [Within, grows]
      exact ⟨deadline, by linarith, by linarith⟩
  | sleeping limit naps wake =>
    simp only [ExitWait.step] at stepped
    split at stepped
    · rename_i woken
      cases stepped
      have slack := le_max_right 0 timeout
      exact ⟨within.1, by linarith [within.2.1], by linarith [within.2.2]⟩
    · cases stepped

theorem Within.returned (within : wait.Within timeout nap since now)
    (stepped : wait.step timeout nap now exited = some none) : exited = true ∨ since + timeout < now := by
  cases wait with
  | called => cases stepped
  | testing limit naps =>
    simp only [ExitWait.step, Option.some.injEq] at stepped
    split at stepped
    · cases stepped
    · rename_i late
      exact .inr (lt_of_le_of_lt within.1 (not_le.mp late))
  | reading limit naps =>
    simp only [ExitWait.step, Option.some.injEq] at stepped
    split at stepped
    · rename_i found
      exact .inl found
    · cases stepped
  | sleeping limit naps wake =>
    simp only [ExitWait.step] at stepped
    split at stepped <;> cases stepped

def most (timeout nap : Rat) : Nat := ⌊max 0 timeout / nap⌋.toNat + 1

def remaining (most : Nat) : ExitWait → Int
  | called => 3 * most + 2
  | testing _ naps => 3 * (most - naps) + 1
  | reading _ naps => 3 * (most - naps)
  | sleeping _ naps _ => 3 * (most - naps) + 2

theorem naps_lt_most {naps : Nat} (positive : 0 < nap) (slept : naps * nap ≤ max 0 timeout) :
    naps < most timeout nap := by
  have fits : ((naps : Int) : Rat) ≤ max 0 timeout / nap := by
    rw [le_div_iff₀ positive]
    exact_mod_cast slept
  have floored := Int.le_floor.mpr fits
  unfold most
  omega

theorem naps_le_most {naps : Nat} (positive : 0 < nap) (slept : naps * nap ≤ max 0 timeout + nap) :
    naps ≤ most timeout nap := by
  cases naps with
  | zero => exact Nat.zero_le _
  | succ naps =>
    refine naps_lt_most positive ?_
    push_cast at slept
    linarith

theorem Within.remaining_nonneg (within : wait.Within timeout nap since now) (positive : 0 < nap) :
    0 ≤ wait.remaining (most timeout nap) := by
  have slack := le_max_right 0 timeout
  cases wait with
  | called =>
    simp only [remaining]
    omega
  | testing limit naps =>
    have few := naps_le_most positive within.2.2
    simp only [remaining]
    omega
  | reading limit naps =>
    have few := naps_lt_most positive (le_trans within.2.2 slack)
    simp only [remaining]
    omega
  | sleeping limit naps wake =>
    have few := naps_le_most positive (le_trans within.2.2 (by linarith))
    simp only [remaining]
    omega

theorem Within.remaining_step (within : wait.Within timeout nap since now) (positive : 0 < nap)
    {result : Option ExitWait} (stepped : wait.step timeout nap now exited = some result) :
    (result.elim 0 (remaining (most timeout nap))) + 1 ≤ wait.remaining (most timeout nap) := by
  cases wait with
  | called =>
    cases stepped
    simp only [Option.elim, remaining]
    omega
  | testing limit naps =>
    have few := naps_le_most positive within.2.2
    simp only [ExitWait.step, Option.some.injEq] at stepped
    split at stepped <;> cases stepped <;> simp only [Option.elim, remaining] <;> omega
  | reading limit naps =>
    have few := naps_lt_most positive (le_trans within.2.2 (le_max_right 0 timeout))
    simp only [ExitWait.step, Option.some.injEq] at stepped
    split at stepped <;> cases stepped <;> simp only [Option.elim, remaining] <;> push_cast <;> omega
  | sleeping limit naps wake =>
    simp only [ExitWait.step] at stepped
    split at stepped <;> cases stepped
    simp only [Option.elim, remaining]
    omega

end ExitWait

namespace TerminationSetup

variable (setup : TerminationSetup)

def waited (timeout : Rat) (state : Termination) (wait : ExitWait) (inside : ExitWait → TerminationStage)
    (after : TerminationStage) : Option Termination :=
  (wait.step timeout setup.stopSleep state.now state.exited).map fun
    | some next => { state with stage := inside next }
    | none => { state with stage := after }

/-- `_terminate_process`, its process and its clock. -/
def step : Transition Termination TerminationEvent := fun state event =>
  match event with
  | .tick elapsed => if 0 ≤ elapsed then some { state with now := state.now + elapsed } else none
  | .exit => some { state with exited := true }
  | .step => match state.stage with
    | .starting => some { state with stopSet := some state.now, stage := .stopping .called }
    | .stopping wait => setup.waited setup.stopTimeout state wait .stopping .deciding
    | .deciding => some { state with stage := if state.exited then .returned else .terminating }
    | .joining wait => setup.waited setup.stopJoinTimeout state wait .joining .checking
    | .checking => some { state with stage := if state.exited then .returned else .killing }
    | _ => none
  | .terminate ok => match state.stage with
    | .terminating => some { state with
        terminated := some state.now
        interrupted := !ok
        stage := if ok then .joining .called else .checking }
    | _ => none
  | .kill _ => match state.stage with
    -- a failed signal is logged
    | .killing => some { state with killed := some state.now, stage := .returned }
    | _ => none
  | .cancel => match state.stage with
    | .stopping wait => if wait.asleep then some { state with stage := .raised } else none
    -- the bare `except` swallows it
    | .joining wait => if wait.asleep then some { state with interrupted := true, stage := .checking } else none
    | _ => none

end TerminationSetup

namespace Termination

def start (now : Rat) : Termination where
  now
  exited := false
  stopSet := none
  terminated := none
  killed := none
  interrupted := false
  stage := .starting

variable {setup : TerminationSetup} {state next : Termination}

/-- The process is terminated after the timeout of its stop event, and killed after that of its termination, or
earlier when the wait for it was cut short. -/
structure Signalled (setup : TerminationSetup) (state : Termination) : Prop where
  terminates : ∀ time, state.terminated = some time →
    ∃ since, state.stopSet = some since ∧ since + setup.stopTimeout < time
  kills : ∀ time, state.killed = some time →
    ∃ since, state.terminated = some since ∧ (state.interrupted = true ∨ since + setup.stopJoinTimeout < time)

def Place (setup : TerminationSetup) (state : Termination) : Prop :=
  match state.stage with
  | .starting | .raised => state.terminated = none ∧ state.killed = none
  | .stopping wait => (∃ since, state.stopSet = some since ∧
      wait.Within setup.stopTimeout setup.stopSleep since state.now) ∧ state.terminated = none ∧ state.killed = none
  | .deciding => (∃ since, state.stopSet = some since ∧
      (state.exited = true ∨ since + setup.stopTimeout < state.now)) ∧ state.terminated = none ∧ state.killed = none
  | .terminating => (∃ since, state.stopSet = some since ∧ since + setup.stopTimeout < state.now) ∧
      state.killed = none
  | .joining wait => (∃ since, state.terminated = some since ∧
      wait.Within setup.stopJoinTimeout setup.stopSleep since state.now) ∧ state.killed = none
  | .checking => (∃ since, state.terminated = some since ∧ (state.exited = true ∨ state.interrupted = true ∨
      since + setup.stopJoinTimeout < state.now)) ∧ state.killed = none
  | .killing => ∃ since, state.terminated = some since ∧ (state.interrupted = true ∨
      since + setup.stopJoinTimeout < state.now)
  | .returned => state.exited = true ∨ ∃ time, state.killed = some time

theorem Place.tick {elapsed : Rat} (place : Place setup state) (passes : 0 ≤ elapsed) :
    Place setup { state with now := state.now + elapsed } := by
  have on : state.now ≤ state.now + elapsed := by linarith
  obtain ⟨now, exited, stopSet, terminated, killed, interrupted, stage⟩ := state
  cases stage with
  | starting | returned | raised => exact place
  | stopping wait | joining wait =>
    obtain ⟨⟨since, set, within⟩, unsignalled⟩ := place
    exact ⟨⟨since, set, within.later on⟩, unsignalled⟩
  | deciding =>
    obtain ⟨⟨since, set, why⟩, unsignalled⟩ := place
    exact ⟨⟨since, set, why.imp_right fun late => lt_of_lt_of_le late on⟩, unsignalled⟩
  | terminating =>
    obtain ⟨⟨since, set, late⟩, unsignalled⟩ := place
    exact ⟨⟨since, set, lt_of_lt_of_le late on⟩, unsignalled⟩
  | checking =>
    obtain ⟨⟨since, set, why⟩, unsignalled⟩ := place
    exact ⟨⟨since, set, why.imp_right fun cut => cut.imp_right fun late => lt_of_lt_of_le late on⟩, unsignalled⟩
  | killing =>
    obtain ⟨since, set, why⟩ := place
    exact ⟨since, set, why.imp_right fun late => lt_of_lt_of_le late on⟩

theorem Place.exit (place : Place setup state) : Place setup { state with exited := true } := by
  obtain ⟨now, exited, stopSet, terminated, killed, interrupted, stage⟩ := state
  cases stage with
  | starting | raised | stopping | terminating | joining | killing => exact place
  | deciding =>
    obtain ⟨⟨since, set, -⟩, unsignalled⟩ := place
    exact ⟨⟨since, set, .inl rfl⟩, unsignalled⟩
  | checking =>
    obtain ⟨⟨since, set, -⟩, unsignalled⟩ := place
    exact ⟨⟨since, set, .inl rfl⟩, unsignalled⟩
  | returned => exact .inl rfl

theorem waited_leads {timeout since : Rat} {wait : ExitWait} {inside : ExitWait → TerminationStage}
    {after : TerminationStage} (positive : 0 ≤ setup.stopSleep)
    (within : wait.Within timeout setup.stopSleep since state.now)
    (stepped : setup.waited timeout state wait inside after = some next) :
    (∃ later : ExitWait, later.Within timeout setup.stopSleep since state.now ∧
      next = { state with stage := inside later }) ∨
    (next = { state with stage := after } ∧ (state.exited = true ∨ since + timeout < state.now)) := by
  obtain ⟨result, moved, rfl⟩ := Option.map_eq_some_iff.mp stepped
  cases result with
  | some later => exact .inl ⟨later, within.step positive moved, rfl⟩
  | none => exact .inr ⟨rfl, within.returned moved⟩

/-- Every step of the coroutine knows what the next one needs. -/
theorem Place.step (place : Place setup state) (positive : 0 ≤ setup.stopSleep)
    (stepped : setup.step state .step = some next) : Place setup next := by
  obtain ⟨now, exited, stopSet, terminated, killed, interrupted, stage⟩ := state
  cases stage with
  | starting =>
    cases stepped
    exact ⟨⟨now, rfl, le_refl now⟩, place⟩
  | stopping wait =>
    obtain ⟨⟨since, set, within⟩, unsignalled⟩ := place
    rcases waited_leads positive within stepped with ⟨later, kept, rfl⟩ | ⟨rfl, why⟩
    · exact ⟨⟨since, set, kept⟩, unsignalled⟩
    · exact ⟨⟨since, set, why⟩, unsignalled⟩
  | deciding =>
    cases stepped
    obtain ⟨⟨since, set, why⟩, unsignalled⟩ := place
    cases exited with
    | true => exact .inl rfl
    | false => exact ⟨⟨since, set, why.resolve_left (by simp)⟩, unsignalled.2⟩
  | joining wait =>
    obtain ⟨⟨since, set, within⟩, unkilled⟩ := place
    rcases waited_leads positive within stepped with ⟨later, kept, rfl⟩ | ⟨rfl, why⟩
    · exact ⟨⟨since, set, kept⟩, unkilled⟩
    · exact ⟨⟨since, set, why.imp_right .inr⟩, unkilled⟩
  | checking =>
    cases stepped
    obtain ⟨⟨since, set, why⟩, unkilled⟩ := place
    cases exited with
    | true => exact .inl rfl
    | false => exact ⟨since, set, why.resolve_left (by simp)⟩
  | terminating | killing | returned | raised => cases stepped

/-- What the coroutine knows, and what it has done. -/
structure Escalates (setup : TerminationSetup) (state : Termination) : Prop where
  signalled : Signalled setup state
  place : Place setup state

theorem step_marks (stepped : setup.step state .step = some next) :
    (state.stage = .starting ∨ next.stopSet = state.stopSet) ∧ next.terminated = state.terminated ∧
      next.killed = state.killed ∧ next.interrupted = state.interrupted := by
  obtain ⟨now, exited, stopSet, terminated, killed, interrupted, stage⟩ := state
  cases stage with
  | starting =>
    cases stepped
    exact ⟨.inl rfl, rfl, rfl, rfl⟩
  | stopping wait | joining wait =>
    obtain ⟨result, -, rfl⟩ := Option.map_eq_some_iff.mp stepped
    cases result <;> exact ⟨.inr rfl, rfl, rfl, rfl⟩
  | deciding | checking =>
    cases stepped
    exact ⟨.inr rfl, rfl, rfl, rfl⟩
  | terminating | killing | returned | raised => cases stepped

theorem Escalates.step (escalates : Escalates setup state) (positive : 0 ≤ setup.stopSleep)
    (stepped : setup.step state .step = some next) : Escalates setup next := by
  refine ⟨?_, escalates.place.step positive stepped⟩
  obtain ⟨asked, same, unkilled, cut⟩ := step_marks stepped
  constructor
  · intro time terminated
    rw [same] at terminated
    rcases asked with starting | asked
    · have place := escalates.place
      rw [Place, starting] at place
      rw [place.1] at terminated
      cases terminated
    · rw [asked]
      exact escalates.signalled.terminates time terminated
  · rw [unkilled, same, cut]
    exact escalates.signalled.kills

theorem Escalates.event {event : TerminationEvent} (escalates : Escalates setup state) (positive : 0 ≤ setup.stopSleep)
    (stepped : setup.step state event = some next) : Escalates setup next := by
  cases event with
  | step => exact escalates.step positive stepped
  | tick elapsed =>
    simp only [TerminationSetup.step] at stepped
    split at stepped
    · rename_i passes
      cases stepped
      exact ⟨⟨escalates.signalled.terminates, escalates.signalled.kills⟩, escalates.place.tick passes⟩
    · cases stepped
  | exit =>
    cases stepped
    exact ⟨⟨escalates.signalled.terminates, escalates.signalled.kills⟩, escalates.place.exit⟩
  | terminate ok =>
    obtain ⟨now, exited, stopSet, terminated, killed, interrupted, stage⟩ := state
    cases stage with
    | terminating =>
      cases stepped
      obtain ⟨⟨since, set, late⟩, unkilled⟩ := escalates.place
      refine ⟨⟨?_, ?_⟩, ?_⟩
      · intro time terminated
        cases terminated
        exact ⟨since, set, late⟩
      · intro time killed
        cases unkilled.symm.trans killed
      · cases ok with
        | true => exact ⟨⟨now, rfl, le_refl now⟩, unkilled⟩
        | false => exact ⟨⟨now, rfl, .inr (.inl rfl)⟩, unkilled⟩
    | starting | stopping | deciding | joining | checking | killing | returned | raised => cases stepped
  | kill ok =>
    obtain ⟨now, exited, stopSet, terminated, killed, interrupted, stage⟩ := state
    cases stage with
    | killing =>
      cases stepped
      obtain ⟨since, set, why⟩ := escalates.place
      refine ⟨⟨escalates.signalled.terminates, ?_⟩, .inr ⟨now, rfl⟩⟩
      intro time killed
      cases killed
      exact ⟨since, set, why⟩
    | starting | stopping | deciding | terminating | joining | checking | returned | raised => cases stepped
  | cancel =>
    obtain ⟨now, exited, stopSet, terminated, killed, interrupted, stage⟩ := state
    cases stage with
    | stopping wait =>
      simp only [TerminationSetup.step] at stepped
      split at stepped
      · cases stepped
        exact ⟨⟨escalates.signalled.terminates, escalates.signalled.kills⟩, escalates.place.2⟩
      · cases stepped
    | joining wait =>
      simp only [TerminationSetup.step] at stepped
      split at stepped
      · cases stepped
        obtain ⟨⟨since, set, -⟩, unkilled⟩ := escalates.place
        refine ⟨⟨escalates.signalled.terminates, ?_⟩, ⟨⟨since, set, .inr (.inl rfl)⟩, unkilled⟩⟩
        intro time killed
        cases unkilled.symm.trans killed
      · cases stepped
    | starting | deciding | terminating | checking | killing | returned | raised => cases stepped

theorem interrupted_of_step {event : TerminationEvent} (stepped : setup.step state event = some next)
    (cut : next.interrupted = true ∨ next.stage = .raised) :
    (state.interrupted = true ∨ state.stage = .raised) ∨ event.interrupts = true := by
  cases event with
  | cancel => exact .inr rfl
  | terminate ok =>
    cases ok with
    | false => exact .inr rfl
    | true =>
      obtain ⟨now, exited, stopSet, terminated, killed, interrupted, stage⟩ := state
      cases stage <;> cases stepped
      simp at cut
  | tick elapsed =>
    simp only [TerminationSetup.step] at stepped
    split at stepped <;> cases stepped
    exact .inl cut
  | exit =>
    cases stepped
    exact .inl cut
  | kill ok =>
    obtain ⟨now, exited, stopSet, terminated, killed, interrupted, stage⟩ := state
    cases stage <;> cases stepped
    exact .inl (cut.imp_right fun raised => by cases raised)
  | step =>
    obtain ⟨-, -, -, same⟩ := step_marks stepped
    rw [same] at cut
    refine .inl (.inl (cut.resolve_right fun raised => ?_))
    obtain ⟨now, exited, stopSet, terminated, killed, interrupted, stage⟩ := state
    cases stage with
    | starting =>
      cases stepped
      cases raised
    | stopping wait | joining wait =>
      obtain ⟨result, -, rfl⟩ := Option.map_eq_some_iff.mp stepped
      cases result <;> cases raised
    | deciding | checking =>
      cases stepped
      cases exited <;> cases raised
    | terminating | killing | returned | raised => cases stepped

theorem escalates_start (setup : TerminationSetup) (now : Rat) : Escalates setup (start now) := by
  refine ⟨⟨?_, ?_⟩, rfl, rfl⟩ <;> intro time marked <;> cases marked

theorem escalates_run (positive : 0 ≤ setup.stopSleep) {now : Rat} {events : List TerminationEvent}
    {finish : Termination} (ran : Transition.run setup.step (start now) events = some finish) :
    Escalates setup finish := by
  have kept : ∀ state event next, True → Escalates setup state → setup.step state event = some next →
      Escalates setup next := fun _ _ _ _ holds stepped => holds.event positive stepped
  exact Transition.run_invariant kept (fun _ _ => trivial) (escalates_start setup now) ran

/-- How the coroutine ends, in every run. It leaves a process behind that runs and was not killed only when it was
cancelled in its first wait, and then it has sent no signal. -/
theorem terminate_escalates (positive : 0 ≤ setup.stopSleep) {now : Rat} {events : List TerminationEvent}
    {finish : Termination} (ran : Transition.run setup.step (start now) events = some finish) :
    Signalled setup finish ∧
      (finish.stage = .returned → finish.exited = true ∨ ∃ time, finish.killed = some time) ∧
      (finish.stage = .raised → finish.terminated = none ∧ finish.killed = none) ∧
      (finish.interrupted = true ∨ finish.stage = .raised → ∃ event ∈ events, event.interrupts = true) := by
  have escalates := escalates_run positive ran
  have place := escalates.place
  refine ⟨escalates.signalled, fun returned => ?_, fun raised => ?_, fun cut => ?_⟩
  · rwa [Place, returned] at place
  · rwa [Place, raised] at place
  · by_contra clean
    have calm : ∀ event ∈ events, event.interrupts = false := by simpa using clean
    have whole : ∀ (state : Termination) (event : TerminationEvent) (next : Termination), event.interrupts = false →
        ¬ (state.interrupted = true ∨ state.stage = .raised) → setup.step state event = some next →
        ¬ (next.interrupted = true ∨ next.stage = .raised) := fun state event next quiet before stepped later =>
      (interrupted_of_step stepped later).elim before (by simp [quiet])
    have initial : ¬ ((start now).interrupted = true ∨ (start now).stage = .raised) := by simp [start]
    exact Transition.run_invariant whole calm initial ran cut

def remaining (setup : TerminationSetup) (state : Termination) : Int :=
  let stopMost := ExitWait.most setup.stopTimeout setup.stopSleep
  let joinMost := ExitWait.most setup.stopJoinTimeout setup.stopSleep
  match state.stage with
  | .starting => 3 * stopMost + 3 * joinMost + 9
  | .stopping wait => wait.remaining stopMost + 3 * joinMost + 6
  | .deciding => 3 * joinMost + 6
  | .terminating => 3 * joinMost + 5
  | .joining wait => wait.remaining joinMost + 2
  | .checking => 2
  | .killing => 1
  | .returned | .raised => 0

theorem Place.remaining_nonneg (place : Place setup state) (positive : 0 < setup.stopSleep) :
    0 ≤ state.remaining setup := by
  obtain ⟨now, exited, stopSet, terminated, killed, interrupted, stage⟩ := state
  cases stage with
  | stopping wait =>
    obtain ⟨⟨since, -, within⟩, -⟩ := place
    have few := within.remaining_nonneg positive
    simp only [remaining]
    omega
  | joining wait =>
    obtain ⟨⟨since, -, within⟩, -⟩ := place
    have few := within.remaining_nonneg positive
    simp only [remaining]
    omega
  | starting | deciding | terminating | checking | killing | returned | raised =>
    simp only [remaining]
    omega

theorem Place.remaining_step (place : Place setup state) (positive : 0 < setup.stopSleep)
    (stepped : setup.step state .step = some next) : next.remaining setup + 1 ≤ state.remaining setup := by
  obtain ⟨now, exited, stopSet, terminated, killed, interrupted, stage⟩ := state
  cases stage with
  | starting =>
    cases stepped
    simp only [remaining, ExitWait.remaining]
    omega
  | stopping wait =>
    obtain ⟨⟨since, -, within⟩, -⟩ := place
    obtain ⟨result, moved, rfl⟩ := Option.map_eq_some_iff.mp stepped
    have used := within.remaining_step positive moved
    cases result <;> simp only [remaining, Option.elim] at used ⊢ <;> omega
  | joining wait =>
    obtain ⟨⟨since, -, within⟩, -⟩ := place
    obtain ⟨result, moved, rfl⟩ := Option.map_eq_some_iff.mp stepped
    have used := within.remaining_step positive moved
    cases result <;> simp only [remaining, Option.elim] at used ⊢ <;> omega
  | deciding | checking =>
    cases stepped
    cases exited <;> simp [remaining] <;> omega
  | terminating | killing | returned | raised => cases stepped

/-- The clock and the process use up no step, and a cancellation leaves fewer of them. -/
theorem Place.remaining_event {event : TerminationEvent} (place : Place setup state) (positive : 0 < setup.stopSleep)
    (stepped : setup.step state event = some next) :
    next.remaining setup + (if event.program then 1 else 0) ≤ state.remaining setup := by
  cases event with
  | step => exact place.remaining_step positive stepped
  | tick elapsed =>
    simp only [TerminationSetup.step] at stepped
    split at stepped <;> cases stepped
    exact le_of_eq (Int.add_zero _)
  | exit =>
    cases stepped
    exact le_of_eq (Int.add_zero _)
  | terminate ok =>
    obtain ⟨now, exited, stopSet, terminated, killed, interrupted, stage⟩ := state
    cases stage <;> cases stepped
    cases ok <;> simp [remaining, ExitWait.remaining, TerminationEvent.program] <;> omega
  | kill ok =>
    obtain ⟨now, exited, stopSet, terminated, killed, interrupted, stage⟩ := state
    cases stage <;> cases stepped
    simp [remaining, TerminationEvent.program]
  | cancel =>
    have before := place.remaining_nonneg positive
    obtain ⟨now, exited, stopSet, terminated, killed, interrupted, stage⟩ := state
    cases stage with
    | stopping wait =>
      simp only [TerminationSetup.step] at stepped
      split at stepped <;> cases stepped
      simpa [remaining, TerminationEvent.program] using before
    | joining wait =>
      obtain ⟨⟨since, -, within⟩, -⟩ := place
      have few := within.remaining_nonneg positive
      simp only [TerminationSetup.step] at stepped
      split at stepped <;> cases stepped
      simpa [remaining, TerminationEvent.program] using few
    | starting | deciding | terminating | checking | killing | returned | raised => cases stepped

def Ended (state : Termination) : Prop := state.stage = .returned ∨ state.stage = .raised

/-- Where the coroutine has not ended, it goes on once enough time has passed. -/
theorem goes_on (unfinished : ¬ state.Ended) : ∃ elapsed event, 0 ≤ elapsed ∧ event.program = true ∧
    (setup.step { state with now := state.now + elapsed } event).isSome = true := by
  obtain ⟨now, exited, stopSet, terminated, killed, interrupted, stage⟩ := state
  have slept : ∀ timeout (wait : ExitWait), ∃ elapsed, 0 ≤ elapsed ∧
      (wait.step timeout setup.stopSleep (now + elapsed) exited).isSome = true := by
    intro timeout wait
    cases wait with
    | called | testing | reading => exact ⟨0, le_refl 0, rfl⟩
    | sleeping limit naps wake =>
      refine ⟨max 0 (wake - now), le_max_left _ _, ?_⟩
      have woken : wake ≤ now + max 0 (wake - now) := by linarith [le_max_right 0 (wake - now)]
      simp [ExitWait.step, woken]
  cases stage with
  | starting | deciding | checking => exact ⟨0, .step, le_refl 0, rfl, rfl⟩
  | stopping wait =>
    obtain ⟨elapsed, passes, moves⟩ := slept setup.stopTimeout wait
    exact ⟨elapsed, .step, passes, rfl, by simpa [TerminationSetup.step, TerminationSetup.waited] using moves⟩
  | joining wait =>
    obtain ⟨elapsed, passes, moves⟩ := slept setup.stopJoinTimeout wait
    exact ⟨elapsed, .step, passes, rfl, by simpa [TerminationSetup.step, TerminationSetup.waited] using moves⟩
  | terminating => exact ⟨0, .terminate true, le_refl 0, rfl, rfl⟩
  | killing => exact ⟨0, .kill true, le_refl 0, rfl, rfl⟩
  | returned => exact absurd (.inl rfl) unfinished
  | raised => exact absurd (.inr rfl) unfinished

/-- The coroutine always ends: however long the process takes, and whatever fails, it takes no more steps than its
timeouts leave time for, and it goes on until it has ended. -/
theorem terminate_ends (positive : 0 < setup.stopSleep) {now : Rat} {events : List TerminationEvent}
    {finish : Termination} (ran : Transition.run setup.step (start now) events = some finish) :
    events.countP TerminationEvent.program ≤ 3 * ExitWait.most setup.stopTimeout setup.stopSleep +
        3 * ExitWait.most setup.stopJoinTimeout setup.stopSleep + 9 ∧
      (¬ finish.Ended → ∃ elapsed event, 0 ≤ elapsed ∧ event.program = true ∧
        (setup.step { finish with now := finish.now + elapsed } event).isSome = true) := by
  have kept : ∀ state event next, Escalates setup state → setup.step state event = some next →
      Escalates setup next := fun _ _ _ holds stepped => holds.event positive.le stepped
  have uses : ∀ state event next, Escalates setup state → True → setup.step state event = some next →
      next.remaining setup + (if event.program then 1 else 0) ≤ state.remaining setup :=
    fun _ _ _ holds _ stepped => holds.place.remaining_event positive stepped
  have always : Transition.Along setup.step (fun _ _ => True) (start now) events :=
    Transition.along_of_forall (fun _ _ => trivial) _
  have counted := Transition.count_le kept uses (escalates_start setup now) ran always
  have left := (escalates_run positive.le ran).place.remaining_nonneg positive
  have begun : (start now).remaining setup = 3 * ExitWait.most setup.stopTimeout setup.stopSleep +
      3 * ExitWait.most setup.stopJoinTimeout setup.stopSleep + 9 := rfl
  rw [begun] at counted
  refine ⟨?_, goes_on⟩
  omega

def stubborn : List TerminationEvent :=
  [.step, .step, .step, .step, .tick 6, .step, .step, .step, .terminate true, .step, .step, .step, .tick 6, .step,
    .step, .step, .kill true]

theorem stubborn_killed : ∃ finish, Transition.run TerminationSetup.default.step (start 0) stubborn = some finish ∧
    Signalled .default finish ∧ finish.killed = some 12 ∧ finish.exited = false := by
  have found : (Transition.run TerminationSetup.default.step (start 0) stubborn).map (fun finish =>
      (finish.killed, finish.exited)) = some (some 12, false) := by decide +kernel
  obtain ⟨finish, ran, same⟩ := Option.map_eq_some_iff.mp found
  rw [Prod.mk.injEq] at same
  exact ⟨finish, ran, (terminate_escalates (by decide +kernel) ran).1, same⟩

theorem stubborn_ends : stubborn.countP TerminationEvent.program ≤ 315 := by
  have found : (Transition.run TerminationSetup.default.step (start 0) stubborn).isSome = true := by decide +kernel
  obtain ⟨finish, ran⟩ := Option.isSome_iff_exists.mp found
  have bound := (terminate_ends (by decide +kernel) ran).1
  have most : ExitWait.most TerminationSetup.default.stopTimeout TerminationSetup.default.stopSleep = 51 ∧
      ExitWait.most TerminationSetup.default.stopJoinTimeout TerminationSetup.default.stopSleep = 51 := by
    decide +kernel
  rw [most.1, most.2] at bound
  exact bound

end Termination

end Wotemu
