import Wotemu.Foundation.Agents

/-! The teardown of a running app.

Signals and the failure callback of the app may call `_stop` any number of times.
A call that finds the lock free cancels the app, shuts the servient down, stops
the monitor, closes Redis and stops the loop. An exception that its step does not
catch leaves the block of the lock with the rest undone.
-/

set_option autoImplicit false

namespace Wotemu

open Wotemu.Foundation

namespace Shutdown

/-- How an awaited operation ends. `CancelledError` is no `Exception` on Python 3.8. -/
inductive Outcome where
  | returns
  | raisesException
  | raisesCancelled
  deriving DecidableEq

/-- The optional arguments of `_stop`. -/
structure Setup where
  monitor : Bool
  redisPool : Bool
  deriving DecidableEq

structure Attempts where
  servient : Bool
  monitor : Bool
  redis : Bool
  deriving DecidableEq

/-- Where a call of `_stop` is; the stages in between name what it awaits. -/
inductive Stage where
  | scheduled
  | refused
  | awaitingApp
  | awaitingCancelledApp
  | awaitingServient (attempts : Attempts)
  | awaitingMonitor (attempts : Attempts)
  | awaitingRedis (attempts : Attempts)
  | ended (attempts : Attempts) (loopStopped : Bool)
  deriving DecidableEq

/-- The lock, the outcome of the app task once it is done, and whether the loop was stopped. -/
structure Shared where
  locked : Bool
  app : Option Outcome
  loopStopped : Bool
  deriving DecidableEq

abbrev State := Agents Nat Shared Stage

/-- Leaving `async with lock`. -/
def release (shared : Shared) (attempts : Attempts) (loopStopped : Bool) : Shared × Stage :=
  ({ shared with locked := false }, .ended attempts loopStopped)

def stopLoop (shared : Shared) (attempts : Attempts) : Shared × Stage :=
  release { shared with loopStopped := true } attempts true

def stopRedis (setup : Setup) (shared : Shared) (attempts : Attempts) : Shared × Stage :=
  if setup.redisPool then (shared, .awaitingRedis { attempts with redis := true }) else stopLoop shared attempts

def stopMonitor (setup : Setup) (shared : Shared) (attempts : Attempts) : Shared × Stage :=
  if setup.monitor then (shared, .awaitingMonitor { attempts with monitor := true })
  else stopRedis setup shared attempts

def stopServient (shared : Shared) (attempts : Attempts) : Shared × Stage :=
  (shared, .awaitingServient { attempts with servient := true })

/-- After an await inside `try … except Exception`. -/
def guardedAwait (outcome : Outcome) (rest : Shared → Attempts → Shared × Stage) (shared : Shared)
    (attempts : Attempts) : Shared × Stage :=
  if outcome ≠ .raisesCancelled then rest shared attempts else release shared attempts false

/-- After an await without a guard. -/
def bareAwait (outcome : Outcome) (rest : Shared → Attempts → Shared × Stage) (shared : Shared)
    (attempts : Attempts) : Shared × Stage :=
  if outcome = .returns then rest shared attempts else release shared attempts false

inductive Action where
  | start
  | appDone
  | timeout
  | appCancelled
  | servientDone (outcome : Outcome)
  | monitorDone (outcome : Outcome)
  | redisDone (outcome : Outcome)
  deriving DecidableEq

def noAttempts : Attempts := ⟨false, false, false⟩

/-- `_stop`, from one await to the next. -/
def act (setup : Setup) : Action → Shared → Stage → Option (Shared × Stage)
  | .start, shared, .scheduled =>
    if shared.locked then some (shared, .refused)
    -- a free lock is acquired without suspending
    else some ({ shared with locked := true }, .awaitingApp)
  | .appDone, shared, .awaitingApp =>
    shared.app.map fun outcome => guardedAwait outcome stopServient shared noAttempts
  -- `wait_for` cancels the task again, waits for it, and then raises `TimeoutError`
  | .timeout, shared, .awaitingApp => if shared.app = none then some (shared, .awaitingCancelledApp) else none
  | .appCancelled, shared, .awaitingCancelledApp =>
    shared.app.map fun _ => guardedAwait .raisesException stopServient shared noAttempts
  | .servientDone outcome, shared, .awaitingServient attempts =>
    some (guardedAwait outcome (stopMonitor setup) shared attempts)
  | .monitorDone outcome, shared, .awaitingMonitor attempts =>
    some (bareAwait outcome (stopRedis setup) shared attempts)
  | .redisDone outcome, shared, .awaitingRedis attempts => some (guardedAwait outcome stopLoop shared attempts)
  | _, _, _ => none

inductive Event where
  | call (call : Nat) (action : Action)
  | appEnds (outcome : Outcome)
  deriving DecidableEq

def step (setup : Setup) : Transition State Event := fun state event =>
  match event with
  | .call call action => Agents.step (act setup) state (call, action)
  | .appEnds outcome =>
    if state.shared.app = none then some { state with shared := { state.shared with app := some outcome } } else none

/-- The app runs, and no call of `_stop` has begun. -/
def initial : State := ⟨⟨false, none, false⟩, fun _ => .scheduled⟩

def Stage.tearing : Stage → Bool
  | .awaitingApp | .awaitingCancelledApp | .awaitingServient _ | .awaitingMonitor _ | .awaitingRedis _ => true
  | _ => false

def Attempts.Complete (setup : Setup) (attempts : Attempts) : Prop :=
  attempts.servient = true ∧ (setup.monitor = true → attempts.monitor = true) ∧
    (setup.redisPool = true → attempts.redis = true)

/-- A call that has released the lock attempted every step and stopped the loop, and no two calls
are tearing down. -/
structure Orderly (setup : Setup) (state : State) : Prop where
  complete : ∀ call attempts loopStopped, state.stage call = .ended attempts loopStopped →
    attempts.Complete setup ∧ loopStopped = true
  alone : state.AtMostOne fun stage => stage.tearing = true

/-- The awaited operation does not end in a way that its step lets out of the block. -/
def Action.Clean (shared : Shared) : Action → Prop
  | .appDone => shared.app ≠ some .raisesCancelled
  | .servientDone outcome | .redisDone outcome => outcome ≠ .raisesCancelled
  | .monitorDone outcome => outcome = .returns
  | _ => True

instance (shared : Shared) : DecidablePred (Action.Clean shared)
  | .appDone | .servientDone _ | .redisDone _ => inferInstanceAs (Decidable (_ ≠ _))
  | .monitorDone _ => inferInstanceAs (Decidable (_ = _))
  | .start | .timeout | .appCancelled => .isTrue trivial

def Clean (state : State) : Event → Prop
  | .call _ action => action.Clean state.shared
  | .appEnds _ => True

instance (state : State) : DecidablePred (Clean state)
  | .call _ action => inferInstanceAs (Decidable (action.Clean state.shared))
  | .appEnds _ => .isTrue trivial

/-- A call has begun the steps up to the one it awaits, and all of them when it stopped the loop. -/
def Stage.Sound (setup : Setup) : Stage → Prop
  | .awaitingServient attempts => attempts.servient = true
  | .awaitingMonitor attempts => attempts.servient = true ∧ attempts.monitor = true
  | .awaitingRedis attempts | .ended attempts true => attempts.Complete setup
  | _ => True

def Stage.aborted : Stage → Bool
  | .ended _ false => true
  | _ => false

structure Proceeds (setup : Setup) (shared : Shared) (clean : Prop) (result : Shared × Stage) : Prop where
  keepsLock : result.2.tearing = true → result.1.locked = shared.locked
  sound : result.2.Sound setup
  aborted : result.2.aborted = true ↔ ¬ clean

section

variable {setup : Setup} {shared : Shared} {attempts : Attempts}

theorem release_proceeds : Proceeds setup shared False (release shared attempts false) :=
  ⟨fun inside => (by cases inside), trivial, by simp [release, Stage.aborted]⟩

theorem stopLoop_proceeds (complete : attempts.Complete setup) :
    Proceeds setup shared True (stopLoop shared attempts) :=
  ⟨fun inside => (by cases inside), complete, by simp [stopLoop, release, Stage.aborted]⟩

theorem stopRedis_proceeds (servient : attempts.servient = true)
    (monitor : setup.monitor = true → attempts.monitor = true) :
    Proceeds setup shared True (stopRedis setup shared attempts) := by
  unfold stopRedis
  split
  · exact ⟨fun _ => rfl, ⟨servient, monitor, fun _ => rfl⟩, by simp [Stage.aborted]⟩
  · rename_i none
    exact stopLoop_proceeds ⟨servient, monitor, fun pool => absurd pool none⟩

theorem stopMonitor_proceeds (servient : attempts.servient = true) :
    Proceeds setup shared True (stopMonitor setup shared attempts) := by
  unfold stopMonitor
  split
  · exact ⟨fun _ => rfl, ⟨servient, rfl⟩, by simp [Stage.aborted]⟩
  · rename_i none
    exact stopRedis_proceeds servient fun monitor => absurd monitor none

theorem stopServient_proceeds : Proceeds setup shared True (stopServient shared attempts) :=
  ⟨fun _ => rfl, rfl, by simp [stopServient, Stage.aborted]⟩

variable {rest : Shared → Attempts → Shared × Stage} {outcome : Outcome}

theorem guardedAwait_proceeds (proceeds : Proceeds setup shared True (rest shared attempts)) :
    Proceeds setup shared (outcome ≠ .raisesCancelled) (guardedAwait outcome rest shared attempts) := by
  unfold guardedAwait
  split
  · rename_i caught
    rw [eq_true caught]
    exact proceeds
  · rename_i uncaught
    rw [eq_false uncaught]
    exact release_proceeds

theorem bareAwait_proceeds (proceeds : Proceeds setup shared True (rest shared attempts)) :
    Proceeds setup shared (outcome = .returns) (bareAwait outcome rest shared attempts) := by
  unfold bareAwait
  split
  · rename_i returned
    rw [eq_true returned]
    exact proceeds
  · rename_i raised
    rw [eq_false raised]
    exact release_proceeds

end

theorem act_proceeds {setup : Setup} {action : Action} {shared : Shared} {stage : Stage} {result : Shared × Stage}
    (acted : act setup action shared stage = some result) (holder : stage.tearing = true)
    (sound : stage.Sound setup) : Proceeds setup shared (action.Clean shared) result := by
  cases stage with
  | scheduled | refused | ended attempts loopStopped => cases holder
  | awaitingApp =>
    cases action with
    | appDone =>
      obtain ⟨outcome, ended, rfl⟩ := Option.map_eq_some_iff.mp acted
      have clean : Action.appDone.Clean shared ↔ outcome ≠ .raisesCancelled := by simp [Action.Clean, ended]
      rw [clean]
      exact guardedAwait_proceeds stopServient_proceeds
    | timeout =>
      obtain ⟨-, same⟩ := Option.ite_none_right_eq_some.mp acted
      cases same
      exact ⟨fun _ => rfl, trivial, by simp [Stage.aborted, Action.Clean]⟩
    | _ => cases acted
  | awaitingCancelledApp =>
    cases action with
    | appCancelled =>
      obtain ⟨outcome, -, rfl⟩ := Option.map_eq_some_iff.mp acted
      exact stopServient_proceeds
    | _ => cases acted
  | awaitingServient attempts =>
    cases action <;> cases acted
    exact guardedAwait_proceeds (stopMonitor_proceeds sound)
  | awaitingMonitor attempts =>
    cases action <;> cases acted
    exact bareAwait_proceeds (stopRedis_proceeds sound.1 fun _ => sound.2)
  | awaitingRedis attempts =>
    cases action <;> cases acted
    exact guardedAwait_proceeds (stopLoop_proceeds sound)

theorem act_outside {setup : Setup} {action : Action} {shared : Shared} {stage : Stage} {result : Shared × Stage}
    (acted : act setup action shared stage = some result) (outside : stage.tearing = false) :
    stage = .scheduled ∧ action = .start ∧ (shared.locked = true ∧ result = (shared, .refused) ∨
      shared.locked = false ∧ result = ({ shared with locked := true }, .awaitingApp)) := by
  cases stage with
  | scheduled =>
    cases action with
    | start =>
      simp only [act] at acted
      split at acted <;> cases acted
      · rename_i locked
        exact ⟨rfl, rfl, .inl ⟨locked, rfl⟩⟩
      · rename_i unlocked
        exact ⟨rfl, rfl, .inr ⟨Bool.not_eq_true _ ▸ unlocked, rfl⟩⟩
    | _ => cases acted
  | refused | ended attempts loopStopped => cases action <;> cases acted
  | _ => cases outside

/-- The lock is held by whoever tears down, and a call has begun what its stage says. -/
structure Held (setup : Setup) (state : State) : Prop where
  guarded : state.Guarded (fun stage => stage.tearing = true) (fun shared => shared.locked = true)
  sound : ∀ call, (state.stage call).Sound setup

theorem initial_held (setup : Setup) : Held setup initial :=
  ⟨⟨fun _ _ inside => (by cases inside), fun _ inside => (by cases inside)⟩, fun _ => trivial⟩

theorem step_held (setup : Setup) (state : State) (event : Event) (next : State) (held : Held setup state)
    (stepped : step setup state event = some next) : Held setup next := by
  cases event with
  | appEnds outcome =>
    obtain ⟨-, same⟩ := Option.ite_none_right_eq_some.mp stepped
    cases same
    exact ⟨⟨held.guarded.alone, held.guarded.locked⟩, held.sound⟩
  | call call action =>
    obtain ⟨result, acted, rfl⟩ := Agents.step_eq_some.mp stepped
    cases holder : (state.stage call).tearing with
    | true =>
      have proceeds := act_proceeds acted holder (held.sound call)
      refine ⟨?_, Agents.forall_advance _ held.sound proceeds.sound⟩
      -- a call that goes on keeps the lock, and one that leaves the block was its only holder
      by_cases inside : result.2.tearing = true
      · exact held.guarded.proceed (fun _ => holder) (fun locked => (proceeds.keepsLock inside).trans locked)
      · exact held.guarded.leave holder inside
    | false =>
      obtain ⟨-, -, ⟨locked, rfl⟩ | ⟨unlocked, rfl⟩⟩ := act_outside acted holder
      · exact ⟨held.guarded.proceed (fun inside => by cases inside) id, Agents.forall_advance _ held.sound trivial⟩
      · exact ⟨held.guarded.acquire (by simp [unlocked]) rfl, Agents.forall_advance _ held.sound trivial⟩

theorem run_held {setup : Setup} {events : List Event} {state : State}
    (ran : Transition.run (step setup) initial events = some state) : Held setup state :=
  Transition.run_invariant (fun state event next (_ : True) => step_held setup state event next) (fun _ _ => trivial)
    (initial_held setup) ran

def Aborted (state : State) : Prop := ∃ call, (state.stage call).aborted = true

theorem step_aborted (setup : Setup) (state : State) (event : Event) (next : State) (held : Held setup state)
    (stepped : step setup state event = some next) : Aborted next ↔ Aborted state ∨ ¬ Clean state event := by
  cases event with
  | appEnds outcome =>
    obtain ⟨-, same⟩ := Option.ite_none_right_eq_some.mp stepped
    cases same
    simp [Aborted, Clean]
  | call call action =>
    obtain ⟨result, acted, rfl⟩ := Agents.step_eq_some.mp stepped
    have own : result.2.aborted = true ↔ ¬ action.Clean state.shared := by
      cases holder : (state.stage call).tearing with
      | true => exact (act_proceeds acted holder (held.sound call)).aborted
      | false =>
        obtain ⟨-, start, ⟨-, rfl⟩ | ⟨-, rfl⟩⟩ := act_outside acted holder <;>
          simp [Stage.aborted, show action = .start from start, Action.Clean]
    -- a call that has ended takes no step, so its mark lasts
    have stuck : (state.stage call).aborted = false := by
      cases stage : state.stage call with
      | ended attempts loopStopped =>
        rw [stage] at acted
        cases action <;> cases acted
      | _ => rfl
    constructor
    · intro ⟨other, aborted⟩
      rcases Agents.before_advance (fun stage : Stage => stage.aborted = true) aborted with ⟨-, new⟩ | ⟨-, old⟩
      · exact .inr (own.mp new)
      · exact .inl ⟨other, old⟩
    · rintro (before | unclean)
      · exact Agents.exists_advance (fun stage : Stage => stage.aborted = true) before (by simp [stuck])
      · exact ⟨call, by simpa using own.mpr unclean⟩

theorem Held.orderly_iff {setup : Setup} {state : State} (held : Held setup state) :
    Orderly setup state ↔ ¬ Aborted state := by
  constructor
  · intro orderly ⟨call, aborted⟩
    cases stage : state.stage call with
    | ended attempts loopStopped =>
      rw [stage, (orderly.complete call attempts loopStopped stage).2] at aborted
      cases aborted
    | _ => simp [stage, Stage.aborted] at aborted
  · intro none
    refine ⟨fun call attempts loopStopped stage => ?_, held.guarded.alone⟩
    have sound := held.sound call
    cases loopStopped with
    | true =>
      rw [stage] at sound
      exact ⟨sound, rfl⟩
    | false => exact absurd ⟨call, by rw [stage]; rfl⟩ none

/-- The teardown is orderly in exactly the runs in which every awaited operation is clean. -/
theorem orderly_iff_clean (setup : Setup) (events : List Event) (state : State)
    (ran : Transition.run (step setup) initial events = some state) :
    Orderly setup state ↔ Transition.Along (step setup) Clean initial events := by
  have marked := Transition.marked_iff (fun state event next (_ : True) => step_held setup state event next)
    (fun state event next _ => step_aborted setup state event next) (fun _ _ => trivial) (initial_held setup) ran
  have unmarked : ¬ Aborted initial := fun ⟨_, aborted⟩ => by cases aborted
  rw [(run_held ran).orderly_iff, marked]
  simp [unmarked]

def signalled : List Event :=
  [.call 0 .start, .call 1 .start, .appEnds .raisesException, .call 0 .appDone,
    .call 0 (.servientDone .raisesException),
    .call 0 (.monitorDone .returns), .call 0 (.redisDone .returns)]

theorem signalled_orderly : ∃ state, Transition.run (step ⟨true, true⟩) initial signalled = some state ∧
    state.shared.loopStopped = true ∧ Orderly ⟨true, true⟩ state := by
  obtain ⟨state, ran, stopped⟩ : ∃ state, Transition.run (step ⟨true, true⟩) initial signalled = some state ∧
      state.shared.loopStopped = true := ⟨_, rfl, rfl⟩
  refine ⟨state, ran, stopped, (orderly_iff_clean ⟨true, true⟩ signalled state ran).mpr ?_⟩
  decide

def cancelled : List Event := [.call 0 .start, .appEnds .raisesCancelled, .call 0 .appDone]

theorem cancelled_not_orderly : ¬ ∀ setup events state,
    Transition.run (step setup) initial events = some state → Orderly setup state := by
  intro claimed
  have complete := (claimed ⟨true, true⟩ cancelled _ rfl).complete 0 noAttempts false rfl
  cases complete.2

end Shutdown

end Wotemu
