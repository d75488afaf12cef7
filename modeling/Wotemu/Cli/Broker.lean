import Wotemu.Monitor.Progress

/-! The process of an MQTT broker node.

mosquitto runs beside an event loop with the node monitor. A signal, an exit of
mosquitto with an error and a monitor that cannot start each schedule a call of
`_close_loop`. After the loop, mosquitto is terminated.
-/

set_option autoImplicit false

namespace Wotemu

open Wotemu.Foundation

namespace MqttBroker

inductive Mosquitto where
  | running
  | exited (success : Bool)
  | terminated
  deriving DecidableEq

/-- Where `_start_monitor` is. -/
inductive StartStage where
  | scheduled
  | startingMonitor
  | ended
  deriving DecidableEq

/-- Where a call of `_close_loop` is. -/
inductive CloseStage where
  | scheduled
  | stoppingMonitor
  | ended
  deriving DecidableEq

/-- The first call on the monitor is the `start`, and the others are the `stop` calls of the
closes in order. -/
structure State where
  monitor : MonitorState
  start : StartStage
  closes : List CloseStage
  mosquitto : Mosquitto
  loopStopped : Bool
  returned : Bool

structure Setup where
  key : String
  disableMonitor : Bool

/-- `NodeMonitor(redis_url=conf.redis_url)` has no interfaces. -/
def Setup.monitor (setup : Setup) : MonitorSetup := ⟨setup.key, []⟩

inductive Event where
  | startMonitor
  | monitor (event : MonitorEvent)
  | signal
  | brokerExits (success : Bool)
  | closeLoop (close : Nat)
  | leave

section Steps

variable (setup : Setup)

/-- `loop.stop()` at the end of a close. -/
def State.stopLoop (close : Nat) (state : State) : State :=
  { state with closes := state.closes.set close .ended, loopStopped := true }

/-- `_close_loop` after its `stop`, whose exceptions are all caught. -/
def State.resumeClose (close : Nat) (state : State) : State :=
  match state.monitor.stage (close + 1) with
  | .returned | .raised => state.stopLoop close
  | _ => state

def closeLoop (close : Nat) (state : State) : Option State :=
  if setup.disableMonitor then some (state.stopLoop close)
  else (setup.monitor.step state.monitor (.call (close + 1) .stop)).map fun monitor =>
    { state with monitor, closes := state.closes.set close .stoppingMonitor }.resumeClose close

/-- A coroutine that will run `_close_loop`. -/
def State.schedule (state : State) : State := { state with closes := state.closes ++ [.scheduled] }

/-- `_start_monitor` after the `start`: an exception makes it close the loop at once. -/
def resumeStart (state : State) : Option State :=
  match state.monitor.stage 0 with
  | .returned => some { state with start := .ended }
  | .raised => closeLoop setup state.closes.length { state with start := .ended }.schedule
  | _ => some state

def startMonitor (state : State) : Option State :=
  if setup.disableMonitor then some { state with start := .ended }
  else (setup.monitor.step state.monitor (.call 0 .start)).bind fun monitor =>
    resumeStart setup { state with monitor, start := .startingMonitor }

def monitorStep (event : MonitorEvent) (state : State) : Option State :=
  (setup.monitor.step state.monitor event).bind fun monitor =>
    match event with
    | .task _ _ => some { state with monitor }
    | .call _ .start | .call _ .stop => none
    | .call 0 _ => resumeStart setup { state with monitor }
    | .call (close + 1) _ => some ({ state with monitor }.resumeClose close)

/-- `_done` -/
def brokerExits (success : Bool) (state : State) : Option State :=
  if state.mosquitto = .running then
    some (if success then { state with mosquitto := .exited true }
      else { state with mosquitto := .exited false }.schedule)
  else none

/-- The end of `run_mqtt_broker`, once the loop no longer runs. -/
def leave (state : State) : Option State :=
  if state.loopStopped then
    some { state with
      mosquitto := if state.mosquitto = .running then .terminated else state.mosquitto
      returned := true }
  else none

/-- `run_mqtt_broker`. What is ready when the loop is stopped may still run. -/
def step : Transition State Event := fun state event =>
  if state.returned then none
  else match event with
    | .startMonitor => if state.start = .scheduled then startMonitor setup state else none
    | .monitor event => monitorStep setup event state
    -- `_exit_handler`
    | .signal => some state.schedule
    | .brokerExits success => brokerExits success state
    | .closeLoop close => if state.closes[close]? = some .scheduled then closeLoop setup close state else none
    | .leave => leave state

def initial : State where
  monitor := .initial
  start := .scheduled
  closes := []
  mosquitto := .running
  loopStopped := false
  returned := false

end Steps

section Places

variable {setup : Setup} {state next : State} {close : Nat}

def Settled (stage : CallStage) : Prop := stage = .idle ∨ stage = .returned ∨ stage = .raised

theorem not_act_of_settled {setup : MonitorSetup} {monitor : NodeMonitor} {action : CallAction} {stage : CallStage}
    (settled : Settled stage) (start : action ≠ .start) (stop : action ≠ .stop) :
    setup.act action monitor stage = none := by
  rcases settled with rfl | rfl | rfl <;> cases action <;> first | rfl | exact absurd rfl start | exact absurd rfl stop

/-- The call of a close: it has not begun, it is awaited, or the close has stopped the loop. -/
def Placed (loopStopped : Bool) (call : CallStage) : Option CloseStage → Prop
  | none | some .scheduled => call = .idle
  | some .stoppingMonitor => call.stopping = true
  | some .ended => loopStopped = true ∧ Settled call

structure Sound (state : State) : Prop where
  unblocked : state.monitor.Unblocked
  placed : ∀ close, Placed state.loopStopped (state.monitor.stage (close + 1)) state.closes[close]?
  left : state.returned = true → state.mosquitto ≠ .running

theorem Placed.stopLoop {loopStopped : Bool} {call : CallStage} {stage : Option CloseStage}
    (placed : Placed loopStopped call stage) : Placed true call stage := by
  cases stage with
  | none => exact placed
  | some stage =>
    cases stage with
    | ended => exact ⟨rfl, placed.2⟩
    | _ => exact placed

theorem Sound.schedule (sound : Sound state) : Sound state.schedule where
  unblocked := sound.unblocked
  placed := by
    intro close
    have before := sound.placed close
    simp only [State.schedule, List.getElem?_append]
    split
    · exact before
    · rename_i beyond
      rw [List.getElem?_eq_none (Nat.not_lt.mp beyond)] at before
      rw [List.getElem?_singleton]
      split <;> exact before
  left := sound.left

structure Resumes (state : State) (close : Nat) : Prop where
  sound : Sound state
  goesOn : state.loopStopped = true ∨ state.closes[close]? = some .stoppingMonitor

theorem stopLoop_resumes (unblocked : state.monitor.Unblocked)
    (others : ∀ other, other ≠ close →
      Placed state.loopStopped (state.monitor.stage (other + 1)) state.closes[other]?)
    (left : state.returned = true → state.mosquitto ≠ .running) (bound : close < state.closes.length)
    (settled : Settled (state.monitor.stage (close + 1))) : Resumes (state.stopLoop close) close := by
  refine ⟨⟨unblocked, fun other => ?_, left⟩, .inl rfl⟩
  by_cases same : close = other
  · subst same
    simp only [State.stopLoop, List.getElem?_set_self bound]
    exact ⟨rfl, settled⟩
  · simp only [State.stopLoop, List.getElem?_set_ne same]
    exact (others other (Ne.symm same)).stopLoop

theorem resumeClose_resumes (unblocked : state.monitor.Unblocked)
    (others : ∀ other, other ≠ close →
      Placed state.loopStopped (state.monitor.stage (other + 1)) state.closes[other]?)
    (left : state.returned = true → state.mosquitto ≠ .running)
    (here : state.closes[close]? = some .stoppingMonitor)
    (leaving : NodeMonitor.Leaving (state.monitor.stage (close + 1))) : Resumes (state.resumeClose close) close := by
  obtain ⟨bound, -⟩ := List.getElem?_eq_some_iff.mp here
  have stopped := stopLoop_resumes unblocked others left bound
  unfold State.resumeClose
  rcases leaving with stopping | ended | ended
  · have kept : Resumes state close := by
      refine ⟨⟨unblocked, fun other => ?_, left⟩, .inr here⟩
      by_cases same : other = close
      · rw [same, here]
        exact stopping
      · exact others other same
    cases going : state.monitor.stage (close + 1) <;> rw [going] at stopping <;> first | exact kept | cases stopping
  · have settled := stopped (.inr (.inl ended))
    rw [ended]
    exact settled
  · have settled := stopped (.inr (.inr ended))
    rw [ended]
    exact settled

theorem Sound.closeLoop (sound : Sound state) (scheduled : state.closes[close]? = some .scheduled)
    (closed : closeLoop setup close state = some next) : Resumes next close := by
  obtain ⟨bound, -⟩ := List.getElem?_eq_some_iff.mp scheduled
  unfold MqttBroker.closeLoop at closed
  split at closed
  · cases closed
    have idle := sound.placed close
    rw [scheduled] at idle
    exact stopLoop_resumes sound.unblocked (fun other _ => sound.placed other) sound.left bound (.inl idle)
  · obtain ⟨monitor, stepped, rfl⟩ := Option.map_eq_some_iff.mp closed
    have unblocked := MonitorState.step_unblocked _ _ _ _ sound.unblocked stepped
    obtain ⟨result, acted, rfl⟩ := Agents.step_eq_some.mp stepped
    have leaving := NodeMonitor.act_leaving acted (.inr rfl)
    refine resumeClose_resumes unblocked ?_ sound.left ?_ ?_
    · intro other different
      simp only [List.getElem?_set_ne (Ne.symm different)]
      rw [Agents.advance_stage_of_ne _ _ _ _ (by omega)]
      exact sound.placed other
    · exact List.getElem?_set_self bound
    · rw [Agents.advance_stage_self]
      exact leaving

theorem Sound.resumeStart (sound : Sound state) (resumed : resumeStart setup state = some next) : Sound next := by
  unfold MqttBroker.resumeStart at resumed
  split at resumed
  · cases resumed
    exact ⟨sound.unblocked, sound.placed, sound.left⟩
  · have ended : Sound { state with start := .ended } := ⟨sound.unblocked, sound.placed, sound.left⟩
    exact (ended.schedule.closeLoop (by simp [State.schedule]) resumed).sound
  · cases resumed
    exact sound

theorem Sound.startCall (sound : Sound state) {result : NodeMonitor × CallStage}
    (unblocked : MonitorState.Unblocked (state.monitor.advance 0 result.1 result.2)) {start : StartStage} :
    Sound { state with monitor := state.monitor.advance 0 result.1 result.2, start } := by
  refine ⟨unblocked, fun close => ?_, sound.left⟩
  rw [Agents.advance_stage_of_ne _ _ _ _ (Nat.succ_ne_zero close)]
  exact sound.placed close

theorem Sound.startMonitor (sound : Sound state) (started : startMonitor setup state = some next) : Sound next := by
  unfold MqttBroker.startMonitor at started
  split at started
  · cases started
    exact ⟨sound.unblocked, sound.placed, sound.left⟩
  · obtain ⟨monitor, stepped, resumed⟩ := Option.bind_eq_some_iff.mp started
    have unblocked := MonitorState.step_unblocked _ _ _ _ sound.unblocked stepped
    obtain ⟨result, -, rfl⟩ := Agents.step_eq_some.mp stepped
    exact (sound.startCall unblocked).resumeStart resumed

/-- A step of a call that has begun leaves its close where it awaits the call, or after it. -/
theorem Sound.monitorCall (sound : Sound state) {action : CallAction} {result : NodeMonitor × CallStage}
    (acted : setup.monitor.act action state.monitor.shared (state.monitor.stage (close + 1)) = some result)
    (unblocked : MonitorState.Unblocked (state.monitor.advance (close + 1) result.1 result.2)) (start : action ≠ .start)
    (stop : action ≠ .stop) :
    Resumes (State.resumeClose close
      { state with monitor := state.monitor.advance (close + 1) result.1 result.2 }) close := by
  have moving : ¬ Settled (state.monitor.stage (close + 1)) := by
    intro settled
    rw [not_act_of_settled settled start stop] at acted
    cases acted
  have placed := sound.placed close
  have here : state.closes[close]? = some .stoppingMonitor := by
    match found : state.closes[close]? with
    | some .stoppingMonitor => rfl
    | none | some .scheduled =>
      rw [found] at placed
      exact absurd (.inl placed) moving
    | some .ended =>
      rw [found] at placed
      exact absurd placed.2 moving
  rw [here] at placed
  refine resumeClose_resumes unblocked ?_ sound.left here ?_
  · intro other different
    rw [Agents.advance_stage_of_ne _ _ _ _ (by omega)]
    exact sound.placed other
  · rw [Agents.advance_stage_self]
    exact NodeMonitor.act_leaving acted (.inl placed)

theorem Sound.monitorStep (sound : Sound state) {event : MonitorEvent}
    (moved : monitorStep setup event state = some next) : Sound next := by
  unfold MqttBroker.monitorStep at moved
  obtain ⟨monitor, stepped, resumed⟩ := Option.bind_eq_some_iff.mp moved
  have unblocked := MonitorState.step_unblocked _ _ _ _ sound.unblocked stepped
  cases event with
  | task id action =>
    obtain ⟨table, acted, rfl⟩ := Option.map_eq_some_iff.mp stepped
    cases resumed
    exact ⟨unblocked, sound.placed, sound.left⟩
  | call call action =>
    obtain ⟨result, acted, rfl⟩ := Agents.step_eq_some.mp stepped
    cases call with
    | zero =>
      cases action with
      | start | stop => cases resumed
      | _ => exact (sound.startCall unblocked).resumeStart resumed
    | succ close =>
      cases action with
      | start | stop => cases resumed
      | _ =>
        cases resumed
        exact (sound.monitorCall acted unblocked (by simp) (by simp)).sound

theorem step_sound (setup : Setup) (state : State) (event : Event) (next : State) (sound : Sound state)
    (stepped : step setup state event = some next) : Sound next := by
  unfold step at stepped
  split at stepped
  · cases stepped
  · rename_i goesOn
    cases event with
    | startMonitor =>
      obtain ⟨-, started⟩ := Option.ite_none_right_eq_some.mp stepped
      exact sound.startMonitor started
    | monitor event => exact sound.monitorStep stepped
    | signal =>
      cases stepped
      exact sound.schedule
    | brokerExits success =>
      obtain ⟨-, exited⟩ := Option.ite_none_right_eq_some.mp stepped
      cases exited
      have without : Sound { state with mosquitto := .exited success } :=
        ⟨sound.unblocked, sound.placed, fun _ => by simp⟩
      -- a broker that fails closes the loop
      cases success
      · exact without.schedule
      · exact without
    | closeLoop close =>
      obtain ⟨scheduled, closed⟩ := Option.ite_none_right_eq_some.mp stepped
      exact (sound.closeLoop scheduled closed).sound
    | leave =>
      obtain ⟨-, left⟩ := Option.ite_none_right_eq_some.mp stepped
      cases left
      refine ⟨sound.unblocked, sound.placed, fun _ => ?_⟩
      dsimp only
      split_ifs with running
      · simp
      · exact running

theorem initial_sound : Sound initial where
  unblocked := MonitorState.initial_unblocked
  placed := fun _ => rfl
  left := fun none => (by cases none)

end Places

section Endings

variable {setup : Setup} {state next : State} {close : Nat}

/-- What happens on its own, without a failure. -/
def Own : Event → Prop
  | .startMonitor | .closeLoop _ | .leave => True
  | .monitor (.task _ action) => action.Orderly
  | .monitor (.call _ (.redisOpened ok)) | .monitor (.call _ (.nodeInfoWritten ok)) |
    .monitor (.call _ (.redisClosed ok)) => ok = true
  | .monitor (.call _ _) => True
  | .signal | .brokerExits _ => False

/-- What makes the process close its loop. -/
def Cause : Event → Prop
  | .signal => True
  | .brokerExits success => success = false
  | .monitor (.call call action) => call = 0 ∧ (action = .redisOpened false ∨ action = .nodeInfoWritten false)
  | _ => False

/-- The process can end from here without anything else happening to it. -/
def Leaves (setup : Setup) (state : State) : Prop :=
  ∃ events finish, Transition.run (step setup) state events = some finish ∧ (∀ event ∈ events, Own event) ∧
    finish.returned = true ∧ finish.mosquitto ≠ .running

theorem Leaves.cons {event : Event} (own : Own event) (stepped : step setup state event = some next)
    (leaves : Leaves setup next) : Leaves setup state := by
  obtain ⟨events, finish, ran, owns, ended⟩ := leaves
  exact ⟨event :: events, finish, Transition.run_cons.mpr ⟨next, stepped, ran⟩, List.forall_mem_cons.mpr ⟨own, owns⟩,
    ended⟩

theorem Sound.leaves (sound : Sound state) (stopped : state.loopStopped = true) : Leaves setup state := by
  by_cases returned : state.returned = true
  · exact ⟨[], state, rfl, by simp, returned, sound.left returned⟩
  · have stepped : step setup state .leave = some { state with
        mosquitto := if state.mosquitto = .running then .terminated else state.mosquitto
        returned := true } := by
      simp [step, returned, leave, stopped]
    refine ⟨[.leave], _, Transition.run_cons.mpr ⟨_, stepped, rfl⟩, by simp [Own], rfl, ?_⟩
    dsimp only
    split_ifs with running
    · simp
    · exact running

theorem step_of_going (goesOn : state.returned = false) (event : MonitorEvent) :
    step setup state (.monitor event) = monitorStep setup event state := by
  simp [step, goesOn]

theorem Sound.monitorOwn (sound : Sound state) (here : state.closes[close]? = some .stoppingMonitor)
    {event : MonitorEvent} (own : MonitorState.Own (close + 1) event) {monitor : MonitorState}
    (stepped : setup.monitor.step state.monitor event = some monitor) :
    ∃ next, MqttBroker.monitorStep setup event state = some next ∧ next.monitor = monitor ∧
      next.returned = state.returned ∧ (next.loopStopped = true ∨ next.closes[close]? = some .stoppingMonitor) := by
  unfold MqttBroker.monitorStep
  rw [stepped, Option.bind_some]
  cases event with
  | task id action => exact ⟨_, rfl, rfl, rfl, .inr here⟩
  | call call action =>
    have unblocked := MonitorState.step_unblocked _ _ _ _ sound.unblocked stepped
    obtain ⟨result, acted, rfl⟩ := Agents.step_eq_some.mp stepped
    have resumed (start : action ≠ .start) (stop : action ≠ .stop) (same : call = close + 1) :
        ∃ next, some (State.resumeClose close { state with
            monitor := state.monitor.advance (close + 1) result.1 result.2 }) = some next ∧
          next.monitor = state.monitor.advance call result.1 result.2 ∧ next.returned = state.returned ∧
          (next.loopStopped = true ∨ next.closes[close]? = some .stoppingMonitor) := by
      subst same
      refine ⟨_, rfl, ?_, ?_, (sound.monitorCall acted unblocked start stop).goesOn⟩
      · unfold State.resumeClose
        split <;> rfl
      · unfold State.resumeClose
        split <;> rfl
    cases action with
    | tasksEnded =>
      cases own
      exact resumed (by simp) (by simp) rfl
    | redisClosed ok =>
      obtain ⟨rfl, -⟩ := own
      exact resumed (by simp) (by simp) rfl
    | _ => cases own

theorem own_of_monitor {call : Nat} {event : MonitorEvent} (own : MonitorState.Own call event) :
    Own (.monitor event) := by
  cases event with
  | task id action => exact own
  | call other action =>
    cases action with
    | tasksEnded => trivial
    | redisClosed ok => exact own.2
    | _ => cases own

theorem Sound.stopping_leaves (sound : Sound state) (goesOn : state.returned = false)
    (here : state.closes[close]? = some .stoppingMonitor) : Leaves setup state := by
  have stopping := sound.placed close
  rw [here] at stopping
  have ends : MonitorState.Ends setup.monitor state.monitor (close + 1) :=
    MonitorState.stop_ends sound.unblocked stopping
  obtain ⟨events, finish, ran, own, ended⟩ := ends
  -- along the events that end the call of the monitor
  induction events generalizing state with
  | nil =>
    cases ran
    rcases ended with same | same <;> rw [same] at stopping <;> cases stopping
  | cons event rest ih =>
    obtain ⟨monitor, stepped, ran⟩ := Transition.run_cons.mp ran
    obtain ⟨first, own⟩ := List.forall_mem_cons.mp own
    obtain ⟨next, moved, rfl, same, after⟩ := sound.monitorOwn here first stepped
    have still : Sound next := sound.monitorStep moved
    rw [← step_of_going goesOn] at moved
    apply Leaves.cons (own_of_monitor first) moved
    rcases after with stopped | stillHere
    · exact still.leaves stopped
    · have later := still.placed close
      rw [stillHere] at later
      exact ih still (same.trans goesOn) stillHere later ran own

@[simp] theorem resumeClose_frame (state : State) (close : Nat) :
    (state.resumeClose close).returned = state.returned ∧
      (state.resumeClose close).closes.length = state.closes.length := by
  unfold State.resumeClose State.stopLoop
  split <;> simp

theorem closeLoop_frame (closed : closeLoop setup close state = some next) :
    next.returned = state.returned ∧ next.closes.length = state.closes.length := by
  unfold closeLoop at closed
  split at closed
  · cases closed
    simp [State.stopLoop]
  · obtain ⟨monitor, -, rfl⟩ := Option.map_eq_some_iff.mp closed
    simp

theorem Sound.scheduled_leaves (sound : Sound state) (goesOn : state.returned = false)
    (here : state.closes[close]? = some .scheduled) : Leaves setup state := by
  have idle := sound.placed close
  rw [here] at idle
  obtain ⟨next, closed⟩ : ∃ next, MqttBroker.closeLoop setup close state = some next := by
    unfold MqttBroker.closeLoop
    split
    · exact ⟨_, rfl⟩
    · have stepped : setup.monitor.step state.monitor (.call (close + 1) .stop) = some
          (state.monitor.advance (close + 1)
            ({ state.monitor.shared with lastIssued := some .stop } : NodeMonitor).stopSystemTask.1
            ({ state.monitor.shared with lastIssued := some .stop } : NodeMonitor).stopSystemTask.2) :=
        Agents.step_eq_some.mpr ⟨_, by rw [idle]; rfl, rfl⟩
      rw [stepped]
      exact ⟨_, rfl⟩
  have resumes := sound.closeLoop here closed
  have stepped : step setup state (.closeLoop close) = some next := by
    simp [step, goesOn, here, closed]
  have kept : next.returned = false := (closeLoop_frame closed).1.trans goesOn
  have own : Own (.closeLoop close) := trivial
  apply Leaves.cons own stepped
  rcases resumes.goesOn with stopped | stopping
  · exact resumes.sound.leaves stopped
  · exact resumes.sound.stopping_leaves kept stopping

theorem Sound.closing_leaves (sound : Sound state) (closing : state.closes ≠ []) : Leaves setup state := by
  by_cases returned : state.returned = true
  · exact ⟨[], state, rfl, by simp, returned, sound.left returned⟩
  · have goesOn : state.returned = false := Bool.eq_false_iff.mpr returned
    obtain ⟨first, rest, listed⟩ := List.exists_cons_of_ne_nil closing
    have here : state.closes[0]? = some first := by rw [listed]; rfl
    cases first with
    | scheduled => exact sound.scheduled_leaves goesOn here
    | stoppingMonitor => exact sound.stopping_leaves goesOn here
    | ended =>
      have placed := sound.placed 0
      rw [here] at placed
      exact sound.leaves placed.1

end Endings

section Causes

variable {setup : Setup} {state next : State}

/-- The only call on a monitor, when it is a `start` that nothing has made fail. -/
structure Starts (monitor : NodeMonitor) (stage : CallStage) : Prop where
  going : stage ≠ .raised
  start : stage.stopping = false
  fresh : stage ≠ .returned → monitor.taskSystem = none
  packets : monitor.tasksPacket = []

/-- Nothing has happened that closes the loop. -/
structure Calm (state : State) : Prop where
  closes : state.closes = []
  loopStopped : state.loopStopped = false
  returned : state.returned = false
  stops : ∀ close, state.monitor.stage (close + 1) = .idle
  starts : Starts state.monitor.shared (state.monitor.stage 0)

theorem initial_calm : Calm initial where
  closes := rfl
  loopStopped := rfl
  returned := rfl
  stops := fun _ => rfl
  starts := ⟨by simp [initial, MonitorState.initial], rfl, fun _ => rfl, rfl⟩

theorem Starts.act {action : CallAction} {monitor : NodeMonitor} {stage : CallStage}
    {result : NodeMonitor × CallStage} (starts : Starts monitor stage)
    (acted : setup.monitor.act action monitor stage = some result) (stop : action ≠ .stop)
    (works : ¬ Cause (.monitor (.call 0 action))) : Starts result.1 result.2 := by
  obtain ⟨going, start, fresh, packets⟩ := starts
  cases stage with
  | idle =>
    have none := fresh (by simp)
    cases action with
    | start =>
      cases acted
      -- nothing runs yet, so the call opens Redis
      have quiet : ({ monitor with lastIssued := some .start } : NodeMonitor).isRunning = false := by
        simp [NodeMonitor.isRunning, none, packets]
      dsimp only
      rw [quiet, if_neg Bool.false_ne_true]
      split <;> exact ⟨by simp, rfl, fun _ => none, packets⟩
    | stop => exact absurd rfl stop
    | _ => cases acted
  | opening =>
    cases action with
    | redisOpened ok =>
      cases acted
      have works : ok = true := by simpa [Cause] using works
      rw [works]
      exact ⟨by simp, rfl, fun _ => fresh (by simp), packets⟩
    | _ => cases acted
  | writing =>
    cases action with
    | nodeInfoWritten ok =>
      cases acted
      have works : ok = true := by simpa [Cause] using works
      have none := fresh (by simp)
      rw [works]
      have created : ∃ after, monitor.createTasks setup.monitor = (after, .returned) ∧ after.tasksPacket = [] := by
        simp [NodeMonitor.createTasks, NodeMonitor.createSystemTask, NodeMonitor.createPacketTasks, none, packets,
          Setup.monitor]
      -- without interfaces only the system task is made
      obtain ⟨after, same, without⟩ := created
      rw [if_pos rfl, same]
      exact ⟨by simp, rfl, fun going => absurd rfl going, without⟩
    | _ => cases acted
  | returned => cases action <;> cases acted
  | raised => exact absurd rfl going
  | _ => cases start

theorem Calm.startCall (calm : Calm state) {result : NodeMonitor × CallStage} (starts : Starts result.1 result.2)
    {start : StartStage}
    (resumed : resumeStart setup { state with monitor := state.monitor.advance 0 result.1 result.2, start } =
      some next) : Calm next := by
  have stops : ∀ close, (state.monitor.advance 0 result.1 result.2).stage (close + 1) = .idle := by
    intro close
    rw [Agents.advance_stage_of_ne _ _ _ _ (Nat.succ_ne_zero close)]
    exact calm.stops close
  have first : (state.monitor.advance 0 result.1 result.2).stage 0 = result.2 := Agents.advance_stage_self ..
  unfold resumeStart at resumed
  dsimp only at resumed
  rw [first] at resumed
  split at resumed
  · cases resumed
    exact ⟨calm.closes, calm.loopStopped, calm.returned, stops, by rw [first]; exact starts⟩
  · rename_i raised
    -- the start has not raised
    exact absurd raised starts.going
  · cases resumed
    exact ⟨calm.closes, calm.loopStopped, calm.returned, stops, by rw [first]; exact starts⟩

theorem Calm.step (calm : Calm state) {event : Event} (works : ¬ Cause event)
    (stepped : step setup state event = some next) : Calm next := by
  unfold MqttBroker.step at stepped
  rw [calm.returned, if_neg Bool.false_ne_true] at stepped
  cases event with
  | startMonitor =>
    obtain ⟨-, started⟩ := Option.ite_none_right_eq_some.mp stepped
    unfold startMonitor at started
    split at started
    · cases started
      exact ⟨calm.closes, calm.loopStopped, calm.returned, calm.stops, calm.starts⟩
    · obtain ⟨monitor, moved, resumed⟩ := Option.bind_eq_some_iff.mp started
      obtain ⟨result, acted, rfl⟩ := Agents.step_eq_some.mp moved
      exact calm.startCall (calm.starts.act acted (by simp) (by simp [Cause])) resumed
  | monitor event =>
    obtain ⟨monitor, moved, resumed⟩ := Option.bind_eq_some_iff.mp stepped
    cases event with
    | task id action =>
      obtain ⟨table, -, rfl⟩ := Option.map_eq_some_iff.mp moved
      cases resumed
      exact ⟨calm.closes, calm.loopStopped, calm.returned, calm.stops, calm.starts.going, calm.starts.start,
        calm.starts.fresh, calm.starts.packets⟩
    | call call action =>
      obtain ⟨result, acted, rfl⟩ := Agents.step_eq_some.mp moved
      cases call with
      | zero =>
        cases action with
        | start | stop => cases resumed
        | _ => exact calm.startCall (calm.starts.act acted (by simp) works) resumed
      | succ close =>
        cases action with
        | start | stop => cases resumed
        | _ =>
          -- nobody has called `stop` yet
          rw [not_act_of_settled (.inl (calm.stops close)) (by simp) (by simp)] at acted
          cases acted
  | signal => exact absurd trivial works
  | brokerExits success =>
    obtain ⟨-, exited⟩ := Option.ite_none_right_eq_some.mp stepped
    have works : success = true := by simpa [Cause] using works
    rw [works] at exited
    cases exited
    exact ⟨calm.closes, calm.loopStopped, calm.returned, calm.stops, calm.starts⟩
  | closeLoop close =>
    -- nobody has scheduled a close
    obtain ⟨scheduled, -⟩ := Option.ite_none_right_eq_some.mp stepped
    rw [calm.closes] at scheduled
    cases scheduled
  | leave =>
    obtain ⟨stopped, -⟩ := Option.ite_none_right_eq_some.mp stepped
    rw [calm.loopStopped] at stopped
    cases stopped

theorem resumeStart_frame (resumed : resumeStart setup state = some next) :
    state.closes.length ≤ next.closes.length ∧ (state.monitor.stage 0 = .raised → 0 < next.closes.length) := by
  unfold resumeStart at resumed
  split at resumed
  · rename_i returned
    cases resumed
    exact ⟨le_rfl, fun raised => by cases returned.symm.trans raised⟩
  · have same := (closeLoop_frame resumed).2
    simp only [State.schedule, List.length_append, List.length_singleton] at same
    exact ⟨by omega, fun _ => by omega⟩
  · rename_i other
    cases resumed
    exact ⟨le_rfl, fun raised => absurd raised other⟩

theorem monitorStep_frame {event : MonitorEvent} (moved : monitorStep setup event state = some next) :
    state.closes.length ≤ next.closes.length ∧ (Cause (.monitor event) → 0 < next.closes.length) := by
  obtain ⟨monitor, moved, resumed⟩ := Option.bind_eq_some_iff.mp moved
  cases event with
  | task id action =>
    cases resumed
    exact ⟨le_rfl, fun cause => cause.elim⟩
  | call call action =>
    obtain ⟨result, acted, rfl⟩ := Agents.step_eq_some.mp moved
    dsimp only at acted
    cases call with
    | zero =>
      have first : (state.monitor.advance 0 result.1 result.2).stage 0 = result.2 := Agents.advance_stage_self ..
      cases action with
      | start | stop => cases resumed
      | redisOpened ok =>
        refine ⟨(resumeStart_frame resumed).1, fun failed => (resumeStart_frame resumed).2 ?_⟩
        rw [first]
        have failed : ok = false := by simpa [Cause] using failed
        cases stage : state.monitor.stage 0 <;> rw [stage] at acted <;> cases acted
        rw [failed]
        rfl
      | nodeInfoWritten ok =>
        refine ⟨(resumeStart_frame resumed).1, fun failed => (resumeStart_frame resumed).2 ?_⟩
        rw [first]
        have failed : ok = false := by simpa [Cause] using failed
        cases stage : state.monitor.stage 0 <;> rw [stage] at acted <;> cases acted
        rw [failed]
        rfl
      | _ => exact ⟨(resumeStart_frame resumed).1, fun cause => by simp [Cause] at cause⟩
    | succ close =>
      cases action with
      | start | stop => cases resumed
      | _ =>
        cases resumed
        refine ⟨?_, fun cause => absurd cause.1 (Nat.succ_ne_zero close)⟩
        rw [(resumeClose_frame _ close).2]

/-- Every cause schedules a close, and no close is forgotten. -/
theorem step_frame {event : Event} (stepped : step setup state event = some next) :
    state.closes.length ≤ next.closes.length ∧ (Cause event → 0 < next.closes.length) := by
  unfold step at stepped
  split at stepped
  · cases stepped
  · cases event with
    | startMonitor =>
      obtain ⟨-, started⟩ := Option.ite_none_right_eq_some.mp stepped
      unfold startMonitor at started
      split at started
      · cases started
        exact ⟨le_rfl, fun cause => cause.elim⟩
      · obtain ⟨monitor, -, resumed⟩ := Option.bind_eq_some_iff.mp started
        exact ⟨(resumeStart_frame resumed).1, fun cause => cause.elim⟩
    | monitor event => exact monitorStep_frame stepped
    | signal =>
      cases stepped
      simp [State.schedule]
    | brokerExits success =>
      obtain ⟨-, exited⟩ := Option.ite_none_right_eq_some.mp stepped
      cases exited
      cases success <;> simp [State.schedule, Cause]
    | closeLoop close =>
      obtain ⟨-, closed⟩ := Option.ite_none_right_eq_some.mp stepped
      exact ⟨(closeLoop_frame closed).2.ge, fun cause => cause.elim⟩
    | leave =>
      obtain ⟨-, left⟩ := Option.ite_none_right_eq_some.mp stepped
      cases left
      exact ⟨le_rfl, fun cause => cause.elim⟩

theorem run_frame {events : List Event} (ran : Transition.run (step setup) state events = some next) :
    state.closes.length ≤ next.closes.length ∧ ((∃ event ∈ events, Cause event) → 0 < next.closes.length) := by
  induction events generalizing state with
  | nil =>
    cases ran
    simp
  | cons event rest ih =>
    obtain ⟨middle, stepped, ran⟩ := Transition.run_cons.mp ran
    obtain ⟨kept, caused⟩ := step_frame stepped
    obtain ⟨later, ended⟩ := ih ran
    refine ⟨kept.trans later, fun ⟨cause, member, causes⟩ => ?_⟩
    rcases List.mem_cons.mp member with rfl | member
    · exact (caused causes).trans_le later
    · exact ended ⟨cause, member, causes⟩

theorem not_cause_of_own {event : Event} (own : Own event) : ¬ Cause event := by
  intro cause
  cases event with
  | signal | brokerExits _ => exact own
  | monitor event =>
    cases event with
    | task id action => exact cause
    | call call action =>
      obtain ⟨-, rfl | rfl⟩ := cause <;> cases own
  | startMonitor | closeLoop _ | leave => exact cause

/-- In every interleaving, the process can come to its end on its own, with mosquitto gone, exactly when
a signal has arrived, mosquitto has failed, or the monitor could not start. -/
theorem leaves_iff_caused (setup : Setup) (events : List Event) (state : State)
    (ran : Transition.run (step setup) initial events = some state) :
    Leaves setup state ↔ ∃ event ∈ events, Cause event := by
  constructor
  · rintro ⟨more, finish, further, own, returned, -⟩
    by_contra none
    have works : ∀ event ∈ events ++ more, ¬ Cause event := by
      refine List.forall_mem_append.mpr ⟨fun event member cause => none ⟨event, member, cause⟩, ?_⟩
      exact fun event member => not_cause_of_own (own event member)
    have calm := Transition.run_invariant (fun _ _ _ works calm stepped => Calm.step calm works stepped) works
      initial_calm (Transition.run_append ran further)
    rw [calm.returned] at returned
    cases returned
  · intro caused
    have sound := Transition.run_invariant
      (fun state event next _ => step_sound setup state event next) (fun _ _ => trivial) initial_sound ran
    exact sound.closing_leaves (List.length_pos_iff.mp ((run_frame ran).2 caused))

def brokerNode : Setup := ⟨"env_broker.1.abc", false⟩

def failing : List Event :=
  [.startMonitor, .monitor (.call 0 (.redisOpened true)), .monitor (.call 0 (.nodeInfoWritten true)),
    .monitor (.task 0 .firstStep), .brokerExits false, .closeLoop 0, .signal, .closeLoop 1]

theorem failing_leaves : ∃ state, Transition.run (step brokerNode) initial failing = some state ∧
    state.closes = [.stoppingMonitor, .stoppingMonitor] ∧ Leaves brokerNode state := by
  obtain ⟨state, ran, closes⟩ : ∃ state, Transition.run (step brokerNode) initial failing = some state ∧
      state.closes = [.stoppingMonitor, .stoppingMonitor] := ⟨_, rfl, rfl⟩
  exact ⟨state, ran, closes, (leaves_iff_caused brokerNode failing state ran).mpr ⟨.signal, by simp [failing], trivial⟩⟩

end Causes

end MqttBroker

end Wotemu
