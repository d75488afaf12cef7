import Wotemu.Foundation.Transition

/-! The wait for the services of a stack.

Each service is asked until it answers, and `asyncio.wait_for` cancels the wait
when its time is over. A cancellation that arrives while the connection of a
question is closed is caught there and lost: the wait goes on, and raises in the
end all the same.
-/

set_option autoImplicit false

namespace Wotemu

open Wotemu.Foundation

namespace Waiter

inductive Service where
  | redis
  | docker
  | broker
  deriving DecidableEq

/-- The flags of the command, and whether `conf.mqtt_url` is there. -/
structure Setup where
  waiterBase : Bool
  waiterMqtt : Bool
  mqttUrl : Bool
  deriving DecidableEq

/-- Where `wait_services` is: what it awaits, or the end of the process. The Docker API is asked
without an await. -/
inductive Stage where
  | connectingRedis
  | closingRedis (pinged : Bool)
  | sleepingRedis
  | sleepingDocker
  | connectingBroker
  | disconnectingBroker (connected : Bool)
  | sleepingBroker
  | exited (ok : Bool)
  deriving DecidableEq

structure State where
  stage : Stage
  timedOut : Bool
  answered : List Service
  deriving DecidableEq

/-- How an await ends: the connection is made or not, and its question asked or not; a connection
has been closed; a sleep is over; the time of `wait_for` is. An await after which the Docker API
may be asked comes with its answer. -/
inductive Event where
  | connected (pinged : Option Bool)
  | closed (docker : Bool)
  | awake (docker : Bool)
  | timeout (docker : Bool)
  deriving DecidableEq

def Event.isTimeout : Event → Bool
  | timeout _ => true
  | _ => false

section Steps

variable (setup : Setup)

def Setup.waitsBroker : Bool := setup.waiterMqtt && setup.mqttUrl

/-- After `_wait_base_timeout`, which raises `TimeoutError` when the time was over before. -/
def afterBase (state : State) : State :=
  if state.timedOut then { state with stage := .exited false }
  else if setup.waitsBroker then { state with stage := .connectingBroker }
  else { state with stage := .exited true }

def pingDocker (docker : Bool) (state : State) : State :=
  if docker then afterBase setup { state with answered := state.answered ++ [.docker] }
  else { state with stage := .sleepingDocker }

def afterRedis (pinged docker : Bool) (state : State) : State :=
  if pinged then pingDocker setup docker { state with answered := state.answered ++ [.redis] }
  else { state with stage := .sleepingRedis }

def afterBroker (connected : Bool) (state : State) : State :=
  if connected then { state with stage := .exited (!state.timedOut), answered := state.answered ++ [.broker] }
  else { state with stage := .sleepingBroker }

def redisStage : Option Bool → Stage
  | none => .sleepingRedis
  | some pinged => .closingRedis pinged

/-- `wait_services`, from one await to the next. -/
def step : Transition State Event := fun state event =>
  match event with
  | .connected connection => match state.stage with
    | .connectingRedis => some { state with stage := redisStage connection }
    | .connectingBroker => some { state with stage := .disconnectingBroker connection.isSome }
    | _ => none
  | .closed docker => match state.stage with
    | .closingRedis pinged => some (afterRedis setup pinged docker state)
    | .disconnectingBroker connected => some (afterBroker connected state)
    | _ => none
  | .awake docker => match state.stage with
    | .sleepingRedis => some { state with stage := .connectingRedis }
    | .sleepingDocker => some (pingDocker setup docker state)
    | .sleepingBroker => some { state with stage := .connectingBroker }
    | _ => none
  | .timeout docker =>
    if state.timedOut then none
    else match state.stage with
      -- the bare `except` of the `finally` block
      | .closingRedis pinged => some (afterRedis setup pinged docker { state with timedOut := true })
      | .disconnectingBroker connected => some (afterBroker connected { state with timedOut := true })
      | .exited _ => none
      | _ => some { state with stage := .exited false, timedOut := true }

def initial : State where
  stage := if setup.waiterBase then .connectingRedis else if setup.waitsBroker then .connectingBroker else .exited true
  timedOut := false
  answered := []

end Steps

section Runs

variable {setup : Setup} {state next : State}

def Setup.base (setup : Setup) : List Service := if setup.waiterBase then [.redis, .docker] else []

def Setup.required (setup : Setup) : List Service := setup.base ++ if setup.waitsBroker then [.broker] else []

def Place (setup : Setup) (state : State) : Prop :=
  match state.stage with
  | .connectingRedis | .closingRedis _ | .sleepingRedis => setup.waiterBase = true ∧ state.answered = []
  | .sleepingDocker => setup.waiterBase = true ∧ state.answered = [.redis]
  | .connectingBroker | .disconnectingBroker _ | .sleepingBroker =>
    setup.waitsBroker = true ∧ state.answered = setup.base
  | .exited true => state.timedOut = false ∧ state.answered = setup.required
  | .exited false => state.timedOut = true

def PartAnswered (setup : Setup) (state : State) : Prop :=
  state.answered = setup.required ∨ setup.waiterBase = true ∧ state.answered = [.redis, .docker]

def State.Closing (state : State) : Prop :=
  match state.stage with
  | .closingRedis _ | .disconnectingBroker _ => True
  | _ => False

/-- A segment of the wait: where it leads, and why it fails. -/
structure Leads (setup : Setup) (before after : State) : Prop where
  place : Place setup after
  timedOut : after.timedOut = before.timedOut
  failed : after.stage = .exited false → PartAnswered setup after

theorem afterBase_leads (base : setup.waiterBase = true) (answered : state.answered = [.redis, .docker]) :
    Leads setup state (afterBase setup state) := by
  have whole : setup.base = [.redis, .docker] := if_pos base
  unfold afterBase
  split
  · rename_i late
    exact ⟨late, rfl, fun _ => .inr ⟨base, answered⟩⟩
  · rename_i early
    split
    · rename_i waits
      exact ⟨⟨waits, answered.trans whole.symm⟩, rfl, fun none => by cases none⟩
    · rename_i alone
      refine ⟨⟨by simpa using early, ?_⟩, rfl, fun none => by cases none⟩
      rw [Setup.required, whole, if_neg alone]
      exact answered

theorem pingDocker_leads (docker : Bool) (base : setup.waiterBase = true) (answered : state.answered = [.redis]) :
    Leads setup state (pingDocker setup docker state) := by
  cases docker
  · exact ⟨⟨base, answered⟩, rfl, fun none => by cases none⟩
  · have after : ({ state with answered := state.answered ++ [.docker] } : State).answered = [.redis, .docker] := by
      simp [answered]
    have leads := afterBase_leads base after
    exact ⟨leads.place, leads.timedOut, leads.failed⟩

theorem afterRedis_leads (pinged docker : Bool) (base : setup.waiterBase = true) (answered : state.answered = []) :
    Leads setup state (afterRedis setup pinged docker state) := by
  cases pinged
  · exact ⟨⟨base, answered⟩, rfl, fun none => by cases none⟩
  · have after : ({ state with answered := state.answered ++ [.redis] } : State).answered = [.redis] := by
      simp [answered]
    have leads := pingDocker_leads docker base after
    exact ⟨leads.place, leads.timedOut, leads.failed⟩

theorem afterBroker_leads (connected : Bool) (waits : setup.waitsBroker = true)
    (answered : state.answered = setup.base) : Leads setup state (afterBroker connected state) := by
  have whole : state.answered ++ [.broker] = setup.required := by
    rw [Setup.required, if_pos waits, answered]
  cases connected
  · exact ⟨⟨waits, answered⟩, rfl, fun none => by cases none⟩
  · refine ⟨?_, rfl, fun _ => .inl whole⟩
    cases late : state.timedOut
    · simp [afterBroker, Place, late, whole]
    · simp [afterBroker, Place, late]

theorem step_leads {event : Event} (place : Place setup state) (stepped : step setup state event = some next)
    (early : event.isTimeout = false) : Leads setup state next := by
  obtain ⟨stage, timedOut, answered⟩ := state
  -- each stage goes on with one event only
  cases stage with
  | connectingRedis =>
    cases event with
    | connected pinged =>
      cases stepped
      cases pinged <;> exact ⟨place, rfl, fun none => by cases none⟩
    | timeout docker => cases early
    | _ => cases stepped
  | closingRedis pinged =>
    cases event with
    | closed docker =>
      cases stepped
      exact afterRedis_leads pinged docker place.1 place.2
    | timeout docker => cases early
    | _ => cases stepped
  | sleepingRedis =>
    cases event with
    | awake docker =>
      cases stepped
      exact ⟨place, rfl, fun none => by cases none⟩
    | timeout docker => cases early
    | _ => cases stepped
  | sleepingDocker =>
    cases event with
    | awake docker =>
      cases stepped
      exact pingDocker_leads docker place.1 place.2
    | timeout docker => cases early
    | _ => cases stepped
  | connectingBroker =>
    cases event with
    | connected pinged =>
      cases stepped
      exact ⟨place, rfl, fun none => by cases none⟩
    | timeout docker => cases early
    | _ => cases stepped
  | disconnectingBroker connected =>
    cases event with
    | closed docker =>
      cases stepped
      exact afterBroker_leads connected place.1 place.2
    | timeout docker => cases early
    | _ => cases stepped
  | sleepingBroker =>
    cases event with
    | awake docker =>
      cases stepped
      exact ⟨place, rfl, fun none => by cases none⟩
    | timeout docker => cases early
    | _ => cases stepped
  | exited ok =>
    cases event with
    | timeout docker => cases early
    | _ => cases stepped

/-- A timeout ends the wait, or it is caught where a connection is closed. -/
theorem step_timeout {docker : Bool} (place : Place setup state)
    (stepped : step setup state (.timeout docker) = some next) : next.timedOut = true ∧ Place setup next ∧
      (state.Closing → next.stage = .exited false → PartAnswered setup next) := by
  obtain ⟨stage, timedOut, answered⟩ := state
  cases timedOut with
  | true => cases stage <;> cases stepped
  | false =>
    cases stage with
    | closingRedis pinged =>
      cases stepped
      have late : ({ stage := .closingRedis pinged, timedOut := true, answered } : State).answered = [] := place.2
      have leads := afterRedis_leads pinged docker place.1 late
      exact ⟨leads.timedOut, leads.place, fun _ => leads.failed⟩
    | disconnectingBroker connected =>
      cases stepped
      have late : ({ stage := .disconnectingBroker connected, timedOut := true, answered } : State).answered =
          setup.base := place.2
      have leads := afterBroker_leads connected place.1 late
      exact ⟨leads.timedOut, leads.place, fun _ => leads.failed⟩
    | exited ok => cases stepped
    | _ =>
      cases stepped
      exact ⟨rfl, rfl, False.elim⟩

theorem initial_place : Place setup (initial setup) := by
  unfold initial
  by_cases base : setup.waiterBase = true
  · rw [if_pos base]
    exact ⟨base, rfl⟩
  · have none : setup.base = [] := if_neg base
    rw [if_neg base]
    by_cases waits : setup.waitsBroker = true
    · rw [if_pos waits]
      exact ⟨waits, none.symm⟩
    · rw [if_neg waits]
      refine ⟨rfl, ?_⟩
      rw [Setup.required, none, if_neg waits]
      rfl

/-- A run keeps its place, and remembers whether its time was over. -/
theorem run_place {events : List Event} (place : Place setup state)
    (ran : Transition.run (step setup) state events = some next) :
    Place setup next ∧ (next.timedOut = true ↔ state.timedOut = true ∨ ∃ event ∈ events, event.isTimeout = true) := by
  induction events generalizing state with
  | nil =>
    cases ran
    exact ⟨place, by simp⟩
  | cons event rest ih =>
    obtain ⟨middle, stepped, further⟩ := Transition.run_cons.mp ran
    -- only a timeout is remembered
    cases event with
    | timeout docker =>
      obtain ⟨late, after, -⟩ := step_timeout place stepped
      obtain ⟨ended, same⟩ := ih after further
      refine ⟨ended, iff_of_true (same.mpr (.inl late)) (.inr ⟨_, List.mem_cons_self, rfl⟩)⟩
    | _ =>
      have leads := step_leads place stepped rfl
      obtain ⟨ended, same⟩ := ih leads.place further
      refine ⟨ended, ?_⟩
      rw [same, leads.timedOut]
      simp [Event.isTimeout]

/-- The command ends well exactly when no timeout arrived, and then all services have answered in
order. It fails without the answers only by a timeout while no connection was being closed. -/
theorem wait_ends (setup : Setup) (events : List Event) (state : State)
    (ran : Transition.run (step setup) (initial setup) events = some state) {ok : Bool}
    (ended : state.stage = .exited ok) :
    (ok = true ↔ ∀ event ∈ events, event.isTimeout = false) ∧ (ok = true → state.answered = setup.required) ∧
      (ok = false → ∀ before last reached, events = before ++ [last] →
        Transition.run (step setup) (initial setup) before = some reached → (last.isTimeout = true → reached.Closing) →
        PartAnswered setup state) := by
  obtain ⟨place, timedOut⟩ := run_place initial_place ran
  have kept : state.timedOut = true ↔ ∃ event ∈ events, event.isTimeout = true := by
    rw [timedOut]
    exact or_iff_right (by simp [initial])
  refine ⟨?_, ?_, ?_⟩
  · have none : (∀ event ∈ events, event.isTimeout = false) ↔ ¬ state.timedOut = true := by
      rw [kept]
      simp
    rw [none]
    unfold Place at place
    rw [ended] at place
    cases ok
    · exact iff_of_false Bool.false_ne_true (not_not.mpr place)
    · exact iff_of_true rfl (by simp [place.1])
  · rintro rfl
    unfold Place at place
    rw [ended] at place
    exact place.2
  · rintro rfl before last middle rfl reached closing
    obtain ⟨same, run, stepped⟩ := Transition.run_concat.mp ran
    rw [reached] at run
    cases run
    have here := (run_place initial_place reached).1
    cases last with
    | timeout docker => exact (step_timeout here stepped).2.2 (closing rfl) ended
    | _ => exact (step_leads here stepped rfl).failed ended

def outlived : List Event :=
  [.connected none, .awake false, .connected (some true), .timeout false, .awake false, .awake true]

theorem outlived_answered : ∃ state, Transition.run (step ⟨true, false, true⟩) (initial ⟨true, false, true⟩) outlived =
    some state ∧ state.stage = .exited false ∧ PartAnswered ⟨true, false, true⟩ state := by
  obtain ⟨state, ran, ended⟩ : ∃ state,
      Transition.run (step ⟨true, false, true⟩) (initial ⟨true, false, true⟩) outlived = some state ∧
        state.stage = .exited false := ⟨_, rfl, rfl⟩
  obtain ⟨-, -, late⟩ := wait_ends ⟨true, false, true⟩ outlived state ran ended
  exact ⟨state, ran, ended, late rfl (outlived.take 5) (.awake true) _ rfl rfl nofun⟩

end Runs

end Waiter

end Wotemu
