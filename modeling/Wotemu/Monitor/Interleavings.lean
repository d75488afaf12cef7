import Wotemu.Monitor.Records

/-! Overlapping calls on one monitor.

`start` looks whether the monitor is running before its first await, and creates
the tasks after its last one; `stop` does not look whether a call is on its way.
Calls that keep apart leave one pool and one system task at a time, and nothing
after a last `stop`.
-/

set_option autoImplicit false

namespace Wotemu

open Wotemu.Foundation

namespace TaskStage

/-- The stages that a task passes when it is cancelled once, after its first step. -/
def healthy : TaskStage → Bool
  | created requested => !requested
  | terminating again raising => !again && !raising
  | failed | cancelled => false
  | _ => true

def ready : TaskStage → Bool
  | created _ | terminating _ _ => false
  | _ => true

theorem healthy_cancel {stage : TaskStage} (healthy : stage.healthy = true) (ready : stage.ready = true) :
    stage.cancel.healthy = true := by
  cases stage <;> simp_all [TaskStage.healthy, TaskStage.ready, cancel]

theorem not_broken_of_healthy {stage : TaskStage} (healthy : stage.healthy = true) : stage.broken = false := by
  cases stage <;> simp_all [TaskStage.healthy, broken]

end TaskStage

theorem BackgroundTask.healthy_of_act {task : BackgroundTask} {action : TaskAction} {stage : TaskStage}
    (acted : task.act action = some stage) (healthy : task.stage.healthy = true)
    (sound : ∀ exited, action ≠ .error exited) :
    stage.healthy = true := by
  cases action with
  | firstStep =>
    simp only [act] at acted
    split at acted
    · rename_i requested before
      have fresh : requested = false := by simpa [before, TaskStage.healthy] using healthy
      cases acted
      simp [fresh, TaskStage.healthy]
    · cases acted
  | cancelArrives exited =>
    simp only [act] at acted
    split at acted
    · cases acted
      unfold leave
      split <;> rfl
    · cases acted
  | error exited => exact absurd rfl (sound exited)
  | terminated swallowed =>
    simp only [act] at acted
    split at acted
    · rename_i again raising before
      have once : again = false ∧ raising = false := by simpa [before, TaskStage.healthy] using healthy
      cases acted
      simp [once, TaskStage.healthy]
    · cases acted

namespace TaskTable

variable {tasks : TaskTable}

def Healthy (tasks : TaskTable) : Prop := ∀ id stage, tasks.stage? id = some stage → stage.healthy = true

def Ready (tasks : TaskTable) (ids : List Nat) : Prop := ∀ stage ∈ tasks.stages ids, stage.ready = true

instance (ids : List Nat) : Decidable (tasks.Ready ids) := inferInstanceAs (Decidable (∀ _ ∈ _, _))

theorem Healthy.cancel (healthy : tasks.Healthy) {ids : List Nat} (ready : tasks.Ready ids) :
    TaskTable.Healthy (tasks.cancel ids) := by
  intro id stage located
  rw [stage?_cancel] at located
  obtain ⟨before, found, same⟩ := Option.map_eq_some_iff.mp located
  rw [← same]
  split
  · rename_i chosen
    exact TaskStage.healthy_cancel (healthy id before found) (ready before (mem_stages.mpr ⟨id, chosen, found⟩))
  · exact healthy id before found

theorem Healthy.act (healthy : tasks.Healthy) {id : Nat} {action : TaskAction} {next : TaskTable}
    (acted : tasks.act id action = some next) (sound : ∀ exited, action ≠ .error exited) : next.Healthy := by
  obtain ⟨task, stage, found, moved, rfl⟩ := act_eq_some.mp acted
  intro other after located
  rw [stage?_set found] at located
  split at located
  · cases located
    exact BackgroundTask.healthy_of_act moved (healthy id task.stage (by simp [stage?, found])) sound
  · exact healthy other after located

theorem Healthy.append (healthy : tasks.Healthy) {created : TaskTable}
    (fresh : ∀ task ∈ created, task.stage = .created false) : TaskTable.Healthy (tasks ++ created) := by
  intro id stage located
  obtain ⟨task, found, rfl⟩ := Option.map_eq_some_iff.mp located
  rcases List.mem_append.mp (List.mem_of_getElem? found) with old | new
  · obtain ⟨before, same⟩ := List.getElem?_of_mem old
    exact healthy before task.stage (by simp [stage?, same])
  · rw [fresh task new]
    rfl

theorem Healthy.gather (healthy : tasks.Healthy) {ids : List Nat} {ok : Bool} (ended : tasks.gather ids = some ok) :
    ok = true := by
  cases ok with
  | true => rfl
  | false =>
    obtain ⟨stage, member, broken⟩ := gather_eq_false ended
    obtain ⟨id, -, located⟩ := mem_stages.mp member
    rw [TaskStage.not_broken_of_healthy (healthy id stage located)] at broken
    cases broken

end TaskTable

namespace CallStage

/-- A `start` past its check. -/
def starting : CallStage → Bool
  | opening | writing => true
  | _ => false

/-- A `stop` that awaits something. -/
def stopping : CallStage → Bool
  | awaitingSystem _ | awaitingPackets _ | closing _ => true
  | _ => false

end CallStage

namespace NodeMonitor

variable {monitor next : NodeMonitor} {setup : MonitorSetup}

/-- Fields are kept or become `None`. -/
structure Clears (monitor next : NodeMonitor) : Prop where
  redis : next.redis = monitor.redis ∨ next.redis = none
  taskSystem : next.taskSystem = monitor.taskSystem ∨ next.taskSystem = none
  tasksPacket : next.tasksPacket = monitor.tasksPacket ∨ next.tasksPacket = []

theorem Clears.trans {last : NodeMonitor} (first : monitor.Clears next) (second : next.Clears last) :
    monitor.Clears last where
  redis := second.redis.elim (fun same => same ▸ first.redis) .inr
  taskSystem := second.taskSystem.elim (fun same => same ▸ first.taskSystem) .inr
  tasksPacket := second.tasksPacket.elim (fun same => same ▸ first.tasksPacket) .inr

/-- What a call may rely on when it goes on after its await, whatever other calls did meanwhile. -/
def Fits (monitor : NodeMonitor) : CallStage → Prop
  | .opening => monitor.redis = none
  | .awaitingSystem task => ∀ id, monitor.taskSystem = some id → id = task
  | .awaitingPackets tasks => monitor.taskSystem = none ∧ ∀ id ∈ monitor.tasksPacket, id ∈ tasks
  | .closing pool => monitor.taskSystem = none ∧ monitor.tasksPacket = [] ∧ ∀ id, monitor.redis = some id → id = pool
  | _ => True

theorem Fits.clears {stage : CallStage} (fits : monitor.Fits stage) (clears : monitor.Clears next) :
    next.Fits stage := by
  obtain ⟨redis, taskSystem, tasksPacket⟩ := clears
  cases stage <;> grind [Fits]

theorem fits_of_not_stopping {stage : CallStage} (notStopping : stage.stopping = false)
    (opening : stage = .opening → monitor.redis = none) : monitor.Fits stage := by
  cases stage with
  | opening => exact opening rfl
  | awaitingSystem _ | awaitingPackets _ | closing _ => cases notStopping
  | _ => trivial

/-- What a segment of `stop` leaves for the other calls and for its own next segment. -/
structure Stops (monitor : NodeMonitor) (result : NodeMonitor × CallStage) : Prop where
  clears : monitor.Clears result.1
  recorded : result.1.Recorded
  healthy : result.1.tasks.Healthy
  fits : result.1.Fits result.2
  going : result.2.stopping = true ∨ result.2 = .returned ∧ result.1.Quiet

theorem Stops.after {result : NodeMonitor × CallStage} (stops : next.Stops result) (clears : monitor.Clears next) :
    monitor.Stops result :=
  { stops with clears := clears.trans stops.clears }

theorem redisClose_stops (recorded : monitor.Recorded) (healthy : monitor.tasks.Healthy)
    (system : monitor.taskSystem = none) (packets : monitor.tasksPacket = []) : monitor.Stops monitor.redisClose := by
  rcases monitor.redisClose_cases with ⟨none, same⟩ | ⟨pool, field, same⟩ <;> rw [same]
  · have kept : monitor.clearTasks = (monitor, .returned) := by rw [clearTasks, ← system, ← packets]
    rw [kept]
    exact ⟨⟨.inl rfl, .inl rfl, .inl rfl⟩, recorded, healthy, trivial, .inr ⟨rfl, none, system, packets⟩⟩
  · exact ⟨⟨.inl rfl, .inl rfl, .inl rfl⟩, recorded, healthy, ⟨system, packets, by simp [field, eq_comm]⟩, .inl rfl⟩

theorem stopPacketTasks_stops (recorded : monitor.Recorded) (healthy : monitor.tasks.Healthy)
    (system : monitor.taskSystem = none) (ready : monitor.tasks.Ready monitor.tasksPacket) :
    monitor.Stops monitor.stopPacketTasks := by
  rcases monitor.stopPacketTasks_cases with ⟨none, same⟩ | ⟨-, same⟩ <;> rw [same]
  · exact redisClose_stops recorded healthy system none
  · exact ⟨⟨.inl rfl, .inl rfl, .inl rfl⟩, recorded.cancel _, healthy.cancel ready,
      ⟨system, fun _ member => member⟩, .inl rfl⟩

theorem stopSystemTask_stops (recorded : monitor.Recorded) (healthy : monitor.tasks.Healthy)
    (ready : monitor.tasks.Ready monitor.taskSystem.toList)
    (packets : monitor.taskSystem = none → monitor.tasks.Ready monitor.tasksPacket) :
    monitor.Stops monitor.stopSystemTask := by
  unfold stopSystemTask
  split
  · rename_i none
    exact stopPacketTasks_stops recorded healthy none (packets none)
  · rename_i task field
    rw [field] at ready
    exact ⟨⟨.inl rfl, .inl rfl, .inl rfl⟩, recorded.cancel _, healthy.cancel ready,
      by simp [Fits, field, eq_comm], .inl rfl⟩

end NodeMonitor

namespace MonitorState

def Succeeds : MonitorEvent → Prop
  | .call _ (.redisOpened ok) | .call _ (.nodeInfoWritten ok) | .call _ (.redisClosed ok) => ok = true
  | .task _ (.error _) => False
  | _ => True

/-- A `start` that passes its check overlaps with no `stop`, and opens Redis alone. A `stop` overlaps
with no such `start`, and cancels tasks after their first step and before they shut down. -/
def Apart (state : MonitorState) : MonitorEvent → Prop
  | .call _ .start => state.shared.isRunning = true ∨ (∀ other, (state.stage other).stopping = false) ∧
      (state.shared.redis = none → ∀ other, state.stage other ≠ .opening)
  | .call _ .stop => (∀ other, (state.stage other).starting = false) ∧
      state.shared.tasks.Ready state.shared.taskSystem.toList ∧
      (state.shared.taskSystem = none → state.shared.tasks.Ready state.shared.tasksPacket)
  | .call _ .tasksEnded => state.shared.tasks.Ready state.shared.tasksPacket
  | _ => True

/-- One pool and one system task at a time, and nothing is left when the last call was a `stop`. -/
structure Exclusive (state : MonitorState) : Prop where
  pool : ∀ first second : Nat, state.shared.pools[first]? = some true → state.shared.pools[second]? = some true →
    first = second
  system : ∀ first second, state.shared.tasks.LiveAt .system first → state.shared.tasks.LiveAt .system second →
    first = second
  stopped : (∀ call, (state.stage call).starting = false ∧ (state.stage call).stopping = false) →
    state.shared.lastIssued = some .stop → state.shared.Released

/-- What calls that keep apart leave at every await. -/
structure Coherent (state : MonitorState) : Prop where
  recorded : state.shared.Recorded
  healthy : state.shared.tasks.Healthy
  fits : ∀ call, state.shared.Fits (state.stage call)
  opening : state.AtMostOne fun stage => stage = .opening
  apart : ∀ first second, (state.stage first).starting = true → (state.stage second).stopping = false
  stopped : state.shared.lastIssued = some .stop → (∀ call, (state.stage call).starting = false) ∧
    (state.shared.Quiet ∨ ∃ call, (state.stage call).stopping = true)

theorem Coherent.exclusive {state : MonitorState} (coherent : Coherent state) : Exclusive state where
  pool := by
    intro first second left right
    exact Option.some.inj ((coherent.recorded.pool first left).symm.trans (coherent.recorded.pool second right))
  system := by
    intro first second left right
    exact Option.some.inj ((coherent.recorded.system first left).symm.trans (coherent.recorded.system second right))
  stopped := by
    intro ended last
    rcases (coherent.stopped last).2 with quiet | ⟨call, stopping⟩
    · exact coherent.recorded.released quiet
    · rw [(ended call).2] at stopping
      cases stopping

theorem initial_coherent : Coherent initial where
  recorded := NodeMonitor.initial_recorded
  healthy := fun _ _ found => (by cases found)
  fits := fun _ => trivial
  opening := fun _ _ same => (by cases same)
  apart := fun _ _ _ => rfl
  stopped := fun same => (by cases same)

variable {state : MonitorState} {call : Nat} {setup : MonitorSetup}

/-- A segment of `stop`, while no `start` is on its way. -/
theorem Coherent.stop (coherent : Coherent state) {result : NodeMonitor × CallStage} (stops : state.shared.Stops result)
    (free : ∀ other, (state.stage other).starting = false) : Coherent (state.advance call result.1 result.2) := by
  -- the segment ends in a later stage of `stop` or with the call, so no start is on its way after it either
  have after : ∀ other, ((state.advance call result.1 result.2).stage other).starting = false := by
    refine Agents.forall_advance (fun stage : CallStage => stage.starting = false) free ?_
    rcases stops.going with going | ⟨ended, -⟩
    · cases stage : result.2 <;> simp_all [CallStage.starting, CallStage.stopping]
    · rw [ended]
      rfl
  refine ⟨stops.recorded, stops.healthy, ?_, ?_, ?_, ?_⟩
  · exact Agents.forall_advance _ (fun other => (coherent.fits other).clears stops.clears) stops.fits
  · intro first _ opening
    have none := after first
    simp [opening, CallStage.starting] at none
  · intro first _ starting
    rw [after first] at starting
    cases starting
  · refine fun _ => ⟨after, ?_⟩
    rcases stops.going with going | ⟨-, quiet⟩
    · exact .inr ⟨call, by simpa using going⟩
    · exact .inl quiet

/-- The first segment of `start`. -/
theorem Coherent.begin (coherent : Coherent state) {stage : CallStage} (notStopping : stage.stopping = false)
    (fits : state.shared.Fits stage) (alone : stage = .opening → ∀ other, state.stage other ≠ .opening)
    (free : stage.starting = true → ∀ other, (state.stage other).stopping = false) :
    Coherent (state.advance call { state.shared with lastIssued := some .start } stage) where
  recorded := ⟨coherent.recorded.pool, coherent.recorded.system, coherent.recorded.packet⟩
  healthy := coherent.healthy
  fits := Agents.forall_advance _ coherent.fits fits
  opening := by
    by_cases opening : stage = .opening
    · exact Agents.AtMostOne.advance_first (alone opening)
    · exact coherent.opening.advance_within fun same => absurd same opening
  apart := by
    intro first second starting
    rcases Agents.before_advance (fun stage : CallStage => stage.starting = true) starting with ⟨-, new⟩ | ⟨-, old⟩
    · exact Agents.forall_advance (fun stage : CallStage => stage.stopping = false) (free new) notStopping second
    · exact Agents.forall_advance (fun stage : CallStage => stage.stopping = false)
        (fun other => coherent.apart first other old) notStopping second
  stopped := fun same => (by cases same)

theorem Coherent.startCall (coherent : Coherent state) (call : Nat) (apart : Apart state (.call call .start)) :
    Coherent (state.advance call { state.shared with lastIssued := some .start }
      (if state.shared.isRunning then .raised else if state.shared.redis.isSome then .writing else .opening)) := by
  split
  · exact coherent.begin rfl trivial (fun same => by cases same) (fun same => by cases same)
  · rename_i passed
    obtain ⟨free, alone⟩ := apart.resolve_left passed
    split
    · exact coherent.begin rfl trivial (fun same => by cases same) (fun _ => free)
    · rename_i closed
      have none : state.shared.redis = none := by simpa using closed
      exact coherent.begin rfl none (fun _ => alone none) (fun _ => free)

theorem Coherent.redis_of_opening (coherent : Coherent state) (opening : state.stage call = .opening) :
    state.shared.redis = none := by
  have fits := coherent.fits call
  rw [opening] at fits
  exact fits

/-- A later segment of `start`. -/
theorem Coherent.proceed (coherent : Coherent state) (starting : (state.stage call).starting = true)
    {monitor : NodeMonitor} {stage : CallStage} (recorded : monitor.Recorded) (healthy : monitor.tasks.Healthy)
    (last : monitor.lastIssued = state.shared.lastIssued) (notStopping : stage.stopping = false)
    (notOpening : stage ≠ .opening)
    (fits : ∀ other, other ≠ call → state.stage other = .opening → monitor.redis = none) :
    Coherent (state.advance call monitor stage) := by
  have free := fun other => coherent.apart call other starting
  refine ⟨recorded, healthy, ?_, ?_, ?_, ?_⟩
  · intro other
    by_cases own : other = call
    · rw [own, Agents.advance_stage_self]
      exact NodeMonitor.fits_of_not_stopping notStopping fun same => absurd same notOpening
    · rw [Agents.advance_stage_of_ne _ _ _ _ own]
      exact NodeMonitor.fits_of_not_stopping (free other) (fits other own)
  · exact coherent.opening.advance_within fun same => absurd same notOpening
  · intro _ second _
    exact Agents.forall_advance (fun stage : CallStage => stage.stopping = false) free notStopping second
  · intro same
  -- after a last `stop` no start is on its way, and this one is
    have none := (coherent.stopped (last ▸ same)).1 call
    rw [starting] at none
    cases none

theorem Coherent.task (coherent : Coherent state) {id : Nat} {action : TaskAction} {tasks : TaskTable}
    (acted : state.shared.tasks.act id action = some tasks) (sound : ∀ exited, action ≠ .error exited) :
    Coherent { state with shared := { state.shared with tasks } } where
  recorded := coherent.recorded.task acted
  healthy := coherent.healthy.act acted sound
  fits := coherent.fits
  opening := coherent.opening
  apart := coherent.apart
  stopped := fun last => by
    obtain ⟨free, quiet | stopping⟩ := coherent.stopped last
    · exact ⟨free, .inl ⟨quiet.redis, quiet.taskSystem, quiet.tasksPacket⟩⟩
    · exact ⟨free, .inr stopping⟩

section

variable {monitor : NodeMonitor}

structure Creates (monitor next : NodeMonitor) : Prop where
  redis : next.redis = monitor.redis
  lastIssued : next.lastIssued = monitor.lastIssued
  healthy : monitor.tasks.Healthy → next.tasks.Healthy

theorem createSystemTask_creates {next : NodeMonitor} (created : monitor.createSystemTask setup = some next) :
    Creates monitor next := by
  unfold NodeMonitor.createSystemTask at created
  obtain ⟨-, same⟩ := Option.ite_none_left_eq_some.mp created
  cases same
  exact ⟨rfl, rfl, fun healthy => healthy.append (by simp)⟩

theorem createPacketTasks_creates {next : NodeMonitor} (created : monitor.createPacketTasks setup = some next) :
    Creates monitor next := by
  unfold NodeMonitor.createPacketTasks at created
  obtain ⟨-, same⟩ := Option.ite_none_left_eq_some.mp created
  cases same
  exact ⟨rfl, rfl, fun healthy => healthy.append (by simp)⟩

theorem createTasks_creates : Creates monitor (monitor.createTasks setup).1 := by
  unfold NodeMonitor.createTasks
  split
  · exact ⟨rfl, rfl, id⟩
  · rename_i withSystem system
    have first := createSystemTask_creates system
    split
    · exact first
    · rename_i withPackets packets
      have second := createPacketTasks_creates packets
      exact ⟨second.redis.trans first.redis, second.lastIssued.trans first.lastIssued, second.healthy ∘ first.healthy⟩

theorem createTasks_over :
    (monitor.createTasks setup).2.stopping = false ∧ (monitor.createTasks setup).2 ≠ .opening := by
  unfold NodeMonitor.createTasks
  split
  · simp [CallStage.stopping]
  · split <;> simp [CallStage.stopping]

end

/-- The segment of `stop` that follows the end of its tasks. -/
theorem Coherent.tasksEnded {result : NodeMonitor × CallStage} (coherent : Coherent state)
    (ready : state.shared.tasks.Ready state.shared.tasksPacket)
    (acted : setup.act .tasksEnded state.shared (state.stage call) = some result) : state.shared.Stops result := by
  have fits := coherent.fits call
  cases stage : state.stage call with
  | awaitingSystem task =>
    rw [stage] at acted fits
    obtain ⟨ok, ended, rfl⟩ := Option.map_eq_some_iff.mp acted
    have returned := coherent.healthy.gather ended
    subst returned
    have recorded := coherent.recorded.forgetSystem fun id field =>
      TaskTable.not_liveAt_of_gather ended (List.mem_singleton.mpr (fits id field))
    exact (NodeMonitor.stopPacketTasks_stops recorded coherent.healthy rfl ready).after ⟨.inl rfl, .inr rfl, .inl rfl⟩
  | awaitingPackets tasks =>
    rw [stage] at acted fits
    obtain ⟨ok, ended, rfl⟩ := Option.map_eq_some_iff.mp acted
    have returned := coherent.healthy.gather ended
    subst returned
    have recorded := coherent.recorded.forgetPackets fun id member =>
      TaskTable.not_liveAt_of_gather ended (fits.2 id member)
    exact (NodeMonitor.redisClose_stops recorded coherent.healthy fits.1 rfl).after ⟨.inl rfl, .inl rfl, .inr rfl⟩
  | _ =>
    rw [stage] at acted
    cases acted

/-- The last segment of `stop`. -/
theorem Coherent.redisClosed {pool : Nat} (coherent : Coherent state) (stage : state.stage call = .closing pool) :
    state.shared.Stops
      { state.shared with redis := none, pools := state.shared.pools.set pool false }.clearTasks := by
  have fits := coherent.fits call
  rw [stage] at fits
  have recorded := coherent.recorded.forgetPool fits.2.2
  exact (NodeMonitor.redisClose_stops recorded coherent.healthy fits.1 fits.2.1).after ⟨.inr rfl, .inl rfl, .inl rfl⟩

/-- One case for each segment of the two functions. -/
theorem step_coherent (setup : MonitorSetup) (state : MonitorState) (event : MonitorEvent) (next : MonitorState)
    (coherent : Coherent state) (allowed : Succeeds event ∧ Apart state event)
    (stepped : setup.step state event = some next) : Coherent next := by
  obtain ⟨succeeds, apart⟩ := allowed
  cases event with
  | task id action =>
    obtain ⟨tasks, acted, rfl⟩ := Option.map_eq_some_iff.mp stepped
    refine coherent.task acted fun exited same => ?_
    rw [same] at succeeds
    exact succeeds
  | call call action =>
    obtain ⟨result, acted, rfl⟩ := Agents.step_eq_some.mp stepped
    dsimp only at acted
    have moved := acted
    -- while a `stop` awaits something no `start` is past its check
    have stopping (stopping : (state.stage call).stopping = true) (other : Nat) :
        (state.stage other).starting = false := by
      cases starting : (state.stage other).starting with
      | false => rfl
      | true => rw [coherent.apart other call starting] at stopping; exact stopping.symm
    cases stage : state.stage call with
    | idle =>
      rw [stage] at acted
      cases action with
      | start =>
        cases acted
        exact coherent.startCall call apart
      | stop =>
        cases acted
        obtain ⟨free, ready, packets⟩ := apart
        have recorded : ({ state.shared with lastIssued := some .stop } : NodeMonitor).Recorded :=
          ⟨coherent.recorded.pool, coherent.recorded.system, coherent.recorded.packet⟩
        have stops := NodeMonitor.stopSystemTask_stops recorded coherent.healthy ready packets
        exact coherent.stop (stops.after ⟨.inl rfl, .inl rfl, .inl rfl⟩) free
      | _ => cases acted
    | opening =>
      rw [stage] at acted
      cases action with
      | redisOpened ok =>
        have opened : ok = true := succeeds
        subst opened
        cases acted
        -- no field is overwritten: the pool is the first one, and no other start opens one
        have recorded := coherent.recorded.redisOpen (coherent.redis_of_opening stage)
        exact coherent.proceed (by rw [stage]; rfl) recorded coherent.healthy rfl rfl
          (by simp) fun other own opening => absurd (coherent.opening other call opening stage) own
      | _ => cases acted
    | writing =>
      rw [stage] at acted
      cases action with
      | nodeInfoWritten ok =>
        have written : ok = true := succeeds
        subst written
        cases acted
        have creates : Creates state.shared (state.shared.createTasks setup).1 := createTasks_creates
        refine coherent.proceed (by rw [stage]; rfl) coherent.recorded.createTasks (creates.healthy coherent.healthy)
          creates.lastIssued createTasks_over.1 createTasks_over.2 fun other _ opening => ?_
        exact creates.redis.trans (coherent.redis_of_opening opening)
      | _ => cases acted
    | awaitingSystem _ | awaitingPackets _ =>
      rw [stage] at acted
      cases action with
      | tasksEnded => exact coherent.stop (coherent.tasksEnded apart moved) (stopping (by rw [stage]; rfl))
      | _ => cases acted
    | closing pool =>
      rw [stage] at acted
      cases action with
      | redisClosed ok =>
        have closed : ok = true := succeeds
        subst closed
        cases acted
        exact coherent.stop (coherent.redisClosed stage) (stopping (by rw [stage]; rfl))
      | _ => cases acted
    | returned | raised =>
      rw [stage] at acted
      cases action <;> cases acted

/-- Calls that keep apart, however many and in whatever order, are exclusive at every await. -/
theorem apart_exclusive (setup : MonitorSetup) (events : List MonitorEvent) (state : MonitorState)
    (ran : Transition.run setup.step initial events = some state) (succeeds : ∀ event ∈ events, Succeeds event)
    (apart : Transition.Along setup.step Apart initial events) : Exclusive state :=
  (Transition.run_preserves (step_coherent setup) initial_coherent ran
    ((Transition.along_of_forall succeeds initial).and apart)).exclusive

def inTurn : List MonitorEvent :=
  [.call 0 .start, .call 0 (.redisOpened true), .call 0 (.nodeInfoWritten true), .task 0 .firstStep, .task 1 .firstStep,
    .call 1 .start, .call 2 .stop, .task 0 (.cancelArrives true), .call 2 .tasksEnded, .task 1 (.cancelArrives false),
    .task 1 (.terminated false), .call 2 .tasksEnded, .call 2 (.redisClosed true)]

theorem inTurn_exclusive : ∃ state, Transition.run MonitorSetup.clock.step initial inTurn = some state ∧
    state.shared.lastIssued = some .stop ∧ Exclusive state := by
  obtain ⟨state, ran, last⟩ : ∃ state, Transition.run MonitorSetup.clock.step initial inTurn = some state ∧
      state.shared.lastIssued = some .stop := ⟨_, rfl, rfl⟩
  refine ⟨state, ran, last, apart_exclusive .clock inTurn state ran ?_ ?_⟩
  · simp [inTurn, Succeeds]
  · -- the first start finds the monitor new, the second one is rejected
    refine (Transition.along_cons rfl).mpr ⟨.inr ⟨fun _ => rfl, fun _ _ => by simp [initial]⟩, ?_⟩
    iterate 4 refine (Transition.along_cons rfl).mpr ⟨trivial, ?_⟩
    refine (Transition.along_cons rfl).mpr ⟨.inl rfl, ?_⟩
    -- no start is on its way when the stop comes, and both tasks have taken their first step
    refine (Transition.along_cons rfl).mpr ⟨⟨fun call => ?_, by decide, fun none => by cases none⟩, ?_⟩
    · match call with
      | 0 | 1 | call + 2 => rfl
    · refine (Transition.along_cons rfl).mpr ⟨trivial, ?_⟩
      refine (Transition.along_cons rfl).mpr ⟨?_, ?_⟩
      · exact (by decide : ∀ stage ∈ [TaskStage.running], stage.ready = true)
      · iterate 2 refine (Transition.along_cons rfl).mpr ⟨trivial, ?_⟩
        refine (Transition.along_cons rfl).mpr ⟨?_, ?_⟩
        · exact (by decide : ∀ stage ∈ [TaskStage.finished], stage.ready = true)
        · exact (Transition.along_cons rfl).mpr ⟨trivial, trivial⟩

def overtaken : List MonitorEvent :=
  [.call 0 .start, .call 1 .stop, .call 0 (.redisOpened true), .call 0 (.nodeInfoWritten true)]

theorem overtaken_not_exclusive : ¬ ∀ (setup : MonitorSetup) events state,
    Transition.run setup.step initial events = some state →
    (∀ event ∈ events, Succeeds event) → Exclusive state := by
  intro claimed
  obtain ⟨state, ran, first, second, others, last, isOpen⟩ : ∃ state,
      Transition.run MonitorSetup.clock.step initial overtaken = some state ∧ state.stage 0 = .returned ∧
        state.stage 1 = .returned ∧ (∀ call, state.stage (call + 2) = .idle) ∧
        state.shared.lastIssued = some .stop ∧ state.shared.pools[0]? = some true :=
    ⟨_, rfl, rfl, rfl, fun _ => rfl, rfl, rfl⟩
  have exclusive := claimed .clock overtaken state ran (by simp [overtaken, Succeeds])
  refine (exclusive.stopped (fun call => ?_) last).pool 0 isOpen
  match call with
  | 0 => rw [first]; exact ⟨rfl, rfl⟩
  | 1 => rw [second]; exact ⟨rfl, rfl⟩
  | call + 2 => rw [others]; exact ⟨rfl, rfl⟩

end MonitorState

end Wotemu
