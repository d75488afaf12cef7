import Wotemu.Monitor.Records

/-! One `stop` call on a started monitor.

The call awaits the system task, then the packet tasks, then the close of Redis.
A task that failed, or that is cancelled before its first step, raises at its
await, and the call ends there with the rest undone.
-/

set_option autoImplicit false

namespace Wotemu

open Wotemu.Foundation

namespace TaskStage

/-- The await of the task raises, or will once the task has taken its first step or terminated its process. -/
def spoiled : TaskStage → Bool
  | created requested => requested
  | terminating _ raising => raising
  | stage => stage.broken

def unstepped : TaskStage → Bool
  | created _ => true
  | _ => false

theorem spoiled_cancel (stage : TaskStage) :
    stage.cancel.spoiled = true ↔ stage.spoiled = true ∨ stage.unstepped = true := by
  cases stage <;> simp [spoiled, unstepped, cancel, broken]

end TaskStage

def TaskAction.Clean (stage : Option TaskStage) : TaskAction → Prop
  | .error _ => False
  | .terminated swallowed => stage = some (.terminating true false) → swallowed = true
  | _ => True

theorem BackgroundTask.spoiled_leave (task : BackgroundTask) (exited raising : Bool) :
    (task.leave exited raising).spoiled = raising := by
  unfold leave
  split
  · rfl
  · cases raising <;> rfl

theorem BackgroundTask.spoiled_of_act {task : BackgroundTask} {action : TaskAction} {stage : TaskStage}
    (acted : task.act action = some stage) :
    stage.spoiled = true ↔ task.stage.spoiled = true ∨ ¬ action.Clean (some task.stage) := by
  cases action with
  | firstStep =>
    simp only [act] at acted
    split at acted
    · rename_i requested before
      cases acted
      cases requested <;> simp [before, TaskStage.spoiled, TaskStage.broken, TaskAction.Clean]
    · cases acted
  | cancelArrives exited =>
    simp only [act] at acted
    split at acted
    · rename_i before
      cases acted
      rw [spoiled_leave, before]
      simp [TaskStage.spoiled, TaskStage.broken, TaskAction.Clean]
    · cases acted
  | error exited =>
    simp only [act] at acted
    have unclean : ¬ TaskAction.Clean (some task.stage) (.error exited) := id
    refine iff_of_true ?_ (.inr unclean)
    split at acted <;> cases acted
    · exact task.spoiled_leave exited true
    · exact task.spoiled_leave exited true
    · rfl
  | terminated swallowed =>
    simp only [act] at acted
    split at acted
    · rename_i again raising before
      cases acted
      cases again <;> cases raising <;> cases swallowed <;>
        simp [before, TaskStage.spoiled, TaskStage.broken, TaskAction.Clean]
    · cases acted

namespace TaskTable

variable {tasks : TaskTable}

def Spoiled (tasks : TaskTable) (ids : List Nat) : Prop := ∃ stage ∈ tasks.stages ids, stage.spoiled = true

def Stepped (tasks : TaskTable) (ids : List Nat) : Prop := ∀ stage ∈ tasks.stages ids, stage.unstepped = false

def Finished (tasks : TaskTable) (ids : List Nat) : Prop := ∀ stage ∈ tasks.stages ids, stage = .finished

instance (ids : List Nat) : Decidable (tasks.Spoiled ids) := inferInstanceAs (Decidable (∃ _ ∈ _, _))

instance (ids : List Nat) : Decidable (tasks.Stepped ids) := inferInstanceAs (Decidable (∀ _ ∈ _, _))

theorem Finished.stepped {ids : List Nat} (finished : tasks.Finished ids) : tasks.Stepped ids := by
  intro stage member
  rw [finished stage member]
  rfl

theorem Finished.not_spoiled {ids : List Nat} (finished : tasks.Finished ids) : ¬ tasks.Spoiled ids := by
  rintro ⟨stage, member, spoiled⟩
  rw [finished stage member] at spoiled
  cases spoiled

theorem Finished.cons {id : Nat} {ids : List Nat} (first : tasks.Finished [id]) (rest : tasks.Finished ids) :
    tasks.Finished (id :: ids) := by
  intro stage member
  obtain ⟨other, member, located⟩ := mem_stages.mp member
  rcases List.mem_cons.mp member with rfl | member
  · exact first stage (mem_stages.mpr ⟨other, List.mem_singleton_self other, located⟩)
  · exact rest stage (mem_stages.mpr ⟨other, member, located⟩)

theorem Finished.cancel {ids : List Nat} (finished : tasks.Finished ids) (chosen : List Nat) :
    Finished (tasks.cancel chosen) ids := by
  intro stage member
  obtain ⟨id, member, located⟩ := mem_stages.mp member
  rw [stage?_cancel] at located
  obtain ⟨before, found, same⟩ := Option.map_eq_some_iff.mp located
  rw [← same, finished before (mem_stages.mpr ⟨id, member, found⟩)]
  split <;> rfl

theorem Finished.act {ids : List Nat} (finished : tasks.Finished ids) {id : Nat} {action : TaskAction}
    {next : TaskTable} (acted : tasks.act id action = some next) : next.Finished ids := by
  obtain ⟨task, stage, found, moved, rfl⟩ := act_eq_some.mp acted
  intro after member
  obtain ⟨other, listed, located⟩ := mem_stages.mp member
  rw [stage?_set found] at located
  split at located
  · rename_i same
    rw [same] at listed
    have before := finished task.stage (mem_stages.mpr ⟨id, listed, by simp [stage?, found]⟩)
    cases action <;> simp [BackgroundTask.act, before] at moved
  · exact finished after (mem_stages.mpr ⟨other, listed, located⟩)

/-- Cancelling spoils the tasks that have not taken their first step. -/
theorem spoiled_cancel {ids chosen : List Nat} (among : ∀ id ∈ chosen, id ∈ ids) :
    Spoiled (tasks.cancel chosen) ids ↔ tasks.Spoiled ids ∨ ¬ tasks.Stepped chosen := by
  constructor
  · intro ⟨stage, member, spoiled⟩
    obtain ⟨id, member, located⟩ := mem_stages.mp member
    rw [stage?_cancel] at located
    obtain ⟨before, found, same⟩ := Option.map_eq_some_iff.mp located
    rw [← same] at spoiled
    split at spoiled
    · rename_i cancelled
      rcases (TaskStage.spoiled_cancel before).mp spoiled with old | unstepped
      · exact .inl ⟨before, mem_stages.mpr ⟨id, member, found⟩, old⟩
      · refine .inr fun stepped => ?_
        rw [stepped before (mem_stages.mpr ⟨id, cancelled, found⟩)] at unstepped
        cases unstepped
    · exact .inl ⟨before, mem_stages.mpr ⟨id, member, found⟩, spoiled⟩
  · have after {id : Nat} {before : TaskStage} (member : id ∈ ids) (found : tasks.stage? id = some before)
        (cause : before.spoiled = true ∨ id ∈ chosen ∧ before.unstepped = true) :
        Spoiled (tasks.cancel chosen) ids := by
      refine ⟨if id ∈ chosen then before.cancel else before, mem_stages.mpr ⟨id, member, ?_⟩, ?_⟩
      · rw [stage?_cancel, found]
        rfl
      · split
        · exact (TaskStage.spoiled_cancel before).mpr (cause.imp_right And.right)
        · rename_i kept
          exact cause.resolve_right fun ⟨cancelled, _⟩ => kept cancelled
    rintro (⟨before, member, spoiled⟩ | unstepped)
    · obtain ⟨id, member, found⟩ := mem_stages.mp member
      exact after member found (.inl spoiled)
    · simp only [Stepped, not_forall, Bool.not_eq_false] at unstepped
      obtain ⟨before, member, unstepped⟩ := unstepped
      obtain ⟨id, member, found⟩ := mem_stages.mp member
      exact after (among id member) found (.inr ⟨member, unstepped⟩)

theorem spoiled_act {ids : List Nat} {id : Nat} {action : TaskAction} {next : TaskTable}
    (acted : tasks.act id action = some next) (among : id ∈ ids) :
    next.Spoiled ids ↔ tasks.Spoiled ids ∨ ¬ action.Clean (tasks.stage? id) := by
  obtain ⟨task, stage, found, moved, rfl⟩ := act_eq_some.mp acted
  have located : tasks.stage? id = some task.stage := by simp [stage?, found]
  have own := BackgroundTask.spoiled_of_act moved
  rw [located]
  constructor
  · intro spoiled
    obtain ⟨after, member, spoiled⟩ := spoiled
    obtain ⟨other, member, same⟩ := mem_stages.mp member
    rw [stage?_set found] at same
    split at same
    · cases same
      exact (own.mp spoiled).imp_left fun old => ⟨task.stage, mem_stages.mpr ⟨id, among, located⟩, old⟩
    · exact .inl ⟨after, mem_stages.mpr ⟨other, member, same⟩, spoiled⟩
  · have here (spoiled : stage.spoiled = true) : Spoiled (tasks.set id { task with stage }) ids :=
      ⟨stage, mem_stages.mpr ⟨id, among, by rw [stage?_set found, if_pos rfl]⟩, spoiled⟩
    rintro (⟨before, member, spoiled⟩ | unclean)
    · obtain ⟨other, member, same⟩ := mem_stages.mp member
      by_cases moving : other = id
      · rw [moving, located] at same
        cases same
        exact here (own.mpr (.inl spoiled))
      · exact ⟨before, mem_stages.mpr ⟨other, member, by rw [stage?_set found, if_neg moving, same]⟩, spoiled⟩
    · exact here (own.mpr (.inr unclean))

end TaskTable

namespace NodeMonitor

/-- What `start` leaves when it completes. -/
structure Started (monitor : NodeMonitor) : Prop where
  recorded : monitor.Recorded
  redis : monitor.redis.isSome = true
  taskSystem : monitor.taskSystem.isSome = true

/-- A `start` that completes leaves a started monitor, when it found everything recorded. -/
theorem Recorded.started {monitor : NodeMonitor} {setup : MonitorSetup} (recorded : monitor.Recorded)
    (redis : monitor.redis.isSome = true) (completed : (monitor.createTasks setup).2 = .returned) :
    (monitor.createTasks setup).1.Started := by
  have fields : (monitor.createTasks setup).1.redis.isSome = true ∧
      (monitor.createTasks setup).1.taskSystem.isSome = true := by
    unfold NodeMonitor.createTasks at completed ⊢
    cases system : monitor.createSystemTask setup with
    | none => simp [system] at completed
    | some withSystem =>
      cases packets : withSystem.createPacketTasks setup with
      | none => simp [system, packets] at completed
      | some withPackets =>
        obtain ⟨-, first⟩ := Option.ite_none_left_eq_some.mp system
        obtain ⟨-, second⟩ := Option.ite_none_left_eq_some.mp packets
        simp only [packets]
        cases first
        cases second
        exact ⟨redis, rfl⟩
  exact ⟨recorded.createTasks, fields.1, fields.2⟩

def taskIds (monitor : NodeMonitor) : List Nat := monitor.taskSystem.toList ++ monitor.tasksPacket

/-- What a `stop` has done where it is, when it found this pool, this system task and these packet tasks. -/
def Place (pool task : Nat) (tasks : List Nat) (monitor : NodeMonitor) : CallStage → Prop
  | .idle => monitor.redis = some pool ∧ monitor.taskSystem = some task ∧ monitor.tasksPacket = tasks
  | .awaitingSystem id => id = task ∧
      monitor.redis = some pool ∧ monitor.taskSystem = some task ∧ monitor.tasksPacket = tasks
  | .awaitingPackets ids => ids = tasks ∧ tasks ≠ [] ∧
      monitor.redis = some pool ∧ monitor.taskSystem = none ∧ monitor.tasksPacket = tasks ∧
        monitor.tasks.Finished [task]
  | .closing id => id = pool ∧
      monitor.redis = some pool ∧ monitor.taskSystem = none ∧ monitor.tasksPacket = [] ∧
        monitor.tasks.Finished (task :: tasks)
  | .returned => monitor.Quiet ∧ monitor.tasks.Finished (task :: tasks)
  | .raised => ¬ monitor.Quiet
  | .opening | .writing => False

def Doomed (task : Nat) (tasks : List Nat) (result : NodeMonitor × CallStage) : Prop :=
  result.1.tasks.Spoiled (task :: tasks) ∨ result.2 = .raised

/-- The step of a `stop` does not make it raise: it cancels tasks after their first step only,
and Redis closes without an error. -/
def CleanCall (monitor : NodeMonitor) : CallAction → Prop
  | .stop => monitor.tasks.Stepped monitor.taskSystem.toList
  | .tasksEnded => monitor.tasks.Stepped monitor.tasksPacket
  | .redisClosed ok => ok = true
  | _ => True

/-- One segment of `stop`: where it goes, and when it dooms the call. -/
structure Leads (pool task : Nat) (tasks : List Nat) (action : CallAction)
    (before after : NodeMonitor × CallStage) : Prop where
  recorded : after.1.Recorded
  place : after.1.Place pool task tasks after.2
  doomed : Doomed task tasks after ↔ Doomed task tasks before ∨ ¬ before.1.CleanCall action

variable {pool task : Nat} {tasks : List Nat} {monitor : NodeMonitor}

theorem doomed_iff {stage : CallStage} (going : stage ≠ .raised) :
    Doomed task tasks (monitor, stage) ↔ monitor.tasks.Spoiled (task :: tasks) := by
  simp [Doomed, going]

/-- An await that raises was doomed, and leaves its field as it is. -/
theorem leads_raised {ids : List Nat} (stage : CallStage) (recorded : monitor.Recorded)
    (raised : monitor.tasks.gather ids = some false) (among : ∀ id ∈ ids, id ∈ task :: tasks)
    (field : ¬ monitor.Quiet) :
    Leads pool task tasks .tasksEnded (monitor, stage) (monitor, .raised) := by
  refine ⟨recorded, field, iff_of_true (.inr rfl) (.inl (.inl ?_))⟩
  obtain ⟨broken, member, holds⟩ := TaskTable.gather_eq_false raised
  obtain ⟨id, listed, located⟩ := TaskTable.mem_stages.mp member
  refine ⟨broken, TaskTable.mem_stages.mpr ⟨id, among id listed, located⟩, ?_⟩
  cases broken <;> first | rfl | cases holds

theorem stop_leads (recorded : monitor.Recorded) (place : monitor.Place pool task tasks .idle) :
    Leads pool task tasks .stop (monitor, .idle)
      ({ monitor with lastIssued := some .stop } : NodeMonitor).stopSystemTask := by
  obtain ⟨redis, system, packets⟩ := place
  have stopped : ({ monitor with lastIssued := some .stop } : NodeMonitor).stopSystemTask =
      ({ monitor with lastIssued := some .stop, tasks := monitor.tasks.cancel [task] }, .awaitingSystem task) := by
    simp only [stopSystemTask, system]
  rw [stopped]
  have cancelled := recorded.cancel [task]
  refine ⟨⟨cancelled.pool, cancelled.system, cancelled.packet⟩, ⟨rfl, redis, system, packets⟩, ?_⟩
  rw [doomed_iff (by simp), doomed_iff (by simp), CleanCall, system]
  exact TaskTable.spoiled_cancel (by simp)

theorem systemEnded_leads (recorded : monitor.Recorded) (place : monitor.Place pool task tasks (.awaitingSystem task))
    (returned : monitor.tasks.gather [task] = some true) :
    Leads pool task tasks .tasksEnded (monitor, .awaitingSystem task)
      ({ monitor with taskSystem := none } : NodeMonitor).stopPacketTasks := by
  obtain ⟨-, redis, system, packets⟩ := place
  have forgotten : ({ monitor with taskSystem := none } : NodeMonitor).Recorded := by
    refine recorded.forgetSystem fun id field => TaskTable.not_liveAt_of_gather returned ?_
    rw [system] at field
    cases field
    exact List.mem_singleton_self task
  have finished : monitor.tasks.Finished [task] := TaskTable.gather_eq_true returned
  subst packets
  -- without packet tasks nothing is cancelled, and the close of Redis begins at once
  rcases stopPacketTasks_cases { monitor with taskSystem := none } with ⟨empty, same⟩ | ⟨listed, same⟩
  · have nothing : monitor.tasksPacket = [] := empty
    have closing : ({ monitor with taskSystem := none } : NodeMonitor).redisClose =
        ({ monitor with taskSystem := none }, .closing pool) := by simp only [redisClose, redis]
    rw [same, closing]
    refine ⟨forgotten, ⟨rfl, redis, rfl, empty, by rw [nothing]; exact finished⟩, ?_⟩
    rw [doomed_iff (by simp), doomed_iff (by simp), CleanCall, nothing]
    simp [TaskTable.Stepped, TaskTable.stages]
  · rw [same]
    refine ⟨forgotten.cancel _, ⟨rfl, listed, redis, rfl, rfl, finished.cancel _⟩, ?_⟩
    rw [doomed_iff (by simp), doomed_iff (by simp), CleanCall]
    exact TaskTable.spoiled_cancel fun id member => List.mem_cons_of_mem task member

theorem packetsEnded_leads (recorded : monitor.Recorded)
    (place : monitor.Place pool task tasks (.awaitingPackets tasks))
    (returned : monitor.tasks.gather tasks = some true) :
    Leads pool task tasks .tasksEnded (monitor, .awaitingPackets tasks)
      ({ monitor with tasksPacket := [] } : NodeMonitor).redisClose := by
  obtain ⟨-, -, redis, system, packets, first⟩ := place
  have closing : ({ monitor with tasksPacket := [] } : NodeMonitor).redisClose =
      ({ monitor with tasksPacket := [] }, .closing pool) := by simp only [redisClose, redis]
  have finished : monitor.tasks.Finished tasks := TaskTable.gather_eq_true returned
  have forgotten : ({ monitor with tasksPacket := [] } : NodeMonitor).Recorded := by
    refine recorded.forgetPackets fun id member => TaskTable.not_liveAt_of_gather returned ?_
    rw [packets] at member
    exact member
  rw [closing]
  refine ⟨forgotten, ⟨rfl, redis, system, rfl, first.cons finished⟩, ?_⟩
  rw [doomed_iff (by simp), doomed_iff (by simp), CleanCall, packets]
  simp [finished.stepped]

theorem redisClosed_leads (recorded : monitor.Recorded) (place : monitor.Place pool task tasks (.closing pool)) :
    Leads pool task tasks (.redisClosed true) (monitor, .closing pool)
      ({ monitor with redis := none, pools := monitor.pools.set pool false } : NodeMonitor).clearTasks := by
  obtain ⟨-, redis, system, packets, finished⟩ := place
  have forgotten := recorded.forgetPool fun other field => (Option.some.inj (redis.symm.trans field)).symm
  have cleared : ({ monitor with redis := none, pools := monitor.pools.set pool false } : NodeMonitor).clearTasks =
      ({ monitor with redis := none, pools := monitor.pools.set pool false }, .returned) := by
    rw [clearTasks, ← system, ← packets]
  rw [cleared]
  refine ⟨forgotten, ⟨⟨rfl, system, packets⟩, finished⟩, ?_⟩
  rw [doomed_iff (by simp), doomed_iff (by simp)]
  simp [CleanCall]

theorem act_leads {setup : MonitorSetup} {action : CallAction} {stage : CallStage} {result : NodeMonitor × CallStage}
    (recorded : monitor.Recorded) (place : monitor.Place pool task tasks stage)
    (acted : setup.act action monitor stage = some result) (stop : action ≠ .start) :
    Leads pool task tasks action (monitor, stage) result := by
  cases stage with
  | idle =>
    cases action with
    | stop => cases acted; exact stop_leads recorded place
    | start => exact absurd rfl stop
    | _ => cases acted
  | awaitingSystem id =>
    cases action with
    | tasksEnded =>
      have same : id = task := place.1
      subst same
      obtain ⟨ok, ended, rfl⟩ := Option.map_eq_some_iff.mp acted
      cases ok with
      | true => exact systemEnded_leads recorded place ended
      | false =>
        -- the call raised before it forgot the task
        refine leads_raised _ recorded ended (by simp) fun quiet => ?_
        cases place.2.2.1.symm.trans quiet.taskSystem
    | _ => cases acted
  | awaitingPackets ids =>
    cases action with
    | tasksEnded =>
      have same : ids = tasks := place.1
      subst same
      obtain ⟨ok, ended, rfl⟩ := Option.map_eq_some_iff.mp acted
      cases ok with
      | true => exact packetsEnded_leads recorded place ended
      | false =>
        -- or before it forgot the tasks of the interfaces
        refine leads_raised _ recorded ended (fun id member => List.mem_cons_of_mem task member) fun quiet => ?_
        exact place.2.1 (place.2.2.2.2.1.symm.trans quiet.tasksPacket)
    | _ => cases acted
  | closing id =>
    cases action with
    | redisClosed ok =>
      have same : id = pool := place.1
      subst same
      cases acted
      cases ok with
      | true => exact redisClosed_leads recorded place
      | false =>
        -- or before it forgot the pool
        refine ⟨recorded, fun quiet => ?_, iff_of_true (.inr rfl) (.inr (by simp [CleanCall]))⟩
        cases place.2.1.symm.trans quiet.redis
    | _ => cases acted
  | opening | writing => exact place.elim
  | returned | raised => cases action <;> cases acted

/-- Until the call raises, every live task is one it found. -/
theorem Place.listed {stage : CallStage} (place : monitor.Place pool task tasks stage) (recorded : monitor.Recorded)
    (going : stage ≠ .raised) {kind : TaskKind} {id : Nat} (live : monitor.tasks.LiveAt kind id) :
    id ∈ task :: tasks := by
  have system (field : monitor.taskSystem = none) (alive : monitor.tasks.LiveAt .system id) : False := by
    cases field.symm.trans (recorded.system id alive)
  have packet (field : monitor.tasksPacket = []) (alive : monitor.tasks.LiveAt .packet id) : False := by
    have member := recorded.packet id alive
    rw [field] at member
    cases member
  cases kind with
  | system =>
    have field := recorded.system id live
    cases stage with
    | idle => cases place.2.1.symm.trans field; exact List.mem_cons_self
    | awaitingSystem _ => cases place.2.2.1.symm.trans field; exact List.mem_cons_self
    | awaitingPackets _ => exact (system place.2.2.2.1 live).elim
    | closing _ => exact (system place.2.2.1 live).elim
    | returned => exact (system place.1.taskSystem live).elim
    | raised => exact absurd rfl going
    | opening | writing => exact place.elim
  | packet =>
    have member := recorded.packet id live
    cases stage with
    | idle => exact List.mem_cons_of_mem task (place.2.2 ▸ member)
    | awaitingSystem _ => exact List.mem_cons_of_mem task (place.2.2.2 ▸ member)
    | awaitingPackets _ => exact List.mem_cons_of_mem task (place.2.2.2.2.1 ▸ member)
    | closing _ => exact (packet place.2.2.2.1 live).elim
    | returned => exact (packet place.1.tasksPacket live).elim
    | raised => exact absurd rfl going
    | opening | writing => exact place.elim

theorem Place.taskActed {stage : CallStage} (place : monitor.Place pool task tasks stage) {id : Nat}
    {action : TaskAction}
    {next : TaskTable} (acted : monitor.tasks.act id action = some next) :
    ({ monitor with tasks := next } : NodeMonitor).Place pool task tasks stage := by
  cases stage with
  | idle | awaitingSystem _ => exact place
  | awaitingPackets _ =>
    obtain ⟨same, some, redis, system, packets, finished⟩ := place
    exact ⟨same, some, redis, system, packets, finished.act acted⟩
  | closing _ =>
    obtain ⟨same, redis, system, packets, finished⟩ := place
    exact ⟨same, redis, system, packets, finished.act acted⟩
  | returned => exact ⟨⟨place.1.redis, place.1.taskSystem, place.1.tasksPacket⟩, place.2.act acted⟩
  | raised => exact fun quiet => place ⟨quiet.redis, quiet.taskSystem, quiet.tasksPacket⟩
  | opening | writing => exact place.elim

end NodeMonitor

namespace MonitorState

/-- The steps of one `stop` call and of the tasks. -/
def Only (call : Nat) : MonitorEvent → Prop
  | .call other action => other = call ∧ action ≠ .start
  | .task _ _ => True

def Clean (state : MonitorState) : MonitorEvent → Prop
  | .call _ action => state.shared.CleanCall action
  | .task id action => action.Clean (state.shared.tasks.stage? id)

instance (monitor : NodeMonitor) : DecidablePred monitor.CleanCall
  | .stop | .tasksEnded => inferInstanceAs (Decidable (TaskTable.Stepped _ _))
  | .redisClosed ok => inferInstanceAs (Decidable (ok = true))
  | .start | .redisOpened _ | .nodeInfoWritten _ => .isTrue trivial

instance (stage : Option TaskStage) : DecidablePred (TaskAction.Clean stage)
  | .error _ => .isFalse id
  | .terminated swallowed => inferInstanceAs (Decidable (_ → swallowed = true))
  | .firstStep | .cancelArrives _ => .isTrue trivial

instance (state : MonitorState) : DecidablePred (Clean state)
  | .call _ action => inferInstanceAs (Decidable (state.shared.CleanCall action))
  | .task id action => inferInstanceAs (Decidable (action.Clean (state.shared.tasks.stage? id)))

structure Follows (call pool task : Nat) (tasks : List Nat) (state : MonitorState) : Prop where
  recorded : state.shared.Recorded
  place : state.shared.Place pool task tasks (state.stage call)

variable {setup : MonitorSetup} {call pool task : Nat} {tasks : List Nat}

theorem step_leads (state : MonitorState) (event : MonitorEvent) (next : MonitorState) (only : Only call event)
    (follows : Follows call pool task tasks state) (stepped : setup.step state event = some next) :
    Follows call pool task tasks next ∧
      (NodeMonitor.Doomed task tasks (next.shared, next.stage call) ↔
        NodeMonitor.Doomed task tasks (state.shared, state.stage call) ∨ ¬ Clean state event) := by
  cases event with
  | task id action =>
    obtain ⟨table, acted, rfl⟩ := Option.map_eq_some_iff.mp stepped
    refine ⟨⟨follows.recorded.task acted, follows.place.taskActed acted⟩, ?_⟩
    by_cases raised : state.stage call = .raised
    · exact iff_of_true (.inr raised) (.inl (.inr raised))
    -- before the call raises, the acting task is one that it found
    · obtain ⟨kind, live⟩ := TaskTable.live_of_act acted
      rw [NodeMonitor.doomed_iff raised, NodeMonitor.doomed_iff raised]
      exact TaskTable.spoiled_act acted (follows.place.listed follows.recorded raised live)
  | call other action =>
    obtain ⟨rfl, stop⟩ := only
    obtain ⟨result, acted, rfl⟩ := Agents.step_eq_some.mp stepped
    have leads := NodeMonitor.act_leads follows.recorded follows.place acted stop
    refine ⟨⟨leads.recorded, ?_⟩, ?_⟩
    · simpa using leads.place
    · simpa [Clean] using leads.doomed

/-- One `stop` on a started monitor, with whatever its tasks do meanwhile, releases everything exactly
when no task has failed before and no step of the call or of a task makes it raise. -/
theorem stopped_iff_clean (setup : MonitorSetup) (call : Nat) (events : List MonitorEvent) (state finish : MonitorState)
    (started : state.shared.Started) (idle : state.stage call = .idle) (only : ∀ event ∈ events, Only call event)
    (ran : Transition.run setup.step state events = some finish)
    (ended : finish.stage call = .returned ∨ finish.stage call = .raised) :
    finish.shared.Quiet ∧ finish.shared.Released ↔
      ¬ state.shared.tasks.Spoiled state.shared.taskIds ∧ Transition.Along setup.step Clean state events := by
  obtain ⟨recorded, redis, system⟩ := started
  obtain ⟨pool, redis⟩ := Option.isSome_iff_exists.mp redis
  obtain ⟨task, system⟩ := Option.isSome_iff_exists.mp system
  have start : Follows call pool task state.shared.tasksPacket state :=
    ⟨recorded, by rw [idle]; exact ⟨redis, system, rfl⟩⟩
  have follows := Transition.run_invariant (fun state event next label holds stepped =>
    (step_leads state event next label holds stepped).1) only start ran
  have doomed := Transition.marked_iff (fun state event next label holds stepped =>
    (step_leads state event next label holds stepped).1) (fun state event next label holds stepped =>
    (step_leads state event next label holds stepped).2) only start ran
  have found : state.shared.taskIds = task :: state.shared.tasksPacket := by simp [NodeMonitor.taskIds, system]
  rw [found, ← NodeMonitor.doomed_iff (show state.stage call ≠ .raised by simp [idle])]
  -- a call that returned has seen its tasks finish, a call that raised was doomed by some step
  rcases ended with returned | raised
  · have place := follows.place
    rw [returned] at place
    have unspoiled := place.2.not_spoiled
    rw [← NodeMonitor.doomed_iff (show finish.stage call ≠ .raised by simp [returned]), doomed, not_or,
      not_not] at unspoiled
    exact iff_of_true ⟨place.1, follows.recorded.released place.1⟩ unspoiled
  · have place := follows.place
    rw [raised] at place
    have cause := doomed.mp (.inr raised)
    refine iff_of_false (fun stopped => place stopped.1) fun ⟨unspoiled, clean⟩ => ?_
    exact cause.elim unspoiled fun unclean => unclean clean

/-- The monitor of a task with one network, right after its `start` has completed. -/
def startedClock : MonitorState :=
  ⟨(initial.shared.redisOpen.createTasks .clock).1, fun _ => .idle⟩

theorem startedClock_started : startedClock.shared.Started :=
  (NodeMonitor.initial_recorded.redisOpen rfl).started rfl rfl

def orderlyStop : List MonitorEvent :=
  [.task 0 .firstStep, .task 1 .firstStep, .call 0 .stop, .task 0 (.cancelArrives true), .call 0 .tasksEnded,
    .task 1 (.cancelArrives false), .task 1 (.terminated false), .call 0 .tasksEnded, .call 0 (.redisClosed true)]

theorem orderlyStop_stopped : ∃ finish,
    Transition.run MonitorSetup.clock.step startedClock orderlyStop = some finish ∧
      finish.shared.Quiet ∧ finish.shared.Released := by
  obtain ⟨finish, ran, returned⟩ : ∃ finish,
      Transition.run MonitorSetup.clock.step startedClock orderlyStop = some finish ∧
        finish.stage 0 = .returned := ⟨_, rfl, rfl⟩
  have stopped := stopped_iff_clean .clock 0 orderlyStop startedClock finish startedClock_started rfl
    (by simp [orderlyStop, Only]) ran (.inl returned)
  exact ⟨finish, ran, stopped.mpr ⟨by decide, by decide⟩⟩

def failedBefore : List MonitorEvent := [.task 0 .firstStep, .task 0 (.error true), .call 0 .stop, .call 0 .tasksEnded]

theorem failedBefore_not_stopped : ¬ ∀ setup call events state finish, NodeMonitor.Started (Agents.shared state) →
    state.stage call = .idle → (∀ event ∈ events, Only call event) →
    Transition.run (MonitorSetup.step setup) state events = some finish →
    (finish.stage call = .returned ∨ finish.stage call = .raised) → finish.shared.Quiet ∧ finish.shared.Released := by
  intro claimed
  obtain ⟨finish, ran, raised, redis⟩ : ∃ finish,
      Transition.run MonitorSetup.clock.step startedClock failedBefore = some finish ∧
        finish.stage 0 = .raised ∧ finish.shared.redis = some 0 := ⟨_, rfl, rfl, rfl⟩
  have stopped := claimed .clock 0 failedBefore startedClock finish startedClock_started rfl
    (by simp [failedBefore, Only]) ran (.inr raised)
  cases redis.symm.trans stopped.1.redis

end MonitorState

end Wotemu
