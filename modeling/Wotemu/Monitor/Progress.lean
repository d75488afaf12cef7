import Wotemu.Monitor.Interleavings

/-! Why a `stop` call comes to its end.

It awaits only tasks that it has cancelled. Each of them has a few steps before it
and can take them without an error, so no state of the monitor blocks the call.
-/

set_option autoImplicit false

namespace Wotemu

open Wotemu.Foundation

namespace TaskStage

def requested : TaskStage → Bool
  | created requested => requested
  | running => false
  | _ => true

def remaining : TaskStage → Nat
  | created _ | terminating _ _ => 1
  | cancelling => 2
  | _ => 0

theorem requested_cancel (stage : TaskStage) : stage.cancel.requested = true := by cases stage <;> rfl

end TaskStage

def TaskAction.Orderly : TaskAction → Prop
  | .error _ => False
  | _ => True

namespace BackgroundTask

variable {task : BackgroundTask} {action : TaskAction} {stage : TaskStage}

theorem requested_leave (exited raising : Bool) :
    (task.leave exited raising).requested = true ∧ (task.leave exited raising).remaining ≤ 1 := by
  unfold leave
  split
  · exact ⟨rfl, le_rfl⟩
  · cases raising <;> exact ⟨rfl, Nat.zero_le 1⟩

theorem requested_act (requested : task.stage.requested = true) (acted : task.act action = some stage) :
    stage.requested = true := by
  cases action with
  | firstStep =>
    simp only [act] at acted
    split at acted
    · rename_i cancelled before
      rw [before] at requested
      cases acted
      rw [if_pos (show cancelled = true from requested)]
      rfl
    · cases acted
  | cancelArrives exited =>
    simp only [act] at acted
    split at acted <;> cases acted
    exact (requested_leave exited false).1
  | error exited =>
    simp only [act] at acted
    split at acted <;> cases acted
    · exact (requested_leave exited true).1
    · exact (requested_leave exited true).1
    · rfl
  | terminated swallowed =>
    simp only [act] at acted
    split at acted <;> cases acted
    split_ifs <;> rfl

theorem exists_act (requested : task.stage.requested = true) (left : 0 < task.stage.remaining) :
    ∃ action stage, TaskAction.Orderly action ∧ task.act action = some stage ∧
      stage.remaining < task.stage.remaining := by
  cases before : task.stage with
  | created cancelled =>
    rw [before] at requested
    exact ⟨.firstStep, .cancelled, trivial, by simp_all [act, TaskStage.requested], Nat.one_pos⟩
  | cancelling =>
    exact ⟨.cancelArrives true, task.leave true false, trivial, by simp [act, before],
      Nat.lt_succ_of_le (requested_leave true false).2⟩
  | terminating again raising =>
    refine ⟨.terminated true, if raising then .failed else .finished, trivial, by simp [act, before], ?_⟩
    cases raising <;> exact Nat.one_pos
  | _ => simp [before, TaskStage.remaining] at left

end BackgroundTask

namespace TaskTable

variable {tasks next : TaskTable} {ids : List Nat}

def Requested (tasks : TaskTable) (ids : List Nat) : Prop :=
  ∀ id ∈ ids, ∃ stage, tasks.stage? id = some stage ∧ stage.requested = true

def left (tasks : TaskTable) (id : Nat) : Nat := ((tasks.stage? id).map TaskStage.remaining).getD 0

def remaining (tasks : TaskTable) : List Nat → Nat
  | [] => 0
  | id :: ids => tasks.left id + tasks.remaining ids

theorem left_le_remaining {id : Nat} (member : id ∈ ids) : tasks.left id ≤ tasks.remaining ids := by
  induction ids with
  | nil => cases member
  | cons first rest ih =>
    rw [remaining]
    rcases List.mem_cons.mp member with rfl | later
    · omega
    · have rest := ih later
      omega

theorem exists_left (positive : 0 < tasks.remaining ids) : ∃ id ∈ ids, 0 < tasks.left id := by
  induction ids with
  | nil => cases positive
  | cons first rest ih =>
    by_cases here : 0 < tasks.left first
    · exact ⟨first, List.mem_cons_self, here⟩
    · rw [remaining] at positive
      obtain ⟨id, member, later⟩ := ih (by omega)
      exact ⟨id, List.mem_cons_of_mem first member, later⟩

theorem remaining_le (fewer : ∀ id, next.left id ≤ tasks.left id) (ids : List Nat) :
    next.remaining ids ≤ tasks.remaining ids := by
  induction ids with
  | nil => exact le_rfl
  | cons first rest ih =>
    have here := fewer first
    rw [remaining, remaining]
    omega

theorem remaining_lt (fewer : ∀ id, next.left id ≤ tasks.left id) {id : Nat} (member : id ∈ ids)
    (less : next.left id < tasks.left id) : next.remaining ids < tasks.remaining ids := by
  induction ids with
  | nil => cases member
  | cons first rest ih =>
    rw [remaining, remaining]
    rcases List.mem_cons.mp member with rfl | later
    · have others := remaining_le fewer rest
      omega
    · have here := fewer first
      have others := ih later
      omega

theorem requested_cancel (found : ∀ id ∈ ids, id < tasks.length) : Requested (tasks.cancel ids) ids := by
  intro id member
  obtain ⟨task, located⟩ : ∃ task, tasks[id]? = some task := ⟨_, List.getElem?_eq_getElem (found id member)⟩
  refine ⟨task.stage.cancel, ?_, TaskStage.requested_cancel task.stage⟩
  rw [stage?_cancel, stage?, located]
  simp [member]

theorem Requested.cancel (requested : tasks.Requested ids) (chosen : List Nat) :
    Requested (tasks.cancel chosen) ids := by
  intro id member
  obtain ⟨stage, found, holds⟩ := requested id member
  refine ⟨if id ∈ chosen then stage.cancel else stage, by rw [stage?_cancel, found]; rfl, ?_⟩
  split
  · exact TaskStage.requested_cancel stage
  · exact holds

theorem Requested.append (requested : tasks.Requested ids) (created : TaskTable) :
    Requested (tasks ++ created) ids := by
  intro id member
  obtain ⟨stage, found, holds⟩ := requested id member
  refine ⟨stage, ?_, holds⟩
  obtain ⟨task, located, same⟩ := Option.map_eq_some_iff.mp found
  obtain ⟨bound, -⟩ := List.getElem?_eq_some_iff.mp located
  rw [stage?, List.getElem?_append_left bound]
  exact found

theorem Requested.act (requested : tasks.Requested ids) {id : Nat} {action : TaskAction}
    (acted : tasks.act id action = some next) : next.Requested ids := by
  obtain ⟨task, stage, found, moved, rfl⟩ := act_eq_some.mp acted
  intro other member
  obtain ⟨before, located, holds⟩ := requested other member
  rw [stage?_set found]
  split
  · rename_i same
    have own : before = task.stage := by
      rw [same, stage?, found] at located
      exact (Option.some.inj located).symm
    rw [own] at holds
    exact ⟨stage, rfl, BackgroundTask.requested_act holds moved⟩
  · exact ⟨before, located, holds⟩

theorem length_cancel (chosen : List Nat) : (tasks.cancel chosen).length = tasks.length := List.length_mapIdx

theorem length_act {id : Nat} {action : TaskAction} (acted : tasks.act id action = some next) :
    next.length = tasks.length := by
  obtain ⟨task, stage, found, moved, rfl⟩ := act_eq_some.mp acted
  exact List.length_set

theorem Requested.gather (requested : tasks.Requested ids) (none : tasks.remaining ids = 0) :
    ∃ ok, tasks.gather ids = some ok := by
  unfold TaskTable.gather
  by_cases broken : (tasks.stages ids).any TaskStage.broken = true
  · exact ⟨false, if_pos broken⟩
  · refine ⟨true, ?_⟩
    rw [if_neg broken, if_pos]
    rw [List.all_eq_true]
    intro stage member
    have sound : stage.broken = false := by
      by_contra holds
      exact broken (List.any_eq_true.mpr ⟨stage, member, by simpa using holds⟩)
    obtain ⟨id, listed, found⟩ := mem_stages.mp member
    obtain ⟨same, located, holds⟩ := requested id listed
    cases found.symm.trans located
    have ended : stage.remaining = 0 := by
      have each := tasks.left_le_remaining listed
      rw [left, found, none] at each
      exact Nat.le_zero.mp each
    cases stage <;> simp_all [TaskStage.remaining, TaskStage.broken, TaskStage.requested]

/-- As long as the await is not over, one of its tasks takes a step of its own. -/
theorem Requested.exists_act (requested : tasks.Requested ids) (left : 0 < tasks.remaining ids) :
    ∃ id action next, TaskAction.Orderly action ∧ tasks.act id action = some next ∧
      next.remaining ids < tasks.remaining ids := by
  obtain ⟨id, listed, positive⟩ := tasks.exists_left left
  obtain ⟨stage, located, holds⟩ := requested id listed
  obtain ⟨task, found, rfl⟩ := Option.map_eq_some_iff.mp located
  rw [TaskTable.left, located] at positive
  obtain ⟨action, after, orderly, moved, less⟩ := BackgroundTask.exists_act holds positive
  have own : TaskTable.left (tasks.set id { task with stage := after }) id = after.remaining := by
    rw [TaskTable.left, stage?_set found, if_pos rfl]
    rfl
  have before : tasks.left id = task.stage.remaining := by
    rw [TaskTable.left, located]
    rfl
  have fewer : ∀ other, TaskTable.left (tasks.set id { task with stage := after }) other ≤ tasks.left other := by
    intro other
    by_cases same : other = id
    · rw [same, own, before]
      exact less.le
    · rw [TaskTable.left, stage?_set found, if_neg same]
      exact le_rfl
  refine ⟨id, action, _, orderly, act_eq_some.mpr ⟨task, after, found, moved, rfl⟩, remaining_lt fewer listed ?_⟩
  rw [own, before]
  exact less

end TaskTable

namespace NodeMonitor

variable {monitor : NodeMonitor} {setup : MonitorSetup}

structure Known (monitor : NodeMonitor) : Prop where
  system : ∀ task ∈ monitor.taskSystem, task < monitor.tasks.length
  packet : ∀ task ∈ monitor.tasksPacket, task < monitor.tasks.length

def Awaits (monitor : NodeMonitor) : CallStage → Prop
  | .awaitingSystem task => monitor.tasks.Requested [task]
  | .awaitingPackets tasks => monitor.tasks.Requested tasks
  | _ => True

structure Proceeds (monitor : NodeMonitor) (result : NodeMonitor × CallStage) : Prop where
  known : result.1.Known
  kept : ∀ ids, monitor.tasks.Requested ids → result.1.tasks.Requested ids
  awaits : result.1.Awaits result.2

theorem clearTasks_proceeds : monitor.Proceeds monitor.clearTasks :=
  ⟨⟨fun _ none => (by cases none), fun _ none => (by cases none)⟩, fun _ requested => requested, trivial⟩

theorem Known.redisClose (known : monitor.Known) : monitor.Proceeds monitor.redisClose := by
  rcases redisClose_cases monitor with ⟨-, same⟩ | ⟨pool, -, same⟩ <;> rw [same]
  · exact clearTasks_proceeds
  · exact ⟨known, fun _ requested => requested, trivial⟩

theorem Known.cancel (known : monitor.Known) (chosen : List Nat) :
    ({ monitor with tasks := monitor.tasks.cancel chosen } : NodeMonitor).Known := by
  constructor
  · intro task field
    rw [TaskTable.length_cancel]
    exact known.system task field
  · intro task field
    rw [TaskTable.length_cancel]
    exact known.packet task field

theorem Known.stopPacketTasks (known : monitor.Known) : monitor.Proceeds monitor.stopPacketTasks := by
  rcases stopPacketTasks_cases monitor with ⟨-, same⟩ | ⟨-, same⟩ <;> rw [same]
  · exact known.redisClose
  · exact ⟨known.cancel _, fun _ requested => requested.cancel _, TaskTable.requested_cancel known.packet⟩

theorem Known.stopSystemTask (known : monitor.Known) : monitor.Proceeds monitor.stopSystemTask := by
  unfold NodeMonitor.stopSystemTask
  split
  · exact known.stopPacketTasks
  · rename_i task field
    refine ⟨known.cancel _, fun _ requested => requested.cancel _, TaskTable.requested_cancel ?_⟩
    intro id member
    rw [List.mem_singleton.mp member]
    exact known.system task field

theorem Known.createSystemTask (known : monitor.Known) {next : NodeMonitor}
    (created : monitor.createSystemTask setup = some next) :
    next.Known ∧ ∀ ids, monitor.tasks.Requested ids → next.tasks.Requested ids := by
  obtain ⟨-, same⟩ := Option.ite_none_left_eq_some.mp created
  cases same
  refine ⟨⟨?_, ?_⟩, fun _ requested => requested.append _⟩
  · intro task field
    cases field
    simp
  · intro task field
    have before := known.packet task field
    simp only [List.length_append]
    omega

theorem Known.createPacketTasks (known : monitor.Known) {next : NodeMonitor}
    (created : monitor.createPacketTasks setup = some next) :
    next.Known ∧ ∀ ids, monitor.tasks.Requested ids → next.tasks.Requested ids := by
  obtain ⟨-, same⟩ := Option.ite_none_left_eq_some.mp created
  cases same
  refine ⟨⟨?_, ?_⟩, fun _ requested => requested.append _⟩
  · intro task field
    have before := known.system task field
    simp only [List.length_append]
    omega
  · intro task field
    rw [List.mem_range'_1] at field
    simp only [List.length_append, List.length_map]
    omega

theorem Known.createTasks (known : monitor.Known) : monitor.Proceeds (monitor.createTasks setup) := by
  unfold NodeMonitor.createTasks
  split
  · exact ⟨known, fun _ requested => requested, trivial⟩
  · rename_i withSystem system
    obtain ⟨first, grown⟩ := known.createSystemTask system
    split
    · exact ⟨first, grown, trivial⟩
    · rename_i withPackets packets
      obtain ⟨second, more⟩ := first.createPacketTasks packets
      exact ⟨second, fun ids requested => more ids (grown ids requested), trivial⟩

theorem Known.act {action : CallAction} {stage : CallStage} {result : NodeMonitor × CallStage} (known : monitor.Known)
    (acted : setup.act action monitor stage = some result) : monitor.Proceeds result := by
  cases action with
  | start =>
    cases stage <;> cases acted
    refine ⟨⟨known.system, known.packet⟩, fun _ requested => requested, ?_⟩
    split_ifs <;> trivial
  | redisOpened ok =>
    cases stage <;> cases acted
    cases ok <;> exact ⟨⟨known.system, known.packet⟩, fun _ requested => requested, trivial⟩
  | nodeInfoWritten ok =>
    cases stage <;> cases acted
    cases ok
    · exact ⟨known, fun _ requested => requested, trivial⟩
    · exact known.createTasks
  | stop =>
    cases stage <;> cases acted
    have issued : ({ monitor with lastIssued := some .stop } : NodeMonitor).Known := ⟨known.system, known.packet⟩
    exact ⟨issued.stopSystemTask.known, issued.stopSystemTask.kept, issued.stopSystemTask.awaits⟩
  | tasksEnded =>
    cases stage with
    | awaitingSystem task =>
      obtain ⟨ok, -, rfl⟩ := Option.map_eq_some_iff.mp acted
      have forgotten : ({ monitor with taskSystem := none } : NodeMonitor).Known :=
        ⟨fun _ none => (by cases none), known.packet⟩
      -- after a failure the monitor still knows the tasks
      cases ok
      · exact ⟨known, fun _ requested => requested, trivial⟩
      · exact ⟨forgotten.stopPacketTasks.known, forgotten.stopPacketTasks.kept, forgotten.stopPacketTasks.awaits⟩
    | awaitingPackets tasks =>
      obtain ⟨ok, -, rfl⟩ := Option.map_eq_some_iff.mp acted
      have forgotten : ({ monitor with tasksPacket := [] } : NodeMonitor).Known :=
        ⟨known.system, fun _ none => (by cases none)⟩
      cases ok
      · exact ⟨known, fun _ requested => requested, trivial⟩
      · exact ⟨forgotten.redisClose.known, forgotten.redisClose.kept, forgotten.redisClose.awaits⟩
    | _ => cases acted
  | redisClosed ok =>
    cases stage <;> cases acted
    cases ok
    · exact ⟨known, fun _ requested => requested, trivial⟩
    · exact ⟨⟨fun _ none => (by cases none), fun _ none => (by cases none)⟩, fun _ requested => requested, trivial⟩

theorem Awaits.kept {next : NodeMonitor} {stage : CallStage} (awaits : monitor.Awaits stage)
    (kept : ∀ ids, monitor.tasks.Requested ids → next.tasks.Requested ids) : next.Awaits stage := by
  cases stage with
  | awaitingSystem task => exact kept _ awaits
  | awaitingPackets tasks => exact kept _ awaits
  | _ => trivial

def Leaving (stage : CallStage) : Prop := stage.stopping = true ∨ stage = .returned ∨ stage = .raised

theorem redisClose_leaving (monitor : NodeMonitor) : Leaving monitor.redisClose.2 := by
  rcases redisClose_cases monitor with ⟨-, same⟩ | ⟨pool, -, same⟩ <;> rw [same]
  · exact .inr (.inl rfl)
  · exact .inl rfl

theorem stopPacketTasks_leaving (monitor : NodeMonitor) : Leaving monitor.stopPacketTasks.2 := by
  rcases stopPacketTasks_cases monitor with ⟨-, same⟩ | ⟨-, same⟩ <;> rw [same]
  · exact redisClose_leaving monitor
  · exact .inl rfl

theorem stopSystemTask_leaving (monitor : NodeMonitor) : Leaving monitor.stopSystemTask.2 := by
  unfold NodeMonitor.stopSystemTask
  split
  · exact stopPacketTasks_leaving monitor
  · exact .inl rfl

/-- A `stop` call is on its way out from its beginning to its end. -/
theorem act_leaving {action : CallAction} {stage : CallStage} {result : NodeMonitor × CallStage}
    (acted : setup.act action monitor stage = some result) (stops : stage.stopping = true ∨ action = .stop) :
    Leaving result.2 := by
  cases action with
  | stop =>
    cases stage <;> cases acted
    exact stopSystemTask_leaving _
  | tasksEnded =>
    cases stage with
    | awaitingSystem task =>
      obtain ⟨ok, -, rfl⟩ := Option.map_eq_some_iff.mp acted
      -- a task that failed raises in the call
      cases ok
      · exact .inr (.inr rfl)
      · exact stopPacketTasks_leaving _
    | awaitingPackets tasks =>
      obtain ⟨ok, -, rfl⟩ := Option.map_eq_some_iff.mp acted
      cases ok
      · exact .inr (.inr rfl)
      · exact redisClose_leaving _
    | _ => cases acted
  | redisClosed ok =>
    cases stage <;> cases acted
    cases ok
    · exact .inr (.inr rfl)
    · exact .inr (.inl rfl)
  | _ =>
    rcases stops with stopping | same
    · cases stage <;> first | exact absurd stopping (by decide) | cases acted
    · cases same

end NodeMonitor

namespace MonitorState

structure Unblocked (state : MonitorState) : Prop where
  known : state.shared.Known
  awaits : ∀ call, state.shared.Awaits (state.stage call)

theorem initial_unblocked : Unblocked initial where
  known := ⟨fun _ none => (by cases none), fun _ none => (by cases none)⟩
  awaits := fun _ => trivial

theorem step_unblocked (setup : MonitorSetup) (state : MonitorState) (event : MonitorEvent) (next : MonitorState)
    (unblocked : Unblocked state) (stepped : setup.step state event = some next) : Unblocked next := by
  cases event with
  | call call action =>
    obtain ⟨result, acted, rfl⟩ := Agents.step_eq_some.mp stepped
    have proceeds := unblocked.known.act acted
    exact ⟨proceeds.known,
      Agents.forall_advance _ (fun other => (unblocked.awaits other).kept proceeds.kept) proceeds.awaits⟩
  | task id action =>
    obtain ⟨table, acted, rfl⟩ := Option.map_eq_some_iff.mp stepped
    refine ⟨⟨?_, ?_⟩, fun call => (unblocked.awaits call).kept fun _ requested => requested.act acted⟩
    · intro task field
      exact (unblocked.known.system task field).trans_eq (TaskTable.length_act acted).symm
    · intro task field
      exact (unblocked.known.packet task field).trans_eq (TaskTable.length_act acted).symm

theorem run_unblocked {setup : MonitorSetup} {state finish : MonitorState} {events : List MonitorEvent}
    (unblocked : Unblocked state) (ran : Transition.run setup.step state events = some finish) : Unblocked finish := by
  have preserves : ∀ state event next, True → Unblocked state → setup.step state event = some next →
      Unblocked next := fun state event next _ => step_unblocked setup state event next
  exact Transition.run_invariant preserves (fun _ _ => trivial) unblocked ran

/-- The steps that a call and the tasks take when nothing fails any more. -/
def Own (call : Nat) : MonitorEvent → Prop
  | .call other (.redisClosed ok) => other = call ∧ ok = true
  | .call other .tasksEnded => other = call
  | .call _ _ => False
  | .task _ action => action.Orderly

def Ended (state : MonitorState) (call : Nat) : Prop := state.stage call = .returned ∨ state.stage call = .raised

variable {setup : MonitorSetup} {state : MonitorState} {call : Nat}

/-- The tasks that a call awaits end. -/
theorem awaited_end (ids : List Nat) (requested : state.shared.tasks.Requested ids) :
    ∃ events finish ok, Transition.run setup.step state events = some finish ∧ (∀ event ∈ events, Own call event) ∧
      finish.stage = state.stage ∧ finish.shared.tasks.gather ids = some ok := by
  generalize measure : state.shared.tasks.remaining ids = left
  -- each step of an awaited task leaves fewer steps before it
  induction left using Nat.strongRecOn generalizing state with
  | ind left ih =>
    by_cases none : left = 0
    · obtain ⟨ok, gathered⟩ := requested.gather (measure.trans none)
      exact ⟨[], state, ok, rfl, by simp, rfl, gathered⟩
    · obtain ⟨id, action, tasks, orderly, acted, less⟩ := requested.exists_act (by omega)
      have kept : ({ state with shared := { state.shared with tasks } } : MonitorState).shared.tasks.Requested ids :=
        requested.act acted
      obtain ⟨events, finish, ok, ran, own, same, gathered⟩ := ih (tasks.remaining ids) (by omega) kept rfl
      refine ⟨.task id action :: events, finish, ok, Transition.run_cons.mpr ⟨_, ?_, ran⟩, ?_, same, gathered⟩
      · simp [MonitorSetup.step, acted]
      · exact List.forall_mem_cons.mpr ⟨orderly, own⟩

def Ends (setup : MonitorSetup) (state : MonitorState) (call : Nat) : Prop :=
  ∃ events finish, Transition.run setup.step state events = some finish ∧ (∀ event ∈ events, Own call event) ∧
    Ended finish call

theorem Ends.of_ended (ended : Ended state call) : Ends setup state call := ⟨[], state, rfl, by simp, ended⟩

theorem Ends.cons {event : MonitorEvent} {next : MonitorState} (own : Own call event)
    (stepped : setup.step state event = some next) (ends : Ends setup next call) : Ends setup state call := by
  obtain ⟨events, finish, ran, owns, ended⟩ := ends
  exact ⟨event :: events, finish, Transition.run_cons.mpr ⟨next, stepped, ran⟩, List.forall_mem_cons.mpr ⟨own, owns⟩,
    ended⟩

theorem Ends.append {events : List MonitorEvent} {next : MonitorState} (own : ∀ event ∈ events, Own call event)
    (ran : Transition.run setup.step state events = some next) (ends : Ends setup next call) :
    Ends setup state call := by
  obtain ⟨later, finish, further, owns, ended⟩ := ends
  exact ⟨events ++ later, finish, Transition.run_append ran further, List.forall_mem_append.mpr ⟨own, owns⟩, ended⟩

theorem closing_ends {pool : Nat} (closing : state.stage call = .closing pool) : Ends setup state call := by
  have stepped : setup.step state (.call call (.redisClosed true)) = some (state.advance call
      ({ state.shared with redis := none, pools := state.shared.pools.set pool false } : NodeMonitor).clearTasks.1
      .returned) := by
    simp [MonitorSetup.step, Agents.step, closing, MonitorSetup.act, NodeMonitor.clearTasks]
  have own : Own call (.call call (.redisClosed true)) := ⟨rfl, rfl⟩
  exact Ends.cons own stepped (Ends.of_ended (.inl (Agents.advance_stage_self ..)))

theorem Ends.tasksEnded {result : NodeMonitor × CallStage}
    (acted : setup.act .tasksEnded state.shared (state.stage call) = some result)
    (ends : Ends setup (state.advance call result.1 result.2) call) : Ends setup state call := by
  have own : Own call (.call call .tasksEnded) := rfl
  exact Ends.cons own (Agents.step_eq_some.mpr ⟨result, acted, rfl⟩) ends

theorem redisClose_ends (monitor : NodeMonitor) :
    Ends setup (state.advance call monitor.redisClose.1 monitor.redisClose.2) call := by
  rcases NodeMonitor.redisClose_cases monitor with ⟨-, same⟩ | ⟨pool, -, same⟩ <;> rw [same]
  · exact Ends.of_ended (.inl (Agents.advance_stage_self ..))
  · exact closing_ends (Agents.advance_stage_self ..)

theorem packets_ends {ids : List Nat} (unblocked : Unblocked state)
    (awaiting : state.stage call = .awaitingPackets ids) : Ends setup state call := by
  have requested := unblocked.awaits call
  rw [awaiting] at requested
  obtain ⟨events, finish, ok, ran, own, same, gathered⟩ := awaited_end ids requested
  have acted : setup.act .tasksEnded finish.shared (finish.stage call) =
      some (if ok then ({ finish.shared with tasksPacket := [] } : NodeMonitor).redisClose
        else (finish.shared, .raised)) := by
    rw [same, awaiting, MonitorSetup.act, gathered]
    rfl
  apply Ends.append own ran
  apply Ends.tasksEnded acted
  cases ok
  · exact Ends.of_ended (.inr (Agents.advance_stage_self ..))
  · exact redisClose_ends _

theorem stopPacketTasks_ends {monitor : NodeMonitor} (unblocked : Unblocked state) (known : monitor.Known)
    (kept : ∀ ids, state.shared.tasks.Requested ids → monitor.tasks.Requested ids) :
    Ends setup (state.advance call monitor.stopPacketTasks.1 monitor.stopPacketTasks.2) call := by
  have proceeds := known.stopPacketTasks
  have after : Unblocked (state.advance call monitor.stopPacketTasks.1 monitor.stopPacketTasks.2) :=
    ⟨proceeds.known, Agents.forall_advance _
      (fun other => (unblocked.awaits other).kept fun ids requested => proceeds.kept ids (kept ids requested))
      proceeds.awaits⟩
  rcases NodeMonitor.stopPacketTasks_cases monitor with ⟨-, same⟩ | ⟨-, same⟩
  · rw [same]
    exact redisClose_ends monitor
  · have awaiting : (state.advance call monitor.stopPacketTasks.1 monitor.stopPacketTasks.2).stage call =
        .awaitingPackets monitor.tasksPacket := by
      rw [Agents.advance_stage_self, same]
    exact packets_ends after awaiting

theorem system_ends {task : Nat} (unblocked : Unblocked state) (awaiting : state.stage call = .awaitingSystem task) :
    Ends setup state call := by
  have requested := unblocked.awaits call
  rw [awaiting] at requested
  obtain ⟨events, finish, ok, ran, own, same, gathered⟩ := awaited_end [task] requested
  have still : Unblocked finish := run_unblocked unblocked ran
  have acted : setup.act .tasksEnded finish.shared (finish.stage call) =
      some (if ok then ({ finish.shared with taskSystem := none } : NodeMonitor).stopPacketTasks
        else (finish.shared, .raised)) := by
    rw [same, awaiting, MonitorSetup.act, gathered]
    rfl
  apply Ends.append own ran
  apply Ends.tasksEnded acted
  cases ok
  · exact Ends.of_ended (.inr (Agents.advance_stage_self ..))
  · exact stopPacketTasks_ends still ⟨fun _ none => (by cases none), still.known.packet⟩ fun _ requested => requested

/-- Whatever the other calls have done, a `stop` call can end by steps of its own and of the tasks. -/
theorem stop_ends (unblocked : Unblocked state) (stopping : (state.stage call).stopping = true) :
    Ends setup state call := by
  cases stage : state.stage call with
  | awaitingSystem task => exact system_ends unblocked stage
  | awaitingPackets ids => exact packets_ends unblocked stage
  | closing pool => exact closing_ends stage
  | _ =>
    rw [stage] at stopping
    cases stopping

/-- In every interleaving, a `stop` call that has begun can come to its end. -/
theorem begun_ends {events : List MonitorEvent} (ran : Transition.run setup.step initial events = some state)
    (stopping : (state.stage call).stopping = true) : Ends setup state call :=
  stop_ends (run_unblocked initial_unblocked ran) stopping

/-- A second `stop` cancels the packet task while its process shuts down for the first one. -/
def twiceStopped : List MonitorEvent :=
  [.call 0 .start, .call 0 (.redisOpened true), .call 0 (.nodeInfoWritten true), .task 0 .firstStep,
    .task 1 .firstStep, .call 1 .stop, .task 0 (.cancelArrives true), .call 1 .tasksEnded,
    .task 1 (.cancelArrives false), .call 2 .stop]

theorem twiceStopped_ends : ∃ state, Transition.run MonitorSetup.clock.step initial twiceStopped = some state ∧
    Ends .clock state 1 ∧ Ends .clock state 2 := by
  obtain ⟨state, ran, first, second⟩ : ∃ state,
      Transition.run MonitorSetup.clock.step initial twiceStopped = some state ∧
        (state.stage 1).stopping = true ∧ (state.stage 2).stopping = true := ⟨_, rfl, rfl, rfl⟩
  exact ⟨state, ran, begun_ends ran first, begun_ends ran second⟩

end MonitorState

end Wotemu
