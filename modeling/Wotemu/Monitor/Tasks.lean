import Mathlib.Data.List.Basic
import Wotemu.Foundation.Transition

/-! The background tasks of the node monitor.

`monitor_system` and `monitor_packets` loop until they are cancelled, and then
return. A task that is cancelled before its first step never enters its `try`
block. A packet task shuts its capture process down on the way out, and a second
cancellation may get it there.
-/

set_option autoImplicit false

namespace Wotemu

open Wotemu.Foundation

inductive TaskKind where
  | system
  | packet
  deriving DecidableEq

/-- Where a background task is. A task that has not taken its first step, and one that shuts its
process down, remember whether they have been cancelled there; the latter also whether it does so
because of an error. -/
inductive TaskStage where
  | created (requested : Bool)
  | running
  | cancelling
  | terminating (again raising : Bool)
  | finished
  | failed
  | cancelled
  deriving DecidableEq

structure BackgroundTask where
  kind : TaskKind
  key : String
  stage : TaskStage
  deriving DecidableEq

/-- What happens inside a task: its first step, the arrival of `CancelledError`, an error, the end
of the termination of its process, which may have exited before. -/
inductive TaskAction where
  | firstStep
  | cancelArrives (exited : Bool)
  | error (exited : Bool)
  | terminated (swallowed : Bool)
  deriving DecidableEq

namespace TaskStage

def live : TaskStage → Bool
  | created _ | running | cancelling | terminating _ _ => true
  | _ => false

def broken : TaskStage → Bool
  | failed | cancelled => true
  | _ => false

/-- `Task.cancel`. -/
def cancel : TaskStage → TaskStage
  | created _ => created true
  | running => cancelling
  | terminating _ raising => terminating true raising
  | stage => stage

end TaskStage

namespace BackgroundTask

/-- The way out of the loop: a packet task whose process has not exited terminates it first. -/
def leave (task : BackgroundTask) (exited raising : Bool) : TaskStage :=
  if task.kind = .packet ∧ ¬ exited then .terminating false raising else if raising then .failed else .finished

def act (task : BackgroundTask) : TaskAction → Option TaskStage
  | .firstStep => match task.stage with
    | .created requested => some (if requested then .cancelled else .running)
    | _ => none
  | .cancelArrives exited => match task.stage with
    | .cancelling => some (task.leave exited false)
    | _ => none
  | .error exited => match task.stage with
    | .running | .cancelling => some (task.leave exited true)
    | .terminating _ _ => some .failed
    | _ => none
  | .terminated swallowed => match task.stage with
    -- only the second half of the termination catches the error of a second cancellation
    | .terminating again raising =>
      some (if again ∧ ¬ swallowed then .cancelled else if raising then .failed else .finished)
    | _ => none

end BackgroundTask

abbrev TaskTable := List BackgroundTask

namespace TaskTable

/-- `Task.cancel` for each of the numbered tasks. -/
def cancel (ids : List Nat) (tasks : TaskTable) : TaskTable :=
  tasks.mapIdx fun id task => if id ∈ ids then { task with stage := task.stage.cancel } else task

def act (id : Nat) (action : TaskAction) (tasks : TaskTable) : Option TaskTable :=
  tasks[id]?.bind fun task => (task.act action).map fun stage => tasks.set id { task with stage }

def stage? (tasks : TaskTable) (id : Nat) : Option TaskStage := tasks[id]?.map (·.stage)

def stages (tasks : TaskTable) (ids : List Nat) : List TaskStage := ids.filterMap tasks.stage?

/-- The await of the numbered tasks: it raises as soon as one of them has, and returns once all have. -/
def gather (tasks : TaskTable) (ids : List Nat) : Option Bool :=
  if (tasks.stages ids).any TaskStage.broken then some false
  else if (tasks.stages ids).all (· = .finished) then some true
  else none

def LiveAt (tasks : TaskTable) (kind : TaskKind) (id : Nat) : Prop :=
  ∃ task, tasks[id]? = some task ∧ task.kind = kind ∧ task.stage.live = true

variable {tasks : TaskTable}

theorem mem_stages {ids : List Nat} {stage : TaskStage} :
    stage ∈ tasks.stages ids ↔ ∃ id ∈ ids, tasks.stage? id = some stage :=
  List.mem_filterMap

theorem stage?_cancel (ids : List Nat) (id : Nat) :
    (tasks.cancel ids).stage? id = (tasks.stage? id).map fun stage => if id ∈ ids then stage.cancel else stage := by
  unfold stage? cancel
  rw [List.getElem?_mapIdx, Option.map_map, Option.map_map]
  congr 1
  funext task
  by_cases chosen : id ∈ ids <;> simp [chosen]

theorem act_eq_some {id : Nat} {action : TaskAction} {next : TaskTable} :
    tasks.act id action = some next ↔ ∃ task stage,
      tasks[id]? = some task ∧ task.act action = some stage ∧ tasks.set id { task with stage } = next := by
  unfold act
  simp only [Option.bind_eq_some_iff, Option.map_eq_some_iff]
  constructor
  · intro ⟨task, found, stage, acted, same⟩
    exact ⟨task, stage, found, acted, same⟩
  · intro ⟨task, stage, found, acted, same⟩
    exact ⟨task, found, stage, acted, same⟩

theorem stage?_set {id : Nat} {task : BackgroundTask} (found : tasks[id]? = some task) (stage : TaskStage)
    (other : Nat) :
    stage? (tasks.set id { task with stage }) other = if other = id then some stage else tasks.stage? other := by
  obtain ⟨bound, -⟩ := List.getElem?_eq_some_iff.mp found
  unfold stage?
  rw [List.getElem?_set]
  by_cases same : id = other
  · subst same
    simp [bound]
  · simp [same, Ne.symm same]

theorem liveAt_cancel (ids : List Nat) (kind : TaskKind) (id : Nat) :
    (tasks.cancel ids).LiveAt kind id ↔ tasks.LiveAt kind id := by
  have live (stage : TaskStage) : stage.cancel.live = stage.live := by cases stage <;> rfl
  unfold LiveAt cancel
  simp only [List.getElem?_mapIdx, Option.map_eq_some_iff]
  constructor
  · rintro ⟨_, ⟨task, found, rfl⟩, same, alive⟩
    refine ⟨task, found, ?_⟩
    split at same <;> split at alive <;> simp_all
  · intro ⟨task, found, same, alive⟩
    refine ⟨_, ⟨task, found, rfl⟩, ?_⟩
    split <;> simp_all

theorem liveAt_of_act {id : Nat} {action : TaskAction} {next : TaskTable} (acted : tasks.act id action = some next)
    {kind : TaskKind} {other : Nat} (live : next.LiveAt kind other) : tasks.LiveAt kind other := by
  obtain ⟨task, stage, found, moved, rfl⟩ := act_eq_some.mp acted
  by_cases same : id = other
  -- the acting task was live, for tasks that have ended take no step
  · subst same
    obtain ⟨bound, -⟩ := List.getElem?_eq_some_iff.mp found
    obtain ⟨after, located, kind, -⟩ := live
    refine ⟨task, found, ?_, ?_⟩
    · rw [List.getElem?_set_self bound] at located
      cases located
      exact kind
    · cases before : task.stage <;> cases action <;> simp_all [BackgroundTask.act, TaskStage.live]
  · obtain ⟨after, located, rest⟩ := live
    rw [List.getElem?_set_ne same] at located
    exact ⟨after, located, rest⟩

theorem live_of_act {id : Nat} {action : TaskAction} {next : TaskTable} (acted : tasks.act id action = some next) :
    ∃ kind, tasks.LiveAt kind id := by
  obtain ⟨task, stage, found, moved, -⟩ := act_eq_some.mp acted
  refine ⟨task.kind, task, found, rfl, ?_⟩
  cases before : task.stage <;> cases action <;> simp_all [BackgroundTask.act, TaskStage.live]

theorem gather_eq_true {ids : List Nat} (returned : tasks.gather ids = some true) :
    ∀ stage ∈ tasks.stages ids, stage = .finished := by
  unfold gather at returned
  split at returned
  · cases returned
  · split at returned
    · rename_i all
      intro stage member
      exact of_decide_eq_true (List.all_eq_true.mp all stage member)
    · cases returned

theorem gather_eq_false {ids : List Nat} (raised : tasks.gather ids = some false) :
    ∃ stage ∈ tasks.stages ids, stage.broken = true := by
  unfold gather at raised
  split at raised
  · rename_i any
    exact List.any_eq_true.mp any
  · split at raised <;> cases raised

theorem not_liveAt_of_gather {ids : List Nat} (returned : tasks.gather ids = some true) {kind : TaskKind} {id : Nat}
    (member : id ∈ ids) : ¬ tasks.LiveAt kind id := by
  rintro ⟨task, found, -, live⟩
  have finished := gather_eq_true returned task.stage (mem_stages.mpr ⟨id, member, by simp [stage?, found]⟩)
  rw [finished] at live
  cases live

end TaskTable

end Wotemu
