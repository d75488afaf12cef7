import Wotemu.Foundation.Separated
import Wotemu.Foundation.Stages

/-! The containers of a service, as the Docker API lists them.

The name of a service is translated to the names that the API may know it by,
with the label of the stack that the own task has. A task that is listed without
a container ends the search.
-/

set_option autoImplicit false

namespace Wotemu.Replicas

open Wotemu.Foundation

inductive ApiError where
  | notFound
  | other
  deriving DecidableEq

/-- What the Docker API answers. Tasks are JSON objects. A service is asked for its tasks with the desired
state `running`. -/
structure DockerApi where
  inspectNetwork : String → Except ApiError Unit
  tasks : Except ApiError (List Value)
  serviceTasks : String → Except ApiError (List Value)

structure Swarm where
  api : DockerApi
  currentContainerId : Except PyError String

def stackNamespace : String := "com.docker.stack.namespace"

def cidHostLen : Nat := 12

/-- `value.get(key, default)` -/
def getOr (value : Value) (key : String) (default : Value) : Except PyError Value :=
  match value with
  | .dict entries => .ok ((Dict.value? entries key).getD default)
  | _ => .error .attributeError

def called {α : Type} : Except ApiError α → Except PyError α
  | .ok value => .ok value
  | .error _ => .error .runtimeError

def getTaskContainerId (taskDict : Value) : Except PyError Value := do
  let status ← getOr taskDict "Status" (.dict [])
  let containerStatus ← getOr status "ContainerStatus" (.dict [])
  getOr containerStatus "ContainerID" .none

/-- The names that the API may know a service of a stack by. -/
def serviceNames (stack base : String) : List String :=
  (stack ++ "_" ++ base) :: if (stack ++ "_").toList <+: base.toList then [base] else []

section Translation

variable (swarm : Swarm)

def getCurrentTask : Except PyError Value := do
  let cid ← swarm.currentContainerId
  let tasks ← called swarm.api.tasks
  let task ← tasks.findM? fun task => return (← getTaskContainerId task) = .str cid
  match task with
  | some task => return task
  | none => throw .runtimeError

def getCurrentStackNamespace : Except PyError Value := do
  let currTask ← getCurrentTask swarm
  let spec ← getOr currTask "Spec" (.dict [])
  let containerSpec ← getOr spec "ContainerSpec" (.dict [])
  let labels ← getOr containerSpec "Labels" (.dict [])
  getOr labels stackNamespace .none

def baseName (name : String) : Except PyError String :=
  let serviceParts := split '.' name
  match swarm.api.inspectNetwork (serviceParts.getLastD "") with
  | .ok _ => .ok (String.intercalate "." serviceParts.dropLast)
  | .error .notFound => .ok name
  | .error .other => .error .runtimeError

/-- `task["Status"]["ContainerStatus"]["ContainerID"]` -/
def containerId (task : Value) : Except PyError Value := do
  let status ← task.item "Status"
  let containerStatus ← status.item "ContainerStatus"
  containerStatus.item "ContainerID"

def hostname (cid : String) : String := String.ofList (cid.toList.take cidHostLen)

def containerHost (task : Value) : Except PyError String := do
  match ← containerId task with
  | .str cid => return hostname cid
  | _ => throw .typeError

def findServiceContainerHosts (serviceName : String) : Except PyError (List String) :=
  match swarm.api.serviceTasks serviceName with
  | .error _ => return []
  | .ok serviceTasks => serviceTasks.mapM containerHost

def getServiceContainerHostnames (name : String) : Except PyError (List String) := do
  let base ← baseName swarm name
  let namespaceValue ← getCurrentStackNamespace swarm
  let hosts ← (serviceNames namespaceValue.pyStr base).mapM (findServiceContainerHosts swarm)
  if hosts.flatten.isEmpty then throw .runtimeError else return hosts.flatten

def listedAs (serviceName : String) : List Value := match swarm.api.serviceTasks serviceName with
  | .error _ => []
  | .ok serviceTasks => serviceTasks

/-- The name of the service in its stack: only what follows a dot names a network. -/
def serviceOf (name : String) : String :=
  let parts := split '.' name
  match swarm.api.inspectNetwork (parts.getLastD "") with
  | .ok _ => if parts = [name] then name else String.intercalate "." parts.dropLast
  | .error _ => name

/-- The tasks that the API lists for the service of the stack. -/
def listed (stack name : String) : List Value :=
  (serviceNames stack (serviceOf swarm name)).flatMap (listedAs swarm)

/-- The tasks that the API lists for the names that the label of the own task leads to. -/
def sought (name : String) : Except PyError (List Value) := do
  let base ← baseName swarm name
  let namespaceValue ← getCurrentStackNamespace swarm
  return (serviceNames namespaceValue.pyStr base).flatMap (listedAs swarm)

end Translation

/-- The container of a task has an ID. -/
def HasContainer (task : Value) : Prop := ∃ cid, containerId task = .ok (.str cid)

variable {swarm : Swarm} {name : String} {task : Value}

theorem containerHost_ok_iff {host : String} :
    containerHost task = .ok host ↔ ∃ cid, containerId task = .ok (.str cid) ∧ hostname cid = host := by
  unfold containerHost
  rw [bind_ok_iff]
  constructor
  · rintro ⟨value, found, result⟩
    cases value with
    | str cid =>
      cases result
      exact ⟨cid, found, rfl⟩
    | none | bool | int | float | list | dict => cases result
  · rintro ⟨cid, found, rfl⟩
    exact ⟨_, found, rfl⟩

theorem findServiceContainerHosts_ok_iff {serviceName : String} {hosts : List String} :
    findServiceContainerHosts swarm serviceName = .ok hosts ↔
      List.Forall₂ (fun task host => containerHost task = .ok host) (listedAs swarm serviceName) hosts := by
  unfold findServiceContainerHosts listedAs
  cases swarm.api.serviceTasks serviceName with
  | error why =>
    constructor
    · intro ok
      cases ok
      exact .nil
    · intro none
      cases none
      rfl
  | ok serviceTasks => exact mapM_ok_iff

theorem hosts_of_names {names : List String} {hosts : List (List String)}
    (found : names.mapM (findServiceContainerHosts swarm) = .ok hosts) :
    List.Forall₂ (fun task host => containerHost task = .ok host) (names.flatMap (listedAs swarm)) hosts.flatten := by
  rw [List.flatMap_def]
  refine List.rel_flatten (List.forall₂_map_left_iff.mpr ?_)
  exact (mapM_ok_iff.mp found).imp fun _ _ => findServiceContainerHosts_ok_iff.mp

theorem returns_containerHost_iff : Returns (containerHost task) ↔ HasContainer task := by
  constructor
  · rintro ⟨host, found⟩
    obtain ⟨cid, known, -⟩ := containerHost_ok_iff.mp found
    exact ⟨cid, known⟩
  · rintro ⟨cid, known⟩
    exact ⟨hostname cid, containerHost_ok_iff.mpr ⟨cid, known, rfl⟩⟩

theorem returns_findServiceContainerHosts_iff {serviceName : String} :
    Returns (findServiceContainerHosts swarm serviceName) ↔ ∀ task ∈ listedAs swarm serviceName, HasContainer task := by
  unfold findServiceContainerHosts listedAs
  cases swarm.api.serviceTasks serviceName with
  | error why => exact iff_of_true (Returns.pure []) fun _ member => by cases member
  | ok serviceTasks =>
    rw [Returns.mapM_iff]
    exact forall₂_congr fun _ _ => returns_containerHost_iff

/-- There are tasks to look for, and all of them have a container. -/
def Searched (swarm : Swarm) (name : String) (tasks : List Value) : Prop :=
  sought swarm name = .ok tasks ∧ tasks ≠ [] ∧ ∀ task ∈ tasks, HasContainer task

/-- The hosts that are found are those of the tasks that are looked for, in order. -/
theorem hostnames_ok {hosts : List String} (found : getServiceContainerHostnames swarm name = .ok hosts) :
    ∃ tasks, Searched swarm name tasks ∧ List.Forall₂ (fun task host => containerHost task = .ok host) tasks hosts := by
  obtain ⟨base, read, found⟩ := bind_ok found
  obtain ⟨namespaceValue, labelled, found⟩ := bind_ok found
  obtain ⟨each, eachFound, found⟩ := bind_ok found
  split at found
  case isTrue => cases found
  case isFalse some =>
    cases found
    have ofTasks := hosts_of_names eachFound
    refine ⟨_, ⟨?_, ?_, ?_⟩, ofTasks⟩
    · unfold sought
      rw [read, labelled]
      rfl
    · intro none
      rw [none] at ofTasks
      rw [List.forall₂_nil_left_iff.mp ofTasks] at some
      exact some rfl
    · intro task member
      obtain ⟨host, isHost⟩ := exists_of_forall₂ ofTasks member
      exact returns_containerHost_iff.mp ⟨host, isHost⟩

theorem returns_of_searched {tasks : List Value} (searched : Searched swarm name tasks) :
    Returns (getServiceContainerHostnames swarm name) := by
  obtain ⟨asked, some, all⟩ := searched
  obtain ⟨base, read, asked⟩ := bind_ok asked
  obtain ⟨namespaceValue, labelled, asked⟩ := bind_ok asked
  cases asked
  obtain ⟨hosts, found⟩ : Returns ((serviceNames namespaceValue.pyStr base).mapM (findServiceContainerHosts swarm)) := by
    refine Returns.mapM_iff.mpr fun serviceName member => returns_findServiceContainerHosts_iff.mpr ?_
    exact fun task listed => all task (List.mem_flatMap.mpr ⟨serviceName, member, listed⟩)
  have length := (hosts_of_names found).length_eq
  have known : ¬ hosts.flatten.isEmpty = true := by
    intro none
    rw [List.isEmpty_iff.mp none] at length
    exact some (List.eq_nil_of_length_eq_zero length)
  refine ⟨hosts.flatten, ?_⟩
  unfold getServiceContainerHostnames
  simp only [read, labelled]
  change ((serviceNames namespaceValue.pyStr base).mapM (findServiceContainerHosts swarm) >>= _) = _
  rw [found]
  exact if_neg known

/-- When the name is read as it is meant and the own task has the label of the stack, the tasks of the service
are looked for. -/
theorem sought_eq {stack : String} (read : baseName swarm name = .ok (serviceOf swarm name))
    (labelled : getCurrentStackNamespace swarm = .ok (.str stack)) :
    sought swarm name = .ok (listed swarm stack name) := by
  unfold sought
  rw [read, labelled]
  rfl

end Wotemu.Replicas
