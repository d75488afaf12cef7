import Wotemu.Foundation.SortedSets
import Wotemu.Foundation.Yaml
import Wotemu.Topology.Compose

/-! The command that stops a stack and keeps what it did.

The snapshot of the tasks is taken first, then the stack is scaled down, and
only then is the address of Redis found and the snapshot written. The helper
that writes swallows every exception.
-/

set_option autoImplicit false

namespace Wotemu.Stop

open Wotemu.Foundation

/-- What ends a call early. The last one stands for the exceptions of Docker and of the
command's own check. -/
inductive Failure where
  | error (why : PyError)
  | stopIteration
  | exception
  deriving DecidableEq

abbrev Outcome := Except Failure

def ofPy {α : Type} (result : Except PyError α) : Outcome α := result.mapError .error

/-- `next(item for item in items if test(item))` -/
def next {α : Type} (test : α → Outcome Bool) : List α → Outcome α
  | [] => .error .stopIteration
  | item :: rest => do
    let found ← test item
    if found then .ok item else next test rest

/-- `value.get(key, default)` -/
def get (value : Value) (key : String) (default : Value) : Outcome Value :=
  match value with
  | .dict entries => .ok ((Dict.value? entries key).getD default)
  | _ => .error (.error .attributeError)

def getYaml (value : Yaml) (key : String) (default : Yaml) : Outcome Yaml :=
  match value with
  | .dict entries => .ok ((Dict.value? entries (YamlKey.str key)).getD default)
  | _ => .error (.error .attributeError)

inductive LogsCall where
  | returned (text : String)
  | exitCode
  | raised

/-- How `docker stack deploy` ends: it may have updated services before it fails. -/
inductive Deploy where
  | returned
  | failed (updated : Bool)
  deriving DecidableEq

/-- What the file and the calls of Docker give. The services of the swarm are listed up to
three times, and the logs and the time of a task are told apart by its id. -/
structure Docker where
  readFile : Outcome Yaml
  services : Nat → Outcome (List Value)
  tasks : Value → Outcome (List Value)
  logs : String → LogsCall
  time : String → String
  deploy : Yaml → Deploy

/-- What the calls of Redis give for the first and for the second write: whether it connects,
whether the entry reaches the set, and the time that is its score. -/
structure RedisCalls where
  connects : Nat → Bool
  stores : Nat → Bool
  time : Nat → Rat
  before : Value → Value → Bool

section Services

variable (docker : Docker) (stack : String)

/-- `find_stack_services` with the services that the API lists at a turn. -/
def findStackServices (turn : Nat) : Outcome (List Value) := do
  let items ← docker.services turn
  items.filterM fun item => do
    let spec ← get item "Spec" (.dict [])
    let labels ← get spec "Labels" (.dict [])
    let name ← get labels "com.docker.stack.namespace" .none
    return name = .str stack

def hasRedisLabel (item : Value) : Outcome Bool := do
  let spec ← get item "Spec" (.dict [])
  let template ← get spec "TaskTemplate" (.dict [])
  let container ← get template "ContainerSpec" (.dict [])
  let labels ← get container "Labels" (.dict [])
  let label ← get labels Labels.redis.value .none
  return label ≠ .none

def isRedisPort (item : Value) : Outcome Bool := do
  let target ← ofPy (item.item "TargetPort")
  if target = .int 6379 then
    let protocol ← ofPy (item.item "Protocol")
    return protocol = .str "tcp"
  else return false

def findStackRedisPort : Outcome Value := do
  let services ← findStackServices docker stack 2
  let redisService ← next hasRedisLabel services
  let endpoint ← ofPy (redisService.item "Endpoint")
  let ports ← ofPy (endpoint.item "Ports")
  match ports with
  | .list items => do
    let port ← next isRedisPort items
    ofPy (port.item "PublishedPort")
  | _ => .error (.error .typeError)

def assertStackExists : Outcome Unit := do
  let services ← findStackServices docker stack 0
  if services.isEmpty then .error .exception else .ok ()

/-- `_get_task_logs`: a command that fails gives no logs. -/
def getTaskLogs (taskId : String) : Outcome Value :=
  match docker.logs taskId with
  | .returned text => .ok (.str text)
  | .exitCode => .ok .none
  | .raised => .error .exception

def snapshotEntry (snapshot : Dict String Value) (task : Value) : Outcome (Dict String Value) := do
  let taskId ← ofPy (task.item "ID")
  match taskId with
  | .str taskId => do
    let logs ← getTaskLogs docker taskId
    return Dict.assign snapshot taskId (.dict [("task", task), ("time", .float (docker.time taskId)), ("logs", logs)])
  | _ => .error (.error .typeError)

def getStackSnapshot : Outcome Value := do
  let services ← findStackServices docker stack 1
  let entries ← services.foldlM (fun snapshot service => do
    let serviceId ← ofPy (service.item "ID")
    let tasks ← docker.tasks serviceId
    tasks.foldlM (snapshotEntry docker) snapshot) []
  return .dict entries

end Services

section File

/-- `_is_redis`, by the labels that the file gives to the service. -/
def isRedis (service : Yaml) : Outcome Bool := do
  let labels ← getYaml service "labels" (.dict [])
  let label ← getYaml labels Labels.redis.value .none
  match label with
  | .none => return false
  | _ => return true

/-- `service.update({"deploy": {"replicas": 0}})`, except for Redis. -/
def withoutReplicas (entry : YamlKey × Yaml) : Outcome (YamlKey × Yaml) := do
  let redis ← isRedis entry.2
  match redis, entry.2 with
  | true, service => return (entry.1, service)
  | false, .dict service =>
    return (entry.1, .dict (Dict.assign service (.str "deploy") (.dict [(.str "replicas", .int 0)])))
  | false, _ => .error (.error .attributeError)

def targetContent (content : Yaml) : Outcome Yaml := do
  let services ← getYaml content "services" (.dict [])
  match services, content with
  | .dict services, .dict entries => do
    let services ← services.mapM withoutReplicas
    return .dict (Dict.assign entries (.str "services") (.dict services))
  | _, _ => .error (.error .attributeError)

end File

section Writes

variable (redis : RedisCalls)

def snapshotKey : String := "wotemu:snapshot"

def composeKey : String := "wotemu:compose"

def reaches (turn : Nat) : Bool := redis.connects turn && redis.stores turn

/-- `_zadd_json`: no exception leaves it. -/
def zaddJson (turn : Nat) (key : String) (data : Except PyError Value) (store : SortedSets Value) : SortedSets Value :=
  match data with
  | .ok member => if reaches redis turn then SortedSets.zadd redis.before store key (redis.time turn) member else store
  | .error _ => store

end Writes

/-- What a call leaves: whether the stack was updated, the store behind the Redis URL, the
snapshot once it was taken, and how the call ends. -/
structure Final where
  updated : Bool
  store : SortedSets Value
  snapshot : Option Value
  result : Outcome Unit

section Command

variable (docker : Docker) (redis : RedisCalls) (stack : String) (redisUrl : Option String)

def prepare : Outcome (Yaml × Yaml × Value) := do
  assertStackExists docker stack
  let content ← docker.readFile
  let target ← targetContent content
  let snapshot ← getStackSnapshot docker stack
  return (content, target, snapshot)

/-- An empty URL is looked up like a missing one. -/
def findRedisUrl : Outcome String :=
  match redisUrl.filter (· ≠ "") with
  | some url => .ok url
  | none => do
    let port ← findStackRedisPort docker stack
    return "redis://127.0.0.1:" ++ port.pyStr

def stopStack (store : SortedSets Value) : Final :=
  match prepare docker stack with
  | .error why => ⟨false, store, none, .error why⟩
  | .ok (content, target, snapshot) => match docker.deploy target with
    | .failed updated => ⟨updated, store, some snapshot, .error .exception⟩
    | .returned => match findRedisUrl docker stack redisUrl with
      | .error why => ⟨true, store, some snapshot, .error why⟩
      | .ok _ =>
        let store := zaddJson redis 0 snapshotKey (.ok snapshot) store
        let store := zaddJson redis 1 composeKey content.dumps store
        ⟨true, store, some snapshot, .ok ()⟩

end Command

end Wotemu.Stop
