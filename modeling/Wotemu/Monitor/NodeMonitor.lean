import Wotemu.Foundation.Agents
import Wotemu.Monitor.Tasks
import Wotemu.Report.Store

/-! The node monitor, from one await of its calls to the next.

Any number of `start` and `stop` calls share the fields of one monitor. Next to
the fields stand the pools and tasks they refer to, which live on by themselves
when a field is overwritten.
-/

set_option autoImplicit false

namespace Wotemu

open Wotemu.Foundation

inductive MonitorCall where
  | start
  | stop
  deriving DecidableEq

/-- A pool is open until it has been closed; a missing task list is an empty one. The last
call that was issued is remembered for what is said about runs. -/
structure NodeMonitor where
  redis : Option Nat
  taskSystem : Option Nat
  tasksPacket : List Nat
  pools : List Bool
  tasks : TaskTable
  lastIssued : Option MonitorCall
  deriving DecidableEq

structure MonitorSetup where
  key : String
  packetIfaces : List String
  deriving DecidableEq

inductive CallStage where
  | idle
  | opening
  | writing
  | awaitingSystem (task : Nat)
  | awaitingPackets (tasks : List Nat)
  | closing (pool : Nat)
  | returned
  | raised
  deriving DecidableEq

def MonitorSetup.clock : MonitorSetup := ⟨"env_clock.1.abc", ["eth1"]⟩

namespace NodeMonitor

variable (monitor : NodeMonitor)

def isRunning : Bool := monitor.taskSystem.isSome || !monitor.tasksPacket.isEmpty

def redisOpen : NodeMonitor :=
  { monitor with redis := some monitor.pools.length, pools := monitor.pools ++ [true] }

/-- `None` is a failed assertion. -/
def createSystemTask (setup : MonitorSetup) : Option NodeMonitor :=
  if monitor.taskSystem.isSome then none
  else some { monitor with
    taskSystem := some monitor.tasks.length
    tasks := monitor.tasks ++ [⟨.system, redisKey .system [setup.key], .created false⟩] }

def createPacketTasks (setup : MonitorSetup) : Option NodeMonitor :=
  if !monitor.tasksPacket.isEmpty then none
  else some { monitor with
    tasksPacket := List.range' monitor.tasks.length setup.packetIfaces.length
    tasks := monitor.tasks ++ setup.packetIfaces.map fun iface =>
      ⟨.packet, redisKey .packet [iface, setup.key], .created false⟩ }

/-- The end of `start`. Where the second assertion fails, the system task has been created. -/
def createTasks (setup : MonitorSetup) : NodeMonitor × CallStage :=
  match monitor.createSystemTask setup with
  | none => (monitor, .raised)
  | some withSystem => match withSystem.createPacketTasks setup with
    | none => (withSystem, .raised)
    | some withPackets => (withPackets, .returned)

/-- The end of `stop`. -/
def clearTasks : NodeMonitor × CallStage :=
  ({ monitor with taskSystem := none, tasksPacket := [] }, .returned)

def redisClose : NodeMonitor × CallStage :=
  match monitor.redis with
  | none => monitor.clearTasks
  | some pool => (monitor, .closing pool)

def stopPacketTasks : NodeMonitor × CallStage :=
  if monitor.tasksPacket.isEmpty then monitor.redisClose
  else ({ monitor with tasks := monitor.tasks.cancel monitor.tasksPacket }, .awaitingPackets monitor.tasksPacket)

def stopSystemTask : NodeMonitor × CallStage :=
  match monitor.taskSystem with
  | none => monitor.stopPacketTasks
  | some task => ({ monitor with tasks := monitor.tasks.cancel [task] }, .awaitingSystem task)

end NodeMonitor

/-- The points at which a call runs until its next await. The operations of Redis may fail. -/
inductive CallAction where
  | start
  | redisOpened (ok : Bool)
  | nodeInfoWritten (ok : Bool)
  | stop
  | tasksEnded
  | redisClosed (ok : Bool)
  deriving DecidableEq

/-- `start` and `stop`, from one await to the next. -/
def MonitorSetup.act (setup : MonitorSetup) : CallAction → NodeMonitor → CallStage → Option (NodeMonitor × CallStage)
  -- `_redis_open` returns without suspending when there is a pool
  | .start, monitor, .idle =>
    let monitor := { monitor with lastIssued := some .start }
    some (monitor, if monitor.isRunning then .raised else if monitor.redis.isSome then .writing else .opening)
  | .redisOpened ok, monitor, .opening => some (if ok then (monitor.redisOpen, .writing) else (monitor, .raised))
  | .nodeInfoWritten ok, monitor, .writing => some (if ok then monitor.createTasks setup else (monitor, .raised))
  | .stop, monitor, .idle => some { monitor with lastIssued := some .stop }.stopSystemTask
  -- what an awaited task raised is raised here, before the field is cleared
  | .tasksEnded, monitor, .awaitingSystem task => (monitor.tasks.gather [task]).map fun ok =>
    if ok then { monitor with taskSystem := none }.stopPacketTasks else (monitor, .raised)
  | .tasksEnded, monitor, .awaitingPackets tasks => (monitor.tasks.gather tasks).map fun ok =>
    if ok then { monitor with tasksPacket := [] }.redisClose else (monitor, .raised)
  | .redisClosed ok, monitor, .closing pool =>
    some (if ok then { monitor with redis := none, pools := monitor.pools.set pool false }.clearTasks
      else (monitor, .raised))
  | _, _, _ => none

inductive MonitorEvent where
  | call (call : Nat) (action : CallAction)
  | task (task : Nat) (action : TaskAction)
  deriving DecidableEq

abbrev MonitorState := Agents Nat NodeMonitor CallStage

def MonitorSetup.step (setup : MonitorSetup) : Transition MonitorState MonitorEvent := fun state event =>
  match event with
  | .call call action => Agents.step setup.act state (call, action)
  | .task task action => (state.shared.tasks.act task action).map fun tasks =>
    { state with shared := { state.shared with tasks } }

def MonitorState.initial : MonitorState := ⟨⟨none, none, [], [], [], none⟩, fun _ => .idle⟩

end Wotemu
