import Wotemu.Apps.Replicas
import Wotemu.Cli.Routes
import Wotemu.Foundation.Ipv4
import Wotemu.Topology.Compose

/-! The gateways of a container's networks, as the Docker API lists them.

A network of the emulation is known by its label, its gateway by the label of
one of its tasks, and the way to the gateway by the interface whose addresses
share their first bits with those of the gateway. The routing configuration and
the packet monitor look the gateways up in the same way.
-/

set_option autoImplicit false

namespace Wotemu.Gateways

open Wotemu.Foundation Wotemu.Replicas

structure NetworkApi where
  inspectNetwork : String → Except ApiError Value
  inspectNetworkVerbose : String → Except ApiError Value
  inspectTask : String → Except ApiError Value

structure IfAddr where
  addr : String
  netmask : String
  deriving DecidableEq

abbrev Ifaces := List (String × List IfAddr)

/-- The items of an array. The API answers with arrays and objects where they are expected. -/
def elements : Value → Except PyError (List Value)
  | .list items => .ok items
  | _ => .error .typeError

def entries : Value → Except PyError (Dict String Value)
  | .dict entries => .ok entries
  | _ => .error .attributeError

def text : Value → Except PyError String
  | .str text => .ok text
  | _ => .error .typeError

/-- `labels.get(label, None) is not None` -/
def hasLabel (labels : Value) (label : Labels) : Except PyError Bool := do
  let value ← getOr labels label.value .none
  return value ≠ .none

section Lookup

variable (api : NetworkApi)

def getTaskNetworks (task : Value) : Except PyError (List String) := do
  let attachments ← elements (← task.item "NetworksAttachments")
  let networkIds ← attachments.mapM fun net => do
    let network ← net.item "Network"
    text (← network.item "ID")
  let networks ← networkIds.mapM fun netId => do
    let netInfo ← called (api.inspectNetwork netId)
    return (netId, netInfo)
  let networks ← (Dict.update [] networks).filterM fun entry => do
    let labels ← getOr entry.2 "Labels" (.dict [])
    hasLabel labels .network
  return networks.map Prod.fst

def getTaskLabels (taskName : String) : Except PyError Value := do
  let taskInfo ← called (api.inspectTask taskName)
  let spec ← taskInfo.item "Spec"
  let containerSpec ← spec.item "ContainerSpec"
  containerSpec.item "Labels"

/-- The tasks of the network's services by name. A service without a name stands for the
containers that belong to none. -/
def getTaskInfos (networkId : String) : Except PyError (Dict String Value) := do
  let networkInfo ← called (api.inspectNetworkVerbose networkId)
  let services ← entries (← networkInfo.item "Services")
  let tasks ← (services.filter (·.1 ≠ "")).mapM fun service => do elements (← service.2.item "Tasks")
  let taskInfos ← tasks.flatten.mapM fun taskInfo => do
    let name ← text (← taskInfo.item "Name")
    return (name, taskInfo)
  return Dict.update [] taskInfos

def getNetworkGatewayTask (networkId : String) : Except PyError Value := do
  let taskInfos ← getTaskInfos api networkId
  let taskLabels ← taskInfos.mapM fun task => do
    let labels ← getTaskLabels api task.1
    return (task.2, labels)
  let found ← taskLabels.findM? fun task => hasLabel task.2 .gateway
  match found with
  | some task => return task.1
  | none => throw .stopIteration

/-- The block of an interface address, which `netaddr` reads from its two texts. -/
def IfAddr.network (ifaddr : IfAddr) : Except PyError Block :=
  match Block.ofMask ifaddr.addr ifaddr.netmask with
  | some block => .ok block
  | none => .error .valueError

/-- The first interface address whose block holds the address of the task. -/
def getOutputIfaceForTask (ifaces : Ifaces) (netTaskDict : Value) : Except PyError (String × IfAddr) := do
  let _ ← netTaskDict.item "Name"
  let endpointIp ← text (← netTaskDict.item "EndpointIP")
  match Ipv4.read endpointIp with
  | none => throw .valueError
  | some taskAddr => do
    let addresses := ifaces.flatMap fun iface => iface.2.map fun addr => (iface.1, addr)
    let found ← addresses.findM? fun candidate => do
      let block ← candidate.2.network
      return block.holds taskAddr
    match found with
    | some candidate => return candidate
    | none => throw .stopIteration

/-- What `_build_routing_commands` takes from the gateway task of a network. -/
def gatewayTask (ifaces : Ifaces) (networkId : String) (gwTask : Value) : Except PyError GatewayTask := do
  let iface ← getOutputIfaceForTask ifaces gwTask
  let block ← iface.2.network
  let endpointIp ← text (← gwTask.item "EndpointIP")
  return ⟨networkId, endpointIp, iface.1, iface.2.addr, block.cidr.text⟩

/-- The gateways that `update_routing` finds for the networks of its task. -/
def gatewayTasks (ifaces : Ifaces) (currTask : Value) : Except PyError (List GatewayTask) := do
  let networkIds ← getTaskNetworks api currTask
  let gwTasks ← networkIds.mapM fun netId => do
    let gwTask ← (getNetworkGatewayTask api netId).mapError fun _ => PyError.runtimeError
    return (netId, gwTask)
  gwTasks.mapM fun entry => gatewayTask ifaces entry.1 entry.2

/-- `_get_monitor_ifaces` -/
def getMonitorIfaces (ifaces : Ifaces) (currTask : Value) : Except PyError (List String) := do
  let networkIds ← getTaskNetworks api currTask
  let gwTasks ← networkIds.mapM (getNetworkGatewayTask api)
  gwTasks.mapM fun gwTask => do
    let iface ← getOutputIfaceForTask ifaces gwTask
    return iface.1

end Lookup

/-- A gateway as it was found: its task belongs to the network, and the block of one of the container's
interfaces, whose address and range it carries, holds the address of the task. -/
structure Found (api : NetworkApi) (ifaces : Ifaces) (gw : GatewayTask) : Prop where
  task : ∃ gwTask, getNetworkGatewayTask api gw.networkId = .ok gwTask ∧
    gwTask.item "EndpointIP" = .ok (.str gw.endpointIp)
  block : ∃ addrs ifaddr block endpoint, (gw.ifname, addrs) ∈ ifaces ∧ ifaddr ∈ addrs ∧ ifaddr.addr = gw.addr ∧
    Block.ofMask ifaddr.addr ifaddr.netmask = some block ∧ gw.ifcidr = block.cidr.text ∧
    Ipv4.read gw.endpointIp = some endpoint ∧ block.holds endpoint = true

section Results

variable {api : NetworkApi} {ifaces : Ifaces} {currTask gwTask : Value} {networkId : String}

theorem kind_of_read (value : Value) : (∀ result, text value = .ok result → value = .str result) ∧
    ∀ items, elements value = .ok items → value = .list items := by
  cases value with
  | str => exact ⟨fun _ read => congrArg Value.str (Except.ok.inj read), nofun⟩
  | list => exact ⟨nofun, fun _ read => congrArg Value.list (Except.ok.inj read)⟩
  | none | bool | int | float | dict => exact ⟨nofun, nofun⟩

theorem network_ok {ifaddr : IfAddr} {block : Block} (read : ifaddr.network = .ok block) :
    Block.ofMask ifaddr.addr ifaddr.netmask = some block := by
  unfold IfAddr.network at read
  split at read
  · cases read
    assumption
  · cases read

theorem output_ok {iface : String × IfAddr} (found : getOutputIfaceForTask ifaces gwTask = .ok iface) :
    ∃ endpointIp endpoint addrs block, gwTask.item "EndpointIP" = .ok (.str endpointIp) ∧
      Ipv4.read endpointIp = some endpoint ∧ (iface.1, addrs) ∈ ifaces ∧ iface.2 ∈ addrs ∧
      iface.2.network = .ok block ∧ block.holds endpoint = true := by
  obtain ⟨_, -, found⟩ := bind_ok found
  obtain ⟨value, given, found⟩ := bind_ok found
  obtain ⟨endpointIp, isText, search⟩ := bind_ok found
  rw [(kind_of_read _).1 _ isText] at given
  cases read : Ipv4.read endpointIp with
  | none =>
    rw [read] at search
    cases search
  | some endpoint =>
    rw [read] at search
    obtain ⟨candidate, searched, search⟩ := bind_ok search
    cases candidate with
    | none => cases search
    | some candidate =>
      cases search
      obtain ⟨member, tested⟩ := findM?_ok_some searched
      obtain ⟨block, isNetwork, held⟩ := bind_ok tested
      obtain ⟨⟨name, addrs⟩, listed, member⟩ := List.mem_flatMap.mp member
      obtain ⟨ifaddr, inside, rfl⟩ := List.mem_map.mp member
      exact ⟨endpointIp, endpoint, addrs, block, given, read, listed, inside, isNetwork, Except.ok.inj held⟩

theorem gatewayTask_ok {gw : GatewayTask} (found : getNetworkGatewayTask api networkId = .ok gwTask)
    (made : gatewayTask ifaces networkId gwTask = .ok gw) : gw.networkId = networkId ∧ Found api ifaces gw ∧
      ∃ iface, getOutputIfaceForTask ifaces gwTask = .ok iface ∧ iface.1 = gw.ifname := by
  obtain ⟨iface, output, made⟩ := bind_ok made
  obtain ⟨block, isNetwork, made⟩ := bind_ok made
  obtain ⟨value, given, made⟩ := bind_ok made
  obtain ⟨endpointIp, isText, made⟩ := bind_ok made
  rw [(kind_of_read _).1 _ isText] at given
  cases made
  obtain ⟨other, endpoint, addrs, same, givenToo, read, listed, inside, isSame, holds⟩ := output_ok output
  rw [given] at givenToo
  cases givenToo
  rw [isNetwork] at isSame
  cases isSame
  exact ⟨rfl, ⟨⟨gwTask, found, given⟩,
    ⟨addrs, iface.2, block, endpoint, listed, inside, rfl, network_ok isNetwork, rfl, read, holds⟩⟩, iface, output, rfl⟩

theorem mapError_ok {α ε δ : Type} {stage : Except ε α} {f : ε → δ} {value : α}
    (made : stage.mapError f = .ok value) : stage = .ok value := by
  cases stage with
  | error => cases made
  | ok => exact congrArg Except.ok (Except.ok.inj made)

variable {tasks : List GatewayTask}

/-- There is one gateway for each network of the emulation that the task is attached to, in order, and the
monitor's look-up agrees on each. -/
theorem gatewayTasks_ok (made : gatewayTasks api ifaces currTask = .ok tasks) : ∃ networkIds gwTasks,
    getTaskNetworks api currTask = .ok networkIds ∧ networkIds.mapM (getNetworkGatewayTask api) = .ok gwTasks ∧
      tasks.map GatewayTask.networkId = networkIds ∧ (∀ gw ∈ tasks, Found api ifaces gw) ∧
      gwTasks.mapM (fun gwTask => do return (← getOutputIfaceForTask ifaces gwTask).1) =
        .ok (tasks.map GatewayTask.ifname) := by
  obtain ⟨networkIds, listed, afterIds⟩ := bind_ok made
  obtain ⟨found, looked, built⟩ := bind_ok afterIds
  refine ⟨networkIds, found.map Prod.snd, listed, ?_⟩
  replace looked := mapM_ok_iff.mp looked
  replace built := mapM_ok_iff.mp built
  clear listed made afterIds
  -- along the three lists
  induction looked generalizing tasks with
  | nil =>
    cases built
    exact ⟨rfl, rfl, by simp, rfl⟩
  | @cons networkId entry networkIds found looks _ ih =>
    cases built with
    | @cons _ gw _ tasks makes built =>
      obtain ⟨gwTask, here, looks⟩ := bind_ok looks
      have here := mapError_ok here
      cases looks
      obtain ⟨same, isFound, iface, output, named⟩ := gatewayTask_ok here makes
      obtain ⟨later, ids, all, ifaces⟩ := ih built
      refine ⟨?_, ?_, List.forall_mem_cons.mpr ⟨isFound, all⟩, ?_⟩
      · rw [List.mapM_cons, here, later]
        rfl
      · rw [List.map_cons, same, ids]
      · rw [List.map_cons, List.mapM_cons, output, ifaces, List.map_cons, ← named]
        rfl

theorem getMonitorIfaces_eq (made : gatewayTasks api ifaces currTask = .ok tasks) :
    getMonitorIfaces api ifaces currTask = .ok (tasks.map GatewayTask.ifname) := by
  obtain ⟨networkIds, gwTasks, listed, looked, -, -, outputs⟩ := gatewayTasks_ok made
  exact bind_ok_iff.mpr ⟨networkIds, listed, bind_ok_iff.mpr ⟨gwTasks, looked, outputs⟩⟩

theorem found_of_mem (made : gatewayTasks api ifaces currTask = .ok tasks) {gw : GatewayTask} (member : gw ∈ tasks) :
    Found api ifaces gw := by
  obtain ⟨-, -, -, -, -, all, -⟩ := gatewayTasks_ok made
  exact all gw member

def subnet (gw : GatewayTask) : Option Block := Block.read gw.ifcidr

theorem Found.subnet {gw : GatewayTask} (found : Found api ifaces gw) : ∃ block endpoint own,
    Gateways.subnet gw = some block ∧ Ipv4.read gw.endpointIp = some endpoint ∧ block.holds endpoint = true ∧
      Ipv4.read gw.addr = some own ∧ block.holds own = true := by
  obtain ⟨_, ifaddr, block, endpoint, -, -, addr, masked, same, read, holds⟩ := found.block
  refine ⟨block.cidr, endpoint, block.address, ?_, read, ?_, ?_, ?_⟩
  · rw [Gateways.subnet, same, Block.read_text]
  · rw [Block.holds_cidr, holds]
  · rw [← addr, Block.read_of_ofMask masked]
  · rw [Block.holds_cidr, Block.holds_self]

end Results

end Wotemu.Gateways
