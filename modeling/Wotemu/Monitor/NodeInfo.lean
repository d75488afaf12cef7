import Wotemu.Cli.Gateways
import Wotemu.Foundation.Numerals
import Wotemu.Monitor.CpuUsage
import Wotemu.Report.Packets

/-! The document in which a container describes itself.

The subnetworks of its networks come from the Docker API, the virtual IPs of its
service from the output of `nslookup`. Each lookup may fail on its own, and its
field is then missing.
-/

set_option autoImplicit false

namespace Wotemu

open Wotemu.Foundation Wotemu.Replicas Wotemu.Gateways

structure Host where
  environ : Dict String String
  netIfAddrs : Dict String (List NetAddress)
  api : NetworkApi
  swarm : Swarm
  nslookup : String → Except PyError String
  answers : SystemMonitor.Answers
  state : SystemMonitor.ModuleState

section Output

/-- `\s` -/
def skipSpace : List Char → Option (List Char)
  | c :: rest => if isSpace c then some rest else none
  | [] => none

/-- The rest of the line, which `.` does not leave. -/
def restOfLine (text : List Char) : List Char := text.takeWhile (· ≠ '\n')

/-- `_NSLOOKUP_REGEX` at the beginning of a text: a name with a dot inside, and the address in the line below. -/
def matchVip (text : List Char) : Option String := do
  let named ← skipSpace (← "Name:".toList.isPrefixOf? text)
  let below ← "\nAddress:".toList.isPrefixOf? (named.dropWhile (· ≠ '\n'))
  let address := restOfLine (← skipSpace below)
  if '.' ∈ ((restOfLine named).drop 1).dropLast ∧ address ≠ [] then some (String.ofList address) else none

/-- `re.search` -/
def searchVip (output : String) : Option String := output.toList.tails.findSome? matchVip

end Output

/-- `net["Name"]` -/
def netName (net : Value) : Except PyError String := do text (← net.item "Name")

/-- The subnetworks of `net.get("IPAM", {}).get("Config", [])`. -/
def netSubnets (net : Value) : Except PyError (List String) := do
  let ipam ← getOr net "IPAM" (.dict [])
  let config ← elements (← getOr ipam "Config" (.list []))
  config.mapM fun item => do text (← Value.item item "Subnet")

namespace Host

variable (host : Host)

def inspectCurrentNetworks : Except PyError (List Value) := do
  let currTask ← getCurrentTask host.swarm
  let netIds ← getTaskNetworks host.api currTask
  netIds.mapM fun nid => called (host.api.inspectNetwork nid)

def getSubnetsCidr : Except PyError (Dict String (List String)) := do
  let networksData ← host.inspectCurrentNetworks
  let subnets ← networksData.mapM fun net => return (← netName net, ← netSubnets net)
  return Dict.update [] subnets

def getServiceVips : Except PyError (Dict String String) := do
  match Dict.value? host.environ envKeyServiceName with
  | none => throw .assertionError
  | some serviceName => do
    let networksData ← host.inspectCurrentNetworks
    let netNames ← networksData.mapM netName
    let nslookupResults ← netNames.mapM fun netName => do
      let output ← host.nslookup (serviceName ++ "." ++ netName)
      return (netName, output)
    (Dict.update [] nslookupResults).mapM fun result => match searchVip result.2 with
      | some vip => return (result.1, vip)
      | none => throw .assertionError

def getTaskId : Except PyError String := do
  let currTask ← getCurrentTask host.swarm
  text (← currTask.item "ID")

section Constraints

variable (round : Rat → Nat → Rat)

def getConstraints : SystemMonitor.Program (Dict String Rat) := do
  let memLimitBytes ← SystemMonitor.getMemoryLimit host.answers
  let cpuConstraint ← SystemMonitor.getCpuConstraint host.answers
  return ("mem_limit_mb", round (memLimitBytes / 1024 ^ 2) 3) ::
    -- a constraint is not zero
    (cpuConstraint.map fun constraint => ("cpu_percent", round (constraint * 100) 2)).toList

/-- `get_node_info` with the time that is added before it is written, and the variables that it leaves. -/
def getNodeInfo (time : Rat) : NodeInfo × SystemMonitor.ModuleState :=
  let constraints := SystemMonitor.attempt (host.getConstraints round) host.state
  ({ time
     net := host.netIfAddrs
     env := host.environ
     serviceVips := host.getServiceVips.toOption
     networksCidr := host.getSubnetsCidr.toOption
     containerId := host.swarm.currentContainerId.toOption
     taskId := host.getTaskId.toOption
     constraints := constraints.1 }, constraints.2)

end Constraints

end Host

def Tells (api : NetworkApi) (networkId name : String) (subnets : List String) : Prop :=
  ∃ info, api.inspectNetwork networkId = .ok info ∧ netName info = .ok name ∧ netSubnets info = .ok subnets

section NameService

variable {host : Host} {serviceName : String} {netNames : List String} {vip : String → String}

theorem nslookup_results (resolves : ∀ netName ∈ netNames, ∃ output,
      host.nslookup (serviceName ++ "." ++ netName) = .ok output ∧ searchVip output = some (vip netName)) :
    ∃ results, netNames.mapM (fun netName => do
        let output ← host.nslookup (serviceName ++ "." ++ netName)
        return (netName, output)) = .ok results ∧
      Dict.keys results = netNames ∧ ∀ result ∈ results, searchVip result.2 = some (vip result.1) := by
  have looked : ∃ results, netNames.mapM (fun netName => do
      let output ← host.nslookup (serviceName ++ "." ++ netName)
      return (netName, output)) = .ok results := by
    refine Returns.mapM_iff.mpr fun netName member => ?_
    obtain ⟨output, answered, -⟩ := resolves netName member
    exact ⟨_, bind_ok_iff.mpr ⟨output, answered, rfl⟩⟩
  obtain ⟨results, looked⟩ := looked
  have each := mapM_ok_iff.mp looked
  refine ⟨results, looked, ?_, fun result member => ?_⟩
  · rw [eq_comm, Dict.keys, ← List.forall₂_eq_eq_eq, List.forall₂_map_right_iff]
    refine each.imp fun netName result made => ?_
    obtain ⟨_, -, made⟩ := bind_ok made
    cases made
    rfl
  · obtain ⟨netName, isName, made⟩ := exists_item_of_forall₂ each member
    obtain ⟨output, answered, made⟩ := bind_ok made
    cases made
    obtain ⟨other, same, address⟩ := resolves netName isName
    rw [same] at answered
    cases answered
    exact address

end NameService

section Lookups

variable {host : Host} {currTask : Value} {networkIds : List String} {name : String → String}
  {subnets : String → List String} (found : getCurrentTask host.swarm = .ok currTask)
  (listed : getTaskNetworks host.api currTask = .ok networkIds)
  (tells : ∀ networkId ∈ networkIds, Tells host.api networkId (name networkId) (subnets networkId))

include found listed tells

theorem inspectCurrentNetworks_ok : ∃ infos, host.inspectCurrentNetworks = .ok infos ∧
    List.Forall₂ (fun networkId info => netName info = .ok (name networkId) ∧
      netSubnets info = .ok (subnets networkId)) networkIds infos := by
  have answers : ∃ infos, networkIds.mapM (fun nid => called (host.api.inspectNetwork nid)) = .ok infos := by
    refine Returns.mapM_iff.mpr fun networkId member => ?_
    obtain ⟨info, answered, -⟩ := tells networkId member
    exact ⟨info, congrArg called answered⟩
  obtain ⟨infos, inspected⟩ := answers
  refine ⟨infos, bind_ok_iff.mpr ⟨currTask, found, bind_ok_iff.mpr ⟨networkIds, listed, inspected⟩⟩, ?_⟩
  -- Docker answers for a network as it did before
  refine forall₂_imp_of_mem (mapM_ok_iff.mp inspected) fun networkId info member answered => ?_
  obtain ⟨other, same, named, subnetted⟩ := tells networkId member
  rw [same] at answered
  cases answered
  exact ⟨named, subnetted⟩

theorem getSubnetsCidr_ok : host.getSubnetsCidr =
    .ok (Dict.update [] (networkIds.map fun networkId => (name networkId, subnets networkId))) := by
  obtain ⟨infos, inspected, all⟩ := inspectCurrentNetworks_ok found listed tells
  refine bind_ok_iff.mpr ⟨infos, inspected, bind_ok_iff.mpr ⟨_, mapM_ok_iff.mpr ?_, rfl⟩⟩
  rw [List.forall₂_map_right_iff]
  refine all.flip.imp fun info networkId read => ?_
  exact bind_ok_iff.mpr ⟨_, read.1, bind_ok_iff.mpr ⟨_, read.2, rfl⟩⟩

theorem getServiceVips_ok {serviceName : String} {vip : String → String}
    (named : Dict.value? host.environ envKeyServiceName = some serviceName)
    (resolves : ∀ networkId ∈ networkIds, ∃ output, host.nslookup (serviceName ++ "." ++ name networkId) = .ok output ∧
      searchVip output = some (vip (name networkId))) :
    ∃ vips, host.getServiceVips = .ok vips ∧ ∀ network address, (network, address) ∈ vips ↔
      network ∈ networkIds.map name ∧ address = vip network := by
  obtain ⟨infos, inspected, all⟩ := inspectCurrentNetworks_ok found listed tells
  have names : infos.mapM netName = .ok (networkIds.map name) := by
    rw [mapM_ok_iff, List.forall₂_map_right_iff]
    exact all.flip.imp fun _ _ read => read.1
  have inNames : ∀ netName ∈ networkIds.map name, ∃ output,
      host.nslookup (serviceName ++ "." ++ netName) = .ok output ∧ searchVip output = some (vip netName) :=
    List.forall_mem_map.mpr resolves
  obtain ⟨results, looked, keys, addresses⟩ := nslookup_results inNames
  -- the dictionary has no other results than these
  have kept : ∀ result ∈ Dict.update [] results, searchVip result.2 = some (vip result.1) := fun result member =>
    addresses result ((Dict.mem_of_mem_update member).resolve_left List.not_mem_nil)
  refine ⟨(Dict.update [] results).map fun result => (result.1, vip result.1), ?_, fun network address => ?_⟩
  · unfold Host.getServiceVips
    rw [named]
    refine bind_ok_iff.mpr ⟨infos, inspected, bind_ok_iff.mpr ⟨_, names, bind_ok_iff.mpr ⟨results, looked, ?_⟩⟩⟩
    refine mapM_eq_map fun result member => ?_
    rw [kept result member]
    rfl
  · have isKey : network ∈ networkIds.map name ↔ network ∈ Dict.keys (Dict.update [] results) := by
      rw [← keys, Dict.mem_keys_update]
      exact (or_iff_right List.not_mem_nil).symm
    rw [isKey, List.mem_map]
    constructor
    · rintro ⟨result, member, same⟩
      cases same
      exact ⟨List.mem_map_of_mem member, rfl⟩
    · rintro ⟨member, rfl⟩
      obtain ⟨result, isResult, rfl⟩ := List.mem_map.mp member
      exact ⟨result, isResult, rfl⟩

end Lookups

end Wotemu
