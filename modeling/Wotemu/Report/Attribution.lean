import Wotemu.Cli.Diversion
import Wotemu.Monitor.NodeInfo
import Wotemu.Report.Snapshot

/-! Whose packets the report shows.

The containers describe themselves: their addresses, the subnetworks of their
networks and the virtual IPs of their service. The reader takes the tasks, the
services and the networks of the packets from these documents.
-/

set_option autoImplicit false

namespace Wotemu

open Wotemu.Foundation Wotemu.Replicas Wotemu.Gateways Wotemu.Diversion

structure InfoReport where
  key : String
  host : Host
  time : Rat

namespace InfoReport

-- how floats are rounded to a number of digits is left open
variable (round : Rat → Nat → Rat) (report : InfoReport)

def info : NodeInfo := (report.host.getNodeInfo round report.time).1

def addresses : List String := (report.info round).ifaceAddresses.map Prod.snd

def vips : List String := (report.info round).vips.map Prod.snd

end InfoReport

structure ReportDataRedisReader.Collects (reader : ReportDataRedisReader) (round : Rat → Nat → Rat)
    (reports : List InfoReport) : Prop where
  written : ∃ writes, reader.store = runWrites reader.redis writes ∧ (∀ write ∈ writes, write.WellNamed) ∧
    ∀ key info, Write.info key info ∈ writes ↔ ∃ report ∈ reports, report.key = key ∧ report.info round = info

structure Networks where
  name : String → String
  subnets : String → List String
  vip : String → String → String

structure Monitored (api : NetworkApi) where
  container : Container api
  key : String
  service : String

namespace Monitored

variable {api : NetworkApi} (member : Monitored api)

/-- What a report of the container can rely on: it knows its service and its task, it has the interfaces that
were configured, and Docker tells each of its networks, whose subnetworks are the addresses behind the interface
that leads to the gateway. -/
structure Describes (networks : Networks) (covers : String → String → Bool) (host : Host) : Prop where
  asks : host.api = api
  currTask : getCurrentTask host.swarm = .ok member.container.currTask
  service : Dict.value? host.environ envKeyServiceName = some member.service
  ifaces : ∀ iface addrs, (iface, addrs) ∈ member.container.ifaces → ∀ ifaddr ∈ addrs, ∃ items,
    (iface, items) ∈ host.netIfAddrs ∧ ⟨afInet, ifaddr.addr⟩ ∈ items
  outside : ∀ gw ∈ member.container.setup.gwTasks, gw.ifname ≠ ifaceLo
  tells : ∀ gw ∈ member.container.setup.gwTasks,
    Tells api gw.networkId (networks.name gw.networkId) (networks.subnets gw.networkId)
  behind : ∀ gw ∈ member.container.setup.gwTasks, ∀ address ip, Ipv4.read address = some ip →
    ((networks.subnets gw.networkId).any (fun cidr => covers cidr address) = true ↔ Behind gw ip)
  named : ∀ gw ∈ member.container.setup.gwTasks, ∀ other ∈ member.container.setup.gwTasks,
    networks.name gw.networkId = networks.name other.networkId → gw.networkId = other.networkId
  resolves : ∀ gw ∈ member.container.setup.gwTasks, ∃ output,
    host.nslookup (member.service ++ "." ++ networks.name gw.networkId) = .ok output ∧
      searchVip output = some (networks.vip member.service (networks.name gw.networkId))

section Describing

variable {member} {networks : Networks} {covers : String → String → Bool} {host : Host} {gw : GatewayTask}
  (describes : member.Describes networks covers host)

include describes

theorem Describes.networkIds : getTaskNetworks host.api member.container.currTask =
      .ok (member.container.setup.gwTasks.map GatewayTask.networkId) ∧
    ∀ networkId ∈ member.container.setup.gwTasks.map GatewayTask.networkId,
      Tells host.api networkId (networks.name networkId) (networks.subnets networkId) := by
  rw [describes.asks]
  obtain ⟨networkIds, -, listed, -, rfl, -⟩ := gatewayTasks_ok member.container.discovered
  refine ⟨listed, fun networkId isNetwork => ?_⟩
  obtain ⟨gw, isTask, rfl⟩ := List.mem_map.mp isNetwork
  exact describes.tells gw isTask

theorem Describes.subnetsCidr : ∃ networksCidr, host.getSubnetsCidr = .ok networksCidr ∧
    ∀ entry, entry ∈ networksCidr ↔ ∃ gw ∈ member.container.setup.gwTasks,
      (networks.name gw.networkId, networks.subnets gw.networkId) = entry := by
  obtain ⟨listed, tells⟩ := describes.networkIds
  refine ⟨_, getSubnetsCidr_ok describes.currTask listed tells, fun entry => ?_⟩
  rw [Dict.mem_update_nil_iff, List.map_map, List.mem_map]
  · rfl
  · -- networks of one name are one
    intro first isFirst second isSecond same
    rw [List.map_map] at isFirst isSecond
    obtain ⟨gw, isTask, rfl⟩ := List.mem_map.mp isFirst
    obtain ⟨other, isOther, rfl⟩ := List.mem_map.mp isSecond
    simp only [Function.comp_apply, describes.named gw isTask other isOther same]

theorem Describes.serviceVips : ∃ vips, host.getServiceVips = .ok vips ∧
    ∀ gw ∈ member.container.setup.gwTasks, (networks.name gw.networkId,
      networks.vip member.service (networks.name gw.networkId)) ∈ vips := by
  obtain ⟨listed, tells⟩ := describes.networkIds
  have resolves : ∀ networkId ∈ member.container.setup.gwTasks.map GatewayTask.networkId, ∃ output,
      host.nslookup (member.service ++ "." ++ networks.name networkId) = .ok output ∧
        searchVip output = some (networks.vip member.service (networks.name networkId)) := by
    intro networkId isNetwork
    obtain ⟨gw, isTask, rfl⟩ := List.mem_map.mp isNetwork
    exact describes.resolves gw isTask
  obtain ⟨vips, made, all⟩ := getServiceVips_ok describes.currTask listed tells describes.service resolves
  refine ⟨vips, made, fun gw isTask => (all _ _).mpr ⟨?_, rfl⟩⟩
  exact List.mem_map_of_mem (List.mem_map_of_mem isTask)

end Describing

section Reports

variable {member} {networks : Networks} {reader : ReportDataRedisReader} {round : Rat → Nat → Rat}
  {report : InfoReport} {gw : GatewayTask} (describes : member.Describes networks reader.covers report.host)
  (isTask : gw ∈ member.container.setup.gwTasks)

include describes

theorem Describes.service_eq : (report.info round).service = some member.service := describes.service

include isTask

theorem Describes.mem_addresses : gw.addr ∈ report.addresses round := by
  obtain ⟨addrs, ifaddr, block, endpoint, isIface, isAddr, same, -⟩ := (member.container.found isTask).block
  obtain ⟨items, isItem, inside⟩ := describes.ifaces gw.ifname addrs isIface ifaddr isAddr
  rw [← same]
  refine List.mem_map.mpr ⟨(gw.ifname, ifaddr.addr), List.mem_flatMap.mpr ⟨(gw.ifname, items), ?_, ?_⟩, rfl⟩
  · exact List.mem_filter.mpr ⟨isItem, decide_eq_true (describes.outside gw isTask)⟩
  · exact List.mem_map.mpr ⟨⟨afInet, ifaddr.addr⟩, List.mem_filter.mpr ⟨inside, decide_eq_true rfl⟩, rfl⟩

theorem Describes.mem_vips : networks.vip member.service (networks.name gw.networkId) ∈ report.vips round := by
  obtain ⟨vips, made, all⟩ := describes.serviceVips
  have reported : (report.info round).vips = vips := congrArg (fun found => (Except.toOption found).getD []) made
  rw [InfoReport.vips, reported]
  exact List.mem_map_of_mem (all gw isTask)

theorem Describes.findNetwork {address : String} {ip : Ipv4} (read : Ipv4.read address = some ip)
    (behind : Behind gw ip) :
    reader.findNetwork (report.info round) address = some (networks.name gw.networkId) := by
  obtain ⟨networksCidr, made, all⟩ := describes.subnetsCidr
  have reported : (report.info round).networksCidr.getD [] = networksCidr :=
    congrArg (fun found => (Except.toOption found).getD []) made
  unfold ReportDataRedisReader.findNetwork
  rw [reported]
  cases found : networksCidr.find? fun entry => entry.2.any fun cidr => reader.covers cidr address with
  | none =>
    -- the network of the gateway has the address itself
    have missing := List.find?_eq_none.mp found _ ((all _).mpr ⟨gw, isTask, rfl⟩)
    exact absurd ((describes.behind gw isTask address ip read).mpr behind) missing
  | some entry =>
    obtain ⟨other, isOther, rfl⟩ := (all entry).mp (List.mem_of_find?_eq_some found)
    have covered := List.find?_some found
    -- the address is behind one gateway only
    have behindOther := (describes.behind other isOther address ip read).mp covered
    rw [member.container.apart gw isTask other isOther ip behind behindOther]
    exact congrArg (Option.map Prod.fst) found

end Reports

/-- How packets name the container in the network of a gateway: by its address, or by the virtual IP of its
service, which tells no task. -/
inductive Addressed (networks : Networks) (gw : GatewayTask) : String → Option String → Prop where
  | own : Addressed networks gw gw.addr (some member.key)
  | service : Addressed networks gw (networks.vip member.service (networks.name gw.networkId)) none

/-- The monitor of the container reports, and each of its reports describes it. Nobody else has its address in
the network of a gateway, and the virtual IP there is that of its service only. -/
structure Reports (networks : Networks) (covers : String → String → Bool) (round : Rat → Nat → Rat)
    (reports : List InfoReport) : Prop where
  reported : ∃ report ∈ reports, report.key = member.key
  describes : ∀ report ∈ reports, report.key = member.key → member.Describes networks covers report.host
  own : ∀ gw ∈ member.container.setup.gwTasks, ∀ report ∈ reports, gw.addr ∈ report.addresses round →
    report.key = member.key
  vip : ∀ gw ∈ member.container.setup.gwTasks, ∀ report ∈ reports,
    networks.vip member.service (networks.name gw.networkId) ∈ report.vips round →
      (report.info round).service = some member.service
  apart : ∀ gw ∈ member.container.setup.gwTasks, ∀ report ∈ reports,
    networks.vip member.service (networks.name gw.networkId) ∉ report.addresses round

end Monitored

namespace ReportDataRedisReader

section Collected

variable {reader : ReportDataRedisReader} {round : Rat → Nat → Rat} {reports : List InfoReport}

theorem mem_infos {task : String} {info : NodeInfo} :
    info ∈ reader.infos task ↔ .info info ∈ getInfo reader.store task := by
  unfold infos
  rw [List.mem_filterMap]
  constructor
  · rintro ⟨doc, member, same⟩
    cases doc with
    | info found =>
      cases same
      exact member
    | system | packet | thing => cases same
  · exact fun member => ⟨_, member, rfl⟩

variable (collects : reader.Collects round reports)

include collects

theorem Collects.mem_infos_iff {task : String} {info : NodeInfo} :
    task ∈ getTasks reader.redis reader.store ∧ info ∈ reader.infos task ↔
      ∃ report ∈ reports, report.key = task ∧ report.info round = info := by
  obtain ⟨writes, built, named, told⟩ := collects.written
  rw [mem_infos, built, mem_getTasks named, ← told]
  constructor
  · rintro ⟨⟨other, member⟩, found⟩
    obtain ⟨_, same, member⟩ := (mem_getInfo named (named _ member).task).mp found
    cases same
    exact member
  · intro member
    exact ⟨⟨info, member⟩, (mem_getInfo named (named _ member).task).mpr ⟨info, rfl, member⟩⟩

theorem Collects.mem_allInfos {info : NodeInfo} :
    info ∈ reader.allInfos ↔ ∃ report ∈ reports, report.info round = info := by
  rw [allInfos, List.mem_flatMap]
  constructor
  · rintro ⟨task, isTask, inside⟩
    obtain ⟨report, isReport, -, same⟩ := collects.mem_infos_iff.mp ⟨isTask, inside⟩
    exact ⟨report, isReport, same⟩
  · rintro ⟨report, isReport, same⟩
    exact ⟨report.key, collects.mem_infos_iff.mpr ⟨report, isReport, rfl, same⟩⟩

theorem Collects.mem_flatMap_allInfos {told : NodeInfo → List String} {address : String} :
    address ∈ reader.allInfos.flatMap told ↔ ∃ report ∈ reports, address ∈ told (report.info round) := by
  simp only [List.mem_flatMap, collects.mem_allInfos]
  constructor
  · rintro ⟨_, ⟨report, isReport, rfl⟩, inside⟩
    exact ⟨report, isReport, inside⟩
  · rintro ⟨report, isReport, inside⟩
    exact ⟨_, ⟨report, isReport, rfl⟩, inside⟩

theorem Collects.mem_reportedAddresses {address : String} :
    address ∈ reader.reportedAddresses ↔ ∃ report ∈ reports, address ∈ report.addresses round :=
  collects.mem_flatMap_allInfos

theorem Collects.mem_reportedVips {address : String} :
    address ∈ reader.reportedVips ↔ ∃ report ∈ reports, address ∈ report.vips round :=
  collects.mem_flatMap_allInfos

variable {api : NetworkApi} {member : Monitored api} {networks : Networks}
  (told : member.Reports networks reader.covers round reports) {gw : GatewayTask}
  (isTask : gw ∈ member.container.setup.gwTasks) {task service network : Option String}

include told isTask

theorem Collects.address_own (given : reader.AddressOf gw.addr task service network) :
    task = some member.key ∧ service = some member.service ∧ network = some (networks.name gw.networkId) := by
  obtain ⟨report, isReport, isMember⟩ := told.reported
  have own : gw.addr ∈ report.addresses round := (told.describes report isReport isMember).mem_addresses isTask
  obtain ⟨name, known, info, inside, listed, rfl, rfl, rfl⟩ | ⟨missing, -⟩ := given
  · obtain ⟨other, isOther, rfl, rfl⟩ := collects.mem_infos_iff.mp ⟨known, inside⟩
    -- every report of the address is one of the container
    have same := told.own gw isTask other isOther listed
    have describes := told.describes other isOther same
    obtain ⟨-, ip, read, behind⟩ := behind_of_found (member.container.found isTask)
    exact ⟨congrArg some same, describes.service_eq, describes.findNetwork isTask read behind⟩
  · exact absurd (collects.mem_reportedAddresses.mpr ⟨report, isReport, own⟩) missing

theorem Collects.address_vip
    (given : reader.AddressOf (networks.vip member.service (networks.name gw.networkId)) task service network)
    {vipService : Option String}
    (named : reader.VipOf (networks.vip member.service (networks.name gw.networkId)) vipService) :
    task = none ∧ service = none ∧ network = none ∧ vipService = some member.service := by
  obtain ⟨report, isReport, isMember⟩ := told.reported
  have describes := told.describes report isReport isMember
  have own : networks.vip member.service (networks.name gw.networkId) ∈ report.vips round := describes.mem_vips isTask
  obtain ⟨name, known, info, inside, listed, -⟩ | ⟨-, rfl, rfl, rfl⟩ := given
  · obtain ⟨other, isOther, -, rfl⟩ := collects.mem_infos_iff.mp ⟨known, inside⟩
    exact absurd listed (told.apart gw isTask other isOther)
  · refine ⟨rfl, rfl, rfl, ?_⟩
    obtain ⟨info, inside, listed, rfl⟩ | ⟨missing, -⟩ := named
    · obtain ⟨other, isOther, rfl⟩ := collects.mem_allInfos.mp inside
      exact told.vip gw isTask other isOther listed
    · exact absurd (collects.mem_reportedVips.mpr ⟨report, isReport, own⟩) missing

/-- However a packet names the container, the documents give its service, and its task and network when they
give a task. -/
theorem Collects.addressed {address : String} {named vipService : Option String}
    (addressed : member.Addressed networks gw address named) (given : reader.AddressOf address task service network)
    (vip : reader.VipOf address vipService) : task = named ∧ service.or vipService = some member.service ∧
      network = named.map fun _ => networks.name gw.networkId := by
  cases addressed with
  | own =>
    obtain ⟨rfl, rfl, rfl⟩ := collects.address_own told isTask given
    exact ⟨rfl, rfl, rfl⟩
  | service =>
    obtain ⟨rfl, rfl, rfl, rfl⟩ := collects.address_vip told isTask given vip
    exact ⟨rfl, rfl, rfl⟩

omit told isTask in
theorem Collects.report_of_latest {name : String} {info : NodeInfo} (known : name ∈ getTasks reader.redis reader.store)
    (latest : reader.latestInfo name = some info) : ∃ report ∈ reports, report.key = name ∧ report.info round = info :=
  collects.mem_infos_iff.mp ⟨known, List.mem_of_getLast? latest⟩

omit isTask

theorem Collects.latest_own {taskId : String} (isId : member.container.currTask.item "ID" = .ok (.str taskId))
    (contained : ∀ report ∈ reports, report.host.swarm.currentContainerId ≠ .ok "") :
    member.key ∈ getTasks reader.redis reader.store ∧ ∃ info, reader.latestInfo member.key = some info ∧
      info.taskId = some taskId ∧ info.hasContainer = true := by
  obtain ⟨report, isReport, isMember⟩ := told.reported
  obtain ⟨known, inside⟩ := collects.mem_infos_iff.mpr ⟨report, isReport, isMember, rfl⟩
  obtain ⟨info, latest⟩ := Option.isSome_iff_exists.mp (List.getLast?_isSome.mpr (List.ne_nil_of_mem inside))
  -- the latest document may be that of a later report
  obtain ⟨other, isOther, same, rfl⟩ := collects.report_of_latest known latest
  have describes := told.describes other isOther same
  have ownId : other.host.getTaskId = .ok taskId :=
    bind_ok_iff.mpr ⟨_, describes.currTask, bind_ok_iff.mpr ⟨_, isId, rfl⟩⟩
  obtain ⟨cid, isContainer, -⟩ := bind_ok describes.currTask
  have nonempty : cid ≠ "" := fun empty => contained other isOther (empty ▸ isContainer)
  refine ⟨known, _, latest, toOption_eq_some.mpr ownId, ?_⟩
  have told : (other.info round).containerId = some cid := toOption_eq_some.mpr isContainer
  rw [NodeInfo.hasContainer, told]
  exact decide_eq_true nonempty

/-- The map of keys gives the key of the container to its task only. -/
theorem Collects.value?_key {taskId : String} (isId : member.container.currTask.item "ID" = .ok (.str taskId))
    (unique : ∀ report ∈ reports, report.host.getTaskId = .ok taskId → report.key = member.key)
    (contained : ∀ report ∈ reports, report.host.swarm.currentContainerId ≠ .ok "") {map : Dict String String}
    (mapped : reader.getTaskKeyMap = .ok map) {id : String} :
    Dict.value? map id = some member.key ↔ id = taskId := by
  obtain ⟨known, info, latest, reported, container⟩ := collects.latest_own told isId contained
  constructor
  · intro found
    obtain ⟨other, -, otherLatest, otherReported, -⟩ := reportsId_of_value? mapped found
    rw [latest] at otherLatest
    cases otherLatest
    exact Option.some.inj (otherReported.symm.trans reported)
  · rintro rfl
    obtain ⟨key, found⟩ := exists_value?_of_reports mapped known latest reported container
    obtain ⟨other, otherKnown, otherLatest, otherReported, -⟩ := reportsId_of_value? mapped found
    obtain ⟨report, isReport, rfl, rfl⟩ := collects.report_of_latest otherKnown otherLatest
    -- nobody else reports the task
    rw [found, unique report isReport (toOption_eq_some.mp otherReported)]

end Collected

/-! A client that asks a server through the virtual IP of its service. -/

def tracedApi : NetworkApi := { lanApi with
  inspectNetwork := fun _ => .ok (.dict [("Name", .str "stack_lan"), ("Labels", labelled .network),
    ("IPAM", .dict [("Config", .list [.dict [("Subnet", .str "10.0.1.0/24")]])])]) }

def tracedTask (cid : String) : Value := .dict
  [("ID", .str ("task-" ++ cid)), ("Status", .dict [("ContainerStatus", .dict [("ContainerID", .str cid)])]),
   ("NetworksAttachments", .list [.dict [("Network", .dict [("ID", .str "n1")])]])]

def tracedStack (addr : String) : NetworkStack :=
  ((lanSetup addr).updateRouting ⟨true, some 200, fun _ => true⟩ (RoutingSetup.fresh [(254, "main")]).1).1

theorem tracedStack_configured (addr : String) : ∃ rtTables call, (lanSetup addr).rtableName ∉ rtTables.map Prod.snd ∧
    (lanSetup addr).updateRouting call (RoutingSetup.fresh rtTables).1 = (tracedStack addr, true) :=
  ⟨[(254, "main")], ⟨true, some 200, fun _ => true⟩, by simp [lanSetup], rfl⟩

theorem lanSetup_apart (addr : String) : Apart (lanSetup addr).gwTasks := by
  intro first isFirst second isSecond _ _ _
  rw [List.mem_singleton.mp isFirst, List.mem_singleton.mp isSecond]

def tracedContainer (addr cid : String)
    (discovered : gatewayTasks tracedApi (lanIfaces addr) (tracedTask cid) = .ok [lanGateway addr]) :
    Container tracedApi where
  ifaces := lanIfaces addr
  currTask := tracedTask cid
  setup := lanSetup addr
  stack := tracedStack addr
  discovered
  configured := tracedStack_configured addr
  marks := Int.one_ne_zero
  apart := lanSetup_apart addr

def tracedHost (addr cid service vip : String) : Host where
  environ := [("SERVICE_NAME", service)]
  netIfAddrs := [("lo", [⟨2, "127.0.0.1"⟩]), ("eth1", [⟨2, addr⟩])]
  api := tracedApi
  swarm := ⟨⟨fun _ => .error .notFound, .ok [tracedTask cid], fun _ => .ok []⟩, .ok cid⟩
  nslookup := fun name => .ok ("Server:\t127.0.0.11\n\nName:\t" ++ name ++ "\nAddress: " ++ vip ++ "\n")
  answers := SystemMonitor.bootCounters.answers ⟨1, Nat.one_pos⟩
  state := .initial

def tracedNetworks : Networks where
  name := fun _ => "stack_lan"
  subnets := fun _ => ["10.0.1.0/24"]
  vip := fun service _ => if service = "stack_client" then "10.0.1.4" else "10.0.1.5"

/-- `netaddr` on addresses and networks of version 4. -/
def tracedCovers (cidr address : String) : Bool :=
  (Block.read cidr).any fun block => (Ipv4.read address).any block.holds

theorem traced_describes {member : Monitored tracedApi} {addr cid service vip : String}
    (ifaces : member.container.ifaces = lanIfaces addr) (task : member.container.currTask = tracedTask cid)
    (gateways : member.container.setup.gwTasks = [lanGateway addr]) (named : member.service = service)
    (current : getCurrentTask (tracedHost addr cid service vip).swarm = .ok (tracedTask cid))
    (resolved : ∃ output, (tracedHost addr cid service vip).nslookup (service ++ "." ++ "stack_lan") = .ok output ∧
      searchVip output = some (tracedNetworks.vip service "stack_lan")) :
    member.Describes tracedNetworks tracedCovers (tracedHost addr cid service vip) := by
  have isLan : ∀ gw ∈ member.container.setup.gwTasks, gw = lanGateway addr := by
    intro gw isTask
    rw [gateways] at isTask
    exact List.mem_singleton.mp isTask
  constructor
  case asks => rfl
  case currTask => rw [current, task]
  case service => rw [named]; rfl
  case ifaces =>
    rw [ifaces]
    intro iface addrs isIface ifaddr isAddr
    simp only [lanIfaces, List.mem_cons, Prod.mk.injEq, List.not_mem_nil, or_false] at isIface
    obtain ⟨rfl, rfl⟩ | ⟨rfl, rfl⟩ := isIface <;> rw [List.mem_singleton.mp isAddr] <;> simp [tracedHost, afInet]
  case outside =>
    intro gw isTask
    rw [isLan gw isTask]
    simp [lanGateway, ifaceLo]
  case tells =>
    intro gw _
    exact ⟨_, rfl, rfl, rfl⟩
  case behind =>
    intro gw isTask address ip read
    rw [isLan gw isTask]
    simp [tracedNetworks, tracedCovers, read, Behind, subnet, lanGateway]
  case named =>
    intro gw isTask other isOther _
    rw [isLan gw isTask, isLan other isOther]
  case resolves =>
    intro gw _
    rw [named]
    exact resolved

def tracedClient : Monitored tracedApi := ⟨tracedContainer "10.0.1.9" "c9" rfl, "client.1", "stack_client"⟩

def tracedServer : Monitored tracedApi := ⟨tracedContainer "10.0.1.10" "c10" rfl, "server.1", "stack_server"⟩

def tracedReports : List InfoReport :=
  [⟨"client.1", tracedHost "10.0.1.9" "c9" "stack_client" "10.0.1.4", 5⟩,
   ⟨"server.1", tracedHost "10.0.1.10" "c10" "stack_server" "10.0.1.5", 6⟩]

def unrounded (x : Rat) (_ : Nat) : Rat := x

def tracedWrites : List Write :=
  tracedReports.map (fun report => .info report.key (report.info unrounded)) ++
    [.packets "server.1" "eth1" [⟨7, 90, "10.0.1.9", "10.0.1.5", "http", "tcp", some 40000, some 80⟩]]

def tracedReader : ReportDataRedisReader where
  redis := Redis.plain
  store := runWrites Redis.plain tracedWrites
  pandas := Pandas.plain
  covers := tracedCovers

theorem tracedReader_collects : tracedReader.Collects unrounded tracedReports := by
  have names : TaskName "client.1" ∧ TaskName "server.1" := by
    constructor <;> simp [TaskName]
  refine ⟨tracedWrites, rfl, ?_, fun key info => ?_⟩
  · intro write member
    simp only [tracedWrites, tracedReports, List.map_cons, List.map_nil, List.cons_append, List.nil_append,
      List.mem_cons, List.not_mem_nil, or_false] at member
    rcases member with rfl | rfl | rfl
    · exact ⟨names.1, fun _ _ _ same => (by cases same)⟩
    · exact ⟨names.2, fun _ _ _ same => (by cases same)⟩
    · exact ⟨names.2, fun _ _ _ same => (by cases same; decide)⟩
  · simp [tracedWrites]

theorem traced_reports {member : Monitored tracedApi} {report : InfoReport} (isReport : report ∈ tracedReports)
    (isMember : report.key = member.key)
    (describes : member.Describes tracedNetworks tracedCovers report.host)
    (own : ∀ gw ∈ member.container.setup.gwTasks, ∀ other ∈ tracedReports, gw.addr ∈ other.addresses unrounded →
      other.key = member.key)
    (vip : ∀ gw ∈ member.container.setup.gwTasks, ∀ other ∈ tracedReports,
      tracedNetworks.vip member.service (tracedNetworks.name gw.networkId) ∈ other.vips unrounded →
        (other.info unrounded).service = some member.service)
    (apart : ∀ gw ∈ member.container.setup.gwTasks, ∀ other ∈ tracedReports,
      tracedNetworks.vip member.service (tracedNetworks.name gw.networkId) ∉ other.addresses unrounded) :
    member.Reports tracedNetworks tracedCovers unrounded tracedReports where
  reported := ⟨report, isReport, isMember⟩
  describes := by
    intro other isOther same
    have keys : (tracedReports.map InfoReport.key).Nodup := by decide
    rw [List.inj_on_of_nodup_map keys isOther isReport (same.trans isMember.symm)]
    exact describes
  own := own
  vip := vip
  apart := apart

theorem tracedClient_reports : tracedClient.Reports tracedNetworks tracedCovers unrounded tracedReports :=
  traced_reports List.mem_cons_self rfl (traced_describes rfl rfl rfl rfl rfl ⟨_, rfl, by decide +kernel⟩)
    (by decide +kernel) (by decide +kernel) (by decide +kernel)

theorem tracedServer_reports : tracedServer.Reports tracedNetworks tracedCovers unrounded tracedReports :=
  traced_reports (List.mem_cons_of_mem _ List.mem_cons_self) rfl
    (traced_describes rfl rfl rfl rfl rfl ⟨_, rfl, by decide +kernel⟩)
    (by decide +kernel) (by decide +kernel) (by decide +kernel)

theorem tracedTime_parses : ∃ time, parseDockerTime "2020-11-17T10:20:30.123Z" = .ok time := ⟨_, rfl⟩

def tracedTime : DockerTime := ⟨"2020-11-17T10:20:30.123Z", tracedTime_parses⟩

def tracedSnapshot : SortedSet Snapshot :=
  let task : SnapshotTask := ⟨"running", some "n1", some "s1", tracedTime, tracedTime, none⟩
  [(9, [("task-c9", ⟨task, none⟩), ("task-c11", ⟨task, none⟩)])]

end ReportDataRedisReader

end Wotemu
