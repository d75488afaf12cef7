import Mathlib.Data.List.MinMax
import Wotemu.Cli.Gateways

/-! Where the packets of a container go after the routing configuration.

A packet that leaves by the interface of a gateway with one of the configured
ports is marked, and the marked packets to the addresses behind such an
interface are handed to the gateway. Everything else is left to the main table.
-/

set_option autoImplicit false

namespace Wotemu.Diversion

open Wotemu.Foundation Wotemu.Replicas Wotemu.Gateways

structure Packet where
  proto : Proto
  sport : Int
  dport : Int
  dst : Ipv4
  dev : String

inductive Hop where
  | direct (dev : String)
  | via (address dev : String)
  deriving DecidableEq

section Kernel

def Packet.port (packet : Packet) : PortSide → Int
  | .dport => packet.dport
  | .sport => packet.sport

def matchesRule (packet : Packet) (rule : PortRule) : Bool :=
  rule.iface = packet.dev ∧ rule.proto = packet.proto ∧ rule.port = packet.port rule.side

variable (stack : NetworkStack)

/-- The rules are all passed, so the last one that matches decides. Other packets have the mark 0. -/
def mark (packet : Packet) : Int :=
  (((stack.mangle.filter (matchesRule packet)).getLast?).map PortRule.mark).getD 0

def leadsTo (address : Ipv4) (route : Route) : Bool := (Block.read route.cidr).any (·.holds address)

def bits (route : Route) : Nat := ((Block.read route.cidr).map fun block => block.length.val).getD 0

/-- The routes of a table that lead to the address, and of these the most specific one. -/
def lookup (table : String) (address : Ipv4) : Option Route :=
  (stack.routes.filter fun route => route.table = table && leadsTo address route).argmax bits

/-- The rules for the mark of the packet, of which the latest comes first, and the main table after them. -/
def nextHop (packet : Packet) : Hop :=
  let rules := stack.rules.reverse.filter fun rule => rule.fwmark = mark stack packet
  match rules.findSome? fun rule => lookup stack rule.table packet.dst with
  | some route => .via route.via route.dev
  | none => .direct packet.dev

end Kernel

def Behind (gw : GatewayTask) (address : Ipv4) : Prop := (subnet gw).any (·.holds address) = true

def Apart (gwTasks : List GatewayTask) : Prop :=
  ∀ first ∈ gwTasks, ∀ second ∈ gwTasks, ∀ address, Behind first address → Behind second address → first = second

/-- A container with new tables whose routing configuration has returned. -/
structure Container (api : NetworkApi) where
  ifaces : Ifaces
  currTask : Value
  setup : RoutingSetup
  stack : NetworkStack
  discovered : gatewayTasks api ifaces currTask = .ok setup.gwTasks
  configured : ∃ rtTables call, setup.rtableName ∉ rtTables.map Prod.snd ∧
    setup.updateRouting call (RoutingSetup.fresh rtTables).1 = (stack, true)
  marks : setup.rtableMark ≠ 0
  apart : Apart setup.gwTasks

def portsOf (conf : PortConfig) : Proto → List Int
  | .tcp => conf.portsTcp
  | .udp => conf.portsUdp

/-- The packet has a port of the configuration at one of its ends. -/
def Carried (conf : PortConfig) (packet : Packet) : Prop := ∃ side, packet.port side ∈ portsOf conf packet.proto

section Commands

variable {setup : RoutingSetup} {stack result : NetworkStack}

theorem effects_of_runCommands {succeeds : Nat → Bool} {commands : List RoutingCommand} {position : Nat}
    (ran : runCommands succeeds position commands stack = (result, true)) :
    result = RoutingSetup.effects stack commands := by
  induction commands generalizing position stack with
  | nil =>
    cases ran
    rfl
  | cons command rest ih =>
    rw [runCommands] at ran
    -- the first failure would have ended the list
    split at ran
    · exact ih ran
    · cases ran

theorem effects_append (first second : List RoutingCommand) :
    RoutingSetup.effects stack (first ++ second) =
      RoutingSetup.effects (RoutingSetup.effects stack first) second :=
  List.foldl_append

theorem effects_network (rtindex : Nat) (gw : GatewayTask) : ∃ rtTables,
    RoutingSetup.effects stack (setup.buildRoutingCommands rtindex gw) =
      ⟨rtTables, stack.routes ++ [setup.route gw], stack.rules ++ [setup.fwmarkRule],
        stack.mangle ++ setup.portRules gw⟩ := by
  obtain ⟨rtTables, registered, -⟩ := RoutingSetup.effect_register stack rtindex setup.rtableName
  refine ⟨rtTables, ?_⟩
  rw [RoutingSetup.buildRoutingCommands, effects_append, RoutingSetup.effects_iptables]
  simp only [RoutingSetup.effects_cons, registered]
  rfl

theorem effects_networks (rtindex : Nat) (gwTasks : List GatewayTask) : ∃ rtTables,
    RoutingSetup.effects stack (gwTasks.flatMap (setup.buildRoutingCommands rtindex)) =
      ⟨rtTables, stack.routes ++ gwTasks.map setup.route, stack.rules ++ gwTasks.map fun _ => setup.fwmarkRule,
        stack.mangle ++ gwTasks.flatMap setup.portRules⟩ := by
  induction gwTasks generalizing stack with
  | nil => exact ⟨stack.rtTables, by simp [RoutingSetup.effects]⟩
  | cons gw rest ih =>
    obtain ⟨before, first⟩ := @effects_network setup stack rtindex gw
    obtain ⟨rtTables, later⟩ := @ih ⟨before, stack.routes ++ [setup.route gw],
      stack.rules ++ [setup.fwmarkRule], stack.mangle ++ setup.portRules gw⟩
    refine ⟨rtTables, ?_⟩
    rw [List.flatMap_cons, effects_append, first, later]
    simp

/-- What a configuration that returns leaves in new tables. -/
theorem updateRouting_fresh {rtTables : List (Nat × String)} {call : RoutingCall}
    (unregistered : setup.rtableName ∉ rtTables.map Prod.snd)
    (returned : setup.updateRouting call (RoutingSetup.fresh rtTables).1 = (stack, true)) :
    stack.routes = setup.gwTasks.map setup.route ∧ stack.rules = setup.gwTasks.map (fun _ => setup.fwmarkRule) ∧
      stack.mangle = setup.gwTasks.flatMap setup.portRules := by
  have missing : rtableExists setup.rtableName (RoutingSetup.fresh rtTables).1 = false := decide_eq_false unregistered
  unfold RoutingSetup.updateRouting at returned
  split at returned
  · cases returned
  · rw [missing] at returned
    simp only [Bool.false_eq_true, if_false] at returned
    split at returned
    · cases returned
    · rename_i rtindex _
      obtain ⟨after, effects⟩ := @effects_networks setup (RoutingSetup.fresh rtTables).1 rtindex setup.gwTasks
      have same := (effects_of_runCommands returned).trans effects
      rw [same]
      exact ⟨rfl, rfl, rfl⟩

end Commands

section Packets

variable {setup : RoutingSetup} {packet : Packet} {stack : NetworkStack}

theorem mem_portRules {gw : GatewayTask} {rule : PortRule} : rule ∈ setup.portRules gw ↔ ∃ proto side port,
    port ∈ portsOf setup.conf proto ∧ rule = ⟨gw.ifname, proto, side, port, setup.rtableMark⟩ := by
  have sides : ∀ proto port, rule ∈ setup.buildIptablesRules gw proto port ↔
      ∃ side, rule = ⟨gw.ifname, proto, side, port, setup.rtableMark⟩ := by
    intro proto port
    simp only [RoutingSetup.buildIptablesRules, List.mem_cons, List.not_mem_nil, or_false]
    constructor
    · rintro (same | same)
      · exact ⟨.dport, same⟩
      · exact ⟨.sport, same⟩
    · rintro ⟨side, same⟩
      cases side with
      | dport => exact .inl same
      | sport => exact .inr same
  simp only [RoutingSetup.portRules, List.mem_append, List.mem_flatMap, sides]
  constructor
  · rintro (⟨port, listed, side, same⟩ | ⟨port, listed, side, same⟩)
    · exact ⟨.tcp, side, port, listed, same⟩
    · exact ⟨.udp, side, port, listed, same⟩
  · rintro ⟨proto, side, port, listed, same⟩
    cases proto with
    | tcp => exact .inl ⟨port, listed, side, same⟩
    | udp => exact .inr ⟨port, listed, side, same⟩

theorem matches_portRules {gw : GatewayTask} : (∃ rule ∈ setup.portRules gw, matchesRule packet rule = true) ↔
    gw.ifname = packet.dev ∧ Carried setup.conf packet := by
  constructor
  · rintro ⟨rule, member, found⟩
    obtain ⟨proto, side, port, listed, rfl⟩ := mem_portRules.mp member
    obtain ⟨iface, same, here⟩ := of_decide_eq_true found
    refine ⟨iface, side, ?_⟩
    rw [← same, ← here]
    exact listed
  · rintro ⟨iface, side, listed⟩
    exact ⟨_, mem_portRules.mpr ⟨packet.proto, side, _, listed, rfl⟩, decide_eq_true ⟨iface, rfl, rfl⟩⟩

/-- A packet gets the mark of the configuration, or none. -/
theorem mark_eq (marks : setup.rtableMark ≠ 0) (mangle : stack.mangle = setup.gwTasks.flatMap setup.portRules) :
    mark stack packet = setup.rtableMark ↔
      (∃ gw ∈ setup.gwTasks, gw.ifname = packet.dev) ∧ Carried setup.conf packet := by
  have found : (∃ rule ∈ stack.mangle, matchesRule packet rule = true) ↔
      (∃ gw ∈ setup.gwTasks, gw.ifname = packet.dev) ∧ Carried setup.conf packet := by
    rw [mangle]
    constructor
    · rintro ⟨rule, member, matched⟩
      obtain ⟨gw, isTask, member⟩ := List.mem_flatMap.mp member
      obtain ⟨named, carried⟩ := matches_portRules.mp ⟨rule, member, matched⟩
      exact ⟨⟨gw, isTask, named⟩, carried⟩
    · rintro ⟨⟨gw, isTask, named⟩, carried⟩
      obtain ⟨rule, member, matched⟩ := matches_portRules.mpr ⟨named, carried⟩
      exact ⟨rule, List.mem_flatMap.mpr ⟨gw, isTask, member⟩, matched⟩
  -- every rule sets the same mark
  have marked : ∀ rule ∈ stack.mangle, rule.mark = setup.rtableMark := by
    rw [mangle]
    intro rule member
    obtain ⟨gw, -, member⟩ := List.mem_flatMap.mp member
    obtain ⟨proto, side, port, -, rfl⟩ := mem_portRules.mp member
    rfl
  rw [← found]
  unfold mark
  cases last : (stack.mangle.filter (matchesRule packet)).getLast? with
  | none =>
    rw [List.getLast?_eq_none_iff, List.filter_eq_nil_iff] at last
    exact iff_of_false (fun same => marks same.symm) fun ⟨rule, member, matched⟩ => last rule member matched
  | some rule =>
    obtain ⟨member, matched⟩ := List.mem_filter.mp (List.mem_of_getLast? last)
    exact iff_of_true (marked rule member) ⟨rule, member, matched⟩

theorem leadsTo_route {gw : GatewayTask} {address : Ipv4} :
    leadsTo address (setup.route gw) = true ↔ Behind gw address := Iff.rfl

theorem lookup_some {table : String} {address : Ipv4} {route : Route}
    (routes : stack.routes = setup.gwTasks.map setup.route) (found : lookup stack table address = some route) :
    ∃ gw ∈ setup.gwTasks, Behind gw address ∧ setup.route gw = route := by
  have member := List.argmax_mem (Option.mem_def.mpr found)
  rw [routes] at member
  obtain ⟨isRoute, leads⟩ := List.mem_filter.mp member
  obtain ⟨gw, isTask, rfl⟩ := List.mem_map.mp isRoute
  exact ⟨gw, isTask, leadsTo_route.mp (Bool.and_eq_true_iff.mp leads).2, rfl⟩

theorem lookup_eq {address : Ipv4} {gw : GatewayTask} (routes : stack.routes = setup.gwTasks.map setup.route)
    (apart : Apart setup.gwTasks) (isTask : gw ∈ setup.gwTasks) (behind : Behind gw address) :
    lookup stack setup.rtableName address = some (setup.route gw) := by
  cases found : lookup stack setup.rtableName address with
  | none =>
    rw [lookup, List.argmax_eq_none, List.filter_eq_nil_iff, routes] at found
    exact absurd (Bool.and_eq_true_iff.mpr ⟨decide_eq_true rfl, leadsTo_route.mpr behind⟩)
      (found _ (List.mem_map_of_mem isTask))
  | some route =>
    obtain ⟨other, isOther, behindOther, rfl⟩ := lookup_some routes found
    rw [apart gw isTask other isOther address behind behindOther]

/-- The packets that are handed to a gateway. -/
theorem nextHop_eq_via_iff {address dev : String} (marks : setup.rtableMark ≠ 0) (apart : Apart setup.gwTasks)
    (routes : stack.routes = setup.gwTasks.map setup.route)
    (rules : stack.rules = setup.gwTasks.map fun _ => setup.fwmarkRule)
    (mangle : stack.mangle = setup.gwTasks.flatMap setup.portRules) :
    nextHop stack packet = .via address dev ↔ Carried setup.conf packet ∧
      (∃ gw ∈ setup.gwTasks, gw.ifname = packet.dev) ∧
      ∃ gw ∈ setup.gwTasks, Behind gw packet.dst ∧ gw.endpointIp = address ∧ gw.ifname = dev := by
  have isRule : ∀ rule ∈ stack.rules, rule = setup.fwmarkRule := by
    rw [rules]
    intro rule member
    obtain ⟨gw, -, rfl⟩ := List.mem_map.mp member
    rfl
  unfold nextHop
  dsimp only
  cases found : (stack.rules.reverse.filter fun rule => decide (rule.fwmark = mark stack packet)).findSome?
      fun rule => lookup stack rule.table packet.dst with
  | none =>
    rw [List.findSome?_eq_none_iff] at found
    refine iff_of_false (by simp) ?_
    rintro ⟨carried, leaves, gw, isTask, behind, -⟩
    -- the rule of the gateway asks the table
    have member : setup.fwmarkRule ∈ stack.rules := by
      rw [rules]
      exact List.mem_map.mpr ⟨gw, isTask, rfl⟩
    have marked := (mark_eq marks mangle).mpr ⟨leaves, carried⟩
    have missing := found setup.fwmarkRule
      (List.mem_filter.mpr ⟨List.mem_reverse.mpr member, decide_eq_true marked.symm⟩)
    rw [show setup.fwmarkRule.table = setup.rtableName from rfl, lookup_eq routes apart isTask behind] at missing
    cases missing
  | some route =>
    obtain ⟨rule, member, looked⟩ := List.exists_of_findSome?_eq_some found
    obtain ⟨member, marked⟩ := List.mem_filter.mp member
    have same := isRule rule (List.mem_reverse.mp member)
    rw [same] at marked
    obtain ⟨leaves, carried⟩ := (mark_eq marks mangle).mp (of_decide_eq_true marked).symm
    obtain ⟨gw, isTask, behind, rfl⟩ := lookup_some routes looked
    simp only [Hop.via.injEq]
    constructor
    · rintro ⟨here, out⟩
      exact ⟨carried, leaves, gw, isTask, behind, here, out⟩
    · rintro ⟨-, -, other, isOther, behindOther, here, out⟩
      rw [apart gw isTask other isOther packet.dst behind behindOther]
      exact ⟨here, out⟩

end Packets

section Containers

variable {api : NetworkApi}

theorem Container.tables (container : Container api) :
    container.stack.routes = container.setup.gwTasks.map container.setup.route ∧
      container.stack.rules = container.setup.gwTasks.map (fun _ => container.setup.fwmarkRule) ∧
      container.stack.mangle = container.setup.gwTasks.flatMap container.setup.portRules := by
  obtain ⟨rtTables, call, unregistered, returned⟩ := container.configured
  exact updateRouting_fresh unregistered returned

theorem Container.nextHop_iff (container : Container api) {packet : Packet} {address dev : String} :
    nextHop container.stack packet = .via address dev ↔ Carried container.setup.conf packet ∧
      (∃ gw ∈ container.setup.gwTasks, gw.ifname = packet.dev) ∧
      ∃ gw ∈ container.setup.gwTasks, Behind gw packet.dst ∧ gw.endpointIp = address ∧ gw.ifname = dev := by
  obtain ⟨routes, rules, mangle⟩ := container.tables
  exact nextHop_eq_via_iff container.marks container.apart routes rules mangle

theorem Container.found (container : Container api) {gw : GatewayTask} (isTask : gw ∈ container.setup.gwTasks) :
    Found api container.ifaces gw := found_of_mem container.discovered isTask

theorem behind_of_found {ifaces : Ifaces} {gw : GatewayTask} (found : Found api ifaces gw) :
    (∃ endpoint, Ipv4.read gw.endpointIp = some endpoint ∧ Behind gw endpoint) ∧
      ∃ own, Ipv4.read gw.addr = some own ∧ Behind gw own := by
  obtain ⟨block, endpoint, own, same, read, holds, readOwn, holdsOwn⟩ := found.subnet
  refine ⟨⟨endpoint, read, ?_⟩, own, readOwn, ?_⟩
  · rw [Behind, same]
    exact holds
  · rw [Behind, same]
    exact holdsOwn

/-- The monitor of a container captures the packets on the interfaces by which packets leave for a gateway,
and on no others. -/
theorem monitored_iff_handed (container : Container api) : ∃ ifaces,
    getMonitorIfaces api container.ifaces container.currTask = .ok ifaces ∧
      ∀ dev, dev ∈ ifaces ↔ ∃ packet address, packet.dev = dev ∧ nextHop container.stack packet = .via address dev := by
  refine ⟨_, getMonitorIfaces_eq container.discovered, fun dev => ?_⟩
  rw [List.mem_map]
  constructor
  · rintro ⟨gw, isTask, rfl⟩
    obtain ⟨⟨endpoint, -, behind⟩, -⟩ := behind_of_found (container.found isTask)
    -- a request to the gateway itself
    refine ⟨⟨.tcp, 0, container.setup.conf.portHttp, endpoint, gw.ifname⟩, gw.endpointIp, rfl, ?_⟩
    exact container.nextHop_iff.mpr ⟨⟨.dport, List.mem_cons_self⟩, ⟨gw, isTask, rfl⟩, gw, isTask, behind, rfl, rfl⟩
  · rintro ⟨packet, address, -, handed⟩
    obtain ⟨-, -, gw, isTask, -, -, out⟩ := container.nextHop_iff.mp handed
    exact ⟨gw, isTask, out⟩

/-- The gateways that two containers find for one network are the same, and with ranges of one length so are
the addresses behind their interfaces. -/
theorem behind_iff_of_shared {ifaces others : Ifaces} {gw other : GatewayTask} (found : Found api ifaces gw)
    (foundOther : Found api others other) (shared : gw.networkId = other.networkId)
    (sameLength : (subnet gw).map Block.length = (subnet other).map Block.length) :
    gw.endpointIp = other.endpointIp ∧ ∀ address, Behind gw address ↔ Behind other address := by
  obtain ⟨gwTask, looked, endpoint⟩ := found.task
  obtain ⟨otherTask, lookedOther, endpointOther⟩ := foundOther.task
  rw [shared, lookedOther] at looked
  cases looked
  have same : gw.endpointIp = other.endpointIp := by
    rw [endpointOther] at endpoint
    exact (Value.str.inj (Except.ok.inj endpoint)).symm
  refine ⟨same, fun address => ?_⟩
  obtain ⟨block, endpoint, -, isSubnet, read, holds, -⟩ := found.subnet
  obtain ⟨otherBlock, otherEndpoint, -, isOther, readOther, holdsOther, -⟩ := foundOther.subnet
  rw [same, readOther] at read
  cases read
  rw [isSubnet, isOther] at sameLength
  have members := Block.holds_of_shared (Option.some.inj sameLength) holds holdsOther
  rw [Behind, Behind, isSubnet, isOther, Option.any_some, Option.any_some, members]

/-- An answer goes back between the ports of the request. -/
structure Answers (request reply : Packet) : Prop where
  proto : reply.proto = request.proto
  sport : reply.sport = request.dport
  dport : reply.dport = request.sport

theorem Answers.carried {request reply : Packet} (answers : Answers request reply) {conf : PortConfig}
    (carried : Carried conf request) : Carried conf reply := by
  obtain ⟨side, listed⟩ := carried
  rw [Carried, answers.proto]
  cases side with
  | dport => exact ⟨.sport, by rw [Packet.port, answers.sport]; exact listed⟩
  | sport => exact ⟨.dport, by rw [Packet.port, answers.dport]; exact listed⟩

/-- A request between two containers of a network and its answer both cross the gateway of the network. -/
theorem exchange_crosses_gateway (client server : Container api) {clientGw serverGw : GatewayTask}
    (isClient : clientGw ∈ client.setup.gwTasks) (isServer : serverGw ∈ server.setup.gwTasks)
    (shared : clientGw.networkId = serverGw.networkId)
    (sameLength : (subnet clientGw).map Block.length = (subnet serverGw).map Block.length)
    (sameConf : client.setup.conf = server.setup.conf) {request reply : Packet}
    (carried : Carried client.setup.conf request) (answers : Answers request reply)
    (leaves : request.dev = clientGw.ifname ∧ Ipv4.read serverGw.addr = some request.dst)
    (returns : reply.dev = serverGw.ifname ∧ Ipv4.read clientGw.addr = some reply.dst) :
    ∃ gwTask address, getNetworkGatewayTask api clientGw.networkId = .ok gwTask ∧
      gwTask.item "EndpointIP" = .ok (.str address) ∧
      nextHop client.stack request = .via address clientGw.ifname ∧
      nextHop server.stack reply = .via address serverGw.ifname := by
  have clientFound := client.found isClient
  have serverFound := server.found isServer
  obtain ⟨same, behind⟩ := behind_iff_of_shared clientFound serverFound shared sameLength
  obtain ⟨-, clientOwn, readClient, behindClient⟩ := behind_of_found clientFound
  obtain ⟨-, serverOwn, readServer, behindServer⟩ := behind_of_found serverFound
  -- both containers have the same subnetwork behind their interfaces
  have toServer : Behind clientGw request.dst := by
    rw [behind]
    rw [leaves.2] at readServer
    cases readServer
    exact behindServer
  have toClient : Behind serverGw reply.dst := by
    rw [← behind]
    rw [returns.2] at readClient
    cases readClient
    exact behindClient
  obtain ⟨gwTask, looked, endpoint⟩ := clientFound.task
  refine ⟨gwTask, clientGw.endpointIp, looked, endpoint, ?_, ?_⟩
  · exact client.nextHop_iff.mpr
      ⟨carried, ⟨clientGw, isClient, leaves.1.symm⟩, clientGw, isClient, toServer, rfl, rfl⟩
  · exact server.nextHop_iff.mpr ⟨answers.carried (sameConf ▸ carried),
      ⟨serverGw, isServer, returns.1.symm⟩, serverGw, isServer, toClient, same.symm, rfl⟩

/-! Two containers of one network. -/

def lanApi : NetworkApi where
  inspectNetwork _ := .ok (.dict [("Name", .str "lan"), ("Labels", labelled .network)])
  inspectNetworkVerbose _ := .ok (.dict [("Services", .dict
    [("", .dict [("Tasks", .list [])]),
     ("stack_gw_lan", .dict [("Tasks", .list
       [.dict [("Name", .str "stack_gw_lan.1"), ("EndpointIP", .str "10.0.1.2")]])])])])
  inspectTask _ := .ok (.dict [("Spec", .dict [("ContainerSpec", .dict [("Labels", labelled .gateway)])])])

def lanTask : Value := .dict [("NetworksAttachments", .list [.dict [("Network", .dict [("ID", .str "n1")])]])]

def lanIfaces (addr : String) : Ifaces := [("lo", [⟨"127.0.0.1", "255.0.0.0"⟩]), ("eth1", [⟨addr, "255.255.255.0"⟩])]

def lanGateway (addr : String) : GatewayTask := ⟨"n1", "10.0.1.2", "eth1", addr, "10.0.1.0/24"⟩

def lanSetup (addr : String) : RoutingSetup where
  conf := ⟨80, 81, 1883, 5683, none, none⟩
  rtableName := "wotemu"
  rtableMark := 1
  gwTasks := [lanGateway addr]

def lanContainer (addr : String)
    (discovered : gatewayTasks lanApi (lanIfaces addr) lanTask = .ok [lanGateway addr]) : Container lanApi where
  ifaces := lanIfaces addr
  currTask := lanTask
  setup := lanSetup addr
  stack := ((lanSetup addr).updateRouting ⟨true, some 200, fun _ => true⟩ (RoutingSetup.fresh [(254, "main")]).1).1
  discovered := discovered
  configured := ⟨[(254, "main")], ⟨true, some 200, fun _ => true⟩, by simp [lanSetup], rfl⟩
  marks := Int.one_ne_zero
  apart := by
    intro first isFirst second isSecond _ _ _
    rw [List.mem_singleton.mp isFirst, List.mem_singleton.mp isSecond]

def lanClient : Container lanApi := lanContainer "10.0.1.9" rfl

def lanServer : Container lanApi := lanContainer "10.0.1.10" rfl

def lanRequest : Packet := ⟨.tcp, 40000, 80, 167772426, "eth1"⟩

def lanReply : Packet := ⟨.tcp, 80, 40000, 167772425, "eth1"⟩

theorem lan_exchange_crosses : ∃ gwTask address, getNetworkGatewayTask lanApi "n1" = .ok gwTask ∧
    gwTask.item "EndpointIP" = .ok (.str address) ∧ nextHop lanClient.stack lanRequest = .via address "eth1" ∧
    nextHop lanServer.stack lanReply = .via address "eth1" :=
  exchange_crosses_gateway lanClient lanServer (List.mem_singleton_self (lanGateway "10.0.1.9"))
    (List.mem_singleton_self (lanGateway "10.0.1.10")) rfl rfl rfl
    ⟨.dport, (by decide : (80 : Int) ∈ (lanSetup "10.0.1.9").conf.portsTcp)⟩ ⟨rfl, rfl, rfl⟩
    ⟨rfl, (by decide +kernel : Ipv4.read "10.0.1.10" = some 167772426)⟩
    ⟨rfl, (by decide +kernel : Ipv4.read "10.0.1.9" = some 167772425)⟩

end Containers

end Wotemu.Diversion
