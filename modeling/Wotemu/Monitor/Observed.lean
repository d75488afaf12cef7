import Wotemu.Cli.Serving

/-! What the monitor of an app sees of the servers of the app.

The app starts its monitor on the interfaces of the gateways, in the container
that the script has configured. Every packet of a server that the container
hands to a gateway is recorded, with its ports.
-/

set_option autoImplicit false

namespace Wotemu

open Wotemu.Foundation Wotemu.Gateways

structure AppStart (api : NetworkApi) (entry : Value) where
  σ : Type
  run : Preparation → σ → σ × Bool
  stack : σ → NetworkStack
  setup : RoutingSetup
  ifaces : Ifaces
  currTask : Value
  state : σ
  next : σ
  argv : List String
  routes : Routes run stack setup
  decoded : setup.conf = portConfig (getEnvConfig (containerGetenv entry))
  discovered : gatewayTasks api ifaces currTask = .ok setup.gwTasks
  marks : setup.rtableMark ≠ 0
  apart : Diversion.Apart setup.gwTasks
  fresh : ∃ rtTables, setup.rtableName ∉ rtTables.map Prod.snd ∧ stack state = (RoutingSetup.fresh rtTables).1
  booted : boot (containerGetenv entry) run (entry.listed "command") state = (next, some argv)

namespace AppStart

variable {api : NetworkApi} {entry : Value}

theorem configured (start : AppStart api entry) (routed : RoutedCommand (entry.listed "command")) :
    ∃ container : Diversion.Container api, container.stack = start.stack start.next ∧
      container.setup = start.setup := by
  obtain ⟨rtTables, unregistered, untouched⟩ := start.fresh
  obtain ⟨call, returned⟩ := configured_of_boot start.routes routed start.booted
  rw [untouched] at returned
  exact ⟨⟨start.ifaces, start.currTask, start.setup, start.stack start.next, start.discovered,
    ⟨rtTables, call, unregistered, returned⟩, start.marks, start.apart⟩, rfl, rfl⟩

end AppStart

/-- A packet of a server, as its monitor sees it: it goes to a gateway when it leaves by a captured interface
for the addresses behind one, the interface that it is handed to is captured, and every capture records it. -/
structure Observed (setup : RoutingSetup) (stack : NetworkStack) (ifaces : List String) (conf : EnvConfig)
    (packet : Diversion.Packet) : Prop where
  handed : ∀ address dev, Diversion.nextHop stack packet = .via address dev ↔ packet.dev ∈ ifaces ∧
    ∃ gw ∈ setup.gwTasks, Diversion.Behind gw packet.dst ∧ gw.endpointIp = address ∧ gw.ifname = dev
  captured : ∀ address dev, Diversion.nextHop stack packet = .via address dev → dev ∈ ifaces
  recorded : ∀ shown : Dissection, shown.Shows packet → shown.passes (buildDisplayFilter conf) = true ∧
    ∃ record : Packet, shown.packetToDict = .ok record ∧
      record.srcport.map Int.ofNat = some packet.sport ∧ record.dstport.map Int.ofNat = some packet.dport

section Nodes

variable {rt : Runtime} {t : Topology} {D : Definition} {node : Node}

theorem routed_cmdApp (node : Node) : RoutedCommand node.cmdApp := .app _

/-- Whatever the servers of a node exchange, the monitor of its app observes. -/
theorem served_observed (deepmerge : rt.DeepMerge) (configured : t.ports.Configured)
    (made : t.toComposeDict rt = .ok D) (owned : t.owner rt node.name = some (.node node)) (leaves : node.LeavesApp) :
    ∃ entry, Dict.value? D.services node.name = some entry ∧ ∀ (api : NetworkApi) (start : AppStart api entry),
      ∃ args ifaces, executeApp start.argv = .ok args ∧
        getMonitorIfaces api start.ifaces start.currTask = .ok ifaces ∧
        (runApp (getEnvConfig (containerGetenv entry)) args).monitored = true ∧
        ∀ hostnameOf coapImplemented, ∀ server ∈ (wotEntrypoint hostnameOf coapImplemented
            (runApp (getEnvConfig (containerGetenv entry)) args)).servers,
          ∀ proto port, Endpoint t server proto port →
            ∀ packet side, packet.proto = proto → packet.port side = port →
              Observed start.setup (start.stack start.next) ifaces (getEnvConfig (containerGetenv entry)) packet := by
  obtain ⟨entry, found, agrees, command, serves⟩ := node_boots deepmerge configured made owned leaves
  refine ⟨entry, found, fun api start => ?_⟩
  have booted := start.booted
  rw [command] at booted
  obtain ⟨executed, -⟩ := boot_executes booted
  have routed : RoutedCommand (entry.listed "command") := command ▸ routed_cmdApp node
  obtain ⟨container, sameStack, sameSetup⟩ := start.configured routed
  refine ⟨node.app.appArguments, _, executed ▸ executeApp_cmdApp, getMonitorIfaces_eq start.discovered, rfl, ?_⟩
  intro hostnameOf coapImplemented server listed proto port endpoint packet side isProto isPort
  subst isProto isPort
  have kept := listed_of_endpoint configured agrees (serves hostnameOf coapImplemented) listed endpoint
  have carried : Diversion.Carried start.setup.conf packet := ⟨side, start.decoded ▸ carried_of_listed kept⟩
  -- the gateway that the kernel chooses for a packet that has a port of the configuration
  have hops : ∀ address dev, Diversion.nextHop (start.stack start.next) packet = .via address dev ↔
      (∃ gw ∈ start.setup.gwTasks, gw.ifname = packet.dev) ∧ ∃ gw ∈ start.setup.gwTasks,
        Diversion.Behind gw packet.dst ∧ gw.endpointIp = address ∧ gw.ifname = dev := by
    intro address dev
    rw [← sameStack, container.nextHop_iff, sameSetup]
    exact and_iff_right carried
  constructor
  case handed =>
    intro address dev
    rw [hops, List.mem_map]
  case captured =>
    intro address dev handed
    obtain ⟨-, gw, isTask, -, -, out⟩ := (hops address dev).mp handed
    exact List.mem_map.mpr ⟨gw, isTask, out⟩
  case recorded =>
    intro shown shows
    exact ⟨shows.passes_iff.mpr ⟨side, kept⟩, shows.record⟩

end Nodes

def servedSetup (entry : Value) : RoutingSetup :=
  { Diversion.lanSetup "10.0.1.9" with conf := portConfig (getEnvConfig (containerGetenv entry)) }

def servedRun (entry : Value) : Preparation → NetworkStack → NetworkStack × Bool
  | .updateRouting, stack => (servedSetup entry).updateRouting ⟨true, some 200, fun _ => true⟩ stack
  | _, stack => (stack, true)

theorem servedRun_routes (entry : Value) : Routes (servedRun entry) id (servedSetup entry) := by
  refine ⟨fun _ => ⟨⟨true, some 200, fun _ => true⟩, rfl⟩, fun preparation other state => ?_⟩
  cases preparation <;> first | rfl | exact absurd rfl other

def servedStart {entry : Value} {next : NetworkStack} {argv : List String}
    (booted : boot (containerGetenv entry) (servedRun entry) (entry.listed "command")
      (RoutingSetup.fresh [(254, "main")]).1 = (next, some argv)) : AppStart Diversion.lanApi entry where
  σ := NetworkStack
  run := servedRun entry
  stack := id
  setup := servedSetup entry
  ifaces := Diversion.lanClient.ifaces
  currTask := Diversion.lanClient.currTask
  state := (RoutingSetup.fresh [(254, "main")]).1
  next
  argv
  routes := servedRun_routes entry
  decoded := rfl
  discovered := Diversion.lanClient.discovered
  marks := Int.one_ne_zero
  apart := Diversion.lanClient.apart
  fresh := ⟨[(254, "main")], by simp [servedSetup, Diversion.lanSetup], rfl⟩
  booted

theorem servedNode_observed : ∃ (entry : Value) (start : AppStart Diversion.lanApi entry), ∀ packet side,
    packet.proto = .tcp → packet.port side = 80 →
      Observed start.setup (start.stack start.next) ["eth1"] (getEnvConfig (containerGetenv entry)) packet := by
  have made : servedTopology.toComposeDict Runtime.plain = .ok _ := rfl
  obtain ⟨entry, found, observed⟩ := served_observed (fun _ _ => rfl) servedTopology_configured made
    (rfl : servedTopology.owner Runtime.plain servedNode.name = some (.node servedNode)) servedNode_leaves
  cases found
  obtain ⟨args, ifaces, executed, monitored, -, own⟩ := observed Diversion.lanApi (servedStart rfl)
  cases executed
  cases monitored
  exact ⟨_, _, own (fun _ => "thing.1") true (.http 80) List.mem_cons_self .tcp 80 (.http 80)⟩

end Wotemu
