import Wotemu.Cli.App
import Wotemu.Monitor.DisplayFilter
import Wotemu.Topology.Environment

/-! The servers of a node, from the topology to the servient that runs.

The generator writes the command and the environment of a container, the script
executes the one, and the app decodes the other. The routing configuration
decodes the same ports, so it diverts what the servers exchange.
-/

set_option autoImplicit false

namespace Wotemu

open Wotemu.Foundation

inductive Server where
  | http (port : Int)
  | ws (port : Int)
  | coap (port : Int)
  | mqtt (url servientId : String)
  deriving DecidableEq

structure Servient where
  hostname : String
  cataloguePort : Int
  servers : List Server

def onPort (server : Int → Server) (port : Option Int) : List Server :=
  ((port.filter (· ≠ 0)).map server).toList

/-- `wot_entrypoint`. The servient chooses its host name when none is given, and CoAP may not be implemented. -/
def wotEntrypoint (hostnameOf : Option String → String) (coapImplemented : Bool) (call : AppCall) : Servient :=
  let hostname := hostnameOf call.hostname
  { hostname
    cataloguePort := call.portCatalogue
    servers := onPort .http call.portHttp ++ onPort .ws call.portWs ++
      (if coapImplemented then onPort .coap call.portCoap else []) ++
      ((call.mqttUrl.filter (· ≠ "")).map fun url => Server.mqtt url hostname).toList }

def executeApp (argv : List String) : Except UsageError AppArgs :=
  match argv with
  | "wotemu" :: args => do
    let (found, args) ← cli args
    if found = "app" then app args else throw .noSuchCommand
  | _ => .error .noSuchCommand

def containerGetenv (entry : Value) (name : String) : Option String := (containerEnv entry name).or (imageEnv name)

theorem getEnvConfig_container (entry : Value) :
    getEnvConfig (containerGetenv entry) = getEnvConfig (containerEnv entry) := by
  simp [getEnvConfig, getenvInt, containerGetenv, imageEnv, ConfigVars.value]

section Servers

variable {port : Int} {given : Option Int} {url : String}

theorem mem_kept {α β : Type} {kind : α → β} {keep : α → Bool} {given : Option α} {server : β} :
    server ∈ ((given.filter keep).map kind).toList ↔
      ∃ value, server = kind value ∧ given = some value ∧ keep value = true := by
  simp only [Option.mem_toList, Option.map_eq_some_iff, Option.filter_eq_some_iff]
  constructor
  · rintro ⟨value, ⟨same, kept⟩, rfl⟩
    exact ⟨value, rfl, same, kept⟩
  · rintro ⟨value, rfl, same, kept⟩
    exact ⟨value, ⟨same, kept⟩, rfl⟩

theorem mem_onPort {kind : Int → Server} {server : Server} :
    server ∈ onPort kind given ↔ ∃ port, server = kind port ∧ given = some port ∧ port ≠ 0 := by
  simp only [onPort, mem_kept, decide_eq_true_eq]

variable {hostnameOf : Option String → String} {coapImplemented : Bool} {call : AppCall}

theorem mem_servers {server : Server} : server ∈ (wotEntrypoint hostnameOf coapImplemented call).servers ↔
    (∃ port, server = .http port ∧ call.portHttp = some port ∧ port ≠ 0) ∨
    (∃ port, server = .ws port ∧ call.portWs = some port ∧ port ≠ 0) ∨
    (coapImplemented = true ∧ ∃ port, server = .coap port ∧ call.portCoap = some port ∧ port ≠ 0) ∨
    ∃ url, server = .mqtt url (hostnameOf call.hostname) ∧ call.mqttUrl = some url ∧ url ≠ "" := by
  simp only [wotEntrypoint, List.mem_append, mem_onPort, mem_kept, decide_eq_true_eq, or_assoc]
  cases coapImplemented with
  | true => simp [mem_onPort]
  | false => simp

end Servers

structure TopologyPorts.Configured (ports : TopologyPorts) : Prop where
  valid : ports.Valid
  catalogue : ports.catalogue ≠ .none
  http : ports.http ≠ .none
  ws : ports.ws ≠ .none
  mqtt : ports.mqtt ≠ .none
  coap : ports.coap ≠ .none

/-- The servient has a server for each protocol that the app of the node enables, on the port of the topology, and
is reached over MQTT through the broker of the node. -/
structure Serves (t : Topology) (node : Node) (coapImplemented : Bool) (servient : Servient) : Prop where
  catalogue : t.ports.catalogue = .int servient.cataloguePort
  http : ∀ port, .http port ∈ servient.servers ↔ node.app.enabledHttp = true ∧ t.ports.http = .int port
  ws : ∀ port, .ws port ∈ servient.servers ↔ node.app.enabledWs = true ∧ t.ports.ws = .int port
  coap : ∀ port, .coap port ∈ servient.servers ↔
    coapImplemented = true ∧ node.app.enabledCoap = true ∧ t.ports.coap = .int port
  mqtt : ∀ url servientId, .mqtt url servientId ∈ servient.servers ↔
    node.app.enabledMqtt = true ∧ servientId = servient.hostname ∧ ∃ broker network port,
      node.broker = some broker ∧ node.brokerNetwork = .ok (some network) ∧ t.ports.mqtt = .int port ∧
        url = "mqtt://" ++ (broker.name ++ "." ++ network.name) ++ ":" ++ toString port

section Decoded

variable {rt : Runtime} {t : Topology} {node : Node} {entry : Value}

theorem port_ne_zero {value : Value} {decoded : Int} (valid : PortValid value) (same : value = .int decoded) :
    decoded ≠ 0 := by
  rcases valid with none | ⟨n, positive, number⟩
  · rw [none] at same
    cases same
  · rw [same, Value.int.injEq] at number
    omega

theorem enabled_iff {value : Value} {decoded port : Int} {enabled : Bool} (valid : PortValid value)
    (same : value = .int decoded) :
    (if enabled then some decoded else none) = some port ∧ port ≠ 0 ↔ enabled = true ∧ value = .int port := by
  have nonzero := port_ne_zero valid same
  cases enabled with
  | false => simp
  | true =>
    rw [same]
    simp only [if_true, Option.some.injEq, Value.int.injEq, true_and]
    exact ⟨fun found => found.1, fun found => ⟨found, found ▸ nonzero⟩⟩

theorem node_command (unset : "command" ∉ Dict.keys node.argsCompose)
    (made : getNodeDefinition rt t node = .ok [(node.name, entry)]) : entry.listed "command" = node.cmdApp := by
  obtain ⟨brokerNetwork, chosen, -⟩ := bind_ok made
  rw [getNodeDefinition_eq chosen] at made
  obtain ⟨_, configured, made⟩ := bind_ok made
  cases made
  have written : Dict.value? (nodeService rt t node brokerNetwork) "command" = some (.ofStrings node.cmdApp) := by
    unfold nodeService
    rw [updateDeploy_frame _ (by decide), mergeTargetSpeed_frame node (by decide)]
    rfl
  rw [Value.listed, Value.field, mergeTopologyConfig_frame configured (by decide), mergeArgsCompose]
  split
  · rw [written]
    exact Value.strings_ofStrings _
  · rw [rt.merge_frame _ _ _ unset, written]
    exact Value.strings_ofStrings _

theorem serves_of_agrees {conf : EnvConfig} {hostnameOf : Option String → String} {coapImplemented : Bool}
    (configured : t.ports.Configured) (agrees : Agrees t conf)
    (url : ∀ broker network, node.broker = some broker → node.brokerNetwork = .ok (some network) →
      conf.mqttUrl = some ("mqtt://" ++ (broker.name ++ "." ++ network.name) ++ ":" ++ toString conf.portMqtt))
    (chosen : ∃ brokerNetwork, node.brokerNetwork = .ok brokerNetwork) :
    Serves t node coapImplemented (wotEntrypoint hostnameOf coapImplemented (runApp conf node.app.appArguments)) := by
  have http := agrees.http configured.http
  have ws := agrees.ws configured.ws
  have coap := agrees.coap configured.coap
  have mqtt := agrees.mqtt configured.mqtt
  constructor
  case catalogue => exact agrees.catalogue configured.catalogue
  case http =>
    intro port
    rw [mem_servers, ← enabled_iff configured.valid.http http]
    cases enabled : node.app.enabledHttp <;> simp [runApp, NodeApp.appArguments, enabled]
  case ws =>
    intro port
    rw [mem_servers, ← enabled_iff configured.valid.ws ws]
    cases enabled : node.app.enabledWs <;> simp [runApp, NodeApp.appArguments, enabled]
  case coap =>
    intro port
    rw [mem_servers, ← enabled_iff configured.valid.coap coap]
    cases enabled : node.app.enabledCoap <;> simp [runApp, NodeApp.appArguments, enabled]
  case mqtt =>
    intro given servientId
    rw [mem_servers]
    cases enabled : node.app.enabledMqtt with
    | false => simp [runApp, NodeApp.appArguments, enabled]
    | true =>
      -- the constructor of the node asks for a broker when MQTT is enabled
      obtain ⟨broker, has⟩ := Option.isSome_iff_exists.mp (node.broker_of_mqtt enabled)
      obtain ⟨brokerNetwork, chosen⟩ := chosen
      obtain ⟨network, rfl, -⟩ := brokerNetwork_some has chosen
      have decoded := url broker network has chosen
      simp [runApp, NodeApp.appArguments, enabled, decoded, has, chosen, mqtt, wotEntrypoint, and_comm]

end Decoded

/-- The dictionary of the user leaves the command of the node and the host of its broker alone. -/
structure Node.LeavesApp (node : Node) : Prop where
  mapping : MappingEnvironment node.argsCompose
  command : "command" ∉ Dict.keys node.argsCompose
  host : ∀ more, ("environment", Value.dict more) ∈ node.argsCompose →
    ConfigVars.mqttBrokerHost.value ∉ Dict.keys more

/-- The transport and the port of what a server exchanges. Behind the MQTT server it is the port of the broker. -/
inductive Endpoint (t : Topology) : Server → Proto → Int → Prop where
  | http (port : Int) : Endpoint t (.http port) .tcp port
  | ws (port : Int) : Endpoint t (.ws port) .tcp port
  | coap (port : Int) : Endpoint t (.coap port) .udp port
  | mqtt (url servientId : String) {port : Int} (given : t.ports.mqtt = .int port) :
    Endpoint t (.mqtt url servientId) .tcp port

section Nodes

open Diversion

variable {rt : Runtime} {t : Topology} {D : Definition} {node : Node}

theorem node_boots (deepmerge : rt.DeepMerge) (configured : t.ports.Configured) (made : t.toComposeDict rt = .ok D)
    (owned : t.owner rt node.name = some (.node node)) (leaves : node.LeavesApp) : ∃ entry,
      Dict.value? D.services node.name = some entry ∧ Agrees t (getEnvConfig (containerGetenv entry)) ∧
        entry.listed "command" = node.cmdApp ∧ ∀ hostnameOf coapImplemented, Serves t node coapImplemented
          (wotEntrypoint hostnameOf coapImplemented
            (runApp (getEnvConfig (containerGetenv entry)) node.app.appArguments)) := by
  obtain ⟨entry, generated, found⟩ := Topology.value?_services_of_owner made owned
  obtain ⟨brokerNetwork, chosen, -⟩ := bind_ok generated
  obtain ⟨other, again, agrees⟩ := node_agrees deepmerge configured.valid leaves.mapping chosen
  cases generated.symm.trans again
  refine ⟨entry, found, ?_, node_command leaves.command generated, fun hostnameOf coapImplemented => ?_⟩
  · rw [getEnvConfig_container]
    exact agrees
  · rw [getEnvConfig_container]
    refine serves_of_agrees configured agrees (fun broker network has reached => ?_) ⟨brokerNetwork, chosen⟩
    have host := node_brokerHost deepmerge leaves.mapping leaves.host has reached generated
    exact mqttUrl_of_host host (port_ne_zero configured.valid.mqtt (agrees.mqtt configured.mqtt))

theorem executeApp_cmdApp : executeApp (entrypoint node.cmdApp) = .ok node.app.appArguments :=
  node.app.app_appArgs

/-- In every run of the script that executes the app of a node, the app is served by the servers that the topology
enables for it and by no other. -/
theorem node_serves (deepmerge : rt.DeepMerge) (configured : t.ports.Configured) (made : t.toComposeDict rt = .ok D)
    (owned : t.owner rt node.name = some (.node node)) (leaves : node.LeavesApp) : ∃ entry,
      Dict.value? D.services node.name = some entry ∧
        ∀ (σ : Type) (run : Preparation → σ → σ × Bool) state next argv hostnameOf coapImplemented,
          boot (containerGetenv entry) run (entry.listed "command") state = (next, some argv) →
            ∃ args, executeApp argv = .ok args ∧ Serves t node coapImplemented
              (wotEntrypoint hostnameOf coapImplemented (runApp (getEnvConfig (containerGetenv entry)) args)) := by
  obtain ⟨entry, found, -, command, serves⟩ := node_boots deepmerge configured made owned leaves
  refine ⟨entry, found, fun σ run state next argv hostnameOf coapImplemented booted => ?_⟩
  rw [command] at booted
  obtain ⟨rfl, -⟩ := boot_executes booted
  exact ⟨node.app.appArguments, executeApp_cmdApp, serves hostnameOf coapImplemented⟩

theorem listed_of_endpoint {conf : EnvConfig} {servient : Servient} {coapImplemented : Bool} {server : Server}
    {proto : Proto} {port : Int} (configured : t.ports.Configured) (agrees : Agrees t conf)
    (serves : Serves t node coapImplemented servient) (listed : server ∈ servient.servers)
    (endpoint : Endpoint t server proto port) : (proto, port) ∈ buildDisplayFilter conf := by
  cases endpoint with
  | http port =>
    have same := ((serves.http port).mp listed).2.symm.trans (agrees.http configured.http)
    simp [buildDisplayFilter, Value.int.inj same]
  | ws port =>
    have same := ((serves.ws port).mp listed).2.symm.trans (agrees.ws configured.ws)
    simp [buildDisplayFilter, Value.int.inj same]
  | coap port =>
    have same := ((serves.coap port).mp listed).2.2.symm.trans (agrees.coap configured.coap)
    simp [buildDisplayFilter, Value.int.inj same]
  | mqtt url servientId given =>
    have same := given.symm.trans (agrees.mqtt configured.mqtt)
    simp [buildDisplayFilter, Value.int.inj same]

end Nodes

/-! A node that is served over HTTP and MQTT. -/

def servedBroker : Broker := { name := "mosquitto", networks := [{ name := "edge" }] }

theorem servedBroker_attached : ∀ b ∈ some servedBroker, ∀ net ∈ (none : Option Network),
    net.name ∈ b.networks.map Network.name := by simp

def servedNode : Node where
  name := "thing"
  app := { pathArg := .inl .clock, enabledHttp := true, enabledMqtt := true }
  networks := [{ name := "edge" }]
  broker := some servedBroker
  broker_of_mqtt := fun _ => rfl
  broker_network_attached := servedBroker_attached
  services := []
  services_distinct := List.nodup_nil

def servedTopology : Topology where
  nodes := [servedNode]
  distinct_nodes := rfl
  distinct_services := rfl

theorem servedTopology_configured : servedTopology.ports.Configured := by
  refine ⟨defaultPorts_valid, ?_, ?_, ?_, ?_, ?_⟩ <;> simp [servedTopology]

theorem servedNode_leaves : servedNode.LeavesApp := by
  constructor <;> simp [servedNode, MappingEnvironment, Dict.keys]

def smoothRun (_ : Preparation) (_ : Unit) : Unit × Bool := ((), true)

theorem servedNode_serves : ∃ args servient, executeApp (entrypoint servedNode.cmdApp) = .ok args ∧
    Serves servedTopology servedNode true servient ∧
      servient.servers = [.http 80, .mqtt "mqtt://mosquitto.edge:1883" "thing.1"] := by
  have made : servedTopology.toComposeDict Runtime.plain = .ok _ := rfl
  obtain ⟨entry, found, serves⟩ := node_serves (fun _ _ => rfl) servedTopology_configured made
    (rfl : servedTopology.owner Runtime.plain servedNode.name = some (.node servedNode)) servedNode_leaves
  cases found
  obtain ⟨args, executed, own⟩ := serves Unit smoothRun () () _ (fun _ => "thing.1") true rfl
  cases executed
  exact ⟨_, _, rfl, own, rfl⟩

end Wotemu
