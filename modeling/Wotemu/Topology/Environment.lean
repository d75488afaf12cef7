import Wotemu.Foundation.Merging
import Wotemu.Topology.Entries
import Wotemu.Topology.EnvConfig

/-! The settings of a topology as its containers decode them.

Every generator writes the configuration of the topology over the environment
last, so no dictionary of the user can change it. The host of the broker is
written before, and the networks of a node are merged with what the user gives.
-/

set_option autoImplicit false

namespace Wotemu

open Wotemu.Foundation

/-- `always_merger.merge` as its package documents it: dictionaries are merged key by key, lists
are joined, and everything else is replaced. -/
def Runtime.DeepMerge (rt : Runtime) : Prop :=
  ∀ base next : Dict String Value, rt.merge base next = Value.mergeEntries base next

def PortValid (port : Value) : Prop := port = .none ∨ ∃ n : Nat, 0 < n ∧ port = .int n

structure TopologyPorts.Valid (ports : TopologyPorts) : Prop where
  catalogue : PortValid ports.catalogue
  http : PortValid ports.http
  ws : PortValid ports.ws
  mqtt : PortValid ports.mqtt
  coap : PortValid ports.coap

def MappingEnvironment (argsCompose : Dict String Value) : Prop :=
  ∀ value, ("environment", value) ∈ argsCompose → ∃ entries, value = .dict entries

structure Agrees (t : Topology) (conf : EnvConfig) : Prop where
  catalogue : t.ports.catalogue ≠ .none → t.ports.catalogue = .int conf.portCatalogue
  http : t.ports.http ≠ .none → t.ports.http = .int conf.portHttp
  ws : t.ports.ws ≠ .none → t.ports.ws = .int conf.portWs
  mqtt : t.ports.mqtt ≠ .none → t.ports.mqtt = .int conf.portMqtt
  coap : t.ports.coap ≠ .none → t.ports.coap = .int conf.portCoap
  redisUrl : t.redis.internalUrl ≠ .none → t.redis.internalUrl = .str conf.redisUrl
  dockerProxyUrl : conf.dockerProxyUrl = "tcp://" ++ t.dockerProxy.host ++ ":2375/"

variable {rt : Runtime} {t : Topology}

theorem config_eq : t.config =
    [(ConfigVars.portCatalogue.value, t.ports.catalogue), (ConfigVars.portHttp.value, t.ports.http),
     (ConfigVars.portWs.value, t.ports.ws), (ConfigVars.portMqtt.value, t.ports.mqtt),
     (ConfigVars.portCoap.value, t.ports.coap), (ConfigVars.redisUrl.value, t.redis.internalUrl),
     (ConfigVars.dockerProxyUrl.value, .str ("tcp://" ++ t.dockerProxy.host ++ ":2375/"))] := rfl

theorem keys_config : Dict.keys t.config =
    ["PORT_CATALOGUE", "PORT_HTTP", "PORT_WS", "PORT_MQTT", "PORT_COAP", "REDIS_URL", "DOCKER_PROXY_URL"] := rfl

section Written

variable {service result : Dict String Value} {name : String}

theorem environment_of_made (made : mergeTopologyConfig t service = .ok result) :
    ∃ envr, (Dict.value? service "environment").getD (.dict []) = .dict envr ∧
      Dict.value? result "environment" = some (.dict (Dict.update envr
        ((t.config.filter (fun entry => entry.2 ≠ .none)).map fun entry => (entry.1, Value.str entry.2.pyStr)))) := by
  unfold mergeTopologyConfig at made
  split at made
  · rename_i envr found
    cases made
    exact ⟨envr, found, Dict.value?_assign_self _ _ _⟩
  · cases made

/-- A configured value is in the environment after the last step, whatever was there. -/
theorem containerEnv_of_configured {value : Value} (made : mergeTopologyConfig t service = .ok result)
    (configured : (name, value) ∈ t.config) (given : value ≠ .none) :
    containerEnv (.dict result) name = some value.pyStr := by
  obtain ⟨envr, -, found⟩ := environment_of_made made
  have distinct : (Dict.keys t.config).Nodup := by
    rw [keys_config]
    decide
  have nodup : (Dict.keys ((t.config.filter (fun entry => entry.2 ≠ .none)).map
      fun entry => (entry.1, Value.str entry.2.pyStr))).Nodup := by
    rw [Dict.keys, List.map_map]
    exact distinct.sublist (List.filter_sublist.map Prod.fst)
  have written : (name, Value.str value.pyStr) ∈ (t.config.filter (fun entry => entry.2 ≠ .none)).map
      fun entry => (entry.1, Value.str entry.2.pyStr) :=
    List.mem_map.mpr ⟨(name, value), List.mem_filter.mpr ⟨configured, by simpa using given⟩, rfl⟩
  have read := Dict.value?_update_of_mem (d := envr) nodup written
  unfold containerEnv Value.field
  simp only [found, read]
  rfl

theorem containerEnv_of_not_configured {envr : Dict String Value} {text : String}
    (made : mergeTopologyConfig t service = .ok result) (before : Dict.value? service "environment" = some (.dict envr))
    (set : Dict.value? envr name = some (.str text)) (absent : name ∉ Dict.keys t.config) :
    containerEnv (.dict result) name = some text := by
  obtain ⟨other, same, found⟩ := environment_of_made made
  rw [before, Option.getD_some, Value.dict.injEq] at same
  subst same
  have kept : name ∉ Dict.keys ((t.config.filter (fun entry => entry.2 ≠ .none)).map
      fun entry => (entry.1, Value.str entry.2.pyStr)) := by
    intro member
    obtain ⟨written, inside, rfl⟩ := List.mem_map.mp member
    obtain ⟨entry, filtered, rfl⟩ := List.mem_map.mp inside
    exact absent (List.mem_map.mpr ⟨entry, List.mem_of_mem_filter filtered, rfl⟩)
  have read := (Dict.value?_update_of_not_mem (d := envr) kept).trans set
  unfold containerEnv Value.field
  simp only [found, read]
  rfl

end Written

section Decoded

variable {result service : Dict String Value}

theorem getenvInt_of_configured {name : String} {port : Value} {default : Int}
    (made : mergeTopologyConfig t service = .ok result) (configured : (name, port) ∈ t.config)
    (valid : PortValid port) (given : port ≠ .none) :
    port = .int (getenvInt (containerEnv (.dict result)) name default) := by
  have read := containerEnv_of_configured made configured given
  cases valid with
  | inl none => exact absurd none given
  | inr number =>
    obtain ⟨n, -, rfl⟩ := number
    have text : parseInt (Value.int n).pyStr = some (Int.ofNat n) := parseInt_toString n
    simp only [getenvInt, read, text]
    rfl

theorem agrees_of_made (valid : t.ports.Valid) (made : mergeTopologyConfig t service = .ok result) :
    Agrees t (getEnvConfig (containerEnv (.dict result))) := by
  constructor
  case catalogue => exact getenvInt_of_configured made (by simp [config_eq]) valid.catalogue
  case http => exact getenvInt_of_configured made (by simp [config_eq]) valid.http
  case ws => exact getenvInt_of_configured made (by simp [config_eq]) valid.ws
  case mqtt => exact getenvInt_of_configured made (by simp [config_eq]) valid.mqtt
  case coap => exact getenvInt_of_configured made (by simp [config_eq]) valid.coap
  case redisUrl =>
    intro given
    have configured : (ConfigVars.redisUrl.value, t.redis.internalUrl) ∈ t.config := by simp [config_eq]
    have read := containerEnv_of_configured made configured given
    have text : t.redis.internalUrl = .str t.redis.internalUrl.pyStr := by
      unfold TopologyRedis.internalUrl at given ⊢
      split
      · rfl
      · cases url : t.redis.redisUrl with
        | none =>
          rename_i disabled
          rw [if_neg disabled, url] at given
          exact absurd rfl given
        | some text => rfl
    simp only [getEnvConfig, read, Option.getD_some]
    exact text
  case dockerProxyUrl =>
    have configured : (ConfigVars.dockerProxyUrl.value, Value.str ("tcp://" ++ t.dockerProxy.host ++ ":2375/")) ∈
        t.config := by simp [config_eq]
    have read := containerEnv_of_configured made configured (by simp)
    simp only [getEnvConfig, read, Option.getD_some]
    rfl

end Decoded

section Generated

variable {service : Dict String Value} {argsCompose envr : Dict String Value}

theorem mergeTopologyConfig_ok (found : Dict.value? service "environment" = some (.dict envr)) :
    ∃ result, mergeTopologyConfig t service = .ok result := by
  unfold mergeTopologyConfig
  rw [found]
  exact ⟨_, rfl⟩

theorem mergeArgsCompose_environment (deepmerge : rt.DeepMerge) (mapping : MappingEnvironment argsCompose)
    (found : Dict.value? service "environment" = some (.dict envr)) :
    ∃ merged, Dict.value? (mergeArgsCompose rt service argsCompose) "environment" = some (.dict merged) ∧
      ∀ name, (∀ more, ("environment", Value.dict more) ∈ argsCompose → name ∉ Dict.keys more) →
        Dict.value? merged name = Dict.value? envr name := by
  unfold mergeArgsCompose
  split
  · exact ⟨envr, found, fun _ _ => rfl⟩
  · rw [deepmerge]
    exact Value.value?_mergeEntries_dict found mapping

theorem mergeArgsCompose_list {key : String} {items : List Value} (deepmerge : rt.DeepMerge)
    (lists : ∀ value, (key, value) ∈ argsCompose → ∃ more, value = .list more)
    (found : Dict.value? service key = some (.list items)) :
    ∃ more, Dict.value? (mergeArgsCompose rt service argsCompose) key = some (.list (items ++ more)) := by
  unfold mergeArgsCompose
  split
  · exact ⟨[], by rw [List.append_nil]; exact found⟩
  · rw [deepmerge]
    exact Value.value?_mergeEntries_list found lists

theorem mergeTargetSpeed_environment (deepmerge : rt.DeepMerge) (node : Node)
    (found : Dict.value? service "environment" = some (.dict envr)) :
    ∃ merged, Dict.value? (mergeTargetSpeed rt node service) "environment" = some (.dict merged) ∧
      ∀ name, name ≠ "TARGET_CPU_SPEED" → Dict.value? merged name = Dict.value? envr name := by
  unfold mergeTargetSpeed
  split
  · rename_i resources _
    split
    · rw [deepmerge]
      have mapping : ∀ value, ("environment", value) ∈
          [("environment", Value.dict [("TARGET_CPU_SPEED", resources.targetCpuSpeed)])] →
          ∃ more, value = .dict more := by
        intro value member
        rw [List.mem_singleton, Prod.mk.injEq] at member
        exact ⟨_, member.2⟩
      obtain ⟨merged, made, kept⟩ := Value.value?_mergeEntries_dict found mapping
      refine ⟨merged, made, fun name different => kept name fun more member => ?_⟩
      rw [List.mem_singleton, Prod.mk.injEq, Value.dict.injEq] at member
      simpa [member.2, Dict.keys] using different
    · exact ⟨envr, found, fun _ _ => rfl⟩
  · exact ⟨envr, found, fun _ _ => rfl⟩

end Generated

section Services

theorem configured_agrees (deepmerge : rt.DeepMerge) (valid : t.ports.Valid)
    {service argsCompose : Dict String Value} (mapping : MappingEnvironment argsCompose) (envr : Dict String Value)
    (found : Dict.value? service "environment" = some (.dict envr)) (name : String) :
    ∃ entry, (do
        let service ← mergeTopologyConfig t (mergeArgsCompose rt service argsCompose)
        return [(name, Value.dict service)] : Except PyError (Dict String Value)) = .ok [(name, entry)] ∧
      Agrees t (getEnvConfig (containerEnv entry)) := by
  obtain ⟨merged, merges, -⟩ := mergeArgsCompose_environment deepmerge mapping found
  obtain ⟨result, made⟩ := mergeTopologyConfig_ok (t := t) merges
  refine ⟨.dict result, ?_, agrees_of_made valid made⟩
  rw [made]
  rfl

theorem gateway_agrees (deepmerge : rt.DeepMerge) (valid : t.ports.Valid) {network : Network}
    (mapping : MappingEnvironment network.argsComposeGw) :
    ∃ entry, getNetworkGatewayDefinition rt t network = .ok [(network.nameGateway, entry)] ∧
      Agrees t (getEnvConfig (containerEnv entry)) :=
  configured_agrees deepmerge valid mapping environmentBase (by rfl) network.nameGateway

theorem broker_agrees (deepmerge : rt.DeepMerge) (valid : t.ports.Valid) {broker : Broker}
    (mapping : MappingEnvironment broker.argsCompose) :
    ∃ entry, getBrokerDefinition rt t broker = .ok [(broker.name, entry)] ∧
      Agrees t (getEnvConfig (containerEnv entry)) :=
  configured_agrees deepmerge valid mapping environmentBase (by rfl) broker.name

def nodeService (rt : Runtime) (t : Topology) (node : Node) (brokerNetwork : Option Network) : Dict String Value :=
  let service := mergeTargetSpeed rt node (Dict.update serviceBaseNode
    [("image", .str (node.image rt)),
     ("command", .ofStrings node.cmdApp),
     ("networks", .ofStrings (rt.arrange (distinctBy id (nodeNetworks node brokerNetwork)))),
     ("depends_on", .ofStrings (rt.arrange (distinctBy id (nodeDependsOn t node brokerNetwork)))),
     ("environment", .dict (nodeEnvironment node brokerNetwork))])
  let deploy := nodeDeploy node
  if deploy.isEmpty then service else Dict.update service [("deploy", .dict deploy)]

variable {node : Node} {brokerNetwork : Option Network}

theorem getNodeDefinition_eq (chosen : node.brokerNetwork = .ok brokerNetwork) :
    getNodeDefinition rt t node = (do
      let service ← mergeTopologyConfig t (mergeArgsCompose rt (nodeService rt t node brokerNetwork) node.argsCompose)
      return [(node.name, Value.dict service)]) := by
  unfold getNodeDefinition
  rw [chosen]
  rfl

theorem nodeService_environment (deepmerge : rt.DeepMerge) :
    ∃ envr, Dict.value? (nodeService rt t node brokerNetwork) "environment" = some (.dict envr) ∧
      ∀ name, name ≠ "TARGET_CPU_SPEED" →
        Dict.value? envr name = Dict.value? (nodeEnvironment node brokerNetwork) name := by
  unfold nodeService
  rw [updateDeploy_frame _ (by decide)]
  exact mergeTargetSpeed_environment deepmerge node rfl

theorem nodeService_networks : Dict.value? (nodeService rt t node brokerNetwork) "networks" =
    some (.ofStrings (rt.arrange (distinctBy id (nodeNetworks node brokerNetwork)))) := by
  unfold nodeService
  rw [updateDeploy_frame _ (by decide), mergeTargetSpeed_frame node (by decide)]
  rfl

theorem node_agrees (deepmerge : rt.DeepMerge) (valid : t.ports.Valid) (mapping : MappingEnvironment node.argsCompose)
    (chosen : node.brokerNetwork = .ok brokerNetwork) :
    ∃ entry, getNodeDefinition rt t node = .ok [(node.name, entry)] ∧
      Agrees t (getEnvConfig (containerEnv entry)) := by
  obtain ⟨envr, found, -⟩ := nodeService_environment deepmerge
  rw [getNodeDefinition_eq chosen]
  exact configured_agrees deepmerge valid mapping envr found node.name

end Services

section BrokerUrl

variable {node : Node} {broker : Broker} {brokerNetwork : Option Network} {entry : Value}

theorem brokerNetwork_some (has : node.broker = some broker) (chosen : node.brokerNetwork = .ok brokerNetwork) :
    ∃ network, brokerNetwork = some network ∧ network.name ∈ broker.networks.map Network.name := by
  unfold Node.brokerNetwork at chosen
  rw [has] at chosen
  cases given : node.brokerNetworkArg with
  | some network =>
    simp only [given] at chosen
    split at chosen
    · rename_i attached
      cases chosen
      exact ⟨network, rfl, attached⟩
    · cases chosen
  | none =>
    simp only [given] at chosen
    cases networks : broker.networks with
    | nil =>
      rw [networks] at chosen
      cases chosen
    | cons first rest =>
      rw [networks] at chosen
      cases chosen
      exact ⟨first, rfl, by simp⟩

/-- A node whose user dictionary does not set the host of the broker decodes the one that the
generator wrote. -/
theorem node_brokerHost (deepmerge : rt.DeepMerge) (mapping : MappingEnvironment node.argsCompose)
    (unset : ∀ more, ("environment", Value.dict more) ∈ node.argsCompose →
      ConfigVars.mqttBrokerHost.value ∉ Dict.keys more)
    {network : Network} (has : node.broker = some broker) (chosen : node.brokerNetwork = .ok (some network))
    (made : getNodeDefinition rt t node = .ok [(node.name, entry)]) :
    containerEnv entry ConfigVars.mqttBrokerHost.value = some (broker.name ++ "." ++ network.name) := by
  rw [getNodeDefinition_eq chosen] at made
  obtain ⟨result, configured, made⟩ := bind_ok made
  cases made
  obtain ⟨envr, found, kept⟩ := nodeService_environment deepmerge
  obtain ⟨merged, merges, others⟩ := mergeArgsCompose_environment deepmerge mapping found
  refine containerEnv_of_not_configured configured merges ?_ (by rw [keys_config]; decide)
  rw [others _ unset, kept _ (by decide)]
  unfold nodeEnvironment
  rw [has]
  exact Dict.value?_update_of_mem (by simp [Dict.keys]) (List.mem_singleton_self _)

theorem node_lists_network (deepmerge : rt.DeepMerge)
    (lists : ∀ value, ("networks", value) ∈ node.argsCompose → ∃ more, value = .list more)
    {network : Network} (chosen : node.brokerNetwork = .ok (some network))
    (made : getNodeDefinition rt t node = .ok [(node.name, entry)]) :
    network.name ∈ entry.listed "networks" := by
  rw [getNodeDefinition_eq chosen] at made
  obtain ⟨result, configured, made⟩ := bind_ok made
  cases made
  obtain ⟨more, merged⟩ := mergeArgsCompose_list deepmerge lists nodeService_networks
  have listed : (Value.dict result).listed "networks" =
      (Value.list ((rt.arrange (distinctBy id (nodeNetworks node (some network)))).map Value.str ++ more)).strings := by
    rw [← Option.getD_some (a := Value.list _) (b := Value.list []), ← merged,
      ← mergeTopologyConfig_frame configured (by decide)]
    rfl
  have own : network.name ∈ rt.arrange (distinctBy id (nodeNetworks node (some network))) := by
    rw [rt.mem_arrange, mem_distinctBy_id, mem_nodeNetworks]
    exact Or.inr (Or.inr ⟨network, rfl, rfl⟩)
  rw [listed, Value.strings, List.filterMap_append, List.filterMap_map]
  exact List.mem_append_left _ (List.mem_filterMap.mpr ⟨network.name, own, rfl⟩)

/-- The broker's URL that a node decodes names a network of both, and the port that the
broker decodes. -/
def ReachesBroker (broker : Broker) (entry brokerEntry : Value) : Prop :=
  ∃ network, network ∈ entry.listed "networks" ∧ network ∈ broker.networks.map Network.name ∧
    (getEnvConfig (containerEnv entry)).mqttUrl = some ("mqtt://" ++ (broker.name ++ "." ++ network) ++ ":" ++
      toString (getEnvConfig (containerEnv brokerEntry)).portMqtt)

theorem mqttUrl_of_host {host network : String}
    (found : containerEnv entry ConfigVars.mqttBrokerHost.value = some (host ++ "." ++ network))
    (port : (getEnvConfig (containerEnv entry)).portMqtt ≠ 0) :
    (getEnvConfig (containerEnv entry)).mqttUrl = some ("mqtt://" ++ (host ++ "." ++ network) ++ ":" ++
      toString (getEnvConfig (containerEnv entry)).portMqtt) := by
  have nonempty : host ++ "." ++ network ≠ "" := by
    rw [Ne, ← String.toList_inj]
    simp
  unfold getEnvConfig at port ⊢
  simp only [found, ne_eq] at port ⊢
  exact if_pos ⟨port, nonempty⟩

theorem port_agrees {brokerEntry : Value} (valid : t.ports.Valid) (given : t.ports.mqtt ≠ .none)
    (agrees : Agrees t (getEnvConfig (containerEnv entry)))
    (brokerAgrees : Agrees t (getEnvConfig (containerEnv brokerEntry))) :
    (getEnvConfig (containerEnv entry)).portMqtt = (getEnvConfig (containerEnv brokerEntry)).portMqtt ∧
      (getEnvConfig (containerEnv entry)).portMqtt ≠ 0 := by
  have first := agrees.mqtt given
  have second := brokerAgrees.mqtt given
  refine ⟨Value.int.inj (first.symm.trans second), fun zero => ?_⟩
  cases valid.mqtt with
  | inl none => exact given none
  | inr number =>
    obtain ⟨n, positive, same⟩ := number
    have none : (n : Int) = 0 := Value.int.inj (same.symm.trans (first.trans (congrArg Value.int zero)))
    omega

end BrokerUrl

/-- Every gateway, broker and node is generated with an environment that is decoded to the
settings of the topology. A node with a broker, whose user dictionary does not set the host of
the broker and gives its networks as a list if at all, is sent to the broker. -/
theorem settings_decoded (deepmerge : rt.DeepMerge) (valid : t.ports.Valid)
    (networks : ∀ network ∈ t.networkObjects, MappingEnvironment network.argsComposeGw)
    (brokers : ∀ broker ∈ t.brokerObjects, MappingEnvironment broker.argsCompose)
    (nodes : ∀ node ∈ t.nodes, MappingEnvironment node.argsCompose) :
    (∀ network ∈ t.networkObjects, ∃ entry,
      getNetworkGatewayDefinition rt t network = .ok [(network.nameGateway, entry)] ∧
        Agrees t (getEnvConfig (containerEnv entry))) ∧
    (∀ broker ∈ t.brokerObjects, ∃ entry,
      getBrokerDefinition rt t broker = .ok [(broker.name, entry)] ∧ Agrees t (getEnvConfig (containerEnv entry))) ∧
    (∀ node ∈ t.nodes, ∀ brokerNetwork, node.brokerNetwork = .ok brokerNetwork → ∃ entry,
      getNodeDefinition rt t node = .ok [(node.name, entry)] ∧ Agrees t (getEnvConfig (containerEnv entry)) ∧
      ∀ broker, node.broker = some broker → t.ports.mqtt ≠ .none →
        (∀ more, ("environment", Value.dict more) ∈ node.argsCompose →
          ConfigVars.mqttBrokerHost.value ∉ Dict.keys more) →
        (∀ value, ("networks", value) ∈ node.argsCompose → ∃ more, value = .list more) →
        ∃ brokerEntry, getBrokerDefinition rt t broker = .ok [(broker.name, brokerEntry)] ∧
          ReachesBroker broker entry brokerEntry) := by
  refine ⟨fun network member => gateway_agrees deepmerge valid (networks network member),
    fun broker member => broker_agrees deepmerge valid (brokers broker member), ?_⟩
  intro node member brokerNetwork chosen
  obtain ⟨entry, made, agrees⟩ := node_agrees deepmerge valid (nodes node member) chosen
  refine ⟨entry, made, agrees, ?_⟩
  intro broker has given unset lists
  have reached : broker ∈ t.brokerObjects :=
    List.mem_append_right _ (List.mem_filterMap.mpr ⟨node, member, has⟩)
  obtain ⟨brokerEntry, brokerMade, brokerAgrees⟩ := broker_agrees deepmerge valid (brokers broker reached)
  obtain ⟨network, rfl, attached⟩ := brokerNetwork_some has chosen
  refine ⟨brokerEntry, brokerMade, network.name, node_lists_network deepmerge lists chosen made, attached, ?_⟩
  have host := node_brokerHost deepmerge (nodes node member) unset has chosen made
  obtain ⟨samePort, nonzero⟩ := port_agrees valid given agrees brokerAgrees
  rw [mqttUrl_of_host host nonzero, samePort]

/-! A node on one network whose broker is on another one. -/

def remoteBroker : Broker := { name := "broker", networks := [{ name := "far" }] }

def remoteNode (argsCompose : Dict String Value) : Node where
  name := "clock"
  app := { pathArg := .inl .clock }
  networks := [{ name := "near" }]
  broker := some remoteBroker
  argsCompose := argsCompose
  services := []
  services_distinct := List.nodup_nil

def remoteTopology (argsCompose : Dict String Value) : Topology where
  nodes := [remoteNode argsCompose]
  distinct_nodes := rfl
  distinct_services := rfl

theorem defaultPorts_valid : TopologyPorts.Valid {} where
  catalogue := Or.inr ⟨9090, by decide, rfl⟩
  http := Or.inr ⟨80, by decide, rfl⟩
  ws := Or.inr ⟨81, by decide, rfl⟩
  mqtt := Or.inr ⟨1883, by decide, rfl⟩
  coap := Or.inr ⟨5683, by decide, rfl⟩

theorem remoteNode_decoded : ∃ entry brokerEntry,
    getNodeDefinition Runtime.plain (remoteTopology []) (remoteNode []) = .ok [("clock", entry)] ∧
      Agrees (remoteTopology []) (getEnvConfig (containerEnv entry)) ∧
      getBrokerDefinition Runtime.plain (remoteTopology []) remoteBroker = .ok [("broker", brokerEntry)] ∧
      ReachesBroker remoteBroker entry brokerEntry := by
  have networks : ∀ network ∈ (remoteTopology []).networkObjects, MappingEnvironment network.argsComposeGw := by
    simp [remoteTopology, remoteNode, remoteBroker, Topology.networkObjects, Topology.brokerObjects,
      MappingEnvironment]
  have brokers : ∀ broker ∈ (remoteTopology []).brokerObjects, MappingEnvironment broker.argsCompose := by
    simp [remoteTopology, remoteNode, remoteBroker, Topology.brokerObjects, MappingEnvironment]
  have nodes : ∀ node ∈ (remoteTopology []).nodes, MappingEnvironment node.argsCompose := by
    simp [remoteTopology, remoteNode, MappingEnvironment]
  obtain ⟨-, -, decoded⟩ := @settings_decoded Runtime.plain (remoteTopology []) (fun _ _ => rfl)
    defaultPorts_valid networks brokers nodes
  obtain ⟨entry, made, agrees, reaches⟩ := decoded (remoteNode []) (List.mem_singleton_self _) _ rfl
  obtain ⟨brokerEntry, brokerMade, reached⟩ := reaches remoteBroker rfl (by simp [remoteTopology])
    (fun _ member => by cases member) (fun _ member => by cases member)
  exact ⟨entry, brokerEntry, made, agrees, brokerMade, reached⟩

/-- Networks given as a mapping replace the generated list, and the broker's network is lost. -/
theorem mappedNetworks_unreached : ∃ entry brokerEntry,
    getNodeDefinition Runtime.plain (remoteTopology [("networks", .dict [("near", .dict [])])])
      (remoteNode [("networks", .dict [("near", .dict [])])]) = .ok [("clock", entry)] ∧
    getBrokerDefinition Runtime.plain (remoteTopology [("networks", .dict [("near", .dict [])])]) remoteBroker =
      .ok [("broker", brokerEntry)] ∧ ¬ ReachesBroker remoteBroker entry brokerEntry := by
  refine ⟨_, _, rfl, rfl, ?_⟩
  intro reached
  obtain ⟨network, listed, -⟩ := reached
  change network ∈ ([] : List String) at listed
  cases listed

end Wotemu
