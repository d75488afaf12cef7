import Wotemu.Topology.Components

/-! What the generators list as networks, dependencies and labels of a service.

Only user dictionaries can change these attributes after they are set, so they
are read off the generators for components without `args_compose`.
-/

set_option autoImplicit false

namespace Wotemu

open Wotemu.Foundation

variable {rt : Runtime} {t : Topology}

section Frames

variable {service result : Dict String Value} {key : String}

theorem mergeTopologyConfig_frame (made : mergeTopologyConfig t service = .ok result)
    (different : key ≠ "environment") : Dict.value? result key = Dict.value? service key := by
  unfold mergeTopologyConfig at made
  split at made
  · cases made
    exact Dict.value?_assign_of_ne different
  · cases made

theorem mergeParam_frame {params : Dict String Value} {param target : String}
    (made : mergeParam params param target service = .ok result) (different : key ≠ target) :
    Dict.value? result key = Dict.value? service key := by
  unfold mergeParam updateAttribute at made
  dsimp only at made
  split at made
  · obtain ⟨entries, -, made⟩ := bind_ok made
    cases made
    exact Dict.value?_assign_of_ne different
  · cases made
    rfl

theorem mergeTargetSpeed_frame (node : Node) (different : key ≠ "environment") :
    Dict.value? (mergeTargetSpeed rt node service) key = Dict.value? service key := by
  unfold mergeTargetSpeed
  split
  · split
    · exact rt.merge_frame _ _ _ (by simpa [Dict.keys] using different)
    · rfl
  · rfl

theorem updateDeploy_frame (deploy : Dict String Value) (different : key ≠ "deploy") :
    Dict.value? (if deploy.isEmpty then service else Dict.update service [("deploy", .dict deploy)]) key =
      Dict.value? service key := by
  split
  · rfl
  · exact Dict.value?_update_of_not_mem (by simpa [Dict.keys] using different)

@[simp] theorem mergeArgsCompose_nil : mergeArgsCompose rt service [] = service := rfl

end Frames

section Fields

variable {name : String} {entry : Value} (key : String)

theorem service_field {srv : Service} (made : getGenericServiceDefinition rt t srv = .ok [(name, entry)])
    (env : key ≠ "environment") (labels : key ≠ "labels") (deploy : key ≠ "deploy") :
    entry.field key = Dict.value? (Dict.update serviceBaseGeneric
      [("image", .str srv.image),
       ("networks", .ofStrings ((t.getServiceNodes rt srv).map srv.getNodeNetworkName))]) key := by
  obtain ⟨withEnv, env', made⟩ := bind_ok made
  obtain ⟨withLabels, labels', made⟩ := bind_ok made
  obtain ⟨_, -, made⟩ := bind_ok made
  obtain ⟨_, -, made⟩ := bind_ok made
  cases made
  rw [Value.field, Dict.value?_update, Dict.value?_update, updateDeploy_frame _ deploy,
    mergeParam_frame labels' labels, mergeParam_frame env' env]

theorem gateway_field {network : Network} (plain : network.argsComposeGw = [])
    (made : getNetworkGatewayDefinition rt t network = .ok [(name, entry)]) (env : key ≠ "environment") :
    entry.field key = Dict.value? (Dict.update serviceBaseGateway
      [("image", imageOverride rt), ("command", .list network.cmdGateway),
       ("networks", .ofStrings [network.name]), ("depends_on", .ofStrings (coreDependsOn t))]) key := by
  unfold getNetworkGatewayDefinition at made
  obtain ⟨_, configured, made⟩ := bind_ok made
  cases made
  rw [Value.field, mergeTopologyConfig_frame configured env, plain, mergeArgsCompose_nil]

theorem broker_field {broker : Broker} (plain : broker.argsCompose = [])
    (made : getBrokerDefinition rt t broker = .ok [(name, entry)]) (env : key ≠ "environment") :
    entry.field key = Dict.value? (Dict.update serviceBaseBroker
      [("image", imageOverride rt), ("command", .ofStrings broker.cmd),
       ("networks", .ofStrings (broker.networks.map Network.name)),
       ("depends_on", .ofStrings (broker.networks.map Network.nameGateway ++ coreDependsOn t))]) key := by
  unfold getBrokerDefinition at made
  obtain ⟨_, configured, made⟩ := bind_ok made
  cases made
  rw [Value.field, mergeTopologyConfig_frame configured env, plain, mergeArgsCompose_nil]

theorem node_field {node : Node} (plain : node.argsCompose = [])
    (made : getNodeDefinition rt t node = .ok [(name, entry)])
    (env : key ≠ "environment") (deploy : key ≠ "deploy") :
    ∃ brokerNetwork, node.brokerNetwork = .ok brokerNetwork ∧
      entry.field key = Dict.value? (Dict.update serviceBaseNode
        [("image", .str (node.image rt)), ("command", .ofStrings node.cmdApp),
         ("networks", .ofStrings (rt.arrange (distinctBy id (nodeNetworks node brokerNetwork)))),
         ("depends_on", .ofStrings (rt.arrange (distinctBy id (nodeDependsOn t node brokerNetwork)))),
         ("environment", .dict (nodeEnvironment node brokerNetwork))]) key := by
  unfold getNodeDefinition at made
  obtain ⟨brokerNetwork, chosen, made⟩ := bind_ok made
  obtain ⟨_, configured, made⟩ := bind_ok made
  cases made
  refine ⟨brokerNetwork, chosen, ?_⟩
  rw [Value.field, mergeTopologyConfig_frame configured env, plain, mergeArgsCompose_nil,
    updateDeploy_frame _ deploy, mergeTargetSpeed_frame node env]

end Fields

section Listed

variable {name : String} {entry : Value}

theorem dockerProxy_networks (made : Component.dockerProxy.toComposeDict rt t = .ok [(name, entry)]) :
    entry.listed "networks" = (t.networks rt).map Network.name := by
  cases made
  exact Value.strings_ofStrings _

theorem redis_networks (made : Component.redis.toComposeDict rt t = .ok [(name, entry)]) :
    entry.listed "networks" = (t.networks rt).map Network.name := by
  cases made
  exact Value.strings_ofStrings _

theorem service_networks {srv : Service} (made : getGenericServiceDefinition rt t srv = .ok [(name, entry)]) :
    entry.listed "networks" = (t.getServiceNodes rt srv).map srv.getNodeNetworkName := by
  rw [Value.listed, service_field "networks" made (by decide) (by decide) (by decide)]
  exact Value.strings_ofStrings _

theorem service_dependsOn {srv : Service} (made : getGenericServiceDefinition rt t srv = .ok [(name, entry)]) :
    entry.listed "depends_on" = [] := by
  rw [Value.listed, service_field "depends_on" made (by decide) (by decide) (by decide)]
  rfl

theorem gateway_networks {network : Network} (plain : network.argsComposeGw = [])
    (made : getNetworkGatewayDefinition rt t network = .ok [(name, entry)]) :
    entry.listed "networks" = [network.name] := by
  rw [Value.listed, gateway_field "networks" plain made (by decide)]
  exact Value.strings_ofStrings _

theorem gateway_dependsOn {network : Network} (plain : network.argsComposeGw = [])
    (made : getNetworkGatewayDefinition rt t network = .ok [(name, entry)]) :
    entry.listed "depends_on" = coreDependsOn t := by
  rw [Value.listed, gateway_field "depends_on" plain made (by decide)]
  exact Value.strings_ofStrings _

theorem broker_networks {broker : Broker} (plain : broker.argsCompose = [])
    (made : getBrokerDefinition rt t broker = .ok [(name, entry)]) :
    entry.listed "networks" = broker.networks.map Network.name := by
  rw [Value.listed, broker_field "networks" plain made (by decide)]
  exact Value.strings_ofStrings _

theorem broker_dependsOn {broker : Broker} (plain : broker.argsCompose = [])
    (made : getBrokerDefinition rt t broker = .ok [(name, entry)]) :
    entry.listed "depends_on" = broker.networks.map Network.nameGateway ++ coreDependsOn t := by
  rw [Value.listed, broker_field "depends_on" plain made (by decide)]
  exact Value.strings_ofStrings _

theorem broker_labels {broker : Broker} (plain : broker.argsCompose = [])
    (made : getBrokerDefinition rt t broker = .ok [(name, entry)]) :
    entry.field "labels" = some (labelled .broker) :=
  (broker_field "labels" plain made (by decide)).trans rfl

theorem node_networks {node : Node} (plain : node.argsCompose = [])
    (made : getNodeDefinition rt t node = .ok [(name, entry)]) :
    ∃ brokerNetwork, node.brokerNetwork = .ok brokerNetwork ∧
      ∀ network, network ∈ entry.listed "networks" ↔ network ∈ nodeNetworks node brokerNetwork := by
  obtain ⟨brokerNetwork, chosen, same⟩ := node_field "networks" plain made (by decide) (by decide)
  refine ⟨brokerNetwork, chosen, fun network => ?_⟩
  rw [Value.listed, same]
  refine Iff.trans (Eq.to_iff (congrArg (_ ∈ ·) (Value.strings_ofStrings _))) ?_
  simp

theorem node_dependsOn {node : Node} (plain : node.argsCompose = [])
    (made : getNodeDefinition rt t node = .ok [(name, entry)]) :
    ∃ brokerNetwork, node.brokerNetwork = .ok brokerNetwork ∧
      ∀ service, service ∈ entry.listed "depends_on" ↔ service ∈ nodeDependsOn t node brokerNetwork := by
  obtain ⟨brokerNetwork, chosen, same⟩ := node_field "depends_on" plain made (by decide) (by decide)
  refine ⟨brokerNetwork, chosen, fun service => ?_⟩
  rw [Value.listed, same]
  refine Iff.trans (Eq.to_iff (congrArg (_ ∈ ·) (Value.strings_ofStrings _))) ?_
  simp

theorem node_labels {node : Node} (plain : node.argsCompose = [])
    (made : getNodeDefinition rt t node = .ok [(name, entry)]) :
    entry.field "labels" = some (labelled .node) := by
  obtain ⟨_, -, same⟩ := node_field "labels" plain made (by decide) (by decide)
  exact same.trans rfl

theorem mem_nodeNetworks {node : Node} {brokerNetwork : Option Network} {name : String} :
    name ∈ nodeNetworks node brokerNetwork ↔ (∃ network ∈ node.networks, network.name = name) ∨
      (∃ srv ∈ node.services, srv.getNodeNetworkName node = name) ∨
      ∃ network, brokerNetwork = some network ∧ network.name = name := by
  simp [nodeNetworks]

theorem mem_nodeDependsOn {node : Node} {brokerNetwork : Option Network} {name : String} :
    name ∈ nodeDependsOn t node brokerNetwork ↔ (∃ network ∈ node.networks, network.nameGateway = name) ∨
      name ∈ coreDependsOn t ∨ ∃ network, brokerNetwork = some network ∧ network.nameGateway = name := by
  simp [nodeDependsOn]

theorem service_eq_of_same_definition {srv other : Service} {entries : Dict String Value}
    (reached : other ∈ t.serviceObjects) (sameName : srv.name = other.name)
    (left : getGenericServiceDefinition rt t srv = .ok entries)
    (right : getGenericServiceDefinition rt t other = .ok entries) : srv = other := by
  obtain ⟨entry, rfl⟩ := Component.single rt t (.service srv) _ left
  obtain ⟨node, member, linked⟩ := List.mem_flatMap.mp reached
  -- the other service lists the network of a node that it is linked to, and so does the first one
  have attached : other.getNodeNetworkName node ∈ entry.listed "networks" := by
    rw [service_networks right]
    exact List.mem_map_of_mem ((t.mem_getServiceNodes rt).mpr ⟨member, linked⟩)
  rw [service_networks left, List.mem_map] at attached
  obtain ⟨host, hostMember, sameNetwork⟩ := attached
  obtain ⟨hostMember, hostLinked⟩ := (t.mem_getServiceNodes rt).mp hostMember
  unfold Service.getNodeNetworkName at sameNetwork
  rw [sameName, String.append_right_inj] at sameNetwork
  cases t.node_eq_of_name hostMember member sameNetwork
  exact List.inj_on_of_nodup_map node.services_distinct hostLinked linked sameName

end Listed

end Wotemu
