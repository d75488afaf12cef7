import Wotemu.Cli.Diversion
import Wotemu.Topology.Labels

/-! The gateways of a deployed definition.

Docker gives its networks and containers the labels of the definition. What a
container looks up by these labels is then what the topology says: the networks
that it routes are the emulated ones, and the task that it takes for a gateway
is a task of the gateway of the network.
-/

set_option autoImplicit false

namespace Wotemu.Deployment

open Wotemu.Foundation Wotemu.Gateways Wotemu.Diversion Wotemu.Replicas

variable {rt : Runtime} {t : Topology} {D : Definition} {api : NetworkApi}

/-- What the API shows of a stack of the definition: each network and each container has the labels of the
emulator that the definition gives it, and a network lists tasks of services that are attached to it. -/
structure Deployed (D : Definition) (api : NetworkApi) where
  networkName : String → String
  serviceName : String → String
  networks : ∀ networkId info, api.inspectNetwork networkId = .ok info → ∀ label : Labels,
    (info.field "Labels").bind (·.field label.value) =
      (Dict.value? D.networks (networkName networkId)).bind (labelOf · label)
  tasks : ∀ networkId tasks, getTaskInfos api networkId = .ok tasks → ∀ task ∈ tasks, ∃ entry,
    Dict.value? D.services (serviceName task.1) = some entry ∧ networkName networkId ∈ entry.listed "networks" ∧
      ∀ labels, getTaskLabels api task.1 = .ok labels → ∀ label : Labels, labels.field label.value = labelOf entry label

def Attached (task : Value) (networkId : String) : Prop := ∃ attachments net network,
  task.item "NetworksAttachments" = .ok (.list attachments) ∧ net ∈ attachments ∧ net.item "Network" = .ok network ∧
    network.item "ID" = .ok (.str networkId)

section Lookups

theorem hasLabel_iff {labels : Value} {label : Labels} :
    hasLabel labels label = .ok true ↔ ∃ value, labels.field label.value = some value ∧ value ≠ .none := by
  cases labels with
  | dict entries =>
    change Except.ok (decide ((Dict.value? entries label.value).getD .none ≠ .none)) = .ok true ↔ _
    rw [Value.field]
    cases Dict.value? entries label.value <;> simp
  | none | bool | int | float | str | list => exact iff_of_false (by simp [hasLabel, getOr, bind, Except.bind]) (by simp [Value.field])

/-- The test of `get_task_networks` on what the API says about a network. -/
def isEmulated (netInfo : Value) : Except PyError Bool := do
  let labels ← getOr netInfo "Labels" (.dict [])
  hasLabel labels .network

theorem isEmulated_iff {info : Value} : isEmulated info = .ok true ↔
    ∃ value, (info.field "Labels").bind (·.field Labels.network.value) = some value ∧ value ≠ .none := by
  cases info with
  | dict entries =>
    change hasLabel ((Dict.value? entries "Labels").getD (.dict [])) .network = .ok true ↔ _
    rw [hasLabel_iff, Value.field]
    cases Dict.value? entries "Labels" with
    | none => simp [Value.field]
    | some labels => simp
  | none | bool | int | float | str | list => exact iff_of_false (by simp [isEmulated, getOr, bind, Except.bind]) (by simp [Value.field])

theorem called_ok {α : Type} {answer : Except ApiError α} {value : α} (made : called answer = .ok value) :
    answer = .ok value := by
  cases answer with
  | ok found =>
    cases made
    rfl
  | error => cases made

theorem mem_attached {task : Value} {attachments : List Value} {ids : List String}
    (given : task.item "NetworksAttachments" = .ok (.list attachments))
    (read : List.Forall₂ (fun net networkId => (do
      let network ← Value.item net "Network"
      Gateways.text (← network.item "ID")) = .ok networkId) attachments ids) {networkId : String} :
    networkId ∈ ids ↔ Attached task networkId := by
  constructor
  · intro member
    obtain ⟨net, isNet, found⟩ := exists_item_of_forall₂ read member
    obtain ⟨network, isNetwork, found⟩ := bind_ok found
    obtain ⟨value, isId, found⟩ := bind_ok found
    rw [(kind_of_read _).1 _ found] at isId
    exact ⟨attachments, net, network, given, isNet, isNetwork, isId⟩
  · rintro ⟨others, net, network, same, isNet, isNetwork, isId⟩
    rw [given] at same
    cases same
    obtain ⟨other, member, found⟩ := exists_item_of_forall₂ read.flip isNet
    obtain ⟨_, isSame, found⟩ := bind_ok found
    rw [isNetwork] at isSame
    cases isSame
    obtain ⟨_, isSame, found⟩ := bind_ok found
    rw [isId] at isSame
    cases isSame
    cases found
    exact member

/-- The networks that are routed are those of the task's attachments that the API shows with the label. -/
theorem mem_getTaskNetworks {task : Value} {networkIds : List String} (listed : getTaskNetworks api task = .ok networkIds)
    {networkId : String} : networkId ∈ networkIds ↔ Attached task networkId ∧
      ∃ info, api.inspectNetwork networkId = .ok info ∧ isEmulated info = .ok true := by
  obtain ⟨value, given, afterTask⟩ := bind_ok listed
  obtain ⟨attachments, isList, afterList⟩ := bind_ok afterTask
  obtain ⟨ids, read, afterIds⟩ := bind_ok afterList
  obtain ⟨infos, inspected, afterInfos⟩ := bind_ok afterIds
  obtain ⟨kept, filtered, same⟩ := bind_ok afterInfos
  cases same
  rw [(kind_of_read _).2 _ isList] at given
  replace inspected := mapM_ok_iff.mp inspected
  rw [← mem_attached given (mapM_ok_iff.mp read), List.mem_map]
  have answers : ∀ entry ∈ infos, entry.1 ∈ ids ∧ api.inspectNetwork entry.1 = .ok entry.2 := by
    intro entry member
    obtain ⟨id, isId, found⟩ := exists_item_of_forall₂ inspected member
    obtain ⟨info, answered, found⟩ := bind_ok found
    cases found
    exact ⟨isId, called_ok answered⟩
  constructor
  · rintro ⟨⟨id, info⟩, member, rfl⟩
    obtain ⟨updated, tested⟩ := (mem_filterM filtered).mp member
    obtain ⟨isId, answered⟩ := answers _ ((Dict.mem_of_mem_update updated).resolve_left List.not_mem_nil)
    exact ⟨isId, info, answered, tested⟩
  · rintro ⟨isId, info, answered, tested⟩
    obtain ⟨entry, member, found⟩ := exists_item_of_forall₂ inspected.flip isId
    obtain ⟨_, -, found⟩ := bind_ok found
    cases found
    -- a repeated id has the same answer
    have isKey : networkId ∈ Dict.keys (Dict.update [] infos) := by
      rw [Dict.mem_keys_update]
      exact .inr (List.mem_map_of_mem member)
    obtain ⟨⟨id, other⟩, updated, rfl⟩ := List.mem_map.mp isKey
    obtain ⟨-, again⟩ := answers _ ((Dict.mem_of_mem_update updated).resolve_left List.not_mem_nil)
    rw [answered] at again
    cases again
    exact ⟨_, (mem_filterM filtered).mpr ⟨updated, tested⟩, rfl⟩

theorem inspected_of_attached {task : Value} {networkIds : List String}
    (listed : getTaskNetworks api task = .ok networkIds) {networkId : String} (attached : Attached task networkId) :
    ∃ info, api.inspectNetwork networkId = .ok info := by
  obtain ⟨value, given, afterTask⟩ := bind_ok listed
  obtain ⟨attachments, isList, afterList⟩ := bind_ok afterTask
  obtain ⟨ids, read, afterIds⟩ := bind_ok afterList
  obtain ⟨infos, inspected, -⟩ := bind_ok afterIds
  rw [(kind_of_read _).2 _ isList] at given
  have isId := (mem_attached given (mapM_ok_iff.mp read)).mpr attached
  obtain ⟨entry, found⟩ := exists_of_forall₂ (mapM_ok_iff.mp inspected) isId
  obtain ⟨info, answered, -⟩ := bind_ok found
  exact ⟨info, called_ok answered⟩

/-- The task that is found is listed under its name, and its container has the label of the gateways. -/
theorem gatewayTask_found {networkId : String} {gwTask : Value} (looked : getNetworkGatewayTask api networkId = .ok gwTask) :
    ∃ tasks name labels, getTaskInfos api networkId = .ok tasks ∧ (name, gwTask) ∈ tasks ∧
      gwTask.item "Name" = .ok (.str name) ∧ getTaskLabels api name = .ok labels ∧
      hasLabel labels .gateway = .ok true := by
  obtain ⟨tasks, listed, afterTasks⟩ := bind_ok looked
  obtain ⟨taskLabels, read, afterLabels⟩ := bind_ok afterTasks
  obtain ⟨found, searched, chosen⟩ := bind_ok afterLabels
  cases found with
  | none => cases chosen
  | some task =>
    cases chosen
    obtain ⟨member, tested⟩ := findM?_ok_some searched
    obtain ⟨⟨name, info⟩, isTask, labelled⟩ := exists_item_of_forall₂ (mapM_ok_iff.mp read) member
    obtain ⟨labels, isLabels, labelled⟩ := bind_ok labelled
    cases labelled
    refine ⟨tasks, name, labels, listed, isTask, ?_, isLabels, tested⟩
    -- the name is the one that the task was filed under
    obtain ⟨_, -, afterInfo⟩ := bind_ok listed
    obtain ⟨_, -, afterServices⟩ := bind_ok afterInfo
    obtain ⟨_, -, afterNested⟩ := bind_ok afterServices
    obtain ⟨_, -, afterFlat⟩ := bind_ok afterNested
    obtain ⟨taskInfos, named, same⟩ := bind_ok afterFlat
    cases same
    have inside := (Dict.mem_of_mem_update isTask).resolve_left List.not_mem_nil
    obtain ⟨taskInfo, -, made⟩ := exists_item_of_forall₂ (mapM_ok_iff.mp named) inside
    obtain ⟨value, given, made⟩ := bind_ok made
    obtain ⟨name, isText, made⟩ := bind_ok made
    cases made
    rw [(kind_of_read _).1 _ isText] at given
    exact given

end Lookups

section Results

/-- What a container routes are the emulated networks that its task is attached to, unless a private network of a
service has the name of one. -/
theorem routed_iff_emulated (deployed : Deployed D api) (made : t.toComposeDict rt = .ok D)
    (container : Container api) (networkId : String) :
    networkId ∈ container.setup.gwTasks.map GatewayTask.networkId ↔ Attached container.currTask networkId ∧
      t.EmulatedNetwork (deployed.networkName networkId) ∧ ¬ t.PrivateNetwork (deployed.networkName networkId) := by
  obtain ⟨networkIds, _, listed, -, ids, -, -⟩ := gatewayTasks_ok container.discovered
  rw [ids, mem_getTaskNetworks listed]
  apply and_congr_right
  intro attached
  obtain ⟨info, answered⟩ := inspected_of_attached listed attached
  have labels := deployed.networks networkId info answered .network
  have tested : (∃ other, api.inspectNetwork networkId = .ok other ∧ isEmulated other = .ok true) ↔
      isEmulated info = .ok true := by
    rw [answered]
    simp
  rw [tested, isEmulated_iff, labels]
  by_cases isPrivate : t.PrivateNetwork (deployed.networkName networkId)
  · obtain ⟨entry, found, labelled⟩ := Topology.private_labelled made isPrivate
    simp [found, labelled .network, isPrivate]
  · by_cases emulated : t.EmulatedNetwork (deployed.networkName networkId)
    · obtain ⟨entry, found, labelled⟩ := Topology.emulated_labelled made isPrivate emulated
      simp [found, labelled .network, isPrivate, emulated]
    · have absent : Dict.value? D.networks (deployed.networkName networkId) = none := by
        rw [Dict.value?_eq_none, Topology.mem_keys_networks made]
        simp [isPrivate, emulated]
      simp [absent, emulated]

theorem gateway_listed {network : Network} {name : String} {entry : Value}
    (unset : "networks" ∉ Dict.keys network.argsComposeGw)
    (made : getNetworkGatewayDefinition rt t network = .ok [(name, entry)]) :
    entry.listed "networks" = [network.name] := by
  obtain ⟨_, configured, made⟩ := bind_ok made
  cases made
  rw [Value.listed, Value.field, mergeTopologyConfig_frame configured (by decide), mergeArgsCompose]
  split
  · rfl
  · rw [rt.merge_frame _ _ _ unset]
    rfl

/-- The gateway of a network that a container finds is a task of the service that the topology writes as the
gateway of this network. -/
theorem gateway_of_network (deployed : Deployed D api) (deepmerge : rt.DeepMerge) (leaves : t.LeavesLabels)
    (unset : ∀ network ∈ t.networkObjects, "networks" ∉ Dict.keys network.argsComposeGw)
    (made : t.toComposeDict rt = .ok D) (container : Container api) {gw : GatewayTask}
    (isTask : gw ∈ container.setup.gwTasks) : ∃ (network : Network) (gwTask : Value) (name : String),
      t.owner rt network.nameGateway = some (.gateway network) ∧
      network.name = deployed.networkName gw.networkId ∧ getNetworkGatewayTask api gw.networkId = .ok gwTask ∧
      gwTask.item "EndpointIP" = .ok (.str gw.endpointIp) ∧ gwTask.item "Name" = .ok (.str name) ∧
      deployed.serviceName name = network.nameGateway := by
  obtain ⟨gwTask, looked, endpoint⟩ := (container.found isTask).task
  obtain ⟨tasks, name, labels, listed, member, named, isLabels, isGateway⟩ := gatewayTask_found looked
  obtain ⟨entry, found, attached, sameLabels⟩ := deployed.tasks gw.networkId tasks listed _ member
  obtain ⟨c, owned, written, sameName, generated⟩ := Topology.owner_of_value? made found
  have reached := t.reaches_of_written rt written
  have labelled := Component.labelled deepmerge leaves reached generated
  -- only gateways have the label
  obtain ⟨value, hasLabel, -⟩ := hasLabel_iff.mp isGateway
  rw [sameLabels labels isLabels .gateway, labelled .gateway] at hasLabel
  have kind : c.kind = .gateway := by
    split at hasLabel
    · rename_i same
      exact Kind.label_injective same rfl
    · cases hasLabel
  cases c with
  | gateway network =>
    rw [gateway_listed (unset network reached) generated, List.mem_singleton] at attached
    refine ⟨network, gwTask, name, ?_, attached.symm, looked, endpoint, named, sameName.symm⟩
    rw [← sameName] at owned
    exact owned
  | dockerProxy | redis | service | node | broker => cases kind

end Results

/-! A node on the network of the two containers. -/

def lanTopology : Topology where
  nodes := [clockNode "first" none]
  distinct_nodes := rfl
  distinct_services := rfl

def lanDefinition : Definition :=
  match lanTopology.toComposeDict Runtime.plain with
  | .ok D => D
  | .error _ => ⟨"", [], []⟩

def lanDeployed : Deployed lanDefinition lanApi where
  networkName _ := "net"
  serviceName _ := "gw_net"
  networks := by
    intro _ info answered label
    cases answered
    cases label <;> rfl
  tasks := by
    intro networkId tasks listed task member
    have only : getTaskInfos lanApi networkId =
        .ok [("stack_gw_lan.1", .dict [("Name", .str "stack_gw_lan.1"), ("EndpointIP", .str "10.0.1.2")])] := rfl
    rw [only] at listed
    cases listed
    rw [List.mem_singleton.mp member]
    refine ⟨_, rfl, by decide, fun labels read label => ?_⟩
    cases read
    cases label <;> rfl

theorem lan_routed : "n1" ∈ lanClient.setup.gwTasks.map GatewayTask.networkId ↔
    Attached lanClient.currTask "n1" ∧ lanTopology.EmulatedNetwork "net" ∧ ¬ lanTopology.PrivateNetwork "net" :=
  routed_iff_emulated lanDeployed (rfl : lanTopology.toComposeDict Runtime.plain = .ok _) lanClient "n1"

theorem lan_gateway_found : ∃ (network : Network) (gwTask : Value) (name : String),
    lanTopology.owner Runtime.plain network.nameGateway = some (.gateway network) ∧ network.name = "net" ∧
      getNetworkGatewayTask lanApi "n1" = .ok gwTask ∧ gwTask.item "EndpointIP" = .ok (.str "10.0.1.2") ∧
      gwTask.item "Name" = .ok (.str name) ∧
      "gw_net" = network.nameGateway := by
  have leaves : lanTopology.LeavesLabels := by
    constructor <;> simp [lanTopology, clockNode, Topology.networkObjects, Topology.brokerObjects,
      Topology.serviceObjects, LeavesLabels]
  have unset : ∀ network ∈ lanTopology.networkObjects, "networks" ∉ Dict.keys network.argsComposeGw := by
    simp [lanTopology, clockNode, Topology.networkObjects, Topology.brokerObjects, Dict.keys]
  exact gateway_of_network lanDeployed (fun _ _ => rfl) leaves unset
    (rfl : lanTopology.toComposeDict Runtime.plain = .ok _) lanClient (List.mem_singleton_self (lanGateway "10.0.1.9"))

end Wotemu.Deployment
