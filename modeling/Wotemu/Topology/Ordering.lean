import Mathlib.Data.List.Rotate
import Wotemu.Foundation.Reordering
import Wotemu.Topology.Environment

/-! The definitions that one topology gives under different iteration orders of its sets.

Sets keep the first object of a name. Nodes are a list, so what they refer to is
kept in every order; the brokers are a set, and of the networks with one name
that only brokers have, the order decides which object is kept.
-/

set_option autoImplicit false

namespace Wotemu

open Wotemu.Foundation

structure Runtime.Reorders (other rt : Runtime) : Prop where
  getenv : other.getenv = rt.getenv
  underscore : other.underscore = rt.underscore
  merge : other.merge = rt.merge

def FreeOrder (key : String) : Prop := key = "networks" ∨ key = "depends_on"

def SameService : Value → Value → Prop
  | .dict service, .dict other =>
    Dict.Related (fun key a b => a.Same b ∨ FreeOrder key ∧ a.SameItems b) service other
  | value, other => value.Same other

/-- Equal up to the order of the entries in `networks` and `depends_on`. -/
structure SameDefinition (D E : Definition) : Prop where
  version : D.version = E.version
  services : Dict.Related (fun _ => SameService) D.services E.services
  networks : Dict.Related (fun _ => Value.Same) D.networks E.networks

/-- Both runs raise, or both return the same definition. -/
def SameOutcome : Except PyError Definition → Except PyError Definition → Prop
  | .ok D, .ok E => SameDefinition D E
  | .error _, .error _ => True
  | _, _ => False

namespace Topology

variable (rt : Runtime) (t : Topology)

/-- The network objects that some order keeps: the first of a name among the nodes, or, when no
node has the name, the first of the name in one of the brokers kept. -/
def MayKeep (network : Network) : Prop :=
  network ∈ distinctBy Network.name (t.nodes.flatMap Node.networks) ∨
  (network.name ∉ (t.nodes.flatMap Node.networks).map Network.name ∧
    ∃ broker ∈ distinctBy Broker.name t.brokerObjects, network ∈ distinctBy Network.name broker.networks)

def laterNames : List String :=
  t.serviceObjects.map Service.name ++ t.nodes.map Node.name ++ t.brokerObjects.map Broker.name

def Fails : Prop := ∃ c ∈ t.written rt, ∃ why, c.toComposeDict rt t = .error why

/-- The networks of one name that an order may keep give the same gateway, unless something is
written over it. -/
def GatewaysAgree : Prop :=
  ∀ first second, t.MayKeep first → t.MayKeep second → first.name = second.name →
    ∃ entry other, getNetworkGatewayDefinition rt t first = .ok [(first.nameGateway, entry)] ∧
      getNetworkGatewayDefinition rt t second = .ok [(second.nameGateway, other)] ∧
      (first.nameGateway ∈ t.laterNames ∨ SameService entry other)

/-- A generator raises in every order, or the order does not change a gateway. -/
def OrderFree : Prop := (∀ order : Runtime, order.Reorders rt → t.Fails order) ∨ t.GatewaysAgree rt

end Topology

theorem SameService.refl (value : Value) : SameService value value := by
  cases value with
  | dict service =>
    have each : ∀ key (value : Value), value.Same value ∨ FreeOrder key ∧ value.SameItems value :=
      fun _ value => Or.inl (Value.Same.refl value)
    exact Dict.Related.refl each service
  | none | bool | int | float | str | list => exact Value.Same.refl _

/-- Two generators of one component raise together or write related entries. -/
def Alike (made other : Except PyError (Dict String Value)) : Prop :=
  (∃ why other', made = .error why ∧ other = .error other') ∨
  ∃ entries others, made = .ok entries ∧ other = .ok others ∧ Dict.Related (fun _ => SameService) entries others

namespace Alike

theorem refl (made : Except PyError (Dict String Value)) : Alike made made := by
  cases made with
  | error why => exact Or.inl ⟨why, why, rfl, rfl⟩
  | ok entries => exact Or.inr ⟨entries, entries, rfl, rfl, Dict.Related.refl (fun _ => SameService.refl) entries⟩

theorem bind {α : Type} (step : Except PyError α) {f g : α → Except PyError (Dict String Value)}
    (each : ∀ value, Alike (f value) (g value)) : Alike (step >>= f) (step >>= g) := by
  cases step with
  | error why => exact Or.inl ⟨why, why, rfl, rfl⟩
  | ok value => exact each value

theorem same_of_made {made other : Except PyError (Dict String Value)} (alike : Alike made other) {name : String}
    {entry otherEntry : Value} (left : made = .ok [(name, entry)]) (right : other = .ok [(name, otherEntry)]) :
    SameService entry otherEntry := by
  cases alike with
  | inl both =>
    obtain ⟨_, _, raised, -⟩ := both
    cases left.symm.trans raised
  | inr neither =>
    obtain ⟨_, _, generated, otherGenerated, related⟩ := neither
    cases left.symm.trans generated
    cases right.symm.trans otherGenerated
    cases related name with
    | inl absent => simp [Dict.value?_cons] at absent
    | inr present =>
      obtain ⟨a, b, found, otherFound, same⟩ := present
      simp only [Dict.value?_cons, if_pos, Option.some.injEq] at found otherFound
      exact found ▸ otherFound ▸ same

theorem entry (name : String) {service other : Dict String Value}
    (related : Dict.Related (Value.Reordered FreeOrder) service other) :
    Alike (.ok [(name, .dict service)]) (.ok [(name, .dict other)]) := by
  refine Or.inr ⟨_, _, rfl, rfl, ?_⟩
  have same : SameService (.dict service) (.dict other) := related.imp fun _ _ _ => Value.Reordered.same_or_items
  exact @Dict.Related.assign Value _ [] [] (Dict.Related.refl (fun _ => SameService.refl) []) name _ _ same

end Alike

theorem reordered_refl (service : Dict String Value) : Dict.Related (Value.Reordered FreeOrder) service service :=
  Dict.Related.refl Value.Reordered.refl service

theorem reordered_ofStrings {key : String} (free : FreeOrder key) {names others : List String}
    (perm : names.Perm others) : Value.Reordered FreeOrder key (.ofStrings names) (.ofStrings others) :=
  Or.inr ⟨free, _, _, rfl, rfl, perm.map Value.str⟩

theorem free_networks : FreeOrder "networks" := Or.inl rfl

theorem free_dependsOn : FreeOrder "depends_on" := Or.inr rfl

section Components

variable {first second : Runtime} {t : Topology}

theorem nodup_networks (rt : Runtime) (t : Topology) : ((t.networks rt).map Network.name).Nodup := by
  unfold Topology.networks
  exact ((rt.arrange_perm _).map _).nodup_iff.mpr (nodup_map_distinctBy _ _)

theorem networks_perm (first second : Runtime) (t : Topology) :
    ((t.networks first).map Network.name).Perm ((t.networks second).map Network.name) := by
  rw [List.perm_ext_iff_of_nodup (nodup_networks first t) (nodup_networks second t)]
  intro name
  rw [t.mem_networks_name first, t.mem_networks_name second]

theorem dockerProxy_alike : Alike (.ok (getDockerProxyDefinition first t)) (.ok (getDockerProxyDefinition second t)) :=
  Alike.entry _ ((reordered_refl serviceBaseDockerProxy).assign
    (reordered_ofStrings free_networks (networks_perm first second t)))

theorem redis_alike : Alike (.ok (getRedisDefinition first t)) (.ok (getRedisDefinition second t)) :=
  Alike.entry _ (((reordered_refl serviceBaseRedis).assign
    (reordered_ofStrings free_networks (networks_perm first second t))).assign (Value.Reordered.refl "ports" _))

theorem service_alike (srv : Service) :
    Alike (getGenericServiceDefinition first t srv) (getGenericServiceDefinition second t srv) := by
  have nodes : ((t.getServiceNodes first srv).map srv.getNodeNetworkName).Perm
      ((t.getServiceNodes second srv).map srv.getNodeNetworkName) :=
    ((first.arrange_perm _).trans (second.arrange_perm _).symm).map _
  unfold getGenericServiceDefinition
  refine Alike.bind _ fun withEnv => Alike.bind _ fun withLabels => ?_
  refine Alike.bind _ fun policy => Alike.bind _ fun mode => ?_
  exact Alike.entry _ (((reordered_refl _).assign (Value.Reordered.refl "image" _)).assign
    (reordered_ofStrings free_networks nodes))

variable (reorders : first.Reorders second)

include reorders

theorem gateway_eq (network : Network) :
    getNetworkGatewayDefinition first t network = getNetworkGatewayDefinition second t network := by
  unfold getNetworkGatewayDefinition imageOverride mergeArgsCompose
  rw [reorders.getenv, reorders.merge]

theorem broker_eq (broker : Broker) : getBrokerDefinition first t broker = getBrokerDefinition second t broker := by
  unfold getBrokerDefinition imageOverride mergeArgsCompose
  rw [reorders.getenv, reorders.merge]

variable (deepmerge : second.DeepMerge)

include deepmerge

theorem merge_reordered {service other : Dict String Value}
    (related : Dict.Related (Value.Reordered FreeOrder) service other) (later : Dict String Value) :
    Dict.Related (Value.Reordered FreeOrder) (first.merge service later) (second.merge other later) := by
  rw [reorders.merge, deepmerge, deepmerge]
  exact Value.Reordered.mergeEntries related later

theorem mergeTargetSpeed_reordered (node : Node) {service other : Dict String Value}
    (related : Dict.Related (Value.Reordered FreeOrder) service other) :
    Dict.Related (Value.Reordered FreeOrder) (mergeTargetSpeed first node service)
      (mergeTargetSpeed second node other) := by
  unfold mergeTargetSpeed
  split
  · split
    · exact merge_reordered reorders deepmerge related _
    · exact related
  · exact related

theorem nodeService_reordered (node : Node) (brokerNetwork : Option Network) :
    Dict.Related (Value.Reordered FreeOrder) (nodeService first t node brokerNetwork)
      (nodeService second t node brokerNetwork) := by
  have image : node.image first = node.image second := by
    unfold Node.image
    rw [reorders.getenv]
  have arranged : ∀ names : List String, (first.arrange names).Perm (second.arrange names) :=
    fun names => (first.arrange_perm names).trans (second.arrange_perm names).symm
  have base : Dict.Related (Value.Reordered FreeOrder)
      (Dict.update serviceBaseNode
        [("image", .str (node.image first)), ("command", .ofStrings node.cmdApp),
         ("networks", .ofStrings (first.arrange (distinctBy id (nodeNetworks node brokerNetwork)))),
         ("depends_on", .ofStrings (first.arrange (distinctBy id (nodeDependsOn t node brokerNetwork)))),
         ("environment", .dict (nodeEnvironment node brokerNetwork))])
      (Dict.update serviceBaseNode
        [("image", .str (node.image second)), ("command", .ofStrings node.cmdApp),
         ("networks", .ofStrings (second.arrange (distinctBy id (nodeNetworks node brokerNetwork)))),
         ("depends_on", .ofStrings (second.arrange (distinctBy id (nodeDependsOn t node brokerNetwork)))),
         ("environment", .dict (nodeEnvironment node brokerNetwork))]) := by
    simp only [Dict.update_cons, Dict.update_nil, image]
    exact ((((((reordered_refl _).assign (Value.Reordered.refl _ _)).assign (Value.Reordered.refl _ _)).assign
      (reordered_ofStrings free_networks (arranged _))).assign
      (reordered_ofStrings free_dependsOn (arranged _))).assign (Value.Reordered.refl _ _))
  have speed := mergeTargetSpeed_reordered reorders deepmerge node base
  unfold nodeService
  dsimp only
  split
  · exact speed
  · exact speed.assign (Value.Reordered.refl "deploy" _)

omit reorders deepmerge in
theorem configured_alike (name : String) {service other : Dict String Value}
    (related : Dict.Related (Value.Reordered FreeOrder) service other) :
    Alike (do
        let service ← mergeTopologyConfig t service
        return [(name, Value.dict service)])
      (do
        let service ← mergeTopologyConfig t other
        return [(name, Value.dict service)]) := by
  have environment : Dict.value? service "environment" = Dict.value? other "environment" :=
    Value.Reordered.value?_eq related (by simp [FreeOrder])
  unfold mergeTopologyConfig
  rw [environment]
  split
  · exact Alike.entry name (related.assign (Value.Reordered.refl _ _))
  · exact Alike.refl _

theorem node_alike (node : Node) : Alike (getNodeDefinition first t node) (getNodeDefinition second t node) := by
  cases chosen : node.brokerNetwork with
  | error why =>
    unfold getNodeDefinition
    rw [chosen]
    exact Alike.refl _
  | ok brokerNetwork =>
    rw [getNodeDefinition_eq chosen, getNodeDefinition_eq chosen]
    apply configured_alike
    unfold mergeArgsCompose
    split
    · exact nodeService_reordered reorders deepmerge node brokerNetwork
    · exact merge_reordered reorders deepmerge (nodeService_reordered reorders deepmerge node brokerNetwork) _

/-- Every component is generated alike in both orders. -/
theorem component_alike (c : Component) : Alike (c.toComposeDict first t) (c.toComposeDict second t) := by
  cases c with
  | dockerProxy => exact dockerProxy_alike
  | redis => exact redis_alike
  | gateway network =>
    simp only [Component.toComposeDict]
    rw [gateway_eq reorders network]
    exact Alike.refl _
  | service srv => exact service_alike srv
  | node node => exact node_alike reorders deepmerge node
  | broker broker =>
    simp only [Component.toComposeDict]
    rw [broker_eq reorders broker]
    exact Alike.refl _

end Components

section Kept

variable {rt : Runtime} {t : Topology}

theorem mem_networks_iff {network : Network} : network ∈ t.networks rt ↔
    ((t.nodes.flatMap Node.networks).find? (fun other => other.name = network.name)).or
      (((t.brokers rt).flatMap Broker.networks).find? (fun other => other.name = network.name)) = some network := by
  unfold Topology.networks
  rw [Runtime.mem_arrange, mem_distinctBy, List.find?_append, find?_distinctBy, find?_distinctBy]

theorem mayKeep_of_mem {network : Network} (member : network ∈ t.networks rt) : t.MayKeep network := by
  rw [mem_networks_iff] at member
  cases ofNodes : (t.nodes.flatMap Node.networks).find? (fun other => other.name = network.name) with
  | some kept =>
    rw [ofNodes, Option.some_or] at member
    cases member
    exact Or.inl ((mem_distinctBy _).mpr ofNodes)
  | none =>
    rw [ofNodes, Option.none_or, List.find?_flatMap] at member
    obtain ⟨broker, brokerMember, found⟩ := List.exists_of_findSome?_eq_some member
    right
    constructor
    · intro listed
      obtain ⟨other, otherMember, same⟩ := List.mem_map.mp listed
      have different := List.find?_eq_none.mp ofNodes other otherMember
      exact different (decide_eq_true same)
    · exact ⟨broker, (t.mem_brokers rt).mp brokerMember, (mem_distinctBy _).mpr found⟩

def Runtime.rotated (rt : Runtime) (position : Nat) : Runtime :=
  { rt with
    arrange := fun items => items.rotate position
    arrange_perm := fun items => List.rotate_perm items position }

theorem rotated_reorders (position : Nat) : (rt.rotated position).Reorders rt := ⟨rfl, rfl, rfl⟩

/-- Any one of the brokers kept comes first in some order. -/
theorem exists_first {broker : Broker} (kept : broker ∈ distinctBy Broker.name t.brokerObjects) :
    ∃ position rest, t.brokers (rt.rotated position) = broker :: rest := by
  obtain ⟨position, inside, here⟩ := List.mem_iff_getElem.mp kept
  refine ⟨position, (distinctBy Broker.name t.brokerObjects).drop (position + 1) ++
    (distinctBy Broker.name t.brokerObjects).take position, ?_⟩
  change (distinctBy Broker.name t.brokerObjects).rotate position = _
  rw [List.rotate_eq_drop_append_take inside.le, List.drop_eq_getElem_cons inside, here, List.cons_append]

theorem exists_order {network : Network} (may : t.MayKeep network) :
    ∃ order : Runtime, order.Reorders rt ∧ network ∈ t.networks order := by
  cases may with
  | inl ofNodes =>
    refine ⟨rt, ⟨rfl, rfl, rfl⟩, mem_networks_iff.mpr ?_⟩
    rw [(mem_distinctBy _).mp ofNodes, Option.some_or]
  | inr ofBroker =>
    obtain ⟨free, broker, brokerKept, kept⟩ := ofBroker
    obtain ⟨position, rest, brokers⟩ := @exists_first rt t broker brokerKept
    refine ⟨rt.rotated position, rotated_reorders position, mem_networks_iff.mpr ?_⟩
    have noNode : (t.nodes.flatMap Node.networks).find? (fun other => other.name = network.name) = none := by
      rw [List.find?_eq_none]
      intro other member same
      exact free (List.mem_map.mpr ⟨other, member, of_decide_eq_true same⟩)
    rw [noNode, Option.none_or, brokers, List.flatMap_cons, List.find?_append, (mem_distinctBy _).mp kept,
      Option.some_or]

end Kept

section Owners

variable {first second : Runtime} {t : Topology} {name : String}

theorem last_family_eq {α : Type} (wrap : α → Component) {items others : List α} (perm : items.Perm others)
    (nodup : (items.map fun item => (wrap item).name t).Nodup) :
    UpdateEach.last (Component.name t) name (items.map wrap) =
      UpdateEach.last (Component.name t) name (others.map wrap) := by
  apply UpdateEach.last_congr
  · intro c
    exact (perm.map wrap).mem_iff
  · intro c member other otherMember same
    obtain ⟨item, inside, rfl⟩ := List.mem_map.mp member
    obtain ⟨otherItem, otherInside, rfl⟩ := List.mem_map.mp otherMember
    exact congrArg wrap (List.inj_on_of_nodup_map nodup inside otherInside same)

def Topology.later (rt : Runtime) (t : Topology) : List Component :=
  (t.services rt).map .service ++ t.nodes.map .node ++ (t.brokers rt).map .broker

theorem last_later_eq : UpdateEach.last (Component.name t) name (t.later first) =
    UpdateEach.last (Component.name t) name (t.later second) := by
  have brokers : (t.brokers first).Perm (t.brokers second) :=
    (first.arrange_perm _).trans (second.arrange_perm _).symm
  have services : (t.services first).Perm (t.services second) :=
    (first.arrange_perm _).trans (second.arrange_perm _).symm
  have nodupBrokers : ((t.brokers first).map Broker.name).Nodup :=
    ((first.arrange_perm _).map _).nodup_iff.mpr (nodup_map_distinctBy _ _)
  have nodupServices : ((t.services first).map Service.name).Nodup :=
    ((first.arrange_perm _).map _).nodup_iff.mpr (nodup_map_distinctBy _ _)
  unfold Topology.later
  simp only [UpdateEach.last_append]
  rw [last_family_eq Component.broker brokers nodupBrokers, last_family_eq Component.service services nodupServices]

theorem last_later_none (rt : Runtime) :
    UpdateEach.last (Component.name t) name (t.later rt) = none ↔ name ∉ t.laterNames := by
  have names : (t.later rt).map (Component.name t) = (t.services rt).map Service.name ++ t.nodes.map Node.name ++
      (t.brokers rt).map Broker.name := by
    unfold Topology.later
    simp [Function.comp_def, Component.name]
  have listed : name ∈ (t.later rt).map (Component.name t) ↔ name ∈ t.laterNames := by
    rw [names, Topology.laterNames, List.mem_append, List.mem_append, List.mem_append, List.mem_append]
    unfold Topology.services Topology.brokers
    rw [((rt.arrange_perm _).map _).mem_iff, ((rt.arrange_perm _).map _).mem_iff, mem_map_distinctBy,
      mem_map_distinctBy]
    rfl
  rw [UpdateEach.last_eq_none, ← listed, List.mem_map]
  constructor
  · intro all found
    obtain ⟨c, member, same⟩ := found
    exact all c member same
  · intro none c member same
    exact none ⟨c, member, same⟩

def Topology.core (t : Topology) : List Component :=
  (if t.dockerProxy.enabled then [.dockerProxy] else []) ++ (if t.redis.enabled then [.redis] else [])

theorem written_eq (rt : Runtime) : t.written rt = t.core ++ (t.networks rt).map .gateway ++ t.later rt := by
  unfold Topology.written Topology.core Topology.later
  simp only [List.append_assoc]

theorem owner_eq (rt : Runtime) : t.owner rt name = (UpdateEach.last (Component.name t) name (t.later rt)).or
    ((UpdateEach.last (Component.name t) name ((t.networks rt).map .gateway)).or
      (UpdateEach.last (Component.name t) name t.core)) := by
  rw [Topology.owner, written_eq, UpdateEach.last_append, UpdateEach.last_append]

theorem last_gateway {rt : Runtime} {network : Network} (kept : network ∈ t.networks rt) :
    UpdateEach.last (Component.name t) network.nameGateway ((t.networks rt).map .gateway) =
      some (.gateway network) := by
  have member : Component.gateway network ∈ (t.networks rt).map .gateway := List.mem_map_of_mem kept
  apply UpdateEach.last_of_injOn member
  intro c otherMember same
  obtain ⟨other, inside, rfl⟩ := List.mem_map.mp otherMember
  exact congrArg Component.gateway
    (List.inj_on_of_nodup_map (nodup_networks rt t) inside kept (Network.nameGateway_injective same))

theorem owner_gateway {rt : Runtime} {network : Network} (kept : network ∈ t.networks rt)
    (free : network.nameGateway ∉ t.laterNames) : t.owner rt network.nameGateway = some (.gateway network) := by
  rw [owner_eq, (last_later_none rt).mpr free, Option.none_or, last_gateway kept, Option.some_or]

/-- The same component owns a name in both orders, or the gateways of two networks with one name do. -/
theorem owner_cases (first second : Runtime) (t : Topology) (name : String) :
    t.owner first name = t.owner second name ∨
    ∃ network ∈ t.networks first, ∃ other ∈ t.networks second, network.name = other.name ∧
      network.nameGateway = name ∧ name ∉ t.laterNames := by
  cases later : UpdateEach.last (Component.name t) name (t.later first) with
  | some c =>
    left
    rw [owner_eq, owner_eq, ← @last_later_eq first second, later, Option.some_or, Option.some_or]
  | none =>
    have free := (last_later_none first).mp later
    cases gateway : UpdateEach.last (Component.name t) name ((t.networks first).map .gateway) with
    | some c =>
      right
      obtain ⟨here, member⟩ := UpdateEach.last_key gateway
      obtain ⟨network, kept, rfl⟩ := List.mem_map.mp member
      have listed := (networks_perm first second t).mem_iff.mp (List.mem_map_of_mem kept)
      obtain ⟨other, otherKept, same⟩ := List.mem_map.mp listed
      exact ⟨network, kept, other, otherKept, same.symm, here, free⟩
    | none =>
      left
      have none : UpdateEach.last (Component.name t) name ((t.networks second).map .gateway) = none := by
        rw [UpdateEach.last_eq_none] at gateway ⊢
        intro c member same
        obtain ⟨other, kept, rfl⟩ := List.mem_map.mp member
        have listed := (networks_perm first second t).mem_iff.mpr (List.mem_map_of_mem kept)
        obtain ⟨network, inside, sameName⟩ := List.mem_map.mp listed
        have here : (Component.gateway network).name t = name := by
          rw [← same, Component.name, Component.name, Network.nameGateway, sameName]
          rfl
        exact gateway _ (List.mem_map_of_mem inside) here
      rw [owner_eq, owner_eq, ← @last_later_eq first second, gateway, none]

end Owners

section Networks

variable {rt first second : Runtime} {t : Topology} {D E : Definition}

def emulatedEntry (name : String) : Value := .dict (Dict.update networkBase [("name", .str name)])

def privateEntry (name : String) : Value := .dict (Dict.update networkServiceBase [("name", .str name)])

theorem serviceNetworks_keyed (rt : Runtime) (t : Topology) (srv : Service) :
    ∀ entry ∈ serviceNetworks rt t srv, entry.2 = privateEntry entry.1 := by
  have folded : ∀ (nodes : List Node) (nets : Dict String Value), (∀ entry ∈ nets, entry.2 = privateEntry entry.1) →
      ∀ entry ∈ nodes.foldl (fun nets node => Dict.update nets [(srv.getNodeNetworkName node,
        .dict (Dict.update networkServiceBase [("name", .str (srv.getNodeNetworkName node))]))]) nets,
        entry.2 = privateEntry entry.1 := by
    intro nodes
    induction nodes with
    | nil => exact fun nets keyed => keyed
    | cons node rest ih =>
      intro nets keyed
      apply ih
      intro entry member
      cases Dict.eq_or_mem_of_mem_assign member with
      | inl written => exact written ▸ rfl
      | inr old => exact keyed entry old
  unfold serviceNetworks
  exact folded _ [] (by simp)

theorem value?_networks (made : t.toComposeDict rt = .ok D) (name : String) :
    (t.PrivateNetwork name → Dict.value? D.networks name = some (privateEntry name)) ∧
    (¬ t.PrivateNetwork name → t.EmulatedNetwork name → Dict.value? D.networks name = some (emulatedEntry name)) := by
  unfold Topology.toComposeDict getTopologyDefinition at made
  obtain ⟨_, -, made⟩ := bind_ok made
  obtain ⟨_, -, made⟩ := bind_ok made
  obtain ⟨_, -, made⟩ := bind_ok made
  obtain ⟨_, -, made⟩ := bind_ok made
  obtain ⟨emulated, declared, made⟩ := bind_ok made
  obtain ⟨all, added, made⟩ := bind_ok made
  cases made
  have privateKeyed : ∀ srv entries, Except.ok (serviceNetworks rt t srv) = (.ok entries : Except PyError _) →
      ∀ entry ∈ entries, entry.2 = privateEntry entry.1 := by
    intro srv entries generated
    cases generated
    exact serviceNetworks_keyed rt t srv
  have emulatedKeyed : ∀ net entries, Except.ok (getNetworkDefinition net) = (.ok entries : Except PyError _) →
      ∀ entry ∈ entries, entry.2 = emulatedEntry entry.1 := by
    intro net entries generated entry member
    cases generated
    rw [List.mem_singleton.mp member]
    rfl
  constructor
  · intro isPrivate
    obtain ⟨srv, kept, node, member, linked, same⟩ := isPrivate
    have present : name ∈ Dict.keys (serviceNetworks rt t srv) :=
      Topology.mem_keys_serviceNetworks.mpr ⟨node, member, linked, same⟩
    exact UpdateEach.value?_of_keyed privateKeyed added ⟨srv, (t.mem_services rt).mpr kept, _, rfl, present⟩
  · intro notPrivate isEmulated
    -- a private network would have been written after the emulated one
    have absent : ∀ srv ∈ t.services rt, ∀ entries,
        Except.ok (serviceNetworks rt t srv) = (.ok entries : Except PyError _) → name ∉ Dict.keys entries := by
      intro srv kept entries generated present
      cases generated
      obtain ⟨node, member, linked, same⟩ := Topology.mem_keys_serviceNetworks.mp present
      exact notPrivate ⟨srv, (t.mem_services rt).mp kept, node, member, linked, same⟩
    obtain ⟨network, kept, same⟩ := List.mem_map.mp ((t.mem_networks_name rt).mpr isEmulated)
    have present : name ∈ Dict.keys (getNetworkDefinition network) := List.mem_singleton.mpr same.symm
    rw [UpdateEach.value?_of_absent added absent]
    exact UpdateEach.value?_of_keyed emulatedKeyed declared ⟨network, kept, _, rfl, present⟩

theorem networks_related (left : t.toComposeDict first = .ok D) (right : t.toComposeDict second = .ok E) :
    Dict.Related (fun _ => Value.Same) D.networks E.networks := by
  intro name
  by_cases isPrivate : t.PrivateNetwork name
  · exact Or.inr ⟨_, _, (value?_networks left name).1 isPrivate, (value?_networks right name).1 isPrivate, .refl _⟩
  · by_cases isEmulated : t.EmulatedNetwork name
    · exact Or.inr ⟨_, _, (value?_networks left name).2 isPrivate isEmulated,
        (value?_networks right name).2 isPrivate isEmulated, .refl _⟩
    · left
      rw [Dict.value?_eq_none, Dict.value?_eq_none, t.mem_keys_networks left, t.mem_keys_networks right]
      exact ⟨not_or.mpr ⟨isEmulated, isPrivate⟩, not_or.mpr ⟨isEmulated, isPrivate⟩⟩

end Networks

section Outcomes

variable {rt first second : Runtime} {t : Topology} {D E : Definition}

theorem made_of_generated (generated : ∀ c ∈ t.written rt, ∃ entries, c.toComposeDict rt t = .ok entries) :
    ∃ D, t.toComposeDict rt = .ok D := by
  have family : ∀ {α : Type} (wrap : α → Component) (items : List α) (d : Dict String Value),
      (∀ item ∈ items, wrap item ∈ t.written rt) →
      ∃ result, updateEach (fun item => (wrap item).toComposeDict rt t) items d = .ok result :=
    fun wrap items d inside => UpdateEach.exists_ok (fun item member => generated _ (inside item member)) d
  have gateways : ∀ network ∈ t.networks rt, Component.gateway network ∈ t.written rt := by
    intro network member
    simp [Topology.written, member]
  have services : ∀ srv ∈ t.services rt, Component.service srv ∈ t.written rt := by
    intro srv member
    simp [Topology.written, (t.mem_services rt).mp member]
  have nodes : ∀ node ∈ t.nodes, Component.node node ∈ t.written rt :=
    fun node member => t.exists_written_node rt member
  have brokers : ∀ broker ∈ t.brokers rt, Component.broker broker ∈ t.written rt := by
    intro broker member
    simp [Topology.written, (t.mem_brokers rt).mp member]
  unfold Topology.toComposeDict getTopologyDefinition
  refine exists_bind (family _ _ _ gateways) fun withGateways => ?_
  refine exists_bind (family _ _ _ services) fun withServices => ?_
  refine exists_bind (family _ _ _ nodes) fun withNodes => ?_
  refine exists_bind (family _ _ _ brokers) fun withBrokers => ?_
  refine exists_bind (UpdateEach.exists_ok (fun net _ => ⟨_, rfl⟩) _) fun emulated => ?_
  exact exists_bind (UpdateEach.exists_ok (fun srv _ => ⟨_, rfl⟩) _) fun networks => ⟨_, rfl⟩

theorem error_iff_fails : (∃ why, t.toComposeDict rt = .error why) ↔ t.Fails rt := by
  constructor
  · intro raised
    obtain ⟨why, raised⟩ := raised
    by_contra none
    have generated : ∀ c ∈ t.written rt, ∃ entries, c.toComposeDict rt t = .ok entries := by
      intro c member
      cases made : c.toComposeDict rt t with
      | error why => exact absurd ⟨c, member, why, made⟩ none
      | ok entries => exact ⟨entries, rfl⟩
    obtain ⟨D, made⟩ := made_of_generated generated
    cases raised.symm.trans made
  · intro fails
    obtain ⟨c, member, why, raised⟩ := fails
    cases made : t.toComposeDict rt with
    | error why => exact ⟨why, rfl⟩
    | ok D =>
      obtain ⟨entries, generated⟩ := UpdateEach.generates (Topology.services_written made) member
      cases raised.symm.trans generated

theorem version_of_made (made : t.toComposeDict rt = .ok D) : D.version = "3.7" := by
  unfold Topology.toComposeDict getTopologyDefinition at made
  obtain ⟨_, -, made⟩ := bind_ok made
  obtain ⟨_, -, made⟩ := bind_ok made
  obtain ⟨_, -, made⟩ := bind_ok made
  obtain ⟨_, -, made⟩ := bind_ok made
  obtain ⟨_, -, made⟩ := bind_ok made
  obtain ⟨_, -, made⟩ := bind_ok made
  cases made
  rfl

theorem SameOutcome.made {result : Except PyError Definition} (same : SameOutcome (.ok D) result) :
    ∃ E, result = .ok E ∧ SameDefinition D E := by
  cases result with
  | error why => exact absurd same id
  | ok E => exact ⟨E, rfl, same⟩

theorem Runtime.Reorders.trans_symm (left : first.Reorders rt) (right : second.Reorders rt) : first.Reorders second :=
  ⟨left.getenv.trans right.getenv.symm, left.underscore.trans right.underscore.symm, left.merge.trans right.merge.symm⟩

theorem Runtime.Reorders.deepMerge (right : second.Reorders rt) (deepmerge : rt.DeepMerge) : second.DeepMerge := by
  intro base next
  rw [right.merge, deepmerge]

variable (left : first.Reorders rt) (right : second.Reorders rt) (deepmerge : rt.DeepMerge)

include left right deepmerge

/-- Gateways that agree are generated, and every other component is written in both orders. -/
theorem fails_of_fails (agree : t.GatewaysAgree rt) (fails : t.Fails first) : t.Fails second := by
  obtain ⟨c, member, why, raised⟩ := fails
  have alike := component_alike (left.trans_symm right) (right.deepMerge deepmerge) (t := t) c
  have raises : ∃ why, c.toComposeDict second t = .error why := by
    cases alike with
    | inl both =>
      obtain ⟨_, why, -, raises⟩ := both
      exact ⟨why, raises⟩
    | inr neither =>
      obtain ⟨entries, _, made, -⟩ := neither
      cases raised.symm.trans made
  refine ⟨c, ?_, raises⟩
  rw [written_eq, List.mem_append, List.mem_append] at member ⊢
  rcases member with (core | gateway) | later
  · exact Or.inl (Or.inl core)
  · obtain ⟨network, kept, rfl⟩ := List.mem_map.mp gateway
    obtain ⟨entry, _, made, -⟩ := agree network network (mayKeep_of_mem kept) (mayKeep_of_mem kept) rfl
    rw [← gateway_eq left] at made
    cases raised.symm.trans made
  · right
    simpa [Topology.later] using later

theorem services_related (agree : t.GatewaysAgree rt) (madeLeft : t.toComposeDict first = .ok D)
    (madeRight : t.toComposeDict second = .ok E) : Dict.Related (fun _ => SameService) D.services E.services := by
  intro name
  cases owner_cases first second t name with
  | inl same =>
    cases owner : t.owner first name with
    | none =>
      have absent := UpdateEach.value?_of_last_none (Component.single first t)
        (Topology.services_written madeLeft) owner
      rw [same] at owner
      exact Or.inl ⟨absent, UpdateEach.value?_of_last_none (Component.single second t)
        (Topology.services_written madeRight) owner⟩
    | some c =>
      obtain ⟨entry, made, found⟩ := Topology.value?_services_of_owner madeLeft owner
      rw [same] at owner
      obtain ⟨other, otherMade, otherFound⟩ := Topology.value?_services_of_owner madeRight owner
      have alike := component_alike (left.trans_symm right) (right.deepMerge deepmerge) (t := t) c
      exact Or.inr ⟨entry, other, found, otherFound, alike.same_of_made made otherMade⟩
  | inr gateways =>
    obtain ⟨network, kept, other, otherKept, sameName, here, free⟩ := gateways
    subst here
    have sameGateway : other.nameGateway = network.nameGateway := congrArg ("gw" ++ "_" ++ ·) sameName.symm
    obtain ⟨entry, made, found⟩ := Topology.value?_services_of_owner madeLeft (owner_gateway kept free)
    obtain ⟨otherEntry, otherMade, otherFound⟩ := Topology.value?_services_of_owner madeRight
      (owner_gateway otherKept (sameGateway ▸ free))
    obtain ⟨_, _, generated, otherGenerated, either⟩ :=
      agree network other (mayKeep_of_mem kept) (mayKeep_of_mem otherKept) sameName
    simp only [Component.toComposeDict] at made otherMade
    rw [gateway_eq left, generated] at made
    rw [gateway_eq right, otherGenerated] at otherMade
    cases made
    cases otherMade
    rw [sameGateway] at otherFound
    exact Or.inr ⟨entry, otherEntry, found, otherFound, either.resolve_left free⟩

/-- Gateways that agree make every outcome the same. -/
theorem sameOutcome_of_agree (agree : t.GatewaysAgree rt) :
    SameOutcome (t.toComposeDict first) (t.toComposeDict second) := by
  cases madeLeft : t.toComposeDict first with
  | error why =>
    have fails := fails_of_fails left right deepmerge agree (error_iff_fails.mp ⟨why, madeLeft⟩)
    obtain ⟨other, raised⟩ := error_iff_fails.mpr fails
    rw [raised]
    trivial
  | ok D =>
    cases madeRight : t.toComposeDict second with
    | error why =>
      have fails := fails_of_fails right left deepmerge agree (error_iff_fails.mp ⟨why, madeRight⟩)
      obtain ⟨other, raised⟩ := error_iff_fails.mpr fails
      cases raised.symm.trans madeLeft
    | ok E =>
      have version := (version_of_made madeLeft).trans (version_of_made madeRight).symm
      exact ⟨version, services_related left right deepmerge agree madeLeft madeRight,
        networks_related madeLeft madeRight⟩

end Outcomes

section Exact

variable {rt order : Runtime} {t : Topology} {D : Definition}

theorem gateway_written (orders : order.Reorders rt) (made : t.toComposeDict order = .ok D) {network : Network}
    (kept : network ∈ t.networks order) : ∃ entry,
      getNetworkGatewayDefinition rt t network = .ok [(network.nameGateway, entry)] ∧
      (network.nameGateway ∉ t.laterNames → Dict.value? D.services network.nameGateway = some entry) := by
  have member : Component.gateway network ∈ t.written order := by
    simp [Topology.written, kept]
  obtain ⟨entries, generated⟩ := UpdateEach.generates (Topology.services_written made) member
  obtain ⟨entry, rfl⟩ := Component.single order t _ _ generated
  refine ⟨entry, (gateway_eq orders network).symm.trans generated, fun free => ?_⟩
  obtain ⟨_, again, found⟩ := Topology.value?_services_of_owner made (owner_gateway kept free)
  cases generated.symm.trans again
  exact found

theorem agree_of_sameOutcome (orders : order.Reorders rt) (made : t.toComposeDict order = .ok D)
    (same : ∀ first second : Runtime, first.Reorders rt → second.Reorders rt →
      SameOutcome (t.toComposeDict first) (t.toComposeDict second)) : t.GatewaysAgree rt := by
  intro network other may otherMay sameName
  obtain ⟨first, left, kept⟩ := @exists_order rt t network may
  obtain ⟨second, right, otherKept⟩ := @exists_order rt t other otherMay
  obtain ⟨first', madeFirst, -⟩ := (made ▸ same order first orders left).made
  obtain ⟨second', madeSecond, sameDefinition⟩ := (madeFirst ▸ same first second left right).made
  obtain ⟨entry, generated, found⟩ := gateway_written left madeFirst kept
  obtain ⟨otherEntry, otherGenerated, otherFound⟩ := gateway_written right madeSecond otherKept
  refine ⟨entry, otherEntry, generated, otherGenerated, ?_⟩
  by_cases written : network.nameGateway ∈ t.laterNames
  · exact Or.inl written
  · have sameGateway : other.nameGateway = network.nameGateway := congrArg ("gw" ++ "_" ++ ·) sameName.symm
    rw [sameGateway] at otherFound
    cases sameDefinition.services network.nameGateway with
    | inl absent =>
      rw [found written] at absent
      cases absent.1
    | inr present =>
      obtain ⟨a, b, here, there, related⟩ := present
      cases here.symm.trans (found written)
      cases there.symm.trans (otherFound written)
      exact Or.inr related

/-- Two orders never give different definitions exactly for the topologies whose gateways do not
depend on the broker that comes first. -/
theorem sameOutcome_iff_orderFree (rt : Runtime) (t : Topology) (deepmerge : rt.DeepMerge) :
    (∀ first second : Runtime, first.Reorders rt → second.Reorders rt →
      SameOutcome (t.toComposeDict first) (t.toComposeDict second)) ↔ t.OrderFree rt := by
  constructor
  · intro same
    by_cases fails : ∀ order : Runtime, order.Reorders rt → t.Fails order
    · exact Or.inl fails
    · right
      simp only [not_forall] at fails
      obtain ⟨order, orders, works⟩ := fails
      cases made : t.toComposeDict order with
      | error why => exact absurd (error_iff_fails.mp ⟨why, made⟩) works
      | ok D => exact agree_of_sameOutcome orders made same
  · intro free first second left right
    cases free with
    | inl fails =>
      obtain ⟨_, raised⟩ := error_iff_fails.mpr (fails first left)
      obtain ⟨_, otherRaised⟩ := error_iff_fails.mpr (fails second right)
      rw [raised, otherRaised]
      trivial
    | inr agree => exact sameOutcome_of_agree left right deepmerge agree

end Exact

/-- One broker cannot compete with another, so the order of a topology with one is free. -/
theorem remoteTopology_orderFree : (Runtime.plain.rotated 1).Reorders Runtime.plain ∧
    SameOutcome ((remoteTopology []).toComposeDict Runtime.plain)
      ((remoteTopology []).toComposeDict (Runtime.plain.rotated 1)) := by
  have reorders : (Runtime.plain.rotated 1).Reorders Runtime.plain := rotated_reorders 1
  refine ⟨reorders, ?_⟩
  have only : ∀ network, (remoteTopology []).MayKeep network →
      network = { name := "near" } ∨ network = { name := "far" } := by
    intro network may
    cases may with
    | inl ofNodes => exact Or.inl (List.mem_singleton.mp ofNodes)
    | inr ofBroker =>
      obtain ⟨_, broker, kept, member⟩ := ofBroker
      cases List.mem_singleton.mp kept
      exact Or.inr (List.mem_singleton.mp member)
  refine (sameOutcome_iff_orderFree Runtime.plain (remoteTopology []) fun _ _ => rfl).mpr (Or.inr ?_)
    Runtime.plain (Runtime.plain.rotated 1) ⟨rfl, rfl, rfl⟩ reorders
  intro network other may otherMay sameName
  cases only network may with
  | inl near =>
    cases only other otherMay with
    | inl otherNear =>
      subst near otherNear
      exact ⟨_, _, rfl, rfl, Or.inr (SameService.refl _)⟩
    | inr far =>
      subst near far
      exact absurd sameName (by decide)
  | inr far =>
    cases only other otherMay with
    | inl near =>
      subst near far
      exact absurd sameName (by decide)
    | inr otherFar =>
      subst far otherFar
      exact ⟨_, _, rfl, rfl, Or.inr (SameService.refl _)⟩

/-! Two brokers with networks of one name and different conditions. -/

def rivalNode (name broker : String) (conditions : NetworkConditions) : Node where
  name := name
  app := { pathArg := .inl .clock }
  networks := [{ name := "net" }]
  broker := some { name := broker, networks := [Network.init Runtime.plain "shared" [] (some conditions) []] }
  broker_of_mqtt := fun _ => rfl
  broker_network_attached := by
    intro b _ net none
    cases none
  services := []
  services_distinct := List.nodup_nil

def rivalTopology : Topology where
  nodes := [rivalNode "first" "broker_a" .wifi, rivalNode "second" "broker_b" .gprs]
  distinct_nodes := rfl
  distinct_services := rfl

theorem rivalTopology_ordered : (Runtime.plain.rotated 1).Reorders Runtime.plain ∧
    ¬ SameOutcome (rivalTopology.toComposeDict Runtime.plain)
      (rivalTopology.toComposeDict (Runtime.plain.rotated 1)) := by
  refine ⟨rotated_reorders 1, ?_⟩
  intro same
  change SameDefinition _ _ at same
  cases same.services "gw_shared" with
  | inl absent => cases absent.1
  | inr present =>
    obtain ⟨wifi, gprs, first, second, related⟩ := present
    cases first
    cases second
    change Dict.Related _ _ _ at related
    cases related "command" with
    | inl absent => cases absent.1
    | inr commands =>
      obtain ⟨command, other, here, there, either⟩ := commands
      cases here
      cases there
      have commandSame := either.resolve_right fun free => absurd free.1 (by simp [FreeOrder])
      have condition := commandSame.zip (.str _, .str _) (List.mem_cons_of_mem _ (List.mem_singleton_self _))
      exact absurd condition.str_eq (by decide)

end Wotemu
