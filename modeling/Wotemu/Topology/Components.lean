import Wotemu.Topology.Compose

/-! The components of a topology and the order in which they are written.

The services of a definition are one dictionary, filled by six generators in
turn. Seen as one list of components, each with its own name and generator,
the entry under a name is the one of the component written last.
-/

set_option autoImplicit false

namespace Wotemu

open Wotemu.Foundation

inductive Kind where
  | dockerProxy
  | redis
  | gateway
  | service
  | node
  | broker
  deriving DecidableEq, Repr

inductive Component where
  | dockerProxy
  | redis
  | gateway (network : Network)
  | service (srv : Service)
  | node (node : Node)
  | broker (broker : Broker)

namespace Component

def kind : Component → Kind
  | dockerProxy => .dockerProxy
  | redis => .redis
  | gateway _ => .gateway
  | service _ => .service
  | node _ => .node
  | broker _ => .broker

def name (t : Topology) : Component → String
  | dockerProxy => t.dockerProxy.host
  | redis => t.redis.host
  | gateway network => network.nameGateway
  | service srv => srv.name
  | node item => item.name
  | broker item => item.name

def toComposeDict (rt : Runtime) (t : Topology) : Component → Except PyError (Dict String Value)
  | dockerProxy => .ok (getDockerProxyDefinition rt t)
  | redis => .ok (getRedisDefinition rt t)
  | gateway network => getNetworkGatewayDefinition rt t network
  | service srv => getGenericServiceDefinition rt t srv
  | node item => getNodeDefinition rt t item
  | broker item => getBrokerDefinition rt t item

end Component

theorem Component.single (rt : Runtime) (t : Topology) (c : Component) (entries : Dict String Value)
    (made : c.toComposeDict rt t = .ok entries) : ∃ value, entries = [(c.name t, value)] := by
  cases c with
  | dockerProxy => cases made; exact ⟨_, rfl⟩
  | redis => cases made; exact ⟨_, rfl⟩
  | gateway network =>
    unfold toComposeDict getNetworkGatewayDefinition at made
    obtain ⟨_, -, made⟩ := bind_ok made
    cases made
    exact ⟨_, rfl⟩
  | service srv =>
    unfold toComposeDict getGenericServiceDefinition at made
    obtain ⟨_, -, made⟩ := bind_ok made
    obtain ⟨_, -, made⟩ := bind_ok made
    obtain ⟨_, -, made⟩ := bind_ok made
    obtain ⟨_, -, made⟩ := bind_ok made
    cases made
    exact ⟨_, rfl⟩
  | node item =>
    unfold toComposeDict getNodeDefinition at made
    obtain ⟨_, -, made⟩ := bind_ok made
    obtain ⟨_, -, made⟩ := bind_ok made
    cases made
    exact ⟨_, rfl⟩
  | broker item =>
    unfold toComposeDict getBrokerDefinition at made
    obtain ⟨_, -, made⟩ := bind_ok made
    cases made
    exact ⟨_, rfl⟩

namespace Topology

variable (rt : Runtime) (t : Topology)

def networkObjects : List Network :=
  t.nodes.flatMap Node.networks ++ t.brokerObjects.flatMap Broker.networks

def serviceObjects : List Service := t.nodes.flatMap Node.services

/-- No node, broker or network has an `args_compose` dictionary. -/
structure Plain : Prop where
  nodes : ∀ node ∈ t.nodes, node.argsCompose = []
  brokers : ∀ broker ∈ t.brokerObjects, broker.argsCompose = []
  networks : ∀ network ∈ t.networkObjects, network.argsComposeGw = []

def Reaches : Component → Prop
  | .dockerProxy => t.dockerProxy.enabled = true
  | .redis => t.redis.enabled = true
  | .gateway network => network ∈ t.networkObjects
  | .service srv => srv ∈ t.serviceObjects
  | .node node => node ∈ t.nodes
  | .broker broker => broker ∈ t.brokerObjects

def written : List Component :=
  (if t.dockerProxy.enabled then [.dockerProxy] else []) ++
  (if t.redis.enabled then [.redis] else []) ++
  (t.networks rt).map .gateway ++ (t.services rt).map .service ++
  t.nodes.map .node ++ (t.brokers rt).map .broker

def owner (name : String) : Option Component :=
  UpdateEach.last (Component.name t) name (t.written rt)

theorem nodes_nodup : (t.nodes.map Node.name).Nodup :=
  (length_distinctBy_eq_iff Node.name t.nodes).mp t.distinct_nodes

theorem node_eq_of_name {first second : Node} (left : first ∈ t.nodes) (right : second ∈ t.nodes)
    (same : first.name = second.name) : first = second :=
  List.inj_on_of_nodup_map t.nodes_nodup left right same

theorem service_name_ne_node_name {srv : Service} {node : Node} (member : srv ∈ t.serviceObjects)
    (nodeMember : node ∈ t.nodes) : srv.name ≠ node.name := by
  have nodup := (length_distinctBy_eq_iff id _).mp t.distinct_services
  rw [List.map_id, List.nodup_append] at nodup
  exact nodup.2.2 _ ((mem_map_distinctBy _).mpr (List.mem_map_of_mem member)) _
    (List.mem_map_of_mem nodeMember)

/-! The contents of the sets, which do not depend on their iteration order. -/

@[simp] theorem mem_brokers {broker : Broker} :
    broker ∈ t.brokers rt ↔ broker ∈ distinctBy Broker.name t.brokerObjects := by
  simp [brokers]

@[simp] theorem mem_services {srv : Service} :
    srv ∈ t.services rt ↔ srv ∈ distinctBy Service.name t.serviceObjects := by
  simp [services, serviceObjects]

theorem mem_getServiceNodes {srv : Service} {node : Node} :
    node ∈ t.getServiceNodes rt srv ↔ node ∈ t.nodes ∧ srv ∈ node.services := by
  have listed : ∀ other, other ∈ (t.nodes.flatMap fun node =>
      (node.services.filter (· = srv)).map fun _ => node) ↔ other ∈ t.nodes ∧ srv ∈ other.services := by
    intro other
    simp only [List.mem_flatMap, List.mem_map, List.mem_filter, decide_eq_true_eq]
    constructor
    · rintro ⟨_, member, item, ⟨itemMember, rfl⟩, rfl⟩
      exact ⟨member, itemMember⟩
    · rintro ⟨member, linked⟩
      exact ⟨other, member, srv, ⟨linked, rfl⟩, rfl⟩
  unfold getServiceNodes
  rw [Runtime.mem_arrange, mem_distinctBy_of_injOn, listed]
  intro first left second right same
  exact t.node_eq_of_name ((listed _).mp left).1 ((listed _).mp right).1 same

/-- The networks of the nodes and of the brokers that are kept, by name. -/
def EmulatedNetwork (name : String) : Prop :=
  (∃ node ∈ t.nodes, ∃ network ∈ node.networks, network.name = name) ∨
  (∃ broker ∈ distinctBy Broker.name t.brokerObjects, ∃ network ∈ broker.networks, network.name = name)

/-- The private network of a service that is kept and a node that it is linked to. -/
def PrivateNetwork (name : String) : Prop :=
  ∃ srv ∈ distinctBy Service.name t.serviceObjects, ∃ node ∈ t.nodes,
    srv ∈ node.services ∧ name = srv.getNodeNetworkName node

theorem mem_networks_name {name : String} :
    name ∈ (t.networks rt).map Network.name ↔ t.EmulatedNetwork name := by
  unfold networks
  rw [((rt.arrange_perm _).map _).mem_iff, mem_map_distinctBy, List.map_append, List.mem_append,
    mem_map_distinctBy, mem_map_distinctBy]
  simp only [List.mem_map, List.mem_flatMap, mem_brokers, EmulatedNetwork]
  constructor
  · rintro (⟨network, ⟨node, member, inside⟩, same⟩ | ⟨network, ⟨broker, member, inside⟩, same⟩)
    · exact Or.inl ⟨node, member, network, inside, same⟩
    · exact Or.inr ⟨broker, member, network, inside, same⟩
  · rintro (⟨node, member, network, inside, same⟩ | ⟨broker, member, network, inside, same⟩)
    · exact Or.inl ⟨network, ⟨node, member, inside⟩, same⟩
    · exact Or.inr ⟨network, ⟨broker, member, inside⟩, same⟩

theorem mem_networks {network : Network} (member : network ∈ t.networks rt) :
    network ∈ t.networkObjects := by
  simp only [networks, Runtime.mem_arrange] at member
  rcases List.mem_append.mp (mem_of_mem_distinctBy _ member) with inside | inside
  · exact List.mem_append_left _ (mem_of_mem_distinctBy _ inside)
  · obtain ⟨broker, brokerMember, inside⟩ := List.mem_flatMap.mp (mem_of_mem_distinctBy _ inside)
    have kept := mem_of_mem_distinctBy _ ((t.mem_brokers rt).mp brokerMember)
    exact List.mem_append_right _ (List.mem_flatMap.mpr ⟨broker, kept, inside⟩)

theorem reaches_of_written {c : Component} (member : c ∈ t.written rt) : t.Reaches c := by
  simp only [written, List.mem_append, List.mem_map] at member
  rcases member with ((((member | member) | ⟨network, member, rfl⟩) | ⟨srv, member, rfl⟩) |
    ⟨node, member, rfl⟩) | ⟨broker, member, rfl⟩
  · split at member
    · rename_i enabled
      rw [List.mem_singleton.mp member]
      exact enabled
    · cases member
  · split at member
    · rename_i enabled
      rw [List.mem_singleton.mp member]
      exact enabled
    · cases member
  · exact t.mem_networks rt member
  · exact mem_of_mem_distinctBy _ ((t.mem_services rt).mp member)
  · exact member
  · exact mem_of_mem_distinctBy _ ((t.mem_brokers rt).mp member)

theorem exists_written_node {node : Node} (member : node ∈ t.nodes) :
    Component.node node ∈ t.written rt := by
  simp [written, member]

theorem exists_written_broker {broker : Broker} (member : broker ∈ t.brokerObjects) :
    ∃ kept, Component.broker kept ∈ t.written rt ∧ kept.name = broker.name := by
  obtain ⟨kept, keptMember, same⟩ := exists_kept Broker.name member
  exact ⟨kept, by simp [written, keptMember], same⟩

theorem exists_written_service {srv : Service} (member : srv ∈ t.serviceObjects) :
    ∃ kept, Component.service kept ∈ t.written rt ∧ kept.name = srv.name := by
  obtain ⟨kept, keptMember, same⟩ := exists_kept Service.name member
  exact ⟨kept, by simp [written, keptMember], same⟩

theorem exists_written_gateway {name : String} (emulated : t.EmulatedNetwork name) :
    ∃ kept, Component.gateway kept ∈ t.written rt ∧ kept.name = name := by
  obtain ⟨kept, keptMember, same⟩ := List.mem_map.mp ((t.mem_networks_name rt).mpr emulated)
  exact ⟨kept, by simp [written, keptMember], same⟩

/-! A component keeps its name unless a later family writes it again. Only brokers come
after the nodes, and no node has the name of a service. -/

theorem owner_broker {broker : Broker} (member : broker ∈ t.brokerObjects) :
    ∃ kept, t.owner rt broker.name = some (.broker kept) := by
  obtain ⟨kept, keptMember, same⟩ := exists_kept Broker.name member
  -- brokers are written last, so the last entry under the name is one of theirs
  have keptWritten : Component.broker kept ∈ (t.brokers rt).map .broker :=
    List.mem_map_of_mem ((t.mem_brokers rt).mpr keptMember)
  have sameName : (Component.broker kept).name t = broker.name := same
  obtain ⟨last, found⟩ := UpdateEach.last_of_mem keptWritten sameName
  obtain ⟨-, lastMember⟩ := UpdateEach.last_key found
  obtain ⟨other, -, rfl⟩ := List.mem_map.mp lastMember
  exact ⟨other, by rw [owner, written, UpdateEach.last_append, found, Option.some_or]⟩

theorem last_brokers_none {name : String} (free : ∀ broker ∈ t.brokerObjects, broker.name ≠ name) :
    UpdateEach.last (Component.name t) name ((t.brokers rt).map .broker) = none := by
  rw [UpdateEach.last_eq_none]
  intro c member
  obtain ⟨broker, brokerMember, rfl⟩ := List.mem_map.mp member
  exact free broker (mem_of_mem_distinctBy _ ((t.mem_brokers rt).mp brokerMember))

theorem owner_node {node : Node} (member : node ∈ t.nodes)
    (free : ∀ broker ∈ t.brokerObjects, broker.name ≠ node.name) :
    t.owner rt node.name = some (.node node) := by
  have last : UpdateEach.last (Component.name t) node.name (t.nodes.map .node) = some (.node node) := by
    refine UpdateEach.last_of_injOn
      (List.mem_map_of_mem member : Component.node node ∈ t.nodes.map .node) ?_
    intro other otherMember same
    obtain ⟨otherNode, inside, rfl⟩ := List.mem_map.mp otherMember
    exact congrArg Component.node (t.node_eq_of_name inside member same)
  rw [owner, written, UpdateEach.last_append, t.last_brokers_none rt free, Option.none_or,
    UpdateEach.last_append, last, Option.some_or]

theorem free_of_owner_node {node : Node} (last : t.owner rt node.name = some (.node node)) :
    ∀ broker ∈ t.brokerObjects, broker.name ≠ node.name := by
  intro broker member same
  obtain ⟨kept, owned⟩ := t.owner_broker rt member
  rw [same] at owned
  cases last.symm.trans owned

theorem owner_service {srv : Service} (member : srv ∈ distinctBy Service.name t.serviceObjects)
    (free : ∀ broker ∈ t.brokerObjects, broker.name ≠ srv.name) :
    t.owner rt srv.name = some (.service srv) := by
  -- the constructor keeps the names of services and nodes apart
  have noNode : UpdateEach.last (Component.name t) srv.name (t.nodes.map .node) = none := by
    rw [UpdateEach.last_eq_none]
    intro c cMember
    obtain ⟨node, nodeMember, rfl⟩ := List.mem_map.mp cMember
    exact (t.service_name_ne_node_name (mem_of_mem_distinctBy _ member) nodeMember).symm
  have last : UpdateEach.last (Component.name t) srv.name ((t.services rt).map .service) =
      some (.service srv) := by
    refine UpdateEach.last_of_injOn
      (List.mem_map_of_mem ((t.mem_services rt).mpr member) :
        Component.service srv ∈ (t.services rt).map .service) ?_
    intro other otherMember same
    obtain ⟨otherSrv, inside, rfl⟩ := List.mem_map.mp otherMember
    exact congrArg Component.service (List.inj_on_of_nodup_map (nodup_map_distinctBy _ _)
      ((t.mem_services rt).mp inside) member same)
  rw [owner, written, UpdateEach.last_append, t.last_brokers_none rt free, Option.none_or,
    UpdateEach.last_append, noNode, Option.none_or, UpdateEach.last_append, last, Option.some_or]

variable {rt t} {D : Definition}

/-- The services of a definition are what the components write, in their order. -/
theorem services_written (made : t.toComposeDict rt = .ok D) :
    updateEach (Component.toComposeDict rt t) (t.written rt) [] = .ok D.services := by
  unfold toComposeDict getTopologyDefinition at made
  obtain ⟨withGateways, gateways, made⟩ := bind_ok made
  obtain ⟨withServices, services, made⟩ := bind_ok made
  obtain ⟨withNodes, nodes, made⟩ := bind_ok made
  obtain ⟨withBrokers, brokers, made⟩ := bind_ok made
  obtain ⟨_, -, made⟩ := bind_ok made
  obtain ⟨_, -, made⟩ := bind_ok made
  cases made
  -- the two single components come first, each when it is enabled
  have core : updateEach (Component.toComposeDict rt t)
      ((if t.dockerProxy.enabled then [Component.dockerProxy] else []) ++
        (if t.redis.enabled then [Component.redis] else [])) [] =
      .ok (if t.redis.enabled then
        Dict.update (if t.dockerProxy.enabled then Dict.update [] (getDockerProxyDefinition rt t) else [])
          (getRedisDefinition rt t)
        else if t.dockerProxy.enabled then Dict.update [] (getDockerProxyDefinition rt t) else []) := by
    cases t.dockerProxy.enabled <;> cases t.redis.enabled <;> rfl
  simp only [written, UpdateEach.append, UpdateEach.map] at core ⊢
  rw [core]
  simp only [Except.bind, Component.toComposeDict, gateways, services, nodes, brokers]

theorem mem_keys_serviceNetworks {srv : Service} {name : String} :
    name ∈ Dict.keys (serviceNetworks rt t srv) ↔
      ∃ node ∈ t.nodes, srv ∈ node.services ∧ name = srv.getNodeNetworkName node := by
  have folded : ∀ (nodes : List Node) (nets : Dict String Value),
      name ∈ Dict.keys (nodes.foldl (fun nets node => Dict.update nets [(srv.getNodeNetworkName node,
        .dict (Dict.update networkServiceBase [("name", .str (srv.getNodeNetworkName node))]))]) nets) ↔
      name ∈ Dict.keys nets ∨ ∃ node ∈ nodes, name = srv.getNodeNetworkName node := by
    intro nodes
    induction nodes with
    | nil => simp
    | cons first rest ih =>
      intro nets
      rw [List.foldl_cons, ih, Dict.mem_keys_update]
      simp [Dict.keys, or_assoc]
  unfold serviceNetworks
  rw [folded]
  simp [Dict.keys, t.mem_getServiceNodes rt, and_assoc]

theorem mem_keys_networks (made : t.toComposeDict rt = .ok D) {name : String} :
    name ∈ Dict.keys D.networks ↔ t.EmulatedNetwork name ∨ t.PrivateNetwork name := by
  unfold toComposeDict getTopologyDefinition at made
  obtain ⟨_, -, made⟩ := bind_ok made
  obtain ⟨_, -, made⟩ := bind_ok made
  obtain ⟨_, -, made⟩ := bind_ok made
  obtain ⟨_, -, made⟩ := bind_ok made
  obtain ⟨emulated, declared, made⟩ := bind_ok made
  obtain ⟨all, added, made⟩ := bind_ok made
  cases made
  rw [UpdateEach.mem_keys added, UpdateEach.mem_keys declared]
  simp only [Except.ok.injEq, exists_eq_left', mem_keys_serviceNetworks, mem_services]
  rw [← t.mem_networks_name rt, PrivateNetwork]
  simp [Dict.keys, getNetworkDefinition, eq_comm]

/-- What the definition holds under a name: the entry of the component written last. -/
theorem value?_services_of_owner (made : t.toComposeDict rt = .ok D) {name : String} {c : Component}
    (last : t.owner rt name = some c) :
    ∃ entry, c.toComposeDict rt t = .ok [(name, entry)] ∧ Dict.value? D.services name = some entry :=
  UpdateEach.value?_of_last (Component.single rt t) (services_written made) last

theorem owner_of_value? (made : t.toComposeDict rt = .ok D) {name : String} {entry : Value}
    (found : Dict.value? D.services name = some entry) :
    ∃ c, t.owner rt name = some c ∧ c ∈ t.written rt ∧ c.name t = name ∧
      c.toComposeDict rt t = .ok [(name, entry)] := by
  cases last : t.owner rt name with
  | none =>
    rw [UpdateEach.value?_of_last_none (Component.single rt t) (services_written made) last] at found
    cases found
  | some c =>
    obtain ⟨other, generated, same⟩ := value?_services_of_owner made last
    obtain ⟨sameName, member⟩ := UpdateEach.last_key last
    rw [same] at found
    cases found
    exact ⟨c, rfl, member, sameName, generated⟩

theorem mem_keys_services (made : t.toComposeDict rt = .ok D) {name : String} :
    name ∈ Dict.keys D.services ↔ ∃ c ∈ t.written rt, c.name t = name := by
  rw [UpdateEach.mem_keys_iff (Component.single rt t) (services_written made), List.mem_map]

end Topology

end Wotemu
