import Wotemu.Topology.Entries

/-! References of a definition: the networks and services that its services name.

Gateways, brokers, generic services, the proxy and Redis name only what the
definition declares. A node follows its own objects instead of the kept ones,
so its references are resolved exactly when those objects are the kept ones or
their names happen to be declared by something else.
-/

set_option autoImplicit false

namespace Wotemu

open Wotemu.Foundation

structure Definition.Closed (D : Definition) : Prop where
  networks : ∀ name service, Dict.value? D.services name = some service →
    ∀ network ∈ service.listed "networks", network ∈ Dict.keys D.networks
  dependsOn : ∀ name service, Dict.value? D.services name = some service →
    ∀ dependency ∈ service.listed "depends_on", dependency ∈ Dict.keys D.services

namespace Topology

/-- The service is the first listed object with its name. -/
def FirstListed (t : Topology) (srv : Service) : Prop :=
  t.serviceObjects.find? (fun other => other.name = srv.name) = some srv

/-- A name that a component of the topology takes in the definition. -/
def ServiceName (t : Topology) (name : String) : Prop :=
  (t.dockerProxy.enabled = true ∧ name = t.dockerProxy.host) ∨
  (t.redis.enabled = true ∧ name = t.redis.host) ∨
  (∃ network, t.EmulatedNetwork network ∧ name = "gw" ++ "_" ++ network) ∨
  name ∈ t.serviceObjects.map Service.name ∨ name ∈ t.nodes.map Node.name ∨
  name ∈ t.brokerObjects.map Broker.name

/-- Each node that no broker replaces is linked to first-listed services and attached to
an emulated broker network, or the names it uses instead are taken by other components. -/
def NodesResolved (t : Topology) : Prop :=
  ∀ node ∈ t.nodes, (∀ broker ∈ t.brokerObjects, broker.name ≠ node.name) →
    (∀ srv ∈ node.services, t.FirstListed srv ∨
      t.EmulatedNetwork (srv.getNodeNetworkName node) ∨ t.PrivateNetwork (srv.getNodeNetworkName node)) ∧
    (∀ network, node.brokerNetwork = .ok (some network) → t.EmulatedNetwork network.name ∨
      (t.PrivateNetwork network.name ∧ t.ServiceName network.nameGateway))

variable {rt : Runtime} {t : Topology} {D : Definition}

theorem firstListed_iff {srv : Service} :
    t.FirstListed srv ↔ srv ∈ distinctBy Service.name t.serviceObjects :=
  (mem_distinctBy _).symm

theorem serviceName_iff {name : String} :
    t.ServiceName name ↔ ∃ c ∈ t.written rt, c.name t = name := by
  constructor
  · rintro (⟨enabled, rfl⟩ | ⟨enabled, rfl⟩ | ⟨network, emulated, rfl⟩ | member | member | member)
    · exact ⟨.dockerProxy, by simp [written, enabled], rfl⟩
    · exact ⟨.redis, by simp [written, enabled], rfl⟩
    · obtain ⟨kept, member, rfl⟩ := t.exists_written_gateway rt emulated
      exact ⟨_, member, rfl⟩
    · obtain ⟨srv, inside, rfl⟩ := List.mem_map.mp member
      obtain ⟨kept, keptMember, same⟩ := t.exists_written_service rt inside
      exact ⟨_, keptMember, same⟩
    · obtain ⟨node, inside, rfl⟩ := List.mem_map.mp member
      exact ⟨_, t.exists_written_node rt inside, rfl⟩
    · obtain ⟨broker, inside, rfl⟩ := List.mem_map.mp member
      obtain ⟨kept, keptMember, same⟩ := t.exists_written_broker rt inside
      exact ⟨_, keptMember, same⟩
  · rintro ⟨c, member, rfl⟩
  -- a gateway is written for a network that is kept, and the name says which
    have reached := t.reaches_of_written rt member
    cases c with
    | dockerProxy => exact Or.inl ⟨reached, rfl⟩
    | redis => exact Or.inr (Or.inl ⟨reached, rfl⟩)
    | gateway network =>
      have inside : network ∈ t.networks rt := by simpa [written] using member
      have emulated := (t.mem_networks_name rt).mp (List.mem_map_of_mem inside)
      exact Or.inr (Or.inr (Or.inl ⟨network.name, emulated, rfl⟩))
    | service srv => exact Or.inr (Or.inr (Or.inr (Or.inl (List.mem_map_of_mem reached))))
    | node node => exact Or.inr (Or.inr (Or.inr (Or.inr (Or.inl (List.mem_map_of_mem reached)))))
    | broker broker => exact Or.inr (Or.inr (Or.inr (Or.inr (Or.inr (List.mem_map_of_mem reached)))))

theorem declared_service (made : t.toComposeDict rt = .ok D) {name : String} :
    name ∈ Dict.keys D.services ↔ t.ServiceName name := by
  rw [mem_keys_services made, serviceName_iff]

theorem declared_gateway (made : t.toComposeDict rt = .ok D) {network : Network}
    (emulated : t.EmulatedNetwork network.name) : network.nameGateway ∈ Dict.keys D.services :=
  (declared_service made).mpr (Or.inr (Or.inr (Or.inl ⟨network.name, emulated, rfl⟩)))

theorem declared_core (made : t.toComposeDict rt = .ok D) {name : String}
    (member : name ∈ coreDependsOn t) : name ∈ Dict.keys D.services := by
  rw [declared_service made]
  rcases List.mem_append.mp member with member | member
  · split at member
    · rename_i enabled
      exact Or.inl ⟨enabled, List.mem_singleton.mp member⟩
    · cases member
  · split at member
    · rename_i enabled
      exact Or.inr (Or.inl ⟨enabled, List.mem_singleton.mp member⟩)
    · cases member

theorem emulated_of_node {node : Node} (member : node ∈ t.nodes) {network : Network}
    (inside : network ∈ node.networks) : t.EmulatedNetwork network.name :=
  Or.inl ⟨node, member, network, inside, rfl⟩

theorem emulated_of_broker {broker : Broker} (member : broker ∈ t.brokers rt) {network : Network}
    (inside : network ∈ broker.networks) : t.EmulatedNetwork network.name :=
  Or.inr ⟨broker, (t.mem_brokers rt).mp member, network, inside, rfl⟩

theorem networks_declared (made : t.toComposeDict rt = .ok D) (plain : t.Plain) (resolved : t.NodesResolved)
    {name : String} {service : Value} (found : Dict.value? D.services name = some service)
    {network : String} (listed : network ∈ service.listed "networks") : network ∈ Dict.keys D.networks := by
  obtain ⟨c, last, member, rfl, generated⟩ := owner_of_value? made found
  have reached := t.reaches_of_written rt member
  rw [mem_keys_networks made]
  cases c with
  | dockerProxy =>
    rw [dockerProxy_networks generated] at listed
    exact Or.inl ((t.mem_networks_name rt).mp listed)
  | redis =>
    rw [redis_networks generated] at listed
    exact Or.inl ((t.mem_networks_name rt).mp listed)
  | gateway own =>
    rw [gateway_networks (plain.networks own reached) generated, List.mem_singleton] at listed
    have inside : own ∈ t.networks rt := by simpa [written] using member
    exact Or.inl (listed ▸ (t.mem_networks_name rt).mp (List.mem_map_of_mem inside))
  | service srv =>
    -- the pair is private to the service that is kept, which is the one written
    rw [service_networks generated, List.mem_map] at listed
    obtain ⟨node, nodeMember, rfl⟩ := listed
    obtain ⟨nodeMember, linked⟩ := (t.mem_getServiceNodes rt).mp nodeMember
    have kept : srv ∈ t.services rt := by simpa [written] using member
    exact Or.inr ⟨srv, (t.mem_services rt).mp kept, node, nodeMember, linked, rfl⟩
  | node node =>
    have free := t.free_of_owner_node rt last
    obtain ⟨brokerNetwork, chosen, listing⟩ := node_networks (plain.nodes node reached) generated
    rcases mem_nodeNetworks.mp ((listing network).mp listed) with
      ⟨own, inside, rfl⟩ | ⟨srv, linked, rfl⟩ | ⟨own, rfl, rfl⟩
    · exact Or.inl (emulated_of_node reached inside)
    · rcases (resolved node reached free).1 srv linked with first | declared
    -- a node follows its own service objects, whether they are kept or not
      · exact Or.inr ⟨srv, firstListed_iff.mp first, node, reached, linked, rfl⟩
      · exact declared
    · rcases (resolved node reached free).2 own chosen with emulated | ⟨declared, -⟩
      · exact Or.inl emulated
      · exact Or.inr declared
  | broker broker =>
    have kept : broker ∈ t.brokers rt := by simpa [written] using member
    rw [broker_networks (plain.brokers broker reached) generated, List.mem_map] at listed
    obtain ⟨own, inside, rfl⟩ := listed
    exact Or.inl (emulated_of_broker kept inside)

theorem dependsOn_declared (made : t.toComposeDict rt = .ok D) (plain : t.Plain) (resolved : t.NodesResolved)
    {name : String} {service : Value} (found : Dict.value? D.services name = some service)
    {dependency : String} (listed : dependency ∈ service.listed "depends_on") :
    dependency ∈ Dict.keys D.services := by
  obtain ⟨c, last, member, rfl, generated⟩ := owner_of_value? made found
  have reached := t.reaches_of_written rt member
  cases c with
  | dockerProxy => cases generated; cases listed
  | redis => cases generated; cases listed
  | gateway own =>
    rw [gateway_dependsOn (plain.networks own reached) generated] at listed
    exact declared_core made listed
  | service srv =>
    rw [service_dependsOn generated] at listed
    cases listed
  | node node =>
    have free := t.free_of_owner_node rt last
    obtain ⟨brokerNetwork, chosen, listing⟩ := node_dependsOn (plain.nodes node reached) generated
    rcases mem_nodeDependsOn.mp ((listing dependency).mp listed) with
      ⟨own, inside, rfl⟩ | core | ⟨own, rfl, rfl⟩
    · exact declared_gateway made (emulated_of_node reached inside)
    · exact declared_core made core
    · rcases (resolved node reached free).2 own chosen with emulated | ⟨-, declared⟩
      · exact declared_gateway made emulated
      · exact (declared_service made).mpr declared
  | broker broker =>
    have kept : broker ∈ t.brokers rt := by simpa [written] using member
    rw [broker_dependsOn (plain.brokers broker reached) generated, List.mem_append, List.mem_map] at listed
    rcases listed with ⟨own, inside, rfl⟩ | core
    · exact declared_gateway made (emulated_of_broker kept inside)
    · exact declared_core made core

theorem resolved_of_closed (made : t.toComposeDict rt = .ok D) (plain : t.Plain) (closed : D.Closed) :
    t.NodesResolved := by
  intro node member free
  obtain ⟨entry, generated, found⟩ := value?_services_of_owner made (t.owner_node rt member free)
  obtain ⟨brokerNetwork, chosen, networks⟩ := node_networks (plain.nodes node member) generated
  obtain ⟨_, chosen', dependencies⟩ := node_dependsOn (plain.nodes node member) generated
  cases chosen.symm.trans chosen'
  -- the entry of the node lists these networks, and a closed definition declares what it lists
  constructor
  · intro srv linked
    have listed := (networks _).mpr (mem_nodeNetworks.mpr (Or.inr (Or.inl ⟨srv, linked, rfl⟩)))
    exact Or.inr ((mem_keys_networks made).mp (closed.networks _ _ found _ listed))
  · intro network selected
    cases chosen.symm.trans selected
    have listed := (networks _).mpr (mem_nodeNetworks.mpr (Or.inr (Or.inr ⟨network, rfl, rfl⟩)))
    have needed := (dependencies _).mpr (mem_nodeDependsOn.mpr (Or.inr (Or.inr ⟨network, rfl, rfl⟩)))
    rcases (mem_keys_networks made).mp (closed.networks _ _ found _ listed) with emulated | declared
    · exact Or.inl emulated
    · exact Or.inr ⟨declared, (declared_service made).mp (closed.dependsOn _ _ found _ needed)⟩

/-- Without user dictionaries a definition is closed exactly when its nodes are resolved. -/
theorem closed_iff_nodesResolved (made : t.toComposeDict rt = .ok D) (plain : t.Plain) :
    D.Closed ↔ t.NodesResolved := by
  constructor
  · exact resolved_of_closed made plain
  · intro resolved
    exact ⟨fun _ _ found _ listed => networks_declared made plain resolved found listed,
      fun _ _ found _ listed => dependsOn_declared made plain resolved found listed⟩

def sharedService : Topology where
  nodes := [clockNode "first" (some ⟨0, "db", "mongo", []⟩), clockNode "second" (some ⟨0, "db", "mongo", []⟩)]

theorem sharedService_closed :
    ∃ D, sharedService.toComposeDict Runtime.plain = .ok D ∧ D.Closed := by
  have plain : sharedService.Plain := ⟨by decide, by decide, by decide⟩
  have resolved : sharedService.NodesResolved := by
    intro node member _
    have first : ∀ node ∈ sharedService.nodes, ∀ srv ∈ node.services,
        sharedService.serviceObjects.find? (fun other => other.name = srv.name) = some srv := by decide
    have noBroker : ∀ node ∈ sharedService.nodes, node.brokerNetwork = .ok none := by decide
    refine ⟨fun srv linked => Or.inl (first node member srv linked), fun network selected => ?_⟩
    rw [noBroker node member] at selected
    cases selected
  have made : sharedService.toComposeDict Runtime.plain = .ok _ := rfl
  exact ⟨_, made, (closed_iff_nodesResolved made plain).mpr resolved⟩

def serviceTwice : Topology where
  nodes := [clockNode "first" (some ⟨0, "db", "mongo", []⟩), clockNode "second" (some ⟨1, "db", "mongo", []⟩)]

/-- The second node lists a private network that nothing declares. -/
theorem serviceTwice_not_closed :
    ¬ ∀ (rt : Runtime) (t : Topology) (D : Definition), t.Plain → t.toComposeDict rt = .ok D → D.Closed := by
  intro all
  have listed : ∃ D, serviceTwice.toComposeDict Runtime.plain = .ok D ∧
      (∃ service, Dict.value? D.services "second" = some service ∧
        "srvnet_db_second" ∈ service.listed "networks") ∧
      "srvnet_db_second" ∉ Dict.keys D.networks := by
    refine ⟨_, rfl, ⟨_, rfl, ?_⟩, ?_⟩
    · decide
    · decide
  obtain ⟨D, made, ⟨service, found, named⟩, undeclared⟩ := listed
  have closed := all Runtime.plain serviceTwice D ⟨by decide, by decide, by decide⟩ made
  exact undeclared (closed.networks _ _ found _ named)

end Topology

end Wotemu
