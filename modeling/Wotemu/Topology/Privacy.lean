import Wotemu.Foundation.Separated
import Wotemu.Topology.Entries

/-! Privacy of the networks between nodes and generic services.

A service is attached to a node by a network that carries both names. The node
finds it through its own services, the service through the nodes that hold it,
and the two meet on that network alone as long as the joined names tell the
pairs apart.
-/

set_option autoImplicit false

namespace Wotemu

open Wotemu.Foundation

namespace Topology

def Linked (t : Topology) (srv : Service) (node : Node) : Prop :=
  node ∈ t.nodes ∧ srv ∈ node.services

end Topology

structure Definition.Meets (rt : Runtime) (t : Topology) (D : Definition) (node : Node) (srv : Service)
    (nodeEntry srvEntry : Value) : Prop where
  nodeMade : getNodeDefinition rt t node = .ok [(node.name, nodeEntry)]
  nodeStored : Dict.value? D.services node.name = some nodeEntry
  serviceMade : getGenericServiceDefinition rt t srv = .ok [(srv.name, srvEntry)]
  serviceStored : Dict.value? D.services srv.name = some srvEntry
  shared : (∃ network ∈ nodeEntry.listed "networks", network ∈ srvEntry.listed "networks") ↔
    t.Linked srv node

/-- Nodes and services share a network exactly when they are linked, and the network of a
linked pair belongs to that pair alone. -/
structure Definition.Private (rt : Runtime) (t : Topology) (D : Definition) : Prop where
  meets : ∀ node ∈ t.nodes, ∀ srv ∈ t.serviceObjects, ∃ nodeEntry srvEntry,
    D.Meets rt t node srv nodeEntry srvEntry
  ownPair : ∀ srv node other host, t.Linked srv node → t.Linked other host →
    srv.getNodeNetworkName node = other.getNodeNetworkName host → srv = other ∧ node = host
  notEmulated : ∀ srv node, t.Linked srv node → ∀ network ∈ t.networkObjects,
    network.name ≠ srv.getNodeNetworkName node

namespace Topology

/-- What keeps linked pairs apart: no service continues the name of another one into the
name of a node, no network looks like a private one, services with one name are one
object, and no broker takes the name of a service or of a node beside it. -/
structure PairsApart (t : Topology) : Prop where
  names : ∀ srv node other host, t.Linked srv node → t.Linked other host →
    ¬ ∃ shared, other.name = srv.name ++ "_" ++ shared ∧ node.name = shared ++ "_" ++ host.name
  networks : ∀ srv node, t.Linked srv node → ∀ network ∈ t.networkObjects,
    network.name ≠ "srvnet_" ++ srv.name ++ "_" ++ node.name
  services : ∀ srv ∈ t.serviceObjects, ∀ other ∈ t.serviceObjects, srv.name = other.name → srv = other
  brokers : ∀ srv ∈ t.serviceObjects, ∀ node ∈ t.nodes, ∀ broker ∈ t.brokerObjects,
    broker.name ≠ srv.name ∧ broker.name ≠ node.name

variable {rt : Runtime} {t : Topology} {D : Definition}

theorem Linked.reached {srv : Service} {node : Node} (linked : t.Linked srv node) :
    srv ∈ t.serviceObjects :=
  List.mem_flatMap.mpr ⟨node, linked.1, linked.2⟩

/-- The joined names of two pairs agree only through an underscore inside of a name. -/
theorem getNodeNetworkName_eq_iff {srv other : Service} {node host : Node} :
    srv.getNodeNetworkName node = other.getNodeNetworkName host ↔
      (srv.name = other.name ∧ node.name = host.name) ∨
      (∃ shared, other.name = srv.name ++ "_" ++ shared ∧ node.name = shared ++ "_" ++ host.name) ∨
      (∃ shared, srv.name = other.name ++ "_" ++ shared ∧ host.name = shared ++ "_" ++ node.name) := by
  unfold Service.getNodeNetworkName
  rw [String.append_assoc, String.append_assoc, String.append_assoc, String.append_assoc,
    String.append_right_inj, ← String.append_assoc, ← String.append_assoc]
  exact join_string_eq_iff (rfl : "_".toList = ['_'])

theorem ne_append_underscore (name shared : String) : name ≠ name ++ "_" ++ shared := by
  intro same
  have lengths := congrArg String.length same
  rw [String.length_append, String.length_append] at lengths
  have one : "_".length = 1 := rfl
  omega

theorem brokerNetwork_name {node : Node} (member : node ∈ t.nodes) {network : Network}
    (chosen : node.brokerNetwork = .ok (some network)) :
    ∃ own ∈ t.networkObjects, own.name = network.name := by
  -- the argument is checked against the networks of the broker, the default is its first one
  have attached : ∃ broker, node.broker = some broker ∧ network.name ∈ broker.networks.map Network.name := by
    cases held : node.broker with
    | none => simp [Node.brokerNetwork, held] at chosen
    | some broker =>
      refine ⟨broker, rfl, ?_⟩
      cases given : node.brokerNetworkArg with
      | some own =>
        simp only [Node.brokerNetwork, held, given] at chosen
        split at chosen
        · rename_i inside
          cases chosen
          exact inside
        · cases chosen
      | none =>
        simp only [Node.brokerNetwork, held, given] at chosen
        split at chosen
        · rename_i networks
          cases chosen
          simp [networks]
        · cases chosen
  obtain ⟨broker, held, named⟩ := attached
  obtain ⟨own, inside, same⟩ := List.mem_map.mp named
  have brokerMember : broker ∈ t.brokerObjects :=
    List.mem_append_right _ (List.mem_filterMap.mpr ⟨node, member, held⟩)
  exact ⟨own, List.mem_append_right _ (List.mem_flatMap.mpr ⟨broker, brokerMember, inside⟩), same⟩

section Apart

variable (apart : t.PairsApart)

include apart

theorem PairsApart.ownPair {srv other : Service} {node host : Node} (left : t.Linked srv node)
    (right : t.Linked other host) (same : srv.getNodeNetworkName node = other.getNodeNetworkName host) :
    srv = other ∧ node = host := by
  rcases getNodeNetworkName_eq_iff.mp same with ⟨sameService, sameNode⟩ | overlap | overlap
  · exact ⟨apart.services _ left.reached _ right.reached sameService,
      t.node_eq_of_name left.1 right.1 sameNode⟩
  · exact absurd overlap (apart.names _ _ _ _ left right)
  · exact absurd overlap (apart.names _ _ _ _ right left)

/-- A node lists a private network only when the network is its own. -/
theorem PairsApart.linked_of_listed (plain : t.Plain) {node host : Node} {srv : Service} {name : String}
    {entry : Value} (member : node ∈ t.nodes) (linked : t.Linked srv host)
    (made : getNodeDefinition rt t node = .ok [(name, entry)])
    (listed : srv.getNodeNetworkName host ∈ entry.listed "networks") : host = node := by
  obtain ⟨brokerNetwork, chosen, listing⟩ := node_networks (plain.nodes node member) made
  rcases mem_nodeNetworks.mp ((listing _).mp listed) with
    ⟨network, inside, same⟩ | ⟨other, otherLinked, same⟩ | ⟨network, rfl, same⟩
  -- the listed name is that of a network, of a private network or of the broker network
  · have reached : network ∈ t.networkObjects :=
      List.mem_append_left _ (List.mem_flatMap.mpr ⟨node, member, inside⟩)
    exact absurd same (apart.networks _ _ linked network reached)
  · exact (apart.ownPair ⟨member, otherLinked⟩ linked same).2.symm
  · obtain ⟨own, reached, ownName⟩ := brokerNetwork_name member chosen
    exact absurd (ownName.trans same) (apart.networks _ _ linked own reached)

theorem PairsApart.meets (made : t.toComposeDict rt = .ok D) (plain : t.Plain) {node : Node}
    {srv : Service} (member : node ∈ t.nodes) (reached : srv ∈ t.serviceObjects) :
    ∃ nodeEntry srvEntry, D.Meets rt t node srv nodeEntry srvEntry := by
  have kept : srv ∈ distinctBy Service.name t.serviceObjects :=
    (mem_distinctBy_of_injOn _ apart.services).mpr reached
  obtain ⟨nodeEntry, generated, nodeStored⟩ := value?_services_of_owner made
    (t.owner_node rt member fun broker inside => (apart.brokers srv reached node member broker inside).2)
  obtain ⟨srvEntry, srvGenerated, srvStored⟩ := value?_services_of_owner made
    (t.owner_service rt kept fun broker inside => (apart.brokers srv reached node member broker inside).1)
  refine ⟨nodeEntry, srvEntry, generated, nodeStored, srvGenerated, srvStored, ?_⟩
  rw [service_networks srvGenerated]
  constructor
  · rintro ⟨network, listed, attached⟩
    obtain ⟨host, hostMember, rfl⟩ := List.mem_map.mp attached
    have linked : t.Linked srv host := (t.mem_getServiceNodes rt).mp hostMember
    exact apart.linked_of_listed plain member linked generated listed ▸ linked
  · intro linked
    obtain ⟨brokerNetwork, -, listing⟩ := node_networks (plain.nodes node member) generated
    refine ⟨srv.getNodeNetworkName node, (listing _).mpr ?_, ?_⟩
    · exact mem_nodeNetworks.mpr (Or.inr (Or.inl ⟨srv, linked.2, rfl⟩))
    · exact List.mem_map_of_mem ((t.mem_getServiceNodes rt).mpr linked)

theorem private_of_pairsApart (made : t.toComposeDict rt = .ok D) (plain : t.Plain) : D.Private rt t :=
  ⟨fun _ member _ reached => apart.meets made plain member reached,
    fun _ _ _ _ left right same => apart.ownPair left right same, apart.networks⟩

end Apart

/-- A broker written under the name of a node or a service replaces its entry. -/
theorem broker_free (made : t.toComposeDict rt = .ok D) (plain : t.Plain) {node : Node} {srv : Service}
    {nodeEntry srvEntry : Value} (member : node ∈ t.nodes)
    (meets : D.Meets rt t node srv nodeEntry srvEntry) {broker : Broker}
    (inside : broker ∈ t.brokerObjects) : broker.name ≠ srv.name ∧ broker.name ≠ node.name := by
  obtain ⟨kept, owned⟩ := t.owner_broker rt inside
  have reached := t.reaches_of_written rt (UpdateEach.last_key owned).2
  obtain ⟨entry, generated, stored⟩ := value?_services_of_owner made owned
  constructor
  · -- only the entry of a broker has an attribute `depends_on`
    intro same
    rw [same, meets.serviceStored] at stored
    cases stored
    have absent := service_field "depends_on" meets.serviceMade (by decide) (by decide) (by decide)
    rw [broker_field "depends_on" (plain.brokers kept reached) generated (by decide)] at absent
    cases absent
  · intro same
    rw [same, meets.nodeStored] at stored
    cases stored
    have labels := node_labels (plain.nodes node member) meets.nodeMade
    rw [broker_labels (plain.brokers kept reached) generated] at labels
    exact absurd labels (by decide)

theorem pairsApart_of_private (made : t.toComposeDict rt = .ok D) (plain : t.Plain)
    (isPrivate : D.Private rt t) : t.PairsApart := by
  constructor
  case names =>
    rintro srv node other host left right ⟨shared, overlap⟩
    have same := getNodeNetworkName_eq_iff.mpr (Or.inr (Or.inl ⟨shared, overlap⟩))
    obtain ⟨rfl, -⟩ := isPrivate.ownPair srv node other host left right same
    exact ne_append_underscore _ _ overlap.1
  case networks => exact isPrivate.notEmulated
  case services =>
    intro srv reached other otherReached same
    obtain ⟨node, member, -⟩ := List.mem_flatMap.mp reached
    obtain ⟨_, entry, meets⟩ := isPrivate.meets node member srv reached
    obtain ⟨_, otherEntry, otherMeets⟩ := isPrivate.meets node member other otherReached
    -- one entry under the name serves both objects, so they were generated alike
    have stored := meets.serviceStored
    rw [same, otherMeets.serviceStored] at stored
    cases stored
    exact service_eq_of_same_definition otherReached same meets.serviceMade (same ▸ otherMeets.serviceMade)
  case brokers =>
    intro srv reached node member broker inside
    obtain ⟨_, _, meets⟩ := isPrivate.meets node member srv reached
    exact broker_free made plain member meets inside

/-- Without user dictionaries the networks of linked pairs are private exactly when the
topology keeps the pairs apart. -/
theorem private_iff_pairsApart (made : t.toComposeDict rt = .ok D) (plain : t.Plain) :
    D.Private rt t ↔ t.PairsApart :=
  ⟨pairsApart_of_private made plain, fun apart => private_of_pairsApart apart made plain⟩

def oneDatabase : Topology where
  nodes := [clockNode "first" (some ⟨0, "db", "mongo", []⟩), clockNode "second" none]

theorem oneDatabase_private :
    ∃ D, oneDatabase.toComposeDict Runtime.plain = .ok D ∧ D.Private Runtime.plain oneDatabase := by
  have only : ∀ srv ∈ oneDatabase.serviceObjects, srv = ⟨0, "db", "mongo", []⟩ := by decide
  have apart : oneDatabase.PairsApart := by
    refine ⟨?_, ?_, ?_, fun _ _ _ _ _ inside => (by cases inside)⟩
    · rintro srv node other host left right ⟨shared, overlap, -⟩
      rw [only srv left.reached, only other right.reached] at overlap
      exact ne_append_underscore _ _ overlap
    · intro srv node linked
      have checked : ∀ node ∈ oneDatabase.nodes, ∀ srv ∈ node.services, ∀ network ∈ oneDatabase.networkObjects,
          network.name ≠ "srvnet_" ++ srv.name ++ "_" ++ node.name := by decide
      exact checked node linked.1 srv linked.2
    · intro srv reached other otherReached _
      rw [only srv reached, only other otherReached]
  have made : oneDatabase.toComposeDict Runtime.plain = .ok _ := rfl
  exact ⟨_, made, (private_iff_pairsApart made ⟨by decide, by decide, by decide⟩).mpr apart⟩

def underscoredPairs : Topology where
  nodes := [clockNode "c" (some ⟨0, "a_b", "mongo", []⟩), clockNode "b_c" (some ⟨1, "a", "mongo", []⟩)]

/-- Both nodes and both services of the two pairs meet on one network. -/
theorem underscoredPairs_not_private :
    ¬ ∀ (rt : Runtime) (t : Topology) (D : Definition), t.Plain → t.toComposeDict rt = .ok D →
      D.Private rt t := by
  intro all
  have shared : ∃ D, underscoredPairs.toComposeDict Runtime.plain = .ok D ∧
      ∃ node service, Dict.value? D.services "c" = some node ∧ Dict.value? D.services "a" = some service ∧
        "srvnet_a_b_c" ∈ node.listed "networks" ∧ "srvnet_a_b_c" ∈ service.listed "networks" :=
    ⟨_, rfl, _, _, rfl, rfl, by decide, by decide⟩
  obtain ⟨D, made, nodeEntry, srvEntry, nodeStored, srvStored, listed, attached⟩ := shared
  have isPrivate := all Runtime.plain underscoredPairs D ⟨by decide, by decide, by decide⟩ made
  obtain ⟨_, _, meets⟩ := isPrivate.meets _ List.mem_cons_self ⟨1, "a", "mongo", []⟩ (by decide)
  cases meets.nodeStored.symm.trans nodeStored
  cases meets.serviceStored.symm.trans srvStored
  have linked := (meets.shared.mp ⟨_, listed, attached⟩).2
  revert linked
  decide

end Topology

end Wotemu
