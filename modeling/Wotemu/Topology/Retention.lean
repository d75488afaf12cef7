import Wotemu.Topology.Entries

/-! Retention: the entry of every component that a topology reaches is kept.

The generators write into one dictionary, so a component keeps its entry when
whatever is written last under its name is of its own kind and is built alike.
Only the names of nodes and services are compared by the constructor.
-/

set_option autoImplicit false

namespace Wotemu

open Wotemu.Foundation

/-- Under the name of each component lies what its own generator builds, and the
component written last under that name is of the same kind. -/
def Definition.Retains (rt : Runtime) (t : Topology) (D : Definition) : Prop :=
  ∀ c, t.Reaches c → ∃ entry, c.toComposeDict rt t = .ok [(c.name t, entry)] ∧
    Dict.value? D.services (c.name t) = some entry ∧
    ∃ last, t.owner rt (c.name t) = some last ∧ last.kind = c.kind

namespace Topology

/-- What keeps the components of a topology apart: a name belongs to one kind, and
objects of one kind that share a name stand for the same component. -/
structure ComponentsApart (rt : Runtime) (t : Topology) : Prop where
  kinds : ∀ c other, t.Reaches c → t.Reaches other → c.name t = other.name t → c.kind = other.kind
  networks : ∀ network ∈ t.networkObjects, t.EmulatedNetwork network.name
  services : ∀ srv ∈ t.serviceObjects, ∀ other ∈ t.serviceObjects, srv.name = other.name → srv = other
  gateways : ∀ network ∈ t.networkObjects, ∀ other ∈ t.networkObjects, network.name = other.name →
    getNetworkGatewayDefinition rt t network = getNetworkGatewayDefinition rt t other
  brokers : ∀ broker ∈ t.brokerObjects, ∀ other ∈ t.brokerObjects, broker.name = other.name →
    getBrokerDefinition rt t broker = getBrokerDefinition rt t other

variable {rt : Runtime} {t : Topology} {D : Definition}

theorem ComponentsApart.sameDefinition (apart : t.ComponentsApart rt) {c other : Component}
    (reached : t.Reaches c) (otherReached : t.Reaches other) (same : c.name t = other.name t) :
    c.toComposeDict rt t = other.toComposeDict rt t := by
  have sameKind := apart.kinds c other reached otherReached same
  cases c <;> cases other <;> try cases sameKind
  case dockerProxy.dockerProxy => rfl
  case redis.redis => rfl
  case gateway.gateway network other =>
    exact apart.gateways _ reached _ otherReached (Network.nameGateway_injective same)
  case service.service srv other =>
    rw [apart.services _ reached _ otherReached same]
  case node.node node other =>
    rw [t.node_eq_of_name reached otherReached same]
  case broker.broker broker other =>
    exact apart.brokers _ reached _ otherReached same

theorem ComponentsApart.exists_written (apart : t.ComponentsApart rt) {c : Component}
    (reached : t.Reaches c) : ∃ kept ∈ t.written rt, kept.name t = c.name t := by
  cases c with
  | dockerProxy => exact ⟨.dockerProxy, by simp [written, show t.dockerProxy.enabled = true from reached], rfl⟩
  | redis => exact ⟨.redis, by simp [written, show t.redis.enabled = true from reached], rfl⟩
  | gateway network =>
    obtain ⟨kept, member, same⟩ := t.exists_written_gateway rt (apart.networks network reached)
    exact ⟨_, member, congrArg (fun name => "gw" ++ "_" ++ name) same⟩
  | service srv =>
    obtain ⟨kept, member, same⟩ := t.exists_written_service rt reached
    exact ⟨_, member, same⟩
  | node node => exact ⟨_, t.exists_written_node rt reached, rfl⟩
  | broker broker =>
    obtain ⟨kept, member, same⟩ := t.exists_written_broker rt reached
    exact ⟨_, member, same⟩

theorem retains_of_componentsApart (made : t.toComposeDict rt = .ok D) (apart : t.ComponentsApart rt) :
    D.Retains rt t := by
  intro c reached
  obtain ⟨kept, member, sameName⟩ := apart.exists_written reached
  obtain ⟨last, found⟩ : ∃ last, t.owner rt (c.name t) = some last := UpdateEach.last_of_mem member sameName
  obtain ⟨lastName, lastMember⟩ := UpdateEach.last_key found
  -- whatever is written last under the name is reached as well, hence built alike
  have lastReached := t.reaches_of_written rt lastMember
  obtain ⟨entry, generated, stored⟩ := value?_services_of_owner made found
  rw [apart.sameDefinition lastReached reached lastName] at generated
  exact ⟨entry, generated, stored, last, found, apart.kinds _ _ lastReached reached lastName⟩

theorem componentsApart_of_retains (retained : D.Retains rt t) : t.ComponentsApart rt := by
  -- one entry lies under the common name, and both components generate it
  have alike : ∀ c other, t.Reaches c → t.Reaches other → c.name t = other.name t →
      ∃ entries, c.toComposeDict rt t = .ok entries ∧ other.toComposeDict rt t = .ok entries := by
    intro c other reached otherReached same
    obtain ⟨entry, generated, stored, -⟩ := retained c reached
    obtain ⟨otherEntry, otherGenerated, otherStored, -⟩ := retained other otherReached
    rw [← same, stored] at otherStored
    cases otherStored
    exact ⟨_, generated, same ▸ otherGenerated⟩
  constructor
  case kinds =>
    intro c other reached otherReached same
    obtain ⟨_, -, -, last, found, lastKind⟩ := retained c reached
    obtain ⟨_, -, -, otherLast, otherFound, otherKind⟩ := retained other otherReached
    rw [same, otherFound] at found
    cases found
    exact lastKind.symm.trans otherKind
  case networks =>
    intro network reached
    obtain ⟨_, -, -, last, found, lastKind⟩ := retained (.gateway network) reached
    obtain ⟨sameName, member⟩ := UpdateEach.last_key found
    cases last <;> try cases lastKind
    case gateway kept =>
      have inside : kept ∈ t.networks rt := by simpa [written] using member
      rw [← Network.nameGateway_injective sameName]
      exact (t.mem_networks_name rt).mp (List.mem_map_of_mem inside)
  case services =>
    intro srv reached other otherReached same
    obtain ⟨_, left, right⟩ := alike (.service srv) (.service other) reached otherReached same
    exact service_eq_of_same_definition otherReached same left right
  case gateways =>
    intro network reached other otherReached same
    obtain ⟨_, left, right⟩ := alike (.gateway network) (.gateway other) reached otherReached
      (congrArg (fun name => "gw" ++ "_" ++ name) same)
    exact left.trans right.symm
  case brokers =>
    intro broker reached other otherReached same
    obtain ⟨_, left, right⟩ := alike (.broker broker) (.broker other) reached otherReached same
    exact left.trans right.symm

/-- A definition keeps every component exactly when the topology keeps them apart. -/
theorem retains_iff_componentsApart (made : t.toComposeDict rt = .ok D) :
    D.Retains rt t ↔ t.ComponentsApart rt :=
  ⟨componentsApart_of_retains, retains_of_componentsApart made⟩

def clockOnly : Topology where
  nodes := [clockNode "clock" none]

theorem clockOnly_retained :
    ∃ D, clockOnly.toComposeDict Runtime.plain = .ok D ∧ D.Retains Runtime.plain clockOnly := by
  have networks : ∀ network ∈ clockOnly.networkObjects, network = { name := "net" } := by decide
  have names : ∀ c, clockOnly.Reaches c → (c.name clockOnly, c.kind) ∈
      [("docker_api_proxy", Kind.dockerProxy), ("redis", .redis), ("gw_net", .gateway), ("clock", .node)] := by
    intro c reached
    cases c with
    | dockerProxy => decide
    | redis => decide
    | gateway network => rw [networks network reached]; decide
    | service srv => cases reached
    | node node => rw [List.mem_singleton.mp reached]; decide
    | broker broker => cases reached
  have apart : clockOnly.ComponentsApart Runtime.plain := by
    refine ⟨?_, ?_, fun _ reached => (by cases reached), ?_, fun _ reached => (by cases reached)⟩
    · intro c other reached otherReached same
      have first := names c reached
      have second := names other otherReached
      rw [same] at first
      generalize other.name clockOnly = name at first second
      simp only [List.mem_cons, Prod.mk.injEq, List.not_mem_nil, or_false] at first second
      grind
    · intro network reached
      rw [networks network reached]
      exact Or.inl ⟨_, List.mem_singleton_self _, _, List.mem_singleton_self _, rfl⟩
    · intro network reached other otherReached _
      rw [networks network reached, networks other otherReached]
  have made : clockOnly.toComposeDict Runtime.plain = .ok _ := rfl
  exact ⟨_, made, (retains_iff_componentsApart made).mpr apart⟩

def redisNode : Topology where
  nodes := [clockNode "redis" none]

/-- The node is written after Redis and takes its entry. -/
theorem redisNode_not_retained :
    ¬ ∀ (rt : Runtime) (t : Topology) (D : Definition), t.toComposeDict rt = .ok D → D.Retains rt t := by
  intro all
  have replaced : ∃ D, redisNode.toComposeDict Runtime.plain = .ok D ∧
      ∃ stored, Dict.value? D.services "redis" = some stored ∧ stored.field "labels" = some (labelled .node) :=
    ⟨_, rfl, _, rfl, by decide⟩
  obtain ⟨D, made, stored, found, labels⟩ := replaced
  obtain ⟨entry, generated, kept, -⟩ := all Runtime.plain redisNode D made .redis rfl
  cases kept.symm.trans found
  cases generated
  revert labels
  decide

end Topology

end Wotemu
