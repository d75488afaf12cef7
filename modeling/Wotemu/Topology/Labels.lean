import Wotemu.Topology.Ordering

/-! The labels of the services and the networks of a definition.

The commands that run in the containers tell the parts of an emulation apart by
their labels. A dictionary of the user may add labels, so the statements are
about dictionaries that leave the labels of the emulator alone.
-/

set_option autoImplicit false

namespace Wotemu

open Wotemu.Foundation

/-- The label of the services of a kind. The proxy of Docker has none. -/
def Kind.label : Kind → Option Labels
  | dockerProxy => none
  | redis => some .redis
  | gateway => some .gateway
  | service => some .service
  | node => some .node
  | broker => some .broker

theorem Kind.label_injective {first second : Kind} {label : Labels} (left : first.label = some label)
    (right : second.label = some label) : first = second := by
  have same : first.label = second.label := left.trans right.symm
  revert same
  cases first <;> cases second <;> simp [Kind.label]

theorem Labels.value_injective {first second : Labels} (same : first.value = second.value) : first = second := by
  revert same
  cases first <;> cases second <;> simp [Labels.value]

def labelOf (entry : Value) (label : Labels) : Option Value :=
  (entry.field "labels").bind (·.field label.value)

def LabelledAs (entry : Value) (given : Option Labels) : Prop :=
  ∀ label, labelOf entry label = if given = some label then some (.str "") else none

/-- A dictionary of the user whose labels, if it has any, are none of the emulator's. -/
def LeavesLabels (given : Dict String Value) : Prop :=
  ∀ value, ("labels", value) ∈ given → ∃ more, value = .dict more ∧ ∀ label : Labels, label.value ∉ Dict.keys more

/-- The same for the parameters of a service, whose labels are given as `dict.update` takes them. -/
def LeavesParams (params : Dict String Value) : Prop :=
  ∀ value more, Dict.value? params "labels" = some value → value.asEntries = .ok more →
    ∀ label : Labels, label.value ∉ Dict.keys more

structure Topology.LeavesLabels (t : Topology) : Prop where
  nodes : ∀ node ∈ t.nodes, Wotemu.LeavesLabels node.argsCompose
  brokers : ∀ broker ∈ t.brokerObjects, Wotemu.LeavesLabels broker.argsCompose
  networks : ∀ network ∈ t.networkObjects, Wotemu.LeavesLabels network.argsComposeGw
  services : ∀ srv ∈ t.serviceObjects, LeavesParams srv.params

variable {rt : Runtime} {t : Topology}

section Kept

variable {service : Dict String Value} {label : Labels}

def Carries (service : Dict String Value) (label : Labels) : Prop :=
  ∃ labels, Dict.value? service "labels" = some (.dict labels) ∧
    ∀ other : Labels, Dict.value? labels other.value = if label = other then some (.str "") else none

theorem Carries.of_labelled (found : Dict.value? service "labels" = some (labelled label)) : Carries service label := by
  refine ⟨_, found, fun other => ?_⟩
  by_cases same : label = other
  · simp [same, Dict.value?]
  · have different : other.value ≠ label.value := fun equal => same (Labels.value_injective equal).symm
    simp [same, different, Dict.value?]

theorem Carries.congr {result : Dict String Value} (carries : Carries service label)
    (same : Dict.value? result "labels" = Dict.value? service "labels") : Carries result label := by
  obtain ⟨labels, found, values⟩ := carries
  exact ⟨labels, same.trans found, values⟩

theorem Carries.labelledAs (carries : Carries service label) : LabelledAs (.dict service) (some label) := by
  obtain ⟨labels, found, values⟩ := carries
  intro other
  rw [labelOf, Value.field, found]
  simpa [Value.field] using values other

theorem Carries.mergeArgsCompose {argsCompose : Dict String Value} (carries : Carries service label)
    (deepmerge : rt.DeepMerge) (leaves : LeavesLabels argsCompose) :
    Carries (mergeArgsCompose rt service argsCompose) label := by
  unfold Wotemu.mergeArgsCompose
  split
  · exact carries
  · obtain ⟨labels, found, values⟩ := carries
    have mapping : ∀ value, ("labels", value) ∈ argsCompose → ∃ more, value = .dict more := by
      intro value member
      obtain ⟨more, isDict, -⟩ := leaves value member
      exact ⟨more, isDict⟩
    obtain ⟨merged, made, kept⟩ := Value.value?_mergeEntries_dict found mapping
    rw [deepmerge]
    refine ⟨merged, made, fun other => ?_⟩
    rw [kept other.value, values]
    intro more member
    obtain ⟨_, isDict, absent⟩ := leaves _ member
    cases isDict
    exact absent other

theorem Carries.mergeParam {params result : Dict String Value} (carries : Carries service label)
    (leaves : LeavesParams params) (made : mergeParam params "labels" "labels" service = .ok result) :
    Carries result label := by
  unfold Wotemu.mergeParam at made
  dsimp only at made
  split at made
  · rename_i given
    unfold updateAttribute at made
    obtain ⟨more, read, made⟩ := bind_ok made
    cases made
    obtain ⟨labels, found, values⟩ := carries
    refine ⟨_, Dict.value?_assign_self _ _ _, fun other => ?_⟩
    cases params' : Dict.value? params "labels" with
    | none =>
      rw [params'] at given
      cases given
    | some value =>
      rw [params'] at read
      rw [Dict.value?_update_of_not_mem (leaves value more params' read other), Dict.entriesAt, found]
      exact values other
  · cases made
    exact carries

end Kept

section Services

variable {name : String} {entry : Value}

theorem configured_labelled {service argsCompose result : Dict String Value} {label : Labels} (deepmerge : rt.DeepMerge)
    (leaves : LeavesLabels argsCompose) (carries : Carries service label)
    (configured : mergeTopologyConfig t (mergeArgsCompose rt service argsCompose) = .ok result) :
    LabelledAs (.dict result) (some label) :=
  ((carries.mergeArgsCompose deepmerge leaves).congr (mergeTopologyConfig_frame configured (by decide))).labelledAs

theorem service_labelled {srv : Service} (leaves : LeavesParams srv.params)
    (made : getGenericServiceDefinition rt t srv = .ok [(name, entry)]) : LabelledAs entry (some .service) := by
  obtain ⟨withEnv, env, made⟩ := bind_ok made
  obtain ⟨withLabels, labels, made⟩ := bind_ok made
  obtain ⟨_, -, made⟩ := bind_ok made
  obtain ⟨_, -, made⟩ := bind_ok made
  cases made
  have base : Carries serviceBaseGeneric .service := Carries.of_labelled rfl
  have kept := (base.congr (mergeParam_frame env (by decide))).mergeParam leaves labels
  refine Carries.labelledAs (kept.congr ?_)
  rw [Dict.value?_update_of_not_mem (by simp [Dict.keys]), updateDeploy_frame _ (by decide)]

theorem node_labelled {node : Node} (deepmerge : rt.DeepMerge) (leaves : LeavesLabels node.argsCompose)
    (made : getNodeDefinition rt t node = .ok [(name, entry)]) : LabelledAs entry (some .node) := by
  obtain ⟨brokerNetwork, chosen, -⟩ := bind_ok made
  rw [getNodeDefinition_eq chosen] at made
  have base : Carries (nodeService rt t node brokerNetwork) .node := by
    apply Carries.of_labelled
    unfold nodeService
    rw [updateDeploy_frame _ (by decide), mergeTargetSpeed_frame node (by decide)]
    rfl
  obtain ⟨_, configured, made⟩ := bind_ok made
  cases made
  exact configured_labelled deepmerge leaves base configured

/-- Every component generates an entry with the label of its kind and no other one. -/
theorem Component.labelled {c : Component} (deepmerge : rt.DeepMerge) (leaves : t.LeavesLabels) (reached : t.Reaches c)
    (made : c.toComposeDict rt t = .ok [(name, entry)]) : LabelledAs entry c.kind.label := by
  cases c with
  | dockerProxy =>
    cases made
    intro label
    rfl
  | redis =>
    cases made
    exact (Carries.of_labelled (rfl : Dict.value? _ "labels" = some (Wotemu.labelled .redis))).labelledAs
  | gateway network =>
    unfold toComposeDict getNetworkGatewayDefinition at made
    obtain ⟨_, configured, made⟩ := bind_ok made
    cases made
    exact configured_labelled deepmerge (leaves.networks network reached) (Carries.of_labelled rfl) configured
  | service srv => exact service_labelled (leaves.services srv reached) made
  | node node => exact node_labelled deepmerge (leaves.nodes node reached) made
  | broker broker =>
    unfold toComposeDict getBrokerDefinition at made
    obtain ⟨_, configured, made⟩ := bind_ok made
    cases made
    exact configured_labelled deepmerge (leaves.brokers broker reached) (Carries.of_labelled rfl) configured

end Services

section Networks

variable {D : Definition} {name : String}

/-- A private network has the label of the service networks, also where an emulated one has its name. -/
theorem Topology.private_labelled (made : t.toComposeDict rt = .ok D) (isPrivate : t.PrivateNetwork name) :
    ∃ entry, Dict.value? D.networks name = some entry ∧ LabelledAs entry (some .serviceNetwork) :=
  ⟨privateEntry name, (value?_networks made name).1 isPrivate, (Carries.of_labelled rfl).labelledAs⟩

theorem Topology.emulated_labelled (made : t.toComposeDict rt = .ok D) (isShared : ¬ t.PrivateNetwork name)
    (emulated : t.EmulatedNetwork name) :
    ∃ entry, Dict.value? D.networks name = some entry ∧ LabelledAs entry (some .network) :=
  ⟨emulatedEntry name, (value?_networks made name).2 isShared emulated, (Carries.of_labelled rfl).labelledAs⟩

end Networks

end Wotemu
