import Wotemu.Topology.Aliasing

/-! What each generator does to the memory, and what its result depends on.

A service is ready until the dictionaries of the user are merged into it; after
that only its environment is still changed. The result of a generator depends on
the lists of brokers alone.
-/

set_option autoImplicit false

namespace Wotemu.InPlace

open Wotemu.Foundation

section Generators

variable {merger : Merger} (deep : merger.IntoBase) (rt : Runtime) (o : TopologyObject)

theorem keeps_getDockerProxyDefinition :
    Keeps (Effect o 1) (getDockerProxyDefinition rt o) (fun _ => True) := by
  apply keeps_bind (keeps_networks rt o)
  intro nets _
  exact keeps_bind (keeps_update_own (own_baseCopy _).safe) (fun _ _ => keeps_pure trivial)

theorem keeps_getRedisDefinition : Keeps (Effect o 1) (getRedisDefinition rt o) (fun _ => True) := by
  apply keeps_bind (keeps_networks rt o)
  intro nets _
  exact keeps_bind (keeps_update_own (own_baseCopy _).safe) (fun _ _ => keeps_pure trivial)

theorem keeps_getGenericServiceDefinition (srv : Service) :
    Keeps (Effect o 0) (getGenericServiceDefinition rt o srv) (fun _ => True) := by
  apply keeps_bind (keeps_mergeParam o _ _ _ (ownAt_baseCopy serviceBaseGeneric))
  intro service each
  apply keeps_bind (keeps_mergeParam o _ _ _ each)
  intro service each
  apply keeps_bind (keeps_deployParam o _ _ _ _ ⟨[], rfl⟩)
  intro deploy own
  apply keeps_bind (keeps_deployParam o _ _ _ _ own)
  intro deploy _
  apply keeps_bind (keeps_updateDeploy o deploy (each "deploy").own)
  intro service own
  exact keeps_bind (keeps_update_own own.safe) (fun _ _ => keeps_pure trivial)

include deep in
theorem keeps_finish {service : Obj} (ready : Ready service) (name : String) (argsCompose : Dict String Value) :
    Keeps (Effect o 0) (do
      let service ← mergeArgsCompose merger service argsCompose
      let service ← mergeTopologyConfig o service
      return [(name, service)]) (fun _ => True) := by
  apply keeps_bind (keeps_mergeArgsCompose deep o ready _)
  intro service at_environment
  exact keeps_bind (keeps_mergeTopologyConfig o at_environment) (fun _ _ => keeps_pure trivial)

include deep in
theorem keeps_getNetworkGatewayDefinition (network : Network) :
    Keeps (Effect o 0) (getNetworkGatewayDefinition rt merger o network) (fun _ => True) := by
  refine keeps_bind (keeps_update_ready (ready_base .gateway) ?_ (by simp))
    (fun service ready => keeps_finish deep o ready _ _)
  simp [Obj.made_ofValue, Obj.Made.list]

theorem keeps_getNetworkDefinition (network : Network) :
    Keeps (Effect o 0) (getNetworkDefinition network) (fun _ => True) :=
  keeps_bind (keeps_update_own (own_baseCopy _).safe) (fun _ _ => keeps_pure trivial)

include deep in
theorem keeps_getBrokerDefinition (broker : Broker) :
    Keeps (Effect o 0) (getBrokerDefinition rt merger o broker) (fun _ => True) := by
  refine keeps_bind (keeps_update_ready (ready_base .broker) ?_ (by simp))
    (fun service ready => keeps_finish deep o ready _ _)
  simp [Obj.made_ofValue]

theorem keeps_mergeBrokerHost (node : Node) (brokerNetwork : Option Network) {envr : Obj} (made : envr.Made)
    (own : Own envr) : Keeps (Effect o 0) (mergeBrokerHost node brokerNetwork envr)
      (fun result => result.Made ∧ Own result) := by
  unfold mergeBrokerHost
  split
  · apply keeps_update own.safe
    intro old same
    subst same
    cases made with
    | dict each => exact ⟨.dict (made_update each (by simp [Obj.Made.atom])), _, rfl⟩
  · exact keeps_pure ⟨made, own⟩

theorem made_supplied {value : Value} (plain : ∀ entries, value ≠ .dict entries) :
    (Obj.ofValue .supplied value).Made := by
  cases value with
  | dict entries => exact absurd rfl (plain entries)
  | list items => exact .list _ _
  | none | bool | int | float | str => exact .atom _

include deep in
theorem ready_merge {service : Obj} (ready : Ready service) {inner : Dict String Obj}
    (each : ∀ entry ∈ inner, entry.2.Made) :
    Ready (merger.merge service (.dict .made [("environment", .dict .made inner)])) := by
  have madeNext : (Obj.dict .made [("environment", .dict .made inner)]).Made := by
    apply Obj.Made.dict
    intro entry single
    rw [List.mem_singleton.mp single]
    exact .dict each
  refine ⟨deep.made ready.made madeNext, ?_⟩
  obtain ⟨entries, envr, rfl, found⟩ := ready.environment
  obtain ⟨merged, equation, kept⟩ := deep.entries .made entries .made [("environment", .dict .made inner)]
  obtain ⟨new, foundNew, origin⟩ := kept "environment" _ found
  cases origin with
  | inl same => exact ⟨merged, envr, equation, same ▸ foundNew⟩
  | inr merge =>
    obtain ⟨value, single, rfl⟩ := merge
    cases List.mem_singleton.mp single
    obtain ⟨others, equationInner, _⟩ := deep.entries .made envr .made inner
    exact ⟨merged, others, equation, equationInner ▸ foundNew⟩

include deep in
theorem keeps_mergeTargetSpeed {node : Node} (member : node ∈ o.topology.nodes) {service : Obj}
    (ready : Ready service) : Keeps (Effect o 0) (mergeTargetSpeed merger node service) Ready := by
  unfold mergeTargetSpeed
  split
  · rename_i resources given
    split
    · apply keeps_mergeInto deep ready.made
      apply ready_merge deep ready
      intro entry single
      rw [List.mem_singleton.mp single]
      exact made_supplied (o.plain_speed node member resources given)
    · exact keeps_pure ready
  · exact keeps_pure ready

theorem keeps_update_made {deploy : Obj} (made : deploy.Made) {key : String} {value : Obj} (madeValue : value.Made) :
    Keeps (Effect o 0) (update deploy [(key, value)]) Obj.Made := by
  apply keeps_update made.safe
  intro old same
  subst same
  cases made with
  | dict each => exact .dict (made_update each (by simpa using madeValue))

theorem keeps_nodeDeploy {node : Node} (member : node ∈ o.topology.nodes) {deploy : Obj} (made : deploy.Made) :
    Keeps (Effect o 0) (nodeDeploy node deploy) Obj.Made := by
  have resources : Keeps (Effect o 0) (updateResources node deploy) Obj.Made := by
    unfold updateResources
    split
    · exact keeps_update_made o made (Obj.made_ofValue _)
    · exact keeps_pure made
  apply keeps_bind resources
  intro deploy made
  split
  · exact keeps_update_made o made (made_supplied (o.plain_scale node member))
  · exact keeps_pure made

theorem keeps_updateDeploy_ready {deploy service : Obj} (ready : Ready service) (made : deploy.Made) :
    Keeps (Effect o 0) (updateDeploy deploy service) Ready := by
  unfold updateDeploy
  split
  · exact keeps_pure ready
  · exact keeps_update_ready ready (by simpa using made) (by simp)

theorem ready_withNested {service envr : Obj} (ready : Ready service) (made : envr.Made) (own : Own envr) :
    Ready (withNested service "environment" envr) := by
  obtain ⟨entries, others, rfl, _⟩ := ready.environment
  have updated := @Ready.update entries [("environment", envr)] ready
  exact updated (by simpa using made) (by simpa using own)

include deep in
theorem keeps_getNodeDefinition {node : Node} (member : node ∈ o.topology.nodes) :
    Keeps (Effect o 0) (getNodeDefinition rt merger o node) (fun _ => True) := by
  have base := ready_base .node
  apply keeps_bind (keeps_ofExcept _)
  intro brokerNetwork _
  apply keeps_bind (keeps_mergeBrokerHost o node brokerNetwork (made_nested base.made) ⟨_, rfl⟩)
  intro envr envrHolds
  have around := ready_withNested base envrHolds.1 envrHolds.2
  apply keeps_bind (keeps_update_ready around ?_ ?_)
  · intro service ready
    apply keeps_bind (keeps_mergeTargetSpeed deep o member ready)
    intro service ready
    apply keeps_bind (keeps_nodeDeploy o member (made_nested ready.made))
    intro deploy madeDeploy
    apply keeps_bind (keeps_updateDeploy_ready o ready madeDeploy)
    intro service ready
    exact keeps_finish deep o ready _ _
  · simp [Obj.made_ofValue, Obj.Made.atom, envrHolds.1]
  · intro value given
    simp at given
    exact given ▸ envrHolds.2

theorem keeps_serviceNetworks (srv : Service) : Keeps (Effect o 0) (serviceNetworks rt o srv) (fun _ => True) := by
  apply Keeps.foldlM Effect.refl (fun _ _ _ left right => left.trans right)
  · intro nets node _
    exact keeps_bind (keeps_update_own (own_baseCopy _).safe) (fun _ _ => keeps_pure trivial)
  · trivial

theorem keeps_updateEach {α : Type} {generate : α → Program (Dict String Obj)} {items : List α}
    (each : ∀ item ∈ items, Keeps (Effect o 0) (generate item) (fun _ => True)) {target : Obj} (own : Own target) :
    Keeps (Effect o 0) (updateEach generate items target) Own := by
  unfold updateEach
  induction items generalizing target with
  | nil => exact keeps_pure own
  | cons item rest ih =>
    rw [List.foldlM_cons]
    refine keeps_bind (keeps_bind (each item (List.mem_cons_self ..)) fun _ _ => keeps_update_own own.safe) ?_
    intro target own
    exact ih (fun other member => each other (List.mem_cons_of_mem _ member)) own

theorem keeps_updateIf {reads : Nat} {generate : Program (Dict String Obj)}
    (generated : Keeps (Effect o reads) generate (fun _ => True)) {target : Obj} (own : Own target) :
    Keeps (Effect o reads) (updateIf true generate target) Own :=
  keeps_bind generated (fun _ _ => keeps_update_own own.safe)

include deep in
theorem keeps_emulatedServices {services : Obj} (own : Own services) :
    Keeps (Effect o 1) (emulatedServices rt merger o services) Own := by
  apply keeps_bind (keeps_networks rt o)
  intro nets _
  apply keeps_bind (keeps_updateEach o (fun net _ => keeps_getNetworkGatewayDefinition deep rt o net) own)
  intro services own
  apply keeps_bind (keeps_updateEach o (fun srv _ => keeps_getGenericServiceDefinition rt o srv) own)
  intro services own
  apply keeps_bind (keeps_updateEach o (fun node member => keeps_getNodeDefinition deep rt o member) own)
  intro services own
  apply keeps_bind (keeps_weaken (keeps_brokers rt o))
  intro brks _
  exact keeps_updateEach o (fun broker _ => keeps_getBrokerDefinition deep rt o broker) own

theorem keeps_networkDefinitions : Keeps (Effect o 1) (networkDefinitions rt o) (fun _ => True) := by
  apply keeps_bind (keeps_networks rt o)
  intro nets _
  apply keeps_bind (keeps_updateEach o (fun net _ => keeps_getNetworkDefinition o net) ⟨[], rfl⟩)
  intro definitions own
  exact (keeps_updateEach o (fun srv _ => keeps_serviceNetworks rt o srv) own).imp (fun _ _ effect => effect)
    (fun _ _ => trivial)

include deep in
/-- Whatever comes first, the networks are read: for the proxy, for Redis, or for the gateways. -/
theorem keeps_getTopologyDefinition :
    Keeps (Effect o 1) (getTopologyDefinition rt merger o) (fun _ => True) := by
  have rest : ∀ services, Own services → Keeps (Effect o 1) (do
      let services ← emulatedServices rt merger o services
      let definitions ← networkDefinitions rt o
      return Obj.dict .made [("version", .atom (.str "3.7")), ("services", services), ("networks", definitions)])
      (fun _ => True) := by
    intro services own
    apply keeps_bind (keeps_emulatedServices deep rt o own)
    intro services _
    exact keeps_bind (keeps_weaken (keeps_networkDefinitions rt o)) (fun _ _ => keeps_pure trivial)
  have own_empty : Own emptyDict := ⟨[], rfl⟩
  unfold getTopologyDefinition
  cases o.topology.dockerProxy.enabled with
  | true =>
    apply keeps_bind (keeps_updateIf o (keeps_getDockerProxyDefinition rt o) own_empty)
    intro services own
    cases o.topology.redis.enabled with
    | true =>
      apply keeps_bind (keeps_updateIf o (keeps_weaken (keeps_getRedisDefinition rt o)) own)
      exact fun services own => keeps_weaken (rest services own)
    | false => exact keeps_weaken (rest services own)
  | false =>
    cases o.topology.redis.enabled with
    | true =>
      apply keeps_bind (keeps_updateIf o (keeps_getRedisDefinition rt o) own_empty)
      exact fun services own => keeps_weaken (rest services own)
    | false => exact rest emptyDict own_empty

end Generators

/-! What the programs return depends on the lists only. -/

section Returns

variable (merger : Merger) (rt : Runtime) (o : TopologyObject)

theorem respects_getGenericServiceDefinition (srv : Service) :
    Respects SameLists (getGenericServiceDefinition rt o srv) :=
  (respects_mergeParam _ _ _ _).bind fun _ => (respects_mergeParam _ _ _ _).bind fun _ =>
    (respects_deployParam _ _ _ _ _).bind fun _ => (respects_deployParam _ _ _ _ _).bind fun _ =>
      (respects_updateDeploy _ _).bind fun _ => (respects_update _ _).bind fun _ => Respects.pure _

theorem respects_finish (service : Obj) (name : String) (argsCompose : Dict String Value) :
    Respects SameLists (do
      let service ← mergeArgsCompose merger service argsCompose
      let service ← mergeTopologyConfig o service
      return [(name, service)]) :=
  (respects_mergeArgsCompose merger _ _).bind fun _ => (respects_mergeTopologyConfig o _).bind fun _ => Respects.pure _

theorem respects_getNetworkGatewayDefinition (network : Network) :
    Respects SameLists (getNetworkGatewayDefinition rt merger o network) :=
  (respects_update _ _).bind fun _ => respects_finish merger o _ _ _

theorem respects_getBrokerDefinition (broker : Broker) :
    Respects SameLists (getBrokerDefinition rt merger o broker) :=
  (respects_update _ _).bind fun _ => respects_finish merger o _ _ _

theorem respects_nodeDeploy (node : Node) (deploy : Obj) : Respects SameLists (nodeDeploy node deploy) := by
  have resources : Respects SameLists (updateResources node deploy) := by
    unfold updateResources
    split
    · exact respects_update _ _
    · exact Respects.pure _
  apply resources.bind
  intro deploy
  split
  · exact respects_update _ _
  · exact Respects.pure _

theorem respects_getNodeDefinition (node : Node) : Respects SameLists (getNodeDefinition rt merger o node) := by
  have brokerHost : ∀ network envr, Respects SameLists (mergeBrokerHost node network envr) := by
    intro network envr
    unfold mergeBrokerHost
    split
    · exact respects_update _ _
    · exact Respects.pure _
  have targetSpeed : ∀ service, Respects SameLists (mergeTargetSpeed merger node service) := by
    intro service
    unfold mergeTargetSpeed
    split
    · split
      · exact respects_mergeInto _ _ _
      · exact Respects.pure _
    · exact Respects.pure _
  apply (respects_ofExcept _).bind
  intro brokerNetwork
  apply (brokerHost _ _).bind
  intro envr
  apply (respects_update _ _).bind
  intro service
  apply (targetSpeed _).bind
  intro service
  apply (respects_nodeDeploy _ _).bind
  intro deploy
  apply (respects_updateDeploy _ _).bind
  intro service
  exact respects_finish merger o _ _ _

theorem respects_serviceNetworks (srv : Service) : Respects SameLists (serviceNetworks rt o srv) :=
  Respects.foldlM (fun _ _ => (respects_update _ _).bind fun _ => Respects.pure _) _ _

theorem respects_updateEach {α : Type} {generate : α → Program (Dict String Obj)}
    (each : ∀ item, Respects SameLists (generate item)) (items : List α) (target : Obj) :
    Respects SameLists (updateEach generate items target) :=
  Respects.foldlM (fun _ item => (each item).bind fun _ => respects_update _ _) _ _

theorem respects_updateIf {generate : Program (Dict String Obj)} (generated : Respects SameLists generate)
    (enabled : Bool) (target : Obj) : Respects SameLists (updateIf enabled generate target) := by
  unfold updateIf
  split
  · exact generated.bind fun _ => respects_update _ _
  · exact Respects.pure _

theorem respects_getTopologyDefinition : Respects SameLists (getTopologyDefinition rt merger o) := by
  apply (respects_updateIf ((respects_networks rt o).bind fun _ =>
    (respects_update _ _).bind fun _ => Respects.pure _) _ _).bind
  intro services
  apply (respects_updateIf ((respects_networks rt o).bind fun _ =>
    (respects_update _ _).bind fun _ => Respects.pure _) _ _).bind
  intro services
  have emulated : Respects SameLists (emulatedServices rt merger o services) := by
    apply (respects_networks rt o).bind
    intro nets
    apply (respects_updateEach (respects_getNetworkGatewayDefinition merger rt o) _ _).bind
    intro services
    apply (respects_updateEach (respects_getGenericServiceDefinition rt o) _ _).bind
    intro services
    apply (respects_updateEach (respects_getNodeDefinition merger rt o) _ _).bind
    intro services
    apply (respects_brokers rt o).bind
    intro brks
    exact respects_updateEach (respects_getBrokerDefinition merger rt o) _ _
  have definitions : Respects SameLists (networkDefinitions rt o) := by
    apply (respects_networks rt o).bind
    intro nets
    apply (respects_updateEach (fun _ => (respects_update _ _).bind fun _ => Respects.pure _) _ _).bind
    intro definitions
    exact respects_updateEach (respects_serviceNetworks rt o) _ _
  exact emulated.bind fun _ => definitions.bind fun _ => Respects.pure _

end Returns

end Wotemu.InPlace
