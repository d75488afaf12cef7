import Wotemu.Topology.Environment
import Wotemu.Topology.Sharing

/-! The programs and the generators of values agree.

From every memory, the program that generates a definition ends like the
generator does for the topology with its list as it is there: with the same
exception, or with an object that shows the same definition. Reading the brokers
again, after the list has grown, gives the same ones.
-/

set_option autoImplicit false

namespace Wotemu.InPlace

open Wotemu.Foundation

def TopologyObject.seen (o : TopologyObject) (memory : Memory) : Topology :=
  { o.topology with brokersArg := memory.lists o.list }

def Sees (rt : Runtime) (o : TopologyObject) (brks : List Broker) (memory : Memory) : Prop :=
  (o.seen memory).brokers rt = brks

def ShowsDict (obj : Obj) (values : Dict String Value) : Prop := obj.Shows (.dict values)

def ShowsDefinition (obj : Obj) (definition : Definition) : Prop := obj.Shows (document definition)

/-- What users give to be merged are dictionaries with distinct keys. -/
structure DistinctArgs (rt : Runtime) (t : Topology) : Prop where
  gateways : ∀ network ∈ t.networks rt, (Value.dict network.argsComposeGw).Distinct
  nodes : ∀ node ∈ t.nodes, (Value.dict node.argsCompose).Distinct
  brokers : ∀ broker ∈ t.brokers rt, (Value.dict broker.argsCompose).Distinct

section Steps

variable {rt : Runtime} {o : TopologyObject} {brks : List Broker}

theorem seen_grow (rt : Runtime) (o : TopologyObject) (memory : Memory) :
    (o.seen { memory with lists := grow o memory.lists }).brokers rt = (o.seen memory).brokers rt := by
  rw [← Topology.brokers_after_read rt (o.seen memory)]
  have grown : grow o memory.lists o.list = (o.seen memory).brokersArgAfterRead := by
    unfold grow Topology.brokersArgAfterRead
    change _ = if (memory.lists o.list).isEmpty then [] else memory.lists o.list ++ nodeBrokers o
    split
    · exact List.isEmpty_iff.mp ‹_›
    · exact Function.update_self ..
  change ({ o.topology with brokersArg := grow o memory.lists o.list } : Topology).brokers rt = _
  rw [grown]
  rfl

theorem mirrors_brokers (start : Memory) :
    Mirrors (Sees rt o ((o.seen start).brokers rt)) Eq (brokers rt o) (.ok ((o.seen start).brokers rt)) := by
  intro memory sees
  rw [brokers_run]
  exact ⟨sees, (seen_grow rt o memory).trans sees⟩

theorem mirrors_networks (start : Memory) :
    Mirrors (Sees rt o ((o.seen start).brokers rt)) Eq (networks rt o) (.ok ((o.seen start).networks rt)) := by
  apply (mirrors_brokers start).step
  intro found same
  subst same
  exact Mirrors.pure rfl

theorem mirrors_write (owners : List Owner) : Mirrors (Sees rt o brks) (fun _ _ => True) (write owners) (.ok ()) := by
  intro memory sees
  exact ⟨trivial, sees⟩

theorem mirrors_ofExcept {α : Type} (result : Except PyError α) :
    Mirrors (Sees rt o brks) Eq (ofExcept result) result := by
  cases result with
  | ok value => exact Mirrors.pure rfl
  | error why => exact Mirrors.throw why

variable {target : Obj} {entries : Dict String Obj} {values others : Dict String Value}

theorem mirrors_update (shown : ShowsDict target values) (updated : Obj.EntriesShow entries others) :
    Mirrors (Sees rt o brks) ShowsDict (update target entries) (.ok (Dict.update values others)) := by
  obtain ⟨owner, old, rfl, shownOld⟩ := shown.entries
  exact (mirrors_write [owner]).step fun _ _ => Mirrors.pure ((shownOld.update updated).shows owner)

theorem mirrors_update_other {value : Value} (shown : target.Shows value) (other : ∀ entries, value ≠ .dict entries) :
    Mirrors (Sees rt o brks) ShowsDict (update target entries) (.error .attributeError) := by
  cases target with
  | atom | list => exact Mirrors.throw _
  | dict owner entries =>
    obtain ⟨values, same, _⟩ := shown.eq_dict
    exact absurd same (other values)

/-- `dict.get(key, {})` -/
theorem shows_nested (shown : ShowsDict target values) (key : String) :
    ((target.get key).getD emptyDict).Shows ((Dict.value? values key).getD (.dict [])) := by
  obtain ⟨owner, entries, rfl, shownEntries⟩ := shown.entries
  have related := shownEntries.value? key
  change ((Dict.value? entries key).getD emptyDict).Shows _
  generalize Dict.value? entries key = found at related
  generalize Dict.value? values key = held at related
  cases related with
  | none => rfl
  | some shown => exact shown

theorem shows_withNested (shown : ShowsDict target values) (key : String) {nested : Obj} {value : Value}
    (shownNested : nested.Shows value) : ShowsDict (withNested target key nested) (Dict.assign values key value) := by
  obtain ⟨owner, entries, rfl, shownEntries⟩ := shown.entries
  exact (shownEntries.assign key shownNested).shows owner

theorem shows_baseCopy (base : Dict String Value) : ShowsDict (baseCopy base) base :=
  (Obj.shows_ofValue .base (.dict base)).deepcopy

theorem isEmptyDict_of_shows (shown : ShowsDict target values) : isEmptyDict target = values.isEmpty := by
  obtain ⟨owner, entries, rfl, shownEntries⟩ := shown.entries
  exact shownEntries.isEmpty

end Steps

/-! The shared parts of the generators. -/

section Parts

variable {rt : Runtime} {merger : Merger} (merges : merger.Merges rt.merge) {o : TopologyObject} {brks : List Broker}
  {service : Obj} {values : Dict String Value}

theorem mirrors_mergeTopologyConfig (start : Memory) (shown : ShowsDict service values) :
    Mirrors (Sees rt o brks) ShowsDict (mergeTopologyConfig o service)
      (Wotemu.mergeTopologyConfig (o.seen start) values) := by
  have entries := Obj.entriesShow_ofEntries .made
    (((o.seen start).config.filter (fun entry => entry.2 ≠ .none)).map fun entry => (entry.1, Value.str entry.2.pyStr))
  rw [Obj.ofEntries_eq, Dict.mapped, List.map_map] at entries
  have nested := shows_nested shown "environment"
  unfold Wotemu.mergeTopologyConfig
  cases held : (Dict.value? values "environment").getD (.dict []) with
  | dict envr =>
    rw [held] at nested
    apply (mirrors_update nested entries).step
    intro envr shownEnvr
    exact mirrors_update shown (.single "environment" shownEnvr)
  | none | bool | int | float | str | list =>
    rw [held] at nested
    exact (mirrors_update_other nested (fun _ => Value.noConfusion)).raised

include merges in
theorem mirrors_mergeInto {next : Obj} {others : Dict String Value} (shown : ShowsDict service values)
    (shownNext : ShowsDict next others) (distinct : (Value.dict others).Distinct) :
    Mirrors (Sees rt o brks) ShowsDict (mergeInto merger service next) (.ok (rt.merge values others)) :=
  (mirrors_write _).step fun _ _ => Mirrors.pure (merges shown shownNext distinct)

include merges in
theorem mirrors_mergeArgsCompose (shown : ShowsDict service values) {argsCompose : Dict String Value}
    (distinct : (Value.dict argsCompose).Distinct) :
    Mirrors (Sees rt o brks) ShowsDict (mergeArgsCompose merger service argsCompose)
      (.ok (Wotemu.mergeArgsCompose rt values argsCompose)) := by
  unfold mergeArgsCompose Wotemu.mergeArgsCompose
  split
  · exact Mirrors.pure shown
  · exact mirrors_mergeInto merges shown (Obj.shows_ofValue .supplied (.dict argsCompose)) distinct

include merges in
theorem mirrors_finish (start : Memory) (shown : ShowsDict service values) (name : String)
    {argsCompose : Dict String Value} (distinct : (Value.dict argsCompose).Distinct) :
    Mirrors (Sees rt o brks) Obj.EntriesShow (do
      let service ← mergeArgsCompose merger service argsCompose
      let service ← mergeTopologyConfig o service
      return [(name, service)]) (do
      let service ← Wotemu.mergeTopologyConfig (o.seen start) (Wotemu.mergeArgsCompose rt values argsCompose)
      return [(name, .dict service)]) := by
  apply (mirrors_mergeArgsCompose merges shown distinct).step
  intro service shown
  apply (mirrors_mergeTopologyConfig start shown).bind
  intro service values _ shown
  exact Mirrors.pure (.single name shown)

theorem mirrors_mergeParam (params : Dict String Value) (param key : String) (shown : ShowsDict service values)
    {held : Dict String Value} (found : Dict.value? values key = some (.dict held)) :
    Mirrors (Sees rt o brks) ShowsDict (mergeParam params param key service)
      (Wotemu.mergeParam params param key values) := by
  unfold mergeParam Wotemu.mergeParam
  dsimp only
  split
  · apply (mirrors_ofExcept _).bind
    rintro entries _ _ rfl
    have nested := shows_nested shown key
    rw [found] at nested
    apply (mirrors_update nested (Obj.entriesShow_ofEntries .supplied entries)).step
    intro nested shownNested
    have held_eq : Dict.entriesAt values key = held := by rw [Dict.entriesAt, found]
    rw [held_eq]
    exact Mirrors.pure (shows_withNested shown key shownNested)
  · exact Mirrors.pure shown

theorem mirrors_updateDeploy {deploy : Obj} {deployed : Dict String Value} (shownDeploy : ShowsDict deploy deployed)
    (shown : ShowsDict service values) : Mirrors (Sees rt o brks) ShowsDict (updateDeploy deploy service)
      (.ok (if deployed.isEmpty then values else Dict.update values [("deploy", .dict deployed)])) := by
  unfold updateDeploy
  rw [isEmptyDict_of_shows shownDeploy]
  split
  · exact Mirrors.pure shown
  · exact mirrors_update shown (.single "deploy" shownDeploy)

end Parts

/-! The generators, one by one. -/

section Generators

variable {rt : Runtime} {merger : Merger} (merges : merger.Merges rt.merge) {o : TopologyObject} (start : Memory)

theorem mirrors_getDockerProxyDefinition :
    Mirrors (Sees rt o ((o.seen start).brokers rt)) Obj.EntriesShow (getDockerProxyDefinition rt o)
      (.ok (Wotemu.getDockerProxyDefinition rt (o.seen start))) := by
  apply (mirrors_networks start).step
  rintro nets rfl
  apply (mirrors_update (shows_baseCopy serviceBaseDockerProxy) (.single "networks" (Obj.shows_ofValue .made _))).step
  intro service shown
  exact Mirrors.pure (.single _ shown)

theorem mirrors_getRedisDefinition :
    Mirrors (Sees rt o ((o.seen start).brokers rt)) Obj.EntriesShow (getRedisDefinition rt o)
      (.ok (Wotemu.getRedisDefinition rt (o.seen start))) := by
  apply (mirrors_networks start).step
  rintro nets rfl
  apply (mirrors_update (shows_baseCopy serviceBaseRedis)
    (.cons (Obj.shows_ofValue .made _) (.single "ports" (Obj.shows_ofValue .made _)))).step
  intro service shown
  exact Mirrors.pure (.single _ shown)

variable {brks : List Broker}

theorem mirrors_deployParam (params : Dict String Value) {key field : String} {wrap : Obj → Obj}
    {wrapped : Value → Value} (wraps : ∀ obj value, obj.Shows value → (wrap obj).Shows (wrapped value)) {deploy : Obj}
    {deployed : Dict String Value} (shown : ShowsDict deploy deployed) (absent : key ∉ Dict.keys deployed) :
    Mirrors (Sees rt o brks) (fun obj added => ShowsDict obj (deployed ++ added))
      (deployParam params key field wrap deploy) (Wotemu.deployParam params key field wrapped) := by
  unfold deployParam Wotemu.deployParam
  dsimp only
  split
  · apply (mirrors_ofExcept _).bind
    rintro found _ _ rfl
    apply (mirrors_update shown (.single key (wraps _ _ (Obj.shows_ofValue .supplied found)))).returns
    intro obj updated
    rw [Dict.update_cons, Dict.update_nil, Dict.assign_of_not_mem absent] at updated
    exact updated
  · exact Mirrors.pure (by rw [List.append_nil]; exact shown)

theorem keys_deployParam {params added : Dict String Value} {key field : String} {wrap : Value → Value}
    (made : Wotemu.deployParam params key field wrap = .ok added) : ∀ name ∈ Dict.keys added, name = key := by
  unfold Wotemu.deployParam at made
  dsimp only at made
  split at made
  · obtain ⟨found, _, made⟩ := bind_ok made
    cases made
    simp [Dict.keys]
  · cases made
    simp [Dict.keys]

theorem mirrors_getGenericServiceDefinition (srv : Service) :
    Mirrors (Sees rt o brks) Obj.EntriesShow (getGenericServiceDefinition rt o srv)
      (Wotemu.getGenericServiceDefinition rt (o.seen start) srv) := by
  apply (mirrors_mergeParam srv.params "env" "environment" (shows_baseCopy serviceBaseGeneric) rfl).bind
  intro service values withEnv shown
  have labels : Dict.value? values "labels" = some (labelled .service) := mergeParam_frame withEnv (by decide)
  apply (mirrors_mergeParam srv.params "labels" "labels" shown labels).bind
  intro service values _ shown
  have empty : ShowsDict emptyDict [] := rfl
  apply (mirrors_deployParam srv.params
    (fun _ _ shownValue => (Obj.EntriesShow.single "condition" shownValue).shows .made) empty (by simp [Dict.keys])).bind
  intro deploy restartPolicy given shownDeploy
  have absent : "mode" ∉ Dict.keys ([] ++ restartPolicy) :=
    fun member => absurd (keys_deployParam given _ member) (by decide)
  apply (mirrors_deployParam srv.params (fun _ _ shownValue => shownValue) shownDeploy absent).bind
  intro deploy mode _ shownDeploy
  apply (mirrors_updateDeploy shownDeploy shown).step
  intro service shown
  apply (mirrors_update shown (.cons (Obj.shows_ofValue .made (.str srv.image))
    (.single "networks" (Obj.shows_ofValue .made _)))).step
  intro service shown
  exact Mirrors.pure (.single srv.name shown)

include merges in
theorem mirrors_getNetworkGatewayDefinition {network : Network}
    (distinct : (Value.dict network.argsComposeGw).Distinct) : Mirrors (Sees rt o brks) Obj.EntriesShow (getNetworkGatewayDefinition rt merger o network)
      (Wotemu.getNetworkGatewayDefinition rt (o.seen start) network) := by
  have command : (Obj.list .made (.atom (.str "gateway") :: Obj.ofItems .supplied network.netem)).Shows
      (.list network.cmdGateway) := by
    apply congrArg (Obj.list .made)
    exact congrArg (Obj.atom (.str "gateway") :: ·) (Obj.shows_ofItems .supplied network.netem)
  apply (mirrors_update (shows_baseCopy serviceBaseGateway)
    (.cons (Obj.shows_ofValue .made _) (.cons command
      (.cons (Obj.shows_ofValue .made _) (.single "depends_on" (Obj.shows_ofValue .made _)))))).step
  intro service shown
  exact mirrors_finish merges start shown _ distinct

theorem mirrors_getNetworkDefinition (network : Network) : Mirrors (Sees rt o brks) Obj.EntriesShow
    (getNetworkDefinition network) (.ok (Wotemu.getNetworkDefinition network)) := by
  apply (mirrors_update (shows_baseCopy networkBase) (.single "name" (Obj.shows_ofValue .made (.str _)))).step
  intro definition shown
  exact Mirrors.pure (.single _ shown)

include merges in
theorem mirrors_getBrokerDefinition {broker : Broker} (distinct : (Value.dict broker.argsCompose).Distinct) :
    Mirrors (Sees rt o brks) Obj.EntriesShow (getBrokerDefinition rt merger o broker)
      (Wotemu.getBrokerDefinition rt (o.seen start) broker) := by
  apply (mirrors_update (shows_baseCopy serviceBaseBroker)
    (.cons (Obj.shows_ofValue .made _) (.cons (Obj.shows_ofValue .made _)
      (.cons (Obj.shows_ofValue .made _) (.single "depends_on" (Obj.shows_ofValue .made _)))))).step
  intro service shown
  exact mirrors_finish merges start shown _ distinct

theorem mirrors_mergeBrokerHost (node : Node) (brokerNetwork : Option Network) {envr : Obj}
    (shown : ShowsDict envr environmentBase) : Mirrors (Sees rt o brks) ShowsDict
      (mergeBrokerHost node brokerNetwork envr) (.ok (nodeEnvironment node brokerNetwork)) := by
  unfold mergeBrokerHost nodeEnvironment
  cases node.broker with
  | none => exact Mirrors.pure shown
  | some broker =>
    cases brokerNetwork with
    | none => exact Mirrors.pure shown
    | some network => exact mirrors_update shown (.single _ (Obj.shows_ofValue .made (.str _)))

include merges in
theorem mirrors_mergeTargetSpeed {node : Node} (member : node ∈ o.topology.nodes) {service : Obj}
    {values : Dict String Value} (shown : ShowsDict service values) : Mirrors (Sees rt o brks) ShowsDict
      (mergeTargetSpeed merger node service) (.ok (Wotemu.mergeTargetSpeed rt node values)) := by
  unfold mergeTargetSpeed Wotemu.mergeTargetSpeed
  cases given : node.resources with
  | none => exact Mirrors.pure shown
  | some resources =>
    dsimp only
    split
    · have target := (Obj.EntriesShow.single "TARGET_CPU_SPEED"
        (Obj.shows_ofValue .supplied resources.targetCpuSpeed)).shows .made
      apply mirrors_mergeInto merges shown ((Obj.EntriesShow.single "environment" target).shows .made)
      -- the speed itself is no dictionary
      have plain := o.plain_speed node member resources given
      exact .dict (by simp [Dict.keys]) (by simpa using .dict (by simp [Dict.keys]) (by simpa using .plain plain))
    · exact Mirrors.pure shown

theorem mirrors_nodeDeploy (node : Node) {deploy : Obj} (shown : ShowsDict deploy []) :
    Mirrors (Sees rt o brks) ShowsDict (nodeDeploy node deploy) (.ok (Wotemu.nodeDeploy node)) := by
  have replicas : ∀ deploy deployed, ShowsDict deploy deployed → Mirrors (Sees rt o brks) ShowsDict
      (if node.scale.truthy then update deploy [("replicas", Obj.ofValue .supplied node.scale)] else pure deploy)
      (.ok (if node.scale.truthy then Dict.update deployed [("replicas", node.scale)] else deployed)) := by
    intro deploy deployed shown
    split
    · exact mirrors_update shown (.single _ (Obj.shows_ofValue .supplied node.scale))
    · exact Mirrors.pure shown
  unfold nodeDeploy Wotemu.nodeDeploy updateResources
  cases node.resources.bind getNodeResourcesDefinition with
  | none => exact (Mirrors.pure shown).step fun deploy shown => replicas deploy [] shown
  | some resources =>
    apply (mirrors_update shown (.single "resources" (Obj.shows_ofValue .made (.dict resources)))).step
    exact fun deploy shown => replicas deploy [("resources", .dict resources)] shown

include merges in
theorem mirrors_getNodeDefinition {node : Node} (member : node ∈ o.topology.nodes)
    (distinct : (Value.dict node.argsCompose).Distinct) :
    Mirrors (Sees rt o brks) Obj.EntriesShow (getNodeDefinition rt merger o node)
      (Wotemu.getNodeDefinition rt (o.seen start) node) := by
  have base := shows_baseCopy serviceBaseNode
  apply (mirrors_ofExcept _).bind
  rintro brokerNetwork _ _ rfl
  apply (mirrors_mergeBrokerHost node brokerNetwork (shows_nested base "environment")).step
  intro envr shownEnvr
  apply (mirrors_update (shows_withNested base "environment" shownEnvr)
    (.cons (Obj.shows_ofValue .made (.str _)) (.cons (Obj.shows_ofValue .made _) (.cons (Obj.shows_ofValue .made _)
      (.cons (Obj.shows_ofValue .made _) (.single "environment" shownEnvr)))))).step
  intro service shown
  apply (mirrors_mergeTargetSpeed merges member shown).step
  intro service shown
  have undeployed : ShowsDict ((service.get "deploy").getD emptyDict) [] := by
    have nested := shows_nested shown "deploy"
    rw [mergeTargetSpeed_frame node (by decide)] at nested
    exact nested
  apply (mirrors_nodeDeploy node undeployed).step
  intro deploy shownDeploy
  apply (mirrors_updateDeploy shownDeploy shown).step
  intro service shown
  exact mirrors_finish merges start shown _ distinct

theorem mirrors_serviceNetworks (srv : Service) : Mirrors (Sees rt o brks) Obj.EntriesShow (serviceNetworks rt o srv)
    (.ok (Wotemu.serviceNetworks rt (o.seen start) srv)) := by
  apply Mirrors.foldl
  · intro node _ nets found shown
    apply (mirrors_update (shows_baseCopy networkServiceBase) (.single "name" (Obj.shows_ofValue .made (.str _)))).step
    intro definition shownDefinition
    exact Mirrors.pure (shown.update (.single _ shownDefinition))
  · exact .nil

/-! The whole definition. -/

theorem mirrors_updateEach {α : Type} {generate : α → Program (Dict String Obj)}
    {other : α → Except PyError (Dict String Value)} {items : List α}
    (each : ∀ item ∈ items, Mirrors (Sees rt o brks) Obj.EntriesShow (generate item) (other item))
    {target : Obj} {values : Dict String Value} (shown : ShowsDict target values) :
    Mirrors (Sees rt o brks) ShowsDict (updateEach generate items target)
      (Foundation.updateEach other items values) := by
  apply Mirrors.foldlM
  · intro item member acc found shown
    exact (each item member).bind fun entries made _ shownEntries => mirrors_update shown shownEntries
  · exact shown

theorem mirrors_updateIf {enabled : Bool} {generate : Program (Dict String Obj)} {entries : Dict String Value}
    (generated : Mirrors (Sees rt o brks) Obj.EntriesShow generate (.ok entries)) {target : Obj}
    {values : Dict String Value} (shown : ShowsDict target values) :
    Mirrors (Sees rt o brks) ShowsDict (updateIf enabled generate target)
      (.ok (if enabled then Dict.update values entries else values)) := by
  unfold updateIf
  split
  · exact generated.step fun made shownMade => mirrors_update shown shownMade
  · exact Mirrors.pure shown

include merges in
theorem mirrors_emulatedServices (distinct : DistinctArgs rt (o.seen start)) {services : Obj}
    {values : Dict String Value} (shown : ShowsDict services values) :
    Mirrors (Sees rt o ((o.seen start).brokers rt)) ShowsDict (emulatedServices rt merger o services) (do
      let services ← Foundation.updateEach (Wotemu.getNetworkGatewayDefinition rt (o.seen start))
        ((o.seen start).networks rt) values
      let services ← Foundation.updateEach (Wotemu.getGenericServiceDefinition rt (o.seen start))
        ((o.seen start).services rt) services
      let services ← Foundation.updateEach (Wotemu.getNodeDefinition rt (o.seen start)) (o.seen start).nodes services
      Foundation.updateEach (Wotemu.getBrokerDefinition rt (o.seen start)) ((o.seen start).brokers rt) services) := by
  apply (mirrors_networks start).step
  rintro nets rfl
  apply (mirrors_updateEach (fun network member =>
    mirrors_getNetworkGatewayDefinition merges start (distinct.gateways network member)) shown).bind
  intro services values _ shown
  apply (mirrors_updateEach (fun srv _ => mirrors_getGenericServiceDefinition start srv) shown).bind
  intro services values _ shown
  apply (mirrors_updateEach (fun node member =>
    mirrors_getNodeDefinition merges start member (distinct.nodes node member)) shown).bind
  intro services values _ shown
  apply (mirrors_brokers start).step
  rintro brks rfl
  exact mirrors_updateEach (fun broker member =>
    mirrors_getBrokerDefinition merges start (distinct.brokers broker member)) shown

theorem mirrors_networkDefinitions :
    Mirrors (Sees rt o ((o.seen start).brokers rt)) ShowsDict (networkDefinitions rt o) (do
      let networks ← Foundation.updateEach (fun net => .ok (Wotemu.getNetworkDefinition net))
        ((o.seen start).networks rt) []
      Foundation.updateEach (fun srv => .ok (Wotemu.serviceNetworks rt (o.seen start) srv))
        ((o.seen start).services rt) networks) := by
  apply (mirrors_networks start).step
  rintro nets rfl
  apply (mirrors_updateEach (fun network _ => mirrors_getNetworkDefinition network)
    (show ShowsDict emptyDict [] from rfl)).bind
  intro definitions values _ shown
  exact mirrors_updateEach (fun srv _ => mirrors_serviceNetworks start srv) shown

theorem showsDefinition {services networks : Obj} {entries others : Dict String Value}
    (shownServices : ShowsDict services entries) (shownNetworks : ShowsDict networks others) :
    ShowsDefinition (.dict .made [("version", .atom (.str "3.7")), ("services", services), ("networks", networks)])
      { version := "3.7", services := entries, networks := others } :=
  (Obj.EntriesShow.cons (Obj.shows_ofValue .made (.str "3.7"))
    (.cons shownServices (.single "networks" shownNetworks))).shows .made

include merges in
/-- The program ends like the generator of values, from every memory in which the brokers are the same. -/
theorem mirrors_getTopologyDefinition (distinct : DistinctArgs rt (o.seen start)) :
    Mirrors (Sees rt o ((o.seen start).brokers rt)) ShowsDefinition
      (getTopologyDefinition rt merger o) ((o.seen start).toComposeDict rt) := by
  apply (mirrors_updateIf (mirrors_getDockerProxyDefinition start) (show ShowsDict emptyDict [] from rfl)).step
  intro services shown
  apply (mirrors_updateIf (mirrors_getRedisDefinition start) shown).step
  intro services shown
  have whole := (mirrors_emulatedServices merges start distinct shown).bind
    (fun services entries _ shownServices => (mirrors_networkDefinitions start).bind
      (fun definitions others _ shownNetworks => Mirrors.pure (showsDefinition shownServices shownNetworks)))
  simp only [bind_assoc] at whole
  exact whole

end Generators

/-! Definitions after any calls on topologies that share no list. -/

def Agree (ended : Except PyError Returned) (result : Except PyError Definition) : Prop :=
  match ended, result with
  | .ok (.definition obj), .ok definition => ShowsDefinition obj definition
  | .error why, .error other => why = other
  | _, _ => False

section Calls

variable {ι : Type} {rt : Runtime} {merger : Merger} {topologies : ι → TopologyObject} {brks : List Broker}

theorem grow_of_ne {o other : TopologyObject} (apart : other.list ≠ o.list) (lists : Nat → List Broker) :
    grow other lists o.list = lists o.list := by
  unfold grow
  split
  · rfl
  · exact Function.update_of_ne apart.symm _ _

theorem sees_of_lists {o : TopologyObject} {memory left : Memory} (sees : Sees rt o brks memory)
    (same : left.lists o.list = memory.lists o.list) : Sees rt o brks left := by
  unfold Sees TopologyObject.seen at sees ⊢
  rw [same]
  exact sees

theorem sees_of_effect {which i : ι} (apart : (topologies which).list = (topologies i).list → which = i) {reads : Nat}
    {memory left : Memory} (effect : Effect (topologies which) reads memory left)
    (sees : Sees rt (topologies i) brks memory) : Sees rt (topologies i) brks left := by
  obtain ⟨n, _, grown⟩ := effect.lists
  suffices ∀ n lists, Sees rt (topologies i) brks ⟨lists, []⟩ →
      Sees rt (topologies i) brks ⟨(grow (topologies which))^[n] lists, []⟩ from
    sees_of_lists (this n memory.lists sees) (by rw [grown])
  intro n
  induction n with
  | zero => exact fun lists sees => sees
  | succ n ih =>
    intro lists sees
    rw [Function.iterate_succ_apply]
    apply ih
    by_cases same : (topologies which).list = (topologies i).list
    · rw [apart same]
      exact (seen_grow rt (topologies i) ⟨lists, []⟩).trans sees
    · exact sees_of_lists sees (grow_of_ne same lists)

theorem sees_afterCalls (deep : merger.IntoBase) {i : ι}
    (apart : ∀ which, (topologies which).list = (topologies i).list → which = i) (calls : List (Call ι))
    {memory : Memory} (sees : Sees rt (topologies i) brks memory) :
    Sees rt (topologies i) brks (afterCalls rt merger topologies calls memory) := by
  induction calls generalizing memory with
  | nil => exact sees
  | cons call rest ih => exact ih (sees_of_effect (apart call.topology) (effect_perform deep call memory) sees)

theorem agree_of_mirrors {o : TopologyObject} {I : Memory → Prop} {result : Except PyError Definition}
    (mirrors : Mirrors I ShowsDefinition (getTopologyDefinition rt merger o) result) {memory : Memory}
    (holds : I memory) : Agree (outcome (Operation.toComposeDict.perform rt merger o) memory) result := by
  have ends := mirrors memory holds
  unfold outcome Operation.perform
  dsimp only
  cases run : getTopologyDefinition rt merger o memory with
  | ok obj left =>
    rw [run] at ends
    rw [bind_returned run]
    cases result with
    | ok definition => exact ends.1
    | error why => exact ends.elim
  | error why left =>
    rw [run] at ends
    rw [bind_raised run]
    cases result with
    | ok definition => exact ends.elim
    | error other => exact ends.1

theorem always_merges_of_deepMerge (deepmerge : rt.DeepMerge) : Merger.always.Merges rt.merge := by
  have same : rt.merge = Value.mergeEntries := by
    funext base next
    exact deepmerge base next
  rw [same]
  exact Merger.always_merges

theorem definitions_repeat (rt : Runtime) (deepmerge : rt.DeepMerge) (topologies : ι → TopologyObject)
    (lists : Nat → List Broker) (i : ι) (apart : ∀ which, (topologies which).list = (topologies i).list → which = i)
    (distinct : DistinctArgs rt ((topologies i).seen (.start lists))) (earlier : List (Call ι)) :
    Agree (outcome (Call.perform rt .always topologies ⟨i, .toComposeDict⟩)
        (afterCalls rt .always topologies earlier (.start lists)))
      (((topologies i).seen (.start lists)).toComposeDict rt) :=
  agree_of_mirrors (mirrors_getTopologyDefinition (always_merges_of_deepMerge deepmerge) (.start lists) distinct)
    (sees_afterCalls Merger.always_intoBase apart earlier rfl)

end Calls

def unshared (first : Bool) : TopologyObject :=
  { sharing (some ⟨"own", [{ name := "net" }], []⟩) first with list := first.toNat }

theorem unshared_repeats : Agree
    (outcome (Call.perform .plain .always unshared ⟨true, .toComposeDict⟩)
      (afterCalls .plain .always unshared [⟨true, .brokers⟩, ⟨false, .toComposeDict⟩] (.start fun _ => [listedBroker])))
    (((unshared true).seen (.start fun _ => [listedBroker])).toComposeDict .plain) := by
  have empty : (Value.dict []).Distinct := .dict List.nodup_nil (by simp)
  have nets : ((unshared true).seen (.start fun _ => [listedBroker])).networks .plain = [{ name := "net" }] := rfl
  have brks : ((unshared true).seen (.start fun _ => [listedBroker])).brokers .plain =
      [listedBroker, ⟨"own", [{ name := "net" }], []⟩] := rfl
  refine definitions_repeat .plain (fun _ _ => rfl) unshared _ true (by decide) ⟨?_, ?_, ?_⟩ _
  · rw [nets]
    simpa using empty
  · change ∀ node ∈ [_], _
    simpa using empty
  · rw [brks]
    simpa [listedBroker] using empty

end Wotemu.InPlace
