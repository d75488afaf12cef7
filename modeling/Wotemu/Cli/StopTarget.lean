import Wotemu.Cli.StopSnapshot
import Wotemu.Foundation.SortedKeys
import Wotemu.Foundation.Stages
import Wotemu.Topology.Labels

/-! What is left running when a stack is stopped.

The command reads the file that the topology was written to, and tells Redis
apart by its label. Every other service is scaled down to no task, with all of
its other settings kept.
-/

set_option autoImplicit false

namespace Wotemu.Stop

open Wotemu.Foundation

def yamlField (value : Yaml) (key : String) : Option Yaml :=
  match value with
  | .dict entries => Dict.value? entries (.str key)
  | _ => none

def noReplicas : Yaml := .dict [(.str "replicas", .int 0)]

section Entries

variable {entry : Value} {given : Option Labels}

theorem getYaml_reloaded {entries : Dict String Value} {key : String} {default : Yaml} :
    getYaml (Yaml.reloaded (.dict entries)) key default =
      .ok (((Dict.value? entries key).map Yaml.reloaded).getD default) := by
  rw [Yaml.reloaded, Value.sortKeys, Yaml.ofJson, getYaml, Yaml.value?_ofJsonEntries, Dict.value?_sorted,
    Value.value?_sortEntries, Option.map_map]
  rfl

structure Shaped (entry : Value) : Prop where
  service : ∃ fields, entry = .dict fields
  labels : ∀ labels, entry.field "labels" = some labels → ∃ fields, labels = .dict fields

theorem isRedis_reloaded (shaped : Shaped entry) (labelled : LabelledAs entry given) :
    isRedis (Yaml.reloaded entry) = .ok (given = some .redis) := by
  obtain ⟨fields, rfl⟩ := shaped.service
  have label := labelled .redis
  rw [labelOf] at label
  refine bind_ok_iff.mpr ⟨_, getYaml_reloaded, ?_⟩
  change (getYaml (((Value.field (.dict fields) "labels").map Yaml.reloaded).getD (.dict [])) Labels.redis.value .none >>= _) = _
  cases found : Value.field (.dict fields) "labels" with
  | none =>
    rw [found] at label
    by_cases same : given = some .redis
    · simp [same] at label
    · simp only [same, decide_false]
      rfl
  | some labels =>
    obtain ⟨entries, rfl⟩ := shaped.labels labels found
    rw [found, Option.bind_some, Value.field] at label
    rw [Option.map_some, Option.getD_some, getYaml_reloaded, label]
    by_cases same : given = some .redis <;> simp only [same, decide_true, decide_false] <;> rfl

/-- `service.update({"deploy": {"replicas": 0}})` -/
def scaledDown : Yaml → Yaml
  | .dict fields => .dict (Dict.assign fields (.str "deploy") noReplicas)
  | other => other

def stopped (service : Yaml) : Yaml :=
  match isRedis service with
  | .ok true => service
  | _ => scaledDown service

theorem withoutReplicas_reloaded (shaped : Shaped entry) (labelled : LabelledAs entry given) (key : YamlKey) :
    withoutReplicas (key, Yaml.reloaded entry) = .ok (key, stopped (Yaml.reloaded entry)) := by
  have label := isRedis_reloaded shaped labelled
  obtain ⟨fields, rfl⟩ := shaped.service
  rw [withoutReplicas, stopped, label]
  by_cases same : given = some .redis <;> simp [same] <;> rfl

theorem yamlField_scaledDown (fields : Dict String Value) {key : String} :
    yamlField (scaledDown (Yaml.reloaded (.dict fields))) key =
      if key = "deploy" then some noReplicas else yamlField (Yaml.reloaded (.dict fields)) key := by
  rw [Yaml.reloaded, Value.sortKeys, Yaml.ofJson, scaledDown, yamlField, yamlField]
  by_cases same : key = "deploy"
  · rw [same, Dict.value?_assign_self, if_pos rfl]
  · rw [Dict.value?_assign_of_ne (by simpa using same), if_neg same]

end Entries

section Shapes

variable {rt : Runtime} {t : Topology} {D : Definition} {name : String} {entry : Value}

theorem shaped_of_labelled {label : Labels} (labelled : LabelledAs entry (some label)) : Shaped entry := by
  have own := labelled label
  rw [if_pos rfl, labelOf] at own
  cases entry with
  | dict fields =>
    refine ⟨⟨fields, rfl⟩, fun labels found => ?_⟩
    rw [found] at own
    cases labels with
    | dict entries => exact ⟨entries, rfl⟩
    | none | bool | int | float | str | list => cases own
  | none | bool | int | float | str | list => cases own

theorem Component.shaped {c : Component} (deepmerge : rt.DeepMerge) (leaves : t.LeavesLabels) (reached : t.Reaches c)
    (made : c.toComposeDict rt t = .ok [(name, entry)]) : Shaped entry := by
  have labelled := Component.labelled deepmerge leaves reached made
  cases c with
  | dockerProxy =>
    cases made
    exact ⟨⟨_, rfl⟩, fun labels found => by cases found⟩
  | redis | gateway | service | node | broker => exact shaped_of_labelled labelled

def fileServices (D : Definition) : List (YamlKey × Yaml) := Yaml.ofJsonEntries (Dict.sorted (Value.sortEntries D.services))

theorem mem_fileServices {service : YamlKey × Yaml} (member : service ∈ fileServices D) :
    ∃ name entry, (name, entry) ∈ D.services ∧ service = (.str name, Yaml.reloaded entry) := by
  rw [fileServices, Yaml.ofJsonEntries_eq_map, Dict.sorted, Value.sortEntries_eq_map] at member
  obtain ⟨sortedEntry, inside, rfl⟩ := List.mem_map.mp member
  obtain ⟨⟨name, entry⟩, isEntry, rfl⟩ := List.mem_map.mp (List.mem_mergeSort.mp inside)
  exact ⟨name, entry, isEntry, rfl⟩

theorem value?_fileServices : Dict.value? (fileServices D) (.str name) = (Dict.value? D.services name).map Yaml.reloaded := by
  rw [fileServices, Yaml.value?_ofJsonEntries, Dict.value?_sorted, Value.value?_sortEntries, Option.map_map]
  rfl

/-- Every service of a definition has the shape and the label of its component. -/
theorem services_shaped (deepmerge : rt.DeepMerge) (leaves : t.LeavesLabels) (made : t.toComposeDict rt = .ok D)
    (found : Dict.value? D.services name = some entry) :
    ∃ c, t.owner rt name = some c ∧ Shaped entry ∧ LabelledAs entry c.kind.label := by
  obtain ⟨c, owned, written, -, generated⟩ := Topology.owner_of_value? made found
  have reached := t.reaches_of_written rt written
  exact ⟨c, owned, Component.shaped deepmerge leaves reached generated,
    Wotemu.Component.labelled deepmerge leaves reached generated⟩

theorem targetContent_document (deepmerge : rt.DeepMerge) (leaves : t.LeavesLabels) (made : t.toComposeDict rt = .ok D) :
    ∃ entries, Yaml.reloaded (document D) = .dict entries ∧
      targetContent (Yaml.reloaded (document D)) = .ok (.dict (Dict.assign entries (.str "services")
        (.dict ((fileServices D).map fun service => (service.1, stopped service.2))))) := by
  have nodup : (Dict.keys D.services).Nodup :=
    UpdateEach.nodup_keys (Topology.services_written made) List.nodup_nil
  have each : ∀ service ∈ fileServices D, withoutReplicas service = .ok (service.1, stopped service.2) := by
    intro service member
    obtain ⟨name, entry, inside, rfl⟩ := mem_fileServices member
    obtain ⟨c, -, shaped, labelled⟩ := services_shaped deepmerge leaves made (Dict.value?_of_mem nodup inside)
    exact withoutReplicas_reloaded shaped labelled _
  refine ⟨_, rfl, bind_ok_iff.mpr ⟨.dict (fileServices D), getYaml_reloaded, ?_⟩⟩
  exact bind_ok_iff.mpr ⟨_, mapM_eq_map each, rfl⟩

end Shapes

section Target

variable {rt : Runtime} {t : Topology} {D : Definition} {docker : Docker} {stack : String}

def serviceOf (target : Yaml) (name : String) : Option Yaml := (yamlField target "services").bind (yamlField · name)

/-- The service of Redis is as the file has it, every other service is scaled down and keeps its other settings,
and nothing else is changed. -/
structure OnlyRedisKept (rt : Runtime) (t : Topology) (D : Definition) (target : Yaml) : Prop where
  other : ∀ key, key ≠ "services" → yamlField target key = yamlField (Yaml.reloaded (document D)) key
  absent : ∀ name, t.owner rt name = none → serviceOf target name = none
  written : ∀ name c, t.owner rt name = some c → ∃ entry service,
    Dict.value? D.services name = some entry ∧ serviceOf target name = some service ∧
      ∀ key, yamlField service key =
        if key = "deploy" ∧ c.kind ≠ .redis then some noReplicas else yamlField (Yaml.reloaded entry) key

theorem yamlField_stopped {entry : Value} {c : Wotemu.Component} (shaped : Shaped entry)
    (labelled : LabelledAs entry c.kind.label) (key : String) : yamlField (stopped (Yaml.reloaded entry)) key =
      if key = "deploy" ∧ c.kind ≠ .redis then some noReplicas else yamlField (Yaml.reloaded entry) key := by
  have label := isRedis_reloaded shaped labelled
  obtain ⟨fields, rfl⟩ := shaped.service
  have isRedisKind : c.kind.label = some Labels.redis ↔ c.kind = .redis :=
    ⟨fun same => Kind.label_injective same rfl, fun same => by rw [same]; rfl⟩
  by_cases redis : c.kind = .redis
  · rw [decide_eq_true (isRedisKind.mpr redis)] at label
    simp only [stopped, label]
    simp [redis]
  · rw [decide_eq_false (fun same => redis (isRedisKind.mp same))] at label
    simp only [stopped, label]
    rw [yamlField_scaledDown]
    simp [redis]

/-- The file of a topology is never what makes the command fail, and the update that it prepares stops every service
but Redis. -/
theorem only_redis_kept (deepmerge : rt.DeepMerge) (leaves : t.LeavesLabels) (made : t.toComposeDict rt = .ok D)
    (file : docker.readFile = .ok (Yaml.reloaded (document D))) :
    (∃ target, targetContent (Yaml.reloaded (document D)) = .ok target) ∧
      ∀ content target snapshot, prepare docker stack = .ok (content, target, snapshot) → OnlyRedisKept rt t D target := by
  obtain ⟨entries, loaded, targeted⟩ := targetContent_document deepmerge leaves made
  refine ⟨⟨_, targeted⟩, fun content target snapshot prepared => ?_⟩
  obtain ⟨_, -, afterCheck⟩ := bind_ok prepared
  obtain ⟨content, read, afterRead⟩ := bind_ok afterCheck
  rw [file] at read
  cases read
  obtain ⟨found, targets, afterTarget⟩ := bind_ok afterRead
  obtain ⟨_, -, same⟩ := bind_ok afterTarget
  rw [targeted] at targets
  cases targets
  cases same
  -- the update keeps the entries of the file and stops each of the services
  have services (name : String) : serviceOf (.dict (Dict.assign entries (.str "services")
      (.dict ((fileServices D).map fun service => (service.1, stopped service.2))))) name =
      (Dict.value? D.services name).map fun entry => stopped (Yaml.reloaded entry) := by
    rw [serviceOf, yamlField, Dict.value?_assign_self, Option.bind_some, yamlField, Dict.value?_map,
      value?_fileServices, Option.map_map]
    rfl
  constructor
  case other =>
    intro key different
    rw [loaded, yamlField, yamlField, Dict.value?_assign_of_ne (by simpa using different)]
  case absent =>
    intro name unowned
    rw [services]
    cases found : Dict.value? D.services name with
    | none => rfl
    | some entry =>
      obtain ⟨c, owned, -⟩ := services_shaped deepmerge leaves made found
      rw [unowned] at owned
      cases owned
  case written =>
    intro name c owned
    obtain ⟨entry, -, found⟩ := Topology.value?_services_of_owner made owned
    obtain ⟨other, same, shaped, labelled⟩ := services_shaped deepmerge leaves made found
    rw [owned] at same
    cases same
    exact ⟨entry, stopped (Yaml.reloaded entry), found, by rw [services, found]; rfl, yamlField_stopped shaped labelled⟩

theorem remoteTopology_leaves : (remoteTopology []).LeavesLabels := by
  constructor <;> simp [remoteTopology, remoteNode, remoteBroker, Topology.networkObjects, Topology.brokerObjects,
    Topology.serviceObjects, LeavesLabels]

/-- The stack of a node and its broker. -/
theorem remote_only_redis_kept : ∃ D, (remoteTopology []).toComposeDict Runtime.plain = .ok D ∧
    (∃ target, targetContent (Yaml.reloaded (document D)) = .ok target) ∧
      ∀ content target snapshot, prepare { plainStack with readFile := .ok (Yaml.reloaded (document D)) } "demo" =
        .ok (content, target, snapshot) → OnlyRedisKept Runtime.plain (remoteTopology []) D target := by
  have made : (remoteTopology []).toComposeDict Runtime.plain = .ok _ := rfl
  exact ⟨_, made, only_redis_kept (fun _ _ => rfl) remoteTopology_leaves made rfl⟩

end Target

end Wotemu.Stop
