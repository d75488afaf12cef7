import Wotemu.Cli.StopTarget
import Wotemu.Report.Completion

/-! The Compose file of an emulation, from the topology to the report.

A topology is written to a file as YAML. The command that stops the stack loads
the file and stores it as JSON, and the report writes what it finds as YAML
again. YAML writes the keys of a dictionary in order, JSON as they come. A part
that is shared in the file has an anchor and aliases there, which are lost in
JSON, so the two texts may differ where they are loaded alike.
-/

set_option autoImplicit false

namespace Wotemu

open Wotemu.Foundation Wotemu.Stop

/-- The library that writes and loads YAML: a text of a value without shared parts is loaded as the
value with its keys in order. -/
structure YamlLibrary where
  Text : Type
  dump : Value → Text
  load : Text → Outcome Yaml
  load_dump : ∀ content, load (dump content) = .ok (Yaml.reloaded content)

def Page.code (yaml : YamlLibrary) : Page → Option yaml.Text
  | .compose content => some (yaml.dump (.dict content))
  | _ => none

def ReadsComposes (builder : ReportBuilder) (store : SortedSets Value) : Prop :=
  builder.emulation.composes.members.map Value.dict = (SortedSets.zrange store composeKey).members

section Pages

variable {yaml : YamlLibrary} {docker : Docker} {redis : RedisCalls} {stack : String} {redisUrl : Option String}
  {store : SortedSets Value} {builder : ReportBuilder}

theorem dumps_reloaded (content : Value) : (Yaml.reloaded content).dumps = .ok content.sortKeys :=
  Yaml.dumps_ofJson _

theorem latest_compose {content : Yaml} {text : Value} (file : docker.readFile = .ok content)
    (kept : content.dumps = .ok text) (lands : Lands redis store 1 composeKey text)
    (returned : (stopStack docker redis stack redisUrl store).result = .ok ()) :
    latest (stopStack docker redis stack redisUrl store).store composeKey = some text := by
  unfold stopStack at returned ⊢
  cases prepared : prepare docker stack with
  | error why => simp [prepared] at returned
  | ok parts =>
    obtain ⟨found, target, snapshot⟩ := parts
    have same := readFile_of_prepare prepared
    rw [file] at same
    cases same
    simp only [prepared] at returned ⊢
    cases deployed : docker.deploy target with
    | failed updated => simp [deployed] at returned
    | returned =>
      simp only [deployed] at returned ⊢
      cases looked : findRedisUrl docker stack redisUrl with
      | error why => simp [looked] at returned
      | ok url =>
        simp only [kept]
        exact latest_zaddJson.mpr ((lands_congr (zrange_zaddJson_of_ne (by decide))).mpr lands)

theorem getComposeComponent_of_latest {entries : Dict String Value} (reads : ReadsComposes builder store)
    (last : latest store composeKey = some (.dict entries)) (nonempty : entries ≠ []) :
    builder.getComposeComponent = some entries := by
  rw [latest, ← reads, List.getLast?_map] at last
  obtain ⟨found, isLast, same⟩ := Option.map_eq_some_iff.mp last
  cases same
  exact ReportBuilder.getComposeComponent_eq_some.mpr ⟨isLast, nonempty⟩

theorem sortKeys_document (D : Definition) :
    ∃ entries, (document D).sortKeys = .dict entries ∧ entries ≠ [] := by
  refine ⟨_, rfl, fun empty => ?_⟩
  have version : (document D).sortKeys.field "version" = some (.str D.version) := by
    rw [Value.field_sortKeys]
    simp [document, Value.field, Dict.value?, Value.sortKeys]
  rw [document, Value.sortKeys, empty] at version
  cases version

/-- The report of a stopped stack shows a text that is loaded like the Compose file of its topology, when no task
is named like the page. -/
theorem compose_page_shown (D : Definition) {text : yaml.Text}
    (written : yaml.load text = .ok (Yaml.reloaded (document D))) (file : docker.readFile = yaml.load text)
    (lands : Lands redis store 1 composeKey (document D).sortKeys)
    (returned : (stopStack docker redis stack redisUrl store).result = .ok ())
    (reads : ReadsComposes builder (stopStack docker redis stack redisUrl store).store)
    (unnamed : "compose" ∉ builder.reader.tasks) {pages : Dict String Page}
    (built : builder.buildReport = .ok pages) : ∃ page shown,
      Dict.value? pages "compose.html" = some page ∧ page.code yaml = some shown ∧ yaml.load shown = yaml.load text := by
  have last := latest_compose (file.trans written) (dumps_reloaded (document D)) lands returned
  obtain ⟨entries, sorted, nonempty⟩ := sortKeys_document D
  rw [sorted] at last
  obtain ⟨taskPages, elements, paged, rfl, -⟩ := ReportBuilder.buildReport_ok built
  refine ⟨.compose entries, yaml.dump (.dict entries), ?_, rfl, ?_⟩
  · rw [ReportBuilder.value?_compose paged unnamed, getComposeComponent_of_latest reads last nonempty]
    rfl
  · rw [yaml.load_dump, written, ← sorted, Yaml.reloaded, Value.sortKeys_sortKeys]
    rfl

end Pages

def withComposes (builder : ReportBuilder) (composes : SortedSet (Dict String Value)) : ReportBuilder :=
  { builder with emulation := { builder.emulation with composes } }

theorem buildable_withComposes {builder : ReportBuilder} (buildable : builder.Buildable)
    (composes : SortedSet (Dict String Value)) : (withComposes builder composes).Buildable := by
  constructor
  case snapped => exact buildable.snapped
  case taskIds => exact buildable.taskIds
  case packets => exact buildable.packets
  case addressed => exact buildable.addressed
  case timeline => exact buildable.timeline
  case drawable =>
    intro task member
    have drawable := buildable.drawable task member
    exact ⟨drawable.addressed, drawable.ports, drawable.memory, drawable.cpu, drawable.things, drawable.latency,
      drawable.events⟩
  case texts =>
    intro task member
    have texts := buildable.texts task member
    exact ⟨texts.name, texts.link, texts.shown⟩

def stoppedClock (entries : Dict String Value) : ReportBuilder :=
  withComposes (ReportBuilder.clock true ReportBuilder.clockSnapshot) [(1, entries)]

def plainYaml : YamlLibrary where
  Text := Value
  dump := Value.sortKeys
  load := fun text => .ok (Yaml.ofJson text)
  load_dump := fun _ => rfl

def stoppedRemote (D : Definition) : Docker :=
  { plainStack with readFile := plainYaml.load (plainYaml.dump (document D)) }

theorem remote_compose_shown : ∃ D entries pages page shown, (remoteTopology []).toComposeDict Runtime.plain = .ok D ∧
    (stoppedClock entries).buildReport = .ok pages ∧ Dict.value? pages "compose.html" = some page ∧
      page.code plainYaml = some shown ∧ plainYaml.load shown = plainYaml.load (plainYaml.dump (document D)) := by
  obtain ⟨D, made⟩ : ∃ D, (remoteTopology []).toComposeDict Runtime.plain = .ok D := ⟨_, rfl⟩
  obtain ⟨loaded, -, targeted⟩ := targetContent_document (fun _ _ => rfl) remoteTopology_leaves made
  obtain ⟨entries, sorted, -⟩ := sortKeys_document D
  have plain := ReportBuilder.returns_buildReport.mp
    (⟨_, rfl⟩ : Returns (ReportBuilder.clock true ReportBuilder.clockSnapshot).buildReport)
  obtain ⟨pages, built⟩ := ReportBuilder.returns_buildReport.mpr (buildable_withComposes plain [(1, entries)])
  have unnamed : "compose" ∉ (ReportBuilder.clock true ReportBuilder.clockSnapshot).reader.tasks := by decide
  obtain ⟨snapshot, taken⟩ : ∃ snapshot, getStackSnapshot (stoppedRemote D) "demo" = .ok snapshot := ⟨_, rfl⟩
  have prepared : prepare (stoppedRemote D) "demo" = .ok (Yaml.reloaded (document D), _, snapshot) :=
    bind_ok_iff.mpr ⟨(), rfl, bind_ok_iff.mpr ⟨_, rfl, bind_ok_iff.mpr ⟨_, targeted, bind_ok_iff.mpr ⟨_, taken, rfl⟩⟩⟩⟩
  have ended : stopStack (stoppedRemote D) plainRedis "demo" (some "redis://127.0.0.1") [] =
      ⟨true, zaddJson plainRedis 1 composeKey (.ok (document D).sortKeys)
        (zaddJson plainRedis 0 snapshotKey (.ok snapshot) []), some snapshot, .ok ()⟩ := by
    rw [← dumps_reloaded]
    simp only [stopStack, prepared]
    rfl
  obtain ⟨page, shown, answered, code, same⟩ := @compose_page_shown plainYaml (stoppedRemote D) plainRedis "demo"
    (some "redis://127.0.0.1") [] (stoppedClock entries) D (plainYaml.dump (document D)) rfl rfl
    (fun entry member => by cases member) (by rw [ended]) (by rw [ended, sorted]; rfl) unnamed pages built
  exact ⟨D, entries, pages, page, shown, made, built, answered, code, same⟩

end Wotemu
