import Wotemu.Report.Sections

/-! When the report of an emulation is complete.

A complete report has one page for each task, the index, and a page for the
Compose file if there is one; what was not recorded is left out of its pages.
Some of the builder's stages fail on what is missing instead, and the report is
complete exactly when none of them does.
-/

set_option autoImplicit false

namespace Wotemu

open Wotemu.Foundation

namespace ReportBuilder

variable (builder : ReportBuilder)

def expectedNames : List String :=
  (if builder.emulation.composes.isEmpty then [] else ["compose.html"]) ++
    "index.html" :: builder.reader.tasks.map pageName

structure Complete (pages : Dict String Page) : Prop where
  names : (Dict.keys pages).Perm builder.expectedNames
  tasks : ∀ task ∈ builder.reader.tasks, ∃ elements, Dict.value? pages (pageName task) = some (.task elements) ∧
    ∀ element ∈ elements, element.Backed builder task
  index : ∃ elements, Dict.value? pages "index.html" = some (.index elements) ∧
    ∀ element ∈ elements, ∀ task, element.Backed builder task
  compose : ∀ content, builder.emulation.composes.members.getLast? = some content →
    Dict.value? pages "compose.html" = some (.compose content)

/-- The texts that the page of a task and its item in the list show. -/
structure TextsFit (task : String) : Prop where
  name : builder.renderer.compatible task = true
  link : builder.renderer.compatible (pageName task) = true
  shown : ∀ entry ∈ builder.emulation.shown task, ∀ text ∈ entry.2.texts entry.1,
    builder.renderer.compatible text = true

/-- What the store must hold, beyond what any emulation leaves, for all pages to be built. -/
structure Buildable : Prop where
  snapped : builder.Snapped
  taskIds : builder.TaskIds
  packets : ∃ task ∈ builder.reader.tasks, builder.reader.HasPackets task
  addressed : Addressed builder.reader
  drawable : ∀ task ∈ builder.reader.tasks, builder.Drawable task
  timeline : builder.TimelineFits
  texts : ∀ task ∈ builder.reader.tasks, builder.TextsFit task

/-- No page takes the place of another, and the Compose file has content if there is one. -/
structure Reportable : Prop extends builder.Buildable where
  index : "index" ∉ builder.reader.tasks
  compose : ∀ content, builder.emulation.composes.members.getLast? = some content →
    content ≠ [] ∧ "compose" ∉ builder.reader.tasks

section Pages

variable {builder}

theorem mem_sorted_tasks {task : String} :
    task ∈ builder.reader.tasks.insertionSort (· ≤ ·) ↔ task ∈ builder.reader.tasks := List.mem_insertionSort _

theorem returns_buildReport : Returns builder.buildReport ↔ builder.Buildable := by
  refine (Returns.bind_iff_and fun _ _ => Returns.bind_iff_and fun _ snapped => Returns.bind_iff_and fun _ _ =>
    Returns.bind_iff_and fun _ _ => Returns.bind_iff_and fun _ _ => Returns.bind_iff_and fun _ _ =>
    Returns.bind_pure_iff.trans (returns_taskListElement snapped _)).trans ?_
  rw [Returns.updateEach_iff, returns_getServiceTrafficComponent, returns_getNetworkTrafficComponent,
    returns_getTimelineComponent, returns_getSnapshotDf]
  simp only [mem_sorted_tasks]
  constructor
  · rintro ⟨pages, _, traffic, _, _, timeline, names⟩
    have each := fun task member => (returns_buildTaskPage member).mp (pages task member)
    have snapped := timeline.2.1
    have present : builder.emulation.snapshots ≠ [] := fun none => builder.not_snapped none snapped
    have drawable := fun task member => (each task member).1.1
    refine ⟨snapped, timeline.1 present, traffic.2, traffic.1, drawable, timeline.2.2, ?_⟩
    intro task member
    exact ⟨(names task member).2.2, (names task member).2.1, (each task member).2.2⟩
  · intro buildable
    have ids : builder.emulation.snapshots ≠ [] → builder.TaskIds := fun _ => buildable.taskIds
    refine ⟨?_, ids, ⟨buildable.addressed, buildable.packets⟩, ⟨buildable.addressed, buildable.packets⟩, ?_,
      ⟨ids, buildable.snapped, buildable.timeline⟩, ?_⟩
    · intro task member
      have texts := buildable.texts task member
      have row := (builder.returns_snapshotOf task).mpr ⟨ids, buildable.snapped⟩
      exact (returns_buildTaskPage member).mpr ⟨⟨buildable.drawable task member, row⟩, fun _ => texts.name, texts.shown⟩
    · exact returns_getSystemRankingComponent (fun task member => (buildable.drawable task member).cpu)
        (fun task member samples => ((buildable.drawable task member).memory samples).1)
    · intro task member
      exact ⟨buildable.snapped, (buildable.texts task member).link, (buildable.texts task member).name⟩

theorem pageName_injective {task other : String} (same : pageName task = pageName other) : task = other :=
  String.append_left_inj _ |>.mp same

theorem mem_pageNames {task : String} :
    pageName task ∈ builder.reader.tasks.map pageName ↔ task ∈ builder.reader.tasks :=
  List.mem_map_of_injective fun _ _ same => pageName_injective same

theorem buildTaskPage_single (task : String) (entries : Dict String Page)
    (made : builder.buildTaskPage task = .ok entries) :
    ∃ page, entries = [(pageName task, page)] := by
  obtain ⟨elements, same, _⟩ := buildTaskPage_ok made
  exact ⟨_, same⟩

def composePages (builder : ReportBuilder) : Dict String Page :=
  match builder.getComposeComponent with
  | some content => [("compose.html", .compose content)]
  | none => []

theorem buildReport_ok {pages : Dict String Page} (made : builder.buildReport = .ok pages) : ∃ taskPages elements,
    updateEach builder.buildTaskPage (builder.reader.tasks.insertionSort (· ≤ ·)) [] = .ok taskPages ∧
    pages = Dict.update (Dict.update builder.composePages [("index.html", .index elements)]) taskPages ∧
    ∀ element ∈ elements, ∀ task, element.Backed builder task := by
  obtain ⟨taskPages, paged, made⟩ := bind_ok made
  obtain ⟨dfSnapshot, snapped, made⟩ := bind_ok made
  obtain ⟨serviceTraffic, service, made⟩ := bind_ok made
  obtain ⟨networkTraffic, network, made⟩ := bind_ok made
  obtain ⟨systemRanking, ranking, made⟩ := bind_ok made
  obtain ⟨timeline, timed, made⟩ := bind_ok made
  obtain ⟨taskList, listed, made⟩ := bind_ok made
  cases made
  refine ⟨taskPages, _, paged, rfl, ?_⟩
  have listBacked : ∀ task, taskList.Backed builder task := by
    obtain ⟨items, _, listed⟩ := bind_ok listed
    cases listed
    exact fun _ => trivial
  -- the link to the Compose page shows nothing of a task
  have linkBacked : ∀ element ∈ (if builder.getComposeComponent.isSome then [Element.composeLink] else []), ∀ task,
      element.Backed builder task := by
    intro element member task
    split at member
    · rename_i entry
      cases List.mem_singleton.mp member
      intro none
      unfold getComposeComponent SortedSet.members at entry
      rw [none] at entry
      cases entry
    · cases member
  simp only [List.cons_append, List.forall_mem_cons, List.forall_mem_append]
  exact ⟨fun _ => trivial, ⟨⟨⟨⟨linkBacked, backed_getServiceTrafficComponent service⟩,
    backed_getNetworkTrafficComponent network⟩, backed_getSystemRankingComponent ranking⟩,
    backed_getTimelineComponent timed⟩, listBacked, by simp⟩

section Files

variable {taskPages : Dict String Page}
  (paged : updateEach builder.buildTaskPage (builder.reader.tasks.insertionSort (· ≤ ·)) [] = .ok taskPages)

include paged

theorem mem_keys_taskPages {name : String} :
    name ∈ Dict.keys taskPages ↔ name ∈ builder.reader.tasks.map pageName := by
  rw [UpdateEach.mem_keys_iff buildTaskPage_single paged, List.mem_map, List.mem_map]
  simp only [mem_sorted_tasks]

theorem nodup_keys_taskPages : (Dict.keys taskPages).Nodup := UpdateEach.nodup_keys paged List.nodup_nil

theorem value?_taskPages {task : String} (member : task ∈ builder.reader.tasks) : ∃ elements,
    Dict.value? taskPages (pageName task) = some (.task elements) ∧
      ∀ element ∈ elements, element.Backed builder task := by
  have last := UpdateEach.last_of_injOn (mem_sorted_tasks.mpr member) (fun _ _ same => pageName_injective same)
  obtain ⟨page, generated, found⟩ := UpdateEach.value?_of_last buildTaskPage_single paged last
  obtain ⟨elements, same, backed⟩ := buildTaskPage_ok generated
  cases same
  exact ⟨elements, found, backed⟩

end Files

theorem mem_keys_composePages {name : String} : name ∈ Dict.keys builder.composePages ↔
    name = "compose.html" ∧ ∃ content, builder.getComposeComponent = some content := by
  unfold composePages
  cases builder.getComposeComponent with
  | none => simp [Dict.keys]
  | some content => simp [Dict.keys]

theorem nodup_keys_composePages : (Dict.keys builder.composePages).Nodup := by
  unfold composePages
  cases builder.getComposeComponent with
  | none => simp [Dict.keys]
  | some content => simp [Dict.keys]

theorem nodup_expectedNames : builder.expectedNames.Nodup ↔ "index" ∉ builder.reader.tasks ∧
    (builder.emulation.composes ≠ [] → "compose" ∉ builder.reader.tasks) := by
  have tasks : (builder.reader.tasks.map pageName).Nodup := by
    apply List.Nodup.map (fun _ _ same => pageName_injective same)
    simpa [ReportDataRedisReader.tasks, getTasks] using nodup_map_distinctBy id _
  have index : "index.html" ∈ builder.reader.tasks.map pageName ↔ "index" ∈ builder.reader.tasks :=
    @mem_pageNames builder "index"
  have compose : "compose.html" ∈ builder.reader.tasks.map pageName ↔ "compose" ∈ builder.reader.tasks :=
    @mem_pageNames builder "compose"
  unfold expectedNames
  cases builder.emulation.composes with
  | nil => simp [index, tasks]
  | cons => simp [index, compose, tasks, and_comm]

theorem composes_ne_nil_iff : builder.emulation.composes ≠ [] ↔
    ∃ content, builder.emulation.composes.members.getLast? = some content := by
  unfold SortedSet.members
  rw [← Option.isSome_iff_exists]
  simp

theorem getComposeComponent_eq_some {content : Dict String Value} : builder.getComposeComponent = some content ↔
    builder.emulation.composes.members.getLast? = some content ∧ content ≠ [] := by
  unfold getComposeComponent
  rw [Option.filter_eq_some_iff]
  simp

theorem names_perm {taskPages : Dict String Page} {elements : List Element}
    (paged : updateEach builder.buildTaskPage (builder.reader.tasks.insertionSort (· ≤ ·)) [] = .ok taskPages)
    (reportable : builder.Reportable) :
    (Dict.keys (Dict.update (Dict.update builder.composePages [("index.html", .index elements)]) taskPages)).Perm
      builder.expectedNames := by
  have distinct : builder.expectedNames.Nodup := by
    rw [nodup_expectedNames]
    refine ⟨reportable.index, fun some_compose => ?_⟩
    obtain ⟨content, last⟩ := composes_ne_nil_iff.mp some_compose
    exact (reportable.compose content last).2
  have filed : (∃ content, builder.getComposeComponent = some content) ↔ builder.emulation.composes ≠ [] := by
    rw [composes_ne_nil_iff]
    apply exists_congr
    intro content
    rw [getComposeComponent_eq_some]
    exact ⟨fun found => found.1, fun last => ⟨last, (reportable.compose content last).1⟩⟩
  rw [List.perm_ext_iff_of_nodup (Dict.nodup_keys_update (Dict.nodup_keys_update nodup_keys_composePages)) distinct]
  intro name
  rw [Dict.mem_keys_update, Dict.mem_keys_update, mem_keys_composePages, mem_keys_taskPages paged, filed]
  unfold expectedNames
  cases builder.emulation.composes with
  | nil => simp [Dict.keys]
  | cons => simp [Dict.keys, or_assoc]

/-- The page of the Compose file stays unless a task has its name. -/
theorem value?_compose {taskPages : Dict String Page} {elements : List Element}
    (paged : updateEach builder.buildTaskPage (builder.reader.tasks.insertionSort (· ≤ ·)) [] = .ok taskPages)
    (unnamed : "compose" ∉ builder.reader.tasks) :
    Dict.value? (Dict.update (Dict.update builder.composePages [("index.html", .index elements)]) taskPages)
      "compose.html" = builder.getComposeComponent.map .compose := by
  have absent : "compose.html" ∉ Dict.keys taskPages := by
    rw [mem_keys_taskPages paged]
    exact fun member => unnamed (mem_pageNames.mp member)
  have other : "compose.html" ∉ Dict.keys [("index.html", Page.index elements)] := by simp [Dict.keys]
  rw [Dict.value?_update_of_not_mem absent, Dict.value?_update_of_not_mem other]
  unfold composePages
  cases builder.getComposeComponent with
  | none => rfl
  | some content => rfl

/-- The report of an emulation is complete exactly when its store is reportable. -/
theorem report_complete_iff (builder : ReportBuilder) :
    (∃ pages, builder.buildReport = .ok pages ∧ builder.Complete pages) ↔ builder.Reportable := by
  constructor
  · rintro ⟨pages, made, complete⟩
    have buildable := returns_buildReport.mp ⟨pages, made⟩
    obtain ⟨taskPages, elements, paged, rfl, _⟩ := buildReport_ok made
    -- the names of the pages are the keys of a dictionary
    have distinct : builder.expectedNames.Nodup := by
      apply complete.names.nodup_iff.mp
      exact Dict.nodup_keys_update (Dict.nodup_keys_update nodup_keys_composePages)
    obtain ⟨index, unnamed⟩ := nodup_expectedNames.mp distinct
    refine ⟨buildable, index, fun content last => ?_⟩
    have absent := unnamed (composes_ne_nil_iff.mpr ⟨content, last⟩)
    have filed := complete.compose content last
    rw [value?_compose paged absent] at filed
    obtain ⟨given, found, same⟩ := Option.map_eq_some_iff.mp filed
    cases same
    exact ⟨(getComposeComponent_eq_some.mp found).2, absent⟩
  · intro reportable
    obtain ⟨pages, made⟩ := returns_buildReport.mpr reportable.toBuildable
    obtain ⟨taskPages, elements, paged, rfl, backed⟩ := buildReport_ok made
    refine ⟨_, made, names_perm paged reportable, ?_, ⟨elements, ?_, backed⟩, ?_⟩
    · intro task member
      obtain ⟨elements, found, backed⟩ := value?_taskPages paged member
      have entry := Dict.mem_of_value? found
      exact ⟨elements, Dict.value?_update_of_mem (nodup_keys_taskPages paged) entry, backed⟩
    · have absent : "index.html" ∉ Dict.keys taskPages := by
        rw [mem_keys_taskPages paged]
        exact fun member => reportable.index (mem_pageNames.mp member)
      rw [Dict.value?_update_of_not_mem absent]
      exact Dict.value?_update_of_mem (by simp [Dict.keys]) (List.mem_singleton.mpr rfl)
    · intro content last
      obtain ⟨given, unnamed⟩ := reportable.compose content last
      rw [value?_compose paged unnamed, getComposeComponent_eq_some.mpr ⟨last, given⟩]
      rfl

end Pages

end ReportBuilder

namespace Emulation

/-! The stores that the writes of tasks leave. -/

section LeftBy

variable {redis : Redis} {writes : List Write} (named : ∀ write ∈ writes, write.WellNamed)

include named in
theorem latestInfo_ne_none_of_task {reader : ReportDataRedisReader}
    (built : reader.store = runWrites reader.redis writes)
    {task : String} (known : task ∈ reader.tasks) : reader.latestInfo task ≠ none := by
  unfold ReportDataRedisReader.tasks at known
  rw [built, mem_getTasks named] at known
  obtain ⟨info, written⟩ := known
  have name : TaskName task := (named _ written).task
  have found : .info info ∈ getInfo reader.store task := by
    rw [built, mem_getInfo named name]
    exact ⟨info, rfl, written⟩
  rw [← reader.map_infos_runWrites named built name] at found
  unfold ReportDataRedisReader.latestInfo
  rw [Ne, List.getLast?_eq_none_iff, ← List.map_eq_nil_iff]
  exact List.ne_nil_of_mem found

theorem written_of_mem_thingDf {reader : ReportDataRedisReader} (built : reader.store = runWrites reader.redis writes)
    {task : String} {data : ThingData} (member : data ∈ reader.thingDf task) : Write.thing data ∈ writes := by
  obtain ⟨row, inside, same⟩ := List.mem_filterMap.mp member
  obtain ⟨doc, listed, rfl⟩ := List.mem_map.mp inside
  have document : doc = .thing data := by
    cases doc with
    | thing other =>
      cases same
      rfl
    | info _ | system _ | packet _ => cases same
  rw [built, document, (runWrites_holds reader.redis writes).mem_iff] at listed
  obtain ⟨write, written, _, inside⟩ := listed
  cases write with
  | info task info => cases List.mem_singleton.mp inside
  | system task items => simp [Write.documents] at inside
  | packets task iface items => simp [Write.documents] at inside
  | thing other =>
    cases List.mem_singleton.mp inside
    exact written

/-- What tasks leave that write their interactions with all the fields of their verbs. -/
def leftBy (reader : ReportDataRedisReader) (built : reader.store = runWrites reader.redis writes)
    (recorded : ∀ data, Write.thing data ∈ writes → data.Recorded) (snapshots : SortedSet Snapshot)
    (composes : SortedSet (Dict String Value)) : Emulation where
  reader
  snapshots
  composes
  informed := fun _ known => latestInfo_ne_none_of_task named built known
  recorded := fun _ _ member => recorded _ (written_of_mem_thingDf built member)

end LeftBy

end Emulation

namespace ReportBuilder

def clockInfo : NodeInfo where
  time := 5
  net := [("eth0", [⟨2, "10.0.1.6"⟩])]
  env := [("SERVICE_NAME", "clock")]
  serviceVips := some [("net", "10.0.1.5")]
  networksCidr := some [("net", ["10.0.1.0/24"])]
  containerId := some "c1"
  taskId := some "t1"
  constraints := some []

def clockWrites (captured : Bool) : List Write :=
  .info "clock.1" clockInfo :: if captured then
    [.packets "clock.1" "eth0" [⟨6, 90, "10.0.1.6", "10.0.1.7", "http", "tcp", some 80, some 80⟩]] else []

theorem clockWrites_wellNamed (captured : Bool) : ∀ write ∈ clockWrites captured, write.WellNamed := by
  have name : TaskName "clock.1" := by simp [TaskName]
  have info : (Write.info "clock.1" clockInfo).WellNamed := ⟨name, fun _ _ _ same => (by cases same)⟩
  have packets : ∀ items, (Write.packets "clock.1" "eth0" items).WellNamed :=
    fun items => ⟨name, fun _ _ _ same => (by cases same; decide)⟩
  cases captured with
  | false => simpa [clockWrites] using info
  | true => simpa [clockWrites] using ⟨info, packets _⟩

def clock (captured : Bool) (snapshots : SortedSet Snapshot) : ReportBuilder where
  emulation := Emulation.leftBy (clockWrites_wellNamed captured)
    { redis := Redis.plain, pandas := Pandas.plain, covers := fun _ _ => true,
      store := runWrites Redis.plain (clockWrites captured) }
    rfl (by cases captured <;> simp [clockWrites]) snapshots []
  renderer := { draws := fun _ _ _ => true, spans := fun _ => true, compatible := fun _ => true }

def clockTime : DockerTime := ⟨"2020-11-17T10:20:30.123Z", ⟨_, rfl⟩⟩

def clockSnapshot : SortedSet Snapshot :=
  [(9, [("t1", { task := ⟨"running", some "n1", some "s1", clockTime, clockTime, none⟩, logs := some "started" })])]

/-- Without a snapshot or without packets there is no report. -/
theorem clock_not_complete :
    (¬ ∃ pages, (clock true []).buildReport = .ok pages ∧ (clock true []).Complete pages) ∧
    ¬ ∃ pages, (clock false clockSnapshot).buildReport = .ok pages ∧ (clock false clockSnapshot).Complete pages := by
  constructor
  · rintro ⟨pages, made, _⟩
    have raises : (clock true []).buildReport = .error .typeError := rfl
    cases raises.symm.trans made
  · rintro ⟨pages, made, _⟩
    have raises : (clock false clockSnapshot).buildReport = .error .attributeError := rfl
    cases raises.symm.trans made

example : ∃ pages, (clock true clockSnapshot).buildReport = .ok pages ∧
    Dict.keys pages = ["index.html", "clock.1.html"] := ⟨_, rfl, rfl⟩

end ReportBuilder

end Wotemu
