import Wotemu.Report.Shown

/-! The sections of the report: when they can be built, and what they show.

The sections of a page depend on the records of its task and on the snapshot,
those of the index on the records of all tasks. What is shown was recorded.
-/

set_option autoImplicit false

namespace Wotemu

open Wotemu.Foundation

def FigureKind.Backed (builder : ReportBuilder) (task : String) : FigureKind → Prop
  | .taskMem | .taskCpu => builder.reader.systemDf task ≠ []
  | .packetIface | .packetProtocol => builder.reader.HasPackets task
  | .thingCounts | .consumedLatency | .exposedLatency | .consumedEvents | .exposedEvents =>
    builder.reader.thingDf task ≠ []
  | .trafficInbound | .trafficOutbound | .networkTraffic =>
    ∃ task ∈ builder.reader.tasks, builder.reader.HasPackets task
  | .cpuRanking | .memRanking => builder.HasSamples
  | .timeline => builder.Snapped

def Element.Backed (builder : ReportBuilder) (task : String) : Element → Prop
  | .figuresRow figures => ∀ figure ∈ figures, figure.kind.Backed builder task
  | .figureBlock _ figure => figure.kind.Backed builder task
  | .notRunning | .error | .details _ | .logs _ _ => builder.emulation.shown task ≠ none
  | .composeLink => builder.emulation.composes ≠ []
  | .title _ | .header | .taskList _ => True

namespace ReportBuilder

variable (builder : ReportBuilder)

/-- The figures of a task can be drawn from its records. Columns must be there when the frame is,
and facets must fit. -/
structure Drawable (task : String) : Prop where
  addressed : builder.reader.HasPackets task → Addressed builder.reader
  ports : builder.reader.packets task ≠ [] → builder.HasPorts task
  memory : builder.reader.systemDf task ≠ [] →
    (∃ sample ∈ builder.reader.systemDf task, sample.memMb.isSome = true) ∧
    ∃ sample ∈ builder.reader.systemDf task, sample.memPercent.isSome = true
  cpu : builder.reader.systemDf task ≠ [] → ∃ sample ∈ builder.reader.systemDf task, sample.cpuPercent.isSome = true
  things : builder.reader.thingDf task ≠ [] →
    builder.renderer.draws (thingFacets (builder.reader.thingDf task)).length 2 none = true
  latency : ∀ clsName ∈ [consumedThing, exposedThing], builder.LatencyFits task clsName
  events : ∀ clsName ∈ [consumedThing, exposedThing], builder.EventsFit task clsName

section Sections

variable {builder} {task : String} {component : TaskSectionComponent}

theorem returns_section : Returns (builder.getTaskSectionComponent task) ↔
    builder.Drawable task ∧ Returns (builder.snapshotOf task) := by
  -- the nine figures and the row of the snapshot, none of which depends on another
  refine (Returns.bind_iff_and fun _ _ => Returns.bind_iff_and fun _ _ => Returns.bind_iff_and fun _ _ =>
    Returns.bind_iff_and fun _ _ => Returns.bind_iff_and fun _ _ => Returns.bind_iff_and fun _ _ =>
    Returns.bind_iff_and fun _ _ => Returns.bind_iff_and fun _ _ => Returns.bind_iff_and fun _ _ =>
    Returns.bind_pure_iff).trans ?_
  rw [(builder.yields_taskMem task).returns, (builder.yields_taskCpu task).returns,
    (builder.yields_thingCounts task).returns]
  unfold buildTaskPacketIfaceFigure buildTaskPacketProtocolFigure buildConsumedRequestLatencyFigure
    buildExposedRequestLatencyFigure buildConsumedEventsFigure buildExposedEventsFigure
  simp only [(builder.yields_taskPacket task _).returns, (builder.yields_reqLatency task _ _).returns,
    (builder.yields_events task _ _).returns]
  constructor
  · rintro ⟨memory, cpu, packets, _, things, consumed, exposed, consumedEvents, exposedEvents, snapshot⟩
    refine ⟨⟨packets.1, packets.2, memory, cpu, things, ?_, ?_⟩, snapshot⟩
    · simpa using ⟨consumed, exposed⟩
    · simpa using ⟨consumedEvents, exposedEvents⟩
  · rintro ⟨drawable, snapshot⟩
    have packets := And.intro drawable.addressed drawable.ports
    exact ⟨drawable.memory, drawable.cpu, packets, packets, drawable.things,
      drawable.latency _ (by simp), drawable.latency _ (by simp),
      drawable.events _ (by simp), drawable.events _ (by simp), snapshot⟩

structure SectionOf (builder : ReportBuilder) (task : String) (component : TaskSectionComponent) : Prop where
  row : ∀ figure ∈ [component.figMem, component.figCpu, component.figPacketIface,
    component.figPacketProto].filterMap id, figure.kind.Backed builder task
  blocks : ∀ figure ∈ [component.figThingCounts, component.figConsReqLat, component.figExpsReqLat,
    component.figConsEvents, component.figExpsEvents].filterMap id, figure.kind.Backed builder task
  texts : component.snapshot.map SnapshotRow.texts =
    (builder.emulation.shown task).map fun entry => entry.2.texts entry.1
  info : component.info = builder.reader.latestInfo task
  title : component.title = task

theorem backed_of_drawn {kind : FigureKind} {recorded : Prop} {figure : Figure} (drawn : Drawn kind recorded figure)
    (backed : recorded → kind.Backed builder task) : figure.kind.Backed builder task := by
  rw [drawn.1]
  exact backed drawn.2

theorem sectionOf_ok (made : builder.getTaskSectionComponent task = .ok component) :
    SectionOf builder task component := by
  obtain ⟨figMem, memory, made⟩ := bind_ok made
  obtain ⟨figCpu, cpu, made⟩ := bind_ok made
  obtain ⟨figIface, iface, made⟩ := bind_ok made
  obtain ⟨figProto, protocol, made⟩ := bind_ok made
  obtain ⟨figThings, things, made⟩ := bind_ok made
  obtain ⟨figCons, consumed, made⟩ := bind_ok made
  obtain ⟨figExps, exposed, made⟩ := bind_ok made
  obtain ⟨figConsEvents, consumedEvents, made⟩ := bind_ok made
  obtain ⟨figExpsEvents, exposedEvents, made⟩ := bind_ok made
  obtain ⟨snapshot, snapped, made⟩ := bind_ok made
  cases made
  constructor
  case texts => exact builder.snapshotOf_ok snapped
  case info => rfl
  case title => rfl
  case row =>
    intro figure member
    obtain ⟨found, inside, given⟩ := List.mem_filterMap.mp member
    simp only [List.mem_cons, List.not_mem_nil, or_false] at inside
    -- memory, processor, and the packets by interface and by protocol
    rcases inside with rfl | rfl | rfl | rfl
    · exact backed_of_drawn ((builder.yields_taskMem task).yielded _ (memory.trans (congrArg _ given))) id
    · exact backed_of_drawn ((builder.yields_taskCpu task).yielded _ (cpu.trans (congrArg _ given))) id
    · exact backed_of_drawn ((builder.yields_taskPacket task _).yielded _ (iface.trans (congrArg _ given))) id
    · exact backed_of_drawn ((builder.yields_taskPacket task _).yielded _ (protocol.trans (congrArg _ given))) id
  case blocks =>
    intro figure member
    obtain ⟨found, inside, given⟩ := List.mem_filterMap.mp member
    simp only [List.mem_cons, List.not_mem_nil, or_false] at inside
    -- things, then requests and events on either side
    rcases inside with rfl | rfl | rfl | rfl | rfl
    · exact backed_of_drawn ((builder.yields_thingCounts task).yielded _ (things.trans (congrArg _ given))) id
    · exact backed_of_drawn ((builder.yields_reqLatency task _ _).yielded _ (consumed.trans (congrArg _ given))) id
    · exact backed_of_drawn ((builder.yields_reqLatency task _ _).yielded _ (exposed.trans (congrArg _ given))) id
    · exact backed_of_drawn ((builder.yields_events task _ _).yielded _ (consumedEvents.trans (congrArg _ given))) id
    · exact backed_of_drawn ((builder.yields_events task _ _).yielded _ (exposedEvents.trans (congrArg _ given))) id

theorem returns_setText {renderer : Renderer} {text : String} :
    Returns (renderer.setText text) ↔ renderer.compatible text = true := by
  unfold Renderer.setText
  split
  · rename_i holds
    exact iff_of_true (Returns.ok _) holds
  · rename_i fails
    exact iff_of_false (Returns.error _) fails

section Elements

variable {renderer : Renderer}

theorem returns_getTitleElement : Returns (component.getTitleElement renderer) ↔
    (component.title ≠ "" → renderer.compatible component.title = true) := by
  unfold TaskSectionComponent.getTitleElement
  rw [Returns.ite_iff (Returns.ok _), Returns.bind_pure_iff, returns_setText]

theorem returns_getInfoElement (informed : component.info.isSome = true) :
    Returns (component.getInfoElement renderer) ↔
      ∀ row ∈ component.snapshot, ∀ text ∈ row.entries.map Prod.snd, renderer.compatible text = true := by
  unfold TaskSectionComponent.getInfoElement
  cases component.snapshot with
  | none => simp
  | some row =>
    dsimp only
    rw [Returns.bind_iff_and (fun _ _ => Returns.bind_pure_iff.trans Returns.require_iff), Returns.mapM_iff]
    simp only [Returns.bind_pure_iff, returns_setText, informed, and_true, Option.mem_def, Option.some.injEq,
      forall_eq', List.forall_mem_map]

theorem returns_getLogsElement : Returns (component.getLogsElement renderer) ↔
    ∀ row ∈ component.snapshot, ∀ text ∈ row.logsText, renderer.compatible text = true := by
  unfold TaskSectionComponent.getLogsElement
  cases component.snapshot with
  | none => simp
  | some row =>
    dsimp only
    cases logs : row.logsText with
    | none => simp [logs]
    | some text =>
      dsimp only
      rw [Returns.bind_pure_iff, returns_setText]
      simp [logs]

end Elements

theorem returns_toElement (spec : SectionOf builder task component) (member : task ∈ builder.reader.tasks) :
    Returns (component.toElement builder.renderer) ↔ (task ≠ "" → builder.renderer.compatible task = true) ∧
      ∀ entry ∈ builder.emulation.shown task, ∀ text ∈ entry.2.texts entry.1,
        builder.renderer.compatible text = true := by
  have informed : component.info.isSome = true := by
    rw [spec.info]
    exact Option.isSome_iff_ne_none.mpr (builder.emulation.informed task member)
  refine (Returns.bind_iff_and fun _ _ => Returns.bind_iff_and fun _ _ => Returns.bind_pure_iff).trans ?_
  rw [returns_getTitleElement, returns_getInfoElement informed, returns_getLogsElement, spec.title]
  apply and_congr_right'
  have texts := spec.texts
  cases shown : component.snapshot with
  | none =>
    rw [shown] at texts
    have nothing := Option.map_eq_none_iff.mp texts.symm
    simp [nothing]
  | some row =>
    rw [shown] at texts
    obtain ⟨entry, found, same⟩ := Option.map_eq_some_iff.mp texts.symm
    rw [found]
    simp only [Option.mem_def, Option.some.injEq, forall_eq', same]
    unfold SnapshotRow.texts
    simp only [List.forall_mem_append, Option.mem_toList]

theorem backed_toElement (spec : SectionOf builder task component) {elements : List Element}
    (made : component.toElement builder.renderer = .ok elements) :
    ∀ element ∈ elements, element.Backed builder task := by
  obtain ⟨title, titled, made⟩ := bind_ok made
  obtain ⟨info, informed, made⟩ := bind_ok made
  obtain ⟨logs, logged, made⟩ := bind_ok made
  cases made
  have shown : component.snapshot ≠ none → builder.emulation.shown task ≠ none := by
    intro some none
    have texts := spec.texts
    rw [none] at texts
    exact some (Option.map_eq_none_iff.mp texts)
  simp only [List.forall_mem_append, List.forall_mem_singleton]
  refine ⟨⟨⟨⟨⟨⟨?_, ?_⟩, ?_⟩, ?_⟩, spec.row⟩, ?_⟩, ?_⟩
  · unfold TaskSectionComponent.getTitleElement at titled
    split at titled
    · cases titled
      simp
    · obtain ⟨text, _, titled⟩ := bind_ok titled
      cases titled
      simp [Element.Backed]
  · unfold TaskSectionComponent.getRunningElement
    cases snapped : component.snapshot with
    | none => simp
    | some row =>
      have given := shown (by simp [snapped])
      dsimp only
      split <;> simp [Element.Backed, given]
  · unfold TaskSectionComponent.getErrorElement
    cases snapped : component.snapshot with
    | none => simp
    | some row =>
      have given := shown (by simp [snapped])
      dsimp only
      split <;> simp [Element.Backed, given]
  · unfold TaskSectionComponent.getInfoElement at informed
    cases snapped : component.snapshot with
    | none =>
      rw [snapped] at informed
      cases informed
      simp
    | some row =>
      rw [snapped] at informed
      obtain ⟨entries, _, informed⟩ := bind_ok informed
      obtain ⟨_, _, informed⟩ := bind_ok informed
      cases informed
      simpa [Element.Backed] using shown (by simp [snapped])
  · intro element member
    obtain ⟨figure, inside, rfl⟩ := List.mem_map.mp member
    exact spec.blocks figure inside
  · unfold TaskSectionComponent.getLogsElement at logged
    cases snapped : component.snapshot with
    | none =>
      rw [snapped] at logged
      cases logged
      simp
    | some row =>
      rw [snapped] at logged
      dsimp only at logged
      split at logged
      · cases logged
        simp
      · obtain ⟨text, _, logged⟩ := bind_ok logged
        cases logged
        simpa [Element.Backed] using shown (by simp [snapped])

theorem returns_buildTaskPage (member : task ∈ builder.reader.tasks) : Returns (builder.buildTaskPage task) ↔
    (builder.Drawable task ∧ Returns (builder.snapshotOf task)) ∧
      (task ≠ "" → builder.renderer.compatible task = true) ∧
      ∀ entry ∈ builder.emulation.shown task, ∀ text ∈ entry.2.texts entry.1,
        builder.renderer.compatible text = true := by
  rw [← returns_section]
  apply Returns.bind_iff_and
  intro component made
  exact Returns.bind_pure_iff.trans (returns_toElement (sectionOf_ok made) member)

theorem buildTaskPage_ok {entries : Dict String Page} (made : builder.buildTaskPage task = .ok entries) :
    ∃ elements, entries = [(pageName task, .task elements)] ∧ ∀ element ∈ elements, element.Backed builder task := by
  obtain ⟨component, built, made⟩ := bind_ok made
  obtain ⟨elements, rendered, made⟩ := bind_ok made
  cases made
  exact ⟨elements, rfl, backed_toElement (sectionOf_ok built) rendered⟩

end Sections

/-! The sections of the index. -/

section Index

variable {builder}

theorem backed_blocks {figures : List (String × Option Figure)}
    (each : ∀ title figure, (title, some figure) ∈ figures → ∀ task, figure.kind.Backed builder task) :
    ∀ element ∈ blocks figures, ∀ task, element.Backed builder task := by
  intro element member task
  obtain ⟨⟨title, found⟩, inside, same⟩ := List.mem_filterMap.mp member
  obtain ⟨figure, rfl, rfl⟩ := Option.map_eq_some_iff.mp same
  exact each title figure inside task

theorem returns_getServiceTrafficComponent : Returns builder.getServiceTrafficComponent ↔
    Addressed builder.reader ∧ ∃ task ∈ builder.reader.tasks, builder.reader.HasPackets task := by
  refine (Returns.bind_iff_and fun _ _ => Returns.bind_pure_iff).trans ?_
  rw [(builder.yields_serviceTraffic true).returns, (builder.yields_serviceTraffic false).returns, and_self_iff]

theorem backed_getServiceTrafficComponent {elements : List Element}
    (made : builder.getServiceTrafficComponent = .ok elements) :
    ∀ element ∈ elements, ∀ task, element.Backed builder task := by
  obtain ⟨figInbound, inbound, made⟩ := bind_ok made
  obtain ⟨figOutbound, outbound, made⟩ := bind_ok made
  cases made
  apply backed_blocks
  intro title figure member task
  simp at member
  cases member with
  | inl given =>
    have drawn := inbound.trans (congrArg _ given.2.symm)
    exact backed_of_drawn ((builder.yields_serviceTraffic true).yielded _ drawn) id
  | inr given =>
    have drawn := outbound.trans (congrArg _ given.2.symm)
    exact backed_of_drawn ((builder.yields_serviceTraffic false).yielded _ drawn) id

theorem returns_getNetworkTrafficComponent : Returns builder.getNetworkTrafficComponent ↔
    Addressed builder.reader ∧ ∃ task ∈ builder.reader.tasks, builder.reader.HasPackets task :=
  Returns.bind_pure_iff.trans builder.yields_networkTraffic.returns

theorem backed_getNetworkTrafficComponent {elements : List Element}
    (made : builder.getNetworkTrafficComponent = .ok elements) :
    ∀ element ∈ elements, ∀ task, element.Backed builder task := by
  obtain ⟨fig, drawn, made⟩ := bind_ok made
  cases made
  apply backed_blocks
  intro title figure member task
  simp at member
  exact backed_of_drawn (builder.yields_networkTraffic.yielded _ (drawn.trans (congrArg _ member.2.symm))) id

theorem returns_getSystemRankingComponent
    (cpu : ∀ task ∈ builder.reader.tasks, builder.reader.systemDf task ≠ [] →
      ∃ sample ∈ builder.reader.systemDf task, sample.cpuPercent.isSome = true)
    (memory : ∀ task ∈ builder.reader.tasks, builder.reader.systemDf task ≠ [] →
      ∃ sample ∈ builder.reader.systemDf task, sample.memMb.isSome = true) :
    Returns builder.getSystemRankingComponent := by
  refine (Returns.bind_iff_and fun _ _ => Returns.bind_pure_iff).mpr ⟨?_, ?_⟩
  · rw [builder.yields_cpuRanking.returns]
    rintro ⟨task, member, samples⟩
    exact ⟨task, member, cpu task member samples⟩
  · rw [builder.yields_memRanking.returns]
    rintro ⟨task, member, samples⟩
    exact ⟨task, member, memory task member samples⟩

theorem backed_getSystemRankingComponent {elements : List Element}
    (made : builder.getSystemRankingComponent = .ok elements) :
    ∀ element ∈ elements, ∀ task, element.Backed builder task := by
  obtain ⟨figCpu, cpu, made⟩ := bind_ok made
  obtain ⟨figMem, memory, made⟩ := bind_ok made
  cases made
  apply backed_blocks
  intro title figure member task
  simp at member
  cases member with
  | inl given =>
    exact backed_of_drawn (builder.yields_cpuRanking.yielded _ (cpu.trans (congrArg _ given.2.symm))) id
  | inr given =>
    exact backed_of_drawn (builder.yields_memRanking.yielded _ (memory.trans (congrArg _ given.2.symm))) id

theorem returns_getTimelineComponent : Returns builder.getTimelineComponent ↔
    (builder.emulation.snapshots ≠ [] → builder.TaskIds) ∧ builder.Snapped ∧ builder.TimelineFits :=
  Returns.bind_pure_iff.trans builder.yields_timeline.returns

theorem backed_getTimelineComponent {elements : List Element} (made : builder.getTimelineComponent = .ok elements) :
    ∀ element ∈ elements, ∀ task, element.Backed builder task := by
  obtain ⟨fig, drawn, made⟩ := bind_ok made
  cases made
  apply backed_blocks
  intro title figure member task
  simp at member
  exact backed_of_drawn (builder.yields_timeline.yielded _ (drawn.trans (congrArg _ member.2.symm))) id

theorem returns_taskListElement {dfSnapshot : Option (List SnapshotRow)} (made : builder.getSnapshotDf = .ok dfSnapshot)
    (tasks : List String) : Returns (builder.taskListElement tasks dfSnapshot) ↔ ∀ task ∈ tasks,
      builder.Snapped ∧ builder.renderer.compatible (pageName task) = true ∧
        builder.renderer.compatible task = true := by
  have tells := builder.getSnapshotDf_ok made
  refine Returns.bind_pure_iff.trans ?_
  rw [Returns.mapM_iff]
  simp only [List.mem_insertionSort]
  refine forall₂_congr fun task _ => ?_
  cases dfSnapshot with
  | none => exact iff_of_false (Returns.throw _) (fun holds => builder.not_snapped tells holds.1)
  | some rows =>
    have frame : builder.SnapshotRows rows := tells
    refine (Returns.bind_iff_and fun _ _ => Returns.bind_iff_and fun _ _ => Returns.bind_pure_iff).trans ?_
    rw [returns_setText, returns_setText, ← frame.snapped]
    simp [column]

end Index

end ReportBuilder

end Wotemu
