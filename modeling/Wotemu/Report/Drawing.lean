import Wotemu.Report.Figures

/-! When each figure of the report can be drawn.

A builder returns under a condition on the records that it reads, and draws a
figure only where something was recorded. The frames of addresses and virtual
IPs are needed by every builder that extends packets.
-/

set_option autoImplicit false

namespace Wotemu

open Wotemu.Foundation

namespace ReportDataRedisReader

variable (reader : ReportDataRedisReader)

def HasPackets (task : String) : Prop := getPacketDf reader.redis reader.store task ≠ none

def packets (task : String) : List Packet :=
  match getPacketDf reader.redis reader.store task with
  | some rows => (packetRows rows).map PacketRow.packet
  | none => []

end ReportDataRedisReader

def Addressed (reader : ReportDataRedisReader) : Prop := reader.reportedAddresses ≠ [] ∧ reader.reportedVips ≠ []

section Extended

variable {reader : ReportDataRedisReader} {task : String}

theorem returns_getExtendedPacketDf :
    Returns (reader.getExtendedPacketDf task) ↔ (reader.HasPackets task → Addressed reader) := by
  unfold ReportDataRedisReader.getExtendedPacketDf ReportDataRedisReader.HasPackets
  cases getPacketDf reader.redis reader.store task with
  | none => simp
  | some rows =>
    simp only [Returns.bind_pure_iff, ne_eq, reduceCtorEq, not_false_eq_true, forall_const]
    exact ReportDataRedisReader.extendPacketDf_ok_iff

theorem packets_of_not_hasPackets (absent : ¬ reader.HasPackets task) : reader.packets task = [] := by
  unfold ReportDataRedisReader.packets
  rw [not_not.mp absent]

theorem hasPackets_of_extended {df : List ExtendedRow} (made : reader.getExtendedPacketDf task = .ok (some df)) :
    reader.HasPackets task := by
  unfold ReportDataRedisReader.getExtendedPacketDf at made
  intro none
  rw [none] at made
  cases made

theorem not_hasPackets_of_extended (made : reader.getExtendedPacketDf task = .ok none) : ¬ reader.HasPackets task := by
  unfold ReportDataRedisReader.getExtendedPacketDf at made
  intro some
  obtain ⟨rows, found⟩ := Option.ne_none_iff_exists'.mp some
  rw [found] at made
  obtain ⟨df, _, made⟩ := bind_ok made
  cases made

theorem hasPackets_iff (returns : Returns (reader.getExtendedPacketDf task)) :
    reader.HasPackets task ↔ ∃ df, reader.getExtendedPacketDf task = .ok (some df) := by
  obtain ⟨found, made⟩ := returns
  constructor
  · intro some
    cases found with
    | none => exact absurd some (not_hasPackets_of_extended made)
    | some df => exact ⟨df, made⟩
  · rintro ⟨df, made⟩
    exact hasPackets_of_extended made

theorem some_extended_iff {tasks : List String} {found : List (Option (List ExtendedRow))}
    (built : List.Forall₂ (fun task df => reader.getExtendedPacketDf task = .ok df) tasks found) :
    found.filterMap id ≠ [] ↔ ∃ task ∈ tasks, reader.HasPackets task := by
  induction built with
  | nil => simp
  | @cons task df tasks found here _ ih =>
    rw [List.exists_mem_cons_iff, ← ih]
    cases df with
    | none => simp [not_hasPackets_of_extended here]
    | some df => simp [hasPackets_of_extended here]

theorem returns_extended_and_iff {tasks : List String} :
    (∀ task ∈ tasks, Returns (reader.getExtendedPacketDf task)) ∧ (∃ task ∈ tasks, reader.HasPackets task) ↔
      Addressed reader ∧ ∃ task ∈ tasks, reader.HasPackets task := by
  simp only [returns_getExtendedPacketDf]
  constructor
  · rintro ⟨each, task, member, some⟩
    exact ⟨each task member some, task, member, some⟩
  · rintro ⟨addressed, some⟩
    exact ⟨fun _ _ _ => addressed, some⟩

theorem mem_packets_of_extended {df : List ExtendedRow} (made : reader.getExtendedPacketDf task = .ok (some df))
    (packet : Packet) : (∃ ext ∈ df, ext.row.packet = packet) ↔ packet ∈ reader.packets task := by
  unfold ReportDataRedisReader.getExtendedPacketDf at made
  unfold ReportDataRedisReader.packets
  cases found : getPacketDf reader.redis reader.store task with
  | none =>
    rw [found] at made
    cases made
  | some rows =>
    rw [found] at made
    obtain ⟨df, extended, made⟩ := bind_ok made
    cases made
    have copied := ReportDataRedisReader.extendPacketDf_copies extended
    have kept : ∀ row, row ∈ df.map ExtendedRow.row ↔ row ∈ ReportDataRedisReader.packetRows rows := by
      intro row
      rw [copied.mem_iff, mem_repeated (ReportDataRedisReader.packetCopies_pos reader)]
    constructor
    · rintro ⟨ext, member, rfl⟩
      exact List.mem_map_of_mem ((kept ext.row).mp (List.mem_map_of_mem member))
    · intro member
      obtain ⟨row, inside, rfl⟩ := List.mem_map.mp member
      obtain ⟨ext, extended, rfl⟩ := List.mem_map.mp ((kept row).mpr inside)
      exact ⟨ext, extended, rfl⟩

end Extended

def Drawn (kind : FigureKind) (recorded : Prop) (figure : Figure) : Prop := figure.kind = kind ∧ recorded

namespace ReportBuilder

variable (builder : ReportBuilder)

section Tasks

variable (task : String)

theorem yields_taskMem :
    Yields (builder.buildTaskMemFigure task) (Drawn .taskMem (builder.reader.systemDf task ≠ []))
      (builder.reader.systemDf task ≠ [] →
        (∃ sample ∈ builder.reader.systemDf task, sample.memMb.isSome = true) ∧
        ∃ sample ∈ builder.reader.systemDf task, sample.memPercent.isSome = true) := by
  refine (Yields.orNothing fun given =>
    Yields.require fun _ => (Yields.require fun _ => (Yields.single ⟨rfl, ?_⟩))).imp ?_
  · simp
  · simpa using given

theorem yields_taskCpu :
    Yields (builder.buildTaskCpuFigure task) (Drawn .taskCpu (builder.reader.systemDf task ≠ []))
      (builder.reader.systemDf task ≠ [] →
        ∃ sample ∈ builder.reader.systemDf task, sample.cpuPercent.isSome = true) := by
  refine (Yields.orNothing fun given => Yields.require fun _ => (Yields.single ⟨rfl, ?_⟩)).imp ?_
  · simp
  · simpa using given

/-- Some packet of the task has a destination port, and some packet a source port. -/
def HasPorts : Prop :=
  (∃ packet ∈ builder.reader.packets task, packet.dstport.isSome = true) ∧
    ∃ packet ∈ builder.reader.packets task, packet.srcport.isSome = true

theorem yields_taskPacket (figure : Figure) :
    Yields (builder.buildTaskPacketFigure task figure) (Drawn figure.kind (builder.reader.HasPackets task))
      ((builder.reader.HasPackets task → Addressed builder.reader) ∧
        (builder.reader.packets task ≠ [] → builder.HasPorts task)) := by
  refine (Yields.bind ?_).imp (and_congr_left' returns_getExtendedPacketDf)
  intro found made
  cases found with
  | none =>
    have none := packets_of_not_hasPackets (not_hasPackets_of_extended made)
    exact Yields.nothing.imp (by simp [none])
  | some df =>
    have members := mem_packets_of_extended made
    refine (Yields.orNothing fun given =>
      Yields.require fun _ => (Yields.require fun _ => (Yields.single ⟨rfl, hasPackets_of_extended made⟩))).imp ?_
    have nonempty : ¬ df.isEmpty = true ↔ builder.reader.packets task ≠ [] := by
      rw [List.isEmpty_iff, not_iff_not, List.eq_nil_iff_forall_not_mem, List.eq_nil_iff_forall_not_mem]
      constructor
      · intro none packet member
        obtain ⟨ext, inside, _⟩ := (members packet).mpr member
        exact none ext inside
      · intro none ext member
        exact none _ ((members _).mp ⟨ext, member, rfl⟩)
    rw [nonempty]
    unfold HasPorts
    simp only [List.any_eq_true, and_true, ← members]
    simp

theorem yields_thingCounts :
    Yields (builder.buildThingCountsFigure task) (Drawn .thingCounts (builder.reader.thingDf task ≠ []))
      (builder.reader.thingDf task ≠ [] →
        builder.renderer.draws (thingFacets (builder.reader.thingDf task)).length 2 none = true) := by
  refine (Yields.orNothing fun given => Yields.require fun _ => (Yields.single ⟨rfl, ?_⟩)).imp ?_
  · simp
  · simpa using given

theorem latency_column {clsName : String} (some_request : ¬ requestsOf clsName (builder.reader.thingDf task) = []) :
    ((builder.reader.thingDf task).any fun data => "latency" ∈ Dict.keys data.details) = true := by
  obtain ⟨data, member⟩ := List.exists_mem_of_ne_nil _ some_request
  obtain ⟨inside, request⟩ := List.mem_filter.mp member
  have recorded := builder.emulation.recorded task data inside
  exact List.any_eq_true.mpr ⟨data, inside, decide_eq_true (recorded.latency (of_decide_eq_true request).1)⟩

theorem event_column {clsName : String} (some_event : ¬ eventsOf clsName (builder.reader.thingDf task) = []) :
    ((builder.reader.thingDf task).any fun data => "event" ∈ Dict.keys data.details) = true := by
  obtain ⟨data, member⟩ := List.exists_mem_of_ne_nil _ some_event
  obtain ⟨inside, event⟩ := List.mem_filter.mp member
  have recorded := builder.emulation.recorded task data inside
  exact List.any_eq_true.mpr ⟨data, inside, decide_eq_true (recorded.event (of_decide_eq_true event).1)⟩

theorem ne_nil_of_filter {α : Type} {keeps : α → Bool} {items : List α} (kept : items.filter keeps ≠ []) :
    items ≠ [] := by
  intro none
  exact kept (by rw [none, List.filter_nil])

/-- The facets of the latency figure of a class have room. -/
def LatencyFits (clsName : String) : Prop :=
  requestsOf clsName (builder.reader.thingDf task) ≠ [] → builder.renderer.draws
    (distinctBy id ((requestsOf clsName (builder.reader.thingDf task)).map ThingData.thing)).length 2 none = true

def EventsFit (clsName : String) : Prop :=
  eventsOf clsName (builder.reader.thingDf task) ≠ [] →
    let facets := (eventFacets (eventsOf clsName (builder.reader.thingDf task))).length
    builder.renderer.draws facets 2 (some (eventsHeight facets)) = true

theorem yields_reqLatency (clsName : String) (figure : Figure) :
    Yields (builder.buildReqLatencyFig task clsName figure)
      (Drawn figure.kind (builder.reader.thingDf task ≠ [])) (builder.LatencyFits task clsName) := by
  refine (Yields.orNothing fun given => Yields.orNothing fun _ =>
    Yields.require fun _ => (Yields.require fun _ => (Yields.single ⟨rfl, ?_⟩))).imp ?_
  · constructor
    · intro fits some_request
      have some_data : builder.reader.thingDf task ≠ [] := ne_nil_of_filter some_request
      exact (fits (by simpa using some_data) (by simpa using some_request)).2.1
    · intro fits _ some_request
      have some_request : ¬ requestsOf clsName (builder.reader.thingDf task) = [] := by simpa using some_request
      exact ⟨builder.latency_column task some_request, fits some_request, trivial⟩
  · simpa using given

theorem yields_events (clsName : String) (figure : Figure) :
    Yields (builder.buildEventsFigure task clsName figure)
      (Drawn figure.kind (builder.reader.thingDf task ≠ [])) (builder.EventsFit task clsName) := by
  refine (Yields.orNothing fun given => Yields.orNothing fun _ =>
    Yields.require fun _ => (Yields.require fun _ => (Yields.single ⟨rfl, ?_⟩))).imp ?_
  · constructor
    · intro fits some_event
      have some_data : builder.reader.thingDf task ≠ [] := ne_nil_of_filter some_event
      exact (fits (by simpa using some_data) (by simpa using some_event)).2.1
    · intro fits _ some_event
      have some_event : ¬ eventsOf clsName (builder.reader.thingDf task) = [] := by simpa using some_event
      exact ⟨builder.event_column task some_event, fits some_event, trivial⟩
  · simpa using given

end Tasks

section Stack

theorem yields_serviceTraffic (inbound : Bool) :
    Yields (builder.buildServiceTrafficFigure inbound)
      (Drawn (if inbound then .trafficInbound else .trafficOutbound)
        (∃ task ∈ builder.reader.tasks, builder.reader.HasPackets task))
      (Addressed builder.reader ∧ ∃ task ∈ builder.reader.tasks, builder.reader.HasPackets task) := by
  rw [← returns_extended_and_iff]
  refine (Yields.bind ?_).imp (and_congr_left' ReportDataRedisReader.returns_getServiceTrafficDf)
  intro found made
  have each := ReportDataRedisReader.returns_getServiceTrafficDf.mp ⟨found, made⟩
  have someFrame : found.isSome = true ↔ ∃ task ∈ builder.reader.tasks, builder.reader.HasPackets task := by
    rw [ReportDataRedisReader.isSome_getServiceTrafficDf made]
    exact exists_congr fun task => and_congr_right fun member => (hasPackets_iff (each task member)).symm
  cases found with
  | none => exact (Yields.raises _).imp (by simpa using someFrame)
  | some df =>
    have recorded := someFrame.mp rfl
    have cells : Returns ((sortedNames (df.map TrafficRow.task)).mapM fun task =>
        (sortedNames (df.map TrafficRow.service)).mapM fun service => getTraffic df service task) := by
      have nodup := ReportDataRedisReader.nodup_cells made
      refine Returns.mapM_iff.mpr fun task _ => Returns.mapM_iff.mpr fun service _ => ?_
      exact returns_getTraffic nodup service task
    refine (Yields.orNothing fun _ => Yields.bind fun cells _ => Yields.single ⟨rfl, recorded⟩).imp ?_
    exact iff_of_true (fun _ => ⟨cells, trivial⟩) recorded

theorem yields_networkTraffic :
    Yields builder.buildNetworkTrafficFigure
      (Drawn .networkTraffic (∃ task ∈ builder.reader.tasks, builder.reader.HasPackets task))
      (Addressed builder.reader ∧ ∃ task ∈ builder.reader.tasks, builder.reader.HasPackets task) := by
  rw [← returns_extended_and_iff]
  refine (Yields.bind ?_).imp (and_congr_left' Returns.mapM_iff)
  intro found made
  have each := Returns.mapM_iff.mp ⟨found, made⟩
  have someFrame := some_extended_iff (mapM_ok_iff.mp made)
  refine (Yields.require fun _ => (Yields.orNothing fun given => Yields.single ⟨rfl, ?_⟩)).imp ?_
  · rw [← someFrame]
    simp
  · rw [← someFrame]
    intro none
    rw [none] at given
    exact given rfl

def HasSamples : Prop := ∃ task ∈ builder.reader.tasks, builder.reader.systemDf task ≠ []

theorem rankingDf_ne_nil : ¬ builder.rankingDf = [] ↔ builder.HasSamples := by
  unfold rankingDf HasSamples
  rw [List.flatMap_eq_nil_iff]
  simp

theorem any_rankingDf (has : SystemSample → Bool) : builder.rankingDf.any has = true ↔
    ∃ task ∈ builder.reader.tasks, ∃ sample ∈ builder.reader.systemDf task, has sample = true := by
  unfold rankingDf
  simp

theorem ranking_iff (has : SystemSample → Bool) :
    (¬ builder.reader.tasks.isEmpty = true → ¬ builder.rankingDf.isEmpty = true →
      builder.rankingDf.any has = true ∧ True) ↔
    (builder.HasSamples →
      ∃ task ∈ builder.reader.tasks, ∃ sample ∈ builder.reader.systemDf task, has sample = true) := by
  rw [any_rankingDf, List.isEmpty_iff, List.isEmpty_iff, rankingDf_ne_nil, and_true]
  constructor
  · intro needs samples
    have some_task : builder.reader.tasks ≠ [] := by
      obtain ⟨task, member, _⟩ := samples
      exact List.ne_nil_of_mem member
    exact needs some_task samples
  · exact fun needs _ samples => needs samples

theorem yields_cpuRanking :
    Yields builder.buildCpuRankingFigure (Drawn .cpuRanking builder.HasSamples)
      (builder.HasSamples → ∃ task ∈ builder.reader.tasks, ∃ sample ∈ builder.reader.systemDf task,
        sample.cpuPercent.isSome = true) := by
  refine (Yields.orNothing fun _ => Yields.orNothing fun given =>
    Yields.require fun _ => (Yields.single ⟨rfl, ?_⟩)).imp ?_
  · exact builder.ranking_iff _
  · exact builder.rankingDf_ne_nil.mp (by simpa using given)

theorem yields_memRanking :
    Yields builder.buildMemRankingFigure (Drawn .memRanking builder.HasSamples)
      (builder.HasSamples → ∃ task ∈ builder.reader.tasks, ∃ sample ∈ builder.reader.systemDf task,
        sample.memMb.isSome = true) := by
  refine (Yields.orNothing fun _ => Yields.orNothing fun given =>
    Yields.require fun _ => (Yields.single ⟨rfl, ?_⟩)).imp ?_
  · exact builder.ranking_iff _
  · exact builder.rankingDf_ne_nil.mp (by simpa using given)

end Stack

end ReportBuilder

end Wotemu
