import Wotemu.Report.Builder
import Wotemu.Report.Drawing

/-! What the report shows of the snapshot.

The snapshot is read as a frame, of which the timeline shows every row and the
page of a task the last row that the info documents file under the task. Both
use the frame without a look at whether there is one.
-/

set_option autoImplicit false

namespace Wotemu

open Wotemu.Foundation

def DockerTime.instant (time : DockerTime) : Option Int :=
  match parseDockerTime time.text with
  | .ok instant => instant
  | .error _ => none

def SnapshotItem.span (stoppedAt : Int) (item : SnapshotItem) : Option Int × Option Int :=
  (item.task.createdAt.instant, if item.task.isTaskRunning then some stoppedAt else item.task.updatedAt.instant)

def SnapshotItem.texts (taskId : String) (item : SnapshotItem) : List String :=
  [some item.task.desiredState, item.task.nodeId, item.task.serviceId, some taskId,
    item.task.containerStatus.bind ContainerStatus.containerId].filterMap nonempty ++
  ((nonempty item.logs).map fun text => String.ofList (strip isSpace text.toList)).toList

namespace Emulation

variable (e : Emulation)

/-- The entry of the last snapshot that the page of a task shows: the last one whose id the
info documents file under the task. -/
def shown (task : String) : Option (String × SnapshotItem) :=
  match e.reader.getTaskKeyMap, e.snapshots.getLast? with
  | .ok map, some (_, snapshot) => (snapshot.filter fun entry => Dict.value? map entry.1 = some task).getLast?
  | _, _ => none

end Emulation

section Rows

variable {map : Dict String String} {stoppedAt : Int} {entry : String × SnapshotItem} {row : SnapshotRow}
  (made : ReportDataRedisReader.snapshotRow map stoppedAt entry = .ok row)

def SnapshotRow.texts (row : SnapshotRow) : List String := row.entries.map Prod.snd ++ row.logsText.toList

include made in
theorem span_of_snapshotRow : row.span = entry.2.span stoppedAt := by
  obtain ⟨created, createdOk, made⟩ := bind_ok made
  obtain ⟨updated, updatedOk, made⟩ := bind_ok made
  cases made
  unfold SnapshotItem.span DockerTime.instant SnapshotRow.span
  rw [createdOk, updatedOk]

include made in
theorem texts_of_snapshotRow : row.texts = entry.2.texts entry.1 := by
  obtain ⟨created, createdOk, made⟩ := bind_ok made
  obtain ⟨updated, updatedOk, made⟩ := bind_ok made
  cases made
  unfold SnapshotRow.texts SnapshotItem.texts SnapshotRow.entries SnapshotRow.logsText
  congr 1
  rw [List.map_filterMap]
  simp only [Option.map_map, Function.comp_def, Option.map_id']
  exact (List.filterMap_map (f := Prod.snd) (g := nonempty)).symm

end Rows

theorem getLast?_of_forall₂ {α β : Type} {R : α → β → Prop} {items : List α} {others : List β}
    (all : List.Forall₂ R items others) :
    (items.getLast? = none ∧ others.getLast? = none) ∨
      ∃ item other, items.getLast? = some item ∧ others.getLast? = some other ∧ R item other := by
  induction all with
  | nil => exact Or.inl ⟨rfl, rfl⟩
  | @cons item other items others here later ih =>
    cases ih with
    | inl ends =>
      rw [List.getLast?_eq_none_iff] at ends
      obtain ⟨rfl, rfl⟩ := ends.imp_right List.getLast?_eq_none_iff.mp
      exact Or.inr ⟨item, other, rfl, rfl, here⟩
    | inr ends =>
      obtain ⟨last, otherLast, found, otherFound, related⟩ := ends
      exact Or.inr ⟨last, otherLast, by rw [List.getLast?_cons, found]; rfl,
        by rw [List.getLast?_cons, otherFound]; rfl, related⟩

namespace ReportBuilder

variable (builder : ReportBuilder)

def TaskIds : Prop := ∀ task ∈ builder.reader.tasks, ∀ info,
  builder.reader.latestInfo task = some info → info.hasContainer = true → info.taskId ≠ none

def Snapped : Prop := ∃ score snapshot, builder.emulation.snapshots.getLast? = some (score, snapshot) ∧ snapshot ≠ []

structure SnapshotRows (rows : List SnapshotRow) : Prop where
  built : ∃ score snapshot map, builder.emulation.snapshots.getLast? = some (score, snapshot) ∧
    builder.reader.getTaskKeyMap = .ok map ∧
    List.Forall₂ (fun entry row => ReportDataRedisReader.snapshotRow map (fromTimestamp score) entry = .ok row)
      snapshot rows

theorem getSnapshotDf_ok {found : Option (List SnapshotRow)} (made : builder.getSnapshotDf = .ok found) :
    match found with
    | none => builder.emulation.snapshots = []
    | some rows => builder.SnapshotRows rows := by
  cases last : builder.emulation.snapshots.getLast? with
  | none =>
    unfold getSnapshotDf ReportDataRedisReader.getSnapshotDf at made
    rw [last] at made
    cases made
    exact List.getLast?_eq_none_iff.mp last
  | some entry =>
    obtain ⟨score, snapshot⟩ := entry
    cases found with
    | none =>
      unfold getSnapshotDf ReportDataRedisReader.getSnapshotDf at made
      rw [last] at made
      obtain ⟨map, _, made⟩ := bind_ok made
      obtain ⟨rows, _, made⟩ := bind_ok made
      cases made
    | some rows =>
      obtain ⟨map, mapped, built⟩ := (ReportDataRedisReader.getSnapshotDf_ok_iff last).mp made
      exact ⟨score, snapshot, map, last, mapped, built⟩

theorem returns_getSnapshotDf :
    Returns builder.getSnapshotDf ↔ (builder.emulation.snapshots ≠ [] → builder.TaskIds) := by
  unfold getSnapshotDf ReportDataRedisReader.getSnapshotDf
  cases last : builder.emulation.snapshots.getLast? with
  | none =>
    have none := List.getLast?_eq_none_iff.mp last
    exact iff_of_true (Returns.ok _) (fun some => absurd none some)
  | some entry =>
    obtain ⟨score, snapshot⟩ := entry
    have some : builder.emulation.snapshots ≠ [] := by
      intro none
      rw [none] at last
      cases last
    have rows : ∀ map, Returns (snapshot.mapM (ReportDataRedisReader.snapshotRow map (fromTimestamp score))) :=
      fun map => ReportDataRedisReader.exists_snapshotRows map _ snapshot
    rw [Returns.bind_iff_and (fun map _ => Returns.bind_pure_iff.trans (iff_true_intro (rows map))), and_true]
    exact ReportDataRedisReader.getTaskKeyMap_ok_iff.trans ⟨fun ids _ => ids, fun ids => ids some⟩

section Frames

variable {builder} {rows : List SnapshotRow} (frame : builder.SnapshotRows rows)

include frame

theorem SnapshotRows.snapped : rows ≠ [] ↔ builder.Snapped := by
  obtain ⟨score, snapshot, map, last, _, built⟩ := frame
  constructor
  · intro some_row
    refine ⟨score, snapshot, last, fun none => some_row ?_⟩
    exact List.forall₂_nil_left_iff.mp (none ▸ built)
  · rintro ⟨other, tasks, found, some_task⟩ none
    rw [last] at found
    cases found
    exact some_task (List.forall₂_nil_right_iff.mp (none ▸ built))

theorem SnapshotRows.spans {score : Rat} {snapshot : Snapshot}
    (last : builder.emulation.snapshots.getLast? = some (score, snapshot)) :
    rows.map SnapshotRow.span = snapshot.map fun entry => entry.2.span (fromTimestamp score) := by
  obtain ⟨other, tasks, map, found, _, built⟩ := frame
  rw [last] at found
  cases found
  clear last
  induction built with
  | nil => rfl
  | cons here _ ih => rw [List.map_cons, List.map_cons, ih, span_of_snapshotRow here]

theorem SnapshotRows.shown (task : String) :
    ((rows.filter fun row => row.task = some task).getLast?).map SnapshotRow.texts =
      (builder.emulation.shown task).map fun entry => entry.2.texts entry.1 := by
  obtain ⟨score, snapshot, map, last, mapped, built⟩ := frame
  have agrees : ∀ entry row, ReportDataRedisReader.snapshotRow map (fromTimestamp score) entry = .ok row →
      (decide (Dict.value? map entry.1 = some task) = true ↔ decide (row.task = some task) = true) := by
    intro entry row generated
    rw [ReportDataRedisReader.task_of_snapshotRow generated]
  have kept := List.rel_filter (fun _ _ generated => agrees _ _ generated) built
  unfold Emulation.shown
  have mapped : builder.emulation.reader.getTaskKeyMap = .ok map := mapped
  rw [last, mapped]
  dsimp only
  cases getLast?_of_forall₂ kept with
  | inl ends => rw [ends.1, ends.2]; rfl
  | inr ends =>
    obtain ⟨entry, row, found, rowFound, generated⟩ := ends
    rw [found, rowFound, Option.map_some, Option.map_some, texts_of_snapshotRow generated]

end Frames

theorem not_snapped (none : builder.emulation.snapshots = []) : ¬ builder.Snapped := by
  rintro ⟨score, snapshot, last, _⟩
  rw [none] at last
  cases last

def TimelineFits : Prop := ∀ score snapshot, builder.emulation.snapshots.getLast? = some (score, snapshot) →
  builder.renderer.spans (snapshot.map fun entry => entry.2.span (fromTimestamp score)) = true

theorem yields_timeline :
    Yields builder.buildTaskTimelineFigure (Drawn .timeline builder.Snapped)
      ((builder.emulation.snapshots ≠ [] → builder.TaskIds) ∧ builder.Snapped ∧ builder.TimelineFits) := by
  refine (Yields.bind ?_).imp (and_congr_left' builder.returns_getSnapshotDf)
  intro found made
  have tells := builder.getSnapshotDf_ok made
  cases found with
  | none =>
    have absent := builder.not_snapped tells
    exact (Yields.raises _).imp ⟨False.elim, fun holds => absent holds.1⟩
  | some rows =>
    have frame : builder.SnapshotRows rows := tells
    have filled : (!rows.isEmpty) = true ↔ builder.Snapped := by
      rw [← frame.snapped]
      simp
    refine (Yields.require fun some_row => Yields.require fun _ =>
      Yields.single ⟨rfl, filled.mp some_row⟩).imp ?_
    rw [filled, and_true]
    apply and_congr_right
    intro snapped
    unfold TimelineFits
    obtain ⟨score, snapshot, last, _⟩ := snapped
    rw [frame.spans last, last]
    simp

theorem returns_snapshotOf (task : String) : Returns (builder.snapshotOf task) ↔
    (builder.emulation.snapshots ≠ [] → builder.TaskIds) ∧ builder.Snapped := by
  rw [← returns_getSnapshotDf]
  apply Returns.bind_iff_and
  intro found made
  have tells := builder.getSnapshotDf_ok made
  cases found with
  | none => exact iff_of_false (Returns.throw _) (builder.not_snapped tells)
  | some rows =>
    have frame : builder.SnapshotRows rows := tells
    rw [← frame.snapped, Returns.bind_iff_and (fun _ _ => iff_true_intro (Returns.pure _))]
    simp [column]

theorem snapshotOf_ok {task : String} {found : Option SnapshotRow} (made : builder.snapshotOf task = .ok found) :
    found.map SnapshotRow.texts = (builder.emulation.shown task).map fun entry => entry.2.texts entry.1 := by
  obtain ⟨frame, snapped, made⟩ := bind_ok made
  have tells := builder.getSnapshotDf_ok snapped
  cases frame with
  | none => cases made
  | some rows =>
    obtain ⟨_, _, made⟩ := bind_ok made
    cases made
    exact SnapshotRows.shown tells task

end ReportBuilder

end Wotemu
