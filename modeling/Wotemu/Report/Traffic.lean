import Wotemu.Foundation.Stages
import Wotemu.Report.Packets

/-! The traffic between services and tasks, as the report shows it.

Every task contributes one row for each service on the other side of its own
packets. A task has no packets or a whole frame of them, and a report on no
frame at all is not the same as one on an empty frame.
-/

set_option autoImplicit false

namespace Wotemu

open Wotemu.Foundation

/-- `sorted(set(names))` -/
def sortedNames (names : List String) : List String := (distinctBy id names).insertionSort (· ≤ ·)

/-- `df.groupby(key)["len"].sum()`: one entry for each key, in the order of the keys. -/
def groupSum (rows : List (String × Int)) : List (String × Int) :=
  (sortedNames (rows.map Prod.fst)).map fun key =>
    (key, ((rows.filter fun row => row.1 = key).map Prod.snd).sum)

structure TrafficRow where
  service : String
  task : String
  len : Int
  deriving DecidableEq, Repr

namespace ExtendedRow

variable (row : ExtendedRow)

/-- The task on the side of the direction, and the service on the other side. -/
def colTask (inbound : Bool) : Option String := if inbound then row.srcTask else row.dstTask

def colService (inbound : Bool) : Option String := if inbound then row.dstService else row.srcService

end ExtendedRow

/-- The rows of one task: its own packets that have a service on the other side. -/
def trafficOf (inbound : Bool) (task : String) (df : List ExtendedRow) : List TrafficRow :=
  let own := df.filter fun row => row.colTask inbound = some task
  let lengths := own.filterMap fun row => (row.colService inbound).map fun service => (service, row.row.packet.len)
  (groupSum lengths).map fun entry => ⟨entry.1, task, entry.2⟩

namespace ReportDataRedisReader

variable (reader : ReportDataRedisReader)

/-- There is no frame unless some task has packets. -/
def getServiceTrafficDf (inbound : Bool) : Except PyError (Option (List TrafficRow)) := do
  let dfs ← (reader.tasksOr []).mapM fun task => do
    let df ← reader.getExtendedPacketDf task
    return df.map (trafficOf inbound task)
  let dfs := dfs.filterMap id
  return if dfs.isEmpty then none else some dfs.flatten

end ReportDataRedisReader

/-- `ReportBuilder._get_traffic`: a cell of the heatmap, in kilobytes. -/
def getTraffic (df : List TrafficRow) (service task : String) : Except PyError Rat :=
  match df.filter fun row => row.service = service ∧ row.task = task with
  | [] => .ok 0
  | [row] => .ok (row.len / 1024)
  | _ => .error .assertionError

theorem nodup_sortedNames (names : List String) : (sortedNames names).Nodup := by
  unfold sortedNames
  rw [(List.perm_insertionSort _ _).nodup_iff]
  simpa using nodup_map_distinctBy id names

theorem keys_groupSum (rows : List (String × Int)) :
    (groupSum rows).map Prod.fst = sortedNames (rows.map Prod.fst) := by
  unfold groupSum
  rw [List.map_map, Function.comp_def, List.map_id']

def TrafficRow.cell (row : TrafficRow) : String × String := (row.service, row.task)

theorem nodup_cells_trafficOf (inbound : Bool) (task : String) (df : List ExtendedRow) :
    ((trafficOf inbound task df).map TrafficRow.cell).Nodup := by
  unfold trafficOf
  dsimp only
  rw [List.map_map]
  apply List.Nodup.of_map Prod.fst
  rw [List.map_map]
  change ((groupSum _).map Prod.fst).Nodup
  rw [keys_groupSum]
  exact nodup_sortedNames _

theorem task_of_mem_trafficOf {inbound : Bool} {task : String} {df : List ExtendedRow} {row : TrafficRow}
    (member : row ∈ trafficOf inbound task df) : row.task = task := by
  obtain ⟨entry, _, rfl⟩ := List.mem_map.mp member
  rfl

/-- The assertion holds in a frame with one row at most for each service and task. -/
theorem returns_getTraffic {df : List TrafficRow} (nodup : (df.map TrafficRow.cell).Nodup) (service task : String) :
    Returns (getTraffic df service task) := by
  have single : (df.filter fun row => row.service = service ∧ row.task = task).length ≤ 1 := by
    have same : ∀ row ∈ df.filter (fun row => row.service = service ∧ row.task = task),
        row.cell = (service, task) := by
      intro row member
      have found := of_decide_eq_true (List.mem_filter.mp member).2
      exact Prod.ext found.1 found.2
    have kept : ((df.filter fun row => row.service = service ∧ row.task = task).map TrafficRow.cell).Nodup :=
      nodup.sublist (List.filter_sublist.map TrafficRow.cell)
    rw [List.map_eq_replicate_iff.mpr same] at kept
    exact List.nodup_replicate.mp kept
  unfold getTraffic
  split
  · exact Returns.ok 0
  · exact Returns.ok _
  · rename_i rows notNil notSingle
    match found : df.filter fun row => row.service = service ∧ row.task = task with
    | [] => exact absurd found notNil
    | [row] => exact absurd found (notSingle row)
    | first :: second :: rest =>
      rw [found] at single
      simp at single

namespace ReportDataRedisReader

variable {reader : ReportDataRedisReader} {inbound : Bool}

theorem returns_getServiceTrafficDf : Returns (reader.getServiceTrafficDf inbound) ↔
    ∀ task ∈ getTasks reader.redis reader.store, Returns (reader.getExtendedPacketDf task) := by
  have tasks : reader.tasksOr [] = getTasks reader.redis reader.store := rfl
  unfold getServiceTrafficDf
  rw [Returns.bind_pure_iff, Returns.mapM_iff, tasks]
  constructor
  · intro each task member
    exact Returns.bind_pure_iff.mp (each task member)
  · intro each task member
    exact Returns.bind_pure_iff.mpr (each task member)

def TaskTraffic (reader : ReportDataRedisReader) (inbound : Bool) (task : String)
    (result : Option (List TrafficRow)) : Prop :=
  ∃ df, reader.getExtendedPacketDf task = .ok df ∧ result = df.map (trafficOf inbound task)

theorem getServiceTrafficDf_ok {found : Option (List TrafficRow)}
    (made : reader.getServiceTrafficDf inbound = .ok found) :
    ∃ results, List.Forall₂ (reader.TaskTraffic inbound) (getTasks reader.redis reader.store) results ∧
      found = if (results.filterMap id).isEmpty then none else some (results.filterMap id).flatten := by
  obtain ⟨results, mapped, made⟩ := bind_ok made
  cases made
  refine ⟨results, (mapM_ok_iff.mp mapped).imp ?_, rfl⟩
  intro task result made
  obtain ⟨df, extended, made⟩ := bind_ok made
  cases made
  exact ⟨df, extended, rfl⟩

section TaskFrames

variable {tasks : List String} {results : List (Option (List TrafficRow))}
  (built : List.Forall₂ (reader.TaskTraffic inbound) tasks results)

include built

theorem some_frame_iff : results.filterMap id ≠ [] ↔
    ∃ task ∈ tasks, ∃ df, reader.getExtendedPacketDf task = .ok (some df) := by
  induction built with
  | nil => simp
  | cons here _ ih =>
    obtain ⟨df, extended, rfl⟩ := here
    rw [List.exists_mem_cons_iff, ← ih, extended]
    cases df with
    | none => simp
    | some df => simp

theorem task_mem_of_traffic {row : TrafficRow} (member : row ∈ (results.filterMap id).flatten) : row.task ∈ tasks := by
  induction built with
  | nil => cases member
  | cons here _ ih =>
    obtain ⟨df, _, rfl⟩ := here
    cases df with
    | none => exact List.mem_cons_of_mem _ (ih member)
    | some df =>
      cases List.mem_append.mp member with
      | inl own => exact task_of_mem_trafficOf own ▸ List.mem_cons_self
      | inr other => exact List.mem_cons_of_mem _ (ih other)

theorem nodup_cells_flatten (distinct : tasks.Nodup) : ((results.filterMap id).flatten.map TrafficRow.cell).Nodup := by
  induction built with
  | nil => exact List.nodup_nil
  | @cons task result tasks results here later ih =>
    obtain ⟨absent, distinct⟩ := List.nodup_cons.mp distinct
    obtain ⟨df, _, rfl⟩ := here
    cases df with
    | none => exact ih distinct
    | some df =>
      change ((trafficOf inbound task df ++ (results.filterMap id).flatten).map TrafficRow.cell).Nodup
      rw [List.map_append, List.nodup_append]
      refine ⟨nodup_cells_trafficOf inbound task df, ih distinct, ?_⟩
      intro cell own other elsewhere same
      obtain ⟨row, rowOwn, rfl⟩ := List.mem_map.mp own
      obtain ⟨foreign, rowForeign, rfl⟩ := List.mem_map.mp elsewhere
      have tasks_agree : row.task = foreign.task := congrArg Prod.snd same
      rw [task_of_mem_trafficOf rowOwn] at tasks_agree
      exact absent (tasks_agree ▸ task_mem_of_traffic later rowForeign)

end TaskFrames

theorem isSome_getServiceTrafficDf {found : Option (List TrafficRow)}
    (made : reader.getServiceTrafficDf inbound = .ok found) :
    found.isSome = true ↔ ∃ task ∈ getTasks reader.redis reader.store, ∃ df,
      reader.getExtendedPacketDf task = .ok (some df) := by
  obtain ⟨results, built, rfl⟩ := getServiceTrafficDf_ok made
  rw [← some_frame_iff built]
  cases results.filterMap id with
  | nil => simp
  | cons => simp

theorem nodup_cells {df : List TrafficRow} (made : reader.getServiceTrafficDf inbound = .ok (some df)) :
    (df.map TrafficRow.cell).Nodup := by
  obtain ⟨results, built, same⟩ := getServiceTrafficDf_ok made
  have distinct : (getTasks reader.redis reader.store).Nodup := by
    simpa [getTasks] using nodup_map_distinctBy id _
  split at same
  · cases same
  · cases same
    exact nodup_cells_flatten built distinct

end ReportDataRedisReader

end Wotemu
