import Mathlib.Algebra.Field.Rat
import Mathlib.Data.Rat.Cast.Defs
import Mathlib.Tactic.FieldSimp
import Wotemu.Foundation.Grouping
import Wotemu.Report.Drawing

/-! The traffic of the packets and the traffic that the heatmap shows.

The rows of a task carry the lengths of its own packets, and each row is in one
cell, so the cells add up to the lengths of all packets that are counted.
-/

set_option autoImplicit false

namespace Wotemu

open Wotemu.Foundation

/-- The packets of a task with the task on their own side and a service on the other. -/
def ownPackets (inbound : Bool) (task : String) (df : List ExtendedRow) : List ExtendedRow :=
  df.filter fun row => row.colTask inbound = some task ∧ (row.colService inbound).isSome

def ExtendedRow.len (row : ExtendedRow) : Int := row.row.packet.len

namespace ReportDataRedisReader

variable (reader : ReportDataRedisReader) (inbound : Bool)

def taskTraffic (task : String) : Int := match reader.getExtendedPacketDf task with
  | .ok (some df) => sumOf ExtendedRow.len (ownPackets inbound task df)
  | _ => 0

def ownTraffic : Int := (reader.tasks.map (reader.taskTraffic inbound)).sum

end ReportDataRedisReader

def heatmapZ (df : List TrafficRow) : Except PyError (List (List Rat)) :=
  (sortedNames (df.map TrafficRow.task)).mapM fun task =>
    (sortedNames (df.map TrafficRow.service)).mapM fun service => getTraffic df service task

/-- A frame with one row at most for a cell, on which the assertion holds, and whose heatmap shows
the traffic that is counted. -/
structure TrafficConserved (reader : ReportDataRedisReader) (inbound : Bool) (df : List TrafficRow) : Prop where
  single : (df.map TrafficRow.cell).Nodup
  asserted : ∀ service task, getTraffic df service task ≠ .error .assertionError
  conserved : df ≠ [] → ∃ cells, heatmapZ df = .ok cells ∧
    cells.flatten.sum * 1024 = reader.ownTraffic inbound ∧
    ∀ builder : ReportBuilder, builder.reader = reader →
      ∃ figure, builder.buildServiceTrafficFigure inbound = .ok (some figure) ∧ figure.cells = cells

section Rows

theorem mem_sortedNames {name : String} {names : List String} : name ∈ sortedNames names ↔ name ∈ names := by
  unfold sortedNames
  rw [(List.perm_insertionSort _ _).mem_iff]
  simp [mem_distinctBy_id]

theorem sumOf_groupSum (rows : List (String × Int)) : sumOf Prod.snd (groupSum rows) = sumOf Prod.snd rows := by
  rw [← sum_groups (nodup_sortedNames (rows.map Prod.fst)) fun row member =>
    mem_sortedNames.mpr (List.mem_map_of_mem (f := Prod.fst) member)]
  unfold sumOf groupSum groupOf
  rw [List.map_map]
  rfl

theorem sumOf_lengths (inbound : Bool) (rows : List ExtendedRow) :
    sumOf Prod.snd
        (rows.filterMap fun row => (row.colService inbound).map fun service => (service, row.row.packet.len)) =
      sumOf ExtendedRow.len (rows.filter fun row => (row.colService inbound).isSome) := by
  induction rows with
  | nil => rfl
  | cons row rest ih =>
    cases known : row.colService inbound with
    | none =>
      rw [List.filterMap_cons_none (by rw [known]; rfl), List.filter_cons_of_neg (by simp [known]), ih]
    | some service =>
      rw [List.filterMap_cons_some (by rw [known]; rfl), List.filter_cons_of_pos (by simp [known]), sumOf_cons,
        sumOf_cons, ih]
      rfl

theorem sumOf_trafficOf (inbound : Bool) (task : String) (df : List ExtendedRow) :
    sumOf TrafficRow.len (trafficOf inbound task df) = sumOf ExtendedRow.len (ownPackets inbound task df) := by
  have own : ownPackets inbound task df =
      (df.filter fun row => row.colTask inbound = some task).filter fun row => (row.colService inbound).isSome := by
    unfold ownPackets
    rw [List.filter_filter]
    congr 1
    funext row
    simp only [Bool.decide_and, Bool.decide_eq_true, Bool.and_comm]
  rw [own, ← sumOf_lengths, ← sumOf_groupSum]
  unfold sumOf trafficOf
  rw [List.map_map]
  rfl

theorem sumOf_flatten {reader : ReportDataRedisReader} {inbound : Bool} {tasks : List String}
    {results : List (Option (List TrafficRow))} (built : List.Forall₂ (reader.TaskTraffic inbound) tasks results) :
    sumOf TrafficRow.len (results.filterMap id).flatten = (tasks.map (reader.taskTraffic inbound)).sum := by
  induction built with
  | nil => rfl
  | @cons task result tasks results here _ ih =>
    obtain ⟨df, extended, rfl⟩ := here
    rw [List.map_cons, List.sum_cons, ← ih]
    unfold ReportDataRedisReader.taskTraffic
    rw [extended]
    cases df with
    | none => exact (zero_add _).symm
    | some df =>
      simp only [← sumOf_trafficOf, ← sumOf_append]
      rfl

end Rows

section Cells

variable {df : List TrafficRow}

def TrafficRow.kilobytes (row : TrafficRow) : Rat := row.len / 1024

theorem getTraffic_eq (nodup : (df.map TrafficRow.cell).Nodup) (service task : String) : getTraffic df service task =
    .ok (sumOf TrafficRow.kilobytes (groupOf TrafficRow.service (groupOf TrafficRow.task df task) service)) := by
  have same : groupOf TrafficRow.service (groupOf TrafficRow.task df task) service =
      df.filter fun row => row.service = service ∧ row.task = task := by
    unfold groupOf
    rw [List.filter_filter]
    congr 1
    funext row
    simp only [Bool.decide_and]
  obtain ⟨traffic, found⟩ := returns_getTraffic nodup service task
  rw [same, found]
  unfold getTraffic at found
  split at found
  case h_1 none =>
    cases found
    rw [none, sumOf_nil]
  case h_2 row one =>
    cases found
    rw [one, sumOf_cons, sumOf_nil, add_zero, TrafficRow.kilobytes]
  case h_3 => cases found

theorem heatmapZ_eq (nodup : (df.map TrafficRow.cell).Nodup) : heatmapZ df = .ok
    ((sortedNames (df.map TrafficRow.task)).map fun task => (sortedNames (df.map TrafficRow.service)).map fun service =>
      sumOf TrafficRow.kilobytes (groupOf TrafficRow.service (groupOf TrafficRow.task df task) service)) := by
  refine mapM_ok_iff.mpr (List.forall₂_map_right_iff.mpr (List.forall₂_same.mpr fun task _ => ?_))
  refine mapM_ok_iff.mpr (List.forall₂_map_right_iff.mpr (List.forall₂_same.mpr fun service _ => ?_))
  exact getTraffic_eq nodup service task

theorem sumOf_kilobytes (df : List TrafficRow) :
    sumOf TrafficRow.kilobytes df * 1024 = (sumOf TrafficRow.len df : Int) := by
  induction df with
  | nil => rw [sumOf_nil, sumOf_nil, zero_mul, Int.cast_zero]
  | cons row rest ih =>
    rw [sumOf_cons, sumOf_cons, add_mul, ih, TrafficRow.kilobytes, Int.cast_add, div_mul_cancel₀ _ (by norm_num)]

/-- Every row is in one cell. -/
theorem sum_heatmapZ {cells : List (List Rat)} (nodup : (df.map TrafficRow.cell).Nodup)
    (made : heatmapZ df = .ok cells) :
    cells.flatten.sum * 1024 = (sumOf TrafficRow.len df : Int) := by
  rw [heatmapZ_eq nodup, Except.ok.injEq] at made
  have whole : cells.flatten.sum = sumOf TrafficRow.kilobytes df := by
    rw [← made, List.sum_flatten, List.map_map]
    exact sum_table (nodup_sortedNames _) (nodup_sortedNames _)
      (fun row member => mem_sortedNames.mpr (List.mem_map_of_mem (f := TrafficRow.task) member))
      (fun row member => mem_sortedNames.mpr (List.mem_map_of_mem (f := TrafficRow.service) member))
  rw [whole, sumOf_kilobytes]

theorem buildServiceTrafficFigure_cells {builder : ReportBuilder} {inbound : Bool} {cells : List (List Rat)}
    (made : builder.reader.getServiceTrafficDf inbound = .ok (some df)) (given : df ≠ [])
    (drawn : heatmapZ df = .ok cells) :
    ∃ figure, builder.buildServiceTrafficFigure inbound = .ok (some figure) ∧ figure.cells = cells := by
  unfold heatmapZ at drawn
  unfold ReportBuilder.buildServiceTrafficFigure
  simp only [made]
  change ∃ figure, (if df.isEmpty = true then _ else _) = _ ∧ _
  rw [if_neg (by simpa using given)]
  rw [drawn]
  exact ⟨_, rfl, rfl⟩

end Cells

theorem sortedNames_eq_nil {names : List String} : sortedNames names = [] ↔ names = [] := by
  simp only [List.eq_nil_iff_forall_not_mem, mem_sortedNames]

theorem trafficOf_eq_nil {inbound : Bool} {task : String} {df : List ExtendedRow} :
    trafficOf inbound task df = [] ↔ ownPackets inbound task df = [] := by
  unfold trafficOf ownPackets
  rw [List.map_eq_nil_iff, ← List.map_eq_nil_iff (f := Prod.fst), keys_groupSum, sortedNames_eq_nil,
    List.map_eq_nil_iff, List.filterMap_eq_nil_iff, List.filter_eq_nil_iff]
  simp only [List.mem_filter, decide_eq_true_eq, Option.map_eq_none_iff, Option.isSome_iff_ne_none, ne_eq, not_and,
    not_not, and_imp]

theorem flatten_eq_nil {reader : ReportDataRedisReader} {inbound : Bool} {tasks : List String}
    {results : List (Option (List TrafficRow))} (built : List.Forall₂ (reader.TaskTraffic inbound) tasks results) :
    (results.filterMap id).flatten = [] ↔
      ∀ task ∈ tasks, ∀ df, reader.getExtendedPacketDf task = .ok (some df) → ownPackets inbound task df = [] := by
  induction built with
  | nil => simp
  | cons here _ ih =>
    obtain ⟨df, extended, rfl⟩ := here
    rw [List.forall_mem_cons, ← ih, extended]
    cases df with
    | none => simp
    | some df => simp [trafficOf_eq_nil]

/-- When the extended packet frames can be built, the traffic is found, there is a frame when some
task has packets, it has rows when some packet counts, and it conserves the traffic. -/
theorem serviceTraffic_conserved (reader : ReportDataRedisReader) (inbound : Bool)
    (built : ∀ task ∈ reader.tasks, Returns (reader.getExtendedPacketDf task)) :
    ∃ found, reader.getServiceTrafficDf inbound = .ok found ∧
      (found.isSome = true ↔ ∃ task ∈ reader.tasks, reader.HasPackets task) ∧
      (found.getD [] = [] ↔
        ∀ task ∈ reader.tasks, ∀ df, reader.getExtendedPacketDf task = .ok (some df) → ownPackets inbound task df = []) ∧
      (found.getD [] = [] → reader.ownTraffic inbound = 0) ∧
      ∀ df ∈ found, TrafficConserved reader inbound df := by
  obtain ⟨found, made⟩ := ReportDataRedisReader.returns_getServiceTrafficDf.mpr built
  obtain ⟨results, each, same⟩ := ReportDataRedisReader.getServiceTrafficDf_ok made
  have rows : found.getD [] = (results.filterMap id).flatten := by
    rw [same]
    split
    case isTrue none => rw [List.isEmpty_iff.mp none]; rfl
    case isFalse => rfl
  have total : sumOf TrafficRow.len (found.getD []) = reader.ownTraffic inbound := by
    rw [rows, sumOf_flatten each]
    rfl
  refine ⟨found, made, ?_, rows ▸ flatten_eq_nil each, ?_, ?_⟩
  · rw [ReportDataRedisReader.isSome_getServiceTrafficDf made]
    exact exists_congr fun task => and_congr_right fun member => (hasPackets_iff (built task member)).symm
  · intro empty
    rw [← total, empty]
    rfl
  · intro df isFound
    rw [Option.mem_def] at isFound
    rw [isFound] at made total
    have nodup := ReportDataRedisReader.nodup_cells made
    constructor
    case single => exact nodup
    case asserted =>
      intro service task raised
      rw [getTraffic_eq nodup] at raised
      cases raised
    case conserved =>
      intro given
      refine ⟨_, heatmapZ_eq nodup, ?_, ?_⟩
      · rw [sum_heatmapZ nodup (heatmapZ_eq nodup), ← total]
        rfl
      · intro builder same
        exact buildServiceTrafficFigure_cells (same ▸ made) given (heatmapZ_eq nodup)

def clockClient : ReportDataRedisReader where
  redis := Redis.plain
  pandas := Pandas.plain
  covers := fun _ _ => true
  store :=
    let node := fun (time : Rat) (address service vip : String) =>
      { time, net := [("eth0", [⟨2, address⟩])], env := [("SERVICE_NAME", service)],
        serviceVips := some [("net", vip)] : NodeInfo }
    runWrites Redis.plain [.info "client.1" (node 5 "10.0.1.9" "client" "10.0.1.8"),
      .info "clock.1" (node 6 "10.0.1.6" "clock" "10.0.1.5"),
      .packets "client.1" "eth0" [⟨7, 90, "10.0.1.9", "10.0.1.5", "http", "tcp", none, some 80⟩]]

theorem clockClient_conserved : ∃ found, clockClient.getServiceTrafficDf true = .ok found ∧
    (found.isSome = true ↔ ∃ task ∈ clockClient.tasks, clockClient.HasPackets task) ∧
    (found.getD [] = [] ↔ ∀ task ∈ clockClient.tasks, ∀ df,
      clockClient.getExtendedPacketDf task = .ok (some df) → ownPackets true task df = []) ∧
    (found.getD [] = [] → clockClient.ownTraffic true = 0) ∧
    ∀ df ∈ found, TrafficConserved clockClient true df :=
  serviceTraffic_conserved clockClient true fun _ _ => returns_getExtendedPacketDf.mpr fun _ => by
    constructor <;> decide +kernel

end Wotemu
