import Mathlib.Algebra.BigOperators.Group.List.Basic
import Mathlib.Data.List.Nodup

/-! Sums over rows that are grouped by keys.

A row is in the group of its key only, so the sums of the groups add up to the
sum of all rows when every key has a group of its own. The same holds for the
cells of a table with a column and a line for each of two keys.
-/

set_option autoImplicit false

namespace Wotemu.Foundation

variable {α κ μ M : Type} [DecidableEq κ] [DecidableEq μ] [AddCommMonoid M]

def groupOf (key : α → κ) (rows : List α) (k : κ) : List α := rows.filter fun row => key row = k

def sumOf (value : α → M) (rows : List α) : M := (rows.map value).sum

variable {key : α → κ} {value : α → M} {rows : List α} {keys : List κ}

@[simp] theorem sumOf_nil : sumOf value [] = 0 := rfl

@[simp] theorem sumOf_cons (row : α) : sumOf value (row :: rows) = value row + sumOf value rows := by
  unfold sumOf
  rw [List.map_cons, List.sum_cons]

theorem sumOf_append (others : List α) : sumOf value (rows ++ others) = sumOf value rows + sumOf value others := by
  unfold sumOf
  rw [List.map_append, List.sum_append]

theorem sumOf_groupOf_cons (row : α) (k : κ) : sumOf value (groupOf key (row :: rows) k) =
    (if key row = k then value row else 0) + sumOf value (groupOf key rows k) := by
  unfold groupOf
  by_cases same : key row = k
  · rw [List.filter_cons_of_pos (by simpa using same), sumOf_cons, if_pos same]
  · rw [List.filter_cons_of_neg (by simpa using same), if_neg same, zero_add]

theorem sum_indicator (distinct : keys.Nodup) {k : κ} (member : k ∈ keys) (amount : M) :
    (keys.map fun other => if k = other then amount else 0).sum = amount := by
  rw [List.sum_map_eq_nsmul_single k _ fun other differs _ => if_neg differs.symm, if_pos rfl,
    List.count_eq_one_of_mem distinct member, one_nsmul]

/-- The groups add up to the whole. -/
theorem sum_groups (distinct : keys.Nodup) (covered : ∀ row ∈ rows, key row ∈ keys) :
    (keys.map fun k => sumOf value (groupOf key rows k)).sum = sumOf value rows := by
  induction rows with
  | nil => exact List.sum_eq_zero (by simp [groupOf])
  | cons row rest ih =>
    have here := sum_indicator distinct (covered row List.mem_cons_self) (value row)
    have later := ih fun other member => covered other (List.mem_cons_of_mem _ member)
    simp only [sumOf_groupOf_cons, sumOf_cons]
    rw [List.sum_map_add, here, later]

theorem sum_table {column : α → μ} {columns : List μ} (distinct : keys.Nodup) (distinctColumns : columns.Nodup)
    (covered : ∀ row ∈ rows, key row ∈ keys) (coveredColumns : ∀ row ∈ rows, column row ∈ columns) :
    (keys.map fun k => (columns.map fun c => sumOf value (groupOf column (groupOf key rows k) c)).sum).sum =
      sumOf value rows := by
  rw [← sum_groups distinct covered]
  congr 1
  refine List.map_congr_left fun k _ => sum_groups distinctColumns fun row member => ?_
  exact coveredColumns row (List.mem_filter.mp member).1

end Wotemu.Foundation
