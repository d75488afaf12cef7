import Mathlib.Data.List.Nodup
import Mathlib.Data.List.Perm.Subperm

/-! Dictionaries that remember the order in which their keys were inserted.

Assigning to a present key keeps its position, as in Python. A lookup after a
series of updates is decided by the last entry written under the key.
-/

set_option autoImplicit false

namespace Wotemu.Foundation

abbrev Dict (κ ν : Type) := List (κ × ν)

namespace Dict

variable {κ ν : Type}

def keys (d : Dict κ ν) : List κ := d.map Prod.fst

@[simp] theorem keys_cons (entry : κ × ν) (d : Dict κ ν) :
    keys (entry :: d) = entry.1 :: keys d := rfl

variable [DecidableEq κ]

def value? (d : Dict κ ν) (key : κ) : Option ν := d.lookup key

def assign (d : Dict κ ν) (key : κ) (value : ν) : Dict κ ν :=
  match d with
  | [] => [(key, value)]
  | (k, v) :: rest => if k = key then (k, value) :: rest else (k, v) :: assign rest key value

def update (d other : Dict κ ν) : Dict κ ν :=
  other.foldl (fun acc entry => acc.assign entry.1 entry.2) d

@[simp] theorem value?_nil (key : κ) : value? ([] : Dict κ ν) key = none := rfl

theorem value?_cons (entry : κ × ν) (d : Dict κ ν) (key : κ) :
    value? (entry :: d) key = if key = entry.1 then some entry.2 else value? d key := by
  obtain ⟨k, v⟩ := entry
  by_cases same : key = k
  · simp [value?, same]
  · simp [value?, List.lookup_cons, beq_false_of_ne same, same]

theorem value?_append (d other : Dict κ ν) (key : κ) :
    value? (d ++ other) key = (value? d key).or (value? other key) :=
  List.lookup_append

theorem value?_isSome (d : Dict κ ν) (key : κ) : (value? d key).isSome ↔ key ∈ keys d := by
  induction d with
  | nil => simp [keys]
  | cons entry rest ih =>
    rw [value?_cons]
    by_cases same : key = entry.1
    · simp [same]
    · simp [same, ih]

theorem value?_eq_none (d : Dict κ ν) (key : κ) : value? d key = none ↔ key ∉ keys d := by
  rw [← value?_isSome, ← Option.isSome_iff_ne_none.not_left, Bool.not_eq_true]

theorem exists_value?_of_mem {d : Dict κ ν} {key : κ} (member : key ∈ keys d) :
    ∃ value, value? d key = some value :=
  Option.isSome_iff_exists.mp ((value?_isSome d key).mpr member)

theorem value?_assign (d : Dict κ ν) (key other : κ) (value : ν) :
    value? (assign d key value) other = if other = key then some value else value? d other := by
  induction d with
  | nil => simp [assign, value?_cons]
  | cons entry rest ih =>
    obtain ⟨k, v⟩ := entry
    by_cases here : k = key
    · subst here
      by_cases same : other = k <;> simp [assign, value?_cons, same]
    · by_cases same : other = k
      · subst same
        simp [assign, value?_cons, here]
      · simp [assign, value?_cons, here, same, ih]

@[simp] theorem value?_assign_self (d : Dict κ ν) (key : κ) (value : ν) :
    value? (assign d key value) key = some value := by
  simp [value?_assign]

theorem value?_assign_of_ne {d : Dict κ ν} {key other : κ} {value : ν} (different : other ≠ key) :
    value? (assign d key value) other = value? d other := by
  simp [value?_assign, different]

theorem keys_assign (d : Dict κ ν) (key : κ) (value : ν) :
    keys (assign d key value) = if key ∈ keys d then keys d else keys d ++ [key] := by
  induction d with
  | nil => simp [assign, keys]
  | cons entry rest ih =>
    obtain ⟨k, v⟩ := entry
    by_cases here : k = key
    · simp [assign, here]
    · by_cases inside : key ∈ keys rest
      · simp [assign, here, ih, inside]
      · simp [assign, here, ih, inside, Ne.symm here]

theorem mem_keys_assign {d : Dict κ ν} {key other : κ} {value : ν} :
    other ∈ keys (assign d key value) ↔ other ∈ keys d ∨ other = key := by
  rw [keys_assign]
  split
  · rename_i inside
    constructor
    · exact Or.inl
    · rintro (found | rfl)
      · exact found
      · exact inside
  · simp

theorem nodup_keys_assign {d : Dict κ ν} {key : κ} {value : ν} (nodup : (keys d).Nodup) :
    (keys (assign d key value)).Nodup := by
  rw [keys_assign]
  split
  · exact nodup
  · rename_i absent
    rw [List.nodup_append]
    refine ⟨nodup, by simp, ?_⟩
    intro first inside second last same
    exact absent ((same.trans (List.mem_singleton.mp last)) ▸ inside)

theorem nodup_keys_update {d other : Dict κ ν} (nodup : (keys d).Nodup) : (keys (update d other)).Nodup := by
  induction other generalizing d with
  | nil => exact nodup
  | cons entry rest ih => exact ih (nodup_keys_assign nodup)

@[simp] theorem update_nil (d : Dict κ ν) : update d [] = d := rfl

@[simp] theorem update_cons (d : Dict κ ν) (entry : κ × ν) (other : Dict κ ν) :
    update d (entry :: other) = update (assign d entry.1 entry.2) other := rfl

theorem assign_of_not_mem {d : Dict κ ν} {key : κ} (absent : key ∉ keys d) (value : ν) :
    assign d key value = d ++ [(key, value)] := by
  induction d with
  | nil => rfl
  | cons entry rest ih =>
    rw [keys_cons, List.mem_cons, not_or] at absent
    rw [assign, if_neg (Ne.symm absent.1), ih absent.2]
    rfl

theorem update_of_nodup {d other : Dict κ ν} (nodup : (keys (d ++ other)).Nodup) : update d other = d ++ other := by
  induction other generalizing d with
  | nil => exact (List.append_nil d).symm
  | cons entry rest ih =>
    have absent : entry.1 ∉ keys d := by
      rw [keys, List.map_append, List.nodup_append] at nodup
      intro member
      exact nodup.2.2 entry.1 member entry.1 List.mem_cons_self rfl
    have split : d ++ entry :: rest = d ++ [entry] ++ rest := by rw [List.append_assoc, List.singleton_append]
    rw [update_cons, assign_of_not_mem absent, ih (split ▸ nodup), split]

/-- The entry written last under the key wins; without one the old value stays. -/
theorem value?_update (d other : Dict κ ν) (key : κ) :
    value? (update d other) key = (value? other.reverse key).or (value? d key) := by
  -- reversing puts the entry that is written last in front of the lookup
  induction other generalizing d with
  | nil => simp
  | cons entry rest ih =>
    rw [update_cons, ih, List.reverse_cons, value?_append, value?_cons, value?_assign, Option.or_assoc]
    by_cases same : key = entry.1 <;> simp [same]

theorem value?_of_mem {d : Dict κ ν} (nodup : (keys d).Nodup) {key : κ} {value : ν} (member : (key, value) ∈ d) :
    value? d key = some value := by
  induction d with
  | nil => cases member
  | cons entry rest ih =>
    rw [keys_cons, List.nodup_cons] at nodup
    rw [value?_cons]
    cases List.mem_cons.mp member with
    | inl here => simp [← here]
    | inr later =>
      have different : key ≠ entry.1 := by
        intro same
        exact nodup.1 (same ▸ List.mem_map_of_mem later)
      rw [if_neg different]
      exact ih nodup.2 later

theorem value?_update_of_mem {d other : Dict κ ν} (nodup : (keys other).Nodup) {key : κ} {value : ν}
    (member : (key, value) ∈ other) : value? (update d other) key = some value := by
  have reversed : (keys other.reverse).Nodup := by
    rw [keys, List.map_reverse]
    exact List.pairwise_reverse.mpr (nodup.imp Ne.symm)
  rw [value?_update, value?_of_mem reversed (List.mem_reverse.mpr member), Option.some_or]

theorem mem_of_value? {d : Dict κ ν} {key : κ} {value : ν} (found : value? d key = some value) : (key, value) ∈ d := by
  obtain ⟨before, behind, rfl, -⟩ := List.lookup_eq_some_iff.mp found
  simp

section Mapped

variable {μ : Type} (f : ν → μ) (d : Dict κ ν)

def mapped : Dict κ μ := d.map fun entry => (entry.1, f entry.2)

theorem value?_mapped (key : κ) : value? (mapped f d) key = (value? d key).map f := by
  induction d with
  | nil => rfl
  | cons entry rest ih =>
    change value? ((entry.1, f entry.2) :: mapped f rest) key = _
    rw [value?_cons, value?_cons, ih]
    split <;> rfl

theorem assign_mapped (key : κ) (value : ν) : assign (mapped f d) key (f value) = mapped f (assign d key value) := by
  induction d with
  | nil => rfl
  | cons entry rest ih =>
    change assign ((entry.1, f entry.2) :: mapped f rest) key (f value) = _
    rw [assign, assign, ih]
    split <;> rfl

theorem update_mapped (later : Dict κ ν) : update (mapped f d) (mapped f later) = mapped f (update d later) := by
  induction later generalizing d with
  | nil => rfl
  | cons entry rest ih =>
    change update (assign (mapped f d) entry.1 (f entry.2)) (mapped f rest) = _
    rw [assign_mapped, ih]
    rfl

end Mapped

theorem eq_or_mem_of_mem_assign {d : Dict κ ν} {key : κ} {value : ν} {entry : κ × ν}
    (member : entry ∈ assign d key value) : entry = (key, value) ∨ entry ∈ d := by
  induction d with
  | nil => exact Or.inl (List.mem_singleton.mp member)
  | cons first rest ih =>
    rw [assign] at member
    split at member
    · rename_i here
      cases List.mem_cons.mp member with
      | inl same => exact Or.inl (same.trans (congrArg (·, value) here))
      | inr later => exact Or.inr (List.mem_cons_of_mem _ later)
    · cases List.mem_cons.mp member with
      | inl same => exact Or.inr (same ▸ List.mem_cons_self)
      | inr later => exact (ih later).imp id (List.mem_cons_of_mem _)

theorem mem_of_mem_update {d other : Dict κ ν} {entry : κ × ν} (member : entry ∈ update d other) :
    entry ∈ d ∨ entry ∈ other := by
  induction other generalizing d with
  | nil => exact Or.inl member
  | cons first rest ih =>
    cases ih member with
    | inl before =>
      rcases eq_or_mem_of_mem_assign before with same | old
      · exact Or.inr (same ▸ List.mem_cons_self)
      · exact Or.inl old
    | inr later => exact Or.inr (List.mem_cons_of_mem _ later)

theorem value?_eq_of_subset {items others : Dict κ ν} (distinct : (keys items).Nodup)
    (otherDistinct : (keys others).Nodup) (size : items.length = others.length) (subset : items ⊆ others)
    (key : κ) : value? items key = value? others key := by
  have nodup : items.Nodup := List.Nodup.of_map Prod.fst distinct
  have perm : items.Perm others := (List.subperm_of_subset nodup subset).perm_of_length_le (Nat.le_of_eq size.symm)
  cases found : value? items key with
  | some value => exact (value?_of_mem otherDistinct (subset (mem_of_value? found))).symm
  | none =>
    rw [value?_eq_none] at found
    exact ((value?_eq_none _ _).mpr fun member => found ((perm.map Prod.fst).mem_iff.mpr member)).symm

theorem value?_update_of_keyed {d other : Dict κ ν} {valueOf : κ → ν}
    (keyed : ∀ entry ∈ other, entry.2 = valueOf entry.1) {key : κ} (member : key ∈ keys other) :
    value? (update d other) key = some (valueOf key) := by
  have reversed : key ∈ keys other.reverse := by
    rw [keys, List.map_reverse]
    exact List.mem_reverse.mpr member
  obtain ⟨value, found⟩ := exists_value?_of_mem reversed
  have same : value = valueOf key := keyed (key, value) (List.mem_reverse.mp (mem_of_value? found))
  rw [value?_update, found, Option.some_or, same]

theorem value?_update_of_not_mem {d other : Dict κ ν} {key : κ} (absent : key ∉ keys other) :
    value? (update d other) key = value? d key := by
  have none : value? other.reverse key = none := by
    rw [value?_eq_none]
    simpa [keys] using absent
  simp [value?_update, none]

theorem mem_keys_update (d other : Dict κ ν) (key : κ) :
    key ∈ keys (update d other) ↔ key ∈ keys d ∨ key ∈ keys other := by
  rw [← value?_isSome, value?_update, Option.isSome_or, Bool.or_eq_true, value?_isSome, value?_isSome]
  simp [keys, or_comm]

theorem mem_update_nil_iff {other : Dict κ ν} {entry : κ × ν}
    (keyed : ∀ first ∈ other, ∀ second ∈ other, first.1 = second.1 → first = second) :
    entry ∈ update [] other ↔ entry ∈ other := by
  constructor
  · exact fun member => (mem_of_mem_update member).resolve_left List.not_mem_nil
  · intro member
    have isKey : entry.1 ∈ keys (update [] other) :=
      (mem_keys_update [] other entry.1).mpr (.inr (List.mem_map_of_mem member))
    obtain ⟨found, kept, same⟩ := List.mem_map.mp isKey
    have isEntry := (mem_of_mem_update kept).resolve_left List.not_mem_nil
    rw [← keyed found isEntry entry member same]
    exact kept

end Dict

end Wotemu.Foundation
