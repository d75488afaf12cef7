import Mathlib.Data.List.Nodup
import Mathlib.Data.List.Perm.Subperm

/-! Sets of objects that compare equal when a key of theirs does.

Building such a set from a list keeps, of all the elements with one key, the
one that comes first.
-/

set_option autoImplicit false

namespace Wotemu.Foundation

variable {α κ : Type} [DecidableEq κ]

def distinctBy (key : α → κ) (items : List α) : List α :=
  items.eraseDupsBy (fun later earlier => key later == key earlier)

variable (key : α → κ)

@[simp] theorem distinctBy_nil : distinctBy key [] = [] := rfl

theorem distinctBy_cons (first : α) (rest : List α) :
    distinctBy key (first :: rest) =
      first :: distinctBy key (rest.filter (fun item => key item ≠ key first)) := by
  simp [distinctBy, List.eraseDupsBy_cons]

theorem find?_distinctBy (k : κ) (items : List α) :
    (distinctBy key items).find? (fun item => key item = k) = items.find? (fun item => key item = k) := by
  match items with
  | [] => rfl
  | first :: rest =>
    -- the recursive call is about the filtered rest, so it is justified by the length
    rw [distinctBy_cons]
    by_cases same : key first = k
    · simp [same]
    · rw [List.find?_cons_of_neg (by simpa using same), List.find?_cons_of_neg (by simpa using same),
        find?_distinctBy k (rest.filter _), List.find?_filter]
      congr 1
      funext item
      by_cases other : key item = k
      · simp [other, Ne.symm same]
      · simp [other]
termination_by items.length
decreasing_by exact Nat.lt_succ_of_le (List.length_filter_le _ _)

theorem mem_of_mem_distinctBy {items : List α} {item : α} (member : item ∈ distinctBy key items) :
    item ∈ items := by
  match items with
  | [] => simp at member
  | first :: rest =>
    rw [distinctBy_cons, List.mem_cons] at member
    rcases member with same | member
    · exact same ▸ List.mem_cons_self
    · exact List.mem_cons_of_mem _ (List.mem_of_mem_filter (mem_of_mem_distinctBy member))
termination_by items.length
decreasing_by exact Nat.lt_succ_of_le (List.length_filter_le _ _)

theorem nodup_map_distinctBy (items : List α) : ((distinctBy key items).map key).Nodup := by
  match items with
  | [] => simp
  | first :: rest =>
    rw [distinctBy_cons, List.map_cons, List.nodup_cons]
    refine ⟨?_, nodup_map_distinctBy _⟩
    intro member
    obtain ⟨item, member, same⟩ := List.mem_map.mp member
    have different := (List.mem_filter.mp (mem_of_mem_distinctBy key member)).2
    simp [same] at different
termination_by items.length
decreasing_by exact Nat.lt_succ_of_le (List.length_filter_le _ _)

/-- The elements kept are the first-listed ones of their key. -/
theorem mem_distinctBy {items : List α} {item : α} :
    item ∈ distinctBy key items ↔ items.find? (fun other => key other = key item) = some item := by
  rw [← find?_distinctBy]
  constructor
  · intro member
    obtain ⟨found, same⟩ := Option.isSome_iff_exists.mp
      (List.find?_isSome.mpr ⟨item, member, by simp⟩ :
        ((distinctBy key items).find? (fun other => key other = key item)).isSome)
    have sameKey : key found = key item := by simpa using List.find?_some same
    rw [same, List.inj_on_of_nodup_map (nodup_map_distinctBy key items)
      (List.mem_of_find?_eq_some same) member sameKey]
  · exact List.mem_of_find?_eq_some

theorem exists_kept {items : List α} {item : α} (member : item ∈ items) :
    ∃ kept ∈ distinctBy key items, key kept = key item := by
  obtain ⟨kept, found⟩ := Option.isSome_iff_exists.mp
    (List.find?_isSome.mpr ⟨item, member, by simp⟩ :
      (items.find? (fun other => key other = key item)).isSome)
  have sameKey : key kept = key item := by simpa using List.find?_some found
  exact ⟨kept, (mem_distinctBy key).mpr (by rw [sameKey]; exact found), sameKey⟩

@[simp] theorem mem_map_distinctBy {items : List α} {k : κ} :
    k ∈ (distinctBy key items).map key ↔ k ∈ items.map key := by
  constructor
  · intro member
    obtain ⟨item, member, same⟩ := List.mem_map.mp member
    exact List.mem_map.mpr ⟨item, mem_of_mem_distinctBy key member, same⟩
  · intro member
    obtain ⟨item, itemMember, rfl⟩ := List.mem_map.mp member
    obtain ⟨kept, keptMember, same⟩ := exists_kept key itemMember
    exact List.mem_map.mpr ⟨kept, keptMember, same⟩

theorem mem_distinctBy_of_injOn {items : List α} {item : α}
    (injective : ∀ a ∈ items, ∀ b ∈ items, key a = key b → a = b) :
    item ∈ distinctBy key items ↔ item ∈ items := by
  refine ⟨mem_of_mem_distinctBy key, fun member => ?_⟩
  obtain ⟨kept, keptMember, same⟩ := exists_kept key member
  exact injective _ (mem_of_mem_distinctBy key keptMember) _ member same ▸ keptMember

omit [DecidableEq κ] in
@[simp] theorem mem_distinctBy_id [DecidableEq α] {items : List α} {item : α} :
    item ∈ distinctBy id items ↔ item ∈ items :=
  mem_distinctBy_of_injOn id fun _ _ _ _ same => same

theorem distinctBy_of_nodup {items : List α} (nodup : (items.map key).Nodup) :
    distinctBy key items = items := by
  induction items with
  | nil => rfl
  | cons first rest ih =>
    rw [List.map_cons, List.nodup_cons] at nodup
    have untouched : rest.filter (fun item => key item ≠ key first) = rest := by
      rw [List.filter_eq_self]
      intro item member
      have different : key item ≠ key first := fun same => nodup.1 (List.mem_map.mpr ⟨item, member, same⟩)
      simpa using different
    rw [distinctBy_cons, untouched, ih nodup.2]

/-- `len(set(items)) == len(items)` says that no two elements are equal. -/
theorem length_distinctBy_eq_iff (items : List α) :
    (distinctBy key items).length = items.length ↔ (items.map key).Nodup := by
  constructor
  · intro sameLength
    have nodup := nodup_map_distinctBy key items
    -- a part of the list that is as long as the list is a rearrangement of it
    have part : (distinctBy key items).Subperm items :=
      List.subperm_of_subset (List.Nodup.of_map key nodup) fun _ member => mem_of_mem_distinctBy key member
    exact ((part.perm_of_length_le (Nat.le_of_eq sameLength.symm)).map key).nodup_iff.mp nodup
  · intro nodup
    rw [distinctBy_of_nodup key nodup]

theorem distinctBy_append_of_subset {items more : List α}
    (present : ∀ item ∈ more, key item ∈ items.map key) :
    distinctBy key (items ++ more) = distinctBy key items := by
  match items with
  | [] =>
    cases more with
    | nil => rfl
    | cons item rest => simpa using present item List.mem_cons_self
  | first :: rest =>
    -- the key of the first element leaves both lists, so what is left of `more` is present in the rest
    rw [List.cons_append, distinctBy_cons, distinctBy_cons, List.filter_append,
      distinctBy_append_of_subset]
    intro item member
    obtain ⟨member, different⟩ := List.mem_filter.mp member
    have different : key item ≠ key first := by simpa using different
    obtain ⟨other, otherMember, same⟩ := List.mem_map.mp (present item member)
    rcases List.mem_cons.mp otherMember with rfl | otherMember
    · exact absurd same.symm different
    · refine List.mem_map.mpr ⟨other, List.mem_filter.mpr ⟨otherMember, ?_⟩, same⟩
      simpa [same] using different
termination_by items.length
decreasing_by exact Nat.lt_succ_of_le (List.length_filter_le _ _)

end Wotemu.Foundation
