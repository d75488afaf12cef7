import Mathlib.Data.List.Nodup
import Mathlib.Order.Defs.PartialOrder

/-! Lists that keep the latest item of each key.

Writing an item takes out the first item with its key and appends the new one.
-/

set_option autoImplicit false

namespace Wotemu.Foundation

namespace Latest

variable {α κ τ : Type} [DecidableEq κ] (key : α → κ)

def find (items : List α) (wanted : κ) : Option α := items.find? (key · = wanted)

def replace (items : List α) (item : α) : List α := items.eraseP (key · = key item) ++ [item]

variable {key}

theorem map_eraseP (items : List α) (wanted : κ) :
    (items.eraseP (key · = wanted)).map key = (items.map key).erase wanted := by
  induction items with
  | nil => rfl
  | cons item items ih =>
    by_cases same : key item = wanted
    · simp [same]
    · simp [same, ih]

theorem nodup_replace {items : List α} (nodup : (items.map key).Nodup) (item : α) :
    ((replace key items item).map key).Nodup := by
  rw [replace, List.map_append, map_eraseP, List.map_singleton]
  refine List.nodup_append'.mpr ⟨nodup.erase (key item), List.nodup_singleton _, fun wanted member isNew => ?_⟩
  cases List.mem_singleton.mp isNew
  exact nodup.not_mem_erase member

theorem find_replace {items : List α} (nodup : (items.map key).Nodup) (item : α) (wanted : κ) :
    find key (replace key items item) wanted = if key item = wanted then some item else find key items wanted := by
  unfold find replace
  induction items with
  | nil => by_cases same : key item = wanted <;> simp [same]
  | cons first items ih =>
    obtain ⟨fresh, nodup⟩ := List.nodup_cons.mp nodup
    by_cases replaced : key first = key item
    -- the replaced item is the only one of its key
    · have absent : items.find? (key · = key item) = none := by
        refine List.find?_eq_none.mpr fun other member same => fresh (List.mem_map.mpr ⟨other, member, ?_⟩)
        exact (of_decide_eq_true same).trans replaced.symm
      by_cases same : key item = wanted
      · subst same
        simp [replaced, List.find?_append, absent]
      · simp [replaced, List.find?_append, same]
    · by_cases here : key first = wanted
      · subst here
        simp [replaced, Ne.symm replaced]
      · simpa [replaced, here] using ih nodup

/-- Each item that is written has at least the stamp of the item it replaces. -/
def Rises [LE τ] (key : α → κ) (stamp : α → τ) : List α → List α → Prop
  | _, [] => True
  | items, item :: rest =>
    (∀ old, find key items (key item) = some old → stamp old ≤ stamp item) ∧
      Rises key stamp (replace key items item) rest

/-- Each write rises exactly when the items of one key are written in the order of their stamps. -/
theorem rises_iff [Preorder τ] (stamp : α → τ) {items : List α} (nodup : (items.map key).Nodup) (written : List α) :
    Rises key stamp items written ↔
      written.Pairwise (fun earlier later => key earlier = key later → stamp earlier ≤ stamp later) ∧
      ∀ item ∈ written, ∀ old, find key items (key item) = some old → stamp old ≤ stamp item := by
  induction written generalizing items with
  | nil => simp [Rises]
  | cons item rest ih =>
    rw [Rises, ih (nodup_replace nodup item), List.pairwise_cons, List.forall_mem_cons]
    have stored (later : α) (old : α) : find key (replace key items item) (key later) = some old ↔
        if key item = key later then item = old else find key items (key later) = some old := by
      rw [find_replace nodup]
      split
      · exact Option.some_inj
      · exact Iff.rfl
    -- a later item of the same key replaces this one, which replaced the stored one
    constructor
    · rintro ⟨first, ordered, above⟩
      have newer : ∀ later ∈ rest, key item = key later → stamp item ≤ stamp later := fun later member same =>
        above later member item ((stored later item).mpr (by rw [if_pos same]))
      refine ⟨⟨newer, ordered⟩, first, fun later member old found => ?_⟩
      by_cases same : key item = key later
      · exact le_trans (first old (same ▸ found)) (newer later member same)
      · exact above later member old ((stored later old).mpr (by rwa [if_neg same]))
    · rintro ⟨⟨before, ordered⟩, first, above⟩
      refine ⟨first, ordered, fun later member old found => ?_⟩
      have found := (stored later old).mp found
      split at found
      case isTrue same =>
        subst found
        exact before later member same
      case isFalse other => exact above later member old found

end Latest

end Wotemu.Foundation
