import Mathlib.Data.String.Basic
import Wotemu.Foundation.Yaml

/-! Documents whose dictionaries have their keys in order, as YAML writes them.

Sorting is stable, so a lookup finds what it found before, also in a list of
entries that repeats a key.
-/

set_option autoImplicit false

namespace Wotemu.Foundation

section Lookups

variable {κ ν : Type} [LinearOrder κ]

def Dict.sorted (d : Dict κ ν) : Dict κ ν := d.mergeSort fun left right => left.1 ≤ right.1

theorem Dict.filter_sorted (d : Dict κ ν) (key : κ) :
    (Dict.sorted d).filter (·.1 = key) = d.filter (·.1 = key) := by
  have equal : (d.filter (·.1 = key)).Pairwise fun left right => decide (left.1 ≤ right.1) = true := by
    rw [List.pairwise_filter]
    refine List.pairwise_of_forall fun left right isLeft isRight => ?_
    simp only [decide_eq_true_eq] at isLeft isRight ⊢
    exact (isLeft.trans isRight.symm).le
  have inside : (d.filter (·.1 = key)).Sublist (Dict.sorted d) := by
    apply List.sublist_mergeSort _ _ equal List.filter_sublist
    · intro a b c
      simpa using le_trans
    · intro a b
      simpa using le_total a.1 b.1
  have kept := inside.filter (fun entry => decide (entry.1 = key))
  rw [List.filter_filter] at kept
  simp only [Bool.and_self] at kept
  have size := ((List.mergeSort_perm d fun left right => decide (left.1 ≤ right.1)).filter
    fun entry => decide (entry.1 = key)).length_eq
  exact (kept.eq_of_length size.symm).symm

theorem Dict.value?_sorted (d : Dict κ ν) (key : κ) : Dict.value? (Dict.sorted d) key = Dict.value? d key := by
  have first : ∀ entries : Dict κ ν, Dict.value? entries key = ((entries.filter (·.1 = key)).head?).map Prod.snd := by
    intro entries
    induction entries with
    | nil => rfl
    | cons entry rest ih =>
      rw [Dict.value?_cons, ih]
      by_cases here : entry.1 = key
      · simp [here]
      · simp [here, Ne.symm here]
  rw [first, first, Dict.filter_sorted]

omit [LinearOrder κ] in
theorem Dict.value?_map {μ : Type} [DecidableEq κ] (f : ν → μ) (d : Dict κ ν) (key : κ) :
    Dict.value? (d.map fun entry => (entry.1, f entry.2)) key = (Dict.value? d key).map f := by
  induction d with
  | nil => rfl
  | cons entry rest ih =>
    rw [List.map_cons, Dict.value?_cons, Dict.value?_cons, ih]
    split <;> rfl

theorem Dict.sorted_pairwise (d : Dict κ ν) :
    (Dict.sorted d).Pairwise fun left right => decide (left.1 ≤ right.1) = true := by
  apply List.pairwise_mergeSort
  · intro a b c
    simpa using le_trans
  · intro a b
    simpa using le_total a.1 b.1

theorem Dict.sorted_sorted (d : Dict κ ν) : Dict.sorted (Dict.sorted d) = Dict.sorted d :=
  List.mergeSort_of_pairwise (Dict.sorted_pairwise d)

theorem Dict.map_sorted {μ : Type} (f : ν → μ) (d : Dict κ ν) :
    (Dict.sorted d).map (fun entry => (entry.1, f entry.2)) = Dict.sorted (d.map fun entry => (entry.1, f entry.2)) :=
  List.map_mergeSort fun _ _ _ _ => rfl

end Lookups

namespace Value

mutual
def sortKeys : Value → Value
  | none => none
  | bool b => bool b
  | int n => int n
  | float repr => float repr
  | str s => str s
  | list items => list (sortItems items)
  | dict entries => dict (Dict.sorted (sortEntries entries))
def sortItems : List Value → List Value
  | [] => []
  | item :: rest => sortKeys item :: sortItems rest
def sortEntries : List (String × Value) → List (String × Value)
  | [] => []
  | (key, item) :: rest => (key, sortKeys item) :: sortEntries rest
end

theorem sortEntries_eq_map (entries : Dict String Value) :
    sortEntries entries = entries.map fun entry => (entry.1, sortKeys entry.2) := by
  induction entries with
  | nil => rfl
  | cons entry rest ih => rw [sortEntries, ih, List.map_cons]

theorem value?_sortEntries (entries : Dict String Value) (key : String) :
    Dict.value? (sortEntries entries) key = (Dict.value? entries key).map sortKeys := by
  rw [sortEntries_eq_map, Dict.value?_map]

mutual
theorem sortKeys_sortKeys : ∀ value : Value, sortKeys (sortKeys value) = sortKeys value
  | none | bool _ | int _ | float _ | str _ => rfl
  | list items => by rw [sortKeys, sortKeys, sortItems_sortItems items]
  | dict entries => by
    rw [sortKeys, sortKeys, sortEntries_eq_map (Dict.sorted _), Dict.map_sorted, ← sortEntries_eq_map,
      sortEntries_sortEntries entries, Dict.sorted_sorted]
theorem sortItems_sortItems : ∀ items : List Value, sortItems (sortItems items) = sortItems items
  | [] => rfl
  | item :: rest => by rw [sortItems, sortItems, sortKeys_sortKeys item, sortItems_sortItems rest]
theorem sortEntries_sortEntries : ∀ entries : List (String × Value),
    sortEntries (sortEntries entries) = sortEntries entries
  | [] => rfl
  | (key, item) :: rest => by rw [sortEntries, sortEntries, sortKeys_sortKeys item, sortEntries_sortEntries rest]
end

@[simp] theorem field_sortKeys (value : Value) (key : String) :
    (sortKeys value).field key = (value.field key).map sortKeys := by
  cases value with
  | dict entries => rw [sortKeys, field, Dict.value?_sorted, value?_sortEntries, field]
  | none | bool | int | float | str | list => rfl

end Value

namespace Yaml

theorem ofJsonEntries_eq_map (entries : Dict String Value) :
    ofJsonEntries entries = entries.map fun entry => (YamlKey.str entry.1, ofJson entry.2) := by
  induction entries with
  | nil => rfl
  | cons entry rest ih => rw [ofJsonEntries, ih, List.map_cons]

theorem value?_ofJsonEntries (entries : Dict String Value) (key : String) :
    Dict.value? (ofJsonEntries entries) (.str key) = (Dict.value? entries key).map ofJson := by
  rw [ofJsonEntries_eq_map]
  induction entries with
  | nil => rfl
  | cons entry rest ih =>
    rw [List.map_cons, Dict.value?_cons, Dict.value?_cons, ih]
    by_cases here : key = entry.1 <;> simp [here]

/-- What YAML loads from the text that it writes for a value. -/
def reloaded (value : Value) : Yaml := ofJson value.sortKeys

end Yaml

end Wotemu.Foundation
