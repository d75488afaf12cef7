import Wotemu.Foundation.Value

/-! What a deep merge leaves under a key of the base: a dictionary that is merged
with dictionaries stays one, and a list that is merged with lists is continued. -/

set_option autoImplicit false

namespace Wotemu.Foundation.Value

variable {base later : Dict String Value} {key : String}

/-- The value that a merge stores for one entry. -/
def mergedEntry (base : Dict String Value) (key : String) (value : Value) : Value :=
  match Dict.value? base key with
  | some old => merge old value
  | Option.none => value

theorem mergeEntries_cons (name : String) (value : Value) (rest : Dict String Value) :
    mergeEntries base ((name, value) :: rest) =
      mergeEntries (Dict.assign base name (mergedEntry base name value)) rest := by
  rw [mergeEntries]
  rfl

/-- A dictionary stays one, and its names that no later dictionary has keep their values. -/
theorem value?_mergeEntries_dict {entries : Dict String Value}
    (found : Dict.value? base key = some (dict entries))
    (mapping : ∀ value, (key, value) ∈ later → ∃ more, value = dict more) :
    ∃ merged, Dict.value? (mergeEntries base later) key = some (dict merged) ∧
      ∀ name, (∀ more, (key, dict more) ∈ later → name ∉ Dict.keys more) →
        Dict.value? merged name = Dict.value? entries name := by
  induction later generalizing base entries with
  | nil => exact ⟨entries, found, fun _ _ => rfl⟩
  | cons entry rest ih =>
    obtain ⟨other, value⟩ := entry
    have mappings : ∀ value, (key, value) ∈ rest → ∃ more, value = dict more :=
      fun value member => mapping value (List.mem_cons_of_mem _ member)
    rw [mergeEntries_cons]
    by_cases same : key = other
    · subst same
      obtain ⟨more, rfl⟩ := mapping value List.mem_cons_self
      have now : mergedEntry base key (dict more) = dict (mergeEntries entries more) := by
        rw [mergedEntry, found]
        simp only [merge]
      obtain ⟨merged, made, kept⟩ := ih ((Dict.value?_assign_self _ _ _).trans (congrArg some now)) mappings
      refine ⟨merged, made, fun name absent => ?_⟩
      rw [kept name fun others member => absent others (List.mem_cons_of_mem _ member),
        mergeEntries_frame (absent more List.mem_cons_self)]
    · obtain ⟨merged, made, kept⟩ := ih ((Dict.value?_assign_of_ne same).trans found) mappings
      exact ⟨merged, made, fun name absent =>
        kept name fun others member => absent others (List.mem_cons_of_mem _ member)⟩

theorem value?_mergeEntries_list {items : List Value}
    (found : Dict.value? base key = some (list items))
    (lists : ∀ value, (key, value) ∈ later → ∃ more, value = list more) :
    ∃ more, Dict.value? (mergeEntries base later) key = some (list (items ++ more)) := by
  induction later generalizing base items with
  | nil => exact ⟨[], by rw [List.append_nil]; exact found⟩
  | cons entry rest ih =>
    obtain ⟨other, value⟩ := entry
    have others : ∀ value, (key, value) ∈ rest → ∃ more, value = list more :=
      fun value member => lists value (List.mem_cons_of_mem _ member)
    rw [mergeEntries_cons]
    by_cases same : key = other
    · subst same
      obtain ⟨first, rfl⟩ := lists value List.mem_cons_self
      have now : mergedEntry base key (list first) = list (items ++ first) := by
        rw [mergedEntry, found]
        simp only [merge]
      obtain ⟨more, made⟩ := ih ((Dict.value?_assign_self _ _ _).trans (congrArg some now)) others
      exact ⟨first ++ more, by rw [← List.append_assoc]; exact made⟩
    · exact ih ((Dict.value?_assign_of_ne same).trans found) others

end Wotemu.Foundation.Value
