import Wotemu.Foundation.Value

/-! Values with the owners of their lists and dictionaries.

What matters about the identity of an object is who else can see a change to
it: it is made by the running call, supplied by a caller, or at module level. A
program records the owner of every dictionary that it changes in place.
-/

set_option autoImplicit false

namespace Wotemu.Foundation

inductive Owner where
  | made
  | supplied
  | base
  deriving DecidableEq, Repr

inductive Obj where
  | atom (value : Value)
  | list (owner : Owner) (items : List Obj)
  | dict (owner : Owner) (entries : List (String × Obj))

namespace Obj

mutual
def ofValue (owner : Owner) : Value → Obj
  | .list items => list owner (ofItems owner items)
  | .dict entries => dict owner (ofEntries owner entries)
  | value => atom value
def ofItems (owner : Owner) : List Value → List Obj
  | [] => []
  | item :: rest => ofValue owner item :: ofItems owner rest
def ofEntries (owner : Owner) : List (String × Value) → List (String × Obj)
  | [] => []
  | (key, value) :: rest => (key, ofValue owner value) :: ofEntries owner rest
end

mutual
def deepcopy : Obj → Obj
  | atom value => atom value
  | list _ items => list .made (deepcopyItems items)
  | dict _ entries => dict .made (deepcopyEntries entries)
def deepcopyItems : List Obj → List Obj
  | [] => []
  | item :: rest => deepcopy item :: deepcopyItems rest
def deepcopyEntries : List (String × Obj) → List (String × Obj)
  | [] => []
  | (key, value) :: rest => (key, deepcopy value) :: deepcopyEntries rest
end

/-- `obj.get(key)` -/
def get (obj : Obj) (key : String) : Option Obj :=
  match obj with
  | dict _ entries => Dict.value? entries key
  | _ => none

/-! The deep merge changes the dictionaries of the base. The keys of the other dictionary are
distinct, so each of them finds what the base held under it before. -/

mutual
def merge (base next : Obj) : Obj :=
  match next with
  | dict owner later => match base with
    | dict mine entries => dict mine (mergeEntries entries entries later)
    | _ => dict owner later
  | list owner later => match base with
    | list _ items => list .made (items ++ later)
    | _ => list owner later
  | later => later
def mergeEntries (before entries later : List (String × Obj)) : List (String × Obj) :=
  match later with
  | [] => entries
  | (key, value) :: rest =>
    let merged := match Dict.value? before key with
      | some old => merge old value
      | none => value
    mergeEntries before (Dict.assign entries key merged) rest
end

mutual
def mergeWrites (base next : Obj) : List Owner :=
  match next with
  | dict _ later => match base with
    | dict mine entries => mergeEntriesWrites mine entries later
    | _ => []
  | _ => []
def mergeEntriesWrites (mine : Owner) (before later : List (String × Obj)) : List Owner :=
  match later with
  | [] => []
  | (key, value) :: rest =>
    let inner := match Dict.value? before key with
      | some old => mergeWrites old value
      | none => []
    inner ++ mine :: mergeEntriesWrites mine before rest
end

/-- Every dictionary that a merge can reach was made by the call. -/
inductive Made : Obj → Prop where
  | atom (value : Value) : Made (atom value)
  | list (owner : Owner) (items : List Obj) : Made (list owner items)
  | dict {entries : List (String × Obj)} (each : ∀ entry ∈ entries, Made entry.2) : Made (dict .made entries)

/-- An object that is changed in place only if it is a dictionary of the call. -/
def Safe (obj : Obj) : Prop := ∀ owner entries, obj = dict owner entries → owner = .made

theorem Made.safe {obj : Obj} (made : Made obj) : Safe obj := by
  intro owner entries same
  cases made with
  | atom | list => cases same
  | dict each =>
    cases same
    rfl

mutual
theorem made_ofValue (value : Value) : Made (ofValue .made value) := by
  cases value with
  | list items => exact .list _ _
  | dict entries => exact .dict (made_ofEntries entries)
  | none | bool | int | float | str => exact .atom _
theorem made_ofEntries (entries : List (String × Value)) : ∀ entry ∈ ofEntries .made entries, Made entry.2 := by
  cases entries with
  | nil => simp [ofEntries]
  | cons first rest =>
    intro entry member
    cases List.mem_cons.mp member with
    | inl same => exact same ▸ made_ofValue first.2
    | inr later => exact made_ofEntries rest entry later
end

mutual
theorem made_deepcopy (obj : Obj) : Made (deepcopy obj) := by
  cases obj with
  | atom value => exact .atom _
  | list owner items => exact .list _ _
  | dict owner entries => exact .dict (made_deepcopyEntries entries)
theorem made_deepcopyEntries (entries : List (String × Obj)) :
    ∀ entry ∈ deepcopyEntries entries, Made entry.2 := by
  cases entries with
  | nil => simp [deepcopyEntries]
  | cons first rest =>
    intro entry member
    cases List.mem_cons.mp member with
    | inl same => exact same ▸ made_deepcopy first.2
    | inr later => exact made_deepcopyEntries rest entry later
end

mutual
theorem mergeWrites_made {base : Obj} (made : Made base) (next : Obj) :
    ∀ owner ∈ mergeWrites base next, owner = .made := by
  cases next with
  | atom | list => simp [mergeWrites]
  | dict other later =>
    cases made with
    | atom | list => simp [mergeWrites]
    | dict each =>
      rw [mergeWrites]
      exact mergeEntriesWrites_made each later
theorem mergeEntriesWrites_made {before : List (String × Obj)} (each : ∀ entry ∈ before, Made entry.2)
    (later : List (String × Obj)) : ∀ owner ∈ mergeEntriesWrites .made before later, owner = .made := by
  cases later with
  | nil => simp [mergeEntriesWrites]
  | cons first rest =>
    obtain ⟨key, value⟩ := first
    intro owner member
    rw [mergeEntriesWrites] at member
    cases List.mem_append.mp member with
    | inl inner =>
      cases found : Dict.value? before key with
      | none =>
        rw [found] at inner
        cases inner
      | some old =>
        rw [found] at inner
        exact mergeWrites_made (each _ (Dict.mem_of_value? found)) value owner inner
    | inr outer =>
      cases List.mem_cons.mp outer with
      | inl same => exact same
      | inr others => exact mergeEntriesWrites_made each rest owner others
end

mutual
theorem made_merge {base next : Obj} (made : Made base) (madeNext : Made next) : Made (merge base next) := by
  cases madeNext with
  | atom value =>
    simp only [merge]
    exact .atom value
  | list owner later =>
    simp only [merge]
    split <;> exact .list _ _
  | dict eachNext =>
    cases made with
    | atom | list =>
      simp only [merge]
      exact .dict eachNext
    | dict each =>
      simp only [merge]
      exact .dict (made_mergeEntries each each eachNext)
theorem made_mergeEntries {before entries later : List (String × Obj)}
    (eachBefore : ∀ entry ∈ before, Made entry.2) (each : ∀ entry ∈ entries, Made entry.2)
    (eachLater : ∀ entry ∈ later, Made entry.2) :
    ∀ entry ∈ mergeEntries before entries later, Made entry.2 := by
  cases later with
  | nil =>
    rw [mergeEntries]
    exact each
  | cons first rest =>
    obtain ⟨key, value⟩ := first
    have madeValue : Made value := eachLater (key, value) (List.mem_cons_self ..)
    rw [mergeEntries]
    apply made_mergeEntries eachBefore
    · intro entry member
      cases Dict.eq_or_mem_of_mem_assign member with
      | inr old => exact each entry old
      | inl new =>
        subst new
        cases found : Dict.value? before key with
        | none => exact madeValue
        | some old => exact made_merge (eachBefore _ (Dict.mem_of_value? found)) madeValue
    · exact fun entry member => eachLater entry (List.mem_cons_of_mem _ member)
end

/-- What a merge leaves under a key is decided by the last entry with the key. -/
theorem value?_mergeEntries (before entries later : List (String × Obj)) (key : String) :
    Dict.value? (mergeEntries before entries later) key =
      ((Dict.value? later.reverse key).map fun value => match Dict.value? before key with
        | some old => merge old value
        | none => value).or (Dict.value? entries key) := by
  induction later generalizing entries with
  | nil =>
    rw [mergeEntries]
    simp
  | cons first rest ih =>
    obtain ⟨name, value⟩ := first
    rw [mergeEntries, ih, List.reverse_cons, Dict.value?_append, Dict.value?_cons, Dict.value?_assign]
    by_cases same : key = name
    · subst same
      cases Dict.value? rest.reverse key <;> simp
    · simp [same]

/-! The value that an object shows: what a copy of it is, whoever owned the parts. -/

def Shows (obj : Obj) (value : Value) : Prop := obj.deepcopy = ofValue .made value

def EntriesShow (entries : Dict String Obj) (values : Dict String Value) : Prop :=
  deepcopyEntries entries = ofEntries .made values

theorem deepcopyEntries_eq (entries : Dict String Obj) : deepcopyEntries entries = Dict.mapped deepcopy entries := by
  induction entries with
  | nil => rfl
  | cons entry rest ih =>
    rw [deepcopyEntries, ih]
    rfl

theorem ofEntries_eq (owner : Owner) (values : Dict String Value) :
    ofEntries owner values = Dict.mapped (ofValue owner) values := by
  induction values with
  | nil => rfl
  | cons entry rest ih =>
    rw [ofEntries, ih]
    rfl

mutual
theorem shows_ofValue (owner : Owner) (value : Value) : (ofValue owner value).Shows value := by
  cases value with
  | list items => exact congrArg (list .made) (shows_ofItems owner items)
  | dict entries => exact congrArg (dict .made) (entriesShow_ofEntries owner entries)
  | none | bool | int | float | str => rfl
theorem shows_ofItems (owner : Owner) (items : List Value) :
    deepcopyItems (ofItems owner items) = ofItems .made items := by
  cases items with
  | nil => rfl
  | cons first rest =>
    rw [ofItems, deepcopyItems, shows_ofValue owner first, shows_ofItems owner rest, ofItems]
theorem entriesShow_ofEntries (owner : Owner) (values : Dict String Value) :
    EntriesShow (ofEntries owner values) values := by
  cases values with
  | nil => rfl
  | cons first rest =>
    rw [EntriesShow, ofEntries, deepcopyEntries, shows_ofValue owner first.2, entriesShow_ofEntries owner rest,
      ofEntries]
end

theorem Shows.deepcopy {obj : Obj} {value : Value} (shown : obj.Shows value) : obj.deepcopy.Shows value := by
  rw [Shows] at shown
  rw [shown]
  exact shows_ofValue .made value

theorem EntriesShow.shows {entries : Dict String Obj} {values : Dict String Value} (shown : EntriesShow entries values)
    (owner : Owner) : (dict owner entries).Shows (.dict values) :=
  congrArg (dict .made) shown

theorem Shows.entries {obj : Obj} {values : Dict String Value} (shown : obj.Shows (.dict values)) :
    ∃ owner entries, obj = dict owner entries ∧ EntriesShow entries values := by
  cases obj with
  | atom | list => exact absurd shown Obj.noConfusion
  | dict owner entries => exact ⟨owner, entries, rfl, Obj.noConfusion shown fun _ same => same⟩

theorem Shows.eq_dict {owner : Owner} {entries : Dict String Obj} {value : Value}
    (shown : (dict owner entries).Shows value) : ∃ values, value = .dict values ∧ EntriesShow entries values := by
  cases value with
  | dict values => exact ⟨values, rfl, Obj.noConfusion shown fun _ same => same⟩
  | none | bool | int | float | str | list => exact absurd shown Obj.noConfusion

namespace EntriesShow

variable {entries later : Dict String Obj} {values others : Dict String Value}

theorem eq (shown : EntriesShow entries values) :
    Dict.mapped Obj.deepcopy entries = Dict.mapped (ofValue .made) values := by
  rw [← deepcopyEntries_eq, ← ofEntries_eq]
  exact shown

theorem of_eq (same : Dict.mapped Obj.deepcopy entries = Dict.mapped (ofValue .made) values) :
    EntriesShow entries values := by
  rw [EntriesShow, deepcopyEntries_eq, ofEntries_eq]
  exact same

theorem nil : EntriesShow [] [] := rfl

theorem cons {key : String} {obj : Obj} {value : Value} (first : obj.Shows value) (rest : EntriesShow later others) :
    EntriesShow ((key, obj) :: later) ((key, value) :: others) := by
  rw [EntriesShow, deepcopyEntries, first, rest, ofEntries]

theorem of_cons {key name : String} {obj : Obj} {value : Value}
    (shown : EntriesShow ((key, obj) :: later) ((name, value) :: others)) :
    key = name ∧ obj.Shows value ∧ EntriesShow later others := by
  rw [EntriesShow, deepcopyEntries, ofEntries, List.cons.injEq, Prod.mk.injEq] at shown
  exact ⟨shown.1.1, shown.1.2, shown.2⟩

theorem single (key : String) {obj : Obj} {value : Value} (shown : obj.Shows value) :
    EntriesShow [(key, obj)] [(key, value)] := .cons shown .nil

theorem value? (shown : EntriesShow entries values) (key : String) :
    Option.Rel Shows (Dict.value? entries key) (Dict.value? values key) := by
  have same := congrArg (Dict.value? · key) shown.eq
  simp only [Dict.value?_mapped] at same
  cases found : Dict.value? entries key with
  | none =>
    cases other : Dict.value? values key with
    | none => exact .none
    | some value => simp [found, other] at same
  | some obj =>
    cases other : Dict.value? values key with
    | none => simp [found, other] at same
    | some value =>
      rw [found, other] at same
      exact .some (Option.some.inj same)

theorem assign (shown : EntriesShow entries values) (key : String) {obj : Obj} {value : Value}
    (assigned : obj.Shows value) : EntriesShow (Dict.assign entries key obj) (Dict.assign values key value) := by
  apply of_eq
  rw [← Dict.assign_mapped, ← Dict.assign_mapped, shown.eq, assigned]

theorem update (shown : EntriesShow entries values) (updated : EntriesShow later others) :
    EntriesShow (Dict.update entries later) (Dict.update values others) := by
  apply of_eq
  rw [← Dict.update_mapped, ← Dict.update_mapped, shown.eq, updated.eq]

theorem isEmpty (shown : EntriesShow entries values) : entries.isEmpty = values.isEmpty := by
  have lengths := congrArg List.isEmpty shown.eq
  simpa [Dict.mapped] using lengths

end EntriesShow

/-! Merging shows the merge of the values, when the keys of what is merged in are distinct. -/

theorem deepcopyItems_append (items later : List Obj) :
    deepcopyItems (items ++ later) = deepcopyItems items ++ deepcopyItems later := by
  induction items with
  | nil => rfl
  | cons first rest ih => rw [List.cons_append, deepcopyItems, ih, deepcopyItems, List.cons_append]

theorem ofItems_append (owner : Owner) (items later : List Value) :
    ofItems owner (items ++ later) = ofItems owner items ++ ofItems owner later := by
  induction items with
  | nil => rfl
  | cons first rest ih => rw [List.cons_append, ofItems, ih, ofItems, List.cons_append]

theorem shows_merge_list {base : Obj} {value : Value} (shown : base.Shows value) {owner : Owner} {later : List Obj}
    {others : List Value} (shownLater : deepcopyItems later = ofItems .made others) :
    (merge base (list owner later)).Shows (value.merge (.list others)) := by
  cases base with
  | list mine items =>
    cases value with
    | list values =>
      have same : deepcopyItems items = ofItems .made values := Obj.noConfusion shown fun _ same => same
      simp only [merge, Value.merge]
      rw [Shows, deepcopy, ofValue, deepcopyItems_append, ofItems_append, same, shownLater]
    | none | bool | int | float | str | dict => exact absurd shown Obj.noConfusion
  | atom | dict =>
    cases value with
    | list values => exact absurd shown Obj.noConfusion
    | none | bool | int | float | str | dict =>
      simp only [merge, Value.merge]
      exact congrArg (list .made) shownLater

mutual
theorem shows_merge {base next : Obj} {value other : Value} (shown : base.Shows value) (shownNext : next.Shows other)
    (distinct : other.Distinct) : (merge base next).Shows (value.merge other) := by
  cases next with
  | atom found =>
    cases other with
    | list | dict => exact absurd shownNext Obj.noConfusion
    | none | bool | int | float | str =>
      simp only [merge, Value.merge]
      exact shownNext
  | list owner later =>
    cases other with
    | list others => exact shows_merge_list shown (Obj.noConfusion shownNext fun _ same => same)
    | none | bool | int | float | str | dict => exact absurd shownNext Obj.noConfusion
  | dict owner later =>
    obtain ⟨others, rfl, shownLater⟩ := shownNext.eq_dict
    cases base with
    | dict mine entries =>
      obtain ⟨values, rfl, shownEntries⟩ := shown.eq_dict
      simp only [merge, Value.merge]
      exact (entriesShow_mergeEntries shownEntries shownEntries shownLater distinct (fun _ _ => rfl)).shows mine
    | atom | list =>
      cases value with
      | dict values => exact absurd shown Obj.noConfusion
      | none | bool | int | float | str | list =>
        simp only [merge, Value.merge]
        exact shownNext
/-- No key that is still to come has been assigned to. -/
theorem entriesShow_mergeEntries {before entries later : Dict String Obj} {olds values others : Dict String Value}
    (shownBefore : EntriesShow before olds) (shown : EntriesShow entries values) (shownLater : EntriesShow later others)
    (distinct : (Value.dict others).Distinct)
    (unassigned : ∀ key ∈ Dict.keys others, Dict.value? values key = Dict.value? olds key) :
    EntriesShow (mergeEntries before entries later) (Value.mergeEntries values others) := by
  cases later with
  | nil =>
    cases others with
    | nil =>
      rw [mergeEntries, Value.mergeEntries]
      exact shown
    | cons other rest => cases shownLater
  | cons first rest =>
    cases others with
    | nil => cases shownLater
    | cons other others =>
      obtain ⟨key, obj⟩ := first
      obtain ⟨name, value⟩ := other
      obtain ⟨rfl, shownObj, shownRest⟩ := shownLater.of_cons
      obtain ⟨nodup, each⟩ := distinct.of_dict
      rw [Dict.keys_cons, List.nodup_cons] at nodup
      have shownMerged : (match Dict.value? before key with
          | some old => merge old obj
          | none => obj).Shows (match Dict.value? values key with
          | some old => old.merge value
          | none => value) := by
        have old := shownBefore.value? key
        rw [unassigned key List.mem_cons_self]
        generalize Dict.value? before key = found at old
        generalize Dict.value? olds key = held at old
        cases old with
        | none => exact shownObj
        | some shownOld => exact shows_merge shownOld shownObj (each _ List.mem_cons_self)
      rw [mergeEntries, Value.mergeEntries]
      apply entriesShow_mergeEntries shownBefore (shown.assign key shownMerged) shownRest
      · exact .dict nodup.2 fun entry member => each entry (List.mem_cons_of_mem _ member)
      · intro other member
        have different : other ≠ key := fun same => nodup.1 (same ▸ member)
        rw [Dict.value?_assign_of_ne different]
        exact unassigned other (List.mem_cons_of_mem _ member)
end

end Obj

structure Merger where
  merge : Obj → Obj → Obj
  writes : Obj → Obj → List Owner

namespace Merger

/-- The deep merge changes the base and what the base holds, never the other object. Two
dictionaries become the first one with the entries of the second merged into its own; anything
that is not a dictionary replaces a dictionary. -/
structure IntoBase (merger : Merger) : Prop where
  writes : ∀ {base : Obj}, base.Made → ∀ next, ∀ owner ∈ merger.writes base next, owner = .made
  entries : ∀ owner entries other later, ∃ merged,
    merger.merge (.dict owner entries) (.dict other later) = .dict owner merged ∧
    ∀ key old, Dict.value? entries key = some old → ∃ new, Dict.value? merged key = some new ∧
      (new = old ∨ ∃ value, (key, value) ∈ later ∧ new = merger.merge old value)
  made : ∀ {base next : Obj}, base.Made → next.Made → (merger.merge base next).Made
  replaced : ∀ owner entries next, (∀ other later, next ≠ .dict other later) →
    merger.merge (.dict owner entries) next = next

variable {merger : Merger} (deep : merger.IntoBase)

include deep in
/-- A dictionary that is merged with anything stays the same object or gives way to no dictionary. -/
theorem IntoBase.safe (entries : List (String × Obj)) (next : Obj) :
    (merger.merge (.dict .made entries) next).Safe := by
  intro owner others same
  cases next with
  | atom value =>
    rw [deep.replaced .made entries (.atom value) (fun _ _ => Obj.noConfusion)] at same
    cases same
  | list other items =>
    rw [deep.replaced .made entries (.list other items) (fun _ _ => Obj.noConfusion)] at same
    cases same
  | dict other later =>
    obtain ⟨merged, equation, _⟩ := deep.entries .made entries other later
    rw [equation] at same
    cases same
    rfl

/-- `always_merger` on values with owners. -/
def always : Merger where
  merge := Obj.merge
  writes := Obj.mergeWrites

theorem always_intoBase : always.IntoBase where
  writes := Obj.mergeWrites_made
  entries := by
    intro owner entries other later
    refine ⟨Obj.mergeEntries entries entries later, by simp only [always, Obj.merge], ?_⟩
    intro key old found
    rw [Obj.value?_mergeEntries, found]
    cases last : Dict.value? later.reverse key with
    | none => exact ⟨old, by simp, Or.inl rfl⟩
    | some value =>
      have member := List.mem_reverse.mp (Dict.mem_of_value? last)
      exact ⟨old.merge value, by simp, Or.inr ⟨value, member, rfl⟩⟩
  made := Obj.made_merge
  replaced := by
    intro owner entries next different
    cases next with
    | atom | list => simp only [always, Obj.merge]
    | dict other later => exact absurd rfl (different other later)

def Merges (merger : Merger) (merge : Dict String Value → Dict String Value → Dict String Value) : Prop :=
  ∀ ⦃base next : Obj⦄ ⦃values others : Dict String Value⦄, base.Shows (.dict values) → next.Shows (.dict others) →
    (Value.dict others).Distinct → (merger.merge base next).Shows (.dict (merge values others))

theorem always_merges : always.Merges Value.mergeEntries := by
  intro base next values others shown shownNext distinct
  have merged := Obj.shows_merge shown shownNext distinct
  simp only [Value.merge] at merged
  exact merged

end Merger

end Wotemu.Foundation
