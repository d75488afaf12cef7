import Wotemu.Foundation.Dict

/-! Filling a dictionary from what a fallible generator returns for each item.

When every result holds one entry under the item's own key, the value found
under a key is the one generated for the last item with that key.
-/

set_option autoImplicit false

namespace Wotemu.Foundation

variable {α β κ ν ε : Type} [DecidableEq κ]

def updateEach (generate : α → Except ε (Dict κ ν)) (items : List α) (d : Dict κ ν) :
    Except ε (Dict κ ν) :=
  items.foldlM (fun acc item => do return Dict.update acc (← generate item)) d

namespace UpdateEach

variable (generate : α → Except ε (Dict κ ν)) (d : Dict κ ν)

@[simp] theorem nil : updateEach generate [] d = .ok d := rfl

theorem cons (first : α) (rest : List α) :
    updateEach generate (first :: rest) d =
      (generate first).bind fun made => updateEach generate rest (Dict.update d made) := by
  unfold updateEach
  rw [List.foldlM_cons]
  cases generate first <;> rfl

theorem cons_ok {first : α} {rest : List α} {result : Dict κ ν} :
    updateEach generate (first :: rest) d = .ok result ↔
      ∃ entries, generate first = .ok entries ∧
        updateEach generate rest (Dict.update d entries) = .ok result := by
  rw [cons]
  cases generate first with
  | error why => simp [Except.bind]
  | ok entries => simp [Except.bind]

theorem append (first second : List α) :
    updateEach generate (first ++ second) d =
      (updateEach generate first d).bind fun acc => updateEach generate second acc := by
  unfold updateEach
  rw [List.foldlM_append]
  rfl

theorem map (f : β → α) (items : List β) :
    updateEach generate (items.map f) d = updateEach (fun item => generate (f item)) items d := by
  unfold updateEach
  rw [List.foldlM_map]

variable {generate}

theorem generates {items : List α} {d result : Dict κ ν}
    (made : updateEach generate items d = .ok result) {item : α} (member : item ∈ items) :
    ∃ entries, generate item = .ok entries := by
  induction items generalizing d with
  | nil => cases member
  | cons first rest ih =>
    obtain ⟨entries, generated, made⟩ := (cons_ok _ _).mp made
    rcases List.mem_cons.mp member with rfl | member
    · exact ⟨entries, generated⟩
    · exact ih made member

theorem exists_ok {items : List α} (generated : ∀ item ∈ items, ∃ entries, generate item = .ok entries)
    (d : Dict κ ν) : ∃ result, updateEach generate items d = .ok result := by
  induction items generalizing d with
  | nil => exact ⟨d, rfl⟩
  | cons first rest ih =>
    obtain ⟨entries, made⟩ := generated first List.mem_cons_self
    obtain ⟨result, later⟩ := ih (fun item member => generated item (List.mem_cons_of_mem _ member))
      (Dict.update d entries)
    exact ⟨result, (cons_ok _ _).mpr ⟨entries, made, later⟩⟩

theorem mem_keys {items : List α} {d result : Dict κ ν}
    (made : updateEach generate items d = .ok result) (key : κ) :
    key ∈ Dict.keys result ↔
      key ∈ Dict.keys d ∨ ∃ item ∈ items, ∃ entries, generate item = .ok entries ∧ key ∈ Dict.keys entries := by
  induction items generalizing d with
  | nil =>
    cases made
    simp
  | cons first rest ih =>
    obtain ⟨entries, generated, made⟩ := (cons_ok _ _).mp made
    rw [ih made, Dict.mem_keys_update]
    simp [generated, or_assoc]

theorem nodup_keys {items : List α} {d result : Dict κ ν} (made : updateEach generate items d = .ok result)
    (nodup : (Dict.keys d).Nodup) : (Dict.keys result).Nodup := by
  induction items generalizing d with
  | nil =>
    cases made
    exact nodup
  | cons first rest ih =>
    obtain ⟨entries, _, made⟩ := (cons_ok _ _).mp made
    exact ih made (Dict.nodup_keys_update nodup)

def last (keyOf : α → κ) (key : κ) (items : List α) : Option α :=
  items.reverse.find? fun item => keyOf item = key

theorem last_key {keyOf : α → κ} {key : κ} {items : List α} {item : α}
    (found : last keyOf key items = some item) : keyOf item = key ∧ item ∈ items :=
  ⟨by simpa using List.find?_some found, by simpa using List.mem_of_find?_eq_some found⟩

theorem last_of_mem {keyOf : α → κ} {key : κ} {items : List α} {item : α} (member : item ∈ items)
    (same : keyOf item = key) : ∃ owner, last keyOf key items = some owner :=
  Option.isSome_iff_exists.mp (List.find?_isSome.mpr ⟨item, by simpa using member, by simpa using same⟩)

theorem last_cons (keyOf : α → κ) (key : κ) (first : α) (rest : List α) :
    last keyOf key (first :: rest) =
      (last keyOf key rest).or (if keyOf first = key then some first else none) := by
  by_cases same : keyOf first = key <;> simp [last, List.find?_append, same]

theorem last_append (keyOf : α → κ) (key : κ) (first second : List α) :
    last keyOf key (first ++ second) = (last keyOf key second).or (last keyOf key first) := by
  simp [last, List.find?_append]

theorem last_eq_none {keyOf : α → κ} {key : κ} {items : List α} :
    last keyOf key items = none ↔ ∀ item ∈ items, keyOf item ≠ key := by
  simp [last]

theorem last_of_injOn {keyOf : α → κ} {items : List α} {item : α} (member : item ∈ items)
    (injective : ∀ other ∈ items, keyOf other = keyOf item → other = item) :
    last keyOf (keyOf item) items = some item := by
  obtain ⟨owner, found⟩ := last_of_mem member (rfl : keyOf item = keyOf item)
  obtain ⟨same, ownerMember⟩ := last_key found
  rw [found, injective owner ownerMember same]

theorem last_congr {keyOf : α → κ} {key : κ} {items others : List α} (same : ∀ item, item ∈ items ↔ item ∈ others)
    (injective : ∀ item ∈ items, ∀ other ∈ items, keyOf item = keyOf other → item = other) :
    last keyOf key items = last keyOf key others := by
  cases found : last keyOf key items with
  | none =>
    symm
    rw [last_eq_none] at found ⊢
    exact fun item member => found item ((same item).mpr member)
  | some item =>
    obtain ⟨here, member⟩ := last_key found
    subst here
    symm
    apply last_of_injOn ((same item).mp member)
    exact fun other otherMember sameKey => injective other ((same other).mpr otherMember) item member sameKey

section Keyed

variable {valueOf : κ → ν} {items : List α} {d result : Dict κ ν} {key : κ}
  (keyed : ∀ item entries, generate item = .ok entries → ∀ entry ∈ entries, entry.2 = valueOf entry.1)

include keyed

/-- When the key of an entry decides its value, the order of the items does not matter. -/
theorem value?_of_keyed (made : updateEach generate items d = .ok result)
    (present : ∃ item ∈ items, ∃ entries, generate item = .ok entries ∧ key ∈ Dict.keys entries) :
    Dict.value? result key = some (valueOf key) := by
  -- the value stays once it is there
  have stays : ∀ (items : List α) (d : Dict κ ν), updateEach generate items d = .ok result →
      Dict.value? d key = some (valueOf key) → Dict.value? result key = some (valueOf key) := by
    intro items
    induction items with
    | nil =>
      intro d made found
      cases made
      exact found
    | cons first rest ih =>
      intro d made found
      obtain ⟨entries, generated, made⟩ := (cons_ok _ _).mp made
      apply ih _ made
      by_cases inside : key ∈ Dict.keys entries
      · exact Dict.value?_update_of_keyed (keyed first entries generated) inside
      · rw [Dict.value?_update_of_not_mem inside, found]
  induction items generalizing d with
  | nil =>
    obtain ⟨item, member, -⟩ := present
    cases member
  | cons first rest ih =>
    obtain ⟨entries, generated, restMade⟩ := (cons_ok _ _).mp made
    obtain ⟨item, member, others, itemGenerated, inside⟩ := present
    cases List.mem_cons.mp member with
    | inl here =>
      rw [here, generated] at itemGenerated
      cases itemGenerated
      exact stays rest _ restMade (Dict.value?_update_of_keyed (keyed first entries generated) inside)
    | inr later => exact ih restMade ⟨item, later, others, itemGenerated, inside⟩

end Keyed

theorem value?_of_absent {items : List α} {d result : Dict κ ν} {key : κ}
    (made : updateEach generate items d = .ok result)
    (absent : ∀ item ∈ items, ∀ entries, generate item = .ok entries → key ∉ Dict.keys entries) :
    Dict.value? result key = Dict.value? d key := by
  induction items generalizing d with
  | nil =>
    cases made
    rfl
  | cons first rest ih =>
    obtain ⟨entries, generated, made⟩ := (cons_ok _ _).mp made
    rw [ih made fun item member => absent item (List.mem_cons_of_mem _ member),
      Dict.value?_update_of_not_mem (absent first List.mem_cons_self entries generated)]

variable {keyOf : α → κ}
  (single : ∀ item entries, generate item = .ok entries → ∃ value, entries = [(keyOf item, value)])

include single

theorem value?_of_last_none {items : List α} {d result : Dict κ ν} {key : κ}
    (made : updateEach generate items d = .ok result) (absent : last keyOf key items = none) :
    Dict.value? result key = Dict.value? d key := by
  induction items generalizing d with
  | nil => cases made; rfl
  | cons first rest ih =>
    rw [last_cons, Option.or_eq_none_iff] at absent
    obtain ⟨entries, generated, made⟩ := (cons_ok _ _).mp made
    obtain ⟨value, rfl⟩ := single first entries generated
    have other : keyOf first ≠ key := by simpa using absent.2
    rw [ih made absent.1, Dict.value?_update_of_not_mem (by simpa [Dict.keys] using Ne.symm other)]

/-- The last item with a key decides the value found under it. -/
theorem value?_of_last {items : List α} {d result : Dict κ ν} {key : κ} {owner : α}
    (made : updateEach generate items d = .ok result) (found : last keyOf key items = some owner) :
    ∃ value, generate owner = .ok [(key, value)] ∧ Dict.value? result key = some value := by
  induction items generalizing d with
  | nil => cases found
  | cons first rest ih =>
    rw [last_cons] at found
    obtain ⟨entries, generated, made⟩ := (cons_ok _ _).mp made
    obtain ⟨value, rfl⟩ := single first entries generated
    -- a later item with the key overwrites what the first one wrote
    cases later : last keyOf key rest with
    | some other =>
      rw [later] at found
      cases found
      exact ih made later
    | none =>
      rw [later, Option.none_or] at found
      split at found
      · rename_i same
        cases found
        subst same
        refine ⟨value, generated, ?_⟩
        rw [value?_of_last_none single made later]
        simp
      · cases found

theorem mem_keys_iff {items : List α} {result : Dict κ ν}
    (made : updateEach generate items [] = .ok result) (key : κ) :
    key ∈ Dict.keys result ↔ key ∈ items.map keyOf := by
  rw [mem_keys made, List.mem_map]
  constructor
  · rintro (absent | ⟨item, member, entries, generated, found⟩)
    · simp [Dict.keys] at absent
    · obtain ⟨value, rfl⟩ := single item entries generated
      exact ⟨item, member, by simpa [Dict.keys, eq_comm] using found⟩
  · rintro ⟨item, member, rfl⟩
    obtain ⟨entries, generated⟩ := generates made member
    obtain ⟨value, rfl⟩ := single item entries generated
    exact Or.inr ⟨item, member, _, generated, by simp [Dict.keys]⟩

end UpdateEach

end Wotemu.Foundation
