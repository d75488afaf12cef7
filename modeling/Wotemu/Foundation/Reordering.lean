import Wotemu.Foundation.Merging

/-! Values that are equal up to an order that carries no meaning.

Dictionaries compare without the order of their keys. Under some names a list
may also have its items in another order, and a merge keeps two dictionaries
alike that differ in no other way.
-/

set_option autoImplicit false

namespace Wotemu.Foundation

/-- Equality of values, as the language compares lists and dictionaries. -/
inductive Value.Same : Value → Value → Prop where
  | refl (value : Value) : Same value value
  | list {items others : List Value} (length : items.length = others.length)
      (each : ∀ pair ∈ items.zip others, Same pair.1 pair.2) : Same (.list items) (.list others)
  | dict {entries others : Dict String Value} (keys : ∀ key, key ∈ Dict.keys entries ↔ key ∈ Dict.keys others)
      (each : ∀ key value other, Dict.value? entries key = some value → Dict.value? others key = some other →
        Same value other) : Same (.dict entries) (.dict others)

theorem Value.Same.str_eq {s t : String} (same : Same (.str s) (.str t)) : s = t := by
  cases same
  rfl

theorem Value.Same.zip {items others : List Value} (same : Same (.list items) (.list others)) :
    ∀ pair ∈ items.zip others, Same pair.1 pair.2 := by
  cases same with
  | refl =>
    intro pair member
    rw [List.zip_eq_zipWith, List.zipWith_self] at member
    obtain ⟨item, -, rfl⟩ := List.mem_map.mp member
    exact .refl item
  | list _ each => exact each

def Value.SameItems (value other : Value) : Prop :=
  ∃ items sorted, value = .list items ∧ items.Perm sorted ∧ Same (.list sorted) other

def Dict.Related {ν : Type} (rel : String → ν → ν → Prop) (d e : Dict String ν) : Prop :=
  ∀ key, (Dict.value? d key = none ∧ Dict.value? e key = none) ∨
    ∃ value other, Dict.value? d key = some value ∧ Dict.value? e key = some other ∧ rel key value other

namespace Dict.Related

variable {ν : Type} {rel : String → ν → ν → Prop} {d e : Dict String ν}

theorem refl (reflexive : ∀ key value, rel key value value) (d : Dict String ν) : Related rel d d := by
  intro key
  cases found : Dict.value? d key with
  | none => exact Or.inl ⟨rfl, rfl⟩
  | some value => exact Or.inr ⟨value, value, rfl, rfl, reflexive key value⟩

theorem imp {other : String → ν → ν → Prop} (implies : ∀ key a b, rel key a b → other key a b)
    (related : Related rel d e) : Related other d e := by
  intro key
  cases related key with
  | inl absent => exact Or.inl absent
  | inr present =>
    obtain ⟨a, b, left, right, same⟩ := present
    exact Or.inr ⟨a, b, left, right, implies key a b same⟩

theorem assign (related : Related rel d e) {key : String} {value other : ν} (same : rel key value other) :
    Related rel (Dict.assign d key value) (Dict.assign e key other) := by
  intro name
  rw [Dict.value?_assign, Dict.value?_assign]
  by_cases here : name = key
  · rw [if_pos here, if_pos here, here]
    exact Or.inr ⟨value, other, rfl, rfl, same⟩
  · rw [if_neg here, if_neg here]
    exact related name

end Dict.Related

namespace Value

/-- The same value, except that a list under a name with a free order may be permuted. -/
def Reordered (free : String → Prop) (key : String) (value other : Value) : Prop :=
  value = other ∨ free key ∧ ∃ items others, value = list items ∧ other = list others ∧ items.Perm others

namespace Reordered

variable {free : String → Prop} {d e : Dict String Value}

theorem refl (key : String) (value : Value) : Reordered free key value value := Or.inl rfl

theorem merge {key : String} {value other : Value} (reordered : Reordered free key value other) (next : Value) :
    Reordered free key (value.merge next) (other.merge next) := by
  cases reordered with
  | inl same => exact same ▸ refl key _
  | inr permuted =>
    obtain ⟨isFree, items, others, rfl, rfl, perm⟩ := permuted
    cases next with
    | list more => exact Or.inr ⟨isFree, items ++ more, others ++ more, by simp only [Value.merge],
        by simp only [Value.merge], perm.append_right more⟩
    | none | bool | int | float | str | dict =>
      simp only [Value.merge]
      exact refl key _

theorem mergedEntry (related : Dict.Related (Reordered free) d e) (key : String) (value : Value) :
    Reordered free key (Value.mergedEntry d key value) (Value.mergedEntry e key value) := by
  unfold Value.mergedEntry
  cases related key with
  | inl absent =>
    rw [absent.1, absent.2]
    exact refl key value
  | inr present =>
    obtain ⟨old, other, left, right, same⟩ := present
    rw [left, right]
    exact same.merge value

theorem mergeEntries (related : Dict.Related (Reordered free) d e) (later : Dict String Value) :
    Dict.Related (Reordered free) (Value.mergeEntries d later) (Value.mergeEntries e later) := by
  induction later generalizing d e with
  | nil => exact related
  | cons entry rest ih =>
    rw [mergeEntries_cons, mergeEntries_cons]
    exact ih (related.assign (mergedEntry related entry.1 entry.2))

theorem value?_eq (related : Dict.Related (Reordered free) d e) {key : String} (fixed : ¬ free key) :
    Dict.value? d key = Dict.value? e key := by
  cases related key with
  | inl absent => exact absent.1.trans absent.2.symm
  | inr present =>
    obtain ⟨value, other, left, right, same⟩ := present
    rw [left, right, same.resolve_right fun permuted => fixed permuted.1]

theorem same_or_items {key : String} {value other : Value} (reordered : Reordered free key value other) :
    value.Same other ∨ free key ∧ value.SameItems other := by
  cases reordered with
  | inl same => exact Or.inl (same ▸ .refl value)
  | inr permuted =>
    obtain ⟨isFree, items, others, rfl, rfl, perm⟩ := permuted
    exact Or.inr ⟨isFree, items, others, rfl, perm, .refl _⟩

end Reordered

end Value

end Wotemu.Foundation
