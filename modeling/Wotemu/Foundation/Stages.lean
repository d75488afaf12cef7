import Mathlib.Data.List.Forall2
import Wotemu.Foundation.Updates
import Wotemu.Foundation.Value

/-! Whether a computation of several fallible stages returns.

Each stage returns under a condition of its own, and the whole under all of
them. A stage whose result the others need hands them what it returned.
-/

set_option autoImplicit false

namespace Wotemu.Foundation

variable {ε α β κ ν : Type}

def Returns (stage : Except ε α) : Prop := ∃ value, stage = .ok value

/-- Go on under a condition, and raise otherwise. -/
def require (condition : Bool) (why : ε) : Except ε Unit := if condition then .ok () else .error why

namespace Returns

@[simp] theorem ok (value : α) : Returns (ε := ε) (.ok value) := ⟨value, rfl⟩

@[simp] theorem pure (value : α) : Returns (Pure.pure value : Except ε α) := ⟨value, rfl⟩

@[simp] theorem error (why : ε) : ¬ Returns (.error why : Except ε α) := by
  rintro ⟨value, same⟩
  cases same

@[simp] theorem throw (why : ε) : ¬ Returns (MonadExcept.throw why : Except ε α) := Returns.error why

@[simp] theorem require_iff {condition : Bool} {why : ε} : Returns (require condition why) ↔ condition = true := by
  unfold require
  cases condition with
  | true => simp
  | false => simp

theorem bind_iff {stage : Except ε α} {rest : α → Except ε β} :
    Returns (stage >>= rest) ↔ ∃ value, stage = .ok value ∧ Returns (rest value) := by
  constructor
  · rintro ⟨result, made⟩
    obtain ⟨value, first, later⟩ := bind_ok made
    exact ⟨value, first, result, later⟩
  · rintro ⟨value, first, result, later⟩
    exact ⟨result, bind_ok_iff.mpr ⟨value, first, later⟩⟩

theorem bind_iff_and {stage : Except ε α} {rest : α → Except ε β} {condition : Prop}
    (later : ∀ value, stage = .ok value → (Returns (rest value) ↔ condition)) :
    Returns (stage >>= rest) ↔ Returns stage ∧ condition := by
  rw [bind_iff]
  constructor
  · rintro ⟨value, first, returns⟩
    exact ⟨⟨value, first⟩, (later value first).mp returns⟩
  · rintro ⟨⟨value, first⟩, holds⟩
    exact ⟨value, first, (later value first).mpr holds⟩

theorem bind_pure_iff {stage : Except ε α} {f : α → β} :
    Returns (stage >>= fun value => Pure.pure (f value)) ↔ Returns stage := by
  rw [bind_iff]
  constructor
  · rintro ⟨value, first, -⟩
    exact ⟨value, first⟩
  · rintro ⟨value, first⟩
    exact ⟨value, first, Returns.pure _⟩

theorem ite_iff {condition : Prop} [Decidable condition] {early rest : Except ε α} (returns : Returns early) :
    Returns (if condition then early else rest) ↔ (¬ condition → Returns rest) := by
  split
  · rename_i holds
    exact iff_of_true returns (fun absent => absurd holds absent)
  · rename_i absent
    exact ⟨fun later _ => later, fun later => later absent⟩

theorem mapM_iff {stage : α → Except ε β} {items : List α} :
    Returns (items.mapM stage) ↔ ∀ item ∈ items, Returns (stage item) := by
  induction items with
  | nil => exact iff_of_true ⟨[], rfl⟩ (by simp)
  | cons item rest ih =>
    rw [List.mapM_cons, bind_iff_and (fun _ _ => bind_pure_iff), ih, List.forall_mem_cons]

theorem updateEach_iff [DecidableEq κ] {generate : α → Except ε (Dict κ ν)} {items : List α} {d : Dict κ ν} :
    Returns (updateEach generate items d) ↔ ∀ item ∈ items, Returns (generate item) := by
  constructor
  · rintro ⟨result, made⟩ item member
    exact UpdateEach.generates made member
  · intro generated
    exact UpdateEach.exists_ok generated d

end Returns

theorem mapM_eq_map {stage : α → Except ε β} {f : α → β} {items : List α}
    (each : ∀ item ∈ items, stage item = .ok (f item)) : items.mapM stage = .ok (items.map f) := by
  induction items with
  | nil => rfl
  | cons first rest ih =>
    rw [List.mapM_cons, each first List.mem_cons_self, ih fun item member => each item (List.mem_cons_of_mem _ member)]
    rfl

section Tests

variable {test : α → Except ε Bool} {items : List α}

theorem findM?_ok_some {item : α} (found : items.findM? test = .ok (some item)) :
    item ∈ items ∧ test item = .ok true := by
  induction items with
  | nil => cases found
  | cons first rest ih =>
    obtain ⟨passes, tested, found⟩ := bind_ok found
    cases passes with
    | true =>
      cases found
      exact ⟨List.mem_cons_self, tested⟩
    | false =>
      obtain ⟨member, passes⟩ := ih found
      exact ⟨List.mem_cons_of_mem _ member, passes⟩

theorem mem_filterAuxM {before kept : List α} (made : items.filterAuxM test before = .ok kept) {item : α} :
    item ∈ kept ↔ item ∈ before ∨ item ∈ items ∧ test item = .ok true := by
  induction items generalizing before with
  | nil =>
    cases made
    simp
  | cons first rest ih =>
    obtain ⟨passes, tested, made⟩ := bind_ok made
    rw [ih made]
    cases passes with
    | true =>
      simp only [cond_true, List.mem_cons]
      constructor
      · rintro ((rfl | old) | ⟨later, holds⟩)
        · exact .inr ⟨.inl rfl, tested⟩
        · exact .inl old
        · exact .inr ⟨.inr later, holds⟩
      · rintro (old | ⟨rfl | later, holds⟩)
        · exact .inl (.inr old)
        · exact .inl (.inl rfl)
        · exact .inr ⟨later, holds⟩
    | false =>
      simp only [cond_false, List.mem_cons]
      refine or_congr_right ⟨fun ⟨later, holds⟩ => ⟨.inr later, holds⟩, ?_⟩
      rintro ⟨rfl | later, holds⟩
      · rw [tested] at holds
        cases holds
      · exact ⟨later, holds⟩

theorem mem_filterM {kept : List α} (made : items.filterM test = .ok kept) {item : α} :
    item ∈ kept ↔ item ∈ items ∧ test item = .ok true := by
  obtain ⟨reversed, searched, same⟩ := bind_ok made
  cases same
  rw [List.mem_reverse, mem_filterAuxM searched]
  simp

end Tests

section Positions

variable {R : α → β → Prop} {items : List α} {results : List β}

theorem forall₂_getElem? (all : List.Forall₂ R items results) {position : Nat} {item : α} {result : β}
    (isItem : items[position]? = some item) (isResult : results[position]? = some result) : R item result := by
  induction all generalizing position with
  | nil => cases isItem
  | cons here _ ih =>
    cases position with
    | zero =>
      cases isItem
      cases isResult
      exact here
    | succ position => exact ih isItem isResult

theorem exists_getElem?_of_forall₂ (all : List.Forall₂ R items results) {position : Nat} {item : α}
    (isItem : items[position]? = some item) : ∃ result, results[position]? = some result := by
  have inside := (List.getElem?_eq_some_iff.mp isItem).1
  exact ⟨_, List.getElem?_eq_getElem (all.length_eq ▸ inside)⟩

theorem exists_item_of_forall₂ (all : List.Forall₂ R items results) {result : β} (member : result ∈ results) :
    ∃ item ∈ items, R item result := by
  induction all with
  | nil => cases member
  | cons here _ ih =>
    cases List.mem_cons.mp member with
    | inl same => exact ⟨_, List.mem_cons_self, same ▸ here⟩
    | inr later =>
      obtain ⟨item, isItem, related⟩ := ih later
      exact ⟨item, List.mem_cons_of_mem _ isItem, related⟩

end Positions

/-- A stage with an optional result: it returns under a condition, and a value that it yields meets
the postcondition. -/
structure Yields (stage : Except ε (Option α)) (post : α → Prop) (condition : Prop) : Prop where
  returns : Returns stage ↔ condition
  yielded : ∀ value, stage = .ok (some value) → post value

namespace Yields

variable {post : α → Prop} {condition : Prop}

theorem nothing : Yields (Pure.pure none : Except ε (Option α)) post True where
  returns := iff_of_true (Returns.pure none) trivial
  yielded := by
    intro value same
    cases same

theorem single {value : α} (holds : post value) : Yields (Pure.pure (some value) : Except ε (Option α)) post True where
  returns := iff_of_true (Returns.pure _) trivial
  yielded := by
    intro other same
    cases same
    exact holds

theorem raises (why : ε) : Yields (throw why : Except ε (Option α)) post False where
  returns := iff_of_false (Returns.throw why) id
  yielded := by
    intro value same
    cases same

theorem orNothing {empty : Prop} [Decidable empty] {rest : Except ε (Option α)}
    (later : ¬ empty → Yields rest post condition) :
    Yields (if empty then Pure.pure none else rest) post (¬ empty → condition) := by
  split
  · rename_i holds
    constructor
    · exact iff_of_true (Returns.pure none) (fun absent => absurd holds absent)
    · exact nothing.yielded
  · rename_i absent
    have rule := later absent
    exact ⟨rule.returns.trans ⟨fun holds _ => holds, fun holds => holds absent⟩, rule.yielded⟩

theorem bind {stage : Except ε β} {rest : β → Except ε (Option α)}
    (later : ∀ value, stage = .ok value → Yields (rest value) post condition) :
    Yields (stage >>= rest) post (Returns stage ∧ condition) where
  returns := Returns.bind_iff_and fun value made => (later value made).returns
  yielded := by
    intro value made
    obtain ⟨middle, first, made⟩ := bind_ok made
    exact (later middle first).yielded value made

theorem require {holds : Bool} {why : ε} {rest : Except ε (Option α)}
    (later : holds = true → Yields rest post condition) :
    Yields (Foundation.require holds why >>= fun _ => rest) post (holds = true ∧ condition) := by
  cases holds with
  | true => exact ⟨(later rfl).returns.trans (by simp), (later rfl).yielded⟩
  | false =>
    constructor
    · exact iff_of_false (Returns.error why) (by simp)
    · intro value made
      cases made

theorem imp {stage : Except ε (Option α)} (rule : Yields stage post condition) {other : Prop}
    (same : condition ↔ other) : Yields stage post other :=
  ⟨rule.returns.trans same, rule.yielded⟩

end Yields

end Wotemu.Foundation
