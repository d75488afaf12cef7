import Mathlib.Data.List.Basic

/-! Left joins of lists of rows, and how often they repeat a row.

A left row comes out once for each match and once when it has none. Rows that
are repeated in several joins are repeated as often as the product tells.
-/

set_option autoImplicit false

namespace Wotemu.Foundation

section Repeated

variable {α β : Type}

/-- Every element as many times as `times` says. -/
def repeated (times : α → Nat) (items : List α) : List α :=
  items.flatMap fun item => List.replicate (times item) item

theorem repeated_cons (times : α → Nat) (first : α) (rest : List α) :
    repeated times (first :: rest) = List.replicate (times first) first ++ repeated times rest := rfl

theorem map_repeated (f : α → β) (times : β → Nat) (items : List α) :
    (repeated (fun item => times (f item)) items).map f = repeated times (items.map f) := by
  induction items with
  | nil => rfl
  | cons first rest ih => rw [repeated_cons, List.map_append, ih, List.map_replicate, List.map_cons, repeated_cons]

theorem repeated_append (times : α → Nat) (first second : List α) :
    repeated times (first ++ second) = repeated times first ++ repeated times second :=
  List.flatMap_append

theorem repeated_replicate (times : α → Nat) (n : Nat) (item : α) :
    repeated times (List.replicate n item) = List.replicate (n * times item) item := by
  induction n with
  | zero => simp [repeated]
  | succ n ih =>
    rw [List.replicate_succ, repeated_cons, ih, List.replicate_append_replicate, Nat.succ_mul, Nat.add_comm]

theorem repeated_repeated (inner outer : α → Nat) (items : List α) :
    repeated outer (repeated inner items) = repeated (fun item => inner item * outer item) items := by
  induction items with
  | nil => rfl
  | cons first rest ih => rw [repeated_cons, repeated_append, ih, repeated_replicate, repeated_cons]

theorem repeated_perm {first second : List α} (times : α → Nat) (same : first.Perm second) :
    (repeated times first).Perm (repeated times second) :=
  same.flatMap_right _

theorem mem_repeated {times : α → Nat} (positive : ∀ item, 0 < times item) {items : List α} {item : α} :
    item ∈ repeated times items ↔ item ∈ items := by
  unfold repeated
  rw [List.mem_flatMap]
  constructor
  · rintro ⟨other, member, inside⟩
    exact List.eq_of_mem_replicate inside ▸ member
  · intro member
    exact ⟨item, member, List.mem_replicate.mpr ⟨Nat.ne_of_gt (positive item), rfl⟩⟩

theorem length_le_length_repeated {times : α → Nat} (positive : ∀ item, 0 < times item) (items : List α) :
    items.length ≤ (repeated times items).length := by
  induction items with
  | nil => simp
  | cons first rest ih =>
    rw [repeated_cons, List.length_append, List.length_replicate, List.length_cons]
    have := positive first
    omega

/-- A list is rearranged by repetition only when every element stays single. -/
theorem repeated_perm_self_iff {times : α → Nat} (positive : ∀ item, 0 < times item) (items : List α) :
    (repeated times items).Perm items ↔ ∀ item ∈ items, times item = 1 := by
  constructor
  · intro same
    -- only the lengths are needed: no element comes out less than once, so none comes out twice
    have lengths := same.length_eq
    clear same
    induction items with
    | nil => simp
    | cons first rest ih =>
      rw [repeated_cons, List.length_append, List.length_replicate, List.length_cons] at lengths
      have := positive first
      have := length_le_length_repeated positive rest
      intro item member
      rcases List.mem_cons.mp member with rfl | member
      · omega
      · exact ih (by omega) item member
  · intro single
    induction items with
    | nil => exact List.Perm.refl _
    | cons first rest ih =>
      rw [repeated_cons, single first List.mem_cons_self]
      exact (ih fun item member => single item (List.mem_cons_of_mem _ member)).cons _

end Repeated

section Joins

variable {α β κ : Type} [DecidableEq κ]

def leftJoin (keyLeft : α → κ) (keyRight : β → κ) (left : List α) (right : List β) : List (α × Option β) :=
  left.flatMap fun row => match right.filter fun other => keyRight other = keyLeft row with
    | [] => [(row, none)]
    | found => found.map fun other => (row, some other)

variable (keyLeft : α → κ) (keyRight : β → κ)

/-- How often a left join gives a row with this key. -/
def copies (right : List β) (key : κ) : Nat := max 1 ((right.map keyRight).count key)

theorem copies_pos (right : List β) (key : κ) : 0 < copies keyRight right key :=
  Nat.lt_of_lt_of_le Nat.zero_lt_one (Nat.le_max_left _ _)

theorem copies_eq_one_iff (right : List β) (key : κ) :
    copies keyRight right key = 1 ↔ (right.map keyRight).count key ≤ 1 := by
  unfold copies
  omega

theorem count_map_eq_length_filter (right : List β) (key : κ) :
    (right.map keyRight).count key = (right.filter fun other => keyRight other = key).length := by
  rw [List.count_eq_length_filter, List.filter_map, List.length_map]
  congr 1

theorem map_fst_leftJoin (left : List α) (right : List β) :
    (leftJoin keyLeft keyRight left right).map Prod.fst =
      repeated (fun row => copies keyRight right (keyLeft row)) left := by
  induction left with
  | nil => rfl
  | cons row rest ih =>
    have here : leftJoin keyLeft keyRight (row :: rest) right =
        (match right.filter fun other => keyRight other = keyLeft row with
          | [] => [(row, none)]
          | found => found.map fun other => (row, some other)) ++ leftJoin keyLeft keyRight rest right := rfl
    rw [here, List.map_append, ih, repeated_cons]
    congr 1
    -- `max` is 1 for a row without a match, and the number of its matches otherwise
    unfold copies
    rw [count_map_eq_length_filter]
    cases right.filter fun other => keyRight other = keyLeft row with
    | nil => rfl
    | cons first others =>
      rw [List.map_map, Nat.max_eq_right (by simp), ← List.map_const']
      rfl

theorem mem_leftJoin {left : List α} {right : List β} {row : α} {found : Option β} :
    (row, found) ∈ leftJoin keyLeft keyRight left right ↔ row ∈ left ∧
      ((∃ other ∈ right, keyRight other = keyLeft row ∧ found = some other) ∨
        (found = none ∧ ∀ other ∈ right, keyRight other ≠ keyLeft row)) := by
  unfold leftJoin
  rw [List.mem_flatMap]
  -- what one row of the left frame contributes
  have here : ∀ other : α, (row, found) ∈ (match right.filter fun item => keyRight item = keyLeft other with
      | [] => [(other, none)]
      | matched => matched.map fun item => (other, some item)) ↔ row = other ∧
      ((∃ item ∈ right, keyRight item = keyLeft row ∧ found = some item) ∨
        (found = none ∧ ∀ item ∈ right, keyRight item ≠ keyLeft row)) := by
    intro other
    cases listed : right.filter fun item => keyRight item = keyLeft other with
    | nil =>
      have nothing : ∀ item ∈ right, keyRight item ≠ keyLeft other := by
        simpa [List.filter_eq_nil_iff] using listed
      simp only [List.mem_singleton, Prod.mk.injEq]
      constructor
      · rintro ⟨rfl, rfl⟩
        exact ⟨rfl, Or.inr ⟨rfl, nothing⟩⟩
      · rintro ⟨rfl, ⟨item, member, same, -⟩ | ⟨rfl, -⟩⟩
        · exact absurd same (nothing item member)
        · exact ⟨rfl, rfl⟩
    | cons first others =>
      have inside : ∀ item, item ∈ first :: others ↔ item ∈ right ∧ keyRight item = keyLeft other := by
        intro item
        rw [← listed]
        simp
      simp only [List.mem_map, Prod.mk.injEq]
      constructor
      · rintro ⟨item, member, rfl, rfl⟩
        obtain ⟨member, same⟩ := (inside item).mp member
        exact ⟨rfl, Or.inl ⟨item, member, same, rfl⟩⟩
      · rintro ⟨rfl, ⟨item, member, same, rfl⟩ | ⟨-, nothing⟩⟩
        · exact ⟨item, (inside item).mpr ⟨member, same⟩, rfl, rfl⟩
        · obtain ⟨member, same⟩ := (inside first).mp List.mem_cons_self
          exact absurd same (nothing first member)
  simp only [here]
  constructor
  · rintro ⟨_, member, rfl, found⟩
    exact ⟨member, found⟩
  · rintro ⟨member, found⟩
    exact ⟨row, member, rfl, found⟩

end Joins

end Wotemu.Foundation
