import Mathlib.Algebra.Group.Basic
import Mathlib.Data.List.Chain
import Mathlib.Order.Lattice

/-! Half-open windows over a linear order, and when a series of them partitions
the span from the start of the first to the end of the last. -/

set_option autoImplicit false

namespace Wotemu.Foundation

structure Window (τ : Type) where
  opens : τ
  closes : τ
  deriving DecidableEq, Repr

namespace Window

variable {τ : Type} [LinearOrder τ]

def holds (window : Window τ) (x : τ) : Bool := window.opens ≤ x ∧ x < window.closes

def Partition (windows : List (Window τ)) : Prop :=
  ∀ first ∈ windows.head?, ∀ last ∈ windows.getLast?, ∀ x, first.opens ≤ x → x < last.closes →
    windows.countP (fun window => window.holds x) = 1

def Adjacent (windows : List (Window τ)) : Prop :=
  windows.IsChain fun earlier later => earlier.closes = later.opens

def Forward (windows : List (Window τ)) : Prop :=
  windows.Pairwise fun earlier later => earlier.opens ≤ later.opens ∧ earlier.closes ≤ later.closes

theorem holds_eq_false_of_lt {window : Window τ} {x : τ} (before : x < window.opens) :
    window.holds x = false :=
  decide_eq_false fun inside => not_lt_of_ge inside.1 before

theorem holds_eq_false_of_le {window : Window τ} {x : τ} (after : window.closes ≤ x) :
    window.holds x = false :=
  decide_eq_false fun inside => not_lt_of_ge after inside.2

theorem countP_eq_zero {windows : List (Window τ)} {x : τ}
    (before : ∀ window ∈ windows, x < window.opens) :
    windows.countP (fun window => window.holds x) = 0 := by
  rw [List.countP_eq_zero]
  intro window member
  rw [holds_eq_false_of_lt (before window member)]
  exact Bool.false_ne_true

theorem bounds_of_forward {first : Window τ} {rest : List (Window τ)} (forward : Forward (first :: rest))
    {window last : Window τ} (member : window ∈ first :: rest) (ends : last ∈ (first :: rest).getLast?) :
    first.opens ≤ window.opens ∧ window.closes ≤ last.closes := by
  constructor
  · cases List.mem_cons.mp member with
    | inl same => rw [same]
    | inr later => exact (List.rel_of_pairwise_cons forward later).1
  · obtain ⟨before, same⟩ := List.getLast?_eq_some_iff.mp ends
    rw [same] at member
    rw [Forward, same, List.pairwise_append] at forward
    cases List.mem_append.mp member with
    | inl earlier => exact (forward.2.2 window earlier last (List.mem_singleton_self last)).2
    | inr equal => rw [List.mem_singleton.mp equal]

section Step

variable {first second : Window τ} {rest : List (Window τ)}
  (forward : Forward (first :: second :: rest))
  (proper : ∀ window ∈ first :: second :: rest, window.opens ≤ window.closes)

include forward proper

/-- In a partition the second window starts where the first one ends: a gap leaves the end of
the first window out, and an overlap counts the start of the second one twice. -/
theorem closes_eq_opens (partition : Partition (first :: second :: rest)) : first.closes = second.opens := by
  obtain ⟨last, ends⟩ : ∃ last, last ∈ (first :: second :: rest).getLast? :=
    ⟨_, List.getLast?_eq_some_getLast (List.cons_ne_nil _ _)⟩
  have count := partition first rfl last ends
  have secondMember : second ∈ first :: second :: rest := by simp
  have secondBounds := bounds_of_forward forward secondMember ends
  obtain gap | overlap | adjacent := lt_trichotomy first.closes second.opens
  · have inside : first.closes < last.closes :=
      gap.trans_le ((proper second secondMember).trans secondBounds.2)
    have none := count first.closes (proper first List.mem_cons_self) inside
    have later : ∀ window ∈ second :: rest, first.closes < window.opens := by
      intro window member
      cases List.mem_cons.mp member with
      | inl same => rwa [same]
      | inr after => exact gap.trans_le (List.rel_of_pairwise_cons (List.pairwise_cons.mp forward).2 after).1
    rw [List.countP_cons_of_neg (by simp [holds_eq_false_of_le le_rfl]), countP_eq_zero later] at none
    exact absurd none (by decide)
  · exact overlap
  · have pair := List.rel_of_pairwise_cons forward (List.mem_cons_self (a := second) (l := rest))
    have inside : second.opens < last.closes :=
      adjacent.trans_le (bounds_of_forward forward List.mem_cons_self ends).2
    have twice := count second.opens pair.1 inside
    have here : first.holds second.opens = true := decide_eq_true ⟨pair.1, adjacent⟩
    have there : second.holds second.opens = true :=
      decide_eq_true ⟨le_rfl, adjacent.trans_le pair.2⟩
    simp only [List.countP_cons, here, there, if_true] at twice
    omega

theorem partition_cons_iff : Partition (first :: second :: rest) ↔
    first.closes = second.opens ∧ Partition (second :: rest) := by
  constructor
  · intro partition
    have adjacent := closes_eq_opens forward proper partition
    refine ⟨adjacent, ?_⟩
    intro head isHead last ends x lower upper
    cases isHead
    have count := partition first rfl last (by rw [List.getLast?_cons_cons]; exact ends) x
      ((List.rel_of_pairwise_cons forward List.mem_cons_self).1.trans lower) upper
    rwa [List.countP_cons_of_neg (by simp [holds_eq_false_of_le (adjacent ▸ lower)])] at count
  · intro both head isHead last ends x lower upper
    obtain ⟨adjacent, partition⟩ := both
    cases isHead
    rw [List.getLast?_cons_cons] at ends
    by_cases inside : x < first.closes
    · have later : ∀ window ∈ second :: rest, x < window.opens := by
        intro window member
        rw [adjacent] at inside
        cases List.mem_cons.mp member with
        | inl same => rwa [same]
        | inr after => exact inside.trans_le (List.rel_of_pairwise_cons (List.pairwise_cons.mp forward).2 after).1
      rw [List.countP_cons_of_pos (by exact decide_eq_true ⟨lower, inside⟩), countP_eq_zero later]
    · have beyond : first.closes ≤ x := le_of_not_gt inside
      rw [List.countP_cons_of_neg (by simp [holds_eq_false_of_le beyond])]
      exact partition second rfl last ends x (adjacent ▸ beyond) upper

end Step

/-- Windows that move forward partition their span exactly when they are adjacent. -/
theorem partition_iff_adjacent {windows : List (Window τ)} (forward : Forward windows)
    (proper : ∀ window ∈ windows, window.opens ≤ window.closes) : Partition windows ↔ Adjacent windows := by
  induction windows with
  | nil => exact iff_of_true (fun first isFirst => by cases isFirst) .nil
  | cons first rest ih =>
    cases rest with
    | nil =>
      refine iff_of_true ?_ (.singleton first)
      intro head isHead last ends x lower upper
      cases isHead
      cases ends
      rw [List.countP_cons_of_pos (by exact decide_eq_true ⟨lower, upper⟩), List.countP_nil]
    | cons second rest =>
      have tail := ih (List.pairwise_cons.mp forward).2 fun window member =>
        proper window (List.mem_cons_of_mem _ member)
      rw [partition_cons_iff forward proper, tail]
      unfold Adjacent
      rw [List.isChain_cons_cons]

theorem partition_iff_of_empty {windows : List (Window τ)} (empty : ∀ window ∈ windows, window.closes ≤ window.opens) :
    Partition windows ↔ ∀ first ∈ windows.head?, ∀ last ∈ windows.getLast?, last.closes ≤ first.opens := by
  have nothing : ∀ x, windows.countP (fun window => window.holds x) = 0 := by
    intro x
    rw [List.countP_eq_zero]
    intro window member inside
    have both := of_decide_eq_true inside
    exact not_lt_of_ge (empty window member) (both.1.trans_lt both.2)
  constructor
  · intro partition first isFirst last isLast
    refine le_of_not_gt fun some => ?_
    have one := partition first isFirst last isLast first.opens le_rfl some
    rw [nothing] at one
    exact absurd one (by decide)
  · intro none first isFirst last isLast x lower upper
    exact absurd (lower.trans_lt upper) (not_lt_of_ge (none first isFirst last isLast))

end Window

/-! Windows that follow each other between two points of any type. -/

namespace Window

variable {τ : Type} {start finish : τ} {windows : List (Window τ)}

/-- The first window opens at the start, each other one where the one before it closes, and the
last one closes at the finish. -/
def Covers (start : τ) (windows : List (Window τ)) (finish : τ) : Prop :=
  match windows with
  | [] => start = finish
  | first :: rest => first.opens = start ∧ Covers first.closes rest finish

theorem Covers.concat {last : Window τ} (covers : Covers start windows last.opens) :
    Covers start (windows ++ [last]) last.closes := by
  induction windows generalizing start with
  | nil => exact ⟨covers.symm, rfl⟩
  | cons first rest ih => exact ⟨covers.1, ih covers.2⟩

theorem Covers.contiguous (covers : Covers start windows finish) :
    windows.IsChain fun earlier later => earlier.closes = later.opens := by
  induction windows generalizing start with
  | nil => exact .nil
  | cons first rest ih =>
    cases rest with
    | nil => exact .singleton first
    | cons second rest => exact List.isChain_cons_cons.mpr ⟨covers.2.1.symm, ih covers.2⟩

/-- What grows in the windows is what grows from the start to the finish. -/
theorem Covers.sum_eq {α : Type} [AddCommGroup α] (amount : τ → α) (covers : Covers start windows finish) :
    (windows.map fun window => amount window.closes - amount window.opens).sum = amount finish - amount start := by
  induction windows generalizing start with
  | nil =>
    cases covers
    exact (sub_self _).symm
  | cons first rest ih =>
    obtain ⟨rfl, covers⟩ := covers
    rw [List.map_cons, List.sum_cons, ih covers, add_comm, sub_add_sub_cancel]

end Window

end Wotemu.Foundation
