import Mathlib.Algebra.Order.Ring.Rat
import Mathlib.Data.List.TakeWhile
import Wotemu.Foundation.Dict

/-! Named sorted sets: members with scores, in the order of the scores.

A member occurs once in a set, so adding it again only moves it. A name
exists from its first member on.
-/

set_option autoImplicit false

namespace Wotemu.Foundation

abbrev SortedSet (μ : Type) := List (Rat × μ)

namespace SortedSet

variable {μ : Type} [DecidableEq μ]

def members (set : SortedSet μ) : List μ := set.map Prod.snd

/-- Add a member. Members with one score are in the order that `before` tells. -/
def add (before : μ → μ → Bool) (set : SortedSet μ) (score : Rat) (member : μ) : SortedSet μ :=
  let others := set.filter fun entry => entry.2 ≠ member
  let earlier := fun entry : Rat × μ => entry.1 < score || (entry.1 = score && before entry.2 member)
  others.takeWhile earlier ++ (score, member) :: others.dropWhile earlier

theorem add_perm (before : μ → μ → Bool) (set : SortedSet μ) (score : Rat) (member : μ) :
    (add before set score member).Perm ((score, member) :: set.filter fun entry => entry.2 ≠ member) := by
  unfold add
  refine List.perm_middle.trans ?_
  rw [List.takeWhile_append_dropWhile]

theorem add_perm_of_fresh {before : μ → μ → Bool} {set : SortedSet μ} {member : μ} (fresh : member ∉ set.members)
    (score : Rat) : (add before set score member).Perm ((score, member) :: set) := by
  have whole : set.filter (fun entry => entry.2 ≠ member) = set := by
    refine List.filter_eq_self.mpr fun entry inside => decide_eq_true fun same => fresh ?_
    exact List.mem_map.mpr ⟨entry, inside, same⟩
  have perm := add_perm before set score member
  rwa [whole] at perm

theorem mem_members_add {before : μ → μ → Bool} {set : SortedSet μ} {score : Rat} {member other : μ} :
    other ∈ (add before set score member).members ↔ other = member ∨ other ∈ set.members := by
  unfold members
  rw [((add_perm before set score member).map Prod.snd).mem_iff, List.map_cons, List.mem_cons]
  by_cases same : other = member
  · simp [same]
  · simp [same]

theorem nodup_members_add {before : μ → μ → Bool} {set : SortedSet μ} {score : Rat} {member : μ}
    (nodup : set.members.Nodup) : (add before set score member).members.Nodup := by
  unfold members
  rw [((add_perm before set score member).map Prod.snd).nodup_iff, List.map_cons, List.nodup_cons]
  refine ⟨by simp, ?_⟩
  exact nodup.sublist (List.Sublist.map _ List.filter_sublist)

theorem pairwise_add {before : μ → μ → Bool} {set : SortedSet μ} (sorted : set.Pairwise fun a b => a.1 ≤ b.1)
    (score : Rat) (member : μ) : (add before set score member).Pairwise fun a b => a.1 ≤ b.1 := by
  have others := sorted.sublist (List.filter_sublist (p := fun entry => entry.2 ≠ member))
  unfold add
  generalize (set.filter fun entry => entry.2 ≠ member) = rest at others
  generalize whichEarlier :
    (fun entry : Rat × μ => entry.1 < score || (entry.1 = score && before entry.2 member)) = earlier
  have split := others
  rw [← List.takeWhile_append_dropWhile (p := earlier) (l := rest), List.pairwise_append] at split
  obtain ⟨front, back, between⟩ := split
  -- what stands before has at most the score, and what comes after at least it
  have low : ∀ entry ∈ rest.takeWhile earlier, entry.1 ≤ score := by
    intro entry inside
    have holds := List.mem_takeWhile_imp inside
    rw [← whichEarlier] at holds
    obtain less | same := Bool.or_eq_true_iff.mp holds
    · exact (of_decide_eq_true less).le
    · exact (of_decide_eq_true (Bool.and_eq_true_iff.mp same).1).le
  have high : ∀ entry ∈ rest.dropWhile earlier, score ≤ entry.1 := by
    cases dropped : rest.dropWhile earlier with
    | nil => simp
    | cons first later =>
      have late : earlier first = false := by
        have stops := List.head?_dropWhile_not earlier rest
        rwa [dropped] at stops
      rw [← whichEarlier, Bool.or_eq_false_iff] at late
      have firstHigh : score ≤ first.1 := not_lt.mp (of_decide_eq_false late.1)
      rw [dropped, List.pairwise_cons] at back
      exact List.forall_mem_cons.mpr ⟨firstHigh, fun entry inside => firstHigh.trans (back.1 entry inside)⟩
  refine List.pairwise_append.mpr ⟨front, List.pairwise_cons.mpr ⟨high, back⟩, fun first inFront second inBack => ?_⟩
  obtain rfl | inBack := List.mem_cons.mp inBack
  · exact low first inFront
  · exact between first inFront second inBack

def precedes (before : μ → μ → Bool) (entry : Rat × μ) (score : Rat) (member : μ) : Bool :=
  entry.1 < score || (entry.1 = score && before entry.2 member)

/-- An added member is the last one exactly when all others stand before it. -/
theorem getLast?_members_add {before : μ → μ → Bool} {set : SortedSet μ} {score : Rat} {member : μ} :
    (add before set score member).members.getLast? = some member ↔
      ∀ entry ∈ set, entry.2 ≠ member → precedes before entry score member = true := by
  have others : ∀ entry : Rat × μ,
      entry ∈ set.filter (fun entry => entry.2 ≠ member) ↔ entry ∈ set ∧ entry.2 ≠ member := by
    intro entry
    rw [List.mem_filter, decide_eq_true_eq]
  have split : (∀ entry ∈ set, entry.2 ≠ member → precedes before entry score member = true) ↔
      (set.filter fun entry => entry.2 ≠ member).dropWhile (fun entry => precedes before entry score member) = [] := by
    rw [List.dropWhile_eq_nil_iff]
    exact ⟨fun all entry inside => all entry ((others entry).mp inside).1 ((others entry).mp inside).2,
      fun all entry inside different => all entry ((others entry).mpr ⟨inside, different⟩)⟩
  rw [split]
  unfold add members
  rw [List.map_append, List.map_cons, List.getLast?_append_cons]
  change (member :: ((set.filter fun entry => entry.2 ≠ member).dropWhile
    fun entry => precedes before entry score member).map Prod.snd).getLast? = some member ↔ _
  cases after :
    (set.filter fun entry => entry.2 ≠ member).dropWhile fun entry => precedes before entry score member with
  | nil => exact iff_of_true rfl rfl
  | cons entry rest =>
    refine iff_of_false (fun last => ?_) (List.cons_ne_nil _ _)
    -- the last entry is one of the others
    rw [List.map_cons, List.getLast?_cons_cons] at last
    have inside : member ∈ (entry :: rest).map Prod.snd := List.mem_of_getLast? last
    rw [← after] at inside
    obtain ⟨other, dropped, same⟩ := List.mem_map.mp inside
    exact ((others other).mp ((List.dropWhile_suffix _).subset dropped)).2 same

end SortedSet

abbrev SortedSets (μ : Type) := Dict String (SortedSet μ)

namespace SortedSets

variable {μ : Type} [DecidableEq μ] (before : μ → μ → Bool) (score : μ → Rat)

def zrange (store : SortedSets μ) (key : String) : SortedSet μ := (Dict.value? store key).getD []

def zadd (store : SortedSets μ) (key : String) (score : Rat) (member : μ) : SortedSets μ :=
  Dict.assign store key (SortedSet.add before (zrange store key) score member)

@[simp] theorem zrange_zadd (store : SortedSets μ) (key : String) (points : Rat) (member : μ) :
    zrange (zadd before store key points member) key = SortedSet.add before (zrange store key) points member := by
  simp [zadd, zrange]

theorem zrange_zadd_of_ne {store : SortedSets μ} {key other : String} (different : other ≠ key) (points : Rat)
    (member : μ) :
    zrange (zadd before store key points member) other = zrange store other := by
  simp [zadd, zrange, Dict.value?_assign_of_ne different]

def zaddAll (store : SortedSets μ) (key : String) (members : List μ) : SortedSets μ :=
  members.foldl (fun acc member => zadd before acc key (score member) member) store

theorem zaddAll_cons (store : SortedSets μ) (key : String) (first : μ) (rest : List μ) :
    zaddAll before score store key (first :: rest) =
      zaddAll before score (zadd before store key (score first) first) key rest := rfl

/-- What a store holds in terms of the pairs that were added: the sets have exactly these
members, each once, and no set is empty. -/
structure Holds (store : SortedSets μ) (added : String → μ → Prop) : Prop where
  mem_iff : ∀ key member, member ∈ (zrange store key).members ↔ added key member
  nodup : ∀ key, (zrange store key).members.Nodup
  key_iff : ∀ key, key ∈ Dict.keys store ↔ ∃ member, added key member
  keys_nodup : (Dict.keys store).Nodup

omit [DecidableEq μ] in
theorem holds_nil : Holds ([] : SortedSets μ) fun _ _ => False :=
  ⟨by simp [zrange, SortedSet.members], by simp [zrange, SortedSet.members], by simp [Dict.keys], List.nodup_nil⟩

variable {store : SortedSets μ} {added : String → μ → Prop}

theorem Holds.zadd (holds : Holds store added) (before : μ → μ → Bool) (key : String) (points : Rat) (member : μ) :
    Holds (SortedSets.zadd before store key points member) fun other item =>
      added other item ∨ (other = key ∧ item = member) := by
  constructor
  case mem_iff =>
    intro other item
    by_cases same : other = key
    · subst same
      rw [zrange_zadd, SortedSet.mem_members_add, holds.mem_iff, or_comm]
      simp
    · rw [zrange_zadd_of_ne _ same, holds.mem_iff]
      simp [same]
  case nodup =>
    intro other
    by_cases same : other = key
    · subst same
      rw [zrange_zadd]
      exact SortedSet.nodup_members_add (holds.nodup other)
    · rw [zrange_zadd_of_ne _ same]
      exact holds.nodup other
  case key_iff =>
    intro other
    unfold SortedSets.zadd
    rw [Dict.mem_keys_assign, holds.key_iff]
    constructor
    · rintro (⟨item, found⟩ | rfl)
      · exact ⟨item, Or.inl found⟩
      · exact ⟨member, Or.inr ⟨rfl, rfl⟩⟩
    · rintro ⟨item, found | ⟨rfl, -⟩⟩
      · exact Or.inl ⟨item, found⟩
      · exact Or.inr rfl
  case keys_nodup => exact Dict.nodup_keys_assign holds.keys_nodup

theorem Holds.zaddAll (holds : Holds store added) (before : μ → μ → Bool) (score : μ → Rat) (key : String)
    (members : List μ) :
    Holds (SortedSets.zaddAll before score store key members) fun other item =>
      added other item ∨ (other = key ∧ item ∈ members) := by
  induction members generalizing store added with
  | nil => simpa [SortedSets.zaddAll] using holds
  | cons first rest ih =>
    have next := ih (holds.zadd before key (score first) first)
    rw [zaddAll_cons]
    simpa only [List.mem_cons, and_or_left, or_assoc] using next

end SortedSets

end Wotemu.Foundation
