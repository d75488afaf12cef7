import Mathlib.Order.Defs.LinearOrder
import Mathlib.Data.Vector.Basic

/-! Binary heaps in arrays, with a comparison that may fail.

The sifts swap an item along one path. A failed comparison leaves the items
where they are, so that none of them is lost. The order of a heap is that of a
key for which the comparison is sound.
-/

set_option autoImplicit false

namespace Wotemu.Foundation

namespace Heap

variable {α ε : Type} {n : Nat}

def IsChild (child above : Fin n) : Prop := 0 < child.val ∧ (child.val - 1) / 2 = above.val

def parent (pos : Fin n) : Fin n := ⟨(pos.val - 1) / 2, by omega⟩

theorem isChild_parent {pos : Fin n} (below : 0 < pos.val) : IsChild pos (parent pos) := ⟨below, rfl⟩

theorem IsChild.lt {child above : Fin n} (isChild : IsChild child above) : above.val < child.val := by
  obtain ⟨below, same⟩ := isChild
  omega

def leftChild (pos : Fin n) (inside : 2 * pos.val + 1 < n) : { child : Fin n // IsChild child pos } :=
  have above : (2 * pos.val + 1 - 1) / 2 = pos.val := by omega
  ⟨⟨2 * pos.val + 1, inside⟩, Nat.succ_pos _, above⟩

def rightChild (pos : Fin n) (inside : 2 * pos.val + 2 < n) : { child : Fin n // IsChild child pos } :=
  have above : (2 * pos.val + 2 - 1) / 2 = pos.val := by omega
  ⟨⟨2 * pos.val + 2, inside⟩, Nat.succ_pos _, above⟩

def lessAt (lt : α → α → Except ε Bool) (heap : Vector α n) (first second : Fin n) : Except ε Bool :=
  lt heap[first] heap[second]

def siftdown (lt : α → α → Except ε Bool) (heap : Vector α n) (pos : Fin n) : Except ε Unit × Vector α n :=
  if below : 0 < pos.val then
    match lessAt lt heap pos (parent pos) with
    | .error e => (.error e, heap)
    | .ok false => (.ok (), heap)
    | .ok true =>
      have := (isChild_parent below).lt
      siftdown lt (heap.swap pos (parent pos)) (parent pos)
  else (.ok (), heap)
termination_by pos.val

def smallerChild (lt : α → α → Except ε Bool) (heap : Vector α n) (pos : Fin n) (inner : pos.val < n / 2) :
    Except ε { child : Fin n // IsChild child pos } :=
  if full : 2 * pos.val + 2 < n then
    (lessAt lt heap (leftChild pos (by omega)) (rightChild pos full)).map fun smaller =>
      if smaller then leftChild pos (by omega) else rightChild pos full
  else .ok (leftChild pos (by omega))

def siftup (lt : α → α → Except ε Bool) (heap : Vector α n) (pos : Fin n) : Except ε Unit × Vector α n :=
  if inner : pos.val < n / 2 then
    match smallerChild lt heap pos inner with
    | .error e => (.error e, heap)
    | .ok ⟨child, isChild⟩ =>
      have := isChild.lt
      siftup lt (heap.swap child pos) child
  else siftdown lt heap pos
termination_by n - pos.val

def heappush (lt : α → α → Except ε Bool) (heap : Array α) (item : α) : Except ε Unit × Array α :=
  let (outcome, sifted) := siftdown lt (heap.push item).toVector ⟨heap.size, by simp⟩
  (outcome, sifted.toArray)

/-- Takes the root of the other items, puts the last one in its place and sifts it. -/
def replaceRoot (lt : α → α → Except ε Bool) (rest : Array α) (last : α) : Except ε α × Array α :=
  if filled : 0 < rest.size then
    let (outcome, sifted) := siftup lt (rest.toVector.set 0 last) ⟨0, filled⟩
    (outcome.map fun _ => rest[0], sifted.toArray)
  else (.ok last, rest)

def heappop (lt : α → α → Except ε Bool) (heap : Array α) : Option (Except ε α × Array α) :=
  heap.back?.map (replaceRoot lt heap.pop)

/-! The sifts only swap items. -/

theorem siftdown_perm (lt : α → α → Except ε Bool) (heap : Vector α n) (pos : Fin n) :
    (siftdown lt heap pos).2.Perm heap := by
  fun_induction siftdown lt heap pos with
  | case1 => exact .rfl
  | case2 => exact .rfl
  | case3 heap pos below moves smaller ih => exact ih.trans (Vector.swap_perm pos.isLt (parent pos).isLt)
  | case4 => exact .rfl

theorem siftup_perm (lt : α → α → Except ε Bool) (heap : Vector α n) (pos : Fin n) :
    (siftup lt heap pos).2.Perm heap := by
  fun_induction siftup lt heap pos with
  | case1 => exact .rfl
  | case2 heap pos inner child isChild chosen further ih => exact ih.trans (Vector.swap_perm child.isLt pos.isLt)
  | case3 heap pos => exact siftdown_perm lt heap pos

/-! Comparisons that succeed between any two items of a heap. -/

def Comparable (lt : α → α → Except ε Bool) (items : List α) : Prop :=
  ∀ first ∈ items, ∀ second ∈ items, ∃ less, lt first second = .ok less

theorem Comparable.of_perm {lt : α → α → Except ε Bool} {items others : List α} (comparable : Comparable lt items)
    (perm : others.Perm items) : Comparable lt others :=
  fun first member second other => comparable first (perm.mem_iff.mp member) second (perm.mem_iff.mp other)

theorem Comparable.swap {lt : α → α → Except ε Bool} {heap : Vector α n} (comparable : Comparable lt heap.toList)
    (first second : Fin n) : Comparable lt (heap.swap first second).toList :=
  comparable.of_perm (Vector.swap_perm first.isLt second.isLt).toList

theorem Comparable.at {lt : α → α → Except ε Bool} {heap : Vector α n} (comparable : Comparable lt heap.toList)
    (first second : Fin n) : ∃ less, lessAt lt heap first second = .ok less :=
  comparable heap[first] (by simp) heap[second] (by simp)

theorem siftdown_ok {lt : α → α → Except ε Bool} {heap : Vector α n} {pos : Fin n}
    (comparable : Comparable lt heap.toList) : (siftdown lt heap pos).1 = .ok () := by
  fun_induction siftdown lt heap pos with
  | case1 heap pos below e failed =>
    obtain ⟨less, compared⟩ := comparable.at pos (parent pos)
    rw [compared] at failed
    cases failed
  | case2 => rfl
  | case3 heap pos below compared moves ih => exact ih (comparable.swap pos (parent pos))
  | case4 => rfl

theorem smallerChild_ok {lt : α → α → Except ε Bool} {heap : Vector α n} {pos : Fin n}
    (comparable : Comparable lt heap.toList) (inner : pos.val < n / 2) :
    ∃ child, smallerChild lt heap pos inner = .ok child := by
  unfold smallerChild
  split
  case isTrue full =>
    obtain ⟨less, compared⟩ := comparable.at (leftChild pos (by omega)) (rightChild pos full)
    rw [compared]
    exact ⟨_, rfl⟩
  case isFalse => exact ⟨_, rfl⟩

theorem siftup_ok {lt : α → α → Except ε Bool} {heap : Vector α n} {pos : Fin n}
    (comparable : Comparable lt heap.toList) : (siftup lt heap pos).1 = .ok () := by
  fun_induction siftup lt heap pos with
  | case1 heap pos inner e failed =>
    obtain ⟨child, chosen⟩ := smallerChild_ok comparable inner
    rw [chosen] at failed
    cases failed
  | case2 heap pos inner child isChild chosen further ih => exact ih (comparable.swap child pos)
  | case3 => exact siftdown_ok comparable

/-! A key for which the comparison is sound, and the order it gives. -/

section Order

variable {κ : Type} [LinearOrder κ]

def Sound (lt : α → α → Except ε Bool) (key : α → κ) : Prop :=
  ∀ first second less, lt first second = .ok less → (less = true ↔ key first < key second)

def Ordered (key : α → κ) (heap : Vector α n) : Prop :=
  ∀ above child : Fin n, IsChild child above → key heap[above] ≤ key heap[child]

/-- Every item off the hole is ordered after its parent, and so are the children of the hole after its parent. -/
structure OrderedExcept (key : α → κ) (heap : Vector α n) (hole : Fin n) : Prop where
  pairs : ∀ above child : Fin n, IsChild child above → above ≠ hole → child ≠ hole → key heap[above] ≤ key heap[child]
  grand : ∀ above child : Fin n, IsChild hole above → IsChild child hole → key heap[above] ≤ key heap[child]

def Fits (key : α → κ) (heap : Vector α n) (hole : Fin n) : Prop :=
  ∀ child, IsChild child hole → key heap[hole] ≤ key heap[child]

variable {key : α → κ} {heap : Vector α n} {hole : Fin n}

theorem swap_first (heap : Vector α n) (first second : Fin n) : (heap.swap first second)[first] = heap[second] :=
  Vector.getElem_swap_left first.isLt second.isLt

theorem swap_second (heap : Vector α n) (first second : Fin n) : (heap.swap first second)[second] = heap[first] :=
  Vector.getElem_swap_right first.isLt second.isLt

theorem swap_other (heap : Vector α n) {first second pos : Fin n} (notFirst : pos ≠ first) (notSecond : pos ≠ second) :
    (heap.swap first second)[pos] = heap[pos] :=
  Vector.getElem_swap_of_ne (Fin.val_ne_of_ne notFirst) (Fin.val_ne_of_ne notSecond)

theorem IsChild.unique {child above other : Fin n} (isChild : IsChild child above) (same : IsChild child other) :
    above = other := Fin.ext (isChild.2.symm.trans same.2)

theorem IsChild.ne {child above : Fin n} (isChild : IsChild child above) : above ≠ child :=
  Fin.ne_of_lt isChild.lt

/-- The item of the hole is exchanged with its greater parent. -/
theorem OrderedExcept.up (order : OrderedExcept key heap hole) {above : Fin n} (isChild : IsChild hole above)
    (less : key heap[hole] < key heap[above]) :
    OrderedExcept key (heap.swap hole above) above ∧ Fits key (heap.swap hole above) above := by
  have sibling : ∀ child, IsChild child above → child ≠ hole → key heap[above] ≤ key heap[child] :=
    fun child other away => order.pairs above child other isChild.ne away
  refine ⟨⟨fun upper child other upperAway away => ?_, fun upper child isUpper other => ?_⟩, fun child other => ?_⟩
  -- a pair off the new hole: below the old hole, the parent has come down
  · have fromHole : child ≠ hole := fun same => upperAway ((same ▸ other).unique isChild)
    rw [swap_other heap fromHole away]
    by_cases atHole : upper = hole
    · rw [atHole, swap_first]
      exact order.grand above child isChild (atHole ▸ other)
    · rw [swap_other heap atHole upperAway]
      exact order.pairs upper child other atHole fromHole
  -- a child and the parent of the new hole
  · have upperAway : upper ≠ hole := Fin.ne_of_lt (isUpper.lt.trans isChild.lt)
    have first : key heap[upper] ≤ key heap[above] := order.pairs upper above isUpper upperAway isChild.ne
    rw [swap_other heap upperAway isUpper.ne]
    by_cases fromHole : child = hole
    · rw [fromHole, swap_first]
      exact first
    · rw [swap_other heap fromHole other.ne.symm]
      exact first.trans (sibling child other fromHole)
  -- a child of the new hole: the parent itself, or the sibling of the old hole
  · rw [swap_second]
    by_cases fromHole : child = hole
    · rw [fromHole, swap_first]
      exact less.le
    · rw [swap_other heap fromHole other.ne.symm]
      exact less.le.trans (sibling child other fromHole)

theorem OrderedExcept.down (order : OrderedExcept key heap hole) {child : Fin n} (isChild : IsChild child hole)
    (smallest : ∀ other, IsChild other hole → key heap[child] ≤ key heap[other]) :
    OrderedExcept key (heap.swap child hole) child := by
  refine ⟨fun above lower other aboveAway away => ?_, fun above lower isAbove other => ?_⟩
  -- the smallest child has come up, so it is at most its siblings, and its new parent at most it
  · by_cases atHole : above = hole
    · have notHole : lower ≠ hole := atHole ▸ other.ne.symm
      rw [atHole, swap_second, swap_other heap away notHole]
      exact smallest lower (atHole ▸ other)
    · rw [swap_other heap aboveAway atHole]
      by_cases fromHole : lower = hole
      · rw [fromHole, swap_second]
        exact order.grand above child (fromHole ▸ other) isChild
      · rw [swap_other heap away fromHole]
        exact order.pairs above lower other atHole fromHole
  · have same : above = hole := isAbove.unique isChild
    have beyond : lower ≠ hole := (Fin.ne_of_lt (isChild.lt.trans other.lt)).symm
    rw [same, swap_second, swap_other heap other.ne.symm beyond]
    exact order.pairs child lower other isChild.ne.symm beyond

theorem OrderedExcept.finish (order : OrderedExcept key heap hole) (fits : Fits key heap hole)
    (below : ∀ above, IsChild hole above → key heap[above] ≤ key heap[hole]) : Ordered key heap := by
  intro above child isChild
  by_cases atHole : above = hole
  · rw [atHole]
    exact fits child (atHole ▸ isChild)
  · by_cases fromHole : child = hole
    · rw [fromHole]
      exact below above (fromHole ▸ isChild)
    · exact order.pairs above child isChild atHole fromHole

theorem siftdown_ordered {lt : α → α → Except ε Bool} (sound : Sound lt key) {heap : Vector α n} {pos : Fin n}
    (order : OrderedExcept key heap pos) (fits : Fits key heap pos) (sifted : (siftdown lt heap pos).1 = .ok ()) :
    Ordered key (siftdown lt heap pos).2 := by
  fun_induction siftdown lt heap pos with
  | case1 => cases sifted
  | case2 heap pos below compared =>
    refine order.finish fits fun above isChild => ?_
    rw [isChild.unique (isChild_parent below)]
    exact not_lt.mp fun less => absurd ((sound _ _ _ compared).mpr less) (by decide)
  | case3 heap pos below compared moves ih =>
    have moved := order.up (isChild_parent below) ((sound _ _ _ compared).mp rfl)
    exact ih moved.1 moved.2 sifted
  | case4 heap pos top => exact order.finish fits fun above isChild => absurd isChild.1 top

theorem smallerChild_smallest {lt : α → α → Except ε Bool} (sound : Sound lt key) {heap : Vector α n} {pos : Fin n}
    {inner : pos.val < n / 2} {child : { child : Fin n // IsChild child pos }}
    (chosen : smallerChild lt heap pos inner = .ok child) (other : Fin n) (isChild : IsChild other pos) :
    key heap[child.val] ≤ key heap[other] := by
  have place : other.val = 2 * pos.val + 1 ∨ other.val = 2 * pos.val + 2 := by
    obtain ⟨below, same⟩ := isChild
    omega
  unfold smallerChild at chosen
  split at chosen
  case isTrue full =>
    cases compared : lessAt lt heap (leftChild pos (by omega)) (rightChild pos full) with
    | error e =>
      rw [compared] at chosen
      cases chosen
    | ok less =>
      rw [compared] at chosen
      cases chosen
      have meaning := sound _ _ _ compared
      cases less with
      | true =>
        have smaller := (meaning.mp rfl).le
        obtain left | right := place
        · exact le_of_eq (congrArg (fun pos => key heap[pos]) (Fin.ext left).symm)
        · rwa [show other = (rightChild pos full).val from Fin.ext right]
      | false =>
        have smaller := not_lt.mp fun less => absurd (meaning.mpr less) (by decide)
        obtain left | right := place
        · rwa [show other = (leftChild pos (by omega)).val from Fin.ext left]
        · exact le_of_eq (congrArg (fun pos => key heap[pos]) (Fin.ext right).symm)
  case isFalse partly =>
    cases chosen
    have left : other.val = 2 * pos.val + 1 := place.resolve_right fun right => partly (right ▸ other.isLt)
    rw [show other = (leftChild pos (by omega)).val from Fin.ext left]

theorem siftup_ordered {lt : α → α → Except ε Bool} (sound : Sound lt key) {heap : Vector α n} {pos : Fin n}
    (order : OrderedExcept key heap pos) (sifted : (siftup lt heap pos).1 = .ok ()) :
    Ordered key (siftup lt heap pos).2 := by
  fun_induction siftup lt heap pos with
  | case1 => cases sifted
  | case2 heap pos inner child isChild chosen further ih =>
    exact ih (order.down isChild fun other => smallerChild_smallest sound chosen other) sifted
  | case3 heap pos leaf =>
    -- the hole is a leaf
    refine siftdown_ordered sound order (fun child isChild => ?_) sifted
    obtain ⟨below, same⟩ := isChild
    omega

/-! The operations on arrays. -/

def IsHeap (key : α → κ) (heap : Array α) : Prop := Ordered key heap.toVector

theorem isHeap_toArray (ordered : Ordered key heap) : IsHeap key heap.toArray := by
  obtain ⟨items, rfl⟩ := heap
  exact ordered

theorem isHeap_empty : IsHeap key #[] := fun above => above.elim0

theorem Ordered.root_le (ordered : Ordered key heap) {root : Fin n} (top : root.val = 0) (pos : Fin n) :
    key heap[root] ≤ key heap[pos] := by
  obtain ⟨place, inside⟩ := pos
  induction place using Nat.strongRecOn with
  | _ place ih =>
    cases place with
    | zero => exact le_of_eq (congrArg (fun pos : Fin n => key heap[pos]) (Fin.ext top))
    | succ place =>
      have isChild : IsChild (⟨place + 1, inside⟩ : Fin n) (parent ⟨place + 1, inside⟩) :=
        isChild_parent (Nat.succ_pos place)
      exact (ih _ isChild.lt _).trans (ordered _ _ isChild)

theorem IsHeap.root_le {items : Array α} (isHeap : IsHeap key items) {item : α} (member : item ∈ items.toList) :
    ∃ inside : 0 < items.size, key items[0] ≤ key item := by
  obtain ⟨place, inside, rfl⟩ := List.mem_iff_getElem.mp member
  have top : ((⟨0, Nat.zero_lt_of_lt inside⟩ : Fin items.size)).val = 0 := rfl
  exact ⟨Nat.zero_lt_of_lt inside, Ordered.root_le isHeap top ⟨place, inside⟩⟩

theorem heappush_perm (lt : α → α → Except ε Bool) (items : Array α) (item : α) :
    (heappush lt items item).2.toList.Perm (item :: items.toList) := by
  have swaps := (siftdown_perm lt (items.push item).toVector ⟨items.size, by simp⟩).toList
  exact swaps.trans (by simp)

theorem heappush_ok {lt : α → α → Except ε Bool} {items : Array α} {item : α}
    (comparable : Comparable lt (item :: items.toList)) : (heappush lt items item).1 = .ok () :=
  siftdown_ok (comparable.of_perm (by simp))

theorem heappush_isHeap {lt : α → α → Except ε Bool} (sound : Sound lt key) {items : Array α} {item : α}
    (isHeap : IsHeap key items) (pushed : (heappush lt items item).1 = .ok ()) :
    IsHeap key (heappush lt items item).2 := by
  have below (pos : Fin (items.push item).size) : pos.val ≤ items.size := by
    have inside := pos.isLt
    simp only [Array.size_push] at inside
    exact Nat.le_of_lt_succ inside
  refine isHeap_toArray (siftdown_ordered sound ⟨?_, ?_⟩ ?_ pushed)
  · intro above child isChild aboveAway childAway
    have inside : child.val < items.size :=
      Nat.lt_of_le_of_ne (below child) (Fin.val_ne_of_ne childAway)
    have old := isHeap ⟨above.val, isChild.lt.trans inside⟩ ⟨child.val, inside⟩ isChild
    simpa [Array.getElem_push, inside, isChild.lt.trans inside] using old
  · intro above child isAbove isChild
    exact absurd isChild.lt (not_lt_of_ge (below child))
  · intro child isChild
    exact absurd isChild.lt (not_lt_of_ge (below child))

theorem heappop_cases {lt : α → α → Except ε Bool} {items others : Array α} {outcome : Except ε α}
    (popped : heappop lt items = some (outcome, others)) :
    ∃ rest last, items = rest.push last ∧ (rest = #[] ∧ outcome = .ok last ∧ others = #[] ∨
      ∃ filled : 0 < rest.size,
        outcome = (siftup lt (rest.toVector.set 0 last) ⟨0, filled⟩).1.map (fun _ => rest[0]) ∧
        others = (siftup lt (rest.toVector.set 0 last) ⟨0, filled⟩).2.toArray) := by
  have some := Option.isSome_of_eq_some popped
  obtain ⟨rest, last, rfl⟩ : ∃ (rest : Array α) (last : α), items = rest.push last := by
    refine Array.exists_push_of_size_pos (Nat.pos_of_ne_zero fun empty => ?_)
    rw [Array.eq_empty_of_size_eq_zero empty] at some
    cases some
  refine ⟨rest, last, rfl, ?_⟩
  simp only [heappop, Array.back?_push, Option.map_some, Array.pop_push, Option.some.injEq, replaceRoot] at popped
  split at popped
  case isTrue filled =>
    cases popped
    exact .inr ⟨filled, rfl, rfl⟩
  case isFalse empty =>
    cases popped
    have empty := Array.eq_empty_of_size_eq_zero (Nat.eq_zero_of_not_pos empty)
    exact .inl ⟨empty, rfl, empty⟩

theorem taken_of_ok {sifted : Except ε Unit} {root item : α} (taken : .ok item = sifted.map fun _ => root) :
    sifted = .ok () ∧ item = root := by
  cases sifted with
  | error e => cases taken
  | ok =>
    cases taken
    exact ⟨rfl, rfl⟩

theorem refill_perm (rest : Array α) (last : α) (filled : 0 < rest.size) :
    (rest.push last).toList.Perm (rest[0] :: (rest.toVector.set 0 last).toList) := by
  obtain ⟨items⟩ := rest
  cases items with
  | nil => cases filled
  | cons first items => simp

theorem heappop_perm {lt : α → α → Except ε Bool} {items others : Array α} {item : α}
    (popped : heappop lt items = some (.ok item, others)) : items.toList.Perm (item :: others.toList) := by
  obtain ⟨rest, last, rfl, ⟨rfl, outcome, rfl⟩ | ⟨filled, outcome, rfl⟩⟩ := heappop_cases popped
  · cases outcome
    exact .refl _
  · rw [(taken_of_ok outcome).2]
    exact (refill_perm rest last filled).trans (((siftup_perm lt _ _).toList.symm).cons rest[0])

/-- The item that is taken is at most every item of the heap. -/
theorem heappop_least {lt : α → α → Except ε Bool} {items others : Array α} {item other : α}
    (isHeap : IsHeap key items) (popped : heappop lt items = some (.ok item, others)) (member : other ∈ items.toList) :
    key item ≤ key other := by
  obtain ⟨inside, least⟩ := isHeap.root_le member
  obtain ⟨rest, last, rfl, ⟨rfl, outcome, rfl⟩ | ⟨filled, outcome, rfl⟩⟩ := heappop_cases popped
  · cases outcome
    exact least
  · rw [(taken_of_ok outcome).2]
    rwa [Array.getElem_push_lt filled] at least

theorem heappop_isHeap {lt : α → α → Except ε Bool} (sound : Sound lt key) {items others : Array α} {item : α}
    (isHeap : IsHeap key items) (popped : heappop lt items = some (.ok item, others)) : IsHeap key others := by
  obtain ⟨rest, last, rfl, ⟨rfl, outcome, rfl⟩ | ⟨filled, outcome, rfl⟩⟩ := heappop_cases popped
  · exact isHeap_empty
  · refine isHeap_toArray (siftup_ordered sound ⟨?_, ?_⟩ ?_)
    -- only the root has changed
    · intro above child isChild aboveAway childAway
      have inside (pos : Fin rest.size) : pos.val < (rest.push last).size := by
        rw [Array.size_push]
        exact Nat.lt_succ_of_lt pos.isLt
      have old := isHeap ⟨above.val, inside above⟩ ⟨child.val, inside child⟩ isChild
      have aboveAway := Fin.val_ne_of_ne aboveAway
      have childAway := Fin.val_ne_of_ne childAway
      simpa [Array.getElem_push, Array.getElem_set, aboveAway.symm, childAway.symm] using old
    · intro above child isAbove
      exact absurd isAbove.1 (lt_irrefl 0)
    · exact (taken_of_ok outcome).1

theorem heappop_ok {lt : α → α → Except ε Bool} {items : Array α} (comparable : Comparable lt items.toList)
    (filled : 0 < items.size) : ∃ item others, heappop lt items = some (.ok item, others) := by
  obtain ⟨⟨outcome, others⟩, popped⟩ : ∃ result, heappop lt items = some result := by
    obtain ⟨rest, last, rfl⟩ := Array.exists_push_of_size_pos filled
    exact Option.isSome_iff_exists.mp (by simp [heappop])
  obtain ⟨rest, last, rfl, ⟨rfl, rfl, rfl⟩ | ⟨filled, rfl, rfl⟩⟩ := heappop_cases popped
  · exact ⟨_, _, popped⟩
  · have moved : Comparable lt (rest.toVector.set 0 last).toList := fun first member second other =>
      comparable first ((refill_perm rest last filled).mem_iff.mpr (.tail _ member)) second
        ((refill_perm rest last filled).mem_iff.mpr (.tail _ other))
    rw [siftup_ok moved] at popped
    exact ⟨_, _, popped⟩

end Order

end Heap

end Wotemu.Foundation
