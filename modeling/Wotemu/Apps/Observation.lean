import Mathlib.Data.Rat.Cast.Order
import Mathlib.Tactic.Linarith
import Wotemu.Foundation.Transition
import Wotemu.Foundation.Windows
import Wotemu.Apps.Historian

/-! The loop that observes the downlink historian, and the windows it requests.

The loop polls once a second, so an iteration starts at least one interval
after the one before it. Its window reaches back one interval from its own
reading of the clock and not to the end of the window before it.
-/

set_option autoImplicit false

namespace Wotemu.Historian

open Wotemu.Foundation

/-- The loop between two polls: when the last iteration started, when the next one is due, when
the loop resumes, and the times that the iterations so far read for the ends of their windows. -/
structure Loop where
  prevTime : Option Rat
  nextTime : Rat
  resumes : Rat
  readings : List Rat
  deriving DecidableEq

structure Poll where
  now : Rat
  toUnix : Rat
  finished : Rat
  downlink : Downlink
  mongo : Mongo

/-- An iteration reads the time, cut to microseconds and shifted by the offset of the local
zone, after the poll and before its end. -/
def Poll.Consistent (poll : Poll) (zone : Int) : Prop :=
  poll.now - 1 / 1000000 ≤ poll.toUnix - zone ∧ poll.toUnix - zone ≤ poll.finished ∧ 0 < poll.toUnix

instance (poll : Poll) (zone : Int) : Decidable (poll.Consistent zone) := by
  unfold Poll.Consistent
  infer_instance

namespace Observation

variable (observation : Observation)

def start (time : Rat) : Loop where
  prevTime := none
  nextTime := time + observation.interval
  resumes := time
  readings := []

/-- A turn of `_start_observe_historian_task`, which sleeps for one second at its end. A failed
iteration requests no window. -/
def turn (zone : Int) : Transition Loop Poll := fun loop poll =>
  if loop.resumes ≤ poll.now then
    if loop.nextTime ≤ poll.now then
      if poll.Consistent zone then
        some {
          prevTime := some poll.now
          nextTime := poll.now + observation.interval
          resumes := poll.finished + 1
          readings := match observation.runObserveHistorianIter poll.downlink poll.mongo poll.toUnix with
            | .ok _ => loop.readings ++ [poll.toUnix]
            | .error _ => loop.readings }
      else none
    else some { loop with resumes := poll.now + 1 }
  else none

/-- The window of the query that `get` builds, when it has an upper end. -/
def window (item : Property) (served toUnix : Rat) : Option (Window Int) :=
  match getQuery served (some (observation.getInput toUnix item)) with
  | .ok query => query.lt.map fun lt => ⟨query.gte, lt⟩
  | .error _ => none

def windows (loop : Loop) (item : Property) (served : Rat) : List (Window Int) :=
  loop.readings.filterMap (observation.window item served)

/-- Each iteration reads a time that is one interval after that of the one before it, up to
the truncation; or the windows span no time. -/
def Spaced (readings : List Rat) : Prop :=
  (0 ≤ observation.interval ∧ readings.IsChain fun earlier later =>
    truncate (later - observation.interval) = truncate earlier) ∨
  ∀ first ∈ readings.head?, ∀ last ∈ readings.getLast?,
    truncate last ≤ truncate (first - observation.interval)

end Observation

section Truncation

theorem truncate_mono {x y : Rat} (le : x ≤ y) : truncate x ≤ truncate y := by
  unfold truncate
  by_cases positive : 0 ≤ x
  · rw [if_pos positive, if_pos (positive.trans le)]
    exact Rat.floor_monotone le
  · rw [if_neg positive]
    have negative : 0 ≤ (-x).floor := Rat.le_floor_iff.mpr (by simpa using le_of_not_ge positive)
    by_cases later : 0 ≤ y
    · rw [if_pos later]
      have above : 0 ≤ y.floor := Rat.le_floor_iff.mpr (by simpa using later)
      omega
    · rw [if_neg later]
      exact neg_le_neg (Rat.floor_monotone (neg_le_neg le))

/-- The fraction that `modf` gives is less than a second. -/
theorem modf_near (time : Rat) : |time - truncate time| < 1 := by
  unfold truncate
  rw [abs_lt]
  split_ifs with positive
  · have below := Rat.floor_le time
    have above := Rat.lt_floor_add_one time
    push_cast at above
    constructor <;> linarith
  · have below := Rat.floor_le (-time)
    have above := Rat.lt_floor_add_one (-time)
    push_cast at above ⊢
    constructor <;> linarith

theorem fromTimestamp_def (time : Rat) : fromTimestamp time =
    truncate time * 1000000 + roundEven (double ((time - truncate time) * 1000000)) := rfl

theorem fromTimestamp_near (time : Rat) : |time * 1000000 - fromTimestamp time| < 1 := by
  have size : |(time - truncate time) * 1000000| < 2 ^ (20 : Int) := by
    rw [abs_mul]
    norm_num
    linarith [modf_near time]
  have error := double_error size
  have rounded := roundEven_near (double ((time - truncate time) * 1000000))
  norm_num at error
  rw [fromTimestamp_def]
  push_cast
  rw [abs_le] at error rounded
  rw [abs_lt]
  constructor <;> linarith

theorem fromTimestamp_intCast (n : Int) : fromTimestamp n = n * 1000000 := by
  have whole : truncate n = n := by
    unfold truncate
    rw [← Int.cast_neg, Rat.floor_intCast, Rat.floor_intCast, neg_neg, ite_self]
  rw [fromTimestamp_def, whole, sub_self, zero_mul, double_zero, ← Int.cast_zero, roundEven_intCast, add_zero]

theorem utcfromtimestamp_truncate {time : Rat} {date : Int} (dated : utcfromtimestamp time = .ok date) :
    utcfromtimestamp (truncate time) = .ok (truncate time * 1000000) := by
  obtain ⟨lower, upper⟩ := abs_lt.mp (fromTimestamp_near time)
  simp only [utcfromtimestamp] at dated ⊢
  rw [fromTimestamp_intCast]
  split at dated
  case isFalse => cases dated
  case isTrue inRange =>
    refine if_pos ?_
    have least : (-62135596800000000 : Rat) ≤ fromTimestamp time := by exact_mod_cast inRange.1
    have most : (fromTimestamp time : Rat) ≤ 253402300799999999 := by
      exact_mod_cast Int.le_of_lt_add_one inRange.2
    unfold truncate
    by_cases positive : 0 ≤ time
    · have whole := Rat.floor_le time
      have above : 0 ≤ time.floor := Rat.le_floor_iff.mpr (by simpa using positive)
      have last : (time.floor : Rat) < 253402300800 := by linarith
      have last' : time.floor < 253402300800 := by exact_mod_cast last
      rw [if_pos positive]
      omega
    · have below : 0 ≤ (-time).floor := Rat.le_floor_iff.mpr (by simpa using le_of_not_ge positive)
      have first : ((-time).floor : Rat) < 62135596801 := by
        have floor := Rat.floor_le (-time)
        linarith
      have first' : (-time).floor < 62135596801 := by exact_mod_cast first
      rw [if_neg positive]
      omega

end Truncation

namespace Observation

variable {observation : Observation}

def Dated (observation : Observation) (toUnix : Rat) : Prop :=
  (∃ date, utcfromtimestamp (toUnix - observation.interval) = .ok date) ∧
    ∃ date, utcfromtimestamp toUnix = .ok date

theorem dated_of_ran {downlink : Downlink} {mongo : Mongo} {toUnix : Rat} {docs : List Doc}
    (ran : observation.runObserveHistorianIter downlink mongo toUnix = .ok docs) : observation.Dated toUnix := by
  obtain ⟨props, listed, -⟩ := bind_ok ran
  obtain ⟨first, opened, listed⟩ := bind_ok listed
  obtain ⟨last, closed, -⟩ := bind_ok listed
  exact ⟨⟨first, opened⟩, ⟨last, closed⟩⟩

/-- `get` truncates both ends to whole seconds. -/
theorem window_eq {toUnix : Rat} (dated : observation.Dated toUnix) (positive : 0 < toUnix) (item : Property)
    (served : Rat) : observation.window item served toUnix =
      some ⟨truncate (toUnix - observation.interval) * 1000000, truncate toUnix * 1000000⟩ := by
  obtain ⟨⟨first, opened⟩, last, closed⟩ := dated
  have gte := utcfromtimestamp_truncate opened
  have lt : queryEnd (some toUnix) = .ok (some (truncate toUnix * 1000000)) := by
    simp only [queryEnd]
    rw [if_neg (ne_of_gt positive), utcfromtimestamp_truncate closed]
    rfl
  have queried : getQuery served (some (observation.getInput toUnix item)) =
      .ok ⟨truncate (toUnix - observation.interval) * 1000000, some (truncate toUnix * 1000000),
        some item.propertyName |>.filter (· ≠ ""), some item.thingId |>.filter (· ≠ ""),
        some item.servient |>.filter (· ≠ "")⟩ := by
    unfold getQuery
    simp only [getInput, Option.getD_some, gte, lt]
    rfl
  unfold window
  rw [queried]
  rfl

/-- What every turn keeps: the readings are dates after the epoch, each is at least one second
before the loop resumes, and they are in order. -/
structure Ordered (observation : Observation) (zone : Int) (loop : Loop) : Prop where
  dated : ∀ toUnix ∈ loop.readings, 0 < toUnix ∧ observation.Dated toUnix
  passed : ∀ toUnix ∈ loop.readings, toUnix - zone + 1 ≤ loop.resumes + 1 / 1000000
  sorted : loop.readings.Pairwise (· ≤ ·)

theorem turn_ordered {zone : Int} {loop next : Loop} {poll : Poll} (ordered : observation.Ordered zone loop)
    (turned : observation.turn zone loop poll = some next) : observation.Ordered zone next := by
  unfold turn at turned
  split at turned
  case isFalse => cases turned
  case isTrue resumed =>
    split at turned
    case isFalse =>
      cases turned
      refine ⟨ordered.dated, fun toUnix member => ?_, ordered.sorted⟩
      have passed := ordered.passed toUnix member
      simp only
      linarith
    case isTrue due =>
      split at turned
      case isFalse => cases turned
      case isTrue consistent =>
        obtain ⟨after, before, positive⟩ := consistent
        -- what has passed before the turn has passed after it
        have older : ∀ toUnix ∈ loop.readings, toUnix - zone + 1 ≤ poll.finished + 1 + 1 / 1000000 := by
          intro toUnix member
          have passed := ordered.passed toUnix member
          linarith
        cases ran : observation.runObserveHistorianIter poll.downlink poll.mongo poll.toUnix with
        | error why =>
          rw [ran] at turned
          cases turned
          -- a failed iteration notes no reading
          exact ⟨ordered.dated, older, ordered.sorted⟩
        | ok docs =>
          rw [ran] at turned
          cases turned
          constructor
          case dated =>
            intro toUnix member
            cases List.mem_append.mp member with
            | inl earlier => exact ordered.dated toUnix earlier
            | inr last => exact List.mem_singleton.mp last ▸ ⟨positive, dated_of_ran ran⟩
          case passed =>
            intro toUnix member
            cases List.mem_append.mp member with
            | inl earlier => exact older toUnix earlier
            | inr last =>
              rw [List.mem_singleton.mp last]
              simp only
              linarith
          case sorted =>
            refine List.pairwise_append.mpr ⟨ordered.sorted, List.pairwise_singleton _ _, ?_⟩
            intro earlier member last isLast
            have passed := ordered.passed earlier member
            rw [List.mem_singleton.mp isLast]
            linarith

theorem ordered_of_run {zone : Int} {time : Rat} {polls : List Poll} {loop : Loop}
    (ran : Transition.run (observation.turn zone) (observation.start time) polls = some loop) :
    observation.Ordered zone loop :=
  Transition.run_invariant (fun _ _ _ (_ : True) => turn_ordered) (fun _ _ => trivial)
    ⟨by simp [start], by simp [start], List.Pairwise.nil⟩ ran

def requested (observation : Observation) (toUnix : Rat) : Window Int :=
  ⟨truncate (toUnix - observation.interval) * 1000000, truncate toUnix * 1000000⟩

theorem requested_forward {readings : List Rat} (sorted : readings.Pairwise (· ≤ ·)) :
    Window.Forward (readings.map observation.requested) := by
  refine List.pairwise_map.mpr (sorted.imp fun le => ?_)
  have opens := truncate_mono (sub_le_sub_right le (observation.interval : Rat))
  have closes := truncate_mono le
  exact ⟨by simp only [requested]; omega, by simp only [requested]; omega⟩

theorem requested_adjacent {readings : List Rat} : Window.Adjacent (readings.map observation.requested) ↔
    readings.IsChain fun earlier later => truncate (later - observation.interval) = truncate earlier := by
  unfold Window.Adjacent
  rw [List.isChain_map]
  have same : ∀ earlier later, (observation.requested earlier).closes = (observation.requested later).opens ↔
      truncate (later - observation.interval) = truncate earlier := by
    intro earlier later
    simp only [requested]
    omega
  simp only [same]

theorem requested_span {readings : List Rat} :
    (∀ first ∈ (readings.map observation.requested).head?, ∀ last ∈ (readings.map observation.requested).getLast?,
      last.closes ≤ first.opens) ↔
    ∀ first ∈ readings.head?, ∀ last ∈ readings.getLast?, truncate last ≤ truncate (first - observation.interval) := by
  simp only [List.head?_map, List.getLast?_map, Option.mem_map, forall_exists_index, and_imp,
    forall_apply_eq_imp_iff₂]
  refine forall₂_congr fun first _ => forall₂_congr fun last _ => ?_
  simp only [requested]
  omega

/-- In every run the windows partition their span exactly when the iterations are spaced by
the interval, up to the truncation. -/
theorem partition_iff_spaced {zone : Int} {time : Rat} {polls : List Poll} {loop : Loop}
    (ran : Transition.run (observation.turn zone) (observation.start time) polls = some loop)
    (item : Property) (served : Rat) :
    Window.Partition (observation.windows loop item served) ↔ observation.Spaced loop.readings := by
  have ordered := ordered_of_run ran
  have windows : observation.windows loop item served = loop.readings.map observation.requested := by
    unfold Observation.windows
    rw [← List.filterMap_eq_map]
    exact List.filterMap_congr fun toUnix member =>
      window_eq (ordered.dated toUnix member).2 (ordered.dated toUnix member).1 item served
  have forward : Window.Forward (loop.readings.map observation.requested) := requested_forward ordered.sorted
  rw [windows]
  unfold Spaced
  rw [← requested_adjacent, ← requested_span]
  by_cases nonneg : 0 ≤ observation.interval
  · have proper : ∀ window ∈ loop.readings.map observation.requested, window.opens ≤ window.closes := by
      intro window member
      obtain ⟨toUnix, -, rfl⟩ := List.mem_map.mp member
      have back : toUnix - observation.interval ≤ toUnix := sub_le_self _ (by exact_mod_cast nonneg)
      have opens := truncate_mono back
      simp only [requested]
      omega
    have adjacent := Window.partition_iff_adjacent forward proper
    constructor
    · exact fun partition => Or.inl ⟨nonneg, adjacent.mp partition⟩
    · intro spaced
      cases spaced with
      | inl chain => exact adjacent.mpr chain.2
      | inr none =>
        intro first isFirst last isLast x lower upper
        exact absurd (lower.trans_lt upper) (not_lt_of_ge (none first isFirst last isLast))
  -- with a negative interval no window has a second
  · have empty : ∀ window ∈ loop.readings.map observation.requested, window.closes ≤ window.opens := by
      intro window member
      obtain ⟨toUnix, -, rfl⟩ := List.mem_map.mp member
      have forth : toUnix ≤ toUnix - observation.interval := le_sub_self_iff _ |>.mpr (by
        exact_mod_cast Int.le_of_lt (Int.not_le.mp nonneg))
      have closes := truncate_mono forth
      simp only [requested]
      omega
    rw [Window.partition_iff_of_empty empty]
    exact ⟨Or.inr, fun spaced => spaced.resolve_left fun chain => nonneg chain.1⟩

end Observation

/-! A downlink without properties, polled until it has been observed twice. -/

def silent : Downlink where
  consume := .ok ()
  list := .ok []
  get := fun _ _ => .ok []

def epochClock : Mongo where
  utcnow := fun turn => 1 + turn
  after_epoch := fun turn => by omega
  accepts := fun _ => true

def pollAt (now cost : Rat) : Poll := ⟨now, now, now + cost, silent, epochClock⟩

def meterPower : Property := ⟨"power", "meter", "node"⟩

/-- One second of interval, and iterations that start where the windows meet. -/
theorem promptPolls_partition :
    Window.Partition (Observation.windows ⟨1, 1⟩ ⟨some 1002, 1003, 1003, [1001, 1002]⟩ meterPower 1003) := by
  have ran : Transition.run (Observation.turn ⟨1, 1⟩ 0) (Observation.start ⟨1, 1⟩ 1000)
      [pollAt 1001 0, pollAt 1002 0] = some ⟨some 1002, 1003, 1003, [1001, 1002]⟩ := by decide +kernel
  exact (Observation.partition_iff_spaced ran meterPower 1003).mpr (Or.inl (by decide +kernel))

/-- An iteration that takes longer than the interval leaves a gap of one second. -/
theorem lateIteration_not_partition : ∃ loop,
    Transition.run (Observation.turn ⟨1, 1⟩ 0) (Observation.start ⟨1, 1⟩ 1000)
      [pollAt 1001 (3 / 2), pollAt (2007 / 2) 0] = some loop ∧ loop.readings = [1001, 2007 / 2] ∧
      ¬ Window.Partition (Observation.windows ⟨1, 1⟩ loop meterPower 1003) := by
  refine ⟨⟨some (2007 / 2), 2009 / 2, 2009 / 2, [1001, 2007 / 2]⟩, by decide +kernel, rfl, fun partition => ?_⟩
  have windows : Observation.windows ⟨1, 1⟩ ⟨some (2007 / 2), 2009 / 2, 2009 / 2, [1001, 2007 / 2]⟩ meterPower 1003 =
      [⟨1000000000, 1001000000⟩, ⟨1002000000, 1003000000⟩] := by decide +kernel
  rw [windows] at partition
  have one := partition _ rfl _ rfl 1001000000 (by decide) (by decide)
  exact absurd one (by decide)

end Wotemu.Historian
