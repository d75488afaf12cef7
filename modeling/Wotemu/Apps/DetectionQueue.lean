import Mathlib.Algebra.Order.Ring.Rat
import Mathlib.Data.Prod.Lex
import Wotemu.Foundation.Dict
import Wotemu.Foundation.Heaps
import Wotemu.Foundation.Transition

/-! The queue of the detector, between the subscriptions and the consumer.

An entry is a pair of a priority and a dictionary. Pairs are compared by their
priorities; when these are equal the dictionaries are compared, and two
different dictionaries have no order.
-/

set_option autoImplicit false

namespace Wotemu.Detector

open Wotemu.Foundation

structure QueueItem where
  b64Jpg : String
  timeCapture : Rat
  timeArrival : Rat
  camId : String
  deriving DecidableEq

abbrev Entry := Rat × QueueItem

inductive QueueError where
  | zeroDivisionError
  | typeError
  deriving DecidableEq

def entryLt (first second : Entry) : Except QueueError Bool :=
  if first.1 = second.1 then
    if first.2 = second.2 then .ok false else .error .typeError
  else .ok (first.1 < second.1)

/-- A frame that a subscription delivers: the data of the item, the camera, the counters, and the
two times at which `_on_next` reads the clock. -/
structure Frame where
  timeCapture : Rat
  b64Jpg : String
  camId : String
  counters : Dict String Nat
  timePriority : Rat
  timeArrival : Rat

def Frame.item (frame : Frame) : QueueItem where
  b64Jpg := frame.b64Jpg
  timeCapture := frame.timeCapture
  timeArrival := frame.timeArrival
  camId := frame.camId

/-- `asyncio.PriorityQueue(maxsize)`, without a bound when it is not positive. -/
def full (maxsize : Int) (queue : Array Entry) : Bool := 0 < maxsize ∧ maxsize ≤ queue.size

inductive Outcome where
  | enqueued
  | dropped
  | raised (why : QueueError)
  | got (entry : Entry)
  deriving DecidableEq

def putNowait (queue : Array Entry) (entry : Entry) : Outcome × Array Entry :=
  let pushed := Heap.heappush entryLt queue entry
  match pushed.1 with
  | .ok _ => (.enqueued, pushed.2)
  | .error why => (.raised why, pushed.2)

def get (queue : Array Entry) : Option (Outcome × Array Entry) :=
  (Heap.heappop entryLt queue).map fun (popped, queue) => match popped with
    | .ok entry => (.got entry, queue)
    | .error why => (.raised why, queue)

inductive QueueEvent where
  | onNext (frame : Frame)
  | get

section Queue

-- how the operations on floats round is left open
variable (round : Rat → Rat) (maxsize : Int)

def Frame.age (frame : Frame) : Rat := round (frame.timePriority - frame.timeCapture)

/-- `_frame_priority` -/
def framePriority (frame : Frame) : Except QueueError Rat :=
  let age := frame.age round
  let camCount := (frame.counters.value? frame.camId).getD 0
  if age = 0 then .error .zeroDivisionError else .ok (round (round camCount + round (1 / age)))

/-- `_on_next`: only the error of a full queue is caught. -/
def onNext (queue : Array Entry) (frame : Frame) : Outcome × Array Entry :=
  match framePriority round frame with
  | .error why => (.raised why, queue)
  | .ok prio => if full maxsize queue then (.dropped, queue) else putNowait queue (prio, frame.item)

/-- What an event does. The consumer waits while there is nothing to get. -/
def respond (queue : Array Entry) : QueueEvent → Option (Outcome × Array Entry)
  | .onNext frame => some (onNext round maxsize queue frame)
  | .get => get queue

def step : Transition (Array Entry) QueueEvent := fun queue event => (respond round maxsize queue event).map Prod.snd

/-- A frame is enqueued under its priority, or dropped because the queue is full, which leaves the
queue as it was; a frame that is handed out has the least priority, and the others stay. -/
def Serves (queue : Array Entry) (event : QueueEvent) : Prop :=
  ∀ outcome next, respond round maxsize queue event = some (outcome, next) → match event with
    | .onNext frame =>
      outcome = .enqueued ∧ (∃ prio, framePriority round frame = .ok prio ∧
        next.toList.Perm ((prio, frame.item) :: queue.toList)) ∨
      outcome = .dropped ∧ full maxsize queue = true ∧ next = queue
    | .get => ∃ entry, outcome = .got entry ∧ queue.toList.Perm (entry :: next.toList) ∧
      ∀ other ∈ queue.toList, entry.1 ≤ other.1

def Frame.weight (frame : Frame) : Rat :=
  round (round ((frame.counters.value? frame.camId).getD 0) + round (1 / frame.age round))

/-- The frame does not arrive at the very time of its capture, and has the priority of no other
frame of the queue, unless it finds the queue full. -/
def Orderable (queue : Array Entry) : QueueEvent → Prop
  | .onNext frame => frame.age round ≠ 0 ∧ (full maxsize queue = true ∨
      ∀ other ∈ queue.toList, other.1 = frame.weight round → other.2 = frame.item)
  | .get => True

end Queue

/-! Keys for which the comparison is sound: the priority, with one entry before its equals. -/

def keyBefore (favoured entry : Entry) : Rat ×ₗ Nat := toLex (entry.1, if entry = favoured then 0 else 1)

theorem sound_keyBefore (favoured : Entry) : Heap.Sound entryLt (keyBefore favoured) := by
  intro first second less compared
  unfold entryLt at compared
  split at compared
  case isTrue samePrio =>
    split at compared
    case isTrue sameItem =>
      cases compared
      rw [show first = second from Prod.ext samePrio sameItem]
      exact iff_of_false Bool.false_ne_true (lt_irrefl _)
    case isFalse => cases compared
  case isFalse differ =>
    cases compared
    rw [keyBefore, keyBefore, Prod.Lex.toLex_lt_toLex, decide_eq_true_iff]
    exact ⟨.inl, fun less => less.resolve_right fun both => differ both.1⟩

theorem prio_le_of_keyBefore {favoured first second : Entry}
    (le : keyBefore favoured first ≤ keyBefore favoured second) : first.1 ≤ second.1 := by
  rw [keyBefore, keyBefore, Prod.Lex.toLex_le_toLex] at le
  exact le.elim le_of_lt fun both => both.1.le

theorem not_keyBefore {favoured entry : Entry} (samePrio : entry.1 = favoured.1) (other : entry ≠ favoured) :
    ¬ keyBefore favoured entry ≤ keyBefore favoured favoured := by
  rw [keyBefore, keyBefore, Prod.Lex.toLex_le_toLex, if_neg other, if_pos rfl, samePrio]
  simp

def Heaped (queue : Array Entry) : Prop := ∀ favoured, Heap.IsHeap (keyBefore favoured) queue

/-- Entries of one priority are equal. -/
def Untied (queue : Array Entry) : Prop := ∀ first ∈ queue.toList, ∀ second ∈ queue.toList,
  first.1 = second.1 → first = second

structure WellOrdered (queue : Array Entry) : Prop where
  heaped : Heaped queue
  untied : Untied queue

theorem comparable_of_untied {items : List Entry}
    (untied : ∀ first ∈ items, ∀ second ∈ items, first.1 = second.1 → first = second) :
    Heap.Comparable entryLt items := by
  intro first isFirst second isSecond
  unfold entryLt
  split
  case isTrue samePrio =>
    rw [if_pos (congrArg Prod.snd (untied first isFirst second isSecond samePrio))]
    exact ⟨_, rfl⟩
  case isFalse => exact ⟨_, rfl⟩

variable {round : Rat → Rat} {maxsize : Int} {queue next : Array Entry} {outcome : Outcome}

theorem framePriority_eq (round : Rat → Rat) (frame : Frame) : framePriority round frame =
    if frame.age round = 0 then .error .zeroDivisionError else .ok (frame.weight round) := rfl

theorem framePriority_ok_iff {frame : Frame} {prio : Rat} :
    framePriority round frame = .ok prio ↔ frame.age round ≠ 0 ∧ frame.weight round = prio := by
  rw [framePriority_eq]
  split
  case isTrue zero => exact iff_of_false (fun ok => by cases ok) fun both => both.1 zero
  case isFalse nonzero =>
    rw [Except.ok.injEq]
    exact (and_iff_right nonzero).symm

/-- What `put_nowait` does that does not raise. -/
theorem putNowait_enqueued {entry : Entry} (put : putNowait queue entry = (.enqueued, next)) :
    next.toList.Perm (entry :: queue.toList) ∧ (Heaped queue → Heaped next) := by
  unfold putNowait at put
  dsimp only at put
  split at put
  case h_1 pushed =>
    cases put
    exact ⟨Heap.heappush_perm entryLt queue entry, fun heaped favoured =>
      Heap.heappush_isHeap (sound_keyBefore favoured) (heaped favoured) pushed⟩
  case h_2 => cases put

theorem putNowait_untied (entry : Entry) (untied : Untied queue)
    (fresh : ∀ other ∈ queue.toList, other.1 = entry.1 → other.2 = entry.2) :
    ∃ next, putNowait queue entry = (.enqueued, next) ∧ Untied next := by
  have all : ∀ first ∈ entry :: queue.toList, ∀ second ∈ entry :: queue.toList,
      first.1 = second.1 → first = second := by
    intro first firstIn second secondIn samePrio
    obtain rfl | isFirst := List.mem_cons.mp firstIn
    · obtain rfl | isSecond := List.mem_cons.mp secondIn
      · rfl
      · exact Prod.ext samePrio (fresh second isSecond samePrio.symm).symm
    · obtain rfl | isSecond := List.mem_cons.mp secondIn
      · exact Prod.ext samePrio (fresh first isFirst samePrio)
      · exact untied first isFirst second isSecond samePrio
  have pushed := Heap.heappush_ok (comparable_of_untied all)
  have perm := Heap.heappush_perm entryLt queue entry
  refine ⟨(Heap.heappush entryLt queue entry).2, ?_, fun first isFirst second isSecond =>
    all first (perm.mem_iff.mp isFirst) second (perm.mem_iff.mp isSecond)⟩
  simp only [putNowait, pushed]

/-- What `get` does that does not raise. -/
theorem get_got {entry : Entry} (got : get queue = some (.got entry, next)) :
    queue.toList.Perm (entry :: next.toList) ∧ (Heaped queue → Heaped next ∧
      ∀ favoured, ∀ other ∈ queue.toList, keyBefore favoured entry ≤ keyBefore favoured other) := by
  obtain ⟨⟨popped, others⟩, popping, result⟩ := Option.map_eq_some_iff.mp got
  cases popped with
  | error why => cases result
  | ok taken =>
    cases result
    exact ⟨Heap.heappop_perm popping, fun heaped =>
      ⟨fun favoured => Heap.heappop_isHeap (sound_keyBefore favoured) (heaped favoured) popping,
        fun favoured other member => Heap.heappop_least (heaped favoured) popping member⟩⟩

theorem get_untied (untied : Untied queue) (got : get queue = some (outcome, next)) :
    ∃ entry, outcome = .got entry := by
  obtain ⟨⟨popped, others⟩, popping, result⟩ := Option.map_eq_some_iff.mp got
  have filled : 0 < queue.size := by
    refine Nat.pos_of_ne_zero fun empty => ?_
    rw [Array.eq_empty_of_size_eq_zero empty] at popping
    cases popping
  obtain ⟨entry, others, ok⟩ := Heap.heappop_ok (comparable_of_untied untied) filled
  rw [popping] at ok
  cases ok
  cases result
  exact ⟨entry, rfl⟩

theorem onNext_cases (round : Rat → Rat) (maxsize : Int) (queue : Array Entry) (frame : Frame) :
    frame.age round = 0 ∧ onNext round maxsize queue frame = (.raised .zeroDivisionError, queue) ∨
    ∃ prio, framePriority round frame = .ok prio ∧
      (full maxsize queue = true ∧ onNext round maxsize queue frame = (.dropped, queue) ∨
        full maxsize queue = false ∧ onNext round maxsize queue frame = putNowait queue (prio, frame.item)) := by
  by_cases zero : frame.age round = 0
  · refine .inl ⟨zero, ?_⟩
    simp [onNext, framePriority, zero]
  · have known := framePriority_ok_iff.mpr ⟨zero, rfl⟩
    refine .inr ⟨frame.weight round, known, ?_⟩
    cases space : full maxsize queue <;> simp [onNext, known, space]

theorem step_heaped {event : QueueEvent} (heaped : Heaped queue) (serves : Serves round maxsize queue event)
    (stepped : step round maxsize queue event = some next) : Heaped next := by
  obtain ⟨⟨outcome, result⟩, responded, rfl⟩ := Option.map_eq_some_iff.mp stepped
  have served := serves outcome result responded
  cases event with
  | onNext frame =>
    have same := Option.some.inj responded
    -- a raise before the queue is touched, a drop, or a put
    obtain ⟨-, raised⟩ | ⟨prio, -, ⟨-, drop⟩ | ⟨-, put⟩⟩ := onNext_cases round maxsize queue frame
    · rw [raised] at same
      cases same
      exact heaped
    · rw [drop] at same
      cases same
      exact heaped
    · obtain ⟨rfl, -⟩ | ⟨rfl, -, rfl⟩ := served
      · exact (putNowait_enqueued (put.symm.trans same)).2 heaped
      · exact heaped
  | get =>
    obtain ⟨entry, rfl, -⟩ := served
    exact ((get_got responded).2 heaped).1

theorem serves_of_orderable {event : QueueEvent} (ordered : WellOrdered queue)
    (orderable : Orderable round maxsize queue event) :
    Serves round maxsize queue event ∧ ∀ next, step round maxsize queue event = some next → Untied next := by
  cases event with
  | onNext frame =>
    obtain ⟨zero, -⟩ | ⟨prio, known, ⟨space, drop⟩ | ⟨space, put⟩⟩ := onNext_cases round maxsize queue frame
    · exact absurd zero orderable.1
    · refine ⟨fun outcome next responded => ?_, fun next stepped => ?_⟩
      · cases drop.symm.trans (Option.some.inj responded)
        exact .inr ⟨rfl, space, rfl⟩
      · rw [step, respond, drop] at stepped
        cases stepped
        exact ordered.untied
    · have fresh : ∀ other ∈ queue.toList, other.1 = prio → other.2 = frame.item := by
        obtain isFull | fresh := orderable.2
        · rw [isFull] at space
          cases space
        · exact fun other member same => fresh other member (same.trans (framePriority_ok_iff.mp known).2.symm)
      obtain ⟨result, enqueued, untied⟩ := putNowait_untied (prio, frame.item) ordered.untied fresh
      refine ⟨fun outcome next responded => ?_, fun next stepped => ?_⟩
      · cases (put.trans enqueued).symm.trans (Option.some.inj responded)
        exact .inl ⟨rfl, prio, known, (putNowait_enqueued enqueued).1⟩
      · rw [step, respond, put, enqueued] at stepped
        cases stepped
        exact untied
  | get =>
    refine ⟨fun outcome next responded => ?_, fun next stepped => ?_⟩
    · obtain ⟨entry, rfl⟩ := get_untied ordered.untied responded
      have got := get_got responded
      exact ⟨entry, rfl, got.1, fun other member => prio_le_of_keyBefore ((got.2 ordered.heaped).2 other other member)⟩
    · obtain ⟨⟨outcome, result⟩, responded, rfl⟩ := Option.map_eq_some_iff.mp stepped
      obtain ⟨entry, rfl⟩ := get_untied ordered.untied responded
      have stays := (get_got responded).1
      exact fun first isFirst second isSecond =>
        ordered.untied first (stays.mem_iff.mpr (.tail _ isFirst)) second (stays.mem_iff.mpr (.tail _ isSecond))

/-- Of two entries with one priority none can be handed out: it is not known to be the least. -/
theorem tied_stay {event : QueueEvent} {first second : Entry} (heaped : Heaped queue)
    (serves : Serves round maxsize queue event) (stepped : step round maxsize queue event = some next)
    (isFirst : first ∈ queue.toList) (isSecond : second ∈ queue.toList) (samePrio : first.1 = second.1)
    (differ : first ≠ second) : first ∈ next.toList := by
  obtain ⟨⟨outcome, result⟩, responded, rfl⟩ := Option.map_eq_some_iff.mp stepped
  have served := serves outcome result responded
  cases event with
  | onNext frame =>
    obtain ⟨-, prio, -, perm⟩ | ⟨-, -, same⟩ := served
    · exact perm.mem_iff.mpr (.tail _ isFirst)
    · exact same ▸ isFirst
  | get =>
    obtain ⟨entry, rfl, perm, -⟩ := served
    obtain rfl | stays := List.mem_cons.mp (perm.mem_iff.mp isFirst)
    -- for the key that favours the other entry, this one would not be the least
    · exact absurd (((get_got responded).2 heaped).2 second second isSecond) (not_keyBefore samePrio differ)
    · exact stays

theorem tied_not_drained {events : List QueueEvent} {first second : Entry} (heaped : Heaped queue)
    (serves : Transition.Along (step round maxsize) (Serves round maxsize) queue events)
    (isFirst : first ∈ queue.toList) (isSecond : second ∈ queue.toList) (samePrio : first.1 = second.1)
    (differ : first ≠ second) : Transition.run (step round maxsize) queue events ≠ some #[] := by
  induction events generalizing queue with
  | nil =>
    intro drained
    cases drained
    cases isFirst
  | cons event rest ih =>
    intro drained
    obtain ⟨next, stepped, drained⟩ := Transition.run_cons.mp drained
    exact ih (step_heaped heaped serves.1 stepped) (serves.2 next stepped)
      (tied_stay heaped serves.1 stepped isFirst isSecond samePrio differ)
      (tied_stay heaped serves.1 stepped isSecond isFirst samePrio.symm differ.symm) drained

/-- A frame that is enqueued against the condition is tied to another one. -/
theorem orderable_or_tied {event : QueueEvent} (serves : Serves round maxsize queue event)
    (stepped : step round maxsize queue event = some next) : Orderable round maxsize queue event ∨
      ∃ first ∈ next.toList, ∃ second ∈ next.toList, first.1 = second.1 ∧ first ≠ second := by
  obtain ⟨⟨outcome, result⟩, responded, rfl⟩ := Option.map_eq_some_iff.mp stepped
  have served := serves outcome result responded
  cases event with
  | get => exact .inl trivial
  | onNext frame =>
    obtain ⟨zero, raised⟩ | ⟨prio, known, -⟩ := onNext_cases round maxsize queue frame
    · cases raised.symm.trans (Option.some.inj responded)
      obtain ⟨enqueued, -⟩ | ⟨dropped, -⟩ := served
      · cases enqueued
      · cases dropped
    · obtain ⟨nonzero, rfl⟩ := framePriority_ok_iff.mp known
      obtain ⟨-, same, knownSame, perm⟩ | ⟨-, isFull, -⟩ := served
      · cases known.symm.trans knownSame
        -- a frame that was put anyway stays beside the entry it is tied to
        by_cases fresh : ∀ other ∈ queue.toList, other.1 = frame.weight round → other.2 = frame.item
        · exact .inl ⟨nonzero, .inr fresh⟩
        · obtain ⟨other, fresh⟩ := not_forall.mp fresh
          obtain ⟨member, tied⟩ := Classical.not_imp.mp fresh
          obtain ⟨samePrio, differ⟩ := Classical.not_imp.mp tied
          exact .inr ⟨other, perm.mem_iff.mpr (.tail _ member), _, perm.mem_iff.mpr (.head _), samePrio,
            fun same => differ (congrArg Prod.snd same)⟩
      · exact .inl ⟨nonzero, .inl isFull⟩

theorem orderable_of_drained {events : List QueueEvent} (heaped : Heaped queue)
    (serves : Transition.Along (step round maxsize) (Serves round maxsize) queue events)
    (drained : Transition.run (step round maxsize) queue events = some #[]) :
    Transition.Along (step round maxsize) (Orderable round maxsize) queue events := by
  induction events generalizing queue with
  | nil => trivial
  | cons event rest ih =>
    obtain ⟨next, stepped, drained⟩ := Transition.run_cons.mp drained
    have heapedNext := step_heaped heaped serves.1 stepped
    have servesNext := serves.2 next stepped
    obtain orderable | ⟨first, isFirst, second, isSecond, samePrio, differ⟩ := orderable_or_tied serves.1 stepped
    · exact (Transition.along_cons stepped).mpr ⟨orderable, ih heapedNext servesNext drained⟩
    · exact absurd drained (tied_not_drained heapedNext servesNext isFirst isSecond samePrio differ)

theorem heaped_empty : Heaped #[] := fun _ => Heap.isHeap_empty

theorem wellOrdered_empty : WellOrdered #[] := ⟨heaped_empty, fun _ member => by cases member⟩

/-- In every run whose steps meet the condition, every step serves. A run that ends with an empty
queue serves at every step only if it meets the condition. -/
theorem serves_iff_orderable (round : Rat → Rat) (maxsize : Int) (events : List QueueEvent) :
    (Transition.Along (step round maxsize) (Orderable round maxsize) #[] events →
      Transition.Along (step round maxsize) (Serves round maxsize) #[] events) ∧
    (Transition.run (step round maxsize) #[] events = some #[] →
      Transition.Along (step round maxsize) (Serves round maxsize) #[] events →
      Transition.Along (step round maxsize) (Orderable round maxsize) #[] events) := by
  refine ⟨fun orderable => ?_, fun drained serves => orderable_of_drained heaped_empty serves drained⟩
  refine Transition.along_of_preserves (fun queue event ordered orderable => ?_) wellOrdered_empty orderable
  have served := serves_of_orderable ordered orderable
  exact ⟨served.1, fun next stepped => ⟨step_heaped ordered.heaped served.1 stepped, served.2 next stepped⟩⟩

def freshFrame (camId : String) (age : Rat) : Frame where
  timeCapture := 0
  b64Jpg := ""
  camId := camId
  counters := []
  timePriority := age
  timeArrival := age

theorem step_freshFrame : step id 50 #[] (.onNext (freshFrame "door" 1)) = some #[(1, (freshFrame "door" 1).item)] := by
  have prio : framePriority id (freshFrame "door" 1) = .ok 1 := by decide +kernel
  simp [step, respond, onNext, prio, putNowait, full, Heap.heappush, Heap.siftdown]

theorem two_cameras_served :
    Transition.Along (step id 50) (Serves id 50) #[]
      [.onNext (freshFrame "door" 1), .onNext (freshFrame "hall" 2), .get] := by
  refine (serves_iff_orderable id 50 _).1 ((Transition.along_cons step_freshFrame).mpr ⟨⟨by decide +kernel, .inr ?_⟩,
    ⟨by decide +kernel, .inr ?_⟩, fun _ _ => ⟨trivial, fun _ _ => trivial⟩⟩)
  · intro other member
    cases member
  · intro other member samePrio
    cases List.mem_singleton.mp member
    exact absurd samePrio (by decide +kernel)

/-- A frame that arrives at the time of its capture makes `_on_next` divide by zero, and the second
one of two frames with one priority makes it compare two dictionaries. -/
theorem frames_not_served :
    ¬ Transition.Along (step id 50) (Serves id 50) #[] [.onNext (freshFrame "door" 0)] ∧
    ¬ Transition.Along (step id 50) (Serves id 50) #[]
      [.onNext (freshFrame "door" 1), .onNext (freshFrame "hall" 1)] := by
  constructor
  · intro serves
    have raised : respond id 50 #[] (.onNext (freshFrame "door" 0)) = some (.raised .zeroDivisionError, #[]) := by
      decide +kernel
    obtain ⟨enqueued, -⟩ | ⟨dropped, -⟩ := serves.1 _ _ raised
    · cases enqueued
    · cases dropped
  · intro serves
    have prio : framePriority id (freshFrame "hall" 1) = .ok 1 := by decide +kernel
    have differ : (freshFrame "hall" 1).item ≠ (freshFrame "door" 1).item := by decide +kernel
    have raised : respond id 50 #[(1, (freshFrame "door" 1).item)] (.onNext (freshFrame "hall" 1)) =
        some (.raised .typeError, #[(1, (freshFrame "door" 1).item), (1, (freshFrame "hall" 1).item)]) := by
      simp [respond, onNext, prio, putNowait, full, Heap.heappush, Heap.siftdown, Heap.lessAt, entryLt, Heap.parent,
        differ]
    obtain ⟨enqueued, -⟩ | ⟨dropped, -⟩ := (serves.2 _ step_freshFrame).1 _ _ raised
    · cases enqueued
    · cases dropped

end Wotemu.Detector
