import Mathlib.Data.List.Basic
import Wotemu.Foundation.Transition
import Wotemu.Report.Store

/-! The queue between the capture process and `monitor_packets`.

The capture process puts packets into a bounded queue, and the loop drains it
into batches. The test whether the queue is empty and the get are two steps, and
either may report an empty queue that is not.
-/

set_option autoImplicit false

namespace Wotemu

open Wotemu.Foundation

/-- Where the loop is. A drain has taken some items, and counts them. -/
inductive CaptureStage where
  | testing (items : List Packet) (counter : Nat)
  | getting (items : List Packet) (counter : Nat)
  | calling
  | checking
  | sleeping
  | terminating
  | ended
  deriving DecidableEq

namespace CaptureStage

def items : CaptureStage → List Packet
  | testing items _ | getting items _ => items
  | _ => []

def draining : CaptureStage → Bool
  | testing _ _ | getting _ _ => true
  | _ => false

end CaptureStage

/-- The queue, the packets that it has accepted, and the batches that were passed to the callback. -/
structure Capture where
  queue : List Packet
  accepted : List Packet
  batches : List (List Packet)
  stage : CaptureStage
  deriving DecidableEq

/-- What the capture process does with a packet, and what the loop finds at each of its steps. -/
inductive CaptureEvent where
  | put (packet : Packet)
  | drop (packet : Packet)
  | empty (reported : Bool)
  | get
  | getEmpty
  | returned
  | checked
  | stopped (exited : Bool)
  | wake
  | cancel (exited : Bool)
  | terminated
  deriving DecidableEq

def CaptureEvent.drains : CaptureEvent → Bool
  | empty _ | get | getEmpty => true
  | _ => false

/-- The bound of a `multiprocessing` queue. -/
def semValueMax : Int := 2147483647

def maxsize (queueSize : Int) : Int := if queueSize ≤ 0 then semValueMax else queueSize

namespace Capture

def start : Capture where
  queue := []
  accepted := []
  batches := []
  stage := .testing [] 0

variable (capture : Capture)

/-- The end of `_process_queue`: the callback is awaited unless there are no items. -/
def endDrain (items : List Packet) : Capture :=
  if items.length > 0 then { capture with batches := capture.batches ++ [items], stage := .calling }
  else { capture with stage := .checking }

/-- The `finally` clause, which terminates the process unless it has exited. -/
def leave (exited : Bool) : Capture := { capture with stage := if exited then .ended else .terminating }

/-- An item has been taken: the loop breaks when it has taken more than the size. -/
def append (queueSize : Int) (items : List Packet) (counter : Nat) (item : Packet) : Capture :=
  if ((counter + 1 : Nat) : Int) > queueSize then capture.endDrain (items ++ [item])
  else { capture with stage := .testing (items ++ [item]) (counter + 1) }

/-- `monitor_packets` and its capture process. The producer may step at any time. A cancellation
arrives where the loop awaits. -/
def step (queueSize : Int) : Transition Capture CaptureEvent := fun capture event =>
  match event with
  | .put packet =>
    if (capture.queue.length : Int) < maxsize queueSize then
      some { capture with queue := capture.queue ++ [packet], accepted := capture.accepted ++ [packet] }
    else none
  | .drop _ => if (capture.queue.length : Int) < maxsize queueSize then none else some capture
  | .empty reported => match capture.stage with
    | .testing items counter =>
      some (if reported then capture.endDrain items else { capture with stage := .getting items counter })
    | _ => none
  | .get => match capture.stage, capture.queue with
    | .getting items counter, item :: queue => some ({ capture with queue }.append queueSize items counter item)
    | _, _ => none
  | .getEmpty => match capture.stage with
    | .getting items _ => some (capture.endDrain items)
    | _ => none
  | .returned => match capture.stage with
    | .calling => some { capture with stage := .checking }
    | _ => none
  | .checked => match capture.stage with
    | .checking => some { capture with stage := .sleeping }
    | _ => none
  | .stopped exited => match capture.stage with
    | .checking => some (capture.leave exited)
    | _ => none
  | .wake => match capture.stage with
    | .sleeping => some { capture with stage := .testing [] 0 }
    | _ => none
  | .cancel exited => match capture.stage with
    | .calling | .sleeping => some (capture.leave exited)
    | _ => none
  | .terminated => match capture.stage with
    | .terminating => some { capture with stage := .ended }
    | _ => none

/-- The items of a drain are counted, and the count is in bounds. -/
def Counted (queueSize : Int) : CaptureStage → Prop
  | .testing items counter | .getting items counter => counter = items.length ∧ (items.length : Int) ≤ max 0 queueSize
  | _ => True

structure Sized (queueSize : Int) (batch : List Packet) : Prop where
  nonempty : batch ≠ []
  bounded : (batch.length : Int) ≤ max 1 (queueSize + 1)

/-- What every step keeps: the batches, the items that a drain has taken and the queue are what was
accepted. -/
structure Flows (queueSize : Int) (capture : Capture) : Prop where
  conserved : capture.batches.flatten ++ capture.stage.items ++ capture.queue = capture.accepted
  counted : Counted queueSize capture.stage
  sized : ∀ batch ∈ capture.batches, Sized queueSize batch

variable {queueSize : Int} {capture next : Capture} {items : List Packet}

theorem flows_start (queueSize : Int) : start.Flows queueSize where
  conserved := rfl
  counted := ⟨rfl, le_max_left 0 queueSize⟩
  sized := by
    intro batch member
    cases member

theorem flows_endDrain (sized : ∀ batch ∈ capture.batches, Sized queueSize batch)
    (conserved : capture.batches.flatten ++ items ++ capture.queue = capture.accepted)
    (within : (items.length : Int) ≤ max 1 (queueSize + 1)) : (capture.endDrain items).Flows queueSize := by
  unfold endDrain
  split
  case isTrue some =>
    constructor
    case conserved => simpa [CaptureStage.items] using conserved
    case counted => trivial
    case sized =>
      intro batch member
      cases List.mem_append.mp member with
      | inl earlier => exact sized batch earlier
      | inr last => exact List.mem_singleton.mp last ▸ ⟨List.ne_nil_of_length_pos some, within⟩
  case isFalse none =>
    have empty : items = [] := List.eq_nil_of_length_eq_zero (Nat.eq_zero_of_not_pos none)
    subst empty
    exact ⟨conserved, trivial, sized⟩

theorem flows_append {counter : Nat} {item : Packet} {queue : List Packet} (flows : capture.Flows queueSize)
    (stage : capture.stage = .getting items counter) (first : capture.queue = item :: queue) :
    ({ capture with queue }.append queueSize items counter item).Flows queueSize := by
  have counted := flows.counted
  have conserved := flows.conserved
  rw [stage] at counted conserved
  rw [first] at conserved
  obtain ⟨rfl, within⟩ := counted
  have moved : capture.batches.flatten ++ (items ++ [item]) ++ queue = capture.accepted := by
    simpa [CaptureStage.items] using conserved
  have length : (items ++ [item]).length = items.length + 1 := by simp
  unfold append
  split
  case isTrue full => exact flows_endDrain flows.sized moved (by omega)
  case isFalse below => exact ⟨moved, ⟨length.symm, by omega⟩, flows.sized⟩

theorem Flows.settled (flows : capture.Flows queueSize) (outside : capture.stage.draining = false) :
    capture.batches.flatten ++ capture.queue = capture.accepted := by
  have none : capture.stage.items = [] := by
    cases found : capture.stage <;> simp_all [CaptureStage.draining, CaptureStage.items]
  have conserved := flows.conserved
  rwa [none, List.append_nil] at conserved

theorem Flows.leave (flows : capture.Flows queueSize) (outside : capture.stage.draining = false) {stage : CaptureStage}
    (fresh : stage.items = []) (counted : Counted queueSize stage) : { capture with stage }.Flows queueSize := by
  refine ⟨?_, counted, flows.sized⟩
  simpa [fresh] using flows.settled outside

theorem Flows.exit (flows : capture.Flows queueSize) (outside : capture.stage.draining = false) (exited : Bool) :
    (capture.leave exited).Flows queueSize := by
  cases exited with
  | true => exact flows.leave outside rfl trivial
  | false => exact flows.leave outside rfl trivial

theorem step_flows {event : CaptureEvent} (flows : capture.Flows queueSize)
    (stepped : step queueSize capture event = some next) : next.Flows queueSize := by
  cases event with
  | put packet =>
    simp only [step] at stepped
    split at stepped <;> cases stepped
    refine ⟨?_, flows.counted, flows.sized⟩
    rw [← flows.conserved, List.append_assoc _ capture.queue]
  | drop packet =>
    simp only [step] at stepped
    split at stepped <;> cases stepped
    exact flows
  | empty reported =>
    simp only [step] at stepped
    split at stepped
    case h_2 => cases stepped
    case h_1 items counter stage =>
      cases stepped
      have counted := flows.counted
      have conserved := flows.conserved
      rw [stage] at counted conserved
      cases reported with
      | true => exact flows_endDrain flows.sized conserved (counted.2.trans (by omega))
      | false => exact ⟨conserved, counted, flows.sized⟩
  | get =>
    simp only [step] at stepped
    split at stepped
    case h_2 => cases stepped
    case h_1 items counter item queue stage first =>
      cases stepped
      exact flows_append flows stage first
  | getEmpty =>
    simp only [step] at stepped
    split at stepped
    case h_2 => cases stepped
    case h_1 items counter stage =>
      cases stepped
      have counted := flows.counted
      have conserved := flows.conserved
      rw [stage] at counted conserved
      exact flows_endDrain flows.sized conserved (counted.2.trans (by omega))
  | returned =>
    simp only [step] at stepped
    split at stepped <;> cases stepped
    case h_1 stage => exact flows.leave (by rw [stage]; rfl) rfl trivial
  | checked =>
    simp only [step] at stepped
    split at stepped <;> cases stepped
    case h_1 stage => exact flows.leave (by rw [stage]; rfl) rfl trivial
  | stopped exited =>
    simp only [step] at stepped
    split at stepped <;> cases stepped
    case h_1 stage => exact flows.exit (by rw [stage]; rfl) exited
  | wake =>
    simp only [step] at stepped
    split at stepped <;> cases stepped
    case h_1 stage => exact flows.leave (by rw [stage]; rfl) rfl ⟨rfl, le_max_left 0 queueSize⟩
  | cancel exited =>
    simp only [step] at stepped
    split at stepped <;> cases stepped
    case h_1 stage => exact flows.exit (by rw [stage]; rfl) exited
    case h_2 stage => exact flows.exit (by rw [stage]; rfl) exited
  | terminated =>
    simp only [step] at stepped
    split at stepped <;> cases stepped
    case h_1 stage => exact flows.leave (by rw [stage]; rfl) rfl trivial

theorem run_flows {events : List CaptureEvent} (ran : Transition.run (step queueSize) start events = some capture) :
    capture.Flows queueSize :=
  Transition.run_invariant (fun _ _ _ (_ : True) => step_flows) (fun _ _ => trivial) (flows_start queueSize) ran

def remaining (queueSize : Int) : CaptureStage → Int
  | .testing _ counter => 2 * (max 0 queueSize - counter) + 2
  | .getting _ counter => 2 * (max 0 queueSize - counter) + 1
  | _ => 0

theorem remaining_endDrain (items : List Packet) : remaining queueSize (capture.endDrain items).stage = 0 := by
  unfold endDrain
  split <;> rfl

theorem remaining_step {event : CaptureEvent} (flows : capture.Flows queueSize)
    (draining : capture.stage.draining = true) (stepped : step queueSize capture event = some next) :
    remaining queueSize next.stage + (if event.drains then 1 else 0) ≤ remaining queueSize capture.stage := by
  have counted := flows.counted
  cases event with
  | put packet =>
    simp only [step] at stepped
    split at stepped <;> cases stepped
    exact le_of_eq (add_zero _)
  | drop packet =>
    simp only [step] at stepped
    split at stepped <;> cases stepped
    exact le_of_eq (add_zero _)
  | empty reported =>
    simp only [step] at stepped
    split at stepped
    case h_2 => cases stepped
    case h_1 items counter stage =>
      cases stepped
      rw [stage] at counted ⊢
      obtain ⟨rfl, within⟩ := counted
      cases reported with
      | true =>
        rw [if_pos rfl, remaining_endDrain]
        simp only [CaptureEvent.drains, if_true, remaining]
        omega
      | false =>
        simp only [CaptureEvent.drains, if_true, Bool.false_eq_true, if_false, remaining]
        omega
  | get =>
    simp only [step] at stepped
    split at stepped
    case h_2 => cases stepped
    case h_1 items counter item queue stage first =>
      cases stepped
      rw [stage] at counted ⊢
      obtain ⟨rfl, within⟩ := counted
      unfold append
      split
      case isTrue full =>
        rw [remaining_endDrain]
        simp only [CaptureEvent.drains, if_true, remaining]
        omega
      case isFalse below =>
        simp only [CaptureEvent.drains, if_true, remaining]
        omega
  | getEmpty =>
    simp only [step] at stepped
    split at stepped
    case h_2 => cases stepped
    case h_1 items counter stage =>
      cases stepped
      rw [stage] at counted ⊢
      obtain ⟨rfl, within⟩ := counted
      rw [remaining_endDrain]
      simp only [CaptureEvent.drains, if_true, remaining]
      omega
  | returned | checked | stopped exited | wake | cancel exited | terminated =>
    -- the loop is at none of these steps in a drain
    simp only [step] at stepped
    cases stage : capture.stage <;> rw [stage] at stepped draining <;> cases stepped <;> cases draining

/-- While a drain goes on, the loop is not blocked. -/
theorem exists_drain (draining : capture.stage.draining = true) :
    ∃ event, event.drains = true ∧ (step queueSize capture event).isSome := by
  cases stage : capture.stage with
  | testing items counter => exact ⟨.empty true, rfl, by simp [step, stage]⟩
  | getting items counter => exact ⟨.getEmpty, rfl, by simp [step, stage]⟩
  | calling | checking | sleeping | terminating | ended =>
    rw [stage] at draining
    cases draining

/-- What a state of a run shows: outside a drain the batches and the queue are what was accepted,
every batch has between one item and one more than the size, and a drain is never blocked and
ends after two steps for each item that a batch may have. -/
structure Conveyed (queueSize : Nat) (capture : Capture) : Prop where
  conserved : capture.stage.draining = false → capture.batches.flatten ++ capture.queue = capture.accepted
  nonempty : ∀ batch ∈ capture.batches, batch ≠ []
  bounded : ∀ batch ∈ capture.batches, batch.length ≤ queueSize + 1
  unblocked : capture.stage.draining = true →
    ∃ event, event.drains = true ∧ (step queueSize capture event).isSome
  ends : ∀ events finish, Transition.run (step queueSize) capture events = some finish →
    Transition.Along (step queueSize) (fun state _ => state.stage.draining = true) capture events →
    events.countP CaptureEvent.drains ≤ 2 * (queueSize + 1)

theorem remaining_le (flows : capture.Flows queueSize) :
    remaining queueSize capture.stage ≤ 2 * max 0 queueSize + 2 := by
  have counted := flows.counted
  cases stage : capture.stage <;> simp only [remaining] <;> omega

theorem remaining_nonneg (flows : capture.Flows queueSize) : 0 ≤ remaining queueSize capture.stage := by
  have counted := flows.counted
  cases stage : capture.stage with
  | testing items counter | getting items counter =>
    rw [stage] at counted
    have length := counted.1
    have within := counted.2
    simp only [remaining]
    omega
  | calling | checking | sleeping | terminating | ended => exact le_refl 0

/-- Every state of every run of the loop and the capture process. -/
theorem run_conveyed (queueSize : Nat) (events : List CaptureEvent) (capture : Capture)
    (ran : Transition.run (step queueSize) start events = some capture) : capture.Conveyed queueSize := by
  have flows := run_flows ran
  constructor
  case conserved => exact flows.settled
  case nonempty => exact fun batch member => (flows.sized batch member).nonempty
  case bounded =>
    intro batch member
    have bounded := (flows.sized batch member).bounded
    omega
  case unblocked => exact exists_drain
  case ends =>
    intro later finish ran along
    have keeps : ∀ state event next, Flows queueSize state → step queueSize state event = some next →
        Flows queueSize next := fun _ _ _ => step_flows
    have bound := Transition.count_le keeps (fun _ _ _ => remaining_step) flows ran along
    have most := remaining_le flows
    have least := remaining_nonneg (Transition.run_invariant (fun _ _ _ (_ : True) => step_flows)
      (fun _ _ => trivial) flows ran)
    omega

/-- A packet that is put while its batch is being made, and one that finds the queue full. -/
theorem refilled_conveyed : Conveyed 1
    ⟨[⟨3, 60, "a", "b", "http", "tcp", none, none⟩], [⟨1, 60, "a", "b", "http", "tcp", none, none⟩,
      ⟨3, 60, "a", "b", "http", "tcp", none, none⟩], [[⟨1, 60, "a", "b", "http", "tcp", none, none⟩]], .calling⟩ :=
  run_conveyed 1 [.put ⟨1, 60, "a", "b", "http", "tcp", none, none⟩, .drop ⟨2, 60, "a", "b", "http", "tcp", none, none⟩,
    .empty false, .get, .put ⟨3, 60, "a", "b", "http", "tcp", none, none⟩, .empty true] _ (by decide +kernel)

end Capture

end Wotemu
