import Wotemu.Monitor.Capture

/-! The buffer of `monitor_system`, and what a cancelled monitor has not passed on.

Samples are kept until a group is complete, and packets until the next drain.
Neither loop passes its tail on when it is cancelled.
-/

set_option autoImplicit false

namespace Wotemu

open Wotemu.Foundation

/-- Where the loop is. The first sleep comes before the first sample. -/
inductive SamplingStage where
  | starting
  | sleeping
  | calling
  | ended
  deriving DecidableEq

structure Sampling where
  data : List SystemSample
  read : List SystemSample
  groups : List (List SystemSample)
  stage : SamplingStage
  deriving DecidableEq

inductive SamplingEvent where
  | primed
  | wake (sample : SystemSample)
  | returned
  | cancel
  deriving DecidableEq

/-- `not group_size or len(data) >= group_size` -/
def groupComplete (groupSize : Option Int) (length : Nat) : Bool := match groupSize with
  | none => true
  | some size => size = 0 ∨ (length : Int) ≥ size

namespace Sampling

def start : Sampling where
  data := []
  read := []
  groups := []
  stage := .starting

/-- `_read_system` and the start of `_invoke_callback`, at the end of a sleep. -/
def readSystem (groupSize : Option Int) (sampling : Sampling) (sample : SystemSample) : Sampling :=
  let data := sampling.data ++ [sample]
  let read := sampling.read ++ [sample]
  if groupComplete groupSize data.length then
    { sampling with data, read, groups := sampling.groups ++ [data], stage := .calling }
  else { sampling with data, read }

/-- `monitor_system`. A cancellation arrives where the loop awaits. -/
def step (groupSize : Option Int) : Transition Sampling SamplingEvent := fun sampling event =>
  match event, sampling.stage with
  | .primed, .starting => some { sampling with stage := .sleeping }
  | .wake sample, .sleeping => some (sampling.readSystem groupSize sample)
  | .returned, .calling => some { sampling with data := [], stage := .sleeping }
  | .cancel, .sleeping | .cancel, .calling => some { sampling with stage := .ended }
  | _, _ => none

def Incomplete (groupSize : Option Int) (data : List SystemSample) : Prop :=
  data = [] ∨ ∃ size, groupSize = some size ∧ (data.length : Int) < size

/-- What every step keeps: the groups and a buffer that is yet to be passed are what was read. -/
structure Flows (groupSize : Option Int) (sampling : Sampling) : Prop where
  buffered : sampling.stage = .starting ∨ sampling.stage = .sleeping →
    sampling.groups.flatten ++ sampling.data = sampling.read ∧ Incomplete groupSize sampling.data
  passed : sampling.stage = .calling → sampling.groups.flatten = sampling.read

variable {groupSize : Option Int} {sampling next : Sampling}

theorem flows_readSystem (flows : sampling.Flows groupSize) (sleeping : sampling.stage = .sleeping)
    (sample : SystemSample) : (sampling.readSystem groupSize sample).Flows groupSize := by
  obtain ⟨conserved, -⟩ := flows.buffered (.inr sleeping)
  have moved : sampling.groups.flatten ++ (sampling.data ++ [sample]) = sampling.read ++ [sample] := by
    rw [← List.append_assoc, conserved]
  unfold readSystem
  simp only
  split
  case isTrue complete =>
    refine ⟨fun either => by cases either <;> contradiction, fun _ => ?_⟩
    rw [← moved, List.flatten_append, List.flatten_singleton]
  case isFalse incomplete =>
    refine ⟨fun _ => ⟨moved, .inr ?_⟩, fun calling => ?_⟩
    · cases groupSize with
      | none => exact absurd rfl incomplete
      | some size =>
        simp only [groupComplete, decide_eq_true_eq, not_or, not_le, ge_iff_le] at incomplete
        exact ⟨size, rfl, incomplete.2⟩
    · rw [sleeping] at calling
      cases calling

theorem step_flows {event : SamplingEvent} (flows : sampling.Flows groupSize)
    (stepped : step groupSize sampling event = some next) : next.Flows groupSize := by
  unfold step at stepped
  split at stepped <;> cases stepped
  case h_1 starting =>
    exact ⟨fun _ => flows.buffered (.inl starting), fun calling => by cases calling⟩
  case h_2 sample sleeping => exact flows_readSystem flows sleeping sample
  case h_3 calling =>
    refine ⟨fun _ => ⟨?_, .inl rfl⟩, fun calling => by cases calling⟩
    rw [List.append_nil]
    exact flows.passed calling
  case h_4 | h_5 => exact ⟨fun either => by cases either <;> contradiction, fun calling => by cases calling⟩

theorem run_flows {events : List SamplingEvent} (ran : Transition.run (step groupSize) start events = some sampling) :
    sampling.Flows groupSize :=
  Transition.run_invariant (fun _ _ _ (_ : True) => step_flows) (fun _ _ => trivial)
    ⟨fun _ => ⟨rfl, .inl rfl⟩, fun calling => by cases calling⟩ ran

end Sampling

namespace Capture

/-- The loop has left its `try` block with these batches. -/
def Left (batches : List (List Packet)) (capture : Capture) : Prop :=
  capture.batches = batches ∧ (capture.stage = .terminating ∨ capture.stage = .ended)

variable {queueSize : Int} {capture next : Capture} {batches : List (List Packet)}

theorem step_left {event : CaptureEvent} (left : Left batches capture)
    (stepped : step queueSize capture event = some next) : Left batches next := by
  obtain ⟨same, stage⟩ := left
  cases event with
  | put packet | drop packet =>
    simp only [step] at stepped
    split at stepped <;> cases stepped
    exact ⟨same, stage⟩
  | terminated =>
    simp only [step] at stepped
    split at stepped <;> cases stepped
    exact ⟨same, .inr rfl⟩
  | empty reported | get | getEmpty | returned | checked | stopped exited | wake | cancel exited =>
    simp only [step] at stepped
    cases stage with
    | inl terminating =>
      rw [terminating] at stepped
      cases stepped
    | inr ended =>
      rw [ended] at stepped
      cases stepped

theorem left_of_cancel {exited : Bool} (stepped : step queueSize capture (.cancel exited) = some next) :
    Left capture.batches next := by
  simp only [step] at stepped
  split at stepped <;> cases stepped <;> cases exited
  · exact ⟨rfl, .inl rfl⟩
  · exact ⟨rfl, .inr rfl⟩
  · exact ⟨rfl, .inl rfl⟩
  · exact ⟨rfl, .inr rfl⟩

end Capture

/-- What a system monitor has passed on when it is cancelled asleep: everything that it read but an
incomplete group. -/
structure SamplingTail (groupSize : Option Int) (asleep finish : Sampling) : Prop where
  read : finish.read = asleep.read
  passed : finish.groups.flatten ++ finish.data = finish.read
  tail : Sampling.Incomplete groupSize finish.data
  returned : finish.stage = .ended

/-- A run of `monitor_system` that is cancelled asleep. -/
structure SamplingCancelled (groupSize : Option Int) (events : List SamplingEvent) (asleep finish : Sampling) :
    Prop where
  ran : Transition.run (Sampling.step groupSize) Sampling.start events = some asleep
  sleeping : asleep.stage = .sleeping
  cancelled : Sampling.step groupSize asleep .cancel = some finish

/-- A run of `monitor_packets` that is cancelled asleep, and returns after some further events. -/
structure CaptureCancelled (queueSize : Int) (events later : List CaptureEvent) (exited : Bool)
    (asleep finish : Capture) : Prop where
  ran : Transition.run (Capture.step queueSize) Capture.start events = some asleep
  sleeping : asleep.stage = .sleeping
  returned : Transition.run (Capture.step queueSize) asleep (.cancel exited :: later) = some finish
  ended : finish.stage = .ended

/-- The samples and packets that were read or accepted before the cancellation have been passed on in
order and exactly once, except for an incomplete group of samples and the packets that were in
the queue, which have not been passed on at all. -/
theorem passed_when_cancelled :
    (∀ groupSize events asleep finish, SamplingCancelled groupSize events asleep finish →
      SamplingTail groupSize asleep finish) ∧
    ∀ queueSize events later exited asleep finish, CaptureCancelled queueSize events later exited asleep finish →
      finish.batches.flatten ++ asleep.queue = asleep.accepted := by
  constructor
  · intro groupSize events asleep finish run
    obtain ⟨conserved, tail⟩ := (Sampling.run_flows run.ran).buffered (.inr run.sleeping)
    have cancelled := run.cancelled
    simp only [Sampling.step, run.sleeping, Option.some.injEq] at cancelled
    subst cancelled
    exact ⟨rfl, conserved, tail, rfl⟩
  · intro queueSize events later exited asleep finish run
    obtain ⟨next, stepped, ran⟩ := Transition.run_cons.mp run.returned
    have left := Transition.run_invariant (fun _ _ _ (_ : True) => Capture.step_left) (fun _ _ => trivial)
      (Capture.left_of_cancel stepped) ran
    rw [left.1]
    exact (Capture.run_flows run.ran).settled (run.sleeping ▸ rfl)

/-! A sample and a packet of the first round. -/

def oneSample : SystemSample := ⟨1, some 5, none, none⟩

def onePacket : Packet := ⟨1, 60, "10.0.1.9", "10.0.1.6", "http", "tcp", none, some 80⟩

def lonelySample : Sampling := ⟨[oneSample], [oneSample], [], .sleeping⟩

def latePacket : Capture := ⟨[onePacket], [onePacket], [], .sleeping⟩

theorem lonelySample_cancelled :
    SamplingCancelled (some 2) [.primed, .wake oneSample] lonelySample { lonelySample with stage := .ended } :=
  ⟨by decide +kernel, rfl, rfl⟩

theorem latePacket_cancelled : CaptureCancelled 100 [.empty true, .checked, .put onePacket] [.terminated] false
    latePacket { latePacket with stage := .ended } :=
  ⟨by decide +kernel, rfl, by decide +kernel, rfl⟩

theorem first_round_passed : SamplingTail (some 2) lonelySample { lonelySample with stage := .ended } ∧
    ({ latePacket with stage := .ended } : Capture).batches.flatten ++ latePacket.queue = latePacket.accepted :=
  ⟨passed_when_cancelled.1 _ _ _ _ lonelySample_cancelled, passed_when_cancelled.2 _ _ _ _ _ _ latePacket_cancelled⟩

/-- Neither of the two has been passed on when the monitors return. -/
theorem first_round_not_passed :
    (¬ ∀ groupSize events asleep finish, SamplingCancelled groupSize events asleep finish →
      finish.groups.flatten = asleep.read) ∧
    ¬ ∀ queueSize events later exited asleep finish, CaptureCancelled queueSize events later exited asleep finish →
      finish.batches.flatten = asleep.accepted := by
  constructor
  · intro all
    exact absurd (all _ _ _ _ lonelySample_cancelled) (by decide +kernel)
  · intro all
    exact absurd (all _ _ _ _ _ _ latePacket_cancelled) (by decide +kernel)

end Wotemu
