import Wotemu.Apps.Detections

/-! The detector with its priority queue and its consumer.

Whatever the queue does, the consumer sees a collection that hands out one of
its frames: each run of the detector is matched by a run over the collection.
-/

set_option autoImplicit false

namespace Wotemu

open Wotemu.Foundation Wotemu.Detector

/-- The queue, the counters and the store that `app` shares between its tasks. -/
structure Detector where
  queue : Array Entry
  processing : Option QueueItem
  counters : Dict String Nat
  store : List Detection

/-- A subscription delivers a frame, the consumer takes one at a time of its clock, or the faces of
the frame in process have been found. -/
inductive DetectorEvent where
  | onNext (frame : Frame)
  | get (now : Rat)
  | detected (faceLocations : List FaceLocation)

namespace Detector

def start : Detector where
  queue := #[]
  processing := none
  counters := []
  store := []

def consumer (detector : Detector) : Consumer where
  queue := detector.queue.toList.map Prod.snd
  processing := detector.processing
  counters := detector.counters
  store := detector.store

def act (round : Rat → Rat) (maxsize : Int) : Transition Detector DetectorEvent := fun detector event =>
  match event with
  | .onNext frame => some { detector with
      queue := (Detector.onNext round maxsize detector.queue { frame with counters := detector.counters }).2 }
  | .get now =>
    if detector.processing = none then match Detector.get detector.queue with
      | some (.got entry, queue) => some { detector with
          queue
          processing := if Consumer.tooOld round entry.2 now then none else some entry.2 }
      | _ => none
    else none
  | .detected faceLocations => detector.processing.map fun item =>
    let consumer := detector.consumer.detected item faceLocations
    { detector with processing := consumer.processing, counters := consumer.counters, store := consumer.store }

structure Represents (detector : Detector) (consumer : Consumer) : Prop where
  queue : consumer.queue.Perm (detector.queue.toList.map Prod.snd)
  processing : consumer.processing = detector.processing
  counters : consumer.counters = detector.counters
  store : consumer.store = detector.store

variable {round : Rat → Rat} {maxsize : Int}

theorem putNowait_perm (queue : Array Entry) (entry : Entry) :
    (putNowait queue entry).2.toList.Perm (entry :: queue.toList) := by
  unfold putNowait
  dsimp only
  split <;> exact Heap.heappush_perm entryLt queue entry

theorem onNext_perm (round : Rat → Rat) (maxsize : Int) (queue : Array Entry) (frame : Frame) :
    (onNext round maxsize queue frame).2 = queue ∨
      ∃ prio, (onNext round maxsize queue frame).2.toList.Perm ((prio, frame.item) :: queue.toList) := by
  obtain ⟨-, raised⟩ | ⟨prio, -, ⟨-, drop⟩ | ⟨-, put⟩⟩ := onNext_cases round maxsize queue frame
  · exact .inl (by rw [raised])
  · exact .inl (by rw [drop])
  · exact .inr ⟨prio, by rw [put]; exact putNowait_perm queue _⟩

theorem act_simulates (detector : Detector) (event : DetectorEvent) (next : Detector) (consumer : Consumer)
    (stepped : act round maxsize detector event = some next) (represents : Represents detector consumer) :
    ∃ matching result, Transition.run (Consumer.step round) consumer matching = some result ∧
      Represents next result := by
  cases event with
  | onNext frame =>
    cases stepped
    obtain same | ⟨prio, perm⟩ :=
      onNext_perm round maxsize detector.queue { frame with counters := detector.counters }
    -- a dropped frame is no step of the consumer
    · exact ⟨[], consumer, rfl, { represents with queue := by rw [same]; exact represents.queue }⟩
    · exact ⟨[.queued frame.item], { consumer with queue := frame.item :: consumer.queue }, rfl,
        { represents with queue := (represents.queue.cons _).trans (perm.map Prod.snd).symm }⟩
  | get now =>
    rw [act] at stepped
    split at stepped
    case isFalse => cases stepped
    case isTrue idle =>
      split at stepped
      case h_2 => cases stepped
      case h_1 entry queue got =>
        cases stepped
        have perm := (get_got got).1.map Prod.snd
        have inside : entry.2 ∈ consumer.queue := represents.queue.mem_iff.mpr (perm.mem_iff.mpr List.mem_cons_self)
        have taken : Consumer.step round consumer (.taken entry.2 now) = some { consumer with
            queue := consumer.queue.erase entry.2
            processing := if Consumer.tooOld round entry.2 now then none else some entry.2 } :=
          if_pos ⟨represents.processing.trans idle, inside⟩
        refine ⟨[.taken entry.2 now], _, Transition.run_cons.mpr ⟨_, taken, rfl⟩,
          { represents with queue := ?_, processing := rfl }⟩
        have erased := (represents.queue.trans perm).erase entry.2
        rwa [List.map_cons, List.erase_cons_head] at erased
  | detected faceLocations =>
    obtain ⟨item, working, rfl⟩ := Option.map_eq_some_iff.mp stepped
    have found : Consumer.step round consumer (.detected faceLocations) =
        some (consumer.detected item faceLocations) := by
      rw [Consumer.step, represents.processing, working]
      rfl
    refine ⟨[.detected faceLocations], _, Transition.run_cons.mpr ⟨_, found, rfl⟩, ?_⟩
    exact {
      queue := represents.queue
      processing := rfl
      counters := by simp only [Consumer.detected, Detector.consumer, represents.counters]
      store := by simp only [Consumer.detected, Detector.consumer, represents.store] }

/-- Every run of the detector is matched by one of its consumer over the collection. -/
theorem run_matched {events : List DetectorEvent} {finish : Detector}
    (ran : Transition.run (act round maxsize) start events = some finish) :
    ∃ matching result, Transition.run (Consumer.step round) Consumer.start matching = some result ∧
      Represents finish result :=
  Transition.run_simulated act_simulates ran ⟨.refl _, rfl, rfl, rfl⟩

theorem store_distinct {events : List DetectorEvent} {finish : Detector}
    (ran : Transition.run (act round maxsize) start events = some finish) :
    (finish.store.map Detection.cameraId).Nodup := by
  obtain ⟨matching, result, matched, represents⟩ := run_matched ran
  have initial : Consumer.Distinct Consumer.start := List.nodup_nil
  have distinct : Consumer.Distinct result :=
    Transition.run_invariant (fun _ _ _ _ distinct stepped => Consumer.distinct_step distinct stepped)
      (fun _ _ => trivial) initial matched
  rw [← represents.store]
  exact distinct

end Detector

end Wotemu
