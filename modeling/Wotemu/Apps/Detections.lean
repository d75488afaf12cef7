import Wotemu.Apps.DetectionQueue
import Wotemu.Foundation.Latest

/-! The consumer of the detector: the frames it takes and the latest detections.

The queue is a collection that hands out any of its frames. Faces are looked
for while new frames arrive.
-/

set_option autoImplicit false

namespace Wotemu.Detector

open Wotemu.Foundation

abbrev FaceLocation := Int × Int × Int × Int

structure Detection where
  cameraId : String
  jpgB64 : String
  faceLocations : List FaceLocation
  unixTime : Rat
  deriving DecidableEq

def QueueItem.detection (item : QueueItem) (faceLocations : List FaceLocation) : Detection where
  cameraId := item.camId
  jpgB64 := item.b64Jpg
  faceLocations := faceLocations
  unixTime := item.timeCapture

def queueMaxSeconds : Rat := 10

/-- What `_process_queue` works on. -/
structure Consumer where
  queue : List QueueItem
  processing : Option QueueItem
  counters : Dict String Nat
  store : List Detection
  deriving DecidableEq

/-- A frame is queued, the consumer takes one at a time of its clock, or the faces of the frame in
process have been found. -/
inductive ConsumerEvent where
  | queued (item : QueueItem)
  | taken (item : QueueItem) (now : Rat)
  | detected (faceLocations : List FaceLocation)

namespace Consumer

def start : Consumer where
  queue := []
  processing := none
  counters := []
  store := []

/-- After the executor and `write_metric`: the counter of the camera is raised, and the detection
replaces that of the camera when there are faces. -/
def detected (consumer : Consumer) (item : QueueItem) (faceLocations : List FaceLocation) : Consumer :=
  let camCount := (consumer.counters.value? item.camId).getD 0
  { consumer with
    processing := none
    counters := consumer.counters.assign item.camId (camCount + 1)
    store := if faceLocations = [] then consumer.store
      else Latest.replace Detection.cameraId consumer.store (item.detection faceLocations) }

section Steps

variable (round : Rat → Rat)

/-- `(time.time() - time_arrival) >= _QUEUE_MAX_SECONDS` -/
def tooOld (item : QueueItem) (now : Rat) : Bool := queueMaxSeconds ≤ round (now - item.timeArrival)

def step : Transition Consumer ConsumerEvent := fun consumer event =>
  match event with
  | .queued item => some { consumer with queue := item :: consumer.queue }
  | .taken item now =>
    if consumer.processing = none ∧ item ∈ consumer.queue then
      some { consumer with
        queue := consumer.queue.erase item
        processing := if tooOld round item now then none else some item }
    else none
  | .detected faceLocations => consumer.processing.map fun item => consumer.detected item faceLocations

def sightings : Option QueueItem → List ConsumerEvent → List Detection
  | _, [] => []
  | processing, .queued _ :: rest => sightings processing rest
  | _, .taken item now :: rest => sightings (if tooOld round item now then none else some item) rest
  | processing, .detected faceLocations :: rest =>
    (if faceLocations = [] then [] else (processing.map fun item => item.detection faceLocations).toList) ++
      sightings none rest

end Steps

/-- The frames of each camera are handed out in the order of their capture. -/
def InCaptureOrder (detections : List Detection) : Prop :=
  detections.Pairwise fun earlier later => earlier.cameraId = later.cameraId → earlier.unixTime ≤ later.unixTime

def entryOf (consumer : Consumer) (cameraId : String) : Option Detection :=
  Latest.find Detection.cameraId consumer.store cameraId

/-- No camera loses its entry, or has one of a frame captured earlier. -/
def NotBefore (first second : Consumer) : Prop := ∀ cameraId old, first.entryOf cameraId = some old →
  ∃ new, second.entryOf cameraId = some new ∧ old.unixTime ≤ new.unixTime

variable {round : Rat → Rat} {consumer next : Consumer}

theorem NotBefore.of_store (same : next.store = consumer.store) : NotBefore consumer next :=
  fun cameraId old found => ⟨old, by rwa [entryOf, same], le_rfl⟩

theorem NotBefore.refl (consumer : Consumer) : NotBefore consumer consumer := .of_store rfl

theorem NotBefore.trans (first second third : Consumer) (before : NotBefore first second)
    (after : NotBefore second third) : NotBefore first third := fun cameraId old found =>
  have ⟨_, between, le⟩ := before cameraId old found
  have ⟨new, found, later⟩ := after cameraId _ between
  ⟨new, found, le_trans le later⟩

def Distinct (consumer : Consumer) : Prop := (consumer.store.map Detection.cameraId).Nodup

theorem distinct_detected (distinct : Distinct consumer) (item : QueueItem) (faceLocations : List FaceLocation) :
    Distinct (consumer.detected item faceLocations) := by
  unfold Distinct detected
  dsimp only
  split
  case isTrue => exact distinct
  case isFalse => exact Latest.nodup_replace distinct _

/-- Nothing is lost when a detection is stored, exactly if its frame was not captured before that
of the entry. -/
theorem notBefore_detected_iff (distinct : Distinct consumer) (item : QueueItem) {faceLocations : List FaceLocation}
    (faces : faceLocations ≠ []) : NotBefore consumer (consumer.detected item faceLocations) ↔
      ∀ old, consumer.entryOf item.camId = some old → old.unixTime ≤ item.timeCapture := by
  have stored (cameraId : String) : (consumer.detected item faceLocations).entryOf cameraId =
      if item.camId = cameraId then some (item.detection faceLocations) else consumer.entryOf cameraId := by
    rw [entryOf, detected, if_neg faces]
    exact Latest.find_replace distinct _ _
  constructor
  · intro kept old found
    obtain ⟨new, foundNew, le⟩ := kept item.camId old found
    rw [stored, if_pos rfl] at foundNew
    cases foundNew
    exact le
  · intro above cameraId old found
    rw [stored]
    split
    case isTrue same => exact ⟨_, rfl, above old (same ▸ found)⟩
    case isFalse other => exact ⟨old, found, le_rfl⟩

theorem distinct_step {event : ConsumerEvent} (distinct : Distinct consumer)
    (stepped : step round consumer event = some next) : Distinct next := by
  cases event with
  | queued item =>
    cases stepped
    exact distinct
  | taken item now =>
    rw [step] at stepped
    split at stepped
    · cases stepped
      exact distinct
    · cases stepped
  | detected faceLocations =>
    obtain ⟨item, -, rfl⟩ := Option.map_eq_some_iff.mp stepped
    exact distinct_detected distinct item faceLocations

/-- The steps keep the times exactly when each sighting rises above the entry of its camera. -/
theorem along_notBefore_iff {finish : Consumer} {events : List ConsumerEvent} (distinct : Distinct consumer)
    (ran : Transition.run (step round) consumer events = some finish) :
    Transition.Along (step round) (fun state event => ∀ next, step round state event = some next → NotBefore state next)
        consumer events ↔
      Latest.Rises Detection.cameraId Detection.unixTime consumer.store
        (sightings round consumer.processing events) := by
  induction events generalizing consumer with
  | nil => exact iff_of_true trivial trivial
  | cons event rest ih =>
    obtain ⟨next, stepped, ran⟩ := Transition.run_cons.mp ran
    rw [Transition.along_cons stepped, ih (distinct_step distinct stepped) ran]
    simp only [stepped, Option.some.injEq, forall_eq']
    cases event with
    | queued item =>
      cases stepped
      exact and_iff_right (.of_store rfl)
    | taken item now =>
      rw [step] at stepped
      split at stepped
      · cases stepped
        exact and_iff_right (.of_store rfl)
      · cases stepped
    | detected faceLocations =>
      obtain ⟨item, working, rfl⟩ := Option.map_eq_some_iff.mp stepped
      -- without faces the store stays, with faces the frame is the next sighting
      rw [working, sightings, Option.map_some, Option.toList_some]
      by_cases faces : faceLocations = []
      · rw [if_pos faces, List.nil_append, detected, if_pos faces]
        exact and_iff_right (.of_store rfl)
      · rw [if_neg faces, List.singleton_append, Latest.Rises, notBefore_detected_iff distinct item faces, detected,
          if_neg faces]
        exact Iff.rfl

/-- In every run there is at most one entry for each camera at any time, and no camera has an entry
of a frame captured earlier than before exactly when the frames with faces are handed out in the
order of their capture. -/
theorem latest_kept_iff (round : Rat → Rat) {events : List ConsumerEvent} {finish : Consumer}
    (ran : Transition.run (step round) start events = some finish) :
    (∀ before after, events = before ++ after → ∀ middle,
      Transition.run (step round) start before = some middle → Distinct middle) ∧
    ((∀ before during after, events = before ++ (during ++ after) → ∀ middle later,
      Transition.run (step round) start before = some middle →
      Transition.run (step round) middle during = some later → NotBefore middle later) ↔
      InCaptureOrder (sightings round none events)) := by
  have distinct : Distinct start := List.nodup_nil
  refine ⟨fun before after _ middle ran => ?_, ?_⟩
  · exact Transition.run_invariant (fun _ _ _ _ distinct stepped => distinct_step distinct stepped)
      (fun _ _ => trivial) distinct ran
  · refine (Transition.along_iff_between NotBefore.refl NotBefore.trans start events).symm.trans ?_
    rw [along_notBefore_iff distinct ran]
    exact (Latest.rises_iff Detection.unixTime distinct _).trans (and_iff_left fun _ _ _ found => by cases found)

def frame (timeCapture timeArrival : Rat) : QueueItem where
  b64Jpg := ""
  timeCapture := timeCapture
  timeArrival := timeArrival
  camId := "door"

def faces : List FaceLocation := [(0, 1, 1, 0)]

def handedOut (first second : QueueItem) : List ConsumerEvent :=
  [.queued (frame 0 1), .queued (frame 2 5), .taken first 6, .detected faces, .taken second 7, .detected faces]

def found (queue : List QueueItem) (count : Nat) (item : QueueItem) : Consumer where
  queue := queue
  processing := none
  counters := [("door", count)]
  store := [item.detection faces]

theorem run_handedOut : Transition.run (step id) start (handedOut (frame 0 1) (frame 2 5)) =
    some (found [] 2 (frame 2 5)) := by
  decide +kernel

theorem frames_kept_in_order :
    Distinct (found [] 2 (frame 2 5)) ∧ NotBefore (found [frame 2 5] 1 (frame 0 1)) (found [] 2 (frame 2 5)) := by
  have kept := latest_kept_iff id run_handedOut
  refine ⟨kept.1 _ [] (List.append_nil _).symm _ run_handedOut, ?_⟩
  have ordered : InCaptureOrder (sightings id none (handedOut (frame 0 1) (frame 2 5))) := by
    unfold InCaptureOrder
    decide +kernel
  exact kept.2.mpr ordered ((handedOut (frame 0 1) (frame 2 5)).take 4) [.taken (frame 2 5) 7, .detected faces] [] rfl
    _ _ (by decide +kernel) (by decide +kernel)

/-- The frame with the longer way has the lower priority number: it is handed out first, and the
frame that was captured earlier replaces it. -/
theorem later_frame_replaced : ¬ ∀ before during after,
    handedOut (frame 2 5) (frame 0 1) = before ++ (during ++ after) → ∀ middle later,
      Transition.run (step id) start before = some middle →
      Transition.run (step id) middle during = some later → NotBefore middle later := by
  intro kept
  have first : Transition.run (step id) start ((handedOut (frame 2 5) (frame 0 1)).take 4) =
      some (found [frame 0 1] 1 (frame 2 5)) := by
    decide +kernel
  have second : Transition.run (step id) (found [frame 0 1] 1 (frame 2 5)) [.taken (frame 0 1) 7, .detected faces] =
      some (found [] 2 (frame 0 1)) := by
    decide +kernel
  obtain ⟨new, stored, le⟩ := kept _ _ [] rfl _ _ first second "door" _ rfl
  cases stored
  exact absurd le (by decide +kernel)

end Consumer

end Wotemu.Detector
