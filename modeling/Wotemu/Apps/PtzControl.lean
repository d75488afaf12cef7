import Wotemu.Apps.DetectorRun
import Wotemu.Foundation.FairLock

/-! The controls that the detector sends to its cameras.

A frame with faces makes a task that controls the camera of the frame, unless
the lock of the camera is locked. The tasks of one camera take turns by its
lock. They never touch the detections.
-/

set_option autoImplicit false

namespace Wotemu.PtzControl

open Wotemu.Foundation

/-- Where `_control_camera_ptz` is. From `acquire` to `release` it invokes the action of the camera. -/
inductive ControlStage where
  | created
  | waiting
  | invoking
  | ended
  deriving DecidableEq

structure Control where
  camId : String
  stage : ControlStage
  deriving DecidableEq

/-- The detector with the locks and the tasks that `_process_queue` has made. A lock that has not been made yet
is free. -/
structure Controller where
  detector : Detector
  locks : String → FairLock Nat
  controls : Nat → Option Control
  issued : Nat

/-- A step of the detector, or of one control: its first step, the end of its wait, or the end of its invocation,
which may have failed. -/
inductive ControlEvent where
  | detector (event : DetectorEvent)
  | firstStep (id : Nat)
  | resume (id : Nat)
  | invoked (id : Nat) (ok : Bool)

namespace Controller

def start : Controller where
  detector := Detector.start
  locks _ := FairLock.free
  controls _ := none
  issued := 0

variable (state : Controller)

def sighted (event : DetectorEvent) : Option String :=
  match event with
  | .detected faceLocations =>
    if faceLocations = [] then none else state.detector.processing.map Detector.QueueItem.camId
  | _ => none

/-- A control is made unless the lock of the camera is locked. -/
def issue (camId : String) : Controller :=
  if (state.locks camId).locked then state
  else { state with
    controls := Function.update state.controls state.issued (some ⟨camId, .created⟩)
    issued := state.issued + 1 }

def advance (id : Nat) (camId : String) (lock : FairLock Nat) (stage : ControlStage) : Controller :=
  { state with
    locks := Function.update state.locks camId lock
    controls := Function.update state.controls id (some ⟨camId, stage⟩) }

def step (round : Rat → Rat) (maxsize : Int) : Transition Controller ControlEvent := fun state event =>
  match event with
  | .detector event => (Detector.act round maxsize state.detector event).map fun detector =>
    match state.sighted event with
    | some camId => { state with detector }.issue camId
    | none => { state with detector }
  | .firstStep id => match state.controls id with
    | some ⟨camId, .created⟩ => some (state.advance id camId ((state.locks camId).acquire id)
        (if (state.locks camId).available then .invoking else .waiting))
    | _ => none
  | .resume id => match state.controls id with
    | some ⟨camId, .waiting⟩ => ((state.locks camId).resume id).map fun lock => state.advance id camId lock .invoking
    | _ => none
  | .invoked id _ => match state.controls id with
    | some ⟨camId, .invoking⟩ => (state.locks camId).release.map fun lock => state.advance id camId lock .ended
    | _ => none

/-- What the lock of a camera has to do with a control. -/
def lockStage (camId : String) : Option Control → LockStage
  | some ⟨other, .waiting⟩ => if other = camId then .waiting else .away
  | some ⟨other, .invoking⟩ => if other = camId then .holding else .away
  | _ => .away

def view (camId : String) : Agents Nat (FairLock Nat) LockStage :=
  ⟨state.locks camId, fun id => lockStage camId (state.controls id)⟩

structure Ordered : Prop where
  orderly : ∀ camId, ∃ line, FairLock.Orderly (state.view camId) line
  fresh : ∀ id, state.issued ≤ id → state.controls id = none

variable {state} {next : Controller} {round : Rat → Rat} {maxsize : Int} {id : Nat} {camId other : String}

theorem lockStage_waiting {control : Option Control} :
    lockStage camId control = .waiting ↔ control = some ⟨camId, .waiting⟩ := by
  cases control with
  | none => simp [lockStage]
  | some control =>
    obtain ⟨cam, stage⟩ := control
    by_cases same : cam = camId <;> cases stage <;> simp [lockStage, same]

theorem lockStage_holding {control : Option Control} :
    lockStage camId control = .holding ↔ control = some ⟨camId, .invoking⟩ := by
  cases control with
  | none => simp [lockStage]
  | some control =>
    obtain ⟨cam, stage⟩ := control
    by_cases same : cam = camId <;> cases stage <;> simp [lockStage, same]

theorem lockStage_other {stage : ControlStage} (different : other ≠ camId) :
    lockStage camId (some ⟨other, stage⟩) = .away := by
  cases stage <;> simp [lockStage, different]

theorem view_advance_self (lock : FairLock Nat) (stage : ControlStage) :
    (state.advance id camId lock stage).view camId =
      (state.view camId).advance id lock (lockStage camId (some ⟨camId, stage⟩)) := by
  simp only [view, advance, Agents.advance, Function.update_self, Agents.mk.injEq, true_and]
  funext agent
  by_cases same : agent = id
  · subst same
    simp
  · simp [Function.update_of_ne same]

theorem view_advance_other (lock : FairLock Nat) {before stage : ControlStage}
    (own : state.controls id = some ⟨camId, before⟩) (different : other ≠ camId) :
    (state.advance id camId lock stage).view other = state.view other := by
  simp only [view, advance, Function.update_of_ne different, Agents.mk.injEq, true_and]
  funext agent
  by_cases same : agent = id
  · subst same
    simp [own, lockStage_other different.symm]
  · simp [Function.update_of_ne same]

theorem Ordered.advance (ordered : state.Ordered) {lock : FairLock Nat} {before stage : ControlStage}
    {action : LockAction} (own : state.controls id = some ⟨camId, before⟩)
    (acted : FairLock.step (state.view camId) (id, action) = some ((state.advance id camId lock stage).view camId)) :
    (state.advance id camId lock stage).Ordered := by
  constructor
  case orderly =>
    intro cam
    by_cases same : cam = camId
    · subst same
      obtain ⟨line, orderly⟩ := ordered.orderly cam
      exact orderly.step acted
    · rw [view_advance_other lock own same]
      exact ordered.orderly cam
  case fresh =>
    intro agent new
    have different : agent ≠ id := by
      rintro rfl
      rw [ordered.fresh agent new] at own
      cases own
    simp only [Controller.advance, Function.update_of_ne different]
    exact ordered.fresh agent new

theorem Ordered.issue (ordered : state.Ordered) (camId : String) : (state.issue camId).Ordered := by
  unfold Controller.issue
  split
  · exact ordered
  · constructor
    case orderly =>
      intro cam
      have same : Controller.view { state with
          controls := Function.update state.controls state.issued (some ⟨camId, .created⟩)
          issued := state.issued + 1 } cam = state.view cam := by
        simp only [view, Agents.mk.injEq, true_and]
        funext agent
        by_cases new : agent = state.issued
        · subst new
          simp [ordered.fresh state.issued (le_refl _), lockStage]
        · simp [Function.update_of_ne new]
      rw [same]
      exact ordered.orderly cam
    case fresh =>
      intro agent new
      have later : state.issued < agent := new
      simp only [Function.update_of_ne later.ne']
      exact ordered.fresh agent later.le

theorem Ordered.step {event : ControlEvent} (ordered : state.Ordered)
    (stepped : step round maxsize state event = some next) : next.Ordered := by
  cases event with
  | detector event =>
    obtain ⟨detector, -, rfl⟩ := Option.map_eq_some_iff.mp stepped
    have same : Controller.Ordered { state with detector } := ⟨ordered.orderly, ordered.fresh⟩
    cases state.sighted event with
    | none => exact same
    | some camId => exact same.issue camId
  | firstStep id =>
    simp only [Controller.step] at stepped
    split at stepped <;> try contradiction
    rename_i camId own
    cases stepped
    refine @Ordered.advance _ _ _ ordered _ _ _ .acquire own ?_
    rw [view_advance_self]
    -- the control asks for the lock of its camera
    have away : (state.view camId).stage id = .away := by simp [view, own, lockStage]
    simp only [FairLock.step, away, Option.some.injEq]
    cases available : (state.locks camId).available <;> simp [view, available, lockStage]
  | resume id =>
    simp only [Controller.step] at stepped
    split at stepped <;> try contradiction
    rename_i camId own
    obtain ⟨lock, resumed, rfl⟩ := Option.map_eq_some_iff.mp stepped
    refine @Ordered.advance _ _ _ ordered _ _ _ .resume own ?_
    rw [view_advance_self]
    -- a waiter whose turn has come
    have waiting : (state.view camId).stage id = .waiting := lockStage_waiting.mpr own
    have goes : (state.view camId).shared.resume id = some lock := resumed
    simp [FairLock.step, waiting, goes, lockStage]
  | invoked id ok =>
    simp only [Controller.step] at stepped
    split at stepped <;> try contradiction
    rename_i camId own
    obtain ⟨lock, released, rfl⟩ := Option.map_eq_some_iff.mp stepped
    refine @Ordered.advance _ _ _ ordered _ _ _ .release own ?_
    rw [view_advance_self]
    -- the holder releases the lock, whether the call failed or not
    have holding : (state.view camId).stage id = .holding := lockStage_holding.mpr own
    have leaves : (state.view camId).shared.release = some lock := released
    simp [FairLock.step, holding, leaves, lockStage]

theorem ordered_start : start.Ordered := by
  constructor
  case orderly =>
    intro camId
    exact ⟨[], FairLock.orderly_free⟩
  case fresh => exact fun _ _ => rfl

theorem ordered_run {events : List ControlEvent} {finish : Controller}
    (ran : Transition.run (step round maxsize) start events = some finish) : finish.Ordered :=
  Transition.run_invariant (fun _ _ _ (_ : True) ordered stepped => ordered.step stepped) (fun _ _ => trivial)
    ordered_start ran

def Invoking (state : Controller) (camId : String) (id : Nat) : Prop := state.controls id = some ⟨camId, .invoking⟩

def Waiting (state : Controller) (camId : String) (id : Nat) : Prop := state.controls id = some ⟨camId, .waiting⟩

/-- The controls of a camera exclude each other by its lock, and none of them is forgotten. -/
structure Exclusive (round : Rat → Rat) (maxsize : Int) (state : Controller) : Prop where
  alone : ∀ camId first second, state.Invoking camId first → state.Invoking camId second → first = second
  locked : ∀ camId, (state.locks camId).locked = true ↔ ∃ id, state.Invoking camId id
  goes_on : ∀ camId id, state.Waiting camId id → (∃ holder, state.Invoking camId holder) ∨
    ∃ first, state.Waiting camId first ∧ (step round maxsize state (.resume first)).isSome = true

theorem Ordered.exclusive (ordered : state.Ordered) : state.Exclusive round maxsize := by
  constructor
  case alone =>
    intro camId first second left right
    obtain ⟨line, orderly⟩ := ordered.orderly camId
    exact orderly.guarded.alone first second (lockStage_holding.mpr left) (lockStage_holding.mpr right)
  case locked =>
    intro camId
    obtain ⟨line, orderly⟩ := ordered.orderly camId
    constructor
    · intro locked
      obtain ⟨id, holding⟩ := orderly.held locked
      exact ⟨id, lockStage_holding.mp holding⟩
    · rintro ⟨id, invoking⟩
      exact orderly.guarded.locked id (lockStage_holding.mpr invoking)
  case goes_on =>
    intro camId id waiting
    obtain ⟨line, orderly⟩ := ordered.orderly camId
    rcases orderly.goes_on (lockStage_waiting.mpr waiting) with ⟨holder, holding⟩ | ⟨first, waits, resumes⟩
    · exact .inl ⟨holder, lockStage_holding.mp holding⟩
    · have own := lockStage_waiting.mp waits
      refine .inr ⟨first, own, ?_⟩
      rw [FairLock.step, waits] at resumes
      simpa [Controller.step, own, view] using resumes

def detection : ControlEvent → Option DetectorEvent
  | .detector event => some event
  | _ => none

theorem detector_issue (camId : String) : (state.issue camId).detector = state.detector := by
  unfold issue
  split <;> rfl

theorem step_detector {event : ControlEvent} (stepped : step round maxsize state event = some next) :
    Transition.run (Detector.act round maxsize) state.detector (detection event).toList = some next.detector := by
  cases event with
  | detector event =>
    obtain ⟨detector, acted, rfl⟩ := Option.map_eq_some_iff.mp stepped
    refine Transition.run_cons.mpr ⟨detector, acted, ?_⟩
    cases state.sighted event <;> simp [detector_issue]
  | firstStep id =>
    simp only [step] at stepped
    split at stepped <;> cases stepped
    rfl
  | resume id =>
    simp only [step] at stepped
    split at stepped <;> try contradiction
    obtain ⟨lock, -, rfl⟩ := Option.map_eq_some_iff.mp stepped
    rfl
  | invoked id ok =>
    simp only [step] at stepped
    split at stepped <;> try contradiction
    obtain ⟨lock, -, rfl⟩ := Option.map_eq_some_iff.mp stepped
    rfl

theorem run_detector {events : List ControlEvent} {finish : Controller}
    (ran : Transition.run (step round maxsize) state events = some finish) :
    Transition.run (Detector.act round maxsize) state.detector (events.filterMap detection) = some finish.detector := by
  -- along the events: a step of a control is no event of the detector
  induction events generalizing state with
  | nil =>
    cases ran
    rfl
  | cons event rest ih =>
    obtain ⟨next, stepped, later⟩ := Transition.run_cons.mp ran
    have both := Transition.run_append (step_detector stepped) (ih later)
    cases found : detection event <;> simpa [List.filterMap_cons, found] using both

/-- In every run, in any order of the steps of the detector and of the controls, at most one control of a camera
is between its `acquire` and its `release`, and the detections are those of the detector alone. -/
theorem controls_exclusive {events : List ControlEvent} {finish : Controller}
    (ran : Transition.run (step round maxsize) start events = some finish) :
    finish.Exclusive round maxsize ∧
      Transition.run (Detector.act round maxsize) Detector.start (events.filterMap detection) = some finish.detector :=
  ⟨(ordered_run ran).exclusive, run_detector ran⟩

/-- Every control takes its first step before the faces of the next frame are found, as the event loop has it,
which runs the callbacks that are ready in their order. -/
def Prompt (state : Controller) : ControlEvent → Prop
  | .detector (.detected _) => ∀ id < state.issued, (state.controls id).map Control.stage ≠ some .created
  | _ => True

instance (state : Controller) : DecidablePred (Prompt state)
  | .detector (.detected _) => inferInstanceAs (Decidable (∀ _ < _, _))
  | .detector (.onNext _) | .detector (.get _) | .firstStep _ | .resume _ | .invoked _ _ => .isTrue trivial

theorem Ordered.handled (ordered : state.Ordered) {faceLocations : List Detector.FaceLocation}
    (prompt : state.Prompt (.detector (.detected faceLocations))) (id : Nat) (cam : String) :
    state.controls id ≠ some ⟨cam, .created⟩ := by
  intro created
  have old : id < state.issued := by
    by_contra new
    rw [ordered.fresh id (Nat.le_of_not_lt new)] at created
    cases created
  exact prompt id old (by rw [created]; rfl)

/-- Nobody waits for a lock, and the control that is new finds its lock available. -/
structure Unqueued (state : Controller) : Prop where
  settled : ∀ camId id, ¬ state.Waiting camId id
  nobody : ∀ camId, (state.locks camId).waiters = []
  newest : ∀ first second cam camOther, state.controls first = some ⟨cam, .created⟩ →
    state.controls second = some ⟨camOther, .created⟩ → first = second
  unlocked : ∀ id camId, state.controls id = some ⟨camId, .created⟩ → (state.locks camId).locked = false

theorem Unqueued.issue (unqueued : state.Unqueued) (handled : ∀ id cam, state.controls id ≠ some ⟨cam, .created⟩)
    (camId : String) : (state.issue camId).Unqueued := by
  unfold Controller.issue
  split
  case isTrue => exact unqueued
  case isFalse unlocked =>
    -- the control that is issued is the only new one
    have only : ∀ id cam, Function.update state.controls state.issued (some ⟨camId, .created⟩) id =
        some ⟨cam, .created⟩ → id = state.issued ∧ cam = camId := by
      intro id cam created
      by_cases same : id = state.issued
      · subst same
        simp only [Function.update_self, Option.some.injEq, Control.mk.injEq, and_true] at created
        exact ⟨rfl, created.symm⟩
      · rw [Function.update_of_ne same] at created
        exact absurd created (handled id cam)
    constructor
    case settled =>
      intro cam id waiting
      by_cases same : id = state.issued
      · subst same
        simp [Waiting] at waiting
      · simp only [Waiting, Function.update_of_ne same] at waiting
        exact unqueued.settled cam id waiting
    case nobody => exact unqueued.nobody
    case newest =>
      intro first second cam camOther left right
      rw [(only first cam left).1, (only second camOther right).1]
    case unlocked =>
      intro id cam created
      rw [(only id cam created).2]
      simpa using unlocked

theorem Unqueued.advance (unqueued : state.Unqueued) {lock : FairLock Nat} {stage : ControlStage}
    (nobody : lock.waiters = []) (moved : stage = .invoking ∨ stage = .ended)
    (remains : ∀ other, other ≠ id → state.controls other = some ⟨camId, .created⟩ → lock.locked = false) :
    (state.advance id camId lock stage).Unqueued := by
  have others : ∀ other control, (state.advance id camId lock stage).controls other = some control →
      control.stage = .created ∨ control.stage = .waiting → other ≠ id ∧ state.controls other = some control := by
    intro other control found early
    by_cases same : other = id
    · subst same
      simp only [Controller.advance, Function.update_self, Option.some.injEq] at found
      subst found
      -- the control itself is neither new nor a waiter any more
      rcases moved with rfl | rfl <;> simp at early
    · simp only [Controller.advance, Function.update_of_ne same] at found
      exact ⟨same, found⟩
  constructor
  case settled =>
    intro cam other waiting
    exact unqueued.settled cam other (others other _ waiting (.inr rfl)).2
  case nobody =>
    intro cam
    by_cases same : cam = camId
    · subst same
      simpa [Controller.advance] using nobody
    · simp only [Controller.advance, Function.update_of_ne same]
      exact unqueued.nobody cam
  case newest =>
    intro first second cam camOther left right
    exact unqueued.newest first second cam camOther (others first _ left (.inl rfl)).2
      (others second _ right (.inl rfl)).2
  case unlocked =>
    intro other cam created
    obtain ⟨different, before⟩ := others other _ created (.inl rfl)
    by_cases same : cam = camId
    · subst same
      simp only [Controller.advance, Function.update_self]
      exact remains other different before
    · simp only [Controller.advance, Function.update_of_ne same]
      exact unqueued.unlocked other cam before

theorem Unqueued.step {event : ControlEvent} (unqueued : state.Unqueued) (ordered : state.Ordered)
    (prompt : state.Prompt event)
    (stepped : Controller.step round maxsize state event = some next) : next.Unqueued := by
  cases event with
  | detector event =>
    obtain ⟨detector, -, rfl⟩ := Option.map_eq_some_iff.mp stepped
    have same : Controller.Unqueued { state with detector } :=
      ⟨unqueued.settled, unqueued.nobody, unqueued.newest, unqueued.unlocked⟩
    cases sighted : state.sighted event with
    | none => exact same
    | some camId =>
      cases event with
      | detected faceLocations => exact same.issue (ordered.handled prompt) camId
      | onNext frame => cases sighted
      | get now => cases sighted
  | firstStep id =>
    simp only [Controller.step] at stepped
    split at stepped <;> try contradiction
    rename_i camId own
    cases stepped
    -- nobody waits and nobody holds the lock, so the control takes it at once
    have available : (state.locks camId).available = true := by
      simp [FairLock.available, unqueued.nobody camId, unqueued.unlocked id camId own]
    rw [available, FairLock.acquire, available]
    refine unqueued.advance (unqueued.nobody camId) (.inl rfl) ?_
    intro other different created
    -- only one control is new
    exact absurd (unqueued.newest other id camId camId created own) different
  | resume id =>
    simp only [Controller.step] at stepped
    split at stepped <;> try contradiction
    rename_i camId own
    -- without waiters nobody is resumed
    exact absurd own (unqueued.settled camId id)
  | invoked id ok =>
    simp only [Controller.step] at stepped
    split at stepped <;> try contradiction
    rename_i camId own
    obtain ⟨lock, released, rfl⟩ := Option.map_eq_some_iff.mp stepped
    simp only [FairLock.release, Option.ite_none_right_eq_some, Option.some.injEq] at released
    obtain ⟨-, rfl⟩ := released
    refine unqueued.advance ?_ (.inr rfl) fun _ _ _ => rfl
    rw [unqueued.nobody camId]
    rfl

theorem unqueued_start : start.Unqueued := by
  constructor <;> simp [start, Waiting, FairLock.free]

def Unfinished (state : Controller) (camId : String) (id : Nat) : Prop :=
  ∃ stage, state.controls id = some ⟨camId, stage⟩ ∧ stage ≠ .ended

/-- Where each control takes its first step before the next faces are found, no control ever waits for its lock:
a camera has at most one control that has not ended, and everything seen meanwhile is skipped. -/
theorem controls_never_queue {events : List ControlEvent} {finish : Controller}
    (ran : Transition.run (step round maxsize) start events = some finish)
    (prompt : Transition.Along (step round maxsize) Prompt start events) :
    (∀ camId id, ¬ finish.Waiting camId id) ∧
      ∀ camId first second, finish.Unfinished camId first → finish.Unfinished camId second → first = second := by
  have kept : ∀ state event next, Unqueued state ∧ Ordered state → Prompt state event →
      step round maxsize state event = some next → Unqueued next ∧ Ordered next :=
    fun _ _ _ holds prompt stepped => ⟨holds.1.step holds.2 prompt stepped, holds.2.step stepped⟩
  obtain ⟨unqueued, ordered⟩ := Transition.run_preserves kept ⟨unqueued_start, ordered_start⟩ ran prompt
  have exclusive := @Ordered.exclusive _ round maxsize ordered
  refine ⟨unqueued.settled, ?_⟩
  -- a control is new, and its lock unlocked, or it invokes
  have either : ∀ camId id, finish.Unfinished camId id →
      finish.controls id = some ⟨camId, .created⟩ ∨ finish.Invoking camId id := by
    rintro camId id ⟨stage, own, unfinished⟩
    cases stage with
    | created => exact .inl own
    | waiting => exact absurd own (unqueued.settled camId id)
    | invoking => exact .inr own
    | ended => exact absurd rfl unfinished
  have apart : ∀ camId first second, finish.controls first = some ⟨camId, .created⟩ →
      ¬ finish.Invoking camId second := by
    intro camId first second created invoking
    have locked := (exclusive.locked camId).mpr ⟨second, invoking⟩
    rw [unqueued.unlocked first camId created] at locked
    cases locked
  intro camId first second left right
  rcases either camId first left with newFirst | invokes <;>
    rcases either camId second right with newSecond | invokesToo
  · exact unqueued.newest first second camId camId newFirst newSecond
  · exact absurd invokesToo (apart camId first second newFirst)
  · exact absurd invokes (apart camId second first newSecond)
  · exact exclusive.alone camId first second invokes invokesToo

end Controller

def seenTwice (between : List ControlEvent) : List ControlEvent :=
  [.detector (.onNext (Detector.freshFrame "door" 1)), .detector (.get 0), .detector (.detected [(0, 1, 1, 0)])] ++
    between ++
    [.detector (.onNext (Detector.freshFrame "door" 1)), .detector (.get 0), .detector (.detected [(0, 1, 1, 0)])]

/-- Both controls are made before the first one has taken a step, and the second one waits. -/
theorem seenTwice_exclusive : ∃ finish, Transition.run (Controller.step id 50) Controller.start
      (seenTwice [] ++ [.firstStep 0, .firstStep 1, .invoked 0 true]) = some finish ∧
    finish.Waiting "door" 1 ∧ (finish.locks "door").locked = false ∧ ∃ first,
      finish.Waiting "door" first ∧ (Controller.step id 50 finish (.resume first)).isSome = true := by
  have found : (Transition.run (Controller.step id 50) Controller.start
      (seenTwice [] ++ [.firstStep 0, .firstStep 1, .invoked 0 true])).map (fun finish =>
        (finish.controls 1, (finish.locks "door").locked)) = some (some ⟨"door", .waiting⟩, false) := by decide +kernel
  obtain ⟨finish, ran, same⟩ := Option.map_eq_some_iff.mp found
  obtain ⟨waiting, unlocked⟩ := Prod.mk.inj same
  refine ⟨finish, ran, waiting, unlocked, ?_⟩
  have exclusive := (Controller.controls_exclusive ran).1
  refine (exclusive.goes_on "door" 1 waiting).resolve_left fun holder => ?_
  rw [(exclusive.locked "door").mpr holder] at unlocked
  cases unlocked

/-- The second face is seen while the first control invokes the action, and is skipped. -/
theorem seenTwice_unqueued : ∃ finish,
    Transition.run (Controller.step id 50) Controller.start (seenTwice [.firstStep 0]) = some finish ∧
    finish.issued = 1 ∧ ∀ first second, finish.Unfinished "door" first → finish.Unfinished "door" second →
      first = second := by
  have found : (Transition.run (Controller.step id 50) Controller.start (seenTwice [.firstStep 0])).map
      Controller.issued = some 1 := by decide +kernel
  obtain ⟨finish, ran, issued⟩ := Option.map_eq_some_iff.mp found
  exact ⟨finish, ran, issued, (Controller.controls_never_queue ran (by decide +kernel)).2 "door"⟩

end Wotemu.PtzControl
