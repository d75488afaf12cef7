import Wotemu.Apps.Subscriptions

/-! The loops of the subscriber and of the detector, from one error to the next.

The subscriber subscribes to everything that a consumed Thing lets it observe,
the detector to the frames of its cameras, one coroutine for each camera.
-/

set_option autoImplicit false

namespace Wotemu

open Wotemu.Foundation

inductive Interaction where
  | property (name : String)
  | event (name : String)
  deriving DecidableEq

structure ConsumedThing where
  properties : List (String × Bool)
  events : List String
  properties_distinct : (properties.map Prod.fst).Nodup
  events_distinct : events.Nodup

def ConsumedThing.observed (thing : ConsumedThing) : List Interaction :=
  (thing.properties.filter Prod.snd).map (fun entry => .property entry.1) ++ thing.events.map .event

inductive SubscriberStage where
  | consuming
  | waiting
  | cancelling
  | ended
  deriving DecidableEq

/-- The state of `app`. The name `subs` holds the subscriptions of a round, if it is bound. -/
structure Subscriber where
  round : Nat
  subscriptions : List (Subscription Interaction)
  subs : Option Nat
  errorEvent : Bool
  stage : SubscriberStage
  deriving DecidableEq

/-- What happens to the subscriber: it consumes a Thing, or fails after some subscriptions; one of
its subscriptions errs or completes; the error event wakes it; it is cancelled, and the disposal of
some subscriptions raises. -/
inductive SubscriberEvent where
  | consumed (thing : ConsumedThing)
  | failed (thing : ConsumedThing) (count : Nat)
  | error (index : Nat)
  | completed (index : Nat)
  | woken
  | cancel (raises : Interaction → Bool)
  | slept

def SubscriberEvent.wakes : SubscriberEvent → Bool
  | woken => true
  | _ => false

namespace Subscriber

open Subscription

def start : Subscriber where
  round := 0
  subscriptions := []
  subs := none
  errorEvent := false
  stage := .consuming

/-- `await _cancel_subs(subs)` on the way out, or the error of an unbound name. -/
def cancelSubs (subscriber : Subscriber) (raises : Interaction → Bool) : Subscriber := match subscriber.subs with
  | none => { subscriber with stage := .ended }
  | some round => { subscriber with
      subscriptions := subscriber.subscriptions.map fun sub =>
        if sub.round = round ∧ ¬ raises sub.interaction then sub.dispose else sub
      stage := .cancelling }

def step : Transition Subscriber SubscriberEvent := fun subscriber event =>
  match event with
  | .consumed thing =>
    if subscriber.stage = .consuming then
      some { subscriber with
        subscriptions := subscriber.subscriptions ++ opened subscriber.round thing.observed
        subs := some subscriber.round
        stage := .waiting }
    else none
  | .failed thing count =>
    if subscriber.stage = .consuming then
      some { subscriber with
        subscriptions := subscriber.subscriptions ++ opened subscriber.round (thing.observed.take count)
        stage := .ended }
    else none
  | .error index =>
    if isActive subscriber.subscriptions index then
      some { subscriber with subscriptions := subscriber.subscriptions.modify index dispose, errorEvent := true }
    else none
  | .completed index =>
    if isActive subscriber.subscriptions index then
      some { subscriber with subscriptions := subscriber.subscriptions.modify index dispose }
    else none
  | .woken =>
    -- the coroutine that `_cancel_subs` returns is never awaited
    if subscriber.stage = .waiting ∧ subscriber.errorEvent then
      some { subscriber with round := subscriber.round + 1, errorEvent := false, stage := .consuming }
    else none
  | .cancel raises => match subscriber.stage with
    | .consuming | .waiting => some (subscriber.cancelSubs raises)
    | .cancelling => some { subscriber with stage := .ended }
    | .ended => none
  | .slept => if subscriber.stage = .cancelling then some { subscriber with stage := .ended } else none

/-- When the error event wakes the loop, every subscription has ended by itself. -/
def Detached (subscriber : Subscriber) (event : SubscriberEvent) : Prop :=
  event.wakes = true → Settled subscriber.subscriptions

instance (subscriber : Subscriber) (event : SubscriberEvent) : Decidable (Detached subscriber event) :=
  inferInstanceAs (Decidable (event.wakes = true → Settled subscriber.subscriptions))

structure Rounds (subscriber : Subscriber) : Prop where
  exclusive : Exclusive subscriber.round subscriber.subscriptions
  settled : subscriber.stage = .consuming → Settled subscriber.subscriptions

variable {subscriber next : Subscriber}

theorem nodup_observed (thing : ConsumedThing) : thing.observed.Nodup := by
  refine List.nodup_append'.mpr ⟨?_, thing.events_distinct.map fun _ _ same => Interaction.event.inj same, ?_⟩
  · have names : ((thing.properties.filter Prod.snd).map Prod.fst).Nodup :=
      thing.properties_distinct.sublist (List.filter_sublist.map Prod.fst)
    have same : (thing.properties.filter Prod.snd).map (fun entry => Interaction.property entry.1) =
        ((thing.properties.filter Prod.snd).map Prod.fst).map Interaction.property := by
      rw [List.map_map]
      rfl
    rw [same]
    exact names.map fun _ _ equal => Interaction.property.inj equal
  · intro interaction isProperty isEvent
    obtain ⟨_, -, rfl⟩ := List.mem_map.mp isProperty
    obtain ⟨_, -, same⟩ := List.mem_map.mp isEvent
    cases same

theorem Rounds.disposes (rounds : Rounds subscriber) {subscriptions : List (Subscription Interaction)}
    (disposes : Disposes subscriber.subscriptions subscriptions) : Rounds { subscriber with subscriptions } where
  exclusive := rounds.exclusive.disposes disposes
  settled := fun consuming => disposes.settled (rounds.settled consuming)

theorem Rounds.subscribe (rounds : Rounds subscriber) (consuming : subscriber.stage = .consuming)
    {interactions : List Interaction} (distinct : interactions.Nodup) :
    Exclusive subscriber.round (subscriber.subscriptions ++ opened subscriber.round interactions) := by
  refine rounds.exclusive.open distinct fun interaction _ active => ?_
  rw [rounds.settled consuming] at active
  cases active

theorem Rounds.cancelSubs (rounds : Rounds subscriber) (raises : Interaction → Bool) :
    Rounds (subscriber.cancelSubs raises) := by
  unfold Subscriber.cancelSubs
  split
  case h_1 => exact ⟨rounds.exclusive, fun consuming => by cases consuming⟩
  case h_2 round _ =>
    have kept : ∀ sub : Subscription Interaction,
        (if sub.round = round ∧ ¬ raises sub.interaction then sub.dispose else sub) = sub ∨
          (if sub.round = round ∧ ¬ raises sub.interaction then sub.dispose else sub) = sub.dispose := by
      intro sub
      split
      · exact .inr rfl
      · exact .inl rfl
    exact ⟨(rounds.disposes (disposes_map kept subscriber.subscriptions)).exclusive,
      fun consuming => by cases consuming⟩

theorem step_rounds {event : SubscriberEvent} (rounds : Rounds subscriber) (detached : Detached subscriber event)
    (stepped : step subscriber event = some next) : Rounds next := by
  cases event with
  | consumed thing =>
    simp only [step] at stepped
    split at stepped <;> cases stepped
    case consumed.isTrue.refl consuming =>
      exact ⟨rounds.subscribe consuming (nodup_observed thing), fun consuming => by cases consuming⟩
  | failed thing count =>
    simp only [step] at stepped
    split at stepped <;> cases stepped
    case failed.isTrue.refl consuming =>
      have distinct := (nodup_observed thing).sublist (List.take_sublist count _)
      exact ⟨rounds.subscribe consuming distinct, fun consuming => by cases consuming⟩
  | error index =>
    simp only [step] at stepped
    split at stepped <;> cases stepped
    have after := rounds.disposes (disposes_modify subscriber.subscriptions index)
    exact ⟨after.exclusive, after.settled⟩
  | completed index =>
    simp only [step] at stepped
    split at stepped <;> cases stepped
    exact rounds.disposes (disposes_modify subscriber.subscriptions index)
  | woken =>
    simp only [step] at stepped
    split at stepped <;> cases stepped
    exact ⟨(detached rfl).exclusive _, fun _ => detached rfl⟩
  | cancel raises =>
    simp only [step] at stepped
    split at stepped <;> cases stepped
    · exact rounds.cancelSubs raises
    · exact rounds.cancelSubs raises
    · exact ⟨rounds.exclusive, fun consuming => by cases consuming⟩
  | slept =>
    simp only [step] at stepped
    split at stepped <;> cases stepped
    exact ⟨rounds.exclusive, fun consuming => by cases consuming⟩

end Subscriber

def defaultCameraId : String := "urn:org:fundacionctic:thing:wotemu:camera"

def defaultFrameEvent : String := "jpgVideoFrame"

structure Camera where
  servientHost : String
  thingId : Option String
  frameEvent : Option String
  deriving DecidableEq

/-- The event that `_subscribe_camera` subscribes to. -/
structure FrameEvent where
  servientHost : String
  thingId : String
  frameEvent : String
  deriving DecidableEq

def Camera.event (camera : Camera) : FrameEvent where
  servientHost := camera.servientHost
  thingId := camera.thingId.getD defaultCameraId
  frameEvent := camera.frameEvent.getD defaultFrameEvent

inductive DetectorStage where
  | subscribing
  | waiting
  | ended
  deriving DecidableEq

/-- The state of `_subscribe_task`, with the cameras whose coroutines have not ended. -/
structure SubscribeTask where
  round : Nat
  subscriptions : List (Subscription FrameEvent)
  pending : List FrameEvent
  errorEvent : Bool
  stage : DetectorStage
  deriving DecidableEq

inductive SubscribeTaskEvent where
  | subscribed (event : FrameEvent)
  | failed (event : FrameEvent)
  | error (index : Nat)
  | completed (index : Nat)
  | woken
  | cancel
  deriving DecidableEq

def SubscribeTaskEvent.wakes : SubscribeTaskEvent → Bool
  | woken => true
  | _ => false

namespace SubscribeTask

open Subscription

/-- Where the task awaits the coroutines, which it does not when there are none. -/
def gathering (pending : List FrameEvent) : DetectorStage := if pending.isEmpty then .waiting else .subscribing

def start (cameras : List Camera) : SubscribeTask where
  round := 0
  subscriptions := []
  pending := cameras.map Camera.event
  errorEvent := false
  stage := gathering (cameras.map Camera.event)

def step (cameras : List Camera) : Transition SubscribeTask SubscribeTaskEvent := fun task event =>
  match event with
  | .subscribed event =>
    if event ∈ task.pending then
      let pending := task.pending.erase event
      some { task with
        subscriptions := task.subscriptions ++ opened task.round [event]
        pending
        stage := if task.stage = .subscribing then gathering pending else task.stage }
    else none
  | .failed event =>
    -- the other coroutines go on
    if event ∈ task.pending then some { task with pending := task.pending.erase event, stage := .ended } else none
  | .error index =>
    if isActive task.subscriptions index then
      some { task with subscriptions := task.subscriptions.modify index dispose, errorEvent := true }
    else none
  | .completed index =>
    if isActive task.subscriptions index then
      some { task with subscriptions := task.subscriptions.modify index dispose }
    else none
  | .woken =>
    -- the `finally` clause does not await what `_cancel_subs` returns, either
    if task.stage = .waiting ∧ task.errorEvent then
      let pending := cameras.map Camera.event
      some { task with round := task.round + 1, pending, errorEvent := false, stage := gathering pending }
    else none
  | .cancel => match task.stage with
    | .subscribing => some { task with pending := [], stage := .ended }
    | .waiting => some { task with stage := .ended }
    | .ended => none

/-- When the error event wakes the task, every subscription has ended by itself. -/
def Detached (task : SubscribeTask) (event : SubscribeTaskEvent) : Prop :=
  event.wakes = true → Settled task.subscriptions

instance (task : SubscribeTask) (event : SubscribeTaskEvent) : Decidable (Detached task event) :=
  inferInstanceAs (Decidable (event.wakes = true → Settled task.subscriptions))

structure Rounds (task : SubscribeTask) : Prop where
  exclusive : Exclusive task.round task.subscriptions
  distinct : task.pending.Nodup
  fresh : ∀ event ∈ task.pending, event ∉ active task.subscriptions

variable {cameras : List Camera} {task next : SubscribeTask}

theorem Rounds.disposes (rounds : Rounds task) {subscriptions : List (Subscription FrameEvent)}
    (disposes : Disposes task.subscriptions subscriptions) : Rounds { task with subscriptions } where
  exclusive := rounds.exclusive.disposes disposes
  distinct := rounds.distinct
  fresh := fun event member active => rounds.fresh event member (disposes.active_sublist.subset active)

theorem step_rounds {event : SubscribeTaskEvent} (distinct : (cameras.map Camera.event).Nodup) (rounds : Rounds task)
    (detached : Detached task event) (stepped : step cameras task event = some next) : Rounds next := by
  cases event with
  | subscribed event =>
    simp only [step] at stepped
    split at stepped <;> cases stepped
    case subscribed.isTrue.refl member =>
      constructor
      case exclusive =>
        refine rounds.exclusive.open (List.nodup_singleton event) fun other isNew => ?_
        exact rounds.fresh other (List.mem_singleton.mp isNew ▸ member)
      case distinct => exact rounds.distinct.erase event
      case fresh =>
        intro other isPending active
        obtain ⟨differs, isPending⟩ := rounds.distinct.mem_erase_iff.mp isPending
        rw [active_append, active_opened] at active
        cases List.mem_append.mp active with
        | inl before => exact rounds.fresh other isPending before
        | inr new => exact differs (List.mem_singleton.mp new)
  | failed event =>
    simp only [step] at stepped
    split at stepped <;> cases stepped
    exact ⟨rounds.exclusive, rounds.distinct.erase event,
      fun other isPending => rounds.fresh other (List.mem_of_mem_erase isPending)⟩
  | error index =>
    simp only [step] at stepped
    split at stepped <;> cases stepped
    have after := rounds.disposes (disposes_modify task.subscriptions index)
    exact ⟨after.exclusive, after.distinct, after.fresh⟩
  | completed index =>
    simp only [step] at stepped
    split at stepped <;> cases stepped
    exact rounds.disposes (disposes_modify task.subscriptions index)
  | woken =>
    simp only [step] at stepped
    split at stepped <;> cases stepped
    -- the round starts over without a subscription
    refine ⟨(detached rfl).exclusive _, distinct, fun event _ active => ?_⟩
    rw [detached rfl] at active
    cases active
  | cancel =>
    simp only [step] at stepped
    split at stepped <;> cases stepped
    · exact ⟨rounds.exclusive, List.nodup_nil, fun _ isPending => by cases isPending⟩
    · exact ⟨rounds.exclusive, rounds.distinct, rounds.fresh⟩

end SubscribeTask

open Subscription in
/-- In a run where every subscription has ended by itself whenever an error wakes the loop, and no camera
is listed twice, each interaction has at most one subscription that is not disposed, and all such
subscriptions are of the current round. -/
theorem subscriptions_exclusive (cameras : List Camera) :
    (∀ events subscriber, Transition.run Subscriber.step Subscriber.start events = some subscriber →
      Transition.Along Subscriber.step Subscriber.Detached Subscriber.start events →
      Exclusive subscriber.round subscriber.subscriptions) ∧
    ∀ events task, (cameras.map Camera.event).Nodup →
      Transition.run (SubscribeTask.step cameras) (SubscribeTask.start cameras) events = some task →
      Transition.Along (SubscribeTask.step cameras) SubscribeTask.Detached (SubscribeTask.start cameras) events →
      Exclusive task.round task.subscriptions := by
  constructor
  · intro events subscriber ran along
    have none : Settled ([] : List (Subscription Interaction)) := rfl
    have rounds : Subscriber.Rounds Subscriber.start := ⟨none.exclusive 0, fun _ => none⟩
    exact (Transition.run_preserves (fun _ _ _ => Subscriber.step_rounds) rounds ran along).exclusive
  · intro events task distinct ran along
    have none : Settled ([] : List (Subscription FrameEvent)) := rfl
    have rounds : SubscribeTask.Rounds (SubscribeTask.start cameras) :=
      ⟨none.exclusive 0, distinct, fun _ _ active => by cases active⟩
    exact (Transition.run_preserves (fun _ _ _ => SubscribeTask.step_rounds distinct) rounds ran along).exclusive

/-! Things with one and with two observable properties, and a pair of cameras. -/

def clockThing : ConsumedThing where
  properties := [("time", true)]
  events := []
  properties_distinct := List.nodup_singleton _
  events_distinct := List.nodup_nil

def lampThing : ConsumedThing where
  properties := [("brightness", true), ("color", true)]
  events := []
  properties_distinct := by decide
  events_distinct := List.nodup_nil

def twoCameras : List Camera := [⟨"hall", none, none⟩, ⟨"door", none, none⟩]

open Subscription in
theorem single_interaction_exclusive :
    Exclusive 1 [⟨Interaction.property "time", 0, false⟩, ⟨Interaction.property "time", 1, true⟩] ∧
      Exclusive 0 [⟨(⟨"hall", none, none⟩ : Camera).event, 0, true⟩,
        ⟨(⟨"door", none, none⟩ : Camera).event, 0, true⟩] :=
  ⟨(subscriptions_exclusive twoCameras).1 [.consumed clockThing, .error 0, .woken, .consumed clockThing]
      ⟨1, _, some 1, false, .waiting⟩ (by decide +kernel) (by decide +kernel),
    (subscriptions_exclusive twoCameras).2 [.subscribed (⟨"hall", none, none⟩ : Camera).event,
      .subscribed (⟨"door", none, none⟩ : Camera).event] ⟨0, _, [], false, .waiting⟩ (by decide +kernel)
      (by decide +kernel) (by decide +kernel)⟩

open Subscription in
/-- After the error of one subscription, the other one is made again and not disposed. -/
theorem error_leaks_subscription :
    (¬ ∀ events subscriber, Transition.run Subscriber.step Subscriber.start events = some subscriber →
      Exclusive subscriber.round subscriber.subscriptions) ∧
    ¬ ∀ cameras events task, (cameras.map Camera.event).Nodup →
      Transition.run (SubscribeTask.step cameras) (SubscribeTask.start cameras) events = some task →
      Exclusive task.round task.subscriptions := by
  constructor
  · intro all
    have exclusive := all [.consumed lampThing, .error 0, .woken, .consumed lampThing]
      ⟨1, [⟨.property "brightness", 0, false⟩, ⟨.property "color", 0, true⟩, ⟨.property "brightness", 1, true⟩,
        ⟨.property "color", 1, true⟩], some 1, false, .waiting⟩ (by decide +kernel)
    exact absurd exclusive.single (by decide +kernel)
  · intro all
    have exclusive := all twoCameras [.subscribed (⟨"hall", none, none⟩ : Camera).event,
      .subscribed (⟨"door", none, none⟩ : Camera).event, .error 0, .woken]
      ⟨1, [⟨(⟨"hall", none, none⟩ : Camera).event, 0, false⟩, ⟨(⟨"door", none, none⟩ : Camera).event, 0, true⟩],
        twoCameras.map Camera.event, false, .subscribing⟩ (by decide +kernel) (by decide +kernel)
    exact absurd (exclusive.current ⟨(⟨"door", none, none⟩ : Camera).event, 0, true⟩ (by simp) rfl) (by decide)

end Wotemu
