import Mathlib.Algebra.Field.Rat
import Wotemu.Foundation.Stages

/-! The decorated requests of exposed and consumed Things.

The decorator measures a request and schedules a document about it. It runs
after the request and outside any guard, and on the way it tests and converts
values that belong to the user.
-/

set_option autoImplicit false

namespace Wotemu.Requests

open Wotemu.Foundation

/-- What the measuring code raises: its own errors, or an exception of a value that it touches. -/
inductive Failure (Exn : Type) where
  | indexError
  | assertionError
  | exn (ex : Exn)
  deriving DecidableEq

/-- The callback of a Thing: its truth value, and what calling it and making a task of the call does. -/
structure DecoCb (Exn : Type) where
  bool : Except Exn Bool
  createTask : Except Exn Unit

structure Thing (Exn : Type) where
  id : String
  hostname : String
  className : String
  decoCb : Option (DecoCb Exn)

/-- How the values of a program behave: their truth test and their texts may raise, and some of them are
Things. -/
structure Objects (Obj Exn : Type) where
  none : Obj
  bool : Obj → Except Exn Bool
  str : Obj → Except Exn String
  repr : Obj → Except Exn String
  asThing : Obj → Option (Thing Exn)
  exnBool : Exn → Except Exn Bool
  exnStr : Exn → Except Exn String
  exnName : Exn → String
  bool_none : bool none = .ok false
  repr_none : Returns (repr none)

inductive Outcome (Obj Exn : Type) where
  | returned (value : Obj)
  | raised (ex : Exn)
  | cancelled

inductive Ending (Obj Exn : Type) where
  | returned (value : Obj)
  | raised (why : Failure Exn)
  | cancelled

def Outcome.ending {Obj Exn : Type} : Outcome Obj Exn → Ending Obj Exn
  | returned value => .returned value
  | raised ex => .raised (.exn ex)
  | cancelled => .cancelled

/-- A call of a decorated method: the positional arguments, the keyword `name` unless it is missing or
`None`, the readings of the clock, and how the wrapped coroutine ends. -/
structure RequestCall (Obj Exn : Type) where
  verb : String
  callArgs : List Obj
  nameKwarg : Option Obj
  initTime : Rat
  endTime : Rat
  dataTime : Rat
  outcome : Outcome Obj Exn

structure RequestData (Obj : Type) where
  thing : String
  verb : String
  name : Obj
  time : Rat
  host : String
  thingClass : String
  latency : Rat
  error : Option (String × String)
  result : Obj

/-- The fields of `RequestVerbCallback` that the setters reset. -/
structure Measured (Obj Exn : Type) where
  result : Obj
  error : Option Exn

section Decorator

variable {Obj Exn : Type} (objects : Objects Obj Exn) (call : RequestCall Obj Exn)

def setResult (value : Obj) (_ : Measured Obj Exn) : Measured Obj Exn := ⟨value, none⟩

def setError (ex : Exn) (_ : Measured Obj Exn) : Measured Obj Exn := ⟨objects.none, some ex⟩

def touch {α : Type} (touched : Except Exn α) : Except (Failure Exn) α := touched.mapError .exn

def thing : Except (Failure Exn) (Thing Exn) := match call.callArgs with
  | [] => .error .indexError
  | self :: _ => match objects.asThing self with
    | none => .error .assertionError
    | some thing => .ok thing

def interactionName : Except (Failure Exn) Obj := match call.nameKwarg, call.callArgs[1]? with
  | some name, _ => .ok name
  | none, none => .ok objects.none
  | none, some name => do
    let given ← touch (objects.bool name)
    return if given then name else objects.none

/-- An exception that is falsy is no error. -/
def jsonEx : Option Exn → Except (Failure Exn) (Option (String × String))
  | none => .ok none
  | some ex => do
    let truth ← touch (objects.exnBool ex)
    if truth then do
      let message ← touch (objects.exnStr ex)
      return some (objects.exnName ex, message)
    else return none

def data (thing : Thing Exn) (measured : Measured Obj Exn) : Except (Failure Exn) (RequestData Obj) := do
  let name ← interactionName objects call
  let error ← jsonEx objects measured.error
  return {
    thing := thing.id
    verb := call.verb
    name
    time := call.dataTime
    host := thing.hostname
    thingClass := thing.className
    latency := call.endTime - call.initTime
    error
    result := measured.result }

/-- `_truncate_key(data_log, "result")`: a value that is not falsy becomes a text. -/
def truncateKey (value : Obj) : Except (Failure Exn) (Obj ⊕ String) := do
  let truth ← touch (objects.bool value)
  if truth then do
    let text ← touch (objects.str value)
    return .inr (if 512 < text.length then (text.take 512).toString ++ " [...]" else text)
  else return .inl value

/-- `pprint.pformat` of the values of the document that are no texts and no numbers. -/
def pformat (name : Obj) (result : Obj ⊕ String) : Except (Failure Exn) Unit := do
  let _ ← touch (objects.repr name)
  match result with
  | .inl value => do
    let _ ← touch (objects.repr value)
    return ()
  | .inr _ => return ()

/-- The level of the log message tests the error once more. -/
def logLevel : Option Exn → Except (Failure Exn) Bool
  | none => .ok false
  | some ex => touch (objects.exnBool ex)

def logItem (measured : Measured Obj Exn) (data : RequestData Obj) : Except (Failure Exn) Unit := do
  let result ← truncateKey objects data.result
  let _ ← logLevel objects measured.error
  pformat objects data.name result

/-- The documents that are scheduled: none without a callback. -/
def createCallbackTask (measured : Measured Obj Exn) : Except (Failure Exn) (List (RequestData Obj)) := do
  let thing ← thing objects call
  match thing.decoCb with
  | none => return []
  | some callback => do
    let truth ← touch callback.bool
    if truth then do
      let data ← data objects call thing measured
      logItem objects measured data
      touch callback.createTask
      return [data]
    else return []

/-- The end of `wrapper`: what the measuring code raises takes the place of the outcome. -/
def measure (measured : Measured Obj Exn) : Ending Obj Exn × List (RequestData Obj) :=
  match createCallbackTask objects call measured with
  | .error why => (.raised why, [])
  | .ok scheduled => (call.outcome.ending, scheduled)

/-- `wrapper`: how it ends and the documents that it schedules. A cancellation is no `Exception`. -/
def wrapper : Ending Obj Exn × List (RequestData Obj) :=
  let verbCb : Measured Obj Exn := ⟨objects.none, none⟩
  match call.outcome with
  | .returned value => measure objects call (setResult value verbCb)
  | .raised ex => measure objects call (setError objects ex verbCb)
  | .cancelled => (.cancelled, [])

/-- A document about the outcome: an error exactly when the call raised, and then no result. -/
def Describes (outcome : Outcome Obj Exn) (data : RequestData Obj) : Prop := match outcome with
  | .returned value => data.error = none ∧ data.result = value
  | .raised _ => data.error ≠ none ∧ data.result = objects.none
  | .cancelled => False

/-- The wrapper ends as the undecorated call does, and with a callback, a call that is not cancelled
schedules exactly one document about it. -/
structure Transparent : Prop where
  ends : (wrapper objects call).1 = call.outcome.ending
  documented : call.outcome ≠ .cancelled → ∀ found callback, thing objects call = .ok found →
    found.decoCb = some callback → ∃ data, (wrapper objects call).2 = [data] ∧ Describes objects call.outcome data

/-- The value can be logged: it is truthy and has a text, or it is falsy and has a representation. -/
def ValueShown (value : Obj) : Prop :=
  (objects.bool value = .ok true ∧ Returns (objects.str value)) ∨
    (objects.bool value = .ok false ∧ Returns (objects.repr value))

def NameShown : Prop := match call.nameKwarg, call.callArgs[1]? with
  | some name, _ => Returns (objects.repr name)
  | none, none => True
  | none, some name => objects.bool name = .ok false ∨ (objects.bool name = .ok true ∧ Returns (objects.repr name))

def OutcomeShown : Outcome Obj Exn → Prop
  | .returned value => ValueShown objects value
  | .raised ex => objects.exnBool ex = .ok true ∧ Returns (objects.exnStr ex)
  | .cancelled => True

/-- The call is cancelled, or it is made on a Thing, as its first positional argument, that has no callback or
one that is truthy and starts, and everything that is logged can be. -/
def Undisturbed : Prop := call.outcome = .cancelled ∨ ∃ found, thing objects call = .ok found ∧
  ∀ callback, found.decoCb = some callback → callback.bool = .ok true ∧ Returns callback.createTask ∧
    NameShown objects call ∧ OutcomeShown objects call.outcome

end Decorator

section Results

variable {Obj Exn : Type} {objects : Objects Obj Exn} {call : RequestCall Obj Exn} {measured : Measured Obj Exn}

@[simp] theorem touch_ok_iff {α : Type} {touched : Except Exn α} {value : α} :
    touch touched = .ok value ↔ touched = .ok value := by
  cases touched with
  | ok found => exact ⟨fun same => by cases same; rfl, fun same => by cases same; rfl⟩
  | error why => exact iff_of_false (fun same => by cases same) fun same => by cases same

@[simp] theorem returns_touch {α : Type} {touched : Except Exn α} : Returns (touch touched) ↔ Returns touched :=
  exists_congr fun _ => touch_ok_iff

theorem nameShown_iff : NameShown objects call ↔
    ∃ name, interactionName objects call = .ok name ∧ Returns (objects.repr name) := by
  unfold NameShown interactionName
  cases call.nameKwarg with
  | some name => simp
  | none =>
    cases call.callArgs[1]? with
    | none => simp [objects.repr_none]
    | some name =>
      simp only [bind_ok_iff, touch_ok_iff]
      constructor
      · intro either
        cases either with
        | inl falsy => exact ⟨objects.none, ⟨false, falsy, rfl⟩, objects.repr_none⟩
        | inr truthy => exact ⟨name, ⟨true, truthy.1, rfl⟩, truthy.2⟩
      · intro found
        obtain ⟨shown, ⟨given, tested, same⟩, represented⟩ := found
        cases given with
        | false => exact .inl tested
        | true =>
          cases same
          exact .inr ⟨tested, represented⟩

theorem data_ok_iff {found : Thing Exn} {doc : RequestData Obj} : data objects call found measured = .ok doc ↔
    ∃ name error, interactionName objects call = .ok name ∧ jsonEx objects measured.error = .ok error ∧
      doc = ⟨found.id, call.verb, name, call.dataTime, found.hostname, found.className, call.endTime - call.initTime,
        error, measured.result⟩ := by
  unfold data
  simp only [bind_ok_iff]
  constructor
  · intro made
    obtain ⟨name, named, error, erred, same⟩ := made
    cases same
    exact ⟨name, error, named, erred, rfl⟩
  · intro made
    obtain ⟨name, error, named, erred, rfl⟩ := made
    exact ⟨name, named, error, erred, rfl⟩

theorem truncateKey_ok_iff {value : Obj} {result : Obj ⊕ String} : truncateKey objects value = .ok result ↔
    (objects.bool value = .ok false ∧ result = .inl value) ∨ (objects.bool value = .ok true ∧ ∃ text,
      objects.str value = .ok text ∧
        result = .inr (if 512 < text.length then (text.take 512).toString ++ " [...]" else text)) := by
  unfold truncateKey
  simp only [bind_ok_iff, touch_ok_iff]
  constructor
  · intro made
    obtain ⟨truth, tested, made⟩ := made
    cases truth with
    | false =>
      cases made
      exact .inl ⟨tested, rfl⟩
    | true =>
      obtain ⟨text, converted, made⟩ := bind_ok made
      cases made
      exact .inr ⟨tested, text, touch_ok_iff.mp converted, rfl⟩
  · intro either
    cases either with
    | inl falsy => exact ⟨false, falsy.1, falsy.2 ▸ rfl⟩
    | inr truthy =>
      obtain ⟨tested, text, converted, rfl⟩ := truthy
      exact ⟨true, tested, bind_ok_iff.mpr ⟨text, touch_ok_iff.mpr converted, rfl⟩⟩

theorem returns_pformat {name : Obj} {result : Obj ⊕ String} : Returns (pformat objects name result) ↔
    Returns (objects.repr name) ∧ ∀ value, result = .inl value → Returns (objects.repr value) := by
  unfold pformat
  refine (Returns.bind_iff_and fun _ _ => ?_).trans (and_congr_left' returns_touch)
  cases result with
  | inl value =>
    refine (Returns.bind_pure_iff.trans returns_touch).trans ⟨fun shown other same => ?_, fun shown => shown value rfl⟩
    cases same
    exact shown
  | inr text => simp

theorem returns_logItem {doc : RequestData Obj} : Returns (logItem objects measured doc) ↔
    ValueShown objects doc.result ∧ Returns (logLevel objects measured.error) ∧ Returns (objects.repr doc.name) := by
  have body : Returns (logItem objects measured doc) ↔ ∃ result, truncateKey objects doc.result = .ok result ∧
      Returns (logLevel objects measured.error) ∧ Returns (pformat objects doc.name result) := by
    unfold logItem
    rw [Returns.bind_iff]
    exact exists_congr fun result => and_congr_right fun _ => Returns.bind_iff_and fun _ _ => Iff.rfl
  simp only [body, truncateKey_ok_iff, returns_pformat, ValueShown]
  constructor
  · intro shown
    obtain ⟨result, falsy | truthy, level, named, rest⟩ := shown
    · exact ⟨.inr ⟨falsy.1, rest _ falsy.2⟩, level, named⟩
    · obtain ⟨tested, text, converted, -⟩ := truthy
      exact ⟨.inl ⟨tested, text, converted⟩, level, named⟩
  · intro shown
    obtain ⟨truthy | falsy, level, named⟩ := shown
    · obtain ⟨tested, text, converted⟩ := truthy
      exact ⟨_, .inr ⟨tested, text, converted, rfl⟩, level, named, fun _ same => by cases same⟩
    · exact ⟨_, .inl ⟨falsy.1, rfl⟩, level, named, fun _ same => by cases same; exact falsy.2⟩

theorem jsonEx_some_iff {ex : Exn} {error : Option (String × String)} :
    (jsonEx objects (some ex) = .ok error ∧ error ≠ none) ↔ objects.exnBool ex = .ok true ∧
      ∃ message, objects.exnStr ex = .ok message ∧ error = some (objects.exnName ex, message) := by
  simp only [jsonEx, bind_ok_iff, touch_ok_iff]
  constructor
  · intro made
    obtain ⟨⟨truth, tested, made⟩, given⟩ := made
    cases truth with
    | false =>
      cases made
      exact absurd rfl given
    | true =>
      obtain ⟨message, converted, made⟩ := bind_ok made
      cases made
      exact ⟨tested, message, touch_ok_iff.mp converted, rfl⟩
  · intro all
    obtain ⟨tested, message, converted, rfl⟩ := all
    exact ⟨⟨true, tested, bind_ok_iff.mpr ⟨message, touch_ok_iff.mpr converted, rfl⟩⟩, by simp⟩

section Callback

variable {found : Thing Exn} {callback : DecoCb Exn} (onThing : thing objects call = .ok found)
  (set : found.decoCb = some callback)

include onThing set

/-- One document is scheduled when the callback is truthy, the document is made and logged, and the callback
starts. -/
theorem createCallbackTask_ok_iff {doc : RequestData Obj} : createCallbackTask objects call measured = .ok [doc] ↔
    callback.bool = .ok true ∧ data objects call found measured = .ok doc ∧
      Returns (logItem objects measured doc) ∧ Returns callback.createTask := by
  unfold createCallbackTask
  rw [bind_ok_iff]
  constructor
  · intro made
    obtain ⟨other, same, made⟩ := made
    cases onThing.symm.trans same
    simp only [set] at made
    obtain ⟨truth, tested, made⟩ := bind_ok made
    cases truth with
    | false => cases made
    | true =>
      obtain ⟨made', documented, made⟩ := bind_ok made
      obtain ⟨_, logged, made⟩ := bind_ok made
      obtain ⟨_, started, made⟩ := bind_ok made
      cases made
      exact ⟨touch_ok_iff.mp tested, documented, ⟨_, logged⟩, ⟨_, touch_ok_iff.mp started⟩⟩
  · intro all
    obtain ⟨tested, documented, ⟨_, logged⟩, _, started⟩ := all
    refine ⟨found, onThing, ?_⟩
    simp only [set]
    refine bind_ok_iff.mpr ⟨true, touch_ok_iff.mpr tested, ?_⟩
    refine bind_ok_iff.mpr ⟨doc, documented, ?_⟩
    refine bind_ok_iff.mpr ⟨_, logged, ?_⟩
    exact bind_ok_iff.mpr ⟨_, touch_ok_iff.mpr started, rfl⟩

theorem documented_returned {value : Obj} :
    (∃ doc, createCallbackTask objects call ⟨value, none⟩ = .ok [doc] ∧
      Describes objects (.returned value : Outcome Obj Exn) doc) ↔
    callback.bool = .ok true ∧ Returns callback.createTask ∧ NameShown objects call ∧ ValueShown objects value := by
  simp only [createCallbackTask_ok_iff onThing set, data_ok_iff, returns_logItem, nameShown_iff]
  constructor
  · intro made
    obtain ⟨doc, ⟨tested, ⟨name, error, named, -, rfl⟩, ⟨shown, -, represented⟩, started⟩, -⟩ := made
    exact ⟨tested, started, ⟨name, named, represented⟩, shown⟩
  · intro all
    obtain ⟨tested, started, ⟨name, named, represented⟩, shown⟩ := all
    exact ⟨_, ⟨tested, ⟨name, none, named, rfl, rfl⟩, ⟨shown, Returns.ok false, represented⟩, started⟩, rfl, rfl⟩

theorem documented_raised {ex : Exn} :
    (∃ doc, createCallbackTask objects call ⟨objects.none, some ex⟩ = .ok [doc] ∧
      Describes objects (.raised ex : Outcome Obj Exn) doc) ↔
    callback.bool = .ok true ∧ Returns callback.createTask ∧ NameShown objects call ∧
      objects.exnBool ex = .ok true ∧ Returns (objects.exnStr ex) := by
  simp only [createCallbackTask_ok_iff onThing set, data_ok_iff, returns_logItem, nameShown_iff]
  constructor
  · intro made
    obtain ⟨doc, ⟨tested, ⟨name, error, named, erred, rfl⟩, ⟨-, -, represented⟩, started⟩, given, -⟩ := made
    obtain ⟨truthy, message, converted, -⟩ := jsonEx_some_iff.mp ⟨erred, given⟩
    exact ⟨tested, started, ⟨name, named, represented⟩, truthy, message, converted⟩
  · intro all
    obtain ⟨tested, started, ⟨name, named, represented⟩, truthy, message, converted⟩ := all
    obtain ⟨erred, given⟩ := jsonEx_some_iff.mpr ⟨truthy, message, converted, rfl⟩
    have level : Returns (logLevel objects (some ex)) := returns_touch.mpr ⟨true, truthy⟩
    have nothing : ValueShown objects objects.none := .inr ⟨objects.bool_none, objects.repr_none⟩
    exact ⟨_, ⟨tested, ⟨name, _, named, erred, rfl⟩, ⟨nothing, level, represented⟩, started⟩, given, rfl⟩

end Callback

theorem createCallbackTask_none {found : Thing Exn} (onThing : thing objects call = .ok found)
    (unset : found.decoCb = none) : createCallbackTask objects call measured = .ok [] := by
  unfold createCallbackTask
  refine bind_ok_iff.mpr ⟨found, onThing, ?_⟩
  simp only [unset]
  rfl

/-- No user raises the errors of the look-up of the Thing. -/
theorem thing_of_ends (ends : (measure objects call measured).1 = call.outcome.ending) :
    ∃ found, thing objects call = .ok found := by
  cases looked : thing objects call with
  | ok found => exact ⟨found, rfl⟩
  | error why =>
    have raised : createCallbackTask objects call measured = .error why := by
      unfold createCallbackTask
      rw [looked]
      rfl
    -- these errors are raised by the wrapper itself
    have own : ∀ ex, why ≠ .exn ex := by
      intro ex same
      unfold thing at looked
      split at looked
      · cases looked
        cases same
      · split at looked
        · cases looked
          cases same
        · cases looked
    unfold measure at ends
    rw [raised] at ends
    cases outcome : call.outcome with
    | returned value =>
      rw [outcome] at ends
      cases ends
    | raised ex =>
      rw [outcome] at ends
      cases ends
      exact absurd rfl (own ex)
    | cancelled =>
      rw [outcome] at ends
      cases ends

/-- A call that is measured: it is transparent when it is made on a Thing, and each callback gets its
document. -/
theorem transparent_of_measure (uncancelled : call.outcome ≠ .cancelled)
    (same : wrapper objects call = measure objects call measured) : Transparent objects call ↔
      ∃ found, thing objects call = .ok found ∧ ∀ callback, found.decoCb = some callback →
        ∃ doc, createCallbackTask objects call measured = .ok [doc] ∧ Describes objects call.outcome doc := by
  constructor
  · intro transparent
    obtain ⟨found, onThing⟩ := thing_of_ends (same ▸ transparent.ends)
    refine ⟨found, onThing, fun callback set => ?_⟩
    obtain ⟨doc, scheduled, describes⟩ := transparent.documented uncancelled found callback onThing set
    refine ⟨doc, ?_, describes⟩
    rw [same, measure] at scheduled
    split at scheduled
    case h_1 => cases scheduled
    case h_2 made => exact made.trans (congrArg Except.ok scheduled)
  · intro all
    obtain ⟨found, onThing, documented⟩ := all
    constructor
    case ends =>
      rw [same, measure]
      cases set : found.decoCb with
      | none => rw [createCallbackTask_none onThing set]
      | some callback =>
        obtain ⟨doc, made, -⟩ := documented callback set
        rw [made]
    case documented =>
      intro _ other callback onOther set
      cases onThing.symm.trans onOther
      obtain ⟨doc, made, describes⟩ := documented callback set
      refine ⟨doc, ?_, describes⟩
      rw [same, measure, made]

/-- The wrapper is transparent exactly when nothing that it touches disturbs it. -/
theorem transparent_iff (objects : Objects Obj Exn) (call : RequestCall Obj Exn) :
    Transparent objects call ↔ Undisturbed objects call := by
  unfold Undisturbed
  cases outcome : call.outcome with
  | cancelled =>
    -- a cancellation is no `Exception`, and is not measured
    have ended : wrapper objects call = (.cancelled, []) := by
      unfold wrapper
      rw [outcome]
    refine iff_of_true ⟨?_, fun uncancelled => absurd outcome uncancelled⟩ (.inl rfl)
    rw [ended, outcome]
    rfl
  | returned value =>
    have uncancelled : (.returned value : Outcome Obj Exn) ≠ .cancelled := by
      intro same
      cases same
    have measured : wrapper objects call = measure objects call ⟨value, none⟩ := by
      unfold wrapper
      rw [outcome]
      rfl
    rw [transparent_of_measure (outcome ▸ uncancelled) measured, outcome, or_iff_right uncancelled]
    refine exists_congr fun found => and_congr_right fun onThing => ?_
    exact forall_congr' fun callback => imp_congr_right fun set => documented_returned onThing set
  | raised ex =>
    have uncancelled : (.raised ex : Outcome Obj Exn) ≠ .cancelled := by
      intro same
      cases same
    have measured : wrapper objects call = measure objects call ⟨objects.none, some ex⟩ := by
      unfold wrapper
      rw [outcome]
      rfl
    rw [transparent_of_measure (outcome ▸ uncancelled) measured, outcome, or_iff_right uncancelled]
    refine exists_congr fun found => and_congr_right fun onThing => ?_
    exact forall_congr' fun callback => imp_congr_right fun set => documented_raised onThing set

end Results

/-! A property whose value is an array, which has no truth value. -/

inductive Sample where
  | none
  | camera
  | name
  | frame
  deriving DecidableEq

def camera : Thing String := ⟨"urn:camera", "node", "ExposedThing", some ⟨.ok true, .ok ()⟩⟩

def samples : Objects Sample String where
  none := .none
  bool := fun
    | .none => .ok false
    | .frame => .error "ValueError"
    | _ => .ok true
  str := fun _ => .ok "sample"
  repr := fun _ => .ok "sample"
  asThing := fun
    | .camera => some camera
    | _ => none
  exnBool := fun _ => .ok true
  exnStr := fun ex => .ok ex
  exnName := fun ex => ex
  bool_none := rfl
  repr_none := Returns.ok "sample"

def readFrame : RequestCall Sample String where
  verb := "readproperty"
  callArgs := [.camera, .name]
  nameKwarg := none
  initTime := 5
  endTime := 6
  dataTime := 6
  outcome := .returned .frame

theorem readFrame_not_transparent : ¬ Transparent samples readFrame := by
  intro transparent
  have ends := transparent.ends
  have raised : (wrapper samples readFrame).1 = .raised (.exn "ValueError") := rfl
  rw [raised] at ends
  cases ends

end Wotemu.Requests
