import Wotemu.Foundation.Value
import Wotemu.Report.Reader

/-! The historian Thing that copies the records of a downlink historian.

An iteration lists the properties of the downlink, invokes `get` for each of
them over one window of time, and writes the items that come back. What the
downlink answers, and what the database accepts, are parameters.
-/

set_option autoImplicit false

namespace Wotemu.Historian

open Wotemu.Foundation

/-- `int(x)`, which truncates toward zero. -/
def truncate (x : Rat) : Int := if 0 ≤ x then x.floor else -(-x).floor

/-- `datetime.utcfromtimestamp(time)` in microseconds since the epoch: the years 1 to 9999. -/
def utcfromtimestamp (time : Rat) : Except PyError Int :=
  let micros := fromTimestamp time
  if -62135596800000000 ≤ micros ∧ micros < 253402300800000000 then .ok micros else .error .valueError

/-- One entry of the answer of `list`. -/
structure Property where
  propertyName : String
  thingId : String
  servient : String
  deriving DecidableEq

/-- One entry of the answer of `get`. -/
structure Item where
  unixTime : Rat
  propertyName : String
  thingId : String
  servient : String
  value : Value
  deriving DecidableEq

structure GetInput where
  fromUnix : Option Rat
  toUnix : Option Rat
  buckets : Option Int
  propertyName : Option String
  thingId : Option String
  servient : Option String
  deriving DecidableEq

structure Query where
  gte : Int
  lt : Option Int
  propertyName : Option String
  thingId : Option String
  servient : Option String
  deriving DecidableEq

def defaultQuerySeconds : Rat := 60

/-- The upper end of the query: none without a time or for a time of zero. -/
def queryEnd : Option Rat → Except PyError (Option Int)
  | some toUnix =>
    if toUnix = 0 then .ok none
    else do
      let before ← utcfromtimestamp (truncate toUnix)
      return some before
  | none => .ok none

/-- The query that `_get` builds at a time. -/
def getQuery (now : Rat) (input : Option GetInput) : Except PyError Query := do
  let input := input.getD ⟨none, none, none, none, none, none⟩
  let gte ← utcfromtimestamp (truncate (input.fromUnix.getD (now - defaultQuerySeconds)))
  let lt ← queryEnd input.toUnix
  return {
    gte, lt
    propertyName := input.propertyName.filter (· ≠ "")
    thingId := input.thingId.filter (· ≠ "")
    servient := input.servient.filter (· ≠ "") }

structure WriteInput where
  unixTime : Option Rat
  propertyName : String
  thingId : String
  servient : String
  value : Value

structure Doc where
  utcDate : Int
  propertyName : String
  thingId : String
  servient : String
  value : Value
  deriving DecidableEq

/-- The database of the historian. Each write reads the clock, which shows a time after the
epoch, and a document that is not accepted raises an exception. -/
structure Mongo where
  utcnow : Nat → Int
  after_epoch : ∀ turn, 0 < utcnow turn
  accepts : Doc → Bool

def writeTime (utcnow : Int) : Option Rat → Except PyError Int
  | some tstamp => if tstamp = 0 then .ok utcnow else utcfromtimestamp tstamp
  | none => .ok utcnow

namespace Mongo

variable (mongo : Mongo)

def insertOne (doc : Doc) : Except PyError Doc :=
  if mongo.accepts doc then .ok doc else .error .runtimeError

/-- `_write`: the document that is inserted. -/
def write (turn : Nat) (input : WriteInput) : Except PyError Doc := do
  let dtime ← writeTime (mongo.utcnow turn) input.unixTime
  mongo.insertOne {
    utcDate := dtime
    propertyName := input.propertyName
    thingId := input.thingId
    servient := input.servient
    value := input.value }

/-- `gather(*write_awaitables, return_exceptions=True)`: the documents that are inserted. -/
def writeAll : Nat → List WriteInput → List Doc
  | _, [] => []
  | turn, input :: rest => match mongo.write turn input with
    | .ok doc => doc :: writeAll (turn + 1) rest
    | .error _ => writeAll (turn + 1) rest

end Mongo

/-- What `gather(return_exceptions=True)` gives for one invocation: an exception is named. -/
abbrev GetResult := Except String (List Item)

def GetResult.isException : GetResult → Bool
  | .ok _ => false
  | .error _ => true

/-- `for item in results_list`: an exception cannot be iterated. -/
def GetResult.iterate : GetResult → Except PyError (List Item)
  | .ok items => .ok items
  | .error _ => .error .typeError

def Item.writeInput (item : Item) : WriteInput where
  unixTime := some item.unixTime
  propertyName := item.propertyName
  thingId := item.thingId
  servient := item.servient
  value := item.value

/-- The inner iteration of the comprehension. The filter comes after it. -/
def GetResult.writeInputs (resultsList : GetResult) : Except PyError (List WriteInput) := do
  let items ← resultsList.iterate
  return (items.filter fun _ => !resultsList.isException).map Item.writeInput

def writeParams (results : List GetResult) : Except PyError (List WriteInput) := do
  let inputs ← results.mapM GetResult.writeInputs
  return inputs.flatten

/-- The downlink historian. The invocations of `get` are told apart by their positions. -/
structure Downlink where
  consume : Except PyError Unit
  list : Except PyError (List Property)
  get : Nat → GetInput → GetResult

structure Observation where
  buckets : Int
  interval : Int

namespace Observation

variable (observation : Observation) (downlink : Downlink)

def getInput (toUnix : Rat) (item : Property) : GetInput where
  fromUnix := some (toUnix - observation.interval)
  toUnix := some toUnix
  buckets := some observation.buckets
  propertyName := some item.propertyName
  thingId := some item.thingId
  servient := some item.servient

/-- The answer of `list`, after the dates of the log message have been made. -/
def listed (toUnix : Rat) : Except PyError (List Property) := do
  let _ ← utcfromtimestamp (toUnix - observation.interval)
  let _ ← utcfromtimestamp toUnix
  downlink.consume
  downlink.list

def results (toUnix : Rat) (props : List Property) : List GetResult :=
  (props.map (observation.getInput toUnix)).mapIdx downlink.get

/-- `_run_observe_historian_iter` where `datetime.utcnow().timestamp()` is `toUnix`: the
documents that it inserts. An iteration that raises has not inserted any. -/
def runObserveHistorianIter (mongo : Mongo) (toUnix : Rat) : Except PyError (List Doc) := do
  let props ← observation.listed downlink toUnix
  let inputs ← writeParams (observation.results downlink toUnix props)
  return mongo.writeAll 0 inputs

end Observation

end Wotemu.Historian
