import Wotemu.Foundation.Separated
import Wotemu.Foundation.SortedSets
import Wotemu.Foundation.Value

/-! The documents of an emulation and the keys under which tasks write them.

A member of a sorted set is the JSON text of a document. The text determines
the document and the other way around, so the sets hold documents. Times are
the rational numbers that the floats stand for.
-/

set_option autoImplicit false

namespace Wotemu

open Wotemu.Foundation

/-- One address that an interface has, `family` being the number of the address family. -/
structure NetAddress where
  family : Nat
  address : String
  deriving DecidableEq, Repr

/-- What `get_node_info` returns, with the time added before it is written. Each of the
optional fields is missing when the lookup behind it failed. -/
structure NodeInfo where
  time : Rat
  net : Dict String (List NetAddress)
  env : Dict String String
  serviceVips : Option (Dict String String) := none
  networksCidr : Option (Dict String (List String)) := none
  containerId : Option String := none
  taskId : Option String := none
  constraints : Option (Dict String Rat) := none
  deriving DecidableEq

structure SystemSample where
  time : Rat
  cpuPercent : Option Rat
  memMb : Option Rat
  memPercent : Option Rat
  deriving DecidableEq

structure Packet where
  time : Rat
  len : Int
  src : String
  dst : String
  proto : String
  transport : String
  srcport : Option Nat
  dstport : Option Nat
  deriving DecidableEq

/-- One interaction. The fields that depend on the verb are kept together. -/
structure ThingData where
  time : Rat
  host : String
  thing : String
  verb : String
  name : Option String
  thingClass : String
  details : Dict String Value
  deriving DecidableEq

inductive Document where
  | info (info : NodeInfo)
  | system (sample : SystemSample)
  | packet (packet : Packet)
  | thing (data : ThingData)
  deriving DecidableEq

def Document.time : Document → Rat
  | info node => node.time
  | system sample => sample.time
  | packet captured => captured.time
  | thing data => data.time

inductive RedisPrefixes where
  | packet
  | thing
  | system
  | info
  deriving DecidableEq, Repr

def RedisPrefixes.value : RedisPrefixes → String
  | .packet => "packet"
  | .thing => "thing"
  | .system => "system"
  | .info => "info"

def RedisPrefixes.namespaceValue : String := "wotemu"

/-- `"{}:{}:{}".format(...)` with the namespace in front. -/
def redisKey (kind : RedisPrefixes) (names : List String) : String :=
  String.intercalate ":" (RedisPrefixes.namespaceValue :: kind.value :: names)

/-- What Redis decides: the order of the texts of members with one score, and the order
in which `KEYS` lists the keys. -/
structure Redis where
  before : Document → Document → Bool
  scan : List String → List String
  scan_perm : ∀ keys, (scan keys).Perm keys

def Redis.plain : Redis where
  before := fun _ _ => true
  scan := fun keys => keys
  scan_perm := fun keys => List.Perm.refl keys

abbrev Store := SortedSets Document

section Writers

variable (redis : Redis) (store : Store)

/-- `NodeMonitor._write_node_info` of the monitor whose key is the task. -/
def writeNodeInfo (task : String) (info : NodeInfo) : Store :=
  SortedSets.zadd redis.before store (redisKey .info [task]) info.time (.info info)

/-- `NodeMonitor._redis_callback`: the items of one batch in one transaction. -/
def redisCallback (items : List Document) (key : String) : Store :=
  SortedSets.zaddAll redis.before Document.time store key items

def systemCallback (task : String) (items : List SystemSample) : Store :=
  redisCallback redis store (items.map .system) (redisKey .system [task])

def packetCallback (task iface : String) (items : List Packet) : Store :=
  redisCallback redis store (items.map .packet) (redisKey .packet [iface, task])

def redisThingCallback (data : ThingData) : Store :=
  SortedSets.zadd redis.before store (redisKey .thing [data.host]) data.time (.thing data)

end Writers

/-- A write that a task makes. The host of an interaction is the name of the task. -/
inductive Write where
  | info (task : String) (info : NodeInfo)
  | system (task : String) (items : List SystemSample)
  | packets (task iface : String) (items : List Packet)
  | thing (data : ThingData)

namespace Write

def task : Write → String
  | info task _ => task
  | system task _ => task
  | packets task _ _ => task
  | thing data => data.host

def kind : Write → RedisPrefixes
  | info .. => .info
  | system .. => .system
  | packets .. => .packet
  | thing .. => .thing

def names : Write → List String
  | info task _ => [task]
  | system task _ => [task]
  | packets task iface _ => [iface, task]
  | thing data => [data.host]

def documents : Write → List Document
  | info _ node => [.info node]
  | system _ items => items.map .system
  | packets _ _ items => items.map .packet
  | thing data => [.thing data]

def apply (redis : Redis) (store : Store) : Write → Store
  | info task node => writeNodeInfo redis store task node
  | system task items => systemCallback redis store task items
  | packets task iface items => packetCallback redis store task iface items
  | thing data => redisThingCallback redis store data

theorem apply_eq (redis : Redis) (store : Store) (write : Write) :
    write.apply redis store = SortedSets.zaddAll redis.before Document.time store
      (redisKey write.kind write.names) write.documents := by
  cases write <;> rfl

end Write

def runWrites (redis : Redis) (writes : List Write) : Store :=
  writes.foldl (Write.apply redis) []

/-- The documents under the keys of a store that a series of writes built. -/
theorem runWrites_holds (redis : Redis) (writes : List Write) :
    SortedSets.Holds (runWrites redis writes) fun key doc =>
      ∃ write ∈ writes, key = redisKey write.kind write.names ∧ doc ∈ write.documents := by
  have step : ∀ (writes : List Write) (store : Store) (added : String → Document → Prop),
      SortedSets.Holds store added → SortedSets.Holds (writes.foldl (Write.apply redis) store) fun key doc =>
        added key doc ∨ ∃ write ∈ writes, key = redisKey write.kind write.names ∧ doc ∈ write.documents := by
    intro writes
    induction writes with
    | nil =>
      intro store added holds
      simpa using holds
    | cons write rest ih =>
      intro store added holds
      have next := holds.zaddAll redis.before Document.time (redisKey write.kind write.names) write.documents
      rw [← Write.apply_eq] at next
      simpa [or_assoc] using ih _ _ next
  simpa [runWrites] using step writes [] _ SortedSets.holds_nil

end Wotemu
