import Mathlib.Data.List.Sort
import Wotemu.Foundation.DistinctBy
import Wotemu.Foundation.Doubles
import Wotemu.Report.Store

/-! The queries of the report reader that find documents by their keys.

Tasks, system samples, packets and interactions share one space of keys. A
query names the key of a task or selects keys by a pattern, and takes the
names it needs out of the keys it was given.
-/

set_option autoImplicit false

namespace Wotemu

open Wotemu.Foundation

/-- `datetime.fromtimestamp(time, timezone.utc)` in microseconds since the epoch. The fraction of the
second becomes microseconds in floating point, which are rounded half to even. -/
def fromTimestamp (time : Rat) : Int :=
  -- `modf`
  let whole := if 0 ≤ time then time.floor else -(-time).floor
  whole * 1000000 + roundEven (double ((time - whole) * 1000000))

structure FrameRow where
  date : Int
  document : Document

structure PacketFrameRow where
  date : Int
  iface : String
  document : Document

def PacketFrameRow.le (first second : PacketFrameRow) : Prop :=
  first.date < second.date ∨ (first.date = second.date ∧ first.iface ≤ second.iface)

instance : DecidableRel PacketFrameRow.le := fun first second =>
  inferInstanceAs (Decidable (first.date < second.date ∨ (first.date = second.date ∧ first.iface ≤ second.iface)))

section Queries

variable (redis : Redis) (store : Store)

def keysMatching (pattern : String) : List String :=
  redis.scan ((Dict.keys store).filter (glob pattern))

def getZrangeDf (key : String) : List FrameRow :=
  (SortedSets.zrange store key).members.map fun doc => ⟨fromTimestamp doc.time, doc⟩

/-- The pattern selects every name: the last part of each key is a task. -/
def getTasks : List String :=
  distinctBy id ((keysMatching redis store (redisKey .info ["*"])).map fun key =>
    (split ':' key).getLastD "")

def getInfo (task : String) : List Document :=
  (SortedSets.zrange store (redisKey .info [task])).members.insertionSort fun first second =>
    first.time ≤ second.time

def getInfoLatest (task : String) : Option Document := (getInfo store task).getLast?

def getSystemDf (task : String) : List FrameRow := getZrangeDf store (redisKey .system [task])

def getThingDf (task : String) : List FrameRow := getZrangeDf store (redisKey .thing [task])

/-- The rows under one packet key, with the third part of the key as their interface. -/
def getIfaceDf (key : String) : List PacketFrameRow :=
  let iface := (split ':' key).getD 2 ""
  (getZrangeDf store key).map fun row => ⟨row.date, iface, row.document⟩

def getPacketDf (task : String) : Option (List PacketFrameRow) :=
  -- the star may stand for several parts of a key at once
  let packetKeys := keysMatching redis store (redisKey .packet ["*", task])
  if packetKeys.isEmpty then none
  else some ((packetKeys.flatMap (getIfaceDf store)).insertionSort PacketFrameRow.le)

end Queries

/-! The key of a write is taken apart into the names that made it. -/

/-- A task name as the tasks of a stack have them: no separator and no glob character. -/
def TaskName (name : String) : Prop := ∀ c ∈ [':', '*', '?', '[', ']', '\\', '^'], c ∉ name.toList

theorem TaskName.free {t : String} (task : TaskName t) : ∀ name ∈ [t], ':' ∉ name.toList := by
  intro name member
  rw [List.mem_singleton.mp member]
  exact task ':' (by decide)

namespace Write

/-- The names that a write puts into its key can be told apart in it. -/
structure WellNamed (write : Write) : Prop where
  task : TaskName write.task
  iface : ∀ task iface items, write = packets task iface items → ':' ∉ iface.toList

theorem WellNamed.names_free {write : Write} (named : write.WellNamed) :
    ∀ name ∈ write.names, ':' ∉ name.toList := by
  have free : ':' ∉ write.task.toList := named.task ':' (by decide)
  intro name member
  cases write with
  | info task node => exact List.mem_singleton.mp member ▸ free
  | system task items => exact List.mem_singleton.mp member ▸ free
  | packets task iface items =>
    rcases List.mem_cons.mp member with rfl | member
    · exact named.iface _ _ _ rfl
    · exact List.mem_singleton.mp member ▸ free
  | thing data => exact List.mem_singleton.mp member ▸ free

end Write

theorem kind_free (kind : RedisPrefixes) : ':' ∉ kind.value.toList := by
  cases kind <;> decide

theorem RedisPrefixes.value_injective {first second : RedisPrefixes} (same : first.value = second.value) :
    first = second := by
  cases first <;> cases second <;> first | rfl | exact absurd same (by decide)

theorem split_redisKey {kind : RedisPrefixes} {names : List String}
    (free : ∀ name ∈ names, ':' ∉ name.toList) :
    split ':' (redisKey kind names) = RedisPrefixes.namespaceValue :: kind.value :: names := by
  refine split_intercalate rfl ?_ (by simp)
  intro part member
  rcases List.mem_cons.mp member with rfl | member
  · decide
  · rcases List.mem_cons.mp member with rfl | member
    · exact kind_free kind
    · exact free part member

theorem redisKey_injective {kind other : RedisPrefixes} {names others : List String}
    (free : ∀ name ∈ names, ':' ∉ name.toList) (otherFree : ∀ name ∈ others, ':' ∉ name.toList)
    (same : redisKey kind names = redisKey other others) : kind = other ∧ names = others := by
  have parts := congrArg (split ':') same
  rw [split_redisKey free, split_redisKey otherFree] at parts
  obtain ⟨-, rest⟩ := List.cons.inj parts
  obtain ⟨sameKind, sameNames⟩ := List.cons.inj rest
  exact ⟨RedisPrefixes.value_injective sameKind, sameNames⟩

theorem iface_of_packetKey {iface t : String} (free : ':' ∉ iface.toList) (task : TaskName t) :
    (split ':' (redisKey .packet [iface, t])).getD 2 "" = iface := by
  have names : ∀ name ∈ [iface, t], ':' ∉ name.toList := by
    intro name member
    rcases List.mem_cons.mp member with rfl | member
    · exact free
    · exact task.free name member
  rw [split_redisKey names]
  rfl

theorem redisKey_cons (kind : RedisPrefixes) (name : String) (names : List String) :
    redisKey kind (name :: names) =
      RedisPrefixes.namespaceValue ++ ":" ++ kind.value ++ ":" ++ String.intercalate ":" (name :: names) := by
  unfold redisKey
  rw [String.intercalate_cons_of_ne_nil (by simp), String.intercalate_cons_of_ne_nil (by simp)]
  simp only [String.append_assoc]

end Wotemu
