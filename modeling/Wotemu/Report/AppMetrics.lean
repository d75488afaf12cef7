import Wotemu.Report.Reader

/-! The metrics that applications write, and how the report finds them.

The key of a metric is chosen by the application. It is joined to the name of
the host that writes, and taken out of the joined key from the end.
-/

set_option autoImplicit false

namespace Wotemu

open Wotemu.Foundation

/-- A value of a metric. A float is the rational number that it stands for. -/
inductive MetricValue where
  | float (x : Rat)
  | json (value : Value)
  deriving DecidableEq

abbrev MetricData := Dict String MetricValue

/-- `RedisPrefixes.APP.value` -/
def appValue : String := "app"

def appKey (names : List String) : String := String.intercalate ":" (RedisPrefixes.namespaceValue :: appValue :: names)

structure MetricRedis where
  before : MetricData → MetricData → Bool
  scan : List String → List String
  scan_perm : ∀ keys, (scan keys).Perm keys

def MetricRedis.plain : MetricRedis where
  before := fun _ _ => true
  scan := fun keys => keys
  scan_perm := fun keys => List.Perm.refl keys

abbrev MetricStore := SortedSets MetricData

/-- A call of `write_metric` by a task with a host name, at a time. -/
structure MetricCall where
  host : String
  key : String
  data : MetricData
  now : Rat
  deriving DecidableEq

namespace MetricCall

def fullKey (call : MetricCall) : String := appKey [call.host, call.key]

def member (call : MetricCall) : MetricData := Dict.update call.data [("created_at", .float call.now)]

end MetricCall

section Metrics

variable (redis : MetricRedis)

def writeMetric (store : MetricStore) (call : MetricCall) : MetricStore :=
  SortedSets.zadd redis.before store call.fullKey call.now call.member

def runMetrics (calls : List MetricCall) : MetricStore := calls.foldl (writeMetric redis) []

structure AppMetrics where
  key : String
  task : String
  data : List MetricData
  deriving DecidableEq

def appMetrics (store : MetricStore) (key : String) : AppMetrics :=
  let splitted := (split ':' key).reverse
  { key := splitted.getD 0 ""
    task := splitted.getD 1 ""
    data := (SortedSets.zrange store key).members }

/-- The keys have at least the three parts of the pattern. -/
def getAppMetrics (store : MetricStore) : List AppMetrics :=
  (redis.scan ((Dict.keys store).filter (glob (appKey ["*"])))).map (appMetrics store)

end Metrics

/-- What the calls wrote, found again: one entry for each task and key, with the data in the order
of time. -/
structure Recovered (calls : List MetricCall) (metrics : List AppMetrics) : Prop where
  once : (metrics.map fun entry => (entry.task, entry.key)).Nodup
  written : ∀ task key, (∃ entry ∈ metrics, entry.task = task ∧ entry.key = key) ↔
    ∃ call ∈ calls, call.host = task ∧ call.key = key
  data : ∀ entry ∈ metrics, entry.data = ((calls.filter fun call => call.host = entry.task ∧ call.key = entry.key)
    |>.insertionSort fun first second => first.now ≤ second.now).map MetricCall.member

variable {redis : MetricRedis} {calls : List MetricCall}

@[simp] theorem runMetrics_concat (calls : List MetricCall) (call : MetricCall) :
    runMetrics redis (calls ++ [call]) = writeMetric redis (runMetrics redis calls) call := by
  simp [runMetrics]

theorem now_eq_of_member {first second : MetricCall} (same : first.member = second.member) :
    first.now = second.now := by
  have stamps := congrArg (fun data => Dict.value? data "created_at") same
  simpa [MetricCall.member] using stamps

theorem runMetrics_holds (redis : MetricRedis) (calls : List MetricCall) :
    SortedSets.Holds (runMetrics redis calls) fun key data =>
      ∃ call ∈ calls, call.fullKey = key ∧ call.member = data := by
  induction calls using List.reverseRecOn with
  | nil => simpa [runMetrics] using SortedSets.holds_nil
  | append_singleton calls call ih =>
    rw [runMetrics_concat, writeMetric]
    have next := ih.zadd redis.before call.fullKey call.now call.member
    simpa [or_and_right, exists_or, eq_comm] using next

theorem pairwise_zrange (calls : List MetricCall) (key : String) :
    (SortedSets.zrange (runMetrics redis calls) key).Pairwise fun first second => first.1 ≤ second.1 := by
  induction calls using List.reverseRecOn with
  | nil => exact .nil
  | append_singleton calls call ih =>
    rw [runMetrics_concat, writeMetric]
    by_cases same : key = call.fullKey
    · subst same
      rw [SortedSets.zrange_zadd]
      exact SortedSet.pairwise_add ih _ _
    · rwa [SortedSets.zrange_zadd_of_ne _ same]

/-- A set holds what was written under its key, when no two calls have one time. -/
theorem zrange_perm (redis : MetricRedis) (times : (calls.map MetricCall.now).Nodup) (key : String) :
    (SortedSets.zrange (runMetrics redis calls) key).Perm
      ((calls.filter fun call => call.fullKey = key).map fun call => (call.now, call.member)) := by
  induction calls using List.reverseRecOn with
  | nil => exact .refl _
  | append_singleton calls call ih =>
    rw [List.map_append, List.map_singleton, List.nodup_append'] at times
    obtain ⟨times, -, apart⟩ := times
    rw [runMetrics_concat, writeMetric, List.filter_append, List.map_append]
    by_cases same : call.fullKey = key
    · subst same
      -- the stamp tells the new data from all data before
      have fresh : call.member ∉ (SortedSets.zrange (runMetrics redis calls) call.fullKey).members := by
        intro inside
        obtain ⟨other, member, -, data⟩ := ((runMetrics_holds redis calls).mem_iff _ _).mp inside
        exact apart (List.mem_map.mpr ⟨other, member, now_eq_of_member data⟩) (List.mem_singleton_self _)
      rw [SortedSets.zrange_zadd]
      simpa using (SortedSet.add_perm_of_fresh fresh call.now).trans
        (((ih times).cons _).trans (List.perm_append_singleton _ _).symm)
    · rw [SortedSets.zrange_zadd_of_ne _ (Ne.symm same)]
      simpa [same] using ih times

theorem members_zrange (times : (calls.map MetricCall.now).Nodup) (key : String) :
    (SortedSets.zrange (runMetrics redis calls) key).members = ((calls.filter fun call => call.fullKey = key)
      |>.insertionSort fun first second => first.now ≤ second.now).map MetricCall.member := by
  let entry : MetricCall → Rat × MetricData := fun call => (call.now, call.member)
  have perm := zrange_perm redis times key
  have sorted : ((calls.filter fun call => call.fullKey = key).insertionSort
      fun first second => first.now ≤ second.now).Perm (calls.filter fun call => call.fullKey = key) :=
    List.perm_insertionSort _ _
  have same : SortedSets.zrange (runMetrics redis calls) key = ((calls.filter fun call => call.fullKey = key)
      |>.insertionSort fun first second => first.now ≤ second.now).map entry := by
    refine (perm.trans (sorted.map entry).symm).eq_of_pairwise ?_ (pairwise_zrange calls key) ?_
    -- no two calls have one time, so the order by time leaves no choice
    · intro first second isFirst isSecond le ge
      obtain ⟨call, member, rfl⟩ := List.mem_map.mp (perm.mem_iff.mp isFirst)
      obtain ⟨other, otherMember, rfl⟩ := List.mem_map.mp isSecond
      have inCalls := List.mem_of_mem_filter (sorted.mem_iff.mp otherMember)
      rw [List.inj_on_of_nodup_map times (List.mem_of_mem_filter member) inCalls (le_antisymm le ge)]
    · exact List.pairwise_map.mpr
        (List.pairwise_insertionSort (fun first second : MetricCall => first.now ≤ second.now) _)
  rw [same, SortedSet.members, List.map_map]
  rfl

theorem glob_fullKey (call : MetricCall) : glob (appKey ["*"]) call.fullKey = true := by
  have shape (text : String) (rest : List String) : appKey (text :: rest) =
      (RedisPrefixes.namespaceValue ++ ":" ++ appValue ++ ":") ++ String.intercalate ":" (text :: rest) := by
    unfold appKey
    rw [String.intercalate_cons_of_ne_nil (by simp), String.intercalate_cons_of_ne_nil (by simp)]
    simp only [String.append_assoc]
  have pattern : appKey ["*"] = (RedisPrefixes.namespaceValue ++ ":" ++ appValue ++ ":") ++ "*" ++ "" := by
    rw [shape, String.intercalate_singleton, String.append_empty]
  rw [pattern, MetricCall.fullKey, shape, glob_around_star (by decide) (by decide)]
  exact ⟨_, String.append_empty.symm⟩

theorem split_fullKey {call : MetricCall} (host : ':' ∉ call.host.toList) (key : ':' ∉ call.key.toList) :
    split ':' call.fullKey = [RedisPrefixes.namespaceValue, appValue, call.host, call.key] := by
  refine split_intercalate rfl ?_ (by simp)
  intro part member
  simp only [List.mem_cons, List.not_mem_nil, or_false] at member
  obtain rfl | rfl | rfl | rfl := member
  · decide
  · decide
  · exact host
  · exact key

/-- Calls without separators in their names have one key only when the names agree. -/
theorem fullKey_eq_iff {first second : MetricCall} (firstHost : ':' ∉ first.host.toList)
    (firstKey : ':' ∉ first.key.toList) (secondHost : ':' ∉ second.host.toList) (secondKey : ':' ∉ second.key.toList) :
    first.fullKey = second.fullKey ↔ first.host = second.host ∧ first.key = second.key := by
  constructor
  · intro same
    have parts := congrArg (split ':') same
    rw [split_fullKey firstHost firstKey, split_fullKey secondHost secondKey] at parts
    simpa using parts
  · rintro ⟨host, key⟩
    rw [MetricCall.fullKey, MetricCall.fullKey, host, key]

theorem mem_selected {key : String} :
    key ∈ redis.scan ((Dict.keys (runMetrics redis calls)).filter (glob (appKey ["*"]))) ↔
      ∃ call ∈ calls, call.fullKey = key := by
  rw [(redis.scan_perm _).mem_iff, List.mem_filter, (runMetrics_holds redis calls).key_iff]
  constructor
  · rintro ⟨⟨data, call, member, same, -⟩, -⟩
    exact ⟨call, member, same⟩
  · rintro ⟨call, member, rfl⟩
    exact ⟨⟨_, call, member, rfl, rfl⟩, glob_fullKey call⟩

theorem mem_getAppMetrics {entry : AppMetrics} :
    entry ∈ getAppMetrics redis (runMetrics redis calls) ↔
      ∃ call ∈ calls, appMetrics (runMetrics redis calls) call.fullKey = entry := by
  unfold getAppMetrics
  rw [List.mem_map]
  constructor
  · rintro ⟨key, selected, rfl⟩
    obtain ⟨call, member, rfl⟩ := mem_selected.mp selected
    exact ⟨call, member, rfl⟩
  · rintro ⟨call, member, rfl⟩
    exact ⟨_, mem_selected.mpr ⟨call, member, rfl⟩, rfl⟩

/-- The key of an entry never has the separator. -/
theorem free_appMetrics (store : MetricStore) (key : String) : ':' ∉ (appMetrics store key).key.toList := by
  unfold appMetrics
  dsimp only
  rw [List.getD_eq_getElem?_getD]
  cases last : (split ':' key).reverse[0]? with
  | none => decide
  | some part => exact free_of_mem_split (List.mem_reverse.mp (List.mem_of_getElem? last))

section Free

variable (hosts : ∀ call ∈ calls, ':' ∉ call.host.toList) (keys : ∀ call ∈ calls, ':' ∉ call.key.toList)

include hosts keys

theorem fullKey_agree {first second : MetricCall} (isFirst : first ∈ calls) (isSecond : second ∈ calls) :
    first.fullKey = second.fullKey ↔ first.host = second.host ∧ first.key = second.key :=
  fullKey_eq_iff (hosts first isFirst) (keys first isFirst) (hosts second isSecond) (keys second isSecond)

theorem appMetrics_fullKey (store : MetricStore) {call : MetricCall} (member : call ∈ calls) :
    appMetrics store call.fullKey =
      { key := call.key, task := call.host, data := (SortedSets.zrange store call.fullKey).members } := by
  unfold appMetrics
  rw [split_fullKey (hosts call member) (keys call member)]
  rfl

theorem nodup_getAppMetrics :
    ((getAppMetrics redis (runMetrics redis calls)).map fun entry => (entry.task, entry.key)).Nodup := by
  unfold getAppMetrics
  rw [List.map_map]
  have distinct := (redis.scan_perm _).nodup_iff.mpr
    ((runMetrics_holds redis calls).keys_nodup.filter (glob (appKey ["*"])))
  refine distinct.map_on fun first isFirst second isSecond same => ?_
  obtain ⟨call, member, rfl⟩ := mem_selected.mp isFirst
  obtain ⟨other, otherMember, rfl⟩ := mem_selected.mp isSecond
  rw [Function.comp_apply, Function.comp_apply, appMetrics_fullKey hosts keys _ member,
    appMetrics_fullKey hosts keys _ otherMember] at same
  exact (fullKey_agree hosts keys member otherMember).mpr (Prod.mk.inj same)

theorem recovered_of_free (times : (calls.map MetricCall.now).Nodup) :
    Recovered calls (getAppMetrics redis (runMetrics redis calls)) := by
  constructor
  case once => exact nodup_getAppMetrics hosts keys
  case written =>
    intro task key
    constructor
    · rintro ⟨entry, inside, rfl, rfl⟩
      obtain ⟨call, member, rfl⟩ := mem_getAppMetrics.mp inside
      rw [appMetrics_fullKey hosts keys _ member]
      exact ⟨call, member, rfl, rfl⟩
    · rintro ⟨call, member, rfl, rfl⟩
      refine ⟨_, mem_getAppMetrics.mpr ⟨call, member, rfl⟩, ?_⟩
      rw [appMetrics_fullKey hosts keys _ member]
      exact ⟨rfl, rfl⟩
  case data =>
    intro entry inside
    obtain ⟨call, member, rfl⟩ := mem_getAppMetrics.mp inside
    rw [appMetrics_fullKey hosts keys _ member]
    dsimp only
    have same : (calls.filter fun other => other.fullKey = call.fullKey) =
        calls.filter fun other => other.host = call.host ∧ other.key = call.key :=
      List.filter_congr fun other otherMember => decide_eq_decide.mpr (fullKey_agree hosts keys otherMember member)
    rw [members_zrange times, same]

end Free

/-- The metrics of a series of calls are recovered exactly when no key of theirs has the separator. -/
theorem recovered_iff (redis : MetricRedis) {calls : List MetricCall}
    (hosts : ∀ call ∈ calls, ':' ∉ call.host.toList) (times : (calls.map MetricCall.now).Nodup) :
    Recovered calls (getAppMetrics redis (runMetrics redis calls)) ↔ ∀ call ∈ calls, ':' ∉ call.key.toList := by
  constructor
  · intro recovered call member
    obtain ⟨entry, inside, -, same⟩ := (recovered.written call.host call.key).mpr ⟨call, member, rfl, rfl⟩
    obtain ⟨other, -, rfl⟩ := mem_getAppMetrics.mp inside
    exact same ▸ free_appMetrics _ _
  · exact fun keys => recovered_of_free hosts keys times

def metricCall (host key : String) (now : Rat) : MetricCall where
  host := host
  key := key
  data := [("value", .json (.int 1)), ("created_at", .float 0)]
  now := now

def metricCalls : List MetricCall :=
  [metricCall "camera" "latency" 2, metricCall "detector" "latency" 1, metricCall "camera" "latency" 0]

theorem metricCalls_recovered :
    Recovered metricCalls (getAppMetrics MetricRedis.plain (runMetrics MetricRedis.plain metricCalls)) :=
  (recovered_iff MetricRedis.plain (by decide) (by decide +kernel)).mpr (by decide)

/-- A key with the separator comes back as another key of another task. -/
theorem separated_key_not_recovered : ¬ Recovered [metricCall "camera" "ptz:latency" 1]
    (getAppMetrics MetricRedis.plain (runMetrics MetricRedis.plain [metricCall "camera" "ptz:latency" 1])) := by
  intro recovered
  have read : getAppMetrics MetricRedis.plain (runMetrics MetricRedis.plain [metricCall "camera" "ptz:latency" 1]) =
      [{ key := "latency", task := "ptz", data := [[("value", .json (.int 1)), ("created_at", .float 1)]] }] := by
    decide +kernel
  obtain ⟨entry, inside, task, -⟩ :=
    (recovered.written "camera" "ptz:latency").mpr ⟨_, List.mem_singleton_self _, rfl, rfl⟩
  rw [read, List.mem_singleton] at inside
  subst inside
  exact absurd task (by decide)

end Wotemu
