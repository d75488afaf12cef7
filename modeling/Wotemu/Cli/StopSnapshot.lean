import Wotemu.Cli.Stop

/-! When a stopped stack leaves its snapshot behind.

Whatever fails before the update leaves the stack alone. Whatever fails after
it, the lookup of Redis and the two writes included, loses the snapshot.
-/

set_option autoImplicit false

namespace Wotemu.Stop

open Wotemu.Foundation

variable (docker : Docker) (redis : RedisCalls) (stack : String) (redisUrl : Option String) (store : SortedSets Value)

def latest (store : SortedSets Value) (key : String) : Option Value := (SortedSets.zrange store key).members.getLast?

/-- A call that returns has left its snapshot and the content of the file as the latest entries,
and one that raises has not updated the stack or has stored its snapshot. -/
structure SnapshotKept (docker : Docker) (final : Final) : Prop where
  returned : final.result = .ok () → ∃ snapshot content text, final.snapshot = some snapshot ∧
    latest final.store snapshotKey = some snapshot ∧
    docker.readFile = .ok content ∧ Yaml.ofJson text = content ∧ latest final.store composeKey = some text
  raised : ∀ why, final.result = .error why → final.updated = false ∨ ∃ snapshot, final.snapshot = some snapshot ∧
    snapshot ∈ (SortedSets.zrange final.store snapshotKey).members

/-- A write makes its member the latest one: it reaches the set and every other member stands
before it, or it does not and the member is already there. -/
def Lands (turn : Nat) (key : String) (member : Value) : Prop :=
  if reaches redis turn then
    ∀ entry ∈ SortedSets.zrange store key, entry.2 ≠ member →
      SortedSet.precedes redis.before entry (redis.time turn) member = true
  else latest store key = some member

/-- Nothing fails from the update on that leaves the stack without its snapshot. -/
def Safe : Prop :=
  match prepare docker stack with
  | .error _ => True
  | .ok (content, target, snapshot) => match docker.deploy target with
    | .failed updated => updated = false ∨ snapshot ∈ (SortedSets.zrange store snapshotKey).members
    | .returned => match findRedisUrl docker stack redisUrl with
      | .error _ => snapshot ∈ (SortedSets.zrange store snapshotKey).members
      | .ok _ => Lands redis store 0 snapshotKey snapshot ∧
        ∃ text, Yaml.Representable content text ∧ Lands redis store 1 composeKey text

variable {redis store}

theorem latest_zaddJson {turn : Nat} {key : String} {member : Value} :
    latest (zaddJson redis turn key (.ok member) store) key = some member ↔ Lands redis store turn key member := by
  unfold Lands
  simp only [zaddJson]
  split
  · unfold latest
    rw [SortedSets.zrange_zadd]
    exact SortedSet.getLast?_members_add
  · exact Iff.rfl

theorem zrange_zaddJson_of_ne {turn : Nat} {key other : String} {data : Except PyError Value}
    (different : other ≠ key) :
    SortedSets.zrange (zaddJson redis turn key data store) other = SortedSets.zrange store other := by
  cases data with
  | error why => rfl
  | ok member =>
    simp only [zaddJson]
    split
    · exact SortedSets.zrange_zadd_of_ne _ different _ _
    · rfl

theorem lands_congr {turn : Nat} {key : String} {member : Value} {other : SortedSets Value}
    (same : SortedSets.zrange store key = SortedSets.zrange other key) :
    Lands redis store turn key member ↔ Lands redis other turn key member := by
  unfold Lands latest
  rw [same]

/-- The content of the file is the latest entry exactly when JSON keeps it and its write lands. -/
theorem latest_dumps {turn : Nat} {key : String} {content : Yaml} :
    (∃ text, Yaml.ofJson text = content ∧ latest (zaddJson redis turn key content.dumps store) key = some text) ↔
      ∃ text, Yaml.Representable content text ∧ Lands redis store turn key text := by
  refine exists_congr fun text => ?_
  constructor
  · intro both
    have kept := Yaml.representable_of_ofJson both.1
    have found := both.2
    rw [kept.1] at found
    exact ⟨kept, latest_zaddJson.mp found⟩
  · intro both
    refine ⟨both.1.2, ?_⟩
    rw [both.1.1]
    exact latest_zaddJson.mpr both.2

variable {docker stack redisUrl}

theorem writes_kept_iff {snapshot : Value} {content : Yaml} :
    (latest (zaddJson redis 1 composeKey content.dumps (zaddJson redis 0 snapshotKey (.ok snapshot) store))
        snapshotKey =
        some snapshot ∧
      ∃ text, Yaml.ofJson text = content ∧ latest (zaddJson redis 1 composeKey content.dumps
        (zaddJson redis 0 snapshotKey (.ok snapshot) store)) composeKey = some text) ↔
    Lands redis store 0 snapshotKey snapshot ∧
      ∃ text, Yaml.Representable content text ∧ Lands redis store 1 composeKey text := by
  have first : ∀ data, latest (zaddJson redis 1 composeKey data (zaddJson redis 0 snapshotKey (.ok snapshot) store))
      snapshotKey = latest (zaddJson redis 0 snapshotKey (.ok snapshot) store) snapshotKey := by
    intro data
    unfold latest
    rw [zrange_zaddJson_of_ne (by decide)]
  have second : ∀ text, Lands redis (zaddJson redis 0 snapshotKey (.ok snapshot) store) 1 composeKey text ↔
      Lands redis store 1 composeKey text := fun text => lands_congr (zrange_zaddJson_of_ne (by decide))
  rw [first, latest_zaddJson, latest_dumps]
  simp only [second]

theorem readFile_of_prepare {content target : Yaml} {snapshot : Value}
    (prepared : prepare docker stack = .ok (content, target, snapshot)) : docker.readFile = .ok content := by
  obtain ⟨_, _, afterCheck⟩ := bind_ok prepared
  obtain ⟨file, read, afterRead⟩ := bind_ok afterCheck
  obtain ⟨updatedFile, _, afterTarget⟩ := bind_ok afterRead
  obtain ⟨taken, _, returned⟩ := bind_ok afterTarget
  cases returned
  exact read

section Outcomes

variable {snapshot : Value} {updated : Bool} {why : Failure}

theorem kept_before_update : SnapshotKept docker ⟨false, store, none, .error why⟩ where
  returned := by
    intro returned
    cases returned
  raised := fun _ _ => Or.inl rfl

theorem kept_of_raised_iff : SnapshotKept docker ⟨updated, store, some snapshot, .error why⟩ ↔
    updated = false ∨ snapshot ∈ (SortedSets.zrange store snapshotKey).members := by
  constructor
  · intro kept
    cases kept.raised why rfl with
    | inl still => exact Or.inl still
    | inr stored =>
      obtain ⟨other, same, inside⟩ := stored
      cases same
      exact Or.inr inside
  · intro either
    constructor
    case returned =>
      intro returned
      cases returned
    case raised => exact fun _ _ => either.imp id fun inside => ⟨snapshot, rfl, inside⟩

theorem kept_of_returned_iff {content : Yaml} (read : docker.readFile = .ok content) :
    SnapshotKept docker ⟨true, store, some snapshot, .ok ()⟩ ↔ latest store snapshotKey = some snapshot ∧
      ∃ text, Yaml.ofJson text = content ∧ latest store composeKey = some text := by
  constructor
  · intro kept
    obtain ⟨other, file, text, same, last, sameFile, loads, compose⟩ := kept.returned rfl
    cases same
    cases read.symm.trans sameFile
    exact ⟨last, text, loads, compose⟩
  · intro both
    obtain ⟨last, text, loads, compose⟩ := both
    constructor
    case returned => exact fun _ => ⟨snapshot, content, text, rfl, last, read, loads, compose⟩
    case raised =>
      intro why raised
      cases raised

end Outcomes

/-- The snapshot is kept in exactly the calls in which nothing is lost after the update. -/
theorem kept_iff_safe : SnapshotKept docker (stopStack docker redis stack redisUrl store) ↔
    Safe docker redis stack redisUrl store := by
  unfold stopStack Safe
  cases prepared : prepare docker stack with
  | error why => exact iff_of_true kept_before_update trivial
  | ok parts =>
    obtain ⟨content, target, snapshot⟩ := parts
    cases deployed : docker.deploy target with
    | failed updated =>
      simp only [deployed]
      exact kept_of_raised_iff
    | returned =>
      cases found : findRedisUrl docker stack redisUrl with
      | error why =>
        simp only [deployed]
        exact kept_of_raised_iff.trans (or_iff_right (by decide))
      | ok url =>
        simp only [deployed]
        exact (kept_of_returned_iff (readFile_of_prepare prepared)).trans writes_kept_iff

def plainStack : Docker where
  readFile := .ok (.dict [(.str "services", .dict [(.str "web", .dict [(.str "image", .str "nginx")])])])
  services := fun _ => .ok [.dict [("ID", .str "s1"), ("Spec", .dict [("Labels", .dict
    [("com.docker.stack.namespace", .str "demo")])])]]
  tasks := fun _ => .ok [.dict [("ID", .str "t1")]]
  logs := fun _ => .returned "started"
  time := fun _ => "1.5"
  deploy := fun _ => .returned

def plainRedis : RedisCalls where
  connects := fun _ => true
  stores := fun _ => true
  time := fun turn => turn
  before := fun _ _ => true

/-- Without a Redis service and without a URL the stack is updated and the snapshot is lost. -/
theorem noRedis_loses_snapshot :
    ¬ ∀ docker redis stack redisUrl store, SnapshotKept docker (stopStack docker redis stack redisUrl store) := by
  intro always
  have kept := always plainStack plainRedis "demo" none []
  have raised : (stopStack plainStack plainRedis "demo" none []).result = .error .stopIteration := rfl
  cases kept.raised .stopIteration raised with
  | inl still => cases still
  | inr stored =>
    obtain ⟨snapshot, _, inside⟩ := stored
    cases inside

end Wotemu.Stop
