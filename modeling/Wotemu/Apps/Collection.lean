import Mathlib.Data.List.Sort
import Wotemu.Foundation.LocalTime
import Wotemu.Foundation.Stages
import Wotemu.Apps.Historian

/-! The collection of the historian, and what `get` returns from it.

The database keeps a naive date as UTC, to the millisecond, and returns it
naive. `get` reads it as a date of the local zone.
-/

set_option autoImplicit false

namespace Wotemu.Historian

open Wotemu.Foundation

def Doc.stored (doc : Doc) : Doc := { doc with utcDate := doc.utcDate / 1000 * 1000 }

def Query.selects (query : Query) (doc : Doc) : Bool :=
  query.gte ≤ doc.utcDate ∧ (∀ lt ∈ query.lt, doc.utcDate < lt) ∧
    (∀ name ∈ query.propertyName, doc.propertyName = name) ∧ (∀ thing ∈ query.thingId, doc.thingId = thing) ∧
    ∀ servient ∈ query.servient, doc.servient = servient

/-- `$bucketAuto`: how the database spreads documents over a number of buckets. -/
structure BucketAuto where
  buckets : Int → List Doc → List (List Doc)
  partition : ∀ numBuckets docs, (buckets numBuckets docs).flatten.Perm docs

/-- An entry of the answer of `get`, in a process of the zone. -/
def Doc.item (zone : Zone) (doc : Doc) : Except PyError Item := do
  let unixTime ← zone.timestamp doc.utcDate
  return {
    unixTime
    propertyName := doc.propertyName
    thingId := doc.thingId
    servient := doc.servient
    value := doc.value }

section Get

variable (zone : Zone) (auto : BucketAuto) (docs : List Doc)

def sortDate (docs : List Doc) : List Doc :=
  docs.insertionSort fun first second => first.utcDate ≤ second.utcDate

/-- The pipeline: the first document of each bucket. The database refuses to make no buckets. -/
def aggregate (numBuckets : Int) (query : Query) : Except PyError (List Doc) :=
  if 0 < numBuckets then
    .ok (sortDate ((auto.buckets numBuckets (docs.filter query.selects)).filterMap List.head?))
  else .error .runtimeError

def getAggregated (numBuckets : Int) (query : Query) : Except PyError (List Item) := do
  let found ← aggregate auto docs numBuckets query
  found.mapM (Doc.item zone)

def numBuckets (request : Option GetInput) : Option Int := (request.bind GetInput.buckets).filter (· ≠ 0)

/-- `_get` at a time. -/
def get (now : Rat) (request : Option GetInput) : Except PyError (List Item) := do
  let query ← getQuery now request
  match numBuckets request with
  | some count => getAggregated zone auto docs count query
  | none => (sortDate (docs.filter query.selects)).mapM (Doc.item zone)

/-- The documents that `get` reads, in the order of its answer. -/
def sources (now : Rat) (request : Option GetInput) : Except PyError (List Doc) := do
  let query ← getQuery now request
  match numBuckets request with
  | some count => aggregate auto docs count query
  | none => return sortDate (docs.filter query.selects)

end Get

section Results

variable {zone : Zone} {auto : BucketAuto} {docs : List Doc} {now : Rat} {request : Option GetInput}

theorem mem_sortDate {doc : Doc} : doc ∈ sortDate docs ↔ doc ∈ docs :=
  (List.perm_insertionSort _ docs).mem_iff

theorem get_eq (zone : Zone) (auto : BucketAuto) (docs : List Doc) (now : Rat) (request : Option GetInput) :
    get zone auto docs now request = sources auto docs now request >>= fun found => found.mapM (Doc.item zone) := by
  unfold get sources
  cases getQuery now request with
  | error why => rfl
  | ok query =>
    cases numBuckets request with
    | none => rfl
    | some count => rfl

theorem get_ok_iff {items : List Item} : get zone auto docs now request = .ok items ↔
    ∃ found, sources auto docs now request = .ok found ∧
      List.Forall₂ (fun doc item => doc.item zone = .ok item) found items := by
  rw [get_eq, bind_ok_iff]
  exact exists_congr fun found => and_congr_right fun _ => mapM_ok_iff

theorem mem_of_aggregate {count : Int} {query : Query} {found : List Doc} {doc : Doc}
    (made : aggregate auto docs count query = .ok found) (member : doc ∈ found) :
    doc ∈ docs ∧ query.selects doc = true := by
  unfold aggregate at made
  split at made
  case isFalse => cases made
  case isTrue =>
    cases made
    obtain ⟨bucket, isBucket, first⟩ := List.mem_filterMap.mp (mem_sortDate.mp member)
    have inBucket : doc ∈ (auto.buckets count (docs.filter query.selects)).flatten :=
      List.mem_flatten.mpr ⟨bucket, isBucket, List.mem_of_mem_head? first⟩
    exact List.mem_filter.mp ((auto.partition _ _).mem_iff.mp inBucket)

/-- `get` reads documents of the collection only. -/
theorem mem_of_sources {found : List Doc} {doc : Doc} (made : sources auto docs now request = .ok found)
    (member : doc ∈ found) : doc ∈ docs := by
  obtain ⟨query, -, made⟩ := bind_ok made
  cases counted : numBuckets request with
  | none =>
    rw [counted] at made
    cases made
    exact (List.mem_filter.mp (mem_sortDate.mp member)).1
  | some count =>
    rw [counted] at made
    exact (mem_of_aggregate made member).1

/-- A plain `get` reads every document that the query selects. -/
theorem sources_plain {query : Query} (queried : getQuery now request = .ok query)
    (plain : numBuckets request = none) :
    sources auto docs now request = .ok (sortDate (docs.filter query.selects)) := by
  unfold sources
  rw [queried, plain]
  rfl

theorem item_ok_iff {doc : Doc} {item : Item} : doc.item zone = .ok item ↔
    ∃ time, zone.timestamp doc.utcDate = .ok time ∧
      item = ⟨time, doc.propertyName, doc.thingId, doc.servient, doc.value⟩ := by
  unfold Doc.item
  rw [bind_ok_iff]
  exact exists_congr fun time => and_congr_right fun _ =>
    ⟨fun same => (Except.ok.inj same).symm, fun same => same ▸ rfl⟩

theorem item_returns_iff {doc : Doc} : Returns (doc.item zone) ↔ Returns (zone.timestamp doc.utcDate) :=
  Returns.bind_pure_iff

/-- A plain `get` returns exactly when the date of each document that its query selects can be
read. -/
theorem get_plain_returns_iff {query : Query} (queried : getQuery now request = .ok query)
    (plain : numBuckets request = none) : Returns (get zone auto docs now request) ↔
      ∀ doc ∈ docs, query.selects doc = true → Returns (zone.timestamp doc.utcDate) := by
  have body : get zone auto docs now request = (sortDate (docs.filter query.selects)).mapM (Doc.item zone) := by
    rw [get_eq, sources_plain queried plain]
    rfl
  simp only [body, Returns.mapM_iff, mem_sortDate, List.mem_filter, and_imp, item_returns_iff]

end Results

end Wotemu.Historian
