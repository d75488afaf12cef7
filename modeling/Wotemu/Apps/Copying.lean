import Mathlib.Algebra.GroupWithZero.Nat
import Wotemu.Apps.Historian

/-! The records that an iteration of the historian copies.

One failed invocation makes the comprehension raise before its filter is
reached, and then nothing is written. A time of zero is taken for no time.
-/

set_option autoImplicit false

namespace Wotemu.Historian

open Wotemu.Foundation

def Item.doc (item : Item) : Doc where
  utcDate := fromTimestamp item.unixTime
  propertyName := item.propertyName
  thingId := item.thingId
  servient := item.servient
  value := item.value

def succeeded (results : List GetResult) : List Item :=
  results.flatMap fun result => match result with
    | .ok items => items
    | .error _ => []

def written (outcome : Except PyError (List Doc)) : List Doc :=
  match outcome with
  | .ok docs => docs
  | .error _ => []

/-- The items are written, each exactly once, and nothing else is. -/
def Copied (observation : Observation) (downlink : Downlink) (mongo : Mongo) (toUnix : Rat)
    (props : List Property) : Prop :=
  (written (observation.runObserveHistorianIter downlink mongo toUnix)).Perm
    ((succeeded (observation.results downlink toUnix props)).map Item.doc)

/-- An item with a time that is a date after or before the epoch, and whose document the
database accepts. -/
structure Writable (mongo : Mongo) (item : Item) : Prop where
  nonzero : item.unixTime ≠ 0
  inRange : utcfromtimestamp item.unixTime = .ok (fromTimestamp item.unixTime)
  accepted : mongo.accepts item.doc = true

section Results

variable {results : List GetResult}

theorem writeInputs_ok (items : List Item) :
    GetResult.writeInputs (.ok items) = .ok (items.map Item.writeInput) := by
  have all : items.filter (fun _ => !GetResult.isException (.ok items)) = items :=
    List.filter_eq_self.mpr fun _ _ => rfl
  change Except.ok ((items.filter fun _ => !GetResult.isException (.ok items)).map Item.writeInput) = _
  rw [all]

theorem writeParams_ok (all : ∀ result ∈ results, result.isException = false) :
    writeParams results = .ok ((succeeded results).map Item.writeInput) := by
  induction results with
  | nil => rfl
  | cons result rest ih =>
    cases result with
    | error why => cases all (.error why) List.mem_cons_self
    | ok items =>
      have later := ih fun other member => all other (List.mem_cons_of_mem _ member)
      unfold writeParams at later ⊢
      obtain ⟨inputs, made, flattened⟩ := bind_ok later
      have same : inputs.flatten = (succeeded rest).map Item.writeInput := Except.ok.inj flattened
      rw [List.mapM_cons, made, writeInputs_ok]
      change Except.ok (items.map Item.writeInput :: inputs).flatten = _
      rw [List.flatten_cons, same, ← List.map_append]
      rfl

/-- An exception anywhere among the results ends the comprehension. -/
theorem writeParams_error {result : GetResult} (member : result ∈ results) (raised : result.isException = true) :
    ∃ why, writeParams results = .error why := by
  cases made : writeParams results with
  | error why => exact ⟨why, rfl⟩
  | ok inputs =>
    obtain ⟨lists, mapped, -⟩ := bind_ok made
    obtain ⟨list, ok⟩ := exists_of_forall₂ (mapM_ok_iff.mp mapped) member
    cases result with
    | error why => cases ok
    | ok items => cases raised

end Results

section Writes

variable {mongo : Mongo} {items : List Item}

theorem write_ok_iff {turn : Nat} {input : WriteInput} {doc : Doc} : mongo.write turn input = .ok doc ↔
    ∃ date, writeTime (mongo.utcnow turn) input.unixTime = .ok date ∧
      doc = ⟨date, input.propertyName, input.thingId, input.servient, input.value⟩ ∧ mongo.accepts doc = true := by
  unfold Mongo.write Mongo.insertOne
  rw [bind_ok_iff]
  refine exists_congr fun date => and_congr_right fun _ => ?_
  split
  case isTrue accepted =>
    rw [Except.ok.injEq, eq_comm]
    exact ⟨fun same => ⟨same, same ▸ accepted⟩, And.left⟩
  case isFalse refused => exact iff_of_false (fun ok => by cases ok) fun both => refused (both.1 ▸ both.2)

theorem utcfromtimestamp_ok {time : Rat} {date : Int} (ok : utcfromtimestamp time = .ok date) :
    date = fromTimestamp time := by
  simp only [utcfromtimestamp] at ok
  split at ok
  · cases ok
    rfl
  · cases ok

theorem write_writable {item : Item} (writable : Writable mongo item) (turn : Nat) :
    mongo.write turn item.writeInput = .ok item.doc := by
  refine write_ok_iff.mpr ⟨fromTimestamp item.unixTime, ?_, rfl, writable.accepted⟩
  rw [← writable.inRange]
  exact if_neg writable.nonzero

/-- A document counts twice when its date is the epoch. -/
def weight (doc : Doc) : Nat := if doc.utcDate = 0 then 2 else 1

theorem one_le_weight (doc : Doc) : 1 ≤ weight doc := by
  unfold weight
  split <;> decide

/-- What is written of an item that is not writable weighs less than its document, because the
current time is not the epoch. -/
theorem write_weight {item : Item} {turn : Nat} {doc : Doc} (made : mongo.write turn item.writeInput = .ok doc)
    (unwritable : ¬ Writable mongo item) : weight doc < weight item.doc := by
  obtain ⟨date, dated, same, accepted⟩ := write_ok_iff.mp made
  by_cases zero : item.unixTime = 0
  · have now : mongo.utcnow turn = date := by
      simp only [Item.writeInput, writeTime, if_pos zero, Except.ok.injEq] at dated
      exact dated
    have epoch : item.doc.utcDate = 0 := (congrArg fromTimestamp zero).trans (by decide +kernel)
    have later : doc.utcDate ≠ 0 := by
      rw [same, ← now]
      exact Int.ne_of_gt (mongo.after_epoch turn)
    rw [weight, weight, if_neg later, if_pos epoch]
    decide
  · have inRange : utcfromtimestamp item.unixTime = .ok date := by
      simp only [Item.writeInput, writeTime, if_neg zero] at dated
      exact dated
    have dateIs := utcfromtimestamp_ok inRange
    have docIs : doc = item.doc := by
      rw [same, dateIs]
      rfl
    exact absurd ⟨zero, dateIs ▸ inRange, docIs ▸ accepted⟩ unwritable

theorem writeAll_writable (all : ∀ item ∈ items, Writable mongo item) (turn : Nat) :
    mongo.writeAll turn (items.map Item.writeInput) = items.map Item.doc := by
  induction items generalizing turn with
  | nil => rfl
  | cons item rest ih =>
    have here := write_writable (all item List.mem_cons_self) turn
    have later := ih (fun other member => all other (List.mem_cons_of_mem _ member)) (turn + 1)
    simp only [List.map_cons, Mongo.writeAll, here, later]

/-- The writes weigh at most what the documents of all items weigh, and less when an item is
not writable. -/
theorem writeAll_weight (turn : Nat) :
    ((mongo.writeAll turn (items.map Item.writeInput)).map weight).sum ≤ ((items.map Item.doc).map weight).sum ∧
      ((∃ item ∈ items, ¬ Writable mongo item) →
        ((mongo.writeAll turn (items.map Item.writeInput)).map weight).sum <
          ((items.map Item.doc).map weight).sum) := by
  induction items generalizing turn with
  | nil => exact ⟨le_rfl, fun ⟨_, member, _⟩ => by cases member⟩
  | cons item rest ih =>
    obtain ⟨atMost, less⟩ := ih (turn + 1)
    have some := one_le_weight item.doc
    simp only [List.map_cons, Mongo.writeAll, List.sum_cons, List.exists_mem_cons_iff]
    cases made : mongo.write turn item.writeInput with
    | error why =>
      simp only
      omega
    | ok doc =>
      simp only [List.map_cons, List.sum_cons]
      by_cases writable : Writable mongo item
      · rw [write_writable writable, Except.ok.injEq] at made
        rw [← made]
        refine ⟨by omega, fun unwritable => ?_⟩
        exact Nat.add_lt_add_left (less (unwritable.resolve_left (not_not.mpr writable))) _
      · have lighter := write_weight made writable
        omega

/-- The documents of all items are written exactly when every item is writable. -/
theorem writeAll_perm_iff (turn : Nat) :
    (mongo.writeAll turn (items.map Item.writeInput)).Perm (items.map Item.doc) ↔
      ∀ item ∈ items, Writable mongo item := by
  constructor
  · intro perm item member
    by_contra unwritable
    have less := (writeAll_weight turn).2 ⟨item, member, unwritable⟩
    rw [(perm.map weight).sum_nat] at less
    exact absurd less (lt_irrefl _)
  · intro all
    rw [writeAll_writable all]

end Writes

section Iteration

variable {observation : Observation} {downlink : Downlink} {mongo : Mongo} {toUnix : Rat} {props : List Property}

theorem written_of_listed (listed : observation.listed downlink toUnix = .ok props) :
    written (observation.runObserveHistorianIter downlink mongo toUnix) =
      match writeParams (observation.results downlink toUnix props) with
      | .ok inputs => mongo.writeAll 0 inputs
      | .error _ => [] := by
  simp only [Observation.runObserveHistorianIter, listed]
  change written (writeParams (observation.results downlink toUnix props) >>= _) = _
  cases writeParams (observation.results downlink toUnix props) with
  | ok inputs => rfl
  | error why => rfl

/-- After a list of properties, the items are copied exactly when there are none or when no
invocation raised and all of them are writable. -/
theorem copied_iff (listed : observation.listed downlink toUnix = .ok props) :
    Copied observation downlink mongo toUnix props ↔
      succeeded (observation.results downlink toUnix props) = [] ∨
        ((∀ result ∈ observation.results downlink toUnix props, result.isException = false) ∧
          ∀ item ∈ succeeded (observation.results downlink toUnix props), Writable mongo item) := by
  unfold Copied
  rw [written_of_listed listed]
  generalize observation.results downlink toUnix props = results
  by_cases all : ∀ result ∈ results, result.isException = false
  · rw [writeParams_ok all]
    simp only [writeAll_perm_iff]
    constructor
    · exact fun writable => Or.inr ⟨all, writable⟩
    · intro either item member
      cases either with
      | inl none => cases none ▸ member
      | inr both => exact both.2 item member
  · simp only [not_forall, Bool.not_eq_false] at all
    obtain ⟨result, member, raised⟩ := all
    obtain ⟨why, failed⟩ := writeParams_error member raised
    rw [failed]
    simp only [List.nil_perm, List.map_eq_nil_iff]
    refine ⟨Or.inl, fun either => ?_⟩
    cases either with
    | inl none => exact none
    | inr both => exact absurd raised (by simp [both.1 result member])

end Iteration

/-! A downlink with two properties, where the second invocation may fail. -/

def meter (name : String) : Property := ⟨name, "meter", "node"⟩

def reading : Item := ⟨1605608430, "power", "meter", "node", .int 7⟩

def twoMeters (second : GetResult) : Downlink where
  consume := .ok ()
  list := .ok [meter "power", meter "energy"]
  get := fun turn _ => if turn = 0 then .ok [reading] else second

def storing : Mongo where
  utcnow := fun turn => 1605608490000000 + turn
  after_epoch := fun turn => by omega
  accepts := fun _ => true

theorem twoMeters_results (second : GetResult) :
    Observation.results ⟨1, 60⟩ (twoMeters second) 1605608490 [meter "power", meter "energy"] =
      [.ok [reading], second] := rfl

theorem twoMeters_copied :
    Copied ⟨1, 60⟩ (twoMeters (.ok [])) storing 1605608490 [meter "power", meter "energy"] := by
  refine (copied_iff (by decide +kernel)).mpr (Or.inr ⟨?_, ?_⟩)
  · rw [twoMeters_results]
    simp [GetResult.isException]
  · rw [twoMeters_results]
    intro item member
    obtain rfl : item = reading := by simpa [succeeded] using member
    exact ⟨by decide +kernel, by decide +kernel, rfl⟩

/-- The failed invocation loses the reading of the other one. -/
theorem failedGet_not_copied :
    ¬ Copied ⟨1, 60⟩ (twoMeters (.error "TimeoutError()")) storing 1605608490 [meter "power", meter "energy"] := by
  intro copied
  have lost := copied.length_eq
  rw [twoMeters_results] at lost
  exact absurd lost (by decide +kernel)

end Wotemu.Historian
