import Wotemu.Apps.Collection
import Wotemu.Apps.Copying
import Wotemu.Apps.Observation

/-! The time of a record on its way through `write`, `get` and a chain of uplink
historians.

The time is written as a date of UTC and read back as a date of the local zone.
It is a double on both ways, and the database cuts the date to milliseconds.
-/

set_option autoImplicit false

namespace Wotemu.Historian

open Wotemu.Foundation

/-- The double of a Unix time with the resolution of the database. -/
def unixTime (millis : Nat) : Rat := double (millis / 1000)

/-- The double is not below the time by more than half a microsecond. -/
def Near (millis : Nat) : Prop := (millis : Rat) / 1000 - unixTime millis ≤ 1 / 2000000

instance (millis : Nat) : Decidable (Near millis) := by
  unfold Near
  infer_instance

structure Written (millis : Nat) where
  mongo : Mongo
  turn : Nat
  input : WriteInput
  doc : Doc
  timed : input.unixTime = some (unixTime millis)
  made : mongo.write turn input = .ok doc

def WriteInput.record (input : WriteInput) (millis : Nat) : Doc where
  utcDate := millis * 1000
  propertyName := input.propertyName
  thingId := input.thingId
  servient := input.servient
  value := input.value

def Item.describes (item : Item) (input : WriteInput) : Prop :=
  item.propertyName = input.propertyName ∧ item.thingId = input.thingId ∧ item.servient = input.servient ∧
    item.value = input.value

/-- One iteration of an uplink historian: its clock in microseconds, the clock of the downlink
at each invocation, and the invocations that raise. -/
structure Iteration where
  observation : Observation
  now : Nat
  served : Nat → Rat
  consume : Except PyError Unit
  list : Except PyError (List Property)
  raised : Nat → Option String

structure Uplink where
  zone : Zone
  mongo : Mongo
  iterations : List Iteration

/-- `datetime.utcnow().timestamp()` -/
def toUnix (zone : Zone) (now : Nat) : Except PyError Rat := zone.timestamp now

namespace Iteration

variable (iteration : Iteration) (zone : Zone) (auto : BucketAuto) (docs : List Doc)

def downlink : Downlink where
  consume := iteration.consume
  list := iteration.list
  get := fun turn request => match iteration.raised turn with
    | some why => .error why
    | none => match get zone auto docs (iteration.served turn) (some request) with
      | .ok items => .ok items
      | .error _ => .error "ValueError"

end Iteration

namespace Uplink

variable (uplink : Uplink)

/-- An iteration, where the first zone is that of the downlink. -/
def observe (zone : Zone) (auto : BucketAuto) (docs : List Doc) (iteration : Iteration) :
    Except PyError (List Doc) := do
  let toUnix ← toUnix uplink.zone iteration.now
  iteration.observation.runObserveHistorianIter (iteration.downlink zone auto docs) uplink.mongo toUnix

def collect (zone : Zone) (auto : BucketAuto) (docs : List Doc) : List Doc :=
  uplink.iterations.flatMap fun iteration => (written (uplink.observe zone auto docs iteration)).map Doc.stored

end Uplink

/-- What the last historian of a chain of uplinks collects of the documents of the first. -/
def relay (auto : BucketAuto) : Zone → List Doc → List Uplink → List Doc
  | _, docs, [] => docs
  | zone, docs, uplink :: rest => relay auto uplink.zone (uplink.collect zone auto docs) rest

/-- Each copy has the fields of a document, and its time when that is the time in question. -/
def Copies (millis : Nat) (docs copies : List Doc) : Prop :=
  ∀ copy ∈ copies, ∃ doc ∈ docs, copy = { doc with utcDate := copy.utcDate } ∧
    (doc.utcDate = millis * 1000 → copy.utcDate = millis * 1000)

def Written.Among {millis : Nat} (written : Written millis) (others docs : List Doc) : Prop :=
  docs.Perm (written.doc.stored :: others)

/-- The item that `get` returns for a document. -/
def Answers (zone : Zone) (auto : BucketAuto) (docs : List Doc) (now : Rat) (request : Option GetInput) (doc : Doc)
    (item : Item) : Prop :=
  ∃ read items, ∃ position : Nat, sources auto docs now request = .ok read ∧
    get zone auto docs now request = .ok items ∧
    read[position]? = some doc ∧ items[position]? = some item

/-- What a historian in the zone does with a time: a plain `get` whose window holds it returns
the record, and every item for the document has the time. -/
structure Returned (zone : Zone) (millis : Nat) (others : List Doc) : Prop where
  found : ∀ (written : Written millis) docs auto now request query, written.Among others docs →
    getQuery now request = .ok query → numBuckets request = none →
    query.selects (written.input.record millis) = true →
    ∃ item, Answers zone auto docs now request written.doc.stored item ∧ item.describes written.input
  timed : ∀ (written : Written millis) docs auto now request item, written.Among others docs →
    Answers zone auto docs now request written.doc.stored item → item.unixTime = unixTime millis

/-- The times are kept by each historian of the chain and through the chain, and the window of
an uplink ends now. -/
structure TimesKept (zone : Zone) (uplinks : List Zone) (millis : Nat) (others : List Doc) (now : Nat) : Prop where
  returned : ∀ historian ∈ zone :: uplinks, Returned historian millis others
  copied : ∀ (written : Written millis) auto docs (chain : List Uplink), written.Among others docs →
    chain.map Uplink.zone = uplinks → Copies millis docs (relay auto zone docs chain)
  ends : ∀ uplink ∈ uplinks, toUnix uplink now = .ok (double (now / 1000000))

/-- The double of the time is near and the sum of its parts, and the zone keeps its second. -/
def Exact (millis : Nat) (zone : Zone) : Prop :=
  Near millis ∧ SumsUp (millis * 1000) ∧ zone.Keeps (millis / 1000)

instance (millis : Nat) (zone : Zone) : Decidable (Exact millis zone) := by
  unfold Exact
  infer_instance

/-- A time from the year 10000 on is not written. Another one has to be after the epoch and exact
in the zones of the chain, and no other document may raise when it is read. -/
def Kept (zone : Zone) (uplinks : List Zone) (millis : Nat) (others : List Doc) : Prop :=
  endSecond * 1000 ≤ millis ∨ (millis ≠ 0 ∧ ∀ historian ∈ zone :: uplinks, Exact millis historian ∧
    ∀ other ∈ others, firstSecond * 1000000 ≤ other.utcDate → Returns (historian.timestamp other.utcDate))

section Times

variable {millis : Nat} {zone : Zone}

theorem unixTime_ne_zero (positive : millis ≠ 0) : unixTime millis ≠ 0 := by
  have above : (0 : Rat) < millis := by exact_mod_cast Nat.pos_of_ne_zero positive
  exact (double_pos (div_pos above (by norm_num))).ne'

theorem unixTime_nonneg (millis : Nat) : 0 ≤ unixTime millis :=
  double_nonneg (div_nonneg (Nat.cast_nonneg millis) (by norm_num))

theorem unixTime_near (date : (millis : Int) < endSecond * 1000) :
    |unixTime millis - millis / 1000| ≤ 1 / 65536 := by
  have less : (millis : Rat) < 2 ^ 38 * 1000 := by
    unfold endSecond at date
    exact_mod_cast (show (millis : Int) < 2 ^ 38 * 1000 by omega)
  have nonneg : (0 : Rat) ≤ millis := Nat.cast_nonneg millis
  have size : |(millis : Rat) / 1000| < 2 ^ (38 : Int) := by
    rw [abs_of_nonneg (div_nonneg nonneg (by norm_num)), div_lt_iff₀ (by norm_num)]
    exact_mod_cast less
  have error := double_error size
  norm_num at error
  unfold unixTime
  linarith

theorem floor_unixTime (date : (millis : Int) < endSecond * 1000) :
    (unixTime millis).floor = (millis / 1000 : Nat) := by
  have near := abs_le.mp (unixTime_near date)
  have whole : double (millis / 1000 : Nat) = (millis / 1000 : Nat) := by
    unfold endSecond at date
    exact double_intCast (n := (millis / 1000 : Nat)) (by rw [abs_of_nonneg (by omega)]; omega)
  have split := Nat.div_add_mod millis 1000
  have last := Nat.mod_lt millis (show 0 < 1000 by decide)
  unfold unixTime at near ⊢
  generalize millis / 1000 = second at *
  generalize millis % 1000 = rest at *
  rw [← split] at near ⊢
  push_cast at near ⊢
  have first : (0 : Rat) ≤ rest := Nat.cast_nonneg _
  have last' : (rest : Rat) ≤ 999 := by exact_mod_cast Nat.le_of_lt_succ last
  have after : (second : Rat) ≤ double ((1000 * second + rest) / 1000) := whole ▸ double_mono (by linarith)
  apply le_antisymm
  · refine Int.lt_add_one_iff.mp (Rat.floor_lt_iff.mpr ?_)
    push_cast
    linarith
  · exact Rat.le_floor_iff.mpr (by exact_mod_cast after)

theorem fromTimestamp_unixTime (date : (millis : Int) < endSecond * 1000) : fromTimestamp (unixTime millis) =
    (millis / 1000 : Nat) * 1000000 + roundEven (double ((unixTime millis - (millis / 1000 : Nat)) * 1000000)) := by
  have second : truncate (unixTime millis) = (millis / 1000 : Nat) := by
    rw [truncate, if_pos (unixTime_nonneg millis), floor_unixTime date]
  rw [fromTimestamp_def, second, Int.cast_natCast]

theorem fromTimestamp_unixTime_near (date : (millis : Int) < endSecond * 1000) :
    |fromTimestamp (unixTime millis) - millis * 1000| < 17 := by
  have rounded := abs_lt.mp (fromTimestamp_near (unixTime millis))
  have near := abs_le.mp (unixTime_near date)
  have close : |(fromTimestamp (unixTime millis) : Rat) - millis * 1000| < 17 := by
    rw [abs_lt]
    constructor <;> linarith
  exact_mod_cast close

theorem le_fromTimestamp_of_near (date : (millis : Int) < endSecond * 1000) (near : Near millis) :
    (millis : Int) * 1000 ≤ fromTimestamp (unixTime millis) := by
  have split := Nat.div_add_mod millis 1000
  have last := Nat.mod_lt millis (show 0 < 1000 by decide)
  rw [fromTimestamp_unixTime date]
  unfold Near at near
  generalize unixTime millis = time at *
  generalize millis / 1000 = second at *
  generalize millis % 1000 = rest at *
  rw [← split] at near ⊢
  push_cast at near ⊢
  have half : ((rest * 2000 - 1 : Int) : Rat) * 2 ^ (-1 : Int) ≤ (time - second) * 1000000 := by
    push_cast
    norm_num
    linarith
  have bits : |(rest * 2000 - 1 : Int)| < 2 ^ 53 := by
    rw [abs_lt]
    constructor <;> omega
  have rounded : roundEven (((rest * 2000 - 1 : Int) : Rat) * 2 ^ (-1 : Int)) = rest * 1000 := by
    refine roundEven_eq (le_of_eq ?_) fun _ => by omega
    rw [abs_of_nonpos] <;> push_cast <;> norm_num <;> linarith
  have le := roundEven_mono (double_mono half)
  rw [double_of_bits bits, rounded] at le
  linarith

theorem coarse_of_not_near (far : ¬ Near millis) : ∃ units : Int, unixTime millis = units * 2 ^ (-19 : Int) := by
  unfold Near at far
  have error := abs_le.mp (double_near ((millis : Rat) / 1000))
  have unit : (2 : Rat) ^ (-20 : Int) < ulp (millis / 1000) := by
    norm_num
    unfold unixTime at far
    linarith
  have exponent := (zpow_lt_zpow_iff_right₀ one_lt_two).mp unit
  obtain ⟨shift, shifted⟩ := Int.eq_ofNat_of_zero_le
    (show 0 ≤ Int.log 2 |(millis : Rat) / 1000| - 52 - -19 by omega)
  refine ⟨roundEven (millis / 1000 / ulp (millis / 1000)) * 2 ^ shift, ?_⟩
  rw [unixTime, double, ulp, eq_add_of_sub_eq' shifted, zpow_add₀ (by norm_num)]
  push_cast
  rw [zpow_natCast]
  ring

/-- A double that is further away has few enough bits for its microseconds to be exact. -/
theorem fromTimestamp_lt_of_not_near (date : (millis : Int) < endSecond * 1000) (far : ¬ Near millis) :
    fromTimestamp (unixTime millis) < millis * 1000 := by
  have floor := floor_unixTime date
  have after := Rat.floor_le (unixTime millis)
  have before := Rat.lt_floor_add_one (unixTime millis)
  rw [floor] at after before
  rw [fromTimestamp_unixTime date]
  obtain ⟨units, coarse⟩ := coarse_of_not_near far
  unfold Near at far
  have split := Nat.div_add_mod millis 1000
  generalize unixTime millis = time at *
  generalize millis / 1000 = second at *
  generalize millis % 1000 = rest at *
  rw [← split] at far ⊢
  push_cast at far after before ⊢
  have fraction : (time - second) * 1000000 = ((units - second * 2 ^ 19) * 15625 : Int) * 2 ^ (-13 : Int) := by
    rw [coarse]
    push_cast
    norm_num
    ring
  have bits : |((units - second * 2 ^ 19) * 15625 : Int)| < 2 ^ 53 := by
    rw [coarse] at after before
    norm_num at after before
    have least : (second : Rat) * 2 ^ 19 ≤ units := by linarith
    have most : (units : Rat) < (second + 1) * 2 ^ 19 := by linarith
    have least' : (second : Int) * 2 ^ 19 ≤ units := by exact_mod_cast least
    have most' : units < (second + 1 : Int) * 2 ^ 19 := by exact_mod_cast most
    rw [abs_lt]
    constructor <;> omega
  have rounded := abs_le.mp (roundEven_near ((time - second) * 1000000))
  rw [fraction, double_of_bits bits, ← fraction]
  have less : (roundEven ((time - second) * 1000000) : Rat) < rest * 1000 := by linarith
  have less' : roundEven ((time - second) * 1000000) < rest * 1000 := by exact_mod_cast less
  linarith

/-- The date has the milliseconds of the time exactly when its double is near. -/
theorem millis_kept_iff (date : (millis : Int) < endSecond * 1000) :
    fromTimestamp (unixTime millis) / 1000 = millis ↔ Near millis := by
  have close := abs_lt.mp (fromTimestamp_unixTime_near date)
  constructor
  · intro kept
    by_contra far
    have less := fromTimestamp_lt_of_not_near date far
    omega
  · intro near
    have least := le_fromTimestamp_of_near date near
    omega

theorem utcfromtimestamp_unixTime {date : Int} : utcfromtimestamp (unixTime millis) = .ok date ↔
    (millis : Int) < endSecond * 1000 ∧ date = fromTimestamp (unixTime millis) := by
  have range : (-62135596800000000 ≤ fromTimestamp (unixTime millis) ∧
      fromTimestamp (unixTime millis) < 253402300800000000) ↔ (millis : Int) < endSecond * 1000 := by
    constructor
    · intro inRange
      by_contra late
      have whole : double (endSecond : Int) = (endSecond : Int) := double_intCast (by decide)
      have after : ((endSecond : Int) : Rat) ≤ unixTime millis := by
        have least : ((endSecond * 1000 : Int) : Rat) ≤ (millis : Int) := by exact_mod_cast Int.not_lt.mp late
        push_cast at least
        rw [← whole]
        exact double_mono (by linarith)
      have rounded := abs_lt.mp (fromTimestamp_near (unixTime millis))
      have most : (fromTimestamp (unixTime millis) : Rat) ≤ 253402300800000000 - 1 := by
        exact_mod_cast Int.le_sub_one_of_lt inRange.2
      unfold endSecond at after
      push_cast at after
      linarith
    · intro early
      have close := abs_lt.mp (fromTimestamp_unixTime_near early)
      unfold endSecond at early
      omega
  unfold utcfromtimestamp
  simp only [range]
  split
  case isTrue inRange => rw [Except.ok.injEq, eq_comm, and_iff_right inRange]
  case isFalse outside => exact iff_of_false (fun ok => by cases ok) fun both => outside both.1

theorem Written.stored_eq (written : Written millis) (positive : millis ≠ 0) :
    written.doc.stored = { written.input.record millis with
      utcDate := fromTimestamp (unixTime millis) / 1000 * 1000 } ∧ (millis : Int) < endSecond * 1000 := by
  obtain ⟨date, dated, same, -⟩ := write_ok_iff.mp written.made
  rw [written.timed, writeTime, if_neg (unixTime_ne_zero positive), utcfromtimestamp_unixTime] at dated
  refine ⟨?_, dated.1⟩
  rw [same, dated.2]
  rfl

theorem Written.stored_of_near (written : Written millis) (positive : millis ≠ 0) (near : Near millis) :
    written.doc.stored = written.input.record millis := by
  obtain ⟨stored, date⟩ := written.stored_eq positive
  rw [stored, (millis_kept_iff date).mpr near]
  rfl

theorem unixTime_micros (millis : Nat) : double (((millis * 1000 : Int) : Rat) / 1000000) = unixTime millis := by
  unfold unixTime
  congr 1
  push_cast
  ring

theorem timestamp_unixTime_iff : zone.timestamp (millis * 1000) = .ok (unixTime millis) ↔
    SumsUp (millis * 1000) ∧ zone.Keeps (millis / 1000) := by
  have second : (millis * 1000 : Int) / 1000000 = millis / 1000 := by omega
  rw [← unixTime_micros, Zone.timestamp_eq_iff (by omega), second, and_comm]

theorem millis_of_timestamp {date : Int} (early : (millis : Int) < endSecond * 1000)
    (close : |date - millis * 1000| < 17) (read : zone.timestamp (date / 1000 * 1000) = .ok (unixTime millis)) :
    date / 1000 = millis := by
  obtain ⟨seconds, -, same⟩ := Zone.timestamp_ok_iff.mp read
  have range : |(millis : Rat) / 1000| < 2 ^ 39 := by
    have less : (millis : Rat) < 2 ^ 39 * 1000 := by
      unfold endSecond at early
      exact_mod_cast (show (millis : Int) < 2 ^ 39 * 1000 by omega)
    rw [abs_of_nonneg (div_nonneg (Nat.cast_nonneg millis) (by norm_num))]
    linarith
  have near := abs_lt.mp (near_of_sums range same)
  rw [show date / 1000 * 1000 % 1000000 = date / 1000 % 1000 * 1000 by omega] at near
  push_cast at near
  have units : |seconds * 1000 + date / 1000 % 1000 - millis| < 1 := by
    have units' : |(seconds : Rat) * 1000 + (date / 1000 % 1000 : Int) - millis| < 1 := by
      rw [abs_lt]
      constructor <;> linarith
    exact_mod_cast units'
  rw [abs_lt] at units close
  omega

theorem firstSecond_le_gte {now : Rat} {request : Option GetInput} {query : Query}
    (queried : getQuery now request = .ok query) : firstSecond * 1000000 ≤ query.gte := by
  obtain ⟨gte, dated, queried⟩ := bind_ok queried
  obtain ⟨lt, -, queried⟩ := bind_ok queried
  cases queried
  simp only [utcfromtimestamp] at dated
  split at dated
  case isTrue inRange =>
    cases dated
    exact inRange.1
  case isFalse => cases dated

theorem gte_le_of_selects {query : Query} {doc : Doc} (selected : query.selects doc = true) :
    query.gte ≤ doc.utcDate := by
  simp only [Query.selects, decide_eq_true_eq] at selected
  exact selected.1

end Times

section Answers

variable {zone : Zone} {auto : BucketAuto} {docs others : List Doc} {now : Rat} {request : Option GetInput}
  {millis : Nat}

theorem item_of_answers {doc : Doc} {item : Item} (answers : Answers zone auto docs now request doc item) :
    doc.item zone = .ok item := by
  obtain ⟨read, items, position, selected, made, isDoc, isItem⟩ := answers
  obtain ⟨found, same, all⟩ := get_ok_iff.mp made
  rw [selected] at same
  cases same
  exact forall₂_getElem? all isDoc isItem

/-- A document that a plain `get` selects is answered when `get` returns. -/
theorem exists_answers {query : Query} {doc : Doc} (queried : getQuery now request = .ok query)
    (plain : numBuckets request = none) (member : doc ∈ docs) (selected : query.selects doc = true)
    (returns : Returns (get zone auto docs now request)) : ∃ item, Answers zone auto docs now request doc item := by
  obtain ⟨items, made⟩ := returns
  have read : sources auto docs now request = .ok (sortDate (docs.filter query.selects)) := sources_plain queried plain
  obtain ⟨found, same, all⟩ := get_ok_iff.mp made
  rw [read] at same
  cases same
  have isRead : doc ∈ sortDate (docs.filter query.selects) :=
    mem_sortDate.mpr (List.mem_filter.mpr ⟨member, selected⟩)
  obtain ⟨position, isDoc⟩ := List.mem_iff_getElem?.mp isRead
  obtain ⟨item, isItem⟩ := exists_getElem?_of_forall₂ all isDoc
  exact ⟨item, _, items, position, read, made, isDoc, isItem⟩

/-- What is exact in the zone, `get` returns. -/
theorem returned_of_exact (positive : millis ≠ 0) (isExact : Exact millis zone)
    (readable : ∀ other ∈ others, firstSecond * 1000000 ≤ other.utcDate → Returns (zone.timestamp other.utcDate)) :
    Returned zone millis others where
  found := by
    intro written docs auto now request query among queried plain selected
    have stored := written.stored_of_near positive isExact.1
    have returns : Returns (get zone auto docs now request) := by
      refine (get_plain_returns_iff queried plain).mpr fun doc member chosen => ?_
      cases List.mem_cons.mp (among.mem_iff.mp member) with
      | inl same =>
        rw [same, stored]
        exact ⟨_, timestamp_unixTime_iff.mpr isExact.2⟩
      | inr other => exact readable doc other ((firstSecond_le_gte queried).trans (gte_le_of_selects chosen))
    have member : written.doc.stored ∈ docs := among.mem_iff.mpr List.mem_cons_self
    obtain ⟨item, answers⟩ := exists_answers queried plain member (stored ▸ selected) returns
    refine ⟨item, answers, ?_⟩
    obtain ⟨time, -, same⟩ := item_ok_iff.mp (item_of_answers answers)
    rw [same, stored]
    exact ⟨rfl, rfl, rfl, rfl⟩
  timed := by
    intro written docs auto now request item among answers
    obtain ⟨time, read, same⟩ := item_ok_iff.mp (item_of_answers answers)
    rw [written.stored_of_near positive isExact.1] at read
    have kept := read.symm.trans (timestamp_unixTime_iff.mpr isExact.2)
    rw [same]
    exact Except.ok.inj kept

def everything : Option GetInput := some ⟨some firstSecond, none, none, none, none, none⟩

theorem getQuery_everything (now : Rat) :
    getQuery now everything = .ok ⟨firstSecond * 1000000, none, none, none, none⟩ := by
  have oldest : utcfromtimestamp (truncate ((firstSecond : Int) : Rat)) = .ok (firstSecond * 1000000) := by
    decide +kernel
  simp only [getQuery, everything, Option.getD_some, oldest]
  rfl

theorem selects_everything {doc : Doc} :
    Query.selects ⟨firstSecond * 1000000, none, none, none, none⟩ doc = true ↔
      firstSecond * 1000000 ≤ doc.utcDate := by
  simp [Query.selects]

def oneBucket : BucketAuto where
  buckets := fun _ docs => [docs]
  partition := fun _ docs => by rw [List.flatten_singleton]

def writeStoring (millis : Nat) (positive : millis ≠ 0) (date : (millis : Int) < endSecond * 1000) :
    Written millis where
  mongo := storing
  turn := 0
  input := ⟨some (unixTime millis), "power", "meter", "node", .int 7⟩
  doc := ⟨fromTimestamp (unixTime millis), "power", "meter", "node", .int 7⟩
  timed := rfl
  made := by
    refine write_ok_iff.mpr ⟨fromTimestamp (unixTime millis), ?_, rfl, rfl⟩
    rw [writeTime, if_neg (unixTime_ne_zero positive)]
    exact utcfromtimestamp_unixTime.mpr ⟨date, rfl⟩

/-- When `get` returns what it should for every request, the time is exact in the zone and no
other document raises. -/
theorem exact_of_returned (positive : millis ≠ 0) (date : (millis : Int) < endSecond * 1000)
    (returned : Returned zone millis others) : Exact millis zone ∧
      ∀ other ∈ others, firstSecond * 1000000 ≤ other.utcDate → Returns (zone.timestamp other.utcDate) := by
  have stored := ((writeStoring millis positive date).stored_eq positive).1
  have old : firstSecond * 1000000 ≤ (millis : Int) * 1000 := by
    unfold firstSecond
    omega
  obtain ⟨item, answers, -⟩ := returned.found (writeStoring millis positive date) _ oneBucket 0 everything _
    (List.Perm.refl _) (getQuery_everything 0) rfl (selects_everything.mpr old)
  have time :=
    returned.timed (writeStoring millis positive date) _ oneBucket 0 everything item (List.Perm.refl _) answers
  constructor
  · obtain ⟨read, made, same⟩ := item_ok_iff.mp (item_of_answers answers)
    rw [same] at time
    have time : read = unixTime millis := time
    rw [stored, time] at made
    have kept := millis_of_timestamp date (fromTimestamp_unixTime_near date) made
    refine ⟨(millis_kept_iff date).mp kept, timestamp_unixTime_iff.mp ?_⟩
    rw [← kept]
    exact made
  · intro other member recent
    obtain ⟨read, items, position, -, made, -⟩ := answers
    exact (get_plain_returns_iff (getQuery_everything 0) rfl).mp ⟨items, made⟩ other
      (List.mem_cons_of_mem _ member) (selects_everything.mpr recent)

def writeEpoch : Written 0 where
  mongo := storing
  turn := 0
  input := ⟨some (unixTime 0), "power", "meter", "node", .int 7⟩
  doc := ⟨1605608490000000, "power", "meter", "node", .int 7⟩
  timed := rfl
  made := write_ok_iff.mpr ⟨1605608490000000, by decide +kernel, rfl, rfl⟩

/-- A time of zero is written as the current time, so the window of the epoch does not find it. -/
theorem not_returned_zero (zone : Zone) (others : List Doc) : ¬ Returned zone 0 others := by
  intro returned
  have queried : getQuery 0 (some ⟨some 0, some 1, none, none, none, none⟩) =
      .ok ⟨0, some 1000000, none, none, none⟩ := by decide +kernel
  obtain ⟨item, answers, -⟩ := returned.found writeEpoch _ oneBucket 0 _ _ (List.Perm.refl _) queried rfl
    (by decide +kernel)
  obtain ⟨read, items, position, selected, -, isDoc, -⟩ := answers
  rw [sources_plain queried rfl] at selected
  cases selected
  have chosen := (List.mem_filter.mp (mem_sortDate.mp (List.mem_of_getElem? isDoc))).2
  exact absurd chosen (by decide)

end Answers

section Chain

variable {millis : Nat} {zone : Zone} {auto : BucketAuto} {docs : List Doc}

namespace Copies

theorem refl (millis : Nat) (docs : List Doc) : Copies millis docs docs :=
  fun doc member => ⟨doc, member, rfl, id⟩

theorem trans {docs middle copies : List Doc} (first : Copies millis docs middle)
    (second : Copies millis middle copies) : Copies millis docs copies := by
  intro copy member
  obtain ⟨between, isBetween, same, kept⟩ := second copy member
  obtain ⟨doc, isDoc, sameFields, keptFirst⟩ := first between isBetween
  refine ⟨doc, isDoc, ?_, fun timed => kept (keptFirst timed)⟩
  rw [same, sameFields]

end Copies

theorem mem_writeAll {mongo : Mongo} {inputs : List WriteInput} {turn : Nat} {doc : Doc}
    (member : doc ∈ mongo.writeAll turn inputs) : ∃ input ∈ inputs, ∃ at', mongo.write at' input = .ok doc := by
  induction inputs generalizing turn with
  | nil => cases member
  | cons input rest ih =>
    unfold Mongo.writeAll at member
    split at member
    case h_1 made =>
      cases List.mem_cons.mp member with
      | inl same => exact ⟨input, List.mem_cons_self, turn, same ▸ made⟩
      | inr later =>
        obtain ⟨other, isOther, written⟩ := ih later
        exact ⟨other, List.mem_cons_of_mem _ isOther, written⟩
    case h_2 =>
      obtain ⟨other, isOther, written⟩ := ih member
      exact ⟨other, List.mem_cons_of_mem _ isOther, written⟩

theorem mem_writeParams {results : List GetResult} {inputs : List WriteInput} {input : WriteInput}
    (made : writeParams results = .ok inputs) (member : input ∈ inputs) :
    ∃ items, .ok items ∈ results ∧ ∃ item ∈ items, input = item.writeInput := by
  obtain ⟨lists, mapped, same⟩ := bind_ok made
  cases same
  obtain ⟨list, isList, inList⟩ := List.mem_flatten.mp member
  obtain ⟨result, isResult, listed⟩ := exists_item_of_forall₂ (mapM_ok_iff.mp mapped) isList
  cases result with
  | error why => cases listed
  | ok items =>
    rw [writeInputs_ok] at listed
    cases listed
    obtain ⟨item, isItem, same⟩ := List.mem_map.mp inList
    exact ⟨items, isResult, item, isItem, same.symm⟩

theorem mem_results {observation : Observation} {downlink : Downlink} {time : Rat} {props : List Property}
    {result : GetResult} (member : result ∈ observation.results downlink time props) :
    ∃ turn request, result = downlink.get turn request := by
  obtain ⟨turn, inside, same⟩ := List.mem_mapIdx.mp member
  exact ⟨turn, _, same.symm⟩

theorem mem_of_downlink {iteration : Iteration} {turn : Nat} {request : GetInput} {items : List Item} {item : Item}
    (answered : (iteration.downlink zone auto docs).get turn request = .ok items) (member : item ∈ items) :
    ∃ doc ∈ docs, doc.item zone = .ok item := by
  simp only [Iteration.downlink] at answered
  split at answered
  case h_1 => cases answered
  case h_2 =>
    split at answered
    case h_2 => cases answered
    case h_1 made =>
      cases answered
      obtain ⟨read, selected, all⟩ := get_ok_iff.mp made
      obtain ⟨doc, isRead, described⟩ := exists_item_of_forall₂ all member
      exact ⟨doc, mem_of_sources selected isRead, described⟩

theorem stored_of_item (positive : millis ≠ 0) {doc copy : Doc} {item : Item} {mongo : Mongo} {turn : Nat}
    (isExact : Exact millis zone) (described : doc.item zone = .ok item)
    (made : mongo.write turn item.writeInput = .ok copy) :
    copy.stored = { doc with utcDate := copy.stored.utcDate } ∧
      (doc.utcDate = millis * 1000 → copy.stored.utcDate = millis * 1000) := by
  obtain ⟨time, read, same⟩ := item_ok_iff.mp described
  obtain ⟨date, dated, copied, -⟩ := write_ok_iff.mp made
  rw [same] at dated copied
  constructor
  · rw [copied]
    rfl
  · intro timed
    rw [timed, timestamp_unixTime_iff.mpr isExact.2, Except.ok.injEq] at read
    simp only [Item.writeInput, ← read, writeTime, if_neg (unixTime_ne_zero positive),
      utcfromtimestamp_unixTime] at dated
    rw [copied, dated.2]
    simp only [Doc.stored, (millis_kept_iff dated.1).mpr isExact.1]

theorem collect_copies (positive : millis ≠ 0) (isExact : Exact millis zone) (uplink : Uplink) :
    Copies millis docs (uplink.collect zone auto docs) := by
  intro copy member
  obtain ⟨iteration, -, member⟩ := List.mem_flatMap.mp member
  obtain ⟨inserted, isInserted, rfl⟩ := List.mem_map.mp member
  cases observed : uplink.observe zone auto docs iteration with
  | error why =>
    rw [observed] at isInserted
    cases isInserted
  | ok insertedDocs =>
    rw [observed] at isInserted
    obtain ⟨time, -, ran⟩ := bind_ok observed
    obtain ⟨props, -, ran⟩ := bind_ok ran
    obtain ⟨inputs, params, ran⟩ := bind_ok ran
    cases ran
    obtain ⟨input, isInput, turn, made⟩ := mem_writeAll isInserted
    obtain ⟨items, isResult, item, isItem, rfl⟩ := mem_writeParams params isInput
    obtain ⟨position, request, answered⟩ := mem_results isResult
    obtain ⟨doc, isDoc, described⟩ := mem_of_downlink answered.symm isItem
    exact ⟨doc, isDoc, stored_of_item positive isExact described made⟩

theorem relay_copies (positive : millis ≠ 0) {chain : List Uplink}
    (isExact : ∀ historian ∈ zone :: chain.map Uplink.zone, Exact millis historian) :
    Copies millis docs (relay auto zone docs chain) := by
  induction chain generalizing zone docs with
  | nil => exact Copies.refl millis docs
  | cons uplink rest ih =>
    have here : Copies millis docs (uplink.collect zone auto docs) :=
      collect_copies positive (isExact zone List.mem_cons_self) uplink
    -- each historian of the chain copies from the one before it
    exact here.trans (ih fun historian member => isExact historian (List.mem_cons_of_mem _ member))

theorem toUnix_iff {now : Nat} :
    toUnix zone now = .ok (double (now / 1000000)) ↔ zone.Keeps (now / 1000000) ∧ SumsUp now :=
  Zone.timestamp_eq_iff (Int.natCast_nonneg now)

end Chain

/-- Times are kept exactly when the written time is not a date, or when it is after the epoch and
exact in the zones of the chain, which can read every other date; and the zones of the uplinks
have to keep the current second, and the current time has to be the sum of its parts. -/
theorem timesKept_iff (zone : Zone) (uplinks : List Zone) (millis : Nat) (others : List Doc) (now : Nat) :
    TimesKept zone uplinks millis others now ↔
      Kept zone uplinks millis others ∧ ∀ uplink ∈ uplinks, uplink.Keeps (now / 1000000) ∧ SumsUp now := by
  constructor
  · intro kept
    refine ⟨?_, fun uplink member => toUnix_iff.mp (kept.ends uplink member)⟩
    by_cases date : (millis : Int) < endSecond * 1000
    · have positive : millis ≠ 0 := by
        intro zero
        subst zero
        exact not_returned_zero zone others (kept.returned zone List.mem_cons_self)
      exact Or.inr ⟨positive, fun historian member =>
        exact_of_returned positive date (kept.returned historian member)⟩
    · exact Or.inl (Int.not_lt.mp date)
  · intro both
    obtain ⟨condition, ends⟩ := both
    by_cases date : (millis : Int) < endSecond * 1000
    · obtain ⟨positive, isExact⟩ := condition.resolve_left (Int.not_le.mpr date)
      constructor
      case returned =>
        intro historian member
        exact returned_of_exact positive (isExact historian member).1 (isExact historian member).2
      case copied =>
        intro written auto docs chain _ zones
        exact relay_copies positive (zones ▸ fun historian member => (isExact historian member).1)
      case ends => exact fun uplink member => toUnix_iff.mpr (ends uplink member)
    · have positive : millis ≠ 0 := by
        unfold endSecond at date
        omega
      -- nothing can be written with a time that is not a date
      have none : Written millis → False := fun written => date (written.stored_eq positive).2
      constructor
      case returned =>
        intro historian _
        exact ⟨fun written => (none written).elim, fun written => (none written).elim⟩
      case copied => exact fun written => (none written).elim
      case ends => exact fun uplink member => toUnix_iff.mpr (ends uplink member)

/-- From the third hour of the epoch on and until 2^33 seconds after it, the zones alone decide. -/
theorem exact_iff_keeps {millis : Nat} {zone : Zone} (least : 8192 * 1000 ≤ millis) (most : millis < 2 ^ 33 * 1000) :
    Exact millis zone ↔ zone.Keeps (millis / 1000) := by
  have near : Near millis := by
    have size : |(millis : Rat) / 1000| < 2 ^ (33 : Int) := by
      rw [abs_of_nonneg (div_nonneg (Nat.cast_nonneg millis) (by norm_num)), div_lt_iff₀ (by norm_num)]
      exact_mod_cast most
    have error := abs_le.mp (double_error size)
    norm_num at error
    unfold Near unixTime
    linarith
  have sums : SumsUp (millis * 1000) := by
    refine sumsUp_of_le (by omega) ?_
    unfold endSecond
    omega
  exact ⟨fun isExact => isExact.2.2, fun keeps => ⟨near, sums, keeps⟩⟩

/-! A clock that is one hour ahead, all year. -/

def oneHourAhead : Zone where
  offset := fun _ => 3600
  bounded := fun _ => by decide

/-- A reading of 1605608430 comes back as a time of an hour before. -/
theorem oneHourAhead_times_lost : ¬ TimesKept oneHourAhead [] 1605608430000 [] 1605608490000000 := by
  intro kept
  have isExact := (exact_of_returned (by decide) (by decide) (kept.returned oneHourAhead List.mem_cons_self)).1
  exact absurd isExact.2.2 (by decide)

end Wotemu.Historian
