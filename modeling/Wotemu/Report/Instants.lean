import Wotemu.Foundation.Decimal
import Wotemu.Report.Snapshot

/-! The times of the snapshot as the Docker API writes them.

The API removes the trailing zeros of the fraction, and the fraction with them
when nothing is left. The reader takes the first six digits for microseconds
however many there are.
-/

set_option autoImplicit false

namespace Wotemu

open Wotemu.Foundation

structure Instant where
  year : Nat
  month : Nat
  day : Nat
  hour : Nat
  minute : Nat
  second : Nat
  nanos : Nat
  year_valid : 1 ≤ year ∧ year ≤ 9999
  month_valid : 1 ≤ month ∧ month ≤ 12
  day_valid : 1 ≤ day ∧ day ≤ daysInMonth year month
  hour_valid : hour ≤ 23
  minute_valid : minute ≤ 59
  second_valid : second ≤ 59
  nanos_valid : nanos < 10 ^ 9

namespace Instant

variable (instant : Instant)

def seconds : Int :=
  let days := daysBeforeYear instant.year + daysBeforeMonth instant.year instant.month + instant.day
  ((days : Nat) - (epochOrdinal : Int)) * 86400 +
    (instant.hour * 3600 + instant.minute * 60 + instant.second : Nat)

def nanoseconds : Int := instant.seconds * 1000000000 + instant.nanos

def microseconds : Int := instant.nanoseconds / 1000

def stamp : List Char :=
  padded 4 instant.year ++ '-' :: padded 2 instant.month ++ '-' :: padded 2 instant.day ++
    'T' :: padded 2 instant.hour ++ ':' :: padded 2 instant.minute ++ ':' :: padded 2 instant.second

def fraction : List Char :=
  if instant.nanos = 0 then [] else '.' :: trimmed (padded 9 instant.nanos)

def rfc3339 : String := String.ofList (instant.stamp ++ instant.fraction ++ ['Z'])

variable {instant}

theorem microseconds_eq :
    instant.microseconds = instant.seconds * 1000000 + (instant.nanos / 1000 : Nat) := by
  unfold microseconds nanoseconds
  omega

theorem microseconds_mono {later : Instant} (ordered : instant.nanoseconds ≤ later.nanoseconds) :
    instant.microseconds ≤ later.microseconds :=
  Int.ediv_le_ediv (by decide) ordered

section Stamp

theorem length_stamp : instant.stamp.length = 19 := by
  simp [stamp]

theorem digitsValue_padded (width : Nat) {n : Nat} (small : n < 10 ^ width) : digitsValue (padded width n) = n :=
  (foldl_of_isDigit (fun _ => isDigit_of_mem_padded) 0).trans (value_padded small)

theorem isDecimal_of_isDigit {c : Char} (digit : c.isDigit = true) : isDecimal c = true := by
  rw [isDecimal, decimalDigit_of_isDigit digit]
  rfl

theorem fitsField_padded (free : List Char) (n : Nat) : fitsField free (padded 2 n) = true := by
  have all : ∀ c ∈ padded 2 n, c.isDigit = true := fun _ => isDigit_of_mem_padded
  change fitsField free [_, _] = true
  rw [fitsField, all _ (by simp [padded]), all _ (by simp [padded])]
  rfl

theorem fitsShape_padded (width n : Nat) (shape text : List Char) :
    fitsShape (List.replicate width '0' ++ shape) (padded width n ++ text) = fitsShape shape text := by
  induction width generalizing n shape text with
  | zero => rfl
  | succ width ih =>
    rw [padded, List.replicate_succ', List.append_assoc, List.append_assoc, ih]
    have digit : (n % 10).digitChar.isDigit = true := by
      rw [Nat.isDigit_digitChar, decide_eq_true_eq]
      exact Nat.mod_lt n (by decide)
    simp [fitsShape, isDecimal_of_isDigit digit]

theorem fitsShape_stamp : fitsShape dockerTimeShape instant.stamp = true := by
  have shape : dockerTimeShape = List.replicate 4 '0' ++ '-' :: (List.replicate 2 '0' ++ '-' ::
      (List.replicate 2 '0' ++ 'T' :: (List.replicate 2 '0' ++ ':' :: (List.replicate 2 '0' ++ ':' ::
        (List.replicate 2 '0' ++ []))))) := by decide
  have literal : ∀ (c : Char) (shape text : List Char), c ≠ '0' →
      fitsShape (c :: shape) (c :: text) = fitsShape shape text := by
    intro c shape text other
    simp [fitsShape, other]
  have flat : instant.stamp = padded 4 instant.year ++ '-' :: (padded 2 instant.month ++ '-' ::
      (padded 2 instant.day ++ 'T' :: (padded 2 instant.hour ++ ':' :: (padded 2 instant.minute ++ ':' ::
        (padded 2 instant.second ++ []))))) := by
    simp [stamp]
  rw [shape, flat, fitsShape_padded, literal _ _ _ (by decide), fitsShape_padded,
    literal _ _ _ (by decide), fitsShape_padded, literal _ _ _ (by decide), fitsShape_padded,
    literal _ _ _ (by decide), fitsShape_padded, literal _ _ _ (by decide), fitsShape_padded]
  rfl

theorem strptime_stamp : strptime instant.stamp = .ok instant.seconds := by
  have year : digitsValue ((instant.stamp.drop 0).take 4) = instant.year :=
    digitsValue_padded 4 (Nat.lt_succ_of_le instant.year_valid.2)
  have month : digitsValue ((instant.stamp.drop 5).take 2) = instant.month :=
    digitsValue_padded 2 (Nat.lt_of_le_of_lt instant.month_valid.2 (by decide))
  have day : digitsValue ((instant.stamp.drop 8).take 2) = instant.day := by
    refine digitsValue_padded 2 (Nat.lt_of_le_of_lt instant.day_valid.2 ?_)
    unfold daysInMonth
    split <;> split <;> decide
  have hour : digitsValue ((instant.stamp.drop 11).take 2) = instant.hour :=
    digitsValue_padded 2 (Nat.lt_of_le_of_lt instant.hour_valid (by decide))
  have minute : digitsValue ((instant.stamp.drop 14).take 2) = instant.minute :=
    digitsValue_padded 2 (Nat.lt_of_le_of_lt instant.minute_valid (by decide))
  have second : digitsValue ((instant.stamp.drop 17).take 2) = instant.second :=
    digitsValue_padded 2 (Nat.lt_of_le_of_lt instant.second_valid (by decide))
  have fits : (fitsField [] ((instant.stamp.drop 5).take 2) && fitsField ['1', '2'] ((instant.stamp.drop 8).take 2) &&
      fitsField ['0', '1'] ((instant.stamp.drop 11).take 2) &&
      fitsField "012345".toList ((instant.stamp.drop 14).take 2) &&
      fitsField "0123456".toList ((instant.stamp.drop 17).take 2)) = true := by
    simp only [Bool.and_eq_true]
    exact ⟨⟨⟨⟨fitsField_padded _ _, fitsField_padded _ _⟩, fitsField_padded _ _⟩, fitsField_padded _ _⟩,
      fitsField_padded _ _⟩
  have valid : 1 ≤ instant.year ∧ 1 ≤ instant.month ∧ instant.month ≤ 12 ∧ 1 ≤ instant.day ∧
      instant.day ≤ daysInMonth instant.year instant.month ∧ instant.hour ≤ 23 ∧
      instant.minute ≤ 59 ∧ instant.second ≤ 59 :=
    ⟨instant.year_valid.1, instant.month_valid.1, instant.month_valid.2, instant.day_valid.1,
      instant.day_valid.2, instant.hour_valid, instant.minute_valid, instant.second_valid⟩
  unfold strptime
  simp only [year, month, day, hour, minute, second, fits]
  rw [if_pos ⟨trivial, valid⟩]
  rfl

end Stamp

theorem matchDockerTime_rfc3339 : matchDockerTime instant.rfc3339 =
    if instant.nanos = 0 then none else some (instant.stamp, trimmed (padded 9 instant.nanos)) := by
  have text : instant.rfc3339.toList = instant.stamp ++ (instant.fraction ++ ['Z']) := by
    rw [rfc3339, String.toList_ofList, List.append_assoc]
  have stamp : instant.rfc3339.toList.take 19 = instant.stamp := by
    rw [text, List.take_append_of_le_length (by rw [length_stamp]), List.take_of_length_le (by rw [length_stamp])]
  have rest : instant.rfc3339.toList.drop 19 = instant.fraction ++ ['Z'] := by
    rw [text, List.drop_append_of_le_length (by rw [length_stamp]), List.drop_of_length_le (by rw [length_stamp])]
    rfl
  unfold matchDockerTime
  simp only [stamp, rest, fitsShape_stamp, if_true]
  by_cases zero : instant.nanos = 0
  · rw [if_pos zero, fraction, if_pos zero]
    rfl
  · have all : ∀ c ∈ trimmed (padded 9 instant.nanos), isDecimal c = true :=
      fun c member => isDecimal_of_isDigit (isDigit_of_mem_trimmed member)
    have zulu : isDecimal 'Z' = false := by decide
    have digits : (trimmed (padded 9 instant.nanos) ++ ['Z']).takeWhile isDecimal =
        trimmed (padded 9 instant.nanos) := by
      rw [List.takeWhile_append_of_pos all, List.takeWhile_cons_of_neg (by rw [zulu]; decide), List.append_nil]
    have ending : (trimmed (padded 9 instant.nanos) ++ ['Z']).dropWhile isDecimal = ['Z'] := by
      rw [List.dropWhile_append_of_pos all, List.dropWhile_cons_of_neg (by rw [zulu]; decide)]
    obtain ⟨zeros, m, fewer, -, -, left⟩ :=
      trimmed_padded instant.nanos_valid (Nat.pos_of_ne_zero zero)
    have some : trimmed (padded 9 instant.nanos) ≠ [] := by
      rw [left]
      intro empty
      have none := congrArg List.length empty
      rw [length_padded, List.length_nil] at none
      omega
    rw [if_neg zero, fraction, if_neg zero]
    simp [digits, ending, some]

theorem parseDockerTime_rfc3339 : parseDockerTime instant.rfc3339 =
    if instant.nanos = 0 then .ok none
    else .ok (some (instant.seconds * 1000000 +
      (digitsValue ((trimmed (padded 9 instant.nanos)).take 6) : Nat))) := by
  unfold parseDockerTime
  rw [matchDockerTime_rfc3339]
  by_cases zero : instant.nanos = 0
  · rw [if_pos zero, if_pos zero]
  · rw [if_neg zero, if_neg zero]
    simp only [strptime_stamp]
    rfl

/-- The instant is read back only when the fraction keeps six digits or more. -/
theorem parsed_iff : parseDockerTime instant.rfc3339 = .ok (some instant.microseconds) ↔
    instant.nanos % 10000 ≠ 0 := by
  rw [parseDockerTime_rfc3339, microseconds_eq]
  by_cases zero : instant.nanos = 0
  · rw [if_pos zero, zero]
    exact iff_of_false (by simp) (by simp)
  · have kept : digitsValue ((trimmed (padded 9 instant.nanos)).take 6) =
        Nat.ofDigitChars 10 ((trimmed (padded 9 instant.nanos)).take 6) 0 :=
      foldl_of_isDigit (fun c member => isDigit_of_mem_trimmed (List.mem_of_mem_take member)) 0
    rw [if_neg zero, Except.ok.injEq, Option.some.injEq, Int.add_right_inj, Int.natCast_inj, kept]
    exact @value_take_trimmed 6 3 _ instant.nanos_valid (Nat.pos_of_ne_zero zero)

/-- No instant makes the reader raise an exception. -/
def dockerTime (instant : Instant) : DockerTime where
  text := instant.rfc3339
  parses := by
    rw [parseDockerTime_rfc3339]
    split
    · exact ⟨_, rfl⟩
    · exact ⟨_, rfl⟩

/-- The times at which a task was created and updated are read back, in their order, and the
row of the task keeps both. -/
structure TimesRead (created updated : Instant) : Prop where
  createdAt : parseDockerTime created.rfc3339 = .ok (some created.microseconds)
  updatedAt : parseDockerTime updated.rfc3339 = .ok (some updated.microseconds)
  ordered : ∀ first second, parseDockerTime created.rfc3339 = .ok (some first) →
    parseDockerTime updated.rfc3339 = .ok (some second) →
    (created.nanoseconds ≤ updated.nanoseconds → first ≤ second) ∧
      (updated.nanoseconds ≤ created.nanoseconds → second ≤ first)
  kept : ∀ (taskKeyMap : Dict String String) (stoppedAt : Int)
    (entry : String × SnapshotItem), entry.2.task.createdAt = created.dockerTime →
    entry.2.task.updatedAt = updated.dockerTime →
    ∃ row, ReportDataRedisReader.snapshotRow taskKeyMap stoppedAt entry = .ok row ∧
      row.createdAt ≠ none ∧ row.updatedAt ≠ none

theorem snapshotRow_times {taskKeyMap : Dict String String}
    {stoppedAt first second : Int} {entry : String × SnapshotItem}
    (created : parseDockerTime entry.2.task.createdAt.text = .ok (some first))
    (updated : parseDockerTime entry.2.task.updatedAt.text = .ok (some second)) :
    ∃ row, ReportDataRedisReader.snapshotRow taskKeyMap stoppedAt entry = .ok row ∧
      row.createdAt = some first ∧ row.updatedAt = some second := by
  simp only [ReportDataRedisReader.snapshotRow, created, updated]
  exact ⟨_, rfl, rfl, rfl⟩

/-- Both times are read when each has a nonzero digit after its fifth one, and only then. -/
theorem timesRead_iff (created updated : Instant) :
    TimesRead created updated ↔ created.nanos % 10000 ≠ 0 ∧ updated.nanos % 10000 ≠ 0 := by
  constructor
  · intro read
    exact ⟨parsed_iff.mp read.createdAt, parsed_iff.mp read.updatedAt⟩
  · intro digits
    have first := parsed_iff.mpr digits.1
    have second := parsed_iff.mpr digits.2
    constructor
    case createdAt => exact first
    case updatedAt => exact second
    case ordered =>
      intro early late isFirst isSecond
      cases first.symm.trans isFirst
      cases second.symm.trans isSecond
      exact ⟨microseconds_mono, microseconds_mono⟩
    case kept =>
      intro taskKeyMap stoppedAt entry sameCreated sameUpdated
      have createdText : entry.2.task.createdAt.text = created.rfc3339 := by
        rw [sameCreated]
        rfl
      have updatedText : entry.2.task.updatedAt.text = updated.rfc3339 := by
        rw [sameUpdated]
        rfl
      obtain ⟨row, made, createdAt, updatedAt⟩ :=
        snapshotRow_times (createdText.symm ▸ first) (updatedText.symm ▸ second)
      exact ⟨row, made, by simp [createdAt], by simp [updatedAt]⟩

def november (nanos : Nat) (valid : nanos < 10 ^ 9) : Instant where
  year := 2020
  month := 11
  day := 17
  hour := 10
  minute := 20
  second := 30
  nanos := nanos
  year_valid := by decide
  month_valid := by decide
  day_valid := by decide
  hour_valid := by decide
  minute_valid := by decide
  second_valid := by decide
  nanos_valid := valid

/-- Half a second is read as five microseconds, which puts the update before the creation. -/
theorem halfSecond_not_read :
    ¬ TimesRead (november 123456789 (by decide)) (november 500000000 (by decide)) := by
  intro read
  have reversed := (read.ordered 1605608430123456 1605608430000005 (by decide) (by decide)).1 (by decide)
  exact absurd reversed (by decide)

end Instant

end Wotemu
