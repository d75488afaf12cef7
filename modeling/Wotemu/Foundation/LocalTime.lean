import Mathlib.Algebra.Field.Rat
import Mathlib.Algebra.Order.Group.Int
import Mathlib.Tactic.FieldSimp
import Mathlib.Tactic.Linarith
import Mathlib.Tactic.Ring
import Wotemu.Foundation.Doubles
import Wotemu.Foundation.Value

/-! Time zones, and reading a date as local time.

A zone says how far its clocks are ahead of UTC at each second since the epoch.
To read a date is to look for a second at which the clocks show it: of two such
seconds it is the earlier one, and for a date that the clocks skip, the later
of the two seconds that the offsets around the gap give. The time of the date
is a double.
-/

set_option autoImplicit false

namespace Wotemu.Foundation

def firstSecond : Int := -62135596800

/-- The second after the last one of the year 9999. -/
def endSecond : Int := 253402300800

structure Zone where
  offset : Int → Int
  bounded : ∀ second, -86400 < offset second ∧ offset second < 86400

namespace Zone

variable (zone : Zone)

/-- `local(u)`: the date that the clocks show, which is in the years 1 to 9999. -/
def clock (u : Int) : Except PyError Int :=
  let shown := u + zone.offset u
  if firstSecond ≤ shown ∧ shown < endSecond then .ok shown else .error .valueError

/-- The end of the search, where `b` is the offset on the other side of a change. -/
def settle (t u1 t1 b : Int) : Except PyError Int := do
  let u2 := t - b
  let t2 ← zone.clock u2
  if t2 = t then return u2
  else if t1 = t then return u1
  else return max u1 u2

/-- `datetime._mktime` for a date with the fold 0. -/
def mktime (t : Int) : Except PyError Int := do
  let shown ← zone.clock t
  let a := shown - t
  let u1 := t - a
  let t1 ← zone.clock u1
  if t1 = t then
    let u2 := u1 - 86400
    let earlier ← zone.clock u2
    let b := earlier - u2
    if a = b then return u1 else zone.settle t u1 t1 b
  else zone.settle t u1 t1 (t1 - u1)

/-- `timestamp()` of a naive date in microseconds, which adds the fraction to the second. -/
def timestamp (micros : Int) : Except PyError Rat := do
  let seconds ← zone.mktime (micros / 1000000)
  return double (seconds + double ((micros % 1000000 : Int) / 1000000))

/-- The clocks show UTC, and when they did not do so a day before, the offset of that day does
not lead to a second at which they show the same date. -/
def Unshifted (t : Int) : Prop :=
  zone.offset t = 0 ∧ (zone.offset (t - 86400) = 0 ∨
    (zone.offset (t - zone.offset (t - 86400)) ≠ zone.offset (t - 86400) ∧
      t - zone.offset (t - 86400) + zone.offset (t - zone.offset (t - 86400)) < endSecond))

/-- The clocks are ahead but showed UTC that far back, so they skipped the date. -/
def Skipped (t : Int) : Prop :=
  0 < zone.offset t ∧ t + zone.offset t < endSecond ∧ zone.offset (t - zone.offset t) = 0

def Keeps (t : Int) : Prop := t < endSecond ∧ (zone.Unshifted t ∨ zone.Skipped t)

instance (t : Int) : Decidable (zone.Keeps t) := by
  unfold Keeps Unshifted Skipped
  infer_instance

variable {zone}

theorem clock_ok_iff {u shown : Int} (recent : -345600 ≤ u) :
    zone.clock u = .ok shown ↔ shown = u + zone.offset u ∧ u + zone.offset u < endSecond := by
  have bounded := zone.bounded u
  unfold clock firstSecond
  simp only
  split
  case isTrue inRange => rw [Except.ok.injEq, eq_comm, and_iff_left inRange.2]
  case isFalse outside => exact iff_of_false (fun ok => by cases ok) fun both => outside ⟨by omega, both.2⟩

theorem settle_ok_iff {t u1 t1 b result : Int} (recent : 0 ≤ t) (near : b < 86400) :
    zone.settle t u1 t1 b = .ok result ↔ t - b + zone.offset (t - b) < endSecond ∧
      result = if zone.offset (t - b) = b then t - b else if t1 = t then u1 else max u1 (t - b) := by
  unfold settle
  have recent' : -345600 ≤ t - b := by omega
  simp only [bind_ok_iff, clock_ok_iff recent']
  have shows : t - b + zone.offset (t - b) = t ↔ zone.offset (t - b) = b := by omega
  constructor
  · intro found
    obtain ⟨t2, ⟨rfl, inRange⟩, settled⟩ := found
    simp only [shows] at settled
    refine ⟨inRange, ?_⟩
    split_ifs at settled ⊢ <;> exact (Except.ok.inj settled).symm
  · intro found
    refine ⟨_, ⟨rfl, found.1⟩, ?_⟩
    simp only [shows, found.2]
    split_ifs <;> rfl

theorem clock_ok {u : Int} (recent : -345600 ≤ u) (inRange : u + zone.offset u < endSecond) :
    zone.clock u = .ok (u + zone.offset u) :=
  (clock_ok_iff recent).mpr ⟨rfl, inRange⟩

theorem mktime_of_offset_eq {t : Int} (recent : 0 ≤ t) (unshifted : zone.offset t = 0) :
    zone.mktime t = .ok t ↔ t < endSecond ∧ zone.Unshifted t := by
  have dayBefore := zone.bounded (t - 86400)
  by_cases inRange : t < endSecond
  · have shows : zone.clock t = .ok t := (clock_ok_iff (by omega)).mpr ⟨by omega, by omega⟩
    have body : zone.mktime t =
        if 0 = zone.offset (t - 86400) then .ok t else zone.settle t t t (zone.offset (t - 86400)) := by
      unfold mktime
      rw [shows]
      change (zone.clock (t - (t - t)) >>= _) = _
      rw [Int.sub_self, Int.sub_zero, shows]
      change (if t = t then zone.clock (t - 86400) >>= _ else _) = _
      rw [if_pos rfl, clock_ok (by omega) (by omega)]
      change (if 0 = t - 86400 + zone.offset (t - 86400) - (t - 86400) then _ else _) = _
      rw [add_sub_cancel_left]
      rfl
    rw [body, Unshifted, and_iff_right inRange, and_iff_right unshifted]
    split
    case isTrue same => exact iff_of_true rfl (Or.inl same.symm)
    case isFalse changed =>
      rw [settle_ok_iff recent dayBefore.2]
      split <;> omega
  · refine iff_of_false (fun read => ?_) fun both => inRange both.1
    obtain ⟨shown, shows, -⟩ := bind_ok read
    rw [clock_ok_iff (by omega), unshifted, Int.add_zero] at shows
    exact inRange shows.2

theorem mktime_of_offset_ne {t : Int} (recent : 0 ≤ t) (shifted : zone.offset t ≠ 0) :
    zone.mktime t = .ok t ↔ zone.Skipped t := by
  have here := zone.bounded t
  have there := zone.bounded (t - zone.offset t)
  constructor
  · intro read
    obtain ⟨shown, shows, read⟩ := bind_ok read
    obtain ⟨rfl, inRange⟩ := (clock_ok_iff (by omega)).mp shows
    simp only [add_sub_cancel_left] at read
    obtain ⟨t1, shows1, read⟩ := bind_ok read
    obtain ⟨rfl, inRange1⟩ := (clock_ok_iff (by omega)).mp shows1
    split at read
    case isTrue same =>
      obtain ⟨earlier, shows2, read⟩ := bind_ok read
      obtain ⟨rfl, inRange2⟩ := (clock_ok_iff (by omega)).mp shows2
      rw [add_sub_cancel_left] at read
      have before := zone.bounded (t - zone.offset t - 86400)
      split at read
      case isTrue _ =>
        have found := Except.ok.inj read
        omega
      case isFalse changed =>
        have found := ((settle_ok_iff recent before.2).mp read).2
        rw [if_pos same] at found
        split at found
        case isTrue hit =>
          have utc : zone.offset (t - zone.offset t - 86400) = 0 := by omega
          rw [utc, Int.sub_zero] at hit
          exact absurd hit shifted
        case isFalse _ => omega
    case isFalse other =>
      rw [add_sub_cancel_left, settle_ok_iff recent there.2] at read
      have found := read.2
      split at found
      case isTrue hit =>
        have utc : zone.offset (t - zone.offset t) = 0 := by omega
        rw [utc, Int.sub_zero] at hit
        exact absurd hit shifted
      case isFalse _ =>
        exact ⟨by omega, inRange, by omega⟩
  · intro skipped
    obtain ⟨ahead, inRange, utc⟩ := skipped
    have shows : zone.clock (t - zone.offset t) = .ok (t - zone.offset t) :=
      (clock_ok_iff (by omega)).mpr ⟨by omega, by omega⟩
    unfold mktime
    rw [clock_ok (by omega) inRange]
    change (zone.clock (t - (t + zone.offset t - t)) >>= _) = _
    rw [add_sub_cancel_left, shows]
    change (if t - zone.offset t = t then _ else zone.settle t _ _ (t - zone.offset t - _)) = _
    rw [if_neg (by omega), Int.sub_self, settle_ok_iff recent (by omega)]
    rw [Int.sub_zero, if_neg (by omega)]
    split <;> omega

/-- A date at a second after the epoch is read as that second exactly in these two cases. -/
theorem mktime_eq_self_iff {t : Int} (recent : 0 ≤ t) : zone.mktime t = .ok t ↔ zone.Keeps t := by
  unfold Keeps
  by_cases unshifted : zone.offset t = 0
  · rw [mktime_of_offset_eq recent unshifted]
    refine and_congr_right fun _ => (or_iff_left fun skipped => ?_).symm
    exact absurd unshifted (ne_of_gt skipped.1)
  · rw [mktime_of_offset_ne recent unshifted]
    constructor
    · intro skipped
      have ahead := skipped.1
      have inRange := skipped.2.1
      exact ⟨by omega, Or.inr skipped⟩
    · intro keeps
      cases keeps.2 with
      | inl utc => exact absurd utc.1 unshifted
      | inr skipped => exact skipped

theorem timestamp_ok_iff {micros : Int} {time : Rat} : zone.timestamp micros = .ok time ↔
    ∃ seconds, zone.mktime (micros / 1000000) = .ok seconds ∧
      double (seconds + double ((micros % 1000000 : Int) / 1000000)) = time := by
  unfold timestamp
  rw [bind_ok_iff]
  exact exists_congr fun seconds => and_congr_right fun _ => ⟨Except.ok.inj, congrArg Except.ok⟩

theorem lt_of_mktime {t seconds : Int} (recent : 0 ≤ t) (read : zone.mktime t = .ok seconds) :
    t < endSecond + 86400 := by
  obtain ⟨shown, shows, -⟩ := bind_ok read
  have inRange := ((clock_ok_iff (by omega)).mp shows).2
  have bounded := zone.bounded t
  omega

end Zone

/-- The second and the fraction, each rounded, add up to the double of the date. -/
def SumsUp (micros : Int) : Prop :=
  double ((micros / 1000000 : Int) + double ((micros % 1000000 : Int) / 1000000)) = double (micros / 1000000)

instance (micros : Int) : Decidable (SumsUp micros) := by
  unfold SumsUp
  infer_instance

section Sums

variable {zone : Zone} {micros other : Int}

theorem second_add_fraction (micros : Int) :
    ((micros / 1000000 : Int) : Rat) + (micros % 1000000 : Int) / 1000000 = micros / 1000000 := by
  have split : (micros : Rat) = 1000000 * (micros / 1000000 : Int) + (micros % 1000000 : Int) := by
    exact_mod_cast (Int.mul_ediv_add_emod micros 1000000).symm
  rw [split]
  field_simp

theorem fraction_error (micros : Int) :
    |double ((micros % 1000000 : Int) / 1000000) - (micros % 1000000 : Int) / 1000000| ≤ 2 ^ (-54 : Int) := by
  have least : (0 : Rat) ≤ (micros % 1000000 : Int) := by exact_mod_cast Int.emod_nonneg _ (by decide)
  have most : ((micros % 1000000 : Int) : Rat) < 1000000 := by exact_mod_cast Int.emod_lt_of_pos _ (by decide)
  refine double_error (n := 0) ?_
  rw [abs_lt]
  constructor <;> linarith

theorem near_of_sums {seconds : Int} {time : Rat} (range : |time| < 2 ^ 39)
    (same : double (seconds + double ((micros % 1000000 : Int) / 1000000)) = double time) :
    |seconds + (micros % 1000000 : Int) / 1000000 - time| < 1 / 1000 := by
  have sums := near_of_double_eq (n := 39) same (by exact_mod_cast range)
  have error := fraction_error micros
  norm_num at sums error
  rw [abs_le] at sums error
  rw [abs_lt]
  constructor <;> linarith

theorem Zone.timestamp_eq_iff (recent : 0 ≤ micros) : zone.timestamp micros = .ok (double (micros / 1000000)) ↔
    zone.Keeps (micros / 1000000) ∧ SumsUp micros := by
  have second := Int.ediv_nonneg recent (show (0 : Int) ≤ 1000000 by decide)
  rw [timestamp_ok_iff, ← mktime_eq_self_iff second]
  constructor
  · intro read
    obtain ⟨seconds, found, same⟩ := read
    have range : |(micros : Rat) / 1000000| < 2 ^ 39 := by
      have most := lt_of_mktime second found
      have most' : micros < 2 ^ 39 * 1000000 := by
        unfold endSecond at most
        omega
      have positive : (0 : Rat) ≤ micros := by exact_mod_cast recent
      have less : (micros : Rat) < 2 ^ 39 * 1000000 := by exact_mod_cast most'
      rw [abs_lt]
      constructor <;> linarith
    have near := near_of_sums range same
    rw [← second_add_fraction micros, add_sub_add_right_eq_sub] at near
    have apart : |seconds - micros / 1000000| < 1 := by
      have less := near.trans (show (1 / 1000 : Rat) < 1 by norm_num)
      exact_mod_cast less
    have own : seconds = micros / 1000000 := by
      rw [Int.abs_lt_one_iff] at apart
      omega
    rw [own] at found same
    exact ⟨found, same⟩
  · exact fun both => ⟨_, both.1, both.2⟩

theorem far_of_micros {scale : Nat} (m : Int) :
    1 / 31250 ≤ |(micros : Rat) * 2 ^ (scale + 1) / 15625 - (m + 1 / 2)| := by
  have odd : (1 : Int) ≤ |2 * (2 * micros * 2 ^ scale) - 15625 * (2 * m + 1)| := by
    refine Int.one_le_abs fun zero => ?_
    omega
  have scaled : (micros : Rat) * 2 ^ (scale + 1) / 15625 - (m + 1 / 2) =
      ((2 * (2 * micros * 2 ^ scale) - 15625 * (2 * m + 1) : Int) : Rat) / 31250 := by
    push_cast
    ring
  rw [scaled, abs_div, abs_of_pos (show (0 : Rat) < 31250 by norm_num)]
  refine div_le_div_of_nonneg_right ?_ (by norm_num)
  exact_mod_cast odd

theorem ulp_of_second (second : Nat) (least : 8192 ≤ second) (most : second < 2 ^ 38) :
    ∃ scale ≤ 32, ∀ time : Rat, second ≤ time → time < second + 1 → ulp time = 1 / 2 ^ (scale + 7) := by
  have positive : second ≠ 0 := by omega
  have lower : 2 ^ Nat.log 2 second ≤ second := Nat.pow_log_le_self 2 positive
  have upper : second + 1 ≤ 2 ^ (Nat.log 2 second + 1) := Nat.lt_pow_succ_log_self (by decide) second
  have small : 13 ≤ Nat.log 2 second := Nat.le_log_of_pow_le (by decide) (by omega)
  have large : Nat.log 2 second < 38 := Nat.log_lt_of_lt_pow positive most
  refine ⟨45 - Nat.log 2 second, by omega, fun time after before => ?_⟩
  have nonneg : 0 ≤ time := (Nat.cast_nonneg second).trans after
  have lower' : (2 : Rat) ^ (Nat.log 2 second : Int) ≤ second := by exact_mod_cast lower
  have upper' : (second : Rat) + 1 ≤ 2 ^ ((Nat.log 2 second : Int) + 1) := by exact_mod_cast upper
  have range : ulp time = 2 ^ ((Nat.log 2 second : Int) - 52) := by
    refine ulp_eq ?_ ?_
    · rw [abs_of_nonneg nonneg]
      exact lower'.trans after
    · rw [abs_of_nonneg nonneg]
      exact before.trans_le upper'
  rw [range, one_div, ← zpow_natCast, ← zpow_neg]
  congr 1
  omega

/-- From the third hour of the epoch on the sum is right. -/
theorem sumsUp_of_le (least : 8192 * 1000000 ≤ micros) (date : micros < endSecond * 1000000) : SumsUp micros := by
  unfold endSecond at date
  obtain ⟨second, seconds⟩ := Int.eq_ofNat_of_zero_le (Int.ediv_nonneg (show 0 ≤ micros by omega)
    (show (0 : Int) ≤ 1000000 by decide))
  obtain ⟨scale, small, range⟩ := ulp_of_second second (by omega) (by omega)
  have error := fraction_error micros
  have sum := second_add_fraction micros
  have first : (0 : Rat) ≤ (micros % 1000000 : Int) := by exact_mod_cast Int.emod_nonneg micros (by decide)
  have last : ((micros % 1000000 : Int) : Rat) ≤ 999999 := by
    exact_mod_cast Int.le_sub_one_of_lt (Int.emod_lt_of_pos micros (show (0 : Int) < 1000000 by decide))
  have nonneg : 0 ≤ double ((micros % 1000000 : Int) / 1000000) := double_nonneg (div_nonneg first (by norm_num))
  unfold SumsUp
  rw [seconds, Int.cast_natCast] at sum ⊢
  generalize double ((micros % 1000000 : Int) / 1000000) = fraction at error nonneg ⊢
  rw [abs_le] at error
  norm_num at error
  unfold double
  rw [range _ (by linarith) (by linarith), range _ (by linarith) (by linarith)]
  refine congrArg (fun units : Int => (units : Rat) * (1 / 2 ^ (scale + 7))) ?_
  have units : (micros : Rat) / 1000000 / (1 / 2 ^ (scale + 7)) = micros * 2 ^ (scale + 1) / 15625 := by
    rw [pow_add, pow_add]
    field_simp
    norm_num
  -- the rounded fraction is closer to the fraction than the next middle of two doubles
  refine roundEven_congr (1 / 31250) (fun m => units ▸ far_of_micros m) ?_
  have power : (2 : Rat) ^ (scale + 7) ≤ 2 ^ 39 := pow_le_pow_right₀ (by norm_num) (by omega)
  have positive : (0 : Rat) < 2 ^ (scale + 7) := by positivity
  have scaled : (second + fraction) / (1 / 2 ^ (scale + 7)) - micros / 1000000 / (1 / 2 ^ (scale + 7)) =
      (fraction - (micros % 1000000 : Int) / 1000000) * 2 ^ (scale + 7) := by
    rw [← sum]
    field_simp
    ring
  rw [scaled, abs_lt]
  constructor <;> nlinarith

end Sums

end Wotemu.Foundation
