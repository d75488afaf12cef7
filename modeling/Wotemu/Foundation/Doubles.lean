import Mathlib.Algebra.Order.Field.Rat
import Mathlib.Data.Int.Log
import Mathlib.Data.Rat.Floor
import Mathlib.Tactic.FieldSimp
import Mathlib.Tactic.Linarith
import Mathlib.Tactic.NormNum
import Mathlib.Tactic.Ring

/-! Rounding a number to a double.

A double has 53 significant bits, and an operation on doubles gives the double
nearest to the exact result, the even one of two. Exponents have no bounds here.
-/

set_option autoImplicit false

namespace Wotemu.Foundation

def roundEven (x : Rat) : Int :=
  let rest := x - x.floor
  if rest < 1 / 2 then x.floor
  else if 1 / 2 < rest then x.floor + 1
  else if x.floor % 2 = 0 then x.floor else x.floor + 1

section Integers

variable {x y : Rat} {n : Int}

theorem roundEven_near (x : Rat) : |x - roundEven x| ≤ 1 / 2 := by
  have below := Rat.floor_le x
  have above := Rat.lt_floor_add_one x
  push_cast at above
  unfold roundEven
  rw [abs_le]
  simp only
  split_ifs <;> push_cast <;> constructor <;> linarith

theorem roundEven_half (half : |x - roundEven x| = 1 / 2) : roundEven x % 2 = 0 := by
  have below := Rat.floor_le x
  have above := Rat.lt_floor_add_one x
  push_cast at above
  unfold roundEven at half ⊢
  simp only at half ⊢
  split_ifs at half ⊢ with less more even
  · rw [abs_of_nonneg (by linarith)] at half
    linarith
  · rw [abs_of_neg (by push_cast; linarith)] at half
    push_cast at half
    linarith
  · exact even
  · omega

/-- These two facts determine the rounded integer. -/
theorem roundEven_eq (near : |x - n| ≤ 1 / 2) (half : |x - n| = 1 / 2 → n % 2 = 0) : roundEven x = n := by
  have nearOwn := roundEven_near x
  have halfOwn := @roundEven_half x
  rw [abs_le] at near nearOwn
  rcases lt_trichotomy (roundEven x) n with less | same | more
  · have apart : (roundEven x : Rat) + 1 ≤ n := by exact_mod_cast less
    have even := half (by rw [abs_of_neg (by linarith)]; linarith)
    have evenOwn := halfOwn (by rw [abs_of_nonneg (by linarith)]; linarith)
    have next : (n : Rat) = (roundEven x + 1 : Int) := by push_cast; linarith
    have next := Int.cast_injective next
    omega
  · exact same
  · have apart : (n : Rat) + 1 ≤ roundEven x := by exact_mod_cast more
    have even := half (by rw [abs_of_nonneg (by linarith)]; linarith)
    have evenOwn := halfOwn (by rw [abs_of_neg (by linarith)]; linarith)
    have next : (roundEven x : Rat) = (n + 1 : Int) := by push_cast; linarith
    have next := Int.cast_injective next
    omega

theorem roundEven_of_near (near : |x - n| < 1 / 2) : roundEven x = n :=
  roundEven_eq near.le fun half => absurd half near.ne

@[simp] theorem roundEven_intCast (n : Int) : roundEven n = n := roundEven_of_near (by norm_num)

theorem roundEven_neg (x : Rat) : roundEven (-x) = -roundEven x := by
  have mirrored : |-x - (-roundEven x : Int)| = |x - roundEven x| := by
    rw [← abs_neg]
    push_cast
    congr 1
    ring
  refine roundEven_eq (mirrored ▸ roundEven_near x) fun half => ?_
  have even := roundEven_half (mirrored ▸ half)
  omega

theorem roundEven_mono (le : x ≤ y) : roundEven x ≤ roundEven y := by
  by_contra less
  have apart : (roundEven y : Rat) + 1 ≤ roundEven x := by exact_mod_cast not_le.mp less
  have lower := (abs_le.mp (roundEven_near x)).1
  have upper := (abs_le.mp (roundEven_near y)).2
  have same : x = y := by linarith
  exact less (same ▸ le_refl _)

theorem roundEven_congr (margin : Rat) (far : ∀ n : Int, margin ≤ |x - (n + 1 / 2)|) (near : |y - x| < margin) :
    roundEven y = roundEven x := by
  have here := abs_le.mp (roundEven_near x)
  have above := far (roundEven x)
  have below := far (roundEven x - 1)
  rw [abs_of_nonpos (by linarith)] at above
  rw [abs_of_nonneg (by push_cast; linarith)] at below
  push_cast at below
  rw [abs_lt] at near
  exact roundEven_of_near (abs_lt.mpr ⟨by linarith, by linarith⟩)

end Integers

def ulp (x : Rat) : Rat := 2 ^ (Int.log 2 |x| - 52)

def double (x : Rat) : Rat := roundEven (x / ulp x) * ulp x

section Doubles

variable {x y : Rat}

theorem ulp_pos (x : Rat) : 0 < ulp x := zpow_pos (by norm_num) _

theorem double_zero : double 0 = 0 := by decide +kernel

theorem double_neg (x : Rat) : double (-x) = -double x := by
  have same : ulp (-x) = ulp x := by rw [ulp, abs_neg, ulp]
  rw [double, same, neg_div, roundEven_neg, double]
  push_cast
  ring

theorem double_near (x : Rat) : |double x - x| ≤ ulp x / 2 := by
  have near := roundEven_near (x / ulp x)
  have positive := ulp_pos x
  have scaled : double x - x = -((x / ulp x - roundEven (x / ulp x)) * ulp x) := by
    rw [double, sub_mul, div_mul_cancel₀ _ positive.ne']
    ring
  rw [scaled, abs_neg, abs_mul, abs_of_pos positive]
  linarith [mul_le_mul_of_nonneg_right near positive.le]

theorem ulp_le {n : Int} (nonzero : x ≠ 0) (less : |x| < 2 ^ n) : ulp x ≤ 2 ^ (n - 53) := by
  have exponent : Int.log 2 |x| < n :=
    (Int.lt_zpow_iff_log_lt one_lt_two (abs_pos.mpr nonzero)).mp (by exact_mod_cast less)
  exact zpow_le_zpow_right₀ (by norm_num) (by omega)

theorem double_error {n : Int} (less : |x| < 2 ^ n) : |double x - x| ≤ 2 ^ (n - 54) := by
  by_cases zero : x = 0
  · rw [zero, double_zero, sub_self, abs_zero]
    exact (zpow_pos (by norm_num) _).le
  · have half : (2 : Rat) ^ (n - 53) = 2 ^ (n - 54) * 2 := by
      rw [← zpow_add_one₀ (by norm_num)]
      congr 1
      omega
    linarith [double_near x, ulp_le zero less]

theorem log_eq {e : Int} (least : (2 : Rat) ^ e ≤ |x|) (less : |x| < 2 ^ (e + 1)) : Int.log 2 |x| = e := by
  have positive : 0 < |x| := (zpow_pos (by norm_num) e).trans_le least
  apply le_antisymm
  · exact Int.lt_add_one_iff.mp ((Int.lt_zpow_iff_log_lt one_lt_two positive).mp (by exact_mod_cast less))
  · exact (Int.zpow_le_iff_le_log one_lt_two positive).mp (by exact_mod_cast least)

theorem ulp_eq {e : Int} (least : (2 : Rat) ^ e ≤ |x|) (less : |x| < 2 ^ (e + 1)) : ulp x = 2 ^ (e - 52) := by
  rw [ulp, log_eq least less]

theorem double_of_bits {m : Int} {k : Int} (bits : |m| < 2 ^ 53) : double (m * 2 ^ k) = m * 2 ^ k := by
  by_cases zero : (m : Rat) * 2 ^ k = 0
  · rw [zero, double_zero]
  have size : |(m : Rat) * 2 ^ k| < 2 ^ (53 + k) := by
    rw [abs_mul, abs_of_pos (zpow_pos (by norm_num : (0 : Rat) < 2) k), zpow_add₀ (by norm_num)]
    refine mul_lt_mul_of_pos_right ?_ (zpow_pos (by norm_num) k)
    exact_mod_cast bits
  have exponent : Int.log 2 |(m : Rat) * 2 ^ k| < 53 + k :=
    (Int.lt_zpow_iff_log_lt one_lt_two (abs_pos.mpr zero)).mp (by exact_mod_cast size)
  obtain ⟨shift, shifted⟩ := Int.eq_ofNat_of_zero_le (show 0 ≤ k - (Int.log 2 |(m : Rat) * 2 ^ k| - 52) by omega)
  have whole : (m : Rat) * 2 ^ k / ulp (m * 2 ^ k) = ((m * 2 ^ shift : Int) : Rat) := by
    rw [ulp, mul_div_assoc, ← zpow_sub₀ (by norm_num), shifted]
    push_cast
    rfl
  rw [double, whole, roundEven_intCast, ← whole, div_mul_cancel₀ _ (ulp_pos _).ne']

theorem double_intCast {n : Int} (bits : |n| < 2 ^ 53) : double n = n := by
  simpa using double_of_bits (k := 0) bits

theorem double_nonneg (nonneg : 0 ≤ x) : 0 ≤ double x := by
  refine mul_nonneg ?_ (ulp_pos x).le
  have rounded : roundEven ((0 : Int) : Rat) ≤ roundEven (x / ulp x) := by
    apply roundEven_mono
    rw [Int.cast_zero]
    exact div_nonneg nonneg (ulp_pos x).le
  rw [roundEven_intCast] at rounded
  exact_mod_cast rounded

theorem double_range (positive : 0 < x) : 2 ^ Int.log 2 |x| ≤ double x ∧ double x ≤ 2 ^ (Int.log 2 |x| + 1) := by
  have least := Int.zpow_log_le_self (b := 2) one_lt_two (abs_pos.mpr positive.ne')
  have most := Int.lt_zpow_succ_log_self (b := 2) one_lt_two |x|
  push_cast at least most
  nth_rewrite 2 [abs_of_pos positive] at least
  nth_rewrite 1 [abs_of_pos positive] at most
  have unit := ulp_pos x
  have low : ((2 ^ 52 : Int) : Rat) * ulp x = 2 ^ Int.log 2 |x| := by
    rw [ulp, zpow_sub₀ (by norm_num)]
    push_cast
    field_simp
  have high : ((2 ^ 53 : Int) : Rat) * ulp x = 2 ^ (Int.log 2 |x| + 1) := by
    rw [ulp, zpow_sub₀ (by norm_num), zpow_add_one₀ (by norm_num)]
    push_cast
    field_simp
    norm_num
  constructor
  · rw [← low, double]
    refine mul_le_mul_of_nonneg_right ?_ unit.le
    have scaled : ((2 ^ 52 : Int) : Rat) ≤ x / ulp x := by
      rw [le_div_iff₀ unit, low]
      exact least
    have rounded := roundEven_mono scaled
    rw [roundEven_intCast] at rounded
    exact_mod_cast rounded
  · rw [← high, double]
    refine mul_le_mul_of_nonneg_right ?_ unit.le
    have scaled : x / ulp x ≤ ((2 ^ 53 : Int) : Rat) := by
      rw [div_le_iff₀ unit, high]
      exact most.le
    have rounded := roundEven_mono scaled
    rw [roundEven_intCast] at rounded
    exact_mod_cast rounded

theorem double_mono_pos (positive : 0 < x) (le : x ≤ y) : double x ≤ double y := by
  have above := positive.trans_le le
  have exponents : Int.log 2 |x| ≤ Int.log 2 |y| := by
    rw [abs_of_pos positive, abs_of_pos above]
    exact Int.log_mono_right positive le
  rcases exponents.eq_or_lt with same | less
  · have unit : ulp x = ulp y := by rw [ulp, same, ulp]
    rw [double, double, unit]
    refine mul_le_mul_of_nonneg_right ?_ (ulp_pos y).le
    exact_mod_cast roundEven_mono (div_le_div_of_nonneg_right le (ulp_pos y).le)
  · calc double x ≤ 2 ^ (Int.log 2 |x| + 1) := (double_range positive).2
      _ ≤ 2 ^ Int.log 2 |y| := zpow_le_zpow_right₀ (by norm_num) less
      _ ≤ double y := (double_range above).1

theorem double_mono (le : x ≤ y) : double x ≤ double y := by
  rcases lt_or_ge 0 x with positive | nonpos
  · exact double_mono_pos positive le
  · have nonpos' : double x ≤ 0 := by
      have mirrored := double_nonneg (neg_nonneg.mpr nonpos)
      rw [double_neg] at mirrored
      linarith
    rcases le_or_gt 0 y with nonneg | negative
    · exact nonpos'.trans (double_nonneg nonneg)
    · have mirrored := double_mono_pos (neg_pos.mpr negative) (neg_le_neg le)
      rw [double_neg, double_neg] at mirrored
      linarith

theorem double_pos (positive : 0 < x) : 0 < double x :=
  (zpow_pos (by norm_num) _).trans_le (double_range positive).1

theorem double_pow (n : Int) : double (2 ^ n) = 2 ^ n := by
  simpa using double_of_bits (m := 1) (k := n) (by norm_num)

theorem error_of_double {n : Int} (less : |double x| < 2 ^ n) : |double x - x| ≤ 2 ^ (n - 54) := by
  apply double_error
  rw [abs_lt] at less ⊢
  constructor
  · by_contra below
    have rounded := double_mono (not_lt.mp below)
    rw [double_neg, double_pow] at rounded
    linarith
  · by_contra above
    have rounded := double_mono (not_lt.mp above)
    rw [double_pow] at rounded
    linarith

theorem significand_le (x : Rat) : |roundEven (x / ulp x)| ≤ 2 ^ 53 := by
  have unit := ulp_pos x
  have size : |x / ulp x| ≤ 2 ^ 53 := by
    rw [abs_div, abs_of_pos unit, div_le_iff₀ unit]
    by_cases zero : x = 0
    · rw [zero, abs_zero]
      exact mul_nonneg (by norm_num) (ulp_pos 0).le
    · have most := Int.lt_zpow_succ_log_self (b := 2) one_lt_two |x|
      push_cast at most
      have range : (2 : Rat) ^ 53 * ulp x = 2 ^ (Int.log 2 |x| + 1) := by
        rw [ulp, ← zpow_natCast, ← zpow_add₀ (by norm_num)]
        congr 1
        push_cast
        ring
      rw [range]
      exact most.le
  have upper := roundEven_mono (show x / ulp x ≤ ((2 ^ 53 : Int) : Rat) by
    push_cast
    exact (abs_le.mp size).2)
  have lower := roundEven_mono (show ((-2 ^ 53 : Int) : Rat) ≤ x / ulp x by
    push_cast
    exact (abs_le.mp size).1)
  rw [roundEven_intCast] at upper lower
  exact abs_le.mpr ⟨lower, upper⟩

theorem double_double (x : Rat) : double (double x) = double x := by
  obtain less | same := (significand_le x).lt_or_eq
  · exact double_of_bits less
  -- the end of a range is the start of the next one
  · have power : (2 : Rat) ^ (53 + (Int.log 2 |x| - 52)) = ((2 ^ 53 : Int) : Rat) * ulp x := by
      rw [ulp, zpow_add₀ (by norm_num)]
      norm_num
    have start : double (((2 ^ 53 : Int) : Rat) * ulp x) = ((2 ^ 53 : Int) : Rat) * ulp x := by
      rw [← power, double_pow]
    obtain positive | negative := (abs_eq (by norm_num)).mp same
    · have value : double x = ((2 ^ 53 : Int) : Rat) * ulp x := by rw [double, positive]
      rw [value, start]
    · have value : double x = -(((2 ^ 53 : Int) : Rat) * ulp x) := by rw [double, negative, Int.cast_neg, neg_mul]
      rw [value, double_neg, start]

theorem ulp_le_abs (nonzero : x ≠ 0) : ulp x ≤ |x| * 2 ^ (-52 : Int) := by
  have least := Int.zpow_log_le_self (b := 2) one_lt_two (abs_pos.mpr nonzero)
  push_cast at least
  rw [ulp, sub_eq_add_neg, zpow_add₀ (by norm_num)]
  exact mul_le_mul_of_nonneg_right least (zpow_pos (by norm_num) _).le

theorem double_relative (x : Rat) : |double x - x| ≤ |x| * 2 ^ (-53 : Int) := by
  by_cases zero : x = 0
  · rw [zero, double_zero, sub_self, abs_zero, zero_mul]
  · have half : (2 : Rat) ^ (-52 : Int) = 2 ^ (-53 : Int) * 2 := by norm_num
    have unit := ulp_le_abs zero
    rw [half] at unit
    linarith [double_near x]

theorem double_bounds (nonneg : 0 ≤ x) : x - x / 2 ^ 53 ≤ double x ∧ double x ≤ x + x / 2 ^ 53 := by
  have error := double_relative x
  rw [abs_of_nonneg nonneg, abs_le] at error
  norm_num at error ⊢
  constructor <;> linarith

theorem near_of_double_eq {n : Int} (same : double x = double y) (less : |y| < 2 ^ n) : |x - y| ≤ 2 ^ (n - 52) := by
  have error := double_error less
  have grown : (2 : Rat) ^ (n + 1) = 2 ^ n * 2 := zpow_add_one₀ (by norm_num) n
  have size : |double x| < 2 ^ (n + 1) := by
    have small : (2 : Rat) ^ (n - 54) < 2 ^ n := zpow_lt_zpow_right₀ (by norm_num) (by omega)
    rw [same]
    linarith [abs_sub_abs_le_abs_sub (double y) y]
  have errorBefore := error_of_double size
  have quarter : (2 : Rat) ^ (n - 52) = 2 ^ (n - 54) * 4 := by
    rw [show n - 52 = n - 54 + 2 by omega, zpow_add₀ (by norm_num)]
    norm_num
  have half : (2 : Rat) ^ (n + 1 - 54) = 2 ^ (n - 54) * 2 := by
    rw [show n + 1 - 54 = n - 54 + 1 by omega, zpow_add_one₀ (by norm_num)]
  have unit : (0 : Rat) < 2 ^ (n - 54) := zpow_pos (by norm_num) _
  rw [same] at errorBefore
  rw [abs_le] at error errorBefore ⊢
  constructor <;> linarith

end Doubles

end Wotemu.Foundation
