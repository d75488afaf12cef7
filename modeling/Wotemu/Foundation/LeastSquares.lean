import Mathlib.Algebra.Order.BigOperators.Group.List
import Mathlib.Algebra.Order.Field.Basic
import Mathlib.Tactic.FieldSimp
import Mathlib.Tactic.Linarith
import Mathlib.Tactic.LinearCombination
import Mathlib.Tactic.Positivity
import Mathlib.Tactic.Ring

/-! Lines that fit points with the least squares.

The slope of such a line is known from the sums over the points. It is positive
where the points rise, and points on a line leave no other one.
-/

set_option autoImplicit false

namespace Wotemu.Foundation.LeastSquares

variable {K : Type} [Field K]

section Sums

def total (f : K × K → K) (points : List (K × K)) : K := (points.map f).sum

@[simp] theorem total_nil (f : K × K → K) : total f [] = 0 := rfl

@[simp] theorem total_cons (f : K × K → K) (p : K × K) (points : List (K × K)) :
    total f (p :: points) = f p + total f points := by
  simp [total]

def residual (points : List (K × K)) (slope intercept : K) : K :=
  total (fun p => (slope * p.1 + intercept - p.2) ^ 2) points

def totalX (points : List (K × K)) : K := total Prod.fst points

def totalY (points : List (K × K)) : K := total Prod.snd points

def totalXX (points : List (K × K)) : K := total (fun p => p.1 * p.1) points

def totalXY (points : List (K × K)) : K := total (fun p => p.1 * p.2) points

def totalYY (points : List (K × K)) : K := total (fun p => p.2 * p.2) points

def spread (points : List (K × K)) : K := points.length * totalXX points - totalX points * totalX points

def covariance (points : List (K × K)) : K := points.length * totalXY points - totalX points * totalY points

theorem residual_eq (points : List (K × K)) (a b : K) : residual points a b =
    a ^ 2 * totalXX points + 2 * a * b * totalX points + points.length * b ^ 2 - 2 * a * totalXY points -
      2 * b * totalY points + totalYY points := by
  unfold residual totalXX totalX totalXY totalY totalYY
  induction points with
  | nil => simp
  | cons p points ih =>
    rw [total_cons, ih]
    simp only [total_cons, List.length_cons]
    push_cast
    ring

theorem total_line (points : List (K × K)) (u v : K) : total (fun p => (u * p.1 + v) ^ 2) points =
    u ^ 2 * totalXX points + 2 * u * v * totalX points + points.length * v ^ 2 := by
  unfold totalXX totalX
  induction points with
  | nil => simp
  | cons p points ih =>
    rw [total_cons, ih]
    simp only [total_cons, List.length_cons]
    push_cast
    ring

theorem total_product (points : List (K × K)) (x y : K) :
    total (fun q => (x - q.1) * (y - q.2)) points =
      points.length * (x * y) - x * totalY points - y * totalX points + totalXY points := by
  unfold totalY totalX totalXY
  induction points with
  | nil => simp
  | cons p points ih =>
    rw [total_cons, ih]
    simp only [total_cons, List.length_cons]
    push_cast
    ring

theorem total_pairs (points : List (K × K)) :
    total (fun p => total (fun q => (p.1 - q.1) * (p.2 - q.2)) points) points = 2 * covariance points := by
  simp only [total_product]
  have outer : ∀ (others : List (K × K)) (n x y z : K),
      total (fun p => n * (p.1 * p.2) - p.1 * y - p.2 * x + z) others =
        n * totalXY others - y * totalX others - x * totalY others + others.length * z := by
    intro others n x y z
    unfold totalXY totalX totalY
    induction others with
    | nil => simp
    | cons p others ih =>
      rw [total_cons, ih]
      simp only [total_cons, List.length_cons]
      push_cast
      ring
  rw [outer, covariance]
  ring

theorem total_squares (points : List (K × K)) :
    total (fun p => total (fun q => (p.1 - q.1) * (p.1 - q.1)) points) points = 2 * spread points := by
  have diagonal := total_pairs (points.map fun p => (p.1, p.1))
  simp only [total, covariance, totalXY, totalX, totalY, List.map_map, Function.comp_def, List.length_map] at diagonal
  simpa only [total, spread, totalXX, totalX] using diagonal

end Sums

section Fits

variable [LinearOrder K] [IsStrictOrderedRing K] {points : List (K × K)} {a b : K}

/-- No other line is nearer to the points. -/
def Fits (points : List (K × K)) (slope intercept : K) : Prop :=
  ∀ otherSlope otherIntercept, residual points slope intercept ≤ residual points otherSlope otherIntercept

/-- A change that never pays is flat at its start. -/
theorem flat_of_nonneg {gain cost : K} (nonneg : 0 ≤ cost) (never : ∀ t, 0 ≤ 2 * t * gain + t ^ 2 * cost) :
    gain = 0 := by
  by_contra nonzero
  have positive : 0 < cost + 1 := by linarith
  have least := never (-(gain / (cost + 1)))
  have value : 2 * -(gain / (cost + 1)) * gain + (-(gain / (cost + 1))) ^ 2 * cost =
      -(gain ^ 2 * (cost + 2) / (cost + 1) ^ 2) := by
    field_simp
    ring
  rw [value] at least
  have square : 0 < gain ^ 2 := by positivity
  have loss : 0 < gain ^ 2 * (cost + 2) / (cost + 1) ^ 2 := by positivity
  linarith

theorem total_nonneg {f : K × K → K} (nonneg : ∀ p ∈ points, 0 ≤ f p) : 0 ≤ total f points := by
  apply List.sum_nonneg
  exact List.forall_mem_map.mpr nonneg

theorem le_total {f : K × K → K} (nonneg : ∀ p ∈ points, 0 ≤ f p) {p : K × K} (member : p ∈ points) :
    f p ≤ total f points := by
  apply List.single_le_sum
  · exact List.forall_mem_map.mpr nonneg
  · exact List.mem_map_of_mem member

theorem Fits.normal (fits : Fits points a b) :
    a * totalXX points + b * totalX points = totalXY points ∧
      a * totalX points + points.length * b = totalY points := by
  have squares : 0 ≤ totalXX points := total_nonneg fun p _ => mul_self_nonneg p.1
  constructor
  · have flat := flat_of_nonneg squares fun t => (by
      have moved := fits (a + t) b
      rw [residual_eq, residual_eq] at moved
      linear_combination moved :
        0 ≤ 2 * t * (a * totalXX points + b * totalX points - totalXY points) + t ^ 2 * totalXX points)
    linear_combination flat
  · have flat := flat_of_nonneg (Nat.cast_nonneg points.length) fun t => (by
      have moved := fits a (b + t)
      rw [residual_eq, residual_eq] at moved
      linear_combination moved :
        0 ≤ 2 * t * (a * totalX points + points.length * b - totalY points) + t ^ 2 * (points.length : K))
    linear_combination flat

theorem Fits.slope_mul (fits : Fits points a b) : a * spread points = covariance points := by
  obtain ⟨first, second⟩ := fits.normal
  unfold spread covariance
  linear_combination (points.length : K) * first - totalX points * second

/-- Two of the points are not above each other. -/
def Wide (points : List (K × K)) : Prop := ∃ p ∈ points, ∃ q ∈ points, p.1 < q.1

def Rising (points : List (K × K)) : Prop := ∀ p ∈ points, ∀ q ∈ points, p.1 < q.1 → p.2 < q.2

/-- A sum over pairs is not below one of its parts when no pair takes anything. -/
theorem le_pairs {f : K × K → K × K → K} (nonneg : ∀ p ∈ points, ∀ q ∈ points, 0 ≤ f p q) {p q : K × K}
    (left : p ∈ points) (right : q ∈ points) : f p q ≤ total (fun p => total (f p) points) points :=
  calc f p q ≤ total (f p) points := le_total (nonneg p left) right
    _ ≤ total (fun p => total (f p) points) points :=
      le_total (fun other member => total_nonneg (nonneg other member)) left

theorem spread_pos (wide : Wide points) : 0 < spread points := by
  obtain ⟨p, left, q, right, apart⟩ := wide
  have nonneg : ∀ p ∈ points, ∀ q ∈ points, 0 ≤ (p.1 - q.1) * (p.1 - q.1) := fun p _ q _ => mul_self_nonneg _
  have pairs := (mul_self_pos.mpr (sub_ne_zero.mpr apart.ne)).trans_le (le_pairs nonneg left right)
  rw [total_squares] at pairs
  linarith

theorem Fits.le_slope (fits : Fits points a b) (rising : Rising points) {p q : K × K} (left : p ∈ points)
    (right : q ∈ points) : (p.1 - q.1) * (p.2 - q.2) ≤ 2 * (a * spread points) := by
  have nonneg : ∀ p ∈ points, ∀ q ∈ points, 0 ≤ (p.1 - q.1) * (p.2 - q.2) := by
    intro p isFirst q isSecond
    rcases lt_trichotomy p.1 q.1 with below | same | above
    · have rises := rising p isFirst q isSecond below
      exact mul_nonneg_of_nonpos_of_nonpos (by linarith) (by linarith)
    · rw [same, sub_self, zero_mul]
    · have rises := rising q isSecond p isFirst above
      exact mul_nonneg (by linarith) (by linarith)
  have pairs := le_pairs nonneg left right
  rwa [total_pairs, ← fits.slope_mul] at pairs

theorem total_le {f : K × K → K} {bound : K} (below : ∀ p ∈ points, f p ≤ bound) :
    total f points ≤ points.length * bound := by
  have sum := List.sum_le_card_nsmul (points.map f) bound (List.forall_mem_map.mpr below)
  rwa [List.length_map, nsmul_eq_mul] at sum

theorem abs_total_le {f : K × K → K} {bound : K} (below : ∀ p ∈ points, |f p| ≤ bound) :
    |total f points| ≤ points.length * bound := by
  have mirrored : -total f points ≤ points.length * bound := by
    have negated : total (fun p => -f p) points = -total f points := by
      unfold total
      induction points with
      | nil => simp
      | cons p points ih => simp [ih fun q member => below q (List.mem_cons_of_mem p member), add_comm]
    rw [← negated]
    exact total_le fun p member => (neg_le_abs _).trans (below p member)
  exact abs_le.mpr ⟨by linarith, total_le fun p member => (le_abs_self _).trans (below p member)⟩

theorem Fits.intercept_le (fits : Fits points a b) (some : points ≠ []) (nonneg : 0 ≤ a) {top : K}
    (right : ∀ p ∈ points, 0 ≤ p.1) (below : ∀ p ∈ points, p.2 ≤ top) : b ≤ top := by
  have mean := fits.normal.2
  have count : (0 : K) < points.length := by exact_mod_cast List.length_pos_iff.mpr some
  have sum : totalY points ≤ points.length * top := total_le below
  have back : 0 ≤ a * totalX points := mul_nonneg nonneg (total_nonneg right)
  exact le_of_mul_le_mul_left (by linarith) count

theorem Fits.le_intercept (fits : Fits points a b) (some : points ≠ []) (nonneg : 0 ≤ a) {width : K}
    (left : ∀ p ∈ points, p.1 ≤ width) (above : ∀ p ∈ points, 0 ≤ p.2) : -(a * width) ≤ b := by
  have mean := fits.normal.2
  have count : (0 : K) < points.length := by exact_mod_cast List.length_pos_iff.mpr some
  have sum : 0 ≤ totalY points := total_nonneg above
  have back : a * totalX points ≤ a * (points.length * width) := mul_le_mul_of_nonneg_left (total_le left) nonneg
  refine le_of_mul_le_mul_left ?_ count
  linarith

theorem fits_of_normal (first : a * totalXX points + b * totalX points = totalXY points)
    (second : a * totalX points + points.length * b = totalY points) : Fits points a b := by
  intro c d
  have moved : residual points c d =
      residual points a b + total (fun p => ((c - a) * p.1 + (d - b)) ^ 2) points := by
    rw [residual_eq, residual_eq, total_line]
    linear_combination 2 * (c - a) * first + 2 * (d - b) * second
  rw [moved]
  exact le_add_of_nonneg_right (total_nonneg fun p _ => sq_nonneg _)

def leastSquares (points : List (K × K)) : K × K :=
  let slope := covariance points / spread points
  (slope, (totalY points - slope * totalX points) / points.length)

theorem leastSquares_fits (wide : Wide points) : Fits points (leastSquares points).1 (leastSquares points).2 := by
  have apart := (spread_pos wide).ne'
  have count : (points.length : K) ≠ 0 := by
    obtain ⟨p, member, -⟩ := wide
    exact Nat.cast_ne_zero.mpr (List.length_pos_of_mem member).ne'
  have slope : (leastSquares points).1 * spread points = covariance points := div_mul_cancel₀ _ apart
  have intercept : (leastSquares points).2 * points.length = totalY points - (leastSquares points).1 * totalX points :=
    div_mul_cancel₀ _ count
  refine fits_of_normal ?_ (by linear_combination intercept)
  apply mul_left_cancel₀ count
  unfold spread covariance at slope
  linear_combination slope + totalX points * intercept

end Fits

end Wotemu.Foundation.LeastSquares
