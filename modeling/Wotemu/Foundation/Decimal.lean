import Mathlib.Data.List.DropRight
import Mathlib.Tactic.Ring

/-! Numbers written with a fixed number of decimal digits, and what is left of
them without their trailing zeros. -/

set_option autoImplicit false

namespace Wotemu.Foundation

/-- The last `width` decimal digits of a number. -/
def padded : Nat → Nat → List Char
  | 0, _ => []
  | width + 1, n => padded width (n / 10) ++ [(n % 10).digitChar]

@[simp] theorem length_padded (width n : Nat) : (padded width n).length = width := by
  induction width generalizing n with
  | zero => rfl
  | succ width ih => rw [padded, List.length_append, ih, List.length_singleton]

theorem isDigit_of_mem_padded {width n : Nat} {c : Char} (member : c ∈ padded width n) : c.isDigit := by
  induction width generalizing n with
  | zero => cases member
  | succ width ih =>
    rw [padded, List.mem_append, List.mem_singleton] at member
    cases member with
    | inl before => exact ih before
    | inr last =>
      rw [last, Nat.isDigit_digitChar, decide_eq_true_eq]
      exact Nat.mod_lt n (by decide)

theorem value_padded {width n : Nat} (small : n < 10 ^ width) :
    Nat.ofDigitChars 10 (padded width n) 0 = n := by
  induction width generalizing n with
  | zero =>
    rw [pow_zero, Nat.lt_one_iff] at small
    rw [small]
    rfl
  | succ width ih =>
    have shorter : n / 10 < 10 ^ width := by
      rw [Nat.div_lt_iff_lt_mul (by decide), ← pow_succ]
      exact small
    rw [padded, Nat.ofDigitChars_append, ih shorter,
      Nat.ofDigitChars_cons_digitChar_of_lt_ten (Nat.mod_lt n (by decide)), Nat.ofDigitChars_nil]
    exact Nat.div_add_mod n 10

theorem take_padded (width more n : Nat) :
    (padded (width + more) n).take width = padded width (n / 10 ^ more) := by
  induction more generalizing n with
  | zero => rw [Nat.add_zero, pow_zero, Nat.div_one, List.take_of_length_le (by rw [length_padded])]
  | succ more ih =>
    have enough : width ≤ (padded (width + more) (n / 10)).length := by
      rw [length_padded]
      exact Nat.le_add_right width more
    rw [← Nat.add_assoc, padded, List.take_append_of_le_length enough, ih, Nat.div_div_eq_div_mul,
      pow_succ']

def trimmed (digits : List Char) : List Char := digits.rdropWhile (· = '0')

theorem isDigit_of_mem_trimmed {width n : Nat} {c : Char} (member : c ∈ trimmed (padded width n)) :
    c.isDigit :=
  isDigit_of_mem_padded ((List.rdropWhile_prefix _ _).subset member)

/-- A positive number loses as many digits as powers of ten divide it. -/
theorem trimmed_padded {width n : Nat} (small : n < 10 ^ width) (positive : 0 < n) :
    ∃ zeros m, zeros < width ∧ n = m * 10 ^ zeros ∧ m % 10 ≠ 0 ∧
      trimmed (padded width n) = padded (width - zeros) m := by
  induction width generalizing n with
  | zero =>
    rw [pow_zero] at small
    omega
  | succ width ih =>
    by_cases last : n % 10 = 0
    · have shorter : n / 10 < 10 ^ width := by
        rw [Nat.div_lt_iff_lt_mul (by decide), ← pow_succ]
        exact small
      obtain ⟨zeros, m, fewer, same, nonzero, left⟩ := ih shorter (by omega)
      refine ⟨zeros + 1, m, by omega, ?_, nonzero, ?_⟩
      · calc n = n / 10 * 10 := (Nat.div_mul_cancel (Nat.dvd_of_mod_eq_zero last)).symm
          _ = m * 10 ^ (zeros + 1) := by rw [same, pow_succ, mul_assoc]
      · rw [padded, trimmed, last, List.rdropWhile_concat_pos _ _ _ (by decide), Nat.add_sub_add_right]
        exact left
    · refine ⟨0, n, Nat.succ_pos width, by rw [pow_zero, mul_one], last, ?_⟩
      have kept : ¬ (n % 10).digitChar = '0' := by rwa [Nat.digitChar_eq_zero]
      rw [padded, trimmed, List.rdropWhile_concat_neg _ _ _ (by simpa using kept)]
      rfl

section Cut

variable {keep more m : Nat}

private theorem tenth_pos (exponent : Nat) : 0 < 10 ^ exponent := Nat.pow_pos (by decide)

private theorem value_take_of_kept {zeros lost : Nat} (same : more = zeros + lost)
    (small : m * 10 ^ zeros < 10 ^ (keep + more)) :
    Nat.ofDigitChars 10 ((padded (keep + more - zeros) m).take keep) 0 = m * 10 ^ zeros / 10 ^ more := by
  have quotient : m * 10 ^ zeros / 10 ^ more = m / 10 ^ lost := by
    rw [same, pow_add, Nat.mul_comm m, Nat.mul_div_mul_left _ _ (tenth_pos zeros)]
  have bound : m / 10 ^ lost < 10 ^ keep := by
    rw [← quotient, Nat.div_lt_iff_lt_mul (tenth_pos more), ← pow_add]
    exact small
  rw [show keep + more - zeros = keep + lost by omega, take_padded, value_padded bound, quotient]

private theorem value_take_of_lost {zeros lost : Nat} (same : zeros = more + lost + 1)
    (fewer : zeros < keep + more) (positive : 0 < m) (small : m * 10 ^ zeros < 10 ^ (keep + more)) :
    Nat.ofDigitChars 10 ((padded (keep + more - zeros) m).take keep) 0 < m * 10 ^ zeros / 10 ^ more := by
  have smaller : m < 10 ^ (keep + more - zeros) := by
    refine Nat.lt_of_mul_lt_mul_right (a := 10 ^ zeros) ?_
    rw [← pow_add, Nat.sub_add_cancel (Nat.le_of_lt fewer)]
    exact small
  have quotient : m * 10 ^ zeros / 10 ^ more = m * 10 * 10 ^ lost := by
    rw [same, show m * 10 ^ (more + lost + 1) = m * 10 * 10 ^ lost * 10 ^ more by ring,
      Nat.mul_div_cancel _ (tenth_pos more)]
  rw [List.take_of_length_le (by rw [length_padded]; omega), value_padded smaller, quotient]
  calc m < m * 10 := by omega
    _ ≤ m * 10 * 10 ^ lost := Nat.le_mul_of_pos_right _ (tenth_pos lost)

/-- The first digits that remain stand for the number without its last digits only if none of
them was removed. -/
theorem value_take_trimmed {n : Nat} (small : n < 10 ^ (keep + more)) (positive : 0 < n) :
    Nat.ofDigitChars 10 ((trimmed (padded (keep + more) n)).take keep) 0 = n / 10 ^ more ↔
      n % 10 ^ (more + 1) ≠ 0 := by
  obtain ⟨zeros, m, fewer, same, nonzero, left⟩ := trimmed_padded small positive
  rw [left]
  rw [same] at small
  by_cases kept : zeros ≤ more
  · obtain ⟨lost, split⟩ := Nat.exists_eq_add_of_le kept
    refine iff_of_true (by rw [same]; exact value_take_of_kept split small) fun divides => nonzero ?_
    have tenth : 10 ^ zeros * 10 ∣ 10 ^ zeros * m := by
      rw [← pow_succ, Nat.mul_comm, ← same]
      exact (Nat.pow_dvd_pow 10 (by omega)).trans (Nat.dvd_of_mod_eq_zero divides)
    exact Nat.mod_eq_zero_of_dvd (Nat.dvd_of_mul_dvd_mul_left (tenth_pos zeros) tenth)
  · obtain ⟨lost, split⟩ := Nat.exists_eq_add_of_lt (Nat.lt_of_not_le kept)
    have some : 0 < m := Nat.pos_of_ne_zero fun zero => nonzero (by rw [zero])
    refine iff_of_false (fun equal => ?_) (not_not.mpr ?_)
    · have less := value_take_of_lost split fewer some small
      rw [same] at equal
      exact absurd equal (Nat.ne_of_lt less)
    · rw [same, show zeros = lost + (more + 1) by omega, pow_add, ← Nat.mul_assoc]
      exact Nat.mul_mod_left _ _

end Cut

end Wotemu.Foundation
