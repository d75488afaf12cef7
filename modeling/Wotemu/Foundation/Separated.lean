import Mathlib.Data.List.Infix

/-! Texts made of parts around a separator.

A join says how it was made only up to the separators inside the parts: two
joins agree exactly when one left part continues the other one, and parts
without separators are found again. Patterns skip any text at a star.
-/

set_option autoImplicit false

namespace Wotemu.Foundation

section Joins

variable {α : Type} {sep : α}

/-- Two joins around one separator are equal when their parts are, or when a separator
inside a part can be taken for the joining one. -/
theorem join_eq_iff {a b c d : List α} :
    a ++ sep :: b = c ++ sep :: d ↔ (a = c ∧ b = d) ∨
      (∃ shared, c = a ++ sep :: shared ∧ b = shared ++ sep :: d) ∨
      (∃ shared, a = c ++ sep :: shared ∧ d = shared ++ sep :: b) := by
  constructor
  · intro same
    -- one left part continues the other one: by nothing, or by a separator and what follows it
    rcases List.append_eq_append_iff.mp same with ⟨rest, left, right⟩ | ⟨rest, left, right⟩
    · cases rest with
      | nil => exact Or.inl ⟨by simpa using left.symm, by simpa using right⟩
      | cons head shared =>
        obtain ⟨rfl, tails⟩ := List.cons.inj right
        exact Or.inr (Or.inl ⟨shared, left, tails⟩)
    · cases rest with
      | nil => exact Or.inl ⟨by simpa using left, by simpa using right.symm⟩
      | cons head shared =>
        obtain ⟨rfl, tails⟩ := List.cons.inj right
        exact Or.inr (Or.inr ⟨shared, left, tails⟩)
  · rintro (⟨rfl, rfl⟩ | ⟨shared, rfl, rfl⟩ | ⟨shared, rfl, rfl⟩) <;> simp

theorem join_string_eq_iff {sep : Char} {glue a b c d : String} (single : glue.toList = [sep]) :
    a ++ glue ++ b = c ++ glue ++ d ↔ (a = c ∧ b = d) ∨
      (∃ shared, c = a ++ glue ++ shared ∧ b = shared ++ glue ++ d) ∨
      (∃ shared, a = c ++ glue ++ shared ∧ d = shared ++ glue ++ b) := by
  constructor
  · intro same
    have lists := congrArg String.toList same
    simp only [String.toList_append, single, List.append_assoc, List.singleton_append] at lists
    rcases join_eq_iff.mp lists with ⟨left, right⟩ | ⟨shared, left, right⟩ | ⟨shared, left, right⟩
    · exact Or.inl ⟨String.toList_inj.mp left, String.toList_inj.mp right⟩
    · refine Or.inr (Or.inl ⟨String.ofList shared, ?_, ?_⟩) <;>
        simp [← String.toList_inj, single, left, right]
    · refine Or.inr (Or.inr ⟨String.ofList shared, ?_, ?_⟩) <;>
        simp [← String.toList_inj, single, left, right]
  · rintro (⟨rfl, rfl⟩ | ⟨shared, rfl, rfl⟩ | ⟨shared, rfl, rfl⟩) <;> simp [String.append_assoc]

end Joins

section Splits

/-- `text.split(sep)` for a separator of one character. -/
def split (sep : Char) (text : String) : List String := (text.toList.splitOn sep).map String.ofList

variable {sep : Char} {glue : String} (single : glue.toList = [sep])

include single

theorem split_intercalate {parts : List String} (free : ∀ part ∈ parts, sep ∉ part.toList)
    (nonempty : parts ≠ []) : split sep (String.intercalate glue parts) = parts := by
  have freeLists : ∀ part ∈ parts.map String.toList, sep ∉ part := by
    intro part member
    obtain ⟨text, inside, rfl⟩ := List.mem_map.mp member
    exact free text inside
  unfold split
  rw [String.toList_intercalate, single, List.splitOn_intercalate sep freeLists (by simpa using nonempty),
    List.map_map]
  simp [Function.comp_def]

theorem split_append (first second : String) :
    split sep (first ++ glue ++ second) = split sep first ++ split sep second := by
  unfold split
  rw [String.toList_append, String.toList_append, single, List.append_assoc, List.singleton_append,
    List.splitOn_append_cons_self, List.map_append]

omit single in
theorem free_of_mem_split {text part : String} (member : part ∈ split sep text) : sep ∉ part.toList := by
  obtain ⟨chars, inside, rfl⟩ := List.mem_map.mp member
  rw [String.toList_ofList]
  clear member
  generalize text.toList = all at inside
  induction all generalizing chars with
  | nil =>
    rw [List.splitOn_nil, List.mem_singleton] at inside
    rw [inside]
    exact List.not_mem_nil
  | cons first rest ih =>
    rw [List.splitOn_cons_eq_if_modifyHead] at inside
    split at inside
    case isTrue =>
      obtain rfl | inside := List.mem_cons.mp inside
      · exact List.not_mem_nil
      · exact ih chars inside
    case isFalse other =>
      -- the first character goes in front of the first part
      obtain ⟨head, parts, shape⟩ := List.exists_cons_of_ne_nil (List.splitOn_ne_nil sep rest)
      rw [shape, List.modifyHead_cons] at inside
      obtain rfl | inside := List.mem_cons.mp inside
      · refine List.not_mem_cons_of_ne_of_not_mem (fun same => other (beq_iff_eq.mpr same.symm)) (ih head ?_)
        rw [shape]
        exact List.mem_cons_self
      · refine ih chars ?_
        rw [shape]
        exact List.mem_cons_of_mem head inside

omit single in
theorem split_of_free {text : String} (free : sep ∉ text.toList) : split sep text = [text] := by
  unfold split
  rw [List.splitOn_eq_singleton free]
  simp

end Splits

section Patterns

/-- Whether a text follows a pattern. Only the star is special here: it stands for any text. -/
def globMatches : List Char → List Char → Bool
  | [], text => text.isEmpty
  | '*' :: pattern, text => text.tails.any (globMatches pattern)
  | _ :: _, [] => false
  | c :: pattern, d :: text => c == d && globMatches pattern text

theorem globMatches_star {pattern text : List Char} :
    globMatches ('*' :: pattern) text = true ↔
      ∃ skipped rest, text = skipped ++ rest ∧ globMatches pattern rest = true := by
  simp only [globMatches, List.any_eq_true, List.mem_tails]
  constructor
  · rintro ⟨rest, ⟨skipped, rfl⟩, found⟩
    exact ⟨skipped, rest, rfl, found⟩
  · rintro ⟨skipped, rest, rfl, found⟩
    exact ⟨rest, ⟨skipped, rfl⟩, found⟩

theorem globMatches_literal {start pattern text : List Char} (free : '*' ∉ start) :
    globMatches (start ++ pattern) text = true ↔
      ∃ rest, text = start ++ rest ∧ globMatches pattern rest = true := by
  induction start generalizing text with
  | nil => simp
  | cons c start ih =>
    rw [List.mem_cons, not_or] at free
    have notStar : c ≠ '*' := Ne.symm free.1
    cases text with
    | nil => simp [globMatches]
    | cons d text =>
      have step : globMatches (c :: start ++ pattern) (d :: text) =
          (c == d && globMatches (start ++ pattern) text) := by
        simp [globMatches]
      rw [step, Bool.and_eq_true, beq_iff_eq, ih free.2]
      constructor
      · rintro ⟨rfl, rest, rfl, found⟩
        exact ⟨rest, rfl, found⟩
      · rintro ⟨rest, same, found⟩
        obtain ⟨rfl, rfl⟩ := List.cons.inj same
        exact ⟨rfl, rest, rfl, found⟩

def glob (pattern text : String) : Bool := globMatches pattern.toList text.toList

/-- A pattern with one star asks for its two ends. -/
theorem glob_around_star {start stop text : String} (startFree : '*' ∉ start.toList)
    (stopFree : '*' ∉ stop.toList) :
    glob (start ++ "*" ++ stop) text = true ↔ ∃ middle, text = start ++ middle ++ stop := by
  have star : "*".toList = ['*'] := rfl
  unfold glob
  rw [String.toList_append, String.toList_append, star, List.append_assoc, List.singleton_append,
    globMatches_literal startFree]
  constructor
  -- the part after the star is matched to its end, so nothing is left behind it
  · rintro ⟨rest, whole, found⟩
    obtain ⟨skipped, tail, rfl, found⟩ := globMatches_star.mp found
    have ended : globMatches (stop.toList ++ []) tail = true := by rwa [List.append_nil]
    obtain ⟨left, rfl, atEnd⟩ := (globMatches_literal stopFree).mp ended
    have nothing : left = [] := by simpa [globMatches] using atEnd
    refine ⟨String.ofList skipped, ?_⟩
    simp [← String.toList_inj, whole, nothing]
  · rintro ⟨middle, rfl⟩
    refine ⟨middle.toList ++ stop.toList, by simp, globMatches_star.mpr ⟨_, _, rfl, ?_⟩⟩
    rw [← List.append_nil stop.toList, globMatches_literal stopFree]
    exact ⟨[], by simp, rfl⟩

end Patterns

end Wotemu.Foundation
