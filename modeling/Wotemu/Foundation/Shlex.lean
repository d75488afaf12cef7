import Mathlib.Algebra.GroupWithZero.Nat
import Mathlib.Data.List.Basic

/-! Command lines split into words by the quoting rules of a shell.

A line that joins words with single blanks is split into the same words exactly
when these are plain: no quote or backslash can disappear without making the
result shorter than the line.
-/

set_option autoImplicit false

namespace Wotemu.Foundation.Shlex

def isBlank (c : Char) : Bool := c = ' ' || c = '\t' || c = '\r' || c = '\n'

def isQuote (c : Char) : Bool := c = '\'' || c = '"'

/-- Between words, in one, between quotes, or behind a backslash, which returns to the quotes
that it was found in. -/
inductive State where
  | blank
  | word
  | quoted (quote : Char)
  | escaped (quote : Option Char)

/-- The words of the rest of a line behind the characters of a word that was begun. A line that
ends between quotes or behind a backslash has none. -/
def words : State → List Char → List Char → Option (List (List Char))
  | .blank, _, [] => some []
  | .word, token, [] => some [token]
  | .quoted _, _, [] => none
  | .escaped _, _, [] => none
  | .blank, _, c :: rest =>
    if isBlank c then words .blank [] rest
    else if c = '\\' then words (.escaped none) [] rest
    else if isQuote c then words (.quoted c) [] rest
    else words .word [c] rest
  | .word, token, c :: rest =>
    if isBlank c then (words .blank [] rest).map (token :: ·)
    else if c = '\\' then words (.escaped none) token rest
    else if isQuote c then words (.quoted c) token rest
    else words .word (token ++ [c]) rest
  | .quoted quote, token, c :: rest =>
    if c = quote then words .word token rest
    -- only double quotes let a backslash escape
    else if c = '\\' ∧ quote = '"' then words (.escaped (some quote)) token rest
    else words (.quoted quote) (token ++ [c]) rest
  | .escaped none, token, c :: rest => words .word (token ++ [c]) rest
  | .escaped (some quote), token, c :: rest =>
    if c = '\\' ∨ c = quote then words (.quoted quote) (token ++ [c]) rest
    else words (.quoted quote) (token ++ ['\\', c]) rest

/-- `shlex.split(line)` -/
def split (line : String) : Option (List String) := (words .blank [] line.toList).map (List.map String.ofList)

def ordinary (c : Char) : Bool := !isBlank c && c ≠ '\\' && !isQuote c

def PlainChars (word : List Char) : Prop := word ≠ [] ∧ ∀ c ∈ word, ordinary c = true

def Plain (word : String) : Prop := PlainChars word.toList

instance (word : String) : Decidable (Plain word) :=
  decidable_of_iff (word.toList ≠ [] ∧ word.toList.all ordinary = true) (by simp [Plain, PlainChars])

section Joined

variable {token rest : List Char} {out : List (List Char)}

theorem words_ordinary {word : List Char} (all : ∀ c ∈ word, ordinary c = true) :
    words .word token (word ++ rest) = words .word (token ++ word) rest := by
  induction word generalizing token with
  | nil => rw [List.nil_append, List.append_nil]
  | cons c more ih =>
    have here := all c List.mem_cons_self
    simp only [ordinary, Bool.and_eq_true, Bool.not_eq_true', decide_eq_true_eq] at here
    rw [List.cons_append, words, if_neg (by simp [here]), if_neg (by simp [here]), if_neg (by simp [here]),
      ih fun d member => all d (List.mem_cons_of_mem _ member), List.append_assoc, List.singleton_append]

theorem words_plain {word : List Char} (plain : PlainChars word) :
    words .blank token (word ++ rest) = words .word word rest := by
  obtain ⟨nonempty, all⟩ := plain
  cases word with
  | nil => exact absurd rfl nonempty
  | cons c more =>
    have here := all c List.mem_cons_self
    simp only [ordinary, Bool.and_eq_true, Bool.not_eq_true', decide_eq_true_eq] at here
    rw [List.cons_append, words, if_neg (by simp [here]), if_neg (by simp [here]), if_neg (by simp [here]),
      words_ordinary fun d member => all d (List.mem_cons_of_mem _ member), List.singleton_append]

theorem words_join {line : List (List Char)} (plain : ∀ word ∈ line, PlainChars word) :
    words .blank [] (List.intercalate [' '] line) = some line := by
  induction line with
  | nil => rfl
  | cons word rest ih =>
    have later := ih fun other member => plain other (List.mem_cons_of_mem _ member)
    have here := plain word List.mem_cons_self
    cases rest with
    | nil =>
      have single : List.intercalate [' '] [word] = word ++ [] := by simp
      rw [single, words_plain here]
      rfl
    | cons next others =>
      have joined : List.intercalate [' '] (word :: next :: others) =
          word ++ ' ' :: List.intercalate [' '] (next :: others) := by simp
      rw [joined, words_plain here, words, if_pos (by decide), later]
      rfl

def size (out : List (List Char)) : Nat := (out.map fun word => word.length + 1).sum

/-- The most that a rest of the line can add to. Closing the quotes takes one character. -/
def State.room (state : State) (token chars : List Char) : Nat :=
  match state with
  | .blank => chars.length + 1
  | .word => token.length + chars.length + 1
  | .quoted _ => token.length + chars.length
  | .escaped _ => token.length + chars.length + 1

/-- What a character does: it leads to a state with no more room than before, or it ends a word. -/
theorem words_cons {state : State} {c : Char} (made : words state token (c :: rest) = some out) :
    (∃ next more, words next more rest = some out ∧ next.room more rest ≤ state.room token (c :: rest)) ∨
      ∃ others, state = .word ∧ words .blank [] rest = some others ∧ out = token :: others := by
  have leads {next : State} {more : List Char} (made : words next more rest = some out)
      (room : next.room more rest ≤ state.room token (c :: rest)) :
      (∃ next more, words next more rest = some out ∧ next.room more rest ≤ state.room token (c :: rest)) ∨
        ∃ others, state = .word ∧ words .blank [] rest = some others ∧ out = token :: others :=
    .inl ⟨next, more, made, room⟩
  have counts (more : List Char) : (more ++ [c]).length = more.length + 1 ∧
      (more ++ ['\\', c]).length = more.length + 2 := by simp
  cases state with
  | blank =>
    rw [words] at made
    split_ifs at made <;> exact leads made (by simp only [State.room, List.length_cons, List.length_nil]; omega)
  | word =>
    rw [words] at made
    split_ifs at made
    case pos blank =>
      obtain ⟨others, later, rfl⟩ := Option.map_eq_some_iff.mp made
      exact .inr ⟨others, rfl, later, rfl⟩
    all_goals exact leads made (by simp only [State.room, List.length_cons, counts]; omega)
  | quoted quote =>
    rw [words] at made
    split_ifs at made <;> exact leads made (by simp only [State.room, List.length_cons, counts]; omega)
  | escaped back =>
    cases back with
    | none => exact leads made (by simp only [State.room, List.length_cons, counts]; omega)
    | some quote =>
      rw [words] at made
      split_ifs at made <;> exact leads made (by simp only [State.room, List.length_cons, counts]; omega)

/-- No line gives more words than its blanks allow, and quotes and backslashes take from them. -/
theorem size_le {state : State} {chars : List Char} (made : words state token chars = some out) :
    size out ≤ state.room token chars := by
  induction chars generalizing state token out with
  | nil =>
    cases state with
    | blank =>
      cases made
      exact Nat.zero_le _
    | word =>
      cases made
      simp [size, State.room]
    | quoted quote => cases made
    | escaped back => cases made
  | cons c rest ih =>
    obtain ⟨next, more, made, room⟩ | ⟨others, rfl, later, rfl⟩ := words_cons made
    · exact Nat.le_trans (ih made) room
    · have bound := ih later
      simp only [size, State.room, List.map_cons, List.sum_cons, List.length_cons] at bound ⊢
      omega

/-- A line that gives as much as it can has only ordinary characters and single blanks. -/
theorem plain_of_size {chars : List Char} :
    (words .blank token chars = some out → size out = chars.length + 1 → ∀ word ∈ out, PlainChars word) ∧
    (PlainChars token → words .word token chars = some out → size out = token.length + chars.length + 1 →
      ∀ word ∈ out, PlainChars word) := by
  induction chars generalizing token out with
  | nil =>
    constructor
    · intro made _ word member
      cases made
      cases member
    · intro plain made _ word member
      cases made
      exact List.mem_singleton.mp member ▸ plain
  | cons c rest ih =>
    constructor
    · intro made full
      rw [words] at made
      -- a second blank, a backslash and a quote all leave less than the line has
      split at made
      · have bound := size_le made
        simp only [State.room, List.length_cons] at bound full
        omega
      · rename_i notBlank
        split at made
        · have bound := size_le made
          simp only [State.room, List.length_cons, List.length_nil] at bound full
          omega
        · rename_i notEscape
          split at made
          · have bound := size_le made
            simp only [State.room, List.length_cons, List.length_nil] at bound full
            omega
          · rename_i notQuote
            have plain : PlainChars [c] := by
              refine ⟨by simp, fun d member => ?_⟩
              rw [List.mem_singleton.mp member, ordinary]
              simp [notBlank, notEscape, notQuote]
            refine ih.2 plain made ?_
            simp only [List.length_cons, List.length_nil] at full ⊢
            omega
    · intro plain made full
      rw [words] at made
      split at made
      · obtain ⟨others, later, rfl⟩ := Option.map_eq_some_iff.mp made
        have rest : size others = rest.length + 1 := by
          simp only [size, List.map_cons, List.sum_cons, List.length_cons] at full ⊢
          omega
        intro word member
        cases List.mem_cons.mp member with
        | inl same => exact same ▸ plain
        | inr inside => exact ih.1 later rest word inside
      · rename_i notBlank
        split at made
        · have bound := size_le made
          simp only [State.room, List.length_cons] at bound full
          omega
        · rename_i notEscape
          split at made
          · have bound := size_le made
            simp only [State.room, List.length_cons] at bound full
            omega
          · rename_i notQuote
            have more : PlainChars (token ++ [c]) := by
              refine ⟨by simp, fun d member => ?_⟩
              cases List.mem_append.mp member with
              | inl before => exact plain.2 d before
              | inr last =>
                rw [List.mem_singleton.mp last, ordinary]
                simp [notBlank, notEscape, notQuote]
            refine ih.2 more made ?_
            simp only [List.length_append, List.length_cons, List.length_nil] at full ⊢
            omega

theorem size_join {line : List (List Char)} (nonempty : line ≠ []) :
    size line = (List.intercalate [' '] line).length + 1 := by
  induction line with
  | nil => exact absurd rfl nonempty
  | cons word rest ih =>
    cases rest with
    | nil => simp [size]
    | cons next others =>
      have joined : List.intercalate [' '] (word :: next :: others) =
          word ++ ' ' :: List.intercalate [' '] (next :: others) := by simp
      have later := ih (by simp)
      simp only [size, List.map_cons, List.sum_cons] at later ⊢
      rw [joined, List.length_append, List.length_cons, later]
      omega

/-- A line of words with single blanks between them is split into these words exactly when they
are plain. -/
theorem split_eq_iff {line : String} {parts : List String}
    (joined : line.toList = List.intercalate [' '] (parts.map String.toList)) (nonempty : parts ≠ []) :
    split line = some parts ↔ ∀ part ∈ parts, Plain part := by
  have chars : (parts.map String.toList).map String.ofList = parts := by
    rw [List.map_map]
    have same : String.ofList ∘ String.toList = id := by
      funext part
      exact String.ofList_toList
    rw [same, List.map_id]
  have listed : split line = some parts ↔ words .blank [] line.toList = some (parts.map String.toList) := by
    unfold split
    constructor
    · intro made
      obtain ⟨out, here, same⟩ := Option.map_eq_some_iff.mp made
      rw [here, ← same, List.map_map]
      have back : String.toList ∘ String.ofList = id := by
        funext word
        exact String.toList_ofList
      rw [back, List.map_id]
    · intro made
      rw [made, Option.map_some, chars]
  have nonemptyChars : parts.map String.toList ≠ [] := by
    intro none
    exact nonempty (List.map_eq_nil_iff.mp none)
  rw [listed, joined]
  constructor
  · intro made part member
    exact plain_of_size.1 made (size_join nonemptyChars) part.toList (List.mem_map_of_mem member)
  · intro plain
    apply words_join
    intro word member
    obtain ⟨part, inside, rfl⟩ := List.mem_map.mp member
    exact plain part inside

end Joined

end Wotemu.Foundation.Shlex
