import Mathlib.Data.List.Basic

/-! Integers as Python reads them from text.

Blanks around the number are dropped, a sign may come first, single
underscores may stand between digits, and every decimal digit of Unicode
counts as one.
-/

set_option autoImplicit false

namespace Wotemu.Foundation

/-- Where the blocks of ten decimal digits start. -/
def digitBlocks : List Nat :=
  [0x30, 0x660, 0x6F0, 0x7C0, 0x966, 0x9E6, 0xA66, 0xAE6, 0xB66, 0xBE6, 0xC66, 0xCE6, 0xD66, 0xDE6,
   0xE50, 0xED0, 0xF20, 0x1040, 0x1090, 0x17E0, 0x1810, 0x1946, 0x19D0, 0x1A80, 0x1A90, 0x1B50,
   0x1BB0, 0x1C40, 0x1C50, 0xA620, 0xA8D0, 0xA900, 0xA9D0, 0xA9F0, 0xAA50, 0xABF0, 0xFF10, 0x104A0,
   0x10D30, 0x11066, 0x110F0, 0x11136, 0x111D0, 0x112F0, 0x11450, 0x114D0, 0x11650, 0x116C0, 0x11730,
   0x118E0, 0x11C50, 0x11D50, 0x11DA0, 0x16A60, 0x16B50, 0x1D7CE, 0x1D7D8, 0x1D7E2, 0x1D7EC, 0x1D7F6,
   0x1E140, 0x1E2F0, 0x1E950]

def decimalDigit (c : Char) : Option Nat :=
  (digitBlocks.find? fun start => start ≤ c.toNat ∧ c.toNat < start + 10).map fun start => c.toNat - start

/-- What `str.strip` removes. -/
def isSpace (c : Char) : Bool :=
  let n := c.toNat
  (9 ≤ n && n ≤ 13) || (28 ≤ n && n ≤ 32) || n = 0x85 || n = 0xA0 || n = 0x1680 ||
    (0x2000 ≤ n && n ≤ 0x200A) || n = 0x2028 || n = 0x2029 || n = 0x202F || n = 0x205F || n = 0x3000

/-- What may stand around a number: `int` keeps the separators of ASCII. -/
def isBlank (c : Char) : Bool := isSpace c && !(28 ≤ c.toNat && c.toNat ≤ 31)

/-- `text.strip()`, for the blanks that are meant. -/
def strip (blank : Char → Bool) (text : List Char) : List Char :=
  ((text.dropWhile blank).reverse.dropWhile blank).reverse

def readDigits (value : Nat) : List Char → Option Nat
  | [] => some value
  | '_' :: c :: rest => (decimalDigit c).bind fun digit => readDigits (10 * value + digit) rest
  | c :: rest => (decimalDigit c).bind fun digit => readDigits (10 * value + digit) rest

def readUnsigned : List Char → Option Nat
  | [] => none
  | c :: rest => (decimalDigit c).bind fun digit => readDigits digit rest

/-- `int(text)` -/
def parseInt (text : String) : Option Int :=
  match strip isBlank text.toList with
  | '+' :: rest => (readUnsigned rest).map Int.ofNat
  | '-' :: rest => (readUnsigned rest).map fun n => -Int.ofNat n
  | rest => (readUnsigned rest).map Int.ofNat

section Written

theorem decimalDigit_of_isDigit {c : Char} (digit : c.isDigit = true) :
    decimalDigit c = some (c.toNat - '0'.toNat) := by
  rw [Char.isDigit_iff_toNat] at digit
  have first : digitBlocks.find? (fun start => start ≤ c.toNat ∧ c.toNat < start + 10) = some 0x30 := by
    have inside : 0x30 ≤ c.toNat ∧ c.toNat < 0x30 + 10 := ⟨digit.1, Nat.lt_succ_of_le digit.2⟩
    exact List.find?_cons_of_pos (by simpa using inside)
  rw [decimalDigit, first]
  rfl

theorem foldl_of_isDigit {digits : List Char} (all : ∀ c ∈ digits, c.isDigit = true) (value : Nat) :
    digits.foldl (fun value c => 10 * value + (decimalDigit c).getD 0) value = Nat.ofDigitChars 10 digits value := by
  induction digits generalizing value with
  | nil => rfl
  | cons c rest ih =>
    rw [List.foldl_cons, Nat.ofDigitChars_cons, decimalDigit_of_isDigit (all c List.mem_cons_self)]
    exact ih (fun d member => all d (List.mem_cons_of_mem _ member)) _

theorem isBlank_of_isDigit {c : Char} (digit : c.isDigit = true) : isBlank c = false := by
  rw [Char.isDigit_iff_toNat] at digit
  have bounds : 48 ≤ c.toNat ∧ c.toNat ≤ 57 := digit
  have space : isSpace c = false := by
    simp only [isSpace, Bool.or_eq_false_iff, Bool.and_eq_false_iff, decide_eq_false_iff_not]
    omega
  rw [isBlank, space, Bool.false_and]

theorem readDigits_of_isDigit {value : Nat} {digits : List Char} (all : ∀ c ∈ digits, c.isDigit = true) :
    readDigits value digits = some (Nat.ofDigitChars 10 digits value) := by
  induction digits generalizing value with
  | nil => rfl
  | cons c rest ih =>
    have digit := all c List.mem_cons_self
    have later : readDigits (10 * value + (c.toNat - '0'.toNat)) rest =
        some (Nat.ofDigitChars 10 rest (10 * value + (c.toNat - '0'.toNat))) :=
      ih fun d member => all d (List.mem_cons_of_mem _ member)
    have other : c ≠ '_' := by
      intro same
      rw [same] at digit
      exact absurd digit (by decide)
    rw [readDigits, decimalDigit_of_isDigit digit, Option.bind_some, later, Nat.ofDigitChars_cons]
    intro _ _ same
    exact absurd same other

theorem strip_of_isDigit {digits : List Char} (all : ∀ c ∈ digits, c.isDigit = true) :
    strip isBlank digits = digits := by
  have kept : ∀ text : List Char, (∀ c ∈ text, c.isDigit = true) → text.dropWhile isBlank = text := by
    intro text inside
    cases text with
    | nil => rfl
    | cons c rest =>
      exact List.dropWhile_cons_of_neg (by simp [isBlank_of_isDigit (inside c List.mem_cons_self)])
  unfold strip
  rw [kept digits all, kept digits.reverse fun c member => all c (List.mem_reverse.mp member), List.reverse_reverse]

theorem parseInt_of_isDigit {text : String} (nonempty : text.toList ≠ []) (all : ∀ c ∈ text.toList, c.isDigit = true) :
    parseInt text = some (Int.ofNat (Nat.ofDigitChars 10 text.toList 0)) := by
  unfold parseInt
  rw [strip_of_isDigit all]
  cases read : text.toList with
  | nil => exact absurd read nonempty
  | cons c rest =>
    rw [read] at all
    have digit := all c List.mem_cons_self
    have later : readDigits (c.toNat - '0'.toNat) rest = some (Nat.ofDigitChars 10 rest (c.toNat - '0'.toNat)) :=
      readDigits_of_isDigit fun d member => all d (List.mem_cons_of_mem _ member)
    have plus : c ≠ '+' := by
      intro same
      rw [same] at digit
      exact absurd digit (by decide)
    have minus : c ≠ '-' := by
      intro same
      rw [same] at digit
      exact absurd digit (by decide)
    rw [Nat.ofDigitChars_cons, Nat.mul_zero, Nat.zero_add]
    split
    · rename_i same
      exact absurd (List.cons.inj same).1 plus
    · rename_i same
      exact absurd (List.cons.inj same).1 minus
    · rw [readUnsigned, decimalDigit_of_isDigit digit, Option.bind_some, later]
      rfl

theorem parseInt_toString (n : Nat) : parseInt (toString (Int.ofNat n)) = some (Int.ofNat n) := by
  have text : (toString (Int.ofNat n)).toList = Nat.toDigits 10 n := Nat.toList_repr
  have all : ∀ c ∈ (toString (Int.ofNat n)).toList, c.isDigit = true := by
    intro c member
    rw [text] at member
    exact Nat.isDigit_of_mem_toDigits (by decide) (by decide) member
  rw [parseInt_of_isDigit (by rw [text]; exact Nat.toDigits_ne_nil) all, text, Nat.ofDigitChars_ten_toDigits]

end Written

end Wotemu.Foundation
