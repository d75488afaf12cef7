import Mathlib.Data.List.TakeWhile
import Wotemu.Foundation.Value

/-! JSON texts as Python reads them.

A text is cut into tokens first. Its numbers and names are the longest runs of
their characters, which changes no accepted text because two values never
follow each other directly. Half of a surrogate pair, which a string here cannot
hold, is not accepted.
-/

set_option autoImplicit false

namespace Wotemu.Foundation.Json

inductive Token where
  | openBrace
  | closeBrace
  | openBracket
  | closeBracket
  | colon
  | comma
  | text (s : String)
  | atom (value : Value)
  deriving DecidableEq

def isBlank (c : Char) : Bool := c = ' ' || c = '\t' || c = '\n' || c = '\r'

def punctuation (c : Char) : Option Token :=
  if c = '\x7b' then some .openBrace
  else if c = '\x7d' then some .closeBrace
  else if c = '[' then some .openBracket
  else if c = ']' then some .closeBracket
  else if c = ':' then some .colon
  else if c = ',' then some .comma
  else none

def isAtomChar (c : Char) : Bool := c.isAlphanum || c = '+' || c = '-' || c = '.'

section Atoms

def isExponent : List Char → Bool
  | [] => true
  | mark :: rest =>
    let digits := match rest with
      | '+' :: more => more
      | '-' :: more => more
      | more => more
    (mark = 'e' || mark = 'E') && digits ≠ [] && digits.all Char.isDigit

def isFraction (rest : List Char) : Bool :=
  match rest with
  | '.' :: more => more.takeWhile Char.isDigit ≠ [] && isExponent (more.dropWhile Char.isDigit)
  | more => isExponent more

/-- `float` is the representation of the float that the text of a number is read as. -/
def readNumber (float : String → String) (chars : List Char) : Option Value :=
  let negative := chars.head? = some '-'
  let unsigned := if negative then chars.tail else chars
  let whole := unsigned.takeWhile Char.isDigit
  let rest := unsigned.dropWhile Char.isDigit
  let magnitude := Int.ofNat (Nat.ofDigitChars 10 whole 0)
  if whole = [] || (whole.head? = some '0' && 1 < whole.length) then none
  else if rest = [] then some (.int (if negative then -magnitude else magnitude))
  else if isFraction rest then some (.float (float (String.ofList chars)))
  else none

def readAtom (float : String → String) (chars : List Char) : Option Value :=
  if chars = "null".toList then some .none
  else if chars = "true".toList then some (.bool true)
  else if chars = "false".toList then some (.bool false)
  else if chars = "NaN".toList then some (.float "nan")
  else if chars = "Infinity".toList then some (.float "inf")
  else if chars = "-Infinity".toList then some (.float "-inf")
  else readNumber float chars

end Atoms

section Strings

def isHigh (unit : Nat) : Bool := 0xD800 ≤ unit && unit ≤ 0xDBFF

def isLow (unit : Nat) : Bool := 0xDC00 ≤ unit && unit ≤ 0xDFFF

def decode : List Nat → Option (List Char)
  | [] => some []
  | [unit] => if isHigh unit || isLow unit then none else some [Char.ofNat unit]
  | high :: low :: rest =>
    if isHigh high && isLow low then
      (decode rest).map (Char.ofNat (0x10000 + (high - 0xD800) * 0x400 + (low - 0xDC00)) :: ·)
    else if isHigh high || isLow high then none
    else (decode (low :: rest)).map (Char.ofNat high :: ·)

def unescape (c : Char) : Option Nat :=
  if c = '"' || c = '\\' || c = '/' then some c.toNat
  else if c = 'b' then some 8
  else if c = 'f' then some 12
  else if c = 'n' then some 10
  else if c = 'r' then some 13
  else if c = 't' then some 9
  else none

def hexDigit (c : Char) : Option Nat :=
  if c.isDigit then some (c.toNat - '0'.toNat)
  else if 'a' ≤ c && c ≤ 'f' then some (c.toNat - 'a'.toNat + 10)
  else if 'A' ≤ c && c ≤ 'F' then some (c.toNat - 'A'.toNat + 10)
  else none

end Strings

inductive State where
  | blank
  | atom (chars : List Char)
  | text (units : List Nat)
  | escape (units : List Nat)
  | hex (units : List Nat) (value missing : Nat)

def start (c : Char) : Option (List Token × State) :=
  if isBlank c then some ([], .blank)
  else if c = '"' then some ([], .text [])
  else if isAtomChar c then some ([], .atom [c])
  else (punctuation c).map fun token => ([token], .blank)

def lex (float : String → String) : State → List Char → Option (List Token)
  | .blank, [] => some []
  | .atom chars, [] => (readAtom float chars).map fun value => [.atom value]
  | .text _, [] => none
  | .escape _, [] => none
  | .hex _ _ _, [] => none
  | .blank, c :: rest => match start c with
    | some (tokens, state) => (lex float state rest).map (tokens ++ ·)
    | none => none
  | .atom chars, c :: rest =>
    if isAtomChar c then lex float (.atom (chars ++ [c])) rest
    else match readAtom float chars, start c with
      | some value, some (tokens, state) => (lex float state rest).map (.atom value :: tokens ++ ·)
      | _, _ => none
  | .text units, c :: rest =>
    if c = '"' then match decode units with
      | some chars => (lex float .blank rest).map (.text (String.ofList chars) :: ·)
      | none => none
    else if c = '\\' then lex float (.escape units) rest
    else if c.toNat < 0x20 then none
    else lex float (.text (units ++ [c.toNat])) rest
  | .escape units, c :: rest =>
    if c = 'u' then lex float (.hex units 0 4) rest
    else match unescape c with
      | some unit => lex float (.text (units ++ [unit])) rest
      | none => none
  | .hex units value missing, c :: rest => match hexDigit c with
    | some digit =>
      if missing ≤ 1 then lex float (.text (units ++ [16 * value + digit])) rest
      else lex float (.hex units (16 * value + digit) (missing - 1)) rest
    | none => none

inductive Frame where
  | items (items : List Value)
  | member (entries : Dict String Value) (key : String)

def read : Option Value → List Frame → List Token → Option Value
  | some value, [], [] => some value
  | some value, .items items :: outer, .comma :: rest => read none (.items (items ++ [value]) :: outer) rest
  | some value, .items items :: outer, .closeBracket :: rest => read (some (.list (items ++ [value]))) outer rest
  | some value, .member entries key :: outer, .comma :: .text next :: .colon :: rest =>
    read none (.member (Dict.assign entries key value) next :: outer) rest
  | some value, .member entries key :: outer, .closeBrace :: rest =>
    read (some (.dict (Dict.assign entries key value))) outer rest
  | none, outer, .atom value :: rest => read (some value) outer rest
  | none, outer, .text s :: rest => read (some (.str s)) outer rest
  | none, outer, .openBracket :: .closeBracket :: rest => read (some (.list [])) outer rest
  | none, outer, .openBracket :: rest => read none (.items [] :: outer) rest
  | none, outer, .openBrace :: .closeBrace :: rest => read (some (.dict [])) outer rest
  | none, outer, .openBrace :: .text key :: .colon :: rest => read none (.member [] key :: outer) rest
  | _, _, _ => none

/-- `json.loads(text)` -/
def loads (float : String → String) (text : String) : Option Value :=
  (lex float .blank text.toList).bind (read none [])

section Written

variable {float : String → String}

def Unescaped (chars : List Char) : Prop := ∀ c ∈ chars, c ≠ '"' ∧ c ≠ '\\' ∧ 0x20 ≤ c.toNat

instance (chars : List Char) : Decidable (Unescaped chars) :=
  decidable_of_iff (chars.all (fun c => c ≠ '"' ∧ c ≠ '\\' ∧ 0x20 ≤ c.toNat) = true) (by simp [Unescaped])

theorem not_surrogate (c : Char) : isHigh c.toNat = false ∧ isLow c.toNat = false := by
  have valid : c.toNat < 0xD800 ∨ 0xDFFF < c.toNat ∧ c.toNat < 0x110000 := c.valid
  simp only [isHigh, isLow, Bool.and_eq_false_iff, decide_eq_false_iff_not]
  omega

theorem decode_map_toNat (chars : List Char) : decode (chars.map Char.toNat) = some chars := by
  induction chars with
  | nil => rfl
  | cons first rest ih =>
    have plain := not_surrogate first
    cases rest with
    | nil => simp [decode, plain]
    | cons second more =>
      have later := not_surrogate second
      simp only [List.map_cons] at ih ⊢
      rw [decode]
      simp [plain, later, ih]

theorem lex_text {chars : List Char} (plain : Unescaped chars) (units : List Nat) (rest : List Char) :
    lex float (.text units) (chars ++ '"' :: rest) =
      lex float (.text (units ++ chars.map Char.toNat)) ('"' :: rest) := by
  induction chars generalizing units with
  | nil => rw [List.nil_append, List.map_nil, List.append_nil]
  | cons c more ih =>
    obtain ⟨notQuote, notEscape, printed⟩ := plain c List.mem_cons_self
    rw [List.cons_append, lex, if_neg notQuote, if_neg notEscape, if_neg (by omega),
      ih (fun d member => plain d (List.mem_cons_of_mem _ member)), List.map_cons, List.append_assoc,
      List.singleton_append]

theorem lex_quoted {chars : List Char} (plain : Unescaped chars) (rest : List Char) :
    lex float .blank ('"' :: (chars ++ '"' :: rest)) =
      (lex float .blank rest).map (.text (String.ofList chars) :: ·) := by
  have opened : lex float .blank ('"' :: (chars ++ '"' :: rest)) =
      (lex float (.text []) (chars ++ '"' :: rest)).map ([] ++ ·) := rfl
  rw [opened, lex_text plain, List.nil_append, lex, if_pos rfl, decode_map_toNat, Option.map_map]
  rfl

theorem lex_atom {chars : List Char} (all : ∀ c ∈ chars, isAtomChar c = true) (read rest : List Char) :
    lex float (.atom read) (chars ++ rest) = lex float (.atom (read ++ chars)) rest := by
  induction chars generalizing read with
  | nil => rw [List.nil_append, List.append_nil]
  | cons c more ih =>
    rw [List.cons_append, lex, if_pos (all c List.mem_cons_self),
      ih (fun d member => all d (List.mem_cons_of_mem _ member)), List.append_assoc, List.singleton_append]

theorem isAtomChar_of_isDigit {c : Char} (digit : c.isDigit = true) : isAtomChar c = true := by
  simp [isAtomChar, Char.isAlphanum, digit]

theorem start_of_isDigit {c : Char} (digit : c.isDigit = true) : start c = some ([], .atom [c]) := by
  have different : ∀ other : Char, other.isDigit = false → c ≠ other := by
    intro other letter same
    rw [same, letter] at digit
    cases digit
  have blank : isBlank c = false := by
    simp [isBlank, different ' ' (by decide), different '\t' (by decide), different '\n' (by decide),
      different '\r' (by decide)]
  rw [start, if_neg (by simp [blank]), if_neg (different '"' (by decide)), if_pos (isAtomChar_of_isDigit digit)]

theorem eq_zero_of_head_toDigits {n : Nat} (head : (Nat.toDigits 10 n).head? = some '0') : n = 0 := by
  induction n using Nat.strongRecOn with
  | ind n ih =>
    by_cases small : n < 10
    · rw [Nat.toDigits_of_lt_base small, List.head?_cons, Option.some.injEq] at head
      have digits : ∀ m < 10, m.digitChar = '0' → m = 0 := by decide
      exact digits n small head
    · have large : 10 ≤ n := Nat.le_of_not_lt small
      rw [Nat.toDigits_of_base_le (by decide) large, List.head?_append_of_ne_nil _ Nat.toDigits_ne_nil] at head
      have none := ih (n / 10) (Nat.div_lt_self (by omega) (by decide)) head
      omega

theorem readNumber_toDigits (n : Nat) : readNumber float (Nat.toDigits 10 n) = some (.int n) := by
  have all : ∀ c ∈ Nat.toDigits 10 n, c.isDigit = true :=
    fun c member => Nat.isDigit_of_mem_toDigits (by decide) (by decide) member
  have unsigned : (Nat.toDigits 10 n).head? ≠ some '-' := by
    intro head
    have digit := all '-' (List.mem_of_mem_head? head)
    exact absurd digit (by decide)
  have whole : (Nat.toDigits 10 n).takeWhile Char.isDigit = Nat.toDigits 10 n := List.takeWhile_eq_self_iff.mpr all
  have rest : (Nat.toDigits 10 n).dropWhile Char.isDigit = [] := List.dropWhile_eq_nil_iff.mpr all
  have noLeadingZero : ¬ ((Nat.toDigits 10 n).head? = some '0' ∧ 1 < (Nat.toDigits 10 n).length) := by
    intro both
    have zero := eq_zero_of_head_toDigits both.1
    subst zero
    exact absurd both.2 (by decide)
  simp only [readNumber, unsigned, if_false, whole, rest, if_true]
  rw [if_neg]
  · rw [Nat.ofDigitChars_ten_toDigits]
    rfl
  · simpa [Nat.toDigits_ne_nil] using noLeadingZero

theorem readAtom_toDigits (n : Nat) : readAtom float (Nat.toDigits 10 n) = some (.int n) := by
  have other : ∀ name : List Char, name.all Char.isDigit = false → Nat.toDigits 10 n ≠ name := by
    intro name letters same
    have all : (Nat.toDigits 10 n).all Char.isDigit = true :=
      List.all_eq_true.mpr fun c member => Nat.isDigit_of_mem_toDigits (by decide) (by decide) member
    rw [same, letters] at all
    cases all
  rw [readAtom, if_neg (other _ (by decide)), if_neg (other _ (by decide)), if_neg (other _ (by decide)),
    if_neg (other _ (by decide)), if_neg (other _ (by decide)), if_neg (other _ (by decide)), readNumber_toDigits]

theorem lex_number (n : Nat) {c : Char} {tokens : List Token} {state : State} (outside : isAtomChar c = false)
    (begins : start c = some (tokens, state)) (rest : List Char) :
    lex float .blank (Nat.toDigits 10 n ++ c :: rest) = (lex float state rest).map (.atom (.int n) :: tokens ++ ·) := by
  have all : ∀ d ∈ Nat.toDigits 10 n, d.isDigit = true :=
    fun d member => Nat.isDigit_of_mem_toDigits (by decide) (by decide) member
  cases digits : Nat.toDigits 10 n with
  | nil => exact absurd digits Nat.toDigits_ne_nil
  | cons first more =>
    rw [digits] at all
    have isFirst : start first = some ([], .atom [first]) := start_of_isDigit (all first List.mem_cons_self)
    have atoms : ∀ d ∈ more, isAtomChar d = true :=
      fun d member => isAtomChar_of_isDigit (all d (List.mem_cons_of_mem _ member))
    rw [List.cons_append, lex, isFirst]
    simp only [List.nil_append, Option.map_id']
    rw [lex_atom atoms, List.singleton_append, ← digits, lex, if_neg (by simp [outside]), readAtom_toDigits, begins]

theorem lex_token {c : Char} {token : Token} (isToken : start c = some ([token], .blank)) (rest : List Char) :
    lex float .blank (c :: rest) = (lex float .blank rest).map (token :: ·) := by
  rw [lex, isToken]
  rfl

theorem lex_space (rest : List Char) : lex float .blank (' ' :: rest) = lex float .blank rest := by
  have blank : lex float .blank (' ' :: rest) = (lex float .blank rest).map ([] ++ ·) := rfl
  rw [blank]
  exact Option.map_id'

end Written

end Wotemu.Foundation.Json
