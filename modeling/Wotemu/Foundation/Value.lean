import Wotemu.Foundation.Dict

/-! The Python values that configuration dictionaries hold.

A float is kept as its shortest representation, which determines it. Lists and
dictionaries are values without identity: no modelled operation compares them
with `is`.
-/

set_option autoImplicit false

namespace Wotemu.Foundation

inductive Value where
  | none
  | bool (b : Bool)
  | int (n : Int)
  | float (repr : String)
  | str (s : String)
  | list (items : List Value)
  | dict (entries : List (String × Value))
  deriving Repr

-- Lists of values and of entries are compared element by element, so the three
-- procedures recurse through each other.
mutual
private def valueDecEq (a b : Value) : Decidable (a = b) :=
  match a, b with
  | .none, .none => isTrue rfl
  | .bool x, .bool y => decidable_of_iff (x = y) (by simp)
  | .int x, .int y => decidable_of_iff (x = y) (by simp)
  | .float x, .float y => decidable_of_iff (x = y) (by simp)
  | .str x, .str y => decidable_of_iff (x = y) (by simp)
  | .list xs, .list ys =>
    haveI := valuesDecEq xs ys
    decidable_of_iff (xs = ys) (by simp)
  | .dict xs, .dict ys =>
    haveI := entriesDecEq xs ys
    decidable_of_iff (xs = ys) (by simp)
  | .none, .bool _ | .none, .int _ | .none, .float _ | .none, .str _ | .none, .list _ | .none, .dict _
  | .bool _, .none | .bool _, .int _ | .bool _, .float _ | .bool _, .str _ | .bool _, .list _
  | .bool _, .dict _ | .int _, .none | .int _, .bool _ | .int _, .float _ | .int _, .str _
  | .int _, .list _ | .int _, .dict _ | .float _, .none | .float _, .bool _ | .float _, .int _
  | .float _, .str _ | .float _, .list _ | .float _, .dict _ | .str _, .none | .str _, .bool _
  | .str _, .int _ | .str _, .float _ | .str _, .list _ | .str _, .dict _ | .list _, .none
  | .list _, .bool _ | .list _, .int _ | .list _, .float _ | .list _, .str _ | .list _, .dict _
  | .dict _, .none | .dict _, .bool _ | .dict _, .int _ | .dict _, .float _ | .dict _, .str _
  | .dict _, .list _ => isFalse (by intro h; cases h)
private def valuesDecEq (xs ys : List Value) : Decidable (xs = ys) :=
  match xs, ys with
  | [], [] => isTrue rfl
  | x :: xs, y :: ys =>
    haveI := valueDecEq x y
    haveI := valuesDecEq xs ys
    decidable_of_iff (x = y ∧ xs = ys) (by simp)
  | [], _ :: _ | _ :: _, [] => isFalse (by intro h; cases h)
private def entriesDecEq (xs ys : List (String × Value)) : Decidable (xs = ys) :=
  match xs, ys with
  | [], [] => isTrue rfl
  | (k, x) :: xs, (l, y) :: ys =>
    haveI := valueDecEq x y
    haveI := entriesDecEq xs ys
    decidable_of_iff (k = l ∧ x = y ∧ xs = ys) (by simp [and_assoc])
  | [], _ :: _ | _ :: _, [] => isFalse (by intro h; cases h)
end

instance : DecidableEq Value := valueDecEq

inductive PyError where
  | assertionError
  | attributeError
  | indexError
  | keyError (key : String)
  | runtimeError
  | stopIteration
  | typeError
  | valueError
  deriving DecidableEq, Repr

theorem bind_ok_iff {ε α β : Type} {x : Except ε α} {f : α → Except ε β} {result : β} :
    (x >>= f) = .ok result ↔ ∃ value, x = .ok value ∧ f value = .ok result := by
  cases x with
  | error why => exact iff_of_false (fun ok => by cases ok) fun ⟨_, ok, _⟩ => by cases ok
  | ok value => exact ⟨fun ok => ⟨value, rfl, ok⟩, fun ⟨_, same, ok⟩ => by cases same; exact ok⟩

theorem bind_ok {ε α β : Type} {x : Except ε α} {f : α → Except ε β} {result : β}
    (ok : (x >>= f) = .ok result) : ∃ value, x = .ok value ∧ f value = .ok result :=
  bind_ok_iff.mp ok

theorem toOption_eq_some {ε α : Type} {x : Except ε α} {value : α} : x.toOption = some value ↔ x = .ok value := by
  cases x with
  | error => exact iff_of_false nofun nofun
  | ok found =>
    constructor
    · intro same
      rw [Option.some.inj same]
    · intro same
      rw [Except.ok.inj same]
      rfl

theorem exists_bind {ε α β : Type} {x : Except ε α} {f : α → Except ε β} (first : ∃ value, x = .ok value)
    (second : ∀ value, ∃ result, f value = .ok result) : ∃ result, (x >>= f) = .ok result := by
  obtain ⟨value, rfl⟩ := first
  exact second value

theorem mapM_ok_iff {α β : Type} {f : α → Except PyError β} {items : List α} {results : List β} :
    items.mapM f = .ok results ↔ List.Forall₂ (fun item result => f item = .ok result) items results := by
  induction items generalizing results with
  | nil =>
    cases results with
    | nil => exact iff_of_true rfl .nil
    | cons result others => exact iff_of_false (by simp [pure, Except.pure]) fun all => by cases all
  | cons first rest ih =>
    rw [List.mapM_cons]
    constructor
    · intro made
      obtain ⟨head, here, made⟩ := bind_ok made
      obtain ⟨tail, later, made⟩ := bind_ok made
      cases made
      exact .cons here (ih.mp later)
    · intro made
      cases made with
      | cons here later =>
        rw [here, ih.mpr later]
        rfl

theorem exists_of_forall₂ {α β : Type} {R : α → β → Prop} {items : List α} {results : List β}
    (all : List.Forall₂ R items results) {item : α} (member : item ∈ items) : ∃ result, R item result := by
  induction all with
  | nil => cases member
  | cons here _ ih =>
    cases List.mem_cons.mp member with
    | inl same => exact same ▸ ⟨_, here⟩
    | inr later => exact ih later

theorem forall₂_imp_of_mem {α β : Type} {R S : α → β → Prop} {items : List α} {results : List β}
    (all : List.Forall₂ R items results) (imp : ∀ item result, item ∈ items → R item result → S item result) :
    List.Forall₂ S items results := by
  induction all with
  | nil => exact .nil
  | cons here _ ih =>
    exact .cons (imp _ _ List.mem_cons_self here)
      (ih fun item result member => imp item result (List.mem_cons_of_mem _ member))

namespace Value

def truthy : Value → Bool
  | none => false
  | bool b => b
  | int n => n != 0
  | float repr => repr != "0.0" && repr != "-0.0"
  | str s => s != ""
  | list items => !items.isEmpty
  | dict entries => !entries.isEmpty

/-- Controls, format characters, separators other than the space, and what is for private use. -/
def nonPrintable : List (Nat × Nat) :=
  [(0x0, 0x1F), (0x7F, 0xA0), (0xAD, 0xAD), (0x600, 0x605), (0x61C, 0x61C), (0x6DD, 0x6DD), (0x70F, 0x70F),
   (0x890, 0x891), (0x8E2, 0x8E2), (0x1680, 0x1680), (0x180E, 0x180E), (0x2000, 0x200F), (0x2028, 0x202F),
   (0x205F, 0x206F), (0x3000, 0x3000), (0xE000, 0xF8FF), (0xFEFF, 0xFEFF), (0xFFF9, 0xFFFB), (0x110BD, 0x110BD),
   (0x110CD, 0x110CD), (0x13430, 0x1343F), (0x1BCA0, 0x1BCA3), (0x1D173, 0x1D17A), (0xE0001, 0xE0001),
   (0xE0020, 0xE007F), (0xF0000, 0x10FFFF)]

/-- `\x1f`, `\u200b` or `\U000e0001`: the code in two, four or eight digits. -/
def reprEscape (code : Nat) : String :=
  let (mark, width) := if code < 0x100 then ("\\x", 2) else if code < 0x10000 then ("\\u", 4) else ("\\U", 8)
  mark ++ String.ofList ((Nat.toDigits 16 code).leftpad width '0')

/-- How `repr` writes one character of a string quoted with `quote`. Codes that Unicode has not
assigned yet are written as they are. -/
def reprChar (quote c : Char) : String :=
  if c = '\\' then "\\\\"
  else if c = quote then "\\" ++ String.singleton c
  else if c = '\n' then "\\n"
  else if c = '\r' then "\\r"
  else if c = '\t' then "\\t"
  else if nonPrintable.any fun range => range.1 ≤ c.toNat ∧ c.toNat ≤ range.2 then reprEscape c.toNat
  else String.singleton c

def reprStr (s : String) : String :=
  let quote := if s.toList.contains '\'' && !s.toList.contains '"' then '"' else '\''
  String.singleton quote ++ String.join (s.toList.map (reprChar quote)) ++ String.singleton quote

mutual
def pyRepr : Value → String
  | none => "None"
  | bool b => if b then "True" else "False"
  | int n => toString n
  | float repr => repr
  | str s => reprStr s
  | list items => "[" ++ String.intercalate ", " (pyReprItems items) ++ "]"
  | dict entries => "\x7b" ++ String.intercalate ", " (pyReprEntries entries) ++ "\x7d"
def pyReprItems : List Value → List String
  | [] => []
  | item :: rest => pyRepr item :: pyReprItems rest
def pyReprEntries : List (String × Value) → List String
  | [] => []
  | (key, value) :: rest => (reprStr key ++ ": " ++ pyRepr value) :: pyReprEntries rest
end

/-- `str(value)`: a string is itself, everything else its representation. -/
def pyStr : Value → String
  | str s => s
  | value => pyRepr value

def strings : Value → List String
  | list items => items.filterMap fun
    | str s => some s
    | _ => Option.none
  | _ => []

def ofStrings (names : List String) : Value := list (names.map str)

@[simp] theorem strings_ofStrings (names : List String) : (ofStrings names).strings = names := by
  simp [ofStrings, strings, List.filterMap_map]

def field (value : Value) (key : String) : Option Value :=
  match value with
  | dict entries => Dict.value? entries key
  | _ => Option.none

def listed (value : Value) (key : String) : List String :=
  ((value.field key).getD (list [])).strings

/-- One element of a sequence of pairs given to `dict.update`. -/
def asPair : Value → Except PyError (String × Value)
  | list [str key, value] => .ok (key, value)
  | list [_, _] => .error .typeError
  | dict [(key, _), (value, _)] => .ok (key, str value)
  | str s => match s.toList with
    | [key, value] => .ok (String.singleton key, str (String.singleton value))
    | _ => .error .valueError
  | list _ | dict _ => .error .valueError
  | _ => .error .typeError

/-- The entries that `dict.update(value)` writes. -/
def asEntries : Value → Except PyError (Dict String Value)
  | dict entries => .ok entries
  | list items => items.mapM asPair
  | str s => if s = "" then .ok [] else .error .valueError
  | _ => .error .typeError

/-- `value[key]` with a string key. -/
def item (value : Value) (key : String) : Except PyError Value :=
  match value with
  | dict entries => match Dict.value? entries key with
    | some found => .ok found
    | Option.none => .error (.keyError key)
  | _ => .error .typeError

end Value

/-- `get(key)` with an empty default, where only a dictionary can be stored under the key. -/
def Dict.entriesAt (entries : Dict String Value) (key : String) : Dict String Value :=
  match Dict.value? entries key with
  | some (.dict found) => found
  | _ => []

/-! The merge of configuration values: dictionaries are merged key by key, lists
are joined, and everything else is replaced. -/

namespace Value

mutual
def merge (base next : Value) : Value :=
  match next with
  | dict later => match base with
    | dict entries => dict (mergeEntries entries later)
    | _ => dict later
  | list later => match base with
    | list items => list (items ++ later)
    | _ => list later
  | later => later
def mergeEntries (base later : List (String × Value)) : List (String × Value) :=
  match later with
  | [] => base
  | (key, value) :: rest =>
    let merged := match Dict.value? base key with
      | some old => merge old value
      | Option.none => value
    mergeEntries (Dict.assign base key merged) rest
end

/-- The keys of a dictionary are distinct, and so are those of the dictionaries under them. -/
inductive Distinct : Value → Prop where
  | plain {value : Value} (noDict : ∀ entries, value ≠ dict entries) : Distinct value
  | dict {entries : Dict String Value} (nodup : (Dict.keys entries).Nodup)
      (each : ∀ entry ∈ entries, Distinct entry.2) : Distinct (dict entries)

theorem Distinct.of_dict {entries : Dict String Value} (distinct : (Value.dict entries).Distinct) :
    (Dict.keys entries).Nodup ∧ ∀ entry ∈ entries, entry.2.Distinct := by
  cases distinct with
  | plain noDict => exact absurd rfl (noDict entries)
  | dict nodup each => exact ⟨nodup, each⟩

theorem mergeEntries_frame {base later : Dict String Value} {key : String}
    (absent : key ∉ Dict.keys later) :
    Dict.value? (mergeEntries base later) key = Dict.value? base key := by
  induction later generalizing base with
  | nil => rfl
  | cons entry rest ih =>
    obtain ⟨other, value⟩ := entry
    rw [Dict.keys_cons, List.mem_cons, not_or] at absent
    unfold mergeEntries
    rw [ih absent.2, Dict.value?_assign_of_ne absent.1]

end Value

end Wotemu.Foundation
