import Wotemu.Foundation.Value

/-! Documents as YAML loads them, and their JSON texts.

Beside the values of JSON there are dates, and the keys of a dictionary need
not be texts. A JSON text is kept as the value that it stands for.
-/

set_option autoImplicit false

namespace Wotemu.Foundation

inductive YamlKey where
  | str (s : String)
  | int (n : Int)
  | bool (b : Bool)
  | float (repr : String)
  | none
  | other (repr : String)
  deriving DecidableEq

inductive Yaml where
  | none
  | bool (b : Bool)
  | int (n : Int)
  | float (repr : String)
  | str (s : String)
  | date (text : String)
  | list (items : List Yaml)
  | dict (entries : List (YamlKey × Yaml))

/-- The text that `json.dumps` writes for a key. -/
def YamlKey.text : YamlKey → Except PyError String
  | str s => .ok s
  | int n => .ok (toString n)
  | bool b => .ok (if b then "true" else "false")
  | float repr => .ok repr
  | none => .ok "null"
  | other _ => .error .typeError

namespace Yaml

mutual
/-- `json.dumps` -/
def dumps : Yaml → Except PyError Value
  | none => .ok .none
  | bool b => .ok (.bool b)
  | int n => .ok (.int n)
  | float repr => .ok (.float repr)
  | str s => .ok (.str s)
  | date _ => .error .typeError
  | list items => do
    let values ← dumpsItems items
    return .list values
  | dict entries => do
    let values ← dumpsEntries entries
    return .dict values
def dumpsItems : List Yaml → Except PyError (List Value)
  | [] => .ok []
  | item :: rest => do
    let first ← dumps item
    let others ← dumpsItems rest
    return first :: others
def dumpsEntries : List (YamlKey × Yaml) → Except PyError (List (String × Value))
  | [] => .ok []
  | (key, item) :: rest => do
    let name ← key.text
    let first ← dumps item
    let others ← dumpsEntries rest
    return (name, first) :: others
end

mutual
/-- `json.loads` -/
def ofJson : Value → Yaml
  | .none => none
  | .bool b => bool b
  | .int n => int n
  | .float repr => float repr
  | .str s => str s
  | .list items => list (ofJsonItems items)
  | .dict entries => dict (ofJsonEntries entries)
def ofJsonItems : List Value → List Yaml
  | [] => []
  | item :: rest => ofJson item :: ofJsonItems rest
def ofJsonEntries : List (String × Value) → List (YamlKey × Yaml)
  | [] => []
  | (key, item) :: rest => (.str key, ofJson item) :: ofJsonEntries rest
end

mutual
theorem dumps_ofJson : ∀ value : Value, dumps (ofJson value) = .ok value
  | .none => rfl
  | .bool _ => rfl
  | .int _ => rfl
  | .float _ => rfl
  | .str _ => rfl
  | .list items => by
    rw [ofJson, dumps, dumpsItems_ofJsonItems items]
    rfl
  | .dict entries => by
    rw [ofJson, dumps, dumpsEntries_ofJsonEntries entries]
    rfl
theorem dumpsItems_ofJsonItems : ∀ items : List Value, dumpsItems (ofJsonItems items) = .ok items
  | [] => rfl
  | item :: rest => by
    rw [ofJsonItems, dumpsItems, dumps_ofJson item, dumpsItems_ofJsonItems rest]
    rfl
theorem dumpsEntries_ofJsonEntries : ∀ entries : List (String × Value),
    dumpsEntries (ofJsonEntries entries) = .ok entries
  | [] => rfl
  | (key, item) :: rest => by
    rw [ofJsonEntries, dumpsEntries, YamlKey.text, dumps_ofJson item, dumpsEntries_ofJsonEntries rest]
    rfl
end

/-- JSON keeps the document: its text stands for the document itself. -/
def Representable (content : Yaml) (text : Value) : Prop := dumps content = .ok text ∧ ofJson text = content

/-- Only the document's own text stands for it. -/
theorem representable_of_ofJson {content : Yaml} {text : Value} (loads : ofJson text = content) :
    Representable content text :=
  ⟨loads ▸ dumps_ofJson text, loads⟩

end Yaml

end Wotemu.Foundation
