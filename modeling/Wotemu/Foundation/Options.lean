import Mathlib.Data.List.Basic
import Mathlib.Data.List.TakeWhile

/-! Command lines with long options, each of which takes a declared number of values.

An option takes the arguments after it whatever they look like. Two dashes end
the options, and any other argument without a dash is left over.
-/

set_option autoImplicit false

namespace Wotemu.Foundation

/-- A long option with its dashes, and how many values it takes; a flag takes none. -/
structure OptionSpec where
  name : String
  nargs : Nat
  deriving DecidableEq

structure OptionUse where
  name : String
  values : List String
  deriving DecidableEq

inductive UsageError where
  | noSuchOption (name : String)
  | missingValues (name : String)
  | unexpectedValue (name : String)
  | unexpectedArgument
  | missingOption (name : String)
  | noSuchCommand
  | help
  deriving DecidableEq

structure ParsedArgs where
  uses : List OptionUse
  rest : List String
  deriving DecidableEq

namespace ParsedArgs

def cons (use : OptionUse) (parsed : ParsedArgs) : ParsedArgs := { parsed with uses := use :: parsed.uses }

def all (parsed : ParsedArgs) (name : String) : List (List String) :=
  (parsed.uses.filter (·.name = name)).map OptionUse.values

def last (parsed : ParsedArgs) (name : String) : Option (List String) := (parsed.all name).getLast?

def given (parsed : ParsedArgs) (name : String) : Bool := parsed.uses.any (·.name = name)

def value (parsed : ParsedArgs) (name : String) : Option String := (parsed.last name).bind List.head?

def values (parsed : ParsedArgs) (name : String) : List String := (parsed.all name).filterMap List.head?

def pairs (parsed : ParsedArgs) (name : String) : List (String × String) :=
  (parsed.all name).filterMap fun values => match values with
    | [first, second] => some (first, second)
    | _ => none

theorem given_eq (parsed : ParsedArgs) (name : String) : parsed.given name = !(parsed.all name).isEmpty := by
  rw [given, all, List.isEmpty_map, Bool.eq_iff_iff]
  simp [List.any_eq_true]

end ParsedArgs

/-- What the parser does with the next argument: it looks for an option, or it takes a value of
one that takes some more after it. -/
inductive ParserState where
  | scanning
  | taking (name : String) (values : List String) (more : Nat)

/-- An argument such as `--name=value` carries the first value of the option. -/
def splitValue (arg : String) : String × Option String :=
  let chars := arg.toList
  if '=' ∈ chars then
    (String.ofList (chars.takeWhile (· ≠ '=')), some (String.ofList ((chars.dropWhile (· ≠ '=')).drop 1)))
  else (arg, none)

def looksLikeOption (arg : String) : Bool :=
  match arg.toList with
  | '-' :: _ :: _ => true
  | _ => false

/-- The uses of options, and what is left over. Options may follow other arguments if these are
`interspersed`, and otherwise the first other argument ends them. -/
def parseArgs (specs : List OptionSpec) (interspersed : Bool) : ParserState → List String → Except UsageError ParsedArgs
  | .scanning, [] => .ok ⟨[], []⟩
  | .taking name _ _, [] => .error (.missingValues name)
  | .taking name values 0, arg :: args => do
    let parsed ← parseArgs specs interspersed .scanning args
    return parsed.cons ⟨name, values ++ [arg]⟩
  | .taking name values (more + 1), arg :: args =>
    parseArgs specs interspersed (.taking name (values ++ [arg]) more) args
  | .scanning, arg :: args =>
    if arg = "--" then .ok ⟨[], args⟩
    else if looksLikeOption arg then
      let (name, value) := splitValue arg
      match specs.find? (·.name = name) with
      | none => .error (.noSuchOption name)
      | some spec => match spec.nargs, value with
        | 0, none => do
          let parsed ← parseArgs specs interspersed .scanning args
          return parsed.cons ⟨name, []⟩
        | 0, some _ => .error (.unexpectedValue name)
        | more + 1, none => parseArgs specs interspersed (.taking name [] more) args
        | 1, some value => do
          let parsed ← parseArgs specs interspersed .scanning args
          return parsed.cons ⟨name, [value]⟩
        | more + 2, some value => parseArgs specs interspersed (.taking name [value] more) args
    else if interspersed then do
      let parsed ← parseArgs specs interspersed .scanning args
      return { parsed with rest := arg :: parsed.rest }
    else .ok ⟨[], arg :: args⟩

namespace OptionUse

def render (use : OptionUse) : List String := use.name :: use.values

/-- The option is declared with as many values, under a name that is read as an option. -/
structure Declared (specs : List OptionSpec) (use : OptionUse) : Prop where
  found : specs.find? (·.name = use.name) = some ⟨use.name, use.values.length⟩
  option : looksLikeOption use.name = true
  plain : splitValue use.name = (use.name, none)
  open_ended : use.name ≠ "--"

end OptionUse

def ReadableOptions (specs : List OptionSpec) : Prop :=
  ∀ spec ∈ specs, specs.find? (·.name = spec.name) = some spec ∧ looksLikeOption spec.name = true ∧
    splitValue spec.name = (spec.name, none) ∧ spec.name ≠ "--"

instance (specs : List OptionSpec) : Decidable (ReadableOptions specs) := by
  unfold ReadableOptions
  infer_instance

variable {specs : List OptionSpec} {interspersed : Bool}

theorem OptionUse.declared_of_mem (readable : ReadableOptions specs) {name : String} {values : List String}
    (member : ⟨name, values.length⟩ ∈ specs) : OptionUse.Declared specs ⟨name, values⟩ :=
  have ⟨found, option, plain, open_ended⟩ := readable _ member
  ⟨found, option, plain, open_ended⟩

/-- The missing values are taken whatever they look like. -/
theorem parseArgs_taking (name : String) (values taken args : List String) (last : String) :
    parseArgs specs interspersed (.taking name values taken.length) (taken ++ last :: args) =
      (parseArgs specs interspersed .scanning args).map (ParsedArgs.cons ⟨name, values ++ (taken ++ [last])⟩) := by
  induction taken generalizing values with
  | nil =>
    rw [List.length_nil, List.nil_append, List.nil_append, parseArgs]
    cases parseArgs specs interspersed .scanning args <;> rfl
  | cons first others ih =>
    rw [List.length_cons, List.cons_append, parseArgs, ih, List.append_assoc]
    rfl

theorem parseArgs_render {use : OptionUse} (declared : use.Declared specs) (args : List String) :
    parseArgs specs interspersed .scanning (use.render ++ args) =
      (parseArgs specs interspersed .scanning args).map (ParsedArgs.cons use) := by
  obtain ⟨name, values⟩ := use
  obtain ⟨found, option, plain, open_ended⟩ := declared
  rw [OptionUse.render, List.cons_append, parseArgs, if_neg open_ended, if_pos option]
  simp only [plain, found]
  cases taken : values.reverse with
  | nil =>
    rw [List.reverse_eq_nil_iff] at taken
    subst taken
    simp only [List.length_nil, List.nil_append]
    cases parseArgs specs interspersed .scanning args <;> rfl
  | cons last before =>
    have split : values = before.reverse ++ [last] := by
      rw [← List.reverse_reverse values, taken, List.reverse_cons]
    subst split
    simp only [List.length_append, List.length_singleton, List.append_assoc, List.singleton_append]
    exact parseArgs_taking name [] before.reverse args last

/-- A command line of declared options is read back, use by use. -/
theorem parseArgs_flatMap_render {uses : List OptionUse} (declared : ∀ use ∈ uses, use.Declared specs) :
    parseArgs specs interspersed .scanning (uses.flatMap OptionUse.render) = .ok ⟨uses, []⟩ := by
  induction uses with
  | nil => rfl
  | cons use rest ih =>
    have later := ih fun other member => declared other (List.mem_cons_of_mem _ member)
    rw [List.flatMap_cons, parseArgs_render (declared use List.mem_cons_self), later]
    rfl

end Wotemu.Foundation
