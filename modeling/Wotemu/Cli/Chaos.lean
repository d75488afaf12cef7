import Wotemu.Cli.Entrypoint
import Wotemu.Foundation.Json
import Wotemu.Foundation.Shlex
import Wotemu.Topology.Components

/-! The main command of a gateway: one JSON text becomes the queues of an interface.

The commands of `tc` are formatted as lines and split into words before they
run; each of them is taken to succeed. A run is kept as the commands up to the
idle loop.
-/

set_option autoImplicit false

namespace Wotemu

open Wotemu.Foundation

structure Interfaces where
  all : List String
  gateway : Option String

namespace Interfaces

def candidates (interfaces : Interfaces) : List String :=
  interfaces.all.filter fun iface => iface ≠ "lo" && some iface ≠ interfaces.gateway

def findChaosInterface (interfaces : Interfaces) : Except PyError String :=
  match interfaces.candidates with
  | nic :: _ => .ok nic
  | [] => .error .runtimeError

end Interfaces

section Commands

/-- `_call` and `_check_call`: the words that are executed. -/
def call (line : String) : Except PyError (List String) :=
  match Shlex.split line with
  | some words => .ok words
  | none => .error .valueError

def cleanNetem (nic : String) : Except PyError (List String) := call ("tc qdisc del dev " ++ nic ++ " root")

def qdiscParent : String := "root handle 1:"

def qdiscChild : String := "parent 1: handle 2:"

def setDelay (nic : String) (latency jitter : Value) (corr : Option Value) (root : Bool) :
    Except PyError (List String) :=
  let corr := corr.getD (.int 0)
  let qdiscs := if root then qdiscParent else qdiscChild
  call ("tc qdisc add dev " ++ nic ++ " " ++ qdiscs ++ " netem delay " ++ latency.pyStr ++ "ms " ++ jitter.pyStr ++
    "ms " ++ corr.pyStr ++ "% distribution normal")

def setRate (nic : String) (rate : Value) (burst latency : Option Value) (root : Bool) : Except PyError (List String) :=
  let burst := burst.getD (.str "100kbit")
  let latency := latency.getD (.int 20)
  let qdiscs := if root then qdiscParent else qdiscChild
  call ("tc qdisc add dev " ++ nic ++ " " ++ qdiscs ++ " tbf rate " ++ rate.pyStr ++ " burst " ++ burst.pyStr ++
    " latency " ++ latency.pyStr ++ "ms")

end Commands

section Command

/-- `args.get(key)` when it is not `None`. -/
def givenArg (args : Dict String Value) (key : String) : Option Value :=
  (Dict.value? args key).filter (· ≠ .none)

def delayCalls (nic : String) (args : Dict String Value) : Except PyError (List (List String)) :=
  match givenArg args "latency", givenArg args "jitter" with
  | some latency, some jitter => do
    let words ← setDelay nic latency jitter (givenArg args "correlation") true
    return [words]
  | _, _ => .ok []

def rateCalls (nic : String) (args : Dict String Value) : Except PyError (List (List String)) :=
  match givenArg args "rate" with
  | some rate => do
    let delayDefined := (givenArg args "latency").isSome && (givenArg args "jitter").isSome
    let words ← setRate nic rate (givenArg args "rate_burst") (givenArg args "rate_latency") !delayDefined
    return [words]
  | none => .ok []

/-- What runs once the item is read. The old queues are deleted first. -/
def netemCalls (nic : String) (netemArgs : Value) : Except PyError (List (List String)) := do
  let clean ← cleanNetem nic
  match netemArgs with
  | .dict args => do
    let delay ← delayCalls nic args
    let rate ← rateCalls nic args
    return clean :: delay ++ rate
  | _ => .error .attributeError

/-- The commands that run before the loop. `float` reads the numbers of JSON that are no integers. -/
def createChaos (float : String → String) (interfaces : Interfaces) (netem : List String) :
    Except PyError (List (List String)) := do
  let nic ← interfaces.findChaosInterface
  match netem with
  | [item] => match Json.loads float item with
    | some netemArgs => netemCalls nic netemArgs
    | none => .error .valueError
  | _ => .error .assertionError

def chaosOptions : List OptionSpec := [⟨"--netem", 1⟩, helpOption]

/-- The items that the command passes to `create_chaos`. -/
def chaos (args : List String) : Except UsageError (List String) := do
  let parsed ← parseArgs chaosOptions true .scanning args
  if parsed.given "--help" then .error .help
  else if parsed.rest ≠ [] then .error .unexpectedArgument
  else return parsed.values "--netem"

def gatewayItems (command : List String) : Except UsageError (List String) := do
  let args ← commandArgs "chaos" command
  chaos args

end Command

theorem gatewayItems_gateway (items : List String) : gatewayItems ("gateway" :: items) = .ok items := by
  have uses : items.flatMap (fun var => ["--netem", var]) =
      (items.map fun item => (⟨"--netem", [item]⟩ : OptionUse)).flatMap OptionUse.render := by
    rw [List.flatMap_map]
    rfl
  have declared : ∀ use ∈ items.map fun item => (⟨"--netem", [item]⟩ : OptionUse), use.Declared chaosOptions := by
    have readable : ReadableOptions chaosOptions := by decide
    intro use member
    obtain ⟨item, -, rfl⟩ := List.mem_map.mp member
    exact OptionUse.declared_of_mem readable (by simp [chaosOptions])
  have parsed : parseArgs chaosOptions true .scanning (items.flatMap fun var => ["--netem", var]) =
      .ok ⟨items.map fun item => ⟨"--netem", [item]⟩, []⟩ := by
    rw [uses]
    exact parseArgs_flatMap_render declared
  have noHelp : (ParsedArgs.mk (items.map fun item => ⟨"--netem", [item]⟩) []).given "--help" = false := by
    simp [ParsedArgs.given]
  have values : (ParsedArgs.mk (items.map fun item => ⟨"--netem", [item]⟩) []).values "--netem" = items := by
    simp [ParsedArgs.values, ParsedArgs.all, List.filter_map, List.filterMap_map, Function.comp_def]
  unfold gatewayItems
  rw [commandArgs_gateway]
  change chaos _ = _
  unfold chaos
  rw [parsed]
  change (if _ then _ else _) = _
  rw [noHelp]
  simp [values, pure, Except.pure]

end Wotemu
