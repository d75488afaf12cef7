import Wotemu.Cli.Entrypoint
import Wotemu.Topology.EnvConfig

/-! The app of a node from its model to the call of its function.

The arguments are rendered one after the other into the command of the node's
container and parsed by the app command of the program.
-/

set_option autoImplicit false

namespace Wotemu

open Wotemu.Foundation

def appOptions : List OptionSpec :=
  [⟨"--path", 1⟩, ⟨"--func", 1⟩, ⟨"--func-param", 2⟩, ⟨"--hostname", 1⟩, ⟨"--enable-http", 0⟩,
   ⟨"--enable-coap", 0⟩, ⟨"--enable-mqtt", 0⟩, ⟨"--enable-ws", 0⟩, ⟨"--disable-monitor", 0⟩, helpOption]

/-- The arguments that the command passes to `run_app`. -/
structure AppArgs where
  path : String
  func : String
  funcParam : List (String × String)
  hostname : Option String
  enableHttp : Bool
  enableMqtt : Bool
  enableCoap : Bool
  enableWs : Bool
  disableMonitor : Bool
  deriving DecidableEq

/-- The command after its line has been parsed: help comes first, and an argument that is left
over comes last. -/
def AppArgs.ofParsed (parsed : ParsedArgs) : Except UsageError AppArgs :=
  if parsed.given "--help" then .error .help
  else match parsed.value "--path" with
    | none => .error (.missingOption "--path")
    | some path =>
      if parsed.rest ≠ [] then .error .unexpectedArgument
      else .ok {
        path
        func := (parsed.value "--func").getD "app"
        funcParam := parsed.pairs "--func-param"
        hostname := parsed.value "--hostname"
        enableHttp := parsed.given "--enable-http"
        enableMqtt := parsed.given "--enable-mqtt"
        enableCoap := parsed.given "--enable-coap"
        enableWs := parsed.given "--enable-ws"
        disableMonitor := parsed.given "--disable-monitor" }

def app (args : List String) : Except UsageError AppArgs := do
  let parsed ← parseArgs appOptions true .scanning args
  AppArgs.ofParsed parsed

/-- What `run_app` makes of its arguments: the module and function of the app, the arguments of
the servient, and the keyword arguments of the function. -/
structure AppCall where
  path : String
  func : String
  hostname : Option String
  portCatalogue : Int
  portHttp : Option Int
  portWs : Option Int
  portCoap : Option Int
  mqttUrl : Option String
  kwargs : Dict String String
  monitored : Bool
  deriving DecidableEq

def runApp (conf : EnvConfig) (args : AppArgs) : AppCall where
  path := args.path
  func := args.func
  hostname := args.hostname
  portCatalogue := conf.portCatalogue
  portHttp := if args.enableHttp then some conf.portHttp else none
  portWs := if args.enableWs then some conf.portWs else none
  portCoap := if args.enableCoap then some conf.portCoap else none
  mqttUrl := if args.enableMqtt then conf.mqttUrl else none
  kwargs := Dict.update [] args.funcParam
  monitored := !args.disableMonitor

/-- The command of a node's container, as far as the arguments of `run_app`. -/
def appCommand (command : List String) : Except UsageError AppArgs := do
  let args ← commandArgs "app" command
  app args

namespace NodeApp

def uses (app : NodeApp) : List OptionUse :=
  ⟨"--path", [app.path]⟩ :: app.params.map (fun param => ⟨"--func-param", [param.1.pyStr, param.2.pyStr]⟩) ++
    ([(app.enabledHttp, "--enable-http"), (app.enabledWs, "--enable-ws"), (app.enabledMqtt, "--enable-mqtt"),
      (app.enabledCoap, "--enable-coap")].filter (·.1)).map fun flag => ⟨flag.2, []⟩

variable (app : NodeApp)

theorem render_uses : app.uses.flatMap OptionUse.render = app.appArgs := by
  simp only [uses, appArgs, List.flatMap_append, List.flatMap_cons, List.flatMap_map, OptionUse.render]
  rw [List.map_eq_flatMap]

theorem uses_declared : ∀ use ∈ app.uses, use.Declared appOptions := by
  have readable : ReadableOptions appOptions := by decide
  intro use member
  simp only [uses, List.cons_append, List.mem_cons, List.mem_append, List.mem_map, List.mem_filter] at member
  obtain path | param | flag := member
  · rw [path]
    exact OptionUse.declared_of_mem readable (by simp [appOptions])
  · obtain ⟨pair, -, rfl⟩ := param
    exact OptionUse.declared_of_mem readable (by simp [appOptions])
  · obtain ⟨flag, ⟨listed, -⟩, rfl⟩ := flag
    obtain http | ws | mqtt | coap | none := listed
    · exact http ▸ OptionUse.declared_of_mem readable (by simp [appOptions])
    · exact ws ▸ OptionUse.declared_of_mem readable (by simp [appOptions])
    · exact mqtt ▸ OptionUse.declared_of_mem readable (by simp [appOptions])
    · exact coap ▸ OptionUse.declared_of_mem readable (by simp [appOptions])
    · cases none

theorem parseArgs_appArgs : parseArgs appOptions true .scanning app.appArgs = .ok ⟨app.uses, []⟩ := by
  rw [← render_uses]
  exact parseArgs_flatMap_render app.uses_declared

/-- What the app command gives to `run_app`. -/
def appArguments : AppArgs where
  path := app.path
  func := "app"
  funcParam := app.params.map fun param => (param.1.pyStr, param.2.pyStr)
  hostname := none
  enableHttp := app.enabledHttp
  enableMqtt := app.enabledMqtt
  enableCoap := app.enabledCoap
  enableWs := app.enabledWs
  disableMonitor := false

theorem all_path : ParsedArgs.all ⟨app.uses, []⟩ "--path" = [[app.path]] := by
  simp [ParsedArgs.all, uses, List.filter_map, List.filter_filter, Function.comp_def]

theorem all_funcParam : ParsedArgs.all ⟨app.uses, []⟩ "--func-param" =
    app.params.map fun param => [param.1.pyStr, param.2.pyStr] := by
  simp [ParsedArgs.all, uses, List.filter_map, List.filter_filter, Function.comp_def]

theorem given_flag {name : String} {enabled : Bool} (flag : (enabled, name) ∈ [(app.enabledHttp, "--enable-http"),
    (app.enabledWs, "--enable-ws"), (app.enabledMqtt, "--enable-mqtt"), (app.enabledCoap, "--enable-coap")]) :
    ParsedArgs.given ⟨app.uses, []⟩ name = enabled := by
  simp only [List.mem_cons, Prod.mk.injEq, List.not_mem_nil, or_false] at flag
  obtain ⟨rfl, rfl⟩ | ⟨rfl, rfl⟩ | ⟨rfl, rfl⟩ | ⟨rfl, rfl⟩ := flag
  all_goals simp [ParsedArgs.given, uses]

theorem given_other {name : String} (other : name ∈ ["--func", "--hostname", "--disable-monitor", "--help"]) :
    ParsedArgs.given ⟨app.uses, []⟩ name = false := by
  simp only [List.mem_cons, List.not_mem_nil, or_false] at other
  obtain rfl | rfl | rfl | rfl := other
  all_goals simp [ParsedArgs.given, uses]

theorem value_other {name : String} (other : name ∈ ["--func", "--hostname", "--disable-monitor", "--help"]) :
    ParsedArgs.value ⟨app.uses, []⟩ name = none := by
  have absent := app.given_other other
  rw [ParsedArgs.given_eq, Bool.not_eq_false', List.isEmpty_iff] at absent
  rw [ParsedArgs.value, ParsedArgs.last, absent]
  rfl

theorem value_path : ParsedArgs.value ⟨app.uses, []⟩ "--path" = some app.path := by
  rw [ParsedArgs.value, ParsedArgs.last, all_path]
  rfl

theorem pairs_funcParam : ParsedArgs.pairs ⟨app.uses, []⟩ "--func-param" =
    app.params.map fun param => (param.1.pyStr, param.2.pyStr) := by
  rw [ParsedArgs.pairs, all_funcParam, List.filterMap_map, ← List.filterMap_eq_map]
  rfl

/-- The arguments of an app are read back. -/
theorem app_appArgs (model : NodeApp) : Wotemu.app model.appArgs = .ok model.appArguments := by
  have made : AppArgs.ofParsed ⟨model.uses, []⟩ = .ok model.appArguments := by
    unfold AppArgs.ofParsed appArguments
    simp only [model.given_other (by simp : "--help" ∈ _), model.value_path, model.pairs_funcParam,
      model.value_other (by simp : "--func" ∈ _), model.value_other (by simp : "--hostname" ∈ _),
      model.given_flag (by simp : (model.enabledHttp, "--enable-http") ∈ _),
      model.given_flag (by simp : (model.enabledMqtt, "--enable-mqtt") ∈ _),
      model.given_flag (by simp : (model.enabledCoap, "--enable-coap") ∈ _),
      model.given_flag (by simp : (model.enabledWs, "--enable-ws") ∈ _),
      model.given_other (by simp : "--disable-monitor" ∈ _)]
    rfl
  unfold Wotemu.app
  rw [parseArgs_appArgs]
  exact made

end NodeApp

/-- The command of a node gives `run_app` the path and the flags of the node's app, and the
function its parameters as texts. -/
theorem runApp_of_cmdApp (node : Node) (conf : EnvConfig)
    (distinct : (node.app.params.map fun param => param.1.pyStr).Nodup) :
    ∃ args, appCommand node.cmdApp = .ok args ∧ args.path = node.app.path ∧
      args.enableHttp = node.app.enabledHttp ∧ args.enableWs = node.app.enabledWs ∧
      args.enableMqtt = node.app.enabledMqtt ∧ args.enableCoap = node.app.enabledCoap ∧
      (runApp conf args).kwargs = node.app.params.map fun param => (param.1.pyStr, param.2.pyStr) := by
  refine ⟨node.app.appArguments, ?_, rfl, rfl, rfl, rfl, rfl, ?_⟩
  · unfold appCommand Node.cmdApp
    rw [commandArgs_app]
    exact node.app.app_appArgs
  · refine Dict.update_of_nodup (d := []) ?_
    have keys : Dict.keys node.app.appArguments.funcParam = node.app.params.map fun param => param.1.pyStr :=
      List.map_map
    rw [List.nil_append, keys]
    exact distinct

def trickyNode : Node where
  name := "clock"
  app := {
    pathArg := .inr "--enable-ws"
    enabledHttp := true
    params := [(.str "", .str "--path"), (.str "--func-param", .str "a b"), (.int 7, .none)] }
  networks := []
  broker_network_attached := none_attached
  services := []
  services_distinct := List.nodup_nil

theorem trickyNode_runs : ∃ args, appCommand trickyNode.cmdApp = .ok args ∧ args.path = "--enable-ws" ∧
    args.enableHttp = true ∧ args.enableWs = false ∧ args.enableMqtt = false ∧ args.enableCoap = false ∧
    (runApp (getEnvConfig fun _ => none) args).kwargs = [("", "--path"), ("--func-param", "a b"), ("7", "None")] :=
  runApp_of_cmdApp trickyNode (getEnvConfig fun _ => none) (by decide)

end Wotemu
