import Wotemu.Cli.Diversion
import Wotemu.Cli.Entrypoint
import Wotemu.Topology.EnvConfig

/-! The entrypoint script from its first line to the command that it executes.

The script stops at the first preparation that fails, so what it executes runs
in a container whose preparations have all succeeded. Only the routing
configuration changes the network stack.
-/

set_option autoImplicit false

namespace Wotemu

open Wotemu.Foundation

def unquoted (text : String) : List String :=
  ((text.toList.splitOnP fun c => c = ' ' || c = '\t' || c = '\n').filter (· ≠ [])).map String.ofList

inductive Preparation where
  /-- `wotemu wait --waiter-base` -/
  | waitInit
  /-- `sleep ${WAIT_GATEWAYS}` -/
  | waitGateways (args : List String)
  /-- `wotemu wait --waiter-mqtt` -/
  | waitBrokers
  /-- `wotemu route --apply` -/
  | updateRouting
  /-- `wotemu limits --speed ${TARGET_CPU_SPEED}` -/
  | updateCpuLimits (args : List String)
  deriving DecidableEq

section Script

variable {σ : Type} (getenv : String → Option String) (run : Preparation → σ → σ × Bool)

/-- A variable that is not set expands to nothing. -/
def expanded (name : String) : String := (getenv name).getD ""

def cpuLimits : List Preparation :=
  if expanded getenv "TARGET_CPU_SPEED" = "" then []
  else [.updateCpuLimits (unquoted (expanded getenv "TARGET_CPU_SPEED"))]

def preparations (command : List String) : List Preparation :=
  let waitGateways := Preparation.waitGateways (unquoted (expanded getenv "WAIT_GATEWAYS"))
  match command with
  | "app" :: _ => [.waitInit, waitGateways, .updateRouting, .waitBrokers] ++ cpuLimits getenv
  | "broker" :: _ => [.waitInit, waitGateways, .updateRouting] ++ cpuLimits getenv
  | "gateway" :: _ => [.waitInit]
  | _ => []

/-- `set -e` -/
def prepareAll : List Preparation → σ → σ × Bool
  | [], state => (state, true)
  | preparation :: rest, state =>
    match run preparation state with
    | (next, true) => prepareAll rest next
    | (next, false) => (next, false)

/-- `entrypoint.sh`: the state that it leaves, and the command that it executes unless it exits before. -/
def boot (command : List String) (state : σ) : σ × Option (List String) :=
  if expanded getenv "WAIT_GATEWAYS" = "" then (state, none)
  else match prepareAll run (preparations getenv command) state with
    | (next, true) => (next, some (entrypoint command))
    | (next, false) => (next, none)

end Script

section Runs

variable {σ : Type} {getenv : String → Option String} {run : Preparation → σ → σ × Bool} {state next : σ}

theorem prepareAll_cons_ok {preparation : Preparation} {rest : List Preparation}
    (prepared : prepareAll run (preparation :: rest) state = (next, true)) :
    (run preparation state).2 = true ∧ prepareAll run rest (run preparation state).1 = (next, true) := by
  rw [prepareAll] at prepared
  rcases ran : run preparation state with ⟨middle, _ | _⟩
  · rw [ran] at prepared
    cases prepared
  · rw [ran] at prepared
    exact ⟨rfl, prepared⟩

theorem prepareAll_append_ok {first second : List Preparation}
    (prepared : prepareAll run (first ++ second) state = (next, true)) :
    ∃ middle, prepareAll run first state = (middle, true) ∧ prepareAll run second middle = (next, true) := by
  induction first generalizing state with
  | nil => exact ⟨state, rfl, prepared⟩
  | cons preparation rest ih =>
    obtain ⟨succeeded, later⟩ := prepareAll_cons_ok prepared
    obtain ⟨middle, before, after⟩ := ih later
    refine ⟨middle, ?_, after⟩
    rcases ran : run preparation state with ⟨other, _ | _⟩
    · rw [ran] at succeeded
      cases succeeded
    · rw [ran] at before
      rw [prepareAll, ran]
      exact before

theorem boot_executes {command argv : List String} (booted : boot getenv run command state = (next, some argv)) :
    argv = entrypoint command ∧ prepareAll run (preparations getenv command) state = (next, true) := by
  unfold boot at booted
  split at booted
  · cases booted
  · rcases prepared : prepareAll run (preparations getenv command) state with ⟨middle, _ | _⟩
    · rw [prepared] at booted
      cases booted
    · rw [prepared] at booted
      cases booted
      exact ⟨rfl, rfl⟩

theorem prepareAll_keeps {α : Type} {view : σ → α} {preparations : List Preparation}
    (keeps : ∀ preparation ∈ preparations, ∀ state, view (run preparation state).1 = view state)
    (prepared : prepareAll run preparations state = (next, true)) : view next = view state := by
  induction preparations generalizing state with
  | nil =>
    cases prepared
    rfl
  | cons preparation rest ih =>
    obtain ⟨-, later⟩ := prepareAll_cons_ok prepared
    rw [ih (fun other member => keeps other (List.mem_cons_of_mem _ member)) later,
      keeps preparation List.mem_cons_self]

end Runs

def otherPortList (ports : Value) : Option (List Int) :=
  match ports with
  | .list items => some (items.filterMap fun
    | .int port => some port
    | _ => none)
  | _ => none

def portConfig (conf : EnvConfig) : PortConfig where
  portHttp := conf.portHttp
  portWs := conf.portWs
  portMqtt := conf.portMqtt
  portCoap := conf.portCoap
  otherPortsTcp := otherPortList conf.otherPortsTcp
  otherPortsUdp := otherPortList conf.otherPortsUdp

section Routing

variable {σ : Type} {getenv : String → Option String} {run : Preparation → σ → σ × Bool} {state next : σ}
  {stack : σ → NetworkStack} {setup : RoutingSetup}

/-- `wotemu route --apply` is the routing configuration, and nothing else changes the network stack. -/
structure Routes (run : Preparation → σ → σ × Bool) (stack : σ → NetworkStack) (setup : RoutingSetup) : Prop where
  route : ∀ state, ∃ call,
    setup.updateRouting call (stack state) = (stack (run .updateRouting state).1, (run .updateRouting state).2)
  others : ∀ preparation, preparation ≠ .updateRouting → ∀ state, stack (run preparation state).1 = stack state

inductive RoutedCommand : List String → Prop where
  | app (args : List String) : RoutedCommand ("app" :: args)
  | broker (args : List String) : RoutedCommand ("broker" :: args)

theorem preparations_routed {command : List String} (routed : RoutedCommand command) : ∃ before after,
    preparations getenv command = before ++ .updateRouting :: after ∧
      (∀ preparation ∈ before, preparation ≠ .updateRouting) ∧ ∀ preparation ∈ after, preparation ≠ .updateRouting := by
  have limits : ∀ preparation ∈ cpuLimits getenv, preparation ≠ .updateRouting := by
    unfold cpuLimits
    split <;> simp
  cases routed with
  | app args => exact ⟨[.waitInit, _], _, rfl, by simp, by simpa using limits⟩
  | broker args => exact ⟨[.waitInit, _], _, rfl, by simp, limits⟩

/-- What an app or a broker finds in the network stack is what one routing configuration that returned has left. -/
theorem configured_of_boot {command argv : List String} (routes : Routes run stack setup)
    (routed : RoutedCommand command) (booted : boot getenv run command state = (next, some argv)) :
    ∃ call, setup.updateRouting call (stack state) = (stack next, true) := by
  obtain ⟨-, prepared⟩ := boot_executes booted
  obtain ⟨before, after, split, others, later⟩ := @preparations_routed getenv command routed
  rw [split] at prepared
  obtain ⟨middle, first, second⟩ := prepareAll_append_ok prepared
  obtain ⟨succeeded, last⟩ := prepareAll_cons_ok second
  have untouched := prepareAll_keeps
    (fun preparation member => routes.others preparation (others preparation member)) first
  have kept := prepareAll_keeps (fun preparation member => routes.others preparation (later preparation member)) last
  obtain ⟨call, configured⟩ := routes.route middle
  rw [succeeded, untouched] at configured
  exact ⟨call, by rw [configured, kept]⟩

theorem stack_of_gateway {args argv : List String} (routes : Routes run stack setup)
    (booted : boot getenv run ("gateway" :: args) state = (next, some argv)) : stack next = stack state := by
  apply prepareAll_keeps _ (boot_executes booted).2
  intro preparation member
  rw [List.mem_singleton.mp member]
  exact routes.others _ (by decide)

end Routing

section Containers

open Gateways Diversion

variable {σ : Type} {getenv : String → Option String} {run : Preparation → σ → σ × Bool} {state next : σ}
  {stack : σ → NetworkStack} {setup : RoutingSetup} {api : NetworkApi} {ifaces : Ifaces} {currTask : Value}

/-- Nothing is executed as an app or as a broker outside a configured container, and no gateway diverts anything. -/
theorem executed_configured (routes : Routes run stack setup)
    (discovered : gatewayTasks api ifaces currTask = .ok setup.gwTasks) (marks : setup.rtableMark ≠ 0)
    (apart : Apart setup.gwTasks) {rtTables : List (Nat × String)}
    (unregistered : setup.rtableName ∉ rtTables.map Prod.snd)
    (fresh : stack state = (RoutingSetup.fresh rtTables).1) {command argv : List String}
    (booted : boot getenv run command state = (next, some argv)) :
    (RoutedCommand command → ∃ container : Container api, container.stack = stack next ∧ container.setup = setup) ∧
      ∀ args, command = "gateway" :: args → ∀ packet, nextHop (stack next) packet = .direct packet.dev := by
  constructor
  · intro routed
    obtain ⟨call, configured⟩ := configured_of_boot routes routed booted
    rw [fresh] at configured
    exact ⟨⟨ifaces, currTask, setup, stack next, discovered, ⟨rtTables, call, unregistered, configured⟩, marks, apart⟩,
      rfl, rfl⟩
  · rintro args rfl packet
    rw [stack_of_gateway routes booted, fresh]
    rfl

def imageEnv (name : String) : Option String := if name = "WAIT_GATEWAYS" then some "20" else none

def lanRun : Preparation → NetworkStack → NetworkStack × Bool
  | .updateRouting, stack => (lanSetup "10.0.1.9").updateRouting ⟨true, some 200, fun _ => true⟩ stack
  | _, stack => (stack, true)

theorem lan_executed_configured :
    ∃ next, boot imageEnv lanRun ["app", "--path", "clock"] (RoutingSetup.fresh [(254, "main")]).1 =
        (next, some ["wotemu", "app", "--path", "clock"]) ∧
      ∃ container : Container lanApi, container.stack = next ∧ container.setup = lanSetup "10.0.1.9" := by
  have routes : Routes lanRun id (lanSetup "10.0.1.9") := by
    refine ⟨fun _ => ⟨⟨true, some 200, fun _ => true⟩, rfl⟩, fun preparation other state => ?_⟩
    cases preparation <;> first | rfl | exact absurd rfl other
  have booted : boot imageEnv lanRun ["app", "--path", "clock"] (RoutingSetup.fresh [(254, "main")]).1 =
      (lanClient.stack, some ["wotemu", "app", "--path", "clock"]) := rfl
  exact ⟨_, booted, (executed_configured routes lanClient.discovered lanClient.marks lanClient.apart
    (by simp [lanSetup]) rfl booted).1 (.app _)⟩

end Containers

end Wotemu
