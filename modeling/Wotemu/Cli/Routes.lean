import Mathlib.Data.List.Count
import Mathlib.Data.List.Nodup
import Wotemu.Foundation.Transition

/-! The routing configuration of a container.

The commands of every network run one after the other, and the first of them
registers the routing table. A later call that finds the table registered skips
the configuration.
-/

set_option autoImplicit false

namespace Wotemu

open Wotemu.Foundation

inductive Proto where
  | tcp
  | udp
  deriving DecidableEq

inductive PortSide where
  | dport
  | sport
  deriving DecidableEq

/-- A route of the table `table`. -/
structure Route where
  cidr : String
  via : String
  dev : String
  src : String
  table : String
  deriving DecidableEq

structure FwmarkRule where
  fwmark : Int
  table : String
  deriving DecidableEq

structure PortRule where
  iface : String
  proto : Proto
  side : PortSide
  port : Int
  mark : Int
  deriving DecidableEq

/-- The lines of `rt_tables`, and the routes and rules of the container. -/
structure NetworkStack where
  rtTables : List (Nat × String)
  routes : List Route
  rules : List FwmarkRule
  mangle : List PortRule
  deriving DecidableEq

inductive RoutingCommand where
  /-- `grep -Fxq "{idx} {name}" {path} || echo "{idx} {name}" >> {path}` -/
  | register (idx : Nat) (name : String)
  /-- `ip route add {cidr} via {via} onlink dev {dev} proto kernel src {src} table {table}` -/
  | routeAdd (route : Route)
  /-- `ip rule add fwmark {fwmark} table {table}` -/
  | ruleAdd (rule : FwmarkRule)
  /-- `iptables -A OUTPUT -t mangle -o {iface} -p {proto} --{side} {port} -j MARK --set-mark {mark}` -/
  | iptables (rule : PortRule)
  deriving DecidableEq

def RoutingCommand.effect (stack : NetworkStack) : RoutingCommand → NetworkStack
  | register idx name =>
    if (idx, name) ∈ stack.rtTables then stack else { stack with rtTables := stack.rtTables ++ [(idx, name)] }
  | routeAdd route => { stack with routes := stack.routes ++ [route] }
  | ruleAdd rule => { stack with rules := stack.rules ++ [rule] }
  | iptables rule => { stack with mangle := stack.mangle ++ [rule] }

structure PortConfig where
  portHttp : Int
  portWs : Int
  portMqtt : Int
  portCoap : Int
  otherPortsTcp : Option (List Int)
  otherPortsUdp : Option (List Int)
  deriving DecidableEq

namespace PortConfig

variable (conf : PortConfig)

def portsTcp : List Int :=
  [conf.portHttp, conf.portWs, conf.portMqtt, conf.portCoap] ++ conf.otherPortsTcp.getD []

def portsUdp : List Int := [conf.portCoap] ++ conf.otherPortsUdp.getD []

end PortConfig

structure GatewayTask where
  networkId : String
  endpointIp : String
  ifname : String
  addr : String
  ifcidr : String
  deriving DecidableEq

structure RoutingSetup where
  conf : PortConfig
  rtableName : String
  rtableMark : Int
  gwTasks : List GatewayTask

namespace RoutingSetup

variable (setup : RoutingSetup)

def route (gw : GatewayTask) : Route := ⟨gw.ifcidr, gw.endpointIp, gw.ifname, gw.addr, setup.rtableName⟩

def fwmarkRule : FwmarkRule := ⟨setup.rtableMark, setup.rtableName⟩

/-- `build_iptables_rules` -/
def buildIptablesRules (gw : GatewayTask) (proto : Proto) (port : Int) : List PortRule :=
  [⟨gw.ifname, proto, .dport, port, setup.rtableMark⟩, ⟨gw.ifname, proto, .sport, port, setup.rtableMark⟩]

def portRules (gw : GatewayTask) : List PortRule :=
  setup.conf.portsTcp.flatMap (setup.buildIptablesRules gw .tcp) ++
    setup.conf.portsUdp.flatMap (setup.buildIptablesRules gw .udp)

def buildRoutingCommands (rtindex : Nat) (gw : GatewayTask) : List RoutingCommand :=
  [.register rtindex setup.rtableName, .routeAdd (setup.route gw), .ruleAdd setup.fwmarkRule] ++
    (setup.portRules gw).map .iptables

def commands (rtindex : Nat) : List RoutingCommand := setup.gwTasks.flatMap (setup.buildRoutingCommands rtindex)

end RoutingSetup

/-- What a call meets: whether Docker answers, the free table index when everything before the commands
works out, and which of the commands succeed. -/
structure RoutingCall where
  ping : Bool
  prepared : Option Nat
  succeeds : Nat → Bool

/-- `_run_commands`: it stops at the first command that fails. -/
def runCommands (succeeds : Nat → Bool) : Nat → List RoutingCommand → NetworkStack → NetworkStack × Bool
  | _, [], stack => (stack, true)
  | position, command :: rest, stack =>
    if succeeds position then runCommands succeeds (position + 1) rest (command.effect stack) else (stack, false)

/-- `ip route show table T` -/
def rtableExists (rtableName : String) (stack : NetworkStack) : Bool := rtableName ∈ stack.rtTables.map Prod.snd

namespace RoutingSetup

variable (setup : RoutingSetup)

/-- `update_routing` with `apply`: what it leaves, and whether it returns. -/
def updateRouting (call : RoutingCall) (stack : NetworkStack) : NetworkStack × Bool :=
  if !call.ping then (stack, false)
  else if rtableExists setup.rtableName stack then (stack, true)
  else match call.prepared with
    | none => (stack, false)
    | some rtindex => runCommands call.succeeds 0 (setup.commands rtindex) stack

def step : Transition (NetworkStack × Bool) RoutingCall := fun state call => some (setup.updateRouting call state.1)

def fresh (rtTables : List (Nat × String)) : NetworkStack × Bool := (⟨rtTables, [], [], []⟩, false)

/-- Every network has its route, the mark rule and the rules of all ports, each exactly once. -/
structure Configured (stack : NetworkStack) : Prop where
  route : ∀ gw ∈ setup.gwTasks, stack.routes.count (setup.route gw) = 1
  rule : setup.gwTasks ≠ [] → stack.rules.count setup.fwmarkRule = 1
  ports : ∀ gw ∈ setup.gwTasks, ∀ side,
    (∀ port ∈ setup.conf.portsTcp, stack.mangle.count ⟨gw.ifname, .tcp, side, port, setup.rtableMark⟩ = 1) ∧
    ∀ port ∈ setup.conf.portsUdp, stack.mangle.count ⟨gw.ifname, .udp, side, port, setup.rtableMark⟩ = 1

/-- The call gets as far as its first command, which registers the table. -/
def registers (state : NetworkStack × Bool) (call : RoutingCall) : Prop :=
  call.ping = true ∧ rtableExists setup.rtableName state.1 = false ∧ setup.gwTasks ≠ [] ∧
    call.prepared.isSome = true ∧ call.succeeds 0 = true

/-- A call that registers the table runs all its commands, for one network, and the ports are distinct. -/
def Completes (state : NetworkStack × Bool) (call : RoutingCall) : Prop :=
  setup.registers state call → (∃ gw, setup.gwTasks = [gw]) ∧ setup.conf.portsTcp.Nodup ∧ setup.conf.portsUdp.Nodup ∧
    ∀ rtindex ∈ call.prepared, ∀ position < (setup.commands rtindex).length, call.succeeds position = true

section Commands

variable {setup} {stack : NetworkStack} {gw : GatewayTask}

def effects (stack : NetworkStack) (commands : List RoutingCommand) : NetworkStack :=
  commands.foldl RoutingCommand.effect stack

theorem effects_cons (command : RoutingCommand) (rest : List RoutingCommand) :
    effects stack (command :: rest) = effects (command.effect stack) rest := rfl

theorem runCommands_of_all {succeeds : Nat → Bool} {commands : List RoutingCommand} {first : Nat}
    (all : ∀ position < commands.length, succeeds (first + position) = true) :
    runCommands succeeds first commands stack = (effects stack commands, true) := by
  induction commands generalizing first stack with
  | nil => rfl
  | cons command rest ih =>
    have here : succeeds first = true := all 0 (Nat.zero_lt_succ _)
    have later : ∀ position < rest.length, succeeds (first + 1 + position) = true := by
      intro position below
      have shifted := all (position + 1) (Nat.succ_lt_succ below)
      rwa [Nat.add_comm position 1, ← Nat.add_assoc] at shifted
    rw [runCommands, if_pos here, ih later]
    rfl

theorem effects_iptables (stack : NetworkStack) (rules : List PortRule) :
    effects stack (rules.map .iptables) = { stack with mangle := stack.mangle ++ rules } := by
  unfold effects
  induction rules generalizing stack with
  | nil => simp
  | cons rule rest ih =>
    rw [List.map_cons, List.foldl_cons, ih]
    simp [RoutingCommand.effect]

theorem nodup_rules {proto : Proto} {ports : List Int} (distinct : ports.Nodup) :
    (ports.flatMap (setup.buildIptablesRules gw proto)).Nodup := by
  refine List.nodup_flatMap.mpr ⟨fun port _ => by simp [buildIptablesRules], ?_⟩
  refine distinct.imp fun differs rule inFirst inSecond => ?_
  simp only [buildIptablesRules, List.mem_cons, List.not_mem_nil, or_false] at inFirst inSecond
  cases inFirst <;> cases inSecond <;> simp_all

theorem nodup_portRules (tcp : setup.conf.portsTcp.Nodup) (udp : setup.conf.portsUdp.Nodup) :
    (setup.portRules gw).Nodup := by
  refine List.nodup_append'.mpr ⟨nodup_rules tcp, nodup_rules udp, fun rule isTcp isUdp => ?_⟩
  obtain ⟨port, -, isTcp⟩ := List.mem_flatMap.mp isTcp
  obtain ⟨other, -, isUdp⟩ := List.mem_flatMap.mp isUdp
  simp only [buildIptablesRules, List.mem_cons, List.not_mem_nil, or_false] at isTcp isUdp
  cases isTcp <;> cases isUdp <;> simp_all

theorem mem_rules {proto : Proto} {ports : List Int} {port : Int} (member : port ∈ ports) (side : PortSide) :
    ⟨gw.ifname, proto, side, port, setup.rtableMark⟩ ∈ ports.flatMap (setup.buildIptablesRules gw proto) := by
  refine List.mem_flatMap.mpr ⟨port, member, ?_⟩
  cases side with
  | dport => exact List.mem_cons_self
  | sport => exact List.mem_cons_of_mem _ List.mem_cons_self

theorem effect_register (stack : NetworkStack) (idx : Nat) (name : String) : ∃ rtTables,
    RoutingCommand.effect stack (.register idx name) = { stack with rtTables } ∧ name ∈ rtTables.map Prod.snd := by
  unfold RoutingCommand.effect
  simp only
  split
  case isTrue listed => exact ⟨stack.rtTables, rfl, List.mem_map_of_mem listed⟩
  case isFalse _ => exact ⟨_, rfl, List.mem_map_of_mem (List.mem_append_right _ (List.mem_singleton_self (idx, name)))⟩

theorem configured_effects (only : setup.gwTasks = [gw]) (tcp : setup.conf.portsTcp.Nodup)
    (udp : setup.conf.portsUdp.Nodup) (rtindex : Nat)
    (untouched : stack.routes = [] ∧ stack.rules = [] ∧ stack.mangle = []) :
    setup.Configured (effects stack (setup.commands rtindex)) ∧
      rtableExists setup.rtableName (effects stack (setup.commands rtindex)) = true := by
  obtain ⟨routes, rules, mangle⟩ := untouched
  obtain ⟨rtTables, registered, listed⟩ := effect_register stack rtindex setup.rtableName
  have after : effects stack (setup.commands rtindex) =
      ⟨rtTables, [setup.route gw], [setup.fwmarkRule], setup.portRules gw⟩ := by
    have commands : setup.commands rtindex = setup.buildRoutingCommands rtindex gw := by
      unfold RoutingSetup.commands
      rw [only, List.flatMap_singleton]
    simp only [commands, buildRoutingCommands, List.cons_append, List.nil_append, effects_cons, registered,
      effects_iptables]
    simp only [RoutingCommand.effect, routes, rules, mangle, List.nil_append]
  rw [after]
  refine ⟨?_, decide_eq_true listed⟩
  have distinct : (setup.portRules gw).Nodup := nodup_portRules tcp udp
  constructor
  case route =>
    intro other member
    rw [only, List.mem_singleton] at member
    rw [member]
    exact List.count_singleton_self
  case rule => exact fun _ => List.count_singleton_self
  case ports =>
    intro other member side
    rw [only, List.mem_singleton] at member
    rw [member]
    constructor
    · intro port isTcp
      exact List.count_eq_one_of_mem distinct (List.mem_append_left _ (mem_rules isTcp side))
    · intro port isUdp
      exact List.count_eq_one_of_mem distinct (List.mem_append_right _ (mem_rules isUdp side))

end Commands

section Calls

variable {setup} {state next : NetworkStack × Bool} {call : RoutingCall}

/-- What every call keeps: a container is configured when the table is registered, and has no routes
and rules otherwise; a call that returns leaves it configured. -/
structure Sound (setup : RoutingSetup) (state : NetworkStack × Bool) : Prop where
  registered : rtableExists setup.rtableName state.1 = true → setup.Configured state.1
  untouched : rtableExists setup.rtableName state.1 = false →
    state.1.routes = [] ∧ state.1.rules = [] ∧ state.1.mangle = []
  returned : state.2 = true → setup.Configured state.1

theorem configured_of_none (none : setup.gwTasks = []) (stack : NetworkStack) : setup.Configured stack where
  route := by simp [none]
  rule := fun some => absurd none some
  ports := by simp [none]

theorem Sound.raised (sound : Sound setup state) : Sound setup (state.1, false) :=
  ⟨sound.registered, sound.untouched, fun returned => by cases returned⟩

theorem updateRouting_sound (sound : Sound setup state) (completes : setup.Completes state call) :
    Sound setup (setup.updateRouting call state.1) := by
  unfold updateRouting
  cases ping : call.ping with
  | false => exact sound.raised
  | true =>
    simp only [Bool.not_true, Bool.false_eq_true, if_false]
    cases registered : rtableExists setup.rtableName state.1 with
    | true => exact ⟨sound.registered, sound.untouched, fun _ => sound.registered registered⟩
    | false =>
      simp only [Bool.false_eq_true, if_false]
      cases prepared : call.prepared with
      | none => exact sound.raised
      | some rtindex =>
        change Sound setup (runCommands call.succeeds 0 (setup.commands rtindex) state.1)
        by_cases none : setup.gwTasks = []
        · have noCommands : setup.commands rtindex = [] := by
            unfold commands
            rw [none, List.flatMap_nil]
          rw [noCommands]
          exact ⟨sound.registered, sound.untouched, fun _ => configured_of_none none state.1⟩
        · by_cases first : call.succeeds 0 = true
          · obtain ⟨⟨gw, only⟩, tcp, udp, all⟩ :=
              completes ⟨ping, registered, none, by rw [prepared]; rfl, first⟩
            have every : ∀ position < (setup.commands rtindex).length, call.succeeds (0 + position) = true := by
              intro position below
              rw [Nat.zero_add]
              exact all rtindex prepared position below
            obtain ⟨configured, listed⟩ := configured_effects only tcp udp rtindex (sound.untouched registered)
            rw [runCommands_of_all every]
            refine ⟨fun _ => configured, fun absent => ?_, fun _ => configured⟩
            rw [listed] at absent
            cases absent
          · -- the first command of the first network fails
            obtain ⟨gw, rest, some⟩ := List.exists_cons_of_ne_nil none
            have commands : ∃ others, setup.commands rtindex = .register rtindex setup.rtableName :: others := by
              unfold RoutingSetup.commands
              rw [some, List.flatMap_cons]
              exact ⟨_, rfl⟩
            obtain ⟨others, same⟩ := commands
            rw [same, runCommands, if_neg first]
            exact sound.raised

/-- In a run of calls from a fresh container whose calls complete the configuration once they register the
table, every call that returns leaves the networks configured. -/
theorem configured_when_returned (setup : RoutingSetup) (rtTables : List (Nat × String))
    (unregistered : setup.rtableName ∉ rtTables.map Prod.snd) (calls : List RoutingCall) (state : NetworkStack × Bool)
    (ran : Transition.run setup.step (fresh rtTables) calls = some state)
    (completes : Transition.Along setup.step setup.Completes (fresh rtTables) calls) (returned : state.2 = true) :
    setup.Configured state.1 := by
  have sound : Sound setup (fresh rtTables) := by
    refine ⟨fun registered => absurd (of_decide_eq_true registered) unregistered, fun _ => ⟨rfl, rfl, rfl⟩, ?_⟩
    intro returned
    cases returned
  have keeps : ∀ state call next, Sound setup state → setup.Completes state call →
      setup.step state call = some next → Sound setup next := by
    intro state call next sound completes stepped
    cases stepped
    exact updateRouting_sound sound completes
  exact (Transition.run_preserves keeps sound ran completes).returned returned

/-! A node in one network, whose route is refused in the first call. -/

def nodeGateway : GatewayTask := ⟨"net", "10.0.1.2", "eth1", "10.0.1.9", "10.0.1.0/24"⟩

def nodeSetup : RoutingSetup where
  conf := ⟨80, 81, 1883, 5683, none, none⟩
  rtableName := "wotemu"
  rtableMark := 1
  gwTasks := [nodeGateway]

def rtMain : List (Nat × String) := [(254, "main")]

theorem nodeSetup_configured :
    nodeSetup.Configured (nodeSetup.updateRouting ⟨true, some 200, fun _ => true⟩ (fresh rtMain).1).1 :=
  configured_when_returned nodeSetup rtMain (by decide) [⟨true, some 200, fun _ => true⟩] _ rfl
    ⟨fun _ => ⟨⟨nodeGateway, rfl⟩, by decide, by decide, fun _ _ _ _ => rfl⟩, fun _ _ => trivial⟩ (by decide +kernel)

/-- The second call returns, and the route is missing. -/
theorem refused_route_not_configured : ¬ ∀ (setup : RoutingSetup) (rtTables : List (Nat × String)),
    setup.rtableName ∉ rtTables.map Prod.snd → ∀ calls state,
      Transition.run setup.step (fresh rtTables) calls = some state →
      state.2 = true → setup.Configured state.1 := by
  intro all
  have configured := all nodeSetup rtMain (by decide)
    [⟨true, some 200, fun position => position = 0⟩, ⟨true, some 199, fun _ => true⟩] _ rfl (by decide +kernel)
  exact absurd (configured.route nodeGateway List.mem_cons_self) (by decide +kernel)

end Calls

end RoutingSetup

end Wotemu
