import Wotemu.Cli.Chaos
import Wotemu.Topology.Environment

/-! The conditions that a network specifies, and the queues that its gateway sets up.

A specification is a list of disciplines that a packet passes one after the
other. The gateway imposes it when its commands are those that set up this
chain, the first discipline at the root and each other one below the last.
-/

set_option autoImplicit false

namespace Wotemu

open Wotemu.Foundation

/-- A queueing discipline of `tc`: a delay, which may vary, or a limited rate. -/
inductive Discipline where
  | netem (latency jitter : Option String) (correlation : String)
  | tbf (rate burst latency : String)
  deriving DecidableEq

namespace Discipline

def words : Discipline → List String
  | netem latency jitter correlation => ["netem", "delay", (latency.map (· ++ "ms")).getD "0ms"] ++
    match jitter with
    | some jitter => [jitter ++ "ms", correlation ++ "%", "distribution", "normal"]
    | none => []
  | tbf rate burst latency => ["tbf", "rate", rate, "burst", burst, "latency", latency ++ "ms"]

def place : Nat → List String
  | 0 => ["root", "handle", "1:"]
  | n + 1 => ["parent", toString (n + 1) ++ ":", "handle", toString (n + 2) ++ ":"]

def command (nic : String) (n : Nat) (discipline : Discipline) : List String :=
  ["tc", "qdisc", "add", "dev", nic] ++ place n ++ discipline.words

def setup (nic : String) (chain : List Discipline) : List (List String) :=
  ["tc", "qdisc", "del", "dev", nic, "root"] :: chain.zipIdx.map fun entry => command nic entry.2 entry.1

end Discipline

/-- What one object specifies: a delay if it gives a latency or a jitter, and a rate. -/
def disciplines (args : Dict String Value) : List Discipline :=
  let latency := (givenArg args "latency").map Value.pyStr
  let jitter := (givenArg args "jitter").map Value.pyStr
  let delay := if latency.isSome || jitter.isSome then
    [Discipline.netem latency jitter ((givenArg args "correlation").getD (.int 0)).pyStr] else []
  let rate := (givenArg args "rate").map fun rate => Discipline.tbf rate.pyStr
    ((givenArg args "rate_burst").getD (.str "100kbit")).pyStr ((givenArg args "rate_latency").getD (.int 20)).pyStr
  delay ++ rate.toList

def Network.specified (float : String → String) (network : Network) : List Discipline :=
  network.netem.flatMap fun item => match item with
    | .str text => match Json.loads float text with
      | some (.dict args) => disciplines args
      | _ => []
    | _ => []

structure GatewayHost extends Interfaces where
  nic : String
  first : toInterfaces.candidates.head? = some nic
  plain : Shlex.Plain nic

/-- A list of texts is a command. -/
def containerWords (command : List Value) : Option (List String) :=
  command.mapM fun word => match word with
    | .str text => some text
    | _ => none

/-- The Compose service of the gateway is generated, with the network's own command. -/
def GatewayService (rt : Runtime) (t : Topology) (network : Network) : Prop :=
  ∃ entry, getNetworkGatewayDefinition rt t network = .ok [(network.nameGateway, entry)] ∧
    entry.field "command" = some (.list network.cmdGateway)

/-- The command reaches the idle loop behind the commands that set up what the network specifies. -/
def ImposesConditions (float : String → String) (host : GatewayHost) (network : Network) : Prop :=
  ∃ words items, containerWords network.cmdGateway = some words ∧ gatewayItems words = .ok items ∧
    createChaos float host.toInterfaces items = .ok (Discipline.setup host.nic (network.specified float))

/-- An object whose latency and jitter come together, and whose disciplines are written in plain words. -/
structure Imposable (args : Dict String Value) : Prop where
  paired : (givenArg args "latency").isSome = (givenArg args "jitter").isSome
  plain : ∀ discipline ∈ disciplines args, ∀ word ∈ discipline.words, Shlex.Plain word

section Calls

theorem call_eq_ok {line : String} {parts : List String}
    (joined : line.toList = List.intercalate [' '] (parts.map String.toList)) (nonempty : parts ≠ []) :
    call line = .ok parts ↔ ∀ part ∈ parts, Shlex.Plain part := by
  rw [← Shlex.split_eq_iff joined nonempty]
  unfold call
  cases Shlex.split line with
  | none => exact iff_of_false (by simp) (by simp)
  | some words => simp

theorem cleanNetem_eq {nic : String} (plain : Shlex.Plain nic) :
    cleanNetem nic = .ok ["tc", "qdisc", "del", "dev", nic, "root"] := by
  unfold cleanNetem
  rw [call_eq_ok (by simp) (by simp)]
  simp only [List.forall_mem_cons]
  exact ⟨by decide, by decide, by decide, by decide, plain, by decide, by simp⟩

variable {nic : String} (named : Shlex.Plain nic)

include named

theorem plain_command {n : Nat} (small : n ≤ 1) (discipline : Discipline) :
    (∀ word ∈ Discipline.command nic n discipline, Shlex.Plain word) ↔
      ∀ word ∈ discipline.words, Shlex.Plain word := by
  have front : ∀ word ∈ ["tc", "qdisc", "add", "dev", nic] ++ Discipline.place n, Shlex.Plain word := by
    have fixed : ∀ m ≤ 1, ∀ word ∈ Discipline.place m, Shlex.Plain word := by decide
    intro word member
    cases List.mem_append.mp member with
    | inl common =>
      simp only [List.mem_cons, List.not_mem_nil, or_false] at common
      rcases common with rfl | rfl | rfl | rfl | rfl
      · decide
      · decide
      · decide
      · decide
      · exact named
    | inr placed => exact fixed n small word placed
  constructor
  · intro all word member
    exact all word (List.mem_append_right _ member)
  · intro all word member
    cases List.mem_append.mp member with
    | inl before => exact front word before
    | inr after => exact all word after

theorem setDelay_eq_ok {latency jitter : Value} {corr : Option Value} :
    setDelay nic latency jitter corr true = .ok (Discipline.command nic 0
        (.netem (some latency.pyStr) (some jitter.pyStr) (corr.getD (.int 0)).pyStr)) ↔
      ∀ word ∈ (Discipline.netem (some latency.pyStr) (some jitter.pyStr) (corr.getD (.int 0)).pyStr).words,
        Shlex.Plain word := by
  rw [← plain_command named (by decide : 0 ≤ 1)]
  unfold setDelay
  apply call_eq_ok
  · simp [Discipline.command, Discipline.place, Discipline.words, qdiscParent]
  · simp [Discipline.command]

theorem setRate_eq_ok {rate : Value} {burst latency : Option Value} {root : Bool} {n : Nat}
    (level : n = if root then 0 else 1) :
    setRate nic rate burst latency root = .ok (Discipline.command nic n
        (.tbf rate.pyStr (burst.getD (.str "100kbit")).pyStr (latency.getD (.int 20)).pyStr)) ↔
      ∀ word ∈ (Discipline.tbf rate.pyStr (burst.getD (.str "100kbit")).pyStr (latency.getD (.int 20)).pyStr).words,
        Shlex.Plain word := by
  have below : Discipline.place 1 = ["parent", "1:", "handle", "2:"] := by decide
  have small : n ≤ 1 := by
    rw [level]
    cases root <;> decide
  rw [← plain_command named small]
  unfold setRate
  subst level
  apply call_eq_ok
  · cases root with
    | true => simp [Discipline.command, Discipline.place, Discipline.words, qdiscParent]
    | false => simp [Discipline.command, below, Discipline.words, qdiscChild]
  · simp [Discipline.command]

end Calls

section Object

variable {float : String → String} {host : GatewayHost} {nic text : String} {args : Dict String Value}

section Sequence

variable {x y : Except PyError (List String)} {clean a b : List String}

theorem only_rate :
    (do
        let delay ← (.ok [] : Except PyError (List (List String)))
        let rate ← (do
          let words ← x
          return [words])
        return clean :: delay ++ rate) = .ok [clean, a] ↔ x = .ok a := by
  cases x <;> simp [bind, Except.bind, pure, Except.pure]

theorem only_delay :
    (do
        let delay ← (do
          let words ← x
          return [words])
        let rate ← (.ok [] : Except PyError (List (List String)))
        return clean :: delay ++ rate) = .ok [clean, a] ↔ x = .ok a := by
  cases x <;> simp [bind, Except.bind, pure, Except.pure]

theorem delay_and_rate :
    (do
        let delay ← (do
          let words ← x
          return [words])
        let rate ← (do
          let words ← y
          return [words])
        return clean :: delay ++ rate) = .ok [clean, a, b] ↔ x = .ok a ∧ y = .ok b := by
  cases x <;> cases y <;> simp [bind, Except.bind, pure, Except.pure]

end Sequence

theorem netemCalls_dict (named : Shlex.Plain nic) : netemCalls nic (.dict args) = (do
    let delay ← delayCalls nic args
    let rate ← rateCalls nic args
    return ["tc", "qdisc", "del", "dev", nic, "root"] :: delay ++ rate) := by
  unfold netemCalls
  rw [cleanNetem_eq named]
  rfl

theorem netemCalls_raises {value : Value} (other : ∀ args, value ≠ .dict args) {calls : List (List String)} :
    netemCalls nic value ≠ .ok calls := by
  intro made
  obtain ⟨clean, -, made⟩ := bind_ok made
  cases value with
  | dict args => exact other args rfl
  | none | bool | int | float | str | list => cases made

theorem imposable_iff : Imposable args ↔ (givenArg args "latency").isSome = (givenArg args "jitter").isSome ∧
    ∀ discipline ∈ disciplines args, ∀ word ∈ discipline.words, Shlex.Plain word := by
  constructor
  · exact fun imposable => ⟨imposable.paired, imposable.plain⟩
  · exact fun both => ⟨both.1, both.2⟩

theorem setup_one (d : Discipline) :
    Discipline.setup nic [d] = [["tc", "qdisc", "del", "dev", nic, "root"], Discipline.command nic 0 d] := rfl

theorem setup_two (d e : Discipline) : Discipline.setup nic [d, e] =
    [["tc", "qdisc", "del", "dev", nic, "root"], Discipline.command nic 0 d, Discipline.command nic 1 e] := rfl

theorem length_rateCalls {calls : List (List String)} (made : rateCalls nic args = .ok calls) :
    calls.length = (givenArg args "rate").toList.length := by
  unfold rateCalls at made
  cases rate : givenArg args "rate" with
  | none =>
    simp only [rate] at made
    cases made
    rfl
  | some value =>
    simp only [rate] at made
    obtain ⟨words, -, made⟩ := bind_ok made
    cases made
    rfl

/-- A latency or a jitter alone specifies a discipline, and no command sets it up. -/
theorem netemCalls_ne (named : Shlex.Plain nic)
    (unpaired : (givenArg args "latency").isSome ≠ (givenArg args "jitter").isSome) :
    netemCalls nic (.dict args) ≠ .ok (Discipline.setup nic (disciplines args)) := by
  intro made
  have noDelay : delayCalls nic args = .ok [] := by
    unfold delayCalls
    cases latency : givenArg args "latency" with
    | none => rfl
    | some first =>
      cases jitter : givenArg args "jitter" with
      | none => rfl
      | some second => simp [latency, jitter] at unpaired
  have length : (disciplines args).length = 1 + (givenArg args "rate").toList.length := by
    unfold disciplines
    cases latency : givenArg args "latency" with
    | none =>
      cases jitter : givenArg args "jitter" with
      | none => simp [latency, jitter] at unpaired
      | some second => simp [Option.length_toList, Nat.add_comm]
    | some first => simp [Option.length_toList, Nat.add_comm]
  rw [netemCalls_dict named, noDelay] at made
  obtain ⟨delay, same, made⟩ := bind_ok made
  obtain ⟨rate, rates, made⟩ := bind_ok made
  cases same
  have counted := congrArg List.length (Except.ok.inj made)
  simp only [Discipline.setup, List.length_cons, List.length_append, List.length_map, List.length_zipIdx, length,
    List.length_nil, length_rateCalls rates] at counted
  omega

/-- The commands of one object set up its disciplines exactly when it is imposable. -/
theorem netemCalls_eq_iff (named : Shlex.Plain nic) :
    netemCalls nic (.dict args) = .ok (Discipline.setup nic (disciplines args)) ↔ Imposable args := by
  rw [imposable_iff]
  by_cases paired : (givenArg args "latency").isSome = (givenArg args "jitter").isSome
  · rw [and_iff_right paired, netemCalls_dict named]
    cases latency : givenArg args "latency" with
    | none =>
      have noJitter : givenArg args "jitter" = none := by
        rw [latency] at paired
        exact Option.not_isSome_iff_eq_none.mp (by simp [← paired])
      have noDelay : delayCalls nic args = .ok [] := by simp [delayCalls, latency]
      cases rate : givenArg args "rate" with
      | none =>
        have chain : disciplines args = [] := by simp [disciplines, latency, noJitter, rate]
        have noRate : rateCalls nic args = .ok [] := by simp [rateCalls, rate]
        rw [chain, noRate, noDelay]
        exact iff_of_true rfl (by simp)
      | some value =>
        have chain : disciplines args = [.tbf value.pyStr ((givenArg args "rate_burst").getD (.str "100kbit")).pyStr
            ((givenArg args "rate_latency").getD (.int 20)).pyStr] := by
          simp [disciplines, latency, noJitter, rate]
        -- without a delay the rate is at the root
        have atRoot : rateCalls nic args = (do
            let words ← setRate nic value (givenArg args "rate_burst") (givenArg args "rate_latency") true
            return [words]) := by
          simp [rateCalls, latency, rate]
        rw [chain, atRoot, noDelay, setup_one, only_rate,
          setRate_eq_ok named (rfl : (0 : Nat) = if true then 0 else 1), List.forall_mem_singleton]
    | some first =>
      obtain ⟨second, jitter⟩ : ∃ second, givenArg args "jitter" = some second := by
        rw [latency] at paired
        exact Option.isSome_iff_exists.mp paired.symm
      have delay : delayCalls nic args = (do
          let words ← setDelay nic first second (givenArg args "correlation") true
          return [words]) := by
        simp [delayCalls, latency, jitter]
      cases rate : givenArg args "rate" with
      | none =>
        have chain : disciplines args = [.netem (some first.pyStr) (some second.pyStr)
            ((givenArg args "correlation").getD (.int 0)).pyStr] := by
          simp [disciplines, latency, jitter, rate]
        have noRate : rateCalls nic args = .ok [] := by simp [rateCalls, rate]
        rw [chain, delay, noRate, setup_one, only_delay, setDelay_eq_ok named, List.forall_mem_singleton]
      | some value =>
        have chain : disciplines args = [.netem (some first.pyStr) (some second.pyStr)
            ((givenArg args "correlation").getD (.int 0)).pyStr,
            .tbf value.pyStr ((givenArg args "rate_burst").getD (.str "100kbit")).pyStr
              ((givenArg args "rate_latency").getD (.int 20)).pyStr] := by
          simp [disciplines, latency, jitter, rate]
        -- with one it is its child
        have below : rateCalls nic args = (do
            let words ← setRate nic value (givenArg args "rate_burst") (givenArg args "rate_latency") false
            return [words]) := by
          simp [rateCalls, latency, jitter, rate]
        rw [chain, delay, below, setup_two, delay_and_rate, setDelay_eq_ok named,
          setRate_eq_ok named (rfl : (1 : Nat) = if false then 0 else 1), List.forall_mem_cons,
          List.forall_mem_singleton]
  -- a delay without a jitter, or a jitter without a delay
  · exact iff_of_false (netemCalls_ne named paired) fun both => paired both.1

theorem findChaosInterface_host (host : GatewayHost) : host.toInterfaces.findChaosInterface = .ok host.nic := by
  have first := host.first
  unfold Interfaces.findChaosInterface
  cases candidates : host.toInterfaces.candidates with
  | nil =>
    rw [candidates] at first
    cases first
  | cons nic rest =>
    rw [candidates] at first
    cases first
    rfl

theorem createChaos_of_loaded {value : Value} (loaded : Json.loads float text = some value) :
    createChaos float host.toInterfaces [text] = netemCalls host.nic value := by
  unfold createChaos
  simp only [findChaosInterface_host, loaded]
  rfl

theorem createChaos_of_not_loaded (invalid : Json.loads float text = none) :
    createChaos float host.toInterfaces [text] = .error .valueError := by
  unfold createChaos
  simp only [findChaosInterface_host, invalid]
  rfl

theorem createChaos_eq_iff {chain : List Discipline}
    (specified : ∀ args, Json.loads float text = some (.dict args) → disciplines args = chain) :
    createChaos float host.toInterfaces [text] = .ok (Discipline.setup host.nic chain) ↔
      ∃ args, Json.loads float text = some (.dict args) ∧ Imposable args := by
  cases loaded : Json.loads float text with
  | none =>
    rw [createChaos_of_not_loaded loaded]
    exact iff_of_false (by simp) (by simp)
  | some value =>
    rw [createChaos_of_loaded loaded]
    cases value with
    | dict args =>
      have same := specified args loaded
      subst same
      refine (netemCalls_eq_iff host.plain).trans ?_
      constructor
      · exact fun imposable => ⟨args, rfl, imposable⟩
      · intro read
        obtain ⟨others, same, imposable⟩ := read
        cases same
        exact imposable
    | none | bool | int | float | str | list =>
      exact iff_of_false (netemCalls_raises (by simp)) (by simp)

theorem createChaos_single {items : List String} {calls : List (List String)}
    (made : createChaos float host.toInterfaces items = .ok calls) : ∃ text, items = [text] := by
  obtain ⟨nic, -, made⟩ := bind_ok made
  cases items with
  | nil => cases made
  | cons text rest =>
    cases rest with
    | nil => exact ⟨text, rfl⟩
    | cons next others => cases made

end Object

theorem containerWords_eq_some {command : List Value} {words : List String}
    (read : containerWords command = some words) : command = words.map Value.str := by
  induction command generalizing words with
  | nil =>
    cases read
    rfl
  | cons word rest ih =>
    rw [containerWords, List.mapM_cons] at read
    cases word with
    | str text =>
      simp only [Option.bind_eq_bind, Option.bind_some, Option.bind_eq_some_iff, Option.pure_def,
        Option.some.injEq] at read
      obtain ⟨others, later, rfl⟩ := read
      rw [List.map_cons, ih later]
    | none | bool | int | float | list | dict => cases read

section Single

variable {float : String → String} {host : GatewayHost} {network : Network} {text : String} {args : Dict String Value}

theorem object_of_imposes (imposes : ImposesConditions float host network) : ∃ text args,
    network.netem = [.str text] ∧ Json.loads float text = some (.dict args) ∧ Imposable args := by
  obtain ⟨words, items, command, parsed, made⟩ := imposes
  have texts := containerWords_eq_some command
  cases words with
  | nil => cases texts
  | cons gateway texts' =>
    obtain ⟨same, netem⟩ := List.cons.inj texts
    cases same
    rw [gatewayItems_gateway] at parsed
    cases parsed
    obtain ⟨text, rfl⟩ := createChaos_single made
    have specified : ∀ args, Json.loads float text = some (.dict args) →
        disciplines args = network.specified float := by
      intro args loaded
      simp [Network.specified, netem, loaded]
    obtain ⟨args, loaded, imposable⟩ := (createChaos_eq_iff specified).mp made
    exact ⟨text, args, netem, loaded, imposable⟩

theorem imposes_of_object (single : network.netem = [.str text]) (loaded : Json.loads float text = some (.dict args))
    (imposable : Imposable args) : ImposesConditions float host network := by
  have specified : network.specified float = disciplines args := by
    simp [Network.specified, single, loaded]
  refine ⟨["gateway", text], [text], ?_, gatewayItems_gateway [text], ?_⟩
  · simp [containerWords, Network.cmdGateway, single]
  · rw [specified, createChaos_eq_iff]
    · exact ⟨args, loaded, imposable⟩
    · intro others same
      rw [loaded] at same
      cases same
      rfl

end Single

/-- The conditions of a network are imposed exactly when its one item is the text of an object that
can be imposed, and the user leaves the command of the gateway alone. -/
theorem imposesConditions_iff (float : String → String) (rt : Runtime) (t : Topology) (host : GatewayHost)
    (network : Network) :
    GatewayService rt t network ∧ ImposesConditions float host network ↔
      GatewayService rt t network ∧ ∃ text args, network.netem = [.str text] ∧
        Json.loads float text = some (.dict args) ∧ Imposable args := by
  apply and_congr_right
  intro _
  constructor
  · exact object_of_imposes
  · intro one
    obtain ⟨text, args, single, loaded, imposable⟩ := one
    exact imposes_of_object single loaded imposable

/-! A container between two networks, and a network without conditions. -/

def plainHost : GatewayHost where
  all := ["lo", "eth0", "eth1"]
  gateway := some "eth1"
  nic := "eth0"
  first := rfl
  plain := by decide

def bareTopology : Topology where
  nodes := []
  distinct_nodes := rfl
  distinct_services := rfl

/-- Without an item the check of `create_chaos` fails. -/
theorem bareNetwork_fails :
    GatewayService Runtime.plain bareTopology (Network.init Runtime.plain "net" [] none []) ∧
      createChaos id plainHost.toInterfaces [] = .error .assertionError ∧
      ¬ ImposesConditions id plainHost (Network.init Runtime.plain "net" [] none []) := by
  refine ⟨⟨_, rfl, rfl⟩, rfl, ?_⟩
  intro imposes
  obtain ⟨text, args, single, -⟩ := object_of_imposes imposes
  cases single

section Predefined

variable {float : String → String}

theorem loads_netem (latency jitter : Nat) {rate : String} (plain : Json.Unescaped rate.toList) :
    Json.loads float (netem latency jitter rate) =
      some (.dict [("latency", .int latency), ("jitter", .int jitter), ("rate", .str rate)]) := by
  have text : (netem latency jitter rate).toList = '\x7b' :: '"' :: ("latency".toList ++ '"' :: ':' :: ' ' ::
      (Nat.toDigits 10 latency ++ ',' :: ' ' :: '"' :: ("jitter".toList ++ '"' :: ':' :: ' ' ::
      (Nat.toDigits 10 jitter ++ ',' :: ' ' :: '"' :: ("rate".toList ++ '"' :: ':' :: ' ' :: '"' ::
      (rate.toList ++ '"' :: '\x7d' :: [])))))) := by
    have latencyDigits : (toString latency).toList = Nat.toDigits 10 latency := Nat.toList_repr
    have jitterDigits : (toString jitter).toList = Nat.toDigits 10 jitter := Nat.toList_repr
    unfold netem
    simp only [String.toList_append, latencyDigits, jitterDigits]
    simp
  have names : ∀ name ∈ ["latency", "jitter", "rate"], Json.Unescaped name.toList := by decide
  unfold Json.loads
  rw [text, Json.lex_token rfl, Json.lex_quoted (names _ (by simp)), Json.lex_token rfl, Json.lex_space,
    Json.lex_number latency (by decide) rfl, Json.lex_space, Json.lex_quoted (names _ (by simp)), Json.lex_token rfl,
    Json.lex_space, Json.lex_number jitter (by decide) rfl, Json.lex_space, Json.lex_quoted (names _ (by simp)),
    Json.lex_token rfl, Json.lex_space, Json.lex_quoted plain, Json.lex_token rfl]
  simp only [Json.lex, Option.map_some, Option.bind_some, String.ofList_toList]
  rfl

theorem gatewayService_of_absent {rt : Runtime} {t : Topology} {network : Network}
    (command : "command" ∉ Dict.keys network.argsComposeGw)
    (environment : "environment" ∉ Dict.keys network.argsComposeGw) : GatewayService rt t network := by
  have frame : ∀ (service : Dict String Value) (key : String), key ∉ Dict.keys network.argsComposeGw →
      Dict.value? (mergeArgsCompose rt service network.argsComposeGw) key = Dict.value? service key := by
    intro service key absent
    unfold mergeArgsCompose
    split
    · rfl
    · exact rt.merge_frame _ _ _ absent
  have merged := (frame (Dict.update serviceBaseGateway
    [("image", imageOverride rt), ("command", .list network.cmdGateway), ("networks", .ofStrings [network.name]),
     ("depends_on", .ofStrings (coreDependsOn t))]) "environment" environment).trans
    (rfl : _ = some (Value.dict environmentBase))
  obtain ⟨result, configured⟩ := @mergeTopologyConfig_ok t _ _ merged
  refine ⟨.dict result, ?_, ?_⟩
  · unfold getNetworkGatewayDefinition
    dsimp only
    rw [configured]
    rfl
  · rw [Value.field, mergeTopologyConfig_frame configured (by decide), frame _ _ command]
    rfl

theorem predefined_imposed (rt : Runtime) (host : GatewayHost) (name : String) (conditions : NetworkConditions)
    (argsComposeGw : Dict String Value) :
    ImposesConditions float host (Network.init rt name [] (some conditions) argsComposeGw) := by
  have imposed : ∀ {latency jitter : Nat} {rate : String}, netemConditions conditions = [netem latency jitter rate] →
      Json.Unescaped rate.toList →
      Imposable [("latency", .int latency), ("jitter", .int jitter), ("rate", .str rate)] →
      ImposesConditions float host (Network.init rt name [] (some conditions) argsComposeGw) := by
    intro latency jitter rate predefined plain imposable
    have single : (Network.init rt name [] (some conditions) argsComposeGw).netem =
        [.str (netem latency jitter rate)] := by
      simp [Network.init, predefined]
    exact imposes_of_object single (loads_netem latency jitter plain) imposable
  cases conditions with
  | gprs => exact imposed rfl (by decide) ⟨rfl, by decide⟩
  | edge => exact imposed rfl (by decide) ⟨rfl, by decide⟩
  | regular3g => exact imposed rfl (by decide) ⟨rfl, by decide⟩
  | fast3g => exact imposed rfl (by decide) ⟨rfl, by decide⟩
  | lte => exact imposed rfl (by decide) ⟨rfl, by decide⟩
  | wifi => exact imposed rfl (by decide) ⟨rfl, by decide⟩
  | cable => exact imposed rfl (by decide) ⟨rfl, by decide⟩

theorem predefined_conditions_imposed (float : String → String) (rt : Runtime) (t : Topology) (host : GatewayHost)
    (name : String) (conditions : NetworkConditions) {argsComposeGw : Dict String Value}
    (command : "command" ∉ Dict.keys argsComposeGw) (environment : "environment" ∉ Dict.keys argsComposeGw) :
    GatewayService rt t (Network.init rt name [] (some conditions) argsComposeGw) ∧
      ImposesConditions float host (Network.init rt name [] (some conditions) argsComposeGw) :=
  ⟨gatewayService_of_absent command environment, predefined_imposed rt host name conditions argsComposeGw⟩

theorem wifi_imposed : GatewayService Runtime.plain bareTopology (Network.init Runtime.plain "net" [] (some .wifi) []) ∧
    ImposesConditions id plainHost (Network.init Runtime.plain "net" [] (some .wifi) []) :=
  predefined_conditions_imposed id Runtime.plain bareTopology plainHost "net" .wifi List.not_mem_nil List.not_mem_nil

end Predefined

end Wotemu
