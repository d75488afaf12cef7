import Wotemu.Topology.Effects

/-! Topologies that share what their callers passed.

The topologies of a program are used in any order. What they share stays as it
was, and every definition is the first one, exactly when no list of brokers is
extended: reading the brokers of a topology adds those of its nodes.
-/

set_option autoImplicit false

namespace Wotemu.InPlace

open Wotemu.Foundation

variable {ι : Type}

structure Call (ι : Type) where
  topology : ι
  operation : Operation
  deriving DecidableEq

def Operation.readsBrokers : Operation → Bool
  | .toComposeDict | .brokers | .networks => true
  | .services => false

def after {α : Type} (program : Program α) (memory : Memory) : Memory :=
  match program memory with
  | .ok _ left | .error _ left => left

def outcome {α : Type} (program : Program α) (memory : Memory) : Except PyError α :=
  match program memory with
  | .ok value _ => .ok value
  | .error why _ => .error why

section Runs

variable (rt : Runtime) (merger : Merger) (topologies : ι → TopologyObject)

def Call.perform (call : Call ι) : Program Returned := call.operation.perform rt merger (topologies call.topology)

def Memory.start (lists : Nat → List Broker) : Memory := ⟨lists, []⟩

/-- The memory after some calls, one after the other; a caller goes on after an exception. -/
def afterCalls (calls : List (Call ι)) (memory : Memory) : Memory :=
  calls.foldl (fun memory call => after (call.perform rt merger topologies) memory) memory

/-- Nothing that callers can see has changed, and every definition is what it would have been first. -/
structure Undisturbed (calls : List (Call ι)) (lists : Nat → List Broker) : Prop where
  kept : ∀ earlier later, calls = earlier ++ later →
    (afterCalls rt merger topologies earlier (.start lists)).lists = lists
  dictionaries : ∀ owner ∈ (afterCalls rt merger topologies calls (.start lists)).writes, owner = .made
  definitions : ∀ earlier call later, calls = earlier ++ call :: later → call.operation = .toComposeDict →
    outcome (call.perform rt merger topologies) (afterCalls rt merger topologies earlier (.start lists)) =
      outcome (call.perform rt merger topologies) (.start lists)

end Runs

section Calls

variable {rt : Runtime} {merger : Merger} (deep : merger.IntoBase) {topologies : ι → TopologyObject}

theorem effect_of_keeps {α : Type} {o : TopologyObject} {reads : Nat} {program : Program α} {post : α → Prop}
    (keeps : Keeps (Effect o reads) program post) (memory : Memory) : Effect o reads memory (after program memory) := by
  have holds := keeps memory
  unfold after
  cases run : program memory with
  | ok value left =>
    rw [run] at holds
    exact holds.1
  | error why left =>
    rw [run] at holds
    exact holds

theorem outcome_of_respects {α : Type} {program : Program α} (respects : Respects SameLists program)
    {left right : Memory} (same : left.lists = right.lists) : outcome program left = outcome program right := by
  have ends := respects left right same
  unfold outcome
  cases runLeft : program left with
  | ok value left' =>
    cases runRight : program right with
    | ok other right' =>
      rw [runLeft, runRight] at ends
      exact congrArg Except.ok ends.1
    | error why right' =>
      rw [runLeft, runRight] at ends
      exact ends.elim
  | error why left' =>
    cases runRight : program right with
    | ok other right' =>
      rw [runLeft, runRight] at ends
      exact ends.elim
    | error other right' =>
      rw [runLeft, runRight] at ends
      exact congrArg Except.error ends.1

include deep in
theorem keeps_perform (o : TopologyObject) (operation : Operation) :
    Keeps (Effect o operation.readsBrokers.toNat) (operation.perform rt merger o) (fun _ => True) := by
  cases operation with
  | toComposeDict => exact keeps_bind (keeps_getTopologyDefinition deep rt o) (fun _ _ => keeps_pure trivial)
  | brokers => exact keeps_bind (keeps_brokers rt o) (fun _ _ => keeps_pure trivial)
  | networks => exact keeps_bind (keeps_networks rt o) (fun _ _ => keeps_pure trivial)
  | services => exact keeps_pure trivial

theorem respects_perform (o : TopologyObject) (operation : Operation) :
    Respects SameLists (operation.perform rt merger o) := by
  cases operation with
  | toComposeDict => exact (respects_getTopologyDefinition merger rt o).bind (fun _ => Respects.pure _)
  | brokers => exact (respects_brokers rt o).bind (fun _ => Respects.pure _)
  | networks => exact (respects_networks rt o).bind (fun _ => Respects.pure _)
  | services => exact Respects.pure _

/-- A call that reads no brokers, or leaves every list alone when it does. -/
def Call.Still (topologies : ι → TopologyObject) (lists : Nat → List Broker) (call : Call ι) : Prop :=
  call.operation.readsBrokers = true → InPlace.Still (topologies call.topology) lists

include deep in
theorem effect_perform (call : Call ι) (memory : Memory) :
    Effect (topologies call.topology) call.operation.readsBrokers.toNat memory
      (after (call.perform rt merger topologies) memory) :=
  effect_of_keeps (keeps_perform deep _ _) memory

include deep in
/-- One call grows the list of its topology, and leaves it alone only if that changes nothing. -/
theorem lists_after_perform (call : Call ι) (memory : Memory) :
    (after (call.perform rt merger topologies) memory).lists = memory.lists ↔ call.Still topologies memory.lists := by
  have effect : Effect _ _ memory (after (call.perform rt merger topologies) memory) := effect_perform deep call memory
  obtain ⟨n, enough, grown⟩ := effect.lists
  constructor
  · intro same reads
    rw [reads] at enough
    exact still_of_iterate enough (grown.symm.trans same)
  · intro still
    by_cases reads : call.operation.readsBrokers = true
    · exact grown.trans (iterate_of_still (still reads) n)
    · obtain ⟨which, operation⟩ := call
      cases operation with
      | services => rfl
      | toComposeDict | brokers | networks => exact absurd rfl reads

theorem afterCalls_append (earlier later : List (Call ι)) (memory : Memory) :
    afterCalls rt merger topologies (earlier ++ later) memory =
      afterCalls rt merger topologies later (afterCalls rt merger topologies earlier memory) :=
  List.foldl_append

include deep in
theorem lists_afterCalls {calls : List (Call ι)} {lists : Nat → List Broker}
    (still : ∀ call ∈ calls, call.Still topologies lists) {memory : Memory} (start : memory.lists = lists) :
    (afterCalls rt merger topologies calls memory).lists = lists := by
  induction calls generalizing memory with
  | nil => exact start
  | cons call rest ih =>
    apply ih (fun other member => still other (List.mem_cons_of_mem _ member))
    have first := still call (List.mem_cons_self ..)
    exact ((lists_after_perform deep call memory).mpr (start ▸ first)).trans start

include deep in
/-- No call changes a dictionary of its user or a base, whatever is in the lists. -/
theorem writes_afterCalls {calls : List (Call ι)} {memory : Memory}
    (start : ∀ owner ∈ memory.writes, owner = .made) :
    ∀ owner ∈ (afterCalls rt merger topologies calls memory).writes, owner = .made := by
  induction calls generalizing memory with
  | nil => exact start
  | cons call rest ih =>
    apply ih
    have effect : Effect _ _ memory (after (call.perform rt merger topologies) memory) :=
      effect_perform deep call memory
    obtain ⟨made, equation, each⟩ := effect.writes
    intro owner member
    have member : owner ∈ memory.writes ++ made := equation ▸ member
    exact (List.mem_append.mp member).elim (start owner) (each owner)

end Calls

/-- What the callers share is left alone, and every definition is the first one, exactly when each
topology whose brokers are read was passed an empty list or has no node with a broker. -/
theorem undisturbed_iff_still (rt : Runtime) (merger : Merger) (deep : merger.IntoBase)
    (topologies : ι → TopologyObject) (calls : List (Call ι)) (lists : Nat → List Broker) :
    Undisturbed rt merger topologies calls lists ↔ ∀ call ∈ calls, call.Still topologies lists := by
  constructor
  · intro undisturbed call member
    obtain ⟨earlier, later, rfl⟩ := List.append_of_mem member
    have reached := undisturbed.kept earlier (call :: later) rfl
    have left := undisturbed.kept (earlier ++ [call]) later (by simp)
    rw [afterCalls_append] at left
    rw [← reached]
    exact (lists_after_perform deep call _).mp (left.trans reached.symm)
  · intro still
    have reached : ∀ earlier later, calls = earlier ++ later →
        (afterCalls rt merger topologies earlier (.start lists)).lists = lists := by
      intro earlier later split
      exact lists_afterCalls deep (fun call member => still call (split ▸ List.mem_append_left _ member)) rfl
    constructor
    · exact reached
    · exact writes_afterCalls deep (by simp [Memory.start])
    · intro earlier call later split _
      exact outcome_of_respects (respects_perform _ _) (reached earlier (call :: later) split)

def sharing (broker : Option Broker) (first : Bool) : TopologyObject where
  topology := {
    nodes := [{ name := "clock", app := { pathArg := .inl .clock }, networks := [{ name := "net" }],
                broker := if first then broker else none, broker_of_mqtt := by simp,
                broker_network_attached := by simp, services := [], services_distinct := List.nodup_nil }]
    distinct_nodes := by cases first <;> rfl
    distinct_services := by cases first <;> rfl }
  list := 0
  plain_scale := by simp
  plain_speed := by simp

def listedBroker : Broker := ⟨"listed", [{ name := "net" }], []⟩

theorem withoutBrokers_undisturbed : Undisturbed .plain .always (sharing none)
    [⟨true, .brokers⟩, ⟨false, .toComposeDict⟩, ⟨true, .toComposeDict⟩] (fun _ => [listedBroker]) := by
  apply (undisturbed_iff_still .plain .always Merger.always_intoBase _ _ _).mpr
  intro call member reads
  apply Or.inr
  cases call.topology <;> rfl

/-- Reading the brokers of the first topology puts its own broker into the list of the second. -/
theorem sharedList_disturbed : ¬ Undisturbed .plain .always (sharing (some ⟨"own", [{ name := "net" }], []⟩))
    [⟨true, .brokers⟩, ⟨false, .toComposeDict⟩] (fun _ => [listedBroker]) := by
  intro undisturbed
  have same := congrFun (undisturbed.kept [⟨true, .brokers⟩] [⟨false, .toComposeDict⟩] rfl) 0
  have lengths := congrArg List.length same
  exact absurd lengths (by decide)

end Wotemu.InPlace
