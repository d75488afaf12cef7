import Mathlib.Logic.Function.Iterate
import Wotemu.Topology.InPlace

/-! What the generators change in place.

Every dictionary that they change was made by the running call: the bases are
copied before, and what a user gives is only ever merged into such a copy. The
one list that they change is the caller's list of brokers.
-/

set_option autoImplicit false

namespace Wotemu.InPlace

open Wotemu.Foundation

/-- The lists once the property `brokers` was read. -/
def grow (o : TopologyObject) (lists : Nat → List Broker) : Nat → List Broker :=
  if (lists o.list).isEmpty then lists else Function.update lists o.list (lists o.list ++ nodeBrokers o)

def Still (o : TopologyObject) (lists : Nat → List Broker) : Prop := lists o.list = [] ∨ nodeBrokers o = []

/-- At least so many reads of the brokers, and no change of a dictionary that others see. -/
structure Effect (o : TopologyObject) (reads : Nat) (before after : Memory) : Prop where
  lists : ∃ n, reads ≤ n ∧ after.lists = (grow o)^[n] before.lists
  writes : ∃ made, after.writes = before.writes ++ made ∧ ∀ owner ∈ made, owner = .made

def SameLists (left right : Memory) : Prop := left.lists = right.lists

section Growth

variable {o : TopologyObject} {lists : Nat → List Broker}

theorem grow_of_still (still : Still o lists) : grow o lists = lists := by
  unfold grow
  cases still with
  | inl empty => rw [if_pos (List.isEmpty_iff.mpr empty)]
  | inr without =>
    split
    · rfl
    · rw [without, List.append_nil, Function.update_eq_self]

theorem iterate_of_still (still : Still o lists) (n : Nat) : (grow o)^[n] lists = lists :=
  Function.iterate_fixed (grow_of_still still) n

theorem length_grow (o : TopologyObject) {lists : Nat → List Broker} (given : lists o.list ≠ []) :
    (grow o lists o.list).length = (lists o.list).length + (nodeBrokers o).length := by
  unfold grow
  rw [if_neg (fun empty => given (List.isEmpty_iff.mp empty)), Function.update_self, List.length_append]

theorem length_iterate (given : lists o.list ≠ []) (n : Nat) :
    ((grow o)^[n] lists o.list).length = (lists o.list).length + n * (nodeBrokers o).length := by
  induction n generalizing lists with
  | zero => simp
  | succ n ih =>
    have longer := length_grow o given
    have given' : grow o lists o.list ≠ [] := by
      intro empty
      rw [empty, List.length_nil] at longer
      have := List.length_pos_of_ne_nil given
      omega
    rw [Function.iterate_succ_apply, ih given', longer, Nat.succ_mul]
    omega

theorem still_of_iterate {n : Nat} (some_read : 1 ≤ n) (same : (grow o)^[n] lists = lists) : Still o lists := by
  by_cases given : lists o.list = []
  · exact Or.inl given
  · have lengths := length_iterate given n
    rw [same] at lengths
    have none_added : n * (nodeBrokers o).length = 0 := by omega
    cases Nat.mul_eq_zero.mp none_added with
    | inl zero => omega
    | inr empty => exact Or.inr (List.length_eq_zero_iff.mp empty)

end Growth

namespace Effect

variable {o : TopologyObject} {reads more : Nat} {first second third : Memory}

theorem refl (memory : Memory) : Effect o 0 memory memory where
  lists := ⟨0, Nat.le_refl 0, rfl⟩
  writes := ⟨[], (List.append_nil _).symm, by simp⟩

theorem trans (left : Effect o reads first second) (right : Effect o more second third) :
    Effect o reads first third := by
  obtain ⟨⟨n, enough, listsLeft⟩, made, writesLeft, eachLeft⟩ := left
  obtain ⟨⟨m, _, listsRight⟩, later, writesRight, eachRight⟩ := right
  constructor
  · refine ⟨m + n, by omega, ?_⟩
    rw [Function.iterate_add_apply, ← listsLeft, listsRight]
  · refine ⟨made ++ later, by rw [writesRight, writesLeft, List.append_assoc], ?_⟩
    intro owner member
    exact (List.mem_append.mp member).elim (eachLeft owner) (eachRight owner)

theorem weaken (effect : Effect o reads first second) : Effect o 0 first second where
  lists := by
    obtain ⟨n, _, same⟩ := effect.lists
    exact ⟨n, Nat.zero_le n, same⟩
  writes := effect.writes

end Effect

/-! Every program keeps to the effect, step by step. -/

section Rules

variable {α β : Type} {o : TopologyObject} {reads : Nat} {post : α → Prop} {next : β → Prop}

theorem keeps_pure {value : α} (holds : post value) : Keeps (Effect o 0) (pure value : Program α) post :=
  Keeps.pure Effect.refl holds

theorem keeps_throw (why : PyError) : Keeps (Effect o 0) (throw why : Program α) post :=
  Keeps.throw Effect.refl why

theorem keeps_bind {program : Program α} {rest : α → Program β} (first : Keeps (Effect o reads) program post)
    (second : ∀ value, post value → Keeps (Effect o 0) (rest value) next) :
    Keeps (Effect o reads) (program >>= rest) next :=
  first.bind second (fun _ _ effect => effect) (fun _ _ _ left right => left.trans right)

theorem keeps_weaken {program : Program α} (keeps : Keeps (Effect o reads) program post) :
    Keeps (Effect o 0) program post :=
  keeps.imp (fun _ _ effect => effect.weaken) (fun _ holds => holds)

theorem keeps_write {owners : List Owner} (each : ∀ owner ∈ owners, owner = .made) :
    Keeps (Effect o 0) (write owners) (fun _ => True) := by
  intro before
  exact ⟨⟨⟨0, Nat.le_refl 0, rfl⟩, owners, rfl, each⟩, trivial⟩

theorem keeps_ofExcept (result : Except PyError α) : Keeps (Effect o 0) (ofExcept result) (fun _ => True) := by
  cases result with
  | ok value => exact keeps_pure trivial
  | error why => exact keeps_throw why

theorem respects_write (owners : List Owner) : Respects SameLists (write owners) := by
  intro left right same
  exact ⟨rfl, same⟩

theorem respects_ofExcept (result : Except PyError α) : Respects SameLists (ofExcept result) := by
  cases result with
  | ok value => exact Respects.pure value
  | error why => exact Respects.throw why

end Rules

/-! The dictionaries that the generators hold. -/

def Own (obj : Obj) : Prop := ∃ entries, obj = .dict .made entries

/-- A dictionary of the call whose value under a key is changed in place at most if it is one, too. -/
def OwnAt (key : String) (obj : Obj) : Prop :=
  ∃ entries, obj = .dict .made entries ∧ ∀ value, Dict.value? entries key = some value → value.Safe

/-- A dictionary of the call, with an environment, and with nothing in it that others see. -/
structure Ready (service : Obj) : Prop where
  made : service.Made
  environment : ∃ entries envr, service = .dict .made entries ∧
    Dict.value? entries "environment" = some (.dict .made envr)

section Held

variable {key : String} {obj : Obj} {entries later : Dict String Obj}

theorem Own.safe (own : Own obj) : obj.Safe := by
  obtain ⟨entries, rfl⟩ := own
  intro owner others same
  cases same
  rfl

theorem OwnAt.own (at_key : OwnAt key obj) : Own obj := by
  obtain ⟨entries, equation, _⟩ := at_key
  exact ⟨entries, equation⟩

theorem safe_emptyDict : emptyDict.Safe := Own.safe ⟨[], rfl⟩

theorem OwnAt.nested (at_key : OwnAt key obj) : ((obj.get key).getD emptyDict).Safe := by
  obtain ⟨entries, rfl, each⟩ := at_key
  change ((Dict.value? entries key).getD emptyDict).Safe
  cases found : Dict.value? entries key with
  | none => exact safe_emptyDict
  | some value => exact each value found

theorem made_of_value? (made : (Obj.dict .made entries).Made) {value : Obj}
    (found : Dict.value? entries key = some value) : value.Made := by
  cases made with
  | dict each => exact each _ (Dict.mem_of_value? found)

theorem made_nested (made : obj.Made) : ((obj.get key).getD emptyDict).Made := by
  cases made with
  | atom | list => exact .dict (by simp)
  | dict each =>
    rename_i entries
    change ((Dict.value? entries key).getD emptyDict).Made
    cases found : Dict.value? entries key with
    | none => exact .dict (by simp)
    | some value => exact each _ (Dict.mem_of_value? found)

theorem made_update (each : ∀ entry ∈ entries, entry.2.Made) (eachLater : ∀ entry ∈ later, entry.2.Made) :
    ∀ entry ∈ Dict.update entries later, entry.2.Made := by
  induction later generalizing entries with
  | nil => exact each
  | cons first rest ih =>
    rw [Dict.update_cons]
    apply ih
    · intro entry member
      cases Dict.eq_or_mem_of_mem_assign member with
      | inl same => exact same ▸ eachLater first (List.mem_cons_self ..)
      | inr old => exact each entry old
    · exact fun entry member => eachLater entry (List.mem_cons_of_mem _ member)

theorem Ready.own (ready : Ready obj) : Own obj := by
  obtain ⟨entries, envr, equation, _⟩ := ready.environment
  exact ⟨entries, equation⟩

theorem Ready.ownAt (ready : Ready obj) (key : String) : OwnAt key obj := by
  obtain ⟨entries, rfl⟩ := ready.own
  exact ⟨entries, rfl, fun value found => (made_of_value? ready.made found).safe⟩

/-- Values of the call's own leave a service ready, unless the environment gives way to no dictionary. -/
theorem Ready.update (ready : Ready (.dict .made entries)) (eachLater : ∀ entry ∈ later, entry.2.Made)
    (environment : ∀ value, ("environment", value) ∈ later → Own value) :
    Ready (.dict .made (Dict.update entries later)) where
  made := by
    cases ready.made with
    | dict each => exact .dict (made_update each eachLater)
  environment := by
    obtain ⟨old, envr, same, found⟩ := ready.environment
    cases same
    cases last : Dict.value? later.reverse "environment" with
    | none => exact ⟨_, envr, rfl, by rw [Dict.value?_update, last, found]; rfl⟩
    | some value =>
      obtain ⟨others, rfl⟩ := environment value (List.mem_reverse.mp (Dict.mem_of_value? last))
      exact ⟨_, others, rfl, by rw [Dict.value?_update, last]; rfl⟩

theorem ready_base (label : Labels) : Ready (baseCopy (serviceBase label)) where
  made := Obj.made_deepcopy _
  environment := ⟨_, _, rfl, rfl⟩

theorem own_baseCopy (base : Dict String Value) : Own (baseCopy base) := ⟨_, rfl⟩

theorem ownAt_baseCopy (base : Dict String Value) (key : String) : OwnAt key (baseCopy base) := by
  have made : (baseCopy base).Made := Obj.made_deepcopy _
  exact ⟨_, rfl, fun value found => (made_of_value? made found).safe⟩

end Held

/-! The steps that change a dictionary. -/

section Changes

variable {o : TopologyObject} {target : Obj} {entries : Dict String Obj} {post : Obj → Prop}

theorem keeps_update (safe : target.Safe)
    (holds : ∀ old, target = .dict .made old → post (.dict .made (Dict.update old entries))) :
    Keeps (Effect o 0) (update target entries) post := by
  cases target with
  | atom | list => exact keeps_throw _
  | dict owner old =>
    have made := safe owner old rfl
    subst made
    exact keeps_bind (keeps_write (by simp)) (fun _ _ => keeps_pure (holds old rfl))

theorem keeps_update_own (safe : target.Safe) : Keeps (Effect o 0) (update target entries) Own :=
  keeps_update safe (fun _ _ => ⟨_, rfl⟩)

theorem keeps_update_ready (ready : Ready target) (each : ∀ entry ∈ entries, entry.2.Made)
    (environment : ∀ value, ("environment", value) ∈ entries → Own value) :
    Keeps (Effect o 0) (update target entries) Ready := by
  apply keeps_update ready.own.safe
  intro old same
  subst same
  exact ready.update each environment

theorem keeps_mergeInto {merger : Merger} (deep : merger.IntoBase) (made : target.Made) (next : Obj)
    (holds : post (merger.merge target next)) : Keeps (Effect o 0) (mergeInto merger target next) post :=
  keeps_bind (keeps_write (deep.writes made next)) (fun _ _ => keeps_pure holds)

theorem respects_update (target : Obj) (entries : Dict String Obj) : Respects SameLists (update target entries) := by
  cases target with
  | atom | list => exact Respects.throw _
  | dict owner old => exact (respects_write _).bind (fun _ => Respects.pure _)

theorem respects_mergeInto (merger : Merger) (base next : Obj) : Respects SameLists (mergeInto merger base next) :=
  (respects_write _).bind (fun _ => Respects.pure _)

end Changes

/-! The properties of the topology. -/

section Properties

variable (rt : Runtime) (o : TopologyObject)

theorem brokers_run (memory : Memory) : brokers rt o memory =
    .ok (rt.arrange (distinctBy Broker.name (memory.lists o.list ++ nodeBrokers o)))
      { memory with lists := grow o memory.lists } := by
  change (if (memory.lists o.list).isEmpty then _ else _ : Program (List Broker)) memory = _
  unfold grow
  by_cases empty : (memory.lists o.list).isEmpty
  · rw [if_pos empty, if_pos empty, List.isEmpty_iff.mp empty]
    rfl
  · rw [if_neg empty, if_neg empty]
    rfl

theorem keeps_brokers : Keeps (Effect o 1) (brokers rt o) (fun _ => True) := by
  intro before
  rw [brokers_run]
  exact ⟨⟨⟨1, Nat.le_refl 1, rfl⟩, [], (List.append_nil _).symm, by simp⟩, trivial⟩

theorem keeps_networks : Keeps (Effect o 1) (networks rt o) (fun _ => True) :=
  keeps_bind (keeps_brokers rt o) (fun _ _ => keeps_pure trivial)

theorem respects_brokers : Respects SameLists (brokers rt o) := by
  intro left right same
  have same : left.lists = right.lists := same
  rw [brokers_run, brokers_run, same]
  exact ⟨rfl, rfl⟩

theorem respects_networks : Respects SameLists (networks rt o) :=
  (respects_brokers rt o).bind (fun _ => Respects.pure _)

end Properties

/-! The shared parts of the generators. -/

section Parts

variable {merger : Merger} (deep : merger.IntoBase) (o : TopologyObject) {service : Obj}

theorem keeps_mergeTopologyConfig (at_environment : OwnAt "environment" service) :
    Keeps (Effect o 0) (mergeTopologyConfig o service) Own :=
  keeps_bind (keeps_update_own at_environment.nested) (fun _ _ => keeps_update_own at_environment.own.safe)

include deep in
/-- Whatever the user merges in, the environment stays a dictionary of the call or is none. -/
theorem ownAt_merge (ready : Ready service) (owner : Owner) (later : Dict String Obj) :
    OwnAt "environment" (merger.merge service (.dict owner later)) := by
  obtain ⟨entries, envr, rfl, found⟩ := ready.environment
  obtain ⟨merged, equation, each⟩ := deep.entries .made entries owner later
  obtain ⟨new, foundNew, origin⟩ := each "environment" _ found
  refine ⟨merged, equation, fun value foundValue => ?_⟩
  rw [foundNew] at foundValue
  cases foundValue
  cases origin with
  | inl same => exact Own.safe ⟨envr, same⟩
  | inr merge =>
    obtain ⟨value, _, rfl⟩ := merge
    exact deep.safe envr value

include deep in
theorem keeps_mergeArgsCompose (ready : Ready service) (argsCompose : Dict String Value) :
    Keeps (Effect o 0) (mergeArgsCompose merger service argsCompose) (OwnAt "environment") := by
  unfold mergeArgsCompose
  split
  · exact keeps_pure (ready.ownAt _)
  · exact keeps_mergeInto deep ready.made _ (ownAt_merge deep ready _ _)

theorem respects_mergeTopologyConfig (service : Obj) : Respects SameLists (mergeTopologyConfig o service) :=
  (respects_update _ _).bind (fun _ => respects_update _ _)

theorem respects_mergeArgsCompose (merger : Merger) (service : Obj) (argsCompose : Dict String Value) :
    Respects SameLists (mergeArgsCompose merger service argsCompose) := by
  unfold mergeArgsCompose
  split
  · exact Respects.pure _
  · exact respects_mergeInto _ _ _

theorem ownAt_withNested {key name : String} {nested : Obj} (each : ∀ key, OwnAt key service) (own : Own nested) :
    OwnAt key (withNested service name nested) := by
  obtain ⟨entries, rfl⟩ := (each key).own
  refine ⟨_, rfl, fun value found => ?_⟩
  rw [Dict.value?_assign] at found
  by_cases same : key = name
  · rw [if_pos same] at found
    cases found
    exact own.safe
  · rw [if_neg same] at found
    obtain ⟨others, equation, safe⟩ := each key
    cases equation
    exact safe value found

theorem keeps_mergeParam (params : Dict String Value) (param key : String) (each : ∀ key, OwnAt key service) :
    Keeps (Effect o 0) (mergeParam params param key service) (fun result => ∀ key, OwnAt key result) := by
  unfold mergeParam
  dsimp only
  split
  · apply keeps_bind (keeps_ofExcept _)
    intro entries _
    apply keeps_bind (keeps_update_own (each key).nested)
    intro nested own
    exact keeps_pure (fun name => ownAt_withNested each own)
  · exact keeps_pure each

theorem respects_mergeParam (params : Dict String Value) (param key : String) (service : Obj) :
    Respects SameLists (mergeParam params param key service) := by
  unfold mergeParam
  dsimp only
  split
  · apply (respects_ofExcept _).bind
    intro entries
    exact (respects_update _ _).bind (fun _ => Respects.pure _)
  · exact Respects.pure _

theorem keeps_deployParam (params : Dict String Value) (key field : String) (wrap : Obj → Obj) {deploy : Obj}
    (own : Own deploy) : Keeps (Effect o 0) (deployParam params key field wrap deploy) Own := by
  unfold deployParam
  dsimp only
  split
  · exact keeps_bind (keeps_ofExcept _) (fun _ _ => keeps_update_own own.safe)
  · exact keeps_pure own

theorem respects_deployParam (params : Dict String Value) (key field : String) (wrap : Obj → Obj) (deploy : Obj) :
    Respects SameLists (deployParam params key field wrap deploy) := by
  unfold deployParam
  dsimp only
  split
  · exact (respects_ofExcept _).bind (fun _ => respects_update _ _)
  · exact Respects.pure _

theorem keeps_updateDeploy (deploy : Obj) (own : Own service) :
    Keeps (Effect o 0) (updateDeploy deploy service) Own := by
  unfold updateDeploy
  split
  · exact keeps_pure own
  · exact keeps_update_own own.safe

theorem respects_updateDeploy (deploy service : Obj) : Respects SameLists (updateDeploy deploy service) := by
  unfold updateDeploy
  split
  · exact Respects.pure _
  · exact respects_update _ _

end Parts

end Wotemu.InPlace
