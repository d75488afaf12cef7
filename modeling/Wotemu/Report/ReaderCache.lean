import Wotemu.Foundation.Memory
import Wotemu.Foundation.Programs
import Wotemu.Foundation.Transition
import Wotemu.Report.Packets

/-! The cache of the queries that the report builder makes.

The cache keeps what a reader returned and gives copies away, so nobody else
can change what it keeps. Its keys need hashable arguments, and arguments that
are equal in Python make one key.
-/

set_option autoImplicit false

namespace Wotemu.ReaderCache

open Wotemu.Foundation

/-- The arguments of a call: no name is given twice. -/
structure Params (Arg : Type) where
  args : List Arg
  kwargs : Dict String Arg
  distinct : (Dict.keys kwargs).Nodup

/-- The methods of a reader, whose store does not change, with what Python decides about arguments
and `copy(deep=True)` of a frame. -/
structure Reader (Method Arg κ β α : Type) where
  hashable : Arg → Bool
  same : Arg → Arg → Bool
  read : Method → Params Arg → Except PyError (Content κ β (List α))
  copyFrame : Copier κ β α

inductive QueryError where
  | cacheMiss
  | raised (why : PyError)

structure BuilderState (Method Arg κ β α : Type) where
  cache : Dict Method (List (Params Arg × Nat))
  useCache : Bool
  memory : Memory κ β α

abbrev Program (Method Arg κ β α : Type) := EStateM QueryError (BuilderState Method Arg κ β α)

variable {Method Arg κ β α : Type}

section Queries

variable (reader : Reader Method Arg κ β α)

/-- Equality of the keys `(args, frozenset(kwargs.items()))`. -/
def sameKey (first second : Params Arg) : Bool :=
  first.args.isEqv second.args reader.same &&
    first.kwargs.length = second.kwargs.length &&
    first.kwargs.all fun item => second.kwargs.any fun other => item.1 = other.1 && reader.same item.2 other.2

def argsHashable (params : Params Arg) : Bool := params.args.all reader.hashable

def kwargsHashable (params : Params Arg) : Bool := params.kwargs.all fun item => reader.hashable item.2

/-- The set of the keyword arguments hashes them at once. -/
def serializeParams (params : Params Arg) : Program Method Arg κ β α (Params Arg) :=
  if kwargsHashable reader params then return params else throw (.raised .typeError)

/-- `hash(params_key)`, which hashes the positional arguments too. -/
def hashKey (key : Params Arg) : Program Method Arg κ β α Unit :=
  if argsHashable reader key then return () else throw (.raised .typeError)

def inMemory (operation : Memory κ β α → Nat × Memory κ β α) : Program Method Arg κ β α Nat :=
  modifyGet fun state => ((operation state.memory).1, { state with memory := (operation state.memory).2 })

def newObject (value : Content κ β (List α)) : Program Method Arg κ β α Nat :=
  inMemory fun memory => memory.make value

/-- `await func(*args, **kwargs)`: what is returned is new. -/
def call (func : Method) (params : Params Arg) : Program Method Arg κ β α Nat :=
  match reader.read func params with
  | .error why => throw (.raised why)
  | .ok value => newObject value

/-- A frame is copied by pandas, anything else by `copy.deepcopy`. -/
def copier : Copier κ β α where
  copy := fun memory object => match memory.content object with
    | .table _ => reader.copyFrame.copy memory object
    | .plain _ => Copier.deep.copy memory object
  made := by
    intro memory object has
    split
    · exact reader.copyFrame.made memory object has
    · exact Copier.deep.made memory object has
  value := by
    intro memory object has
    split
    · exact reader.copyFrame.value memory object has
    · exact Copier.deep.value memory object has

def getCopy (result : Nat) : Program Method Arg κ β α Nat := inMemory fun memory => (copier reader).copy memory result

def lookup (entries : List (Params Arg × Nat)) (key : Params Arg) : Option Nat :=
  (entries.find? fun entry => sameKey reader entry.1 key).map Prod.snd

/-- An equal key keeps its place, as the first one that was written. -/
def store (entries : List (Params Arg × Nat)) (key : Params Arg) (result : Nat) : List (Params Arg × Nat) :=
  match entries with
  | [] => [(key, result)]
  | entry :: rest =>
    if sameKey reader entry.1 key then (entry.1, result) :: rest else entry :: store rest key result

variable [DecidableEq Method]

def cacheGet (func : Method) (params : Params Arg) : Program Method Arg κ β α Nat := do
  let key ← serializeParams reader params
  match Dict.value? (← get).cache func with
  | none => throw .cacheMiss
  | some entries => do
    hashKey reader key
    match lookup reader entries key with
    | none => throw .cacheMiss
    | some result => return result

def cacheSet (func : Method) (params : Params Arg) (result : Nat) : Program Method Arg κ β α Unit := do
  let key ← serializeParams reader params
  modify fun state => { state with
    cache := Dict.assign state.cache func ((Dict.value? state.cache func).getD []) }
  hashKey reader key
  modify fun state => { state with
    cache := Dict.assign state.cache func (store reader ((Dict.value? state.cache func).getD []) key result) }

def readerExec (func : Method) (params : Params Arg) : Program Method Arg κ β α Nat := do
  if (← get).useCache then
    let result ← tryCatch (cacheGet reader func params) fun
      | .cacheMiss => do
        let result ← call reader func params
        cacheSet reader func params result
        return result
      | why => throw why
    getCopy reader result
  else call reader func params

end Queries

def resetCache : Program Method Arg κ β α Unit := modify fun state => { state with cache := [] }

/-- A builder and what its callers can reach: what they were given, and what they made of it. -/
structure Session (Method Arg κ β α : Type) where
  builder : BuilderState Method Arg κ β α
  callers : Reach

/-- `ReportBuilder.__init__` -/
def Session.start (useCache : Bool) : Session Method Arg κ β α where
  builder := { cache := [], useCache, memory := Memory.empty }
  callers := Reach.empty

def Session.uncached (session : Session Method Arg κ β α) : Session Method Arg κ β α :=
  { session with builder.useCache := false }

inductive Event (Method Arg κ β α : Type) where
  | query (func : Method) (params : Params Arg)
  | change (change : Change κ β α)
  | resetCache
  | setUseCache (useCache : Bool)

section Sessions

variable (reader : Reader Method Arg κ β α)

/-- The key of a query can be made, and no earlier query of the method has the key and reads otherwise. -/
structure Told (earlier : List (Event Method Arg κ β α)) (func : Method) (params : Params Arg) : Prop where
  args : argsHashable reader params = true
  kwargs : kwargsHashable reader params = true
  alike : ∀ other, .query func other ∈ earlier → sameKey reader other params = true →
    reader.read func other = reader.read func params

variable [DecidableEq Method]

def step : Transition (Session Method Arg κ β α) (Event Method Arg κ β α)
  | session, .query func params => match readerExec reader func params session.builder with
    | .ok object builder => some ⟨builder, session.callers.receive builder.memory object⟩
    | .error _ builder => some ⟨builder, session.callers⟩
  | session, .change change => (session.callers.change session.builder.memory change).map fun (callers, memory) =>
    ⟨{ session.builder with memory }, callers⟩
  | session, .resetCache => match resetCache session.builder with
    | .ok _ builder | .error _ builder => some ⟨builder, session.callers⟩
  | session, .setUseCache useCache => some { session with builder.useCache := useCache }

def answer (session : Session Method Arg κ β α) (func : Method) (params : Params Arg) :
    Except QueryError (Content κ β (List α)) :=
  match readerExec reader func params session.builder with
  | .ok object builder => .ok (builder.memory.value object)
  | .error why _ => .error why

/-- After any earlier events, a query with the cache on is answered as with the cache off. -/
def Transparent (useCache : Bool) (earlier : List (Event Method Arg κ β α)) (func : Method)
    (params : Params Arg) : Prop :=
  ∀ session, Transition.run (step reader) (.start useCache) earlier = some session →
    session.builder.useCache = true → answer reader session func params = answer reader session.uncached func params

end Sessions

/-! How a query ends, for each of the ways it takes through the cache. -/

def remember [DecidableEq Method] (cache : Dict Method (List (Params Arg × Nat))) (func : Method)
    (entry : Params Arg × Nat) : Dict Method (List (Params Arg × Nat)) :=
  let entries := (Dict.value? cache func).getD []
  Dict.assign (Dict.assign cache func entries) func (entries ++ [entry])

/-- The ways a query can end: which object it returns, and what it leaves in the cache and the memory. -/
inductive Ends [DecidableEq Method] (reader : Reader Method Arg κ β α) (func : Method) (params : Params Arg)
    (state : BuilderState Method Arg κ β α) : EStateM.Result QueryError (BuilderState Method Arg κ β α) Nat → Prop where
  | uncached {value : Content κ β (List α)} (off : state.useCache = false)
      (read : reader.read func params = .ok value) : Ends reader func params state (newObject value state)
  | raised {why : PyError} (read : reader.read func params = .error why) :
      Ends reader func params state (.error (.raised why) state)
  | unhashable (on : state.useCache = true)
      (failed : ¬ (argsHashable reader params = true ∧ kwargsHashable reader params = true)) :
      Ends reader func params state (.error (.raised .typeError) state)
  | found {entries : List (Params Arg × Nat)} {entry : Params Arg × Nat}
      (known : Dict.value? state.cache func = some entries) (member : entry ∈ entries)
      (same : sameKey reader entry.1 params = true) :
      Ends reader func params state (getCopy reader entry.2 state)
  | unstored {value : Content κ β (List α)} (on : state.useCache = true) (failed : argsHashable reader params = false)
      (unknown : Dict.value? state.cache func = none) (read : reader.read func params = .ok value) :
      Ends reader func params state (.error (.raised .typeError)
        { state with cache := Dict.assign state.cache func [], memory := (state.memory.make value).2 })
  | stored {value : Content κ β (List α)} (read : reader.read func params = .ok value) :
      Ends reader func params state (getCopy reader (state.memory.make value).1 { state with
        cache := remember state.cache func (params, (state.memory.make value).1)
        memory := (state.memory.make value).2 })

section Programs

variable {reader : Reader Method Arg κ β α} {func : Method} {params : Params Arg}
  {state : BuilderState Method Arg κ β α}

theorem serializeParams_returned (kwargs : kwargsHashable reader params = true) :
    serializeParams reader params state = .ok params state := by
  rw [serializeParams, if_pos kwargs]
  rfl

theorem hashKey_returned (args : argsHashable reader params = true) : hashKey reader params state = .ok () state := by
  rw [hashKey, if_pos args]
  rfl

theorem hashKey_raised (args : argsHashable reader params = false) :
    hashKey reader params state = .error (.raised .typeError) state := by
  rw [hashKey, args]
  rfl

theorem call_returned {value : Content κ β (List α)} (read : reader.read func params = .ok value) :
    call reader func params state = newObject value state := by
  rw [call, read]

theorem call_raised {why : PyError} (read : reader.read func params = .error why) :
    call reader func params state = .error (.raised why) state := by
  rw [call, read]
  rfl

theorem store_of_missing {entries : List (Params Arg × Nat)} {result : Nat}
    (missing : lookup reader entries params = none) :
    store reader entries params result = entries ++ [(params, result)] := by
  rw [lookup, Option.map_eq_none_iff, List.find?_eq_none] at missing
  induction entries with
  | nil => rfl
  | cons entry rest ih =>
    rw [store, if_neg (missing entry List.mem_cons_self), ih fun other later => missing other (.tail _ later)]
    rfl

variable [DecidableEq Method]

theorem value?_remember (cache : Dict Method (List (Params Arg × Nat))) (func other : Method)
    (entry : Params Arg × Nat) : Dict.value? (remember cache func entry) other =
      if other = func then some ((Dict.value? cache func).getD [] ++ [entry]) else Dict.value? cache other := by
  rw [remember, Dict.value?_assign]
  split
  · rfl
  · rename_i different
    exact Dict.value?_assign_of_ne different

theorem cacheGet_raised (kwargs : kwargsHashable reader params = false) :
    cacheGet reader func params state = .error (.raised .typeError) state := by
  have raised : serializeParams reader params state = .error (.raised .typeError) state := by
    rw [serializeParams, kwargs]
    rfl
  rw [cacheGet, bind_raised raised]

theorem cacheGet_unknown (kwargs : kwargsHashable reader params = true)
    (unknown : Dict.value? state.cache func = none) :
    cacheGet reader func params state = .error .cacheMiss state := by
  rw [cacheGet, bind_returned (serializeParams_returned kwargs)]
  refine (bind_returned rfl).trans ?_
  rw [unknown]
  rfl

theorem cacheGet_known {entries : List (Params Arg × Nat)} (kwargs : kwargsHashable reader params = true)
    (known : Dict.value? state.cache func = some entries) :
    cacheGet reader func params state = (do
      hashKey reader params
      match lookup reader entries params with
      | none => throw .cacheMiss
      | some result => return result : Program Method Arg κ β α Nat) state := by
  rw [cacheGet, bind_returned (serializeParams_returned kwargs)]
  refine (bind_returned rfl).trans ?_
  rw [known]

theorem cacheSet_raised {result : Nat} (kwargs : kwargsHashable reader params = true)
    (args : argsHashable reader params = false) :
    cacheSet reader func params result state = .error (.raised .typeError) { state with
      cache := Dict.assign state.cache func ((Dict.value? state.cache func).getD []) } := by
  rw [cacheSet, bind_returned (serializeParams_returned kwargs)]
  refine (bind_returned rfl).trans ?_
  rw [bind_raised (hashKey_raised args)]

theorem cacheSet_returned {result : Nat} (kwargs : kwargsHashable reader params = true)
    (args : argsHashable reader params = true)
    (missing : lookup reader ((Dict.value? state.cache func).getD []) params = none) :
    cacheSet reader func params result state =
      .ok () { state with cache := remember state.cache func (params, result) } := by
  rw [cacheSet, bind_returned (serializeParams_returned kwargs)]
  refine (bind_returned rfl).trans ?_
  rw [bind_returned (hashKey_returned args), remember, ← store_of_missing missing]
  let cache := Dict.assign state.cache func ((Dict.value? state.cache func).getD [])
  have entries : (Dict.value? cache func).getD [] = (Dict.value? state.cache func).getD [] := by
    rw [Dict.value?_assign_self, Option.getD_some]
  change EStateM.Result.ok () { state with
    cache := Dict.assign cache func (store reader ((Dict.value? cache func).getD []) params result) } = _
  rw [entries]

section Cached

variable (on : state.useCache = true)

include on

/-- A miss is handled by the call, and a result of either way is copied. -/
theorem readerExec_on : readerExec reader func params state = (do
    let result ← tryCatch (cacheGet reader func params) fun
      | .cacheMiss => do
        let result ← call reader func params
        cacheSet reader func params result
        return result
      | why => throw why
    getCopy reader result : Program Method Arg κ β α Nat) state := by
  rw [readerExec, bind_returned (rfl : (get : Program Method Arg κ β α _) state = .ok state state), if_pos on]

theorem readerExec_found {object : Nat} (got : cacheGet reader func params state = .ok object state) :
    readerExec reader func params state = getCopy reader object state := by
  rw [readerExec_on on, bind_returned (catch_returned got)]

theorem readerExec_unhashable {why : PyError}
    (got : cacheGet reader func params state = .error (.raised why) state) :
    readerExec reader func params state = .error (.raised why) state := by
  rw [readerExec_on on]
  exact bind_raised (catch_raised got)

theorem readerExec_raised {why : PyError} (got : cacheGet reader func params state = .error .cacheMiss state)
    (read : reader.read func params = .error why) :
    readerExec reader func params state = .error (.raised why) state := by
  rw [readerExec_on on]
  exact bind_raised ((catch_raised got).trans (bind_raised (call_raised read)))

theorem readerExec_missed {object : Nat} {after stored : BuilderState Method Arg κ β α}
    (got : cacheGet reader func params state = .error .cacheMiss state)
    (called : call reader func params state = .ok object after)
    (set : cacheSet reader func params object after = .ok () stored) :
    readerExec reader func params state = getCopy reader object stored := by
  have returned : (do
      let result ← call reader func params
      cacheSet reader func params result
      return result : Program Method Arg κ β α Nat) state = .ok object stored := by
    rw [bind_returned called, bind_returned set]
    rfl
  rw [readerExec_on on, bind_returned ((catch_raised got).trans returned)]

theorem readerExec_unstored {object : Nat} {why : QueryError} {after stored : BuilderState Method Arg κ β α}
    (got : cacheGet reader func params state = .error .cacheMiss state)
    (called : call reader func params state = .ok object after)
    (set : cacheSet reader func params object after = .error why stored) :
    readerExec reader func params state = .error why stored := by
  have raised : (do
      let result ← call reader func params
      cacheSet reader func params result
      return result : Program Method Arg κ β α Nat) state = .error why stored := by
    rw [bind_returned called, bind_raised set]
  rw [readerExec_on on]
  exact bind_raised ((catch_raised got).trans raised)

/-- A query that finds no result calls the method and, when the key can be hashed, keeps what it returns. -/
theorem ends_missed (kwargs : kwargsHashable reader params = true)
    (got : cacheGet reader func params state = .error .cacheMiss state)
    (missing : argsHashable reader params = true ∧
        lookup reader ((Dict.value? state.cache func).getD []) params = none ∨
      argsHashable reader params = false ∧ Dict.value? state.cache func = none) :
    Ends reader func params state (readerExec reader func params state) := by
  cases read : reader.read func params with
  | error why =>
    rw [readerExec_raised on got read]
    exact .raised read
  | ok value =>
    have called : call reader func params state = .ok (state.memory.make value).1
        { state with memory := (state.memory.make value).2 } := call_returned read
    obtain ⟨args, missing⟩ | ⟨failed, unknown⟩ := missing
    · rw [readerExec_missed on got called (cacheSet_returned kwargs args missing)]
      exact .stored read
    · rw [readerExec_unstored on got called (cacheSet_raised kwargs failed), unknown]
      exact .unstored on failed unknown read

theorem ends_cached : Ends reader func params state (readerExec reader func params state) := by
  cases kwargs : kwargsHashable reader params with
  | false =>
    rw [readerExec_unhashable on (cacheGet_raised kwargs)]
    exact .unhashable on fun hashable => by simp [kwargs] at hashable
  | true =>
    cases known : Dict.value? state.cache func with
    | none =>
      refine ends_missed on kwargs (cacheGet_unknown kwargs known) ?_
      cases args : argsHashable reader params with
      | true => exact .inl ⟨rfl, by rw [known]; rfl⟩
      | false => exact .inr ⟨rfl, known⟩
    | some entries =>
      have got : cacheGet reader func params state = _ := cacheGet_known kwargs known
      cases args : argsHashable reader params with
      | false =>
        rw [readerExec_unhashable on (got.trans (bind_raised (hashKey_raised args)))]
        exact .unhashable on fun hashable => by simp [args] at hashable
      | true =>
        rw [bind_returned (hashKey_returned args)] at got
        cases looked : lookup reader entries params with
        | none =>
          rw [looked] at got
          exact ends_missed on kwargs got (.inl ⟨args, by rwa [known]⟩)
        | some object =>
          rw [looked] at got
          obtain ⟨entry, found, rfl⟩ := Option.map_eq_some_iff.mp looked
          rw [readerExec_found on got]
          have same : sameKey reader entry.1 params = true := by simpa using List.find?_some found
          exact .found known (List.mem_of_find?_eq_some found) same

end Cached

theorem ends_readerExec (reader : Reader Method Arg κ β α) (func : Method) (params : Params Arg)
    (state : BuilderState Method Arg κ β α) : Ends reader func params state (readerExec reader func params state) := by
  cases on : state.useCache with
  | true => exact ends_cached on
  | false =>
    have called : readerExec reader func params state = call reader func params state := by
      rw [readerExec, bind_returned (rfl : (get : Program Method Arg κ β α _) state = .ok state state), on]
      rfl
    rw [called]
    cases read : reader.read func params with
    | error why =>
      rw [call_raised read]
      exact .raised read
    | ok value =>
      rw [call_returned read]
      exact .uncached on read

end Programs

/-! The methods of the reader that list tasks, info documents and virtual IPs, with arguments of Python. -/

inductive ReaderArg where
  | none
  | bool (value : Bool)
  | int (value : Int)
  | text (value : String)
  | texts (items : List String)
  deriving DecidableEq

namespace ReaderArg

def hashable : ReaderArg → Bool
  | texts _ => false
  | _ => true

/-- A Boolean is a number. -/
def number? : ReaderArg → Option Int
  | bool value => some value.toInt
  | int value => some value
  | _ => .none

/-- `first == second` -/
def same (first second : ReaderArg) : Bool :=
  match first.number?, second.number? with
  | some number, some other => number = other
  | _, _ => first = second

def truthy : ReaderArg → Bool
  | none => false
  | bool value => value
  | int value => value ≠ 0
  | text value => value ≠ ""
  | texts items => !items.isEmpty

/-- `"{}".format(arg)`, where the text of a list is left open. -/
def format (repr : List String → String) : ReaderArg → String
  | none => "None"
  | bool true => "True"
  | bool false => "False"
  | int value => toString value
  | text value => value
  | texts items => repr items

/-- The tasks of `for task in arg`. -/
def iterate : ReaderArg → Except PyError (List String)
  | texts items => .ok items
  | text value => .ok (value.toList.map String.singleton)
  | _ => .error .typeError

end ReaderArg

inductive ReaderMethod where
  | getTasks
  | getInfo
  | getServiceVipDf
  deriving DecidableEq

inductive Part where
  | index (name : String)
  | column (name : String)
  deriving DecidableEq

inductive ReaderValue where
  | tasks (names : List String)
  | infos (documents : List Document)
  | info (document : Option Document)

inductive Cell where
  | date (micros : Int)
  | number (value : Rat)
  | text (value : Option String)

abbrev ReaderResult := Content Part ReaderValue (List Cell)

def positional (args : List ReaderArg) : Params ReaderArg := ⟨args, [], List.nodup_nil⟩

def bindArgs (names : List String) (params : Params ReaderArg) : Except PyError (Dict String ReaderArg) :=
  if params.args.length ≤ names.length ∧ ∀ name ∈ Dict.keys params.kwargs, name ∈ names.drop params.args.length then
    .ok (names.zip params.args ++ params.kwargs)
  else .error .typeError

def vipFrame (rows : List VipRow) : ReaderResult :=
  .table [
    (.index "date", rows.map fun row => .date row.date),
    (.index "task", rows.map fun row => .text row.task),
    (.index "network", rows.map fun row => .text row.network),
    (.column "service", rows.map fun row => .text row.service),
    (.column "vip", rows.map fun row => .text row.vip)]

def readStore (client : ReportDataRedisReader) (repr : List String → String) :
    ReaderMethod → Params ReaderArg → Except PyError ReaderResult
  | .getTasks, params => do
    let _ ← bindArgs [] params
    return .plain (.tasks (getTasks client.redis client.store))
  | .getInfo, params => do
    let bound ← bindArgs ["task", "latest"] params
    match Dict.value? bound "task" with
    | none => .error .typeError
    | some task =>
      if (Dict.value? bound "latest").any ReaderArg.truthy then
        return .plain (.info (getInfoLatest client.store (task.format repr)))
      else return .plain (.infos (getInfo client.store (task.format repr)))
  | .getServiceVipDf, params => do
    let bound ← bindArgs ["tasks"] params
    -- without tasks it takes all of them
    let tasks ← match (Dict.value? bound "tasks").filter ReaderArg.truthy with
      | none => pure []
      | some tasks => tasks.iterate
    let rows ← client.getServiceVipDf tasks
    return vipFrame rows

def storeReader (client : ReportDataRedisReader) (repr : List String → String)
    (copyFrame : Copier Part ReaderValue Cell) : Reader ReaderMethod ReaderArg Part ReaderValue Cell where
  hashable := ReaderArg.hashable
  same := ReaderArg.same
  read := readStore client repr
  copyFrame

end Wotemu.ReaderCache
