import Mathlib.Data.List.Induction
import Wotemu.Report.ReaderCache

/-! The cache of the report builder is not seen in what its queries return.

The results in the cache are never among the objects and arrays that callers
can reach, so a hit gives a copy of what the reader returned. A key must be
hashable and must not be the key of a query that reads otherwise.
-/

set_option autoImplicit false

namespace Wotemu.ReaderCache

open Wotemu.Foundation

variable {Method Arg κ β α : Type} {reader : Reader Method Arg κ β α} {earlier : List (Event Method Arg κ β α)}
  {event : Event Method Arg κ β α} {func : Method} {params : Params Arg}

/-! Queries whose arguments are equal only when they are the same, as all queries of the builder are. -/

/-- Arguments of a kind are hashable, two of them are one key only when they are the same, and a
method does not look at the order of its keyword arguments. -/
structure Reader.Distinguishes (reader : Reader Method Arg κ β α) (kind : Arg → Prop) : Prop where
  hashable : ∀ arg, kind arg → reader.hashable arg = true
  same : ∀ first second, kind first → kind second → reader.same first second = true → first = second
  read : ∀ func first second, first.args = second.args →
    (∀ name, Dict.value? first.kwargs name = Dict.value? second.kwargs name) →
    reader.read func first = reader.read func second

structure Params.Of (params : Params Arg) (kind : Arg → Prop) : Prop where
  args : ∀ arg ∈ params.args, kind arg
  kwargs : ∀ item ∈ params.kwargs, kind item.2

section Distinguished

variable {kind : Arg → Prop}

theorem eq_of_isEqv {same : Arg → Arg → Bool} (reflects : ∀ first second, kind first → kind second →
    same first second = true → first = second) {args others : List Arg} (each : ∀ arg ∈ args, kind arg)
    (eachOther : ∀ arg ∈ others, kind arg) (equal : args.isEqv others same = true) : args = others := by
  induction args generalizing others with
  | nil =>
    cases others with
    | nil => rfl
    | cons other rest => cases equal
  | cons arg args ih =>
    cases others with
    | nil => cases equal
    | cons other others =>
      rw [List.isEqv, Bool.and_eq_true] at equal
      obtain ⟨here, later⟩ := equal
      rw [List.forall_mem_cons] at each eachOther
      rw [reflects arg other each.1 eachOther.1 here, ih each.2 eachOther.2 later]

theorem told_of_distinguishes (distinguishes : reader.Distinguishes kind)
    (asked : ∀ other, .query func other ∈ earlier → other.Of kind) (own : params.Of kind) :
    Told reader earlier func params where
  args := List.all_eq_true.mpr fun arg member => distinguishes.hashable arg (own.args arg member)
  kwargs := List.all_eq_true.mpr fun item member => distinguishes.hashable item.2 (own.kwargs item member)
  alike := by
    intro other member same
    have others := asked other member
    simp only [sameKey, Bool.and_eq_true, decide_eq_true_eq, List.all_eq_true, List.any_eq_true] at same
    obtain ⟨⟨args, size⟩, items⟩ := same
    refine distinguishes.read func other params (eq_of_isEqv distinguishes.same others.args own.args args) ?_
    refine Dict.value?_eq_of_subset other.distinct params.distinct size fun item inside => ?_
    obtain ⟨found, isItem, name, value⟩ := items item inside
    have equal := distinguishes.same item.2 found.2 (others.kwargs item inside) (own.kwargs found isItem) value
    exact (Prod.ext name equal : item = found) ▸ isItem

end Distinguished

/-- Texts, Booleans and `None`. The builder passes nothing else to the reader. -/
def ReaderArg.Plain : ReaderArg → Prop
  | .none | .bool _ | .text _ => True
  | .int _ | .texts _ => False

theorem ReaderArg.eq_of_same {first second : ReaderArg} (plain : first.Plain) (other : second.Plain)
    (same : first.same second = true) : first = second := by
  cases first <;> cases second <;> simp_all [ReaderArg.same, ReaderArg.number?, ReaderArg.Plain]
  case bool.bool value other => cases value <;> cases other <;> first | rfl | cases same

theorem bindArgs_congr {first second : Params ReaderArg} (args : first.args = second.args)
    (kwargs : ∀ name, Dict.value? first.kwargs name = Dict.value? second.kwargs name) (names : List String) :
    (∃ bound other, bindArgs names first = .ok bound ∧ bindArgs names second = .ok other ∧
      ∀ name, Dict.value? bound name = Dict.value? other name) ∨
    bindArgs names first = .error .typeError ∧ bindArgs names second = .error .typeError := by
  have keys : ∀ name, name ∈ Dict.keys first.kwargs ↔ name ∈ Dict.keys second.kwargs := by
    intro name
    rw [← Dict.value?_isSome, ← Dict.value?_isSome, kwargs name]
  unfold bindArgs
  simp only [args, keys]
  split
  · refine .inl ⟨_, _, rfl, rfl, fun name => ?_⟩
    rw [Dict.value?_append, Dict.value?_append, kwargs name]
  · exact .inr ⟨rfl, rfl⟩

theorem storeReader_distinguishes (client : ReportDataRedisReader) (repr : List String → String)
    (copyFrame : Copier Part ReaderValue Cell) :
    (storeReader client repr copyFrame).Distinguishes ReaderArg.Plain where
  hashable := by
    intro arg plain
    cases arg with
    | none | bool | int | text => rfl
    | texts => cases plain
  same := fun _ _ => ReaderArg.eq_of_same
  read := by
    intro func first second args kwargs
    change readStore client repr func first = readStore client repr func second
    cases func with
    | getTasks =>
      obtain ⟨_, _, bound, other, -⟩ | ⟨failed, otherFailed⟩ := bindArgs_congr args kwargs []
      · rw [readStore, readStore, bound, other]
        rfl
      · rw [readStore, readStore, failed, otherFailed]
    | getInfo =>
      obtain ⟨_, _, bound, other, values⟩ | ⟨failed, otherFailed⟩ := bindArgs_congr args kwargs ["task", "latest"]
      · simp only [readStore, bound, other, values, bind, Except.bind]
      · rw [readStore, readStore, failed, otherFailed]
    | getServiceVipDf =>
      obtain ⟨_, _, bound, other, values⟩ | ⟨failed, otherFailed⟩ := bindArgs_congr args kwargs ["tasks"]
      · simp only [readStore, bound, other, values, bind, Except.bind]
      · rw [readStore, readStore, failed, otherFailed]

/-! What the cache keeps stays what the reader returned, whatever the callers do. -/

/-- A result was read for an earlier query, and the callers cannot reach it. -/
structure Kept (reader : Reader Method Arg κ β α) (earlier : List (Event Method Arg κ β α)) (callers : Reach)
    (memory : Memory κ β α) (func : Method) (entry : Params Arg × Nat) : Prop where
  asked : .query func entry.1 ∈ earlier
  read : reader.read func entry.1 = .ok (memory.value entry.2)
  secluded : callers.Secluded memory entry.2

namespace Kept

variable {callers : Reach} {memory later : Memory κ β α} {object : Nat} {entry : Params Arg × Nat}

theorem after (kept : Kept reader earlier callers memory func entry) (event : Event Method Arg κ β α) :
    Kept reader (earlier ++ [event]) callers memory func entry where
  asked := List.mem_append_left _ kept.asked
  read := kept.read
  secluded := kept.secluded

theorem made (kept : Kept reader earlier callers memory func entry) (made : memory.Made later object) :
    Kept reader earlier callers later func entry where
  asked := kept.asked
  read := made.extended.value_eq kept.secluded.has ▸ kept.read
  secluded := kept.secluded.extends made.extended

theorem give (kept : Kept reader earlier callers memory func entry) (made : memory.Made later object) :
    Kept reader earlier (callers.receive later object) later func entry where
  asked := kept.asked
  read := (kept.made made).read
  secluded := kept.secluded.receive_made made

theorem change {next : Reach} (kept : Kept reader earlier callers memory func entry)
    {change : Change κ β α} (changed : callers.change memory change = some (next, later)) :
    Kept reader earlier next later func entry where
  asked := kept.asked
  read := (kept.secluded.change changed).2 ▸ kept.read
  secluded := (kept.secluded.change changed).1

end Kept

variable [DecidableEq Method]

structure Sound (reader : Reader Method Arg κ β α) (earlier : List (Event Method Arg κ β α))
    (session : Session Method Arg κ β α) : Prop where
  valid : session.callers.Valid session.builder.memory
  kept : ∀ func entries, Dict.value? session.builder.cache func = some entries →
    ∀ entry ∈ entries, Kept reader earlier session.callers session.builder.memory func entry

namespace Sound

variable {state : BuilderState Method Arg κ β α} {callers : Reach} {later : Memory κ β α} {object : Nat}

theorem start (useCache : Bool) : Sound reader [] (.start useCache) where
  valid := ⟨fun _ member => (by cases member), fun _ member => (by cases member)⟩
  kept := fun _ _ known => by cases known

theorem after (sound : Sound reader earlier ⟨state, callers⟩) (event : Event Method Arg κ β α) :
    Sound reader (earlier ++ [event]) ⟨state, callers⟩ where
  valid := sound.valid
  kept := fun func entries known entry member => (sound.kept func entries known entry member).after event

theorem made (sound : Sound reader earlier ⟨state, callers⟩) (made : state.memory.Made later object) :
    Sound reader earlier ⟨{ state with memory := later }, callers⟩ where
  valid := sound.valid.extends made.extended
  kept := fun func entries known entry member => (sound.kept func entries known entry member).made made

theorem give (sound : Sound reader earlier ⟨state, callers⟩) (made : state.memory.Made later object) :
    Sound reader earlier ⟨{ state with memory := later }, callers.receive later object⟩ where
  valid := sound.valid.receive_made made
  kept := fun func entries known entry member => (sound.kept func entries known entry member).give made

theorem remember (sound : Sound reader earlier ⟨state, callers⟩) {entry : Params Arg × Nat}
    (new : Kept reader earlier callers state.memory func entry) :
    Sound reader earlier ⟨{ state with cache := ReaderCache.remember state.cache func entry }, callers⟩ where
  valid := sound.valid
  kept := by
    intro other entries known member inside
    rw [value?_remember] at known
    split at known
    case isFalse => exact sound.kept other entries known member inside
    case isTrue same =>
      cases known
      subst same
      rcases List.mem_append.mp inside with old | last
      · cases before : Dict.value? state.cache other with
        | none =>
          rw [before] at old
          cases old
        | some entries =>
          rw [before] at old
          exact sound.kept other entries before member old
      · exact List.mem_singleton.mp last ▸ new

theorem note (sound : Sound reader earlier ⟨state, callers⟩) (func : Method) :
    Sound reader earlier ⟨{ state with cache := Dict.assign state.cache func [] }, callers⟩ where
  valid := sound.valid
  kept := by
    intro other entries known entry member
    rw [Dict.value?_assign] at known
    split at known
    · cases known
      cases member
    · exact sound.kept other entries known entry member

/-- However a query ends, the invariant is kept. -/
theorem query (sound : Sound reader earlier ⟨state, callers⟩) (func : Method) (params : Params Arg) :
    ∀ next, step reader ⟨state, callers⟩ (.query func params) = some next →
      Sound reader (earlier ++ [.query func params]) next := by
  intro next stepped
  have ends := ends_readerExec reader func params state
  unfold step at stepped
  dsimp only at stepped
  have asked := sound.after (.query func params)
  generalize readerExec reader func params state = result at ends stepped
  cases ends with
  | uncached off read =>
    cases stepped
    exact asked.give (state.memory.made_make _)
  | found known member same =>
    cases stepped
    exact asked.give ((copier reader).made _ _ (sound.kept _ _ known _ member).secluded.has)
  | raised read | unhashable on failed =>
    cases stepped
    exact asked
  | unstored on failed unknown read =>
    cases stepped
    exact (asked.made (state.memory.made_make _)).note func
  | @stored value read =>
    cases stepped
    have made := state.memory.made_make value
    have new : Kept reader (earlier ++ [.query func params]) callers (state.memory.make value).2 func
        (params, (state.memory.make value).1) :=
      ⟨by simp, by rw [read, Memory.value_make], sound.valid.secluded_of_made made⟩
    exact ((asked.made made).remember new).give ((copier reader).made _ _ made.has)

theorem step {session next : Session Method Arg κ β α} (sound : Sound reader earlier session)
    (stepped : step reader session event = some next) : Sound reader (earlier ++ [event]) next := by
  cases event with
  | query func params => exact sound.query func params next stepped
  | change change =>
    obtain ⟨⟨callers, memory⟩, changed, rfl⟩ := Option.map_eq_some_iff.mp stepped
    have valid := sound.valid.change changed
    refine Sound.after ⟨valid, fun func entries known entry member => ?_⟩ _
    exact (sound.kept func entries known entry member).change changed
  | resetCache =>
    cases stepped
    exact ⟨sound.valid, fun func entries known => by cases known⟩
  | setUseCache useCache =>
    cases stepped
    have later := sound.after (.setUseCache useCache)
    exact ⟨later.valid, later.kept⟩

theorem run {useCache : Bool} {session : Session Method Arg κ β α}
    (ran : Transition.run (ReaderCache.step reader) (.start useCache) earlier = some session) :
    Sound reader earlier session := by
  induction earlier using List.reverseRecOn generalizing session with
  | nil =>
    cases ran
    exact start useCache
  | append_singleton earlier event ih =>
    obtain ⟨before, ran, stepped⟩ := Transition.run_concat.mp ran
    exact (ih ran).step stepped

theorem answer_eq {session : Session Method Arg κ β α} (sound : Sound reader earlier session)
    (told : Told reader earlier func params) :
    answer reader session func params = (reader.read func params).mapError .raised := by
  have ends := ends_readerExec reader func params session.builder
  unfold answer
  generalize readerExec reader func params session.builder = result at ends
  cases ends with
  | raised read => rw [read]; rfl
  | uncached off read =>
    rw [read]
    exact congrArg Except.ok (Memory.value_make ..)
  | @stored value read =>
    have made := session.builder.memory.made_make value
    rw [read]
    exact congrArg Except.ok (((copier reader).value _ _ made.has).trans (Memory.value_make ..))
  | found known member same =>
    have kept := sound.kept _ _ known _ member
    rw [← told.alike _ kept.asked same, kept.read]
    exact congrArg Except.ok ((copier reader).value _ _ kept.secluded.has)
  | unhashable on failed => exact absurd ⟨told.args, told.kwargs⟩ failed
  | unstored on failed unknown read =>
    rw [told.args] at failed
    cases failed

/-- Such a query is answered alike with the cache on and off. -/
theorem answer_uncached {session : Session Method Arg κ β α} (sound : Sound reader earlier session)
    (told : Told reader earlier func params) :
    answer reader session func params = answer reader session.uncached func params := by
  have off : Sound reader earlier session.uncached := ⟨sound.valid, sound.kept⟩
  rw [sound.answer_eq told, off.answer_eq told]

end Sound

/-! The changes that the ranking figures make to the frames that they were given. -/

def Part.reset : Part → Part
  | index name | column name => column name

section Changes

variable {β α : Type}

/-- `df.reset_index(inplace=True)`, where the array numbered last counts the rows. -/
def resetIndex (parts : List (Part × Nat)) (last : Nat) : List (Part × Nat) :=
  (.index "", last) :: parts.map fun part => (part.1.reset, part.2)

/-- `df[name] = ...` for each name in turn, with new arrays from a number on. -/
def setColumns (object : Nat) : Nat → List (Part × Nat) → List (String × List α) → List (Change Part β α)
  | _, _, [] => []
  | last, parts, (name, cells) :: rest =>
    let parts := Dict.assign parts (.column name) last
    .create cells :: .replace object (.table parts) :: setColumns object (last + 1) parts rest

/-- What `build_cpu_ranking_figure` and `build_mem_ranking_figure` do to the frame of each task. -/
def rankingChanges (object last : Nat) (parts : List (Part × Nat)) (numbers : List α)
    (columns : List (String × List α)) : List (Change Part β α) :=
  .create numbers :: .replace object (.table (resetIndex parts last)) ::
    setColumns object (last + 1) (resetIndex parts last) columns

variable {Method Arg : Type} [DecidableEq Method] {reader : Reader Method Arg Part β α}

theorem exists_run_replace (reader : Reader Method Arg Part β α) {session : Session Method Arg Part β α} {object : Nat}
    (held : object ∈ session.callers.objects) (cells : List α) {parts : List (Part × Nat)}
    (reached : ∀ part ∈ parts, part.2 = session.builder.memory.arrays.length ∨ part.2 ∈ session.callers.arrays) :
    ∃ next, Transition.run (step reader) session [.change (.create cells), .change (.replace object (.table parts))] =
        some next ∧
      object ∈ next.callers.objects ∧ (∀ part ∈ parts, part.2 ∈ next.callers.arrays) ∧
      next.builder.memory.arrays.length = session.builder.memory.arrays.length + 1 := by
  let created : Session Method Arg Part β α := {
    builder := { session.builder with memory := session.builder.memory.allocate cells }
    callers := { session.callers with
      arrays := session.builder.memory.arrays.length :: session.callers.arrays } }
  let replaced : Session Method Arg Part β α := {
    created with builder.memory := created.builder.memory.replace object (.table parts) }
  have inside : ∀ part ∈ parts, part.2 ∈ created.callers.arrays :=
    fun part member => List.mem_cons.mpr (reached part member)
  have second : step reader created (.change (.replace object (.table parts))) = some replaced := by
    simp only [step, Reach.change]
    rw [if_pos ⟨held, List.forall_mem_map.mpr inside⟩]
    rfl
  have last : Transition.run (step reader) created [.change (.replace object (.table parts))] = some replaced :=
    Transition.run_cons.mpr ⟨replaced, second, rfl⟩
  refine ⟨replaced, Transition.run_cons.mpr ⟨created, rfl, last⟩, held, inside, ?_⟩
  simp [replaced, created, Memory.replace, Memory.allocate]

theorem exists_run_setColumns (reader : Reader Method Arg Part β α) {object : Nat} {columns : List (String × List α)}
    {parts : List (Part × Nat)} {session : Session Method Arg Part β α} (held : object ∈ session.callers.objects)
    (reached : ∀ part ∈ parts, part.2 ∈ session.callers.arrays) : ∃ next, Transition.run (step reader) session
      ((setColumns object session.builder.memory.arrays.length parts columns).map .change) = some next := by
  induction columns generalizing session parts with
  | nil => exact ⟨session, rfl⟩
  | cons column rest ih =>
    obtain ⟨name, cells⟩ := column
    let assigned := Dict.assign parts (.column name) session.builder.memory.arrays.length
    have either : ∀ part ∈ assigned,
        part.2 = session.builder.memory.arrays.length ∨ part.2 ∈ session.callers.arrays := by
      intro part member
      exact (Dict.eq_or_mem_of_mem_assign member).imp (congrArg Prod.snd) (reached part)
    obtain ⟨middle, ran, stillHeld, stillReached, size⟩ := exists_run_replace reader held cells either
    obtain ⟨next, further⟩ := ih stillHeld stillReached
    rw [size] at further
    exact ⟨next, Transition.run_append ran further⟩

theorem exists_run_rankingChanges (reader : Reader Method Arg Part β α) {object : Nat} {parts : List (Part × Nat)}
    {session : Session Method Arg Part β α} (held : object ∈ session.callers.objects)
    (reached : ∀ part ∈ parts, part.2 ∈ session.callers.arrays) (numbers : List α)
    (columns : List (String × List α)) : ∃ next, Transition.run (step reader) session
      ((rankingChanges object session.builder.memory.arrays.length parts numbers columns).map .change) = some next := by
  have either : ∀ part ∈ resetIndex parts session.builder.memory.arrays.length,
      part.2 = session.builder.memory.arrays.length ∨ part.2 ∈ session.callers.arrays := by
    intro part member
    rcases List.mem_cons.mp member with rfl | old
    · exact .inl rfl
    · obtain ⟨before, inside, rfl⟩ := List.mem_map.mp old
      exact .inr (reached before inside)
  obtain ⟨middle, ran, stillHeld, stillReached, size⟩ := exists_run_replace reader held numbers either
  obtain ⟨next, further⟩ := exists_run_setColumns reader stillHeld stillReached
  rw [size] at further
  exact ⟨next, Transition.run_append ran further⟩

end Changes

def vipClient : ReportDataRedisReader where
  redis := Redis.plain
  store := runWrites Redis.plain [.info "1" {
    time := 5, net := [], env := [("SERVICE_NAME", "clock")], serviceVips := some [("net", "10.0.1.5")] }]
  pandas := Pandas.plain
  covers := fun _ _ => true

def vipReader : Reader ReaderMethod ReaderArg Part ReaderValue Cell :=
  storeReader vipClient (fun _ => "[...]") Copier.deep

def rankingEvents : List (Event ReaderMethod ReaderArg Part ReaderValue Cell) :=
  .query .getServiceVipDf (positional []) :: (rankingChanges 1 10
    [(.index "date", 5), (.index "task", 6), (.index "network", 7), (.column "service", 8), (.column "vip", 9)]
    [.number 0] [("task", [.text "1"]), ("cpu_model", [.text "Unknown CPU"])]).map .change

/-- The cache is not seen in a query whose key tells it apart, whatever was asked and changed before. -/
theorem transparent_of_told (useCache : Bool) (told : Told reader earlier func params) :
    Transparent reader useCache earlier func params := by
  intro session ran on
  exact (Sound.run ran).answer_uncached told

theorem transparent_after_ranking :
    (Transition.run (step vipReader) (.start true) rankingEvents).isSome = true ∧
    Transparent vipReader true rankingEvents .getServiceVipDf (positional []) := by
  refine ⟨rfl, transparent_of_told true ?_⟩
  refine told_of_distinguishes (storeReader_distinguishes vipClient _ _) (fun other member => ?_) ?_
  · have same : other = positional [] := by simpa [rankingEvents, rankingChanges, setColumns] using member
    exact same ▸ ⟨List.forall_mem_nil _, List.forall_mem_nil _⟩
  · exact ⟨List.forall_mem_nil _, List.forall_mem_nil _⟩

/-- A list of tasks is no key of the cache, and the number 1 and `True` are the same key although
they name different tasks. -/
theorem cache_not_transparent :
    ¬ Transparent vipReader true [] .getServiceVipDf (positional [.texts ["1"]]) ∧
    ¬ Transparent vipReader true [.query .getInfo (positional [.int 1])] .getInfo (positional [.bool true]) := by
  constructor
  · intro transparent
    have same := transparent _ rfl rfl
    have raises : answer vipReader (.start true) .getServiceVipDf (positional [.texts ["1"]]) =
      .error (.raised .typeError) := rfl
    rw [raises] at same
    cases same
  · intro transparent
    have same := transparent _ rfl rfl
    cases same

/-- Texts, Booleans and `None` tell queries apart, so the builder never sees its cache. -/
theorem builder_transparent (client : ReportDataRedisReader) (repr : List String → String)
    (copyFrame : Copier Part ReaderValue Cell) (useCache : Bool)
    {earlier : List (Event ReaderMethod ReaderArg Part ReaderValue Cell)} {func : ReaderMethod}
    {params : Params ReaderArg} (asked : ∀ other, .query func other ∈ earlier → other.Of ReaderArg.Plain)
    (own : params.Of ReaderArg.Plain) :
    Transparent (storeReader client repr copyFrame) useCache earlier func params := by
  intro session ran on
  have told := told_of_distinguishes (storeReader_distinguishes client repr copyFrame) asked own
  exact (Sound.run ran).answer_uncached told

end Wotemu.ReaderCache
