import Wotemu.Report.Reader

/-! Separation of the documents that tasks write into one store.

A key determines its kind and its names, and a pattern of the reader selects
the keys of one kind and one task. So each query returns what one task wrote
of one kind, whatever was written around it and in whatever order.
-/

set_option autoImplicit false

namespace Wotemu

open Wotemu.Foundation

section Patterns

variable {kind other : RedisPrefixes} {names : List String} (free : ∀ name ∈ names, ':' ∉ name.toList)

include free

/-- A pattern that ends in a star selects the keys of its kind. -/
theorem glob_kind_iff (nonempty : names ≠ []) :
    glob (redisKey kind ["*"]) (redisKey other names) = true ↔ other = kind := by
  have shape : redisKey kind ["*"] = (RedisPrefixes.namespaceValue ++ ":" ++ kind.value ++ ":") ++ "*" ++ "" := by
    rw [redisKey_cons, String.append_empty]
    rfl
  have literal : '*' ∉ (RedisPrefixes.namespaceValue ++ ":" ++ kind.value ++ ":").toList := by
    cases kind <;> decide
  rw [shape, glob_around_star literal (by decide)]
  constructor
  · rintro ⟨middle, same⟩
    -- the text of the star may be split further, but the second part is the kind either way
    have parts := congrArg (split ':') same
    rw [split_redisKey free, String.append_empty, split_append rfl, split_append rfl,
      split_of_free (kind_free kind), split_of_free (by decide)] at parts
    exact RedisPrefixes.value_injective (List.cons.inj (List.cons.inj parts).2).1
  · rintro rfl
    obtain ⟨name, others, rfl⟩ := List.exists_cons_of_ne_nil nonempty
    exact ⟨String.intercalate ":" (name :: others), by rw [redisKey_cons, String.append_empty]⟩

/-- A pattern that ends in a name selects the keys of its kind that end in this name. -/
theorem glob_last_iff {task : String} (named : TaskName task) :
    glob (redisKey kind ["*", task]) (redisKey other names) = true ↔
      other = kind ∧ ∃ skipped, skipped ≠ [] ∧ names = skipped ++ [task] := by
  have taskFree : ':' ∉ task.toList := named ':' (by decide)
  have shape : redisKey kind ["*", task] =
      (RedisPrefixes.namespaceValue ++ ":" ++ kind.value ++ ":") ++ "*" ++ (":" ++ task) := by
    rw [redisKey_cons, String.intercalate_cons_of_ne_nil (by simp), String.intercalate_singleton]
    simp only [String.append_assoc]
  have literal : '*' ∉ (RedisPrefixes.namespaceValue ++ ":" ++ kind.value ++ ":").toList := by
    cases kind <;> decide
  have stopLiteral : '*' ∉ (":" ++ task).toList := by
    simpa using named '*' (by decide)
  rw [shape, glob_around_star literal stopLiteral]
  constructor
  · rintro ⟨middle, same⟩
    have parts := congrArg (split ':') same
    rw [split_redisKey free, ← String.append_assoc, split_append rfl, split_append rfl, split_append rfl,
      split_of_free (kind_free kind), split_of_free taskFree, split_of_free (by decide)] at parts
    obtain ⟨sameKind, sameNames⟩ := List.cons.inj (List.cons.inj parts).2
    refine ⟨RedisPrefixes.value_injective sameKind, split ':' middle, ?_, sameNames⟩
    simp [split, List.splitOn_ne_nil]
  · rintro ⟨rfl, skipped, nonempty, rfl⟩
    obtain ⟨name, others, rfl⟩ := List.exists_cons_of_ne_nil nonempty
    refine ⟨String.intercalate ":" (name :: others), ?_⟩
    rw [List.cons_append, redisKey_cons, ← List.cons_append,
      String.intercalate_append_of_ne_nil nonempty (by simp), String.intercalate_singleton]
    simp [String.append_assoc]

end Patterns

section Reads

variable {redis : Redis} {writes : List Write} (named : ∀ write ∈ writes, write.WellNamed)

theorem mem_keysMatching {redis : Redis} {store : Store} {pattern key : String} :
    key ∈ keysMatching redis store pattern ↔ key ∈ Dict.keys store ∧ glob pattern key = true := by
  unfold keysMatching
  rw [(redis.scan_perm _).mem_iff, List.mem_filter]

theorem mem_keys_runWrites {key : String} :
    key ∈ Dict.keys (runWrites redis writes) ↔
      ∃ write ∈ writes, key = redisKey write.kind write.names ∧ write.documents ≠ [] := by
  rw [(runWrites_holds redis writes).key_iff]
  constructor
  · rintro ⟨doc, write, member, same, inside⟩
    exact ⟨write, member, same, List.ne_nil_of_mem inside⟩
  · rintro ⟨write, member, same, nonempty⟩
    obtain ⟨doc, inside⟩ := List.exists_mem_of_ne_nil _ nonempty
    exact ⟨doc, write, member, same, inside⟩

theorem map_getIfaceDf (store : Store) (key : String) :
    (getIfaceDf store key).map (fun row => (row.iface, row.document)) =
      (SortedSets.zrange store key).members.map fun doc => ((split ':' key).getD 2 "", doc) := by
  simp [getIfaceDf, getZrangeDf, Function.comp_def]

include named

theorem mem_members_runWrites {kind : RedisPrefixes} {names : List String}
    (free : ∀ name ∈ names, ':' ∉ name.toList) {doc : Document} :
    doc ∈ (SortedSets.zrange (runWrites redis writes) (redisKey kind names)).members ↔
      ∃ write ∈ writes, write.kind = kind ∧ write.names = names ∧ doc ∈ write.documents := by
  rw [(runWrites_holds redis writes).mem_iff]
  constructor
  · rintro ⟨write, member, same, inside⟩
    obtain ⟨sameKind, sameNames⟩ := redisKey_injective free (named write member).names_free same
    exact ⟨write, member, sameKind.symm, sameNames.symm, inside⟩
  · rintro ⟨write, member, rfl, rfl, inside⟩
    exact ⟨write, member, rfl, inside⟩

theorem mem_getTasks {name : String} :
    name ∈ getTasks redis (runWrites redis writes) ↔ ∃ info, Write.info name info ∈ writes := by
  unfold getTasks
  rw [mem_distinctBy_id, List.mem_map]
  simp only [mem_keysMatching, mem_keys_runWrites]
  constructor
  · rintro ⟨_, ⟨⟨write, member, rfl, nonempty⟩, matched⟩, rfl⟩
    have free := (named write member).names_free
    -- only info documents lie under the keys that the pattern selects
    have sameKind := (glob_kind_iff free (by cases write <;> simp [Write.names])).mp matched
    rw [split_redisKey free]
    cases write with
    | info task info => exact ⟨info, member⟩
    | system task items => cases sameKind
    | packets task iface items => cases sameKind
    | thing data => cases sameKind
  · rintro ⟨info, member⟩
    have free : ∀ part ∈ [name], ':' ∉ part.toList := (named _ member).names_free
    refine ⟨redisKey .info [name], ⟨⟨_, member, rfl, by simp [Write.documents]⟩, ?_⟩, ?_⟩
    · exact (glob_kind_iff free (by simp)).mpr rfl
    · rw [split_redisKey free]
      rfl

section OneTask

variable {t : String} (task : TaskName t)

include task

theorem mem_getInfo {doc : Document} :
    doc ∈ getInfo (runWrites redis writes) t ↔ ∃ info, doc = .info info ∧ Write.info t info ∈ writes := by
  unfold getInfo
  rw [List.mem_insertionSort, mem_members_runWrites named task.free]
  constructor
  · rintro ⟨write, member, sameKind, sameNames, inside⟩
    cases write with
    | info name info =>
      cases sameNames
      exact ⟨info, List.mem_singleton.mp inside, member⟩
    | system name items => cases sameKind
    | packets name iface items => cases sameKind
    | thing data => cases sameKind
  · rintro ⟨info, rfl, member⟩
    exact ⟨_, member, rfl, rfl, List.mem_singleton_self _⟩

theorem mem_getSystemDf {doc : Document} :
    doc ∈ (getSystemDf (runWrites redis writes) t).map FrameRow.document ↔
      ∃ items sample, doc = .system sample ∧ sample ∈ items ∧ Write.system t items ∈ writes := by
  unfold getSystemDf getZrangeDf
  rw [List.map_map, Function.comp_def, List.map_id', mem_members_runWrites named task.free]
  constructor
  · rintro ⟨write, member, sameKind, sameNames, inside⟩
    cases write with
    | info name info => cases sameKind
    | system name items =>
      cases sameNames
      obtain ⟨sample, listed, rfl⟩ := List.mem_map.mp inside
      exact ⟨items, sample, rfl, listed, member⟩
    | packets name iface items => cases sameKind
    | thing data => cases sameKind
  · rintro ⟨items, sample, rfl, listed, member⟩
    exact ⟨_, member, rfl, rfl, List.mem_map_of_mem listed⟩

theorem mem_getThingDf {doc : Document} :
    doc ∈ (getThingDf (runWrites redis writes) t).map FrameRow.document ↔
      ∃ data, doc = .thing data ∧ data.host = t ∧ Write.thing data ∈ writes := by
  unfold getThingDf getZrangeDf
  rw [List.map_map, Function.comp_def, List.map_id', mem_members_runWrites named task.free]
  constructor
  · rintro ⟨write, member, sameKind, sameNames, inside⟩
    cases write with
    | info name info => cases sameKind
    | system name items => cases sameKind
    | packets name iface items => cases sameKind
    | thing data => exact ⟨data, List.mem_singleton.mp inside, List.singleton_inj.mp sameNames, member⟩
  · rintro ⟨data, rfl, rfl, member⟩
    exact ⟨_, member, rfl, rfl, List.mem_singleton_self _⟩

theorem mem_packetKeys {key : String} :
    key ∈ keysMatching redis (runWrites redis writes) (redisKey .packet ["*", t]) ↔
      ∃ iface items, key = redisKey .packet [iface, t] ∧ Write.packets t iface items ∈ writes ∧ items ≠ [] := by
  rw [mem_keysMatching, mem_keys_runWrites]
  constructor
  · rintro ⟨⟨write, member, rfl, nonempty⟩, matched⟩
    obtain ⟨sameKind, skipped, some, sameNames⟩ := (glob_last_iff (named write member).names_free task).mp matched
    cases write with
    | info name info => cases sameKind
    | system name items => cases sameKind
    | thing data => cases sameKind
    | packets name iface items =>
      -- the name of the task has no separator, so it is the last part
      have last := congrArg (fun names => names.getLast?) sameNames
      simp only [Write.names, List.getLast?_append, List.getLast?_singleton, Option.some_or,
        List.getLast?_cons_cons, Option.some.injEq] at last
      subst last
      exact ⟨iface, items, rfl, member, by simpa [Write.documents] using nonempty⟩
  · rintro ⟨iface, items, rfl, member, nonempty⟩
    refine ⟨⟨_, member, rfl, by simpa [Write.documents] using nonempty⟩, ?_⟩
    exact (glob_last_iff (named _ member).names_free task).mpr ⟨rfl, [iface], by simp, rfl⟩

theorem mem_getPacketDf {rows : List PacketFrameRow} (made : getPacketDf redis (runWrites redis writes) t = some rows)
    {iface : String} {doc : Document} :
    (iface, doc) ∈ rows.map (fun row => (row.iface, row.document)) ↔
      ∃ items packet, doc = .packet packet ∧ packet ∈ items ∧ Write.packets t iface items ∈ writes := by
  unfold getPacketDf at made
  dsimp only at made
  split at made
  · cases made
  cases made
  rw [((List.perm_insertionSort _ _).map _).mem_iff, List.map_flatMap, List.mem_flatMap]
  simp only [mem_packetKeys named task, map_getIfaceDf, List.mem_map, Prod.mk.injEq]
  constructor
  · rintro ⟨_, ⟨_, items, rfl, member, -⟩, doc, inside, rfl, rfl⟩
    have free := (named _ member).iface _ _ _ rfl
    rw [iface_of_packetKey free task]
    obtain ⟨write, other, sameKind, sameNames, listed⟩ :=
      (mem_members_runWrites named (named _ member).names_free).mp inside
    cases write with
    | info name info => cases sameKind
    | system name items => cases sameKind
    | thing data => cases sameKind
    | packets name own items =>
      cases sameNames
      obtain ⟨packet, captured, rfl⟩ := List.mem_map.mp listed
      exact ⟨items, packet, rfl, captured, other⟩
  · rintro ⟨items, packet, rfl, listed, member⟩
    have free := (named _ member).iface _ _ _ rfl
    refine ⟨_, ⟨iface, items, rfl, member, List.ne_nil_of_mem listed⟩, _, ?_, iface_of_packetKey free task, rfl⟩
    exact (mem_members_runWrites named (named _ member).names_free).mpr
      ⟨_, member, rfl, rfl, List.mem_map_of_mem listed⟩

theorem nodup_getPacketDf {rows : List PacketFrameRow}
    (made : getPacketDf redis (runWrites redis writes) t = some rows) :
    (rows.map fun row => (row.iface, row.document)).Nodup := by
  have holds := runWrites_holds redis writes
  unfold getPacketDf at made
  dsimp only at made
  split at made
  · cases made
  cases made
  rw [((List.perm_insertionSort _ _).map _).nodup_iff, List.map_flatMap, List.nodup_flatMap]
  simp only [map_getIfaceDf]
  constructor
  · intro key _
    exact (holds.nodup key).map fun first second same => (Prod.mk.inj same).2
  · -- rows under different keys differ in their interfaces
    have keys : (keysMatching redis (runWrites redis writes) (redisKey .packet ["*", t])).Nodup :=
      (redis.scan_perm _).nodup_iff.mpr (holds.keys_nodup.sublist List.filter_sublist)
    refine keys.pairwise_of_forall_ne ?_
    intro first left second right different entry inFirst inSecond
    obtain ⟨iface, items, rfl, member, -⟩ := (mem_packetKeys named task).mp left
    obtain ⟨other, others, rfl, otherMember, -⟩ := (mem_packetKeys named task).mp right
    obtain ⟨_, -, rfl⟩ := List.mem_map.mp inFirst
    obtain ⟨_, -, same⟩ := List.mem_map.mp inSecond
    have sameIface := (Prod.mk.inj same).1
    rw [iface_of_packetKey ((named _ member).iface _ _ _ rfl) task,
      iface_of_packetKey ((named _ otherMember).iface _ _ _ rfl) task] at sameIface
    exact different (sameIface ▸ rfl)

theorem getPacketDf_eq_none_iff :
    getPacketDf redis (runWrites redis writes) t = none ↔
      ∀ iface items, Write.packets t iface items ∈ writes → items = [] := by
  have noKey : (keysMatching redis (runWrites redis writes) (redisKey .packet ["*", t])).isEmpty = true ↔
      ∀ iface items, Write.packets t iface items ∈ writes → items = [] := by
    rw [List.isEmpty_iff, List.eq_nil_iff_forall_not_mem]
    constructor
    · intro absent iface items member
      by_contra nonempty
      exact absent _ ((mem_packetKeys named task).mpr ⟨iface, items, rfl, member, nonempty⟩)
    · intro empty key found
      obtain ⟨iface, items, rfl, member, nonempty⟩ := (mem_packetKeys named task).mp found
      exact nonempty (empty iface items member)
  unfold getPacketDf
  dsimp only
  rw [← noKey]
  split
  · rename_i empty
    exact iff_of_true rfl empty
  · rename_i present
    exact iff_of_false (by simp) present

end OneTask

end Reads

/-- The queries about a task return what the task wrote of each kind, each document once. -/
structure ReadsBack (redis : Redis) (writes : List Write) (t : String) : Prop where
  info : ∀ doc, doc ∈ getInfo (runWrites redis writes) t ↔
    ∃ info, doc = .info info ∧ Write.info t info ∈ writes
  infoOnce : (getInfo (runWrites redis writes) t).Nodup
  system : ∀ doc, doc ∈ (getSystemDf (runWrites redis writes) t).map FrameRow.document ↔
    ∃ items sample, doc = .system sample ∧ sample ∈ items ∧ Write.system t items ∈ writes
  systemOnce : ((getSystemDf (runWrites redis writes) t).map FrameRow.document).Nodup
  thing : ∀ doc, doc ∈ (getThingDf (runWrites redis writes) t).map FrameRow.document ↔
    ∃ data, doc = .thing data ∧ data.host = t ∧ Write.thing data ∈ writes
  thingOnce : ((getThingDf (runWrites redis writes) t).map FrameRow.document).Nodup
  noPackets : getPacketDf redis (runWrites redis writes) t = none ↔
    ∀ iface items, Write.packets t iface items ∈ writes → items = []
  packets : ∀ rows, getPacketDf redis (runWrites redis writes) t = some rows → ∀ iface doc,
    (iface, doc) ∈ rows.map (fun row => (row.iface, row.document)) ↔
      ∃ items packet, doc = .packet packet ∧ packet ∈ items ∧ Write.packets t iface items ∈ writes
  packetsOnce : ∀ rows, getPacketDf redis (runWrites redis writes) t = some rows →
    (rows.map fun row => (row.iface, row.document)).Nodup

/-- Whatever tasks write in whatever order, the reader finds the tasks that wrote their
info and, for each task, exactly its own documents. -/
theorem reads_back_every_task (redis : Redis) (writes : List Write)
    (named : ∀ write ∈ writes, write.WellNamed) :
    (∀ name, name ∈ getTasks redis (runWrites redis writes) ↔ ∃ info, Write.info name info ∈ writes) ∧
      (getTasks redis (runWrites redis writes)).Nodup ∧
      ∀ t, TaskName t → ReadsBack redis writes t := by
  have holds := runWrites_holds redis writes
  have frameOnce : ∀ key, ((getZrangeDf (runWrites redis writes) key).map FrameRow.document).Nodup := by
    intro key
    unfold getZrangeDf
    rw [List.map_map, Function.comp_def, List.map_id']
    exact holds.nodup key
  refine ⟨fun name => mem_getTasks named, ?_, fun t task => ?_⟩
  · simpa [getTasks] using nodup_map_distinctBy id ((keysMatching redis (runWrites redis writes)
      (redisKey .info ["*"])).map fun key => (split ':' key).getLastD "")
  · exact {
      info := fun _ => mem_getInfo named task
      infoOnce := ((List.perm_insertionSort _ _).nodup_iff).mpr (holds.nodup _)
      system := fun _ => mem_getSystemDf named task
      systemOnce := frameOnce _
      thing := fun _ => mem_getThingDf named task
      thingOnce := frameOnce _
      noPackets := getPacketDf_eq_none_iff named task
      packets := fun _ made _ _ => mem_getPacketDf named task made
      packetsOnce := fun _ made => nodup_getPacketDf named task made }

def twoTasks : List Write :=
  [.info "clock.1" { time := 5, net := [], env := [] },
   .packets "1" "eth0" [⟨6, 90, "10.0.1.2", "10.0.1.3", "http", "tcp", some 80, none⟩],
   .info "1" { time := 7, net := [], env := [] },
   .packets "clock.1" "eth1" [⟨8, 40, "10.0.1.3", "10.0.1.2", "http", "tcp", none, some 80⟩]]

theorem twoTasks_read_back : ReadsBack Redis.plain twoTasks "1" ∧ ReadsBack Redis.plain twoTasks "clock.1" := by
  have names : TaskName "1" ∧ TaskName "clock.1" := by
    constructor <;> simp [TaskName]
  have named : ∀ write ∈ twoTasks, write.WellNamed := by
    intro write member
    simp only [twoTasks, List.mem_cons, List.not_mem_nil, or_false] at member
    rcases member with rfl | rfl | rfl | rfl
    · exact ⟨names.2, fun _ _ _ same => (by cases same)⟩
    · exact ⟨names.1, fun _ _ _ same => (by cases same; decide)⟩
    · exact ⟨names.1, fun _ _ _ same => (by cases same)⟩
    · exact ⟨names.2, fun _ _ _ same => (by cases same; decide)⟩
  obtain ⟨-, -, back⟩ := reads_back_every_task Redis.plain twoTasks named
  exact ⟨back "1" names.1, back "clock.1" names.2⟩

end Wotemu
