import Wotemu.Monitor.NodeMonitor

/-! What the fields of a monitor say about its pools and tasks.

A monitor records what it has open: every open pool and every live task is the
one of a field. Each operation on the fields keeps this for a reason of its own.
-/

set_option autoImplicit false

namespace Wotemu

open Wotemu.Foundation

namespace NodeMonitor

structure Recorded (monitor : NodeMonitor) : Prop where
  pool : ∀ pool : Nat, monitor.pools[pool]? = some true → monitor.redis = some pool
  system : ∀ id, monitor.tasks.LiveAt .system id → monitor.taskSystem = some id
  packet : ∀ id, monitor.tasks.LiveAt .packet id → id ∈ monitor.tasksPacket

/-- All the fields are `None`. -/
structure Quiet (monitor : NodeMonitor) : Prop where
  redis : monitor.redis = none
  taskSystem : monitor.taskSystem = none
  tasksPacket : monitor.tasksPacket = []

structure Released (monitor : NodeMonitor) : Prop where
  pool : ∀ pool : Nat, monitor.pools[pool]? ≠ some true
  task : ∀ kind id, ¬ monitor.tasks.LiveAt kind id

variable {monitor : NodeMonitor} {setup : MonitorSetup}

theorem initial_recorded : MonitorState.initial.shared.Recorded where
  pool := fun _ isOpen => (by cases isOpen)
  system := fun _ ⟨_, found, _⟩ => (by cases found)
  packet := fun _ ⟨_, found, _⟩ => (by cases found)

theorem Recorded.released (recorded : monitor.Recorded) (quiet : monitor.Quiet) : monitor.Released where
  pool := by
    intro pool isOpen
    have field := recorded.pool pool isOpen
    rw [quiet.redis] at field
    cases field
  task := by
    intro kind id live
    cases kind with
    | system =>
      have field := recorded.system id live
      rw [quiet.taskSystem] at field
      cases field
    | packet =>
      have field := recorded.packet id live
      rw [quiet.tasksPacket] at field
      cases field

theorem Recorded.task (recorded : monitor.Recorded) {id : Nat} {action : TaskAction} {tasks : TaskTable}
    (acted : monitor.tasks.act id action = some tasks) : { monitor with tasks }.Recorded where
  pool := recorded.pool
  system := fun id live => recorded.system id (TaskTable.liveAt_of_act acted live)
  packet := fun id live => recorded.packet id (TaskTable.liveAt_of_act acted live)

theorem Recorded.cancel (recorded : monitor.Recorded) (ids : List Nat) :
    { monitor with tasks := monitor.tasks.cancel ids }.Recorded where
  pool := recorded.pool
  system := fun id live => recorded.system id ((TaskTable.liveAt_cancel ids .system id).mp live)
  packet := fun id live => recorded.packet id ((TaskTable.liveAt_cancel ids .packet id).mp live)

theorem Recorded.forgetSystem (recorded : monitor.Recorded)
    (ended : ∀ id, monitor.taskSystem = some id → ¬ monitor.tasks.LiveAt .system id) :
    { monitor with taskSystem := none }.Recorded where
  pool := recorded.pool
  system := fun id live => absurd live (ended id (recorded.system id live))
  packet := recorded.packet

theorem Recorded.forgetPackets (recorded : monitor.Recorded)
    (ended : ∀ id ∈ monitor.tasksPacket, ¬ monitor.tasks.LiveAt .packet id) :
    { monitor with tasksPacket := [] }.Recorded where
  pool := recorded.pool
  system := recorded.system
  packet := fun id live => absurd live (ended id (recorded.packet id live))

theorem Recorded.forgetPool (recorded : monitor.Recorded) {pool : Nat}
    (field : ∀ other, monitor.redis = some other → other = pool) :
    { monitor with redis := none, pools := monitor.pools.set pool false }.Recorded where
  pool := by
    intro other isOpen
    have different : pool ≠ other := by
      intro same
      simp [same, List.getElem?_set] at isOpen
    rw [List.getElem?_set_ne different] at isOpen
    exact absurd (field other (recorded.pool other isOpen)).symm different
  system := recorded.system
  packet := recorded.packet

theorem Recorded.redisOpen (recorded : monitor.Recorded) (none : monitor.redis = none) :
    monitor.redisOpen.Recorded where
  pool := by
    intro pool isOpen
    simp only [NodeMonitor.redisOpen, List.getElem?_append] at isOpen ⊢
    split at isOpen
    -- an older open pool would be in the field, which is `None`
    · have field := recorded.pool pool isOpen
      rw [none] at field
      cases field
    · rw [List.getElem?_singleton] at isOpen
      split at isOpen
      · congr 1
        omega
      · cases isOpen
  system := recorded.system
  packet := recorded.packet

theorem liveAt_append {tasks created : TaskTable} {kind : TaskKind} {id : Nat}
    (live : TaskTable.LiveAt (tasks ++ created) kind id) :
    tasks.LiveAt kind id ∨ tasks.length ≤ id ∧ created.LiveAt kind (id - tasks.length) := by
  obtain ⟨task, found, rest⟩ := live
  rw [List.getElem?_append] at found
  split at found
  · exact .inl ⟨task, found, rest⟩
  · exact .inr ⟨by omega, task, found, rest⟩

theorem Recorded.createSystemTask (recorded : monitor.Recorded) {next : NodeMonitor}
    (created : monitor.createSystemTask setup = some next) : next.Recorded := by
  unfold NodeMonitor.createSystemTask at created
  obtain ⟨free, same⟩ := Option.ite_none_left_eq_some.mp created
  cases same
  refine ⟨recorded.pool, ?_, ?_⟩
  · intro id live
    rcases liveAt_append live with old | ⟨after, task, found, -⟩
    · have field := recorded.system id old
      simp [field] at free
    · obtain ⟨bound, -⟩ := List.getElem?_eq_some_iff.mp found
      have last : id = monitor.tasks.length := by
        simp only [List.length_singleton] at bound
        omega
      rw [last]
  · intro id live
    rcases liveAt_append live with old | ⟨after, task, found, kind, -⟩
    · exact recorded.packet id old
    · have member := List.mem_of_getElem? found
      rw [List.mem_singleton] at member
      rw [member] at kind
      cases kind

theorem Recorded.createPacketTasks (recorded : monitor.Recorded) {next : NodeMonitor}
    (created : monitor.createPacketTasks setup = some next) : next.Recorded := by
  unfold NodeMonitor.createPacketTasks at created
  obtain ⟨free, same⟩ := Option.ite_none_left_eq_some.mp created
  cases same
  refine ⟨recorded.pool, ?_, ?_⟩
  · intro id live
    rcases liveAt_append live with old | ⟨after, task, found, kind, -⟩
    · exact recorded.system id old
    · obtain ⟨iface, -, same⟩ := List.mem_map.mp (List.mem_of_getElem? found)
      rw [← same] at kind
      cases kind
  · intro id live
    rcases liveAt_append live with old | ⟨after, task, found, -⟩
    · have field := recorded.packet id old
      have none : monitor.tasksPacket = [] := by simpa using free
      rw [none] at field
      cases field
    · obtain ⟨bound, -⟩ := List.getElem?_eq_some_iff.mp found
      rw [List.length_map] at bound
      exact List.mem_range'_1.mpr (by omega)

theorem Recorded.createTasks (recorded : monitor.Recorded) : (monitor.createTasks setup).1.Recorded := by
  unfold NodeMonitor.createTasks
  split
  · exact recorded
  · rename_i withSystem system
    split
    · exact recorded.createSystemTask system
    · rename_i withPackets packets
      exact (recorded.createSystemTask system).createPacketTasks packets

theorem redisClose_cases (monitor : NodeMonitor) :
    monitor.redis = none ∧ monitor.redisClose = monitor.clearTasks ∨
      ∃ pool, monitor.redis = some pool ∧ monitor.redisClose = (monitor, .closing pool) := by
  unfold redisClose
  cases monitor.redis with
  | none => exact .inl ⟨rfl, rfl⟩
  | some pool => exact .inr ⟨pool, rfl, rfl⟩

theorem stopPacketTasks_cases (monitor : NodeMonitor) :
    monitor.tasksPacket = [] ∧ monitor.stopPacketTasks = monitor.redisClose ∨
      monitor.tasksPacket ≠ [] ∧ monitor.stopPacketTasks =
        ({ monitor with tasks := monitor.tasks.cancel monitor.tasksPacket }, .awaitingPackets monitor.tasksPacket) := by
  unfold stopPacketTasks
  cases packets : monitor.tasksPacket with
  | nil => simp
  | cons first rest => simp

end NodeMonitor

end Wotemu
