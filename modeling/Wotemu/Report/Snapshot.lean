import Mathlib.Data.List.Forall2
import Wotemu.Foundation.Updates
import Wotemu.Report.DockerTime
import Wotemu.Report.Packets

/-! Queries over documents whose optional fields may be missing.

Extending packets needs a frame of addresses and one of virtual IPs, and the
snapshot needs the ids under which tasks report themselves. Both use fields
that the writer leaves out when a lookup fails.
-/

set_option autoImplicit false

namespace Wotemu

open Wotemu.Foundation

/-- A time that the Docker API writes: parsing it raises no exception. -/
structure DockerTime where
  text : String
  parses : ∃ time, parseDockerTime text = .ok time

structure ContainerStatus where
  exitCode : Option Int
  containerId : Option String

structure SnapshotTask where
  desiredState : String
  nodeId : Option String
  serviceId : Option String
  createdAt : DockerTime
  updatedAt : DockerTime
  containerStatus : Option ContainerStatus

structure SnapshotItem where
  task : SnapshotTask
  logs : Option String

abbrev Snapshot := Dict String SnapshotItem

structure SnapshotRow where
  desiredState : String
  isRunning : Bool
  isError : Bool
  task : Option String
  taskId : String
  nodeId : Option String
  serviceId : Option String
  createdAt : Option Int
  updatedAt : Option Int
  containerId : Option String
  logs : Option String
  stoppedAt : Int

namespace SnapshotTask

variable (task : SnapshotTask)

def isTaskRunning : Bool := task.desiredState = "running"

def isTaskError : Bool :=
  let exitCode := (task.containerStatus.bind ContainerStatus.exitCode).getD 0
  !task.isTaskRunning && exitCode ≠ 0

end SnapshotTask

/-- `info_item.get("container_id")` in a condition. -/
def NodeInfo.hasContainer (info : NodeInfo) : Bool := info.containerId.getD "" ≠ ""

namespace ReportDataRedisReader

variable (reader : ReportDataRedisReader)

def latestInfo (task : String) : Option NodeInfo := (reader.infos task).getLast?

def taskInfos : List (String × NodeInfo) :=
  (getTasks reader.redis reader.store).filterMap fun task =>
    (reader.latestInfo task).map fun info => (task, info)

/-- One entry of the comprehension, which reads `info_item["task_id"]`. -/
def taskKeyEntry (entry : String × NodeInfo) : Except PyError (Dict String String) :=
  match entry.2.taskId with
  | some taskId => .ok [(taskId, entry.1)]
  | none => .error (.keyError "task_id")

def getTaskKeyMap : Except PyError (Dict String String) :=
  updateEach taskKeyEntry (reader.taskInfos.filter fun entry => entry.2.hasContainer) []

def snapshotRow (taskKeyMap : Dict String String) (stoppedAt : Int) (entry : String × SnapshotItem) :
    Except PyError SnapshotRow := do
  let task := entry.2.task
  let createdAt ← parseDockerTime task.createdAt.text
  let updatedAt ← parseDockerTime task.updatedAt.text
  return {
    desiredState := task.desiredState
    isRunning := task.isTaskRunning
    isError := task.isTaskError
    task := Dict.value? taskKeyMap entry.1
    taskId := entry.1
    nodeId := task.nodeId
    serviceId := task.serviceId
    createdAt
    updatedAt
    containerId := task.containerStatus.bind ContainerStatus.containerId
    logs := entry.2.logs
    stoppedAt }

def getSnapshotDf (snapshots : SortedSet Snapshot) : Except PyError (Option (List SnapshotRow)) :=
  match snapshots.getLast? with
  | none => .ok none
  | some (score, snapshot) => do
    let taskKeyMap ← reader.getTaskKeyMap
    let rows ← snapshot.mapM (snapshotRow taskKeyMap (fromTimestamp score))
    return some rows

/-! What the queries should say about addresses, packets and tasks. -/

def AddressOf (address : String) (task service network : Option String) : Prop :=
  (∃ name ∈ getTasks reader.redis reader.store, ∃ info ∈ reader.infos name,
    address ∈ info.ifaceAddresses.map Prod.snd ∧
      task = some name ∧ service = info.service ∧ network = reader.findNetwork info address) ∨
  (address ∉ reader.reportedAddresses ∧ task = none ∧ service = none ∧ network = none)

def VipOf (address : String) (service : Option String) : Prop :=
  (∃ info ∈ reader.allInfos, address ∈ info.vips.map Prod.snd ∧ service = info.service) ∨
  (address ∉ reader.reportedVips ∧ service = none)

structure Attributed (ext : ExtendedRow) : Prop where
  exists_attributes : ∃ srcService srcNetwork srcVip dstService dstNetwork dstVip,
    reader.AddressOf ext.row.packet.src ext.srcTask srcService srcNetwork ∧
    reader.AddressOf ext.row.packet.dst ext.dstTask dstService dstNetwork ∧
    reader.VipOf ext.row.packet.src srcVip ∧ reader.VipOf ext.row.packet.dst dstVip ∧
    ext.srcService = srcService.or srcVip ∧ ext.dstService = dstService.or dstVip ∧
    ext.network = srcNetwork.or dstNetwork

/-- The extended frame of a task: there is none without packets, and otherwise it has every
packet with the attributes that the documents give. -/
structure PacketsComplete (task : String) : Prop where
  without : getPacketDf reader.redis reader.store task = none → reader.getExtendedPacketDf task = .ok none
  extended : ∀ rows, getPacketDf reader.redis reader.store task = some rows →
    ∃ df, reader.getExtendedPacketDf task = .ok (some df) ∧
      (∀ row ∈ packetRows rows, ∃ ext ∈ df, ext.row = row) ∧
      ∀ ext ∈ df, ext.row ∈ packetRows rows ∧ reader.Attributed ext

def ReportsId (task taskId : String) : Prop :=
  task ∈ getTasks reader.redis reader.store ∧
    ∃ info, reader.latestInfo task = some info ∧ info.taskId = some taskId

/-- A row of the snapshot: its fields are those of the task in the snapshot, and its key is
that of a task which reports the id, if there is one. -/
structure Reported (score : Rat) (entry : String × SnapshotItem) (row : SnapshotRow) : Prop where
  desiredState : row.desiredState = entry.2.task.desiredState
  isRunning : row.isRunning = entry.2.task.isTaskRunning
  isError : row.isError = entry.2.task.isTaskError
  taskId : row.taskId = entry.1
  nodeId : row.nodeId = entry.2.task.nodeId
  serviceId : row.serviceId = entry.2.task.serviceId
  createdAt : parseDockerTime entry.2.task.createdAt.text = .ok row.createdAt
  updatedAt : parseDockerTime entry.2.task.updatedAt.text = .ok row.updatedAt
  containerId : row.containerId = entry.2.task.containerStatus.bind ContainerStatus.containerId
  logs : row.logs = entry.2.logs
  stoppedAt : row.stoppedAt = fromTimestamp score
  task : (∃ task, row.task = some task ∧ reader.ReportsId task entry.1) ∨
    (row.task = none ∧ ∀ task, ¬ reader.ReportsId task entry.1)

structure SnapshotComplete (snapshots : SortedSet Snapshot) : Prop where
  without : snapshots = [] → reader.getSnapshotDf snapshots = .ok none
  reported : ∀ score snapshot, snapshots.getLast? = some (score, snapshot) →
    ∃ rows, reader.getSnapshotDf snapshots = .ok (some rows) ∧
      List.Forall₂ (reader.Reported score) snapshot rows

/-- What the documents must have for the queries: with packets, an address and a virtual IP
somewhere; with a snapshot, a task id beside every container id of a latest document, and for
each id of the snapshot that is reported, a report with a container id. -/
structure FieldsSuffice (snapshots : SortedSet Snapshot) : Prop where
  packets : ∀ task, keysMatching reader.redis reader.store (redisKey .packet ["*", task]) ≠ [] →
    reader.reportedAddresses ≠ [] ∧ reader.reportedVips ≠ []
  taskIds : snapshots ≠ [] → ∀ task ∈ getTasks reader.redis reader.store, ∀ info,
    reader.latestInfo task = some info → info.hasContainer = true → info.taskId ≠ none
  containers : ∀ score snapshot, snapshots.getLast? = some (score, snapshot) →
    ∀ taskId ∈ Dict.keys snapshot, ∀ task, reader.ReportsId task taskId →
      ∃ other info, other ∈ getTasks reader.redis reader.store ∧ reader.latestInfo other = some info ∧
        info.taskId = some taskId ∧ info.hasContainer = true

variable {reader}

section Packets

theorem mem_addressRows {found : AddressRow} :
    found ∈ reader.addressRows [] ↔ ∃ name ∈ getTasks reader.redis reader.store, ∃ info ∈ reader.infos name,
      ∃ entry ∈ info.ifaceAddresses, found = ⟨fromTimestamp info.time, name, info.service, entry.1, entry.2,
        reader.findNetwork info entry.2⟩ := by
  simp [addressRows, tasksOr, eq_comm]

theorem mem_vipRows {found : VipRow} :
    found ∈ reader.vipRows [] ↔ ∃ name ∈ getTasks reader.redis reader.store, ∃ info ∈ reader.infos name,
      ∃ entry ∈ info.vips, found = ⟨fromTimestamp info.time, name, info.service, entry.1, entry.2⟩ := by
  simp [vipRows, tasksOr, eq_comm]

theorem addressOf_of_joined {address : String} {found : Option AddressRow}
    (joined : (∃ other ∈ reader.addressRows [], other.address = address ∧ found = some other) ∨
      (found = none ∧ ∀ other ∈ reader.addressRows [], other.address ≠ address)) :
    reader.AddressOf address (found.map AddressRow.task) (found.bind AddressRow.service)
      (found.bind AddressRow.network) := by
  rcases joined with ⟨other, member, rfl, rfl⟩ | ⟨rfl, absent⟩
  · obtain ⟨name, task, info, inside, entry, listed, rfl⟩ := mem_addressRows.mp member
    exact Or.inl ⟨name, task, info, inside, List.mem_map_of_mem listed, rfl, rfl, rfl⟩
  · refine Or.inr ⟨?_, rfl, rfl, rfl⟩
    rw [← map_address_addressRows, List.mem_map]
    rintro ⟨other, member, same⟩
    exact absent other member same

theorem vipOf_of_joined {address : String} {found : Option VipRow}
    (joined : (∃ other ∈ reader.vipRows [], other.vip = address ∧ found = some other) ∨
      (found = none ∧ ∀ other ∈ reader.vipRows [], other.vip ≠ address)) :
    reader.VipOf address (found.bind VipRow.service) := by
  rcases joined with ⟨other, member, rfl, rfl⟩ | ⟨rfl, absent⟩
  · obtain ⟨name, task, info, inside, entry, listed, rfl⟩ := mem_vipRows.mp member
    exact Or.inl ⟨info, List.mem_flatMap.mpr ⟨name, task, inside⟩, List.mem_map_of_mem listed, rfl⟩
  · refine Or.inr ⟨?_, rfl⟩
    rw [← map_vip_vipRows, List.mem_map]
    rintro ⟨other, member, same⟩
    exact absent other member same

theorem mem_merge {α β : Type} (pandas : Pandas) {leftOn : α → String} {rightOn : β → String}
    {left : List α} {right : List β} {row : α} {found : Option β}
    (member : (row, found) ∈ pandas.merge leftOn rightOn left right) :
    row ∈ left ∧ ((∃ other ∈ right, rightOn other = leftOn row ∧ found = some other) ∨
      (found = none ∧ ∀ other ∈ right, rightOn other ≠ leftOn row)) :=
  (mem_leftJoin leftOn rightOn).mp ((pandas.merge_perm _ _ _ _).mem_iff.mp member)

theorem attributed_of_extendPacketDf {dfPacket : List PacketRow} {df : List ExtendedRow}
    (made : reader.extendPacketDf dfPacket = .ok df) {ext : ExtendedRow} (member : ext ∈ df) :
    reader.Attributed ext := by
  obtain ⟨_, addresses, made⟩ := bind_ok made
  obtain ⟨_, vips, made⟩ := bind_ok made
  obtain ⟨rfl, -⟩ := setIndex_ok_iff.mp addresses
  obtain ⟨rfl, -⟩ := setIndex_ok_iff.mp vips
  cases made
  obtain ⟨⟨⟨⟨⟨row, src⟩, dst⟩, srcVip⟩, dstVip⟩, joined, rfl⟩ := List.mem_map.mp member
  obtain ⟨joined, dstVipFound⟩ := mem_merge _ joined
  obtain ⟨joined, srcVipFound⟩ := mem_merge _ joined
  obtain ⟨joined, dstFound⟩ := mem_merge _ joined
  obtain ⟨-, srcFound⟩ := mem_merge _ joined
  exact ⟨_, _, _, _, _, _, addressOf_of_joined srcFound, addressOf_of_joined dstFound,
    vipOf_of_joined srcVipFound, vipOf_of_joined dstVipFound, rfl, rfl, rfl⟩

theorem packetsComplete_iff {task : String} :
    reader.PacketsComplete task ↔
      (keysMatching reader.redis reader.store (redisKey .packet ["*", task]) ≠ [] →
        reader.reportedAddresses ≠ [] ∧ reader.reportedVips ≠ []) := by
  -- without a packet key the query returns before it builds the frames
  have noFrame : getPacketDf reader.redis reader.store task = none ↔
      keysMatching reader.redis reader.store (redisKey .packet ["*", task]) = [] := by
    unfold getPacketDf
    simp [List.isEmpty_iff]
  constructor
  · intro complete present
    obtain ⟨rows, found⟩ := Option.ne_none_iff_exists'.mp fun none => present (noFrame.mp none)
    obtain ⟨df, made, -⟩ := complete.extended rows found
    rw [getExtendedPacketDf, found] at made
    obtain ⟨df, made, -⟩ := bind_ok made
    exact extendPacketDf_ok_iff.mp ⟨df, made⟩
  · intro enough
    constructor
    case without =>
      intro none
      rw [getExtendedPacketDf, none]
    case extended =>
      intro rows found
      have present : keysMatching reader.redis reader.store (redisKey .packet ["*", task]) ≠ [] := by
        intro none
        rw [noFrame.mpr none] at found
        cases found
      obtain ⟨df, made⟩ : ∃ df, reader.extendPacketDf (packetRows rows) = .ok df :=
        extendPacketDf_ok_iff.mpr (enough present)
      have kept : ∀ row, row ∈ df.map ExtendedRow.row ↔ row ∈ packetRows rows := by
        intro row
        rw [(extendPacketDf_copies made).mem_iff, mem_repeated reader.packetCopies_pos]
      refine ⟨df, ?_, ?_, ?_⟩
      · rw [getExtendedPacketDf, found]
        exact bind_ok_iff.mpr ⟨df, made, rfl⟩
      · intro row member
        exact List.mem_map.mp ((kept row).mpr member)
      · intro ext member
        exact ⟨(kept _).mp (List.mem_map_of_mem member), attributed_of_extendPacketDf made member⟩

end Packets

section Snapshots

theorem mem_taskInfos {task : String} {info : NodeInfo} :
    (task, info) ∈ reader.taskInfos ↔
      task ∈ getTasks reader.redis reader.store ∧ reader.latestInfo task = some info := by
  simp [taskInfos]

theorem taskKeyEntry_ok_iff {entry : String × NodeInfo} {entries : Dict String String} :
    taskKeyEntry entry = .ok entries ↔ ∃ taskId, entry.2.taskId = some taskId ∧ entries = [(taskId, entry.1)] := by
  unfold taskKeyEntry
  cases entry.2.taskId <;> simp [eq_comm]

theorem taskKeyEntry_single (entry : String × NodeInfo) (entries : Dict String String)
    (made : taskKeyEntry entry = .ok entries) :
    ∃ value, entries = [(entry.2.taskId.getD "", value)] := by
  obtain ⟨taskId, found, rfl⟩ := taskKeyEntry_ok_iff.mp made
  exact ⟨entry.1, by rw [found]; rfl⟩

theorem getTaskKeyMap_ok_iff :
    (∃ map, reader.getTaskKeyMap = .ok map) ↔ ∀ task ∈ getTasks reader.redis reader.store, ∀ info,
      reader.latestInfo task = some info → info.hasContainer = true → info.taskId ≠ none := by
  constructor
  · rintro ⟨map, made⟩ task member info latest container
    obtain ⟨entries, generated⟩ := UpdateEach.generates made
      (List.mem_filter.mpr ⟨mem_taskInfos.mpr ⟨member, latest⟩, container⟩)
    obtain ⟨taskId, found, -⟩ := taskKeyEntry_ok_iff.mp generated
    exact found ▸ Option.some_ne_none taskId
  · intro complete
    apply UpdateEach.exists_ok
    rintro ⟨task, info⟩ member
    obtain ⟨listed, container⟩ := List.mem_filter.mp member
    obtain ⟨inside, latest⟩ := mem_taskInfos.mp listed
    obtain ⟨taskId, found⟩ := Option.ne_none_iff_exists'.mp (complete task inside info latest container)
    exact ⟨_, taskKeyEntry_ok_iff.mpr ⟨taskId, found, rfl⟩⟩

variable {map : Dict String String} (made : reader.getTaskKeyMap = .ok map)

include made

theorem reportsId_of_value? {taskId task : String} (found : Dict.value? map taskId = some task) :
    ∃ info, task ∈ getTasks reader.redis reader.store ∧ reader.latestInfo task = some info ∧
      info.taskId = some taskId ∧ info.hasContainer = true := by
  cases last : UpdateEach.last (fun entry : String × NodeInfo => entry.2.taskId.getD "") taskId
      (reader.taskInfos.filter fun entry => entry.2.hasContainer) with
  | none =>
    rw [UpdateEach.value?_of_last_none taskKeyEntry_single made last] at found
    cases found
  | some entry =>
    -- the entry of the map is that of the last task with this id
    obtain ⟨value, generated, stored⟩ := UpdateEach.value?_of_last taskKeyEntry_single made last
    obtain ⟨other, reported, same⟩ := taskKeyEntry_ok_iff.mp generated
    obtain ⟨listed, container⟩ := List.mem_filter.mp (UpdateEach.last_key last).2
    obtain ⟨inside, latest⟩ := mem_taskInfos.mp listed
    cases same
    cases stored.symm.trans found
    exact ⟨entry.2, inside, latest, reported, container⟩

theorem exists_value?_of_reports {taskId task : String} {info : NodeInfo}
    (member : task ∈ getTasks reader.redis reader.store) (latest : reader.latestInfo task = some info)
    (reported : info.taskId = some taskId) (container : info.hasContainer = true) :
    ∃ found, Dict.value? map taskId = some found := by
  apply Dict.exists_value?_of_mem
  rw [UpdateEach.mem_keys_iff taskKeyEntry_single made, List.mem_map]
  exact ⟨(task, info), List.mem_filter.mpr ⟨mem_taskInfos.mpr ⟨member, latest⟩, container⟩, by simp [reported]⟩

omit made in
theorem snapshotRow_ok (map : Dict String String) (stoppedAt : Int) (entry : String × SnapshotItem) :
    ∃ row, snapshotRow map stoppedAt entry = .ok row := by
  obtain ⟨created, createdOk⟩ := entry.2.task.createdAt.parses
  obtain ⟨updated, updatedOk⟩ := entry.2.task.updatedAt.parses
  unfold snapshotRow
  simp only [createdOk, updatedOk]
  exact ⟨_, rfl⟩

theorem reported_of_snapshotRow {score : Rat} {entry : String × SnapshotItem} {row : SnapshotRow}
    (generated : snapshotRow map (fromTimestamp score) entry = .ok row)
    (containers : ∀ task, reader.ReportsId task entry.1 → ∃ found, Dict.value? map entry.1 = some found) :
    reader.Reported score entry row := by
  obtain ⟨created, createdOk, generated⟩ := bind_ok generated
  obtain ⟨updated, updatedOk, generated⟩ := bind_ok generated
  cases generated
  refine ⟨rfl, rfl, rfl, rfl, rfl, rfl, createdOk, updatedOk, rfl, rfl, rfl, ?_⟩
  cases found : Dict.value? map entry.1 with
  | some task =>
    obtain ⟨info, inside, latest, reported, -⟩ := reportsId_of_value? made found
    exact Or.inl ⟨task, rfl, inside, info, latest, reported⟩
  | none =>
    -- the map has no key for the id: then no latest document reports it
    refine Or.inr ⟨rfl, fun task reports => ?_⟩
    obtain ⟨other, present⟩ := containers task reports
    rw [found] at present
    cases present

omit made in
theorem task_of_snapshotRow {stoppedAt : Int} {entry : String × SnapshotItem} {row : SnapshotRow}
    (generated : snapshotRow map stoppedAt entry = .ok row) : row.task = Dict.value? map entry.1 := by
  obtain ⟨_, -, generated⟩ := bind_ok generated
  obtain ⟨_, -, generated⟩ := bind_ok generated
  cases generated
  rfl

omit made in
theorem taskId_of_snapshotRow {stoppedAt : Int} {entry : String × SnapshotItem} {row : SnapshotRow}
    (generated : snapshotRow map stoppedAt entry = .ok row) : row.taskId = entry.1 := by
  obtain ⟨_, -, generated⟩ := bind_ok generated
  obtain ⟨_, -, generated⟩ := bind_ok generated
  cases generated
  rfl

end Snapshots

theorem exists_snapshotRows (map : Dict String String) (stoppedAt : Int) (snapshot : Snapshot) :
    ∃ rows, snapshot.mapM (snapshotRow map stoppedAt) = .ok rows := by
  induction snapshot with
  | nil => exact ⟨[], rfl⟩
  | cons entry rest ih =>
    obtain ⟨row, here⟩ := snapshotRow_ok map stoppedAt entry
    obtain ⟨rows, later⟩ := ih
    exact ⟨row :: rows, mapM_ok_iff.mpr (.cons here (mapM_ok_iff.mp later))⟩

theorem getSnapshotDf_ok_iff {snapshots : SortedSet Snapshot} {score : Rat} {snapshot : Snapshot}
    (last : snapshots.getLast? = some (score, snapshot)) {rows : List SnapshotRow} :
    reader.getSnapshotDf snapshots = .ok (some rows) ↔ ∃ map, reader.getTaskKeyMap = .ok map ∧
      List.Forall₂ (fun entry row => snapshotRow map (fromTimestamp score) entry = .ok row) snapshot rows := by
  unfold getSnapshotDf
  rw [last]
  constructor
  · intro made
    obtain ⟨map, mapped, made⟩ := bind_ok made
    obtain ⟨_, built, made⟩ := bind_ok made
    cases made
    exact ⟨map, mapped, mapM_ok_iff.mp built⟩
  · rintro ⟨map, mapped, built⟩
    exact bind_ok_iff.mpr ⟨map, mapped, bind_ok_iff.mpr ⟨rows, mapM_ok_iff.mpr built, rfl⟩⟩

theorem snapshotComplete_iff {snapshots : SortedSet Snapshot} :
    reader.SnapshotComplete snapshots ↔
      (snapshots ≠ [] → ∀ task ∈ getTasks reader.redis reader.store, ∀ info,
        reader.latestInfo task = some info → info.hasContainer = true → info.taskId ≠ none) ∧
      ∀ score snapshot, snapshots.getLast? = some (score, snapshot) →
        ∀ taskId ∈ Dict.keys snapshot, ∀ task, reader.ReportsId task taskId →
          ∃ other info, other ∈ getTasks reader.redis reader.store ∧ reader.latestInfo other = some info ∧
            info.taskId = some taskId ∧ info.hasContainer = true := by
  constructor
  · intro complete
    constructor
    · intro present
      rw [← getTaskKeyMap_ok_iff]
      have last := List.getLast?_eq_some_getLast present
      obtain ⟨rows, made, -⟩ := complete.reported _ _ last
      obtain ⟨map, mapped, -⟩ := (getSnapshotDf_ok_iff last).mp made
      exact ⟨map, mapped⟩
    · intro score snapshot last taskId inside task reports
      obtain ⟨rows, made, reported⟩ := complete.reported _ _ last
      obtain ⟨map, mapped, built⟩ := (getSnapshotDf_ok_iff last).mp made
      obtain ⟨entry, member, rfl⟩ := List.mem_map.mp inside
      obtain ⟨row, generated, tells⟩ := exists_of_forall₂ (List.Forall₂.mp (fun _ _ => And.intro) built reported) member
      -- the row names a task, and the map that gave its name is built from containers only
      rcases tells.task with ⟨key, found, -⟩ | ⟨-, nobody⟩
      · rw [task_of_snapshotRow generated] at found
        obtain ⟨info, known, latest, same, container⟩ := reportsId_of_value? mapped found
        exact ⟨key, info, known, latest, same, container⟩
      · exact absurd reports (nobody task)
  · rintro ⟨taskIds, containers⟩
    constructor
    case without =>
      rintro rfl
      rfl
    case reported =>
      intro score snapshot last
      have present : snapshots ≠ [] := by
        rintro rfl
        cases last
      obtain ⟨map, mapped⟩ := getTaskKeyMap_ok_iff.mpr (taskIds present)
      obtain ⟨rows, made⟩ := exists_snapshotRows map (fromTimestamp score) snapshot
      have built := mapM_ok_iff.mp made
      refine ⟨rows, (getSnapshotDf_ok_iff last).mpr ⟨map, mapped, built⟩, ?_⟩
      refine forall₂_imp_of_mem built fun entry row member generated => ?_
      apply reported_of_snapshotRow mapped generated
      intro task reports
      obtain ⟨other, info, known, latest, same, container⟩ :=
        containers score snapshot last entry.1 (List.mem_map_of_mem member) task reports
      exact exists_value?_of_reports mapped known latest same container

/-- The queries complete for every task and every snapshot, with every attribute that the
documents give, exactly when the documents have the fields that the queries index. -/
theorem queries_complete_iff (reader : ReportDataRedisReader) (snapshots : SortedSet Snapshot) :
    ((∀ task, reader.PacketsComplete task) ∧ reader.SnapshotComplete snapshots) ↔
      reader.FieldsSuffice snapshots := by
  rw [snapshotComplete_iff]
  constructor
  · rintro ⟨packets, taskIds, containers⟩
    exact ⟨fun task => packetsComplete_iff.mp (packets task), taskIds, containers⟩
  · rintro ⟨packets, taskIds, containers⟩
    exact ⟨fun task => packetsComplete_iff.mpr (packets task), taskIds, containers⟩

def withoutVips : ReportDataRedisReader where
  redis := Redis.plain
  pandas := Pandas.plain
  covers := fun _ _ => true
  store := runWrites Redis.plain
    [.info "clock.1" { time := 5, net := [("eth0", [⟨2, "10.0.1.6"⟩])], env := [("SERVICE_NAME", "clock")] },
     .packets "clock.1" "eth0" [⟨6, 90, "10.0.1.6", "10.0.1.7", "http", "tcp", none, some 80⟩]]

/-- No attribute of the packet depends on a virtual IP alone, and yet the query raises. -/
theorem withoutVips_not_complete :
    ¬ ∀ (reader : ReportDataRedisReader) (snapshots : SortedSet Snapshot),
      (∀ task, reader.PacketsComplete task) ∧ reader.SnapshotComplete snapshots := by
  intro all
  have complete := (all withoutVips []).1 "clock.1"
  have raises : withoutVips.getExtendedPacketDf "clock.1" =
      .error (.keyError "None of ['date', 'task', 'network'] are in the columns") := rfl
  have captured : ∃ rows, getPacketDf withoutVips.redis withoutVips.store "clock.1" = some rows := ⟨_, rfl⟩
  obtain ⟨rows, found⟩ := captured
  obtain ⟨df, made, -⟩ := complete.extended rows found
  cases raises.symm.trans made

end ReportDataRedisReader

end Wotemu
