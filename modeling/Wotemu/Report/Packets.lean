import Mathlib.Algebra.Group.Nat.Units
import Wotemu.Foundation.LeftJoin
import Wotemu.Report.Separation

/-! Packets extended with the tasks, services and networks behind their addresses.

The frames of addresses and of virtual IPs have one row for each task, info
document, interface and network. Each of the four joins repeats a packet once
for every row that reports its address.
-/

set_option autoImplicit false

namespace Wotemu

open Wotemu.Foundation

/-- `pd.merge(left, right, how="left", left_on=..., right_on=...)` on columns of texts. -/
structure Pandas where
  merge : {α β : Type} → (α → String) → (β → String) → List α → List β → List (α × Option β)
  merge_perm : ∀ {α β : Type} (leftOn : α → String) (rightOn : β → String) (left : List α) (right : List β),
    (merge leftOn rightOn left right).Perm (leftJoin leftOn rightOn left right)

def Pandas.plain : Pandas where
  merge := leftJoin
  merge_perm := fun _ _ _ _ => List.Perm.refl _

/-- A reader of a store. `covers` tells whether a network in CIDR notation has an address. -/
structure ReportDataRedisReader where
  redis : Redis
  store : Store
  pandas : Pandas
  covers : String → String → Bool

def envKeyServiceName : String := "SERVICE_NAME"

def ifaceLo : String := "lo"

/-- `socket.AF_INET` -/
def afInet : Nat := 2

structure PacketRow where
  date : Int
  iface : String
  packet : Packet

structure AddressRow where
  date : Int
  task : String
  service : Option String
  iface : String
  address : String
  network : Option String

structure VipRow where
  date : Int
  task : String
  service : Option String
  network : String
  vip : String

structure ExtendedRow where
  row : PacketRow
  srcTask : Option String
  srcService : Option String
  dstTask : Option String
  dstService : Option String
  network : Option String

namespace NodeInfo

variable (info : NodeInfo)

def service : Option String := Dict.value? info.env envKeyServiceName

def ifaceAddresses : List (String × String) :=
  (info.net.filter fun entry => entry.1 ≠ ifaceLo).flatMap fun entry =>
    (entry.2.filter fun item => item.family = afInet).map fun item => (entry.1, item.address)

def vips : Dict String String := info.serviceVips.getD []

end NodeInfo

namespace ReportDataRedisReader

variable (reader : ReportDataRedisReader)

def tasksOr (tasks : List String) : List String :=
  if tasks.isEmpty then getTasks reader.redis reader.store else tasks

/-- The info documents of a task. Nothing else is written under their key. -/
def infos (task : String) : List NodeInfo :=
  (getInfo reader.store task).filterMap fun
    | .info info => some info
    | _ => none

/-- The first network whose list of subnetworks has the address. -/
def findNetwork (info : NodeInfo) (address : String) : Option String :=
  let networksCidr := info.networksCidr.getD []
  (networksCidr.find? fun entry => entry.2.any fun cidr => reader.covers cidr address).map Prod.fst

/-- `df.set_index(columns)` of a frame that was built from rows. -/
def setIndex {α : Type} (columns : String) (rows : List α) : Except PyError (List α) :=
  if rows.isEmpty then .error (.keyError ("None of [" ++ columns ++ "] are in the columns")) else .ok rows

def addressRows (tasks : List String) : List AddressRow :=
  (reader.tasksOr tasks).flatMap fun task =>
    (reader.infos task).flatMap fun info =>
      info.ifaceAddresses.map fun (iface, address) =>
        { date := fromTimestamp info.time, task, service := info.service, iface, address,
          network := reader.findNetwork info address : AddressRow }

def getAddressDf (tasks : List String) : Except PyError (List AddressRow) :=
  setIndex "'date', 'task', 'iface'" (reader.addressRows tasks)

def vipRows (tasks : List String) : List VipRow :=
  (reader.tasksOr tasks).flatMap fun task =>
    (reader.infos task).flatMap fun info =>
      info.vips.map fun (network, vip) =>
        { date := fromTimestamp info.time, task, service := info.service, network, vip : VipRow }

def getServiceVipDf (tasks : List String) : Except PyError (List VipRow) :=
  setIndex "'date', 'task', 'network'" (reader.vipRows tasks)

/-- The four joins in turn, then the columns that are kept. A service that no address tells
is taken from the virtual IP, the network from the source or else from the destination. -/
def extendPacketDf (dfPacket : List PacketRow) : Except PyError (List ExtendedRow) := do
  let dfAddress ← reader.getAddressDf []
  let dfVip ← reader.getServiceVipDf []
  let df := reader.pandas.merge (fun row => row.packet.src) AddressRow.address dfPacket dfAddress
  let df := reader.pandas.merge (fun row => row.1.packet.dst) AddressRow.address df dfAddress
  let df := reader.pandas.merge (fun row => row.1.1.packet.src) VipRow.vip df dfVip
  let df := reader.pandas.merge (fun row => row.1.1.1.packet.dst) VipRow.vip df dfVip
  return df.map fun ((((row, src), dst), srcVip), dstVip) =>
    { row
      srcTask := src.map AddressRow.task
      srcService := (src.bind AddressRow.service).or (srcVip.bind VipRow.service)
      dstTask := dst.map AddressRow.task
      dstService := (dst.bind AddressRow.service).or (dstVip.bind VipRow.service)
      network := (src.bind AddressRow.network).or (dst.bind AddressRow.network) }

def packetRows (rows : List PacketFrameRow) : List PacketRow :=
  rows.filterMap fun row => match row.document with
    | .packet packet => some ⟨row.date, row.iface, packet⟩
    | _ => none

/-- `get_packet_df(task, extended=True)` -/
def getExtendedPacketDf (task : String) : Except PyError (Option (List ExtendedRow)) :=
  match getPacketDf reader.redis reader.store task with
  | none => .ok none
  | some rows => do
    let df ← reader.extendPacketDf (packetRows rows)
    return some df

/-! In a store that tasks wrote, reading the documents of one kind drops none. -/

theorem map_infos_runWrites {writes : List Write} (named : ∀ write ∈ writes, write.WellNamed)
    (built : reader.store = runWrites reader.redis writes) {t : String} (task : TaskName t) :
    (reader.infos t).map .info = getInfo reader.store t := by
  have all : ∀ doc ∈ getInfo reader.store t, ∃ info, doc = .info info := by
    intro doc member
    rw [built] at member
    obtain ⟨info, same, -⟩ := (mem_getInfo named task).mp member
    exact ⟨info, same⟩
  unfold infos
  generalize getInfo reader.store t = docs at all
  induction docs with
  | nil => rfl
  | cons doc rest ih =>
    obtain ⟨info, rfl⟩ := all doc List.mem_cons_self
    simpa using ih fun other member => all other (List.mem_cons_of_mem _ member)

/-! How often a packet comes out of the joins. -/

def allInfos : List NodeInfo := (getTasks reader.redis reader.store).flatMap reader.infos

def reportedAddresses : List String :=
  reader.allInfos.flatMap fun info => info.ifaceAddresses.map Prod.snd

def reportedVips : List String := reader.allInfos.flatMap fun info => info.vips.map Prod.snd

variable {reader}

theorem setIndex_ok_iff {α : Type} {columns : String} {rows result : List α} :
    setIndex columns rows = .ok result ↔ rows = result ∧ rows ≠ [] := by
  unfold setIndex
  cases rows <;> simp

theorem map_address_addressRows :
    (reader.addressRows []).map AddressRow.address = reader.reportedAddresses := by
  simp [addressRows, reportedAddresses, allInfos, tasksOr, List.map_flatMap, List.flatMap_assoc,
    Function.comp_def]

theorem map_vip_vipRows : (reader.vipRows []).map VipRow.vip = reader.reportedVips := by
  simp [vipRows, reportedVips, allInfos, tasksOr, List.map_flatMap, List.flatMap_assoc, Function.comp_def]

theorem addressRows_ne_nil_iff : reader.addressRows [] ≠ [] ↔ reader.reportedAddresses ≠ [] := by
  rw [← map_address_addressRows, Ne, Ne, List.map_eq_nil_iff]

theorem vipRows_ne_nil_iff : reader.vipRows [] ≠ [] ↔ reader.reportedVips ≠ [] := by
  rw [← map_vip_vipRows, Ne, Ne, List.map_eq_nil_iff]

/-- A join repeats what it joins to as often as the right frame has its key. -/
theorem map_merge_perm {α β γ : Type} (pandas : Pandas) (original : α → γ) (leftOn : γ → String)
    (rightOn : β → String) {left : List α} (right : List β) {times : γ → Nat} {items : List γ}
    (before : (left.map original).Perm (repeated times items)) :
    ((pandas.merge (fun row => leftOn (original row)) rightOn left right).map fun row => original row.1).Perm
      (repeated (fun item => times item * copies rightOn right (leftOn item)) items) := by
  have joined : ((leftJoin (fun row => leftOn (original row)) rightOn left right).map
      fun row => original row.1) = repeated (fun item => copies rightOn right (leftOn item)) (left.map original) := by
    rw [← map_repeated original, ← map_fst_leftJoin, List.map_map]
    rfl
  refine ((pandas.merge_perm _ rightOn left right).map _).trans ?_
  rw [joined, ← repeated_repeated]
  exact repeated_perm _ before

/-- How often a packet comes out of all the joins. -/
def packetCopies (reader : ReportDataRedisReader) (row : PacketRow) : Nat :=
  copies AddressRow.address (reader.addressRows []) row.packet.src *
    copies AddressRow.address (reader.addressRows []) row.packet.dst *
    copies VipRow.vip (reader.vipRows []) row.packet.src *
    copies VipRow.vip (reader.vipRows []) row.packet.dst

theorem extendPacketDf_ok_iff {dfPacket : List PacketRow} :
    (∃ df, reader.extendPacketDf dfPacket = .ok df) ↔
      reader.reportedAddresses ≠ [] ∧ reader.reportedVips ≠ [] := by
  rw [← addressRows_ne_nil_iff, ← vipRows_ne_nil_iff]
  constructor
  · rintro ⟨df, made⟩
    obtain ⟨_, addresses, made⟩ := bind_ok made
    obtain ⟨_, vips, -⟩ := bind_ok made
    exact ⟨(setIndex_ok_iff.mp addresses).2, (setIndex_ok_iff.mp vips).2⟩
  · rintro ⟨addresses, vips⟩
    unfold extendPacketDf getAddressDf getServiceVipDf
    rw [setIndex_ok_iff.mpr ⟨rfl, addresses⟩, setIndex_ok_iff.mpr ⟨rfl, vips⟩]
    exact ⟨_, rfl⟩

theorem extendPacketDf_copies {dfPacket : List PacketRow} {df : List ExtendedRow}
    (made : reader.extendPacketDf dfPacket = .ok df) :
    (df.map ExtendedRow.row).Perm (repeated reader.packetCopies dfPacket) := by
  obtain ⟨_, addresses, made⟩ := bind_ok made
  obtain ⟨_, vips, made⟩ := bind_ok made
  obtain ⟨rfl, -⟩ := setIndex_ok_iff.mp addresses
  obtain ⟨rfl, -⟩ := setIndex_ok_iff.mp vips
  cases made
  rw [List.map_map]
  -- every packet is there once before the first join, and each join multiplies
  have single : (dfPacket.map id).Perm (repeated (fun _ => 1) dfPacket) := by
    rw [List.map_id]
    exact ((repeated_perm_self_iff (fun _ => Nat.one_pos) dfPacket).mpr fun _ _ => rfl).symm
  have bySrc := map_merge_perm reader.pandas id (fun row => row.packet.src) AddressRow.address
    (reader.addressRows []) single
  have byDst := map_merge_perm reader.pandas _ (fun row => row.packet.dst) AddressRow.address
    (reader.addressRows []) bySrc
  have bySrcVip := map_merge_perm reader.pandas _ (fun row => row.packet.src) VipRow.vip
    (reader.vipRows []) byDst
  have byDstVip := map_merge_perm reader.pandas _ (fun row => row.packet.dst) VipRow.vip
    (reader.vipRows []) bySrcVip
  simp only [Nat.one_mul] at byDstVip
  exact byDstVip

theorem packetCopies_pos (reader : ReportDataRedisReader) (row : PacketRow) : 0 < reader.packetCopies row := by
  unfold packetCopies
  simp [copies_pos]

theorem packetCopies_eq_one_iff (row : PacketRow) :
    reader.packetCopies row = 1 ↔ ∀ address, address = row.packet.src ∨ address = row.packet.dst →
      reader.reportedAddresses.count address ≤ 1 ∧ reader.reportedVips.count address ≤ 1 := by
  simp only [packetCopies, mul_eq_one, copies_eq_one_iff, map_address_addressRows, map_vip_vipRows]
  constructor
  · rintro ⟨⟨⟨src, dst⟩, srcVip⟩, dstVip⟩ address (rfl | rfl)
    · exact ⟨src, srcVip⟩
    · exact ⟨dst, dstVip⟩
  · intro once
    have src := once _ (Or.inl rfl)
    have dst := once _ (Or.inr rfl)
    exact ⟨⟨⟨src.1, dst.1⟩, src.2⟩, dst.2⟩

/-- Some address and some virtual IP are reported, and the addresses of the packets are
reported at most once as an address and at most once as a virtual IP, over all documents. -/
structure ReportsOnce (reader : ReportDataRedisReader) (dfPacket : List PacketRow) : Prop where
  someAddress : reader.reportedAddresses ≠ []
  someVip : reader.reportedVips ≠ []
  once : ∀ row ∈ dfPacket, ∀ address, address = row.packet.src ∨ address = row.packet.dst →
    reader.reportedAddresses.count address ≤ 1 ∧ reader.reportedVips.count address ≤ 1

/-- The extension returns every packet exactly once when its addresses are reported once,
and only then. -/
theorem extension_keeps_packets_iff (reader : ReportDataRedisReader) (dfPacket : List PacketRow) :
    (∃ df, reader.extendPacketDf dfPacket = .ok df ∧ (df.map ExtendedRow.row).Perm dfPacket) ↔
      reader.ReportsOnce dfPacket := by
  -- the packets that come out are a rearrangement of the ones that went in, each repeated
  have kept : ∀ df, reader.extendPacketDf dfPacket = .ok df →
      ((df.map ExtendedRow.row).Perm dfPacket ↔ ∀ row ∈ dfPacket, reader.packetCopies row = 1) := by
    intro df made
    rw [← repeated_perm_self_iff (packetCopies_pos reader)]
    have copied := extendPacketDf_copies made
    exact ⟨copied.symm.trans, copied.trans⟩
  constructor
  · rintro ⟨df, made, same⟩
    obtain ⟨addresses, vips⟩ := extendPacketDf_ok_iff.mp ⟨df, made⟩
    exact ⟨addresses, vips, fun row member =>
      (packetCopies_eq_one_iff row).mp ((kept df made).mp same row member)⟩
  · rintro ⟨addresses, vips, once⟩
    obtain ⟨df, made⟩ := extendPacketDf_ok_iff.mpr ⟨addresses, vips⟩
    exact ⟨df, made, (kept df made).mpr fun row member => (packetCopies_eq_one_iff row).mpr (once row member)⟩

def replicas : ReportDataRedisReader where
  redis := Redis.plain
  pandas := Pandas.plain
  covers := fun _ _ => true
  store :=
    let replica := fun (time : Rat) (address : String) =>
      { time, net := [("eth0", [⟨2, address⟩])], env := [("SERVICE_NAME", "clock")],
        serviceVips := some [("net", "10.0.1.5")] : NodeInfo }
    runWrites Redis.plain [.info "clock.1" (replica 5 "10.0.1.6"), .info "clock.2" (replica 6 "10.0.1.7")]

/-- A packet that is sent to the virtual IP comes out twice. -/
theorem replicas_repeat_packet :
    ¬ ∀ (reader : ReportDataRedisReader) (dfPacket : List PacketRow),
      ∃ df, reader.extendPacketDf dfPacket = .ok df ∧ (df.map ExtendedRow.row).Perm dfPacket := by
  intro all
  obtain ⟨df, made, same⟩ := all replicas
    [⟨7, "eth0", ⟨7, 90, "10.0.1.9", "10.0.1.5", "http", "tcp", none, some 80⟩⟩]
  have twice : ∃ df, replicas.extendPacketDf
      [⟨7, "eth0", ⟨7, 90, "10.0.1.9", "10.0.1.5", "http", "tcp", none, some 80⟩⟩] = .ok df ∧ df.length = 2 :=
    ⟨_, rfl, by decide⟩
  obtain ⟨other, otherMade, two⟩ := twice
  cases made.symm.trans otherMade
  have one := same.length_eq
  rw [List.length_map, two] at one
  cases one

end ReportDataRedisReader

end Wotemu
