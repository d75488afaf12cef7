import Wotemu.Report.Snapshot
import Wotemu.Report.Traffic

/-! The figures of the report.

Each builder reads a frame, leaves its figure out when the frame is empty, and
takes the columns it needs for granted otherwise. A frame has a column when one
of its rows does. What is drawn inside a figure is left to Plotly.
-/

set_option autoImplicit false

namespace Wotemu

open Wotemu.Foundation

/-- What Plotly and lxml decide: whether so many facets, in rows of a length, have room in a
figure of a height, whether the ends of a timeline can be compared with its starts, and which
texts a document can hold. They raise a `ValueError`, a `TypeError` and a `ValueError` otherwise. -/
structure Renderer where
  draws : Nat → Nat → Option Nat → Bool
  spans : List (Option Int × Option Int) → Bool
  compatible : String → Bool

/-- `InteractionVerbs.SUBSCRIBE_EVENT` -/
def subscribeEvent : String := "subscribeevent"

def requestVerbs : List String := ["invokeaction", "writeproperty", "readproperty"]

def consumedThing : String := "ConsumedThing"
def exposedThing : String := "ExposedThing"

structure ThingData.Recorded (data : ThingData) : Prop where
  latency : data.verb ∈ requestVerbs → "latency" ∈ Dict.keys data.details
  event : data.verb = subscribeEvent → "event" ∈ Dict.keys data.details

namespace ReportDataRedisReader

variable (reader : ReportDataRedisReader)

/-- The samples of a task. Nothing else is written under their key. -/
def systemDf (task : String) : List SystemSample :=
  (getSystemDf reader.store task).filterMap fun row => match row.document with
    | .system sample => some sample
    | _ => none

def thingDf (task : String) : List ThingData :=
  (getThingDf reader.store task).filterMap fun row => match row.document with
    | .thing data => some data
    | _ => none

def tasks : List String := getTasks reader.redis reader.store

end ReportDataRedisReader

/-- What an emulation leaves in the store. A task is known by its info documents. -/
structure Emulation where
  reader : ReportDataRedisReader
  snapshots : SortedSet Snapshot
  composes : SortedSet (Dict String Value)
  informed : ∀ task ∈ reader.tasks, reader.latestInfo task ≠ none
  recorded : ∀ task, ∀ data ∈ reader.thingDf task, data.Recorded

structure ReportBuilder where
  emulation : Emulation
  renderer : Renderer

inductive FigureKind where
  | taskMem
  | taskCpu
  | packetIface
  | packetProtocol
  | thingCounts
  | consumedLatency
  | exposedLatency
  | consumedEvents
  | exposedEvents
  | trafficInbound
  | trafficOutbound
  | networkTraffic
  | cpuRanking
  | memRanking
  | timeline
  deriving DecidableEq, Repr

structure Figure where
  kind : FigureKind
  title : String
  height : Option Nat := none
  cells : List (List Rat) := []
  deriving DecidableEq

def minHeight : Nat := 400

/-- `df[name]` -/
def column (name : String) (present : Bool) : Except PyError Unit := require present (.keyError name)

def SnapshotRow.span (row : SnapshotRow) : Option Int × Option Int :=
  (row.createdAt, if row.isRunning then some row.stoppedAt else row.updatedAt)

namespace ReportBuilder

variable (builder : ReportBuilder)

def reader : ReportDataRedisReader := builder.emulation.reader

def getSnapshotDf : Except PyError (Option (List SnapshotRow)) :=
  builder.reader.getSnapshotDf builder.emulation.snapshots

section Tasks

variable (task : String)

def buildTaskMemFigure : Except PyError (Option Figure) := do
  let dfSystem := builder.reader.systemDf task
  if dfSystem.isEmpty then return none
  column "mem_mb" (dfSystem.any fun sample => sample.memMb.isSome)
  column "mem_percent" (dfSystem.any fun sample => sample.memPercent.isSome)
  return some { kind := .taskMem, title := "Memory usage" }

def buildTaskCpuFigure : Except PyError (Option Figure) := do
  let dfSystem := builder.reader.systemDf task
  if dfSystem.isEmpty then return none
  column "cpu_percent" (dfSystem.any fun sample => sample.cpuPercent.isSome)
  return some { kind := .taskCpu, title := "CPU usage" }

/-- The figures by interface and by protocol: packets without ports are left out of them. -/
def buildTaskPacketFigure (figure : Figure) : Except PyError (Option Figure) := do
  let df ← builder.reader.getExtendedPacketDf task
  match df with
  | none => return none
  | some df =>
    if df.isEmpty then return none
    column "dstport" (df.any fun ext => ext.row.packet.dstport.isSome)
    column "srcport" (df.any fun ext => ext.row.packet.srcport.isSome)
    return some figure

def buildTaskPacketIfaceFigure : Except PyError (Option Figure) :=
  builder.buildTaskPacketFigure task
    { kind := .packetIface, title := "Task data transfer by interface (10s windows)" }

def buildTaskPacketProtocolFigure : Except PyError (Option Figure) :=
  builder.buildTaskPacketFigure task
    { kind := .packetProtocol, title := "Task data transfer by protocol (10s windows)" }

/-- `df["thing"] + " (" + df["class"] + ")"` -/
def thingFacets (df : List ThingData) : List String :=
  distinctBy id (df.map fun data => data.thing ++ " (" ++ data.thingClass ++ ")")

def buildThingCountsFigure : Except PyError (Option Figure) := do
  let df := builder.reader.thingDf task
  if df.isEmpty then return none
  require (builder.renderer.draws (thingFacets df).length 2 none) .valueError
  return some { kind := .thingCounts, title := "Total interaction counts" }

def requestsOf (clsName : String) (df : List ThingData) : List ThingData :=
  df.filter fun data => data.verb ∈ requestVerbs ∧ data.thingClass = clsName

def buildReqLatencyFig (clsName : String) (figure : Figure) : Except PyError (Option Figure) := do
  let dfThing := builder.reader.thingDf task
  if dfThing.isEmpty then return none
  let df := requestsOf clsName dfThing
  if df.isEmpty then return none
  require (dfThing.any fun data => "latency" ∈ Dict.keys data.details) .valueError
  require (builder.renderer.draws (distinctBy id (df.map ThingData.thing)).length 2 none) .valueError
  return some figure

def buildConsumedRequestLatencyFigure : Except PyError (Option Figure) :=
  builder.buildReqLatencyFig task consumedThing
    { kind := .consumedLatency, title := "Latency distribution of consumed properties and actions" }

def buildExposedRequestLatencyFigure : Except PyError (Option Figure) :=
  builder.buildReqLatencyFig task exposedThing
    { kind := .exposedLatency, title := "Local handler latency distribution of exposed properties and actions" }

def eventsOf (clsName : String) (df : List ThingData) : List ThingData :=
  df.filter fun data => data.verb = subscribeEvent ∧ data.thingClass = clsName

/-- `df["name"] + " (" + df["thing"] + ")"`; an interaction without a name is in no group. -/
def eventFacets (df : List ThingData) : List String :=
  distinctBy id (df.filterMap fun data => data.name.map fun name => name ++ " (" ++ data.thing ++ ")")

/-- `int(math.ceil(float(facets) / 2) * 400)` -/
def eventsHeight (facets : Nat) : Nat := (facets + 1) / 2 * 400

def buildEventsFigure (clsName : String) (figure : Figure) : Except PyError (Option Figure) := do
  let dfThing := builder.reader.thingDf task
  if dfThing.isEmpty then return none
  let df := eventsOf clsName dfThing
  if df.isEmpty then return none
  column "event" (dfThing.any fun data => "event" ∈ Dict.keys data.details)
  let facets := (eventFacets df).length
  let height := eventsHeight facets
  require (builder.renderer.draws facets 2 (some height)) .valueError
  return some { figure with height := some height }

def buildConsumedEventsFigure : Except PyError (Option Figure) :=
  builder.buildEventsFigure task consumedThing
    { kind := .consumedEvents, title := "Timeline of consumed events (5s windows)" }

def buildExposedEventsFigure : Except PyError (Option Figure) :=
  builder.buildEventsFigure task exposedThing
    { kind := .exposedEvents, title := "Timeline of exposed events (5s windows)" }

end Tasks

section Stack

/-- The frame is used without a look at whether there is one. -/
def buildServiceTrafficFigure (inbound : Bool) : Except PyError (Option Figure) := do
  let df ← builder.reader.getServiceTrafficDf inbound
  match df with
  | none => throw .attributeError
  | some df =>
    if df.isEmpty then return none
    let heatmapX := sortedNames (df.map TrafficRow.service)
    let heatmapY := sortedNames (df.map TrafficRow.task)
    let heatmapZ ← heatmapY.mapM fun task => heatmapX.mapM fun service => getTraffic df service task
    return some {
      kind := if inbound then .trafficInbound else .trafficOutbound
      title := (if inbound then "Task - service" else "Service - task") ++ " traffic (KB) (service " ++
        (if inbound then "inbound" else "outbound") ++ ")"
      height := some (max (70 * heatmapY.length) minHeight)
      cells := heatmapZ }

/-- `pd.concat` of no frames raises. -/
def buildNetworkTrafficFigure : Except PyError (Option Figure) := do
  let dfPackets ← builder.reader.tasks.mapM builder.reader.getExtendedPacketDf
  let dfs := dfPackets.filterMap id
  require (!dfs.isEmpty) .valueError
  let df := dfs.flatten
  if df.isEmpty then return none
  return some { kind := .networkTraffic, title := "Data transfer by network (10s windows)", height := some 500 }

def rankingDf : List SystemSample := builder.reader.tasks.flatMap builder.reader.systemDf

def buildCpuRankingFigure : Except PyError (Option Figure) := do
  if builder.reader.tasks.isEmpty then return none
  let dfRanking := builder.rankingDf
  if dfRanking.isEmpty then return none
  column "cpu_percent" (dfRanking.any fun sample => sample.cpuPercent.isSome)
  return some { kind := .cpuRanking, title := "CPU distribution (by CPU model)" }

def buildMemRankingFigure : Except PyError (Option Figure) := do
  if builder.reader.tasks.isEmpty then return none
  let dfRanking := builder.rankingDf
  if dfRanking.isEmpty then return none
  require (dfRanking.any fun sample => sample.memMb.isSome) .valueError
  return some {
    kind := .memRanking
    title := "Memory distribution"
    height := some (max (45 * builder.reader.tasks.length) minHeight) }

/-- The snapshot is used without a look at whether there is one. -/
def buildTaskTimelineFigure : Except PyError (Option Figure) := do
  let dfSnap ← builder.getSnapshotDf
  match dfSnap with
  | none => throw .typeError
  | some dfSnap =>
    column "is_running" (!dfSnap.isEmpty)
    require (builder.renderer.spans (dfSnap.map SnapshotRow.span)) .typeError
    return some {
      kind := .timeline
      title := "Timeline of task containers"
      height := some (max (45 * (distinctBy id (dfSnap.map SnapshotRow.task)).length) minHeight) }

end Stack

end ReportBuilder

end Wotemu
