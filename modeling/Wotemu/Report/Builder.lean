import Wotemu.Foundation.Numerals
import Wotemu.Report.Figures

/-! The pages of the report.

A component becomes the elements of a page. Texts from the store go through
lxml, which does not take all of them; the fixed texts of the components and
the Compose file, which is written in ASCII, are not checked.
-/

set_option autoImplicit false

namespace Wotemu

open Wotemu.Foundation

def Renderer.setText (renderer : Renderer) (text : String) : Except PyError String :=
  if renderer.compatible text then .ok text else .error .valueError

inductive Element where
  | title (text : String)
  | notRunning
  | error
  | details (entries : List (String × String))
  | figuresRow (figures : List Figure)
  | figureBlock (title : Option String) (figure : Figure)
  | logs (isError : Bool) (text : String)
  | header
  | composeLink
  | taskList (items : List (String × String))

inductive Page where
  | compose (content : Dict String Value)
  | task (elements : List Element)
  | index (elements : List Element)

def nonempty (text : Option String) : Option String := text.filter fun text => text ≠ ""

def SnapshotRow.fields (row : SnapshotRow) : List (String × Option String) :=
  [("Desired state", some row.desiredState), ("Node ID", row.nodeId), ("Service ID", row.serviceId),
   ("Task ID", some row.taskId), ("Container ID", row.containerId)]

def SnapshotRow.entries (row : SnapshotRow) : List (String × String) :=
  row.fields.filterMap fun field => (nonempty field.2).map fun text => (field.1, text)

def SnapshotRow.logsText (row : SnapshotRow) : Option String :=
  (nonempty row.logs).map fun text => String.ofList (strip isSpace text.toList)

structure TaskSectionComponent where
  figMem : Option Figure
  figCpu : Option Figure
  figPacketIface : Option Figure
  figPacketProto : Option Figure
  figThingCounts : Option Figure
  figConsReqLat : Option Figure
  figExpsReqLat : Option Figure
  figConsEvents : Option Figure
  figExpsEvents : Option Figure
  snapshot : Option SnapshotRow
  info : Option NodeInfo
  title : String

namespace TaskSectionComponent

variable (component : TaskSectionComponent) (renderer : Renderer)

def getTitleElement : Except PyError (List Element) :=
  if component.title = "" then .ok [] else do
    let text ← renderer.setText component.title
    return [.title text]

def getRunningElement : List Element :=
  match component.snapshot with
  | some row => if row.isRunning then [] else [.notRunning]
  | none => []

def getErrorElement : List Element :=
  match component.snapshot with
  | some row => if row.isError then [.error] else []
  | none => []

def getInfoElement : Except PyError (List Element) :=
  match component.snapshot with
  | none => .ok []
  | some row => do
    let entries ← row.entries.mapM fun (label, text) => do
      let text ← renderer.setText text
      return (label, text)
    require component.info.isSome .attributeError
    return [.details entries]

def getLogsElement : Except PyError (List Element) :=
  match component.snapshot with
  | none => .ok []
  | some row => match row.logsText with
    | none => .ok []
    | some text => do
      let text ← renderer.setText text
      return [.logs row.isError text]

def figEls : List Element :=
  ([component.figThingCounts, component.figConsReqLat, component.figExpsReqLat, component.figConsEvents,
    component.figExpsEvents].filterMap id).map (.figureBlock none)

def toElement : Except PyError (List Element) := do
  let figs := [component.figMem, component.figCpu, component.figPacketIface, component.figPacketProto].filterMap id
  let title ← component.getTitleElement renderer
  let info ← component.getInfoElement renderer
  let logs ← component.getLogsElement renderer
  return title ++ component.getRunningElement ++ component.getErrorElement ++ info ++ [.figuresRow figs] ++
    component.figEls ++ logs

end TaskSectionComponent

namespace ReportBuilder

variable (builder : ReportBuilder)

section Sections

def snapshotOf (task : String) : Except PyError (Option SnapshotRow) := do
  let dfSnap ← builder.getSnapshotDf
  match dfSnap with
  | none => throw .typeError
  | some dfSnap =>
    column "task" (!dfSnap.isEmpty)
    return (dfSnap.filter fun row => row.task = some task).getLast?

def getTaskSectionComponent (task : String) : Except PyError TaskSectionComponent := do
  let figMem ← builder.buildTaskMemFigure task
  let figCpu ← builder.buildTaskCpuFigure task
  let figPacketIface ← builder.buildTaskPacketIfaceFigure task
  let figPacketProto ← builder.buildTaskPacketProtocolFigure task
  let figThingCounts ← builder.buildThingCountsFigure task
  let figConsReqLat ← builder.buildConsumedRequestLatencyFigure task
  let figExpsReqLat ← builder.buildExposedRequestLatencyFigure task
  let figConsEvents ← builder.buildConsumedEventsFigure task
  let figExpsEvents ← builder.buildExposedEventsFigure task
  let snapshot ← builder.snapshotOf task
  return {
    figMem, figCpu, figPacketIface, figPacketProto, figThingCounts, figConsReqLat, figExpsReqLat, figConsEvents,
    figExpsEvents, snapshot
    info := builder.reader.latestInfo task
    title := task }

def blocks (figures : List (String × Option Figure)) : List Element :=
  figures.filterMap fun (title, figure) => figure.map (.figureBlock (some title))

def getServiceTrafficComponent : Except PyError (List Element) := do
  let figInbound ← builder.buildServiceTrafficFigure true
  let figOutbound ← builder.buildServiceTrafficFigure false
  return blocks [("Service traffic heatmap (inbound)", figInbound), ("Service traffic heatmap (outbound)", figOutbound)]

def getNetworkTrafficComponent : Except PyError (List Element) := do
  let fig ← builder.buildNetworkTrafficFigure
  return blocks [("Network traffic", fig)]

def getSystemRankingComponent : Except PyError (List Element) := do
  let figCpu ← builder.buildCpuRankingFigure
  let figMem ← builder.buildMemRankingFigure
  return blocks [("CPU usage ranking", figCpu), ("Memory usage ranking", figMem)]

def getTimelineComponent : Except PyError (List Element) := do
  let fig ← builder.buildTaskTimelineFigure
  return blocks [("Tasks lifetime", fig)]

/-- The last Compose entry; there is no page for an empty one. -/
def getComposeComponent : Option (Dict String Value) :=
  (builder.emulation.composes.members.getLast?).filter fun content => !content.isEmpty

/-- An item of the list of tasks: its colour tells how the task ended. -/
def itemClass (dfSnapshot : List SnapshotRow) (task : String) : String :=
  let dfSnap := dfSnapshot.filter fun row => row.task = some task
  let ret := "list-group-item list-group-item-action"
  if !dfSnap.isEmpty && dfSnap.any SnapshotRow.isError then ret ++ " list-group-item-danger"
  else if !dfSnap.isEmpty && !dfSnap.all SnapshotRow.isRunning then ret ++ " list-group-item-warning"
  else ret ++ " text-primary"

def initTime (task : String) : Rat := ((builder.reader.latestInfo task).map NodeInfo.time).getD 0

def pageName (task : String) : String := task ++ ".html"

def taskListElement (tasks : List String) (dfSnapshot : Option (List SnapshotRow)) : Except PyError Element := do
  let items ← (tasks.insertionSort fun first second => builder.initTime first ≤ builder.initTime second).mapM
    fun task => match dfSnapshot with
      | none => throw .typeError
      | some dfSnapshot => do
        column "task" (!dfSnapshot.isEmpty)
        let _ ← builder.renderer.setText (pageName task)
        let text ← builder.renderer.setText task
        return (text, itemClass dfSnapshot task)
  return .taskList items

end Sections

def buildTaskPage (task : String) : Except PyError (Dict String Page) := do
  let component ← builder.getTaskSectionComponent task
  let elements ← component.toElement builder.renderer
  return [(pageName task, .task elements)]

def buildReport : Except PyError (Dict String Page) := do
  let tasks := builder.reader.tasks.insertionSort (· ≤ ·)
  let taskPages ← updateEach builder.buildTaskPage tasks []
  let dfSnapshot ← builder.getSnapshotDf
  let serviceTraffic ← builder.getServiceTrafficComponent
  let networkTraffic ← builder.getNetworkTrafficComponent
  let systemRanking ← builder.getSystemRankingComponent
  let timeline ← builder.getTimelineComponent
  let composeComp := builder.getComposeComponent
  let pages := match composeComp with
    | some content => [("compose.html", Page.compose content)]
    | none => []
  let composeLink := if composeComp.isSome then [Element.composeLink] else []
  let taskList ← builder.taskListElement tasks dfSnapshot
  let elements := .header :: composeLink ++ serviceTraffic ++ networkTraffic ++ systemRanking ++ timeline ++ [taskList]
  let pages := Dict.update pages [("index.html", .index elements)]
  return Dict.update pages taskPages

end ReportBuilder

end Wotemu
