import Wotemu.Foundation.Decimal
import Wotemu.Foundation.Dict
import Wotemu.Foundation.DistinctBy
import Wotemu.Foundation.Grouping
import Wotemu.Foundation.Heaps
import Wotemu.Foundation.Latest
import Wotemu.Foundation.Memory
import Wotemu.Foundation.LeastSquares
import Wotemu.Foundation.LeftJoin
import Wotemu.Foundation.Numerals
import Wotemu.Foundation.Options
import Wotemu.Foundation.Programs
import Wotemu.Foundation.Separated
import Wotemu.Foundation.Shlex
import Wotemu.Foundation.Transition
import Wotemu.Foundation.Windows
import Wotemu.Foundation.Executions
import Wotemu.Foundation.Agents
import Wotemu.Foundation.FairLock
import Wotemu.Foundation.SortedSets
import Wotemu.Foundation.Updates
import Wotemu.Foundation.Value
import Wotemu.Foundation.Json
import Wotemu.Foundation.LocalTime
import Wotemu.Foundation.Merging
import Wotemu.Foundation.Objects
import Wotemu.Foundation.Stages
import Wotemu.Foundation.Yaml
import Wotemu.Foundation.SortedKeys
import Wotemu.Foundation.Ipv4
import Wotemu.Foundation.Reordering
import Wotemu.Topology.Models
import Wotemu.Topology.Compose
import Wotemu.Topology.Components
import Wotemu.Topology.EnvConfig
import Wotemu.Topology.InPlace
import Wotemu.Topology.Aliasing
import Wotemu.Topology.Entries
import Wotemu.Topology.Effects
import Wotemu.Topology.Environment
import Wotemu.Topology.Labels
import Wotemu.Topology.Privacy
import Wotemu.Topology.References
import Wotemu.Topology.Retention
import Wotemu.Topology.Ordering
import Wotemu.Topology.Sharing
import Wotemu.Topology.Mirroring
import Wotemu.Report.DockerTime
import Wotemu.Report.Store
import Wotemu.Report.Reader
import Wotemu.Report.AppMetrics
import Wotemu.Report.Separation
import Wotemu.Report.Packets
import Wotemu.Report.Snapshot
import Wotemu.Report.Traffic
import Wotemu.Report.Figures
import Wotemu.Report.Instants
import Wotemu.Report.Builder
import Wotemu.Report.Drawing
import Wotemu.Report.Conservation
import Wotemu.Report.Shown
import Wotemu.Report.Sections
import Wotemu.Report.Completion
import Wotemu.Report.ReaderCache
import Wotemu.Report.CacheTransparency
import Wotemu.Monitor.Tasks
import Wotemu.Monitor.Capture
import Wotemu.Monitor.NodeMonitor
import Wotemu.Monitor.Records
import Wotemu.Monitor.Sampling
import Wotemu.Monitor.CpuUsage
import Wotemu.Monitor.Interleavings
import Wotemu.Monitor.Stopping
import Wotemu.Monitor.Progress
import Wotemu.Monitor.Termination
import Wotemu.Cli.Entrypoint
import Wotemu.Cli.Waiter
import Wotemu.Cli.Routes
import Wotemu.Cli.CpuBenchmark
import Wotemu.Cli.Shutdown
import Wotemu.Cli.Stop
import Wotemu.Cli.App
import Wotemu.Cli.Chaos
import Wotemu.Cli.StopSnapshot
import Wotemu.Cli.Conditions
import Wotemu.Cli.Broker
import Wotemu.Cli.Gateways
import Wotemu.Cli.Diversion
import Wotemu.Cli.Deployment
import Wotemu.Cli.StopTarget
import Wotemu.Report.ComposePage
import Wotemu.Cli.Boot
import Wotemu.Monitor.DisplayFilter
import Wotemu.Cli.Serving
import Wotemu.Monitor.Observed
import Wotemu.Things.Requests
import Wotemu.Apps.DetectionQueue
import Wotemu.Apps.Detections
import Wotemu.Apps.DetectorRun
import Wotemu.Apps.PtzControl
import Wotemu.Apps.Camera
import Wotemu.Apps.Replicas
import Wotemu.Apps.WaitNode
import Wotemu.Apps.Subscriptions
import Wotemu.Apps.ErrorRounds
import Wotemu.Apps.Historian
import Wotemu.Apps.Collection
import Wotemu.Apps.Copying
import Wotemu.Apps.Observation
import Wotemu.Cli.Limits
import Wotemu.Apps.RoundTrip
import Wotemu.Monitor.NodeInfo
import Wotemu.Report.Attribution
