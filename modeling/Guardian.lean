import Guardian.Machine.Run
import Guardian.Machine.Pool
import Guardian.Machine.Promise
import Guardian.Machine.Monitor
import Guardian.Wire.Varint
import Guardian.Wire.Field
import Guardian.Text.Utf8
import Guardian.Text.Join
import Guardian.Text.Decimal
import Guardian.Text.Lines
import Guardian.Options.Loop
import Guardian.Incremental.Decoder
import Guardian.Incremental.Bindings
import Guardian.Ipc.Framing
import Guardian.Ipc.FrameStream
import Guardian.Model.Metrics
import Guardian.Model.Arithmetic
import Guardian.Tools.Logger
import Guardian.Tools.SharedLogger
import Guardian.Proto.LocalAgent
import Guardian.Proto.Codec
import Guardian.Proto.Telemetry
import Guardian.Agent.LatestSnapshotStore
import Guardian.Agent.TelemetryClient
import Guardian.Agent.TelemetryRunner
import Guardian.Agent.Response
import Guardian.Agent.Reporting
import Guardian.Agent.Submission
import Guardian.Agent.IpcServer
import Guardian.Agent.Session
import Guardian.Agent.Output
import Guardian.Agent.IpcLog
import Guardian.Agent.ConnectionLog
import Guardian.Agent.Receive
import Guardian.Agent.Shutdown
import Guardian.Agent.Lifecycle
import Guardian.Agent.Process
import Guardian.Agent.Ending
import Guardian.Desktop.LocalAgentClient
import Guardian.Desktop.Receive
import Guardian.Desktop.Traffic
import Guardian.Desktop.Course
import Guardian.Desktop.Backoff
import Guardian.Desktop.Liveness
import Guardian.Desktop.SystemMetricsViewModel
import Guardian.Desktop.Path
import Guardian.Desktop.Gui
import Guardian.Desktop.Freshness
import Guardian.System.Chunking
import Guardian.System.Fidelity
import Guardian.System.Delivery
import Guardian.System.Protocol
import Guardian.System.Ordering
import Guardian.Ipc.Classification
import Guardian.Agent.Buffering
import Guardian.System.Buffering
import Guardian.Server.TelemetryService
import Guardian.Server.Main
import Guardian.Server.Serving
import Guardian.System.Submission
import Guardian.Agent.SystemMetricsCollector
import Guardian.Agent.CycleReport
import Guardian.Agent.RunLoop
import Guardian.Agent.Pacing
import Guardian.Agent.EventIds
import Guardian.System.Telemetry
import Guardian.System.Accounting
import Guardian.Agent.CommandLine
import Guardian.Agent.Arguments
import Guardian.System.Validity
import Guardian.Desktop.Aging
import Guardian.Desktop.Refreshing
import Guardian.Desktop.LastKnown
import Guardian.Desktop.Window
import Guardian.System.Monitoring
import Guardian.System.Calm
import Guardian.System.Answering
import Guardian.System.Staleness
import Guardian.Desktop.Incompatible
