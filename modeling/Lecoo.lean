import Lecoo.Cli.Main
import Lecoo.Cli.Operation
import Lecoo.Daemon.Answers
import Lecoo.Daemon.ChargeIndicator
import Lecoo.Daemon.Connection
import Lecoo.Daemon.Contention
import Lecoo.Daemon.Drift
import Lecoo.Daemon.Durability
import Lecoo.Daemon.EndToEnd
import Lecoo.Daemon.FanOverride
import Lecoo.Daemon.FanSafety
import Lecoo.Daemon.Footprint
import Lecoo.Daemon.Guards
import Lecoo.Daemon.Handlers
import Lecoo.Daemon.Interface
import Lecoo.Daemon.Jobs
import Lecoo.Daemon.Lawful
import Lecoo.Daemon.Listeners
import Lecoo.Daemon.OptOut
import Lecoo.Daemon.Panics
import Lecoo.Daemon.Ports
import Lecoo.Daemon.PowerCycle
import Lecoo.Daemon.Readings
import Lecoo.Daemon.Recovery
import Lecoo.Daemon.Refusal
import Lecoo.Daemon.Reporting
import Lecoo.Daemon.Requests
import Lecoo.Daemon.Restore
import Lecoo.Daemon.Scopes
import Lecoo.Daemon.ServiceStart
import Lecoo.Daemon.Session
import Lecoo.Daemon.SettingsOrder
import Lecoo.Daemon.Store
import Lecoo.Daemon.Tearing
import Lecoo.Daemon.Telemetry
import Lecoo.Daemon.TelemetrySync
import Lecoo.Daemon.World
import Lecoo.Data.Calendar
import Lecoo.Data.Json
import Lecoo.Data.Masks
import Lecoo.Data.Memory
import Lecoo.Data.Metered
import Lecoo.Data.Padded
import Lecoo.Data.PrefixCoder
import Lecoo.Data.SemVer
import Lecoo.Ec.Batch
import Lecoo.Ec.Detect
import Lecoo.Ec.Hw
import Lecoo.Ec.Independence
import Lecoo.Ec.Leaving
import Lecoo.Ec.LedCoherence
import Lecoo.Ec.Offsets
import Lecoo.Ec.Port
import Lecoo.Ec.Prescription
import Lecoo.Ec.Script
import Lecoo.Ec.Sequence
import Lecoo.Ec.Setter
import Lecoo.Ec.Watchdog
import Lecoo.Effects.Amid
import Lecoo.Effects.Contract
import Lecoo.Effects.Expand
import Lecoo.Effects.Feed
import Lecoo.Effects.GuardedPart
import Lecoo.Effects.Link
import Lecoo.Effects.Machine
import Lecoo.Effects.Monitor
import Lecoo.Effects.Mutex
import Lecoo.Effects.Observe
import Lecoo.Effects.Pool
import Lecoo.Effects.Program
import Lecoo.Effects.Trace
import Lecoo.Effects.Triple
import Lecoo.Gui.BatteryCard
import Lecoo.Gui.BatteryPage
import Lecoo.Gui.Broadcast
import Lecoo.Gui.HistoryBound
import Lecoo.Gui.LedRing
import Lecoo.Gui.Logging
import Lecoo.Gui.Overlay
import Lecoo.Gui.Pacing
import Lecoo.Gui.Poller
import Lecoo.Gui.SettingPages
import Lecoo.Gui.Status
import Lecoo.Gui.StatusViews
import Lecoo.Gui.TelemetryHistory
import Lecoo.Gui.Updates
import Lecoo.Gui.VersionOrder
import Lecoo.Ipc.Bincode
import Lecoo.Ipc.Exchange
import Lecoo.Ipc.Framing
import Lecoo.Ipc.Handshake
import Lecoo.Ipc.Structs
import Lecoo.Ipc.TelemetryFormat
import Lecoo.Server.Accounting
import Lecoo.Server.Collection
import Lecoo.Server.Dispatch
import Lecoo.Server.Handler
import Lecoo.Server.Rows
