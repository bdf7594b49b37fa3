import Lecoo.Effects.Monitor
import Lecoo.Ipc.Structs
import Lecoo.Gui.Status

namespace Lecoo.Gui

open Lecoo.Effects Lecoo.Ipc

/-! # The poller

One task samples the daemon for as long as the application runs.  The commands of the
webview, the window and the tray set a flag and an interval it goes by, and wake it.
-/

/-- The temperatures are kept as `f32`, which a byte converts to without loss. -/
structure Telemetry where
  cpuTempC : UInt8
  sysTempC : UInt8
  cpuFanRpm : UInt32
  gpuFanRpm : UInt32
  batteryPercent : UInt8
  chargeLimitMin : UInt8
  chargeLimitMax : UInt8
  acConnected : Option Bool
  timestampMs : UInt64
deriving Repr, DecidableEq

/-- How a `select!` between a sleep and the signal ends. -/
inductive Wake where
  | elapsed
  | notified
deriving Repr, DecidableEq

/-- What is sent to the webview. -/
inductive FrontendEvent where
  | connectionStatus (status : ConnectionStatus)
  | telemetry (sample : Telemetry)
deriving Repr, DecidableEq

inductive PollerOp where
  | storeStatus (status : ConnectionStatus)
  | emit (event : FrontendEvent)
  | connect
  | request (req : IpcRequest)
  | storeError (message : String)
  | storeTelemetry (sample : Telemetry)
  | setTooltip (text : String)
  | loadPaused
  | storePaused (value : Bool)
  | loadInterval
  | storeInterval (ms : Nat)
  /-- `Instant::now()`, from which a sleep counts. -/
  | now
  /-- `select!` between a sleep until the deadline and `reconnect_signal.notified()`. -/
  | select (deadline : Nat)
  | notifyOne
  | acConnected
  | systemTimeMs
deriving Repr, DecidableEq

@[reducible] def pollerOps : Interface where
  Operation := PollerOp
  Reply
    | .connect => Except String (UInt8 × UInt8)
    | .request _ => Except String IpcResponse
    | .loadPaused => Bool
    | .loadInterval => Nat
    | .now => Nat
    | .select _ => Wake
    | .acConnected => Option Bool
    | .systemTimeMs => UInt64
    | _ => Unit

abbrev GuiTask (α : Type) := Program pollerOps α

def perform (operation : PollerOp) : GuiTask (pollerOps.Reply operation) :=
  Program.request (I := pollerOps) operation

/-- The context is all that is left of the error. -/
def IpcClient.request (req : IpcRequest) : Fallible pollerOps String IpcResponse :=
  Fallible.attempt do
    match ← perform (.request req) with
    | .ok res => pure (.ok res)
    | .error _ => pure (.error "ipc request failed")

section Sampling

-- the derived `Debug` of a response
variable (debug : IpcResponse → String)

def IpcClient.fetchTelemetry : Fallible pollerOps String Telemetry := do
  let temps ← IpcClient.request .getTemperatures
  let (cpuTemp, sysTemp) ← match temps with
    | .temp c s => pure (c, s)
    | .error e => throw s!"daemon error (temps): {e}"
    | other => throw s!"unexpected response to GetTemperatures: {debug other}"
  let fans ← IpcClient.request .getFansRPM
  let (cpuFan, gpuFan) ← match fans with
    | .fanRPM c g => pure (c, g)
    | .error e => throw s!"daemon error (fans): {e}"
    | other => throw s!"unexpected response to GetFansRPM: {debug other}"
  let battery ← IpcClient.request .getChargeLimit
  let (limitMin, limitMax, batteryPercent) := match battery with
    | .chargeLimit min max cur => (min, max, cur)
    | _ => ((0, 0, 0) : UInt8 × UInt8 × UInt8)
  let acConnected ← Fallible.always (perform .acConnected)
  let timestampMs ← Fallible.always (perform .systemTimeMs)
  return {
    cpuTempC := cpuTemp, sysTempC := sysTemp
    cpuFanRpm := cpuFan.toUInt32, gpuFanRpm := gpuFan.toUInt32
    batteryPercent, chargeLimitMin := limitMin, chargeLimitMax := limitMax
    acConnected, timestampMs }

namespace Poller

def reconnectDelayMs : Nat := 2000

def pausedCheckMs : Nat := 5000

def setStatus (status : ConnectionStatus) : GuiTask Unit := do
  perform (.storeStatus status)
  perform (.emit (.connectionStatus status))

/-- Sleep, unless the signal comes first. -/
def sleepOrWake (ms : Nat) : GuiTask Unit := do
  let start : Nat ← perform .now
  let _ ← perform (.select (start + ms))

def updateTooltip (telem : Telemetry) : GuiTask Unit :=
  perform (.setTooltip (s!"Lecoo Control Center\nCPU {telem.cpuTempC}°C · CPU fan {telem.cpuFanRpm} rpm" ++
    s!"\nSys {telem.sysTempC}°C · GPU fan {telem.gpuFanRpm} rpm"))

/-- Where the task is in its two loops. -/
inductive Turn where
  | connecting
  | polling
deriving Repr, DecidableEq

/-- One turn of the loop the task is in, and which loop it goes on in. -/
def turn : Turn → GuiTask Turn
  | .connecting => do
      setStatus .connecting
      let connected : Except String (UInt8 × UInt8) ← perform .connect
      match connected with
      | .ok daemonVersion =>
          setStatus (.connected daemonVersion)
          pure .polling
      | .error _ =>
          let message := "daemon not reachable"
          perform (.storeError message)
          setStatus (.error message)
          sleepOrWake reconnectDelayMs
          pure .connecting
  | .polling => do
      let paused : Bool ← perform .loadPaused
      if paused then
        sleepOrWake pausedCheckMs
        pure .polling
      else
        match ← (IpcClient.fetchTelemetry debug).run with
        | .ok sample =>
            perform (.storeTelemetry sample)
            perform (.emit (.telemetry sample))
            updateTooltip sample
            let intervalMs : Nat ← perform .loadInterval
            sleepOrWake (max intervalMs 500)
            pure .polling
        | .error message =>
            perform (.storeError message)
            pure .connecting

/-- The task for a number of turns. -/
def run : Nat → Turn → GuiTask Unit
  | 0, _ => pure ()
  | turns + 1, place => do
      let place ← turn debug place
      run turns place

end Poller

end Sampling

inductive Command where
  | setPollPaused (paused : Bool)
  | setPollInterval (seconds : UInt32)
  | reconnectNow
  /-- The tray brings the window to the front. -/
  | bringWindowToFront
  | closeRequested
deriving Repr, DecidableEq

def Command.task : Command → GuiTask Unit
  | .setPollPaused paused => do
      perform (.storePaused paused)
      unless paused do
        perform .notifyOne
  | .setPollInterval seconds => do
      perform (.storeInterval (min (max (seconds.toNat * 1000) 500) 60000))
      perform .notifyOne
  | .reconnectNow => perform .notifyOne
  | .bringWindowToFront => do
      perform (.storePaused false)
      perform .notifyOne
  | .closeRequested => perform (.storePaused true)

/-- What the environment decides about an operation: how long after the last operation of
any task it comes, and what there is to find. -/
structure Circumstance where
  later : Nat := 0
  connects : Except String (UInt8 × UInt8) := .error ""
  responds : Except String IpcResponse := .error ""
  /-- Which branch a `select!` takes when both are ready. -/
  noticed : Bool := false
  acConnected : Option Bool := none
  systemTimeMs : UInt64 := 0
deriving Inhabited

structure Backend where
  /-- The milliseconds since the application was started. -/
  now : Nat
  pollPaused : Bool
  pollIntervalMs : Nat
  /-- Whether the signal holds a permit; it never holds more than one. -/
  signalled : Bool
  connection : ConnectionStatus
  lastConnectionError : Option String
  lastTelemetry : Option Telemetry
  tooltip : Option String
  emitted : List FrontendEvent
  /-- How often the signal was given, for the statements only. -/
  notices : Nat

/-- `AppState::new()` -/
def Backend.new : Backend where
  now := 0
  pollPaused := false
  pollIntervalMs := 3000
  signalled := false
  connection := .disconnected
  lastConnectionError := none
  lastTelemetry := none
  tooltip := none
  emitted := []
  notices := 0

def Backend.after (backend : Backend) (ms : Nat) : Backend :=
  { backend with now := backend.now + ms }

def answer : (operation : PollerOp) → Circumstance → Backend →
    pollerOps.Reply operation × Backend
  | .storeStatus status, _, backend => ((), { backend with connection := status })
  | .emit event, _, backend => ((), { backend with emitted := backend.emitted ++ [event] })
  | .connect, circumstance, backend => (circumstance.connects, backend)
  | .request _, circumstance, backend => (circumstance.responds, backend)
  | .storeError message, _, backend => ((), { backend with lastConnectionError := some message })
  | .storeTelemetry sample, _, backend => ((), { backend with lastTelemetry := some sample })
  | .setTooltip text, _, backend => ((), { backend with tooltip := some text })
  | .loadPaused, _, backend => (backend.pollPaused, backend)
  | .storePaused value, _, backend => ((), { backend with pollPaused := value })
  | .loadInterval, _, backend => (backend.pollIntervalMs, backend)
  | .storeInterval ms, _, backend => ((), { backend with pollIntervalMs := ms })
  | .now, _, backend => (backend.now, backend)
  | .select deadline, circumstance, backend =>
      if backend.signalled = true ∧ (circumstance.noticed = true ∨ backend.now < deadline) then
        (.notified, { backend with signalled := false })
      else (.elapsed, { backend with now := max backend.now deadline })
  | .notifyOne, _, backend =>
      ((), { backend with signalled := true, notices := backend.notices + 1 })
  | .acConnected, circumstance, backend => (circumstance.acConnected, backend)
  | .systemTimeMs, circumstance, backend => (circumstance.systemTimeMs, backend)

def backendSemantics : Semantics pollerOps Circumstance Backend :=
  fun operation circumstance backend =>
    answer operation circumstance (backend.after circumstance.later)

/-- Who performs an operation: the task, or one of the commands in progress. -/
inductive Party where
  | poller
  | command (id : Nat)
deriving Repr, DecidableEq

inductive GuiJob where
  | poller (turns : Nat)
  | command (command : Command)

def GuiJob.task (debug : IpcResponse → String) : GuiJob → GuiTask Unit
  | .poller turns => Poller.run debug turns .connecting
  | .command issued => issued.task

/-- The operations of the commands. -/
def PollerOp.Control : PollerOp → Prop
  | .storePaused _ | .notifyOne => True
  | .storeInterval ms => ms ≤ 60000
  | _ => False

theorem Command.task_control (command : Command) : command.task.Uses PollerOp.Control := by
  cases command with
  | setPollPaused paused =>
      cases paused with
      | true => exact ⟨trivial, fun _ => trivial⟩
      | false => exact ⟨trivial, fun _ => ⟨trivial, fun _ => trivial⟩⟩
  | setPollInterval => exact ⟨Nat.min_le_right _ _, fun _ => ⟨trivial, fun _ => trivial⟩⟩
  | reconnectNow => exact ⟨trivial, fun _ => trivial⟩
  | bringWindowToFront => exact ⟨trivial, fun _ => ⟨trivial, fun _ => trivial⟩⟩
  | closeRequested => exact ⟨trivial, fun _ => trivial⟩

/-- What is noted of the poller is kept beside the state. -/
abbrev GuiPool (φ : Type) := Pool pollerOps Party GuiJob Unit (Backend × φ)

abbrev GuiEvent := Event Party GuiJob Circumstance

variable {φ : Type}

/-- The poller is started once; any number of commands come and go. -/
def Commanded : GuiPool φ → GuiEvent → Prop
  | _, .start thread job => thread ≠ .poller ∧ ∃ command, job = .command command
  | _, _ => True

/-- The application with its poller started, which is followed for a number of turns. -/
def launched (debug : IpcResponse → String) (turns : Nat) (phase : φ) : GuiPool φ :=
  (Pool.idle (Backend.new, phase)).put .poller
    (some ⟨.poller turns, (GuiJob.poller turns).task debug⟩)

/-- The runs of the poller among commands that come when they like. -/
abbrev GuiRun (monitor : Monitor pollerOps φ) (debug : IpcResponse → String)
    (allowed : GuiPool φ → GuiEvent → Prop) : GuiPool φ → List GuiEvent → GuiPool φ → Prop :=
  Pool.Run (GuiJob.task debug) (monitor.watch .poller fun _ _ => backendSemantics)
    fun pool event => Commanded pool event ∧ allowed pool event

variable {monitor : Monitor pollerOps φ} {debug : IpcResponse → String}
  {allowed : GuiPool φ → GuiEvent → Prop} {holds : Backend → φ → Prop} {turns : Nat} {phase : φ}
  {before after : GuiPool φ} {events : List GuiEvent}

theorem watched_launched (initially : holds Backend.new phase)
    (heeds : (Poller.run debug turns .connecting).Heeds monitor (fun _ _ => True) phase) :
    Watched monitor .poller PollerOp.Control holds (launched debug turns phase) where
  holds := initially
  heeds activity running := by
    rw [launched, Pool.put_same] at running
    cases running
    exact heeds
  uses thread activity other running := by
    rw [launched, Pool.put_other _ _ other] at running
    cases running

/-- What the phase says about the state has to survive the passing of time, the operations
of the poller and those of the commands. -/
theorem watched_run
    (waits : ∀ {backend phase}, holds backend phase → ∀ ms, holds (backend.after ms) phase)
    (own : ∀ {pool : GuiPool φ} {circumstance backend phase operation},
      allowed pool (.act .poller circumstance) →
      backend = pool.world.1.after circumstance.later → holds backend phase →
      monitor.permits phase operation →
      holds (answer operation circumstance backend).2
        (monitor.next phase operation (answer operation circumstance backend).1))
    (others : ∀ {backend phase operation}, holds backend phase → ∀ circumstance,
      operation.Control → holds (answer operation circumstance backend).2 phase)
    (ran : GuiRun monitor debug allowed before events after)
    (initially : Watched monitor .poller PollerOp.Control holds before) :
    Watched monitor .poller PollerOp.Control holds after := by
  refine Watched.run ?_ ?_ ?_ ran initially
  · rintro pool thread job ⟨⟨other, command, rfl⟩, _⟩
    exact ⟨other, command.task_control⟩
  · intro pool choice job operation phase permitted held permits
    exact own permitted.2 rfl (waits held choice.later) permits
  · intro pool thread choice job operation phase _ _ held control
    exact others (waits held choice.later) choice control

def commandedNow : GuiPool φ → GuiEvent → Bool
  | _, .start (.command _) (.command _) => true
  | _, .start _ _ => false
  | _, _ => true

theorem commandedNow_sound (pool : GuiPool φ) (event : GuiEvent)
    (passed : commandedNow pool event = true) : Commanded pool event ∧ True := by
  refine ⟨?_, trivial⟩
  cases event with
  | start thread job =>
      cases thread with
      | poller => cases passed
      | command id =>
          cases job with
          | poller => cases passed
          | command command => exact ⟨by simp, command, rfl⟩
  | _ => trivial

/-- The application under the given events, when each of them is possible. -/
def replayed (monitor : Monitor pollerOps φ) (turns : Nat) (phase : φ) (events : List GuiEvent) :
    Option (GuiPool φ) :=
  (launched (fun _ => "") turns phase).replay (GuiJob.task fun _ => "")
    (monitor.watch .poller fun _ _ => backendSemantics) commandedNow events

end Lecoo.Gui
