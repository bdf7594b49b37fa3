import Lecoo.Daemon.Telemetry

namespace Lecoo.Daemon

open Lecoo.Effects Lecoo.Ipc Lecoo.Ec

/-! # Settings file -/

/-- The writer is dropped on every way out of the encoding step, which flushes
what it buffered. -/
def save (settings : CurrentSettings) : Io Unit := do
  Io.createStateDir
  Io.createStateFile
  let (buffered, outcome) ← Io.encodeSettings settings
  Io.dropWriter buffered
  Io.ofExcept outcome

def load : Io CurrentSettings := do
  unless ← Io.stateFileExists.context "Cannot get access to state file" do
    return CurrentSettings.default (← Io.systemTimeHash)
  Io.openStateFile.context "Failed to open state file"
  Io.decodeStateFile.context "Failed decode state file!"

def loadOrDefault : Io CurrentSettings := do
  match ← Io.ok? load with
  | some settings => return settings
  | none => return CurrentSettings.default (← Io.systemTimeHash)

def restoreState (ec : EcDevice) (settings : CurrentSettings) : Io Unit := do
  applyKeyboardBacklight ec settings.keyboardBacklight
  applyLedMode ec settings.ledMode
  let _ ← applyPowerProfile ec settings.powerProfile
  applyChargeLimit ec settings.chargeLimit
  applyFanMode ec .cpu settings.fanModeCpu
  applyFanMode ec .gpu settings.fanModeGpu

/-- `get_state()?` followed by the scope of the guard it returns, which is
released on every way out of the scope. -/
def withState {α : Type} (scope : Io α) : Io α :=
  Fallible.attempt do
    let acquired : Bool ← Io.perform .tryLockState
    if acquired then
      let outcome ← scope.run
      Io.perform .unlockState
      pure outcome
    else
      pure (.error (.error "State locked, cannot acquire lock"))

def processDaemonCommand (ec : EcDevice) : DaemonCommand → Io IpcResponse
  | .restoreDefaults => withState do
      Io.writeState (CurrentSettings.default (← Io.systemTimeHash))
      save (← Io.readState)
      restoreState ec (← Io.readState)
      return .success
  | .activateTelemetry isEnabled => withState do
      Io.modifyState fun state => { state with telemetryEnabled := isEnabled }
      save (← Io.readState)
      if isEnabled then
        Telemetry.enable
        return .success
      else
        Telemetry.disable
        return .telemetryDisabledInfo
  | .applySettings => withState do
      restoreState ec (← Io.readState)
      return .success
  | .getSettings => withState do
      return .daemonResponse (.settings (← Io.readState))
  | .getTelemetryId => withState do
      return .daemonResponse (.telemetryId (← Io.readState).telemetryClientId)
  | _ => throw (.panic "not yet implemented")

/-- Two upper-case hexadecimal digits of a byte. -/
def hexByteUpper (value : UInt8) : String := (hexByte value).toUpper

def version : String := "0.4.0"

def getChargeLimit (ec : EcDevice) : Io IpcResponse := do
  let (min, max) ← readChargeLimit ec
  let current ← readBatteryRsoc ec
  return .chargeLimit min max current

def getPowerProfile (ec : EcDevice) : Io IpcResponse := do
  return .powerLimit (← readPowerProfile ec)

def getKeyboardBacklight (ec : EcDevice) : Io IpcResponse := do
  return .keyboardBacklight (← readKeyboardBacklight ec)

def getSystemState (ec : EcDevice) : Io IpcResponse := do
  let (chipId1, chipId2, chipVer) ← readSystemInfo ec
  let chipName := s!"IT{hexByteUpper chipId1}{hexByteUpper chipId2}"
  return .systemInfo chipName (hexByteUpper chipVer) ec.hramOffset version

def getFansRpm (ec : EcDevice) : Io IpcResponse := do
  let (cpuRpm, gpuRpm) ← readFansRpm ec
  return .fanRPM cpuRpm gpuRpm

def getTemperatures (ec : EcDevice) : Io IpcResponse := do
  let (cpuTemp, sysTemp) ← readTemperatures ec
  return .temp cpuTemp sysTemp

/-- The tail every setter shares: update the settings under the lock. -/
def commit (change : CurrentSettings → CurrentSettings) : Io IpcResponse :=
  withState do
    Io.modifyState change
    return .success

def setChargeLimit (ec : EcDevice) (limit : ChargeLimit) : Io IpcResponse := do
  applyChargeLimit ec limit
  commit fun state => { state with chargeLimit := limit }

def setKeyboardBacklight (ec : EcDevice) (level : KeyboardBacklightLevel) : Io IpcResponse := do
  applyKeyboardBacklight ec level
  commit fun state => { state with keyboardBacklight := level }

def setFanMode (ec : EcDevice) (fan : FanIndex) (mode : FanMode) : Io IpcResponse := do
  applyFanMode ec fan mode
  commit fun state =>
    match fan with
    | .cpu => { state with fanModeCpu := mode }
    | .gpu => { state with fanModeGpu := mode }

def setPowerProfile (ec : EcDevice) (profile : PowerProfile) : Io IpcResponse := do
  let _ ← applyPowerProfile ec profile
  commit fun state => { state with powerProfile := profile }

def setLedMode (ec : EcDevice) (mode : PowerLedMode) : Io IpcResponse := do
  applyLedMode ec mode
  commit fun state => { state with ledMode := mode }

def handleRequest (ec : EcDevice) : IpcRequest → Io IpcResponse
  | .getSystemState => getSystemState ec
  | .getFansRPM => getFansRpm ec
  | .getTemperatures => getTemperatures ec
  | .getChargeLimit => getChargeLimit ec
  | .getPowerProfile => getPowerProfile ec
  | .getKeyboardBacklight => getKeyboardBacklight ec
  | .setPowerProfile profile => setPowerProfile ec profile
  | .setFanMode fan mode => setFanMode ec fan mode
  | .setKeyboardBacklight level => setKeyboardBacklight ec level
  | .setChargeLimit limit => setChargeLimit ec limit
  | .setLedMode mode => setLedMode ec mode
  | .daemonCommand command => processDaemonCommand ec command

/-- Every error becomes a response; only a panic leaves without one. -/
def doWork (ec : EcDevice) (req : IpcRequest) : Io IpcResponse :=
  Fallible.attempt do
    match ← (handleRequest ec req).run with
    | .error (.error err) => pure (.ok (.error s!"Processing request failed: {err}"))
    | outcome => pure outcome

/-- What a connection thread does when its client closes the connection cleanly. -/
def saveOnReset : Io Unit := do
  let _ ← Io.ok? <| withState do
    let _ ← Io.ok? (save (← Io.readState))
  return

inductive InternalEvent where
  | systemShuttingDown
  | systemSleeping
  | systemHibernating
  | systemWakingUp
  | chargerConnected
  | chargerDisconnected
deriving Repr, DecidableEq

/-- `let _ = reading.map(|value| ..)`: the settings change when the reading succeeds. -/
def updateState {α : Type} (reading : Io α) (change : α → CurrentSettings → CurrentSettings) :
    Io Unit := do
  match ← Io.ok? reading with
  | some value => Io.modifyState (change value)
  | none => return

/-- A pair of limits that is none of the predefined ones changes nothing. -/
def updateChargeLimit (ec : EcDevice) : Io Unit := do
  match ← Io.ok? (readChargeLimit ec) with
  | some (min, max) =>
      match ChargeLimit.fromPredefined min max with
      | some limit => Io.modifyState fun state => { state with chargeLimit := limit }
      | none => return
  | none => return

def readAndSaveState (ec : EcDevice) : Io Unit := do
  let _ ← Io.ok? <| withState do
    updateState (readKeyboardBacklight ec) fun kbd state => { state with keyboardBacklight := kbd }
    updateState (readPowerProfile ec) fun profile state => { state with powerProfile := profile }
    updateChargeLimit ec
    let _ ← Io.ok? (save (← Io.readState))
  return

/-- One round of `process_service`. -/
def processEvent (ec : EcDevice) : InternalEvent → Io Unit
  | .systemShuttingDown | .systemHibernating => do
      let _ ← Io.ok? (applyLedMode ec .auto)
      readAndSaveState ec
  | .systemSleeping => do
      let _ ← Io.ok? (applyLedMode ec (.animation BreathConfig.sleep))
      readAndSaveState ec
  | .systemWakingUp => do
      let _ ← Io.ok? <| withState do
        let _ ← Io.ok? (restoreState ec (← Io.readState))
      return
  | .chargerConnected => do
      let some current ← Io.ok? (readBatteryRsoc ec) | return
      let some (_, max) ← Io.ok? (readChargeLimit ec) | return
      if current ≥ max then
        let _ ← Io.ok? (applyBatteryLeds ec false true)
      else
        let _ ← Io.ok? (applyBatteryLeds ec true false)
  | .chargerDisconnected => do
      let _ ← Io.ok? (applyBatteryLeds ec false false)
      return

/-- What the operating system reports about the machine. -/
structure SystemInfo where
  cpuName : String
  osName : String
  motherboard : String

/-- The part of `main` between the detection of the EC and the accept loop. -/
def startUp (ec : EcDevice) (host : SystemInfo) : Io Unit := do
  let daemonState ← loadOrDefault
  let _ ← Io.ok? (restoreState ec daemonState)
  Telemetry.init daemonState.telemetryEnabled daemonState.telemetryClientId
  if daemonState.telemetryEnabled then
    let (chipId1, chipId2, chipVer) ← readSystemInfo ec
    let firmware := s!"IT{hexByteUpper chipId1}{hexByteUpper chipId2}-{hexByteUpper chipVer}"
    Telemetry.send (.startup firmware ec.hramOffset host.cpuName host.osName host.motherboard)
  Io.publishEc
  Io.publishState daemonState

end Lecoo.Daemon
