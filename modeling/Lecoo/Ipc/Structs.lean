namespace Lecoo.Ipc

/-! # Values shared by the daemon and its clients

The discriminants the daemon writes to registers are the `asU8` and `asU16`
functions; `as u8` of an enumeration is its declared discriminant. -/

inductive DaemonCommand where
  | restoreDefaults
  | getSettings
  | applySettings
  | getTelemetryId
  | activateTelemetry (isEnabled : Bool)
  | activateProcessSuspend (isEnabled : Bool)
  | runPrepareShutdown
  | runPrepareSuspend
  | runPrepareResume
deriving Repr, DecidableEq

inductive PowerProfile where
  | silent
  | default
  | performance
deriving Repr, DecidableEq

def PowerProfile.asU8 : PowerProfile → UInt8
  | .silent => 0x01
  | .default => 0x02
  | .performance => 0x03

inductive KeyboardBacklightLevel where
  | off
  | low
  | medium
  | high
  | custom (value : UInt8)
deriving Repr, DecidableEq

inductive FanMode where
  | auto
  | full
  | custom (duty : UInt8)
deriving Repr, DecidableEq

inductive FanIndex where
  | cpu
  | gpu
deriving Repr, DecidableEq

/-- The discriminant of a fan is the offset of its duty cell in the HRAM window. -/
def FanIndex.asU16 : FanIndex → UInt16
  | .cpu => 0x4B
  | .gpu => 0x4D

inductive ChargeLimit where
  | fullCapacity
  | highCapacity
  | balanced
  | maximumLifespan
  | deskMode
deriving Repr, DecidableEq

/-- Lower and upper bound in percent; `(0, 0)` stands for no limit. -/
def ChargeLimit.asPercent : ChargeLimit → UInt8 × UInt8
  | .fullCapacity => (0, 0)
  | .highCapacity => (90, 95)
  | .balanced => (70, 80)
  | .maximumLifespan => (55, 60)
  | .deskMode => (40, 50)

def ChargeLimit.fromPredefined (min max : UInt8) : Option ChargeLimit :=
  if min > max then
    none
  else
    match min, max with
    | 0, 0 => some .fullCapacity
    | 90, 95 => some .highCapacity
    | 70, 80 => some .balanced
    | 55, 60 => some .maximumLifespan
    | 40, 50 => some .deskMode
    | _, _ => none

theorem ChargeLimit.fromPredefined_asPercent (limit : ChargeLimit) :
    fromPredefined limit.asPercent.1 limit.asPercent.2 = some limit := by
  cases limit <;> rfl

inductive BreathBrightness where
  | max25Percent
  | max50Percent
  | max75Percent
  | max100Percent
deriving Repr, DecidableEq

def BreathBrightness.asU8 : BreathBrightness → UInt8
  | .max25Percent => 0b00
  | .max50Percent => 0b01
  | .max75Percent => 0b10
  | .max100Percent => 0b11

inductive BreathStep where
  | slow
  | medium
  | fast
  | instant
deriving Repr, DecidableEq

def BreathStep.asU8 : BreathStep → UInt8
  | .slow => 0b00
  | .medium => 0b01
  | .fast => 0b10
  | .instant => 0b11

inductive BreathDelay where
  | ms15
  | ms125
  | ms250
  | sec0_5
  | sec1
  | sec2
  | sec4
deriving Repr, DecidableEq

def BreathDelay.asU8 : BreathDelay → UInt8
  | .ms15 => 0x00
  | .ms125 => 0x01
  | .ms250 => 0x02
  | .sec0_5 => 0x03
  | .sec1 => 0x04
  | .sec2 => 0x05
  | .sec4 => 0x06

structure BreathConfig where
  maxBrightness : BreathBrightness
  stepUp : BreathStep
  stepDown : BreathStep
  delayAtMax : BreathDelay
  delayAtMin : BreathDelay
deriving Repr, DecidableEq

/-- The animation the daemon shows while the system sleeps. -/
def BreathConfig.sleep : BreathConfig where
  maxBrightness := .max25Percent
  stepUp := .slow
  stepDown := .slow
  delayAtMax := .sec0_5
  delayAtMin := .sec1

inductive PowerLedMode where
  | auto
  | custom (brightness : UInt8)
  | animation (config : BreathConfig)
deriving Repr, DecidableEq

structure CurrentSettings where
  powerProfile : PowerProfile
  keyboardBacklight : KeyboardBacklightLevel
  fanModeCpu : FanMode
  fanModeGpu : FanMode
  chargeLimit : ChargeLimit
  ledMode : PowerLedMode
  telemetryEnabled : Bool
  telemetryClientId : UInt64
deriving Repr, DecidableEq

/-- The built-in defaults; the client id is a hash of the system time. -/
def CurrentSettings.default (clientId : UInt64) : CurrentSettings where
  powerProfile := .default
  keyboardBacklight := .medium
  fanModeCpu := .auto
  fanModeGpu := .auto
  chargeLimit := .fullCapacity
  ledMode := .auto
  telemetryEnabled := true
  telemetryClientId := clientId

inductive DaemonResponse where
  | settings (settings : CurrentSettings)
  | telemetryId (id : UInt64)
deriving Repr, DecidableEq

inductive IpcRequest where
  | getSystemState
  | getFansRPM
  | getTemperatures
  | getChargeLimit
  | getPowerProfile
  | getKeyboardBacklight
  | setPowerProfile (profile : PowerProfile)
  | setFanMode (fan : FanIndex) (mode : FanMode)
  | setKeyboardBacklight (level : KeyboardBacklightLevel)
  | setChargeLimit (limit : ChargeLimit)
  | setLedMode (mode : PowerLedMode)
  | daemonCommand (command : DaemonCommand)
deriving Repr, DecidableEq

inductive IpcResponse where
  | success
  | systemInfo (chip revision : String) (offset : UInt16) (version : String)
  | fanRPM (cpu gpu : UInt16)
  | temp (cpu system : UInt8)
  | chargeLimit (min max current : UInt8)
  | keyboardBacklight (level : KeyboardBacklightLevel)
  | powerLimit (profile : PowerProfile)
  | daemonResponse (response : DaemonResponse)
  | telemetryDisabledInfo
  | error (message : String)
deriving Repr, DecidableEq

inductive TelemetryData where
  | startup (firmware : String) (offset : UInt16) (cpu os motherboard : String)
  | status (profile : PowerProfile) (temps fans : UInt32 × UInt32)
  | panic (error : String)
deriving Repr, DecidableEq

structure TelemetryPayload where
  id : UInt64
  data : TelemetryData
deriving Repr, DecidableEq

/-- The old format, without the motherboard. -/
inductive TelemetryDataV1 where
  | startup (firmware : String) (offset : UInt16) (cpu os : String)
  | status (profile : PowerProfile) (temps fans : UInt32 × UInt32)
  | panic (error : String)
deriving Repr, DecidableEq

structure TelemetryPayloadV1 where
  id : UInt64
  data : TelemetryDataV1
deriving Repr, DecidableEq

end Lecoo.Ipc
