import Lecoo.Daemon.Interface

namespace Lecoo.Ec

open Lecoo.Effects Lecoo.Ipc Lecoo.Daemon

/-! # Hardware functions -/

/-- Two lower-case hexadecimal digits of a byte. -/
def hexByte (value : UInt8) : String :=
  String.ofList [Nat.digitChar (value.toNat / 16), Nat.digitChar (value.toNat % 16)]

def applyFanMode (ec : EcDevice) (fan : FanIndex) (mode : FanMode) : Io Unit := do
  let thermalPolicyOverride := match fan with
    | .cpu => ec.offsets.ramThermalPolicyCpu
    | .gpu => ec.offsets.ramThermalPolicyGpu
  let (policy, duty) ← match mode with
    | .auto => pure (0x00, 0)
    | .full => pure (0x40, 150)
    | .custom d =>
        if d > 220 then
          Io.bail s!"Requested fan duty cycle ({d}) exceeds safe limit (220)."
        else
          pure (0x40, d)
  withBatch do
    EcBatch.writeRam ec thermalPolicyOverride policy
    EcBatch.writeRam ec fan.asU16 duty

def readChargeLimit (ec : EcDevice) : Io (UInt8 × UInt8) := do
  let min ← ec.readRam ec.offsets.ramBatLimitMin
  let max ← ec.readRam ec.offsets.ramBatLimitMax
  return (min, max)

def readBatteryRsoc (ec : EcDevice) : Io UInt8 := ec.readRam ec.offsets.ramBatRsoc

def applyChargeLimit (ec : EcDevice) (limit : ChargeLimit) : Io Unit := do
  let (min, max) := limit.asPercent
  withBatch do
    EcBatch.writeRam ec ec.offsets.ramBatLimitMin min
    EcBatch.writeRam ec ec.offsets.ramBatLimitMax max

def readSystemInfo (ec : EcDevice) : Io (UInt8 × UInt8 × UInt8) :=
  withBatch do
    let chipId1 ← EcBatch.readReg ec.offsets.regChipId1
    let chipId2 ← EcBatch.readReg ec.offsets.regChipId2
    let chipVer ← EcBatch.readReg ec.offsets.regChipVer
    return (chipId1, chipId2, chipVer)

def readFansRpm (ec : EcDevice) : Io (UInt16 × UInt16) :=
  withBatch do
    let cpuMsb ← EcBatch.readRam ec ec.offsets.ramFanCpuMsb
    let cpuLsb ← EcBatch.readRam ec ec.offsets.ramFanCpuLsb
    let cpuRpm := (cpuMsb.toUInt16 <<< 8) ||| cpuLsb.toUInt16
    let gpuMsb ← EcBatch.readRam ec ec.offsets.ramFanGpuMsb
    let gpuLsb ← EcBatch.readRam ec ec.offsets.ramFanGpuLsb
    let gpuRpm := (gpuMsb.toUInt16 <<< 8) ||| gpuLsb.toUInt16
    return (cpuRpm, gpuRpm)

def readTemperatures (ec : EcDevice) : Io (UInt8 × UInt8) :=
  withBatch do
    let cpuTemp ← EcBatch.readRam ec ec.offsets.ramTempCpu
    let sysTemp ← EcBatch.readRam ec ec.offsets.ramTempSys
    return (cpuTemp, sysTemp)

def readKeyboardBacklight (ec : EcDevice) : Io KeyboardBacklightLevel := do
  match ← ec.readReg ec.offsets.regKbdBacklight with
  | 0x00 => return .off
  | 0x01 => return .low
  | 0x02 => return .medium
  | 0x03 => return .high
  | 0xFF =>
      let customValue ← ec.readReg ec.offsets.regKbdCustomVal
      return .custom customValue
  | v => Io.bail s!"Invalid keyboard backlight level: 0x{hexByte v}"

def applyKeyboardBacklight (ec : EcDevice) (level : KeyboardBacklightLevel) : Io Unit := do
  let addr := ec.offsets.regKbdBacklight
  match level with
  | .off => ec.writeReg addr 0x00
  | .low => ec.writeReg addr 0x01
  | .medium => ec.writeReg addr 0x02
  | .high => ec.writeReg addr 0x03
  | .custom v =>
      withBatch do
        -- disable the timer, enable PWM, then set the custom value
        EcBatch.writeRam ec ec.offsets.ramKbdBypassTimeout 0xFF
        EcBatch.writeReg ec.offsets.regGpioA4Mux 0x00
        EcBatch.writeReg addr 0xFF
        EcBatch.writeReg ec.offsets.regKbdCustomVal v

def resetLedAnimEngine (ec : EcDevice) : Io Unit :=
  withBatch do
    EcBatch.writeReg ec.offsets.regLedBreathEn 0x00
    EcBatch.writeReg ec.offsets.regPwmPrescaler 0x00
    EcBatch.writeReg ec.offsets.regPwmCycle 0xFF

/-- Bypass and pin set-up, skipped when the process-wide flag says it was done. -/
def enterLedCustom (ec : EcDevice) : Io Unit := do
  unless ← Io.loadLedCustom do
    ec.writeRam ec.offsets.ramLedBypass 0x01
    ec.writeReg ec.offsets.regGpioA0Mux 0x00
    Io.storeLedCustom true

/-- Byte of the step register: brightness, step down and step up. -/
def BreathConfig.lcr1 (config : BreathConfig) : UInt8 :=
  (config.maxBrightness.asU8 <<< 4) ||| (config.stepDown.asU8 <<< 2) ||| config.stepUp.asU8

/-- Byte of the delay register: delay at the maximum and at the minimum. -/
def BreathConfig.lcr2 (config : BreathConfig) : UInt8 :=
  (config.delayAtMax.asU8 <<< 4) ||| config.delayAtMin.asU8

def applyLedMode (ec : EcDevice) (mode : PowerLedMode) : Io Unit := do
  match mode with
  | .auto =>
      ec.writeRam ec.offsets.ramLedBypass 0x00
      resetLedAnimEngine ec
      Io.storeLedCustom false
  | .custom brightness =>
      enterLedCustom ec
      resetLedAnimEngine ec
      ec.writeReg ec.offsets.regPwmDuty brightness
  | .animation config =>
      enterLedCustom ec
      resetLedAnimEngine ec
      ec.writeReg ec.offsets.regPwmPrescaler 0x00
      ec.writeReg ec.offsets.regPwmCycle 0xFF
      ec.writeReg ec.offsets.regLedBreathStep (BreathConfig.lcr1 config)
      ec.writeReg ec.offsets.regLedBreathDelay (BreathConfig.lcr2 config)
      ec.writeReg ec.offsets.regLedBreathEn 0x01

def applyBatteryLeds (ec : EcDevice) (orangeOn whiteOn : Bool) : Io Unit := do
  let portA ← ec.readReg ec.offsets.regGpdra
  let portA :=
    if orangeOn then portA &&& ~~~ec.offsets.maskOrangeLed
    else portA ||| ec.offsets.maskOrangeLed
  let portA :=
    if whiteOn then portA &&& ~~~ec.offsets.maskWhiteLed
    else portA ||| ec.offsets.maskWhiteLed
  ec.writeReg ec.offsets.regGpdra portA

def applyPowerProfile (ec : EcDevice) (profile : PowerProfile) : Io IpcResponse := do
  ec.writeRam ec.offsets.ramPowerProfile profile.asU8
  return .success

def readPowerProfile (ec : EcDevice) : Io PowerProfile := do
  match ← ec.readRam ec.offsets.ramPowerProfile with
  | 1 => return .silent
  | 2 => return .default
  | 3 => return .performance
  | profile => Io.bail s!"Unknown power profile: {profile}"

end Lecoo.Ec
