import Lecoo.Ipc.Structs
import Lecoo.Data.Memory
import Mathlib.Data.List.Nodup

namespace Lecoo.Ec

open Lecoo.Ipc

/-- Hardware-specific register addresses: offsets into the HRAM window
(`ram...`), absolute addresses (`reg...`) and the masks of the battery LEDs. -/
structure EcOffsets where
  regChipId1 : UInt16
  regChipId2 : UInt16
  regChipVer : UInt16
  ramTempCpu : UInt16
  ramTempSys : UInt16
  ramPowerProfile : UInt16
  ramFanCpuMsb : UInt16
  ramFanCpuLsb : UInt16
  ramFanGpuMsb : UInt16
  ramFanGpuLsb : UInt16
  ramThermalPolicyCpu : UInt16
  ramThermalPolicyGpu : UInt16
  ramBatRsoc : UInt16
  ramBatLimitMin : UInt16
  ramBatLimitMax : UInt16
  ramLedBypass : UInt16
  ramKbdBypassTimeout : UInt16
  regKbdBacklight : UInt16
  regKbdCustomVal : UInt16
  regGpdra : UInt16
  regGpioA0Mux : UInt16
  regGpioA4Mux : UInt16
  regPwmPrescaler : UInt16
  regPwmCycle : UInt16
  regPwmDuty : UInt16
  regPwmClockCtrl : UInt16
  regLedBreathEn : UInt16
  regLedBreathStep : UInt16
  regLedBreathDelay : UInt16
  maskOrangeLed : UInt8
  maskWhiteLed : UInt8
deriving Repr, DecidableEq

def EcOffsets.defaultN155A : EcOffsets where
  regChipId1 := 0x2000
  regChipId2 := 0x2001
  regChipVer := 0x2002
  ramTempCpu := 0x70
  ramTempSys := 0x62
  ramFanCpuMsb := 0x76
  ramFanCpuLsb := 0x77
  ramFanGpuMsb := 0x79
  ramFanGpuLsb := 0x7A
  ramThermalPolicyCpu := 0x4F
  ramThermalPolicyGpu := 0x4E
  ramPowerProfile := 0xB1
  ramBatRsoc := 0x93
  ramBatLimitMin := 0xBC
  ramBatLimitMax := 0xBB
  ramLedBypass := 0x55
  ramKbdBypassTimeout := 0xA6
  regKbdBacklight := 0x0F05
  regKbdCustomVal := 0x1806
  regGpdra := 0x1601
  regGpioA0Mux := 0x1610
  regGpioA4Mux := 0x1614
  regPwmPrescaler := 0x1800
  regPwmCycle := 0x1801
  regPwmDuty := 0x1802
  regPwmClockCtrl := 0x1823
  regLedBreathEn := 0x1850
  regLedBreathStep := 0x1851
  regLedBreathDelay := 0x1852
  maskOrangeLed := 0x02
  maskWhiteLed := 0x04

def EcOffsets.defaultN155D : EcOffsets :=
  { EcOffsets.defaultN155A with ramLedBypass := 0x4F }

/-- The detected device: the offsets in force and the base of the HRAM window. -/
structure EcDevice where
  offsets : EcOffsets
  hramOffset : UInt16
deriving Repr, DecidableEq

/-- The candidate bases of the HRAM window, in probing order. -/
def possibleBases : List UInt16 := [0xC400, 0xC000, 0x0400, 0x0000, 0xE000]

/-- The board profiles the daemon ships. -/
inductive BoardProfile where
  | n155a
  | n155d
deriving Repr, DecidableEq

def BoardProfile.offsets : BoardProfile → EcOffsets
  | .n155a => .defaultN155A
  | .n155d => .defaultN155D

/-- A board profile together with a base the detection can settle on. -/
structure Detection where
  profile : BoardProfile
  base : UInt16
  possible : base ∈ possibleBases

/-- The device the detection ends with: at base `0xC400` the keyboard register
is moved by `0xC000`. -/
def EcOffsets.detectedAt (offsets : EcOffsets) (base : UInt16) : EcDevice where
  offsets :=
    if base = 0xC400 then
      { offsets with regKbdBacklight := offsets.regKbdBacklight + 0xC000 }
    else
      offsets
  hramOffset := base

def Detection.device (detection : Detection) : EcDevice :=
  detection.profile.offsets.detectedAt detection.base

/-- The two boards at the base that is probed first. -/
def Detection.n155a : Detection := ⟨.n155a, 0xC400, by decide⟩

def Detection.n155d : Detection := ⟨.n155d, 0xC400, by decide⟩

/-- The registers of the board, named apart from where a profile places them. -/
inductive Register where
  | chipId1 | chipId2 | chipVer
  | tempCpu | tempSys
  | powerProfile
  | fanCpuMsb | fanCpuLsb | fanGpuMsb | fanGpuLsb
  | thermalPolicy (fan : FanIndex)
  | fanDuty (fan : FanIndex)
  | batRsoc | batLimitMin | batLimitMax
  | ledBypass | kbdBypassTimeout
  | kbdBacklight | kbdCustomVal
  | gpdra | gpioA0Mux | gpioA4Mux
  | pwmPrescaler | pwmCycle | pwmDuty | pwmClockCtrl
  | ledBreathEn | ledBreathStep | ledBreathDelay
deriving Repr, DecidableEq

namespace Register

def all : List Register :=
  [.chipId1, .chipId2, .chipVer, .tempCpu, .tempSys, .powerProfile,
    .fanCpuMsb, .fanCpuLsb, .fanGpuMsb, .fanGpuLsb,
    .thermalPolicy .cpu, .thermalPolicy .gpu, .fanDuty .cpu, .fanDuty .gpu,
    .batRsoc, .batLimitMin, .batLimitMax, .ledBypass, .kbdBypassTimeout,
    .kbdBacklight, .kbdCustomVal, .gpdra, .gpioA0Mux, .gpioA4Mux,
    .pwmPrescaler, .pwmCycle, .pwmDuty, .pwmClockCtrl,
    .ledBreathEn, .ledBreathStep, .ledBreathDelay]

theorem mem_all (register : Register) : register ∈ all := by
  cases register with
  | thermalPolicy fan => cases fan <;> decide
  | fanDuty fan => cases fan <;> decide
  | _ => decide

end Register

namespace EcDevice

def thermalPolicy (ec : EcDevice) : FanIndex → UInt16
  | .cpu => ec.offsets.ramThermalPolicyCpu
  | .gpu => ec.offsets.ramThermalPolicyGpu

/-- Where a register is: HRAM cells are relative to the window, the others absolute. -/
def address (ec : EcDevice) : Register → UInt16
  | .chipId1 => ec.offsets.regChipId1
  | .chipId2 => ec.offsets.regChipId2
  | .chipVer => ec.offsets.regChipVer
  | .tempCpu => ec.hramOffset + ec.offsets.ramTempCpu
  | .tempSys => ec.hramOffset + ec.offsets.ramTempSys
  | .powerProfile => ec.hramOffset + ec.offsets.ramPowerProfile
  | .fanCpuMsb => ec.hramOffset + ec.offsets.ramFanCpuMsb
  | .fanCpuLsb => ec.hramOffset + ec.offsets.ramFanCpuLsb
  | .fanGpuMsb => ec.hramOffset + ec.offsets.ramFanGpuMsb
  | .fanGpuLsb => ec.hramOffset + ec.offsets.ramFanGpuLsb
  | .thermalPolicy fan => ec.hramOffset + ec.thermalPolicy fan
  | .fanDuty fan => ec.hramOffset + fan.asU16
  | .batRsoc => ec.hramOffset + ec.offsets.ramBatRsoc
  | .batLimitMin => ec.hramOffset + ec.offsets.ramBatLimitMin
  | .batLimitMax => ec.hramOffset + ec.offsets.ramBatLimitMax
  | .ledBypass => ec.hramOffset + ec.offsets.ramLedBypass
  | .kbdBypassTimeout => ec.hramOffset + ec.offsets.ramKbdBypassTimeout
  | .kbdBacklight => ec.offsets.regKbdBacklight
  | .kbdCustomVal => ec.offsets.regKbdCustomVal
  | .gpdra => ec.offsets.regGpdra
  | .gpioA0Mux => ec.offsets.regGpioA0Mux
  | .gpioA4Mux => ec.offsets.regGpioA4Mux
  | .pwmPrescaler => ec.offsets.regPwmPrescaler
  | .pwmCycle => ec.offsets.regPwmCycle
  | .pwmDuty => ec.offsets.regPwmDuty
  | .pwmClockCtrl => ec.offsets.regPwmClockCtrl
  | .ledBreathEn => ec.offsets.regLedBreathEn
  | .ledBreathStep => ec.offsets.regLedBreathStep
  | .ledBreathDelay => ec.offsets.regLedBreathDelay

/-- No two registers share an address. -/
def Separated (ec : EcDevice) : Prop := Function.Injective ec.address

theorem separated_of_nodup {ec : EcDevice} (distinct : (Register.all.map ec.address).Nodup) :
    ec.Separated := by
  intro left right same
  exact List.inj_on_of_nodup_map distinct left.mem_all right.mem_all same

end EcDevice

namespace Detection

/-- On the N155A profile every register has an address of its own, at every base. -/
theorem n155a_separated (detection : Detection) (board : detection.profile = .n155a) :
    detection.device.Separated := by
  obtain ⟨profile, base, possible⟩ := detection
  subst board
  have distinct :
      (Register.all.map (EcOffsets.defaultN155A.detectedAt base).address).Nodup := by
    simp only [possibleBases, List.mem_cons, List.not_mem_nil, or_false] at possible
    rcases possible with rfl | rfl | rfl | rfl | rfl <;> decide +kernel
  exact EcDevice.separated_of_nodup distinct

/-- On the N155D profile the LED bypass cell is the policy cell of the CPU fan. -/
theorem n155d_shares_cell (detection : Detection) (board : detection.profile = .n155d) :
    detection.device.address .ledBypass = detection.device.address (.thermalPolicy .cpu) := by
  obtain ⟨profile, base, possible⟩ := detection
  subst board
  simp only [device, EcOffsets.detectedAt, EcDevice.address, EcDevice.thermalPolicy,
    BoardProfile.offsets]
  split <;> rfl

/-- That cell apart, the N155D profile keeps its registers at addresses of their own. -/
theorem n155d_address_inj (detection : Detection) (board : detection.profile = .n155d)
    {left right : Register}
    (same : detection.device.address left = detection.device.address right) :
    left = right ∨ (left = .ledBypass ∧ right = .thermalPolicy .cpu) ∨
      (left = .thermalPolicy .cpu ∧ right = .ledBypass) := by
  have shares := detection.n155d_shares_cell board
  obtain ⟨profile, base, possible⟩ := detection
  subst board
  have distinct : ((Register.all.erase .ledBypass).map
      (EcOffsets.defaultN155D.detectedAt base).address).Nodup := by
    clear shares same
    simp only [possibleBases, List.mem_cons, List.not_mem_nil, or_false] at possible
    rcases possible with rfl | rfl | rfl | rfl | rfl <;> decide +kernel
  have injective : ∀ {left right : Register}, left ≠ .ledBypass → right ≠ .ledBypass →
      (EcOffsets.defaultN155D.detectedAt base).address left =
        (EcOffsets.defaultN155D.detectedAt base).address right → left = right := by
    intro left right notLeft notRight
    exact List.inj_on_of_nodup_map distinct
      ((List.mem_erase_of_ne notLeft).mpr left.mem_all)
      ((List.mem_erase_of_ne notRight).mpr right.mem_all)
  by_cases leftBypass : left = .ledBypass
  · by_cases rightBypass : right = .ledBypass
    · exact .inl (leftBypass.trans rightBypass.symm)
    · subst leftBypass
      exact .inr (.inl ⟨rfl, (injective (by decide) rightBypass (shares.symm.trans same)).symm⟩)
  · by_cases rightBypass : right = .ledBypass
    · subst rightBypass
      exact .inr (.inr ⟨injective leftBypass (by decide) (same.trans shares), rfl⟩)
    · exact .inl (injective leftBypass rightBypass same)

end Detection

end Lecoo.Ec
