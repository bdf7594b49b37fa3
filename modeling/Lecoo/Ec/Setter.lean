import Lecoo.Ec.Script

namespace Lecoo.Ec

open Lecoo.Effects Lecoo.Ipc Lecoo.Daemon Lecoo.Data

/-! # The setters as scripts -/

inductive Feature where
  | fan (fan : FanIndex)
  | ledRing
  | keyboard
  | charger
  | power
  | batteryLeds
deriving Repr, DecidableEq

/-- The feature a register belongs to; sensors and unused registers belong to none. -/
def Register.feature : Register → Option Feature
  | .thermalPolicy fan | .fanDuty fan => some (.fan fan)
  | .ledBypass | .gpioA0Mux | .pwmPrescaler | .pwmCycle | .pwmDuty
  | .ledBreathEn | .ledBreathStep | .ledBreathDelay => some .ledRing
  | .kbdBacklight | .kbdCustomVal | .kbdBypassTimeout | .gpioA4Mux => some .keyboard
  | .batLimitMin | .batLimitMax => some .charger
  | .powerProfile => some .power
  | .gpdra => some .batteryLeds
  | _ => none

inductive Setter where
  | fanMode (fan : FanIndex) (mode : FanMode)
  | ledMode (mode : PowerLedMode)
  | keyboardBacklight (level : KeyboardBacklightLevel)
  | chargeLimit (limit : ChargeLimit)
  | powerProfile (profile : PowerProfile)
  | batteryLeds (orangeOn whiteOn : Bool)
deriving DecidableEq

namespace Setter

def feature : Setter → Feature
  | .fanMode fan _ => .fan fan
  | .ledMode _ => .ledRing
  | .keyboardBacklight _ => .keyboard
  | .chargeLimit _ => .charger
  | .powerProfile _ => .power
  | .batteryLeds _ _ => .batteryLeds

def apply (ec : EcDevice) : Setter → Io Unit
  | .fanMode fan mode => applyFanMode ec fan mode
  | .ledMode mode => applyLedMode ec mode
  | .keyboardBacklight level => applyKeyboardBacklight ec level
  | .chargeLimit limit => applyChargeLimit ec limit
  | .powerProfile profile => do
      let _ ← applyPowerProfile ec profile
  | .batteryLeds orangeOn whiteOn => applyBatteryLeds ec orangeOn whiteOn

/-- The only check a setter makes: a custom fan duty of at most 220. -/
def Valid : Setter → Prop
  | .fanMode _ (.custom duty) => duty ≤ 220
  | _ => True

instance (setter : Setter) : Decidable setter.Valid := by
  unfold Valid
  split <;> infer_instance

end Setter

/-- Policy and duty a fan mode asks for. -/
def fanRequest : FanMode → UInt8 × UInt8
  | .auto => (0x00, 0)
  | .full => (0x40, 150)
  | .custom duty => (0x40, duty)

def fanSteps (fan : FanIndex) (mode : FanMode) : List Step :=
  [.batch [(.thermalPolicy fan, (fanRequest mode).1), (.fanDuty fan, (fanRequest mode).2)]]

def ledReset : Step := .batch [(.ledBreathEn, 0x00), (.pwmPrescaler, 0x00), (.pwmCycle, 0xFF)]

/-- What `enterLedCustom` does once it has read the flag. -/
def ledSetUp (ledCustom : Bool) : List Step :=
  if ledCustom then []
  else [.batch [(.ledBypass, 0x01)], .batch [(.gpioA0Mux, 0x00)], .storeLed true]

def ledSteps (ledCustom : Bool) : PowerLedMode → List Step
  | .auto => [.batch [(.ledBypass, 0x00)], ledReset, .storeLed false]
  | .custom brightness => ledSetUp ledCustom ++ [ledReset, .batch [(.pwmDuty, brightness)]]
  | .animation config => ledSetUp ledCustom ++ [ledReset, .batch [(.pwmPrescaler, 0x00)],
      .batch [(.pwmCycle, 0xFF)], .batch [(.ledBreathStep, BreathConfig.lcr1 config)],
      .batch [(.ledBreathDelay, BreathConfig.lcr2 config)], .batch [(.ledBreathEn, 0x01)]]

def keyboardSteps : KeyboardBacklightLevel → List Step
  | .off => [.batch [(.kbdBacklight, 0x00)]]
  | .low => [.batch [(.kbdBacklight, 0x01)]]
  | .medium => [.batch [(.kbdBacklight, 0x02)]]
  | .high => [.batch [(.kbdBacklight, 0x03)]]
  | .custom value => [.batch [(.kbdBypassTimeout, 0xFF), (.gpioA4Mux, 0x00),
      (.kbdBacklight, 0xFF), (.kbdCustomVal, value)]]

/-- The port value with the two LED bits set for the wanted state (lit is low). -/
def batteryLedPort (ec : EcDevice) (orangeOn whiteOn : Bool) (portA : UInt8) : UInt8 :=
  let portA :=
    if orangeOn then portA &&& ~~~ec.offsets.maskOrangeLed
    else portA ||| ec.offsets.maskOrangeLed
  if whiteOn then portA &&& ~~~ec.offsets.maskWhiteLed
  else portA ||| ec.offsets.maskWhiteLed

/-- The steps a setter takes, given the flag and the port value it reads first. -/
def Setter.steps (ec : EcDevice) (ledCustom : Bool) (portA : UInt8) : Setter → List Step
  | .fanMode fan mode => fanSteps fan mode
  | .ledMode mode => ledSteps ledCustom mode
  | .keyboardBacklight level => keyboardSteps level
  | .chargeLimit limit =>
      [.batch [(.batLimitMin, limit.asPercent.1), (.batLimitMax, limit.asPercent.2)]]
  | .powerProfile profile => [.batch [(.powerProfile, profile.asU8)]]
  | .batteryLeds orangeOn whiteOn =>
      [.batch [(.gpdra, batteryLedPort ec orangeOn whiteOn portA)]]

variable {ec : EcDevice}

theorem script_single (register : Register) (value : UInt8) :
    script ec [.batch [(register, value)]] = ec.writeReg (ec.address register) value := by
  change withBatch (EcBatch.writes [(ec.address register, value)]) >>= pure = _
  rw [bind_pure, EcBatch.writes_single]
  rfl

theorem script_cons_single (register : Register) (value : UInt8) (rest : List Step) :
    script ec (.batch [(register, value)] :: rest) =
      ec.writeReg (ec.address register) value >>= fun _ => script ec rest := by
  change withBatch (EcBatch.writes [(ec.address register, value)]) >>= _ = _
  rw [EcBatch.writes_single]
  rfl

theorem script_last (step : List (Register × UInt8)) :
    script ec [.batch step] = withBatch (EcBatch.writes (ec.place step)) :=
  bind_pure (withBatch (EcBatch.writes (ec.place step)))

theorem script_append (first second : List Step) :
    script ec (first ++ second) = script ec first >>= fun _ => script ec second := by
  induction first with
  | nil => rfl
  | cons step first ih =>
      cases step <;> simp only [List.cons_append, script, ih, bind_assoc]

theorem applyFanMode_eq (fan : FanIndex) {mode : FanMode}
    (valid : (Setter.fanMode fan mode).Valid) :
    applyFanMode ec fan mode = script ec (fanSteps fan mode) := by
  rw [fanSteps, script_last]
  simp only [EcDevice.place, List.map, EcBatch.writes, bind_pure_unit]
  cases mode with
  | custom duty =>
      have checked : ¬duty > 220 := UInt8.not_lt.mpr valid
      simp only [applyFanMode, checked, if_false]
      cases fan <;> rfl
  | _ => cases fan <;> rfl

theorem applyFanMode_refused (fan : FanIndex) {duty : UInt8} (excessive : duty > 220) :
    applyFanMode ec fan (.custom duty) =
      Io.bail s!"Requested fan duty cycle ({duty}) exceeds safe limit (220)." := by
  simp only [applyFanMode, excessive, if_true]
  rfl

theorem resetLedAnimEngine_eq : resetLedAnimEngine ec = script ec [ledReset] := by
  rw [ledReset, script_last]
  simp only [EcDevice.place, List.map, EcBatch.writes, bind_pure_unit]
  rfl

theorem enterLedCustom_eq :
    enterLedCustom ec = Io.loadLedCustom >>= fun custom => script ec (ledSetUp custom) := by
  refine congrArg (Io.loadLedCustom >>= ·) (funext fun custom => ?_)
  cases custom with
  | true => rfl
  | false =>
      change _ = script ec [.batch [(.ledBypass, 0x01)], .batch [(.gpioA0Mux, 0x00)], .storeLed true]
      rw [script_cons_single, script_cons_single]
      simp only [script, bind_pure_unit]
      rfl

theorem script_reset (rest : List Step) :
    script ec (ledReset :: rest) = resetLedAnimEngine ec >>= fun _ => script ec rest := by
  rw [resetLedAnimEngine_eq]
  exact script_append [ledReset] rest

theorem applyLedMode_auto : applyLedMode ec .auto = script ec (ledSteps true .auto) := by
  rw [ledSteps, script_cons_single, script_reset]
  simp only [script, bind_pure_unit]
  rfl

/-- Every mode but `auto` reads the flag once, and follows the script of that value. -/
theorem applyLedMode_eq {mode : PowerLedMode} (notAuto : mode ≠ .auto) :
    applyLedMode ec mode =
      Io.loadLedCustom >>= fun custom => script ec (ledSteps custom mode) := by
  cases mode with
  | auto => exact absurd rfl notAuto
  | custom brightness =>
      simp only [ledSteps, script_append, script_reset, script_single]
      rw [← bind_assoc, ← enterLedCustom_eq]
      rfl
  | animation config =>
      simp only [ledSteps, script_append, script_reset, script_cons_single]
      rw [← bind_assoc, ← enterLedCustom_eq]
      simp only [script, bind_pure_unit]
      rfl

theorem applyKeyboardBacklight_eq (level : KeyboardBacklightLevel) :
    applyKeyboardBacklight ec level = script ec (keyboardSteps level) := by
  cases level with
  | custom value =>
      rw [keyboardSteps, script_last]
      simp only [EcDevice.place, List.map, EcBatch.writes, bind_pure_unit]
      rfl
  | _ => exact (script_single .kbdBacklight _).symm

theorem applyChargeLimit_eq (limit : ChargeLimit) :
    applyChargeLimit ec limit = script ec
      [.batch [(.batLimitMin, limit.asPercent.1), (.batLimitMax, limit.asPercent.2)]] := by
  rw [script_last]
  simp only [EcDevice.place, List.map, EcBatch.writes, bind_pure_unit]
  rfl

theorem applyPowerProfile_eq (profile : PowerProfile) :
    applyPowerProfile ec profile =
      script ec [.batch [(.powerProfile, profile.asU8)]] >>= fun _ => pure .success := by
  rw [script_single]
  rfl

theorem applyBatteryLeds_eq (orangeOn whiteOn : Bool) :
    applyBatteryLeds ec orangeOn whiteOn = ec.readReg ec.offsets.regGpdra >>= fun portA =>
      script ec [.batch [(.gpdra, batteryLedPort ec orangeOn whiteOn portA)]] := by
  simp only [script_single]
  rfl

theorem Setter.eq_of_fanMode_batch {fan : FanIndex} {mode : FanMode} {ledCustom : Bool}
    {portA : UInt8} {writes : List (Register × UInt8)}
    (member : .batch writes ∈ (Setter.fanMode fan mode).steps ec ledCustom portA) :
    writes = [(.thermalPolicy fan, (fanRequest mode).1), (.fanDuty fan, (fanRequest mode).2)] := by
  simpa [steps, fanSteps] using member

variable {codec : SettingsCodec} {thread : ThreadId} {before after : World}

/-- The actions of a setter started in the given state. -/
def Setter.actions (ec : EcDevice) (setter : Setter) (world : World) : List Action :=
  actionsOf (setter.steps ec world.ledCustom (world.ec (ec.address .gpdra)))

theorem ledSteps_auto (custom other : Bool) : ledSteps custom .auto = ledSteps other .auto := rfl

theorem alone_readReg {addr : UInt16} {result : Except Failure UInt8} :
    Alone codec thread (ec.readReg addr) before result after ↔ after = before ∧
      (result = .ok (before.ec addr) ∨ ∃ message, result = .error (.error message)) := by
  simp only [EcDevice.readReg, alone_withBatch, EcBatch.runs_readReg]
  constructor
  · rintro ⟨memory, ⟨rfl, outcome⟩, rfl⟩
    exact ⟨rfl, outcome⟩
  · rintro ⟨rfl, outcome⟩
    exact ⟨_, ⟨rfl, outcome⟩, rfl⟩

theorem Setter.length_actions (setter : Setter) (world : World) :
    0 < (setter.actions ec world).length := by
  cases setter with
  | ledMode mode =>
      cases mode <;> simp [actions, steps, ledSteps, ledReset, actionsOf_append]
  | keyboardBacklight level => cases level <;> simp [actions, steps, keyboardSteps]
  | _ => simp [actions, steps, fanSteps]

theorem alone_applyLedMode {mode : PowerLedMode} {result : Except Failure Unit} :
    Alone codec thread (applyLedMode ec mode) before result after ↔
      Alone codec thread (script ec (ledSteps before.ledCustom mode)) before result after := by
  by_cases auto : mode = .auto
  · rw [auto, applyLedMode_auto, ledSteps_auto]
  · rw [applyLedMode_eq auto]
    exact Fallible.runs_bind_sure alone_loadLedCustom

theorem Setter.alone_apply_script {setter : Setter} (valid : setter.Valid)
    (sets : setter.feature ≠ .batteryLeds) {result : Except Failure Unit} :
    Alone codec thread (setter.apply ec) before result after ↔ Alone codec thread
      (script ec (setter.steps ec before.ledCustom (before.ec (ec.address .gpdra))))
      before result after := by
  cases setter with
  | fanMode fan mode => exact iff_of_eq (by rw [apply, applyFanMode_eq fan valid]; rfl)
  | ledMode mode => exact alone_applyLedMode
  | keyboardBacklight level => exact iff_of_eq (by rw [apply, applyKeyboardBacklight_eq]; rfl)
  | chargeLimit limit => exact iff_of_eq (by rw [apply, applyChargeLimit_eq]; rfl)
  | powerProfile profile =>
      refine iff_of_eq ?_
      rw [apply, applyPowerProfile_eq, bind_assoc]
      simp only [pure_bind, bind_pure_unit]
      rfl
  | batteryLeds orangeOn whiteOn => exact absurd rfl sets

theorem Setter.apply_refused {setter : Setter} (invalid : ¬setter.Valid) :
    ∃ message, setter.apply ec = Io.bail message := by
  cases setter with
  | fanMode fan mode =>
      cases mode with
      | custom duty => exact ⟨_, applyFanMode_refused fan (UInt8.not_le.mp invalid)⟩
      | _ => exact absurd trivial invalid
  | _ => exact absurd trivial invalid

/-- A setter plays all of its actions, or fails after a proper prefix of them;
a fan duty above the limit is refused before the first. -/
theorem Setter.alone_apply {setter : Setter} {result : Except Failure Unit}
    (ran : Alone codec thread (setter.apply ec) before result after) :
    (result = .ok () ∧ setter.Valid ∧ after = before.play ec (setter.actions ec before)) ∨
    (∃ made < (setter.actions ec before).length, ∃ message, result = .error (.error message) ∧
      after = before.play ec ((setter.actions ec before).take made)) := by
  have scripted : setter.Valid →
      Alone codec thread
        (script ec (setter.steps ec before.ledCustom (before.ec (ec.address .gpdra))))
        before result after →
      (result = .ok () ∧ setter.Valid ∧ after = before.play ec (setter.actions ec before)) ∨
      (∃ made < (setter.actions ec before).length, ∃ message, result = .error (.error message) ∧
        after = before.play ec ((setter.actions ec before).take made)) := by
    intro valid followed
    rcases alone_script followed with ⟨rfl, rfl⟩ | failed
    · exact .inl ⟨rfl, valid, rfl⟩
    · exact .inr failed
  have refused : ∀ message, result = .error (.error message) → after = before →
      ∃ made < (setter.actions ec before).length, ∃ message, result = .error (.error message) ∧
        after = before.play ec ((setter.actions ec before).take made) :=
    fun message failed same => ⟨0, setter.length_actions before, message, failed, same⟩
  by_cases valid : setter.Valid
  · cases setter with
    | batteryLeds orangeOn whiteOn =>
        rw [apply, applyBatteryLeds_eq] at ran
        rcases Fallible.runs_bind.mp ran with ⟨failure, rfl, first⟩ | ⟨portA, middle, first, second⟩
        · obtain ⟨rfl, impossible | ⟨message, same⟩⟩ := alone_readReg.mp first
          · cases impossible
          · cases same
            exact .inr (refused message rfl rfl)
        · obtain ⟨rfl, same | ⟨message, impossible⟩⟩ := alone_readReg.mp first
          · cases same
            exact scripted trivial second
          · cases impossible
    | _ => exact scripted valid ((alone_apply_script valid (by simp [feature])).mp ran)
  · obtain ⟨message, bails⟩ := setter.apply_refused valid
    rw [bails] at ran
    exact .inr (refused message ran.1 ran.2)

theorem Setter.alone_apply_ok {setter : Setter} (valid : setter.Valid) :
    Alone codec thread (setter.apply ec) before (.ok ())
      (before.play ec (setter.actions ec before)) := by
  have played : Alone codec thread
      (script ec (setter.steps ec before.ledCustom (before.ec (ec.address .gpdra))))
      before (.ok ()) (before.play ec (setter.actions ec before)) := alone_script_ok _
  cases setter with
  | batteryLeds orangeOn whiteOn =>
      rw [apply, applyBatteryLeds_eq]
      exact Fallible.runs_bind_ok.mpr ⟨_, _, alone_readReg.mpr ⟨rfl, .inl rfl⟩, played⟩
  | _ => exact (alone_apply_script valid (by simp [feature])).mpr played

end Lecoo.Ec
