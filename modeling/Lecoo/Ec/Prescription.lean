import Lecoo.Ec.Setter

namespace Lecoo.Daemon.World

open Lecoo.Ec Lecoo.Data

/-! # What a setter leaves in the registers -/

/-- The EC memory seen through the placement of the registers. -/
def registers (ec : EcDevice) (world : World) : Memory Register UInt8 :=
  fun register => world.ec (ec.address register)

/-- The cached flag is true only after the bypass and pin set-up it stands for. -/
def LedCoherent (ec : EcDevice) (world : World) : Prop :=
  world.ledCustom = true →
    world.registers ec .ledBypass = 0x01 ∧ world.registers ec .gpioA0Mux = 0x00

instance (ec : EcDevice) (world : World) : Decidable (world.LedCoherent ec) :=
  inferInstanceAs (Decidable (_ → _))

end Lecoo.Daemon.World

namespace Lecoo.Ec

open Lecoo.Effects Lecoo.Ipc Lecoo.Daemon Lecoo.Data

variable {ec : EcDevice} {world : World}

def Action.registerWrite : Action → Option (Register × UInt8)
  | .write register value => some (register, value)
  | .storeLed _ => none

def registerWrites (actions : List Action) : List (Register × UInt8) :=
  actions.filterMap Action.registerWrite

/-- The value of the flag after the stores among the actions. -/
def flagAfter (ledCustom : Bool) : List Action → Bool
  | [] => ledCustom
  | .write _ _ :: rest => flagAfter ledCustom rest
  | .storeLed value :: rest => flagAfter value rest

@[simp] theorem registerWrites_nil : registerWrites [] = [] := rfl

@[simp] theorem registerWrites_write (register : Register) (value : UInt8) (rest : List Action) :
    registerWrites (.write register value :: rest) = (register, value) :: registerWrites rest := rfl

@[simp] theorem registerWrites_storeLed (value : Bool) (rest : List Action) :
    registerWrites (.storeLed value :: rest) = registerWrites rest := rfl

theorem registerWrites_writeActions (writes : List (Register × UInt8)) :
    registerWrites (writeActions writes) = writes := by
  induction writes with
  | nil => rfl
  | cons entry rest ih => exact congrArg (entry :: ·) ih

theorem registerWrites_append (first second : List Action) :
    registerWrites (first ++ second) = registerWrites first ++ registerWrites second :=
  List.filterMap_append

theorem mem_registerWrites {steps : List Step} {writes : List (Register × UInt8)}
    {entry : Register × UInt8} (taken : .batch writes ∈ steps) (written : entry ∈ writes) :
    entry ∈ registerWrites (actionsOf steps) :=
  List.mem_filterMap.mpr ⟨.write entry.1 entry.2,
    List.mem_flatMap.mpr ⟨_, taken, List.mem_map.mpr ⟨entry, written, rfl⟩⟩, rfl⟩

theorem play_ec (actions : List Action) :
    (world.play ec actions).ec = world.ec.writeAll (ec.place (registerWrites actions)) := by
  induction actions generalizing world with
  | nil => rfl
  | cons action rest ih => cases action <;> exact ih

theorem play_ledCustom (actions : List Action) :
    (world.play ec actions).ledCustom = flagAfter world.ledCustom actions := by
  induction actions generalizing world with
  | nil => rfl
  | cons action rest ih => cases action <;> exact ih

/-- Nothing but the EC memory and the flag decides what actions do to them. -/
theorem play_ec_congr {other : World} (same : other.ec = world.ec) (actions : List Action) :
    (other.play ec actions).ec = (world.play ec actions).ec := by
  rw [play_ec, play_ec, same]

theorem play_ledCoherent_congr {other : World} (flag : other.ledCustom = world.ledCustom)
    (bypass : other.registers ec .ledBypass = world.registers ec .ledBypass)
    (mux : other.registers ec .gpioA0Mux = world.registers ec .gpioA0Mux) :
    other.LedCoherent ec ↔ world.LedCoherent ec := by
  rw [World.LedCoherent, World.LedCoherent, flag, bypass, mux]

/-- A register whose address no other written register has. -/
theorem play_registers {actions : List Action} {register : Register}
    (alone : ∀ entry ∈ registerWrites actions,
      ec.address entry.1 = ec.address register → entry.1 = register) :
    (world.play ec actions).registers ec register =
      (world.registers ec).writeAll (registerWrites actions) register := by
  rw [World.registers, play_ec]
  exact Memory.writeAll_placed world.ec alone

namespace Setter

/-- What the registers of the feature hold after the setter. -/
def prescribes : Setter → List (Register × UInt8)
  | .fanMode fan mode =>
      [(.thermalPolicy fan, (fanRequest mode).1), (.fanDuty fan, (fanRequest mode).2)]
  | .ledMode .auto => [(.ledBypass, 0x00), (.ledBreathEn, 0x00)]
  | .ledMode (.custom brightness) =>
      [(.ledBypass, 0x01), (.gpioA0Mux, 0x00), (.ledBreathEn, 0x00), (.pwmDuty, brightness)]
  | .ledMode (.animation config) =>
      [(.ledBypass, 0x01), (.gpioA0Mux, 0x00), (.ledBreathStep, BreathConfig.lcr1 config),
        (.ledBreathDelay, BreathConfig.lcr2 config), (.ledBreathEn, 0x01)]
  | .keyboardBacklight .off => [(.kbdBacklight, 0x00)]
  | .keyboardBacklight .low => [(.kbdBacklight, 0x01)]
  | .keyboardBacklight .medium => [(.kbdBacklight, 0x02)]
  | .keyboardBacklight .high => [(.kbdBacklight, 0x03)]
  | .keyboardBacklight (.custom value) =>
      [(.kbdBacklight, 0xFF), (.kbdCustomVal, value), (.kbdBypassTimeout, 0xFF), (.gpioA4Mux, 0x00)]
  | .chargeLimit limit =>
      [(.batLimitMin, limit.asPercent.1), (.batLimitMax, limit.asPercent.2)]
  | .powerProfile profile => [(.powerProfile, profile.asU8)]
  | .batteryLeds _ _ => []

theorem prescribes_feature (setter : Setter) :
    ∀ entry ∈ setter.prescribes, entry.1.feature = some setter.feature := by
  cases setter with
  | ledMode mode => cases mode <;> simp [prescribes, feature, Register.feature]
  | keyboardBacklight level => cases level <;> simp [prescribes, feature, Register.feature]
  | _ => simp [prescribes, feature, Register.feature]

theorem steps_feature (setter : Setter) (ledCustom : Bool) (portA : UInt8) :
    ∀ entry ∈ registerWrites (actionsOf (setter.steps ec ledCustom portA)),
      entry.1.feature = some setter.feature := by
  cases setter with
  | ledMode mode =>
      cases mode <;> cases ledCustom <;>
        simp [steps, ledSteps, ledSetUp, ledReset, writeActions, feature, Register.feature]
  | keyboardBacklight level =>
      cases level <;> simp [steps, keyboardSteps, writeActions, feature, Register.feature]
  | _ => simp [steps, fanSteps, writeActions, feature, Register.feature]

/-- Outside the LED ring a setter writes one value to each of its registers. -/
theorem steps_once {setter : Setter} (notRing : setter.feature ≠ .ledRing) (ledCustom : Bool)
    (portA : UInt8) :
    ∀ entry ∈ registerWrites (actionsOf (setter.steps ec ledCustom portA)),
      ∀ prescribed ∈ setter.prescribes, entry.1 = prescribed.1 → entry.2 = prescribed.2 := by
  cases setter with
  | ledMode mode => exact absurd rfl notRing
  | keyboardBacklight level =>
      cases level <;> simp [steps, keyboardSteps, writeActions, prescribes]
  | _ => simp [steps, fanSteps, writeActions, prescribes]

/-- Whether the setter skips the bypass and pin set-up when the flag is set. -/
def ReliesOnFlag : Setter → Prop
  | .ledMode .auto => False
  | .ledMode _ => True
  | _ => False

/-- The writes of a setter establish what it prescribes, unless it relied on a
flag that was not coherent. -/
theorem steps_prescribed_iff (setter : Setter) (ledCustom : Bool) (portA : UInt8)
    (memory : Memory Register UInt8) :
    (memory.writeAll (registerWrites (actionsOf (setter.steps ec ledCustom portA)))).Holds
        setter.prescribes ↔
      (setter.ReliesOnFlag → ledCustom = true →
        memory .ledBypass = 0x01 ∧ memory .gpioA0Mux = 0x00) := by
  cases setter with
  | ledMode mode =>
      cases mode <;> cases ledCustom <;>
        simp [steps, ledSteps, ledSetUp, ledReset, writeActions, Memory.Holds, prescribes,
          Memory.write_apply, ReliesOnFlag]
  | keyboardBacklight level =>
      cases level <;>
        simp [steps, keyboardSteps, writeActions, Memory.Holds, prescribes, Memory.write_apply,
          ReliesOnFlag]
  | _ =>
      simp [steps, fanSteps, writeActions, Memory.Holds, prescribes, Memory.write_apply,
        ReliesOnFlag]

theorem ledSteps_coherent (mode : PowerLedMode) {ledCustom : Bool}
    {memory : Memory Register UInt8}
    (coherent : ledCustom = true → memory .ledBypass = 0x01 ∧ memory .gpioA0Mux = 0x00)
    (flag : flagAfter ledCustom (actionsOf (ledSteps ledCustom mode)) = true) :
    memory.writeAll (registerWrites (actionsOf (ledSteps ledCustom mode))) .ledBypass = 0x01 ∧
    memory.writeAll (registerWrites (actionsOf (ledSteps ledCustom mode))) .gpioA0Mux = 0x00 := by
  cases mode with
  | auto => simp [ledSteps, ledReset, writeActions, flagAfter] at flag
  | _ =>
      cases ledCustom <;>
        simp [ledSteps, ledSetUp, ledReset, writeActions, coherent]

theorem steps_flag {setter : Setter} (other : setter.feature ≠ .ledRing) (ledCustom : Bool)
    (portA : UInt8) :
    flagAfter ledCustom (actionsOf (setter.steps ec ledCustom portA)) = ledCustom := by
  cases setter with
  | ledMode mode => exact absurd rfl other
  | keyboardBacklight level =>
      cases level <;> simp [steps, keyboardSteps, writeActions, flagAfter]
  | _ => simp [steps, fanSteps, writeActions, flagAfter]

end Setter

end Lecoo.Ec
