import Lecoo.Data.PrefixCoder
import Lecoo.Ipc.Structs

namespace Lecoo.Ipc.Bincode

open Lecoo.Data PrefixCoder

/-! # The standard bincode layout of the settings

Fields follow each other in the order of their declaration.  Integers from 251 on are
written behind a byte that tells their width; an enumeration writes the index of the
variant and then the fields of the variant.
-/

/-- What follows the first byte of an integer. -/
inductive Width where
  | here (value : Fin 251)
  | two
  | four
  | eight

def Width.ofByte (first : UInt8) : Option Width :=
  if bound : first.toNat < 251 then some (.here ⟨first.toNat, bound⟩)
  else if first = 251 then some .two
  else if first = 252 then some .four
  else if first = 253 then some .eight
  else none

def Width.byte : Width → UInt8
  | .here value => UInt8.ofNat value.val
  | .two => 251
  | .four => 252
  | .eight => 253

theorem Width.ofByte_byte (width : Width) : ofByte width.byte = some width := by
  cases width with
  | here value =>
      have same : (UInt8.ofNat value.val).toNat = value.val :=
        UInt8.toNat_ofNat_of_lt (Nat.lt_trans value.isLt (by decide))
      simp only [ofByte, byte, same, value.isLt, dif_pos]
  | _ => rfl

def Width.Fields : Width → Type
  | .here _ => Unit
  | .two => Fin (256 ^ 2)
  | .four => Fin (256 ^ 4)
  | .eight => Fin (256 ^ 8)

def Width.fields : (width : Width) → PrefixCoder width.Fields
  | .here _ => unit
  | .two => littleEndian 2
  | .four => littleEndian 4
  | .eight => littleEndian 8

def Width.value : ((width : Width) × width.Fields) → UInt64
  | ⟨.here value, _⟩ => UInt64.ofNat value.val
  | ⟨.two, value⟩ | ⟨.four, value⟩ | ⟨.eight, value⟩ => UInt64.ofNat value.val

def Width.split (value : UInt64) : (width : Width) × width.Fields :=
  if small : value.toNat < 251 then ⟨.here ⟨value.toNat, small⟩, ()⟩
  else if two : value.toNat < 256 ^ 2 then ⟨.two, ⟨value.toNat, two⟩⟩
  else if four : value.toNat < 256 ^ 4 then ⟨.four, ⟨value.toNat, four⟩⟩
  else ⟨.eight, ⟨value.toNat, value.toNat_lt⟩⟩

theorem Width.value_split (value : UInt64) : Width.value (split value) = value := by
  unfold split
  split
  · exact UInt64.ofNat_toNat
  split
  · exact UInt64.ofNat_toNat
  split <;> exact UInt64.ofNat_toNat

def uint64 : PrefixCoder UInt64 :=
  ((byte.retract Width.ofByte Width.byte Width.ofByte_byte).sigma Width.fields).imap
    Width.value Width.split Width.value_split

/-- The bytes an integer takes, without the one that tells its width. -/
def Width.size : Width → Nat
  | .here _ => 1
  | .two => 2
  | .four => 4
  | .eight => 8

theorem Width.split_here {value : UInt64} (small : value.toNat < 251) :
    split value = ⟨.here ⟨value.toNat, small⟩, ()⟩ := dif_pos small

theorem Width.split_two {value : UInt64} (small : value.toNat < 256 ^ 2) :
    (split value).1.size ≤ 2 := by
  unfold split
  split
  · exact Nat.le_succ 1
  · exact Nat.le_refl 2

theorem Width.split_four {value : UInt64} (small : value.toNat < 256 ^ 4) :
    (split value).1.size ≤ 4 := by
  unfold split
  split
  · exact Nat.le_of_ble_eq_true rfl
  split
  · exact Nat.le_of_ble_eq_true rfl
  · exact Nat.le_refl 4

def ofWidth : PrefixCoder ((width : Width) × width.Fields) :=
  (byte.retract Width.ofByte Width.byte Width.ofByte_byte).sigma Width.fields

/-- A narrower integer refuses the widths beyond its own. -/
def uint32 : PrefixCoder UInt32 :=
  ofWidth.retract
    (fun parts => if parts.1.size ≤ 4 then some (Width.value parts).toUInt32 else none)
    (fun value => Width.split value.toUInt64)
    fun value => by
      rw [if_pos (Width.split_four (by simpa using value.toNat_lt)), Width.value_split]
      simp

def uint16 : PrefixCoder UInt16 :=
  ofWidth.retract
    (fun parts => if parts.1.size ≤ 2 then some (Width.value parts).toUInt16 else none)
    (fun value => Width.split value.toUInt64)
    fun value => by
      rw [if_pos (Width.split_two (by simpa using value.toNat_lt)), Width.value_split]
      simp

/-- The index of a variant is an integer of 32 bits. -/
def variant (count : Nat) (few : count ≤ 251) : PrefixCoder (Fin count) :=
  uint32.retract
    (fun value => if bound : value.toNat < count then some ⟨value.toNat, bound⟩ else none)
    (fun value => UInt32.ofNat value.val)
    fun value => by
      have same : (UInt32.ofNat value.val).toNat = value.val :=
        UInt32.toNat_ofNat_of_lt (Nat.lt_of_lt_of_le value.isLt (Nat.le_trans few (by decide)))
      simp only [same, value.isLt, dif_pos]

/-- The index of a variant is written in its first byte. -/
theorem within_variant {count : Nat} {few : count ≤ 251} : (variant count few).Within 1 := by
  intro value
  have wide : (UInt32.ofNat value.val).toUInt64.toNat = value.val := by
    rw [UInt32.toNat_toUInt64]
    exact UInt32.toNat_ofNat_of_lt (Nat.lt_of_lt_of_le value.isLt (Nat.le_trans few (by decide)))
  have small : (UInt32.ofNat value.val).toUInt64.toNat < 251 := by
    rw [wide]
    exact Nat.lt_of_lt_of_le value.isLt few
  change (ofWidth.encode (Width.split (UInt32.ofNat value.val).toUInt64)).length ≤ 1
  rw [Width.split_here small]
  exact Nat.le_refl 1

def bool : PrefixCoder Bool :=
  (index 2 (by decide)).imap (fun tag => tag == 1) (fun value => if value then 1 else 0)
    fun value => by cases value <;> rfl

def powerProfile : PrefixCoder PowerProfile :=
  (variant 3 (by decide)).imap
    (fun | 0 => .silent | 1 => .default | 2 => .performance)
    (fun | .silent => 0 | .default => 1 | .performance => 2)
    fun value => by cases value <;> rfl

def chargeLimit : PrefixCoder ChargeLimit :=
  (variant 5 (by decide)).imap
    (fun
      | 0 => .fullCapacity | 1 => .highCapacity | 2 => .balanced | 3 => .maximumLifespan
      | 4 => .deskMode)
    (fun
      | .fullCapacity => 0 | .highCapacity => 1 | .balanced => 2 | .maximumLifespan => 3
      | .deskMode => 4)
    fun value => by cases value <;> rfl

def breathBrightness : PrefixCoder BreathBrightness :=
  (variant 4 (by decide)).imap
    (fun | 0 => .max25Percent | 1 => .max50Percent | 2 => .max75Percent | 3 => .max100Percent)
    (fun | .max25Percent => 0 | .max50Percent => 1 | .max75Percent => 2 | .max100Percent => 3)
    fun value => by cases value <;> rfl

def breathStep : PrefixCoder BreathStep :=
  (variant 4 (by decide)).imap
    (fun | 0 => .slow | 1 => .medium | 2 => .fast | 3 => .instant)
    (fun | .slow => 0 | .medium => 1 | .fast => 2 | .instant => 3)
    fun value => by cases value <;> rfl

def breathDelay : PrefixCoder BreathDelay :=
  (variant 7 (by decide)).imap
    (fun
      | 0 => .ms15 | 1 => .ms125 | 2 => .ms250 | 3 => .sec0_5 | 4 => .sec1 | 5 => .sec2
      | 6 => .sec4)
    (fun
      | .ms15 => 0 | .ms125 => 1 | .ms250 => 2 | .sec0_5 => 3 | .sec1 => 4 | .sec2 => 5
      | .sec4 => 6)
    fun value => by cases value <;> rfl

def breathConfig : PrefixCoder BreathConfig :=
  (breathBrightness.pair (breathStep.pair (breathStep.pair (breathDelay.pair breathDelay)))).imap
    (fun (maxBrightness, stepUp, stepDown, delayAtMax, delayAtMin) =>
      { maxBrightness, stepUp, stepDown, delayAtMax, delayAtMin })
    (fun config => (config.maxBrightness, config.stepUp, config.stepDown, config.delayAtMax,
      config.delayAtMin))
    fun _ => rfl

def KeyboardFields : Fin 5 → Type
  | 4 => UInt8
  | _ => Unit

def keyboardFields : (tag : Fin 5) → PrefixCoder (KeyboardFields tag)
  | 0 | 1 | 2 | 3 => unit
  | 4 => byte

def keyboardBacklight : PrefixCoder KeyboardBacklightLevel :=
  ((variant 5 (by decide)).sigma keyboardFields).imap
    (fun
      | ⟨0, _⟩ => .off | ⟨1, _⟩ => .low | ⟨2, _⟩ => .medium | ⟨3, _⟩ => .high
      | ⟨4, value⟩ => .custom value)
    (fun
      | .off => ⟨0, ()⟩ | .low => ⟨1, ()⟩ | .medium => ⟨2, ()⟩ | .high => ⟨3, ()⟩
      | .custom value => ⟨4, value⟩)
    fun value => by cases value <;> rfl

def FanFields : Fin 3 → Type
  | 2 => UInt8
  | _ => Unit

def fanFields : (tag : Fin 3) → PrefixCoder (FanFields tag)
  | 0 | 1 => unit
  | 2 => byte

def fanMode : PrefixCoder FanMode :=
  ((variant 3 (by decide)).sigma fanFields).imap
    (fun | ⟨0, _⟩ => .auto | ⟨1, _⟩ => .full | ⟨2, duty⟩ => .custom duty)
    (fun | .auto => ⟨0, ()⟩ | .full => ⟨1, ()⟩ | .custom duty => ⟨2, duty⟩)
    fun value => by cases value <;> rfl

def LedFields : Fin 3 → Type
  | 0 => Unit
  | 1 => UInt8
  | 2 => BreathConfig

def ledFields : (tag : Fin 3) → PrefixCoder (LedFields tag)
  | 0 => unit
  | 1 => byte
  | 2 => breathConfig

def ledMode : PrefixCoder PowerLedMode :=
  ((variant 3 (by decide)).sigma ledFields).imap
    (fun | ⟨0, _⟩ => .auto | ⟨1, brightness⟩ => .custom brightness | ⟨2, config⟩ => .animation config)
    (fun | .auto => ⟨0, ()⟩ | .custom brightness => ⟨1, brightness⟩ | .animation config => ⟨2, config⟩)
    fun value => by cases value <;> rfl

def settings : PrefixCoder CurrentSettings :=
  (powerProfile.pair (keyboardBacklight.pair (fanMode.pair (fanMode.pair (chargeLimit.pair
    (ledMode.pair (bool.pair uint64))))))).imap
    (fun (powerProfile, keyboardBacklight, fanModeCpu, fanModeGpu, chargeLimit, ledMode,
        telemetryEnabled, telemetryClientId) =>
      { powerProfile, keyboardBacklight, fanModeCpu, fanModeGpu, chargeLimit, ledMode,
        telemetryEnabled, telemetryClientId })
    (fun settings => (settings.powerProfile, settings.keyboardBacklight, settings.fanModeCpu,
      settings.fanModeGpu, settings.chargeLimit, settings.ledMode, settings.telemetryEnabled,
      settings.telemetryClientId))
    fun _ => rfl

example : settings.encode (CurrentSettings.default 300) =
    [1, 2, 0, 0, 0, 0, 1, 251, 44, 1] := by decide

def fanIndex : PrefixCoder FanIndex :=
  (variant 2 (by decide)).imap (fun | 0 => .cpu | 1 => .gpu) (fun | .cpu => 0 | .gpu => 1)
    fun value => by cases value <;> rfl

def CommandFields : Fin 9 → Type
  | 4 | 5 => Bool
  | _ => Unit

def commandFields : (tag : Fin 9) → PrefixCoder (CommandFields tag)
  | 4 | 5 => bool
  | 0 | 1 | 2 | 3 | 6 | 7 | 8 => unit

def daemonCommand : PrefixCoder DaemonCommand :=
  ((variant 9 (by decide)).sigma commandFields).imap
    (fun
      | ⟨0, _⟩ => .restoreDefaults | ⟨1, _⟩ => .getSettings | ⟨2, _⟩ => .applySettings
      | ⟨3, _⟩ => .getTelemetryId | ⟨4, isEnabled⟩ => .activateTelemetry isEnabled
      | ⟨5, isEnabled⟩ => .activateProcessSuspend isEnabled | ⟨6, _⟩ => .runPrepareShutdown
      | ⟨7, _⟩ => .runPrepareSuspend | ⟨8, _⟩ => .runPrepareResume)
    (fun
      | .restoreDefaults => ⟨0, ()⟩ | .getSettings => ⟨1, ()⟩ | .applySettings => ⟨2, ()⟩
      | .getTelemetryId => ⟨3, ()⟩ | .activateTelemetry isEnabled => ⟨4, isEnabled⟩
      | .activateProcessSuspend isEnabled => ⟨5, isEnabled⟩ | .runPrepareShutdown => ⟨6, ()⟩
      | .runPrepareSuspend => ⟨7, ()⟩ | .runPrepareResume => ⟨8, ()⟩)
    fun value => by cases value <;> rfl

def RequestFields : Fin 12 → Type
  | 6 => PowerProfile
  | 7 => FanIndex × FanMode
  | 8 => KeyboardBacklightLevel
  | 9 => ChargeLimit
  | 10 => PowerLedMode
  | 11 => DaemonCommand
  | _ => Unit

def requestFields : (tag : Fin 12) → PrefixCoder (RequestFields tag)
  | 0 | 1 | 2 | 3 | 4 | 5 => unit
  | 6 => powerProfile
  | 7 => fanIndex.pair fanMode
  | 8 => keyboardBacklight
  | 9 => chargeLimit
  | 10 => ledMode
  | 11 => daemonCommand

def request : PrefixCoder IpcRequest :=
  ((variant 12 (by decide)).sigma requestFields).imap
    (fun
      | ⟨0, _⟩ => .getSystemState | ⟨1, _⟩ => .getFansRPM | ⟨2, _⟩ => .getTemperatures
      | ⟨3, _⟩ => .getChargeLimit | ⟨4, _⟩ => .getPowerProfile | ⟨5, _⟩ => .getKeyboardBacklight
      | ⟨6, profile⟩ => .setPowerProfile profile | ⟨7, (fan, mode)⟩ => .setFanMode fan mode
      | ⟨8, level⟩ => .setKeyboardBacklight level | ⟨9, limit⟩ => .setChargeLimit limit
      | ⟨10, mode⟩ => .setLedMode mode | ⟨11, command⟩ => .daemonCommand command)
    (fun
      | .getSystemState => ⟨0, ()⟩ | .getFansRPM => ⟨1, ()⟩ | .getTemperatures => ⟨2, ()⟩
      | .getChargeLimit => ⟨3, ()⟩ | .getPowerProfile => ⟨4, ()⟩ | .getKeyboardBacklight => ⟨5, ()⟩
      | .setPowerProfile profile => ⟨6, profile⟩ | .setFanMode fan mode => ⟨7, (fan, mode)⟩
      | .setKeyboardBacklight level => ⟨8, level⟩ | .setChargeLimit limit => ⟨9, limit⟩
      | .setLedMode mode => ⟨10, mode⟩ | .daemonCommand command => ⟨11, command⟩)
    fun value => by cases value <;> rfl

/-- A text whose length can be written. -/
abbrev Text : Type := { text : String // text.toByteArray.size < 2 ^ 64 }

/-- The length of a text in bytes, and the text. -/
def text : PrefixCoder Text :=
  (uint64.sigma fun count => block count.toNat).retract
    (fun
      | ⟨count, bytes, length⟩ =>
          if valid : (ByteArray.mk bytes.toArray).IsValidUTF8 then
            some ⟨String.fromUTF8 _ valid, by
              have size : (String.fromUTF8 _ valid).toByteArray.size = count.toNat := by
                rw [← length]
                exact bytes.size_toArray
              rw [size]
              exact count.toNat_lt⟩
          else none)
    (fun text => ⟨UInt64.ofNat text.val.toByteArray.size, text.val.toByteArray.data.toList, by
      have size : (UInt64.ofNat text.val.toByteArray.size).toNat = text.val.toByteArray.size :=
        UInt64.toNat_ofNat_of_lt text.property
      rw [size]
      exact Array.length_toList⟩)
    fun text => by
      have same : ByteArray.mk text.val.toByteArray.data.toList.toArray = text.val.toByteArray := by
        rw [Array.toArray_toList]
      simp only [same, text.val.isValidUTF8, dif_pos]
      rfl

def DaemonFields : Fin 2 → Type
  | 0 => CurrentSettings
  | 1 => UInt64

def daemonFields : (tag : Fin 2) → PrefixCoder (DaemonFields tag)
  | 0 => settings
  | 1 => uint64

def daemonResponse : PrefixCoder DaemonResponse :=
  ((variant 2 (by decide)).sigma daemonFields).imap
    (fun | ⟨0, current⟩ => .settings current | ⟨1, id⟩ => .telemetryId id)
    (fun | .settings current => ⟨0, current⟩ | .telemetryId id => ⟨1, id⟩)
    fun value => by cases value <;> rfl

/-- The texts of the response are none that is too long for its length to be written. -/
def Writable : IpcResponse → Prop
  | .systemInfo chip revision _ version =>
      chip.toByteArray.size < 2 ^ 64 ∧ revision.toByteArray.size < 2 ^ 64 ∧
        version.toByteArray.size < 2 ^ 64
  | .error message => message.toByteArray.size < 2 ^ 64
  | _ => True

instance : (res : IpcResponse) → Decidable (Writable res)
  | .systemInfo _ _ _ _ => inferInstanceAs (Decidable (_ ∧ _))
  | .error _ => inferInstanceAs (Decidable (_ < _))
  | .success | .fanRPM _ _ | .temp _ _ | .chargeLimit _ _ _ | .keyboardBacklight _
  | .powerLimit _ | .daemonResponse _ | .telemetryDisabledInfo => .isTrue trivial

def ResponseFields : Fin 10 → Type
  | 1 => Text × Text × UInt16 × Text
  | 2 => UInt16 × UInt16
  | 3 => UInt8 × UInt8
  | 4 => UInt8 × UInt8 × UInt8
  | 5 => KeyboardBacklightLevel
  | 6 => PowerProfile
  | 7 => DaemonResponse
  | 9 => Text
  | _ => Unit

def responseFields : (tag : Fin 10) → PrefixCoder (ResponseFields tag)
  | 1 => text.pair (text.pair (uint16.pair text))
  | 2 => uint16.pair uint16
  | 3 => byte.pair byte
  | 4 => byte.pair (byte.pair byte)
  | 5 => keyboardBacklight
  | 6 => powerProfile
  | 7 => daemonResponse
  | 9 => text
  | 0 | 8 => unit

def response : PrefixCoder { res // Writable res } :=
  ((variant 10 (by decide)).sigma responseFields).imap
    (fun
      | ⟨0, _⟩ => ⟨.success, trivial⟩
      | ⟨1, (chip, revision, offset, version)⟩ =>
          ⟨.systemInfo chip revision offset version, chip.property, revision.property,
            version.property⟩
      | ⟨2, (cpu, gpu)⟩ => ⟨.fanRPM cpu gpu, trivial⟩
      | ⟨3, (cpu, system)⟩ => ⟨.temp cpu system, trivial⟩
      | ⟨4, (min, max, current)⟩ => ⟨.chargeLimit min max current, trivial⟩
      | ⟨5, level⟩ => ⟨.keyboardBacklight level, trivial⟩
      | ⟨6, profile⟩ => ⟨.powerLimit profile, trivial⟩
      | ⟨7, res⟩ => ⟨.daemonResponse res, trivial⟩
      | ⟨8, _⟩ => ⟨.telemetryDisabledInfo, trivial⟩
      | ⟨9, ⟨message, writable⟩⟩ => ⟨.error message, writable⟩)
    (fun
      | ⟨.success, _⟩ => ⟨0, ()⟩
      | ⟨.systemInfo chip revision offset version, writable⟩ =>
          ⟨1, (⟨chip, writable.1⟩, ⟨revision, writable.2.1⟩, offset, ⟨version, writable.2.2⟩)⟩
      | ⟨.fanRPM cpu gpu, _⟩ => ⟨2, (cpu, gpu)⟩
      | ⟨.temp cpu system, _⟩ => ⟨3, (cpu, system)⟩
      | ⟨.chargeLimit min max current, _⟩ => ⟨4, (min, max, current)⟩
      | ⟨.keyboardBacklight level, _⟩ => ⟨5, level⟩
      | ⟨.powerLimit profile, _⟩ => ⟨6, profile⟩
      | ⟨.daemonResponse res, _⟩ => ⟨7, res⟩
      | ⟨.telemetryDisabledInfo, _⟩ => ⟨8, ()⟩
      | ⟨.error message, writable⟩ => ⟨9, ⟨message, writable⟩⟩)
    fun value => by obtain ⟨value, writable⟩ := value; cases value <;> rfl

theorem within_ofWidth : ofWidth.Within 9 := by
  refine Within.sigma within_byte.retract fun width => ?_
  cases width with
  | here value => exact within_unit
  | two => exact (within_littleEndian 2).mono (by decide)
  | four => exact (within_littleEndian 4).mono (by decide)
  | eight => exact within_littleEndian 8

theorem within_uint64 : uint64.Within 9 := fun value => within_ofWidth (Width.split value)

theorem within_uint16 : uint16.Within 9 := fun value => within_ofWidth (Width.split value.toUInt64)

theorem within_bool : bool.Within 1 := within_index.imap

theorem within_powerProfile : powerProfile.Within 1 := within_variant.imap

theorem within_chargeLimit : chargeLimit.Within 1 := within_variant.imap

theorem within_fanIndex : fanIndex.Within 1 := within_variant.imap

theorem within_keyboardBacklight : keyboardBacklight.Within 2 := by
  refine (within_variant.sigma fun tag => ?_).imap
  match tag with
  | 0 | 1 | 2 | 3 => exact within_unit
  | 4 => exact within_byte

theorem within_fanMode : fanMode.Within 2 := by
  refine (within_variant.sigma fun tag => ?_).imap
  match tag with
  | 0 | 1 => exact within_unit
  | 2 => exact within_byte

theorem within_breathConfig : breathConfig.Within 5 := by
  have brightness : breathBrightness.Within 1 := within_variant.imap
  have step : breathStep.Within 1 := within_variant.imap
  have delay : breathDelay.Within 1 := within_variant.imap
  exact (brightness.pair (step.pair (step.pair (delay.pair delay)))).imap

theorem within_ledMode : ledMode.Within 6 := by
  refine (within_variant.sigma fun tag => ?_).imap
  match tag with
  | 0 => exact within_unit
  | 1 => exact within_byte.mono (by decide)
  | 2 => exact within_breathConfig

theorem within_settings : settings.Within 24 :=
  (within_powerProfile.pair (within_keyboardBacklight.pair (within_fanMode.pair
    (within_fanMode.pair (within_chargeLimit.pair (within_ledMode.pair
      (within_bool.pair within_uint64))))))).imap

theorem within_daemonCommand : daemonCommand.Within 2 := by
  refine (within_variant.sigma fun tag => ?_).imap
  match tag with
  | 0 | 1 | 2 | 3 | 6 | 7 | 8 => exact within_unit
  | 4 | 5 => exact within_bool

theorem within_request : request.Within 7 := by
  refine (within_variant.sigma fun tag => ?_).imap
  match tag with
  | 0 | 1 | 2 | 3 | 4 | 5 => exact within_unit
  | 6 => exact within_powerProfile.mono (by decide)
  | 7 => exact (within_fanIndex.pair within_fanMode).mono (by decide)
  | 8 => exact within_keyboardBacklight.mono (by decide)
  | 9 => exact within_chargeLimit.mono (by decide)
  | 10 => exact within_ledMode
  | 11 => exact within_daemonCommand.mono (by decide)

/-- The texts of a response. -/
def texts : IpcResponse → List String
  | .systemInfo chip revision _ version => [chip, revision, version]
  | .error message => [message]
  | _ => []

theorem length_text (text : Text) {size : Nat} (brief : text.val.toByteArray.size ≤ size) :
    (Bincode.text.encode text).length ≤ 9 + size := by
  change ((uint64.encode (UInt64.ofNat text.val.toByteArray.size)) ++
    text.val.toByteArray.data.toList).length ≤ 9 + size
  rw [List.length_append, Array.length_toList]
  exact Nat.add_le_add (within_uint64 _) brief

theorem within_daemonResponse : daemonResponse.Within 25 := by
  refine (within_variant.sigma fun tag => ?_).imap
  match tag with
  | 0 => exact within_settings
  | 1 => exact within_uint64.mono (by decide)

/-- A response takes a few bytes beside its texts. -/
theorem length_response {res : IpcResponse} (writable : Writable res) {size : Nat}
    (brief : ∀ text ∈ texts res, text.toByteArray.size ≤ size) :
    (response.encode ⟨res, writable⟩).length ≤ 40 + 3 * size := by
  have tagged : ∀ (tag : Fin 10) (count : Nat) (fields : ResponseFields tag),
      ((responseFields tag).encode fields).length ≤ count → count + 1 ≤ 40 + 3 * size →
      ((variant 10 (by decide)).encode tag ++ (responseFields tag).encode fields).length ≤
        40 + 3 * size := by
    intro tag count fields short enough
    have first : ((variant 10 (by decide)).encode tag).length ≤ 1 := within_variant tag
    rw [List.length_append]
    omega
  cases res with
  | success => exact tagged 0 0 () (Nat.zero_le _) (by omega)
  | systemInfo chip revision offset version =>
      obtain ⟨first, second, third⟩ := writable
      have short : ((text.pair (text.pair (uint16.pair text))).encode
          (⟨chip, first⟩, ⟨revision, second⟩, offset, ⟨version, third⟩)).length ≤ 36 + 3 * size := by
        have chipLength := length_text ⟨chip, first⟩ (brief chip (by simp [texts]))
        have revisionLength :=
          length_text ⟨revision, second⟩ (brief revision (by simp [texts]))
        have versionLength := length_text ⟨version, third⟩ (brief version (by simp [texts]))
        have offsetLength := within_uint16 offset
        change (text.encode _ ++ (text.encode _ ++ (uint16.encode _ ++ text.encode _))).length ≤ _
        simp only [List.length_append]
        omega
      exact tagged 1 _ _ short (by omega)
  | fanRPM cpu gpu => exact tagged 2 18 (cpu, gpu) (within_uint16.pair within_uint16 _) (by omega)
  | temp cpu system => exact tagged 3 2 (cpu, system) (within_byte.pair within_byte _) (by omega)
  | chargeLimit min max current =>
      exact tagged 4 3 (min, max, current) (within_byte.pair (within_byte.pair within_byte) _) (by omega)
  | keyboardBacklight level => exact tagged 5 2 level (within_keyboardBacklight _) (by omega)
  | powerLimit profile => exact tagged 6 1 profile (within_powerProfile _) (by omega)
  | daemonResponse response => exact tagged 7 25 response (within_daemonResponse _) (by omega)
  | telemetryDisabledInfo => exact tagged 8 0 () (Nat.zero_le _) (by omega)
  | error message =>
      have short := length_text ⟨message, writable⟩ (brief message List.mem_cons_self)
      exact tagged 9 _ ⟨message, writable⟩ short (by omega)

end Lecoo.Ipc.Bincode
