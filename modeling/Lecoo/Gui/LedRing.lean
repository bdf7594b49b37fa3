import Lecoo.Data.Json
import Lecoo.Effects.Machine
import Lecoo.Ipc.Structs

namespace Lecoo.Gui

open Lecoo.Data Lecoo.Effects Lecoo.Ipc

/-! # The LED page

A breathing effect is described on the page, in the arguments of the backend's
command and in the protocol, each time in names of its own.
-/

namespace Led

inductive Brightness where
  | max25Percent
  | max50Percent
  | max75Percent
  | max100Percent
deriving Repr, DecidableEq

inductive Step where
  | slow
  | medium
  | fast
  | instant
deriving Repr, DecidableEq

inductive Delay where
  | ms15
  | ms125
  | ms250
  | sec0_5
  | sec1
  | sec2
  | sec4
deriving Repr, DecidableEq

/-- The values of the three unions are strings. -/
def Brightness.text : Brightness → String
  | .max25Percent => "Max25Percent"
  | .max50Percent => "Max50Percent"
  | .max75Percent => "Max75Percent"
  | .max100Percent => "Max100Percent"

def Step.text : Step → String
  | .slow => "Slow"
  | .medium => "Medium"
  | .fast => "Fast"
  | .instant => "Instant"

def Delay.text : Delay → String
  | .ms15 => "Ms15"
  | .ms125 => "Ms125"
  | .ms250 => "Ms250"
  | .sec0_5 => "Sec0_5"
  | .sec1 => "Sec1"
  | .sec2 => "Sec2"
  | .sec4 => "Sec4"

structure BreathConfig where
  maxBrightness : Brightness
  stepUp : Step
  stepDown : Step
  delayAtMax : Delay
  delayAtMin : Delay
deriving Repr, DecidableEq

/-- The object the page holds and sends, with the field names of its interface. -/
def BreathConfig.toJson (config : BreathConfig) : Json :=
  .object [
    ("max_brightness", .string config.maxBrightness.text),
    ("step_up", .string config.stepUp.text),
    ("step_down", .string config.stepDown.text),
    ("delay_at_max", .string config.delayAtMax.text),
    ("delay_at_min", .string config.delayAtMin.text)]

inductive PresetName where
  | smooth
  | sleep
  | alert
  | zen
  | ping
  | energetic
  | warning
  | vacuum
  | panic
  | sonar
  | toxic
deriving Repr, DecidableEq

def presets : PresetName → BreathConfig
  | .smooth => ⟨.max75Percent, .medium, .medium, .ms250, .ms250⟩
  | .sleep => ⟨.max25Percent, .slow, .slow, .sec0_5, .sec1⟩
  | .alert => ⟨.max75Percent, .instant, .instant, .ms125, .ms125⟩
  | .zen => ⟨.max50Percent, .slow, .slow, .sec1, .sec1⟩
  | .ping => ⟨.max100Percent, .instant, .slow, .ms15, .sec0_5⟩
  | .energetic => ⟨.max100Percent, .fast, .medium, .ms125, .ms125⟩
  | .warning => ⟨.max100Percent, .fast, .fast, .ms15, .ms15⟩
  | .vacuum => ⟨.max75Percent, .slow, .instant, .sec1, .ms250⟩
  | .panic => ⟨.max100Percent, .instant, .instant, .ms15, .ms15⟩
  | .sonar => ⟨.max25Percent, .fast, .slow, .sec0_5, .sec2⟩
  | .toxic => ⟨.max50Percent, .fast, .slow, .ms250, .sec1⟩

inductive Mode where
  | auto
  | static
  | animation
deriving Repr, DecidableEq

end Led

inductive BreathBrightnessArg where
  | max25Percent
  | max50Percent
  | max75Percent
  | max100Percent
deriving Repr, DecidableEq

inductive BreathStepArg where
  | slow
  | medium
  | fast
  | instant
deriving Repr, DecidableEq

inductive BreathDelayArg where
  | ms15
  | ms125
  | ms250
  | sec0_5
  | sec1
  | sec2
  | sec4
deriving Repr, DecidableEq

/-- `#[serde(rename_all = "PascalCase")]`, as for the other two. -/
def BreathBrightnessArg.deserialize : Json → Except DeserializeError BreathBrightnessArg :=
  readUnit .pascalCase [
    ("Max25Percent", .max25Percent),
    ("Max50Percent", .max50Percent),
    ("Max75Percent", .max75Percent),
    ("Max100Percent", .max100Percent)]

def BreathStepArg.deserialize : Json → Except DeserializeError BreathStepArg :=
  readUnit .pascalCase [
    ("Slow", .slow),
    ("Medium", .medium),
    ("Fast", .fast),
    ("Instant", .instant)]

def BreathDelayArg.deserialize : Json → Except DeserializeError BreathDelayArg :=
  readUnit .pascalCase [
    ("Ms15", .ms15),
    ("Ms125", .ms125),
    ("Ms250", .ms250),
    ("Sec0_5", .sec0_5),
    ("Sec1", .sec1),
    ("Sec2", .sec2),
    ("Sec4", .sec4)]

structure BreathConfigArg where
  maxBrightness : BreathBrightnessArg
  stepUp : BreathStepArg
  stepDown : BreathStepArg
  delayAtMax : BreathDelayArg
  delayAtMin : BreathDelayArg
deriving Repr, DecidableEq

/-- `#[serde(rename_all = "camelCase")]` -/
def BreathConfigArg.deserialize : Json → Except DeserializeError BreathConfigArg :=
  let rule := RenameRule.camelCase
  let names := ["max_brightness", "step_up", "step_down", "delay_at_max", "delay_at_min"]
  readStruct (names.map rule.field) fun fields => do
    let maxBrightness ← required (rule.field "max_brightness") BreathBrightnessArg.deserialize fields
    let stepUp ← required (rule.field "step_up") BreathStepArg.deserialize fields
    let stepDown ← required (rule.field "step_down") BreathStepArg.deserialize fields
    let delayAtMax ← required (rule.field "delay_at_max") BreathDelayArg.deserialize fields
    let delayAtMin ← required (rule.field "delay_at_min") BreathDelayArg.deserialize fields
    return { maxBrightness, stepUp, stepDown, delayAtMax, delayAtMin }

inductive PowerLedModeArg where
  | auto
  | custom (value : UInt8)
  | animation (config : BreathConfigArg)
deriving Repr, DecidableEq

/-- `#[serde(tag = "kind", rename_all = "camelCase")]` -/
def powerLedModeEnum : TaggedEnum where
  tag := "kind"
  renameAll := .camelCase
  renameAllFields := .none

def PowerLedModeArg.deserialize : Json → Except DeserializeError PowerLedModeArg :=
  let rule := powerLedModeEnum.renameAllFields
  powerLedModeEnum.read [
    ("Auto", ⟨[], fun _ => .ok .auto⟩),
    ("Custom", ⟨[rule.field "value"], fun fields => do
      let value ← required (rule.field "value") readU8 fields
      return .custom value⟩),
    ("Animation", ⟨[rule.field "config"], fun fields => do
      let config ← required (rule.field "config") BreathConfigArg.deserialize fields
      return .animation config⟩)]

def BreathBrightnessArg.into : BreathBrightnessArg → BreathBrightness
  | .max25Percent => .max25Percent
  | .max50Percent => .max50Percent
  | .max75Percent => .max75Percent
  | .max100Percent => .max100Percent

def BreathStepArg.into : BreathStepArg → BreathStep
  | .slow => .slow
  | .medium => .medium
  | .fast => .fast
  | .instant => .instant

def BreathDelayArg.into : BreathDelayArg → BreathDelay
  | .ms15 => .ms15
  | .ms125 => .ms125
  | .ms250 => .ms250
  | .sec0_5 => .sec0_5
  | .sec1 => .sec1
  | .sec2 => .sec2
  | .sec4 => .sec4

def BreathConfigArg.into (config : BreathConfigArg) : BreathConfig where
  maxBrightness := config.maxBrightness.into
  stepUp := config.stepUp.into
  stepDown := config.stepDown.into
  delayAtMax := config.delayAtMax.into
  delayAtMin := config.delayAtMin.into

def PowerLedModeArg.into : PowerLedModeArg → PowerLedMode
  | .auto => .auto
  | .custom value => .custom value
  | .animation config => .animation config.into

/-- Why an invocation is rejected: its arguments could not be read, or the command failed. -/
inductive Rejection where
  | invalidArgs (error : DeserializeError)
  | failed (message : String)
deriving Repr, DecidableEq

/-- What a setter makes of the reply of the daemon, or of the failure to get one; `debug`
prints a response. -/
def sendOne (debug : IpcResponse → String) : Except String IpcResponse → Except String Unit
  | .error message => .error message
  | .ok .success => .ok ()
  | .ok (.error message) => .error message
  | .ok other => .error ("unexpected response: " ++ debug other)

/-- A daemon that accepts every well-formed request for an LED mode, by the mode it is in. -/
def acceptingDaemon : IpcRequest → PowerLedMode → IpcResponse × PowerLedMode
  | .setLedMode mode, _ => (.success, mode)
  | _, ledMode => (.success, ledMode)

/-- An invocation of `set_led_mode` with the argument `mode`, and the daemon behind it. -/
def setLedMode (debug : IpcResponse → String) (mode : Json) (daemon : PowerLedMode) :
    Except Rejection Unit × PowerLedMode :=
  match PowerLedModeArg.deserialize mode with
  | .error error => (.error (.invalidArgs error), daemon)
  | .ok arg =>
      let (response, daemon) := acceptingDaemon (.setLedMode arg.into) daemon
      match sendOne debug (.ok response) with
      | .ok () => (.ok (), daemon)
      | .error message => (.error (.failed message), daemon)

namespace Led

structure Page where
  mode : Mode
  staticValue : Nat
  config : BreathConfig
  err : Option Rejection
deriving Repr, DecidableEq

def Page.initial : Page where
  mode := .auto
  staticValue := 128
  config := presets .smooth
  err := none

def autoArgument : Json := .object [("kind", .string "auto")]

def customArgument (value : Nat) : Json :=
  .object [("kind", .string "custom"), ("value", .number value)]

def animationArgument (config : BreathConfig) : Json :=
  .object [("kind", .string "animation"), ("config", config.toJson)]

def applyMode (page : Page) (m : Mode) : Page × Option Json :=
  let argument :=
    match m with
    | .auto => autoArgument
    | .static => customArgument page.staticValue
    | .animation => animationArgument page.config
  ({ page with err := none, mode := m }, some argument)

def commitStatic (page : Page) (value : Nat) : Page × Option Json :=
  if page.mode ≠ .static then (page, none)
  else ({ page with err := none }, some (customArgument value))

def commitConfig (page : Page) (next : BreathConfig) : Page × Option Json :=
  if page.mode ≠ .animation then ({ page with config := next }, none)
  else ({ page with config := next, err := none }, some (animationArgument next))

def applyPreset (page : Page) (name : PresetName) : Page × Option Json :=
  let (committed, argument) := commitConfig page (presets name)
  if page.mode ≠ .animation then ({ committed with mode := .animation }, argument)
  else (committed, argument)

/-- A choice in one row of the builder. -/
inductive Edit where
  | maxBrightness (value : Brightness)
  | stepUp (value : Step)
  | stepDown (value : Step)
  | delayAtMax (value : Delay)
  | delayAtMin (value : Delay)
deriving Repr, DecidableEq

def Edit.apply (config : BreathConfig) : Edit → BreathConfig
  | .maxBrightness value => { config with maxBrightness := value }
  | .stepUp value => { config with stepUp := value }
  | .stepDown value => { config with stepDown := value }
  | .delayAtMax value => { config with delayAtMax := value }
  | .delayAtMin value => { config with delayAtMin := value }

/-- What a user does: pick a mode, move the slider, let go of it, choose in the builder,
pick a preset. -/
inductive Action where
  | pickMode (m : Mode)
  | slide (value : Nat)
  | release
  | choose (edit : Edit)
  | pickPreset (name : PresetName)
deriving Repr, DecidableEq

/-- The control is on the screen; the slider goes from 0 to 255. -/
def Available (page : Page) : Action → Prop
  | .pickMode _ => True
  | .slide value => page.mode = .static ∧ value ≤ 255
  | .release => page.mode = .static
  | .choose _ => page.mode = .animation
  | .pickPreset _ => page.mode = .animation

instance (page : Page) : DecidablePred (Available page) := by
  intro action
  cases action <;> unfold Available <;> infer_instance

def handle (page : Page) : Action → Page × Option Json
  | .pickMode m => applyMode page m
  | .slide value => ({ page with staticValue := value }, none)
  | .release => commitStatic page page.staticValue
  | .choose edit => commitConfig page (edit.apply page.config)
  | .pickPreset name => applyPreset page name

/-- The page, and the mode the daemon is in. -/
structure System where
  page : Page
  daemon : PowerLedMode
deriving Repr, DecidableEq

variable (debug : IpcResponse → String)

/-- The answer of the command, which is waited for. -/
def answered (page : Page) (daemon : PowerLedMode) : Option Json → System
  | none => { page, daemon }
  | some argument =>
      match setLedMode debug argument daemon with
      | (.ok (), daemon) => { page, daemon }
      | (.error rejection, daemon) => { page := { page with err := some rejection }, daemon }

/-- One action of the user, from an idle page to the next one. -/
def act : Machine System Action := fun system action =>
  if Available system.page action then
    let (page, argument) := handle system.page action
    some (answered debug page system.daemon argument)
  else none

def Brightness.meant : Brightness → BreathBrightness
  | .max25Percent => .max25Percent
  | .max50Percent => .max50Percent
  | .max75Percent => .max75Percent
  | .max100Percent => .max100Percent

def Step.meant : Step → BreathStep
  | .slow => .slow
  | .medium => .medium
  | .fast => .fast
  | .instant => .instant

def Delay.meant : Delay → BreathDelay
  | .ms15 => .ms15
  | .ms125 => .ms125
  | .ms250 => .ms250
  | .sec0_5 => .sec0_5
  | .sec1 => .sec1
  | .sec2 => .sec2
  | .sec4 => .sec4

/-- The breathing effect of the protocol with the same five parameters. -/
def BreathConfig.meant (config : BreathConfig) : Ipc.BreathConfig where
  maxBrightness := config.maxBrightness.meant
  stepUp := config.stepUp.meant
  stepDown := config.stepDown.meant
  delayAtMax := config.delayAtMax.meant
  delayAtMin := config.delayAtMin.meant

/-- The page displays the mode the daemon is in, with its value or its parameters. -/
def Page.Displays (page : Page) (ledMode : PowerLedMode) : Prop :=
  match page.mode with
  | .auto => ledMode = .auto
  | .static => ∃ value : UInt8, ledMode = .custom value ∧ value.toNat = page.staticValue
  | .animation => ledMode = .animation page.config.meant

/-- What an action sends is accepted, and afterwards no error is shown and the page
displays the mode of the daemon. -/
def Agrees (system : System) (action : Action) : Prop :=
  ∀ argument, (handle system.page action).2 = some argument →
    (∃ arg, PowerLedModeArg.deserialize argument = .ok arg) ∧
    ∀ next, act debug system action = some next →
      next.page.err = none ∧ next.page.Displays next.daemon

theorem deserialize_auto : PowerLedModeArg.deserialize autoArgument = .ok .auto := rfl

theorem deserialize_custom {value : Nat} (fits : value ≤ 255) :
    PowerLedModeArg.deserialize (customArgument value) = .ok (.custom (UInt8.ofNat value)) := by
  have read : readU8 (.number value) = .ok (UInt8.ofNat value) := readU8_number (by omega)
  unfold PowerLedModeArg.deserialize customArgument
  rw [TaggedEnum.read_object (.string "custom") rfl rfl]
  change (do let value ← readU8 (.number value); return PowerLedModeArg.custom value) = _
  rw [read]
  rfl

/-- The backend asks for `maxBrightness`, whatever the effect. -/
theorem deserialize_animation (config : BreathConfig) :
    PowerLedModeArg.deserialize (animationArgument config) =
      .error (.missingField "maxBrightness") := rfl

variable {debug} {system : System} {action : Action}

theorem act_some {next : System} (step : act debug system action = some next) :
    Available system.page action ∧
      next = answered debug (handle system.page action).1 system.daemon
        (handle system.page action).2 := by
  unfold act at step
  split at step
  · rename_i available
    exact ⟨available, (Option.some.inj step).symm⟩
  · cases step

theorem answered_ok {page : Page} {daemon : PowerLedMode} {argument : Json}
    {arg : PowerLedModeArg} (read : PowerLedModeArg.deserialize argument = .ok arg) :
    answered debug page daemon (some argument) = { page, daemon := arg.into } := by
  simp only [answered, setLedMode, read]
  rfl

/-- What holds as long as the page has not been switched to animations. -/
def Still (system : System) : Prop :=
  system.page.mode ≠ .animation ∧ system.page.staticValue ≤ 255

/-- An accepted argument settles the question for the action that sent it. -/
theorem agrees_of_read {page : Page} {argument : Json} {arg : PowerLedModeArg}
    (handled : handle system.page action = (page, some argument))
    (read : PowerLedModeArg.deserialize argument = .ok arg) (clear : page.err = none)
    (displays : page.Displays arg.into) :
    Agrees debug system action := by
  intro argument' sent
  rw [handled] at sent
  cases sent
  refine ⟨⟨arg, read⟩, ?_⟩
  intro next step
  obtain ⟨_, after⟩ := act_some step
  rw [after, handled, answered_ok read]
  exact ⟨clear, displays⟩

theorem displays_custom {page : Page} (static : page.mode = .static) {value : Nat}
    (shown : page.staticValue = value) (fits : value ≤ 255) :
    page.Displays (.custom (UInt8.ofNat value)) := by
  unfold Page.Displays
  rw [static]
  refine ⟨_, rfl, ?_⟩
  rw [shown, UInt8.toNat_ofNat']
  omega

/-- Every action but the switch to animations does what it should. -/
theorem agrees_of_still (still : Still system) (available : Available system.page action)
    (other : action ≠ .pickMode .animation) :
    Agrees debug system action := by
  obtain ⟨quiet, fits⟩ := still
  cases action with
  | pickMode m =>
      cases m with
      | auto => exact agrees_of_read rfl deserialize_auto rfl rfl
      | static =>
          exact agrees_of_read rfl (deserialize_custom fits) rfl (displays_custom rfl rfl fits)
      | animation => exact absurd rfl other
  | slide value =>
      intro argument sent
      cases sent
  | release =>
      have static : system.page.mode = .static := available
      have handled : handle system.page .release =
          ({ system.page with err := none }, some (customArgument system.page.staticValue)) := by
        simp [handle, commitStatic, static]
      exact agrees_of_read handled (deserialize_custom fits) rfl (displays_custom static rfl fits)
  | choose edit => exact absurd available quiet
  | pickPreset name => exact absurd available quiet

theorem not_agrees_animation : ¬ Agrees debug system (.pickMode .animation) := by
  intro agrees
  obtain ⟨⟨arg, read⟩, _⟩ := agrees _ rfl
  rw [deserialize_animation] at read
  cases read

theorem answered_mode (debug : IpcResponse → String) (page : Page) (daemon : PowerLedMode)
    (argument : Option Json) :
    (answered debug page daemon argument).page.mode = page.mode ∧
      (answered debug page daemon argument).page.staticValue = page.staticValue := by
  unfold answered
  split
  · exact ⟨rfl, rfl⟩
  · split <;> exact ⟨rfl, rfl⟩

theorem still_of_act {next : System} (still : Still system) (other : action ≠ .pickMode .animation)
    (step : act debug system action = some next) :
    Still next := by
  obtain ⟨quiet, fits⟩ := still
  obtain ⟨available, after⟩ := act_some step
  obtain ⟨mode, value⟩ := answered_mode debug (handle system.page action).1
    system.daemon (handle system.page action).2
  rw [Still, after, mode, value]
  cases action with
  | pickMode m =>
      refine ⟨fun isAnimation => other ?_, fits⟩
      rw [← isAnimation]
      rfl
  | slide value => exact ⟨quiet, available.2⟩
  | release =>
      have static : system.page.mode = .static := available
      simp [handle, commitStatic, static, fits]
  | choose edit => exact absurd available quiet
  | pickPreset name => exact absurd available quiet

/-- Page and daemon agree throughout exactly when nobody switches to animations. -/
theorem ledPage_agrees_iff {daemon : PowerLedMode} {actions : List Action} {after : System}
    (ran : Machine.Run (act debug) ⟨.initial, daemon⟩ actions after) :
    Machine.Guarded (act debug) (Agrees debug) ⟨.initial, daemon⟩ actions after ↔
      ∀ action ∈ actions, action ≠ .pickMode .animation := by
  rw [← Machine.guarded_label_iff ran]
  have initial : Still ⟨.initial, daemon⟩ :=
    ⟨(by decide : Page.initial.mode ≠ .animation), (by decide : Page.initial.staticValue ≤ 255)⟩
  refine Machine.guarded_iff Still ran ?_ still_of_act initial
  intro system action next still step
  constructor
  · intro agrees switched
    rw [switched] at agrees
    exact not_agrees_animation agrees
  · intro other
    exact agrees_of_still still (act_some step).1 other

/-- A mode is picked, the slider moved and released. -/
theorem ledPage_agrees_iff_slider :
    ∃ after, Machine.Guarded (act fun _ => "") (Agrees fun _ => "") ⟨.initial, .auto⟩
        [.pickMode .static, .slide 200, .release, .pickMode .auto, .pickMode .static] after ∧
      after.daemon = .custom 200 :=
  ⟨_, (ledPage_agrees_iff (Machine.run_of_replay rfl)).mpr (by decide), rfl⟩

/-- The first switch to animations ends with an error on the page and a daemon that has
not been asked. -/
theorem animation_not_accepted :
    ∃ after, Machine.Run (act fun _ => "") ⟨.initial, .auto⟩ [.pickMode .animation] after ∧
      ¬ Machine.Guarded (act fun _ => "") (Agrees fun _ => "") ⟨.initial, .auto⟩
        [.pickMode .animation] after ∧
      after.page.mode = .animation ∧
      after.page.err = some (.invalidArgs (.missingField "maxBrightness")) ∧
      after.daemon = .auto := by
  refine ⟨_, Machine.run_of_replay rfl, ?_, rfl, rfl, rfl⟩
  intro guarded
  cases guarded with
  | cons agrees _ _ => exact not_agrees_animation agrees

end Led

end Lecoo.Gui
