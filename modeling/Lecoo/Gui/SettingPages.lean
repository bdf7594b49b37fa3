import Lecoo.Daemon.EndToEnd
import Lecoo.Gui.LedRing

namespace Lecoo.Gui

open Lecoo.Data Lecoo.Effects Lecoo.Ipc Lecoo.Ec Lecoo.Daemon

/-! # The pages and the settings of the daemon

The pages for the power profile, the fans and the keyboard never ask what is in
force.  Each shows what was chosen on it, and sends the choice to the daemon over
a connection of its own.
-/

inductive PowerProfileArg where
  | silent
  | default
  | performance
deriving Repr, DecidableEq

inductive FanArg where
  | cpu
  | gpu
deriving Repr, DecidableEq

inductive FanModeArg where
  | auto
  | full
  | custom (pwm : UInt8)
deriving Repr, DecidableEq

inductive KeyboardBacklightArg where
  | off
  | low
  | medium
  | high
  | custom (value : UInt8)
deriving Repr, DecidableEq

/-- `#[serde(rename_all = "PascalCase")]`, as for the fan. -/
def PowerProfileArg.deserialize : Json → Except DeserializeError PowerProfileArg :=
  readUnit .pascalCase [
    ("Silent", .silent),
    ("Default", .default),
    ("Performance", .performance)]

def FanArg.deserialize : Json → Except DeserializeError FanArg :=
  readUnit .pascalCase [
    ("Cpu", .cpu),
    ("Gpu", .gpu)]

/-- `#[serde(tag = "kind", rename_all = "camelCase")]`, as for the keyboard. -/
def settingEnum : TaggedEnum where
  tag := "kind"
  renameAll := .camelCase
  renameAllFields := .none

def FanModeArg.deserialize : Json → Except DeserializeError FanModeArg :=
  let rule := settingEnum.renameAllFields
  settingEnum.read [
    ("Auto", ⟨[], fun _ => .ok .auto⟩),
    ("Full", ⟨[], fun _ => .ok .full⟩),
    ("Custom", ⟨[rule.field "pwm"], fun fields => do
      let pwm ← required (rule.field "pwm") readU8 fields
      return .custom pwm⟩)]

def KeyboardBacklightArg.deserialize : Json → Except DeserializeError KeyboardBacklightArg :=
  let rule := settingEnum.renameAllFields
  settingEnum.read [
    ("Off", ⟨[], fun _ => .ok .off⟩),
    ("Low", ⟨[], fun _ => .ok .low⟩),
    ("Medium", ⟨[], fun _ => .ok .medium⟩),
    ("High", ⟨[], fun _ => .ok .high⟩),
    ("Custom", ⟨[rule.field "value"], fun fields => do
      let value ← required (rule.field "value") readU8 fields
      return .custom value⟩)]

def PowerProfileArg.into : PowerProfileArg → PowerProfile
  | .silent => .silent
  | .default => .default
  | .performance => .performance

def FanArg.into : FanArg → FanIndex
  | .cpu => .cpu
  | .gpu => .gpu

def FanModeArg.into : FanModeArg → FanMode
  | .auto => .auto
  | .full => .full
  | .custom pwm => .custom pwm

def KeyboardBacklightArg.into : KeyboardBacklightArg → KeyboardBacklightLevel
  | .off => .off
  | .low => .low
  | .medium => .medium
  | .high => .high
  | .custom value => .custom value

/-- The commands the pages invoke, with their arguments. -/
inductive Invocation where
  | setPowerProfile (profile : Json)
  | setFanMode (fan mode : Json)
  | setKeyboardBacklight (level : Json)

def Invocation.request : Invocation → Except DeserializeError IpcRequest
  | .setPowerProfile profile => do
      let profile ← PowerProfileArg.deserialize profile
      return .setPowerProfile profile.into
  | .setFanMode fan mode => do
      let fan ← FanArg.deserialize fan
      let mode ← FanModeArg.deserialize mode
      return .setFanMode fan.into mode.into
  | .setKeyboardBacklight level => do
      let level ← KeyboardBacklightArg.deserialize level
      return .setKeyboardBacklight level.into

namespace Pages

inductive Profile where
  | silent
  | default
  | performance
deriving Repr, DecidableEq

inductive FanMode where
  | auto
  | full
deriving Repr, DecidableEq

inductive Preset where
  | off
  | low
  | medium
  | high
deriving Repr, DecidableEq

def Profile.text : Profile → String
  | .silent => "Silent"
  | .default => "Default"
  | .performance => "Performance"

def fanText : FanIndex → String
  | .cpu => "Cpu"
  | .gpu => "Gpu"

def Preset.kind : Preset → String
  | .off => "off"
  | .low => "low"
  | .medium => "medium"
  | .high => "high"

def presetLevels : Preset → Nat
  | .off => 0
  | .low => 85
  | .medium => 170
  | .high => 255

structure Power where
  current : Profile
  busy : Bool
  err : Option Rejection
deriving Repr, DecidableEq

structure Fans where
  cpuMode : FanMode
  gpuMode : FanMode
  /-- With the fan it is about. -/
  err : Option (FanIndex × Rejection)
deriving Repr, DecidableEq

/-- The slider goes from 0 to 255. -/
structure Keyboard where
  preset : Option Preset
  custom : Nat
  err : Option Rejection
  ranged : custom ≤ 255
deriving Repr, DecidableEq

end Pages

inductive Page where
  | power (page : Pages.Power)
  | fans (page : Pages.Fans)
  | keyboard (page : Pages.Keyboard)
deriving Repr, DecidableEq

inductive PageKind where
  | power
  | fans
  | keyboard
deriving Repr, DecidableEq

def PageKind.initial : PageKind → Page
  | .power => .power { current := .default, busy := false, err := none }
  | .fans => .fans { cpuMode := .auto, gpuMode := .auto, err := none }
  | .keyboard => .keyboard {
      preset := some .medium, custom := 170, err := none, ranged := by decide }

/-- A choice on a page; the custom level is what the slider was left at. -/
inductive PageAction where
  | apply (p : Pages.Profile)
  | applyMode (fan : FanIndex) (m : Pages.FanMode)
  | applyPreset (p : Pages.Preset)
  | commitCustom
deriving Repr, DecidableEq

/-- The settings the pages have a control for. -/
inductive Control where
  | profile
  | fan (fan : FanIndex)
  | keyboard
deriving Repr, DecidableEq

def PageAction.control : PageAction → Control
  | .apply _ => .profile
  | .applyMode fan _ => .fan fan
  | .applyPreset _ | .commitCustom => .keyboard

namespace Page

open Pages

/-- The handler of a choice up to its command, if it comes to one: a choice that is
already shown, or not on the page, is ignored. -/
def handle : Page → PageAction → Option (Page × Invocation)
  | .power page, .apply p =>
      if page.busy || p = page.current then none
      else some (.power { page with busy := true, err := none }, .setPowerProfile (.string p.text))
  | .fans page, .applyMode fan m =>
      let shown : Fans :=
        match fan with
        | .cpu => { page with err := none, cpuMode := m }
        | .gpu => { page with err := none, gpuMode := m }
      let kind :=
        match m with
        | .full => "full"
        | .auto => "auto"
      some (.fans shown,
        .setFanMode (.string (fanText fan)) (.object [("kind", .string kind)]))
  | .keyboard page, .applyPreset p =>
      some (.keyboard { page with
          err := none, preset := some p, custom := presetLevels p
          ranged := by cases p <;> decide },
        .setKeyboardBacklight (.object [("kind", .string p.kind)]))
  | .keyboard page, .commitCustom =>
      some (.keyboard { page with err := none, preset := none },
        .setKeyboardBacklight (.object
          [("kind", .string "custom"), ("value", .number page.custom)]))
  | _, _ => none

/-- The handler once the command has returned. -/
def settled : Page → PageAction → Except Rejection Unit → Page
  | .power page, .apply p, .ok _ => .power { page with current := p, busy := false }
  | .power page, .apply _, .error e => .power { page with err := some e, busy := false }
  | .fans page, .applyMode fan _, .error e => .fans { page with err := some (fan, e) }
  | .keyboard page, _, .error e => .keyboard { page with err := some e }
  | page, _, _ => page

def err : Page → Option Rejection
  | .power page => page.err
  | .fans page => page.err.map Prod.snd
  | .keyboard page => page.err

end Page

namespace Pages

def Profile.meant : Profile → PowerProfile
  | .silent => .silent
  | .default => .default
  | .performance => .performance

def FanMode.meant : FanMode → Ipc.FanMode
  | .auto => .auto
  | .full => .full

def Preset.meant : Preset → KeyboardBacklightLevel
  | .off => .off
  | .low => .low
  | .medium => .medium
  | .high => .high

/-- A preset that is selected, else the number of the slider, beside which the row of
presets falls back to `Off`. -/
def Keyboard.meant (page : Keyboard) : KeyboardBacklightLevel :=
  (page.preset.map Preset.meant).getD (.custom (UInt8.ofNat page.custom))

end Pages

/-- The page shows the setting of a control as it is. -/
def Page.Shows : Page → Control → CurrentSettings → Prop
  | .power page, .profile, settings => settings.powerProfile = page.current.meant
  | .fans page, .fan .cpu, settings => settings.fanModeCpu = page.cpuMode.meant
  | .fans page, .fan .gpu, settings => settings.fanModeGpu = page.gpuMode.meant
  | .keyboard page, .keyboard, settings => settings.keyboardBacklight = page.meant
  | _, _, _ => False

def PageAction.setter (page : Page) : PageAction → Setter
  | .apply p => .powerProfile p.meant
  | .applyMode fan m => .fanMode fan m.meant
  | .applyPreset p => .keyboardBacklight p.meant
  | .commitCustom =>
      match page with
      | .keyboard page => .keyboardBacklight (.custom (UInt8.ofNat page.custom))
      | _ => .keyboardBacklight .off

def settingControl : Setter → Option Control
  | .powerProfile _ => some .profile
  | .fanMode fan _ => some (.fan fan)
  | .keyboardBacklight _ => some .keyboard
  | _ => none

theorem Page.Shows.record {page : Page} {control : Control} {settings : CurrentSettings}
    {setter : Setter} (other : settingControl setter ≠ some control)
    (shows : page.Shows control settings) : page.Shows control (Daemon.record setter settings) := by
  cases page with
  | power page =>
      cases control with
      | profile =>
          cases setter with
          | powerProfile => exact absurd rfl other
          | fanMode fan => cases fan <;> exact shows
          | _ => exact shows
      | _ => exact shows.elim
  | fans page =>
      cases control with
      | fan shown =>
          cases setter with
          | fanMode fan =>
              cases fan <;> cases shown <;> first | exact absurd rfl other | exact shows
          | _ => cases shown <;> exact shows
      | _ => exact shows.elim
  | keyboard page =>
      cases control with
      | keyboard =>
          cases setter with
          | keyboardBacklight => exact absurd rfl other
          | fanMode fan => cases fan <;> exact shows
          | _ => exact shows
      | _ => exact shows.elim

section Handling

variable {page next : Page} {action : PageAction} {invocation : Invocation}

theorem setter_control (page : Page) (action : PageAction) :
    settingControl (action.setter page) = some action.control := by
  cases action with
  | commitCustom => cases page <;> rfl
  | _ => rfl

theorem setter_valid (page : Page) (action : PageAction) : (action.setter page).Valid := by
  cases action with
  | applyMode fan m => cases m <;> trivial
  | commitCustom => cases page <;> trivial
  | _ => trivial

theorem deserialize_level {value : Nat} (fits : value ≤ 255) :
    KeyboardBacklightArg.deserialize
        (.object [("kind", .string "custom"), ("value", .number value)]) =
      .ok (.custom (UInt8.ofNat value)) := by
  have read : readU8 (.number value) = .ok (UInt8.ofNat value) := readU8_number (by omega)
  unfold KeyboardBacklightArg.deserialize
  rw [TaggedEnum.read_object (.string "custom") rfl rfl]
  change (do let value ← readU8 (.number value); return KeyboardBacklightArg.custom value) = _
  rw [read]
  rfl

theorem handle_requests (handled : page.handle action = some (next, invocation)) :
    ∃ request, invocation.request = .ok request ∧
      requestSetter request = some (action.setter page) := by
  cases page with
  | power page =>
      cases action with
      | apply p =>
          simp only [Page.handle] at handled
          split at handled
          · cases handled
          · cases handled
            cases p <;> exact ⟨_, rfl, rfl⟩
      | _ => cases handled
  | fans page =>
      cases action with
      | applyMode fan m =>
          cases handled
          cases fan <;> cases m <;> exact ⟨_, rfl, rfl⟩
      | _ => cases handled
  | keyboard page =>
      cases action with
      | applyPreset p =>
          cases handled
          cases p <;> exact ⟨_, rfl, rfl⟩
      | commitCustom =>
          cases handled
          refine ⟨.setKeyboardBacklight (.custom (UInt8.ofNat page.custom)), ?_, rfl⟩
          simp only [Invocation.request, deserialize_level page.ranged]
          rfl
      | _ => cases handled

theorem settled_shows (handled : page.handle action = some (next, invocation))
    (settings : CurrentSettings) :
    (next.settled action (.ok ())).Shows action.control (record (action.setter page) settings) := by
  cases page with
  | power page =>
      cases action with
      | apply p =>
          simp only [Page.handle] at handled
          split at handled
          · cases handled
          · cases handled
            rfl
      | _ => cases handled
  | fans page =>
      cases action with
      | applyMode fan m =>
          cases handled
          cases fan <;> rfl
      | _ => cases handled
  | keyboard page =>
      cases action with
      | applyPreset p | commitCustom =>
          cases handled
          rfl
      | _ => cases handled

theorem settled_frame (handled : page.handle action = some (next, invocation))
    (result : Except Rejection Unit) {control : Control} (other : control ≠ action.control)
    {settings : CurrentSettings} (shows : page.Shows control settings) :
    (next.settled action result).Shows control settings := by
  cases page with
  | power page =>
      cases control with
      | profile =>
          cases action with
          | apply p => exact absurd rfl other
          | _ => cases handled
      | _ => exact shows.elim
  | fans page =>
      cases action with
      | applyMode fan m =>
          cases handled
          cases control with
          | fan shown =>
              cases fan <;> cases shown <;> cases result <;>
                first | exact absurd rfl other | exact shows
          | _ => exact shows.elim
      | _ => cases handled
  | keyboard page =>
      cases control with
      | keyboard =>
          cases action with
          | applyPreset | commitCustom => exact absurd rfl other
          | _ => cases handled
      | _ => exact shows.elim

end Handling

/-- `send_one` once it is connected: one request, whose response decides. -/
def sendRequest (debug : IpcResponse → String) (request : IpcRequest) (_ : UInt8 × UInt8) :
    Script (Except String Unit) :=
  .perform request fun response => .done (sendOne debug (.ok response))

/-- What a command returns when its client has come to its end: the context says
where a connection failed. -/
def Returns (outcome : Except IoError (Except String Unit))
    (result : Except Rejection Unit) : Prop :=
  match outcome with
  | .ok answered => result = answered.mapError .failed
  | .error _ => result = .error (.failed "daemon not reachable") ∨
      result = .error (.failed "ipc request failed")

section Sessions

variable (debug : IpcResponse → String) (codec : SettingsCodec) (ec : EcDevice)
  (connection service : Daemon.ThreadId) (client server : Version)

/-- A command that was invoked and returned, with the transport and the daemon as they like.
What a connection that broke has left on the wire is executed before the next command is
invoked, or not at all. -/
def Invoked (request : IpcRequest) (before : World) (result : Except Rejection Unit)
    (after : World) : Prop :=
  ∃ turns moves reached outcome,
    (session (wholeDaemon ec codec connection service)).Run
      (dialled client server requestCodec responseCodec (sendRequest debug request) turns before)
      moves reached ∧
    reached.left.todo = .done outcome ∧ Returns outcome result ∧ reached.right.now.2.1 = after

variable {debug codec ec connection service client server}
variable {detection : Detection} {store : Store} {before after : World} {request : IpcRequest}
  {setter : Setter}

theorem serve_setter (sets : requestSetter request = some setter) (hramOffset : UInt16)
    (measured : Measured) (store : Store) :
    store.serve hramOffset measured request = store.request setter := by
  cases request with
  | setPowerProfile | setFanMode | setKeyboardBacklight | setChargeLimit | setLedMode =>
      cases sets
      rfl
  | _ => cases sets

theorem effect_setter (sets : requestSetter request = some setter) (valid : setter.Valid)
    (clock : UInt64) (settings : CurrentSettings) :
    effect clock settings request = record setter settings := by
  cases request with
  | setPowerProfile | setFanMode | setKeyboardBacklight | setChargeLimit | setLedMode =>
      cases sets
      simp only [effect, requestSetter, if_pos valid]
  | _ => cases sets

/-- At most the one request was executed. -/
theorem sendRequest_plays {log : Log} {version : UInt8 × UInt8}
    (plays : Plays (sendRequest debug request version) log) :
    log.map Prod.fst = [] ∨ log.map Prod.fst = [request] := by
  obtain ⟨exchanges, rest, pending, follows, rfl, next⟩ := plays
  cases exchanges with
  | nil =>
      cases follows
      rcases List.prefix_cons_iff.mp next with none | ⟨rest, one, last⟩
      · exact .inl (by simpa using none)
      · rw [List.prefix_nil.mp last] at one
        exact .inr (by simpa using one)
  | cons exchange exchanges =>
      obtain ⟨asked, response⟩ := exchange
      obtain ⟨rfl, later⟩ := follows
      cases exchanges with
      | nil =>
          cases later
          right
          simp [completed, List.map_eq_nil_iff.mp (List.prefix_nil.mp next)]
      | cons exchange exchanges => exact later.elim

/-- A command for a valid setter either sets it and says so, or it loses its connection. -/
theorem invoked_sets (board : detection.profile = .n155a)
    (stands : Stands codec detection.device store before)
    (sets : requestSetter request = some setter) (valid : setter.Valid)
    {result : Except Rejection Unit}
    (invoked : Invoked debug codec detection.device connection service client server request before
      result after) :
    ∃ kept, Stands codec detection.device kept after ∧
      ((result = .ok () ∧ kept.settings.val = record setter store.settings.val) ∨
        ((result = .error (.failed "daemon not reachable") ∨
            result = .error (.failed "ipc request failed")) ∧
          (kept.settings.val = store.settings.val ∨
            kept.settings.val = record setter store.settings.val))) := by
  obtain ⟨turns, moves, reached, outcome, ran, ended, returns, rfl⟩ := invoked
  obtain ⟨plays, ends⟩ := session_ended board stands ran
  cases outcome with
  | ok value =>
      obtain ⟨exchanges, kept, follows, served, stands⟩ := ends value ended
      refine ⟨kept, stands, .inl ?_⟩
      match exchanges with
      | [] => cases follows
      | [(asked, response)] =>
          obtain ⟨rfl, last⟩ := follows
          cases last
          obtain ⟨clock, amounts⟩ := served.amounts
          obtain ⟨now, measured, _, answered, _⟩ := served
          rw [serve_setter sets, Store.request, dif_pos valid] at answered
          cases answered
          exact ⟨returns, amounts.trans (effect_setter sets valid clock _)⟩
      | _ :: _ :: _ => exact follows.2.elim
  | error error =>
      obtain ⟨kept, served, stands⟩ := session_serves board stands ran
      refine ⟨kept, stands, .inr ⟨returns, ?_⟩⟩
      have amounts := served.amounts
      rcases sendRequest_plays plays with none | one
      · rw [none] at amounts
        exact .inl amounts
      · rw [one] at amounts
        obtain ⟨clock, amounts⟩ := amounts
        exact .inr (amounts.trans (effect_setter sets valid clock _))

end Sessions

/-- The entries of the tray menu that change a setting. -/
inductive TrayItem where
  | profileSilent
  | profileDefault
  | profilePerf
  | fanAuto
  | fanFull
deriving Repr, DecidableEq

def TrayItem.request : TrayItem → IpcRequest
  | .profileSilent => .setPowerProfile .silent
  | .profileDefault => .setPowerProfile .default
  | .profilePerf => .setPowerProfile .performance
  | .fanAuto => .setFanMode .cpu .auto
  | .fanFull => .setFanMode .cpu .full

def TrayItem.control : TrayItem → Control
  | .profileSilent | .profileDefault | .profilePerf => .profile
  | .fanAuto | .fanFull => .fan .cpu

/-- The page that is open, and the daemon.  For the record, a control is confirmed when the
last choice on it went through and neither the slider nor the tray was used for it since. -/
structure Desk where
  page : Page
  confirmed : Control → Bool
  world : World

def Desk.opened (kind : PageKind) (world : World) : Desk where
  page := kind.initial
  confirmed _ := false
  world := world

/-- Another page is opened, the slider is moved, a choice is made on the page or in the tray,
a connection that was closed is noticed, or the system has an event.  A command comes with
what it returns and the daemon after it. -/
inductive DeskEvent where
  | opened (kind : PageKind)
  | slid (value : Fin 256)
  | chosen (action : PageAction) (result : Except Rejection Unit) (after : World)
  | tray (item : TrayItem) (result : Except Rejection Unit) (after : World)
  | saved (readings : List (UInt64 × EcMemory))
  | notified (event : InternalEvent) (readings : List (UInt64 × EcMemory))

section Desks

variable (debug : IpcResponse → String) (codec : SettingsCodec) (ec : EcDevice)
  (connection service : Daemon.ThreadId) (client server : Version)

/-- The answer to a command is waited for before the next choice; the tray only logs it. -/
def deskMachine : Machine Desk DeskEvent
  | desk, .opened kind => some (.opened kind desk.world)
  | desk, .slid value =>
      match desk.page with
      | .keyboard page => some { desk with
          page := .keyboard { page with
            custom := value.val, ranged := Nat.le_of_lt_succ value.isLt }
          confirmed := Function.update desk.confirmed .keyboard false }
      | _ => none
  | desk, .chosen action result after =>
      match desk.page.handle action with
      | none => some desk
      | some (page, invocation) =>
          match invocation.request with
          | .error error =>
              some { desk with page := page.settled action (.error (.invalidArgs error)) }
          | .ok _ => some {
              page := page.settled action result
              confirmed := Function.update desk.confirmed action.control result.toBool
              world := after }
  | desk, .tray item _ after => some { desk with
      confirmed := Function.update desk.confirmed item.control false
      world := after }
  | desk, .saved readings => some { desk with
      world := (undertake ec codec connection (.call .saveState) readings desk.world).2 }
  | desk, .notified event readings => some { desk with
      world := (undertake ec codec service (.event event) readings desk.world).2 }

/-- What comes with a command is what a client of the daemon makes of it. -/
def Genuine (desk : Desk) : DeskEvent → Prop
  | .chosen action result after => ∀ page invocation request,
      desk.page.handle action = some (page, invocation) → invocation.request = .ok request →
        Invoked debug codec ec connection service client server request desk.world result after
  | .tray item result after =>
      Invoked debug codec ec connection service client server item.request desk.world result after
  | _ => True

abbrev DeskRun (before : Desk) (events : List DeskEvent) (after : Desk) : Prop :=
  Machine.Guarded (deskMachine codec ec connection service)
    (Genuine debug codec ec connection service client server) before events after

/-- The confirmed controls show the settings of the daemon, and no error but that of a
connection is shown. -/
structure Desk.Truthful (desk : Desk) : Prop where
  shows : ∃ store, Stands codec ec store desk.world ∧
    ∀ control, desk.confirmed control = true → desk.page.Shows control store.settings.val
  errors : ∀ error, desk.page.err = some error →
    error = .failed "daemon not reachable" ∨ error = .failed "ipc request failed"

end Desks

section Truthful

variable {debug : IpcResponse → String} {codec : SettingsCodec}
  {connection service : Daemon.ThreadId} {client server : Version} {detection : Detection}
  {desk next : Desk} {event : DeskEvent}

theorem settled_err {page shown : Page} {action : PageAction} {invocation : Invocation}
    (handled : page.handle action = some (shown, invocation)) (result : Except Rejection Unit) :
    ∀ error, (shown.settled action result).err = some error → result = .error error := by
  intro error displayed
  cases page with
  | power page =>
      cases action with
      | apply p =>
          simp only [Page.handle] at handled
          split at handled
          · cases handled
          · cases handled
            cases result <;> cases displayed
            rfl
      | _ => cases handled
  | fans page =>
      cases action with
      | applyMode fan m =>
          cases handled
          cases fan <;> cases result <;> cases displayed <;> rfl
      | _ => cases handled
  | keyboard page =>
      cases action with
      | applyPreset | commitCustom =>
          cases handled
          cases result <;> cases displayed
          rfl
      | _ => cases handled

def TrayItem.setter : TrayItem → Setter
  | .profileSilent => .powerProfile .silent
  | .profileDefault => .powerProfile .default
  | .profilePerf => .powerProfile .performance
  | .fanAuto => .fanMode .cpu .auto
  | .fanFull => .fanMode .cpu .full

/-- What the daemon does of its own accord leaves the settings as they are. -/
theorem Desk.Truthful.undertaken (board : detection.profile = .n155a)
    (truthful : desk.Truthful codec detection.device) (thread : Daemon.ThreadId)
    (operation : StoreOp) (readings : List (UInt64 × EcMemory))
    (unasked : ∀ measured store, Unasked store
      (storeSemantics detection.device.hramOffset operation measured store).2) :
    { desk with
      world := (undertake detection.device codec thread operation readings desk.world).2
      : Desk }.Truthful codec detection.device := by
  obtain ⟨⟨store, stands, shows⟩, errors⟩ := truthful
  obtain ⟨measured, _, stands⟩ : ∃ measured, _ ∧ Stands codec detection.device
      (storeSemantics detection.device.hramOffset operation measured store).2
      (undertake detection.device codec thread operation readings desk.world).2 :=
    undertake_stands board stands operation readings
  refine ⟨⟨_, stands, fun control confirmed => ?_⟩, errors⟩
  rw [(unasked measured store).settings]
  exact shows control confirmed

theorem Desk.Truthful.chosen (board : detection.profile = .n155a)
    (truthful : desk.Truthful codec detection.device) {action : PageAction} {shown : Page}
    {invocation : Invocation} (handled : desk.page.handle action = some (shown, invocation))
    {request : IpcRequest} (sets : requestSetter request = some (action.setter desk.page))
    {result : Except Rejection Unit} {after : World}
    (invoked : Invoked debug codec detection.device connection service client server request
      desk.world result after) :
    Desk.Truthful codec detection.device {
      page := shown.settled action result
      confirmed := Function.update desk.confirmed action.control result.toBool
      world := after } := by
  obtain ⟨⟨store, stands, shows⟩, errors⟩ := truthful
  obtain ⟨kept, stands, told⟩ :=
    invoked_sets board stands sets (setter_valid desk.page action) invoked
  have settings : kept.settings.val = store.settings.val ∨
      kept.settings.val = record (action.setter desk.page) store.settings.val := by
    rcases told with ⟨_, set⟩ | ⟨_, either⟩
    · exact .inr set
    · exact either
  refine ⟨⟨kept, stands, fun control confirmed => ?_⟩, fun error displayed => ?_⟩
  · change Function.update desk.confirmed action.control result.toBool control = true at confirmed
    by_cases own : control = action.control
    · subst own
      rcases told with ⟨rfl, set⟩ | ⟨rfl | rfl, _⟩
      · rw [set]
        exact settled_shows handled store.settings.val
      · simp [Except.toBool] at confirmed
      · simp [Except.toBool] at confirmed
    · rw [Function.update_of_ne own] at confirmed
      have shown := settled_frame handled result own (shows control confirmed)
      rcases settings with same | set
      · rwa [same]
      · rw [set]
        refine shown.record ?_
        rw [setter_control]
        exact fun same => own (Option.some.inj same).symm
  · cases settled_err handled result error displayed
    rcases told with ⟨impossible, _⟩ | ⟨failed, _⟩
    · cases impossible
    · exact failed.imp Except.error.inj Except.error.inj

theorem Desk.Truthful.tray (board : detection.profile = .n155a)
    (truthful : desk.Truthful codec detection.device) {item : TrayItem}
    {result : Except Rejection Unit} {after : World}
    (invoked : Invoked debug codec detection.device connection service client server item.request
      desk.world result after) :
    { desk with
      confirmed := Function.update desk.confirmed item.control false
      world := after : Desk }.Truthful codec detection.device := by
  obtain ⟨⟨store, stands, shows⟩, errors⟩ := truthful
  have sets : requestSetter item.request = some item.setter := by cases item <;> rfl
  have valid : item.setter.Valid := by cases item <;> trivial
  obtain ⟨kept, stands, told⟩ := invoked_sets board stands sets valid invoked
  refine ⟨⟨kept, stands, fun control confirmed => ?_⟩, errors⟩
  change Function.update desk.confirmed item.control false control = true at confirmed
  by_cases own : control = item.control
  · subst own
    simp at confirmed
  · rw [Function.update_of_ne own] at confirmed
    have others : settingControl item.setter ≠ some control := by
      rw [show settingControl item.setter = some item.control by cases item <;> rfl]
      exact fun same => own (Option.some.inj same).symm
    have shown := shows control confirmed
    rcases told with ⟨_, set⟩ | ⟨_, same | set⟩
    · rw [set]
      exact shown.record others
    · rwa [same]
    · rw [set]
      exact shown.record others

theorem Desk.Truthful.slid (truthful : desk.Truthful codec detection.device)
    {page : Pages.Keyboard} (displayed : desk.page = .keyboard page) (value : Fin 256) :
    { desk with
      page := .keyboard { page with custom := value.val, ranged := Nat.le_of_lt_succ value.isLt }
      confirmed := Function.update desk.confirmed .keyboard false : Desk }.Truthful codec
        detection.device := by
  obtain ⟨⟨store, stands, shows⟩, errors⟩ := truthful
  rw [displayed] at shows errors
  refine ⟨⟨store, stands, fun control confirmed => ?_⟩, errors⟩
  cases control with
  | keyboard => simp at confirmed
  | profile => exact (shows .profile (by simpa using confirmed)).elim
  | fan fan => exact (shows (.fan fan) (by simpa using confirmed)).elim

theorem Desk.opened_truthful {store : Store} {world : World}
    (stands : Stands codec detection.device store world) (kind : PageKind) :
    (Desk.opened kind world).Truthful codec detection.device := by
  refine ⟨⟨store, stands, fun _ impossible => by cases impossible⟩, ?_⟩
  cases kind <;> exact fun _ impossible => by cases impossible

theorem Desk.Truthful.step (board : detection.profile = .n155a)
    (truthful : desk.Truthful codec detection.device)
    (genuine : Genuine debug codec detection.device connection service client server desk event)
    (stepped : deskMachine codec detection.device connection service desk event = some next) :
    next.Truthful codec detection.device := by
  cases event with
  | opened kind =>
      cases stepped
      obtain ⟨⟨store, stands, _⟩, _⟩ := truthful
      exact Desk.opened_truthful stands kind
  | slid value =>
      simp only [deskMachine] at stepped
      split at stepped
      · rename_i page shown
        cases stepped
        exact truthful.slid shown value
      · cases stepped
  | chosen action result after =>
      simp only [deskMachine] at stepped
      cases handled : desk.page.handle action with
      | none =>
          simp only [handled, Option.some.injEq] at stepped
          subst stepped
          exact truthful
      | some shown =>
          obtain ⟨request, read, sets⟩ := handle_requests handled
          simp only [handled, read, Option.some.injEq] at stepped
          subst stepped
          exact truthful.chosen board handled sets (genuine shown.1 shown.2 request handled read)
  | tray item result after =>
      cases stepped
      exact truthful.tray board genuine
  | saved readings =>
      cases stepped
      exact truthful.undertaken board connection _ readings fun _ _ => .saved .nothing
  | notified event readings =>
      cases stepped
      exact truthful.undertaken board service _ readings
        fun measured _ => .event .nothing measured event

/-- Whatever is chosen on the pages and in the tray, whatever the connections do and whatever
goes on in the system, a control whose last choice went through shows what the daemon has, and
the only errors shown are those of connections. -/
theorem pages_show_settings (board : detection.profile = .n155a) {store : Store}
    {kind : PageKind} {world : World} (stands : Stands codec detection.device store world)
    {events : List DeskEvent} {after : Desk}
    (ran : DeskRun debug codec detection.device connection service client server
      (.opened kind world) events after) : after.Truthful codec detection.device := by
  refine Trace.invariant (fun truthful genuine stepped => ?_) ran (Desk.opened_truthful stands kind)
  exact truthful.step board genuine stepped

def succeededNow : Program streamOps (Except IoError (Except String Unit)) → Bool
  | .done (.ok (.ok ())) => true
  | _ => false

theorem succeededNow_sound {todo : Program streamOps (Except IoError (Except String Unit))}
    (succeeded : succeededNow todo = true) : todo = .done (.ok (.ok ())) := by
  unfold succeededNow at succeeded
  split at succeeded
  · rfl
  · cases succeeded

/-- The quiet profile is chosen on its page, at a daemon that has just started. -/
theorem pages_show_settings_silent :
    let ec := Detection.n155a.device
    let started := (Program.run (driftingSemantics ec .bincode 0)
      (startUp ec ⟨"cpu", "os", "board"⟩).run [] (World.fresh (fun _ => 0x77) none)).2
    ∃ clock after, Stands .bincode ec (.resume none clock) started ∧
      DeskRun (fun _ => "") .bincode ec 1 2 ⟨0, 4, 7⟩ ipcProtocolVersion (.opened .power started)
        [.chosen (.apply .silent) (.ok ()) after.world] after ∧
      after.page = .power { current := .silent, busy := false, err := none } ∧
      after.confirmed .profile = true ∧ after.Truthful .bincode ec := by
  intro ec started
  obtain ⟨-, clock, stands⟩ : _ ∧ ∃ clock, Stands .bincode ec (.resume none clock) started :=
    run_startUp rfl _ _ none
  have replayed : (((session (wholeDaemon ec .bincode 1 2)).replay
      (dialled ⟨0, 4, 7⟩ ipcProtocolVersion requestCodec responseCodec
        (sendRequest (fun _ => "") (.setPowerProfile .silent)) 5 started)
      (settingMoves.take 21)).map fun link => succeededNow link.left.todo) = some true := by
    decide +kernel
  obtain ⟨reached, ran, succeeded⟩ := Option.map_eq_some_iff.mp replayed
  let after : Desk := {
    page := .power { current := .silent, busy := false, err := none }
    confirmed := Function.update (fun _ => false) .profile true
    world := reached.right.now.2.1 }
  have chosen : DeskRun (fun _ => "") .bincode ec 1 2 ⟨0, 4, 7⟩ ipcProtocolVersion
      (.opened .power started) [.chosen (.apply .silent) (.ok ()) after.world] after := by
    refine .cons ?_ rfl .nil
    intro page invocation request handled read
    cases handled
    cases read
    exact ⟨5, _, reached, .ok (.ok ()), Machine.run_of_replay ran, succeededNow_sound succeeded,
      rfl, rfl⟩
  exact ⟨clock, after, stands, chosen, rfl, rfl, pages_show_settings rfl stands chosen⟩

end Truthful

end Lecoo.Gui
