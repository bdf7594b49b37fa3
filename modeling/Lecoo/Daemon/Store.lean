import Lecoo.Effects.Expand
import Lecoo.Daemon.Connection
import Lecoo.Daemon.ChargeIndicator
import Lecoo.Daemon.Drift

namespace Lecoo.Daemon

open Lecoo.Effects Lecoo.Ipc Lecoo.Ec Lecoo.Data

/-! # The daemon as a store of settings

To its clients and to the power events the daemon is a store: the settings, what
was last saved of them, what the LED ring and the battery LEDs show meanwhile.
Registers, lock, file and atomics are how it keeps them.
-/

/-- Settings that the hardware functions accept. -/
abbrev Applicable : Type :=
  { settings : CurrentSettings // ∀ setter ∈ settingSetters settings, setter.Valid }

namespace Applicable

def default (clock : UInt64) : Applicable :=
  ⟨CurrentSettings.default clock, by simp [settingSetters, CurrentSettings.default, Setter.Valid]⟩

def set (settings : Applicable) (setter : Setter) (valid : setter.Valid) : Applicable :=
  ⟨record setter settings.val, by
    have before := settings.property
    simp only [settingSetters, List.forall_mem_cons] at before ⊢
    cases setter with
    | fanMode fan mode => cases fan <;> simp_all [record, Setter.Valid]
    | _ => simp_all [record, Setter.Valid]⟩

def reporting (settings : Applicable) (isEnabled : Bool) : Applicable :=
  ⟨{ settings.val with telemetryEnabled := isEnabled }, settings.property⟩

/-- The file they are saved in. -/
def file (codec : SettingsCodec) (saved : Option Applicable) : Option (List UInt8) :=
  saved.map fun settings => codec.encode settings.val

end Applicable

/-- What there is to read that is not in the store. -/
structure Measured where
  clock : UInt64
  chip : UInt8 × UInt8 × UInt8
  fans : UInt16 × UInt16
  temps : UInt8 × UInt8
  charge : UInt8
deriving Inhabited

structure Store where
  settings : Applicable
  /-- What the LED ring shows, which the power events change. -/
  ring : PowerLedMode
  /-- The orange and the white battery LED, once a charger event has set them. -/
  lights : Option (Bool × Bool)
  saved : Option Applicable
  /-- Whether telemetry is sent. -/
  reporting : Bool

namespace Store

/-- A store that starts from what was saved. -/
def resume (saved : Option Applicable) (clock : UInt64) : Store :=
  let settings := saved.getD (.default clock)
  { settings, ring := settings.val.ledMode, lights := none, saved,
    reporting := settings.val.telemetryEnabled }

/-- The settings as far as the hardware shows them. -/
def shown (store : Store) : CurrentSettings := { store.settings.val with ledMode := store.ring }

def save (store : Store) : Store := { store with saved := some store.settings }

def set (store : Store) (setter : Setter) (valid : setter.Valid) : Store :=
  { store with
    settings := store.settings.set setter valid
    ring := (record setter store.shown).ledMode }

/-- What a client is told whose setter is not accepted. -/
def refusal : Setter → String
  | .fanMode _ (.custom duty) =>
      s!"Processing request failed: Requested fan duty cycle ({duty}) exceeds safe limit (220)."
  | _ => ""

def request (setter : Setter) (store : Store) : Except Failure IpcResponse × Store :=
  if valid : setter.Valid then (.ok .success, store.set setter valid)
  else (.ok (.error (refusal setter)), store)

def command (measured : Measured) (store : Store) :
    DaemonCommand → Except Failure IpcResponse × Store
  | .restoreDefaults =>
      let settings := Applicable.default measured.clock
      (.ok .success, { store with settings, ring := settings.val.ledMode, saved := some settings })
  | .activateTelemetry isEnabled =>
      (.ok (if isEnabled then .success else .telemetryDisabledInfo),
        { store with settings := store.settings.reporting isEnabled, reporting := isEnabled }.save)
  | .applySettings => (.ok .success, { store with ring := store.settings.val.ledMode })
  | .getSettings => (.ok (.daemonResponse (.settings store.settings.val)), store)
  | .getTelemetryId =>
      (.ok (.daemonResponse (.telemetryId store.settings.val.telemetryClientId)), store)
  | _ => (.error (.panic "not yet implemented"), store)

/-- The answer to a request and the store after it. -/
def serve (hramOffset : UInt16) (measured : Measured) (store : Store) :
    IpcRequest → Except Failure IpcResponse × Store
  | .getSystemState =>
      (.ok (.systemInfo s!"IT{hexByteUpper measured.chip.1}{hexByteUpper measured.chip.2.1}"
        (hexByteUpper measured.chip.2.2) hramOffset version), store)
  | .getFansRPM => (.ok (.fanRPM measured.fans.1 measured.fans.2), store)
  | .getTemperatures => (.ok (.temp measured.temps.1 measured.temps.2), store)
  | .getChargeLimit =>
      (.ok (.chargeLimit store.settings.val.chargeLimit.asPercent.1
        store.settings.val.chargeLimit.asPercent.2 measured.charge), store)
  | .getPowerProfile => (.ok (.powerLimit store.settings.val.powerProfile), store)
  | .getKeyboardBacklight => (.ok (.keyboardBacklight store.settings.val.keyboardBacklight), store)
  | .setPowerProfile profile => store.request (.powerProfile profile)
  | .setFanMode fan mode => store.request (.fanMode fan mode)
  | .setKeyboardBacklight level => store.request (.keyboardBacklight level)
  | .setChargeLimit limit => store.request (.chargeLimit limit)
  | .setLedMode mode => store.request (.ledMode mode)
  | .daemonCommand command => store.command measured command

def notify (measured : Measured) (store : Store) : InternalEvent → Store
  | .systemShuttingDown | .systemHibernating => { store with ring := .auto }.save
  | .systemSleeping => { store with ring := .animation .sleep }.save
  | .systemWakingUp => { store with ring := store.settings.val.ledMode }
  | .chargerConnected =>
      let full := decide (store.settings.val.chargeLimit.asPercent.2 ≤ measured.charge)
      { store with lights := some (!full, full) }
  | .chargerDisconnected => { store with lights := some (false, false) }

end Store

/-- What clients and the system ask of the daemon. -/
inductive StoreOp where
  | call (call : DaemonCall)
  | event (event : InternalEvent)

@[reducible] def storeOps : Interface where
  Operation := StoreOp
  Reply
    | .call call => daemonCalls.Reply call
    | .event _ => Except Failure Unit

def storeSemantics (hramOffset : UInt16) : Semantics storeOps Measured Store
  | .call (.doWork request), measured, store => store.serve hramOffset measured request
  | .call .saveState, _, store => (.ok (), store.save)
  | .event event, measured, store => (.ok (), store.notify measured event)

/-- How the daemon does what it is asked. -/
def daemonHandler (ec : EcDevice) : (operation : StoreOp) → Task (storeOps.Reply operation)
  | .call (.doWork request) => (doWork ec request).run
  | .call .saveState => saveOnReset.run
  | .event event => (processEvent ec event).run

/-- The registers of the features hold the settings, and the battery LEDs are as given. -/
structure Shown (ec : EcDevice) (settings : CurrentSettings) (lights : Option (Bool × Bool))
    (world : World) : Prop where
  restored : Restored ec settings world
  coherent : world.LedCoherent ec
  lit : ∀ lit ∈ lights, (Lit ec ec.offsets.maskOrangeLed world ↔ lit.1 = true) ∧
    (Lit ec ec.offsets.maskWhiteLed world ↔ lit.2 = true)

/-- What the battery LEDs show after a setter. -/
def relit (lights : Option (Bool × Bool)) : Setter → Option (Bool × Bool)
  | .batteryLeds orangeOn whiteOn => some (orangeOn, whiteOn)
  | _ => lights

section Hardware

variable {detection : Detection} {settings : CurrentSettings} {lights : Option (Bool × Bool)}
  {world other : World}

theorem Shown.alike {ec : EcDevice} (shown : Shown ec settings lights world)
    (alike : world.Alike ec other) : Shown ec settings lights other where
  restored setter member := alike.holds (shown.restored setter member)
  coherent := alike.ledCoherent shown.coherent
  lit lit member := by
    have port : other.registers ec .gpdra = world.registers ec .gpdra :=
      alike.owned .gpdra (by simp [Register.feature])
    rw [Lit, Lit, port]
    exact shown.lit lit member

theorem record_replaces (setter : Setter) (settings : CurrentSettings) :
    ∀ kept ∈ settingSetters (record setter settings),
      kept = setter ∨ (kept ∈ settingSetters settings ∧ kept.feature ≠ setter.feature) := by
  cases setter with
  | fanMode fan mode => cases fan <;> simp [settingSetters, record, Setter.feature]
  | _ => simp [settingSetters, record, Setter.feature]

/-- A setter changes what it is for and nothing else that there is to see. -/
theorem Shown.set (board : detection.profile = .n155a)
    (shown : Shown detection.device settings lights world) (setter : Setter) :
    Shown detection.device (record setter settings) (relit lights setter)
      (world.play detection.device (setter.actions detection.device world)) where
  restored next member := by
    have sole := (detection.n155a_separated board).sole setter.feature
    rcases record_replaces setter settings next member with rfl | ⟨earlier, other⟩
    · exact (Setter.play_prescribed_iff sole).mpr fun _ => shown.coherent
    · intro entry prescribed
      have foreign : entry.1.feature ≠ some setter.feature := by
        rw [next.prescribes_feature entry prescribed]
        exact fun same => other (Option.some.inj same)
      rw [Setter.play_foreign sole world foreign]
      exact shown.restored next earlier entry prescribed
  coherent := Setter.play_coherent ((detection.n155a_separated board).sole _) shown.coherent
  lit lit member := by
    by_cases leds : setter.feature = .batteryLeds
    · cases setter with
      | batteryLeds orangeOn whiteOn =>
          cases member
          have played := play_batteryLeds detection orangeOn whiteOn world
          exact ⟨played.1, played.2.1⟩
      | _ => cases leds
    · have port : (world.play detection.device (setter.actions detection.device world)).registers
          detection.device .gpdra = world.registers detection.device .gpdra :=
        Setter.play_foreign ((detection.n155a_separated board).sole _) world
          fun same => leds (Option.some.inj same).symm
      rw [Lit, Lit, port]
      apply shown.lit lit
      cases setter with
      | batteryLeds orangeOn whiteOn => exact absurd rfl leds
      | _ => exact member

theorem succeed_actionsAll {codec : SettingsCodec} {thread : ThreadId} {ec : EcDevice}
    {setters : List Setter} (valid : ∀ setter ∈ setters, setter.Valid) :
    Setter.Succeed codec thread ec setters world
      (world.play ec (Setter.actionsAll ec setters world)) := by
  induction setters generalizing world with
  | nil => rfl
  | cons setter rest ih =>
      rw [Setter.actionsAll, World.play_append]
      exact ⟨_, Setter.alone_apply_ok (valid setter List.mem_cons_self),
        ih fun next member => valid next (List.mem_cons_of_mem _ member)⟩

/-- A restore shows the settings, whatever was shown before. -/
theorem Shown.restore (board : detection.profile = .n155a) (settings : Applicable)
    (coherent : world.LedCoherent detection.device)
    (lit : ∀ lit ∈ lights, (Lit detection.device detection.device.offsets.maskOrangeLed world ↔
        lit.1 = true) ∧
      (Lit detection.device detection.device.offsets.maskWhiteLed world ↔ lit.2 = true)) :
    Shown detection.device settings.val lights (world.play detection.device
      (Setter.actionsAll detection.device (settingSetters settings.val) world)) := by
  have separated := detection.n155a_separated board
  have sole : ∀ setter ∈ settingSetters settings.val, detection.device.Sole setter.feature :=
    fun _ _ => separated.sole _
  have ran : Setter.Succeed .bincode 0 detection.device (settingSetters settings.val) world
      (world.play detection.device
        (Setter.actionsAll detection.device (settingSetters settings.val) world)) :=
    succeed_actionsAll settings.property
  have port : World.registers detection.device _ .gpdra = world.registers detection.device .gpdra :=
    Setter.succeed_foreign sole (by simp [settingSetters, Setter.feature, Register.feature]) ran
  refine ⟨?_, (Setter.succeed_prescribed sole coherent ran).1, fun lights member => ?_⟩
  · exact (Setter.succeed_prescribed_iff sole (settingSetters_distinct settings.val) ran).mpr
      fun _ _ _ => coherent
  · rw [Lit, Lit, port]
    exact lit lights member

end Hardware

/-- The daemon has the store in its state, its registers and its file. -/
structure Stands (codec : SettingsCodec) (ec : EcDevice) (store : Store) (world : World) :
    Prop where
  settings : world.settings = store.settings.val
  shown : Shown ec store.shown store.lights world
  free : world.stateLock = none
  file : world.stateFile = Applicable.file codec store.saved
  reporting : world.telemetryEnabled = store.reporting

/-- A computation answers from the store, and keeps it. -/
def Gives {α : Type} (ec : EcDevice) (codec : SettingsCodec) (thread : ThreadId) (before : World)
    (computation : Io α) (answer : Measured → Except Failure α × Store) : Prop :=
  Leads ec codec thread before computation fun outcome after =>
    ∃ measured, outcome = (answer measured).1 ∧ Stands codec ec (answer measured).2 after

section Serving

variable {codec : SettingsCodec} {thread : ThreadId} {detection : Detection} {store : Store}
  {before after : World} {α : Type}

theorem Stands.alike {ec : EcDevice} (stands : Stands codec ec store before)
    (alike : before.Alike ec after) : Stands codec ec store after where
  settings := alike.elsewhere.settings.trans stands.settings
  shown := stands.shown.alike alike
  free := alike.elsewhere.stateLock.trans stands.free
  file := alike.elsewhere.stateFile.trans stands.file
  reporting := alike.elsewhere.telemetryEnabled.trans stands.reporting

/-- The holder of the guard finds the settings of the store. -/
theorem Stands.found {ec : EcDevice} (stands : Stands codec ec store before)
    (holder : Option ThreadId) : (before.lockedBy holder).settings = store.settings :=
  stands.settings

theorem Stands.unlocked {ec : EcDevice} (stands : Stands codec ec store before)
    (holder : Option ThreadId) :
    Stands codec ec store ((before.lockedBy holder).lockedBy none) :=
  ⟨stands.settings, ⟨stands.shown.restored, stands.shown.coherent, stands.shown.lit⟩, rfl,
    stands.file, stands.reporting⟩

/-- The hardware comes to show something else. -/
theorem Stands.play {ec : EcDevice} {ring : PowerLedMode} {lights : Option (Bool × Bool)}
    {actions : List Action} (stands : Stands codec ec store before)
    (shown : Shown ec { store.settings.val with ledMode := ring } lights
      (before.play ec actions)) :
    Stands codec ec { store with ring, lights } (before.play ec actions) where
  settings := (World.play_sameElsewhere actions).settings.trans stands.settings
  shown := shown
  free := (World.play_sameElsewhere actions).stateLock.trans stands.free
  file := (World.play_sameElsewhere actions).stateFile.trans stands.file
  reporting := (World.play_sameElsewhere actions).telemetryEnabled.trans stands.reporting

variable {ec : EcDevice} {settings : CurrentSettings} {lights : Option (Bool × Bool)}

theorem yields_readChargeLimit (shown : Shown ec settings lights before) :
    Yields ec codec thread before (readChargeLimit ec) (.ok settings.chargeLimit.asPercent) before := by
  have held := shown.restored (.chargeLimit settings.chargeLimit) (by simp [settingSetters])
  refine yields_bind (yields_readReg .batLimitMin (by simp [Register.feature])
    (held (.batLimitMin, _) List.mem_cons_self)) ?_
  refine yields_bind (yields_readReg .batLimitMax (by simp [Register.feature])
    (held (.batLimitMax, _) (List.mem_cons_of_mem _ List.mem_cons_self))) ?_
  exact yields_pure _

theorem yields_readPowerProfile (shown : Shown ec settings lights before) :
    Yields ec codec thread before (readPowerProfile ec) (.ok settings.powerProfile) before := by
  have held := shown.restored (.powerProfile settings.powerProfile) (by simp [settingSetters])
  refine yields_bind (yields_readReg .powerProfile (by simp [Register.feature])
    (held (.powerProfile, _) List.mem_cons_self)) ?_
  cases settings.powerProfile <;> exact yields_pure _

theorem yields_readKeyboardBacklight (shown : Shown ec settings lights before) :
    Yields ec codec thread before (readKeyboardBacklight ec) (.ok settings.keyboardBacklight) before := by
  have held := shown.restored (.keyboardBacklight settings.keyboardBacklight) (by simp [settingSetters])
  cases level : settings.keyboardBacklight with
  | custom value =>
      rw [level] at held
      refine yields_bind (yields_readReg .kbdBacklight (by simp [Register.feature])
        (held (.kbdBacklight, _) List.mem_cons_self)) ?_
      refine yields_bind (yields_readReg .kbdCustomVal (by simp [Register.feature])
        (held (.kbdCustomVal, _) (List.mem_cons_of_mem _ List.mem_cons_self))) ?_
      exact yields_pure _
  | _ =>
      rw [level] at held
      refine yields_bind (yields_readReg .kbdBacklight (by simp [Register.feature])
        (held (.kbdBacklight, _) List.mem_cons_self)) ?_
      exact yields_pure _

theorem leads_doWork {request : IpcRequest} {ending : Except Failure IpcResponse → World → Prop}
    (leads : Leads ec codec thread before (handleRequest ec request) fun outcome after =>
      ending (respond outcome) after) :
    Leads ec codec thread before (doWork ec request) ending := by
  intro world outcome reached alike ran
  rw [doWork_run] at ran
  obtain ⟨found, middle, handled, replied, same⟩ := Program.runs_bind.mp ran
  rw [replied, same]
  exact leads _ _ _ alike handled

theorem gives_setter (board : detection.profile = .n155a) {request : IpcRequest} {setter : Setter}
    (sets : requestSetter request = some setter)
    (stands : Stands codec detection.device store before) :
    Gives detection.device codec thread before (doWork detection.device request)
      fun _ => store.request setter := by
  refine leads_doWork ?_
  rw [handleRequest_setter sets]
  by_cases valid : setter.Valid
  · have lights : relit store.lights setter = store.lights := by
      cases request <;> cases sets <;> rfl
    have set : Shown detection.device (store.set setter valid).shown store.lights
        (before.play detection.device (setter.actions detection.device before)) := by
      have shown := stands.shown.set board setter
      rw [lights] at shown
      cases setter with
      | fanMode fan mode => cases fan <;> exact shown
      | _ => exact shown
    have played : before.SameElsewhere
        (before.play detection.device (setter.actions detection.device before)) :=
      World.play_sameElsewhere _
    refine leads_bind (yields_apply setter valid) ?_
    refine leads_withState (played.stateLock.trans stands.free) ?_
    refine leads_bind (yields_modifyState _) ((yields_pure _).leads ⟨default, ?_⟩)
    rw [Store.request, dif_pos valid]
    exact ⟨rfl, {
      settings := by
        simp only [World.lockedBy, World.withSettings, played.settings, stands.settings]
        rfl
      shown := ⟨set.restored, set.coherent, set.lit⟩
      free := rfl
      file := played.stateFile.trans stands.file
      reporting := played.telemetryEnabled.trans stands.reporting }⟩
  · cases setter with
    | fanMode fan mode =>
        cases mode with
        | custom duty =>
            refine (yields_failed (yields_refused fan (UInt8.not_le.mp valid))).leads ⟨default, ?_⟩
            rw [Store.request, dif_neg valid]
            exact ⟨rfl, stands⟩
        | _ => exact absurd trivial valid
    | _ => exact absurd trivial valid

theorem senses_rsoc : Senses ec codec thread (readBatteryRsoc ec) :=
  senses_batch (readBatteryRsoc_reads ec).1 _ fun _ => rfl

theorem gives_getter {request : IpcRequest} (getter : IsGetter request)
    (stands : Stands codec ec store before) :
    Gives ec codec thread before (doWork ec request)
      fun measured => store.serve ec.hramOffset measured request := by
  refine leads_doWork ?_
  cases request with
  | getSystemState =>
      have senses : Senses ec codec thread (readSystemInfo ec) :=
        senses_batch (readSystemInfo_reads ec).1 _ fun _ => rfl
      exact leads_sensed senses fun chip =>
        (yields_pure _).leads ⟨{ (default : Measured) with chip }, rfl, stands⟩
  | getFansRPM =>
      have senses : Senses ec codec thread (readFansRpm ec) :=
        senses_batch (readFansRpm_reads ec).1 _ fun _ => rfl
      exact leads_sensed senses fun fans =>
        (yields_pure _).leads ⟨{ (default : Measured) with fans }, rfl, stands⟩
  | getTemperatures =>
      have senses : Senses ec codec thread (readTemperatures ec) :=
        senses_batch (readTemperatures_reads ec).1 _ fun _ => rfl
      exact leads_sensed senses fun temps =>
        (yields_pure _).leads ⟨{ (default : Measured) with temps }, rfl, stands⟩
  | getChargeLimit =>
      refine leads_bind (yields_readChargeLimit stands.shown) (leads_sensed senses_rsoc fun charge => ?_)
      exact (yields_pure _).leads ⟨{ (default : Measured) with charge }, rfl, stands⟩
  | getPowerProfile =>
      exact leads_bind (yields_readPowerProfile stands.shown)
        ((yields_pure _).leads ⟨default, rfl, stands⟩)
  | getKeyboardBacklight =>
      exact leads_bind (yields_readKeyboardBacklight stands.shown)
        ((yields_pure _).leads ⟨default, rfl, stands⟩)
  | _ => cases getter

theorem yields_restoreState (settings : Applicable) :
    Yields ec codec thread before (restoreState ec settings.val) (.ok ())
      (before.play ec (Setter.actionsAll ec (settingSetters settings.val) before)) := by
  rw [restoreState_eq]
  exact yields_applyAll settings.property

/-- A restore brings the hardware to what the rest of the state says. -/
theorem Stands.restore (board : detection.profile = .n155a) (store : Store)
    (settings : before.settings = store.settings.val)
    (coherent : before.LedCoherent detection.device)
    (lit : ∀ lit ∈ store.lights, (Lit detection.device detection.device.offsets.maskOrangeLed
        before ↔ lit.1 = true) ∧
      (Lit detection.device detection.device.offsets.maskWhiteLed before ↔ lit.2 = true))
    (file : before.stateFile = Applicable.file codec store.saved)
    (reporting : before.telemetryEnabled = store.reporting) :
    Stands codec detection.device { store with ring := store.settings.val.ledMode }
      ((before.play detection.device (Setter.actionsAll detection.device
        (settingSetters store.settings.val) before)).lockedBy none) := by
  have played : before.SameElsewhere (before.play detection.device
      (Setter.actionsAll detection.device (settingSetters store.settings.val) before)) :=
    World.play_sameElsewhere _
  have shown := Shown.restore board store.settings coherent lit
  exact {
    settings := played.settings.trans settings
    shown := ⟨shown.restored, shown.coherent, shown.lit⟩
    free := rfl
    file := played.stateFile.trans file
    reporting := played.telemetryEnabled.trans reporting }

/-- The settings are shown again, whatever the power events had the ring show. -/
theorem Stands.reapplied (board : detection.profile = .n155a) (holder : Option ThreadId)
    (stands : Stands codec detection.device store before) :
    Stands codec detection.device { store with ring := store.settings.val.ledMode }
      (((before.lockedBy holder).play detection.device (Setter.actionsAll detection.device
        (settingSetters store.settings.val) (before.lockedBy holder))).lockedBy none) :=
  Stands.restore board store stands.settings stands.shown.coherent stands.shown.lit stands.file
    stands.reporting

theorem gives_command (board : detection.profile = .n155a) (command : DaemonCommand)
    (stands : Stands codec detection.device store before) :
    Gives detection.device codec thread before (doWork detection.device (.daemonCommand command))
      fun measured => store.command measured command := by
  refine leads_doWork ?_
  cases command with
  | restoreDefaults =>
      refine leads_withState stands.free (leads_sensed senses_clock fun clock => ?_)
      refine leads_bind (yields_writeState _) (leads_bind yields_readState ?_)
      refine leads_bind (yields_save _) (leads_bind yields_readState ?_)
      refine leads_bind (yields_restoreState (.default clock)) ?_
      refine (yields_pure _).leads ⟨{ (default : Measured) with clock }, rfl, ?_⟩
      exact Stands.restore board (store.command { (default : Measured) with clock }
        .restoreDefaults).2 rfl stands.shown.coherent stands.shown.lit rfl stands.reporting
  | activateTelemetry isEnabled =>
      refine leads_withState stands.free (leads_bind (yields_modifyState _) ?_)
      refine leads_bind yields_readState (leads_bind (yields_save _) ?_)
      have stored : Stands codec detection.device (store.command default
          (.activateTelemetry isEnabled)).2
          (((((before.lockedBy (some thread)).withSettings
            { before.settings with telemetryEnabled := isEnabled }).withFile
              (some (codec.encode { before.settings with telemetryEnabled := isEnabled }))).switched
                isEnabled).lockedBy none) := by
        rw [stands.settings]
        exact ⟨rfl, ⟨stands.shown.restored, stands.shown.coherent, stands.shown.lit⟩, rfl, rfl, rfl⟩
      cases isEnabled with
      | true => exact leads_bind (yields_switch true) ((yields_pure _).leads ⟨default, rfl, stored⟩)
      | false => exact leads_bind (yields_switch false) ((yields_pure _).leads ⟨default, rfl, stored⟩)
  | applySettings =>
      refine leads_withState stands.free (leads_bind yields_readState ?_)
      rw [stands.found]
      refine leads_bind (yields_restoreState store.settings) ?_
      exact (yields_pure _).leads ⟨default, rfl, stands.reapplied board _⟩
  | getSettings =>
      refine leads_withState stands.free (leads_bind yields_readState ?_)
      rw [stands.found]
      exact (yields_pure _).leads ⟨default, rfl, stands.unlocked _⟩
  | getTelemetryId =>
      refine leads_withState stands.free (leads_bind yields_readState ?_)
      rw [stands.found]
      exact (yields_pure _).leads ⟨default, rfl, stands.unlocked _⟩
  | _ => exact (yields_throw _).leads ⟨default, rfl, stands⟩

theorem Stands.saved (stands : Stands codec ec store before) (holder : Option ThreadId) :
    Stands codec ec store.save
      (((before.lockedBy holder).withFile (some (codec.encode store.settings.val))).lockedBy none) :=
  ⟨stands.settings, ⟨stands.shown.restored, stands.shown.coherent, stands.shown.lit⟩, rfl, rfl,
    stands.reporting⟩

/-- The settings are saved at the end of a scope that leaves the rest as it is. -/
theorem gives_saved {scope : Io Unit} (stands : Stands codec ec store before)
    (yields : Yields ec codec thread (before.lockedBy (some thread)) scope (.ok ())
      ((before.lockedBy (some thread)).withFile (some (codec.encode store.settings.val)))) :
    Gives ec codec thread before (Io.ok? (withState scope) >>= fun _ => pure ())
      fun _ => (.ok (), store.save) :=
  leads_bind (yields_ok? (yields_withState stands.free yields))
    ((yields_pure _).leads ⟨default, rfl, stands.saved _⟩)

theorem yields_saveState (settings : CurrentSettings) (same : before.settings = settings) :
    Yields ec codec thread before (Io.readState >>= fun state => Io.ok? (save state) >>= fun _ =>
      pure ()) (.ok ()) (before.withFile (some (codec.encode settings))) := by
  rw [← same]
  exact yields_bind yields_readState (yields_bind (yields_ok? (yields_save _)) (yields_pure _))

theorem gives_saveOnReset (stands : Stands codec ec store before) :
    Gives ec codec thread before saveOnReset fun _ => (.ok (), store.save) :=
  gives_saved stands (yields_saveState _ stands.settings)

/-- A reading that finds what the settings say leaves them as they are. -/
theorem yields_updateState {reading : Io α} {value : α}
    {change : α → CurrentSettings → CurrentSettings}
    (read : Yields ec codec thread before reading (.ok value) before)
    (same : change value before.settings = before.settings) :
    Yields ec codec thread before (updateState reading change) (.ok ()) before := by
  refine yields_bind (yields_ok? read) ?_
  have written : Yields ec codec thread before (Io.modifyState (change value)) (.ok ()) _ :=
    yields_modifyState (change value)
  rw [same] at written
  exact written

theorem yields_updateChargeLimit (shown : Shown ec settings lights before)
    (same : { before.settings with chargeLimit := settings.chargeLimit } = before.settings) :
    Yields ec codec thread before (updateChargeLimit ec) (.ok ()) before := by
  refine yields_bind (yields_ok? (yields_readChargeLimit shown)) ?_
  simp only [ChargeLimit.fromPredefined_asPercent]
  have written : Yields ec codec thread before (Io.modifyState fun state =>
      { state with chargeLimit := settings.chargeLimit }) (.ok ()) _ := yields_modifyState _
  rw [same] at written
  exact written

/-- What is read back from the registers before a save is what the settings say already. -/
theorem gives_readAndSaveState (stands : Stands codec ec store before) :
    Gives ec codec thread before (readAndSaveState ec) fun _ => (.ok (), store.save) := by
  have shown : Shown ec store.shown store.lights (before.lockedBy (some thread)) :=
    ⟨stands.shown.restored, stands.shown.coherent, stands.shown.lit⟩
  have settings : (before.lockedBy (some thread)).settings = store.settings.val := stands.settings
  refine gives_saved stands ?_
  refine yields_bind (yields_updateState (yields_readKeyboardBacklight shown)
    (by rw [settings]; rfl)) ?_
  refine yields_bind (yields_updateState (yields_readPowerProfile shown)
    (by rw [settings]; rfl)) ?_
  refine yields_bind (yields_updateChargeLimit shown (by rw [settings]; rfl)) ?_
  exact yields_saveState _ settings

theorem gives_event (board : detection.profile = .n155a) (event : InternalEvent)
    (stands : Stands codec detection.device store before) :
    Gives detection.device codec thread before (processEvent detection.device event)
      fun measured => (.ok (), store.notify measured event) := by
  have ring : ∀ mode, Yields detection.device codec thread before
      (Io.ok? (applyLedMode detection.device mode)) (.ok (some ())) (before.play detection.device
        (Setter.actions detection.device (.ledMode mode) before)) ∧
      Stands codec detection.device { store with ring := mode } (before.play detection.device
        (Setter.actions detection.device (.ledMode mode) before)) := fun mode =>
    ⟨yields_ok? (yields_apply (.ledMode mode) trivial), stands.play (stands.shown.set board (.ledMode mode))⟩
  have leds : ∀ orangeOn whiteOn measured, store.notify measured event =
        { store with lights := some (orangeOn, whiteOn) } →
      Gives detection.device codec thread before
        (Io.ok? (applyBatteryLeds detection.device orangeOn whiteOn) >>= fun _ => pure ())
        fun measured => (.ok (), store.notify measured event) := by
    intro orangeOn whiteOn measured shows
    refine leads_bind (yields_ok? (yields_apply (.batteryLeds orangeOn whiteOn) trivial))
      ((yields_pure _).leads ⟨measured, rfl, ?_⟩)
    simp only [shows]
    exact stands.play (stands.shown.set board (.batteryLeds orangeOn whiteOn))
  cases event with
  | systemShuttingDown | systemHibernating =>
      exact leads_bind (ring .auto).1 (gives_readAndSaveState (ring .auto).2)
  | systemSleeping =>
      exact leads_bind (ring (.animation .sleep)).1
        (gives_readAndSaveState (ring (.animation .sleep)).2)
  | systemWakingUp =>
      have shown : Yields detection.device codec thread (before.lockedBy (some thread))
          (Io.readState >>= fun state => Io.ok? (restoreState detection.device state) >>= fun _ =>
            pure ()) (.ok ()) ((before.lockedBy (some thread)).play detection.device
              (Setter.actionsAll detection.device (settingSetters store.settings.val)
                (before.lockedBy (some thread)))) := by
        refine yields_bind yields_readState ?_
        rw [stands.found]
        exact yields_bind (yields_ok? (yields_restoreState store.settings)) (yields_pure _)
      exact leads_bind (yields_ok? (yields_withState stands.free shown))
        ((yields_pure _).leads ⟨default, rfl, stands.reapplied board _⟩)
  | chargerConnected =>
      refine leads_sensed_ok? senses_rsoc fun charge => ?_
      refine leads_bind (yields_ok? (yields_readChargeLimit stands.shown)) ?_
      by_cases full : store.settings.val.chargeLimit.asPercent.2 ≤ charge
      · simp only [ge_iff_le, Store.shown, full, if_true]
        exact leds false true { (default : Measured) with charge } (by simp [Store.notify, full])
      · simp only [ge_iff_le, Store.shown, full, if_false]
        exact leds true false { (default : Measured) with charge } (by simp [Store.notify, full])
  | chargerDisconnected => exact leds false false default rfl

theorem Gives.runs {computation : Io α} {answer : Measured → Except Failure α × Store}
    {reply : Except Failure α} (gives : Gives ec codec thread before computation answer)
    (ran : Fallible.Runs (driftingSemantics ec codec thread) computation before reply after) :
    ∃ measured, (answer measured).1 = reply ∧ Stands codec ec (answer measured).2 after := by
  obtain ⟨reached, ⟨measured, rfl, stands⟩, alike⟩ := gives _ _ _ (.refl ec before) ran
  exact ⟨measured, rfl, stands.alike alike⟩

theorem gives_doWork (board : detection.profile = .n155a) (request : IpcRequest)
    (stands : Stands codec detection.device store before) :
    Gives detection.device codec thread before (doWork detection.device request)
      fun measured => store.serve detection.device.hramOffset measured request := by
  cases request with
  | getSystemState | getFansRPM | getTemperatures | getChargeLimit | getPowerProfile
  | getKeyboardBacklight => exact gives_getter trivial stands
  | setPowerProfile | setFanMode | setKeyboardBacklight | setChargeLimit | setLedMode =>
      exact gives_setter board rfl stands
  | daemonCommand command => exact gives_command board command stands

theorem daemon_refines (board : detection.profile = .n155a) :
    Refines (fun world store => Stands codec detection.device store world)
      (driftingSemantics detection.device codec thread)
      (storeSemantics detection.device.hramOffset) (daemonHandler detection.device) := by
  intro operation before after reply store stands ran
  cases operation with
  | call call =>
      cases call with
      | doWork request => exact (gives_doWork board request stands).runs ran
      | saveState =>
          obtain ⟨measured, same, kept⟩ := (gives_saveOnReset stands).runs ran
          exact ⟨measured, same, kept⟩
  | event event => exact (gives_event board event stands).runs ran

theorem yields_init (startEnabled : Bool) (clientId : UInt64) :
    Yields ec codec thread before (Telemetry.init startEnabled clientId) (.ok ())
      { before with
        telemetryEnabled := startEnabled, channelOpen := true, telemetryId := clientId
        workerStarted := true } := by
  refine yields_bind (yields_switch startEnabled) ?_
  refine yields_bind (yields_effect (fun world => { world with channelOpen := true })
    (fun _ _ _ => rfl) (fun _ => rfl) (fun _ => rfl)
    fun _ same => { same with channelOpen := rfl }) ?_
  refine yields_bind (yields_effect (fun world => { world with telemetryId := clientId })
    (fun _ _ _ => rfl) (fun _ => rfl) (fun _ => rfl)
    fun _ same => { same with telemetryId := rfl }) ?_
  exact yields_effect (fun world => { world with workerStarted := true })
    (fun _ _ _ => rfl) (fun _ => rfl) (fun _ => rfl) fun _ same => { same with workerStarted := rfl }

theorem yields_send (data : TelemetryData) (enabled : before.telemetryEnabled = true)
    (channel : before.channelOpen = true) :
    Yields ec codec thread before (Telemetry.send data) (.ok ())
      { before with telemetryQueue := before.telemetryQueue ++ [data] } := by
  have asked : Yields ec codec thread before Telemetry.isEnabled (.ok true) before :=
    yields_effect id (fun _ _ same => by rw [daemonSemantics, same.telemetryEnabled, enabled]; rfl)
      (fun _ => rfl) (fun _ => rfl) fun _ same => same
  refine yields_bind asked ?_
  exact yields_effect
    (fun world => { world with telemetryQueue := world.telemetryQueue ++ [data] })
    (fun _ _ same => by rw [daemonSemantics, same.channelOpen, if_pos channel]) (fun _ => rfl)
    (fun _ => rfl) fun _ same => { same with telemetryQueue := by rw [same.telemetryQueue] }

theorem yields_publish (settings : CurrentSettings) :
    Yields ec codec thread before (Io.publishEc >>= fun _ => Io.publishState settings) (.ok ())
      { before with ecPublished := true, settings, statePublished := true } :=
  yields_bind (yields_effect (fun world => { world with ecPublished := true })
    (fun _ _ _ => rfl) (fun _ => rfl) (fun _ => rfl)
    fun _ same => { same with ecPublished := rfl })
  (yields_effect (fun world => { world with settings, statePublished := true })
    (fun _ _ _ => rfl) (fun _ => rfl) (fun _ => rfl)
    fun _ same => { same with settings := rfl, statePublished := rfl })

/-- Whatever is in the EC, a process that starts resumes what was saved. -/
theorem leads_startUp (board : detection.profile = .n155a) (host : SystemInfo) (memory : EcMemory)
    (saved : Option Applicable) :
    Leads detection.device codec thread
      (World.fresh memory (Applicable.file codec saved))
      (startUp detection.device host) fun outcome after => outcome = .ok () ∧
        ∃ clock, Stands codec detection.device (.resume saved clock) after := by
  refine leads_then leads_loadOrDefault ?_
  rintro found after ⟨decoded, rfl⟩
  obtain ⟨clock, rfl⟩ : ∃ clock, found = (saved.getD (.default clock)).val := by
    cases saved with
    | none => exact decoded
    | some settings =>
        simp only [decodedFile, World.fresh, Applicable.file, Option.map_some, Option.bind_some,
          codec.decode_encode] at decoded
        exact ⟨0, decoded⟩
  obtain ⟨settings, chosen⟩ : ∃ settings, saved.getD (Applicable.default clock) = settings :=
    ⟨_, rfl⟩
  have resumed : Store.resume saved clock =
      { settings, ring := settings.val.ledMode, lights := none, saved,
        reporting := settings.val.telemetryEnabled } := by
    rw [Store.resume, chosen]
  rw [chosen]
  obtain ⟨restored, reached⟩ : ∃ restored, restored =
      (World.fresh memory (Applicable.file codec saved)).play detection.device
        (Setter.actionsAll detection.device (settingSetters settings.val)
          (World.fresh memory (Applicable.file codec saved))) := ⟨_, rfl⟩
  have shown : Shown detection.device settings.val none restored := by
    rw [reached]
    exact Shown.restore board settings (fun flag => by cases flag) (fun _ impossible => by cases impossible)
  have same : (World.fresh memory (Applicable.file codec saved)).SameElsewhere
      restored := by
    rw [reached]
    exact World.play_sameElsewhere _
  have stands : ∀ telemetryQueue, Stands codec detection.device (.resume saved clock)
      { restored with
        telemetryQueue, telemetryEnabled := settings.val.telemetryEnabled, channelOpen := true
        telemetryId := settings.val.telemetryClientId, workerStarted := true, ecPublished := true
        settings := settings.val, statePublished := true } := by
    intro telemetryQueue
    rw [resumed]
    exact ⟨rfl, ⟨shown.restored, shown.coherent, shown.lit⟩, same.stateLock, same.stateFile, rfl⟩
  refine leads_bind (yields_ok? (yields_restoreState settings)) ?_
  rw [← reached]
  refine leads_bind (yields_init _ _) ?_
  have senses : Senses detection.device codec thread (readSystemInfo detection.device) :=
    senses_batch (readSystemInfo_reads detection.device).1 _ fun _ => rfl
  cases enabled : settings.val.telemetryEnabled with
  | false =>
      rw [enabled] at stands
      exact (yields_publish settings.val).leads ⟨rfl, clock, stands _⟩
  | true =>
      rw [enabled] at stands
      refine leads_sensed senses fun chip => leads_bind (yields_send _ rfl rfl) ?_
      exact (yields_publish settings.val).leads ⟨rfl, clock, stands _⟩

theorem run_startUp (board : detection.profile = .n155a) (host : SystemInfo) (memory : EcMemory)
    (saved : Option Applicable) :
    let started := (Program.run (driftingSemantics detection.device codec thread)
      (startUp detection.device host).run []
      (World.fresh memory (Applicable.file codec saved))).2
    Fallible.Runs (driftingSemantics detection.device codec thread) (startUp detection.device host)
        (World.fresh memory (Applicable.file codec saved)) (.ok ()) started ∧
      ∃ clock, Stands codec detection.device (.resume saved clock) started := by
  intro started
  have ran : Fallible.Runs (driftingSemantics detection.device codec thread)
      (startUp detection.device host) (World.fresh memory (Applicable.file codec saved)) _ started :=
    Program.run_runs _ [] _
  obtain ⟨after, ⟨fine, clock, stands⟩, alike⟩ :=
    leads_startUp board host memory saved _ _ _ (.refl _ _) ran
  rw [fine] at ran
  exact ⟨ran, clock, stands.alike alike⟩

end Serving

section Histories

variable {α : Type} {codec : SettingsCodec} {thread : ThreadId} {detection : Detection}

/-- Whatever clients and the system ask of a daemon that nothing fails, one thing after
another and in any order, it answers and shows as the store does. -/
theorem daemon_keeps_store (board : detection.profile = .n155a) {program : Program storeOps α}
    {store : Store} {before after : World} {value : α}
    (stands : Stands codec detection.device store before)
    (ran : (program.expand (daemonHandler detection.device)).Runs
      (driftingSemantics detection.device codec thread) before value after) :
    ∃ reached, program.Runs (storeSemantics detection.device.hramOffset) store value reached ∧
      Stands codec detection.device reached after :=
  Refines.runs (daemon_refines board) stands ran

/-- A limit is set, the laptop sleeps, and the limit is asked for. -/
def limitAcrossSleep : Program storeOps (Except Failure IpcResponse) :=
  .perform (.call (.doWork (.setChargeLimit .balanced))) fun _ =>
    .perform (.event .systemSleeping) fun _ =>
      .perform (.call (.doWork .getChargeLimit)) .done

theorem daemon_keeps_limit :
    let ec := Detection.n155a.device
    let started := (Program.run (driftingSemantics ec .bincode 0)
      (startUp ec ⟨"cpu", "os", "board"⟩).run [] (World.fresh (fun _ => 0x77) none)).2
    let ended := Program.run (driftingSemantics ec .bincode 0)
      (limitAcrossSleep.expand (daemonHandler ec)) [] started
    ∃ charge reached, ended.1 = .ok (.chargeLimit 70 80 charge) ∧
      Stands .bincode ec reached ended.2 ∧ reached.ring = .animation .sleep := by
  intro ec started ended
  obtain ⟨-, clock, stands⟩ : _ ∧ ∃ clock, Stands .bincode ec (.resume none clock) started :=
    run_startUp rfl _ _ none
  have ran : (limitAcrossSleep.expand (daemonHandler ec)).Runs (driftingSemantics ec .bincode 0)
      started ended.1 ended.2 := Program.run_runs _ [] started
  obtain ⟨reached, ⟨_, _, measured, same, rfl⟩, kept⟩ :=
    daemon_keeps_store rfl stands ran
  exact ⟨measured.charge, _, same, kept, rfl⟩

/-- One life of the process: what it is asked and answers, and the world after the start-up
and at the end. -/
structure Lifetime (α : Type) where
  program : Program storeOps α
  value : α
  started : World
  ended : World

/-- Each time the process starts on whatever is in the EC and the file that is left, serves,
and is gone. -/
def Restarts (ec : EcDevice) (codec : SettingsCodec) (thread : ThreadId) (host : SystemInfo) :
    List (Lifetime α) → Option (List UInt8) → Option (List UInt8) → Prop
  | [], file, left => left = file
  | life :: rest, file, left =>
      (∃ memory, Fallible.Runs (driftingSemantics ec codec thread) (startUp ec host)
        (World.fresh memory file) (.ok ()) life.started) ∧
      (life.program.expand (daemonHandler ec)).Runs (driftingSemantics ec codec thread)
        life.started life.value life.ended ∧
      Restarts ec codec thread host rest life.ended.stateFile left

/-- Each life stands for a store that resumes what the one before has saved, from the end of
the start-up, when the hardware shows it, to its own end. -/
def Store.Restarts (ec : EcDevice) (codec : SettingsCodec) :
    List (Lifetime α) → Option Applicable → Option Applicable → Prop
  | [], saved, left => left = saved
  | life :: rest, saved, left => ∃ clock reached,
      Stands codec ec (.resume saved clock) life.started ∧
      life.program.Runs (storeSemantics ec.hramOffset) (.resume saved clock) life.value reached ∧
      Stands codec ec reached life.ended ∧ Store.Restarts ec codec rest reached.saved left

/-- Nothing but what was saved goes from one life of the process into the next, and the EC
shows it again whatever has become of the registers meanwhile. -/
theorem daemon_resumes (board : detection.profile = .n155a) {host : SystemInfo}
    {lives : List (Lifetime α)} {saved : Option Applicable} {left : Option (List UInt8)}
    (ran : Restarts detection.device codec thread host lives
      (Applicable.file codec saved) left) :
    ∃ kept, Store.Restarts detection.device codec lives saved kept ∧
      left = Applicable.file codec kept := by
  induction lives generalizing saved with
  | nil => exact ⟨saved, rfl, ran⟩
  | cons life rest ih =>
      obtain ⟨⟨memory, began⟩, served, later⟩ := ran
      obtain ⟨resumed, ⟨-, clock, stands⟩, alike⟩ :=
        leads_startUp board host memory saved _ _ _ (.refl _ _) began
      have shows : Stands codec detection.device (.resume saved clock) life.started :=
        stands.alike alike
      obtain ⟨reached, answered, kept⟩ := Refines.runs (daemon_refines board) shows served
      rw [kept.file] at later
      obtain ⟨last, rested, same⟩ := ih later
      exact ⟨last, ⟨clock, reached, shows, answered, kept, rested⟩, same⟩

/-- A limit is set before the laptop is shut down. -/
def limitAndShutdown : Program storeOps (Except Failure IpcResponse) :=
  .perform (.call (.doWork (.setChargeLimit .balanced))) fun res =>
    .perform (.event .systemShuttingDown) fun _ => .done res

def askLimit : Program storeOps (Except Failure IpcResponse) :=
  .perform (.call (.doWork .getChargeLimit)) .done

/-- The limit is there again after the registers have been lost, in the answer and in the
registers. -/
theorem daemon_resumes_limit :
    let ec := Detection.n155a.device
    let semantics := driftingSemantics ec .bincode 0
    let start := fun memory file => (Program.run semantics
      (startUp ec ⟨"cpu", "os", "board"⟩).run [] (World.fresh memory file)).2
    let first := Program.run semantics (limitAndShutdown.expand (daemonHandler ec)) []
      (start (fun _ => 0x77) none)
    let second := Program.run semantics (askLimit.expand (daemonHandler ec)) []
      (start (fun _ => 0) first.2.stateFile)
    (∃ charge, second.1 = .ok (.chargeLimit 70 80 charge)) ∧
      ∃ store, Stands .bincode ec store (start (fun _ => 0) first.2.stateFile) ∧
        store.settings.val.chargeLimit = .balanced := by
  intro ec semantics start first second
  have started : ∀ memory saved, Fallible.Runs semantics (startUp ec ⟨"cpu", "os", "board"⟩)
        (World.fresh memory (Applicable.file .bincode saved)) (.ok ())
        (start memory (Applicable.file .bincode saved)) ∧
      ∃ clock, Stands .bincode ec (.resume saved clock)
        (start memory (Applicable.file .bincode saved)) :=
    fun memory saved => run_startUp rfl _ memory saved
  have served : (limitAndShutdown.expand (daemonHandler ec)).Runs semantics
      (start (fun _ => 0x77) none) first.1 first.2 := Program.run_runs _ [] _
  obtain ⟨clock, stands⟩ := (started (fun _ => 0x77) none).2
  obtain ⟨reached, -, kept⟩ := Refines.runs (daemon_refines rfl) stands served
  have began : ∃ memory, Fallible.Runs semantics (startUp ec ⟨"cpu", "os", "board"⟩)
      (World.fresh memory (Applicable.file .bincode none)) (.ok ()) (start (fun _ => 0x77) none) :=
    ⟨_, (started (fun _ => 0x77) none).1⟩
  have later : ∃ memory, Fallible.Runs semantics (startUp ec ⟨"cpu", "os", "board"⟩)
      (World.fresh memory first.2.stateFile) (.ok ()) (start (fun _ => 0) first.2.stateFile) := by
    rw [kept.file]
    exact ⟨_, (started (fun _ => 0) reached.saved).1⟩
  have asked : (askLimit.expand (daemonHandler ec)).Runs semantics
      (start (fun _ => 0) first.2.stateFile) second.1 second.2 := Program.run_runs _ [] _
  have restarts : Restarts ec .bincode 0 ⟨"cpu", "os", "board"⟩
      [⟨limitAndShutdown, first.1, start (fun _ => 0x77) none, first.2⟩,
        ⟨askLimit, second.1, start (fun _ => 0) first.2.stateFile, second.2⟩]
      (Applicable.file .bincode none) second.2.stateFile := by
    simp only [Restarts]
    exact ⟨began, served, later, asked, trivial⟩
  obtain ⟨left, ⟨_, _, _, ⟨_, _, _, rfl⟩, _, _, _, shown, ⟨measured, same, _⟩, _⟩, _⟩ :=
    daemon_resumes rfl restarts
  have answer : second.1 = .ok (.chargeLimit 70 80 measured.charge) := same
  simp only at shown
  exact ⟨⟨measured.charge, answer⟩, _, shown, rfl⟩

end Histories

end Lecoo.Daemon
