import Lecoo.Effects.Monitor
import Lecoo.Daemon.Scopes

namespace Lecoo.Daemon

open Lecoo.Effects Lecoo.Ipc Lecoo.Ec Fallible

/-! # Custody of the settings

A thread comes to the settings, their file and the telemetry switch with the guard only.
While it has the guard it saves what it found in memory, and it hands on the consent it found
there, unless its job is to change that.
-/

/-- How far a thread has come with the guard and, while it has it, with a save. -/
inductive Custody where
  | away
  | holds (known : Option CurrentSettings)
  | emptied (settings : CurrentSettings)
  | writing (settings : CurrentSettings) (buffered : List UInt8)

namespace Custody

def permits : Custody → DaemonOp → Prop
  | .away, .tryLockState => True
  | .away, operation => operation.KeepsStore
  | .holds known, .createStateFile => known.isSome
  | .holds _, .tryLockState | .holds _, .publishState _ | .holds _, .dropWriter _ => False
  | .holds _, _ => True
  | .emptied settings, .encodeSettings encoded => encoded = settings
  | .writing _ buffered, .dropWriter bytes => bytes = buffered
  | _, _ => False

def next : Custody → (operation : DaemonOp) → daemonOps.Reply operation → Custody
  | .away, .tryLockState, true => .holds none
  | .holds _, .unlockState, _ => .away
  | .holds _, .readState, settings => .holds (some settings)
  | .holds _, .writeState settings, _ => .holds (some settings)
  | .holds (some settings), .createStateFile, .ok _ => .emptied settings
  | .emptied settings, .encodeSettings _, written => .writing settings written.1
  | .writing settings _, .dropWriter _, _ => .holds (some settings)
  | custody, _, _ => custody

def Held (custody : Custody) : Prop := ∃ known, custody = .holds known

/-- What the thread has read last, or written. -/
def known : Custody → Option CurrentSettings
  | .holds known => known
  | _ => none

end Custody

/-- What the job puts into the settings as the consent. -/
def Job.consent : Job → Option Bool
  | .request (.daemonCommand .restoreDefaults) => some true
  | .request (.daemonCommand (.activateTelemetry isEnabled)) => some isEnabled
  | _ => none

/-- The job changes the consent as it is told to, or not at all. -/
def Job.Sanctions (job : Job) (custody : Custody) : DaemonOp → Prop
  | .writeState settings => some settings.telemetryEnabled =
      job.consent.or (custody.known.map CurrentSettings.telemetryEnabled)
  | .storeTelemetryEnabled value =>
      job = .request (.daemonCommand (.activateTelemetry value)) ∧ custody.Held
  | .startTelemetryWorker => False
  | _ => True

def custodyMonitor (job : Job) : Monitor daemonOps Custody where
  permits custody operation := custody.permits operation ∧ job.Sanctions custody operation
  next := Custody.next

/-- While it has the guard the thread may do this, and it has it still at the end. -/
abbrev Keeps {α : Type} (job : Job) (computation : Io α) (known : Option CurrentSettings) : Prop :=
  Heeds (custodyMonitor job) (fun custody _ => custody.Held) computation (.holds known)

section Programs

variable {α β : Type} {job : Job} {known : Option CurrentSettings}

theorem keeps_bind {computation : Io α} {rest : α → Io β} (first : Keeps job computation known)
    (second : ∀ value known, Keeps job (rest value) known) :
    Keeps job (computation >>= rest) known := by
  refine heeds_bind first (fun _ _ => id) fun custody value ⟨later, same⟩ => ?_
  rw [same]
  exact second value later

theorem keeps_pure (value : α) : Keeps job (pure value : Io α) known := ⟨known, rfl⟩

/-- What may be done without the guard may be done under it. -/
theorem outside_keeps {computation : Io α} (outside : Uses DaemonOp.Outside computation) :
    Keeps job computation known := by
  have ended : ∀ (program : Task (Except Failure α)) known,
      Program.Uses DaemonOp.Outside program →
      program.Heeds (custodyMonitor job) (fun custody _ => custody.Held) (.holds known) := by
    intro program
    induction program with
    | done outcome => exact fun known _ => ⟨known, rfl⟩
    | perform operation next ih =>
        intro known uses
        cases operation with
        | readState =>
            refine ⟨⟨trivial, trivial⟩, fun settings => ih settings (some settings) ?_⟩
            exact uses.2 settings
        | tryLockState | unlockState | writeState | publishState | createStateFile | dropWriter
        | storeTelemetryEnabled | startTelemetryWorker => cases uses.1
        | _ => exact ⟨⟨trivial, trivial⟩, fun reply => ih reply known (uses.2 reply)⟩
  exact ended computation.run known outside

theorem keeps_readState {rest : CurrentSettings → Io α}
    (second : ∀ settings, Keeps job (rest settings) (some settings)) :
    Keeps job (Io.readState >>= rest) known :=
  ⟨⟨trivial, trivial⟩, fun settings => second settings⟩

/-- The change gives the settings the consent that the job stands for. -/
def Job.Effects (job : Job) (change : CurrentSettings → CurrentSettings) : Prop :=
  ∀ settings, (change settings).telemetryEnabled = job.consent.getD settings.telemetryEnabled

theorem keeps_modifyState {change : CurrentSettings → CurrentSettings}
    (effects : job.Effects change) : Keeps job (Io.modifyState change) known := by
  refine ⟨⟨trivial, trivial⟩, fun settings => ⟨⟨trivial, ?_⟩, fun _ => ⟨_, rfl⟩⟩⟩
  change some (change settings).telemetryEnabled = job.consent.or (some settings.telemetryEnabled)
  rw [effects settings]
  cases job.consent <;> rfl

theorem keeps_ok? {computation : Io α} (keeps : Keeps job computation known) :
    Keeps job (Io.ok? computation) known := by
  refine Program.Heeds.bind keeps fun custody outcome held => ?_
  rcases outcome with (_ | _) | _ <;> exact held

theorem keeps_save (settings : CurrentSettings) : Keeps job (save settings) (some settings) := by
  have kept : Custody.Held (.holds (some settings)) := ⟨_, rfl⟩
  unfold Keeps Fallible.Heeds
  rw [save_run]
  refine ⟨⟨trivial, trivial⟩, fun made => ?_⟩
  cases made with
  | error failure => exact kept
  | ok value =>
      refine ⟨⟨rfl, trivial⟩, fun created => ?_⟩
      cases created with
      | error failure => exact kept
      | ok value =>
          exact ⟨⟨rfl, trivial⟩, fun written => ⟨⟨rfl, trivial⟩, fun _ => kept⟩⟩

variable {ec : EcDevice}

theorem keeps_onEc {computation : Io α} (onEc : Uses DaemonOp.OnEc computation) :
    Keeps job computation known :=
  outside_keeps (Program.Uses.mono (fun _ operation => operation.outside) onEc)

theorem keeps_reads {computation : Io α} (reads : Uses DaemonOp.ReadsEc computation) :
    Keeps job computation known :=
  keeps_onEc (Program.Uses.mono (fun _ operation => operation.onEc) reads)

theorem keeps_resetScope : Keeps job resetScope known :=
  keeps_readState fun settings =>
    keeps_bind (keeps_ok? (keeps_save settings)) fun _ _ => keeps_pure _

theorem keeps_wakeScope : Keeps job (wakeScope ec) known :=
  keeps_readState fun settings =>
    keeps_bind (keeps_ok? (keeps_onEc (restoreState_onEc ec settings))) fun _ _ => keeps_pure _

theorem keeps_updateState {reading : Io β} (reads : Uses DaemonOp.ReadsEc reading)
    {change : β → CurrentSettings → CurrentSettings}
    (effects : ∀ value, job.Effects (change value)) :
    Keeps job (updateState reading change) known := by
  refine keeps_bind (keeps_ok? (keeps_reads reads)) fun value known => ?_
  cases value with
  | none => exact keeps_pure _
  | some value => exact keeps_modifyState (effects value)

theorem keeps_updateChargeLimit (untold : job.consent = none) :
    Keeps job (updateChargeLimit ec) known := by
  refine keeps_bind (keeps_ok? (keeps_reads (readChargeLimit_reads ec))) fun limits known => ?_
  cases limits with
  | none => exact keeps_pure _
  | some limits =>
      cases found : ChargeLimit.fromPredefined limits.1 limits.2 with
      | none => simp only [found]; exact keeps_pure _
      | some limit =>
          simp only [found]
          exact keeps_modifyState fun settings => by rw [untold]; rfl

theorem keeps_refreshScope (untold : job.consent = none) :
    Keeps job (refreshScope ec) known := by
  have effects : ∀ {γ : Type} {change : γ → CurrentSettings → CurrentSettings},
      (∀ value settings, (change value settings).telemetryEnabled = settings.telemetryEnabled) →
      ∀ value, job.Effects (change value) := by
    intro γ change keeps value settings
    rw [keeps, untold]
    rfl
  refine keeps_bind (keeps_updateState (readKeyboardBacklight_reads ec)
    (effects fun _ _ => rfl)) fun _ _ => ?_
  refine keeps_bind (keeps_updateState (readPowerProfile_reads ec)
    (effects fun _ _ => rfl)) fun _ _ => ?_
  exact keeps_bind (keeps_updateChargeLimit untold) fun _ _ => keeps_resetScope

theorem keeps_commandScope {command : DaemonCommand} {scope : Io IpcResponse}
    (found : commandScope ec command = some scope) :
    Keeps (.request (.daemonCommand command)) scope known := by
  cases command with
  | restoreDefaults =>
      cases found
      refine keeps_bind (outside_keeps (uses_always (Io.uses_perform trivial))) fun hash _ => ?_
      refine ⟨⟨trivial, rfl⟩, fun _ => ?_⟩
      refine keeps_readState fun settings => keeps_bind (keeps_save settings) fun _ _ => ?_
      refine keeps_readState fun settings => ?_
      exact keeps_bind (keeps_onEc (restoreState_onEc ec settings)) fun _ _ => keeps_pure _
  | activateTelemetry isEnabled =>
      cases found
      refine keeps_bind (keeps_modifyState fun _ => rfl) fun _ _ => ?_
      refine keeps_readState fun settings => keeps_bind (keeps_save settings) fun _ known => ?_
      cases isEnabled <;> exact ⟨⟨trivial, rfl, known, rfl⟩, fun _ => ⟨known, rfl⟩⟩
  | applySettings =>
      cases found
      refine keeps_readState fun settings => ?_
      exact keeps_bind (keeps_onEc (restoreState_onEc ec settings)) fun _ _ => keeps_pure _
  | getSettings | getTelemetryId =>
      cases found
      exact keeps_readState fun _ => keeps_pure _
  | _ => cases found

theorem Job.guard_keeps {job : Job} {guard : Guard} (needs : job.guard ec = some guard) :
    Keeps job guard.scope none := by
  cases job with
  | request asked =>
      cases sets : requestSetter asked with
      | some setter =>
          simp only [Job.guard, requestGuard, sets, Option.some.injEq] at needs
          subst needs
          have untold : (Job.request asked).consent = none := by
            cases asked <;> first | rfl | cases sets
          refine keeps_bind (keeps_modifyState fun settings => ?_) fun _ _ => keeps_pure _
          rw [(record_telemetry setter settings).1, untold]
          rfl
      | none =>
          cases asked with
          | daemonCommand command =>
              obtain ⟨scope, found, rfl⟩ := Option.map_eq_some_iff.mp needs
              exact keeps_commandScope found
          | setPowerProfile | setFanMode | setKeyboardBacklight | setChargeLimit | setLedMode =>
              cases sets
          | _ => cases needs
  | connectionReset =>
      cases needs
      exact keeps_resetScope
  | event happened =>
      cases happened with
      | systemShuttingDown | systemHibernating | systemSleeping =>
          cases needs
          exact keeps_refreshScope rfl
      | systemWakingUp =>
          cases needs
          exact keeps_wakeScope
      | chargerConnected | chargerDisconnected => cases needs
  | _ => cases needs

/-- A job comes to the file and the switch with the guard only, and with what it found in
memory. -/
theorem Job.work_heeds {job : Job} (running : ∀ host, job ≠ .startUp host) :
    Fallible.Heeds (custodyMonitor job) (fun custody _ => custody = .away) (job.work ec) .away := by
  have stays : ∀ {β : Type} {program : Task β}, Program.Uses DaemonOp.Outside program →
      program.Heeds (custodyMonitor job) (fun custody _ => custody = .away) .away := by
    intro β program uses
    refine uses.heeds (fun operation outside => ?_) fun operation reply outside => ?_
    · cases operation <;> first | exact outside.elim | exact ⟨trivial, trivial⟩
    · cases operation <;> first | rfl | cases outside
  cases needs : job.guard ec with
  | none => exact stays (job.unguarded_outside ec needs running)
  | some guard =>
      have proper := Job.guard_proper ec needs
      rw [Fallible.Heeds, Job.work_guard ec needs, Guard.program_eq]
      refine Program.Heeds.bind (stays proper.before) fun custody outcome same => ?_
      subst same
      cases outcome with
      | error failure => rfl
      | ok value =>
          refine ⟨⟨trivial, trivial⟩, fun acquired : Bool => ?_⟩
          cases acquired with
          | false => rfl
          | true =>
              refine Program.Heeds.bind (Job.guard_keeps needs) fun custody outcome held => ?_
              obtain ⟨known, rfl⟩ := held
              exact ⟨⟨trivial, trivial⟩, fun _ => rfl⟩

end Programs

end Lecoo.Daemon
