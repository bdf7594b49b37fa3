import Lecoo.Daemon.Readings
import Lecoo.Daemon.Restore

namespace Lecoo.Daemon

open Lecoo.Effects Lecoo.Ipc Lecoo.Ec Lecoo.Data Fallible

/-! # What the parts of the daemon have access to

The hardware functions keep to the EC and the LED flag, saving and loading to
the file; neither touches the settings in memory, their lock, or the telemetry
atomics.
-/

variable {codec : SettingsCodec} {thread : ThreadId} {before after : World}

/-- The operations on the EC and the flag that summarises part of it. -/
def DaemonOp.OnEc : DaemonOp → Prop
  | .batch _ | .loadLedCustom | .storeLedCustom _ => True
  | _ => False

/-- The operations on the settings file and its directory. -/
def DaemonOp.OnFile : DaemonOp → Prop
  | .createStateDir | .createStateFile | .encodeSettings _ | .dropWriter _
  | .stateFileExists | .openStateFile | .decodeStateFile => True
  | _ => False

/-- The operations that leave the settings in memory, their lock, and the
telemetry switch and identity as they are. -/
def DaemonOp.KeepsControl : DaemonOp → Prop
  | .tryLockState | .unlockState | .writeState _ | .storeTelemetryEnabled _
  | .storeTelemetryId _ | .publishState _ => False
  | _ => True

theorem DaemonOp.OnEc.keepsControl {operation : DaemonOp} (onEc : operation.OnEc) :
    operation.KeepsControl := by
  cases operation <;> trivial

theorem DaemonOp.OnFile.keepsControl {operation : DaemonOp} (onFile : operation.OnFile) :
    operation.KeepsControl := by
  cases operation <;> trivial

theorem DaemonOp.ReadsEc.onEc {operation : DaemonOp} (reads : operation.ReadsEc) :
    operation.OnEc := by
  cases operation <;> trivial

structure World.SameControl (before after : World) : Prop where
  settings : after.settings = before.settings
  stateLock : after.stateLock = before.stateLock
  telemetryEnabled : after.telemetryEnabled = before.telemetryEnabled
  telemetryId : after.telemetryId = before.telemetryId

theorem World.SameControl.trans {first second third : World}
    (left : first.SameControl second) (right : second.SameControl third) :
    first.SameControl third :=
  ⟨right.settings.trans left.settings, right.stateLock.trans left.stateLock,
    right.telemetryEnabled.trans left.telemetryEnabled, right.telemetryId.trans left.telemetryId⟩

theorem daemonSemantics_onFile {operation : DaemonOp} (onFile : operation.OnFile)
    (choice : Choice) (world : World) : ∃ stateFile,
      (daemonSemantics codec thread operation choice world).2 = world.withFile stateFile := by
  cases operation with
  | createStateFile =>
      simp only [daemonSemantics]
      split
      · exact ⟨some [], rfl⟩
      · exact ⟨world.stateFile, rfl⟩
  | dropWriter buffered => exact ⟨world.stateFile.map (· ++ choice.passed buffered), rfl⟩
  | decodeStateFile =>
      simp only [daemonSemantics]
      split <;> exact ⟨world.stateFile, rfl⟩
  | createStateDir | encodeSettings | stateFileExists | openStateFile =>
      exact ⟨world.stateFile, rfl⟩
  | _ => cases onFile

theorem daemonSemantics_keepsControl {operation : DaemonOp} (keeps : operation.KeepsControl)
    (choice : Choice) (world : World) :
    world.SameControl (daemonSemantics codec thread operation choice world).2 := by
  by_cases onFile : operation.OnFile
  · obtain ⟨stateFile, written⟩ : ∃ stateFile,
        (daemonSemantics codec thread operation choice world).2 = world.withFile stateFile :=
      daemonSemantics_onFile onFile choice world
    rw [written]
    exact ⟨rfl, rfl, rfl, rfl⟩
  · cases operation with
    | receiveTelemetry =>
        simp only [daemonSemantics]
        split <;> exact ⟨rfl, rfl, rfl, rfl⟩
    | queueTelemetry data =>
        simp only [daemonSemantics]
        split <;> exact ⟨rfl, rfl, rfl, rfl⟩
    | batch | loadLedCustom | storeLedCustom | readState | systemTimeHash | loadTelemetryEnabled
    | loadTelemetryId | openTelemetryChannel | postTelemetry | startTelemetryWorker | ecPublished
    | publishEc =>
        exact ⟨rfl, rfl, rfl, rfl⟩
    | _ => first | exact absurd trivial onFile | cases keeps

theorem alone_keepsControl {α : Type} {computation : Io α} {result : Except Failure α}
    (keeps : Uses DaemonOp.KeepsControl computation)
    (ran : Alone codec thread computation before result after) : before.SameControl after :=
  Program.Uses.preserves World.SameControl keeps (fun _ => ⟨rfl, rfl, rfl, rfl⟩)
    World.SameControl.trans
    (fun _ choice world keeps => daemonSemantics_keepsControl keeps choice world) ran

variable (ec : EcDevice)

theorem script_uses {permitted : DaemonOp → Prop} {steps : List Step}
    (batches : ∀ writes, .batch writes ∈ steps →
      permitted (.batch (EcBatch.writes (ec.place writes))))
    (stores : ∀ value, permitted (.storeLedCustom value)) :
    Uses permitted (script ec steps) := by
  induction steps with
  | nil => exact uses_pure _
  | cons step rest ih =>
      have later := ih fun writes member => batches writes (List.mem_cons_of_mem _ member)
      cases step with
      | batch writes =>
          exact uses_bind (uses_attempt (Io.uses_perform (batches writes List.mem_cons_self)))
            fun _ => later
      | storeLed value =>
          exact uses_bind (uses_always (Io.uses_perform (stores value))) fun _ => later

theorem apply_uses {permitted : DaemonOp → Prop} (setter : Setter)
    (flag : permitted .loadLedCustom)
    (port : permitted (.batch (EcBatch.readReg ec.offsets.regGpdra)))
    (scripts : setter.Valid → ∀ ledCustom portA,
      Uses permitted (script ec (setter.steps ec ledCustom portA))) :
    Uses permitted (setter.apply ec) := by
  cases setter with
  | fanMode fan mode =>
      by_cases valid : (Setter.fanMode fan mode).Valid
      · rw [Setter.apply, applyFanMode_eq fan valid]
        exact scripts valid false 0
      · cases mode with
        | custom duty =>
            rw [Setter.apply, applyFanMode_refused fan (UInt8.not_le.mp valid)]
            exact uses_throw _
        | _ => exact absurd trivial valid
  | ledMode mode =>
      by_cases auto : mode = .auto
      · subst auto
        rw [Setter.apply, applyLedMode_auto]
        exact scripts trivial true 0
      · rw [Setter.apply, applyLedMode_eq auto]
        exact uses_bind (uses_always (Io.uses_perform flag)) fun custom => scripts trivial custom 0
  | keyboardBacklight level =>
      rw [Setter.apply, applyKeyboardBacklight_eq]
      exact scripts trivial false 0
  | chargeLimit limit =>
      rw [Setter.apply, applyChargeLimit_eq]
      exact scripts trivial false 0
  | powerProfile profile =>
      rw [Setter.apply, applyPowerProfile_eq]
      exact uses_bind (uses_bind (scripts trivial false 0) fun _ => uses_pure _) fun _ => uses_pure _
  | batteryLeds orangeOn whiteOn =>
      rw [Setter.apply, applyBatteryLeds_eq]
      exact uses_bind (uses_attempt (Io.uses_perform port)) fun portA => scripts trivial false portA

theorem restoreState_uses {permitted : DaemonOp → Prop}
    (setters : ∀ setter : Setter, Uses permitted (setter.apply ec)) (settings : CurrentSettings) :
    Uses permitted (restoreState ec settings) := by
  rw [restoreState_eq]
  induction settingSetters settings with
  | nil => exact uses_pure _
  | cons setter rest ih => exact uses_bind (setters setter) fun _ => ih

theorem apply_onEc (setter : Setter) : Uses DaemonOp.OnEc (setter.apply ec) :=
  apply_uses ec setter trivial trivial fun _ _ _ =>
    script_uses ec (fun _ _ => trivial) fun _ => trivial

theorem restoreState_onEc (settings : CurrentSettings) :
    Uses DaemonOp.OnEc (restoreState ec settings) :=
  restoreState_uses ec (apply_onEc ec) settings

theorem save_onFile (settings : CurrentSettings) : Uses DaemonOp.OnFile (save settings) := by
  refine uses_bind ⟨trivial, fun _ => trivial⟩ fun _ => ?_
  refine uses_bind ⟨trivial, fun _ => trivial⟩ fun _ => ?_
  refine uses_bind (uses_always ⟨trivial, fun _ => trivial⟩) fun written => ?_
  exact uses_bind (uses_always ⟨trivial, fun _ => trivial⟩) fun _ => trivial

/-- The operations that loading the settings is made of. -/
def DaemonOp.ForLoading (operation : DaemonOp) : Prop :=
  operation.OnFile ∨ operation = .systemTimeHash

theorem loadOrDefault_loads : Uses DaemonOp.ForLoading loadOrDefault := by
  have clock : Uses DaemonOp.ForLoading
      (Io.systemTimeHash >>= fun hash => pure (CurrentSettings.default hash)) :=
    uses_bind (uses_always (Io.uses_perform (.inr rfl))) fun _ => uses_pure _
  have loads : Uses DaemonOp.ForLoading load := by
    refine uses_bind (Io.uses_context (uses_attempt (Io.uses_perform (.inl trivial))) _) fun present => ?_
    cases present with
    | false => exact clock
    | true =>
        exact uses_bind (Io.uses_context (uses_attempt (Io.uses_perform (.inl trivial))) _) fun _ =>
          Io.uses_context (uses_attempt (Io.uses_perform (.inl trivial))) _
  refine uses_bind (Io.uses_ok? loads) fun loaded => ?_
  cases loaded with
  | none => exact clock
  | some settings => exact uses_pure _

theorem DaemonOp.ForLoading.keepsControl {operation : DaemonOp} (loads : operation.ForLoading) :
    operation.KeepsControl := by
  rcases loads with onFile | rfl
  · exact onFile.keepsControl
  · trivial

theorem loadOrDefault_keepsControl : Uses DaemonOp.KeepsControl loadOrDefault :=
  Program.Uses.mono (fun _ loads => loads.keepsControl) loadOrDefault_loads

theorem alone_save {settings : CurrentSettings} {result : Except Failure Unit}
    (ran : Alone codec thread (save settings) before result after) :
    ∃ stateFile, after = before.withFile stateFile := by
  refine Program.Uses.preserves
    (fun before after : World => ∃ stateFile, after = before.withFile stateFile)
    (save_onFile settings) (fun world => ⟨world.stateFile, rfl⟩) ?_ ?_ ran
  · rintro first second third ⟨_, rfl⟩ ⟨stateFile, rfl⟩
    exact ⟨stateFile, rfl⟩
  · exact fun operation choice world onFile => daemonSemantics_onFile onFile choice world

end Lecoo.Daemon
