import Lecoo.Daemon.Requests

namespace Lecoo.Daemon

open Lecoo.Effects Lecoo.Ipc Lecoo.Ec Fallible

/-! # The work of the daemon's threads -/

/-- One piece of work: a request of a connection, the end of a connection, a
service event, a round of the telemetry worker, the report of the panic hook,
or the start-up. -/
inductive Job where
  | request (request : IpcRequest)
  | connectionReset
  | event (event : InternalEvent)
  | workerRound
  | panicReport (error : String)
  | startUp (host : SystemInfo)

namespace Job

/-- The program of a job; a request ends with its response. -/
def work (ec : EcDevice) : Job → Io (Option IpcResponse)
  | .request asked => do return some (← doWork ec asked)
  | .connectionReset => do
      saveOnReset
      return none
  | .event happened => do
      processEvent ec happened
      return none
  | .workerRound => do
      Telemetry.workerRound ec
      return none
  | .panicReport message => do
      Telemetry.send (.panic message)
      return none
  | .startUp host => do
      Daemon.startUp ec host
      return none

end Job

/-- The jobs the threads of the daemon are working on. -/
abbrev DaemonPool (σ : Type) := Pool daemonOps ThreadId Job (Except Failure (Option IpcResponse)) σ

abbrev DaemonRun {σ : Type} (ec : EcDevice)
    (semantics : ThreadId → Job → Semantics daemonOps Choice σ)
    (allowed : DaemonPool σ → Event ThreadId Job Choice → Prop) :
    DaemonPool σ → List (Event ThreadId Job Choice) → DaemonPool σ → Prop :=
  Pool.Run (fun job => (job.work ec).run) semantics allowed

/-- The operations every job may come to: whatever is written to the EC is a
batch of a setter. -/
inductive DaemonOp.Usual (ec : EcDevice) : DaemonOp → Prop where
  | reads {operation : DaemonOp} (reads : operation.ReadsEc) : Usual ec operation
  | setterBatch {setter : Setter} {ledCustom : Bool} {portA : UInt8}
      {writes : List (Register × UInt8)}
      (member : .batch writes ∈ setter.steps ec ledCustom portA) :
      Usual ec (.batch (EcBatch.writes (ec.place writes)))
  | loadLed : Usual ec .loadLedCustom
  | storeLed (value : Bool) : Usual ec (.storeLedCustom value)
  | file {operation : DaemonOp} (onFile : operation.OnFile) : Usual ec operation
  | tryLock : Usual ec .tryLockState
  | unlock : Usual ec .unlockState
  | readState : Usual ec .readState
  | writeState (settings : CurrentSettings) : Usual ec (.writeState settings)
  | clock : Usual ec .systemTimeHash

section Usual

variable (ec : EcDevice)

theorem apply_usual (setter : Setter) : Uses (DaemonOp.Usual ec) (setter.apply ec) :=
  apply_uses ec setter .loadLed (.reads (EcBatch.readReg_isRead _)) fun _ _ _ =>
    script_uses ec (fun _ member => .setterBatch member) .storeLed

/-- What a job is made of: setters and readings, with operations of the daemon's
own in between. -/
structure Covers (permitted : DaemonOp → Prop) : Prop where
  reads : ∀ {operation : DaemonOp}, operation.ReadsEc → permitted operation
  setters : ∀ setter : Setter, Uses permitted (setter.apply ec)
  file : ∀ {operation : DaemonOp}, operation.OnFile → permitted operation
  tryLock : permitted .tryLockState
  unlock : permitted .unlockState
  readState : permitted .readState
  writeState : ∀ settings, permitted (.writeState settings)
  clock : permitted .systemTimeHash

theorem usual_covers : Covers ec (DaemonOp.Usual ec) where
  reads := .reads
  setters := apply_usual ec
  file := .file
  tryLock := .tryLock
  unlock := .unlock
  readState := .readState
  writeState := .writeState
  clock := .clock

theorem withState_uses {permitted : DaemonOp → Prop} {α : Type} {scope : Io α}
    (tryLock : permitted .tryLockState) (unlock : permitted .unlockState)
    (inside : Uses permitted scope) : Uses permitted (withState scope) := by
  have held : Program.Uses permitted
      (scope.run >>= fun outcome => Io.perform .unlockState >>= fun _ => pure outcome) :=
    Program.Uses.bind inside fun _ => ⟨unlock, fun _ => trivial⟩
  refine ⟨tryLock, fun acquired => ?_⟩
  cases acquired with
  | false => trivial
  | true => exact held

theorem doWork_uses {permitted : DaemonOp → Prop} {request : IpcRequest}
    (handles : Uses permitted (handleRequest ec request)) : Uses permitted (doWork ec request) := by
  rw [Uses, doWork_run]
  exact Program.Uses.bind handles fun _ => trivial

theorem Covers.mono {ec : EcDevice} {permitted wider : DaemonOp → Prop}
    (covers : Covers ec permitted) (implies : ∀ operation, permitted operation → wider operation) :
    Covers ec wider where
  reads := fun reads => implies _ (covers.reads reads)
  setters := fun setter => Program.Uses.mono implies (covers.setters setter)
  file := fun onFile => implies _ (covers.file onFile)
  tryLock := implies _ covers.tryLock
  unlock := implies _ covers.unlock
  readState := implies _ covers.readState
  writeState := fun settings => implies _ (covers.writeState settings)
  clock := implies _ covers.clock

theorem processCharger_uses {permitted : DaemonOp → Prop}
    (reads : ∀ operation : DaemonOp, operation.ReadsEc → permitted operation)
    (leds : ∀ orangeOn whiteOn, Uses permitted (applyBatteryLeds ec orangeOn whiteOn))
    {happened : InternalEvent}
    (charger : happened = .chargerConnected ∨ happened = .chargerDisconnected) :
    Uses permitted (processEvent ec happened) := by
  rcases charger with rfl | rfl
  · refine uses_bind (Io.uses_ok? (Program.Uses.mono reads (readBatteryRsoc_reads ec)))
      fun current => ?_
    cases current with
    | none => exact uses_pure _
    | some current =>
        refine uses_bind (Io.uses_ok? (Program.Uses.mono reads (readChargeLimit_reads ec)))
          fun limits => ?_
        cases limits with
        | none => exact uses_pure _
        | some limits =>
            by_cases full : current ≥ limits.2
            · simp only [full, if_true]
              exact uses_bind (Io.uses_ok? (leds false true)) fun _ => uses_pure _
            · simp only [full, if_false]
              exact uses_bind (Io.uses_ok? (leds true false)) fun _ => uses_pure _
  · exact uses_bind (Io.uses_ok? (leds false false)) fun _ => uses_pure _

section Covered

variable {ec} {permitted : DaemonOp → Prop} (covers : Covers ec permitted)

include covers

theorem save_uses (settings : CurrentSettings) : Uses permitted (save settings) :=
  Program.Uses.mono (fun _ => covers.file) (save_onFile settings)

theorem readState_uses : Uses permitted Io.readState :=
  uses_always (Io.uses_perform covers.readState)

theorem modifyState_uses (change : CurrentSettings → CurrentSettings) :
    Uses permitted (Io.modifyState change) :=
  uses_bind (readState_uses covers) fun _ => uses_always (Io.uses_perform (covers.writeState _))

theorem withState_covered {α : Type} {scope : Io α} (inside : Uses permitted scope) :
    Uses permitted (withState scope) :=
  withState_uses covers.tryLock covers.unlock inside

theorem reads_uses {α : Type} {computation : Io α} (reads : Uses DaemonOp.ReadsEc computation) :
    Uses permitted computation :=
  Program.Uses.mono (fun _ => covers.reads) reads

theorem handleRequest_uses {request : IpcRequest}
    (notActivate : ∀ isEnabled, request ≠ .daemonCommand (.activateTelemetry isEnabled)) :
    Uses permitted (handleRequest ec request) := by
  cases sets : requestSetter request with
  | some setter =>
      rw [handleRequest_setter sets]
      exact uses_bind (covers.setters setter) fun _ =>
        withState_covered covers (uses_bind (modifyState_uses covers _) fun _ => uses_pure _)
  | none =>
      by_cases getter : IsGetter request
      · exact reads_uses covers (getters_read ec getter)
      · cases request with
        | daemonCommand command =>
            cases command with
            | restoreDefaults =>
                refine withState_covered covers ?_
                refine uses_bind (uses_always (Io.uses_perform covers.clock)) fun _ => ?_
                refine uses_bind (uses_always (Io.uses_perform (covers.writeState _))) fun _ => ?_
                refine uses_bind (readState_uses covers) fun settings => ?_
                refine uses_bind (save_uses covers settings) fun _ => ?_
                refine uses_bind (readState_uses covers) fun settings => ?_
                exact uses_bind (restoreState_uses ec covers.setters settings) fun _ => uses_pure _
            | activateTelemetry isEnabled => exact absurd rfl (notActivate isEnabled)
            | applySettings =>
                refine withState_covered covers (uses_bind (readState_uses covers) fun settings => ?_)
                exact uses_bind (restoreState_uses ec covers.setters settings) fun _ => uses_pure _
            | getSettings | getTelemetryId =>
                exact withState_covered covers (uses_bind (readState_uses covers) fun _ => uses_pure _)
            | _ => exact uses_throw _
        | _ => first | exact absurd trivial getter | cases sets

theorem activateTelemetry_uses (isEnabled : Bool)
    (switch : permitted (.storeTelemetryEnabled isEnabled)) :
    Uses permitted (handleRequest ec (.daemonCommand (.activateTelemetry isEnabled))) := by
  refine withState_covered covers ?_
  refine uses_bind (modifyState_uses covers _) fun _ => ?_
  refine uses_bind (readState_uses covers) fun settings => ?_
  refine uses_bind (save_uses covers settings) fun _ => ?_
  cases isEnabled <;> exact uses_bind (uses_always (Io.uses_perform switch)) fun _ => uses_pure _

theorem request_uses (switch : ∀ isEnabled, permitted (.storeTelemetryEnabled isEnabled))
    (asked : IpcRequest) : Uses permitted ((Job.request asked).work ec) := by
  refine uses_bind (doWork_uses ec ?_) fun _ => uses_pure _
  by_cases activate : ∃ isEnabled, asked = .daemonCommand (.activateTelemetry isEnabled)
  · obtain ⟨isEnabled, rfl⟩ := activate
    exact activateTelemetry_uses covers isEnabled (switch isEnabled)
  · exact handleRequest_uses covers fun isEnabled same => activate ⟨isEnabled, same⟩

theorem saveOnReset_uses : Uses permitted saveOnReset := by
  refine uses_bind (Io.uses_ok? (withState_covered covers ?_)) fun _ => uses_pure _
  refine uses_bind (readState_uses covers) fun settings => ?_
  exact uses_bind (Io.uses_ok? (save_uses covers settings)) fun _ => uses_pure _

theorem updateState_uses {α : Type} {reading : Io α} (reads : Uses DaemonOp.ReadsEc reading)
    (change : α → CurrentSettings → CurrentSettings) :
    Uses permitted (updateState reading change) := by
  refine uses_bind (Io.uses_ok? (reads_uses covers reads)) fun value => ?_
  cases value with
  | none => exact uses_pure _
  | some value => exact modifyState_uses covers _

theorem updateChargeLimit_uses : Uses permitted (updateChargeLimit ec) := by
  refine uses_bind (Io.uses_ok? (reads_uses covers (readChargeLimit_reads ec))) fun limits => ?_
  cases limits with
  | none => exact uses_pure _
  | some limits =>
      cases found : ChargeLimit.fromPredefined limits.1 limits.2 with
      | none => simp only [found]; exact uses_pure _
      | some limit => simp only [found]; exact modifyState_uses covers _

theorem readAndSaveState_uses : Uses permitted (readAndSaveState ec) := by
  refine uses_bind (Io.uses_ok? (withState_covered covers ?_)) fun _ => uses_pure _
  refine uses_bind (updateState_uses covers (readKeyboardBacklight_reads ec) _) fun _ => ?_
  refine uses_bind (updateState_uses covers (readPowerProfile_reads ec) _) fun _ => ?_
  refine uses_bind (updateChargeLimit_uses covers) fun _ => ?_
  refine uses_bind (readState_uses covers) fun settings => ?_
  exact uses_bind (Io.uses_ok? (save_uses covers settings)) fun _ => uses_pure _

theorem processEvent_uses (event : InternalEvent) :
    Uses permitted (processEvent ec event) := by
  have ring : ∀ mode, Uses permitted (Io.ok? (applyLedMode ec mode)) :=
    fun mode => Io.uses_ok? (covers.setters (.ledMode mode))
  cases event with
  | systemShuttingDown | systemHibernating | systemSleeping =>
      exact uses_bind (ring _) fun _ => readAndSaveState_uses covers
  | systemWakingUp =>
      refine uses_bind (Io.uses_ok? (withState_covered covers ?_)) fun _ => uses_pure _
      refine uses_bind (readState_uses covers) fun settings => ?_
      exact uses_bind (Io.uses_ok? (restoreState_uses ec covers.setters settings)) fun _ => uses_pure _
  | chargerConnected | chargerDisconnected =>
      exact processCharger_uses ec (fun _ => covers.reads)
        (fun orangeOn whiteOn => covers.setters (.batteryLeds orangeOn whiteOn)) (by simp)

theorem loadOrDefault_uses : Uses permitted loadOrDefault := by
  refine Program.Uses.mono (fun operation loads => ?_) loadOrDefault_loads
  rcases loads with onFile | rfl
  · exact covers.file onFile
  · exact covers.clock

end Covered

def DaemonOp.IsBatch : DaemonOp → Prop
  | .batch _ => True
  | _ => False

theorem daemonSemantics_ec (codec : SettingsCodec) (thread : ThreadId) {operation : DaemonOp}
    (other : ¬operation.IsBatch) (choice : Choice) (world : World) :
    (daemonSemantics codec thread operation choice world).2.ec = world.ec := by
  cases operation with
  | batch body => exact absurd trivial other
  | tryLockState | createStateFile | decodeStateFile | queueTelemetry | receiveTelemetry =>
      simp only [daemonSemantics]
      split <;> rfl
  | _ => rfl

/-- A batch, if it is one, of the usual kind. -/
def DaemonOp.BatchUsual (operation : DaemonOp) : Prop :=
  operation.IsBatch → DaemonOp.Usual ec operation

theorem DaemonOp.Usual.batchUsual {operation : DaemonOp} (usual : DaemonOp.Usual ec operation) :
    operation.BatchUsual ec := fun _ => usual

/-- The operations on the telemetry atomics and the channel. -/
def DaemonOp.Telemeters : DaemonOp → Prop
  | .loadTelemetryEnabled | .loadTelemetryId | .queueTelemetry _ | .receiveTelemetry
  | .postTelemetry _ | .ecPublished => True
  | _ => False

theorem send_telemeters (data : TelemetryData) :
    Uses DaemonOp.Telemeters (Telemetry.send data) := by
  refine uses_bind (uses_always (Io.uses_perform trivial)) fun isEnabled => ?_
  cases isEnabled with
  | false => exact uses_pure _
  | true => exact uses_always (Io.uses_perform trivial)

theorem workerRound_uses {permitted : DaemonOp → Prop}
    (telemeters : ∀ operation : DaemonOp, operation.Telemeters → permitted operation)
    (readsEc : ∀ operation : DaemonOp, operation.ReadsEc → permitted operation) :
    Uses permitted (Telemetry.workerRound ec) := by
  have own : ∀ {operation : DaemonOp}, operation.Telemeters →
      Program.Uses permitted (Io.perform operation) :=
    fun ours => Io.uses_perform (telemeters _ ours)
  have reads : ∀ {α : Type} {computation : Io α}, Uses DaemonOp.ReadsEc computation →
      Uses permitted (Io.ok? computation) :=
    fun reads => Io.uses_ok? (Program.Uses.mono readsEc reads)
  have sends : ∀ data, Uses permitted (Telemetry.sendToServer data) := by
    intro data
    refine uses_bind (uses_always (own trivial)) fun _ => ?_
    exact uses_bind (uses_always (own trivial)) fun _ => uses_pure _
  refine uses_bind (uses_always (own trivial)) fun received => ?_
  cases received with
  | some message =>
      refine uses_bind (uses_always (own trivial)) fun isEnabled => ?_
      cases isEnabled with
      | false => exact uses_pure _
      | true => exact sends message
  | none =>
      refine uses_bind (uses_always (own trivial)) fun isEnabled => ?_
      cases isEnabled with
      | false => exact uses_pure _
      | true =>
          refine uses_bind (uses_always (own trivial)) fun published => ?_
          cases published with
          | false => exact uses_pure _
          | true =>
              refine uses_bind (reads (readPowerProfile_reads ec)) fun profile => ?_
              cases profile with
              | none => exact uses_pure _
              | some profile =>
                  refine uses_bind (reads (readTemperatures_reads ec)) fun temps => ?_
                  cases temps with
                  | none => exact uses_pure _
                  | some temps =>
                      refine uses_bind (reads (readFansRpm_reads ec)) fun fans => ?_
                      cases fans with
                      | none => exact uses_pure _
                      | some fans => exact sends _

theorem DaemonOp.Telemeters.notBatch {operation : DaemonOp} (telemeters : operation.Telemeters) :
    ¬operation.IsBatch := by
  intro batch
  cases operation with
  | batch body => exact telemeters.elim
  | _ => exact batch.elim

/-- The operations that leave the settings, their lock and their file as they are. -/
def DaemonOp.KeepsStore : DaemonOp → Prop
  | .tryLockState | .unlockState | .writeState _ | .publishState _ | .createStateFile
  | .dropWriter _ => False
  | _ => True

theorem DaemonOp.Telemeters.keepsStore {operation : DaemonOp} (telemeters : operation.Telemeters) :
    operation.KeepsStore := by
  cases operation <;> trivial

/-- What `main` does between restoring the settings and publishing them. -/
def announce (ec : EcDevice) (host : SystemInfo) (settings : CurrentSettings) : Io Unit := do
  Telemetry.init settings.telemetryEnabled settings.telemetryClientId
  if settings.telemetryEnabled then
    let (chipId1, chipId2, chipVer) ← readSystemInfo ec
    let firmware := s!"IT{hexByteUpper chipId1}{hexByteUpper chipId2}-{hexByteUpper chipVer}"
    Telemetry.send (.startup firmware ec.hramOffset host.cpuName host.osName host.motherboard)
  Io.publishEc

theorem startUp_eq {ec : EcDevice} (host : SystemInfo) : startUp ec host = loadOrDefault >>= fun settings =>
    Io.ok? (restoreState ec settings) >>= fun _ =>
      announce ec host settings >>= fun _ => Io.publishState settings := by
  refine congrArg (loadOrDefault >>= ·) (funext fun settings => ?_)
  refine congrArg (Io.ok? (restoreState ec settings) >>= ·) (funext fun _ => ?_)
  cases enabled : settings.telemetryEnabled with
  | false => simp only [announce, enabled, Bool.false_eq_true, if_false, bind_assoc]
  | true => simp only [announce, enabled, if_true, bind_assoc]

theorem announce_uses {ec : EcDevice} {permitted : DaemonOp → Prop}
    (reads : ∀ operation : DaemonOp, operation.ReadsEc → permitted operation)
    (others : ∀ operation : DaemonOp, ¬operation.IsBatch → operation.KeepsStore →
      permitted operation)
    (host : SystemInfo) (settings : CurrentSettings) : Uses permitted (announce ec host settings) := by
  have own : ∀ {operation : DaemonOp}, ¬operation.IsBatch → operation.KeepsStore →
      Program.Uses permitted (Io.perform operation) :=
    fun notBatch keeps => Io.uses_perform (others _ notBatch keeps)
  have publishes : Uses permitted Io.publishEc := uses_always (own id trivial)
  refine uses_bind ?_ fun _ => ?_
  · refine uses_bind (uses_always (own id trivial)) fun _ => ?_
    refine uses_bind (uses_always (own id trivial)) fun _ => ?_
    refine uses_bind (uses_always (own id trivial)) fun _ => ?_
    exact uses_always (own id trivial)
  · cases enabled : settings.telemetryEnabled with
    | false =>
        simp only [Bool.false_eq_true, if_false]
        exact publishes
    | true =>
        simp only [if_true]
        refine uses_bind (Program.Uses.mono reads (readSystemInfo_reads ec)) fun chip => ?_
        refine uses_bind (Program.Uses.mono (fun operation telemeters => ?_) (send_telemeters _))
          fun _ => publishes
        exact others operation telemeters.notBatch telemeters.keepsStore

theorem startUp_uses {ec : EcDevice} {permitted : DaemonOp → Prop} (covers : Covers ec permitted)
    (others : ∀ operation : DaemonOp, ¬operation.IsBatch → permitted operation)
    (host : SystemInfo) : Uses permitted (startUp ec host) := by
  rw [startUp_eq]
  refine uses_bind (loadOrDefault_uses covers) fun settings => ?_
  refine uses_bind (Io.uses_ok? (restoreState_uses ec covers.setters settings)) fun _ => ?_
  refine uses_bind (announce_uses (fun _ => covers.reads) (fun operation notBatch _ =>
    others operation notBatch) host settings) fun _ => ?_
  exact uses_always (Io.uses_perform (others _ id))

/-- A job is made of what is covered, when every operation but a batch is permitted. -/
theorem Job.work_uses {ec : EcDevice} {permitted : DaemonOp → Prop} (covers : Covers ec permitted)
    (others : ∀ operation : DaemonOp, ¬operation.IsBatch → permitted operation) (job : Job) :
    Uses permitted (job.work ec) := by
  have telemeters : ∀ operation : DaemonOp, operation.Telemeters → permitted operation :=
    fun operation telemeters => others operation telemeters.notBatch
  cases job with
  | request asked => exact request_uses covers (fun _ => others _ id) asked
  | connectionReset => exact uses_bind (saveOnReset_uses covers) fun _ => uses_pure _
  | event happened => exact uses_bind (processEvent_uses covers happened) fun _ => uses_pure _
  | workerRound =>
      exact uses_bind (workerRound_uses ec telemeters fun _ => covers.reads) fun _ => uses_pure _
  | panicReport message =>
      exact uses_bind (Program.Uses.mono telemeters (send_telemeters _)) fun _ => uses_pure _
  | startUp host => exact uses_bind (startUp_uses covers others host) fun _ => uses_pure _

theorem Job.work_batchUsual (job : Job) : Uses (DaemonOp.BatchUsual ec) (job.work ec) :=
  job.work_uses ((usual_covers ec).mono fun _ => DaemonOp.Usual.batchUsual ec) fun _ other batch => absurd batch other

end Usual

end Lecoo.Daemon
