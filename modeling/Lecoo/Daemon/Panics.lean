import Lecoo.Effects.Contract
import Lecoo.Daemon.Requests

namespace Lecoo.Daemon

open Lecoo.Effects Lecoo.Ipc Lecoo.Ec Lecoo.Data Fallible

/-! # The hardware functions do not panic -/

def NoPanic {α : Type} (outcome : Except Failure α) : Prop :=
  ∀ message, outcome ≠ .error (.panic message)

theorem noPanic_ok {α : Type} (value : α) : NoPanic (.ok value : Except Failure α) := by
  intro message same
  cases same

theorem noPanic_error {α : Type} (message : String) :
    NoPanic (.error (.error message) : Except Failure α) := by
  intro message same
  cases same

section Steady

universe u

variable {I : Interface.{u}} {α β : Type} {contract : Contract I Unit}

/-- The computation does not panic as long as no operation does. -/
def Steady (contract : Contract I Unit) (computation : Fallible I Failure α) : Prop :=
  Meets contract (fun _ outcome => NoPanic outcome) computation ()

theorem Steady.pure (value : α) : Steady contract (Pure.pure value) :=
  meets_pure (noPanic_ok value)

theorem Steady.throw (message : String) :
    Steady contract (MonadExcept.throw (Failure.error message) : Fallible I Failure α) :=
  noPanic_error message

theorem Steady.bind {computation : Fallible I Failure α} {rest : α → Fallible I Failure β}
    (first : Steady contract computation) (second : ∀ value, Steady contract (rest value)) :
    Steady contract (computation >>= rest) := by
  refine meets_bind first (fun _ failure steady message same => ?_) fun _ value _ => second value
  exact steady message (by rw [Except.error.inj same])

end Steady

def accessReplies : (access : Access) → registers.Reply access → Prop
  | .read _, reply => NoPanic reply
  | .write _ _, reply => NoPanic reply

def steadyAccesses : Contract registers Unit where
  permits _ _ := True
  replies _ := accessReplies
  next _ _ := ()

theorem steadyAccesses_kept : steadyAccesses.KeptBy accessSemantics := by
  intro _ access choice memory _
  cases access <;> cases choice <;> first | exact noPanic_ok _ | exact noPanic_error _

theorem readReg_steady (addr : UInt16) : Steady steadyAccesses (EcBatch.readReg addr) :=
  ⟨trivial, fun _ steady => steady⟩

theorem writeReg_steady (addr : UInt16) (value : UInt8) :
    Steady steadyAccesses (EcBatch.writeReg addr value) :=
  ⟨trivial, fun _ steady => steady⟩

theorem writes_steady (list : List (UInt16 × UInt8)) :
    Steady steadyAccesses (EcBatch.writes list) := by
  induction list with
  | nil => exact Steady.pure _
  | cons entry rest ih => exact Steady.bind (writeReg_steady _ _) fun _ => ih

def batchReplies : (operation : DaemonOp) → daemonOps.Reply operation → Prop
  | .batch _, reply => NoPanic reply
  | _, _ => True

/-- Steady batches and the LED flag. -/
def steadyBatches : Contract daemonOps Unit where
  permits _
    | .batch body => Steady steadyAccesses body
    | .loadLedCustom | .storeLedCustom _ => True
    | _ => False
  replies _ := batchReplies
  next _ _ := ()

theorem steadyBatches_kept {codec : SettingsCodec} {thread : ThreadId} :
    steadyBatches.KeptBy (daemonSemantics codec thread) := by
  intro _ operation choice world permitted
  cases operation with
  | batch body =>
      obtain ⟨_, steady⟩ := Program.Meets.runs permitted steadyAccesses_kept
        (Program.run_runs body.run choice.accesses world.ec)
      exact steady
  | _ => trivial

theorem withBatch_steady {α : Type} {body : EcBatch α} (steady : Steady steadyAccesses body) :
    Steady steadyBatches (withBatch body) :=
  ⟨steady, fun _ steady => steady⟩

variable (ec : EcDevice)

theorem readRam_steady (offset : UInt16) : Steady steadyBatches (ec.readRam offset) :=
  withBatch_steady (readReg_steady _)

theorem readChargeLimit_steady : Steady steadyBatches (readChargeLimit ec) :=
  Steady.bind (readRam_steady ec _) fun _ => Steady.bind (readRam_steady ec _) fun _ =>
    Steady.pure _

theorem readKeyboardBacklight_steady : Steady steadyBatches (readKeyboardBacklight ec) := by
  refine Steady.bind (withBatch_steady (readReg_steady _)) fun level => ?_
  split
  case h_5 => exact Steady.bind (withBatch_steady (readReg_steady _)) fun _ => Steady.pure _
  all_goals first | exact Steady.pure _ | exact Steady.throw _

theorem readPowerProfile_steady : Steady steadyBatches (readPowerProfile ec) := by
  refine Steady.bind (readRam_steady ec _) fun profile => ?_
  split
  all_goals first | exact Steady.pure _ | exact Steady.throw _

theorem script_steady (steps : List Step) : Steady steadyBatches (script ec steps) := by
  induction steps with
  | nil => exact Steady.pure _
  | cons step rest ih =>
      cases step with
      | batch writes => exact Steady.bind (withBatch_steady (writes_steady _)) fun _ => ih
      | storeLed value =>
          refine Steady.bind (meets_always ?_) fun _ => ih
          exact ⟨trivial, fun _ _ => noPanic_ok _⟩

theorem applyLedMode_steady (mode : PowerLedMode) : Steady steadyBatches (applyLedMode ec mode) := by
  by_cases auto : mode = .auto
  · rw [auto, applyLedMode_auto]
    exact script_steady ec _
  · rw [applyLedMode_eq auto]
    refine Steady.bind (meets_always ?_) fun _ => script_steady ec _
    exact ⟨trivial, fun _ _ => noPanic_ok _⟩

/-- What the operations reply when they do not panic. -/
def steadyReplies : (operation : DaemonOp) → daemonOps.Reply operation → Prop
  | .batch _, reply => NoPanic reply
  | .createStateDir, reply | .createStateFile, reply | .openStateFile, reply
  | .postTelemetry _, reply => NoPanic reply
  | .stateFileExists, reply => NoPanic reply
  | .decodeStateFile, reply => NoPanic reply
  | .encodeSettings _, reply => NoPanic reply.2
  | _, _ => True

/-- All operations, with steady batches. -/
def steadyOps : Contract daemonOps Unit where
  permits _
    | .batch body => Steady steadyAccesses body
    | _ => True
  replies _ := steadyReplies
  next _ _ := ()

theorem noPanic_outcome {α : Type} (choice : Choice) (value : α) : NoPanic (choice.outcome value) := by
  cases failed : choice.failure with
  | none =>
      rw [Choice.outcome, failed]
      exact noPanic_ok value
  | some message =>
      rw [Choice.outcome, failed]
      exact noPanic_error message

theorem steadyOps_kept {codec : SettingsCodec} {thread : ThreadId} :
    steadyOps.KeptBy (daemonSemantics codec thread) := by
  intro _ operation choice world permitted
  cases operation with
  | batch body =>
      obtain ⟨_, steady⟩ := Program.Meets.runs permitted steadyAccesses_kept
        (Program.run_runs body.run choice.accesses world.ec)
      exact steady
  | createStateDir | openStateFile | postTelemetry | stateFileExists | encodeSettings =>
      exact noPanic_outcome choice _
  | createStateFile =>
      simp only [steadyOps, steadyReplies, daemonSemantics]
      split
      · exact noPanic_ok _
      · exact noPanic_error _
  | decodeStateFile =>
      simp only [steadyOps, steadyReplies, daemonSemantics]
      split
      · exact noPanic_ok _
      · exact noPanic_error _
      · exact noPanic_error _
  | _ => trivial

theorem Steady.ofBatches {α : Type} {computation : Io α}
    (steady : Steady steadyBatches computation) : Steady steadyOps computation := by
  refine Program.Meets.transfer ?_ ?_ ?_ steady
  · intro _ operation permitted
    cases operation <;> first | exact permitted | trivial
  · intro _ operation reply permitted promised
    cases operation <;> first | exact promised | exact permitted.elim
  · rfl

theorem perform_steady {operation : DaemonOp} (permitted : steadyOps.permits () operation) :
    Steady steadyOps (always (Io.perform operation)) :=
  ⟨permitted, fun _ _ => noPanic_ok _⟩

theorem withState_steady {α : Type} {scope : Io α} (steady : Steady steadyOps scope) :
    Steady steadyOps (withState scope) := by
  have held : Program.Meets steadyOps (fun _ outcome => NoPanic outcome)
      (scope.run >>= fun outcome => Io.perform .unlockState >>= fun _ => pure outcome) () :=
    Program.Meets.bind steady fun _ outcome ended => ⟨trivial, fun _ _ => ended⟩
  refine ⟨trivial, fun acquired _ => ?_⟩
  cases acquired with
  | false => exact noPanic_error _
  | true => exact held

theorem readState_steady : Steady steadyOps Io.readState := perform_steady trivial

theorem modifyState_steady (change : CurrentSettings → CurrentSettings) :
    Steady steadyOps (Io.modifyState change) :=
  Steady.bind readState_steady fun _ => perform_steady trivial

theorem save_steady (settings : CurrentSettings) : Steady steadyOps (save settings) := by
  refine Steady.bind ⟨trivial, fun _ steady => steady⟩ fun _ => ?_
  refine Steady.bind ⟨trivial, fun _ steady => steady⟩ fun _ => ?_
  refine ⟨trivial, fun written steady => ⟨trivial, fun _ _ => ?_⟩⟩
  exact steady

theorem Setter.apply_steady (setter : Setter) : Steady steadyOps (setter.apply ec) := by
  refine Steady.ofBatches ?_
  cases setter with
  | fanMode fan mode =>
      by_cases valid : (Setter.fanMode fan mode).Valid
      · rw [Setter.apply, applyFanMode_eq fan valid]
        exact script_steady ec _
      · cases mode with
        | custom duty =>
            rw [Setter.apply, applyFanMode_refused fan (UInt8.not_le.mp valid)]
            exact Steady.throw _
        | _ => exact absurd trivial valid
  | ledMode mode => exact applyLedMode_steady ec mode
  | keyboardBacklight level =>
      rw [Setter.apply, applyKeyboardBacklight_eq]
      exact script_steady ec _
  | chargeLimit limit =>
      rw [Setter.apply, applyChargeLimit_eq]
      exact script_steady ec _
  | powerProfile profile =>
      rw [Setter.apply, applyPowerProfile_eq]
      exact Steady.bind (Steady.bind (script_steady ec _) fun _ => Steady.pure _) fun _ =>
        Steady.pure _
  | batteryLeds orangeOn whiteOn =>
      rw [Setter.apply, applyBatteryLeds_eq]
      exact Steady.bind (withBatch_steady (readReg_steady _)) fun _ => script_steady ec _

theorem restoreState_steady (settings : CurrentSettings) :
    Steady steadyOps (restoreState ec settings) := by
  rw [restoreState_eq]
  induction settingSetters settings with
  | nil => exact Steady.pure _
  | cons setter rest ih => exact Steady.bind (Setter.apply_steady ec setter) fun _ => ih

theorem readSystemInfo_steady : Steady steadyBatches (readSystemInfo ec) := by
  refine withBatch_steady ?_
  exact Steady.bind (readReg_steady _) fun _ => Steady.bind (readReg_steady _) fun _ =>
    Steady.bind (readReg_steady _) fun _ => Steady.pure _

theorem readFansRpm_steady : Steady steadyBatches (readFansRpm ec) := by
  refine withBatch_steady ?_
  exact Steady.bind (readReg_steady _) fun _ => Steady.bind (readReg_steady _) fun _ =>
    Steady.bind (readReg_steady _) fun _ => Steady.bind (readReg_steady _) fun _ => Steady.pure _

theorem readTemperatures_steady : Steady steadyBatches (readTemperatures ec) := by
  refine withBatch_steady ?_
  exact Steady.bind (readReg_steady _) fun _ => Steady.bind (readReg_steady _) fun _ =>
    Steady.pure _

def Implemented : IpcRequest → Prop
  | .daemonCommand (.activateProcessSuspend _) | .daemonCommand .runPrepareShutdown
  | .daemonCommand .runPrepareSuspend | .daemonCommand .runPrepareResume => False
  | _ => True

instance (request : IpcRequest) : Decidable (Implemented request) := by
  unfold Implemented
  split <;> infer_instance

theorem handleRequest_steady {request : IpcRequest} (implemented : Implemented request) :
    Steady steadyOps (handleRequest ec request) := by
  cases sets : requestSetter request with
  | some setter =>
      rw [handleRequest_setter sets]
      exact Steady.bind (Setter.apply_steady ec setter) fun _ =>
        withState_steady (Steady.bind (modifyState_steady _) fun _ => Steady.pure _)
  | none =>
      cases request with
      | getSystemState =>
          exact Steady.bind (readSystemInfo_steady ec).ofBatches fun _ => Steady.pure _
      | getFansRPM => exact Steady.bind (readFansRpm_steady ec).ofBatches fun _ => Steady.pure _
      | getTemperatures =>
          exact Steady.bind (readTemperatures_steady ec).ofBatches fun _ => Steady.pure _
      | getChargeLimit =>
          exact Steady.bind (readChargeLimit_steady ec).ofBatches fun _ =>
            Steady.bind (readRam_steady ec _).ofBatches fun _ => Steady.pure _
      | getPowerProfile =>
          exact Steady.bind (readPowerProfile_steady ec).ofBatches fun _ => Steady.pure _
      | getKeyboardBacklight =>
          exact Steady.bind (readKeyboardBacklight_steady ec).ofBatches fun _ => Steady.pure _
      | daemonCommand command =>
          cases command with
          | restoreDefaults =>
              refine withState_steady (Steady.bind (perform_steady trivial) fun _ => ?_)
              refine Steady.bind (perform_steady trivial) fun _ => ?_
              refine Steady.bind readState_steady fun settings => ?_
              refine Steady.bind (save_steady settings) fun _ => ?_
              refine Steady.bind readState_steady fun settings => ?_
              exact Steady.bind (restoreState_steady ec settings) fun _ => Steady.pure _
          | activateTelemetry isEnabled =>
              refine withState_steady (Steady.bind (modifyState_steady _) fun _ => ?_)
              refine Steady.bind readState_steady fun settings => ?_
              refine Steady.bind (save_steady settings) fun _ => ?_
              cases isEnabled <;>
                exact Steady.bind (perform_steady trivial) fun _ => Steady.pure _
          | applySettings =>
              refine withState_steady (Steady.bind readState_steady fun settings => ?_)
              exact Steady.bind (restoreState_steady ec settings) fun _ => Steady.pure _
          | getSettings | getTelemetryId =>
              exact withState_steady (Steady.bind readState_steady fun _ => Steady.pure _)
          | _ => exact implemented.elim
      | _ => cases sets

/-- Every implemented request ends with a response, whatever the other threads do
meanwhile. -/
theorem doWork_answers {request : IpcRequest} (implemented : Implemented request) :
    Meets steadyOps (fun _ outcome => ∃ response, outcome = .ok response) (doWork ec request) () := by
  rw [Meets, doWork_run]
  refine Program.Meets.bind (handleRequest_steady ec implemented) fun _ outcome steady => ?_
  rcases outcome with (message | message) | response
  · exact ⟨_, rfl⟩
  · exact absurd rfl (steady message)
  · exact ⟨response, rfl⟩

end Lecoo.Daemon
