import Lecoo.Daemon.Jobs

namespace Lecoo.Daemon

open Lecoo.Effects Lecoo.Ipc Lecoo.Ec Fallible

/-! # Jobs that need the state guard

A job that needs the guard of `STATE` tries to take it once, after what it does
to the EC beforehand, and releases it once, at the end of its scope.
-/

structure Guard where
  Result : Type
  before : Io Unit
  scope : Io Result
  answer : Except Failure Result → Except Failure (Option IpcResponse)

namespace Guard

def program (guard : Guard) : Task (Except Failure (Option IpcResponse)) :=
  (guard.before >>= fun _ => withState guard.scope).run >>= fun outcome =>
    .done (guard.answer outcome)

/-- What is left to do in the scope, then the release. -/
def release (guard : Guard) (scope : Task (Except Failure guard.Result)) :
    Task (Except Failure (Option IpcResponse)) :=
  scope >>= fun outcome => .perform .unlockState fun _ => .done (guard.answer outcome)

def refusal (guard : Guard) : Except Failure (Option IpcResponse) :=
  guard.answer (.error (.error "State locked, cannot acquire lock"))

def enter (guard : Guard) : Task (Except Failure (Option IpcResponse)) :=
  .perform .tryLockState fun acquired : Bool => match acquired with
    | true => guard.release guard.scope.run
    | false => .done guard.refusal

/-- What is left to do before the guard is tried. -/
def approach (guard : Guard) (before : Task (Except Failure Unit)) :
    Task (Except Failure (Option IpcResponse)) :=
  before >>= fun outcome => match outcome with
    | .error failure => .done (guard.answer (.error failure))
    | .ok () => guard.enter

theorem program_eq (guard : Guard) : guard.program = guard.approach guard.before.run := by
  have unfolded : guard.program =
      (guard.before.run >>= ExceptT.bindCont fun _ => withState guard.scope) >>= fun outcome =>
        .done (guard.answer outcome) := rfl
  rw [unfolded, bind_assoc]
  refine congrArg (guard.before.run >>= ·) (funext fun outcome => ?_)
  cases outcome with
  | error failure => rfl
  | ok value =>
      refine congrArg (Program.perform _) (funext fun acquired => ?_)
      cases acquired with
      | false => rfl
      | true =>
          change (guard.scope.run >>= _) >>= _ = guard.scope.run >>= _
          rw [bind_assoc]
          rfl

end Guard

/-- The response to a request. -/
def answered (outcome : Except Failure IpcResponse) : Except Failure (Option IpcResponse) :=
  (respond outcome).map some

/-- Nobody is told how the job ended, but a panic still unwinds. -/
def unanswered {α : Type} : Except Failure α → Except Failure (Option IpcResponse)
  | .error (.panic message) => .error (.panic message)
  | _ => .ok none

/-- What a daemon command does under the guard. -/
def commandScope (ec : EcDevice) : DaemonCommand → Option (Io IpcResponse)
  | .restoreDefaults => some do
      Io.writeState (CurrentSettings.default (← Io.systemTimeHash))
      save (← Io.readState)
      restoreState ec (← Io.readState)
      return .success
  | .activateTelemetry isEnabled => some do
      Io.modifyState fun state => { state with telemetryEnabled := isEnabled }
      save (← Io.readState)
      if isEnabled then
        Telemetry.enable
        return .success
      else
        Telemetry.disable
        return .telemetryDisabledInfo
  | .applySettings => some do
      restoreState ec (← Io.readState)
      return .success
  | .getSettings => some do
      return .daemonResponse (.settings (← Io.readState))
  | .getTelemetryId => some do
      return .daemonResponse (.telemetryId (← Io.readState).telemetryClientId)
  | _ => none

def requestGuard (ec : EcDevice) (asked : IpcRequest) : Option Guard :=
  match requestSetter asked, asked with
  | some setter, _ => some
      { Result := IpcResponse
        before := setter.apply ec
        scope := do
          Io.modifyState (record setter)
          return .success
        answer := answered }
  | none, .daemonCommand command => (commandScope ec command).map fun scope =>
      { Result := IpcResponse, before := pure (), scope, answer := answered }
  | none, _ => none

/-- The save at the end of a connection. -/
def resetScope : Io Unit := do
  let _ ← Io.ok? (save (← Io.readState))

/-- What `read_and_save_state` does under the guard. -/
def refreshScope (ec : EcDevice) : Io Unit := do
  updateState (readKeyboardBacklight ec) fun kbd state => { state with keyboardBacklight := kbd }
  updateState (readPowerProfile ec) fun profile state => { state with powerProfile := profile }
  updateChargeLimit ec
  let _ ← Io.ok? (save (← Io.readState))

/-- The restore after a wake-up. -/
def wakeScope (ec : EcDevice) : Io Unit := do
  let _ ← Io.ok? (restoreState ec (← Io.readState))

/-- What lights up while the system is going down. -/
def farewell : InternalEvent → Option PowerLedMode
  | .systemShuttingDown | .systemHibernating => some .auto
  | .systemSleeping => some (.animation BreathConfig.sleep)
  | _ => none

def eventGuard (ec : EcDevice) (happened : InternalEvent) : Option Guard :=
  match farewell happened, happened with
  | some mode, _ => some
      { Result := Unit
        before := do
          let _ ← Io.ok? (applyLedMode ec mode)
        scope := refreshScope ec
        answer := unanswered }
  | none, .systemWakingUp =>
      some { Result := Unit, before := pure (), scope := wakeScope ec, answer := unanswered }
  | none, _ => none

def Job.guard (ec : EcDevice) : Job → Option Guard
  | .request asked => requestGuard ec asked
  | .connectionReset =>
      some { Result := Unit, before := pure (), scope := resetScope, answer := unanswered }
  | .event happened => eventGuard ec happened
  | _ => none

section Programs

variable (ec : EcDevice)

theorem request_work (asked : IpcRequest) : ((Job.request asked).work ec).run =
    (handleRequest ec asked).run >>= fun outcome => .done (answered outcome) := by
  change (doWork ec asked).run >>= _ = _
  rw [doWork_run, bind_assoc]
  refine congrArg ((handleRequest ec asked).run >>= ·) (funext fun outcome => ?_)
  rcases outcome with (_ | _) | _ <;> rfl

theorem ok?_run {α : Type} (computation : Io α) :
    (Io.ok? computation >>= fun _ => (pure () : Io Unit)).run =
      computation.run >>= fun outcome => .done ((Io.discard outcome).map fun _ => ()) := by
  change (computation.run >>= _) >>= _ = _
  rw [bind_assoc]
  refine congrArg (computation.run >>= ·) (funext fun outcome => ?_)
  rcases outcome with (_ | _) | _ <;> rfl

theorem dropped_work {α : Type} (computation : Io α) :
    ((Io.ok? computation >>= fun _ => (pure () : Io Unit)) >>= fun _ =>
      (pure none : Io (Option IpcResponse))).run =
    computation.run >>= fun outcome => .done (unanswered outcome) := by
  change ((computation.run >>= _) >>= _) >>= _ = _
  rw [bind_assoc, bind_assoc]
  refine congrArg (computation.run >>= ·) (funext fun outcome => ?_)
  rcases outcome with (_ | _) | _ <;> rfl

theorem farewell_work {α β : Type} (first : Io α) (second : Io β) :
    ((Io.ok? first >>= fun _ => Io.ok? second >>= fun _ => (pure () : Io Unit)) >>= fun _ =>
      (pure none : Io (Option IpcResponse))).run =
    ((Io.ok? first >>= fun _ => (pure () : Io Unit)) >>= fun _ => second).run >>= fun outcome =>
      .done (unanswered outcome) := by
  change ((first.run >>= _) >>= _) >>= _ = (((first.run >>= _) >>= _) >>= _) >>= _
  simp only [bind_assoc]
  refine congrArg (first.run >>= ·) (funext fun outcome => ?_)
  rcases outcome with (_ | _) | value
  · exact dropped_work second
  · rfl
  · exact dropped_work second

theorem Job.work_guard {job : Job} {guard : Guard} (needs : job.guard ec = some guard) :
    (job.work ec).run = guard.program := by
  cases job with
  | request asked =>
      rw [request_work]
      cases sets : requestSetter asked with
      | some setter =>
          simp only [Job.guard, requestGuard, sets, Option.some.injEq] at needs
          subst needs
          rw [handleRequest_setter sets]
          rfl
      | none =>
          cases asked with
          | daemonCommand command => cases command <;> cases needs <;> rfl
          | setPowerProfile | setFanMode | setKeyboardBacklight | setChargeLimit | setLedMode =>
              cases sets
          | _ => cases needs
  | connectionReset =>
      cases needs
      exact dropped_work _
  | event happened =>
      cases happened with
      | systemShuttingDown | systemHibernating | systemSleeping =>
          cases needs
          exact farewell_work _ _
      | systemWakingUp =>
          cases needs
          exact dropped_work _
      | chargerConnected | chargerDisconnected => cases needs
  | _ => cases needs

/-- The operations that a scope is made of. -/
def DaemonOp.Inside : DaemonOp → Prop
  | .tryLockState | .unlockState | .publishState _ => False
  | _ => True

theorem DaemonOp.OnEc.keepsStore {operation : DaemonOp} (onEc : operation.OnEc) :
    operation.KeepsStore := by
  cases operation <;> trivial

theorem DaemonOp.OnEc.inside {operation : DaemonOp} (onEc : operation.OnEc) :
    operation.Inside := by
  cases operation <;> trivial

theorem DaemonOp.OnFile.inside {operation : DaemonOp} (onFile : operation.OnFile) :
    operation.Inside := by
  cases operation <;> trivial

/-- What is done without the guard: the store is left alone, and so are the switch and the
start of the telemetry. -/
def DaemonOp.Outside : DaemonOp → Prop
  | .storeTelemetryEnabled _ | .startTelemetryWorker => False
  | operation => operation.KeepsStore

theorem DaemonOp.Outside.keepsStore {operation : DaemonOp} (outside : operation.Outside) :
    operation.KeepsStore := by
  cases operation <;> first | exact outside | trivial

theorem DaemonOp.OnEc.outside {operation : DaemonOp} (onEc : operation.OnEc) :
    operation.Outside := by
  cases operation <;> first | exact onEc.elim | trivial

theorem DaemonOp.Telemeters.outside {operation : DaemonOp} (telemeters : operation.Telemeters) :
    operation.Outside := by
  cases operation <;> first | exact telemeters.elim | trivial

structure Guard.Proper (guard : Guard) : Prop where
  before : Uses DaemonOp.Outside guard.before
  scope : Uses DaemonOp.Inside guard.scope

theorem readState_inside : Uses DaemonOp.Inside Io.readState :=
  uses_always (Io.uses_perform trivial)

theorem modifyState_inside (change : CurrentSettings → CurrentSettings) :
    Uses DaemonOp.Inside (Io.modifyState change) :=
  uses_bind readState_inside fun _ => uses_always (Io.uses_perform trivial)

theorem save_inside (settings : CurrentSettings) : Uses DaemonOp.Inside (save settings) :=
  Program.Uses.mono (fun _ operation => operation.inside) (save_onFile settings)

theorem restoreState_inside (settings : CurrentSettings) :
    Uses DaemonOp.Inside (restoreState ec settings) :=
  Program.Uses.mono (fun _ operation => operation.inside) (restoreState_onEc ec settings)

theorem commandScope_inside {command : DaemonCommand} {scope : Io IpcResponse}
    (found : commandScope ec command = some scope) : Uses DaemonOp.Inside scope := by
  cases command with
  | restoreDefaults =>
      cases found
      refine uses_bind (uses_always (Io.uses_perform trivial)) fun hash => ?_
      refine uses_bind (uses_always (Io.uses_perform trivial)) fun _ => ?_
      refine uses_bind readState_inside fun settings => ?_
      refine uses_bind (save_inside settings) fun _ => ?_
      refine uses_bind readState_inside fun settings => ?_
      exact uses_bind (restoreState_inside ec settings) fun _ => uses_pure _
  | activateTelemetry isEnabled =>
      cases found
      refine uses_bind (modifyState_inside _) fun _ => ?_
      refine uses_bind readState_inside fun settings => ?_
      refine uses_bind (save_inside settings) fun _ => ?_
      cases isEnabled <;>
        exact uses_bind (uses_always (Io.uses_perform trivial)) fun _ => uses_pure _
  | applySettings =>
      cases found
      refine uses_bind readState_inside fun settings => ?_
      exact uses_bind (restoreState_inside ec settings) fun _ => uses_pure _
  | getSettings | getTelemetryId =>
      cases found
      exact uses_bind readState_inside fun _ => uses_pure _
  | _ => cases found

theorem resetScope_inside : Uses DaemonOp.Inside resetScope :=
  uses_bind readState_inside fun settings =>
    uses_bind (Io.uses_ok? (save_inside settings)) fun _ => uses_pure _

theorem wakeScope_inside : Uses DaemonOp.Inside (wakeScope ec) :=
  uses_bind readState_inside fun settings =>
    uses_bind (Io.uses_ok? (restoreState_inside ec settings)) fun _ => uses_pure _

theorem updateState_inside {α : Type} {reading : Io α} (reads : Uses DaemonOp.ReadsEc reading)
    (change : α → CurrentSettings → CurrentSettings) :
    Uses DaemonOp.Inside (updateState reading change) := by
  have inside : Uses DaemonOp.Inside reading :=
    Program.Uses.mono (fun _ operation => operation.onEc.inside) reads
  refine uses_bind (Io.uses_ok? inside) fun value => ?_
  cases value with
  | none => exact uses_pure _
  | some value => exact modifyState_inside _

theorem updateChargeLimit_inside : Uses DaemonOp.Inside (updateChargeLimit ec) := by
  have inside : Uses DaemonOp.Inside (readChargeLimit ec) :=
    Program.Uses.mono (fun _ operation => operation.onEc.inside) (readChargeLimit_reads ec)
  refine uses_bind (Io.uses_ok? inside) fun limits => ?_
  cases limits with
  | none => exact uses_pure _
  | some limits =>
      cases found : ChargeLimit.fromPredefined limits.1 limits.2 with
      | none => simp only [found]; exact uses_pure _
      | some limit => simp only [found]; exact modifyState_inside _

theorem refreshScope_inside : Uses DaemonOp.Inside (refreshScope ec) := by
  refine uses_bind (updateState_inside (readKeyboardBacklight_reads ec) _) fun _ => ?_
  refine uses_bind (updateState_inside (readPowerProfile_reads ec) _) fun _ => ?_
  refine uses_bind (updateChargeLimit_inside ec) fun _ => ?_
  exact resetScope_inside

theorem Job.guard_proper {job : Job} {guard : Guard} (needs : job.guard ec = some guard) :
    guard.Proper := by
  have applies : ∀ setter : Setter, Uses DaemonOp.Outside (setter.apply ec) :=
    fun setter => Program.Uses.mono (fun _ operation => operation.outside) (apply_onEc ec setter)
  have lights : ∀ mode, Uses DaemonOp.Outside (Io.ok? (applyLedMode ec mode)) :=
    fun mode => Io.uses_ok? (applies (.ledMode mode))
  cases job with
  | request asked =>
      cases sets : requestSetter asked with
      | some setter =>
          simp only [Job.guard, requestGuard, sets, Option.some.injEq] at needs
          subst needs
          exact ⟨applies setter, uses_bind (modifyState_inside _) fun _ => uses_pure _⟩
      | none =>
          cases asked with
          | daemonCommand command =>
              obtain ⟨scope, found, rfl⟩ := Option.map_eq_some_iff.mp needs
              exact ⟨uses_pure _, commandScope_inside ec found⟩
          | setPowerProfile | setFanMode | setKeyboardBacklight | setChargeLimit | setLedMode =>
              cases sets
          | _ => cases needs
  | connectionReset =>
      cases needs
      exact ⟨uses_pure _, resetScope_inside⟩
  | event happened =>
      cases happened with
      | systemShuttingDown | systemHibernating | systemSleeping =>
          cases needs
          exact ⟨uses_bind (lights _) fun _ => uses_pure _, refreshScope_inside ec⟩
      | systemWakingUp =>
          cases needs
          exact ⟨uses_pure _, wakeScope_inside ec⟩
      | chargerConnected | chargerDisconnected => cases needs
  | _ => cases needs

theorem Job.unguarded_outside {job : Job} (needsNone : job.guard ec = none)
    (running : ∀ host, job ≠ .startUp host) : Uses DaemonOp.Outside (job.work ec) := by
  have onEc : ∀ {α : Type} {computation : Io α}, Uses DaemonOp.OnEc computation →
      Uses DaemonOp.Outside computation :=
    fun uses => Program.Uses.mono (fun _ operation => operation.outside) uses
  cases job with
  | request asked =>
      refine uses_bind (doWork_uses ec ?_) fun _ => uses_pure _
      cases asked with
      | daemonCommand command =>
          cases command with
          | restoreDefaults | activateTelemetry | applySettings | getSettings | getTelemetryId =>
              cases needsNone
          | _ => exact uses_throw _
      | setPowerProfile | setFanMode | setKeyboardBacklight | setChargeLimit | setLedMode =>
          cases needsNone
      | _ => exact onEc (Program.Uses.mono (fun _ operation => operation.onEc)
          (getters_read ec trivial))
  | connectionReset => cases needsNone
  | event happened =>
      have charger : happened = .chargerConnected ∨ happened = .chargerDisconnected := by
        cases happened with
        | chargerConnected => exact .inl rfl
        | chargerDisconnected => exact .inr rfl
        | _ => cases needsNone
      exact uses_bind (onEc (processCharger_uses ec (fun _ => DaemonOp.ReadsEc.onEc)
        (fun orangeOn whiteOn => apply_onEc ec (.batteryLeds orangeOn whiteOn)) charger)) fun _ => uses_pure _
  | workerRound =>
      refine uses_bind (workerRound_uses ec ?_ ?_) fun _ => uses_pure _
      · exact fun _ telemeters => telemeters.outside
      · exact fun _ reads => reads.onEc.outside
  | panicReport message =>
      refine uses_bind (Program.Uses.mono ?_ (send_telemeters _)) fun _ => uses_pure _
      exact fun _ telemeters => telemeters.outside
  | startUp host => exact absurd rfl (running host)

end Programs

end Lecoo.Daemon
