import Lecoo.Daemon.Footprint

namespace Lecoo.Daemon

open Lecoo.Effects Lecoo.Ipc Lecoo.Ec Lecoo.Data

/-! # Requests served with no other request in progress -/

variable {codec : SettingsCodec} {thread : ThreadId} {ec : EcDevice} {before after : World}

theorem alone_readState {result : Except Failure CurrentSettings} :
    Alone codec thread Io.readState before result after ↔
      result = .ok before.settings ∧ after = before :=
  ⟨fun ⟨_, read, same⟩ => ⟨read, same⟩, fun ⟨read, same⟩ => ⟨default, read, same⟩⟩

theorem alone_writeState {settings : CurrentSettings} {result : Except Failure Unit} :
    Alone codec thread (Io.writeState settings) before result after ↔
      result = .ok () ∧ after = before.withSettings settings :=
  ⟨fun ⟨_, wrote, same⟩ => ⟨wrote, same⟩, fun ⟨wrote, same⟩ => ⟨default, wrote, same⟩⟩

theorem alone_systemTimeHash {result : Except Failure UInt64} :
    Alone codec thread Io.systemTimeHash before result after ↔
      ∃ hash, result = .ok hash ∧ after = before :=
  ⟨fun ⟨choice, read, same⟩ => ⟨choice.clock, read, same⟩,
    fun ⟨hash, read, same⟩ => ⟨{ clock := hash }, read, same⟩⟩

theorem alone_modifyState {change : CurrentSettings → CurrentSettings}
    {result : Except Failure Unit} :
    Alone codec thread (Io.modifyState change) before result after ↔
      result = .ok () ∧ after = before.withSettings (change before.settings) :=
  (Fallible.runs_bind_sure alone_readState).trans alone_writeState

/-- The guard is refused when another thread has it; otherwise the scope runs
with the guard held, and the guard is given back however the scope ends. -/
theorem alone_withState {α : Type} {scope : Io α} {result : Except Failure α} :
    Alone codec thread (withState scope) before result after ↔
      (before.stateLock ≠ none ∧ after = before ∧
        result = .error (.error "State locked, cannot acquire lock")) ∨
      (before.stateLock = none ∧ ∃ middle,
        Alone codec thread scope (before.lockedBy (some thread)) result middle ∧
        after = middle.lockedBy none) := by
  have bound : ∀ start : World,
      Program.Runs (daemonSemantics codec thread)
        (scope.run >>= fun outcome => Io.perform .unlockState >>= fun _ => pure outcome)
        start result after ↔
      ∃ middle, Alone codec thread scope start result middle ∧ after = middle.lockedBy none := by
    intro start
    rw [Program.runs_bind]
    constructor
    · rintro ⟨outcome, middle, ran, _, rfl, rfl⟩
      exact ⟨middle, ran, rfl⟩
    · rintro ⟨middle, ran, rfl⟩
      exact ⟨result, middle, ran, default, rfl, rfl⟩
  cases lock : before.stateLock with
  | none =>
      constructor
      · rintro ⟨choice, ran⟩
        rw [tryLockState_free lock] at ran
        exact .inr ⟨rfl, (bound _).mp ran⟩
      · rintro (⟨taken, -⟩ | ⟨-, ran⟩)
        · exact absurd rfl taken
        · refine ⟨default, ?_⟩
          rw [tryLockState_free lock]
          exact (bound _).mpr ran
  | some holder =>
      constructor
      · rintro ⟨choice, ran⟩
        rw [tryLockState_held lock] at ran
        exact .inl ⟨Option.some_ne_none holder, ran.2, ran.1⟩
      · rintro (⟨-, same, failed⟩ | ⟨free, -⟩)
        · refine ⟨default, ?_⟩
          rw [tryLockState_held lock]
          exact ⟨failed, same⟩
        · cases free

def requestSetter : IpcRequest → Option Setter
  | .setPowerProfile profile => some (.powerProfile profile)
  | .setFanMode fan mode => some (.fanMode fan mode)
  | .setKeyboardBacklight level => some (.keyboardBacklight level)
  | .setChargeLimit limit => some (.chargeLimit limit)
  | .setLedMode mode => some (.ledMode mode)
  | _ => none

/-- What a setter that was acknowledged left in the settings. -/
def record : Setter → CurrentSettings → CurrentSettings
  | .powerProfile profile, settings => { settings with powerProfile := profile }
  | .fanMode .cpu mode, settings => { settings with fanModeCpu := mode }
  | .fanMode .gpu mode, settings => { settings with fanModeGpu := mode }
  | .keyboardBacklight level, settings => { settings with keyboardBacklight := level }
  | .chargeLimit limit, settings => { settings with chargeLimit := limit }
  | .ledMode mode, settings => { settings with ledMode := mode }
  | .batteryLeds _ _, settings => settings

theorem record_telemetry (setter : Setter) (settings : CurrentSettings) :
    (record setter settings).telemetryEnabled = settings.telemetryEnabled ∧
      (record setter settings).telemetryClientId = settings.telemetryClientId := by
  cases setter with
  | fanMode fan mode => cases fan <;> exact ⟨rfl, rfl⟩
  | _ => exact ⟨rfl, rfl⟩

theorem handleRequest_setter {request : IpcRequest} {setter : Setter}
    (sets : requestSetter request = some setter) :
    handleRequest ec request = setter.apply ec >>= fun _ => commit (record setter) := by
  cases request with
  | setPowerProfile profile =>
      cases sets
      simp only [handleRequest, setPowerProfile, Setter.apply, bind_assoc, pure_bind]
      rfl
  | setFanMode fan mode => cases sets; cases fan <;> rfl
  | setKeyboardBacklight level => cases sets; rfl
  | setChargeLimit limit => cases sets; rfl
  | setLedMode mode => cases sets; rfl
  | _ => cases sets

theorem alone_commit {change : CurrentSettings → CurrentSettings}
    {result : Except Failure IpcResponse} (free : before.stateLock = none) :
    Alone codec thread (commit change) before result after ↔
      result = .ok .success ∧ after = before.withSettings (change before.settings) := by
  have scope : ∀ start middle,
      Alone codec thread (Io.modifyState change >>= fun _ => pure .success) start result middle ↔
        result = .ok .success ∧ middle = start.withSettings (change start.settings) := by
    exact fun start middle => Fallible.runs_bind_sure alone_modifyState
  rw [commit, alone_withState]
  simp only [free, ne_eq, not_true_eq_false, false_and, true_and, false_or, scope]
  have given : ((before.lockedBy (some thread)).withSettings (change before.settings)).lockedBy
      none = before.withSettings (change before.settings) := by
    rw [← free]
    rfl
  constructor
  · rintro ⟨_, ⟨rfl, rfl⟩, rfl⟩
    exact ⟨rfl, given⟩
  · rintro ⟨rfl, rfl⟩
    exact ⟨_, ⟨rfl, rfl⟩, given.symm⟩

/-- What the client is told about the outcome of its request. -/
def respond : Except Failure IpcResponse → Except Failure IpcResponse
  | .error (.error err) => .ok (.error s!"Processing request failed: {err}")
  | outcome => outcome

theorem alone_doWork {request : IpcRequest} {result : Except Failure IpcResponse} :
    Alone codec thread (doWork ec request) before result after ↔
      ∃ outcome, Alone codec thread (handleRequest ec request) before outcome after ∧
        result = respond outcome := by
  rw [doWork, Alone, Fallible.runs_attempt, Program.runs_bind]
  refine exists_congr fun outcome => ⟨?_, ?_⟩
  · rintro ⟨middle, ran, replied⟩
    rcases outcome with (_ | _) | _ <;> exact ⟨replied.2 ▸ ran, replied.1⟩
  · rintro ⟨ran, replied⟩
    refine ⟨after, ran, ?_⟩
    rcases outcome with (_ | _) | _ <;> exact ⟨replied, rfl⟩

theorem doWork_run (request : IpcRequest) : (doWork ec request).run =
    (handleRequest ec request).run >>= fun outcome => .done (respond outcome) := by
  refine congrArg ((handleRequest ec request).run >>= ·) (funext fun outcome => ?_)
  rcases outcome with (_ | _) | _ <;> rfl

theorem withState_returns {α : Type} {condition : α → Prop} {scope : Io α}
    (returns : Fallible.Returns condition scope) :
    Fallible.Returns condition (withState scope) := by
  have ended : ∀ program : Program daemonOps (Except Failure α),
      Fallible.Returns.go condition program →
      Fallible.Returns.go condition
        (program >>= fun outcome => Io.perform .unlockState >>= fun _ => pure outcome) := by
    intro program
    induction program with
    | done outcome => exact fun satisfied _ => satisfied
    | perform operation next ih => exact fun satisfied reply => ih reply (satisfied reply)
  intro acquired
  cases acquired with
  | false =>
      intro value returned
      cases returned
  | true => exact ended scope.run returns

theorem handleRequest_answers (ec : EcDevice) (request : IpcRequest) :
    Fallible.Returns (fun response => ∀ message, response ≠ .error message)
      (handleRequest ec request) := by
  have commits : ∀ change : CurrentSettings → CurrentSettings,
      Fallible.Returns (fun response => ∀ message, response ≠ .error message) (commit change) :=
    fun _ => withState_returns (Fallible.returns_bind fun _ => Fallible.returns_pure (by simp))
  cases request with
  | daemonCommand command =>
      cases command with
      | restoreDefaults =>
          exact withState_returns (Fallible.returns_bind fun _ => Fallible.returns_bind fun _ =>
            Fallible.returns_bind fun _ => Fallible.returns_bind fun _ =>
              Fallible.returns_bind fun _ => Fallible.returns_bind fun _ =>
                Fallible.returns_pure (by simp))
      | activateTelemetry isEnabled =>
          refine withState_returns (Fallible.returns_bind fun _ => Fallible.returns_bind fun _ =>
            Fallible.returns_bind fun _ => ?_)
          cases isEnabled <;> exact Fallible.returns_bind fun _ => Fallible.returns_pure (by simp)
      | applySettings =>
          exact withState_returns (Fallible.returns_bind fun _ => Fallible.returns_bind fun _ =>
            Fallible.returns_pure (by simp))
      | getSettings | getTelemetryId =>
          exact withState_returns (Fallible.returns_bind fun _ => Fallible.returns_pure (by simp))
      | _ => exact Fallible.returns_throw _
  | setPowerProfile | setFanMode | setKeyboardBacklight | setChargeLimit | setLedMode =>
      exact Fallible.returns_bind fun _ => commits _
  | getChargeLimit =>
      exact Fallible.returns_bind fun _ => Fallible.returns_bind fun _ =>
        Fallible.returns_pure (by simp)
  | _ => exact Fallible.returns_bind fun _ => Fallible.returns_pure (by simp)

end Lecoo.Daemon
