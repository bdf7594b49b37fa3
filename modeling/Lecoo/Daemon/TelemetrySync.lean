import Lecoo.Daemon.Durability

namespace Lecoo.Daemon

open Lecoo.Effects Lecoo.Ipc Lecoo.Ec Lecoo.Data

/-! # The running telemetry state and the settings

The switch and the identity exist twice: in the atomics the worker reads, and
in the settings.  The start-up makes them equal.
-/

variable {codec : SettingsCodec} {thread : ThreadId} {ec : EcDevice} {before after : World}
  {choices : List Choice}

def TelemetryMatches (world : World) : Prop :=
  world.telemetryEnabled = world.settings.telemetryEnabled ∧
    world.telemetryId = world.settings.telemetryClientId

theorem activateTelemetry_run (isEnabled : Bool) :
    (doWork ec (.daemonCommand (.activateTelemetry isEnabled))).run =
    .perform .tryLockState fun acquired => match acquired with
      | false => .done (respond (.error (.error "State locked, cannot acquire lock")))
      | true => .perform .readState fun settings =>
        .perform (.writeState { settings with telemetryEnabled := isEnabled }) fun _ =>
        .perform .readState fun settings => (save settings).run >>= fun outcome => match outcome with
          | .error failure => .perform .unlockState fun _ => .done (respond (.error failure))
          | .ok () => .perform (.storeTelemetryEnabled isEnabled) fun _ =>
              .perform .unlockState fun _ => .done (respond (.ok
                (if isEnabled then .success else .telemetryDisabledInfo))) := by
  rw [doWork_run]
  refine congrArg (Program.perform _) (funext fun acquired => ?_)
  cases acquired with
  | false => rfl
  | true =>
      refine congrArg (Program.perform _) (funext fun settings => ?_)
      refine congrArg (Program.perform _) (funext fun _ => ?_)
      refine congrArg (Program.perform _) (funext fun settings => ?_)
      change (((save settings).run >>= _) >>= _) >>= _ = _
      rw [bind_assoc, bind_assoc]
      refine congrArg ((save settings).run >>= ·) (funext fun outcome => ?_)
      cases outcome with
      | error failure => rfl
      | ok value => cases isEnabled <;> rfl

/-- What the environment decides about the operations of a request that is served alone. -/
def decided (codec : SettingsCodec) (thread : ThreadId) (ec : EcDevice) (request : IpcRequest)
    (choices : List Choice) (world : World) : List (DaemonOp × Choice) :=
  Program.met (daemonSemantics codec thread) (doWork ec request).run choices world

/-- The steps of a save whose failures are reported. -/
def DaemonOp.saves : DaemonOp → Bool
  | .createStateDir | .createStateFile | .encodeSettings _ => true
  | _ => false

/-- No step of the save fails. -/
def SaveSucceeds (steps : List (DaemonOp × Choice)) : Prop :=
  ∀ step ∈ steps, step.1.saves = true → step.2.failure = none

instance (steps : List (DaemonOp × Choice)) : Decidable (SaveSucceeds steps) := by
  unfold SaveSucceeds
  infer_instance

theorem activateTelemetry_after (codec : SettingsCodec) (thread : ThreadId) (ec : EcDevice)
    (choices : List Choice) (free : before.stateLock = none) (isEnabled : Bool) :
    let request : IpcRequest := .daemonCommand (.activateTelemetry isEnabled)
    let after := (runAlone codec thread (doWork ec request) choices before).2
    after.settings = { before.settings with telemetryEnabled := isEnabled } ∧
      after.telemetryId = before.telemetryId ∧ after.stateLock = none ∧
      after.telemetryEnabled =
        if SaveSucceeds (decided codec thread ec request choices before) then isEnabled
        else before.telemetryEnabled := by
  simp only [runAlone, decided, activateTelemetry_run, Program.run, Program.met, headD_choiceAt,
    tail_choiceAt, daemonSemantics, Choice.outcome, free, save_run, Program.perform_bind]
  cases dir : (choiceAt choices 4).failure with
  | some message =>
      simp [SaveSucceeds, DaemonOp.saves, dir, Program.run, Program.met, daemonSemantics,
        World.lockedBy, World.withSettings]
  | none =>
      simp only [Program.run, Program.met, headD_choiceAt, tail_choiceAt, daemonSemantics,
        Program.perform_bind]
      cases create : (choiceAt choices 5).failure with
      | some message =>
          simp [SaveSucceeds, DaemonOp.saves, create, Program.run, Program.met, daemonSemantics,
            World.lockedBy, World.withSettings]
      | none =>
          simp only [Program.run, Program.met, headD_choiceAt, tail_choiceAt, daemonSemantics,
            Program.perform_bind, Program.done_bind, Choice.outcome]
          cases encode : (choiceAt choices 6).failure with
          | some message =>
              simp [SaveSucceeds, DaemonOp.saves, encode, Program.run, Program.met,
                daemonSemantics, World.append, World.lockedBy, World.withSettings, World.withFile]
          | none =>
              simp [SaveSucceeds, DaemonOp.saves, dir, create, encode, Program.run, Program.met,
                daemonSemantics, World.append, World.lockedBy, World.withSettings, World.withFile]

/-- What `RestoreDefaults` does after it replaced the settings. -/
def resetRest (ec : EcDevice) : Io IpcResponse := do
  save (← Io.readState)
  restoreState ec (← Io.readState)
  return .success

theorem resetRest_keepsControl (ec : EcDevice) :
    Fallible.Uses DaemonOp.KeepsControl (resetRest ec) := by
  have reads : Fallible.Uses DaemonOp.KeepsControl Io.readState :=
    Fallible.uses_always (Io.uses_perform trivial)
  refine Fallible.uses_bind reads fun settings => ?_
  refine Fallible.uses_bind ?_ fun _ => Fallible.uses_bind reads fun settings => ?_
  · exact Program.Uses.mono (fun _ => DaemonOp.OnFile.keepsControl) (save_onFile settings)
  · refine Fallible.uses_bind ?_ fun _ => Fallible.uses_pure _
    exact Program.Uses.mono (fun _ => DaemonOp.OnEc.keepsControl) (restoreState_onEc ec settings)

theorem restoreDefaults_run : (doWork ec (.daemonCommand .restoreDefaults)).run =
    .perform .tryLockState fun acquired => match acquired with
      | false => .done (respond (.error (.error "State locked, cannot acquire lock")))
      | true => .perform .systemTimeHash fun hash =>
        .perform (.writeState (CurrentSettings.default hash)) fun _ =>
        (resetRest ec).run >>= fun outcome =>
          .perform .unlockState fun _ => .done (respond outcome) := by
  rw [doWork_run]
  refine congrArg (Program.perform _) (funext fun acquired => ?_)
  cases acquired with
  | false => rfl
  | true =>
      refine congrArg (Program.perform _) (funext fun hash => ?_)
      refine congrArg (Program.perform _) (funext fun _ => ?_)
      change ((resetRest ec).run >>= _) >>= _ = _
      rw [bind_assoc]
      rfl

theorem run_released {scope : Io IpcResponse}
    (keeps : Fallible.Uses DaemonOp.KeepsControl scope) (choices : List Choice) (start : World) :
    let after := (Program.run (daemonSemantics codec thread) (scope.run >>= fun outcome =>
      .perform .unlockState fun _ => .done (respond outcome)) choices start).2
    after.settings = start.settings ∧ after.telemetryId = start.telemetryId ∧
      after.stateLock = none ∧ after.telemetryEnabled = start.telemetryEnabled := by
  intro after
  have ran : Program.Runs (daemonSemantics codec thread) _ start _ after :=
    Program.run_runs _ choices start
  obtain ⟨outcome, middle, first, _, _, released⟩ := Program.runs_bind.mp ran
  have kept := alone_keepsControl keeps first
  rw [released]
  exact ⟨kept.settings, kept.telemetryId, rfl, kept.telemetryEnabled⟩

/-- The hash that the new client id is taken from. -/
def clockDrawn (steps : List (DaemonOp × Choice)) : Option UInt64 :=
  steps.findSome? fun step => match step.1 with
    | .systemTimeHash => some step.2.clock
    | _ => none

theorem restoreDefaults_after (codec : SettingsCodec) (thread : ThreadId) (ec : EcDevice)
    (choices : List Choice) (free : before.stateLock = none) :
    let after := (runAlone codec thread
      (doWork ec (.daemonCommand .restoreDefaults)) choices before).2
    (∃ hash, clockDrawn (decided codec thread ec (.daemonCommand .restoreDefaults) choices before) =
        some hash ∧ after.settings = CurrentSettings.default hash) ∧
      after.telemetryId = before.telemetryId ∧ after.stateLock = none ∧
      after.telemetryEnabled = before.telemetryEnabled := by
  simp only [runAlone, decided, restoreDefaults_run, Program.run, Program.met, headD_choiceAt,
    tail_choiceAt, daemonSemantics, free]
  obtain ⟨settings, rest⟩ := run_released (resetRest_keepsControl ec) _ _
  exact ⟨⟨_, rfl, settings⟩, rest⟩

structure SameTelemetry (before after : World) : Prop where
  enabled : after.settings.telemetryEnabled = before.settings.telemetryEnabled
  clientId : after.settings.telemetryClientId = before.settings.telemetryClientId
  running : after.telemetryEnabled = before.telemetryEnabled
  identity : after.telemetryId = before.telemetryId

theorem World.SameControl.sameTelemetry (same : before.SameControl after) :
    SameTelemetry before after :=
  ⟨by rw [same.settings], by rw [same.settings], same.telemetryEnabled, same.telemetryId⟩

theorem setter_sameTelemetry {request : IpcRequest} {setter : Setter}
    (sets : requestSetter request = some setter) (free : before.stateLock = none)
    {outcome : Except Failure IpcResponse}
    (ran : Alone codec thread (handleRequest ec request) before outcome after) :
    SameTelemetry before after ∧ after.stateLock = none := by
  rw [handleRequest_setter sets] at ran
  have applied : ∀ {middle : World} {result : Except Failure Unit},
      Alone codec thread (setter.apply ec) before result middle → before.SameControl middle :=
    fun first => alone_keepsControl
      (Program.Uses.mono (fun _ => DaemonOp.OnEc.keepsControl) (apply_onEc ec setter)) first
  rcases Fallible.runs_bind.mp ran with ⟨_, _, first⟩ | ⟨_, middle, first, second⟩
  · exact ⟨(applied first).sameTelemetry, (applied first).stateLock.trans free⟩
  · have same := applied first
    obtain ⟨_, rfl⟩ := (alone_commit (same.stateLock.trans free)).mp second
    obtain ⟨enabled, clientId⟩ := record_telemetry setter middle.settings
    refine ⟨⟨?_, ?_, same.telemetryEnabled, same.telemetryId⟩, same.stateLock.trans free⟩
    · exact enabled.trans (congrArg CurrentSettings.telemetryEnabled same.settings)
    · exact clientId.trans (congrArg CurrentSettings.telemetryClientId same.settings)

theorem withState_sameTelemetry {scope : Io IpcResponse} (free : before.stateLock = none)
    (keeps : Fallible.Uses DaemonOp.KeepsControl scope) {outcome : Except Failure IpcResponse}
    (ran : Alone codec thread (withState scope) before outcome after) :
    SameTelemetry before after ∧ after.stateLock = none := by
  rcases alone_withState.mp ran with ⟨taken, _⟩ | ⟨_, middle, inside, rfl⟩
  · exact absurd free taken
  · have same := alone_keepsControl keeps inside
    exact ⟨⟨congrArg CurrentSettings.telemetryEnabled same.settings,
      congrArg CurrentSettings.telemetryClientId same.settings,
      same.telemetryEnabled, same.telemetryId⟩, rfl⟩

theorem doWork_sameTelemetry {request : IpcRequest} {response : Except Failure IpcResponse}
    (notReset : request ≠ .daemonCommand .restoreDefaults)
    (notActivate : ∀ isEnabled, request ≠ .daemonCommand (.activateTelemetry isEnabled))
    (free : before.stateLock = none)
    (ran : Alone codec thread (doWork ec request) before response after) :
    SameTelemetry before after ∧ after.stateLock = none := by
  obtain ⟨outcome, handled, -⟩ := alone_doWork.mp ran
  have reads : Fallible.Uses DaemonOp.KeepsControl Io.readState :=
    Fallible.uses_always (Io.uses_perform trivial)
  cases sets : requestSetter request with
  | some setter => exact setter_sameTelemetry sets free handled
  | none =>
      by_cases getter : IsGetter request
      · cases alone_readings (getters_read ec getter) handled
        exact ⟨⟨rfl, rfl, rfl, rfl⟩, free⟩
      · cases request with
        | daemonCommand command =>
            cases command with
            | restoreDefaults => exact absurd rfl notReset
            | activateTelemetry isEnabled => exact absurd rfl (notActivate isEnabled)
            | applySettings =>
                refine withState_sameTelemetry free ?_ handled
                refine Fallible.uses_bind reads fun settings => ?_
                exact Fallible.uses_bind (Program.Uses.mono (fun _ => DaemonOp.OnEc.keepsControl)
                  (restoreState_onEc ec settings)) fun _ => Fallible.uses_pure _
            | getSettings | getTelemetryId =>
                exact withState_sameTelemetry free
                  (Fallible.uses_bind reads fun _ => Fallible.uses_pure _) handled
            | _ =>
                obtain ⟨-, rfl⟩ := handled
                exact ⟨⟨rfl, rfl, rfl, rfl⟩, free⟩
        | _ => first | exact absurd trivial getter | cases sets

/-- A request together with what the environment decides while it is served. -/
abbrev Served := IpcRequest × List Choice

def serve (codec : SettingsCodec) (thread : ThreadId) (ec : EcDevice) (world : World)
    (served : Served) : World :=
  (runAlone codec thread (doWork ec served.1) served.2 world).2

/-- The request does not part the running state from the settings: the defaults
it restores are the running state already, and no save stands between the two
updates of the switch. -/
def KeepsInStep (codec : SettingsCodec) (thread : ThreadId) (ec : EcDevice) (world : World) :
    Served → Prop
  | (.daemonCommand .restoreDefaults, choices) => world.telemetryEnabled = true ∧
      clockDrawn (decided codec thread ec (.daemonCommand .restoreDefaults) choices world) =
        some world.telemetryId
  | (.daemonCommand (.activateTelemetry isEnabled), choices) =>
      SaveSucceeds (decided codec thread ec (.daemonCommand (.activateTelemetry isEnabled))
        choices world) ∨ world.telemetryEnabled = isEnabled
  | _ => True

theorem serve_matches_iff (codec : SettingsCodec) (thread : ThreadId) (ec : EcDevice)
    (served : Served) (free : before.stateLock = none)
    (inStep : TelemetryMatches before) :
    (serve codec thread ec before served).stateLock = none ∧
      (TelemetryMatches (serve codec thread ec before served) ↔ KeepsInStep codec thread ec before served) := by
  obtain ⟨request, choices⟩ := served
  obtain ⟨running, identity⟩ := inStep
  by_cases reset : request = .daemonCommand .restoreDefaults
  · subst reset
    obtain ⟨⟨hash, drawn, settings⟩, same, released, switch⟩ :=
      restoreDefaults_after codec thread ec choices free
    refine ⟨released, ?_⟩
    rw [TelemetryMatches, serve, settings, same, switch, KeepsInStep, drawn, Option.some.injEq,
      @eq_comm _ hash]
    rfl
  by_cases activate : ∃ isEnabled, request = .daemonCommand (.activateTelemetry isEnabled)
  · obtain ⟨isEnabled, rfl⟩ := activate
    obtain ⟨settings, same, released, switch⟩ :=
      activateTelemetry_after codec thread ec choices free isEnabled
    refine ⟨released, ?_⟩
    rw [TelemetryMatches, serve, settings, same, switch, KeepsInStep]
    split <;> simp_all
  · obtain ⟨same, released⟩ := doWork_sameTelemetry reset (fun isEnabled => fun equal =>
      activate ⟨isEnabled, equal⟩) free
      (runAlone_alone codec thread (doWork ec request) choices before)
    refine ⟨released, iff_of_true ⟨?_, ?_⟩ ?_⟩
    · rw [serve, same.running, same.enabled, running]
    · rw [serve, same.identity, same.clientId, identity]
    · cases request with
      | daemonCommand command =>
          cases command with
          | restoreDefaults => exact absurd rfl reset
          | activateTelemetry isEnabled => exact absurd ⟨isEnabled, rfl⟩ activate
          | _ => trivial
      | _ => trivial

def serveAll (codec : SettingsCodec) (thread : ThreadId) (ec : EcDevice) (world : World)
    (session : List Served) : World :=
  session.foldl (serve codec thread ec) world

/-- Every request of the session keeps the running state and the settings in step. -/
def AllKeepInStep (codec : SettingsCodec) (thread : ThreadId) (ec : EcDevice) :
    World → List Served → Prop
  | _, [] => True
  | world, served :: rest => KeepsInStep codec thread ec world served ∧
      AllKeepInStep codec thread ec (serve codec thread ec world served) rest

theorem serveAll_matches {session : List Served} (free : before.stateLock = none)
    (inStep : TelemetryMatches before) (kept : AllKeepInStep codec thread ec before session) :
    TelemetryMatches (serveAll codec thread ec before session) := by
  induction session generalizing before with
  | nil => exact inStep
  | cons served rest ih =>
      obtain ⟨released, served_iff⟩ :=
        serve_matches_iff codec thread ec served free inStep
      exact ih released (served_iff.mpr kept.1) kept.2

theorem publish_matches {settings : CurrentSettings}
    (ran : Alone codec thread (do Io.publishEc; Io.publishState settings) before (.ok ()) after)
    (free : before.stateLock = none)
    (running : before.telemetryEnabled = settings.telemetryEnabled)
    (identity : before.telemetryId = settings.telemetryClientId) :
    after.stateLock = none ∧ TelemetryMatches after := by
  obtain ⟨_, _, ⟨_, _, rfl⟩, _, _, rfl⟩ := Fallible.runs_bind_ok.mp ran
  exact ⟨free, running, identity⟩

theorem startUp_matches {host : SystemInfo} (free : before.stateLock = none)
    (ran : Alone codec thread (startUp ec host) before (.ok ()) after) :
    after.stateLock = none ∧ TelemetryMatches after := by
  obtain ⟨settings, loaded, first, ran⟩ := Fallible.runs_bind_ok.mp ran
  have loadedSame := alone_keepsControl loadOrDefault_keepsControl first
  obtain ⟨_, restored, second, ran⟩ := Fallible.runs_bind_ok.mp ran
  have restoredSame := alone_keepsControl (Io.uses_ok?
    (Program.Uses.mono (fun _ => DaemonOp.OnEc.keepsControl) (restoreState_onEc ec settings))) second
  obtain ⟨_, _, ⟨_, _, _, _, _, rfl⟩, ran⟩ := Fallible.runs_bind_ok.mp ran
  have restoredFree := (loadedSame.trans restoredSame).stateLock.trans free
  cases enabled : settings.telemetryEnabled with
  | false =>
      simp only [enabled, Bool.false_eq_true, if_false] at ran
      exact publish_matches ran restoredFree rfl rfl
  | true =>
      simp only [enabled, if_true] at ran
      obtain ⟨⟨chipId1, chipId2, chipVer⟩, _, read, ran⟩ := Fallible.runs_bind_ok.mp ran
      cases alone_readings (readSystemInfo_reads ec) read
      obtain ⟨_, sent, queued, ran⟩ := Fallible.runs_bind_ok.mp ran
      have sends : ∀ data, Fallible.Uses DaemonOp.KeepsControl (Telemetry.send data) := by
        intro data
        refine Fallible.uses_bind (Fallible.uses_always (Io.uses_perform trivial)) fun isEnabled => ?_
        cases isEnabled with
        | false => exact Fallible.uses_pure _
        | true => exact Fallible.uses_always (Io.uses_perform trivial)
      have same := alone_keepsControl (sends _) queued
      exact publish_matches ran (same.stateLock.trans restoredFree)
        same.telemetryEnabled same.telemetryId

/-- From a start of the daemon on, the running telemetry state is what the
settings say as long as every request keeps the two in step. -/
theorem telemetry_matches {host : SystemInfo} {memory : EcMemory} {file : Option (List UInt8)}
    {session : List Served}
    (started : Alone codec thread (startUp ec host) (World.fresh memory file) (.ok ()) before)
    (kept : AllKeepInStep codec thread ec before session) :
    TelemetryMatches (serveAll codec thread ec before session) := by
  obtain ⟨free, inStep⟩ := startUp_matches rfl started
  exact serveAll_matches free inStep kept

/-- The state after a start without a settings file. -/
def startedUp : World :=
  (runAlone .bincode 0 (startUp Detection.n155a.device ⟨"", "", ""⟩) []
    (World.fresh (fun _ => 0) none)).2

/-- The settings file of an `ActivateTelemetry` cannot be created. -/
def diskFull : List Choice := List.replicate 5 default ++ [{ failure := some "disk full" }]

/-- An opt-out, a second one that is not saved, an opt-in, and the defaults. -/
def consentSession : List Served :=
  [(.setPowerProfile .performance, []),
    (.daemonCommand (.activateTelemetry false), []),
    (.daemonCommand (.activateTelemetry false), diskFull),
    (.daemonCommand .getSettings, []),
    (.daemonCommand (.activateTelemetry true), []),
    (.daemonCommand .restoreDefaults, [])]

theorem telemetry_matches_opt_out :
    ¬SaveSucceeds (decided .bincode 0 Detection.n155a.device
      (.daemonCommand (.activateTelemetry false)) diskFull startedUp) ∧
    TelemetryMatches (serveAll .bincode 0 Detection.n155a.device startedUp consentSession) :=
  ⟨by decide +kernel,
    telemetry_matches (runAlone_alone .bincode 0 (startUp Detection.n155a.device ⟨"", "", ""⟩) []
      (World.fresh (fun _ => 0) none))
      ⟨trivial, .inl (by decide +kernel), .inr (by decide +kernel), trivial,
        .inl (by decide +kernel), ⟨by decide +kernel, by decide +kernel⟩, trivial⟩⟩

/-- After an opt-out, the defaults bring the consent back to the settings but
not to the running switch. -/
theorem restoreDefaults_parts_telemetry :
    ¬ TelemetryMatches (serveAll .bincode 0 Detection.n155a.device startedUp
      [(.daemonCommand (.activateTelemetry false), []), (.daemonCommand .restoreDefaults, [])]) := by
  rintro ⟨running, -⟩
  exact absurd running (by decide)

end Lecoo.Daemon
