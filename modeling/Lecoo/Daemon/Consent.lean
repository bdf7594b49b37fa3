import Lecoo.Daemon.Recovery

namespace Lecoo.Daemon

open Lecoo.Effects Lecoo.Ipc Lecoo.Ec Fallible

/-! # The copies of the consent

The consent to telemetry is kept in the settings in memory, in the settings file and in the
switch that the worker looks at.  An account is kept of which requests have changed a copy,
of the saves that were broken off, and of the rounds of the worker that are past the switch.
-/

structure Account where
  /-- The request that changed the consent in memory last was not an opt-out. -/
  given : Bool
  /-- The file was rewritten after such a request, or has not been rewritten completely. -/
  spoilt : Bool
  /-- The request that turned the switch last was not an opt-out. -/
  on : Bool
  /-- The threads that have encoded all of what they are saving. -/
  encoded : ThreadId → Bool
  /-- The rounds of the worker that have found the switch on and not yet started to send. -/
  past : ThreadId → Bool

def Account.note (account : Account) (thread : ThreadId) (job : Job) (choice : Choice) :
    (operation : DaemonOp) → daemonOps.Reply operation → Account
  | .writeState _, _ => { account with given := job.consent.getD account.given }
  | .createStateFile, .ok _ => { account with spoilt := true }
  | .encodeSettings _, written =>
      { account with encoded := Function.update account.encoded thread written.2.isOk }
  | .dropWriter _, _ => { account with
      spoilt := account.given || !(account.encoded thread && choice.failure.isNone) }
  | .storeTelemetryEnabled _, _ => { account with on := job.consent.getD account.on }
  | .loadTelemetryEnabled, enabled =>
      match job with
      | .workerRound => { account with past := Function.update account.past thread enabled }
      | _ => account
  | .loadTelemetryId, _ => { account with past := Function.update account.past thread false }
  | _, _ => account

/-- Nothing has happened to the copies yet. -/
def Account.first : Account where
  given := false
  spoilt := false
  on := false
  encoded := fun _ => false
  past := fun _ => false

/-- A thread begins another job. -/
def Account.started (account : Account) (thread : ThreadId) : Account :=
  { account with past := Function.update account.past thread false }

/-- Only the file outlives a restart. -/
def Account.restarted (account : Account) : Account := { Account.first with spoilt := account.spoilt }

variable {codec : SettingsCodec} {ec : EcDevice} {account : Account} {world : World}
  {thread : ThreadId} {job : Job} {choice : Choice} {operation : DaemonOp}

/-- The settings file says that the telemetry is off. -/
def FileOff (codec : SettingsCodec) (world : World) : Prop :=
  ∃ settings, decodedFile codec world.stateFile = some settings ∧
    settings.telemetryEnabled = false

def MemoryOff (account : Account) (world : World) : Prop :=
  account.given = true ∨ world.settings.telemetryEnabled = false

def FileKept (codec : SettingsCodec) (account : Account) (world : World) : Prop :=
  account.spoilt = true ∨ FileOff codec world

def SwitchOff (account : Account) (world : World) : Prop :=
  account.on = true ∨ world.telemetryEnabled = false

/-- A copy that an opt-out has reached is off until the account says otherwise. -/
structure KeepsOff (codec : SettingsCodec) (account : Account) (world : World)
    (later : Account) (after : World) : Prop where
  memory : MemoryOff account world → MemoryOff later after
  file : MemoryOff account world → FileKept codec account world → FileKept codec later after
  switch : SwitchOff account world → SwitchOff later after

/-- A thread whose encoding has succeeded is about to write all of it. -/
def Custody.Complete (codec : SettingsCodec) (encoded : Bool) : Custody → Prop
  | .writing settings buffered => encoded = true → buffered = codec.encode settings
  | _ => True

/-- What the thread has read is what is in memory, and what it writes is all of that. -/
structure Custody.Accords (codec : SettingsCodec) (account : Account) (world : World)
    (thread : ThreadId) (custody : Custody) : Prop where
  fits : custody.Fits codec true (fun _ => True) none world thread
  complete : custody.Complete codec (account.encoded thread)

theorem World.SameGuarded.keepsOff {after : World} {later : Account} (same : world.SameGuarded after)
    (switch : after.telemetryEnabled = world.telemetryEnabled)
    (given : later.given = account.given) (spoilt : later.spoilt = account.spoilt)
    (on : later.on = account.on) : KeepsOff codec account world later after where
  memory off := by rwa [MemoryOff, given, same.store.settings]
  file _ kept := by rwa [FileKept, FileOff, spoilt, same.store.stateFile]
  switch off := by rwa [SwitchOff, on, switch]

theorem daemonSemantics_outside {operation : DaemonOp} (outside : operation.Outside)
    (choice : Choice) (world : World) :
    (daemonSemantics codec thread operation choice world).2.telemetryEnabled =
      world.telemetryEnabled := by
  cases operation with
  | decodeStateFile | queueTelemetry | receiveTelemetry =>
      simp only [daemonSemantics]
      split <;> rfl
  | tryLockState | unlockState | writeState | publishState | createStateFile | dropWriter
  | storeTelemetryEnabled | startTelemetryWorker => cases outside
  | _ => rfl

/-- What needs no guard leaves the account of the copies alone. -/
theorem DaemonOp.Outside.keepsOff {operation : DaemonOp} (outside : operation.Outside)
    (choice : Choice) (world : World) :
    KeepsOff codec account world
      (account.note thread job choice operation
        (daemonSemantics codec thread operation choice world).1)
      (daemonSemantics codec thread operation choice world).2 := by
  have same := @daemonSemantics_keepsStore codec thread operation outside.keepsStore choice world
  have switch := @daemonSemantics_outside codec thread operation outside choice world
  cases operation with
  | loadTelemetryEnabled => cases job <;> exact same.keepsOff switch rfl rfl rfl
  | tryLockState | unlockState | writeState | publishState | createStateFile | dropWriter
  | storeTelemetryEnabled | startTelemetryWorker => cases outside
  | _ => exact same.keepsOff switch rfl rfl rfl

/-- Off is what was asked for, or what was found. -/
theorem Custody.Accords.consent_written {custody : Custody} {settings : CurrentSettings}
    (accords : custody.Accords codec account world thread)
    (permits : custody.permits (.writeState settings))
    (sanctions : job.Sanctions custody (.writeState settings)) (off : MemoryOff account world) :
    job.consent.getD account.given = true ∨ settings.telemetryEnabled = false := by
  cases custody with
  | holds known =>
      cases told : job.consent with
      | some value =>
          rw [Job.Sanctions, told, Option.some_or] at sanctions
          cases value
          · exact .inr (Option.some.inj sanctions)
          · exact .inl rfl
      | none =>
          rw [Job.Sanctions, told, Option.none_or] at sanctions
          obtain ⟨found, rfl, same⟩ := Option.map_eq_some_iff.mp sanctions.symm
          rw [MemoryOff, accords.fits.2.1 found rfl, same] at off
          exact off
  | _ => cases permits

/-- What a completed save has written is what the thread found in memory. -/
theorem Custody.Accords.file_written {custody : Custody} {bytes : List UInt8} (choice : Choice)
    (accords : custody.Accords codec account world thread)
    (permits : custody.permits (.dropWriter bytes)) (off : MemoryOff account world) :
    FileKept codec
      (account.note thread job choice (.dropWriter bytes)
        (daemonSemantics codec thread (.dropWriter bytes) choice world).1)
      (daemonSemantics codec thread (.dropWriter bytes) choice world).2 := by
  cases custody with
  | writing settings buffered =>
      cases permits
      obtain ⟨-, same, empty, -⟩ := accords.fits
      cases given : account.given with
      | true => exact .inl (by simp [Account.note, given])
      | false =>
          cases encoded : account.encoded thread with
          | false => exact .inl (by simp [Account.note, encoded])
          | true =>
              cases failed : choice.failure with
              | some message => exact .inl (by simp [Account.note, failed])
              | none =>
                  have withdrawn : settings.telemetryEnabled = false := by
                    rw [MemoryOff, given, same] at off
                    exact off.resolve_left Bool.false_ne_true
                  refine .inr ⟨settings, ?_, withdrawn⟩
                  simp [decodedFile, daemonSemantics, World.append, World.withFile, Choice.passed,
                    failed, empty, accords.complete encoded, codec.decode_encode]
  | _ => cases permits

/-- An operation that a thread has the custody for keeps every copy that is off. -/
theorem consent_keepsOff {custody : Custody} (choice : Choice)
    (accords : custody.Accords codec account world thread)
    (permits : (custodyMonitor job).permits custody operation) :
    KeepsOff codec account world
      (account.note thread job choice operation
        (daemonSemantics codec thread operation choice world).1)
      (daemonSemantics codec thread operation choice world).2 := by
  obtain ⟨permits, sanctions⟩ := permits
  by_cases outside : operation.Outside
  · exact outside.keepsOff choice world
  · cases operation with
    | storeTelemetryEnabled value =>
        obtain ⟨rfl, -⟩ := sanctions
        refine ⟨id, fun _ => id, fun _ => ?_⟩
        cases value
        · exact .inr rfl
        · exact .inl rfl
    | tryLockState =>
        cases lock : world.stateLock with
        | some holder =>
            rw [tryLockState_held lock]
            exact ⟨id, fun _ => id, id⟩
        | none =>
            rw [tryLockState_free lock]
            exact ⟨id, fun _ => id, id⟩
    | unlockState => exact ⟨id, fun _ => id, id⟩
    | writeState settings => exact ⟨accords.consent_written permits sanctions, fun _ => id, id⟩
    | createStateFile =>
        cases failed : choice.failure with
        | some message =>
            simp only [daemonSemantics, failed]
            exact ⟨id, fun _ => id, id⟩
        | none =>
            simp only [daemonSemantics, failed]
            exact ⟨id, fun _ _ => .inl rfl, id⟩
    | dropWriter bytes => exact ⟨id, fun off _ => accords.file_written choice permits off, id⟩
    | publishState settings => cases custody <;> cases permits
    | startTelemetryWorker => exact sanctions.elim
    | _ => exact absurd trivial outside

theorem Account.note_encoded_other {other : ThreadId} (different : other ≠ thread)
    (reply : daemonOps.Reply operation) :
    (account.note thread job choice operation reply).encoded other = account.encoded other := by
  cases operation with
  | encodeSettings settings => exact Function.update_of_ne different _ _
  | createStateFile => cases reply <;> rfl
  | loadTelemetryEnabled => cases job <;> rfl
  | _ => rfl

theorem Account.note_past_other {other : ThreadId} (different : other ≠ thread)
    (reply : daemonOps.Reply operation) :
    (account.note thread job choice operation reply).past other = account.past other := by
  cases operation with
  | loadTelemetryEnabled => cases job <;> first | rfl | exact Function.update_of_ne different _ _
  | loadTelemetryId => exact Function.update_of_ne different _ _
  | createStateFile => cases reply <;> rfl
  | _ => rfl

/-- The thread's own operation keeps its custody in accord with the state. -/
theorem Custody.Accords.own {custody : Custody}
    (accords : custody.Accords codec account world thread)
    (permits : custody.permits operation) :
    (custody.next operation (daemonSemantics codec thread operation choice world).1).Accords codec
      (account.note thread job choice operation
        (daemonSemantics codec thread operation choice world).1)
      (daemonSemantics codec thread operation choice world).2 thread := by
  refine ⟨(custody_handles (fun impossible => absurd impossible (by decide)) trivial
    (fun impossible => absurd impossible (by decide)) accords.fits permits).own, ?_⟩
  cases custody with
  | away =>
      cases operation with
      | tryLockState =>
          cases lock : world.stateLock with
          | some holder => rw [tryLockState_held lock]; trivial
          | none => rw [tryLockState_free lock]; trivial
      | _ => trivial
  | holds known =>
      cases operation with
      | createStateFile =>
          cases known <;> cases failed : choice.failure <;>
            simp only [daemonSemantics, failed] <;> trivial
      | _ => cases known <;> trivial
  | emptied settings =>
      cases operation with
      | encodeSettings encoded =>
          cases permits
          intro succeeded
          cases failed : choice.failure with
          | some message =>
              simp [Account.note, daemonSemantics, Choice.outcome, failed, Except.isOk,
                Except.toBool] at succeeded
          | none => simp [daemonSemantics, Choice.passed, failed]
      | _ => cases permits
  | writing settings buffered =>
      cases operation with
      | dropWriter bytes => trivial
      | _ => cases permits

/-- The others keep theirs: while the thread has the guard they are away. -/
theorem Custody.Accords.others {custody held : Custody} {other : ThreadId}
    (accords : custody.Accords codec account world thread)
    (permits : custody.permits operation) (different : other ≠ thread)
    (theirs : held.Accords codec account world other) :
    held.Accords codec
      (account.note thread job choice operation
        (daemonSemantics codec thread operation choice world).1)
      (daemonSemantics codec thread operation choice world).2 other := by
  refine ⟨(custody_handles (fun impossible => absurd impossible (by decide)) trivial
    (fun impossible => absurd impossible (by decide)) accords.fits permits).others other held
      different theirs.fits, ?_⟩
  rw [Account.note_encoded_other different]
  exact theirs.complete

theorem Custody.Accords.spares {custody : Custody} {other : ThreadId}
    (accords : custody.Accords codec account world thread)
    (permits : custody.permits operation) (different : other ≠ thread)
    (spare : world.stateLock ≠ some other) :
    (daemonSemantics codec thread operation choice world).2.stateLock ≠ some other :=
  (custody_handles (fun impossible => absurd impossible (by decide)) trivial
    (fun impossible => absurd impossible (by decide)) accords.fits permits).others other .away
      different spare

/-- How far an opt-out has come. -/
inductive Withdrawal where
  | asked
  | withdrawn
  | rewritten
  | off

def Withdrawal.next : Withdrawal → (operation : DaemonOp) → daemonOps.Reply operation → Withdrawal
  | .asked, .writeState _, _ => .withdrawn
  | .withdrawn, .createStateFile, .ok _ => .rewritten
  | .rewritten, .storeTelemetryEnabled _, _ => .off
  | stage, _, _ => stage

def stageMonitor : Monitor daemonOps Withdrawal where
  permits _ _ := True
  next := Withdrawal.next

/-- The copies that an opt-out has reached at the stage. -/
def Withdrawal.Reached (codec : SettingsCodec) (account : Account) (world : World) : Withdrawal → Prop
  | .asked => True
  | .withdrawn => MemoryOff account world
  | .rewritten => MemoryOff account world ∧ FileKept codec account world
  | .off => MemoryOff account world ∧ FileKept codec account world ∧ SwitchOff account world

theorem Withdrawal.Reached.kept {stage : Withdrawal} {later : Account} {after : World}
    (reached : stage.Reached codec account world)
    (keeps : KeepsOff codec account world later after) : stage.Reached codec later after := by
  cases stage with
  | asked => trivial
  | withdrawn => exact keeps.memory reached
  | rewritten => exact ⟨keeps.memory reached.1, keeps.file reached.1 reached.2⟩
  | off =>
      exact ⟨keeps.memory reached.1, keeps.file reached.1 reached.2.1,
        keeps.switch reached.2.2⟩

def optOutRequest : Job := .request (.daemonCommand (.activateTelemetry false))

def optInRequest : Job := .request (.daemonCommand (.activateTelemetry true))

/-- The opt-out itself turns the copies off one after the other. -/
theorem Withdrawal.Reached.own {stage : Withdrawal} {custody : Custody}
    (reached : stage.Reached codec account world)
    (accords : custody.Accords codec account world thread)
    (permits : (custodyMonitor optOutRequest).permits custody operation) :
    (stage.next operation (daemonSemantics codec thread operation choice world).1).Reached codec
      (account.note thread optOutRequest choice operation
        (daemonSemantics codec thread operation choice world).1)
      (daemonSemantics codec thread operation choice world).2 := by
  have keeps := consent_keepsOff choice accords permits
  cases stage with
  | asked =>
      cases operation with
      | writeState settings => exact .inr (Option.some.inj permits.2)
      | _ => trivial
  | withdrawn =>
      cases operation with
      | createStateFile =>
          cases failed : choice.failure with
          | some message =>
              simp only [daemonSemantics, failed] at keeps ⊢
              exact keeps.memory reached
          | none =>
              simp only [daemonSemantics, failed] at keeps ⊢
              exact ⟨keeps.memory reached, .inl rfl⟩
      | _ => exact keeps.memory reached
  | rewritten =>
      have kept := reached.kept keeps
      cases operation with
      | storeTelemetryEnabled value =>
          obtain ⟨same, -⟩ := permits.2
          cases same
          exact ⟨kept.1, kept.2, .inr rfl⟩
      | _ => exact kept
  | off => exact reached.kept keeps

theorem optOutRequest_stages (ec : EcDevice) : (optOutRequest.work ec).run.Heeds stageMonitor
    (fun stage outcome => outcome = .ok (some .telemetryDisabledInfo) → stage = .off) .asked := by
  have refused : ∀ {message : String} {stage : Withdrawal},
      (Except.ok (some (IpcResponse.error message)) : Except Failure (Option IpcResponse)) =
        .ok (some .telemetryDisabledInfo) → stage = .off := by
    intro message stage impossible
    cases impossible
  refine ⟨trivial, fun acquired : Bool => ?_⟩
  cases acquired with
  | false => exact refused
  | true =>
      refine ⟨trivial, fun settings => ⟨trivial, fun _ => ⟨trivial, fun settings => ?_⟩⟩⟩
      refine ⟨trivial, fun made => ?_⟩
      rcases made with (_ | _) | _
      · exact ⟨trivial, fun _ => refused⟩
      · exact ⟨trivial, fun _ impossible => by cases impossible⟩
      refine ⟨trivial, fun created => ?_⟩
      rcases created with (_ | _) | _
      · exact ⟨trivial, fun _ => refused⟩
      · exact ⟨trivial, fun _ impossible => by cases impossible⟩
      refine ⟨trivial, fun written => ⟨trivial, fun _ => ?_⟩⟩
      obtain ⟨bytes, (_ | _) | _⟩ := written
      · exact ⟨trivial, fun _ => refused⟩
      · exact ⟨trivial, fun _ impossible => by cases impossible⟩
      exact ⟨trivial, fun _ => ⟨trivial, fun _ _ => rfl⟩⟩

end Lecoo.Daemon
