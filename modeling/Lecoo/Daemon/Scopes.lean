import Lecoo.Effects.Amid
import Lecoo.Effects.Transcript
import Lecoo.Daemon.Durability
import Lecoo.Daemon.Guards
import Lecoo.Daemon.Panics

namespace Lecoo.Daemon

open Lecoo.Effects Lecoo.Ipc Lecoo.Ec

/-! # Scopes of the guard amid the steps of other threads

While a thread holds the guard the others may work on the EC, the LED flag and
the telemetry, but they leave the settings, their lock and their file alone.
-/

structure World.SameStore (before after : World) : Prop where
  settings : after.settings = before.settings
  stateFile : after.stateFile = before.stateFile

theorem World.SameStore.refl (world : World) : world.SameStore world := ⟨rfl, rfl⟩

theorem World.SameStore.trans {first second third : World} (left : first.SameStore second)
    (right : second.SameStore third) : first.SameStore third :=
  ⟨right.settings.trans left.settings, right.stateFile.trans left.stateFile⟩

structure World.SameGuarded (before after : World) : Prop where
  store : before.SameStore after
  stateLock : after.stateLock = before.stateLock

def whileHeld : Reliance World where
  allows := World.SameGuarded
  refl world := ⟨.refl world, rfl⟩
  trans left right := ⟨left.store.trans right.store, right.stateLock.trans left.stateLock⟩

/-- The operations that fail when a system call does. -/
def DaemonOp.Calls : DaemonOp → Bool
  | .createStateDir | .createStateFile | .encodeSettings _ | .dropWriter _ | .stateFileExists
  | .openStateFile | .decodeStateFile | .postTelemetry _ => true
  | _ => false

def Choice.sound (choice : Choice) : Choice := { choice with failure := none }

/-- The semantics of the daemon; without faults no system call fails. -/
def systemSemantics (codec : SettingsCodec) (thread : ThreadId) (faulty : Bool) :
    Semantics daemonOps Choice World :=
  fun operation choice world => daemonSemantics codec thread operation
    (if faulty then choice else choice.sound) world

variable {codec : SettingsCodec} {thread : ThreadId} {faulty : Bool} {ec : EcDevice}
  {before after : World}

theorem systemSemantics_sound {operation : DaemonOp} {choice : Choice} {world : World}
    (sound : (operation.Calls && choice.failure.isSome) = false) :
    systemSemantics codec thread false operation choice world =
      daemonSemantics codec thread operation choice world := by
  cases called : operation.Calls with
  | true =>
      have succeeds : choice.failure = none := by simpa [called] using sound
      have same : choice.sound = choice := by rw [Choice.sound, ← succeeds]
      simp only [systemSemantics, Bool.false_eq_true, if_false, same]
  | false => cases operation <;> first | rfl | cases called

theorem daemonSemantics_keepsStore {operation : DaemonOp} (keeps : operation.KeepsStore)
    (choice : Choice) (world : World) :
    world.SameGuarded (daemonSemantics codec thread operation choice world).2 := by
  cases operation with
  | decodeStateFile | queueTelemetry | receiveTelemetry =>
      simp only [daemonSemantics]
      split <;> exact ⟨⟨rfl, rfl⟩, rfl⟩
  | tryLockState | unlockState | writeState | publishState | createStateFile | dropWriter =>
      cases keeps
  | _ => exact ⟨⟨rfl, rfl⟩, rfl⟩

theorem daemonSemantics_inside {operation : DaemonOp} (inside : operation.Inside)
    (choice : Choice) (world : World) :
    (daemonSemantics codec thread operation choice world).2.stateLock = world.stateLock := by
  by_cases keeps : operation.KeepsStore
  · exact (daemonSemantics_keepsStore keeps choice world).stateLock
  · cases operation with
    | createStateFile =>
        simp only [daemonSemantics]
        split <;> rfl
    | writeState | dropWriter => rfl
    | tryLockState | unlockState | publishState => cases inside
    | _ => exact absurd trivial keeps

theorem runsAmid_ok? {semantics : Semantics daemonOps Choice World} {reliance : Reliance World}
    {α : Type} {computation : Io α} {result : Except Failure (Option α)}
    (ran : Fallible.RunsAmid semantics reliance (Io.ok? computation) before result after) :
    ∃ outcome middle, Fallible.RunsAmid semantics reliance computation before outcome middle ∧
      result = Io.discard outcome ∧ reliance.allows middle after := by
  obtain ⟨outcome, middle, first, second⟩ := Program.runsAmid_bind.mp ran
  refine ⟨outcome, middle, first, ?_⟩
  rcases outcome with (_ | _) | _ <;> exact second

theorem runsAmid_attempt {semantics : Semantics daemonOps Choice World}
    {reliance : Reliance World} {α : Type} {computation : Io α}
    {result : Except Failure (Option α)} (kept : steadyBatches.KeptBy semantics)
    (steady : Steady steadyBatches computation)
    (ran : Fallible.RunsAmid semantics reliance (Io.ok? computation) before result after) :
    ∃ value, result = .ok value := by
  obtain ⟨outcome, middle, first, rfl, _⟩ := runsAmid_ok? ran
  obtain ⟨_, noPanic⟩ := Program.Meets.runsAmid steady kept first
  rcases outcome with (message | message) | value
  · exact ⟨none, rfl⟩
  · exact absurd rfl (noPanic message)
  · exact ⟨some value, rfl⟩

theorem systemSemantics_steady : steadyBatches.KeptBy (systemSemantics codec thread faulty) :=
  fun phase operation _ world permitted => steadyBatches_kept phase operation _ world permitted

/-- A computation of the thread that holds the guard. -/
abbrev RunsHeld {α : Type} (codec : SettingsCodec) (thread : ThreadId) (faulty : Bool)
    (computation : Io α) (before : World) (result : Except Failure α) (after : World) : Prop :=
  Fallible.RunsAmid (systemSemantics codec thread faulty) whileHeld computation before result after

theorem runsHeld_pure {α : Type} {value : α} {result : Except Failure α}
    (ran : RunsHeld codec thread faulty (pure value) before result after) :
    result = .ok value ∧ before.SameGuarded after := ran

theorem runsHeld_readState {result : Except Failure CurrentSettings}
    (ran : RunsHeld codec thread faulty Io.readState before result after) :
    result = .ok before.settings ∧ before.SameGuarded after := by
  obtain ⟨now, choice, allowed, replied, moved⟩ := ran
  refine ⟨?_, whileHeld.trans allowed moved⟩
  rw [← allowed.store.settings]
  exact replied

theorem runsHeld_writeState {settings : CurrentSettings} {result : Except Failure Unit}
    (ran : RunsHeld codec thread faulty (Io.writeState settings) before result after) :
    result = .ok () ∧ after.settings = settings ∧ after.stateFile = before.stateFile := by
  obtain ⟨now, choice, allowed, replied, moved⟩ := ran
  exact ⟨replied, moved.store.settings, moved.store.stateFile.trans allowed.store.stateFile⟩

theorem runsHeld_modifyState {change : CurrentSettings → CurrentSettings}
    {result : Except Failure Unit}
    (ran : RunsHeld codec thread faulty (Io.modifyState change) before result after) :
    result = .ok () ∧ after.settings = change before.settings ∧
      after.stateFile = before.stateFile := by
  rcases Fallible.runsAmid_bind ran with ⟨_, _, first, _⟩ | ⟨settings, middle, first, second⟩
  · cases (runsHeld_readState first).1
  · obtain ⟨same, kept⟩ := runsHeld_readState first
    cases same
    obtain ⟨replied, written, file⟩ := runsHeld_writeState second
    exact ⟨replied, written, file.trans kept.store.stateFile⟩

theorem runsHeld_dropped {α : Type} {computation : Io α} {result : Except Failure Unit}
    (ran : RunsHeld codec thread faulty (Io.ok? computation >>= fun _ => pure ())
      before result after) :
    ∃ outcome middle, RunsHeld codec thread faulty computation before outcome middle ∧
      middle.SameGuarded after := by
  rcases Fallible.runsAmid_bind ran with ⟨_, middle, first, _, kept⟩ | ⟨_, middle, first, second⟩
  · obtain ⟨outcome, ended, inside, _, moved⟩ := runsAmid_ok? first
    exact ⟨outcome, ended, inside, whileHeld.trans moved kept⟩
  · obtain ⟨outcome, ended, inside, _, moved⟩ := runsAmid_ok? first
    exact ⟨outcome, ended, inside, whileHeld.trans moved (runsHeld_pure second).2⟩

theorem runsHeld_save_sound {settings : CurrentSettings} {result : Except Failure Unit}
    (ran : RunsHeld codec thread false (save settings) before result after) :
    after.stateFile = some (codec.encode settings) := by
  rw [RunsHeld, Fallible.RunsAmid, save_run] at ran
  obtain ⟨made, _, _, ran⟩ := ran
  obtain ⟨created, _, _, ran⟩ := ran
  obtain ⟨encoded, _, allowed, ran⟩ := ran
  obtain ⟨dropped, _, untouched, ran⟩ := ran
  have file : dropped.stateFile = some [] :=
    untouched.store.stateFile.trans allowed.store.stateFile
  rw [ran.2.store.stateFile]
  change dropped.stateFile.map (· ++ codec.encode settings) = _
  rw [file]
  rfl

theorem runsHeld_onFile {α : Type} {computation : Io α} {result : Except Failure α}
    (onFile : Fallible.Uses DaemonOp.OnFile computation)
    (ran : RunsHeld codec thread faulty computation before result after) :
    after.settings = before.settings := by
  refine Program.RunsAmid.preserves (fun before after : World => after.settings = before.settings)
    onFile (fun first second => second.trans first) ?_
    (fun {before after} (allowed : before.SameGuarded after) => allowed.store.settings) ran
  intro operation choice world onFile
  exact (daemonSemantics_keepsControl onFile.keepsControl _ world).settings

theorem runsHeld_onEc {α : Type} {computation : Io α} {result : Except Failure α}
    (onEc : Fallible.Uses DaemonOp.OnEc computation)
    (ran : RunsHeld codec thread faulty computation before result after) :
    before.SameGuarded after := by
  refine Program.RunsAmid.preserves World.SameGuarded onEc whileHeld.trans ?_ id ran
  exact fun operation choice world onEc => daemonSemantics_keepsStore onEc.keepsStore _ world

theorem runsHeld_setter {setter : Setter} {result : Except Failure IpcResponse}
    (ran : RunsHeld codec thread faulty
      (Io.modifyState (record setter) >>= fun _ => pure .success) before result after) :
    result = .ok .success ∧ after.settings = record setter before.settings ∧
      after.stateFile = before.stateFile := by
  rcases Fallible.runsAmid_bind ran with ⟨_, _, first, _⟩ | ⟨_, middle, first, second⟩
  · cases (runsHeld_modifyState first).1
  · obtain ⟨-, written, file⟩ := runsHeld_modifyState first
    obtain ⟨returned, kept⟩ := runsHeld_pure second
    exact ⟨returned, kept.store.settings.trans written, kept.store.stateFile.trans file⟩

theorem runsHeld_resetScope {result : Except Failure Unit}
    (ran : RunsHeld codec thread faulty resetScope before result after) :
    after.settings = before.settings ∧
      (faulty = false → after.stateFile = some (codec.encode before.settings)) := by
  rcases Fallible.runsAmid_bind ran with ⟨_, _, first, _⟩ | ⟨settings, middle, first, second⟩
  · cases (runsHeld_readState first).1
  · obtain ⟨same, read⟩ := runsHeld_readState first
    cases same
    obtain ⟨outcome, saved, saves, kept⟩ := runsHeld_dropped second
    constructor
    · rw [kept.store.settings, runsHeld_onFile (save_onFile _) saves, read.store.settings]
    · intro sound
      subst sound
      exact kept.store.stateFile.trans (runsHeld_save_sound saves)

/-- After a wake-up nothing changes the settings or the file. -/
theorem runsHeld_wakeScope {result : Except Failure Unit}
    (ran : RunsHeld codec thread faulty (wakeScope ec) before result after) :
    before.SameStore after := by
  rcases Fallible.runsAmid_bind ran with ⟨_, _, first, _⟩ | ⟨settings, middle, first, second⟩
  · cases (runsHeld_readState first).1
  · obtain ⟨same, read⟩ := runsHeld_readState first
    cases same
    obtain ⟨outcome, restored, restores, kept⟩ := runsHeld_dropped second
    exact (read.store.trans (runsHeld_onEc (restoreState_onEc ec _) restores).store).trans kept.store

/-- What is performed for a wake-up is a read of the settings and the restore of these. -/
theorem performs_wakeScope {performed : List (Performed daemonOps)} {result : Except Failure Unit}
    (performs : (wakeScope ec).run.Performs performed (.done result)) :
    ∃ settings restored outcome, performed = ⟨.readState, settings⟩ :: restored ∧
      (restoreState ec settings).run.Performs restored (.done outcome) := by
  rcases Program.performs_perform.mp performs with ⟨_, unfinished⟩ | ⟨settings, later, rfl, goesOn⟩
  · cases unfinished
  · change (Io.ok? (restoreState ec settings) >>= fun _ => (pure () : Io Unit)).run.Performs later _
      at goesOn
    rw [ok?_run] at goesOn
    rcases Program.performs_bind goesOn with ⟨_, _, _, unfinished⟩ |
      ⟨outcome, first, second, rfl, restores, ended⟩
    · cases unfinished
    · cases ended
      rw [List.append_nil]
      exact ⟨settings, first, outcome, rfl, restores⟩

/-- The settings that no reading of the EC replaces. -/
def unread (settings : CurrentSettings) :
    FanMode × FanMode × PowerLedMode × Bool × UInt64 :=
  (settings.fanModeCpu, settings.fanModeGpu, settings.ledMode, settings.telemetryEnabled,
    settings.telemetryClientId)

/-- The readings of a refresh do not panic, and leave the settings to it. -/
theorem runsHeld_reading {α : Type} {reading : Io α} {result : Except Failure (Option α)}
    (steady : Steady steadyBatches reading) (reads : Fallible.Uses DaemonOp.ReadsEc reading)
    (ran : RunsHeld codec thread faulty (Io.ok? reading) before result after) :
    (∃ value, result = .ok value) ∧ after.settings = before.settings := by
  refine ⟨runsAmid_attempt systemSemantics_steady steady ran, ?_⟩
  obtain ⟨outcome, ended, inside, -, moved⟩ := runsAmid_ok? ran
  have kept : before.SameGuarded ended :=
    runsHeld_onEc (Program.Uses.mono (fun _ operation => operation.onEc) reads) inside
  exact (whileHeld.trans kept moved).store.settings

/-- A refresh from an EC reading goes on to the rest of its scope. -/
theorem runsHeld_updateState {α : Type} {reading : Io α}
    {change : α → CurrentSettings → CurrentSettings} {result : Except Failure Unit}
    (steady : Steady steadyBatches reading) (reads : Fallible.Uses DaemonOp.ReadsEc reading)
    (ran : RunsHeld codec thread faulty (updateState reading change) before result after)
    (keeps : ∀ value settings, unread (change value settings) = unread settings) :
    result = .ok () ∧ unread after.settings = unread before.settings := by
  rcases Fallible.runsAmid_bind ran with ⟨_, _, first, _⟩ | ⟨value, middle, first, second⟩
  · obtain ⟨⟨_, returned⟩, -⟩ := runsHeld_reading steady reads first
    cases returned
  · obtain ⟨-, read⟩ := runsHeld_reading steady reads first
    cases value with
    | none =>
        obtain ⟨returned, same⟩ := runsHeld_pure second
        exact ⟨returned, by rw [same.store.settings, read]⟩
    | some value =>
        obtain ⟨returned, written, -⟩ := runsHeld_modifyState second
        exact ⟨returned, by rw [written, keeps, read]⟩

theorem runsHeld_updateChargeLimit {result : Except Failure Unit}
    (ran : RunsHeld codec thread faulty (updateChargeLimit ec) before result after) :
    result = .ok () ∧ unread after.settings = unread before.settings := by
  have reading {before after : World} {result : Except Failure (Option (UInt8 × UInt8))}
      (ran : RunsHeld codec thread faulty (Io.ok? (readChargeLimit ec)) before result after) :=
    runsHeld_reading (readChargeLimit_steady ec) (readChargeLimit_reads ec) ran
  rcases Fallible.runsAmid_bind ran with ⟨_, _, first, _⟩ | ⟨limits, middle, first, second⟩
  · obtain ⟨⟨_, returned⟩, -⟩ := reading first
    cases returned
  obtain ⟨-, read⟩ := reading first
  have unchanged (ended : RunsHeld codec thread faulty (pure ()) middle result after) :
      result = .ok () ∧ unread after.settings = unread before.settings := by
    obtain ⟨returned, same⟩ := runsHeld_pure ended
    exact ⟨returned, by rw [same.store.settings, read]⟩
  cases limits with
  | none => exact unchanged second
  | some limits =>
      cases found : ChargeLimit.fromPredefined limits.1 limits.2 with
      | none =>
          simp only [found] at second
          exact unchanged second
      | some limit =>
          simp only [found] at second
          obtain ⟨returned, written, -⟩ := runsHeld_modifyState second
          exact ⟨returned, by rw [written, ← read]; rfl⟩

theorem runsHeld_refresh {refresh : Io Unit} {rest : Unit → Io Unit} {result : Except Failure Unit}
    (ran : RunsHeld codec thread faulty (refresh >>= rest) before result after)
    (refreshes : ∀ {outcome middle}, RunsHeld codec thread faulty refresh before outcome middle →
      outcome = .ok () ∧ unread middle.settings = unread before.settings) :
    ∃ middle, unread middle.settings = unread before.settings ∧
      RunsHeld codec thread faulty (rest ()) middle result after := by
  rcases Fallible.runsAmid_bind ran with ⟨_, _, first, _⟩ | ⟨_, middle, first, later⟩
  · cases (refreshes first).1
  · exact ⟨middle, (refreshes first).2, later⟩

/-- Before a sleep the settings that the EC shows are read back, and then all are saved. -/
theorem runsHeld_refreshScope {result : Except Failure Unit}
    (ran : RunsHeld codec thread faulty (refreshScope ec) before result after) :
    unread after.settings = unread before.settings ∧
      (faulty = false → after.stateFile = some (codec.encode after.settings)) := by
  obtain ⟨_, keyboard, ran⟩ := runsHeld_refresh ran fun updates => runsHeld_updateState
    (readKeyboardBacklight_steady ec) (readKeyboardBacklight_reads ec) updates fun _ _ => rfl
  obtain ⟨_, profile, ran⟩ := runsHeld_refresh ran fun updates => runsHeld_updateState
    (readPowerProfile_steady ec) (readPowerProfile_reads ec) updates fun _ _ => rfl
  obtain ⟨_, limit, ran⟩ := runsHeld_refresh ran runsHeld_updateChargeLimit
  obtain ⟨settings, file⟩ := runsHeld_resetScope ran
  constructor
  · rw [settings, limit, profile, keyboard]
  · intro sound
    rw [settings]
    exact file sound

end Lecoo.Daemon
