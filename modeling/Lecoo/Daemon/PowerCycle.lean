import Lecoo.Effects.Triple
import Lecoo.Daemon.Scopes

namespace Lecoo.Daemon

open Lecoo.Effects Lecoo.Ipc Lecoo.Ec Lecoo.Data

/-! # Power cycles

When the system goes down the daemon shows it on the LED ring, reads three of
its settings back from the EC and saves all of them.  After the wake-up, or in
a new process, it restores what was saved.
-/

/-- What a process keeps of the settings. -/
structure Snapshot where
  settings : CurrentSettings
  stateLock : Option ThreadId
  stateFile : Option (List UInt8)

def World.snapshot (world : World) : Snapshot :=
  ⟨world.settings, world.stateLock, world.stateFile⟩

/-- The setters of the settings that are read back. -/
def readBackSetters (settings : CurrentSettings) : List Setter :=
  [.keyboardBacklight settings.keyboardBacklight, .powerProfile settings.powerProfile,
    .chargeLimit settings.chargeLimit]

/-- The registers that are read back hold the settings, and the process keeps
the given snapshot. -/
structure Resting (ec : EcDevice) (settings : CurrentSettings) (stored : Snapshot)
    (world : World) : Prop where
  registers : ∀ setter ∈ readBackSetters settings, (world.registers ec).Holds setter.prescribes
  kept : world.snapshot = stored

/-- The system goes down and comes back: it wakes up, or it is started anew and
the EC has kept its registers.  No system call fails; register accesses may. -/
inductive Cycle (codec : SettingsCodec) (ec : EcDevice) (before after : World) : Prop
  | wakeUp {thread waker : ThreadId} {happened : InternalEvent} {mode : PowerLedMode}
      {asleep : World} {left woken : Except Failure Unit}
      (leaving : farewell happened = some mode)
      (down : Fallible.Runs (systemSemantics codec thread false) (processEvent ec happened)
        before left asleep)
      (up : Fallible.Runs (systemSemantics codec waker false) (processEvent ec .systemWakingUp)
        asleep woken after)
  | restart {thread starter : ThreadId} {happened : InternalEvent} {mode : PowerLedMode}
      {asleep : World} {left : Except Failure Unit} {host : SystemInfo}
      (leaving : farewell happened = some mode)
      (down : Fallible.Runs (systemSemantics codec thread false) (processEvent ec happened)
        before left asleep)
      (up : Fallible.Runs (systemSemantics codec starter false) (startUp ec host)
        (World.fresh asleep.ec asleep.stateFile) (.ok ()) after)

inductive Cycles (codec : SettingsCodec) (ec : EcDevice) (start : World) : Nat → World → Prop
  | none : Cycles codec ec start 0 start
  | more {count : Nat} {before after : World} (earlier : Cycles codec ec start count before)
      (last : Cycle codec ec before after) : Cycles codec ec start (count + 1) after

variable {codec : SettingsCodec} {thread : ThreadId} {ec : EcDevice} {settings : CurrentSettings}
  {stored : Snapshot} {before after : World}

/-- A triple in an environment in which no system call fails. -/
abbrev Assures {α : Type} (codec : SettingsCodec) (thread : ThreadId) (pre : World → Prop)
    (computation : Io α) (post : Except Failure α → World → Prop) : Prop :=
  Fallible.Ensures (systemSemantics codec thread false) pre computation post

section Rules

variable {α : Type} {computation : Io α} {pre : World → Prop} {post : Except Failure α → World → Prop}

theorem alone_of_sound {result : Except Failure α}
    (ran : Fallible.Runs (systemSemantics codec thread false) computation before result after) :
    Alone codec thread computation before result after :=
  computation.run.uses_any.transfer id (fun _ choice _ _ => ⟨choice.sound, rfl⟩) ran

theorem assures_of_alone
    (met : ∀ before result after, pre before →
      Alone codec thread computation before result after → post result after) :
    Assures codec thread pre computation post :=
  fun before result after start ran => met before result after start (alone_of_sound ran)

theorem assures_ok? {post : Except Failure (Option α) → World → Prop}
    (inside : Assures codec thread pre computation fun outcome => post (Io.discard outcome)) :
    Assures codec thread pre (Io.ok? computation) post := by
  intro before result after start ran
  obtain ⟨outcome, inner, rfl⟩ := Io.runs_ok?.mp ran
  exact inside before outcome after start inner

theorem assures_dropped {met : World → Prop}
    (inside : Assures codec thread pre computation fun _ => met) :
    Assures codec thread pre (Io.ok? computation >>= fun _ => pure ()) fun _ => met := by
  have attempted : Assures codec thread pre (Io.ok? computation) fun _ => met := assures_ok? inside
  exact Fallible.ensures_bind attempted (fun _ _ ended => ended) fun _ =>
    Fallible.ensures_pure fun _ ended => ended

theorem assures_withState {held : World → Prop}
    (free : ∀ world, pre world → world.stateLock = none ∧ held (world.lockedBy (some thread)))
    (inside : Assures codec thread held computation fun outcome world =>
      post outcome (world.lockedBy none)) :
    Assures codec thread pre (withState computation) post := by
  intro before result after start ran
  obtain ⟨unlocked, entered⟩ := free before start
  obtain ⟨choice, ran⟩ := ran
  have acquires : systemSemantics codec thread false .tryLockState choice before =
      (true, before.lockedBy (some thread)) := tryLockState_free unlocked _
  rw [acquires] at ran
  have entering : Program.Runs (systemSemantics codec thread false)
      (computation.run >>= fun outcome => Io.perform .unlockState >>= fun _ => pure outcome)
      (before.lockedBy (some thread)) result after := ran
  obtain ⟨outcome, middle, inner, _, rfl, rfl⟩ := Program.runs_bind.mp entering
  exact inside _ _ _ entered inner

end Rules

theorem readBackSetters_notRing : ∀ setter ∈ readBackSetters settings,
    setter.feature ≠ .ledRing ∧ setter.feature ≠ .fan .cpu := by
  simp [readBackSetters, Setter.feature]

theorem readBackSetters_sole (detection : Detection) :
    ∀ setter ∈ readBackSetters settings, detection.device.Sole setter.feature :=
  fun setter member => (detection.sole_iff _).mpr (.inr (readBackSetters_notRing setter member))

theorem readBackSetters_subset (settings : CurrentSettings) :
    readBackSetters settings ⊆ settingSetters settings := by
  simp [readBackSetters, settingSetters]

theorem World.SameElsewhere.snapshot_eq (same : before.SameElsewhere after) :
    after.snapshot = before.snapshot := by
  simp only [World.snapshot, same.settings, same.stateLock, same.stateFile]

/-- The setter is one of those that are read back, or sets something else. -/
def Spares (settings : CurrentSettings) (setter : Setter) : Prop :=
  ∀ kept ∈ readBackSetters settings, setter = kept ∨ setter.feature ≠ kept.feature

theorem settingSetters_spares : ∀ setter ∈ settingSetters settings, Spares settings setter := by
  simp [settingSetters, Spares, readBackSetters, Setter.feature]

theorem ledMode_spares (mode : PowerLedMode) : Spares settings (.ledMode mode) := by
  simp [Spares, readBackSetters, Setter.feature]

section Kept

variable (sole : ∀ setter ∈ readBackSetters settings, ec.Sole setter.feature)

include sole

/-- A setter keeps the system at rest however far it gets, and does not panic. -/
theorem apply_rests {setter : Setter} (spares : Spares settings setter) :
    Assures codec thread (Resting ec settings stored) (setter.apply ec) fun outcome world =>
      NoPanic outcome ∧ Resting ec settings stored world := by
  refine assures_of_alone fun before result after rests ran => ?_
  refine ⟨?_, fun kept member => ?_, ?_⟩
  · rcases Setter.alone_apply ran with ⟨rfl, _⟩ | ⟨_, _, message, rfl, _⟩
    · exact noPanic_ok ()
    · exact noPanic_error message
  · exact Setter.alone_apply_holds (sole kept member) (readBackSetters_notRing kept member).1
      (spares kept member) (rests.registers kept member) ran
  · obtain ⟨made, rfl⟩ := Setter.alone_apply_played ran
    rw [(World.play_sameElsewhere _).snapshot_eq, rests.kept]

theorem restoreState_rests :
    Assures codec thread (Resting ec settings stored) (restoreState ec settings)
      fun _ => Resting ec settings stored := by
  rw [restoreState_eq]
  have spares : ∀ setter ∈ settingSetters settings, Spares settings setter := settingSetters_spares
  generalize settingSetters settings = setters at spares ⊢
  induction setters with
  | nil => exact Fallible.ensures_pure fun _ rests => rests
  | cons setter rest ih =>
      refine Fallible.ensures_bind (apply_rests sole (spares setter List.mem_cons_self)) ?_ ?_
      · exact fun _ _ ended => ended.2
      · intro _
        refine Program.Ensures.mono
          (ih fun next member => spares next (List.mem_cons_of_mem _ member)) ?_ ?_
        · exact fun _ ended => ended.2
        · exact fun _ _ rests => rests

end Kept

/-- A reading ends with the value or with an error, and the system stays at rest. -/
def Answers (ec : EcDevice) (settings : CurrentSettings) (stored : Snapshot) {α : Type} (value : α)
    (outcome : Except Failure α) (world : World) : Prop :=
  (outcome = .ok value ∨ ∃ message, outcome = .error (.error message)) ∧
    Resting ec settings stored world

theorem answers_pure {α : Type} (value : α) :
    Assures codec thread (Resting ec settings stored) (pure value)
      (Answers ec settings stored value) :=
  Fallible.ensures_pure fun _ rests => ⟨.inl rfl, rests⟩

theorem answers_bind {α β : Type} {reading : Io α} {rest : α → Io β} {value : α} {last : β}
    (first : Assures codec thread (Resting ec settings stored) reading
      (Answers ec settings stored value))
    (second : Assures codec thread (Resting ec settings stored) (rest value)
      (Answers ec settings stored last)) :
    Assures codec thread (Resting ec settings stored) (reading >>= rest)
      (Answers ec settings stored last) := by
  refine Fallible.ensures_bind first ?_ fun read => ?_
  · intro failure world answered
    obtain ⟨impossible | ⟨message, same⟩, rests⟩ := answered
    · cases impossible
    · exact ⟨.inr ⟨message, by rw [Except.error.inj same]⟩, rests⟩
  · intro before result after answered ran
    obtain ⟨same | ⟨_, impossible⟩, rests⟩ := answered
    · cases same
      exact second before result after rests ran
    · cases impossible

theorem readReg_answers {setter : Setter} (member : setter ∈ readBackSetters settings)
    (register : Register) (value : UInt8) (prescribed : (register, value) ∈ setter.prescribes) :
    Assures codec thread (Resting ec settings stored) (ec.readReg (ec.address register))
      (Answers ec settings stored value) := by
  refine assures_of_alone fun before result after rests ran => ?_
  obtain ⟨rfl, outcome⟩ := alone_readReg.mp ran
  have holds : after.ec (ec.address register) = value :=
    rests.registers setter member (register, value) prescribed
  rw [holds] at outcome
  exact ⟨outcome, rests⟩

theorem readKeyboardBacklight_answers :
    Assures codec thread (Resting ec settings stored) (readKeyboardBacklight ec)
      (Answers ec settings stored settings.keyboardBacklight) := by
  have member : Setter.keyboardBacklight settings.keyboardBacklight ∈ readBackSetters settings := by
    simp [readBackSetters]
  cases level : settings.keyboardBacklight with
  | custom value =>
      rw [level] at member
      refine answers_bind (readReg_answers member .kbdBacklight 0xFF ?_) ?_
      · simp [Setter.prescribes]
      · refine answers_bind (readReg_answers member .kbdCustomVal value ?_) (answers_pure _)
        simp [Setter.prescribes]
  | _ =>
      rw [level] at member
      exact answers_bind (readReg_answers member .kbdBacklight _ List.mem_cons_self) (answers_pure _)

theorem readPowerProfile_answers :
    Assures codec thread (Resting ec settings stored) (readPowerProfile ec)
      (Answers ec settings stored settings.powerProfile) := by
  have member : Setter.powerProfile settings.powerProfile ∈ readBackSetters settings := by
    simp [readBackSetters]
  cases profile : settings.powerProfile with
  | _ =>
      rw [profile] at member
      exact answers_bind (readReg_answers member .powerProfile _ List.mem_cons_self) (answers_pure _)

theorem readChargeLimit_answers :
    Assures codec thread (Resting ec settings stored) (readChargeLimit ec)
      (Answers ec settings stored settings.chargeLimit.asPercent) := by
  have member : Setter.chargeLimit settings.chargeLimit ∈ readBackSetters settings := by
    simp [readBackSetters]
  refine answers_bind (readReg_answers member .batLimitMin _ List.mem_cons_self) ?_
  refine answers_bind (readReg_answers member .batLimitMax settings.chargeLimit.asPercent.2 ?_)
    (answers_pure _)
  simp [Setter.prescribes]

theorem save_assures (saved : CurrentSettings) {pre : World → Prop} :
    Assures codec thread pre (save saved) fun outcome world => outcome = .ok () ∧
      ∃ before, pre before ∧ world = before.withFile (some (codec.encode saved)) := by
  intro before result after start ran
  rw [save_run] at ran
  obtain ⟨made, created, encoded, dropped, rfl, rfl⟩ := ran
  exact ⟨rfl, before, start, rfl⟩

theorem ok?_answers {α : Type} {reading : Io α} {value : α}
    (read : Assures codec thread (Resting ec settings stored) reading
      (Answers ec settings stored value)) :
    Assures codec thread (Resting ec settings stored) (Io.ok? reading) fun outcome world =>
      (outcome = .ok (some value) ∨ outcome = .ok none) ∧ Resting ec settings stored world := by
  refine assures_ok? (Program.Ensures.mono read (fun _ rests => rests) ?_)
  intro outcome world answered
  obtain ⟨same | ⟨message, same⟩, rests⟩ := answered
  · subst same
    exact ⟨.inl rfl, rests⟩
  · subst same
    exact ⟨.inr rfl, rests⟩

theorem modifyState_rests {change : CurrentSettings → CurrentSettings}
    (same : change stored.settings = stored.settings) :
    Assures codec thread (Resting ec settings stored) (Io.modifyState change)
      fun outcome world => outcome = .ok () ∧ Resting ec settings stored world := by
  refine assures_of_alone fun before result after rests ran => ?_
  obtain ⟨rfl, rfl⟩ := alone_modifyState.mp ran
  have inMemory : before.settings = stored.settings := congrArg Snapshot.settings rests.kept
  have unchanged : before.withSettings (change before.settings) = before := by
    rw [inMemory, same, ← inMemory]
    rfl
  rw [unchanged]
  exact ⟨rfl, rests⟩

/-- An attempted reading and what follows it, when nothing follows a failure. -/
theorem refresh_rests {α : Type} {reading : Io α} {value : α} {update : Option α → Io Unit}
    (read : Assures codec thread (Resting ec settings stored) reading
      (Answers ec settings stored value))
    (found : Assures codec thread (Resting ec settings stored) (update (some value))
      fun outcome world => outcome = .ok () ∧ Resting ec settings stored world)
    (missed : update none = pure ()) :
    Assures codec thread (Resting ec settings stored) (Io.ok? reading >>= update)
      fun outcome world => outcome = .ok () ∧ Resting ec settings stored world := by
  refine Fallible.ensures_bind (ok?_answers read) ?_ fun attempted => ?_
  · intro failure world attempted
    rcases attempted.1 with impossible | impossible <;> cases impossible
  · intro before result after begun ran
    obtain ⟨same | same, rests⟩ := begun
    · cases same
      exact found before result after rests ran
    · cases same
      rw [missed] at ran
      obtain ⟨rfl, rfl⟩ := ran
      exact ⟨rfl, rests⟩

theorem updateChargeLimit_rests (same : stored.settings = settings) :
    Assures codec thread (Resting ec settings stored) (updateChargeLimit ec)
      fun outcome world => outcome = .ok () ∧ Resting ec settings stored world := by
  refine refresh_rests readChargeLimit_answers ?_ rfl
  simp only [ChargeLimit.fromPredefined_asPercent]
  exact modifyState_rests (by rw [same])

theorem readState_rests :
    Assures codec thread (Resting ec settings stored) Io.readState
      fun outcome world => outcome = .ok stored.settings ∧ Resting ec settings stored world := by
  refine assures_of_alone fun before result after rests ran => ?_
  obtain ⟨rfl, rfl⟩ := alone_readState.mp ran
  exact ⟨congrArg (fun kept : Snapshot => Except.ok kept.settings) rests.kept, rests⟩

theorem rests_bind {α β : Type} {first : Io α} {rest : α → Io β} {value : α}
    {post : Except Failure β → World → Prop}
    (begun : Assures codec thread (Resting ec settings stored) first
      fun outcome world => outcome = .ok value ∧ Resting ec settings stored world)
    (second : Assures codec thread (Resting ec settings stored) (rest value) post) :
    Assures codec thread (Resting ec settings stored) (first >>= rest) post := by
  refine Fallible.ensures_bind begun ?_ fun found => ?_
  · intro failure world ended
    cases ended.1
  · intro before result after ended ran
    cases ended.1
    exact second before result after ended.2 ran

theorem save_rests (saved : CurrentSettings) :
    Assures codec thread (Resting ec settings stored) (save saved) fun outcome world =>
      outcome = .ok () ∧
        Resting ec settings { stored with stateFile := some (codec.encode saved) } world := by
  refine Program.Ensures.mono (save_assures saved) (fun _ rests => rests) ?_
  intro outcome world ended
  obtain ⟨returned, before, rests, rfl⟩ := ended
  refine ⟨returned, rests.registers, ?_⟩
  rw [← rests.kept]
  rfl

/-- What is written to the file before the system goes down are the settings. -/
theorem refreshScope_saves (same : stored.settings = settings) :
    Assures codec thread (Resting ec settings stored) (refreshScope ec) fun _ =>
      Resting ec settings { stored with stateFile := some (codec.encode settings) } := by
  subst same
  refine rests_bind (refresh_rests readKeyboardBacklight_answers (modifyState_rests rfl) rfl) ?_
  refine rests_bind (refresh_rests readPowerProfile_answers (modifyState_rests rfl) rfl) ?_
  refine rests_bind (updateChargeLimit_rests rfl) ?_
  refine rests_bind readState_rests ?_
  exact assures_dropped (Program.Ensures.mono (save_rests stored.settings) (fun _ rests => rests)
    fun _ _ ended => ended.2)

theorem withState_rests {α : Type} {scope : Io α} {file : Option (List UInt8)}
    (free : stored.stateLock = none)
    (inside : Assures codec thread (Resting ec settings { stored with stateLock := some thread })
      scope fun _ =>
        Resting ec settings { stored with stateLock := some thread, stateFile := file }) :
    Assures codec thread (Resting ec settings stored) (withState scope) fun _ =>
      Resting ec settings { stored with stateFile := file } := by
  refine assures_withState (fun world rests => ?_) (Program.Ensures.mono inside
    (fun _ rests => rests) fun _ world rests => ?_)
  · have unlocked : world.stateLock = stored.stateLock := congrArg Snapshot.stateLock rests.kept
    refine ⟨unlocked.trans free, rests.registers, ?_⟩
    rw [← rests.kept]
    rfl
  · refine ⟨rests.registers, ?_⟩
    have settings := congrArg Snapshot.settings rests.kept
    have file := congrArg Snapshot.stateFile rests.kept
    simp only [World.snapshot] at settings file
    simp only [World.snapshot, World.lockedBy, settings, file, free]

/-- Whichever event takes the system down, what it shows on the LED ring comes
first, and the settings are saved whether that worked or not. -/
theorem farewell_saves (sole : ∀ setter ∈ readBackSetters settings, ec.Sole setter.feature)
    {happened : InternalEvent} {mode : PowerLedMode} (leaving : farewell happened = some mode)
    (same : stored.settings = settings) (free : stored.stateLock = none) :
    Assures codec thread (Resting ec settings stored) (processEvent ec happened) fun _ =>
      Resting ec settings { stored with stateFile := some (codec.encode settings) } := by
  have shows : Assures codec thread (Resting ec settings stored) (Io.ok? (applyLedMode ec mode))
      fun outcome world => (∃ value, outcome = .ok value) ∧ Resting ec settings stored world := by
    refine assures_ok? (Program.Ensures.mono (apply_rests sole (ledMode_spares mode))
      (fun _ rests => rests) ?_)
    intro outcome world ended
    refine ⟨?_, ended.2⟩
    rcases outcome with (message | message) | value
    · exact ⟨none, rfl⟩
    · exact absurd rfl (ended.1 message)
    · exact ⟨some value, rfl⟩
  have saves : Assures codec thread (Resting ec settings stored) (readAndSaveState ec) fun _ =>
      Resting ec settings { stored with stateFile := some (codec.encode settings) } :=
    assures_dropped (withState_rests free (refreshScope_saves same))
  have both : Assures codec thread (Resting ec settings stored)
      (Io.ok? (applyLedMode ec mode) >>= fun _ => readAndSaveState ec) fun _ =>
        Resting ec settings { stored with stateFile := some (codec.encode settings) } := by
    refine Fallible.ensures_bind shows ?_ fun _ => ?_
    · intro failure world ended
      obtain ⟨_, impossible⟩ := ended.1
      cases impossible
    · exact Program.Ensures.mono saves (fun _ ended => ended.2) fun _ _ ended => ended
  cases happened with
  | systemShuttingDown | systemHibernating | systemSleeping =>
      cases leaving
      exact both
  | _ => cases leaving

theorem wakingUp_rests (sole : ∀ setter ∈ readBackSetters settings, ec.Sole setter.feature)
    (same : stored.settings = settings) (free : stored.stateLock = none) :
    Assures codec thread (Resting ec settings stored) (processEvent ec .systemWakingUp) fun _ =>
      Resting ec settings stored := by
  refine assures_dropped (withState_rests free (rests_bind readState_rests ?_))
  simp only [same]
  exact assures_dropped (restoreState_rests sole)

/-- What `main` does besides restoring the settings and publishing them. -/
def DaemonOp.Aside (operation : DaemonOp) : Prop :=
  operation.ReadsEc ∨ (¬operation.IsBatch ∧ operation.KeepsStore)

theorem aside_rests {α : Type} {computation : Io α}
    (aside : Fallible.Uses DaemonOp.Aside computation) :
    Assures codec thread (Resting ec settings stored) computation fun _ =>
      Resting ec settings stored := by
  refine Program.Uses.ensures aside fun operation choice world allowed rests => ?_
  rcases allowed with reads | ⟨notBatch, keeps⟩
  · rw [systemSemantics, daemonSemantics_readsEc reads]
    exact rests
  · have moved : (systemSemantics codec thread false operation choice world).2.ec = world.ec :=
      daemonSemantics_ec codec thread notBatch choice.sound world
    have guarded : world.SameGuarded (systemSemantics codec thread false operation choice world).2 :=
      daemonSemantics_keepsStore keeps choice.sound world
    have registers : (systemSemantics codec thread false operation choice world).2.registers ec =
        world.registers ec := funext fun register => congrFun moved _
    refine ⟨fun setter member => ?_, ?_⟩
    · rw [registers]
      exact rests.registers setter member
    · rw [← rests.kept]
      simp only [World.snapshot, guarded.store.settings, guarded.store.stateFile, guarded.stateLock]

theorem announce_aside (host : SystemInfo) :
    Fallible.Uses DaemonOp.Aside (announce ec host settings) :=
  announce_uses (fun _ => .inl) (fun _ notBatch keeps => .inr ⟨notBatch, keeps⟩) host settings

theorem publishState_rests (published : CurrentSettings) :
    Assures codec thread (Resting ec settings stored) (Io.publishState published) fun _ =>
      Resting ec settings { stored with settings := published } := by
  refine Fallible.ensures_always (Program.ensures_request fun choice world rests => ?_)
  refine ⟨rests.registers, ?_⟩
  rw [← rests.kept]
  rfl

theorem loadOrDefault_rests (saved : decodedFile codec stored.stateFile = some settings) :
    Assures codec thread (Resting ec settings stored) loadOrDefault fun outcome world =>
      outcome = .ok settings ∧ Resting ec settings stored world := by
  intro before result after rests ran
  have calm : Fallible.Runs (calmSemantics codec thread) loadOrDefault before result after := by
    refine loadOrDefault_loads.transfer id (fun operation choice world loads => ?_) ran
    refine ⟨choice.clock, ?_⟩
    rcases loads with onFile | rfl
    · cases operation <;> first | rfl | cases onFile
    · rfl
  obtain ⟨rfl, found⟩ := runs_loadOrDefault.mp calm
  have file : after.stateFile = stored.stateFile := congrArg Snapshot.stateFile rests.kept
  rw [file, saved] at found
  exact ⟨found, rests⟩

/-- A process that starts finds the settings in the file, and restores and publishes them. -/
theorem startUp_rests (sole : ∀ setter ∈ readBackSetters settings, ec.Sole setter.feature)
    (saved : decodedFile codec stored.stateFile = some settings) (host : SystemInfo) :
    Assures codec thread (Resting ec settings stored) (startUp ec host) fun outcome world =>
      outcome = .ok () → Resting ec settings { stored with settings } world := by
  rw [startUp_eq]
  refine rests_bind (loadOrDefault_rests saved) ?_
  have restores : Assures codec thread (Resting ec settings stored)
      (Io.ok? (restoreState ec settings)) fun _ => Resting ec settings stored :=
    assures_ok? (restoreState_rests sole)
  refine Fallible.ensures_bind restores (fun _ _ _ => ?_) fun _ => ?_
  · intro impossible
    cases impossible
  refine Fallible.ensures_bind (aside_rests (announce_aside host)) (fun _ _ _ => ?_) fun _ => ?_
  · intro impossible
    cases impossible
  · exact Program.Ensures.mono (publishState_rests settings) (fun _ rests => rests)
      fun _ _ rests _ => rests

theorem Cycle.rests {file : Option (List UInt8)}
    (sole : ∀ setter ∈ readBackSetters settings, ec.Sole setter.feature)
    (resting : Resting ec settings ⟨settings, none, file⟩ before) (cycle : Cycle codec ec before after) :
    Resting ec settings ⟨settings, none, some (codec.encode settings)⟩ after := by
  cases cycle with
  | wakeUp leaving down up =>
      exact wakingUp_rests sole rfl rfl _ _ _ (farewell_saves sole leaving rfl rfl _ _ _ resting down) up
  | @restart _ _ _ _ asleep _ host leaving down up =>
      have asleepRests := farewell_saves sole leaving rfl rfl _ _ _ resting down
      have file : asleep.stateFile = some (codec.encode settings) :=
        congrArg Snapshot.stateFile asleepRests.kept
      let anew : Snapshot := ⟨CurrentSettings.default 0, none, some (codec.encode settings)⟩
      have saved : decodedFile codec anew.stateFile = some settings := codec.decode_encode settings
      have fresh : Resting ec settings anew (World.fresh asleep.ec asleep.stateFile) := by
        refine ⟨asleepRests.registers, ?_⟩
        rw [file]
        rfl
      exact startUp_rests sole saved host _ _ _ fresh up rfl

theorem restored_rests (detection : Detection)
    (restored : Alone codec thread (restoreState detection.device settings) before (.ok ()) after)
    (inMemory : before.settings = settings) (free : before.stateLock = none) :
    Resting detection.device settings ⟨settings, none, before.stateFile⟩ after := by
  have played : before.SameElsewhere after := by
    rw [restoreState_eq] at restored
    rcases Setter.alone_applyAll restored with ⟨_, rfl⟩ | ⟨_, _, _, impossible, _⟩
    · exact World.play_sameElsewhere _
    · cases impossible
  rw [restoreState_eq, Setter.alone_applyAll_ok] at restored
  refine ⟨fun setter member => ?_, ?_⟩
  · exact Setter.succeed_holds (settingSetters_distinct settings)
      (readBackSetters_subset settings member) (readBackSetters_sole detection setter member)
      (readBackSetters_notRing setter member).1 restored
  · rw [played.snapshot_eq, World.snapshot, inMemory, free]

/-- Whatever the board, the events that take the system down and what the register
accesses do, no number of power cycles changes the settings in memory, nor those
in the file once a cycle has saved them. -/
theorem powerCycles_preserve (detection : Detection) {start : World} {count : Nat}
    (restored : Alone codec thread (restoreState detection.device settings) before (.ok ()) start)
    (inMemory : before.settings = settings) (free : before.stateLock = none)
    (cycles : Cycles codec detection.device start count after) :
    after.settings = settings ∧
    (0 < count ∨ decodedFile codec start.stateFile = some settings →
      decodedFile codec after.stateFile = some settings) := by
  have sole : ∀ setter ∈ readBackSetters settings, detection.device.Sole setter.feature :=
    readBackSetters_sole detection
  have rests : ∃ file, Resting detection.device settings ⟨settings, none, file⟩ after ∧
      (0 < count ∨ decodedFile codec start.stateFile = some settings →
        decodedFile codec file = some settings) := by
    induction cycles with
    | none =>
        have resting := restored_rests detection restored inMemory free
        have file : start.stateFile = before.stateFile := congrArg Snapshot.stateFile resting.kept
        refine ⟨before.stateFile, resting, fun saved => ?_⟩
        rw [file] at saved
        exact saved.resolve_left (lt_irrefl 0)
    | more earlier last ih =>
        obtain ⟨file, resting, _⟩ := ih
        exact ⟨_, last.rests sole resting, fun _ => codec.decode_encode settings⟩
  obtain ⟨file, resting, saved⟩ := rests
  have kept : after.stateFile = file := congrArg Snapshot.stateFile resting.kept
  refine ⟨congrArg Snapshot.settings resting.kept, ?_⟩
  rw [kept]
  exact saved

def nightSettings : CurrentSettings :=
  { CurrentSettings.default 0 with
    keyboardBacklight := .custom 77
    ledMode := .custom 128
    chargeLimit := .balanced }

def soundRun (computation : Io Unit) (choices : List Choice) (world : World) :
    Except Failure Unit × World :=
  computation.run.run (systemSemantics .bincode 0 false) choices world

def evening : Except Failure Unit × World :=
  runAlone .bincode 0 (restoreState Detection.n155d.device nightSettings) []
    ((World.fresh (fun _ => 0) none).withSettings nightSettings)

/-- The keyboard cannot be read while the system goes to sleep. -/
def morning : Except Failure Unit × World :=
  soundRun (processEvent Detection.n155d.device .systemWakingUp) []
    (soundRun (processEvent Detection.n155d.device .systemSleeping)
      (List.replicate 9 default ++ [{ accesses := [some "timeout"] }]) evening.2).2

/-- The system is switched off and on again. -/
def restarted : Except Failure Unit × World :=
  let off := (soundRun (processEvent Detection.n155d.device .systemShuttingDown) [] morning.2).2
  soundRun (startUp Detection.n155d.device ⟨"", "", ""⟩) [] (World.fresh off.ec off.stateFile)

theorem powerCycles_preserve_restarted : restarted.2.settings = nightSettings ∧
    decodedFile .bincode restarted.2.stateFile = some nightSettings := by
  have dusk : evening.1 = .ok () := by decide +kernel
  have dawn : restarted.1 = .ok () := by decide +kernel
  have restored : Alone .bincode 0 (restoreState Detection.n155d.device nightSettings)
      ((World.fresh (fun _ => 0) none).withSettings nightSettings) (.ok ()) evening.2 :=
    dusk ▸ runAlone_alone .bincode 0 _ [] _
  have night : Cycle .bincode Detection.n155d.device evening.2 morning.2 :=
    .wakeUp rfl (Program.run_runs _ _ _) (Program.run_runs _ _ _)
  have began : Fallible.Runs (systemSemantics .bincode 0 false)
      (startUp Detection.n155d.device ⟨"", "", ""⟩) _ (.ok ()) restarted.2 :=
    dawn ▸ Program.run_runs _ _ _
  have day : Cycle .bincode Detection.n155d.device morning.2 restarted.2 :=
    .restart rfl (Program.run_runs _ _ _) began
  obtain ⟨inMemory, inFile⟩ := powerCycles_preserve Detection.n155d restored rfl rfl
    (.more (.more .none night) day)
  exact ⟨inMemory, inFile (.inl (by decide))⟩

end Lecoo.Daemon
