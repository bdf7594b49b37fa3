import Lecoo.Daemon.Consent

namespace Lecoo.Daemon

open Lecoo.Effects Lecoo.Ipc Lecoo.Ec Fallible

/-! # The consent in the start-up and in the worker

The start-up takes the consent from the file that it loads, and gives it to the switch
before the worker starts and to the settings in memory before any request is served.  A
round of the worker comes to the server only past the switch.
-/

/-- How far the start-up has come, and the consent that it has loaded. -/
inductive Boot where
  | loading
  | loaded (consent : Bool)
  | switched (consent : Bool)
  | up

/-- The first step of `send_to_server` is to read the identity. -/
def DaemonOp.Silent (operation : DaemonOp) : Prop := operation ≠ .loadTelemetryId

/-- The system calls of a load. -/
def DaemonOp.Loads : DaemonOp → Prop
  | .stateFileExists | .openStateFile | .decodeStateFile => True
  | _ => False

/-- What the start-up may do all the way. -/
def DaemonOp.Boots (operation : DaemonOp) : Prop := operation.Outside ∧ operation.Silent

namespace Boot

def permits : Boot → DaemonOp → Prop
  | .loaded consent, .storeTelemetryEnabled value => value = consent
  | .switched _, .startTelemetryWorker => True
  | .switched consent, .publishState settings => settings.telemetryEnabled = consent
  | _, operation => operation.Boots

/-- Defaults, which have the consent, are taken after each failure and without a file. -/
def next : Boot → (operation : DaemonOp) → daemonOps.Reply operation → Boot
  | .loading, .stateFileExists, .ok true => .loading
  | .loading, .stateFileExists, _ => .loaded true
  | .loading, .openStateFile, .ok _ => .loading
  | .loading, .openStateFile, .error _ => .loaded true
  | .loading, .decodeStateFile, .ok settings => .loaded settings.telemetryEnabled
  | .loading, .decodeStateFile, .error _ => .loaded true
  | .loaded consent, .storeTelemetryEnabled _, _ => .switched consent
  | .switched _, .publishState _, _ => .up
  | boot, _, _ => boot

end Boot

def bootMonitor : Monitor daemonOps Boot where
  permits := Boot.permits
  next := Boot.next

/-- A round of the worker sends only after it has found the switch on. -/
def sendMonitor : Monitor daemonOps Bool where
  permits past operation := operation = .loadTelemetryId → past = true
  next
    | _, .loadTelemetryEnabled, enabled => enabled
    | _, .loadTelemetryId, _ => false
    | past, _, _ => past

section Programs

variable {ec : EcDevice}

theorem DaemonOp.Loads.outside {operation : DaemonOp} (loads : operation.Loads) :
    operation.Outside := by
  cases operation <;> trivial

theorem DaemonOp.OnEc.boots {operation : DaemonOp} (onEc : operation.OnEc) : operation.Boots := by
  refine ⟨onEc.outside, ?_⟩
  rintro rfl
  cases onEc

/-- The report of a message about to be queued. -/
theorem send_boots (data : TelemetryData) : Uses DaemonOp.Boots (Telemetry.send data) := by
  refine uses_bind (uses_always (Io.uses_perform ⟨trivial, nofun⟩)) fun isEnabled => ?_
  cases isEnabled with
  | false => exact uses_pure _
  | true => exact uses_always (Io.uses_perform ⟨trivial, nofun⟩)

/-- What the start-up is left with once it has loaded the settings. -/
def Boot.Found (boot : Boot) (outcome : Except Failure CurrentSettings) : Prop :=
  ∀ settings, outcome = .ok settings → boot = .loaded settings.telemetryEnabled

theorem loadOrDefault_boots : Fallible.Heeds bootMonitor Boot.Found loadOrDefault .loading := by
  have panics : ∀ {boot : Boot} {message : String}, boot.Found (.error (.panic message)) := by
    intro boot message settings impossible
    cases impossible
  have defaults : Program.Heeds bootMonitor Boot.Found
      (Io.systemTimeHash >>= fun hash => pure (CurrentSettings.default hash) : Io _).run
      (.loaded true) := by
    refine ⟨⟨trivial, nofun⟩, fun hash settings same => ?_⟩
    cases same
    rfl
  refine ⟨⟨trivial, nofun⟩, fun present => ?_⟩
  rcases present with (_ | _) | _ | _
  · exact defaults
  · exact panics
  · exact defaults
  refine ⟨⟨trivial, nofun⟩, fun opened => ?_⟩
  rcases opened with (_ | _) | _
  · exact defaults
  · exact panics
  refine ⟨⟨trivial, nofun⟩, fun decoded => ?_⟩
  rcases decoded with (_ | _) | settings
  · exact defaults
  · exact panics
  intro loaded same
  cases same
  rfl

theorem announce_boots (host : SystemInfo) (settings : CurrentSettings) :
    Fallible.Heeds bootMonitor
      (fun boot _ => boot = .switched settings.telemetryEnabled) (announce ec host settings)
      (.loaded settings.telemetryEnabled) := by
  have stays : ∀ {β : Type} {program : Task β}, program.Uses DaemonOp.Boots →
      program.Heeds bootMonitor (fun boot _ => boot = .switched settings.telemetryEnabled)
        (.switched settings.telemetryEnabled) := by
    intro β program uses
    refine uses.heeds (fun operation permitted => ?_) fun operation reply permitted => ?_
    · cases operation with
      | startTelemetryWorker | publishState => cases permitted.1
      | _ => exact permitted
    · cases operation with
      | publishState => cases permitted.1
      | _ => rfl
  refine ⟨rfl, fun _ => ⟨⟨trivial, nofun⟩, fun _ => ⟨⟨trivial, nofun⟩, fun _ =>
    ⟨trivial, fun _ => stays ?_⟩⟩⟩⟩
  cases enabled : settings.telemetryEnabled with
  | false =>
      simp only [Bool.false_eq_true, if_false]
      exact ⟨⟨trivial, nofun⟩, fun _ => trivial⟩
  | true =>
      simp only [if_true]
      refine uses_bind (Program.Uses.mono (fun _ reads => reads.onEc.boots)
        (readSystemInfo_reads ec)) fun chip => ?_
      exact uses_bind (send_boots _) fun _ => ⟨⟨trivial, nofun⟩, fun _ => trivial⟩

theorem startUp_boots (host : SystemInfo) :
    Fallible.Heeds bootMonitor (fun _ _ => True) (startUp ec host) .loading := by
  rw [startUp_eq]
  refine heeds_bind loadOrDefault_boots (fun _ _ _ => trivial) fun boot settings found => ?_
  obtain rfl := found settings rfl
  have restores : Fallible.Heeds bootMonitor
      (fun last _ => last = .loaded settings.telemetryEnabled)
      (Io.ok? (restoreState ec settings)) (.loaded settings.telemetryEnabled) :=
    Program.Uses.heeds (Io.uses_ok? (restoreState_onEc ec settings))
      (fun operation onEc => by
        cases operation with
        | batch | loadLedCustom | storeLedCustom => exact onEc.boots
        | _ => cases onEc)
      (fun operation _ onEc => by cases operation <;> first | rfl | cases onEc)
  refine heeds_bind restores (fun _ _ _ => trivial) fun boot _ same => ?_
  subst same
  refine heeds_bind (announce_boots host settings) (fun _ _ _ => trivial) fun boot _ same => ?_
  subst same
  exact ⟨rfl, fun _ => trivial⟩

theorem Job.startUp_boots (host : SystemInfo) :
    ((Job.startUp host).work ec).run.Heeds bootMonitor (fun _ _ => True) .loading :=
  heeds_bind (Daemon.startUp_boots host) (fun _ _ _ => trivial) fun _ _ _ => trivial

/-- A round of the worker that finds the switch off ends there. -/
theorem workerRound_sends :
    (Job.workerRound.work ec).run.Heeds sendMonitor (fun _ _ => True) false := by
  have reads : ∀ {β : Type} {computation : Io β} {rest : Option β → Io Unit},
      Uses DaemonOp.ReadsEc computation →
      (∀ value, Fallible.Heeds sendMonitor (fun _ _ => True) (rest value) true) →
      Fallible.Heeds sendMonitor (fun _ _ => True) (Io.ok? computation >>= rest) true := by
    intro β computation rest reads later
    have stays : Fallible.Heeds sendMonitor (fun past _ => past = true) (Io.ok? computation) true :=
      Program.Uses.heeds (Io.uses_ok? reads) (fun _ _ _ => rfl) fun operation _ reads => by
        cases operation <;> first | rfl | cases reads
    refine heeds_bind stays (fun _ _ _ => trivial) fun past value same => ?_
    subst same
    exact later value
  have sends : ∀ data, Fallible.Heeds sendMonitor (fun _ _ => True)
      (Telemetry.sendToServer data) true :=
    fun _ => ⟨fun _ => rfl, fun _ => ⟨nofun, fun _ => trivial⟩⟩
  have round : Fallible.Heeds sendMonitor (fun _ _ => True) (Telemetry.workerRound ec) false := by
    refine ⟨nofun, fun received => ?_⟩
    cases received with
    | some message =>
        refine ⟨nofun, fun isEnabled => ?_⟩
        cases isEnabled with
        | false => trivial
        | true => exact sends message
    | none =>
        refine ⟨nofun, fun isEnabled => ?_⟩
        cases isEnabled with
        | false => trivial
        | true =>
            refine ⟨nofun, fun published => ?_⟩
            cases published with
            | false => trivial
            | true =>
                refine reads (readPowerProfile_reads ec) fun profile => ?_
                cases profile with
                | none => trivial
                | some profile =>
                    refine reads (readTemperatures_reads ec) fun temps => ?_
                    cases temps with
                    | none => trivial
                    | some temps =>
                        refine reads (readFansRpm_reads ec) fun fans => ?_
                        cases fans with
                        | none => trivial
                        | some fans => exact sends _
  exact heeds_bind round (fun _ _ _ => trivial) fun _ _ _ => trivial

theorem Job.work_silent {job : Job} (worker : job ≠ .workerRound)
    (running : ∀ host, job ≠ .startUp host) :
    Uses DaemonOp.Silent (job.work ec) := by
  have covers : Covers ec DaemonOp.Silent := (usual_covers ec).mono fun operation usual => by
      rintro rfl
      rcases usual with reads | _ | _ | _ | onFile
      · cases reads
      · cases onFile
  cases job with
  | request asked => exact request_uses covers (fun _ => nofun) asked
  | connectionReset => exact uses_bind (saveOnReset_uses covers) fun _ => uses_pure _
  | event happened => exact uses_bind (processEvent_uses covers happened) fun _ => uses_pure _
  | panicReport message =>
      exact uses_bind (Program.Uses.mono (fun _ boots => boots.2) (send_boots _)) fun _ =>
        uses_pure _
  | workerRound => exact absurd rfl worker
  | startUp host => exact absurd rfl (running host)

end Programs

section Threads

variable {codec : SettingsCodec} {boot : Boot} {account later : Account} {world after : World}
  {thread : ThreadId} {choice : Choice} {operation : DaemonOp}

abbrev DaemonActivity := Activity daemonOps Job (Except Failure (Option IpcResponse))

/-- What a thread of the running daemon keeps to. -/
structure OnDuty (codec : SettingsCodec) (account : Account) (world : World) (thread : ThreadId)
    (activity : DaemonActivity) : Prop where
  custody : ∃ custody : Custody,
    activity.todo.Heeds (custodyMonitor activity.job) (fun last _ => last = .away) custody ∧
      custody.Accords codec account world thread
  early : world.statePublished = false → activity.todo.Uses DaemonOp.Outside
  withdraws : activity.job = optOutRequest → world.statePublished = true ∧
    ∃ stage : Withdrawal, activity.todo.Heeds stageMonitor
      (fun last outcome => outcome = .ok (some .telemetryDisabledInfo) → last = .off) stage ∧
      stage.Reached codec account world
  sends : activity.job = .workerRound → world.workerStarted = true ∧
    activity.todo.Heeds sendMonitor (fun _ _ => True) (account.past thread)
  silent : activity.job ≠ .workerRound → activity.todo.Uses DaemonOp.Silent

/-- What the start-up keeps to. -/
structure Booting (boot : Boot) (world : World) (thread : ThreadId) (activity : DaemonActivity) :
    Prop where
  first : thread = 0
  heeds : activity.todo.Heeds bootMonitor (fun _ _ => True) boot
  free : world.stateLock ≠ some thread

/-- Nothing is served before the settings are published, and the worker does not start before
the switch is set. -/
structure Boot.Opens (boot : Boot) (world : World) : Prop where
  unpublished : boot ≠ .up → world.statePublished = false ∧ world.stateLock = none
  unstarted : (boot = .loading ∨ ∃ consent, boot = .loaded consent) → world.workerStarted = false

/-- Where the copies of the consent are off while the clients are opted out. -/
def Boot.Copies (codec : SettingsCodec) (account : Account) (world : World) : Boot → Prop
  | .loading => FileOff codec world
  | .loaded consent => FileOff codec world ∧ consent = false
  | .switched consent => FileOff codec world ∧ consent = false ∧ SwitchOff account world
  | .up => MemoryOff account world ∧ FileKept codec account world ∧ SwitchOff account world

theorem daemonSemantics_statePublished (other : ∀ settings, operation ≠ .publishState settings)
    (choice : Choice) (world : World) :
    (daemonSemantics codec thread operation choice world).2.statePublished =
      world.statePublished := by
  cases operation with
  | publishState settings => exact absurd rfl (other settings)
  | tryLockState | createStateFile | decodeStateFile | queueTelemetry | receiveTelemetry =>
      simp only [daemonSemantics]
      split <;> rfl
  | _ => rfl

theorem daemonSemantics_workerStarted (other : operation ≠ .startTelemetryWorker)
    (choice : Choice) (world : World) :
    (daemonSemantics codec thread operation choice world).2.workerStarted =
      world.workerStarted := by
  cases operation with
  | startTelemetryWorker => exact absurd rfl other
  | tryLockState | createStateFile | decodeStateFile | queueTelemetry | receiveTelemetry =>
      simp only [daemonSemantics]
      split <;> rfl
  | _ => rfl

/-- What is published stays so, and so does the worker. -/
theorem daemonSemantics_persists (operation : DaemonOp) (choice : Choice) (world : World) :
    (world.statePublished = true →
      (daemonSemantics codec thread operation choice world).2.statePublished = true) ∧
    (world.workerStarted = true →
      (daemonSemantics codec thread operation choice world).2.workerStarted = true) := by
  constructor
  · by_cases publishes : ∃ settings, operation = .publishState settings
    · obtain ⟨settings, rfl⟩ := publishes
      exact fun _ => rfl
    · rw [daemonSemantics_statePublished fun settings same => publishes ⟨settings, same⟩]
      exact id
  · by_cases starts : operation = .startTelemetryWorker
    · subst starts
      exact fun _ => rfl
    · rw [daemonSemantics_workerStarted starts]
      exact id

/-- Only the start-up publishes the settings and starts the worker. -/
theorem custody_opens {custody : Custody} {job : Job}
    (permits : (custodyMonitor job).permits custody operation) :
    (∀ settings, operation ≠ .publishState settings) ∧ operation ≠ .startTelemetryWorker := by
  constructor
  · rintro settings rfl
    cases custody <;> cases permits.1
  · rintro rfl
    exact permits.2

theorem DaemonOp.Outside.opens (outside : operation.Outside) :
    (∀ settings, operation ≠ .publishState settings) ∧ operation ≠ .startTelemetryWorker := by
  constructor
  · rintro settings rfl
    cases outside
  · rintro rfl
    cases outside

/-- A thread bears what another one does. -/
theorem OnDuty.bear {activity : DaemonActivity}
    (serving : OnDuty codec account world thread activity)
    (accords : ∀ custody : Custody, custody.Accords codec account world thread →
      custody.Accords codec later after thread)
    (published : world.statePublished = true → after.statePublished = true)
    (started : world.workerStarted = true → after.workerStarted = true)
    (keeps : world.statePublished = true → KeepsOff codec account world later after)
    (past : later.past thread = account.past thread) :
    OnDuty codec later after thread activity where
  custody := by
    obtain ⟨custody, heeds, fits⟩ := serving.custody
    exact ⟨custody, heeds, accords custody fits⟩
  early unpublished := by
    refine serving.early ?_
    by_contra served
    rw [Bool.not_eq_false] at served
    exact absurd (unpublished.symm.trans (published served)) Bool.false_ne_true
  withdraws same := by
    obtain ⟨served, stage, heeds, reached⟩ := serving.withdraws same
    exact ⟨published served, stage, heeds, reached.kept (keeps served)⟩
  sends same := by
    obtain ⟨running, heeds⟩ := serving.sends same
    rw [past]
    exact ⟨started running, heeds⟩
  silent := serving.silent

theorem Account.note_past_own (reply : daemonOps.Reply operation) :
    (account.note thread .workerRound choice operation reply).past thread =
      sendMonitor.next (account.past thread) operation reply := by
  cases operation with
  | loadTelemetryEnabled | loadTelemetryId => exact Function.update_self _ _ _
  | createStateFile => cases reply <;> rfl
  | _ => rfl

/-- One step of a thread of the running daemon. -/
theorem OnDuty.act {job : Job}
    {rest : daemonOps.Reply operation → Task (Except Failure (Option IpcResponse))}
    (serving : OnDuty codec account world thread ⟨job, .perform operation rest⟩) :
    OnDuty codec
      (account.note thread job choice operation
        (daemonSemantics codec thread operation choice world).1)
      (daemonSemantics codec thread operation choice world).2 thread
      ⟨job, rest (daemonSemantics codec thread operation choice world).1⟩ := by
  obtain ⟨custody, ⟨permits, heeds⟩, accords⟩ := serving.custody
  have published := @daemonSemantics_statePublished codec thread operation
    (custody_opens permits).1 choice world
  have started := @daemonSemantics_workerStarted codec thread operation
    (custody_opens permits).2 choice world
  refine ⟨⟨_, heeds _, accords.own permits.1⟩, fun unpublished => ?_, ?_, ?_, fun worker => ?_⟩
  · exact (serving.early (published.symm.trans unpublished)).2 _
  · rintro rfl
    obtain ⟨served, stage, follows, reached⟩ := serving.withdraws rfl
    exact ⟨published.trans served, _, follows.2 _, reached.own accords permits⟩
  · rintro rfl
    obtain ⟨running, follows⟩ := serving.sends rfl
    rw [Account.note_past_own]
    exact ⟨started.trans running, follows.2 _⟩
  · exact (serving.silent worker).2 _

/-- What a step of a serving thread leaves of the copies. -/
theorem Boot.Copies.kept (copies : boot.Copies codec account world)
    (keeps : KeepsOff codec account world later after)
    (early : boot ≠ .up → world.SameGuarded after) : boot.Copies codec later after := by
  have fileOff : boot ≠ .up → FileOff codec world → FileOff codec after := by
    intro starting off
    rwa [FileOff, (early starting).store.stateFile]
  cases boot with
  | loading => exact fileOff (by simp) copies
  | loaded consent => exact ⟨fileOff (by simp) copies.1, copies.2⟩
  | switched consent => exact ⟨fileOff (by simp) copies.1, copies.2.1, keeps.switch copies.2.2⟩
  | up => exact ⟨keeps.memory copies.1, keeps.file copies.1 copies.2.1, keeps.switch copies.2.2⟩

theorem Boot.Copies.fileOff (copies : boot.Copies codec account world)
    (clean : account.spoilt = false) : FileOff codec world := by
  cases boot with
  | loading => exact copies
  | loaded consent | switched consent => exact copies.1
  | up => exact copies.2.1.resolve_left (by rw [clean]; exact Bool.false_ne_true)

theorem Boot.Copies.switchOff (copies : boot.Copies codec account world)
    (opens : boot.Opens world) (started : world.workerStarted = true) :
    SwitchOff account world := by
  cases boot with
  | loading => exact absurd (opens.unstarted (.inl rfl)) (by simp [started])
  | loaded consent => exact absurd (opens.unstarted (.inr ⟨consent, rfl⟩)) (by simp [started])
  | switched consent => exact copies.2.2
  | up => exact copies.2.2

theorem Boot.silent : ¬bootMonitor.permits boot .loadTelemetryId := by
  intro permits
  cases boot <;> exact permits.2 rfl

/-- What the start-up can do next. -/
inductive Boot.Step : Boot → DaemonOp → Boot → Prop where
  | loads {operation : DaemonOp} {consent : Bool} (loads : operation.Loads) :
      Step .loading operation (.loaded consent)
  | boots {boot : Boot} {operation : DaemonOp} (boots : operation.Boots) : Step boot operation boot
  | switches {consent : Bool} :
      Step (.loaded consent) (.storeTelemetryEnabled consent) (.switched consent)
  | starts {consent : Bool} : Step (.switched consent) .startTelemetryWorker (.switched consent)
  | publishes {settings : CurrentSettings} :
      Step (.switched settings.telemetryEnabled) (.publishState settings) .up

theorem Boot.next_step (permits : bootMonitor.permits boot operation)
    (reply : daemonOps.Reply operation) :
    boot.Step operation (bootMonitor.next boot operation reply) := by
  cases boot with
  | loading =>
      cases operation with
      | stateFileExists =>
          rcases reply with _ | _ | _
          · exact .loads trivial
          · exact .loads trivial
          · exact .boots permits
      | openStateFile =>
          cases reply with
          | error failure => exact .loads trivial
          | ok value => exact .boots permits
      | decodeStateFile => cases reply <;> exact .loads trivial
      | _ => exact .boots permits
  | loaded consent =>
      cases operation with
      | storeTelemetryEnabled value =>
          cases permits
          exact .switches
      | _ => exact .boots permits
  | switched consent =>
      cases operation with
      | startTelemetryWorker => exact .starts
      | publishState settings =>
          cases permits
          exact .publishes
      | _ => exact .boots permits
  | up => exact .boots permits

variable {host : SystemInfo}

theorem Boot.Step.sameGuarded {next : Boot} (step : boot.Step operation next) :
    (∃ settings, operation = .publishState settings) ∨
      world.SameGuarded (daemonSemantics codec thread operation choice world).2 := by
  have keeps : operation.KeepsStore →
      world.SameGuarded (daemonSemantics codec thread operation choice world).2 :=
    fun keeps => daemonSemantics_keepsStore keeps choice world
  cases step with
  | loads loads => exact .inr (keeps loads.outside.keepsStore)
  | boots boots => exact .inr (keeps boots.1.keepsStore)
  | switches | starts => exact .inr (keeps trivial)
  | publishes => exact .inl ⟨_, rfl⟩

/-- An operation of the start-up that needs no guard leaves the stages as they are. -/
theorem Boot.Opens.same {next : Boot} (opens : boot.Opens world) (outside : operation.Outside)
    (starting : next ≠ .up → boot ≠ .up)
    (setting : (next = .loading ∨ ∃ consent, next = .loaded consent) →
      boot = .loading ∨ ∃ consent, boot = .loaded consent) :
    next.Opens (daemonSemantics codec thread operation choice world).2 := by
  refine ⟨fun below => ?_, fun unset => ?_⟩
  · obtain ⟨unpublished, unlocked⟩ := opens.unpublished (starting below)
    rw [daemonSemantics_statePublished outside.opens.1,
      (daemonSemantics_keepsStore outside.keepsStore choice world).stateLock]
    exact ⟨unpublished, unlocked⟩
  · rw [daemonSemantics_workerStarted outside.opens.2]
    exact opens.unstarted (setting unset)

theorem Boot.Step.opens {next : Boot} (step : boot.Step operation next) (opens : boot.Opens world) :
    next.Opens (daemonSemantics codec thread operation choice world).2 := by
  cases step with
  | loads loads => exact opens.same loads.outside (fun _ => nofun) fun _ => .inl rfl
  | boots boots => exact opens.same boots.1 id id
  | switches | starts =>
      refine ⟨fun _ => opens.unpublished nofun, ?_⟩
      rintro (impossible | ⟨_, impossible⟩) <;> cases impossible
  | publishes =>
      refine ⟨fun below => absurd rfl below, ?_⟩
      rintro (impossible | ⟨_, impossible⟩) <;> cases impossible

/-- The serving threads bear what the start-up does. -/
theorem Boot.Step.bear {next : Boot} {other : ThreadId} {activity : DaemonActivity} {job : Job}
    (step : boot.Step operation next) (opens : boot.Opens world) (different : other ≠ thread)
    (serving : OnDuty codec account world other activity) :
    OnDuty codec
      (account.note thread job choice operation
        (daemonSemantics codec thread operation choice world).1)
      (daemonSemantics codec thread operation choice world).2 other activity := by
  have persists := @daemonSemantics_persists codec thread operation choice world
  refine serving.bear ?_ persists.1 persists.2 ?_ (Account.note_past_other different _)
  · intro custody accords
    refine ⟨?_, by rw [Account.note_encoded_other different]; exact accords.complete⟩
    rcases step.sameGuarded with ⟨settings, rfl⟩ | same
    · cases step with
      | boots boots => cases boots.1
      | loads loads => cases loads
      | publishes =>
          have unlocked := (opens.unpublished nofun).2
          cases accords.fits.away (by simp [unlocked])
          change world.stateLock ≠ some other
          simp [unlocked]
    · exact accords.fits.same same
  · intro published
    have up : boot = .up := by
      by_contra starting
      exact absurd (published.symm.trans (opens.unpublished starting).1) (by decide)
    subst up
    cases step with
    | boots boots => exact boots.1.keepsOff choice world

/-- The loads of the start-up take the opt-out from the file. -/
theorem Boot.Copies.act (copies : boot.Copies codec account world)
    (permits : bootMonitor.permits boot operation)
    (loads : operation.Loads → choice.failure = none) :
    (bootMonitor.next boot operation
      (daemonSemantics codec thread operation choice world).1).Copies codec
      (account.note thread (.startUp host) choice operation
        (daemonSemantics codec thread operation choice world).1)
      (daemonSemantics codec thread operation choice world).2 := by
  have step := Boot.next_step permits (daemonSemantics codec thread operation choice world).1
  by_cases loading : boot = .loading ∧ operation.Loads
  · obtain ⟨rfl, loaded⟩ := loading
    obtain ⟨settings, decoded, off⟩ := id copies
    obtain ⟨bytes, file, read⟩ := Option.bind_eq_some_iff.mp decoded
    have succeeds := loads loaded
    cases operation with
    | stateFileExists =>
        simp only [daemonSemantics, Choice.outcome, succeeds, file, Option.isSome_some]
        exact copies
    | openStateFile =>
        simp only [daemonSemantics, Choice.outcome, succeeds]
        exact copies
    | decodeStateFile =>
        simp only [daemonSemantics, succeeds, file, Option.bind_some, read]
        exact ⟨copies, off⟩
    | _ => cases loaded
  · generalize bootMonitor.next boot operation
      (daemonSemantics codec thread operation choice world).1 = next at step ⊢
    cases step with
    | loads loads => exact absurd ⟨rfl, loads⟩ loading
    | boots boots =>
        exact copies.kept (boots.1.keepsOff choice world) fun _ =>
          daemonSemantics_keepsStore boots.1.keepsStore choice world
    | switches => exact ⟨copies.1, copies.2, .inr copies.2⟩
    | starts => exact copies
    | publishes => exact ⟨.inr copies.2.1, .inr copies.1, copies.2.2⟩

end Threads

end Lecoo.Daemon
