import Lecoo.Daemon.Boot

namespace Lecoo.Daemon

open Lecoo.Effects Lecoo.Ipc Lecoo.Ec

/-! # Telemetry after an opt-out

The history of a machine on which the daemon runs, is restarted, and runs again.
A restart ends every thread and leaves only the settings file.
-/

structure Life where
  pool : DaemonPool World
  /-- A client was told that the telemetry is disabled, and none has asked for it since. -/
  optedOut : Bool
  account : Account

inductive Happening where
  | step (event : Event ThreadId Job Choice)
  | restart (memory : EcMemory) (host : SystemInfo)

/-- A process whose first thread is about to start the daemon up. -/
def booted (ec : EcDevice) (memory : EcMemory) (stateFile : Option (List UInt8))
    (host : SystemInfo) : DaemonPool World :=
  (Pool.idle (World.fresh memory stateFile)).put 0
    (some ⟨.startUp host, ((Job.startUp host).work ec).run⟩)

/-- The response of an opt-out is about to be delivered. -/
def Delivers (pool : DaemonPool World) (thread : ThreadId) : Prop :=
  pool.thread thread = some ⟨optOutRequest, .done (.ok (some .telemetryDisabledInfo))⟩

namespace Life

def first (ec : EcDevice) (memory : EcMemory) (stateFile : Option (List UInt8))
    (host : SystemInfo) : Life where
  pool := booted ec memory stateFile host
  optedOut := false
  account := .first

/-- Whether the clients are opted out after a scheduling step. -/
def heard (life : Life) : Event ThreadId Job Choice → Bool
  | .start _ (.request (.daemonCommand (.activateTelemetry true))) => false
  | .finish thread =>
      match life.pool.thread thread with
      | some ⟨.request (.daemonCommand (.activateTelemetry false)),
          .done (.ok (some .telemetryDisabledInfo))⟩ => true
      | _ => life.optedOut
  | _ => life.optedOut

/-- The account after a scheduling step. -/
def noted (codec : SettingsCodec) (life : Life) : Event ThreadId Job Choice → Account
  | .start thread _ => life.account.started thread
  | .act thread choice =>
      match life.pool.thread thread with
      | some ⟨job, .perform operation _⟩ => life.account.note thread job choice operation
          (daemonSemantics codec thread operation choice life.pool.world).1
      | _ => life.account
  | .finish _ => life.account

def next (codec : SettingsCodec) (ec : EcDevice) (life : Life) : Happening → Option Life
  | .step event =>
      (life.pool.next (fun job => (job.work ec).run) (fun thread _ => daemonSemantics codec thread)
        event).map fun pool =>
          { pool, optedOut := life.heard event, account := life.noted codec event }
  | .restart memory host =>
      some { life with
        pool := booted ec memory life.pool.world.stateFile host
        account := life.account.restarted }

/-- `send_to_server` is not being started; its first step is to read the identity. -/
def Respected (life : Life) : Prop :=
  life.optedOut = true → ∀ thread job rest,
    life.pool.thread thread ≠ some ⟨job, .perform .loadTelemetryId rest⟩

/-- The switch is off from the time on when there is a worker, and the settings file says so
too, if only an opt-out has rewritten it. -/
def Recorded (codec : SettingsCodec) (life : Life) : Prop :=
  life.optedOut = true →
    (life.pool.world.workerStarted = true → life.pool.world.telemetryEnabled = false) ∧
      (life.account.spoilt = false → FileOff codec life.pool.world)

end Life

/-- Connections and service events are served once the state is published, the
worker takes messages once it is started, and anything may panic at any time. -/
def Job.Possible (world : World) : Job → Prop
  | .request _ | .connectionReset | .event _ => world.statePublished = true
  | .workerRound => world.workerStarted = true
  | .panicReport _ => True
  | .startUp _ => False

def Happening.Possible (life : Life) : Happening → Prop
  | .step (.start _ job) => job.Possible life.pool.world
  | _ => True

/-- While the clients are opted out, the daemon is restarted only when its last complete
rewriting of the settings file came after an opt-out, the load of the start-up does not fail,
and no request that was issued earlier turns the switch on.  When an opt-out is answered, it
was the last to turn the switch, and no round of the worker has come past the switch before. -/
def Heeded (life : Life) : Happening → Prop
  | .restart _ _ => life.optedOut = true → life.account.spoilt = false
  | .step (.act thread choice) => life.optedOut = true → ∀ job operation rest,
      life.pool.thread thread = some ⟨job, .perform operation rest⟩ →
      (operation.Loads → choice.failure = none) ∧
        (job = optInRequest → ∀ value, operation ≠ .storeTelemetryEnabled value)
  | .step (.finish thread) => life.optedOut = false → Delivers life.pool thread →
      life.account.on = false ∧ ∀ other todo,
        life.pool.thread other = some ⟨.workerRound, todo⟩ → life.account.past other = false
  | .step (.start _ _) => True

section Runs

variable {codec : SettingsCodec} {ec : EcDevice} {boot : Boot} {account : Account}
  {pool : DaemonPool World} {thread : ThreadId} {job : Job} {choice : Choice}
  {operation : DaemonOp} {rest : daemonOps.Reply operation → Task (Except Failure (Option IpcResponse))}
  {host : SystemInfo}

/-- The start-up, or a thread of the running daemon. -/
def Bound (codec : SettingsCodec) (boot : Boot) (account : Account) (world : World)
    (thread : ThreadId) (activity : DaemonActivity) : Prop :=
  (∃ host, activity.job = .startUp host) ∧ Booting boot world thread activity ∨
    (∀ host, activity.job ≠ .startUp host) ∧ OnDuty codec account world thread activity

/-- Every thread keeps to its part. -/
structure Orderly (codec : SettingsCodec) (boot : Boot) (account : Account)
    (pool : DaemonPool World) : Prop where
  opens : boot.Opens pool.world
  threads : pool.Each (Bound codec boot account)
  spare : pool.Free fun world thread => world.stateLock ≠ some thread

/-- What holds while the clients are opted out. -/
structure StaysOff (codec : SettingsCodec) (boot : Boot) (account : Account)
    (pool : DaemonPool World) : Prop where
  on : account.on = false
  past : ∀ thread todo, pool.thread thread = some ⟨.workerRound, todo⟩ →
    account.past thread = false
  copies : boot.Copies codec account pool.world

theorem Account.note_on (other : ∀ value, operation ≠ .storeTelemetryEnabled value)
    (reply : daemonOps.Reply operation) :
    (account.note thread job choice operation reply).on = account.on := by
  cases operation with
  | storeTelemetryEnabled value => exact absurd rfl (other value)
  | createStateFile => cases reply <;> rfl
  | loadTelemetryEnabled => cases job <;> rfl
  | _ => rfl

/-- The pool and the account after the thread's next operation. -/
abbrev acted (codec : SettingsCodec) (pool : DaemonPool World) (thread : ThreadId) (job : Job)
    (choice : Choice) (operation : DaemonOp)
    (rest : daemonOps.Reply operation → Task (Except Failure (Option IpcResponse))) :
    DaemonPool World :=
  { pool.put thread
    (some ⟨job, rest (daemonSemantics codec thread operation choice pool.world).1⟩) with
    world := (daemonSemantics codec thread operation choice pool.world).2 }

section OnDuty

variable (serving : OnDuty codec account pool.world thread ⟨job, .perform operation rest⟩)

include serving

theorem OnDuty.sameGuarded (opens : boot.Opens pool.world) (starting : boot ≠ .up) :
    pool.world.SameGuarded (daemonSemantics codec thread operation choice pool.world).2 :=
  daemonSemantics_keepsStore (serving.early (opens.unpublished starting).1).1.keepsStore choice
    pool.world

theorem Orderly.act_serving (jobs : ∀ host, job ≠ .startUp host)
    (kept : Orderly codec boot account pool) :
    Orderly codec boot
      (account.note thread job choice operation
        (daemonSemantics codec thread operation choice pool.world).1)
      (acted codec pool thread job choice operation rest) := by
  obtain ⟨custody, ⟨permits, -⟩, accords⟩ := serving.custody
  have persists := @daemonSemantics_persists codec thread operation choice pool.world
  have elsewhere : ∀ other, other ≠ thread → pool.world.stateLock ≠ some other →
      (daemonSemantics codec thread operation choice pool.world).2.stateLock ≠ some other :=
    fun other different spare => accords.spares permits.1 different spare
  refine ⟨⟨fun starting => ?_, fun unset => ?_⟩,
    kept.threads.move (.inr ⟨jobs, serving.act⟩) ?_, kept.spare.move _ elsewhere⟩
  · obtain ⟨unpublished, unlocked⟩ := kept.opens.unpublished starting
    rw [daemonSemantics_statePublished (custody_opens permits).1,
      (serving.sameGuarded kept.opens starting).stateLock]
    exact ⟨unpublished, unlocked⟩
  · rw [daemonSemantics_workerStarted (custody_opens permits).2]
    exact kept.opens.unstarted unset
  · rintro other activity different (⟨starts, booting⟩ | ⟨others, theirs⟩)
    · exact .inl ⟨starts, booting.first, booting.heeds, elsewhere other different booting.free⟩
    · refine .inr ⟨others, theirs.bear ?_ persists.1 persists.2 ?_
        (Account.note_past_other different _)⟩
      · exact fun held fits => accords.others permits.1 different fits
      · exact fun _ => consent_keepsOff choice accords permits

theorem StaysOff.act_serving
    (running : pool.thread thread = some ⟨job, .perform operation rest⟩)
    (opens : boot.Opens pool.world) (off : StaysOff codec boot account pool)
    (heeded : job = optInRequest → ∀ value, operation ≠ .storeTelemetryEnabled value) :
    StaysOff codec boot
      (account.note thread job choice operation
        (daemonSemantics codec thread operation choice pool.world).1)
      (acted codec pool thread job choice operation rest) := by
  obtain ⟨custody, ⟨permits, -⟩, accords⟩ := serving.custody
  have keeps := consent_keepsOff choice accords permits
  refine ⟨?_, fun other todo found => ?_, off.copies.kept keeps (serving.sameGuarded opens)⟩
  · by_cases stores : ∃ value, operation = .storeTelemetryEnabled value
    · obtain ⟨value, rfl⟩ := stores
      obtain ⟨rfl, -⟩ := permits.2
      cases value
      · rfl
      · exact absurd rfl (heeded rfl true)
    · rw [Account.note_on fun value same => stores ⟨value, same⟩]
      exact off.on
  · by_cases same : other = thread
    · subst same
      rw [Pool.put_same] at found
      cases found
      rw [Account.note_past_own]
      have before := off.past other _ running
      cases operation with
      | loadTelemetryEnabled =>
          refine (off.copies.switchOff opens (serving.sends rfl).1).resolve_left ?_
          simp [off.on]
      | loadTelemetryId => rfl
      | _ => exact before
    · rw [Pool.put_other pool _ same] at found
      rw [Account.note_past_other same]
      exact off.past other todo found

end OnDuty

section Booting

variable (booting : Booting boot pool.world thread ⟨.startUp host, .perform operation rest⟩)

include booting

theorem Orderly.act_boot (kept : Orderly codec boot account pool) :
    Orderly codec
      (bootMonitor.next boot operation (daemonSemantics codec thread operation choice pool.world).1)
      (account.note thread (.startUp host) choice operation
        (daemonSemantics codec thread operation choice pool.world).1)
      (acted codec pool thread (.startUp host) choice operation rest) := by
  obtain ⟨permits, heeds⟩ := booting.heeds
  have step := Boot.next_step permits
    (daemonSemantics codec thread operation choice pool.world).1
  have lock : (daemonSemantics codec thread operation choice pool.world).2.stateLock =
      pool.world.stateLock := by
    rcases step.sameGuarded with ⟨settings, rfl⟩ | same
    · rfl
    · exact same.stateLock
  refine ⟨step.opens kept.opens, kept.threads.move ?_ ?_, kept.spare.move _ ?_⟩
  · exact .inl ⟨⟨host, rfl⟩, booting.first, heeds _, fun held => booting.free (lock.symm.trans held)⟩
  · rintro other activity different (⟨starts, theirs⟩ | ⟨others, theirs⟩)
    · exact absurd (theirs.first.trans booting.first.symm) different
    · exact .inr ⟨others, step.bear kept.opens different theirs⟩
  · exact fun other different spare held => spare (lock.symm.trans held)

theorem StaysOff.act_boot
    (running : pool.thread thread = some ⟨.startUp host, .perform operation rest⟩)
    (off : StaysOff codec boot account pool) (loads : operation.Loads → choice.failure = none) :
    StaysOff codec
      (bootMonitor.next boot operation (daemonSemantics codec thread operation choice pool.world).1)
      (account.note thread (.startUp host) choice operation
        (daemonSemantics codec thread operation choice pool.world).1)
      (acted codec pool thread (.startUp host) choice operation rest) := by
  refine ⟨?_, fun other todo found => ?_, off.copies.act booting.heeds.1 loads⟩
  · by_cases stores : ∃ value, operation = .storeTelemetryEnabled value
    · obtain ⟨value, rfl⟩ := stores
      exact off.on
    · rw [Account.note_on fun value same => stores ⟨value, same⟩]
      exact off.on
  · have different : other ≠ thread := by
      rintro rfl
      rw [Pool.put_same] at found
      cases found
    rw [Pool.put_other pool _ different] at found
    rw [Account.note_past_other different]
    exact off.past other todo found

end Booting

theorem booted_orderly (memory : EcMemory) (stateFile : Option (List UInt8)) (host : SystemInfo) :
    Orderly codec .loading account (booted ec memory stateFile host) := by
  refine ⟨⟨fun _ => ⟨rfl, rfl⟩, fun _ => rfl⟩, fun thread activity running => ?_, fun _ _ => nofun⟩
  by_cases first : thread = 0
  · subst first
    rw [booted, Pool.put_same] at running
    cases running
    exact .inl ⟨⟨host, rfl⟩, rfl, Job.startUp_boots host, nofun⟩
  · rw [booted, Pool.put_other _ _ first] at running
    cases running

/-- What a thread keeps to when it begins a job. -/
theorem onDuty_begins (possible : job.Possible pool.world)
    (spare : pool.world.stateLock ≠ some thread) :
    OnDuty codec (account.started thread) pool.world thread ⟨job, (job.work ec).run⟩ := by
  have running : ∀ host, job ≠ .startUp host := by
    rintro host rfl
    exact possible
  refine ⟨⟨.away, Job.work_heeds running, spare, trivial⟩, fun unpublished => ?_, ?_, ?_,
    fun worker => Job.work_silent worker running⟩
  · cases job with
    | request | connectionReset | event =>
        exact absurd (unpublished.symm.trans possible) Bool.false_ne_true
    | workerRound | panicReport => exact Job.unguarded_outside ec rfl running
    | startUp host => exact possible.elim
  · rintro rfl
    exact ⟨possible, .asked, optOutRequest_stages ec, trivial⟩
  · rintro rfl
    have reset : (account.started thread).past thread = false := Function.update_self _ _ _
    rw [reset]
    exact ⟨possible, workerRound_sends⟩

theorem Orderly.start (possible : job.Possible pool.world) (free : pool.thread thread = none)
    (kept : Orderly codec boot account pool) :
    Orderly codec boot (account.started thread)
      (pool.put thread (some ⟨job, (job.work ec).run⟩)) := by
  have running : ∀ host, job ≠ .startUp host := by
    rintro host rfl
    exact possible
  refine ⟨kept.opens, kept.threads.move
    (.inr ⟨running, onDuty_begins possible (kept.spare thread free)⟩) ?_,
    kept.spare.move _ fun _ _ => id⟩
  rintro other activity different (starting | ⟨others, theirs⟩)
  · exact .inl starting
  · exact .inr ⟨others, theirs.bear (fun _ accords => ⟨accords.fits, accords.complete⟩) id id
      (fun _ => ⟨id, fun _ => id, id⟩) (Function.update_of_ne different _ _)⟩

theorem StaysOff.start (off : StaysOff codec boot account pool) :
    StaysOff codec boot (account.started thread)
      (pool.put thread (some ⟨job, (job.work ec).run⟩)) := by
  refine ⟨off.on, fun other todo found => ?_, ?_⟩
  · by_cases same : other = thread
    · subst same
      exact Function.update_self _ _ _
    · rw [Pool.put_other _ _ same] at found
      exact (Function.update_of_ne same _ _).trans (off.past other todo found)
  · have same : KeepsOff codec account pool.world (account.started thread) pool.world :=
      ⟨id, fun _ => id, id⟩
    exact off.copies.kept same fun _ => ⟨⟨rfl, rfl⟩, rfl⟩

variable {outcome : Except Failure (Option IpcResponse)}

theorem Orderly.finish (ended : pool.thread thread = some ⟨job, .done outcome⟩)
    (kept : Orderly codec boot account pool) : Orderly codec boot account (pool.put thread none) := by
  refine ⟨kept.opens, kept.threads.finish, kept.spare.finish ?_⟩
  rcases kept.threads thread _ ended with ⟨-, booting⟩ | ⟨-, onDuty⟩
  · exact booting.free
  · obtain ⟨custody, away, accords⟩ := onDuty.custody
    cases away
    exact accords.fits

theorem StaysOff.finish (off : StaysOff codec boot account pool) :
    StaysOff codec boot account (pool.put thread none) := by
  refine ⟨off.on, fun other todo found => ?_, off.copies⟩
  by_cases same : other = thread
  · subst same
    rw [Pool.put_same] at found
    cases found
  · rw [Pool.put_other _ _ same] at found
    exact off.past other todo found

/-- An opt-out that is answered has turned every copy off. -/
theorem Orderly.answered (kept : Orderly codec boot account pool) (delivers : Delivers pool thread)
    (on : account.on = false)
    (past : ∀ other todo, pool.thread other = some ⟨.workerRound, todo⟩ →
      account.past other = false) : StaysOff codec boot account pool := by
  refine ⟨on, past, ?_⟩
  rcases kept.threads thread _ delivers with ⟨⟨host, impossible⟩, -⟩ | ⟨-, onDuty⟩
  · cases impossible
  · obtain ⟨published, stage, off, reached⟩ := onDuty.withdraws rfl
    obtain rfl : stage = .off := off rfl
    have up : boot = .up := by
      by_contra starting
      exact absurd (published.symm.trans (kept.opens.unpublished starting).1) (by decide)
    subst up
    exact reached

/-- The daemon is at some point of its start-up or up, its threads keep to their parts, and
an opt-out that was answered is in every copy. -/
def OptOutInvariant (codec : SettingsCodec) (life : Life) : Prop :=
  ∃ boot : Boot, Orderly codec boot life.account life.pool ∧
    (life.optedOut = true → StaysOff codec boot life.account life.pool)

theorem Life.heard_start (life : Life) (thread : ThreadId) (notEnabling : job ≠ optInRequest) :
    life.heard (.start thread job) = life.optedOut := by
  unfold Life.heard
  split
  next same => exact absurd (Event.start.inj same).2 notEnabling
  next same => cases same
  next => rfl

theorem Life.heard_finish (life : Life) (thread : ThreadId) :
    (Delivers life.pool thread ∧ life.heard (.finish thread) = true) ∨
      life.heard (.finish thread) = life.optedOut := by
  simp only [Life.heard]
  split
  · exact .inl ⟨‹_›, rfl⟩
  · exact .inr rfl

theorem optOut_kept {life after : Life} {happening : Happening}
    (invariant : OptOutInvariant codec life) (possible : happening.Possible life)
    (heeded : Heeded life happening) (stepped : life.next codec ec happening = some after) :
    OptOutInvariant codec after := by
  obtain ⟨boot, kept, off⟩ := invariant
  cases happening with
  | restart memory host =>
      cases stepped
      refine ⟨.loading, booted_orderly memory _ host, fun optedOut => ⟨rfl, fun _ _ _ => rfl, ?_⟩⟩
      exact (off optedOut).copies.fileOff (heeded optedOut)
  | step event =>
      obtain ⟨pool, moved, rfl⟩ := Option.map_eq_some_iff.mp stepped
      cases event with
      | start thread job =>
          obtain ⟨free, rfl⟩ := Pool.next_start.mp moved
          refine ⟨boot, kept.start possible free, fun optedOut => ?_⟩
          have notEnabling : job ≠ optInRequest := by
            rintro rfl
            cases optedOut
          exact (off ((life.heard_start thread notEnabling).symm.trans optedOut)).start
      | act thread choice =>
          obtain ⟨job, operation, rest, running, rfl⟩ := Pool.next_act.mp moved
          have noted : life.noted codec (.act thread choice) =
              life.account.note thread job choice operation
                (daemonSemantics codec thread operation choice life.pool.world).1 := by
            simp only [Life.noted, running]
          unfold OptOutInvariant
          rw [noted]
          rcases kept.threads thread _ running with ⟨⟨host, rfl⟩, booting⟩ | ⟨jobs, onDuty⟩
          · exact ⟨_, kept.act_boot booting, fun optedOut => (off optedOut).act_boot booting running
              (heeded optedOut _ operation rest running).1⟩
          · exact ⟨boot, kept.act_serving onDuty jobs, fun optedOut =>
              (off optedOut).act_serving onDuty running kept.opens
                (heeded optedOut job operation rest running).2⟩
      | finish thread =>
          obtain ⟨job, value, ended, rfl⟩ := Pool.next_finish.mp moved
          refine ⟨boot, kept.finish ended, fun optedOut => ?_⟩
          by_cases before : life.optedOut = true
          · exact (off before).finish
          · rw [Bool.not_eq_true] at before
            rcases life.heard_finish thread with ⟨delivers, -⟩ | same
            · obtain ⟨on, past⟩ := heeded before delivers
              exact (kept.answered delivers on past).finish
            · rw [same, before] at optedOut
              cases optedOut

/-- When every restart comes after a complete rewriting of the file by nothing but an opt-out,
and every opt-out is answered with the switch as it has left it and nobody past a check of it,
nothing is sent after an opt-out, the switch is off, and the file says so. -/
theorem optOut_respected {memory : EcMemory} {stateFile : Option (List UInt8)}
    {host : SystemInfo} {happenings : List Happening} {life : Life}
    (ran : Trace (Life.next codec ec)
      (fun life happening => happening.Possible life ∧ Heeded life happening)
      (Life.first ec memory stateFile host) happenings life) :
    life.Respected ∧ life.Recorded codec := by
  have initially : OptOutInvariant codec (Life.first ec memory stateFile host) :=
    ⟨.loading, booted_orderly memory stateFile host, nofun⟩
  obtain ⟨boot, kept, off⟩ : OptOutInvariant codec life :=
    ran.invariant (fun held permitted stepped => optOut_kept held permitted.1 permitted.2 stepped)
      initially
  refine ⟨fun optedOut thread job rest running => ?_, fun optedOut => ⟨fun started => ?_,
    (off optedOut).copies.fileOff⟩⟩
  · rcases kept.threads thread _ running with ⟨⟨host, rfl⟩, booting⟩ | ⟨-, onDuty⟩
    · exact Boot.silent booting.heeds.1
    · by_cases worker : job = .workerRound
      · subst worker
        have past := (onDuty.sends rfl).2.1 rfl
        exact absurd (((off optedOut).past thread _ running).symm.trans past) Bool.false_ne_true
      · exact absurd rfl (onDuty.silent worker).1
  · exact ((off optedOut).copies.switchOff kept.opens started).resolve_left
      (by simp [(off optedOut).on])

end Runs

def Happening.thread : Happening → ThreadId
  | .step event => event.thread
  | .restart _ _ => 0

def Life.IdleOutside (threads : List ThreadId) (life : Life) : Prop :=
  ∀ thread ∉ threads, life.pool.thread thread = none

theorem Life.IdleOutside.step {codec : SettingsCodec} {ec : EcDevice} {life after : Life}
    {happening : Happening} {threads : List ThreadId} (idle : life.IdleOutside threads)
    (covered : happening.thread ∈ threads)
    (stepped : life.next codec ec happening = some after) : after.IdleOutside threads := by
  intro thread outside
  have elsewhere : thread ≠ happening.thread := fun same => outside (same ▸ covered)
  cases happening with
  | restart memory host =>
      cases stepped
      exact Pool.put_other _ _ elsewhere
  | step event =>
      obtain ⟨pool, moved, rfl⟩ := Option.map_eq_some_iff.mp stepped
      exact (Pool.next_other moved elsewhere.symm).trans (idle thread outside)

def possibleNow (life : Life) : Happening → Bool
  | .step (.start _ job) =>
      match job with
      | .request _ | .connectionReset | .event _ => life.pool.world.statePublished
      | .workerRound => life.pool.world.workerStarted
      | .panicReport _ => true
      | .startUp _ => false
  | _ => true

theorem possibleNow_sound (life : Life) (happening : Happening)
    (checked : possibleNow life happening = true) : happening.Possible life := by
  cases happening with
  | restart memory host => trivial
  | step event =>
      cases event with
      | start thread job => cases job <;> trivial
      | _ => trivial

def delivering (pool : DaemonPool World) (thread : ThreadId) : Bool :=
  match pool.thread thread with
  | some ⟨.request (.daemonCommand (.activateTelemetry false)),
      .done (.ok (some .telemetryDisabledInfo))⟩ => true
  | _ => false

theorem delivering_iff {pool : DaemonPool World} {thread : ThreadId} :
    delivering pool thread = true ↔ Delivers pool thread := by
  unfold delivering Delivers optOutRequest
  split <;> simp_all

def sending (pool : DaemonPool World) (thread : ThreadId) : Bool :=
  match pool.thread thread with
  | some ⟨_, .perform .loadTelemetryId _⟩ => true
  | _ => false

theorem sending_iff {pool : DaemonPool World} {thread : ThreadId} :
    sending pool thread = true ↔
      ∃ job rest, pool.thread thread = some ⟨job, .perform .loadTelemetryId rest⟩ := by
  unfold sending
  split <;> simp_all

/-- The request that turns the switch on is about to do so. -/
def optingIn (pool : DaemonPool World) (thread : ThreadId) : Bool :=
  match pool.thread thread with
  | some ⟨.request (.daemonCommand (.activateTelemetry true)), .perform (.storeTelemetryEnabled _) _⟩ =>
      true
  | _ => false

def pastSwitch (life : Life) (thread : ThreadId) : Bool :=
  match life.pool.thread thread with
  | some ⟨.workerRound, _⟩ => life.account.past thread
  | _ => false

/-- The condition on a happening of a history in which only the given threads take part. -/
def heededNow (threads : List ThreadId) (life : Life) : Happening → Bool
  | .restart _ _ => !life.optedOut || !life.account.spoilt
  | .step (.act thread choice) =>
      !life.optedOut || choice.failure.isNone && !optingIn life.pool thread
  | .step (.finish thread) => life.optedOut || !delivering life.pool thread ||
      !life.account.on && threads.all fun other => !pastSwitch life other
  | .step (.start _ _) => true

theorem heededNow_sound {threads : List ThreadId} {life : Life} {happening : Happening}
    (idle : life.IdleOutside threads) (checked : heededNow threads life happening = true) :
    Heeded life happening := by
  cases happening with
  | restart memory host =>
      intro optedOut
      simpa [heededNow, optedOut] using checked
  | step event =>
      cases event with
      | start thread job => trivial
      | act thread choice =>
          intro optedOut job operation rest running
          simp only [heededNow, optedOut, Bool.not_true, Bool.false_or, Bool.and_eq_true,
            Option.isNone_iff_eq_none] at checked
          refine ⟨fun _ => checked.1, ?_⟩
          rintro rfl value rfl
          simp [optingIn, running, optInRequest] at checked
      | finish thread =>
          intro before delivers
          have answered := delivering_iff.mpr delivers
          simp only [heededNow, before, answered, Bool.not_true, Bool.false_or,
            Bool.and_eq_true, Bool.not_eq_true', List.all_eq_true] at checked
          refine ⟨checked.1, fun other todo running => ?_⟩
          by_cases took : other ∈ threads
          · simpa [pastSwitch, running] using checked.2 other took
          · rw [idle other took] at running
            cases running

def heededAmong (threads : List ThreadId) (life : Life)
    (happening : Happening) : Bool :=
  possibleNow life happening && heededNow threads life happening &&
    threads.contains happening.thread

theorem heeded_of_replay {codec : SettingsCodec} {ec : EcDevice} {threads : List ThreadId}
    {life after : Life} {happenings : List Happening} (idle : life.IdleOutside threads)
    (replayed : Trace.replay (Life.next codec ec) (heededAmong threads) life happenings =
      some after) :
    Trace (Life.next codec ec)
      (fun life happening => happening.Possible life ∧ Heeded life happening)
      life happenings after := by
  have ran : Trace (Life.next codec ec)
      (fun life happening => heededAmong threads life happening = true)
      life happenings after := Trace.of_replay (fun _ _ passed => passed) replayed
  refine ran.strengthen (fun {before happening after} idle passed stepped => ?_)
    (fun {life happening} idle passed => ?_) idle
  · simp only [heededAmong, Bool.and_eq_true, List.contains_iff_mem] at passed
    exact idle.step passed.2 stepped
  · simp only [heededAmong, Bool.and_eq_true] at passed
    exact ⟨possibleNow_sound life happening passed.1.1, heededNow_sound idle passed.1.2⟩

def testHost : SystemInfo := { cpuName := "cpu", osName := "os", motherboard := "N155A" }

def testLife : Life := Life.first Detection.n155a.device (fun _ => 0) none testHost

/-- Scheduling steps without a restart between them. -/
def uninterrupted (events : List (Event ThreadId Job Choice)) : List Happening := events.map .step

def optOutAlone : List (Event ThreadId Job Choice) :=
  Pool.solo 1 optOutRequest (List.replicate 10 default)

def restoreDefaultsAlone : List (Event ThreadId Job Choice) :=
  Pool.solo 1 (.request (.daemonCommand .restoreDefaults)) (List.replicate 18 default)

/-- The first start, without a settings file, and an opt-out. -/
def optOut : List Happening := uninterrupted (Pool.turns 0 19 ++ [.finish 0] ++ optOutAlone)

/-- The defaults are restored, and the opt-out is repeated before the restart. -/
theorem optOut_respected_afterRestart :
    ∃ life : Life, life.optedOut = true ∧ life.pool.world.workerStarted = true ∧
      life.account.spoilt = false ∧ life.Respected ∧ life.Recorded .bincode := by
  have replays : (Trace.replay (Life.next .bincode Detection.n155a.device)
      (heededAmong [0, 1, 2]) testLife
      (optOut ++ uninterrupted (restoreDefaultsAlone ++ optOutAlone) ++
        .restart (fun _ => 0) testHost :: uninterrupted
          (Pool.turns 0 17 ++ [.finish 0] ++ Pool.solo 2 .workerRound [default, default]))).any
        (fun life => life.optedOut && life.pool.world.workerStarted && !life.account.spoilt) =
      true := by
    decide +kernel
  obtain ⟨life, replayed, checked⟩ := (Option.any_eq_true _ _).mp replays
  simp only [Bool.and_eq_true, Bool.not_eq_true'] at checked
  have idle : testLife.IdleOutside [0, 1, 2] := by
    intro thread outside
    exact Pool.put_other _ _ fun same => outside (same ▸ List.mem_cons_self)
  exact ⟨life, checked.1.1, checked.1.2, checked.2,
    optOut_respected (heeded_of_replay idle replayed)⟩

/-- `RestoreDefaults` writes the consent back into the settings file, and the
next start of the daemon takes it from there. -/
theorem optOut_not_respected :
    ¬∀ happenings life, Trace (Life.next .bincode Detection.n155a.device)
      (fun life happening => happening.Possible life) testLife happenings life →
      life.Respected := by
  intro claim
  have replays : (Trace.replay (Life.next .bincode Detection.n155a.device) possibleNow testLife
      (optOut ++ uninterrupted restoreDefaultsAlone ++
        .restart (fun _ => 0) testHost :: uninterrupted
          (Pool.turns 0 20 ++ [.finish 0, .start 2 .workerRound] ++ Pool.turns 2 2))).any
        (fun life => life.optedOut && sending life.pool 2) = true := by
    decide +kernel
  obtain ⟨life, replayed, checked⟩ := (Option.any_eq_true _ _).mp replays
  rw [Bool.and_eq_true] at checked
  obtain ⟨job, rest, running⟩ := sending_iff.mp checked.2
  exact claim _ life (Trace.of_replay possibleNow_sound replayed) checked.1 2 job rest running

end Lecoo.Daemon
