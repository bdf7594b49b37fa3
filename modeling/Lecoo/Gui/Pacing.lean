import Lecoo.Gui.Poller

namespace Lecoo.Gui

open Lecoo.Effects Lecoo.Ipc

/-! # The pace of the poller -/

/-- What the poller has done so far, and where it stands between two samples. -/
structure Pace where
  samples : Nat := 0
  requests : Nat := 0
  failures : Nat := 0
  elapsed : Nat := 0
  woken : Nat := 0
  /-- How many more requests it makes for the sample that it is taking. -/
  quota : Nat := 0
  /-- It has found the flag set, and not been woken since. -/
  parked : Bool := false
  /-- The longest interval it has loaded. -/
  interval : Nat := 0
  /-- From when the sleep counts that it is about to go into. -/
  started : Option Nat := none
  /-- How long its sleeps were meant to be. -/
  sleeps : List Nat := []

/-- The poller may ask for the next sample. -/
def Pace.Ready (pace : Pace) : Prop := pace.samples ≤ pace.failures + pace.elapsed + pace.woken

/-- A sample, which is at most three requests, comes after a look at the flag, and after a
failure or a sleep; a sleep takes half a second, and no longer than the checks of the flag
or the interval. -/
def pace : Monitor pollerOps Pace where
  permits
    | pace, .request req => 0 < pace.quota ∧ (req = .getTemperatures → pace.Ready)
    | pace, .select deadline => ∃ start ∈ pace.started, start + 500 ≤ deadline ∧
        deadline ≤ start + max Poller.pausedCheckMs pace.interval
    | _, .storePaused _ | _, .storeInterval _ | _, .notifyOne => False
    | _, _ => True
  next
    | pace, .request req, _ => { pace with
        requests := pace.requests + 1, quota := pace.quota - 1
        samples := if req = .getTemperatures then pace.samples + 1 else pace.samples }
    | pace, .storeError _, _ => { pace with failures := pace.failures + 1, quota := 0 }
    | pace, .loadPaused, paused => { pace with quota := if paused then 0 else 3, parked := paused }
    | pace, .loadInterval, ms => { pace with interval := max pace.interval (max ms 500) }
    | pace, .now, start => { pace with started := some start }
    | pace, .select deadline, wake => { pace with
        elapsed := if wake = .elapsed then pace.elapsed + 1 else pace.elapsed
        woken := if wake = .elapsed then pace.woken else pace.woken + 1
        parked := false, started := none
        sleeps := pace.sleeps ++ (pace.started.map (deadline - ·)).toList }
    | pace, _, _ => pace

/-- The poller may ask for the next sample once it has slept or failed. -/
def Pace.Owing (pace : Pace) : Prop :=
  pace.samples ≤ pace.failures + pace.elapsed + pace.woken + 1

section Heeding

variable {debug : IpcResponse → String} {now : Pace}

theorem sleepOrWake_heeds {ms : Nat} (long : 500 ≤ ms)
    (short : ms ≤ max Poller.pausedCheckMs now.interval) (owing : now.Owing) :
    (Poller.sleepOrWake ms).Heeds pace (fun last _ => last.Ready) now := by
  refine ⟨trivial, fun start => ⟨⟨start, rfl, Nat.add_le_add_left long start,
    Nat.add_le_add_left short start⟩, fun wake => ?_⟩⟩
  unfold Pace.Owing at owing
  cases wake with
  | elapsed =>
      change now.samples ≤ now.failures + (now.elapsed + 1) + now.woken
      omega
  | notified =>
      change now.samples ≤ now.failures + now.elapsed + (now.woken + 1)
      omega

/-- A sample is one request for the temperatures, whatever comes of it. -/
theorem fetchTelemetry_heeds (quota : now.quota = 3) (ready : now.Ready) :
    Fallible.Heeds pace (fun last _ => last.Owing) (IpcClient.fetchTelemetry debug) now := by
  have owing : now.samples + 1 ≤ now.failures + now.elapsed + now.woken + 1 :=
    Nat.succ_le_succ ready
  have left : 0 < now.quota - 1 ∧ 0 < now.quota - 1 - 1 := by omega
  refine ⟨⟨by omega, fun _ => ready⟩, fun temps => ?_⟩
  cases temps with
  | error _ => exact owing
  | ok res =>
      cases res with
      | temp =>
          refine ⟨⟨left.1, by simp⟩, fun fans => ?_⟩
          cases fans with
          | error _ => exact owing
          | ok res =>
              cases res with
              | fanRPM =>
                  refine ⟨⟨left.2, by simp⟩, fun battery => ?_⟩
                  cases battery with
                  | error _ => exact owing
                  | ok _ => exact ⟨trivial, fun _ => ⟨trivial, fun _ => owing⟩⟩
              | _ => exact owing
      | _ => exact owing

theorem turn_heeds (place : Poller.Turn) (ready : now.Ready) :
    (Poller.turn debug place).Heeds pace (fun last _ => last.Ready) now := by
  have sleeps : ∀ {now : Pace} {ms : Nat} (place : Poller.Turn), 500 ≤ ms →
      ms ≤ max Poller.pausedCheckMs now.interval → now.Owing →
      (Poller.sleepOrWake ms >>= fun _ => pure place : GuiTask Poller.Turn).Heeds pace
        (fun last _ => last.Ready) now :=
    fun place long short owing => (sleepOrWake_heeds long short owing).bind fun _ _ ready => ready
  cases place with
  | connecting =>
      refine ⟨trivial, fun _ => ⟨trivial, fun _ => ⟨trivial, fun connected => ?_⟩⟩⟩
      cases connected with
      | ok daemonVersion => exact ⟨trivial, fun _ => ⟨trivial, fun _ => ready⟩⟩
      | error _ =>
          refine ⟨trivial, fun _ => ⟨trivial, fun _ => ⟨trivial, fun _ => ?_⟩⟩⟩
          refine sleeps .connecting (by decide) (Nat.le_trans (by decide) (Nat.le_max_left _ _)) ?_
          change now.samples ≤ now.failures + 1 + now.elapsed + now.woken + 1
          unfold Pace.Ready at ready
          omega
  | polling =>
      refine ⟨trivial, fun paused => ?_⟩
      cases paused with
      | true => exact sleeps .polling (by decide) (Nat.le_max_left _ _) (Nat.le_succ_of_le ready)
      | false =>
          have looked : ({ now with quota := 3, parked := false } : Pace).quota = 3 := rfl
          refine (fetchTelemetry_heeds looked ready).bind fun last outcome owing => ?_
          cases outcome with
          | ok sample =>
              refine ⟨trivial, fun _ => ⟨trivial, fun _ => ⟨trivial, fun _ => ⟨trivial, ?_⟩⟩⟩⟩
              intro intervalMs
              refine sleeps .polling (Nat.le_max_right _ _) ?_ owing
              exact Nat.le_trans (Nat.le_max_right _ _) (Nat.le_max_right _ _)
          | error message =>
              refine ⟨trivial, fun _ => ?_⟩
              change last.samples ≤ last.failures + 1 + last.elapsed + last.woken
              unfold Pace.Owing at owing
              omega

theorem run_heeds (turns : Nat) (place : Poller.Turn) (ready : now.Ready) :
    (Poller.run debug turns place).Heeds pace (fun _ _ => True) now := by
  induction turns generalizing place now with
  | zero => trivial
  | succ turns ih => exact (turn_heeds place ready).bind fun _ place ready => ih place ready

end Heeding

/-- What the pace says about the clock and the signal. -/
structure InPace (backend : Backend) (pace : Pace) : Prop where
  paced : pace.samples ≤ 1 + pace.failures + pace.elapsed + pace.woken
  timed : 500 * pace.elapsed ≤ backend.now
  started : ∀ start ∈ pace.started, 500 * pace.elapsed ≤ start ∧ start ≤ backend.now
  quota : pace.quota ≤ 3
  noticed : pace.woken + backend.signalled.toNat ≤ backend.notices
  interval : backend.pollIntervalMs ≤ 60000
  loaded : pace.interval ≤ 60000
  slept : ∀ ms ∈ pace.sleeps, 500 ≤ ms ∧ ms ≤ 60000

theorem InPace.after {backend : Backend} {now : Pace} (inPace : InPace backend now) (ms : Nat) :
    InPace (backend.after ms) now where
  paced := inPace.paced
  timed := Nat.le_add_right_of_le inPace.timed
  started start member :=
    ⟨(inPace.started start member).1, Nat.le_add_right_of_le (inPace.started start member).2⟩
  quota := inPace.quota
  noticed := inPace.noticed
  interval := inPace.interval
  loaded := inPace.loaded
  slept := inPace.slept

theorem InPace.own {backend : Backend} {now : Pace} (inPace : InPace backend now)
    (operation : PollerOp) (circumstance : Circumstance) (permits : pace.permits now operation) :
    InPace (answer operation circumstance backend).2
      (pace.next now operation (answer operation circumstance backend).1) := by
  obtain ⟨paced, timed, started, quota, noticed, interval, loaded, slept⟩ := inPace
  cases operation with
  | request req =>
      refine ⟨?_, timed, started, Nat.le_trans (Nat.sub_le _ _) quota, noticed, interval, loaded,
        slept⟩
      by_cases temperatures : req = .getTemperatures
      · have ready := permits.2 temperatures
        unfold Pace.Ready at ready
        simp only [pace, if_pos temperatures]
        omega
      · simp only [pace, if_neg temperatures]
        exact paced
  | storeError message =>
      have failed : now.samples ≤ 1 + (now.failures + 1) + now.elapsed + now.woken := by omega
      exact ⟨failed, timed, started, Nat.zero_le 3, noticed, interval, loaded, slept⟩
  | loadPaused =>
      refine ⟨paced, timed, started, ?_, noticed, interval, loaded, slept⟩
      change (if backend.pollPaused then 0 else 3) ≤ 3
      split <;> decide
  | loadInterval =>
      refine ⟨paced, timed, started, quota, noticed, interval, ?_, slept⟩
      change max now.interval (max backend.pollIntervalMs 500) ≤ 60000
      omega
  | now =>
      refine ⟨paced, timed, ?_, quota, noticed, interval, loaded, slept⟩
      intro start member
      cases member
      exact ⟨timed, Nat.le_refl _⟩
  | select deadline =>
      obtain ⟨start, member, long, short⟩ := permits
      obtain ⟨early, _⟩ := started start member
      have meant : ∀ ms ∈ now.sleeps ++ (now.started.map (deadline - ·)).toList,
          500 ≤ ms ∧ ms ≤ 60000 := by
        intro ms added
        rcases List.mem_append.mp added with earlier | last
        · exact slept ms earlier
        · rw [Option.mem_def.mp member] at last
          have same : ms = deadline - start := List.mem_singleton.mp last
          unfold Poller.pausedCheckMs at short
          omega
      by_cases wakes : backend.signalled = true ∧
          (circumstance.noticed = true ∨ backend.now < deadline)
      · simp only [answer, if_pos wakes, pace, reduceCtorEq, if_false]
        rw [wakes.1] at noticed
        refine ⟨?_, timed, fun _ impossible => (by cases impossible), quota, noticed, interval,
          loaded, meant⟩
        change now.samples ≤ 1 + now.failures + now.elapsed + (now.woken + 1)
        omega
      · simp only [answer, if_neg wakes, pace, if_true]
        refine ⟨?_, ?_, fun _ impossible => (by cases impossible), quota, noticed, interval,
          loaded, meant⟩
        · change now.samples ≤ 1 + now.failures + (now.elapsed + 1) + now.woken
          omega
        · change 500 * (now.elapsed + 1) ≤ max backend.now deadline
          omega
  | storePaused | storeInterval | notifyOne => cases permits
  | _ => exact ⟨paced, timed, started, quota, noticed, interval, loaded, slept⟩

theorem InPace.other {backend : Backend} {now : Pace} (inPace : InPace backend now)
    {operation : PollerOp} (circumstance : Circumstance) (control : operation.Control) :
    InPace (answer operation circumstance backend).2 now := by
  obtain ⟨paced, timed, started, quota, noticed, interval, loaded, slept⟩ := inPace
  cases operation with
  | notifyOne =>
      refine ⟨paced, timed, started, quota, ?_, interval, loaded, slept⟩
      change now.woken + 1 ≤ backend.notices + 1
      omega
  | storePaused => exact ⟨paced, timed, started, quota, noticed, interval, loaded, slept⟩
  | storeInterval => exact ⟨paced, timed, started, quota, noticed, control, loaded, slept⟩
  | _ => cases control

abbrev Followed (pool : GuiPool Pace) : Prop :=
  Watched pace .poller PollerOp.Control InPace pool

variable {debug : IpcResponse → String} {allowed : GuiPool Pace → GuiEvent → Prop} {turns : Nat}
  {before middle after : GuiPool Pace} {events later : List GuiEvent}

theorem followed_launched : Followed (launched debug turns {}) := by
  refine watched_launched ⟨Nat.zero_le _, Nat.zero_le _, ?_, Nat.zero_le _, Nat.le_refl 0,
    (by decide : 3000 ≤ 60000), Nat.zero_le _, ?_⟩ (run_heeds turns .connecting (Nat.le_refl 0))
  · intro start impossible
    cases impossible
  · intro ms impossible
    cases impossible

theorem followed_run (ran : GuiRun pace debug allowed before events after)
    (initially : Followed before) : Followed after :=
  watched_run (fun inPace ms => inPace.after ms)
    (fun _ _ inPace permits => inPace.own _ _ permits)
    (fun inPace circumstance control => inPace.other circumstance control) ran initially

/-- Apart from the first sample, one that follows a failure, and one that a command asked
for by waking the poller, no sample comes sooner than half a second after the last one.
Whatever the webview sends for an interval, no sleep is longer than a minute. -/
theorem poller_paces_samples (ran : GuiRun pace debug allowed (launched debug turns {}) events after) :
    after.world.2.samples ≤
        1 + after.world.2.failures + after.world.1.notices + after.world.1.now / 500 ∧
      ∀ ms ∈ after.world.2.sleeps, 500 ≤ ms ∧ ms ≤ 60000 := by
  have inPace := (followed_run ran followed_launched).holds
  have paced := inPace.paced
  have timed := inPace.timed
  have noticed := inPace.noticed
  exact ⟨by omega, inPace.slept⟩

/-- The window is closed and shown again while the poller, which has just connected, looks
at the flag. -/
def closed : List GuiEvent :=
  List.replicate 5 (.act .poller { connects := .ok (0, 4) }) ++
    Pool.solo (.command 0) (.command .closeRequested) [default] ++ Pool.turns .poller 2

def shown : List GuiEvent :=
  [.start (.command 1) (.command .bringWindowToFront), .act (.command 1) default]

/-- It takes a sample as soon as it is woken, and the next one after the interval. -/
def sampled : List GuiEvent :=
  let poller (responds : IpcResponse) : GuiEvent := .act .poller { responds := .ok responds }
  [.act (.command 1) default, .act .poller default, .act .poller default,
    poller (.temp 50 40), poller (.fanRPM 2000 1800), poller (.chargeLimit 0 0 80)] ++
  Pool.turns .poller 9 ++ [poller (.temp 51 40)]

theorem poller_paces_samples_shown : ∃ reached, replayed pace 5 {} (closed ++ shown ++ sampled) = some reached ∧
    reached.world.2.samples = 2 ∧ reached.world.1.now = 3000 ∧
    2 ≤ 1 + reached.world.2.failures + reached.world.1.notices + reached.world.1.now / 500 ∧
    ∀ ms ∈ reached.world.2.sleeps, 500 ≤ ms ∧ ms ≤ 60000 := by
  have seen : ((replayed pace 5 {} (closed ++ shown ++ sampled)).map fun pool =>
      (pool.world.2.samples, pool.world.1.now)) = some (2, 3000) := by decide +kernel
  obtain ⟨reached, ran, seen⟩ := Option.map_eq_some_iff.mp seen
  obtain ⟨samples, now⟩ := Prod.mk.inj seen
  have paced := poller_paces_samples (Pool.run_of_replay commandedNow_sound ran)
  rw [samples] at paced
  exact ⟨reached, ran, samples, now, paced⟩

/-- In a run in which the flag stays set, every further request is one the poller still had
to make for the sample it was taking; when it was not taking one, there is none. -/
theorem poller_falls_silent
    (ran : GuiRun pace debug allowed (launched debug turns {}) events middle)
    (paused : GuiRun pace debug (fun pool _ => pool.world.1.pollPaused = true) middle later after) :
    after.world.2.requests ≤ middle.world.2.requests + middle.world.2.quota ∧
      middle.world.2.quota ≤ 3 := by
  have followed := followed_run ran followed_launched
  have limited : Watched pace .poller PollerOp.Control
      (fun _ now => now.requests + now.quota ≤
        middle.world.2.requests + middle.world.2.quota) after := by
    refine watched_run (fun bounded _ => bounded) ?_ (fun bounded _ _ => bounded) paused
      ⟨Nat.le_refl _, followed.heeds, followed.uses⟩
    intro pool circumstance backend now operation set same bounded permits
    subst same
    cases operation with
    | request req =>
        have left := permits.1
        change now.requests + 1 + (now.quota - 1) ≤ _
        omega
    | loadPaused =>
        change now.requests + (if pool.world.1.pollPaused then 0 else 3) ≤ _
        rw [set, if_pos rfl]
        omega
    | storeError message =>
        change now.requests + 0 ≤ _
        omega
    | storePaused | storeInterval | notifyOne => cases permits
    | _ => exact bounded
  exact ⟨Nat.le_of_add_right_le limited.holds, followed.holds.quota⟩

/-- The window is closed when the poller has found the flag clear and takes a sample. -/
def closedAmid : List GuiEvent :=
  List.replicate 6 (.act .poller { connects := .ok (0, 4) }) ++
    Pool.solo (.command 0) (.command .closeRequested) [default]

/-- The sample is taken; after it the poller only looks at the flag. -/
def unseen : List GuiEvent :=
  let poller (responds : IpcResponse) : GuiEvent := .act .poller { responds := .ok responds }
  [poller (.temp 50 40), poller (.fanRPM 2000 1800), poller (.chargeLimit 0 0 80)] ++
    Pool.turns .poller 17

def pausedNow (pool : GuiPool Pace) (event : GuiEvent) : Bool :=
  commandedNow pool event && pool.world.1.pollPaused

theorem poller_falls_silent_unseen : ∃ middle reached, replayed pace 5 {} closedAmid = some middle ∧
    middle.replay (GuiJob.task fun _ => "") (pace.watch .poller fun _ _ => backendSemantics)
      pausedNow unseen = some reached ∧
    middle.world.2.quota = 3 ∧ reached.world.1.now = 18000 ∧
    reached.world.2.requests ≤ middle.world.2.requests + 3 := by
  have seen : ((replayed pace 5 {} closedAmid).bind fun middle =>
      (middle.replay (GuiJob.task fun _ => "") (pace.watch .poller fun _ _ => backendSemantics)
        pausedNow unseen).map fun pool => (middle.world.2.quota, pool.world.1.now)) =
      some (3, 18000) := by decide +kernel
  obtain ⟨middle, ran, seen⟩ := Option.bind_eq_some_iff.mp seen
  obtain ⟨reached, paused, seen⟩ := Option.map_eq_some_iff.mp seen
  obtain ⟨quota, now⟩ := Prod.mk.inj seen
  have sound : ∀ pool event, pausedNow pool event = true →
      Commanded pool event ∧ pool.world.1.pollPaused = true := by
    intro pool event passed
    obtain ⟨commanded, set⟩ := Bool.and_eq_true_iff.mp passed
    exact ⟨(commandedNow_sound pool event commanded).1, set⟩
  have silent := (poller_falls_silent (Pool.run_of_replay commandedNow_sound ran)
    (Pool.run_of_replay sound paused)).1
  rw [quota] at silent
  exact ⟨middle, reached, ran, paused, quota, now, silent⟩

/-- Wherever a command clears the flag, it gives the signal next. -/
def Resumes : GuiTask Unit → Prop
  | .done _ => True
  | .perform operation next => ∀ reply,
      (operation = .storePaused false → ∃ rest, next reply = .perform .notifyOne rest) ∧
        Resumes (next reply)

theorem Command.task_resumes (command : Command) : Resumes command.task := by
  have signals : ∀ {operation : PollerOp} {next : pollerOps.Reply operation → GuiTask Unit},
      operation ≠ .storePaused false → (∀ reply, Resumes (next reply)) →
      Resumes (.perform operation next) :=
    fun other resumes reply => ⟨fun same => absurd same other, resumes reply⟩
  cases command with
  | setPollPaused paused =>
      cases paused with
      | true => exact signals (by decide) fun _ => trivial
      | false => exact fun _ => ⟨fun _ => ⟨_, rfl⟩, signals (by decide) fun _ => trivial⟩
  | setPollInterval => exact signals (by simp) fun _ => signals (by decide) fun _ => trivial
  | reconnectNow => exact signals (by decide) fun _ => trivial
  | bringWindowToFront => exact fun _ => ⟨fun _ => ⟨_, rfl⟩, signals (by decide) fun _ => trivial⟩
  | closeRequested => exact signals (by decide) fun _ => trivial

/-- The signal is given, or a command is about to give it. -/
def Woken (pool : GuiPool Pace) : Prop :=
  pool.world.1.signalled = true ∨ ∃ thread activity rest, thread ≠ .poller ∧
    pool.thread thread = some activity ∧ activity.todo = .perform .notifyOne rest

/-- A thread that is not about to give the signal may move on. -/
theorem Woken.put {pool : GuiPool Pace} {thread : Party} (woken : Woken pool)
    (activity : Option (Activity pollerOps GuiJob Unit)) (world : Backend × Pace)
    (kept : pool.world.1.signalled = true → world.1.signalled = true)
    (apart : ∀ activity rest, thread ≠ .poller → pool.thread thread = some activity →
      activity.todo ≠ .perform .notifyOne rest) :
    Woken { pool.put thread activity with world := world } := by
  rcases woken with given | ⟨other, busy, rest, different, running, next⟩
  · exact .inl (kept given)
  · have elsewhere : other ≠ thread := by
      rintro rfl
      exact apart busy rest different running next
    exact .inr ⟨other, busy, rest, different, (Pool.put_other pool _ elsewhere).trans running, next⟩

/-- A poller that found the flag set does not sleep on when the flag is clear. -/
structure Wakeful (pool : GuiPool Pace) : Prop where
  resumes : pool.Each fun _ thread activity => thread ≠ .poller → Resumes activity.todo
  woken : pool.world.2.parked = true → pool.world.1.pollPaused = false → Woken pool

/-- The poller is parked by nothing but finding the flag set. -/
theorem own_parked {backend : Backend} {now : Pace} {operation : PollerOp}
    (circumstance : Circumstance) (permits : pace.permits now operation)
    (parked : (pace.next now operation (answer operation circumstance backend).1).parked = true)
    (clear : (answer operation circumstance backend).2.pollPaused = false) :
    now.parked = true ∧ backend.pollPaused = false ∧
      (answer operation circumstance backend).2.signalled = backend.signalled := by
  cases operation with
  | loadPaused => exact absurd (clear.symm.trans parked) (by decide)
  | select deadline => cases parked
  | storePaused | storeInterval | notifyOne => cases permits
  | _ => exact ⟨parked, clear, rfl⟩

theorem wakeful_step {event : GuiEvent} (followed : Followed before) (wakeful : Wakeful before)
    (permitted : Commanded before event)
    (stepped : before.next (GuiJob.task debug)
      (pace.watch .poller fun _ _ => backendSemantics) event = some after) : Wakeful after := by
  cases event with
  | start thread job =>
      obtain ⟨free, rfl⟩ := Pool.next_start.mp stepped
      obtain ⟨other, command, rfl⟩ := permitted
      refine ⟨?_, fun parked clear => ?_⟩
      · exact wakeful.resumes.move (fun _ => command.task_resumes) fun _ _ _ resumes => resumes
      · refine (wakeful.woken parked clear).put _ before.world id ?_
        intro activity rest _ running
        rw [free] at running
        cases running
  | act thread circumstance =>
      obtain ⟨job, operation, rest, running, rfl⟩ := Pool.next_act.mp stepped
      by_cases own : thread = .poller
      · subst own
        have permits := (followed.heeds _ running).1
        refine ⟨wakeful.resumes.move (fun different => absurd rfl different) fun _ _ _ resumes => resumes,
          fun parked clear => ?_⟩
        simp only [Monitor.watch, if_true] at parked clear
        obtain ⟨was, still, kept⟩ := own_parked circumstance permits parked clear
        exact (wakeful.woken was still).put _ _ kept.trans fun _ _ different => absurd rfl different
      · have control := (followed.uses thread _ own running).1
        have resumes := wakeful.resumes thread _ running own
        refine ⟨wakeful.resumes.move (fun _ => (resumes _).2) fun _ _ _ resumes => resumes,
          fun parked clear => ?_⟩
        simp only [Monitor.watch, if_neg own] at parked clear
        cases operation with
        | storePaused value =>
            cases clear
            obtain ⟨later, next⟩ := (resumes ()).1 rfl
            exact .inr ⟨thread, _, later, own, Pool.put_same _ _ _, next⟩
        | storeInterval ms =>
            refine (wakeful.woken parked clear).put _ _ id ?_
            intro activity later _ found next
            rw [running] at found
            cases found
            cases next
        | notifyOne => exact .inl rfl
        | _ => cases control
  | finish thread =>
      obtain ⟨job, value, ended, rfl⟩ := Pool.next_finish.mp stepped
      refine ⟨wakeful.resumes.finish, fun parked clear => ?_⟩
      refine (wakeful.woken parked clear).put _ before.world id ?_
      intro activity rest _ running next
      rw [ended] at running
      cases running
      cases next

theorem followed_wakeful_step {event : GuiEvent} (both : Followed before ∧ Wakeful before)
    (permitted : Commanded before event ∧ allowed before event)
    (stepped : before.next (GuiJob.task debug)
      (pace.watch .poller fun _ _ => backendSemantics) event = some after) :
    Followed after ∧ Wakeful after :=
  ⟨followed_run (.cons permitted stepped .nil) both.1,
    wakeful_step both.1 both.2 permitted.1 stepped⟩

/-- No wake-up is lost: a poller that found the flag set, and has not woken since, has the
signal waiting for it once the flag is clear, or a command is about to give it. -/
theorem poller_is_woken
    (ran : GuiRun pace debug allowed (launched debug turns {}) events after)
    (parked : after.world.2.parked = true) (resumed : after.world.1.pollPaused = false) :
    Woken after := by
  have initially : Wakeful (launched debug turns {}) := by
    refine ⟨fun thread activity running different => ?_, fun parked => by cases parked⟩
    rw [launched, Pool.put_other _ _ different] at running
    cases running
  exact (ran.invariant followed_wakeful_step ⟨followed_launched, initially⟩).2.woken parked resumed

/-- The tray has cleared the flag, and has yet to give the signal. -/
theorem poller_is_woken_shown : ∃ reached, replayed pace 5 {} (closed ++ shown) = some reached ∧
    reached.world.2.parked = true ∧ reached.world.1.signalled = false ∧ Woken reached := by
  have seen : ((replayed pace 5 {} (closed ++ shown)).map fun pool =>
      (pool.world.2.parked, pool.world.1.pollPaused, pool.world.1.signalled)) =
      some (true, false, false) := by decide +kernel
  obtain ⟨reached, ran, seen⟩ := Option.map_eq_some_iff.mp seen
  obtain ⟨parked, seen⟩ := Prod.mk.inj seen
  obtain ⟨resumed, signalled⟩ := Prod.mk.inj seen
  exact ⟨reached, ran, parked, signalled,
    poller_is_woken (Pool.run_of_replay commandedNow_sound ran) parked resumed⟩

end Lecoo.Gui
