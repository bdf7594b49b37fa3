import Lecoo.Effects.Machine
import Lecoo.Daemon.EndToEnd

namespace Lecoo.Daemon

open Lecoo.Effects Machine Lecoo.Ipc Lecoo.Ec

/-! # The listeners of the Linux service

Four threads listen to the system bus, each to signals of its own, and send events
into one channel to the core.  Nothing keeps the threads in step with each other.
-/

/-- The threads of `run_as_service`; the last one is the thread that called it. -/
inductive Listener where
  | systemdJobs
  | logindSleep
  | upowerMonitor
  | logindShutdown
deriving Repr, DecidableEq

structure JobNew where
  unit : String
  /-- The type of the job, when it can be asked for and is told. -/
  jobType : Option (Option String)
deriving Repr, DecidableEq

/-- What comes over the bus, without arguments where these cannot be read. -/
inductive Signal where
  | jobNew (args : Option JobNew)
  | prepareForSleep (start : Option Bool)
  | onBatteryChanged (onBattery : Option Bool)
  | prepareForShutdown (start : Option Bool)
deriving Repr, DecidableEq

def isSleepUnit (unit : String) : Bool :=
  unit == "suspend.target" || unit == "hibernate.target" || unit == "hybrid-sleep.target" ||
    unit == "suspend-then-hibernate.target"

/-- A job whose type cannot be asked for is taken for one that starts the unit. -/
def JobNew.starts (args : JobNew) : Bool :=
  match args.jobType with
  | some (some jobType) => jobType == "start"
  | some none => false
  | none => true

def JobNew.event (args : JobNew) : Option InternalEvent :=
  if !isSleepUnit args.unit then none
  else if !args.starts then none
  else if args.unit = "suspend.target" then some .systemSleeping
  else some .systemHibernating

namespace Signal

def listener : Signal → Listener
  | .jobNew _ => .systemdJobs
  | .prepareForSleep _ => .logindSleep
  | .onBatteryChanged _ => .upowerMonitor
  | .prepareForShutdown _ => .logindShutdown

/-- What is sent to the core for a signal. -/
def event : Signal → Option InternalEvent
  | .jobNew args => args.bind JobNew.event
  | .prepareForSleep start => start.bind fun start => if !start then some .systemWakingUp else none
  | .onBatteryChanged onBattery => onBattery.map fun onBattery =>
      if onBattery then .chargerDisconnected else .chargerConnected
  | .prepareForShutdown start => start.bind fun start =>
      if start then some .systemShuttingDown else none

/-- The listener returns after the signal. -/
def ends : Signal → Bool
  | .prepareForShutdown (some start) => start
  | _ => false

end Signal

/-- The signals a listener has still to handle and those it has handled, the channel, and
for the record who has sent what and what the core has received. -/
structure Listening where
  pending : Listener → List Signal
  handled : Listener → List Signal
  /-- The listeners that have returned. -/
  ended : Listener → Bool
  channel : List InternalEvent
  sent : List (Listener × InternalEvent)
  received : List InternalEvent
  world : World

def Listening.begun (world : World) : Listening where
  pending _ := []
  handled _ := []
  ended _ := false
  channel := []
  sent := []
  received := []
  world := world

inductive ListenStep where
  | arrive (signal : Signal)
  | handle (listener : Listener)
  | receive (readings : List (UInt64 × EcMemory))

section Machine

variable (codec : SettingsCodec) (ec : EcDevice) (service : ThreadId)

def listenMachine : Machine Listening ListenStep
  | state, .arrive signal => some { state with
      pending := Function.update state.pending signal.listener
        (state.pending signal.listener ++ [signal]) }
  | state, .handle listener =>
      match state.ended listener, state.pending listener with
      | false, signal :: rest => some { state with
          pending := Function.update state.pending listener rest
          handled := Function.update state.handled listener (state.handled listener ++ [signal])
          ended := Function.update state.ended listener signal.ends
          channel := state.channel ++ signal.event.toList
          sent := state.sent ++ signal.event.toList.map (Prod.mk listener) }
      | _, _ => none
  | state, .receive readings =>
      match state.channel with
      | event :: rest => some { state with
          channel := rest
          received := state.received ++ [event]
          world := (undertake ec codec service (.event event) readings state.world).2 }
      | [] => none

end Machine

/-- Every signal is handled whose listener has not returned, and every event is received. -/
def Listening.Idle (state : Listening) : Prop :=
  (∀ listener, state.ended listener = false → state.pending listener = []) ∧ state.channel = []

/-- What the listeners have sent reaches the core once, what each of them sends is what its
signals say, in their order, and only the one for the shutdown returns, which is said once. -/
structure Listening.Relayed (state : Listening) : Prop where
  passed : state.received ++ state.channel = state.sent.map Prod.snd
  inOrder : ∀ listener,
    (state.sent.filter fun sent => sent.1 = listener).map Prod.snd =
      (state.handled listener).filterMap Signal.event
  own : ∀ listener, ∀ signal ∈ state.pending listener ++ state.handled listener,
    signal.listener = listener
  returned : ∀ listener, state.ended listener = true → listener = .logindShutdown
  once : (state.sent.map Prod.snd).count .systemShuttingDown =
    (state.ended .logindShutdown).toNat

theorem Signal.event_shuttingDown (signal : Signal) :
    signal.event.toList.count .systemShuttingDown = signal.ends.toNat := by
  cases signal with
  | jobNew args =>
      cases args with
      | none => rfl
      | some args =>
          simp only [event, Option.bind_some, JobNew.event, ends, Bool.toNat_false]
          repeat' split
          all_goals rfl
  | prepareForSleep start => rcases start with _ | _ | _ <;> rfl
  | onBatteryChanged onBattery => rcases onBattery with _ | _ | _ <;> rfl
  | prepareForShutdown start => rcases start with _ | _ | _ <;> rfl

theorem Signal.ends_listener {signal : Signal} (ends : signal.ends = true) :
    signal.listener = .logindShutdown := by
  cases signal with
  | prepareForShutdown => rfl
  | _ => cases ends

/-- What the LED ring shows after an event; the battery events leave it. -/
def ringOf (ledMode : PowerLedMode) : InternalEvent → Option PowerLedMode
  | .systemShuttingDown | .systemHibernating => some .auto
  | .systemSleeping => some (.animation .sleep)
  | .systemWakingUp => some ledMode
  | .chargerConnected | .chargerDisconnected => none

def concernsRing (event : InternalEvent) : Bool := (ringOf .auto event).isSome

/-- The last of the events that changed the ring. -/
def lastRing (events : List InternalEvent) : Option InternalEvent :=
  (events.filter concernsRing).getLast?

def ringAfter (ledMode ring : PowerLedMode) (events : List InternalEvent) : PowerLedMode :=
  ((lastRing events).bind (ringOf ledMode)).getD ring

theorem ringAfter_snoc (ledMode ring : PowerLedMode) (events : List InternalEvent)
    (event : InternalEvent) :
    ringAfter ledMode ring (events ++ [event]) =
      (ringOf ledMode event).getD (ringAfter ledMode ring events) := by
  cases event <;> simp [ringAfter, lastRing, List.filter_append, concernsRing, ringOf]

theorem notify_settings (measured : Measured) (store : Store) (event : InternalEvent) :
    (store.notify measured event).settings = store.settings := by
  cases event <;> rfl

theorem notify_ring (measured : Measured) (store : Store) (event : InternalEvent) :
    (store.notify measured event).ring =
      (ringOf store.settings.val.ledMode event).getD store.ring := by
  cases event <;> rfl

section Runs

variable {codec : SettingsCodec} {service : ThreadId} {detection : Detection} {store : Store}
  {world : World} {state next final : Listening} {step : ListenStep} {steps : List ListenStep}

/-- The daemon stands for a store with the same settings, whose ring the events received say. -/
def Listening.Keeps (codec : SettingsCodec) (ec : EcDevice) (store : Store) (state : Listening) :
    Prop :=
  ∃ kept, Stands codec ec kept state.world ∧ kept.settings = store.settings ∧
    kept.ring = ringAfter store.settings.val.ledMode store.ring state.received

section Handled

variable {listener : Listener} {signal : Signal} {rest : List Signal}

theorem Listening.Relayed.own_handled (relayed : state.Relayed)
    (pending : state.pending listener = signal :: rest) : signal.listener = listener := by
  refine relayed.own listener signal ?_
  rw [pending]
  exact List.mem_append_left _ List.mem_cons_self

theorem Listening.Relayed.inOrder_handled (relayed : state.Relayed) (other : Listener) :
    ((state.sent ++ signal.event.toList.map (Prod.mk listener)).filter
        fun sent => sent.1 = other).map Prod.snd =
      (Function.update state.handled listener (state.handled listener ++ [signal])
        other).filterMap Signal.event := by
  by_cases same : other = listener
  · subst same
    simp only [Function.update_self, List.filter_append, List.map_append,
      relayed.inOrder other, List.filterMap_append]
    cases event : signal.event <;> simp [event]
  · simp only [Function.update_of_ne same, List.filter_append, List.map_append,
      relayed.inOrder other]
    cases signal.event <;> simp [Ne.symm same]

theorem Listening.Relayed.own_remaining (relayed : state.Relayed)
    (pending : state.pending listener = signal :: rest) (other : Listener) :
    ∀ remaining ∈ Function.update state.pending listener rest other ++
        Function.update state.handled listener (state.handled listener ++ [signal]) other,
      remaining.listener = other := by
  intro remaining member
  by_cases same : other = listener
  · subst same
    simp only [Function.update_self, List.mem_append, List.mem_singleton] at member
    refine relayed.own other remaining ?_
    rw [pending, List.mem_append, List.mem_cons]
    rcases member with later | handled | now
    · exact .inl (.inr later)
    · exact .inr handled
    · exact .inl (.inl now)
  · simp only [Function.update_of_ne same] at member
    exact relayed.own other remaining member

theorem Listening.Relayed.once_handled (relayed : state.Relayed)
    (running : state.ended listener = false) (own : signal.listener = listener) :
    ((state.sent ++ signal.event.toList.map (Prod.mk listener)).map Prod.snd).count
        .systemShuttingDown =
      (Function.update state.ended listener signal.ends .logindShutdown).toNat := by
  have sent := signal.event_shuttingDown
  by_cases last : listener = .logindShutdown
  · subst last
    have none : (state.sent.map Prod.snd).count .systemShuttingDown = 0 := by
      rw [relayed.once, running]
      rfl
    simp [Function.comp_def, none, sent]
  · have goesOn : signal.ends = false := by
      cases ends : signal.ends with
      | false => rfl
      | true => exact absurd (own.symm.trans (Signal.ends_listener ends)) last
    rw [goesOn] at sent
    simp [Function.comp_def, relayed.once, sent, Function.update_of_ne (Ne.symm last)]

end Handled

theorem Listening.Relayed.moves {ec : EcDevice} (relayed : state.Relayed)
    (stepped : listenMachine codec ec service state step = some next) : next.Relayed := by
  cases step with
  | arrive signal =>
      cases stepped
      refine ⟨relayed.passed, relayed.inOrder, fun listener other member => ?_, relayed.returned,
        relayed.once⟩
      by_cases same : listener = signal.listener
      · subst same
        simp only [Function.update_self, List.append_assoc, List.mem_append, List.mem_singleton]
          at member
        rcases member with pending | rfl | handled
        · exact relayed.own _ other (List.mem_append_left _ pending)
        · rfl
        · exact relayed.own _ other (List.mem_append_right _ handled)
      · simp only [Function.update_of_ne same] at member
        exact relayed.own listener other member
  | handle listener =>
      simp only [listenMachine] at stepped
      split at stepped
      · rename_i signal rest running pending
        cases stepped
        have own : signal.listener = listener := relayed.own_handled pending
        refine ⟨?_, relayed.inOrder_handled, relayed.own_remaining pending,
          fun other ended => ?_, relayed.once_handled running own⟩
        · simp [← relayed.passed, Function.comp_def]
        · by_cases same : other = listener
          · subst same
            simp only [Function.update_self] at ended
            exact own.symm.trans (Signal.ends_listener ended)
          · simp only [Function.update_of_ne same] at ended
            exact relayed.returned other ended
      · cases stepped
  | receive readings =>
      simp only [listenMachine] at stepped
      split at stepped
      · rename_i event rest waiting
        cases stepped
        refine ⟨?_, relayed.inOrder, relayed.own, relayed.returned, relayed.once⟩
        rw [← relayed.passed, waiting, List.append_assoc]
        rfl
      · cases stepped

theorem Listening.Keeps.moves (board : detection.profile = .n155a)
    (keeps : state.Keeps codec detection.device store)
    (stepped : listenMachine codec detection.device service state step = some next) :
    next.Keeps codec detection.device store := by
  cases step with
  | arrive signal =>
      cases stepped
      exact keeps
  | handle listener =>
      simp only [listenMachine] at stepped
      split at stepped
      · cases stepped
        exact keeps
      · cases stepped
  | receive readings =>
      simp only [listenMachine] at stepped
      split at stepped
      · rename_i event rest waiting
        cases stepped
        obtain ⟨kept, stands, settings, ring⟩ := keeps
        obtain ⟨measured, _, reached⟩ :
            ∃ measured, _ ∧ Stands codec detection.device (kept.notify measured event)
              (undertake detection.device codec service (.event event) readings state.world).2 :=
          undertake_stands board stands (.event event) readings
        refine ⟨_, reached, (notify_settings measured kept event).trans settings, ?_⟩
        rw [notify_ring, ringAfter_snoc, settings, ring]
      · cases stepped

/-- Events that do not concern the ring, or a wake-up after those that do. -/
theorem ringAfter_restored_iff {ledMode : PowerLedMode} (lit : ledMode ≠ .auto)
    (awake : ledMode ≠ .animation .sleep) (events : List InternalEvent) :
    ringAfter ledMode ledMode events = ledMode ↔
      ∀ event ∈ lastRing events, event = .systemWakingUp := by
  cases last : lastRing events with
  | none => simp [ringAfter, last]
  | some event =>
      have concerns : concernsRing event = true :=
        (List.mem_filter.mp (List.mem_of_getLast? last)).2
      cases event with
      | chargerConnected | chargerDisconnected => cases concerns
      | _ => simp [ringAfter, last, ringOf, Ne.symm lit, Ne.symm awake]

theorem Listening.Relayed.settled (relayed : state.Relayed) (idle : state.Idle) :
    state.received = state.sent.map Prod.snd := by
  rw [← relayed.passed, idle.2, List.append_nil]

/-- The listeners lose nothing, repeat nothing and keep the order of their own signals, but not
each other's: the ring shows the setting again exactly when the wake-up was the last to be
received of the events that concern it. -/
theorem listeners_restore_iff (board : detection.profile = .n155a)
    (stands : Stands codec detection.device store world)
    (shown : store.ring = store.settings.val.ledMode) (lit : store.settings.val.ledMode ≠ .auto)
    (awake : store.settings.val.ledMode ≠ .animation .sleep)
    (ran : Machine.Run (listenMachine codec detection.device service) (.begun world) steps final) :
    (final.Relayed ∧ (final.Idle → final.received = final.sent.map Prod.snd)) ∧
    ∃ kept, Stands codec detection.device kept final.world ∧ kept.settings = store.settings ∧
      (kept.ring = store.settings.val.ledMode ↔
        ∀ event ∈ lastRing final.received, event = .systemWakingUp) := by
  have relayed : final.Relayed := by
    refine Trace.invariant (fun relayed _ stepped => relayed.moves stepped) ran ?_
    exact ⟨rfl, fun _ => rfl, fun _ _ impossible => (by cases impossible),
      fun _ impossible => (by cases impossible), rfl⟩
  have keeps : final.Keeps codec detection.device store := by
    refine Trace.invariant (fun keeps _ stepped => keeps.moves board stepped) ran ?_
    exact ⟨store, stands, rfl, rfl⟩
  obtain ⟨kept, stands, settings, ring⟩ := keeps
  refine ⟨⟨relayed, relayed.settled⟩, kept, stands, settings, ?_⟩
  rw [ring, shown]
  exact ringAfter_restored_iff lit awake final.received

/-- The wake-up is handled before the job of the sleep it ends. -/
def overtaken : List ListenStep :=
  [.arrive (.jobNew (some ⟨"suspend.target", some (some "start")⟩)),
    .arrive (.prepareForSleep (some false)),
    .handle .logindSleep, .handle .systemdJobs, .receive [], .receive []]

theorem overtaken_received (ec : EcDevice) (world : World) :
    ∃ final, (listenMachine .bincode ec 2).replay (.begun world) overtaken = some final ∧
      final.received = [.systemWakingUp, .systemSleeping] :=
  ⟨_, rfl, rfl⟩

/-- Settings with the ring at a level of its own. -/
def litSettings : Applicable :=
  (Applicable.default 0).set (.ledMode (.custom 7)) trivial

/-- After a night with `overtaken` in it the ring is left asleep. -/
theorem listeners_restore_iff_overtaken :
    let ec := Detection.n155a.device
    let started := (Program.run (driftingSemantics ec .bincode 0)
      (startUp ec ⟨"cpu", "os", "board"⟩).run []
      (World.fresh (fun _ => 0x77) (Applicable.file .bincode (some litSettings)))).2
    ∃ final kept, Machine.Run (listenMachine .bincode ec 2) (.begun started) overtaken final ∧
      final.Idle ∧ final.Relayed ∧ Stands .bincode ec kept final.world ∧
      kept.settings = litSettings ∧ kept.ring ≠ .custom 7 := by
  intro ec started
  obtain ⟨-, clock, stands⟩ :
      _ ∧ ∃ clock, Stands .bincode ec (.resume (some litSettings) clock) started :=
    run_startUp rfl _ _ (some litSettings)
  obtain ⟨final, replayed, received⟩ := overtaken_received ec started
  have ran := Machine.run_of_replay replayed
  obtain ⟨⟨relayed, _⟩, kept, stands, settings, restored⟩ :=
    listeners_restore_iff rfl stands rfl (show PowerLedMode.custom 7 ≠ .auto by decide)
      (show PowerLedMode.custom 7 ≠ .animation .sleep by decide) ran
  have idle : final.Idle := by
    cases replayed
    refine ⟨fun listener _ => ?_, rfl⟩
    cases listener <;> rfl
  refine ⟨final, kept, ran, idle, relayed, stands, settings, fun same => ?_⟩
  have last := restored.mp same .systemSleeping
  rw [received] at last
  exact absurd (last rfl) (by decide)

end Runs

end Lecoo.Daemon
