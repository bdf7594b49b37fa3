import Lecoo.Effects.Machine
import Lecoo.Daemon.Handlers

namespace Lecoo.Daemon

open Lecoo.Effects Machine

/-! # The start of the Windows service -/

/-- What goes through the channel to the core. -/
inductive ServiceMessage where
  | internal (event : InternalEvent)
  | inited
deriving Repr, DecidableEq

def ServiceMessage.event? : ServiceMessage → Option InternalEvent
  | .internal event => some event
  | .inited => none

inductive PowerEventParam where
  | powerStatusChange
  | suspend
  | resumeAutomatic
  | resumeSuspend
  | other
deriving Repr, DecidableEq

inductive ServiceControl where
  | stop
  | shutdown
  | interrogate
  | powerEvent (power : PowerEventParam)
  | other
deriving Repr, DecidableEq

inductive ServiceControlHandlerResult where
  | noError
  | notImplemented
deriving Repr, DecidableEq

/-- What the control handler sends to the core, and its result.  The line status is the
answer of `GetSystemPowerStatus`, when it succeeds. -/
def controlHandler (acLineStatus : Option UInt8) :
    ServiceControl → Option InternalEvent × ServiceControlHandlerResult
  | .stop | .shutdown => (some .systemShuttingDown, .noError)
  | .interrogate => (none, .noError)
  | .powerEvent power =>
      (match power with
        | .powerStatusChange => acLineStatus.map fun status =>
            if status = 1 then .chargerConnected else .chargerDisconnected
        | .suspend => some .systemHibernating
        | .resumeAutomatic | .resumeSuspend => some .systemWakingUp
        | .other => none, .noError)
  | .other => (none, .notImplemented)

/-- How far `my_service_main` has come. -/
inductive ServicePhase where
  | starting
  | registered
  | running
  | announced
  | stopped
deriving Repr, DecidableEq

def ServicePhase.initedSent : ServicePhase → Bool
  | .announced | .stopped => true
  | _ => false

/-- How far `main` has come: at the first `recv`, before the hand-over, or behind it. -/
inductive MainPhase where
  | waiting
  | initialising
  | serving
deriving Repr, DecidableEq

/-- The threads, the channel between them, and for the record what the handler has sent and
what `process_service` has received. -/
structure ServiceStart where
  service : ServicePhase
  core : MainPhase
  channel : List ServiceMessage
  stopRequested : Bool
  sent : List InternalEvent
  received : List ServiceMessage
deriving Repr, DecidableEq

def ServiceStart.begun : ServiceStart where
  service := .starting
  core := .waiting
  channel := []
  stopRequested := false
  sent := []
  received := []

inductive StartStep where
  | register
  | setRunning
  | sendInited
  | control (request : ServiceControl) (acLineStatus : Option UInt8)
  | stop
  | receiveFirst
  | initialise
  | receive
deriving Repr, DecidableEq

/-- The steps of `main` and `process_service`. -/
def StartStep.ofCore : StartStep → Bool
  | .receiveFirst | .initialise | .receive => true
  | _ => false

def stops : ServiceControl → Bool
  | .stop | .shutdown => true
  | _ => false

def startMachine : Machine ServiceStart StartStep
  | state, .register =>
      if state.service = .starting then some { state with service := .registered } else none
  | state, .setRunning =>
      if state.service = .registered then some { state with service := .running } else none
  | state, .sendInited =>
      if state.service = .running then
        some { state with service := .announced, channel := state.channel ++ [.inited] }
      else none
  | state, .control request acLineStatus =>
      if state.service = .starting then none
      else
        let event := (controlHandler acLineStatus request).1
        some { state with
          channel := state.channel ++ event.toList.map .internal
          stopRequested := state.stopRequested || stops request
          sent := state.sent ++ event.toList }
  | state, .stop =>
      if state.service = .announced && state.stopRequested then
        some { state with service := .stopped }
      else none
  | state, .receiveFirst =>
      match state.core, state.channel with
      | .waiting, _ :: rest => some { state with core := .initialising, channel := rest }
      | _, _ => none
  | state, .initialise =>
      if state.core = .initialising then some { state with core := .serving } else none
  | state, .receive =>
      match state.core, state.channel with
      | .serving, message :: rest => some { state with
          channel := rest, received := state.received ++ [message] }
      | _, _ => none

/-- The events among messages, in order. -/
def internals (messages : List ServiceMessage) : List InternalEvent :=
  messages.filterMap ServiceMessage.event?

/-- Main and `process_service` have nothing left to do but wait for a message. -/
def ServiceStart.Idle (state : ServiceStart) : Prop :=
  state.channel = [] ∧ state.core ≠ .initialising

/-- When main and `process_service` go on until they wait for a message, then
`process_service` has received every event sent so far, once and in order. -/
def ServiceStart.Delivers (state : ServiceStart) : Prop :=
  ∀ steps final, Run startMachine state steps final → (∀ step ∈ steps, step.ofCore = true) →
    final.Idle → internals final.received = state.sent

/-- No event is sent before `Inited`. -/
def InTime (state : ServiceStart) : StartStep → Prop
  | .control request acLineStatus =>
      (controlHandler acLineStatus request).1 ≠ none → state.service.initedSent = true
  | _ => True

variable {state next final : ServiceStart} {step : StartStep} {steps : List StartStep}

/-- The first receive of main takes a message away. -/
def ServiceStart.left (state : ServiceStart) : List ServiceMessage :=
  match state.core with
  | .waiting => state.channel.tail
  | _ => state.channel

/-- What each step does, and when it can be taken. -/
inductive StartMoves (state : ServiceStart) : StartStep → ServiceStart → Prop where
  | register (starting : state.service = .starting) :
      StartMoves state .register { state with service := .registered }
  | setRunning (registered : state.service = .registered) :
      StartMoves state .setRunning { state with service := .running }
  | sendInited (running : state.service = .running) :
      StartMoves state .sendInited
        { state with service := .announced, channel := state.channel ++ [.inited] }
  | control (request : ServiceControl) (acLineStatus : Option UInt8)
      (registered : state.service ≠ .starting) :
      StartMoves state (.control request acLineStatus) { state with
        channel := state.channel ++ (controlHandler acLineStatus request).1.toList.map .internal
        stopRequested := state.stopRequested || stops request
        sent := state.sent ++ (controlHandler acLineStatus request).1.toList }
  | stop (announced : state.service = .announced) (requested : state.stopRequested = true) :
      StartMoves state .stop { state with service := .stopped }
  | receiveFirst {message : ServiceMessage} {rest : List ServiceMessage}
      (waiting : state.core = .waiting) (channel : state.channel = message :: rest) :
      StartMoves state .receiveFirst { state with core := .initialising, channel := rest }
  | initialise (initialising : state.core = .initialising) :
      StartMoves state .initialise { state with core := .serving }
  | receive {message : ServiceMessage} {rest : List ServiceMessage}
      (serving : state.core = .serving) (channel : state.channel = message :: rest) :
      StartMoves state .receive
        { state with channel := rest, received := state.received ++ [message] }

theorem startMoves (stepped : startMachine state step = some next) :
    StartMoves state step next := by
  cases step with
  | register =>
      obtain ⟨starting, same⟩ := Option.ite_none_right_eq_some.mp stepped
      cases same
      exact .register starting
  | setRunning =>
      obtain ⟨registered, same⟩ := Option.ite_none_right_eq_some.mp stepped
      cases same
      exact .setRunning registered
  | sendInited =>
      obtain ⟨running, same⟩ := Option.ite_none_right_eq_some.mp stepped
      cases same
      exact .sendInited running
  | control request acLineStatus =>
      obtain ⟨registered, same⟩ := Option.ite_none_left_eq_some.mp stepped
      cases same
      exact .control request acLineStatus registered
  | stop =>
      obtain ⟨ended, same⟩ := Option.ite_none_right_eq_some.mp stepped
      simp only [Bool.and_eq_true, decide_eq_true_eq] at ended
      cases same
      exact .stop ended.1 ended.2
  | receiveFirst =>
      simp only [startMachine] at stepped
      split at stepped
      · rename_i message rest waiting channel
        cases stepped
        exact .receiveFirst waiting channel
      · cases stepped
  | initialise =>
      obtain ⟨initialising, same⟩ := Option.ite_none_right_eq_some.mp stepped
      cases same
      exact .initialise initialising
  | receive =>
      simp only [startMachine] at stepped
      split at stepped
      · rename_i message rest serving channel
        cases stepped
        exact .receive serving channel
      · cases stepped

theorem core_step (core : step.ofCore = true) (moved : StartMoves state step next) :
    next.received ++ next.left = state.received ++ state.left ∧ next.sent = state.sent := by
  cases moved with
  | register | setRunning | sendInited | control | stop => cases core
  | receiveFirst waiting channel => simp [ServiceStart.left, waiting, channel]
  | initialise initialising => simp [ServiceStart.left, initialising]
  | receive serving channel => simp [ServiceStart.left, serving, channel]

theorem core_run (ran : Run startMachine state steps final)
    (core : ∀ step ∈ steps, step.ofCore = true) :
    final.received ++ final.left = state.received ++ state.left ∧ final.sent = state.sent := by
  induction ran with
  | nil => exact ⟨rfl, rfl⟩
  | cons _ stepped _ later =>
      obtain ⟨left, sent⟩ := core_step (core _ List.mem_cons_self) (startMoves stepped)
      obtain ⟨laterLeft, laterSent⟩ := later fun step mem => core step (List.mem_cons_of_mem _ mem)
      exact ⟨laterLeft.trans left, laterSent.trans sent⟩

/-- Main and `process_service` come to wait, whatever they find in the channel. -/
theorem core_comes_to_wait (state : ServiceStart) :
    ∃ steps final, Run startMachine state steps final ∧
      (∀ step ∈ steps, step.ofCore = true) ∧ final.Idle := by
  have serving (channel : List ServiceMessage) : ∀ state : ServiceStart, state.core = .serving →
      state.channel = channel → ∃ steps final, Run startMachine state steps final ∧
        (∀ step ∈ steps, step.ofCore = true) ∧ final.Idle := by
    induction channel with
    | nil =>
        intro state serving empty
        exact ⟨[], state, .nil, by simp, empty, by simp [serving]⟩
    | cons message rest later =>
        intro state serving channel
        obtain ⟨steps, final, ran, core, idle⟩ := later
          { state with channel := rest, received := state.received ++ [message] } serving rfl
        refine ⟨.receive :: steps, final, .cons trivial ?_ ran, ?_, idle⟩
        · simp [startMachine, serving, channel]
        · exact List.forall_mem_cons.mpr ⟨rfl, core⟩
  have initialising (state : ServiceStart) (initialising : state.core = .initialising) :
      ∃ steps final, Run startMachine state steps final ∧
        (∀ step ∈ steps, step.ofCore = true) ∧ final.Idle := by
    obtain ⟨steps, final, ran, core, idle⟩ := serving _ { state with core := .serving } rfl rfl
    exact ⟨.initialise :: steps, final, .cons trivial (if_pos initialising) ran,
      List.forall_mem_cons.mpr ⟨rfl, core⟩, idle⟩
  cases core : state.core with
  | serving => exact serving _ state core rfl
  | initialising => exact initialising state core
  | waiting =>
      cases channel : state.channel with
      | nil => exact ⟨[], state, .nil, by simp, channel, by simp [core]⟩
      | cons message rest =>
          obtain ⟨steps, final, ran, ofCore, idle⟩ := initialising
            { state with core := .initialising, channel := rest } rfl
          refine ⟨.receiveFirst :: steps, final, .cons trivial ?_ ran,
            List.forall_mem_cons.mpr ⟨rfl, ofCore⟩, idle⟩
          simp [startMachine, core, channel]

theorem delivers_iff : state.Delivers ↔
    internals (state.received ++ state.left) = state.sent := by
  have drained {final : ServiceStart} (idle : final.Idle) : final.received ++ final.left =
      final.received := by
    obtain ⟨empty, settled⟩ := idle
    simp only [ServiceStart.left, empty]
    split <;> simp
  constructor
  · intro delivers
    obtain ⟨steps, final, ran, core, idle⟩ := core_comes_to_wait state
    rw [← (core_run ran core).1, drained idle]
    exact delivers steps final ran core idle
  · intro accounted steps final ran core idle
    rw [← accounted, ← (core_run ran core).1, drained idle]

theorem ServiceStart.Delivers.phase (delivers : state.Delivers) (service : ServicePhase) :
    ServiceStart.Delivers { state with service := service } := by
  rw [delivers_iff] at delivers ⊢
  exact delivers

/-- As long as no event is early: before `Inited` is sent the channel is empty, and until main
has received it, it is first. -/
structure InitedFirst (state : ServiceStart) : Prop where
  early : state.service.initedSent = false → state.core = .waiting ∧ state.channel = []
  first : state.service.initedSent = true → state.core = .waiting →
    state.channel.head? = some .inited

theorem InitedFirst.core_step (first : InitedFirst state) (core : step.ofCore = true)
    (moved : StartMoves state step next) : InitedFirst next := by
  cases moved with
  | register | setRunning | sendInited | control | stop => cases core
  | receiveFirst waiting channel =>
      refine ⟨fun unannounced => ?_, fun _ impossible => by cases impossible⟩
      have empty := (first.early unannounced).2
      rw [channel] at empty
      cases empty
  | initialise initialising =>
      refine ⟨fun unannounced => ?_, fun _ impossible => by cases impossible⟩
      have waiting := (first.early unannounced).1
      rw [initialising] at waiting
      cases waiting
  | receive serving channel =>
      refine ⟨fun unannounced => ?_, fun _ waiting => ?_⟩
      · have empty := (first.early unannounced).2
        rw [channel] at empty
        cases empty
      · change state.core = .waiting at waiting
        rw [serving] at waiting
        cases waiting

/-- A message behind the first one is left for `process_service`. -/
theorem left_append (messages : List ServiceMessage)
    (taken : state.core = .waiting → state.channel ≠ []) :
    ServiceStart.left { state with channel := state.channel ++ messages } =
      state.left ++ messages := by
  cases core : state.core with
  | waiting =>
      cases channel : state.channel with
      | nil => exact absurd channel (taken core)
      | cons message rest => simp [ServiceStart.left, core, channel]
  | initialising => simp [ServiceStart.left, core]
  | serving => simp [ServiceStart.left, core]

theorem internals_append (first second : List ServiceMessage) :
    internals (first ++ second) = internals first ++ internals second := List.filterMap_append

theorem internals_events (events : List InternalEvent) :
    internals (events.map .internal) = events := by
  induction events with
  | nil => rfl
  | cons event events later => simpa [internals, ServiceMessage.event?] using later

/-- An event is delivered exactly when it is not the first message. -/
theorem delivers_control_iff {event : Option InternalEvent} {stopRequested : Bool}
    (first : InitedFirst state) (delivers : state.Delivers) :
    ServiceStart.Delivers { state with
        channel := state.channel ++ event.toList.map .internal
        stopRequested := stopRequested
        sent := state.sent ++ event.toList } ↔
      (event ≠ none → state.service.initedSent = true) := by
  rw [delivers_iff] at delivers ⊢
  cases announced : state.service.initedSent with
  | true =>
      have left := left_append (event.toList.map .internal) fun waiting empty => by
        have inited := first.first announced waiting
        rw [empty] at inited
        cases inited
      refine iff_of_true ?_ fun _ => rfl
      change internals (state.received ++ ServiceStart.left
        { state with channel := state.channel ++ event.toList.map .internal }) = _
      rw [left, ← List.append_assoc, internals_append, delivers, internals_events]
  | false =>
      obtain ⟨waiting, empty⟩ := first.early announced
      cases event with
      | none => simpa [ServiceStart.left] using delivers
      | some event =>
          -- Main takes the event for `Inited`.
          simp only [ServiceStart.left, waiting, empty, List.tail_nil, List.append_nil] at delivers
          simp [ServiceStart.left, waiting, empty, delivers]

/-- A step of the service delivers what was sent exactly when it is in time, and then `Inited`
stays first. -/
theorem service_step_iff (first : InitedFirst state) (delivers : state.Delivers)
    (service : step.ofCore = false) (moved : StartMoves state step next) :
    (next.Delivers ↔ InTime state step) ∧ (InTime state step → InitedFirst next) := by
  cases moved with
  | receiveFirst | initialise | receive => cases service
  | register starting =>
      refine ⟨iff_of_true (delivers.phase _) trivial, fun _ => ?_⟩
      exact ⟨fun _ => first.early (by rw [starting]; rfl), fun impossible => by cases impossible⟩
  | setRunning registered =>
      refine ⟨iff_of_true (delivers.phase _) trivial, fun _ => ?_⟩
      exact ⟨fun _ => first.early (by rw [registered]; rfl), fun impossible => by cases impossible⟩
  | sendInited running =>
      obtain ⟨waiting, empty⟩ := first.early (by rw [running]; rfl)
      refine ⟨iff_of_true ?_ trivial, fun _ => ?_⟩
      · rw [delivers_iff] at delivers ⊢
        simpa [ServiceStart.left, waiting, empty] using delivers
      · refine ⟨fun impossible => (by cases impossible), fun _ _ => ?_⟩
        rw [empty]
        rfl
  | control request acLineStatus =>
      refine ⟨delivers_control_iff first delivers, fun inTime => ⟨fun unannounced => ?_, ?_⟩⟩
      · obtain ⟨waiting, empty⟩ := first.early unannounced
        cases event : (controlHandler acLineStatus request).1 with
        | none => exact ⟨waiting, by simp [empty]⟩
        | some sent =>
            have announced := inTime (by rw [event]; exact Option.some_ne_none sent)
            exact absurd (unannounced.symm.trans announced) (by decide)
      · intro announced waiting
        rw [List.head?_append, first.first announced waiting]
        rfl
  | stop announced =>
      refine ⟨iff_of_true (delivers.phase _) trivial, fun _ => ?_⟩
      exact ⟨fun impossible => (by cases impossible), fun _ => first.first (by rw [announced]; rfl)⟩

theorem delivers_step_iff (first : InitedFirst state) (delivers : state.Delivers)
    (moved : StartMoves state step next) :
    (next.Delivers ↔ InTime state step) ∧ (InTime state step → InitedFirst next) := by
  cases core : step.ofCore with
  | false => exact service_step_iff first delivers core moved
  | true =>
      have inTime : InTime state step := by
        cases step with
        | control _ _ => cases core
        | _ => trivial
      obtain ⟨left, sent⟩ := core_step core moved
      refine ⟨iff_of_true ?_ inTime, fun _ => first.core_step core moved⟩
      rw [delivers_iff, left, sent]
      exact delivers_iff.mp delivers

/-- In every state a run reaches, everything sent so far is delivered to `process_service`,
exactly when no event of the run is sent before `Inited`. -/
theorem serviceStart_delivers_iff (ran : Run startMachine .begun steps final) :
    Guarded startMachine (Leads startMachine ServiceStart.Delivers) .begun steps final ↔
      Guarded startMachine InTime .begun steps final := by
  refine guarded_leads_iff (fun state => InitedFirst state ∧ state.Delivers) ran ?_ ?_ ⟨?_, ?_⟩
  · intro state step next ⟨first, delivers⟩ stepped
    exact (delivers_step_iff first delivers (startMoves stepped)).1
  · intro state step next ⟨first, delivers⟩ inTime stepped
    obtain ⟨exactly, keeps⟩ := delivers_step_iff first delivers (startMoves stepped)
    exact ⟨keeps inTime, exactly.mpr inTime⟩
  · exact ⟨fun _ => ⟨rfl, rfl⟩, fun impossible => by cases impossible⟩
  · exact delivers_iff.mpr rfl

/-- The charger is connected before main has received `Inited`, and again while it waits. -/
theorem serviceStart_delivers_iff_announced :
    ∃ final, Guarded startMachine (Leads startMachine ServiceStart.Delivers) .begun
        [.register, .setRunning, .control .interrogate none, .sendInited,
          .control (.powerEvent .powerStatusChange) (some 1), .receiveFirst,
          .control .shutdown none, .initialise, .receive, .receive] final ∧
      final.received = [.internal .chargerConnected, .internal .systemShuttingDown] := by
  refine ⟨_, (serviceStart_delivers_iff (run_of_replay rfl)).mpr ?_, rfl⟩
  refine .cons trivial rfl (.cons trivial rfl (.cons ?_ rfl (.cons trivial rfl (.cons ?_ rfl
    (.cons trivial rfl (.cons ?_ rfl (.cons trivial rfl (.cons trivial rfl
    (.cons trivial rfl .nil)))))))))
  · intro impossible
    exact absurd rfl impossible
  · exact fun _ => rfl
  · exact fun _ => rfl

/-- The charger is connected between the Running status and `Inited`: main receives the event
in its place. -/
theorem serviceStart_loses :
    ∃ final, Run startMachine .begun
        [.register, .setRunning, .control (.powerEvent .powerStatusChange) (some 1),
          .sendInited, .receiveFirst, .initialise, .receive] final ∧
      final.Idle ∧ final.sent = [.chargerConnected] ∧ final.received = [.inited] ∧
      ¬ final.Delivers := by
  refine ⟨_, run_of_replay rfl, ⟨rfl, by decide⟩, rfl, rfl, ?_⟩
  intro delivers
  exact absurd (delivers_iff.mp delivers) (by decide)

end Lecoo.Daemon
