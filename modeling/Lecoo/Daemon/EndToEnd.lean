import Lecoo.Daemon.Session
import Lecoo.Daemon.Store

namespace Lecoo.Daemon

open Lecoo.Effects Lecoo.Ipc Lecoo.Ec

/-! # A client of the store

Between a client and the registers there are the frames of the connection, the work of
the daemon and its EC.  Seen from the client all of it is the store.
-/

/-- What the system may do to the store between two calls of a client. -/
inductive Unasked (first : Store) : Store → Prop where
  | nothing : Unasked first first
  | saved {now : Store} (before : Unasked first now) : Unasked first now.save
  | event {now : Store} (before : Unasked first now) (measured : Measured) (event : InternalEvent) :
      Unasked first (now.notify measured event)

/-- A script is carried out on a store that serves every call and answers it. -/
def Consults {α : Type} (hramOffset : UInt16) : Script α → Store → α → Store → Prop
  | .done value, first, result, last => result = value ∧ Unasked first last
  | .perform request next, first, result, last => ∃ now measured response served,
      Unasked first now ∧ now.serve hramOffset measured request = (.ok response, served) ∧
      Consults hramOffset (next response) served result last

/-- A store has served the calls of a log. -/
def Store.Served (hramOffset : UInt16) : Store → Log → Store → Prop
  | first, [], last => Unasked first last
  | first, (request, outcome) :: log, last => ∃ now measured, Unasked first now ∧
      outcome = (now.serve hramOffset measured request).1 ∧
      Store.Served hramOffset (now.serve hramOffset measured request).2 log last

section Serving

variable {hramOffset : UInt16} {first now last : Store} {log : Log}

theorem Unasked.trans (before : Unasked first now) (after : Unasked now last) :
    Unasked first last := by
  induction after with
  | nothing => exact before
  | saved _ ih => exact ih.saved
  | event _ measured event ih => exact ih.event measured event

theorem Store.Served.unasked (served : Store.Served hramOffset first log now) (after : Unasked now last) :
    Store.Served hramOffset first log last := by
  induction log generalizing first with
  | nil => exact served.trans after
  | cons entry log ih =>
      obtain ⟨middle, measured, before, answered, later⟩ := served
      exact ⟨middle, measured, before, answered, ih later⟩

theorem Store.Served.snoc (served : Store.Served hramOffset first log now) (measured : Measured)
    (request : IpcRequest) :
    Store.Served hramOffset first (log ++ [(request, (now.serve hramOffset measured request).1)])
      (now.serve hramOffset measured request).2 := by
  induction log generalizing first with
  | nil => exact ⟨now, measured, served, rfl, .nothing⟩
  | cons entry log ih =>
      obtain ⟨middle, other, before, answered, later⟩ := served
      exact ⟨middle, other, before, answered, ih later⟩

theorem Store.Served.given (served : Store.Served hramOffset first log last) {request : IpcRequest}
    {outcome : Except Failure IpcResponse} (member : (request, outcome) ∈ log) :
    ∃ (store : Store) (measured : Measured), outcome = (store.serve hramOffset measured request).1 := by
  induction log generalizing first with
  | nil => cases member
  | cons entry log ih =>
      obtain ⟨now, measured, _, answered, later⟩ := served
      rcases List.mem_cons.mp member with rfl | member
      · exact ⟨now, measured, answered⟩
      · exact ih later member

/-- A script that was carried out on the calls of a log was carried out on the store that
served them. -/
theorem Store.Served.consults {α : Type} {script : Script α} {value : α}
    {exchanges : List (IpcRequest × IpcResponse)} (follows : Follows script exchanges (.done value))
    (served : Store.Served hramOffset first (exchanges.map completed) last) :
    Consults hramOffset script first value last := by
  induction exchanges generalizing script first with
  | nil =>
      cases script with
      | done other =>
          cases follows
          exact ⟨rfl, served⟩
      | perform request next => cases follows
  | cons exchange exchanges ih =>
      cases script with
      | done value => cases follows
      | perform request next =>
          obtain ⟨asked, response⟩ := exchange
          obtain ⟨rfl, later⟩ := follows
          obtain ⟨now, measured, before, answered, served⟩ := served
          exact ⟨now, measured, response, _, before, Prod.ext answered.symm rfl, ih later served⟩

end Serving

theorem size_text (text : String) : text.toByteArray.size ≤ 4 * text.length := by
  have each : ∀ chars : List Char, chars.utf8Encode.size ≤ 4 * chars.length := by
    intro chars
    induction chars with
    | nil => exact Nat.le_refl 0
    | cons char rest ih =>
        have wide := char.utf8Size_le_four
        rw [List.utf8Encode_cons, ByteArray.size_append, List.length_cons]
        simp only [List.utf8Encode_singleton, List.size_toByteArray, String.length_utf8EncodeChar]
        omega
  have own := each text.toList
  rwa [String.utf8Encode_toList, String.length_toList] at own

theorem size_hexByteUpper (value : UInt8) : (hexByteUpper value).toByteArray.size ≤ 8 := by
  refine (size_text _).trans ?_
  simp [hexByteUpper, String.toUpper, hexByte]

theorem size_duty (duty : UInt8) : (toString duty).toByteArray.size ≤ 3 := by
  have each : ∀ duty : Fin 256, (toString (UInt8.ofNat duty.val)).toByteArray.size ≤ 3 := by
    decide +kernel
  simpa using each ⟨duty.toNat, duty.toNat_lt⟩

theorem size_around (front behind : String) (duty : UInt8) :
    (front ++ toString duty ++ behind).toByteArray.size ≤
      front.toByteArray.size + 3 + behind.toByteArray.size := by
  have number := size_duty duty
  rw [String.toByteArray_append, String.toByteArray_append, ByteArray.size_append,
    ByteArray.size_append]
  omega

theorem size_refusal (setter : Setter) : (Store.refusal setter).toByteArray.size ≤ 100 := by
  have empty : ("" : String).toByteArray.size ≤ 100 := by decide
  cases setter with
  | fanMode fan mode =>
      cases mode with
      | custom duty => exact (size_around _ _ duty).trans (by decide +kernel)
      | auto | full => exact empty
  | _ => exact empty

theorem serve_texts {hramOffset : UInt16} {measured : Measured} {store : Store}
    {request : IpcRequest} {response : IpcResponse}
    (served : (store.serve hramOffset measured request).1 = .ok response) :
    ∀ text ∈ Bincode.texts response, text.toByteArray.size ≤ 100 := by
  have set : ∀ setter, (store.request setter).1 = .ok response →
      ∀ text ∈ Bincode.texts response, text.toByteArray.size ≤ 100 := by
    intro setter answered
    unfold Store.request at answered
    split at answered
    · cases answered
      exact fun _ impossible => absurd impossible List.not_mem_nil
    · cases answered
      intro text member
      rw [List.mem_singleton.mp member]
      exact size_refusal setter
  cases request with
  | getSystemState =>
      cases served
      have first : (toString (hexByteUpper measured.chip.1)).toByteArray.size ≤ 8 :=
        size_hexByteUpper measured.chip.1
      have second : (toString (hexByteUpper measured.chip.2.1)).toByteArray.size ≤ 8 :=
        size_hexByteUpper measured.chip.2.1
      have revision := size_hexByteUpper measured.chip.2.2
      have named : (toString "IT").toByteArray.size ≤ 2 := by decide +kernel
      have versioned : version.toByteArray.size ≤ 10 := by decide +kernel
      simp only [Bincode.texts, List.mem_cons, List.not_mem_nil, or_false, forall_eq_or_imp,
        forall_eq, String.toByteArray_append, ByteArray.size_append]
      exact ⟨by omega, by omega, by omega⟩
  | setPowerProfile profile => exact set _ served
  | setFanMode fan mode => exact set _ served
  | setKeyboardBacklight level => exact set _ served
  | setChargeLimit limit => exact set _ served
  | setLedMode mode => exact set _ served
  | daemonCommand command =>
      cases command with
      | activateTelemetry isEnabled =>
          cases isEnabled <;> cases served <;> exact fun _ impossible => absurd impossible List.not_mem_nil
      | _ => cases served <;> exact fun _ impossible => absurd impossible List.not_mem_nil
  | _ =>
      cases served
      exact fun _ impossible => absurd impossible List.not_mem_nil

/-- The events that are handled before a call is, each with what the EC measures meanwhile. -/
structure Interlude where
  events : List (InternalEvent × List (UInt64 × EcMemory)) := []
  readings : List (UInt64 × EcMemory) := []
deriving Inhabited

/-- The daemon does one thing from beginning to end. -/
def undertake (ec : EcDevice) (codec : SettingsCodec) (thread : ThreadId) (operation : StoreOp)
    (readings : List (UInt64 × EcMemory)) (world : World) : storeOps.Reply operation × World :=
  Program.run (driftingSemantics ec codec thread) (daemonHandler ec operation) readings world

def meanwhile (ec : EcDevice) (codec : SettingsCodec) (thread : ThreadId)
    (events : List (InternalEvent × List (UInt64 × EcMemory))) (world : World) : World :=
  events.foldl (fun world happened =>
    (undertake ec codec thread (.event happened.1) happened.2 world).2) world

/-- One thread serves the connection, another one the events of the system. -/
def wholeDaemon (ec : EcDevice) (codec : SettingsCodec) (connection service : ThreadId) :
    Semantics daemonCalls Interlude World :=
  fun call interlude world => undertake ec codec connection (.call call) interlude.readings
    (meanwhile ec codec service interlude.events world)

section EndToEnd

variable {α : Type} {codec : SettingsCodec} {connection service thread : ThreadId}
  {detection : Detection} {store : Store} {world : World}

theorem undertake_stands (board : detection.profile = .n155a)
    (stands : Stands codec detection.device store world) (operation : StoreOp)
    (readings : List (UInt64 × EcMemory)) : ∃ measured,
      (storeSemantics detection.device.hramOffset operation measured store).1 =
        (undertake detection.device codec thread operation readings world).1 ∧
      Stands codec detection.device
        (storeSemantics detection.device.hramOffset operation measured store).2
        (undertake detection.device codec thread operation readings world).2 :=
  daemon_refines board operation stands (Program.run_runs _ readings world)

theorem meanwhile_stands (board : detection.profile = .n155a)
    (stands : Stands codec detection.device store world)
    (events : List (InternalEvent × List (UInt64 × EcMemory))) :
    ∃ now, Unasked store now ∧
      Stands codec detection.device now (meanwhile detection.device codec thread events world) := by
  induction events generalizing store world with
  | nil => exact ⟨store, .nothing, stands⟩
  | cons happened events ih =>
      obtain ⟨measured, _, reached⟩ :=
        undertake_stands board stands (.event happened.1) happened.2
      obtain ⟨now, unasked, later⟩ := ih reached
      exact ⟨now, (Unasked.nothing.event measured happened.1).trans unasked, later⟩

/-- The daemon stands for a store that has served what is recorded. -/
def HasServed (ec : EcDevice) (codec : SettingsCodec) (store : Store) (state : World × Log) : Prop :=
  ∃ kept, Store.Served ec.hramOffset store state.2 kept ∧ Stands codec ec kept state.1

theorem serving_call (board : detection.profile = .n155a) (call : DaemonCall)
    (interlude : Interlude) {state : World × Log}
    (serving : HasServed detection.device codec store state) :
    HasServed detection.device codec store
      (recordSemantics (wholeDaemon detection.device codec connection service) call interlude
        state).2 := by
  obtain ⟨kept, served, stands⟩ := serving
  obtain ⟨now, unasked, stands⟩ := meanwhile_stands board stands interlude.events
  obtain ⟨measured, replied, stands⟩ :=
    undertake_stands board stands (.call call) interlude.readings
  cases call with
  | saveState => exact ⟨now.save, (served.unasked unasked).unasked (.saved .nothing), stands⟩
  | doWork request =>
      have reply : (now.serve detection.device.hramOffset measured request).1 =
          (wholeDaemon detection.device codec connection service (.doWork request) interlude
            state.1).1 := replied
      refine ⟨(now.serve detection.device.hramOffset measured request).2, ?_, stands⟩
      have served := (served.unasked unasked).snoc measured request
      rw [reply] at served
      exact served

/-- What a call makes of the settings, the clock being read for the defaults. -/
def effect (clock : UInt64) (settings : CurrentSettings) : IpcRequest → CurrentSettings
  | .daemonCommand .restoreDefaults => CurrentSettings.default clock
  | .daemonCommand (.activateTelemetry isEnabled) => { settings with telemetryEnabled := isEnabled }
  | request =>
      match requestSetter request with
      | some setter => if setter.Valid then record setter settings else settings
      | none => settings

/-- What calls one after the other make of the settings. -/
def Amounts : CurrentSettings → List IpcRequest → CurrentSettings → Prop
  | first, [], last => last = first
  | first, request :: requests, last => ∃ clock, Amounts (effect clock first request) requests last

/-- A call that asks for settings is told what they are. -/
def Reports (settings : CurrentSettings) : IpcRequest → Except Failure IpcResponse → Prop
  | .getChargeLimit, outcome => ∃ charge, outcome = .ok
      (.chargeLimit settings.chargeLimit.asPercent.1 settings.chargeLimit.asPercent.2 charge)
  | .getPowerProfile, outcome => outcome = .ok (.powerLimit settings.powerProfile)
  | .getKeyboardBacklight, outcome => outcome = .ok (.keyboardBacklight settings.keyboardBacklight)
  | .daemonCommand .getSettings, outcome => outcome = .ok (.daemonResponse (.settings settings))
  | .daemonCommand .getTelemetryId, outcome =>
      outcome = .ok (.daemonResponse (.telemetryId settings.telemetryClientId))
  | _, _ => True

theorem serve_effect {hramOffset : UInt16} (measured : Measured) (store : Store)
    (request : IpcRequest) :
    (store.serve hramOffset measured request).2.settings.val =
      effect measured.clock store.settings.val request := by
  have set : ∀ setter : Setter, (store.request setter).2.settings.val =
      if setter.Valid then record setter store.settings.val else store.settings.val := by
    intro setter
    unfold Store.request
    split <;> rfl
  cases request with
  | setPowerProfile profile => exact set _
  | setFanMode fan mode => exact set _
  | setKeyboardBacklight level => exact set _
  | setChargeLimit limit => exact set _
  | setLedMode mode => exact set _
  | daemonCommand command => cases command <;> rfl
  | _ => rfl

theorem serve_reports {hramOffset : UInt16} (measured : Measured) (store : Store)
    (request : IpcRequest) :
    Reports store.settings.val request (store.serve hramOffset measured request).1 := by
  cases request with
  | getChargeLimit => exact ⟨measured.charge, rfl⟩
  | getPowerProfile | getKeyboardBacklight => rfl
  | daemonCommand command => cases command <;> first | rfl | trivial
  | _ => trivial

theorem Unasked.settings {first now : Store} (unasked : Unasked first now) :
    now.settings = first.settings := by
  induction unasked with
  | nothing => rfl
  | saved _ ih => exact ih
  | event _ measured event ih => cases event <;> exact ih

/-- The calls that were served amount to what the store holds. -/
theorem Store.Served.amounts {hramOffset : UInt16} {first last : Store} {log : Log}
    (served : Store.Served hramOffset first log last) :
    Amounts first.settings.val (log.map Prod.fst) last.settings.val := by
  induction log generalizing first with
  | nil => exact congrArg Subtype.val served.settings
  | cons entry log ih =>
      obtain ⟨now, measured, unasked, _, served⟩ := served
      have amounts := ih served
      rw [serve_effect, unasked.settings] at amounts
      exact ⟨measured.clock, amounts⟩

/-- Every call is told what the calls before it amount to. -/
theorem Store.Served.reports {hramOffset : UInt16} {first last : Store} {before later : Log}
    {request : IpcRequest} {outcome : Except Failure IpcResponse}
    (served : Store.Served hramOffset first (before ++ (request, outcome) :: later) last) :
    ∃ settings, Amounts first.settings.val (before.map Prod.fst) settings ∧
      Reports settings request outcome := by
  induction before generalizing first with
  | nil =>
      obtain ⟨now, measured, unasked, rfl, _⟩ := served
      refine ⟨first.settings.val, rfl, ?_⟩
      rw [← unasked.settings]
      exact serve_reports measured now request
  | cons entry before ih =>
      obtain ⟨now, measured, unasked, _, served⟩ := served
      obtain ⟨settings, amounts, reports⟩ := ih served
      rw [serve_effect, unasked.settings] at amounts
      exact ⟨settings, ⟨measured.clock, amounts⟩, reports⟩

variable {client server : Version} {script : UInt8 × UInt8 → Script α} {turns : Nat}
  {moves : List (Move Fate (Fate × Interlude))}
  {reached : Link streamOps (streamOps.sum daemonCalls) (Except IoError α) (Except Failure Unit)
    (Tape UInt8) (Tape UInt8 × (World × Log))}

theorem session_serves (board : detection.profile = .n155a)
    (stands : Stands codec detection.device store world)
    (ran : (session (wholeDaemon detection.device codec connection service)).Run
      (dialled client server requestCodec responseCodec script turns world) moves reached) :
    HasServed detection.device codec store reached.right.now.2 := by
  have attends : Attends (wholeDaemon detection.device codec connection service) server requestCodec
      responseCodec (processIpcConnection turns) (.blank UInt8, (world, [])) reached.right.now :=
    ⟨_, (linked ran).right⟩
  exact attends_kept _
    (fun call interlude state serving => serving_call board call interlude serving) attends
    ⟨store, Unasked.nothing, stands⟩

theorem HasServed.fits {ec : EcDevice} {log : Log}
    (served : HasServed ec codec store (world, log)) :
    ∀ request response data, (request, .ok response) ∈ log →
      responseCodec.encode response = .ok data → data.length < 256 ^ 4 := by
  intro request response data member encoded
  obtain ⟨kept, served, _⟩ := served
  obtain ⟨now, measured, given⟩ := served.given member
  have small := responseCodec_small (serve_texts given.symm) encoded
  exact Nat.lt_of_le_of_lt small (by decide)

/-- A script that has come to its end, with the calls it made and the store that served them. -/
theorem session_ended (board : detection.profile = .n155a)
    (stands : Stands codec detection.device store world)
    (ran : (session (wholeDaemon detection.device codec connection service)).Run
      (dialled client server requestCodec responseCodec script turns world) moves reached) :
    Plays (script (server.major, server.minor)) reached.right.now.2.2 ∧
    ∀ value, reached.left.todo = .done (.ok value) → ∃ exchanges kept,
      Follows (script (server.major, server.minor)) exchanges (.done value) ∧
      Store.Served detection.device.hramOffset store (exchanges.map completed) kept ∧
      Stands codec detection.device kept reached.right.now.2.1 := by
  have serves := session_serves board stands ran
  obtain ⟨plays, _, ends⟩ := session_played serves.fits ran
  refine ⟨plays, fun value ended => ?_⟩
  obtain ⟨kept, served, stands⟩ := serves
  obtain ⟨_, exchanges, follows, log⟩ := ends value ended
  rw [log] at served
  exact ⟨exchanges, kept, follows, served, stands⟩

/-- Whatever the transport does and whoever hangs up, the daemon stands for a store that has
served the calls of the script as far as they went; a client that comes to the end of its
script has carried it out on that store. -/
theorem client_consults_store (board : detection.profile = .n155a)
    (stands : Stands codec detection.device store world)
    (ran : (session (wholeDaemon detection.device codec connection service)).Run
      (dialled client server requestCodec responseCodec script turns world) moves reached) :
    (Plays (script (server.major, server.minor)) reached.right.now.2.2 ∧
      HasServed detection.device codec store reached.right.now.2) ∧
    ∀ value, reached.left.todo = .done (.ok value) → ∃ kept,
      Consults detection.device.hramOffset (script (server.major, server.minor)) store value kept ∧
      Stands codec detection.device kept reached.right.now.2.1 := by
  obtain ⟨plays, ends⟩ := session_ended board stands ran
  refine ⟨⟨plays, session_serves board stands ran⟩, fun value ended => ?_⟩
  obtain ⟨exchanges, kept, follows, served, stands⟩ := ends value ended
  exact ⟨kept, served.consults follows, stands⟩

/-- The client asks a daemon that has just started for the profile, and sets it. -/
theorem client_consults_store_confirming :
    let ec := Detection.n155a.device
    let started := (Program.run (driftingSemantics ec .bincode 0)
      (startUp ec ⟨"cpu", "os", "board"⟩).run [] (World.fresh (fun _ => 0x77) none)).2
    ∃ reached clock kept, (session (wholeDaemon ec .bincode 1 2)).replay
        (dialled ⟨0, 4, 7⟩ ipcProtocolVersion requestCodec responseCodec confirmProfile 5 started)
        (confirmingMoves 1) = some reached ∧
      returned reached.left.todo = some .success ∧
      Consults ec.hramOffset (confirmProfile (0, 4)) (.resume none clock) .success kept ∧
      Stands .bincode ec kept reached.right.now.2.1 := by
  intro ec started
  obtain ⟨-, clock, stands⟩ : _ ∧ ∃ clock, Stands .bincode ec (.resume none clock) started :=
    run_startUp rfl _ _ none
  have replayed : (((session (wholeDaemon ec .bincode 1 2)).replay
      (dialled ⟨0, 4, 7⟩ ipcProtocolVersion requestCodec responseCodec confirmProfile 5 started)
      (confirmingMoves 1)).map fun link => returned link.left.todo) = some (some .success) := by
    decide +kernel
  obtain ⟨reached, ran, ended⟩ := Option.map_eq_some_iff.mp replayed
  obtain ⟨kept, consults, stands⟩ :=
    (client_consults_store rfl stands (Machine.run_of_replay ran)).2 .success (returned_some ended)
  exact ⟨reached, clock, kept, ran, ended, consults, stands⟩

/-- Whatever goes on between the calls and on the way, a client that asks for settings is told
what its own calls before that made of those the daemon began with. -/
theorem client_reads_back (board : detection.profile = .n155a)
    (stands : Stands codec detection.device store world)
    (ran : (session (wholeDaemon detection.device codec connection service)).Run
      (dialled client server requestCodec responseCodec script turns world) moves reached)
    {before later : Log} {request : IpcRequest} {outcome : Except Failure IpcResponse}
    (executed : reached.right.now.2.2 = before ++ (request, outcome) :: later) :
    ∃ settings, Amounts store.settings.val (before.map Prod.fst) settings ∧
      Reports settings request outcome := by
  obtain ⟨kept, served, _⟩ := session_serves board stands ran
  rw [executed] at served
  exact served.reports

/-- A profile is set and asked for. -/
def setAndAsk (_ : UInt8 × UInt8) : Script IpcResponse :=
  .perform (.setPowerProfile .silent) fun _ => .perform .getPowerProfile .done

/-- The laptop goes to sleep between the two calls, the second of which the daemon executes. -/
def settingMoves : List (Move Fate (Fate × Interlude)) :=
  let client (bytes : Bytes) : Move Fate (Fate × Interlude) := .left (.carried bytes)
  let server (bytes : Bytes) : Move Fate (Fate × Interlude) := .right (.carried bytes, {})
  [client [], server [76, 67, 67, 0, 4], server [], client [79, 75, 75, 0, 4]] ++
  List.replicate 4 (client []) ++
  [server [2, 0, 0, 0], server [0, 4, 7], server [], server [6, 0]] ++
  List.replicate 5 (server []) ++
  [client [1, 0, 0, 0], client [0, 4, 0], client [], client [0]] ++ List.replicate 4 (client []) ++
  [server [1, 0, 0, 0], server [0, 4, 7], server [], server [4]] ++
  [.right (.carried [], { events := [(.systemSleeping, [])] })]

theorem client_reads_back_setting :
    let ec := Detection.n155a.device
    let started := (Program.run (driftingSemantics ec .bincode 0)
      (startUp ec ⟨"cpu", "os", "board"⟩).run [] (World.fresh (fun _ => 0x77) none)).2
    let answer : Except Failure IpcResponse := .ok (.powerLimit .silent)
    ∃ reached clock settings, (session (wholeDaemon ec .bincode 1 2)).replay
        (dialled ⟨0, 4, 7⟩ ipcProtocolVersion requestCodec responseCodec setAndAsk 5 started)
        settingMoves = some reached ∧
      reached.right.now.2.2 = [(.setPowerProfile .silent, .ok .success), (.getPowerProfile, answer)] ∧
      Amounts (Store.resume none clock).settings.val [.setPowerProfile .silent] settings ∧
      Reports settings .getPowerProfile answer := by
  intro ec started answer
  obtain ⟨-, clock, stands⟩ : _ ∧ ∃ clock, Stands .bincode ec (.resume none clock) started :=
    run_startUp rfl _ _ none
  have replayed : (((session (wholeDaemon ec .bincode 1 2)).replay
      (dialled ⟨0, 4, 7⟩ ipcProtocolVersion requestCodec responseCodec setAndAsk 5 started)
      settingMoves).map fun link => link.right.now.2.2) =
        some [(.setPowerProfile .silent, .ok .success), (.getPowerProfile, answer)] := by
    decide +kernel
  obtain ⟨reached, ran, log⟩ := Option.map_eq_some_iff.mp replayed
  have executed : reached.right.now.2.2 =
      [(.setPowerProfile .silent, .ok .success)] ++ (.getPowerProfile, answer) :: [] := log
  obtain ⟨settings, amounts, reports⟩ :=
    client_reads_back rfl stands (Machine.run_of_replay ran) executed
  exact ⟨reached, clock, settings, ran, log, amounts, reports⟩

end EndToEnd

end Lecoo.Daemon
