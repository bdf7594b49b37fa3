import Lecoo.Daemon.Requests

namespace Lecoo.Daemon

open Lecoo.Effects Lecoo.Ipc Lecoo.Ec Lecoo.Data

/-! # Refused requests

No handler undoes what it did before the step that failed.  Whether a refusal
can be noticed is decided by the request and the state it is made in: by the
register writes that come before one that can fail, and by the two commands
that change the settings before they save them.
-/

variable {codec : SettingsCodec} {thread : ThreadId} {ec : EcDevice} {before after : World}

/-- The computation can fail with an error and leave the given EC memory. -/
def Breaks {α : Type} (codec : SettingsCodec) (thread : ThreadId) (computation : Io α)
    (before : World) (memory : EcMemory) : Prop :=
  ∃ message after, Alone codec thread computation before (.error (.error message)) after ∧
    after.ec = memory

theorem breaks_bind {α β : Type} {computation : Io α} {rest : α → Io β} {memory : EcMemory} :
    Breaks codec thread (computation >>= rest) before memory ↔
      Breaks codec thread computation before memory ∨
      ∃ value middle, Alone codec thread computation before (.ok value) middle ∧
        Breaks codec thread (rest value) middle memory := by
  constructor
  · rintro ⟨message, after, ran, same⟩
    rcases Fallible.runs_bind.mp ran with ⟨_, failed, first⟩ | ⟨value, middle, first, second⟩
    · cases failed
      exact .inl ⟨message, after, first, same⟩
    · exact .inr ⟨value, middle, first, message, after, second, same⟩
  · rintro (⟨message, after, first, same⟩ | ⟨value, middle, first, message, after, second, same⟩)
    · exact ⟨message, after, Fallible.runs_bind.mpr (.inl ⟨_, rfl, first⟩), same⟩
    · exact ⟨message, after, Fallible.runs_bind.mpr (.inr ⟨value, middle, first, second⟩), same⟩

theorem breaks_writes {writes : List (Register × UInt8)} {memory : EcMemory} :
    Breaks codec thread (withBatch (EcBatch.writes (ec.place writes))) before memory ↔
      ∃ made < writes.length, memory = before.ec.writeAll (ec.place (writes.take made)) := by
  constructor
  · rintro ⟨message, after, ran, rfl⟩
    rcases alone_writes.mp ran with ⟨impossible, _⟩ | ⟨made, bound, _, _, rfl⟩
    · cases impossible
    · exact ⟨made, bound, by rw [World.play_writes]⟩
  · rintro ⟨made, bound, rfl⟩
    exact ⟨"", _, alone_writes.mpr (.inr ⟨made, bound, "", rfl, rfl⟩), by rw [World.play_writes]⟩

/-- A proper prefix of two lists ends in the first or in the second. -/
theorem exists_take_append {α : Type} {first second : List α} (holds : List α → Prop) :
    (∃ made < (first ++ second).length, holds ((first ++ second).take made)) ↔
      (∃ made < first.length, holds (first.take made)) ∨
      ∃ made < second.length, holds (first ++ second.take made) := by
  constructor
  · rintro ⟨made, bound, held⟩
    by_cases early : made < first.length
    · rw [List.take_append_of_le_length (Nat.le_of_lt early)] at held
      exact .inl ⟨made, early, held⟩
    · obtain ⟨more, rfl⟩ := Nat.exists_eq_add_of_le (Nat.le_of_not_lt early)
      rw [List.take_length_add_append] at held
      rw [List.length_append] at bound
      exact .inr ⟨more, by omega, held⟩
  · rintro (⟨made, bound, held⟩ | ⟨made, bound, held⟩)
    · refine ⟨made, by rw [List.length_append]; omega, ?_⟩
      rwa [List.take_append_of_le_length (Nat.le_of_lt bound)]
    · refine ⟨first.length + made, by rw [List.length_append]; omega, ?_⟩
      rwa [List.take_length_add_append]

theorem place_append (first second : List (Register × UInt8)) :
    ec.place (first ++ second) = ec.place first ++ ec.place second :=
  List.map_append

/-- A script fails before any one of its register writes, with those before it made. -/
theorem breaks_script {steps : List Step} {memory : EcMemory} :
    Breaks codec thread (script ec steps) before memory ↔
      ∃ made < (registerWrites (actionsOf steps)).length,
        memory = before.ec.writeAll (ec.place ((registerWrites (actionsOf steps)).take made)) := by
  induction steps generalizing before with
  | nil =>
      constructor
      · rintro ⟨_, _, ⟨impossible, _⟩, _⟩
        cases impossible
      · rintro ⟨made, bound, _⟩
        exact absurd bound (Nat.not_lt_zero made)
  | cons step rest ih =>
      cases step with
      | storeLed value =>
          refine (breaks_bind.trans ?_).trans (@ih (before.act ec (.storeLed value)))
          constructor
          · rintro (⟨_, _, ran, _⟩ | ⟨_, _, ran, broken⟩)
            · cases ((alone_storeLedCustom ec).mp ran).1
            · exact ((alone_storeLedCustom ec).mp ran).2 ▸ broken
          · exact fun broken => .inr ⟨(), _, (alone_storeLedCustom ec).mpr ⟨rfl, rfl⟩, broken⟩
      | batch writes =>
          have split : registerWrites (actionsOf (.batch writes :: rest)) =
              writes ++ registerWrites (actionsOf rest) := by
            rw [actionsOf_batch, registerWrites_append, registerWrites_writeActions]
          rw [split, exists_take_append
            fun written => memory = before.ec.writeAll (ec.place written)]
          have made : (before.play ec (writeActions writes)).ec =
              before.ec.writeAll (ec.place writes) := by rw [World.play_writes]
          refine breaks_bind.trans (or_congr breaks_writes ?_)
          simp only [place_append, Memory.writeAll_append, ← made]
          refine Iff.trans ?_ (@ih (before.play ec (writeActions writes)))
          constructor
          · rintro ⟨_, _, ran, broken⟩
            rcases alone_writes.mp ran with ⟨_, rfl⟩ | ⟨_, _, _, impossible, _⟩
            · exact broken
            · cases impossible
          · exact fun broken => ⟨(), _, alone_writes.mpr (.inl ⟨rfl, rfl⟩), broken⟩

/-- The register writes a setter makes when it is started in the given state. -/
def setterWrites (ec : EcDevice) (world : World) (setter : Setter) : List (Register × UInt8) :=
  registerWrites (setter.actions ec world)

/-- The writes that can have been made when a sequence of setters fails: all that come
before a write that fails, or before a fan duty that is refused. -/
def BrokenOff (ec : EcDevice) : List Setter → World → List (Register × UInt8) → Prop
  | [], _, _ => False
  | setter :: rest, world, written =>
      (¬setter.Valid ∧ written = []) ∨
      (setter.Valid ∧ ∃ made < (setterWrites ec world setter).length,
        written = (setterWrites ec world setter).take made) ∨
      (setter.Valid ∧ ∃ later, BrokenOff ec rest (world.play ec (setter.actions ec world)) later ∧
        written = setterWrites ec world setter ++ later)

theorem BrokenOff.of_same {setters : List Setter} {world other : World}
    {written : List (Register × UInt8)} (memory : other.ec = world.ec)
    (flag : other.ledCustom = world.ledCustom) (broken : BrokenOff ec setters world written) :
    BrokenOff ec setters other written := by
  induction setters generalizing world other written with
  | nil => exact broken
  | cons setter rest ih =>
      have first : setter.actions ec other = setter.actions ec world := by
        simp only [Setter.actions, memory, flag]
      simp only [BrokenOff, setterWrites, first] at broken ⊢
      refine broken.imp_right (.imp_right ?_)
      rintro ⟨valid, later, broken, split⟩
      refine ⟨valid, later, ih (play_ec_congr memory _) ?_ broken, split⟩
      rw [play_ledCustom, play_ledCustom, flag]

theorem breaks_apply {setter : Setter} (sets : setter.feature ≠ .batteryLeds)
    {memory : EcMemory} :
    Breaks codec thread (setter.apply ec) before memory ↔
      (¬setter.Valid ∧ memory = before.ec) ∨
      (setter.Valid ∧ ∃ made < (setterWrites ec before setter).length,
        memory = before.ec.writeAll (ec.place ((setterWrites ec before setter).take made))) := by
  by_cases valid : setter.Valid
  · have scripted : Breaks codec thread (setter.apply ec) before memory ↔ Breaks codec thread
        (script ec (setter.steps ec before.ledCustom (before.ec (ec.address .gpdra))))
        before memory := by
      simp only [Breaks, Setter.alone_apply_script valid sets]
    simp only [valid, not_true_eq_false, false_and, false_or, true_and]
    exact scripted.trans breaks_script
  · obtain ⟨message, bails⟩ : ∃ message, setter.apply ec = Io.bail message :=
      setter.apply_refused valid
    simp only [valid, not_false_eq_true, true_and, false_and, or_false, bails]
    constructor
    · rintro ⟨_, _, ⟨_, rfl⟩, same⟩
      exact same.symm
    · exact fun same => ⟨message, before, ⟨rfl, rfl⟩, same.symm⟩

theorem breaks_applyAll {setters : List Setter}
    (sets : ∀ setter ∈ setters, setter.feature ≠ .batteryLeds) {memory : EcMemory} :
    Breaks codec thread (Setter.applyAll ec setters) before memory ↔
      ∃ written, BrokenOff ec setters before written ∧
        memory = before.ec.writeAll (ec.place written) := by
  induction setters generalizing before with
  | nil =>
      constructor
      · rintro ⟨_, _, ⟨impossible, _⟩, _⟩
        cases impossible
      · rintro ⟨_, impossible, _⟩
        exact impossible.elim
  | cons setter rest ih =>
      have made : (before.play ec (setter.actions ec before)).ec =
          before.ec.writeAll (ec.place (setterWrites ec before setter)) := play_ec _
      have tail := @ih (before.play ec (setter.actions ec before))
        fun other member => sets other (List.mem_cons_of_mem _ member)
      constructor
      · intro broken
        rcases breaks_bind.mp broken with first | ⟨_, middle, first, second⟩
        · rcases (breaks_apply (sets setter List.mem_cons_self)).mp first with
            ⟨invalid, rfl⟩ | ⟨valid, made, bound, rfl⟩
          · exact ⟨[], .inl ⟨invalid, rfl⟩, rfl⟩
          · exact ⟨_, .inr (.inl ⟨valid, made, bound, rfl⟩), rfl⟩
        · rcases Setter.alone_apply first with ⟨_, valid, rfl⟩ | ⟨_, _, _, impossible, _⟩
          · obtain ⟨later, brokenLater, rfl⟩ := tail.mp second
            refine ⟨_, .inr (.inr ⟨valid, later, brokenLater, rfl⟩), ?_⟩
            rw [made, place_append, Memory.writeAll_append]
          · cases impossible
      · rintro ⟨written, ⟨invalid, rfl⟩ | ⟨valid, made, bound, rfl⟩ | ⟨valid, later, broken, rfl⟩,
          rfl⟩
        · exact breaks_bind.mpr (.inl
            ((breaks_apply (sets setter List.mem_cons_self)).mpr (.inl ⟨invalid, rfl⟩)))
        · exact breaks_bind.mpr (.inl
            ((breaks_apply (sets setter List.mem_cons_self)).mpr (.inr ⟨valid, made, bound, rfl⟩)))
        · refine breaks_bind.mpr (.inr ⟨(), _, Setter.alone_apply_ok valid, tail.mpr ?_⟩)
          refine ⟨later, broken, ?_⟩
          rw [made, place_append, Memory.writeAll_append]

/-- The setters a request applies to the registers. -/
def requestSetters (settings : CurrentSettings) : IpcRequest → List Setter
  | .daemonCommand .applySettings => settingSetters settings
  | request => (requestSetter request).toList

/-- The settings, the running telemetry switch and the registers are as they were. -/
structure Unchanged (ec : EcDevice) (before after : World) : Prop where
  settings : after.settings = before.settings
  telemetryEnabled : after.telemetryEnabled = before.telemetryEnabled
  registers : ∀ register, after.registers ec register = before.registers ec register

/-- No refusal of the request can be noticed.  The writes that come before one that can fail
write what the registers hold already; a change of the consent is none, since it is made
before it is saved; `RestoreDefaults` replaces the client id before it saves anything. -/
def Unnoticed (ec : EcDevice) (before : World) : IpcRequest → Prop
  | .daemonCommand .restoreDefaults => False
  | .daemonCommand (.activateTelemetry isEnabled) => before.settings.telemetryEnabled = isEnabled
  | request => ∀ written, BrokenOff ec (requestSetters before.settings request) before written →
      ∀ register, before.ec.writeAll (ec.place written) (ec.address register) =
        before.registers ec register

theorem doWork_refuses {request : IpcRequest} :
    (∃ message, Alone codec thread (doWork ec request) before (.ok (.error message)) after) ↔
      ∃ err, Alone codec thread (handleRequest ec request) before (.error (.error err)) after := by
  constructor
  · rintro ⟨message, ran⟩
    obtain ⟨outcome, handled, replied⟩ := alone_doWork.mp ran
    rcases outcome with (err | _) | response
    · exact ⟨err, handled⟩
    · cases replied
    · cases replied
      exact absurd rfl (((handleRequest_answers ec request).of_runs handled) message)
  · rintro ⟨err, handled⟩
    exact ⟨_, alone_doWork.mpr ⟨_, handled, rfl⟩⟩

/-- A failing sequence of setters is noticed by the registers it leaves. -/
theorem applyAll_unchanged_iff {setters : List Setter}
    (sets : ∀ setter ∈ setters, setter.feature ≠ .batteryLeds) :
    (∀ err after, Alone codec thread (Setter.applyAll ec setters) before (.error (.error err)) after →
        Unchanged ec before after) ↔
      ∀ written, BrokenOff ec setters before written → ∀ register,
        before.ec.writeAll (ec.place written) (ec.address register) =
          before.registers ec register := by
  constructor
  · intro unchanged written broken
    obtain ⟨err, after, ran, memory⟩ := (breaks_applyAll sets).mpr ⟨written, broken, rfl⟩
    exact fun register => memory ▸ (unchanged err after ran).registers register
  · intro kept err after ran
    obtain ⟨written, broken, memory⟩ := (breaks_applyAll sets).mp ⟨err, after, ran, rfl⟩
    have elsewhere : before.SameElsewhere after := by
      rcases Setter.alone_applyAll ran with ⟨impossible, _⟩ | ⟨_, _, _, _, rfl⟩
      · cases impossible
      · exact World.play_sameElsewhere _
    refine ⟨elsewhere.settings, elsewhere.telemetryEnabled, fun register => ?_⟩
    rw [World.registers, memory]
    exact kept written broken register

theorem setter_refusals {request : IpcRequest} {setter : Setter}
    (sets : requestSetter request = some setter) (free : before.stateLock = none) {err : String} :
    Alone codec thread (handleRequest ec request) before (.error (.error err)) after ↔
      Alone codec thread (Setter.applyAll ec [setter]) before (.error (.error err)) after := by
  have single : Setter.applyAll ec [setter] = setter.apply ec :=
    bind_pure_unit
  rw [handleRequest_setter sets, single]
  constructor
  · intro ran
    rcases Fallible.runs_bind.mp ran with ⟨_, failed, first⟩ | ⟨_, middle, first, second⟩
    · cases failed
      exact first
    · rcases Setter.alone_apply first with ⟨_, _, rfl⟩ | ⟨_, _, _, impossible, _⟩
      · have stillFree : (before.play ec (setter.actions ec before)).stateLock = none :=
          (World.play_sameElsewhere _).stateLock.trans free
        cases ((alone_commit stillFree).mp second).1
      · cases impossible
  · exact fun ran => Fallible.runs_bind.mpr (.inl ⟨_, rfl, ran⟩)

theorem applySettings_refusals (free : before.stateLock = none) {err : String} :
    Alone codec thread (processDaemonCommand ec .applySettings) before (.error (.error err)) after ↔
      ∃ middle, Alone codec thread (Setter.applyAll ec (settingSetters before.settings))
        (before.lockedBy (some thread)) (.error (.error err)) middle ∧
        after = middle.lockedBy none := by
  have scope : ∀ start middle : World,
      Alone codec thread (Io.readState >>= fun settings => restoreState ec settings >>= fun _ =>
          (pure .success : Io IpcResponse)) start (.error (.error err)) middle ↔
        Alone codec thread (Setter.applyAll ec (settingSetters start.settings)) start
          (.error (.error err)) middle := by
    intro start middle
    refine (Fallible.runs_bind_sure alone_readState).trans ?_
    rw [restoreState_eq]
    constructor
    · intro ran
      rcases Fallible.runs_bind.mp ran with ⟨_, failed, first⟩ | ⟨_, _, _, impossible, _⟩
      · cases failed
        exact first
      · cases impossible
    · exact fun ran => Fallible.runs_bind.mpr (.inl ⟨_, rfl, ran⟩)
  refine alone_withState.trans ?_
  constructor
  · rintro (⟨taken, _⟩ | ⟨_, middle, ran, same⟩)
    · exact absurd free taken
    · exact ⟨middle, (scope _ middle).mp ran, same⟩
  · rintro ⟨middle, ran, same⟩
    exact .inr ⟨free, middle, (scope _ middle).mpr ran, same⟩

theorem settingSetters_noLeds (settings : CurrentSettings) :
    ∀ setter ∈ settingSetters settings, setter.feature ≠ .batteryLeds := by
  simp [settingSetters, Setter.feature]

theorem applySettings_unchanged_iff (free : before.stateLock = none) :
    (∀ err after, Alone codec thread (processDaemonCommand ec .applySettings) before
        (.error (.error err)) after → Unchanged ec before after) ↔
      Unnoticed ec before (.daemonCommand .applySettings) := by
  have guarded := @applyAll_unchanged_iff codec thread ec
    (before.lockedBy (some thread)) _ (settingSetters_noLeds before.settings)
  have same : ∀ written, BrokenOff ec (settingSetters before.settings)
      (before.lockedBy (some thread)) written ↔
      BrokenOff ec (settingSetters before.settings) before written :=
    fun written => ⟨.of_same rfl rfl, .of_same rfl rfl⟩
  simp only [same] at guarded
  refine Iff.trans ?_ guarded
  simp only [applySettings_refusals free]
  constructor
  · intro unchanged err middle ran
    have kept := unchanged err _ ⟨middle, ran, rfl⟩
    exact ⟨kept.settings, kept.telemetryEnabled, kept.registers⟩
  · rintro unchanged err _ ⟨middle, ran, rfl⟩
    have kept := unchanged err middle ran
    exact ⟨kept.settings, kept.telemetryEnabled, kept.registers⟩

/-- Saving can fail before it has done anything. -/
theorem save_refused (settings : CurrentSettings) (world : World) :
    Alone codec thread (save settings) world (.error (.error "")) world :=
  ⟨{ failure := some "" }, rfl, rfl⟩

theorem restoreDefaults_noticed (free : before.stateLock = none) :
    ∃ err after, Alone codec thread (processDaemonCommand ec .restoreDefaults) before
      (.error (.error err)) after ∧ after.settings ≠ before.settings := by
  -- a clock whose hash is not the client id in use
  obtain ⟨hash, other⟩ : ∃ hash, hash ≠ before.settings.telemetryClientId := by
    by_cases zero : before.settings.telemetryClientId = 0
    · exact ⟨1, by rw [zero]; decide⟩
    · exact ⟨0, fun same => zero same.symm⟩
  refine ⟨"", ((before.lockedBy (some thread)).withSettings (.default hash)).lockedBy none,
    alone_withState.mpr (.inr ⟨free, _, ?_, rfl⟩), ?_⟩
  · refine Fallible.runs_bind.mpr (.inr ⟨hash, _, alone_systemTimeHash.mpr ⟨hash, rfl, rfl⟩, ?_⟩)
    refine (Fallible.runs_bind_sure alone_writeState).mpr ?_
    refine (Fallible.runs_bind_sure alone_readState).mpr ?_
    exact Fallible.runs_bind.mpr (.inl ⟨_, rfl, save_refused _ _⟩)
  · intro same
    exact other (congrArg CurrentSettings.telemetryClientId same)

/-- A refused change of the consent has been made in the settings, and nowhere else. -/
theorem activateTelemetry_refused (ec : EcDevice) (free : before.stateLock = none)
    {isEnabled : Bool} {failure : Failure}
    (ran : Alone codec thread (processDaemonCommand ec (.activateTelemetry isEnabled)) before
      (.error failure) after) :
    after.settings = { before.settings with telemetryEnabled := isEnabled } ∧
      after.telemetryEnabled = before.telemetryEnabled ∧ after.ec = before.ec := by
  rcases alone_withState.mp ran with ⟨taken, _⟩ | ⟨_, middle, scope, rfl⟩
  · exact absurd free taken
  have scope := (Fallible.runs_bind_sure alone_modifyState).mp scope
  have scope := (Fallible.runs_bind_sure alone_readState).mp scope
  rcases Fallible.runs_bind.mp scope with ⟨_, _, saved⟩ | ⟨_, _, saved, scope⟩
  · obtain ⟨_, rfl⟩ := alone_save saved
    exact ⟨rfl, rfl, rfl⟩
  -- nothing can fail after the file was saved
  cases isEnabled <;> obtain ⟨_, impossible, _⟩ := scope <;> cases impossible

theorem activateTelemetry_refusable (free : before.stateLock = none) (isEnabled : Bool) :
    ∃ err after, Alone codec thread (processDaemonCommand ec (.activateTelemetry isEnabled)) before
      (.error (.error err)) after := by
  refine ⟨"", ((before.lockedBy (some thread)).withSettings
    { before.settings with telemetryEnabled := isEnabled }).lockedBy none,
    alone_withState.mpr (.inr ⟨free, _, ?_, rfl⟩)⟩
  refine (Fallible.runs_bind_sure alone_modifyState).mpr ?_
  refine (Fallible.runs_bind_sure alone_readState).mpr ?_
  exact Fallible.runs_bind.mpr (.inl ⟨_, rfl, save_refused _ _⟩)

theorem query_succeeds {response : CurrentSettings → IpcResponse} {failure : Failure}
    (free : before.stateLock = none) :
    ¬ Alone codec thread (withState do return response (← Io.readState)) before
      (.error failure) after := by
  intro ran
  rcases alone_withState.mp ran with ⟨taken, _⟩ | ⟨_, middle, scope, rfl⟩
  · exact absurd free taken
  have answered := (Fallible.runs_bind_sure alone_readState).mp scope
  cases answered.1

/-- A refused request leaves the settings, the running telemetry switch and the
registers as they were. -/
def RefusalChangesNothing (codec : SettingsCodec) (ec : EcDevice) : Prop :=
  ∀ thread request message before after, before.stateLock = none →
    Alone codec thread (doWork ec request) before (.ok (.error message)) after →
    Unchanged ec before after

/-- The consent is withdrawn in the settings, then the state directory cannot be made: the
client is told of an error and the daemon goes on reporting. -/
theorem refusal_changes_consent : ¬ RefusalChangesNothing .bincode Detection.n155a.device := by
  intro unchanged
  have ran := runAlone_alone .bincode 0
    (doWork Detection.n155a.device (.daemonCommand (.activateTelemetry false)))
    [{}, {}, {}, {}, { failure := some "Permission denied" }] (World.fresh (fun _ => 0) none)
  have same := unchanged 0 _ "Processing request failed: Permission denied" _ _ rfl ran
  exact absurd (congrArg CurrentSettings.telemetryEnabled same.settings) (by decide)

theorem unnoticed_of_same {computation : Io IpcResponse} {request : IpcRequest}
    (same : ∀ {err after},
      Alone codec thread computation before (.error (.error err)) after → after = before)
    (unnoticed : Unnoticed ec before request) :
    (∀ err after, Alone codec thread computation before (.error (.error err)) after →
        Unchanged ec before after) ↔ Unnoticed ec before request := by
  refine iff_of_true (fun err after failed => ?_) unnoticed
  cases same failed
  exact ⟨rfl, rfl, fun _ => rfl⟩

theorem command_unchanged_iff (free : before.stateLock = none) (command : DaemonCommand) :
    (∀ err after, Alone codec thread (processDaemonCommand ec command) before
        (.error (.error err)) after → Unchanged ec before after) ↔
      Unnoticed ec before (.daemonCommand command) := by
  cases command with
  | restoreDefaults =>
      refine iff_of_false (fun unchanged => ?_) id
      obtain ⟨err, after, failed, changed⟩ :=
        @restoreDefaults_noticed codec thread ec before free
      exact changed (unchanged err after failed).settings
  | activateTelemetry isEnabled =>
      constructor
      · intro unchanged
        obtain ⟨err, after, failed⟩ :=
          @activateTelemetry_refusable codec thread ec before free isEnabled
        have settings := (unchanged err after failed).settings
        rw [(activateTelemetry_refused ec free failed).1] at settings
        exact (congrArg CurrentSettings.telemetryEnabled settings).symm
      · rintro already err after failed
        obtain ⟨settings, switch, memory⟩ := activateTelemetry_refused ec free failed
        refine ⟨settings.trans ?_, switch, fun register => by rw [World.registers, memory]; rfl⟩
        rw [← show before.settings.telemetryEnabled = isEnabled from already]
  | applySettings => exact applySettings_unchanged_iff free
  | getSettings | getTelemetryId =>
      exact unnoticed_of_same (fun failed => absurd failed (query_succeeds free))
        (fun _ impossible => impossible.elim)
  | _ =>
      exact unnoticed_of_same (fun failed => by cases failed.1)
        (fun _ impossible => impossible.elim)

/-- Whatever step fails, a refused request leaves everything as it was, exactly when what it
does before the steps that can fail cannot be noticed. -/
theorem refusals_unchanged_iff {request : IpcRequest} (free : before.stateLock = none) :
    (∀ message after, Alone codec thread (doWork ec request) before (.ok (.error message)) after →
        Unchanged ec before after) ↔ Unnoticed ec before request := by
  have handled : (∀ message after,
      Alone codec thread (doWork ec request) before (.ok (.error message)) after →
        Unchanged ec before after) ↔
      ∀ err after, Alone codec thread (handleRequest ec request) before (.error (.error err)) after →
        Unchanged ec before after := by
    constructor
    · intro unchanged err after failed
      obtain ⟨message, ran⟩ := doWork_refuses.mpr ⟨err, failed⟩
      exact unchanged message after ran
    · intro unchanged message after ran
      obtain ⟨err, failed⟩ := doWork_refuses.mp ⟨message, ran⟩
      exact unchanged err after failed
  rw [handled]
  cases sets : requestSetter request with
  | some setter =>
      have noLeds : ∀ other ∈ [setter], other.feature ≠ .batteryLeds := by
        cases request <;> cases sets <;> simp [Setter.feature]
      have condition : Unnoticed ec before request ↔
          ∀ written, BrokenOff ec [setter] before written → ∀ register,
            before.ec.writeAll (ec.place written) (ec.address register) =
              before.registers ec register := by
        cases request <;> cases sets <;> rfl
      simp only [setter_refusals sets free]
      rw [condition]
      exact applyAll_unchanged_iff noLeds
  | none =>
      by_cases getter : IsGetter request
      · refine unnoticed_of_same (alone_readings (getters_read ec getter)) ?_
        cases request <;> first | exact getter.elim | exact fun _ impossible => impossible.elim
      · cases request with
        | daemonCommand command => exact command_unchanged_iff free command
        | _ => first | exact absurd trivial getter | cases sets

/-- The power profile is one write of one register, which is all or nothing; the charge limit
is two, and harmless only where the first is already what is asked for. -/
theorem refusals_unchanged_iff_power_and_charge :
    let ec := Detection.n155a.device
    let before := World.fresh (fun _ => 0) none
    (∀ message after, Alone .bincode 0 (doWork ec (.setPowerProfile .silent)) before
        (.ok (.error message)) after → Unchanged ec before after) ∧
      ¬∀ message after, Alone .bincode 0 (doWork ec (.setChargeLimit .balanced)) before
        (.ok (.error message)) after → Unchanged ec before after := by
  refine ⟨(refusals_unchanged_iff rfl).mpr ?_, fun unchanged => ?_⟩
  · rintro written (⟨invalid, -⟩ | ⟨-, made, bound, rfl⟩ | ⟨-, _, broken, -⟩)
    · exact absurd trivial invalid
    · have none : made = 0 := Nat.lt_one_iff.mp bound
      rw [none]
      exact fun register => rfl
    · exact broken.elim
  · have harmless := (refusals_unchanged_iff rfl).mp unchanged
    exact absurd (harmless [(.batLimitMin, 70)] (.inr (.inl ⟨trivial, 1, by decide, rfl⟩))
      .batLimitMin) (by decide)

end Lecoo.Daemon
