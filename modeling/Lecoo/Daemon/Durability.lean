import Lecoo.Daemon.Requests

namespace Lecoo.Daemon

open Lecoo.Effects Lecoo.Ipc Lecoo.Ec Lecoo.Data

/-! # Durability of the settings file

The file is truncated in place and written only when the buffered writer is
dropped.  A save can stop after any number of its operations, any of them can
fail, and a failing write may let a part of the bytes through.
-/

variable {codec : SettingsCodec} {thread : ThreadId} {before : World} {choices : List Choice}
  {steps : Nat} {old new : CurrentSettings}

theorem SettingsCodec.encode_ne_nil (codec : SettingsCodec) (settings : CurrentSettings) :
    codec.encode settings ≠ [] := by
  intro empty
  let other := { settings with telemetryEnabled := !settings.telemetryEnabled }
  have different : settings ≠ other := fun same =>
    absurd (congrArg CurrentSettings.telemetryEnabled same) (by simp [other])
  have read : codec.decode [] = some settings := empty ▸ codec.decode_encode settings
  by_cases otherEmpty : codec.encode other = []
  · rw [← otherEmpty, codec.decode_encode] at read
    exact different (Option.some.inj read).symm
  · rw [codec.decode_strictPrefix other [] List.nil_prefix (Ne.symm otherEmpty)] at read
    cases read

theorem Choice.passed_prefix (choice : Choice) (bytes : List UInt8) :
    choice.passed bytes <+: bytes := by
  unfold Choice.passed
  split
  · exact List.prefix_refl bytes
  · exact List.take_prefix _ _

/-- An environment in which no system call fails; it only chooses the clock. -/
def calmSemantics (codec : SettingsCodec) (thread : ThreadId) : Semantics daemonOps UInt64 World :=
  fun operation clock world => daemonSemantics codec thread operation { clock } world

/-- What a load of the given file finds there. -/
def decodedFile (codec : SettingsCodec) (file : Option (List UInt8)) : Option CurrentSettings :=
  file.bind codec.decode

theorem runs_decodeStateFile {later after : World} {bytes : List UInt8}
    (file : later.stateFile = some bytes) {result : Except Failure CurrentSettings} :
    Fallible.Runs (calmSemantics codec thread)
        (Io.decodeStateFile.context "Failed decode state file!") later result after ↔
      after = later ∧ result = match codec.decode bytes with
        | some settings => .ok settings
        | none => .error (.error "Failed decode state file!") := by
  have answered : ∀ clock, calmSemantics codec thread .decodeStateFile clock later =
      (match codec.decode bytes with
        | some settings => (.ok settings, later)
        | none => (.error (.error "unexpected end"), later)) := by
    intro clock
    simp only [calmSemantics, daemonSemantics, file, Option.bind_some]
    cases codec.decode bytes <;> rfl
  have ran : ∀ outcome, Fallible.Runs (calmSemantics codec thread) Io.decodeStateFile later
      outcome after ↔ ∃ clock, outcome = (calmSemantics codec thread .decodeStateFile clock later).1 ∧
        after = (calmSemantics codec thread .decodeStateFile clock later).2 := fun _ => Iff.rfl
  simp only [Io.runs_context, ran, answered]
  constructor
  · rintro ⟨_, ⟨_, rfl, rfl⟩, rfl⟩
    cases codec.decode bytes <;> exact ⟨rfl, rfl⟩
  · rintro ⟨rfl, rfl⟩
    cases codec.decode bytes <;> exact ⟨_, ⟨0, rfl, rfl⟩, rfl⟩

theorem runs_load {later after : World} {result : Except Failure CurrentSettings} :
    Fallible.Runs (calmSemantics codec thread) load later result after ↔
      after = later ∧ match later.stateFile with
        | none => ∃ clock, result = .ok (CurrentSettings.default clock)
        | some bytes => result = match codec.decode bytes with
          | some settings => .ok settings
          | none => .error (.error "Failed decode state file!") := by
  obtain ⟨ec, ledCustom, settings, stateLock, stateFile, telemetryEnabled, telemetryId,
    channelOpen, telemetryQueue, workerStarted, ecPublished, statePublished⟩ := later
  cases stateFile with
  | none => exact ⟨fun ⟨_, clock, read, same⟩ => ⟨same, clock, read⟩,
      fun ⟨same, clock, read⟩ => ⟨0, clock, read, same⟩⟩
  | some bytes =>
      rw [← runs_decodeStateFile rfl]
      exact ⟨fun ⟨_, _, ran⟩ => ran, fun ran => ⟨0, 0, ran⟩⟩

/-- How `load_or_default` goes on after the outcome of the load. -/
def recovered : Except Failure CurrentSettings → Io CurrentSettings
  | .ok settings => pure settings
  | .error (.error _) => Io.systemTimeHash >>= fun hash => pure (CurrentSettings.default hash)
  | .error (.panic message) => throw (.panic message)

/-- Decoded settings come back as they are; a missing or rejected file gives the
defaults with the hash of whatever time it is. -/
theorem runs_loadOrDefault {later after : World} {result : Except Failure CurrentSettings} :
    Fallible.Runs (calmSemantics codec thread) loadOrDefault later result after ↔
      after = later ∧ match decodedFile codec later.stateFile with
        | some settings => result = .ok settings
        | none => ∃ clock, result = .ok (CurrentSettings.default clock) := by
  have found : ∀ settings, Fallible.Runs (calmSemantics codec thread)
      (pure settings : Io CurrentSettings) later result after ↔
        after = later ∧ result = .ok settings := fun _ => and_comm
  have absent : Fallible.Runs (calmSemantics codec thread)
      (Io.systemTimeHash >>= fun hash => pure (CurrentSettings.default hash)) later result after ↔
        after = later ∧ ∃ clock, result = .ok (CurrentSettings.default clock) :=
    ⟨fun ⟨clock, read, same⟩ => ⟨same, clock, read⟩, fun ⟨same, clock, read⟩ => ⟨clock, read, same⟩⟩
  have recovers : Fallible.Runs (calmSemantics codec thread) loadOrDefault later result after ↔
      ∃ outcome middle, Fallible.Runs (calmSemantics codec thread) load later outcome middle ∧
        Fallible.Runs (calmSemantics codec thread) (recovered outcome) middle result after := by
    rw [loadOrDefault, Fallible.runs_bind]
    simp only [Io.runs_ok?]
    constructor
    · rintro (⟨failure, rfl, outcome, ran, ended⟩ | ⟨value, middle, ⟨outcome, ran, ended⟩, rest⟩)
      · refine ⟨outcome, after, ran, ?_⟩
        rcases outcome with (_ | _) | _ <;> cases ended
        exact ⟨rfl, rfl⟩
      · refine ⟨outcome, middle, ran, ?_⟩
        rcases outcome with (_ | _) | _ <;> cases ended <;> exact rest
    · rintro ⟨outcome, middle, ran, rest⟩
      rcases outcome with (_ | _) | _
      · exact .inr ⟨none, middle, ⟨_, ran, rfl⟩, rest⟩
      · obtain ⟨rfl, rfl⟩ := rest
        exact .inl ⟨_, rfl, _, ran, rfl⟩
      · exact .inr ⟨_, middle, ⟨_, ran, rfl⟩, rest⟩
  rw [recovers]
  simp only [runs_load]
  cases file : later.stateFile with
  | none => 
    simp only [decodedFile, Option.bind_none]
    constructor
    · rintro ⟨_, _, ⟨rfl, clock, rfl⟩, rfl, rfl⟩
      exact ⟨rfl, clock, rfl⟩
    · rintro ⟨rfl, clock, rfl⟩
      exact ⟨_, _, ⟨rfl, clock, rfl⟩, rfl, rfl⟩
  | some bytes => 
    simp only [decodedFile, Option.bind_some]
    cases codec.decode bytes with
    | none =>
      constructor
      · rintro ⟨_, _, ⟨rfl, rfl⟩, rest⟩
        exact absent.mp rest
      · intro rest
        exact ⟨_, _, ⟨rfl, rfl⟩, absent.mpr rest⟩
    | some settings =>
      constructor
      · rintro ⟨_, _, ⟨rfl, rfl⟩, rest⟩
        exact (found settings).mp rest
      · intro rest
        exact ⟨_, _, ⟨rfl, rfl⟩, (found settings).mpr rest⟩

theorem save_run (settings : CurrentSettings) : (save settings).run =
    .perform .createStateDir fun made => match made with
      | .error failure => .done (.error failure)
      | .ok () => .perform .createStateFile fun created => match created with
        | .error failure => .done (.error failure)
        | .ok () => .perform (.encodeSettings settings) fun written =>
            .perform (.dropWriter written.1) fun _ => .done written.2 := by
  refine congrArg (Program.perform _) (funext fun made => ?_)
  cases made with
  | error failure => rfl
  | ok value =>
      refine congrArg (Program.perform _) (funext fun created => ?_)
      cases created <;> rfl

/-- A save that stops after at most the given number of operations. -/
def saveCut (codec : SettingsCodec) (thread : ThreadId) (new : CurrentSettings)
    (choices : List Choice) (steps : Nat) (before : World) :
    Option (Except Failure Unit) × World :=
  (save new).run.cut (daemonSemantics codec thread) choices steps before

/-- The bytes that reach the file when the save gets as far as dropping the writer. -/
def flushed (codec : SettingsCodec) (new : CurrentSettings) (choices : List Choice) : List UInt8 :=
  (choiceAt choices 3).passed ((choiceAt choices 2).passed (codec.encode new))

/-- The save stopped, or failed, before it truncated the file. -/
def BeforeTruncation (choices : List Choice) (steps : Nat) : Prop :=
  steps ≤ 1 ∨ (choiceAt choices 0).failure ≠ none ∨ (choiceAt choices 1).failure ≠ none

theorem saveCut_beforeTruncation (early : BeforeTruncation choices steps) :
    (saveCut codec thread new choices steps before).2.stateFile = before.stateFile ∧
    (saveCut codec thread new choices steps before).1 ≠ some (.ok ()) := by
  rw [saveCut, save_run]
  cases steps with
  | zero => exact ⟨rfl, by simp [Program.cut]⟩
  | succ steps =>
      simp only [Program.cut, headD_choiceAt, daemonSemantics, Choice.outcome]
      cases dir : (choiceAt choices 0).failure with
      | some message => exact ⟨rfl, by simp [Program.cut]⟩
      | none =>
          cases steps with
          | zero => exact ⟨rfl, by simp [Program.cut]⟩
          | succ steps =>
              simp only [Program.cut, headD_choiceAt, tail_choiceAt, daemonSemantics]
              cases create : (choiceAt choices 1).failure with
              | some message => exact ⟨rfl, by simp [Program.cut]⟩
              | none =>
                  rcases early with early | early | early
                  · omega
                  · exact absurd dir early
                  · exact absurd create early

theorem saveCut_truncated (late : ¬ BeforeTruncation choices steps) :
    (saveCut codec thread new choices steps before).2.stateFile =
      some (if steps < 4 then [] else flushed codec new choices) := by
  rw [saveCut, save_run]
  simp only [BeforeTruncation, not_or, not_le, ne_eq, not_not] at late
  obtain ⟨begun, dir, create⟩ := late
  obtain ⟨steps, rfl⟩ : ∃ more, steps = more + 2 := ⟨steps - 2, by omega⟩
  simp only [Program.cut, headD_choiceAt, tail_choiceAt, daemonSemantics, Choice.outcome, dir, create]
  rcases steps with _ | _ | steps
  · rfl
  · rfl
  · rw [if_neg (by omega)]
    simp only [Program.cut, headD_choiceAt, tail_choiceAt, daemonSemantics, World.append,
      World.withFile, Option.map_some, List.nil_append, flushed]

/-- A later load of the file that is left gives allowed settings, whatever the time. -/
def LoadsBack (codec : SettingsCodec) (file : Option (List UInt8))
    (allowed : CurrentSettings → Prop) : Prop :=
  ∀ thread later result after, later.stateFile = file →
    Fallible.Runs (calmSemantics codec thread) loadOrDefault later result after →
    ∃ settings, result = .ok settings ∧ allowed settings

theorem LoadsBack.allowed {file : Option (List UInt8)} {settings : CurrentSettings}
    {allowed : CurrentSettings → Prop} (loads : LoadsBack codec file allowed)
    (ran : Fallible.Runs (calmSemantics codec 0) loadOrDefault (World.fresh (fun _ => 0) file)
      (.ok settings) (World.fresh (fun _ => 0) file)) : allowed settings := by
  obtain ⟨_, same, loaded⟩ := loads 0 _ _ _ rfl ran
  cases same
  exact loaded

theorem loadsBack_decoded {file : Option (List UInt8)} {settings : CurrentSettings}
    {allowed : CurrentSettings → Prop} (read : decodedFile codec file = some settings) :
    LoadsBack codec file allowed ↔ allowed settings := by
  constructor
  · intro loads
    apply loads.allowed
    rw [runs_loadOrDefault]
    exact ⟨rfl, by simp only [World.fresh, read]⟩
  · rintro loaded thread later result after rfl ran
    obtain ⟨_, found⟩ := runs_loadOrDefault.mp ran
    rw [read] at found
    exact ⟨settings, found, loaded⟩

theorem loadsBack_rejected {file : Option (List UInt8)} {allowed : CurrentSettings → Prop}
    (read : decodedFile codec file = none) :
    LoadsBack codec file allowed ↔ ∀ clock, allowed (CurrentSettings.default clock) := by
  constructor
  · intro loads clock
    apply loads.allowed
    rw [runs_loadOrDefault]
    simp only [World.fresh, read]
    exact ⟨trivial, clock, rfl⟩
  · rintro loaded thread later result after rfl ran
    obtain ⟨_, found⟩ := runs_loadOrDefault.mp ran
    rw [read] at found
    obtain ⟨clock, rfl⟩ := found
    exact ⟨_, rfl, loaded clock⟩

theorem exists_default_ne (old new : CurrentSettings) : ∃ clock,
    CurrentSettings.default clock ≠ old ∧ CurrentSettings.default clock ≠ new := by
  obtain ⟨clock, notOld, notNew⟩ : ∃ clock : UInt64,
      clock ≠ old.telemetryClientId ∧ clock ≠ new.telemetryClientId := by
    by_contra none
    push Not at none
    have zero := none 0
    have one := none 1
    have two := none 2
    grind
  exact ⟨clock, fun same => notOld (congrArg CurrentSettings.telemetryClientId same),
    fun same => notNew (congrArg CurrentSettings.telemetryClientId same)⟩

/-- Wherever the save stopped, a later load gives the old or the new settings,
and the new ones if the save reported success. -/
def Durable (codec : SettingsCodec) (old new : CurrentSettings)
    (stopped : Option (Except Failure Unit) × World) : Prop :=
  LoadsBack codec stopped.2.stateFile (fun settings => settings = old ∨ settings = new) ∧
  (stopped.1 = some (.ok ()) → LoadsBack codec stopped.2.stateFile (· = new))

/-- A save is durable exactly when it stopped or failed before it truncated the
file, or all of the encoded bytes got through. -/
theorem durable_iff (held : before.stateFile = some (codec.encode old)) :
    Durable codec old new (saveCut codec thread new choices steps before) ↔
      BeforeTruncation choices steps ∨
      (4 ≤ steps ∧ flushed codec new choices = codec.encode new) := by
  by_cases early : BeforeTruncation choices steps
  · obtain ⟨file, notOk⟩ : (saveCut codec thread new choices steps before).2.stateFile =
        before.stateFile ∧ _ := saveCut_beforeTruncation early
    have read : decodedFile codec before.stateFile = some old := by
      rw [held]
      exact codec.decode_encode old
    rw [Durable, file, loadsBack_decoded read]
    exact iff_of_true ⟨.inl rfl, fun ok => absurd ok notOk⟩ (.inl early)
  · have file : (saveCut codec thread new choices steps before).2.stateFile = _ :=
      saveCut_truncated early
    by_cases complete : 4 ≤ steps ∧ flushed codec new choices = codec.encode new
    · rw [if_neg (by omega), complete.2] at file
      have read : decodedFile codec (some (codec.encode new)) = some new :=
        codec.decode_encode new
      rw [Durable, file, loadsBack_decoded read, loadsBack_decoded read]
      exact iff_of_true ⟨.inr rfl, fun _ => rfl⟩ (.inr complete)
    · have brokenOff : ∃ bytes, (saveCut codec thread new choices steps before).2.stateFile =
          some bytes ∧ bytes <+: codec.encode new ∧ bytes ≠ codec.encode new := by
        by_cases short : steps < 4
        · rw [if_pos short] at file
          exact ⟨[], file, List.nil_prefix, (codec.encode_ne_nil new).symm⟩
        · rw [if_neg short] at file
          exact ⟨_, file, (Choice.passed_prefix _ _).trans (Choice.passed_prefix _ _),
            fun same => complete ⟨by omega, same⟩⟩
      obtain ⟨bytes, file, isPrefix, incomplete⟩ := brokenOff
      have read : decodedFile codec (some bytes) = none :=
        codec.decode_strictPrefix new bytes isPrefix incomplete
      refine iff_of_false ?_ (not_or.mpr ⟨early, complete⟩)
      rintro ⟨loads, -⟩
      rw [file, loadsBack_rejected read] at loads
      obtain ⟨clock, notOld, notNew⟩ := exists_default_ne old new
      exact (loads clock).elim notOld notNew

theorem durable_iff_complete :
    Durable .bincode (CurrentSettings.default 1) (CurrentSettings.default 2)
      (saveCut .bincode 0 (CurrentSettings.default 2) [] 4
        (World.fresh (fun _ => 0) (some (SettingsCodec.bincode.encode (CurrentSettings.default 1))))) :=
  (durable_iff rfl).mpr (.inr ⟨by decide, rfl⟩)

/-- The disk is full when the writer is dropped: the save reports success and
the file it leaves is empty. -/
theorem full_disk_not_durable :
    ¬ Durable .bincode (CurrentSettings.default 1) (CurrentSettings.default 2)
      (saveCut .bincode 0 (CurrentSettings.default 2)
        [{}, {}, {}, { failure := some "No space left on device" }] 4
        (World.fresh (fun _ => 0)
          (some (SettingsCodec.bincode.encode (CurrentSettings.default 1))))) := by
  rintro ⟨-, loadsNew⟩
  have read : decodedFile .bincode (some []) = none := rfl
  exact absurd ((loadsBack_rejected read).mp (loadsNew rfl) 3) (by decide)

end Lecoo.Daemon
