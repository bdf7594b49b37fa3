import Lecoo.Effects.Triple
import Lecoo.Daemon.Requests
import Lecoo.Daemon.Durability

namespace Lecoo.Ec.EcDevice

/-- A register of a feature is at the address. -/
def Owns (ec : EcDevice) (addr : UInt16) : Prop :=
  ∃ register ∈ Register.all, register.feature ≠ none ∧ ec.address register = addr

instance (ec : EcDevice) (addr : UInt16) : Decidable (ec.Owns addr) :=
  inferInstanceAs (Decidable (∃ register ∈ Register.all, _))

theorem owns_address (ec : EcDevice) {register : Register} (owned : register.feature ≠ none) :
    ec.Owns (ec.address register) :=
  ⟨register, register.mem_all, owned, rfl⟩

end Lecoo.Ec.EcDevice

namespace Lecoo.Daemon

open Lecoo.Effects Lecoo.Ipc Lecoo.Ec Lecoo.Data

/-! # The daemon on hardware that goes on measuring

The registers of the features change only when the daemon writes them; the
others are the EC's own, and may change before any operation of the daemon.
-/

namespace World

/-- The EC has put new values where no feature has a register. -/
def drift (ec : EcDevice) (sensors : EcMemory) (world : World) : World :=
  { world with ec := fun addr => if ec.Owns addr then world.ec addr else sensors addr }

def switched (world : World) (telemetryEnabled : Bool) : World := { world with telemetryEnabled }

/-- The same but for what the EC measures. -/
structure Alike (ec : EcDevice) (before after : World) : Prop where
  owned : ∀ register : Register, register.feature ≠ none →
    after.registers ec register = before.registers ec register
  flag : after.ledCustom = before.ledCustom
  elsewhere : before.SameElsewhere after

variable {ec : EcDevice} {world before after : World}

theorem Alike.refl (ec : EcDevice) (world : World) : world.Alike ec world :=
  ⟨fun _ _ => rfl, rfl, .refl world⟩

theorem Alike.drift (alike : before.Alike ec after) (sensors : EcMemory) :
    before.Alike ec (after.drift ec sensors) where
  owned register owned := by
    rw [← alike.owned register owned]
    exact if_pos (ec.owns_address owned)
  flag := alike.flag
  elsewhere := alike.elsewhere.trans ⟨rfl, rfl, rfl, rfl, rfl, rfl, rfl, rfl, rfl, rfl⟩

/-- What changes alike worlds outside the EC leaves them alike. -/
theorem Alike.map (alike : before.Alike ec after) (change : World → World)
    (memory : ∀ world, (change world).ec = world.ec)
    (flag : (change after).ledCustom = (change before).ledCustom)
    (elsewhere : (change before).SameElsewhere (change after)) :
    (change before).Alike ec (change after) where
  owned register owned := by
    have kept := alike.owned register owned
    simp only [registers] at kept ⊢
    rw [memory, memory, kept]
  flag := flag
  elsewhere := elsewhere

theorem Alike.ledCoherent (alike : before.Alike ec after) (coherent : before.LedCoherent ec) :
    after.LedCoherent ec := by
  intro flag
  rw [alike.owned .ledBypass (by simp [Register.feature]),
    alike.owned .gpioA0Mux (by simp [Register.feature])]
  exact coherent (alike.flag ▸ flag)

theorem Alike.holds (alike : before.Alike ec after) {setter : Setter}
    (held : (before.registers ec).Holds setter.prescribes) :
    (after.registers ec).Holds setter.prescribes := by
  intro entry member
  rw [alike.owned entry.1 (by rw [setter.prescribes_feature entry member]; simp)]
  exact held entry member

end World

/-- An environment in which nothing fails; it chooses the clock and what the EC measures. -/
def driftingSemantics (ec : EcDevice) (codec : SettingsCodec) (thread : ThreadId) :
    Semantics daemonOps (UInt64 × EcMemory) World :=
  fun operation choice world => daemonSemantics codec thread operation { clock := choice.1 }
    (world.drift ec choice.2)

/-- From a world, up to what the EC measures, a computation leads to the given
result and to the given world, up to what the EC measures. -/
def Yields {α : Type} (ec : EcDevice) (codec : SettingsCodec) (thread : ThreadId) (before : World)
    (computation : Io α) (result : Except Failure α) (after : World) : Prop :=
  Fallible.Ensures (driftingSemantics ec codec thread) (before.Alike ec) computation
    fun outcome world => outcome = result ∧ after.Alike ec world

/-- A computation ends as the condition says, up to what the EC measures. -/
def Leads {α : Type} (ec : EcDevice) (codec : SettingsCodec) (thread : ThreadId) (before : World)
    (computation : Io α) (ending : Except Failure α → World → Prop) : Prop :=
  Fallible.Ensures (driftingSemantics ec codec thread) (before.Alike ec) computation
    fun outcome world => ∃ after, ending outcome after ∧ after.Alike ec world

/-- A computation changes nothing, and succeeds with whatever there is to read. -/
def Senses {α : Type} (ec : EcDevice) (codec : SettingsCodec) (thread : ThreadId)
    (computation : Io α) : Prop :=
  ∀ before, Leads ec codec thread before computation fun outcome after =>
    ∃ value, outcome = .ok value ∧ after = before

variable {α β : Type} {ec : EcDevice} {codec : SettingsCodec} {thread : ThreadId}
  {before middle after : World}

theorem Yields.leads {computation : Io α} {result : Except Failure α}
    {ending : Except Failure α → World → Prop}
    (yields : Yields ec codec thread before computation result after)
    (met : ending result after) : Leads ec codec thread before computation ending := by
  intro world outcome reached alike ran
  obtain ⟨rfl, alike⟩ := yields _ _ _ alike ran
  exact ⟨after, met, alike⟩

theorem Leads.yields {computation : Io α} {result : Except Failure α}
    (leads : Leads ec codec thread before computation fun outcome world =>
      outcome = result ∧ world = after) :
    Yields ec codec thread before computation result after := by
  intro world outcome reached alike ran
  obtain ⟨_, ⟨rfl, rfl⟩, alike⟩ := leads _ _ _ alike ran
  exact ⟨rfl, alike⟩

theorem yields_pure (value : α) : Yields ec codec thread before (pure value) (.ok value) before :=
  Fallible.ensures_pure fun _ alike => ⟨rfl, alike⟩

theorem yields_throw (failure : Failure) :
    Yields ec codec thread before (throw failure : Io α) (.error failure) before := by
  intro world outcome reached alike ran
  obtain ⟨rfl, rfl⟩ := ran
  exact ⟨rfl, alike⟩

theorem yields_failed {computation : Io α} {rest : α → Io β} {failure : Failure}
    (first : Yields ec codec thread before computation (.error failure) after) :
    Yields ec codec thread before (computation >>= rest) (.error failure) after := by
  intro world outcome reached alike ran
  rcases Fallible.runs_bind.mp ran with ⟨other, rfl, begun⟩ | ⟨found, between, begun, _⟩
  · obtain ⟨same, alike⟩ := first _ _ _ alike begun
    cases same
    exact ⟨rfl, alike⟩
  · cases (first _ _ _ alike begun).1

/-- An operation that never fails and works on the world outside the EC. -/
theorem yields_effect {operation : DaemonOp} {reply : daemonOps.Reply operation}
    (change : World → World) (moved : ∀ clock world, before.SameElsewhere world →
      daemonSemantics codec thread operation { clock } world = (reply, change world))
    (memory : ∀ world, (change world).ec = world.ec)
    (flag : ∀ world, (change world).ledCustom = world.ledCustom)
    (kept : ∀ world, before.SameElsewhere world → (change before).SameElsewhere (change world)) :
    Yields ec codec thread before (Fallible.always (Io.perform operation)) (.ok reply)
      (change before) := by
  refine Fallible.ensures_always (Program.ensures_request fun choice world alike => ?_)
  have drifted := alike.drift choice.2
  rw [driftingSemantics, moved choice.1 _ drifted.elsewhere]
  exact ⟨rfl, drifted.map change memory ((flag _).trans (drifted.flag.trans (flag _).symm))
    (kept _ drifted.elsewhere)⟩

theorem leads_then {computation : Io α} {rest : α → Io β} {met : α → World → Prop}
    {ending : Except Failure β → World → Prop}
    (first : Leads ec codec thread before computation fun outcome after =>
      ∃ value, outcome = .ok value ∧ met value after)
    (second : ∀ value after, met value after → Leads ec codec thread after (rest value) ending) :
    Leads ec codec thread before (computation >>= rest) ending := by
  intro world outcome reached alike ran
  rcases Fallible.runs_bind.mp ran with ⟨failure, _, begun⟩ | ⟨found, between, begun, ended⟩
  · obtain ⟨_, ⟨value, impossible, _⟩, _⟩ := first _ _ _ alike begun
    cases impossible
  · obtain ⟨middle, ⟨value, same, reached⟩, kept⟩ := first _ _ _ alike begun
    cases same
    exact second _ _ reached _ _ _ kept ended

theorem leads_bind {computation : Io α} {rest : α → Io β} {value : α}
    {ending : Except Failure β → World → Prop}
    (first : Yields ec codec thread before computation (.ok value) middle)
    (second : Leads ec codec thread middle (rest value) ending) :
    Leads ec codec thread before (computation >>= rest) ending := by
  have found : Leads ec codec thread before computation fun outcome after =>
      ∃ other, outcome = .ok other ∧ other = value ∧ after = middle :=
    first.leads ⟨value, rfl, rfl, rfl⟩
  refine leads_then found ?_
  rintro _ _ ⟨rfl, rfl⟩
  exact second

theorem yields_bind {computation : Io α} {rest : α → Io β} {value : α} {result : Except Failure β}
    (first : Yields ec codec thread before computation (.ok value) middle)
    (second : Yields ec codec thread middle (rest value) result after) :
    Yields ec codec thread before (computation >>= rest) result after :=
  (leads_bind first (second.leads ⟨rfl, rfl⟩)).yields

theorem leads_sensed {computation : Io α} {rest : α → Io β}
    {ending : Except Failure β → World → Prop} (first : Senses ec codec thread computation)
    (second : ∀ value, Leads ec codec thread before (rest value) ending) :
    Leads ec codec thread before (computation >>= rest) ending :=
  leads_then (first before) fun value _ same => same ▸ second value

theorem leads_ok? {computation : Io α} {ending : Except Failure (Option α) → World → Prop}
    (leads : Leads ec codec thread before computation fun outcome after =>
      ending (Io.discard outcome) after) :
    Leads ec codec thread before (Io.ok? computation) ending := by
  intro world outcome reached alike ran
  obtain ⟨found, inner, rfl⟩ := Io.runs_ok?.mp ran
  exact leads _ _ _ alike inner

/-- What is read is there, and so going on without a value is no case. -/
theorem leads_sensed_ok? {computation : Io α} {rest : Option α → Io β}
    {ending : Except Failure β → World → Prop} (first : Senses ec codec thread computation)
    (second : ∀ value, Leads ec codec thread before (rest (some value)) ending) :
    Leads ec codec thread before (Io.ok? computation >>= rest) ending := by
  have found : Leads ec codec thread before (Io.ok? computation) fun outcome after =>
      ∃ value, outcome = .ok value ∧ (∃ sensed, value = some sensed) ∧ after = before := by
    refine leads_ok? fun world outcome reached alike ran => ?_
    obtain ⟨after, ⟨value, rfl, same⟩, kept⟩ := first before _ _ _ alike ran
    exact ⟨after, ⟨some value, rfl, ⟨value, rfl⟩, same⟩, kept⟩
  refine leads_then found ?_
  rintro _ _ ⟨⟨value, rfl⟩, rfl⟩
  exact second value

theorem yields_ok? {computation : Io α} {result : Except Failure α}
    (yields : Yields ec codec thread before computation result after) :
    Yields ec codec thread before (Io.ok? computation) (Io.discard result) after :=
  (leads_ok? (yields.leads ⟨rfl, rfl⟩)).yields

/-- A batch that leads from memories that agree on the registers of the features to such. -/
theorem yields_batch {body : EcBatch α} {value : α} (change : EcMemory → EcMemory)
    (ran : ∀ world, before.Alike ec world →
      Program.run accessSemantics body.run [] world.ec = (.ok value, change world.ec))
    (kept : ∀ world, before.Alike ec world →
      ({ before with ec := change before.ec } : World).Alike ec
        { world with ec := change world.ec }) :
    Yields ec codec thread before (withBatch body) (.ok value)
      { before with ec := change before.ec } := by
  rintro world outcome reached alike ⟨choice, rfl, rfl⟩
  have drifted := alike.drift choice.2
  have ended := ran _ drifted
  simp only [driftingSemantics, daemonSemantics, ended]
  exact ⟨trivial, kept _ drifted⟩

theorem yields_readState : Yields ec codec thread before Io.readState (.ok before.settings) before :=
  yields_effect id (fun _ _ same => by rw [daemonSemantics, same.settings]; rfl) (fun _ => rfl)
    (fun _ => rfl) fun _ same => same

theorem yields_writeState (settings : CurrentSettings) :
    Yields ec codec thread before (Io.writeState settings) (.ok ())
      (before.withSettings settings) :=
  yields_effect (World.withSettings · settings) (fun _ _ _ => rfl) (fun _ => rfl) (fun _ => rfl)
    fun _ same => { same with settings := rfl }

theorem yields_modifyState (change : CurrentSettings → CurrentSettings) :
    Yields ec codec thread before (Io.modifyState change) (.ok ())
      (before.withSettings (change before.settings)) :=
  yields_bind yields_readState (yields_writeState _)

/-- The guard is free, and is given back at the end of the scope. -/
theorem leads_withState {scope : Io α} {ending : Except Failure α → World → Prop}
    (free : before.stateLock = none)
    (leads : Leads ec codec thread (before.lockedBy (some thread)) scope fun outcome after =>
      ending outcome (after.lockedBy none)) :
    Leads ec codec thread before (withState scope) ending := by
  intro world outcome reached alike ran
  obtain ⟨choice, ran⟩ := ran
  have drifted := alike.drift choice.2
  rw [driftingSemantics, tryLockState_free (drifted.elsewhere.stateLock.trans free)] at ran
  obtain ⟨found, middle, inner, clock, rfl, rfl⟩ := Program.runs_bind.mp
    (show Program.Runs _ (scope.run >>= fun outcome =>
      Io.perform .unlockState >>= fun _ => pure outcome) _ _ _ from ran)
  obtain ⟨ended, met, within⟩ := leads _ _ _ (drifted.map (World.lockedBy · (some thread))
    (fun _ => rfl) drifted.flag { drifted.elsewhere with stateLock := rfl }) inner
  have last := within.drift clock.2
  exact ⟨_, met, last.map (World.lockedBy · none) (fun _ => rfl) last.flag
    { last.elsewhere with stateLock := rfl }⟩

theorem yields_withState {scope : Io α} {result : Except Failure α}
    (free : before.stateLock = none)
    (yields : Yields ec codec thread (before.lockedBy (some thread)) scope result after) :
    Yields ec codec thread before (withState scope) result (after.lockedBy none) :=
  (leads_withState free (yields.leads ⟨rfl, rfl⟩)).yields

theorem senses_clock : Senses ec codec thread Io.systemTimeHash := by
  rintro before world outcome reached alike ⟨choice, rfl, rfl⟩
  exact ⟨before, ⟨choice.1, rfl, rfl⟩, alike.drift choice.2⟩

/-- The settings as they are in memory come to be the content of the file. -/
theorem yields_save (settings : CurrentSettings) :
    Yields ec codec thread before (save settings) (.ok ())
      (before.withFile (some (codec.encode settings))) := by
  intro world outcome reached alike ran
  rw [save_run] at ran
  obtain ⟨made, created, encoded, dropped, ran⟩ := ran
  obtain ⟨rfl, rfl⟩ := ran
  have last := (((alike.drift made.2).drift created.2).drift encoded.2).drift dropped.2
  exact ⟨rfl, last.map (World.withFile · (some (codec.encode settings)))
    (fun _ => rfl) last.flag { last.elsewhere with stateFile := rfl }⟩

/-- Both switch functions of the telemetry store a constant. -/
theorem yields_switch (isEnabled : Bool) :
    Yields ec codec thread before
      (Fallible.always (Io.perform (.storeTelemetryEnabled isEnabled))) (.ok ())
      (before.switched isEnabled) :=
  yields_effect (World.switched · isEnabled) (fun _ _ _ => rfl) (fun _ => rfl) (fun _ => rfl)
    fun _ same => { same with telemetryEnabled := rfl }

theorem yields_loadLedCustom :
    Yields ec codec thread before Io.loadLedCustom (.ok before.ledCustom) before := by
  refine Fallible.ensures_always (Program.ensures_request fun choice world alike => ?_)
  exact ⟨congrArg Except.ok alike.flag, alike.drift choice.2⟩

theorem yields_storeLedCustom (value : Bool) :
    Yields ec codec thread before (Io.storeLedCustom value) (.ok ())
      (before.act ec (.storeLed value)) := by
  refine Fallible.ensures_always (Program.ensures_request fun choice world alike => ?_)
  have drifted := alike.drift choice.2
  exact ⟨rfl, drifted.owned, rfl, { drifted.elsewhere with }⟩

/-- Registers are read and nothing is concluded from what is there. -/
theorem senses_batch {body : EcBatch α} (reads : Fallible.Uses Access.IsRead body)
    (view : EcMemory → α)
    (ran : ∀ memory, (Program.run accessSemantics body.run [] memory).1 = .ok (view memory)) :
    Senses ec codec thread (withBatch body) := by
  rintro before world outcome reached alike ⟨choice, rfl, rfl⟩
  have drifted := alike.drift choice.2
  refine ⟨before, ⟨view (world.drift ec choice.2).ec, ran _, rfl⟩, ?_⟩
  have kept := EcBatch.runs_isRead reads (Program.run_runs _ [] (world.drift ec choice.2).ec)
  simp only [driftingSemantics, daemonSemantics, kept]
  exact drifted

theorem yields_readReg (register : Register) {value : UInt8} (owned : register.feature ≠ none)
    (held : before.registers ec register = value) :
    Yields ec codec thread before (ec.readReg (ec.address register)) (.ok value) before :=
  yields_batch id (fun _ alike => by rw [← held, ← alike.owned register owned]; rfl)
    fun _ alike => alike

theorem yields_writes (writes : List (Register × UInt8)) :
    Yields ec codec thread before (withBatch (EcBatch.writes (ec.place writes))) (.ok ())
      (before.play ec (writeActions writes)) := by
  rw [World.play_writes]
  refine yields_batch (Memory.writeAll · (ec.place writes))
    (fun _ _ => EcBatch.run_writes _ _) fun _ alike => ?_
  exact ⟨fun register owned => Memory.writeAll_congr _ (alike.owned register owned), alike.flag,
    { alike.elsewhere with }⟩

theorem yields_script (steps : List Step) :
    Yields ec codec thread before (script ec steps) (.ok ())
      (before.play ec (actionsOf steps)) := by
  induction steps generalizing before with
  | nil => exact yields_pure ()
  | cons step rest ih =>
      cases step with
      | batch writes =>
          rw [actionsOf_batch, World.play_append]
          exact yields_bind (yields_writes writes) ih
      | storeLed value => exact yields_bind (yields_storeLedCustom value) ih

theorem yields_applyLedMode (mode : PowerLedMode) :
    Yields ec codec thread before (applyLedMode ec mode) (.ok ())
      (before.play ec (actionsOf (ledSteps before.ledCustom mode))) := by
  by_cases auto : mode = .auto
  · rw [auto, applyLedMode_auto, ledSteps_auto before.ledCustom true]
    exact yields_script _
  · rw [applyLedMode_eq auto]
    exact yields_bind yields_loadLedCustom (yields_script _)

theorem yields_apply (setter : Setter) (valid : setter.Valid) :
    Yields ec codec thread before (setter.apply ec) (.ok ())
      (before.play ec (setter.actions ec before)) := by
  cases setter with
  | fanMode fan mode =>
      rw [Setter.apply, applyFanMode_eq fan valid]
      exact yields_script _
  | ledMode mode => exact yields_applyLedMode mode
  | keyboardBacklight level =>
      rw [Setter.apply, applyKeyboardBacklight_eq]
      exact yields_script _
  | chargeLimit limit =>
      rw [Setter.apply, applyChargeLimit_eq]
      exact yields_script _
  | powerProfile profile =>
      rw [Setter.apply, applyPowerProfile_eq, bind_assoc]
      simp only [pure_bind, bind_pure_unit]
      exact yields_script _
  | batteryLeds orangeOn whiteOn =>
      rw [Setter.apply, applyBatteryLeds_eq]
      exact yields_bind (yields_readReg .gpdra (by simp [Register.feature]) rfl)
        (yields_script _)

theorem yields_applyAll {setters : List Setter} (valid : ∀ setter ∈ setters, setter.Valid) :
    Yields ec codec thread before (Setter.applyAll ec setters) (.ok ())
      (before.play ec (Setter.actionsAll ec setters before)) := by
  induction setters generalizing before with
  | nil => exact yields_pure ()
  | cons setter rest ih =>
      rw [Setter.actionsAll, World.play_append]
      exact yields_bind (yields_apply setter (valid setter List.mem_cons_self))
        (ih fun next member => valid next (List.mem_cons_of_mem _ member))

theorem yields_refused (fan : FanIndex) {duty : UInt8} (excessive : duty > 220) :
    Yields ec codec thread before ((Setter.fanMode fan (.custom duty)).apply ec)
      (.error (.error s!"Requested fan duty cycle ({duty}) exceeds safe limit (220).")) before := by
  rw [Setter.apply, applyFanMode_refused fan excessive]
  exact yields_throw _

/-- The world as a program sees it that does not look at the EC. -/
def World.blind (world : World) : World := { world with ec := fun _ => 0 }

theorem daemonSemantics_forLoading {operation : DaemonOp} (loads : operation.ForLoading)
    (choice : Choice) (world : World) :
    (daemonSemantics codec thread operation choice world).2.ec = world.ec := by
  rcases loads with onFile | rfl
  · obtain ⟨stateFile, written⟩ : ∃ stateFile,
        (daemonSemantics codec thread operation choice world).2 = world.withFile stateFile :=
      daemonSemantics_onFile onFile choice world
    rw [written]
    rfl
  · rfl

/-- Loading finds the settings of the file, or the defaults at some time where there is none. -/
theorem leads_loadOrDefault : Leads ec codec thread before loadOrDefault fun outcome after =>
    ∃ settings, outcome = .ok settings ∧ (match decodedFile codec before.stateFile with
      | some decoded => settings = decoded
      | none => ∃ clock, settings = CurrentSettings.default clock) ∧ after = before := by
  intro world outcome reached alike ran
  have loaded : Fallible.Runs (calmSemantics codec thread) loadOrDefault world.blind outcome
      reached.blind := by
    refine Program.Uses.transfer World.blind loadOrDefault_loads ?_ ran
    intro operation choice world loads
    refine ⟨choice.1, ?_⟩
    rcases loads with onFile | rfl
    · cases operation with
      | decodeStateFile =>
          simp only [driftingSemantics, calmSemantics, daemonSemantics, World.drift, World.blind]
          cases world.stateFile.bind codec.decode <;> rfl
      | createStateDir | createStateFile | encodeSettings | dropWriter | stateFileExists
      | openStateFile => rfl
      | _ => cases onFile
    · rfl
  obtain ⟨unchanged, found⟩ := runs_loadOrDefault.mp loaded
  have owned : ∀ register : Register, register.feature ≠ none →
      reached.registers ec register = world.registers ec register := by
    refine Program.Uses.preserves (fun before after : World => ∀ register : Register,
      register.feature ≠ none → after.registers ec register = before.registers ec register)
      loadOrDefault_loads (fun _ _ _ => rfl) ?_ ?_ ran
    · exact fun first second register owned => (second register owned).trans (first register owned)
    · intro operation choice state loads register owned
      simp only [World.registers, driftingSemantics, daemonSemantics_forLoading loads]
      exact if_pos (ec.owns_address owned)
  have elsewhere : world.blind.SameElsewhere reached.blind := unchanged ▸ .refl _
  have same : before.Alike ec reached := {
    owned := fun register member => (owned register member).trans (alike.owned register member)
    flag := (congrArg World.ledCustom unchanged).trans alike.flag
    elsewhere := alike.elsewhere.trans { elsewhere with } }
  have file : world.blind.stateFile = before.stateFile := alike.elsewhere.stateFile
  rw [file] at found
  refine ⟨before, ?_, same⟩
  cases read : decodedFile codec before.stateFile with
  | some decoded =>
      simp only [read] at found
      exact ⟨decoded, found, rfl, rfl⟩
  | none =>
      simp only [read] at found
      obtain ⟨clock, rfl⟩ := found
      exact ⟨_, rfl, ⟨clock, rfl⟩, rfl⟩

end Lecoo.Daemon
