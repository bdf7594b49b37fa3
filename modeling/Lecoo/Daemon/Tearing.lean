import Lecoo.Effects.Observe
import Lecoo.Ec.Independence

namespace Lecoo.Daemon

open Lecoo.Effects Lecoo.Ipc Lecoo.Ec Lecoo.Data Fallible

/-! # Readings of several registers

What a reader of several registers returns should have been in force at one
instant.  A reader that makes its reads in one batch cannot miss that; the
reader of the charge limit makes them one by one.
-/

inductive Query where
  | chargeLimit
  | keyboardBacklight
  | fansRpm
  | temperatures
  | systemInfo
deriving DecidableEq

inductive Reading where
  | chargeLimit (min max : UInt8)
  | keyboardBacklight (level : KeyboardBacklightLevel)
  | fansRpm (cpu gpu : UInt16)
  | temperatures (cpu sys : UInt8)
  | systemInfo (chipId1 chipId2 chipVer : UInt8)
  | applied
deriving DecidableEq

def chargeInForce (registers : Memory Register UInt8) : UInt8 × UInt8 :=
  (registers .batLimitMin, registers .batLimitMax)

/-- The level the two keyboard registers stand for, if any. -/
def keyboardInForce (registers : Memory Register UInt8) : Option KeyboardBacklightLevel :=
  match registers .kbdBacklight with
  | 0x00 => some .off
  | 0x01 => some .low
  | 0x02 => some .medium
  | 0x03 => some .high
  | 0xFF => some (.custom (registers .kbdCustomVal))
  | _ => none

/-- A fan speed is kept in two registers. -/
def joinBytes (msb lsb : UInt8) : UInt16 := (msb.toUInt16 <<< 8) ||| lsb.toUInt16

/-- The answer to a query at one instant. -/
def Query.inForce (registers : Memory Register UInt8) : Query → Option Reading
  | .chargeLimit =>
      let (min, max) := chargeInForce registers
      some (.chargeLimit min max)
  | .keyboardBacklight => (keyboardInForce registers).map .keyboardBacklight
  | .fansRpm => some (.fansRpm (joinBytes (registers .fanCpuMsb) (registers .fanCpuLsb))
      (joinBytes (registers .fanGpuMsb) (registers .fanGpuLsb)))
  | .temperatures => some (.temperatures (registers .tempCpu) (registers .tempSys))
  | .systemInfo =>
      some (.systemInfo (registers .chipId1) (registers .chipId2) (registers .chipVer))

/-- What a thread does: read, or apply a setting of several registers. -/
inductive Duty where
  | read (query : Query)
  | applyChargeLimit (limit : ChargeLimit)
  | applyKeyboardBacklight (level : KeyboardBacklightLevel)
deriving DecidableEq

def Duty.code (ec : EcDevice) : Duty → Io Reading
  | .read .chargeLimit => do
      let (min, max) ← readChargeLimit ec
      return .chargeLimit min max
  | .read .keyboardBacklight => do
      let level ← readKeyboardBacklight ec
      return .keyboardBacklight level
  | .read .fansRpm => do
      let (cpu, gpu) ← readFansRpm ec
      return .fansRpm cpu gpu
  | .read .temperatures => do
      let (cpu, sys) ← readTemperatures ec
      return .temperatures cpu sys
  | .read .systemInfo => do
      let (chipId1, chipId2, chipVer) ← readSystemInfo ec
      return .systemInfo chipId1 chipId2 chipVer
  | .applyChargeLimit limit => do
      Ec.applyChargeLimit ec limit
      return .applied
  | .applyKeyboardBacklight level => do
      Ec.applyKeyboardBacklight ec level
      return .applied

abbrev ReadingPool := Observed daemonOps ThreadId Duty (Except Failure Reading) World

abbrev ReadingActivity := Activity daemonOps Duty (Except Failure Reading)

abbrev Instant := Occurrence ThreadId Duty Choice World

def sharedRegisters : List Register :=
  [.batLimitMin, .batLimitMax, .kbdBacklight, .kbdCustomVal]

/-- No register access fails, and whatever else changes the EC leaves the
registers of the two settings alone. -/
def Regular (ec : EcDevice) (observed : ReadingPool) : Instant → Prop
  | .step (.act _ choice) => ∀ access ∈ choice.accesses, access = none
  | .step _ => True
  | .outside world => ∀ register ∈ sharedRegisters,
      world.registers ec register = observed.pool.world.registers ec register

/-- When a reader of the charge limit makes its second step, the lower bound in force is the
one that was in force at its first step. -/
def LimitUnchanged (ec : EcDevice) (observed : ReadingPool) : Instant → Prop
  | .step (.act thread _) => ∀ activity first,
      observed.pool.thread thread = some activity → activity.job = .read .chargeLimit →
      observed.met thread = [first] →
      observed.pool.world.registers ec .batLimitMin = first.registers ec .batLimitMin
  | _ => True

abbrev ReadingRun (codec : SettingsCodec) (ec : EcDevice)
    (allowed : ReadingPool → Instant → Prop) :=
  Observed.Run (fun duty : Duty => (duty.code ec).run) (fun thread _ => daemonSemantics codec thread)
    allowed

/-- What a reader returns was wholly in force at an instant since it was
started, and a charge limit it returns is one there is. -/
def Untorn (ec : EcDevice) (observed : ReadingPool) : Prop :=
  ∀ thread query result, observed.pool.thread thread = some ⟨.read query, .done result⟩ →
    ∃ reading, result = .ok reading ∧
      (∃ world ∈ observed.since thread, query.inForce (world.registers ec) = some reading) ∧
      ∀ min max, reading = .chargeLimit min max → ∃ limit : ChargeLimit, limit.asPercent = (min, max)

/-- The two settings are ones their setters can have written. -/
structure Legible (ec : EcDevice) (world : World) : Prop where
  charge : ∃ limit : ChargeLimit, chargeInForce (world.registers ec) = limit.asPercent
  keyboard : (keyboardInForce (world.registers ec)).isSome

/-- A setting stays as it is, or is replaced as a whole. -/
structure Replaces (ec : EcDevice) (before after : World) : Prop where
  charge : chargeInForce (after.registers ec) = chargeInForce (before.registers ec) ∨
    ∃ limit : ChargeLimit, chargeInForce (after.registers ec) = limit.asPercent
  keyboard : keyboardInForce (after.registers ec) = keyboardInForce (before.registers ec) ∨
    (keyboardInForce (after.registers ec)).isSome
  custom : after.registers ec .kbdCustomVal = before.registers ec .kbdCustomVal ∨
    keyboardInForce (after.registers ec) = some (.custom (after.registers ec .kbdCustomVal))

variable {codec : SettingsCodec} {ec : EcDevice} {before after world : World}

theorem Legible.replaces (legible : Legible ec before) (replaces : Replaces ec before after) :
    Legible ec after where
  charge := by
    rcases replaces.charge with same | set
    · rw [same]
      exact legible.charge
    · exact set
  keyboard := by
    rcases replaces.keyboard with same | set
    · rw [same]
      exact legible.keyboard
    · exact set

theorem replaces_of_shared (same : ∀ register ∈ sharedRegisters,
    after.registers ec register = before.registers ec register) : Replaces ec before after := by
  have min := same .batLimitMin (by decide)
  have max := same .batLimitMax (by decide)
  have level := same .kbdBacklight (by decide)
  have custom := same .kbdCustomVal (by decide)
  exact ⟨.inl (by rw [chargeInForce, chargeInForce, min, max]),
    .inl (by rw [keyboardInForce, keyboardInForce, level, custom]), .inl custom⟩

theorem replaces_refl (world : World) : Replaces ec world world :=
  replaces_of_shared fun _ _ => rfl

theorem keyboardInForce_of_prescribes {registers : Memory Register UInt8}
    {level : KeyboardBacklightLevel}
    (holds : registers.Holds (Setter.keyboardBacklight level).prescribes) :
    keyboardInForce registers = some level := by
  cases level <;> simp_all [Memory.Holds, Setter.prescribes, keyboardInForce]

theorem replaces_chargeLimit (sole : ec.Sole .charger) (limit : ChargeLimit) :
    Replaces ec before (before.play ec ((Setter.chargeLimit limit).actions ec before)) := by
  let after := before.play ec ((Setter.chargeLimit limit).actions ec before)
  have set : (after.registers ec).Holds (Setter.chargeLimit limit).prescribes :=
    (Setter.play_prescribed_iff sole).mpr fun impossible => by cases impossible
  have foreign : ∀ register : Register, register.feature = some .keyboard →
      after.registers ec register = before.registers ec register := by
    intro register own
    exact Setter.play_foreign sole before (by rw [own]; simp [Setter.feature])
  have level := foreign .kbdBacklight rfl
  have custom := foreign .kbdCustomVal rfl
  refine ⟨.inr ⟨limit, ?_⟩, .inl ?_, .inl custom⟩
  · exact Prod.ext (set (.batLimitMin, limit.asPercent.1) (by simp [Setter.prescribes]))
      (set (.batLimitMax, limit.asPercent.2) (by simp [Setter.prescribes]))
  · change keyboardInForce (after.registers ec) = keyboardInForce (before.registers ec)
    rw [keyboardInForce, keyboardInForce, level, custom]

/-- The setter of the keyboard replaces the level; only a custom level has a value. -/
theorem replaces_keyboardBacklight (sole : ec.Sole .keyboard) (level : KeyboardBacklightLevel) :
    Replaces ec before (before.play ec ((Setter.keyboardBacklight level).actions ec before)) := by
  let after := before.play ec ((Setter.keyboardBacklight level).actions ec before)
  have set : keyboardInForce (after.registers ec) = some level :=
    keyboardInForce_of_prescribes <|
      (Setter.play_prescribed_iff sole).mpr fun impossible => by cases impossible
  have foreign : ∀ register : Register, register.feature = some .charger →
      after.registers ec register = before.registers ec register := by
    intro register own
    exact Setter.play_foreign sole before (by rw [own]; simp [Setter.feature])
  have custom : after.registers ec .kbdCustomVal = (before.registers ec).writeAll
      (registerWrites ((Setter.keyboardBacklight level).actions ec before)) .kbdCustomVal :=
    Setter.play_own sole rfl
  change Replaces ec before after
  refine ⟨.inl ?_, .inr (by rw [set]; rfl), ?_⟩
  · rw [chargeInForce, chargeInForce, foreign .batLimitMin rfl, foreign .batLimitMax rfl]
  · cases level with
    | custom value =>
        right
        rw [set, custom]
        simp [Setter.actions, Setter.steps, keyboardSteps, writeActions]
    | _ =>
        left
        rw [custom]
        simp [Setter.actions, Setter.steps, keyboardSteps, writeActions]

/-- What `read_charge_limit` still has to do when it has read the lower bound. -/
def secondRead (ec : EcDevice) (min : UInt8) : Io Reading := do
  let max ← ec.readRam ec.offsets.ramBatLimitMax
  return .chargeLimit min max

/-- What `read_keyboard_backlight` still has to do when it has read the custom level. -/
def customValue (ec : EcDevice) : Io Reading := do
  let customValue ← ec.readReg ec.offsets.regKbdCustomVal
  return .keyboardBacklight (.custom customValue)

/-- What it does with the level it has read. -/
def levelRead (ec : EcDevice) : UInt8 → Io Reading
  | 0x00 => return .keyboardBacklight .off
  | 0x01 => return .keyboardBacklight .low
  | 0x02 => return .keyboardBacklight .medium
  | 0x03 => return .keyboardBacklight .high
  | 0xFF => customValue ec
  | v => Io.bail s!"Invalid keyboard backlight level: 0x{hexByte v}"

theorem daemonSemantics_writes {thread : ThreadId} {choice : Choice}
    (succeeds : ∀ access ∈ choice.accesses, access = none) (writes : List (Register × UInt8)) :
    daemonSemantics codec thread (.batch (EcBatch.writes (ec.place writes))) choice world =
      (.ok (), world.play ec (writeActions writes)) := by
  rw [daemonSemantics_succeeds succeeds, World.play_writes]
  simp only [daemonSemantics]
  rw [EcBatch.run_writes]

theorem code_chargeLimit :
    (Duty.read .chargeLimit).code ec =
      ec.readRam ec.offsets.ramBatLimitMin >>= fun min => secondRead ec min := by
  simp only [Duty.code, readChargeLimit, bind_assoc, pure_bind]
  rfl

theorem code_keyboardBacklight :
    (Duty.read .keyboardBacklight).code ec =
      ec.readReg ec.offsets.regKbdBacklight >>= fun level => levelRead ec level := by
  simp only [Duty.code, readKeyboardBacklight, bind_assoc]
  refine congrArg (ec.readReg ec.offsets.regKbdBacklight >>= ·) (funext fun level => ?_)
  fun_cases levelRead ec level
  case case5 => simp only [customValue, bind_assoc, pure_bind]
  case case6 =>
    simp only [*]
    rfl
  all_goals rfl

/-- Where a reader or a writer stands, and what it has seen so far. -/
inductive Position (ec : EcDevice) (world : World) (earlier met : List World)
    (activity : ReadingActivity) : Prop where
  | waiting (next : activity.todo = (activity.job.code ec).run) (begun : met = [])
  | betweenLimits (first : World) (begun : met = [first])
      (next : activity = ⟨.read .chargeLimit, (secondRead ec (first.registers ec .batLimitMin)).run⟩)
  | customLevel (next : activity = ⟨.read .keyboardBacklight, (customValue ec).run⟩)
      (seen : ∃ past ∈ world :: earlier, keyboardInForce (past.registers ec) =
        some (.custom (world.registers ec .kbdCustomVal)))
  | returned (query : Query) (reading : Reading)
      (next : activity = ⟨.read query, .done (.ok reading)⟩)
      (seen : ∃ past ∈ world :: earlier, query.inForce (past.registers ec) = some reading)
      (limit : ∀ min max, reading = .chargeLimit min max →
        ∃ limit : ChargeLimit, limit.asPercent = (min, max))
  | applied (next : activity.todo = .done (.ok .applied))
      (writer : ∀ query, activity.job ≠ .read query)

theorem Position.borne {earlier met : List World} {activity : ReadingActivity}
    (replaces : Replaces ec before after) (position : Position ec before earlier met activity) :
    Position ec after (before :: earlier) met activity := by
  cases position with
  | waiting next begun => exact .waiting next begun
  | betweenLimits first begun next => exact .betweenLimits first begun next
  | customLevel next seen =>
      refine .customLevel next ?_
      rcases replaces.custom with same | now
      · obtain ⟨past, member, level⟩ := seen
        exact ⟨past, List.mem_cons_of_mem _ member, same ▸ level⟩
      · exact ⟨after, List.mem_cons_self, now⟩
  | returned query reading next seen limit =>
      obtain ⟨past, member, level⟩ := seen
      exact .returned query reading next ⟨past, List.mem_cons_of_mem _ member, level⟩ limit
  | applied next writer => exact .applied next writer

variable {thread : ThreadId} {choice : Choice} {operation : DaemonOp}
  {rest : daemonOps.Reply operation → Task (Except Failure Reading)} {earlier met : List World}

theorem levelRead_position (set : (keyboardInForce (world.registers ec)).isSome) :
    Position ec world (world :: earlier) (world :: met)
      ⟨.read .keyboardBacklight, (levelRead ec (world.registers ec .kbdBacklight)).run⟩ := by
  have simple : ∀ level, keyboardInForce (world.registers ec) = some level →
      Position ec world (world :: earlier) (world :: met)
        ⟨.read .keyboardBacklight, .done (.ok (.keyboardBacklight level))⟩ := by
    intro level same
    refine .returned .keyboardBacklight _ rfl ⟨world, by simp, ?_⟩ fun _ _ other => by cases other
    rw [Query.inForce, same]
    rfl
  unfold keyboardInForce at set simple
  split at set
  case h_5 value =>
    rw [value]
    exact .customLevel rfl ⟨world, by simp, by simp [keyboardInForce, value]⟩
  case h_6 => cases set
  all_goals
    rename_i value
    rw [value] at simple ⊢
    exact simple _ rfl

theorem position_first (charger : ec.Sole .charger) (keyboard : ec.Sole .keyboard)
    (legible : Legible ec world) (succeeds : ∀ access ∈ choice.accesses, access = none)
    {duty : Duty} (next : .perform operation rest = (duty.code ec).run) :
    Replaces ec world (daemonSemantics codec thread operation choice world).2 ∧
    Position ec (daemonSemantics codec thread operation choice world).2 (world :: earlier) [world]
      ⟨duty, rest (daemonSemantics codec thread operation choice world).1⟩ := by
  cases duty with
  | read query =>
      cases query with
      | chargeLimit =>
          rw [code_chargeLimit] at next
          cases next
          rw [daemonSemantics_succeeds succeeds]
          exact ⟨replaces_refl world, .betweenLimits world rfl rfl⟩
      | keyboardBacklight =>
          rw [code_keyboardBacklight] at next
          cases next
          rw [daemonSemantics_succeeds succeeds]
          exact ⟨replaces_refl world, levelRead_position legible.keyboard⟩
      | fansRpm =>
          cases next
          rw [daemonSemantics_succeeds succeeds]
          exact ⟨replaces_refl world, .returned .fansRpm _ rfl ⟨world, by simp, rfl⟩
            fun _ _ other => by cases other⟩
      | temperatures =>
          cases next
          rw [daemonSemantics_succeeds succeeds]
          exact ⟨replaces_refl world, .returned .temperatures _ rfl ⟨world, by simp, rfl⟩
            fun _ _ other => by cases other⟩
      | systemInfo =>
          cases next
          rw [daemonSemantics_succeeds succeeds]
          exact ⟨replaces_refl world, .returned .systemInfo _ rfl ⟨world, by simp, rfl⟩
            fun _ _ other => by cases other⟩
  | applyChargeLimit limit =>
      rw [Duty.code, applyChargeLimit_eq, script_last] at next
      cases next
      rw [daemonSemantics_writes succeeds]
      refine ⟨?_, .applied rfl fun query same => by cases same⟩
      have replaces : Replaces ec world
          (world.play ec ((Setter.chargeLimit limit).actions ec world)) :=
        replaces_chargeLimit charger limit
      simpa [Setter.actions, Setter.steps] using replaces
  | applyKeyboardBacklight level =>
      obtain ⟨writes, single⟩ : ∃ writes, keyboardSteps level = [.batch writes] := by
        cases level <;> exact ⟨_, rfl⟩
      rw [Duty.code, applyKeyboardBacklight_eq, single, script_last] at next
      cases next
      rw [daemonSemantics_writes succeeds]
      refine ⟨?_, .applied rfl fun query same => by cases same⟩
      have replaces : Replaces ec world
          (world.play ec ((Setter.keyboardBacklight level).actions ec world)) :=
        replaces_keyboardBacklight keyboard level
      simpa [Setter.actions, Setter.steps, single] using replaces

theorem position_act (charger : ec.Sole .charger) (keyboard : ec.Sole .keyboard)
    (legible : Legible ec world) (succeeds : ∀ access ∈ choice.accesses, access = none)
    {duty : Duty} (position : Position ec world earlier met ⟨duty, .perform operation rest⟩)
    (unchanged : ∀ first, duty = .read .chargeLimit → met = [first] →
      world.registers ec .batLimitMin = first.registers ec .batLimitMin) :
    Replaces ec world (daemonSemantics codec thread operation choice world).2 ∧
    Position ec (daemonSemantics codec thread operation choice world).2 (world :: earlier)
      (world :: met) ⟨duty, rest (daemonSemantics codec thread operation choice world).1⟩ := by
  cases position with
  | waiting next begun =>
      subst begun
      exact position_first charger keyboard legible succeeds next
  | betweenLimits first begun next =>
      have same := unchanged first (congrArg Activity.job next) begun
      cases next
      rw [daemonSemantics_succeeds succeeds]
      refine ⟨replaces_refl world, .returned .chargeLimit
        (.chargeLimit (first.registers ec .batLimitMin) (world.registers ec .batLimitMax)) rfl
          ⟨world, by simp, ?_⟩ fun min' max' reading => ?_⟩
      · rw [← same]
        rfl
      · obtain ⟨limit, set⟩ := legible.charge
        cases reading
        exact ⟨limit, by rw [← set, chargeInForce, same]⟩
  | customLevel next seen =>
      obtain ⟨past, member, level⟩ := seen
      cases next
      rw [daemonSemantics_succeeds succeeds]
      refine ⟨replaces_refl world, .returned .keyboardBacklight _ rfl
        ⟨past, List.mem_cons_of_mem _ member, ?_⟩ fun _ _ other => by cases other⟩
      rw [Query.inForce, level]
      rfl
  | returned query reading next => cases next
  | applied next => cases next

/-- Readers and setters can rely on each other. -/
theorem readers_rely (codec : SettingsCodec) (charger : ec.Sole .charger)
    (keyboard : ec.Sole .keyboard) :
    Observed.Rely (fun duty : Duty => (duty.code ec).run) (fun thread _ => daemonSemantics codec thread)
      (fun observed instant => Regular ec observed instant ∧ LimitUnchanged ec observed instant)
      (Legible ec) (Replaces ec) (Position ec) where
  kept := Legible.replaces
  start := fun _ _ => .waiting rfl rfl
  borne := fun _ replaces position => position.borne replaces
  act := by
    intro observed thread choice duty operation rest earlier legible permitted running position
    obtain ⟨succeeds, unchanged⟩ := permitted
    exact position_act charger keyboard legible succeeds position fun first reads begun =>
      unchanged _ first running reads begun
  outside := fun permitted => replaces_of_shared permitted.1

/-- A reader returns what was wholly in force at an instant since its start, as long
as the charge limit does not change between the two reads of its reader. -/
theorem readings_untorn (detection : Detection) {world : World} {instants : List Instant}
    {after : ReadingPool} (legible : Legible detection.device world)
    (ran : ReadingRun codec detection.device (fun observed instant =>
      Regular detection.device observed instant ∧ LimitUnchanged detection.device observed instant)
      (.idle world) instants after) : Untorn detection.device after := by
  have charger := (detection.sole_iff .charger).mpr (.inr ⟨by decide, by decide⟩)
  have keyboard := (detection.sole_iff .keyboard).mpr (.inr ⟨by decide, by decide⟩)
  obtain ⟨_, each⟩ := (readers_rely codec charger keyboard).run ran (Observed.sound_idle legible)
  intro thread query result returned
  obtain ⟨earlier, seen, position⟩ := each thread _ returned
  rw [seen]
  cases position with
  | waiting next => cases query <;> cases next
  | betweenLimits first begun next => cases next
  | customLevel next => cases next
  | returned query reading next seen limit =>
      cases next
      exact ⟨reading, rfl, seen, limit⟩
  | applied next writer => exact absurd rfl (writer query)

theorem legible_cleared : Legible Detection.n155a.device (World.fresh (fun _ => 0) none) :=
  ⟨⟨.fullCapacity, rfl⟩, rfl⟩

/-- The limit is applied before the reader makes its two reads. -/
theorem readings_untorn_inTurn :
    ∃ after : ReadingPool, after.pool.thread 0 =
        some ⟨.read .chargeLimit, .done (.ok (.chargeLimit 70 80))⟩ ∧
      Untorn Detection.n155a.device after := by
  have ran : ∃ after, ReadingRun .bincode Detection.n155a.device (fun observed instant =>
        Regular Detection.n155a.device observed instant ∧
          LimitUnchanged Detection.n155a.device observed instant)
      (.idle (World.fresh (fun _ => 0) none))
      [.step (.start 0 (.read .chargeLimit)), .step (.start 1 (.applyChargeLimit .balanced)),
        .step (.act 1 {}), .step (.act 0 {}), .step (.act 0 {})] after ∧
      after.pool.thread 0 = some ⟨.read .chargeLimit, .done (.ok (.chargeLimit 70 80))⟩ := by
    refine ⟨_, .cons ⟨trivial, trivial⟩ rfl (.cons ⟨trivial, trivial⟩ rfl
      (.cons ⟨by simp [Regular], ?_⟩ rfl (.cons ⟨by simp [Regular], ?_⟩ rfl
        (.cons ⟨by simp [Regular], ?_⟩ rfl .nil)))), rfl⟩
    · intro activity first running reads begun
      cases begun
    · intro activity first running reads begun
      cases begun
    · intro activity first running reads begun
      cases begun
      rfl
  obtain ⟨after, ran, returned⟩ := ran
  exact ⟨after, returned, readings_untorn Detection.n155a legible_cleared ran⟩

/-- The limit is applied between the two reads: no limit has the bounds returned. -/
theorem readings_untorn_fails :
    ¬∀ (detection : Detection) (world : World) (instants : List Instant) (after : ReadingPool),
      Legible detection.device world →
      ReadingRun .bincode detection.device (Regular detection.device) (.idle world) instants after →
      Untorn detection.device after := by
  intro untorn
  have ran : ∃ after, ReadingRun .bincode Detection.n155a.device (Regular Detection.n155a.device)
      (.idle (World.fresh (fun _ => 0) none))
      [.step (.start 0 (.read .chargeLimit)), .step (.start 1 (.applyChargeLimit .balanced)),
        .step (.act 0 {}), .step (.act 1 {}), .step (.act 0 {})] after ∧
      after.pool.thread 0 = some ⟨.read .chargeLimit, .done (.ok (.chargeLimit 0 80))⟩ :=
    ⟨_, .cons trivial rfl (.cons trivial rfl (.cons (by simp [Regular]) rfl
      (.cons (by simp [Regular]) rfl (.cons (by simp [Regular]) rfl .nil)))), rfl⟩
  obtain ⟨after, ran, returned⟩ := ran
  obtain ⟨reading, same, _, whole⟩ := untorn _ _ _ after legible_cleared ran 0 _ _ returned
  cases same
  obtain ⟨limit, bounds⟩ := whole 0 80 rfl
  cases limit <;> cases bounds

end Lecoo.Daemon
