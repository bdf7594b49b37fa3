import Lecoo.Data.Masks
import Lecoo.Effects.Observe
import Lecoo.Daemon.Jobs
import Lecoo.Ec.Independence
import Lecoo.Gui.BatteryCard

namespace Lecoo.Daemon

open Lecoo.Effects Lecoo.Ipc Lecoo.Ec Lecoo.Data Lecoo.Gui Fallible

/-! # The battery LEDs and the charge limit

When the charger is connected the orange LED should tell that the battery is
being charged and the white one that it is not, as the battery card does.  The
bound `0` of a limit that does not limit is taken for one that is reached.
-/

variable {codec : SettingsCodec} {thread : ThreadId} {ec : EcDevice} {before after world : World}

/-- The LEDs of the mask are lit; they are active low. -/
def Lit (ec : EcDevice) (mask : UInt8) (world : World) : Prop :=
  world.registers ec .gpdra &&& mask = 0

instance (ec : EcDevice) (mask : UInt8) (world : World) : Decidable (Lit ec mask world) :=
  inferInstanceAs (Decidable (_ = _))

theorem batteryLedPort_withBits (orangeOn whiteOn : Bool) (portA : UInt8) :
    batteryLedPort ec orangeOn whiteOn portA =
      withBits ec.offsets.maskWhiteLed (!whiteOn)
        (withBits ec.offsets.maskOrangeLed (!orangeOn) portA) := by
  cases orangeOn <;> cases whiteOn <;> rfl

theorem detection_masks (detection : Detection) :
    detection.device.offsets.maskOrangeLed = 0x02 ∧
      detection.device.offsets.maskWhiteLed = 0x04 := by
  obtain ⟨profile, base, possible⟩ := detection
  cases profile <;> simp only [Detection.device, EcOffsets.detectedAt, BoardProfile.offsets] <;>
    split <;> exact ⟨rfl, rfl⟩

/-- The two LEDs are as wanted and the rest of the port is as it was. -/
theorem play_batteryLeds (detection : Detection) (orangeOn whiteOn : Bool) (world : World) :
    let shown := world.play detection.device
      (Setter.actions detection.device (.batteryLeds orangeOn whiteOn) world)
    (Lit detection.device detection.device.offsets.maskOrangeLed shown ↔ orangeOn = true) ∧
    (Lit detection.device detection.device.offsets.maskWhiteLed shown ↔ whiteOn = true) ∧
    shown.registers detection.device .gpdra &&&
        ~~~(detection.device.offsets.maskOrangeLed ||| detection.device.offsets.maskWhiteLed) =
      world.registers detection.device .gpdra &&&
        ~~~(detection.device.offsets.maskOrangeLed ||| detection.device.offsets.maskWhiteLed) := by
  intro shown
  have port : shown.registers detection.device .gpdra =
      batteryLedPort detection.device orangeOn whiteOn (world.registers detection.device .gpdra) :=
    Memory.write_same
  obtain ⟨orange, white⟩ := detection_masks detection
  rw [Lit, Lit, port, batteryLedPort_withBits, orange, white]
  refine ⟨?_, ?_, ?_⟩
  · rw [withBits_apart (by decide), withBits_under]
    cases orangeOn <;> decide
  · rw [withBits_under]
    cases whiteOn <;> decide
  · rw [withBits_apart (by decide), withBits_apart (by decide)]

theorem chargerConnected_batches :
    Uses DaemonOp.IsBatch (processEvent ec .chargerConnected) := by
  have reads : ∀ operation : DaemonOp, operation.ReadsEc → operation.IsBatch := by
    intro operation reads
    cases operation <;> trivial
  refine processCharger_uses ec reads (fun orangeOn whiteOn => ?_) (.inl rfl)
  rw [applyBatteryLeds_eq]
  refine uses_bind (Program.Uses.mono reads (readReg_reads ec _)) fun portA => ?_
  rw [script_single]
  exact uses_attempt (Io.uses_perform trivial)

/-- What the LEDs show is decided by the two readings alone. -/
theorem runAlone_chargerConnected {choices : List Choice}
    (succeeds : ∀ choice ∈ choices, ∀ access ∈ choice.accesses, access = none) :
    runAlone codec thread (processEvent ec .chargerConnected) choices world =
      (.ok (), world.play ec (Setter.actions ec
        (.batteryLeds (world.registers ec .batRsoc < world.registers ec .batLimitMax)
          (world.registers ec .batLimitMax ≤ world.registers ec .batRsoc)) world)) := by
  have cooperates : ∀ operation : DaemonOp, operation.IsBatch → ∀ choice ∈ choices, ∀ state,
      daemonSemantics codec thread operation choice state =
        daemonSemantics codec thread operation default state := by
    intro operation isBatch choice member state
    cases operation with
    | batch body => exact daemonSemantics_succeeds (succeeds choice member) body
    | _ => exact isBatch.elim
  have shown : ∀ orangeOn whiteOn, Program.run (daemonSemantics codec thread)
      (Io.ok? (applyBatteryLeds ec orangeOn whiteOn) >>= fun _ => pure ()).run [] world =
        (.ok (), world.play ec (Setter.actions ec (.batteryLeds orangeOn whiteOn) world)) :=
    fun _ _ => rfl
  have readings : Program.run (daemonSemantics codec thread)
      (processEvent ec .chargerConnected).run [] world =
        Program.run (daemonSemantics codec thread)
          (if world.registers ec .batRsoc ≥ world.registers ec .batLimitMax then
            Io.ok? (applyBatteryLeds ec false true) >>= fun _ => pure ()
          else Io.ok? (applyBatteryLeds ec true false) >>= fun _ => pure ()).run [] world := rfl
  rw [runAlone, chargerConnected_batches.run_default cooperates, readings]
  by_cases full : world.registers ec .batLimitMax ≤ world.registers ec .batRsoc
  · have low : ¬world.registers ec .batRsoc < world.registers ec .batLimitMax :=
      UInt8.not_lt.mpr full
    rw [if_pos full, shown, decide_eq_true full, decide_eq_false low]
  · have low : world.registers ec .batRsoc < world.registers ec .batLimitMax :=
      UInt8.not_le.mp full
    rw [if_neg full, shown, decide_eq_false full, decide_eq_true low]

/-- The battery may still charge: below the upper bound, or below full when the
bounds say that there is no limit. -/
def MayCharge (min max level : UInt8) : Prop :=
  if (min, max) = ((0, 0) : UInt8 × UInt8) then level < 100 else level < max

/-- What the card is given when the charger is connected. -/
def connectedCard (ec : EcDevice) (world : World) : BatteryCardProps where
  percent := some (world.registers ec .batRsoc).toNat
  limitMin := (world.registers ec .batLimitMin).toNat
  limitMax := (world.registers ec .batLimitMax).toNat
  acConnected := some true

/-- The LEDs tell whether the battery is being charged. -/
structure Indicates (ec : EcDevice) (before after : World) : Prop where
  one : Lit ec ec.offsets.maskOrangeLed after ↔ ¬Lit ec ec.offsets.maskWhiteLed after
  limit : Lit ec ec.offsets.maskOrangeLed after ↔
    MayCharge (before.registers ec .batLimitMin) (before.registers ec .batLimitMax)
      (before.registers ec .batRsoc)
  card : Lit ec ec.offsets.maskOrangeLed after ↔ (connectedCard ec before).charging = true
  others : after.registers ec .gpdra &&& ~~~(ec.offsets.maskOrangeLed ||| ec.offsets.maskWhiteLed) =
    before.registers ec .gpdra &&& ~~~(ec.offsets.maskOrangeLed ||| ec.offsets.maskWhiteLed)

theorem connectedCard_charging_iff (percent : world.registers ec .batLimitMax ≤ 100) :
    (connectedCard ec world).charging = true ↔ world.registers ec .batRsoc <
      if world.registers ec .batLimitMax = 0 then 100 else world.registers ec .batLimitMax := by
  have level : (connectedCard ec world).value = (world.registers ec .batRsoc).toNat := rfl
  have bound : (connectedCard ec world).limitMax = (world.registers ec .batLimitMax).toNat := rfl
  have most : (world.registers ec .batLimitMax).toNat ≤ 100 := UInt8.le_iff_toNat_le.mp percent
  rw [(connectedCard ec world).charging_iff rfl]
  by_cases unlimited : world.registers ec .batLimitMax = 0
  · have limitless : ¬(0 < (connectedCard ec world).limitMax ∧
        (connectedCard ec world).limitMax < 100) := by
      rw [bound, unlimited]
      decide
    rw [if_neg limitless, if_pos unlimited, level, UInt8.lt_iff_toNat_lt]
    rfl
  · have positive : 0 < (world.registers ec .batLimitMax).toNat :=
      Nat.pos_of_ne_zero fun zero => unlimited (UInt8.toNat_inj.mp zero)
    rw [if_neg unlimited, UInt8.lt_iff_toNat_lt, level]
    by_cases limited : 0 < (connectedCard ec world).limitMax ∧
        (connectedCard ec world).limitMax < 100
    · rw [if_pos limited, bound]
    · rw [if_neg limited]
      rw [bound] at limited
      omega

/-- Comparing with the bound itself tells the same as comparing with the level at
which charging ends, unless there is no bound and the battery is not full. -/
theorem below_bound_iff {bound level : UInt8} (full : level ≤ 100) :
    (level < bound ↔ level < if bound = 0 then 100 else bound) ↔ bound ≠ 0 ∨ level = 100 := by
  by_cases unlimited : bound = 0
  · subst unlimited
    have never : ¬level < 0 := UInt8.not_lt.mpr UInt8.zero_le
    simp only [if_true, never, false_iff, UInt8.not_lt, ne_eq, not_true, false_or]
    exact ⟨UInt8.le_antisymm full, fun same => same ▸ UInt8.le_refl _⟩
  · simp [unlimited]

/-- Under a percentage as upper bound the LEDs are right unless the bound is the
one of no limit and the battery is not full. -/
theorem play_indicates_iff (detection : Detection)
    (percent : world.registers detection.device .batLimitMax ≤ 100)
    (level : world.registers detection.device .batRsoc ≤ 100) :
    Indicates detection.device world (world.play detection.device
        (Setter.actions detection.device (.batteryLeds
          (world.registers detection.device .batRsoc < world.registers detection.device .batLimitMax)
          (world.registers detection.device .batLimitMax ≤
            world.registers detection.device .batRsoc)) world)) ↔
      (world.registers detection.device .batLimitMax ≠ 0 ∨
        world.registers detection.device .batRsoc = 100) := by
  have shown := play_batteryLeds detection
    (world.registers detection.device .batRsoc < world.registers detection.device .batLimitMax)
    (world.registers detection.device .batLimitMax ≤ world.registers detection.device .batRsoc)
    world
  simp only [decide_eq_true_eq] at shown
  obtain ⟨orange, white, others⟩ := shown
  have card := connectedCard_charging_iff percent
  constructor
  · intro indicates
    exact (below_bound_iff level).mp ((orange.symm.trans indicates.card).trans card)
  · intro told
    have same := (below_bound_iff level).mpr told
    refine ⟨?_, ?_, ?_, others⟩
    · rw [orange, white, UInt8.not_le]
    · rw [orange, MayCharge]
      split
      · rename_i stored
        rw [same, if_pos (Prod.mk.inj stored).2]
      · exact Iff.rfl
    · rw [orange, same, card]

abbrev AmbientPool := Observed daemonOps ThreadId Job (Except Failure (Option IpcResponse)) World

/-- Whatever else changes between the operations of the daemon, the battery level
for one, the upper bound is left to the daemon. -/
def LeavesBound (ec : EcDevice) (observed : AmbientPool) :
    Occurrence ThreadId Job Choice World → Prop
  | .step _ => True
  | .outside world =>
      world.registers ec .batLimitMax = observed.pool.world.registers ec .batLimitMax

abbrev AmbientRun (codec : SettingsCodec) (ec : EcDevice) :
    AmbientPool → List (Occurrence ThreadId Job Choice World) → AmbientPool → Prop :=
  Observed.Run (fun job : Job => (job.work ec).run) (fun thread _ => daemonSemantics codec thread)
    (LeavesBound ec)

/-- The upper bound is as before or has been set to a percentage. -/
def BoundMoves (ec : EcDevice) (before after : World) : Prop :=
  after.registers ec .batLimitMax = before.registers ec .batLimitMax ∨
    after.registers ec .batLimitMax ≤ 100

theorem steps_limitMax (setter : Setter) (ledCustom : Bool) (portA : UInt8) :
    ∀ entry ∈ registerWrites (actionsOf (setter.steps ec ledCustom portA)),
      entry.1 = .batLimitMax → entry.2 ≤ 100 := by
  intro entry member bound
  have own := setter.steps_feature ledCustom portA entry member
  rw [bound] at own
  cases setter with
  | chargeLimit limit =>
      cases limit <;>
        simp [Setter.steps, writeActions, ChargeLimit.asPercent] at member <;>
        rcases member with rfl | rfl <;> decide
  | _ => cases own

theorem writes_boundMoves (sole : ec.Sole .charger) {writes : List (Register × UInt8)}
    (percent : ∀ entry ∈ writes, entry.1 = .batLimitMax → entry.2 ≤ 100) (world : World) :
    BoundMoves ec world (world.play ec (writeActions writes)) := by
  have placed : (world.play ec (writeActions writes)).registers ec .batLimitMax =
      (world.registers ec).writeAll writes .batLimitMax := by
    rw [World.play_writes]
    exact Memory.writeAll_placed world.ec fun entry _ shared =>
      sole .batLimitMax rfl entry.1 shared
  rw [BoundMoves, placed]
  rcases Memory.writeAll_old_or_written (world.registers ec) writes .batLimitMax with
    kept | written
  · exact .inl kept
  · exact .inr (percent _ written rfl)

theorem batchUsual_boundMoves (sole : ec.Sole .charger) {operation : DaemonOp}
    (usual : operation.BatchUsual ec) (choice : Choice) (world : World) :
    BoundMoves ec world (daemonSemantics codec thread operation choice world).2 := by
  by_cases batch : operation.IsBatch
  · cases usual batch with
    | reads reads =>
        rw [daemonSemantics_readsEc reads]
        exact .inl rfl
    | @setterBatch setter ledCustom portA writes member =>
        have percent : ∀ entry ∈ writes, entry.1 = .batLimitMax → entry.2 ≤ 100 :=
          fun entry written => steps_limitMax setter ledCustom portA entry
            (mem_registerWrites member written)
        have ran : Alone codec thread (withBatch (EcBatch.writes (ec.place writes))) world
            (daemonSemantics codec thread (.batch (EcBatch.writes (ec.place writes)))
              choice world).1
            (daemonSemantics codec thread (.batch (EcBatch.writes (ec.place writes)))
              choice world).2 := ⟨choice, rfl, rfl⟩
        rcases alone_writes.mp ran with ⟨_, played⟩ | ⟨made, _, _, _, played⟩
        · rw [played]
          exact writes_boundMoves sole percent world
        · rw [played]
          exact writes_boundMoves sole
            (fun entry taken => percent entry (List.mem_of_mem_take taken)) world
    | file onFile => cases operation <;> first | exact batch.elim | exact onFile.elim
    | _ => exact batch.elim
  · have memory := daemonSemantics_ec codec thread batch choice world
    exact .inl (congrArg (· (ec.address .batLimitMax)) memory)

theorem limitMax_percent (sole : ec.Sole .charger) {observed : AmbientPool}
    {occurrences : List (Occurrence ThreadId Job Choice World)}
    (percent : before.registers ec .batLimitMax ≤ 100)
    (ran : AmbientRun codec ec (Observed.idle before) occurrences observed) :
    observed.pool.world.registers ec .batLimitMax ≤ 100 := by
  have rely : Observed.Rely (fun job : Job => (job.work ec).run)
      (fun thread _ => daemonSemantics codec thread) (LeavesBound ec)
      (fun world => world.registers ec .batLimitMax ≤ 100) (BoundMoves ec)
      (fun _ _ _ activity => Program.Uses (DaemonOp.BatchUsual ec) activity.todo) := {
    kept := fun percent moved => moved.elim (fun kept => kept ▸ percent) id
    start := fun job _ => job.work_batchUsual ec
    borne := fun _ _ usual => usual
    act := fun _ _ _ usual => ⟨batchUsual_boundMoves sole usual.1 _ _, usual.2 _⟩
    outside := fun left => .inl left }
  exact (rely.run ran (Observed.sound_idle percent)).1

/-- At any time of any run the event sets the LEDs right exactly when the limit in
force is not the one of full capacity, or the battery is full. -/
theorem chargerConnected_indicates_iff (detection : Detection) {observed : AmbientPool}
    {occurrences : List (Occurrence ThreadId Job Choice World)} {choices : List Choice}
    (percent : before.registers detection.device .batLimitMax ≤ 100)
    (ran : AmbientRun codec detection.device (Observed.idle before) occurrences observed)
    (level : observed.pool.world.registers detection.device .batRsoc ≤ 100)
    (succeeds : ∀ choice ∈ choices, ∀ access ∈ choice.accesses, access = none) :
    Indicates detection.device observed.pool.world
        (runAlone codec thread (processEvent detection.device .chargerConnected) choices
          observed.pool.world).2 ↔
      (observed.pool.world.registers detection.device .batLimitMax ≠ 0 ∨
        observed.pool.world.registers detection.device .batRsoc = 100) := by
  have sole : detection.device.Sole .charger := (detection.sole_iff _).mpr (.inr (by decide))
  rw [runAlone_chargerConnected succeeds]
  exact play_indicates_iff detection (limitMax_percent sole percent ran) level

/-- A request for the limit, at the battery level the EC reports, and nothing from outside. -/
def limitSet (level : UInt8) (limit : ChargeLimit) : Option AmbientPool :=
  Trace.replay (Observed.next (fun job : Job => (job.work Detection.n155a.device).run)
      (fun thread _ => daemonSemantics .bincode thread))
    (fun _ occurrence => match occurrence with
      | .step _ => true
      | .outside _ => false)
    (Observed.idle (World.fresh (fun addr => if addr = 0xC493 then level else 0) none))
    ((Pool.solo 0 (.request (.setChargeLimit limit)) (List.replicate 5 default)).map .step)

theorem limitSet_run {level : UInt8} {limit : ChargeLimit} {observed : AmbientPool}
    (replayed : limitSet level limit = some observed) :
    AmbientRun .bincode Detection.n155a.device
      (Observed.idle (World.fresh (fun addr => if addr = 0xC493 then level else 0) none))
      ((Pool.solo 0 (.request (.setChargeLimit limit)) (List.replicate 5 default)).map .step)
      observed := by
  refine Trace.of_replay (fun _ occurrence passed => ?_) replayed
  cases occurrence with
  | step event => trivial
  | outside world => cases passed

/-- At 60 % under the limit of 80 % the battery is being charged. -/
theorem chargerConnected_indicates_balanced :
    ∃ observed : AmbientPool,
      observed.pool.world.registers Detection.n155a.device .batLimitMax = 80 ∧
      observed.pool.world.registers Detection.n155a.device .batRsoc = 60 ∧
      Indicates Detection.n155a.device observed.pool.world
        (runAlone .bincode 1 (processEvent Detection.n155a.device .chargerConnected) []
          observed.pool.world).2 := by
  have replays : (limitSet 60 .balanced).any (fun observed =>
      observed.pool.world.registers Detection.n155a.device .batLimitMax == 80 &&
        observed.pool.world.registers Detection.n155a.device .batRsoc == 60) = true := by
    decide +kernel
  obtain ⟨observed, replayed, checked⟩ := (Option.any_eq_true _ _).mp replays
  simp only [Bool.and_eq_true, beq_iff_eq] at checked
  obtain ⟨bound, level⟩ := checked
  refine ⟨observed, bound, level, ?_⟩
  refine (chargerConnected_indicates_iff Detection.n155a (by decide) (limitSet_run replayed)
    ?_ (fun _ member => absurd member List.not_mem_nil)).mpr (.inl ?_)
  · rw [level]
    decide
  · rw [bound]
    decide

/-- At 50 % without a limit the white LED is lit although the battery is charging. -/
theorem chargerConnected_not_indicates :
    ¬∀ (detection : Detection) (before : World) (observed : AmbientPool)
      (occurrences : List (Occurrence ThreadId Job Choice World)),
      before.registers detection.device .batLimitMax ≤ 100 →
      AmbientRun .bincode detection.device (Observed.idle before) occurrences observed →
      observed.pool.world.registers detection.device .batRsoc ≤ 100 →
      Indicates detection.device observed.pool.world
        (runAlone .bincode 1 (processEvent detection.device .chargerConnected) []
          observed.pool.world).2 := by
  intro claim
  have replays : (limitSet 50 .fullCapacity).any (fun observed =>
      observed.pool.world.registers Detection.n155a.device .batRsoc == 50 &&
        (connectedCard Detection.n155a.device observed.pool.world).charging &&
        !decide (Lit Detection.n155a.device 0x02
          (runAlone .bincode 1 (processEvent Detection.n155a.device .chargerConnected) []
            observed.pool.world).2)) = true := by
    decide +kernel
  obtain ⟨observed, replayed, checked⟩ := (Option.any_eq_true _ _).mp replays
  simp only [Bool.and_eq_true, beq_iff_eq, Bool.not_eq_true', decide_eq_false_iff_not] at checked
  obtain ⟨⟨level, charging⟩, dark⟩ := checked
  have indicates := claim Detection.n155a _ observed _ (by decide) (limitSet_run replayed)
    (by rw [level]; decide)
  exact dark (indicates.card.mpr charging)

end Lecoo.Daemon
