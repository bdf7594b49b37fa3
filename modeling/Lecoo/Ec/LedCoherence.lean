import Lecoo.Ec.Prescription

namespace Lecoo.Ec

open Lecoo.Effects Lecoo.Ipc Lecoo.Daemon Lecoo.Data

/-! # The LED flag under concurrent calls

The flag is read and stored between the transactions it summarises.  What goes wrong is a
slip: a call raises the flag after a call of `Auto` has switched the bypass off behind it,
or `Auto` itself fails in between.  A slip stays until some call lowers the flag or
switches the bypass on again.
-/

variable {codec : SettingsCodec} {ec : EcDevice}

/-- The registers of the LED ring have addresses of their own among each other. -/
def EcDevice.RingApart (ec : EcDevice) : Prop :=
  ∀ register other : Register, register.feature = some .ledRing →
    other.feature = some .ledRing → ec.address other = ec.address register → other = register

theorem Detection.ringApart (detection : Detection) : detection.device.RingApart := by
  intro register other own ring same
  cases board : detection.profile with
  | n155a => exact detection.n155a_separated board same
  | n155d =>
      rcases detection.n155d_address_inj board same with equal | ⟨_, rfl⟩ | ⟨rfl, _⟩
      · exact equal
      · cases own
      · cases ring

/-- What the calls have done to the bypass cell and the flag. -/
structure Bypass where
  /-- The call that wrote the cell last was one of `Auto`. -/
  off : Bool
  /-- A slip has not been made up for. -/
  slip : Bool

/-- A call writes the cell; a set-up makes up for a slip. -/
def Bypass.written (mode : PowerLedMode) (bypass : Bypass) : Bypass :=
  { off := mode = .auto, slip := bypass.slip && mode = .auto }

/-- A call stores the flag: raising it behind a write of `Auto` is a slip, lowering it
makes up for one. -/
def Bypass.stored (value : Bool) (bypass : Bypass) : Bypass :=
  { bypass with slip := value && (bypass.slip || bypass.off) }

/-- A call fails: one of `Auto` slips when the cell is off and the flag still up. -/
def Bypass.failed (mode : PowerLedMode) (up : Bool) (bypass : Bypass) : Bypass :=
  { bypass with slip := bypass.slip || (mode = .auto && up && bypass.off) }

def noteBypass (ec : EcDevice) (mode : PowerLedMode) :
    Access → Option String → Bypass → Bypass
  | .write addr _, none, bypass =>
      if addr = ec.address .ledBypass then bypass.written mode else bypass
  | _, _, bypass => bypass

def watchBypass (ec : EcDevice) (mode : PowerLedMode) :
    Semantics registers (Option String) (EcMemory × Bypass) :=
  fun access choice watch =>
    let answered := accessSemantics access choice watch.1
    (answered.1, answered.2, noteBypass ec mode access choice watch.2)

/-- The daemon's state, with the bypass cell watched beside it. -/
structure LedWatch where
  world : World
  bypass : Bypass

def LedWatch.start (world : World) : LedWatch := ⟨world, ⟨false, false⟩⟩

/-- The semantics of the daemon with every register access of a batch watched. -/
def ledSemantics (codec : SettingsCodec) (ec : EcDevice) (thread : ThreadId)
    (mode : PowerLedMode) : Semantics daemonOps Choice LedWatch
  | .batch body, choice, state =>
      let answered := daemonSemantics codec thread (.batch body) choice state.world
      let bypass := (Program.run (watchBypass ec mode) body.run choice.accesses
        (state.world.ec, state.bypass)).2.2
      (answered.1, ⟨answered.2,
        if answered.1.isOk then bypass else bypass.failed mode state.world.ledCustom⟩)
  | .storeLedCustom value, choice, state =>
      let answered := daemonSemantics codec thread (.storeLedCustom value) choice state.world
      (answered.1, ⟨answered.2, state.bypass.stored value⟩)
  | operation, choice, state =>
      let answered := daemonSemantics codec thread operation choice state.world
      (answered.1, ⟨answered.2, state.bypass⟩)

/-- The calls of `apply_led_mode` that are in progress. -/
abbrev LedPool := Pool daemonOps ThreadId PowerLedMode (Except Failure Unit) LedWatch

/-- A run of calls, in any order of their transactions and with any of them failing. -/
abbrev LedRun (codec : SettingsCodec) (ec : EcDevice) :
    LedPool → List (Event ThreadId PowerLedMode Choice) → LedPool → Prop :=
  Pool.Run (fun mode => (applyLedMode ec mode).run) (ledSemantics codec ec) fun _ _ => True

/-- The steps of a call of the mode keep the bypass and the pin multiplexer to batches of
their own, and raise the flag after both; it is `Auto` that switches the bypass off. -/
def Orderly (mode : PowerLedMode) : List Step → Prop
  | [] => True
  | .storeLed value :: rest =>
      Orderly mode rest ∧ (value = true →
        .batch [(.ledBypass, 0x01)] ∉ rest ∧ .batch [(.gpioA0Mux, 0x00)] ∉ rest)
  | .batch writes :: rest =>
      Orderly mode rest ∧ (∀ entry ∈ writes, entry.1.feature = some .ledRing) ∧
      ((∀ entry ∈ writes, entry.1 ≠ .ledBypass ∧ entry.1 ≠ .gpioA0Mux) ∨
        writes = [(.gpioA0Mux, 0x00)] ∨
        (writes = [(.ledBypass, 0x01)] ∧ mode ≠ .auto) ∨
        (writes = [(.ledBypass, 0x00)] ∧ mode = .auto))

theorem ledSteps_orderly (custom : Bool) (mode : PowerLedMode) :
    Orderly mode (ledSteps custom mode) := by
  cases mode <;> cases custom <;>
    simp [ledSteps, ledSetUp, ledReset, Orderly, Register.feature]

variable {mode : PowerLedMode} {state : LedWatch} {step : Step} {steps more : List Step}
  {writes : List (Register × UInt8)}

theorem Orderly.tail (orderly : Orderly mode (step :: more)) : Orderly mode more := by
  cases step <;> exact orderly.1

theorem Orderly.suffix {first : List Step} (orderly : Orderly mode (first ++ steps)) :
    Orderly mode steps := by
  induction first with
  | nil => exact orderly
  | cons step first ih => exact ih orderly.tail

theorem remaining_orderly {custom : Bool} (remaining : steps <:+ ledSteps custom mode) :
    Orderly mode steps := by
  obtain ⟨first, split⟩ := remaining
  exact Orderly.suffix (split ▸ ledSteps_orderly custom mode)

theorem play_ring (apart : ec.RingApart) (world : World)
    (ring : ∀ entry ∈ writes, entry.1.feature = some .ledRing) {register : Register}
    (own : register.feature = some .ledRing) :
    (world.play ec (writeActions writes)).registers ec register =
      (world.registers ec).writeAll writes register := by
  rw [play_registers, registerWrites_writeActions]
  intro entry member shared
  rw [registerWrites_writeActions] at member
  exact apart register entry.1 own (ring entry member) shared

theorem play_flag (world : World) (writes : List (Register × UInt8)) :
    (world.play ec (writeActions writes)).ledCustom = world.ledCustom := by
  rw [World.play_writes]

/-- What is known of the bypass cell after a step of a call. -/
def Bypass.after (mode : PowerLedMode) (bypass : Bypass) : Step → Bypass
  | .storeLed value => bypass.stored value
  | .batch writes =>
      if writes.any (·.1 = .ledBypass) then bypass.written mode else bypass

def LedWatch.make (ec : EcDevice) (mode : PowerLedMode) (state : LedWatch) (step : Step) :
    LedWatch :=
  ⟨state.world.play ec step.actions, state.bypass.after mode step⟩

/-- A batch of a call fails after some of its writes. -/
def LedWatch.stop (ec : EcDevice) (mode : PowerLedMode) (state : LedWatch)
    (writes : List (Register × UInt8)) (made : Nat) : LedWatch :=
  ⟨state.world.play ec (writeActions (writes.take made)),
    state.bypass.failed mode state.world.ledCustom⟩

/-- The access leaves the bypass cell alone. -/
def Spares (ec : EcDevice) : Access → Prop
  | .write addr _ => addr ≠ ec.address .ledBypass
  | .read _ => True

theorem watchBypass_spares {α : Type} {body : EcBatch α} (spares : Fallible.Uses (Spares ec) body)
    (choices : List (Option String)) (watch : EcMemory × Bypass) :
    (Program.run (watchBypass ec mode) body.run choices watch).2.2 = watch.2 := by
  refine Program.Uses.preserves (fun before after : EcMemory × Bypass => after.2 = before.2)
    spares (fun _ => rfl) (fun first second => second.trans first) ?_
    (Program.run_runs _ choices watch)
  intro access choice watch spares
  cases access with
  | read addr => cases choice <;> rfl
  | write addr value =>
      cases choice with
      | some message => rfl
      | none => exact if_neg spares

/-- Whether the cell was written is decided by whether the batch succeeded. -/
theorem Orderly.watched (apart : ec.RingApart) (orderly : Orderly mode (.batch writes :: more))
    (choices : List (Option String)) (memory : EcMemory) (bypass : Bypass) :
    (Program.run (watchBypass ec mode) (EcBatch.writes (ec.place writes)).run choices
        (memory, bypass)).2.2 =
      if (Program.run accessSemantics (EcBatch.writes (ec.place writes)).run choices
        memory).1.isOk then bypass.after mode (.batch writes) else bypass := by
  have spared : (∀ entry ∈ writes, entry.1 ≠ .ledBypass) →
      (Program.run (watchBypass ec mode) (EcBatch.writes (ec.place writes)).run choices
          (memory, bypass)).2.2 = bypass ∧ bypass.after mode (.batch writes) = bypass := by
    intro others
    refine ⟨watchBypass_spares (EcBatch.writes_uses fun placed member => ?_) choices _, ?_⟩
    · obtain ⟨entry, among, rfl⟩ := List.mem_map.mp member
      exact fun same =>
        others entry among (apart .ledBypass entry.1 rfl (orderly.2.1 entry among) same)
    · exact if_neg (by simpa using fun value among => others (.ledBypass, value) among rfl)
  -- a batch of its own for the cell makes its one write, or none
  have own : ∀ value, writes = [(.ledBypass, value)] →
      (Program.run (watchBypass ec mode) (EcBatch.writes (ec.place writes)).run choices
          (memory, bypass)).2.2 =
        if (Program.run accessSemantics (EcBatch.writes (ec.place writes)).run choices
          memory).1.isOk then bypass.after mode (.batch writes) else bypass := by
    rintro value rfl
    have noted : noteBypass ec mode (.write (ec.address .ledBypass) value) none bypass =
        bypass.written mode := if_pos rfl
    rcases choices with _ | ⟨_ | message, rest⟩
    · exact noted
    · exact noted
    · rfl
  rcases orderly.2.2 with others | rfl | ⟨rfl, _⟩ | ⟨rfl, _⟩
  · obtain ⟨kept, same⟩ := spared fun entry member => (others entry member).1
    rw [kept, same, ite_self]
  · obtain ⟨kept, same⟩ := spared (by simp)
    rw [kept, same, ite_self]
  · exact own _ rfl
  · exact own _ rfl

variable {thread : ThreadId} {operation : DaemonOp}
  {rest : daemonOps.Reply operation → Program daemonOps (Except Failure Unit)}

/-- A step of a call is made as a whole, or is a batch that fails and ends the call. -/
theorem led_act (codec : SettingsCodec) (thread : ThreadId) (apart : ec.RingApart)
    (orderly : Orderly mode steps)
    (following : Program.perform (I := daemonOps) operation rest = (script ec steps).run)
    (choice : Choice) (state : LedWatch) :
    let answered := ledSemantics codec ec thread mode operation choice state
    ∃ step more, steps = step :: more ∧
      ((rest answered.1 = (script ec more).run ∧ answered.2 = state.make ec mode step) ∨
      (∃ writes made failure, step = .batch writes ∧ made < writes.length ∧
        rest answered.1 = .done (.error failure) ∧
        answered.2 = state.stop ec mode writes made)) := by
  intro answered
  cases steps with
  | nil => cases following
  | cons step more =>
      refine ⟨step, more, rfl, ?_⟩
      cases step with
      | storeLed value =>
          cases following
          exact .inl ⟨rfl, rfl⟩
      | batch writes =>
          cases following
          have watched := orderly.watched apart choice.accesses state.world.ec state.bypass
          have ran : Alone codec thread (withBatch (EcBatch.writes (ec.place writes))) state.world
              (daemonSemantics codec thread (.batch (EcBatch.writes (ec.place writes)))
                choice state.world).1
              (daemonSemantics codec thread (.batch (EcBatch.writes (ec.place writes)))
                choice state.world).2 := ⟨choice, rfl, rfl⟩
          rcases alone_writes.mp ran with ⟨replied, played⟩ | ⟨made, bound, message, replied, played⟩
          · left
            have succeeds : (Program.run accessSemantics (EcBatch.writes (ec.place writes)).run
                choice.accesses state.world.ec).1 = .ok () := replied
            rw [succeeds] at watched
            refine ⟨?_, ?_⟩
            · change Program.bind (.done (daemonSemantics codec thread _ choice state.world).1) _ = _
              rw [replied]
              rfl
            · change LedWatch.mk _ _ = _
              rw [played, replied]
              exact congrArg (LedWatch.mk _) watched
          · right
            have fails : (Program.run accessSemantics (EcBatch.writes (ec.place writes)).run
                choice.accesses state.world.ec).1 = .error (.error message) := replied
            rw [fails] at watched
            refine ⟨writes, made, .error message, rfl, bound, ?_, ?_⟩
            · change Program.bind (.done (daemonSemantics codec thread _ choice state.world).1) _ = _
              rw [replied]
              rfl
            · change LedWatch.mk _ _ = _
              rw [played, replied]
              exact congrArg (fun bypass =>
                LedWatch.mk _ (bypass.failed mode state.world.ledCustom)) watched

/-- `Auto` lowers the flag with its last step. -/
theorem auto_lowers {custom : Bool} (remaining : step :: more <:+ ledSteps custom .auto) :
    step = .storeLed false ∨ more ≠ [] := by
  obtain ⟨first, split⟩ := remaining
  by_cases last : more = []
  · subst last
    have same := congrArg List.getLast? split
    simp only [List.getLast?_append, List.getLast?_singleton, Option.some_or] at same
    exact .inl (Option.some.inj same)
  · exact .inr last

theorem Orderly.pin (apart : ec.RingApart) (orderly : Orderly mode (.batch writes :: more))
    (world : World) (count : Nat) :
    (world.play ec (writeActions (writes.take count))).registers ec .gpioA0Mux =
        world.registers ec .gpioA0Mux ∨
      (world.play ec (writeActions (writes.take count))).registers ec .gpioA0Mux = 0x00 := by
  have ring : ∀ entry ∈ writes.take count, entry.1.feature = some .ledRing :=
    fun entry member => orderly.2.1 entry (List.mem_of_mem_take member)
  rw [play_ring apart world ring rfl]
  rcases orderly.2.2 with others | rfl | ⟨rfl, _⟩ | ⟨rfl, _⟩
  · left
    exact Memory.writeAll_frame _ fun entry member =>
      (others entry (List.mem_of_mem_take member)).2
  · cases count with
    | zero => exact .inl rfl
    | succ count => exact .inr (by simp)
  · cases count <;> exact .inl (by simp)
  · cases count <;> exact .inl (by simp)

theorem Orderly.bypass_failed (apart : ec.RingApart)
    (orderly : Orderly mode (.batch writes :: more)) (world : World) {made : Nat}
    (bound : made < writes.length) :
    (world.play ec (writeActions (writes.take made))).registers ec .ledBypass =
      world.registers ec .ledBypass := by
  have ring : ∀ entry ∈ writes.take made, entry.1.feature = some .ledRing :=
    fun entry member => orderly.2.1 entry (List.mem_of_mem_take member)
  rw [play_ring apart world ring rfl]
  rcases orderly.2.2 with others | rfl | ⟨rfl, _⟩ | ⟨rfl, _⟩
  · exact Memory.writeAll_frame _ fun entry member =>
      (others entry (List.mem_of_mem_take member)).1
  all_goals
    have none : made = 0 := by
      simp only [List.length_cons, List.length_nil] at bound
      omega
    rw [none]
    rfl

/-- A batch that succeeds leaves the bypass cell alone, switches it on for a set-up, or
switches it off for `Auto`. -/
theorem Orderly.bypass_made (apart : ec.RingApart) (orderly : Orderly mode (.batch writes :: more))
    (world : World) (bypass : Bypass) :
    let value := (world.play ec (writeActions writes)).registers ec .ledBypass
    let after := bypass.after mode (.batch writes)
    (value = world.registers ec .ledBypass ∧ after = bypass ∧ writes ≠ [(.ledBypass, 0x01)]) ∨
      (value = 0x01 ∧ after = ⟨false, false⟩) ∨
      (value = 0x00 ∧ after = ⟨true, bypass.slip⟩ ∧ mode = .auto) := by
  intro value after
  have made := play_ring apart world orderly.2.1
    (rfl : Register.ledBypass.feature = some .ledRing)
  rcases orderly.2.2 with others | rfl | ⟨rfl, setUp⟩ | ⟨rfl, auto⟩
  · left
    refine ⟨made.trans (Memory.writeAll_frame _ fun entry member => (others entry member).1),
      if_neg ?_, ?_⟩
    · simpa using fun value among => (others (.ledBypass, value) among).1 rfl
    · rintro rfl
      exact (others _ List.mem_cons_self).1 rfl
  · exact .inl ⟨made.trans (by simp), rfl, by simp⟩
  · exact .inr (.inl ⟨made.trans (by simp), by simp [after, Bypass.after, Bypass.written, setUp]⟩)
  · exact .inr (.inr ⟨made.trans (by simp), by simp [after, Bypass.after, Bypass.written, auto],
      auto⟩)

/-- The bypass is on, unless a call of `Auto` wrote the cell last. -/
def BypassReady (ec : EcDevice) (state : LedWatch) : Prop :=
  state.bypass.off = true ∨ state.world.registers ec .ledBypass = 0x01

def PinReady (ec : EcDevice) (state : LedWatch) : Prop :=
  state.world.registers ec .gpioA0Mux = 0x00

/-- The flag is up only once the ring was set up, and a slip is the flag up with the
bypass off. -/
structure LedSound (ec : EcDevice) (state : LedWatch) : Prop where
  bypass : state.world.ledCustom = true → BypassReady ec state
  pin : state.world.ledCustom = true → PinReady ec state
  off : state.bypass.off = true → state.world.registers ec .ledBypass = 0x00
  slip : state.bypass.slip = true → state.world.ledCustom = true ∧ state.bypass.off = true

/-- The flag will not be raised before the bypass is on and the pin is set. -/
def SetUpFirst (ec : EcDevice) (state : LedWatch) (steps : List Step) : Prop :=
  .storeLed true ∈ steps →
    (.batch [(.ledBypass, 0x01)] ∈ steps ∨ BypassReady ec state) ∧
    (.batch [(.gpioA0Mux, 0x00)] ∈ steps ∨ PinReady ec state)

theorem ledSteps_setUpFirst (state : LedWatch) (custom : Bool) (mode : PowerLedMode) :
    SetUpFirst ec state (ledSteps custom mode) := by
  cases mode <;> cases custom <;> simp [SetUpFirst, ledSteps, ledSetUp, ledReset]

/-- What is ready for the flag stays so, whichever call takes a step. -/
def Onward (ec : EcDevice) (before after : LedWatch) : Prop :=
  (BypassReady ec before → BypassReady ec after) ∧ (PinReady ec before → PinReady ec after)

theorem SetUpFirst.mono {before after : LedWatch} (onward : Onward ec before after)
    (first : SetUpFirst ec before steps) : SetUpFirst ec after steps :=
  fun raises => ⟨(first raises).1.imp_right onward.1, (first raises).2.imp_right onward.2⟩

theorem Orderly.onward_make (apart : ec.RingApart) (orderly : Orderly mode (step :: more))
    (state : LedWatch) : Onward ec state (state.make ec mode step) := by
  cases step with
  | storeLed value => exact ⟨id, id⟩
  | batch writes =>
      constructor
      · intro ready
        rcases orderly.bypass_made apart state.world state.bypass with
          ⟨kept, same, _⟩ | ⟨on, _⟩ | ⟨_, off, _⟩
        · exact ready.imp (fun off => (congrArg Bypass.off same).trans off) kept.trans
        · exact .inr on
        · exact .inl (congrArg Bypass.off off)
      · intro ready
        have pin := orderly.pin apart state.world writes.length
        rw [List.take_length] at pin
        exact pin.elim (fun kept => kept.trans ready) id

theorem Orderly.onward_stop (apart : ec.RingApart) (orderly : Orderly mode (.batch writes :: more))
    (state : LedWatch) {made : Nat} (bound : made < writes.length) :
    Onward ec state (state.stop ec mode writes made) :=
  ⟨fun ready => ready.imp_right (orderly.bypass_failed apart state.world bound).trans,
    fun ready => (orderly.pin apart state.world made).elim (fun kept => kept.trans ready) id⟩

/-- A step of a call brings about what the rest of it needs. -/
theorem SetUpFirst.make (apart : ec.RingApart) (orderly : Orderly mode (step :: more))
    (first : SetUpFirst ec state (step :: more)) :
    SetUpFirst ec (state.make ec mode step) more := by
  intro raises
  obtain ⟨bypass, pin⟩ := first (List.mem_cons_of_mem _ raises)
  have onward := orderly.onward_make apart state
  constructor
  · rcases bypass with ahead | ready
    · rcases List.mem_cons.mp ahead with now | ahead
      · subst now
        rcases orderly.bypass_made apart state.world state.bypass with
          ⟨_, _, other⟩ | ⟨on, _⟩ | ⟨_, off, _⟩
        · exact absurd rfl other
        · exact .inr (.inr on)
        · exact .inr (.inl (congrArg Bypass.off off))
      · exact .inl ahead
    · exact .inr (onward.1 ready)
  · rcases pin with ahead | ready
    · rcases List.mem_cons.mp ahead with now | ahead
      · subst now
        right
        change (state.world.play ec (writeActions _)).registers ec .gpioA0Mux = 0x00
        rw [play_ring apart state.world orderly.2.1 rfl]
        simp
      · exact .inl ahead
    · exact .inr (onward.2 ready)

theorem LedSound.make (apart : ec.RingApart) (orderly : Orderly mode (step :: more))
    (first : SetUpFirst ec state (step :: more)) (sound : LedSound ec state) :
    LedSound ec (state.make ec mode step) := by
  have onward := orderly.onward_make apart state
  cases step with
  | storeLed value =>
      have raised : value = true → BypassReady ec state ∧ PinReady ec state := by
        rintro rfl
        obtain ⟨bypass, pin⟩ := first List.mem_cons_self
        refine ⟨bypass.resolve_left fun ahead => ?_, pin.resolve_left fun ahead => ?_⟩
        · exact (orderly.2 rfl).1 (List.mem_of_ne_of_mem (by simp) ahead)
        · exact (orderly.2 rfl).2 (List.mem_of_ne_of_mem (by simp) ahead)
      refine ⟨fun up => (raised up).1, fun up => (raised up).2, sound.off, fun slip => ?_⟩
      obtain ⟨up, slipped⟩ := Bool.and_eq_true_iff.mp slip
      refine ⟨up, (Bool.or_eq_true_iff.mp slipped).elim (fun slip => (sound.slip slip).2) id⟩
  | batch writes =>
      have flag : (state.make ec mode (.batch writes)).world.ledCustom = state.world.ledCustom :=
        play_flag state.world writes
      refine ⟨fun up => onward.1 (sound.bypass (flag ▸ up)),
        fun up => onward.2 (sound.pin (flag ▸ up)), fun off => ?_, fun slip => ?_⟩
      all_goals
        rcases orderly.bypass_made apart state.world state.bypass with
          ⟨kept, same, _⟩ | ⟨on, same⟩ | ⟨value, same, _⟩
      · exact kept.trans (sound.off ((congrArg Bypass.off same).symm.trans off))
      · exact absurd ((congrArg Bypass.off same).symm.trans off) Bool.false_ne_true
      · exact value
      · obtain ⟨up, off⟩ := sound.slip ((congrArg Bypass.slip same).symm.trans slip)
        exact ⟨flag.trans up, (congrArg Bypass.off same).trans off⟩
      · exact absurd ((congrArg Bypass.slip same).symm.trans slip) Bool.false_ne_true
      · obtain ⟨up, _⟩ := sound.slip ((congrArg Bypass.slip same).symm.trans slip)
        exact ⟨flag.trans up, congrArg Bypass.off same⟩

theorem LedSound.stop (apart : ec.RingApart) (orderly : Orderly mode (.batch writes :: more))
    {made : Nat} (bound : made < writes.length) (sound : LedSound ec state) :
    LedSound ec (state.stop ec mode writes made) := by
  have onward := orderly.onward_stop apart state bound
  have flag : (state.stop ec mode writes made).world.ledCustom = state.world.ledCustom :=
    play_flag state.world _
  refine ⟨fun up => onward.1 (sound.bypass (flag ▸ up)),
    fun up => onward.2 (sound.pin (flag ▸ up)),
    fun off => (orderly.bypass_failed apart state.world bound).trans (sound.off off),
    fun slip => ?_⟩
  rw [flag]
  rcases Bool.or_eq_true_iff.mp slip with earlier | now
  · exact sound.slip earlier
  · simp only [Bool.and_eq_true] at now
    exact ⟨now.1.2, now.2⟩

/-- What a call of `applyLedMode` still has to do. -/
inductive OnCourse (ec : EcDevice) (state : LedWatch) (mode : PowerLedMode) :
    Program daemonOps (Except Failure Unit) → Prop where
  | entering (notAuto : mode ≠ .auto) : OnCourse ec state mode (applyLedMode ec mode).run
  | following {custom : Bool} {steps : List Step} (remaining : steps <:+ ledSteps custom mode)
      (first : SetUpFirst ec state steps) : OnCourse ec state mode (script ec steps).run
  | failed (failure : Failure) : OnCourse ec state mode (.done (.error failure))

theorem applyLedMode_onCourse (state : LedWatch) (mode : PowerLedMode) :
    OnCourse ec state mode (applyLedMode ec mode).run := by
  by_cases auto : mode = .auto
  · rw [auto, applyLedMode_auto]
    exact .following (List.suffix_refl _) (ledSteps_setUpFirst state true .auto)
  · exact .entering auto

theorem OnCourse.mono {before after : LedWatch}
    {todo : Program daemonOps (Except Failure Unit)} (onward : Onward ec before after)
    (course : OnCourse ec before mode todo) : OnCourse ec after mode todo := by
  cases course with
  | entering notAuto => exact .entering notAuto
  | following remaining first => exact .following remaining (first.mono onward)
  | failed failure => exact .failed failure

/-- A call of `Auto` still has something to do. -/
def Mends (pool : LedPool) (thread : ThreadId) : Prop :=
  ∃ operation rest, pool.thread thread = some ⟨.auto, .perform operation rest⟩

theorem Mends.of_same {before after : LedPool} (same : after.thread thread = before.thread thread)
    (mends : Mends before thread) : Mends after thread := by
  obtain ⟨operation, rest, running⟩ := mends
  exact ⟨operation, rest, same.trans running⟩

/-- The flag is up with the bypass off only after a slip, or while a call of `Auto` is about
to lower it. -/
def Owed (state : LedWatch) (mends : Prop) : Prop :=
  state.world.ledCustom = true → state.bypass.off = true → state.bypass.slip = true ∨ mends

theorem Owed.make (apart : ec.RingApart) {custom : Bool} {others : Prop}
    (remaining : step :: more <:+ ledSteps custom mode) (owed : Owed state (others ∨ mode = .auto)) :
    Owed (state.make ec mode step) (others ∨ mode = .auto ∧ more ≠ []) := by
  intro up off
  have orderly := remaining_orderly remaining
  cases step with
  | storeLed value =>
      have raised : value = true := up
      have behind : state.bypass.off = true := off
      exact .inl (by simp [LedWatch.make, Bypass.after, Bypass.stored, raised, behind])
  | batch writes =>
      have unfinished : mode = .auto → mode = .auto ∧ more ≠ [] := by
        rintro rfl
        exact ⟨rfl, (auto_lowers remaining).resolve_left (by simp)⟩
      have flag : state.world.ledCustom = true := (play_flag state.world writes).symm.trans up
      rcases orderly.bypass_made apart state.world state.bypass with
        ⟨_, same, _⟩ | ⟨_, same⟩ | ⟨_, _, auto⟩
      · rcases owed flag ((congrArg Bypass.off same).symm.trans off) with slip | others | auto
        · exact .inl ((congrArg Bypass.slip same).trans slip)
        · exact .inr (.inl others)
        · exact .inr (.inr (unfinished auto))
      · exact absurd ((congrArg Bypass.off same).symm.trans off) Bool.false_ne_true
      · exact .inr (.inr (unfinished auto))

theorem Owed.stop {made : Nat} {others : Prop} (owed : Owed state (others ∨ mode = .auto)) :
    Owed (state.stop ec mode writes made) others := by
  intro up off
  have flag : state.world.ledCustom = true := (play_flag state.world _).symm.trans up
  have behind : state.bypass.off = true := off
  rcases owed flag off with slip | others | auto
  · exact .inl (by simp [LedWatch.stop, Bypass.failed, slip])
  · exact .inr others
  · exact .inl (by simp [LedWatch.stop, Bypass.failed, auto, flag, behind])

theorem script_unfinished (unfinished : steps ≠ []) :
    ∃ operation rest, (script ec steps).run = Program.perform (I := daemonOps) operation rest := by
  cases steps with
  | nil => exact absurd rfl unfinished
  | cons step more => cases step <;> exact ⟨_, _, rfl⟩

/-- An operation of a call keeps it on course, and what it leaves is sound; the flag is
answered for by a slip, by the other calls or by the rest of this one. -/
theorem course_act (codec : SettingsCodec) (thread : ThreadId) (apart : ec.RingApart)
    (course : OnCourse ec state mode (Program.perform (I := daemonOps) operation rest))
    (choice : Choice) (sound : LedSound ec state) {others : Prop}
    (owed : Owed state (others ∨ mode = .auto)) :
    let answered := ledSemantics codec ec thread mode operation choice state
    OnCourse ec answered.2 mode (rest answered.1) ∧ Onward ec state answered.2 ∧
      LedSound ec answered.2 ∧ Owed answered.2 (others ∨
        mode = .auto ∧ ∃ operation more, rest answered.1 = .perform operation more) := by
  intro answered
  generalize equal : Program.perform (I := daemonOps) operation rest = todo at course
  cases course with
  | failed failure => cases equal
  | entering notAuto =>
      rw [applyLedMode_eq notAuto] at equal
      cases equal
      refine ⟨.following (List.suffix_refl _) (ledSteps_setUpFirst _ _ mode), ⟨id, id⟩, sound, ?_⟩
      exact fun up off => (owed up off).imp_right fun who => .inl (who.resolve_right notAuto)
  | @following custom steps remaining first =>
      have orderly := remaining_orderly remaining
      obtain ⟨step, more, rfl, made | ended⟩ := led_act codec thread apart orderly equal choice state
      · obtain ⟨continues, made⟩ := made
        refine ⟨continues ▸ .following ((List.suffix_cons step more).trans remaining) ?_, ?_, ?_, ?_⟩
        · exact made ▸ first.make apart orderly
        · exact made ▸ orderly.onward_make apart state
        · exact made ▸ sound.make apart orderly first
        · rw [made, continues]
          exact fun up off => (owed.make apart remaining up off).imp_right fun who =>
            who.imp_right fun own => ⟨own.1, script_unfinished own.2⟩
      · obtain ⟨writes, made, failure, rfl, bound, ends, stopped⟩ := ended
        refine ⟨ends ▸ .failed failure, ?_, ?_, ?_⟩
        · exact stopped ▸ orderly.onward_stop apart state bound
        · exact stopped ▸ sound.stop apart orderly bound
        · rw [stopped]
          exact fun up off => (owed.stop up off).imp_right .inl

structure LedInvariant (ec : EcDevice) (pool : LedPool) : Prop where
  onCourse : pool.Each fun state _ activity => OnCourse ec state activity.job activity.todo
  sound : LedSound ec pool.world
  owed : Owed pool.world (∃ thread, Mends pool thread)

theorem LedInvariant.idle {world : World} (coherent : world.LedCoherent ec) :
    LedInvariant ec (Pool.idle (LedWatch.start world)) where
  onCourse := fun thread activity running => by cases running
  sound :=
    { bypass := fun up => .inr (coherent up).1
      pin := fun up => (coherent up).2
      off := fun off => absurd off Bool.false_ne_true
      slip := fun slip => absurd slip Bool.false_ne_true }
  owed := fun _ off => absurd off Bool.false_ne_true

theorem LedInvariant.start {pool : LedPool} (held : LedInvariant ec pool)
    (free : pool.thread thread = none) :
    LedInvariant ec (pool.put thread (some ⟨mode, (applyLedMode ec mode).run⟩)) where
  onCourse := held.onCourse.move (applyLedMode_onCourse _ mode) fun _ _ _ course => course
  sound := held.sound
  owed up off := by
    refine (held.owed up off).imp_right fun ⟨other, mends⟩ => ⟨other, mends.of_same ?_⟩
    refine Pool.put_other _ _ ?_
    rintro rfl
    obtain ⟨_, _, running⟩ := mends
    exact absurd (free.symm.trans running) (by simp)

theorem LedInvariant.finish {pool : LedPool} {value : Except Failure Unit}
    (held : LedInvariant ec pool) (ended : pool.thread thread = some ⟨mode, .done value⟩) :
    LedInvariant ec (pool.put thread none) where
  onCourse := held.onCourse.finish
  sound := held.sound
  owed up off := by
    refine (held.owed up off).imp_right fun ⟨other, mends⟩ => ⟨other, mends.of_same ?_⟩
    refine Pool.put_other _ _ ?_
    rintro rfl
    obtain ⟨_, _, running⟩ := mends
    rw [ended] at running
    cases running

theorem LedInvariant.act (apart : ec.RingApart) {pool : LedPool} {choice : Choice}
    (held : LedInvariant ec pool)
    (running : pool.thread thread = some ⟨mode, Program.perform (I := daemonOps) operation rest⟩) :
    LedInvariant ec { pool.put thread
      (some ⟨mode, rest (ledSemantics codec ec thread mode operation choice pool.world).1⟩) with
      world := (ledSemantics codec ec thread mode operation choice pool.world).2 } := by
  have owed : Owed pool.world
      ((∃ other, other ≠ thread ∧ Mends pool other) ∨ mode = .auto) := by
    intro up off
    refine (held.owed up off).imp_right fun ⟨other, mends⟩ => ?_
    by_cases same : other = thread
    · subst same
      obtain ⟨_, _, own⟩ := mends
      rw [running] at own
      exact .inr (congrArg Activity.job (Option.some.inj own))
    · exact .inl ⟨other, same, mends⟩
  have course : OnCourse ec pool.world mode (Program.perform (I := daemonOps) operation rest) :=
    held.onCourse thread _ running
  obtain ⟨course, onward, sound, owed⟩ :=
    course_act codec thread apart course choice held.sound owed
  refine ⟨held.onCourse.move course fun _ _ _ course => course.mono onward, sound, ?_⟩
  intro up off
  rcases owed up off with slip | ⟨other, different, mends⟩ | ⟨auto, next, more, continues⟩
  · exact .inl slip
  · exact .inr ⟨other, mends.of_same (Pool.put_other pool _ different)⟩
  · refine .inr ⟨thread, next, more, (Pool.put_same pool thread _).trans ?_⟩
    exact congrArg some (congrArg₂ Activity.mk auto continues)

/-- In every run the flag agrees with the registers whenever no call is in progress, except
after a slip that no call has made up for. -/
theorem quiet_ledCoherent (detection : Detection) {world : World} {pool : LedPool}
    {events : List (Event ThreadId PowerLedMode Choice)}
    (coherent : world.LedCoherent detection.device)
    (ran : LedRun codec detection.device (Pool.idle (LedWatch.start world)) events pool)
    (quiet : pool.Quiet) :
    pool.world.world.LedCoherent detection.device ↔ pool.world.bypass.slip = false := by
  have apart := detection.ringApart
  have held : LedInvariant detection.device pool := by
    refine ran.invariant_of_steps ?_ ?_ ?_ (.idle coherent)
    · exact fun held _ free => held.start free
    · exact fun held _ running => held.act apart running
    · exact fun held _ ended => held.finish ended
  constructor
  · intro agrees
    by_contra slipped
    obtain ⟨up, off⟩ := held.sound.slip (by simpa using slipped)
    exact absurd ((held.sound.off off).symm.trans (agrees up).1) (by decide)
  · intro settled up
    refine ⟨(held.sound.bypass up).resolve_left fun off => ?_, held.sound.pin up⟩
    rcases held.owed up off with slip | ⟨thread, _, _, running⟩
    · rw [settled] at slip
      cases slip
    · rw [quiet thread] at running
      cases running

/-- A `Custom` request raises the flag behind the write of an `Auto` that then fails; a second
one has read the flag before and still switches the bypass on. -/
def mendedSlip : List (Event ThreadId PowerLedMode Choice) :=
  [.start 0 (.custom 10), .start 1 .auto, .start 2 (.custom 20), .act 2 default] ++
    Pool.turns 0 3 ++ [.act 1 default, .act 0 default, .act 1 { accesses := [some "timeout"] },
      .finish 1] ++
    Pool.turns 0 2 ++ [.finish 0] ++ Pool.turns 2 5 ++ [.finish 2]

theorem quiet_ledCoherent_mendedSlip :
    ∃ pool : LedPool, pool.world.world.ledCustom = true ∧
      pool.world.world.LedCoherent Detection.n155a.device := by
  have checked : (Pool.replay (fun mode => (applyLedMode Detection.n155a.device mode).run)
      (ledSemantics .bincode Detection.n155a.device) (fun _ _ => true)
      (Pool.idle (LedWatch.start (World.fresh (fun _ => 0) none))) mendedSlip).any (fun pool =>
        [0, 1, 2].all (fun thread => (pool.thread thread).isNone) &&
          (pool.world.world.ledCustom && !pool.world.bypass.slip)) = true := by
    decide +kernel
  obtain ⟨pool, replayed, checked⟩ := (Option.any_eq_true _ _).mp checked
  simp only [Bool.and_eq_true, Bool.not_eq_true'] at checked
  obtain ⟨ended, up, mended⟩ := checked
  have ran := Pool.run_of_replay (fun _ _ _ => trivial) replayed
  have quiet : pool.Quiet :=
    ran.quiet [0, 1, 2] (fun _ => rfl) (by decide) (by simpa using ended)
  exact ⟨pool, up,
    (quiet_ledCoherent Detection.n155a (fun up => by cases up) ran quiet).mpr mended⟩

/-- `Custom` succeeds, then the reset of `Auto` fails after the bypass is off. -/
theorem quiet_not_ledCoherent :
    ¬∀ events (pool : LedPool), LedRun .bincode Detection.n155a.device
      (Pool.idle (LedWatch.start (World.fresh (fun _ => 0) none))) events pool → pool.Quiet →
      pool.world.world.LedCoherent Detection.n155a.device := by
  intro claim
  have stale : (Pool.replay (fun mode => (applyLedMode Detection.n155a.device mode).run)
      (ledSemantics .bincode Detection.n155a.device) (fun _ _ => true)
      (Pool.idle (LedWatch.start (World.fresh (fun _ => 0) none)))
      (Pool.solo 0 (.custom 10) (List.replicate 6 default) ++
        Pool.solo 0 .auto [default, { accesses := [some "timeout"] }])).any (fun pool =>
          (pool.thread 0).isNone && pool.world.world.ledCustom &&
          pool.world.world.registers Detection.n155a.device .ledBypass == 0x00) = true := by
    decide +kernel
  obtain ⟨pool, replayed, checked⟩ := (Option.any_eq_true _ _).mp stale
  simp only [Bool.and_eq_true, Option.isNone_iff_eq_none, beq_iff_eq] at checked
  obtain ⟨⟨ended, up⟩, off⟩ := checked
  have ran := Pool.run_of_replay (fun _ _ _ => trivial) replayed
  have quiet : pool.Quiet := by
    refine ran.quiet [0] (fun _ => rfl) (fun event member => ?_) (by simpa using ended)
    rcases List.mem_append.mp member with member | member <;>
      exact Pool.solo_thread _ _ _ event member
  have on := (claim _ pool ran quiet up).1
  rw [off] at on
  exact absurd on (by decide)

end Lecoo.Ec
