import Lecoo.Daemon.Requests

namespace Lecoo.Daemon

open Lecoo.Effects Lecoo.Ipc Lecoo.Ec Lecoo.Data

/-! # Concurrent setter requests

A setter request writes the EC first and the settings later.  Its window is
open in between; what decides whether the settings end up with the value the EC
has is whether another request of the same feature got into the window.
-/

variable {codec : SettingsCodec} {ec : EcDevice} {thread : ThreadId} {setter : Setter}

/-- The rest of a request whose hardware function still has the given program to do. -/
def serving (setter : Setter) (program : Program daemonOps (Except Failure Unit)) :
    Program daemonOps (Except Failure IpcResponse) :=
  program >>= ExceptT.bindCont (fun _ => commit (record setter)) >>= fun outcome =>
    .done (respond outcome)

theorem doWork_serving {request : IpcRequest} (sets : requestSetter request = some setter) :
    (doWork ec request).run = serving setter (setter.apply ec).run := by
  rw [doWork_run, handleRequest_setter sets]
  rfl

/-- What is left once the settings are written. -/
def released : Program daemonOps (Except Failure IpcResponse) :=
  .perform .unlockState fun _ => .done (.ok .success)

def refused : Program daemonOps (Except Failure IpcResponse) :=
  .done (respond (.error (.error "State locked, cannot acquire lock")))

/-- What is left once the guard is obtained. -/
def committing (setter : Setter) : Program daemonOps (Except Failure IpcResponse) :=
  .perform .readState fun settings => .perform (.writeState (record setter settings)) fun _ =>
    released

theorem serving_done : serving setter (.done (.ok ())) =
    .perform .tryLockState fun acquired => if acquired then committing setter else refused := by
  refine congrArg (Program.perform _) (funext fun acquired => ?_)
  cases acquired <;> rfl

theorem serving_failed (failure : Failure) :
    serving setter (.done (.error failure)) = .done (respond (.error failure)) := rfl

theorem serving_perform (operation : DaemonOp)
    (rest : daemonOps.Reply operation → Program daemonOps (Except Failure Unit)) :
    serving setter (.perform operation rest) =
      .perform operation fun reply => serving setter (rest reply) := rfl

/-- The hardware function of a request follows its script, reads the flag
first, or refuses the argument. -/
theorem apply_forms {request : IpcRequest} (sets : requestSetter request = some setter) :
    (¬setter.ReliesOnFlag ∧ setter.apply ec = script ec (setter.steps ec true 0)) ∨
    (setter.ReliesOnFlag ∧ setter.feature = .ledRing ∧ setter.apply ec =
      Io.loadLedCustom >>= fun custom => script ec (setter.steps ec custom 0)) ∨
    (∃ message, setter.apply ec = Io.bail message) := by
  cases request with
  | setPowerProfile profile =>
      cases sets
      refine .inl ⟨id, ?_⟩
      rw [Setter.apply, applyPowerProfile_eq, bind_assoc]
      simp only [pure_bind, bind_pure_unit]
      rfl
  | setFanMode fan mode =>
      cases sets
      by_cases valid : (Setter.fanMode fan mode).Valid
      · exact .inl ⟨id, applyFanMode_eq fan valid⟩
      · cases mode with
        | custom duty => exact .inr (.inr ⟨_, applyFanMode_refused fan (UInt8.not_le.mp valid)⟩)
        | _ => exact absurd trivial valid
  | setKeyboardBacklight level =>
      cases sets
      exact .inl ⟨id, applyKeyboardBacklight_eq level⟩
  | setChargeLimit limit =>
      cases sets
      exact .inl ⟨id, applyChargeLimit_eq limit⟩
  | setLedMode mode =>
      cases sets
      by_cases auto : mode = .auto
      · subst auto
        exact .inl ⟨id, applyLedMode_auto⟩
      · refine .inr (.inl ⟨?_, rfl, applyLedMode_eq auto⟩)
        cases mode <;> simp_all [Setter.ReliesOnFlag]
  | _ => cases sets

/-- Where a request stands between the flag, the registers and the settings: it has
read that the ring is set up already, or its window is open, from its first register
write until it writes the settings.  A window is disturbed when another request of the
feature writes registers. -/
inductive Window where
  | relying
  | opened (feature : Feature) (disturbed : Bool)

@[ext] structure Tracked where
  world : World
  window : ThreadId → Option Window

def Window.bear (feature : Feature) : Window → Window
  | .relying => .relying
  | .opened own disturbed => .opened own (disturbed || own = feature)

def Window.enter (feature : Feature) : Option Window → Window
  | some (.opened own disturbed) => .opened own disturbed
  | _ => .opened feature false

/-- The thread writes registers of the given feature. -/
def touch (thread : ThreadId) (feature : Feature) (window : ThreadId → Option Window) :
    ThreadId → Option Window :=
  fun other =>
    if other = thread then some (Window.enter feature (window thread))
    else (window other).map (Window.bear feature)

def noteWindow (thread : ThreadId) (feature : Feature) (window : ThreadId → Option Window) :
    (operation : DaemonOp) → daemonOps.Reply operation → ThreadId → Option Window
  | .batch _, _ => touch thread feature window
  | .loadLedCustom, true => Function.update window thread (some .relying)
  | .writeState _, _ => Function.update window thread none
  | _, _ => window

/-- The semantics of the daemon with the windows noted beside it. -/
def trackedSemantics (codec : SettingsCodec) (thread : ThreadId) (request : IpcRequest) :
    Semantics daemonOps Choice Tracked :=
  fun operation choice state =>
    let answered := daemonSemantics codec thread operation choice state.world
    (answered.1,
      { world := answered.2
        window :=
          match requestSetter request with
          | some setter => noteWindow thread setter.feature state.window operation answered.1
          | none => state.window })

/-- The bypass and the pin are as a request expects them that skips their set-up. -/
def RingSetUp (memory : Memory Register UInt8) : Prop :=
  memory .ledBypass = 0x01 ∧ memory .gpioA0Mux = 0x00

instance (memory : Memory Register UInt8) : Decidable (RingSetUp memory) :=
  inferInstanceAs (Decidable (_ ∧ _))

/-- The remaining steps end with what the setter prescribes: from any memory before the
first write, one with the ring set up for a request that relies on it, and from the
present one while the window is undisturbed. -/
def Sound (ec : EcDevice) (state : Tracked) (thread : ThreadId) (setter : Setter)
    (steps : List Step) : Prop :=
  match state.window thread with
  | none => ∀ memory : Memory Register UInt8,
      (memory.writeAll (registerWrites (actionsOf steps))).Holds setter.prescribes
  | some .relying => (∃ writes more, steps = .batch writes :: more) ∧
      ∀ memory : Memory Register UInt8, RingSetUp memory →
        (memory.writeAll (registerWrites (actionsOf steps))).Holds setter.prescribes
  | some (.opened feature disturbed) => feature = setter.feature ∧ (disturbed = false →
      ((state.world.registers ec).writeAll (registerWrites (actionsOf steps))).Holds
        setter.prescribes)

inductive Stage (ec : EcDevice) (state : Tracked) (thread : ThreadId) (setter : Setter) :
    Program daemonOps (Except Failure IpcResponse) → Prop where
  | loading (relies : setter.ReliesOnFlag) (ring : setter.feature = .ledRing)
      (unopened : state.window thread = none) :
      Stage ec state thread setter (serving setter
        (Io.loadLedCustom >>= fun custom => script ec (setter.steps ec custom 0)).run)
  | applying {steps : List Step}
      (own : ∀ entry ∈ registerWrites (actionsOf steps), entry.1.feature = some setter.feature)
      (sound : Sound ec state thread setter steps) :
      Stage ec state thread setter (serving setter (script ec steps).run)
  | locked (holds : state.world.stateLock = some thread) (sound : Sound ec state thread setter []) :
      Stage ec state thread setter (committing setter)
  | read (holds : state.world.stateLock = some thread) (sound : Sound ec state thread setter []) :
      Stage ec state thread setter
        (.perform (.writeState (record setter state.world.settings)) fun _ => released)
  | written (holds : state.world.stateLock = some thread) (closed : state.window thread = none) :
      Stage ec state thread setter released
  | answered (closed : state.window thread = none) :
      Stage ec state thread setter (.done (.ok .success))
  | failed {outcome : Except Failure IpcResponse} (unsuccessful : outcome ≠ .ok .success) :
      Stage ec state thread setter (.done outcome)

/-- The request has written the settings and will be answered with success. -/
def Recorded (todo : Program daemonOps (Except Failure IpcResponse)) : Prop :=
  todo = released ∨ todo = .done (.ok .success)

theorem refused_failed {state : Tracked} : Stage ec state thread setter refused :=
  .failed (by simp [respond])

theorem Stage.start {request : IpcRequest} {state : Tracked}
    (sets : requestSetter request = some setter) (closed : state.window thread = none) :
    Stage ec state thread setter (doWork ec request).run := by
  rw [doWork_serving sets]
  rcases apply_forms sets with ⟨independent, scripted⟩ | ⟨relies, ring, loads⟩ | ⟨message, bails⟩
  · rw [scripted]
    refine .applying (setter.steps_feature true 0) ?_
    rw [Sound, closed]
    exact fun memory =>
      (setter.steps_prescribed_iff true 0 memory).mpr fun relies => absurd relies independent
  · rw [loads]
    exact .loading relies ring closed
  · rw [bails]
    exact .failed (by simp [respond])

/-- What one operation of a request does to the state the requests share. -/
inductive SharedStep (ec : EcDevice) (thread : ThreadId) (setter : Setter) (before after : Tracked)
    (todo next : Program daemonOps (Except Failure IpcResponse)) : Prop where
  | touched
      (foreign : ∀ register : Register, register.feature ≠ some setter.feature →
        after.world.registers ec register = before.world.registers ec register)
      (settings : after.world.settings = before.world.settings)
      (stateLock : after.world.stateLock = before.world.stateLock)
      (window : after.window = touch thread setter.feature before.window)
      (unrecorded : ¬Recorded next)
  | aside (registers : after.world.registers ec = before.world.registers ec)
      (settings : after.world.settings = before.world.settings)
      (stateLock : after.world.stateLock = before.world.stateLock)
      (window : ∀ other, other ≠ thread → after.window other = before.window other)
      (unrecorded : ¬Recorded next)
  | acquired (free : before.world.stateLock = none)
      (world : after.world = before.world.lockedBy (some thread))
      (window : after.window = before.window) (unrecorded : ¬Recorded next)
  | wrote (holds : before.world.stateLock = some thread)
      (world : after.world = before.world.withSettings (record setter before.world.settings))
      (window : after.window = Function.update before.window thread none)
      (sound : Sound ec before thread setter [])
      (writes : ∃ settings rest, todo = .perform (.writeState settings) rest)
  | gaveBack (holds : before.world.stateLock = some thread)
      (world : after.world = before.world.lockedBy none)
      (window : after.window = before.window) (recorded : Recorded todo)

theorem serving_ne_success (program : Program daemonOps (Except Failure Unit)) :
    serving setter program ≠ .done (.ok .success) := by
  intro same
  cases program with
  | done outcome =>
      cases outcome with
      | error failure =>
          rw [serving_failed] at same
          cases failure <;> simp [respond] at same
      | ok value =>
          rw [serving_done] at same
          cases same
  | perform operation rest =>
      rw [serving_perform] at same
      cases same

theorem serving_unrecorded (program : Program daemonOps (Except Failure Unit)) :
    ¬Recorded (serving setter program) := by
  intro recorded
  rcases recorded with same | same
  · cases program with
    | done outcome =>
        cases outcome with
        | error failure => cases same
        | ok value =>
            rw [serving_done] at same
            cases same
    | perform operation rest =>
        rw [serving_perform, released] at same
        obtain ⟨rfl, equal⟩ := Program.perform.inj same
        exact serving_ne_success (rest ()) (congrFun (eq_of_heq equal) ())
  · exact serving_ne_success program same

theorem committing_unrecorded : ¬Recorded (committing setter) := by
  intro recorded
  rcases recorded with same | same <;> cases same

theorem failed_unrecorded {outcome : Except Failure IpcResponse} (unsuccessful : outcome ≠ .ok .success) :
    ¬Recorded (.done outcome) := by
  intro recorded
  rcases recorded with same | same
  · cases same
  · cases same
    exact unsuccessful rfl

theorem touch_same (thread : ThreadId) (feature : Feature) (window : ThreadId → Option Window) :
    touch thread feature window thread = some (Window.enter feature (window thread)) := by
  simp [touch]

theorem touch_other {thread other : ThreadId} (different : other ≠ thread) (feature : Feature)
    (window : ThreadId → Option Window) :
    touch thread feature window other = (window other).map (Window.bear feature) := by
  simp [touch, different]

/-- A register write opens the window, if the request may rely on what it relies on. -/
theorem Sound.made {before after : Tracked} {step : Step} {more : List Step}
    (sound : Sound ec before thread setter (step :: more))
    (setUp : before.window thread = some .relying → RingSetUp (before.world.registers ec))
    (played : ∀ register : Register, register.feature = some setter.feature →
      after.world.registers ec register =
        (before.world.registers ec).writeAll (registerWrites step.actions) register)
    (window : after.window = touch thread setter.feature before.window) :
    Sound ec after thread setter more := by
  have split : registerWrites (actionsOf (step :: more)) =
      registerWrites step.actions ++ registerWrites (actionsOf more) := by
    simp [registerWrites, actionsOf]
  have established : ((before.world.registers ec).writeAll
        (registerWrites (actionsOf (step :: more)))).Holds setter.prescribes →
      ((after.world.registers ec).writeAll (registerWrites (actionsOf more))).Holds
        setter.prescribes := by
    intro holds entry member
    rw [← holds entry member, split, Memory.writeAll_append]
    exact Memory.writeAll_congr _ (played entry.1 (setter.prescribes_feature entry member))
  rw [Sound, window, touch_same]
  rw [Sound] at sound
  rcases earlier : before.window thread with _ | _ | ⟨feature, disturbed⟩
  · rw [earlier] at sound
    exact ⟨rfl, fun _ => established (sound _)⟩
  · rw [earlier] at sound
    exact ⟨rfl, fun _ => established (sound.2 _ (setUp earlier))⟩
  · rw [earlier] at sound
    exact ⟨sound.1, fun undisturbed => established (sound.2 undisturbed)⟩

theorem Sound.congr {before after : Tracked} {steps : List Step}
    (sound : Sound ec before thread setter steps)
    (window : after.window thread = before.window thread)
    (registers : after.world.registers ec = before.world.registers ec) :
    Sound ec after thread setter steps := by
  rw [Sound, window, registers]
  exact sound

theorem Sound.stored {state : Tracked} {value : Bool} {more : List Step}
    (sound : Sound ec state thread setter (.storeLed value :: more)) :
    Sound ec state thread setter more := by
  rw [Sound] at sound ⊢
  rcases found : state.window thread with _ | _ | ⟨feature, disturbed⟩
  · rw [found] at sound
    exact sound
  · rw [found] at sound
    obtain ⟨⟨_, _, impossible⟩, _⟩ := sound
    cases impossible
  · rw [found] at sound
    exact sound

/-- A request that skips the set-up of the ring begins with a register write. -/
theorem relying_steps (relies : setter.ReliesOnFlag) :
    ∃ writes more, setter.steps ec true 0 = .batch writes :: more := by
  cases setter with
  | ledMode mode =>
      cases mode with
      | auto => exact relies.elim
      | custom brightness => exact ⟨_, _, rfl⟩
      | animation config => exact ⟨_, _, rfl⟩
  | _ => exact relies.elim

theorem registerWrites_cons (step : Step) (more : List Step) :
    registerWrites (actionsOf (step :: more)) =
      registerWrites step.actions ++ registerWrites (actionsOf more) := by
  simp [registerWrites, actionsOf]

theorem Stage.apply_batch (separated : ec.Separated) {state after : Tracked}
    {writes : List (Register × UInt8)} {more : List Step}
    (own : ∀ entry ∈ registerWrites (actionsOf (.batch writes :: more)),
      entry.1.feature = some setter.feature)
    (sound : Sound ec state thread setter (.batch writes :: more))
    (setUp : state.window thread = some .relying → RingSetUp (state.world.registers ec))
    (played : after.world = state.world.play ec (Step.batch writes).actions)
    (window : after.window = touch thread setter.feature state.window)
    {todo next : Program daemonOps (Except Failure IpcResponse)}
    (continues : next = serving setter (script ec more).run) :
    Stage ec after thread setter next ∧
      SharedStep ec thread setter state after todo next := by
  have registers : ∀ register, after.world.registers ec register =
      (state.world.registers ec).writeAll (registerWrites (Step.batch writes).actions) register := by
    intro register
    rw [played]
    exact play_registers fun entry _ shared => separated shared
  have same : state.world.SameElsewhere (state.world.play ec (Step.batch writes).actions) :=
    World.play_sameElsewhere _
  subst continues
  rw [registerWrites_cons] at own
  constructor
  · refine .applying (fun entry member => own entry (List.mem_append_right _ member)) ?_
    exact sound.made setUp (fun register _ => registers register) window
  · refine .touched (fun register foreign => ?_) ?_ ?_ window (serving_unrecorded _)
    · rw [registers]
      refine Memory.writeAll_frame _ fun entry member shared => foreign ?_
      rw [← shared]
      exact own entry (List.mem_append_left _ member)
    · rw [played, same.settings]
    · rw [played, same.stateLock]

theorem Stage.apply_store {state after : Tracked} {value : Bool} {more : List Step}
    (own : ∀ entry ∈ registerWrites (actionsOf (.storeLed value :: more)),
      entry.1.feature = some setter.feature)
    (sound : Sound ec state thread setter (.storeLed value :: more))
    (played : after.world = state.world.play ec (Step.storeLed value).actions)
    (window : after.window = state.window)
    {todo next : Program daemonOps (Except Failure IpcResponse)}
    (continues : next = serving setter (script ec more).run) :
    Stage ec after thread setter next ∧
      SharedStep ec thread setter state after todo next := by
  have registers : after.world.registers ec = state.world.registers ec := by
    rw [played]
    rfl
  subst continues
  refine ⟨.applying own (sound.stored.congr (congrFun window thread) registers), ?_⟩
  exact .aside registers (by rw [played]; rfl) (by rw [played]; rfl)
    (fun other _ => congrFun window other) (serving_unrecorded _)

/-- The request reads the flag. -/
theorem Stage.load {state after : Tracked} (relies : setter.ReliesOnFlag)
    (unopened : state.window thread = none) (same : after.world = state.world)
    (window : after.window =
      noteWindow thread setter.feature state.window .loadLedCustom state.world.ledCustom)
    {todo : Program daemonOps (Except Failure IpcResponse)} :
    let next := serving setter (script ec (setter.steps ec state.world.ledCustom 0)).run
    Stage ec after thread setter next ∧
      SharedStep ec thread setter state after todo next := by
  have aside : ∀ other, other ≠ thread → after.window other = state.window other := by
    intro other different
    rw [window]
    cases state.world.ledCustom with
    | false => rfl
    | true => exact Function.update_of_ne different _ _
  have prescribed : ∀ memory, (state.world.ledCustom = true → RingSetUp memory) →
      (memory.writeAll (registerWrites (actionsOf
        (setter.steps ec state.world.ledCustom 0)))).Holds setter.prescribes :=
    fun memory ready => (setter.steps_prescribed_iff _ 0 memory).mpr fun _ => ready
  refine ⟨.applying (setter.steps_feature state.world.ledCustom 0) ?_,
    .aside (by rw [same]) (by rw [same]) (by rw [same]) aside (serving_unrecorded _)⟩
  rw [Sound, window]
  cases loaded : state.world.ledCustom with
  | false =>
      simp only [noteWindow, unopened]
      rw [loaded] at prescribed
      exact fun memory => prescribed memory fun impossible => by cases impossible
  | true =>
      simp only [noteWindow, Function.update_self]
      rw [loaded] at prescribed
      exact ⟨relying_steps relies, fun memory ready => prescribed memory fun _ => ready⟩

/-- The request comes to the guard when its register writes are done. -/
theorem Stage.tryLock (codec : SettingsCodec) (choice : Choice) {state after : Tracked}
    {acquired : Bool}
    (sound : Sound ec state thread setter [])
    (answered : (acquired, after.world) =
      daemonSemantics codec thread .tryLockState choice state.world)
    (window : after.window = state.window)
    {todo : Program daemonOps (Except Failure IpcResponse)} :
    let next := if acquired then committing setter else refused
    Stage ec after thread setter next ∧
      SharedStep ec thread setter state after todo next := by
  cases lock : state.world.stateLock with
  | none =>
      obtain ⟨rfl, taken⟩ := Prod.mk.inj (answered.trans (tryLockState_free lock choice))
      refine ⟨.locked (by rw [taken]; rfl) ?_, .acquired lock taken window committing_unrecorded⟩
      exact sound.congr (congrFun window thread) (by rw [taken]; rfl)
  | some holder =>
      obtain ⟨rfl, kept⟩ := Prod.mk.inj (answered.trans (tryLockState_held lock choice))
      obtain rfl : after = state := Tracked.ext kept window
      exact ⟨refused_failed, .aside rfl rfl rfl (fun _ _ => rfl)
        (failed_unrecorded (by simp [respond]))⟩

theorem Stage.act (separated : ec.Separated) {request : IpcRequest}
    (sets : requestSetter request = some setter) {state : Tracked} {operation : DaemonOp}
    {rest : daemonOps.Reply operation → Program daemonOps (Except Failure IpcResponse)}
    (stage : Stage ec state thread setter (Program.perform (I := daemonOps) operation rest))
    (choice : Choice) (succeeds : ¬Fails choice state.world operation)
    (setUp : ∀ (α : Type) (body : EcBatch α), operation = .batch body →
      state.window thread = some .relying → RingSetUp (state.world.registers ec)) :
    let answered := trackedSemantics codec thread request operation choice state
    Stage ec answered.2 thread setter (rest answered.1) ∧
      SharedStep ec thread setter state answered.2
        (Program.perform (I := daemonOps) operation rest) (rest answered.1) := by
  intro answered
  have window : answered.2.window =
      noteWindow thread setter.feature state.window operation answered.1 := by
    change (match requestSetter request with
      | some setter => noteWindow thread setter.feature state.window operation answered.1
      | none => state.window) = _
    rw [sets]
  have world : answered.2.world =
    (daemonSemantics codec thread operation choice state.world).2 := rfl
  generalize equal : Program.perform (I := daemonOps) operation rest = todo at stage
  cases stage with
  | loading relies ring unopened =>
      cases equal
      exact Stage.load relies unopened (show answered.2.world = state.world from rfl) window
  | @applying steps own sound =>
      generalize scripted : (script ec steps).run = program at equal
      cases program with
      | perform next more =>
          rw [serving_perform] at equal
          cases equal
          obtain ⟨step, remaining, rfl, ⟨continues, played⟩ | ended⟩ :=
            script_act codec thread scripted.symm choice state.world
          · have goesOn := congrArg (serving setter) continues
            cases step with
            | batch writes =>
                cases scripted
                exact Stage.apply_batch separated own sound (setUp _ _ rfl) (world.trans played)
                  window goesOn
            | storeLed value =>
                cases scripted
                exact Stage.apply_store own sound (world.trans played) window goesOn
          · obtain ⟨_, _, _, _, _, _, _, fails⟩ := ended
            exact absurd fails succeeds
      | done outcome =>
          cases outcome with
          | error failure => cases equal
          | ok value =>
              have finished : steps = [] := by
                cases steps with
                | nil => rfl
                | cons step more => cases step <;> cases scripted
              subst finished
              rw [serving_done] at equal
              cases equal
              exact Stage.tryLock codec choice sound rfl window
  | locked holds sound =>
      cases equal
      have same : answered.2 = state := Tracked.ext rfl window
      rw [same]
      refine ⟨.read holds sound, .aside rfl rfl rfl (fun _ _ => rfl) fun recorded => ?_⟩
      rcases recorded with equal | equal <;> cases equal
  | read holds sound =>
      cases equal
      exact ⟨.written holds (by rw [window]; simp [noteWindow]),
        .wrote holds rfl window sound ⟨_, _, rfl⟩⟩
  | written holds closed =>
      cases equal
      have kept : answered.2.window = state.window := window
      exact ⟨.answered (by rw [kept]; exact closed), .gaveBack holds rfl kept (.inl rfl)⟩
  | answered closed => cases equal
  | failed unsuccessful => cases equal

variable {before after : Tracked} {todo next : Program daemonOps (Except Failure IpcResponse)}
  {other : ThreadId} {otherSetter : Setter}

theorem SharedStep.lock (shared : SharedStep ec thread setter before after todo next)
    (different : other ≠ thread) (holds : before.world.stateLock = some other) :
    after.world.stateLock = some other ∧ after.world.settings = before.world.settings := by
  have notHolder : before.world.stateLock ≠ some thread := by
    rw [holds]
    exact fun same => different (Option.some.inj same)
  cases shared with
  | touched _ settings stateLock => exact ⟨stateLock.trans holds, settings⟩
  | aside _ settings stateLock => exact ⟨stateLock.trans holds, settings⟩
  | acquired free => rw [free] at holds; cases holds
  | wrote taken => exact absurd taken notHolder
  | gaveBack taken => exact absurd taken notHolder

theorem SharedStep.closed (shared : SharedStep ec thread setter before after todo next)
    (different : other ≠ thread) (closed : before.window other = none) :
    after.window other = none := by
  cases shared with
  | touched _ _ _ window => rw [window, touch_other different, closed]; rfl
  | aside _ _ _ window => rw [window other different]; exact closed
  | acquired _ _ window => rw [window]; exact closed
  | wrote _ _ window => rw [window, Function.update_of_ne different]; exact closed
  | gaveBack _ _ window => rw [window]; exact closed

/-- A request of another feature does not change what the remaining steps lead
to; one of the same feature disturbs the window. -/
theorem SharedStep.sound (shared : SharedStep ec thread setter before after todo next)
    (different : other ≠ thread) {steps : List Step}
    (sound : Sound ec before other otherSetter steps) :
    Sound ec after other otherSetter steps := by
  cases shared with
  | aside registers _ _ window => exact sound.congr (window other different) registers
  | acquired _ world window => exact sound.congr (congrFun window other) (by rw [world]; rfl)
  | gaveBack _ world window => exact sound.congr (congrFun window other) (by rw [world]; rfl)
  | wrote _ world window =>
      have kept : after.window other = before.window other := by
        rw [window, Function.update_of_ne different]
      exact sound.congr kept (by rw [world]; rfl)
  | touched foreign _ _ window =>
      rw [Sound, window, touch_other different]
      rw [Sound] at sound
      rcases found : before.window other with _ | _ | ⟨feature, disturbed⟩
      · rw [found] at sound
        exact sound
      · rw [found] at sound
        exact sound
      · rw [found] at sound
        obtain ⟨rfl, holds⟩ := sound
        refine ⟨rfl, fun undisturbed => ?_⟩
        simp only [Bool.or_eq_false_iff, decide_eq_false_iff_not] at undisturbed
        intro entry member
        rw [← holds undisturbed.1 entry member]
        apply Memory.writeAll_congr
        apply foreign
        rw [otherSetter.prescribes_feature entry member]
        exact fun same => undisturbed.2 (Option.some.inj same)

theorem SharedStep.bear (shared : SharedStep ec thread setter before after todo next)
    (different : other ≠ thread) {rest : Program daemonOps (Except Failure IpcResponse)}
    (stage : Stage ec before other otherSetter rest) : Stage ec after other otherSetter rest := by
  cases stage with
  | loading relies ring unopened => exact .loading relies ring (shared.closed different unopened)
  | applying own sound => exact .applying own (shared.sound different sound)
  | locked holds sound =>
      exact .locked (shared.lock different holds).1 (shared.sound different sound)
  | read holds sound =>
      obtain ⟨lock, settings⟩ := shared.lock different holds
      rw [← settings]
      exact .read lock (shared.sound different sound)
  | written holds closed =>
      exact .written (shared.lock different holds).1 (shared.closed different closed)
  | answered closed => exact .answered (shared.closed different closed)
  | failed unsuccessful => exact .failed unsuccessful

abbrev SetterPool := Pool daemonOps ThreadId IpcRequest (Except Failure IpcResponse) Tracked

/-- Only setter requests are made, no EC access fails, and every request is
answered with success. -/
def AllSucceed (pool : SetterPool) : Event ThreadId IpcRequest Choice → Prop
  | .start _ request => (requestSetter request).isSome
  | .act thread choice => ∀ request operation rest,
      pool.thread thread = some ⟨request, .perform operation rest⟩ →
      ¬Fails choice pool.world.world operation
  | .finish thread => ∀ request outcome, pool.thread thread = some ⟨request, .done outcome⟩ →
      outcome = .ok .success

/-- The thread's request is of the feature and has not written the settings. -/
def Pending (pool : SetterPool) (thread : ThreadId) (feature : Feature) : Prop :=
  ∃ request setter todo, pool.thread thread = some ⟨request, todo⟩ ∧
    requestSetter request = some setter ∧ setter.feature = feature ∧ ¬Recorded todo

def Undisturbed (pool : SetterPool) (thread : ThreadId) : Prop :=
  ∀ feature disturbed, pool.world.window thread = some (.opened feature disturbed) →
    disturbed = false

/-- A request that has read that the ring is set up finds it so at its first write, and a
request whose window was disturbed writes the settings only when another one of the
feature still will. -/
def InOrder (ec : EcDevice) (pool : SetterPool) : Event ThreadId IpcRequest Choice → Prop
  | .act thread _ => ∀ request setter operation rest,
      pool.thread thread = some ⟨request, .perform operation rest⟩ →
      requestSetter request = some setter →
      (∀ (α : Type) (body : EcBatch α), operation = .batch body →
        pool.world.window thread = some .relying → RingSetUp (pool.world.world.registers ec)) ∧
      (∀ settings, operation = .writeState settings → Undisturbed pool thread ∨
        ∃ other, other ≠ thread ∧ Pending pool other setter.feature)
  | _ => True

structure OrderInvariant (ec : EcDevice) (pool : SetterPool) : Prop where
  stages : pool.Each fun state thread activity =>
    ∃ setter, requestSetter activity.job = some setter ∧ Stage ec state thread setter activity.todo
  closed : ∀ thread, pool.thread thread = none → pool.world.window thread = none
  agrees : ∀ setter ∈ settingSetters pool.world.world.settings,
    (pool.world.world.registers ec).Holds setter.prescribes ∨
      ∃ thread, Pending pool thread setter.feature

/-- Writing the settings replaces the setter of the feature and keeps the others. -/
theorem settingSetters_record {request : IpcRequest} (sets : requestSetter request = some setter)
    (settings : CurrentSettings) :
    ∀ kept ∈ settingSetters (record setter settings),
      kept = setter ∨ (kept ∈ settingSetters settings ∧ kept.feature ≠ setter.feature) := by
  cases request with
  | setFanMode fan mode =>
      cases sets
      cases fan <;> simp [settingSetters, record, Setter.feature]
  | setPowerProfile | setKeyboardBacklight | setChargeLimit | setLedMode =>
      cases sets
      simp [settingSetters, record, Setter.feature]
  | _ => cases sets

theorem Pending.of_same {before after : SetterPool} {thread : ThreadId} {feature : Feature}
    (same : after.thread thread = before.thread thread) (pending : Pending before thread feature) :
    Pending after thread feature := by
  obtain ⟨request, setter, todo, running, rest⟩ := pending
  exact ⟨request, setter, todo, same.trans running, rest⟩

theorem OrderInvariant.free {pool : SetterPool} (held : OrderInvariant ec pool) :
    pool.Free fun state thread => state.window thread = none := held.closed

theorem OrderInvariant.start {pool : SetterPool} {request : IpcRequest}
    (held : OrderInvariant ec pool) (setterRequest : (requestSetter request).isSome)
    (free : pool.thread thread = none) :
    OrderInvariant ec (pool.put thread (some ⟨request, (doWork ec request).run⟩)) := by
  obtain ⟨setter, sets⟩ := Option.isSome_iff_exists.mp setterRequest
  refine ⟨?_, held.free.move (fun state thread => state.window thread = none)
    fun _ _ closed => closed, ?_⟩
  · exact held.stages.move ⟨setter, sets, .start sets (held.closed thread free)⟩
      (fun _ _ _ own => own)
  · intro kept member
    rcases held.agrees kept member with holds | ⟨other, pending⟩
    · exact .inl holds
    · have different : other ≠ thread := by
        rintro rfl
        obtain ⟨_, _, _, running, _⟩ := pending
        rw [free] at running
        cases running
      exact .inr ⟨other, pending.of_same (Pool.put_other _ _ different)⟩

theorem OrderInvariant.finish {pool : SetterPool} {request : IpcRequest}
    (held : OrderInvariant ec pool)
    (ended : pool.thread thread = some ⟨request, .done (.ok .success)⟩) :
    OrderInvariant ec (pool.put thread none) := by
  refine ⟨held.stages.finish, held.free.finish ?_, ?_⟩
  · obtain ⟨setter, _, stage⟩ := held.stages thread _ ended
    generalize equal : (Program.done (Except.ok IpcResponse.success) :
      Program daemonOps (Except Failure IpcResponse)) = todo at stage
    cases stage with
    | answered closed => exact closed
    | failed unsuccessful => cases equal; exact absurd rfl unsuccessful
    | applying => exact absurd equal.symm (serving_ne_success _)
    | _ => cases equal
  · intro kept member
    rcases held.agrees kept member with holds | ⟨other, pending⟩
    · exact .inl holds
    · have different : other ≠ thread := by
        rintro rfl
        obtain ⟨_, _, _, running, _, _, unrecorded⟩ := pending
        rw [ended] at running
        cases running
        exact unrecorded (.inr rfl)
      exact .inr ⟨other, pending.of_same (Pool.put_other _ _ different)⟩

/-- An undisturbed request finds what it prescribes when it writes the settings. -/
theorem Sound.holds {state : Tracked} (sound : Sound ec state thread setter [])
    (undisturbed : ∀ feature disturbed, state.window thread = some (.opened feature disturbed) →
      disturbed = false) : (state.world.registers ec).Holds setter.prescribes := by
  rw [Sound] at sound
  rcases found : state.window thread with _ | _ | ⟨feature, disturbed⟩
  · rw [found] at sound
    exact sound _
  · rw [found] at sound
    obtain ⟨⟨_, _, impossible⟩, _⟩ := sound
    cases impossible
  · rw [found] at sound
    exact sound.2 (undisturbed feature disturbed found)

/-- What an operation of a request means for a field of the settings: the field
and what it says stay as they were, the request is yet to write it, or it is
written now. -/
theorem SharedStep.agrees {request : IpcRequest} (sets : requestSetter request = some setter)
    (shared : SharedStep ec thread setter before after todo next) {kept : Setter}
    (member : kept ∈ settingSetters after.world.settings) :
    (kept ∈ settingSetters before.world.settings ∧
      ((before.world.registers ec).Holds kept.prescribes →
        (after.world.registers ec).Holds kept.prescribes) ∧
      (kept.feature = setter.feature → ¬Recorded next ∨ Recorded todo)) ∨
    (kept.feature = setter.feature ∧ ¬Recorded next) ∨
    (kept = setter ∧ (∃ settings rest, todo = .perform (.writeState settings) rest) ∧
      ((∀ feature disturbed, before.window thread = some (.opened feature disturbed) →
          disturbed = false) →
        (after.world.registers ec).Holds kept.prescribes)) := by
  cases shared with
  | aside registers settings _ _ unrecorded =>
      rw [settings] at member
      rw [registers]
      exact .inl ⟨member, id, fun _ => .inl unrecorded⟩
  | acquired _ world _ unrecorded =>
      rw [world] at member ⊢
      exact .inl ⟨member, id, fun _ => .inl unrecorded⟩
  | gaveBack _ world _ recorded =>
      rw [world] at member ⊢
      exact .inl ⟨member, id, fun _ => .inr recorded⟩
  | touched foreign settings _ _ unrecorded =>
      by_cases own : kept.feature = setter.feature
      · exact .inr (.inl ⟨own, unrecorded⟩)
      · rw [settings] at member
        refine .inl ⟨member, fun holds entry prescribed => ?_, fun same => absurd same own⟩
        rw [← holds entry prescribed]
        apply foreign
        rw [kept.prescribes_feature entry prescribed]
        exact fun same => own (Option.some.inj same)
  | wrote _ world _ sound writes =>
      rw [world] at member ⊢
      rcases settingSetters_record sets _ kept member with rfl | ⟨earlier, foreign⟩
      · exact .inr (.inr ⟨rfl, writes, fun undisturbed => sound.holds undisturbed⟩)
      · exact .inl ⟨earlier, id, fun own => absurd own foreign⟩

theorem OrderInvariant.act (separated : ec.Separated) {pool : SetterPool} {request : IpcRequest}
    {operation : DaemonOp}
    {rest : daemonOps.Reply operation → Program daemonOps (Except Failure IpcResponse)}
    {choice : Choice} (held : OrderInvariant ec pool)
    (running : pool.thread thread =
      some ⟨request, Program.perform (I := daemonOps) operation rest⟩)
    (succeeds : AllSucceed pool (.act thread choice))
    (inOrder : InOrder ec pool (.act thread choice)) :
    let answered := trackedSemantics codec thread request operation choice pool.world
    OrderInvariant ec
      { pool.put thread (some ⟨request, rest answered.1⟩) with world := answered.2 } := by
  intro answered
  obtain ⟨setter, sets, stage⟩ := held.stages thread _ running
  obtain ⟨coherent, order⟩ := inOrder request setter operation rest running sets
  obtain ⟨moved, shared⟩ := stage.act separated sets choice
    (succeeds request operation rest running) coherent
  have others : ∀ {other feature}, other ≠ thread → Pending pool other feature →
      ∃ other, Pending { pool.put thread (some ⟨request, rest answered.1⟩) with
        world := answered.2 } other feature :=
    fun different pending => ⟨_, pending.of_same (Pool.put_other pool _ different)⟩
  have itself : ¬Recorded (rest answered.1) →
      ∃ other, Pending { pool.put thread (some ⟨request, rest answered.1⟩) with
        world := answered.2 } other setter.feature :=
    fun unrecorded => ⟨thread, request, setter, _, Pool.put_same pool thread _, sets, rfl, unrecorded⟩
  refine ⟨?_, ?_, ?_⟩
  · refine held.stages.move ⟨setter, sets, moved⟩ ?_
    intro other activity different own
    obtain ⟨otherSetter, otherSets, otherStage⟩ := own
    exact ⟨otherSetter, otherSets, shared.bear different otherStage⟩
  · exact held.free.move (fun state thread => state.window thread = none)
      fun other different closed => shared.closed different closed
  · intro kept member
    rcases shared.agrees sets member with ⟨earlier, keeps, progress⟩ | ⟨own, unrecorded⟩ | wrote
    · rcases held.agrees kept earlier with holds | ⟨other, pending⟩
      · exact .inl (keeps holds)
      · right
        by_cases same : other = thread
        · subst same
          obtain ⟨_, otherSetter, _, found, chosen, own, unrecorded⟩ := pending
          rw [running] at found
          cases found
          rw [sets] at chosen
          cases chosen
          rw [← own]
          exact itself ((progress own.symm).resolve_right unrecorded)
        · exact others same pending
    · rw [own]
      exact .inr (itself unrecorded)
    · obtain ⟨rfl, ⟨settings, _, equal⟩, holds⟩ := wrote
      rcases order settings (Program.perform.inj equal).1 with undisturbed | ⟨other, pending⟩
      · exact .inl (holds undisturbed)
      · exact .inr (others pending.1 pending.2)

end Lecoo.Daemon
