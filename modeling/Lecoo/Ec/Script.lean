import Lecoo.Daemon.World

namespace Lecoo.Ec

open Lecoo.Effects Lecoo.Ipc Lecoo.Daemon Lecoo.Data

/-! # Straight-line sequences of register writes

Once its cached flag and its inputs are known, every hardware function is a
straight line of EC batches and flag stores.  A script names the registers, the
device places them; running a script either plays all of its actions or stops
before a write that failed.
-/

inductive Action where
  | write (register : Register) (value : UInt8)
  | storeLed (value : Bool)
deriving Repr, DecidableEq

/-- One operation of a script: a batch of writes, or a store to the flag. -/
inductive Step where
  | batch (writes : List (Register × UInt8))
  | storeLed (value : Bool)
deriving Repr, DecidableEq

def writeActions (writes : List (Register × UInt8)) : List Action :=
  writes.map fun entry => .write entry.1 entry.2

@[simp] theorem length_writeActions (writes : List (Register × UInt8)) :
    (writeActions writes).length = writes.length := by
  simp [writeActions]

theorem take_writeActions (writes : List (Register × UInt8)) (count : Nat) :
    writeActions (writes.take count) = (writeActions writes).take count := by
  simp only [writeActions, List.map_take]

def Step.actions : Step → List Action
  | .batch writes => writeActions writes
  | .storeLed value => [.storeLed value]

def actionsOf (steps : List Step) : List Action := steps.flatMap Step.actions

@[simp] theorem actionsOf_nil : actionsOf [] = [] := rfl

@[simp] theorem actionsOf_batch (writes : List (Register × UInt8)) (rest : List Step) :
    actionsOf (.batch writes :: rest) = writeActions writes ++ actionsOf rest := rfl

@[simp] theorem actionsOf_storeLed (value : Bool) (rest : List Step) :
    actionsOf (.storeLed value :: rest) = .storeLed value :: actionsOf rest := rfl

theorem actionsOf_append (first second : List Step) :
    actionsOf (first ++ second) = actionsOf first ++ actionsOf second :=
  List.flatMap_append

/-- Where the device places the writes of a batch. -/
def EcDevice.place (ec : EcDevice) (writes : List (Register × UInt8)) : List (UInt16 × UInt8) :=
  writes.map fun entry => (ec.address entry.1, entry.2)

def script (ec : EcDevice) : List Step → Io Unit
  | [] => pure ()
  | .batch writes :: rest => do
      withBatch (EcBatch.writes (ec.place writes))
      script ec rest
  | .storeLed value :: rest => do
      Io.storeLedCustom value
      script ec rest

end Lecoo.Ec

namespace Lecoo.Daemon.World

open Lecoo.Ec Lecoo.Data

def act (ec : EcDevice) (world : World) : Action → World
  | .write register value => { world with ec := world.ec.write (ec.address register) value }
  | .storeLed value => { world with ledCustom := value }

def play (ec : EcDevice) (world : World) (actions : List Action) : World :=
  actions.foldl (act ec) world

variable {ec : EcDevice} {world : World}

@[simp] theorem play_nil : world.play ec [] = world := rfl

@[simp] theorem play_cons (action : Action) (rest : List Action) :
    world.play ec (action :: rest) = (world.act ec action).play ec rest := rfl

theorem play_append (first second : List Action) :
    world.play ec (first ++ second) = (world.play ec first).play ec second :=
  List.foldl_append

theorem play_writes (writes : List (Register × UInt8)) :
    world.play ec (writeActions writes) =
      { world with ec := world.ec.writeAll (ec.place writes) } := by
  induction writes generalizing world with
  | nil => rfl
  | cons entry writes ih =>
      exact ih

/-- Everything but the EC memory and the LED flag. -/
structure SameElsewhere (before after : World) : Prop where
  settings : after.settings = before.settings
  stateLock : after.stateLock = before.stateLock
  stateFile : after.stateFile = before.stateFile
  telemetryEnabled : after.telemetryEnabled = before.telemetryEnabled
  telemetryId : after.telemetryId = before.telemetryId
  channelOpen : after.channelOpen = before.channelOpen
  telemetryQueue : after.telemetryQueue = before.telemetryQueue
  workerStarted : after.workerStarted = before.workerStarted
  ecPublished : after.ecPublished = before.ecPublished
  statePublished : after.statePublished = before.statePublished

theorem SameElsewhere.refl (world : World) : world.SameElsewhere world :=
  ⟨rfl, rfl, rfl, rfl, rfl, rfl, rfl, rfl, rfl, rfl⟩

theorem SameElsewhere.trans {first second third : World}
    (left : first.SameElsewhere second) (right : second.SameElsewhere third) :
    first.SameElsewhere third :=
  ⟨right.settings.trans left.settings, right.stateLock.trans left.stateLock,
    right.stateFile.trans left.stateFile, right.telemetryEnabled.trans left.telemetryEnabled,
    right.telemetryId.trans left.telemetryId, right.channelOpen.trans left.channelOpen,
    right.telemetryQueue.trans left.telemetryQueue,
    right.workerStarted.trans left.workerStarted, right.ecPublished.trans left.ecPublished,
    right.statePublished.trans left.statePublished⟩

theorem play_sameElsewhere (actions : List Action) :
    world.SameElsewhere (world.play ec actions) := by
  induction actions generalizing world with
  | nil => exact .refl world
  | cons action rest ih =>
      have first : world.SameElsewhere (world.act ec action) := by
        cases action <;> exact ⟨rfl, rfl, rfl, rfl, rfl, rfl, rfl, rfl, rfl, rfl⟩
      exact first.trans ih

end Lecoo.Daemon.World

namespace Lecoo.Ec

open Lecoo.Effects Lecoo.Ipc Lecoo.Daemon Lecoo.Data

variable {codec : SettingsCodec} {thread : ThreadId} {ec : EcDevice} {before after : World}

theorem alone_withBatch {α : Type} {body : EcBatch α} {result : Except Failure α} :
    Alone codec thread (withBatch body) before result after ↔
      ∃ memory, Fallible.Runs accessSemantics body before.ec result memory ∧
        after = { before with ec := memory } := by
  constructor
  · rintro ⟨choice, rfl, rfl⟩
    exact ⟨_, Program.run_runs _ choice.accesses before.ec, rfl⟩
  · rintro ⟨memory, ran, rfl⟩
    obtain ⟨choices, computed⟩ := Program.runs_iff_run.mp ran
    refine ⟨{ accesses := choices }, ?_⟩
    simp only [daemonSemantics, computed]
    exact ⟨rfl, rfl⟩

theorem alone_writes {writes : List (Register × UInt8)} {result : Except Failure Unit} :
    Alone codec thread (withBatch (EcBatch.writes (ec.place writes))) before result after ↔
      (result = .ok () ∧
        after = before.play ec (writeActions writes)) ∨
      (∃ made < writes.length, ∃ message, result = .error (.error message) ∧
        after = before.play ec (writeActions (writes.take made))) := by
  simp only [alone_withBatch, EcBatch.runs_writes, World.play_writes]
  constructor
  · rintro ⟨memory, ⟨rfl, rfl⟩ | ⟨made, bound, message, rfl, rfl⟩, rfl⟩
    · exact .inl ⟨rfl, rfl⟩
    · refine .inr ⟨made, by simpa [EcDevice.place] using bound, message, rfl, ?_⟩
      simp only [EcDevice.place, List.map_take]
  · rintro (⟨rfl, rfl⟩ | ⟨made, bound, message, rfl, rfl⟩)
    · exact ⟨_, .inl ⟨rfl, rfl⟩, rfl⟩
    · refine ⟨_, .inr ⟨made, by simpa [EcDevice.place] using bound, message, rfl, rfl⟩, ?_⟩
      simp only [EcDevice.place, List.map_take]

theorem alone_storeLedCustom (ec : EcDevice) {value : Bool} {result : Except Failure Unit} :
    Alone codec thread (Io.storeLedCustom value) before result after ↔
      result = .ok () ∧ after = before.act ec (.storeLed value) := by
  constructor
  · rintro ⟨choice, rfl, rfl⟩
    exact ⟨rfl, rfl⟩
  · rintro ⟨rfl, rfl⟩
    exact ⟨default, rfl, rfl⟩

theorem alone_loadLedCustom {result : Except Failure Bool} :
    Alone codec thread Io.loadLedCustom before result after ↔
      result = .ok before.ledCustom ∧ after = before := by
  constructor
  · rintro ⟨choice, rfl, rfl⟩
    exact ⟨rfl, rfl⟩
  · rintro ⟨rfl, rfl⟩
    exact ⟨default, rfl, rfl⟩

/-- A script plays all of its actions, or fails after a proper prefix of them. -/
theorem alone_script {steps : List Step} {result : Except Failure Unit}
    (ran : Alone codec thread (script ec steps) before result after) :
    (result = .ok () ∧ after = before.play ec (actionsOf steps)) ∨
    (∃ made < (actionsOf steps).length, ∃ message, result = .error (.error message) ∧
      after = before.play ec ((actionsOf steps).take made)) := by
  induction steps generalizing before with
  | nil =>
      obtain ⟨rfl, rfl⟩ := ran
      exact .inl ⟨rfl, rfl⟩
  | cons step rest ih =>
      cases step with
      | batch writes =>
          have length : (actionsOf (.batch writes :: rest)).length =
              writes.length + (actionsOf rest).length := by simp
          rcases Fallible.runs_bind.mp ran with ⟨failure, rfl, first⟩ | ⟨_, middle, first, second⟩
          · rcases alone_writes.mp first with ⟨impossible, _⟩ | ⟨made, bound, message, same, rfl⟩
            · cases impossible
            · cases same
              refine .inr ⟨made, by omega, message, rfl, ?_⟩
              rw [actionsOf_batch, List.take_append_of_le_length (by simpa using Nat.le_of_lt bound),
                take_writeActions]
          · rcases alone_writes.mp first with ⟨_, rfl⟩ | ⟨_, _, _, impossible, _⟩
            · rcases ih second with ⟨rfl, rfl⟩ | ⟨made, bound, message, rfl, rfl⟩
              · exact .inl ⟨rfl, by rw [actionsOf_batch, World.play_append]⟩
              · refine .inr ⟨writes.length + made, by omega, message, rfl, ?_⟩
                rw [actionsOf_batch, ← length_writeActions, List.take_length_add_append,
                  World.play_append]
            · cases impossible
      | storeLed value =>
          have later := (Fallible.runs_bind_sure (alone_storeLedCustom ec)).mp ran
          rcases ih later with ⟨rfl, rfl⟩ | ⟨made, bound, message, rfl, rfl⟩
          · exact .inl ⟨rfl, rfl⟩
          · exact .inr ⟨made + 1, by simpa using bound, message, rfl, rfl⟩

theorem alone_script_ok (steps : List Step) :
    Alone codec thread (script ec steps) before (.ok ()) (before.play ec (actionsOf steps)) := by
  induction steps generalizing before with
  | nil => exact ⟨rfl, rfl⟩
  | cons step rest ih =>
      cases step with
      | batch writes =>
          rw [actionsOf_batch, World.play_append]
          exact Fallible.runs_bind_ok.mpr ⟨(), _, alone_writes.mpr (.inl ⟨rfl, rfl⟩), ih⟩
      | storeLed value =>
          exact Fallible.runs_bind_ok.mpr
            ⟨(), _, (alone_storeLedCustom ec).mpr ⟨rfl, rfl⟩, ih⟩

/-- The environment makes an access of the batch fail. -/
def Fails (choice : Choice) (world : World) : DaemonOp → Prop
  | .batch body =>
      (Program.run accessSemantics body.run choice.accesses world.ec).1.isOk = false
  | _ => False

instance (choice : Choice) (world : World) (operation : DaemonOp) :
    Decidable (Fails choice world operation) := by
  unfold Fails
  split <;> infer_instance

/-- An operation of a script is made as a whole and leaves the rest of the
script to do, or is a batch that fails after a proper prefix of its writes and
ends the script. -/
theorem script_act (codec : SettingsCodec) (thread : ThreadId) {steps : List Step} {operation : DaemonOp}
    {rest : daemonOps.Reply operation → Program daemonOps (Except Failure Unit)}
    (following : Program.perform operation rest = (script ec steps).run) (choice : Choice)
    (world : World) :
    ∃ step more, steps = step :: more ∧
      ((rest (daemonSemantics codec thread operation choice world).1 = (script ec more).run ∧
        (daemonSemantics codec thread operation choice world).2 = world.play ec step.actions) ∨
      (∃ writes made failure, step = .batch writes ∧ made < writes.length ∧
        rest (daemonSemantics codec thread operation choice world).1 = .done (.error failure) ∧
        (daemonSemantics codec thread operation choice world).2 =
          world.play ec (writeActions (writes.take made)) ∧
        Fails choice world operation)) := by
  cases steps with
  | nil => cases following
  | cons step more =>
      refine ⟨step, more, rfl, ?_⟩
      cases step with
      | storeLed value =>
          cases following
          exact .inl ⟨rfl, rfl⟩
      | batch writes =>
          cases following
          have ran : Alone codec thread (withBatch (EcBatch.writes (ec.place writes))) world
              (daemonSemantics codec thread (.batch (EcBatch.writes (ec.place writes)))
                choice world).1
              (daemonSemantics codec thread (.batch (EcBatch.writes (ec.place writes)))
                choice world).2 := ⟨choice, rfl, rfl⟩
          rcases alone_writes.mp ran with ⟨replied, played⟩ | ⟨made, bound, message, replied, played⟩
          · exact .inl ⟨by rw [replied]; rfl, played⟩
          · have fails : Fails choice world (.batch (EcBatch.writes (ec.place writes))) :=
              congrArg Except.isOk replied
            exact .inr ⟨writes, made, .error message, rfl, bound, by rw [replied]; rfl, played,
              fails⟩

end Lecoo.Ec
