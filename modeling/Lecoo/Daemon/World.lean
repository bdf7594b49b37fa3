import Lecoo.Effects.Pool
import Lecoo.Ipc.Bincode
import Lecoo.Daemon.Handlers

namespace Lecoo.Daemon

open Lecoo.Effects Lecoo.Ipc Lecoo.Ec

/-! # The state the threads share, and what each operation does to it -/

abbrev ThreadId := Nat

/-- The encoding of the settings file: complete input is read back, a strict
prefix of an encoding is rejected. -/
structure SettingsCodec where
  encode : CurrentSettings → List UInt8
  decode : List UInt8 → Option CurrentSettings
  decode_encode : ∀ settings, decode (encode settings) = some settings
  decode_strictPrefix : ∀ settings bytes,
    bytes <+: encode settings → bytes ≠ encode settings → decode bytes = none

/-- Whatever follows a complete encoding in the file is not read. -/
def SettingsCodec.bincode : SettingsCodec where
  encode := Bincode.settings.encode
  decode bytes := (Bincode.settings.decode bytes).map Prod.fst
  decode_encode settings := by rw [Bincode.settings.decode_encode_nil, Option.map_some]
  decode_strictPrefix _ _ brokenOff incomplete := by
    rw [Bincode.settings.decode_strictPrefix brokenOff incomplete, Option.map_none]

structure World where
  ec : EcMemory
  /-- `IS_LED_ALREADY_CUSTOM`. -/
  ledCustom : Bool
  settings : CurrentSettings
  /-- The thread holding the guard of `STATE`. -/
  stateLock : Option ThreadId
  stateFile : Option (List UInt8)
  telemetryEnabled : Bool
  telemetryId : UInt64
  /-- Whether `TELEMETRY_TX` is set. -/
  channelOpen : Bool
  telemetryQueue : List TelemetryData
  workerStarted : Bool
  ecPublished : Bool
  statePublished : Bool

namespace World

def lockedBy (world : World) (stateLock : Option ThreadId) : World := { world with stateLock }

def withSettings (world : World) (settings : CurrentSettings) : World := { world with settings }

def withFile (world : World) (stateFile : Option (List UInt8)) : World := { world with stateFile }

end World

/-- A process that has just started: its statics have their initial values. -/
def World.fresh (ec : EcMemory) (stateFile : Option (List UInt8)) : World where
  ec
  ledCustom := false
  settings := CurrentSettings.default 0
  stateLock := none
  stateFile
  telemetryEnabled := true
  telemetryId := 0
  channelOpen := false
  telemetryQueue := []
  workerStarted := false
  ecPublished := false
  statePublished := false

/-- What the environment decides about one operation: which register accesses
of a batch fail, whether a system call fails, how many of the bytes handed to
a failing write get through, and the hash of the clock. -/
structure Choice where
  accesses : List (Option String) := []
  failure : Option String := none
  written : Nat := 0
  clock : UInt64 := 0
deriving Inhabited

/-- Outcome of a system call that fails when the environment says so. -/
def Choice.outcome {α : Type} (choice : Choice) (value : α) : Except Failure α :=
  match choice.failure with
  | none => .ok value
  | some message => .error (.error message)

/-- The bytes of a write that get through. -/
def Choice.passed (choice : Choice) (bytes : List UInt8) : List UInt8 :=
  match choice.failure with
  | none => bytes
  | some _ => bytes.take choice.written

def World.append (world : World) (bytes : List UInt8) : World :=
  world.withFile (world.stateFile.map (· ++ bytes))

def daemonSemantics (codec : SettingsCodec) (thread : ThreadId) :
    Semantics daemonOps Choice World
  | .batch body, choice, world =>
      let ran := Program.run accessSemantics body.run choice.accesses world.ec
      (ran.1, { world with ec := ran.2 })
  | .loadLedCustom, _, world => (world.ledCustom, world)
  | .storeLedCustom value, _, world => ((), { world with ledCustom := value })
  | .tryLockState, _, world =>
      match world.stateLock with
      | none => (true, world.lockedBy (some thread))
      | some _ => (false, world)
  | .unlockState, _, world => ((), world.lockedBy none)
  | .readState, _, world => (world.settings, world)
  | .writeState settings, _, world => ((), world.withSettings settings)
  | .systemTimeHash, choice, world => (choice.clock, world)
  | .createStateDir, choice, world => (choice.outcome (), world)
  | .createStateFile, choice, world =>
      match choice.failure with
      | none => (.ok (), world.withFile (some []))
      | some message => (.error (.error message), world)
  | .encodeSettings settings, choice, world =>
      ((choice.passed (codec.encode settings), choice.outcome ()), world)
  | .dropWriter buffered, choice, world => ((), world.append (choice.passed buffered))
  | .stateFileExists, choice, world => (choice.outcome world.stateFile.isSome, world)
  | .openStateFile, choice, world => (choice.outcome (), world)
  | .decodeStateFile, choice, world =>
      match choice.failure, world.stateFile.bind codec.decode with
      | none, some settings => (.ok settings, world)
      | none, none => (.error (.error "unexpected end"), world)
      | some message, _ => (.error (.error message), world)
  | .loadTelemetryEnabled, _, world => (world.telemetryEnabled, world)
  | .storeTelemetryEnabled value, _, world => ((), { world with telemetryEnabled := value })
  | .loadTelemetryId, _, world => (world.telemetryId, world)
  | .storeTelemetryId value, _, world => ((), { world with telemetryId := value })
  | .openTelemetryChannel, _, world => ((), { world with channelOpen := true })
  | .queueTelemetry data, _, world =>
      ((), if world.channelOpen then
        { world with telemetryQueue := world.telemetryQueue ++ [data] } else world)
  | .receiveTelemetry, _, world =>
      match world.telemetryQueue with
      | [] => (none, world)
      | data :: rest => (some data, { world with telemetryQueue := rest })
  | .postTelemetry _, choice, world => (choice.outcome (), world)
  | .startTelemetryWorker, _, world => ((), { world with workerStarted := true })
  | .ecPublished, _, world => (world.ecPublished, world)
  | .publishEc, _, world => ((), { world with ecPublished := true })
  | .publishState settings, _, world =>
      ((), { world with settings, statePublished := true })

theorem tryLockState_free {codec : SettingsCodec} {thread : ThreadId} {world : World}
    (free : world.stateLock = none) (choice : Choice) :
    daemonSemantics codec thread .tryLockState choice world =
      (true, world.lockedBy (some thread)) := by
  simp only [daemonSemantics, free]

theorem tryLockState_held {codec : SettingsCodec} {thread holder : ThreadId} {world : World}
    (held : world.stateLock = some holder) (choice : Choice) :
    daemonSemantics codec thread .tryLockState choice world = (false, world) := by
  simp only [daemonSemantics, held]

theorem daemonSemantics_succeeds {codec : SettingsCodec} {thread : ThreadId} {world : World}
    {α : Type} {choice : Choice} (succeeds : ∀ access ∈ choice.accesses, access = none)
    (body : EcBatch α) :
    daemonSemantics codec thread (.batch body) choice world =
      daemonSemantics codec thread (.batch body) {} world := by
  have same : Program.run accessSemantics body.run choice.accesses world.ec =
      Program.run accessSemantics body.run [] world.ec :=
    Program.run_default body.run succeeds world.ec
  simp only [daemonSemantics]
  rw [same]

/-- A computation of one thread with no other thread coming between. -/
abbrev Alone {α : Type} (codec : SettingsCodec) (thread : ThreadId) (computation : Io α)
    (before : World) (result : Except Failure α) (after : World) : Prop :=
  Fallible.Runs (daemonSemantics codec thread) computation before result after

/-- The choice for the operation at the given position. -/
def choiceAt (choices : List Choice) (position : Nat) : Choice := choices.getD position default

@[simp] theorem headD_choiceAt (choices : List Choice) : choices.headD default = choiceAt choices 0 := by
  cases choices <;> rfl

@[simp] theorem tail_choiceAt (choices : List Choice) (position : Nat) :
    choiceAt choices.tail position = choiceAt choices (position + 1) := by
  cases choices <;> rfl

/-- One thread running alone under the given choices. -/
def runAlone {α : Type} (codec : SettingsCodec) (thread : ThreadId) (computation : Io α)
    (choices : List Choice) (before : World) : Except Failure α × World :=
  Program.run (daemonSemantics codec thread) computation.run choices before

theorem runAlone_alone {α : Type} (codec : SettingsCodec) (thread : ThreadId)
    (computation : Io α) (choices : List Choice) (before : World) :
    Alone codec thread computation before (runAlone codec thread computation choices before).1
      (runAlone codec thread computation choices before).2 :=
  Program.run_runs _ choices before

end Lecoo.Daemon
