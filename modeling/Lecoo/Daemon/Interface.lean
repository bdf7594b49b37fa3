import Lecoo.Ec.Batch

namespace Lecoo.Daemon

open Lecoo.Effects Lecoo.Ec Lecoo.Ipc

/-! # What a thread of the daemon can do

One operation is one step that other threads can come between: an EC batch, an
access to one of the process-wide atomics, taking or releasing the state lock,
one file system call, one channel operation.
-/

inductive DaemonOp : Type 1 where
  /-- `EcDevice::with_batch`: the closure runs under the I/O lock. -/
  | batch {α : Type} (body : EcBatch α)
  | loadLedCustom
  | storeLedCustom (value : Bool)
  /-- `STATE.try_lock()`: replies whether the guard was obtained. -/
  | tryLockState
  | unlockState
  | readState
  | writeState (settings : CurrentSettings)
  /-- `SystemTime::now()` hashed by the default hasher. -/
  | systemTimeHash
  | createStateDir
  /-- `File::create(STATE_PATH)`: truncates the file. -/
  | createStateFile
  /-- Encoding into the buffered writer: the bytes now in the buffer, and the outcome. -/
  | encodeSettings (settings : CurrentSettings)
  /-- The buffered writer is dropped; an error while flushing is discarded. -/
  | dropWriter (buffered : List UInt8)
  | stateFileExists
  | openStateFile
  | decodeStateFile
  | loadTelemetryEnabled
  | storeTelemetryEnabled (value : Bool)
  | loadTelemetryId
  | storeTelemetryId (value : UInt64)
  /-- `TELEMETRY_TX.set(..)`. -/
  | openTelemetryChannel
  /-- Sending into the channel; the message is dropped while there is none. -/
  | queueTelemetry (data : TelemetryData)
  /-- `recv_timeout`: the next queued message, or nothing when the interval elapsed. -/
  | receiveTelemetry
  | postTelemetry (payload : TelemetryPayload)
  | startTelemetryWorker
  /-- Whether `EC.get()` finds the device. -/
  | ecPublished
  | publishEc
  /-- `STATE.set(..)` at the end of the start-up. -/
  | publishState (settings : CurrentSettings)

@[reducible] def daemonOps : Interface.{1} where
  Operation := DaemonOp
  Reply
    | .batch (α := α) _ => Except Failure α
    | .loadLedCustom => Bool
    | .storeLedCustom _ => Unit
    | .tryLockState => Bool
    | .unlockState => Unit
    | .readState => CurrentSettings
    | .writeState _ => Unit
    | .systemTimeHash => UInt64
    | .createStateDir => Except Failure Unit
    | .createStateFile => Except Failure Unit
    | .encodeSettings _ => List UInt8 × Except Failure Unit
    | .dropWriter _ => Unit
    | .stateFileExists => Except Failure Bool
    | .openStateFile => Except Failure Unit
    | .decodeStateFile => Except Failure CurrentSettings
    | .loadTelemetryEnabled => Bool
    | .storeTelemetryEnabled _ => Unit
    | .loadTelemetryId => UInt64
    | .storeTelemetryId _ => Unit
    | .openTelemetryChannel => Unit
    | .queueTelemetry _ => Unit
    | .receiveTelemetry => Option TelemetryData
    | .postTelemetry _ => Except Failure Unit
    | .startTelemetryWorker => Unit
    | .ecPublished => Bool
    | .publishEc => Unit
    | .publishState _ => Unit

/-- A program of the daemon. -/
abbrev Task (α : Type) := Program daemonOps α

/-- A computation of the daemon that returns a `Result`. -/
abbrev Io (α : Type) := Fallible daemonOps Failure α

namespace Io

def perform (operation : DaemonOp) : Task (daemonOps.Reply operation) :=
  Program.request (I := daemonOps) operation

/-- `bail!` and `anyhow!`. -/
def bail {α : Type} (message : String) : Io α := throw (.error message)

def ofExcept {α : Type} (outcome : Except Failure α) : Io α := Fallible.attempt (pure outcome)

/-- `.context(..)`: the given text is what the error displays. -/
def context {α : Type} (computation : Io α) (message : String) : Io α :=
  Fallible.attempt do
    match ← computation.run with
    | .error (.error _) => pure (.error (.error message))
    | outcome => pure outcome

/-- Go on after an error, without a value; a panic still unwinds. -/
def ok? {α : Type} (computation : Io α) : Io (Option α) :=
  Fallible.attempt do
    match ← computation.run with
    | .ok value => pure (.ok (some value))
    | .error (.error _) => pure (.ok none)
    | .error (.panic message) => pure (.error (.panic message))

def loadLedCustom : Io Bool := Fallible.always (perform .loadLedCustom)

def storeLedCustom (value : Bool) : Io Unit := Fallible.always (perform (.storeLedCustom value))

def readState : Io CurrentSettings := Fallible.always (perform .readState)

def writeState (settings : CurrentSettings) : Io Unit :=
  Fallible.always (perform (.writeState settings))

def modifyState (change : CurrentSettings → CurrentSettings) : Io Unit := do
  writeState (change (← readState))

def systemTimeHash : Io UInt64 := Fallible.always (perform .systemTimeHash)

def createStateDir : Io Unit := Fallible.attempt (perform .createStateDir)

def createStateFile : Io Unit := Fallible.attempt (perform .createStateFile)

def encodeSettings (settings : CurrentSettings) : Io (List UInt8 × Except Failure Unit) :=
  Fallible.always (perform (.encodeSettings settings))

def dropWriter (buffered : List UInt8) : Io Unit := Fallible.always (perform (.dropWriter buffered))

def stateFileExists : Io Bool := Fallible.attempt (perform .stateFileExists)

def openStateFile : Io Unit := Fallible.attempt (perform .openStateFile)

def decodeStateFile : Io CurrentSettings := Fallible.attempt (perform .decodeStateFile)

def publishEc : Io Unit := Fallible.always (perform .publishEc)

def publishState (settings : CurrentSettings) : Io Unit :=
  Fallible.always (perform (.publishState settings))

/-- What `ok?` makes of an outcome. -/
def discard {α : Type} : Except Failure α → Except Failure (Option α)
  | .ok value => .ok (some value)
  | .error (.error _) => .ok none
  | .error (.panic message) => .error (.panic message)

/-- What `context` makes of an outcome. -/
def rephrase {α : Type} (message : String) : Except Failure α → Except Failure α
  | .error (.error _) => .error (.error message)
  | outcome => outcome

section Runs

variable {α κ σ : Type} {semantics : Semantics daemonOps κ σ} {computation : Io α}
  {before after : σ}

theorem runs_ok? {result : Except Failure (Option α)} :
    Fallible.Runs semantics (ok? computation) before result after ↔
      ∃ outcome, Fallible.Runs semantics computation before outcome after ∧
        result = discard outcome := by
  rw [ok?, Fallible.runs_attempt, Program.runs_bind]
  refine exists_congr fun outcome => ⟨?_, ?_⟩
  · rintro ⟨middle, ran, ended⟩
    rcases outcome with (_ | _) | _ <;> exact ⟨ended.2 ▸ ran, ended.1⟩
  · rintro ⟨ran, ended⟩
    refine ⟨after, ran, ?_⟩
    rcases outcome with (_ | _) | _ <;> exact ⟨ended, rfl⟩

theorem runs_context {message : String} {result : Except Failure α} :
    Fallible.Runs semantics (computation.context message) before result after ↔
      ∃ outcome, Fallible.Runs semantics computation before outcome after ∧
        result = rephrase message outcome := by
  rw [context, Fallible.runs_attempt, Program.runs_bind]
  refine exists_congr fun outcome => ⟨?_, ?_⟩
  · rintro ⟨middle, ran, ended⟩
    rcases outcome with (_ | _) | _ <;> exact ⟨ended.2 ▸ ran, ended.1⟩
  · rintro ⟨ran, ended⟩
    refine ⟨after, ran, ?_⟩
    rcases outcome with (_ | _) | _ <;> exact ⟨ended, rfl⟩

end Runs

variable {α : Type} {permitted : DaemonOp → Prop} {computation : Io α}

theorem uses_perform {operation : DaemonOp} (allowed : permitted operation) :
    Program.Uses (I := daemonOps) permitted (perform operation) := ⟨allowed, fun _ => trivial⟩

theorem uses_ok? (uses : Fallible.Uses permitted computation) :
    Fallible.Uses permitted (ok? computation) := by
  refine Program.Uses.bind uses fun outcome => ?_
  rcases outcome with (_ | _) | _ <;> trivial

theorem uses_context (uses : Fallible.Uses permitted computation) (message : String) :
    Fallible.Uses permitted (computation.context message) := by
  refine Program.Uses.bind uses fun outcome => ?_
  rcases outcome with (_ | _) | _ <;> trivial

end Io

def withBatch {α : Type} (body : EcBatch α) : Io α :=
  Fallible.attempt (Io.perform (.batch body))

end Lecoo.Daemon

namespace Lecoo.Ec.EcDevice

open Lecoo.Daemon

def readReg (_ec : EcDevice) (addr : UInt16) : Io UInt8 := withBatch (EcBatch.readReg addr)

def writeReg (_ec : EcDevice) (addr : UInt16) (value : UInt8) : Io Unit :=
  withBatch (EcBatch.writeReg addr value)

def readRam (ec : EcDevice) (offset : UInt16) : Io UInt8 := withBatch (EcBatch.readRam ec offset)

def writeRam (ec : EcDevice) (offset : UInt16) (value : UInt8) : Io Unit :=
  withBatch (EcBatch.writeRam ec offset value)

end Lecoo.Ec.EcDevice
