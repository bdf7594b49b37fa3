import Lecoo.Effects.Program
import Lecoo.Ec.Offsets

namespace Lecoo.Ec

open Lecoo.Effects Lecoo.Data

/-! # Register accesses under the I/O lock

The closure given to `with_batch` is a program over single register accesses,
each of which may fail and then leaves the memory as it was.
-/

/-- How a computation of the daemon ends early: an error value handed to the
caller, or a panic that unwinds the thread. -/
inductive Failure where
  | error (message : String)
  | panic (message : String)
deriving Repr, DecidableEq

inductive Access where
  | read (addr : UInt16)
  | write (addr : UInt16) (value : UInt8)
deriving Repr, DecidableEq

@[reducible] def registers : Interface where
  Operation := Access
  Reply
    | .read _ => Except Failure UInt8
    | .write _ _ => Except Failure Unit

def Access.IsRead : Access → Prop
  | .read _ => True
  | .write _ _ => False

abbrev EcMemory := Memory UInt16 UInt8

/-- The choice is the error text of an access that fails. -/
def accessSemantics : Semantics registers (Option String) EcMemory
  | .read addr, none, memory => (.ok (memory addr), memory)
  | .read _, some message, memory => (.error (.error message), memory)
  | .write addr value, none, memory => (.ok (), memory.write addr value)
  | .write _ _, some message, memory => (.error (.error message), memory)

theorem accessSemantics_read {access : Access} (isRead : access.IsRead) (choice : Option String)
    (memory : EcMemory) : (accessSemantics access choice memory).2 = memory := by
  cases access with
  | read addr => cases choice <;> rfl
  | write addr value => cases isRead

abbrev EcBatch (α : Type) := Fallible registers Failure α

namespace EcBatch

def readReg (addr : UInt16) : EcBatch UInt8 :=
  Fallible.attempt (Program.request (I := registers) (.read addr))

def writeReg (addr : UInt16) (value : UInt8) : EcBatch Unit :=
  Fallible.attempt (Program.request (I := registers) (.write addr value))

def readRam (ec : EcDevice) (offset : UInt16) : EcBatch UInt8 :=
  readReg (ec.hramOffset + offset)

def writeRam (ec : EcDevice) (offset : UInt16) (value : UInt8) : EcBatch Unit :=
  writeReg (ec.hramOffset + offset) value

/-- The batch that makes the given writes in order. -/
def writes : List (UInt16 × UInt8) → EcBatch Unit
  | [] => pure ()
  | (addr, value) :: rest => do
      writeReg addr value
      writes rest

theorem writes_single (addr : UInt16) (value : UInt8) :
    writes [(addr, value)] = writeReg addr value :=
  bind_pure (writeReg addr value)

theorem writes_cons (addr : UInt16) (value : UInt8) (rest : List (UInt16 × UInt8)) :
    writes ((addr, value) :: rest) = writeReg addr value >>= fun _ => writes rest := rfl

theorem writes_uses {permitted : Access → Prop} {list : List (UInt16 × UInt8)}
    (each : ∀ entry ∈ list, permitted (.write entry.1 entry.2)) :
    Fallible.Uses permitted (writes list) := by
  induction list with
  | nil => exact Fallible.uses_pure _
  | cons entry rest ih =>
      have first : Fallible.Uses permitted (writeReg entry.1 entry.2) :=
        ⟨each entry List.mem_cons_self, fun _ => trivial⟩
      exact Fallible.uses_bind first fun _ => ih fun next member =>
        each next (List.mem_cons_of_mem _ member)

theorem readReg_isRead (addr : UInt16) : Fallible.Uses Access.IsRead (readReg addr) :=
  ⟨trivial, fun _ => trivial⟩

theorem runs_isRead {α : Type} {body : EcBatch α} {memory after : EcMemory}
    {result : Except Failure α} (reads : Fallible.Uses Access.IsRead body)
    (ran : Fallible.Runs accessSemantics body memory result after) : after = memory :=
  Program.Uses.preserves (fun before after => after = before) reads (fun _ => rfl)
    (fun first second => second.trans first)
    (fun _ choice memory isRead => accessSemantics_read isRead choice memory) ran

theorem runs_readReg {addr : UInt16} {memory after : EcMemory} {result : Except Failure UInt8} :
    Fallible.Runs accessSemantics (readReg addr) memory result after ↔
      after = memory ∧ (result = .ok (memory addr) ∨ ∃ message, result = .error (.error message)) := by
  constructor
  · rintro ⟨_ | message, rfl, rfl⟩
    · exact ⟨rfl, .inl rfl⟩
    · exact ⟨rfl, .inr ⟨message, rfl⟩⟩
  · rintro ⟨rfl, rfl | ⟨message, rfl⟩⟩
    · exact ⟨none, rfl, rfl⟩
    · exact ⟨some message, rfl, rfl⟩

theorem runs_writeReg {addr : UInt16} {value : UInt8} {memory after : EcMemory}
    {result : Except Failure Unit} :
    Fallible.Runs accessSemantics (writeReg addr value) memory result after ↔
      (result = .ok () ∧ after = memory.write addr value) ∨
      (∃ message, result = .error (.error message) ∧ after = memory) := by
  constructor
  · rintro ⟨_ | message, rfl, rfl⟩
    · exact .inl ⟨rfl, rfl⟩
    · exact .inr ⟨message, rfl, rfl⟩
  · rintro (⟨rfl, rfl⟩ | ⟨message, rfl, rfl⟩)
    · exact ⟨none, rfl, rfl⟩
    · exact ⟨some message, rfl, rfl⟩

theorem run_writes (list : List (UInt16 × UInt8)) (memory : EcMemory) :
    Program.run accessSemantics (writes list).run [] memory = (.ok (), memory.writeAll list) := by
  induction list generalizing memory with
  | nil => rfl
  | cons entry rest ih => exact ih (memory.write entry.1 entry.2)

/-- A batch of writes either makes all of them, or fails after a proper prefix. -/
theorem runs_writes {list : List (UInt16 × UInt8)} {memory after : EcMemory}
    {result : Except Failure Unit} :
    Fallible.Runs accessSemantics (writes list) memory result after ↔
      (result = .ok () ∧ after = memory.writeAll list) ∨
      (∃ made < list.length, ∃ message,
        result = .error (.error message) ∧ after = memory.writeAll (list.take made)) := by
  induction list generalizing memory with
  | nil => simp [writes]
  | cons entry rest ih =>
      obtain ⟨addr, value⟩ := entry
      rw [writes_cons, Fallible.runs_bind]
      simp only [runs_writeReg, ih]
      constructor
      · rintro (⟨failure, rfl, ⟨impossible, _⟩ | ⟨message, same, rfl⟩⟩ |
          ⟨_, _, ⟨_, rfl⟩ | ⟨_, impossible, _⟩, ran⟩)
        · cases impossible
        · cases same
          exact .inr ⟨0, by simp, message, rfl, rfl⟩
        · rcases ran with ⟨rfl, rfl⟩ | ⟨made, bound, message, rfl, rfl⟩
          · exact .inl ⟨rfl, rfl⟩
          · exact .inr ⟨made + 1, by simpa using bound, message, rfl, rfl⟩
        · cases impossible
      · rintro (⟨rfl, rfl⟩ | ⟨made, bound, message, rfl, rfl⟩)
        · exact .inr ⟨(), _, .inl ⟨trivial, rfl⟩, .inl ⟨rfl, rfl⟩⟩
        · cases made with
          | zero => exact .inl ⟨_, rfl, .inr ⟨message, rfl, rfl⟩⟩
          | succ made =>
              exact .inr ⟨(), _, .inl ⟨trivial, rfl⟩,
                .inr ⟨made, by simpa using bound, message, rfl, rfl⟩⟩

end EcBatch

end Lecoo.Ec
