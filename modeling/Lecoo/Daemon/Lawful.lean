import Lecoo.Daemon.FanSafety
import Lecoo.Daemon.Ports

namespace Lecoo.Ec

open Lecoo.Ipc Lecoo.Daemon

/-! # What the EC's memory can come to hold

Every hardware function has its own few values for a register.  No failure and no order
of the threads brings another value into the EC, nor anything into a cell that belongs to
none of these registers.
-/

/-- The values the hardware functions have for a register; the others are never written. -/
def Register.Admits : Register → UInt8 → Prop
  | .thermalPolicy _, value => value = 0x00 ∨ value = 0x40
  | .fanDuty _, value => value ≤ 220
  | .powerProfile, value => ∃ profile : PowerProfile, value = profile.asU8
  | .batLimitMin, value => ∃ limit : ChargeLimit, value = limit.asPercent.1
  | .batLimitMax, value => ∃ limit : ChargeLimit, value = limit.asPercent.2
  | .ledBypass, value | .ledBreathEn, value => value = 0x00 ∨ value = 0x01
  | .kbdBypassTimeout, value | .pwmCycle, value => value = 0xFF
  | .gpioA0Mux, value | .gpioA4Mux, value | .pwmPrescaler, value => value = 0x00
  | .kbdBacklight, value => value ≤ 0x03 ∨ value = 0xFF
  | .ledBreathStep, value => ∃ config, value = BreathConfig.lcr1 config
  | .ledBreathDelay, value => ∃ config, value = BreathConfig.lcr2 config
  | .kbdCustomVal, _ | .pwmDuty, _ | .gpdra, _ => True
  | _, _ => False

/-- A byte that a cell of the device can be made to hold. -/
def EcDevice.Admits (ec : EcDevice) (addr : UInt16) (value : UInt8) : Prop :=
  ∃ register : Register, addr = ec.address register ∧ register.Admits value

theorem Setter.steps_admitted {ec : EcDevice} {setter : Setter} (valid : setter.Valid)
    (ledCustom : Bool) (portA : UInt8) :
    ∀ entry ∈ registerWrites (actionsOf (setter.steps ec ledCustom portA)),
      entry.1.Admits entry.2 := by
  cases setter with
  | fanMode fan mode =>
      have limited := fanRequest_limit valid
      cases mode <;> simp [steps, fanSteps, fanRequest, writeActions, Register.Admits]
      exact limited
  | ledMode mode =>
      cases mode <;> cases ledCustom <;>
        simp [steps, ledSteps, ledSetUp, ledReset, writeActions, Register.Admits]
  | keyboardBacklight level =>
      cases level <;> simp [steps, keyboardSteps, writeActions, Register.Admits]
  | chargeLimit limit =>
      simp only [steps, actionsOf_batch, writeActions, List.map, actionsOf_nil, List.append_nil,
        registerWrites_write, registerWrites_nil, List.forall_mem_cons]
      exact ⟨⟨limit, rfl⟩, ⟨limit, rfl⟩, by simp⟩
  | powerProfile profile => simp [steps, writeActions, Register.Admits]
  | batteryLeds orangeOn whiteOn => simp [steps, writeActions, Register.Admits]

end Lecoo.Ec

namespace Lecoo.Daemon

open Lecoo.Effects Lecoo.Ec Lecoo.Data

variable {codec : SettingsCodec} {port : UInt16} {ec : EcDevice} {thread : ThreadId}

def AccessLawful (ec : EcDevice) : Access → Prop
  | .read _ => True
  | .write addr value => ec.Admits addr value

def DaemonOp.Lawful (ec : EcDevice) : DaemonOp → Prop
  | .batch body => Fallible.Uses (AccessLawful ec) body
  | _ => True

theorem lawful_covers : Covers ec (DaemonOp.Lawful ec) where
  reads := by
    intro operation reads
    cases operation with
    | batch body =>
        refine Program.Uses.mono (fun access isRead => ?_) reads
        cases access with
        | read addr => trivial
        | write addr value => cases isRead
    | _ => trivial
  setters := by
    intro setter
    refine apply_uses ec setter trivial ⟨trivial, fun _ => trivial⟩ fun valid ledCustom portA => ?_
    refine script_uses ec (fun writes member => ?_) fun _ => trivial
    refine EcBatch.writes_uses fun placed placedMember => ?_
    obtain ⟨entry, written, rfl⟩ := List.mem_map.mp placedMember
    exact ⟨entry.1, rfl,
      Setter.steps_admitted valid ledCustom portA entry (mem_registerWrites member written)⟩
  file := by
    intro operation onFile
    cases operation with
    | batch body => cases onFile
    | _ => trivial
  tryLock := trivial
  unlock := trivial
  readState := trivial
  writeState := fun _ => trivial
  clock := trivial

theorem Job.work_lawful (job : Job) : Fallible.Uses (DaemonOp.Lawful ec) (job.work ec) := by
  refine job.work_uses lawful_covers fun operation other => ?_
  cases operation with
  | batch body => exact absurd trivial other
  | _ => trivial

/-- Every byte is as it was, or its cell admits it. -/
def Keeping (ec : EcDevice) (before after : EcMemory) : Prop :=
  ∀ addr, after addr = before addr ∨ ec.Admits addr (after addr)

theorem Keeping.refl (memory : EcMemory) : Keeping ec memory memory := fun _ => .inl rfl

theorem Keeping.trans {first second third : EcMemory} (earlier : Keeping ec first second)
    (later : Keeping ec second third) : Keeping ec first third := by
  intro addr
  rcases later addr with same | admitted
  · rw [same]
    exact earlier addr
  · exact .inr admitted

theorem accessSemantics_keeping {access : Access} (lawful : AccessLawful ec access)
    (choice : Option String) (memory : EcMemory) :
    Keeping ec memory (accessSemantics access choice memory).2 := by
  cases access with
  | read addr => cases choice <;> exact .refl memory
  | write target value =>
      cases choice with
      | some message => exact .refl memory
      | none =>
          intro addr
          simp only [accessSemantics]
          by_cases same : addr = target
          · subst same
            rw [Memory.write_same]
            exact .inr lawful
          · exact .inl (Memory.write_other same)

theorem daemonSemantics_keeping {operation : DaemonOp} (lawful : operation.Lawful ec)
    (choice : Choice) (world : World) :
    Keeping ec world.ec (daemonSemantics codec thread operation choice world).2.ec := by
  cases operation with
  | batch body =>
      exact Program.Uses.preserves (Keeping ec) lawful .refl .trans
        (fun _ choice memory lawful => accessSemantics_keeping lawful choice memory)
        (Program.run_runs _ choice.accesses world.ec)
  | _ =>
      rw [daemonSemantics_ec codec thread id]
      exact .refl world.ec

structure LawfulInvariant (ec : EcDevice) (start : EcMemory) (pool : DaemonPool World) : Prop where
  keeping : Keeping ec start pool.world.ec
  todo : pool.Each fun _ _ activity => Program.Uses (DaemonOp.Lawful ec) activity.todo

theorem daemonRun_keeping {world : World} {events : List (Event ThreadId Job Choice)}
    {pool : DaemonPool World}
    (ran : DaemonRun ec (fun thread _ => daemonSemantics codec thread) (fun _ _ => True)
      (.idle world) events pool) : Keeping ec world.ec pool.world.ec := by
  have initially : LawfulInvariant ec world.ec (Pool.idle world) := by
    refine ⟨.refl world.ec, ?_⟩
    intro thread activity running
    cases running
  have held : LawfulInvariant ec world.ec pool := by
    refine ran.invariant_of_steps ?_ ?_ ?_ initially
    · intro pool thread job held _ _
      exact ⟨held.keeping, held.todo.move job.work_lawful fun _ _ _ own => own⟩
    · intro pool thread choice job operation rest held _ running
      obtain ⟨lawful, later⟩ := held.todo thread _ running
      exact ⟨held.keeping.trans (daemonSemantics_keeping lawful choice _),
        held.todo.move (later _) fun _ _ _ own => own⟩
    · exact fun held _ _ => ⟨held.keeping, held.todo.finish⟩
  exact held.keeping

/-- From any memory of the EC, any settings and any file, under any requests, events, order
of the threads' port accesses and failures of these, also in the middle of a batch: every
byte of the EC is as it was, or it is a value that the hardware functions have for a
register of that address. -/
theorem registers_lawful {chip : Chip} {world : World}
    {events : List (Event ThreadId Job (Bool × Choice))} {after : PortPool}
    (ran : PortDaemonRun codec port ec (.start chip world) events after) (addr : UInt16) :
    after.world.1.shared.memory addr = chip.memory addr ∨
      ∃ register : Register, addr = ec.address register ∧
        register.Admits (after.world.1.shared.memory addr) := by
  obtain ⟨_, reached, went, same, _⟩ :=
    guarded_seen portClosure_shelters portSemantics_stalls ran
  have keeping := daemonRun_keeping went
  rw [same] at keeping
  exact keeping addr

theorem registers_lawful_midway :
    ∃ after : PortPool, after.world.1.shared.memory 0xC44F = 0x40 ∧
      ∃ register : Register, 0xC44F = Detection.n155a.device.address register ∧
        register.Admits 0x40 := by
  obtain ⟨_, after, ran, _, written, _⟩ := midway_reached
  have lawful := registers_lawful ran 0xC44F
  rw [written] at lawful
  exact ⟨after, written, lawful.resolve_left (by decide)⟩

end Lecoo.Daemon
