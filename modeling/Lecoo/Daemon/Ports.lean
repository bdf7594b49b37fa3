import Lecoo.Effects.GuardedPart
import Lecoo.Ec.Port
import Lecoo.Daemon.Jobs

namespace Lecoo.Daemon

open Lecoo.Effects Lecoo.Ipc Lecoo.Ec Fallible

/-! # The daemon over the I/O ports

A batch is a section under the I/O lock, made of single port accesses each of which may
fail.  The other operations of the threads (the flag, the state and its lock, the file,
the channel) take no part in that lock and come between the accesses of a batch.
-/

/-- The closure of `with_batch` over the ports. -/
def portClosure (port : UInt16) :
    (operation : DaemonOp) → Option (Program portOps (daemonOps.Reply operation))
  | .batch body => some (portBatch port (.batch body))
  | _ => none

/-- The world with the registers that are behind the chip's ports. -/
def World.onChip (chip : Chip) (world : World) : World := { world with ec := chip.memory }

/-- The chip under its lock, and everything else the threads share; the registers of that
`World` are not looked at. -/
abbrev PortWorld := Locked ThreadId Chip × World

abbrev PortPool :=
  Pool ((locked portOps).sum daemonOps) ThreadId Job (Except Failure (Option IpcResponse)) PortWorld

abbrev PortDaemonRun (codec : SettingsCodec) (port : UInt16) (ec : EcDevice) :
    PortPool → List (Event ThreadId Job (Bool × Choice)) → PortPool → Prop :=
  Pool.Run (fun job => guarded (portClosure port) (job.work ec).run)
    (guardedSemantics (portSemantics port) fun thread _ => daemonSemantics codec thread)
    AwaitsGuard

def PortPool.start (chip : Chip) (world : World) : PortPool :=
  .idle ({ holder := none, shared := chip }, world)

variable {codec : SettingsCodec} {port : UInt16} {ec : EcDevice}

/-- Only a batch looks at the registers. -/
theorem daemonSemantics_onChip {operation : DaemonOp} (opened : portClosure port operation = none)
    (thread : ThreadId) (choice : Choice) (chip : Chip) (world : World) :
    daemonSemantics codec thread operation choice (world.onChip chip) =
      ((daemonSemantics codec thread operation choice world).1,
        (daemonSemantics codec thread operation choice world).2.onChip chip) := by
  cases operation with
  | batch body => cases opened
  | tryLockState =>
      cases held : world.stateLock <;> simp [daemonSemantics, World.onChip, held, World.lockedBy]
  | createStateFile =>
      cases failed : choice.failure <;> simp [daemonSemantics, World.onChip, failed, World.withFile]
  | decodeStateFile =>
      simp only [daemonSemantics, World.onChip]
      split <;> rfl
  | queueTelemetry data =>
      cases channel : world.channelOpen <;> simp [daemonSemantics, World.onChip, channel]
  | receiveTelemetry =>
      cases queued : world.telemetryQueue <;> simp [daemonSemantics, World.onChip, queued]
  | _ => rfl

theorem portClosure_shelters :
    Shelters (ι := ThreadId) (J := Job) World.onChip (portSemantics port)
      (fun thread _ => daemonSemantics codec thread) (portClosure port) where
  sections := by
    intro operation body closed thread job before reply after ran
    cases operation with
    | batch closure =>
        cases closed
        obtain ⟨failures, replied, later⟩ := portBatch_refines port (.batch closure) rfl ran
        refine ⟨{ accesses := failures }, fun rest => ?_⟩
        rw [daemonSemantics_batch]
        exact Prod.ext replied (congrArg (fun memory => { rest with ec := memory }) later.symm)
    | _ => cases closed
  others := fun opened thread _ choice chip world =>
    daemonSemantics_onChip opened thread choice chip world

theorem portSemantics_stalls (access : PortOp) (chip : Chip) :
    ∃ choice, (portSemantics port access choice chip).2 = chip := by
  cases access <;> exact ⟨true, rfl⟩

/-- However the port accesses of the daemon's threads, their failures and everything else
that the threads do are interleaved, the daemon over the ports is at every moment, also
between two accesses of a batch, as the daemon over registers can come to be: the chip's
memory holds its registers, the rest of the state is its own, and every thread outside of
the I/O lock has come as far in the same program. -/
theorem daemon_over_ports {chip : Chip} {world : World}
    {events : List (Event ThreadId Job (Bool × Choice))} {after : PortPool}
    (ran : PortDaemonRun codec port ec (.start chip world) events after) :
    ∃ steps, ∃ reached : DaemonPool World,
      DaemonRun ec (fun thread _ => daemonSemantics codec thread) (fun _ _ => True)
        (.idle (world.onChip chip)) steps reached ∧
      reached.world = after.world.2.onChip after.world.1.shared ∧
      ∀ thread, after.world.1.holder ≠ some thread →
        after.thread thread = (reached.thread thread).map (guardedActivity (portClosure port)) :=
  guarded_seen portClosure_shelters portSemantics_stalls ran

def idleChip : Chip where
  selected := 0
  indirect := 0
  addrHigh := 0
  addrLow := 0
  memory := fun _ => 0

/-- The policy of a fan is written and its duty is not yet, when another thread takes the
lock of the state. -/
theorem midway_reached :
    ∃ events after, PortDaemonRun .bincode 0x4E Detection.n155a.device
        (.start idleChip (World.fresh (fun _ => 7) none)) events after ∧
      after.world.1.holder = some 0 ∧ after.world.1.shared.memory 0xC44F = 0x40 ∧
      after.world.2.stateLock = some 1 := by
  have checked : (Pool.replay
      (fun job : Job => guarded (portClosure 0x4E) (job.work Detection.n155a.device).run)
      (guardedSemantics (portSemantics 0x4E) fun thread _ => daemonSemantics .bincode thread)
      awaitsGuardNow (PortPool.start idleChip (World.fresh (fun _ => 7) none))
      ([.start 0 (.request (.setFanMode .cpu .full)), .start 1 .connectionReset] ++
        Pool.turns 0 20 ++ Pool.turns 1 1)).any (fun pool =>
        pool.world.1.holder == some 0 && pool.world.1.shared.memory 0xC44F == 0x40 &&
          pool.world.2.stateLock == some 1) = true := by
    decide +kernel
  obtain ⟨after, replayed, checked⟩ := (Option.any_eq_true _ _).mp checked
  simp only [Bool.and_eq_true, beq_iff_eq] at checked
  obtain ⟨⟨holds, written⟩, locked⟩ := checked
  exact ⟨_, after, Pool.run_of_replay awaitsGuardNow_sound replayed, holds, written, locked⟩

theorem daemon_over_ports_midway :
    ∃ events after, PortDaemonRun .bincode 0x4E Detection.n155a.device
        (.start idleChip (World.fresh (fun _ => 7) none)) events after ∧
      after.world.1.holder = some 0 ∧ after.world.1.shared.memory 0xC44F = 0x40 ∧
      ∃ reached : DaemonPool World, reached.world.stateLock = some 1 ∧
        reached.world.ec = after.world.1.shared.memory := by
  obtain ⟨_, after, ran, holds, written, locked⟩ := midway_reached
  obtain ⟨_, reached, _, same, _⟩ := daemon_over_ports ran
  refine ⟨_, after, ran, holds, written, reached, ?_, ?_⟩
  · rw [same]
    exact locked
  · rw [same]
    rfl

end Lecoo.Daemon
