import Lecoo.Daemon.World

namespace Lecoo.Daemon

open Lecoo.Effects Lecoo.Ipc Lecoo.Ec Fallible

/-! # Readings

The functions that read the EC use batches of reads only, and so leave
everything as it was.
-/

variable {codec : SettingsCodec} {thread : ThreadId} {before after : World}

def DaemonOp.ReadsEc : DaemonOp → Prop
  | .batch body => Fallible.Uses Access.IsRead body
  | _ => False

theorem daemonSemantics_readsEc {operation : DaemonOp} (reads : operation.ReadsEc)
    (choice : Choice) (world : World) :
    (daemonSemantics codec thread operation choice world).2 = world := by
  cases operation with
  | batch body =>
      have kept : (Program.run accessSemantics body.run choice.accesses world.ec).2 = world.ec :=
        EcBatch.runs_isRead reads (Program.run_runs _ choice.accesses world.ec)
      simp only [daemonSemantics, kept]
  | _ => cases reads

theorem alone_readings {α : Type} {computation : Io α} {result : Except Failure α}
    (reads : Fallible.Uses DaemonOp.ReadsEc computation)
    (ran : Alone codec thread computation before result after) : after = before :=
  Program.Uses.preserves (fun before after => after = before) reads (fun _ => rfl)
    (fun first second => second.trans first)
    (fun _ choice world isRead => daemonSemantics_readsEc isRead choice world) ran

variable (ec : EcDevice)

theorem readReg_reads (addr : UInt16) : Fallible.Uses DaemonOp.ReadsEc (ec.readReg addr) :=
  uses_attempt (Io.uses_perform (EcBatch.readReg_isRead addr))

theorem readRam_reads (offset : UInt16) : Fallible.Uses DaemonOp.ReadsEc (ec.readRam offset) :=
  uses_attempt (Io.uses_perform (EcBatch.readReg_isRead _))

theorem readChargeLimit_reads : Fallible.Uses DaemonOp.ReadsEc (readChargeLimit ec) :=
  uses_bind (readRam_reads ec _) fun _ => uses_bind (readRam_reads ec _) fun _ => uses_pure _

theorem readBatteryRsoc_reads : Fallible.Uses DaemonOp.ReadsEc (readBatteryRsoc ec) :=
  readRam_reads ec _

theorem readSystemInfo_reads : Fallible.Uses DaemonOp.ReadsEc (readSystemInfo ec) := by
  refine uses_attempt (Io.uses_perform ?_)
  exact uses_bind (EcBatch.readReg_isRead _) fun _ => uses_bind (EcBatch.readReg_isRead _) fun _ =>
    uses_bind (EcBatch.readReg_isRead _) fun _ => uses_pure _

theorem readFansRpm_reads : Fallible.Uses DaemonOp.ReadsEc (readFansRpm ec) := by
  refine uses_attempt (Io.uses_perform ?_)
  exact uses_bind (EcBatch.readReg_isRead _) fun _ => uses_bind (EcBatch.readReg_isRead _) fun _ =>
    uses_bind (EcBatch.readReg_isRead _) fun _ => uses_bind (EcBatch.readReg_isRead _) fun _ =>
      uses_pure _

theorem readTemperatures_reads : Fallible.Uses DaemonOp.ReadsEc (readTemperatures ec) := by
  refine uses_attempt (Io.uses_perform ?_)
  exact uses_bind (EcBatch.readReg_isRead _) fun _ => uses_bind (EcBatch.readReg_isRead _) fun _ =>
    uses_pure _

theorem readKeyboardBacklight_reads : Fallible.Uses DaemonOp.ReadsEc (readKeyboardBacklight ec) := by
  refine uses_bind (readReg_reads ec _) fun level => ?_
  split
  case h_5 => exact uses_bind (readReg_reads ec _) fun _ => uses_pure _
  all_goals first | exact uses_pure _ | exact uses_throw _

theorem readPowerProfile_reads : Fallible.Uses DaemonOp.ReadsEc (readPowerProfile ec) := by
  refine uses_bind (readRam_reads ec _) fun profile => ?_
  split
  all_goals first | exact uses_pure _ | exact uses_throw _

def IsGetter : IpcRequest → Prop
  | .getSystemState | .getFansRPM | .getTemperatures | .getChargeLimit | .getPowerProfile
  | .getKeyboardBacklight => True
  | _ => False

theorem getters_read {request : IpcRequest} (getter : IsGetter request) :
    Fallible.Uses DaemonOp.ReadsEc (handleRequest ec request) := by
  cases request with
  | getSystemState => exact uses_bind (readSystemInfo_reads ec) fun _ => uses_pure _
  | getFansRPM => exact uses_bind (readFansRpm_reads ec) fun _ => uses_pure _
  | getTemperatures => exact uses_bind (readTemperatures_reads ec) fun _ => uses_pure _
  | getChargeLimit =>
      exact uses_bind (readChargeLimit_reads ec) fun _ =>
        uses_bind (readBatteryRsoc_reads ec) fun _ => uses_pure _
  | getPowerProfile => exact uses_bind (readPowerProfile_reads ec) fun _ => uses_pure _
  | getKeyboardBacklight => exact uses_bind (readKeyboardBacklight_reads ec) fun _ => uses_pure _
  | _ => cases getter

end Lecoo.Daemon
