import Lecoo.Effects.Monitor
import Lecoo.Daemon.Guards

namespace Lecoo.Daemon

open Lecoo.Effects Lecoo.Ipc Lecoo.Ec Lecoo.Data Fallible

/-! # Whose fan mode a batch brings about

A batch that sets a fan serves a request, or the settings its thread read last.  Either
says which mode is asked for, and with it which duty.
-/

variable {ec : EcDevice} {job : Job} {serving : Option CurrentSettings}

def fanModeOf (settings : CurrentSettings) : FanIndex → FanMode
  | .cpu => settings.fanModeCpu
  | .gpu => settings.fanModeGpu

/-- The mode a thread is to give a fan: that of its request, or that of the settings
it has read. -/
def modeServed (serving : Option CurrentSettings) (fan : FanIndex) : Job → Option FanMode
  | .request (.setFanMode asked mode) => if asked = fan then some mode else none
  | _ => serving.map fun settings => fanModeOf settings fan

/-- The duty cells are the fans' own; a policy cell may double as the LED bypass. -/
structure FansApart (ec : EcDevice) : Prop where
  duty : ∀ register fan, ec.address register = ec.address (.fanDuty fan) → register = .fanDuty fan
  policy : ∀ register fan, ec.address register = ec.address (.thermalPolicy fan) →
    register = .thermalPolicy fan ∨ register = .ledBypass

theorem fansApart (detection : Detection) : FansApart detection.device := by
  cases board : detection.profile with
  | n155a =>
      have separated := detection.n155a_separated board
      exact ⟨fun _ _ same => separated same, fun _ _ same => .inl (separated same)⟩
  | n155d =>
      constructor
      · intro register fan same
        rcases detection.n155d_address_inj board same with equal | ⟨_, other⟩ | ⟨_, other⟩
        · exact equal
        · cases other
        · cases other
      · intro register fan same
        rcases detection.n155d_address_inj board same with equal | ⟨bypass, _⟩ | ⟨_, other⟩
        · exact .inl equal
        · exact .inr bypass
        · cases other

/-- The access writes no duty cell and puts no fan in override. -/
def Tame (ec : EcDevice) : Access → Prop
  | .read _ => True
  | .write addr value => ∀ fan, addr ≠ ec.address (.fanDuty fan) ∧
      (addr = ec.address (.thermalPolicy fan) → value ≠ 0x40)

def fanBatch (ec : EcDevice) (fan : FanIndex) (mode : FanMode) : EcBatch Unit :=
  EcBatch.writes (ec.place
    [(.thermalPolicy fan, (fanRequest mode).1), (.fanDuty fan, (fanRequest mode).2)])

/-- A batch leaves the fans' speed alone, or brings about the mode that is served. -/
inductive ServesFans (ec : EcDevice) (job : Job) (serving : Option CurrentSettings) :
    DaemonOp → Prop where
  | notBatch {operation : DaemonOp} (other : ¬operation.IsBatch) : ServesFans ec job serving operation
  | tame {α : Type} {body : EcBatch α} (tame : Uses (Tame ec) body) :
      ServesFans ec job serving (.batch body)
  | fan {fan : FanIndex} {mode : FanMode} (served : modeServed serving fan job = some mode)
      (valid : (Setter.fanMode fan mode).Valid) :
      ServesFans ec job serving (.batch (fanBatch ec fan mode))

/-- The batches are tame. -/
def DaemonOp.FansTame (ec : EcDevice) : DaemonOp → Prop
  | .batch body => Uses (Tame ec) body
  | _ => True

theorem DaemonOp.FansTame.serves {operation : DaemonOp} (tame : operation.FansTame ec) :
    ServesFans ec job serving operation := by
  cases operation with
  | batch body => exact .tame tame
  | _ => exact .notBatch id

/-- What a load ends with is what its thread has learned. -/
def Loads (serving : Option CurrentSettings) (outcome : Except Failure CurrentSettings) : Prop :=
  ∀ settings, outcome = .ok settings → serving = some settings

end Lecoo.Daemon
