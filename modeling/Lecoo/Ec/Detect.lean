import Lecoo.Effects.Triple
import Lecoo.Ec.Port
import Mathlib.Data.List.Infix

namespace Lecoo.Ec

open Lecoo.Effects Fallible

/-! # The detection of the EC

While the device is looked for, each register is read over a port that is only tried.
-/

inductive ProbeOp where
  | readReg (port addr : UInt16)
  | sleep (ms : Nat)
deriving Repr, DecidableEq

@[reducible] def probeOps : Interface where
  Operation := ProbeOp
  Reply
    | .readReg _ _ => Except Failure UInt8
    | .sleep _ => Unit

/-- What is found: the port and the device behind it. -/
structure DetectedDevice where
  port : UInt16
  device : EcDevice
deriving Repr, DecidableEq

/-- A loop over candidates that ends at the first one whose register is read with a
qualifying value; a read that fails is passed over. -/
def search {α : Type} (target : α → UInt16 × UInt16) (qualifies : UInt8 → Bool) :
    List α → Program probeOps (Option α)
  | [] => return none
  | candidate :: rest => do
      let (port, addr) := target candidate
      match ← Program.request (I := probeOps) (.readReg port addr) with
      | .ok value =>
          if qualifies value then return some candidate else search target qualifies rest
      | .error _ => search target qualifies rest

def probePorts : List UInt16 := [0x2E, 0x4E, 0x6E]

/-- The id register of a chip behind a port. -/
def chipIdAt (port : UInt16) : UInt16 × UInt16 := (port, 0x2000)

def recognised (chipId : UInt8) : Bool :=
  chipId == 0x55 || (chipId == 0x81 || chipId == 0x85 || chipId == 0x89 || chipId == 0x90)

/-- The port that is selected after it.  Without a chip that is the last one tried. -/
def probeChip (insecureMode : Bool) : Fallible probeOps Failure UInt16 := do
  match ← always (search chipIdAt recognised probePorts) with
  | some port => return port
  | none =>
      if insecureMode then return 0x6E
      else throw (.error "ITE IT5570/IT8987 chip not found on any known port")

def probeAttempts : Nat := 5

def probeBackoffMs : Nat := 400

/-- One attempt, and after a failure the given number of further ones. -/
def probeRounds (insecureMode : Bool) : Nat → Fallible probeOps Failure UInt16
  | 0 => probeChip insecureMode
  | further + 1 => ExceptT.mk do
      match ← (probeChip insecureMode).run with
      | .ok port => return .ok port
      | .error _ =>
          Program.request (I := probeOps) (.sleep probeBackoffMs)
          (probeRounds insecureMode further).run

/-- Whether the name of the board contains a text. -/
def boardContains (motherboard text : String) : Bool := text.toList <:+: motherboard.toList

/-- An unsupported board is logged and gets the offsets of the N155A. -/
def boardProfile (motherboard : String) : BoardProfile :=
  if boardContains motherboard "N155A" then .n155a
  else if boardContains motherboard "N155C" then .n155a
  else if boardContains motherboard "N155D" then .n155d
  else .n155a

def plausibleTemp (temp : UInt8) : Bool := temp > 0x10 && temp < 0x50

/-- `EcDevice::new`, with the opened I/O backend and the name of the board. -/
def newDevice (opened : Except Failure Unit) (motherboard : String) (insecureMode : Bool) :
    Fallible probeOps Failure DetectedDevice := do
  attempt (.done opened)
  let offsets := (boardProfile motherboard).offsets
  let port ← probeRounds insecureMode (probeAttempts - 1)
  let window ← always
    (search (fun base => (port, base + offsets.ramTempCpu)) plausibleTemp possibleBases)
  let hramOffset := window.getD 0xFF
  if hramOffset = 0xFF then
    throw (.error "Failed to detect HRAM window base address")
  else
    return { port, device := offsets.detectedAt hramOffset }

structure ProbeRead where
  port : UInt16
  addr : UInt16
  reply : Except Failure UInt8

/-- The reads are recorded; the choice is the reply. -/
def recording : Semantics probeOps (Except Failure UInt8) (List ProbeRead)
  | .readReg port addr, reply, reads => (reply, reads ++ [⟨port, addr, reply⟩])
  | .sleep _, _, reads => ((), reads)

section Search

variable {α : Type} (target : α → UInt16 × UInt16) (qualifies : UInt8 → Bool)

/-- Each candidate in turn was read without a qualifying value. -/
def Passed (candidates : List α) (reads : List ProbeRead) : Prop :=
  List.Forall₂ (fun candidate read => (read.port, read.addr) = target candidate ∧
    ∀ value, read.reply = .ok value → qualifies value = false) candidates reads

/-- The candidates before the chosen one were passed, and it was read with a qualifying
value. -/
def FirstOf (candidates : List α) (reads : List ProbeRead) (chosen : α) : Prop :=
  ∃ before rest passed value, candidates = before ++ chosen :: rest ∧
    Passed target qualifies before passed ∧
    reads = passed ++ [⟨(target chosen).1, (target chosen).2, .ok value⟩] ∧
    qualifies value = true

/-- What the reads of a search say about its result. -/
def Searched (candidates : List α) (reads : List ProbeRead) : Option α → Prop
  | none => Passed target qualifies candidates reads
  | some chosen => FirstOf target qualifies candidates reads chosen

variable {target qualifies} {candidate : α} {rest : List α} {reads : List ProbeRead}
  {found : Option α}

theorem Searched.cons {read : ProbeRead} (aimed : (read.port, read.addr) = target candidate)
    (unfit : ∀ value, read.reply = .ok value → qualifies value = false)
    (searched : Searched target qualifies rest reads found) :
    Searched target qualifies (candidate :: rest) (read :: reads) found := by
  cases found with
  | none => exact .cons ⟨aimed, unfit⟩ searched
  | some chosen =>
      obtain ⟨earlier, others, passed, value, split, fit, last, qualified⟩ := searched
      exact ⟨candidate :: earlier, others, read :: passed, value, by rw [split]; rfl,
        .cons ⟨aimed, unfit⟩ fit, by rw [last]; rfl, qualified⟩

theorem search_runs {candidates : List α} {before after : List ProbeRead}
    (ran : (search target qualifies candidates).Runs recording before found after) :
    ∃ reads, after = before ++ reads ∧ Searched target qualifies candidates reads found := by
  induction candidates generalizing before with
  | nil =>
      obtain ⟨rfl, rfl⟩ := ran
      exact ⟨[], (List.append_nil _).symm, .nil⟩
  | cons candidate rest later =>
      obtain ⟨reply, went⟩ := ran
      have passedOver (unfit : ∀ value, reply = .ok value → qualifies value = false)
          (went : (search target qualifies rest).Runs recording
            (before ++ [⟨(target candidate).1, (target candidate).2, reply⟩]) found after) :
          ∃ reads, after = before ++ reads ∧
            Searched target qualifies (candidate :: rest) reads found := by
        obtain ⟨reads, same, searched⟩ := later went
        exact ⟨_ :: reads, by rw [same, List.append_assoc]; rfl, searched.cons rfl unfit⟩
      cases reply with
      | error failure => exact passedOver (fun _ impossible => by cases impossible) went
      | ok value =>
          change (if qualifies value then pure (some candidate)
            else search target qualifies rest).Runs recording _ found after at went
          cases qualified : qualifies value with
          | false =>
              rw [qualified] at went
              refine passedOver (fun other same => ?_) went
              cases same
              exact qualified
          | true =>
              rw [qualified] at went
              obtain ⟨rfl, rfl⟩ := went
              exact ⟨_, rfl, [], rest, [], value, rfl, .nil, rfl, qualified⟩

end Search

/-- A round ends with a port when it is the first one behind which a chip was recognised; in
insecure mode it is the last one when there was none. -/
def Selects (insecureMode : Bool) (round : List ProbeRead) (port : UInt16) : Prop :=
  FirstOf chipIdAt recognised probePorts round port ∨
    insecureMode = true ∧ Passed chipIdAt recognised probePorts round ∧ port = 0x6E

/-- A round fails when no chip was recognised, but not in insecure mode. -/
def Misses (insecureMode : Bool) (round : List ProbeRead) : Prop :=
  insecureMode = false ∧ Passed chipIdAt recognised probePorts round

def RoundEnds (insecureMode : Bool) (round : List ProbeRead) : Except Failure UInt16 → Prop
  | .ok port => Selects insecureMode round port
  | .error _ => Misses insecureMode round

/-- Only the last round is not a failed one, and there is one more only after a failed one. -/
def RoundsEnd (insecureMode : Bool) (further : Nat) (reads : List ProbeRead) :
    Except Failure UInt16 → Prop
  | .ok port => ∃ (failed : List (List ProbeRead)) (last : List ProbeRead),
      reads = failed.flatten ++ last ∧ failed.length ≤ further ∧
      (∀ round ∈ failed, Misses insecureMode round) ∧ Selects insecureMode last port
  | .error _ => ∃ failed : List (List ProbeRead),
      reads = failed.flatten ∧ failed.length = further + 1 ∧ ∀ round ∈ failed, Misses insecureMode round

variable {insecureMode : Bool} {before after : List ProbeRead} {result : Except Failure UInt16}

theorem probeChip_runs (ran : (probeChip insecureMode).Runs recording before result after) :
    ∃ round, after = before ++ round ∧ RoundEnds insecureMode round result := by
  have searched {outcome : Except Failure (Option UInt16)} {middle : List ProbeRead}
      (first : Runs recording (always (search chipIdAt recognised probePorts)) before outcome
        middle) : ∃ found round, outcome = .ok found ∧ middle = before ++ round ∧
          Searched chipIdAt recognised probePorts round found := by
    obtain ⟨found, same, went⟩ := runs_always.mp first
    obtain ⟨round, appended, searched⟩ := search_runs went
    exact ⟨found, round, same, appended, searched⟩
  obtain ⟨failure, _, first⟩ | ⟨value, middle, first, second⟩ := runs_bind.mp ran
  · obtain ⟨_, _, impossible, _⟩ := searched first
    cases impossible
  · obtain ⟨found, round, same, rfl, searched⟩ := searched first
    cases same
    refine ⟨round, ?_⟩
    cases value with
    | some port =>
        obtain ⟨rfl, rfl⟩ := second
        exact ⟨rfl, .inl searched⟩
    | none =>
        cases insecureMode with
        | true =>
            obtain ⟨rfl, rfl⟩ := second
            exact ⟨rfl, .inr ⟨rfl, searched, rfl⟩⟩
        | false =>
            obtain ⟨rfl, rfl⟩ := second
            exact ⟨rfl, rfl, searched⟩

theorem probeRounds_runs {further : Nat}
    (ran : (probeRounds insecureMode further).Runs recording before result after) :
    ∃ reads, after = before ++ reads ∧ RoundsEnd insecureMode further reads result := by
  induction further generalizing before with
  | zero =>
      obtain ⟨round, same, ended⟩ := probeChip_runs ran
      refine ⟨round, same, ?_⟩
      cases result with
      | ok port => exact ⟨[], round, rfl, Nat.le_refl 0, by simp, ended⟩
      | error failure => exact ⟨[round], by simp, rfl,
          List.forall_mem_singleton.mpr ended⟩
  | succ further later =>
      obtain ⟨first, middle, went, rest⟩ := Program.runs_bind.mp ran
      obtain ⟨round, rfl, ended⟩ := probeChip_runs went
      cases first with
      | ok port =>
          obtain ⟨rfl, rfl⟩ := rest
          exact ⟨round, rfl, [], round, rfl, Nat.zero_le _, by simp, ended⟩
      | error failure =>
          obtain ⟨_, slept⟩ := rest
          obtain ⟨reads, rfl, ends⟩ := later slept
          refine ⟨round ++ reads, List.append_assoc _ _ _, ?_⟩
          cases result with
          | ok port =>
              obtain ⟨failed, last, rfl, count, missed, selects⟩ := ends
              exact ⟨round :: failed, last, by simp, Nat.succ_le_succ count,
                List.forall_mem_cons.mpr ⟨ended, missed⟩, selects⟩
          | error failure =>
              obtain ⟨failed, rfl, count, missed⟩ := ends
              exact ⟨round :: failed, by simp, congrArg (· + 1) count,
                List.forall_mem_cons.mpr ⟨ended, missed⟩⟩

/-- The offset of a register that is a cell of the HRAM window. -/
def EcDevice.cell? (ec : EcDevice) : Register → Option UInt16
  | .tempCpu => ec.offsets.ramTempCpu
  | .tempSys => ec.offsets.ramTempSys
  | .powerProfile => ec.offsets.ramPowerProfile
  | .fanCpuMsb => ec.offsets.ramFanCpuMsb
  | .fanCpuLsb => ec.offsets.ramFanCpuLsb
  | .fanGpuMsb => ec.offsets.ramFanGpuMsb
  | .fanGpuLsb => ec.offsets.ramFanGpuLsb
  | .thermalPolicy fan => ec.thermalPolicy fan
  | .fanDuty fan => fan.asU16
  | .batRsoc => ec.offsets.ramBatRsoc
  | .batLimitMin => ec.offsets.ramBatLimitMin
  | .batLimitMax => ec.offsets.ramBatLimitMax
  | .ledBypass => ec.offsets.ramLedBypass
  | .kbdBypassTimeout => ec.offsets.ramKbdBypassTimeout
  | _ => none

theorem EcDevice.address_cell {ec : EcDevice} {register : Register} {offset : UInt16}
    (cell : ec.cell? register = some offset) : ec.address register = ec.hramOffset + offset := by
  cases register <;> cases cell <;> rfl

theorem Detection.cell_lt (detection : Detection) {register : Register} {offset : UInt16}
    (cell : detection.device.cell? register = some offset) : offset.toNat < 256 := by
  obtain ⟨profile, base, possible⟩ := detection
  have inWindow : (Register.all.all fun register =>
      (EcDevice.cell? (profile.offsets.detectedAt base) register).all fun offset =>
        offset.toNat < 256) = true := by
    simp only [possibleBases, List.mem_cons, List.not_mem_nil, or_false] at possible
    obtain rfl | rfl | rfl | rfl | rfl := possible <;> cases profile <;> decide +kernel
  have within := List.all_eq_true.mp inWindow register register.mem_all
  change (profile.offsets.detectedAt base).cell? register = some offset at cell
  rw [cell] at within
  exact of_decide_eq_true within

/-- No address computed from the device leaves the 16 bits. -/
structure DetectedDevice.Fits (found : DetectedDevice) : Prop where
  port : found.port.toNat + 1 < 65536
  cells : ∀ register offset, found.device.cell? register = some offset →
    found.device.address register = found.device.hramOffset + offset ∧
      found.device.hramOffset.toNat + offset.toNat < 65536

/-- The keyboard register, moved when the window is at `0xC400`. -/
def KeyboardMoved (profile : BoardProfile) (device : EcDevice) : Prop :=
  device.offsets.regKbdBacklight.toNat = profile.offsets.regKbdBacklight.toNat +
    if device.hramOffset = 0xC400 then 0xC000 else 0

theorem Detection.keyboardMoved (detection : Detection) :
    KeyboardMoved detection.profile detection.device := by
  obtain ⟨profile, base, _⟩ := detection
  change (profile.offsets.detectedAt base).offsets.regKbdBacklight.toNat =
    profile.offsets.regKbdBacklight.toNat + if base = 0xC400 then 0xC000 else 0
  by_cases moved : base = 0xC400
  · simp only [EcOffsets.detectedAt, if_pos moved]
    cases profile <;> decide
  · simp only [EcOffsets.detectedAt, if_neg moved, Nat.add_zero]

theorem Detection.fits (detection : Detection) {port : UInt16} (probed : port ∈ probePorts) :
    DetectedDevice.Fits { port, device := detection.device } where
  port := by
    have below : (probePorts.all fun port => port.toNat + 1 < 65536) = true := by decide
    exact of_decide_eq_true (List.all_eq_true.mp below port probed)
  cells register offset cell := by
    refine ⟨EcDevice.address_cell cell, ?_⟩
    have low := detection.cell_lt cell
    have high : detection.base.toNat ≤ 57344 := by
      have possible := detection.possible
      simp only [possibleBases, List.mem_cons, List.not_mem_nil, or_false] at possible
      obtain same | same | same | same | same := possible <;> rw [same] <;> decide
    have base : detection.device.hramOffset = detection.base := rfl
    rw [base]
    omega

/-- What was read before a device was found, and how the device follows from it. -/
structure Detected (motherboard : String) (insecureMode : Bool) (reads : List ProbeRead)
    (found : DetectedDevice) : Prop where
  searched : ∃ (failed : List (List ProbeRead)) (last window : List ProbeRead),
    reads = failed.flatten ++ last ++ window ∧ failed.length < probeAttempts ∧
    (∀ round ∈ failed, Misses insecureMode round) ∧ Selects insecureMode last found.port ∧
    FirstOf (fun base => (found.port, base + (boardProfile motherboard).offsets.ramTempCpu))
      plausibleTemp possibleBases window found.device.hramOffset
  detection : ∃ detection : Detection, detection.profile = boardProfile motherboard ∧
    found.device = detection.device
  keyboard : KeyboardMoved (boardProfile motherboard) found.device
  fits : found.Fits

/-- Why no device was found. -/
def Undetected (opened : Except Failure Unit) (motherboard : String) (insecureMode : Bool)
    (reads : List ProbeRead) : Prop :=
  (∃ failure, opened = .error failure ∧ reads = []) ∨
  (∃ failed : List (List ProbeRead), reads = failed.flatten ∧ failed.length = probeAttempts ∧
    ∀ round ∈ failed, Misses insecureMode round) ∨
  ∃ (failed : List (List ProbeRead)) (last window : List ProbeRead) (port : UInt16),
    reads = failed.flatten ++ last ++ window ∧ failed.length < probeAttempts ∧
    (∀ round ∈ failed, Misses insecureMode round) ∧ Selects insecureMode last port ∧
    Passed (fun base => (port, base + (boardProfile motherboard).offsets.ramTempCpu))
      plausibleTemp possibleBases window

def Describes (opened : Except Failure Unit) (motherboard : String) (insecureMode : Bool)
    (reads : List ProbeRead) : Except Failure DetectedDevice → Prop
  | .ok found => Detected motherboard insecureMode reads found
  | .error _ => Undetected opened motherboard insecureMode reads

theorem FirstOf.mem {α : Type} {target : α → UInt16 × UInt16} {qualifies : UInt8 → Bool}
    {candidates : List α} {reads : List ProbeRead} {chosen : α}
    (first : FirstOf target qualifies candidates reads chosen) : chosen ∈ candidates := by
  obtain ⟨before, rest, _, _, split, _⟩ := first
  rw [split]
  simp

theorem Selects.probed {round : List ProbeRead} {port : UInt16}
    (selects : Selects insecureMode round port) : port ∈ probePorts := by
  obtain first | ⟨_, _, rfl⟩ := selects
  · exact first.mem
  · decide

/-- Every result of the detection is accounted for by the reads. -/
theorem newDevice_runs {opened : Except Failure Unit} {motherboard : String}
    {result : Except Failure DetectedDevice} {reads : List ProbeRead}
    (ran : (newDevice opened motherboard insecureMode).Runs recording [] result reads) :
    Describes opened motherboard insecureMode reads result := by
  cases opened with
  | error failure =>
      obtain ⟨rfl, rfl⟩ := ran
      exact .inl ⟨failure, rfl, rfl⟩
  | ok _ =>
      obtain ⟨failure, rfl, went⟩ | ⟨port, middle, went, rest⟩ := runs_bind.mp (show Runs recording
        (probeRounds insecureMode (probeAttempts - 1) >>= _) [] result reads from ran)
      · obtain ⟨_, rfl, failed, same, count, missed⟩ := probeRounds_runs went
        exact .inr (.inl ⟨failed, same, count, missed⟩)
      · obtain ⟨_, rfl, failed, last, rfl, count, missed, selects⟩ := probeRounds_runs went
        have few : failed.length < probeAttempts := Nat.lt_succ_of_le count
        obtain ⟨_, _, impossible⟩ | ⟨window, reached, looked, ended⟩ := runs_bind.mp rest
        · obtain ⟨_, impossible', _⟩ := runs_always.mp impossible
          cases impossible'
        · obtain ⟨_, same, searching⟩ := runs_always.mp looked
          cases same
          obtain ⟨reads', rfl, searched⟩ := search_runs searching
          cases window with
          | none =>
              obtain ⟨rfl, rfl⟩ := ended
              exact .inr (.inr ⟨failed, last, reads', port, rfl, few, missed, selects, searched⟩)
          | some base =>
              have possible : base ∈ possibleBases := FirstOf.mem searched
              have distinct : base ≠ 0xFF := by
                intro same
                exact absurd (same ▸ possible) (by decide)
              let detection : Detection := ⟨boardProfile motherboard, base, possible⟩
              change Runs recording (if base = 0xFF then throw _ else pure ⟨port, detection.device⟩)
                _ result reads at ended
              rw [if_neg distinct] at ended
              obtain ⟨rfl, rfl⟩ := ended
              exact ⟨⟨failed, last, reads', rfl, few, missed, selects, searched⟩,
                ⟨detection, rfl, rfl⟩, detection.keyboardMoved, detection.fits selects.probed⟩

/-- Reads over ports that are probed, and waiting. -/
def Probing : ProbeOp → Prop
  | .readReg port _ => port ∈ probePorts
  | .sleep _ => True

theorem search_uses {α : Type} {target : α → UInt16 × UInt16} {qualifies : UInt8 → Bool}
    {candidates : List α} (aimed : ∀ candidate ∈ candidates, (target candidate).1 ∈ probePorts) :
    (search target qualifies candidates).Uses Probing := by
  induction candidates with
  | nil => trivial
  | cons candidate rest later =>
      obtain ⟨first, others⟩ := List.forall_mem_cons.mp aimed
      refine ⟨first, fun reply => ?_⟩
      cases reply with
      | error failure => exact later others
      | ok value =>
          change (if qualifies value then pure (some candidate)
            else search target qualifies rest).Uses Probing
          split
          · trivial
          · exact later others

theorem probeChip_uses : (probeChip insecureMode).Uses Probing := by
  refine uses_bind (uses_always (search_uses fun _ => id)) fun found => ?_
  cases found with
  | some port => exact uses_pure port
  | none => cases insecureMode <;> trivial

theorem probeRounds_uses (further : Nat) : (probeRounds insecureMode further).Uses Probing := by
  induction further with
  | zero => exact probeChip_uses
  | succ further later =>
      refine Program.Uses.bind probeChip_uses fun outcome => ?_
      cases outcome with
      | ok port => trivial
      | error failure => exact ⟨trivial, fun _ => later⟩

theorem recording_free (operation : ProbeOp) (reply : probeOps.Reply operation)
    (reads : List ProbeRead) : ∃ choice, (recording operation choice reads).1 = reply := by
  cases operation with
  | readReg port addr => exact ⟨reply, rfl⟩
  | sleep ms => exact ⟨.ok 0, rfl⟩

theorem probeRounds_probed (further : Nat) :
    Returns (· ∈ probePorts) (probeRounds insecureMode further) := by
  refine returns_of_runs [] recording_free fun port after ran => ?_
  obtain ⟨_, _, _, _, _, _, _, selects⟩ := probeRounds_runs ran
  exact selects.probed

theorem newDevice_uses (opened : Except Failure Unit) (motherboard : String) :
    (newDevice opened motherboard insecureMode).Uses Probing := by
  refine uses_bind (uses_attempt trivial) fun _ => ?_
  refine uses_bind_returns (probeRounds_uses _) (probeRounds_probed _) fun port probed => ?_
  refine uses_bind (uses_always (search_uses fun _ _ => probed)) fun window => ?_
  change Uses (I := probeOps) Probing (if window.getD 0xFF = 0xFF then throw _ else pure _)
  split
  · exact uses_throw _
  · exact uses_pure _

/-- What the ports answer an access: whether it fails, the byte that is read, and what the EC
memory holds at that moment. -/
structure PortAnswer where
  fails : Bool
  value : UInt8
  memory : EcMemory

instance : Inhabited PortAnswer := ⟨⟨false, 0, fun _ => 0⟩⟩

/-- A chip, and for the record the registers it was made to write. -/
structure Watched where
  chip : Chip
  written : List (UInt16 × UInt8)

/-- The register write that a byte for a port brings about. -/
def Chip.written (index : UInt16) (chip : Chip) (port : UInt16) (value : UInt8) :
    List (UInt16 × UInt8) :=
  if port = index + 1 ∧ port ≠ index ∧ chip.selected = 0x2F ∧ chip.indirect = 0x12 then
    [(chip.addr, value)]
  else
    []

/-- The chip behind the given index port, whatever its memory and the ports do over time. -/
def watched (index : UInt16) : Semantics portOps PortAnswer Watched
  | .outb port value, answer, state =>
      let chip := { state.chip with memory := answer.memory }
      if answer.fails then
        (.error (.error s!"outb failed at port {hexPort port}"), { state with chip })
      else
        (.ok (), ⟨chip.poke index port value, state.written ++ chip.written index port value⟩)
  | .inb port, answer, state =>
      let chip := { state.chip with memory := answer.memory }
      if answer.fails then
        (.error (.error s!"inb failed at port {hexPort port}"), { state with chip })
      else
        (.ok answer.value, { state with chip })

/-- Each read goes over the ports, which answer the accesses of its transaction as chosen, and is
recorded. -/
def transacting (index : UInt16) : Semantics probeOps (List PortAnswer) (Watched × List ProbeRead)
  | .readReg port addr, answers, (state, reads) =>
      let (reply, state) := (RawPortIo.readReg port addr).run.run (watched index) answers state
      (reply, state, reads ++ [⟨port, addr, reply⟩])
  | .sleep _, _, state => ((), state)

/-- None of the bytes makes the chip write a register, whatever is in its memory meanwhile. -/
def Chip.Quiet (index : UInt16) : Chip → List (UInt16 × UInt8) → Prop
  | _, [] => True
  | chip, (port, value) :: pokes => chip.written index port value = [] ∧
      ∀ memory, (Chip.poke index { chip with memory := memory } port value).Quiet index pokes

/-- Setting up an address writes none, whatever the latches hold. -/
theorem Chip.quiet_addressing (chip : Chip) (index addr : UInt16) :
    chip.Quiet index (addressing index addr) := by
  simp [addressing, Quiet, written, poke]

/-- A chip takes no notice of ports that are not its own data port. -/
theorem Chip.quiet_elsewhere {index : UInt16} {pokes : List (UInt16 × UInt8)}
    (elsewhere : ∀ poked ∈ pokes, poked.1 ≠ index + 1) (chip : Chip) : chip.Quiet index pokes := by
  induction pokes generalizing chip with
  | nil => trivial
  | cons poked pokes later =>
      obtain ⟨first, others⟩ := List.forall_mem_cons.mp elsewhere
      exact ⟨if_neg fun write => first write.1, fun memory => later others _⟩

theorem Chip.quiet_probed {index port : UInt16} (chip : Chip) (addr : UInt16)
    (watching : index ∈ probePorts) (probed : port ∈ probePorts) :
    chip.Quiet index (addressing port addr) := by
  by_cases own : port = index
  · rw [own]
    exact chip.quiet_addressing index addr
  · have apart : (probePorts.all fun index => probePorts.all fun port =>
        port = index ∨ port ≠ index + 1 ∧ port + 1 ≠ index + 1) = true := by
      decide
    have pair := List.all_eq_true.mp (List.all_eq_true.mp apart index watching) port probed
    obtain ⟨address, data⟩ := (of_decide_eq_true pair).resolve_left own
    refine Chip.quiet_elsewhere (fun poked mem => ?_) chip
    simp only [addressing, List.mem_cons, List.not_mem_nil, or_false] at mem
    obtain rfl | rfl | rfl | rfl | rfl | rfl | rfl | rfl | rfl | rfl | rfl := mem <;> assumption

variable {index : UInt16}

theorem outbs_written {pokes : List (UInt16 × UInt8)} {before after : Watched}
    {result : Except Failure Unit} (quiet : before.chip.Quiet index pokes)
    (ran : (outbs pokes).Runs (watched index) before result after) :
    after.written = before.written := by
  induction pokes generalizing before with
  | nil => exact congrArg Watched.written ran.2
  | cons poked pokes later =>
      obtain ⟨port, value⟩ := poked
      obtain ⟨silent, still⟩ := quiet
      obtain ⟨answer, went⟩ := ran
      cases failed : answer.fails with
      | true =>
          simp only [watched, failed, if_true] at went
          obtain ⟨_, rfl⟩ := went
          rfl
      | false =>
          simp only [watched, failed, Bool.false_eq_true, if_false] at went
          refine (later ?_ went).trans ((congrArg _ silent).trans (List.append_nil _))
          exact still answer.memory

theorem readReg_written {port : UInt16} (addr : UInt16) (watching : index ∈ probePorts)
    (probed : port ∈ probePorts) {before after : Watched} {reply : Except Failure UInt8}
    (ran : (RawPortIo.readReg port addr).Runs (watched index) before reply after) :
    after.written = before.written := by
  have quiet := before.chip.quiet_probed addr watching probed
  rw [readReg_eq] at ran
  obtain ⟨_, _, addressed⟩ | ⟨_, middle, addressed, answer, answered⟩ := runs_bind.mp ran
  · exact outbs_written quiet addressed
  · have unchanged := outbs_written quiet addressed
    cases failed : answer.fails <;>
      simp only [watched, failed, Bool.false_eq_true, if_false, if_true] at answered <;>
      · obtain ⟨_, rfl⟩ := answered
        exact unchanged

theorem transacting_written {operation : ProbeOp} (watching : index ∈ probePorts)
    (probing : Probing operation) (answers : List PortAnswer) (state : Watched × List ProbeRead) :
    (transacting index operation answers state).2.1.written = state.1.written := by
  cases operation with
  | sleep ms => rfl
  | readReg port addr =>
      exact readReg_written addr watching probing (Program.run_runs _ answers state.1)

theorem newDevice_silent (opened : Except Failure Unit) (motherboard : String)
    (watching : index ∈ probePorts) :
    (newDevice opened motherboard insecureMode).Ensures (transacting index)
      (fun state => state.1.written = []) fun _ state => state.1.written = [] := by
  refine Program.Uses.ensures (newDevice_uses opened motherboard) ?_
  intro operation answers state probing silent
  rw [transacting_written watching probing, silent]

/-- What is recorded does not depend on where the replies come from. -/
theorem recording_of_transacting {α : Type} {program : Program probeOps α} {result : α}
    {before after : Watched × List ProbeRead}
    (ran : program.Runs (transacting index) before result after) :
    program.Runs recording before.2 result after.2 := by
  refine program.uses_any.transfer Prod.snd (fun operation answers state _ => ?_) ran
  cases operation with
  | readReg port addr => exact ⟨_, rfl⟩
  | sleep ms => exact ⟨.ok 0, rfl⟩

/-- Whatever the ports and the memory answer over time, the detection writes no register of a
chip behind a probed port, and its result follows from what was read: the first port of the
last round and the first window that qualify. -/
theorem newDevice_detects (opened : Except Failure Unit) (motherboard : String)
    (insecureMode : Bool) :
    ∀ index ∈ probePorts, ∀ (answers : List (List PortAnswer)) (chip : Chip),
      let ran := Program.run (transacting index)
        (newDevice opened motherboard insecureMode).run answers (⟨chip, []⟩, [])
      ran.2.1.written = [] ∧ Describes opened motherboard insecureMode ran.2.2 ran.1 := by
  intro index watching answers chip
  have ran : Program.Runs (transacting index) (newDevice opened motherboard insecureMode).run
      (⟨chip, []⟩, []) _ _ := Program.run_runs _ answers _
  constructor
  · exact newDevice_silent opened motherboard watching _ _ _ rfl ran
  · exact newDevice_runs (recording_of_transacting ran)

/-- The chip answers in the second round, the third candidate is the window. -/
def lateAnswers : List (List PortAnswer) :=
  [failing, answering 0xFF, answering 0xFF, [], answering 0xFF, answering 0x81,
    failing, answering 0x50, answering 0x30]
where
  failing := [{ (default : PortAnswer) with fails := true }]
  answering value := List.replicate 11 default ++ [{ (default : PortAnswer) with value }]

theorem newDevice_detects_late :
    let ran := Program.run (transacting 0x4E) (newDevice (.ok ()) "NL155 N155D" false).run
      lateAnswers (⟨brokenOff, []⟩, [])
    ran.1 = .ok ⟨0x4E, EcOffsets.defaultN155D.detectedAt 0x0400⟩ ∧ ran.2.1.written = [] ∧
      Describes (.ok ()) "NL155 N155D" false ran.2.2 ran.1 :=
  ⟨rfl, newDevice_detects (.ok ()) "NL155 N155D" false 0x4E (by decide) lateAnswers brokenOff⟩

end Lecoo.Ec
