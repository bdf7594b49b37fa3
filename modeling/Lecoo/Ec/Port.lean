import Lecoo.Effects.Mutex
import Lecoo.Daemon.World

namespace Lecoo.Ec

open Lecoo.Effects Lecoo.Data Fallible

/-! # Register accesses over the I/O ports

The registers are behind two ports of the Super I/O chip.  One transaction is
twelve port accesses, each of which may fail and then has no effect.
-/

inductive PortOp where
  | outb (port : UInt16) (value : UInt8)
  | inb (port : UInt16)

@[reducible] def portOps : Interface where
  Operation := PortOp
  Reply
    | .outb _ _ => Except Failure Unit
    | .inb _ => Except Failure UInt8

namespace RawPortIo

def outb (port : UInt16) (value : UInt8) : Fallible portOps Failure Unit :=
  attempt (Program.request (I := portOps) (.outb port value))

def inb (port : UInt16) : Fallible portOps Failure UInt8 :=
  attempt (Program.request (I := portOps) (.inb port))

/-- `read_reg` of a batch on the given index port. -/
def readReg (port addr : UInt16) : Fallible portOps Failure UInt8 := do
  let addrHigh := (addr >>> 8).toUInt8
  let addrLow := (addr &&& 0xFF).toUInt8
  outb port 0x2E
  outb (port + 1) 0x11
  outb port 0x2F
  outb (port + 1) addrHigh
  outb port 0x2E
  outb (port + 1) 0x10
  outb port 0x2F
  outb (port + 1) addrLow
  outb port 0x2E
  outb (port + 1) 0x12
  outb port 0x2F
  inb (port + 1)

def writeReg (port addr : UInt16) (value : UInt8) : Fallible portOps Failure Unit := do
  let addrHigh := (addr >>> 8).toUInt8
  let addrLow := (addr &&& 0xFF).toUInt8
  outb port 0x2E
  outb (port + 1) 0x11
  outb port 0x2F
  outb (port + 1) addrHigh
  outb port 0x2E
  outb (port + 1) 0x10
  outb port 0x2F
  outb (port + 1) addrLow
  outb port 0x2E
  outb (port + 1) 0x12
  outb port 0x2F
  outb (port + 1) value

end RawPortIo

/-- The latches of the indirect interface and the EC memory behind it. -/
structure Chip where
  /-- What the index port selects: the indirect address (`0x2E`) or data (`0x2F`). -/
  selected : UInt8
  indirect : UInt8
  addrHigh : UInt8
  addrLow : UInt8
  memory : EcMemory

namespace Chip

def addr (chip : Chip) : UInt16 := (chip.addrHigh.toUInt16 <<< 8) ||| chip.addrLow.toUInt16

/-- A byte arrives at a port of the chip whose index port is given. -/
def poke (index : UInt16) (chip : Chip) (port : UInt16) (value : UInt8) : Chip :=
  if port = index then
    { chip with selected := value }
  else if port = index + 1 ∧ chip.selected = 0x2E then
    { chip with indirect := value }
  else if port = index + 1 ∧ chip.selected = 0x2F then
    match chip.indirect with
    | 0x11 => { chip with addrHigh := value }
    | 0x10 => { chip with addrLow := value }
    | 0x12 => { chip with memory := chip.memory.write chip.addr value }
    | _ => chip
  else
    chip

def peek (index : UInt16) (chip : Chip) (port : UInt16) : UInt8 :=
  if port = index + 1 ∧ chip.selected = 0x2F then
    match chip.indirect with
    | 0x11 => chip.addrHigh
    | 0x10 => chip.addrLow
    | 0x12 => chip.memory chip.addr
    | _ => 0xFF
  else
    0xFF

def pokeAll (index : UInt16) (chip : Chip) (pokes : List (UInt16 × UInt8)) : Chip :=
  pokes.foldl (fun chip poked => chip.poke index poked.1 poked.2) chip

end Chip

/-- `{:#X}` of a port. -/
def hexPort (port : UInt16) : String := "0x" ++ (String.ofList (Nat.toDigits 16 port.toNat)).toUpper

/-- The choice is whether the access fails. -/
def portSemantics (index : UInt16) : Semantics portOps Bool Chip
  | .outb port value, false, chip => (.ok (), chip.poke index port value)
  | .outb port _, true, chip => (.error (.error s!"outb failed at port {hexPort port}"), chip)
  | .inb port, false, chip => (.ok (chip.peek index port), chip)
  | .inb port, true, chip => (.error (.error s!"inb failed at port {hexPort port}"), chip)

def outbs : List (UInt16 × UInt8) → Fallible portOps Failure Unit
  | [] => pure ()
  | (port, value) :: rest => do
      RawPortIo.outb port value
      outbs rest

/-- The accesses that make the data port stand for the byte at an address. -/
def addressing (port addr : UInt16) : List (UInt16 × UInt8) :=
  [(port, 0x2E), (port + 1, 0x11), (port, 0x2F), (port + 1, (addr >>> 8).toUInt8),
    (port, 0x2E), (port + 1, 0x10), (port, 0x2F), (port + 1, (addr &&& 0xFF).toUInt8),
    (port, 0x2E), (port + 1, 0x12), (port, 0x2F)]

theorem readReg_eq (port addr : UInt16) :
    RawPortIo.readReg port addr =
      outbs (addressing port addr) >>= fun _ => RawPortIo.inb (port + 1) := by
  simp only [RawPortIo.readReg, addressing, outbs, bind_assoc, pure_bind]

theorem writeReg_eq (port addr : UInt16) (value : UInt8) :
    RawPortIo.writeReg port addr value =
      outbs (addressing port addr) >>= fun _ => RawPortIo.outb (port + 1) value := by
  simp only [RawPortIo.writeReg, addressing, outbs, bind_assoc, pure_bind]

theorem addr_of_bytes (addr : UInt16) :
    ((addr >>> 8).toUInt8.toUInt16 <<< 8) ||| (addr &&& 0xFF).toUInt8.toUInt16 = addr := by
  apply UInt16.toNat_inj.mp
  have bound := addr.toNat_lt
  have low : addr.toNat &&& (0xFF : UInt16).toNat = addr.toNat % 256 :=
    Nat.and_two_pow_sub_one_eq_mod addr.toNat 8
  have width : (8 : UInt16).toNat % 16 = 8 := by decide
  simp only [UInt16.toNat_or, UInt16.toNat_shiftLeft, UInt8.toNat_toUInt16,
    UInt16.toNat_toUInt8, UInt16.toNat_shiftRight, UInt16.toNat_and]
  rw [low, width, Nat.shiftRight_eq_div_pow, Nat.shiftLeft_eq, Nat.mod_mod]
  have joined : addr.toNat / 256 * 2 ^ 8 + addr.toNat % 256 =
      addr.toNat / 256 * 2 ^ 8 ||| addr.toNat % 256 := by
    rw [← Nat.shiftLeft_eq]
    exact Nat.shiftLeft_add_eq_or_of_lt (by omega) (addr.toNat / 256)
  have high : addr.toNat / 2 ^ 8 % 2 ^ 8 * 2 ^ 8 % 2 ^ 16 = addr.toNat / 256 * 2 ^ 8 := by omega
  rw [high, ← joined]
  omega

namespace Chip

variable {port : UInt16} {chip : Chip}

/-- While an address is set up the EC memory stays as it is, wherever the set-up stops. -/
theorem pokeAll_addressing_memory (addr : UInt16) (made : Nat) :
    (chip.pokeAll port ((addressing port addr).take made)).memory = chip.memory := by
  rcases made with _ | _ | _ | _ | _ | _ | _ | _ | _ | _ | _ | made <;>
    simp [addressing, pokeAll, poke]

/-- The chip once the data port stands for the byte at an address. -/
def addressed (chip : Chip) (addr : UInt16) : Chip where
  selected := 0x2F
  indirect := 0x12
  addrHigh := (addr >>> 8).toUInt8
  addrLow := (addr &&& 0xFF).toUInt8
  memory := chip.memory

theorem pokeAll_addressing (addr : UInt16) :
    chip.pokeAll port (addressing port addr) = chip.addressed addr := by
  simp [addressing, pokeAll, poke, addressed]

theorem addressed_addr (addr : UInt16) : (chip.addressed addr).addr = addr := addr_of_bytes addr

theorem peek_addressed (addr : UInt16) :
    (chip.addressed addr).peek port (port + 1) = chip.memory addr := by
  rw [peek, addressed_addr]
  simp [addressed]

theorem poke_addressed (addr : UInt16) (value : UInt8) :
    ((chip.addressed addr).poke port (port + 1) value).memory = chip.memory.write addr value := by
  rw [poke, addressed_addr]
  simp [addressed]

end Chip

variable {index : UInt16} {chip : Chip}

/-- Either every byte arrives and the computation goes on, or one access fails and
only the bytes before it have arrived. -/
theorem run_outbs {α : Type} (index : UInt16) (rest : Unit → Fallible portOps Failure α)
    (pokes : List (UInt16 × UInt8)) (choices : List Bool) (chip : Chip) :
    (true ∉ choices.take pokes.length →
      Program.run (portSemantics index) (outbs pokes >>= rest).run choices chip =
        Program.run (portSemantics index) (rest ()).run (choices.drop pokes.length)
          (chip.pokeAll index pokes)) ∧
    (true ∈ choices.take pokes.length → ∃ message, ∃ made < pokes.length,
      Program.run (portSemantics index) (outbs pokes >>= rest).run choices chip =
        (.error (.error message), chip.pokeAll index (pokes.take made))) := by
  induction pokes generalizing choices chip with
  | nil => exact ⟨fun _ => rfl, fun impossible => absurd impossible (by simp)⟩
  | cons poked pokes ih =>
      obtain ⟨port, value⟩ := poked
      have assoc : outbs ((port, value) :: pokes) >>= rest =
          RawPortIo.outb port value >>= fun _ => outbs pokes >>= rest := bind_assoc _ _ _
      rw [assoc]
      rcases choices with _ | ⟨_ | _, choices⟩
      · obtain ⟨arrived, _⟩ := ih [] (chip.poke index port value)
        simp only [List.take_nil, List.drop_nil] at arrived ⊢
        exact ⟨arrived, fun impossible => absurd impossible List.not_mem_nil⟩
      · obtain ⟨arrived, stopped⟩ := ih choices (chip.poke index port value)
        constructor
        · intro fine
          exact arrived fun failed => fine (List.mem_cons_of_mem _ failed)
        · intro failed
          obtain ⟨message, made, bound, ended⟩ :=
            stopped ((List.mem_cons.mp failed).resolve_left (by simp))
          exact ⟨message, made + 1, Nat.succ_lt_succ bound, ended⟩
      · exact ⟨fun fine => absurd List.mem_cons_self fine,
          fun _ => ⟨_, 0, Nat.succ_pos _, rfl⟩⟩

/-- Whether one of the twelve accesses of a transaction fails. -/
def Interrupted (choices : List Bool) : Prop :=
  true ∈ choices.take 11 ∨ (choices.drop 11).headD default = true

theorem interrupted_iff {choices : List Bool} : Interrupted choices ↔ true ∈ choices.take 12 := by
  have split : choices.take 12 = choices.take 11 ++ (choices.drop 11).take 1 :=
    (List.take_add : choices.take (11 + 1) = _)
  rw [split, List.mem_append, Interrupted]
  cases choices.drop 11 <;> simp [eq_comm]

/-- A transaction breaks off while the address is set up, or it comes down to its
last access. -/
theorem run_addressing {α : Type} (last : Fallible portOps Failure α) (addr : UInt16)
    (choices : List Bool) (chip : Chip) :
    let ran := Program.run (portSemantics index)
      (outbs (addressing index addr) >>= fun _ => last).run choices chip
    (true ∈ choices.take 11 ∧ ran.2.memory = chip.memory ∧
      ∃ message, ran.1 = .error (.error message)) ∨
    (true ∉ choices.take 11 ∧
      ran = Program.run (portSemantics index) last.run (choices.drop 11) (chip.addressed addr)) := by
  obtain ⟨arrived, stopped⟩ :=
    run_outbs index (fun _ => last) (addressing index addr) choices chip
  by_cases early : true ∈ choices.take 11
  · obtain ⟨message, made, _, ended⟩ := stopped early
    rw [ended]
    exact .inl ⟨early, Chip.pokeAll_addressing_memory addr made, message, rfl⟩
  · rw [arrived early, Chip.pokeAll_addressing]
    exact .inr ⟨early, rfl⟩

/-- A read brings the byte of the memory, whatever is in the latches. -/
theorem run_readReg (index addr : UInt16) (choices : List Bool) (chip : Chip) :
    let ran := Program.run (portSemantics index) (RawPortIo.readReg index addr).run choices chip
    ran.2.memory = chip.memory ∧
      (¬ Interrupted choices → ran.1 = .ok (chip.memory addr)) ∧
      (Interrupted choices → ∃ message, ran.1 = .error (.error message)) := by
  rw [readReg_eq]
  rcases run_addressing (RawPortIo.inb (index + 1)) addr choices chip with
    ⟨early, kept, failed⟩ | ⟨late, ran⟩
  · exact ⟨kept, fun fine => absurd (.inl early) fine, fun _ => failed⟩
  · have answered : Program.run (portSemantics index) (RawPortIo.inb (index + 1)).run
        (choices.drop 11) (chip.addressed addr) =
          portSemantics index (.inb (index + 1)) ((choices.drop 11).headD default)
            (chip.addressed addr) := rfl
    rw [ran, answered, Interrupted]
    cases (choices.drop 11).headD default with
    | false =>
        refine ⟨rfl, fun _ => congrArg Except.ok (Chip.peek_addressed addr), fun failed => ?_⟩
        exact absurd failed (by simpa using late)
    | true => exact ⟨rfl, fun fine => absurd (.inr rfl) fine, fun _ => ⟨_, rfl⟩⟩

/-- A write changes the addressed byte and no other one, or it fails and changes none. -/
theorem run_writeReg (index addr : UInt16) (value : UInt8) (choices : List Bool) (chip : Chip) :
    let ran := Program.run (portSemantics index) (RawPortIo.writeReg index addr value).run choices
      chip
    (¬ Interrupted choices → ran.1 = .ok () ∧ ran.2.memory = chip.memory.write addr value) ∧
      (Interrupted choices → ran.2.memory = chip.memory ∧
        ∃ message, ran.1 = .error (.error message)) := by
  rw [writeReg_eq]
  rcases run_addressing (RawPortIo.outb (index + 1) value) addr choices chip with
    ⟨early, broken⟩ | ⟨late, ran⟩
  · exact ⟨fun fine => absurd (.inl early) fine, fun _ => broken⟩
  · have answered : Program.run (portSemantics index) (RawPortIo.outb (index + 1) value).run
        (choices.drop 11) (chip.addressed addr) =
          portSemantics index (.outb (index + 1) value) ((choices.drop 11).headD default)
            (chip.addressed addr) := rfl
    rw [ran, answered, Interrupted]
    cases (choices.drop 11).headD default with
    | false =>
        refine ⟨fun _ => ⟨rfl, Chip.poke_addressed addr value⟩, fun failed => ?_⟩
        exact absurd failed (by simpa using late)
    | true => exact ⟨fun fine => absurd (.inr rfl) fine, fun _ => ⟨rfl, _, rfl⟩⟩

/-- The accesses to the ports that stand for an access to a register. -/
def transaction (port : UInt16) : (access : Access) → Program portOps (registers.Reply access)
  | .read addr => (RawPortIo.readReg port addr).run
  | .write addr value => (RawPortIo.writeReg port addr value).run

/-- A transaction is an access to the memory of the chip, failing or not. -/
theorem transaction_refines (port : UInt16) :
    Refines (fun (chip : Chip) memory => chip.memory = memory) (portSemantics port)
      accessSemantics (transaction port) := by
  intro access before after reply above same ran
  subst same
  obtain ⟨choices, computed⟩ := Program.runs_iff_run.mp ran
  cases access with
  | read addr =>
      obtain ⟨kept, fine, failed⟩ := run_readReg port addr choices before
      rw [transaction] at computed
      rw [computed] at kept fine failed
      by_cases interrupted : Interrupted choices
      · obtain ⟨message, broken⟩ := failed interrupted
        exact ⟨some message, broken.symm, kept⟩
      · exact ⟨none, (fine interrupted).symm, kept⟩
  | write addr value =>
      obtain ⟨fine, failed⟩ := run_writeReg port addr value choices before
      rw [transaction] at computed
      rw [computed] at fine failed
      by_cases interrupted : Interrupted choices
      · obtain ⟨kept, message, broken⟩ := failed interrupted
        exact ⟨some message, broken.symm, kept⟩
      · obtain ⟨answered, written⟩ := fine interrupted
        exact ⟨none, answered.symm, written⟩

/-- A closure handed to `with_batch`, with the type of its result. -/
inductive BatchOp : Type 1 where
  | batch {α : Type} (body : EcBatch α)

@[reducible] def batchOps : Interface.{1} where
  Operation := BatchOp
  Reply
    | .batch (α := α) _ => Except Failure α

/-- A batch as one step on the memory: the choices say which accesses fail. -/
def batchSemantics : Semantics batchOps (List (Option String)) EcMemory
  | .batch body, failures, memory => Program.run accessSemantics body.run failures memory

/-- The closure with its register accesses made through the ports. -/
def portBatch (port : UInt16) : (operation : BatchOp) → Program portOps (batchOps.Reply operation)
  | .batch body => body.run.expand (transaction port)

theorem portBatch_refines (port : UInt16) :
    Refines (fun (chip : Chip) memory => chip.memory = memory) (portSemantics port)
      batchSemantics (portBatch port) := by
  intro operation before after reply above same ran
  cases operation with
  | batch body =>
      obtain ⟨reached, went, later⟩ := (transaction_refines port).runs same ran
      obtain ⟨failures, computed⟩ := Program.runs_iff_run.mp went
      have stepped : batchSemantics (.batch body) failures above = (reply, reached) := computed
      exact ⟨failures, congrArg Prod.fst stepped, later.trans (congrArg Prod.snd stepped).symm⟩

theorem daemonSemantics_batch {α : Type} (codec : Daemon.SettingsCodec) (thread : Daemon.ThreadId)
    (body : EcBatch α) (choice : Daemon.Choice) (world : Daemon.World) :
    Daemon.daemonSemantics codec thread (.batch body) choice world =
      let answered := batchSemantics (.batch body) choice.accesses world.ec
      (answered.1, { world with ec := answered.2 }) := rfl

/-- Threads that make their register accesses through the ports, under the I/O lock. -/
abbrev PortRun {ι J α : Type} [DecidableEq ι] (port : UInt16) (code : J → Program batchOps α) :=
  Pool.Run (fun job => inSections (portBatch port) (code job))
    (fun (thread : ι) _ => lockedSemantics (portSemantics port) thread) AwaitsLock

/-- A transaction reads or changes the addressed byte and no other one from whatever
the latches hold, a failing access before its end leaves the memory alone, and any
number of threads find the memory as if each of their batches were one step. -/
theorem ports_refine_memory (port : UInt16) :
    (∀ (addr : UInt16) (choices : List Bool) (chip : Chip),
      let ran := Program.run (portSemantics port) (RawPortIo.readReg port addr).run choices chip
      ran.2.memory = chip.memory ∧
        (true ∉ choices.take 12 → ran.1 = .ok (chip.memory addr)) ∧
        (true ∈ choices.take 12 → ∃ message, ran.1 = .error (.error message))) ∧
    (∀ (addr : UInt16) (value : UInt8) (choices : List Bool) (chip : Chip),
      let ran := Program.run (portSemantics port) (RawPortIo.writeReg port addr value).run choices
        chip
      (true ∉ choices.take 12 → ran.1 = .ok () ∧ ran.2.memory = chip.memory.write addr value) ∧
        (true ∈ choices.take 12 → ran.2.memory = chip.memory ∧
          ∃ message, ran.1 = .error (.error message))) ∧
    ∀ {ι J α : Type} [DecidableEq ι] (code : J → Program batchOps α) (chip : Chip)
      (events : List (Event ι J Bool)) (after : Pool (locked portOps) ι J α (Locked ι Chip)),
      PortRun port code (.idle { holder := none, shared := chip }) events after →
      ∃ steps reached, Pool.Run code (fun _ _ => batchSemantics) (fun _ _ => True)
        (.idle chip.memory) steps reached ∧
        (after.world.holder = none → after.world.shared.memory = reached.world) ∧
        ∀ thread, after.world.holder ≠ some thread →
          after.thread thread = (reached.thread thread).map (sectioned (portBatch port)) := by
  refine ⟨fun addr choices chip => ?_, fun addr value choices chip => ?_, ?_⟩
  · rw [← interrupted_iff]
    exact run_readReg _ addr choices chip
  · rw [← interrupted_iff]
    exact run_writeReg _ addr value choices chip
  · intro ι J α _ code chip events after ran
    obtain ⟨steps, reached, went, simulates⟩ :=
      Simulates.run (portBatch_refines port) ran (simulates_idle rfl)
    exact ⟨steps, reached, went, simulates.free, simulates.outside⟩

/-- The chip after a transaction that was broken off. -/
def brokenOff : Chip where
  selected := 0x2F
  indirect := 0x10
  addrHigh := 0xC4
  addrLow := 0x55
  memory := fun _ => 0

/-- Writes a register and reads it back, in one batch. -/
def writeThenRead : Program batchOps (Except Failure UInt8) :=
  Program.request (I := batchOps) (.batch do
    EcBatch.writeReg 0x1234 7
    EcBatch.readReg 0x1234)

/-- One thread is through with its batch while another one has waited for the lock. -/
theorem ports_refine_memory_waiting :
    ∃ events after, PortRun 0x4E (fun (_ : Unit) => writeThenRead)
        (.idle { holder := none, shared := brokenOff }) events after ∧
      after.thread 0 = none ∧ after.world.shared.memory 0x1234 = 7 ∧
      ∃ reached : Pool batchOps Nat Unit _ EcMemory, after.world.shared.memory = reached.world ∧
        ∀ thread, after.thread thread =
          (reached.thread thread).map (sectioned (portBatch 0x4E)) := by
  have checked : (Pool.replay (fun (_ : Unit) => inSections (portBatch 0x4E) writeThenRead)
      (fun (thread : Nat) _ => lockedSemantics (portSemantics 0x4E) thread) awaitsNow
      (.idle { holder := none, shared := brokenOff })
      ([.start 0 (), .start 1 ()] ++ Pool.turns 0 26 ++ [.finish 0])).any (fun pool =>
        (pool.thread 0).isNone && pool.world.holder.isNone &&
          pool.world.shared.memory 0x1234 == 7) = true := by
    decide +kernel
  obtain ⟨after, replayed, checked⟩ := (Option.any_eq_true _ _).mp checked
  simp only [Bool.and_eq_true, Option.isNone_iff_eq_none, beq_iff_eq] at checked
  obtain ⟨⟨ended, free⟩, stored⟩ := checked
  have ran := Pool.run_of_replay awaitsNow_sound replayed
  obtain ⟨_, _, pooled⟩ := ports_refine_memory 0x4E
  obtain ⟨_, reached, _, same, threads⟩ := pooled _ _ _ _ ran
  exact ⟨_, after, ran, ended, stored, reached, same free,
    fun thread => threads thread (by simp [free])⟩

end Lecoo.Ec
