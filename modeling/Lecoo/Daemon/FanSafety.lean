import Lecoo.Daemon.FanOverride

namespace Lecoo.Daemon

open Lecoo.Effects Lecoo.Ipc Lecoo.Ec Lecoo.Data

/-! # The limit of the fan duties

Every register write of the daemon is noted together with the batch it belongs
to.  Whatever the jobs and whatever fails, only `apply_fan_mode` writes a duty
cell, and never more than its limit.
-/

variable {codec : SettingsCodec} {ec : EcDevice} {thread : ThreadId}

/-- The batch is the one that `apply_fan_mode` makes for some fan and mode. -/
def ByFanMode (ec : EcDevice) {α : Type} (body : EcBatch α) : Prop :=
  ∃ fan mode rest, (applyFanMode ec fan mode).run = .perform (.batch body) rest

structure RegisterWrite where
  addr : UInt16
  value : UInt8
  byFanMode : Prop

/-- Notes every write, whether it gets through or not. -/
def auditAccess : Semantics registers (Option String) (EcMemory × List (UInt16 × UInt8))
  | .read addr, choice, (memory, writes) =>
      let answered := accessSemantics (.read addr) choice memory
      (answered.1, (answered.2, writes))
  | .write addr value, choice, (memory, writes) =>
      let answered := accessSemantics (.write addr value) choice memory
      (answered.1, (answered.2, (addr, value) :: writes))

/-- The daemon and the register writes it has made since its start. -/
structure Audited where
  world : World
  writes : List RegisterWrite

def auditedSemantics (codec : SettingsCodec) (ec : EcDevice) (thread : ThreadId) (_job : Job) :
    Semantics daemonOps Choice Audited
  | .batch body, choice, state =>
      let answered := daemonSemantics codec thread (.batch body) choice state.world
      let made := (Program.run auditAccess body.run choice.accesses (state.world.ec, [])).2.2
      (answered.1, {
        world := answered.2
        writes := made.map (fun write => ⟨write.1, write.2, ByFanMode ec body⟩) ++ state.writes })
  | operation, choice, state =>
      let answered := daemonSemantics codec thread operation choice state.world
      (answered.1, { state with world := answered.2 })

/-- A duty cell gets at most 220, and only from `apply_fan_mode`. -/
def RegisterWrite.Safe (ec : EcDevice) (write : RegisterWrite) : Prop :=
  ∀ fan : FanIndex, write.addr = ec.hramOffset + fan.asU16 → write.value ≤ 220 ∧ write.byFanMode

def SparesDuty (ec : EcDevice) : Access → Prop
  | .read _ => True
  | .write addr _ => ∀ fan, addr ≠ ec.address (.fanDuty fan)

def WithinLimit (ec : EcDevice) : Access → Prop
  | .read _ => True
  | .write addr value => ∀ fan, addr = ec.address (.fanDuty fan) → value ≤ 220

def DaemonOp.DutySafe (ec : EcDevice) : DaemonOp → Prop
  | .batch body => Fallible.Uses (SparesDuty ec) body ∨
      (ByFanMode ec body ∧ Fallible.Uses (WithinLimit ec) body)
  | _ => True

theorem fanRequest_limit {fan : FanIndex} {mode : FanMode}
    (valid : (Setter.fanMode fan mode).Valid) : (fanRequest mode).2 ≤ 220 := by
  cases mode with
  | custom duty => exact valid
  | _ => decide

/-- A setter makes its batches on other cells, or it is `apply_fan_mode`. -/
theorem setterBatch_dutySafe (apart : FansApart ec) {setter : Setter} (valid : setter.Valid)
    {ledCustom : Bool} {portA : UInt8} {writes : List (Register × UInt8)}
    (member : .batch writes ∈ setter.steps ec ledCustom portA) :
    DaemonOp.DutySafe ec (.batch (EcBatch.writes (ec.place writes))) := by
  by_cases fans : ∃ fan mode, setter = .fanMode fan mode
  · obtain ⟨fan, mode, rfl⟩ := fans
    obtain rfl := Setter.eq_of_fanMode_batch member
    right
    constructor
    · refine ⟨fan, mode, Program.done, ?_⟩
      rw [applyFanMode_eq fan valid, fanSteps, script_last]
      rfl
    · refine EcBatch.writes_uses fun placed placedMember other shared => ?_
      obtain ⟨entry, written, rfl⟩ := List.mem_map.mp placedMember
      have duty := apart.duty entry.1 other shared
      simp only [List.mem_cons, List.not_mem_nil, or_false] at written
      rcases written with rfl | rfl
      · cases duty
      · exact fanRequest_limit valid
  · left
    refine EcBatch.writes_uses fun placed placedMember fan shared => ?_
    obtain ⟨entry, written, rfl⟩ := List.mem_map.mp placedMember
    have own := setter.steps_feature ledCustom portA entry (mem_registerWrites member written)
    rw [apart.duty entry.1 fan shared] at own
    cases setter with
    | fanMode other mode => exact fans ⟨other, mode, rfl⟩
    | _ => cases own

theorem dutySafe_covers (apart : FansApart ec) : Covers ec (DaemonOp.DutySafe ec) where
  reads := by
    intro operation reads
    cases operation with
    | batch body =>
        refine .inl (Program.Uses.mono (fun access isRead => ?_) reads)
        cases access with
        | read addr => trivial
        | write addr value => cases isRead
    | _ => trivial
  setters := fun setter =>
    apply_uses ec setter trivial (.inl ⟨trivial, fun _ => trivial⟩) fun valid _ _ =>
      script_uses ec (fun _ member => setterBatch_dutySafe apart valid member) fun _ => trivial
  file := by
    intro operation onFile
    cases operation with
    | batch body => cases onFile
    | _ => trivial
  tryLock := trivial
  unlock := trivial
  readState := trivial
  writeState := fun _ => trivial
  clock := trivial

theorem Job.work_dutySafe (apart : FansApart ec) (job : Job) :
    Fallible.Uses (DaemonOp.DutySafe ec) (job.work ec) := by
  refine job.work_uses (dutySafe_covers apart) fun operation other => ?_
  cases operation with
  | batch body => exact absurd trivial other
  | _ => trivial

theorem auditAccess_noted {α : Type} {permitted : Access → Prop} {body : EcBatch α}
    (uses : Fallible.Uses permitted body) (choices : List (Option String)) (memory : EcMemory) :
    ∀ write ∈ (Program.run auditAccess body.run choices (memory, [])).2.2,
      permitted (.write write.1 write.2) := by
  refine Program.Uses.preserves
    (fun before after : EcMemory × List (UInt16 × UInt8) =>
      (∀ write ∈ before.2, permitted (.write write.1 write.2)) →
        ∀ write ∈ after.2, permitted (.write write.1 write.2))
    uses (fun _ => id) (fun first second => second ∘ first) ?_
    (Program.run_runs _ choices (memory, [])) (fun _ member => absurd member List.not_mem_nil)
  intro access choice state allowed earlier write member
  cases access with
  | read addr => exact earlier write member
  | write addr value =>
      rcases List.mem_cons.mp member with rfl | member
      · exact allowed
      · exact earlier write member

theorem auditedSemantics_safe {operation : DaemonOp} (safe : operation.DutySafe ec) (job : Job)
    (choice : Choice) {state : Audited} (earlier : ∀ write ∈ state.writes, write.Safe ec) :
    ∀ write ∈ (auditedSemantics codec ec thread job operation choice state).2.writes,
      write.Safe ec := by
  cases operation with
  | batch body =>
      intro write member
      rcases List.mem_append.mp member with now | before
      · obtain ⟨made, noted, rfl⟩ := List.mem_map.mp now
        intro fan same
        rcases safe with spares | ⟨byFanMode, within⟩
        · exact absurd same (auditAccess_noted spares _ _ made noted fan)
        · exact ⟨auditAccess_noted within _ _ made noted fan same, byFanMode⟩
      · exact earlier write before
  | _ => exact earlier

structure DutyInvariant (ec : EcDevice) (pool : DaemonPool Audited) : Prop where
  safe : ∀ write ∈ pool.world.writes, write.Safe ec
  todo : pool.Each fun _ _ activity => Program.Uses (DaemonOp.DutySafe ec) activity.todo

/-- From any state of the EC, the file and the settings, under any requests, events and
failures, a duty cell never gets more than 220, and nothing from anyone but `apply_fan_mode`. -/
theorem fanDuties_safe (detection : Detection) {world : World}
    {events : List (Event ThreadId Job Choice)} {pool : DaemonPool Audited}
    (ran : DaemonRun detection.device (auditedSemantics codec detection.device) (fun _ _ => True)
      (Pool.idle ⟨world, []⟩) events pool) :
    ∀ write ∈ pool.world.writes, write.Safe detection.device := by
  have apart := fansApart detection
  have initially : DutyInvariant detection.device (Pool.idle ⟨world, []⟩) := by
    refine ⟨?_, ?_⟩
    · intro write member
      cases member
    · intro thread activity running
      cases running
  have held : DutyInvariant detection.device pool := by
    refine ran.invariant_of_steps ?_ ?_ ?_ initially
    · intro pool thread job held _ _
      exact ⟨held.safe, held.todo.move (job.work_dutySafe apart) fun _ _ _ own => own⟩
    · intro pool thread choice job operation rest held _ running
      obtain ⟨safe, later⟩ := held.todo thread _ running
      exact ⟨auditedSemantics_safe safe job choice held.safe,
        held.todo.move (later _) fun _ _ _ own => own⟩
    · exact fun held _ _ => ⟨held.safe, held.todo.finish⟩
  exact held.safe

/-- A duty above the limit is refused, one at the limit is written. -/
theorem fanDuties_safe_atLimit :
    ∃ pool : DaemonPool Audited,
      pool.world.writes.map (fun write => (write.addr, write.value)) =
        [(0xC44D, 220), (0xC44E, 0x40)] ∧
      ∀ write ∈ pool.world.writes, write.Safe Detection.n155a.device := by
  have replays : (Pool.replay (fun job : Job => (job.work Detection.n155a.device).run)
      (auditedSemantics .bincode Detection.n155a.device) (fun _ _ => true)
      (Pool.idle ⟨World.fresh (fun _ => 0) none, []⟩)
      (Pool.solo 0 (.request (.setFanMode .cpu (.custom 221))) [] ++
        Pool.solo 1 (.request (.setFanMode .gpu (.custom 220))) (List.replicate 5 default))).any
        (fun pool => pool.world.writes.map (fun write => (write.addr, write.value)) ==
          [(0xC44D, 220), (0xC44E, 0x40)]) = true := by
    decide +kernel
  obtain ⟨pool, replayed, checked⟩ := (Option.any_eq_true _ _).mp replays
  have ran := Pool.run_of_replay (fun _ _ _ => trivial) replayed
  exact ⟨pool, beq_iff_eq.mp checked, fanDuties_safe Detection.n155a ran⟩

end Lecoo.Daemon
