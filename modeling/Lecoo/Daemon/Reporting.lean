import Lecoo.Effects.Monitor
import Lecoo.Daemon.Jobs

namespace Lecoo.Ipc.TelemetryData

def isSample : TelemetryData → Bool
  | .status _ _ _ => true
  | _ => false

/-- Temperatures of one byte and speeds of two. -/
def InRange : TelemetryData → Prop
  | .status _ temps fans => temps.1 ≤ 0xFF ∧ temps.2 ≤ 0xFF ∧ fans.1 ≤ 0xFFFF ∧ fans.2 ≤ 0xFFFF
  | _ => True

end Lecoo.Ipc.TelemetryData

namespace Lecoo.Daemon

open Lecoo.Effects Lecoo.Ipc Lecoo.Ec Fallible

/-! # What the telemetry worker posts

The threads of the daemon report into a channel.  One worker takes the reports
out again and posts them; when none has come for a while it posts a sample.
-/

/-- The daemon with a record of its reports and posts. -/
structure Reporting where
  world : World
  /-- What was put into the channel, with the job that did it. -/
  reported : List (Job × TelemetryData)
  /-- What the worker has taken out and not posted. -/
  hand : Option TelemetryData
  posts : List TelemetryPayload

/-- A process that has just started. -/
def Reporting.begun (memory : EcMemory) (stateFile : Option (List UInt8)) : Reporting :=
  ⟨World.fresh memory stateFile, [], none, []⟩

def reportingSemantics (codec : SettingsCodec) (thread : ThreadId) (job : Job) :
    Semantics daemonOps Choice Reporting
  | .queueTelemetry data, choice, state =>
      let answered := daemonSemantics codec thread (.queueTelemetry data) choice state.world
      (answered.1, { state with
        world := answered.2
        reported := if state.world.channelOpen then state.reported ++ [(job, data)]
          else state.reported })
  | .receiveTelemetry, choice, state =>
      let answered := daemonSemantics codec thread .receiveTelemetry choice state.world
      (answered.1, { state with world := answered.2, hand := answered.1 })
  | .postTelemetry payload, choice, state =>
      let answered := daemonSemantics codec thread (.postTelemetry payload) choice state.world
      (answered.1, { state with
        world := answered.2, hand := none, posts := state.posts ++ [payload] })
  | operation, choice, state =>
      let answered := daemonSemantics codec thread operation choice state.world
      (answered.1, { state with world := answered.2 })

/-- The worker is one thread. -/
def Tended (worker : ThreadId) (_pool : DaemonPool Reporting) : Event ThreadId Job Choice → Prop
  | .start thread .workerRound => thread = worker
  | _ => True

/-- What a job may report of itself. -/
def Job.Reports (ec : EcDevice) : Job → TelemetryData → Prop
  | .panicReport message, data => data = .panic message
  | .startUp host, data => ∃ chipId1 chipId2 chipVer : UInt8, data = .startup
      s!"IT{hexByteUpper chipId1}{hexByteUpper chipId2}-{hexByteUpper chipVer}" ec.hramOffset
      host.cpuName host.osName host.motherboard
  | _, _ => False

/-- The operations of a job that leaves the posting to the worker. -/
def DaemonOp.Defers (ec : EcDevice) (job : Job) : DaemonOp → Prop
  | .queueTelemetry data => job.Reports ec data
  | .receiveTelemetry | .postTelemetry _ => False
  | _ => True

/-- Follows the worker with what it has in hand. -/
def courier : Monitor daemonOps (Option TelemetryData) where
  permits
    | hand, .postTelemetry payload =>
        hand = some payload.data ∨ (payload.data.isSample = true ∧ payload.data.InRange)
    | _, .queueTelemetry _ => False
    | _, _ => True
  next
    | _, .receiveTelemetry, received => received
    | _, .postTelemetry _, _ => none
    | hand, _, _ => hand

variable {codec : SettingsCodec} {ec : EcDevice} {worker thread : ThreadId} {job : Job}

theorem Job.Reports.notSample {data : TelemetryData} (reports : job.Reports ec data) :
    data.isSample = false := by
  cases job with
  | panicReport message =>
      cases reports
      rfl
  | startUp host =>
      obtain ⟨_, _, _, rfl⟩ := reports
      rfl
  | _ => exact reports.elim

theorem defers_covers (ec : EcDevice) (job : Job) : Covers ec (DaemonOp.Defers ec job) := by
  refine (usual_covers ec).mono fun operation usual => ?_
  cases usual with
  | reads reads => cases operation <;> trivial
  | file onFile => cases operation <;> trivial
  | _ => trivial

theorem announce_defers (host : SystemInfo) (settings : CurrentSettings) :
    Uses (DaemonOp.Defers ec (.startUp host)) (announce ec host settings) := by
  have publishes : Uses (DaemonOp.Defers ec (.startUp host)) Io.publishEc :=
    uses_always (Io.uses_perform trivial)
  refine uses_bind ?_ fun _ => ?_
  · refine uses_bind (uses_always (Io.uses_perform trivial)) fun _ => ?_
    refine uses_bind (uses_always (Io.uses_perform trivial)) fun _ => ?_
    refine uses_bind (uses_always (Io.uses_perform trivial)) fun _ => ?_
    exact uses_always (Io.uses_perform trivial)
  · cases enabled : settings.telemetryEnabled with
    | false =>
        simp only [Bool.false_eq_true, if_false]
        exact publishes
    | true =>
        simp only [if_true]
        refine uses_bind (reads_uses (defers_covers ec _) (readSystemInfo_reads ec)) fun chip => ?_
        refine uses_bind ?_ fun _ => publishes
        refine uses_bind (uses_always (Io.uses_perform trivial)) fun isEnabled => ?_
        cases isEnabled with
        | false => exact uses_pure _
        | true => exact uses_always (Io.uses_perform ⟨chip.1, chip.2.1, chip.2.2, rfl⟩)

theorem Job.work_defers (other : job ≠ .workerRound) :
    Uses (DaemonOp.Defers ec job) (job.work ec) := by
  have covers : Covers ec (DaemonOp.Defers ec job) := defers_covers ec job
  cases job with
  | request asked =>
      refine uses_bind (doWork_uses ec ?_) fun _ => uses_pure _
      by_cases activate : ∃ isEnabled, asked = .daemonCommand (.activateTelemetry isEnabled)
      · obtain ⟨isEnabled, rfl⟩ := activate
        exact activateTelemetry_uses covers isEnabled trivial
      · exact handleRequest_uses covers fun isEnabled same => activate ⟨isEnabled, same⟩
  | connectionReset => exact uses_bind (saveOnReset_uses covers) fun _ => uses_pure _
  | event happened => exact uses_bind (processEvent_uses covers happened) fun _ => uses_pure _
  | workerRound => exact absurd rfl other
  | panicReport message =>
      refine uses_bind (uses_bind (uses_always (Io.uses_perform trivial)) fun isEnabled => ?_)
        fun _ => uses_pure _
      cases isEnabled with
      | false => exact uses_pure _
      | true => exact uses_always (Io.uses_perform rfl)
  | startUp host =>
      refine uses_bind ?_ fun _ => uses_pure _
      rw [startUp_eq]
      refine uses_bind (loadOrDefault_uses covers) fun settings => ?_
      refine uses_bind (Io.uses_ok? (restoreState_uses ec covers.setters settings)) fun _ => ?_
      refine uses_bind (announce_defers host settings) fun _ => ?_
      exact uses_always (Io.uses_perform trivial)

theorem sample_inRange (profile : PowerProfile) (cpuTemp sysTemp : UInt8) (cpuRpm gpuRpm : UInt16) :
    (TelemetryData.status profile (cpuTemp.toUInt32, sysTemp.toUInt32)
      (cpuRpm.toUInt32, gpuRpm.toUInt32)).InRange := by
  have byte : ∀ value : UInt8, value.toUInt32 ≤ 0xFF := by
    intro value
    have bound := value.toNat_lt
    rw [UInt32.le_iff_toNat_le, UInt8.toNat_toUInt32]
    exact Nat.le_of_lt_succ bound
  have word : ∀ value : UInt16, value.toUInt32 ≤ 0xFFFF := by
    intro value
    have bound := value.toNat_lt
    rw [UInt32.le_iff_toNat_le, UInt16.toNat_toUInt32]
    exact Nat.le_of_lt_succ bound
  exact ⟨byte cpuTemp, byte sysTemp, word cpuRpm, word gpuRpm⟩

/-- A round posts what it has received, or a sample it has taken. -/
theorem Telemetry.workerRound_heeds (ec : EcDevice) (hand : Option TelemetryData) :
    Fallible.Heeds courier (fun _ _ => True) (Telemetry.workerRound ec) hand := by
  have reads : ∀ {α : Type} {computation : Io α} {rest : Option α → Io Unit},
      Uses DaemonOp.ReadsEc computation →
      (∀ value, Fallible.Heeds courier (fun _ _ => True) (rest value) none) →
      Fallible.Heeds courier (fun _ _ => True) (Io.ok? computation >>= rest) none := by
    intro α computation rest reads later
    refine Program.Heeds.bind (Program.Uses.heeds (Io.uses_ok? reads)
      (fun operation reads => by cases operation <;> trivial)
      (fun operation _ reads => by cases operation <;> trivial)) fun middle outcome same => ?_
    subst same
    cases outcome with
    | error error => trivial
    | ok value => exact later value
  refine ⟨trivial, fun received => ?_⟩
  cases received with
  | some message =>
      refine ⟨trivial, fun isEnabled => ?_⟩
      cases isEnabled with
      | false => trivial
      | true => exact ⟨trivial, fun _ => ⟨.inl rfl, fun _ => trivial⟩⟩
  | none =>
      refine ⟨trivial, fun isEnabled => ?_⟩
      cases isEnabled with
      | false => trivial
      | true =>
          refine ⟨trivial, fun published => ?_⟩
          cases published with
          | false => trivial
          | true =>
              refine reads (readPowerProfile_reads ec) fun profile => ?_
              cases profile with
              | none => trivial
              | some profile =>
                  refine reads (readTemperatures_reads ec) fun temps => ?_
                  cases temps with
                  | none => trivial
                  | some temps =>
                      refine reads (readFansRpm_reads ec) fun fans => ?_
                      cases fans with
                      | none => trivial
                      | some fans =>
                          exact ⟨trivial, fun _ => ⟨.inr ⟨rfl, sample_inRange _ _ _ _ _⟩,
                            fun _ => trivial⟩⟩

theorem Job.workerRound_heeds (ec : EcDevice) (hand : Option TelemetryData) :
    (Job.workerRound.work ec).run.Heeds courier (fun _ _ => True) hand :=
  heeds_bind (Telemetry.workerRound_heeds ec hand) (fun _ _ _ => trivial) fun _ _ _ => trivial

/-- The posted data that are no samples. -/
def Reporting.delivered (state : Reporting) : List TelemetryData :=
  (state.posts.map TelemetryPayload.data).filter fun data => !data.isSample

/-- Reports come from jobs that make them, and are posted at most once and in their order;
samples are in range. -/
structure Conveyed (ec : EcDevice) (state : Reporting) : Prop where
  sourced : ∀ entry ∈ state.reported, entry.1.Reports ec entry.2
  ordered : List.Sublist (state.delivered ++ state.hand.toList ++ state.world.telemetryQueue)
    (state.reported.map Prod.snd)
  sampled : ∀ payload ∈ state.posts, payload.data.isSample = true → payload.data.InRange

theorem conveyed_begun (memory : EcMemory) (stateFile : Option (List UInt8)) :
    Conveyed ec (.begun memory stateFile) where
  sourced := fun entry member => by cases member
  ordered := List.Sublist.refl _
  sampled := fun payload member => by cases member

section Steps

variable {state : Reporting} {operation : DaemonOp}

theorem daemonSemantics_queue (codec : SettingsCodec) (thread : ThreadId) {operation : DaemonOp}
    (queues : ∀ data, operation ≠ .queueTelemetry data) (receives : operation ≠ .receiveTelemetry)
    (choice : Choice) (world : World) :
    (daemonSemantics codec thread operation choice world).2.telemetryQueue =
      world.telemetryQueue := by
  cases operation with
  | queueTelemetry data => exact absurd rfl (queues data)
  | receiveTelemetry => exact absurd rfl receives
  | tryLockState | createStateFile | decodeStateFile =>
      simp only [daemonSemantics]
      split <;> rfl
  | _ => rfl

theorem Conveyed.other (conveyed : Conveyed ec state)
    (queues : ∀ data, operation ≠ .queueTelemetry data) (receives : operation ≠ .receiveTelemetry)
    (posts : ∀ payload, operation ≠ .postTelemetry payload) (choice : Choice) :
    Conveyed ec (reportingSemantics codec thread job operation choice state).2 ∧
    (reportingSemantics codec thread job operation choice state).2.hand = state.hand := by
  have same : (reportingSemantics codec thread job operation choice state).2 =
      { state with world := (daemonSemantics codec thread operation choice state.world).2 } := by
    cases operation with
    | queueTelemetry data => exact absurd rfl (queues data)
    | receiveTelemetry => exact absurd rfl receives
    | postTelemetry payload => exact absurd rfl (posts payload)
    | _ => rfl
  rw [same]
  refine ⟨⟨conveyed.sourced, ?_, conveyed.sampled⟩, rfl⟩
  have ordered := conveyed.ordered
  rw [← daemonSemantics_queue codec thread queues receives choice state.world] at ordered
  exact ordered

theorem Conveyed.queue (conveyed : Conveyed ec state) {data : TelemetryData}
    (reports : job.Reports ec data) (choice : Choice) :
    Conveyed ec (reportingSemantics codec thread job (.queueTelemetry data) choice state).2 := by
  cases opened : state.world.channelOpen with
  | false =>
      simp only [reportingSemantics, daemonSemantics, opened, Bool.false_eq_true, if_false]
      exact ⟨conveyed.sourced, conveyed.ordered, conveyed.sampled⟩
  | true =>
      simp only [reportingSemantics, daemonSemantics, opened, if_true]
      refine ⟨?_, ?_, conveyed.sampled⟩
      · intro entry member
        rcases List.mem_append.mp member with earlier | now
        · exact conveyed.sourced entry earlier
        · cases List.mem_singleton.mp now
          exact reports
      · rw [List.map_append, ← List.append_assoc]
        exact conveyed.ordered.append (List.Sublist.refl [data])

theorem Conveyed.defers (conveyed : Conveyed ec state) (defers : operation.Defers ec job)
    (choice : Choice) :
    Conveyed ec (reportingSemantics codec thread job operation choice state).2 ∧
    (reportingSemantics codec thread job operation choice state).2.hand = state.hand := by
  cases operation with
  | queueTelemetry data => exact ⟨conveyed.queue defers choice, rfl⟩
  | receiveTelemetry => exact defers.elim
  | postTelemetry payload => exact defers.elim
  | _ => exact conveyed.other (by simp) (by simp) (by simp) choice

/-- What the worker had in hand is given up when it takes the next report. -/
theorem Conveyed.receive (conveyed : Conveyed ec state) (choice : Choice) :
    Conveyed ec (reportingSemantics codec thread job .receiveTelemetry choice state).2 := by
  have dropped : List.Sublist (state.delivered ++ state.world.telemetryQueue)
      (state.reported.map Prod.snd) := by
    refine List.Sublist.trans ?_ conveyed.ordered
    exact (List.sublist_append_left state.delivered state.hand.toList).append (.refl _)
  cases queue : state.world.telemetryQueue with
  | nil =>
      simp only [reportingSemantics, daemonSemantics, queue]
      rw [queue] at dropped
      refine ⟨conveyed.sourced, ?_, conveyed.sampled⟩
      simpa [Reporting.delivered, queue] using dropped
  | cons data rest =>
      simp only [reportingSemantics, daemonSemantics, queue]
      rw [queue] at dropped
      refine ⟨conveyed.sourced, ?_, conveyed.sampled⟩
      simpa [Reporting.delivered] using dropped

theorem Conveyed.post (conveyed : Conveyed ec state) {payload : TelemetryPayload}
    (permitted : courier.permits state.hand (.postTelemetry payload)) (choice : Choice) :
    Conveyed ec (reportingSemantics codec thread job (.postTelemetry payload) choice state).2 := by
  have ordered := conveyed.ordered
  simp only [reportingSemantics, daemonSemantics]
  rcases permitted with held | ⟨sample, inRange⟩
  · have reported : payload.data ∈ state.reported.map Prod.snd := by
      refine ordered.subset ?_
      simp [held]
    obtain ⟨entry, member, same⟩ := List.mem_map.mp reported
    have notSample : payload.data.isSample = false := by
      rw [← same]
      exact (conveyed.sourced entry member).notSample
    refine ⟨conveyed.sourced, ?_, ?_⟩
    · rw [held] at ordered
      simpa [Reporting.delivered, notSample] using ordered
    · intro other member sample
      rcases List.mem_append.mp member with earlier | now
      · exact conveyed.sampled other earlier sample
      · cases List.mem_singleton.mp now
        rw [notSample] at sample
        cases sample
  · refine ⟨conveyed.sourced, ?_, ?_⟩
    · have dropped := (List.sublist_append_left state.delivered state.hand.toList).append
        (List.Sublist.refl state.world.telemetryQueue)
      simpa [Reporting.delivered, sample] using dropped.trans ordered
    · intro other member sample
      rcases List.mem_append.mp member with earlier | now
      · exact conveyed.sampled other earlier sample
      · cases List.mem_singleton.mp now
        exact inRange

theorem Conveyed.courier (conveyed : Conveyed ec state)
    (permitted : courier.permits state.hand operation) (choice : Choice) :
    Conveyed ec (reportingSemantics codec thread job operation choice state).2 ∧
    (reportingSemantics codec thread job operation choice state).2.hand =
      courier.next state.hand operation
        (reportingSemantics codec thread job operation choice state).1 := by
  cases operation with
  | queueTelemetry data => exact permitted.elim
  | receiveTelemetry => exact ⟨conveyed.receive choice, rfl⟩
  | postTelemetry payload => exact ⟨conveyed.post permitted choice, rfl⟩
  | _ => exact conveyed.other (by simp) (by simp) (by simp) choice

end Steps

/-- A thread works a round of the worker, or leaves the posting to it. -/
def Reporting.Own (ec : EcDevice) (worker : ThreadId) (state : Reporting) (thread : ThreadId)
    (activity : Activity daemonOps Job (Except Failure (Option IpcResponse))) : Prop :=
  (thread = worker ∧ activity.todo.Heeds courier (fun _ _ => True) state.hand) ∨
    activity.todo.Uses (DaemonOp.Defers ec activity.job)

structure Conveying (ec : EcDevice) (worker : ThreadId) (pool : DaemonPool Reporting) : Prop where
  conveyed : Conveyed ec pool.world
  own : pool.Each (Reporting.Own ec worker)

theorem Conveying.next {codec : SettingsCodec} {event : Event ThreadId Job Choice}
    {before after : DaemonPool Reporting} (conveying : Conveying ec worker before)
    (tended : Tended worker before event)
    (stepped : before.next (fun job => (job.work ec).run) (reportingSemantics codec) event =
      some after) : Conveying ec worker after := by
  cases event with
  | start thread job =>
      obtain ⟨_, rfl⟩ := Pool.next_start.mp stepped
      refine ⟨conveying.conveyed, conveying.own.move ?_ fun _ _ _ own => own⟩
      by_cases round : job = .workerRound
      · subst round
        exact .inl ⟨tended, Job.workerRound_heeds ec _⟩
      · exact .inr (Job.work_defers round)
  | act thread choice =>
      obtain ⟨job, operation, rest, running, rfl⟩ := Pool.next_act.mp stepped
      rcases conveying.own thread _ running with ⟨rfl, permitted, later⟩ | ⟨defers, later⟩
      · obtain ⟨conveyed, hand⟩ := conveying.conveyed.courier permitted choice
        refine ⟨conveyed, conveying.own.move (.inl ⟨rfl, ?_⟩) fun other activity different own => ?_⟩
        · rw [hand]
          exact later _
        · rcases own with ⟨same, _⟩ | uses
          · exact absurd same different
          · exact .inr uses
      · obtain ⟨conveyed, hand⟩ := conveying.conveyed.defers defers choice
        refine ⟨conveyed, conveying.own.move (.inr (later _)) fun other activity different own => ?_⟩
        rcases own with ⟨same, heeds⟩ | uses
        · exact .inl ⟨same, hand.symm ▸ heeds⟩
        · exact .inr uses
  | finish thread =>
      obtain ⟨_, _, _, rfl⟩ := Pool.next_finish.mp stepped
      exact ⟨conveying.conveyed, conveying.own.finish⟩

/-- What has been posted stays. -/
theorem posts_grow {codec : SettingsCodec} {event : Event ThreadId Job Choice}
    {before after : DaemonPool Reporting}
    (stepped : before.next (fun job => (job.work ec).run) (reportingSemantics codec) event =
      some after) : before.world.posts <+: after.world.posts := by
  cases event with
  | start thread job =>
      obtain ⟨_, rfl⟩ := Pool.next_start.mp stepped
      exact List.prefix_refl _
  | act thread choice =>
      obtain ⟨job, operation, rest, _, rfl⟩ := Pool.next_act.mp stepped
      cases operation with
      | postTelemetry payload => exact List.prefix_append _ _
      | _ => exact List.prefix_refl _
  | finish thread =>
      obtain ⟨_, _, _, rfl⟩ := Pool.next_finish.mp stepped
      exact List.prefix_refl _

theorem conveying_begun (ec : EcDevice) (worker : ThreadId) (memory : EcMemory)
    (stateFile : Option (List UInt8)) :
    Conveying ec worker (Pool.idle (.begun memory stateFile)) :=
  ⟨conveyed_begun memory stateFile, fun thread activity running => by cases running⟩

end Lecoo.Daemon
