import Lecoo.Server.Accounting
import Lecoo.Server.Dispatch
import Lecoo.Daemon.Reporting

namespace Lecoo.Server

open Lecoo.Effects Lecoo.Ipc Lecoo.Ipc.TelemetryFormat Lecoo.Daemon Lecoo.Ec

/-! # From a report to its row

A daemon posts to the server over a network that may lose a post, hold it back
or break it off.  Anybody else may post as well, and the server handles all
requests at once.
-/

structure Collection where
  daemon : DaemonPool Reporting
  server : ServerPool
  /-- The threads of the server that were given a post of the daemon, and which. -/
  carried : List (ThreadId × Nat)

inductive Occurrence where
  | daemon (event : Event Daemon.ThreadId Job Choice)
  /-- A step of the server, or a request of somebody else. -/
  | server (event : ServerEvent)
  | deliver (thread : ThreadId) (post : Nat) (request : HttpRequest)

/-- The request has what the network let through of the payload. -/
structure Carries (charges : Charges) (payload : TelemetryPayload) (request : HttpRequest) :
    Prop where
  /-- The body was a `Vec`. -/
  short : ((telemetryPayload charges).encode payload).length < 2 ^ 64
  received : ∀ bytes, request.body = .ok bytes → bytes <+: (telemetryPayload charges).encode payload

def collection (codec : SettingsCodec) (ec : EcDevice) (charges : Charges) :
    Collection → Occurrence → Option Collection
  | state, .daemon event =>
      (state.daemon.next (fun job => (job.work ec).run) (reportingSemantics codec) event).map
        fun daemon => { state with daemon }
  | state, .server event =>
      (state.server.next (handle charges) (fun thread _ => serverSemantics thread) event).map
        fun server => { state with server }
  | state, .deliver thread post request =>
      (state.server.next (handle charges) (fun thread _ => serverSemantics thread)
        (.start thread request)).map fun server =>
          { state with server, carried := (thread, post) :: state.carried }

/-- A post is delivered at most once. -/
def Collectable (charges : Charges) (worker : Daemon.ThreadId) (state : Collection) :
    Occurrence → Prop
  | .daemon event => Tended worker state.daemon event
  | .server event => Spawned state.server event
  | .deliver _ post request => post ∉ state.carried.map Prod.snd ∧
      ∃ payload, state.daemon.world.posts[post]? = some payload ∧ Carries charges payload request

abbrev CollectionRun (codec : SettingsCodec) (ec : EcDevice) (charges : Charges)
    (worker : Daemon.ThreadId) : Collection → List Occurrence → Collection → Prop :=
  Trace (collection codec ec charges) (Collectable charges worker)

/-- A daemon and a server that have both just started. -/
def Collection.begun (memory : EcMemory) (stateFile : Option (List UInt8)) (db : Database) :
    Collection :=
  ⟨Pool.idle (.begun memory stateFile), .idle (.opened db), []⟩

/-- The rows that are there because of a post. -/
def Collection.rowsOf (state : Collection) (post : Nat) : List ParsedRow :=
  state.server.world.db.events.filter fun row =>
    state.carried.any fun entry => entry.2 == post && row.author == some entry.1

/-- The row of a payload, but for the motherboard where the network broke it off
or the decoder did not reach it. -/
def Tells (row : ParsedRow) (payload : TelemetryPayload) : Prop :=
  row.parsed = parsed payload ∨ row.parsed = parsedV1 (withoutMotherboard payload)

variable {codec : SettingsCodec} {ec : EcDevice} {charges : Charges} {worker : Daemon.ThreadId}
  {db : Database} {before after : Collection} {happened : Occurrence}

theorem decoded_received {payload : TelemetryPayload} {bytes : List UInt8} {event : Parsed}
    (short : ((telemetryPayload charges).encode payload).length < 2 ^ 64)
    (received : bytes <+: (telemetryPayload charges).encode payload)
    (read : decoded charges bytes = some event) :
    event = parsed payload ∨ event = parsedV1 (withoutMotherboard payload) := by
  by_cases complete : bytes = (telemetryPayload charges).encode payload
  · rw [complete, decoded_current short] at read
    split at read
    · exact .inl (Option.some.inj read).symm
    · split at read
      · exact .inr (Option.some.inj read).symm
      · cases read
  · have current : (telemetryPayload charges).read decodeLimit bytes = none :=
      telemetryPayload_whole payload bytes decodeLimit short received complete
    rw [encode_current] at received short complete
    rw [List.length_append] at short
    rw [decoded, current, Option.map_none, Option.none_or] at read
    rcases Data.Metered.prefix_pieces received complete with ⟨inside, differs⟩ | ⟨tail, rfl, _⟩
    · have old := telemetryPayloadV1_whole (withoutMotherboard payload) bytes decodeLimit
        (by omega) inside differs
      rw [old] at read
      cases read
    · rw [(telemetryPayloadV1 charges).read_encode _ _ _ (by omega)] at read
      split at read
      · exact .inr (Option.some.inj read).symm
      · cases read

/-- The raw rows of a thread hold its request's body. -/
theorem Place.raw {server : ServerState} {thread : ThreadId} {request : HttpRequest}
    {todo : Task Unit} (place : Place charges server thread request todo) :
    ∀ raw ∈ (server.deeds thread).raw, request.body = .ok raw.rawData := by
  have accounted : ∀ {raw events status}, Accounted request raw events status →
      ∀ row ∈ raw, request.body = .ok row.rawData := by
    intro raw events status accounted row member
    cases accounted with
    | recorded raw event body => exact List.mem_singleton.mp member ▸ body
    | kept raw body => exact List.mem_singleton.mp member ▸ body
    | failed raw few body => exact body row member
    | refused status early => cases member
  intro raw member
  cases place with
  | stored row body next holds last deeds =>
      rw [deeds] at member
      exact List.mem_singleton.mp member ▸ body
  | identified row body next holds deeds =>
      rw [deeds] at member
      exact List.mem_singleton.mp member ▸ body
  | replying status raw events account next holds deeds =>
      rw [deeds] at member
      exact accounted account _ member
  | replied status raw events account next holds deeds =>
      rw [deeds] at member
      exact accounted account _ member
  | ended status raw events account next deeds =>
      rw [deeds] at member
      exact accounted account _ member
  | refusing _ _ _ deeds | waiting _ _ _ _ deeds | locked _ _ _ _ _ deeds =>
      rw [deeds] at member
      cases member

theorem Accounted.events {request : HttpRequest} {raw : List RawRow} {events : List ParsedRow}
    {status : Nat} (accounted : Accounted request raw events status) :
    events.length = if status = 201 then 1 else 0 := by
  cases accounted with
  | refused status early =>
      simp only [List.mem_cons, List.not_mem_nil, or_false] at early
      rcases early with rfl | rfl | rfl | rfl <;> rfl
  | _ => rfl

theorem Place.once {server : ServerState} {thread : ThreadId} {request : HttpRequest}
    {todo : Task Unit} (place : Place charges server thread request todo) :
    (server.deeds thread).events.length ≤ 1 := by
  have accounted : ∀ {raw events status}, Accounted request raw events status →
      events.length ≤ 1 := by
    intro raw events status accounted
    rw [accounted.events]
    split <;> decide
  cases place with
  | replying status raw events account next holds deeds =>
      rw [deeds]
      exact accounted account
  | replied status raw events account next holds deeds =>
      rw [deeds]
      exact accounted account
  | ended status raw events account next deeds =>
      rw [deeds]
      exact accounted account
  | refusing _ _ _ deeds | waiting _ _ _ _ deeds | locked _ _ _ _ _ deeds
  | stored _ _ _ _ _ deeds | identified _ _ _ _ deeds =>
      rw [deeds]
      exact Nat.zero_le 1

/-- Every thread that was given a post still works on a request that carries it. -/
structure Carrying (charges : Charges) (state : Collection) : Prop where
  each : ∀ entry ∈ state.carried, ∃ request todo payload,
    state.server.thread entry.1 = some ⟨request, todo⟩ ∧
    state.daemon.world.posts[entry.2]? = some payload ∧ Carries charges payload request
  apart : (state.carried.map Prod.snd).Nodup

/-- What a run of the whole does to its two parts. -/
structure Running (codec : SettingsCodec) (ec : EcDevice) (charges : Charges)
    (worker : Daemon.ThreadId) (db : Database) (state : Collection) : Prop where
  conveying : Conveying ec worker state.daemon
  served : ∃ events, ServerRun charges (.idle (.opened db)) events state.server
  carrying : Carrying charges state

theorem running_begun (codec : SettingsCodec) (ec : EcDevice) (charges : Charges)
    (worker : Daemon.ThreadId) (memory : EcMemory) (stateFile : Option (List UInt8))
    (db : Database) : Running codec ec charges worker db (.begun memory stateFile db) where
  conveying := conveying_begun ec worker memory stateFile
  served := ⟨[], .nil⟩
  carrying := ⟨fun entry member => (by cases member), List.nodup_nil⟩

/-- A step of the server keeps the requests its threads work on. -/
theorem spawned_keeps {before after : ServerPool} {event : ServerEvent} {thread : ThreadId}
    {request : HttpRequest} {todo : Task Unit} (spawned : Spawned before event)
    (stepped : before.next (handle charges) (fun thread _ => serverSemantics thread) event =
      some after) (running : before.thread thread = some ⟨request, todo⟩) :
    ∃ todo, after.thread thread = some ⟨request, todo⟩ := by
  by_cases own : event.thread = thread
  · cases event with
    | start other job =>
        obtain ⟨free, _⟩ := Pool.next_start.mp stepped
        cases own
        cases running.symm.trans free
    | act other choice =>
        obtain ⟨job, operation, rest, found, rfl⟩ := Pool.next_act.mp stepped
        cases own
        cases running.symm.trans found
        exact ⟨_, Pool.put_same before _ _⟩
    | finish other => exact spawned.elim
  · exact ⟨todo, (Pool.next_other stepped own).trans running⟩

theorem Running.daemon (running : Running codec ec charges worker db before)
    {event : Event Daemon.ThreadId Job Choice} (tended : Tended worker before.daemon event)
    (stepped : collection codec ec charges before (.daemon event) = some after) :
    Running codec ec charges worker db after := by
  obtain ⟨daemon, went, rfl⟩ := Option.map_eq_some_iff.mp stepped
  refine ⟨running.conveying.next tended went, running.served, fun entry member => ?_,
    running.carrying.apart⟩
  obtain ⟨request, todo, payload, works, posted, carries⟩ := running.carrying.each entry member
  obtain ⟨more, grown⟩ := posts_grow went
  refine ⟨request, todo, payload, works, ?_, carries⟩
  change daemon.world.posts[entry.2]? = some payload
  rw [← grown, List.getElem?_append_left (List.getElem?_eq_some_iff.mp posted).1]
  exact posted

theorem Running.server (running : Running codec ec charges worker db before)
    {event : ServerEvent} (spawned : Spawned before.server event)
    (stepped : collection codec ec charges before (.server event) = some after) :
    Running codec ec charges worker db after := by
  obtain ⟨server, went, rfl⟩ := Option.map_eq_some_iff.mp stepped
  obtain ⟨events, ran⟩ := running.served
  refine ⟨running.conveying, ⟨events ++ [event], ran.append (.cons spawned went .nil)⟩,
    fun entry member => ?_, running.carrying.apart⟩
  obtain ⟨request, todo, payload, works, posted, carries⟩ := running.carrying.each entry member
  obtain ⟨todo, works⟩ := spawned_keeps spawned went works
  exact ⟨request, todo, payload, works, posted, carries⟩

theorem Running.deliver (running : Running codec ec charges worker db before) {thread : ThreadId}
    {post : Nat} {request : HttpRequest} (fresh : post ∉ before.carried.map Prod.snd)
    {payload : TelemetryPayload} (posted : before.daemon.world.posts[post]? = some payload)
    (carries : Carries charges payload request)
    (stepped : collection codec ec charges before (.deliver thread post request) = some after) :
    Running codec ec charges worker db after := by
  obtain ⟨server, went, rfl⟩ := Option.map_eq_some_iff.mp stepped
  obtain ⟨events, ran⟩ := running.served
  have spawned : Spawned before.server (.start thread request) := trivial
  refine ⟨running.conveying, ⟨events ++ [_], ran.append (.cons spawned went .nil)⟩,
    fun entry member => ?_, List.nodup_cons.mpr ⟨fresh, running.carrying.apart⟩⟩
  rcases List.mem_cons.mp member with rfl | earlier
  · obtain ⟨_, rfl⟩ := Pool.next_start.mp went
    exact ⟨request, _, payload, Pool.put_same _ _ _, posted, carries⟩
  · obtain ⟨request, todo, payload, works, posted, carries⟩ := running.carrying.each entry earlier
    obtain ⟨todo, works⟩ := spawned_keeps spawned went works
    exact ⟨request, todo, payload, works, posted, carries⟩

theorem running_run {happenings : List Occurrence}
    (ran : CollectionRun codec ec charges worker before happenings after)
    (initially : Running codec ec charges worker db before) :
    Running codec ec charges worker db after := by
  refine ran.invariant (fun {before happened after} running collectable stepped => ?_) initially
  cases happened with
  | daemon event => exact running.daemon collectable stepped
  | server event => exact running.server collectable stepped
  | deliver thread post request =>
      obtain ⟨fresh, payload, posted, carries⟩ := collectable
      exact running.deliver fresh posted carries stepped

/-- The rows of a post are those of the one thread that was given it. -/
theorem rowsOf_carried {state : Collection} {entry : ThreadId × Nat}
    (apart : (state.carried.map Prod.snd).Nodup) (member : entry ∈ state.carried) :
    state.rowsOf entry.2 = (state.server.world.deeds entry.1).events := by
  refine List.filter_congr fun row _ => ?_
  rw [Bool.eq_iff_iff, List.any_eq_true, decide_eq_true_eq]
  constructor
  · intro ⟨other, found, same⟩
    rw [Bool.and_eq_true, beq_iff_eq, beq_iff_eq] at same
    have equal : other = entry := List.inj_on_of_nodup_map apart found member same.1
    rw [same.2, equal]
  · intro author
    exact ⟨entry, member, by simp [author]⟩

theorem rowsOf_lost {state : Collection} {post : Nat}
    (lost : post ∉ state.carried.map Prod.snd) : state.rowsOf post = [] := by
  refine List.filter_eq_nil_iff.mpr fun row _ => ?_
  rw [List.any_eq_true]
  intro ⟨entry, member, same⟩
  rw [Bool.and_eq_true, beq_iff_eq] at same
  exact lost (List.mem_map.mpr ⟨entry, member, same.1⟩)

/-- What the database holds because of the posts. -/
structure Collected (state : Collection) : Prop where
  recorded : ∀ post, ∀ row ∈ state.rowsOf post, ∃ payload,
    state.daemon.world.posts[post]? = some payload ∧ Tells row payload
  once : ∀ post, (state.rowsOf post).length ≤ 1
  told : ∀ entry ∈ state.carried, ∀ status, state.server.world.responses entry.1 = some status →
    (state.rowsOf entry.2).length = if status = 201 then 1 else 0

theorem Running.collected {state : Collection} (served : Served charges db)
    (running : Running codec ec charges worker db state) : Collected state := by
  obtain ⟨events, ran⟩ := running.served
  have placed : Placed charges state.server := placed_run served.sound ran
  have places : ∀ entry ∈ state.carried, ∃ request todo payload,
      Place charges state.server.world entry.1 request todo ∧
      state.rowsOf entry.2 = (state.server.world.deeds entry.1).events ∧
      state.daemon.world.posts[entry.2]? = some payload ∧ Carries charges payload request := by
    intro entry member
    obtain ⟨request, todo, payload, works, posted, carries⟩ := running.carrying.each entry member
    exact ⟨request, todo, payload, placed.each entry.1 _ works,
      rowsOf_carried running.carrying.apart member, posted, carries⟩
  refine ⟨fun post row member => ?_, fun post => ?_, fun entry member status responded => ?_⟩
  · by_cases given : post ∈ state.carried.map Prod.snd
    · obtain ⟨entry, found, rfl⟩ := List.mem_map.mp given
      obtain ⟨request, todo, payload, place, rows, posted, carries⟩ := places entry found
      rw [rows] at member
      obtain ⟨recorded, author⟩ := List.mem_filter.mp member
      obtain ⟨raw, stored, _, _, shared, read⟩ := placed.sound.linked row recorded
      have own : raw ∈ (state.server.world.deeds entry.1).raw := by
        refine List.mem_filter.mpr ⟨stored, ?_⟩
        rw [← shared]
        exact author
      refine ⟨payload, posted, decoded_received carries.short ?_ read⟩
      exact carries.received _ (place.raw raw own)
    · rw [rowsOf_lost given] at member
      cases member
  · by_cases given : post ∈ state.carried.map Prod.snd
    · obtain ⟨entry, found, rfl⟩ := List.mem_map.mp given
      obtain ⟨_, _, _, place, rows, _⟩ := places entry found
      rw [rows]
      exact place.once
    · rw [rowsOf_lost given]
      exact Nat.zero_le 1
  · obtain ⟨_, _, _, place, rows, _⟩ := places entry member
    rw [rows]
    exact (place.accounted responded).events

/-- What the daemon's threads reported is posted in its order and at most once, whatever the
threads do and whatever fails; and what becomes of a post on its way to the database is one row
of exactly what was posted, or none, as the server's reply says. -/
theorem reports_collected {happenings : List Occurrence} {memory : EcMemory}
    {stateFile : Option (List UInt8)} (served : Served charges db)
    (ran : CollectionRun codec ec charges worker (.begun memory stateFile db) happenings after) :
    Conveyed ec after.daemon.world ∧ Collected after := by
  have running : Running codec ec charges worker db after :=
    running_run ran (running_begun codec ec charges worker memory stateFile db)
  exact ⟨running.conveying.conveyed, running.collected served⟩

def carriesNow (charges : Charges) (payload : TelemetryPayload) (request : HttpRequest) : Bool :=
  decide (((telemetryPayload charges).encode payload).length < 2 ^ 64) &&
    match request.body with
    | .ok bytes => bytes.isPrefixOf ((telemetryPayload charges).encode payload)
    | .error _ => true

theorem carriesNow_sound {payload : TelemetryPayload} {request : HttpRequest}
    (passed : carriesNow charges payload request = true) : Carries charges payload request := by
  rw [carriesNow, Bool.and_eq_true, decide_eq_true_eq] at passed
  refine ⟨passed.1, fun bytes read => ?_⟩
  rw [read] at passed
  exact List.isPrefixOf_iff_prefix.mp passed.2

def collectableNow (charges : Charges) (worker : Daemon.ThreadId) (state : Collection) :
    Occurrence → Bool
  | .daemon (.start thread .workerRound) => thread == worker
  | .daemon _ => true
  | .server event => spawnedNow state.server event
  | .deliver _ post request => !(state.carried.map Prod.snd).contains post &&
      state.daemon.world.posts[post]?.any fun payload => carriesNow charges payload request

theorem collectableNow_sound (state : Collection) (happened : Occurrence)
    (passed : collectableNow charges worker state happened = true) :
    Collectable charges worker state happened := by
  cases happened with
  | daemon event =>
      cases event with
      | start thread job =>
          cases job with
          | workerRound => exact beq_iff_eq.mp passed
          | _ => trivial
      | _ => trivial
  | server event => exact spawnedNow_sound state.server event passed
  | deliver thread post request =>
      rw [collectableNow, Bool.and_eq_true, Bool.not_eq_true'] at passed
      obtain ⟨payload, posted, carries⟩ := (Option.any_eq_true _ _).mp passed.2
      refine ⟨fun member => ?_, payload, posted, carriesNow_sound carries⟩
      rw [List.contains_iff_mem.mpr member] at passed
      cases passed.1

/-- The daemon reports its start and a panic, and posts both; the second arrives. -/
def panicHappenings : List Occurrence :=
  (Pool.solo 0 (Job.startUp ⟨"cpu", "os", "board"⟩) (List.replicate 19 default) ++
    Pool.solo 2 (Job.panicReport "no") (List.replicate 2 default) ++
    Pool.solo 1 Job.workerRound (List.replicate 4 default) ++
    Pool.solo 1 Job.workerRound (List.replicate 4 default)).map .daemon ++
  [.deliver 0 1 (post [0, 2, 2, 110, 111])] ++ (Pool.turns 0 6).map .server

theorem reports_collected_panic :
    ∃ after : Collection, after.daemon.world.delivered =
        [.startup "IT0000-00" 0xC400 "cpu" "os" "board", .panic "no"] ∧
      Conveyed Detection.n155a.device after.daemon.world ∧ Collected after ∧
      after.rowsOf 0 = [] ∧ (after.rowsOf 1).length = 1 := by
  have reached : ((Trace.replay (collection .bincode Detection.n155a.device .bincode)
      (collectableNow .bincode 1) (.begun (fun _ => 0x00) none emptyDatabase)
      panicHappenings).any fun state =>
        state.daemon.world.delivered ==
            [.startup "IT0000-00" 0xC400 "cpu" "os" "board", .panic "no"] &&
          state.server.world.responses 0 == some 201 && state.carried == [(0, 1)]) = true := by
    decide +kernel
  obtain ⟨after, replayed, checked⟩ := (Option.any_eq_true _ _).mp reached
  rw [Bool.and_eq_true, Bool.and_eq_true, beq_iff_eq, beq_iff_eq, beq_iff_eq] at checked
  obtain ⟨⟨delivered, responded⟩, carried⟩ := checked
  obtain ⟨conveyed, collected⟩ :=
    reports_collected .created (Trace.of_replay collectableNow_sound replayed)
  refine ⟨after, delivered, conveyed, collected, rowsOf_lost (by simp [carried]), ?_⟩
  exact collected.told (0, 1) (by simp [carried]) 201 responded

end Lecoo.Server
