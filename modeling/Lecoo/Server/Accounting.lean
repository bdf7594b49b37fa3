import Lecoo.Server.Handler

namespace Lecoo.Server

open Lecoo.Effects Lecoo.Ipc Lecoo.Ipc.TelemetryFormat

/-! # What a reply says about the database

The thread of a request is the only one that has the connection between its raw
insert and its reply, so the identity it asks for is that of its own row.
-/

abbrev ServerPool := Pool serverOps ThreadId HttpRequest Unit ServerState

abbrev ServerEvent := Event ThreadId HttpRequest DbChoice

/-- A request keeps the thread it was given, which waits for the connection until it is free. -/
def Spawned (pool : ServerPool) : ServerEvent → Prop
  | .start _ _ => True
  | .act thread _ => ∀ request rest,
      pool.thread thread = some ⟨request, .perform .lockDb rest⟩ → pool.world.holder = none
  | .finish _ => False

abbrev ServerRun (charges : Charges) :=
  Pool.Run (handle charges) (fun thread _ => serverSemantics thread) Spawned

/-- The event was decoded from the raw row it names. -/
def Database.Linked (charges : Charges) (db : Database) (event : ParsedRow) : Prop :=
  ∃ raw ∈ db.raw, event.rawId = raw.id ∧ event.daemonVersion = raw.daemonVersion ∧
    event.author = raw.author ∧ decoded charges raw.rawData = some event.parsed

structure Database.Sound (charges : Charges) (db : Database) : Prop where
  distinct : (db.raw.map RawRow.id).Nodup
  counted : ∀ raw ∈ db.raw, raw.id ≤ db.sequence
  bounded : ∀ raw ∈ db.raw, raw.rawData.length ≤ maxBodySize
  linked : ∀ event ∈ db.events, db.Linked charges event

variable {charges : Charges} {db : Database}

/-- The database as a new connection finds it; the rows that are there are nobody's. -/
def Database.reopened (db : Database) : Database where
  raw := db.raw.map fun row => { row with author := none }
  events := db.events.map fun row => { row with author := none }
  sequence := db.sequence
  lastRowid := 0

theorem Database.Sound.reopened (sound : db.Sound charges) : db.reopened.Sound charges where
  distinct := by
    rw [Database.reopened, List.map_map]
    exact sound.distinct
  counted := List.forall_mem_map.mpr sound.counted
  bounded := List.forall_mem_map.mpr sound.bounded
  linked := by
    refine List.forall_mem_map.mpr fun event member => ?_
    obtain ⟨raw, found, id, version, _, read⟩ := sound.linked event member
    exact ⟨_, List.mem_map_of_mem found, id, version, rfl, read⟩

/-- The server has opened the database and has no request yet. -/
def ServerState.opened (db : Database) : ServerState := ⟨db.reopened, none, fun _ => none⟩

def emptyDatabase : Database := ⟨[], [], 0, 0⟩

theorem emptyDatabase_sound : emptyDatabase.Sound charges :=
  ⟨List.nodup_nil, fun _ member => (by cases member), fun _ member => (by cases member),
    fun _ member => (by cases member)⟩

/-- The server has created the database and alone has written to it; it may have been
stopped at any point and started again. -/
inductive Served (charges : Charges) : Database → Prop where
  | created : Served charges emptyDatabase
  | run {db : Database} {events : List ServerEvent} {after : ServerPool} (served : Served charges db)
      (ran : ServerRun charges (.idle (.opened db)) events after) : Served charges after.world.db

/-- The rows a thread has inserted, and its response. -/
structure Deeds where
  raw : List RawRow
  events : List ParsedRow
  response : Option Nat

def Deeds.none : Deeds := ⟨[], [], .none⟩

def ServerState.deeds (server : ServerState) (thread : ThreadId) : Deeds where
  raw := server.db.raw.filter fun row => row.author = some thread
  events := server.db.events.filter fun row => row.author = some thread
  response := server.responses thread

theorem opened_deeds (db : Database) (thread : ThreadId) :
    (ServerState.opened db).deeds thread = .none := by
  simp [ServerState.deeds, ServerState.opened, Database.reopened, Deeds.none, List.filter_map,
    Function.comp_def]

/-- What the status a request was answered with says about the rows inserted for it. -/
inductive Accounted (request : HttpRequest) : List RawRow → List ParsedRow → Nat → Prop where
  | recorded (raw : RawRow) (event : ParsedRow) (body : request.body = .ok raw.rawData)
      (named : event.rawId = raw.id) : Accounted request [raw] [event] 201
  | kept (raw : RawRow) (body : request.body = .ok raw.rawData) : Accounted request [raw] [] 202
  | failed (raw : List RawRow) (few : raw.length ≤ 1)
      (body : ∀ row ∈ raw, request.body = .ok row.rawData) : Accounted request raw [] 500
  | refused (status : Nat) (early : status ∈ [200, 404, 413, 400]) : Accounted request [] [] status

def ServerState.addRaw (server : ServerState) (raw : RawRow) : ServerState :=
  { server with db := { server.db with
    raw := server.db.raw ++ [raw], sequence := raw.id, lastRowid := raw.id } }

def ServerState.addEvent (server : ServerState) (event : ParsedRow) (rowid : Int) : ServerState :=
  { server with db := { server.db with events := server.db.events ++ [event], lastRowid := rowid } }

section Operations

variable {server : ServerState} {thread other : ThreadId} {choice : DbChoice} {version message : String}
  {data : List UInt8} {rawId : Int} {parsed : Parsed}

theorem insertRaw_fails (fails : choice.failure = some message) :
    serverSemantics thread (.insertRaw version data) choice server = (.error message, server) := by
  simp only [serverSemantics, fails]

theorem insertRaw_works (works : choice.failure = none) :
    serverSemantics thread (.insertRaw version data) choice server =
      (.ok (), server.addRaw ⟨server.db.sequence + 1 + choice.skipped, version, data, some thread⟩) := by
  simp only [serverSemantics, works]
  rfl

theorem insertParsed_fails (fails : choice.failure = some message) :
    serverSemantics thread (.insertParsed rawId version parsed) choice server =
      (.error message, server) := by
  simp only [serverSemantics, fails]

theorem insertParsed_works (works : choice.failure = none) :
    serverSemantics thread (.insertParsed rawId version parsed) choice server =
      (.ok (), server.addEvent ⟨rawId, version, parsed, some thread⟩ choice.rowid) := by
  simp only [serverSemantics, works]
  rfl

theorem deeds_addRaw {raw : RawRow} (author : raw.author = some thread) :
    (server.addRaw raw).deeds thread =
      { server.deeds thread with raw := (server.deeds thread).raw ++ [raw] } := by
  simp [ServerState.addRaw, ServerState.deeds, author]

theorem deeds_addEvent {event : ParsedRow} {rowid : Int} (author : event.author = some thread) :
    (server.addEvent event rowid).deeds thread =
      { server.deeds thread with events := (server.deeds thread).events ++ [event] } := by
  simp [ServerState.addEvent, ServerState.deeds, author]

theorem deeds_respond (status : Nat) :
    ((serverSemantics thread (.respond status) choice server).2).deeds thread =
      { server.deeds thread with response := some status } := by
  simp [serverSemantics, ServerState.deeds]

theorem deeds_other (operation : ServerOp) (choice : DbChoice) (different : other ≠ thread) :
    ((serverSemantics thread operation choice server).2).deeds other = server.deeds other := by
  cases operation with
  | insertRaw version data =>
      cases failure : choice.failure with
      | some message => rw [insertRaw_fails failure]
      | none =>
          rw [insertRaw_works failure]
          simp [ServerState.addRaw, ServerState.deeds, different.symm]
  | insertParsed rawId version parsed =>
      cases failure : choice.failure with
      | some message => rw [insertParsed_fails failure]
      | none =>
          rw [insertParsed_works failure]
          simp [ServerState.addEvent, ServerState.deeds, different.symm]
  | respond status => simp [serverSemantics, ServerState.deeds, different]
  | _ => rfl

end Operations

section Soundness

variable {server : ServerState} {raw : RawRow} {event : ParsedRow}

theorem Database.Sound.addRaw (sound : server.db.Sound charges) (fresh : server.db.sequence < raw.id)
    (bounded : raw.rawData.length ≤ maxBodySize) : (server.addRaw raw).db.Sound charges where
  distinct := by
    have apart : raw.id ∉ server.db.raw.map RawRow.id := by
      intro member
      obtain ⟨row, found, same⟩ := List.mem_map.mp member
      have known := sound.counted row found
      omega
    have concat : (server.db.raw.map RawRow.id ++ [raw.id]).Nodup := by
      rw [List.nodup_append]
      exact ⟨sound.distinct, by simp, fun old member new added same =>
        apart (List.mem_singleton.mp added ▸ same ▸ member)⟩
    rw [← List.map_singleton, ← List.map_append] at concat
    exact concat
  counted := by
    intro row member
    change row.id ≤ raw.id
    obtain old | new := List.mem_append.mp member
    · have known := sound.counted row old
      omega
    · exact Int.le_of_eq (congrArg RawRow.id (List.mem_singleton.mp new))
  bounded := by
    intro row member
    obtain old | new := List.mem_append.mp member
    · exact sound.bounded row old
    · rw [List.mem_singleton.mp new]
      exact bounded
  linked := by
    intro event member
    obtain ⟨named, found, linked⟩ := sound.linked event member
    exact ⟨named, List.mem_append_left _ found, linked⟩

theorem Database.Sound.addEvent {rowid : Int} (sound : server.db.Sound charges)
    (linked : server.db.Linked charges event) : (server.addEvent event rowid).db.Sound charges where
  distinct := sound.distinct
  counted := sound.counted
  bounded := sound.bounded
  linked := by
    intro row member
    obtain old | new := List.mem_append.mp member
    · exact sound.linked row old
    · rw [List.mem_singleton.mp new]
      exact linked

end Soundness

/-- What is left while the thread has the connection. -/
def leaving (rest : Task Unit) : Task Unit := rest >>= fun _ => perform .unlockDb

inductive Place (charges : Charges) (server : ServerState) (thread : ThreadId)
    (request : HttpRequest) (todo : Task Unit) : Prop where
  | refusing (status : Nat) (early : status ∈ [200, 404, 413, 400])
      (next : todo = perform (.respond status)) (deeds : server.deeds thread = .none)
  | waiting (buffer : List UInt8) (body : request.body = .ok buffer)
      (fits : buffer.length ≤ maxBodySize)
      (next : todo = perform .lockDb >>= fun _ =>
        leaving (store charges (daemonVersion request) buffer))
      (deeds : server.deeds thread = .none)
  | locked (buffer : List UInt8) (body : request.body = .ok buffer)
      (fits : buffer.length ≤ maxBodySize)
      (next : todo = leaving (store charges (daemonVersion request) buffer))
      (holds : server.holder = some thread) (deeds : server.deeds thread = .none)
  | stored (raw : RawRow) (body : request.body = .ok raw.rawData)
      (next : todo = leaving (perform .lastInsertRowid >>= fun rawId : Int =>
        recordDecoded rawId raw.daemonVersion (decoded charges raw.rawData)))
      (holds : server.holder = some thread) (last : server.db.lastRowid = raw.id)
      (deeds : server.deeds thread = ⟨[raw], [], none⟩)
  | identified (raw : RawRow) (body : request.body = .ok raw.rawData)
      (next : todo =
        leaving (recordDecoded raw.id raw.daemonVersion (decoded charges raw.rawData)))
      (holds : server.holder = some thread) (deeds : server.deeds thread = ⟨[raw], [], none⟩)
  | replying (status : Nat) (raw : List RawRow) (events : List ParsedRow)
      (accounted : Accounted request raw events status)
      (next : todo = leaving (perform (.respond status)))
      (holds : server.holder = some thread) (deeds : server.deeds thread = ⟨raw, events, none⟩)
  | replied (status : Nat) (raw : List RawRow) (events : List ParsedRow)
      (accounted : Accounted request raw events status)
      (next : todo = perform .unlockDb)
      (holds : server.holder = some thread)
      (deeds : server.deeds thread = ⟨raw, events, some status⟩)
  | ended (status : Nat) (raw : List RawRow) (events : List ParsedRow)
      (accounted : Accounted request raw events status) (next : todo = .done ())
      (deeds : server.deeds thread = ⟨raw, events, some status⟩)

section Places

variable {before after : ServerState} {thread : ThreadId} {request : HttpRequest}
  {todo : Task Unit} {operation : ServerOp}
  {rest : serverOps.Reply operation → Task Unit}

theorem Place.start (deeds : before.deeds thread = .none) :
    Place charges before thread request (handle charges request) := by
  obtain ⟨status, early, next⟩ | ⟨buffer, body, fits, next⟩ := handle_cases charges request
  · exact .refusing status early next deeds
  · exact .waiting buffer body fits next deeds

/-- What a thread stands on is its own deeds, and the connection while it has it. -/
theorem Place.borne (place : Place charges before thread request todo)
    (same : after.deeds thread = before.deeds thread)
    (connection : before.holder = some thread →
      after.holder = some thread ∧ after.db.lastRowid = before.db.lastRowid) :
    Place charges after thread request todo := by
  cases place with
  | refusing status early next deeds => exact .refusing status early next (same.trans deeds)
  | waiting buffer body fits next deeds => exact .waiting buffer body fits next (same.trans deeds)
  | locked buffer body fits next holds deeds =>
      exact .locked buffer body fits next (connection holds).1 (same.trans deeds)
  | stored raw body next holds last deeds =>
      exact .stored raw body next (connection holds).1 ((connection holds).2.trans last)
        (same.trans deeds)
  | identified raw body next holds deeds =>
      exact .identified raw body next (connection holds).1 (same.trans deeds)
  | replying status raw events accounted next holds deeds =>
      exact .replying status raw events accounted next (connection holds).1 (same.trans deeds)
  | replied status raw events accounted next holds deeds =>
      exact .replied status raw events accounted next (connection holds).1 (same.trans deeds)
  | ended status raw events accounted next deeds =>
      exact .ended status raw events accounted next (same.trans deeds)

theorem Place.act (place : Place charges before thread request (.perform operation rest))
    (choice : DbChoice) :
    Place charges (serverSemantics thread operation choice before).2 thread request
      (rest (serverSemantics thread operation choice before).1) := by
  cases place with
  | refusing status early next deeds =>
      cases next
      refine .ended status [] [] (.refused status early) rfl ?_
      rw [deeds_respond, deeds]
      rfl
  | waiting buffer body fits next deeds =>
      cases next
      exact .locked buffer body fits rfl rfl deeds
  | locked buffer body fits next holds deeds =>
      rw [store_eq] at next
      cases next
      cases failure : choice.failure with
      | some message =>
          rw [insertRaw_fails failure]
          exact .replying 500 [] [] (.failed [] (by simp) (by simp)) rfl holds deeds
      | none =>
          rw [insertRaw_works failure]
          let raw : RawRow :=
            ⟨before.db.sequence + 1 + choice.skipped, daemonVersion request, buffer, some thread⟩
          refine .stored raw body rfl holds rfl ?_
          rw [deeds_addRaw rfl, deeds]
          rfl
  | stored raw body next holds last deeds =>
      cases next
      exact .identified raw body (by rw [← last]; rfl) holds deeds
  | identified raw body next holds deeds =>
      cases event : decoded charges raw.rawData with
      | none =>
          rw [event] at next
          cases next
          refine .replied 202 [raw] [] (.kept raw body) rfl holds ?_
          rw [deeds_respond, deeds]
      | some parsed =>
          rw [event] at next
          cases next
          cases failure : choice.failure with
          | some message =>
              rw [insertParsed_fails failure]
              exact .replying 500 [raw] [] (.failed [raw] (by simp) (by simpa using body)) rfl holds
                deeds
          | none =>
              rw [insertParsed_works failure]
              let row : ParsedRow := ⟨raw.id, raw.daemonVersion, parsed, some thread⟩
              refine .replying 201 [raw] [row] (.recorded raw row body rfl) rfl holds ?_
              rw [deeds_addEvent rfl, deeds]
              rfl
  | replying status raw events accounted next holds deeds =>
      cases next
      refine .replied status raw events accounted rfl holds ?_
      rw [deeds_respond, deeds]
  | replied status raw events accounted next holds deeds =>
      cases next
      exact .ended status raw events accounted rfl deeds
  | ended status raw events accounted next deeds => cases next

/-- What a step leaves to the thread that has the connection. -/
theorem Place.spares (place : Place charges before thread request (.perform operation rest))
    (awaits : operation = .lockDb → before.holder = none) (choice : DbChoice) {other : ThreadId}
    (different : other ≠ thread) (holds : before.holder = some other) :
    (serverSemantics thread operation choice before).2.holder = some other ∧
    (serverSemantics thread operation choice before).2.db.lastRowid = before.db.lastRowid := by
  have elsewhere : before.holder ≠ some thread := by
    intro own
    exact different (Option.some.inj (holds.symm.trans own))
  cases place with
  | refusing status early next =>
      cases next
      exact ⟨holds, rfl⟩
  | waiting buffer body fits next =>
      cases next
      cases holds.symm.trans (awaits rfl)
  | ended status raw events accounted next => cases next
  | locked _ _ _ _ own => exact absurd own elsewhere
  | stored _ _ _ own => exact absurd own elsewhere
  | identified _ _ _ own => exact absurd own elsewhere
  | replying _ _ _ _ _ own => exact absurd own elsewhere
  | replied _ _ _ _ _ own => exact absurd own elsewhere

theorem Place.keepsSound (place : Place charges before thread request (.perform operation rest))
    (choice : DbChoice) (sound : before.db.Sound charges) :
    (serverSemantics thread operation choice before).2.db.Sound charges := by
  cases place with
  | locked buffer body fits next holds deeds =>
      rw [store_eq] at next
      cases next
      cases failure : choice.failure with
      | some message =>
          rw [insertRaw_fails failure]
          exact sound
      | none =>
          rw [insertRaw_works failure]
          exact sound.addRaw (by change _ < _ + 1 + _; omega) fits
  | identified raw body next holds deeds =>
      cases event : decoded charges raw.rawData with
      | none =>
          rw [event] at next
          cases next
          exact sound
      | some parsed =>
          rw [event] at next
          cases next
          cases failure : choice.failure with
          | some message =>
              rw [insertParsed_fails failure]
              exact sound
          | none =>
              have own : raw ∈ (before.deeds thread).raw := by
                rw [deeds]
                exact List.mem_singleton_self raw
              obtain ⟨found, author⟩ := List.mem_filter.mp own
              rw [insertParsed_works failure]
              exact sound.addEvent
                ⟨raw, found, rfl, rfl, (of_decide_eq_true author).symm, event⟩
  | refusing status early next => cases next; exact sound
  | waiting buffer body fits next => cases next; exact sound
  | stored raw body next => cases next; exact sound
  | replying status raw events accounted next => cases next; exact sound
  | replied status raw events accounted next => cases next; exact sound
  | ended status raw events accounted next => cases next

end Places

structure Placed (charges : Charges) (pool : ServerPool) : Prop where
  sound : pool.world.db.Sound charges
  each : pool.Each fun server thread activity =>
    Place charges server thread activity.job activity.todo
  fresh : pool.Free fun server thread => server.deeds thread = .none

theorem placed_run {events : List ServerEvent} {after : ServerPool} (sound : db.Sound charges)
    (ran : ServerRun charges (.idle (.opened db)) events after) : Placed charges after := by
  have initially : Placed charges (.idle (.opened db)) :=
    ⟨sound.reopened, fun thread activity running => (by cases running),
      fun thread _ => opened_deeds db thread⟩
  refine Pool.Run.invariant_of_steps ?_ ?_ ?_ ran initially
  · intro pool thread request placed _ free
    refine ⟨placed.sound, ?_, placed.fresh.move _ fun _ _ none => none⟩
    exact placed.each.move (.start (placed.fresh thread free)) fun _ _ _ place => place
  · intro pool thread choice request operation rest placed awaits running
    have place := placed.each thread _ running
    refine ⟨place.keepsSound choice placed.sound, ?_, ?_⟩
    · refine placed.each.move (place.act choice) fun other activity different theirs => ?_
      exact theirs.borne (deeds_other operation choice different) fun holds =>
        place.spares (fun lock => by subst lock; exact awaits request rest running) choice
          different holds
    · exact placed.fresh.move _ fun other different none =>
        (deeds_other operation choice different).trans none
  · intro pool thread request value _ never
    exact never.elim

theorem Place.accounted {server : ServerState} {thread : ThreadId} {request : HttpRequest}
    {todo : Task Unit} {status : Nat} (place : Place charges server thread request todo)
    (responded : server.responses thread = some status) :
    Accounted request (server.deeds thread).raw (server.deeds thread).events status := by
  have response : (server.deeds thread).response = some status := responded
  cases place with
  | replied reply raw events accounted next holds deeds =>
      rw [deeds] at response ⊢
      cases response
      exact accounted
  | ended reply raw events accounted next deeds =>
      rw [deeds] at response ⊢
      cases response
      exact accounted
  -- everywhere else there is no response yet
  | refusing _ _ _ deeds => rw [deeds] at response; cases response
  | waiting _ _ _ _ deeds => rw [deeds] at response; cases response
  | locked _ _ _ _ _ deeds => rw [deeds] at response; cases response
  | stored _ _ _ _ _ deeds => rw [deeds] at response; cases response
  | identified _ _ _ _ deeds => rw [deeds] at response; cases response
  | replying _ _ _ _ _ _ deeds => rw [deeds] at response; cases response

theorem Served.sound (served : Served charges db) : db.Sound charges := by
  induction served with
  | created => exact emptyDatabase_sound
  | run _ ran ih => exact (placed_run ih ran).sound

/-- A reply tells what the database holds because of the request, at every moment
after it was given. -/
theorem replies_accounted {events : List ServerEvent} {after : ServerPool}
    (served : Served charges db) (ran : ServerRun charges (.idle (.opened db)) events after) :
    after.world.db.Sound charges ∧ ∀ thread request todo status,
      after.thread thread = some ⟨request, todo⟩ → after.world.responses thread = some status →
      Accounted request (after.world.deeds thread).raw (after.world.deeds thread).events status := by
  have placed := placed_run served.sound ran
  exact ⟨placed.sound, fun thread request todo status running responded =>
    (placed.each thread _ running).accounted responded⟩

def spawnedNow (pool : ServerPool) : ServerEvent → Bool
  | .start _ _ => true
  | .act thread _ =>
      match pool.thread thread with
      | some ⟨_, .perform .lockDb _⟩ => pool.world.holder.isNone
      | _ => true
  | .finish _ => false

theorem spawnedNow_sound (pool : ServerPool) (event : ServerEvent)
    (passed : spawnedNow pool event = true) : Spawned pool event := by
  cases event with
  | start thread request => trivial
  | act thread choice =>
      intro request rest running
      simpa [spawnedNow, running] using passed
  | finish thread => cases passed

/-- A panic report and a body that is not a payload; the latter's request waits for
the connection. -/
theorem replies_accounted_two :
    ∃ after : ServerPool, after.world.db.Sound .bincode ∧
      Accounted (post [251, 44, 1, 2, 2, 110, 111]) (after.world.deeds 0).raw
        (after.world.deeds 0).events 201 ∧
      Accounted (post [0, 3]) (after.world.deeds 1).raw (after.world.deeds 1).events 202 := by
  have reached : ((Pool.replay (handle .bincode) (fun thread _ => serverSemantics thread) spawnedNow
      (.idle (.opened emptyDatabase))
      ([.start 0 (post [251, 44, 1, 2, 2, 110, 111]), .start 1 (post [0, 3])] ++
        Pool.turns 0 6 ++ Pool.turns 1 5)).map fun pool =>
          ((pool.thread 0, pool.world.responses 0), pool.thread 1, pool.world.responses 1)) =
      some ((some ⟨post [251, 44, 1, 2, 2, 110, 111], .done ()⟩, some 201),
        some ⟨post [0, 3], .done ()⟩, some 202) := rfl
  obtain ⟨after, replayed, same⟩ := Option.map_eq_some_iff.mp reached
  obtain ⟨first, second⟩ := Prod.mk.inj same
  obtain ⟨firstRan, recorded⟩ := Prod.mk.inj first
  obtain ⟨secondRan, kept⟩ := Prod.mk.inj second
  obtain ⟨sound, accounted⟩ := replies_accounted .created
    (Pool.run_of_replay spawnedNow_sound replayed)
  exact ⟨after, sound, accounted 0 _ _ _ firstRan recorded, accounted 1 _ _ _ secondRan kept⟩

end Lecoo.Server
