import Lecoo.Effects.Pool
import Lecoo.Server.Rows

namespace Lecoo.Server

open Lecoo.Effects Lecoo.Ipc Lecoo.Ipc.TelemetryFormat

/-! # The telemetry server

Every request is handled by a thread of its own.  The database is one
connection behind a mutex; the identity of a row that was inserted is asked for
afterwards, and is that of whatever was inserted last.
-/

abbrev ThreadId := Nat

inductive Method where
  | get
  | post
  | other (name : String)
deriving Repr, DecidableEq

structure HttpRequest where
  method : Method
  url : String
  /-- Fields and their values. -/
  headers : List (String × String)
  /-- The length the client declared. -/
  bodyLength : Option Nat
  /-- What reading to the end gives. -/
  body : Except String (List UInt8)

/-- Field names are compared without regard to the case of letters. -/
def equiv (field other : String) : Bool := field.toLower == other.toLower

def maxBodySize : Nat := 512 * 1024

/-- The limit the decoder is configured with. -/
def decodeLimit : Nat := 64 * 1024

inductive ServerOp where
  /-- `db.lock()`: waits until no other thread has the connection. -/
  | lockDb
  | unlockDb
  | insertRaw (daemonVersion : String) (rawData : List UInt8)
  | lastInsertRowid
  | insertParsed (rawId : Int) (daemonVersion : String) (parsed : Parsed)
  | respond (status : Nat)

@[reducible] def serverOps : Interface where
  Operation := ServerOp
  Reply
    | .lockDb => Unit
    | .unlockDb => Unit
    | .insertRaw _ _ => Except String Unit
    | .lastInsertRowid => Int
    | .insertParsed _ _ _ => Except String Unit
    | .respond _ => Unit

abbrev Task (α : Type) := Program serverOps α

def perform (operation : ServerOp) : Task (serverOps.Reply operation) :=
  Program.request (I := serverOps) operation

def daemonVersion (request : HttpRequest) : String :=
  ((request.headers.find? fun header => equiv header.1 "X-Daemon-Version").map Prod.snd).getD
    "Unknown"

/-- An event is recorded, and the client told whether that worked. -/
def record (rawId : Int) (daemonVersion : String) (parsed : Parsed) : Task Unit := do
  match ← perform (.insertParsed rawId daemonVersion parsed) with
  | .error _ => perform (.respond 500)
  | .ok () => perform (.respond 201)

section Handler

variable (charges : Charges)

/-- What is done while the thread has the connection. -/
def store (daemonVersion : String) (buffer : List UInt8) : Task Unit := do
  match ← perform (.insertRaw daemonVersion buffer) with
  | .error _ => perform (.respond 500)
  | .ok () =>
      let rawId : Int ← perform .lastInsertRowid
      match (telemetryPayload charges).read decodeLimit buffer with
      | some (payload, _) => record rawId daemonVersion (parsed payload)
      | none =>
          match (telemetryPayloadV1 charges).read decodeLimit buffer with
          | some (payload, _) => record rawId daemonVersion (parsedV1 payload)
          | none => perform (.respond 202)

def handle (request : HttpRequest) : Task Unit := do
  if request.method = .get ∧ request.url = "/telemetry/health" then
    perform (.respond 200)
  else if request.method ≠ .post ∨ request.url ≠ "/telemetry" then
    perform (.respond 404)
  else if request.bodyLength.getD 0 > maxBodySize then
    perform (.respond 413)
  else
    match request.body with
    | .error _ => perform (.respond 400)
    | .ok buffer =>
        if buffer.length > maxBodySize then
          perform (.respond 400)
        else
          perform .lockDb
          store charges (daemonVersion request) buffer
          perform .unlockDb

end Handler

/-- A request that gives its body and nothing else. -/
def post (body : List UInt8) : HttpRequest where
  method := .post
  url := "/telemetry"
  headers := []
  bodyLength := some body.length
  body := .ok body

/-- A row of `raw_telemetry`, with the thread that inserted it since the start. -/
structure RawRow where
  id : Int
  daemonVersion : String
  rawData : List UInt8
  author : Option ThreadId
deriving DecidableEq

/-- A row of one of the three tables of parsed events. -/
structure ParsedRow where
  rawId : Int
  daemonVersion : String
  parsed : Parsed
  author : Option ThreadId
deriving DecidableEq

structure Database where
  raw : List RawRow
  events : List ParsedRow
  /-- The largest identity a raw row has ever had. -/
  sequence : Int
  lastRowid : Int

/-- Whether an insert fails, how many identities are skipped, and the identity
a row of another table gets. -/
structure DbChoice where
  failure : Option String := none
  skipped : Nat := 0
  rowid : Int := 0
deriving Inhabited

structure ServerState where
  db : Database
  /-- The thread that has the connection. -/
  holder : Option ThreadId
  /-- What each thread has responded. -/
  responses : ThreadId → Option Nat

def serverSemantics (thread : ThreadId) : Semantics serverOps DbChoice ServerState
  | .lockDb, _, server => ((), { server with holder := some thread })
  | .unlockDb, _, server => ((), { server with holder := none })
  | .insertRaw daemonVersion rawData, choice, server =>
      match choice.failure with
      | some message => (.error message, server)
      | none =>
          let id := server.db.sequence + 1 + choice.skipped
          let row : RawRow := { id, daemonVersion, rawData, author := some thread }
          (.ok (), { server with db := { server.db with
            raw := server.db.raw ++ [row], sequence := id, lastRowid := id } })
  | .lastInsertRowid, _, server => (server.db.lastRowid, server)
  | .insertParsed rawId daemonVersion parsed, choice, server =>
      match choice.failure with
      | some message => (.error message, server)
      | none =>
          let row : ParsedRow := { rawId, daemonVersion, parsed, author := some thread }
          (.ok (), { server with db := { server.db with
            events := server.db.events ++ [row], lastRowid := choice.rowid } })
  | .respond status, _, server =>
      ((), { server with responses := Function.update server.responses thread (some status) })

variable {charges : Charges}

/-- What the server makes of a body: the current format, else the old one. -/
def decoded (charges : Charges) (buffer : List UInt8) : Option Parsed :=
  (((telemetryPayload charges).read decodeLimit buffer).map fun read => parsed read.1).or
    (((telemetryPayloadV1 charges).read decodeLimit buffer).map fun read => parsedV1 read.1)

/-- What follows when the raw row is in. -/
def recordDecoded (rawId : Int) (daemonVersion : String) : Option Parsed → Task Unit
  | some parsed => record rawId daemonVersion parsed
  | none => perform (.respond 202)

theorem store_eq (daemonVersion : String) (buffer : List UInt8) :
    store charges daemonVersion buffer =
      perform (.insertRaw daemonVersion buffer) >>= fun inserted => match inserted with
        | .error _ => perform (.respond 500)
        | .ok () => perform .lastInsertRowid >>= fun rawId : Int =>
            recordDecoded rawId daemonVersion (decoded charges buffer) := by
  refine congrArg (perform (.insertRaw daemonVersion buffer) >>= ·) (funext fun inserted => ?_)
  cases inserted with
  | error message => rfl
  | ok value =>
      refine congrArg (perform .lastInsertRowid >>= ·) (funext fun rawId => ?_)
      rw [decoded]
      cases (telemetryPayload charges).read decodeLimit buffer with
      | some read => rfl
      | none =>
          cases (telemetryPayloadV1 charges).read decodeLimit buffer with
          | some read => rfl
          | none => rfl

/-- A request is turned away at once, or its body is stored. -/
theorem handle_cases (charges : Charges) (request : HttpRequest) :
    (∃ status ∈ [200, 404, 413, 400], handle charges request = perform (.respond status)) ∨
    (∃ buffer, request.body = .ok buffer ∧ buffer.length ≤ maxBodySize ∧
      handle charges request = perform .lockDb >>= fun _ =>
        store charges (daemonVersion request) buffer >>= fun _ => perform .unlockDb) := by
  unfold handle
  split
  · exact .inl ⟨200, by simp, rfl⟩
  split
  · exact .inl ⟨404, by simp, rfl⟩
  split
  · exact .inl ⟨413, by simp, rfl⟩
  split
  · exact .inl ⟨400, by simp, rfl⟩
  · split
    · exact .inl ⟨400, by simp, rfl⟩
    · rename_i buffer read fits
      exact .inr ⟨buffer, read, Nat.le_of_not_gt fits, rfl⟩

end Lecoo.Server
