import Lecoo.Effects.Expand
import Lecoo.Ec.Batch
import Lecoo.Ipc.Handshake

namespace Lecoo.Daemon

open Lecoo.Effects Lecoo.Ipc Lecoo.Ec Fallible

/-! # Connections

A connection thread receives, handles and answers one request after the other.
What it calls is an operation here, so that the thread can be looked at with its
byte stream, or with the work on the requests.
-/

inductive ConnectionOp where
  | acceptHandshake
  | recv
  | send (response : IpcResponse)
  | doWork (request : IpcRequest)
  /-- What is done with the settings when the client has closed the connection. -/
  | saveState

@[reducible] def connectionOps : Interface where
  Operation := ConnectionOp
  Reply
    | .acceptHandshake => Except IoError Unit
    | .recv => Except IoError IpcRequest
    | .send _ => Except IoError Unit
    | .doWork _ => Except Failure IpcResponse
    | .saveState => Except Failure Unit

/-- A panic of what the thread calls unwinds the thread. -/
abbrev ConnectionIo (α : Type) := Fallible connectionOps Failure α

namespace ConnectionIo

def acceptHandshake : ConnectionIo (Except IoError Unit) :=
  always (Program.request (I := connectionOps) .acceptHandshake)

def recv : ConnectionIo (Except IoError IpcRequest) :=
  always (Program.request (I := connectionOps) .recv)

def send (response : IpcResponse) : ConnectionIo (Except IoError Unit) :=
  always (Program.request (I := connectionOps) (.send response))

def doWork (request : IpcRequest) : ConnectionIo IpcResponse :=
  attempt (Program.request (I := connectionOps) (.doWork request))

def saveState : ConnectionIo Unit := attempt (Program.request (I := connectionOps) .saveState)

end ConnectionIo

/-- One turn of the loop: whether there is another one. -/
def connectionTurn : ConnectionIo Bool := do
  match ← ConnectionIo.recv with
  | .ok req =>
      let res ← ConnectionIo.doWork req
      match ← ConnectionIo.send res with
      | .ok _ => return true
      | .error _ => return false
  | .error err =>
      if err.kind = .connectionReset then
        ConnectionIo.saveState
      return false

/-- At most the given number of turns of the loop. -/
def connectionLoop : Nat → ConnectionIo Unit
  | 0 => pure ()
  | turns + 1 => do
      if ← connectionTurn then
        connectionLoop turns

def processIpcConnection (turns : Nat) : ConnectionIo Unit := do
  match ← ConnectionIo.acceptHandshake with
  | .ok _ => connectionLoop turns
  | .error _ => return

/-- What a connection thread asks of the rest of the daemon. -/
inductive DaemonCall where
  | doWork (request : IpcRequest)
  | saveState

@[reducible] def daemonCalls : Interface where
  Operation := DaemonCall
  Reply
    | .doWork _ => Except Failure IpcResponse
    | .saveState => Except Failure Unit

section Wire

variable (version : Version) (requests : MessageCodec IpcRequest)
  (responses : MessageCodec IpcResponse)

/-- The operations of a connection, with those on the stream as the code of the
transport has them. -/
def wireHandler : (operation : ConnectionOp) →
    Program (streamOps.sum daemonCalls) (connectionOps.Reply operation)
  | .acceptHandshake => (Ipc.acceptHandshake version).run.inLeft
  | .recv => (Ipc.recv version requests).run.inLeft
  | .send response => (Ipc.send version responses response).run.inLeft
  | .doWork request => Program.request (I := streamOps.sum daemonCalls) (.inr (.doWork request))
  | .saveState => Program.request (I := streamOps.sum daemonCalls) (.inr .saveState)

def onWire {α : Type} (computation : ConnectionIo α) :
    Fallible (streamOps.sum daemonCalls) Failure α :=
  computation.expand (wireHandler version requests responses)

end Wire

/-- A response that can be encoded. -/
abbrev Answer (responses : MessageCodec IpcResponse) : Type :=
  { response // ∃ data, responses.encode response = .ok data }

/-- Every request is answered, as the environment chooses; what was asked is recorded. -/
def callSemantics (responses : MessageCodec IpcResponse) :
    Semantics daemonCalls (Answer responses) (List IpcRequest)
  | .doWork request, answer, executed => (.ok answer.val, executed ++ [request])
  | .saveState, _, executed => (.ok (), executed)

/-- The stream of a connection and the requests that were executed for it. -/
abbrev wireSemantics (responses : MessageCodec IpcResponse) :
    Semantics (streamOps.sum daemonCalls) (Nat × Answer responses) (Stream × List IpcRequest) :=
  streamSemantics.sum (callSemantics responses)

variable {version : Version} {requests : MessageCodec IpcRequest}
  {responses : MessageCodec IpcResponse} {before after : Stream × List IpcRequest}

abbrev Serves {α : Type} (version : Version) (requests : MessageCodec IpcRequest)
    (responses : MessageCodec IpcResponse) (computation : ConnectionIo α)
    (before : Stream × List IpcRequest) (result : Except Failure α)
    (after : Stream × List IpcRequest) : Prop :=
  Fallible.Runs (wireSemantics responses) (onWire version requests responses computation) before
    result after

theorem serves_bind {α β : Type} {computation : ConnectionIo α} {rest : α → ConnectionIo β}
    {result : Except Failure β} :
    Serves version requests responses (computation >>= rest) before result after ↔
      (∃ error, result = .error error ∧
        Serves version requests responses computation before (.error error) after) ∨
      (∃ value middle, Serves version requests responses computation before (.ok value) middle ∧
        Serves version requests responses (rest value) middle result after) := by
  rw [Serves, onWire, Fallible.expand_bind, Fallible.runs_bind]
  rfl

theorem serves_transport {operation : ConnectionOp} {computation : Program streamOps
      (connectionOps.Reply operation)}
    (handled : wireHandler version requests responses operation = computation.inLeft)
    {result : Except Failure (connectionOps.Reply operation)}
    (ran : Serves version requests responses
      (always (Program.request (I := connectionOps) operation)) before result after) :
    ∃ reply, result = .ok reply ∧ computation.Runs streamSemantics before.1 reply after.1 ∧
      after.2 = before.2 := by
  obtain ⟨reply, middle, first, returned, same⟩ := Program.runs_bind.mp ran
  rw [handled] at first
  obtain ⟨ran, kept⟩ := Program.runs_inLeft first
  rw [same]
  exact ⟨reply, returned, ran, kept⟩

theorem serves_recv {result : Except Failure (Except IoError IpcRequest)}
    (ran : Serves version requests responses ConnectionIo.recv before result after) :
    result = .ok (received version requests before.1.incoming).1 ∧
      after.1.incoming = (received version requests before.1.incoming).2 ∧
      after.2 = before.2 := by
  obtain ⟨reply, rfl, reads, kept⟩ := serves_transport rfl ran
  obtain ⟨returned, left⟩ := parses_recv reads
  rw [returned, left]
  exact ⟨rfl, rfl, kept⟩

theorem serves_send {response : IpcResponse} {data : Bytes}
    (encoded : responses.encode response = .ok data)
    {result : Except Failure (Except IoError Unit)}
    (ran : Serves version requests responses (ConnectionIo.send response) before result after) :
    result = .ok (.ok ()) ∧ after.1.incoming = before.1.incoming ∧ after.2 = before.2 := by
  obtain ⟨reply, rfl, writes, kept⟩ := serves_transport rfl ran
  obtain ⟨returned, left⟩ := transfers_send encoded writes
  rw [returned, left]
  exact ⟨rfl, rfl, kept⟩

theorem serves_doWork {request : IpcRequest} {result : Except Failure IpcResponse}
    (ran : Serves version requests responses (ConnectionIo.doWork request) before result after) :
    (∃ answer : Answer responses, result = .ok answer.val) ∧
      after = (before.1, before.2 ++ [request]) := by
  obtain ⟨choice, returned, same⟩ := ran
  exact ⟨⟨choice.2, returned⟩, same⟩

theorem serves_saveState {result : Except Failure Unit}
    (ran : Serves version requests responses ConnectionIo.saveState before result after) :
    result = .ok () ∧ after = before := by
  obtain ⟨choice, returned, same⟩ := ran
  exact ⟨returned, same⟩

/-- One turn executes the request of the frame the stream begins with; without
such a frame it is the last one. -/
theorem serves_turn {result : Except Failure Bool}
    (ran : Serves version requests responses connectionTurn before result after) :
    (∃ frame : Frame version requests, before.1.incoming = frame.bytes ++ after.1.incoming ∧
      result = .ok true ∧ after.2 = before.2 ++ [frame.message]) ∨
    ((∀ frame : Frame version requests, ¬ frame.bytes <+: before.1.incoming) ∧
      result = .ok false ∧ after.2 = before.2) := by
  rcases serves_bind.mp ran with ⟨_, _, first⟩ | ⟨outcome, middle, first, handled⟩
  · cases (serves_recv first).1
  obtain ⟨returned, left, kept⟩ := serves_recv first
  cases parsed : received version requests before.1.incoming with | mk outcome rest =>
    rw [parsed] at returned left
    cases returned
    cases outcome with
    | ok req =>
        obtain ⟨frame, holds, rfl⟩ := received_ok parsed
        rcases serves_bind.mp handled with ⟨_, _, failed⟩ | ⟨response, answered, worked, sending⟩
        · obtain ⟨_, impossible⟩ := (serves_doWork failed).1
          cases impossible
        obtain ⟨⟨answer, answers⟩, rfl⟩ := serves_doWork worked
        cases answers
        obtain ⟨data, encoded⟩ := answer.property
        rcases serves_bind.mp sending with ⟨_, _, failed⟩ | ⟨sent, last, sends, ended⟩
        · cases (serves_send encoded failed).1
        obtain ⟨returned, behind, recorded⟩ := serves_send encoded sends
        cases returned
        obtain ⟨rfl, rfl⟩ := ended
        refine .inl ⟨frame, ?_, rfl, ?_⟩
        · rw [behind, left]
          exact holds
        · rw [recorded, kept]
    | error err =>
        have none : ∀ frame : Frame version requests, ¬ frame.bytes <+: before.1.incoming := by
          intro frame ⟨more, begins⟩
          rw [← begins, received_frame] at parsed
          cases parsed
        refine .inr ⟨none, ?_⟩
        by_cases closed : err.kind = .connectionReset
        · simp only [if_pos closed] at handled
          rcases serves_bind.mp handled with ⟨_, _, saving⟩ | ⟨_, saved, saving, ended⟩
          · cases (serves_saveState saving).1
          · obtain ⟨_, rfl⟩ := serves_saveState saving
            obtain ⟨rfl, rfl⟩ := ended
            exact ⟨rfl, kept⟩
        · simp only [if_neg closed] at handled
          obtain ⟨rfl, rfl⟩ := handled
          exact ⟨rfl, kept⟩

/-- Turn after turn the requests of the longest run of frames are executed. -/
theorem serves_loop {turns : Nat} (enough : before.1.incoming.length < turns) {result : Except Failure Unit}
    (ran : Serves version requests responses (connectionLoop turns) before result after) :
    ∃ frames : List (Frame version requests), ∃ rest,
      before.1.incoming = frames.flatMap Frame.bytes ++ rest ∧
      (∀ frame : Frame version requests, ¬ frame.bytes <+: rest) ∧
      after.2 = before.2 ++ frames.map Frame.message := by
  induction turns generalizing before with
  | zero => omega
  | succ turns ih =>
      rcases serves_bind.mp ran with ⟨_, _, first⟩ | ⟨more, middle, first, later⟩
      · rcases serves_turn first with ⟨_, _, impossible, _⟩ | ⟨_, impossible, _⟩ <;>
          cases impossible
      rcases serves_turn first with ⟨frame, holds, returned, executed⟩ |
        ⟨none, returned, executed⟩
      · cases returned
        have shorter : middle.1.incoming.length < turns := by
          have length := congrArg List.length holds
          have some := List.length_pos_iff.mpr frame.bytes_ne_nil
          rw [List.length_append] at length
          omega
        obtain ⟨frames, rest, split, last, recorded⟩ := ih shorter later
        refine ⟨frame :: frames, rest, ?_, last, ?_⟩
        · rw [holds, split, List.flatMap_cons, List.append_assoc]
        · rw [recorded, executed, List.append_assoc, List.map_cons, List.singleton_append]
      · cases returned
        obtain ⟨_, rfl⟩ := later
        exact ⟨[], before.1.incoming, rfl, none, by rw [executed]; simp⟩

/-- The executed requests are those of the longest run of frames behind a greeting
of the server's version. -/
def ExecutesPrefix (version : Version) (requests : MessageCodec IpcRequest) (bytes : Bytes)
    (executed : List IpcRequest) : Prop :=
  (¬ greeting version <+: bytes → executed = []) ∧
  ∀ stream, bytes = greeting version ++ stream →
    ∃ frames : List (Frame version requests), ∃ rest,
      stream = frames.flatMap Frame.bytes ++ rest ∧
      (∀ frame : Frame version requests, ¬ frame.bytes <+: rest) ∧
      executed = frames.map Frame.message

theorem serves_executesPrefix {bytes : Bytes} {turns : Nat} (enough : bytes.length ≤ turns)
    {result : Except Failure Unit}
    (ran : Serves version requests responses (processIpcConnection turns) (⟨bytes, []⟩, []) result
      after) : ExecutesPrefix version requests bytes after.2 := by
  rcases serves_bind.mp ran with ⟨_, _, first⟩ | ⟨outcome, middle, first, later⟩
  · obtain ⟨_, impossible, _⟩ := serves_transport rfl first
    cases impossible
  obtain ⟨reply, returned, shaken, kept⟩ := serves_transport rfl first
  cases returned
  rcases transfers_acceptHandshake shaken with ⟨rest, holds, rfl, left⟩ | ⟨refused, ⟨error, rfl⟩, _⟩
  · have length := congrArg List.length holds
    simp only [greeting, magic, List.length_append, List.length_cons] at length
    obtain ⟨frames, last, split, none, executed⟩ :=
      serves_loop (by rw [left]; simp only; omega) later
    refine ⟨fun other => absurd ⟨rest, holds.symm⟩ other, fun stream same => ?_⟩
    have same : stream = rest := List.append_cancel_left (same.symm.trans holds)
    refine ⟨frames, last, ?_, none, ?_⟩
    · rw [same, ← split, left]
    · rw [executed, kept, List.nil_append]
  · obtain ⟨_, rfl⟩ := later
    refine ⟨fun _ => kept, fun stream same => ?_⟩
    exact absurd ⟨stream, same.symm⟩ refused

def SmallBuffer : (streamOps.sum daemonCalls).Operation → Prop
  | .inl operation => operation.Small
  | .inr _ => True

theorem onWire_small {α : Type} (version : Version) (requests : MessageCodec IpcRequest)
    (responses : MessageCodec IpcResponse) (computation : ConnectionIo α) :
    Uses SmallBuffer (onWire version requests responses computation) := by
  have transport : ∀ {α : Type} {computation : IpcIo α}, Uses StreamOp.Small computation →
      (computation.run.inLeft (J := daemonCalls)).Uses SmallBuffer :=
    Program.uses_inLeft fun _ small => small
  refine Program.expand_uses computation.run fun operation => ?_
  cases operation with
  | acceptHandshake => exact transport (acceptHandshake_small version)
  | recv => exact transport (recv_small version requests)
  | send response => exact transport (send_small version responses response)
  | doWork request => exact ⟨trivial, fun _ => trivial⟩
  | saveState => exact ⟨trivial, fun _ => trivial⟩

/-- Whatever a peer writes, and however it is read: the requests of the longest
run of frames behind a greeting are executed, no larger buffer is allocated than
a payload may need, and a client gets through the handshake exactly when the
versions agree, after which neither side turns a frame away for its version. -/
theorem connection_executes_prefix (server : Version) (requests : MessageCodec IpcRequest)
    (responses : MessageCodec IpcResponse) :
    (∀ {bytes turns result after}, bytes.length ≤ turns →
      Serves server requests responses (processIpcConnection turns) (⟨bytes, []⟩, []) result after →
      ExecutesPrefix server requests bytes after.2) ∧
    (∀ turns, Uses SmallBuffer (onWire server requests responses (processIpcConnection turns))) ∧
    ∀ {client connected accepted}, Handshake client server connected accepted →
      ((∃ daemonVersion, connected = .ok daemonVersion) ↔ client.Agrees server) ∧
      ((∃ daemonVersion, connected = .ok daemonVersion) →
        AcceptsVersion client server ∧ AcceptsVersion server client) := by
  refine ⟨fun enough ran => serves_executesPrefix enough ran,
    fun turns => onWire_small server requests responses _, fun shaken => ?_⟩
  have connects := shaken.connected_iff.1
  refine ⟨connects, fun connected => ?_⟩
  have agrees := connects.mp connected
  exact ⟨acceptsVersion_of_agrees agrees,
    acceptsVersion_of_agrees ⟨agrees.1.symm, agrees.2.symm⟩⟩

/-- The encoding of the responses without fields. -/
def acknowledgements : MessageCodec IpcResponse where
  encode
    | .success => .ok [0]
    | .telemetryDisabledInfo => .ok [8]
    | _ => .error "not an acknowledgement"
  decode
    | 0 :: _ => .ok .success
    | 8 :: _ => .ok .telemetryDisabledInfo
    | _ => .error "not an acknowledgement"
  decode_encode := by
    intro message data encoded
    cases message <;> cases encoded <;> rfl

instance : Inhabited (Answer acknowledgements) := ⟨.success, [0], rfl⟩

/-- A request, a length above the limit, and a request behind it. -/
def oversizedStream : Bytes :=
  greeting ipcProtocolVersion ++ [1, 0, 0, 0, 0, 4, 0, 1] ++ [0, 0, 0x60, 0, 0, 4, 0] ++
    [1, 0, 0, 0, 0, 4, 0, 2]

def oversizedRun : Except Failure Unit × Stream × List IpcRequest :=
  Program.run (wireSemantics acknowledgements)
    (onWire ipcProtocolVersion requestCodec acknowledgements (processIpcConnection 30)).run
    (List.replicate 40 (3, default)) (⟨oversizedStream, []⟩, [])

/-- Only the first request is executed; a client of another patch level connects. -/
theorem connection_executes_prefix_oversized :
    oversizedRun.2.2 = [.getFansRPM] ∧
    ExecutesPrefix ipcProtocolVersion requestCodec oversizedStream oversizedRun.2.2 ∧
    AcceptsVersion ⟨0, 4, 7⟩ ipcProtocolVersion := by
  obtain ⟨executes, _, connects⟩ :=
    connection_executes_prefix ipcProtocolVersion requestCodec acknowledgements
  have enough : oversizedStream.length ≤ 30 := by decide
  have shaken : Handshake ⟨0, 4, 7⟩ ipcProtocolVersion (.ok (0, 4)) (.ok ()) := {
    streams := ⟨[], [], ⟨[], [76, 67, 67, 0, 4]⟩, ⟨[], [79, 75, 75, 0, 4]⟩,
      Program.run_runs _ [5, 5, 5] _, Program.run_runs _ [5, 5, 5] _⟩ }
  exact ⟨by decide +kernel, executes enough (Program.run_runs _ _ _),
    ((connects shaken).2 ⟨_, rfl⟩).1⟩

end Lecoo.Daemon
