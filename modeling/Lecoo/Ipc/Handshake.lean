import Lecoo.Ipc.Framing

namespace Lecoo.Ipc

open Lecoo.Effects Fallible

/-! # The handshake

A client opens a connection with its version, the server answers with its own
and closes a connection whose versions do not agree.
-/

def magic : Bytes := [0x4C, 0x43, 0x43]

def greeting (version : Version) : Bytes := magic ++ [version.major, version.minor]

def acceptHandshake (version : Version) : IpcIo Unit := do
  let req ← readExact 5
  if req.take 3 ≠ magic then
    IpcIo.fail .invalidData "Invalid magic bytes"
  else
    let clientMajorVer := req.getD 3 0
    let clientMinorVer := req.getD 4 0
    if clientMajorVer ≠ version.major ∨ clientMinorVer ≠ version.minor then
      let _ ← always (IpcIo.writeAll [0x45, 0x52, 0x52, version.major, version.minor]).run
      IpcIo.fail .invalidData
        s!"Version mismatch. Client: v{clientMajorVer}.{clientMinorVer}, Server: v{version.major}.{version.minor}"
    else
      IpcIo.writeAll [0x4F, 0x4B, 0x4B, version.major, version.minor]

/-- What a client makes of a daemon that turned it away. -/
def refusal (version : Version) (daemonMajorVer daemonMinorVer : UInt8) : IoError where
  kind := .connectionRefused
  message := s!"Daemon rejected connection: Version mismatch! Daemon is v{daemonMajorVer}.{daemonMinorVer}, Client is v{version.major}.{version.minor}.{version.patch}. Please update."

/-- `IpcClient::connect` on a stream that was opened: the version of the daemon. -/
def connect (version : Version) : IpcIo (UInt8 × UInt8) := do
  IpcIo.writeAll (greeting version)
  let resp ← readExact 5
  let daemonMajorVer := resp.getD 3 0
  let daemonMinorVer := resp.getD 4 0
  if resp.take 3 = [0x45, 0x52, 0x52] then
    IpcIo.fail .connectionRefused
      s!"Daemon rejected connection: Version mismatch! Daemon is v{daemonMajorVer}.{daemonMinorVer}, Client is v{version.major}.{version.minor}.{version.patch}. Please update."
  else if resp.take 3 ≠ [0x4F, 0x4B, 0x4B] then
    IpcIo.fail .invalidData "Invalid IPC handshake"
  else
    return (daemonMajorVer, daemonMinorVer)

variable {version : Version} {before after : Stream}

theorem acceptHandshake_small (version : Version) :
    Uses StreamOp.Small (acceptHandshake version) := by
  have writes : ∀ bytes, Uses StreamOp.Small (IpcIo.writeAll bytes) :=
    fun _ => ⟨trivial, fun _ => trivial⟩
  refine uses_bind fillBuffer_small fun req => ?_
  split
  · exact uses_throw _
  · dsimp only
    split
    · exact uses_bind (uses_always (writes _)) fun _ => uses_throw _
    · exact writes _

theorem greeting_agrees {client : Version} :
    greeting client = greeting version ↔ client.Agrees version := by
  simp [greeting, Version.Agrees]

theorem transfers_readFive {result : Except IoError Bytes}
    (ran : Transfers (readExact 5) before result after) :
    (∃ first rest, first.length = 5 ∧ before.incoming = first ++ rest ∧ result = .ok first ∧
      after = { before with incoming := rest }) ∨
    (before.incoming.length < 5 ∧ ∃ error, result = .error error) := by
  obtain ⟨returned, left⟩ := parses_fillBuffer 5 _ ran
  by_cases short : before.incoming.length < 5
  · rw [Parser.take_short _ short] at returned
    exact .inr ⟨short, _, returned⟩
  · rw [Parser.take, if_neg short] at returned left
    refine .inl ⟨before.incoming.take 5, before.incoming.drop 5, ?_, ?_, returned, left⟩
    · rw [List.length_take]
      omega
    · exact (List.take_append_drop 5 _).symm

theorem transfers_writeAll_discarded {bytes : Bytes}
    {result : Except IoError (Except IoError Unit)} :
    Transfers (always (IpcIo.writeAll bytes).run) before result after ↔
      result = .ok (.ok ()) ∧ after = { before with outgoing := before.outgoing ++ bytes } := by
  rw [Transfers, Fallible.runs_always]
  constructor
  · intro ⟨value, same, written⟩
    obtain ⟨rfl, left⟩ := transfers_writeAll.mp written
    exact ⟨same, left⟩
  · intro ⟨same, left⟩
    exact ⟨.ok (), same, transfers_writeAll.mpr ⟨rfl, left⟩⟩

/-- The server accepts a greeting of its own version and nothing else; a client
of another version is told before the connection is closed. -/
theorem transfers_acceptHandshake {result : Except IoError Unit}
    (ran : Transfers (acceptHandshake version) before result after) :
    (∃ rest, before.incoming = greeting version ++ rest ∧ result = .ok () ∧ after =
      { incoming := rest, outgoing := before.outgoing ++ [0x4F, 0x4B, 0x4B, version.major,
        version.minor] }) ∨
    (¬ greeting version <+: before.incoming ∧ (∃ error, result = .error error) ∧
      ∀ client : Version, greeting client <+: before.incoming → after.outgoing =
        before.outgoing ++ [0x45, 0x52, 0x52, version.major, version.minor]) := by
  rcases Fallible.runs_bind.mp ran with ⟨error, rfl, first⟩ | ⟨req, middle, first, ran⟩
  · rcases transfers_readFive first with ⟨_, _, _, _, impossible, _⟩ | ⟨short, _⟩
    · cases impossible
    have never : ∀ client : Version, ¬ greeting client <+: before.incoming := by
      intro client sent
      have length := sent.length_le
      simp only [greeting, magic, List.length_append, List.length_cons, List.length_nil] at length
      omega
    exact .inr ⟨never version, ⟨error, rfl⟩, fun client sent => absurd sent (never client)⟩
  rcases transfers_readFive first with ⟨bytes, rest, five, holds, returned, rfl⟩ | ⟨_, _, impossible⟩
  swap
  · cases impossible
  cases returned
  have sent : ∀ client : Version, greeting client <+: before.incoming → req = greeting client := by
    intro client sent
    rw [holds] at sent
    have prefixed := List.prefix_of_prefix_length_le sent (List.prefix_append req rest)
      (Nat.le_of_eq five.symm)
    exact (prefixed.eq_of_length five.symm).symm
  obtain ⟨a, b, c, major, minor, rfl⟩ : ∃ a b c major minor, req = [a, b, c, major, minor] := by
    match req, five with
    | [a, b, c, major, minor], _ => exact ⟨a, b, c, major, minor, rfl⟩
  have notGreeting : ∀ client : Version, [a, b, c] ≠ magic ∨ major ≠ client.major ∨
      minor ≠ client.minor → ¬ greeting client <+: before.incoming := by
    intro client differs prefixed
    have same := sent client prefixed
    simp only [greeting, magic, List.cons_append, List.nil_append, List.cons.injEq] at same
    rcases differs with differs | differs | differs
    · exact differs (by rw [same.1, same.2.1, same.2.2.1]; rfl)
    · exact differs same.2.2.2.1
    · exact differs same.2.2.2.2.1
  by_cases magical : [a, b, c] = magic
  · have taken : [a, b, c, major, minor].take 3 = magic := magical
    by_cases differs : major ≠ version.major ∨ minor ≠ version.minor
    · simp only [taken, ne_eq, not_true_eq_false, if_false] at ran
      rw [if_pos (by exact differs)] at ran
      have refused := (Fallible.runs_bind_sure transfers_writeAll_discarded).mp ran
      refine .inr ⟨notGreeting version (.inr differs), ⟨_, refused.1⟩, fun client _ => ?_⟩
      rw [refused.2]
    · simp only [taken, ne_eq, not_true_eq_false, if_false] at ran
      rw [if_neg (by exact differs)] at ran
      obtain ⟨returned, left⟩ := transfers_writeAll.mp ran
      obtain ⟨sameMajor, sameMinor⟩ := not_or.mp differs
      refine .inl ⟨rest, ?_, returned, left⟩
      rw [holds, greeting, ← magical, ← not_not.mp sameMajor, ← not_not.mp sameMinor]
      rfl
  · have taken : [a, b, c, major, minor].take 3 ≠ magic := magical
    simp only [taken, ne_eq, not_false_eq_true, if_true] at ran
    refine .inr ⟨notGreeting version (.inl magical), ⟨_, ran.1⟩, fun client prefixed => ?_⟩
    exact absurd prefixed (notGreeting client (.inl magical))

/-- The client sends its greeting and goes by the first three bytes of the answer. -/
theorem transfers_connect {result : Except IoError (UInt8 × UInt8)}
    (ran : Transfers (connect version) before result after) :
    after.outgoing = before.outgoing ++ greeting version ∧ ∀ major minor rest,
      (before.incoming = [0x4F, 0x4B, 0x4B, major, minor] ++ rest → result = .ok (major, minor)) ∧
      (before.incoming = [0x45, 0x52, 0x52, major, minor] ++ rest →
        result = .error (refusal version major minor)) := by
  have answered := (Fallible.runs_bind_sure transfers_writeAll).mp ran
  rcases Fallible.runs_bind.mp answered with ⟨error, rfl, first⟩ | ⟨resp, middle, first, judged⟩
  · rcases transfers_readFive first with ⟨_, _, _, _, impossible, _⟩ | ⟨short, _⟩
    · cases impossible
    obtain ⟨_, left⟩ := parses_fillBuffer 5 _ first
    rw [Parser.take_short _ short] at left
    refine ⟨by rw [left], fun major minor rest => ⟨fun holds => ?_, fun holds => ?_⟩⟩ <;>
      simp only [holds, List.length_append, List.length_cons] at short <;> omega
  rcases transfers_readFive first with ⟨bytes, rest, five, holds, returned, rfl⟩ | ⟨_, _, impossible⟩
  swap
  · cases impossible
  cases returned
  have answer : ∀ {bytes more : Bytes}, before.incoming = bytes ++ more → bytes.length = 5 →
      resp = bytes := by
    intro bytes more same length
    exact (List.append_inj (holds.symm.trans same) (five.trans length.symm)).1
  have kept : after.outgoing = before.outgoing ++ greeting version := by
    split at judged
    · rw [judged.2]
    · split at judged <;> rw [judged.2]
  refine ⟨kept, fun major minor more => ⟨fun same => ?_, fun same => ?_⟩⟩
  · have accepts := answer same rfl
    subst accepts
    exact judged.1
  · have refuses := answer same rfl
    subst refuses
    exact judged.1

/-- A client and a server shake hands: each reads what the other one writes, and
whatever follows on the same stream. -/
structure Handshake (client server : Version) (connected : Except IoError (UInt8 × UInt8))
    (accepted : Except IoError Unit) : Prop where
  streams : ∃ requests responses : Bytes, ∃ clientSide serverSide : Stream,
    Transfers (connect client) ⟨serverSide.outgoing ++ responses, []⟩ connected clientSide ∧
    Transfers (acceptHandshake server) ⟨clientSide.outgoing ++ requests, []⟩ accepted serverSide

theorem Handshake.connected_iff {client server : Version}
    {connected : Except IoError (UInt8 × UInt8)} {accepted : Except IoError Unit}
    (shaken : Handshake client server connected accepted) :
    ((∃ daemonVersion, connected = .ok daemonVersion) ↔ client.Agrees server) ∧
    (accepted = .ok () ↔ client.Agrees server) := by
  obtain ⟨requests, responses, clientSide, serverSide, connects, accepts⟩ := shaken
  obtain ⟨greeted, judges⟩ := transfers_connect connects
  rw [greeted] at accepts
  rcases transfers_acceptHandshake accepts with
    ⟨rest, holds, rfl, answered⟩ | ⟨refused, ⟨error, rfl⟩, told⟩
  · have same : greeting client = greeting server :=
      (List.append_inj holds rfl).1
    have agrees := greeting_agrees.mp same
    have connects := (judges server.major server.minor responses).1 (by rw [answered]; rfl)
    exact ⟨⟨fun _ => agrees, fun _ => ⟨_, connects⟩⟩, ⟨fun _ => agrees, fun _ => rfl⟩⟩
  · have differs : ¬client.Agrees server := by
      intro agrees
      refine refused ?_
      rw [greeting_agrees.mpr agrees]
      exact List.prefix_append _ _
    have written := told client (List.prefix_append _ _)
    have failed := (judges server.major server.minor responses).2 (by rw [written]; rfl)
    refine ⟨⟨?_, fun agrees => absurd agrees differs⟩, ⟨?_, fun agrees => absurd agrees differs⟩⟩
    · intro ⟨_, connected⟩
      rw [failed] at connected
      cases connected
    · intro impossible
      cases impossible

/-- A client of another version is told the version of the server. -/
theorem Handshake.refused {client server : Version}
    {connected : Except IoError (UInt8 × UInt8)} {accepted : Except IoError Unit}
    (shaken : Handshake client server connected accepted) (differs : ¬client.Agrees server) :
    connected = .error (refusal client server.major server.minor) := by
  obtain ⟨requests, responses, clientSide, serverSide, connects, accepts⟩ := shaken
  obtain ⟨greeted, judges⟩ := transfers_connect connects
  rw [greeted] at accepts
  rcases transfers_acceptHandshake accepts with ⟨rest, holds, _⟩ | ⟨_, _, told⟩
  · exact absurd (greeting_agrees.mp (List.append_inj holds rfl).1) differs
  · have written := told client (List.prefix_append _ _)
    exact (judges server.major server.minor responses).2 (by rw [written]; rfl)

/-- No frame of the sender is turned away by the receiver for its version, wherever
the stream breaks off. -/
def AcceptsVersion (sender receiver : Version) : Prop :=
  ∀ (α : Type) (codec : MessageCodec α) (msg : α) (data rest bytes : Bytes) (sent left : Stream)
    (result : Except IoError α), codec.encode msg = .ok data → data.length < 2 ^ 32 →
    Transfers (send sender codec msg) ⟨[], []⟩ (.ok ()) sent → bytes <+: sent.outgoing ++ rest →
    Transfers (recv receiver codec) ⟨bytes, []⟩ result left → result ≠ .error versionError

theorem acceptsVersion_of_agrees {sender receiver : Version} (agrees : sender.Agrees receiver) :
    AcceptsVersion sender receiver := by
  intro α codec msg data rest bytes sent left result encoded fits sends broken receives
  obtain ⟨_, rfl⟩ := transfers_send encoded sends
  simp only [List.nil_append] at broken
  rw [(parses_recv receives).1]
  by_cases short : bytes.length < 7
  · obtain ⟨error, failed, kind⟩ : ∃ error, received receiver codec bytes = (.error error, []) ∧
        error.kind = if bytes = [] then .connectionReset else .unexpectedEof := received_short short
    rw [failed]
    intro mismatch
    rw [Except.error.inj mismatch] at kind
    split at kind <;> cases kind
  rw [List.append_assoc] at broken
  have headed : header sender data.length <+: bytes :=
    List.prefix_of_prefix_length_le (List.prefix_append _ _) broken (by simpa using short)
  obtain ⟨part, rfl⟩ := headed
  have within : part <+: data ++ rest := (List.prefix_append_right_inj _).mp broken
  rw [received_header agrees (by simpa using fits)]
  split
  · simp [sizeError, versionError]
  by_cases missing : part.length < data.length
  · rw [receivedPayload_short missing]
    simp [eofError, versionError]
  · have complete : data <+: part :=
      List.prefix_of_prefix_length_le (List.prefix_append _ _) within (Nat.not_lt.mp missing)
    obtain ⟨more, rfl⟩ := complete
    rw [receivedPayload_append, codec.decode_encode encoded]
    simp [IpcIo.coded]

end Lecoo.Ipc
