import Lecoo.Daemon.Connection
import Lecoo.Ipc.Exchange

namespace Lecoo.Daemon

open Lecoo.Effects Lecoo.Ipc Lecoo.Ec Fallible

/-! # Sessions

A client calls the daemon again and again and goes by the responses.  Both ends
run at their own pace over a transport that delays, cuts and fails what it
likes, and either of them may hang up at any moment.
-/

/-- The calls of a client, each of which is answered. -/
@[reducible] def callOps : Interface where
  Operation := IpcRequest
  Reply _ := IpcResponse

/-- What a client asks for, depending on the responses so far. -/
abbrev Script (α : Type) := Program callOps α

/-- The calls that were answered lead a client to the given rest of its script. -/
def Follows {α : Type} : Script α → List (IpcRequest × IpcResponse) → Script α → Prop
  | script, [], rest => rest = script
  | .perform req next, (asked, res) :: later, rest => asked = req ∧ Follows (next res) later rest
  | .done _, _ :: _, _ => False

theorem follows_nil {α : Type} (script : Script α) : Follows script [] script := by
  cases script <;> rfl

/-- The call a script comes to next. -/
def nextCall {α : Type} : Script α → List IpcRequest
  | .done _ => []
  | .perform req _ => [req]

namespace IpcClient

variable {α : Type} (version : Version) (requests : MessageCodec IpcRequest)
  (responses : MessageCodec IpcResponse)

def request (req : IpcRequest) : IpcIo IpcResponse := do
  send version requests req
  recv version responses

/-- The calls of a script; the first error is what the client ends with. -/
def converse : Script α → IpcIo α
  | .done value => pure value
  | .perform req next => do
      let res ← request version requests responses req
      converse (next res)

def run (script : UInt8 × UInt8 → Script α) : IpcIo α := do
  let daemonVersion ← connect version
  converse version requests responses (script daemonVersion)

end IpcClient

section Client

variable {α : Type} {version : Version} {requests : MessageCodec IpcRequest}
  {responses : MessageCodec IpcResponse} {before now after : Tape UInt8} {script : Script α}

/-- How far a client is: the calls that were answered and what it has left to do, in the
frames it has read and the requests it has written. -/
structure Conversed (version : Version) (requests : MessageCodec IpcRequest)
    (responses : MessageCodec IpcResponse) (script : Script α) (before now : Tape UInt8)
    (exchanges : List (IpcRequest × IpcResponse)) (rest : Script α) : Prop where
  follows : Follows script exchanges rest
  read : ∃ frames : List (Frame version responses),
    before.read ++ frames.flatMap Frame.bytes <+: now.read ∧
    frames.map Frame.message = exchanges.map Prod.snd
  encoded : ∀ req ∈ exchanges.map Prod.fst, ∃ data, requests.encode req = .ok data
  written : now.written <+: before.written ++
    (exchanges.map Prod.fst ++ nextCall rest).flatMap (wire version requests)

theorem Conversed.begin {req : IpcRequest} {next : IpcResponse → Script α}
    (read : before.read <+: now.read)
    (written : ∃ part, part <+: wire version requests req ∧ now.written = before.written ++ part) :
    Conversed version requests responses (.perform req next) before now [] (.perform req next) := by
  obtain ⟨part, within, same⟩ := written
  exact {
    follows := rfl
    read := ⟨[], by simpa using read, rfl⟩
    encoded := by simp
    written := by
      rw [same]
      simpa [nextCall] using within }

theorem Conversed.answered {req : IpcRequest} {next : IpcResponse → Script α}
    {middle : Tape UInt8} {exchanges : List (IpcRequest × IpcResponse)} {rest : Script α}
    {data : Bytes} (encoded : requests.encode req = .ok data) (frame : Frame version responses)
    (reached : middle = { read := before.read ++ frame.bytes,
                          written := before.written ++ wire version requests req })
    (conversed : Conversed version requests responses (next frame.message) middle now exchanges
      rest) :
    Conversed version requests responses (.perform req next) before now
      ((req, frame.message) :: exchanges) rest := by
  obtain ⟨frames, read, same⟩ := conversed.read
  subst reached
  exact {
    follows := ⟨rfl, conversed.follows⟩
    read := ⟨frame :: frames, by simpa using read, by simp [same]⟩
    encoded := by
      intro asked member
      rcases List.mem_cons.mp member with rfl | member
      · exact ⟨data, encoded⟩
      · exact conversed.encoded asked member
    written := by simpa using conversed.written }

theorem tape_request {req : IpcRequest} {res : IpcResponse}
    (ran : Fallible.Runs tapeSemantics (IpcClient.request version requests responses req) before
      (.ok res) after) :
    ∃ data, requests.encode req = .ok data ∧ ∃ frame : Frame version responses,
      frame.message = res ∧ after = { read := before.read ++ frame.bytes,
                                      written := before.written ++ wire version requests req } := by
  obtain ⟨_, middle, sent, received⟩ := Fallible.runs_bind_ok.mp ran
  obtain ⟨data, encoded⟩ := tape_send_encoded sent
  obtain ⟨frame, carried, rfl⟩ := tape_recv received
  rw [(writes_send req).ended sent]
  exact ⟨data, encoded, frame, carried, rfl⟩

theorem passes_request {req : IpcRequest}
    (passes : Fallible.Passes tapeSemantics (IpcClient.request version requests responses req)
      before now) :
    before.read <+: now.read ∧ ∃ part, part <+: wire version requests req ∧
      now.written = before.written ++ part := by
  rcases Fallible.passes_bind.mp passes with sending | ⟨_, middle, sent, receiving⟩
  · obtain ⟨part, within, rfl⟩ := (writes_send req).passing sending
    exact ⟨List.prefix_rfl, part, within, rfl⟩
  · obtain ⟨read, kept⟩ := passes_recv receiving
    rw [(writes_send req).ended sent] at read kept
    exact ⟨read, _, List.prefix_rfl, kept⟩

/-- Wherever a client is, it is so far in its script. -/
theorem passes_converse (passes : Fallible.Passes tapeSemantics
      (IpcClient.converse version requests responses script) before now) :
    ∃ exchanges rest, Conversed version requests responses script before now exchanges rest := by
  induction script generalizing before with
  | done value =>
      rw [Program.passes_done.mp passes]
      exact ⟨[], .done value, rfl, ⟨[], by simp, rfl⟩, by simp, by simp [nextCall]⟩
  | perform req next ih =>
      rcases Fallible.passes_bind.mp passes with early | ⟨res, middle, ran, later⟩
      · obtain ⟨read, written⟩ := passes_request early
        exact ⟨[], _, .begin read written⟩
      · obtain ⟨data, encoded, frame, rfl, reached⟩ := tape_request ran
        obtain ⟨exchanges, rest, conversed⟩ := ih _ later
        exact ⟨_, rest, conversed.answered encoded frame reached⟩

theorem tape_converse {value : α} (ran : Fallible.Runs tapeSemantics
      (IpcClient.converse version requests responses script) before (.ok value) after) :
    ∃ exchanges, Conversed version requests responses script before after exchanges
      (.done value) := by
  induction script generalizing before with
  | done returned =>
      obtain ⟨same, rfl⟩ := ran
      cases same
      exact ⟨[], rfl, ⟨[], by simp, rfl⟩, by simp, by simp [nextCall]⟩
  | perform req next ih =>
      obtain ⟨res, middle, first, later⟩ := Fallible.runs_bind_ok.mp ran
      obtain ⟨data, encoded, frame, rfl, reached⟩ := tape_request first
      obtain ⟨exchanges, conversed⟩ := ih _ later
      exact ⟨_, conversed.answered encoded frame reached⟩

end Client

/-- The requests that were executed and what came out of each. -/
abbrev Log := List (IpcRequest × Except Failure IpcResponse)

/-- The daemon answers as it does; what it executes is recorded. -/
def recordSemantics {κ δ : Type} (daemon : Semantics daemonCalls κ δ) :
    Semantics daemonCalls κ (δ × Log)
  | .doWork request, choice, state =>
      let answered := daemon (.doWork request) choice state.1
      (answered.1, (answered.2, state.2 ++ [(request, answered.1)]))
  | .saveState, choice, state =>
      let answered := daemon .saveState choice state.1
      (answered.1, (answered.2, state.2))

abbrev serverSemantics {κ δ : Type} (daemon : Semantics daemonCalls κ δ) :
    Semantics (streamOps.sum daemonCalls) (Fate × κ) (Tape UInt8 × (δ × Log)) :=
  tapeSemantics.sum (recordSemantics daemon)

section Server

variable {κ δ α β : Type} {daemon : Semantics daemonCalls κ δ} {version : Version}
  {requests : MessageCodec IpcRequest} {responses : MessageCodec IpcResponse}
  {before now after : Tape UInt8 × (δ × Log)}

abbrev Attends (daemon : Semantics daemonCalls κ δ) (version : Version)
    (requests : MessageCodec IpcRequest) (responses : MessageCodec IpcResponse)
    (computation : ConnectionIo α) (before now : Tape UInt8 × (δ × Log)) : Prop :=
  Fallible.Passes (serverSemantics daemon) (onWire version requests responses computation) before
    now

abbrev Concludes (daemon : Semantics daemonCalls κ δ) (version : Version)
    (requests : MessageCodec IpcRequest) (responses : MessageCodec IpcResponse)
    (computation : ConnectionIo α) (before : Tape UInt8 × (δ × Log)) (result : Except Failure α)
    (after : Tape UInt8 × (δ × Log)) : Prop :=
  Fallible.Runs (serverSemantics daemon) (onWire version requests responses computation) before
    result after

theorem attends_bind {computation : ConnectionIo α} {rest : α → ConnectionIo β} :
    Attends daemon version requests responses (computation >>= rest) before now ↔
      Attends daemon version requests responses computation before now ∨
      ∃ value middle,
        Concludes daemon version requests responses computation before (.ok value) middle ∧
        Attends daemon version requests responses (rest value) middle now := by
  rw [Attends, onWire, Fallible.expand_bind, Fallible.passes_bind]
  rfl

theorem concludes_bind {computation : ConnectionIo α} {rest : α → ConnectionIo β} {result : β} :
    Concludes daemon version requests responses (computation >>= rest) before (.ok result) after ↔
      ∃ value middle,
        Concludes daemon version requests responses computation before (.ok value) middle ∧
        Concludes daemon version requests responses (rest value) middle (.ok result) after := by
  rw [Concludes, onWire, Fallible.expand_bind, Fallible.runs_bind_ok]
  rfl

theorem attends_transport {operation : ConnectionOp}
    {computation : Program streamOps (connectionOps.Reply operation)}
    (handled : wireHandler version requests responses operation = computation.inLeft)
    (attends : Attends daemon version requests responses
      (always (Program.request (I := connectionOps) operation)) before now) :
    computation.Passes tapeSemantics before.1 now.1 ∧ now.2 = before.2 := by
  have passes : (computation.inLeft (J := daemonCalls)).Passes (serverSemantics daemon) before
      now := by
    rcases Program.passes_bind.mp attends with early | ⟨reply, middle, ran, last⟩
    · exact handled ▸ early
    · rw [Program.passes_done.mp last, ← handled]
      exact ran.passes
  exact Program.passes_inLeft passes

theorem concludes_transport {operation : ConnectionOp}
    {computation : Program streamOps (connectionOps.Reply operation)}
    (handled : wireHandler version requests responses operation = computation.inLeft)
    {reply : connectionOps.Reply operation}
    (ran : Concludes daemon version requests responses
      (always (Program.request (I := connectionOps) operation)) before (.ok reply) after) :
    computation.Runs tapeSemantics before.1 reply after.1 ∧ after.2 = before.2 := by
  obtain ⟨answer, middle, first, returned, same⟩ := Program.runs_bind.mp ran
  cases returned
  rw [handled] at first
  rw [same]
  exact Program.runs_inLeft first

/-- What is written for a request that was executed. -/
def answer (version : Version) (responses : MessageCodec IpcResponse) :
    IpcRequest × Except Failure IpcResponse → Bytes
  | (_, .ok response) => wire version responses response
  | (_, .error _) => []

/-- A request whose response was written. -/
def Responded (responses : MessageCodec IpcResponse)
    (entry : IpcRequest × Except Failure IpcResponse) : Prop :=
  ∃ response data, entry.2 = .ok response ∧ responses.encode response = .ok data

/-- What was executed between two moments is what the frames ask for that were read;
all but the last of the requests were answered. -/
structure Executes (version : Version) (requests : MessageCodec IpcRequest)
    (responses : MessageCodec IpcResponse) (before now : Tape UInt8 × (δ × Log))
    (entries : Log) : Prop where
  read : ∃ frames : List (Frame version requests),
    before.1.read ++ frames.flatMap Frame.bytes <+: now.1.read ∧
    frames.map Frame.message = entries.map Prod.fst
  recorded : now.2.2 = before.2.2 ++ entries
  answered : ∀ entry ∈ entries.dropLast, Responded responses entry
  written : now.1.written <+: before.1.written ++ entries.flatMap (answer version responses)

/-- While nothing is executed, something may be read. -/
theorem Executes.nothing (read : before.1.read <+: now.1.read)
    (written : now.1.written = before.1.written) (recorded : now.2.2 = before.2.2) :
    Executes version requests responses before now [] where
  read := ⟨[], by simpa using read, rfl⟩
  recorded := by simpa using recorded
  answered := by simp
  written := by simp [written]

theorem Executes.last (frame : Frame version requests) (outcome : Except Failure IpcResponse)
    (part : Bytes) (read : now.1.read = before.1.read ++ frame.bytes)
    (within : part <+: answer version responses (frame.message, outcome))
    (written : now.1.written = before.1.written ++ part)
    (recorded : now.2.2 = before.2.2 ++ [(frame.message, outcome)]) :
    Executes version requests responses before now [(frame.message, outcome)] where
  read := ⟨[frame], by simp [read], rfl⟩
  recorded := recorded
  answered := by simp
  written := by
    rw [written]
    simpa using within

theorem Executes.next {frame : Frame version requests} {response : IpcResponse} {data : Bytes}
    {middle : Tape UInt8 × (δ × Log)} {entries : Log}
    (encoded : responses.encode response = .ok data)
    (turned : middle.1 = { read := before.1.read ++ frame.bytes,
                           written := before.1.written ++ wire version responses response })
    (recorded : middle.2.2 = before.2.2 ++ [(frame.message, .ok response)])
    (later : Executes version requests responses middle now entries) :
    Executes version requests responses before now ((frame.message, .ok response) :: entries) := by
  obtain ⟨frames, read, same⟩ := later.read
  have written := later.written
  rw [turned] at read written
  exact {
    read := ⟨frame :: frames, by simpa using read, by simp [same]⟩
    recorded := by rw [later.recorded, recorded]; simp
    answered := by
      intro entry member
      cases entries with
      | nil => cases member
      | cons first rest =>
          rcases List.mem_cons.mp member with rfl | member
          · exact ⟨response, data, rfl, encoded⟩
          · exact later.answered entry member
    written := by simpa [answer] using written }

theorem attends_saveState
    (attends : Attends daemon version requests responses ConnectionIo.saveState before now) :
    now.1 = before.1 ∧ now.2.2 = before.2.2 := by
  rcases Program.passes_perform.mp attends with rfl | ⟨choice, later⟩
  · exact ⟨rfl, rfl⟩
  · rw [Program.passes_done.mp later]
    exact ⟨rfl, rfl⟩

theorem attends_doWork {req : IpcRequest}
    (attends : Attends daemon version requests responses (ConnectionIo.doWork req) before now) :
    now = before ∨ ∃ outcome, now.1 = before.1 ∧ now.2.2 = before.2.2 ++ [(req, outcome)] := by
  rcases Program.passes_perform.mp attends with rfl | ⟨choice, later⟩
  · exact .inl rfl
  · rw [Program.passes_done.mp later]
    exact .inr ⟨_, rfl, rfl⟩

theorem concludes_doWork {req : IpcRequest} {response : IpcResponse}
    (ran : Concludes daemon version requests responses (ConnectionIo.doWork req) before
      (.ok response) after) :
    after.1 = before.1 ∧ after.2.2 = before.2.2 ++ [(req, .ok response)] := by
  obtain ⟨choice, returned, rfl⟩ := ran
  exact ⟨rfl, congrArg (fun outcome => before.2.2 ++ [(req, outcome)]) returned.symm⟩

/-- Whatever happens in a turn, no more than the one request of its frame is executed. -/
theorem attends_turn
    (attends : Attends daemon version requests responses connectionTurn before now) :
    ∃ entries, Executes version requests responses before now entries := by
  rcases attends_bind.mp attends with early | ⟨outcome, middle, received, handling⟩
  · obtain ⟨passes, kept⟩ := attends_transport rfl early
    obtain ⟨read, written⟩ := passes_recv passes
    exact ⟨[], .nothing read written (by rw [kept])⟩
  obtain ⟨received, kept⟩ := concludes_transport rfl received
  cases outcome with
  | error err =>
      obtain ⟨read, written⟩ := passes_recv (Program.Runs.passes received)
      have ended : now.1 = middle.1 ∧ now.2.2 = middle.2.2 := by
        by_cases closed : err.kind = .connectionReset
        · simp only [if_pos closed] at handling
          rcases attends_bind.mp handling with saving | ⟨_, saved, ran, last⟩
          · exact attends_saveState saving
          · rw [Program.passes_done.mp last]
            exact attends_saveState ran.passes
        · simp only [if_neg closed] at handling
          rw [Program.passes_done.mp handling]
          exact ⟨rfl, rfl⟩
      refine ⟨[], .nothing ?_ ?_ ?_⟩
      · rw [ended.1]
        exact read
      · rw [ended.1]
        exact written
      · rw [ended.2, kept]
  | ok req =>
      obtain ⟨frame, rfl, consumed⟩ := tape_recv received
      have read : middle.1.read = before.1.read ++ frame.bytes := by rw [consumed]
      have silent : middle.1.written = before.1.written := by rw [consumed]
      have unrecorded : middle.2.2 = before.2.2 := by rw [kept]
      rcases attends_bind.mp handling with working | ⟨res, worked, ran, sending⟩
      · rcases attends_doWork working with rfl | ⟨outcome, same, recorded⟩
        · exact ⟨[], .nothing (by simp [read]) silent unrecorded⟩
        · refine ⟨_, .last frame outcome [] ?_ List.nil_prefix ?_ ?_⟩
          · rw [same, read]
          · rw [same, silent, List.append_nil]
          · rw [recorded, unrecorded]
      · obtain ⟨same, recorded⟩ := concludes_doWork ran
        have sent : ∃ part, part <+: wire version responses res ∧
            now.1 = { worked.1 with written := worked.1.written ++ part } ∧ now.2 = worked.2 := by
          rcases attends_bind.mp sending with early | ⟨reply, last, ran, ended⟩
          · obtain ⟨passes, kept⟩ := attends_transport rfl early
            obtain ⟨part, within, written⟩ := (writes_send res).passing passes
            exact ⟨part, within, written, kept⟩
          · obtain ⟨ran, kept⟩ := concludes_transport rfl ran
            obtain ⟨part, within, written⟩ := (writes_send res).passing (Program.Runs.passes ran)
            have ended : now = last := by
              cases reply <;> exact Program.passes_done.mp ended
            rw [ended]
            exact ⟨part, within, written, kept⟩
        obtain ⟨part, within, written, unchanged⟩ := sent
        refine ⟨_, .last frame (.ok res) part ?_ within ?_ ?_⟩
        · rw [written, same, read]
        · rw [written, same, silent]
        · rw [unchanged, recorded, unrecorded]

/-- A turn that is followed by another one has answered a request. -/
theorem concludes_turn
    (ran : Concludes daemon version requests responses connectionTurn before (.ok true) after) :
    ∃ (frame : Frame version requests) (response : IpcResponse) (data : Bytes),
      responses.encode response = .ok data ∧
      after.1 = { read := before.1.read ++ frame.bytes,
                  written := before.1.written ++ wire version responses response } ∧
      after.2.2 = before.2.2 ++ [(frame.message, .ok response)] := by
  obtain ⟨outcome, middle, received, handling⟩ := concludes_bind.mp ran
  obtain ⟨received, kept⟩ := concludes_transport rfl received
  cases outcome with
  | error err =>
      by_cases closed : err.kind = .connectionReset
      · simp only [if_pos closed] at handling
        obtain ⟨_, _, _, last⟩ := concludes_bind.mp handling
        cases last.1
      · simp only [if_neg closed] at handling
        cases handling.1
  | ok req =>
      obtain ⟨frame, rfl, consumed⟩ := tape_recv received
      obtain ⟨res, worked, ran, sending⟩ := concludes_bind.mp handling
      obtain ⟨same, recorded⟩ := concludes_doWork ran
      obtain ⟨reply, last, ran, ended⟩ := concludes_bind.mp sending
      obtain ⟨ran, unchanged⟩ := concludes_transport rfl ran
      cases reply with
      | error error => cases ended.1
      | ok done =>
          obtain ⟨data, encoded⟩ := tape_send_encoded ran
          refine ⟨frame, res, data, encoded, ?_, ?_⟩
          · rw [ended.2, (writes_send res).ended ran, same, consumed]
          · rw [ended.2, unchanged, recorded, kept]

theorem attends_loop {turns : Nat}
    (attends : Attends daemon version requests responses (connectionLoop turns) before now) :
    ∃ entries, Executes version requests responses before now entries := by
  induction turns generalizing before with
  | zero =>
      rw [Program.passes_done.mp attends]
      exact ⟨[], .nothing List.prefix_rfl rfl rfl⟩
  | succ turns ih =>
      rcases attends_bind.mp attends with early | ⟨more, middle, ran, later⟩
      · exact attends_turn early
      · cases more with
        | false =>
            rw [Program.passes_done.mp later]
            exact attends_turn ran.passes
        | true =>
            obtain ⟨frame, response, data, encoded, turned, recorded⟩ := concludes_turn ran
            obtain ⟨entries, executes⟩ := ih later
            exact ⟨_, executes.next encoded turned recorded⟩

/-- A server that has written a whole acceptance has read a greeting of its version. -/
theorem attends_connection {turns : Nat} {world : δ}
    (attends : Attends daemon version requests responses (processIpcConnection turns)
      (.blank UInt8, (world, [])) now) :
    (now.2.2 = [] ∧ ∀ major minor, ¬ accepting major minor <+: now.1.written) ∨
    ∃ entries, Executes version requests responses
      (⟨greeting version, accepting version.major version.minor⟩, (world, [])) now entries := by
  have shaking : ∀ {now : Tape UInt8 × (δ × Log)},
      Fallible.Passes tapeSemantics (acceptHandshake version) (.blank UInt8) now.1 →
      now.2 = (world, []) →
      (now.2.2 = [] ∧ ∀ major minor, ¬ accepting major minor <+: now.1.written) ∨
      ∃ entries, Executes version requests responses
        (⟨greeting version, accepting version.major version.minor⟩, (world, [])) now entries := by
    intro now passes kept
    obtain ⟨part, written, refused | ⟨rfl, read⟩⟩ := passes_acceptHandshake passes
    · refine .inl ⟨by rw [kept], ?_⟩
      rw [written]
      exact refused
    · refine .inr ⟨[], .nothing ?_ written (by rw [kept])⟩
      rw [read]
      exact List.prefix_rfl
  rcases attends_bind.mp attends with early | ⟨outcome, middle, ran, later⟩
  · obtain ⟨passes, kept⟩ := attends_transport rfl early
    exact shaking passes kept
  · obtain ⟨ran, kept⟩ := concludes_transport rfl ran
    cases outcome with
    | error error =>
        rw [Program.passes_done.mp later]
        exact shaking (Program.Runs.passes ran) kept
    | ok done =>
        have same := tape_acceptHandshake ran
        have start : middle =
            (⟨greeting version, accepting version.major version.minor⟩, (world, [])) :=
          Prod.ext same kept
        rw [start] at later
        exact .inr (attends_loop later)

/-- What the calls keep of the daemon and its record holds wherever a connection stands. -/
theorem attends_kept {turns : Nat} {world : δ} (holds : δ × Log → Prop)
    (kept : ∀ call choice state, holds state → holds (recordSemantics daemon call choice state).2)
    (attends : Attends daemon version requests responses (processIpcConnection turns)
      (.blank UInt8, (world, [])) now) (initially : holds (world, [])) : holds now.2 := by
  refine Program.Uses.passes (fun before now : Tape UInt8 × (δ × Log) => holds before.2 → holds now.2)
    (Program.uses_any _) (fun _ held => held) (fun first second held => second (first held)) ?_
    attends initially
  intro operation choice state _ held
  cases operation with
  | inl operation => exact held
  | inr call => exact kept call choice.2 state.2 held

/-- The responses that were recorded are ones the daemon gives. -/
theorem recorded_given {turns : Nat} {world : δ} (given : IpcResponse → Prop)
    (gives : ∀ request choice state response,
      (daemon (.doWork request) choice state).1 = .ok response → given response)
    (attends : Attends daemon version requests responses (processIpcConnection turns)
      (.blank UInt8, (world, [])) now) {req : IpcRequest} {response : IpcResponse}
    (member : (req, .ok response) ∈ now.2.2) : given response := by
  have kept : ∀ entry ∈ now.2.2, ∀ response, entry.2 = .ok response → given response := by
    refine attends_kept (fun state => ∀ entry ∈ state.2, ∀ response, entry.2 = .ok response →
      given response) ?_ attends (by simp)
    intro call choice state held
    cases call with
    | saveState => exact held
    | doWork request =>
        intro entry member response answered
        rcases List.mem_append.mp member with member | member
        · exact held entry member response answered
        · rw [List.mem_singleton.mp member] at answered
          exact gives request choice state.1 response answered
  exact kept _ member response rfl

end Server

/-- A call that was answered. -/
def completed : IpcRequest × IpcResponse → IpcRequest × Except Failure IpcResponse
  | (req, res) => (req, .ok res)

/-- What was executed are the calls of a script that were answered and at most the
one that comes next. -/
def Plays {α : Type} (script : Script α) (log : Log) : Prop :=
  ∃ exchanges rest pending, Follows script exchanges rest ∧
    log = exchanges.map completed ++ pending ∧ pending.map Prod.fst <+: nextCall rest

section Session

variable {α κ δ : Type} {client server : Version} {requests : MessageCodec IpcRequest}
  {responses : MessageCodec IpcResponse} {daemon : Semantics daemonCalls κ δ}

/-- The requests asked for and the responses received, matched with what was executed. -/
theorem matched {exchanges : List (IpcRequest × IpcResponse)} {next : List IpcRequest} {log : Log}
    (received : exchanges.map Prod.snd <+: log.filterMap fun entry => entry.2.toOption)
    (asked : log.map Prod.fst <+: exchanges.map Prod.fst ++ next)
    (answered : ∀ entry ∈ log.dropLast, Responded responses entry) :
    ∃ pending, log = exchanges.map completed ++ pending ∧ pending.map Prod.fst <+: next := by
  induction exchanges generalizing log with
  | nil => exact ⟨log, rfl, asked⟩
  | cons exchange exchanges ih =>
      cases log with
      | nil => simp at received
      | cons entry log =>
          obtain ⟨same, asked⟩ := List.cons_prefix_cons.mp asked
          have further : ∀ entry ∈ log.dropLast, Responded responses entry := by
            intro other member
            cases log with
            | nil => cases member
            | cons _ _ => exact answered other (List.mem_cons_of_mem _ member)
          cases outcome : entry.2 with
          | ok response =>
              rw [List.filterMap_cons, outcome] at received
              obtain ⟨replied, received⟩ := List.cons_prefix_cons.mp received
              obtain ⟨pending, rfl, next⟩ := ih received asked further
              refine ⟨pending, ?_, next⟩
              have entered : entry = completed exchange :=
                Prod.ext same (by rw [outcome]; exact congrArg Except.ok replied.symm)
              rw [entered]
              rfl
          | error failure =>
              rw [List.filterMap_cons, outcome] at received
              cases log with
              | nil => simp [Except.toOption] at received
              | cons _ _ =>
                  obtain ⟨response, _, impossible, _⟩ := answered entry (by simp)
                  rw [outcome] at impossible
                  cases impossible

theorem flatMap_answer (version : Version) (log : Log) :
    log.flatMap (answer version responses) =
      (log.filterMap fun entry => entry.2.toOption).flatMap (wire version responses) := by
  induction log with
  | nil => rfl
  | cons entry log ih =>
      obtain ⟨req, outcome⟩ := entry
      cases outcome with
      | ok response => simp [answer, ih, Except.toOption]
      | error failure => simp [answer, ih, Except.toOption]

theorem encodable_dropLast {log : Log}
    (answered : ∀ entry ∈ log.dropLast, Responded responses entry) {response : IpcResponse}
    (member : response ∈ (log.filterMap fun entry => entry.2.toOption).dropLast) :
    ∃ data, responses.encode response = .ok data := by
  rcases List.eq_nil_or_concat' log with rfl | ⟨earlier, last, rfl⟩
  · cases member
  have earlierMember : response ∈ earlier.filterMap fun entry => entry.2.toOption := by
    rw [List.filterMap_append] at member
    cases outcome : last.2.toOption with
    | none => exact List.mem_of_mem_dropLast (by simpa [outcome] using member)
    | some value => simpa [outcome] using member
  obtain ⟨entry, recorded, outcome⟩ := List.mem_filterMap.mp earlierMember
  rw [List.dropLast_concat] at answered
  obtain ⟨first, data, returned, encoded⟩ := answered entry recorded
  rw [returned] at outcome
  exact ⟨data, Option.some.inj outcome ▸ encoded⟩

/-- Both sides of a session. -/
def session (daemon : Semantics daemonCalls κ δ) :
    Machine (Link streamOps (streamOps.sum daemonCalls) (Except IoError α) (Except Failure Unit)
      (Tape UInt8) (Tape UInt8 × (δ × Log))) (Move Fate (Fate × κ)) :=
  link tapeSemantics (serverSemantics daemon) id Prod.fst

/-- A client that is about to connect, and the thread the daemon starts for it. -/
def dialled (client server : Version) (requests : MessageCodec IpcRequest)
    (responses : MessageCodec IpcResponse) (script : UInt8 × UInt8 → Script α) (turns : Nat)
    (world : δ) : Link streamOps (streamOps.sum daemonCalls) (Except IoError α)
      (Except Failure Unit) (Tape UInt8) (Tape UInt8 × (δ × Log)) where
  left := { todo := (IpcClient.run client requests responses script).run, now := .blank UInt8 }
  right := {
    todo := (onWire server requests responses (processIpcConnection turns)).run
    now := (.blank UInt8, (world, [])) }

/-- What a client that is connected has read and written, against what the server has. -/
theorem converses {script : Script α} {daemonVersion : UInt8 × UInt8} {world : δ}
    {clientNow : Tape UInt8} {serverNow : Tape UInt8 × (δ × Log)} {entries : Log}
    {exchanges : List (IpcRequest × IpcResponse)} {rest : Script α}
    (small : ∀ req data, requests.encode req = .ok data → data.length < 256 ^ 4)
    (fits : ∀ req response data, (req, .ok response) ∈ entries →
      responses.encode response = .ok data → data.length < 256 ^ 4)
    (conversed : Conversed client requests responses script
      ⟨accepting daemonVersion.1 daemonVersion.2, greeting client⟩ clientNow exchanges rest)
    (executes : Executes server requests responses
      (⟨greeting server, accepting server.major server.minor⟩, (world, [])) serverNow entries)
    (clientRead : clientNow.read <+: serverNow.1.written)
    (serverRead : serverNow.1.read <+: clientNow.written) :
    daemonVersion = (server.major, server.minor) ∧ client.Agrees server ∧
      ∃ pending, entries = exchanges.map completed ++ pending ∧
        pending.map Prod.fst <+: nextCall rest := by
  obtain ⟨received, arrived, responded⟩ := conversed.read
  obtain ⟨executed, requested, asked⟩ := executes.read
  have answers := (arrived.trans clientRead).trans executes.written
  have questions := (requested.trans serverRead).trans conversed.written
  have front : ∀ {first second more later : Bytes}, first ++ more <+: second ++ later →
      first.length = second.length → first = second := by
    intro first second more later ⟨_, same⟩ length
    rw [List.append_assoc] at same
    exact (List.append_inj same length).1
  have greetings : greeting server = greeting client := front questions rfl
  have acceptances : accepting daemonVersion.1 daemonVersion.2 =
      accepting server.major server.minor := front answers rfl
  have agrees : client.Agrees server := greeting_agrees.mp greetings.symm
  simp only [accepting, List.cons.injEq, and_true, true_and] at acceptances
  refine ⟨Prod.ext acceptances.1 acceptances.2, agrees, ?_⟩
  rw [acceptances.1, acceptances.2, List.prefix_append_right_inj, flatMap_answer] at answers
  rw [greetings, List.prefix_append_right_inj] at questions
  have replied := messages_prefix ⟨agrees.1.symm, agrees.2.symm⟩ (by
      intro response member data
      obtain ⟨entry, recorded, outcome⟩ := List.mem_filterMap.mp member
      obtain ⟨req, result⟩ := entry
      cases result with
      | error failure => cases outcome
      | ok given =>
          cases outcome
          exact fits req response data recorded)
    (fun response member => encodable_dropLast executes.answered member) answers
  have called := messages_prefix agrees (fun req _ data => small req data) (by
      intro req member
      refine conversed.encoded req ?_
      cases rest with
      | done value => exact List.mem_of_mem_dropLast (by simpa [nextCall] using member)
      | perform next later => simpa [nextCall] using member) questions
  rw [responded] at replied
  rw [asked] at called
  exact matched replied called executes.answered

variable {script : UInt8 × UInt8 → Script α} {turns : Nat} {world : δ}
  {moves : List (Move Fate (Fate × κ))}
  {reached : Link streamOps (streamOps.sum daemonCalls) (Except IoError α) (Except Failure Unit)
    (Tape UInt8) (Tape UInt8 × (δ × Log))}

theorem linked (ran : (session daemon).Run
      (dialled client server requests responses script turns world) moves reached) :
    Linked tapeSemantics (serverSemantics daemon) id Prod.fst
      (dialled client server requests responses script turns world) reached := by
  refine Linked.run tapeSemantics_grows ?_ rfl rfl ran
  intro operation choice state
  cases operation with
  | inl operation => exact tapeSemantics_grows operation choice.1 state.1
  | inr call => cases call <;> exact List.prefix_rfl

theorem passes_run {now : Tape UInt8} (passes : Fallible.Passes tapeSemantics
      (IpcClient.run client requests responses script) (.blank UInt8) now) :
    now.written <+: greeting client ∨ ∃ daemonVersion exchanges rest,
      Conversed client requests responses (script daemonVersion)
        ⟨accepting daemonVersion.1 daemonVersion.2, greeting client⟩ now exchanges rest := by
  rcases Fallible.passes_bind.mp passes with early | ⟨daemonVersion, middle, ran, later⟩
  · exact .inl (passes_connect early)
  · rw [tape_connect ran] at later
    obtain ⟨exchanges, rest, conversed⟩ := passes_converse later
    exact .inr ⟨daemonVersion, exchanges, rest, conversed⟩

theorem tape_run {now : Tape UInt8} {value : α} (ran : Fallible.Runs tapeSemantics
      (IpcClient.run client requests responses script) (.blank UInt8) (.ok value) now) :
    ∃ daemonVersion exchanges, Conversed client requests responses (script daemonVersion)
      ⟨accepting daemonVersion.1 daemonVersion.2, greeting client⟩ now exchanges (.done value) := by
  obtain ⟨daemonVersion, middle, first, later⟩ := Fallible.runs_bind_ok.mp ran
  rw [tape_connect first] at later
  obtain ⟨exchanges, conversed⟩ := tape_converse later
  exact ⟨daemonVersion, exchanges, conversed⟩

/-- Without a whole acceptance no client has got through. -/
theorem not_conversed {daemonVersion : UInt8 × UInt8} {clientNow : Tape UInt8} {written : Bytes}
    {exchanges : List (IpcRequest × IpcResponse)} {rest : Script α}
    (refused : ∀ major minor, ¬ accepting major minor <+: written)
    (clientRead : clientNow.read <+: written) :
    ¬ Conversed client requests responses (script daemonVersion)
      ⟨accepting daemonVersion.1 daemonVersion.2, greeting client⟩ clientNow exchanges rest := by
  intro conversed
  obtain ⟨_, arrived, _⟩ := conversed.read
  exact refused _ _ (((List.prefix_append _ _).trans arrived).trans clientRead)

/-- A client that has only greeted has asked for nothing. -/
theorem greeted_executes {clientNow : Tape UInt8} {serverNow : Tape UInt8 × (δ × Log)}
    {entries : Log} (silent : clientNow.written <+: greeting client)
    (executes : Executes server requests responses
      (⟨greeting server, accepting server.major server.minor⟩, (world, [])) serverNow entries)
    (serverRead : serverNow.1.read <+: clientNow.written) : entries = [] := by
  obtain ⟨frames, requested, asked⟩ := executes.read
  have length := ((requested.trans serverRead).trans silent).length_le
  cases frames with
  | nil => exact List.map_eq_nil_iff.mp asked.symm
  | cons frame frames =>
      have some := List.length_pos_iff.mpr frame.bytes_ne_nil
      have same : (greeting server).length = (greeting client).length := rfl
      simp only [List.flatMap_cons, List.length_append] at length
      omega

/-- What was executed and what the client has made of it, when every response fits its frame. -/
theorem session_played
    (fits : ∀ req response data, (req, .ok response) ∈ reached.right.now.2.2 →
      responseCodec.encode response = .ok data → data.length < 256 ^ 4)
    (ran : (session daemon).Run
      (dialled client server requestCodec responseCodec script turns world) moves reached) :
    Plays (script (server.major, server.minor)) reached.right.now.2.2 ∧
    (reached.right.now.2.2 ≠ [] → client.Agrees server) ∧
    ∀ value, reached.left.todo = .done (.ok value) → client.Agrees server ∧ ∃ exchanges,
      Follows (script (server.major, server.minor)) exchanges (.done value) ∧
      reached.right.now.2.2 = exchanges.map completed := by
  have linked := linked ran
  have small : ∀ req data, requestCodec.encode req = .ok data → data.length < 256 ^ 4 :=
    fun req data encoded => Nat.lt_of_le_of_lt (requestCodec_small encoded) (by decide)
  have attends : Attends daemon server requestCodec responseCodec (processIpcConnection turns)
      (.blank UInt8, (world, [])) reached.right.now := ⟨_, linked.right⟩
  have passes : Fallible.Passes tapeSemantics (IpcClient.run client requestCodec responseCodec script)
      (.blank UInt8) reached.left.now := ⟨_, linked.left⟩
  have nothing : Plays (script (server.major, server.minor)) [] :=
    ⟨[], _, [], follows_nil _, rfl, List.nil_prefix⟩
  have ended : ∀ value, reached.left.todo = .done (.ok value) →
      Fallible.Runs tapeSemantics (IpcClient.run client requestCodec responseCodec script)
        (.blank UInt8) (.ok value) reached.left.now := by
    intro value done
    have comes := linked.left
    rw [done] at comes
    exact comes.runs
  rcases attends_connection attends with ⟨unexecuted, refused⟩ | ⟨entries, executes⟩
  · refine ⟨by rw [unexecuted]; exact nothing, fun some => absurd unexecuted some, ?_⟩
    intro value done
    obtain ⟨daemonVersion, exchanges, conversed⟩ := tape_run (ended value done)
    exact absurd conversed (not_conversed refused linked.leftRead)
  have log : reached.right.now.2.2 = entries := executes.recorded
  rw [log] at fits ⊢
  refine ⟨?_, ?_, ?_⟩
  · rcases passes_run passes with silent | ⟨daemonVersion, exchanges, rest, conversed⟩
    · rw [greeted_executes silent executes linked.rightRead]
      exact nothing
    · obtain ⟨rfl, _, pending, same, next⟩ :=
        converses small fits conversed executes linked.leftRead linked.rightRead
      exact ⟨exchanges, rest, pending, conversed.follows, same, next⟩
  · intro some
    rcases passes_run passes with silent | ⟨daemonVersion, exchanges, rest, conversed⟩
    · exact absurd (greeted_executes silent executes linked.rightRead) some
    · exact (converses small fits conversed executes linked.leftRead linked.rightRead).2.1
  · intro value done
    obtain ⟨daemonVersion, exchanges, conversed⟩ := tape_run (ended value done)
    obtain ⟨rfl, agrees, pending, same, next⟩ :=
      converses small fits conversed executes linked.leftRead linked.rightRead
    have none : pending = [] := List.map_eq_nil_iff.mp (List.prefix_nil.mp next)
    rw [none, List.append_nil] at same
    exact ⟨agrees, exchanges, conversed.follows, same⟩

/-- Wherever the two sides stand, however the transport behaves and whoever hangs
up: what the daemon executed for the client is a play of its script, each call at
most once and in order, and each but the last one answered.  A client that comes to
an end of its script has gone by exactly the calls that were executed. -/
theorem session_exactly_once
    (fits : ∀ request choice state response data,
      (daemon (.doWork request) choice state).1 = .ok response →
      responseCodec.encode response = .ok data → data.length < 256 ^ 4)
    (ran : (session daemon).Run
      (dialled client server requestCodec responseCodec script turns world) moves reached) :
    Plays (script (server.major, server.minor)) reached.right.now.2.2 ∧
    (reached.right.now.2.2 ≠ [] → client.Agrees server) ∧
    ∀ value, reached.left.todo = .done (.ok value) → client.Agrees server ∧ ∃ exchanges,
      Follows (script (server.major, server.minor)) exchanges (.done value) ∧
      reached.right.now.2.2 = exchanges.map completed := by
  have attends : Attends daemon server requestCodec responseCodec (processIpcConnection turns)
      (.blank UInt8, (world, [])) reached.right.now := ⟨_, (linked ran).right⟩
  refine session_played (fun req response data member => ?_) ran
  exact recorded_given (fun response => ∀ data, responseCodec.encode response = .ok data →
    data.length < 256 ^ 4) (fun request choice state response returned data =>
      fits request choice state response data returned) attends member data

end Session

/-- A client that asks for the power profile and sets the one it is told. -/
def confirmProfile (_ : UInt8 × UInt8) : Script IpcResponse :=
  .perform .getPowerProfile fun
    | .powerLimit profile => .perform (.setPowerProfile profile) .done
    | res => .done res

/-- A daemon that has a profile to tell and acknowledges the rest, counting it. -/
def silentDaemon : Semantics daemonCalls Unit Nat
  | .doWork .getPowerProfile, _, count => (.ok (.powerLimit .silent), count)
  | .doWork _, _, count => (.ok .success, count + 1)
  | .saveState, _, count => (.ok (), count)

/-- The two calls, with a greeting that arrives in two pieces; the profile is the one with
the given index. -/
def confirmingMoves {κ : Type} [Inhabited κ] (profile : UInt8) : List (Move Fate (Fate × κ)) :=
  let client (bytes : Bytes) : Move Fate (Fate × κ) := .left (.carried bytes)
  let server (bytes : Bytes) : Move Fate (Fate × κ) := .right (.carried bytes, default)
  [client []] ++ [server [76, 67], server [67, 0, 4], server []] ++
  [client [79, 75, 75, 0, 4]] ++ List.replicate 4 (client []) ++
  [server [1, 0, 0, 0], server [0, 4, 7], server [], server [4]] ++ List.replicate 5 (server []) ++
  [client [2, 0, 0, 0], client [0, 4, 0], client [], client [6, profile]] ++
  List.replicate 4 (client []) ++
  [server [2, 0, 0, 0], server [0, 4, 7], server [], server [6, profile]] ++
  List.replicate 5 (server []) ++
  [client [1, 0, 0, 0], client [0, 4, 0], client [], client [0]]

def confirming : Option (Link streamOps (streamOps.sum daemonCalls) (Except IoError IpcResponse)
    (Except Failure Unit) (Tape UInt8) (Tape UInt8 × (Nat × Log))) :=
  (session silentDaemon).replay
    (dialled ⟨0, 4, 7⟩ ipcProtocolVersion requestCodec responseCodec confirmProfile 5 0)
    (confirmingMoves 0)

/-- The response a client has returned with. -/
def returned : Program streamOps (Except IoError IpcResponse) → Option IpcResponse
  | .done (.ok res) => some res
  | _ => none

theorem returned_some {todo : Program streamOps (Except IoError IpcResponse)} {res : IpcResponse}
    (ended : returned todo = some res) : todo = .done (.ok res) := by
  cases todo with
  | done outcome => cases outcome <;> simp_all [returned]
  | perform operation next => cases ended

/-- The client has returned, and the daemon has executed its two calls. -/
theorem session_exactly_once_confirming : ∃ reached, confirming = some reached ∧
    reached.right.now.2.2 =
      [(.getPowerProfile, .ok (.powerLimit .silent)), (.setPowerProfile .silent, .ok .success)] ∧
    Plays (confirmProfile (0, 4)) reached.right.now.2.2 ∧ ∃ exchanges,
      Follows (confirmProfile (0, 4)) exchanges (.done .success) ∧
      reached.right.now.2.2 = exchanges.map completed := by
  have replayed : (confirming.map fun link => (link.right.now.2.2, returned link.left.todo)) =
      some ([(.getPowerProfile, .ok (.powerLimit .silent)),
        (.setPowerProfile .silent, .ok .success)], some .success) := by decide +kernel
  obtain ⟨reached, ran, seen⟩ := Option.map_eq_some_iff.mp replayed
  obtain ⟨log, ended⟩ := Prod.mk.inj seen
  have done : reached.left.todo = .done (.ok .success) := returned_some ended
  have fits : ∀ request (choice : Unit) (state : Nat) response data,
      (silentDaemon (.doWork request) choice state).1 = .ok response →
      responseCodec.encode response = .ok data → data.length < 256 ^ 4 := by
    intro request choice state response data answered encoded
    have given : response = .powerLimit .silent ∨ response = .success := by
      cases request <;> simp_all [silentDaemon]
    rcases given with rfl | rfl <;> cases encoded <;> decide
  obtain ⟨plays, _, ends⟩ := session_exactly_once fits (Machine.run_of_replay ran)
  exact ⟨reached, ran, log, plays, (ends _ done).2⟩

end Lecoo.Daemon
