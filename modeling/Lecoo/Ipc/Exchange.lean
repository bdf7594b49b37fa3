import Lecoo.Effects.Link
import Lecoo.Ipc.Handshake

namespace Lecoo.Ipc

open Lecoo.Effects Lecoo.Data Fallible

/-! # Messages over a transport that may fail

A side of a connection keeps what it has read and written.  The transport may
hand out what it likes, report an end of the stream that is none, and fail an
operation at any time, a write after some of its bytes.
-/

/-- What the transport makes of an operation. -/
inductive Fate where
  /-- It succeeds; a read returns these bytes, or as many of them as fit. -/
  | carried (bytes : Bytes)
  /-- It fails, a write after that many bytes. -/
  | failed (error : IoError) (written : Nat)
deriving Repr, DecidableEq

instance : Inhabited Fate := ⟨.carried []⟩

def tapeSemantics : Semantics streamOps Fate (Tape UInt8)
  | .read size, .carried bytes, tape =>
      (.ok (bytes.take size), { tape with read := tape.read ++ bytes.take size })
  | .read _, .failed error _, tape => (.error error, tape)
  | .writeAll bytes, .carried _, tape => (.ok (), { tape with written := tape.written ++ bytes })
  | .writeAll bytes, .failed error count, tape =>
      (.error error, { tape with written := tape.written ++ bytes.take count })
  | .flush, .carried _, tape => (.ok (), tape)
  | .flush, .failed error _, tape => (.error error, tape)
  | .allocate _, _, tape => ((), tape)

theorem tapeSemantics_grows : Grows tapeSemantics fun tape => tape := by
  intro operation fate tape
  cases operation <;> cases fate <;> simp [tapeSemantics]

variable {α β : Type} {version : Version} {codec : MessageCodec α} {before now after : Tape UInt8}

/-- The operations that write nothing. -/
def StreamOp.Listens : StreamOp → Prop
  | .read _ => True
  | .allocate _ => True
  | _ => False

theorem passes_listening {computation : IpcIo α} (listens : Uses StreamOp.Listens computation)
    (passes : Fallible.Passes tapeSemantics computation before now) :
    before.read <+: now.read ∧ now.written = before.written := by
  refine Program.Uses.passes
    (fun before now => before.read <+: now.read ∧ now.written = before.written) listens
    (fun state => ⟨List.prefix_rfl, rfl⟩) ?_ ?_ passes
  · intro first second third one two
    exact ⟨one.1.trans two.1, two.2.trans one.2⟩
  intro operation fate state permitted
  cases operation with
  | read size => cases fate <;> simp [tapeSemantics]
  | allocate size => simp [tapeSemantics]
  | writeAll bytes => exact permitted.elim
  | flush => exact permitted.elim

theorem fillBuffer_listens {size turns : Nat} {ended : Bytes → IoError} {read : Bytes} :
    Uses StreamOp.Listens (fillBuffer size ended turns read) := by
  induction turns generalizing read with
  | zero => exact uses_pure _
  | succ turns ih =>
      unfold fillBuffer
      split
      · refine uses_bind ⟨trivial, fun _ => trivial⟩ fun chunk => ?_
        split
        · exact uses_throw _
        · exact ih
      · exact uses_pure _

theorem recv_listens (version : Version) (codec : MessageCodec α) :
    Uses StreamOp.Listens (recv version codec) := by
  refine uses_bind fillBuffer_listens fun lenBytes => ?_
  refine uses_bind fillBuffer_listens fun msgVersion => ?_
  split
  · exact uses_throw _
  split
  · exact uses_throw _
  · refine uses_bind (uses_always ⟨trivial, fun _ => trivial⟩) fun _ => ?_
    exact uses_bind fillBuffer_listens fun _ => trivial

/-- A value that is returned is what the parser makes of the bytes that were
read, whatever comes behind them. -/
def Reads (computation : IpcIo α) (parser : Parser α) : Prop :=
  ∀ {before value after}, Fallible.Runs tapeSemantics computation before (.ok value) after →
    ∃ consumed, after = { before with read := before.read ++ consumed } ∧
      ∀ rest, parser (consumed ++ rest) = (.ok value, rest)

theorem Reads.bind {computation : IpcIo α} {next : α → IpcIo β} {parser : Parser α}
    {later : α → Parser β} (first : Reads computation parser)
    (second : ∀ value, Reads (next value) (later value)) :
    Reads (computation >>= next) (parser.andThen later) := by
  intro before value after ran
  obtain ⟨middleValue, middle, ran, ended⟩ := Fallible.runs_bind_ok.mp ran
  obtain ⟨consumed, rfl, parsed⟩ := first ran
  obtain ⟨more, rfl, parsedMore⟩ := second middleValue ended
  refine ⟨consumed ++ more, by simp, fun rest => ?_⟩
  rw [List.append_assoc, Parser.andThen, parsed]
  exact parsedMore rest

theorem Reads.ite {condition : Prop} [Decidable condition] {computation other : IpcIo α}
    {parser otherParser : Parser α} (first : Reads computation parser)
    (second : Reads other otherParser) :
    Reads (if condition then computation else other)
      (if condition then parser else otherParser) := by
  split
  · exact first
  · exact second

theorem reads_outcome (outcome : Except IoError α) :
    Reads (attempt (pure outcome)) fun bytes => (outcome, bytes) := by
  intro before value after ⟨returned, same⟩
  subst returned
  exact ⟨[], by rw [same]; simp, fun rest => rfl⟩

theorem tape_fillBuffer {size turns : Nat} {ended : Bytes → IoError} {read value : Bytes}
    (fits : read.length ≤ size) (enough : size ≤ read.length + turns)
    (ran : Fallible.Runs tapeSemantics (fillBuffer size ended turns read) before (.ok value) after) :
    ∃ consumed, after = { before with read := before.read ++ consumed } ∧
      value = read ++ consumed ∧ value.length = size := by
  induction turns generalizing read before with
  | zero =>
      obtain ⟨returned, rfl⟩ := ran
      cases returned
      exact ⟨[], by simp, by simp, by omega⟩
  | succ turns ih =>
      by_cases missing : read.length < size
      · simp only [fillBuffer, if_pos missing] at ran
        obtain ⟨chunk, middle, ⟨fate, replied, rfl⟩, later⟩ := Fallible.runs_bind_ok.mp ran
        cases fate with
        | failed error count => cases replied
        | carried bytes =>
            cases replied
            by_cases empty : (bytes.take (size - read.length)).length = 0
            · simp only [if_pos empty] at later
              cases later.1
            · simp only [if_neg empty] at later
              have bounded := List.length_take_le (size - read.length) bytes
              obtain ⟨consumed, rfl, returned, length⟩ := ih
                (by rw [List.length_append]; omega) (by rw [List.length_append]; omega) later
              refine ⟨bytes.take (size - read.length) ++ consumed, ?_, ?_, length⟩
              · simp [tapeSemantics]
              · rw [returned, List.append_assoc]
      · simp only [fillBuffer, if_neg missing] at ran
        obtain ⟨returned, rfl⟩ := ran
        cases returned
        exact ⟨[], by simp, by simp, by omega⟩

theorem reads_fillBuffer (size : Nat) (ended : Bytes → IoError) :
    Reads (fillBuffer size ended size []) (.take size ended) := by
  intro before value after ran
  obtain ⟨consumed, left, returned, length⟩ := tape_fillBuffer (Nat.zero_le size) (by simp) ran
  rw [List.nil_append] at returned
  subst returned
  refine ⟨value, left, fun rest => ?_⟩
  rw [← length]
  exact Parser.take_append ended value rest

theorem reads_recv : Reads (recv version codec) (received version codec) := by
  refine Reads.bind (reads_fillBuffer 4 lengthError) fun lenBytes => ?_
  refine Reads.bind (reads_fillBuffer 3 _) fun msgVersion => ?_
  refine Reads.ite (reads_outcome _) (Reads.ite (reads_outcome _) ?_)
  intro before value after ran
  obtain ⟨_, middle, allocated, later⟩ := Fallible.runs_bind_ok.mp ran
  obtain ⟨_, _, _, _, same⟩ := Fallible.runs_always.mp allocated
  rw [same] at later
  exact Reads.bind (reads_fillBuffer _ _) (fun _ => reads_outcome _) later

/-- A message that is received was read as a frame. -/
theorem tape_recv {msg : α}
    (ran : Fallible.Runs tapeSemantics (recv version codec) before (.ok msg) after) :
    ∃ frame : Frame version codec, frame.message = msg ∧
      after = { before with read := before.read ++ frame.bytes } := by
  obtain ⟨consumed, rfl, parsed⟩ := reads_recv ran
  obtain ⟨frame, begins, carried⟩ := received_ok (parsed [])
  rw [List.append_nil, List.append_nil] at begins
  exact ⟨frame, carried, by rw [begins]⟩

theorem passes_recv (passes : Fallible.Passes tapeSemantics (recv version codec) before now) :
    before.read <+: now.read ∧ now.written = before.written :=
  passes_listening (recv_listens version codec) passes

/-- The bytes are written in order, all of them when the computation returns. -/
structure Writes (computation : IpcIo Unit) (bytes : Bytes) : Prop where
  passing : ∀ {before now}, Fallible.Passes tapeSemantics computation before now →
    ∃ part, part <+: bytes ∧ now = { before with written := before.written ++ part }
  ended : ∀ {before after}, Fallible.Runs tapeSemantics computation before (.ok ()) after →
    after = { before with written := before.written ++ bytes }

theorem writes_writeAll (bytes : Bytes) : Writes (IpcIo.writeAll bytes) bytes where
  passing := by
    intro before now passes
    rcases Program.passes_perform.mp passes with rfl | ⟨fate, later⟩
    · exact ⟨[], List.nil_prefix, by simp⟩
    · cases fate with
      | carried given => exact ⟨bytes, List.prefix_rfl, Program.passes_done.mp later⟩
      | failed error count =>
          exact ⟨bytes.take count, List.take_prefix count bytes, Program.passes_done.mp later⟩
  ended := by
    intro before after ⟨fate, replied, left⟩
    cases fate with
    | carried given => exact left
    | failed error count => cases replied

theorem writes_flush : Writes IpcIo.flush [] where
  passing := by
    intro before now passes
    refine ⟨[], List.nil_prefix, ?_⟩
    rcases Program.passes_perform.mp passes with rfl | ⟨fate, later⟩
    · simp
    · rw [Program.passes_done.mp later]
      cases fate <;> simp [tapeSemantics]
  ended := by
    intro before after ⟨fate, replied, left⟩
    rw [left]
    cases fate <;> simp [tapeSemantics]

theorem Writes.bind {computation : IpcIo Unit} {next : Unit → IpcIo Unit} {bytes more : Bytes}
    (first : Writes computation bytes) (second : ∀ done, Writes (next done) more) :
    Writes (computation >>= next) (bytes ++ more) where
  passing := by
    intro before now passes
    rcases Fallible.passes_bind.mp passes with early | ⟨_, middle, ran, later⟩
    · obtain ⟨part, within, same⟩ := first.passing early
      exact ⟨part, within.trans (List.prefix_append bytes more), same⟩
    · obtain ⟨part, within, rfl⟩ := (second _).passing later
      rw [first.ended ran]
      exact ⟨bytes ++ part, (List.prefix_append_right_inj bytes).mpr within, by simp⟩
  ended := by
    intro before after ran
    obtain ⟨_, middle, ran, later⟩ := Fallible.runs_bind_ok.mp ran
    rw [(second _).ended later, first.ended ran]
    simp

/-- The frame of a message, nothing when it cannot be encoded. -/
def wire (version : Version) (codec : MessageCodec α) (msg : α) : Bytes :=
  match codec.encode msg with
  | .ok data => header version data.length ++ data
  | .error _ => []

theorem writes_send (msg : α) : Writes (send version codec msg) (wire version codec msg) := by
  cases encoded : codec.encode msg with
  | ok data =>
      have sends : send version codec msg = (do
          IpcIo.writeAll (toLeBytes 4 data.length)
          IpcIo.writeAll version.bytes
          IpcIo.writeAll data
          IpcIo.flush) := by
        rw [send, encoded]
        rfl
      rw [sends, wire, encoded]
      have written := (writes_writeAll (toLeBytes 4 data.length)).bind fun _ =>
        (writes_writeAll version.bytes).bind fun _ =>
          (writes_writeAll data).bind fun _ => writes_flush
      simpa [header] using written
  | error message =>
      have fails : send version codec msg = throw ⟨.invalidData, message⟩ := by
        rw [send, encoded]
        rfl
      rw [fails, wire, encoded]
      exact {
        passing := fun passes => ⟨[], List.prefix_rfl, by
          rw [Program.passes_done.mp passes]; simp⟩
        ended := fun ran => by cases ran.1 }

theorem tape_send_encoded {msg : α}
    (ran : Fallible.Runs tapeSemantics (send version codec msg) before (.ok ()) after) :
    ∃ data, codec.encode msg = .ok data := by
  obtain ⟨data, _, ⟨coded, _⟩, _⟩ := Fallible.runs_bind_ok.mp ran
  cases encoded : codec.encode msg with
  | ok bytes => exact ⟨bytes, rfl⟩
  | error message =>
      rw [encoded] at coded
      cases coded

/-- What a server of the given version answers to a client of an agreeing one. -/
def accepting (major minor : UInt8) : Bytes := [0x4F, 0x4B, 0x4B, major, minor]

theorem eq_greeting {req : Bytes} (length : req.length = 5) (magical : req.take 3 = magic)
    (same : ¬(req.getD 3 0 ≠ version.major ∨ req.getD 4 0 ≠ version.minor)) :
    req = greeting version := by
  obtain ⟨sameMajor, sameMinor⟩ := not_or.mp same
  match req, length with
  | [a, b, c, major, minor], _ =>
      have front : [a, b, c] = magic := magical
      have majors : major = version.major := not_not.mp sameMajor
      have minors : minor = version.minor := not_not.mp sameMinor
      rw [greeting, ← front, majors, minors]
      rfl

/-- Behind a whole acceptance stands a greeting that was read. -/
theorem passes_acceptHandshake
    (passes : Fallible.Passes tapeSemantics (acceptHandshake version) before now) :
    ∃ part, now.written = before.written ++ part ∧
      ((∀ major minor, ¬ accepting major minor <+: part) ∨
        part = accepting version.major version.minor ∧
          now.read = before.read ++ greeting version) := by
  have silent : ∀ major minor, ¬ accepting major minor <+: ([] : Bytes) := by simp [accepting]
  rcases Fallible.passes_bind.mp passes with early | ⟨req, middle, ran, later⟩
  · obtain ⟨_, written⟩ := passes_listening fillBuffer_listens early
    exact ⟨[], by simp [written], .inl silent⟩
  obtain ⟨consumed, rfl, returned, length⟩ := tape_fillBuffer (Nat.zero_le 5) (by simp) ran
  rw [List.nil_append] at returned
  subst returned
  split at later
  · exact ⟨[], by rw [Program.passes_done.mp later]; simp, .inl silent⟩
  rename_i magical
  dsimp only at later
  split at later
  · have refused : ∃ part, part <+: [0x45, 0x52, 0x52, version.major, version.minor] ∧
        now.written = before.written ++ part := by
      rcases Fallible.passes_bind.mp later with writing | ⟨_, wrote, ran, ended⟩
      · obtain ⟨part, within, rfl⟩ :=
          (writes_writeAll _).passing (Fallible.passes_always.mp writing)
        exact ⟨part, within, rfl⟩
      · obtain ⟨_, _, ran⟩ := Fallible.runs_always.mp ran
        obtain ⟨part, within, rfl⟩ := (writes_writeAll _).passing ran.passes
        exact ⟨part, within, by rw [Program.passes_done.mp ended]⟩
    obtain ⟨part, within, written⟩ := refused
    refine ⟨part, written, .inl fun major minor whole => ?_⟩
    have impossible := whole.trans within
    simp [accepting] at impossible
  · rename_i same
    have greeted := eq_greeting length (not_not.mp magical) same
    obtain ⟨part, within, rfl⟩ := (writes_writeAll _).passing later
    refine ⟨part, rfl, ?_⟩
    by_cases whole : part = accepting version.major version.minor
    · exact .inr ⟨whole, by rw [greeted]⟩
    · refine .inl fun major minor beyond => whole ?_
      exact within.eq_of_length (Nat.le_antisymm within.length_le beyond.length_le)

theorem tape_acceptHandshake
    (ran : Fallible.Runs tapeSemantics (acceptHandshake version) before (.ok ()) after) :
    after = { read := before.read ++ greeting version,
              written := before.written ++ accepting version.major version.minor } := by
  obtain ⟨req, middle, first, later⟩ := Fallible.runs_bind_ok.mp ran
  obtain ⟨consumed, rfl, returned, length⟩ := tape_fillBuffer (Nat.zero_le 5) (by simp) first
  rw [List.nil_append] at returned
  subst returned
  split at later
  · cases later.1
  rename_i magical
  dsimp only at later
  split at later
  · obtain ⟨_, _, _, ended⟩ := Fallible.runs_bind_ok.mp later
    cases ended.1
  · rename_i same
    have greeted := eq_greeting length (not_not.mp magical) same
    rw [(writes_writeAll _).ended later, greeted]
    rfl

theorem passes_connect (passes : Fallible.Passes tapeSemantics (connect version) before now) :
    now.written <+: before.written ++ greeting version := by
  rcases Fallible.passes_bind.mp passes with early | ⟨_, greeted, ran, later⟩
  · obtain ⟨part, within, rfl⟩ := (writes_writeAll _).passing early
    exact (List.prefix_append_right_inj _).mpr within
  rw [(writes_writeAll _).ended ran] at later
  rcases Fallible.passes_bind.mp later with reading | ⟨resp, answered, read, judged⟩
  · rw [(passes_listening fillBuffer_listens reading).2]
  · have kept := (passes_listening fillBuffer_listens read.passes).2
    have ended : now = answered := by
      dsimp only at judged
      split at judged
      · exact Program.passes_done.mp judged
      · split at judged <;> exact Program.passes_done.mp judged
    rw [ended, kept]

theorem tape_connect {daemonVersion : UInt8 × UInt8}
    (ran : Fallible.Runs tapeSemantics (connect version) before (.ok daemonVersion) after) :
    after = { read := before.read ++ accepting daemonVersion.1 daemonVersion.2,
              written := before.written ++ greeting version } := by
  obtain ⟨_, greeted, first, later⟩ := Fallible.runs_bind_ok.mp ran
  rw [(writes_writeAll _).ended first] at later
  obtain ⟨resp, answered, read, judged⟩ := Fallible.runs_bind_ok.mp later
  obtain ⟨consumed, rfl, returned, length⟩ := tape_fillBuffer (Nat.zero_le 5) (by simp) read
  rw [List.nil_append] at returned
  subst returned
  dsimp only at judged
  split at judged
  · cases judged.1
  split at judged
  · cases judged.1
  · rename_i accepted
    obtain ⟨returned, rfl⟩ := judged
    cases returned
    match resp, length with
    | [a, b, c, major, minor], _ =>
        have front : [a, b, c] = [0x4F, 0x4B, 0x4B] := not_not.mp accepted
        simp only [List.cons.injEq, and_true] at front
        obtain ⟨rfl, rfl, rfl⟩ := front
        rfl

/-- The frames that can be read off the wire are those of the messages, in their
order; only the last message may be one that was not sent. -/
theorem messages_prefix {sender receiver : Version} (agrees : sender.Agrees receiver)
    {frames : List (Frame receiver codec)} {messages : List α}
    (fits : ∀ msg ∈ messages, ∀ data, codec.encode msg = .ok data → data.length < 256 ^ 4)
    (encodable : ∀ msg ∈ messages.dropLast, ∃ data, codec.encode msg = .ok data)
    (within : frames.flatMap Frame.bytes <+: messages.flatMap (wire sender codec)) :
    frames.map Frame.message <+: messages := by
  induction frames generalizing messages with
  | nil => exact List.nil_prefix
  | cons frame frames ih =>
      obtain ⟨behind, wired⟩ := within
      rw [List.flatMap_cons, List.append_assoc] at wired
      cases messages with
      | nil => exact absurd (List.append_eq_nil_iff.mp wired).1 frame.bytes_ne_nil
      | cons msg messages =>
          rw [List.flatMap_cons] at wired
          cases encoded : codec.encode msg with
          | error message =>
              cases messages with
              | nil =>
                  rw [wire, encoded] at wired
                  exact absurd (List.append_eq_nil_iff.mp wired).1 frame.bytes_ne_nil
              | cons next later =>
                  obtain ⟨data, impossible⟩ := encodable msg (by simp)
                  rw [encoded] at impossible
                  cases impossible
          | ok data =>
              have read := received_frame frame (frames.flatMap Frame.bytes ++ behind)
              have small := fits msg List.mem_cons_self data encoded
              rw [wired, wire, encoded, List.append_assoc, received_header agrees small] at read
              split at read
              · cases read
              rw [receivedPayload_append, codec.decode_encode encoded] at read
              obtain ⟨same, rest⟩ := Prod.mk.inj read
              have same : msg = frame.message := Except.ok.inj same
              have later : frames.map Frame.message <+: messages := by
                refine ih (fun next member => fits next (List.mem_cons_of_mem _ member)) ?_
                  ⟨behind, rest.symm⟩
                intro next member
                cases messages with
                | nil => cases member
                | cons _ _ => exact encodable next (List.mem_cons_of_mem _ member)
              rw [List.map_cons, same, List.cons_prefix_cons]
              exact ⟨rfl, later⟩

/-- Every text a machine can hold is short enough for its length to be written. -/
def responseCodec : MessageCodec IpcResponse where
  encode res :=
    if writable : Bincode.Writable res then .ok (Bincode.response.encode ⟨res, writable⟩)
    else .error "text too long"
  decode data :=
    ((Bincode.response.decode data).map Prod.fst).elim (.error "invalid encoding") fun res =>
      .ok res.val
  decode_encode := by
    intro res data encoded
    split at encoded
    · cases encoded
      rw [PrefixCoder.decode_encode_nil]
      rfl
    · cases encoded

theorem responseCodec_small {res : IpcResponse} {data : Bytes} {size : Nat}
    (brief : ∀ text ∈ Bincode.texts res, text.toByteArray.size ≤ size)
    (encoded : responseCodec.encode res = .ok data) : data.length ≤ 40 + 3 * size := by
  simp only [responseCodec] at encoded
  split at encoded
  · cases encoded
    exact Bincode.length_response _ brief
  · cases encoded

theorem requestCodec_small {req : IpcRequest} {data : Bytes}
    (encoded : requestCodec.encode req = .ok data) : data.length ≤ 7 := by
  have encoded : Bincode.request.encode req = data := Except.ok.inj encoded
  rw [← encoded]
  exact Bincode.within_request req

end Lecoo.Ipc
