import Lecoo.Effects.Program
import Lecoo.Ipc.Bincode

namespace Lecoo.Ipc

open Lecoo.Effects Lecoo.Data Fallible

/-! # Frames on a byte stream

A message travels as the length of its encoding, the version of the sender and
the encoding itself.  The stream hands the bytes out in pieces of any size, so
both ends of a frame are found by reading until a buffer is full.
-/

abbrev Bytes := List UInt8

inductive ErrorKind where
  | connectionReset
  | connectionRefused
  | unexpectedEof
  | invalidData
deriving Repr, DecidableEq

/-- `std::io::Error`. -/
structure IoError where
  kind : ErrorKind
  message : String
deriving Repr, DecidableEq

inductive StreamOp where
  /-- `read` into a buffer of the given size; nothing is read at the end of the stream. -/
  | read (size : Nat)
  | writeAll (bytes : Bytes)
  | flush
  /-- `vec![0u8; size]`. -/
  | allocate (size : Nat)
deriving DecidableEq

@[reducible] def streamOps : Interface where
  Operation := StreamOp
  Reply
    | .read _ => Except IoError Bytes
    | .writeAll _ => Except IoError Unit
    | .flush => Except IoError Unit
    | .allocate _ => Unit

/-- A computation that returns an `io::Result`. -/
abbrev IpcIo (α : Type) := Fallible streamOps IoError α

namespace IpcIo

def read (size : Nat) : IpcIo Bytes := attempt (Program.request (I := streamOps) (.read size))

def writeAll (bytes : Bytes) : IpcIo Unit :=
  attempt (Program.request (I := streamOps) (.writeAll bytes))

def flush : IpcIo Unit := attempt (Program.request (I := streamOps) .flush)

def allocate (size : Nat) : IpcIo Unit :=
  always (Program.request (I := streamOps) (.allocate size))

def fail {α : Type} (kind : ErrorKind) (message : String) : IpcIo α := throw { kind, message }

/-- `.map_err(|e| io::Error::new(io::ErrorKind::InvalidData, e))`. -/
def coded {α : Type} : Except String α → Except IoError α
  | .ok value => .ok value
  | .error message => .error { kind := .invalidData, message }

end IpcIo

/-- The standard configuration of bincode for one type of messages. -/
structure MessageCodec (α : Type) where
  encode : α → Except String Bytes
  decode : Bytes → Except String α
  decode_encode : ∀ {message data}, encode message = .ok data → decode data = .ok message

/-- The bytes behind the encoding at the front of a payload are not looked at. -/
def MessageCodec.ofCoder {α : Type} (coder : PrefixCoder α) : MessageCodec α where
  encode message := .ok (coder.encode message)
  decode data := ((coder.decode data).map Prod.fst).elim (.error "invalid encoding") .ok
  decode_encode := by
    intro message data encoded
    cases encoded
    rw [coder.decode_encode_nil]
    rfl

def requestCodec : MessageCodec IpcRequest := .ofCoder Bincode.request

structure Version where
  major : UInt8
  minor : UInt8
  patch : UInt8
deriving Repr, DecidableEq

def ipcProtocolVersion : Version := { major := 0, minor := 4, patch := 0 }

def Version.bytes (version : Version) : Bytes := [version.major, version.minor, version.patch]

/-- The patch level is not compared. -/
def Version.Agrees (left right : Version) : Prop :=
  left.major = right.major ∧ left.minor = right.minor

instance (left right : Version) : Decidable (left.Agrees right) :=
  inferInstanceAs (Decidable (_ ∧ _))

/-- The lowest bytes of a number, the least significant first. -/
def toLeBytes : Nat → Nat → Bytes
  | 0, _ => []
  | count + 1, value => UInt8.ofNat value :: toLeBytes count (value / 256)

def fromLeBytes : Bytes → Nat
  | [] => 0
  | byte :: rest => byte.toNat + 256 * fromLeBytes rest

@[simp] theorem length_toLeBytes (count value : Nat) : (toLeBytes count value).length = count := by
  induction count generalizing value with
  | zero => rfl
  | succ count ih => simp [toLeBytes, ih]

theorem fromLeBytes_toLeBytes {count value : Nat} (small : value < 256 ^ count) :
    fromLeBytes (toLeBytes count value) = value := by
  induction count generalizing value with
  | zero =>
      have none : value = 0 := by simpa using small
      rw [none]
      rfl
  | succ count ih =>
      have high : value / 256 < 256 ^ count := by
        rw [Nat.pow_succ] at small
        omega
      have low : (UInt8.ofNat value).toNat = value % 256 := by simp
      simp only [toLeBytes, fromLeBytes, ih high, low]
      exact Nat.mod_add_div value 256

theorem toLeBytes_fromLeBytes (bytes : Bytes) :
    toLeBytes bytes.length (fromLeBytes bytes) = bytes := by
  induction bytes with
  | nil => rfl
  | cons byte rest ih =>
      have low : byte.toNat < 256 := byte.toNat_lt
      have same : UInt8.ofNat (byte.toNat + 256 * fromLeBytes rest) = byte := by
        apply UInt8.toNat_inj.mp
        rw [UInt8.toNat_ofNat']
        omega
      have high : (byte.toNat + 256 * fromLeBytes rest) / 256 = fromLeBytes rest := by omega
      simp only [List.length_cons, toLeBytes, fromLeBytes, same, high, ih]

def maxPayload : Nat := 5 * 1024 * 1024

section Connection

variable {α : Type} (version : Version) (codec : MessageCodec α)

def send (msg : α) : IpcIo Unit := do
  let data ← attempt (pure (IpcIo.coded (codec.encode msg)))
  IpcIo.writeAll (toLeBytes 4 data.length)
  IpcIo.writeAll version.bytes
  IpcIo.writeAll data
  IpcIo.flush

/-- Reads go into the rest of the buffer until it is full.  A read that returns
something fills at least one byte, so no more turns are needed than bytes are
missing; the error of an early end depends on what was read before it. -/
def fillBuffer (size : Nat) (ended : Bytes → IoError) : Nat → Bytes → IpcIo Bytes
  | 0, read => pure read
  | turns + 1, read => do
      if read.length < size then
        let chunk ← IpcIo.read (size - read.length)
        if chunk.length = 0 then
          throw (ended read)
        else
          fillBuffer size ended turns (read ++ chunk)
      else
        return read

def eofError : IoError := { kind := .unexpectedEof, message := "failed to fill whole buffer" }

/-- `Read::read_exact`. -/
def readExact (size : Nat) : IpcIo Bytes := fillBuffer size (fun _ => eofError) size []

/-- How the loop over the length bytes ends early. -/
def lengthError (read : Bytes) : IoError :=
  if read.length = 0 then
    { kind := .connectionReset, message := "Connection reset by peer" }
  else
    { kind := .unexpectedEof, message := "Connection dropped while reading" }

def versionError : IoError := { kind := .invalidData, message := "IPC protocol version mismatch" }

def sizeError : IoError := { kind := .invalidData, message := "IPC payload too large" }

def recv : IpcIo α := do
  let lenBytes ← fillBuffer 4 lengthError 4 []
  let len := fromLeBytes lenBytes
  let msgVersion ← readExact 3
  if msgVersion.getD 0 0 ≠ version.major ∨ msgVersion.getD 1 0 ≠ version.minor then
    throw versionError
  else if len > maxPayload then
    throw sizeError
  else
    IpcIo.allocate len
    let data ← readExact len
    attempt (pure (IpcIo.coded (codec.decode data)))

end Connection

/-- A buffer that is allocated is no larger than a payload may be. -/
def StreamOp.Small : StreamOp → Prop
  | .allocate size => size ≤ maxPayload
  | _ => True

theorem fillBuffer_small {size turns : Nat} {ended : Bytes → IoError} {read : Bytes} :
    Uses StreamOp.Small (fillBuffer size ended turns read) := by
  induction turns generalizing read with
  | zero => exact uses_pure _
  | succ turns ih =>
      unfold fillBuffer
      split
      · refine uses_bind ⟨trivial, fun _ => trivial⟩ fun chunk => ?_
        split
        · exact uses_throw _
        · exact ih
      · exact uses_pure _

/-- The length is checked before it is used. -/
theorem recv_small {α : Type} (version : Version) (codec : MessageCodec α) :
    Uses StreamOp.Small (recv version codec) := by
  refine uses_bind fillBuffer_small fun lenBytes => uses_bind fillBuffer_small fun msgVersion => ?_
  split
  · exact uses_throw _
  split
  · exact uses_throw _
  · rename_i small
    refine uses_bind (uses_always ⟨Nat.not_lt.mp small, fun _ => trivial⟩) fun _ => ?_
    exact uses_bind fillBuffer_small fun _ => trivial

theorem send_small {α : Type} (version : Version) (codec : MessageCodec α) (msg : α) :
    Uses StreamOp.Small (send version codec msg) := by
  have writes : ∀ bytes, Uses StreamOp.Small (IpcIo.writeAll bytes) :=
    fun _ => ⟨trivial, fun _ => trivial⟩
  refine uses_bind trivial fun data => uses_bind (writes _) fun _ => ?_
  exact uses_bind (writes _) fun _ => uses_bind (writes _) fun _ => ⟨trivial, fun _ => trivial⟩

/-- One end of a connection: the bytes that are still to be read, behind which
the stream has ended, and the bytes that were written. -/
structure Stream where
  incoming : Bytes
  outgoing : Bytes
deriving DecidableEq

/-- The choice is how much a read returns: at least one byte and no more than
was asked for, as long as there are bytes. -/
def streamSemantics : Semantics streamOps Nat Stream
  | .read size, choice, stream =>
      let count := min size (max 1 choice)
      (.ok (stream.incoming.take count), { stream with incoming := stream.incoming.drop count })
  | .writeAll bytes, _, stream => (.ok (), { stream with outgoing := stream.outgoing ++ bytes })
  | .flush, _, stream => (.ok (), stream)
  | .allocate _, _, stream => ((), stream)

/-- One end of a connection using it. -/
abbrev Transfers {α : Type} (computation : IpcIo α) (before : Stream) (result : Except IoError α)
    (after : Stream) : Prop :=
  Fallible.Runs streamSemantics computation before result after

variable {α : Type} {version : Version} {codec : MessageCodec α} {before after : Stream}

theorem transfers_read {size : Nat} {result : Except IoError Bytes}
    (ran : Transfers (IpcIo.read size) before result after) : ∃ count,
      (0 < size → 0 < count) ∧ count ≤ size ∧ result = .ok (before.incoming.take count) ∧
      after = { before with incoming := before.incoming.drop count } := by
  obtain ⟨choice, rfl, rfl⟩ := ran
  exact ⟨min size (max 1 choice), by omega, by omega, rfl, rfl⟩

/-- However the stream is cut into reads, a buffer is filled from its front, or
the stream ends before that. -/
theorem transfers_fillBuffer {size turns : Nat} {ended : Bytes → IoError} {read : Bytes}
    {result : Except IoError Bytes} (fits : read.length ≤ size)
    (enough : size ≤ read.length + turns)
    (ran : Transfers (fillBuffer size ended turns read) before result after) :
    (size ≤ read.length + before.incoming.length ∧
      result = .ok (read ++ before.incoming.take (size - read.length)) ∧
      after = { before with incoming := before.incoming.drop (size - read.length) }) ∨
    (read.length + before.incoming.length < size ∧
      result = .error (ended (read ++ before.incoming)) ∧
      after = { before with incoming := [] }) := by
  have full : ∀ {read : Bytes} {before : Stream}, read.length = size →
      result = .ok read → after = before →
      size ≤ read.length + before.incoming.length ∧
      result = .ok (read ++ before.incoming.take (size - read.length)) ∧
      after = { before with incoming := before.incoming.drop (size - read.length) } := by
    intro read before whole returned same
    subst same
    simp [whole, returned]
  induction turns generalizing read before with
  | zero =>
      obtain ⟨returned, same⟩ := ran
      exact .inl (full (by omega) returned same)
  | succ turns ih =>
      by_cases missing : read.length < size
      · simp only [fillBuffer, if_pos missing] at ran
        rcases Fallible.runs_bind.mp ran with ⟨error, _, first⟩ | ⟨chunk, middle, first, second⟩
        · obtain ⟨_, _, _, impossible, _⟩ := transfers_read first
          cases impossible
        obtain ⟨count, positive, bounded, replied, left⟩ := transfers_read first
        cases replied
        have some : 0 < count := positive (by omega)
        by_cases empty : (before.incoming.take count).length = 0
        · have nothing : before.incoming = [] := by
            rw [List.length_take] at empty
            exact List.eq_nil_of_length_eq_zero (by omega)
          simp only [if_pos empty] at second
          obtain ⟨thrown, same⟩ := second
          refine .inr ⟨by simpa [nothing] using missing, ?_, ?_⟩
          · rw [thrown, nothing, List.append_nil]
          · rw [same, left, nothing, List.drop_nil]
        · simp only [if_neg empty] at second
          have taken : (before.incoming.take count).length ≤ count := List.length_take_le _ _
          have split : before.incoming.take count ++ middle.incoming = before.incoming := by
            rw [left]
            exact List.take_append_drop count before.incoming
          have total := congrArg List.length split
          rw [List.length_append] at total
          have shorter : (read ++ before.incoming.take count).length ≤ size := by
            rw [List.length_append]
            omega
          have sufficient : size ≤ (read ++ before.incoming.take count).length + turns := by
            rw [List.length_append]
            omega
          have later := ih shorter sufficient second
          rw [List.length_append] at later
          have same : { before with incoming := middle.incoming } = middle := by rw [left]
          rcases later with ⟨fills, returned, rest⟩ | ⟨short, returned, rest⟩
          · refine .inl ⟨by omega, ?_, ?_⟩
            · rw [returned, List.append_assoc]
              have more : before.incoming.take (size - read.length) =
                  before.incoming.take count ++ middle.incoming.take
                    (size - (read.length + (before.incoming.take count).length)) := by
                conv => lhs; rw [← split]
                rw [List.take_append, List.take_of_length_le (by omega), Nat.sub_sub]
              rw [more]
            · rw [rest, ← same]
              have more : before.incoming.drop (size - read.length) =
                  middle.incoming.drop
                    (size - (read.length + (before.incoming.take count).length)) := by
                conv => lhs; rw [← split]
                rw [List.drop_append, List.drop_eq_nil_of_le (by omega), List.nil_append,
                  Nat.sub_sub]
              rw [more]
          · refine .inr ⟨by omega, ?_, ?_⟩
            · rw [returned, List.append_assoc, split]
            · rw [rest, ← same]
      · simp only [fillBuffer, if_neg missing] at ran
        obtain ⟨returned, same⟩ := ran
        exact .inl (full (by omega) returned same)

/-- What a computation that only reads makes of the bytes to come, and the bytes
it leaves. -/
abbrev Parser (α : Type) := Bytes → Except IoError α × Bytes

namespace Parser

def andThen {β : Type} (parser : Parser α) (rest : α → Parser β) : Parser β := fun bytes =>
  match parser bytes with
  | (.ok value, left) => rest value left
  | (.error error, left) => (.error error, left)

/-- The given number of bytes, all that is left when there are not as many. -/
def take (size : Nat) (ended : Bytes → IoError) : Parser Bytes := fun bytes =>
  if bytes.length < size then (.error (ended bytes), []) else (.ok (bytes.take size), bytes.drop size)

theorem take_append (ended : Bytes → IoError) (data rest : Bytes) :
    take data.length ended (data ++ rest) = (.ok data, rest) := by
  simp [take]

theorem take_short {size : Nat} {bytes : Bytes} (ended : Bytes → IoError)
    (short : bytes.length < size) : take size ended bytes = (.error (ended bytes), []) :=
  if_pos short

end Parser

/-- However the bytes are handed out, the computation parses them. -/
def Parses (computation : IpcIo α) (parser : Parser α) : Prop :=
  ∀ {before result after}, Transfers computation before result after →
    result = (parser before.incoming).1 ∧
      after = { before with incoming := (parser before.incoming).2 }

theorem Parses.bind {β : Type} {computation : IpcIo α} {rest : α → IpcIo β} {parser : Parser α}
    {next : α → Parser β} (first : Parses computation parser)
    (second : ∀ value, Parses (rest value) (next value)) :
    Parses (computation >>= rest) (parser.andThen next) := by
  intro before result after ran
  rcases Fallible.runs_bind.mp ran with ⟨error, failed, ran⟩ | ⟨value, middle, ran, later⟩
  · obtain ⟨returned, left⟩ := first ran
    cases parsed : parser before.incoming with | mk outcome rest =>
      rw [parsed] at returned left
      cases returned
      simp only [Parser.andThen, parsed]
      exact ⟨failed, left⟩
  · obtain ⟨returned, left⟩ := first ran
    cases parsed : parser before.incoming with | mk outcome rest =>
      rw [parsed] at returned left
      cases returned
      simp only [Parser.andThen, parsed]
      obtain ⟨returned, last⟩ := second value later
      rw [left] at returned last
      exact ⟨returned, last⟩

theorem Parses.ite {condition : Prop} [Decidable condition] {computation other : IpcIo α}
    {parser otherParser : Parser α} (first : Parses computation parser)
    (second : Parses other otherParser) :
    Parses (if condition then computation else other)
      (if condition then parser else otherParser) := by
  split
  · exact first
  · exact second

theorem parses_outcome (outcome : Except IoError α) :
    Parses (attempt (pure outcome)) fun bytes => (outcome, bytes) := fun ran => ran

theorem parses_fillBuffer (size : Nat) (ended : Bytes → IoError) :
    Parses (fillBuffer size ended size []) (.take size ended) := by
  intro before result after ran
  rcases transfers_fillBuffer (Nat.zero_le size) (by simp) ran with
    ⟨enough, returned, left⟩ | ⟨short, returned, left⟩
  · have enough : ¬before.incoming.length < size := by simpa using enough
    rw [Parser.take, if_neg enough]
    exact ⟨returned, left⟩
  · have short : before.incoming.length < size := by simpa using short
    rw [Parser.take_short ended short]
    exact ⟨returned, left⟩

/-- The payload of a frame of the given length. -/
def receivedPayload (codec : MessageCodec α) (length : Nat) : Parser α :=
  .andThen (.take length fun _ => eofError) fun data bytes =>
    (IpcIo.coded (codec.decode data), bytes)

/-- What `recv` makes of the bytes to come. -/
def received (version : Version) (codec : MessageCodec α) : Parser α :=
  .andThen (.take 4 lengthError) fun lenBytes =>
    .andThen (.take 3 fun _ => eofError) fun msgVersion =>
      if msgVersion.getD 0 0 ≠ version.major ∨ msgVersion.getD 1 0 ≠ version.minor then
        fun bytes => (.error versionError, bytes)
      else if fromLeBytes lenBytes > maxPayload then
        fun bytes => (.error sizeError, bytes)
      else
        receivedPayload codec (fromLeBytes lenBytes)

theorem parses_recv : Parses (recv version codec) (received version codec) := by
  refine Parses.bind (parses_fillBuffer 4 lengthError) fun lenBytes => ?_
  refine Parses.bind (parses_fillBuffer 3 _) fun msgVersion => ?_
  refine Parses.ite (parses_outcome _) (Parses.ite (parses_outcome _) ?_)
  intro before result after ran
  obtain ⟨_, rest⟩ := ran
  exact Parses.bind (parses_fillBuffer _ _) (fun _ => parses_outcome _) rest

/-- A frame that a receiver of the given version accepts: its payload is small
enough and can be decoded, its version has any patch level. -/
structure Frame (version : Version) (codec : MessageCodec α) where
  patch : UInt8
  payload : Bytes
  message : α
  small : payload.length ≤ maxPayload
  decodes : codec.decode payload = .ok message

/-- What is sent in front of a payload of the given length. -/
def header (version : Version) (length : Nat) : Bytes := toLeBytes 4 length ++ version.bytes

@[simp] theorem length_header (version : Version) (length : Nat) :
    (header version length).length = 7 := by
  simp [header, Version.bytes]

namespace Frame

/-- The version of a sender of the frame. -/
def sender (frame : Frame version codec) : Version := { version with patch := frame.patch }

theorem sender_agrees (frame : Frame version codec) : frame.sender.Agrees version := ⟨rfl, rfl⟩

def bytes (frame : Frame version codec) : Bytes :=
  header frame.sender frame.payload.length ++ frame.payload

end Frame

theorem receivedPayload_append (codec : MessageCodec α) (data rest : Bytes) :
    receivedPayload codec data.length (data ++ rest) = (IpcIo.coded (codec.decode data), rest) := by
  rw [receivedPayload, Parser.andThen, Parser.take_append]

theorem receivedPayload_short {length : Nat} {bytes : Bytes} (short : bytes.length < length) :
    receivedPayload codec length bytes = (.error eofError, []) := by
  rw [receivedPayload, Parser.andThen, Parser.take_short _ short]

/-- Behind the header of a sender of an agreeing version the payload is read,
unless it is too large. -/
theorem received_header {sender : Version} (agrees : sender.Agrees version) {length : Nat}
    (fits : length < 256 ^ 4) (bytes : Bytes) :
    received version codec (header sender length ++ bytes) =
      if length > maxPayload then (.error sizeError, bytes)
      else receivedPayload codec length bytes := by
  have lengthRead : Parser.take 4 lengthError (header sender length ++ bytes) =
      (.ok (toLeBytes 4 length), sender.bytes ++ bytes) := by
    have read := Parser.take_append lengthError (toLeBytes 4 length) (sender.bytes ++ bytes)
    simpa [header] using read
  have versionRead : Parser.take 3 (fun _ => eofError) (sender.bytes ++ bytes) =
      (.ok sender.bytes, bytes) := Parser.take_append _ sender.bytes bytes
  have value : fromLeBytes (toLeBytes 4 length) = length :=
    fromLeBytes_toLeBytes fits
  have accepted : ¬(sender.bytes.getD 0 0 ≠ version.major ∨ sender.bytes.getD 1 0 ≠ version.minor) := by
    simp [Version.bytes, agrees.1, agrees.2]
  rw [received, Parser.andThen, lengthRead]
  simp only
  rw [Parser.andThen, versionRead]
  simp only [value, if_neg accepted]
  split <;> rfl

theorem Frame.received_bytes (frame : Frame version codec) (bytes : Bytes) :
    received version codec (header frame.sender frame.payload.length ++ bytes) =
      receivedPayload codec frame.payload.length bytes := by
  have small := frame.small
  have fits : frame.payload.length < 256 ^ 4 := by
    simp only [maxPayload] at small
    omega
  rw [received_header frame.sender_agrees fits, if_neg (Nat.not_lt.mpr small)]

theorem received_frame (frame : Frame version codec) (rest : Bytes) :
    received version codec (frame.bytes ++ rest) = (.ok frame.message, rest) := by
  rw [Frame.bytes, List.append_assoc, frame.received_bytes, receivedPayload_append,
    frame.decodes, IpcIo.coded]

theorem Parser.take_ok {size : Nat} {ended : Bytes → IoError} {bytes data left : Bytes}
    (taken : Parser.take size ended bytes = (.ok data, left)) :
    bytes = data ++ left ∧ data.length = size := by
  by_cases short : bytes.length < size
  · rw [Parser.take_short _ short] at taken
    cases taken
  · rw [Parser.take, if_neg short] at taken
    cases taken
    refine ⟨(List.take_append_drop size bytes).symm, ?_⟩
    rw [List.length_take]
    omega

theorem Parser.andThen_ok {β : Type} {parser : Parser α} {rest : α → Parser β} {bytes left : Bytes}
    {value : β} (parsed : parser.andThen rest bytes = (.ok value, left)) :
    ∃ first middle, parser bytes = (.ok first, middle) ∧ rest first middle = (.ok value, left) := by
  rw [Parser.andThen] at parsed
  split at parsed
  case h_1 first middle found => exact ⟨first, middle, found, parsed⟩
  case h_2 => cases parsed

theorem received_ok {bytes left : Bytes} {msg : α}
    (received : received version codec bytes = (.ok msg, left)) :
    ∃ frame : Frame version codec, bytes = frame.bytes ++ left ∧ frame.message = msg := by
  obtain ⟨lenBytes, behindLength, readLength, versioned⟩ := Parser.andThen_ok received
  obtain ⟨wire, four⟩ := Parser.take_ok readLength
  obtain ⟨msgVersion, behindVersion, readVersion, sized⟩ := Parser.andThen_ok versioned
  obtain ⟨behind, three⟩ := Parser.take_ok readVersion
  split at sized
  · cases sized
  rename_i accepted
  split at sized
  · cases sized
  rename_i small
  obtain ⟨data, rest, readPayload, decoded⟩ := Parser.andThen_ok sized
  obtain ⟨last, length⟩ := Parser.take_ok readPayload
  obtain ⟨major, minor, patch, rfl⟩ : ∃ major minor patch, msgVersion = [major, minor, patch] := by
    match msgVersion, three with
    | [major, minor, patch], _ => exact ⟨major, minor, patch, rfl⟩
  obtain ⟨sameMajor, sameMinor⟩ := not_or.mp accepted
  have sameMajor : major = version.major := not_not.mp sameMajor
  have sameMinor : minor = version.minor := not_not.mp sameMinor
  have decodes : codec.decode data = .ok msg := by
    cases outcome : codec.decode data with
    | ok value =>
        rw [outcome] at decoded
        cases decoded
        rfl
    | error message =>
        rw [outcome] at decoded
        cases decoded
  have same : rest = left := congrArg Prod.snd decoded
  have small : data.length ≤ maxPayload := length ▸ Nat.not_lt.mp small
  refine ⟨⟨patch, data, msg, small, decodes⟩, ?_, rfl⟩
  have lengthBytes : toLeBytes 4 data.length = lenBytes := by
    rw [length, ← four, toLeBytes_fromLeBytes]
  rw [wire, behind, last, same]
  simp only [Frame.bytes, header, Frame.sender, Version.bytes, lengthBytes, List.append_assoc,
    sameMajor, sameMinor]

/-- Of a header that breaks off nothing but its end is seen. -/
theorem received_short {bytes : Bytes} (short : bytes.length < 7) :
    ∃ error, received version codec bytes = (.error error, []) ∧
      error.kind = if bytes = [] then .connectionReset else .unexpectedEof := by
  by_cases inLength : bytes.length < 4
  · refine ⟨lengthError bytes, ?_, ?_⟩
    · rw [received, Parser.andThen, Parser.take_short _ inLength]
    · cases bytes <;> rfl
  · have some : bytes ≠ [] := by
      intro none
      exact inLength (by simp [none])
    have lengthRead : Parser.take 4 lengthError bytes = (.ok (bytes.take 4), bytes.drop 4) :=
      if_neg inLength
    refine ⟨eofError, ?_, by rw [if_neg some]; rfl⟩
    rw [received, Parser.andThen, lengthRead]
    simp only
    rw [Parser.andThen, Parser.take_short _ (by rw [List.length_drop]; omega)]

theorem received_strictPrefix (frame : Frame version codec) {bytes : Bytes}
    (brokenOff : bytes <+: frame.bytes) (incomplete : bytes ≠ frame.bytes) :
    ∃ error, received version codec bytes = (.error error, []) ∧
      error.kind = if bytes = [] then .connectionReset else .unexpectedEof := by
  by_cases short : bytes.length < 7
  · exact received_short short
  have headed : header frame.sender frame.payload.length <+: bytes :=
    List.prefix_of_prefix_length_le (List.prefix_append _ _) brokenOff (by simpa using short)
  obtain ⟨part, rfl⟩ := headed
  have within : part <+: frame.payload := (List.prefix_append_right_inj _).mp brokenOff
  have missing : part.length < frame.payload.length := by
    refine Nat.lt_of_le_of_ne within.length_le fun same => incomplete ?_
    rw [within.eq_of_length same, Frame.bytes]
  have some : header frame.sender frame.payload.length ++ part ≠ [] := by
    intro none
    exact short (by rw [none]; decide)
  refine ⟨eofError, ?_, by rw [if_neg some]; rfl⟩
  rw [frame.received_bytes, receivedPayload_short missing]

def sendAll (version : Version) (codec : MessageCodec α) : List α → IpcIo Unit
  | [] => pure ()
  | msg :: rest => do
      send version codec msg
      sendAll version codec rest

/-- The results of that many calls of `recv` in a row. -/
def recvAll (version : Version) (codec : MessageCodec α) :
    Nat → Program streamOps (List (Except IoError α))
  | 0 => pure []
  | calls + 1 => do
      let result ← (recv version codec).run
      let later ← recvAll version codec calls
      return result :: later

/-- How many pieces of the given lengths lie wholly before the cut. -/
def wholeBefore : List Nat → Nat → Nat
  | [], _ => 0
  | length :: rest, cut => if length ≤ cut then wholeBefore rest (cut - length) + 1 else 0

/-- What `send` puts on the wire for a message. -/
def frameBytes (version : Version) (codec : MessageCodec α) (msg : α) : Bytes :=
  match codec.encode msg with
  | .ok data => toLeBytes 4 data.length ++ version.bytes ++ data
  | .error _ => []

def frameLength (codec : MessageCodec α) (msg : α) : Nat :=
  match codec.encode msg with
  | .ok data => 7 + data.length
  | .error _ => 0

theorem transfers_writeAll {bytes : Bytes} {result : Except IoError Unit} :
    Transfers (IpcIo.writeAll bytes) before result after ↔
      result = .ok () ∧ after = { before with outgoing := before.outgoing ++ bytes } :=
  ⟨fun ⟨_, written⟩ => written, fun written => ⟨0, written⟩⟩

theorem transfers_send {msg : α} {data : Bytes} {result : Except IoError Unit}
    (encoded : codec.encode msg = .ok data)
    (ran : Transfers (send version codec msg) before result after) :
    result = .ok () ∧ after =
      { before with outgoing := before.outgoing ++ (header version data.length ++ data) } := by
  have writes : ∀ {bytes : Bytes} {rest : Unit → IpcIo Unit} {before : Stream},
      Transfers (IpcIo.writeAll bytes >>= rest) before result after →
      Transfers (rest ()) { before with outgoing := before.outgoing ++ bytes } result after := by
    exact (Fallible.runs_bind_sure transfers_writeAll).mp
  rcases Fallible.runs_bind.mp ran with ⟨error, _, coded, _⟩ | ⟨bytes, _, ⟨coded, rfl⟩, later⟩
  · rw [encoded] at coded
    cases coded
  · rw [encoded] at coded
    cases coded
    obtain ⟨_, returned, flushed⟩ := writes (writes (writes later))
    refine ⟨returned, ?_⟩
    rw [flushed, header]
    simp only [List.append_assoc]
    rfl

/-- The message has an encoding, which the receiver does not refuse for its size. -/
def MessageCodec.Fits (codec : MessageCodec α) (msg : α) : Prop :=
  ∃ data, codec.encode msg = .ok data ∧ data.length ≤ maxPayload

theorem transfers_sendAll {messages : List α} {outcome : Except IoError Unit}
    (fits : ∀ msg ∈ messages, codec.Fits msg)
    (ran : Transfers (sendAll version codec messages) before outcome after) :
    outcome = .ok () ∧ after = { before with
      outgoing := before.outgoing ++ messages.flatMap (frameBytes version codec) } := by
  induction messages generalizing before with
  | nil =>
      obtain ⟨rfl, rfl⟩ := ran
      exact ⟨rfl, by simp⟩
  | cons msg rest ih =>
      obtain ⟨data, encoded, _⟩ := fits msg List.mem_cons_self
      rcases Fallible.runs_bind.mp ran with ⟨error, _, failed⟩ | ⟨_, middle, first, later⟩
      · cases (transfers_send encoded failed).1
      · obtain ⟨_, rfl⟩ := transfers_send encoded first
        obtain ⟨sent, rfl⟩ := ih (fun next member => fits next (List.mem_cons_of_mem _ member)) later
        refine ⟨sent, ?_⟩
        simp [frameBytes, encoded, header, List.append_assoc]

/-- An agreeing version finds a frame where a message was put on the wire. -/
theorem frames_of_messages {receiver : Version} (agrees : version.Agrees receiver)
    {messages : List α} (fits : ∀ msg ∈ messages, codec.Fits msg) :
    ∃ frames : List (Frame receiver codec),
      frames.flatMap Frame.bytes = messages.flatMap (frameBytes version codec) ∧
      frames.map Frame.message = messages ∧
      frames.map (fun frame => frame.bytes.length) = messages.map (frameLength codec) := by
  induction messages with
  | nil => exact ⟨[], rfl, rfl, rfl⟩
  | cons msg rest ih =>
      obtain ⟨data, encoded, small⟩ := fits msg List.mem_cons_self
      obtain ⟨frames, written, same, lengths⟩ :=
        ih fun next member => fits next (List.mem_cons_of_mem _ member)
      let frame : Frame receiver codec := {
        patch := version.patch, payload := data, message := msg,
        small, decodes := codec.decode_encode encoded }
      have sender : frame.sender = version := by
        obtain ⟨major, minor⟩ := agrees
        simp only [frame, Frame.sender, ← major, ← minor]
      have bytes : frame.bytes = frameBytes version codec msg := by
        rw [Frame.bytes, sender]
        simp only [frameBytes, encoded, header, frame]
      refine ⟨frame :: frames, ?_, ?_, ?_⟩
      · rw [List.flatMap_cons, List.flatMap_cons, bytes, written]
      · rw [List.map_cons, same]
      · rw [List.map_cons, lengths, List.map_cons, Frame.bytes]
        simp [frameLength, encoded, frame]

theorem length_frameBytes {messages : List α} :
    (messages.flatMap (frameBytes version codec)).length = (messages.map (frameLength codec)).sum := by
  induction messages with
  | nil => rfl
  | cons msg rest ih =>
      rw [List.flatMap_cons, List.length_append, ih, List.map_cons, List.sum_cons]
      congr 1
      cases encoded : codec.encode msg with
      | error message => simp [frameBytes, frameLength, encoded]
      | ok data =>
          simp only [frameBytes, frameLength, encoded, Version.bytes, List.length_append,
            length_toLeBytes, List.length_cons, List.length_nil]

theorem Frame.bytes_ne_nil (frame : Frame version codec) : frame.bytes ≠ [] := by
  intro none
  have length := congrArg List.length none
  simp [Frame.bytes] at length

theorem runs_recvAll_succ {calls : Nat} {results : List (Except IoError α)}
    (ran : (recvAll version codec (calls + 1)).Runs streamSemantics before results after) :
    ∃ later, results = (received version codec before.incoming).1 :: later ∧
      (recvAll version codec calls).Runs streamSemantics
        { before with incoming := (received version codec before.incoming).2 } later after := by
  obtain ⟨result, middle, first, ran⟩ := Program.runs_bind.mp ran
  obtain ⟨later, last, second, collected, same⟩ := Program.runs_bind.mp ran
  obtain ⟨returned, left⟩ := parses_recv first
  rw [left] at second
  rw [same, collected, returned]
  exact ⟨later, rfl, second⟩

/-- The frames before the cut are received, then the end of the stream is seen. -/
theorem runs_recvAll {frames : List (Frame version codec)} {cut : Nat} {outgoing : Bytes}
    {results : List (Except IoError α)}
    (within : cut ≤ (frames.flatMap Frame.bytes).length)
    (ran : (recvAll version codec
      (wholeBefore (frames.map fun frame => frame.bytes.length) cut + 1)).Runs streamSemantics
        { incoming := (frames.flatMap Frame.bytes).take cut, outgoing } results after) :
    let lengths := frames.map fun frame => frame.bytes.length
    let whole := wholeBefore lengths cut
    ∃ error, results = (frames.take whole).map (.ok ·.message) ++ [.error error] ∧
      error.kind = if cut = (lengths.take whole).sum then .connectionReset else .unexpectedEof := by
  induction frames generalizing cut results with
  | nil =>
      obtain ⟨later, collected, ended⟩ := runs_recvAll_succ ran
      have none : cut = 0 := by simpa using within
      have closed : ([] : Bytes).length < 7 := by decide
      obtain ⟨error, failed, kind⟩ : ∃ error, received version codec [] = (.error error, []) ∧
          error.kind = if ([] : Bytes) = [] then .connectionReset else .unexpectedEof :=
        received_short closed
      refine ⟨error, ?_, by simpa [none] using kind⟩
      rw [collected, ended.1]
      simp [failed]
  | cons frame frames ih =>
      by_cases whole : frame.bytes.length ≤ cut
      · have split : ((frame :: frames).flatMap Frame.bytes).take cut =
            frame.bytes ++ (frames.flatMap Frame.bytes).take (cut - frame.bytes.length) := by
          rw [List.flatMap_cons, List.take_append, List.take_of_length_le whole]
        simp only [List.map_cons, wholeBefore, if_pos whole, split] at ran ⊢
        obtain ⟨later, collected, rest⟩ := runs_recvAll_succ ran
        rw [received_frame] at collected rest
        have bounded : cut - frame.bytes.length ≤ (frames.flatMap Frame.bytes).length := by
          rw [List.flatMap_cons, List.length_append] at within
          omega
        obtain ⟨error, received, kind⟩ := ih bounded rest
        refine ⟨error, ?_, ?_⟩
        · rw [collected, received]
          rfl
        · rw [kind, List.take_succ_cons, List.sum_cons]
          congr 1
          exact propext (by omega)
      · have nothing : wholeBefore ((frame :: frames).map fun frame => frame.bytes.length) cut = 0 :=
          if_neg whole
        have part : ((frame :: frames).flatMap Frame.bytes).take cut = frame.bytes.take cut := by
          rw [List.flatMap_cons, List.take_append_of_le_length (by omega)]
        have incomplete : frame.bytes.take cut ≠ frame.bytes := by
          intro same
          have length := congrArg List.length same
          rw [List.length_take] at length
          omega
        obtain ⟨error, failed, kind⟩ :=
          received_strictPrefix frame (List.take_prefix cut frame.bytes) incomplete
        simp only [nothing, part] at ran ⊢
        obtain ⟨later, collected, ended⟩ := runs_recvAll_succ ran
        refine ⟨error, ?_, ?_⟩
        · rw [collected, ended.1]
          simp [failed]
        · rw [kind]
          congr 1
          simp [frame.bytes_ne_nil]

/-- The frames of the messages are what is sent.  The messages are received unchanged and in
order up to the cut, whatever the reads return; then the receiver sees that the connection was
closed, or that it broke off inside a frame. -/
theorem recvAll_sendAll {sender receiver : Version} (agrees : sender.Agrees receiver)
    {messages : List α} {wire cutOff : Stream} {cut : Nat} {sent : Except IoError Unit}
    {results : List (Except IoError α)} (fits : ∀ msg ∈ messages, codec.Fits msg)
    (sends : Transfers (sendAll sender codec messages) { incoming := [], outgoing := [] } sent wire)
    (within : cut ≤ (messages.map (frameLength codec)).sum)
    (received : (recvAll receiver codec
      (wholeBefore (messages.map (frameLength codec)) cut + 1)).Runs streamSemantics
        { incoming := wire.outgoing.take cut, outgoing := [] } results cutOff) :
    let whole := wholeBefore (messages.map (frameLength codec)) cut
    sent = .ok () ∧ wire.outgoing = messages.flatMap (frameBytes sender codec) ∧
    ∃ error, results = (messages.take whole).map .ok ++ [.error error] ∧
      error.kind =
        if cut = ((messages.map (frameLength codec)).take whole).sum
        then .connectionReset else .unexpectedEof := by
  obtain ⟨complete, rfl⟩ := transfers_sendAll fits sends
  obtain ⟨frames, written, same, lengths⟩ := frames_of_messages agrees fits
  have size : (messages.flatMap (frameBytes sender codec)).length =
      (messages.map (frameLength codec)).sum := length_frameBytes
  rw [← size, ← written] at within
  simp only [List.nil_append] at received ⊢
  rw [← written, ← lengths] at received
  obtain ⟨error, collected, kind⟩ := runs_recvAll within received
  rw [← lengths]
  refine ⟨complete, trivial, error, ?_, kind⟩
  rw [collected, ← same, ← List.map_take, List.map_map]
  rfl

/-- Two requests sent by another patch level, cut inside the second one and
handed out in reads of at most two bytes. -/
theorem recvAll_sendAll_inside :
    ∃ error : IoError,
      ((recvAll ipcProtocolVersion requestCodec 2).run streamSemantics (List.replicate 20 2)
        ⟨[1, 0, 0, 0, 0, 4, 9, 1, 2, 0, 0, 0, 0], []⟩).1 = [.ok .getFansRPM, .error error] ∧
      error.kind = .unexpectedEof := by
  have agrees : Version.Agrees ⟨0, 4, 9⟩ ipcProtocolVersion := by decide
  have fits : ∀ msg ∈ [IpcRequest.getFansRPM, .setLedMode .auto], requestCodec.Fits msg := by
    intro msg member
    refine ⟨_, rfl, ?_⟩
    revert msg
    decide
  have sends : Transfers (sendAll ⟨0, 4, 9⟩ requestCodec [.getFansRPM, .setLedMode .auto]) ⟨[], []⟩
      (.ok ()) ⟨[], [1, 0, 0, 0, 0, 4, 9, 1, 2, 0, 0, 0, 0, 4, 9, 10, 0]⟩ :=
    Program.run_runs _ [] _
  have within : 13 ≤ ([IpcRequest.getFansRPM, .setLedMode .auto].map
      (frameLength requestCodec)).sum := by decide
  obtain ⟨_, _, received⟩ :=
    recvAll_sendAll agrees fits sends within (Program.run_runs _ (List.replicate 20 2) _)
  exact received

end Lecoo.Ipc
