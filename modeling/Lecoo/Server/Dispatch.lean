import Lecoo.Server.Handler

namespace Lecoo.Server

open Lecoo.Effects Lecoo.Ipc Lecoo.Ipc.TelemetryFormat

/-! # Telling the two formats apart

The reader of the old format is tried whenever the one of the current format
fails, for whatever reason.  Short input keeps the formats apart; the limit of
the decoder does not.
-/

/-- A payload in the format of the client that sends it. -/
inductive Sent where
  | current (payload : TelemetryPayload)
  | old (payload : TelemetryPayloadV1)

namespace Sent

def body (charges : Charges) : Sent → List UInt8
  | .current payload => (telemetryPayload charges).encode payload
  | .old payload => (telemetryPayloadV1 charges).encode payload

/-- The row with exactly the fields that were sent. -/
def row : Sent → Parsed
  | .current ⟨id, .startup firmware offset cpu os motherboard⟩ =>
      ⟨clientUuid id, .startup firmware (hexOffset offset) cpu os (some motherboard)⟩
  | .old ⟨id, .startup firmware offset cpu os⟩ =>
      ⟨clientUuid id, .startup firmware (hexOffset offset) cpu os none⟩
  | .current ⟨id, .status profile (cpuTemp, sysTemp) (cpuRpm, gpuRpm)⟩
  | .old ⟨id, .status profile (cpuTemp, sysTemp) (cpuRpm, gpuRpm)⟩ =>
      ⟨clientUuid id, .status (profileName profile) cpuTemp sysTemp cpuRpm gpuRpm⟩
  | .current ⟨id, .panic error⟩ | .old ⟨id, .panic error⟩ => ⟨clientUuid id, .panic error⟩

theorem row_current (payload : TelemetryPayload) : (current payload).row = parsed payload := by
  obtain ⟨id, _ | _ | _⟩ := payload <;> rfl

theorem row_old (payload : TelemetryPayloadV1) : (old payload).row = parsedV1 payload := by
  obtain ⟨id, _ | _ | _⟩ := payload <;> rfl

/-- The motherboard is what goes beyond the limit of the decoder. -/
def MotherboardExceeds (charges : Charges) : Sent → Prop
  | .current payload =>
      (telemetryPayloadV1 charges).claims (withoutMotherboard payload) ≤ decodeLimit ∧
        decodeLimit < (telemetryPayload charges).claims payload
  | .old _ => False

instance (charges : Charges) (sent : Sent) : Decidable (sent.MotherboardExceeds charges) := by
  cases sent with
  | current payload => exact inferInstanceAs (Decidable (_ ∧ _))
  | old payload => exact inferInstanceAs (Decidable False)

end Sent

structure Posted (request : HttpRequest) (body : List UInt8) : Prop where
  method : request.method = .post
  url : request.url = "/telemetry"
  declared : request.bodyLength.getD 0 ≤ maxBodySize
  read : request.body = .ok body

def soundSemantics (thread : ThreadId) : Semantics serverOps DbChoice ServerState :=
  fun operation choice server => serverSemantics thread operation { choice with failure := none } server

/-- The body is stored, and the event recorded if there is one. -/
def Stored (thread : ThreadId) (body : List UInt8) (before after : ServerState)
    (event : Option Parsed) : Prop :=
  ∃ raw : RawRow, after.db.raw = before.db.raw ++ [raw] ∧ raw.rawData = body ∧
    match event with
    | some parsed => after.responses thread = some 201 ∧ ∃ row : ParsedRow,
        after.db.events = before.db.events ++ [row] ∧ row.rawId = raw.id ∧ row.parsed = parsed
    | none => after.responses thread = some 202 ∧ after.db.events = before.db.events

/-- What was sent is recorded as it was sent, or stored without an event; and
nothing else is recorded when an insert fails. -/
structure Faithful (charges : Charges) (sent : Sent) : Prop where
  stores : ∀ {request thread before after}, Posted request (sent.body charges) →
    (handle charges request).Runs (soundSemantics thread) before () after →
    Stored thread (sent.body charges) before after (some sent.row) ∨
      Stored thread (sent.body charges) before after none
  records : ∀ {request thread before after}, Posted request (sent.body charges) →
    (handle charges request).Runs (serverSemantics thread) before () after →
    after.db.events = before.db.events ∨
      ∃ row, after.db.events = before.db.events ++ [row] ∧ row.parsed = sent.row

variable {charges : Charges} {sent : Sent}

theorem handle_posted {request : HttpRequest} {body : List UInt8} (posted : Posted request body)
    (fits : body.length ≤ maxBodySize) :
    handle charges request = perform .lockDb >>= fun _ =>
      store charges (daemonVersion request) body >>= fun _ => perform .unlockDb := by
  unfold handle
  rw [if_neg (by simp [posted.method]), if_neg (by simp [posted.method, posted.url]),
    if_neg (Nat.not_lt.mpr posted.declared)]
  simp only [posted.read, if_neg (Nat.not_lt.mpr fits)]

theorem handle_stores {request : HttpRequest} {thread : ThreadId} {body : List UInt8}
    {before after : ServerState} (posted : Posted request body) (fits : body.length ≤ maxBodySize)
    (ran : (handle charges request).Runs (soundSemantics thread) before () after) :
    Stored thread body before after (decoded charges body) := by
  rw [handle_posted posted fits, store_eq] at ran
  cases event : decoded charges body with
  | some parsed =>
      rw [event] at ran
      obtain ⟨locked, inserted, asked, recorded, responded, unlocked, _, rfl⟩ := ran
      refine ⟨_, rfl, rfl, Function.update_self .., _, rfl, rfl, rfl⟩
  | none =>
      rw [event] at ran
      obtain ⟨locked, inserted, asked, responded, unlocked, _, rfl⟩ := ran
      exact ⟨_, rfl, rfl, Function.update_self .., rfl⟩

theorem handle_records {request : HttpRequest} {thread : ThreadId} {body : List UInt8}
    {before after : ServerState} (posted : Posted request body) (fits : body.length ≤ maxBodySize)
    (ran : (handle charges request).Runs (serverSemantics thread) before () after) :
    after.db.events = before.db.events ∨ ∃ row,
      after.db.events = before.db.events ++ [row] ∧ decoded charges body = some row.parsed := by
  rw [handle_posted posted fits, store_eq] at ran
  obtain ⟨locked, inserted, ran⟩ := ran
  cases insertion : inserted.failure with
  | some message =>
      simp only [serverSemantics, insertion] at ran
      obtain ⟨responded, unlocked, _, rfl⟩ := ran
      exact .inl rfl
  | none =>
      simp only [serverSemantics, insertion] at ran
      obtain ⟨asked, ran⟩ := ran
      cases event : decoded charges body with
      | none =>
          rw [event] at ran
          obtain ⟨responded, unlocked, _, rfl⟩ := ran
          exact .inl rfl
      | some parsed =>
          rw [event] at ran
          obtain ⟨recorded, ran⟩ := ran
          cases recording : recorded.failure with
          | some message =>
              simp only [serverSemantics, recording] at ran
              obtain ⟨responded, unlocked, _, rfl⟩ := ran
              exact .inl rfl
          | none =>
              simp only [serverSemantics, recording] at ran
              obtain ⟨responded, unlocked, _, rfl⟩ := ran
              exact .inr ⟨_, rfl, rfl⟩

theorem Stored.unique {thread : ThreadId} {body : List UInt8} {before after : ServerState}
    {first second : Option Parsed} (once : Stored thread body before after first)
    (again : Stored thread body before after second) : first = second := by
  obtain ⟨_, _, _, once⟩ := once
  obtain ⟨_, _, _, again⟩ := again
  cases first <;> cases second
  · rfl
  · exact absurd (once.1.symm.trans again.1) (by decide)
  · exact absurd (once.1.symm.trans again.1) (by decide)
  · obtain ⟨_, row, events, _, rfl⟩ := once
    obtain ⟨_, other, same, _, rfl⟩ := again
    rw [events, List.append_cancel_left_eq] at same
    rw [(List.cons.inj same).1]

theorem post_posted {body : List UInt8} (fits : body.length ≤ maxBodySize) :
    Posted (post body) body :=
  ⟨rfl, rfl, fits, rfl⟩

theorem parsed_withoutMotherboard {payload : TelemetryPayload} (bare : motherboard payload = none) :
    parsedV1 (withoutMotherboard payload) = parsed payload := by
  obtain ⟨id, data⟩ := payload
  cases data with
  | startup => cases bare
  | _ => rfl

theorem claims_withoutMotherboard {payload : TelemetryPayload} (bare : motherboard payload = none) :
    (telemetryPayloadV1 charges).claims (withoutMotherboard payload) =
      (telemetryPayload charges).claims payload := by
  rw [claims_current, bare]
  rfl

theorem decoded_current {payload : TelemetryPayload}
    (short : ((telemetryPayload charges).encode payload).length < 2 ^ 64) :
    decoded charges ((telemetryPayload charges).encode payload) =
      if (telemetryPayload charges).claims payload ≤ decodeLimit then some (parsed payload)
      else if (telemetryPayloadV1 charges).claims (withoutMotherboard payload) ≤ decodeLimit then
        some (parsedV1 (withoutMotherboard payload))
      else none := by
  have direct := (telemetryPayload charges).read_encode payload [] decodeLimit short
  have fallback := congrArg (Option.map parsedV1) (old_reads_current payload decodeLimit short)
  rw [List.append_nil] at direct
  rw [Option.map_map] at fallback
  rw [decoded, direct]
  split
  · rfl
  · refine fallback.trans ?_
    split <;> rfl

/-- The fields of an old payload, unless it is a start-up, are those of a current one. -/
theorem old_cases (payload : TelemetryPayloadV1) :
    (∃ id firmware offset cpu os, payload = ⟨id, .startup firmware offset cpu os⟩) ∨
    (∃ current, payload = withoutMotherboard current ∧ motherboard current = none) := by
  obtain ⟨id, data⟩ := payload
  cases data with
  | startup firmware offset cpu os => exact .inl ⟨id, firmware, offset, cpu, os, rfl⟩
  | status profile temps fans => exact .inr ⟨⟨id, .status profile temps fans⟩, rfl, rfl⟩
  | panic error => exact .inr ⟨⟨id, .panic error⟩, rfl, rfl⟩

theorem decoded_old {payload : TelemetryPayloadV1}
    (short : ((telemetryPayloadV1 charges).encode payload).length < 2 ^ 64) :
    decoded charges ((telemetryPayloadV1 charges).encode payload) =
      if (telemetryPayloadV1 charges).claims payload ≤ decodeLimit then some (parsedV1 payload)
      else none := by
  obtain ⟨id, firmware, offset, cpu, os, rfl⟩ | ⟨current, rfl, bare⟩ := old_cases payload
  · have direct := (telemetryPayloadV1 charges).read_encode
      ⟨id, .startup firmware offset cpu os⟩ [] decodeLimit short
    rw [List.append_nil] at direct
    rw [decoded, current_refuses_old short, direct]
    split <;> rfl
  · have same : (telemetryPayloadV1 charges).encode (withoutMotherboard current) =
        (telemetryPayload charges).encode current := by
      rw [encode_current, bare]
      exact (List.append_nil _).symm
    rw [same] at short ⊢
    rw [decoded_current short, claims_withoutMotherboard bare, parsed_withoutMotherboard bare]
    split
    · rfl
    · rfl

theorem row_withoutMotherboard {payload : TelemetryPayload} {text : String}
    (named : motherboard payload = some text) :
    parsedV1 (withoutMotherboard payload) ≠ parsed payload := by
  obtain ⟨id, data⟩ := payload
  cases data with
  | startup => simp [withoutMotherboard, parsedV1, parsed]
  | _ => cases named

theorem decoded_within (short : (sent.body charges).length < 2 ^ 64)
    (within : ¬ sent.MotherboardExceeds charges) {event : Parsed}
    (read : decoded charges (sent.body charges) = some event) : event = sent.row := by
  cases sent with
  | current payload =>
      rw [Sent.body, decoded_current short] at read
      split at read
      · exact (Option.some.inj read).symm.trans (Sent.row_current payload).symm
      · rename_i beyond
        rw [if_neg fun fits => within ⟨fits, Nat.lt_of_not_le beyond⟩] at read
        cases read
  | old payload =>
      rw [Sent.body, decoded_old short] at read
      split at read
      · exact (Option.some.inj read).symm.trans (Sent.row_old payload).symm
      · cases read

theorem decoded_exceeding (short : (sent.body charges).length < 2 ^ 64)
    (exceeds : sent.MotherboardExceeds charges) :
    ∃ event, decoded charges (sent.body charges) = some event ∧ event ≠ sent.row := by
  cases sent with
  | old payload => exact exceeds.elim
  | current payload =>
      obtain ⟨fits, beyond⟩ := exceeds
      refine ⟨parsedV1 (withoutMotherboard payload), ?_, ?_⟩
      · rw [Sent.body, decoded_current short, if_neg (Nat.not_le.mpr beyond), if_pos fits]
      · cases board : motherboard payload with
        | some text =>
            rw [Sent.row_current]
            exact row_withoutMotherboard board
        | none =>
            rw [claims_withoutMotherboard board] at fits
            exact absurd fits (Nat.not_le.mpr beyond)

theorem unfaithful_of_exceeds (small : (sent.body charges).length ≤ maxBodySize)
    (exceeds : sent.MotherboardExceeds charges) : ¬ Faithful charges sent := by
  intro faithful
  have short : (sent.body charges).length < 2 ^ 64 := Nat.lt_of_le_of_lt small (by decide)
  obtain ⟨event, read, differs⟩ := decoded_exceeding short exceeds
  let server : ServerState := ⟨⟨[], [], 0, 0⟩, none, fun _ => none⟩
  let request := post (sent.body charges)
  have ran : (handle charges request).Runs (soundSemantics 0) server ()
      ((handle charges request).run (soundSemantics 0) [] server).2 := Program.run_runs _ _ _
  have stored := handle_stores (post_posted small) small ran
  rw [read] at stored
  obtain recorded | kept := faithful.stores (post_posted small) ran
  · exact differs (Option.some.inj (stored.unique recorded))
  · cases stored.unique kept

/-- A payload is stored for what it is, except when it is the motherboard that
takes it beyond the limit of the decoder. -/
theorem faithful_iff (charges : Charges) (sent : Sent)
    (small : (sent.body charges).length ≤ maxBodySize) :
    Faithful charges sent ↔ ¬ sent.MotherboardExceeds charges := by
  have short : (sent.body charges).length < 2 ^ 64 := Nat.lt_of_le_of_lt small (by decide)
  constructor
  · intro faithful exceeds
    exact unfaithful_of_exceeds small exceeds faithful
  · intro within
    refine ⟨fun posted ran => ?_, fun posted ran => ?_⟩
    · have stored := handle_stores posted small ran
      cases read : decoded charges (sent.body charges) with
      | none => exact .inr (read ▸ stored)
      | some event =>
          cases decoded_within short within read
          exact .inl (read ▸ stored)
    · obtain kept | ⟨row, added, read⟩ := handle_records posted small ran
      · exact .inl kept
      · exact .inr ⟨row, added, decoded_within short within read⟩

theorem faithful_iff_startup :
    Faithful .bincode (.current ⟨7, .startup "1.0.4" 0xC400 "Ryzen" "Windows 11" "N155A"⟩) :=
  (faithful_iff .bincode _ (by decide)).mpr (by decide)

/-- In numbers: the integers take 38 bytes of the limit, 46 with the length of the motherboard. -/
theorem motherboardExceeds_startup {id : UInt64} {firmware cpu os board : String} {offset : UInt16} :
    (Sent.current ⟨id, .startup firmware offset cpu os board⟩).MotherboardExceeds .bincode ↔
      38 + firmware.utf8ByteSize + cpu.utf8ByteSize + os.utf8ByteSize ≤ decodeLimit ∧
      decodeLimit < 46 + firmware.utf8ByteSize + cpu.utf8ByteSize + os.utf8ByteSize +
        board.utf8ByteSize := by
  have old : (telemetryPayloadV1 .bincode).claims ⟨id, .startup firmware offset cpu os⟩ =
      8 + (4 + (8 + firmware.utf8ByteSize + (2 + (8 + cpu.utf8ByteSize + (8 + os.utf8ByteSize))))) :=
    rfl
  have current : (telemetryPayload .bincode).claims ⟨id, .startup firmware offset cpu os board⟩ =
      (telemetryPayloadV1 .bincode).claims ⟨id, .startup firmware offset cpu os⟩ +
        (8 + board.utf8ByteSize) := claims_current _
  rw [Sent.MotherboardExceeds, withoutMotherboard, current, old]
  omega

/-- A start-up with a motherboard and nothing else. -/
def boardOnly (board : String) : Sent := .current ⟨0, .startup "" 0 "" "" board⟩

theorem boardOnly_small {board : String} (long : board.utf8ByteSize = decodeLimit) :
    ((boardOnly board).body .bincode).length ≤ maxBodySize := by
  have layout : (boardOnly board).body .bincode =
      (telemetryPayloadV1 .bincode).encode ⟨0, .startup "" 0 "" ""⟩ ++ (string .bincode).encode board :=
    encode_current _
  have count : board.toByteArray.data.toList.length = decodeLimit := long
  rw [layout, string_encode, long, List.length_append, List.length_append, count]
  decide

theorem boardOnly_exceeds {board : String} (long : board.utf8ByteSize = decodeLimit) :
    (boardOnly board).MotherboardExceeds .bincode := by
  rw [boardOnly, motherboardExceeds_startup, long]
  decide

theorem letters_size (count : Nat) :
    (String.ofList (List.replicate count 'a')).utf8ByteSize = count := by
  have letter : String.utf8EncodeChar 'a' = [97] := by decide
  rw [← String.size_toByteArray, String.toByteArray_ofList, List.utf8Encode,
    List.size_toByteArray, List.flatMap_replicate, letter, List.flatten_replicate_singleton,
    List.length_replicate]

theorem faithful_fails : ¬ ∀ sent : Sent, (sent.body .bincode).length ≤ maxBodySize →
    Faithful .bincode sent := by
  have long := letters_size decodeLimit
  intro faithful
  exact unfaithful_of_exceeds (boardOnly_small long) (boardOnly_exceeds long)
    (faithful _ (boardOnly_small long))

end Lecoo.Server
