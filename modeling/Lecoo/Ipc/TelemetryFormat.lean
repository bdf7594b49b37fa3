import Lecoo.Data.Metered
import Lecoo.Ipc.Bincode

namespace Lecoo.Ipc.TelemetryFormat

open Lecoo.Data Metered

/-! # The two formats of a telemetry payload

They differ in what belongs to a start-up: the current format has the
motherboard behind the fields of the old one.  Neither says which one it is.
-/

/-- What the decoder claims for an integer of each width. -/
structure Charges where
  uint16 : Nat
  uint32 : Nat
  uint64 : Nat

/-- An integer is charged with its width in memory. -/
def Charges.bincode : Charges := ⟨2, 4, 8⟩

section Layout

variable (charges : Charges)

def word16 : Metered UInt16 := fixed Bincode.uint16 charges.uint16

def word32 : Metered UInt32 := fixed Bincode.uint32 charges.uint32

def word64 : Metered UInt64 := fixed Bincode.uint64 charges.uint64

def string : Metered String := text (word64 charges)

def powerProfile : Metered PowerProfile :=
  (word32 charges).retract
    (fun | 0 => some .silent | 1 => some .default | 2 => some .performance | _ => none)
    (fun | .silent => 0 | .default => 1 | .performance => 2)
    fun value => by cases value <;> rfl

/-- The variants of a payload's data. -/
inductive Kind where
  | startup
  | status
  | panic

def kind : Metered Kind :=
  (word32 charges).retract
    (fun | 0 => some .startup | 1 => some .status | 2 => some .panic | _ => none)
    (fun | .startup => 0 | .status => 1 | .panic => 2)
    fun value => by cases value <;> rfl

def StartupV1 : Type := String × UInt16 × String × String

def startupV1 : Metered StartupV1 :=
  (string charges).pair ((word16 charges).pair ((string charges).pair (string charges)))

def startup : Metered (StartupV1 × String) := (startupV1 charges).pair (string charges)

def DataFields (Startup : Type) : Kind → Type
  | .startup => Startup
  | .status => PowerProfile × (UInt32 × UInt32) × UInt32 × UInt32
  | .panic => String

def dataFields {Startup : Type} (startup : Metered Startup) :
    (kind : Kind) → Metered (DataFields Startup kind)
  | .startup => startup
  | .status => (powerProfile charges).pair
      (((word32 charges).pair (word32 charges)).pair ((word32 charges).pair (word32 charges)))
  | .panic => string charges

def payload {Startup : Type} (startup : Metered Startup) :
    Metered (UInt64 × ((kind : Kind) × DataFields Startup kind)) :=
  (word64 charges).pair ((kind charges).sigma (dataFields charges startup))

def telemetryPayload : Metered TelemetryPayload :=
  (payload charges (startup charges)).imap
    (fun
      | (id, ⟨.startup, ((firmware, offset, cpu, os), motherboard)⟩) =>
          ⟨id, .startup firmware offset cpu os motherboard⟩
      | (id, ⟨.status, (profile, temps, fans)⟩) => ⟨id, .status profile temps fans⟩
      | (id, ⟨.panic, error⟩) => ⟨id, .panic error⟩)
    (fun
      | ⟨id, .startup firmware offset cpu os motherboard⟩ =>
          (id, ⟨.startup, ((firmware, offset, cpu, os), motherboard)⟩)
      | ⟨id, .status profile temps fans⟩ => (id, ⟨.status, (profile, temps, fans)⟩)
      | ⟨id, .panic error⟩ => (id, ⟨.panic, error⟩))
    fun value => by rcases value with ⟨id, _ | _ | _⟩ <;> rfl

def telemetryPayloadV1 : Metered TelemetryPayloadV1 :=
  (payload charges (startupV1 charges)).imap
    (fun
      | (id, ⟨.startup, (firmware, offset, cpu, os)⟩) => ⟨id, .startup firmware offset cpu os⟩
      | (id, ⟨.status, (profile, temps, fans)⟩) => ⟨id, .status profile temps fans⟩
      | (id, ⟨.panic, error⟩) => ⟨id, .panic error⟩)
    (fun
      | ⟨id, .startup firmware offset cpu os⟩ => (id, ⟨.startup, (firmware, offset, cpu, os)⟩)
      | ⟨id, .status profile temps fans⟩ => (id, ⟨.status, (profile, temps, fans)⟩)
      | ⟨id, .panic error⟩ => (id, ⟨.panic, error⟩))
    fun value => by rcases value with ⟨id, _ | _ | _⟩ <;> rfl

end Layout

/-- The payload in the old format; only a start-up has more than that. -/
def withoutMotherboard : TelemetryPayload → TelemetryPayloadV1
  | ⟨id, .startup firmware offset cpu os _⟩ => ⟨id, .startup firmware offset cpu os⟩
  | ⟨id, .status profile temps fans⟩ => ⟨id, .status profile temps fans⟩
  | ⟨id, .panic error⟩ => ⟨id, .panic error⟩

def motherboard : TelemetryPayload → Option String
  | ⟨_, .startup _ _ _ _ motherboard⟩ => some motherboard
  | _ => none

variable {charges : Charges}

/-- The motherboard is what stands behind the fields of the old format. -/
theorem encode_current (payload : TelemetryPayload) :
    (telemetryPayload charges).encode payload =
      (telemetryPayloadV1 charges).encode (withoutMotherboard payload) ++
        ((motherboard payload).map (string charges).encode).getD [] := by
  obtain ⟨id, data⟩ := payload
  cases data with
  | startup firmware offset cpu os motherboard =>
      change (word64 charges).encode id ++ ((kind charges).encode .startup ++
          ((startupV1 charges).encode (firmware, offset, cpu, os) ++
            (string charges).encode motherboard)) =
        (word64 charges).encode id ++ ((kind charges).encode .startup ++
          (startupV1 charges).encode (firmware, offset, cpu, os)) ++
            (string charges).encode motherboard
      simp only [List.append_assoc]
  | _ => exact (List.append_nil _).symm

theorem claims_current (payload : TelemetryPayload) :
    (telemetryPayload charges).claims payload =
      (telemetryPayloadV1 charges).claims (withoutMotherboard payload) +
        ((motherboard payload).map (string charges).claims).getD 0 := by
  obtain ⟨id, data⟩ := payload
  cases data with
  | startup firmware offset cpu os motherboard =>
      change (word64 charges).claims id + ((kind charges).claims .startup +
          ((startupV1 charges).claims (firmware, offset, cpu, os) +
            (string charges).claims motherboard)) =
        (word64 charges).claims id + ((kind charges).claims .startup +
          (startupV1 charges).claims (firmware, offset, cpu, os)) +
            (string charges).claims motherboard
      simp only [Nat.add_assoc]
  | _ => rfl

/-- The reader of the old format takes the current one for it. -/
theorem old_reads_current (payload : TelemetryPayload) (allowance : Nat)
    (short : ((telemetryPayload charges).encode payload).length < 2 ^ 64) :
    ((telemetryPayloadV1 charges).read allowance
        ((telemetryPayload charges).encode payload)).map Prod.fst =
      if (telemetryPayloadV1 charges).claims (withoutMotherboard payload) ≤ allowance then
        some (withoutMotherboard payload)
      else none := by
  rw [encode_current] at short ⊢
  rw [List.length_append] at short
  rw [(telemetryPayloadV1 charges).read_encode _ _ _ (by omega)]
  split <;> rfl

theorem string_encode (text : String) :
    (string charges).encode text =
      (word64 charges).encode (UInt64.ofNat text.utf8ByteSize) ++ text.toByteArray.data.toList := rfl

theorem string_consumes : (string charges).Consumes :=
  text_consumes (fixed_consumes rfl _)

/-- The reader of the current format does not find the motherboard in the old one. -/
theorem current_refuses_old {id : UInt64} {firmware cpu os : String} {offset : UInt16}
    (short : ((telemetryPayloadV1 charges).encode
      ⟨id, .startup firmware offset cpu os⟩).length < 2 ^ 64) (allowance : Nat) :
    (telemetryPayload charges).read allowance
      ((telemetryPayloadV1 charges).encode ⟨id, .startup firmware offset cpu os⟩) = none := by
  let head : StartupV1 := (firmware, offset, cpu, os)
  have layout : (telemetryPayloadV1 charges).encode ⟨id, .startup firmware offset cpu os⟩ =
      (word64 charges).encode id ++ ((kind charges).encode .startup ++
        ((startupV1 charges).encode head ++ [])) := by
    rw [List.append_nil]
    rfl
  rw [layout] at short ⊢
  simp only [List.length_append] at short
  have idShort : ((word64 charges).encode id).length < 2 ^ 64 := by omega
  have kindShort : ((kind charges).encode .startup).length < 2 ^ 64 := by omega
  have ends : ∀ left, (startup charges).read left ((startupV1 charges).encode head ++ []) = none :=
    pair_fails (by omega) string_consumes
  have fields : ∀ left, ((kind charges).sigma
      (dataFields charges (startup charges))).read left
        ((kind charges).encode .startup ++ ((startupV1 charges).encode head ++ [])) = none :=
    sigma_fails kindShort ends
  rw [telemetryPayload, imap]
  exact retract_fails (pair_fails idShort fields allowance)

theorem string_whole : (string charges).Whole := text_whole (fixed_whole _ _)

theorem dataFields_whole {Startup : Type} {startup : Metered Startup} (whole : startup.Whole)
    (kind : Kind) : (dataFields charges startup kind).Whole := by
  have word : (word32 charges).Whole := fixed_whole _ _
  cases kind with
  | startup => exact whole
  | status =>
      exact pair_whole (retract_whole word) (pair_whole (pair_whole word word) (pair_whole word word))
  | panic => exact string_whole

theorem payload_whole {Startup : Type} {startup : Metered Startup} (whole : startup.Whole) :
    (payload charges startup).Whole :=
  pair_whole (fixed_whole _ _) (sigma_whole (retract_whole (fixed_whole _ _)) (dataFields_whole whole))

theorem startupV1_whole : (startupV1 charges).Whole :=
  pair_whole string_whole (pair_whole (fixed_whole _ _) (pair_whole string_whole string_whole))

theorem telemetryPayload_whole : (telemetryPayload charges).Whole := by
  rw [telemetryPayload]
  exact imap_whole (payload_whole (pair_whole startupV1_whole string_whole))

theorem telemetryPayloadV1_whole : (telemetryPayloadV1 charges).Whole := by
  rw [telemetryPayloadV1]
  exact imap_whole (payload_whole startupV1_whole)

example : (telemetryPayload .bincode).encode ⟨300, .panic "no"⟩ =
    [251, 44, 1, 2, 2, 110, 111] := by decide

end Lecoo.Ipc.TelemetryFormat
