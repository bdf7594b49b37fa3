import Lecoo.Ipc.TelemetryFormat

namespace Lecoo.Server

open Lecoo.Ipc Lecoo.Ipc.TelemetryFormat

/-! # What a payload becomes in the database -/

/-- An upper-case hexadecimal digit. -/
def hexDigit (value : Nat) : Char :=
  if value < 10 then Char.ofNat (48 + value) else Char.ofNat (55 + value)

/-- `{:0countX}` of a number that has no more digits than that. -/
def hexUpper : (count : Nat) → Nat → List Char
  | 0, _ => []
  | count + 1, value => hexUpper count (value / 16) ++ [hexDigit (value % 16)]

def clientUuid (id : UInt64) : String := "0x" ++ String.ofList (hexUpper 16 id.toNat)

def hexOffset (offset : UInt16) : String := "0x" ++ String.ofList (hexUpper 4 offset.toNat)

/-- `{:?}` of the profile. -/
def profileName : PowerProfile → String
  | .silent => "Silent"
  | .default => "Default"
  | .performance => "Performance"

/-- One constructor for each of the three tables of parsed events. -/
inductive ParsedEvent where
  | startup (firmware offset cpu os : String) (motherboard : Option String)
  | status (profile : String) (temp1 temp2 fan1 fan2 : UInt32)
  | panic (errorMsg : String)
deriving Repr, DecidableEq

structure Parsed where
  clientUuid : String
  event : ParsedEvent
deriving Repr, DecidableEq

def parsed (payload : TelemetryPayload) : Parsed where
  clientUuid := clientUuid payload.id
  event :=
    match payload.data with
    | .startup firmware offset cpu os motherboard =>
        .startup firmware (hexOffset offset) cpu os (some motherboard)
    | .status profile temps fans => .status (profileName profile) temps.1 temps.2 fans.1 fans.2
    | .panic error => .panic error

def parsedV1 (payload : TelemetryPayloadV1) : Parsed where
  clientUuid := clientUuid payload.id
  event :=
    match payload.data with
    | .startup firmware offset cpu os => .startup firmware (hexOffset offset) cpu os none
    | .status profile temps fans => .status (profileName profile) temps.1 temps.2 fans.1 fans.2
    | .panic error => .panic error

end Lecoo.Server
