import Lecoo.Data.Json
import Lecoo.Ipc.Handshake

namespace Lecoo.Gui

open Lecoo.Data Lecoo.Ipc

/-! # The connection status, from the poller to the screen -/

inductive ConnectionStatus where
  | disconnected
  | connecting
  | connected (daemonVersion : UInt8 × UInt8)
  | error (message : String)
deriving Repr, DecidableEq

/-- `#[serde(tag = "kind", rename_all = "camelCase")]` -/
def connectionStatusEnum : TaggedEnum where
  tag := "kind"
  renameAll := .camelCase
  renameAllFields := .none

def pairToJson (pair : UInt8 × UInt8) : Json :=
  .array [.number pair.1.toNat, .number pair.2.toNat]

def ConnectionStatus.toJson : ConnectionStatus → Json
  | .disconnected => connectionStatusEnum.write "Disconnected" []
  | .connecting => connectionStatusEnum.write "Connecting" []
  | .connected daemonVersion =>
      connectionStatusEnum.write "Connected" [("daemon_version", pairToJson daemonVersion)]
  | .error message => connectionStatusEnum.write "Error" [("message", .string message)]

/-- The union the pages declare for a status. -/
inductive StatusView where
  | disconnected
  | connecting
  | connected (daemonVersion : Int × Int)
  | error (message : String)
deriving Repr, DecidableEq

/-- The member of the union an object is, when its properties are what the union
says they are. -/
def StatusView.ofJson (status : Json) : Option StatusView :=
  match status.property "kind" with
  | some (.string "disconnected") => some .disconnected
  | some (.string "connecting") => some .connecting
  | some (.string "connected") =>
      match status.property "daemonVersion" with
      | some (.array [.number major, .number minor]) => some (.connected (major, minor))
      | _ => none
  | some (.string "error") =>
      match status.property "message" with
      | some (.string message) => some (.error message)
      | _ => none
  | _ => none

/-- The member of the union that says the same as a status. -/
def ConnectionStatus.view : ConnectionStatus → StatusView
  | .disconnected => .disconnected
  | .connecting => .connecting
  | .connected daemonVersion => .connected (daemonVersion.1.toNat, daemonVersion.2.toNat)
  | .error message => .error message

/-- The version on the settings page. -/
def formatDaemonVersion (status : Json) : String :=
  match status.property "kind" with
  | some (.string "connected") =>
      match status.property "daemonVersion" with
      | some (.array (major :: minor :: _)) => major.text ++ "." ++ minor.text
      | _ => "—"
  | _ => "—"

/-- The status arrives as the one that was sent, and a connected daemon's version is shown. -/
def Survives (status : ConnectionStatus) : Prop :=
  StatusView.ofJson status.toJson = some status.view ∧
    ∀ major minor : UInt8, status = .connected (major, minor) →
      formatDaemonVersion status.toJson = toString major ++ "." ++ toString minor

/-- The version is written under a name nobody reads. -/
theorem connected_misnamed (daemonVersion : UInt8 × UInt8) :
    StatusView.ofJson (ConnectionStatus.connected daemonVersion).toJson = none ∧
      formatDaemonVersion (ConnectionStatus.connected daemonVersion).toJson = "—" :=
  ⟨rfl, rfl⟩

/-- Everything but the version crosses the boundary. -/
theorem ofJson_toJson {status : ConnectionStatus}
    (unversioned : ∀ daemonVersion, status ≠ .connected daemonVersion) :
    StatusView.ofJson status.toJson = some status.view := by
  cases status with
  | disconnected => rfl
  | connecting => rfl
  | connected daemonVersion => exact absurd rfl (unversioned daemonVersion)
  | error message => rfl

theorem survives_iff (status : ConnectionStatus) :
    Survives status ↔ ∀ daemonVersion, status ≠ .connected daemonVersion := by
  constructor
  · intro ⟨arrives, _⟩ daemonVersion connected
    rw [connected, (connected_misnamed daemonVersion).1] at arrives
    cases arrives
  · intro unversioned
    refine ⟨ofJson_toJson unversioned, ?_⟩
    intro major minor connected
    exact absurd connected (unversioned (major, minor))

/-- The version of a daemon of the GUI's own protocol is not shown. -/
theorem connected_does_not_survive :
    ¬ Survives (.connected (0, 4)) ∧
      formatDaemonVersion (ConnectionStatus.connected (0, 4)).toJson = "—" ∧
      (StatusView.ofJson (ConnectionStatus.connected (0, 4)).toJson).isNone := by
  refine ⟨?_, rfl, rfl⟩
  intro ⟨arrives, _⟩
  cases arrives

end Lecoo.Gui
