import Lecoo.Cli.Main
import Lecoo.Daemon.EndToEnd

namespace Lecoo.Cli

open Lecoo.Effects Lecoo.Ipc Lecoo.Ec Lecoo.Daemon

/-! # The tool at the daemon

The tool runs as a client of the daemon.  What it prints and how it exits tells
what has become of the settings.
-/

/-- What a command asks for by the time it exits. -/
def Commands.requests : Commands → List IpcRequest
  | .info => [.getSystemState]
  | .temps => [.getTemperatures]
  | .fans => [.getFansRPM]
  | .monitoring _ => []
  | .power none => [.getPowerProfile]
  | .power (some p) => [.setPowerProfile p.profile]
  | .fan .cpu mode val => [.setFanMode .cpu (mode.fanMode val)]
  | .fan .gpu mode val => [.setFanMode .gpu (mode.fanMode val)]
  | .fan .both mode val =>
      [.setFanMode .cpu (mode.fanMode val), .setFanMode .gpu (mode.fanMode val)]
  | .charge (some limit) => [.setChargeLimit limit.limit]
  | .charge none => [.getChargeLimit]
  | .kbd (some m) val => [.setKeyboardBacklight (m.level val)]
  | .kbd none _ => [.getKeyboardBacklight]
  | .led action => [.setLedMode action.mode]
  | .daemon (.telemetry action) => [.daemonCommand action.command]
  | .daemon (.settings action) => [.daemonCommand action.command]
  | .daemon .version => []

variable {run : List Reply → Run} {replies : List Reply} {hramOffset : UInt16}
  {exchanges : List (IpcRequest × IpcResponse)}

/-- What was received in the exchanges. -/
def answers (exchanges : List (IpcRequest × IpcResponse)) : List Reply :=
  exchanges.map fun exchange => .ok exchange.2

variable {first last : Store}

theorem amounts_readings {first last : CurrentSettings} {requests : List IpcRequest}
    (readings : ∀ request ∈ requests, request = .getTemperatures ∨ request = .getFansRPM)
    (amounts : Amounts first requests last) : last = first := by
  induction requests generalizing first with
  | nil => exact amounts
  | cons request requests ih =>
      obtain ⟨clock, amounts⟩ := amounts
      obtain ⟨reading, readings⟩ := List.forall_mem_cons.mp readings
      have kept : effect clock first request = first := by rcases reading with rfl | rfl <;> rfl
      rw [kept] at amounts
      exact ih readings amounts

/-- Wherever a command is, it has asked for its first requests. -/
def AsksFirst (cli : Commands) (requests : List IpcRequest) : Prop :=
  requests <+: cli.requests ∨
    cli.requests = [] ∧ ∀ request ∈ requests, request = .getTemperatures ∨ request = .getFansRPM

theorem AsksFirst.amounts {cli : Commands} {requests : List IpcRequest}
    {first last : CurrentSettings} (asks : AsksFirst cli requests)
    (amounts : Amounts first requests last) :
    ∃ made, made <+: cli.requests ∧ Amounts first made last := by
  rcases asks with within | ⟨none, readings⟩
  · exact ⟨requests, within, amounts⟩
  · exact ⟨[], List.nil_prefix, amounts_readings readings amounts⟩

end Lecoo.Cli
