import Lecoo.Ec.Hw

namespace Lecoo.Daemon.Telemetry

open Lecoo.Effects Lecoo.Ipc Lecoo.Ec

/-! # Telemetry switch and worker -/

def enable : Io Unit := Fallible.always (Io.perform (.storeTelemetryEnabled true))

def disable : Io Unit := Fallible.always (Io.perform (.storeTelemetryEnabled false))

def isEnabled : Io Bool := Fallible.always (Io.perform .loadTelemetryEnabled)

/-- The worker thread exists from the end of `init` on. -/
def init (startEnabled : Bool) (clientId : UInt64) : Io Unit := do
  Fallible.always (Io.perform (.storeTelemetryEnabled startEnabled))
  Fallible.always (Io.perform .openTelemetryChannel)
  Fallible.always (Io.perform (.storeTelemetryId clientId))
  Fallible.always (Io.perform .startTelemetryWorker)

def send (data : TelemetryData) : Io Unit := do
  if ← isEnabled then
    Fallible.always (Io.perform (.queueTelemetry data))

/-- The identity is read first; the outcome of the request is only logged. -/
def sendToServer (data : TelemetryData) : Io Unit := do
  let id : UInt64 ← Fallible.always (Io.perform .loadTelemetryId)
  let _ ← Fallible.always (Io.perform (.postTelemetry { id, data }))

def ecPublished : Io Bool := Fallible.always (Io.perform .ecPublished)

/-- One round of the worker loop. -/
def workerRound (ec : EcDevice) : Io Unit := do
  let received : Option TelemetryData ← Fallible.always (Io.perform .receiveTelemetry)
  match received with
  | some message =>
      if ← isEnabled then
        sendToServer message
  | none =>
      if ← isEnabled then
        if ← ecPublished then
          let some profile ← Io.ok? (readPowerProfile ec) | return
          let some (cpuTemp, sysTemp) ← Io.ok? (readTemperatures ec) | return
          let some (cpuRpm, gpuRpm) ← Io.ok? (readFansRpm ec) | return
          sendToServer (.status profile (cpuTemp.toUInt32, sysTemp.toUInt32)
            (cpuRpm.toUInt32, gpuRpm.toUInt32))

end Lecoo.Daemon.Telemetry
