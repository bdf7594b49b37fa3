import Lecoo.Effects.Machine
import Lecoo.Gui.Poller

namespace Lecoo.Gui

open Lecoo.Effects Lecoo.Ipc

/-! # What the poller tells the webview

Every status and every sample is stored and then emitted.  What somebody knows who hears
all the events is compared with what is stored.
-/

/-- Where the stream of events stands. -/
inductive Stage where
  | silent
  | connecting
  | connected
  | failed
deriving Repr, DecidableEq

/-- An attempt to connect is announced before its outcome, samples come while connected,
and after a failure or a loss there is another attempt. -/
def stream : Machine Stage FrontendEvent
  | .silent, .connectionStatus .connecting => some .connecting
  | .connecting, .connectionStatus (.connected _) => some .connected
  | .connecting, .connectionStatus (.error message) =>
      if message = "daemon not reachable" then some .failed else none
  | .connected, .telemetry _ => some .connected
  | .connected, .connectionStatus .connecting => some .connecting
  | .failed, .connectionStatus .connecting => some .connecting
  | _, _ => none

def heardStatus : ConnectionStatus → FrontendEvent → ConnectionStatus
  | _, .connectionStatus status => status
  | status, .telemetry _ => status

def heardTelemetry : Option Telemetry → FrontendEvent → Option Telemetry
  | sample, .connectionStatus _ => sample
  | _, .telemetry sample => some sample

/-- The stage after all that was stored, and what of it is not emitted yet. -/
structure Broadcast where
  stage : Stage := .silent
  owed : Option FrontendEvent := none

def Broadcast.owing (now : Broadcast) (event : FrontendEvent) : Broadcast where
  stage := (stream now.stage event).getD now.stage
  owed := some event

/-- What is stored may come next in the stream, and nothing happens before it is emitted. -/
def broadcast : Monitor pollerOps Broadcast where
  permits
    | now, .storeStatus status => now.owed = none ∧
        (stream now.stage (.connectionStatus status)).isSome
    | now, .storeTelemetry sample => now.owed = none ∧ (stream now.stage (.telemetry sample)).isSome
    | now, .emit event => now.owed = some event
    | _, .storePaused _ | _, .storeInterval _ | _, .notifyOne => False
    | now, _ => now.owed = none
  next
    | now, .storeStatus status, _ => now.owing (.connectionStatus status)
    | now, .storeTelemetry sample, _ => now.owing (.telemetry sample)
    | now, .emit _, _ => { now with owed := none }
    | now, _, _ => now

/-- The operations of a sample that is fetched. -/
def PollerOp.Fetching : PollerOp → Prop
  | .request _ | .acConnected | .systemTimeMs => True
  | _ => False

section Heeding

variable {debug : IpcResponse → String} {now : Broadcast}

theorem setStatus_heeds {status : ConnectionStatus} (stage : Stage) (sent : now.owed = none)
    (follows : stream now.stage (.connectionStatus status) = some stage) :
    (Poller.setStatus status).Heeds broadcast (fun last _ => last = ⟨stage, none⟩) now := by
  refine ⟨⟨sent, Option.isSome_of_eq_some follows⟩, fun _ => ⟨rfl, fun _ => ?_⟩⟩
  change (⟨(stream now.stage (.connectionStatus status)).getD now.stage, none⟩ : Broadcast) = _
  rw [follows, Option.getD_some]

theorem sleepOrWake_heeds_broadcast {ms : Nat} (sent : now.owed = none) :
    (Poller.sleepOrWake ms).Heeds broadcast (fun last _ => last = now) now :=
  ⟨sent, fun _ => ⟨sent, fun _ => rfl⟩⟩

theorem fetchTelemetry_uses :
    Fallible.Uses PollerOp.Fetching (IpcClient.fetchTelemetry debug) := by
  refine ⟨trivial, fun temps => ?_⟩
  cases temps with
  | error _ => trivial
  | ok res =>
      cases res with
      | temp =>
          refine ⟨trivial, fun fans => ?_⟩
          cases fans with
          | error _ => trivial
          | ok res =>
              cases res with
              | fanRPM =>
                  refine ⟨trivial, fun battery => ?_⟩
                  cases battery with
                  | error _ => trivial
                  | ok _ => exact ⟨trivial, fun _ => ⟨trivial, fun _ => trivial⟩⟩
              | _ => trivial
      | _ => trivial

/-- Which stages a turn may begin in: an attempt to connect can be announced, or the poller
is connected. -/
def Poller.Turn.Suits : Poller.Turn → Stage → Prop
  | .connecting, stage => stream stage (.connectionStatus .connecting) = some .connecting
  | .polling, stage => stage = .connected

/-- A turn begins with everything emitted. -/
def Broadcast.At (place : Poller.Turn) (now : Broadcast) : Prop :=
  now.owed = none ∧ place.Suits now.stage

theorem turn_heeds_broadcast {place : Poller.Turn} (begins : now.At place) :
    (Poller.turn debug place).Heeds broadcast (fun last next => last.At next) now := by
  obtain ⟨sent, suits⟩ := begins
  have sleeps : ∀ {now : Broadcast} {ms : Nat} (place : Poller.Turn), now.At place →
      (Poller.sleepOrWake ms >>= fun _ => pure place : GuiTask Poller.Turn).Heeds broadcast
        (fun last next => last.At next) now := by
    intro now ms place begins
    refine (sleepOrWake_heeds_broadcast begins.1).bind ?_
    rintro last value rfl
    exact begins
  cases place with
  | connecting =>
      refine (setStatus_heeds .connecting sent suits).bind ?_
      rintro middle value rfl
      refine ⟨rfl, fun connected => ?_⟩
      cases connected with
      | ok daemonVersion =>
          refine (setStatus_heeds .connected rfl rfl).bind ?_
          rintro last value rfl
          exact ⟨rfl, rfl⟩
      | error _ =>
          refine ⟨rfl, fun _ => ?_⟩
          refine (setStatus_heeds .failed rfl rfl).bind ?_
          rintro last value rfl
          exact sleeps .connecting ⟨rfl, rfl⟩
  | polling =>
      obtain ⟨stage, owed⟩ := now
      cases sent
      cases suits
      refine ⟨rfl, fun paused => ?_⟩
      cases paused with
      | true => exact sleeps .polling ⟨rfl, rfl⟩
      | false =>
          have fetched : (IpcClient.fetchTelemetry debug).run.Heeds broadcast
              (fun last _ => last = ⟨.connected, none⟩) ⟨.connected, none⟩ := by
            refine Program.Uses.heeds fetchTelemetry_uses ?_ ?_
            · intro operation fetching
              cases operation <;> first | rfl | cases fetching
            · intro operation reply fetching
              cases operation <;> first | rfl | cases fetching
          refine fetched.bind ?_
          rintro last outcome rfl
          cases outcome with
          | ok sample =>
              refine ⟨⟨rfl, rfl⟩, fun _ => ⟨rfl, fun _ => ⟨rfl, fun _ => ⟨rfl, fun ms => ?_⟩⟩⟩⟩
              exact sleeps .polling ⟨rfl, rfl⟩
          | error message => exact ⟨rfl, fun _ => ⟨rfl, rfl⟩⟩

theorem run_heeds_broadcast (turns : Nat) {place : Poller.Turn} (begins : now.At place) :
    (Poller.run debug turns place).Heeds broadcast (fun _ _ => True) now := by
  induction turns generalizing place now with
  | zero => trivial
  | succ turns ih => exact (turn_heeds_broadcast begins).bind fun _ _ begins => ih begins

end Heeding

/-- What is stored is what somebody knows who has heard everything up to what is owed. -/
structure InStream (backend : Backend) (now : Broadcast) : Prop where
  ran : Machine.Run stream .silent (backend.emitted ++ now.owed.toList) now.stage
  status : backend.connection =
    (backend.emitted ++ now.owed.toList).foldl heardStatus .disconnected
  telemetry : backend.lastTelemetry =
    (backend.emitted ++ now.owed.toList).foldl heardTelemetry none

theorem InStream.owing {backend after : Backend} {now : Broadcast} {event : FrontendEvent}
    (inStream : InStream backend now) (sent : now.owed = none)
    (follows : (stream now.stage event).isSome) (emitted : after.emitted = backend.emitted)
    (status : after.connection = heardStatus backend.connection event)
    (telemetry : after.lastTelemetry = heardTelemetry backend.lastTelemetry event) :
    InStream after (now.owing event) := by
  obtain ⟨stage, follows⟩ := Option.isSome_iff_exists.mp follows
  obtain ⟨ran, stored, sampled⟩ := inStream
  simp only [sent, Option.toList_none, List.append_nil] at ran stored sampled
  have stays : (now.owing event).stage = stage := by
    simp only [Broadcast.owing, follows, Option.getD_some]
  refine ⟨?_, ?_, ?_⟩
  · rw [stays, emitted]
    exact ran.append (.cons trivial follows .nil)
  · rw [emitted, status, stored, List.foldl_append]
    rfl
  · rw [emitted, telemetry, sampled, List.foldl_append]
    rfl

theorem InStream.own {backend : Backend} {now : Broadcast} (inStream : InStream backend now)
    {operation : PollerOp} (circumstance : Circumstance)
    (permits : broadcast.permits now operation) :
    InStream (answer operation circumstance backend).2
      (broadcast.next now operation (answer operation circumstance backend).1) := by
  cases operation with
  | storeStatus status => exact inStream.owing permits.1 permits.2 rfl rfl rfl
  | storeTelemetry sample => exact inStream.owing permits.1 permits.2 rfl rfl rfl
  | emit event =>
      obtain ⟨ran, stored, sampled⟩ := inStream
      have owed : now.owed = some event := permits
      simp only [owed, Option.toList_some] at ran stored sampled
      refine ⟨?_, ?_, ?_⟩ <;> simpa only [answer, broadcast, Option.toList_none, List.append_nil]
  | select deadline =>
      simp only [answer]
      split <;> exact ⟨inStream.ran, inStream.status, inStream.telemetry⟩
  | storePaused | storeInterval | notifyOne => cases permits
  | _ => exact ⟨inStream.ran, inStream.status, inStream.telemetry⟩

theorem InStream.other {backend : Backend} {now : Broadcast} (inStream : InStream backend now)
    {operation : PollerOp} (circumstance : Circumstance) (control : operation.Control) :
    InStream (answer operation circumstance backend).2 now := by
  cases operation with
  | storePaused | storeInterval | notifyOne =>
      exact ⟨inStream.ran, inStream.status, inStream.telemetry⟩
  | _ => cases control

/-- The events heard so far and at most one that is owed are a stream as it should be, what
is stored is what they say, and the poller does nothing before it has emitted what it owes. -/
structure Heard (pool : GuiPool Broadcast) (owed : Option FrontendEvent) : Prop where
  inStream : ∃ stage, InStream pool.world.1 ⟨stage, owed⟩
  next : ∀ event ∈ owed, ∀ activity operation rest, pool.thread .poller = some activity →
    activity.todo = .perform operation rest → operation = .emit event

variable {debug : IpcResponse → String} {allowed : GuiPool Broadcast → GuiEvent → Prop}
  {turns : Nat} {after : GuiPool Broadcast} {events : List GuiEvent}

/-- Nothing that is stored is kept from the webview, and it hears of nothing else. -/
theorem poller_broadcasts
    (ran : GuiRun broadcast debug allowed (launched debug turns {}) events after) :
    ∃ owed, Heard after owed := by
  have initially : Watched broadcast .poller PollerOp.Control InStream (launched debug turns {}) :=
    watched_launched ⟨.nil, rfl, rfl⟩ (run_heeds_broadcast turns ⟨rfl, rfl⟩)
  have heard := watched_run (fun inStream _ => ⟨inStream.ran, inStream.status, inStream.telemetry⟩)
    (fun _ _ inStream permits => inStream.own _ permits)
    (fun inStream circumstance control => inStream.other circumstance control) ran initially
  refine ⟨after.world.2.owed, ⟨_, heard.holds⟩, ?_⟩
  intro event owed activity operation rest running next
  have permits := heard.heeds activity running
  rw [next] at permits
  have permits := permits.1
  cases operation with
  | emit other =>
      have same := permits.symm.trans owed
      cases same
      rfl
  | storePaused | storeInterval | notifyOne => cases permits
  | storeStatus | storeTelemetry => cases permits.1.symm.trans owed
  | _ => cases permits.symm.trans owed

/-- The daemon is found at the second attempt, and the poller is about to say so. -/
theorem poller_broadcasts_connected : ∃ reached,
    replayed broadcast 5 {} (Pool.turns .poller 8 ++
      List.replicate 4 (.act .poller { connects := .ok (0, 4) })) = some reached ∧
    reached.world.1.emitted = [.connectionStatus .connecting,
      .connectionStatus (.error "daemon not reachable"), .connectionStatus .connecting] ∧
    reached.world.1.connection = .connected (0, 4) ∧ ∃ owed, Heard reached owed := by
  have seen : ((replayed broadcast 5 {} (Pool.turns .poller 8 ++
      List.replicate 4 (.act .poller { connects := .ok (0, 4) }))).map fun pool =>
        (pool.world.1.emitted, pool.world.1.connection)) =
      some ([.connectionStatus .connecting, .connectionStatus (.error "daemon not reachable"),
        .connectionStatus .connecting], .connected (0, 4)) := by decide +kernel
  obtain ⟨reached, ran, seen⟩ := Option.map_eq_some_iff.mp seen
  obtain ⟨emitted, connection⟩ := Prod.mk.inj seen
  exact ⟨reached, ran, emitted, connection,
    poller_broadcasts (Pool.run_of_replay commandedNow_sound ran)⟩

end Lecoo.Gui
