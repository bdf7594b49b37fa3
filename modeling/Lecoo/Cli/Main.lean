import Lecoo.Ipc.Framing

namespace Lecoo.Cli

open Lecoo.Ipc

/-! # The command line tool -/

inductive CliPowerProfile where
  | silent
  | default
  | perf
deriving Repr, DecidableEq

inductive CliFanIndex where
  | cpu
  | gpu
  | both
deriving Repr, DecidableEq

inductive CliFanMode where
  | auto
  | full
  | custom
deriving Repr, DecidableEq

inductive CliKbdMode where
  | off
  | low
  | medium
  | high
  | custom
deriving Repr, DecidableEq

inductive CliLedAction where
  | auto
  | custom (val : UInt8)
deriving Repr, DecidableEq

inductive CliTelemetryAction where
  | enable
  | disable
  | id
deriving Repr, DecidableEq

inductive CliSettingsAction where
  | reset
  | read
  | apply
deriving Repr, DecidableEq

inductive CliDaemonAction where
  | telemetry (telemetryAction : CliTelemetryAction)
  | settings (settingsAction : CliSettingsAction)
  | version
deriving Repr, DecidableEq

inductive CliChargeLimit where
  | full
  | high
  | balanced
  | lifespan
  | desk
deriving Repr, DecidableEq

/-- The commands; the rate of the monitoring is given in milliseconds, as it is used. -/
inductive Commands where
  | info
  | temps
  | fans
  | monitoring (updateRate : UInt64)
  | fan (target : CliFanIndex) (mode : CliFanMode) (val : Option UInt8)
  | charge (limit : Option CliChargeLimit)
  | power (profile : Option CliPowerProfile)
  | kbd (mode : Option CliKbdMode) (val : Option UInt8)
  | led (action : CliLedAction)
  | daemon (action : CliDaemonAction)
deriving Repr, DecidableEq

def CliPowerProfile.profile : CliPowerProfile → PowerProfile
  | .silent => .silent
  | .default => .default
  | .perf => .performance

def CliFanMode.fanMode (val : Option UInt8) : CliFanMode → FanMode
  | .auto => .auto
  | .full => .full
  | .custom => .custom (val.getD 0)

def CliChargeLimit.limit : CliChargeLimit → ChargeLimit
  | .full => .fullCapacity
  | .high => .highCapacity
  | .balanced => .balanced
  | .lifespan => .maximumLifespan
  | .desk => .deskMode

def CliKbdMode.level (val : Option UInt8) : CliKbdMode → KeyboardBacklightLevel
  | .off => .off
  | .low => .low
  | .medium => .medium
  | .high => .high
  | .custom => .custom (val.getD 255)

def CliLedAction.mode : CliLedAction → PowerLedMode
  | .auto => .auto
  | .custom val => .custom val

def CliTelemetryAction.command : CliTelemetryAction → DaemonCommand
  | .enable => .activateTelemetry true
  | .disable => .activateTelemetry false
  | .id => .getTelemetryId

def CliSettingsAction.command : CliSettingsAction → DaemonCommand
  | .reset => .restoreDefaults
  | .read => .getSettings
  | .apply => .applySettings

/-- What comes back for a request: a response, or the failure of the connection. -/
abbrev Reply := Except IoError IpcResponse

/-- What the tool prints, which never fails: on standard error the error of the daemon and
the failure `main` returns, on standard output the rest. -/
inductive Output where
  | monitoringStart (updateRate : UInt64)
  | readings (cpu system : UInt8) (cpuFan gpuFan : UInt16)
  | version (major minor : UInt8)
  | response (res : IpcResponse)
  | error (msg : String)
  | failure (error : IoError)
deriving Repr, DecidableEq

/-- How far the tool gets: it waits for the reply to a request, it has exited with a
status, or it has panicked. -/
inductive Ending where
  | waiting (request : IpcRequest)
  | exited (status : Nat)
  | panicked
deriving Repr, DecidableEq

structure Run where
  received : List Reply
  printed : List Output
  ending : Ending
deriving Repr, DecidableEq

namespace Run

def wait (request : IpcRequest) : Run :=
  { received := [], printed := [], ending := .waiting request }

def exit (status : Nat) (printed : List Output) : Run :=
  { received := [], printed, ending := .exited status }

/-- `unreachable!()` -/
def panic : Run := { received := [], printed := [], ending := .panicked }

/-- `main` returns an error. -/
def fail (error : IoError) : Run := exit 1 [.failure error]

/-- A run, after a reply that is received before it. -/
def receiving (reply : Reply) (run : Run) : Run :=
  { run with received := reply :: run.received }

def printing (output : Output) (run : Run) : Run :=
  { run with printed := output :: run.printed }

end Run

/-- The monitoring loop, for the replies that come in. -/
def monitoring : List Reply → Run
  | [] => .wait .getTemperatures
  | .error error :: _ => (Run.fail error).receiving (.error error)
  | .ok temps :: replies =>
      Run.receiving (.ok temps) <|
        match temps with
        | .temp cpu system =>
            match replies with
            | [] => .wait .getFansRPM
            | .error error :: _ => (Run.fail error).receiving (.error error)
            | .ok fans :: replies =>
                Run.receiving (.ok fans) <|
                  match fans with
                  | .fanRPM cpuFan gpuFan =>
                      (monitoring replies).printing (.readings cpu system cpuFan gpuFan)
                  | _ => .panic
        | _ => .panic

/-- The last request, and what is made of the response to it. -/
def lastRequest (request : IpcRequest) : List Reply → Run
  | [] => .wait request
  | .error error :: _ => (Run.fail error).receiving (.error error)
  | .ok res :: _ =>
      Run.receiving (.ok res) <|
        match res with
        | .error msg => .exit 1 [.error msg]
        | res => .exit 0 [.response res]

/-- `client.request(..)?` with a response that is not looked at. -/
def discarding (request : IpcRequest) (next : List Reply → Run) : List Reply → Run
  | [] => .wait request
  | .error error :: _ => (Run.fail error).receiving (.error error)
  | .ok response :: replies => (next replies).receiving (.ok response)

/-- The tool with a connection to a daemon of the given version. -/
def command (daemonVersion : UInt8 × UInt8) : Commands → List Reply → Run
  | .info => lastRequest .getSystemState
  | .temps => lastRequest .getTemperatures
  | .fans => lastRequest .getFansRPM
  | .monitoring updateRate => fun replies =>
      (monitoring replies).printing (.monitoringStart updateRate)
  | .power none => lastRequest .getPowerProfile
  | .power (some p) => lastRequest (.setPowerProfile p.profile)
  | .fan .cpu mode val => lastRequest (.setFanMode .cpu (mode.fanMode val))
  | .fan .gpu mode val => lastRequest (.setFanMode .gpu (mode.fanMode val))
  | .fan .both mode val =>
      discarding (.setFanMode .cpu (mode.fanMode val))
        (lastRequest (.setFanMode .gpu (mode.fanMode val)))
  | .charge (some limit) => lastRequest (.setChargeLimit limit.limit)
  | .charge none => lastRequest .getChargeLimit
  | .kbd (some m) val => lastRequest (.setKeyboardBacklight (m.level val))
  | .kbd none _ => lastRequest .getKeyboardBacklight
  | .led action => lastRequest (.setLedMode action.mode)
  | .daemon (.telemetry action) => lastRequest (.daemonCommand action.command)
  | .daemon (.settings action) => lastRequest (.daemonCommand action.command)
  | .daemon .version => fun _ => .exit 0 [.version daemonVersion.1 daemonVersion.2]

def main (cli : Commands) (connected : Except IoError (UInt8 × UInt8)) (replies : List Reply) :
    Run :=
  match connected with
  | .error error => .fail error
  | .ok daemonVersion => command daemonVersion cli replies

def IsError (reply : Reply) : Prop := ∃ msg, reply = .ok (.error msg)

/-- The tool does not panic, exits with status 0 only when no response was an error, and
with the error and another status when one was. -/
structure Honest (run : Run) : Prop where
  calm : run.ending ≠ .panicked
  success : run.ending = .exited 0 → ∀ reply ∈ run.received, ¬ IsError reply
  failure : (∃ reply ∈ run.received, IsError reply) → (∀ request, run.ending ≠ .waiting request) →
    ∃ status msg, run.ending = .exited status ∧ status ≠ 0 ∧ .error msg ∈ run.printed ∧
      .ok (.error msg) ∈ run.received

/-- The replies are the readings that were asked for, as long as the connection lasts. -/
def Readings : List Reply → Prop
  | [] => True
  | .error _ :: _ => True
  | .ok (.temp _ _) :: [] => True
  | .ok (.temp _ _) :: .error _ :: _ => True
  | .ok (.temp _ _) :: .ok (.fanRPM _ _) :: replies => Readings replies
  | _ => False

/-- A first response that is an error is followed by another error, or by none yet. -/
def ErrorRepeats (replies : List Reply) : Prop :=
  ∀ first second, replies[0]? = some first → replies[1]? = some second →
    IsError first → IsError second

/-- The replies under which a command does as it should. -/
def Expects : Commands → List Reply → Prop
  | .monitoring _, replies => Readings replies
  | .fan .both _ _, replies => ErrorRepeats replies
  | _, _ => True

theorem not_isError_failure (error : IoError) : ¬ IsError (.error error) := by
  intro ⟨_, impossible⟩
  cases impossible

theorem not_isError_temp (cpu system : UInt8) : ¬ IsError (.ok (.temp cpu system)) := by
  intro ⟨_, impossible⟩
  cases impossible

theorem not_isError_fanRPM (cpu gpu : UInt16) : ¬ IsError (.ok (.fanRPM cpu gpu)) := by
  intro ⟨_, impossible⟩
  cases impossible

/-- A run that receives no error, and neither panics nor succeeds. -/
structure Uneventful (run : Run) : Prop where
  calm : run.ending ≠ .panicked
  unfinished : run.ending ≠ .exited 0
  clean : ∀ reply ∈ run.received, ¬ IsError reply

theorem Uneventful.honest {run : Run} (uneventful : Uneventful run) : Honest run where
  calm := uneventful.calm
  success := fun _ => uneventful.clean
  failure := fun ⟨reply, mem, isError⟩ => absurd isError (uneventful.clean reply mem)

theorem Uneventful.receiving {run : Run} (uneventful : Uneventful run) {reply : Reply}
    (fine : ¬ IsError reply) :
    Uneventful (run.receiving reply) where
  calm := uneventful.calm
  unfinished := uneventful.unfinished
  clean := List.forall_mem_cons.mpr ⟨fine, uneventful.clean⟩

theorem uneventful_wait (request : IpcRequest) : Uneventful (.wait request) where
  calm := by intro impossible; cases impossible
  unfinished := by intro impossible; cases impossible
  clean := by intro reply impossible; cases impossible

theorem uneventful_fail (error : IoError) :
    Uneventful ((Run.fail error).receiving (.error error)) where
  calm := by intro impossible; cases impossible
  unfinished := by intro impossible; cases impossible
  clean := List.forall_mem_cons.mpr ⟨not_isError_failure error, by simp [Run.fail, Run.exit]⟩

/-- The loop goes on as long as it gets its readings. -/
theorem monitoring_uneventful {replies : List Reply} (readings : Readings replies) :
    Uneventful (monitoring replies) := by
  fun_induction Readings replies with
  | case1 => exact uneventful_wait _
  | case2 error replies => exact uneventful_fail error
  | case3 cpu system => exact (uneventful_wait _).receiving (not_isError_temp cpu system)
  | case4 cpu system error replies =>
      exact (uneventful_fail error).receiving (not_isError_temp cpu system)
  | case5 cpu system cpuFan gpuFan replies later =>
      have rest := later readings
      have printed : Uneventful ((monitoring replies).printing (.readings cpu system cpuFan gpuFan)) :=
        ⟨rest.calm, rest.unfinished, rest.clean⟩
      exact (printed.receiving (not_isError_fanRPM cpuFan gpuFan)).receiving
        (not_isError_temp cpu system)
  | case6 => exact readings.elim

theorem monitoring_panics {replies : List Reply} (other : ¬ Readings replies) :
    (monitoring replies).ending = .panicked := by
  fun_induction Readings replies with
  | case1 => exact absurd trivial other
  | case2 error replies => exact absurd trivial other
  | case3 cpu system => exact absurd trivial other
  | case4 cpu system error replies => exact absurd trivial other
  | case5 cpu system cpuFan gpuFan replies later => exact later other
  | case6 replies notNil notError notTemp notTempError notReadings =>
      match replies with
      | [] => exact (notNil rfl).elim
      | .error error :: rest => exact (notError error rest rfl).elim
      | .ok temps :: rest =>
          cases temps with
          | temp cpu system =>
              match rest with
              | [] => exact (notTemp cpu system rfl).elim
              | .error error :: rest => exact (notTempError cpu system error rest rfl).elim
              | .ok fans :: rest =>
                  cases fans with
                  | fanRPM cpuFan gpuFan =>
                      exact (notReadings cpu system cpuFan gpuFan rest rfl).elim
                  | _ => rfl
          | _ => rfl

theorem monitoring_honest_iff (replies : List Reply) :
    Honest (monitoring replies) ↔ Readings replies := by
  constructor
  · intro honest
    by_contra other
    exact honest.calm (monitoring_panics other)
  · intro readings
    exact (monitoring_uneventful readings).honest

theorem Honest.receiving {run : Run} (honest : Honest run) {reply : Reply}
    (fine : ¬ IsError reply) :
    Honest (run.receiving reply) where
  calm := honest.calm
  success := fun exits => List.forall_mem_cons.mpr ⟨fine, honest.success exits⟩
  failure := by
    intro ⟨received, mem, isError⟩ answered
    rcases List.mem_cons.mp mem with same | mem
    · rw [same] at isError
      exact absurd isError fine
    · obtain ⟨status, msg, exits, nonzero, printed, told⟩ :=
        honest.failure ⟨received, mem, isError⟩ answered
      exact ⟨status, msg, exits, nonzero, printed, List.mem_cons_of_mem _ told⟩

theorem lastRequest_ok {res : IpcResponse} (fine : ¬ IsError (.ok res)) (request : IpcRequest)
    (replies : List Reply) :
    lastRequest request (.ok res :: replies) =
      (Run.exit 0 [.response res]).receiving (.ok res) := by
  cases res with
  | error msg => exact absurd ⟨msg, rfl⟩ fine
  | _ => rfl

theorem told_honest (msg : String) (earlier : List Reply) :
    Honest ⟨earlier ++ [.ok (.error msg)], [.error msg], .exited 1⟩ where
  calm := by intro impossible; cases impossible
  success := by intro impossible; cases impossible
  failure := fun _ _ => ⟨1, msg, rfl, by decide, by simp, by simp⟩

theorem succeeded_honest (printed : List Output) :
    Honest (.exit 0 printed) where
  calm := by intro impossible; cases impossible
  success := by intro _ reply impossible; cases impossible
  failure := by intro ⟨reply, impossible, _⟩; cases impossible

/-- What is printed on standard output takes nothing away. -/
theorem printing_honest_iff (output : Output) (run : Run) (other : ∀ msg, output ≠ .error msg) :
    Honest (run.printing output) ↔ Honest run := by
  constructor
  · intro honest
    refine ⟨honest.calm, honest.success, fun told answered => ?_⟩
    obtain ⟨status, msg, exits, nonzero, printed, received⟩ := honest.failure told answered
    rcases List.mem_cons.mp printed with same | printed
    · exact absurd same.symm (other msg)
    · exact ⟨status, msg, exits, nonzero, printed, received⟩
  · intro honest
    refine ⟨honest.calm, honest.success, fun told answered => ?_⟩
    obtain ⟨status, msg, exits, nonzero, printed, received⟩ := honest.failure told answered
    exact ⟨status, msg, exits, nonzero, List.mem_cons_of_mem _ printed, received⟩

/-- The response to the last request decides the exit status. -/
theorem lastRequest_honest (request : IpcRequest) (replies : List Reply) :
    Honest (lastRequest request replies) := by
  match replies with
  | [] => exact (uneventful_wait request).honest
  | .error error :: _ => exact (uneventful_fail error).honest
  | .ok res :: rest =>
      by_cases isError : IsError (.ok res)
      · obtain ⟨msg, same⟩ := isError
        cases same
        exact told_honest msg []
      · rw [lastRequest_ok isError]
        exact (succeeded_honest _).receiving isError

/-- A first response that was an error is covered by a second one. -/
theorem lastRequest_receiving_error {msg : String} (request : IpcRequest)
    (replies : List Reply) :
    Honest ((lastRequest request replies).receiving (.ok (.error msg))) ↔
      ∀ second, replies[0]? = some second → IsError second := by
  match replies with
  | [] =>
      refine iff_of_true ⟨?_, ?_, ?_⟩ ?_
      · intro impossible
        cases impossible
      · intro impossible
        cases impossible
      · intro _ answered
        exact absurd rfl (answered request)
      · intro second impossible
        cases impossible
  | .error error :: _ =>
      refine iff_of_false ?_ ?_
      · intro honest
        obtain ⟨_, _, _, _, printed, _⟩ := honest.failure
          ⟨_, List.mem_cons_self, msg, rfl⟩ (by intro request impossible; cases impossible)
        simp [lastRequest, Run.receiving, Run.fail, Run.exit] at printed
      · intro covered
        exact not_isError_failure error (covered _ rfl)
  | .ok res :: rest =>
      by_cases isError : IsError (.ok res)
      · refine iff_of_true ?_ ?_
        · obtain ⟨shown, same⟩ := isError
          cases same
          exact told_honest shown [.ok (.error msg)]
        · intro second same
          cases same
          exact isError
      · refine iff_of_false ?_ ?_
        · intro honest
          rw [lastRequest_ok isError] at honest
          exact honest.success rfl _ List.mem_cons_self ⟨msg, rfl⟩
        · intro covered
          exact isError (covered _ rfl)

/-- The first response of two is not looked at: it goes unreported unless the second is an
error as well. -/
theorem discarding_honest_iff (first second : IpcRequest) (replies : List Reply) :
    Honest (discarding first (lastRequest second) replies) ↔ ErrorRepeats replies := by
  match replies with
  | [] =>
      refine iff_of_true (uneventful_wait first).honest ?_
      intro _ _ impossible
      cases impossible
  | .error error :: _ =>
      refine iff_of_true (uneventful_fail error).honest ?_
      intro reply _ same _ isError
      cases same
      exact absurd isError (not_isError_failure error)
  | .ok response :: rest =>
      change Honest ((lastRequest second rest).receiving (.ok response)) ↔ _
      by_cases isError : IsError (.ok response)
      · obtain ⟨msg, same⟩ := isError
        cases same
        rw [lastRequest_receiving_error]
        constructor
        · intro covered _ next _ isNext _
          exact covered next isNext
        · intro repeats next isNext
          exact repeats _ next rfl isNext ⟨msg, rfl⟩
      · refine iff_of_true ((lastRequest_honest second rest).receiving isError) ?_
        intro reply _ same _ isError'
        cases same
        exact absurd isError' isError

/-- The tool does as it should exactly under the replies its command expects. -/
theorem main_honest_iff (cli : Commands) (connected : Except IoError (UInt8 × UInt8))
    (replies : List Reply) :
    Honest (main cli connected replies) ↔
      ∀ daemonVersion, connected = .ok daemonVersion → Expects cli replies := by
  cases connected with
  | error error =>
      refine iff_of_true ⟨?_, ?_, ?_⟩ ?_
      · intro impossible
        cases impossible
      · intro impossible
        cases impossible
      · intro ⟨reply, impossible, _⟩
        cases impossible
      · intro _ impossible
        cases impossible
  | ok daemonVersion =>
      have exactly : Honest (command daemonVersion cli replies) ↔ Expects cli replies := by
        have always : ∀ request, Honest (lastRequest request replies) ↔ True :=
          fun request => iff_true_intro (lastRequest_honest request replies)
        cases cli with
        | monitoring updateRate =>
            have silent : ∀ msg, Output.monitoringStart updateRate ≠ .error msg := by
              intro msg impossible
              cases impossible
            exact (printing_honest_iff _ _ silent).trans (monitoring_honest_iff replies)
        | fan target mode val =>
            cases target with
            | cpu => exact always _
            | gpu => exact always _
            | both => exact discarding_honest_iff _ _ replies
        | charge limit => cases limit <;> exact always _
        | power profile => cases profile <;> exact always _
        | kbd mode val => cases mode <;> exact always _
        | daemon action =>
            cases action with
            | telemetry action => exact always _
            | settings action => exact always _
            | version => exact iff_true_intro (succeeded_honest _)
        | info => exact always _
        | temps => exact always _
        | fans => exact always _
        | led action => exact always _
      refine exactly.trans ⟨fun expects _ _ => expects, fun expects => expects daemonVersion rfl⟩

/-- `fan both auto` against a daemon whose controller is busy at first: the tool reports
success.  And the monitoring of a daemon that cannot read a temperature panics. -/
theorem main_not_honest :
    ¬ Honest (main (.fan .both .auto none) (.ok (0, 4)) [.ok (.error "EC is busy"), .ok .success]) ∧
      (main (.fan .both .auto none) (.ok (0, 4))
        [.ok (.error "EC is busy"), .ok .success]).ending = .exited 0 ∧
      (main (.monitoring 1000) (.ok (0, 4)) [.ok (.error "EC is busy")]).ending = .panicked := by
  refine ⟨?_, rfl, rfl⟩
  intro honest
  exact honest.success rfl _ List.mem_cons_self ⟨_, rfl⟩

end Lecoo.Cli
