import Lecoo.Effects.Transcript
import Lecoo.Daemon.Connection
import Lecoo.Daemon.Jobs
import Lecoo.Daemon.Panics

namespace Lecoo.Daemon

open Lecoo.Effects Lecoo.Ipc Lecoo.Ec Fallible

/-! # One answer for every request

The connection threads receive and answer requests while they, the other
connections and the rest of the daemon work on one shared state.  What each
thread performs is recorded: what it received and sent, and its own steps on the
daemon's state in between.
-/

/-- The calls of a connection thread that concern its client. -/
inductive LinkOp where
  | acceptHandshake
  | recv
  | send (response : IpcResponse)

@[reducible] def linkOps : Interface where
  Operation := LinkOp
  Reply
    | .acceptHandshake => Except IoError Unit
    | .recv => Except IoError IpcRequest
    | .send _ => Except IoError Unit

abbrev serviceOps : Interface.{1} := linkOps.sum daemonOps

/-- The operations of a connection, with those on the daemon's state as its code has them. -/
def serviceHandler (ec : EcDevice) :
    (operation : ConnectionOp) → Program serviceOps (connectionOps.Reply operation)
  | .acceptHandshake => Program.request (I := serviceOps) (.inl .acceptHandshake)
  | .recv => Program.request (I := serviceOps) (.inl .recv)
  | .send response => Program.request (I := serviceOps) (.inl (.send response))
  | .doWork request => (doWork ec request).run.inRight
  | .saveState => saveOnReset.run.inRight

/-- What a thread of the running daemon does: it serves a connection, or has
another job. -/
inductive ServiceJob where
  | connection (turns : Nat)
  | other (job : Job)

def ServiceJob.code (ec : EcDevice) : ServiceJob → Program serviceOps (Except Failure Unit)
  | .connection turns => (processIpcConnection turns).run.expand (serviceHandler ec)
  | .other job => (job.work ec).run.inRight >>= fun outcome => .done (outcome.map fun _ => ())

/-- What the clients send, and the choices for the operations of the daemon. -/
structure ServiceChoice where
  daemon : Choice := {}
  handshake : Except IoError Unit := .ok ()
  received : Except IoError IpcRequest := .error ⟨.connectionReset, "Connection reset by peer"⟩
deriving Inhabited

/-- Responses reach the client. -/
def serviceSemantics (codec : SettingsCodec) (thread : ThreadId) (_ : ServiceJob) :
    Semantics serviceOps ServiceChoice World
  | .inl .acceptHandshake, choice, world => (choice.handshake, world)
  | .inl .recv, choice, world => (choice.received, world)
  | .inl (.send _), _, world => (.ok (), world)
  | .inr operation, choice, world => daemonSemantics codec thread operation choice.daemon world

abbrev ServicePool := Transcribed serviceOps ThreadId ServiceJob (Except Failure Unit) World

abbrev ServiceRun (codec : SettingsCodec) (ec : EcDevice)
    (allowed : ServicePool → Event ThreadId ServiceJob ServiceChoice → Prop) :
    ServicePool → List (Event ThreadId ServiceJob ServiceChoice) → ServicePool → Prop :=
  Transcribed.Run (ServiceJob.code ec) (serviceSemantics codec) allowed

/-- What a connection thread owes its client. -/
inductive Owed where
  | nothing
  | outcome (request : IpcRequest)
  | answer (request : IpcRequest) (response : IpcResponse)

/-- A request is received when nothing is owed, handled, and answered with the
outcome before anything else happens. -/
def Alternates {α : Type} : Program connectionOps α → Owed → Prop
  | .done _, owed => owed = .nothing
  | .perform .acceptHandshake next, owed =>
      owed = .nothing ∧ ∀ reply, Alternates (next reply) .nothing
  | .perform .recv next, owed =>
      owed = .nothing ∧ (∀ request, Alternates (next (.ok request)) (.outcome request)) ∧
        ∀ error, Alternates (next (.error error)) .nothing
  | .perform (.doWork request) next, owed =>
      owed = .outcome request ∧
        ∀ response, Alternates (next (.ok response)) (.answer request response)
  | .perform (.send response) next, owed =>
      (∃ request, owed = .answer request response) ∧
        ∀ reply, Alternates (next reply) .nothing
  | .perform .saveState next, owed =>
      owed = .nothing ∧ ∀ reply, Alternates (next reply) .nothing

theorem connectionLoop_alternates (turns : Nat) :
    Alternates (connectionLoop turns).run .nothing := by
  induction turns with
  | zero => rfl
  | succ turns ih =>
      refine ⟨rfl, fun request => ⟨rfl, fun response => ⟨⟨request, rfl⟩, fun sent => ?_⟩⟩, ?_⟩
      · cases sent with
        | ok _ => exact ih
        | error _ => rfl
      · intro error
        obtain ⟨kind, message⟩ := error
        cases kind with
        | connectionReset =>
            refine ⟨rfl, fun saved => ?_⟩
            cases saved <;> rfl
        | _ => rfl

theorem processIpcConnection_alternates (turns : Nat) :
    Alternates (processIpcConnection turns).run .nothing := by
  refine ⟨rfl, fun accepted => ?_⟩
  cases accepted with
  | ok _ => exact connectionLoop_alternates turns
  | error _ => rfl

/-- What a connection thread performs, in order. -/
abbrev Conversation := List (Performed serviceOps)

def requestReceived (request : IpcRequest) : Performed serviceOps := ⟨.inl .recv, .ok request⟩

def responseSent (response : IpcResponse) : Performed serviceOps := ⟨.inl (.send response), .ok ()⟩

/-- The steps of a connection thread on the daemon's state. -/
def onDaemon (record : List (Performed daemonOps)) : Conversation := record.map Performed.inRight

/-- Every request received was answered, before the next one, with the response that
the thread's own steps in between computed for it, which are those of `do_work`. -/
inductive Answered (ec : EcDevice) : Conversation → Prop where
  | nothing : Answered ec []
  | handshake {earlier : Conversation} {outcome : Except IoError Unit}
      (answered : Answered ec earlier) :
      Answered ec (earlier ++ [⟨.inl .acceptHandshake, outcome⟩])
  | failed {earlier : Conversation} {error : IoError} (answered : Answered ec earlier) :
      Answered ec (earlier ++ [⟨.inl .recv, .error error⟩])
  | saved {earlier : Conversation} {worked : List (Performed daemonOps)}
      {rest : Task (Except Failure Unit)} (answered : Answered ec earlier)
      (saves : saveOnReset.run.Performs worked rest) : Answered ec (earlier ++ onDaemon worked)
  | turn {earlier : Conversation} {request : IpcRequest} {worked : List (Performed daemonOps)}
      {response : IpcResponse} (answered : Answered ec earlier)
      (computed : (doWork ec request).run.Performs worked (.done (.ok response))) :
      Answered ec (earlier ++ requestReceived request :: onDaemon worked ++ [responseSent response])

/-- The last request received is being handled, or its answer is still to be sent. -/
def Handling (ec : EcDevice) (conversation : Conversation) : Prop :=
  ∃ earlier request worked rest, Answered ec earlier ∧
    (doWork ec request).run.Performs worked rest ∧
    conversation = earlier ++ requestReceived request :: onDaemon worked

/-- The requests have been answered in order, one by one; while an answer is owed
the thread has not ended. -/
def TurnByTurn (ec : EcDevice) (conversation : Conversation)
    (todo : Program serviceOps (Except Failure Unit)) : Prop :=
  Answered ec conversation ∨
    Handling ec conversation ∧ ∃ operation rest, todo = .perform operation rest

def AnswersInOrder (ec : EcDevice) (pool : ServicePool) : Prop :=
  ∀ thread turns todo, pool.pool.thread thread = some ⟨.connection turns, todo⟩ →
    TurnByTurn ec (pool.record thread) todo

variable {codec : SettingsCodec} {ec : EcDevice} {thread : ThreadId}
  {earlier record : Conversation}

/-- The conversation shows what is owed. -/
def Owed.Noted (ec : EcDevice) (conversation : Conversation) : Owed → Prop
  | .nothing => Answered ec conversation
  | .outcome request => Implemented request ∧
      ∃ earlier, Answered ec earlier ∧ conversation = earlier ++ [requestReceived request]
  | .answer request response => ∃ earlier worked, Answered ec earlier ∧
      (doWork ec request).run.Performs worked (.done (.ok response)) ∧
      conversation = earlier ++ requestReceived request :: onDaemon worked

/-- The step is one that the daemon's world allows, and a request it receives is one
the daemon has code for. -/
structure StepSound (codec : SettingsCodec) (thread : ThreadId) (job : ServiceJob)
    (step : Performed serviceOps) : Prop where
  genuine : step.Genuine (serviceSemantics codec thread job)
  implemented : ∀ request, step = requestReceived request → Implemented request

theorem StepSound.onDaemon {job : ServiceJob} {worked : List (Performed daemonOps)}
    (sound : ∀ step ∈ onDaemon worked, StepSound codec thread job step) :
    ∀ step ∈ worked, step.Genuine (daemonSemantics codec thread) := by
  intro step member
  obtain ⟨choice, world, same⟩ := (sound _ (List.mem_map_of_mem member)).genuine
  exact ⟨choice.daemon, world, same⟩

/-- What a connection thread performs for its calls is in order, from any point at
which the conversation shows what is owed. -/
theorem turnByTurn_of_alternates {calls : Program connectionOps (Except Failure Unit)} {owed : Owed}
    {todo : Program serviceOps (Except Failure Unit)} {job : ServiceJob}
    (alternates : Alternates calls owed) (noted : owed.Noted ec earlier)
    (performs : (calls.expand (serviceHandler ec)).Performs record todo)
    (sound : ∀ step ∈ record, StepSound codec thread job step) : TurnByTurn ec (earlier ++ record) todo := by
  induction calls generalizing owed earlier record with
  | done value =>
      cases alternates
      cases performs
      rw [List.append_nil]
      exact .inl noted
  | perform operation next ih =>
      cases operation with
      | acceptHandshake =>
          obtain ⟨rfl, later⟩ := alternates
          rcases Program.performs_perform.mp performs with ⟨rfl, _⟩ | ⟨reply, rest, rfl, goesOn⟩
          · rw [List.append_nil]
            exact .inl noted
          · rw [List.append_cons]
            exact ih reply (later reply) (.handshake noted) goesOn
              fun step member => sound step (List.mem_cons_of_mem _ member)
      | recv =>
          obtain ⟨rfl, accepted, failed⟩ := alternates
          rcases Program.performs_perform.mp performs with ⟨rfl, _⟩ | ⟨reply, rest, rfl, goesOn⟩
          · rw [List.append_nil]
            exact .inl noted
          · have others : ∀ step ∈ rest, StepSound codec thread job step :=
              fun step member => sound step (List.mem_cons_of_mem _ member)
            rw [List.append_cons]
            cases reply with
            | ok request =>
                have implemented := (sound _ List.mem_cons_self).implemented request rfl
                exact ih (.ok request) (accepted request) ⟨implemented, _, noted, rfl⟩ goesOn others
            | error error => exact ih (.error error) (failed error) (.failed noted) goesOn others
      | send response =>
          obtain ⟨⟨request, rfl⟩, later⟩ := alternates
          obtain ⟨before, worked, answered, computed, rfl⟩ := noted
          rcases Program.performs_perform.mp performs with ⟨rfl, same⟩ | ⟨reply, rest, rfl, goesOn⟩
          · rw [List.append_nil]
            exact .inr ⟨⟨before, request, worked, _, answered, computed, rfl⟩, _, _, same⟩
          · obtain ⟨_, _, replied⟩ := (sound _ List.mem_cons_self).genuine
            cases replied
            rw [List.append_cons]
            exact ih (.ok ()) (later _) (.turn answered computed) goesOn
              fun step member => sound step (List.mem_cons_of_mem _ member)
      | doWork request =>
          obtain ⟨rfl, later⟩ := alternates
          obtain ⟨implemented, before, answered, rfl⟩ := noted
          rcases Program.performs_bind performs with ⟨reached, after, went, same⟩ |
            ⟨outcome, first, second, rfl, went, goesOn⟩
          · obtain ⟨worked, rest, rfl, went, _⟩ := Program.performs_inRight went
            refine .inr ⟨⟨before, request, worked, rest, answered, went, ?_⟩, _, _, same⟩
            simp [onDaemon]
          · obtain ⟨worked, rest, rfl, went, ended⟩ := Program.performs_inRight went
            cases rest with
            | perform operation rest => cases ended
            | done outcome =>
                cases ended
                have genuine := StepSound.onDaemon fun step member =>
                  sound step (List.mem_append_left _ member)
                obtain ⟨_, response, rfl⟩ := (doWork_answers ec implemented).performs
                  (fun step member phase => (genuine step member).promised steadyOps_kept phase) went
                have continued := ih (.ok response) (later response)
                  ⟨before, worked, answered, went, rfl⟩ goesOn
                  fun step member => sound step (List.mem_append_right _ member)
                simpa [onDaemon] using continued
      | saveState =>
          obtain ⟨rfl, later⟩ := alternates
          rcases Program.performs_bind performs with ⟨reached, after, went, _⟩ |
            ⟨outcome, first, second, rfl, went, goesOn⟩
          · obtain ⟨worked, rest, rfl, went, _⟩ := Program.performs_inRight went
            exact .inl (.saved noted went)
          · obtain ⟨worked, rest, rfl, went, _⟩ := Program.performs_inRight went
            have continued := ih outcome (later outcome) (.saved noted went) goesOn
              fun step member => sound step (List.mem_append_right _ member)
            simpa [onDaemon] using continued

/-- The daemon has code for every request that is received. -/
def ReceivesImplemented (pool : ServicePool) : Event ThreadId ServiceJob ServiceChoice → Prop
  | .act thread choice =>
      ∀ job rest, pool.pool.thread thread = some ⟨job, .perform (.inl .recv) rest⟩ →
        ∀ request, choice.received = .ok request → Implemented request
  | _ => True

theorem makes_sound :
    Transcribed.Makes (serviceSemantics codec) ReceivesImplemented (StepSound codec) := by
  intro pool thread choice job operation rest implemented running
  refine ⟨⟨choice, pool.pool.world, rfl⟩, fun request same => ?_⟩
  cases operation with
  | inl operation =>
      cases operation with
      | recv =>
          injection same with _ replied
          exact implemented job rest running request replied
      | _ => injection same with other _; cases other
  | inr operation => injection same with other _; cases other

/-- In every run in which only implemented requests are received, whatever the
threads do in between, every request gets its own answer. -/
theorem connections_answersInOrder {before after : ServicePool}
    {events : List (Event ThreadId ServiceJob ServiceChoice)}
    (ran : ServiceRun codec ec ReceivesImplemented before events after)
    (quiet : before.pool.Quiet) : AnswersInOrder ec after := by
  intro thread turns todo running
  have follows := Transcribed.Run.follows makes_sound ran quiet thread _ running
  exact turnByTurn_of_alternates (processIpcConnection_alternates turns) .nothing follows.performs
    follows.steps

inductive Exchange where
  | received (request : IpcRequest)
  | sent (response : IpcResponse)
deriving DecidableEq

def exchange : Performed serviceOps → Option Exchange
  | ⟨.inl .recv, .ok request⟩ => some (.received request)
  | ⟨.inl (.send response), _⟩ => some (.sent response)
  | _ => none

theorem exchanges_onDaemon (worked : List (Performed daemonOps)) :
    (onDaemon worked).filterMap exchange = [] := by
  rw [onDaemon, List.filterMap_map, List.filterMap_eq_nil_iff]
  exact fun _ _ => rfl

/-- What has gone over a connection is request, response, request, response. -/
theorem Answered.exchanges {conversation : Conversation} (answered : Answered ec conversation) :
    ∃ pairs : List (IpcRequest × IpcResponse), conversation.filterMap exchange =
      pairs.flatMap fun pair => [.received pair.1, .sent pair.2] := by
  induction answered with
  | nothing => exact ⟨[], rfl⟩
  | handshake _ ih | failed _ ih =>
      obtain ⟨pairs, same⟩ := ih
      exact ⟨pairs, by simp [same, exchange]⟩
  | saved _ _ ih =>
      obtain ⟨pairs, same⟩ := ih
      exact ⟨pairs, by simp [same, exchanges_onDaemon]⟩
  | @turn _ request _ response _ _ ih =>
      obtain ⟨pairs, same⟩ := ih
      refine ⟨pairs ++ [(request, response)], ?_⟩
      simp [same, exchanges_onDaemon, requestReceived, responseSent, exchange]

/-- The daemon with no clients yet and cleared registers. -/
def idleService : ServicePool := .idle (World.fresh (fun _ => 0) none)

theorem receivesImplemented_act {pool : ServicePool} {choice : ServiceChoice}
    (implemented : ∀ request, choice.received = .ok request → Implemented request) :
    ReceivesImplemented pool (.act thread choice) := fun _ _ _ => implemented

theorem connections_answersInOrder_temperatures :
    ∃ after : ServicePool,
      (after.record 0).filterMap exchange = [.received .getTemperatures, .sent (.temp 0 0)] ∧
      AnswersInOrder Detection.n155a.device after := by
  have nothing : ∀ {pool : ServicePool}, ReceivesImplemented pool (.act 0 {}) := by
    refine receivesImplemented_act fun request received => ?_
    cases received
  have asked : ∀ {pool : ServicePool},
      ReceivesImplemented pool (.act 0 { received := .ok .getTemperatures }) := by
    refine receivesImplemented_act fun request received => ?_
    cases received
    trivial
  have ran : ∃ after, ServiceRun .bincode Detection.n155a.device ReceivesImplemented idleService
      [.start 0 (.connection 1), .act 0 {}, .act 0 { received := .ok .getTemperatures },
        .act 0 {}, .act 0 {}] after ∧
      (after.record 0).filterMap exchange = [.received .getTemperatures, .sent (.temp 0 0)] :=
    ⟨_, .cons trivial rfl (.cons nothing rfl (.cons asked rfl (.cons nothing rfl
      (.cons nothing rfl .nil)))), rfl⟩
  obtain ⟨after, ran, exchanged⟩ := ran
  exact ⟨after, exchanged, connections_answersInOrder ran fun _ => rfl⟩

/-- A command without code ends the connection's thread, and is never answered. -/
theorem connections_answersInOrder_fails :
    ¬∀ events after, ServiceRun .bincode Detection.n155a.device (fun _ _ => True) idleService
      events after → AnswersInOrder Detection.n155a.device after := by
  intro inOrder
  have ran : ∃ after, ServiceRun .bincode Detection.n155a.device (fun _ _ => True) idleService
      [.start 0 (.connection 1), .act 0 {},
        .act 0 { received := .ok (.daemonCommand .runPrepareShutdown) }] after ∧
      (after.record 0).filterMap exchange = [.received (.daemonCommand .runPrepareShutdown)] ∧
      after.pool.thread 0 =
        some ⟨.connection 1, .done (.error (.panic "not yet implemented"))⟩ :=
    ⟨_, .cons trivial rfl (.cons trivial rfl (.cons trivial rfl .nil)), rfl, rfl⟩
  obtain ⟨after, ran, exchanged, ended⟩ := ran
  rcases inOrder _ after ran 0 1 _ ended with answered | ⟨_, _, _, alive⟩
  · obtain ⟨pairs, same⟩ := answered.exchanges
    rw [exchanged] at same
    cases pairs with
    | nil => cases same
    | cons pair pairs => simp at same
  · cases alive

end Lecoo.Daemon
