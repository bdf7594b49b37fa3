import Lecoo.Effects.Contract
import Lecoo.Effects.Expand
import Lecoo.Effects.Pool

namespace Lecoo.Effects

/-! # Transcripts

The transcript of a program is what it has performed, each operation with the reply
to it.  Together they determine what is left to do, so what a thread has done can be
read off its transcript, whatever the others did in between.
-/

universe u v

/-- An operation that was performed, and the reply to it. -/
structure Performed (I : Interface.{u}) : Type u where
  operation : I.Operation
  reply : I.Reply operation

namespace Program

variable {I : Interface.{u}} {J : Interface.{v}} {α β : Type}

/-- The program performs the given operations first, and is left with the given rest. -/
inductive Performs : Program I α → List (Performed I) → Program I α → Prop where
  | nil {program : Program I α} : Performs program [] program
  | cons {operation : I.Operation} {next : I.Reply operation → Program I α}
      {reply : I.Reply operation} {record : List (Performed I)} {rest : Program I α}
      (later : Performs (next reply) record rest) :
      Performs (.perform operation next) (⟨operation, reply⟩ :: record) rest

variable {program rest : Program I α} {record : List (Performed I)}

theorem Performs.snoc {operation : I.Operation} {next : I.Reply operation → Program I α}
    (performs : program.Performs record (.perform operation next)) (reply : I.Reply operation) :
    program.Performs (record ++ [⟨operation, reply⟩]) (next reply) := by
  generalize same : Program.perform operation next = reached at performs
  induction performs with
  | nil =>
      subst same
      exact .cons .nil
  | cons _ ih => exact .cons (ih same)

theorem performs_perform {operation : I.Operation} {next : I.Reply operation → Program I α} :
    (Program.perform operation next).Performs record rest ↔
      record = [] ∧ rest = .perform operation next ∨
      ∃ reply later, record = ⟨operation, reply⟩ :: later ∧ (next reply).Performs later rest := by
  constructor
  · intro performs
    cases performs with
    | nil => exact .inl ⟨rfl, rfl⟩
    | cons later => exact .inr ⟨_, _, rfl, later⟩
  · rintro (⟨rfl, rfl⟩ | ⟨reply, later, rfl, performs⟩)
    · exact .nil
    · exact .cons performs

/-- Either the first part is not over, or the second one has begun. -/
theorem performs_bind {later : α → Program I β} {rest : Program I β}
    (performs : (program >>= later).Performs record rest) :
    (∃ operation next, program.Performs record (.perform operation next) ∧
      rest = .perform operation fun reply => next reply >>= later) ∨
    ∃ value first second, record = first ++ second ∧ program.Performs first (.done value) ∧
      (later value).Performs second rest := by
  induction program generalizing record with
  | done value => exact .inr ⟨value, [], record, rfl, .nil, performs⟩
  | perform operation next ih =>
      rcases performs_perform.mp performs with ⟨rfl, same⟩ | ⟨reply, continued, rfl, goesOn⟩
      · exact .inl ⟨operation, next, .nil, same⟩
      · rcases ih reply goesOn with ⟨reached, after, went, same⟩ |
          ⟨value, first, second, rfl, went, ends⟩
        · exact .inl ⟨reached, after, .cons went, same⟩
        · exact .inr ⟨value, _ :: first, second, rfl, .cons went, ends⟩

/-- What holds of a program that keeps to a contract holds of the rest it is left with. -/
theorem Meets.performs {φ : Type} {contract : Contract I φ} {ends : φ → α → Prop} {phase : φ}
    (meets : program.Meets contract ends phase)
    (promised : ∀ step ∈ record, ∀ phase, contract.permits phase step.operation →
      contract.replies phase step.operation step.reply)
    (performs : program.Performs record rest) : ∃ last, rest.Meets contract ends last := by
  induction performs generalizing phase with
  | nil => exact ⟨phase, meets⟩
  | cons _ ih =>
      refine ih (meets.2 _ (promised _ List.mem_cons_self phase meets.1)) fun step member => ?_
      exact promised step (List.mem_cons_of_mem _ member)

end Program

/-- The operation as one of the second of two interfaces. -/
def Performed.inRight {I : Interface.{u}} {J : Interface.{v}} (step : Performed J) :
    Performed (I.sum J) :=
  ⟨.inr step.operation, step.reply⟩

theorem Program.performs_inRight {I : Interface.{u}} {J : Interface.{v}} {α : Type}
    {program : Program J α} {record : List (Performed (I.sum J))} {rest : Program (I.sum J) α}
    (performs : (program.inRight (I := I)).Performs record rest) :
    ∃ own left, record = own.map Performed.inRight ∧ program.Performs own left ∧
      rest = left.inRight := by
  induction program generalizing record with
  | done value =>
      cases performs
      exact ⟨[], _, rfl, .nil, rfl⟩
  | perform operation next ih =>
      cases performs with
      | nil => exact ⟨[], _, rfl, .nil, rfl⟩
      | cons continued =>
          obtain ⟨own, left, rfl, went, same⟩ := ih _ continued
          exact ⟨⟨operation, _⟩ :: own, left, rfl, .cons went, same⟩

/-- The reply is one the environment can have given. -/
def Performed.Genuine {I : Interface.{u}} {κ σ : Type} (semantics : Semantics I κ σ)
    (step : Performed I) : Prop :=
  ∃ choice state, (semantics step.operation choice state).1 = step.reply

theorem Performed.Genuine.promised {I : Interface.{u}} {φ κ σ : Type} {contract : Contract I φ}
    {semantics : Semantics I κ σ} {step : Performed I} (genuine : step.Genuine semantics)
    (kept : contract.KeptBy semantics) (phase : φ) (permitted : contract.permits phase step.operation) :
    contract.replies phase step.operation step.reply := by
  obtain ⟨choice, state, same⟩ := genuine
  rw [← same]
  exact kept phase step.operation choice state permitted

/-- A pool, and what each thread has performed for the job it was started for last. -/
structure Transcribed (I : Interface.{u}) (ι J α σ : Type) where
  pool : Pool I ι J α σ
  record : ι → List (Performed I)

namespace Transcribed

variable {I : Interface.{u}} {ι J α κ σ : Type} [DecidableEq ι]

def idle (world : σ) : Transcribed I ι J α σ := ⟨.idle world, fun _ => []⟩

/-- The records after a scheduling step. -/
def records (semantics : ι → J → Semantics I κ σ) (before : Transcribed I ι J α σ) :
    Event ι J κ → ι → List (Performed I)
  | .start thread _ => Function.update before.record thread []
  | .act thread choice =>
      match before.pool.thread thread with
      | some ⟨job, .perform operation _⟩ => Function.update before.record thread
          (before.record thread ++
            [⟨operation, (semantics thread job operation choice before.pool.world).1⟩])
      | _ => before.record
  | .finish _ => before.record

def next (code : J → Program I α) (semantics : ι → J → Semantics I κ σ)
    (before : Transcribed I ι J α σ) (event : Event ι J κ) : Option (Transcribed I ι J α σ) :=
  (before.pool.next code semantics event).map fun pool =>
    { pool, record := before.records semantics event }

abbrev Run (code : J → Program I α) (semantics : ι → J → Semantics I κ σ)
    (allowed : Transcribed I ι J α σ → Event ι J κ → Prop) :
    Transcribed I ι J α σ → List (Event ι J κ) → Transcribed I ι J α σ → Prop :=
  Trace (next code semantics) allowed

/-- What a thread has performed leads from the code of its job to what it still has to
do, and each step is of a given kind. -/
structure Follows (code : J → Program I α) (kind : ι → J → Performed I → Prop) (thread : ι)
    (record : List (Performed I)) (activity : Activity I J α) : Prop where
  performs : (code activity.job).Performs record activity.todo
  steps : ∀ step ∈ record, kind thread activity.job step

variable {code : J → Program I α} {semantics : ι → J → Semantics I κ σ}
  {kind : ι → J → Performed I → Prop} {allowed : Transcribed I ι J α σ → Event ι J κ → Prop}
  {before after : Transcribed I ι J α σ}

omit [DecidableEq ι] in
theorem Follows.step {thread : ι} {record : List (Performed I)} {job : J}
    {operation : I.Operation} {rest : I.Reply operation → Program I α} {reply : I.Reply operation}
    (follows : Follows code kind thread record ⟨job, .perform operation rest⟩)
    (made : kind thread job ⟨operation, reply⟩) :
    Follows code kind thread (record ++ [⟨operation, reply⟩]) ⟨job, rest reply⟩ := by
  refine ⟨follows.performs.snoc _, fun step member => ?_⟩
  rcases List.mem_append.mp member with earlier | last
  · exact follows.steps step earlier
  · cases List.mem_singleton.mp last
    exact made

def EachFollows (code : J → Program I α) (kind : ι → J → Performed I → Prop)
    (state : Transcribed I ι J α σ) : Prop :=
  ∀ thread activity, state.pool.thread thread = some activity →
    Follows code kind thread (state.record thread) activity

/-- The steps that the condition allows are of the given kind. -/
def Makes (semantics : ι → J → Semantics I κ σ)
    (allowed : Transcribed I ι J α σ → Event ι J κ → Prop) (kind : ι → J → Performed I → Prop) :
    Prop :=
  ∀ {state thread choice job operation rest}, allowed state (.act thread choice) →
    state.pool.thread thread = some ⟨job, .perform operation rest⟩ →
    kind thread job ⟨operation, (semantics thread job operation choice state.pool.world).1⟩

theorem EachFollows.next {event : Event ι J κ} (makes : Makes semantics allowed kind)
    (each : EachFollows code kind before) (permitted : allowed before event)
    (stepped : before.next code semantics event = some after) : EachFollows code kind after := by
  obtain ⟨pool, moved, rfl⟩ := Option.map_eq_some_iff.mp stepped
  intro thread activity running
  by_cases other : event.thread ≠ thread
  · rw [Pool.next_other moved other] at running
    have same : before.records semantics event thread = before.record thread := by
      cases event with
      | start actor job => exact Function.update_of_ne (Ne.symm other) _ _
      | act actor choice =>
          obtain ⟨job, operation, rest, found, _⟩ := Pool.next_act.mp moved
          simp only [records, found]
          exact Function.update_of_ne (Ne.symm other) _ _
      | finish actor => rfl
    simp only [same]
    exact each thread activity running
  · obtain rfl := not_not.mp other
    cases event with
    | start thread job =>
        obtain ⟨_, rfl⟩ := Pool.next_start.mp moved
        rw [Event.thread, Pool.put_same] at running
        cases running
        simp only [records, Event.thread, Function.update_self]
        refine ⟨.nil, fun step member => ?_⟩
        cases member
    | act thread choice =>
        obtain ⟨job, operation, rest, found, rfl⟩ := Pool.next_act.mp moved
        rw [Event.thread, Pool.put_same] at running
        cases running
        simp only [records, found, Event.thread, Function.update_self]
        exact (each thread _ found).step (makes permitted found)
    | finish thread =>
        obtain ⟨job, value, _, rfl⟩ := Pool.next_finish.mp moved
        rw [Event.thread, Pool.put_same] at running
        cases running

/-- In every run from a quiet pool the transcripts account for what the threads have done. -/
theorem Run.follows {events : List (Event ι J κ)} (makes : Makes semantics allowed kind)
    (ran : Run code semantics allowed before events after) (quiet : before.pool.Quiet) :
    EachFollows code kind after := by
  refine Trace.invariant (fun each permitted stepped => each.next makes permitted stepped) ran ?_
  intro thread activity running
  rw [quiet thread] at running
  cases running

end Transcribed

end Lecoo.Effects
