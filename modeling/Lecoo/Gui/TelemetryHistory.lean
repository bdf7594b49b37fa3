import Lecoo.Effects.Feed
import Mathlib.Data.List.Basic

namespace Lecoo.Gui

open Lecoo.Effects Feed Machine

/-! # The history of telemetry samples -/

/-- A sample: the time it was taken at, and what was measured. -/
structure TelemetrySample (R : Type) where
  timestampMs : Nat
  reading : R
deriving Repr, DecidableEq

variable {R : Type}

def Earlier (first second : TelemetrySample R) : Prop := first.timestampMs < second.timestampMs

instance (first second : TelemetrySample R) : Decidable (Earlier first second) :=
  inferInstanceAs (Decidable (_ < _))

instance : IsTrans (TelemetrySample R) Earlier := ⟨fun _ _ _ => Nat.lt_trans⟩

structure TelemetryStore (R : Type) where
  latest : Option (TelemetrySample R)
  history : List (TelemetrySample R)
  maxHistory : Nat
deriving Repr, DecidableEq

def defaultMaxHistory : Nat := 1800

def TelemetryStore.initial : TelemetryStore R where
  latest := none
  history := []
  maxHistory := defaultMaxHistory

def TelemetryStore.push (state : TelemetryStore R) (s : TelemetrySample R) : TelemetryStore R :=
  let next :=
    if state.history.length ≥ state.maxHistory then
      state.history.drop (state.history.length - state.maxHistory + 1) ++ [s]
    else state.history ++ [s]
  { state with latest := some s, history := next }

/-- The settings page may ask for any number. -/
def TelemetryStore.setMaxHistory (state : TelemetryStore R) (n : Int) : TelemetryStore R :=
  { state with maxHistory := (max 60 n).toNat }

/-- The store, and for the record every sample it was given. -/
structure Reception (R : Type) where
  store : TelemetryStore R
  received : List (TelemetrySample R)
deriving Repr, DecidableEq

def Reception.initial : Reception R := { store := .initial, received := [] }

def Reception.push (reception : Reception R) (s : TelemetrySample R) : Reception R where
  store := reception.store.push s
  received := reception.received ++ [s]

/-- The poller stores a sample before it emits it, and time goes on between samples; the
subscription pushes the reply, when there is one, and every event.  The length of the
history is set from the settings page. -/
def telemetryRoles (R : Type) :
    Roles (Option (TelemetrySample R)) (TelemetrySample R) Int (Reception R) where
  keep sample := some sample
  follows last sample := last.all fun last => last.timestampMs < sample.timestampMs
  onAnswer reception
    | some initial => reception.push initial
    | none => reception
  onEvent reception sample := reception.push sample
  onAction reception n := { reception with store := reception.store.setMaxHistory n }

abbrev TelemetryFeed (R : Type) :=
  Feed Unit (Option (TelemetrySample R)) (TelemetrySample R) (Reception R)

abbrev TelemetryStep (R : Type) := Feed.Step Unit (TelemetrySample R) Int

def telemetryMachine (R : Type) : Machine (TelemetryFeed R) (TelemetryStep R) :=
  Feed.next (telemetryRoles R)

def telemetryStart (R : Type) : TelemetryFeed R := Feed.start none .initial

/-- The history is in order without duplicates, and the latest sample is the newest one
that has arrived. -/
structure WellOrdered (reception : Reception R) : Prop where
  history : reception.store.history.Pairwise Earlier
  latest : ∀ sample ∈ reception.received, ∃ newest, reception.store.latest = some newest ∧
    newest ∈ reception.received ∧ sample.timestampMs ≤ newest.timestampMs

/-- The reply and the events arrive in the order of their samples: the reply is newer than
every event before it and older than every event after it. -/
def Timely (feed : TelemetryFeed R) : TelemetryStep R → Prop
  | .answer i => ∀ sample, (feed.subscriber i).answer = .onTheWay (some sample) →
      ∀ event ∈ (feed.subscriber i).heard, Earlier event sample
  | .receive i => ∀ sample, (feed.subscriber i).answer = .delivered (some sample) →
      ∀ event ∈ (feed.subscriber i).inbox.head?, Earlier sample event
  | _ => True

/-- What the store has of a record that is in order. -/
structure Recorded (reception : Reception R) : Prop where
  sorted : reception.received.Pairwise Earlier
  suffix : reception.store.history <:+ reception.received
  latest : reception.store.latest = reception.received.getLast?
  kept : reception.received ≠ [] → reception.store.history ≠ []
  room : 60 ≤ reception.store.maxHistory

theorem push_history (store : TelemetryStore R) (s : TelemetrySample R)
    (room : 60 ≤ store.maxHistory) :
    ∃ kept, (store.push s).history = kept ++ [s] ∧ kept <:+ store.history ∧
      (store.history ≠ [] → kept ≠ []) := by
  unfold TelemetryStore.push
  by_cases full : store.history.length ≥ store.maxHistory
  · refine ⟨store.history.drop (store.history.length - store.maxHistory + 1), ?_,
      List.drop_suffix _ _, ?_⟩
    · simp only [full, if_true]
    · intro _ none
      have length := List.drop_eq_nil_iff.mp none
      omega
  · refine ⟨store.history, ?_, List.suffix_refl _, id⟩
    simp only [full, if_false]

theorem Recorded.push {reception : Reception R} (recorded : Recorded reception)
    {s : TelemetrySample R} (newer : ∀ sample ∈ reception.received, Earlier sample s) :
    Recorded (reception.push s) := by
  obtain ⟨sorted, suffix, latest, kept, room⟩ := recorded
  obtain ⟨part, shape, partSuffix, _⟩ := push_history reception.store s room
  refine ⟨?_, ?_, ?_, ?_, room⟩
  · refine List.pairwise_append.mpr ⟨sorted, List.pairwise_singleton _ _, ?_⟩
    intro sample mem last isLast
    rw [List.mem_singleton.mp isLast]
    exact newer sample mem
  · change (reception.store.push s).history <:+ reception.received ++ [s]
    rw [shape]
    obtain ⟨dropped, whole⟩ := partSuffix.trans suffix
    exact ⟨dropped, by rw [← List.append_assoc, whole]⟩
  · change some s = (reception.received ++ [s]).getLast?
    rw [List.getLast?_concat]
  · intro _
    change (reception.store.push s).history ≠ []
    rw [shape]
    exact List.concat_ne_nil _ _

/-- In a record that is in order, the last sample is the newest. -/
theorem eq_or_earlier_last {before : List (TelemetrySample R)} {last sample : TelemetrySample R}
    (sorted : (before ++ [last]).Pairwise Earlier) (mem : sample ∈ before ++ [last]) :
    sample = last ∨ Earlier sample last := by
  rcases List.mem_append.mp mem with old | isLast
  · exact .inr ((List.pairwise_append.mp sorted).2.2 sample old last (by simp))
  · exact .inl (List.mem_singleton.mp isLast)

theorem Recorded.wellOrdered {reception : Reception R} (recorded : Recorded reception) :
    WellOrdered reception := by
  refine ⟨recorded.sorted.sublist recorded.suffix.sublist, ?_⟩
  intro sample mem
  obtain ⟨before, last, whole⟩ := List.eq_nil_or_concat reception.received |>.resolve_left
    (List.ne_nil_of_mem mem)
  rw [List.concat_eq_append] at whole
  refine ⟨last, by rw [recorded.latest, whole, List.getLast?_concat], by simp [whole], ?_⟩
  rw [whole] at mem
  rcases eq_or_earlier_last (whole ▸ recorded.sorted) mem with same | earlier
  · exact Nat.le_of_eq (congrArg TelemetrySample.timestampMs same)
  · exact Nat.le_of_lt earlier

/-- A push that leaves the history in order was of the newest sample. -/
theorem Recorded.newer {reception : Reception R} (recorded : Recorded reception)
    {s : TelemetrySample R} (ordered : WellOrdered (reception.push s)) :
    ∀ sample ∈ reception.received, Earlier sample s := by
  intro sample mem
  obtain ⟨part, shape, partSuffix, nonempty⟩ := push_history reception.store s recorded.room
  have present := nonempty (recorded.kept (List.ne_nil_of_mem mem))
  obtain ⟨front, last, partWhole⟩ := List.eq_nil_or_concat part |>.resolve_left present
  obtain ⟨dropped, whole⟩ := partSuffix.trans recorded.suffix
  rw [partWhole, List.concat_eq_append, ← List.append_assoc] at whole
  have lastEarlier : Earlier last s := by
    have history := ordered.history
    change (reception.store.push s).history.Pairwise Earlier at history
    rw [shape] at history
    exact (List.pairwise_append.mp history).2.2 last (by simp [partWhole]) s (by simp)
  rw [← whole] at mem
  rcases eq_or_earlier_last (whole ▸ recorded.sorted) mem with same | earlier
  · rw [same]
    exact lastEarlier
  · exact Nat.lt_trans earlier lastEarlier

theorem Recorded.setMaxHistory {reception : Reception R} (recorded : Recorded reception)
    (n : Int) :
    Recorded { reception with store := reception.store.setMaxHistory n } where
  sorted := recorded.sorted
  suffix := recorded.suffix
  latest := recorded.latest
  kept := recorded.kept
  room := by
    change 60 ≤ (max 60 n).toNat
    omega

theorem recorded_initial : Recorded (Reception.initial : Reception R) where
  sorted := .nil
  suffix := List.suffix_refl _
  latest := rfl
  kept := fun some => absurd rfl some
  room := (by decide : 60 ≤ defaultMaxHistory)

abbrev TelemetrySubscriber (R : Type) :=
  Subscriber (Option (TelemetrySample R)) (TelemetrySample R) (Reception R)

/-- The samples received are the events heard and the reply, once it is delivered. -/
def Accounts (subscriber : TelemetrySubscriber R) : Prop :=
  ∀ sample, sample ∈ subscriber.state.received ↔
    sample ∈ subscriber.heard ∨ subscriber.answer = .delivered (some sample)

/-- What every run keeps as long as the history is in order. -/
structure HistoryInvariant (feed : TelemetryFeed R) : Prop where
  sequenced : Sequenced (telemetryRoles R) Earlier feed.stored (feed.course ())
  accounts : ∀ i, Accounts (feed.subscriber i)
  recorded : ∀ i, Recorded (feed.subscriber i).state

variable {feed after : TelemetryFeed R} {step : TelemetryStep R}

theorem follows_earlier {event new : TelemetrySample R}
    (follows : (telemetryRoles R).follows ((telemetryRoles R).keep event) new = true) :
    Earlier event new := by
  simpa [telemetryRoles, Earlier] using follows

theorem accounts_moves (accounts : ∀ i, Accounts (feed.subscriber i))
    (moved : Moves (telemetryRoles R) feed step after) (i : Unit) :
    Accounts (after.subscriber i) := by
  cases moved with
  | store _ _ => exact accounts i
  | emit _ =>
      intro sample
      have account := accounts i sample
      simp only [Feed.hear]
      split <;> exact account
  | @read j asked =>
      refine forall_put accounts ?_ i
      intro account sample
      simpa [asked] using account sample
  | @answer j value answered =>
      refine forall_put accounts ?_ i
      intro account sample
      have account := account sample
      rw [answered] at account
      cases value with
      | none => simpa [telemetryRoles] using account
      | some initial => simpa [telemetryRoles, Reception.push, eq_comm] using or_congr_left account
  | listen _ =>
      refine forall_put accounts ?_ i
      exact id
  | @receive j event rest first =>
      refine forall_put accounts ?_ i
      intro account sample
      have account := account sample
      simp only [telemetryRoles, Reception.push, List.mem_append, account]
      exact or_right_comm
  | act _ _ =>
      refine forall_put accounts ?_ i
      exact id

theorem newer_answer_iff {i : Unit} {initial : TelemetrySample R}
    (accounts : Accounts (feed.subscriber i))
    (answered : (feed.subscriber i).answer = .onTheWay (some initial)) :
    (∀ sample ∈ (feed.subscriber i).state.received, Earlier sample initial) ↔
      Timely feed (.answer i) := by
  have account : ∀ sample, sample ∈ (feed.subscriber i).state.received ↔
      sample ∈ (feed.subscriber i).heard := by
    intro sample
    simpa [answered] using accounts sample
  constructor
  · intro newer sample onTheWay event heard
    cases answered.symm.trans onTheWay
    exact newer event ((account event).mpr heard)
  · intro timely sample mem
    exact timely initial answered sample ((account sample).mp mem)

theorem newer_receive_iff {event : TelemetrySample R} {rest : List (TelemetrySample R)}
    (sequenced : Sequenced (telemetryRoles R) Earlier feed.stored (feed.course ()))
    (accounts : Accounts (feed.subscriber ()))
    (first : (feed.subscriber ()).inbox = event :: rest) :
    (∀ sample ∈ (feed.subscriber ()).state.received, Earlier sample event) ↔
      Timely feed (.receive ()) := by
  have heardEarlier : ∀ sample ∈ (feed.subscriber ()).heard, Earlier sample event := by
    intro sample heard
    have ordered := sequenced.ordered
    rw [course, first] at ordered
    exact (List.pairwise_append.mp (List.pairwise_append.mp ordered).1).2.2 sample heard event
      List.mem_cons_self
  constructor
  · intro newer sample delivered event' isFirst
    rw [first] at isFirst
    cases isFirst
    exact newer sample ((accounts sample).mpr (.inr delivered))
  · intro timely sample mem
    rcases (accounts sample).mp mem with heard | delivered
    · exact heardEarlier sample heard
    · exact timely sample delivered event (by rw [first]; rfl)

/-- A step keeps the record in order when it is timely, and otherwise the history is out of
order after it. -/
theorem recorded_moves (invariant : HistoryInvariant feed)
    (moved : Moves (telemetryRoles R) feed step after) :
    (Timely feed step → Recorded (after.subscriber ()).state) ∧
      (WellOrdered (after.subscriber ()).state → Timely feed step) := by
  obtain ⟨sequenced, accounts, recorded⟩ := invariant
  cases moved with
  | store _ _ => exact ⟨fun _ => recorded (), fun _ => trivial⟩
  | emit _ =>
      refine ⟨fun _ => ?_, fun _ => trivial⟩
      simp only [Feed.hear]
      split <;> exact recorded ()
  | read _ =>
      refine ⟨fun _ => ?_, fun _ => trivial⟩
      rw [put_same]
      exact recorded ()
  | @answer i value answered =>
      rw [put_same]
      cases value with
      | none =>
          refine ⟨fun _ => recorded (), fun _ sample impossible => ?_⟩
          cases answered.symm.trans impossible
      | some initial =>
          have exactly := newer_answer_iff (accounts i) answered
          exact ⟨fun timely => (recorded i).push (exactly.mpr timely),
            fun ordered => exactly.mp ((recorded i).newer ordered)⟩
  | listen _ =>
      refine ⟨fun _ => ?_, fun _ => trivial⟩
      rw [put_same]
      exact recorded ()
  | @receive i event rest first =>
      rw [put_same]
      have exactly := newer_receive_iff sequenced (accounts ()) first
      exact ⟨fun timely => (recorded i).push (exactly.mpr timely),
        fun ordered => exactly.mp ((recorded i).newer ordered)⟩
  | act i n =>
      refine ⟨fun _ => ?_, fun _ => trivial⟩
      rw [put_same]
      exact (recorded i).setMaxHistory n

theorem historyInvariant_start : HistoryInvariant (telemetryStart R) where
  sequenced := ⟨.nil, fun _ impossible => absurd impossible List.not_mem_nil⟩
  accounts := by
    intro i sample
    simp [telemetryStart, Feed.start, Reception.initial]
  recorded := fun _ => recorded_initial

theorem historyInvariant_moves (invariant : HistoryInvariant feed) (timely : Timely feed step)
    (moved : Moves (telemetryRoles R) feed step after) :
    HistoryInvariant after where
  sequenced := invariant.sequenced.moves (fun _ _ => follows_earlier) moved
  accounts := accounts_moves invariant.accounts moved
  recorded := fun _ => (recorded_moves invariant moved).1 timely

/-- In every state a run reaches the history is in order and the latest sample the newest,
exactly when every step of the run is timely. -/
theorem telemetryHistory_ordered_iff {steps : List (TelemetryStep R)} {final : TelemetryFeed R}
    (ran : Run (telemetryMachine R) (telemetryStart R) steps final) :
    Guarded (telemetryMachine R)
        (Leads (telemetryMachine R) fun feed => WellOrdered (feed.subscriber ()).state)
        (telemetryStart R) steps final ↔
      Guarded (telemetryMachine R) Timely (telemetryStart R) steps final := by
  refine guarded_leads_iff HistoryInvariant ran ?_ ?_ historyInvariant_start
  · intro feed step next invariant stepped
    obtain ⟨keeps, only⟩ := recorded_moves invariant (moves_of_next stepped)
    exact ⟨only, fun timely => (keeps timely).wellOrdered⟩
  · intro feed step next invariant timely stepped
    exact historyInvariant_moves invariant timely (moves_of_next stepped)

/-- The reply before the first event, and a history that is cut. -/
theorem telemetryHistory_ordered_iff_inTurn :
    ∃ final, Guarded (telemetryMachine Unit)
        (Leads (telemetryMachine Unit) fun feed => WellOrdered (feed.subscriber ()).state)
        (telemetryStart Unit)
        [.store ⟨1000, ()⟩, .emit, .read (), .answer (), .listen (), .act () 300,
          .store ⟨4000, ()⟩, .emit, .receive ()] final ∧
      (final.subscriber ()).state.store.history = [⟨1000, ()⟩, ⟨4000, ()⟩] := by
  refine ⟨_, (telemetryHistory_ordered_iff (run_of_replay rfl)).mpr ?_, rfl⟩
  refine .cons trivial rfl (.cons trivial rfl (.cons trivial rfl (.cons ?_ rfl
    (.cons trivial rfl (.cons trivial rfl (.cons trivial rfl (.cons trivial rfl
    (.cons ?_ rfl .nil))))))))
  · intro _ _ _ impossible
    cases impossible
  · intro sample delivered event first
    cases delivered
    cases first
    decide

/-- The reply is read between the store of a sample and its event: the sample is in the
history twice. -/
theorem telemetryHistory_repeats :
    ∃ final, Run (telemetryMachine Unit) (telemetryStart Unit)
        [.listen (), .store ⟨1000, ()⟩, .read (), .emit, .answer (), .receive ()] final ∧
      (final.subscriber ()).state.store.history = [⟨1000, ()⟩, ⟨1000, ()⟩] ∧
      ¬ WellOrdered (final.subscriber ()).state := by
  refine ⟨_, run_of_replay rfl, rfl, ?_⟩
  intro ordered
  have repeated := ordered.history
  change List.Pairwise Earlier [⟨1000, ()⟩, ⟨1000, ()⟩] at repeated
  revert repeated
  decide

end Lecoo.Gui
