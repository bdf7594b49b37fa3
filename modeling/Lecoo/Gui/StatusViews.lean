import Lecoo.Effects.Feed
import Lecoo.Gui.Status

namespace Lecoo.Gui

open Lecoo.Effects Feed Machine

/-! # The views of the connection status

The overlay, the title bar and the settings page each ask for the status once when
they are mounted and listen to its changes from then on.
-/

inductive StatusComponent where
  | daemonOverlay
  | titlebar
  | settings
deriving Repr, DecidableEq

/-- One mount of a component. -/
structure StatusMount where
  component : StatusComponent
  mount : Nat
deriving Repr, DecidableEq

/-- `set_status` stores and emits a status of its own accord; the three components do the
same with what they get. -/
def statusRoles : Roles ConnectionStatus ConnectionStatus Empty ConnectionStatus where
  keep status := status
  follows _ _ := true
  onAnswer _ status := status
  onEvent _ status := status
  onAction _ action := action.elim

abbrev StatusFeed := Feed StatusMount ConnectionStatus ConnectionStatus ConnectionStatus

abbrev StatusStep := Feed.Step StatusMount ConnectionStatus Empty

/-- The poller, `AppState.connection` and the views, with everything between them. -/
def statusMachine : Machine StatusFeed StatusStep := Feed.next statusRoles

def statusStart : StatusFeed := Feed.start .disconnected .disconnected

/-- A view listens and no message for it is in flight, a status that is stored and about
to be emitted being one. -/
structure StatusSettled (feed : StatusFeed) (view : StatusMount) : Prop where
  listening : (feed.subscriber view).listening = true
  answered : ∃ status, (feed.subscriber view).answer = .delivered status
  inbox : (feed.subscriber view).inbox = []
  sent : feed.unsent = none

/-- Every view that is settled shows the status the backend holds. -/
def Converged (feed : StatusFeed) : Prop :=
  ∀ view, StatusSettled feed view → (feed.subscriber view).state = feed.stored

/-- No snapshot is left as the last word when it is out of date: a later status is on its
way when it is delivered to a view that listens, or when a view that was given it
begins to listen. -/
def InTime (feed : StatusFeed) : StatusStep → Prop
  | .answer view => ∀ status, (feed.subscriber view).answer = .onTheWay status →
      (feed.subscriber view).listening = true →
      status = feed.stored ∨ (feed.subscriber view).inbox ≠ [] ∨ feed.unsent ≠ none
  | .listen view => ∀ status, (feed.subscriber view).answer = .delivered status →
      status = feed.stored ∨ feed.unsent ≠ none
  | _ => True

/-- A view that does not listen shows the snapshot it was given. -/
def ShowsSnapshot (view : Subscriber ConnectionStatus ConnectionStatus ConnectionStatus) : Prop :=
  view.listening = false → ∀ status, view.answer = .delivered status → view.state = status

variable {feed after : StatusFeed} {step : StatusStep}

theorem showsSnapshot_moves (regular : Regular statusRoles feed)
    (shows : ∀ view, ShowsSnapshot (feed.subscriber view))
    (moved : Moves statusRoles feed step after) (view : StatusMount) :
    ShowsSnapshot (after.subscriber view) := by
  cases moved with
  | store _ _ => exact shows view
  | @emit event _ =>
      intro silent status delivered
      have unheard : Feed.hear event (feed.subscriber view) = feed.subscriber view := by
        unfold Feed.hear at silent ⊢
        split
        · rename_i listening
          simp only [listening, if_true] at silent
          cases silent
        · rfl
      simp only [unheard] at silent delivered ⊢
      exact shows view silent status delivered
  | read _ =>
      refine forall_put shows ?_ view
      intro _ _ status impossible
      cases impossible
  | answer _ =>
      refine forall_put shows ?_ view
      intro _ _ status delivered
      cases delivered
      rfl
  | listen _ =>
      refine forall_put shows ?_ view
      intro _ silent
      cases silent
  | @receive i event rest first =>
      refine forall_put shows ?_ view
      intro _ silent
      have empty := (regular.supplied i).deaf silent
      rw [first] at empty
      cases empty
  | act _ action => exact action.elim

theorem converged_put_iff {i : StatusMount}
    {view : Subscriber ConnectionStatus ConnectionStatus ConnectionStatus}
    (converged : Converged feed) :
    Converged (feed.put i view) ↔
      (view.listening = true → ∀ status, view.answer = .delivered status → view.inbox = [] →
        feed.unsent = none → view.state = feed.stored) := by
  constructor
  · intro all listening status answered inbox sent
    have own := all i ⟨by rw [put_same]; exact listening, ⟨status, by rw [put_same]; exact answered⟩,
      by rw [put_same]; exact inbox, sent⟩
    rwa [put_same] at own
  · intro own j ⟨listening, ⟨status, answered⟩, inbox, sent⟩
    by_cases same : j = i
    · subst same
      rw [put_same] at listening answered inbox ⊢
      exact own listening status answered inbox sent
    · rw [put_other same] at listening answered inbox ⊢
      exact converged j ⟨listening, ⟨status, answered⟩, inbox, sent⟩

theorem converged_moves_iff (regular : Regular statusRoles feed)
    (shows : ∀ view, ShowsSnapshot (feed.subscriber view)) (converged : Converged feed)
    (moved : Moves statusRoles feed step after) :
    Converged after ↔ InTime feed step := by
  cases moved with
  | store _ _ =>
      refine iff_of_true ?_ trivial
      intro view settled
      cases settled.sent
  | @emit event _ =>
      refine iff_of_true ?_ trivial
      intro view settled
      -- whoever listens has the new status in its inbox
      have inbox := settled.inbox
      have listening := settled.listening
      simp only [Feed.hear] at inbox listening
      split at inbox
      · simp at inbox
      · rename_i silent
        rw [if_neg silent] at listening
        exact absurd listening silent
  | read _ =>
      refine iff_of_true ((converged_put_iff converged).mpr ?_) trivial
      intro _ _ impossible
      cases impossible
  | @answer i value answered =>
      rw [converged_put_iff converged]
      constructor
      · intro own status onTheWay listening
        by_cases caught : (feed.subscriber i).inbox = [] ∧ feed.unsent = none
        · rw [answered] at onTheWay
          cases onTheWay
          exact .inl (own listening value rfl caught.1 caught.2)
        · exact .inr (not_and_or.mp caught)
      · intro inTime listening status _ inbox sent
        rcases inTime value answered listening with same | more | more
        · exact same
        · exact absurd inbox more
        · exact absurd sent more
  | @listen i silent =>
      rw [converged_put_iff converged]
      have empty := (regular.supplied i).deaf silent
      constructor
      · intro own status delivered
        by_cases sent : feed.unsent = none
        · have shown := own rfl status delivered empty sent
          exact .inl ((shows i silent status delivered).symm.trans shown)
        · exact .inr sent
      · intro inTime _ status delivered _ sent
        rcases inTime status delivered with same | more
        · exact (shows i silent status delivered).trans same
        · exact absurd sent more
  | @receive i event rest first =>
      refine iff_of_true ((converged_put_iff converged).mpr ?_) trivial
      intro _ _ _ empty sent
      -- the last event on its way is the status that is stored
      refine (regular.supplied i).last sent event ?_
      have empty : rest = [] := empty
      rw [first, empty]
      rfl
  | act _ action => exact action.elim

/-- What every run keeps as long as the views converge. -/
structure StatusInvariant (feed : StatusFeed) : Prop where
  regular : Regular statusRoles feed
  shows : ∀ view, ShowsSnapshot (feed.subscriber view)
  converged : Converged feed

theorem statusInvariant_start : StatusInvariant statusStart where
  regular := regular_start _ _ _
  shows := by
    intro view _ status impossible
    cases impossible
  converged := by
    intro view settled
    cases settled.listening

/-- In every state a run reaches the settled views show the stored status, exactly when
every step of the run is in time. -/
theorem statusViews_converge_iff {steps : List StatusStep} {final : StatusFeed}
    (ran : Run statusMachine statusStart steps final) :
    Guarded statusMachine (Leads statusMachine Converged) statusStart steps final ↔
      Guarded statusMachine InTime statusStart steps final := by
  refine guarded_leads_iff StatusInvariant ran ?_ ?_ statusInvariant_start
  · intro feed step next invariant stepped
    exact converged_moves_iff invariant.regular invariant.shows invariant.converged
      (moves_of_next stepped)
  · intro feed step next invariant inTime stepped
    have moved := moves_of_next stepped
    exact {
      regular := invariant.regular.moves moved
      shows := showsSnapshot_moves invariant.regular invariant.shows moved
      converged := (converged_moves_iff invariant.regular invariant.shows invariant.converged
        moved).mpr inTime }

/-- The overlay of the start page. -/
def firstOverlay : StatusMount := { component := .daemonOverlay, mount := 0 }

/-- The snapshot comes first, then the listener, then the connection. -/
theorem statusViews_converge_iff_inTurn :
    ∃ final, Guarded statusMachine (Leads statusMachine Converged) statusStart
        [.store .connecting, .emit, .read firstOverlay, .answer firstOverlay,
          .listen firstOverlay, .store (.connected (0, 4)), .emit, .receive firstOverlay] final ∧
      (final.subscriber firstOverlay).state = .connected (0, 4) := by
  refine ⟨_, (statusViews_converge_iff (run_of_replay rfl)).mpr ?_, rfl⟩
  refine .cons trivial rfl (.cons trivial rfl (.cons trivial rfl (.cons ?_ rfl (.cons ?_ rfl
    (.cons trivial rfl (.cons trivial rfl (.cons trivial rfl .nil)))))))
  · intro _ _ listening
    cases listening
  · intro _ delivered
    cases delivered
    exact .inl rfl

/-- The snapshot is taken while the poller connects and delivered after the event of the
connection: the overlay stays over a daemon that is connected. -/
theorem statusViews_part :
    ∃ final, Run statusMachine statusStart
        [.store .connecting, .emit, .read firstOverlay, .listen firstOverlay,
          .store (.connected (0, 4)), .emit, .receive firstOverlay, .answer firstOverlay] final ∧
      StatusSettled final firstOverlay ∧
      (final.subscriber firstOverlay).state = .connecting ∧
      final.stored = .connected (0, 4) :=
  ⟨_, run_of_replay rfl, ⟨rfl, ⟨_, rfl⟩, rfl, rfl⟩, rfl, rfl⟩

end Lecoo.Gui
