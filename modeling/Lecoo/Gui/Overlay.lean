import Lecoo.Gui.Status
import Mathlib.Data.List.Infix

namespace Lecoo.Gui

open Lecoo.Data Lecoo.Ipc Lecoo.Effects

/-! # What the overlay says of a connection that failed -/

/-- An error of the `anyhow` crate: the context it was given, and what it is about. -/
structure AnyhowError where
  context : String
  source : IoError
deriving Repr, DecidableEq

/-- An error is displayed by its outermost context. -/
def AnyhowError.toString (error : AnyhowError) : String := error.context

/-- `Context::context` -/
def withContext {α : Type} (context : String) : Except IoError α → Except AnyhowError α
  | .ok value => .ok value
  | .error source => .error { context, source }

/-- `IpcClient::connect` of the GUI, from what the connection of the protocol gave. -/
def connectDaemon (inner : Except IoError (UInt8 × UInt8)) :
    Except AnyhowError (UInt8 × UInt8) :=
  withContext "daemon not reachable" inner

/-- The status the poller publishes after an attempt to connect. -/
def statusAfter : Except AnyhowError (UInt8 × UInt8) → ConnectionStatus
  | .ok version => .connected version
  | .error error => .error error.toString

/-- A text without capitals inside another one, whatever the case of the letters there. -/
def containsIgnoringCase (word text : String) : Bool :=
  (text.toList.map Char.toLower).tails.any word.toList.isPrefixOf

/-- `/mismatch/i.test(status.message)` -/
def isMismatch : StatusView → Bool
  | .error message => containsIgnoringCase "mismatch" message
  | _ => false

structure OverlayTexts where
  title : String
  body : String
  detail : Option String
deriving Repr, DecidableEq

/-- What the overlay shows, in the language of the given translation; nothing while
the daemon is connected. -/
def daemonOverlay (t : String → String) (status : StatusView) : Option OverlayTexts :=
  match status with
  | .connected _ => none
  | _ =>
      some {
        title :=
          if isMismatch status then t "daemon_overlay.mismatch_title"
          else
            match status with
            | .error _ => t "daemon_overlay.error_title"
            | .connecting => t "daemon_overlay.connecting_title"
            | _ => t "daemon_overlay.disconnected_title"
        body :=
          if isMismatch status then t "daemon_overlay.mismatch_body"
          else t "daemon_overlay.body"
        detail :=
          match status with
          | .error message => some message
          | _ => none
      }

/-- One attempt: nobody listens and the pipe cannot be opened, or a daemon answers
the handshake. -/
inductive Attempt (gui : Version) : Option Version → Except IoError (UInt8 × UInt8) → Prop where
  | unreachable (error : IoError) : Attempt gui none (.error error)
  | shaken {daemon : Version} {connected : Except IoError (UInt8 × UInt8)}
      {accepted : Except IoError Unit} (shaken : Handshake gui daemon connected accepted) :
      Attempt gui (some daemon) connected

/-- What the overlay has of the status published after an attempt. -/
def viewAfter (inner : Except IoError (UInt8 × UInt8)) : Option StatusView :=
  StatusView.ofJson (statusAfter (connectDaemon inner)).toJson

/-- A daemon of another version is reported as one, and one that is not there is not. -/
def Reported (gui : Version) (listening : Option Version)
    (inner : Except IoError (UInt8 × UInt8)) : Prop :=
  (∀ daemon, listening = some daemon → ¬ gui.Agrees daemon →
    ∃ view, viewAfter inner = some view ∧ isMismatch view = true ∧
      ∀ t, ∃ texts, daemonOverlay t view = some texts ∧
        texts.title = t "daemon_overlay.mismatch_title" ∧
        texts.body = t "daemon_overlay.mismatch_body") ∧
  (listening = none → ∃ view, viewAfter inner = some view ∧ isMismatch view = false)

/-- Whatever went wrong, the view has the outermost context of it. -/
theorem viewAfter_error (error : IoError) :
    viewAfter (.error error) = some (.error "daemon not reachable") := rfl

theorem not_isMismatch_unreachable : isMismatch (.error "daemon not reachable") = false := by
  decide

theorem reported_iff {gui : Version} {listening : Option Version}
    {inner : Except IoError (UInt8 × UInt8)} (attempt : Attempt gui listening inner) :
    Reported gui listening inner ↔ ∀ daemon, listening = some daemon → gui.Agrees daemon := by
  have overlooked : ∀ error : IoError, ¬ ∃ view, viewAfter (.error error) = some view ∧
      isMismatch view = true := by
    intro error ⟨view, shown, mismatch⟩
    rw [viewAfter_error] at shown
    cases shown
    rw [not_isMismatch_unreachable] at mismatch
    cases mismatch
  cases attempt with
  | unreachable error =>
      refine iff_of_true ⟨?_, ?_⟩ ?_
      · intro daemon impossible
        cases impossible
      · intro _
        exact ⟨_, viewAfter_error error, not_isMismatch_unreachable⟩
      · intro daemon impossible
        cases impossible
  | shaken shaken =>
      rename_i daemon accepted
      constructor
      · intro ⟨mismatched, _⟩ daemon same
        cases same
        by_contra differs
        obtain ⟨view, shown, mismatch, _⟩ := mismatched daemon rfl differs
        rw [shaken.refused differs] at shown
        exact overlooked _ ⟨view, shown, mismatch⟩
      · intro agrees
        refine ⟨?_, ?_⟩
        · intro daemon' same differs
          exact absurd (agrees daemon' same) differs
        · intro impossible
          cases impossible

/-- An older GUI and a daemon of the next version shake hands: the refusal the daemon
sends ends as a daemon that cannot be reached. -/
theorem mismatch_not_reported :
    ∃ inner, Attempt ⟨0, 4, 0⟩ (some ⟨0, 5, 0⟩) inner ∧
      ¬ Reported ⟨0, 4, 0⟩ (some ⟨0, 5, 0⟩) inner ∧
      inner = .error (refusal ⟨0, 4, 0⟩ 0 5) ∧
      viewAfter inner = some (.error "daemon not reachable") := by
  have shaken : Handshake ⟨0, 4, 0⟩ ⟨0, 5, 0⟩ (.error (refusal ⟨0, 4, 0⟩ 0 5)) _ := {
    streams := ⟨[], [], ⟨[], [76, 67, 67, 0, 4]⟩, ⟨[], [69, 82, 82, 0, 5]⟩,
      Program.run_runs _ [5, 5, 5] _, Program.run_runs _ [5, 5, 5] _⟩ }
  refine ⟨_, .shaken shaken, ?_, rfl, rfl⟩
  intro ⟨mismatched, _⟩
  obtain ⟨view, shown, mismatch, _⟩ := mismatched ⟨0, 5, 0⟩ rfl (by decide)
  rw [viewAfter_error] at shown
  cases shown
  rw [not_isMismatch_unreachable] at mismatch
  cases mismatch

theorem reported_iff_patchLevels :
    Reported ⟨0, 4, 0⟩ (some ⟨0, 4, 7⟩) (.ok (0, 4)) := by
  have shaken : Handshake ⟨0, 4, 0⟩ ⟨0, 4, 7⟩ (.ok (0, 4)) (.ok ()) := {
    streams := ⟨[], [], ⟨[], [76, 67, 67, 0, 4]⟩, ⟨[], [79, 75, 75, 0, 4]⟩,
      Program.run_runs _ [5, 5, 5] _, Program.run_runs _ [5, 5, 5] _⟩ }
  refine (reported_iff (.shaken shaken)).mpr ?_
  intro daemon same
  cases same
  decide

end Lecoo.Gui
