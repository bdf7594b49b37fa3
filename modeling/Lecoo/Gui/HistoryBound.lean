import Lecoo.Gui.TelemetryHistory
import Mathlib.Data.List.DropRight

namespace Lecoo.Gui

/-! # How long the history grows -/

variable {R : Type}

/-- The calls of the store's functions. -/
inductive StoreCall (R : Type) where
  | push (s : TelemetrySample R)
  | setMaxHistory (n : Int)
deriving Repr, DecidableEq

def StoreCall.apply (state : TelemetryStore R) : StoreCall R → TelemetryStore R
  | .push s => state.push s
  | .setMaxHistory n => state.setMaxHistory n

def storeAfter (calls : List (StoreCall R)) : TelemetryStore R :=
  calls.foldl StoreCall.apply .initial

/-- The samples pushed by the calls, in order. -/
def pushedBy (calls : List (StoreCall R)) : List (TelemetrySample R) :=
  calls.filterMap fun
    | .push s => some s
    | .setMaxHistory _ => none

@[simp] theorem storeAfter_push (calls : List (StoreCall R)) (s : TelemetrySample R) :
    storeAfter (calls ++ [.push s]) = (storeAfter calls).push s := by
  simp [storeAfter, StoreCall.apply]

@[simp] theorem storeAfter_setMaxHistory (calls : List (StoreCall R)) (n : Int) :
    storeAfter (calls ++ [.setMaxHistory n]) = (storeAfter calls).setMaxHistory n := by
  simp [storeAfter, StoreCall.apply]

@[simp] theorem pushedBy_push (calls : List (StoreCall R)) (s : TelemetrySample R) :
    pushedBy (calls ++ [.push s]) = pushedBy calls ++ [s] := by
  simp [pushedBy]

@[simp] theorem pushedBy_setMaxHistory (calls : List (StoreCall R)) (n : Int) :
    pushedBy (calls ++ [.setMaxHistory n]) = pushedBy calls := by
  simp [pushedBy]

/-- A window of less than a minute is widened to one. -/
theorem setMaxHistory_maxHistory (state : TelemetryStore R) (n : Int) :
    ((state.setMaxHistory n).maxHistory : Int) = max 60 n := by
  change ((max 60 n).toNat : Int) = max 60 n
  omega

theorem push_history_eq_rtake (state : TelemetryStore R) (s : TelemetrySample R)
    (room : 0 < state.maxHistory) :
    (state.push s).history = (state.history ++ [s]).rtake state.maxHistory := by
  unfold TelemetryStore.push List.rtake
  by_cases full : state.history.length ≥ state.maxHistory
  · have excess : (state.history ++ [s]).length - state.maxHistory =
        state.history.length - state.maxHistory + 1 := by
      simp only [List.length_append, List.length_singleton]
      omega
    simp only [full, if_true]
    rw [excess, List.drop_append_of_le_length (by omega)]
  · have excess : (state.history ++ [s]).length - state.maxHistory = 0 := by
      simp only [List.length_append, List.length_singleton]
      omega
    simp only [full, if_false]
    rw [excess, List.drop_zero]

theorem push_history_length (state : TelemetryStore R) (s : TelemetrySample R)
    (room : 0 < state.maxHistory) :
    (state.push s).history.length = min (state.history.length + 1) state.maxHistory := by
  rw [push_history_eq_rtake state s room, List.rtake, List.length_drop, List.length_append,
    List.length_singleton]
  omega

/-- What every call keeps: room for a minute, and nothing but the newest samples. -/
theorem storeAfter_recent (calls : List (StoreCall R)) :
    60 ≤ (storeAfter calls).maxHistory ∧ (storeAfter calls).history <:+ pushedBy calls := by
  induction calls using List.reverseRecOn with
  | nil => exact ⟨(by decide : 60 ≤ defaultMaxHistory), List.suffix_refl []⟩
  | append_singleton calls call before =>
      obtain ⟨room, suffix⟩ := before
      cases call with
      | push s =>
          obtain ⟨kept, shape, keptSuffix, _⟩ := push_history (storeAfter calls) s room
          obtain ⟨dropped, whole⟩ := keptSuffix.trans suffix
          rw [storeAfter_push, pushedBy_push, shape]
          exact ⟨room, dropped, by rw [← List.append_assoc, whole]⟩
      | setMaxHistory n =>
          have bound := setMaxHistory_maxHistory (storeAfter calls) n
          rw [storeAfter_setMaxHistory, pushedBy_setMaxHistory]
          exact ⟨by omega, suffix⟩

/-- However the bound is changed, a push keeps exactly the newest samples; another bound
takes effect with the next push. -/
theorem storeAfter_newest (calls : List (StoreCall R)) :
    60 ≤ (storeAfter calls).maxHistory ∧
      (∀ n, let before := storeAfter calls
        let after := storeAfter (calls ++ [.setMaxHistory n])
        (after.maxHistory : Int) = max 60 n ∧ after.history = before.history ∧
          after.latest = before.latest) ∧
      ∀ s, let before := storeAfter calls
        let after := storeAfter (calls ++ [.push s])
        after.history <:+ pushedBy (calls ++ [.push s]) ∧
          after.history.getLast? = some s ∧
          (∃ removed kept, before.history = removed ++ kept ∧ after.history = kept ++ [s]) ∧
          after.history.length = min (before.history.length + 1) before.maxHistory ∧
          after.maxHistory = before.maxHistory := by
  obtain ⟨room, _⟩ := storeAfter_recent calls
  refine ⟨room, fun n => ?_, fun s => ?_⟩
  · rw [storeAfter_setMaxHistory]
    exact ⟨setMaxHistory_maxHistory _ n, rfl, rfl⟩
  obtain ⟨kept, shape, ⟨removed, whole⟩, _⟩ := push_history (storeAfter calls) s room
  refine ⟨(storeAfter_recent _).2, ?_, ⟨removed, kept, whole.symm, ?_⟩, ?_, ?_⟩
  · rw [storeAfter_push, shape, List.getLast?_concat]
  · rw [storeAfter_push, shape]
  · rw [storeAfter_push, push_history_length _ s (by omega)]
  · rw [storeAfter_push]
    rfl

end Lecoo.Gui
