import Mathlib.Logic.Function.Basic

namespace Lecoo.Data

/-! # Cells and sequences of writes

A memory is a total map from cells to values.  What a sequence of writes leaves
behind is decided cell by cell, by the last write to that cell.
-/

abbrev Memory (A V : Type) := A → V

namespace Memory

variable {A B V : Type} [DecidableEq A] [DecidableEq B]

def write (memory : Memory A V) (cell : A) (value : V) : Memory A V :=
  Function.update memory cell value

def writeAll (memory : Memory A V) : List (A × V) → Memory A V
  | [] => memory
  | (cell, value) :: writes => (memory.write cell value).writeAll writes

def Holds (memory : Memory A V) (contents : List (A × V)) : Prop :=
  ∀ entry ∈ contents, memory entry.1 = entry.2

instance [DecidableEq V] (memory : Memory A V) (contents : List (A × V)) :
    Decidable (memory.Holds contents) :=
  inferInstanceAs (Decidable (∀ entry ∈ contents, memory entry.1 = entry.2))

variable {memory other : Memory A V} {cell : A} {value : V} {writes : List (A × V)}

@[simp] theorem write_same : memory.write cell value cell = value := by simp [write]

@[simp] theorem write_other {target : A} (different : cell ≠ target) :
    memory.write target value cell = memory cell := by
  simp [write, different]

theorem write_apply (memory : Memory A V) (target : A) (value : V) (cell : A) :
    memory.write target value cell = if cell = target then value else memory cell := by
  simp [write, Function.update_apply]

@[simp] theorem writeAll_nil : memory.writeAll [] = memory := rfl

@[simp] theorem writeAll_cons (memory : Memory A V) (cell : A) (value : V)
    (writes : List (A × V)) :
    memory.writeAll ((cell, value) :: writes) = (memory.write cell value).writeAll writes := rfl

theorem writeAll_append (memory : Memory A V) (first second : List (A × V)) :
    memory.writeAll (first ++ second) = (memory.writeAll first).writeAll second := by
  induction first generalizing memory with
  | nil => rfl
  | cons entry first ih => exact ih _

theorem writeAll_frame (memory : Memory A V) (untouched : ∀ entry ∈ writes, entry.1 ≠ cell) :
    memory.writeAll writes cell = memory cell := by
  induction writes generalizing memory with
  | nil => rfl
  | cons entry writes ih =>
      obtain ⟨target, value⟩ := entry
      rw [writeAll_cons, ih _ fun next member => untouched next (by simp [member])]
      exact write_other fun same => untouched (target, value) (by simp) same.symm

theorem writeAll_congr (writes : List (A × V)) (agree : memory cell = other cell) :
    memory.writeAll writes cell = other.writeAll writes cell := by
  induction writes generalizing memory other with
  | nil => exact agree
  | cons entry writes ih =>
      apply ih
      simp only [write_apply, agree]

/-- What a prefix of the writes leaves in a cell is its old value or one of the
values the writes put there. -/
theorem writeAll_old_or_written (memory : Memory A V) (writes : List (A × V)) (cell : A) :
    memory.writeAll writes cell = memory cell ∨
      (cell, memory.writeAll writes cell) ∈ writes := by
  induction writes generalizing memory with
  | nil => exact .inl rfl
  | cons entry writes ih =>
      obtain ⟨target, value⟩ := entry
      rw [writeAll_cons]
      rcases ih (memory.write target value) with kept | written
      · by_cases same : cell = target
        · subst same
          right
          rw [kept, write_same]
          exact List.mem_cons_self
        · left
          rw [kept, write_other same]
      · exact .inr (List.mem_cons_of_mem _ written)

/-- A cell that shares its place with no written cell reads as in the placed view. -/
theorem writeAll_placed (memory : Memory B V) {place : A → B}
    (alone : ∀ entry ∈ writes, place entry.1 = place cell → entry.1 = cell) :
    memory.writeAll (writes.map fun entry => (place entry.1, entry.2)) (place cell) =
      Memory.writeAll (fun cell => memory (place cell)) writes cell := by
  induction writes generalizing memory with
  | nil => rfl
  | cons entry writes ih =>
      obtain ⟨target, value⟩ := entry
      simp only [List.map_cons, writeAll_cons]
      rw [ih _ fun next member => alone next (List.mem_cons_of_mem _ member)]
      apply writeAll_congr
      by_cases same : cell = target
      · rw [same, write_same, write_same]
      · rw [write_other same, write_other fun shared =>
          same (alone (target, value) List.mem_cons_self shared.symm).symm]

end Memory

end Lecoo.Data
