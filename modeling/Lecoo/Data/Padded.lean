import Mathlib.Data.Nat.Basic
import Mathlib.Order.Lattice

namespace Lecoo.Data.Padded

/-! # Comparing sequences of different lengths

Two sequences are compared place by place, the shorter one padded with a blank.
How far beyond both ends the comparison goes does not matter, which makes three
sequences of three lengths comparable at one common length.
-/

open Std

variable {α : Type}

/-- What a sequence holds at a place, the blank beyond its end. -/
def entry (blank : α) (values : List α) (place : Nat) : α := values[place]?.getD blank

theorem entry_beyond {blank : α} {values : List α} {place : Nat}
    (beyond : values.length ≤ place) :
    entry blank values place = blank := by
  rw [entry, List.getElem?_eq_none beyond, Option.getD_none]

theorem entry_append_blanks (blank : α) (values : List α) (count place : Nat) :
    entry blank (values ++ List.replicate count blank) place = entry blank values place := by
  unfold entry
  by_cases within : place < values.length
  · rw [List.getElem?_append_left within]
  · rw [List.getElem?_append_right (by omega), List.getElem?_eq_none (l := values) (by omega),
      List.getElem?_replicate]
    split <;> rfl

/-- Values compared by what a function makes of them. -/
theorem trans_by {β : Type} (order : α → α → Ordering) [trans : TransCmp order] (read : β → α) :
    TransCmp (fun first second => order (read first) (read second)) where
  eq_swap := trans.eq_swap
  isLE_trans := trans.isLE_trans

variable [Ord α]

/-- The places below a length compared, the first ones first. -/
def compareBelow (first second : Nat → α) : Nat → Ordering
  | 0 => .eq
  | length + 1 => (compareBelow first second length).then (compare (first length) (second length))

instance compareBelow_trans [TransOrd α] (length : Nat) :
    TransCmp (fun first second : Nat → α => compareBelow first second length) := by
  induction length with
  | zero => exact { eq_swap := rfl, isLE_trans := fun before _ => before }
  | succ length earlier =>
      exact inferInstanceAs (TransCmp (compareLex
        (fun first second : Nat → α => compareBelow first second length)
        (compareOn fun values : Nat → α => values length)))

/-- Places where the two sides agree add nothing. -/
theorem compareBelow_settled [ReflOrd α] {first second : Nat → α} {length longer : Nat}
    (agree : ∀ place, length ≤ place → first place = second place) (reaches : length ≤ longer) :
    compareBelow first second longer = compareBelow first second length := by
  induction longer, reaches using Nat.le_induction with
  | base => rfl
  | succ longer reaches earlier =>
      rw [compareBelow, earlier, agree longer reaches, ReflOrd.compare_self, Ordering.then_eq]

theorem compareBelow_first (first second : Nat → α) (length : Nat) :
    compareBelow first second (length + 1) =
      (compare (first 0) (second 0)).then
        (compareBelow (fun place => first (place + 1)) (fun place => second (place + 1)) length) := by
  induction length with
  | zero => simp [compareBelow]
  | succ length earlier =>
      rw [compareBelow, earlier, Ordering.then_assoc]
      rfl

/-- A loop that stops at the first place where the two sides differ. -/
theorem loop_eq_compareBelow [LawfulEqOrd α] [DecidableEq α]
    (first second : Nat → α) (otherwise : Ordering) (length : Nat) :
    ((List.range length).findSome? fun place =>
        if first place ≠ second place then some (compare (first place) (second place))
        else none).getD otherwise =
      (compareBelow first second length).then otherwise := by
  induction length generalizing otherwise with
  | zero => rfl
  | succ length earlier =>
      rw [List.range_succ, List.findSome?_append, Option.getD_or, earlier, compareBelow,
        Ordering.then_assoc]
      congr 1
      by_cases agree : first length = second length
      · simp [agree]
      · have differ : compare (first length) (second length) ≠ .eq :=
          fun equal => agree (LawfulEqOrd.eq_of_compare equal)
        cases found : compare (first length) (second length) with
        | lt => simp [agree, found]
        | eq => exact absurd found differ
        | gt => simp [agree, found]

/-- Two sequences compared as if both went on with blanks. -/
def comparePadded (blank : α) (first second : List α) : Ordering :=
  compareBelow (entry blank first) (entry blank second) (max first.length second.length)

theorem comparePadded_eq_below [ReflOrd α] {blank : α} {first second : List α} {length : Nat}
    (covers : max first.length second.length ≤ length) :
    comparePadded blank first second =
      compareBelow (entry blank first) (entry blank second) length := by
  refine (compareBelow_settled ?_ covers).symm
  intro place beyond
  rw [entry_beyond (by omega), entry_beyond (by omega)]

instance comparePadded_trans [TransOrd α] (blank : α) : TransCmp (comparePadded blank) where
  eq_swap := by
    intro first second
    rw [comparePadded, comparePadded, Nat.max_comm]
    exact (compareBelow_trans _).eq_swap
  isLE_trans := by
    intro first second third before after
    have common : ∀ one other : List α, one.length ≤ first.length + second.length + third.length →
        other.length ≤ first.length + second.length + third.length →
        comparePadded blank one other = compareBelow (entry blank one) (entry blank other)
          (first.length + second.length + third.length) :=
      fun one other oneFits otherFits => comparePadded_eq_below (Nat.max_le.mpr ⟨oneFits, otherFits⟩)
    rw [common _ _ (by omega) (by omega)] at before after ⊢
    exact (compareBelow_trans _).isLE_trans before after

theorem comparePadded_append_blanks [ReflOrd α] (blank : α) (first second : List α) (count : Nat) :
    comparePadded blank (first ++ List.replicate count blank) second =
      comparePadded blank first second := by
  have entries : entry blank (first ++ List.replicate count blank) = entry blank first :=
    funext (entry_append_blanks blank first count)
  rw [comparePadded, entries]
  exact (comparePadded_eq_below (by simp only [List.length_append]; omega)).symm

@[simp] theorem comparePadded_nil_nil (blank : α) : comparePadded blank [] [] = .eq := rfl

@[simp] theorem comparePadded_cons (blank one other : α) (first second : List α) :
    comparePadded blank (one :: first) (other :: second) =
      (compare one other).then (comparePadded blank first second) := by
  rw [comparePadded, List.length_cons, List.length_cons, Nat.succ_max_succ, compareBelow_first]
  rfl

@[simp] theorem comparePadded_cons_nil [ReflOrd α] (blank one : α) (first : List α) :
    comparePadded blank (one :: first) [] =
      (compare one blank).then (comparePadded blank first []) := by
  rw [comparePadded, List.length_cons, List.length_nil, Nat.max_zero, compareBelow_first,
    comparePadded, List.length_nil, Nat.max_zero]
  rfl

/-- Against nothing, a sequence is ahead as soon as one of its places is not blank. -/
theorem comparePadded_nil [LawfulEqOrd α] [DecidableEq α] {blank : α}
    (least : ∀ value, compare value blank ≠ .lt) (values : List α) :
    comparePadded blank values [] = if ∀ value ∈ values, value = blank then .eq else .gt := by
  induction values with
  | nil => rfl
  | cons value values earlier =>
      rw [comparePadded_cons_nil, earlier]
      by_cases isBlank : value = blank
      · simp [isBlank]
      · have ahead : compare value blank = .gt := by
          cases found : compare value blank with
          | lt => exact absurd found (least value)
          | eq => exact absurd (LawfulEqOrd.eq_of_compare found) isBlank
          | gt => rfl
        simp [isBlank, ahead]

end Lecoo.Data.Padded
