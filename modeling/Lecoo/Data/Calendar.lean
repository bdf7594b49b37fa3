import Mathlib.Logic.Function.Iterate
import Mathlib.Tactic.IntervalCases

namespace Lecoo.Data.Calendar

/-! # The proleptic Gregorian calendar

Dates before and after any year by one leap rule, the date that follows a date, and
the number of a day counted from 1970-01-01.
-/

/-- Every fourth year, but of the centuries only every fourth one. -/
def LeapYear (year : Int) : Prop := year % 4 = 0 ∧ (year % 100 ≠ 0 ∨ year % 400 = 0)

instance (year : Int) : Decidable (LeapYear year) := inferInstanceAs (Decidable (_ ∧ _))

def monthLength (year : Int) : Nat → Nat
  | 1 | 3 | 5 | 7 | 8 | 10 | 12 => 31
  | 4 | 6 | 9 | 11 => 30
  | 2 => if LeapYear year then 29 else 28
  | _ => 0

/-- The days of a year before a month. -/
def daysBefore (year : Int) : Nat → Nat
  | 0 => 0
  | month + 1 => daysBefore year month + monthLength year month

def yearLength (year : Int) : Nat := if LeapYear year then 366 else 365

/-- The days from 1970-01-01 to the first day of a year: the leap days up to 1969 are 477. -/
def yearStart (year : Int) : Int :=
  365 * (year - 1970) + (year - 1) / 4 - (year - 1) / 100 + (year - 1) / 400 - 477

structure CivilDate where
  year : Int
  month : Nat
  day : Nat
  monthValid : 1 ≤ month ∧ month ≤ 12
  dayValid : 1 ≤ day ∧ day ≤ monthLength year month
deriving Repr, DecidableEq

theorem monthLength_pos (year : Int) {month : Nat} (valid : 1 ≤ month ∧ month ≤ 12) :
    1 ≤ monthLength year month := by
  obtain ⟨lower, upper⟩ := valid
  interval_cases month <;> simp [monthLength]
  split <;> decide

theorem monthLength_february (year : Int) : monthLength year 2 ≤ 29 := by
  simp only [monthLength]
  split <;> decide

def epoch : CivilDate where
  year := 1970
  month := 1
  day := 1
  monthValid := by decide
  dayValid := by decide

def CivilDate.next (date : CivilDate) : CivilDate :=
  if withinMonth : date.day < monthLength date.year date.month then
    { date with day := date.day + 1, dayValid := ⟨by omega, withinMonth⟩ }
  else if withinYear : date.month < 12 then
    { year := date.year
      month := date.month + 1
      day := 1
      monthValid := ⟨by omega, withinYear⟩
      dayValid := ⟨Nat.le_refl 1, monthLength_pos _ ⟨by omega, withinYear⟩⟩ }
  else
    { year := date.year + 1
      month := 1
      day := 1
      monthValid := by decide
      dayValid := ⟨Nat.le_refl 1, monthLength_pos _ (by decide)⟩ }

/-- The date a number of days after 1970-01-01. -/
def dateAfter (days : Nat) : CivilDate := CivilDate.next^[days] epoch

/-- The number of a date's day, 1970-01-01 being day 0. -/
def CivilDate.dayNumber (date : CivilDate) : Int :=
  yearStart date.year + daysBefore date.year date.month + date.day - 1

@[simp] theorem dateAfter_zero : dateAfter 0 = epoch := rfl

theorem dateAfter_succ (days : Nat) : dateAfter (days + 1) = (dateAfter days).next :=
  Function.iterate_succ_apply' _ _ _

theorem yearStart_succ (year : Int) : yearStart (year + 1) = yearStart year + yearLength year := by
  by_cases leap : LeapYear year
  · simp only [yearStart, yearLength, if_pos leap]
    unfold LeapYear at leap
    omega
  · simp only [yearStart, yearLength, if_neg leap]
    unfold LeapYear at leap
    omega

theorem yearStart_mono {early late : Int} (order : early ≤ late) :
    yearStart early ≤ yearStart late := by
  induction late, order using Int.leInduction with
  | base => exact Int.le_refl _
  | succ late _ before =>
      rw [yearStart_succ]
      omega

theorem daysBefore_december (year : Int) : daysBefore year 12 + 31 = yearLength year := by
  simp only [daysBefore, monthLength, yearLength]
  split <;> rfl

theorem daysBefore_mono (year : Int) {early late : Nat} (order : early ≤ late) :
    daysBefore year early ≤ daysBefore year late := by
  induction late, order using Nat.le_induction with
  | base => exact Nat.le_refl _
  | succ late _ before => exact Nat.le_trans before (Nat.le_add_right _ _)

theorem daysBefore_lt {year : Int} {early late day : Nat} (order : early < late)
    (within : day ≤ monthLength year early) :
    daysBefore year early + day ≤ daysBefore year late :=
  Nat.le_trans (Nat.add_le_add_left within _) (daysBefore_mono year order)

theorem CivilDate.yearStart_le (date : CivilDate) : yearStart date.year ≤ date.dayNumber := by
  have first := date.dayValid.1
  unfold dayNumber
  omega

theorem CivilDate.dayNumber_lt (date : CivilDate) :
    date.dayNumber < yearStart (date.year + 1) := by
  have within : daysBefore date.year date.month + date.day ≤ daysBefore date.year 12 + 31 := by
    have last := date.dayValid.2
    by_cases december : date.month = 12
    · rw [december] at last ⊢
      exact Nat.add_le_add_left last _
    · have earlier := daysBefore_lt
        (Nat.lt_of_le_of_ne date.monthValid.2 december) last
      omega
  have december := daysBefore_december date.year
  rw [yearStart_succ, dayNumber]
  omega

theorem CivilDate.ext {first second : CivilDate} (year : first.year = second.year)
    (month : first.month = second.month) (day : first.day = second.day) : first = second := by
  cases first
  cases second
  simp_all

/-- Two dates with one number have one year, then one month, then one day. -/
theorem CivilDate.dayNumber_injective {first second : CivilDate}
    (same : first.dayNumber = second.dayNumber) : first = second := by
  have year : first.year = second.year := by
    have ordered {early late : CivilDate} (order : early.year < late.year) :
        early.dayNumber < late.dayNumber :=
      Int.lt_of_lt_of_le (Int.lt_of_lt_of_le early.dayNumber_lt (yearStart_mono order))
        late.yearStart_le
    by_contra different
    obtain before | after := Int.lt_or_gt_of_ne different
    · exact Int.ne_of_lt (ordered before) same
    · exact Int.ne_of_gt (ordered after) same
  have month : first.month = second.month := by
    by_contra different
    unfold dayNumber at same
    rw [year] at same
    obtain before | after := Nat.lt_or_gt_of_ne different
    · have earlier := daysBefore_lt before (year ▸ first.dayValid.2)
      have start := second.dayValid.1
      omega
    · have earlier := daysBefore_lt after second.dayValid.2
      have start := first.dayValid.1
      omega
  unfold dayNumber at same
  rw [year, month] at same
  exact CivilDate.ext year month (by omega)

theorem CivilDate.dayNumber_next (date : CivilDate) :
    date.next.dayNumber = date.dayNumber + 1 := by
  have last := date.dayValid.2
  unfold next
  by_cases withinMonth : date.day < monthLength date.year date.month
  · simp only [withinMonth, dif_pos, dayNumber]
    omega
  by_cases withinYear : date.month < 12
  · simp only [withinMonth, withinYear, dif_pos, dif_neg, not_false_eq_true, dayNumber, daysBefore]
    omega
  · have december : date.month = 12 := by
      have upper := date.monthValid.2
      omega
    have length := daysBefore_december date.year
    simp only [withinMonth, withinYear, dif_neg, not_false_eq_true, dayNumber, yearStart_succ]
    rw [december] at withinMonth last ⊢
    have ended : date.day = 31 := Nat.le_antisymm last (Nat.le_of_not_lt withinMonth)
    have first : daysBefore (date.year + 1) 1 = 0 := rfl
    omega

theorem dayNumber_dateAfter (days : Nat) : (dateAfter days).dayNumber = days := by
  induction days with
  | zero => decide
  | succ days before =>
      rw [dateAfter_succ, CivilDate.dayNumber_next, before]
      rfl

theorem dateAfter_dayNumber {date : CivilDate} {days : Nat} (number : date.dayNumber = days) :
    dateAfter days = date :=
  CivilDate.dayNumber_injective ((dayNumber_dateAfter days).trans number.symm)

/-- The number of a year's first of March. -/
def marchStart (year : Int) : Int := yearStart year + daysBefore year 3

theorem daysBefore_fromMarch (year : Int) {month : Nat} (within : month < 10) :
    daysBefore year (month + 3) = daysBefore year 3 + (153 * month + 2) / 5 := by
  interval_cases month <;> rfl

theorem monthLength_fromMarch (year : Int) {month : Nat} (within : month < 10) :
    monthLength year (month + 3) = (153 * (month + 1) + 2) / 5 - (153 * month + 2) / 5 := by
  interval_cases month <;> rfl

theorem yearStart_afterMarch (year : Int) : yearStart (year + 1) = marchStart year + 306 := by
  have december := daysBefore_december year
  rw [show (12 : Nat) = 9 + 3 from rfl, daysBefore_fromMarch year (by decide)] at december
  rw [yearStart_succ, marchStart]
  omega

theorem daysBefore_march (year : Int) : daysBefore year 3 = if LeapYear year then 60 else 59 := by
  simp only [daysBefore, monthLength]
  split <;> rfl

/-- The date a number of days after the first of March. -/
theorem fromMarch (year : Int) {doy mp : Nat} (within : doy < 337 + monthLength (year + 1) 2)
    (month : mp = (5 * doy + 2) / 153) :
    ∃ date : CivilDate, date.month = (if mp < 10 then mp + 3 else mp - 9) ∧
      date.day = doy - (153 * mp + 2) / 5 + 1 ∧
      date.year = (if date.month ≤ 2 then year + 1 else year) ∧
      date.dayNumber = marchStart year + doy := by
  have february := monthLength_february (year + 1)
  have started : (153 * mp + 2) / 5 ≤ doy := by omega
  by_cases sameYear : mp < 10
  · have length := monthLength_fromMarch year sameYear
    have before := daysBefore_fromMarch year sameYear
    refine ⟨⟨year, mp + 3, doy - (153 * mp + 2) / 5 + 1, by omega, by omega⟩,
      (if_pos sameYear).symm, rfl, (if_neg (by simp)).symm, ?_⟩
    simp only [CivilDate.dayNumber, marchStart, before]
    omega
  · have next := yearStart_afterMarch year
    have lengths : doy - (153 * mp + 2) / 5 + 1 ≤ monthLength (year + 1) (mp - 9) ∧
        daysBefore (year + 1) (mp - 9) + 306 = (153 * mp + 2) / 5 := by
      obtain january | february : mp = 10 ∨ mp = 11 := by omega
      · rw [january]
        exact ⟨by simp only [monthLength]; omega, rfl⟩
      · rw [february]
        exact ⟨by change _ ≤ monthLength (year + 1) 2; omega, rfl⟩
    refine ⟨⟨year + 1, mp - 9, doy - (153 * mp + 2) / 5 + 1, by omega, by omega⟩,
      (if_neg sameYear).symm, rfl, (if_pos (by simp only; omega)).symm, ?_⟩
    simp only [CivilDate.dayNumber, next]
    omega

/-- The days of an era before one of its March-based years. -/
def yearOffset (yoe : Nat) : Nat := 365 * yoe + yoe / 4 - yoe / 100 + yoe / 400

theorem marchStart_era (era : Int) {yoe : Nat} (within : yoe < 400) :
    marchStart (yoe + era * 400) = 146097 * era + yearOffset yoe - 719468 := by
  have leap : LeapYear (yoe + era * 400) ↔ yoe % 4 = 0 ∧ (yoe % 100 ≠ 0 ∨ yoe % 400 = 0) := by
    unfold LeapYear
    omega
  rw [marchStart, daysBefore_march]
  simp only [leap]
  unfold yearStart yearOffset
  split <;> omega

/-- Only a leap year's February has a day more. -/
theorem yearOffset_succ (era : Int) {yoe : Nat} (within : yoe < 400) :
    yearOffset (yoe + 1) = yearOffset yoe + 337 + monthLength (yoe + era * 400 + 1) 2 := by
  have leap : LeapYear (yoe + era * 400 + 1) ↔
      (yoe + 1) % 4 = 0 ∧ ((yoe + 1) % 100 ≠ 0 ∨ (yoe + 1) % 400 = 0) := by
    unfold LeapYear
    omega
  simp only [monthLength, leap]
  unfold yearOffset
  split <;> omega

end Lecoo.Data.Calendar
