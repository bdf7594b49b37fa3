import Lecoo.Data.Calendar

namespace Lecoo.Gui

open Lecoo.Data.Calendar

/-! # The day of the log file -/

/-- The result of an operation on `u32`, none where it leaves the range. -/
def u32 (exact : Int) : Option Nat :=
  if 0 ≤ exact ∧ exact.toNat < 4294967296 then some exact.toNat else none

/-- The result of an operation on `i64`, none where it leaves the range. -/
def i64 (exact : Int) : Option Int :=
  if -9223372036854775808 ≤ exact ∧ exact ≤ 9223372036854775807 then some exact else none

def asU32 (wide : Int) : Nat := (wide % 4294967296).toNat

def asI32 (wide : Int) : Int := wide.bmod 4294967296

/-- The first half of `civil_from_days`: the year that begins in March, and the day of it.
Every operation that may leave its type's range is checked; where a product is only added
to, the sum is. -/
def marchYearAndDay (z : Int) : Option (Int × Nat) := do
  let z ← i64 (z + 719468)
  let era := z / 146097
  let doe := asU32 (z % 146097)
  let yearDays ← u32 (doe - doe / 1460)
  let yearDays ← u32 (yearDays + doe / 36524)
  let yearDays ← u32 (yearDays - doe / 146096)
  let yoe := yearDays / 365
  let y ← i64 (yoe + (← i64 (era * 400)))
  let start ← u32 (365 * yoe + yoe / 4)
  let start ← u32 (start - yoe / 100)
  return (y, ← u32 (doe - start))

/-- The second half: the month and the day of it, and the year that begins in January. -/
def civilOfMarch (y : Int) (doy : Nat) : Option (Int × Nat × Nat) := do
  let mp := (← u32 (5 * doy + 2)) / 153
  let monthStart := (← u32 (153 * mp + 2)) / 5
  let d ← u32 ((← u32 (doy - monthStart)) + 1)
  let m ← u32 (if mp < 10 then mp + 3 else mp - 9)
  let y ← i64 (if m ≤ 2 then y + 1 else y)
  return (asI32 y, m, d)

def civilFromDays (z : Int) : Option (Int × Nat × Nat) := do
  let (y, doy) ← marchYearAndDay z
  civilOfMarch y doy

/-- A number formatted with a least width, zeros between the sign and the digits. -/
def zeroPadded (width : Nat) (value : Int) : String :=
  let sign := if value < 0 then ['-'] else []
  let digits := Nat.toDigits 10 value.natAbs
  String.ofList
    (sign ++ List.replicate (width - sign.length - digits.length) '0' ++ digits)

/-- The time since the epoch in seconds, where the clock is not set before it. -/
def chronoToday (sinceEpoch : Option Nat) : Option String := do
  let secs := sinceEpoch.getD 0
  let (y, m, d) ← civilFromDays (secs / 86400 : Nat)
  return zeroPadded 4 y ++ "-" ++ zeroPadded 2 m ++ "-" ++ zeroPadded 2 d

/-- The days of an era up to one of its days, its leap days left out. -/
def commonDays (doe : Nat) : Nat := doe - doe / 1460 + doe / 36524 - doe / 146096

theorem commonDays_mono {early late : Nat} (order : early ≤ late) :
    commonDays early ≤ commonDays late := by
  unfold commonDays
  induction late, order using Nat.le_induction with
  | base => exact Nat.le_refl _
  | succ late _ before => omega

/-- Years begin and end where the formula changes. -/
theorem commonDays_year : ∀ yoe < 400, 365 * yoe ≤ commonDays (yearOffset yoe) ∧
    commonDays (yearOffset (yoe + 1) - 1) < 365 * (yoe + 1) := by
  decide +kernel

theorem yearOfEra {doe : Nat} (within : doe < 146097) :
    commonDays doe / 365 < 400 ∧ yearOffset (commonDays doe / 365) ≤ doe ∧
      doe < yearOffset (commonDays doe / 365 + 1) := by
  have last : commonDays doe / 365 < 400 := by
    have most := commonDays_mono (Nat.le_of_lt_succ within)
    have total : commonDays 146096 = 145999 := rfl
    omega
  obtain ⟨begins, ends⟩ := commonDays_year _ last
  refine ⟨last, ?_, ?_⟩
  · by_contra later
    cases year : commonDays doe / 365 with
    | zero => simp [year, yearOffset] at later
    | succ earlier =>
        rw [year] at later
        have bounded := (commonDays_year earlier (by omega)).2
        have order := commonDays_mono (show doe ≤ yearOffset (earlier + 1) - 1 by omega)
        omega
  · by_contra earlier
    by_cases final : commonDays doe / 365 = 399
    · rw [final] at earlier
      exact earlier within
    · have bounded := (commonDays_year (commonDays doe / 365 + 1) (by omega)).1
      have order := commonDays_mono (Nat.le_of_not_lt earlier)
      omega

theorem u32_of_eq {exact : Int} {value : Nat} (same : exact = value) (fits : value ≤ 4294967295) :
    u32 exact = some value := by
  rw [u32, if_pos (by omega), same, Int.toNat_natCast]

theorem i64_of_bounds {exact : Int} (lower : -9223372036854775808 ≤ exact)
    (upper : exact ≤ 9223372036854775807) : i64 exact = some exact :=
  if_pos ⟨lower, upper⟩

theorem marchYearAndDay_run {z : Int} (counted : 0 ≤ z) (bounded : z < 9000000000000000000) :
    ∃ year doy, marchYearAndDay z = some (year, doy) ∧ 0 ≤ year ∧ year < 9000000000000000000 ∧
      doy < 337 + monthLength (year + 1) 2 ∧ marchStart year + doy = z := by
  have shifted : i64 (z + 719468) = some (z + 719468) := i64_of_bounds (by omega) (by omega)
  generalize split : z + 719468 = days at shifted
  obtain ⟨doe, remainder⟩ := Int.eq_ofNat_of_zero_le (Int.emod_nonneg days (b := 146097) (by decide))
  have within : doe < 146097 := by omega
  have narrowed : asU32 (days % 146097) = doe := by
    unfold asU32
    omega
  obtain ⟨last, begins, ends⟩ := yearOfEra within
  generalize year : commonDays doe / 365 = yoe at last begins ends
  have next := yearOffset_succ (days / 146097) last
  have started := marchStart_era (days / 146097) last
  have offset : yearOffset yoe = 365 * yoe + yoe / 4 - yoe / 100 := by
    unfold yearOffset
    omega
  have fourths : u32 (doe - doe / 1460) = some (doe - doe / 1460) :=
    u32_of_eq (by omega) (by omega)
  have centuries : u32 ((doe - doe / 1460 : Nat) + doe / 36524) =
      some (doe - doe / 1460 + doe / 36524) := u32_of_eq (by omega) (by omega)
  have common : u32 ((doe - doe / 1460 + doe / 36524 : Nat) - doe / 146096) =
      some (commonDays doe) := u32_of_eq (by unfold commonDays; omega) (by unfold commonDays; omega)
  have eraYears : i64 (days / 146097 * 400) = some (days / 146097 * 400) :=
    i64_of_bounds (by omega) (by omega)
  have marchYear : i64 (yoe + days / 146097 * 400) = some (yoe + days / 146097 * 400) :=
    i64_of_bounds (by omega) (by omega)
  have leapDays : u32 (365 * yoe + yoe / 4) = some (365 * yoe + yoe / 4) :=
    u32_of_eq (by omega) (by omega)
  have start : u32 ((365 * yoe + yoe / 4 : Nat) - yoe / 100) = some (yearOffset yoe) :=
    u32_of_eq (by omega) (by omega)
  have dayOfYear : u32 (doe - yearOffset yoe) = some (doe - yearOffset yoe) :=
    u32_of_eq (by omega) (by omega)
  refine ⟨yoe + days / 146097 * 400, doe - yearOffset yoe, ?_, by omega, by omega, by omega, by omega⟩
  simp only [marchYearAndDay, split, shifted, narrowed, fourths, centuries, common, year,
    eraYears, marchYear, leapDays, start, dayOfYear, Option.bind_eq_bind, Option.bind_some,
    Option.pure_def]

theorem civilOfMarch_run {year : Int} {doy : Nat} (lower : 0 ≤ year)
    (upper : year < 9000000000000000000) (within : doy < 337 + monthLength (year + 1) 2) :
    ∃ date : CivilDate, date.dayNumber = marchStart year + doy ∧
      civilOfMarch year doy = some (asI32 date.year, date.month, date.day) := by
  have february := monthLength_february (year + 1)
  obtain ⟨date, dateMonth, dateDay, dateYear, number⟩ := fromMarch year within rfl
  have scaled : u32 (5 * doy + 2) = some (5 * doy + 2) := u32_of_eq (by omega) (by omega)
  generalize month : (5 * doy + 2) / 153 = mp at dateMonth dateDay
  have monthDays : u32 (153 * mp + 2) = some (153 * mp + 2) := u32_of_eq (by omega) (by omega)
  have dayOfMonth : u32 (doy - ((153 * mp + 2) / 5 : Nat)) = some (doy - (153 * mp + 2) / 5) :=
    u32_of_eq (by omega) (by omega)
  have oneBased : u32 ((doy - (153 * mp + 2) / 5 : Nat) + 1) = some date.day :=
    u32_of_eq (by omega) (by omega)
  have civilMonth : u32 (if mp < 10 then mp + 3 else mp - 9) = some date.month := by
    have small := date.monthValid.2
    refine u32_of_eq ?_ (by omega)
    split at dateMonth <;> omega
  have civilYear : i64 (if date.month ≤ 2 then year + 1 else year) = some date.year := by
    rw [← dateYear]
    exact i64_of_bounds (by split at dateYear <;> omega) (by split at dateYear <;> omega)
  refine ⟨date, number, ?_⟩
  simp only [civilOfMarch, scaled, month, monthDays, dayOfMonth, oneBased, civilMonth, civilYear,
    Option.bind_eq_bind, Option.bind_some, Option.pure_def]

theorem civilFromDays_run {z : Int} (counted : 0 ≤ z) (bounded : z < 9000000000000000000) :
    ∃ date : CivilDate, date.dayNumber = z ∧
      civilFromDays z = some (asI32 date.year, date.month, date.day) := by
  obtain ⟨year, doy, split, lower, upper, within, march⟩ := marchYearAndDay_run counted bounded
  obtain ⟨date, number, run⟩ := civilOfMarch_run lower upper within
  refine ⟨date, number.trans march, ?_⟩
  rw [civilFromDays, split]
  exact run

def FitsI32 (year : Int) : Prop := -2147483648 ≤ year ∧ year ≤ 2147483647

instance (year : Int) : Decidable (FitsI32 year) := inferInstanceAs (Decidable (_ ∧ _))

theorem asI32_of_fits {year : Int} (fits : FitsI32 year) : asI32 year = year := by
  unfold FitsI32 at fits
  rw [asI32, Int.bmod_def]
  split <;> omega

theorem civilFromDays_date (date : CivilDate) (counted : 0 ≤ date.dayNumber)
    (fits : FitsI32 date.year) :
    civilFromDays date.dayNumber = some (date.year, date.month, date.day) := by
  have limit : date.year + 1 ≤ 2147483648 := Int.add_le_add_right fits.2 1
  have bounded : date.dayNumber < 784351576777 :=
    Int.lt_of_lt_of_le date.dayNumber_lt (yearStart_mono limit)
  obtain ⟨found, number, run⟩ := civilFromDays_run counted (by omega)
  obtain rfl := CivilDate.dayNumber_injective number
  rw [run, asI32_of_fits fits]

/-- The days that have a date whose year fits are counted date by date from 1970-01-01. -/
theorem civilFromDays_calendar :
    civilFromDays 0 = some (1970, 1, 1) ∧
      (∀ z : Int, 0 ≤ z → FitsI32 (dateAfter z.toNat).year →
        ∃ date : CivilDate, civilFromDays z = some (date.year, date.month, date.day) ∧
          date.dayNumber = z ∧
          (FitsI32 date.next.year → civilFromDays (z + 1) =
            some (date.next.year, date.next.month, date.next.day))) ∧
      ∀ date : CivilDate, 0 ≤ date.dayNumber → FitsI32 date.year →
        civilFromDays date.dayNumber = some (date.year, date.month, date.day) := by
  refine ⟨by decide, ?_, civilFromDays_date⟩
  intro z counted fits
  have number : (dateAfter z.toNat).dayNumber = z := by
    rw [dayNumber_dateAfter, Int.toNat_of_nonneg counted]
  have following : (dateAfter z.toNat).next.dayNumber = z + 1 := by
    rw [CivilDate.dayNumber_next, number]
  refine ⟨dateAfter z.toNat, ?_, number, fun nextFits => ?_⟩
  · have run := civilFromDays_date (dateAfter z.toNat) (by omega) fits
    rwa [number] at run
  · have run := civilFromDays_date (dateAfter z.toNat).next (by omega) nextFits
    rwa [following] at run

def leapDay2000 : CivilDate where
  year := 2000
  month := 2
  day := 29
  monthValid := by decide
  dayValid := by decide

theorem civilFromDays_calendar_leapDay :
    (∃ date : CivilDate, civilFromDays 11016 = some (date.year, date.month, date.day) ∧
      date.dayNumber = 11016 ∧
      (FitsI32 date.next.year → civilFromDays 11017 =
        some (date.next.year, date.next.month, date.next.day))) ∧
      civilFromDays leapDay2000.dayNumber = some (2000, 2, 29) := by
  have counted : dateAfter 11016 = leapDay2000 := dateAfter_dayNumber (by decide)
  refine ⟨civilFromDays_calendar.2.1 11016 (by decide) ?_,
    civilFromDays_calendar.2.2 leapDay2000 (by decide) (by decide)⟩
  rw [show (11016 : Int).toNat = 11016 from rfl, counted]
  decide

end Lecoo.Gui
