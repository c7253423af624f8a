import ApiStub.Decimal.Binary64
import ApiStub.Mock.Calendar
import Mathlib

/-!
# Days of the calendar

The number of a date counts the days of the years and months before it. Every day is the number of
the date that is computed for it, and that date is one of the Gregorian calendar. The computation
counts years from March: the leap day comes last then, so the months before it begin at the same
days in every year.
-/

namespace ApiStub.Mock.Date

theorem isLeapYear_iff {year : Int} : isLeapYear year = true ↔
    year % 4 = 0 ∧ (year % 100 ≠ 0 ∨ year % 400 = 0) := by
  simp [isLeapYear]

/-- The days of a year. -/
def daysInYear (year : Int) : Nat := if isLeapYear year then 366 else 365

/-- The days from the first day of the year 1 to that of a year. -/
def daysBeforeYear (year : Int) : Int :=
  365 * (year - 1) + (year - 1) / 4 - (year - 1) / 100 + (year - 1) / 400

theorem daysBeforeYear_succ (year : Int) :
    daysBeforeYear (year + 1) = daysBeforeYear year + daysInYear year := by
  simp only [daysBeforeYear, daysInYear]
  by_cases leap : isLeapYear year = true
  · rw [if_pos leap]
    rw [isLeapYear_iff] at leap
    omega
  · rw [if_neg leap]
    rw [isLeapYear_iff] at leap
    omega

/-- The days of the months of a year before one of them. -/
def daysBeforeMonth (year : Int) (month : Nat) : Nat :=
  ((List.range (month - 1)).map fun earlier => daysInMonth year (earlier + 1)).sum

/-- The number of a date, counted from 1970-01-01. -/
def dayNumber (date : Date) : Int :=
  daysBeforeYear date.year - daysBeforeYear 1970 + daysBeforeMonth date.year date.month +
    (date.day - 1)

/-- A date of the Gregorian calendar. -/
structure IsValid (date : Date) : Prop where
  month : 1 ≤ date.month ∧ date.month ≤ 12
  day : 1 ≤ date.day ∧ date.day ≤ daysInMonth date.year date.month

theorem daysBeforeYear_mono : Monotone daysBeforeYear := by
  apply monotone_int_of_le_succ
  intro year
  rw [daysBeforeYear_succ]
  omega

theorem daysBeforeMonth_succ (year : Int) {month : Nat} (named : 1 ≤ month) :
    daysBeforeMonth year (month + 1) = daysBeforeMonth year month + daysInMonth year month := by
  rcases Nat.exists_eq_add_of_le' named with ⟨earlier, rfl⟩
  simp [daysBeforeMonth, List.range_succ]

theorem daysBeforeMonth_thirteen (year : Int) : daysBeforeMonth year 13 = daysInYear year := by
  by_cases leap : isLeapYear year = true <;>
    simp [daysBeforeMonth, daysInMonth, daysInYear, List.range_succ, leap]

theorem daysBeforeMonth_le (year : Int) {month : Nat} (named : 1 ≤ month) (inside : month ≤ 13) :
    daysBeforeMonth year month ≤ daysInYear year := by
  rw [← daysBeforeMonth_thirteen]
  have growing (later : Nat) :
      daysBeforeMonth year month ≤ daysBeforeMonth year (month + later) := by
    induction later with
    | zero => exact Nat.le_refl _
    | succ later ih =>
        rw [← Nat.add_assoc, daysBeforeMonth_succ year (Nat.le_add_right_of_le named)]
        omega
  have last := growing (13 - month)
  rwa [Nat.add_sub_cancel' inside] at last

/-- A date lies in its year. -/
theorem dayNumber_bounds {date : Date} (valid : date.IsValid) :
    daysBeforeYear date.year ≤ date.dayNumber + daysBeforeYear 1970 ∧
      date.dayNumber + daysBeforeYear 1970 < daysBeforeYear (date.year + 1) := by
  rcases valid with ⟨⟨named, inside⟩, day_pos, day_le⟩
  have within :=
    daysBeforeMonth_le date.year (Nat.le_succ_of_le named) (Nat.succ_le_succ inside)
  rw [daysBeforeMonth_succ date.year named] at within
  rw [daysBeforeYear_succ, dayNumber]
  omega

/-! ## Years from March -/

/-- The days of a year that begins in March before one of its months. -/
def daysBeforeShifted (month : Nat) : Nat := (153 * month + 2) / 5

theorem daysInMonth_shifted (year : Int) {month : Nat} (inside : month < 10) :
    daysBeforeShifted month + daysInMonth year (month + 3) = daysBeforeShifted (month + 1) := by
  interval_cases month <;> rfl

theorem daysBeforeMonth_shifted (year : Int) {month : Nat} (inside : month < 10) :
    daysBeforeMonth year (month + 3) + 306 = daysInYear year + daysBeforeShifted month := by
  by_cases leap : isLeapYear year = true <;>
    interval_cases month <;>
    simp [daysBeforeMonth, daysInMonth, daysInYear, daysBeforeShifted, List.range_succ, leap]

/-- The date of a day of a year that begins in March. -/
def ofMarch (year : Int) (day : Nat) : Date :=
  let shifted := (5 * day + 2) / 153
  let month := if shifted < 10 then shifted + 3 else shifted - 9
  { year := year + (if month ≤ 2 then 1 else 0)
    month
    day := day - daysBeforeShifted shifted + 1 }

theorem within_shifted (day : Nat) :
    daysBeforeShifted ((5 * day + 2) / 153) ≤ day ∧
      day < daysBeforeShifted ((5 * day + 2) / 153 + 1) := by
  simp only [daysBeforeShifted]
  omega

theorem daysInYear_eq (year : Int) : daysInYear year = 337 + daysInMonth year 2 := by
  simp only [daysInYear, daysInMonth]
  split <;> rfl

/-- A day of a year from March is a date of the calendar, and its number is the one that is due. -/
theorem ofMarch_spec {year : Int} {day : Nat} (inside : day < daysInYear (year + 1)) :
    (ofMarch year day).IsValid ∧
      (ofMarch year day).dayNumber = daysBeforeYear (year + 1) + day - 719468 := by
  have within := within_shifted day
  have epoch : daysBeforeYear 1970 = 719162 := rfl
  simp only [ofMarch]
  generalize (5 * day + 2) / 153 = shifted at *
  by_cases spring : shifted < 10
  · -- From March to December the year is the same one.
    have lasting := daysInMonth_shifted year spring
    have earlier := daysBeforeMonth_shifted year spring
    have following := daysBeforeYear_succ year
    simp only [spring, if_true, show ¬shifted + 3 ≤ 2 by omega, if_false, add_zero]
    refine ⟨⟨?_, ?_⟩, ?_⟩ <;> simp only [dayNumber] <;> omega
  · have months : shifted = 10 ∨ shifted = 11 := by
      have most : daysInYear (year + 1) ≤ 366 := by
        simp only [daysInYear]
        split <;> omega
      simp only [daysBeforeShifted] at within
      omega
    have february := daysInYear_eq (year + 1)
    have january : daysInMonth (year + 1) 1 = 31 := rfl
    have before_january : daysBeforeMonth (year + 1) 1 = 0 := rfl
    have before_february : daysBeforeMonth (year + 1) 2 = 31 := rfl
    simp only [spring, show shifted - 9 ≤ 2 by omega, if_false, if_true]
    simp only [daysBeforeShifted] at within ⊢
    rcases months with rfl | rfl
    · simp only [Nat.reduceSub]
      refine ⟨⟨?_, ?_⟩, ?_⟩ <;> simp only [dayNumber] <;> omega
    · simp only [Nat.reduceSub]
      refine ⟨⟨?_, ?_⟩, ?_⟩ <;> simp only [dayNumber] <;> omega

/-! ## Eras -/

/-- The days of an era of four hundred years before one of its years. -/
def daysBeforeEraYear (year : Nat) : Nat := 365 * year + year / 4 - year / 100 + year / 400

/-- The year of an era that a day of the era lies in. -/
def eraYear (day : Nat) : Nat := (day - day / 1460 + day / 36524 - day / 146096) / 365

theorem eraYear_mono {first second : Nat} (le : first ≤ second) (inside : second < 146097) :
    eraYear first ≤ eraYear second := by
  induction second, le using Nat.le_induction with
  | base => exact Nat.le_refl _
  | succ second _ ih =>
      have step : eraYear second ≤ eraYear (second + 1) := by
        apply Nat.div_le_div_right
        omega
      exact (ih (by omega)).trans step

/-- The first and the last day of a year lie in that year. -/
theorem eraYear_ends : ∀ year < 400, eraYear (daysBeforeEraYear year) = year ∧
    eraYear (daysBeforeEraYear (year + 1) - 1) = year := by
  decide +kernel

theorem eraYear_lt {day : Nat} (inside : day < 146097) : eraYear day < 400 := by
  have le := eraYear_mono (show day ≤ 146096 by omega) (by omega)
  have last : eraYear 146096 = 399 := rfl
  omega

theorem eraYear_bounds {day : Nat} (inside : day < 146097) :
    daysBeforeEraYear (eraYear day) ≤ day ∧ day < daysBeforeEraYear (eraYear day + 1) := by
  have bounded := eraYear_lt inside
  constructor
  · by_contra before
    rcases year_eq : eraYear day with _ | year
    · simp [year_eq, daysBeforeEraYear] at before
    · -- The last day of the year before is not an earlier one.
      rw [year_eq] at before bounded
      have earlier := eraYear_mono (show day ≤ daysBeforeEraYear (year + 1) - 1 by omega)
        (by simp only [daysBeforeEraYear]; omega)
      rw [(eraYear_ends year (by omega)).2] at earlier
      omega
  · by_contra after
    rcases Nat.lt_or_ge (eraYear day + 1) 400 with inner | last
    · have later := eraYear_mono (Nat.not_lt.mp after) inside
      rw [(eraYear_ends _ inner).1] at later
      omega
    · rw [show eraYear day + 1 = 400 by omega] at after
      simp only [daysBeforeEraYear] at after
      omega

theorem daysBeforeYear_era (era : Int) (year : Nat) :
    daysBeforeYear (year + era * 400 + 1) = era * 146097 + daysBeforeEraYear year := by
  simp only [daysBeforeYear, daysBeforeEraYear]
  omega

/-! ## Dates of days -/

theorem ofDay_eq (day : Int) :
    let era := (day + 719468) / 146097
    let dayOfEra := ((day + 719468) % 146097).toNat
    ofDay day = ofMarch (eraYear dayOfEra + era * 400)
      (dayOfEra - daysBeforeEraYear (eraYear dayOfEra)) := by
  intro era dayOfEra
  have year_lt : eraYear dayOfEra < 400 := eraYear_lt (by omega)
  have start : daysBeforeEraYear (eraYear dayOfEra) =
      365 * eraYear dayOfEra + eraYear dayOfEra / 4 - eraYear dayOfEra / 100 := by
    simp only [daysBeforeEraYear, Nat.div_eq_of_lt year_lt, add_zero]
  rw [start]
  rfl

/-- Every day has a date of the calendar, and the day is its number. -/
theorem ofDay_spec (day : Int) : (ofDay day).IsValid ∧ (ofDay day).dayNumber = day := by
  have date_eq := ofDay_eq day
  have split : day + 719468 = (day + 719468) / 146097 * 146097 +
      ((day + 719468) % 146097).toNat := by omega
  have inside : ((day + 719468) % 146097).toNat < 146097 := by omega
  dsimp only at date_eq
  generalize (day + 719468) / 146097 = era at *
  generalize ((day + 719468) % 146097).toNat = dayOfEra at *
  have bounds := eraYear_bounds inside
  generalize eraYear dayOfEra = year at *
  have first := daysBeforeYear_era era year
  have next := daysBeforeYear_era era (year + 1)
  have year_eq : ((year + 1 : Nat) : Int) + era * 400 + 1 = year + era * 400 + 1 + 1 := by omega
  rw [year_eq, daysBeforeYear_succ] at next
  have spec := ofMarch_spec (show dayOfEra - daysBeforeEraYear year <
    daysInYear (year + era * 400 + 1) by omega)
  rw [date_eq]
  refine ⟨spec.1, ?_⟩
  rw [spec.2]
  omega

end ApiStub.Mock.Date
