import Mathlib.Tactic.IntervalCases
import Workflow.Calendar

/-!
# Days and their numbers

Every number is the number of a day that exists (`Date.valid_ofNumber`, `Date.number_ofNumber`).

Four hundred years make an era, and a day has a place in its era (`Date.Place`): the century, the
cycle of four years in it, the year of the cycle and the day of the year, which begins in March.
Counted by places the calendar is linear, but for the last day of a cycle: it is the leap day, and
there is none in the last cycle of a century unless the era ends with it.  The quotients by which a
number is taken apart are worked out once, for a place (`Date.Place.quotient_eq`); the rest is
arithmetic within one year.
-/

namespace Workflow.Date

theorem isLeap_iff {year : Int} :
    isLeap year = true ↔ year % 4 = 0 ∧ (year % 100 ≠ 0 ∨ year % 400 = 0) := by
  simp [isLeap]

theorem valid_iff {d : Date} : d.valid = true ↔
    (1 ≤ d.month ∧ d.month ≤ 12) ∧ 1 ≤ d.day ∧ d.day ≤ daysInMonth d.year d.month := by
  simp [valid, and_assoc]

theorem daysInMonth_le (year : Int) (month : Nat) : daysInMonth year month ≤ 31 := by
  simp only [daysInMonth]
  split_ifs <;> omega

/-! ## Places in an era -/

/-- The place of a day in an era.  Only the last year of a cycle may have a leap day. -/
structure Place where
  century : Int
  cycle : Int
  year : Int
  day : Int
  century_bounds : 0 ≤ century ∧ century ≤ 3
  cycle_bounds : 0 ≤ cycle ∧ cycle ≤ 24
  year_bounds : 0 ≤ year ∧ year ≤ 3
  day_nonneg : 0 ≤ day
  day_le : day ≤ 364 ∨ day = 365 ∧ year = 3 ∧ (cycle < 24 ∨ century = 3)

namespace Place

/-- How many days of the era come before. -/
def dayOfEra (place : Place) : Int :=
  36524 * place.century + 1461 * place.cycle + 365 * place.year + place.day

/-- How many years of the era come before. -/
def yearOfEra (place : Place) : Int := 100 * place.century + 4 * place.cycle + place.year

/-- How many months of the year come before. -/
def month (place : Place) : Int := (5 * place.day + 2) / 153

theorem exists_of_bounds {dayOfEra : Int} (hlow : 0 ≤ dayOfEra) (hhigh : dayOfEra < 146097) :
    ∃ place : Place, place.dayOfEra = dayOfEra := by
  obtain ⟨century, rest, hcentury, hrest, rfl⟩ : ∃ century rest : Int,
      (0 ≤ century ∧ century ≤ 3) ∧ (0 ≤ rest ∧ (rest < 36524 ∨ rest = 36524 ∧ century = 3)) ∧
        dayOfEra = 36524 * century + rest := by
    -- the last day of the era would open a fifth century
    by_cases hend : dayOfEra = 146096
    · exact ⟨3, 36524, by omega, by omega, by omega⟩
    · exact ⟨dayOfEra / 36524, dayOfEra % 36524, by omega, by omega, by omega⟩
  obtain ⟨cycle, rest, hcycle, hrest, rfl⟩ : ∃ cycle rest' : Int,
      (0 ≤ cycle ∧ cycle ≤ 24) ∧ (0 ≤ rest' ∧ rest' ≤ 1460) ∧ rest = 1461 * cycle + rest' :=
    ⟨rest / 1461, rest % 1461, by omega, by omega, by omega⟩
  -- and the last day of a cycle a fifth year
  by_cases hlast : rest = 1460
  · refine ⟨⟨century, cycle, 3, 365, hcentury, hcycle, by omega, by omega, by omega⟩, ?_⟩
    simp only [Place.dayOfEra]
    omega
  · refine ⟨⟨century, cycle, rest / 365, rest % 365, hcentury, hcycle, by omega, by omega,
      by omega⟩, ?_⟩
    simp only [Place.dayOfEra]
    omega

variable (place : Place)

theorem dayOfEra_bounds : 0 ≤ place.dayOfEra ∧ place.dayOfEra < 146097 := by
  obtain ⟨century, cycle, year, day, hcentury, hcycle, hyear, hday, hleap⟩ := place
  simp only [dayOfEra]
  omega

theorem yearOfEra_bounds : 0 ≤ place.yearOfEra ∧ place.yearOfEra ≤ 399 := by
  obtain ⟨century, cycle, year, day, hcentury, hcycle, hyear, hday, hleap⟩ := place
  simp only [yearOfEra]
  omega

theorem month_bounds : 0 ≤ place.month ∧ place.month ≤ 11 := by
  have hday := place.day_nonneg
  have hlast := place.day_le
  simp only [month]
  omega

/-- The days of the era, less those that make leap years longer than others. -/
theorem quotient_eq : (place.dayOfEra - place.dayOfEra / 1460 + place.dayOfEra / 36524 -
    place.dayOfEra / 146096) / 365 = place.yearOfEra := by
  obtain ⟨century, cycle, year, day, hcentury, hcycle, hyear, hday, hleap⟩ := place
  simp only [dayOfEra, yearOfEra]
  generalize hplace : 36524 * century + 1461 * cycle + 365 * year + day = dayOfEra
  have hcenturies : dayOfEra / 36524 - dayOfEra / 146096 = century := by
    by_cases hend : dayOfEra = 146096
    · omega
    · have hcount : dayOfEra / 36524 = century := by omega
      have hnone : dayOfEra / 146096 = 0 := by omega
      omega
  have hcycles : dayOfEra / 1460 =
      25 * century + cycle + (24 * century + cycle + 365 * year + day) / 1460 := by
    omega
  -- one day more or less does not change the year, except at the end of a cycle
  have hslack : (24 * century + cycle + 365 * year + day) / 1460 = 0 ∨
      (24 * century + cycle + 365 * year + day) / 1460 = 1 ∧ year = 3 ∧ 1 ≤ day := by
    omega
  omega

theorem dayOfEra_eq : place.dayOfEra =
    place.yearOfEra * 365 + place.yearOfEra / 4 - place.yearOfEra / 100 + place.day := by
  obtain ⟨century, cycle, year, day, hcentury, hcycle, hyear, hday, hleap⟩ := place
  simp only [dayOfEra, yearOfEra]
  omega

/-- The day that is at a place of an era. -/
def date (place : Place) (era : Int) : Date where
  year := place.yearOfEra + era * 400 + (if place.month < 10 then 0 else 1)
  month := (if place.month < 10 then place.month + 3 else place.month - 9).toNat
  day := (place.day - (153 * place.month + 2) / 5 + 1).toNat

theorem ofNumber_eq (era : Int) :
    ofNumber (era * 146097 + place.dayOfEra - 719468) = place.date era := by
  have hbounds := place.dayOfEra_bounds
  have hera : (era * 146097 + place.dayOfEra - 719468 + 719468).fdiv 146097 = era := by
    rw [Int.fdiv_eq_ediv_of_nonneg _ (by decide)]
    omega
  have hday : (era * 146097 + place.dayOfEra - 719468 + 719468).fmod 146097 = place.dayOfEra := by
    rw [Int.fmod_eq_emod_of_nonneg _ (by decide)]
    omega
  have hdayOfYear : place.dayOfEra -
      (365 * place.yearOfEra + place.yearOfEra / 4 - place.yearOfEra / 100) = place.day := by
    have hsum := place.dayOfEra_eq
    omega
  have hmonths := place.month_bounds
  have hmonth : (5 * place.day + 2) / 153 = place.month := rfl
  simp only [ofNumber, hera, hday, place.quotient_eq, hdayOfYear, hmonth, date]
  by_cases hturn : place.month < 10
  · have hlate : ¬ place.month + 3 ≤ 2 := by omega
    simp only [hturn, hlate, if_true, if_false]
  · have hearly : place.month - 9 ≤ 2 := by omega
    simp only [hturn, hearly, if_true, if_false]

/-- The day of the month is counted from one. -/
theorem day_bounds : 0 ≤ place.day - (153 * place.month + 2) / 5 := by
  have hday := place.day_nonneg
  simp only [month]
  omega

theorem number_date (era : Int) :
    (place.date era).number = era * 146097 + place.dayOfEra - 719468 := by
  have hmonths := place.month_bounds
  have hyears := place.yearOfEra_bounds
  have hdays := place.day_bounds
  rw [place.dayOfEra_eq]
  have hera : (place.yearOfEra + era * 400).fdiv 400 = era := by
    rw [Int.fdiv_eq_ediv_of_nonneg _ (by decide)]
    omega
  have hyear : (place.yearOfEra + era * 400).fmod 400 = place.yearOfEra := by
    rw [Int.fmod_eq_emod_of_nonneg _ (by decide)]
    omega
  have hday : ((place.day - (153 * place.month + 2) / 5 + 1).toNat : Int) =
      place.day - (153 * place.month + 2) / 5 + 1 := Int.toNat_of_nonneg (by omega)
  by_cases hturn : place.month < 10
  · have hmonth : ((place.month + 3).toNat : Int) = place.month + 3 :=
      Int.toNat_of_nonneg (by omega)
    have hlate : ¬ (place.month + 3).toNat ≤ 2 := by omega
    have hback : place.month + 3 - 3 = place.month := by omega
    simp only [number, date, hturn, hlate, if_true, if_false, add_zero, hera, hyear, hmonth, hday,
      hback]
    omega
  · have hmonth : ((place.month - 9).toNat : Int) = place.month - 9 :=
      Int.toNat_of_nonneg (by omega)
    have hearly : (place.month - 9).toNat ≤ 2 := by omega
    have hback : place.month - 9 + 9 = place.month := by omega
    have hyearBack : place.yearOfEra + era * 400 + 1 - 1 = place.yearOfEra + era * 400 := by omega
    simp only [number, date, hturn, hearly, if_true, if_false, hyearBack, hera, hyear, hmonth, hday,
      hback]
    omega

theorem isLeap_of_last (h : place.day = 365) (era : Int) :
    isLeap (place.yearOfEra + era * 400 + 1) = true := by
  obtain ⟨century, cycle, year, day, hcentury, hcycle, hyear, hday, hleap⟩ := place
  have hlast : year = 3 ∧ (cycle < 24 ∨ century = 3) := by
    simp only at h
    omega
  rw [isLeap_iff]
  simp only [yearOfEra]
  omega

theorem february_ge (era : Int) : place.day ≤ 336 +
    (if isLeap (place.yearOfEra + era * 400 + 1) = true then 29 else 28) := by
  obtain hday | ⟨hday, -⟩ := place.day_le
  · split <;> omega
  · rw [if_pos (place.isLeap_of_last hday era)]
    omega

/-- The months of a year are as long as the calendar says. -/
theorem valid_date (era : Int) : (place.date era).valid = true := by
  obtain ⟨hfirst, hfinal⟩ := place.month_bounds
  have hdays := place.day_bounds
  have hfebruary := place.february_ge era
  have hspan : 5 * place.day + 2 < 153 * (place.month + 1) := by
    simp only [month]
    omega
  rw [valid_iff]
  obtain ⟨months, hmonth⟩ : ∃ months, place.month = months := ⟨_, rfl⟩
  simp only [date, daysInMonth, hmonth] at hfirst hfinal hdays hspan ⊢
  interval_cases months
  all_goals simp
  all_goals omega

end Place

/-! ## Numbers of days -/

theorem exists_place (n : Int) :
    ∃ (era : Int) (place : Place), n = era * 146097 + place.dayOfEra - 719468 := by
  have hlow : 0 ≤ (n + 719468) % 146097 := by omega
  have hhigh : (n + 719468) % 146097 < 146097 := by omega
  obtain ⟨place, hplace⟩ := Place.exists_of_bounds hlow hhigh
  exact ⟨(n + 719468) / 146097, place, by omega⟩

/-- Every number is the number of a day that exists. -/
theorem valid_ofNumber (n : Int) : (ofNumber n).valid = true := by
  obtain ⟨era, place, rfl⟩ := exists_place n
  rw [place.ofNumber_eq]
  exact place.valid_date era

theorem number_ofNumber (n : Int) : (ofNumber n).number = n := by
  obtain ⟨era, place, rfl⟩ := exists_place n
  rw [place.ofNumber_eq]
  exact place.number_date era

/-! ## Years and their days -/

/-- The number of the first of January. -/
theorem number_newYear (year : Int) : number ⟨year, 1, 1⟩ =
    365 * (year - 1) + (year - 1) / 4 - (year - 1) / 100 + (year - 1) / 400 - 719162 := by
  simp only [number]
  rw [Int.fdiv_eq_ediv_of_nonneg _ (by decide), Int.fmod_eq_emod_of_nonneg _ (by decide)]
  simp
  omega

theorem number_bounds {d : Date} (h : d.valid = true) :
    number ⟨d.year, 1, 1⟩ ≤ d.number ∧ d.number < number ⟨d.year + 1, 1, 1⟩ := by
  obtain ⟨⟨hmonth, hlast⟩, hday, hdays⟩ := valid_iff.mp h
  have hshort := daysInMonth_le d.year d.month
  rw [number_newYear, number_newYear]
  simp only [number]
  rw [Int.fdiv_eq_ediv_of_nonneg _ (by decide), Int.fmod_eq_emod_of_nonneg _ (by decide)]
  by_cases hturn : d.month ≤ 2
  · simp only [hturn, if_true]
    omega
  · simp only [hturn, if_false]
    omega

/-- A day that is not later is in a year that is not later. -/
theorem year_le_of_number_le {d e : Date} (hd : d.valid = true) (he : e.valid = true)
    (h : d.number ≤ e.number) : d.year ≤ e.year := by
  have hlow := (number_bounds hd).1
  have hhigh := (number_bounds he).2
  rw [number_newYear] at hlow hhigh
  omega

end Workflow.Date
