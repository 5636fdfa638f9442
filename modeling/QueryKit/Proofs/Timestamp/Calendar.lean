import Mathlib
import QueryKit.Timestamp.Basic

set_option autoImplicit false

/-! # Days and dates

The date of a day is one of the calendar (`exists_ofDays`), and the day of that date is the day again
(`toDays_ofDays`). Both go through eras of 400 years, which begin in March so that the leap day of a
year is its last. -/

namespace QueryKit.CalendarDay

/-! ## Years of an era -/

section

variable {day year : Int} (hlow : 0 ≤ day) (hhigh : day ≤ 146096)
  (hyear : year = (day - day / 1460 + day / 36524 - day / 146096) / 365)

include hlow hyear

theorem century_of_era (hlast : day < 146096) : year / 100 = day / 36524 := by
  omega

include hhigh

theorem year_nonneg_of_era : 0 ≤ year ∧ year ≤ 399 := by
  omega

/-- A year begins no later than its days. -/
theorem begins_of_era : 365 * year + year / 4 - year / 100 ≤ day := by
  rcases Int.lt_or_eq_of_le hhigh with hlast | rfl
  · have hcentury := century_of_era hlow hyear hlast
    have hfour : year / 4 ≤ day / 1460 := by omega
    have hdays : 365 * year ≤ day - day / 1460 + day / 36524 := by omega
    clear hyear
    omega
  · omega

/-- A year has at most 366 days. -/
theorem ends_of_era : day ≤ 365 * year + year / 4 - year / 100 + 365 := by
  rcases Int.lt_or_eq_of_le hhigh with hlast | rfl
  · have hcentury := century_of_era hlow hyear hlast
    have hfour : day / 1460 ≤ year / 4 + 1 := by omega
    have hdays : day - day / 1460 + day / 36524 ≤ 365 * year + 364 := by omega
    clear hyear
    omega
  · omega

/-- A year with 366 days ends in a leap year: it began in March of the year before. -/
theorem leap_of_era (hday : day = 365 * year + year / 4 - year / 100 + 365) :
    (year + 1) % 4 = 0 ∧ ((year + 1) % 100 ≠ 0 ∨ (year + 1) % 400 = 0) := by
  rcases Int.lt_or_eq_of_le hhigh with hlast | rfl
  · have hcentury := century_of_era hlow hyear hlast
    have hdays : day - day / 1460 + day / 36524 ≤ 365 * year + 364 := by omega
    have hfour : year / 4 + 1 ≤ day / 1460 := by omega
    have hrange : year ≤ 399 := by omega
    clear hyear hdays
    have hleap : year % 4 = 3 := by omega
    exact ⟨by omega, .inl (by omega)⟩
  · omega

end

/-! ## Dates of days -/

/-- How the date of a day is found: the era, the year of the era, and in it the day and the month
    from March on. -/
theorem exists_ofDays (days : Int) :
    ∃ era year day month : Int,
      days = era * 146097 + (365 * year + year / 4 - year / 100 + day) - 719468
        ∧ 0 ≤ year ∧ year ≤ 399 ∧ 0 ≤ day ∧ day ≤ 365
        ∧ (day = 365 → isLeap (year + era * 400 + 1) = true)
        ∧ month = (5 * day + 2) / 153
        ∧ ofDays days =
          { year := if month < 10 then year + era * 400 else year + era * 400 + 1
            month := (if month < 10 then month + 3 else month - 9).toNat
            day := (day - (153 * month + 2) / 5 + 1).toNat } := by
  obtain ⟨era, hera⟩ : ∃ era, era = (days + 719468) / 146097 := ⟨_, rfl⟩
  obtain ⟨dayOfEra, hday⟩ : ∃ day, day = days + 719468 - era * 146097 := ⟨_, rfl⟩
  obtain ⟨year, hyear⟩ : ∃ year, year
    = (dayOfEra - dayOfEra / 1460 + dayOfEra / 36524 - dayOfEra / 146096) / 365 := ⟨_, rfl⟩
  have hlow : 0 ≤ dayOfEra := by omega
  have hhigh : dayOfEra ≤ 146096 := by omega
  obtain ⟨hfirst, hlast⟩ := year_nonneg_of_era hlow hhigh hyear
  have hbegins := begins_of_era hlow hhigh hyear
  have hends := ends_of_era hlow hhigh hyear
  have hleap := leap_of_era hlow hhigh hyear
  refine ⟨era, year, dayOfEra - (365 * year + year / 4 - year / 100), _, ?_, hfirst, hlast, ?_, ?_,
    ?_, rfl, ?_⟩
  · omega
  · omega
  · omega
  · intro hfull
    obtain ⟨hfour, hcentury⟩ := hleap (by omega)
    have hfour' : (year + era * 400 + 1) % 4 = 0 := by omega
    have hcentury' : (year + era * 400 + 1) % 100 ≠ 0 ∨ (year + era * 400 + 1) % 400 = 0 := by omega
    simp only [isLeap, hfour', beq_self_eq_true, Bool.true_and, Bool.or_eq_true, bne_iff_ne, ne_eq,
      beq_iff_eq]
    exact hcentury'
  · unfold ofDays
    dsimp only
    rw [← hera, ← hday, ← hyear]

/-- The date of a day is one of the calendar. -/
theorem ofDays_valid (days : Int) :
    1 ≤ (ofDays days).month ∧ (ofDays days).month ≤ 12 ∧ 1 ≤ (ofDays days).day
      ∧ (ofDays days).day ≤ daysInMonth (ofDays days).year (ofDays days).month := by
  obtain ⟨era, year, day, month, -, -, -, hlow, hhigh, hleap, hmonth, hdate⟩ := exists_ofDays days
  rw [hdate]
  dsimp only
  refine ⟨by split <;> omega, by split <;> omega, by omega, ?_⟩
  have hrange : month = 0 ∨ month = 1 ∨ month = 2 ∨ month = 3 ∨ month = 4 ∨ month = 5 ∨ month = 6
      ∨ month = 7 ∨ month = 8 ∨ month = 9 ∨ month = 10 ∨ month = 11 := by omega
  rcases hrange with rfl | rfl | rfl | rfl | rfl | rfl | rfl | rfl | rfl | rfl | rfl | rfl
  -- February is the only month whose length depends on the year.
  case inr.inr.inr.inr.inr.inr.inr.inr.inr.inr.inr =>
    show (day - (153 * 11 + 2) / 5 + 1).toNat
      ≤ if isLeap (year + era * 400 + 1) then 29 else 28
    by_cases hfull : day = 365
    · rw [hleap hfull, if_pos rfl]
      omega
    · split <;> omega
  all_goals
    simp only [daysInMonth]
    norm_num
    omega

/-- The day of the date of a day is that day. -/
theorem toDays_ofDays (days : Int) : (ofDays days).toDays = days := by
  obtain ⟨era, year, day, month, hdays, hfirst, hlast, hlow, hhigh, -, hmonth, hdate⟩ :=
    exists_ofDays days
  rw [hdate]
  unfold toDays
  dsimp only
  by_cases hspring : month < 10
  · rw [if_pos hspring, if_pos hspring, if_neg (by omega), if_neg (by omega)]
    omega
  · rw [if_neg hspring, if_neg hspring, if_pos (by omega), if_pos (by omega)]
    omega

end QueryKit.CalendarDay
