import Mathlib.Data.Nat.Notation

namespace Calendar

/-- A date of the Gregorian calendar, continued backwards. -/
structure Date where
  year : Nat
  month : Nat
  day : Nat
  deriving DecidableEq

/-- The days from 1 March of the year 0 to 1 January 1970. -/
def unixEpoch : Nat := 719468

/-- The year that begins in March and the day in it, so many days after
1 March of the year 0. Only the last century of four, and the last year of
four, can have one day more. -/
def marchYear (days : Nat) : Nat × Nat :=
  let dayOfEra := days % 146097
  let century := min 3 (dayOfEra / 36524)
  let dayOfCentury := dayOfEra - 36524 * century
  let dayOfCycle := dayOfCentury % 1461
  let year := min 3 (dayOfCycle / 365)
  (400 * (days / 146097) + 100 * century + 4 * (dayOfCentury / 1461) + year,
    dayOfCycle - 365 * year)

/-- The first day of a month, counted from March, in a year that begins there. -/
def monthStart (month : Nat) : Nat :=
  (153 * month + 2) / 5

def dateOf (days : Nat) : Date :=
  let (year, dayOfYear) := marchYear days
  let month := (5 * dayOfYear + 2) / 153
  let day := dayOfYear - monthStart month + 1
  if month < 10 then ⟨year, month + 3, day⟩ else ⟨year + 1, month - 9, day⟩

/-- The days before a year that begins in March. -/
def daysBefore (year : Nat) : Nat :=
  146097 * (year / 400) + 36524 * (year % 400 / 100) + 1461 * (year % 100 / 4) + 365 * (year % 4)

def daysOf (date : Date) : Nat :=
  if date.month ≤ 2 then daysBefore (date.year - 1) + monthStart (date.month + 9) + (date.day - 1)
  else daysBefore date.year + monthStart (date.month - 3) + (date.day - 1)

/-- A year is written to the base of the cycles that the calendar has. -/
theorem daysBefore_cycles {era century cycle year : Nat} (centuries : century ≤ 3) (cycles : cycle ≤ 24)
    (years : year ≤ 3) : daysBefore (400 * era + 100 * century + 4 * cycle + year) =
      146097 * era + 36524 * century + 1461 * cycle + 365 * year := by
  have first : (400 * era + 100 * century + 4 * cycle + year) / 400 = era := by omega
  have second : (400 * era + 100 * century + 4 * cycle + year) % 400 / 100 = century := by omega
  have third : (400 * era + 100 * century + 4 * cycle + year) % 100 / 4 = cycle := by omega
  have fourth : (400 * era + 100 * century + 4 * cycle + year) % 4 = year := by omega
  rw [daysBefore, first, second, third, fourth]

theorem marchYear_spec (days : Nat) :
    daysBefore (marchYear days).1 + (marchYear days).2 = days ∧ (marchYear days).2 ≤ 365 := by
  have split := Nat.div_add_mod days 146097
  have inEra := Nat.mod_lt days (show 0 < 146097 by decide)
  unfold marchYear
  dsimp only
  generalize days / 146097 = era at split ⊢
  generalize days % 146097 = dayOfEra at split inEra ⊢
  have centuries : min 3 (dayOfEra / 36524) ≤ 3 := Nat.min_le_left _ _
  have inCentury : 36524 * min 3 (dayOfEra / 36524) ≤ dayOfEra ∧
      dayOfEra - 36524 * min 3 (dayOfEra / 36524) ≤ 36524 := by omega
  generalize min 3 (dayOfEra / 36524) = century at centuries inCentury ⊢
  generalize day : dayOfEra - 36524 * century = dayOfCentury at inCentury ⊢
  have cycles : dayOfCentury / 1461 ≤ 24 := by omega
  have inCycle := Nat.div_add_mod dayOfCentury 1461
  have short := Nat.mod_lt dayOfCentury (show 0 < 1461 by decide)
  generalize dayOfCentury / 1461 = cycle at cycles inCycle ⊢
  generalize dayOfCentury % 1461 = dayOfCycle at inCycle short ⊢
  have years : min 3 (dayOfCycle / 365) ≤ 3 := Nat.min_le_left _ _
  have inYear : 365 * min 3 (dayOfCycle / 365) ≤ dayOfCycle ∧
      dayOfCycle - 365 * min 3 (dayOfCycle / 365) ≤ 365 := by omega
  generalize min 3 (dayOfCycle / 365) = year at years inYear ⊢
  rw [daysBefore_cycles centuries cycles years]
  omega

/-- No two days have the same date. -/
theorem daysOf_dateOf (days : Nat) : daysOf (dateOf days) = days := by
  obtain ⟨whole, short⟩ := marchYear_spec days
  unfold dateOf
  generalize marchYear days = year at whole short ⊢
  obtain ⟨year, dayOfYear⟩ := year
  dsimp only at whole short ⊢
  have started : monthStart ((5 * dayOfYear + 2) / 153) ≤ dayOfYear := by
    unfold monthStart
    omega
  unfold daysOf
  split
  · rw [if_neg (by dsimp only; omega), Nat.add_sub_cancel, Nat.add_sub_cancel]
    dsimp only
    omega
  · have month : (5 * dayOfYear + 2) / 153 - 9 + 9 = (5 * dayOfYear + 2) / 153 := by omega
    rw [if_pos (by dsimp only; omega), Nat.add_sub_cancel, Nat.add_sub_cancel, month]
    omega

theorem dateOf_injective {days other : Nat} (same : dateOf days = dateOf other) : days = other := by
  rw [← daysOf_dateOf days, same, daysOf_dateOf]

/-- A month and a day have two digits. -/
theorem dateOf_bounds (days : Nat) : (dateOf days).month < 100 ∧ (dateOf days).day < 100 := by
  obtain ⟨_, short⟩ := marchYear_spec days
  unfold dateOf
  generalize marchYear days = year at short ⊢
  obtain ⟨year, dayOfYear⟩ := year
  dsimp only at short ⊢
  unfold monthStart
  split
  · dsimp only
    omega
  · dsimp only
    omega

/-- The leap day of 2024. -/
example : dateOf (unixEpoch + 19782) = ⟨2024, 2, 29⟩ := by decide

end Calendar
