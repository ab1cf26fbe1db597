import Mathlib.Tactic.IntervalCases
import RecordQuery.Calendar.Date

/-!
# Days and dates

Every day has one date and every date of the calendar names one day: `Date.ofDay` and `Date.toDay`
are inverse to each other. The years are taken to begin in March, and 400 of them make a cycle of
146097 days.
-/

namespace RecordQuery

namespace Calendar

theorem isLeapYear_iff (year : Int) :
    isLeapYear year = true ↔ year % 4 = 0 ∧ (year % 100 ≠ 0 ∨ year % 400 = 0) := by
  simp [isLeapYear]

theorem monthLength_february (year : Int) :
    monthLength year 2 = if isLeapYear year = true then 29 else 28 := rfl

theorem monthLength_pos (year : Int) (month : Nat) : 1 ≤ monthLength year month := by
  unfold monthLength
  split
  · split <;> omega
  all_goals decide

theorem monthLength_le (year : Int) (month : Nat) : monthLength year month ≤ 31 := by
  unfold monthLength
  split
  · split <;> omega
  all_goals decide

/-- A day of a year that begins in March, within a cycle of 400 years. -/
structure CycleDay where
  year : Int
  day : Int
  year_nonneg : 0 ≤ year
  year_lt : year < 400
  day_nonneg : 0 ≤ day
  day_le : day ≤ 365
  /-- The last day of a leap year is in February of the calendar's next year. -/
  leap : day = 365 → (year + 1) % 4 = 0 ∧ ((year + 1) % 100 ≠ 0 ∨ (year + 1) % 400 = 0)

namespace CycleDay

/-- The days of the cycle before it. -/
def offset (c : CycleDay) : Int := 365 * c.year + c.year / 4 - c.year / 100 + c.day

theorem offset_nonneg (c : CycleDay) : 0 ≤ c.offset := by
  have := c.year_nonneg
  have := c.day_nonneg
  rw [offset]
  omega

theorem offset_lt (c : CycleDay) : c.offset < 146097 := by
  have := c.year_lt
  have := c.day_le
  have := c.leap
  have := c.year_nonneg
  rw [offset]
  omega

/-- Centuries, spans of four years within a century, and years within a span. -/
theorem exists_parts (c : CycleDay) :
    ∃ century span rest : Int, c.year = 100 * century + 4 * span + rest ∧
      (0 ≤ century ∧ century ≤ 3) ∧ (0 ≤ span ∧ span ≤ 24) ∧ (0 ≤ rest ∧ rest ≤ 3) ∧
      (c.day = 365 → rest = 3 ∧ (span = 24 → century = 3)) ∧
      c.offset = 36524 * century + 1461 * span + 365 * rest + c.day := by
  obtain ⟨year, day, hyear, hlt, hday, hle, leap⟩ := c
  have hoffset : 365 * year + year / 4 - year / 100 + day
      = 36524 * (year / 100) + 1461 * (year % 100 / 4) + 365 * (year % 4) + day := by omega
  refine ⟨year / 100, year % 100 / 4, year % 4, ?_, ?_, ?_, ?_, ?_, hoffset⟩
  · dsimp only
    omega
  · omega
  · omega
  · omega
  · dsimp only
    omega

/-- The year is found by leaving out the leap days so far. -/
theorem year_eq (c : CycleDay) :
    (c.offset - c.offset / 1460 + c.offset / 36524 - c.offset / 146096) / 365 = c.year := by
  obtain ⟨century, span, rest, hyear, hcentury, hspan, hrest, hleap, hoffset⟩ := c.exists_parts
  have hday := c.day_nonneg
  have hday' := c.day_le
  generalize c.offset = n at *
  have hcenturies : n / 36524 = century ∨ n = 146096 := by omega
  rcases hcenturies with hcenturies | hlast
  · have hspans : n / 1460 = 25 * century + span ∨
        n / 1460 = 25 * century + span + 1 ∧ rest = 3 ∧ 1 ≤ c.day := by omega
    omega
  · omega

end CycleDay

/-- Every day of a cycle lies in one of its years. -/
theorem exists_cycleDay {n : Int} (nonneg : 0 ≤ n) (lt : n < 146097) :
    ∃ c : CycleDay, c.offset = n := by
  -- The last century has a day more than 36524, the last year of a span one more than 365.
  obtain ⟨century, inCentury, hn, hcentury, hinCentury⟩ : ∃ century inCentury : Int,
      n = 36524 * century + inCentury ∧ (0 ≤ century ∧ century ≤ 3) ∧
        (0 ≤ inCentury ∧ inCentury ≤ 36524 ∧ (inCentury = 36524 → century = 3)) := by
    exact ⟨min (n / 36524) 3, n - 36524 * min (n / 36524) 3, by omega, by omega, by omega⟩
  obtain ⟨span, inSpan, hspan, hspan', hinSpan⟩ : ∃ span inSpan : Int,
      inCentury = 1461 * span + inSpan ∧ (0 ≤ span ∧ span ≤ 24) ∧
        (0 ≤ inSpan ∧ inSpan ≤ 1460) := by
    exact ⟨inCentury / 1461, inCentury % 1461, by omega, by omega, by omega⟩
  obtain ⟨rest, day, hrest, hrest', hday⟩ : ∃ rest day : Int,
      inSpan = 365 * rest + day ∧ (0 ≤ rest ∧ rest ≤ 3) ∧
        (0 ≤ day ∧ day ≤ 365 ∧ (day = 365 → rest = 3)) := by
    exact ⟨min (inSpan / 365) 3, inSpan - 365 * min (inSpan / 365) 3, by omega, by omega, by omega⟩
  have fours : (100 * century + 4 * span + rest) / 4 = 25 * century + span := by omega
  have hundreds : (100 * century + 4 * span + rest) / 100 = century := by omega
  refine ⟨⟨100 * century + 4 * span + rest, day, by omega, by omega, by omega, by omega, ?_⟩, ?_⟩
  · intro hlast
    obtain rfl := hday.2.2 hlast
    by_cases hlastSpan : span = 24
    · have : century = 3 := by omega
      omega
    · omega
  · simp only [CycleDay.offset, fours, hundreds]
    omega

/-- The date of a day within a cycle. -/
def CycleDay.toDate (cycle : Int) (c : CycleDay) : Date :=
  let month := (5 * c.day + 2) / 153
  let day := c.day - (153 * month + 2) / 5 + 1
  if month < 10 then ⟨400 * cycle + c.year, (month + 3).toNat, day.toNat⟩
  else ⟨400 * cycle + c.year + 1, (month - 9).toNat, day.toNat⟩

theorem exists_cycle (n : Int) :
    ∃ cycle, ∃ c : CycleDay, n = 146097 * cycle + c.offset - 719468 := by
  obtain ⟨c, hc⟩ := exists_cycleDay (n := (n + 719468) % 146097) (by omega) (by omega)
  exact ⟨(n + 719468) / 146097, c, by omega⟩

end Calendar

namespace Date

open Calendar

/-- A date that some year has. -/
structure Proper (d : Date) : Prop where
  month_pos : 1 ≤ d.month
  month_le : d.month ≤ 12
  day_pos : 1 ≤ d.day
  day_le : d.day ≤ monthLength d.year d.month

theorem Proper.valid_iff {d : Date} (h : d.Proper) :
    d.Valid ↔ minYear ≤ d.year ∧ d.year ≤ maxYear :=
  ⟨fun hv => ⟨hv.1, hv.2.1⟩, fun hy => ⟨hy.1, hy.2, h.month_pos, h.month_le, h.day_pos, h.day_le⟩⟩

theorem ofDay_cycleDay (cycle : Int) (c : CycleDay) :
    ofDay (146097 * cycle + c.offset - 719468) = c.toDate cycle := by
  have hoffset := c.offset_nonneg
  have hoffset' := c.offset_lt
  have hcycle : (146097 * cycle + c.offset - 719468 + 719468) / 146097 = cycle := by omega
  have hin : (146097 * cycle + c.offset - 719468 + 719468) % 146097 = c.offset := by omega
  have hday : c.offset - (365 * c.year + c.year / 4 - c.year / 100) = c.day := by
    rw [CycleDay.offset]
    omega
  simp only [ofDay, hcycle, hin, c.year_eq, hday, CycleDay.toDate]

theorem toDay_cycleDay (cycle : Int) (c : CycleDay) :
    toDay (c.toDate cycle) = 146097 * cycle + c.offset - 719468 := by
  have hyear := c.year_nonneg
  have hyear' := c.year_lt
  have hday := c.day_nonneg
  have hday' := c.day_le
  have fours : (400 * cycle + c.year) / 4 = 100 * cycle + c.year / 4 := by omega
  have hundreds : (400 * cycle + c.year) / 100 = 4 * cycle + c.year / 100 := by omega
  have cycles : (400 * cycle + c.year) / 400 = cycle := by omega
  rw [CycleDay.toDate, CycleDay.offset]
  split
  · have hmonth : ¬ ((5 * c.day + 2) / 153 + 3).toNat ≤ 2 := by omega
    simp only [toDay, hmonth, ↓reduceIte]
    omega
  · have hmonth : ((5 * c.day + 2) / 153 - 9).toNat ≤ 2 := by omega
    simp only [toDay, hmonth, ↓reduceIte, Int.add_sub_cancel]
    omega

/-- The months from March on, but for the last one, are as long as their first days tell. -/
theorem monthLength_of_first {month : Int} (nonneg : 0 ≤ month) (lt : month < 11) (year : Int) :
    (monthLength year (if month < 10 then (month + 3).toNat else (month - 9).toNat) : Int)
      = (153 * (month + 1) + 2) / 5 - (153 * month + 2) / 5 := by
  interval_cases month <;> rfl

theorem proper_cycleDay (cycle : Int) (c : CycleDay) : Proper (c.toDate cycle) := by
  have hday := c.day_nonneg
  have hday' := c.day_le
  obtain ⟨month, hmonth⟩ : ∃ month, month = (5 * c.day + 2) / 153 := ⟨_, rfl⟩
  have hfirst : (153 * month + 2) / 5 ≤ c.day ∧ c.day < (153 * (month + 1) + 2) / 5 := by omega
  have hlength : c.day - (153 * month + 2) / 5 + 1
      ≤ monthLength (if month < 10 then 400 * cycle + c.year else 400 * cycle + c.year + 1)
          (if month < 10 then (month + 3).toNat else (month - 9).toNat) := by
    by_cases hfebruary : month = 11
    · -- The last day of the year comes in leap years only.
      subst hfebruary
      change _ ≤ (monthLength (400 * cycle + c.year + 1) 2 : Int)
      rw [monthLength_february]
      by_cases hleap : isLeapYear (400 * cycle + c.year + 1) = true
      · rw [if_pos hleap]
        omega
      · have hlast := c.leap
        rw [isLeapYear_iff] at hleap
        rw [if_neg (by rwa [isLeapYear_iff])]
        omega
    · have := monthLength_of_first (show 0 ≤ month by omega) (by omega)
        (if month < 10 then 400 * cycle + c.year else 400 * cycle + c.year + 1)
      omega
  rw [CycleDay.toDate, ← hmonth]
  by_cases hten : month < 10
  · simp only [hten, ↓reduceIte] at hlength ⊢
    constructor <;> dsimp only <;> omega
  · simp only [hten, ↓reduceIte] at hlength ⊢
    constructor <;> dsimp only <;> omega

/-- Every date of a year is the date of a day within a cycle. -/
theorem Proper.exists_cycleDay {d : Date} (h : d.Proper) :
    ∃ cycle, ∃ c : CycleDay, c.toDate cycle = d := by
  obtain ⟨year, month, day⟩ := d
  obtain ⟨hmonth, hmonth', hday, hday'⟩ := h
  dsimp only at hmonth hmonth' hday hday'
  obtain ⟨march, first, hmarch, hname, hyear⟩ : ∃ march first : Int, (0 ≤ march ∧ march ≤ 11) ∧
      month = (if march < 10 then (march + 3).toNat else (march - 9).toNat) ∧
      year = if march < 10 then first else first + 1 := by
    by_cases hjanuary : month ≤ 2
    · exact ⟨month + 9, year - 1, by omega, by rw [if_neg (by omega)]; omega,
        by rw [if_neg (by omega)]; omega⟩
    · exact ⟨month - 3, year, by omega, by rw [if_pos (by omega)]; omega,
        by rw [if_pos (by omega)]⟩
  have hlength : march < 11 →
      (day : Int) ≤ (153 * (march + 1) + 2) / 5 - (153 * march + 2) / 5 := by
    intro hlt
    have := monthLength_of_first hmarch.1 hlt year
    rw [← hname] at this
    omega
  have hfebruary : march = 11 → day ≤ 29 ∧
      (day = 29 → (first + 1) % 4 = 0 ∧ ((first + 1) % 100 ≠ 0 ∨ (first + 1) % 400 = 0)) := by
    rintro rfl
    obtain rfl : month = 2 := hname
    obtain rfl : year = first + 1 := hyear
    rw [monthLength_february] at hday'
    split at hday'
    · rename_i hleap
      exact ⟨hday', fun _ => (isLeapYear_iff _).mp hleap⟩
    · exact ⟨by omega, by omega⟩
  have hindex : (5 * ((153 * march + 2) / 5 + day - 1) + 2) / 153 = march := by
    by_cases hlt : march < 11
    · have := hlength hlt
      omega
    · have := (hfebruary (by omega)).1
      omega
  refine ⟨first / 400, ⟨first % 400, (153 * march + 2) / 5 + day - 1, by omega, by omega, by omega,
    by omega, by omega⟩, ?_⟩
  have hfirst : 400 * (first / 400) + first % 400 = first := by omega
  have hday'' :
      ((153 * march + 2) / 5 + day - 1 - (153 * march + 2) / 5 + 1 : Int).toNat = day := by
    omega
  simp only [CycleDay.toDate, hindex, hfirst, hday'']
  rw [hname, hyear]
  split <;> rfl

theorem toDay_ofDay (n : Int) : toDay (ofDay n) = n := by
  obtain ⟨cycle, c, rfl⟩ := exists_cycle n
  rw [ofDay_cycleDay, toDay_cycleDay]

theorem proper_ofDay (n : Int) : (ofDay n).Proper := by
  obtain ⟨cycle, c, rfl⟩ := exists_cycle n
  rw [ofDay_cycleDay]
  exact proper_cycleDay cycle c

theorem ofDay_toDay {d : Date} (h : d.Proper) : ofDay (toDay d) = d := by
  obtain ⟨cycle, c, rfl⟩ := h.exists_cycleDay
  rw [toDay_cycleDay, ofDay_cycleDay]

end Date

end RecordQuery
