import RecordQuery.Proofs.Calendar.Date

/-!
# Days, weeks, months and years

Each kind of period cuts the days into consecutive runs, numbered in order: a day lies in the period
whose first day is not after it while the next one's is. Months are counted through the years,
twelve to each, and added to a date by their number, with the day of the month cut to the month's
length.
-/

namespace RecordQuery

namespace Date

open Calendar

/-- Months counted from the beginning of the year 0. -/
def monthNumber (d : Date) : Int := 12 * d.year + d.month - 1

/-- The day of a month by its number, or that month's last day if it is shorter. -/
def inMonth (number : Int) (day : Nat) : Date :=
  ⟨number / 12, (number % 12).toNat + 1,
    min day (monthLength (number / 12) ((number % 12).toNat + 1))⟩

theorem monthNumber_inMonth (number : Int) (day : Nat) :
    (inMonth number day).monthNumber = number := by
  simp only [monthNumber, inMonth]
  omega

theorem proper_inMonth (number : Int) {day : Nat} (h : 1 ≤ day) : (inMonth number day).Proper := by
  have := monthLength_pos (number / 12) ((number % 12).toNat + 1)
  constructor <;> simp only [inMonth] <;> omega

theorem Proper.inMonth_monthNumber {d : Date} (h : d.Proper) : inMonth d.monthNumber d.day = d := by
  obtain ⟨year, month, day⟩ := d
  obtain ⟨hmonth, hmonth', _, hday⟩ := h
  dsimp only at hmonth hmonth' hday
  have hyear : (12 * year + (month : Int) - 1) / 12 = year := by omega
  have hname : ((12 * year + (month : Int) - 1) % 12).toNat + 1 = month := by omega
  simp only [inMonth, monthNumber, hyear, hname]
  rw [Nat.min_eq_left hday]

/-- Within a month the days follow each other. -/
theorem toDay_eq_add (d : Date) : toDay d = toDay { d with day := 1 } + ((d.day : Int) - 1) := by
  simp only [toDay]
  omega

end Date

namespace Calendar

/-- The first day of a month by its number. -/
def monthStart (number : Int) : Int := Date.toDay ⟨number / 12, (number % 12).toNat + 1, 1⟩

/-- The first day of a year. -/
def yearStart (year : Int) : Int := Date.toDay ⟨year, 1, 1⟩

theorem yearStart_eq (year : Int) : yearStart year = monthStart (12 * year) := by
  have hyear : 12 * year / 12 = year := by omega
  have hmonth : 12 * year % 12 = 0 := by omega
  rw [yearStart, monthStart, hyear, hmonth]
  rfl

theorem toDay_next {year : Int} {month : Nat} (pos : 1 ≤ month) (lt : month < 12) :
    Date.toDay ⟨year, month + 1, 1⟩ = Date.toDay ⟨year, month, 1⟩ + monthLength year month := by
  by_cases hfebruary : month = 2
  · subst hfebruary
    rw [monthLength_february]
    by_cases hleap : isLeapYear year = true
    · rw [if_pos hleap]
      rw [isLeapYear_iff] at hleap
      simp [Date.toDay]
      omega
    · rw [if_neg hleap]
      rw [isLeapYear_iff] at hleap
      simp [Date.toDay]
      omega
  · interval_cases month
    all_goals
      simp [Date.toDay, monthLength]
      omega

/-- A month begins where the one before it ends. -/
theorem monthStart_succ (number : Int) :
    monthStart (number + 1)
      = monthStart number + monthLength (number / 12) ((number % 12).toNat + 1) := by
  by_cases hlast : number % 12 = 11
  · have hyear : (number + 1) / 12 = number / 12 + 1 := by omega
    have hmonth : (number + 1) % 12 = 0 := by omega
    rw [monthStart, monthStart, hyear, hmonth, hlast]
    simp [Date.toDay, monthLength]
    omega
  · have hyear : (number + 1) / 12 = number / 12 := by omega
    have hmonth : ((number + 1) % 12).toNat = (number % 12).toNat + 1 := by omega
    rw [monthStart, monthStart, hyear, hmonth]
    exact toDay_next (by omega) (by omega)

theorem monthStart_lt_succ (number : Int) : monthStart number < monthStart (number + 1) := by
  have := monthLength_pos (number / 12) ((number % 12).toNat + 1)
  rw [monthStart_succ]
  omega

theorem monthStart_mono {a b : Int} (h : a ≤ b) : monthStart a ≤ monthStart b := by
  obtain ⟨n, rfl⟩ : ∃ n : Nat, b = a + n := ⟨(b - a).toNat, by omega⟩
  clear h
  induction n with
  | zero => simp
  | succ n ih =>
    have := monthStart_lt_succ (a + n)
    rw [Nat.cast_succ, ← add_assoc]
    omega

theorem yearStart_succ_le (year : Int) : yearStart (year + 1) ≤ yearStart year + 366 := by
  simp only [yearStart, Date.toDay]
  omega

end Calendar

namespace Date

open Calendar

theorem year_eq (n : Int) : (ofDay n).year = (ofDay n).monthNumber / 12 :=
  (congrArg Date.year (proper_ofDay n).inMonth_monthNumber).symm

theorem month_eq (n : Int) : (ofDay n).month = ((ofDay n).monthNumber % 12).toNat + 1 :=
  (congrArg Date.month (proper_ofDay n).inMonth_monthNumber).symm

theorem toDay_first (n : Int) :
    toDay { ofDay n with day := 1 } = monthStart (ofDay n).monthNumber := by
  rw [monthStart, ← year_eq, ← month_eq]

/-- A day is the first of its month and the days of the month before it. -/
theorem day_eq (n : Int) :
    n = monthStart (ofDay n).monthNumber + (((ofDay n).day : Int) - 1) := by
  rw [← toDay_first, ← toDay_eq_add, toDay_ofDay]

theorem day_lt_monthStart_succ (n : Int) : n < monthStart ((ofDay n).monthNumber + 1) := by
  have hday := (proper_ofDay n).day_le
  have := day_eq n
  rw [monthStart_succ, ← year_eq, ← month_eq]
  omega

theorem inMonth_one (number : Int) :
    inMonth number 1 = ⟨number / 12, (number % 12).toNat + 1, 1⟩ := by
  rw [inMonth, Nat.min_eq_left (monthLength_pos _ _)]

theorem toDay_inMonth_one (number : Int) : toDay (inMonth number 1) = monthStart number := by
  rw [inMonth_one, monthStart]

theorem day_inMonth_one (number : Int) : (inMonth number 1).day = 1 := by
  rw [inMonth_one]

theorem ofDay_monthStart (number : Int) : ofDay (monthStart number) = inMonth number 1 := by
  rw [← toDay_inMonth_one, ofDay_toDay (proper_inMonth number (Nat.le_refl 1))]

end Date

namespace Calendar

/-- Months are added to the number of the month. The day is cut to the new month's length. -/
theorem addMonths?_eq (n months : Int) :
    addMonths? n months
      = if minYear ≤ ((Date.ofDay n).monthNumber + months) / 12 ∧
          ((Date.ofDay n).monthNumber + months) / 12 ≤ maxYear then
        some (Date.toDay (Date.inMonth ((Date.ofDay n).monthNumber + months) (Date.ofDay n).day))
      else none := by
  have htotal : (Date.ofDay n).year * 12 + ((Date.ofDay n).month : Int) - 1 + months
      = (Date.ofDay n).monthNumber + months := by
    rw [Date.monthNumber]
    omega
  have hproper := Date.proper_inMonth ((Date.ofDay n).monthNumber + months)
    (Date.proper_ofDay n).day_pos
  rw [addMonths?, htotal]
  change (if (Date.inMonth _ _).Valid then _ else none) = _
  simp only [hproper.valid_iff]
  rfl

/-- A day of the supported years. -/
def Supported (n : Int) : Prop := minDay ≤ n ∧ n ≤ maxDay

instance (n : Int) : Decidable (Supported n) := inferInstanceAs (Decidable (_ ∧ _))

theorem Supported.checkDay? {n : Int} (h : Supported n) : checkDay? n = some n := if_pos h

theorem supported_of_modern {n : Int} (low : yearStart (-1000) ≤ n) (high : n < yearStart 11000) :
    Supported n := by
  have hmin : minDay ≤ yearStart (-1000) := by decide +kernel
  have hmax : yearStart 11000 ≤ maxDay := by decide +kernel
  exact ⟨by omega, by omega⟩

theorem startOfYear?_eq {year : Int} (low : minYear ≤ year) (high : year ≤ maxYear) :
    startOfYear? year = some (yearStart year) := by
  have hproper : Date.Proper ⟨year, 1, 1⟩ :=
    ⟨by simp, by simp, by simp, monthLength_pos year 1⟩
  rw [startOfYear?, Date.day?, if_pos (hproper.valid_iff.mpr ⟨low, high⟩), yearStart]

end Calendar

/-- The kinds of runs that days are counted in. -/
inductive Period
  | day
  | week
  | month
  | year
  deriving DecidableEq, Repr

namespace Period

open Calendar

/-- The number of the period that a day lies in. -/
def number : Period → Int → Int
  | day, n => n
  | week, n => (n + 3) / 7
  | month, n => (Date.ofDay n).monthNumber
  | year, n => (Date.ofDay n).year

/-- The first day of a period by its number. -/
def first : Period → Int → Int
  | day, number => number
  | week, number => 7 * number - 3
  | month, number => monthStart number
  | year, number => yearStart number

theorem first_le (p : Period) (n : Int) : p.first (p.number n) ≤ n := by
  have hmonth : monthStart (Date.ofDay n).monthNumber ≤ n := by
    have := (Date.proper_ofDay n).day_pos
    have := Date.day_eq n
    omega
  cases p with
  | day => exact Int.le_refl n
  | week =>
    simp only [first, number]
    omega
  | month => exact hmonth
  | year =>
    refine Int.le_trans ?_ hmonth
    simp only [first, number]
    rw [yearStart_eq, Date.year_eq]
    exact monthStart_mono (by omega)

theorem lt_first_succ (p : Period) (n : Int) : n < p.first (p.number n + 1) := by
  have hmonth := Date.day_lt_monthStart_succ n
  cases p with
  | day => exact Int.lt_succ n
  | week =>
    simp only [first, number]
    omega
  | month => exact hmonth
  | year =>
    refine Int.lt_of_lt_of_le hmonth ?_
    simp only [first, number]
    rw [yearStart_eq, Date.year_eq]
    exact monthStart_mono (by omega)

theorem first_mono (p : Period) {a b : Int} (h : a ≤ b) : p.first a ≤ p.first b := by
  cases p with
  | day => exact h
  | week => simp only [first]; omega
  | month => exact monthStart_mono h
  | year =>
    simp only [first, yearStart_eq]
    exact monthStart_mono (by omega)

/-- A period has begun exactly if the day lies in it or in a later one. -/
theorem first_le_iff (p : Period) {k n : Int} : p.first k ≤ n ↔ k ≤ p.number n := by
  constructor
  · intro h
    by_cases hle : k ≤ p.number n
    · exact hle
    · have := p.first_mono (show p.number n + 1 ≤ k by omega)
      have := p.lt_first_succ n
      omega
  · intro h
    exact Int.le_trans (p.first_mono h) (p.first_le n)

theorem first_succ_le (p : Period) (number : Int) :
    p.first (number + 1) ≤ p.first number + 366 := by
  cases p with
  | day => simp only [first]; omega
  | week => simp only [first]; omega
  | month =>
    have := monthLength_le (number / 12) ((number % 12).toNat + 1)
    simp only [first, monthStart_succ]
    omega
  | year => exact yearStart_succ_le number

/-- A month lies within one year. -/
theorem year_first_le (n : Int) : year.first (year.number n) ≤ month.first (month.number n) := by
  simp only [first, number]
  rw [yearStart_eq, Date.year_eq]
  exact monthStart_mono (by omega)

theorem month_first_succ_le (n : Int) :
    month.first (month.number n + 1) ≤ year.first (year.number n + 1) := by
  simp only [first, number]
  rw [yearStart_eq, Date.year_eq]
  exact monthStart_mono (by omega)

end Period

end RecordQuery
