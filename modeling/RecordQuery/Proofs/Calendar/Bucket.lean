import RecordQuery.Calendar.Bucket
import RecordQuery.Proofs.Calendar.Period
import RecordQuery.Proofs.Text.Figures
import RecordQuery.Proofs.Value.Order

/-!
# Labels of periods

Days, weeks, months, quarters and years are numbered runs of days, and a label spells its run in
figures of fixed width, the greatest unit first. So in the years of four digits labels tell runs
apart and stand in the order of time. A week is labelled with the year of its Thursday, which rises
with the weeks as the calendar's year does with the days.
-/

namespace RecordQuery

/-- Later days lie in no earlier periods. -/
theorem Period.number_mono (p : Period) {m n : Int} (h : m ≤ n) : p.number m ≤ p.number n :=
  p.first_le_iff.mp (Int.le_trans (p.first_le m) h)

namespace Instant

/-- The year has four digits and no leading zero. -/
def FullYear (t : Instant) : Prop := 1000 ≤ t.date.year ∧ t.date.year ≤ 9999

instance (t : Instant) : Decidable t.FullYear := inferInstanceAs (Decidable (_ ∧ _))

theorem day_le_of_compare {s t : Instant} (h : s.compare t ≠ .gt) : s.day ≤ t.day := by
  have : s.seconds ≤ t.seconds := by
    rw [compare] at h
    by_cases before : s.seconds < t.seconds
    · omega
    · by_cases after : t.seconds < s.seconds
      · simp [before, after] at h
      · omega
  simp only [day, secondsPerDay]
  omega

end Instant

namespace Bucket

open Calendar

/-- Both instants lie in one day, one week from Monday to Sunday, one month, one quarter or one year
of the calendar. -/
def SamePeriod (s t : Instant) : Bucket → Prop
  | day => s.date = t.date
  | week => ∃ monday, daysSinceMonday monday = 0 ∧ (monday ≤ s.day ∧ s.day < monday + 7) ∧
      (monday ≤ t.day ∧ t.day < monday + 7)
  | month => s.date.year = t.date.year ∧ s.date.month = t.date.month
  | quarter => s.date.year = t.date.year ∧ ∃ q < 4,
      (3 * q + 1 ≤ s.date.month ∧ s.date.month ≤ 3 * q + 3) ∧
      (3 * q + 1 ≤ t.date.month ∧ t.date.month ≤ 3 * q + 3)
  | year => s.date.year = t.date.year

/-- The number of the period that a day lies in. -/
def number (n : Int) : Bucket → Int
  | day => Period.day.number n
  | week => Period.week.number n
  | month => Period.month.number n
  | quarter => Period.month.number n / 3
  | year => Period.year.number n

theorem number_mono (b : Bucket) {m n : Int} (h : m ≤ n) : b.number m ≤ b.number n := by
  cases b with
  | day => exact Period.day.number_mono h
  | week => exact Period.week.number_mono h
  | month => exact Period.month.number_mono h
  | quarter =>
    have := Period.month.number_mono h
    simp only [number]
    omega
  | year => exact Period.year.number_mono h

theorem samePeriod_iff (b : Bucket) (s t : Instant) :
    b.SamePeriod s t ↔ b.number s.day = b.number t.day := by
  have hs := Date.proper_ofDay s.day
  have ht := Date.proper_ofDay t.day
  have monthNumber : ∀ n, (Date.ofDay n).monthNumber
      = 12 * (Date.ofDay n).year + (Date.ofDay n).month - 1 := fun _ => rfl
  have := hs.month_pos
  have := hs.month_le
  have := ht.month_pos
  have := ht.month_le
  cases b with
  | day =>
    constructor
    · intro same
      have := congrArg Date.toDay (show Date.ofDay s.day = Date.ofDay t.day from same)
      rwa [Date.toDay_ofDay, Date.toDay_ofDay] at this
    · intro same
      exact congrArg Date.ofDay same
  | week =>
    simp only [SamePeriod, number, Period.number, daysSinceMonday]
    constructor
    · rintro ⟨monday, _, _, _⟩
      omega
    · intro same
      exact ⟨7 * ((s.day + 3) / 7) - 3, by omega, by omega, by omega⟩
  | month =>
    simp only [SamePeriod, number, Period.number, Instant.date, monthNumber]
    omega
  | quarter =>
    simp only [SamePeriod, number, Period.number, Instant.date, monthNumber]
    constructor
    · rintro ⟨_, q, _, _, _⟩
      omega
    · intro same
      exact ⟨by omega, ((Date.ofDay s.day).month - 1) / 3, by omega, by omega, by omega⟩
  | year => exact Iff.rfl

/-! Weeks are told by their Thursdays. -/

theorem weekOf_eq (n : Int) :
    weekOf n = ⟨(Date.ofDay (7 * Period.week.number n)).year,
      ((7 * Period.week.number n - yearStart (Date.ofDay (7 * Period.week.number n)).year) / 7
        + 1).toNat⟩ := by
  have thursday : n - daysSinceMonday n + 3 = 7 * Period.week.number n := by
    simp only [daysSinceMonday, Period.number]
    omega
  rw [weekOf, thursday]
  rfl

/-- The days of the years of four digits. -/
theorem day_bounds {t : Instant} (h : t.FullYear) :
    yearStart 1000 ≤ t.day ∧ t.day < yearStart 10000 := by
  have hlow : Period.year.first 1000 ≤ t.day := Period.year.first_le_iff.mpr h.1
  have hhigh : ¬ Period.year.first 10000 ≤ t.day := by
    rw [Period.year.first_le_iff]
    have : Period.year.number t.day = t.date.year := rfl
    have := h.2
    omega
  exact ⟨hlow, Int.not_le.mp hhigh⟩

/-- The Thursdays of these years' days lie in these years, too. -/
theorem weekYear_bounds {t : Instant} (h : t.FullYear) :
    1000 ≤ (weekOf t.day).year ∧ (weekOf t.day).year ≤ 9999 := by
  obtain ⟨low, high⟩ := day_bounds h
  have first : yearStart 1000 = -354285 := by decide +kernel
  have last : yearStart 10000 = 2932897 := by decide +kernel
  have hlow : 1000 ≤ Period.year.number (7 * Period.week.number t.day) := by
    rw [← Period.year.first_le_iff, Period.first, first]
    simp only [Period.number]
    omega
  have hhigh : ¬ 10000 ≤ Period.year.number (7 * Period.week.number t.day) := by
    rw [← Period.year.first_le_iff, Period.first, last]
    simp only [Period.number]
    omega
  rw [weekOf_eq]
  exact ⟨hlow, by simp only [Period.number] at hhigh ⊢; omega⟩

/-- No year has more than 53 weeks. -/
theorem weekNumber_lt (n : Int) : (weekOf n).number < 10 ^ 2 := by
  have inYear := Period.year.lt_first_succ (7 * Period.week.number n)
  have length := Period.year.first_succ_le (Period.year.number (7 * Period.week.number n))
  rw [weekOf_eq]
  simp only [Period.first, Period.number] at inYear length ⊢
  omega

/-! What a label spells. -/

/-- The separators and widths of a label's figures. -/
def shape : Bucket → List (String × Nat)
  | day => [("", 4), ("-", 2), ("-", 2)]
  | week => [("", 4), ("-W", 2)]
  | month => [("", 4), ("-", 2)]
  | quarter => [("", 4), ("-Q", 1)]
  | year => [("", 4)]

/-- The figures of the period that a day lies in. -/
def figures (n : Int) : Bucket → List Nat
  | day => [(Date.ofDay n).year.toNat, (Date.ofDay n).month, (Date.ofDay n).day]
  | week => [(weekOf n).year.toNat, (weekOf n).number]
  | month => [(Date.ofDay n).year.toNat, (Date.ofDay n).month]
  | quarter => [(Date.ofDay n).year.toNat, ((Date.ofDay n).month - 1) / 3 + 1]
  | year => [(Date.ofDay n).year.toNat]

theorem yearText_eq {y : Int} (low : 1000 ≤ y) (high : y ≤ 9999) :
    Instant.yearText y = Instant.padded 4 y.toNat ∧ toString y = Instant.padded 4 y.toNat := by
  obtain ⟨n, rfl⟩ := Int.eq_ofNat_of_zero_le (show 0 ≤ y by omega)
  refine ⟨if_pos ⟨by omega, high⟩, ?_⟩
  have written : toString (n : Int) = toString n := rfl
  rw [written, Int.toNat_natCast]
  exact Text.toString_eq_padded (by omega)

theorem toList_label (b : Bucket) {t : Instant} (h : t.FullYear) :
    (b.label t).toList = Text.spell b.shape (b.figures t.day) := by
  obtain ⟨yearText, year⟩ := yearText_eq h.1 h.2
  have weekYear := (yearText_eq (weekYear_bounds h).1 (weekYear_bounds h).2).2
  have quarter : toString ((t.date.month - 1) / 3 + 1)
      = Instant.padded 1 ((t.date.month - 1) / 3 + 1) := Text.toString_eq_padded (by omega)
  cases b with
  | day =>
    rw [label, Instant.dayText, Instant.monthText, yearText]
    simp [shape, figures, Text.spell, Instant.date]
  | week => simp [label, weekYear, shape, figures, Text.spell]
  | month =>
    rw [label, Instant.monthText, yearText]
    simp [shape, figures, Text.spell, Instant.date]
  | quarter =>
    rw [label, quarter, year]
    simp [shape, figures, Text.spell, Instant.date]
  | year =>
    rw [label, year]
    simp [shape, figures, Text.spell, Instant.date]

/-- The figures have the widths that labels give them. -/
theorem fits_figures (b : Bucket) {t : Instant} (h : t.FullYear) :
    Text.Fits b.shape (b.figures t.day) := by
  have proper := Date.proper_ofDay t.day
  have month := proper.month_le
  have monthDay := Nat.le_trans proper.day_le (monthLength_le _ _)
  have year : (Date.ofDay t.day).year.toNat < 10 ^ 4 := by
    have : (Date.ofDay t.day).year ≤ 9999 := h.2
    omega
  cases b with
  | day => exact .cons ⟨by decide, year⟩ (.cons ⟨by decide, by dsimp only; omega⟩
      (.cons ⟨by decide, by dsimp only; omega⟩ .nil))
  | week =>
    have weekYear : (weekOf t.day).year.toNat < 10 ^ 4 := by
      have := (weekYear_bounds h).2
      omega
    exact .cons ⟨by decide, weekYear⟩ (.cons ⟨by decide, weekNumber_lt t.day⟩ .nil)
  | month => exact .cons ⟨by decide, year⟩ (.cons ⟨by decide, by dsimp only; omega⟩ .nil)
  | quarter => exact .cons ⟨by decide, year⟩ (.cons ⟨by decide, by dsimp only; omega⟩ .nil)
  | year => exact .cons ⟨by decide, year⟩ .nil

/-- The figures are those of the period. -/
theorem figures_congr (b : Bucket) {m n : Int} (same : b.number m = b.number n) :
    b.figures m = b.figures n := by
  have years := Date.year_eq
  have months := Date.month_eq
  cases b with
  | day => exact congrArg (figures · day) same
  | week =>
    have same : Period.week.number m = Period.week.number n := same
    rw [figures, figures, weekOf_eq, weekOf_eq, same]
  | month =>
    have same : (Date.ofDay m).monthNumber = (Date.ofDay n).monthNumber := same
    rw [figures, figures, years m, months m, same, ← years, ← months]
  | quarter =>
    have same : (Date.ofDay m).monthNumber / 3 = (Date.ofDay n).monthNumber / 3 := same
    have year : (Date.ofDay m).year = (Date.ofDay n).year := by
      rw [years m, years n]
      omega
    have quarter : ((Date.ofDay m).month - 1) / 3 = ((Date.ofDay n).month - 1) / 3 := by
      rw [months m, months n]
      omega
    rw [figures, figures, year, quarter]
  | year => exact congrArg (fun y : Int => [y.toNat]) same

/-- Of two months the earlier is in an earlier year or stands earlier in its year. -/
theorem year_month_lt {m n : Int} (nonneg : 0 ≤ (Date.ofDay m).year)
    (lt : (Date.ofDay m).monthNumber < (Date.ofDay n).monthNumber) :
    (Date.ofDay m).year.toNat < (Date.ofDay n).year.toNat ∨
      (Date.ofDay m).year.toNat = (Date.ofDay n).year.toNat ∧
        (Date.ofDay m).month < (Date.ofDay n).month := by
  have := (Date.proper_ofDay m).month_pos
  have := (Date.proper_ofDay m).month_le
  have := (Date.proper_ofDay n).month_pos
  have := (Date.proper_ofDay n).month_le
  simp only [Date.monthNumber] at lt
  omega

/-- Of two days of one month the earlier has the smaller number. -/
theorem dayOfMonth_lt {m n : Int} (same : (Date.ofDay m).monthNumber = (Date.ofDay n).monthNumber)
    (lt : m < n) : (Date.ofDay m).day < (Date.ofDay n).day := by
  have hm := Date.day_eq m
  have hn := Date.day_eq n
  rw [same] at hm
  omega

/-- Of two weeks the earlier is in an earlier week-numbering year or has a smaller number. -/
theorem weekOf_lt {m n : Int} (lt : Period.week.number m < Period.week.number n) :
    (weekOf m).year < (weekOf n).year ∨
      (weekOf m).year = (weekOf n).year ∧ (weekOf m).number < (weekOf n).number := by
  have years : (weekOf m).year ≤ (weekOf n).year := by
    rw [weekOf_eq, weekOf_eq]
    exact Period.year.number_mono (by omega)
  rcases Int.lt_or_eq_of_le years with before | same
  · exact .inl before
  · have begun := Period.year.first_le (7 * Period.week.number m)
    refine .inr ⟨same, ?_⟩
    rw [weekOf_eq, weekOf_eq] at same ⊢
    simp only [Period.first, Period.number] at same begun lt ⊢
    rw [← same]
    omega

/-- Later periods have later figures. -/
theorem figures_lt (b : Bucket) {s t : Instant} (hs : s.FullYear) (ht : t.FullYear)
    (lt : b.number s.day < b.number t.day) : b.figures s.day < b.figures t.day := by
  have low : 1000 ≤ (Date.ofDay s.day).year := hs.1
  have cons_lt : ∀ {i j : Nat} {is js : List Nat}, i < j ∨ i = j ∧ is < js → i :: is < j :: js :=
    List.cons_lt_cons_iff.mpr
  cases b with
  | day =>
    have months : (Date.ofDay s.day).monthNumber ≤ (Date.ofDay t.day).monthNumber :=
      Period.month.number_mono (Int.le_of_lt lt)
    rcases Int.lt_or_eq_of_le months with before | same
    · rcases year_month_lt (by omega) before with year | ⟨year, month⟩
      · exact cons_lt (.inl year)
      · exact cons_lt (.inr ⟨year, cons_lt (.inl month)⟩)
    · rw [figures, figures, Date.year_eq, Date.year_eq, Date.month_eq, Date.month_eq, same]
      exact cons_lt (.inr ⟨rfl, cons_lt (.inr ⟨rfl, cons_lt (.inl (dayOfMonth_lt same lt))⟩)⟩)
  | week =>
    have low := (weekYear_bounds hs).1
    rcases weekOf_lt lt with year | ⟨year, number⟩
    · exact cons_lt (.inl (by omega))
    · exact cons_lt (.inr ⟨congrArg Int.toNat year, cons_lt (.inl number)⟩)
  | month =>
    rcases year_month_lt (by omega) lt with year | ⟨year, month⟩
    · exact cons_lt (.inl year)
    · exact cons_lt (.inr ⟨year, cons_lt (.inl month)⟩)
  | quarter =>
    have lt : (Date.ofDay s.day).monthNumber / 3 < (Date.ofDay t.day).monthNumber / 3 := lt
    have before : (Date.ofDay s.day).monthNumber < (Date.ofDay t.day).monthNumber := by omega
    rcases year_month_lt (by omega) before with year | ⟨year, _⟩
    · exact cons_lt (.inl year)
    · refine cons_lt (.inr ⟨year, cons_lt (.inl ?_)⟩)
      have := (Date.proper_ofDay s.day).month_pos
      have high : 1000 ≤ (Date.ofDay t.day).year := ht.1
      simp only [Date.monthNumber] at lt
      omega
  | year =>
    have lt : (Date.ofDay s.day).year < (Date.ofDay t.day).year := lt
    exact cons_lt (.inl (by omega))

/-! Labels in the order of time. -/

theorem label_lt_of_number_lt (b : Bucket) {s t : Instant} (hs : s.FullYear) (ht : t.FullYear)
    (lt : b.number s.day < b.number t.day) : b.label s < b.label t := by
  have spelled := Text.spell_lt (b.fits_figures hs) (b.fits_figures ht) (b.figures_lt hs ht lt)
  rwa [← b.toList_label hs, ← b.toList_label ht] at spelled

theorem label_eq_of_number_eq (b : Bucket) {s t : Instant} (hs : s.FullYear) (ht : t.FullYear)
    (same : b.number s.day = b.number t.day) : b.label s = b.label t := by
  rw [← String.toList_inj, b.toList_label hs, b.toList_label ht, b.figures_congr same]

/-- Labels tell periods apart and name each alike. -/
theorem label_eq_iff (b : Bucket) {s t : Instant} (hs : s.FullYear) (ht : t.FullYear) :
    b.label s = b.label t ↔ b.SamePeriod s t := by
  rw [samePeriod_iff]
  constructor
  · intro same
    rcases lt_trichotomy (b.number s.day) (b.number t.day) with lt | equal | gt
    · exact absurd (b.label_lt_of_number_lt hs ht lt) (same ▸ String.lt_irrefl _)
    · exact equal
    · exact absurd (b.label_lt_of_number_lt ht hs gt) (same ▸ String.lt_irrefl _)
  · exact b.label_eq_of_number_eq hs ht

/-- An earlier instant has no later label. -/
theorem label_le (b : Bucket) {s t : Instant} (hs : s.FullYear) (ht : t.FullYear)
    (before : s.compare t ≠ .gt) : b.label s < b.label t ∨ b.label s = b.label t := by
  rcases Int.lt_or_eq_of_le (b.number_mono (Instant.day_le_of_compare before)) with lt | same
  · exact .inl (b.label_lt_of_number_lt hs ht lt)
  · exact .inr (b.label_eq_of_number_eq hs ht same)

/-- A later label is that of a later instant. -/
theorem lt_of_label_lt (b : Bucket) {s t : Instant} (hs : s.FullYear) (ht : t.FullYear)
    (lt : b.label s < b.label t) : s.compare t = .lt := by
  by_contra later
  have notAfter : t.compare s ≠ .gt := mt Std.OrientedCmp.lt_of_gt later
  rcases b.label_le ht hs notAfter with gt | same
  · exact String.lt_irrefl _ (String.lt_trans lt gt)
  · exact String.lt_irrefl _ (same ▸ lt)

theorem plain_shape (b : Bucket) : ∀ part ∈ b.shape, ∀ c ∈ part.1.toList, Text.Plain c := by
  cases b <;> simp [shape, Text.Plain]

theorem plain_label (b : Bucket) {t : Instant} (h : t.FullYear) :
    ∀ c ∈ (b.label t).toList, Text.Plain c := by
  rw [b.toList_label h]
  exact Text.plain_spell b.plain_shape _

/-- An earlier instant has no label of later bytes. -/
theorem bytes_label_le (b : Bucket) {s t : Instant} (hs : s.FullYear) (ht : t.FullYear)
    (before : s.compare t ≠ .gt) : ¬ Text.bytes (b.label t) < Text.bytes (b.label s) := by
  rcases b.label_le hs ht before with lt | same
  · exact List.lt_asymm (Text.bytes_lt (b.plain_label hs) (b.plain_label ht) lt)
  · rw [same]
    exact List.lt_irrefl _

end Bucket

end RecordQuery
