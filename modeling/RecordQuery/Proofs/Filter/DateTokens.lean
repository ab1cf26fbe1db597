import RecordQuery.Filter.Token
import RecordQuery.Proofs.Calendar.Period
import RecordQuery.Proofs.Text.Lines

/-!
# Dates relative to the clock

The tokens of a kind of period stand for its first midnight and for the last millisecond before the
next period's. A number of hours moves the clock itself, days and months move its midnight.
-/

namespace RecordQuery

open Calendar

namespace Instant

theorem toMillis_ofDay (n : Int) : (ofDay n).toMillis = n * 86400000 := by
  simp only [ofDay, toMillis, secondsPerDay]
  omega

theorem toMillis_endOfDay (n : Int) : (endOfDay n).toMillis + 1 = (n + 1) * 86400000 := by
  simp only [endOfDay, toMillis, secondsPerDay]
  omega

theorem midnight_le (t : Instant) : t.day * 86400000 ≤ t.toMillis := by
  simp only [day, toMillis, secondsPerDay]
  omega

/-- Only a leap second comes after the last millisecond of its day. -/
theorem lt_nextMidnight {t : Instant} (noLeapSecond : t.nanos < 1000000000) :
    t.toMillis < (t.day + 1) * 86400000 := by
  simp only [day, toMillis, secondsPerDay]
  omega

end Instant

namespace Period

open DateToken (Fixed)

/-- The token for the beginning of a period. -/
def start : Period → Fixed
  | day => .today
  | week => .startOfWeek
  | month => .startOfMonth
  | year => .startOfYear

/-- The token for the end of a period. -/
def finish : Period → Fixed
  | day => .endOfDay
  | week => .endOfWeek
  | month => .endOfMonth
  | year => .endOfYear

/-- The midnight that a period begins with. -/
def midnight (p : Period) (clock : Instant) : Instant :=
  Instant.ofDay (p.first (p.number clock.day))

/-- The last millisecond before the next period. -/
def lastMilli (p : Period) (clock : Instant) : Instant :=
  Instant.endOfDay (p.first (p.number clock.day + 1) - 1)

theorem toMillis_midnight (p : Period) (clock : Instant) :
    (p.midnight clock).toMillis = p.first (p.number clock.day) * 86400000 :=
  Instant.toMillis_ofDay _

theorem toMillis_lastMilli (p : Period) (clock : Instant) :
    (p.lastMilli clock).toMillis + 1 = p.first (p.number clock.day + 1) * 86400000 := by
  rw [lastMilli, Instant.toMillis_endOfDay, Int.sub_add_cancel]

end Period

namespace DateToken

namespace Fixed

/-- A clock around which every period lies in the supported years. -/
def Reaching (clock : Instant) : Prop :=
  yearStart (-500) ≤ clock.day ∧ clock.day < yearStart 10500

section
variable {clock : Instant}

theorem Reaching.year (h : Reaching clock) :
    -500 ≤ (Date.ofDay clock.day).year ∧ (Date.ofDay clock.day).year < 10500 := by
  have low : (-500 : Int) ≤ Period.year.number clock.day := Period.year.first_le_iff.mp h.1
  have high : ¬ (10500 : Int) ≤ Period.year.number clock.day := fun hle =>
    absurd (Period.year.first_le_iff.mpr hle) (Int.not_le.mpr h.2)
  exact ⟨low, Int.not_le.mp high⟩

/-- Days within a year from such a clock are supported. -/
theorem Reaching.checkDay? (h : Reaching clock) {n : Int} (low : clock.day - 366 ≤ n)
    (high : n ≤ clock.day + 366) : Calendar.checkDay? n = some n := by
  have hbelow : yearStart (-1000) + 366 ≤ yearStart (-500) := by decide +kernel
  have habove : yearStart 10500 + 366 ≤ yearStart 11000 := by decide +kernel
  obtain ⟨hlow, hhigh⟩ := h
  exact (supported_of_modern (by omega) (by omega)).checkDay?

theorem Reaching.startOfYear? (h : Reaching clock) {year : Int}
    (low : (Date.ofDay clock.day).year ≤ year) (high : year ≤ (Date.ofDay clock.day).year + 1) :
    Calendar.startOfYear? year = some (yearStart year) := by
  obtain ⟨hlow, hhigh⟩ := h.year
  have hmin : minYear = -262143 := rfl
  have hmax : maxYear = 262142 := rfl
  exact startOfYear?_eq (by omega) (by omega)

theorem resolve_start (p : Period) (h : Reaching clock) :
    p.start.resolve clock = .ok (p.midnight clock) := by
  have hfirst := p.first_le clock.day
  have hnext := p.lt_first_succ clock.day
  have hspan := p.first_succ_le (p.number clock.day)
  cases p with
  | day => rfl
  | week =>
    have hmonday : clock.day + -daysSinceMonday clock.day
        = Period.week.first (Period.week.number clock.day) := by
      simp only [daysSinceMonday, Period.first, Period.number]
      omega
    have hcheck : Calendar.checkDay? (Period.week.first (Period.week.number clock.day))
        = some _ := h.checkDay? (by omega) (by omega)
    simp only [Period.start, resolve, shiftDay, hmonday, hcheck]
    rfl
  | month =>
    simp only [Period.start, resolve, firstOfMonth, Date.toDay_first]
    rfl
  | year =>
    have hyear := h.startOfYear? (Int.le_refl _) (by omega)
    simp only [Period.start, resolve, hyear, orOutOfRange]
    rfl

theorem resolve_finish (p : Period) (h : Reaching clock) :
    p.finish.resolve clock = .ok (p.lastMilli clock) := by
  have hfirst := p.first_le clock.day
  have hnext := p.lt_first_succ clock.day
  have hspan := p.first_succ_le (p.number clock.day)
  cases p with
  | day =>
    have : clock.day + 1 - 1 = clock.day := by omega
    simp only [Period.finish, resolve, Period.lastMilli, Period.first, Period.number, this]
  | week =>
    have hsunday : clock.day + (6 - daysSinceMonday clock.day)
        = Period.week.first (Period.week.number clock.day + 1) - 1 := by
      simp only [daysSinceMonday, Period.first, Period.number]
      omega
    have hcheck : Calendar.checkDay? (Period.week.first (Period.week.number clock.day + 1) - 1)
        = some _ := h.checkDay? (by omega) (by omega)
    simp only [Period.finish, resolve, shiftDay, hsunday, hcheck]
    rfl
  | month =>
    obtain ⟨hlow, hhigh⟩ := h.year
    have hmin : minYear = -262143 := rfl
    have hmax : maxYear = 262142 := rfl
    have hnumber := Date.year_eq clock.day
    have hadd : addMonths? (monthStart (Date.ofDay clock.day).monthNumber) 1
        = some (monthStart ((Date.ofDay clock.day).monthNumber + 1)) := by
      rw [addMonths?_eq, Date.ofDay_monthStart, Date.monthNumber_inMonth, Date.day_inMonth_one,
        Date.toDay_inMonth_one, if_pos ⟨by omega, by omega⟩]
    simp only [Period.finish, resolve, firstOfMonth, Date.toDay_first, hadd]
    rfl
  | year =>
    have hyear : Calendar.startOfYear? ((Date.ofDay clock.day).year + 1) = some _ :=
      h.startOfYear? (by omega) (by omega)
    simp only [Period.finish, resolve, hyear, orOutOfRange]
    rfl

theorem resolve_yesterday (h : Reaching clock) :
    yesterday.resolve clock = .ok (Instant.ofDay (clock.day - 1)) := by
  have hcheck : Calendar.checkDay? (clock.day + -1) = some _ := h.checkDay? (by omega) (by omega)
  simp only [resolve, shiftDay, hcheck]
  rfl

/-- What a token stands for at a clock around which all periods are supported. -/
def instant (clock : Instant) : Fixed → Instant
  | now => clock
  | yesterday => Instant.ofDay (clock.day - 1)
  | today => Period.day.midnight clock
  | startOfWeek => Period.week.midnight clock
  | startOfMonth => Period.month.midnight clock
  | startOfYear => Period.year.midnight clock
  | endOfDay => Period.day.lastMilli clock
  | endOfWeek => Period.week.lastMilli clock
  | endOfMonth => Period.month.lastMilli clock
  | endOfYear => Period.year.lastMilli clock

theorem resolve_eq (h : Reaching clock) (token : Fixed) :
    token.resolve clock = .ok (token.instant clock) := by
  cases token with
  | now => rfl
  | yesterday => exact resolve_yesterday h
  | today => exact resolve_start .day h
  | startOfWeek => exact resolve_start .week h
  | startOfMonth => exact resolve_start .month h
  | startOfYear => exact resolve_start .year h
  | endOfDay => exact resolve_finish .day h
  | endOfWeek => exact resolve_finish .week h
  | endOfMonth => exact resolve_finish .month h
  | endOfYear => exact resolve_finish .year h

theorem instant_finish (p : Period) : p.finish.instant clock = p.lastMilli clock := by
  cases p <;> rfl

theorem find?_name (token : Fixed) :
    all.find? (fun other => other.name = token.name) = some token := by
  cases token <;> decide

end

end Fixed

/-- The name of a relative token. -/
def relativeName : Unit → Bool → String
  | .hours, false => "$hoursAgo"
  | .hours, true => "$hoursFromNow"
  | .days, false => "$daysAgo"
  | .days, true => "$daysFromNow"
  | .months, false => "$monthsAgo"
  | .months, true => "$monthsFromNow"

theorem relative?_name (unit : Unit) (later : Bool) :
    relative? (relativeName unit later) = some (unit, later) := by
  cases unit <;> cases later <;> rfl

theorem colon_not_mem_relativeName (unit : Unit) (later : Bool) :
    ':' ∉ (relativeName unit later).toList := by
  cases unit <;> cases later <;> decide

theorem find?_relative (unit : Unit) (later : Bool) (amount : String) :
    (Fixed.all.find? fun token => token.name = relativeName unit later ++ ":" ++ amount)
      = none := by
  have colon : ':' ∈ (relativeName unit later ++ ":" ++ amount).toList := by simp
  rw [List.find?_eq_none]
  intro token _ hsame
  rw [← of_decide_eq_true hsame] at colon
  revert colon
  cases token <;> decide

theorem resolve_relative {unit : Unit} {later : Bool} {amount : String} {n : Nat}
    {clock t : Instant} (hn : amount? amount = some n) (h : shift? unit later n clock = some t) :
    resolve (relativeName unit later ++ ":" ++ amount) clock = .ok (some t) := by
  have cut : Text.splitOnce? ':' (relativeName unit later ++ ":" ++ amount)
      = some (relativeName unit later, amount) :=
    Text.splitOnce?_append (colon_not_mem_relativeName unit later) amount
  simp only [resolve, find?_relative, cut, relative?_name, hn, h]

/-- Forward or back. -/
def signed (later : Bool) (n : Nat) : Int := if later then n else -(n : Int)

section
variable (later : Bool) (n : Nat) (clock : Instant)

theorem shift?_hours :
    shift? .hours later n clock = clock.addSeconds? (3600 * signed later n) := rfl

theorem shift?_days :
    shift? .days later n clock = (checkDay? (clock.day + signed later n)).map Instant.ofDay := rfl

theorem shift?_months :
    shift? .months later n clock = (addMonths? clock.day (signed later n)).map Instant.ofDay := rfl

end

/-- A number written in digits is an amount. -/
theorem amount?_toString {n : Nat} (h : n < 2 ^ 32) : amount? (toString n) = some n := by
  have digits : ∀ c ∈ Nat.toDigits 10 n, c.isDigit = true := fun c hc =>
    Nat.isDigit_of_mem_toDigits (by decide) (by decide) hc
  have noSign : ∀ rest, Nat.toDigits 10 n ≠ '+' :: rest := fun rest hplus =>
    absurd (digits '+' (hplus ▸ List.mem_cons_self)) (by decide)
  have value : (Nat.toDigits 10 n).foldl (fun n c => 10 * n + (c.toNat - 48)) 0 = n :=
    Nat.ofDigitChars_ten_toDigits
  have index : Path.index? (toString n) = some n := by
    rw [Path.index?, Nat.toString_eq_ofList_toDigits, String.toList_ofList]
    split
    · rename_i rest hplus
      exact absurd hplus (noSign rest)
    · rw [if_pos ⟨Nat.toDigits_ne_nil, List.all_eq_true.mpr digits⟩, value,
        if_pos (by simp only [Word.bound64]; omega)]
  rw [amount?, index, Option.bind_some, if_pos (by simpa [Word.bound32] using h)]

end DateToken

namespace Token

/-- No text for a caller begins as the name of a date does. -/
theorem resolve_of_date {raw : String} {ctx : FilterContext} {c : Char} {rest : List Char}
    (h : raw.toList = '$' :: c :: rest) (other : c ≠ 'u' ∧ c ≠ 'g' ∧ c ≠ 'a') :
    resolve raw ctx = (DateToken.resolve raw ctx.now).map (·.map Value.ofDate) := by
  obtain ⟨notUser, notGroup, notAll⟩ := other
  have dollar : raw.startsWith "$" = true := by
    rw [String.startsWith_string_iff, h]
    exact ⟨c :: rest, rfl⟩
  have ne : ∀ (text : String) {d : Char} {more : List Char}, text.toList = '$' :: d :: more →
      c ≠ d → raw ≠ text := by
    rintro text d more htext hne rfl
    rw [h] at htext
    exact hne (List.cons.inj (List.cons.inj htext).2).1
  have noAttribute : Text.after? "$user." raw = none := by
    rw [Text.after?, h, if_neg]
    simp [List.isPrefixOf, Ne.symm notUser]
  rw [resolve, dollar, noAttribute]
  simp only [Bool.not_true, Bool.false_eq_true, ↓reduceIte,
    ne "$user" rfl notUser, ne "$group" rfl notGroup, ne "$groups" rfl notGroup,
    ne "$allgroups" rfl notAll]

end Token

namespace DateToken

/-- A text stands for an instant, and a filter reads it as the native date of that instant. -/
structure Names (raw : String) (ctx : FilterContext) (t : Instant) : Prop where
  resolve : DateToken.resolve raw ctx.now = .ok (some t)
  value : Token.resolve raw ctx = .ok (some (Value.ofDate t))

theorem names_of_resolve {raw : String} {ctx : FilterContext} {t : Instant}
    (shape : ∃ c rest, raw.toList = '$' :: c :: rest ∧ c ≠ 'u' ∧ c ≠ 'g' ∧ c ≠ 'a')
    (h : DateToken.resolve raw ctx.now = .ok (some t)) : Names raw ctx t := by
  obtain ⟨c, rest, hraw, other⟩ := shape
  refine ⟨h, ?_⟩
  rw [Token.resolve_of_date hraw other, h]
  rfl

theorem names_fixed {ctx : FilterContext} {token : Fixed} {t : Instant}
    (h : token.resolve ctx.now = .ok t) : Names token.name ctx t := by
  apply names_of_resolve
  · cases token <;> exact ⟨_, _, rfl, by decide⟩
  · simp only [DateToken.resolve, Fixed.find?_name, h]
    rfl

theorem names_relative {ctx : FilterContext} {unit : Unit} {later : Bool} {amount : String}
    {n : Nat} {t : Instant} (hn : amount? amount = some n)
    (h : shift? unit later n ctx.now = some t) :
    Names (relativeName unit later ++ ":" ++ amount) ctx t := by
  apply names_of_resolve
  · simp only [String.toList_append, List.append_assoc]
    cases unit <;> cases later <;> exact ⟨_, _, rfl, by decide⟩
  · exact resolve_relative hn h

/-- How the instants of the tokens stand to each other and to the clock. -/
structure Brackets (clock : Instant) (instant : Fixed → Instant) : Prop where
  now : instant .now = clock
  today : instant .today = Instant.ofDay clock.day
  inOrder : ([.startOfYear, .startOfMonth, .today, .now, .endOfDay, .endOfMonth, .endOfYear].map
    fun token => (instant token).toMillis).IsChain (· ≤ ·)
  weekBegins : (instant .startOfWeek).toMillis ≤ (instant .today).toMillis
  weekEnds : (instant .endOfDay).toMillis ≤ (instant .endOfWeek).toMillis
  fromMonday : ∃ n, daysSinceMonday n = 0 ∧ instant .startOfWeek = Instant.ofDay n ∧
    (instant .endOfWeek).toMillis + 1 = (Instant.ofDay (n + 7)).toMillis
  yesterday : (instant .yesterday).toMillis = (instant .today).toMillis - 86400000

/-- What the relative tokens of an amount stand for, if that is an instant of the supported
years. -/
structure Shifts (ctx : FilterContext) (instant : Fixed → Instant) (amount : String) (later : Bool)
    (change : Int) : Prop where
  days : Supported (ctx.now.day + change) →
    ∃ t, Names (relativeName .days later ++ ":" ++ amount) ctx t ∧
      t.toMillis = (instant .today).toMillis + 86400000 * change
  hours : Supported ((ctx.now.seconds + 3600 * change) / 86400) →
    ∃ t, Names (relativeName .hours later ++ ":" ++ amount) ctx t ∧
      t.toMillis = (instant .now).toMillis + 3600000 * change
  /-- The midnight of the same day of the month, or of the last one of a shorter month. -/
  months : (minYear ≤ (ctx.now.date.monthNumber + change) / 12 ∧
      (ctx.now.date.monthNumber + change) / 12 ≤ maxYear) →
    ∃ n, Names (relativeName .months later ++ ":" ++ amount) ctx (Instant.ofDay n) ∧
      (Date.ofDay n).monthNumber = ctx.now.date.monthNumber + change ∧
      (Date.ofDay n).day
        = min ctx.now.date.day (monthLength (Date.ofDay n).year (Date.ofDay n).month)

theorem brackets_instant {clock : Instant} (noLeapSecond : clock.nanos < 1000000000) :
    Brackets clock (Fixed.instant clock) := by
  have begins := fun p : Period => p.toMillis_midnight clock
  have ends := fun p : Period => p.toMillis_lastMilli clock
  have hweek := Period.week.first_le clock.day
  have hweek' := Period.week.lt_first_succ clock.day
  constructor
  · rfl
  · rfl
  · have hmidnight := clock.midnight_le
    have hnext := Instant.lt_nextMidnight noLeapSecond
    have hyear := Period.year_first_le clock.day
    have hyear' := Period.month_first_succ_le clock.day
    have hmonth := Period.month.first_le clock.day
    have hmonth' := Period.month.lt_first_succ clock.day
    have hdayBegins := begins .day
    have hdayEnds := ends .day
    have hmonthBegins := begins .month
    have hmonthEnds := ends .month
    have hyearBegins := begins .year
    have hyearEnds := ends .year
    simp only [Period.first, Period.number] at hdayBegins hdayEnds
    simp only [Fixed.instant, List.map_cons, List.map_nil, List.isChain_cons_cons,
      List.IsChain.singleton, and_true]
    exact ⟨by omega, by omega, by omega, by omega, by omega, by omega⟩
  · have := begins .week
    have := begins .day
    simp only [Fixed.instant, Period.first, Period.number] at *
    omega
  · have := ends .week
    have := ends .day
    simp only [Fixed.instant, Period.first, Period.number] at *
    omega
  · refine ⟨Period.week.first (Period.week.number clock.day), ?_, rfl, ?_⟩
    · simp only [daysSinceMonday, Period.first]
      omega
    · have := ends .week
      rw [Instant.toMillis_ofDay]
      simp only [Fixed.instant, Period.first] at *
      omega
  · have := begins .day
    simp only [Fixed.instant, Instant.toMillis_ofDay, Period.first, Period.number] at *
    omega

theorem shifts_instant {ctx : FilterContext} (noLeapSecond : ctx.now.nanos < 1000000000)
    {amount : String} {n : Nat} (hn : amount? amount = some n) (later : Bool) :
    Shifts ctx (Fixed.instant ctx.now) amount later (signed later n) where
  days := by
    intro supported
    refine ⟨Instant.ofDay (ctx.now.day + signed later n), names_relative hn ?_, ?_⟩
    · rw [shift?_days, supported.checkDay?, Option.map_some]
    · have := Period.day.toMillis_midnight ctx.now
      rw [Instant.toMillis_ofDay]
      simp only [Fixed.instant, Period.first, Period.number] at *
      omega
  hours := by
    intro supported
    refine ⟨⟨ctx.now.seconds + 3600 * signed later n, ctx.now.nanos⟩, names_relative hn ?_, ?_⟩
    · rw [shift?_hours, Instant.addSeconds?, if_pos (.inl noLeapSecond), Instant.check?]
      exact congrArg (Option.map _) supported.checkDay?
    · simp only [Fixed.instant, Instant.toMillis]
      omega
  months := by
    intro supported
    have hproper : (Date.inMonth (ctx.now.date.monthNumber + signed later n)
        ctx.now.date.day).Proper := Date.proper_inMonth _ (Date.proper_ofDay _).day_pos
    refine ⟨Date.toDay (Date.inMonth (ctx.now.date.monthNumber + signed later n) ctx.now.date.day),
      names_relative hn ?_, ?_, ?_⟩
    · rw [shift?_months, addMonths?_eq]
      exact congrArg (Option.map _) (if_pos supported)
    · rw [Date.ofDay_toDay hproper, Date.monthNumber_inMonth]
    · rw [Date.ofDay_toDay hproper]
      rfl

/-- The tokens of the clock's periods hold the clock between them, the end of each period is one
millisecond before the next one begins, and relative tokens are as far away as they say. -/
theorem tokens_bracket_clock {ctx : FilterContext} (low : 1 ≤ ctx.now.date.year)
    (high : ctx.now.date.year ≤ 9998) (noLeapSecond : ctx.now.nanos < 1000000000) :
    ∃ instant : Fixed → Instant,
      (∀ token, Names token.name ctx (instant token)) ∧ Brackets ctx.now instant ∧
      (∀ (p : Period) (later : FilterContext),
        p.number later.now.day = p.number ctx.now.day + 1 →
          ∃ n, Names p.start.name later (Instant.ofDay n) ∧
            (instant p.finish).toMillis + 1 = (Instant.ofDay n).toMillis) ∧
      (∀ n, n < 2 ^ 32 → amount? (toString n) = some n) ∧
      ∀ amount n, amount? amount = some n → ∀ later,
        Shifts ctx instant amount later (signed later n) := by
  have hlow : yearStart 1 ≤ ctx.now.day := Period.year.first_le_iff.mpr low
  have hhigh : ¬ yearStart 9999 ≤ ctx.now.day := fun hle => by
    have : 9999 ≤ ctx.now.date.year := Period.year.first_le_iff.mp hle
    omega
  have hbelow : yearStart (-500) ≤ yearStart 1 := by decide +kernel
  have habove : yearStart 9999 + 732 ≤ yearStart 10500 := by decide +kernel
  have reaching : Fixed.Reaching ctx.now := ⟨by omega, by omega⟩
  refine ⟨Fixed.instant ctx.now, fun token => names_fixed (Fixed.resolve_eq reaching token),
    brackets_instant noLeapSecond, ?_, fun _ hn => amount?_toString hn,
    fun _ _ hn later => shifts_instant noLeapSecond hn later⟩
  intro p later following
  have hfirst := p.first_le later.now.day
  have hnext := p.lt_first_succ later.now.day
  have hclock := p.first_le ctx.now.day
  have hclock' := p.lt_first_succ ctx.now.day
  have hspan := p.first_succ_le (p.number ctx.now.day)
  have hspan' := p.first_succ_le (p.number ctx.now.day + 1)
  rw [following] at hfirst hnext
  have reachingLater : Fixed.Reaching later.now := ⟨by omega, by omega⟩
  refine ⟨p.first (p.number ctx.now.day + 1), ?_, ?_⟩
  · rw [← following]
    exact names_fixed (Fixed.resolve_start p reachingLater)
  · rw [Fixed.instant_finish, p.toMillis_lastMilli, Instant.toMillis_ofDay]

/-- A clock on the last day of January of a leap year. -/
def lateJanuary : FilterContext := ⟨⟨[], [], []⟩, User.new "u1", ⟨1706715000, 0⟩⟩

theorem tokens_bracket_clock_lateJanuary :
    1 ≤ lateJanuary.now.date.year ∧ lateJanuary.now.date.year ≤ 9998 ∧
      lateJanuary.now.nanos < 1000000000 ∧
      ∃ instant : Fixed → Instant, (∀ token, Names token.name lateJanuary (instant token)) ∧
        Brackets lateJanuary.now instant ∧
        ∃ n, Names "$monthsFromNow:1" lateJanuary (Instant.ofDay n) ∧
          (Date.ofDay n).monthNumber = 12 * 2024 + 1 ∧
          (Date.ofDay n).day = min 31 (monthLength (Date.ofDay n).year (Date.ofDay n).month) := by
  have low : 1 ≤ lateJanuary.now.date.year := by decide +kernel
  have high : lateJanuary.now.date.year ≤ 9998 := by decide +kernel
  have noLeapSecond : lateJanuary.now.nanos < 1000000000 := by decide
  obtain ⟨instant, named, brackets, _, _, shifts⟩ := tokens_bracket_clock low high noLeapSecond
  refine ⟨low, high, noLeapSecond, instant, named, brackets, ?_⟩
  exact (shifts "1" 1 (by decide +kernel) true).months (by decide +kernel)

end DateToken

end RecordQuery
