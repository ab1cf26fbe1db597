import RecordQuery.Calendar.Instant
import RecordQuery.Proofs.Calendar.Date

/-!
# Instants read back

An instant is written in universal time to the millisecond. What is written with a year of four
digits is read back as the instant it was, but for what is past the millisecond; a year with a sign
is not read.
-/

namespace RecordQuery

namespace Instant

open Calendar

/-- The instant without what is past the millisecond. -/
def floorMilli (t : Instant) : Instant := ⟨t.seconds, t.nanos / 1000000 * 1000000⟩

/-- An instant of the calendar, which has leap seconds at the end of a minute only. -/
structure Proper (t : Instant) : Prop where
  nanos_lt : t.nanos < 2000000000
  leap : 1000000000 ≤ t.nanos → t.seconds % 60 = 59
  supported : minDay ≤ t.day ∧ t.day ≤ maxDay

/-- A year of four digits. -/
def FourDigitYear (t : Instant) : Prop := 0 ≤ t.date.year ∧ t.date.year ≤ 9999

instance (t : Instant) : Decidable t.FourDigitYear := inferInstanceAs (Decidable (_ ∧ _))

theorem floorMilli_eq_self_iff {t : Instant} : t.floorMilli = t ↔ t.nanos % 1000000 = 0 := by
  obtain ⟨seconds, nanos⟩ := t
  simp only [floorMilli, Instant.mk.injEq, true_and]
  omega

theorem day_floorMilli (t : Instant) : t.floorMilli.day = t.day := rfl

/-! Digits of a fixed width. -/

theorem length_padded {width n : Nat} (pos : 0 < width) (fits : n < 10 ^ width) :
    (padded width n).toList.length = width := by
  have := (Nat.length_toDigits_le_iff (b := 10) (by decide) pos).mpr fits
  simp only [padded, String.toList_ofList, List.length_append, List.length_replicate]
  omega

theorem isDigit_padded {width n : Nat} {c : Char} (h : c ∈ (padded width n).toList) :
    c.isDigit = true := by
  simp only [padded, String.toList_ofList, List.mem_append] at h
  rcases h with h | h
  · rw [List.eq_of_mem_replicate h]
    decide
  · exact Nat.isDigit_of_mem_toDigits (by decide) (by decide) h

theorem ofDigitChars_padded (width n : Nat) :
    Nat.ofDigitChars 10 (padded width n).toList 0 = n := by
  simp only [padded, String.toList_ofList]
  rw [Nat.ofDigitChars_append, Nat.ofDigitChars_replicate_zero, Nat.mul_zero,
    Nat.ofDigitChars_ten_toDigits]

theorem takeDigits?_padded {width n : Nat} (pos : 0 < width) (fits : n < 10 ^ width)
    (rest : List Char) : takeDigits? width ((padded width n).toList ++ rest) = some (n, rest) := by
  have length := length_padded pos fits
  have digits : (padded width n).toList.all Char.isDigit = true :=
    List.all_eq_true.mpr fun _ => isDigit_padded
  have taken : ((padded width n).toList ++ rest).take width = (padded width n).toList := by
    rw [List.take_append_of_le_length (by omega), List.take_of_length_le (by omega)]
  have left : ((padded width n).toList ++ rest).drop width = rest := by
    rw [List.drop_append_of_le_length (by omega), List.drop_eq_nil_of_le (by omega),
      List.nil_append]
  have number := ofDigitChars_padded width n
  rw [Nat.ofDigitChars] at number
  rw [takeDigits?, taken, left, if_pos ⟨length, digits⟩]
  exact congrArg (fun m => some (m, rest)) number

/-- Three digits count millions. -/
theorem takeFraction?_padded {n : Nat} (fits : n < 1000) {c : Char} (hc : c.isDigit = false)
    (rest : List Char) :
    takeFraction? ('.' :: ((padded 3 n).toList ++ c :: rest)) = some (n * 1000000, c :: rest) := by
  have length : (padded 3 n).toList.length = 3 := length_padded (by decide) fits
  have digits : ∀ d ∈ (padded 3 n).toList, Char.isDigit d = true := fun _ => isDigit_padded
  have taken : ((padded 3 n).toList ++ c :: rest).takeWhile Char.isDigit = (padded 3 n).toList := by
    rw [List.takeWhile_append_of_pos digits, List.takeWhile_cons, hc]
    simp
  have left : ((padded 3 n).toList ++ c :: rest).dropWhile Char.isDigit = c :: rest := by
    rw [List.dropWhile_append_of_pos digits, List.dropWhile_cons, hc]
    simp
  have nine : ((padded 3 n).toList ++ List.replicate 9 '0').take 9
      = (padded 3 n).toList ++ List.replicate 6 '0' := by
    rw [List.take_append, List.take_of_length_le (by omega), length]
    rfl
  have number : Nat.ofDigitChars 10 ((padded 3 n).toList ++ List.replicate 6 '0') 0
      = n * 1000000 := by
    rw [Nat.ofDigitChars_append, Nat.ofDigitChars_replicate_zero, ofDigitChars_padded]
    omega
  have nonempty : (padded 3 n).toList ≠ [] := by
    intro h
    simp [h] at length
  simp only [takeFraction?, taken, left, nonempty, ↓reduceIte, nine]
  exact congrArg (fun m => some (m, c :: rest)) number

/-! Reading what is written. -/

/-- The second that is written: the last one of a minute has number 60 if it is a leap second. -/
def writtenSecond (t : Instant) : Nat :=
  t.secondOfDay % 60 + if t.nanos < 1000000000 then 0 else 1

theorem toList_text (t : Instant) :
    t.text.toList = (yearText t.date.year).toList ++ '-' :: ((padded 2 t.date.month).toList ++
      '-' :: ((padded 2 t.date.day).toList ++ 'T' :: ((padded 2 (t.secondOfDay / 3600)).toList ++
      ':' :: ((padded 2 (t.secondOfDay / 60 % 60)).toList ++ ':' ::
      ((padded 2 t.writtenSecond).toList ++ '.' ::
      ((padded 3 (t.nanos % 1000000000 / 1000000)).toList ++ ['Z'])))))) := by
  simp [text, dayText, monthText, writtenSecond]

theorem secondOfDay_lt (t : Instant) : t.secondOfDay < 86400 := by
  simp only [secondOfDay, secondsPerDay]
  omega

theorem seconds_eq (t : Instant) : t.seconds = t.day * secondsPerDay + (t.secondOfDay : Int) := by
  simp only [day, secondOfDay, secondsPerDay]
  omega

theorem secondOfDay_mod (t : Instant) : ((t.secondOfDay % 60 : Nat) : Int) = t.seconds % 60 := by
  simp only [secondOfDay, secondsPerDay]
  omega

theorem day?_date {t : Instant} (year : t.FourDigitYear) :
    Date.day? t.date.year.toNat t.date.month t.date.day = some t.day := by
  have proper : t.date.Proper := Date.proper_ofDay t.day
  have valid : t.date.Valid := proper.valid_iff.mpr (by
    have hmin : minYear = -262143 := rfl
    have hmax : maxYear = 262142 := rfl
    have := year.1
    have := year.2
    omega)
  rw [Int.toNat_of_nonneg year.1, Date.day?, if_pos valid]
  exact congrArg some (Date.toDay_ofDay t.day)

/-- The number of the second tells a leap second. -/
theorem writtenSecond_eq_iff {t : Instant} (h : t.Proper) :
    t.writtenSecond = 60 ↔ 1000000000 ≤ t.nanos := by
  have hsecond := t.secondOfDay_mod
  rw [writtenSecond]
  constructor
  · intro hwritten
    split at hwritten <;> omega
  · intro hleap
    have := h.leap hleap
    rw [if_neg (by omega)]
    omega

/-- What is written with a year of four digits is read back to the millisecond. -/
theorem read?_text {t : Instant} (h : t.Proper) (year : t.FourDigitYear) :
    read? t.text = some t.floorMilli := by
  have proper : t.date.Proper := Date.proper_ofDay t.day
  have hyear : t.date.year.toNat < 10 ^ 4 := by
    have := year.2
    omega
  have hmonth : t.date.month < 10 ^ 2 := by
    have := proper.month_le
    omega
  have hday : t.date.day < 10 ^ 2 := by
    have := proper.day_le
    have := Calendar.monthLength_le t.date.year t.date.month
    omega
  have hlt := t.secondOfDay_lt
  have hwritten : t.writtenSecond < 10 ^ 2 := by
    rw [writtenSecond]
    split <;> omega
  have hyearText : yearText t.date.year = padded 4 t.date.year.toNat := if_pos year
  rw [read?, toList_text, hyearText]
  -- Part after part of the text, in the order of the reader.
  refine Option.bind_eq_some_iff.mpr ⟨_, takeDigits?_padded (by decide) hyear _, ?_⟩
  refine Option.bind_eq_some_iff.mpr ⟨_, rfl, ?_⟩
  refine Option.bind_eq_some_iff.mpr ⟨_, takeDigits?_padded (by decide) hmonth _, ?_⟩
  refine Option.bind_eq_some_iff.mpr ⟨_, rfl, ?_⟩
  refine Option.bind_eq_some_iff.mpr ⟨_, takeDigits?_padded (by decide) hday _, ?_⟩
  refine Option.bind_eq_some_iff.mpr ⟨_, rfl, ?_⟩
  refine Option.bind_eq_some_iff.mpr ⟨_, takeDigits?_padded (by decide) (by omega) _, ?_⟩
  refine Option.bind_eq_some_iff.mpr ⟨_, rfl, ?_⟩
  refine Option.bind_eq_some_iff.mpr ⟨_, takeDigits?_padded (by decide) (by omega) _, ?_⟩
  refine Option.bind_eq_some_iff.mpr ⟨_, rfl, ?_⟩
  refine Option.bind_eq_some_iff.mpr ⟨_, takeDigits?_padded (by decide) hwritten _, ?_⟩
  refine Option.bind_eq_some_iff.mpr ⟨_, takeFraction?_padded (by omega) (by decide) _, ?_⟩
  refine Option.bind_eq_some_iff.mpr ⟨_, rfl, ?_⟩
  refine Option.bind_eq_some_iff.mpr ⟨_, day?_date year, ?_⟩
  have hsixty : t.writtenSecond ≤ 60 := by
    rw [writtenSecond]
    split <;> omega
  have hseconds := t.seconds_eq
  have hnanos := h.nanos_lt
  rw [if_pos ⟨rfl, by omega, by omega, hsixty⟩]
  have hfloor : (⟨t.day * secondsPerDay + ((t.secondOfDay / 3600 * 3600
        + t.secondOfDay / 60 % 60 * 60
        + (t.writtenSecond - if t.writtenSecond = 60 then 1 else 0) : Nat) : Int) - 0,
      t.nanos % 1000000000 / 1000000 * 1000000
        + (if t.writtenSecond = 60 then 1 else 0) * 1000000000⟩ : Instant) = t.floorMilli := by
    simp only [writtenSecond_eq_iff h, floorMilli, Instant.mk.injEq]
    rw [writtenSecond]
    by_cases hleap : 1000000000 ≤ t.nanos
    · rw [if_pos hleap, if_neg (by omega)]
      omega
    · rw [if_neg hleap, if_pos (by omega)]
      omega
  refine (congrArg check? hfloor).trans ?_
  rw [check?, checkDay?, day_floorMilli, if_pos h.supported]
  rfl

/-- A year with a sign is not read. -/
theorem read?_text_of_signed {t : Instant} (year : ¬ t.FourDigitYear) : read? t.text = none := by
  have signed : ∃ c rest, t.text.toList = c :: rest ∧ c.isDigit = false := by
    rw [FourDigitYear] at year
    rw [toList_text, yearText, if_neg year]
    split
    · exact ⟨'+', _, by rw [String.toList_append]; rfl, by decide⟩
    · exact ⟨'-', _, by rw [String.toList_append]; rfl, by decide⟩
  obtain ⟨c, rest, htext, hc⟩ := signed
  have : takeDigits? 4 (c :: rest) = none := by
    rw [takeDigits?, if_neg]
    rintro ⟨_, digits⟩
    simp [hc] at digits
  rw [read?, htext, this]
  rfl

/-! Instants that are read are instants of the calendar. -/

theorem ofDigitChars_lt {ds : List Char} (digits : ∀ c ∈ ds, c.isDigit = true) (n : Nat) :
    Nat.ofDigitChars 10 ds n < (n + 1) * 10 ^ ds.length := by
  induction ds generalizing n with
  | nil => simp [Nat.ofDigitChars]
  | cons c rest ih =>
    have hc : c.toNat - '0'.toNat < 10 := by
      have hdigit := digits c List.mem_cons_self
      simp only [Char.isDigit, Bool.and_eq_true, decide_eq_true_eq, UInt32.le_iff_toNat_le]
        at hdigit
      have := hdigit.2
      change c.toNat - 48 < 10
      change c.toNat ≤ 57 at this
      omega
    have := ih (fun d hd => digits d (List.mem_cons_of_mem c hd)) (10 * n + (c.toNat - '0'.toNat))
    calc Nat.ofDigitChars 10 (c :: rest) n
        < (10 * n + (c.toNat - '0'.toNat) + 1) * 10 ^ rest.length := this
      _ ≤ ((n + 1) * 10) * 10 ^ rest.length := Nat.mul_le_mul_right _ (by omega)
      _ = (n + 1) * 10 ^ (c :: rest).length := by
        rw [List.length_cons, Nat.pow_succ, Nat.mul_assoc, Nat.mul_comm 10]

theorem takeFraction?_lt {cs rest : List Char} {nanos : Nat}
    (h : takeFraction? cs = some (nanos, rest)) : nanos < 1000000000 := by
  unfold takeFraction? at h
  split at h
  · rename_i digits
    dsimp only at h
    split at h
    · cases h
    · obtain ⟨rfl, _⟩ := Prod.mk.inj (Option.some.inj h)
      have each : ∀ c ∈ (digits.takeWhile Char.isDigit ++ List.replicate 9 '0').take 9,
          c.isDigit = true := by
        intro c hc
        rcases List.mem_append.mp (List.mem_of_mem_take hc) with hc | hc
        · exact List.all_eq_true.mp List.all_takeWhile c hc
        · rw [List.eq_of_mem_replicate hc]
          decide
      have length := List.length_take_le 9 (digits.takeWhile Char.isDigit ++ List.replicate 9 '0')
      exact Nat.lt_of_lt_of_le (ofDigitChars_lt each 0)
        (by rw [Nat.one_mul]; exact Nat.pow_le_pow_right (by decide) length)
  · obtain ⟨rfl, _⟩ := Prod.mk.inj (Option.some.inj h)
    decide

/-- Whole minutes. -/
theorem takeOffset?_mod {cs rest : List Char} {offset : Int}
    (h : takeOffset? cs = some (offset, rest)) : offset % 60 = 0 := by
  unfold takeOffset? at h
  split at h
  · obtain ⟨rfl, _⟩ := Prod.mk.inj (Option.some.inj h)
    rfl
  · obtain ⟨rfl, _⟩ := Prod.mk.inj (Option.some.inj h)
    rfl
  · split at h
    · obtain ⟨⟨hours, _⟩, _, h⟩ := Option.bind_eq_some_iff.mp h
      obtain ⟨_, _, h⟩ := Option.bind_eq_some_iff.mp h
      obtain ⟨⟨minutes, _⟩, _, h⟩ := Option.bind_eq_some_iff.mp h
      dsimp only at h
      split at h
      · obtain ⟨rfl, _⟩ := Prod.mk.inj (Option.some.inj h)
        split <;> omega
      · cases h
    · cases h
  · cases h

theorem check?_eq_some {t u : Instant} (h : check? t = some u) :
    u = t ∧ minDay ≤ t.day ∧ t.day ≤ maxDay := by
  obtain ⟨n, hn, rfl⟩ := Option.map_eq_some_iff.mp h
  rw [checkDay?] at hn
  split at hn
  · exact ⟨rfl, ‹_›⟩
  · cases hn

/-- The second 60 is a leap second, whatever whole minutes its clock is ahead. -/
theorem proper_of_clock {n offset : Int} {hour minute second nanos : Nat} {t : Instant}
    (hnanos : nanos < 1000000000) (hoffset : offset % 60 = 0) (hsecond : second ≤ 60)
    (h : check? ⟨n * secondsPerDay + ((hour * 3600 + minute * 60
        + (second - if second = 60 then 1 else 0) : Nat) : Int) - offset,
      nanos + (if second = 60 then 1 else 0) * 1000000000⟩ = some t) : t.Proper := by
  obtain ⟨rfl, supported⟩ := check?_eq_some h
  by_cases hsixty : second = 60
  · subst hsixty
    refine ⟨?_, fun _ => ?_, supported⟩
    · simp only [↓reduceIte]
      omega
    · simp only [↓reduceIte, secondsPerDay]
      omega
  · refine ⟨?_, fun hleap => ?_, supported⟩
    · simp only [hsixty, ↓reduceIte]
      omega
    · simp only [hsixty, ↓reduceIte] at hleap
      omega

theorem proper_of_read? {s : String} {t : Instant} (h : read? s = some t) : t.Proper := by
  rw [read?] at h
  obtain ⟨⟨year, _⟩, _, h⟩ := Option.bind_eq_some_iff.mp h
  obtain ⟨_, _, h⟩ := Option.bind_eq_some_iff.mp h
  obtain ⟨⟨month, _⟩, _, h⟩ := Option.bind_eq_some_iff.mp h
  obtain ⟨_, _, h⟩ := Option.bind_eq_some_iff.mp h
  obtain ⟨⟨day, _⟩, _, h⟩ := Option.bind_eq_some_iff.mp h
  dsimp only at h
  split at h
  case h_4 => cases h
  all_goals
    obtain ⟨_, _, h⟩ := Option.bind_eq_some_iff.mp h
    obtain ⟨⟨hour, _⟩, _, h⟩ := Option.bind_eq_some_iff.mp h
    obtain ⟨_, _, h⟩ := Option.bind_eq_some_iff.mp h
    obtain ⟨⟨minute, _⟩, _, h⟩ := Option.bind_eq_some_iff.mp h
    obtain ⟨_, _, h⟩ := Option.bind_eq_some_iff.mp h
    obtain ⟨⟨second, _⟩, _, h⟩ := Option.bind_eq_some_iff.mp h
    obtain ⟨⟨nanos, _⟩, hfraction, h⟩ := Option.bind_eq_some_iff.mp h
    obtain ⟨⟨offset, _⟩, hoffset, h⟩ := Option.bind_eq_some_iff.mp h
    obtain ⟨n, _, h⟩ := Option.bind_eq_some_iff.mp h
    dsimp only at h
    split at h
    · rename_i hbounds
      exact proper_of_clock (takeFraction?_lt hfraction) (takeOffset?_mod hoffset) hbounds.2.2.2 h
    · cases h

theorem proper_of_ofMillis? {millis : Int} {t : Instant} (h : ofMillis? millis = some t) :
    t.Proper := by
  obtain ⟨rfl, supported⟩ := check?_eq_some h
  refine ⟨?_, fun hleap => ?_, supported⟩
  · dsimp only
    omega
  · dsimp only at hleap
    omega

end Instant

end RecordQuery
