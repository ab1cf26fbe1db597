import RecordQuery.Value.Reader

/-!
# Numbers as words

A number is written without a character that ends a word, so it is read as one. Whole numbers in 64
bits are read back as they were.
-/

namespace RecordQuery

namespace Value

/-- Characters that a reader takes together. -/
def Wordlike (cs : List Char) : Prop := ∀ c ∈ cs, isWordChar c = true

instance (cs : List Char) : Decidable (Wordlike cs) :=
  decidable_of_iff (cs.all isWordChar = true) List.all_eq_true

theorem wordlike_append {cs ds : List Char} :
    Wordlike (cs ++ ds) ↔ Wordlike cs ∧ Wordlike ds := by
  simp only [Wordlike, List.mem_append, or_imp, forall_and]

theorem wordlike_cons {c : Char} {cs : List Char} :
    Wordlike (c :: cs) ↔ isWordChar c = true ∧ Wordlike cs := by
  simp [Wordlike]

theorem wordlike_of_digits {cs : List Char} (h : ∀ c ∈ cs, c.isDigit = true) : Wordlike cs := by
  intro c hc
  simp [isWordChar, Char.isAlphanum, h c hc]

theorem wordlike_replicate_zero (n : Nat) : Wordlike (List.replicate n '0') := by
  intro c hc
  rw [List.eq_of_mem_replicate hc]
  decide

end Value

open Value (Wordlike)

namespace Decimal

theorem isDigit_digitChars {n : Nat} {c : Char} (h : c ∈ digitChars n) : c.isDigit = true :=
  Nat.isDigit_of_mem_toDigits (by decide) (by decide) h

theorem wordlike_digitChars (n : Nat) : Wordlike (digitChars n) :=
  Value.wordlike_of_digits fun _ => isDigit_digitChars

theorem digitChars_ne_nil (n : Nat) : digitChars n ≠ [] := Nat.toDigits_ne_nil

/-- The digits of a number that is not zero do not begin with zero. -/
theorem head?_digitChars {n : Nat} (h : n ≠ 0) : (digitChars n).head? ≠ some '0' := by
  induction n using Nat.strongRecOn with
  | ind n ih =>
    by_cases small : n < 10
    · rw [digitChars, Nat.toDigits_of_lt_base small]
      simpa using h
    · have shorter := ih (n / 10) (by omega) (by omega)
      rw [digitChars, Nat.toDigits_of_base_le (by decide) (by omega), List.head?_append]
      cases hdigits : Nat.toDigits 10 (n / 10) with
      | nil => exact absurd hdigits Nat.toDigits_ne_nil
      | cons c rest =>
        rw [digitChars, hdigits] at shorter
        exact shorter

theorem wordlike_text {layout : Layout} (plus : Wordlike layout.exponentPlus.toList) (d : Decimal) :
    Wordlike (text layout d).toList := by
  have digits := wordlike_digitChars d.digits
  have point : Value.isWordChar '.' = true := by decide
  have part : ∀ {ds : List Char}, (∀ c ∈ ds, c ∈ digitChars d.digits) → Wordlike ds :=
    fun h c hc => digits c (h c hc)
  have power : ∀ n : Nat, Wordlike (toString n).toList := fun n => by
    rw [Nat.toString_eq_ofList_toDigits, String.toList_ofList]
    exact wordlike_digitChars n
  rw [text]
  dsimp only
  split
  · split
    · rw [String.toList_append, String.toList_ofList, Value.wordlike_append, Value.wordlike_append]
      refine ⟨⟨digits, Value.wordlike_replicate_zero _⟩, ?_⟩
      split <;> decide
    · split
      · rw [String.toList_ofList, Value.wordlike_append, Value.wordlike_cons]
        exact ⟨part fun c => List.mem_of_mem_take, point, part fun c => List.mem_of_mem_drop⟩
      · rw [String.toList_ofList, Value.wordlike_append, Value.wordlike_cons, Value.wordlike_cons]
        exact ⟨⟨by decide, point, Value.wordlike_replicate_zero _⟩, digits⟩
  · rw [String.toList_append, String.toList_append, String.toList_ofList, Value.wordlike_append,
      Value.wordlike_append]
    refine ⟨⟨?_, by decide⟩, ?_⟩
    · cases hdigits : digitChars d.digits with
      | nil => decide
      | cons c rest =>
        rw [hdigits] at digits
        cases rest with
        | nil => exact digits
        | cons other rest =>
          exact Value.wordlike_cons.mpr ⟨digits c (by simp), Value.wordlike_cons.mpr
            ⟨point, (Value.wordlike_cons.mp digits).2⟩⟩
    · split
      · rw [String.toList_append, Value.wordlike_append]
        exact ⟨plus, power _⟩
      · rw [String.toList_append, Value.wordlike_append]
        exact ⟨by decide, power _⟩

theorem text_ne_nil (layout : Layout) (d : Decimal) : (text layout d).toList ≠ [] := by
  have digits := digitChars_ne_nil d.digits
  rw [text]
  dsimp only
  split
  · split
    · simp [digits]
    · split <;> simp
  · simp

end Decimal

namespace Number

theorem toList_text_ofNat (n : Nat) : (text (.int n)).toList = Decimal.digitChars n := by
  change (Nat.repr n).toList = _
  rw [Nat.repr_eq_ofList_toDigits, String.toList_ofList, Decimal.digitChars]

theorem toList_text_negSucc (n : Nat) :
    (text (.int (.negSucc n))).toList = '-' :: Decimal.digitChars (n + 1) := by
  change ("-" ++ Nat.repr (n + 1)).toList = _
  simp only [String.toList_append, Nat.repr_eq_ofList_toDigits, String.toList_ofList]
  rfl

/-- A number is written as one word. -/
theorem wordlike_text (n : Number) : Wordlike n.text.toList := by
  cases n with
  | int n =>
    cases n with
    | ofNat n =>
      rw [Int.ofNat_eq_natCast, toList_text_ofNat]
      exact Decimal.wordlike_digitChars n
    | negSucc n =>
      rw [toList_text_negSucc]
      exact Value.wordlike_cons.mpr ⟨by decide, Decimal.wordlike_digitChars _⟩
  | real x =>
    rw [text]
    split
    · rw [Decimal.write, String.toList_append, Value.wordlike_append]
      refine ⟨?_, Decimal.wordlike_text (by decide) _⟩
      split <;> decide
    · decide

theorem text_ne_nil (n : Number) : n.text.toList ≠ [] := by
  cases n with
  | int n =>
    cases n with
    | ofNat n =>
      rw [Int.ofNat_eq_natCast, toList_text_ofNat]
      exact Decimal.digitChars_ne_nil n
    | negSucc n => simp [toList_text_negSucc]
  | real x =>
    rw [text]
    split
    · rw [Decimal.write, String.toList_append]
      exact List.append_ne_nil_of_right_ne_nil _ (Decimal.text_ne_nil _ _)
    · decide

/-! Whole numbers are read back. -/

theorem le_ofDigitChars (ds : List Char) (n : Nat) : n ≤ Nat.ofDigitChars 10 ds n := by
  induction ds generalizing n with
  | nil => exact Nat.le_refl n
  | cons c rest ih => exact Nat.le_trans (by omega) (ih (10 * n + (c.toNat - '0'.toNat)))

/-- Nothing is left over of digits whose value fits a word. -/
theorem absorb_eq {ds : List Char} {significand : Nat}
    (fits : Nat.ofDigitChars 10 ds significand < Word.bound64) :
    absorb significand ds = (Nat.ofDigitChars 10 ds significand, []) := by
  induction ds generalizing significand with
  | nil => rfl
  | cons c rest ih =>
    change Nat.ofDigitChars 10 rest (10 * significand + (c.toNat - '0'.toNat)) < _ at fits
    rw [absorb, if_pos (Nat.lt_of_le_of_lt (le_ofDigitChars rest _) fits), ih fits]
    rfl

theorem wholeDigits_digitChars (n : Nat) : wholeDigits (Decimal.digitChars n) = true := by
  by_cases zero : n = 0
  · subst zero
    decide
  · have head := Decimal.head?_digitChars zero
    cases hdigits : Decimal.digitChars n with
    | nil => exact absurd hdigits (Decimal.digitChars_ne_nil n)
    | cons c rest =>
      rw [hdigits] at head
      have : c ≠ '0' := fun h => head (by simp [h])
      simp [wholeDigits, this]

theorem read?_digitChars {n : Nat} (fits : n < Word.bound64) :
    read? (Decimal.digitChars n) = some (ofSignificand false n) ∧
      read? ('-' :: Decimal.digitChars n) = some (ofSignificand true n) := by
  have digits : ∀ c ∈ Decimal.digitChars n, c.isDigit = true := fun c => Decimal.isDigit_digitChars
  have taken : (Decimal.digitChars n).takeWhile Char.isDigit = Decimal.digitChars n := by
    simpa using @List.takeWhile_append_of_pos _ _ _ [] digits
  have left : (Decimal.digitChars n).dropWhile Char.isDigit = [] := by
    simpa using @List.dropWhile_append_of_pos _ _ _ [] digits
  have value : absorb 0 (Decimal.digitChars n) = (n, []) := by
    have number : Nat.ofDigitChars 10 (Decimal.digitChars n) 0 = n := Nat.ofDigitChars_ten_toDigits
    rw [absorb_eq (by rw [number]; exact fits), number]
  have whole := wholeDigits_digitChars n
  constructor
  · have unsigned : ∀ rest, Decimal.digitChars n ≠ '-' :: rest := by
      intro rest h
      have := digits '-' (h ▸ List.mem_cons_self)
      exact absurd this (by decide)
    rw [read?]
    · simp [taken, left, value, whole]
    · exact unsigned
  · rw [read?]
    simp [taken, left, value, whole]

/-- A whole number in 64 bits, with a sign or without, is read back. -/
theorem read?_text_int {n : Int} (low : -(Word.bound63 : Int) ≤ n) (high : n < Word.bound64) :
    read? (text (.int n)).toList = some (.int n) := by
  cases n with
  | ofNat n =>
    have fits : n < Word.bound64 := Int.ofNat_lt.mp high
    rw [Int.ofNat_eq_natCast, toList_text_ofNat, (read?_digitChars fits).1]
    rfl
  | negSucc n =>
    have small : n + 1 ≤ Word.bound63 := by omega
    have fits : n + 1 < Word.bound64 := Nat.lt_of_le_of_lt small (by decide)
    rw [toList_text_negSucc, (read?_digitChars fits).2, ofSignificand]
    simp [Nat.not_lt.mpr small, Int.negSucc_eq]

end Number

end RecordQuery
