import Mathlib.Data.List.Chain
import RecordQuery.Pattern.CharSet

/-!
# Letters without their case

The small letter of a capital is no capital, and the letter that a variant stands for is neither a
capital nor a variant. So a letter stays the same however often its case is dropped, and the forms
of a letter are all characters that become the same letter without it.
-/

namespace RecordQuery

namespace Letter

theorem toNat_ofNat {n : Nat} (h : n.isValidChar) : (Char.ofNat n).toNat = n := by
  rw [Char.ofNat, dif_pos h]
  rfl

namespace CapitalRun

/-- Whether a code point is one of the capitals of the run. -/
def Has (run : CapitalRun) (n : Nat) : Prop :=
  run.first ≤ n ∧ n ≤ run.last ∧ (n - run.first) % run.step = 0

instance (run : CapitalRun) (n : Nat) : Decidable (run.Has n) :=
  inferInstanceAs (Decidable (_ ∧ _ ∧ _))

/-- The small letter of a capital of the run. -/
def small (run : CapitalRun) (n : Nat) : Nat := ((n : Int) + run.offset).toNat

/-- All code points between two belong to characters. -/
def Scalars (low high : Nat) : Prop := high < 0xD800 ∨ (0xDFFF < low ∧ high < 0x110000)

instance (low high : Nat) : Decidable (Scalars low high) :=
  inferInstanceAs (Decidable (_ ∨ _ ∧ _))

structure Sound (run : CapitalRun) : Prop where
  ordered : run.first ≤ run.last
  step : run.step = 1 ∨ run.step = 2
  shifted : 0 ≤ run.first + run.offset
  capitals : Scalars run.first run.last
  smalls : Scalars (run.small run.first) (run.small run.last)

instance (run : CapitalRun) : Decidable run.Sound :=
  decidable_of_iff (run.first ≤ run.last ∧ (run.step = 1 ∨ run.step = 2) ∧
      0 ≤ run.first + run.offset ∧ Scalars run.first run.last ∧
      Scalars (run.small run.first) (run.small run.last))
    ⟨fun ⟨a, b, c, d, e⟩ => ⟨a, b, c, d, e⟩, fun ⟨a, b, c, d, e⟩ => ⟨a, b, c, d, e⟩⟩

theorem sound : ∀ run ∈ capitalRuns, run.Sound := by decide +kernel

def Before (run other : CapitalRun) : Prop := run.last < other.first ∧ other.first ≤ other.last

instance (run other : CapitalRun) : Decidable (run.Before other) :=
  inferInstanceAs (Decidable (_ ∧ _))

instance : Trans Before Before Before where
  trans h h' := ⟨by have := h.1; have := h.2; have := h'.1; omega, h'.2⟩

theorem ascending : capitalRuns.IsChain Before := by decide +kernel

/-- No small letter from `low` to `high`, at the distance of `step`, is a capital of the run. Where
the two overlap, small letters and capitals take turns. -/
def misses (low high step : Nat) (run : CapitalRun) : Bool :=
  Nat.blt high run.first || Nat.blt run.last low ||
    (Nat.beq run.step 2 && (Nat.beq step 2 || Nat.beq low high) &&
      Nat.beq ((low + run.first) % 2) 1)

theorem all_misses :
    (capitalRuns.all fun run => capitalRuns.all fun other =>
      other.misses (run.small run.first) (run.small run.last) run.step) = true := by
  decide +kernel

variable {run other : CapitalRun} {n : Nat}

theorem Sound.small_eq (sound : run.Sound) (h : run.Has n) :
    (run.small n : Int) = n + run.offset := by
  have := sound.shifted
  have := h.1
  unfold small
  omega

theorem Sound.valid_capital (sound : run.Sound) (h : run.Has n) : n.isValidChar := by
  obtain ⟨hfirst, hlast, _⟩ := h
  have := sound.capitals
  unfold Scalars at this
  unfold Nat.isValidChar
  omega

theorem Sound.valid_small (sound : run.Sound) (h : run.Has n) : (run.small n).isValidChar := by
  obtain ⟨hfirst, hlast, _⟩ := h
  have := sound.smalls
  unfold Scalars small at this
  unfold Nat.isValidChar small
  omega

/-- A character is a capital of one run at most. -/
theorem eq_of_has (hrun : run ∈ capitalRuns) (hother : other ∈ capitalRuns) (h : run.Has n)
    (h' : other.Has n) : run = other := by
  -- Of two different runs one ends before the other begins, whichever comes first.
  let Apart (a b : CapitalRun) : Prop := a.last < b.first ∨ b.last < a.first
  have hapart : capitalRuns.Pairwise Apart := ascending.pairwise.imp fun h => .inl h.1
  have : Std.Symm Apart := ⟨fun _ _ h => h.symm⟩
  by_contra hne
  obtain ⟨hfirst, hlast, _⟩ := h
  obtain ⟨hfirst', hlast', _⟩ := h'
  have : run.last < other.first ∨ other.last < run.first := hapart.forall hrun hother hne
  omega

/-- The small letter of a capital is no capital. -/
theorem not_has_small (hrun : run ∈ capitalRuns) (hother : other ∈ capitalRuns) (h : run.Has n) :
    ¬ other.Has (run.small n) := by
  have hmisses := List.all_eq_true.mp (List.all_eq_true.mp all_misses run hrun) other hother
  simp only [misses, Bool.or_eq_true, Bool.and_eq_true, Nat.blt_eq, Nat.beq_eq] at hmisses
  have hsound := sound run hrun
  have hstep := hsound.step
  have hsmall := hsound.small_eq h
  have hlow := hsound.small_eq ⟨Nat.le_refl _, hsound.ordered, by simp⟩
  have hhigh : (run.small run.last : Int) = run.last + run.offset := by
    have := hsound.shifted
    have := hsound.ordered
    unfold small
    omega
  obtain ⟨hfirst, hlast, hmod⟩ := h
  rintro ⟨hfirst', hlast', hmod'⟩
  rcases hmisses with (habove | hbelow) | ⟨⟨hother2, hrun2⟩, hodd⟩
  · omega
  · omega
  · rw [hother2] at hmod'
    rcases hrun2 with hrun2 | hsingle
    · rw [hrun2] at hmod
      omega
    · omega

end CapitalRun

theorem capitalRun?_eq_some_iff {n : Nat} {run : CapitalRun} :
    capitalRun? n = some run ↔ run ∈ capitalRuns ∧ run.Has n := by
  have htest : ∀ run : CapitalRun,
      (run.first ≤ n && n ≤ run.last && (n - run.first) % run.step = 0) = true ↔ run.Has n := by
    intro run
    simp [CapitalRun.Has, and_assoc]
  constructor
  · intro h
    have hfound := List.find?_some h
    exact ⟨List.mem_of_find?_eq_some h, (htest run).mp hfound⟩
  · rintro ⟨hmem, hhas⟩
    cases hfound : capitalRun? n with
    | none => exact absurd ((htest run).mpr hhas) (List.find?_eq_none.mp hfound run hmem)
    | some other =>
      have hother := List.mem_of_find?_eq_some hfound
      have hfound := List.find?_some hfound
      rw [CapitalRun.eq_of_has hother hmem ((htest other).mp hfound) hhas]

/-- Only the first run holds letters of ASCII, and these have the small letters of ASCII. -/
theorem small_ascii {c : Char} (h : c.toNat < 128) :
    small c = if 65 ≤ c.toNat ∧ c.toNat ≤ 90 then Char.ofNat (c.toNat + 32) else c := by
  have hall : ∀ n : Fin 128, (Char.ofNat n).toLower
      = if 65 ≤ n.val ∧ n.val ≤ 90 then Char.ofNat (n.val + 32) else Char.ofNat n := by
    decide +kernel
  have := hall ⟨c.toNat, h⟩
  rw [Char.ofNat_toNat] at this
  rw [small, if_pos h, this]

theorem small_of_run {c : Char} {run : CapitalRun} (hmem : run ∈ capitalRuns)
    (h : run.Has c.toNat) : small c = Char.ofNat (run.small c.toNat) := by
  by_cases hascii : c.toNat < 128
  · have hfirst : ∀ run ∈ capitalRuns, run.first < 128 →
        run.first = 65 ∧ run.last = 90 ∧ run.offset = 32 := by decide +kernel
    obtain ⟨hf, hl, hoffset⟩ := hfirst run hmem (Nat.lt_of_le_of_lt h.1 hascii)
    have hletter : 65 ≤ c.toNat ∧ c.toNat ≤ 90 := ⟨hf ▸ h.1, hl ▸ h.2.1⟩
    rw [small_ascii hascii, if_pos hletter, CapitalRun.small, hoffset]
    rfl
  · rw [small, if_neg hascii, capitalRun?_eq_some_iff.mpr ⟨hmem, h⟩]
    rfl

theorem small_of_no_run {c : Char} (h : ∀ run ∈ capitalRuns, ¬ run.Has c.toNat) : small c = c := by
  by_cases hascii : c.toNat < 128
  · have : ¬ (65 ≤ c.toNat ∧ c.toNat ≤ 90) := fun hletter =>
      h ⟨0x41, 0x5A, 1, 32⟩ List.mem_cons_self ⟨hletter.1, hletter.2, Nat.mod_one _⟩
    rw [small_ascii hascii, if_neg this]
  · have : capitalRun? c.toNat = none := by
      cases hfound : capitalRun? c.toNat with
      | none => rfl
      | some run =>
        obtain ⟨hmem, hhas⟩ := capitalRun?_eq_some_iff.mp hfound
        exact absurd hhas (h run hmem)
    rw [small, if_neg hascii, this]

/-- A character is a capital of some run or its own small letter. -/
theorem small_cases (c : Char) :
    (∃ run ∈ capitalRuns, run.Has c.toNat ∧ small c = Char.ofNat (run.small c.toNat)) ∨
      ((∀ run ∈ capitalRuns, ¬ run.Has c.toNat) ∧ small c = c) := by
  by_cases h : ∃ run ∈ capitalRuns, run.Has c.toNat
  · obtain ⟨run, hmem, hhas⟩ := h
    exact .inl ⟨run, hmem, hhas, small_of_run hmem hhas⟩
  · have hnone : ∀ run ∈ capitalRuns, ¬ run.Has c.toNat := fun run hmem hhas => h ⟨run, hmem, hhas⟩
    exact .inr ⟨hnone, small_of_no_run hnone⟩

@[simp]
theorem small_small (c : Char) : small (small c) = small c := by
  rcases small_cases c with ⟨run, hmem, hhas, hsmall⟩ | ⟨_, hsmall⟩
  · rw [hsmall]
    apply small_of_no_run
    intro other hother
    rw [toNat_ofNat ((CapitalRun.sound run hmem).valid_small hhas)]
    exact CapitalRun.not_has_small hmem hother hhas
  · rw [hsmall, hsmall]

theorem mem_capitals_iff {c s : Char} :
    c ∈ capitals s ↔ ∃ run ∈ capitalRuns, run.Has c.toNat ∧ run.small c.toNat = s.toNat := by
  simp only [capitals, List.mem_filterMap, Option.ite_none_right_eq_some, Option.some.injEq]
  constructor
  · rintro ⟨run, hmem, ⟨hfirst, hlast, hmod⟩, rfl⟩
    have hsound := CapitalRun.sound run hmem
    have hhas : run.Has ((s.toNat : Int) - run.offset).toNat := by
      refine ⟨by omega, by omega, ?_⟩
      rcases hsound.step with hstep | hstep <;> rw [hstep] at hmod ⊢ <;> omega
    have hsmall := hsound.small_eq hhas
    rw [toNat_ofNat (hsound.valid_capital hhas)]
    exact ⟨run, hmem, hhas, by omega⟩
  · rintro ⟨run, hmem, hhas, hs⟩
    have hsound := CapitalRun.sound run hmem
    have hsmall := hsound.small_eq hhas
    have hc : (s.toNat : Int) - run.offset = c.toNat := by omega
    obtain ⟨hfirst, hlast, hmod⟩ := hhas
    refine ⟨run, hmem, ⟨by omega, by omega, ?_⟩, ?_⟩
    · rw [hc]
      rcases hsound.step with hstep | hstep <;> rw [hstep] at hmod ⊢ <;> omega
    · rw [hc, Int.toNat_natCast, Char.ofNat_toNat]

/-- The characters with a given small letter are the letter itself and its capitals. -/
theorem small_eq_iff {c s : Char} (hs : small s = s) : small c = s ↔ c = s ∨ c ∈ capitals s := by
  constructor
  · rintro rfl
    rcases small_cases c with ⟨run, hmem, hhas, hsmall⟩ | ⟨_, hsmall⟩
    · right
      rw [hsmall, mem_capitals_iff, toNat_ofNat ((CapitalRun.sound run hmem).valid_small hhas)]
      exact ⟨run, hmem, hhas, rfl⟩
    · exact .inl hsmall.symm
  · rintro (rfl | hmem)
    · exact hs
    · obtain ⟨run, hmem, hhas, hsmall⟩ := mem_capitals_iff.mp hmem
      rw [small_of_run hmem hhas, hsmall, Char.ofNat_toNat]

/-- The letter that a small letter is a variant of; any other is its own. -/
def principal (s : Char) : Char :=
  if s.toNat < 128 then s
  else match variants.find? fun entry => entry.1 = s.toNat with
    | some (_, n) => Char.ofNat n
    | none => s

theorem caseless_eq (c : Char) : caseless c = principal (small c) := rfl

/-- What a variant and its letter have in common: neither is a capital, and the letter is no
variant. -/
structure Varies (entry : Nat × Nat) : Prop where
  beyondAscii : 128 ≤ entry.1
  variantValid : entry.1.isValidChar
  letterValid : entry.2.isValidChar
  variantSmall : capitalRun? entry.1 = none
  letterSmall : capitalRun? entry.2 = none
  settled : ∀ other ∈ variants, other.1 ≠ entry.2

theorem varies : ∀ entry ∈ variants, Varies entry := by
  have hall : ∀ entry ∈ variants, 128 ≤ entry.1 ∧ entry.1.isValidChar ∧ entry.2.isValidChar ∧
      (capitalRun? entry.1).isNone ∧ (capitalRun? entry.2).isNone ∧
      ∀ other ∈ variants, other.1 ≠ entry.2 := by
    decide +kernel
  intro entry hmem
  obtain ⟨hascii, hvalid, hletter, hsmall, hsmall', hsettled⟩ := hall entry hmem
  exact ⟨hascii, hvalid, hletter, Option.isNone_iff_eq_none.mp hsmall,
    Option.isNone_iff_eq_none.mp hsmall', hsettled⟩

theorem variants_apart : variants.Pairwise fun a b => a.1 ≠ b.1 := by decide +kernel

theorem small_of_valid {n : Nat} (hvalid : n.isValidChar) (h : capitalRun? n = none) :
    small (Char.ofNat n) = Char.ofNat n := by
  apply small_of_no_run
  intro run hmem hhas
  rw [toNat_ofNat hvalid] at hhas
  rw [capitalRun?_eq_some_iff.mpr ⟨hmem, hhas⟩] at h
  cases h

/-- What a small letter becomes is a letter it is a variant of or, for lack of one, itself. -/
theorem principal_cases (s : Char) :
    (∃ entry ∈ variants, entry.1 = s.toNat ∧ principal s = Char.ofNat entry.2) ∨
      ((∀ entry ∈ variants, entry.1 ≠ s.toNat) ∧ principal s = s) := by
  by_cases hascii : s.toNat < 128
  · right
    refine ⟨fun entry hmem he => ?_, by rw [principal, if_pos hascii]⟩
    have := (varies entry hmem).beyondAscii
    omega
  · rw [principal, if_neg hascii]
    cases hfound : variants.find? fun entry => entry.1 = s.toNat with
    | some entry =>
      have hkey := List.find?_some hfound
      exact .inl ⟨entry, List.mem_of_find?_eq_some hfound, by simpa using hkey, rfl⟩
    | none =>
      refine .inr ⟨fun entry hmem => ?_, rfl⟩
      simpa using List.find?_eq_none.mp hfound entry hmem

/-- A caseless letter is no variant and no capital. -/
theorem small_caseless (c : Char) : small (caseless c) = caseless c := by
  rw [caseless_eq]
  rcases principal_cases (small c) with ⟨entry, hmem, _, hletter⟩ | ⟨_, hself⟩
  · rw [hletter]
    exact small_of_valid (varies entry hmem).letterValid (varies entry hmem).letterSmall
  · rw [hself, small_small]

theorem principal_caseless (c : Char) : principal (caseless c) = caseless c := by
  rw [caseless_eq]
  rcases principal_cases (small c) with ⟨entry, hmem, _, hletter⟩ | ⟨_, hself⟩
  · rcases principal_cases (principal (small c)) with ⟨other, hother, hkey, _⟩ | ⟨_, hsame⟩
    · rw [hletter, toNat_ofNat (varies entry hmem).letterValid] at hkey
      exact absurd hkey ((varies entry hmem).settled other hother)
    · exact hsame
  · rw [hself, hself]

@[simp]
theorem caseless_small (c : Char) : caseless (small c) = caseless c := by
  rw [caseless_eq, small_small, caseless_eq]

/-- The small letters that become a caseless letter are that letter and its variants. -/
theorem principal_eq_iff {s letter : Char} (h : principal letter = letter) :
    principal s = letter ↔
      s = letter ∨ ∃ entry ∈ variants, entry.2 = letter.toNat ∧ Char.ofNat entry.1 = s := by
  constructor
  · rintro rfl
    rcases principal_cases s with ⟨entry, hmem, hkey, hletter⟩ | ⟨_, hself⟩
    · right
      refine ⟨entry, hmem, ?_, ?_⟩
      · rw [hletter, toNat_ofNat (varies entry hmem).letterValid]
      · rw [hkey, Char.ofNat_toNat]
    · exact .inl hself.symm
  · rintro (rfl | ⟨entry, hmem, hletter, rfl⟩)
    · exact h
    · have hvalid := (varies entry hmem).variantValid
      rcases principal_cases (Char.ofNat entry.1) with ⟨other, hother, hkey, hother'⟩ | ⟨hnone, _⟩
      · rw [toNat_ofNat hvalid] at hkey
        have hsame : other = entry := by
          have : Std.Symm fun a b : Nat × Nat => a.1 ≠ b.1 := ⟨fun _ _ h => h.symm⟩
          by_contra hne
          exact variants_apart.forall hother hmem hne hkey
        rw [hother', hsame, hletter, Char.ofNat_toNat]
      · rw [toNat_ofNat hvalid] at hnone
        exact absurd rfl (hnone entry hmem)

/-- The forms of a letter are the characters that become the same letter without their case. -/
theorem mem_forms_iff {c d : Char} : d ∈ forms c ↔ caseless d = caseless c := by
  let letter := caseless c
  let smalls := letter ::
    (variants.filter fun entry => entry.2 = letter.toNat).map fun entry => Char.ofNat entry.1
  have hforms : forms c = smalls ++ smalls.flatMap capitals := rfl
  have hsmalls : ∀ s, s ∈ smalls ↔ principal s = letter := by
    intro s
    rw [principal_eq_iff (principal_caseless c)]
    simp [smalls, letter, and_assoc]
  have hsmall : ∀ s ∈ smalls, small s = s := by
    intro s hs
    rcases (principal_eq_iff (principal_caseless c)).mp ((hsmalls s).mp hs) with
      rfl | ⟨entry, hmem, _, rfl⟩
    · exact small_caseless c
    · exact small_of_valid (varies entry hmem).variantValid (varies entry hmem).variantSmall
  calc d ∈ forms c
      ↔ ∃ s ∈ smalls, d = s ∨ d ∈ capitals s := by
        rw [hforms, List.mem_append, List.mem_flatMap]
        constructor
        · rintro (h | ⟨s, hs, h⟩)
          · exact ⟨d, h, .inl rfl⟩
          · exact ⟨s, hs, .inr h⟩
        · rintro ⟨s, hs, rfl | h⟩
          · exact .inl hs
          · exact .inr ⟨s, hs, h⟩
    _ ↔ small d ∈ smalls := by
        constructor
        · rintro ⟨s, hs, h⟩
          rwa [(small_eq_iff (hsmall s hs)).mpr h]
        · exact fun h => ⟨small d, h, (small_eq_iff (small_small d)).mp rfl⟩
    _ ↔ caseless d = caseless c := hsmalls (small d)

/-- The sign for kelvin is a form of the letter. -/
example : forms 'K' = ['k', 'K', '\u212A'] := by decide +kernel

end Letter

end RecordQuery
