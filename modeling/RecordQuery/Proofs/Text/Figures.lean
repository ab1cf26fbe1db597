import Mathlib.Data.List.Basic
import RecordQuery.Proofs.Calendar.Written

/-!
# Numbers of fixed width as texts

Numbers that are padded to one width stand in the order of their texts, and so do runs of such
numbers behind the same separators. The texts of plain characters stand in the order of their bytes.
-/

namespace RecordQuery

namespace Text

/-- The first difference decides, whatever follows. -/
theorem append_lt_append {cs ds : List Char} (same : cs.length = ds.length) (lt : cs < ds)
    (rest more : List Char) : cs ++ rest < ds ++ more := by
  induction cs generalizing ds with
  | nil =>
    rw [List.eq_nil_of_length_eq_zero same.symm] at lt
    exact absurd lt (List.lt_irrefl [])
  | cons c cs ih =>
    cases ds with
    | nil => cases same
    | cons d ds =>
      rw [List.cons_append, List.cons_append]
      rcases List.cons_lt_cons_iff.mp lt with first | ⟨rfl, later⟩
      · exact List.cons_lt_cons_iff.mpr (.inl first)
      · exact List.cons_lt_cons_iff.mpr (.inr ⟨rfl, ih (Nat.succ.inj same) later⟩)

/-- Digits of one count stand in the order of what they come to, behind equal ones. -/
theorem digits_lt {ds es : List Char} (hds : ∀ c ∈ ds, c.isDigit = true)
    (hes : ∀ c ∈ es, c.isDigit = true) (same : ds.length = es.length) {m n : Nat}
    (lt : Nat.ofDigitChars 10 ds m < Nat.ofDigitChars 10 es n) : m < n ∨ m = n ∧ ds < es := by
  have value : ∀ {c : Char}, c.isDigit = true → 48 ≤ c.toNat ∧ c.toNat ≤ 57 := by
    intro c hc
    simpa [Char.isDigit, UInt32.le_iff_toNat_le] using hc
  induction ds generalizing es m n with
  | nil =>
    rw [List.eq_nil_of_length_eq_zero same.symm] at lt
    exact .inl lt
  | cons c ds ih =>
    cases es with
    | nil => cases same
    | cons d es =>
      have hc := value (hds c List.mem_cons_self)
      have hd := value (hes d List.mem_cons_self)
      have step : 10 * m + (c.toNat - 48) < 10 * n + (d.toNat - 48) ∨
          10 * m + (c.toNat - 48) = 10 * n + (d.toNat - 48) ∧ ds < es :=
        ih (fun c hc => hds c (List.mem_cons_of_mem _ hc))
          (fun c hc => hes c (List.mem_cons_of_mem _ hc)) (Nat.succ.inj same) lt
      rcases step with before | ⟨level, later⟩
      · by_cases equal : m = n
        · refine .inr ⟨equal, List.cons_lt_cons_iff.mpr (.inl ?_)⟩
          have : c.toNat < d.toNat := by omega
          exact this
        · exact .inl (by omega)
      · have equal : m = n := by omega
        have first : c = d := Char.toNat_inj.mp (by omega)
        exact .inr ⟨equal, List.cons_lt_cons_iff.mpr (.inr ⟨first, later⟩)⟩

theorem padded_lt {width m n : Nat} (pos : 0 < width) (lt : m < n) (fits : n < 10 ^ width) :
    (Instant.padded width m).toList < (Instant.padded width n).toList := by
  have same : (Instant.padded width m).toList.length = (Instant.padded width n).toList.length := by
    rw [Instant.length_padded pos (by omega), Instant.length_padded pos fits]
  have values : Nat.ofDigitChars 10 (Instant.padded width m).toList 0
      < Nat.ofDigitChars 10 (Instant.padded width n).toList 0 := by
    rwa [Instant.ofDigitChars_padded, Instant.ofDigitChars_padded]
  rcases digits_lt (fun _ => Instant.isDigit_padded) (fun _ => Instant.isDigit_padded) same values
    with before | ⟨_, later⟩
  · exact absurd before (Nat.lt_irrefl 0)
  · exact later

/-- A number that has its width is not padded. -/
theorem toString_eq_padded {width n : Nat} (low : 10 ^ (width - 1) ≤ n) :
    toString n = Instant.padded width n := by
  have atLeast : width ≤ (Nat.toDigits 10 n).length := by
    have nonempty := List.length_pos_iff.mpr (Nat.toDigits_ne_nil (b := 10) (n := n))
    by_cases narrow : width ≤ 1
    · omega
    · have := (Nat.length_toDigits_le_iff (b := 10) (n := n) (k := width - 1) (by decide)
        (by omega)).not.mpr (Nat.not_lt.mpr low)
      omega
  rw [Nat.toString_eq_ofList_toDigits, Instant.padded]
  simp [Nat.sub_eq_zero_of_le atLeast]

/-- Numbers of fixed widths, each behind a separator. -/
def spell : List (String × Nat) → List Nat → List Char
  | (separator, width) :: shape, n :: rest =>
    separator.toList ++ ((Instant.padded width n).toList ++ spell shape rest)
  | _, _ => []

/-- Each number has its width. -/
def Fits : List (String × Nat) → List Nat → Prop :=
  List.Forall₂ fun part n => 0 < part.2 ∧ n < 10 ^ part.2

theorem spell_lt {shape : List (String × Nat)} {ms ns : List Nat} (hms : Fits shape ms)
    (hns : Fits shape ns) (lt : ms < ns) : spell shape ms < spell shape ns := by
  induction hms generalizing ns with
  | nil =>
    cases hns
    exact absurd lt (List.lt_irrefl [])
  | @cons part m shape ms hm _ ih =>
    cases hns with
    | @cons _ n _ ns hn hns =>
      obtain ⟨separator, width⟩ := part
      refine List.append_left_lt ?_
      rcases List.cons_lt_cons_iff.mp lt with first | ⟨rfl, later⟩
      · refine append_lt_append ?_ (padded_lt hm.1 first hn.2) _ _
        rw [Instant.length_padded hm.1 hm.2, Instant.length_padded hn.1 hn.2]
      · exact List.append_left_lt (ih hns later)

/-! Bytes. -/

def bytes (s : String) : List UInt8 := s.toUTF8.data.toList

/-- A character of one byte. -/
def Plain (c : Char) : Prop := c.toNat < 128

theorem plain_of_isDigit {c : Char} (h : c.isDigit = true) : Plain c := by
  have := (show 48 ≤ c.toNat ∧ c.toNat ≤ 57 by
    simpa [Char.isDigit, UInt32.le_iff_toNat_le] using h).2
  rw [Plain]
  omega

theorem plain_spell {shape : List (String × Nat)} (h : ∀ part ∈ shape, ∀ c ∈ part.1.toList, Plain c)
    (ns : List Nat) : ∀ c ∈ spell shape ns, Plain c := by
  induction shape generalizing ns with
  | nil => simp [spell]
  | cons part shape ih =>
    cases ns with
    | nil => simp [spell]
    | cons n ns =>
      intro c hc
      rcases List.mem_append.mp hc with hc | hc
      · exact h part List.mem_cons_self c hc
      · rcases List.mem_append.mp hc with hc | hc
        · exact plain_of_isDigit (Instant.isDigit_padded hc)
        · exact ih (fun part hpart => h part (List.mem_cons_of_mem _ hpart)) ns c hc

/-- Plain characters are bytes. -/
theorem bytes_eq_map {s : String} (h : ∀ c ∈ s.toList, Plain c) :
    bytes s = s.toList.map (·.val.toUInt8) := by
  have encoded : bytes s = s.toList.flatMap String.utf8EncodeChar := by
    rw [bytes, String.toUTF8_eq_toByteArray, ← String.utf8Encode_toList, List.utf8Encode,
      List.toList_data_toByteArray]
  have single : ∀ c ∈ s.toList, String.utf8EncodeChar c = [c.val.toUInt8] := by
    intro c hc
    have small : c.val.toNat < 128 := h c hc
    refine String.utf8EncodeChar_eq_singleton (if_pos (UInt32.le_iff_toNat_le.mpr ?_))
    change c.val.toNat ≤ 127
    omega
  rw [encoded, List.flatMap_congr single, List.map_eq_flatMap]

theorem bytes_lt {s t : String} (hs : ∀ c ∈ s.toList, Plain c) (ht : ∀ c ∈ t.toList, Plain c)
    (lt : s < t) : bytes s < bytes t := by
  rw [bytes_eq_map hs, bytes_eq_map ht]
  change s.toList < t.toList at lt
  generalize s.toList = cs at *
  generalize t.toList = ds at *
  induction cs generalizing ds with
  | nil =>
    cases ds with
    | nil => exact absurd lt (List.lt_irrefl [])
    | cons d ds => exact List.nil_lt_cons _ _
  | cons c cs ih =>
    cases ds with
    | nil => exact absurd lt (List.not_lt_nil _)
    | cons d ds =>
      have hc : c.val.toNat < 128 := hs c List.mem_cons_self
      have hd : d.val.toNat < 128 := ht d List.mem_cons_self
      rcases List.cons_lt_cons_iff.mp lt with first | ⟨rfl, later⟩
      · have : c.val.toNat < d.val.toNat := first
        refine List.cons_lt_cons_iff.mpr (.inl (UInt8.lt_iff_toNat_lt.mpr ?_))
        rw [UInt32.toNat_toUInt8, UInt32.toNat_toUInt8]
        omega
      · exact List.cons_lt_cons_iff.mpr (.inr ⟨rfl,
          ih (fun c hc => hs c (List.mem_cons_of_mem _ hc)) ds
            (fun d hd => ht d (List.mem_cons_of_mem _ hd)) later⟩)

end Text

end RecordQuery
