import Mathlib.Data.List.Infix
import RecordQuery.Text.Replace

/-!
# What replacing changes

Each occurrence gives way to the new run and all else stays. Occurrences hold no character that the
replaced run does not have, so texts can be cut before such a character.
-/

namespace RecordQuery

namespace Text

variable {needle : List Char} (new : List Char)

theorem replaceAfter_eq_drop (needle : List Char) (skip : Nat) (cs : List Char) :
    replaceAfter needle new skip cs = replaceAfter needle new 0 (cs.drop skip) := by
  induction skip generalizing cs with
  | zero => rfl
  | succ skip ih =>
    cases cs with
    | nil => simp [replaceAfter]
    | cons c rest => exact ih rest

/-- What is an occurrence at its first character gives way. -/
theorem replaceAfter_cons_match {c : Char} {rest : List Char} (h : needle <+: c :: rest) :
    replaceAfter needle new 0 (c :: rest)
      = new ++ replaceAfter needle new (needle.length - 1) rest := by
  rw [replaceAfter, if_pos (List.isPrefixOf_iff_prefix.mpr h)]

theorem replaceAfter_match (nonempty : needle ≠ []) (rest : List Char) :
    replaceAfter needle new 0 (needle ++ rest) = new ++ replaceAfter needle new 0 rest := by
  obtain ⟨c, more, rfl⟩ := List.exists_cons_of_ne_nil nonempty
  have starts : c :: more <+: c :: (more ++ rest) := List.prefix_append (c :: more) rest
  rw [List.cons_append, replaceAfter_cons_match new starts, replaceAfter_eq_drop]
  simp

/-- What is no occurrence at its first character stays there. -/
theorem replaceAfter_cons {c : Char} {rest : List Char} (h : ¬ needle <+: c :: rest) :
    replaceAfter needle new 0 (c :: rest) = c :: replaceAfter needle new 0 rest := by
  rw [replaceAfter, if_neg (mt List.isPrefixOf_iff_prefix.mp h)]

/-- Nothing changes before the first character of the replaced run. -/
theorem replaceAfter_before {first : Char} {before : List Char} (absent : first ∉ before)
    (more rest : List Char) :
    replaceAfter (first :: more) new 0 (before ++ rest)
      = before ++ replaceAfter (first :: more) new 0 rest := by
  induction before with
  | nil => rfl
  | cons c before ih =>
    obtain ⟨other, absent⟩ := not_or.mp (mt List.mem_cons.mpr absent)
    rw [List.cons_append, replaceAfter_cons new (fun h => other (List.cons_prefix_cons.mp h).1),
      ih absent]
    rfl

/-- An occurrence ends before a character that it does not have. -/
theorem prefix_append_cons_iff {d : Char} (absent : d ∉ needle) (before rest : List Char) :
    needle <+: before ++ d :: rest ↔ needle <+: before := by
  constructor
  · intro starts
    rcases List.prefix_or_prefix_of_prefix starts (List.prefix_append before (d :: rest)) with
      inside | ⟨more, rfl⟩
    · exact inside
    · cases more with
      | nil => rw [List.append_nil]
      | cons c more =>
        have starts := (List.prefix_append_right_inj before).mp starts
        obtain ⟨rfl, _⟩ := List.cons_prefix_cons.mp starts
        exact absurd (List.mem_append_right before List.mem_cons_self) absent
  · intro starts
    exact starts.trans (List.prefix_append before (d :: rest))

/-- Before such a character and behind it, texts are replaced on their own. -/
theorem replaceAfter_append_cons {d : Char} (nonempty : needle ≠ []) (absent : d ∉ needle)
    (before rest : List Char) {skip : Nat} (within : skip ≤ before.length) :
    replaceAfter needle new skip (before ++ d :: rest)
      = replaceAfter needle new skip before ++ d :: replaceAfter needle new 0 rest := by
  induction before generalizing skip with
  | nil =>
    obtain rfl := Nat.le_zero.mp within
    have outside : ¬ needle <+: d :: rest := fun starts =>
      nonempty (List.prefix_nil.mp ((prefix_append_cons_iff absent [] rest).mp starts))
    exact replaceAfter_cons new outside
  | cons c before ih =>
    cases skip with
    | succ skip => exact ih (Nat.le_of_succ_le_succ within)
    | zero =>
      have same : needle <+: c :: (before ++ d :: rest) ↔ needle <+: c :: before :=
        prefix_append_cons_iff absent (c :: before) rest
      by_cases starts : needle <+: c :: before
      · have length := starts.length_le
        rw [List.length_cons] at length
        rw [List.cons_append, replaceAfter_cons_match new (same.mpr starts),
          replaceAfter_cons_match new starts, ih (by omega), List.append_assoc]
      · rw [List.cons_append, replaceAfter_cons new (mt same.mp starts),
          replaceAfter_cons new starts, ih (Nat.zero_le _)]
        rfl

/-- Without an occurrence nothing changes. -/
theorem replaceAfter_of_absent {cs : List Char} (h : ¬ needle <:+: cs) :
    replaceAfter needle new 0 cs = cs := by
  induction cs with
  | nil => rfl
  | cons c rest ih =>
    obtain ⟨first, later⟩ := not_or.mp (mt List.infix_cons_iff.mpr h)
    rw [replaceAfter_cons new first, ih later]

end Text

end RecordQuery
