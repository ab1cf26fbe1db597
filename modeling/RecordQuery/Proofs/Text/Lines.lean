import RecordQuery.Text.Blank

/-!
# Texts in pieces

Lines and lists are cut where they were put together, and taking away the blanks around a text that
has none at its ends leaves it alone.
-/

namespace RecordQuery

namespace Text

/-! Blanks at the ends. -/

/-- What is no blank is left without the blanks around it. -/
theorem trim_ne_empty {s : String} (h : ∃ c ∈ s.toList, isBlank c = false) : trim s ≠ "" := by
  have solid : s.toList.any (fun c => !isBlank c) = true := by simpa using h
  have front : (s.toList.dropWhile isBlank).any (fun c => !isBlank c) = true := by
    rw [List.any_dropWhile, List.not_all_eq_any_not, solid]
  have both : ((s.toList.dropWhile isBlank).reverse.dropWhile isBlank).any (fun c => !isBlank c)
      = true := by
    rw [List.any_dropWhile, List.not_all_eq_any_not, List.any_reverse, front]
  intro nothing
  have left : trimChars s.toList = [] := by
    rw [← String.toList_ofList (l := trimChars s.toList)]
    exact congrArg String.toList nothing
  rw [trimChars, List.reverse_eq_nil_iff] at left
  simp [left] at both

/-- A text that begins and ends with something other than a blank. -/
structure Trimmed (cs : List Char) : Prop where
  first : ∃ c rest, cs = c :: rest ∧ isBlank c = false
  last : ∃ front c, cs = front ++ [c] ∧ isBlank c = false

namespace Trimmed

variable {cs : List Char}

theorem solid (h : Trimmed cs) : ∃ c ∈ cs, isBlank c = false := by
  obtain ⟨c, rest, rfl, hc⟩ := h.first
  exact ⟨c, List.mem_cons_self, hc⟩

theorem ne_empty {s : String} (h : Trimmed s.toList) : s ≠ "" := by
  rintro rfl
  obtain ⟨c, rest, hfirst, _⟩ := h.first
  cases hfirst

theorem trimChars_append (h : Trimmed cs) {blanks : List Char}
    (hblanks : ∀ c ∈ blanks, isBlank c = true) : trimChars (cs ++ blanks) = cs := by
  obtain ⟨c, rest, hfirst, hc⟩ := h.first
  obtain ⟨front, d, hlast, hd⟩ := h.last
  have kept : (cs ++ blanks).dropWhile isBlank = cs ++ blanks := by
    rw [hfirst, List.cons_append, List.dropWhile_cons_of_neg (by simp [hc])]
  rw [trimChars, kept, List.reverse_append, List.dropWhile_append_of_pos (by simpa using hblanks),
    hlast, List.reverse_append, List.reverse_singleton, List.singleton_append,
    List.dropWhile_cons_of_neg (by simp [hd]), List.reverse_cons, List.reverse_reverse]

theorem trim {s : String} (h : Trimmed s.toList) : Text.trim s = s := by
  have alone : trimChars (s.toList ++ []) = s.toList := h.trimChars_append (by simp)
  rw [List.append_nil] at alone
  rw [Text.trim, alone, String.ofList_toList]

/-- The end of the line is a blank. -/
theorem trim_line {s : String} (h : Trimmed s.toList) : Text.trim (s ++ "\n") = s := by
  have blank : ∀ c ∈ "\n".toList, isBlank c = true := by simp [isBlank]
  rw [Text.trim, String.toList_append, h.trimChars_append blank, String.ofList_toList]

end Trimmed

/-- What follows the blanks in front begins with something else. -/
theorem exists_of_dropWhile {cs : List Char} (h : cs.dropWhile isBlank ≠ []) :
    ∃ c rest, cs.dropWhile isBlank = c :: rest ∧ isBlank c = false := by
  obtain ⟨c, rest, hcs⟩ := List.exists_cons_of_ne_nil h
  have first := List.head_dropWhile_not isBlank h
  simp only [hcs, List.head_cons] at first
  exact ⟨c, rest, hcs, first⟩

/-- What is left of a text without the blanks around it, if anything is. -/
theorem Trimmed.of_trim {s : String} (h : Text.trim s ≠ "") : Trimmed (Text.trim s).toList := by
  have left : trimChars s.toList ≠ [] := fun nothing => h (by rw [Text.trim, nothing])
  rw [Text.trim, String.toList_ofList]
  rw [trimChars, ne_eq, List.reverse_eq_nil_iff] at left
  obtain ⟨last, back, hlast, lastSolid⟩ := exists_of_dropWhile left
  have shape : trimChars s.toList = back.reverse ++ [last] := by
    rw [trimChars, hlast, List.reverse_cons]
  have front : s.toList.dropWhile isBlank ≠ [] := fun nothing => left (by simp [nothing])
  obtain ⟨c, rest, hfirst, firstSolid⟩ := exists_of_dropWhile front
  -- What is cut off at the end leaves the beginning alone.
  have kept : trimChars s.toList <+: c :: rest := by
    rw [trimChars, ← hfirst, ← List.reverse_suffix, List.reverse_reverse]
    exact List.dropWhile_suffix isBlank
  refine ⟨⟨c, (trimChars s.toList).tail, ?_, firstSolid⟩, ⟨back.reverse, last, shape, lastSolid⟩⟩
  cases htrim : trimChars s.toList with
  | nil => simp [htrim] at shape
  | cons d others =>
    rw [htrim, List.cons_prefix_cons] at kept
    rw [kept.1, List.tail_cons]

/-! Pieces between separators. -/

/-- The first piece ends before the first separator. -/
theorem head_splitOn {α : Type} (separates : α → Bool) (cs : List α) :
    ∃ others, splitOn separates cs = cs.takeWhile (fun c => !separates c) :: others := by
  induction cs with
  | nil => exact ⟨[], rfl⟩
  | cons c rest ih =>
    obtain ⟨others, h⟩ := ih
    by_cases hc : separates c = true
    · exact ⟨splitOn separates rest, by simp [splitOn, hc]⟩
    · exact ⟨others, by simp [splitOn, hc, h]⟩

theorem splitOn_of_none {α : Type} {separates : α → Bool} {cs : List α}
    (h : ∀ c ∈ cs, separates c = false) : splitOn separates cs = [cs] := by
  induction cs with
  | nil => rfl
  | cons c rest ih =>
    have hc : separates c = false := h c (by simp)
    rw [splitOn, ih fun d hd => h d (List.mem_cons_of_mem _ hd)]
    simp [hc]

theorem splitOn_append {separates : Char → Bool} {line : List Char}
    (h : ∀ c ∈ line, separates c = false) {c : Char} (hc : separates c = true) (rest : List Char) :
    splitOn separates (line ++ c :: rest) = line :: splitOn separates rest := by
  induction line with
  | nil => simp [splitOn, hc]
  | cons d line ih =>
    have hd := h d List.mem_cons_self
    have := ih fun e he => h e (List.mem_cons_of_mem _ he)
    rw [List.cons_append, splitOn, if_neg (by simp [hd]), this]

/-- Texts without the separator are cut apart behind each of them; nothing follows the last. -/
theorem split_join {c : Char} {lines : List String} (h : ∀ line ∈ lines, c ∉ line.toList) :
    split c (String.join (lines.map (· ++ String.singleton c))) = lines ++ [""] := by
  induction lines with
  | nil => rfl
  | cons line rest ih =>
    have apart : ∀ d ∈ line.toList, decide (d = c) = false := by
      intro d hd
      exact decide_eq_false fun hdc => h line List.mem_cons_self (hdc ▸ hd)
    have shape : (String.join ((line :: rest).map (· ++ String.singleton c))).toList
        = line.toList ++ c :: (String.join (rest.map (· ++ String.singleton c))).toList := by
      simp [String.toList_join]
    rw [split, shape, splitOn_append apart (by simp), List.map_cons, String.ofList_toList,
      ← split, ih fun other hother => h other (List.mem_cons_of_mem _ hother), List.cons_append]

/-- Texts without the separator are cut apart where they were put together. -/
theorem split_intercalate {c : Char} {pieces : List String} (nonempty : pieces ≠ [])
    (h : ∀ piece ∈ pieces, c ∉ piece.toList) :
    split c ((String.singleton c).intercalate pieces) = pieces := by
  induction pieces with
  | nil => exact absurd rfl nonempty
  | cons piece rest ih =>
    have apart : ∀ d ∈ piece.toList, decide (d = c) = false := by
      intro d hd
      exact decide_eq_false fun hdc => h piece List.mem_cons_self (hdc ▸ hd)
    cases rest with
    | nil =>
      rw [String.intercalate_singleton, split, splitOn_of_none apart, List.map_singleton,
        String.ofList_toList]
    | cons next others =>
      have shape : ((String.singleton c).intercalate (piece :: next :: others)).toList
          = piece.toList ++ c :: ((String.singleton c).intercalate (next :: others)).toList := by
        simp [String.toList_intercalate]
      rw [split, shape, splitOn_append apart (by simp), List.map_cons, String.ofList_toList,
        ← split, ih (by simp) fun other hother => h other (List.mem_cons_of_mem _ hother)]

theorem splitOnce?_append {c : Char} {head : String} (h : c ∉ head.toList) (tail : String) :
    splitOnce? c (head ++ String.singleton c ++ tail) = some (head, tail) := by
  have apart : ∀ d ∈ head.toList, decide (d ≠ c) = true := by
    intro d hd
    exact decide_eq_true fun hdc => h (hdc ▸ hd)
  have shape : (head ++ String.singleton c ++ tail).toList = head.toList ++ c :: tail.toList := by
    simp
  have behind : (head.toList ++ c :: tail.toList).dropWhile (· ≠ c) = c :: tail.toList := by
    rw [List.dropWhile_append_of_pos apart, List.dropWhile_cons_of_neg (by simp)]
  have before : (head.toList ++ c :: tail.toList).takeWhile (· ≠ c) = head.toList := by
    rw [List.takeWhile_append_of_pos apart, List.takeWhile_cons_of_neg (by simp), List.append_nil]
  simp only [splitOnce?, shape, behind, before, String.ofList_toList]

end Text

end RecordQuery
