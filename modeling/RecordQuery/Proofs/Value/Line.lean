import RecordQuery.Proofs.Number.Notation
import RecordQuery.Proofs.Text.Lines
import RecordQuery.Value.Printer

/-!
# A value on one line

The text of a value holds no line break: inside quotes it is escaped, and nothing else brings one.
-/

namespace RecordQuery

namespace Value

theorem newline_not_mem_word {word : List Char} (h : Wordlike word) : '\n' ∉ word :=
  fun hmem => absurd (h '\n' hmem) (by decide)

theorem newline_not_mem_escapeChar (c : Char) : '\n' ∉ escapeChar c := by
  have digit : ∀ n < 16, hexDigit n ≠ '\n' := by decide
  unfold escapeChar
  split
  iterate 5 decide
  split
  · decide
  · split
    · decide
    · split
      · rename_i control
        have high := digit (c.toNat / 16) (by omega)
        have low := digit (c.toNat % 16) (by omega)
        simp [high.symm, low.symm]
      · rename_i printable
        rintro hmem
        obtain rfl := List.mem_singleton.mp hmem
        exact printable (by decide)

theorem newline_not_mem_quote (s : String) : '\n' ∉ (quote s).toList := by
  simp [quote, newline_not_mem_escapeChar]

mutual
theorem newline_not_mem_text : ∀ v : Value, '\n' ∉ v.text.toList
  | null | bool true | bool false => by decide
  | num n => newline_not_mem_word n.wordlike_text
  | str s => newline_not_mem_quote s
  | arr items => by
    have inside := newline_not_mem_textList items
    simp [text, inside]
  | obj fields => by
    have inside := newline_not_mem_textFields fields
    simp [text, inside]

theorem newline_not_mem_textList : ∀ items : List Value, '\n' ∉ (textList items).toList
  | [] => by decide
  | [v] => newline_not_mem_text v
  | v :: w :: more => by
    have first := newline_not_mem_text v
    have others := newline_not_mem_textList (w :: more)
    simp [textList, first, others]

theorem newline_not_mem_textFields : ∀ fields : List (String × Value),
    '\n' ∉ (textFields fields).toList
  | [] => by decide
  | [(name, v)] => by
    have first := newline_not_mem_text v
    simp [textFields, newline_not_mem_quote, first]
  | (name, v) :: entry :: more => by
    have first := newline_not_mem_text v
    have others := newline_not_mem_textFields (entry :: more)
    simp [textFields, newline_not_mem_quote, first, others]
end

/-- The text of a record stands between braces. -/
theorem trimmed_text_obj (fields : List (String × Value)) :
    Text.Trimmed (obj fields).text.toList where
  first := ⟨'\x7b', (textFields fields).toList ++ ['\x7d'], by simp [text], by decide⟩
  last := ⟨'\x7b' :: (textFields fields).toList, '\x7d', by simp [text], by decide⟩

end Value

end RecordQuery
