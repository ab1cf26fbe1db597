import RecordQuery.Proofs.Number.Notation
import RecordQuery.Value.Printer

/-!
# The tokens of a text

The text of a value is cut into the tokens that its shape tells. A word ends where another character
follows, so what stands behind a value must not continue it.
-/

namespace RecordQuery

namespace Value

mutual
/-- The tokens that the text of a value consists of. -/
def tokens : Value → List Token
  | null => [.word ['n', 'u', 'l', 'l']]
  | bool true => [.word ['t', 'r', 'u', 'e']]
  | bool false => [.word ['f', 'a', 'l', 's', 'e']]
  | num n => [.word n.text.toList]
  | str s => [.text s]
  | arr items => .openList :: (tokensList items ++ [.closeList])
  | obj fields => .openRecord :: (tokensFields fields ++ [.closeRecord])

def tokensList : List Value → List Token
  | [] => []
  | [v] => tokens v
  | v :: rest => tokens v ++ .comma :: tokensList rest

def tokensFields : List (String × Value) → List Token
  | [] => []
  | [(name, v)] => .text name :: .colon :: tokens v
  | (name, v) :: rest => .text name :: .colon :: (tokens v ++ .comma :: tokensFields rest)
end

/-- The tokens of what is left of a text. -/
def tokensFrom? (state : List Token × Lexing) (cs : List Char) : Option (List Token) := do
  match ← cs.foldlM lexStep state with
  | (found, .between) => return found.reverse
  | (found, .word done) => return (.word done.reverse :: found).reverse
  | _ => none

theorem tokensFrom?_cons {state next : List Token × Lexing} {c : Char}
    (h : lexStep state c = some next) (cs : List Char) :
    tokensFrom? state (c :: cs) = tokensFrom? next cs := by
  rw [tokensFrom?, List.foldlM_cons, h]
  rfl

section
variable (found : List Token) (done rest : List Char)

/-! Words end with the last of their characters. -/

/-- What follows does not continue a word. -/
def EndsWord (rest : List Char) : Prop := ∀ c ∈ rest.head?, isWordChar c = false

theorem endsWord_nil : EndsWord [] := by simp [EndsWord]

theorem endsWord_cons {c : Char} (h : isWordChar c = false) : EndsWord (c :: rest) := by
  simpa [EndsWord] using h

theorem isBlank_eq_false {c : Char} (h : isWordChar c = true) : isBlank c = false := by
  cases hblank : isBlank c with
  | false => rfl
  | true =>
    simp only [isBlank, Bool.or_eq_true, decide_eq_true_eq] at hblank
    rcases hblank with ((rfl | rfl) | rfl) | rfl <;> exact absurd h (by decide)

theorem tokensFrom?_inWord {word : List Char} (h : Wordlike word) :
    tokensFrom? (found, .word done) (word ++ rest)
      = tokensFrom? (found, .word (word.reverse ++ done)) rest := by
  induction word generalizing done with
  | nil => rfl
  | cons c cs ih =>
    obtain ⟨hc, hcs⟩ := wordlike_cons.mp h
    have step : lexStep (found, .word done) c = some (found, .word (c :: done)) := if_pos hc
    rw [List.cons_append, tokensFrom?_cons step, ih (c :: done) hcs]
    simp

theorem tokensFrom?_endWord {rest : List Char} (h : EndsWord rest) :
    tokensFrom? (found, .word done) rest
      = tokensFrom? (.word done.reverse :: found, .between) rest := by
  cases rest with
  | nil => rfl
  | cons c cs =>
    have same : lexStep (found, .word done) c = lexStep (.word done.reverse :: found, .between) c :=
      if_neg (by simp [h c rfl])
    rw [tokensFrom?, tokensFrom?, List.foldlM_cons, List.foldlM_cons, same]

theorem tokensFrom?_word {word rest : List Char} (h : Wordlike word) (nonempty : word ≠ [])
    (ends : EndsWord rest) :
    tokensFrom? (found, .between) (word ++ rest)
      = tokensFrom? (.word word :: found, .between) rest := by
  cases word with
  | nil => exact absurd rfl nonempty
  | cons c cs =>
    obtain ⟨hc, hcs⟩ := wordlike_cons.mp h
    have step : lexStep (found, .between) c = some (found, .word [c]) := by
      simp [lexStep, lexBetween, isBlank_eq_false hc, hc]
    rw [List.cons_append, tokensFrom?_cons step, tokensFrom?_inWord _ _ _ hcs,
      tokensFrom?_endWord _ _ ends]
    simp

/-! What a quoted text cannot hold is escaped. -/

theorem hexValue?_hexDigit : ∀ n < 16, hexValue? (hexDigit n) = some n := by decide

/-- Behind an escape the character itself has been taken. -/
theorem tokensFrom?_escapeChar (c : Char) :
    tokensFrom? (found, .text done) (escapeChar c ++ rest)
      = tokensFrom? (found, .text (c :: done)) rest := by
  unfold escapeChar
  split
  iterate 5 rfl
  rename_i quote backslash _ _ _
  split
  · rename_i h
    obtain rfl : Char.ofNat 8 = c := h ▸ Char.ofNat_toNat c
    rfl
  · split
    · rename_i h
      obtain rfl : Char.ofNat 12 = c := h ▸ Char.ofNat_toNat c
      rfl
    · split
      · rename_i control
        have high := hexValue?_hexDigit (c.toNat / 16) (by omega)
        have low := hexValue?_hexDigit (c.toNat % 16) (by omega)
        have upper : lexStep (found, .code done 2 0 none) (hexDigit (c.toNat / 16))
            = some (found, .code done 3 (c.toNat / 16) none) := by
          simp [lexStep, high]
        have lower : lexStep (found, .code done 3 (c.toNat / 16) none) (hexDigit (c.toNat % 16))
            = some (found, .text (c :: done)) := by
          have number : 16 * (c.toNat / 16) + c.toNat % 16 = c.toNat := by omega
          have single : endCode done c.toNat none = some (.text (c :: done)) := by
            simp only [endCode]
            rw [if_neg (by omega), if_neg (by omega), Char.ofNat_toNat]
          simp [lexStep, low, number, single]
        -- The two zeros leave the value at zero.
        change tokensFrom? (found, .code done 2 0 none) (_ :: _ :: rest) = _
        rw [tokensFrom?_cons upper, tokensFrom?_cons lower]
      · rename_i printable
        have step : lexStep (found, .text done) c = some (found, .text (c :: done)) := by
          simp only [lexStep]
          rw [if_neg (by simpa using quote), if_neg (by simpa using backslash), if_neg printable]
        exact tokensFrom?_cons step rest

theorem tokensFrom?_quote (s : String) :
    tokensFrom? (found, .between) ((quote s).toList ++ rest)
      = tokensFrom? (.text s :: found, .between) rest := by
  have inside : ∀ (cs done : List Char),
      tokensFrom? (found, .text done) (cs.flatMap escapeChar ++ '"' :: rest)
        = tokensFrom? (.text (String.ofList (done.reverse ++ cs)) :: found, .between) rest := by
    intro cs
    induction cs with
    | nil =>
      intro done
      rw [List.append_nil]
      rfl
    | cons c cs ih =>
      intro done
      rw [List.flatMap_cons, List.append_assoc, tokensFrom?_escapeChar, ih]
      simp
  have shape : (quote s).toList ++ rest = '"' :: (s.toList.flatMap escapeChar ++ '"' :: rest) := by
    simp [quote]
  have opened : lexStep (found, .between) '"' = some (found, .text []) := rfl
  rw [shape, tokensFrom?_cons opened, inside s.toList [], List.reverse_nil, List.nil_append,
    String.ofList_toList]

end

/-! The whole text. -/

mutual
theorem tokensFrom?_text : ∀ (v : Value) (found : List Token) (rest : List Char), EndsWord rest →
    tokensFrom? (found, .between) (v.text.toList ++ rest)
      = tokensFrom? (v.tokens.reverse ++ found, .between) rest
  | null, found, rest, ends | bool true, found, rest, ends | bool false, found, rest, ends =>
    tokensFrom?_word found (by decide) (by decide) ends
  | num n, found, rest, ends => tokensFrom?_word found n.wordlike_text n.text_ne_nil ends
  | str s, found, rest, _ => tokensFrom?_quote found rest s
  | arr items, found, rest, _ => by
    have inside := tokensFrom?_textList items (.openList :: found) (']' :: rest)
      (endsWord_cons rest (by decide))
    have shape : (arr items).text.toList ++ rest
        = '[' :: ((textList items).toList ++ ']' :: rest) := by simp [text]
    have opened : lexStep (found, .between) '[' = some (.openList :: found, .between) := rfl
    rw [shape, tokensFrom?_cons opened, inside, tokensFrom?_cons rfl]
    simp [tokens]
  | obj fields, found, rest, _ => by
    have inside := tokensFrom?_textFields fields (.openRecord :: found) ('\x7d' :: rest)
      (endsWord_cons rest (by decide))
    have shape : (obj fields).text.toList ++ rest
        = '\x7b' :: ((textFields fields).toList ++ '\x7d' :: rest) := by simp [text]
    have opened : lexStep (found, .between) '\x7b' = some (.openRecord :: found, .between) := rfl
    rw [shape, tokensFrom?_cons opened, inside, tokensFrom?_cons rfl]
    simp [tokens]

theorem tokensFrom?_textList : ∀ (items : List Value) (found : List Token) (rest : List Char),
    EndsWord rest → tokensFrom? (found, .between) ((textList items).toList ++ rest)
      = tokensFrom? ((tokensList items).reverse ++ found, .between) rest
  | [], found, rest, _ => rfl
  | [v], found, rest, ends => tokensFrom?_text v found rest ends
  | v :: w :: more, found, rest, ends => by
    have first := tokensFrom?_text v found (',' :: ((textList (w :: more)).toList ++ rest))
      (endsWord_cons _ (by decide))
    have shape : (textList (v :: w :: more)).toList ++ rest
        = v.text.toList ++ ',' :: ((textList (w :: more)).toList ++ rest) := by simp [textList]
    rw [shape, first, tokensFrom?_cons rfl, tokensFrom?_textList (w :: more) _ rest ends]
    simp [tokensList]

theorem tokensFrom?_textFields : ∀ (fields : List (String × Value)) (found : List Token)
    (rest : List Char), EndsWord rest →
    tokensFrom? (found, .between) ((textFields fields).toList ++ rest)
      = tokensFrom? ((tokensFields fields).reverse ++ found, .between) rest
  | [], found, rest, _ => rfl
  | [(name, v)], found, rest, ends => by
    have shape : (textFields [(name, v)]).toList ++ rest
        = (quote name).toList ++ ':' :: (v.text.toList ++ rest) := by simp [textFields]
    rw [shape, tokensFrom?_quote, tokensFrom?_cons rfl, tokensFrom?_text v _ rest ends]
    simp [tokensFields]
  | (name, v) :: entry :: more, found, rest, ends => by
    have shape : (textFields ((name, v) :: entry :: more)).toList ++ rest
        = (quote name).toList ++ ':' :: (v.text.toList
          ++ ',' :: ((textFields (entry :: more)).toList ++ rest)) := by simp [textFields]
    rw [shape, tokensFrom?_quote, tokensFrom?_cons rfl,
      tokensFrom?_text v _ _ (endsWord_cons _ (by decide)), tokensFrom?_cons rfl,
      tokensFrom?_textFields (entry :: more) _ rest ends]
    simp [tokensFields]
end

/-- A text is cut into the tokens of its value. -/
theorem tokens?_text (v : Value) : tokens? v.text.toList = some v.tokens := by
  have whole := tokensFrom?_text v [] [] endsWord_nil
  rw [List.append_nil, List.append_nil] at whole
  have ended : tokensFrom? (v.tokens.reverse, .between) [] = some v.tokens := by
    simp [tokensFrom?]
  exact whole.trans ended

end Value

end RecordQuery
