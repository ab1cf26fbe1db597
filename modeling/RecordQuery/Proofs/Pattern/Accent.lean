import RecordQuery.Pattern.Accent
import RecordQuery.Proofs.Pattern.Search
import RecordQuery.Proofs.Text.Case

/-!
# Patterns that ignore accents

The pattern text for a text to find is read as one set of characters for each letter of that text:
the forms of the letter if it has accents, else the letter alone. None of its characters keeps a
meaning of its own in the pattern, so the pattern can always be read, and it is found exactly where
the letters of a stretch of text are alike one by one.
-/

namespace RecordQuery

namespace CharSet

theorem mem_single_iff {c t : Char} :
    (single c.toNat).mem true t = true ↔ Letter.caseless c = Letter.caseless t := by
  rw [single, mem, if_pos rfl, List.any_eq_true]
  constructor
  · rintro ⟨d, hforms, hd⟩
    have hd : d = c := by
      simp only [Letter.inRanges, List.any_cons, List.any_nil, Bool.or_false, Bool.and_eq_true,
        decide_eq_true_eq] at hd
      exact Char.toNat_inj.mp (Nat.le_antisymm hd.2 hd.1)
    exact hd ▸ Letter.mem_forms_iff.mp hforms
  · intro h
    exact ⟨c, Letter.mem_forms_iff.mpr h, by simp [Letter.inRanges]⟩

end CharSet

namespace Pattern

namespace Bracket

/-- Whether a character stands for itself in brackets wherever it stands. -/
def isListed (c : Char) : Bool := !(['\\', ']', '^', '-', '[', '&', '~'].contains c)

/-- A bracket that has read some characters that stand for themselves, and nothing else. -/
structure Lists (b : Bracket) (cs : List Char) : Prop where
  held : b.held = none
  pending : b.pending = none
  positive : b.negated = false
  begun : cs ≠ [] → b.progress ≠ .opened
  mem_iff : ∀ t, b.flush.items.mem true t = true ↔
    ∃ m ∈ cs, Letter.caseless m = Letter.caseless t

theorem Lists.new : Lists .new [] where
  held := rfl
  pending := rfl
  positive := rfl
  begun h := absurd rfl h
  mem_iff t := by simp [Bracket.new, flush, CharSet.mem, Letter.inRanges]

/-- What was written so far only matters for the names of sets. -/
theorem Lists.written {b : Bracket} {cs : List Char} (h : Lists b cs) (written : List Char) :
    Lists { b with written } cs where
  held := h.held
  pending := h.pending
  positive := h.positive
  begun := h.begun
  mem_iff t := by
    have : { b with written }.flush.items = b.flush.items := by
      cases hlast : b.last <;> simp [flush, put, hlast]
    rw [this, h.mem_iff]

theorem Lists.addPlain {b : Bracket} {cs : List Char} (h : Lists b cs) (c : Char) :
    Lists (b.addPlain c.toNat) (cs ++ [c]) where
  held := by cases hlast : b.last <;> simp [Bracket.addPlain, flush, put, hlast, h.held]
  pending := by cases hlast : b.last <;> simp [Bracket.addPlain, flush, put, hlast, h.pending]
  positive := by cases hlast : b.last <;> simp [Bracket.addPlain, flush, put, hlast, h.positive]
  begun _ := by simp [Bracket.addPlain]
  mem_iff t := by
    have : (b.addPlain c.toNat).flush.items = .union b.flush.items (.single c.toNat) := rfl
    rw [this, CharSet.mem, Bool.or_eq_true, h.mem_iff, CharSet.mem_single_iff]
    simp [or_and_right, exists_or]

theorem Lists.close_eq {b : Bracket} {cs : List Char} (h : Lists b cs) :
    b.close = b.flush.items := by
  cases hlast : b.last <;>
    simp [close, release, flush, put, value, hlast, h.held, h.pending, h.positive]

theorem Lists.step {b : Bracket} {cs : List Char} (h : Lists b cs) {c : Char}
    (hc : isListed c = true) :
    ∃ b', b.step? [] c = some (.reading (b', [])) ∧ Lists b' (cs ++ [c]) := by
  refine ⟨{ b with written := c :: b.written }.addPlain c.toNat, ?_, (h.written _).addPlain c⟩
  have hc : c ≠ '\\' ∧ c ≠ ']' ∧ c ≠ '^' ∧ c ≠ '-' ∧ c ≠ '[' ∧ c ≠ '&' ∧ c ≠ '~' := by
    simpa [isListed] using hc
  simp [step?, h.held, stepFree, hc]

theorem Lists.closed {b : Bracket} {cs : List Char} (h : Lists b cs) (hne : cs ≠ []) :
    ∃ set, b.step? [] ']' = some (.closed set) ∧
      ∀ t, set.mem true t = true ↔ ∃ m ∈ cs, Letter.caseless m = Letter.caseless t := by
  have hseen := h.written (']' :: b.written)
  refine ⟨{ b with written := ']' :: b.written }.close, ?_, ?_⟩
  · simp [step?, h.held, stepFree, h.begun hne]
  · rw [hseen.close_eq]
    exact hseen.mem_iff

end Bracket

/-- Characters that stand for themselves, in brackets, are read as the set of them. -/
theorem lex_listed {cs : List Char} (hlisted : ∀ c ∈ cs, Bracket.isListed c = true)
    (hne : cs ≠ []) (tokens : List Token) :
    ∃ set, ('[' :: cs ++ [']']).foldlM lexStep (tokens, .plain)
        = some (.set set :: tokens, .plain) ∧
      ∀ t, set.mem true t = true ↔ ∃ m ∈ cs, Letter.caseless m = Letter.caseless t := by
  -- Along the characters the bracket lists those read so far.
  have hread : ∀ (cs done : List Char) (b : Bracket), (∀ c ∈ cs, Bracket.isListed c = true) →
      b.Lists done → ∃ b', cs.foldlM lexStep (tokens, .bracket (b, []))
        = some (tokens, .bracket (b', [])) ∧ b'.Lists (done ++ cs) := by
    intro cs
    induction cs with
    | nil => exact fun done b _ h => ⟨b, rfl, by simpa using h⟩
    | cons c cs ih =>
      intro done b hlisted h
      obtain ⟨next, hstep, h⟩ := h.step (hlisted c List.mem_cons_self)
      obtain ⟨b', hrest, h⟩ := ih _ next (fun d hd => hlisted d (List.mem_cons_of_mem c hd)) h
      refine ⟨b', ?_, by simpa using h⟩
      rw [List.foldlM_cons, lexStep, lexBracket, hstep]
      exact hrest
  obtain ⟨b, hcs, hb⟩ := hread cs [] .new hlisted .new
  obtain ⟨set, hclosed, hset⟩ := hb.closed (by simpa using hne)
  refine ⟨set, ?_, by simpa using hset⟩
  have hopen : lexStep (tokens, .plain) '[' = some (tokens, .bracket (.new, [])) := rfl
  rw [List.cons_append, List.foldlM_cons, hopen, Option.bind_eq_bind, Option.bind_some,
    List.foldlM_append, hcs, Option.bind_eq_bind, Option.bind_some, List.foldlM_cons, lexStep,
    lexBracket, hclosed]
  rfl

/-- A character that is escaped if it has a meaning of its own stands for itself. -/
theorem lex_escaped (c : Char) (tokens : List Token) :
    (if isMeta c then ['\\', c] else [c]).foldlM lexStep (tokens, .plain)
      = some (literal c :: tokens, .plain) := by
  cases hmeta : isMeta c with
  | true =>
    have hescape : (['\\', '.', '+', '*', '?', '(', ')', '|', '[', ']', '\x7b', '\x7d', '^', '$',
        '#', '&', '-', '~'].all fun c => (codeLength? c).isNone && (CharSet.ofEscape? c).isNone &&
        (escapedAnchor? c).isNone && escapedChar? c = some c.toNat) = true := by
      decide
    have hmem : c ∈ ['\\', '.', '+', '*', '?', '(', ')', '|', '[', ']', '\x7b', '\x7d', '^', '$',
        '#', '&', '-', '~'] := by
      simpa [isMeta] using hmeta
    have hc := List.all_eq_true.mp hescape c hmem
    simp only [Bool.and_eq_true, Option.isNone_iff_eq_none, decide_eq_true_eq] at hc
    obtain ⟨⟨⟨hcode, hset⟩, hanchor⟩, hchar⟩ := hc
    have hstep : lexStep (tokens, .escape .plain) c = some (literal c :: tokens, .plain) := by
      simp only [lexStep, lexEscape, hcode, hset, hanchor, hchar]
      rfl
    rw [if_pos rfl, List.foldlM_cons]
    change [c].foldlM lexStep (tokens, .escape .plain) = _
    rw [List.foldlM_cons, hstep]
    rfl
  | false =>
    have hstep : lexStep (tokens, .plain) c = some (literal c :: tokens, .plain) := by
      rw [lexStep]
      unfold lexPlain
      split
      case h_13 => rfl
      all_goals simp [isMeta] at hmeta
    rw [if_neg (by simp), List.foldlM_cons, hstep]
    rfl

/-- A letter to find and a character that passes for it: some form of the letter if it has accents,
else the letter itself, whatever the case. -/
def Alike (letter c : Char) : Prop :=
  (∃ entry ∈ accentClasses, letter ∈ entry.2.toList ∧
      ∃ form ∈ entry.2.toList, Letter.caseless form = Letter.caseless c) ∨
    ((∀ entry ∈ accentClasses, letter ∉ entry.2.toList) ∧
      Letter.caseless letter = Letter.caseless c)

instance (letter c : Char) : Decidable (Alike letter c) :=
  decidable_of_iff
    ((accentClasses.any fun entry => entry.2.toList.contains letter &&
        entry.2.toList.any fun form => Letter.caseless form = Letter.caseless c) = true ∨
      (accentClasses.all fun entry => !entry.2.toList.contains letter) = true ∧
        Letter.caseless letter = Letter.caseless c)
    (by simp [Alike])

/-- The forms of a letter are those of the class that lists it: a class lists its own base letter,
and no two classes have a form in common. -/
theorem accentForms?_eq_some_iff {c : Char} {forms : String} :
    accentForms? c = some forms ↔
      ∃ entry ∈ accentClasses, entry.2 = forms ∧ c ∈ entry.2.toList := by
  have hbase : ∀ entry ∈ accentClasses, entry.1 ∈ entry.2.toList := by decide +kernel
  have hdisjoint : ∀ entry ∈ accentClasses, ∀ other ∈ accentClasses,
      entry.2.toList.any other.2.toList.contains = true → entry.2 = other.2 := by decide +kernel
  have htest : ∀ entry ∈ accentClasses,
      (entry.1 = c || entry.2.toList.contains c) = true ↔ c ∈ entry.2.toList := by
    intro entry hmem
    simp only [Bool.or_eq_true, decide_eq_true_eq, List.contains_iff_mem]
    exact ⟨fun h => h.elim (fun he => he ▸ hbase entry hmem) id, .inr⟩
  rw [accentForms?, Option.map_eq_some_iff]
  constructor
  · rintro ⟨entry, hfound, rfl⟩
    have hmem := List.mem_of_find?_eq_some hfound
    have htrue := List.find?_some hfound
    exact ⟨entry, hmem, rfl, (htest entry hmem).mp htrue⟩
  · rintro ⟨entry, hmem, rfl, hc⟩
    cases hfound : accentClasses.find? fun entry => entry.1 = c || entry.2.toList.contains c with
    | none => exact absurd ((htest entry hmem).mpr hc) (List.find?_eq_none.mp hfound entry hmem)
    | some other =>
      have hother := List.mem_of_find?_eq_some hfound
      have htrue := List.find?_some hfound
      refine ⟨other, rfl, hdisjoint other hother entry hmem (List.any_eq_true.mpr ⟨c, ?_, ?_⟩)⟩
      · exact (htest other hother).mp htrue
      · simpa using hc

/-- The pattern text of a letter is read as the set of all characters that pass for it. -/
theorem lex_accentChar (c : Char) (tokens : List Token) :
    ∃ set, (accentChar c).foldlM lexStep (tokens, .plain) = some (.set set :: tokens, .plain) ∧
      ∀ t, set.mem true t = true ↔ Alike c t := by
  have hlisted : ∀ entry ∈ accentClasses,
      entry.2.toList ≠ [] ∧ entry.2.toList.all Bracket.isListed = true := by decide +kernel
  unfold accentChar
  cases hforms : accentForms? c with
  | some forms =>
    obtain ⟨entry, hmem, rfl, hc⟩ := accentForms?_eq_some_iff.mp hforms
    obtain ⟨hne, hplain⟩ := hlisted entry hmem
    obtain ⟨set, hread, hset⟩ := lex_listed (List.all_eq_true.mp hplain) hne tokens
    refine ⟨set, hread, fun t => (hset t).trans ⟨fun h => .inl ⟨entry, hmem, hc, h⟩, ?_⟩⟩
    rintro (⟨other, hother, hc', h⟩ | ⟨hnone, _⟩)
    · have : entry.2 = other.2 := Option.some.inj
        (hforms.symm.trans (accentForms?_eq_some_iff.mpr ⟨other, hother, rfl, hc'⟩))
      rwa [this]
    · exact absurd hc (hnone entry hmem)
  | none =>
    have hnone : ∀ entry ∈ accentClasses, c ∉ entry.2.toList := by
      intro entry hmem hc
      rw [accentForms?_eq_some_iff.mpr ⟨entry, hmem, rfl, hc⟩] at hforms
      cases hforms
    refine ⟨.single c.toNat, lex_escaped c tokens, fun t => CharSet.mem_single_iff.trans ?_⟩
    refine ⟨fun h => .inr ⟨hnone, h⟩, ?_⟩
    rintro (⟨entry, hmem, hc, _⟩ | ⟨_, h⟩)
    · exact absurd hc (hnone entry hmem)
    · exact h

/-- Sets that take the characters that pass for some letters, one by one. -/
def Accepts (letters : List Char) (sets : List CharSet) : Prop :=
  List.Forall₂ (fun letter set => ∀ c, set.mem true c = true ↔ Alike letter c) letters sets

theorem lex_accents (letters : List Char) (tokens : List Token) :
    ∃ sets, (letters.flatMap accentChar).foldlM lexStep (tokens, .plain)
        = some ((sets.map Token.set).reverse ++ tokens, .plain) ∧ Accepts letters sets := by
  induction letters generalizing tokens with
  | nil => exact ⟨[], rfl, .nil⟩
  | cons letter letters ih =>
    obtain ⟨set, hfirst, hset⟩ := lex_accentChar letter tokens
    obtain ⟨sets, hrest, hsets⟩ := ih (.set set :: tokens)
    refine ⟨set :: sets, ?_, .cons hset hsets⟩
    rw [List.flatMap_cons, List.foldlM_append, hfirst, Option.bind_eq_bind, Option.bind_some, hrest]
    simp

/-- Letters fit the sets that accept them exactly where they are alike one by one. -/
theorem Accepts.fits_iff {letters : List Char} {sets : List CharSet} (h : Accepts letters sets)
    (stretch : List Char) : Fits sets stretch ↔ List.Forall₂ Alike letters stretch := by
  induction h generalizing stretch with
  | nil => simp [Fits]
  | cons hset _ ih =>
    cases stretch with
    | nil => simp [Fits]
    | cons c stretch =>
      rw [Fits, List.forall₂_cons, List.forall₂_cons, hset, ← Fits, ih]

/-- The pattern text of letters, bound to the start or the end of a text or to neither. -/
def accentPattern (atStart atEnd : Bool) (letters : List Char) : List Char :=
  (if atStart then ['^'] else []) ++ (letters.flatMap accentChar ++ if atEnd then ['$'] else [])

theorem tokens?_accentPattern (atStart atEnd : Bool) (letters : List Char) :
    ∃ sets, Accepts letters sets ∧ tokens? (accentPattern atStart atEnd letters)
      = some ((if atStart then [Token.caret] else [])
          ++ (sets.map Token.set ++ if atEnd then [.dollar] else [])) := by
  let opened : List Token := if atStart then [Token.caret] else []
  obtain ⟨sets, hread, haccepts⟩ := lex_accents letters opened
  refine ⟨sets, haccepts, ?_⟩
  have hstart : (if atStart then ['^'] else []).foldlM lexStep ([], .plain)
      = some (opened, .plain) := by
    cases atStart <;> rfl
  have hend : ∀ tokens, (if atEnd then ['$'] else []).foldlM lexStep (tokens, .plain)
      = some ((if atEnd then [Token.dollar] else []) ++ tokens, .plain) := by
    cases atEnd <;> exact fun _ => rfl
  simp only [tokens?, accentPattern, List.foldlM_append, hstart, hread, hend, Option.bind_eq_bind,
    Option.bind_some]
  cases atStart <;> cases atEnd <;> simp [opened]

/-- Sets are put to the current group one by one. -/
theorem parse_sets (sets : List CharSet) (s : Parsing) :
    (sets.map Token.set).foldlM Parsing.step? s
      = some { s with group := { s.group with
          parts := (sets.map fun set => some (one set s.flags.caseless)).reverse
            ++ s.group.parts } } := by
  induction sets generalizing s with
  | nil => rfl
  | cons set sets ih =>
    rw [List.map_cons, List.foldlM_cons]
    change (sets.map Token.set).foldlM Parsing.step? (s.push (one set s.flags.caseless)) = _
    rw [ih]
    simp [Parsing.push, Group.push]

/-- The pattern of some letters can be read whatever they are. -/
theorem read?_accentPattern (atStart atEnd : Bool) (letters : List Char) :
    ∃ sets, Accepts letters sets ∧
      read? ⟨true, false, false⟩ (String.ofList (accentPattern atStart atEnd letters))
        = some (bound atStart atEnd sets) := by
  obtain ⟨sets, haccepts, htokens⟩ := tokens?_accentPattern atStart atEnd letters
  refine ⟨sets, haccepts, ?_⟩
  rw [read?, String.toList_ofList, htokens]
  cases atStart <;> cases atEnd <;>
    simp [List.foldlM_append, parse_sets, Parsing.step?, Parsing.push, Group.push, Group.pattern,
      Group.alternative, Group.new, eitherAll, bound, List.filterMap_append, List.filterMap_map]

/-- Where a text holds a stretch that passes for some letters, at its start or its end if asked. -/
def FoundIn (atStart atEnd : Bool) (letters text : List Char) : Prop :=
  ∃ before stretch after, text = before ++ stretch ++ after ∧
    List.Forall₂ Alike letters stretch ∧ (atStart = true → before = []) ∧
      (atEnd = true → after = [])

/-- The pattern of some letters finds exactly the texts that hold them. -/
theorem search_accentPattern (atStart atEnd : Bool) (letters : List Char) :
    ∃ p, read? ⟨true, false, false⟩ (String.ofList (accentPattern atStart atEnd letters)) = some p ∧
      ∀ text, search p text = true ↔ FoundIn atStart atEnd letters text.toList := by
  obtain ⟨sets, haccepts, hread⟩ := read?_accentPattern atStart atEnd letters
  refine ⟨bound atStart atEnd sets, hread, fun text => ?_⟩
  simp only [search_bound, haccepts.fits_iff, FoundIn]

end Pattern

end RecordQuery
