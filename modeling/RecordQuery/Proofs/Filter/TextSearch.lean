import RecordQuery.Proofs.Filter.Negation
import RecordQuery.Proofs.Pattern.Accent

/-!
# What the text operators find

A condition that looks for a text is compiled exactly if its value comes to a text, and it accepts
a text exactly if a stretch of it is alike, letter by letter: some stretch, one at the start or one
at the end. The letters looked for are those of the value in lower case. Lower case is one letter
for every character but the dotted capital I, so a text finds itself unless it holds that letter.
-/

namespace RecordQuery

namespace Text

/-- The letters of a text, each in lower case on its own. -/
def letters (s : String) : List Char := s.toList.flatMap Letter.lower

theorem length_letters (cs : List Char) :
    (cs.flatMap Letter.lower).length = cs.length + cs.count 'İ' := by
  induction cs with
  | nil => rfl
  | cons c cs ih =>
    rw [List.flatMap_cons, List.length_append, ih, List.length_cons, List.count_cons, Letter.lower]
    by_cases hc : c = 'İ'
    · simp only [hc, ↓reduceIte, List.length_cons, List.length_nil, beq_self_eq_true]
      omega
    · simp only [hc, ↓reduceIte, List.length_cons, List.length_nil, beq_iff_eq]
      omega

theorem letters_of_undotted {cs : List Char} (h : 'İ' ∉ cs) :
    cs.flatMap Letter.lower = cs.map Letter.small := by
  induction cs with
  | nil => rfl
  | cons c cs ih =>
    have hc : c ≠ 'İ' := fun he => h (he ▸ List.mem_cons_self)
    rw [List.flatMap_cons, ih fun hmem => h (List.mem_cons_of_mem c hmem), Letter.lower, if_neg hc]
    rfl

end Text

namespace Pattern

/-- A small letter passes for every character it is the small letter of. -/
theorem alike_small (c : Char) : Alike (Letter.small c) c := by
  by_cases hlisted : ∃ entry ∈ accentClasses, Letter.small c ∈ entry.2.toList
  · obtain ⟨entry, hmem, hc⟩ := hlisted
    exact .inl ⟨entry, hmem, hc, Letter.small c, hc, Letter.caseless_small c⟩
  · exact .inr ⟨fun entry hmem hc => hlisted ⟨entry, hmem, hc⟩, Letter.caseless_small c⟩

theorem alike_letters {cs : List Char} (h : 'İ' ∉ cs) :
    List.Forall₂ Alike (cs.flatMap Letter.lower) cs := by
  rw [Text.letters_of_undotted h, List.forall₂_map_left_iff, List.forall₂_same]
  exact fun c _ => alike_small c

end Pattern

namespace Operator

/-- The operators that look for a text. -/
def textual : List Operator := [contains, startsWith, endsWith]

theorem textual_cases {operator : Operator} (h : operator ∈ textual) :
    operator = contains ∨ operator = startsWith ∨ operator = endsWith := by
  simpa [textual] using h

/-- A text has a stretch that passes for some letters, where the operator looks for it. -/
def Finds (operator : Operator) (letters text : List Char) : Prop :=
  ∃ stretch, List.Forall₂ Pattern.Alike letters stretch ∧
    match operator with
    | startsWith => stretch <+: text
    | endsWith => stretch <:+ text
    | _ => stretch <:+: text

theorem finds_iff {operator : Operator} (textual : operator ∈ textual) {letters text : List Char} :
    operator.Finds letters text
      ↔ Pattern.FoundIn (operator = startsWith) (operator = endsWith) letters text := by
  obtain rfl | rfl | rfl := textual_cases textual
  · constructor
    · rintro ⟨stretch, halike, before, after, htext⟩
      exact ⟨before, stretch, after, htext.symm, halike, by simp, by simp⟩
    · rintro ⟨before, stretch, after, htext, halike, _, _⟩
      exact ⟨stretch, halike, before, after, htext.symm⟩
  · constructor
    · rintro ⟨stretch, halike, after, htext⟩
      exact ⟨[], stretch, after, htext.symm, halike, by simp, by simp⟩
    · rintro ⟨before, stretch, after, htext, halike, hstart, _⟩
      obtain rfl := hstart (by simp)
      exact ⟨stretch, halike, after, htext.symm⟩
  · constructor
    · rintro ⟨stretch, halike, before, htext⟩
      exact ⟨before, stretch, [], by simpa using htext.symm, halike, by simp, by simp⟩
    · rintro ⟨before, stretch, after, htext, halike, _, hend⟩
      obtain rfl := hend (by simp)
      exact ⟨stretch, halike, before, by simpa using htext.symm⟩

/-- A text has its own letters, wherever an operator looks, unless they are more than its
characters. -/
theorem finds_letters_iff {operator : Operator} {cs : List Char} :
    operator.Finds (cs.flatMap Letter.lower) cs ↔ 'İ' ∉ cs := by
  constructor
  · rintro ⟨stretch, halike, hwindow⟩
    have hlength : stretch.length ≤ cs.length := by
      cases operator with
      | startsWith => exact List.IsPrefix.length_le hwindow
      | endsWith => exact List.IsSuffix.length_le hwindow
      | _ => exact List.IsInfix.length_le hwindow
    rw [← halike.length_eq, Text.length_letters] at hlength
    exact List.count_eq_zero.mp (by omega)
  · intro h
    refine ⟨cs, Pattern.alike_letters h, ?_⟩
    cases operator with
    | startsWith => exact List.prefix_refl cs
    | endsWith => exact List.suffix_refl cs
    | _ => exact List.infix_refl cs

end Operator

namespace Operand

/-- The text that a value is looked for as. -/
def text? : Value → Option String
  | .str s => some s
  | .num n => some n.text
  | _ => none

end Operand

namespace Token

theorem resolve_of_head? {s : String} (h : s.toList.head? ≠ some '$') (ctx : FilterContext) :
    resolve s ctx = .ok none := by
  have : s.startsWith "$" = false := by
    rw [Bool.eq_false_iff]
    exact fun hstarts => h (Query.isOperatorName_iff.mp hstarts)
  rw [resolve, this]
  rfl

end Token

namespace Condition

variable {ctx : FilterContext} {document : DocumentType}

/-- The pattern text of an operator is that of the letters, bound to where the operator looks. -/
theorem ofList_accentPattern (operator : Operator) (needle : String) :
    String.ofList (Pattern.accentPattern (operator = .startsWith) (operator = .endsWith)
        (Text.letters needle))
      = match operator with
        | .startsWith => "^" ++ Pattern.accentText needle
        | .endsWith => Pattern.accentText needle ++ "$"
        | _ => Pattern.accentText needle := by
  have haccents : Pattern.accentText needle
      = String.ofList ((Text.letters needle).flatMap Pattern.accentChar) := rfl
  apply String.toList_inj.mp
  cases operator <;> simp [haccents, Pattern.accentPattern]

/-- The clause that looks for a text can always be made: no character of the text has a meaning of
its own in the pattern. -/
theorem textClause_of_text {operator : Operator} (textual : operator ∈ Operator.textual)
    (term : String) {v : Value} {needle : String} (h : Operand.text? v = some needle) :
    ∃ text p, textClause term operator v = .ok (.pattern text p false) ∧
      ∀ t : String, p.search t = true ↔ operator.Finds (Text.letters needle) t.toList := by
  obtain ⟨p, hread, hsearch⟩ := Pattern.search_accentPattern (operator = .startsWith)
    (operator = .endsWith) (Text.letters needle)
  have hclause : ∃ text, textClause term operator v = .ok (.pattern text p false) := by
    have hv : textClause term operator v = textClause term operator (.str needle) := by
      cases v with
      | str s => rw [← Option.some.inj h]
      | num n =>
        rw [← Option.some.inj h]
        rfl
      | _ => cases h
    rw [ofList_accentPattern] at hread
    rw [hv]
    obtain rfl | rfl | rfl := Operator.textual_cases textual <;>
    · simp only at hread
      simp only [textClause, bind, Except.bind, hread]
      exact ⟨_, rfl⟩
  obtain ⟨text, hclause⟩ := hclause
  exact ⟨text, p, hclause, fun t => (hsearch t).trans (Operator.finds_iff textual).symm⟩

/-- A clause that looks for a text is only made of one. -/
theorem text?_of_textClause {operator : Operator} {term : String} {v : Value} {made : Clause}
    (h : textClause term operator v = .ok made) : ∃ needle, Operand.text? v = some needle := by
  cases v with
  | str s => exact ⟨s, rfl⟩
  | num n => exact ⟨n.text, rfl⟩
  | _ => cases h

theorem clause_textual {operator : Operator} (textual : operator ∈ Operator.textual)
    (term : String) (resolved : ResolvedTerm) (raw : Value) :
    clause ctx operator term resolved raw
      = (Operand.resolve ctx operator term resolved raw >>= textClause term operator).map some := by
  have hmap : ∀ (x : Except CompileError Value) (f : Value → Except CompileError Clause),
      (do
        let v ← x
        return some (← f v)) = (x >>= f).map some := by
    intro x f
    cases x with
    | error e => rfl
    | ok v =>
      simp only [bind, Except.bind]
      cases f v <;> rfl
  obtain rfl | rfl | rfl := Operator.textual_cases textual <;> exact hmap _ _

/-- A condition looks for a text: its term leads to a field whose type admits the operator, and its
value comes to that text. -/
structure Seeks (ctx : FilterContext) (document : DocumentType) (c : Condition)
    (operator : Operator) (needle : String) : Prop where
  exists_value : ∃ resolved raw v, Leads ctx document c.term resolved ∧ resolved.Admits operator ∧
    c.value = some raw ∧
    Operand.resolve ctx operator (Term.normalize c.term) resolved raw = .ok v ∧
    Operand.text? v = some needle

/-- What a condition that looks for a text is compiled to. -/
theorem Seeks.compile_eq {c : Condition} {operator : Operator} {needle : String}
    (h : Seeks ctx document c operator needle)
    (hoperator : Operator.ofName? c.operator = some operator)
    (textual : operator ∈ Operator.textual) :
    ∃ text p, c.compile ctx document
        = .ok (invert (Term.normalize c.term) c.inverted (some (.pattern text p false))) ∧
      (Clause.pattern text p false).Faithful ∧
      ∀ t : String, p.search t = true ↔ operator.Finds (Text.letters needle) t.toList := by
  obtain ⟨resolved, raw, v, leads, admits, hraw, hv, hneedle⟩ := h.exists_value
  obtain ⟨text, p, hclause, hsearch⟩ :=
    textClause_of_text textual (Term.normalize c.term) hneedle
  refine ⟨text, p, ?_, textClause_eq_ok hclause, hsearch⟩
  rw [compile_eq_map leads admits hoperator hraw, clause_textual textual, hv]
  simp only [bind, Except.bind, hclause, Except.map]

theorem seeks_of_compile {c : Condition} {operator : Operator} {compiled : CompiledCondition}
    (hoperator : Operator.ofName? c.operator = some operator)
    (textual : operator ∈ Operator.textual) (h : c.compile ctx document = .ok compiled) :
    ∃ needle, Seeks ctx document c operator needle := by
  obtain ⟨operator', raw, resolved, made, hoperator', hraw, leads, admits, hmade, _⟩ :=
    leads_of_compile h
  obtain rfl := Option.some.inj (hoperator.symm.trans hoperator')
  rw [clause_textual textual] at hmade
  obtain ⟨_, hmade, _⟩ := map_eq_ok_iff.mp hmade
  obtain ⟨v, hv, hmade⟩ := bind_eq_ok_iff.mp hmade
  obtain ⟨needle, hneedle⟩ := text?_of_textClause hmade
  exact ⟨needle, ⟨resolved, raw, v, leads, admits, hraw, hv, hneedle⟩⟩

end Condition

namespace CompiledCondition

/-- A condition that looks for a pattern accepts a text where the pattern is found, and refuses it
there if it is inverted. -/
theorem holds_pattern {term text : String} {p : Pattern} {inverted : Bool} {r : Record} {t : String}
    (hreach : Record.reach r (Path.ofText term) = [.str t]) :
    (Condition.invert term inverted (some (.pattern text p false))).toPredicate.holds r
      = (inverted ^^ p.search t) := by
  rw [holds_toPredicate, Condition.invert_term, hreach, test_invert]
  simp [Clause.toTest, FieldTest.holds, FieldTest.matchesAny, FieldTest.candidates]

/-- The store takes a term that looks like an operator for one, and finds no such operator. -/
theorem read_pattern_of_operatorName {term : String} (h : Query.isOperatorName term = true)
    (text : String) (p : Pattern) (read : Predicate) :
    Query.read (Condition.invert term false (some (.pattern text p false))).toQuery ≠ .ok read := by
  refine Query.read_of_operatorName h (v := (Clause.pattern text p false).toQuery) rfl ?_ read
  simp [Clause.toQuery, Value.get?, Fields.get?_cons]

end CompiledCondition

namespace Condition

variable {ctx : FilterContext} {document : DocumentType}

/-- The types of fields with texts to look for leave texts as they are. -/
theorem resolve_ordinary {operator : Operator} (textual : operator ∈ Operator.textual)
    {resolved : ResolvedTerm} (admits : resolved.Admits operator) {s : String}
    (ordinary : Token.resolve s ctx = .ok none) (term : String) :
    Operand.resolve ctx operator term resolved (.str s) = .ok (.str s) := by
  have htypes : ∀ type ∈ TermType.filterable, ∀ operator ∈ Operator.textual,
      operator ∈ (TermType.operators? type).getD [] →
      type ≠ "encrypted" ∧ TermType.isDate type = false ∧ TermType.isNumeric type = false ∧
        type ≠ "phone.countryCode" := by
    decide +kernel
  obtain ⟨allowed, hallowed, hmem⟩ := admits
  obtain ⟨hencrypted, hdate, hnumeric, hcode⟩ :=
    htypes _ (TermType.mem_filterable hallowed) operator textual (by simpa [hallowed] using hmem)
  have hcoerce : Operand.coerce resolved.type (.str s) = .str s := by
    simp [Operand.coerce, hdate, hnumeric, hcode]
  simp [Operand.resolve, ordinary, hencrypted, Operand.each, hcoerce]

/-- A condition that looks for a text compiles exactly if its value comes to a text, whatever the
characters of it. It accepts the texts in which the operator finds the letters of that text, as a
predicate and as the store reads its query. -/
theorem compile_finds_text {c : Condition} {operator : Operator}
    (hoperator : Operator.ofName? c.operator = some operator)
    (textual : operator ∈ Operator.textual) :
    ((∃ compiled, c.compile ctx document = .ok compiled) ↔
      ∃ needle, Seeks ctx document c operator needle) ∧
    ∀ needle compiled, Seeks ctx document c operator needle →
      c.compile ctx document = .ok compiled →
      (∀ (r : Record) (t : String), Record.reach r (Path.ofText compiled.term) = [.str t] →
        (compiled.toPredicate.holds r = true ↔
          (operator.Finds (Text.letters needle) t.toList ↔ c.inverted = false))) ∧
      (document.PlainNames → ∃ read, Query.read compiled.toQuery = .ok read ∧
        ∀ r, read.holds r = compiled.toPredicate.holds r) := by
  constructor
  · constructor
    · rintro ⟨compiled, h⟩
      exact seeks_of_compile hoperator textual h
    · rintro ⟨needle, hseeks⟩
      obtain ⟨text, p, h, _⟩ := hseeks.compile_eq hoperator textual
      exact ⟨_, h⟩
  · intro needle compiled hseeks h
    obtain ⟨text, p, hcompile, _, hsearch⟩ := hseeks.compile_eq hoperator textual
    obtain rfl := Except.ok.inj (hcompile.symm.trans h)
    refine ⟨fun r t hreach => ?_, fun plain => ?_⟩
    · rw [invert_term] at hreach
      rw [CompiledCondition.holds_pattern hreach, ← hsearch t]
      cases c.inverted <;> simp
    · exact CompiledCondition.read_toQuery (compile_faithful plain h)

/-- Fields of texts admit every operator that looks for one. -/
theorem text_admits {operator : Operator} (textual : operator ∈ Operator.textual) :
    ResolvedTerm.Admits ⟨"text", []⟩ operator :=
  ⟨_, rfl, by revert operator; decide⟩

theorem leads_notes : Leads Deals.context Deals.document "notes" ⟨"text", []⟩ := ⟨by decide, rfl⟩

/-- Notes that end with a name in brackets. -/
def endsWithJoao : Condition := .new "notes" "end_with" (.str "(Joao)")

theorem compile_finds_text_joao :
    Operator.ofName? endsWithJoao.operator = some .endsWith ∧ .endsWith ∈ Operator.textual ∧
    ∃ compiled read, endsWithJoao.compile Deals.context Deals.document = .ok compiled ∧
      Query.read compiled.toQuery = .ok read ∧
      compiled.toPredicate.holds [("notes", .str "para (JOÃO)")] = true ∧
      read.holds [("notes", .str "para (JOÃO)")] = true ∧
      compiled.toPredicate.holds [("notes", .str "(João) aqui")] = false := by
  have hoperator : Operator.ofName? endsWithJoao.operator = some .endsWith := rfl
  have htextual : Operator.endsWith ∈ Operator.textual := by decide
  have hadmits := text_admits htextual
  have hseeks : Seeks Deals.context Deals.document endsWithJoao .endsWith "(Joao)" :=
    ⟨⟨"text", []⟩, _, _, leads_notes, hadmits, rfl,
      resolve_ordinary htextual hadmits (Token.resolve_of_head? (by decide) _) _, rfl⟩
  obtain ⟨hcompiles, hfinds⟩ :=
    @compile_finds_text Deals.context Deals.document _ _ hoperator htextual
  obtain ⟨compiled, hcompiled⟩ := hcompiles.mpr ⟨_, hseeks⟩
  obtain ⟨hpredicate, hread⟩ := hfinds _ _ hseeks hcompiled
  obtain ⟨read, hquery, hagrees⟩ := hread Deals.plainNames
  have hterm : compiled.term = "notes" := (compile_term hcompiled).trans (by decide)
  have hends : compiled.toPredicate.holds [("notes", .str "para (JOÃO)")] = true := by
    refine (hpredicate _ "para (JOÃO)" (by rw [hterm]; rfl)).mpr (iff_of_true ?_ rfl)
    refine ⟨"(JOÃO)".toList, ?_, "para ".toList, by decide⟩
    decide +kernel
  refine ⟨hoperator, htextual, compiled, read, hcompiled, hquery, hends, ?_, ?_⟩
  · rw [hagrees, hends]
  · rw [Bool.eq_false_iff, Ne, hpredicate _ "(João) aqui" (by rw [hterm]; rfl)]
    -- The last six characters are no name in brackets.
    intro hfound
    obtain ⟨stretch, halike, hsuffix⟩ := hfound.mpr rfl
    have hlength := halike.length_eq
    rw [List.suffix_iff_eq_drop.mp hsuffix, ← hlength] at halike
    revert halike
    decide +kernel

/-- What a condition that looks for an ordinary text is compiled to, and when it finds that text in
itself. -/
theorem compile_itself {term : String} {resolved : ResolvedTerm} {operator : Operator} {s : String}
    (leads : Leads ctx document term resolved) (textual : operator ∈ Operator.textual)
    (admits : resolved.Admits operator) (ordinary : Token.resolve s ctx = .ok none) :
    ∃ text p, (Condition.new term operator.name (.str s)).compile ctx document
        = .ok (invert (Term.normalize term) false (some (.pattern text p false))) ∧
      (Clause.pattern text p false).Faithful ∧ (p.search s = true ↔ 'İ' ∉ s.toList) := by
  have hseeks : Seeks ctx document (Condition.new term operator.name (.str s)) operator s :=
    ⟨resolved, .str s, .str s, leads, admits, rfl,
      resolve_ordinary textual admits ordinary _, rfl⟩
  obtain ⟨text, p, hcompile, hfaithful, hsearch⟩ :=
    hseeks.compile_eq (Operator.ofName?_name operator) textual
  exact ⟨text, p, hcompile, hfaithful, (hsearch s).trans Operator.finds_letters_iff⟩

/-- A condition that looks for a text in a field of just that text holds as a predicate exactly if
the text has no dotted capital I, and as a query exactly if, besides, the term does not look like an
operator. -/
theorem finds_itself_iff {term : String} {resolved : ResolvedTerm} {operator : Operator}
    {s : String} (leads : Leads ctx document term resolved)
    (textual : operator ∈ Operator.textual) (admits : resolved.Admits operator)
    (ordinary : Token.resolve s ctx = .ok none) :
    ∃ compiled,
      (Condition.new term operator.name (.str s)).compile ctx document = .ok compiled ∧
      ∀ r : Record, Record.reach r (Path.ofText (Term.normalize term)) = [.str s] →
        (compiled.toPredicate.holds r = true ↔ 'İ' ∉ s.toList) ∧
        ((∃ read, Query.read compiled.toQuery = .ok read ∧ read.holds r = true) ↔
          'İ' ∉ s.toList ∧ Query.isOperatorName (Term.normalize term) = false) := by
  obtain ⟨text, p, hcompile, hfaithful, hsearch⟩ := compile_itself leads textual admits ordinary
  refine ⟨_, hcompile, fun r hreach => ?_⟩
  have hholds : (invert (Term.normalize term) false
      (some (.pattern text p false))).toPredicate.holds r = true ↔ 'İ' ∉ s.toList := by
    rw [CompiledCondition.holds_pattern hreach, Bool.false_xor, hsearch]
  refine ⟨hholds, ?_⟩
  cases hname : Query.isOperatorName (Term.normalize term) with
  | true =>
    simp only [Bool.true_eq_false, and_false, iff_false]
    rintro ⟨read, hread, _⟩
    exact CompiledCondition.read_pattern_of_operatorName hname text p read hread
  | false =>
    have hfaithful : (invert (Term.normalize term) false
        (some (.pattern text p false))).Faithful := by
      refine ⟨by rwa [invert_term], ?_, fun _ v => by simp [invert]⟩
      rintro clause hclause
      obtain rfl : Clause.pattern text p false = clause := Option.some.inj hclause
      exact hfaithful
    obtain ⟨read, hread, hagrees⟩ := CompiledCondition.read_toQuery hfaithful
    rw [← hholds]
    constructor
    · rintro ⟨read', hread', h⟩
      obtain rfl := Except.ok.inj (hread.symm.trans hread')
      exact ⟨hagrees r ▸ h, rfl⟩
    · rintro ⟨h, _⟩
      exact ⟨read, hread, (hagrees r).trans h⟩

theorem finds_itself_iff_strasse :
    (∃ resolved, Leads Deals.context Deals.document "notes" resolved ∧
      resolved.Admits .startsWith) ∧
    .startsWith ∈ Operator.textual ∧ Token.resolve "Straße [ẞ]" Deals.context = .ok none ∧
    ∃ compiled read, (Condition.new "notes" "starts_with" (.str "Straße [ẞ]")).compile Deals.context
        Deals.document = .ok compiled ∧ Query.read compiled.toQuery = .ok read ∧
      compiled.toPredicate.holds [("notes", .str "Straße [ẞ]")] = true ∧
      read.holds [("notes", .str "Straße [ẞ]")] = true := by
  have htextual : Operator.startsWith ∈ Operator.textual := by decide
  have hadmits := text_admits htextual
  have hordinary : Token.resolve "Straße [ẞ]" Deals.context = .ok none :=
    Token.resolve_of_head? (by decide) _
  obtain ⟨compiled, hcompiled, hfinds⟩ := finds_itself_iff leads_notes htextual hadmits hordinary
  obtain ⟨hpredicate, hquery⟩ := hfinds [("notes", .str "Straße [ẞ]")] rfl
  have hname := Term.isOperatorName_of_resolve Deals.plainNames leads_notes.resolves
  obtain ⟨read, hread, hholds⟩ := hquery.mpr ⟨by decide, hname⟩
  exact ⟨⟨_, leads_notes, hadmits⟩, htextual, hordinary, compiled, read, hcompiled, hread,
    hpredicate.mpr (by decide), hholds⟩

/-- The dotted capital I becomes two letters, so the pattern is longer than the text. -/
theorem misses_izmir :
    Token.resolve "İzmir" Deals.context = .ok none ∧
    Record.reach [("notes", .str "İzmir")] (Path.ofText "notes") = [.str "İzmir"] ∧
    ∃ compiled, (Condition.new "notes" "contains" (.str "İzmir")).compile Deals.context
        Deals.document = .ok compiled ∧
      compiled.toPredicate.holds [("notes", .str "İzmir")] = false := by
  have hordinary : Token.resolve "İzmir" Deals.context = .ok none :=
    Token.resolve_of_head? (by decide) _
  have hreach : Record.reach [("notes", .str "İzmir")] (Path.ofText "notes") = [.str "İzmir"] := rfl
  have htextual : Operator.contains ∈ Operator.textual := by decide
  obtain ⟨text, p, hcompiled, _, hsearch⟩ :=
    compile_itself leads_notes htextual (text_admits htextual) hordinary
  have hnormal : Term.normalize "notes" = "notes" := by decide
  rw [hnormal] at hcompiled
  refine ⟨hordinary, hreach, _, hcompiled, ?_⟩
  rw [CompiledCondition.holds_pattern hreach, Bool.false_xor, Bool.eq_false_iff, Ne, hsearch]
  decide

end Condition

end RecordQuery
