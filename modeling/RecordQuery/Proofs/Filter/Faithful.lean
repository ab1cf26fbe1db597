import RecordQuery.Proofs.Filter.Operand
import RecordQuery.Proofs.Filter.ReadBack

/-!
# Compiled filters can be read back

The compiler refuses literals that could be taken for operators, and a term begins with a name of
the document. So the store reads the query of every compiled filter as the predicate of that filter.
-/

namespace RecordQuery

namespace DocumentType

/-- No field has a name that a query would take for an operator. -/
def PlainNames (document : DocumentType) : Prop :=
  ∀ name ∈ Fields.names document.fields, Query.isOperatorName name = false

theorem plainNames_of_all {document : DocumentType}
    (h : (Fields.names document.fields).all (fun name => name.toList.head? != some '$') = true) :
    document.PlainNames := by
  intro name hmem
  have hhead := List.all_eq_true.mp h name hmem
  rw [Bool.eq_false_iff, Ne, Query.isOperatorName_iff]
  simpa using hhead

end DocumentType

namespace Term

theorem root_operatorName {term : String} (h : Query.isOperatorName term = true) :
    Query.isOperatorName (Path.root term) = true := by
  rw [Query.isOperatorName_iff] at h ⊢
  rw [Path.root, String.toList_ofList]
  cases hterm : term.toList with
  | nil => simp [hterm] at h
  | cons c rest =>
    obtain rfl : c = '$' := by simpa [hterm] using h
    rw [List.takeWhile_cons_of_pos (by decide)]
    rfl

/-- A term that resolves is not taken for an operator. -/
theorem isOperatorName_of_resolve {registry : Registry} {document : DocumentType}
    (plain : document.PlainNames) {term : String} {resolved : ResolvedTerm}
    (h : resolve registry document term = .ok resolved) : Query.isOperatorName term = false := by
  cases hname : Query.isOperatorName term with
  | false => rfl
  | true =>
    have hroot := root_operatorName hname
    rcases root_of_resolve h with hid | hmem
    · rw [hid, Query.isOperatorName_iff] at hroot
      exact absurd hroot (by decide)
    · rw [plain _ hmem] at hroot
      exact absurd hroot (by decide)

end Term

namespace Condition

theorem textClause_eq_ok {term : String} {operator : Operator} {v : Value} {made : Clause}
    (h : textClause term operator v = .ok made) : made.Faithful := by
  cases v with
  | str _ | num _ =>
    simp only [textClause, bind, Except.bind] at h
    split at h
    · rename_i p hread
      obtain rfl := Except.ok.inj h
      exact hread
    · simp at h
  | _ => simp [textClause, bind, Except.bind] at h

theorem rangeClause_eq_ok {ctx : FilterContext} {term : String} {resolved : ResolvedTerm}
    {raw : Value} {made : Clause} (h : rangeClause ctx term resolved raw = .ok (some made)) :
    made.Faithful := by
  unfold rangeClause at h
  split at h
  · obtain ⟨low, _, h⟩ := bind_eq_ok_iff.mp h
    obtain ⟨high, _, h⟩ := bind_eq_ok_iff.mp h
    have h := Except.ok.inj h
    split at h
    · simp at h
    · rename_i hbound
      obtain rfl := Option.some.inj h
      cases low with
      | some v => exact .inl rfl
      | none =>
        cases high with
        | some v => exact .inr rfl
        | none => simp at hbound
  · simp [pure, Except.pure] at h

/-- Every clause that the compiler makes can be read back. -/
theorem clause_faithful {ctx : FilterContext} {operator : Operator} {term : String}
    {resolved : ResolvedTerm} {raw : Value} {made : Clause}
    (h : clause ctx operator term resolved raw = .ok (some made)) : made.Faithful := by
  -- Only an equality restricts its literal, and there the literal was checked.
  have literal : ∀ {make : Value → Clause}, operator.literal? = some make →
      (∀ v, Query.isOperators v = false → (make v).Faithful) → made.Faithful := by
    intro make hmake hfaithful
    rw [clause_of_literal hmake] at h
    obtain ⟨v, hv, hmade⟩ := map_eq_ok_iff.mp h
    obtain rfl := Option.some.inj hmade
    have hopen := Operand.hidesOperators_of_literal hv
    exact hfaithful v (Query.isOperators_of_not_hidesOperators hopen)
  have text : (do
      let v ← Operand.resolve ctx operator term resolved raw
      return some (← textClause term operator v)) = Except.ok (some made) → made.Faithful := by
    intro h
    obtain ⟨v, _, h⟩ := bind_eq_ok_iff.mp h
    obtain ⟨w, hmade, h⟩ := bind_eq_ok_iff.mp h
    obtain rfl := Option.some.inj (Except.ok.inj h)
    exact textClause_eq_ok hmade
  cases operator with
  | currentUser =>
    obtain rfl := Option.some.inj (Except.ok.inj h)
    rfl
  | currentUserGroup =>
    obtain rfl := Option.some.inj (Except.ok.inj h)
    cases hgroup : ctx.user.group <;> rfl
  | notCurrentUser | notCurrentUserGroup | currentUserGroups =>
    obtain rfl := Option.some.inj (Except.ok.inj h)
    trivial
  | isPresent =>
    obtain ⟨v, _, h⟩ := bind_eq_ok_iff.mp h
    obtain rfl := Option.some.inj (Except.ok.inj h)
    trivial
  | between => exact rangeClause_eq_ok h
  | contains | notContains | startsWith | endsWith => exact text h
  | equals => exact literal rfl fun v hv => hv
  | _ => exact literal rfl fun v _ => trivial

theorem invert_negated {term : String} {inverted : Bool} {made : Option Clause}
    (h : (invert term inverted made).negated = true) :
    ∀ v, (invert term inverted made).clause ≠ some (.equals v) := by
  unfold invert at h ⊢
  split
  · cases inverted <;> simp at h
  · rename_i hne
    exact fun v e => hne v e

theorem invert_clause {term : String} {inverted : Bool} {made : Option Clause}
    (h : ∀ clause, made = some clause → clause.Faithful) :
    ∀ clause, (invert term inverted made).clause = some clause → clause.Faithful := by
  intro clause hclause
  unfold invert at hclause
  split at hclause
  · rename_i v
    cases inverted with
    | false => exact h clause hclause
    | true =>
      obtain rfl := Option.some.inj hclause
      trivial
  · exact h clause hclause

/-- Every condition that compiles can be read back. -/
theorem compile_faithful {ctx : FilterContext} {document : DocumentType}
    (plain : document.PlainNames) {c : Condition} {compiled : CompiledCondition}
    (h : c.compile ctx document = .ok compiled) : compiled.Faithful := by
  obtain ⟨operator, raw, resolved, made, _, _, hresolved, _, hclause, rfl⟩ := compile_eq_ok h
  refine ⟨?_, invert_clause ?_, invert_negated⟩
  · rw [invert_term]
    exact Term.isOperatorName_of_resolve plain hresolved
  · rintro clause rfl
    exact clause_faithful hclause

end Condition

namespace Filter

theorem compile_faithful {ctx : FilterContext} {document : DocumentType}
    (plain : document.PlainNames) {f : Filter} {compiled : CompiledFilter}
    (h : f.compile ctx document = .ok compiled) : compiled.Faithful := by
  intro cc hmem
  obtain ⟨c, _, hc⟩ := compile_conditions f h cc hmem
  exact Condition.compile_faithful plain hc

end Filter

end RecordQuery
