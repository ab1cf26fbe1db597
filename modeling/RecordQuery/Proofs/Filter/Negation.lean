import RecordQuery.Proofs.Filter.Agreement
import RecordQuery.Proofs.Filter.Existential
import RecordQuery.Proofs.Filter.Operand

/-!
# Negation is complement

An inverted equality is written as an inequality and any other inverted clause as a negation; an
operator and its opposite make two different clauses. Either way the two conditions give opposite
answers of every record, whatever their term reaches in it.
-/

namespace RecordQuery

namespace Operator

/-- Operators and what each of them denies. -/
def opposites : List (Operator × Operator) :=
  [(equals, notEquals), (isIn, isNotIn), (contains, notContains), (currentUser, notCurrentUser),
    (currentUserGroup, notCurrentUserGroup)]

end Operator

namespace Clause

/-- One test passes exactly where the other does not. -/
def Opposes (a b : Clause) : Prop := ∀ found, b.toTest.holds found = !a.toTest.holds found

theorem opposes_equals (v : Value) : (equals v).Opposes (differs v) := fun _ => rfl

theorem opposes_isOneOf (vs : List Value) : (isOneOf vs).Opposes (isNoneOf vs) := fun _ => rfl

theorem opposes_pattern (text : String) (p : Pattern) :
    (pattern text p false).Opposes (pattern text p true) := by
  intro found
  simp [toTest, FieldTest.holds]

end Clause

namespace CompiledCondition

/-- What an inverted condition says of the values reached, and what it says as it stands. -/
theorem test_invert (term : String) (inverted : Bool) (clause : Clause) (found : List Value) :
    (Condition.invert term inverted (some clause)).test found
      = (inverted ^^ clause.toTest.holds found) := by
  cases clause with
  | equals v => cases inverted <;> simp [Condition.invert, test, Clause.toTest, FieldTest.holds]
  | _ => cases inverted <;> simp [Condition.invert, test]

/-- One condition holds of a record exactly where the other does not: as predicates, and as the
store reads their queries. -/
structure Opposes (a b : CompiledCondition) : Prop where
  predicates : ∀ r, b.toPredicate.holds r = !a.toPredicate.holds r
  queries : ∃ p q, Query.read a.toQuery = .ok p ∧ Query.read b.toQuery = .ok q ∧
    ∀ r, q.holds r = !p.holds r

/-- The store reads the query of a condition as its predicate. -/
theorem read_toQuery {c : CompiledCondition} (h : c.Faithful) :
    ∃ read, Query.read c.toQuery = .ok read ∧ ∀ r, read.holds r = c.toPredicate.holds r := by
  obtain ⟨_, _, hread⟩ := CompiledFilter.ReadAs.ofCondition h
  obtain ⟨read, hok, hagrees⟩ := hread.read_toQuery
  exact ⟨read, hok, hagrees.holds⟩

/-- Two conditions on one term whose tests are opposite. -/
theorem opposes_of_test {a b : CompiledCondition} (ha : a.Faithful) (hb : b.Faithful)
    (hterm : a.term = b.term) (htest : ∀ found, b.test found = !a.test found) : a.Opposes b := by
  have hpredicates : ∀ r, b.toPredicate.holds r = !a.toPredicate.holds r := by
    intro r
    rw [holds_toPredicate, holds_toPredicate, htest, hterm]
  obtain ⟨p, hp, hpholds⟩ := read_toQuery ha
  obtain ⟨q, hq, hqholds⟩ := read_toQuery hb
  refine ⟨hpredicates, p, q, hp, hq, fun r => ?_⟩
  rw [hpholds, hqholds, hpredicates]

end CompiledCondition

namespace Condition

variable {ctx : FilterContext} {document : DocumentType}

/-- A range without bounds, which asks nothing. -/
def Unbounded (c : Condition) : Prop :=
  Operator.ofName? c.operator = some .between ∧
    ∀ bounds, c.value = some (.obj bounds) →
      Operand.given? bounds "greater_or_equals" = none ∧
        Operand.given? bounds "less_or_equals" = none

/-- Only a range without bounds has no clause. -/
theorem unbounded_of_clause {c : Condition} {operator : Operator} {term : String}
    {resolved : ResolvedTerm} {raw : Value}
    (hoperator : Operator.ofName? c.operator = some operator) (hraw : c.value = some raw)
    (h : clause ctx operator term resolved raw = .ok none) : c.Unbounded := by
  cases operator with
  | between =>
    refine ⟨hoperator, fun bounds hbounds => ?_⟩
    obtain rfl : raw = .obj bounds := Option.some.inj (hraw.symm.trans hbounds)
    obtain ⟨low, hlow, h⟩ := bind_eq_ok_iff.mp h
    obtain ⟨high, hhigh, h⟩ := bind_eq_ok_iff.mp h
    cases low with
    | some v => cases h
    | none =>
      cases high with
      | some v => cases h
      | none => exact ⟨Operand.given?_of_bound hlow, Operand.given?_of_bound hhigh⟩
  | currentUser | notCurrentUser | currentUserGroup | notCurrentUserGroup | currentUserGroups =>
    cases h
  | isPresent =>
    obtain ⟨v, _, h⟩ := bind_eq_ok_iff.mp h
    cases h
  | contains | notContains | startsWith | endsWith =>
    obtain ⟨v, _, h⟩ := bind_eq_ok_iff.mp h
    obtain ⟨made, _, h⟩ := bind_eq_ok_iff.mp h
    cases h
  | _ =>
    rw [clause_of_literal rfl] at h
    obtain ⟨v, _, h⟩ := map_eq_ok_iff.mp h
    cases h

/-- Two clauses that oppose each other. -/
def ClausesOppose (made other : Option Clause) : Prop :=
  ∃ a b, made = some a ∧ other = some b ∧ a.Opposes b

/-- A pattern is refused or taken alike, and an operator and its opposite search for the same. -/
theorem textClause_opposes (term : String) (v : Value) :
    SameOutcome Clause.Opposes (textClause term .contains v) (textClause term .notContains v) := by
  have found : ∀ text, SameOutcome Clause.Opposes (textClause term .contains (.str text))
      (textClause term .notContains (.str text)) := by
    intro text
    simp only [textClause, bind, Except.bind]
    cases Pattern.read? ⟨true, false, false⟩ (Pattern.accentText text) with
    | none => exact .failed _
    | some p => exact .succeeded (Clause.opposes_pattern _ p)
  cases v with
  | str text => exact found text
  | num n => exact found n.text
  | _ => exact .failed _

/-- An operator and its opposite refuse the same values, and make opposite clauses of the others. -/
theorem clause_opposes {pair : Operator × Operator} (hpair : pair ∈ Operator.opposites)
    (term : String) (resolved : ResolvedTerm) (raw : Value) :
    SameOutcome ClausesOppose (clause ctx pair.1 term resolved raw)
      (clause ctx pair.2 term resolved raw) := by
  have literal : ∀ {a b : Operator} {make other : Value → Clause}, a.literal? = some make →
      b.literal? = some other → (∀ v, (make v).Opposes (other v)) →
      SameOutcome ClausesOppose (clause ctx a term resolved raw)
        (clause ctx b term resolved raw) := by
    intro a b make other ha hb hopposes
    rw [clause_of_literal ha, clause_of_literal hb]
    exact .map_same _ fun v _ => ⟨_, _, rfl, rfl, hopposes v⟩
  simp only [Operator.opposites, List.mem_cons, List.not_mem_nil, or_false] at hpair
  rcases hpair with rfl | rfl | rfl | rfl | rfl
  · exact literal rfl rfl Clause.opposes_equals
  · exact literal rfl rfl fun v => Clause.opposes_isOneOf (Operand.asList v)
  · rw [clause, clause,
      Operand.resolve_congr (a := .contains) (b := .notContains) (by simp) (by simp)]
    refine .after _ fun v _ => ?_
    exact (textClause_opposes term v).bind fun a b h => .succeeded ⟨a, b, rfl, rfl, h⟩
  · exact .succeeded ⟨_, _, rfl, rfl, Clause.opposes_equals _⟩
  · exact .succeeded ⟨_, _, rfl, rfl, Clause.opposes_equals _⟩

/-- The same term and value under two operators that oppose each other. -/
theorem compile_opposes {pair : Operator × Operator} (hpair : pair ∈ Operator.opposites)
    {c : Condition} (first : Allows ctx document c.term pair.1)
    (second : Allows ctx document c.term pair.2) :
    SameOutcome (fun a b => a.term = b.term ∧ ∀ found, b.test found = !a.test found)
      ({ c with operator := pair.1.name }.compile ctx document)
      ({ c with operator := pair.2.name }.compile ctx document) := by
  obtain ⟨resolved, leads, admits⟩ := first
  obtain ⟨other, leads', admits'⟩ := second
  obtain rfl := leads.unique leads'
  obtain ⟨term, name, value, disabled, inverted⟩ := c
  cases value with
  | none =>
    have refused : ∀ operator, compile ctx document ⟨term, operator, none, disabled, inverted⟩
        = .error .incompleteCondition := by
      intro operator
      simp [compile]
    rw [refused, refused]
    exact .failed _
  | some raw =>
    have made : ∀ {operator}, resolved.Admits operator →
        compile ctx document ⟨term, operator.name, some raw, disabled, inverted⟩
          = (clause ctx operator (Term.normalize term) resolved raw).map
              (invert (Term.normalize term) inverted) := by
      intro operator admits
      exact compile_eq_map leads admits (Operator.ofName?_name operator) rfl
    rw [made admits, made admits']
    refine (clause_opposes hpair _ resolved raw).map ?_
    rintro _ _ ⟨a, b, rfl, rfl, hopposes⟩
    refine ⟨by simp, fun found => ?_⟩
    rw [CompiledCondition.test_invert, CompiledCondition.test_invert, hopposes found, Bool.xor_not]

/-- A condition with a clause, and the same condition inverted. -/
theorem compile_inverts {c : Condition} {compiled : CompiledCondition}
    (h : c.compile ctx document = .ok compiled) (bounded : ¬ c.Unbounded) :
    ∃ inverted, { c with inverted := !c.inverted }.compile ctx document = .ok inverted ∧
      compiled.term = inverted.term ∧ ∀ found, inverted.test found = !compiled.test found := by
  obtain ⟨operator, raw, resolved, made, hoperator, hraw, leads, admits, hmade, rfl⟩ :=
    leads_of_compile h
  cases made with
  | none => exact absurd (unbounded_of_clause hoperator hraw hmade) bounded
  | some clause =>
    refine ⟨invert (Term.normalize c.term) (!c.inverted) (some clause), ?_, by simp,
      fun found => ?_⟩
    · rw [compile_eq_map (c := { c with inverted := !c.inverted }) leads admits hoperator hraw,
        hmade]
      rfl
    · rw [CompiledCondition.test_invert, CompiledCondition.test_invert, Bool.not_xor]

/-- A condition that compiles and asks something compiles also when it is inverted, and the two give
opposite answers. So do an operator and its opposite with one term and value, if the term admits
both, or they fail with the same error. -/
theorem compile_complements (plain : document.PlainNames) (c : Condition) :
    (∀ compiled, c.compile ctx document = .ok compiled → ¬ c.Unbounded →
      ∃ inverted, { c with inverted := !c.inverted }.compile ctx document = .ok inverted ∧
        compiled.Opposes inverted) ∧
    ∀ pair ∈ Operator.opposites, Allows ctx document c.term pair.1 →
      Allows ctx document c.term pair.2 →
        SameOutcome CompiledCondition.Opposes
          ({ c with operator := pair.1.name }.compile ctx document)
          ({ c with operator := pair.2.name }.compile ctx document) := by
  refine ⟨?_, ?_⟩
  · intro compiled h bounded
    obtain ⟨inverted, hinverted, hterm, htest⟩ := compile_inverts h bounded
    have faithful := compile_faithful plain h
    have faithful' := compile_faithful plain hinverted
    exact ⟨inverted, hinverted,
      CompiledCondition.opposes_of_test faithful faithful' hterm htest⟩
  · intro pair hpair first second
    refine (compile_opposes hpair first second).imp ?_
    rintro a b ha hb ⟨hterm, htest⟩
    have faithful := compile_faithful plain ha
    have faithful' := compile_faithful plain hb
    exact CompiledCondition.opposes_of_test faithful faithful' hterm htest

end Condition

namespace Deals

def late : Condition := Condition.new "notes" "in" (.arr [.str "late"])

def notLate : Condition := Condition.new "notes" "not_in" (.arr [.str "late"])

end Deals

namespace Condition

open Deals (late notLate)

theorem compile_complements_lateDeals :
    Deals.document.PlainNames ∧
    (∃ compiled inverted, late.compile Deals.context Deals.document = .ok compiled ∧
      { late with inverted := true }.compile Deals.context Deals.document = .ok inverted ∧
      compiled.Opposes inverted) ∧
    ∃ compiled opposite, late.compile Deals.context Deals.document = .ok compiled ∧
      notLate.compile Deals.context Deals.document = .ok opposite ∧
      compiled.Opposes opposite := by
  obtain ⟨hinverts, hopposes⟩ := @compile_complements Deals.context _ Deals.plainNames late
  have hcompiled : late.compile Deals.context Deals.document
      = .ok ⟨"notes", some (.isOneOf [.str "late"]), false⟩ := rfl
  have hopposite : notLate.compile Deals.context Deals.document
      = .ok ⟨"notes", some (.isNoneOf [.str "late"]), false⟩ := rfl
  obtain ⟨inverted, hinverted, h⟩ := hinverts _ hcompiled fun h => absurd h.1 (by decide)
  refine ⟨Deals.plainNames, ⟨_, inverted, hcompiled, hinverted, h⟩, _, _, hcompiled, hopposite, ?_⟩
  have allows : ∀ operator ∈ [Operator.isIn, .isNotIn],
      Allows Deals.context Deals.document late.term operator := by
    intro operator hoperator
    exact ⟨⟨"text", []⟩, ⟨rfl, rfl⟩, _, rfl, by revert operator; decide⟩
  have hsame : SameOutcome CompiledCondition.Opposes
      (late.compile Deals.context Deals.document) (notLate.compile Deals.context Deals.document) :=
    hopposes (.isIn, .isNotIn) (by decide) (allows _ (by simp)) (allows _ (by simp))
  rw [hcompiled, hopposite] at hsame
  cases hsame with
  | succeeded h => exact h

end Condition

end RecordQuery
