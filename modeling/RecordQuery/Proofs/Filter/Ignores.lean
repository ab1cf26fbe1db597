import RecordQuery.Proofs.Filter.Faithful
import RecordQuery.Proofs.Store.EqualBut

/-!
# Queries that leave a field out

What the store reads from the query of a compiled filter looks at the terms of its conditions alone.
This takes no care of the names of fields, except that a term must not begin with the name of a
combination: there the store would read the literal beside it as a list of queries. A term that
spells a word search is refused, since the compiler lets no search through as a literal.
-/

namespace RecordQuery

/-- A native date is a record with one name. -/
theorem Value.eq_of_isDate {v : Value} (h : v.isDate = true) :
    ∃ w, v = .obj [(Value.dateName, w)] := by
  rw [isDate, asDate?.eq_def] at h
  split at h
  · split at h
    · rename_i w hname
      exact ⟨w, by rw [hname]⟩
    · simp at h
  · simp at h

namespace Query

theorem search_of_not_hidesOperators {v : Value} (h : Operand.hidesOperators v = false) :
    (v.get? "$search").bind Value.asStr? = none := by
  cases v with
  | obj fields =>
    cases hsearch : Fields.get? fields "$search" with
    | none => simp [Value.get?, hsearch]
    | some found =>
      rw [Operand.hidesOperators, Bool.and_eq_false_iff] at h
      rcases h with hdate | hnames
      · -- A native date has one name, and it is another one.
        obtain ⟨w, hw⟩ := Value.eq_of_isDate (by simpa [Value.isDate] using hdate)
        obtain rfl := Value.obj.inj hw
        simp [Fields.get?_cons, Value.dateName] at hsearch
      · have := List.any_eq_false.mp hnames _ (Fields.mem_of_get? hsearch)
        exact absurd (isOperatorName_iff.mpr (by simp)) this
  | _ => rfl

theorem readWords_of_noSearch {v : Value} (h : (v.get? "$search").bind Value.asStr? = none) :
    readWords v = .error .textNeedsSearch := by
  rw [readWords, h]

/-- An entry whose name stands for no combination and whose value holds no search is a test of its
name. -/
theorem readClause_ignores {name term : String} {v : Value} {p : Predicate}
    (apart : ∀ other ∈ [name, "$and", "$or"], Path.root term ≠ other)
    (noSearch : (v.get? "$search").bind Value.asStr? = none)
    (h : readClause term v = .ok p) : p.Ignores name := by
  have other : ∀ combination ∈ ["$and", "$or"], term ≠ combination := by
    rintro combination hmem rfl
    refine apart term (List.mem_cons_of_mem _ hmem) (Path.root_of_plain ?_)
    rcases List.mem_cons.mp hmem with rfl | hmem
    · decide
    · rw [List.mem_singleton.mp hmem]
      decide
  rw [readClause, if_neg (other "$and" (by simp)), if_neg (other "$or" (by simp)),
    readWords_of_noSearch noSearch] at h
  by_cases htext : term = "$text"
  · simp [htext] at h
  · rw [if_neg htext] at h
    by_cases hoperator : isOperatorName term = true
    · simp [hoperator] at h
    · rw [if_neg hoperator] at h
      obtain ⟨test, _, rfl⟩ := map_eq_ok_iff.mp h
      exact Predicate.ignores_field (apart name List.mem_cons_self) test

theorem ignores_allClauses {name : String} {clauses : List Predicate}
    (ignores : ∀ p ∈ clauses, p.Ignores name) : (allClauses clauses).Ignores name := by
  intro r s h
  rw [Predicate.holds_allClauses, Predicate.holds_allClauses, Predicate.allHold_congr ignores h]

end Query

namespace Clause

/-- Only a bare literal could hold a search. -/
theorem search_toQuery {clause : Clause}
    (literal : ∀ v, clause = equals v → Operand.hidesOperators v = false) :
    (clause.toQuery.get? "$search").bind Value.asStr? = none := by
  cases clause with
  | equals v => exact Query.search_of_not_hidesOperators (literal v rfl)
  | pattern text p negated => cases negated <;> simp [toQuery, Value.get?, Fields.get?_cons]
  | range low high => cases low <;> cases high <;> simp [toQuery, Value.get?, Fields.get?_cons]
  | _ => simp [toQuery, Value.get?, Fields.get?_cons]

end Clause

namespace CompiledCondition

/-- The condition looks at another field, by its own name or through the store's reader. -/
structure Avoids (c : CompiledCondition) (name : String) : Prop where
  apart : ∀ other ∈ [name, "$and", "$or"], Path.root c.term ≠ other
  literal : ∀ v, c.clause = some (.equals v) → Operand.hidesOperators v = false

/-- The predicate of the condition, as masks use it. -/
theorem ignores_toPredicate {c : CompiledCondition} {name : String}
    (apart : Path.root c.term ≠ name) : c.toPredicate.Ignores name := by
  rw [toPredicate]
  cases c.clause with
  | none => exact fun _ _ _ => rfl
  | some clause => exact Predicate.ignores_field apart _

/-- The predicate that the store reads from the condition's query. -/
theorem ignores_of_read {c : CompiledCondition} {name : String} (h : c.Avoids name) {p : Predicate}
    (hread : Query.read c.toQuery = .ok p) : p.Ignores name := by
  cases hclause : c.clause with
  | none =>
    rw [toQuery, hclause] at hread
    obtain rfl := Except.ok.inj hread
    exact fun _ _ _ => rfl
  | some clause =>
    have noSearch := clause.search_toQuery fun v hv => h.literal v (hv ▸ hclause)
    rw [toQuery_of_clause hclause, Query.read] at hread
    obtain ⟨clauses, hclauses, rfl⟩ := map_eq_ok_iff.mp hread
    rw [Query.readClauses_cons] at hclauses
    obtain ⟨q, hq, hclauses⟩ := bind_eq_ok_iff.mp hclauses
    obtain rfl := Except.ok.inj hclauses
    refine Query.ignores_allClauses fun r hr => ?_
    rw [List.mem_singleton.mp hr]
    refine Query.readClause_ignores h.apart ?_ hq
    split
    · simp [Value.get?, Fields.get?_cons]
    · exact noSearch

end CompiledCondition

namespace CompiledFilter

mutual
/-- A query whose conditions look elsewhere is read as a predicate that looks elsewhere. -/
theorem ignores_of_read {name : String} : ∀ (f : CompiledFilter) {p : Predicate},
    (∀ c ∈ f.conditions, c.Avoids name) → Query.read f.toQuery = .ok p → p.Ignores name
  | always, p, _, hread => by
    obtain rfl := Except.ok.inj hread
    exact fun _ _ _ => rfl
  | condition c, p, h, hread =>
    CompiledCondition.ignores_of_read (h c (by simp [conditions])) hread
  | all parts, p, h, hread => by
    rw [toQuery, Query.read] at hread
    obtain ⟨clauses, hclauses, rfl⟩ := map_eq_ok_iff.mp hread
    rw [Query.readClauses_cons] at hclauses
    obtain ⟨q, hq, hclauses⟩ := bind_eq_ok_iff.mp hclauses
    obtain rfl := Except.ok.inj hclauses
    obtain ⟨ps, hps, rfl⟩ := map_eq_ok_iff.mp hq
    exact Predicate.ignores_all (ignores_of_readEach parts h hps)
  | any parts, p, h, hread => by
    rw [toQuery, Query.read] at hread
    obtain ⟨clauses, hclauses, rfl⟩ := map_eq_ok_iff.mp hread
    rw [Query.readClauses_cons] at hclauses
    obtain ⟨q, hq, hclauses⟩ := bind_eq_ok_iff.mp hclauses
    obtain rfl := Except.ok.inj hclauses
    obtain ⟨ps, hps, rfl⟩ := map_eq_ok_iff.mp hq
    exact Predicate.ignores_any (ignores_of_readEach parts h hps)

theorem ignores_of_readEach {name : String} : ∀ (parts : List CompiledFilter) {ps : List Predicate},
    (∀ c ∈ conditionsOfList parts, c.Avoids name) → Query.readEach (toQueries parts) = .ok ps →
      ∀ p ∈ ps, p.Ignores name
  | [], ps, _, hread, p, hp => by
    obtain rfl := Except.ok.inj hread
    simp at hp
  | part :: rest, ps, h, hread, p, hp => by
    rw [toQueries, Query.readEach] at hread
    obtain ⟨first, hfirst, hread⟩ := bind_eq_ok_iff.mp hread
    obtain ⟨others, hothers, hread⟩ := bind_eq_ok_iff.mp hread
    obtain rfl := Except.ok.inj hread
    rcases List.mem_cons.mp hp with rfl | hp
    · exact ignores_of_read part (fun c hc => h c (by simp [conditionsOfList, hc])) hfirst
    · exact ignores_of_readEach rest (fun c hc => h c (by simp [conditionsOfList, hc])) hothers p hp
end

end CompiledFilter

namespace Term

theorem root_normalize (term : String) : Path.root (normalize term) = Path.root term := by
  rw [normalize, Path.ofText_eq]
  exact Path.root_text (Path.root_plain term) _

end Term

namespace Condition

/-- The compiler has looked through every literal that an equality compares with. -/
theorem literal_of_clause {ctx : FilterContext} {operator : Operator} {term : String}
    {resolved : ResolvedTerm} {raw v : Value}
    (h : clause ctx operator term resolved raw = .ok (some (.equals v))) :
    Operand.hidesOperators v = false := by
  have literal : ∀ {make : Value → Clause}, operator.literal? = some make →
      ∃ w, make w = .equals v ∧ Operand.hidesOperators w = false := by
    intro make hmake
    rw [clause_of_literal hmake] at h
    obtain ⟨w, hw, hmade⟩ := map_eq_ok_iff.mp h
    exact ⟨w, Option.some.inj hmade, Operand.hidesOperators_of_literal hw⟩
  have text : ∀ w, textClause term operator w ≠ .ok (.equals v) := by
    intro w hmade
    cases w with
    | str _ | num _ =>
      simp only [textClause, bind, Except.bind] at hmade
      split at hmade <;> simp at hmade
    | _ => simp [textClause, bind, Except.bind] at hmade
  cases operator with
  | currentUser =>
    obtain rfl := Clause.equals.inj (Option.some.inj (Except.ok.inj h))
    rfl
  | currentUserGroup =>
    obtain rfl := Clause.equals.inj (Option.some.inj (Except.ok.inj h))
    cases ctx.user.group <;> rfl
  | notCurrentUser | notCurrentUserGroup | currentUserGroups => cases h
  | isPresent =>
    obtain ⟨_, _, h⟩ := bind_eq_ok_iff.mp h
    cases h
  | between =>
    rw [clause, rangeClause.eq_def] at h
    split at h
    · obtain ⟨_, _, h⟩ := bind_eq_ok_iff.mp h
      obtain ⟨_, _, h⟩ := bind_eq_ok_iff.mp h
      have h := Except.ok.inj h
      split at h <;> cases h
    · cases h
  | contains | notContains | startsWith | endsWith =>
    obtain ⟨w, _, h⟩ := bind_eq_ok_iff.mp h
    obtain ⟨made, hmade, h⟩ := bind_eq_ok_iff.mp h
    obtain rfl := Option.some.inj (Except.ok.inj h)
    exact absurd hmade (text w)
  | equals =>
    obtain ⟨w, hmade, hplain⟩ := literal rfl
    exact Clause.equals.inj hmade ▸ hplain
  | _ =>
    obtain ⟨_, hmade, _⟩ := literal rfl
    cases hmade

/-- A compiled condition looks elsewhere if its term begins elsewhere. -/
theorem compile_avoids {ctx : FilterContext} {document : DocumentType} {c : Condition}
    {cc : CompiledCondition} (h : c.compile ctx document = .ok cc) {name : String}
    (apart : ∀ other ∈ [name, "$and", "$or"], Path.root c.term ≠ other) : cc.Avoids name := by
  obtain ⟨operator, raw, resolved, made, _, _, _, _, hclause, rfl⟩ := compile_eq_ok h
  refine ⟨fun other hother => ?_, fun v hv => ?_⟩
  · rw [invert_term, Term.root_normalize]
    exact apart other hother
  · -- An equality is left of an equality that is not inverted.
    unfold invert at hv
    split at hv
    · split at hv
      · cases hv
      · cases hv
        exact literal_of_clause hclause
    · rename_i hne
      exact absurd hv (hne v)

end Condition

end RecordQuery
