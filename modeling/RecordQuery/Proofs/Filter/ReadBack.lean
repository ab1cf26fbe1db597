import RecordQuery.Proofs.Filter.Compile
import RecordQuery.Store.Query

/-!
# Queries read back

A compiled filter is written as a query and as a predicate. The store reads the query with a reader
of its own; the predicate it gets agrees with the compiled one, test by test: it compares with the
same values in the same order, and it holds of the same records.
-/

namespace RecordQuery

namespace FieldTest

mutual
/-- The values that a test compares with, in order. -/
def operands : FieldTest → List Value
  | equals v | differs v | greater v | atLeast v | less v | atMost v => [v]
  | isOneOf vs | isNoneOf vs => vs
  | present _ | matchesPattern _ => []
  | negation test => operands test
  | all tests => operandsOfList tests

def operandsOfList : List FieldTest → List Value
  | [] => []
  | test :: rest => operands test ++ operandsOfList rest
end

/-- Two tests of the same values with the same outcome. -/
structure Agrees (a b : FieldTest) : Prop where
  operands : a.operands = b.operands
  holds : ∀ found, a.holds found = b.holds found

theorem Agrees.refl (a : FieldTest) : a.Agrees a := ⟨rfl, fun _ => rfl⟩

theorem Agrees.negation {a b : FieldTest} (h : a.Agrees b) :
    (FieldTest.negation a).Agrees (FieldTest.negation b) :=
  ⟨by simpa [FieldTest.operands] using h.operands, fun found => by simp [FieldTest.holds, h.holds]⟩

end FieldTest

namespace Predicate

mutual
/-- The values that a predicate compares with, in order. -/
def operands : Predicate → List Value
  | field _ test => test.operands
  | all parts => operandsOfList parts
  | any parts => operandsOfList parts
  | always => []
  | words _ => []

def operandsOfList : List Predicate → List Value
  | [] => []
  | p :: rest => operands p ++ operandsOfList rest
end

/-- Two predicates of the same values that hold of the same records. -/
structure Agrees (a b : Predicate) : Prop where
  operands : a.operands = b.operands
  holds : ∀ r, a.holds r = b.holds r

theorem Agrees.refl (a : Predicate) : a.Agrees a := ⟨rfl, fun _ => rfl⟩

theorem Agrees.field (path : String) {a b : FieldTest} (h : a.Agrees b) :
    (Predicate.field path a).Agrees (Predicate.field path b) :=
  ⟨by simpa [Predicate.operands] using h.operands, fun r => by simp [Predicate.holds, h.holds]⟩

theorem operandsOfList_append (a b : List Predicate) :
    operandsOfList (a ++ b) = operandsOfList a ++ operandsOfList b := by
  induction a with
  | nil => rfl
  | cons p rest ih => simp [operandsOfList, ih]

theorem allHold_append (a b : List Predicate) (r : Record) :
    allHold (a ++ b) r = (allHold a r && allHold b r) := by
  induction a with
  | nil => rfl
  | cons p rest ih => simp [allHold, ih, Bool.and_assoc]

/-- Lists of predicates that agree one by one. -/
structure ListAgrees (as bs : List Predicate) : Prop where
  operands : operandsOfList as = operandsOfList bs
  allHold : ∀ r, allHold as r = allHold bs r
  anyHolds : ∀ r, anyHolds as r = anyHolds bs r

theorem ListAgrees.nil : ListAgrees [] [] := ⟨rfl, fun _ => rfl, fun _ => rfl⟩

theorem Agrees.cons {a b : Predicate} {as bs : List Predicate} (h : a.Agrees b)
    (hs : ListAgrees as bs) : ListAgrees (a :: as) (b :: bs) where
  operands := by simp [operandsOfList, h.operands, hs.operands]
  allHold r := by simp [Predicate.allHold, h.holds, hs.allHold]
  anyHolds r := by simp [Predicate.anyHolds, h.holds, hs.anyHolds]

theorem ListAgrees.all {as bs : List Predicate} (h : ListAgrees as bs) :
    (Predicate.all as).Agrees (Predicate.all bs) :=
  ⟨by simpa [Predicate.operands] using h.operands,
    fun r => by simp [Predicate.holds, h.allHold]⟩

theorem ListAgrees.any {as bs : List Predicate} (h : ListAgrees as bs) :
    (Predicate.any as).Agrees (Predicate.any bs) :=
  ⟨by simpa [Predicate.operands] using h.operands,
    fun r => by simp [Predicate.holds, h.anyHolds]⟩

/-- Clauses stand for their conjunction, however many there are. -/
theorem operands_allClauses (clauses : List Predicate) :
    (Query.allClauses clauses).operands = operandsOfList clauses := by
  match clauses with
  | [] => rfl
  | [p] => simp [Query.allClauses, operandsOfList]
  | first :: second :: rest => simp [Query.allClauses, operands]

theorem holds_allClauses (clauses : List Predicate) (r : Record) :
    (Query.allClauses clauses).holds r = allHold clauses r := by
  match clauses with
  | [] => rfl
  | [p] => simp [Query.allClauses, allHold]
  | first :: second :: rest => simp [Query.allClauses, holds]

end Predicate

namespace Query

theorem isOperatorName_iff {name : String} :
    isOperatorName name = true ↔ name.toList.head? = some '$' := by
  rw [isOperatorName, String.startsWith_string_iff, show "$".toList = ['$'] from rfl]
  cases name.toList with
  | nil => simp
  | cons c rest => simp [eq_comm]

/-- What the compiler lets through as a literal is a plain one, a date, or an empty record. -/
theorem isOperators_of_not_hidesOperators {v : Value} (h : Operand.hidesOperators v = false) :
    isOperators v = false := by
  cases v with
  | obj fields =>
    rw [Operand.hidesOperators, Bool.and_eq_false_iff] at h
    rw [isOperators]
    rcases h with h | h
    · have : (Value.obj fields).isDate = true := by simpa [Value.isDate] using h
      simp [this]
    · cases fields with
      | nil => simp
      | cons entry rest =>
        rw [List.any_cons, Bool.or_eq_false_iff] at h
        simp [isOperatorName, h.1]
  | _ => rfl

theorem asDate?_single {name : String} (h : name ≠ Value.dateName) (v : Value) :
    Value.asDate? (.obj [(name, v)]) = none := by
  simp [Value.asDate?, h]

theorem isOperators_single (name : String) (v : Value) (hname : name.toList.head? = some '$')
    (hdate : name ≠ Value.dateName) : isOperators (.obj [(name, v)]) = true := by
  simp [isOperators, Value.isDate, asDate?_single hdate, isOperatorName_iff.mpr hname]

theorem isOperators_pair (first second : String) (v w : Value)
    (hfirst : first.toList.head? = some '$') (hsecond : second.toList.head? = some '$') :
    isOperators (.obj [(first, v), (second, w)]) = true := by
  simp [isOperators, Value.isDate, Value.asDate?, isOperatorName_iff.mpr hfirst,
    isOperatorName_iff.mpr hsecond]

theorem readField_of_plain {v : Value} (h : isOperators v = false) :
    readField v = .ok (.equals v) := by
  cases v <;> simp [readField, h]

theorem readField_of_operators {fields : List (String × Value)}
    (h : isOperators (.obj fields) = true) :
    readField (.obj fields)
      = (readOperators (Fields.get? fields "$options") fields).map conjunction := by
  rw [readField, if_pos h]
  cases readOperators (Fields.get? fields "$options") fields <;> rfl

theorem readNegation_of_operators {v : Value} (h : isOperators v = true) :
    readNegation v = (readField v).map .negation := by
  cases v with
  | obj fields =>
    rw [readNegation, if_pos h, readField_of_operators h]
    cases readOperators (Fields.get? fields "$options") fields <;> rfl
  | _ => simp [isOperators] at h

/-- An operator alone in its document. -/
theorem readField_single (name : String) (v : Value) (test : FieldTest)
    (hname : name.toList.head? = some '$') (hdate : name ≠ Value.dateName) (hnot : name ≠ "$not")
    (h : readOperator (Fields.get? [(name, v)] "$options") name v = .ok [test]) :
    readField (.obj [(name, v)]) = .ok test := by
  rw [readField_of_operators (isOperators_single name v hname hdate)]
  simp [readOperators, hnot, h, conjunction, bind, Except.bind, Except.map, pure, Except.pure]

theorem readField_negated {v : Value} {test : FieldTest} (hv : isOperators v = true)
    (h : readField v = .ok test) :
    readField (.obj [("$not", v)]) = .ok (.negation test) := by
  rw [readField_of_operators (isOperators_single "$not" v (by decide) (by decide))]
  simp [readOperators, readNegation_of_operators hv, h, conjunction, bind, Except.bind, Except.map,
    pure, Except.pure]

/-- What a single entry of a query asks. -/
def readClause (name : String) (v : Value) : Except StoreError Predicate :=
  if name = "$and" then (readParts name v).map Predicate.all
  else if name = "$or" then (readParts name v).map Predicate.any
  else if name = "$text" then readWords v
  else if isOperatorName name then .error (.unknownOperator name)
  else (readField v).map (Predicate.field name)

theorem readClauses_cons (name : String) (v : Value) (rest : List (String × Value)) :
    readClauses ((name, v) :: rest)
      = readClause name v >>= fun clause => (readClauses rest).map (clause :: ·) := by
  rw [readClauses, readClause]
  split
  · cases readParts name v <;> cases readClauses rest <;> rfl
  · split
    · cases readParts name v <;> cases readClauses rest <;> rfl
    · split
      · cases readWords v <;> cases readClauses rest <;> rfl
      · split
        · rfl
        · cases readField v <;> cases readClauses rest <;> rfl

theorem readClauses_append {fields more : List (String × Value)} {a b : List Predicate}
    (hfields : readClauses fields = .ok a) (hmore : readClauses more = .ok b) :
    readClauses (fields ++ more) = .ok (a ++ b) := by
  induction fields generalizing a with
  | nil =>
    obtain rfl := Except.ok.inj hfields
    exact hmore
  | cons entry rest ih =>
    obtain ⟨name, v⟩ := entry
    rw [readClauses_cons] at hfields
    obtain ⟨clause, hclause, hfields⟩ := bind_eq_ok_iff.mp hfields
    obtain ⟨others, hothers, rfl⟩ := map_eq_ok_iff.mp hfields
    rw [List.cons_append, readClauses_cons, hclause, ih hothers]
    rfl

theorem readClauses_search (search : String) :
    readClauses [("$text", .obj [("$search", .str search)])] = .ok [.words search] := by
  have : readWords (.obj [("$search", .str search)]) = .ok (.words search) := by
    simp [readWords, Value.get?, Fields.get?_cons, Value.asStr?]
  simp [readClauses, this, bind, Except.bind, pure, Except.pure]

/-- A term that looks like an operator is taken for one, and there is no such operator, unless lists
of queries or a search stand beside it. -/
theorem read_of_operatorName {name : String} {v : Value} (h : isOperatorName name = true)
    (noList : v.asList? = none) (noSearch : v.get? "$search" = none) (read : Predicate) :
    Query.read (.obj [(name, v)]) ≠ .ok read := by
  have hparts : ∀ parts, readParts name v ≠ .ok parts := by
    intro parts
    cases v with
    | arr items => cases noList
    | _ => simp [readParts]
  have hclause : ∀ clause, readClause name v ≠ .ok clause := by
    intro clause
    simp only [readClause, h, ↓reduceIte]
    split
    · intro hand
      obtain ⟨parts, hread, _⟩ := map_eq_ok_iff.mp hand
      exact hparts parts hread
    · split
      · intro hor
        obtain ⟨parts, hread, _⟩ := map_eq_ok_iff.mp hor
        exact hparts parts hread
      · split
        · simp [readWords, noSearch]
        · simp
  intro hread
  rw [Query.read] at hread
  obtain ⟨clauses, hclauses, _⟩ := map_eq_ok_iff.mp hread
  rw [readClauses_cons] at hclauses
  obtain ⟨clause, hfirst, _⟩ := bind_eq_ok_iff.mp hclauses
  exact hclause clause hfirst

end Query

namespace Clause

/-- What the reader of queries relies on: a literal that stands alone is no document of operators,
a pattern is the one its text spells, and a range has a bound. -/
def Faithful : Clause → Prop
  | equals v => Query.isOperators v = false
  | pattern text p _ => Pattern.read? ⟨true, false, false⟩ text = some p
  | range low high => low.isSome = true ∨ high.isSome = true
  | _ => True

theorem isOperators_pattern (text : String) :
    Query.isOperators (.obj [("$regex", .str text), ("$options", .str "i")]) = true :=
  Query.isOperators_pair "$regex" "$options" _ _ (by decide) (by decide)

/-- Every clause but an equality is written as a document of operators. -/
theorem isOperators_toQuery {clause : Clause} (h : clause.Faithful)
    (hne : ∀ v, clause ≠ equals v) : Query.isOperators clause.toQuery = true := by
  cases clause with
  | equals v => exact absurd rfl (hne v)
  | pattern text p negated =>
    cases negated with
    | true => exact Query.isOperators_single "$not" _ (by decide) (by decide)
    | false => exact isOperators_pattern text
  | range low high =>
    cases low with
    | none =>
      cases high with
      | none => simp [Faithful] at h
      | some v => exact Query.isOperators_single "$lte" v (by decide) (by decide)
    | some v =>
      cases high with
      | none => exact Query.isOperators_single "$gte" v (by decide) (by decide)
      | some w => exact Query.isOperators_pair "$gte" "$lte" v w (by decide) (by decide)
  | _ => exact Query.isOperators_single _ _ (by decide) (by decide)

theorem readField_pattern {text : String} {p : Pattern}
    (h : Pattern.read? ⟨true, false, false⟩ text = some p) :
    Query.readField (.obj [("$regex", .str text), ("$options", .str "i")])
      = .ok (.matchesPattern p) := by
  have hflags : Query.patternFlags (some (.str "i")) = ⟨true, false, false⟩ := by decide
  have hoptions : Fields.get? [("$regex", Value.str text), ("$options", .str "i")] "$options"
      = some (.str "i") := by simp [Fields.get?_cons]
  rw [Query.readField_of_operators (isOperators_pattern text), hoptions]
  simp [Query.readOperators, Query.readOperator, Query.patternTest, hflags, h, Query.conjunction,
    bind, Except.bind, Except.map, pure, Except.pure]

/-- A range with one bound is read as that bound alone. -/
theorem readField_range {low high : Option Value} (h : (range low high).Faithful) :
    ∃ test, Query.readField (range low high).toQuery = .ok test ∧
      test.Agrees (range low high).toTest := by
  cases low with
  | none =>
    cases high with
    | none => simp [Faithful] at h
    | some v =>
      refine ⟨.atMost v,
        Query.readField_single "$lte" v _ (by decide) (by decide) (by decide) rfl, ?_⟩
      constructor
      · simp [toTest, FieldTest.operands, FieldTest.operandsOfList]
      · simp [toTest, FieldTest.holds, FieldTest.holdAll]
  | some v =>
    cases high with
    | none =>
      refine ⟨.atLeast v,
        Query.readField_single "$gte" v _ (by decide) (by decide) (by decide) rfl, ?_⟩
      constructor
      · simp [toTest, FieldTest.operands, FieldTest.operandsOfList]
      · simp [toTest, FieldTest.holds, FieldTest.holdAll]
    | some w =>
      refine ⟨.all [.atLeast v, .atMost w], ?_, .refl _⟩
      exact Query.readField_of_operators
        (Query.isOperators_pair "$gte" "$lte" v w (by decide) (by decide))

/-- The store reads each clause back as the test it stands for. -/
theorem readField_toQuery {clause : Clause} (h : clause.Faithful) :
    ∃ test, Query.readField clause.toQuery = .ok test ∧ test.Agrees clause.toTest := by
  cases clause with
  | equals v => exact ⟨_, Query.readField_of_plain h, .refl _⟩
  | pattern text p negated =>
    cases negated with
    | true =>
      exact ⟨_, Query.readField_negated (isOperators_pattern text) (readField_pattern h), .refl _⟩
    | false => exact ⟨_, readField_pattern h, .refl _⟩
  | range low high => exact readField_range h
  | _ =>
    exact ⟨_, Query.readField_single _ _ _ (by decide) (by decide) (by decide) rfl, .refl _⟩

end Clause

namespace CompiledCondition

/-- What the reader of queries relies on: the term names a field, and a negation stands before a
document of operators. -/
structure Faithful (c : CompiledCondition) : Prop where
  term : Query.isOperatorName c.term = false
  clause : ∀ clause, c.clause = some clause → clause.Faithful
  negated : c.negated = true → ∀ v, c.clause ≠ some (.equals v)

/-- A condition that asks something is a single entry of a query. -/
theorem toQuery_of_clause {c : CompiledCondition} {clause : Clause} (h : c.clause = some clause) :
    c.toQuery
      = .obj [(c.term, if c.negated then .obj [("$not", clause.toQuery)] else clause.toQuery)] := by
  simp [toQuery, h]

theorem readField_expression {c : CompiledCondition} (h : c.Faithful) {clause : Clause}
    (hclause : c.clause = some clause) :
    ∃ test,
      Query.readField (if c.negated then .obj [("$not", clause.toQuery)] else clause.toQuery)
        = .ok test ∧
      test.Agrees (if c.negated then .negation clause.toTest else clause.toTest) := by
  have hfaithful := h.clause clause hclause
  obtain ⟨test, hread, hagrees⟩ := Clause.readField_toQuery hfaithful
  cases hneg : c.negated with
  | false => exact ⟨test, by simpa using hread, by simpa using hagrees⟩
  | true =>
    have hne : ∀ v, clause ≠ .equals v := fun v e => h.negated hneg v (e ▸ hclause)
    refine ⟨.negation test, ?_, by simpa using hagrees.negation⟩
    simpa using Query.readField_negated (Clause.isOperators_toQuery hfaithful hne) hread

end CompiledCondition

namespace CompiledFilter

/-- Every condition of the filter is one that can be read back. -/
def Faithful (f : CompiledFilter) : Prop := ∀ c ∈ f.conditions, c.Faithful

/-- The clauses that the store reads from the query of a filter. A query holds no search of its
own, so one can be added beside its clauses. -/
structure ReadAs (f : CompiledFilter) (fields : List (String × Value)) (clauses : List Predicate) :
    Prop where
  query : f.toQuery = .obj fields
  noSearch : Fields.get? fields "$text" = none
  read : Query.readClauses fields = .ok clauses
  agrees : (Query.allClauses clauses).Agrees f.toPredicate

theorem ReadAs.always : ReadAs .always [] [] where
  query := rfl
  noSearch := rfl
  read := rfl
  agrees := .refl _

/-- A query that is one combination of queries. -/
theorem ReadAs.combination {f : CompiledFilter} {name : String} {parts : List Value}
    {make : List Predicate → Predicate} {read ps : List Predicate}
    (query : f.toQuery = .obj [(name, .arr parts)]) (hname : name ≠ "$text")
    (hread : Query.readClauses [(name, .arr parts)] = .ok [make read])
    (predicate : f.toPredicate = make ps) (h : (make read).Agrees (make ps)) :
    ReadAs f [(name, .arr parts)] [make read] where
  query := query
  noSearch := by simp [Fields.get?_cons, hname]
  read := hread
  agrees := by simpa only [predicate, Query.allClauses] using h

theorem ReadAs.ofCondition {c : CompiledCondition} (h : c.Faithful) :
    ∃ fields clauses, ReadAs (.condition c) fields clauses := by
  cases hclause : c.clause with
  | none =>
    refine ⟨[], [], ?_, rfl, rfl, ?_⟩
    · simp [toQuery, CompiledCondition.toQuery, hclause]
    · simpa only [toPredicate, CompiledCondition.toPredicate, hclause, Query.allClauses]
        using Predicate.Agrees.refl .always
  | some clause =>
    obtain ⟨test, hread, hagrees⟩ := CompiledCondition.readField_expression h hclause
    have hroot : ∀ name : String, name.toList.head? = some '$' → c.term ≠ name := by
      intro name hname hterm
      have := Query.isOperatorName_iff.mpr (hterm ▸ hname)
      simp [h.term] at this
    refine ⟨_, [.field c.term test], CompiledCondition.toQuery_of_clause hclause, ?_, ?_, ?_⟩
    · simp [Fields.get?_cons, hroot "$text" (by decide)]
    · rw [Query.readClauses, if_neg (hroot "$and" (by decide)), if_neg (hroot "$or" (by decide)),
        if_neg (hroot "$text" (by decide)), h.term, hread]
      rfl
    · simpa only [toPredicate, CompiledCondition.toPredicate, hclause, Query.allClauses]
        using Predicate.Agrees.field c.term hagrees

theorem readClauses_all {parts : List Value} {ps : List Predicate}
    (h : Query.readEach parts = .ok ps) :
    Query.readClauses [("$and", .arr parts)] = .ok [.all ps] := by
  simp [Query.readClauses, Query.readParts, h, Except.map, bind, Except.bind, pure, Except.pure]

theorem readClauses_any {parts : List Value} {ps : List Predicate}
    (h : Query.readEach parts = .ok ps) :
    Query.readClauses [("$or", .arr parts)] = .ok [.any ps] := by
  simp [Query.readClauses, Query.readParts, h, Except.map, bind, Except.bind, pure, Except.pure]

mutual
/-- The store reads a filter's query back part by part, in the filter's own shape. -/
theorem exists_readAs : ∀ f : CompiledFilter, f.Faithful → ∃ fields clauses, ReadAs f fields clauses
  | always, _ => ⟨[], [], .always⟩
  | condition c, h => ReadAs.ofCondition (h c (by simp [conditions]))
  | all parts, h => by
    obtain ⟨ps, hread, hagrees⟩ := readEach_toQueries parts h
    exact ⟨_, _, .combination rfl (by decide) (readClauses_all hread) rfl hagrees.all⟩
  | any parts, h => by
    obtain ⟨ps, hread, hagrees⟩ := readEach_toQueries parts h
    exact ⟨_, _, .combination rfl (by decide) (readClauses_any hread) rfl hagrees.any⟩

theorem readEach_toQueries : ∀ parts : List CompiledFilter,
    (∀ c ∈ conditionsOfList parts, c.Faithful) →
      ∃ ps, Query.readEach (toQueries parts) = .ok ps ∧
        Predicate.ListAgrees ps (toPredicates parts)
  | [], _ => ⟨[], rfl, .nil⟩
  | part :: rest, h => by
    obtain ⟨fields, clauses, hpart⟩ := exists_readAs part fun c hc =>
      h c (by simp [conditionsOfList, hc])
    obtain ⟨ps, hread, hagrees⟩ := readEach_toQueries rest fun c hc =>
      h c (by simp [conditionsOfList, hc])
    refine ⟨Query.allClauses clauses :: ps, ?_, hpart.agrees.cons hagrees⟩
    simp [toQueries, Query.readEach, Query.read, hpart.query, hpart.read, hread, Except.map, bind,
      Except.bind, pure, Except.pure]
end

end CompiledFilter

end RecordQuery
