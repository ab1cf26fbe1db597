import RecordQuery.Proofs.Filter.Faithful

/-!
# One filter, two forms

A filter compiles to a query exactly if it compiles to a predicate. The store reads the query back
as a predicate that compares with the very values of the compiled one and holds of the same records,
so no value of a caller is ever taken for an operator.
-/

namespace RecordQuery

namespace Filter

variable {ctx : FilterContext} {document : DocumentType}

/-- Compilation is the only step of either form that may fail. -/
theorem compileQuery_eq_error_iff {f : Filter} {e : CompileError} :
    f.compileQuery ctx document = .error e ↔ f.compile ctx document = .error e := by
  unfold compileQuery
  cases f.compile ctx document <;> simp [bind, Except.bind, pure, Except.pure]

theorem compilePredicate_eq_error_iff {f : Filter} {e : CompileError} :
    f.compilePredicate ctx document = .error e ↔ f.compile ctx document = .error e := by
  unfold compilePredicate
  cases f.compile ctx document <;> simp [bind, Except.bind, pure, Except.pure]

end Filter

namespace CompiledFilter

/-- A search stands beside the clauses of the query. -/
theorem ReadAs.addSearch {f : CompiledFilter} {fields : List (String × Value)}
    {clauses : List Predicate} (h : ReadAs f fields clauses) (search : String) :
    ∃ read, Query.read (Filter.addSearch f.toQuery search) = .ok read ∧
      read.Agrees (.all [f.toPredicate, .words search]) := by
  have hread := Query.readClauses_append h.read (Query.readClauses_search search)
  refine ⟨Query.allClauses (clauses ++ [.words search]), ?_, ?_, ?_⟩
  · rw [h.query, Filter.addSearch, Fields.insert_of_get?_none h.noSearch, Query.read, hread]
    rfl
  · have := h.agrees.operands
    rw [Predicate.operands_allClauses] at this ⊢
    simp [Predicate.operandsOfList_append, Predicate.operandsOfList, Predicate.operands, this]
  · intro r
    have := h.agrees.holds r
    rw [Predicate.holds_allClauses] at this ⊢
    simp [Predicate.allHold_append, Predicate.allHold, Predicate.holds, this]

theorem ReadAs.read_toQuery {f : CompiledFilter} {fields : List (String × Value)}
    {clauses : List Predicate} (h : ReadAs f fields clauses) :
    ∃ read, Query.read f.toQuery = .ok read ∧ read.Agrees f.toPredicate :=
  ⟨Query.allClauses clauses, by rw [h.query, Query.read, h.read]; rfl, h.agrees⟩

end CompiledFilter

namespace Filter

variable {ctx : FilterContext} {document : DocumentType}

theorem read_compiled (plain : document.PlainNames) {f : Filter} {compiled : CompiledFilter}
    (h : f.compile ctx document = .ok compiled) :
    ∃ query predicate read, f.compileQuery ctx document = .ok query ∧
      f.compilePredicate ctx document = .ok predicate ∧ Query.read query = .ok read ∧
      read.Agrees predicate := by
  obtain ⟨fields, clauses, hread⟩ := CompiledFilter.exists_readAs _ (compile_faithful plain h)
  cases hsearch : f.search with
  | none =>
    obtain ⟨read, hok, hagrees⟩ := hread.read_toQuery
    refine ⟨compiled.toQuery, compiled.toPredicate, read, ?_, ?_, hok, hagrees⟩
    · simp [compileQuery, h, hsearch, bind, Except.bind, pure, Except.pure]
    · simp [compilePredicate, h, hsearch, bind, Except.bind, pure, Except.pure]
  | some search =>
    obtain ⟨read, hok, hagrees⟩ := hread.addSearch search
    refine ⟨addSearch compiled.toQuery search, .all [compiled.toPredicate, .words search], read,
      ?_, ?_, hok, hagrees⟩
    · simp [compileQuery, h, hsearch, bind, Except.bind, pure, Except.pure]
    · simp [compilePredicate, h, hsearch, bind, Except.bind, pure, Except.pure]

/-- The two forms of a filter fail alike, and what the store reads from the query agrees with the
predicate. -/
theorem compileQuery_agrees (plain : document.PlainNames) (f : Filter) :
    (∀ e, f.compileQuery ctx document = .error e ↔ f.compilePredicate ctx document = .error e) ∧
    ((∃ query, f.compileQuery ctx document = .ok query) ↔
      ∃ predicate, f.compilePredicate ctx document = .ok predicate) ∧
    ∀ query predicate, f.compileQuery ctx document = .ok query →
      f.compilePredicate ctx document = .ok predicate →
      ∃ read, Query.read query = .ok read ∧ read.Agrees predicate := by
  refine ⟨fun e => compileQuery_eq_error_iff.trans compilePredicate_eq_error_iff.symm, ?_⟩
  cases h : f.compile ctx document with
  | error e =>
    have hquery := compileQuery_eq_error_iff.mpr h
    have hpredicate := compilePredicate_eq_error_iff.mpr h
    simp [hquery, hpredicate]
  | ok compiled =>
    obtain ⟨q, p, read, hquery, hpredicate, hread, hagrees⟩ := read_compiled plain h
    refine ⟨by simp [hquery, hpredicate], ?_⟩
    intro query predicate hq hp
    obtain rfl := Except.ok.inj (hquery.symm.trans hq)
    obtain rfl := Except.ok.inj (hpredicate.symm.trans hp)
    exact ⟨read, hread, hagrees⟩

end Filter

namespace Deals

def textField (name : String) : Field := ⟨name, "text", none, false, [], [], [], []⟩

def document : DocumentType :=
  ⟨"Deal", [], [("notes", textField "notes"),
    ("owner", ⟨"owner", "lookup", some "User", false, [], [], ["name"], []⟩)]⟩

def users : DocumentType := ⟨"User", [], [("name", textField "name")]⟩

def registry : Registry := ⟨[("Deal", document), ("User", users)], [], []⟩

def context : FilterContext := ⟨registry, User.new "u1", ⟨0, 0⟩⟩

theorem plainNames : document.PlainNames := DocumentType.plainNames_of_all (by decide)

/-- A choice inside a conjunction, an inverted equality with a record, and a search. -/
def openDeals : Filter :=
  ⟨.and, [⟨.or, [], .list [Condition.new "owner._id" "current_user" .null,
    ⟨"notes", "equals", some (.obj []), false, true⟩], none, false⟩],
    .list [⟨"notes", "in", some (.arr [.str "late"]), false, true⟩], some "fee", false⟩

end Deals

theorem Filter.compileQuery_agrees_openDeals :
    Deals.document.PlainNames ∧
    ∃ query predicate read, Deals.openDeals.compileQuery Deals.context Deals.document = .ok query ∧
      Deals.openDeals.compilePredicate Deals.context Deals.document = .ok predicate ∧
      Query.read query = .ok read ∧ read.Agrees predicate := by
  obtain ⟨_, hboth, hread⟩ :=
    @compileQuery_agrees Deals.context _ Deals.plainNames Deals.openDeals
  have hquery : ∃ query, Deals.openDeals.compileQuery Deals.context Deals.document = .ok query :=
    ⟨_, rfl⟩
  obtain ⟨predicate, hp⟩ := hboth.mp hquery
  obtain ⟨query, hq⟩ := hquery
  obtain ⟨read, hr, hagrees⟩ := hread query predicate hq hp
  exact ⟨Deals.plainNames, query, predicate, read, hq, hp, hr, hagrees⟩

end RecordQuery
