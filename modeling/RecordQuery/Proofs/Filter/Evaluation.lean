import RecordQuery.Proofs.Filter.Agreement

/-!
# What a tree of conditions says

A node says what its active parts and conditions say together, and nothing if it has none. The
compiler leaves disabled ones out, lets one clause stand for itself and keeps a node without clauses
as one that always holds; none of this changes what the tree says, and the first condition that does
not compile is the error of the whole.
-/

namespace RecordQuery

namespace Combination

/-- What a node says where its parts give these answers. -/
def verdict (combination : Combination) (answers : List Bool) : Bool :=
  answers.isEmpty ||
    match combination with
    | .and => answers.all id
    | .or => answers.any id

end Combination

namespace Condition

/-- What the condition says of a record, taken on its own. -/
def answer (ctx : FilterContext) (document : DocumentType) (r : Record) (c : Condition) : Bool :=
  match c.compile ctx document with
  | .ok compiled => compiled.toPredicate.holds r
  | .error _ => false

/-- Why the condition does not compile. -/
def failure? (ctx : FilterContext) (document : DocumentType) (c : Condition) :
    Option CompileError :=
  failureOf (c.compile ctx document)

end Condition

namespace Filter

mutual
/-- What a tree says where its conditions give the answers of `answer`. Searches are not part of
it, and whether the outermost node is disabled is not asked. -/
def evaluate (answer : Condition → Bool) : Filter → Bool
  | ⟨combination, parts, conditions, _, _⟩ =>
    combination.verdict (evaluateParts answer parts ++ conditions.active.map answer)

def evaluateParts (answer : Condition → Bool) : List Filter → List Bool
  | [] => []
  | f :: rest =>
    if f.disabled then evaluateParts answer rest
    else evaluate answer f :: evaluateParts answer rest
end

/-- What a filter says of a record: its conditions and its own search. -/
def meets (ctx : FilterContext) (document : DocumentType) (f : Filter) (r : Record) : Bool :=
  f.evaluate (Condition.answer ctx document r) &&
    match f.search with
    | some search => Predicate.findsWord search r
    | none => true

end Filter

namespace CompiledFilter

def answers (parts : List CompiledFilter) (r : Record) : List Bool :=
  parts.map fun part => part.toPredicate.holds r

theorem allHold_toPredicates (parts : List CompiledFilter) (r : Record) :
    Predicate.allHold (toPredicates parts) r = (answers parts r).all id := by
  induction parts with
  | nil => rfl
  | cons part rest ih => rw [toPredicates, Predicate.allHold, ih]; rfl

theorem anyHolds_toPredicates (parts : List CompiledFilter) (r : Record) :
    Predicate.anyHolds (toPredicates parts) r = (answers parts r).any id := by
  induction parts with
  | nil => rfl
  | cons part rest ih => rw [toPredicates, Predicate.anyHolds, ih]; rfl

/-- One part stands for itself, so combining never changes what the parts say together. -/
theorem holds_combine (combination : Combination) (parts : List CompiledFilter) (r : Record) :
    (combine combination parts).toPredicate.holds r = combination.verdict (answers parts r) := by
  match parts with
  | [] => rfl
  | [part] => cases combination <;> simp [combine, Combination.verdict, answers]
  | first :: second :: rest =>
    cases combination with
    | and => exact allHold_toPredicates (first :: second :: rest) r
    | or => exact anyHolds_toPredicates (first :: second :: rest) r

end CompiledFilter

namespace Filter

variable {ctx : FilterContext} {document : DocumentType}

theorem failureOf_compileConditions (cs : List Condition) :
    failureOf (compileConditions ctx document cs)
      = cs.findSome? (Condition.failure? ctx document) := by
  induction cs with
  | nil => rfl
  | cons c rest ih =>
    rw [compileConditions, List.findSome?_cons, Condition.failure?, ← ih]
    cases c.compile ctx document with
    | error e => rfl
    | ok compiled => cases compileConditions ctx document rest <;> rfl

mutual
/-- A tree fails with the error of its first condition that does, parts before own conditions. -/
theorem failureOf_compile : ∀ f : Filter,
    failureOf (f.compile ctx document)
      = f.activeConditions.findSome? (Condition.failure? ctx document)
  | ⟨combination, parts, conditions, _, _⟩ => by
    rw [compile, activeConditions, List.findSome?_append, ← failureOf_compileParts parts,
      ← failureOf_compileConditions]
    cases compileParts ctx document parts with
    | error e => rfl
    | ok made => cases compileConditions ctx document conditions.active <;> rfl

theorem failureOf_compileParts : ∀ fs : List Filter,
    failureOf (compileParts ctx document fs)
      = (activeOfParts fs).findSome? (Condition.failure? ctx document)
  | [] => rfl
  | f :: rest => by
    rw [compileParts, activeOfParts, List.findSome?_append, ← failureOf_compileParts rest]
    cases f.disabled with
    | true => rfl
    | false =>
      simp only [Bool.false_eq_true, ↓reduceIte]
      rw [← failureOf_compile f]
      cases f.compile ctx document with
      | error e => rfl
      | ok made => cases compileParts ctx document rest <;> rfl
end

theorem answers_compileConditions (r : Record) :
    ∀ {cs : List Condition} {parts : List CompiledFilter},
      compileConditions ctx document cs = .ok parts →
        CompiledFilter.answers parts r = cs.map (Condition.answer ctx document r)
  | [], parts, h => by
    obtain rfl := Except.ok.inj h
    rfl
  | c :: rest, parts, h => by
    obtain ⟨first, hfirst, h⟩ := bind_eq_ok_iff.mp h
    obtain ⟨others, hothers, h⟩ := bind_eq_ok_iff.mp h
    obtain rfl := Except.ok.inj h
    have ih := answers_compileConditions r hothers
    rw [CompiledFilter.answers] at ih ⊢
    rw [List.map_cons, List.map_cons, ih, Condition.answer, hfirst]
    rfl

mutual
/-- A compiled tree holds of the records of which the tree says so. -/
theorem holds_compile (r : Record) : ∀ (f : Filter) {compiled : CompiledFilter},
    f.compile ctx document = .ok compiled →
      compiled.toPredicate.holds r = f.evaluate (Condition.answer ctx document r)
  | ⟨combination, parts, conditions, _, _⟩, compiled, h => by
    obtain ⟨made, hmade, h⟩ := bind_eq_ok_iff.mp h
    obtain ⟨own, hown, h⟩ := bind_eq_ok_iff.mp h
    obtain rfl := Except.ok.inj h
    rw [CompiledFilter.holds_combine, evaluate, ← answers_compileParts r parts hmade,
      ← answers_compileConditions r hown]
    simp only [CompiledFilter.answers, List.map_append]

theorem answers_compileParts (r : Record) : ∀ (fs : List Filter) {parts : List CompiledFilter},
    compileParts ctx document fs = .ok parts →
      CompiledFilter.answers parts r = evaluateParts (Condition.answer ctx document r) fs
  | [], parts, h => by
    obtain rfl := Except.ok.inj h
    rfl
  | f :: rest, parts, h => by
    rw [compileParts] at h
    rw [evaluateParts]
    cases hdisabled : f.disabled with
    | true =>
      rw [if_pos hdisabled] at h
      exact answers_compileParts r rest h
    | false =>
      rw [if_neg (by simp [hdisabled])] at h
      obtain ⟨first, hfirst, h⟩ := bind_eq_ok_iff.mp h
      obtain ⟨others, hothers, h⟩ := bind_eq_ok_iff.mp h
      obtain rfl := Except.ok.inj h
      have ih := answers_compileParts r rest hothers
      rw [CompiledFilter.answers] at ih ⊢
      rw [List.map_cons, ih, holds_compile r f hfirst]
      rfl
end

theorem failureOf_compileQuery (f : Filter) :
    failureOf (f.compileQuery ctx document) = failureOf (f.compile ctx document) := by
  rw [compileQuery]
  cases f.compile ctx document <;> rfl

theorem failureOf_compilePredicate (f : Filter) :
    failureOf (f.compilePredicate ctx document) = failureOf (f.compile ctx document) := by
  rw [compilePredicate]
  cases f.compile ctx document <;> rfl

/-- Nothing but a condition that counts can keep a tree from being compiled. -/
theorem failureOf_compile_eq_none_iff {f : Filter} :
    failureOf (f.compile ctx document) = none ↔
      ∀ c ∈ f.activeConditions, ∃ compiled, c.compile ctx document = .ok compiled := by
  rw [failureOf_compile, List.findSome?_eq_none_iff]
  simp only [Condition.failure?, failureOf_eq_none_iff]

theorem holds_compilePredicate {f : Filter} {p : Predicate}
    (h : f.compilePredicate ctx document = .ok p) (r : Record) :
    p.holds r = f.meets ctx document r := by
  obtain ⟨compiled, hcompiled, h⟩ := bind_eq_ok_iff.mp h
  obtain rfl := Except.ok.inj h
  rw [meets, ← holds_compile r f hcompiled]
  cases f.search with
  | none => simp
  | some search => simp [Predicate.holds, Predicate.allHold]

/-- A filter compiles exactly if each condition does that no disabled part holds, else it fails with
the error of the first that does not; whether the outermost node is disabled makes no difference.
Both compiled forms then match the records of which the filter says so. -/
theorem compile_meaning (plain : document.PlainNames) (f : Filter) :
    ((∃ query, f.compileQuery ctx document = .ok query) ↔
      ∀ c ∈ f.activeConditions, ∃ compiled, c.compile ctx document = .ok compiled) ∧
    ((∃ predicate, f.compilePredicate ctx document = .ok predicate) ↔
      ∀ c ∈ f.activeConditions, ∃ compiled, c.compile ctx document = .ok compiled) ∧
    (∀ e, f.compileQuery ctx document = .error e ↔
      f.activeConditions.findSome? (Condition.failure? ctx document) = some e) ∧
    (∀ e, f.compilePredicate ctx document = .error e ↔
      f.activeConditions.findSome? (Condition.failure? ctx document) = some e) ∧
    ∀ query predicate, f.compileQuery ctx document = .ok query →
      f.compilePredicate ctx document = .ok predicate →
      ∃ read, Query.read query = .ok read ∧
        ∀ r, read.holds r = f.meets ctx document r ∧ predicate.holds r = f.meets ctx document r := by
  refine ⟨?_, ?_, ?_, ?_, ?_⟩
  · rw [← failureOf_eq_none_iff, failureOf_compileQuery, failureOf_compile_eq_none_iff]
  · rw [← failureOf_eq_none_iff, failureOf_compilePredicate, failureOf_compile_eq_none_iff]
  · intro e
    rw [← failureOf_eq_some_iff, failureOf_compileQuery, failureOf_compile]
  · intro e
    rw [← failureOf_eq_some_iff, failureOf_compilePredicate, failureOf_compile]
  · intro query predicate hquery hpredicate
    obtain ⟨compiled, hcompiled, _⟩ := bind_eq_ok_iff.mp hquery
    obtain ⟨q, p, read, hq, hp, hread, hagrees⟩ := read_compiled plain hcompiled
    obtain rfl := Except.ok.inj (hq.symm.trans hquery)
    obtain rfl := Except.ok.inj (hp.symm.trans hpredicate)
    refine ⟨read, hread, fun r => ?_⟩
    have hmeets := holds_compilePredicate hpredicate r
    exact ⟨(hagrees.holds r).trans hmeets, hmeets⟩

end Filter

namespace Deals

/-- A condition on a field that deals do not have. -/
def won : Condition := Condition.new "stage" "equals" (.str "won")

/-- A disabled node with such a condition. -/
def switchedOff : Filter := { Filter.ofConditions .and [won] with disabled := true }

/-- Late deals or any others with the word: the empty part asks nothing. -/
def anyDeals : Filter :=
  ⟨.or, [Filter.trivial, switchedOff],
    .named [("late", Condition.new "notes" "in" (.arr [.str "late"]))], some "fee", false⟩

def feeDeal : Record := [("_id", .str "d1"), ("notes", .str "a fee")]

end Deals

namespace Filter

open Deals (anyDeals switchedOff feeDeal)

theorem compile_meaning_anyDeals :
    Deals.document.PlainNames ∧
    ∃ query predicate read, anyDeals.compileQuery Deals.context Deals.document = .ok query ∧
      anyDeals.compilePredicate Deals.context Deals.document = .ok predicate ∧
      Query.read query = .ok read ∧ read.holds feeDeal = true ∧ predicate.holds feeDeal = true := by
  obtain ⟨_, _, _, _, hforms⟩ := @compile_meaning Deals.context _ Deals.plainNames anyDeals
  obtain ⟨query, hquery⟩ :
      ∃ query, anyDeals.compileQuery Deals.context Deals.document = .ok query :=
    ⟨_, rfl⟩
  obtain ⟨predicate, hpredicate⟩ :
      ∃ predicate, anyDeals.compilePredicate Deals.context Deals.document = .ok predicate :=
    ⟨_, rfl⟩
  obtain ⟨read, hread, hmeets⟩ := hforms query predicate hquery hpredicate
  have hfee : anyDeals.meets Deals.context Deals.document feeDeal = true := by decide +kernel
  exact ⟨Deals.plainNames, query, predicate, read, hquery, hpredicate, hread,
    (hmeets feeDeal).1.trans hfee, (hmeets feeDeal).2.trans hfee⟩

/-- All conditions under enabled nodes compile, for there are none, and the filter does not. -/
theorem compile_checks_switchedOff :
    Deals.document.PlainNames ∧
    (∀ c ∈ activeOfParts [switchedOff],
      ∃ compiled, c.compile Deals.context Deals.document = .ok compiled) ∧
    ¬ ∃ query, switchedOff.compileQuery Deals.context Deals.document = .ok query := by
  refine ⟨Deals.plainNames, by simp [activeOfParts, switchedOff], ?_⟩
  rintro ⟨query, hquery⟩
  have herror : switchedOff.compileQuery Deals.context Deals.document
      = .error (.unknownField "stage" "Deal") := rfl
  rw [herror] at hquery
  cases hquery

end Filter

end RecordQuery
