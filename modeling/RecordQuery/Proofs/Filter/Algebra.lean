import RecordQuery.Proofs.Filter.Negation

/-!
# What operators say of each other

A list is matched where one of its items is, a range where each of its bounds is, and an operator
that reads the caller says what an equality with the caller's token says. Each operator comes to its
values in a way of its own; where their values are resolved, coerced and refused alike, the tests
that they make follow suit.
-/

namespace RecordQuery

namespace Condition

/-- An operator asked of a term. -/
def asking (term : String) (operator : Operator) (raw : Value) : Condition :=
  Condition.new term operator.name raw

variable {ctx : FilterContext} {document : DocumentType} {term : String}

def Compiles (ctx : FilterContext) (document : DocumentType) (c : Condition) : Prop :=
  ∃ compiled, c.compile ctx document = .ok compiled

/-- The condition compiles, and its predicate holds of the record. -/
def Accepts (ctx : FilterContext) (document : DocumentType) (c : Condition) (r : Record) : Prop :=
  ∃ compiled, c.compile ctx document = .ok compiled ∧ compiled.toPredicate.holds r = true

instance (ctx : FilterContext) (document : DocumentType) (c : Condition) :
    Decidable (Compiles ctx document c) :=
  decidable_of_iff ((c.compile ctx document).toOption.isSome) <| by
    rw [Option.isSome_iff_exists]
    simp only [toOption_eq_some_iff, Compiles]

instance (ctx : FilterContext) (document : DocumentType) (c : Condition) (r : Record) :
    Decidable (Accepts ctx document c r) :=
  decidable_of_iff ((c.compile ctx document).toOption.any fun compiled =>
      compiled.toPredicate.holds r) <| by
    rw [Option.any_eq_true]
    simp only [toOption_eq_some_iff, Accepts]

/-- The condition compiles to a test with a property. -/
def Yields (ctx : FilterContext) (document : DocumentType) (c : Condition)
    (p : (List Value → Bool) → Prop) : Prop :=
  ∃ compiled, c.compile ctx document = .ok compiled ∧ p compiled.test

/-- The test passes what the term reaches in a record. -/
def Passes (term : String) (r : Record) (test : List Value → Bool) : Prop :=
  test (Record.reach r (Path.ofText (Term.normalize term))) = true

theorem compiles_iff {c : Condition} :
    Compiles ctx document c ↔ Yields ctx document c fun _ => True := by
  simp [Compiles, Yields]

theorem accepts_iff {operator : Operator} {raw : Value} {r : Record} :
    Accepts ctx document (asking term operator raw) r ↔
      Yields ctx document (asking term operator raw) (Passes term r) := by
  refine exists_congr fun compiled => and_congr_right fun h => ?_
  rw [Passes, CompiledCondition.holds_toPredicate, compile_term h]
  rfl

theorem asking_eq_map {resolved : ResolvedTerm} {operator : Operator}
    (leads : Leads ctx document term resolved) (admits : resolved.Admits operator) (raw : Value) :
    (asking term operator raw).compile ctx document
      = (clause ctx operator (Term.normalize term) resolved raw).map
          (invert (Term.normalize term) false) :=
  compile_eq_map (c := asking term operator raw) leads admits (Operator.ofName?_name operator) rfl

theorem test_invert_false (term : String) (clause : Clause) :
    (invert term false (some clause)).test = clause.toTest.holds := by
  funext found
  rw [CompiledCondition.test_invert, Bool.false_xor]

section Literals

variable {resolved : ResolvedTerm} {operator : Operator} {make : Value → Clause}
variable {p : (List Value → Bool) → Prop}

theorem yields_literal (leads : Leads ctx document term resolved)
    (admits : resolved.Admits operator) (h : operator.literal? = some make) (raw : Value) :
    Yields ctx document (asking term operator raw) p ↔
      ∃ v, Operand.literal ctx (Term.normalize term) resolved raw = .ok v ∧
        p (make v).toTest.holds := by
  rw [Yields, asking_eq_map leads admits, clause_of_literal h]
  constructor
  · rintro ⟨compiled, hcompiled, hp⟩
    obtain ⟨_, hmade, rfl⟩ := map_eq_ok_iff.mp hcompiled
    obtain ⟨v, hv, rfl⟩ := map_eq_ok_iff.mp hmade
    rw [test_invert_false] at hp
    exact ⟨v, hv, hp⟩
  · rintro ⟨v, hv, hp⟩
    refine ⟨invert (Term.normalize term) false (some (make v)), by rw [hv]; rfl, ?_⟩
    rw [test_invert_false]
    exact hp

theorem yields_plain (leads : Leads ctx document term resolved)
    (admits : resolved.Admits operator) (h : operator.literal? = some make) {v : Value}
    (plain : Operand.Plain v) :
    Yields ctx document (asking term operator v) p ↔
      Operand.hidesOperators (Operand.adapt resolved v) = false ∧
        p (make (Operand.adapt resolved v)).toTest.holds := by
  rw [yields_literal leads admits h]
  simp only [Operand.literal_plain admits plain]
  constructor
  · rintro ⟨_, ⟨hopen, rfl⟩, hp⟩
    exact ⟨hopen, hp⟩
  · rintro ⟨hopen, hp⟩
    exact ⟨_, ⟨hopen, rfl⟩, hp⟩

theorem yields_list (leads : Leads ctx document term resolved)
    (admits : resolved.Admits operator) (h : operator.literal? = some make) (items : List Value) :
    Yields ctx document (asking term operator (.arr items)) p ↔
      (∀ v ∈ items, Operand.hidesOperators (Operand.adapt resolved v) = false) ∧
        p (make (.arr (items.map (Operand.adapt resolved)))).toTest.holds := by
  rw [yields_literal leads admits h]
  simp only [Operand.literal_list]
  constructor
  · rintro ⟨_, ⟨hopen, rfl⟩, hp⟩
    exact ⟨hopen, hp⟩
  · rintro ⟨hopen, hp⟩
    exact ⟨_, ⟨hopen, rfl⟩, hp⟩

end Literals

/-- A list is taken exactly if each item is taken by the operator for one value. -/
theorem compiles_list {listed single : Operator} {several one : Value → Clause}
    (hlisted : listed.literal? = some several) (hsingle : single.literal? = some one)
    (first : Allows ctx document term listed) (second : Allows ctx document term single)
    {items : List Value} (plain : ∀ v ∈ items, Operand.Plain v) :
    Compiles ctx document (asking term listed (.arr items)) ↔
      ∀ v ∈ items, Compiles ctx document (asking term single v) := by
  obtain ⟨resolved, leads, admits⟩ := first
  obtain ⟨other, leads', admits'⟩ := second
  obtain rfl := leads.unique leads'
  rw [compiles_iff, yields_list leads admits hlisted, and_true]
  refine forall₂_congr fun v hv => ?_
  rw [compiles_iff, yields_plain leads admits' hsingle (plain v hv), and_true]

theorem isIn_iff (first : Allows ctx document term .isIn)
    (second : Allows ctx document term .equals) {items : List Value}
    (plain : ∀ v ∈ items, Operand.Plain v)
    (compiles : Compiles ctx document (asking term .isIn (.arr items))) (r : Record) :
    Accepts ctx document (asking term .isIn (.arr items)) r ↔
      ∃ v ∈ items, Accepts ctx document (asking term .equals v) r := by
  obtain ⟨resolved, leads, admits⟩ := first
  obtain ⟨other, leads', admits'⟩ := second
  obtain rfl := leads.unique leads'
  rw [compiles_iff, yields_list leads admits rfl, and_true] at compiles
  rw [accepts_iff, yields_list leads admits rfl]
  simp only [Passes, Clause.toTest, FieldTest.holds, Operand.asList, List.any_map, List.any_eq_true,
    Function.comp_apply]
  constructor
  · rintro ⟨_, v, hv, hequals⟩
    refine ⟨v, hv, ?_⟩
    rw [accepts_iff, yields_plain leads admits' rfl (plain v hv)]
    exact ⟨compiles v hv, hequals⟩
  · rintro ⟨v, hv, haccepts⟩
    rw [accepts_iff, yields_plain leads admits' rfl (plain v hv)] at haccepts
    exact ⟨compiles, v, hv, haccepts.2⟩

theorem isNotIn_iff (first : Allows ctx document term .isNotIn)
    (second : Allows ctx document term .notEquals) {items : List Value}
    (plain : ∀ v ∈ items, Operand.Plain v) (r : Record) :
    Accepts ctx document (asking term .isNotIn (.arr items)) r ↔
      ∀ v ∈ items, Accepts ctx document (asking term .notEquals v) r := by
  obtain ⟨resolved, leads, admits⟩ := first
  obtain ⟨other, leads', admits'⟩ := second
  obtain rfl := leads.unique leads'
  rw [accepts_iff, yields_list leads admits rfl]
  simp only [Passes, Clause.toTest, FieldTest.holds, Operand.asList, List.any_map,
    Bool.not_eq_true', List.any_eq_false, Function.comp_apply, Bool.not_eq_true, ← forall₂_and]
  refine forall₂_congr fun v hv => ?_
  rw [accepts_iff, yields_plain leads admits' rfl (plain v hv)]
  simp only [Passes, Clause.toTest, FieldTest.holds, Bool.not_eq_true']

/-- One value in place of a list. -/
theorem compile_single {operator : Operator} {make : List Value → Clause}
    (hoperator : operator.literal? = some fun v => make (Operand.asList v))
    (allows : Allows ctx document term operator) {v : Value} (plain : Operand.Plain v) :
    (asking term operator v).compile ctx document
      = (asking term operator (.arr [v])).compile ctx document := by
  obtain ⟨resolved, leads, admits⟩ := allows
  rw [asking_eq_map leads admits, asking_eq_map leads admits, clause_of_literal hoperator,
    clause_of_literal hoperator]
  congr 1
  exact Operand.literal_single admits plain fun vs => some (make vs)

/-- A conjunction has the property exactly if both of its parts do. -/
structure Conjunctive (p : (List Value → Bool) → Prop) : Prop where
  trivial : p fun _ => true
  both : ∀ a b, p (fun found => a found && b found) ↔ p a ∧ p b

theorem conjunctive_true : Conjunctive fun _ => True := ⟨True.intro, by simp⟩

theorem conjunctive_passes (term : String) (r : Record) : Conjunctive (Passes term r) :=
  ⟨rfl, by simp [Passes]⟩

/-- The operators for the two bounds of a range, which the bounds are named after. -/
def rangeSides : List Operator := [.greaterOrEquals, .lessOrEquals]

theorem test_range (term : String) (low high : Option Value) :
    (invert term false (if low.isNone && high.isNone then none else some (.range low high))).test
      = fun found => (low.all fun v => (Clause.atLeast v).toTest.holds found) &&
          high.all fun v => (Clause.atMost v).toTest.holds found := by
  funext found
  cases low <;> cases high <;>
    simp [invert, CompiledCondition.test, Clause.toTest, FieldTest.holds, FieldTest.holdAll]

theorem yields_range {p : (List Value → Bool) → Prop} (hp : Conjunctive p)
    (between : Allows ctx document term .between)
    (sides : ∀ side ∈ rangeSides, Allows ctx document term side) (bounds : Record) :
    Yields ctx document (asking term .between (.obj bounds)) p ↔
      ∀ side ∈ rangeSides, ∀ raw, Operand.given? bounds side.name = some raw →
        Yields ctx document (asking term side raw) p := by
  obtain ⟨resolved, leads, admits⟩ := between
  have hside : ∀ {side make}, side ∈ rangeSides → side.literal? = some make →
      ((∃ made, Operand.bound ctx (Term.normalize term) resolved bounds side.name = .ok made ∧
          ∀ v, made = some v → p (make v).toTest.holds) ↔
        ∀ raw, Operand.given? bounds side.name = some raw →
          Yields ctx document (asking term side raw) p) := by
    intro side make hmem hmake
    obtain ⟨other, leads', admits'⟩ := sides side hmem
    obtain rfl := leads.unique leads'
    rw [Operand.bound_iff]
    refine forall₂_congr fun raw _ => ?_
    rw [yields_literal leads admits' hmake]
  have hall : ∀ (made : Option Value) (make : Value → Clause),
      p (fun found => made.all fun v => (make v).toTest.holds found) ↔
        ∀ v, made = some v → p (make v).toTest.holds := by
    intro made make
    cases made with
    | none => simpa using hp.trivial
    | some v => simp
  simp only [rangeSides, List.forall_mem_cons, List.not_mem_nil, false_imp_iff, implies_true,
    and_true]
  rw [← hside (by simp [rangeSides]) rfl, ← hside (by simp [rangeSides]) rfl, Yields,
    asking_eq_map leads admits]
  constructor
  · rintro ⟨compiled, hcompiled, h⟩
    obtain ⟨made, hmade, rfl⟩ := map_eq_ok_iff.mp hcompiled
    obtain ⟨low, hlow, hmade⟩ := bind_eq_ok_iff.mp hmade
    obtain ⟨high, hhigh, hmade⟩ := bind_eq_ok_iff.mp hmade
    obtain rfl := Except.ok.inj hmade
    rw [test_range, hp.both, hall, hall] at h
    exact ⟨⟨low, hlow, h.1⟩, high, hhigh, h.2⟩
  · rintro ⟨⟨low, hlow, hlowp⟩, high, hhigh, hhighp⟩
    have hmade : clause ctx .between (Term.normalize term) resolved (.obj bounds)
        = .ok (if low.isNone && high.isNone then none else some (.range low high)) :=
      bind_eq_ok_iff.mpr ⟨low, hlow, bind_eq_ok_iff.mpr ⟨high, hhigh, rfl⟩⟩
    refine ⟨_, by rw [hmade]; rfl, ?_⟩
    rw [test_range, hp.both, hall, hall]
    exact ⟨hlowp, hhighp⟩

/-- What an operator that reads the caller stands for: another operator and the token it is asked
of. -/
def callerTokens : List (Operator × Operator × String) :=
  [(.currentUser, .equals, "$user"), (.currentUserGroup, .equals, "$group"),
    (.currentUserGroups, .isIn, "$allgroups")]

theorem clause_caller {entry : Operator × Operator × String} (h : entry ∈ callerTokens)
    (term : String) (resolved : ResolvedTerm) (raw : Value) :
    clause ctx entry.1 term resolved raw
      = clause ctx entry.2.1 term resolved (.str entry.2.2) := by
  have literal : ∀ {token v}, Token.resolve token ctx = .ok (some v) →
      Operand.hidesOperators v = false →
        Operand.literal ctx term resolved (.str token) = .ok v := by
    intro token v htoken hopen
    have hresolve : Operand.resolve ctx .equals term resolved (.str token) = .ok v := by
      simp [Operand.resolve, htoken]
    exact (Operand.literal_of_resolve hresolve v).mpr ⟨hopen, rfl⟩
  have hequals : Operator.equals.literal? = some .equals := rfl
  simp only [callerTokens, List.mem_cons, List.not_mem_nil, or_false] at h
  rcases h with rfl | rfl | rfl
  · have htoken : Token.resolve "$user" ctx = .ok (some (.str ctx.user.id)) := by
      simp [Token.resolve]
    rw [clause_of_literal hequals, literal htoken rfl]
    rfl
  · have htoken : Token.resolve "$group" ctx = .ok (some (Token.orNull ctx.user.group)) := by
      simp [Token.resolve]
    have hopen : Operand.hidesOperators (Token.orNull ctx.user.group) = false := by
      cases ctx.user.group <;> rfl
    rw [clause_of_literal hequals, literal htoken hopen]
    rfl
  · have htoken : Token.resolve "$allgroups" ctx = .ok (some (Token.ids ctx.user.allGroups)) := by
      simp [Token.resolve]
    have hopen : Operand.hidesOperators (Token.ids ctx.user.allGroups) = false := by
      rw [Token.ids, Operand.hidesOperators, Operand.anyHidesOperators_eq]
      simp [Operand.hidesOperators]
    have hin : Operator.isIn.literal? = some fun v => .isOneOf (Operand.asList v) := rfl
    rw [clause_of_literal hin, literal htoken hopen]
    rfl

/-- What the operators say of each other where a term admits them. -/
structure OperatorAlgebra (ctx : FilterContext) (document : DocumentType) (term : String) :
    Prop where
  isIn : Allows ctx document term .isIn → Allows ctx document term .equals →
    ∀ items : List Value, (∀ v ∈ items, Operand.Plain v) →
      (Compiles ctx document (asking term .isIn (.arr items)) ↔
        ∀ v ∈ items, Compiles ctx document (asking term .equals v)) ∧
      (Compiles ctx document (asking term .isIn (.arr items)) → ∀ r,
        (Accepts ctx document (asking term .isIn (.arr items)) r ↔
          ∃ v ∈ items, Accepts ctx document (asking term .equals v) r))
  isNotIn : Allows ctx document term .isNotIn → Allows ctx document term .notEquals →
    ∀ items : List Value, (∀ v ∈ items, Operand.Plain v) →
      (Compiles ctx document (asking term .isNotIn (.arr items)) ↔
        ∀ v ∈ items, Compiles ctx document (asking term .notEquals v)) ∧
      ∀ r, (Accepts ctx document (asking term .isNotIn (.arr items)) r ↔
        ∀ v ∈ items, Accepts ctx document (asking term .notEquals v) r)
  /-- One value is a list of one. -/
  single : ∀ operator ∈ [Operator.isIn, .isNotIn], Allows ctx document term operator →
    ∀ v, Operand.Plain v →
      (asking term operator v).compile ctx document
        = (asking term operator (.arr [v])).compile ctx document
  /-- A bound that is null or absent asks nothing. -/
  between : Allows ctx document term .between →
    (∀ side ∈ rangeSides, Allows ctx document term side) → ∀ bounds : Record,
      (Compiles ctx document (asking term .between (.obj bounds)) ↔
        ∀ side ∈ rangeSides, ∀ raw, Operand.given? bounds side.name = some raw →
          Compiles ctx document (asking term side raw)) ∧
      ∀ r, (Accepts ctx document (asking term .between (.obj bounds)) r ↔
        ∀ side ∈ rangeSides, ∀ raw, Operand.given? bounds side.name = some raw →
          Accepts ctx document (asking term side raw) r)
  /-- Whatever value stands beside an operator that reads the caller. -/
  caller : ∀ entry ∈ callerTokens, Allows ctx document term entry.1 →
    Allows ctx document term entry.2.1 → ∀ raw,
      (asking term entry.1 raw).compile ctx document
        = (asking term entry.2.1 (.str entry.2.2)).compile ctx document
  /-- The store reads the query of a condition as the predicate that the laws are about. -/
  queries : document.PlainNames → ∀ operator raw compiled,
    (asking term operator raw).compile ctx document = .ok compiled →
      ∃ read, Query.read compiled.toQuery = .ok read ∧
        ∀ r, read.holds r = compiled.toPredicate.holds r

/-- The laws of operators hold of every term. -/
theorem operatorAlgebra (ctx : FilterContext) (document : DocumentType) (term : String) :
    OperatorAlgebra ctx document term where
  isIn := by
    intro first second items plain
    exact ⟨compiles_list rfl rfl first second plain, isIn_iff first second plain⟩
  isNotIn := by
    intro first second items plain
    exact ⟨compiles_list rfl rfl first second plain, isNotIn_iff first second plain⟩
  single := by
    intro operator hoperator allows v plain
    simp only [List.mem_cons, List.not_mem_nil, or_false] at hoperator
    rcases hoperator with rfl | rfl
    · have hmake : Operator.isIn.literal? = some fun v => .isOneOf (Operand.asList v) := rfl
      exact compile_single hmake allows plain
    · have hmake : Operator.isNotIn.literal? = some fun v => .isNoneOf (Operand.asList v) := rfl
      exact compile_single hmake allows plain
  between := by
    intro between sides bounds
    constructor
    · simp only [compiles_iff]
      exact yields_range conjunctive_true between sides bounds
    · intro r
      simp only [accepts_iff]
      exact yields_range (conjunctive_passes term r) between sides bounds
  caller := by
    rintro entry hentry ⟨resolved, leads, admits⟩ ⟨other, leads', admits'⟩ raw
    obtain rfl := leads.unique leads'
    rw [asking_eq_map leads admits, asking_eq_map leads admits', clause_caller hentry]
  queries := by
    intro plain operator raw compiled h
    exact CompiledCondition.read_toQuery (compile_faithful plain h)

end Condition

namespace Deals

def closings : DocumentType :=
  ⟨"Deal", [], [("closedAt", { textField "closedAt" with type := "date" })]⟩

def closedDeal : Record := [("closedAt", Value.ofDate ⟨1705276800, 0⟩)]

end Deals

namespace Condition

open Deals (closings closedDeal)

/-- The day of closing among others, and a range that is open above. -/
theorem operatorAlgebra_closings :
    (∀ operator ∈ [Operator.isIn, .equals, .between, .greaterOrEquals, .lessOrEquals],
      Allows Deals.context closings "closedAt" operator) ∧
    Accepts Deals.context closings
      (asking "closedAt" .isIn (.arr [.str "1999-12-31", .str "2024-01-15T00:00:00Z"]))
      closedDeal ∧
    Accepts Deals.context closings
      (asking "closedAt" .between
        (.obj [("greater_or_equals", .str "$today"), ("less_or_equals", .null)]))
      closedDeal := by
  have algebra := operatorAlgebra Deals.context closings "closedAt"
  have allows : ∀ operator ∈ [Operator.isIn, .equals, .between, .greaterOrEquals, .lessOrEquals],
      Allows Deals.context closings "closedAt" operator := by
    intro operator hoperator
    exact ⟨⟨"date", []⟩, ⟨rfl, rfl⟩, _, rfl, by revert operator; decide⟩
  refine ⟨allows, ?_, ?_⟩
  · obtain ⟨hcompiles, haccepts⟩ := algebra.isIn (allows _ (by simp)) (allows _ (by simp))
      [.str "1999-12-31", .str "2024-01-15T00:00:00Z"] (by simp [Operand.Plain])
    have compiles := hcompiles.mpr (by decide +kernel)
    exact (haccepts compiles closedDeal).mpr
      ⟨.str "2024-01-15T00:00:00Z", by simp, by decide +kernel⟩
  · have sides : ∀ side ∈ rangeSides, Allows Deals.context closings "closedAt" side := by
      intro side hside
      exact allows side (by revert side; decide)
    rw [(algebra.between (allows _ (by simp)) sides _).2]
    intro side hside raw hraw
    simp only [rangeSides, List.mem_cons, List.not_mem_nil, or_false] at hside
    rcases hside with rfl | rfl
    · obtain rfl : .str "$today" = raw := Option.some.inj hraw
      decide +kernel
    · cases hraw

end Condition

end RecordQuery
