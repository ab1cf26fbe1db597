import RecordQuery.Filter.Compile
import RecordQuery.Proofs.Outcome
import RecordQuery.Proofs.Value.Fields
import RecordQuery.Proofs.Value.Path

/-!
# What a compiled filter is made of

A condition compiles only if its term leads to a field whose type admits the operator. A filter
compiles only if each of its active conditions does, and it holds nothing else.
-/

namespace RecordQuery

namespace TermType

/-- The types that can be filtered. -/
def filterable : List String :=
  ["text", "url", "email.address", "phone.phoneNumber", "address.city", "number", "autoNumber",
    "date", "dateTime", "money.currency", "money.value", "address.geolocation.0",
    "address.geolocation.1", "percentage", "boolean", "encrypted", "address.country",
    "address.number", "address.state", "address.district", "phone.countryCode", "picklist",
    "address.place", "address.postalCode", "address.complement", "personName.first",
    "personName.last", "personName.full", "lookup._id", "ObjectId", "lookup", "filter",
    "filter.conditions", "file", "richText"]

theorem mem_filterable {type : TermType} {allowed : List Operator}
    (h : operators? type = some allowed) : type ∈ filterable := by
  unfold operators? at h
  split at h
  all_goals simp_all [filterable]

/-- Nothing below an identifier can be filtered. -/
theorem operators?_below_identifier (rest : List Char) :
    operators? (String.ofList ("ObjectId.".toList ++ rest)) = none := by
  cases h : operators? (String.ofList ("ObjectId.".toList ++ rest)) with
  | none => rfl
  | some allowed =>
    have hmem : (String.ofList ("ObjectId.".toList ++ rest)).toList
        ∈ filterable.map String.toList := List.mem_map_of_mem (mem_filterable h)
    rw [String.toList_ofList] at hmem
    simp [filterable] at hmem

end TermType

namespace ResolvedTerm

theorem type_below_identifier (segment : String) (rest : Path) :
    ∃ more, (ResolvedTerm.mk "ObjectId" (segment :: rest)).type
      = String.ofList ("ObjectId.".toList ++ more) := by
  have grows : ∀ (path : Path) (text : String), ∃ more : List Char,
      path.foldl (fun text segment => text ++ "." ++ segment) text
        = String.ofList (text.toList ++ more) := by
    intro path
    induction path with
    | nil => exact fun text => ⟨[], by simp⟩
    | cons first others ih =>
      intro text
      obtain ⟨more, hmore⟩ := ih (text ++ "." ++ first)
      exact ⟨".".toList ++ first.toList ++ more, by simp [hmore]⟩
  obtain ⟨more, hmore⟩ := grows rest ("ObjectId" ++ "." ++ segment)
  exact ⟨segment.toList ++ more, by simpa [type] using hmore⟩

/-- The type of the term admits the operator. -/
def Admits (t : ResolvedTerm) (operator : Operator) : Prop :=
  ∃ allowed, t.type.operators? = some allowed ∧ operator ∈ allowed

/-- Only what a lookup refers to is filtered by its identifier. -/
theorem type_of_isIdentifier {t : ResolvedTerm} {operator : Operator} (admits : t.Admits operator)
    (h : t.isIdentifier = true) : t.type = "lookup._id" := by
  obtain ⟨allowed, hallowed, _⟩ := admits
  have hbelow : t.below = ["_id"] := by simpa [isIdentifier] using h
  have hends : "._id".toList <:+ t.type.toList := by
    refine ⟨t.fieldType.toList, ?_⟩
    simp [type, hbelow]
  have hlookup : ∀ s ∈ TermType.filterable, "._id".toList <:+ s.toList → s = "lookup._id" := by
    decide
  exact hlookup _ (TermType.mem_filterable hallowed) hends

end ResolvedTerm

namespace Condition

/-- The term is not empty and leads to a field or below it. -/
structure Leads (ctx : FilterContext) (document : DocumentType) (term : String)
    (resolved : ResolvedTerm) : Prop where
  named : term.isEmpty = false
  resolves : Term.resolve ctx.registry document (Term.normalize term) = .ok resolved

theorem Leads.unique {ctx : FilterContext} {document : DocumentType} {term : String}
    {a b : ResolvedTerm} (ha : Leads ctx document term a) (hb : Leads ctx document term b) :
    a = b :=
  Except.ok.inj (ha.resolves.symm.trans hb.resolves)

/-- The operator may be used with the term. -/
def Allows (ctx : FilterContext) (document : DocumentType) (term : String) (operator : Operator) :
    Prop :=
  ∃ resolved, Leads ctx document term resolved ∧ resolved.Admits operator

/-- Where a term leads to a type that admits the operator, only the value may be refused. -/
theorem compile_eq_map {ctx : FilterContext} {document : DocumentType} {c : Condition}
    {resolved : ResolvedTerm} {operator : Operator} {raw : Value}
    (leads : Leads ctx document c.term resolved) (admits : resolved.Admits operator)
    (hoperator : Operator.ofName? c.operator = some operator) (hraw : c.value = some raw) :
    c.compile ctx document
      = (clause ctx operator (Term.normalize c.term) resolved raw).map
          (invert (Term.normalize c.term) c.inverted) := by
  obtain ⟨allowed, hallowed, hmem⟩ := admits
  have hmem : allowed.contains operator = true := by simpa using hmem
  rw [compile, hoperator, hraw, leads.named]
  simp only [leads.resolves, bind, Except.bind, hallowed, hmem, Bool.not_true, Bool.false_eq_true,
    ↓reduceIte]
  cases clause ctx operator (Term.normalize c.term) resolved raw <;> rfl

/-- Everything that has to succeed before a condition is compiled. -/
theorem leads_of_compile {ctx : FilterContext} {document : DocumentType} {c : Condition}
    {compiled : CompiledCondition} (h : c.compile ctx document = .ok compiled) :
    ∃ operator raw resolved made,
      Operator.ofName? c.operator = some operator ∧ c.value = some raw ∧
      Leads ctx document c.term resolved ∧ resolved.Admits operator ∧
      clause ctx operator (Term.normalize c.term) resolved raw = .ok made ∧
      compiled = invert (Term.normalize c.term) c.inverted made := by
  rw [compile] at h
  split at h
  · rename_i operator raw hoperator hraw hnamed
    obtain ⟨resolved, hresolved, h⟩ := bind_eq_ok_iff.mp h
    cases hallowed : resolved.type.operators? with
    | none => simp [hallowed] at h
    | some allowed =>
      simp only [hallowed] at h
      split at h
      · simp at h
      · rename_i hmem
        obtain ⟨made, hmade, h⟩ := bind_eq_ok_iff.mp h
        have hmem : operator ∈ allowed := by simpa using hmem
        exact ⟨operator, raw, resolved, made, hoperator, hraw, ⟨hnamed, hresolved⟩,
          ⟨allowed, hallowed, hmem⟩, hmade, (Except.ok.inj h).symm⟩
  · simp at h

theorem compile_eq_ok {ctx : FilterContext} {document : DocumentType} {c : Condition}
    {compiled : CompiledCondition} (h : c.compile ctx document = .ok compiled) :
    ∃ operator raw resolved made,
      Operator.ofName? c.operator = some operator ∧ c.value = some raw ∧
      Term.resolve ctx.registry document (Term.normalize c.term) = .ok resolved ∧
      (∃ allowed, resolved.type.operators? = some allowed ∧ operator ∈ allowed) ∧
      clause ctx operator (Term.normalize c.term) resolved raw = .ok made ∧
      compiled = invert (Term.normalize c.term) c.inverted made := by
  obtain ⟨operator, raw, resolved, made, hoperator, hraw, leads, admits, hmade, heq⟩ :=
    leads_of_compile h
  exact ⟨operator, raw, resolved, made, hoperator, hraw, leads.resolves, admits, hmade, heq⟩

@[simp]
theorem invert_term (term : String) (inverted : Bool) (made : Option Clause) :
    (invert term inverted made).term = term := by
  unfold invert
  split
  · split <;> rfl
  · rfl

theorem compile_term {ctx : FilterContext} {document : DocumentType} {c : Condition}
    {compiled : CompiledCondition} (h : c.compile ctx document = .ok compiled) :
    compiled.term = Term.normalize c.term := by
  obtain ⟨_, _, _, _, _, _, _, _, _, rfl⟩ := compile_eq_ok h
  exact invert_term _ _ _

/-- A condition that begins with the identifier looks at nothing below it. -/
theorem below_of_compile {ctx : FilterContext} {document : DocumentType} {c : Condition}
    {cc : CompiledCondition} (h : c.compile ctx document = .ok cc)
    (hid : Path.root cc.term = "_id") : Path.below cc.term = [] := by
  obtain ⟨_, _, resolved, _, _, _, hresolved, ⟨allowed, hallowed, _⟩, _, _⟩ := compile_eq_ok h
  rw [← compile_term h, Term.resolve, Path.ofText_eq] at hresolved
  simp only [hid, ↓reduceIte] at hresolved
  obtain rfl := Except.ok.inj hresolved
  cases hbelow : Path.below cc.term with
  | nil => rfl
  | cons segment rest =>
    obtain ⟨more, hmore⟩ := ResolvedTerm.type_below_identifier segment rest
    rw [hbelow, hmore, TermType.operators?_below_identifier] at hallowed
    simp at hallowed

end Condition

namespace Term

/-- A term begins with the identifier or with a field of the document. -/
theorem root_of_resolve {registry : Registry} {document : DocumentType} {term : String}
    {resolved : ResolvedTerm} (h : resolve registry document term = .ok resolved) :
    Path.root term = "_id" ∨ Path.root term ∈ Fields.names document.fields := by
  rw [resolve, Path.ofText_eq] at h
  by_cases hid : Path.root term = "_id"
  · exact .inl hid
  · right
    simp only [hid, ↓reduceIte] at h
    cases hfield : document.field? (Path.root term) with
    | none => simp [hfield] at h
    | some field =>
      rw [Fields.mem_names_iff, Fields.contains_eq_isSome]
      rw [DocumentType.field?] at hfield
      simp [hfield]

end Term

namespace CompiledFilter

mutual
/-- The conditions of a compiled filter, in order. -/
def conditions : CompiledFilter → List CompiledCondition
  | always => []
  | condition c => [c]
  | all parts => conditionsOfList parts
  | any parts => conditionsOfList parts

def conditionsOfList : List CompiledFilter → List CompiledCondition
  | [] => []
  | part :: rest => conditions part ++ conditionsOfList rest
end

theorem conditionsOfList_append (a b : List CompiledFilter) :
    conditionsOfList (a ++ b) = conditionsOfList a ++ conditionsOfList b := by
  induction a with
  | nil => rfl
  | cons part rest ih => simp [conditionsOfList, ih]

@[simp]
theorem conditions_combine (combination : Combination) (parts : List CompiledFilter) :
    (combine combination parts).conditions = conditionsOfList parts := by
  match parts with
  | [] => rfl
  | [part] => simp [combine, conditionsOfList]
  | first :: second :: rest => cases combination <;> rfl

end CompiledFilter

namespace Filter

theorem compileConditions_sound {ctx : FilterContext} {document : DocumentType} :
    ∀ {cs : List Condition} {parts : List CompiledFilter},
      compileConditions ctx document cs = .ok parts →
      ∀ compiled ∈ CompiledFilter.conditionsOfList parts,
        ∃ c ∈ cs, c.compile ctx document = .ok compiled
  | [], parts, h, compiled, hmem => by
    simp only [compileConditions, Except.ok.injEq] at h
    subst h
    simp [CompiledFilter.conditionsOfList] at hmem
  | c :: rest, parts, h, compiled, hmem => by
    obtain ⟨first, hfirst, h⟩ := bind_eq_ok_iff.mp h
    obtain ⟨others, hothers, h⟩ := bind_eq_ok_iff.mp h
    obtain rfl := Except.ok.inj h
    simp only [CompiledFilter.conditionsOfList, CompiledFilter.conditions, List.singleton_append,
      List.mem_cons] at hmem
    rcases hmem with rfl | hmem
    · exact ⟨c, List.mem_cons_self, hfirst⟩
    · obtain ⟨d, hd, hcompiled⟩ := compileConditions_sound hothers compiled hmem
      exact ⟨d, List.mem_cons_of_mem _ hd, hcompiled⟩

mutual
/-- The conditions that count: those that are not disabled themselves nor by a part around them. -/
def activeConditions : Filter → List Condition
  | ⟨_, parts, conditions, _, _⟩ => activeOfParts parts ++ conditions.active

def activeOfParts : List Filter → List Condition
  | [] => []
  | f :: rest => (if f.disabled then [] else activeConditions f) ++ activeOfParts rest
end

mutual
/-- Each condition of a compiled filter is an active one, compiled on its own. -/
theorem compile_conditions {ctx : FilterContext} {document : DocumentType} :
    ∀ (f : Filter) {compiled : CompiledFilter}, f.compile ctx document = .ok compiled →
      ∀ cc ∈ compiled.conditions, ∃ c ∈ f.activeConditions, c.compile ctx document = .ok cc
  | ⟨combination, parts, conditions, _, _⟩, compiled, h, cc, hmem => by
    rw [compile] at h
    obtain ⟨made, hmade, h⟩ := bind_eq_ok_iff.mp h
    obtain ⟨own, hown, h⟩ := bind_eq_ok_iff.mp h
    obtain rfl := Except.ok.inj h
    rw [CompiledFilter.conditions_combine, CompiledFilter.conditionsOfList_append,
      List.mem_append] at hmem
    rw [activeConditions]
    rcases hmem with hmem | hmem
    · obtain ⟨c, hactive, hc⟩ := compileParts_conditions parts hmade cc hmem
      exact ⟨c, List.mem_append_left _ hactive, hc⟩
    · obtain ⟨c, hactive, hc⟩ := compileConditions_sound hown cc hmem
      exact ⟨c, List.mem_append_right _ hactive, hc⟩

theorem compileParts_conditions {ctx : FilterContext} {document : DocumentType} :
    ∀ (fs : List Filter) {parts : List CompiledFilter}, compileParts ctx document fs = .ok parts →
      ∀ cc ∈ CompiledFilter.conditionsOfList parts,
        ∃ c ∈ activeOfParts fs, c.compile ctx document = .ok cc
  | [], parts, h, cc, hmem => by
    simp only [compileParts, Except.ok.injEq] at h
    subst h
    simp [CompiledFilter.conditionsOfList] at hmem
  | f :: rest, parts, h, cc, hmem => by
    rw [compileParts] at h
    rw [activeOfParts]
    cases hdisabled : f.disabled with
    | true =>
      rw [if_pos hdisabled] at h
      simpa using compileParts_conditions rest h cc hmem
    | false =>
      rw [if_neg (by simp [hdisabled])] at h
      obtain ⟨first, hfirst, h⟩ := bind_eq_ok_iff.mp h
      obtain ⟨others, hothers, h⟩ := bind_eq_ok_iff.mp h
      obtain rfl := Except.ok.inj h
      simp only [CompiledFilter.conditionsOfList, List.mem_append] at hmem
      rcases hmem with hmem | hmem
      · obtain ⟨c, hactive, hc⟩ := compile_conditions f hfirst cc hmem
        exact ⟨c, by simp [hactive], hc⟩
      · obtain ⟨c, hactive, hc⟩ := compileParts_conditions rest hothers cc hmem
        exact ⟨c, by simp [hactive], hc⟩
end

/-- What counts among parts is what counts in one that is not disabled. -/
theorem mem_activeOfParts {fs : List Filter} {c : Condition} :
    c ∈ activeOfParts fs ↔ ∃ f ∈ fs, f.disabled = false ∧ c ∈ f.activeConditions := by
  induction fs with
  | nil => simp [activeOfParts]
  | cons f rest ih =>
    rw [activeOfParts, List.mem_append, ih]
    cases hdisabled : f.disabled <;> simp [hdisabled]

end Filter

end RecordQuery
