import RecordQuery.Proofs.Access.Masking
import RecordQuery.Proofs.Filter.Ignores
import RecordQuery.Proofs.Find.Confinement
import RecordQuery.Proofs.Find.RowFilters

/-!
# Hidden fields tell nothing

A read that neither filters, sorts nor guards by a hidden field gives the same records and the same
number of them whatever that field holds. The field is there while the store selects and while masks
are applied, so both must not look at it; it is gone before anything else sees the record.
-/

namespace RecordQuery

namespace Access

section
variable {profile : Profile} {document : DocumentType} {requested : NameSet} {ctx : FilterContext}
  {a : AccessProjection} {cs : List ConditionedField} {s : Selection} {name : String}

/-- A hidden field is not projected, unless as a helper. -/
theorem Projects.helper_or_absent (h : Projects profile document requested ctx a cs s)
    (hidden : name ∈ unreadable profile document) (notId : name ≠ "_id")
    (plain : '.' ∉ name.toList) :
    name ∈ a.helpers ∨ ∀ r, Fields.get? (a.projection.apply r) name = none := by
  by_cases everything : requested = []
  · obtain ⟨selection, hprojection⟩ := h.everything everything
    rcases selection.covered name (NameSet.mem_ofList.mpr hidden) with hpath | hhelper
    · right
      intro r
      have hpaths : s.paths.isEmpty = false := by
        cases hs : s.paths with
        | nil => simp [hs] at hpath
        | cons first rest => rfl
      rw [hprojection, hpaths]
      exact Projection.get?_apply_except_of_mem hpath plain r
    · exact .inl (h.helpers ▸ hhelper)
  · by_cases hhelper : name ∈ a.helpers
    · exact .inl hhelper
    · right
      intro r
      cases hget : Fields.get? (a.projection.apply r) name with
      | none => rfl
      | some v =>
        have shown : Fields.contains (a.projection.apply r) name = true := by
          simp [Fields.contains_eq_isSome, hget]
        rcases h.contains_of_list everything shown with hid | hmem | ⟨path, hpath, hroot⟩
        · exact absurd hid notId
        · exact absurd hmem hhelper
        · exact absurd (hroot ▸ hidden) (mem_allowed.mp hpath).2

end

end Access

namespace AccessProjection

variable {name : String} {r s : Record}

/-- Masking looks at other fields than this one. -/
def MasksApart (a : AccessProjection) (name : String) : Prop :=
  ∀ entry ∈ a.conditions, entry.1 ≠ name ∧
    ∀ r s, Record.EqualBut name r s → entry.2 r = entry.2 s

theorem denied_congr {conditions : Fields RecordTest}
    (apart : ∀ entry ∈ conditions, entry.1 ≠ name ∧
      ∀ r s, Record.EqualBut name r s → entry.2 r = entry.2 s)
    (h : Record.EqualBut name r s) : denied r conditions = denied s conditions := by
  induction conditions with
  | nil => rfl
  | cons entry rest ih =>
    obtain ⟨field, test⟩ := entry
    obtain ⟨hfield, htest⟩ := apart (field, test) List.mem_cons_self
    have htest : test r = test s := htest r s h
    rw [denied, denied, h.contains hfield, htest,
      ih fun other hother => apart other (List.mem_cons_of_mem _ hother)]

/-- Two records on their way through the stages: they differ in a field that will not be shown. -/
structure OnlyHidden (a : AccessProjection) (name : String) (r s : Record) : Prop where
  equal : Record.EqualBut name r s
  gone : name ∈ a.helpers ∨ Fields.get? r name = none ∧ Fields.get? s name = none

theorem MasksApart.mask {a : AccessProjection} (apart : a.MasksApart name)
    (h : a.OnlyHidden name r s) : SameOutcome (a.OnlyHidden name) (a.mask r) (a.mask s) := by
  rw [AccessProjection.mask, AccessProjection.mask, denied_congr apart h.equal]
  refine .after _ fun fields _ => .succeeded ⟨h.equal.foldl_erase fields, ?_⟩
  refine h.gone.imp_right fun absent => ?_
  rw [Fields.get?_foldl_erase, Fields.get?_foldl_erase, absent.1, absent.2, ite_self]
  exact ⟨rfl, rfl⟩

theorem OnlyHidden.alike {a : AccessProjection} (h : a.OnlyHidden name r s) :
    (a.stripHelpers r).Alike (a.stripHelpers s) := by
  refine (h.equal.foldl_erase a.helpers).alike ?_ ?_
  · rw [Fields.get?_foldl_erase]
    split
    · rfl
    · rename_i hhelper
      exact (h.gone.resolve_left hhelper).1
  · rw [Fields.get?_foldl_erase]
    split
    · rfl
    · rename_i hhelper
      exact (h.gone.resolve_left hhelper).2

end AccessProjection

namespace RecordStream

/-- The same records as maps, in the same order, and the same end. -/
structure Alike (a b : RecordStream) : Prop where
  records : List.Forall₂ Record.Alike a.records b.records
  failure : a.failure = b.failure

theorem alike_ofCursor {stages : List Stage} {rs ss : List Record}
    (h : List.Forall₂
      (fun r s => SameOutcome Record.Alike (Stage.run stages r) (Stage.run stages s)) rs ss) :
    Alike (ofCursor stages (rs.map .ok)) (ofCursor stages (ss.map .ok)) := by
  induction h with
  | nil => exact ⟨.nil, rfl⟩
  | @cons r s rs ss first rest ih =>
    rw [List.map_cons, List.map_cons, ofCursor, ofCursor]
    generalize Stage.run stages r = left at first ⊢
    generalize Stage.run stages s = right at first ⊢
    cases first with
    | failed e => exact ⟨.nil, rfl⟩
    | succeeded h => exact ⟨.cons h ih.records, ih.failure⟩

end RecordStream

/-- The same records as maps, in the same order, with the same total. -/
structure FindStream.Alike (a b : FindStream) : Prop where
  stream : a.stream.Alike b.stream
  total : a.total = b.total

namespace QueryEngine

/-- The field is hidden from the caller: declared, not the identifier, and not readable. -/
structure Hides (profile : Profile) (document : DocumentType) (name : String) : Prop where
  declared : name ∈ Fields.names document.fields
  unreadable : (profile.field name).allowed.read = false
  plain : '.' ∉ name.toList
  notId : name ≠ "_id"

/-- Nothing that the read of a profile evaluates begins with the field. A term that begins with the
name of a combination could lead there as well, since the store reads its literal as queries. -/
structure LeavesOut (registry : Registry) (profile : Profile) (document : DocumentType)
    (request : FindRequest) (name : String) : Prop where
  filters : ∀ f ∈ rowFilters registry profile request, ∀ c ∈ f.activeConditions,
    ∀ other ∈ [name, "$and", "$or"], Path.root c.term ≠ other
  guards : ∀ field c, (profile.field field).conditions.read = some c → Path.root c.term ≠ name
  order : ∀ spec keys, request.sort = some spec → SortSpec.read spec document = .ok keys →
    ∀ key ∈ keys, Path.root key.field ≠ name

section
variable {registry : Registry} {profile : Profile} {document : DocumentType}
  {request : FindRequest} {name : String}

/-- What the store reads from the plan's query does not look at the field. -/
theorem LeavesOut.query (h : LeavesOut registry profile document request name)
    (noSearch : request.filter.bind (·.search) = none) {ctx : FilterContext}
    (hctx : ctx.registry = registry) {query : Value}
    (hquery : compileQuery ctx profile document request = .ok query) {p : Predicate}
    (hread : Query.read query = .ok p) : p.Ignores name := by
  obtain ⟨whole, hwhole, hquery⟩ := bind_eq_ok_iff.mp hquery
  obtain ⟨compiled, hcompiled, hwhole⟩ := bind_eq_ok_iff.mp hwhole
  obtain rfl : compiled.toQuery = whole := Except.ok.inj hwhole
  rw [noSearch] at hquery
  obtain rfl := Except.ok.inj hquery
  refine CompiledFilter.ignores_of_read compiled (fun cc hcc => ?_) hread
  obtain ⟨c, hactive, hc⟩ := Filter.compile_conditions _ hcompiled cc hcc
  rw [Filter.allOf, Filter.activeConditions, List.mem_append] at hactive
  have hactive := hactive.resolve_right
    (by simp [Filter.trivial, Conditions.active, Conditions.toList])
  obtain ⟨f, hf, henabled, hmem⟩ := Filter.mem_activeOfParts.mp hactive
  refine Condition.compile_avoids hc (h.filters f ?_ c hmem)
  rw [← hctx]
  exact List.mem_filter.mpr ⟨hf, by simp [henabled]⟩

/-- The masks of the read look at other fields. -/
theorem LeavesOut.masksApart (h : LeavesOut registry profile document request name)
    (hides : Hides profile document name) {requested : NameSet} {ctx : FilterContext}
    {a : AccessProjection} (ha : Access.project profile document requested ctx = .ok a) :
    a.MasksApart name := by
  obtain ⟨cs, s, projects⟩ := Access.project_eq_ok ha
  intro entry hentry
  obtain ⟨field, hfield, rfl⟩ := projects.entries entry hentry
  obtain ⟨cc, guards⟩ := projects.guards field hfield
  obtain ⟨c, hcondition, hcompiled⟩ := guards.compiled
  refine ⟨?_, fun r s hrs => ?_⟩
  · rintro rfl
    exact absurd (guards.readable.symm.trans hides.unreadable) (by simp)
  · have apart : Path.root cc.term ≠ name := by
      rw [Condition.compile_term hcompiled, Term.root_normalize]
      exact h.guards field.name c hcondition
    rw [guards.test]
    exact congrArg Except.ok (CompiledCondition.ignores_toPredicate apart r s hrs)

/-- The stages that look into no store. -/
def ownStages (built : BuiltQuery) (request : FindRequest) : List Stage :=
  Stage.mask built.access :: Stage.stripHelpers built.access ::
    if request.datesToText then [Stage.normalizeDates] else []

theorem stages_of_noLookups (engine : QueryEngine) (built : BuiltQuery)
    (noDetails : request.withDetails = false) (noLookups : request.lookups = []) :
    engine.stages built request = ownStages built request := by
  simp [stages, ownStages, noDetails, noLookups]

/-- Two projected records that differ in the hidden field leave the stages alike. -/
theorem run_stages_alike (request : FindRequest) {built : BuiltQuery} {r s : Record}
    (apart : built.access.MasksApart name) (h : built.access.OnlyHidden name r s) :
    SameOutcome Record.Alike (Stage.run (ownStages built request) r)
      (Stage.run (ownStages built request) s) := by
  refine ((apart.mask h).mapError _).bind fun r s masked => ?_
  refine SameOutcome.bind (.succeeded masked.alike) fun r s stripped => ?_
  cases request.datesToText with
  | false => exact .succeeded stripped
  | true => exact .succeeded stripped.normalizeDates

/-- The order of the plan looks at other fields, by whatever it was chosen. -/
theorem LeavesOut.sort {engine : QueryEngine} {built : BuiltQuery}
    (h : LeavesOut registry profile built.document request name)
    (settled : Settled engine request built profile) (notId : name ≠ "_id") :
    ∀ key ∈ built.plan.sort, Path.root key.field ≠ name := by
  intro key hkey
  rcases settled.order with hid | hnone | ⟨spec, hspec, hread⟩
  · rw [hid] at hkey
    rw [List.mem_singleton.mp hkey, Path.root_of_plain (by decide)]
    exact notId.symm
  · simp [hnone] at hkey
  · exact h.order spec _ hspec hread key hkey

/-- What is projected of two records that differ in a hidden field differs in a field that will not
be shown. -/
theorem Settled.onlyHidden {engine : QueryEngine} {built : BuiltQuery}
    (settled : Settled engine request built profile) (hides : Hides profile built.document name)
    {r s : Record} (h : Record.EqualBut name r s) : built.access.OnlyHidden name
      (built.plan.projection.apply r) (built.plan.projection.apply s) := by
  obtain ⟨cs, selection, projects⟩ := Access.project_eq_ok settled.access
  have absent := projects.helper_or_absent
    (Access.mem_unreadable.mpr ⟨hides.declared, hides.unreadable⟩) hides.notId hides.plain
  rw [settled.projection]
  exact ⟨h.apply _, absent.imp_right fun gone => ⟨gone r, gone s⟩⟩

/-- A hidden field that a read leaves out tells nothing. Two memories whose records of the document
differ in that field alone give the same records as maps, in the same order, and the same total. -/
theorem find_alike (engine : QueryEngine) (request : FindRequest) (name : String) (m m' : Memory)
    (noDetails : request.withDetails = false) (noLookups : request.lookups = [])
    (noSearch : request.filter.bind (·.search) = none)
    (unseen : ∀ user profile document, engine.resolver request.token = .ok user →
      Access.profileFor? request.document user engine.registry = some profile →
      engine.registry.document? request.document = some document →
      Hides profile document name ∧ LeavesOut engine.registry profile document request name)
    (equal : Memory.EqualBut name request.document m m') :
    SameOutcome FindStream.Alike ({ engine with store := m.store }.find request)
      ({ engine with store := m'.store }.find request) := by
  have same : { engine with store := m.store }.build request
      = { engine with store := m'.store }.build request := rfl
  rw [find, find, ← same]
  refine .after _ fun built hbuilt => ?_
  obtain ⟨profile, settled⟩ := build_eq_ok hbuilt
  obtain ⟨hides, leavesOut⟩ := unseen _ _ _ settled.caller settled.granted settled.document
  have masks := leavesOut.masksApart hides settled.access
  rw [openStream, openStream, stages_of_noLookups _ built noDetails noLookups,
    stages_of_noLookups _ built noDetails noLookups]
  change SameOutcome _
    ((m.find request.document built.plan).mapError _ >>= _)
    ((m'.find request.document built.plan).mapError _ >>= _)
  cases hread : Query.read built.plan.query with
  | error e =>
    rw [Memory.find, Memory.find, hread]
    exact .failed _
  | ok p =>
    have ignores : p.Ignores name := leavesOut.query noSearch rfl settled.query hread
    have selected := equal.select ignores (leavesOut.sort settled hides.notId)
    have streamed := selected.imp fun r s hrs =>
      run_stages_alike request masks (settled.onlyHidden hides hrs)
    rw [Memory.find_of_read hread, Memory.find_of_read hread]
    refine .succeeded ⟨RecordStream.alike_ofCursor ?_, ?_⟩
    · rw [List.forall₂_map_left_iff, List.forall₂_map_right_iff]
      exact streamed
    · change (if request.withTotal then some (m.count request.document built.plan.query) else none)
        = if request.withTotal then some (m'.count request.document built.plan.query) else none
      rw [equal.count hread ignores]

end

end QueryEngine

namespace Deals

/-- The owner is hidden, and notes may be read unless they are one text. -/
def ownerless : Profile where
  document := ⟨true, false, false, false⟩
  fieldDefaults := ⟨true, false, false, false⟩
  fields :=
    [("notes", ⟨some ⟨some true, some (Condition.new "notes" "not_equals" (.str "late"))⟩, none,
      none, none⟩), ("owner", ⟨some ⟨some false, none⟩, none, none, none⟩)]
  readFilter := none

/-- Deals with notes, counted and in the order of their notes. -/
def noted : FindRequest :=
  { FindRequest.new "Deal" with
    filter := some (.ofConditions .and [Condition.new "notes" "exists" (.bool true)])
    sort := some (.obj [("notes", .str "asc")])
    withTotal := true }

def ownedBy (owner : Value) : Memory :=
  [("Deal", [[("_id", .str "d1"), ("owner", owner), ("notes", .str "call")],
    [("_id", .str "d2"), ("notes", .str "ask"), ("owner", owner)]])]

theorem hides_ownerless : QueryEngine.Hides ownerless document "owner" where
  declared := by decide
  unreadable := rfl
  plain := by decide
  notId := by decide

theorem leavesOut_ownerless :
    QueryEngine.LeavesOut (engine ownerless (Memory.store [])).registry ownerless document noted
      "owner" where
  filters := by
    have applied : QueryEngine.rowFilters (engine ownerless (Memory.store [])).registry ownerless
      noted = [.ofConditions .and [Condition.new "notes" "exists" (.bool true)]] := rfl
    rw [applied]
    decide
  guards := by
    intro field c hcondition
    have guard : (ownerless.field field).conditions.read
        = ((Fields.get? ownerless.fields field).bind (·.read)).bind (·.condition) := rfl
    rw [guard, ownerless, Fields.get?_cons, Fields.get?_cons] at hcondition
    split at hcondition
    · obtain rfl := Option.some.inj hcondition
      decide
    · split at hcondition
      · cases hcondition
      · cases hcondition
  order := by
    intro spec keys hspec hread
    obtain rfl := Option.some.inj hspec
    have read : (SortSpec.read (.obj [("notes", .str "asc")]) document).toOption
        = some [⟨"notes", .ascending⟩] := by decide +kernel
    obtain rfl := Except.ok.inj ((toOption_eq_some_iff.mp read).symm.trans hread)
    decide

theorem equalBut_ownedBy (owner other : Value) :
    (ownedBy owner).EqualBut "owner" "Deal" (ownedBy other) := by
  have first : Record.EqualBut "owner"
      [("_id", .str "d1"), ("owner", owner), ("notes", .str "call")]
      [("_id", .str "d1"), ("owner", other), ("notes", .str "call")] := by
    intro name hname
    simp [Fields.get?_cons, Ne.symm hname]
  have second : Record.EqualBut "owner"
      [("_id", .str "d2"), ("notes", .str "ask"), ("owner", owner)]
      [("_id", .str "d2"), ("notes", .str "ask"), ("owner", other)] := by
    intro name hname
    simp [Fields.get?_cons, Ne.symm hname]
  exact .cons first (.cons second .nil)

end Deals

/-- Two callers see the same deals, whoever owns them. -/
theorem QueryEngine.find_alike_noted :
    Deals.noted.withDetails = false ∧ Deals.noted.lookups = [] ∧
    Deals.noted.filter.bind (·.search) = none ∧
    SameOutcome FindStream.Alike
      ((Deals.engine Deals.ownerless (Deals.ownedBy (.str "u2")).store).find Deals.noted)
      ((Deals.engine Deals.ownerless (Deals.ownedBy .null).store).find Deals.noted) ∧
    (((Deals.engine Deals.ownerless (Deals.ownedBy .null).store).find Deals.noted).toOption.bind
      (·.total)).bind (·.toOption) = some 2 := by
  refine ⟨rfl, rfl, rfl, ?_, by decide +kernel⟩
  refine find_alike (Deals.engine Deals.ownerless (Memory.store [])) Deals.noted "owner" _ _ rfl rfl
    rfl ?_ (Deals.equalBut_ownedBy _ _)
  intro user profile document hcaller hgranted hdocument
  obtain rfl : User.new "u1" = user := Except.ok.inj hcaller
  obtain rfl : Deals.ownerless = profile := Option.some.inj hgranted
  obtain rfl : Deals.document = document := Option.some.inj hdocument
  exact ⟨Deals.hides_ownerless, Deals.leavesOut_ownerless⟩

namespace Deals

/-- A document with a field whose name the store takes for a combination; notes are hidden. -/
def choices : DocumentType := ⟨"Deal", [], [("$or", textField "$or"), ("notes", textField "notes")]⟩

def noteless : Profile where
  document := ⟨true, false, false, false⟩
  fieldDefaults := ⟨true, false, false, false⟩
  fields := [("notes", ⟨some ⟨some false, none⟩, none, none, none⟩)]
  readFilter := none

def choiceEngine (store : Store) : QueryEngine :=
  ⟨⟨[("Deal", choices)], [("Default:access:Default", noteless)], []⟩, store,
    fun _ => .ok (User.new "u1"), .standard, ⟨0, 0⟩⟩

/-- The literal is a list of records, which the store reads as queries on the notes. -/
def chosen : FindRequest :=
  { FindRequest.new "Deal" with
    filter := some (.ofConditions .and
      [Condition.new "$or" "equals" (.arr [.obj [("notes", .str "x")]])]) }

def notedAs (notes : String) : Memory :=
  [("Deal", [[("_id", .str "d1"), ("notes", .str notes)]])]

end Deals

/-- A term that begins with the name of a combination leads to a hidden field, though no term, guard
or sort key begins with that field. -/
theorem QueryEngine.find_tells_choices :
    Deals.chosen.withDetails = false ∧ Deals.chosen.lookups = [] ∧
    Deals.chosen.filter.bind (·.search) = none ∧ Deals.chosen.sort = none ∧
    Access.profileFor? "Deal" (User.new "u1") (Deals.choiceEngine (Memory.store [])).registry
      = some Deals.noteless ∧
    Hides Deals.noteless Deals.choices "notes" ∧
    (∀ f ∈ rowFilters (Deals.choiceEngine (Memory.store [])).registry Deals.noteless Deals.chosen,
      ∀ c ∈ f.activeConditions, Path.root c.term ≠ "notes") ∧
    (∀ field, (Deals.noteless.field field).conditions.read = none) ∧
    (Deals.notedAs "x").EqualBut "notes" "Deal" (Deals.notedAs "y") ∧
    ¬ SameOutcome FindStream.Alike
      ((Deals.choiceEngine (Deals.notedAs "x").store).find Deals.chosen)
      ((Deals.choiceEngine (Deals.notedAs "y").store).find Deals.chosen) := by
  refine ⟨rfl, rfl, rfl, rfl, rfl, ⟨by decide, rfl, by decide, by decide⟩, ?_, ?_, ?_, ?_⟩
  · have applied : rowFilters (Deals.choiceEngine (Memory.store [])).registry Deals.noteless
        Deals.chosen = [.ofConditions .and
          [Condition.new "$or" "equals" (.arr [.obj [("notes", .str "x")]])]] := rfl
    rw [applied]
    decide
  · intro field
    have guard : (Deals.noteless.field field).conditions.read
        = ((Fields.get? Deals.noteless.fields field).bind (·.read)).bind (·.condition) := rfl
    rw [guard, Deals.noteless, Fields.get?_cons]
    split <;> rfl
  · refine .cons (fun name hname => ?_) .nil
    simp [Fields.get?_cons, Ne.symm hname]
  · intro same
    have left : (((Deals.choiceEngine (Deals.notedAs "x").store).find Deals.chosen).toOption.map
        (·.stream.records.length)) = some 1 := by decide +kernel
    have right : (((Deals.choiceEngine (Deals.notedAs "y").store).find Deals.chosen).toOption.map
        (·.stream.records.length)) = some 0 := by decide +kernel
    generalize (Deals.choiceEngine (Deals.notedAs "x").store).find Deals.chosen = a at same left
    generalize (Deals.choiceEngine (Deals.notedAs "y").store).find Deals.chosen = b at same right
    cases same with
    | failed e => cases left
    | succeeded h =>
      have hlength := h.stream.records.length_eq
      simp only [Except.toOption, Option.map_some, Option.some.injEq] at left right
      omega

end RecordQuery
