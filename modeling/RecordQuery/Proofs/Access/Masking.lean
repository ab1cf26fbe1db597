import RecordQuery.Proofs.Access.Confinement
import RecordQuery.Proofs.Access.Decision
import RecordQuery.Proofs.Filter.Agreement

/-!
# Fields behind a condition

A readable field with a condition is shown exactly if the condition holds of the projected record.
That is what the stored record says if the projection covers the condition's term. A list of paths
need not cover it: a path below the field that the condition looks at cuts it.
-/

namespace RecordQuery

namespace AccessProjection

/-- A stored record as the caller sees it: projected, masked, and without helpers. -/
def view (a : AccessProjection) (r : Record) : Except ConditionError Record := do
  let masked ← a.mask (a.projection.apply r)
  return a.stripHelpers masked

/-- The caller sees the field of a stored record where it is projected, no helper, and the
condition holds of the stored record. -/
def MasksAsStored (a : AccessProjection) (field : String) (cc : CompiledCondition) : Prop :=
  ∀ r : Record, r.Distinct → ∃ shown, a.view r = .ok shown ∧
    (Fields.contains shown field = true ↔
      field ∉ a.helpers ∧ Fields.contains (a.projection.apply r) field = true ∧
        cc.toPredicate.holds r = true)

/-- Tests that always have an answer deny the fields that they fail. -/
theorem denied_eq_ok (r : Record) {conditions : Fields RecordTest}
    (answers : ∀ entry ∈ conditions, ∃ b, entry.2 r = .ok b) :
    ∃ fields, denied r conditions = .ok fields ∧
      ∀ name, name ∈ fields ↔
        Fields.contains r name = true ∧ ∃ entry ∈ conditions, entry.1 = name ∧
          entry.2 r = .ok false := by
  induction conditions with
  | nil => exact ⟨[], rfl, by simp⟩
  | cons first rest ih =>
    obtain ⟨field, test⟩ := first
    obtain ⟨others, hothers, hmem⟩ := ih fun entry hentry =>
      answers entry (List.mem_cons_of_mem _ hentry)
    obtain ⟨b, hb⟩ := answers (field, test) List.mem_cons_self
    have hb : test r = .ok b := hb
    rw [denied]
    cases hcontains : Fields.contains r field with
    | false =>
      refine ⟨others, by simpa using hothers, fun name => ?_⟩
      rw [hmem]
      refine and_congr_right fun hname => ?_
      have : field ≠ name := by
        rintro rfl
        simp [hcontains] at hname
      simp [this]
    | true =>
      refine ⟨if b then others else field :: others, ?_, fun name => ?_⟩
      · simp [hb, hothers, bind, Except.bind, pure, Except.pure]
      · cases b with
        | true => simp [hmem, hb]
        | false =>
          by_cases hname : field = name
          · simp [← hname, hcontains, hb]
          · simp [hmem, hname, Ne.symm hname]

/-- What the caller sees under each name of a stored record. -/
theorem get?_view (a : AccessProjection) {r : Record} {fields : List String}
    (h : denied (a.projection.apply r) a.conditions = .ok fields) :
    ∃ shown, a.view r = .ok shown ∧ ∀ name, Fields.get? shown name
      = if name ∈ a.helpers ∨ name ∈ fields then none
        else Fields.get? (a.projection.apply r) name := by
  have hmask : a.mask (a.projection.apply r)
      = .ok (fields.foldl Fields.erase (a.projection.apply r)) := by
    rw [mask, h]
    rfl
  refine ⟨_, bind_eq_ok_iff.mpr ⟨_, hmask, rfl⟩, fun name => ?_⟩
  rw [get?_stripHelpers, Fields.get?_foldl_erase]
  by_cases hhelper : name ∈ a.helpers
  · simp [hhelper]
  · simp [hhelper]

theorem view_eq_ok (a : AccessProjection) {r : Record} {fields : List String}
    (h : denied (a.projection.apply r) a.conditions = .ok fields) :
    ∃ shown, a.view r = .ok shown ∧
      ∀ name, Fields.contains shown name = true ↔
        name ∉ a.helpers ∧ name ∉ fields ∧ Fields.contains (a.projection.apply r) name = true := by
  obtain ⟨shown, hshown, hget⟩ := a.get?_view h
  refine ⟨shown, hshown, fun name => ?_⟩
  rw [Fields.contains_eq_isSome, Fields.contains_eq_isSome, hget]
  by_cases hgone : name ∈ a.helpers ∨ name ∈ fields
  · rw [if_pos hgone]
    rcases hgone with hhelper | hdenied
    · simp [hhelper]
    · simp [hdenied]
  · rw [if_neg hgone]
    simp [not_or.mp hgone]

end AccessProjection

namespace Access

variable {profile : Profile} {document : DocumentType} {requested : NameSet} {ctx : FilterContext}
  {a : AccessProjection} {cs : List ConditionedField} {s : Selection}

theorem Guards.eq_of_compile {field : ConditionedField} {c : Condition} {cc other : CompiledCondition}
    (h : Guards profile document ctx field other)
    (condition : (profile.field field.name).conditions.read = some c)
    (compiled : c.compile ctx document = .ok cc) : other = cc := by
  obtain ⟨c', hc', hother⟩ := h.compiled
  obtain rfl := Option.some.inj (condition.symm.trans hc')
  exact Except.ok.inj (hother.symm.trans compiled)

theorem Projects.tidy (h : Projects profile document requested ctx a cs s)
    (plain : document.DotFree) : a.projection.Tidy := by
  by_cases everything : requested = []
  · obtain ⟨selection, hprojection⟩ := h.everything everything
    rw [hprojection]
    split
    · trivial
    · intro name hname
      have := NameSet.mem_ofList.mp (selection.excluded name hname)
      exact plain name (mem_unreadable.mp this).1
  · obtain ⟨_, hprojection⟩ := h.list everything
    rw [hprojection]
    exact ⟨nodup_clearCollisions _, fun path hpath other hother hroot =>
      eq_of_mem_clearCollisions hother hpath hroot⟩

theorem Projects.entries (h : Projects profile document requested ctx a cs s) :
    ∀ entry ∈ a.conditions, ∃ field ∈ cs, entry = (field.name, field.test) := by
  intro entry hentry
  rw [h.conditions] at hentry
  by_cases everything : requested = []
  · obtain ⟨field, hfield, heq, _⟩ := (h.everything everything).1.served entry hentry
    exact ⟨field, hfield, heq⟩
  · obtain ⟨field, hfield, heq, _⟩ := (h.list everything).1.served entry hentry
    exact ⟨field, hfield, heq⟩

/-- A compiled condition has an answer for every record. -/
theorem Projects.answers (h : Projects profile document requested ctx a cs s) (r : Record) :
    ∀ entry ∈ a.conditions, ∃ b, entry.2 r = .ok b := by
  intro entry hentry
  obtain ⟨field, hfield, rfl⟩ := h.entries entry hentry
  obtain ⟨cc, guards⟩ := h.guards field hfield
  exact ⟨cc.toPredicate.holds r, by rw [guards.test]⟩

/-- A conditioned field that is shown and no helper has its condition checked. -/
theorem Projects.checks (h : Projects profile document requested ctx a cs s)
    {field : ConditionedField} (mem : field ∈ cs) (notId : field.name ≠ "_id")
    (notHelper : field.name ∉ a.helpers) {r : Record}
    (shown : Fields.contains (a.projection.apply r) field.name = true) :
    (field.name, field.test) ∈ a.conditions := by
  rw [h.conditions]
  by_cases everything : requested = []
  · obtain ⟨cc, guards⟩ := h.guards field mem
    refine (h.everything everything).1.complete field mem fun hhidden => ?_
    have := (mem_unreadable.mp (NameSet.mem_ofList.mp hhidden)).2
    simp [guards.readable] at this
  · refine (h.list everything).1.complete field mem ?_
    rcases h.contains_of_list everything shown with hid | hhelper | hpath
    · exact absurd hid notId
    · exact absurd hhelper notHelper
    · exact hpath

/-- The fields that masking takes away include a shown one exactly if its condition fails. -/
theorem Projects.mem_denied_iff (h : Projects profile document requested ctx a cs s)
    {field : ConditionedField} (mem : field ∈ cs) {c : Condition} {cc : CompiledCondition}
    (condition : (profile.field field.name).conditions.read = some c)
    (compiled : c.compile ctx document = .ok cc) (notId : field.name ≠ "_id")
    (notHelper : field.name ∉ a.helpers) (r : Record)
    (shown : Fields.contains (a.projection.apply r) field.name = true) {fields : List String}
    (denied : ∀ name, name ∈ fields ↔ Fields.contains (a.projection.apply r) name = true ∧
      ∃ entry ∈ a.conditions, entry.1 = name ∧ entry.2 (a.projection.apply r) = .ok false) :
    field.name ∈ fields ↔ cc.toPredicate.holds (a.projection.apply r) = false := by
  -- All entries of one name carry the same condition.
  have own : ∀ entry ∈ a.conditions, entry.1 = field.name →
      entry.2 (a.projection.apply r) = .ok (cc.toPredicate.holds (a.projection.apply r)) := by
    intro entry hentry hname
    obtain ⟨other, hother, rfl⟩ := h.entries entry hentry
    obtain ⟨occ, guards⟩ := h.guards other hother
    have hname : other.name = field.name := hname
    obtain rfl := guards.eq_of_compile (hname ▸ condition) compiled
    rw [guards.test]
  have hchecked := h.checks mem notId notHelper shown
  rw [denied]
  constructor
  · rintro ⟨_, entry, hentry, hname, hfails⟩
    rw [own entry hentry hname] at hfails
    exact Except.ok.inj hfails
  · intro hfails
    refine ⟨shown, _, hchecked, rfl, ?_⟩
    rw [own _ hchecked rfl, hfails]

/-- A field behind a condition is seen exactly where it is projected, no helper, and the condition
holds of the projected record. -/
theorem Projects.view_contains (h : Projects profile document requested ctx a cs s)
    {field : String} (notId : field ≠ "_id") {c : Condition} {cc : CompiledCondition}
    (declared : field ∈ Fields.names document.fields)
    (readable : (profile.field field).allowed.read = true)
    (condition : (profile.field field).conditions.read = some c)
    (compiled : c.compile ctx document = .ok cc) (r : Record) :
    ∃ shown, a.view r = .ok shown ∧
      (Fields.contains shown field = true ↔
        field ∉ a.helpers ∧ Fields.contains (a.projection.apply r) field = true ∧
          cc.toPredicate.holds (a.projection.apply r) = true) := by
  obtain ⟨fields, hdenied, hmem⟩ :=
    AccessProjection.denied_eq_ok (a.projection.apply r) (h.answers (a.projection.apply r))
  obtain ⟨shown, hshown, hcontains⟩ := a.view_eq_ok hdenied
  obtain ⟨self, hself, rfl⟩ := h.guarded field declared readable (by simp [condition])
  refine ⟨shown, hshown, ?_⟩
  rw [hcontains]
  refine and_congr_right fun notHelper => ?_
  rw [and_comm]
  refine and_congr_right fun hprojected => ?_
  rw [h.mem_denied_iff hself condition compiled notId notHelper r hprojected hmem,
    Bool.not_eq_false]

/-- Whole fields, or no list at all, leave a condition the field it looks at. -/
theorem Projects.covers (h : Projects profile document requested ctx a cs s) {field : String}
    {c : Condition} {cc : CompiledCondition}
    (condition : (profile.field field).conditions.read = some c)
    (compiled : c.compile ctx document = .ok cc) {test : RecordTest}
    (checked : (field, test) ∈ a.conditions) (notId : Path.root cc.term ≠ "_id")
    (notEmpty : Path.root cc.term ≠ "")
    (whole : ∀ path ∈ requested, Path.root path = Path.root cc.term → Path.root path = path) :
    a.projection.Covers cc.term := by
  have root : ∀ other ∈ cs, (field, test) = (other.name, other.test) →
      other.root = Path.root cc.term := by
    intro other hother heq
    obtain ⟨occ, guards⟩ := h.guards other hother
    obtain rfl : field = other.name := congrArg Prod.fst heq
    obtain rfl := guards.eq_of_compile condition compiled
    exact guards.root
  rw [h.conditions] at checked
  by_cases everything : requested = []
  · obtain ⟨selection, hprojection⟩ := h.everything everything
    obtain ⟨other, hother, heq, hserved⟩ := selection.served _ checked
    rw [root other hother heq] at hserved
    rw [hprojection]
    split
    · trivial
    · exact hserved.resolve_left notId
  · obtain ⟨selection, hprojection⟩ := h.list everything
    obtain ⟨other, hother, heq, hserved⟩ := selection.served _ checked
    rw [root other hother heq] at hserved
    obtain ⟨path, hpath, hroot⟩ := hserved.resolve_left notId
    have plain : ∀ p ∈ s.paths, Path.root p = Path.root cc.term → Path.root p = p := by
      intro p hp hproot
      rcases selection.sources p hp with hallowed | hhelper
      · exact whole p (mem_allowed.mp hallowed).1 hproot
      · exact selection.plain p hhelper
    have hself : Path.root cc.term ∈ s.paths := by
      rw [← hroot, plain path hpath hroot]
      exact hpath
    have hkept : Path.root cc.term ∈ clearCollisions s.paths := by
      refine mem_clearCollisions.mpr ⟨_, hself, notEmpty, ?_⟩
      rw [Path.root_root, ite_self]
    rw [hprojection]
    refine .inr ⟨_, hkept, ?_, ?_⟩
    · rw [Path.ofText_root, Path.ofText_eq cc.term]
      exact List.prefix_append [Path.root cc.term] (Path.below cc.term)
    · simp

/-- Where the projection decides the condition as the stored record does, masking goes by the
stored record. -/
theorem Projects.masksAsStored_iff (h : Projects profile document requested ctx a cs s)
    {field : String} (notId : field ≠ "_id") {c : Condition} {cc : CompiledCondition}
    (declared : field ∈ Fields.names document.fields)
    (readable : (profile.field field).allowed.read = true)
    (condition : (profile.field field).conditions.read = some c)
    (compiled : c.compile ctx document = .ok cc) :
    a.MasksAsStored field cc ↔ field ∈ a.helpers ∨ a.projection.Decides field cc := by
  constructor
  · intro masks
    by_cases hhelper : field ∈ a.helpers
    · exact .inl hhelper
    · refine .inr fun r hr hshown => ?_
      obtain ⟨out, hout, hstored⟩ := masks r hr
      obtain ⟨out', hout', hprojected⟩ :=
        h.view_contains notId declared readable condition compiled r
      obtain rfl := Except.ok.inj (hout.symm.trans hout')
      rw [hstored] at hprojected
      simp only [hhelper, hshown, not_false_eq_true, true_and] at hprojected
      exact (Bool.eq_iff_iff.mpr hprojected).symm
  · intro decided r hr
    obtain ⟨out, hout, hprojected⟩ :=
      h.view_contains notId declared readable condition compiled r
    refine ⟨out, hout, hprojected.trans ?_⟩
    refine and_congr_right fun notHelper => and_congr_right fun hshown => ?_
    rw [(decided.resolve_left notHelper) r hr hshown]

section
variable {field : String} {c : Condition}

/-- A field behind a condition is masked as the stored record says if and only if the projection
covers the condition's term, the condition never changes its answer, or it asks for presence of the
identifier or the field itself; or else the field is never shown. No part of the condition's field
is missing unless the caller asks for parts of it. -/
theorem project_masksAsStored_iff (h : project profile document requested ctx = .ok a)
    (plain : document.DotFree) (declared : field ∈ Fields.names document.fields)
    (notId : field ≠ "_id") (readable : (profile.field field).allowed.read = true)
    (condition : (profile.field field).conditions.read = some c) :
    ∃ cc, c.compile ctx document = .ok cc ∧
      (∀ r, ∃ shown, a.view r = .ok shown ∧
        (Fields.contains shown field = true ↔
          field ∉ a.helpers ∧ Fields.contains (a.projection.apply r) field = true ∧
            cc.toPredicate.holds (a.projection.apply r) = true)) ∧
      (a.MasksAsStored field cc ↔
        (field ∈ a.helpers ∨ ¬ a.projection.Shows field) ∨ a.projection.Covers cc.term ∨
          FieldTest.Unvarying cc.test ∨ a.projection.AsksForShown field cc) ∧
      (Path.root cc.term ≠ "_id" → Path.root cc.term ≠ "" →
        (∀ path ∈ requested, Path.root path = Path.root cc.term → Path.root path = path) →
        a.MasksAsStored field cc) := by
  obtain ⟨cs, s, projects⟩ := project_eq_ok h
  obtain ⟨self, hself, rfl⟩ := projects.guarded field declared readable (by simp [condition])
  obtain ⟨cc, guards⟩ := projects.guards self hself
  obtain ⟨c', hc', compiled⟩ := guards.compiled
  obtain rfl := Option.some.inj (condition.symm.trans hc')
  have exact : a.MasksAsStored self.name cc ↔
      (self.name ∈ a.helpers ∨ ¬ a.projection.Shows self.name) ∨ a.projection.Covers cc.term ∨
        FieldTest.Unvarying cc.test ∨ a.projection.AsksForShown self.name cc := by
    rw [projects.masksAsStored_iff notId declared readable condition compiled, or_assoc]
    refine or_congr_right ?_
    by_cases shows : a.projection.Shows self.name
    · rw [Projection.decides_iff (projects.tidy plain) shows notId
        (Condition.below_of_compile compiled)]
      simp [shows]
    · have vacuous : a.projection.Decides self.name cc :=
        fun r hr hshown => absurd ⟨r, hr, hshown⟩ shows
      simp [shows, vacuous]
  refine ⟨cc, compiled, projects.view_contains notId declared readable condition compiled, exact,
    fun rootNotId notEmpty whole => ?_⟩
  by_cases hhelper : self.name ∈ a.helpers
  · exact exact.mpr (.inl (.inl hhelper))
  by_cases shows : a.projection.Shows self.name
  · obtain ⟨r, _, hshown⟩ := shows
    have checked := projects.checks hself notId hhelper hshown
    exact exact.mpr (.inr (.inl
      (projects.covers condition compiled checked rootNotId notEmpty whole)))
  · exact exact.mpr (.inl (.inr shows))

end

end Access

namespace Deals

theorem dotFree : document.DotFree := by
  intro name hname
  have : name = "notes" ∨ name = "owner" := by simpa [document, Fields.names] using hname
  rcases this with rfl | rfl
  · decide
  · decide

def notEves : Condition := Condition.new "owner._id" "not_equals" (.str "u9")

/-- Notes may be read unless the owner is one user. -/
def guardedNotes : Profile where
  document := ⟨true, false, false, false⟩
  fieldDefaults := ⟨true, false, false, false⟩
  fields := [("notes", ⟨some ⟨some true, some notEves⟩, none, none, none⟩)]
  readFilter := none

def evesDeal : Record :=
  [("_id", .str "d1"), ("notes", .str "private"),
    ("owner", .obj [("_id", .str "u9"), ("name", .str "Eve")])]

theorem distinct_evesDeal : evesDeal.Distinct := by
  simp [evesDeal, Record.Distinct, Value.Distinct, Value.DistinctFields, Fields.names]

/-- The condition as it is compiled; Eve's deal does not meet it. -/
theorem compiled_notEves :
    ∃ cc, notEves.compile context document = .ok cc ∧ cc.toPredicate.holds evesDeal = false := by
  have evaluated : (notEves.compile context document).toOption.map
      (fun cc => cc.toPredicate.holds evesDeal) = some false := by decide +kernel
  obtain ⟨cc, hcc, hfails⟩ := Option.map_eq_some_iff.mp evaluated
  exact ⟨cc, toOption_eq_some_iff.mp hcc, hfails⟩

end Deals

namespace Access

open Deals (guardedNotes notEves evesDeal)

/-- The owner is fetched whole, so the condition on the notes is decided as on the stored record. -/
theorem project_masksAsStored_iff_guardedNotes :
    Deals.document.DotFree ∧ ∃ a cc,
      project guardedNotes Deals.document ["notes"] Deals.context = .ok a ∧
      notEves.compile Deals.context Deals.document = .ok cc ∧ a.MasksAsStored "notes" cc := by
  obtain ⟨a, ha⟩ : ∃ a, (project guardedNotes Deals.document ["notes"] Deals.context).toOption
      = some a := Option.isSome_iff_exists.mp (by decide +kernel)
  have hproject := toOption_eq_some_iff.mp ha
  have declared : "notes" ∈ Fields.names Deals.document.fields := by decide
  obtain ⟨cc, hcc, _, _, whole⟩ :=
    project_masksAsStored_iff hproject Deals.dotFree declared (by decide) rfl rfl
  have root : Path.root cc.term = "owner" := by
    rw [Condition.compile_term hcc]
    decide +kernel
  refine ⟨Deals.dotFree, a, cc, hproject, hcc, whole (by simp [root]) (by simp [root]) ?_⟩
  intro path hpath _
  rw [List.mem_singleton.mp hpath]
  decide +kernel

/-- Asking for the owner's name beside the notes shows notes that the owner forbids. -/
theorem project_shows_evesNotes :
    Deals.document.DotFree ∧ evesDeal.Distinct ∧
      (guardedNotes.field "notes").allowed.read = true ∧
      (guardedNotes.field "notes").conditions.read = some notEves ∧
      ∃ cc a shown, notEves.compile Deals.context Deals.document = .ok cc ∧
        project guardedNotes Deals.document ["notes", "owner.name"] Deals.context = .ok a ∧
        a.view evesDeal = .ok shown ∧ Fields.contains shown "notes" = true ∧
        cc.toPredicate.holds evesDeal = false := by
  obtain ⟨cc, hcc, hfails⟩ := Deals.compiled_notEves
  have seen : (project guardedNotes Deals.document ["notes", "owner.name"] Deals.context).toOption.bind
      (fun a => (a.view evesDeal).toOption.map fun shown => Fields.contains shown "notes")
        = some true := by decide +kernel
  obtain ⟨a, ha, hview⟩ := Option.bind_eq_some_iff.mp seen
  obtain ⟨shown, hshown, hnotes⟩ := Option.map_eq_some_iff.mp hview
  exact ⟨Deals.dotFree, Deals.distinct_evesDeal, rfl, rfl, cc, a, shown, hcc,
    toOption_eq_some_iff.mp ha, toOption_eq_some_iff.mp hshown, hnotes, hfails⟩

end Access

end RecordQuery
