import RecordQuery.Proofs.Access.Masking

/-!
# Reads without a list of fields

Whoever asks for no field in particular gets the stored record without what the profile keeps from
them. The stored record alone decides what that is: a condition may look at fields that are hidden
or masked themselves, and hidden ones are fetched for it and taken away again.
-/

namespace RecordQuery

namespace Access

/-- The profile keeps the field of this record from the caller: it hides the field altogether, or
the field's condition does not hold of the record. -/
def Withholds (profile : Profile) (document : DocumentType) (ctx : FilterContext) (r : Record)
    (name : String) : Prop :=
  name ∈ Fields.names document.fields ∧
    ((profile.field name).allowed.read = false ∨
      ∃ c cc, (profile.field name).conditions.read = some c ∧ c.compile ctx document = .ok cc ∧
        cc.toPredicate.holds r = false)

variable {profile : Profile} {document : DocumentType} {ctx : FilterContext} {a : AccessProjection}
  {cs : List ConditionedField} {s : Selection}

theorem Projects.get?_apply (h : Projects profile document [] ctx a cs s)
    (plain : document.DotFree) (r : Record) (name : String) :
    Fields.get? (a.projection.apply r) name
      = if name ∈ s.paths then none else Fields.get? r name := by
  obtain ⟨selection, hprojection⟩ := h.everything rfl
  have dotFree : ∀ other ∈ s.paths, '.' ∉ other.toList := fun other hother =>
    plain other (mem_unreadable.mp (NameSet.mem_ofList.mp (selection.excluded other hother))).1
  cases hpaths : s.paths with
  | nil =>
    rw [hprojection, hpaths]
    simp [Projection.apply]
  | cons first rest =>
    rw [hpaths] at dotFree
    rw [hprojection, hpaths]
    exact Projection.get?_apply_except dotFree r name

/-- A condition says the same of the stored record and of what was fetched of it: the field that it
looks at is never left out. -/
theorem Projects.holds_apply (h : Projects profile document [] ctx a cs s)
    (plain : document.DotFree) (noId : "_id" ∉ Fields.names document.fields)
    {field : ConditionedField} (mem : field ∈ cs) {cc : CompiledCondition}
    (guards : Guards profile document ctx field cc) (r : Record) :
    cc.toPredicate.holds (a.projection.apply r) = cc.toPredicate.holds r := by
  obtain ⟨selection, _⟩ := h.everything rfl
  have excluded : ∀ name ∈ s.paths, name ∈ unreadable profile document := fun name hname =>
    NameSet.mem_ofList.mp (selection.excluded name hname)
  have checked : (field.name, field.test) ∈ s.conditions := by
    refine selection.complete field mem fun hhidden => ?_
    have := (mem_unreadable.mp (NameSet.mem_ofList.mp hhidden)).2
    simp [guards.readable] at this
  obtain ⟨other, hother, heq, served⟩ := selection.served _ checked
  -- The entry's condition is the field's own, whichever pass over the fields made it.
  have root : other.root = Path.root cc.term := by
    obtain ⟨occ, hocc⟩ := h.guards other hother
    obtain ⟨c, condition, compiled⟩ := guards.compiled
    obtain rfl := hocc.eq_of_compile ((Prod.mk.inj heq).1 ▸ condition) compiled
    exact hocc.root
  have fetched : Path.root cc.term ∉ s.paths := by
    rcases served with hid | hserved
    · rw [← root, hid]
      exact fun hmem => noId (mem_unreadable.mp (excluded _ hmem)).1
    · exact root ▸ hserved
  rw [cc.holds_toPredicate, cc.holds_toPredicate, Record.reach_ofText, Record.reach_ofText,
    h.get?_apply plain, if_neg fetched]

/-- The fields that masking takes away, and the helpers, are withheld; every withheld field that was
fetched is among them. -/
theorem Projects.withholds_iff (h : Projects profile document [] ctx a cs s)
    (plain : document.DotFree) (noId : "_id" ∉ Fields.names document.fields) (r : Record)
    {fields : List String}
    (denied : ∀ name, name ∈ fields ↔ Fields.contains (a.projection.apply r) name = true ∧
      ∃ entry ∈ a.conditions, entry.1 = name ∧ entry.2 (a.projection.apply r) = .ok false)
    {name : String} (fetched : Fields.contains (a.projection.apply r) name = true) :
    Withholds profile document ctx r name ↔ name ∈ a.helpers ∨ name ∈ fields := by
  obtain ⟨selection, _⟩ := h.everything rfl
  constructor
  · rintro ⟨declared, hkept⟩
    by_cases hhelper : name ∈ a.helpers
    · exact .inl hhelper
    right
    have readable : (profile.field name).allowed.read = true := by
      have hname := (h.contains_of_everything plain rfl fetched).resolve_left hhelper
      cases hread : (profile.field name).allowed.read with
      | true => rfl
      | false => exact absurd (mem_unreadable.mpr ⟨declared, hread⟩) hname
    obtain ⟨c, cc, condition, compiled, hfails⟩ := hkept.resolve_left (by simp [readable])
    obtain ⟨field, hfield, rfl⟩ := h.guarded name declared readable (by simp [condition])
    obtain ⟨occ, guards⟩ := h.guards field hfield
    obtain rfl := guards.eq_of_compile condition compiled
    have notId : field.name ≠ "_id" := fun hid => noId (hid ▸ declared)
    rw [h.mem_denied_iff hfield condition compiled notId hhelper r fetched denied,
      h.holds_apply plain noId hfield guards, hfails]
  · rintro (hhelper | hdenied)
    · rw [h.helpers] at hhelper
      have := mem_unreadable.mp (NameSet.mem_ofList.mp (selection.hidden name hhelper))
      exact ⟨this.1, .inl this.2⟩
    · obtain ⟨_, entry, hentry, rfl, hfails⟩ := (denied _).mp hdenied
      obtain ⟨field, hfield, rfl⟩ := h.entries entry hentry
      obtain ⟨cc, guards⟩ := h.guards field hfield
      obtain ⟨c, condition, compiled⟩ := guards.compiled
      refine ⟨guards.declared, .inr ⟨c, cc, condition, compiled, ?_⟩⟩
      rw [guards.test] at hfails
      rw [← h.holds_apply plain noId hfield guards]
      exact Except.ok.inj hfails

/-- Without a list of fields the caller sees exactly the stored record less what the profile
withholds: each withheld field is gone, and whatever else is stored, declared or not, is there as it
was. -/
theorem project_everything_view (h : project profile document [] ctx = .ok a)
    (plain : document.DotFree) (noId : "_id" ∉ Fields.names document.fields) (r : Record) :
    ∃ shown, a.view r = .ok shown ∧ ∀ name,
      (Withholds profile document ctx r name → Fields.get? shown name = none) ∧
      (¬ Withholds profile document ctx r name →
        Fields.get? shown name = Fields.get? r name) := by
  obtain ⟨cs, s, projects⟩ := project_eq_ok h
  obtain ⟨fields, hdenied, hmem⟩ := AccessProjection.denied_eq_ok (a.projection.apply r)
    (projects.answers (a.projection.apply r))
  obtain ⟨shown, hshown, hget⟩ := a.get?_view hdenied
  refine ⟨shown, hshown, fun name => ?_⟩
  rw [hget]
  cases hfetched : Fields.get? (a.projection.apply r) name with
  | none =>
    -- Only hidden fields are left out from the start.
    rw [ite_self]
    refine ⟨fun _ => rfl, fun hseen => ?_⟩
    rw [projects.get?_apply plain] at hfetched
    split at hfetched
    · rename_i hpath
      have := NameSet.mem_ofList.mp ((projects.everything rfl).1.excluded name hpath)
      have hidden := mem_unreadable.mp this
      exact absurd ⟨hidden.1, .inl hidden.2⟩ hseen
    · exact hfetched.symm
  | some v =>
    have fetched : Fields.contains (a.projection.apply r) name = true := by
      simp [Fields.contains_eq_isSome, hfetched]
    have stored : Fields.get? r name = some v := by
      rw [projects.get?_apply plain] at hfetched
      split at hfetched
      · cases hfetched
      · exact hfetched
    rw [projects.withholds_iff plain noId r hmem fetched, stored]
    exact ⟨fun hgone => if_pos hgone, fun hseen => if_neg hseen⟩

end Access

namespace Deals

/-- Notes may be read unless the owner is one user, and the owner may not be read at all. -/
def hiddenOwner : Profile :=
  { guardedNotes with
    fields := ("owner", ⟨some ⟨some false, none⟩, none, none, none⟩) :: guardedNotes.fields }

end Deals

/-- The hidden owner of Eve's deal is fetched, decides about the notes, and leaves with them. -/
theorem Access.project_everything_view_hiddenOwner :
    Deals.document.DotFree ∧ "_id" ∉ Fields.names Deals.document.fields ∧
      ∃ a shown, project Deals.hiddenOwner Deals.document [] Deals.context = .ok a ∧
        a.helpers = ["owner"] ∧ a.view Deals.evesDeal = .ok shown ∧
        Fields.get? shown "owner" = none ∧ Fields.get? shown "notes" = none ∧
        Fields.get? shown "_id" = some (.str "d1") := by
  have noId : "_id" ∉ Fields.names Deals.document.fields := by decide
  obtain ⟨a, ha, hhelpers⟩ : ∃ a,
      (project Deals.hiddenOwner Deals.document [] Deals.context).toOption = some a ∧
        a.helpers = ["owner"] := by
    have : (project Deals.hiddenOwner Deals.document [] Deals.context).toOption.map (·.helpers)
        = some ["owner"] := by decide +kernel
    exact Option.map_eq_some_iff.mp this
  have hproject := toOption_eq_some_iff.mp ha
  obtain ⟨shown, hshown, hview⟩ :=
    project_everything_view hproject Deals.dotFree noId Deals.evesDeal
  obtain ⟨cc, hcc, hfails⟩ := Deals.compiled_notEves
  refine ⟨Deals.dotFree, noId, a, shown, hproject, hhelpers, hshown, ?_, ?_, ?_⟩
  · exact (hview "owner").1 ⟨by decide, .inl rfl⟩
  · exact (hview "notes").1 ⟨by decide, .inr ⟨_, cc, rfl, hcc, hfails⟩⟩
  · exact (hview "_id").2 fun withheld => noId withheld.1

end RecordQuery
