import RecordQuery.Proofs.Access.Selection
import RecordQuery.Proofs.Store.Projection

/-!
# What a projection lets through

Masking and the removal of helpers only take names away. A name that is left is either requested or
readable, since whatever was fetched besides is a helper.
-/

namespace RecordQuery

namespace AccessProjection

theorem get?_stripHelpers (a : AccessProjection) (r : Record) (name : String) :
    Fields.get? (a.stripHelpers r) name
      = if name ∈ a.helpers then none else Fields.get? r name :=
  Fields.get?_foldl_erase a.helpers r name

theorem contains_stripHelpers {a : AccessProjection} {r : Record} {name : String} :
    Fields.contains (a.stripHelpers r) name = true ↔
      name ∉ a.helpers ∧ Fields.contains r name = true := by
  rw [Fields.contains_eq_isSome, Fields.contains_eq_isSome, get?_stripHelpers]
  by_cases h : name ∈ a.helpers
  · simp [h]
  · simp [h]

/-- Masking takes away the fields whose test fails and nothing else. -/
theorem contains_mask {a : AccessProjection} {r out : Record} (h : a.mask r = .ok out) :
    ∃ fields, denied r a.conditions = .ok fields ∧
      ∀ name, Fields.contains out name = true ↔ name ∉ fields ∧ Fields.contains r name = true := by
  obtain ⟨fields, hfields, h⟩ := bind_eq_ok_iff.mp h
  obtain rfl := Except.ok.inj h
  refine ⟨fields, hfields, fun name => ?_⟩
  rw [Fields.contains_eq_isSome, Fields.contains_eq_isSome, Fields.get?_foldl_erase]
  by_cases h : name ∈ fields
  · simp [h]
  · simp [h]

end AccessProjection

namespace Access

section
variable {profile : Profile} {document : DocumentType} {requested : NameSet} {ctx : FilterContext}
  {a : AccessProjection} {cs : List ConditionedField} {s : Selection}

/-- With a list of fields, every name that is projected is the identifier, a helper, or the first
segment of a path that was requested and may be read. -/
theorem Projects.contains_of_list (h : Projects profile document requested ctx a cs s)
    (list : requested ≠ []) {r : Record} {name : String}
    (shown : Fields.contains (a.projection.apply r) name = true) :
    name = "_id" ∨ name ∈ a.helpers ∨
      ∃ path ∈ allowed profile document requested, Path.root path = name := by
  obtain ⟨selection, hprojection⟩ := h.list list
  rw [hprojection] at shown
  rcases Projection.contains_apply_only shown with hid | ⟨q, hq, rfl⟩
  · exact .inl hid
  · obtain ⟨p, hp, _, hroot⟩ := root_of_mem_clearCollisions hq
    rcases selection.sources p hp with hallowed | hhelper
    · exact .inr (.inr ⟨p, hallowed, hroot⟩)
    · rw [h.helpers, ← hroot, selection.plain p hhelper]
      exact .inr (.inl hhelper)

/-- Without a list, every name that is projected is a helper or may be read. -/
theorem Projects.contains_of_everything (h : Projects profile document requested ctx a cs s)
    (plain : document.DotFree) (everything : requested = []) {r : Record} {name : String}
    (shown : Fields.contains (a.projection.apply r) name = true) :
    name ∈ a.helpers ∨ name ∉ unreadable profile document := by
  obtain ⟨selection, hprojection⟩ := h.everything everything
  by_cases hname : name ∈ unreadable profile document
  · left
    rw [h.helpers]
    refine (selection.covered name (NameSet.mem_ofList.mpr hname)).resolve_left fun hpath => ?_
    have dotFree : ∀ other ∈ s.paths, '.' ∉ other.toList := by
      intro other hother
      have := NameSet.mem_ofList.mp (selection.excluded other hother)
      exact plain other (mem_unreadable.mp this).1
    have hpaths : s.paths.isEmpty = false := by
      cases hs : s.paths with
      | nil => simp [hs] at hpath
      | cons first rest => rfl
    rw [hprojection, hpaths, Fields.contains_eq_isSome] at shown
    simp [Projection.get?_apply_except dotFree, hpath] at shown
  · exact .inr hname

/-- No field that the profile hides is left once the helpers are gone. -/
theorem Projects.hides (h : Projects profile document requested ctx a cs s)
    (plain : document.DotFree) {r : Record} {name : String}
    (hidden : name ∈ unreadable profile document) (notId : name ≠ "_id")
    (shown : Fields.contains (a.projection.apply r) name = true) : name ∈ a.helpers := by
  by_cases everything : requested = []
  · exact (h.contains_of_everything plain everything shown).resolve_right fun hn => hn hidden
  · rcases h.contains_of_list everything shown with hid | hhelper | ⟨path, hpath, hroot⟩
    · exact absurd hid notId
    · exact hhelper
    · exact absurd (hroot ▸ hidden) (mem_allowed.mp hpath).2

end

end Access

end RecordQuery
