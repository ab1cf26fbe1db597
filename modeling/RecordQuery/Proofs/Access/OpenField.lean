import RecordQuery.Proofs.Access.Masking

/-!
# Reads of one open field

Paths into a field that may be read, whatever the record holds, are fetched as they are. No
condition is checked for them and nothing is fetched besides.
-/

namespace RecordQuery

/-- The profile shows the field of every record. -/
structure Profile.Opens (profile : Profile) (name : String) : Prop where
  readable : (profile.field name).allowed.read = true
  unconditioned : (profile.field name).conditions.read = none

namespace Access

variable {profile : Profile} {document : DocumentType} {requested : NameSet} {ctx : FilterContext}
  {a : AccessProjection}

/-- The caller gets a record, masked or not, for every stored one. -/
theorem project_view (h : project profile document requested ctx = .ok a) (r : Record) :
    ∃ shown, a.view r = .ok shown := by
  obtain ⟨cs, s, projects⟩ := project_eq_ok h
  obtain ⟨fields, hdenied, _⟩ := AccessProjection.denied_eq_ok (a.projection.apply r)
    (projects.answers (a.projection.apply r))
  obtain ⟨shown, hshown, _⟩ := a.get?_view hdenied
  exact ⟨shown, hshown⟩

theorem foldl_addToList_of_absent {cs : List ConditionedField} {s : Selection}
    (absent : ∀ field ∈ cs, ∀ path ∈ s.paths, Path.root path ≠ field.name) :
    cs.foldl addToList s = s := by
  induction cs with
  | nil => rfl
  | cons field rest ih =>
    have skipped : s.paths.any (fun path => Path.root path = field.name) = false := by
      simpa using absent field List.mem_cons_self
    rw [List.foldl_cons, addToList, skipped]
    exact ih fun other hother => absent other (List.mem_cons_of_mem _ hother)

/-- Paths into one open field. -/
theorem project_of_opens {root : String} (opens : profile.Opens root) (nonempty : requested ≠ [])
    (alone : ∀ path ∈ requested, Path.root path = root)
    (h : project profile document requested ctx = .ok a) :
    a = ⟨.only (clearCollisions requested), [], []⟩ := by
  obtain ⟨cs, hcs, h⟩ := bind_eq_ok_iff.mp h
  obtain ⟨guards, _⟩ := conditionedFields_eq_ok (fun name hname => hname) hcs
  have unguarded : ∀ field ∈ cs, root ≠ field.name := by
    rintro field hfield rfl
    obtain ⟨cc, guard⟩ := guards field hfield
    obtain ⟨c, condition, _⟩ := guard.compiled
    cases opens.unconditioned.symm.trans condition
  have readable : root ∉ unreadable profile document := fun hidden =>
    absurd opens.readable (by simp [(mem_unreadable.mp hidden).2])
  have everything : allowed profile document requested = requested :=
    List.filter_eq_self.mpr fun path hpath => by
      simpa [alone path hpath] using readable
  have untouched : cs.foldl addToList ⟨allowed profile document requested, [], []⟩
      = ⟨requested, [], []⟩ := by
    rw [everything]
    exact foldl_addToList_of_absent fun field hfield path hpath =>
      alone path hpath ▸ unguarded field hfield
  rw [if_neg (by simpa using nonempty)] at h
  obtain rfl := Except.ok.inj h
  exact congrArg (fun s : Selection =>
    AccessProjection.mk (.only (clearCollisions s.paths)) s.conditions s.helpers) untouched

end Access

end RecordQuery
