import RecordQuery.Proofs.Access.Masking
import RecordQuery.Proofs.Find.RowFilters
import RecordQuery.Proofs.Store.Reflects

/-!
# What leaves a read

The stages of a read take names away and never add one. So a record that leaves a read has no more
names than the store's projection, without the helpers: no hidden field, and with a list of fields
nothing that was not asked for.
-/

namespace RecordQuery

namespace Store

/-- The store hands out no names besides those that the projection of a plan keeps. -/
def KeepsToProjection (store : Store) : Prop :=
  ∀ document plan cursor, store.find document plan = .ok cursor →
    ∀ r, Except.ok r ∈ cursor →
      ∃ stored, ∀ name, Fields.contains r name = true →
        Fields.contains (plan.projection.apply stored) name = true

end Store

theorem Memory.keepsToProjection (m : Memory) : m.store.KeepsToProjection := by
  intro document plan cursor h r hr
  obtain ⟨p, _, rfl⟩ := Memory.find_eq_ok h
  obtain ⟨projected, hprojected, hr⟩ := List.mem_map.mp hr
  obtain rfl := Except.ok.inj hr
  obtain ⟨stored, _, rfl⟩ := List.mem_map.mp hprojected
  exact ⟨stored, fun name h => h⟩

/-- Whatever comes out has the names that went in, or fewer. -/
def Stage.AddsNoNames (stage : Stage) : Prop :=
  ∀ r out, stage.apply r = .ok out →
    ∀ name, Fields.contains out name = true → Fields.contains r name = true

namespace Populate

theorem contains_apply {store : Store} {lookup : DetailLookup} {r out : Record}
    (h : apply store lookup r = .ok out) (name : String) :
    Fields.contains out name = Fields.contains r name := by
  have written : ∀ v, (Fields.get? r lookup.field).isSome = true →
      Fields.contains (Fields.insert r lookup.field v) name = Fields.contains r name := by
    intro v hfield
    rw [Fields.contains_eq_isSome, Fields.contains_eq_isSome, Fields.get?_insert]
    by_cases hname : lookup.field = name
    · rw [if_pos hname, ← hname, hfield]
      rfl
    · rw [if_neg hname]
  rw [apply] at h
  split at h
  · rename_i target hfield
    obtain ⟨filled, _, h⟩ := bind_eq_ok_iff.mp h
    obtain rfl := Except.ok.inj h
    exact written _ (by simp [hfield])
  · rename_i items hfield
    obtain ⟨filled, _, h⟩ := bind_eq_ok_iff.mp h
    obtain rfl := Except.ok.inj h
    exact written _ (by simp [hfield])
  · obtain rfl := Except.ok.inj h
    rfl

end Populate

namespace Stage

theorem mask_addsNoNames (a : AccessProjection) : (mask a).AddsNoNames := by
  intro r out h name hname
  obtain ⟨fields, _, hmask⟩ := AccessProjection.contains_mask (mapError_eq_ok_iff.mp h)
  exact ((hmask name).mp hname).2

theorem populate_addsNoNames (store : Store) (lookups : List DetailLookup) :
    (populate store lookups).AddsNoNames := by
  have filled : ∀ (lookups : List DetailLookup) (r out : Record),
      lookups.foldlM (fun r lookup => Populate.apply store lookup r) r = .ok out →
        ∀ name, Fields.contains out name = true → Fields.contains r name = true := by
    intro lookups
    induction lookups with
    | nil =>
      intro r out h name hname
      obtain rfl := Except.ok.inj h
      exact hname
    | cons lookup rest ih =>
      intro r out h name hname
      obtain ⟨next, hnext, h⟩ := bind_eq_ok_iff.mp h
      rw [← Populate.contains_apply hnext]
      exact ih next out h name hname
  exact filled lookups

theorem normalizeDates_addsNoNames : normalizeDates.AddsNoNames := by
  have names : ∀ r : Record, Fields.names (Value.normalizeDatesFields r) = Fields.names r := by
    intro r
    induction r with
    | nil => rfl
    | cons entry rest ih => simpa [Value.normalizeDatesFields, Fields.names] using ih
  intro r out h name hname
  obtain rfl := Except.ok.inj h
  rw [← Fields.mem_names_iff] at hname ⊢
  rwa [Record.normalizeDates, names] at hname

/-- Stages in turn add no name if none of them does. -/
theorem run_addsNoNames {stages : List Stage} (h : ∀ stage ∈ stages, stage.AddsNoNames)
    {r out : Record} (hrun : run stages r = .ok out) {name : String}
    (hname : Fields.contains out name = true) : Fields.contains r name = true := by
  induction stages generalizing r with
  | nil =>
    obtain rfl := Except.ok.inj hrun
    exact hname
  | cons stage rest ih =>
    obtain ⟨next, hnext, hrun⟩ := bind_eq_ok_iff.mp hrun
    have := ih (fun other hother => h other (List.mem_cons_of_mem _ hother)) hrun
    exact h stage List.mem_cons_self r next hnext name this

end Stage

namespace RecordStream

/-- Every record of a stream is a record of the cursor that passed all stages. -/
theorem mem_ofCursor {stages : List Stage} {cursor : Cursor} {out : Record}
    (h : out ∈ (ofCursor stages cursor).records) :
    ∃ r, Except.ok r ∈ cursor ∧ Stage.run stages r = .ok out := by
  induction cursor with
  | nil => simp [ofCursor] at h
  | cons item rest ih =>
    cases item with
    | error e => simp [ofCursor] at h
    | ok record =>
      rw [ofCursor] at h
      cases hrun : Stage.run stages record with
      | error e => simp [hrun] at h
      | ok first =>
        rw [hrun] at h
        rcases List.mem_cons.mp h with rfl | h
        · exact ⟨record, List.mem_cons_self, hrun⟩
        · obtain ⟨r, hr, hpassed⟩ := ih h
          exact ⟨r, List.mem_cons_of_mem _ hr, hpassed⟩

end RecordStream

namespace QueryEngine

/-- The stages after masking and the removal of helpers. -/
def laterStages (engine : QueryEngine) (built : BuiltQuery) (request : FindRequest) : List Stage :=
  let details := Populate.lookupsOf built.document
  (if request.withDetails && !details.isEmpty then [Stage.populate engine.store details] else [])
    ++ (if request.lookups.isEmpty then [] else [Stage.populate engine.store request.lookups])
    ++ (if request.datesToText then [Stage.normalizeDates] else [])

theorem stages_eq (engine : QueryEngine) (built : BuiltQuery) (request : FindRequest) :
    engine.stages built request
      = Stage.mask built.access :: Stage.stripHelpers built.access
        :: engine.laterStages built request := by
  simp [stages, laterStages]

theorem laterStages_addNoNames (engine : QueryEngine) (built : BuiltQuery)
    (request : FindRequest) : ∀ stage ∈ engine.laterStages built request, stage.AddsNoNames := by
  intro stage hstage
  rcases List.mem_append.mp hstage with hstage | hstage
  · rcases List.mem_append.mp hstage with hstage | hstage
    · split at hstage
      · rw [List.mem_singleton.mp hstage]
        exact Stage.populate_addsNoNames _ _
      · simp at hstage
    · split at hstage
      · simp at hstage
      · rw [List.mem_singleton.mp hstage]
        exact Stage.populate_addsNoNames _ _
  · split at hstage
    · rw [List.mem_singleton.mp hstage]
      exact Stage.normalizeDates_addsNoNames
    · simp at hstage

/-- A name that comes out of the stages was projected and is no helper. -/
theorem run_stages {engine : QueryEngine} {built : BuiltQuery} {request : FindRequest}
    {r out : Record} (h : Stage.run (engine.stages built request) r = .ok out) {name : String}
    (hname : Fields.contains out name = true) :
    name ∉ built.access.helpers ∧ Fields.contains r name = true := by
  rw [stages_eq] at h
  obtain ⟨masked, hmasked, h⟩ := bind_eq_ok_iff.mp h
  obtain ⟨stripped, hstripped, h⟩ := bind_eq_ok_iff.mp h
  obtain rfl := Except.ok.inj hstripped
  have later : Fields.contains (built.access.stripHelpers masked) name = true :=
    Stage.run_addsNoNames (engine.laterStages_addNoNames built request) h hname
  obtain ⟨notHelper, hcontains⟩ := AccessProjection.contains_stripHelpers.mp later
  exact ⟨notHelper, Stage.mask_addsNoNames _ _ _ hmasked name hcontains⟩

/-- No record that leaves a read has a field that the caller's profile hides, and with a list of
fields each of its names is the identifier or the first segment of a path on the list. -/
theorem find_confines {engine : QueryEngine} {request : FindRequest} {found : FindStream}
    (store : engine.store.KeepsToProjection)
    (plain : ∀ document, engine.registry.document? request.document = some document →
      document.DotFree)
    (h : engine.find request = .ok found) :
    ∃ user profile document, engine.resolver request.token = .ok user ∧
      Access.profileFor? request.document user engine.registry = some profile ∧
      engine.registry.document? request.document = some document ∧
      ∀ r ∈ found.stream.records,
        (∀ name ∈ Fields.names document.fields, name ≠ "_id" →
          (profile.field name).allowed.read = false → Fields.contains r name = false) ∧
        (FindRequest.fieldSet request.fields ≠ [] →
          ∀ name ∈ Fields.names r,
            name = "_id" ∨ ∃ path ∈ FindRequest.fieldSet request.fields, Path.root path = name) := by
  obtain ⟨built, hbuilt, h⟩ := bind_eq_ok_iff.mp h
  obtain ⟨cursor, hcursor, h⟩ := bind_eq_ok_iff.mp h
  obtain rfl := Except.ok.inj h
  obtain ⟨profile, settled⟩ := build_eq_ok hbuilt
  obtain ⟨cs, s, projects⟩ := Access.project_eq_ok settled.access
  refine ⟨built.user, profile, built.document, settled.caller, settled.granted, settled.document,
    fun out hout => ?_⟩
  obtain ⟨r, hr, hrun⟩ := RecordStream.mem_ofCursor hout
  obtain ⟨stored, hstored⟩ := store _ _ _ (mapError_eq_ok_iff.mp hcursor) r hr
  rw [settled.projection] at hstored
  have shown : ∀ name, Fields.contains out name = true →
      name ∉ built.access.helpers ∧
        Fields.contains (built.access.projection.apply stored) name = true := by
    intro name hname
    obtain ⟨notHelper, hcontains⟩ := run_stages hrun hname
    exact ⟨notHelper, hstored name hcontains⟩
  refine ⟨fun name declared notId hidden => ?_, fun list name hname => ?_⟩
  · rw [Bool.eq_false_iff]
    intro hname
    obtain ⟨notHelper, hprojected⟩ := shown name hname
    exact notHelper (projects.hides (plain _ settled.document)
      (Access.mem_unreadable.mpr ⟨declared, hidden⟩) notId hprojected)
  · obtain ⟨notHelper, hprojected⟩ := shown name ((Fields.mem_names_iff _ _).mp hname)
    rcases projects.contains_of_list list hprojected with hid | hhelper | ⟨path, hpath, hroot⟩
    · exact .inl hid
    · exact absurd hhelper notHelper
    · exact .inr ⟨path, (Access.mem_allowed.mp hpath).1, hroot⟩

end QueryEngine

namespace Deals

/-- Notes may be read unless the owner, who is hidden, is one user. -/
def ownerHidden : Profile where
  document := ⟨true, false, false, false⟩
  fieldDefaults := ⟨true, false, false, false⟩
  fields :=
    [("notes", ⟨some ⟨some true, some notEves⟩, none,
      none, none⟩), ("owner", ⟨some ⟨some false, none⟩, none, none, none⟩)]
  readFilter := none

def deals : Memory :=
  [("Deal", [[("_id", .str "d1"), ("notes", .str "call"), ("owner", .obj [("_id", .str "u2")])]])]

def notesOnly : FindRequest := { FindRequest.new "Deal" with fields := some "notes" }

theorem found_notesOnly :
    (((engine ownerHidden deals.store).find notesOnly).toOption.map (·.stream.records))
      = some [[("_id", .str "d1"), ("notes", .str "call")]] := by
  decide +kernel

theorem granted_ownerHidden (store : Store) :
    Access.profileFor? "Deal" (User.new "u1") (engine ownerHidden store).registry
      = some ownerHidden := rfl

end Deals

/-- The owner is fetched for the condition on the notes, and gone again. -/
theorem QueryEngine.find_confines_notesOnly :
    Deals.deals.store.KeepsToProjection ∧ Deals.document.DotFree ∧
    ∃ found, (Deals.engine Deals.ownerHidden Deals.deals.store).find Deals.notesOnly = .ok found ∧
      found.stream.records ≠ [] ∧
      ∀ r ∈ found.stream.records, Fields.contains r "owner" = false ∧
        ∀ name ∈ Fields.names r, name = "_id" ∨ name = "notes" := by
  have keeps := Memory.keepsToProjection Deals.deals
  have plain : ∀ document,
      (Deals.engine Deals.ownerHidden Deals.deals.store).registry.document?
        Deals.notesOnly.document = some document → document.DotFree := by
    intro document h
    obtain rfl : Deals.document = document := Option.some.inj h
    exact Deals.dotFree
  have listed : FindRequest.fieldSet Deals.notesOnly.fields = ["notes"] := by decide +kernel
  obtain ⟨found, hfound, hrecords⟩ := Option.map_eq_some_iff.mp Deals.found_notesOnly
  have hfind : (Deals.engine Deals.ownerHidden Deals.deals.store).find Deals.notesOnly
      = .ok found := toOption_eq_some_iff.mp hfound
  refine ⟨keeps, Deals.dotFree, found, hfind, by simp [hrecords], fun r hr => ?_⟩
  obtain ⟨user, profile, document, hcaller, hgranted, hdocument, confined⟩ :=
    find_confines keeps plain hfind
  obtain rfl : User.new "u1" = user := Except.ok.inj hcaller
  obtain rfl : Deals.ownerHidden = profile :=
    Option.some.inj ((Deals.granted_ownerHidden _).symm.trans hgranted)
  obtain rfl : Deals.document = document := Option.some.inj hdocument
  obtain ⟨hidden, within⟩ := confined r hr
  refine ⟨hidden "owner" (by decide) (by decide) rfl, fun name hname => ?_⟩
  have := within (by simp [listed]) name hname
  simpa [listed, Path.root_of_plain, eq_comm] using this

end RecordQuery
