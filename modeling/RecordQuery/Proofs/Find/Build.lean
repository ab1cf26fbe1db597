import RecordQuery.Find.Basic
import RecordQuery.Proofs.Outcome

/-!
# What a checked read consists of

A read is built only for a caller whose profile may read the document; its query and its projection
are those of that profile, its page and its order those of the request.
-/

namespace RecordQuery

namespace QueryEngine

/-- What the filters and conditions of a read are compiled with. -/
def context (engine : QueryEngine) (user : User) : FilterContext :=
  ⟨engine.registry, user, engine.now⟩

/-- Everything that was settled when a read was built. -/
structure Settled (engine : QueryEngine) (request : FindRequest) (built : BuiltQuery)
    (profile : Profile) : Prop where
  caller : engine.resolver request.token = .ok built.user
  granted : Access.profileFor? request.document built.user engine.registry = some profile
  readable : profile.document.read = true
  document : engine.registry.document? request.document = some built.document
  query : compileQuery (engine.context built.user) profile built.document request
    = .ok built.plan.query
  access : Access.project profile built.document (FindRequest.fieldSet request.fields)
    (engine.context built.user) = .ok built.access
  projection : built.plan.projection = built.access.projection
  order : built.plan.sort = [⟨"_id", .ascending⟩] ∨ built.plan.sort = [] ∨
    ∃ spec, request.sort = some spec ∧ SortSpec.read spec built.document = .ok built.plan.sort
  skip : built.plan.skip = FindRequest.effectiveSkip request.start
  limit : built.plan.limit
    = some (FindRequest.effectiveLimit request.limit engine.settings.defaultLimit)

theorem build_eq_ok {engine : QueryEngine} {request : FindRequest} {built : BuiltQuery}
    (h : engine.build request = .ok built) : ∃ profile, Settled engine request built profile := by
  rw [build] at h
  obtain ⟨user, hcaller, h⟩ := bind_eq_ok_iff.mp h
  cases hprofile : Access.profileFor? request.document user engine.registry with
  | none => simp [hprofile, bind, Except.bind] at h
  | some profile =>
    cases hreadable : profile.document.read with
    | false => simp [hprofile, hreadable, bind, Except.bind] at h
    | true =>
      cases hdocument : engine.registry.document? request.document with
      | none => simp [hprofile, hreadable, hdocument, bind, Except.bind] at h
      | some document =>
        simp only [hprofile, hreadable, hdocument, ↓reduceIte] at h
        obtain ⟨_, hallowed, h⟩ := bind_eq_ok_iff.mp h
        obtain rfl := Except.ok.inj hallowed
        obtain ⟨_, hfound, h⟩ := bind_eq_ok_iff.mp h
        obtain rfl := Except.ok.inj hfound
        obtain ⟨query, hquery, h⟩ := bind_eq_ok_iff.mp h
        obtain ⟨access, haccess, h⟩ := bind_eq_ok_iff.mp h
        rw [mapError_eq_ok_iff] at hcaller hquery haccess
        cases hsort : request.sort with
        | none =>
          rw [hsort] at h
          obtain rfl := Except.ok.inj h
          refine ⟨profile, hcaller, hprofile, hreadable, hdocument, hquery, haccess, rfl, ?_, rfl,
            rfl⟩
          dsimp only
          split
          · exact .inl rfl
          · exact .inr (.inl rfl)
        | some spec =>
          rw [hsort] at h
          obtain ⟨keys, hkeys, h⟩ := bind_eq_ok_iff.mp h
          obtain rfl := Except.ok.inj h
          refine ⟨profile, hcaller, hprofile, hreadable, hdocument, hquery, haccess, rfl, ?_, rfl,
            rfl⟩
          dsimp only
          split
          · exact .inl rfl
          · exact .inr (.inr ⟨spec, hsort, mapError_eq_ok_iff.mp hkeys⟩)

end QueryEngine

end RecordQuery
