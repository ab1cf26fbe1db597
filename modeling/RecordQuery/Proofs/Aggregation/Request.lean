import RecordQuery.Aggregation.Request
import RecordQuery.Proofs.Find.Build

/-!
# The read behind an aggregation

Without a limit of its own an aggregation reads from the first record on, as many records as it
takes at most.
-/

namespace RecordQuery

namespace AggregationRequest

variable {r : AggregationRequest} {most : Nat}

theorem limit_findRequest (noLimit : ∀ n, r.limit = some n → n ≤ 0) (fields : String) :
    (r.findRequest fields most).limit = some ((min most greatestLimit : Nat) : Int) := by
  cases hlimit : r.limit with
  | none => simp [findRequest, hlimit]
  | some n =>
    have := noLimit n hlimit
    simp [findRequest, hlimit, show ¬ 0 < n by omega]

/-- The page of a plan that was built for the aggregation. -/
theorem page_of_settled {engine : QueryEngine} {request : FindRequest} {built : BuiltQuery}
    {profile : Profile} (settled : engine.Settled request built profile) (positive : 0 < most)
    (start : request.start = none)
    (limit : request.limit = some ((min most greatestLimit : Nat) : Int)) :
    built.plan.skip = 0 ∧ built.plan.limit = some (min most greatestLimit) := by
  have cap : 0 < min most greatestLimit := Nat.lt_min.mpr ⟨positive, by decide⟩
  refine ⟨?_, ?_⟩
  · rw [settled.skip, start]
    rfl
  · rw [settled.limit, limit]
    simp only [FindRequest.effectiveLimit]
    rw [if_pos (by omega), Int.toNat_natCast]

/-- An empty list of fields is none. -/
theorem fieldSet_findRequest (r : AggregationRequest) (fields : String) (most : Nat) :
    FindRequest.fieldSet (r.findRequest fields most).fields
      = FindRequest.fieldSet (some fields) := by
  by_cases nothing : fields = ""
  · subst nothing
    rfl
  · simp [findRequest, nothing]

end AggregationRequest

theorem AggregationEngine.cap_pos (a : AggregationEngine) : 0 < a.cap :=
  Nat.lt_of_lt_of_le Nat.zero_lt_one (Nat.le_max_right _ _)

end RecordQuery
