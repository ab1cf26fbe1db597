import Mathlib.Data.List.Forall2
import RecordQuery.Proofs.Find.Build
import RecordQuery.Proofs.Store.Reflects

/-!
# Reads without a failure

A stream that does not end in a failure has passed on every record of its cursor. With a store that
may fail but never leaves anything out silently, the records of such a read are all that its plan
selects.
-/

namespace RecordQuery

namespace RecordStream

/-- Each record came through the stages as the one at its place. -/
def Passes (stages : List Stage) (stored records : List Record) : Prop :=
  List.Forall₂ (fun r out => Stage.run stages r = .ok out) stored records

/-- A stream without a failure has an error neither in its cursor nor in a stage. -/
theorem passes_of_noFailure {stages : List Stage} {cursor : Cursor}
    (h : (ofCursor stages cursor).failure = none) :
    ∃ stored, cursor = stored.map .ok ∧ Passes stages stored (ofCursor stages cursor).records := by
  induction cursor with
  | nil => exact ⟨[], rfl, .nil⟩
  | cons item rest ih =>
    cases item with
    | error e => cases h
    | ok r =>
      rw [ofCursor] at h ⊢
      cases hrun : Stage.run stages r with
      | error e =>
        rw [hrun] at h
        cases h
      | ok out =>
        rw [hrun] at h
        obtain ⟨stored, rfl, others⟩ := ih h
        exact ⟨r :: stored, rfl, .cons hrun others⟩

theorem ofCursor_of_passes {stages : List Stage} {stored records : List Record}
    (h : Passes stages stored records) : ofCursor stages (stored.map .ok) = ⟨records, none⟩ := by
  induction h with
  | nil => rfl
  | cons hrun _ ih => rw [List.map_cons, ofCursor, hrun, ih]

end RecordStream

/-- A cursor without an error is the memory's own. -/
theorem Store.Reflects.whole {store : Store} {m : Memory} (h : store.Reflects m)
    {document : String} {plan : FindPlan} {stored : List Record}
    (found : store.find document plan = .ok (stored.map .ok)) :
    m.find document plan = .ok (stored.map .ok) := by
  obtain ⟨whole, hwhole, hcursor⟩ := h.find _ _ _ found
  rcases hcursor with rfl | ⟨n, e, rest, hbroken⟩
  · exact hwhole
  · have : Except.error e ∈ stored.map Except.ok := hbroken ▸ by simp
    simp at this

namespace QueryEngine

variable {engine : QueryEngine} {request : FindRequest}

/-- What a read that was opened consists of. -/
structure Opened (engine : QueryEngine) (request : FindRequest) (found : FindStream)
    (built : BuiltQuery) (cursor : Cursor) : Prop where
  checked : engine.build request = .ok built
  answered : engine.store.find request.document built.plan = .ok cursor
  stream : found.stream = .ofCursor (engine.stages built request) cursor
  total : found.total = if request.withTotal then
    some (engine.store.count request.document built.plan.query) else none

theorem find_eq_ok {found : FindStream} (h : engine.find request = .ok found) :
    ∃ built cursor, Opened engine request found built cursor := by
  obtain ⟨built, hbuilt, h⟩ := bind_eq_ok_iff.mp h
  obtain ⟨cursor, hcursor, h⟩ := bind_eq_ok_iff.mp h
  obtain rfl := Except.ok.inj h
  exact ⟨built, cursor, hbuilt, mapError_eq_ok_iff.mp hcursor, rfl, rfl⟩

/-- The records are those that the plan selects, each of them projected and passed through the
stages. -/
def ReadsSelected (engine : QueryEngine) (request : FindRequest) (m : Memory) (built : BuiltQuery)
    (p : Predicate) (records : List Record) : Prop :=
  RecordStream.Passes (engine.stages built request)
    ((m.select request.document built.plan p).map built.plan.projection.apply) records

/-- A read without a failure leaves out nothing that its plan selects. -/
theorem Opened.readsSelected {found : FindStream} {built : BuiltQuery} {cursor : Cursor}
    {m : Memory} (h : Opened engine request found built cursor)
    (reflects : engine.store.Reflects m) (noFailure : found.stream.failure = none) :
    ∃ p, Query.read built.plan.query = .ok p ∧
      engine.ReadsSelected request m built p found.stream.records := by
  rw [h.stream] at noFailure ⊢
  obtain ⟨stored, rfl, passes⟩ := RecordStream.passes_of_noFailure noFailure
  obtain ⟨p, hp, hselected⟩ := Memory.find_eq_ok (reflects.whole h.answered)
  have same := List.map_injective_iff.mpr (fun _ _ => Except.ok.inj) hselected
  exact ⟨p, hp, same ▸ passes⟩

end QueryEngine

end RecordQuery
