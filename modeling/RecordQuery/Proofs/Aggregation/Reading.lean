import RecordQuery.Aggregation.Reading
import RecordQuery.Proofs.Store.Coverage
import RecordQuery.Proofs.Value.Cut

/-!
# Readings of projected records

A list of paths leaves the readings at a path alone exactly if it covers the path. If it does not,
there is a record with one number at the path of which the projection shows none.
-/

namespace RecordQuery

namespace Projection

/-- Every record has the same reading before and after the projection. -/
def KeepsReading (p : Projection) (path : String) : Prop :=
  ∀ r : Record, r.Distinct → Record.reading? (p.apply r) path = Record.reading? r path

theorem Covers.keepsReading {p : Projection} {path : String} (covers : p.Covers path)
    (tidy : p.Tidy) : p.KeepsReading path := by
  intro r distinct
  rw [Record.reading?, Record.pick?, reach_apply tidy covers distinct]
  rfl

/-- A record of one number at a path that is not covered. -/
theorem exists_lost {paths : NameSet} (tidy : (only paths).Tidy) {path : String}
    (notId : Path.root path ≠ "_id") (missed : ¬ (only paths).Covers path) (n : Number) :
    ∃ r : Record, r.Distinct ∧ Record.reach r (Path.ofText path) = [.num n] ∧
      Record.reach ((only paths).apply r) (Path.ofText path) = [] := by
  by_cases here : ∃ q ∈ paths, Path.root q = Path.root path
  · obtain ⟨q, hq, hroot⟩ := here
    have cut : ¬ (Path.below q <+: Path.below path ∧
        ∀ segment ∈ Path.below q, Path.index? segment = none) := fun ⟨hbelow, plain⟩ =>
      missed (.inr ⟨q, hq, prefix_ofText.mpr ⟨hroot, hbelow⟩, plain⟩)
    obtain ⟨whole, distinct, hreach, hlost⟩ :=
      Value.exists_cut cut (v := .num n) trivial rfl fun _ _ => rfl
    refine ⟨[(Path.root path, whole)], Value.distinct_single distinct, ?_, ?_⟩
    · rw [Record.reach_ofText, Fields.get?_cons, if_pos rfl, Option.elim_some, hreach]
    · rw [Record.reach_ofText, ← hroot, get?_apply_only_of_ne tidy hq (hroot ▸ notId), selected,
        hroot, Fields.get?_cons, if_pos rfl, Option.bind_some, hlost]
  · refine ⟨[(Path.root path, Value.nest (Path.below path) (.num n))],
      Value.distinct_single (Value.distinct_nest _ trivial), ?_, ?_⟩
    · rw [Record.reach_ofText, Fields.get?_cons, if_pos rfl, Option.elim_some, Value.reach_nest]
    · have absent : ∀ q ∈ paths, Path.root q ≠ Path.root path := fun q hq hroot =>
        here ⟨q, hq, hroot⟩
      rw [Record.reach_ofText, get?_apply_only_absent absent, if_neg notId]
      rfl

theorem keepsReading_iff {paths : NameSet} (tidy : (only paths).Tidy) {path : String}
    (notId : Path.root path ≠ "_id") :
    (only paths).KeepsReading path ↔ (only paths).Covers path := by
  refine ⟨fun keeps => Classical.byContradiction fun missed => ?_,
    fun covers => covers.keepsReading tidy⟩
  obtain ⟨r, distinct, hreach, hlost⟩ := exists_lost tidy notId missed (.int 0)
  have := keeps r distinct
  rw [Record.reading?, Record.reading?, Record.pick?, Record.pick?, hreach, hlost] at this
  cases this

end Projection

end RecordQuery
