import RecordQuery.Aggregation.Session
import RecordQuery.Proofs.Outcome

/-!
# What a session keeps

A session stays of the kind it was started for, and counts every record it takes.
-/

namespace RecordQuery

theorem PivotTable.records_start {layout : PivotLayout} {t : PivotTable}
    (h : start layout = .ok t) : t.records = 0 := by
  rw [start] at h
  split at h
  · cases h
  · split at h
    · cases h
    · obtain rfl := Except.ok.inj h
      rfl

theorem Chart.records_start {config : ChartConfig} {c : Chart} (h : start config = .ok c) :
    c.records = 0 := by
  rw [start] at h
  split at h
  · cases h
  · obtain ⟨series, _, h⟩ := bind_eq_ok_iff.mp h
    obtain rfl := Except.ok.inj h
    rfl

theorem KeyFigure.records_start {config : KpiConfig} {f : KeyFigure} (h : start config = .ok f) :
    f.readings.records = 0 := by
  rw [start] at h
  split at h
  · cases h
  · obtain rfl := Except.ok.inj h
    rfl

theorem Accumulator.records_push (a : Accumulator) (reading : Option Float) :
    (a.push reading).records = a.records + 1 := by
  cases reading <;> rfl

namespace Session

/-- What the session aggregates to. -/
def kind : Session → AggregationKind
  | pivot _ => .pivot
  | graph _ => .graph
  | kpi _ => .kpi

/-- A session starts as one of the requested kind, without records. -/
theorem start_eq_ok {init : AggregationInit} {s : Session} (h : start init = .ok s) :
    s.kind = init.kind ∧ s.rows = 0 := by
  obtain ⟨kind, config⟩ := init
  rw [start] at h
  split at h
  · cases h
  · cases kind with
    | pivot =>
      dsimp only at h
      split at h
      · obtain ⟨t, ht, rfl⟩ := map_eq_ok_iff.mp h
        exact ⟨rfl, PivotTable.records_start ht⟩
      · cases h
    | graph =>
      dsimp only at h
      split at h
      · obtain ⟨c, hc, rfl⟩ := map_eq_ok_iff.mp h
        exact ⟨rfl, Chart.records_start hc⟩
      · cases h
    | kpi =>
      dsimp only at h
      split at h
      · obtain ⟨f, hf, rfl⟩ := map_eq_ok_iff.mp h
        exact ⟨rfl, KeyFigure.records_start hf⟩
      · cases h

theorem kind_push (s : Session) (r : Record) : (s.push r).kind = s.kind := by
  cases s <;> rfl

theorem rows_push (s : Session) (r : Record) : (s.push r).rows = s.rows + 1 := by
  cases s with
  | pivot table => rfl
  | graph chart => rfl
  | kpi figure => exact figure.readings.records_push _

theorem kind_pushAll (s : Session) (records : List Record) : (s.pushAll records).kind = s.kind := by
  induction records generalizing s with
  | nil => rfl
  | cons r rest ih => exact (ih (s.push r)).trans (s.kind_push r)

theorem rows_pushAll (s : Session) (records : List Record) :
    (s.pushAll records).rows = s.rows + records.length := by
  induction records generalizing s with
  | nil => rfl
  | cons r rest ih =>
    have others : (s.pushAll (r :: rest)).rows = (s.push r).rows + rest.length := ih (s.push r)
    rw [others, rows_push, List.length_cons]
    omega

end Session

end RecordQuery
