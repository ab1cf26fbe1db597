import RecordQuery.Bridge.Backend
import RecordQuery.Kpi.Run
import RecordQuery.Proofs.Pivot.Layout
import RecordQuery.Proofs.Text.Lines

/-!
# Figures over readings

A key figure that has been pushed record by record is its operation over the numbers among the
readings, in the order they came. On its way out a figure that is too large to be rounded becomes
zero.
-/

namespace RecordQuery

namespace Aggregator

/-- An operation on numbers. No numbers have a result of zero. -/
def ofNumbers (operation : Aggregator) (numbers : List Float) : Float :=
  match numbers with
  | [] => 0
  | first :: rest =>
    match operation with
    | count => Binary64.ofInt (rest.length + 1)
    | sum => (first :: rest).foldl (· + ·) 0
    | average => (first :: rest).foldl (· + ·) 0 / Binary64.ofInt (rest.length + 1)
    | min => rest.foldl Binary64.lesser first
    | max => rest.foldl Binary64.greater first

end Aggregator

namespace Accumulator

/-- The numbers among readings, in their order. -/
def numbers (readings : List (Option Float)) : List Float := readings.filterMap id

@[simp]
theorem numbers_nil : numbers [] = [] := rfl

@[simp]
theorem numbers_none_cons (rest : List (Option Float)) : numbers (none :: rest) = numbers rest :=
  rfl

@[simp]
theorem numbers_some_cons (x : Float) (rest : List (Option Float)) :
    numbers (some x :: rest) = x :: numbers rest := rfl

theorem push_some (a : Accumulator) (x : Float) :
    a.push (some x) = {
      records := a.records + 1
      numeric := a.numeric + 1
      sum := a.sum + x
      least := some (a.least.elim x fun low => Binary64.lesser low x)
      greatest := some (a.greatest.elim x fun high => Binary64.greater high x) } := by
  obtain ⟨records, numeric, sum, least, greatest⟩ := a
  cases least <;> cases greatest <;> rfl

/-- What readings add to an accumulator. -/
theorem foldl_push (readings : List (Option Float)) (a : Accumulator) :
    readings.foldl push a = {
      records := a.records + readings.length
      numeric := a.numeric + (numbers readings).length
      sum := (numbers readings).foldl (· + ·) a.sum
      least := (numbers readings).foldl
        (fun least x => some (least.elim x fun low => Binary64.lesser low x)) a.least
      greatest := (numbers readings).foldl
        (fun greatest x => some (greatest.elim x fun high => Binary64.greater high x))
        a.greatest } := by
  induction readings generalizing a with
  | nil => rfl
  | cons reading rest ih =>
    rw [List.foldl_cons, ih]
    cases reading with
    | none => simp [push, Nat.add_assoc, Nat.add_comm 1]
    | some x => simp [push_some, Nat.add_assoc, Nat.add_comm 1]

theorem foldl_extremum (f : Float → Float → Float) (numbers : List Float) (x : Float) :
    numbers.foldl (fun best y => some (best.elim y fun before => f before y)) (some x)
      = some (numbers.foldl f x) := by
  induction numbers generalizing x with
  | nil => rfl
  | cons y rest ih => exact ih (f x y)

/-- Where there are numbers, the result is the operation on them. -/
theorem result_ofReadings {readings : List (Option Float)} {operation : Aggregator}
    (folds : operation ≠ .count) (nonempty : numbers readings ≠ []) :
    (ofReadings readings).result operation = operation.ofNumbers (numbers readings) := by
  rw [ofReadings, foldl_push]
  obtain ⟨first, rest, hnumbers⟩ := List.exists_cons_of_ne_nil nonempty
  cases operation with
  | count => exact absurd rfl folds
  | sum => simp [result, hnumbers, Aggregator.ofNumbers, empty]
  | average => simp [result, hnumbers, Aggregator.ofNumbers, empty]
  | min => simp [result, hnumbers, Aggregator.ofNumbers, empty, foldl_extremum]
  | max => simp [result, hnumbers, Aggregator.ofNumbers, empty, foldl_extremum]

end Accumulator

namespace KpiResult

/-- An operation on the readings of all records. -/
def folded (operation : Aggregator) (readings : List (Option Float)) : KpiResult where
  value :=
    if Accumulator.numbers readings = [] then 0
    else KeyFigure.rounded (operation.ofNumbers (Accumulator.numbers readings))
  count := readings.length
  validCount := some (Accumulator.numbers readings).length

/-- A value that is no finite number is shown as zero. -/
def shown (r : KpiResult) : KpiResult :=
  { r with value := if Binary64.isFinite r.value then r.value else 0 }

/-- No record folds to the result of a read without records. -/
theorem shown_folded_nil (operation : Aggregator) : (folded operation []).shown = empty := by
  simp [folded, shown, empty]

end KpiResult

namespace KeyFigure

/-- The figure as it is handed back. -/
theorem ofTable_toValue (figure : KeyFigure) :
    KpiResult.ofTable figure.toValue
      = KpiResult.shown ⟨figure.result, figure.readings.records, some figure.readings.numeric⟩ := by
  have shown (x : Float) : (Value.ofFloat x).asFloat?.getD 0
      = if Binary64.isFinite x then x else 0 := by
    rw [Value.ofFloat]
    split <;> rfl
  rw [KpiResult.shown, ← shown]
  rfl

theorem ofTable_ofReadings {operation : Aggregator} (folds : operation ≠ .count)
    (field : Option String) (readings : List (Option Float)) :
    KpiResult.ofTable (KeyFigure.toValue ⟨operation, field, .ofReadings readings⟩)
      = (KpiResult.folded operation readings).shown := by
  have records : (Accumulator.ofReadings readings).records = readings.length := by
    simp [Accumulator.ofReadings, Accumulator.foldl_push, Accumulator.empty]
  have numeric : (Accumulator.ofReadings readings).numeric
      = (Accumulator.numbers readings).length := by
    simp [Accumulator.ofReadings, Accumulator.foldl_push, Accumulator.empty]
  have result : KeyFigure.result ⟨operation, field, .ofReadings readings⟩
      = (KpiResult.folded operation readings).value := by
    have unfolded : KeyFigure.result ⟨operation, field, .ofReadings readings⟩
        = if (Accumulator.ofReadings readings).numeric = 0 then 0
          else rounded ((Accumulator.ofReadings readings).result operation) := by
      cases operation with
      | count => exact absurd rfl folds
      | _ => rfl
    rw [unfolded, numeric, KpiResult.folded]
    by_cases nothing : Accumulator.numbers readings = []
    · simp [nothing]
    · simp [nothing, Accumulator.result_ofReadings folds nothing]
  rw [ofTable_toValue, records, numeric, result]
  rfl

theorem pushAll (operation : Aggregator) (path : String) (records : List Record)
    (readings : Accumulator) :
    (Session.kpi ⟨operation, some path, readings⟩).pushAll records
      = .kpi ⟨operation, some path,
          (records.map fun r => Record.reading? r path).foldl Accumulator.push readings⟩ := by
  induction records generalizing readings with
  | nil => rfl
  | cons r rest ih => exact ih (readings.push (Record.reading? r path))

end KeyFigure

namespace KpiConfig

theorem trimmed_of_field {config : KpiConfig} {path : String} (asked : config.field = some path) :
    Text.Trimmed path.toList := by
  obtain ⟨trimmed, htrimmed, h⟩ := Option.bind_eq_some_iff.mp asked
  obtain ⟨s, _, rfl⟩ := Option.map_eq_some_iff.mp htrimmed
  split at h
  · cases h
  · rename_i nonempty
    obtain rfl := Option.some.inj h
    exact .of_trim nonempty

theorem ofValue?_sessionValue (operation : Aggregator) (path : String) :
    ofValue? (sessionValue operation path) = some ⟨operation, some path⟩ := by
  have slots : Shape.slots? [["operation"], ["field"]] (sessionValue operation path)
      = some [some operation.toValue, some (.str path)] :=
    Shape.slots?_present [("operation", some operation.toValue), ("field", some (.str path))]
      (by simp)
  rw [ofValue?, slots]
  simp [Aggregator.ofValue?_toValue, Shape.fill, Shape.optional, Value.asStr?]

theorem start_sessionValue (operation : Aggregator) {path : String}
    (trimmed : Text.Trimmed path.toList) :
    Session.start ⟨.kpi, sessionValue operation path⟩
      = .ok (.kpi ⟨operation, some path, .empty⟩) := by
  have field : KpiConfig.field ⟨operation, some path⟩ = some path := by
    simp [KpiConfig.field, trimmed.trim, trimmed.ne_empty]
  rw [Session.start]
  simp only [ofValue?_sessionValue, KeyFigure.start, field]
  rfl

end KpiConfig

/-- A figure of the whole stream, or the failure that ends it. -/
theorem Backend.inProcess_kpi (operation : Aggregator) {path : String}
    (trimmed : Text.Trimmed path.toList) (stream : RecordStream) :
    inProcess ⟨.kpi, KpiConfig.sessionValue operation path⟩ stream = match stream.failure with
      | some e => .error (.streamFailed e.message)
      | none => .ok (.table (KeyFigure.toValue ⟨operation, some path,
          .ofReadings (stream.records.map fun r => Record.reading? r path)⟩)) := by
  rw [inProcess, KpiConfig.start_sessionValue operation trimmed]
  cases hfailure : stream.failure with
  | some e => rfl
  | none =>
    change Except.ok ((Session.kpi _).pushAll stream.records).finish = _
    rw [KeyFigure.pushAll]
    rfl

end RecordQuery
