import RecordQuery.Calendar.Instant

/-!
Calendar periods of an instant, named so that later periods of one kind have later names.
-/

namespace RecordQuery

/-- A kind of calendar period. -/
inductive Bucket
  | day
  | week
  | month
  | quarter
  | year
  deriving DecidableEq, Repr, Inhabited

namespace Bucket

/-- The period's name: `2024-01-15`, `2024-W03`, `2024-01`, `2024-Q1` or `2024`. Only days and
months pad their year. -/
def label (bucket : Bucket) (t : Instant) : String :=
  match bucket with
  | day => Instant.dayText t.date
  | week =>
    let week := Calendar.weekOf t.day
    toString week.year ++ "-W" ++ Instant.padded 2 week.number
  | month => Instant.monthText t.date
  | quarter => toString t.date.year ++ "-Q" ++ toString ((t.date.month - 1) / 3 + 1)
  | year => toString t.date.year

end Bucket

end RecordQuery
