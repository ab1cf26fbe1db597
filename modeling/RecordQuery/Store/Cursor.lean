import RecordQuery.Store.Projection
import RecordQuery.Store.Query
import RecordQuery.Value.Order

/-!
Reading a memory record by record. A cursor looks at its candidates one after the other, no further
than it has to: it passes over those that do not match and those that are to be skipped, and it ends
when it has handed out enough.
-/

namespace RecordQuery

/-- Everything one find needs. -/
structure FindPlan where
  query : Value
  sort : List SortKey
  skip : Nat
  limit : Option Nat
  projection : Projection

/-- A find over a memory that is being read. -/
structure MemoryCursor where
  plan : FindPlan
  predicate : Predicate
  /-- The candidates not looked at yet. With sort keys they match already and are in order. -/
  left : List Record
  skipped : Nat
  yielded : Nat

namespace MemoryCursor

/-- Whether as many records were handed out as the plan allows. -/
def isExhausted (c : MemoryCursor) : Bool := c.plan.limit.any (· ≤ c.yielded)

/-- Looks at candidates until one is to be handed out. -/
def advance (c : MemoryCursor) : List Record → Nat → Option Record × MemoryCursor
  | [], skipped => (none, { c with left := [], skipped })
  | r :: rest, skipped =>
    if c.plan.sort.isEmpty && !c.predicate.holds r then advance c rest skipped
    else if skipped < c.plan.skip then advance c rest (skipped + 1)
    else (some (c.plan.projection.apply r),
      { c with left := rest, skipped, yielded := c.yielded + 1 })

/-- The next record, if there is one, and the cursor behind it. -/
def next (c : MemoryCursor) : Option Record × MemoryCursor :=
  if c.isExhausted then (none, c) else c.advance c.left c.skipped

/-- What the cursor hands out when it is asked a number of times at most. -/
def take : Nat → MemoryCursor → List Record
  | 0, _ => []
  | n + 1, c =>
    match c.next with
    | (some r, c) => r :: take n c
    | (none, _) => []

/-- All that the cursor hands out: a record for each candidate at most. -/
def toList (c : MemoryCursor) : List Record := c.take c.left.length

end MemoryCursor

end RecordQuery
