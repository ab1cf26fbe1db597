import RecordQuery.Find.Reader
import RecordQuery.Proofs.Find.RowFilters
import RecordQuery.Proofs.Find.Whole

/-!
# Reading up to the first error

A reader answers with the image of each record in the order of its cursor, then with the first error
if there is one, and then with nothing, however often it is asked and whatever the cursor still
holds. It counts the records it has answered with, and the total does not depend on the reading.
-/

namespace RecordQuery

namespace RecordStream

end RecordStream

namespace FindReader

/-- What can be done with a reader. -/
inductive Move
  | next
  | takeTotal
  deriving DecidableEq

def move (s : FindReader) : Move → FindReader
  | .next => s.next.2
  | .takeTotal => s.takeTotal.2

/-- The reader after some moves. -/
def after (s : FindReader) (moves : List Move) : FindReader := moves.foldl move s

/-- The answers still to come. -/
def pending (s : FindReader) : List (Except StreamError Record) :=
  if s.finished then [] else (RecordStream.ofCursor s.stages s.left).items

end FindReader

namespace QueryEngine

variable {engine : QueryEngine} {request : FindRequest}

end QueryEngine

namespace Deals

/-- Deals and their number. -/
def counted : FindRequest := { FindRequest.new "Deal" with withTotal := true }

end Deals

end RecordQuery
