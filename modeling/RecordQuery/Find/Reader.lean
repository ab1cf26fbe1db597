import RecordQuery.Find.Basic

/-!
Reading an open find. Records are pulled through the stages one at a time, whenever the next is asked
for; the first error is the last answer. The number of all matching records is counted apart from
the reading and can be taken once.
-/

namespace RecordQuery

/-- A find that is being read. -/
structure FindReader where
  stages : List Stage
  /-- What the cursor has not handed out yet. -/
  left : Cursor
  /-- Records read so far. -/
  yielded : Nat
  finished : Bool
  /-- The number of all matching records, if it was asked for and not taken yet. -/
  total : Option (Except StoreError Nat)

namespace FindReader

def start (stages : List Stage) (cursor : Cursor) (total : Option (Except StoreError Nat)) :
    FindReader := ⟨stages, cursor, 0, false, total⟩

/-- The next record or the error that ends the reading. After the end the cursor is left alone. -/
def next (s : FindReader) : Option (Except StreamError Record) × FindReader :=
  if s.finished then (none, s)
  else match s.left with
    | [] => (none, { s with finished := true })
    | .error e :: rest => (some (.error (.store e)), { s with left := rest, finished := true })
    | .ok record :: rest =>
      match Stage.run s.stages record with
      | .ok out => (some (.ok out), { s with left := rest, yielded := s.yielded + 1 })
      | .error e => (some (.error e), { s with left := rest, finished := true })

/-- Takes the number of matching records; the reading goes on without it. -/
def takeTotal (s : FindReader) : Option (Except StoreError Nat) × FindReader :=
  (s.total, { s with total := none })

end FindReader

namespace QueryEngine

/-- Opens a request for reading. -/
def openReader (engine : QueryEngine) (request : FindRequest) : Except QueryError FindReader := do
  let built ← engine.build request
  let cursor ← (engine.store.find request.document built.plan).mapError .store
  return .start (engine.stages built request) cursor
    (if request.withTotal then some (engine.store.count request.document built.plan.query)
      else none)

end QueryEngine

end RecordQuery
