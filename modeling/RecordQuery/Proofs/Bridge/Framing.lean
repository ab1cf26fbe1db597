import Mathlib.Data.List.Forall2
import RecordQuery.Bridge.Aggregator
import RecordQuery.Proofs.Aggregation.Session
import RecordQuery.Proofs.Bridge.Reply

/-!
# What an aggregating program writes

Whatever text it reads, the program writes one reply line. A payload follows exactly if every line
behind the request was a record and was taken, so what can be read as a success is whole.
-/

namespace RecordQuery

namespace Text

end Text

theorem SessionError.code_fits (e : SessionError) :
    -(Word.bound63 : Int) ≤ e.code ∧ e.code < Word.bound63 := by
  have known : e.code = -32700 ∨ e.code = -32601 ∨ e.code = -32602 := by
    cases e <;> simp [code]
  rcases known with h | h | h <;> rw [h] <;> decide

namespace Aggregator

variable {input : String}

theorem run_of_ok {s : Session} (h : session input = .ok s) :
    run input
      = ⟨.ok s.rows, (Reply.success s.rows).line ++ (s.finish.payload ++ "\n")⟩ := by
  rw [run, h]
  simp only [String.append_assoc]

theorem run_of_error {e : SessionError} (h : session input = .error e) :
    run input = ⟨.error e, (Reply.failed e.code e.message).line⟩ := by
  rw [run, h]

/-- A success is read back with the payload behind it. -/
theorem split_run_of_ok {s : Session} (h : session input = .ok s)
    (word : (Value.nat s.rows).ReadsBack) :
    AggregationOutput.split (run input).output
      = .ok (Reply.success s.rows, s.finish.payload ++ "\n") := by
  rw [run_of_ok h, AggregationOutput.split_line (Reply.readable_success word)]
  rfl

/-- A failure is read back as the error that it tells, whatever the message holds. -/
theorem split_run_of_error {e : SessionError} (h : session input = .error e) :
    AggregationOutput.split (run input).output = .error (.rpc e.code e.message "") := by
  have replied := AggregationOutput.split_line (Reply.readable_failed e.code_fits e.message) ""
  rw [String.append_empty] at replied
  rw [run_of_error h, replied]
  rfl

end Aggregator

namespace Deals

end Deals

end RecordQuery
