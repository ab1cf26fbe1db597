import RecordQuery.Bridge.Message
import RecordQuery.Proofs.Value.Line
import RecordQuery.Proofs.Value.RoundTrip
import RecordQuery.Proofs.Value.Shape

/-!
# Replies are read as they were written

The reader of an output finds the reply in its first line, whatever payload stands behind it.
-/

namespace RecordQuery

theorem ReplyStatus.ofValue?_toValue (s : ReplyStatus) : ofValue? s.toValue = some s := by
  have slots : Shape.slots? [["status"], ["rowCount"]] s.toValue
      = some [some (.str s.status), some (.nat s.rowCount)] :=
    Shape.slots?_present [("status", some _), ("rowCount", some _)] (by simp)
  have rows : Shape.fill 0 Value.asNat? (some (.nat s.rowCount)) = some s.rowCount := rfl
  simp [ofValue?, slots, Value.asStr?, rows]

theorem ReplyFailure.ofValue?_toValue {f : ReplyFailure} (h : f.code < Word.bound63) :
    ofValue? f.toValue = some f := by
  have slots : Shape.slots? [["code"], ["message"]] f.toValue
      = some [some (.int f.code), some (.str f.message)] :=
    Shape.slots?_present [("code", some _), ("message", some _)] (by simp)
  have code : Value.asInt? (.int f.code) = some f.code := if_pos h
  simp [ofValue?, slots, Value.asStr?, code]

namespace Reply

/-- The numbers of the reply are read back; a code has a sign, so it fits a smaller word. -/
structure Readable (r : Reply) : Prop where
  rows : ∀ s, r.result = some s → (Value.nat s.rowCount).ReadsBack
  code : ∀ f, r.failure = some f → -(Word.bound63 : Int) ≤ f.code ∧ f.code < Word.bound63

theorem readable_success {rows : Nat} (h : (Value.nat rows).ReadsBack) :
    (success rows).Readable where
  rows := by
    rintro s hs
    obtain rfl := Option.some.inj hs
    exact h
  code := by simp [success]

theorem readable_failed {code : Int} (h : -(Word.bound63 : Int) ≤ code ∧ code < Word.bound63)
    (message : String) : (failed code message).Readable where
  rows := by simp [failed]
  code := by
    rintro f hf
    obtain rfl := Option.some.inj hf
    exact h

namespace Readable

variable {r : Reply}

theorem ofValue?_toValue (h : r.Readable) : ofValue? r.toValue = some r := by
  have slots : Shape.slots? [["jsonrpc"], ["result"], ["error"]] r.toValue
      = some [some (.str r.version), r.result.map (·.toValue), r.failure.map (·.toValue)] :=
    Shape.slots?_present [("jsonrpc", some _), ("result", _), ("error", _)] (by simp)
  have result : Shape.fill none (Shape.optional ReplyStatus.ofValue?) (r.result.map (·.toValue))
      = some r.result :=
    Shape.fill_optional ReplyStatus.ofValue?_toValue (fun _ => by simp [ReplyStatus.toValue]) _
  have failure : Shape.fill none (Shape.optional ReplyFailure.ofValue?)
      (r.failure.map (·.toValue)) = some r.failure := by
    cases hfailure : r.failure with
    | none => rfl
    | some f =>
      change (ReplyFailure.ofValue? f.toValue).map some = some (some f)
      rw [ReplyFailure.ofValue?_toValue (h.code f hfailure).2]
      rfl
  simp [ofValue?, slots, Value.asStr?, result, failure]

theorem numbersReadBack (h : r.Readable) : r.toValue.NumbersReadBack := by
  obtain ⟨version, result, failure⟩ := r
  have status : ∀ s, result = some s → s.toValue.NumbersReadBack := fun s hs =>
    ⟨trivial, Value.readsBack_num_iff.mp (h.rows s hs), trivial⟩
  have fault : ∀ f, failure = some f → f.toValue.NumbersReadBack := fun f hf =>
    ⟨Number.read?_text_int (h.code f hf).1 (Int.lt_trans (h.code f hf).2 (by decide)), trivial,
      trivial⟩
  cases result with
  | none =>
    cases failure with
    | none => exact ⟨trivial, trivial⟩
    | some f => exact ⟨trivial, fault f rfl, trivial⟩
  | some s =>
    cases failure with
    | none => exact ⟨trivial, status s rfl, trivial⟩
    | some f => exact ⟨trivial, status s rfl, fault f rfl, trivial⟩

theorem readVerbatim?_text (h : r.Readable) :
    Value.readVerbatim? r.toValue.text = some r.toValue := by
  have shallow : r.toValue.depth ≤ Value.maxDepth := by
    obtain ⟨version, result, failure⟩ := r
    cases result <;> cases failure <;> exact Nat.le_of_ble_eq_true rfl
  exact Value.readVerbatim?_text h.numbersReadBack shallow

end Readable

end Reply

namespace AggregationOutput

/-- An output that begins with the line of a reply is split behind it, or fails as it says. -/
theorem split_line {r : Reply} (h : r.Readable) (payload : String) :
    split (r.line ++ payload) = match r.failure, r.result with
      | some failure, _ => .error (.rpc failure.code failure.message "")
      | none, none => .error (.protocol "RPC response carries neither result nor error" "")
      | none, some _ => .ok (r, payload) := by
  have framed : Text.Trimmed r.toValue.text.toList := Value.trimmed_text_obj _
  obtain ⟨c, rest, hfirst, hc⟩ := framed.first
  have kept : (r.line ++ payload).toList.dropWhile (fun c => c = '\n' || c = '\r')
      = (r.line ++ payload).toList := by
    have shape : (r.line ++ payload).toList = c :: (rest ++ '\n' :: payload.toList) := by
      simp [Reply.line, hfirst]
    rw [shape, List.dropWhile_cons_of_neg]
    intro hline
    have : c = '\n' ∨ c = '\r' := by simpa using hline
    rcases this with rfl | rfl <;> exact absurd hc (by decide)
  have solid : Text.trim (r.line ++ payload) ≠ "" :=
    Text.trim_ne_empty ⟨c, by simp [Reply.line, hfirst], hc⟩
  have cut : Text.splitOnce? '\n' (r.line ++ payload) = some (r.toValue.text, payload) :=
    Text.splitOnce?_append (Value.newline_not_mem_text _) payload
  have read : (Value.readVerbatim? r.toValue.text).bind Reply.ofValue? = some r := by
    rw [h.readVerbatim?_text]
    exact h.ofValue?_toValue
  cases hfailure : r.failure <;> cases hresult : r.result <;>
    simp only [split, kept, String.ofList_toList, if_neg solid, cut, Option.getD_some, framed.trim,
      read, hfailure, hresult]

end AggregationOutput

end RecordQuery
