import RecordQuery.Proofs.Value.Ascending
import RecordQuery.Proofs.Value.Distinct
import RecordQuery.Proofs.Value.Tokens

/-!
# Reading inverts writing

A value that is not too deep is read back from its text, if its numbers are and no record inside it
has a name twice.
-/

namespace RecordQuery

namespace Value

mutual
/-- Lists and records that are open at once where the value is deepest. -/
def depth : Value → Nat
  | arr items => depthList items + 1
  | obj fields => depthFields fields + 1
  | _ => 0

def depthList : List Value → Nat
  | [] => 0
  | v :: rest => max (depth v) (depthList rest)

def depthFields : List (String × Value) → Nat
  | [] => 0
  | (_, v) :: rest => max (depth v) (depthFields rest)
end

mutual
/-- Every number inside the value is read back from its text. -/
def NumbersReadBack : Value → Prop
  | num n => Number.read? n.text.toList = some n
  | arr items => NumbersReadBackList items
  | obj fields => NumbersReadBackFields fields
  | _ => True

def NumbersReadBackList : List Value → Prop
  | [] => True
  | v :: rest => NumbersReadBack v ∧ NumbersReadBackList rest

def NumbersReadBackFields : List (String × Value) → Prop
  | [] => True
  | (_, v) :: rest => NumbersReadBack v ∧ NumbersReadBackFields rest
end

/-- What is read from the tokens that are left. -/
def readFrom? (state : Reading) (ts : List Token) : Option Value := do
  match ← ts.foldlM readStep state with
  | .finished v => return v
  | _ => none

theorem readFrom?_cons {state next : Reading} {t : Token} (h : readStep state t = some next)
    (ts : List Token) : readFrom? state (t :: ts) = readFrom? next ts := by
  rw [readFrom?, List.foldlM_cons, h]
  rfl

section
variable {frames : List Frame} (mayClose : Bool) (h : frames.length < maxDepth)
include h

theorem readStep_openList :
    readStep (.value frames mayClose) .openList = some (.value (.list [] :: frames) true) := if_pos h

theorem readStep_openRecord :
    readStep (.value frames mayClose) .openRecord = some (.name frames [] true) := if_pos h

end

/-- A number that is read back is spelled like no other word. -/
theorem ofWord?_text {n : Number} (h : Number.read? n.text.toList = some n) :
    ofWord? n.text.toList = some (num n) := by
  have other : ∀ word : List Char, Number.read? word = none → n.text.toList ≠ word := by
    rintro word hword rfl
    rw [hword] at h
    cases h
  rw [ofWord?, if_neg (other _ (by decide)), if_neg (other _ (by decide)),
    if_neg (other _ (by decide)), h]
  rfl

mutual
theorem readFrom?_tokens : ∀ (v : Value) (frames : List Frame) (mayClose : Bool)
    (rest : List Token), v.NumbersReadBack → v.depth + frames.length ≤ maxDepth →
      readFrom? (.value frames mayClose) (v.tokens ++ rest) = readFrom? (complete v frames) rest
  | null, frames, mayClose, rest, _, _ | bool true, frames, mayClose, rest, _, _
  | bool false, frames, mayClose, rest, _, _ | str _, frames, mayClose, rest, _, _ =>
    readFrom?_cons rfl rest
  | num n, frames, mayClose, rest, numbers, _ => by
    have step : readStep (.value frames mayClose) (.word n.text.toList)
        = some (complete (num n) frames) := by
      rw [readStep, ofWord?_text numbers]
      rfl
    exact readFrom?_cons step rest
  | arr [], frames, mayClose, rest, _, shallow => by
    simp only [depth, depthList] at shallow
    exact (readFrom?_cons (readStep_openList mayClose (by omega)) _).trans (readFrom?_cons rfl rest)
  | arr (v :: more), frames, mayClose, rest, numbers, shallow => by
    rw [depth] at shallow
    have inside := readFrom?_tokensList (v :: more) [] frames true rest (by simp) numbers shallow
    rw [tokens, List.cons_append, readFrom?_cons (readStep_openList mayClose (by omega)),
      List.append_assoc, List.singleton_append]
    exact inside
  | obj [], frames, mayClose, rest, _, shallow => by
    simp only [depth, depthFields] at shallow
    exact (readFrom?_cons (readStep_openRecord mayClose (by omega)) _).trans
      (readFrom?_cons rfl rest)
  | obj (entry :: more), frames, mayClose, rest, numbers, shallow => by
    rw [depth] at shallow
    have inside := readFrom?_tokensFields (entry :: more) [] frames true rest (by simp) numbers
      shallow
    rw [tokens, List.cons_append, readFrom?_cons (readStep_openRecord mayClose (by omega)),
      List.append_assoc, List.singleton_append]
    exact inside

/-- Behind the entries of an open list comes its end. -/
theorem readFrom?_tokensList : ∀ (items done : List Value) (frames : List Frame) (mayClose : Bool)
    (rest : List Token), items ≠ [] → NumbersReadBackList items →
      depthList items + 1 + frames.length ≤ maxDepth →
      readFrom? (.value (.list done :: frames) mayClose) (tokensList items ++ .closeList :: rest)
        = readFrom? (complete (arr (done.reverse ++ items)) frames) rest
  | [], _, _, _, _, nonempty, _, _ => absurd rfl nonempty
  | [v], done, frames, mayClose, rest, _, numbers, shallow => by
    have value := readFrom?_tokens v (.list done :: frames) mayClose (.closeList :: rest) numbers.1
      (by simp only [depthList, List.length_cons] at shallow ⊢; omega)
    rw [tokensList, value, complete, readFrom?_cons rfl, List.reverse_cons]
  | v :: w :: more, done, frames, mayClose, rest, _, numbers, shallow => by
    rw [depthList] at shallow
    have value := readFrom?_tokens v (.list done :: frames) mayClose
      (.comma :: (tokensList (w :: more) ++ .closeList :: rest)) numbers.1
      (by rw [List.length_cons]; omega)
    have others := readFrom?_tokensList (w :: more) (v :: done) frames false rest (by simp)
      numbers.2 (by omega)
    rw [List.reverse_cons, List.append_assoc, List.singleton_append] at others
    rw [tokensList, List.append_assoc, List.cons_append, value, complete, readFrom?_cons rfl,
      others]
    simp

/-- Behind the entries of an open record comes its end. -/
theorem readFrom?_tokensFields : ∀ (fields done : List (String × Value)) (frames : List Frame)
    (mayClose : Bool) (rest : List Token), fields ≠ [] → NumbersReadBackFields fields →
      depthFields fields + 1 + frames.length ≤ maxDepth →
      readFrom? (.name frames done mayClose) (tokensFields fields ++ .closeRecord :: rest)
        = readFrom? (complete (obj (done.reverse ++ fields)) frames) rest
  | [], _, _, _, _, nonempty, _, _ => absurd rfl nonempty
  | [(name, v)], done, frames, mayClose, rest, _, numbers, shallow => by
    have value := readFrom?_tokens v (.entry done name :: frames) false (.closeRecord :: rest)
      numbers.1 (by simp only [depthFields, List.length_cons] at shallow ⊢; omega)
    rw [tokensFields, List.cons_append, List.cons_append, readFrom?_cons rfl, readFrom?_cons rfl,
      value, complete, readFrom?_cons rfl, List.reverse_cons]
  | (name, v) :: entry :: more, done, frames, mayClose, rest, _, numbers, shallow => by
    rw [depthFields] at shallow
    have value := readFrom?_tokens v (.entry done name :: frames) false
      (.comma :: (tokensFields (entry :: more) ++ .closeRecord :: rest)) numbers.1
      (by rw [List.length_cons]; omega)
    have others := readFrom?_tokensFields (entry :: more) ((name, v) :: done) frames false rest
      (by simp) numbers.2 (by omega)
    rw [List.reverse_cons, List.append_assoc, List.singleton_append] at others
    rw [tokensFields, List.cons_append, List.cons_append, List.append_assoc, List.cons_append,
      readFrom?_cons rfl, readFrom?_cons rfl, value, complete, readFrom?_cons rfl, others]
    simp
end

theorem readVerbatim?_text {v : Value} (numbers : v.NumbersReadBack)
    (shallow : v.depth ≤ maxDepth) : readVerbatim? v.text = some v := by
  have whole := readFrom?_tokens v [] false [] numbers shallow
  rw [List.append_nil] at whole
  rw [readVerbatim?, tokens?_text]
  exact whole

mutual
/-- There is nothing to collapse where each name occurs once. -/
theorem collapse_of_distinct : ∀ v : Value, v.Distinct → v.collapse = v
  | null, _ | bool _, _ | num _, _ | str _, _ => rfl
  | arr items, h => by rw [collapse, collapseList_of_distinct items h]
  | obj fields, h => by
    rw [collapse, collapseFields_of_distinct fields h.2, Fields.collapse_of_nodup h.1]

theorem collapseList_of_distinct : ∀ items : List Value, DistinctItems items →
    collapseList items = items
  | [], _ => rfl
  | v :: rest, h => by
    rw [collapseList, collapse_of_distinct v h.1, collapseList_of_distinct rest h.2]

theorem collapseFields_of_distinct : ∀ fields : List (String × Value), DistinctFields fields →
    collapseFields fields = fields
  | [], _ => rfl
  | (name, v) :: rest, h => by
    rw [collapseFields, collapse_of_distinct v h.1, collapseFields_of_distinct rest h.2]
end

/-- The value is read back from its text. -/
def ReadsBack (v : Value) : Prop := read? v.text = some v

instance (v : Value) : Decidable v.ReadsBack :=
  inferInstanceAs (Decidable (read? v.text = some v))

/-- Reading inverts writing. -/
theorem readsBack_of_distinct {v : Value} (numbers : v.NumbersReadBack) (distinct : v.Distinct)
    (shallow : v.depth ≤ maxDepth) : v.ReadsBack := by
  rw [ReadsBack, read?, readVerbatim?_text numbers shallow, Option.map_some,
    collapse_of_distinct v distinct]

theorem readsBack_num_iff {n : Number} :
    (num n).ReadsBack ↔ Number.read? n.text.toList = some n := by
  refine ⟨fun h => ?_, fun h => readsBack_of_distinct h trivial (Nat.zero_le _)⟩
  have single : readVerbatim? (num n).text = ofWord? n.text.toList := by
    rw [readVerbatim?, tokens?_text]
    change readFrom? (.value [] false) [.word n.text.toList] = _
    rw [readFrom?, List.foldlM_cons, readStep]
    cases ofWord? n.text.toList <;> rfl
  rw [ReadsBack, read?, single, ofWord?] at h
  split at h
  · cases h
  · split at h
    · cases h
    · split at h
      · cases h
      · cases hread : Number.read? n.text.toList with
        | none => simp [hread] at h
        | some m =>
          rw [hread] at h
          injection h with h
          injection h with h
          rw [h]

end Value

end RecordQuery
