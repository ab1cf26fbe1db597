import RecordQuery.Filter.Compiled
import RecordQuery.Proofs.Value.Width

/-!
# Tests that look for values

Every test of a term but the one for presence looks for values among those reached, or is the
negation of such a test. If dropping what a path does not select never changes the answer, then the
answer never changes at all: the values looked for would have to be arbitrarily wide.
-/

namespace RecordQuery

namespace FieldTest

theorem mem_candidates {found : List Value} {v : Value} :
    v ∈ candidates found ↔ v ∈ found ∨ ∃ items, .arr items ∈ found ∧ v ∈ items := by
  induction found with
  | nil => simp [candidates]
  | cons first rest ih =>
    cases first with
    | arr items =>
      simp only [candidates, List.cons_append, List.mem_cons, List.mem_append, ih]
      constructor
      · rintro (rfl | hv | hv | ⟨others, hothers, hv⟩)
        · exact .inl (.inl rfl)
        · exact .inr ⟨items, .inl rfl, hv⟩
        · exact .inl (.inr hv)
        · exact .inr ⟨others, .inr hothers, hv⟩
      · rintro ((rfl | hv) | ⟨others, hothers | hothers, hv⟩)
        · exact .inl rfl
        · exact .inr (.inr (.inl hv))
        · obtain rfl := Value.arr.inj hothers
          exact .inr (.inl hv)
        · exact .inr (.inr (.inr ⟨others, hothers, hv⟩))
    | _ => simp [candidates, ih, or_assoc]

theorem candidates_arr (items : List Value) : candidates [.arr items] = .arr items :: items := by
  simp [candidates]

theorem distinct_candidates {found : List Value} (h : ∀ v ∈ found, v.Distinct) :
    ∀ v ∈ candidates found, v.Distinct := by
  intro v hv
  rcases mem_candidates.mp hv with hv | ⟨items, hitems, hv⟩
  · exact h v hv
  · exact Value.distinct_arr.mp (h _ hitems) v hv

/-- Something is reached, and every one of the given checks accepts some value of it; none of them
accepts a value as wide as the bound. Where nothing is reached counts as null at most. -/
structure LooksFor (test : List Value → Bool) (accepts : List (Value → Bool)) (bound : Nat) :
    Prop where
  nonempty : accepts ≠ []
  narrow : ∀ accept ∈ accepts, ∀ v, accept v = true → v.width < bound
  holds_iff : ∀ found, found ≠ [] →
    (test found = true ↔ ∀ accept ∈ accepts, ∃ v ∈ candidates found, accept v = true)
  absent : test [] = true → test [.null] = true

/-- A test that looks for values, its negation, or no test. -/
inductive Uniform : (List Value → Bool) → Prop
  | looksFor {test : List Value → Bool} {accepts : List (Value → Bool)} {bound : Nat}
      (h : LooksFor test accepts bound) : Uniform test
  | negation {test : List Value → Bool} (h : Uniform test) : Uniform fun found => !test found
  | constant (b : Bool) : Uniform fun _ => b

/-- Dropping the items that a path does not select never changes the answer. -/
def Blind (test : List Value → Bool) (path : Path) : Prop :=
  ∀ items, (∀ v ∈ items, v.Distinct) →
    (Value.selectRecords items path).length ≠ items.length →
      test [.arr items] = test [.arr (Value.selectRecords items path)]

/-- The answer is the same whatever is reached. -/
def Unvarying (test : List Value → Bool) : Prop :=
  ∀ found found', (∀ v ∈ found, v.Distinct) → (∀ v ∈ found', v.Distinct) →
    test found = test found'

section
variable {test : List Value → Bool} {accepts : List (Value → Bool)} {bound : Nat}

/-- A list of all candidates passes wherever the candidates themselves do. -/
theorem LooksFor.holds_arr (h : LooksFor test accepts bound) {found : List Value}
    (nonempty : found ≠ []) (holds : test found = true) (more : List Value) :
    test [.arr (candidates found ++ more)] = true := by
  rw [h.holds_iff _ (by simp)]
  intro accept haccept
  obtain ⟨v, hv, hpass⟩ := (h.holds_iff found nonempty).mp holds accept haccept
  exact ⟨v, by simp [candidates_arr, hv], hpass⟩

/-- A wide list of wide values fails. -/
theorem LooksFor.fails_wide (h : LooksFor test accepts bound) {items : List Value}
    (long : bound ≤ items.length) (wide : ∀ v ∈ items, bound ≤ v.width) :
    test [.arr items] = false := by
  rw [Bool.eq_false_iff, Ne, h.holds_iff _ (by simp)]
  intro hall
  obtain ⟨accept, haccept⟩ := List.exists_mem_of_ne_nil accepts h.nonempty
  obtain ⟨v, hv, hpass⟩ := hall accept haccept
  have hnarrow := h.narrow accept haccept v hpass
  rw [candidates_arr] at hv
  rcases List.mem_cons.mp hv with rfl | hv
  · have : bound ≤ (Value.arr items).width := long
    omega
  · have := wide v hv
    omega

/-- Lists are no records, so a path leaves them out; enough of them make a list wide. -/
def fillers (bound : Nat) : List Value :=
  (List.replicate (bound + 1) (List.replicate bound .null)).map .arr

@[simp]
theorem length_fillers (bound : Nat) : (fillers bound).length = bound + 1 := by simp [fillers]

theorem distinct_wide_fillers (bound : Nat) : ∀ v ∈ fillers bound, v.Distinct ∧ bound ≤ v.width := by
  intro v hv
  obtain ⟨items, hitems, rfl⟩ := List.mem_map.mp hv
  obtain rfl := List.eq_of_mem_replicate hitems
  refine ⟨Value.distinct_arr.mpr fun w hw => ?_, by simp [Value.width]⟩
  rw [List.eq_of_mem_replicate hw]
  trivial

theorem selectRecords_append_fillers (items : List Value) (path : Path) (bound : Nat) :
    Value.selectRecords (items ++ fillers bound) path = Value.selectRecords items path := by
  rw [Value.selectRecords_append, fillers, Value.selectRecords_lists, List.append_nil]

theorem Blind.append_fillers {path : Path} (blind : Blind test path) {items : List Value}
    (distinct : ∀ v ∈ items, v.Distinct) (bound : Nat) :
    test [.arr (items ++ fillers bound)] = test [.arr (Value.selectRecords items path)] := by
  rw [← selectRecords_append_fillers items path bound]
  apply blind
  · intro v hv
    rcases List.mem_append.mp hv with hv | hv
    · exact distinct v hv
    · exact (distinct_wide_fillers bound v hv).1
  · have := Value.length_selectRecords_le items path
    rw [selectRecords_append_fillers, List.length_append, length_fillers]
    omega

/-- Wide records with the same parts take the place of whatever was found, and fail. -/
theorem LooksFor.never_of_blind_of_ne_nil (h : LooksFor test accepts bound) {segment : String}
    {rest : Path} (blind : Blind test (segment :: rest)) {found : List Value} (nonempty : found ≠ [])
    (distinct : ∀ v ∈ found, v.Distinct) : test found = false := by
  rw [Bool.eq_false_iff]
  intro holds
  have hcandidates := distinct_candidates distinct
  obtain ⟨wide, hwide, hselect⟩ := Value.exists_wide_records segment rest bound hcandidates
  have hfails : test [.arr (wide ++ fillers bound)] = false := by
    apply h.fails_wide
    · rw [List.length_append, length_fillers]
      omega
    · intro v hv
      rcases List.mem_append.mp hv with hv | hv
      · exact (hwide v hv).2
      · exact (distinct_wide_fillers bound v hv).2
  have hholds := h.holds_arr nonempty holds (fillers bound)
  rw [blind.append_fillers hcandidates, ← hselect,
    ← blind.append_fillers (fun v hv => (hwide v hv).1) bound, hfails] at hholds
  exact Bool.false_ne_true hholds

theorem LooksFor.never_of_blind (h : LooksFor test accepts bound) {segment : String} {rest : Path}
    (blind : Blind test (segment :: rest)) {found : List Value}
    (distinct : ∀ v ∈ found, v.Distinct) : test found = false := by
  by_cases nonempty : found = []
  · -- What holds of nothing also holds of null.
    rw [nonempty, Bool.eq_false_iff]
    intro holds
    have hnull := h.never_of_blind_of_ne_nil blind (List.cons_ne_nil .null [])
      (by simp [Value.Distinct])
    rw [h.absent holds] at hnull
    exact absurd hnull (by decide)
  · exact h.never_of_blind_of_ne_nil blind nonempty distinct

/-- A test that is blind to what a path leaves out sees nothing. -/
theorem Uniform.unvarying (h : Uniform test) {segment : String} {rest : Path}
    (blind : Blind test (segment :: rest)) : Unvarying test := by
  induction h with
  | looksFor h =>
    intro found found' hfound hfound'
    rw [h.never_of_blind blind hfound, h.never_of_blind blind hfound']
  | @negation inner _ ih =>
    have hinner : Blind inner (segment :: rest) := by
      intro items hitems hlength
      have := blind items hitems hlength
      simpa using this
    intro found found' hfound hfound'
    exact congrArg not (ih hinner found found' hfound hfound')
  | constant b => exact fun _ _ _ _ => rfl

end

theorem looksFor_equals (v : Value) :
    LooksFor (equals v).holds [fun c => c.equal v] (v.width + 1) where
  nonempty := by simp
  narrow := by
    intro accept haccept c hc
    obtain rfl := List.mem_singleton.mp haccept
    have := Value.width_of_equal hc
    omega
  holds_iff := by
    intro found hfound
    simp [holds, equalsAny, hfound]
  absent := by
    intro h
    have hv : v = .null := by simpa [holds, equalsAny, candidates] using h
    subst hv
    rfl

theorem looksFor_isOneOf {vs : List Value} {bound : Nat} (narrow : ∀ v ∈ vs, v.width < bound) :
    LooksFor (isOneOf vs).holds [fun c => vs.any fun v => c.equal v] bound where
  nonempty := by simp
  narrow := by
    intro accept haccept c hc
    obtain rfl := List.mem_singleton.mp haccept
    obtain ⟨v, hv, hequal⟩ := List.any_eq_true.mp hc
    rw [Value.width_of_equal hequal]
    exact narrow v hv
  holds_iff := by
    intro found hfound
    simp only [holds, equalsAny, List.any_eq_true, List.isEmpty_eq_false_iff.mpr hfound,
      Bool.and_false, Bool.false_or, List.mem_singleton, forall_eq]
    exact ⟨fun ⟨v, hv, c, hc, h⟩ => ⟨c, hc, v, hv, h⟩, fun ⟨c, hc, v, hv, h⟩ => ⟨v, hv, c, hc, h⟩⟩
  absent := by
    intro h
    have hv : ∃ v ∈ vs, v = .null := by simpa [holds, equalsAny, candidates] using h
    obtain ⟨v, hv, rfl⟩ := hv
    exact List.any_eq_true.mpr ⟨_, hv, rfl⟩

/-- A comparison that succeeds is one with a scalar or a date. -/
def compares (bound : Value) (accept : Ordering → Bool) (c : Value) : Bool :=
  match c.compareSameKind? bound with
  | some o => accept o
  | none => false

theorem width_of_compares {bound : Value} {accept : Ordering → Bool} {c : Value}
    (h : compares bound accept c = true) : c.width < 2 := by
  unfold compares at h
  split at h
  · rename_i o ho
    have := Value.width_of_compareSameKind? ho
    omega
  · simp at h

theorem comparesAny_iff {found : List Value} {bound : Value} {accept : Ordering → Bool} :
    comparesAny found bound accept = true ↔ ∃ c ∈ candidates found, compares bound accept c = true :=
  List.any_eq_true

theorem looksFor_compares (bound : Value) (accept : Ordering → Bool) :
    LooksFor (fun found => comparesAny found bound accept) [compares bound accept] 2 where
  nonempty := by simp
  narrow := by
    intro check hcheck c hc
    obtain rfl := List.mem_singleton.mp hcheck
    exact width_of_compares hc
  holds_iff := by
    intro found _
    simp [comparesAny_iff]
  absent := by
    intro h
    simp [comparesAny_iff, candidates] at h

def hasMatch (p : Pattern) (c : Value) : Bool :=
  match c with
  | .str s => p.search s
  | _ => false

theorem matchesAny_iff {found : List Value} {p : Pattern} :
    matchesAny found p = true ↔ ∃ c ∈ candidates found, hasMatch p c = true :=
  List.any_eq_true

theorem looksFor_pattern (p : Pattern) : LooksFor (matchesPattern p).holds [hasMatch p] 1 where
  nonempty := by simp
  narrow := by
    intro accept haccept c hc
    obtain rfl := List.mem_singleton.mp haccept
    cases c with
    | str s => exact Nat.zero_lt_one
    | _ => simp [hasMatch] at hc
  holds_iff := by
    intro found _
    simp [holds, matchesAny_iff]
  absent := by
    intro h
    simp [holds, matchesAny_iff, candidates] at h

/-- Both bounds of a range, each met by some value. -/
theorem looksFor_range (low high : Value) :
    LooksFor (all [atLeast low, atMost high]).holds
      [compares low (· != .lt), compares high (· != .gt)] 2 where
  nonempty := by simp
  narrow := by
    intro accept haccept c hc
    rcases List.mem_cons.mp haccept with rfl | haccept
    · exact width_of_compares hc
    · obtain rfl := List.mem_singleton.mp haccept
      exact width_of_compares hc
  holds_iff := by
    intro found _
    simp [holds, holdAll, comparesAny_iff]
  absent := by
    intro h
    simp [holds, holdAll, comparesAny_iff, candidates] at h

end FieldTest

namespace Clause

open FieldTest

theorem uniform_toTest {clause : Clause} (h : ∀ expected, clause ≠ present expected) :
    Uniform clause.toTest.holds := by
  have oneOf : ∀ vs, Uniform (FieldTest.isOneOf vs).holds := by
    intro vs
    obtain ⟨bound, narrow⟩ := Value.exists_bound Value.width vs
    exact .looksFor (looksFor_isOneOf narrow)
  cases clause with
  | equals v => exact .looksFor (looksFor_equals v)
  | differs v => exact .negation (.looksFor (looksFor_equals v))
  | pattern text p negated =>
    cases negated with
    | true => exact .negation (.looksFor (looksFor_pattern p))
    | false => exact .looksFor (looksFor_pattern p)
  | isOneOf vs => exact oneOf vs
  | isNoneOf vs => exact .negation (oneOf vs)
  | greater v | atLeast v | less v | atMost v => exact .looksFor (looksFor_compares v _)
  | range low high =>
    cases low with
    | none =>
      cases high with
      | none => exact .constant true
      | some v =>
        have : (range none (some v)).toTest.holds = fun found => comparesAny found v (· != .gt) := by
          funext found
          simp [toTest, holds, holdAll]
        exact this ▸ .looksFor (looksFor_compares v _)
    | some v =>
      cases high with
      | none =>
        have : (range (some v) none).toTest.holds = fun found => comparesAny found v (· != .lt) := by
          funext found
          simp [toTest, holds, holdAll]
        exact this ▸ .looksFor (looksFor_compares v _)
      | some w => exact .looksFor (looksFor_range v w)
  | present expected => exact absurd rfl (h expected)

end Clause

namespace CompiledCondition

open FieldTest

/-- What the condition says of the values that its term reaches. -/
def test (c : CompiledCondition) (found : List Value) : Bool :=
  match c.clause with
  | none => true
  | some clause =>
    if c.negated then !clause.toTest.holds found else clause.toTest.holds found

theorem holds_toPredicate (c : CompiledCondition) (r : Record) :
    c.toPredicate.holds r = c.test (Record.reach r (Path.ofText c.term)) := by
  unfold toPredicate test
  cases c.clause with
  | none => rfl
  | some clause =>
    cases c.negated with
    | true => simp [Predicate.holds, holds]
    | false => simp [Predicate.holds]

/-- The condition asks only whether its term reaches anything. -/
def AsksPresence (c : CompiledCondition) : Prop := ∃ expected, c.clause = some (.present expected)

/-- Whether something is reached is all that such a condition sees. -/
theorem test_eq_iff {c : CompiledCondition} (h : c.AsksPresence) {found found' : List Value} :
    c.test found = c.test found' ↔ found.isEmpty = found'.isEmpty := by
  obtain ⟨expected, hclause⟩ := h
  simp only [test, hclause, Clause.toTest, holds]
  cases c.negated <;> cases found.isEmpty <;> cases found'.isEmpty <;> cases expected <;> decide

theorem uniform_test {c : CompiledCondition} (h : ¬ c.AsksPresence) : Uniform c.test := by
  cases hclause : c.clause with
  | none =>
    have : c.test = fun _ => true := by
      funext found
      simp [test, hclause]
    exact this ▸ .constant true
  | some clause =>
    have hclauseTest : Uniform clause.toTest.holds := by
      apply Clause.uniform_toTest
      rintro expected rfl
      exact h ⟨expected, hclause⟩
    cases hneg : c.negated with
    | true =>
      have : c.test = fun found => !clause.toTest.holds found := by
        funext found
        simp [test, hclause, hneg]
      exact this ▸ .negation hclauseTest
    | false =>
      have : c.test = clause.toTest.holds := by
        funext found
        simp [test, hclause, hneg]
      exact this ▸ hclauseTest

end CompiledCondition

end RecordQuery
