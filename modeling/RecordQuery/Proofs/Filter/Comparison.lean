import RecordQuery.Proofs.Filter.Existential
import RecordQuery.Proofs.Value.Order

/-!
# Comparisons agree

Values are compared to sort them, to find those beyond a bound, and to find those equal to another.
A bound is only compared with values of its own kind. It has a range key, by which it is sorted too,
and two keys are the same exactly if neither is beyond the other. So where a bound orders two
values, the three comparisons say the same.
-/

namespace RecordQuery

/-- What range tests put in order: the size of a number, a text, the instant of a date. -/
inductive RangeKey
  | number (key : Int)
  | text (s : String)
  | date (t : Instant)

namespace RangeKey

/-- The kind that a value of this range key is sorted as. -/
def kind : RangeKey → SortKind
  | number key => .number key
  | text s => .text s
  | date t => .date t

/-- Within a kind, sorting ties what has the same range key and nothing else. -/
theorem compare_kind_eq_iff {m n : RangeKey} (same : m.kind.rank = n.kind.rank) :
    m.kind.compare n.kind = .eq ↔ m = n := by
  cases m <;> cases n
  case number.number x y => simp [kind, SortKind.compare]
  case text.text x y =>
    have texts : Ord.compare x y = .eq ↔ x = y := Std.LawfulEqCmp.compare_eq_iff_eq
    rw [text.injEq]
    exact texts
  case date.date x y => simpa [kind, SortKind.compare] using Instant.compare_eq_iff
  all_goals exact absurd same (by simp [kind, SortKind.rank])

end RangeKey

namespace Value

/-- Booleans, null, lists and records that are no dates have no range key. -/
def rangeKey? : Value → Option RangeKey
  | num n => some (.number n.orderKey)
  | str s => some (.text s)
  | v => v.asDate?.map .date

variable {a b : Value} {m : RangeKey}

/-- Only a record is a date. -/
theorem asDate?_other : null.asDate? = none ∧ (∀ b, (bool b).asDate? = none) ∧
    (∀ n, (num n).asDate? = none) ∧ (∀ s, (str s).asDate? = none) ∧
    ∀ items, (arr items).asDate? = none :=
  ⟨rfl, fun _ => rfl, fun _ => rfl, fun _ => rfl, fun _ => rfl⟩

theorem sortKind_of_rangeKey? (h : a.rangeKey? = some m) : SortKind.of (some a) = m.kind := by
  cases a with
  | obj fields =>
    obtain ⟨t, ht, rfl⟩ := Option.map_eq_some_iff.mp h
    simp [SortKind.of, ht, RangeKey.kind]
  | num _ | str _ =>
    obtain rfl := Option.some.inj h
    rfl
  | _ => cases h

theorem rangeKey?_of_asDate? {t : Instant} (h : a.asDate? = some t) :
    a.rangeKey? = some (.date t) := by
  cases a with
  | obj fields => exact congrArg (Option.map RangeKey.date) h
  | _ => cases h

/-- Two values are in order exactly if they have range keys of one kind, and the order is the one in
which they are sorted. -/
theorem compareSameKind?_eq (a b : Value) :
    a.compareSameKind? b =
      match a.rangeKey?, b.rangeKey? with
      | some m, some n => if m.kind.rank = n.kind.rank then some (m.kind.compare n.kind) else none
      | _, _ => none := by
  -- A record has a range key if it is a date; of all other values the constructor tells.
  cases a with
  | obj fields =>
    cases ha : (obj fields).asDate? <;> cases b with
    | obj others =>
      cases hb : (obj others).asDate? <;>
        simp [compareSameKind?, rangeKey?, RangeKey.kind, SortKind.rank, SortKind.compare, ha, hb]
    | _ => simp [compareSameKind?, rangeKey?, RangeKey.kind, SortKind.rank, ha, asDate?_other]
  | _ =>
    cases b with
    | obj others =>
      cases hb : (obj others).asDate? <;>
        simp [compareSameKind?, rangeKey?, RangeKey.kind, SortKind.rank, hb, asDate?_other]
    | _ => rfl

/-- Values are equal if they have the same range key, or no range key and the same content. -/
theorem equal_iff :
    a.equal b = true ↔ a.rangeKey? = b.rangeKey? ∧ (a.rangeKey? = none → a.same b = true) := by
  cases a with
  | obj fields =>
    cases ha : (obj fields).asDate? <;> cases b with
    | obj others => cases hb : (obj others).asDate? <;> simp [equal, rangeKey?, ha, hb]
    | _ => simp [equal, rangeKey?, same, canonical, ha, asDate?_other]
  | _ =>
    cases b with
    | obj others =>
      cases hb : (obj others).asDate? <;>
        simp [equal, rangeKey?, same, canonical, hb, asDate?_other]
    | _ => simp [equal, rangeKey?, same, canonical, asDate?_other]

theorem compareSameKind?_eq_some_iff {o : Ordering} :
    a.compareSameKind? b = some o ↔
      ∃ m n, a.rangeKey? = some m ∧ b.rangeKey? = some n ∧ m.kind.rank = n.kind.rank ∧
        m.kind.compare n.kind = o := by
  rw [compareSameKind?_eq]
  cases a.rangeKey? with
  | none => simp
  | some m =>
    cases b.rangeKey? with
    | none => simp
    | some n => simp

theorem compareSameKind?_agrees {o : Ordering} (h : a.compareSameKind? b = some o) :
    compare (some a) (some b) = o ∧ (a.equal b = true ↔ o = .eq) := by
  obtain ⟨m, n, ha, hb, same, rfl⟩ := compareSameKind?_eq_some_iff.mp h
  constructor
  · rw [compare, sortKind_of_rangeKey? ha, sortKind_of_rangeKey? hb]
  · rw [equal_iff, ha, hb, RangeKey.compare_kind_eq_iff same]
    simp

theorem compareSameKind?_of_dates {s t : Instant} (ha : a.asDate? = some s)
    (hb : b.asDate? = some t) : a.compareSameKind? b = some (s.compare t) :=
  compareSameKind?_eq_some_iff.mpr
    ⟨_, _, rangeKey?_of_asDate? ha, rangeKey?_of_asDate? hb, rfl, rfl⟩

theorem equal_of_dates {s t : Instant} (ha : a.asDate? = some s) (hb : b.asDate? = some t) :
    a.equal b = (s.compare t == .eq) := by
  rw [Bool.eq_iff_iff, beq_iff_eq]
  exact (compareSameKind?_agrees (compareSameKind?_of_dates ha hb)).2

/-- What is equal to a bound is in order with it, and neither is beyond the other. -/
theorem compareSameKind?_of_equal (hb : b.rangeKey? = some m) (h : a.equal b = true) :
    a.compareSameKind? b = some .eq := by
  have ha : a.rangeKey? = some m := (equal_iff.mp h).1.trans hb
  exact compareSameKind?_eq_some_iff.mpr
    ⟨m, m, ha, hb, rfl, (RangeKey.compare_kind_eq_iff rfl).mpr rfl⟩

theorem equal_equivalence : Equivalence fun a b : Value => a.equal b = true where
  refl := fun a => equal_iff.mpr ⟨rfl, fun _ => by simp [same]⟩
  symm := by
    intro a b h
    obtain ⟨keys, content⟩ := equal_iff.mp h
    refine equal_iff.mpr ⟨keys.symm, fun none => ?_⟩
    have := content (keys.trans none)
    simp only [same, decide_eq_true_eq] at this ⊢
    exact this.symm
  trans := by
    intro a b c hab hbc
    obtain ⟨keys, content⟩ := equal_iff.mp hab
    obtain ⟨keys', content'⟩ := equal_iff.mp hbc
    refine equal_iff.mpr ⟨keys.trans keys', fun none => ?_⟩
    have first := content none
    have second := content' (keys.symm.trans none)
    simp only [same, decide_eq_true_eq] at first second ⊢
    exact first.trans second

instance : Std.TransCmp Value.compare := transCmp_on SortKind.compare SortKind.of

end Value

namespace FieldTest

/-- A test that takes in its bound finds what the strict test finds and what is equal to the
bound. -/
theorem comparesAny_eq {bound : Value} {m : RangeKey} (measured : bound.rangeKey? = some m)
    {strict loose : Ordering → Bool} (takesIn : ∀ o, loose o = (strict o || o == .eq))
    (found : List Value) :
    comparesAny found bound loose
      = (comparesAny found bound strict || equalsAny found bound) := by
  have notNull : bound ≠ .null := by
    rintro rfl
    cases measured
  have each : ∀ v, compares bound loose v = (compares bound strict v || v.equal bound) := by
    intro v
    unfold compares
    cases hcompare : v.compareSameKind? bound with
    | none =>
      have differs : v.equal bound ≠ true := by
        intro hequal
        rw [Value.compareSameKind?_of_equal measured hequal] at hcompare
        cases hcompare
      simp [differs]
    | some o =>
      have equals : v.equal bound = (o == .eq) := by
        rw [Bool.eq_iff_iff, (Value.compareSameKind?_agrees hcompare).2, beq_iff_eq]
      simp [takesIn, equals]
  have equals : equalsAny found bound = true ↔ ∃ v ∈ candidates found, v.equal bound = true := by
    simp [equalsAny, notNull]
  rw [Bool.eq_iff_iff, Bool.or_eq_true, comparesAny_iff, comparesAny_iff, equals]
  simp only [each, Bool.or_eq_true, and_or_left, exists_or]

end FieldTest

open FieldTest in
/-- Sorting compares values, and records under any keys, by total preorders, so that there is one
stable order. Equality is an equivalence. Where values are in order for a range test they are sorted
in that order, and they are equal exactly if neither comes first. So a test that takes in its bound
accepts what the strict test accepts and what equals the bound. -/
theorem comparisons_agree :
    Std.TransCmp Value.compare ∧
    (∀ keys, Std.TransCmp (Record.compare keys) ∧
      ∀ found sorted, StableOrder (Record.compare keys) found sorted ↔
        sorted = Record.sort keys found) ∧
    Equivalence (fun a b : Value => a.equal b = true) ∧
    (∀ (a b : Value) o, a.compareSameKind? b = some o →
      Value.compare (some a) (some b) = o ∧ (a.equal b = true ↔ o = .eq)) ∧
    ∀ bound : Value, bound.rangeKey?.isSome = true → ∀ path r,
      (Predicate.field path (atLeast bound)).holds r
        = ((Predicate.field path (greater bound)).holds r ||
          (Predicate.field path (equals bound)).holds r) ∧
      (Predicate.field path (atMost bound)).holds r
        = ((Predicate.field path (less bound)).holds r ||
          (Predicate.field path (equals bound)).holds r) := by
  refine ⟨inferInstance, fun keys => ⟨inferInstance, fun _ _ => Record.stableOrder_iff⟩,
    Value.equal_equivalence, fun a b o => Value.compareSameKind?_agrees, ?_⟩
  intro bound measured path r
  obtain ⟨m, hm⟩ := Option.isSome_iff_exists.mp measured
  constructor
  · exact comparesAny_eq hm (by decide) _
  · exact comparesAny_eq hm (by decide) _

/-- One instant, in the zone that it was written in and in milliseconds. -/
theorem comparisons_agree_instant :
    let written : Value := .obj [("$date", .str "2024-01-01T10:00:00+01:00")]
    let millis : Value := .obj [("$date", .int 1704099600000)]
    written.compareSameKind? millis = some .eq ∧
    Value.compare (some written) (some millis) = .eq ∧ written.equal millis = true ∧
    millis.rangeKey?.isSome = true ∧
    (Predicate.field "closedAt" (.atLeast millis)).holds [("closedAt", written)]
      = true := by
  intro written millis
  have tied : written.compareSameKind? millis = some .eq := by decide +kernel
  have measured : millis.rangeKey?.isSome = true := by decide +kernel
  obtain ⟨_, _, _, agrees, bounds⟩ := comparisons_agree
  obtain ⟨sorted, equal⟩ := agrees written millis .eq tied
  have atLeast := (bounds millis measured "closedAt" [("closedAt", written)]).1
  refine ⟨tied, sorted, equal.mpr rfl, measured, atLeast.trans ?_⟩
  have found : (Predicate.field "closedAt" (.equals millis)).holds
      [("closedAt", written)] = true := by decide +kernel
  rw [found, Bool.or_true]

/-- Integers are compared as they are rounded to floats, here as in sorting. -/
example : (Value.num (.int 9007199254740993)).compareSameKind? (.num (.int 9007199254740992))
    = some .eq := by decide +kernel

end RecordQuery
