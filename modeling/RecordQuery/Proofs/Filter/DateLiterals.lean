import RecordQuery.Proofs.Calendar.Period
import RecordQuery.Proofs.Calendar.Written
import RecordQuery.Proofs.Filter.Algebra
import RecordQuery.Proofs.Filter.Comparison
import RecordQuery.Proofs.Value.Cut

/-!
# Literals that are dates

A condition compares with the date that is written of its literal, which has milliseconds. The dates
of records are taken as they stand. So a literal keeps its instant exactly if it has no part of a
millisecond.
-/

namespace RecordQuery

namespace Instant

theorem compare_floorMilli {t : Instant} (h : t.nanos % 1000000 ≠ 0) :
    t.floorMilli.compare t = .lt ∧ t.compare t.floorMilli = .gt := by
  have hlt : t.floorMilli.nanos < t.nanos := by
    simp only [floorMilli]
    omega
  have hsame : t.floorMilli.seconds = t.seconds := rfl
  constructor
  · rw [Instant.compare, hsame, if_neg (Int.lt_irrefl _), if_neg (Int.lt_irrefl _),
      Nat.compare_eq_lt]
    exact hlt
  · rw [Instant.compare, hsame, if_neg (Int.lt_irrefl _), if_neg (Int.lt_irrefl _),
      Nat.compare_eq_gt]
    exact hlt

/-- The years 0 to 9999 in seconds. -/
theorem FourDigitYear.seconds {t : Instant} (h : t.FourDigitYear) :
    -62167219200 ≤ t.seconds ∧ t.seconds < 253402300800 := by
  obtain ⟨low, high⟩ := h
  have hfirst : Period.year.first 0 = -719528 := by decide +kernel
  have hlast : Period.year.first 10000 = 2932897 := by decide +kernel
  have hlow : Period.year.first 0 ≤ t.day := Period.year.first_le_iff.mpr low
  have hhigh : ¬ Period.year.first 10000 ≤ t.day := by
    rw [Period.year.first_le_iff]
    exact Int.not_le.mpr (Int.lt_add_one_of_le high)
  rw [hfirst] at hlow
  rw [hlast] at hhigh
  simp only [day, secondsPerDay] at hlow hhigh
  omega

end Instant

namespace Value

theorem proper_of_asDate? {v : Value} {t : Instant} (h : v.asDate? = some t) : t.Proper := by
  unfold asDate? at h
  split at h
  · split at h
    · split at h
      · exact Instant.proper_of_read? h
      · obtain ⟨n, _, hn⟩ := Option.bind_eq_some_iff.mp h
        exact Instant.proper_of_ofMillis? hn
    · cases h
  · cases h

theorem asDate?_ofDate (t : Instant) : (ofDate t).asDate? = Instant.read? t.text := by
  simp [ofDate, asDate?]

/-- The date that is written of another is that one to the millisecond. -/
theorem asDate?_ofDate_of_asDate? {v : Value} {t : Instant} (h : v.asDate? = some t)
    (year : t.FourDigitYear) : (ofDate t).asDate? = some t.floorMilli :=
  (asDate?_ofDate t).trans (Instant.read?_text (proper_of_asDate? h) year)

/-- A date is a record. -/
theorem exists_fields_of_asDate? {v : Value} {t : Instant} (h : v.asDate? = some t) :
    ∃ fields, v = obj fields := by
  cases v with
  | obj fields => exact ⟨fields, rfl⟩
  | _ => simp [asDate?] at h

end Value

namespace Operator

/-- How a date has to lie to the literal of a comparison. -/
def relation? : Operator → Option (Ordering → Bool)
  | equals => some (· == .eq)
  | lessThan => some (· == .lt)
  | lessOrEquals => some (· != .gt)
  | greaterThan => some (· == .gt)
  | greaterOrEquals => some (· != .lt)
  | _ => none

variable {operator : Operator} {relates : Ordering → Bool}

/-- Each relation tells what lies at an instant from what lies before it or from what lies after
it. -/
theorem relation?_tells (h : operator.relation? = some relates) :
    relates .eq ≠ relates .lt ∨ relates .gt ≠ relates .eq := by
  cases operator <;> simp [relation?] at h <;> subst h <;> decide

/-- Dates admit every comparison. -/
theorem date_admits (h : operator.relation? = some relates) {resolved : ResolvedTerm}
    (date : TermType.isDate resolved.type = true) : resolved.Admits operator := by
  have operators : TermType.operators? resolved.type = TermType.operators? "date" := by
    rw [TermType.isDate, Bool.or_eq_true, decide_eq_true_eq, decide_eq_true_eq] at date
    rcases date with date | date
    · rw [date]
    · rw [date]
      rfl
  refine ⟨_, operators, ?_⟩
  cases operator <;> simp [relation?] at h <;> decide

/-- A clause that tells how a date lies to its own. The store reads it back from its query, in which
nothing looks like a list of queries or a search. -/
structure Comparison (relates : Ordering → Bool) (make : Value → Clause) : Prop where
  faithful : ∀ {v : Value}, Query.isOperators v = false → (make v).Faithful
  noList : ∀ {v : Value}, v.asList? = none → (make v).toQuery.asList? = none
  noSearch : ∀ {v : Value}, v.get? "$search" = none → (make v).toQuery.get? "$search" = none
  holds : ∀ {v w : Value} {a b : Instant}, v.asDate? = some a → w.asDate? = some b →
    (make v).toTest.holds [w] = relates (b.compare a)

/-- Each comparison makes such a clause. -/
theorem comparison (h : operator.relation? = some relates) :
    ∃ make, operator.literal? = some make ∧ Comparison relates make := by
  have found : ∀ {w : Value} {b : Instant}, w.asDate? = some b →
      FieldTest.candidates [w] = [w] := by
    intro w b hw
    obtain ⟨fields, rfl⟩ := Value.exists_fields_of_asDate? hw
    rfl
  have nonNull : ∀ {v : Value} {a : Instant}, v.asDate? = some a → v ≠ .null := by
    rintro _ _ hv rfl
    cases hv
  cases operator with
  | equals =>
    obtain rfl := Option.some.inj h
    refine ⟨.equals, rfl, fun hv => hv, fun hv => hv, fun hv => hv, fun hv hw => ?_⟩
    simp [Clause.toTest, FieldTest.holds, FieldTest.equalsAny, found hw, nonNull hv,
      Value.equal_of_dates hw hv]
  | lessThan | lessOrEquals | greaterThan | greaterOrEquals =>
    obtain rfl := Option.some.inj h
    refine ⟨_, rfl, fun _ => trivial, fun _ => rfl, fun _ => rfl, fun hv hw => ?_⟩
    simp [Clause.toTest, FieldTest.holds, FieldTest.comparesAny, found hw,
      Value.compareSameKind?_of_dates hw hv]
  | _ => cases h

end Operator

namespace Record

/-- The one value that a term reaches is a native date. -/
def HoldsDate (r : Record) (term : String) (b : Instant) : Prop :=
  ∃ w, reach r (Path.ofText term) = [w] ∧ w.asDate? = some b

theorem exists_holdsDate (term : String) {w : Value} {b : Instant} (h : w.asDate? = some b) :
    ∃ r : Record, r.HoldsDate term b := by
  obtain ⟨r, hr⟩ := exists_reach term w
  exact ⟨r, w, hr, h⟩

end Record

namespace CompiledCondition

/-- The store reads the condition's query, and the record satisfies what is read. -/
def Selects (c : CompiledCondition) (r : Record) : Prop :=
  ∃ read, Query.read c.toQuery = .ok read ∧ read.holds r = true

/-- The store finds what the predicate holds of, unless it takes the term for an operator. -/
theorem selects_iff {term : String} {clause : Clause} (faithful : clause.Faithful)
    (noList : clause.toQuery.asList? = none) (noSearch : clause.toQuery.get? "$search" = none)
    (r : Record) :
    Selects ⟨term, some clause, false⟩ r ↔
      (toPredicate ⟨term, some clause, false⟩).holds r = true ∧
        Query.isOperatorName term = false := by
  cases hname : Query.isOperatorName term with
  | true =>
    simp only [Bool.true_eq_false, and_false, iff_false]
    rintro ⟨read, hread, _⟩
    exact Query.read_of_operatorName hname noList noSearch read hread
  | false =>
    have hfaithful : Faithful ⟨term, some clause, false⟩ := by
      refine ⟨hname, ?_, by simp⟩
      rintro _ ⟨⟩
      exact faithful
    obtain ⟨read, hread, hagrees⟩ := read_toQuery hfaithful
    simp only [and_true]
    constructor
    · rintro ⟨other, hother, holds⟩
      obtain rfl := Except.ok.inj (hread.symm.trans hother)
      rwa [← hagrees]
    · intro holds
      exact ⟨read, hread, by rwa [hagrees]⟩

/-- In both forms the condition takes the dates that lie to an instant as the relation has it. -/
def Compares (c : CompiledCondition) (relates : Ordering → Bool) (a : Instant) : Prop :=
  ∀ r b, Record.HoldsDate r c.term b →
    (c.toPredicate.holds r = true ↔ relates (b.compare a) = true) ∧
    (c.Selects r ↔ relates (b.compare a) = true)

end CompiledCondition

namespace Condition

variable {ctx : FilterContext} {document : DocumentType} {term : String} {resolved : ResolvedTerm}
variable {operator : Operator} {relates : Ordering → Bool} {v : Value} {a : Instant}

theorem invert_false (term : String) (clause : Clause) :
    invert term false (some clause) = ⟨term, some clause, false⟩ := by
  cases clause <;> rfl

/-- The literal of a date is the date that is written of it. -/
theorem adapt_date (date : TermType.isDate resolved.type = true) (literal : v.asDate? = some a) :
    Operand.adapt resolved v = Value.ofDate a := by
  have notDigest : resolved.type ≠ "encrypted" := by
    intro h
    rw [h] at date
    exact absurd date (by decide)
  simp [Operand.adapt, notDigest, Operand.coerce, date, Operand.date?, literal]

/-- A date is refused as a literal if it cannot be read back. -/
theorem hidesOperators_ofDate (a : Instant) :
    Operand.hidesOperators (Value.ofDate a) = (Instant.read? a.text).isNone := by
  rw [← Value.asDate?_ofDate, Value.ofDate, Operand.hidesOperators]
  have : Value.dateName.startsWith "$" = true := by decide +kernel
  simp [this]

/-- What a comparison with a date is compiled to, and when. -/
theorem compile_date_iff (leads : Leads ctx document term resolved)
    (date : TermType.isDate resolved.type = true) (related : operator.relation? = some relates)
    {make : Value → Clause} (hmake : operator.literal? = some make)
    (literal : v.asDate? = some a) (compiled : CompiledCondition) :
    (asking term operator v).compile ctx document = .ok compiled ↔
      a.FourDigitYear ∧ ⟨Term.normalize term, some (make (Value.ofDate a)), false⟩ = compiled := by
  have admits := Operator.date_admits related date
  have plain : Operand.Plain v := by
    obtain ⟨fields, rfl⟩ := Value.exists_fields_of_asDate? literal
    trivial
  have readable : Operand.hidesOperators (Value.ofDate a) = false ↔ a.FourDigitYear := by
    rw [hidesOperators_ofDate]
    by_cases year : a.FourDigitYear
    · simp [Instant.read?_text (Value.proper_of_asDate? literal) year, year]
    · simp [Instant.read?_text_of_signed year, year]
  rw [asking_eq_map leads admits, clause_of_literal hmake]
  constructor
  · intro h
    obtain ⟨_, hclause, rfl⟩ := map_eq_ok_iff.mp h
    obtain ⟨w, hw, rfl⟩ := map_eq_ok_iff.mp hclause
    obtain ⟨hopen, rfl⟩ := (Operand.literal_plain admits plain).mp hw
    rw [adapt_date date literal] at hopen ⊢
    exact ⟨readable.mp hopen, (invert_false _ _).symm⟩
  · rintro ⟨year, rfl⟩
    have hw : Operand.literal ctx (Term.normalize term) resolved v = .ok (Value.ofDate a) :=
      (Operand.literal_plain admits plain).mpr
        ⟨(adapt_date date literal).symm ▸ readable.mpr year, adapt_date date literal⟩
    rw [hw]
    exact congrArg Except.ok (invert_false _ _)

/-- What a comparison with a date tells of the dates of records: how they lie to what is left of
the literal when it is cut to milliseconds. -/
theorem compiled_date {make : Value → Clause} (comparison : Operator.Comparison relates make)
    (literal : v.asDate? = some a) (year : a.FourDigitYear) {term : String} {r : Record}
    {b : Instant} (holds : r.HoldsDate term b) :
    let compiled : CompiledCondition := ⟨term, some (make (Value.ofDate a)), false⟩
    (compiled.toPredicate.holds r = true ↔ relates (b.compare a.floorMilli) = true) ∧
    (compiled.Selects r ↔
      relates (b.compare a.floorMilli) = true ∧ Query.isOperatorName term = false) := by
  intro compiled
  obtain ⟨w, hreach, hw⟩ := holds
  have written := Value.asDate?_ofDate_of_asDate? literal year
  have plain : Query.isOperators (Value.ofDate a) = false := by
    refine Query.isOperators_of_not_hidesOperators ?_
    rw [hidesOperators_ofDate, ← Value.asDate?_ofDate, written]
    rfl
  have predicate : compiled.toPredicate.holds r = relates (b.compare a.floorMilli) := by
    rw [CompiledCondition.holds_toPredicate, hreach]
    exact comparison.holds written hw
  refine ⟨by rw [predicate], ?_⟩
  rw [← predicate]
  exact CompiledCondition.selects_iff (comparison.faithful plain) (comparison.noList rfl)
    (comparison.noSearch rfl) r

/-- A date with a year of four digits has dates on either side. -/
theorem exists_related (related : operator.relation? = some relates) (literal : v.asDate? = some a)
    (year : a.FourDigitYear) :
    ∃ w b, Value.asDate? w = some b ∧ relates (b.compare a) = true := by
  obtain ⟨low, high⟩ := year.seconds
  have same : a.compare a = .eq := Instant.compare_eq_iff.mpr rfl
  cases operator with
  | equals | lessOrEquals | greaterOrEquals =>
    obtain rfl := Option.some.inj related
    exact ⟨v, a, literal, by rw [same]; rfl⟩
  | lessThan =>
    obtain rfl := Option.some.inj related
    have before : (Value.obj [("$date", .int (-62200000000000))]).asDate?
        = some ⟨-62200000000, 0⟩ := by decide +kernel
    refine ⟨_, _, before, ?_⟩
    rw [Instant.compare, if_pos (by dsimp only; omega)]
    rfl
  | greaterThan =>
    obtain rfl := Option.some.inj related
    have after : (Value.obj [("$date", .int 253500000000000)]).asDate?
        = some ⟨253500000000, 0⟩ := by decide +kernel
    refine ⟨_, _, after, ?_⟩
    rw [Instant.compare, if_neg (by dsimp only; omega), if_pos (by dsimp only; omega)]
    rfl
  | _ => cases related

/-- A comparison that keeps the instant of its literal has nothing to cut off. -/
theorem nanos_of_compares {make : Value → Clause} (comparison : Operator.Comparison relates make)
    (related : operator.relation? = some relates) (literal : v.asDate? = some a)
    (year : a.FourDigitYear) {term : String}
    (keeps : CompiledCondition.Compares ⟨term, some (make (Value.ofDate a)), false⟩ relates a) :
    a.nanos % 1000000 = 0 := by
  have agrees : ∀ {w b}, Value.asDate? w = some b →
      (relates (b.compare a.floorMilli) = true ↔ relates (b.compare a) = true) := by
    intro w b hw
    obtain ⟨r, holds⟩ := Record.exists_holdsDate term hw
    exact (compiled_date comparison literal year holds).1.symm.trans (keeps r b holds).1
  refine Decidable.byContradiction fun cut => ?_
  obtain ⟨before, after⟩ := Instant.compare_floorMilli cut
  have same : ∀ t : Instant, t.compare t = .eq := fun _ => Instant.compare_eq_iff.mpr rfl
  have written := Value.asDate?_ofDate_of_asDate? literal year
  have atFloor := agrees written
  have atWhole := agrees literal
  rw [same, before, ← Bool.eq_iff_iff] at atFloor
  rw [same, after, ← Bool.eq_iff_iff] at atWhole
  rcases Operator.relation?_tells related with h | h
  · exact h atFloor
  · exact h atWhole

/-- A comparison with a native date compiles exactly if the year of its instant has four digits.
Then it tells how dates lie to the instant cut to milliseconds, as a predicate and, unless the term
looks like an operator, as a query. So the literal keeps its instant exactly if there is nothing to
cut. -/
theorem date_literal_iff (leads : Leads ctx document term resolved)
    (date : TermType.isDate resolved.type = true) (related : operator.relation? = some relates)
    (literal : v.asDate? = some a) :
    (Compiles ctx document (asking term operator v) ↔ a.FourDigitYear) ∧
    ∀ compiled, (asking term operator v).compile ctx document = .ok compiled →
      (∀ r b, Record.HoldsDate r compiled.term b →
        (compiled.toPredicate.holds r = true ↔ relates (b.compare a.floorMilli) = true) ∧
        (compiled.Selects r ↔ relates (b.compare a.floorMilli) = true ∧
          Query.isOperatorName compiled.term = false)) ∧
      (compiled.Compares relates a ↔
        a.nanos % 1000000 = 0 ∧ Query.isOperatorName compiled.term = false) := by
  obtain ⟨make, hmake, comparison⟩ := Operator.comparison related
  have compiles := compile_date_iff leads date related hmake literal
  constructor
  · constructor
    · rintro ⟨compiled, h⟩
      exact ((compiles compiled).mp h).1
    · intro year
      exact ⟨_, (compiles _).mpr ⟨year, rfl⟩⟩
  · intro compiled h
    obtain ⟨year, rfl⟩ := (compiles compiled).mp h
    have tells := fun r b (holds : Record.HoldsDate r (Term.normalize term) b) =>
      compiled_date comparison literal year holds
    refine ⟨tells, ?_⟩
    constructor
    · intro keeps
      refine ⟨nanos_of_compares comparison related literal year keeps, ?_⟩
      obtain ⟨w, b, hw, hrelates⟩ := exists_related related literal year
      obtain ⟨r, holds⟩ := Record.exists_holdsDate (Term.normalize term) hw
      exact ((tells r b holds).2.mp ((keeps r b holds).2.mpr hrelates)).2
    · rintro ⟨whole, name⟩ r b holds
      obtain ⟨hpredicate, hselects⟩ := tells r b holds
      rw [Instant.floorMilli_eq_self_iff.mpr whole] at hpredicate hselects
      exact ⟨hpredicate, hselects.trans (and_iff_left name)⟩

open Deals (closings)

/-- A quarter of a second past ten, two hours behind universal time. -/
def quarterPast : Value := .obj [("$date", .str "2024-01-15T08:00:00.250-02:00")]

theorem leads_closedAt : Leads Deals.context closings "closedAt" ⟨"date", []⟩ := ⟨rfl, rfl⟩

theorem date_literal_iff_closings :
    Leads Deals.context closings "closedAt" ⟨"date", []⟩ ∧ TermType.isDate "date" = true ∧
    Operator.equals.relation? = some (· == .eq) ∧
    quarterPast.asDate? = some ⟨1705312800, 250000000⟩ ∧
    ∃ compiled,
      (asking "closedAt" .equals quarterPast).compile Deals.context closings = .ok compiled ∧
      compiled.toPredicate.holds [("closedAt", .obj [("$date", .int 1705312800250)])] = true ∧
      compiled.Selects [("closedAt", .obj [("$date", .int 1705312800250)])] := by
  have literal : quarterPast.asDate? = some ⟨1705312800, 250000000⟩ := by decide +kernel
  have stored : (Value.obj [("$date", .int 1705312800250)]).asDate?
      = some ⟨1705312800, 250000000⟩ := by decide +kernel
  have related : Operator.equals.relation? = some (· == .eq) := rfl
  obtain ⟨compiles, tells⟩ := date_literal_iff leads_closedAt (by decide) related literal
  obtain ⟨compiled, h⟩ := compiles.mpr (by decide +kernel)
  have term : compiled.term = "closedAt" := (compile_term h).trans (by decide)
  have keeps := (tells compiled h).2.mpr ⟨by decide, by rw [term]; decide +kernel⟩
  have holds : Record.HoldsDate [("closedAt", .obj [("$date", .int 1705312800250)])] compiled.term
      ⟨1705312800, 250000000⟩ := ⟨_, by rw [term]; rfl, stored⟩
  obtain ⟨predicate, selects⟩ := keeps _ _ holds
  exact ⟨leads_closedAt, by decide, related, literal, compiled, h, predicate.mpr (by decide),
    selects.mpr (by decide)⟩

/-- Half a millisecond past ten. -/
def halfMilli : Value := .obj [("$date", .str "2024-01-15T10:00:00.0005Z")]

/-- A record that holds just the literal is not found by it. -/
theorem date_literal_misses_itself :
    ∃ a compiled, halfMilli.asDate? = some a ∧ a.FourDigitYear ∧
      Record.HoldsDate [("closedAt", halfMilli)] "closedAt" a ∧
      (asking "closedAt" .equals halfMilli).compile Deals.context closings = .ok compiled ∧
      compiled.toPredicate.holds [("closedAt", halfMilli)] = false ∧
      ¬ compiled.Selects [("closedAt", halfMilli)] := by
  have literal : halfMilli.asDate? = some ⟨1705312800, 500000⟩ := by decide +kernel
  have year : (⟨1705312800, 500000⟩ : Instant).FourDigitYear := by decide +kernel
  have related : Operator.equals.relation? = some (· == .eq) := rfl
  obtain ⟨make, hmake, comparison⟩ := Operator.comparison related
  have compiles := (compile_date_iff leads_closedAt (by decide) related hmake literal _).mpr
    ⟨year, rfl⟩
  have term : Term.normalize "closedAt" = "closedAt" := by decide
  rw [term] at compiles
  have holds : Record.HoldsDate [("closedAt", halfMilli)] "closedAt" ⟨1705312800, 500000⟩ :=
    ⟨_, rfl, literal⟩
  obtain ⟨predicate, selects⟩ := compiled_date comparison literal year holds
  refine ⟨_, _, literal, year, holds, compiles, ?_, ?_⟩
  · rw [Bool.eq_false_iff, Ne, predicate]
    decide
  · rw [selects]
    decide

end Condition

end RecordQuery
