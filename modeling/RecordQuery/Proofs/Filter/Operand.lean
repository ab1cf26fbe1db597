import Mathlib.Logic.Basic
import RecordQuery.Proofs.Filter.Compile

/-!
# How operators take their values

Apart from the test for presence, operators resolve a value in one way. Most of them then compare
with the literal that comes of it, and differ in the clause they make; a range makes one of two such
literals, and a null bound is none.
-/

namespace RecordQuery

namespace Operator

theorem ofName?_name (operator : Operator) : ofName? operator.name = some operator := by
  cases operator <;> rfl

/-- The clause that an operator makes of a literal. -/
def literal? : Operator → Option (Value → Clause)
  | equals => some .equals
  | notEquals => some .differs
  | isIn => some fun v => .isOneOf (Operand.asList v)
  | isNotIn => some fun v => .isNoneOf (Operand.asList v)
  | greaterThan => some .greater
  | greaterOrEquals => some .atLeast
  | lessThan => some .less
  | lessOrEquals => some .atMost
  | _ => none

theorem ne_isPresent_of_literal? {operator : Operator} {make : Value → Clause}
    (h : operator.literal? = some make) : operator ≠ isPresent := by
  rintro rfl
  simp [literal?] at h

end Operator

namespace Operand

variable {ctx : FilterContext} {term : String} {resolved : ResolvedTerm} {raw : Value}

theorem resolve_congr {a b : Operator} (ha : a ≠ .isPresent) (hb : b ≠ .isPresent) :
    resolve ctx a term resolved raw = resolve ctx b term resolved raw := by
  have ha : (a != .isPresent) = true := by simpa using ha
  have hb : (b != .isPresent) = true := by simpa using hb
  simp only [resolve, ha, hb]

/-- The literal that a condition compares with. -/
def literal (ctx : FilterContext) (term : String) (resolved : ResolvedTerm) (raw : Value) :
    Except CompileError Value :=
  resolve ctx .equals term resolved raw >>= checkLiteral term

/-- Operators resolve a value and check it before they make anything of it. -/
theorem literal_map {α : Type} {operator : Operator} (h : operator ≠ .isPresent)
    (make : Value → α) :
    (do
      let v ← resolve ctx operator term resolved raw
      let v ← checkLiteral term v
      return make v) = (literal ctx term resolved raw).map make := by
  rw [literal, resolve_congr (a := .equals) (b := operator) (by simp) h]
  cases resolve ctx operator term resolved raw with
  | error e => rfl
  | ok v =>
    simp only [bind, Except.bind]
    cases checkLiteral term v <;> rfl

theorem checkLiteral_eq_ok_iff {v w : Value} :
    checkLiteral term v = .ok w ↔ hidesOperators v = false ∧ v = w := by
  rw [checkLiteral]
  cases hidesOperators v <;> simp

theorem hidesOperators_of_literal {v : Value} (h : literal ctx term resolved raw = .ok v) :
    hidesOperators v = false := by
  obtain ⟨w, _, hchecked⟩ := bind_eq_ok_iff.mp h
  obtain ⟨hopen, rfl⟩ := checkLiteral_eq_ok_iff.mp hchecked
  exact hopen

theorem literal_of_resolve {v : Value} (h : resolve ctx .equals term resolved raw = .ok v)
    (w : Value) :
    literal ctx term resolved raw = .ok w ↔ hidesOperators v = false ∧ v = w := by
  rw [literal, h]
  exact checkLiteral_eq_ok_iff

/-- A bound of a range that is there and not null. -/
def given? (bounds : Record) (name : String) : Option Value :=
  (Fields.get? bounds name).filter fun v => !v.isNull

theorem bound_eq (bounds : Record) (name : String) :
    bound ctx term resolved bounds name =
      match given? bounds name with
      | none => .ok none
      | some raw => (literal ctx term resolved raw).map some := by
  rw [bound, given?]
  cases Fields.get? bounds name with
  | none => rfl
  | some raw =>
    cases raw with
    | null => rfl
    | _ => exact literal_map (by simp) some

theorem given?_of_bound {bounds : Record} {name : String}
    (h : bound ctx term resolved bounds name = .ok none) : given? bounds name = none := by
  rw [bound_eq] at h
  cases hgiven : given? bounds name with
  | none => rfl
  | some raw =>
    rw [hgiven] at h
    obtain ⟨v, _, hv⟩ := map_eq_ok_iff.mp h
    cases hv

/-- What a bound comes to satisfies a property exactly if the literal of a given bound does. -/
theorem bound_iff (bounds : Record) (name : String) (p : Value → Prop) :
    (∃ made, bound ctx term resolved bounds name = .ok made ∧ ∀ v, made = some v → p v) ↔
      ∀ raw, given? bounds name = some raw → ∃ v, literal ctx term resolved raw = .ok v ∧ p v := by
  rw [bound_eq]
  cases given? bounds name with
  | none => simp
  | some raw =>
    simp only [map_eq_ok_iff, Option.some.injEq, forall_eq']
    constructor
    · rintro ⟨_, ⟨v, hv, rfl⟩, hp⟩
      exact ⟨v, hv, hp v rfl⟩
    · rintro ⟨v, hv, hp⟩
      refine ⟨some v, ⟨v, hv, rfl⟩, ?_⟩
      rintro _ ⟨⟩
      exact hp

/-- No list, and no text that may be a token. -/
def Plain : Value → Prop
  | .arr _ => False
  | .str s => s.startsWith "$" = false
  | _ => True

/-- What becomes of a value that is no list. -/
def adapt (resolved : ResolvedTerm) (v : Value) : Value :=
  if resolved.type = "encrypted" then hash v else coerce resolved.type v

theorem hash_ne_list (v : Value) (items : List Value) : hash v ≠ .arr items := by
  cases v <;> simp [hash]

theorem readNumber?_eq_some {s : String} {v : Value} (h : readNumber? s = some v) :
    ∃ n, v = .num n := by
  unfold readNumber? at h
  dsimp only at h
  -- Whatever the sign, a whole number or a finite double.
  split at h
  all_goals
    rcases ite_eq_iff.mp h with ⟨_, h⟩ | ⟨_, h⟩
    · exact ⟨_, (Option.some.inj h).symm⟩
    · obtain ⟨x, _, h⟩ := Option.bind_eq_some_iff.mp h
      rcases ite_eq_iff.mp h with ⟨_, h⟩ | ⟨_, h⟩
      · exact ⟨_, (Option.some.inj h).symm⟩
      · cases h

theorem coerce_ne_list {type : TermType} {v : Value} (hv : ∀ items, v ≠ .arr items)
    (items : List Value) : coerce type v ≠ .arr items := by
  unfold coerce
  split
  · cases date? v with
    | none => exact hv items
    | some t => simp [Value.ofDate]
  · split
    · cases hs : v.asStr?.bind readNumber? with
      | none => exact hv items
      | some n =>
        obtain ⟨s, _, hn⟩ := Option.bind_eq_some_iff.mp hs
        obtain ⟨n, rfl⟩ := readNumber?_eq_some hn
        simp
    · split
      · cases v with
        | num n => simp
        | _ => exact hv items
      · exact hv items

theorem Plain.ne_list {v : Value} (h : Plain v) (items : List Value) : v ≠ .arr items := by
  rintro rfl
  exact h

/-- A value that is no list stays none. -/
theorem asList_adapt {v : Value} (h : Plain v) :
    asList (adapt resolved v) = [adapt resolved v] := by
  have hlist : ∀ items, adapt resolved v ≠ .arr items := by
    intro items
    unfold adapt
    split
    · exact hash_ne_list v items
    · exact coerce_ne_list h.ne_list items
  cases hadapt : adapt resolved v with
  | arr items => exact absurd hadapt (hlist items)
  | _ => rfl

theorem each_adapt {v : Value} (h : Plain v) :
    (if resolved.type = "encrypted" && Operator.equals != .isPresent then each hash v
      else each (coerce resolved.type) v) = adapt resolved v := by
  have heach : ∀ f, each f v = f v := by
    intro f
    cases v with
    | arr items => exact h.elim
    | _ => rfl
  rw [heach, heach, adapt]
  by_cases htype : resolved.type = "encrypted" <;> simp [htype]

theorem resolve_list (items : List Value) :
    resolve ctx .equals term resolved (.arr items) = .ok (.arr (items.map (adapt resolved))) := by
  by_cases htype : resolved.type = "encrypted"
  · have : adapt resolved = hash := by funext v; simp [adapt, htype]
    simp [resolve, each, htype, this]
  · have : adapt resolved = coerce resolved.type := by funext v; simp [adapt, htype]
    simp [resolve, each, htype, this]

/-- Identifiers, which no list lets through as they are, are not changed in a list either. -/
theorem adapt_identifier {operator : Operator} (admits : resolved.Admits operator)
    (h : resolved.isIdentifier = true) (v : Value) : adapt resolved v = v := by
  have hlookup : resolved.type = "lookup._id" := ResolvedTerm.type_of_isIdentifier admits h
  rw [adapt, hlookup]
  rfl

theorem resolve_plain {operator : Operator} (admits : resolved.Admits operator) {v : Value}
    (h : Plain v) : resolve ctx .equals term resolved v = .ok (adapt resolved v) := by
  simp only [resolve, each_adapt h]
  cases v with
  | arr items => exact h.elim
  | str s =>
    have hs : s.startsWith "$" = false := h
    have htoken : Token.resolve s ctx = .ok none := by simp [Token.resolve, hs]
    cases hid : resolved.isIdentifier with
    | true => simp [htoken, adapt_identifier admits hid]
    | false => simp [htoken]
  | null | bool _ | num _ | obj _ => rfl

theorem anyHidesOperators_eq (items : List Value) :
    anyHidesOperators items = items.any hidesOperators := by
  induction items with
  | nil => rfl
  | cons v rest ih => rw [anyHidesOperators, ih, List.any_cons]

/-- A list is taken exactly if each of its items is. -/
theorem literal_list {items : List Value} {w : Value} :
    literal ctx term resolved (.arr items) = .ok w ↔
      (∀ v ∈ items, hidesOperators (adapt resolved v) = false) ∧
        .arr (items.map (adapt resolved)) = w := by
  rw [literal_of_resolve (resolve_list items), hidesOperators, anyHidesOperators_eq]
  simp

theorem literal_plain {operator : Operator} (admits : resolved.Admits operator) {v w : Value}
    (h : Plain v) :
    literal ctx term resolved v = .ok w ↔
      hidesOperators (adapt resolved v) = false ∧ adapt resolved v = w :=
  literal_of_resolve (resolve_plain admits h) w

/-- One value and the list of it are refused alike, and make one list. -/
theorem literal_single {α : Type} {operator : Operator} (admits : resolved.Admits operator)
    {v : Value} (h : Plain v) (make : List Value → α) :
    (literal ctx term resolved v).map (fun w => make (asList w))
      = (literal ctx term resolved (.arr [v])).map fun w => make (asList w) := by
  rw [literal, literal, resolve_plain admits h, resolve_list]
  have hlist : hidesOperators (.arr [adapt resolved v]) = hidesOperators (adapt resolved v) := by
    rw [hidesOperators, anyHidesOperators_eq, List.any_cons, List.any_nil, Bool.or_false]
  simp only [bind, Except.bind, checkLiteral, List.map_cons, List.map_nil, hlist]
  cases hidesOperators (adapt resolved v) with
  | true => rfl
  | false =>
    change Except.ok (make (asList (adapt resolved v))) = Except.ok (make [adapt resolved v])
    rw [asList_adapt h]

end Operand

namespace Condition

variable {ctx : FilterContext} {term : String} {resolved : ResolvedTerm} {raw : Value}

theorem clause_of_literal {operator : Operator} {make : Value → Clause}
    (h : operator.literal? = some make) :
    clause ctx operator term resolved raw
      = (Operand.literal ctx term resolved raw).map fun v => some (make v) := by
  rw [← Operand.literal_map (Operator.ne_isPresent_of_literal? h)]
  cases operator with
  | equals | notEquals | isIn | isNotIn | greaterThan | greaterOrEquals | lessThan
  | lessOrEquals =>
    cases h
    rfl
  | _ => simp [Operator.literal?] at h

end Condition

end RecordQuery
