import Mathlib.Algebra.BigOperators.Group.List.Basic
import Mathlib.Algebra.Order.Ring.Nat
import Mathlib.Algebra.Ring.Rat
import RecordQuery.Proofs.Kpi.Figure

/-!
# Accumulators of parts

An accumulator over all readings comes to the accumulators over parts of them: counts add up, the
least is the least of the parts, the greatest the greatest. Sums are rounded at every step, so they
add up as exact numbers do: always those of the readings, and those that were kept wherever no step
was rounded.
-/

namespace RecordQuery

namespace Binary64

/-- The number that a finite double is. -/
def value (x : Float) : ℚ :=
  let (num, den) := (magnitude x).ratio
  if isNegative x then -(num / den : ℚ) else num / den

theorem value_zero : value 0 = 0 := by
  decide +kernel

/-- Where a number stands among all; what is no number stands nowhere. -/
def standing? (x : Float) : Option Int := if isNumber x then some (orderKey x) else none

/-- The better of two numbers stands where the better standing is. -/
theorem standing?_choice {op : Int → Int → Int} {x y : Float} {better : Prop} [Decidable better]
    (chosen : op (orderKey x) (orderKey y) = if better then orderKey y else orderKey x) :
    standing? (if isNumber y ∧ (¬isNumber x ∨ better) then y else x)
      = Option.merge op (standing? x) (standing? y) := by
  by_cases hy : isNumber y
  · by_cases hx : isNumber x
    · by_cases h : better <;> simp [standing?, hx, hy, h, chosen]
    · simp [standing?, hx, hy]
  · simp [standing?, hy]

theorem standing?_lesser (x y : Float) :
    standing? (lesser x y) = Option.merge min (standing? x) (standing? y) :=
  standing?_choice (by split <;> omega)

theorem standing?_greater (x y : Float) :
    standing? (greater x y) = Option.merge max (standing? x) (standing? y) :=
  standing?_choice (by split <;> omega)

end Binary64

namespace Accumulator

/-! The best of what there is, for minimum and maximum alike. -/

section
variable (op : Int → Int → Int)

/-- The best of some standings, of which any may be missing. -/
def best? (standings : List (Option Int)) : Option Int := standings.foldr (Option.merge op) none

variable {op}

theorem pick_filterMap {α : Type} {pick : List Int → Option Int} (nil : pick [] = none)
    (cons : ∀ n rest, pick (n :: rest) = some ((pick rest).elim n (op n)))
    (f : α → Option Int) (items : List α) :
    pick (items.filterMap f) = best? op (items.map f) := by
  induction items with
  | nil => exact nil
  | cons a rest ih =>
    rw [List.map_cons, best?, List.foldr_cons, ← best?, ← ih]
    cases hf : f a with
    | none => simp [hf]
    | some n =>
      rw [List.filterMap_cons_some hf, cons]
      cases pick (rest.filterMap f) <;> rfl

theorem min?_filterMap {α : Type} (f : α → Option Int) (items : List α) :
    (items.filterMap f).min? = best? min (items.map f) :=
  pick_filterMap rfl (fun _ _ => List.min?_cons) f items

theorem max?_filterMap {α : Type} (f : α → Option Int) (items : List α) :
    (items.filterMap f).max? = best? max (items.map f) :=
  pick_filterMap rfl (fun _ _ => List.max?_cons) f items

variable [Std.Associative op]

theorem merge_assoc (a b c : Option Int) :
    Option.merge op (Option.merge op a b) c = Option.merge op a (Option.merge op b c) :=
  Std.Associative.assoc a b c

theorem best?_perm [Std.Commutative op] {a b : List (Option Int)} (h : a.Perm b) :
    best? op a = best? op b :=
  h.foldr_eq none

theorem best?_append (a b : List (Option Int)) :
    best? op (a ++ b) = Option.merge op (best? op a) (best? op b) := by
  induction a with
  | nil => simp [best?]
  | cons s rest ih =>
    have rest' : best? op (s :: rest) = Option.merge op s (best? op rest) := rfl
    rw [rest', merge_assoc, ← ih]
    rfl

theorem best?_flatten (parts : List (List (Option Int))) :
    best? op parts.flatten = best? op (parts.map (best? op)) := by
  induction parts with
  | nil => rfl
  | cons part rest ih =>
    rw [List.flatten_cons, best?_append, ih]
    rfl

/-- The standing of a running best. -/
theorem standing?_foldl {better : Float → Float → Float}
    (step : ∀ x y, Binary64.standing? (better x y)
      = Option.merge op (Binary64.standing? x) (Binary64.standing? y))
    (numbers : List Float) :
    (numbers.foldl (fun best x => some (best.elim x fun before => better before x)) none).bind
        Binary64.standing?
      = best? op (numbers.map Binary64.standing?) := by
  cases numbers with
  | nil => rfl
  | cons first rest =>
    rw [List.foldl_cons, Option.elim_none, foldl_extremum, Option.bind_some]
    induction rest generalizing first with
    | nil => simp [best?]
    | cons x rest ih =>
      rw [List.foldl_cons, ih, List.map_cons, List.map_cons, List.map_cons]
      change Option.merge op _ (best? op _) = Option.merge op _ (Option.merge op _ (best? op _))
      rw [step, merge_assoc]

end

/-- The exact sum of the numbers among readings. -/
def exactSum (readings : List (Option Float)) : ℚ := ((numbers readings).map Binary64.value).sum

/-- From a sum on, no number is added with a rounding. -/
def ExactFrom (sum : Float) : List Float → Prop
  | [] => True
  | x :: rest =>
    Binary64.value (sum + x) = Binary64.value sum + Binary64.value x ∧ ExactFrom (sum + x) rest

instance ExactFrom.decidable (sum : Float) : ∀ numbers, Decidable (ExactFrom sum numbers)
  | [] => isTrue trivial
  | x :: rest =>
    have := ExactFrom.decidable (sum + x) rest
    inferInstanceAs (Decidable (_ ∧ _))

/-- No step of the running sum over readings is rounded. -/
def AddsExactly (readings : List (Option Float)) : Prop := ExactFrom 0 (numbers readings)

instance (readings : List (Option Float)) : Decidable (AddsExactly readings) :=
  inferInstanceAs (Decidable (ExactFrom _ _))

/-- The sum that is kept was added up from readings that exactly come to a total, and is the total
unless a step was rounded. -/
structure SumsTo (a : Accumulator) (readings : List (Option Float)) (total : ℚ) : Prop where
  running : a.sum = (numbers readings).foldl (· + ·) 0
  comesTo : exactSum readings = total
  exact : AddsExactly readings → Binary64.value a.sum = total

/-- What an accumulator over readings has to hold, told by the readings alone. Both zeros stand
together, and what is no number stands nowhere. -/
structure Aggregates (a : Accumulator) (readings : List (Option Float)) : Prop where
  records : a.records = readings.length
  numeric : a.numeric = (numbers readings).length
  sum : a.SumsTo readings (exactSum readings)
  least : a.least.bind Binary64.standing?
    = ((numbers readings).filterMap Binary64.standing?).min?
  greatest : a.greatest.bind Binary64.standing?
    = ((numbers readings).filterMap Binary64.standing?).max?

/-- An accumulator and those of its parts. -/
structure Combines (whole : Accumulator) (parts : List Accumulator) : Prop where
  records : whole.records = (parts.map (·.records)).sum
  numeric : whole.numeric = (parts.map (·.numeric)).sum
  least : whole.least.bind Binary64.standing?
    = (parts.filterMap fun part => part.least.bind Binary64.standing?).min?
  greatest : whole.greatest.bind Binary64.standing?
    = (parts.filterMap fun part => part.greatest.bind Binary64.standing?).max?

theorem records_ofReadings (readings : List (Option Float)) :
    (ofReadings readings).records = readings.length := by
  simp [ofReadings, foldl_push, empty]

theorem numeric_ofReadings (readings : List (Option Float)) :
    (ofReadings readings).numeric = (numbers readings).length := by
  simp [ofReadings, foldl_push, empty]

theorem sum_ofReadings (readings : List (Option Float)) :
    (ofReadings readings).sum = (numbers readings).foldl (· + ·) 0 := by
  simp [ofReadings, foldl_push, empty]

theorem least_ofReadings (readings : List (Option Float)) :
    (ofReadings readings).least.bind Binary64.standing?
      = best? min ((numbers readings).map Binary64.standing?) := by
  rw [ofReadings, foldl_push]
  exact standing?_foldl Binary64.standing?_lesser _

theorem greatest_ofReadings (readings : List (Option Float)) :
    (ofReadings readings).greatest.bind Binary64.standing?
      = best? max ((numbers readings).map Binary64.standing?) := by
  rw [ofReadings, foldl_push]
  exact standing?_foldl Binary64.standing?_greater _

theorem ExactFrom.value_foldl {sum : Float} {numbers : List Float} (exact : ExactFrom sum numbers) :
    Binary64.value (numbers.foldl (· + ·) sum)
      = Binary64.value sum + (numbers.map Binary64.value).sum := by
  induction numbers generalizing sum with
  | nil => simp
  | cons x rest ih =>
    rw [List.foldl_cons, ih exact.2, exact.1, List.map_cons, List.sum_cons, add_assoc]

/-- Where no step is rounded, what is kept is the exact sum. -/
theorem value_sum_ofReadings {readings : List (Option Float)} (exact : AddsExactly readings) :
    Binary64.value (ofReadings readings).sum = exactSum readings := by
  rw [sum_ofReadings, ExactFrom.value_foldl exact, Binary64.value_zero, zero_add, exactSum]

theorem aggregates_ofReadings (readings : List (Option Float)) :
    (ofReadings readings).Aggregates readings where
  records := records_ofReadings readings
  numeric := numeric_ofReadings readings
  sum := ⟨sum_ofReadings readings, rfl, value_sum_ofReadings⟩
  least := by rw [least_ofReadings, min?_filterMap]
  greatest := by rw [greatest_ofReadings, max?_filterMap]

section
variable {readings : List (Option Float)} {parts : List (List (Option Float))}

theorem numbers_perm (once : readings.Perm parts.flatten) :
    (numbers readings).Perm (parts.map numbers).flatten := by
  rw [show (parts.map numbers).flatten = numbers parts.flatten from List.filterMap_flatten.symm]
  exact once.filterMap id

/-- Readings that are parted come to what the parts come to. -/
theorem combines_of_perm (once : readings.Perm parts.flatten) :
    (ofReadings readings).Combines (parts.map ofReadings) where
  records := by
    rw [records_ofReadings, once.length_eq, List.length_flatten, List.map_map]
    simp only [Function.comp_def, records_ofReadings]
  numeric := by
    rw [numeric_ofReadings, (numbers_perm once).length_eq, List.length_flatten, List.map_map,
      List.map_map]
    simp only [Function.comp_def, numeric_ofReadings]
  least := by
    rw [least_ofReadings, best?_perm ((numbers_perm once).map _), List.map_flatten, best?_flatten,
      min?_filterMap, List.map_map, List.map_map, List.map_map]
    simp only [Function.comp_def, least_ofReadings]
  greatest := by
    rw [greatest_ofReadings, best?_perm ((numbers_perm once).map _), List.map_flatten,
      best?_flatten, max?_filterMap, List.map_map, List.map_map, List.map_map]
    simp only [Function.comp_def, greatest_ofReadings]

theorem exactSum_perm (once : readings.Perm parts.flatten) :
    exactSum readings = (parts.map exactSum).sum := by
  rw [exactSum, ((numbers_perm once).map _).sum_eq, List.map_flatten, List.sum_flatten,
    List.map_map, List.map_map]
  rfl

/-- Sums that were never rounded add up. -/
theorem value_sum_perm (once : readings.Perm parts.flatten) (exact : AddsExactly readings)
    (exactParts : ∀ part ∈ parts, AddsExactly part) :
    Binary64.value (ofReadings readings).sum
      = (parts.map fun part => Binary64.value (ofReadings part).sum).sum := by
  rw [value_sum_ofReadings exact, exactSum_perm once]
  refine congrArg List.sum (List.map_congr_left fun part hpart => ?_)
  exact (value_sum_ofReadings (exactParts part hpart)).symm

end

end Accumulator

end RecordQuery
