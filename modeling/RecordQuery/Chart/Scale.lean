import RecordQuery.Number.Decimal

/-!
Ranges of numbers, their place on an axis and how coordinates and ticks are written.
-/

namespace RecordQuery

namespace Chart

/-- A coordinate has one place. -/
def place (x : Float) : String := Decimal.writePlaces 1 x

/-- Sizes are whole or halves and never need an exponent. -/
def sizeLayout : Decimal.Layout where
  positionalFrom := -400
  positionalBelow := 400
  pointZero := false
  exponentPlus := ""

def sizeText (x : Float) : String := Decimal.write sizeLayout x

def dropTrailing (c : Char) (s : String) : String :=
  String.ofList (s.toList.reverse.dropWhile (· = c)).reverse

/-- A tick has no places if it is nearly whole, else at most two. -/
def tickText (x : Float) : String :=
  if (x - x.round).abs < 1e-9 then Decimal.writePlaces 0 x
  else dropTrailing '.' (dropTrailing '0' (Decimal.writePlaces 2 x))

/-- Least and greatest number. -/
structure Range where
  low : Float
  high : Float

namespace Range

def infinity : Float := Float.ofBits (UInt64.ofNat Binary64.infinityBits)

/-- The range of numbers; without any, or with an infinite one, from zero to one. -/
def of (numbers : List Float) : Range :=
  let low := numbers.foldl Binary64.lesser infinity
  let high := numbers.foldl Binary64.greater (-infinity)
  if Binary64.isFinite low && Binary64.isFinite high then ⟨low, high⟩ else ⟨0, 1⟩

/-- A twentieth more at the top; a range of one number grows by one on both sides. -/
def widened (r : Range) : Range :=
  if (r.high - r.low).abs < 2.220446049250313e-16 then ⟨r.low - 1, r.high + 1⟩
  else ⟨r.low, r.high + (r.high - r.low) * 0.05⟩

/-- The part of the range that lies below a number. -/
def share (r : Range) (x : Float) : Float := (x - r.low) / (r.high - r.low)

/-- The number `i` parts of `count` from the low end. -/
def tick (r : Range) (i count : Nat) : Float :=
  r.low + (r.high - r.low) * Float.ofNat i / Float.ofNat count

end Range

end Chart

end RecordQuery
