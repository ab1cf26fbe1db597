import RecordQuery.Number.Binary64

/-!
Decimal notation of doubles: the fewest digits that read back, a fixed number of places, and the
double nearest to a written decimal.
-/

namespace RecordQuery

/-- The number `digits * 10 ^ exponent`. -/
structure Decimal where
  digits : Nat
  exponent : Int
  deriving DecidableEq, Repr

namespace Decimal

/-- Digits of a natural number, most significant first. -/
def digitChars (n : Nat) : List Char := Nat.toDigits 10 n

/-- The power of ten of the leading digit of a positive quotient. -/
def leadingPower (num den : Nat) : Int :=
  if den ≤ num then ((digitChars (num / den)).length : Int) - 1
  else
    let places := (digitChars (den / num)).length - 1
    if den ≤ num * Nat.pow 10 places then -(places : Int) else -((places : Int) + 1)

/-- The quotient of `num` and `den * 10 ^ exponent`. -/
def scaled (num den : Nat) (exponent : Int) : Nat × Nat :=
  if 0 ≤ exponent then (num, den * Nat.pow 10 exponent.toNat)
  else (num * Nat.pow 10 (-exponent).toNat, den)

/-- The reals that round to a double, in quarters of its last place. The end points belong to it
iff the mantissa is even; below a power of two the lower half is only half as wide. -/
structure Neighbourhood where
  low : Nat
  value : Nat
  high : Nat
  exponent : Int
  closed : Bool

def Neighbourhood.of (m : Magnitude) : Neighbourhood where
  low :=
    if m.mantissa = Binary64.hidden ∧ -1074 < m.exponent then 4 * m.mantissa - 1
    else 4 * m.mantissa - 2
  value := 4 * m.mantissa
  high := 4 * m.mantissa + 2
  exponent := m.exponent - 2
  closed := m.mantissa % 2 = 0

/-- Whether `digits` units of `unitNum / unitDen` quarters lie in the neighbourhood. -/
def Neighbourhood.contains (h : Neighbourhood) (digits unitNum unitDen : Nat) : Bool :=
  let point := digits * unitNum
  if h.closed then h.low * unitDen ≤ point && point ≤ h.high * unitDen
  else h.low * unitDen < point && point < h.high * unitDen

/-- The point of the grid with `count` significant digits that is nearest to the value and reads
back as it; of two equally near points the even one. -/
def onGrid? (h : Neighbourhood) (lead : Int) (count : Nat) : Option Decimal :=
  let exponent := lead - count + 1
  -- One unit of the grid in quarters of the double's last place.
  let (unitNum, unitDen) :=
    let binary := Magnitude.ratio ⟨1, -h.exponent⟩
    let decimal :=
      if 0 ≤ exponent then (Nat.pow 10 exponent.toNat, 1) else (1, Nat.pow 10 (-exponent).toNat)
    (binary.1 * decimal.1, binary.2 * decimal.2)
  let below := h.value * unitDen / unitNum
  let nearest := Binary64.roundHalfEven (h.value * unitDen) unitNum
  let other := if nearest = below then below + 1 else below
  if h.contains nearest unitNum unitDen then some ⟨nearest, exponent⟩
  else if h.contains other unitNum unitDen then some ⟨other, exponent⟩
  else none

/-- Seventeen digits always read back, so the search ends there. -/
def shortestOfMagnitude (m : Magnitude) : Decimal :=
  if m.mantissa = 0 then ⟨0, 0⟩
  else
    let (num, den) := m.ratio
    let lead := leadingPower num den
    ((List.range 17).findSome? fun i => onGrid? (.of m) lead (i + 1)).getD ⟨0, 0⟩

/-- Moves trailing zeros of the digits into the exponent. -/
def dropZeros : Nat → Decimal → Decimal
  | 0, d => d
  | fuel + 1, d =>
    if d.digits ≠ 0 ∧ d.digits % 10 = 0 then dropZeros fuel ⟨d.digits / 10, d.exponent + 1⟩ else d

/-- The shortest decimal that reads back as the magnitude, nearest to it among those. -/
def shortest (x : Float) : Decimal :=
  dropZeros 17 (shortestOfMagnitude (Binary64.magnitude x))

/-- How the digits of a double are laid out. -/
structure Layout where
  /-- Powers of ten of the leading digit that are written without an exponent. -/
  positionalFrom : Int
  positionalBelow : Int
  /-- A whole number keeps a `.0`. -/
  pointZero : Bool
  /-- Sign of a positive exponent. -/
  exponentPlus : String

/-- A positive decimal in a layout. -/
def text (layout : Layout) (d : Decimal) : String :=
  let ds := digitChars d.digits
  let lead : Int := (ds.length : Int) - 1 + d.exponent
  if layout.positionalFrom ≤ lead ∧ lead < layout.positionalBelow then
    if 0 ≤ d.exponent then
      String.ofList (ds ++ List.replicate d.exponent.toNat '0')
        ++ (if layout.pointZero then ".0" else "")
    else if 0 ≤ lead then
      let whole := (lead + 1).toNat
      String.ofList (ds.take whole ++ '.' :: ds.drop whole)
    else String.ofList ('0' :: '.' :: List.replicate (-lead - 1).toNat '0' ++ ds)
  else
    let mantissa := match ds with
      | [] => []
      | [c] => [c]
      | c :: rest => c :: '.' :: rest
    let power :=
      if 0 ≤ lead then layout.exponentPlus ++ toString lead.toNat else "-" ++ toString (-lead).toNat
    String.ofList mantissa ++ "e" ++ power

/-- A finite double, its sign included, zero as well. -/
def write (layout : Layout) (x : Float) : String :=
  (if Binary64.isNegative x then "-" else "") ++ text layout (shortest x)

/-- A double with a fixed number of places, rounded from its exact value, a half to the even
neighbour. -/
def writePlaces (places : Nat) (x : Float) : String :=
  if Binary64.isFinite x then
    let (num, den) := (Binary64.magnitude x).ratio
    let units := digitChars (Binary64.roundHalfEven (num * Nat.pow 10 places) den)
    let padded := List.replicate (places + 1 - units.length) '0' ++ units
    let whole := padded.length - places
    (if Binary64.isNegative x then "-" else "")
      ++ String.ofList (padded.take whole)
      ++ (if places = 0 then "" else "." ++ String.ofList (padded.drop whole))
  else if x.isNaN then "NaN"
  else if Binary64.isNegative x then "-inf"
  else "inf"

/-- Value of a run of digits. -/
def ofDigits (ds : List Char) : Nat := ds.foldl (fun n c => 10 * n + (c.toNat - '0'.toNat)) 0

/-- The double nearest to a decimal. Powers of ten beyond its range are settled at once. -/
def toFloat (d : Decimal) : Float :=
  let lead : Int := ((digitChars d.digits).length : Int) + d.exponent
  if d.digits = 0 ∨ lead < -400 then 0
  else if 400 < lead then Binary64.ofRatio (Nat.pow 10 400) 1
  else
    let (num, den) := scaled d.digits 1 (-d.exponent)
    Binary64.ofRatio num den

/-- An optional exponent of a written number: `e`, an optional sign and digits. -/
def readExponent? : List Char → Option Int
  | [] => some 0
  | e :: rest =>
    if e = 'e' ∨ e = 'E' then
      let (negative, ds) := match rest with
        | '-' :: ds => (true, ds)
        | '+' :: ds => (false, ds)
        | ds => (false, ds)
      if ds ≠ [] ∧ ds.all Char.isDigit then
        some (if negative then -(ofDigits ds : Int) else (ofDigits ds : Int))
      else none
    else none

/-- A number as people write it: a sign, digits with at most one point among or beside them, and
an exponent. -/
def readFloat? (cs : List Char) : Option Float :=
  let (negative, body) := match cs with
    | '-' :: rest => (true, rest)
    | '+' :: rest => (false, rest)
    | rest => (false, rest)
  let whole := body.takeWhile Char.isDigit
  let afterWhole := body.dropWhile Char.isDigit
  let (places, tail) := match afterWhole with
    | '.' :: rest => (rest.takeWhile Char.isDigit, rest.dropWhile Char.isDigit)
    | rest => ([], rest)
  if whole = [] ∧ places = [] then none
  else do
    let power ← readExponent? tail
    let x := toFloat ⟨ofDigits (whole ++ places), power - places.length⟩
    return if negative then -x else x

end Decimal

end RecordQuery
