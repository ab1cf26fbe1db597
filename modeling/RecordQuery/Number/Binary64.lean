import RecordQuery.Number.Word

/-!
Doubles as exact dyadic numbers: their order as integers, their exact magnitude, and the double
nearest to a quotient of natural numbers.
-/

namespace RecordQuery

/-- The magnitude `mantissa * 2 ^ exponent` of a finite double. -/
structure Magnitude where
  mantissa : Nat
  exponent : Int
  deriving DecidableEq, Repr

/-- A magnitude as a numerator and a denominator. -/
def Magnitude.ratio (m : Magnitude) : Nat × Nat :=
  if 0 ≤ m.exponent then (m.mantissa * Nat.pow 2 m.exponent.toNat, 1)
  else (m.mantissa, Nat.pow 2 (-m.exponent).toNat)

namespace Binary64

/-- The leading bit of a fraction, which is not stored. -/
def hidden : Nat := 4503599627370496

/-- All exponent bits set, and no others. -/
def infinityBits : Nat := 2047 * hidden

/-- The 63 bits below the sign, which grow with the magnitude. -/
def magnitudeBits (x : Float) : Nat := x.toBits.toNat % Word.bound63

def isNegative (x : Float) : Bool := x.toBits.toNat ≥ Word.bound63

/-- All exponent bits set marks an infinity or no number at all. -/
def isFinite (x : Float) : Bool := magnitudeBits x < infinityBits

/-- Beyond the infinities there are no numbers. -/
def isNumber (x : Float) : Bool := magnitudeBits x ≤ infinityBits

/-- Numbers ascend with this key; both zeros share the key zero. -/
def orderKey (x : Float) : Int :=
  if isNegative x then -(magnitudeBits x : Int) else (magnitudeBits x : Int)

/-- The smaller of two numbers, the first of two equal ones; what is no number does not count. -/
def lesser (x y : Float) : Float :=
  if isNumber y ∧ (¬isNumber x ∨ orderKey y < orderKey x) then y else x

/-- The greater of two numbers, the first of two equal ones; what is no number does not count. -/
def greater (x y : Float) : Float :=
  if isNumber y ∧ (¬isNumber x ∨ orderKey x < orderKey y) then y else x

/-- Below the smallest exponent the leading one is no longer implied. -/
def magnitude (x : Float) : Magnitude :=
  let field : Nat := magnitudeBits x / hidden
  let fraction : Nat := magnitudeBits x % hidden
  if field = 0 then ⟨fraction, -1074⟩ else ⟨fraction + hidden, (field : Int) - (1075 : Int)⟩

/-- A quotient rounded to an integer; a half goes to the even neighbour. -/
def roundHalfEven (num den : Nat) : Nat :=
  let low := num / den
  let twice := 2 * (num % den)
  if twice < den then low
  else if den < twice then low + 1
  else low + low % 2

/-- The quotient of `num` and `den * 2 ^ exponent`. -/
def scaled (num den : Nat) (exponent : Int) : Nat × Nat :=
  if 0 ≤ exponent then (num, den * Nat.pow 2 exponent.toNat)
  else (num * Nat.pow 2 (-exponent).toNat, den)

/-- The exponent at which the quotient's integer part has 53 bits, but no less than the smallest
one a double has. -/
def fittingExponent (num den : Nat) : Int :=
  let guess : Int := (num.log2 : Int) - (den.log2 : Int) - 52
  let (n, d) := scaled num den guess
  max (-1074) (if n / d < hidden then guess - 1 else guess)

/-- The bits of the double nearest to a quotient, ties to even; too large a quotient is infinite. -/
def bitsOfRatio (num den : Nat) : Nat :=
  if num = 0 then 0
  else
    let exponent := fittingExponent num den
    let (n, d) := scaled num den exponent
    let mantissa := roundHalfEven n d
    -- A carry into the 54th bit moves on to the next exponent by itself.
    let bits := (exponent + 1074).toNat * hidden + mantissa
    if bits < infinityBits then bits else infinityBits

def ofRatio (num den : Nat) : Float := Float.ofBits (UInt64.ofNat (bitsOfRatio num den))

def ofInt : Int → Float
  | .ofNat n => ofRatio n 1
  | .negSucc n => -ofRatio (n + 1) 1

end Binary64

end RecordQuery
