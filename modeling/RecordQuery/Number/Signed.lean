import RecordQuery.Number.Decimal

/-!
Whole numbers that a signed 64-bit word holds, read from text or cut off a double.
-/

namespace RecordQuery

namespace Signed

def least : Int := -(Word.bound63 : Int)

def greatest : Int := (Word.bound63 : Int) - 1

/-- Why a text is no whole number of that range. Of several reasons the leftmost counts. -/
inductive Fault
  | empty
  | invalidDigit
  | tooLarge
  | tooSmall
  deriving DecidableEq, Repr

def Fault.message : Fault → String
  | empty => "cannot parse integer from empty string"
  | invalidDigit => "invalid digit found in string"
  | tooLarge => "number too large to fit in target type"
  | tooSmall => "number too small to fit in target type"

/-- Adds digits one after the other, away from zero. -/
def readDigits (negative : Bool) (n : Int) : List Char → Except Fault Int
  | [] => .ok n
  | c :: rest =>
    if !c.isDigit then .error .invalidDigit
    else
      let digit : Int := (c.toNat - '0'.toNat : Nat)
      let next := if negative then 10 * n - digit else 10 * n + digit
      if next < least then .error .tooSmall
      else if greatest < next then .error .tooLarge
      else readDigits negative next rest

/-- Digits behind at most one sign. -/
def read (cs : List Char) : Except Fault Int :=
  match cs with
  | [] => .error .empty
  | ['+'] | ['-'] => .error .invalidDigit
  | '+' :: rest => readDigits false 0 rest
  | '-' :: rest => readDigits true 0 rest
  | cs => readDigits false 0 cs

/-- The nearest number of the range. -/
def clamp (n : Int) : Int := max least (min greatest n)

/-- The whole part of a finite double. -/
def wholePart (x : Float) : Int :=
  let (num, den) := (Binary64.magnitude x).ratio
  let whole : Int := (num / den : Nat)
  if Binary64.isNegative x then -whole else whole

/-- The whole part of a double as far as the range reaches. -/
def ofFloat (x : Float) : Int := clamp (wholePart x)

end Signed

end RecordQuery
