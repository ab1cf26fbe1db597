import RecordQuery.Number.Decimal

/-!
Numbers of a record: whole numbers stay whole, all others are doubles. Reading goes through a
64-bit significand, so digits past it only move the exponent.
-/

namespace RecordQuery

inductive Number
  | int (n : Int)
  | real (x : Float)
  deriving DecidableEq, Inhabited

namespace Number

/-- The double nearest to the number. -/
def toFloat : Number → Float
  | int n => Binary64.ofInt n
  | real x => x

/-- A whole number and a double are different values, even `1` and `1.0`. -/
def canonical : Number → Number
  | int n => int n
  | real x => if Binary64.orderKey x = 0 then real 0 else real x

/-- The place of the number in the common order of whole numbers and doubles. -/
def orderKey (n : Number) : Int := Binary64.orderKey n.toFloat

/-- Numbers below `1e-5` or from `1e16` on are written with an exponent. -/
def layout : Decimal.Layout where
  positionalFrom := -5
  positionalBelow := 16
  pointZero := true
  exponentPlus := "+"

/-- A double that is no finite number has no notation of its own. -/
def text : Number → String
  | int n => toString n
  | real x => if Binary64.isFinite x then Decimal.write layout x else "null"

/-- Adds digits to a significand while it fits a word; the digits left over come back. -/
def absorb (significand : Nat) : List Char → Nat × List Char
  | [] => (significand, [])
  | c :: rest =>
    let next := 10 * significand + (c.toNat - '0'.toNat)
    if next < Word.bound64 then absorb next rest else (significand, c :: rest)

def powerOfTen (n : Nat) : Float := Binary64.ofRatio (Nat.pow 10 n) 1

/-- Division by a power of ten, at most `10 ^ 308` at a time. Three such steps bring any
significand to zero. -/
def shrink : Nat → Float → Nat → Float
  | 0, x, _ => x
  | fuel + 1, x, n =>
    if n ≤ 308 then x / powerOfTen n
    else if x == 0 then x
    else shrink fuel (x / powerOfTen 308) (n - 308)

/-- `none` past the largest double. -/
def ofParts? (significand : Nat) (exponent : Int) : Option Float :=
  let x := Binary64.ofRatio significand 1
  if exponent < 0 then some (shrink 4 x (-exponent).toNat)
  else if 308 < exponent then if significand = 0 then some 0 else none
  else
    let y := x * powerOfTen exponent.toNat
    if Binary64.isFinite y then some y else none

/-- Digits without a redundant leading zero. -/
def wholeDigits (ds : List Char) : Bool :=
  match ds with
  | [] => false
  | ['0'] => true
  | c :: _ => c != '0'

/-- A whole number in 64 bits, else the double beside it. Minus zero is a double. -/
def ofSignificand (negative : Bool) (significand : Nat) : Number :=
  if !negative then int significand
  else if significand = 0 ∨ Word.bound63 < significand then real (-Binary64.ofRatio significand 1)
  else int (-(significand : Int))

/-- Reads `-? digits (. digits)? (e sign? digits)?`. -/
def read? (cs : List Char) : Option Number :=
  let (negative, body) := match cs with
    | '-' :: rest => (true, rest)
    | rest => (false, rest)
  let whole := body.takeWhile Char.isDigit
  let afterWhole := body.dropWhile Char.isDigit
  if !wholeDigits whole then none
  else
    let (significand, surplus) := absorb 0 whole
    match afterWhole with
    | [] =>
      if surplus = [] then some (ofSignificand negative significand)
      else (ofParts? significand surplus.length).map fun x => real (if negative then -x else x)
    | '.' :: rest =>
      let places := rest.takeWhile Char.isDigit
      if places = [] then none
      else do
        let power ← Decimal.readExponent? (rest.dropWhile Char.isDigit)
        let (significand', skipped) := absorb significand places
        let shift : Int := (surplus.length : Int) - ((places.length : Int) - (skipped.length : Int))
        let x ← ofParts? significand' (shift + power)
        return real (if negative then -x else x)
    | tail => do
      let power ← Decimal.readExponent? tail
      let x ← ofParts? significand ((surplus.length : Int) + power)
      return real (if negative then -x else x)

end Number

end RecordQuery
