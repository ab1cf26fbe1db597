import RecordQuery.Number.Word
import RecordQuery.Text.Blank

/-!
Internet addresses: four numbers between points, or eight groups of hex digits between colons, of
which one run of zeros may be left out. An address of the second kind stands in brackets, with the
number of its scope if it has one.
-/

namespace RecordQuery

inductive Address
  | v4 (octets : List Nat)
  | v6 (groups : List Nat) (scope : Nat)
  deriving DecidableEq, Repr

namespace Address

def digitValue? (base : Nat) (c : Char) : Option Nat :=
  let value :=
    if c.isDigit then c.toNat - '0'.toNat
    else if 'a' ≤ c ∧ c ≤ 'f' then c.toNat - 'a'.toNat + 10
    else if 'A' ≤ c ∧ c ≤ 'F' then c.toNat - 'A'.toNat + 10
    else base
  if value < base then some value else none

/-- A number of digits below a bound. -/
def readNumber? (base bound : Nat) (cs : List Char) : Option Nat := do
  let digits ← cs.mapM (digitValue? base)
  let n := digits.foldl (fun n d => base * n + d) 0
  if digits = [] ∨ bound ≤ n then none else some n

/-- A byte without a leading zero. -/
def readOctet? (cs : List Char) : Option Nat :=
  match cs with
  | '0' :: _ :: _ => none
  | cs => readNumber? 10 256 cs

def readFour? (cs : List Char) : Option (List Nat) :=
  match (Text.splitOn (· = '.') cs).mapM readOctet? with
  | some [a, b, c, d] => some [a, b, c, d]
  | _ => none

/-- At most four hex digits. -/
def readGroup? (cs : List Char) : Option Nat :=
  if cs.length ≤ 4 then readNumber? 16 Word.bound16 cs else none

/-- Groups between colons; the last two may be written as four numbers. -/
def readPieces? : List (List Char) → Option (List Nat)
  | [] => some []
  | [last] =>
    match readGroup? last with
    | some group => some [group]
    | none =>
      match readFour? last with
      | some [a, b, c, d] => some [256 * a + b, 256 * c + d]
      | _ => none
  | piece :: rest => do
    let group ← readGroup? piece
    let others ← readPieces? rest
    return group :: others

def readGroups? (cs : List Char) : Option (List Nat) :=
  if cs = [] then some [] else readPieces? (Text.splitOn (· = ':') cs)

/-- The text before and after the first two colons in a row. -/
def splitGap? (before : List Char) : List Char → Option (List Char × List Char)
  | ':' :: ':' :: rest => some (before.reverse, rest)
  | c :: rest => splitGap? (c :: before) rest
  | [] => none

/-- Whether the last group is written as four numbers. -/
def endsInFour (cs : List Char) : Bool := cs.any (· = '.')

/-- Eight groups; a gap stands for at least one of them. -/
def readEight? (cs : List Char) : Option (List Nat) :=
  match splitGap? [] cs with
  | none => do
    let groups ← readGroups? cs
    if groups.length = 8 then some groups else none
  | some (head, tail) => do
    if endsInFour head then none
    let before ← readGroups? head
    let after ← readGroups? tail
    let given := before.length + after.length
    if given ≤ 7 then some (before ++ List.replicate (8 - given) 0 ++ after) else none

/-- The address and the scope between brackets. -/
def readBracketed? (cs : List Char) : Option Address := do
  let scope := cs.dropWhile (· ≠ '%')
  let groups ← readEight? (cs.takeWhile (· ≠ '%'))
  match scope with
  | [] => return v6 groups 0
  | _ :: digits => return v6 groups (← readNumber? 10 Word.bound32 digits)

def read? (s : String) : Option Address :=
  match s.toList with
  | '[' :: rest =>
    if rest.getLast? = some ']' then readBracketed? rest.dropLast else none
  | cs => (readFour? cs).map v4

def joinNumbers (separator : String) (base : Nat) (ns : List Nat) : String :=
  separator.intercalate (ns.map fun n => String.ofList (Nat.toDigits base n))

/-- Length of the run of zeros at the head. -/
def zerosAhead (ns : List Nat) : Nat := (ns.takeWhile (· = 0)).length

/-- Length of the longest run of zeros. -/
def longestZeros : List Nat → Nat
  | [] => 0
  | n :: rest => max (zerosAhead (n :: rest)) (longestZeros rest)

/-- Splits off the first run of zeros of a given length. -/
def splitZeros (length : Nat) : List Nat → List Nat × List Nat
  | [] => ([], [])
  | n :: rest =>
    if zerosAhead (n :: rest) = length then ([], (n :: rest).drop length)
    else
      let (before, after) := splitZeros length rest
      (n :: before, after)

/-- Groups with the longest run of at least two zeros left out. -/
def groupText (groups : List Nat) : String :=
  match groups with
  | [0, 0, 0, 0, 0, 0xFFFF, high, low] =>
    "::ffff:" ++ joinNumbers "." 10 [high / 256, high % 256, low / 256, low % 256]
  | groups =>
    let gap := longestZeros groups
    if gap < 2 then joinNumbers ":" 16 groups
    else
      let (before, after) := splitZeros gap groups
      joinNumbers ":" 16 before ++ "::" ++ joinNumbers ":" 16 after

def text : Address → String
  | v4 octets => joinNumbers "." 10 octets
  | v6 groups scope =>
    "[" ++ groupText groups ++ (if scope = 0 then "" else "%" ++ toString scope) ++ "]"

/-- An address with a port. -/
def withPort (a : Address) (port : Nat) : String := a.text ++ ":" ++ toString port

end Address

end RecordQuery
