import RecordQuery.Text.Case
import RecordQuery.Text.WordTable

/-!
Sets of characters, and membership in them with or without regard to case.
-/

namespace RecordQuery

namespace Letter

/-- Capitals of a small letter. -/
def capitals (c : Char) : List Char :=
  capitalRuns.filterMap fun run =>
    let n := (c.toNat : Int) - run.offset
    if run.first ≤ n ∧ n ≤ run.last ∧ (n - run.first) % run.step = 0 then some (Char.ofNat n.toNat)
    else none

/-- All characters that are the same letter without regard to case. -/
def forms (c : Char) : List Char :=
  let letter := caseless c
  let smalls := letter ::
    (variants.filter fun entry => entry.2 = letter.toNat).map fun entry => Char.ofNat entry.1
  smalls ++ smalls.flatMap capitals

def isDigit (c : Char) : Bool := inRanges digitRanges c

def isWord (c : Char) : Bool := inRanges wordRanges c

end Letter

inductive CharSet
  /-- Characters in any of some ranges of code points. -/
  | ranges (ranges : List (Nat × Nat))
  | complement (s : CharSet)
  | union (s t : CharSet)
  | inter (s t : CharSet)
  | diff (s t : CharSet)
  /-- Characters in exactly one of two sets. -/
  | symmDiff (s t : CharSet)
  deriving DecidableEq, Repr

namespace CharSet

def single (n : Nat) : CharSet := ranges [(n, n)]

def all : CharSet := complement (ranges [])

/-- Without regard to case a character is in a range if another form of the same letter is; the
complement of a set is taken after that. -/
def mem (caseless : Bool) : CharSet → Char → Bool
  | ranges rs, c =>
    if caseless then (Letter.forms c).any (Letter.inRanges rs) else Letter.inRanges rs c
  | complement s, c => !mem caseless s c
  | union s t, c => mem caseless s c || mem caseless t c
  | inter s t, c => mem caseless s c && mem caseless t c
  | diff s t, c => mem caseless s c && !mem caseless t c
  | symmDiff s t, c => mem caseless s c != mem caseless t c

def blanks : CharSet :=
  ranges [(9, 13), (0x20, 0x20), (0x85, 0x85), (0xA0, 0xA0), (0x1680, 0x1680), (0x2000, 0x200A),
    (0x2028, 0x2029), (0x202F, 0x202F), (0x205F, 0x205F), (0x3000, 0x3000)]

/-- The set that an escaped letter stands for. -/
def ofEscape? (c : Char) : Option CharSet :=
  match c with
  | 'd' => some (ranges Letter.digitRanges)
  | 'D' => some (complement (ranges Letter.digitRanges))
  | 's' => some blanks
  | 'S' => some (complement blanks)
  | 'w' => some (ranges Letter.wordRanges)
  | 'W' => some (complement (ranges Letter.wordRanges))
  | _ => none

/-- The sets of ASCII characters that have names. -/
def named? (name : String) : Option CharSet :=
  match name with
  | "alnum" => some (ranges [(0x30, 0x39), (0x41, 0x5A), (0x61, 0x7A)])
  | "alpha" => some (ranges [(0x41, 0x5A), (0x61, 0x7A)])
  | "ascii" => some (ranges [(0, 0x7F)])
  | "blank" => some (ranges [(9, 9), (0x20, 0x20)])
  | "cntrl" => some (ranges [(0, 0x1F), (0x7F, 0x7F)])
  | "digit" => some (ranges [(0x30, 0x39)])
  | "graph" => some (ranges [(0x21, 0x7E)])
  | "lower" => some (ranges [(0x61, 0x7A)])
  | "print" => some (ranges [(0x20, 0x7E)])
  | "punct" => some (ranges [(0x21, 0x2F), (0x3A, 0x40), (0x5B, 0x60), (0x7B, 0x7E)])
  | "space" => some (ranges [(9, 13), (0x20, 0x20)])
  | "upper" => some (ranges [(0x41, 0x5A)])
  | "word" => some (ranges [(0x30, 0x39), (0x41, 0x5A), (0x5F, 0x5F), (0x61, 0x7A)])
  | "xdigit" => some (ranges [(0x30, 0x39), (0x41, 0x46), (0x61, 0x66)])
  | _ => none

end CharSet

end RecordQuery
