import RecordQuery.Text.CaseTable

/-!
Small letters, and the letter a character stands for when case does not count.
-/

namespace RecordQuery

namespace Letter

def capitalRun? (n : Nat) : Option CapitalRun :=
  capitalRuns.find? fun run => run.first ≤ n && n ≤ run.last && (n - run.first) % run.step = 0

/-- The small letter of a capital with exactly one; any other character is its own. -/
def small (c : Char) : Char :=
  if c.toNat < 128 then c.toLower
  else match capitalRun? c.toNat with
    | some run => Char.ofNat ((c.toNat : Int) + run.offset).toNat
    | none => c

/-- The capital I with a dot becomes a small i and the dot above it. -/
def lower (c : Char) : List Char := if c = 'İ' then ['i', '\u0307'] else [small c]

/-- Two characters are the same letter without regard to case iff their letters are equal. -/
def caseless (c : Char) : Char :=
  let s := small c
  if s.toNat < 128 then s
  else match variants.find? fun entry => entry.1 = s.toNat with
    | some (_, n) => Char.ofNat n
    | none => s

def inRanges (ranges : List (Nat × Nat)) (c : Char) : Bool :=
  ranges.any fun range => range.1 ≤ c.toNat && c.toNat ≤ range.2

def isIgnorable (c : Char) : Bool := inRanges ignorableRanges c

def isCased (c : Char) : Bool := inRanges casedRanges c

/-- Whether a letter with case comes next, marks not counted. -/
def beginsWord (cs : List Char) : Bool :=
  match cs.dropWhile isIgnorable with
  | [] => false
  | c :: _ => isCased c

/-- Lower case of a text, given what stands before it in reverse. A capital sigma that ends a word
becomes the final one. -/
def lowerAfter (before : List Char) : List Char → List Char
  | [] => []
  | c :: rest =>
    let here :=
      if c = 'Σ' then [if beginsWord before && !beginsWord rest then 'ς' else 'σ'] else lower c
    here ++ lowerAfter (c :: before) rest

end Letter

namespace Text

def lower (s : String) : String := String.ofList (Letter.lowerAfter [] s.toList)

end Text

end RecordQuery
