import RecordQuery.Pattern.CharSet

/-!
Text patterns and where they match. A match runs from one spot of a text to another; searching asks
for a match from any spot.
-/

namespace RecordQuery

/-- A condition on a spot between two characters. -/
inductive Anchor
  | textStart
  | textEnd
  | lineStart
  | lineEnd
  | wordEdge
  | notWordEdge
  | wordStart
  | wordEnd
  /-- No word character before. -/
  | wordStartHalf
  /-- No word character after. -/
  | wordEndHalf
  deriving DecidableEq, Repr

/-- A spot in a text: the characters before it in reverse, and those after it. -/
structure Spot where
  before : List Char
  after : List Char
  deriving DecidableEq, Repr

namespace Anchor

def isWordHead : List Char → Bool
  | [] => false
  | c :: _ => Letter.isWord c

def isBreak : List Char → Bool
  | [] => true
  | c :: _ => c = '\n'

def holds : Anchor → Spot → Bool
  | textStart, s => s.before.isEmpty
  | textEnd, s => s.after.isEmpty
  | lineStart, s => isBreak s.before
  | lineEnd, s => isBreak s.after
  | wordEdge, s => isWordHead s.before != isWordHead s.after
  | notWordEdge, s => isWordHead s.before == isWordHead s.after
  | wordStart, s => !isWordHead s.before && isWordHead s.after
  | wordEnd, s => isWordHead s.before && !isWordHead s.after
  | wordStartHalf, s => !isWordHead s.before
  | wordEndHalf, s => !isWordHead s.after

end Anchor

inductive Pattern
  | empty
  | one (set : CharSet) (caseless : Bool)
  | anchor (a : Anchor)
  | seq (first second : Pattern)
  | either (first second : Pattern)
  | repeated (body : Pattern) (min : Nat) (max : Option Nat)
  deriving DecidableEq, Repr

namespace Pattern

/-- Each spot once; spots of one text differ by what is left after them. -/
def distinct : List Spot → List Spot
  | [] => []
  | s :: rest => s :: (distinct rest).filter fun t => t.after.length != s.after.length

/-- The spots after exactly `n` steps. -/
def exactly (step : Spot → List Spot) : Nat → List Spot → List Spot
  | 0, spots => spots
  | n + 1, spots => exactly step n (distinct (spots.flatMap step))

/-- The spots after at most `n` steps. -/
def atMost (step : Spot → List Spot) : Nat → List Spot → List Spot
  | 0, spots => spots
  | n + 1, spots => spots ++ atMost step n (distinct (spots.flatMap step))

/-- The spots at which a match from a spot may end. Beyond as many repetitions as characters are
left, none reaches a new spot. -/
def ends : Pattern → Spot → List Spot
  | empty, s => [s]
  | one set caseless, s =>
    match s.after with
    | [] => []
    | c :: rest => if set.mem caseless c then [⟨c :: s.before, rest⟩] else []
  | anchor a, s => if a.holds s then [s] else []
  | seq p q, s => (ends p s).flatMap fun t => ends q t
  | either p q, s => distinct (ends p s ++ ends q s)
  | repeated p min max, s =>
    let more := match max with
      | some m => Nat.min (m - min) s.after.length
      | none => s.after.length
    distinct (atMost (fun t => ends p t) more (exactly (fun t => ends p t) min [s]))

/-- Whether the pattern matches from some spot at or after the given one. -/
def searchFrom (p : Pattern) (before : List Char) : List Char → Bool
  | [] => !(ends p ⟨before, []⟩).isEmpty
  | c :: rest => !(ends p ⟨before, c :: rest⟩).isEmpty || searchFrom p (c :: before) rest

def search (p : Pattern) (s : String) : Bool := searchFrom p [] s.toList

end Pattern

end RecordQuery
