import RecordQuery.Pattern.Token

/-!
The notation of patterns. A stack of open groups takes the tokens of a text one by one.
-/

namespace RecordQuery

namespace Pattern

/-- What holds for the tokens that follow. -/
structure Flags where
  caseless : Bool
  /-- `^` and `$` also match at line breaks. -/
  lines : Bool
  /-- `.` also matches a line break. -/
  breaks : Bool
  deriving DecidableEq, Repr

namespace Flags

/-- A flag turned on or off. `U` only says which of several matches to prefer. -/
def set? (on : Bool) (flags : Flags) (c : Char) : Option Flags :=
  match c with
  | 'i' => some { flags with caseless := on }
  | 'm' => some { flags with lines := on }
  | 's' => some { flags with breaks := on }
  | 'U' => some flags
  | _ => none

/-- Flags from a text such as `im-s`: those after the dash are turned off. A flag is named at most
once, and a dash is followed by one. -/
def changed? (change : List Char) (flags : Flags) : Option Flags :=
  let on := change.takeWhile (· ≠ '-')
  let rest := change.dropWhile (· ≠ '-')
  let off := rest.drop 1
  if !(on ++ off).Nodup ∨ (rest ≠ [] ∧ off = []) then none
  else do off.foldlM (set? false) (← on.foldlM (set? true) flags)

end Flags

/-- An open group: its finished alternatives and the parts of the current one, in reverse. A part
that is missing stands for a change of flags, which cannot be repeated. -/
structure Group where
  alternatives : List Pattern
  parts : List (Option Pattern)

structure Parsing where
  flags : Flags
  group : Group
  /-- Enclosing groups with their flags. -/
  outer : List (Flags × Group)
  /-- Names of groups so far. -/
  names : List (List Char)

def seqAll : List Pattern → Pattern
  | [] => empty
  | [p] => p
  | p :: rest => seq p (seqAll rest)

def eitherAll : List Pattern → Pattern
  | [] => empty
  | [p] => p
  | p :: rest => either p (eitherAll rest)

namespace Group

def new : Group := ⟨[], []⟩

def alternative (g : Group) : Pattern := seqAll (g.parts.reverse.filterMap id)

def pattern (g : Group) : Pattern := eitherAll (g.alternative :: g.alternatives).reverse

def push (g : Group) (part : Option Pattern) : Group := { g with parts := part :: g.parts }

/-- The last part, repeated. -/
def repeatLast? (g : Group) (min : Nat) (max : Option Nat) : Option Group :=
  match g.parts with
  | some p :: rest => some { g with parts := some (repeated p min max) :: rest }
  | _ => none

end Group

namespace Parsing

def push (s : Parsing) (p : Pattern) : Parsing := { s with group := s.group.push (some p) }

/-- The name of a group is its own. -/
def enter? (s : Parsing) (name change : List Char) : Option Parsing := do
  let flags ← s.flags.changed? change
  if name ≠ [] ∧ s.names.contains name then none
  else return ⟨flags, .new, (s.flags, s.group) :: s.outer, name :: s.names⟩

def leave? (s : Parsing) : Option Parsing :=
  match s.outer with
  | [] => none
  | (flags, group) :: outer => some (push ⟨flags, group, outer, s.names⟩ s.group.pattern)

def step? (s : Parsing) (token : Token) : Option Parsing :=
  match token with
  | .set set => some (s.push (one set s.flags.caseless))
  | .dot => some (s.push (one (if s.flags.breaks then .all else .complement (.single 10)) false))
  | .caret => some (s.push (anchor (if s.flags.lines then .lineStart else .textStart)))
  | .dollar => some (s.push (anchor (if s.flags.lines then .lineEnd else .textEnd)))
  | .anchor a => some (s.push (anchor a))
  | .openGroup name change => s.enter? name change
  | .flags change => do
    return { s with flags := ← s.flags.changed? change, group := s.group.push none }
  | .closeGroup => s.leave?
  | .bar => some { s with group := ⟨s.group.alternative :: s.group.alternatives, []⟩ }
  | .repeated min max => do return { s with group := ← s.group.repeatLast? min max }

end Parsing

/-- The pattern of a text, if it is well formed. -/
def read? (flags : Flags) (text : String) : Option Pattern := do
  let s ← (← tokens? text.toList).foldlM Parsing.step? ⟨flags, .new, [], []⟩
  if s.outer.isEmpty then return s.group.pattern else none

end Pattern

end RecordQuery
