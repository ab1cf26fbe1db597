import RecordQuery.Pattern.CharSet

/-!
Sets written in brackets: characters, ranges, named and nested sets, joined by `&&`, `--` and `~~`.
They are read one character at a time.
-/

namespace RecordQuery

namespace Pattern

inductive SetOperator
  | inter
  | diff
  | symmDiff
  deriving DecidableEq, Repr

namespace SetOperator

/-- Operators are a character written twice. -/
def ofChar : Char → SetOperator
  | '&' => inter
  | '-' => diff
  | _ => symmDiff

def apply : SetOperator → CharSet → CharSet → CharSet
  | inter => .inter
  | diff => .diff
  | symmDiff => .symmDiff

end SetOperator

/-- What was read last, as far as a dash after it matters. -/
inductive Last
  | none
  /-- It may begin a range. -/
  | char (n : Nat)
  /-- A set of an escaped letter, which must not begin a range. -/
  | set
  deriving DecidableEq, Repr

inductive Progress
  /-- Nothing but the opening bracket and its `^` so far. -/
  | opened
  | dashes
  | body
  deriving DecidableEq, Repr

/-- A bracketed set while it is read. -/
structure Bracket where
  progress : Progress
  negated : Bool
  /-- The items since the last operator, without `last` and `held`. -/
  items : CharSet
  /-- The last operator with what stands before it. -/
  pending : Option (SetOperator × CharSet)
  last : Last
  /-- A dash, ampersand or tilde whose meaning depends on the next character. -/
  held : Option Char
  /-- All that was read, in reverse: the name of a named set looks like a nested set. -/
  written : List Char
  deriving DecidableEq, Repr

namespace Bracket

def new : Bracket := ⟨.opened, false, .ranges [], none, .none, none, []⟩

def put (b : Bracket) (s : CharSet) : Bracket :=
  { b with items := .union b.items s, last := .none, progress := .body }

/-- The last character stands for itself. -/
def flush (b : Bracket) : Bracket :=
  match b.last with
  | .char n => b.put (.single n)
  | _ => { b with last := .none }

def addPlain (b : Bracket) (n : Nat) : Bracket :=
  { b.flush with last := .char n, progress := .body }

/-- The held character stands for itself. -/
def release (b : Bracket) : Bracket :=
  match b.held with
  | some c => { b with held := none }.addPlain c.toNat
  | none => b

def opensRange (b : Bracket) : Bool := b.held = some '-' && b.last ≠ .none

/-- A character; after a dash it ends a range, which must not run backwards. -/
def add? (b : Bracket) (n : Nat) : Option Bracket :=
  if b.opensRange then
    match b.last with
    | .char low =>
      if low ≤ n then some ({ b with held := none }.put (.ranges [(low, n)])) else none
    | _ => none
  else some (b.release.addPlain n)

/-- The set of an escaped letter; it cannot end a range. -/
def addSet? (b : Bracket) (s : CharSet) : Option Bracket :=
  if b.opensRange then none else some { (b.release.flush.put s) with last := .set }

def value (b : Bracket) : CharSet :=
  match b.pending with
  | some (op, left) => op.apply left b.items
  | none => b.items

def operate (b : Bracket) (op : SetOperator) : Bracket :=
  let left := b.flush.value
  { b with
    pending := some (op, left), items := .ranges [], last := .none, held := none,
    progress := .body }

def close (b : Bracket) : CharSet :=
  let s := b.release.flush.value
  if b.negated then .complement s else s

/-- The set that a nested bracket such as `[:alpha:]` or `[:^alpha:]` names. -/
def named? (b : Bracket) : Option CharSet :=
  match b.written with
  | ']' :: ':' :: rest =>
    match rest.reverse with
    | ':' :: '^' :: name => (CharSet.named? (String.ofList name)).map .complement
    | ':' :: name => CharSet.named? (String.ofList name)
    | _ => none
  | _ => none

end Bracket

/-- An innermost open bracket with those around it. -/
abbrev Brackets := Bracket × List Bracket

inductive Bracketing
  | reading (b : Brackets)
  /-- After a backslash. -/
  | escape (b : Brackets)
  | closed (s : CharSet)
  deriving DecidableEq, Repr

namespace Bracket

/-- A bracket that opens or closes, or a character whose meaning the next one decides. -/
def stepFree (b : Bracket) (outer : List Bracket) (c : Char) : Bracketing :=
  if c = '\\' then .escape (b, outer)
  else if c = ']' ∧ b.progress ≠ .opened then
    match outer with
    | [] => .closed b.close
    | around :: others => .reading (around.put (b.named?.getD b.close), others)
  else if c = '^' ∧ b.progress = .opened ∧ !b.negated then
    .reading ({ b with negated := true }, outer)
  else if c = '-' then
    if b.progress = .body then .reading ({ b with held := some '-' }, outer)
    else .reading ({ b.put (.single '-'.toNat) with progress := .dashes }, outer)
  else if c = '[' then .reading (new, b.flush :: outer)
  else if c = '&' ∨ c = '~' then
    .reading ({ b.flush with held := some c, progress := .body }, outer)
  else .reading (b.addPlain c.toNat, outer)

/-- One more character. A dash between two characters makes them a range unless it closes the set
or is written twice. -/
def step? (b : Bracket) (outer : List Bracket) (c : Char) : Option Bracketing :=
  let seen := { b with written := c :: b.written }
  match b.held with
  | none => some (seen.stepFree outer c)
  | some h =>
    if c = h then some (.reading (seen.operate (.ofChar h), outer))
    else if b.opensRange ∧ c ≠ ']' then
      if c = '\\' then some (.escape (seen, outer))
      else (seen.add? c.toNat).map fun b' => .reading (b', outer)
    else some (seen.release.stepFree outer c)

end Bracket

end Pattern

end RecordQuery
