import RecordQuery.Number.Word
import RecordQuery.Pattern.Basic
import RecordQuery.Pattern.Bracket
import RecordQuery.Text.Blank

/-!
The tokens of a pattern's text, cut off one character at a time.
-/

namespace RecordQuery

namespace Pattern

inductive Token
  | set (s : CharSet)
  | dot
  | caret
  | dollar
  | anchor (a : Anchor)
  | openGroup (name : List Char) (change : List Char)
  | flags (change : List Char)
  | closeGroup
  | bar
  | repeated (min : Nat) (max : Option Nat)
  deriving DecidableEq, Repr

def literal (c : Char) : Token := .set (.single c.toNat)

/-- Where a character given by an escape ends up. -/
inductive Place
  | plain
  | bracket (b : Brackets)
  deriving DecidableEq, Repr

inductive Lexing
  | plain
  /-- After a repetition, where a `?` changes nothing about whether there is a match. -/
  | quantified
  | escape (place : Place)
  /-- After `\x`, `\u` or `\U`, with the number of digits expected without braces. -/
  | codeStart (place : Place) (count : Nat)
  | code (place : Place) (count value : Nat)
  | bracedCode (place : Place) (digits value : Nat)
  | bracket (b : Brackets)
  | groupStart
  | groupMark
  | groupLetter
  | groupFlags (done : List Char)
  | groupName (done : List Char)
  | braces (done : List Char)
  deriving DecidableEq, Repr

abbrev LexState := List Token × Lexing

/-- The character that an escaped one stands for: a control character, or itself if it is no
letter, digit or angle bracket of ASCII. -/
def escapedChar? (c : Char) : Option Nat :=
  match c with
  | 'n' => some 10
  | 'r' => some 13
  | 't' => some 9
  | 'f' => some 12
  | 'v' => some 11
  | 'a' => some 7
  | c => if c.toNat < 128 ∧ !c.isAlphanum ∧ c ≠ '<' ∧ c ≠ '>' then some c.toNat else none

def escapedAnchor? (c : Char) : Option Anchor :=
  match c with
  | 'A' => some .textStart
  | 'z' => some .textEnd
  | 'b' => some .wordEdge
  | 'B' => some .notWordEdge
  | '<' => some .wordStart
  | '>' => some .wordEnd
  | _ => none

/-- The spots that a name in braces after `\b` stands for. -/
def namedEdge? (name : String) : Option Anchor :=
  match name with
  | "start" => some .wordStart
  | "end" => some .wordEnd
  | "start-half" => some .wordStartHalf
  | "end-half" => some .wordEndHalf
  | _ => none

def codeLength? (c : Char) : Option Nat :=
  match c with
  | 'x' => some 2
  | 'u' => some 4
  | 'U' => some 8
  | _ => none

def hexValue? (c : Char) : Option Nat :=
  if c.isDigit then some (c.toNat - 48)
  else if 'a' ≤ c ∧ c ≤ 'f' then some (c.toNat - 87)
  else if 'A' ≤ c ∧ c ≤ 'F' then some (c.toNat - 55)
  else none

def putChar (tokens : List Token) (place : Place) (n : Nat) : Option LexState :=
  match place with
  | .plain => some (.set (.single n) :: tokens, .plain)
  | .bracket (b, outer) => (b.add? n).map fun b' => (tokens, .bracket (b', outer))

/-- A complete character code. -/
def putCode (tokens : List Token) (place : Place) (n : Nat) : Option LexState :=
  if n < 0xD800 ∨ (0xE000 ≤ n ∧ n ≤ 0x10FFFF) then putChar tokens place n else none

def putSet (tokens : List Token) (place : Place) (s : CharSet) : Option LexState :=
  match place with
  | .plain => some (.set s :: tokens, .plain)
  | .bracket (b, outer) => (b.addSet? s).map fun b' => (tokens, .bracket (b', outer))

def lexEscape (tokens : List Token) (place : Place) (c : Char) : Option LexState :=
  match codeLength? c with
  | some count => some (tokens, .codeStart place count)
  | none =>
    match CharSet.ofEscape? c with
    | some s => putSet tokens place s
    | none =>
      match escapedAnchor? c, place with
      | some a, .plain => some (.anchor a :: tokens, .plain)
      | _, _ => (escapedChar? c).bind (putChar tokens place)

/-- A bound of a repetition, with blanks around it. -/
def bound? (cs : List Char) : Option Nat :=
  let digits := Text.trimChars cs
  if digits ≠ [] ∧ digits.all Char.isDigit then
    let n := digits.foldl (fun n c => 10 * n + (c.toNat - 48)) 0
    if n < Word.bound32 then some n else none
  else none

/-- Bounds of a repetition: `n`, `n,` or `n,m` with `n` at most `m`. -/
def bounds? (cs : List Char) : Option Token := do
  let n ← bound? (cs.takeWhile (· ≠ ','))
  match cs.dropWhile (· ≠ ',') with
  | [] => return .repeated n (some n)
  | [_] => return .repeated n none
  | _ :: high =>
    let m ← bound? high
    if n ≤ m then return .repeated n (some m) else none

/-- What stands in braces: after a word edge perhaps the kind of edge, else bounds. -/
def lexBraces (tokens : List Token) (cs : List Char) : Option LexState :=
  match tokens, cs with
  | .anchor .wordEdge :: rest, c :: _ =>
    if c.isAlpha ∨ c = '-' then
      (namedEdge? (String.ofList cs)).map fun a => (.anchor a :: rest, .plain)
    else (bounds? cs).map fun token => (token :: tokens, .quantified)
  | _, _ => (bounds? cs).map fun token => (token :: tokens, .quantified)

/-- Names of groups begin with a letter or an underscore. -/
def isNameChar (done : List Char) (c : Char) : Bool :=
  c = '_' || (Letter.isWord c && !(done.isEmpty && Letter.isDigit c))
    || (!done.isEmpty && ['.', '[', ']'].contains c)

def lexPlain (tokens : List Token) (c : Char) : Option LexState :=
  match c with
  | '\\' => some (tokens, .escape .plain)
  | '[' => some (tokens, .bracket (.new, []))
  | '.' => some (.dot :: tokens, .plain)
  | '^' => some (.caret :: tokens, .plain)
  | '$' => some (.dollar :: tokens, .plain)
  | '|' => some (.bar :: tokens, .plain)
  | '(' => some (tokens, .groupStart)
  | ')' => some (.closeGroup :: tokens, .plain)
  | '*' => some (.repeated 0 none :: tokens, .quantified)
  | '+' => some (.repeated 1 none :: tokens, .quantified)
  | '?' => some (.repeated 0 (some 1) :: tokens, .quantified)
  | '\x7b' => some (tokens, .braces [])
  | c => some (literal c :: tokens, .plain)

def lexBracket (tokens : List Token) (b : Brackets) (c : Char) : Option LexState :=
  (b.1.step? b.2 c).map fun next =>
    match next with
    | .reading b' => (tokens, .bracket b')
    | .escape b' => (tokens, .escape (.bracket b'))
    | .closed s => (.set s :: tokens, .plain)

def lexStep (state : LexState) (c : Char) : Option LexState :=
  match state with
  | (tokens, .plain) => lexPlain tokens c
  | (tokens, .quantified) => if c = '?' then some (tokens, .plain) else lexPlain tokens c
  | (tokens, .escape place) => lexEscape tokens place c
  | (tokens, .codeStart place count) =>
    if c = '\x7b' then some (tokens, .bracedCode place 0 0)
    else (hexValue? c).map fun digit => (tokens, .code place (count - 1) digit)
  | (tokens, .code place count value) => do
    let value' := 16 * value + (← hexValue? c)
    if count ≤ 1 then putCode tokens place value'
    else return (tokens, .code place (count - 1) value')
  | (tokens, .bracedCode place digits value) =>
    if c = '\x7d' then if digits = 0 then none else putCode tokens place value
    else (hexValue? c).map fun digit =>
      (tokens, .bracedCode place (digits + 1) (16 * value + digit))
  | (tokens, .bracket b) => lexBracket tokens b c
  | (tokens, .groupStart) =>
    if c = '?' then some (tokens, .groupMark) else lexPlain (.openGroup [] [] :: tokens) c
  | (tokens, .groupMark) =>
    if c = 'P' then some (tokens, .groupLetter)
    else if c = '<' then some (tokens, .groupName [])
    else if c = ':' then some (.openGroup [] [] :: tokens, .plain)
    else if c = ')' then none
    else some (tokens, .groupFlags [c])
  | (tokens, .groupLetter) => if c = '<' then some (tokens, .groupName []) else none
  | (tokens, .groupFlags done) =>
    if c = ':' then some (.openGroup [] done.reverse :: tokens, .plain)
    else if c = ')' then some (.flags done.reverse :: tokens, .plain)
    else some (tokens, .groupFlags (c :: done))
  | (tokens, .groupName done) =>
    if isNameChar done c then some (tokens, .groupName (c :: done))
    else if c = '>' ∧ done ≠ [] then some (.openGroup done.reverse [] :: tokens, .plain)
    else none
  | (tokens, .braces done) =>
    if c = '\x7d' then lexBraces tokens done.reverse else some (tokens, .braces (c :: done))

def tokens? (cs : List Char) : Option (List Token) := do
  match ← cs.foldlM lexStep ([], .plain) with
  | (tokens, .plain) | (tokens, .quantified) => return tokens.reverse
  | _ => none

end Pattern

end RecordQuery
