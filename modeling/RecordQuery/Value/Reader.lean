import RecordQuery.Value.Basic

/-!
Reading a value from its text. The text is cut into tokens, and a stack of open lists and records
takes them one by one; at most 127 may be open at once. Repeated names are kept, so that a reader
of settled structure can refuse them.
-/

namespace RecordQuery

namespace Value

inductive Token
  | openList
  | closeList
  | openRecord
  | closeRecord
  | comma
  | colon
  | word (cs : List Char)
  | text (s : String)

/-- Where the lexer stands. The characters gathered so far are in reverse. -/
inductive Lexing
  | between
  | word (done : List Char)
  | text (done : List Char)
  | escape (done : List Char)
  /-- After `\u`, with the digits read, their value, and the upper half of a pair. -/
  | code (done : List Char) (count value : Nat) (upper : Option Nat)
  /-- After the upper half of a pair, before the `\` of the lower one. -/
  | lower (done : List Char) (upper : Nat)
  | lowerCode (done : List Char) (upper : Nat)

def isBlank (c : Char) : Bool := c = ' ' || c = '\n' || c = '\t' || c = '\r'

def isWordChar (c : Char) : Bool := c.isAlphanum || c = '-' || c = '+' || c = '.'

def hexValue? (c : Char) : Option Nat :=
  if c.isDigit then some (c.toNat - 48)
  else if 'a' ≤ c ∧ c ≤ 'f' then some (c.toNat - 87)
  else if 'A' ≤ c ∧ c ≤ 'F' then some (c.toNat - 55)
  else none

/-- A character between tokens. -/
def lexBetween (tokens : List Token) (c : Char) : Option (List Token × Lexing) :=
  if isBlank c then some (tokens, .between)
  else if isWordChar c then some (tokens, .word [c])
  else match c with
    | '"' => some (tokens, .text [])
    | '[' => some (.openList :: tokens, .between)
    | ']' => some (.closeList :: tokens, .between)
    | '\x7b' => some (.openRecord :: tokens, .between)
    | '\x7d' => some (.closeRecord :: tokens, .between)
    | ',' => some (.comma :: tokens, .between)
    | ':' => some (.colon :: tokens, .between)
    | _ => none

def unescape? (c : Char) : Option Char :=
  match c with
  | '"' => some '"'
  | '\\' => some '\\'
  | '/' => some '/'
  | 'b' => some '\x08'
  | 'f' => some '\x0c'
  | 'n' => some '\n'
  | 'r' => some '\r'
  | 't' => some '\t'
  | _ => none

/-- The state after all four digits of a `\u` escape. Halves of a pair do not stand alone. -/
def endCode (done : List Char) (value : Nat) (upper : Option Nat) : Option Lexing :=
  match upper with
  | none =>
    if 0xD800 ≤ value ∧ value < 0xDC00 then some (.lower done value)
    else if 0xDC00 ≤ value ∧ value < 0xE000 then none
    else some (.text (Char.ofNat value :: done))
  | some high =>
    if 0xDC00 ≤ value ∧ value < 0xE000 then
      some (.text (Char.ofNat (0x10000 + (high - 0xD800) * 1024 + (value - 0xDC00)) :: done))
    else none

def lexStep (state : List Token × Lexing) (c : Char) : Option (List Token × Lexing) :=
  match state with
  | (tokens, .between) => lexBetween tokens c
  | (tokens, .word done) =>
    if isWordChar c then some (tokens, .word (c :: done))
    else lexBetween (.word done.reverse :: tokens) c
  | (tokens, .text done) =>
    if c = '"' then some (.text (String.ofList done.reverse) :: tokens, .between)
    else if c = '\\' then some (tokens, .escape done)
    else if c.toNat < 32 then none
    else some (tokens, .text (c :: done))
  | (tokens, .escape done) =>
    if c = 'u' then some (tokens, .code done 0 0 none)
    else (unescape? c).map fun d => (tokens, .text (d :: done))
  | (tokens, .code done count value upper) => do
    let digit ← hexValue? c
    let value' := 16 * value + digit
    if count = 3 then return (tokens, ← endCode done value' upper)
    else return (tokens, .code done (count + 1) value' upper)
  | (tokens, .lower done upper) => if c = '\\' then some (tokens, .lowerCode done upper) else none
  | (tokens, .lowerCode done upper) =>
    if c = 'u' then some (tokens, .code done 0 0 (some upper)) else none

def tokens? (cs : List Char) : Option (List Token) := do
  match ← cs.foldlM lexStep ([], .between) with
  | (tokens, .between) => return tokens.reverse
  | (tokens, .word done) => return (.word done.reverse :: tokens).reverse
  | _ => none

/-- An open list or record, its entries in reverse. -/
inductive Frame
  | list (done : List Value)
  | record (done : List (String × Value))
  /-- A record whose next entry has its name but not its value. -/
  | entry (done : List (String × Value)) (name : String)

inductive Reading
  /-- A value has to come; right after `[` the list may also end. -/
  | value (frames : List Frame) (mayClose : Bool)
  /-- A name has to come; right after the opening brace the record may also end. -/
  | name (frames : List Frame) (done : List (String × Value)) (mayClose : Bool)
  | colon (frames : List Frame) (done : List (String × Value)) (name : String)
  /-- A comma or the end of the innermost frame has to come. -/
  | more (frames : List Frame)
  | finished (v : Value)

/-- Hands a complete value to the innermost frame. -/
def complete (v : Value) : List Frame → Reading
  | [] => .finished v
  | .list done :: rest => .more (.list (v :: done) :: rest)
  | .record done :: rest => .more (.record done :: rest)
  | .entry done name :: rest => .more (.record ((name, v) :: done) :: rest)

def ofWord? (cs : List Char) : Option Value :=
  if cs = ['n', 'u', 'l', 'l'] then some null
  else if cs = ['t', 'r', 'u', 'e'] then some (bool true)
  else if cs = ['f', 'a', 'l', 's', 'e'] then some (bool false)
  else (Number.read? cs).map num

/-- Lists and records that may be open at once. -/
def maxDepth : Nat := 127

def readStep (state : Reading) (token : Token) : Option Reading :=
  match state, token with
  | .value frames _, .word cs => (ofWord? cs).map fun v => complete v frames
  | .value frames _, .text s => some (complete (str s) frames)
  | .value frames _, .openList =>
    if frames.length < maxDepth then some (.value (.list [] :: frames) true) else none
  | .value frames _, .openRecord =>
    if frames.length < maxDepth then some (.name frames [] true) else none
  | .value (.list _ :: rest) true, .closeList => some (complete (arr []) rest)
  | .name frames done _, .text s => some (.colon frames done s)
  | .name frames done true, .closeRecord => some (complete (obj done.reverse) frames)
  | .colon frames done name, .colon => some (.value (.entry done name :: frames) false)
  | .more (.list done :: rest), .comma => some (.value (.list done :: rest) false)
  | .more (.list done :: rest), .closeList => some (complete (arr done.reverse) rest)
  | .more (.record done :: rest), .comma => some (.name rest done false)
  | .more (.record done :: rest), .closeRecord => some (complete (obj done.reverse) rest)
  | _, _ => none

/-- The value of a text with repeated names as they stand. -/
def readVerbatim? (s : String) : Option Value := do
  let tokens ← tokens? s.toList
  match ← tokens.foldlM readStep (.value [] false) with
  | .finished v => return v
  | _ => none

/-- The value of a text. -/
def read? (s : String) : Option Value := (readVerbatim? s).map collapse

end Value

end RecordQuery
