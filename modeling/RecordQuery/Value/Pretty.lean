import RecordQuery.Value.Printer

/-!
Text of a value over several lines: one entry a line, two spaces deeper than what holds it. Empty
lists and records stay on one line.
-/

namespace RecordQuery

namespace Value

def newline (depth : Nat) : String := String.ofList ('\n' :: List.replicate (2 * depth) ' ')

mutual
def pretty (depth : Nat) : Value → String
  | arr [] => "[]"
  | obj [] => "\x7b\x7d"
  | arr (v :: rest) => "[" ++ prettyList (depth + 1) (v :: rest) ++ newline depth ++ "]"
  | obj (entry :: rest) =>
    "\x7b" ++ prettyFields (depth + 1) (entry :: rest) ++ newline depth ++ "\x7d"
  | v => text v

def prettyList (depth : Nat) : List Value → String
  | [] => ""
  | [v] => newline depth ++ pretty depth v
  | v :: rest => newline depth ++ pretty depth v ++ "," ++ prettyList depth rest

def prettyFields (depth : Nat) : List (String × Value) → String
  | [] => ""
  | [(name, v)] => newline depth ++ quote name ++ ": " ++ pretty depth v
  | (name, v) :: rest =>
    newline depth ++ quote name ++ ": " ++ pretty depth v ++ "," ++ prettyFields depth rest
end

end Value

end RecordQuery
