import RecordQuery.Value.Basic

/-!
Compact text of a value: no spaces, names in the order of the record, and only what a quoted text
cannot hold is escaped.
-/

namespace RecordQuery

namespace Value

def hexDigit (n : Nat) : Char := if n < 10 then Char.ofNat (48 + n) else Char.ofNat (87 + n)

/-- A character inside quotes. -/
def escapeChar (c : Char) : List Char :=
  match c with
  | '"' => ['\\', '"']
  | '\\' => ['\\', '\\']
  | '\n' => ['\\', 'n']
  | '\r' => ['\\', 'r']
  | '\t' => ['\\', 't']
  | c =>
    if c.toNat = 8 then ['\\', 'b']
    else if c.toNat = 12 then ['\\', 'f']
    else if c.toNat < 32 then
      ['\\', 'u', '0', '0', hexDigit (c.toNat / 16), hexDigit (c.toNat % 16)]
    else [c]

def quote (s : String) : String :=
  String.ofList ('"' :: s.toList.flatMap escapeChar ++ ['"'])

mutual
def text : Value → String
  | null => "null"
  | bool true => "true"
  | bool false => "false"
  | num n => n.text
  | str s => quote s
  | arr items => "[" ++ textList items ++ "]"
  | obj fields => "\x7b" ++ textFields fields ++ "\x7d"

def textList : List Value → String
  | [] => ""
  | [v] => text v
  | v :: rest => text v ++ "," ++ textList rest

def textFields : List (String × Value) → String
  | [] => ""
  | [(name, v)] => quote name ++ ":" ++ text v
  | (name, v) :: rest => quote name ++ ":" ++ text v ++ "," ++ textFields rest
end

end Value

end RecordQuery
