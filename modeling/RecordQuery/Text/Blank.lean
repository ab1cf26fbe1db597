/-!
Blank characters, the words between them, and texts without the blanks around them.
-/

namespace RecordQuery

namespace Text

/-- The white space of all scripts. -/
def isBlank (c : Char) : Bool :=
  let n := c.toNat
  (9 ≤ n && n ≤ 13) || n = 0x20 || n = 0x85 || n = 0xA0 || n = 0x1680
    || (0x2000 ≤ n && n ≤ 0x200A) || n = 0x2028 || n = 0x2029 || n = 0x202F || n = 0x205F
    || n = 0x3000

def trimChars (cs : List Char) : List Char :=
  ((cs.dropWhile isBlank).reverse.dropWhile isBlank).reverse

def trim (s : String) : String := String.ofList (trimChars s.toList)

/-- Runs of characters between separators, empty ones left out. -/
def runs (separates : Char → Bool) : List Char → List (List Char)
  | [] => []
  | c :: rest =>
    if separates c then runs separates rest
    else match rest with
      | [] => [[c]]
      | d :: _ =>
        if separates d then [c] :: runs separates rest
        else match runs separates rest with
          | [] => [[c]]
          | run :: others => (c :: run) :: others

def words (s : String) : List String := (runs isBlank s.toList).map String.ofList

/-- Whether one run of characters occurs in another. -/
def occurs (needle : List Char) : List Char → Bool
  | [] => needle.isEmpty
  | c :: rest => needle.isPrefixOf (c :: rest) || occurs needle rest

/-- Pieces between single separators; what has none is a single piece. -/
def splitOn {α : Type} (separates : α → Bool) : List α → List (List α)
  | [] => [[]]
  | c :: rest =>
    if separates c then [] :: splitOn separates rest
    else match splitOn separates rest with
      | [] => [[c]]
      | piece :: others => (c :: piece) :: others

def split (c : Char) (s : String) : List String :=
  (splitOn (· = c) s.toList).map String.ofList

/-- The text before and after the first occurrence of a character. -/
def splitOnce? (c : Char) (s : String) : Option (String × String) :=
  let cs := s.toList
  match cs.dropWhile (· ≠ c) with
  | [] => none
  | _ :: rest => some (String.ofList (cs.takeWhile (· ≠ c)), String.ofList rest)

/-- What follows a given beginning. -/
def after? (start s : String) : Option String :=
  if start.toList.isPrefixOf s.toList then some (String.ofList (s.toList.drop start.toList.length))
  else none

end Text

end RecordQuery
