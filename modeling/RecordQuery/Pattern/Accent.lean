import RecordQuery.Pattern.Reader

/-!
Patterns that find a text whatever the accents and the case of its letters.
-/

namespace RecordQuery

namespace Pattern

/-- A base letter with its accented forms. -/
def accentClasses : List (Char × String) :=
  [('a', "aàáâãäåæ"), ('c', "cç"), ('e', "eèéêëẽ"), ('i', "iìíîïĩ"), ('n', "nñ"),
   ('o', "oòóôõöø"), ('u', "uùúûü"), ('s', "sšß"), ('y', "yýÿ"), ('z', "zž")]

/-- The forms of the letter that a character is a form of. -/
def accentForms? (c : Char) : Option String :=
  (accentClasses.find? fun entry => entry.1 = c || entry.2.toList.contains c).map (·.2)

/-- Characters with a meaning of their own in a pattern. -/
def isMeta (c : Char) : Bool :=
  ['\\', '.', '+', '*', '?', '(', ')', '|', '[', ']', '\x7b', '\x7d', '^', '$', '#', '&', '-',
    '~'].contains c

/-- A small letter in a pattern: a set of its forms if it has some, else the letter itself. -/
def accentChar (c : Char) : List Char :=
  match accentForms? c with
  | some forms => '[' :: forms.toList ++ [']']
  | none => if isMeta c then ['\\', c] else [c]

/-- The pattern text for a text to find. It is meant to be read without regard to case. -/
def accentText (s : String) : String :=
  String.ofList ((s.toList.flatMap Letter.lower).flatMap accentChar)

end Pattern

end RecordQuery
