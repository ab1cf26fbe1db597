/-!
Replacing every occurrence of one run of characters by another.
-/

namespace RecordQuery

namespace Text

/-- Replaces from the left, after a number of characters that are already accounted for. -/
def replaceAfter (needle new : List Char) : Nat → List Char → List Char
  | _, [] => []
  | skip + 1, _ :: rest => replaceAfter needle new skip rest
  | 0, c :: rest =>
    if needle.isPrefixOf (c :: rest) then new ++ replaceAfter needle new (needle.length - 1) rest
    else c :: replaceAfter needle new 0 rest

/-- Occurrences of a run that is not empty, none of them overlapping. -/
def replace (needle new s : String) : String :=
  String.ofList (replaceAfter needle.toList new.toList 0 s.toList)

end Text

end RecordQuery
