/-!
Sets of names as ascending lists without repetition.
-/

namespace RecordQuery

abbrev NameSet := List String

namespace NameSet

def insert (name : String) : NameSet → NameSet
  | [] => [name]
  | other :: rest =>
    if name = other then other :: rest
    else if name < other then name :: other :: rest
    else other :: insert name rest

def ofList (names : List String) : NameSet := names.foldl (fun set name => insert name set) []

def union (a b : NameSet) : NameSet := b.foldl (fun set name => insert name set) a

end NameSet

end RecordQuery
