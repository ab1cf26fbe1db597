import RecordQuery.Text.Blank
import RecordQuery.Text.Percent
import RecordQuery.Value.Basic

/-!
Query strings: names and values joined by `=` and `&`, with plus signs for spaces and other bytes
behind percent signs. Of values with one name the last counts.
-/

namespace RecordQuery

namespace Form

def decodeText (s : String) : String :=
  Utf8.decodeReplacing
    (Percent.decode (s.toUTF8.toList.map fun b => if b = 0x2B then 0x20 else b))

def encodeText (s : String) : String :=
  Utf8.decodeReplacing (Percent.encode s.toUTF8.toList)

/-- A piece without `=` is a name with an empty value. -/
def readPiece (piece : String) : String × String :=
  let (name, value) := (Text.splitOnce? '=' piece).getD (piece, "")
  (decodeText name, decodeText value)

/-- All pairs in their order; empty pieces are none. -/
def pairs (s : String) : List (String × String) :=
  ((Text.split '&' s).filter (· ≠ "")).map readPiece

def read (s : String) : Fields String := Fields.collapse (pairs s)

def write (fields : Fields String) : String :=
  "&".intercalate (fields.map fun (name, value) => encodeText name ++ "=" ++ encodeText value)

end Form

end RecordQuery
