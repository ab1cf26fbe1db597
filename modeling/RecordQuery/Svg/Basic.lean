/-!
Drawings as trees of elements and texts, and their markup. Only the printer writes angle brackets
and quotes, so whatever a text or an attribute holds stays inside it.
-/

namespace RecordQuery

inductive Svg
  | text (content : String)
  | element (name : String) (attributes : List (String × String)) (children : List Svg)
  deriving Inhabited

namespace Svg

/-- The five characters that markup reserves are written as entities. -/
def entity (c : Char) : List Char :=
  match c with
  | '&' => "&amp;".toList
  | '<' => "&lt;".toList
  | '>' => "&gt;".toList
  | '"' => "&quot;".toList
  | '\'' => "&#39;".toList
  | c => [c]

def escape (s : String) : String := String.ofList (s.toList.flatMap entity)

def attributeMarkup (entry : String × String) : String :=
  " " ++ entry.1 ++ "=\"" ++ escape entry.2 ++ "\""

def openingMarkup (name : String) (attributes : List (String × String)) : String :=
  "<" ++ name ++ String.join (attributes.map attributeMarkup)

mutual
/-- An element without children closes itself. -/
def markup : Svg → String
  | text content => escape content
  | element name attributes children =>
    openingMarkup name attributes
      ++ if children.isEmpty then "/>" else ">" ++ markupAll children ++ "</" ++ name ++ ">"

def markupAll : List Svg → String
  | [] => ""
  | child :: rest => markup child ++ markupAll rest
end

/-- An element without children. -/
def leaf (name : String) (attributes : List (String × String)) : Svg := element name attributes []

/-- An element that holds one text. -/
def label (name : String) (attributes : List (String × String)) (content : String) : Svg :=
  element name attributes [text content]

end Svg

end RecordQuery
