import RecordQuery.Svg.Basic

/-!
# Texts inside markup

A text is written without the brackets and quotes that markup is made of, and what is written can be
undone. So all brackets and quotes of a drawing's markup are those of the same drawing without its
texts and values.
-/

namespace RecordQuery

namespace Svg

/-- Brackets and quotes. -/
def isReserved (c : Char) : Bool := ['<', '>', '"', '\''].contains c

theorem isReserved_of_mem_entity {c d : Char} (h : d ∈ entity c) : isReserved d = false := by
  have written : ∀ word : String, (word.toList.all fun d => !isReserved d) = true →
      d ∈ word.toList → isReserved d = false := by
    intro word all hd
    simpa using List.all_eq_true.mp all d hd
  unfold entity at h
  split at h
  · exact written "&amp;" (by decide) h
  · exact written "&lt;" (by decide) h
  · exact written "&gt;" (by decide) h
  · exact written "&quot;" (by decide) h
  · exact written "&#39;" (by decide) h
  · obtain rfl := List.mem_singleton.mp h
    simp_all [isReserved]

theorem isReserved_of_mem_escape {s : String} {c : Char} (h : c ∈ (escape s).toList) :
    isReserved c = false := by
  rw [escape, String.toList_ofList, List.mem_flatMap] at h
  obtain ⟨d, _, hc⟩ := h
  exact isReserved_of_mem_entity hc

/-! Undoing entities. -/

/-- The character of an entity. -/
def named? (name : String) : Option Char :=
  match name with
  | "amp" => some '&'
  | "lt" => some '<'
  | "gt" => some '>'
  | "quot" => some '"'
  | "#39" => some '\''
  | _ => none

/-- A text that is being read. -/
structure Content where
  chars : List Char
  /-- What has been read of an entity. -/
  entity : Option (List Char)

namespace Content

def empty : Content := ⟨[], none⟩

/-- An entity stands between its sign and a semicolon, and there are five of them. -/
def push (t : Content) (c : Char) : Option Content :=
  match t.entity with
  | none =>
    if c = '&' then some { t with entity := some [] } else some { t with chars := t.chars ++ [c] }
  | some name =>
    if c = ';' then (named? (String.ofList name)).map fun d => ⟨t.chars ++ [d], none⟩
    else some { t with entity := some (name ++ [c]) }

/-- The text, unless it ends inside an entity. -/
def finish? (t : Content) : Option String :=
  if t.entity.isNone then some (String.ofList t.chars) else none

theorem push_entity (chars : List Char) (c : Char) :
    (Svg.entity c).foldlM push ⟨chars, none⟩ = some ⟨chars ++ [c], none⟩ := by
  unfold Svg.entity
  split
  · rfl
  · rfl
  · rfl
  · rfl
  · rfl
  · have : c ≠ '&' := by assumption
    simp [push, this]

theorem push_escape (s : String) :
    (escape s).toList.foldlM push empty = some ⟨s.toList, none⟩ := by
  have entities : ∀ (cs chars : List Char),
      (cs.flatMap Svg.entity).foldlM push ⟨chars, none⟩ = some ⟨chars ++ cs, none⟩ := by
    intro cs
    induction cs with
    | nil => simp
    | cons c rest ih =>
      intro chars
      rw [List.flatMap_cons, List.foldlM_append, push_entity]
      simp [ih]
  rw [escape, String.toList_ofList]
  exact entities s.toList []

end Content

/-! Brackets and quotes. -/

mutual
/-- The same drawing without its texts and values. -/
def blank : Svg → Svg
  | text _ => text ""
  | element name attributes children =>
    element name (attributes.map fun entry => (entry.1, "")) (blankAll children)

def blankAll : List Svg → List Svg
  | [] => []
  | child :: rest => blank child :: blankAll rest
end

def reserved (s : String) : List Char := s.toList.filter isReserved

theorem reserved_append (s t : String) : reserved (s ++ t) = reserved s ++ reserved t := by
  simp [reserved]

theorem reserved_escape (s : String) : reserved (escape s) = [] := by
  rw [reserved, List.filter_eq_nil_iff]
  intro c hc
  simp [isReserved_of_mem_escape hc]

theorem reserved_openingMarkup (name : String) (attributes : List (String × String)) :
    reserved (openingMarkup name attributes)
      = reserved (openingMarkup name (attributes.map fun entry => (entry.1, ""))) := by
  rw [openingMarkup, openingMarkup, reserved_append, reserved_append _ (String.join _)]
  congr 1
  induction attributes with
  | nil => rfl
  | cons entry rest ih =>
    simp only [List.map_cons, String.join_cons, reserved_append, attributeMarkup, reserved_escape,
      ih]

theorem isEmpty_blankAll (children : List Svg) :
    (blankAll children).isEmpty = children.isEmpty := by
  cases children <;> rfl

mutual
theorem reserved_markup : ∀ t : Svg, reserved t.markup = reserved t.blank.markup
  | text content => by rw [markup, blank, markup, reserved_escape, reserved_escape]
  | element name attributes children => by
    rw [markup, blank, markup, isEmpty_blankAll, reserved_append, reserved_append,
      reserved_openingMarkup]
    split
    · rfl
    · simp only [reserved_append, reserved_markupAll children]

theorem reserved_markupAll : ∀ children : List Svg,
    reserved (markupAll children) = reserved (markupAll (blankAll children))
  | [] => rfl
  | child :: rest => by
    rw [markupAll, blankAll, markupAll, reserved_append, reserved_append, reserved_markup child,
      reserved_markupAll rest]
end

end Svg

end RecordQuery
