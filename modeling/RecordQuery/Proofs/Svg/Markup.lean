import RecordQuery.Proofs.Text.Lines
import RecordQuery.Svg.Basic

/-!
# The ends of markup

The markup of an element stands between angle brackets, and begins with the element's name.
-/

namespace RecordQuery

namespace Svg

variable (name : String) (attributes : List (String × String)) (children : List Svg)

/-- Between the name and the last bracket stands whatever the element holds. -/
theorem toList_markup_element : ∃ middle : List Char,
    (element name attributes children).markup.toList = '<' :: (name.toList ++ middle ++ ['>']) := by
  cases children with
  | nil =>
    refine ⟨(String.join (attributes.map attributeMarkup)).toList ++ ['/'], ?_⟩
    simp [markup, openingMarkup]
  | cons child rest =>
    refine ⟨(String.join (attributes.map attributeMarkup) ++ ">" ++ markupAll (child :: rest)
      ++ "</" ++ name).toList, ?_⟩
    simp [markup, openingMarkup]

theorem trimmed_markup : Text.Trimmed (element name attributes children).markup.toList := by
  obtain ⟨middle, shape⟩ := toList_markup_element name attributes children
  rw [shape]
  exact ⟨⟨'<', _, rfl, by decide⟩, ⟨'<' :: (name.toList ++ middle), '>', by simp, by decide⟩⟩

theorem prefix_markup :
    '<' :: name.toList <+: (element name attributes children).markup.toList := by
  obtain ⟨middle, shape⟩ := toList_markup_element name attributes children
  exact ⟨middle ++ ['>'], by simp [shape]⟩

/-- What holds something ends with a closing tag of its name. -/
theorem suffix_markup (child : Svg) (rest : List Svg) :
    ("</" ++ name ++ ">").toList <:+ (element name attributes (child :: rest)).markup.toList := by
  refine ⟨(openingMarkup name attributes ++ ">" ++ markupAll (child :: rest)).toList, ?_⟩
  simp [markup]

end Svg

end RecordQuery
