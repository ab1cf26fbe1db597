import RecordQuery.Proofs.Text.Lines
import RecordQuery.Value.Path

/-!
# Texts of paths

A path's text is cut at its dots, so the first segment is what stands before the first dot, and a
name without dots is a path of one segment.
-/

namespace RecordQuery

namespace Path

/-- The path below the first segment. -/
def below (s : String) : Path := (ofText s).tail

theorem ofText_eq (s : String) : ofText s = root s :: below s := by
  obtain ⟨others, h⟩ := Text.head_splitOn (fun c => decide (c = '.')) s.toList
  simp only [below, ofText, Text.split, root, h, List.map_cons, List.tail_cons]
  congr 3
  funext c
  simp

theorem ofText_of_plain {name : String} (h : '.' ∉ name.toList) : ofText name = [name] := by
  have : Text.splitOn (fun c => decide (c = '.')) name.toList = [name.toList] := by
    apply Text.splitOn_of_none
    intro c hc
    have : c ≠ '.' := fun e => h (e ▸ hc)
    simpa using this
  simp [ofText, Text.split, this]

theorem root_of_plain {name : String} (h : '.' ∉ name.toList) : root name = name := by
  have := ofText_eq name
  rw [ofText_of_plain h] at this
  exact (List.cons.inj this).1.symm

theorem root_plain (s : String) : '.' ∉ (root s).toList := by
  intro h
  rw [root, String.toList_ofList] at h
  have := List.all_eq_true.mp List.all_takeWhile '.' h
  simp at this

@[simp]
theorem root_root (s : String) : root (root s) = root s := root_of_plain (root_plain s)

theorem ofText_root (s : String) : ofText (root s) = [root s] := ofText_of_plain (root_plain s)

/-- A path's text begins with its first segment. -/
theorem root_text {segment : String} (plain : '.' ∉ segment.toList) (rest : Path) :
    root (text (segment :: rest)) = segment := by
  have stays : ∀ c ∈ segment.toList, decide (c ≠ '.') = true := by
    intro c hc
    simpa using fun he : c = '.' => plain (he ▸ hc)
  cases rest with
  | nil => simpa [text] using root_of_plain plain
  | cons next others =>
    rw [root, text, String.toList_intercalate, List.map_cons, List.map_cons,
      List.intercalate_cons_cons, List.append_assoc, List.takeWhile_append_of_pos stays]
    simp

@[simp]
theorem below_root (s : String) : below (root s) = [] := by
  rw [below, ofText_root]
  rfl

end Path

end RecordQuery
