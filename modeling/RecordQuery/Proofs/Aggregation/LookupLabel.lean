import RecordQuery.Aggregation.Lookup
import RecordQuery.Proofs.Text.Replace

/-!
# Labels of lookups

A label is meant to show the texts of the described fields, the first one before the others. Places
are filled one after the other, so a text is changed if it holds the place of a field that comes
later.
-/

namespace RecordQuery

namespace LookupDisplay

/-- Texts of fields, the first one before the others. -/
def phrase (text : String → String) : List String → String
  | [] => ""
  | [field] => text field
  | field :: rest => text field ++ " (" ++ " - ".intercalate (rest.map text) ++ ")"

theorem phrase_cons_cons (text : String → String) (first second : String) (rest : List String) :
    phrase text (first :: second :: rest)
      = text first ++ " (" ++ " - ".intercalate ((second :: rest).map text) ++ ")" := rfl

theorem patternOf_eq_phrase (fields : List String) :
    patternOf fields = phrase placeholder fields := by
  rcases fields with _ | ⟨first, _ | ⟨second, rest⟩⟩ <;> rfl

/-- The label of a referenced record. -/
def labelOf (d : LookupDisplay) (referenced : Record) : String :=
  (d.keyAndLabel (.obj referenced)).2

/-- The label that shows these texts: the key if no field is shown. -/
def shown (d : LookupDisplay) (referenced : Record) (text : String → String) : String :=
  if d.simpleFields = [] then fieldText referenced d.displayField else phrase text d.simpleFields

/-- Fills the places of some fields, one after the other. -/
def fill (referenced : Record) (fields : List String) (label : String) : String :=
  fields.foldl
    (fun label field => Text.replace (placeholder field) (fieldText referenced field) label) label

theorem fill_cons (referenced : Record) (field : String) (rest : List String) (label : String) :
    fill referenced (field :: rest) label
      = fill referenced rest
          (Text.replace (placeholder field) (fieldText referenced field) label) := rfl

/-- The fields behind the first occurrence of a field. -/
def behind (field : String) : List String → List String
  | [] => []
  | other :: rest => if other = field then rest else behind field rest

/-- The text of a field with the places in it filled that are filled later. -/
def refilled (d : LookupDisplay) (referenced : Record) (field : String) : String :=
  fill referenced (behind field d.simpleFields) (fieldText referenced field)

/-- The name has no character that is set between or around names. -/
def Separate (name : String) : Prop := ∀ c ∈ ['\x7b', '\x7d', ' ', ')'], c ∉ name.toList

theorem toList_placeholder (field : String) :
    (placeholder field).toList = '\x7b' :: (field.toList ++ ['\x7d']) := by
  simp [placeholder]

theorem placeholder_ne_nil (field : String) : (placeholder field).toList ≠ [] := by
  simp [toList_placeholder]

/-- Nothing changes before the first place. -/
theorem replaceAfter_before {before : List Char} (plain : '\x7b' ∉ before) (field : String)
    (new rest : List Char) :
    Text.replaceAfter (placeholder field).toList new 0 (before ++ rest)
      = before ++ Text.replaceAfter (placeholder field).toList new 0 rest := by
  rw [toList_placeholder]
  exact Text.replaceAfter_before new plain _ rest

theorem Separate.space_notMem {field : String} (h : Separate field) :
    ' ' ∉ (placeholder field).toList := by
  simpa [toList_placeholder] using h ' ' (by simp)

theorem Separate.close_notMem {field : String} (h : Separate field) :
    ')' ∉ (placeholder field).toList := by
  simpa [toList_placeholder] using h ')' (by simp)

/-! What one place gives way to. -/

theorem replace_placeholder (field new : String) :
    Text.replace (placeholder field) new (placeholder field) = new := by
  have matched := Text.replaceAfter_match new.toList (placeholder_ne_nil field) []
  rw [List.append_nil] at matched
  rw [Text.replace, matched]
  simp [Text.replaceAfter]

theorem replace_between {field : String} (h : Separate field) (new a b : String)
    {separator : String} {rest : List Char} (shape : separator.toList = ' ' :: rest)
    (plain : '\x7b' ∉ rest) :
    Text.replace (placeholder field) new (a ++ separator ++ b)
      = Text.replace (placeholder field) new a ++ separator
        ++ Text.replace (placeholder field) new b := by
  have cut := Text.replaceAfter_append_cons new.toList (placeholder_ne_nil field) h.space_notMem
    a.toList (rest ++ b.toList) (Nat.zero_le _)
  rw [replaceAfter_before plain] at cut
  apply String.toList_inj.mp
  simp [Text.replace, shape, cut]

theorem replace_closed {field : String} (h : Separate field) (new a : String) :
    Text.replace (placeholder field) new (a ++ ")")
      = Text.replace (placeholder field) new a ++ ")" := by
  have cut := Text.replaceAfter_append_cons new.toList (placeholder_ne_nil field) h.close_notMem
    a.toList [] (Nat.zero_le _)
  apply String.toList_inj.mp
  simp [Text.replace, cut, Text.replaceAfter]

theorem replace_intercalate {field : String} (h : Separate field) (new : String)
    (texts : List String) :
    Text.replace (placeholder field) new (" - ".intercalate texts)
      = " - ".intercalate (texts.map (Text.replace (placeholder field) new)) := by
  induction texts with
  | nil => rfl
  | cons text rest ih =>
    cases rest with
    | nil => simp
    | cons next rest =>
      rw [List.map_cons] at ih
      rw [String.intercalate_cons_cons, replace_between h new text _ rfl (by decide), ih,
        List.map_cons, List.map_cons, String.intercalate_cons_cons]

/-- A place is filled in each text by itself. -/
theorem replace_phrase {field : String} (h : Separate field) (new : String) (text : String → String)
    (fields : List String) :
    Text.replace (placeholder field) new (phrase text fields)
      = phrase (fun other => Text.replace (placeholder field) new (text other)) fields := by
  rcases fields with _ | ⟨first, _ | ⟨second, rest⟩⟩
  · rfl
  · rfl
  · rw [phrase_cons_cons, replace_closed h, replace_between h new _ _ rfl (by decide),
      replace_intercalate h, List.map_map]
    rfl

theorem fill_phrase (referenced : Record) {names : List String} (h : ∀ name ∈ names, Separate name)
    (text : String → String) (fields : List String) :
    fill referenced names (phrase text fields)
      = phrase (fun field => fill referenced names (text field)) fields := by
  induction names generalizing text with
  | nil => rfl
  | cons name rest ih =>
    rw [fill_cons, replace_phrase (h name List.mem_cons_self)]
    exact ih (fun name hname => h name (List.mem_cons_of_mem _ hname)) _

/-- No place of one field is within that of another. -/
theorem eq_of_placeholder_within {field other : String} (separate : Separate other)
    (h : (placeholder field).toList <:+: (placeholder other).toList) : field = other := by
  rw [toList_placeholder, toList_placeholder] at h
  rcases List.infix_cons_iff.mp h with ⟨more, starts⟩ | inside
  · rw [List.cons_append, List.append_assoc] at starts
    have same := (List.append_cons_inj_of_notMem (separate '\x7d' (by simp)) List.not_mem_nil).mp
      (List.cons.inj starts).2.symm
    exact String.toList_inj.mp same.1.symm
  · have opened := inside.subset List.mem_cons_self
    exact absurd (by simpa using opened) (separate '\x7b' (by simp))

theorem replace_of_absent {field text : String} (new : String)
    (h : ¬ (placeholder field).toList <:+: text.toList) :
    Text.replace (placeholder field) new text = text := by
  rw [Text.replace, Text.replaceAfter_of_absent _ h, String.ofList_toList]

/-- A place holds what its field's text has become in the end. -/
theorem fill_placeholder (referenced : Record) {names : List String}
    (h : ∀ name ∈ names, Separate name) {field : String} (member : field ∈ names) :
    fill referenced names (placeholder field)
      = fill referenced (behind field names) (fieldText referenced field) := by
  induction names with
  | nil => cases member
  | cons name rest ih =>
    rw [fill_cons, behind]
    by_cases same : name = field
    · rw [if_pos same, same, replace_placeholder]
    · have later : field ∈ rest := (List.mem_cons.mp member).resolve_left (Ne.symm same)
      have apart : ¬ (placeholder name).toList <:+: (placeholder field).toList := fun inside =>
        same (eq_of_placeholder_within (h field member) inside)
      rw [if_neg same, replace_of_absent _ apart]
      exact ih (fun name hname => h name (List.mem_cons_of_mem _ hname)) later

theorem fill_of_absent (referenced : Record) {names : List String} {text : String}
    (h : ∀ name ∈ names, ¬ (placeholder name).toList <:+: text.toList) :
    fill referenced names text = text := by
  induction names with
  | nil => rfl
  | cons name rest ih =>
    rw [fill_cons, replace_of_absent _ (h name List.mem_cons_self)]
    exact ih fun name hname => h name (List.mem_cons_of_mem _ hname)

theorem phrase_congr {text other : String → String} {fields : List String}
    (h : ∀ field ∈ fields, text field = other field) :
    phrase text fields = phrase other fields := by
  rcases fields with _ | ⟨first, _ | ⟨second, rest⟩⟩
  · rfl
  · exact h first List.mem_cons_self
  · rw [phrase_cons_cons, phrase_cons_cons, h first List.mem_cons_self,
      List.map_congr_left fun field hfield => h field (List.mem_cons_of_mem _ hfield)]

theorem shown_congr {d : LookupDisplay} {referenced : Record} {text other : String → String}
    (h : ∀ field ∈ d.simpleFields, text field = other field) :
    d.shown referenced text = d.shown referenced other := by
  rw [shown, shown, phrase_congr h]

/-! Labels of the displays that fields have. -/

theorem pattern_of_ofField? {f : Field} {d : LookupDisplay} (h : ofField? f = some d) :
    d.pattern = phrase placeholder d.simpleFields := by
  rw [ofField?] at h
  split at h
  · obtain ⟨document, _, rfl⟩ := Option.map_eq_some_iff.mp h
    exact patternOf_eq_phrase _
  · cases h

theorem phrase_placeholder_eq_empty_iff {fields : List String} :
    phrase placeholder fields = "" ↔ fields = [] := by
  rcases fields with _ | ⟨first, _ | ⟨second, rest⟩⟩ <;>
    simp [phrase, placeholder, ← String.toList_inj]

theorem label_eq_fill {d : LookupDisplay} (h : d.pattern = phrase placeholder d.simpleFields)
    (referenced : Record) :
    d.labelOf referenced
      = if d.simpleFields = [] then fieldText referenced d.displayField
        else fill referenced d.simpleFields (phrase placeholder d.simpleFields) := by
  simp only [labelOf, keyAndLabel, h, phrase_placeholder_eq_empty_iff, fillPattern]
  rfl

/-- Each text of a label has the places in it filled that are filled later. -/
theorem label_eq_refilled {d : LookupDisplay} (h : d.pattern = phrase placeholder d.simpleFields)
    (separate : ∀ name ∈ d.simpleFields, Separate name) (referenced : Record) :
    d.labelOf referenced = d.shown referenced (d.refilled referenced) := by
  rw [label_eq_fill h, fill_phrase referenced separate, shown]
  congr 1
  exact phrase_congr fun field member => fill_placeholder referenced separate member

theorem label_eq_shown {d : LookupDisplay} (h : d.pattern = phrase placeholder d.simpleFields)
    (single : d.simpleFields.length ≤ 1) (referenced : Record) :
    d.labelOf referenced = d.shown referenced (fieldText referenced) := by
  rw [label_eq_fill h, shown]
  generalize d.simpleFields = fields at single
  rcases fields with _ | ⟨first, _ | ⟨second, rest⟩⟩
  · rfl
  · exact replace_placeholder first _
  · simp at single

/-! With a second field, the text of the first can hold the place of the second. -/

/-- A record whose text for one field is an `x` and the place of another. -/
def quoting (first second : String) : Record := [(first, .str ("x" ++ placeholder second))]

theorem fieldText_quoting (first second field : String) :
    fieldText (quoting first second) field
      = if first = field then "x" ++ placeholder second else "" := by
  by_cases same : first = field <;> simp [fieldText, quoting, Fields.get?, Value.caption, same]

/-- A place that is the first gives way to its text, and the blank behind it stays. -/
theorem toList_replace_first {field label : String} {before rest : List Char}
    (plain : '\x7b' ∉ before) (new : String)
    (shape : label.toList = before ++ ((placeholder field).toList ++ ' ' :: rest)) :
    ∃ more, (Text.replace (placeholder field) new label).toList
      = before ++ (new.toList ++ ' ' :: more) := by
  have blank := replaceAfter_before (show '\x7b' ∉ [' '] by decide) field new.toList rest
  rw [List.singleton_append] at blank
  rw [Text.replace, String.toList_ofList, shape, replaceAfter_before plain,
    Text.replaceAfter_match _ (placeholder_ne_nil field), blank]
  exact ⟨_, rfl⟩

/-- Filling keeps what stands before the first place. -/
theorem prefix_fill (referenced : Record) (names : List String) {label : String}
    {before : List Char} (plain : '\x7b' ∉ before) (starts : before <+: label.toList) :
    before <+: (fill referenced names label).toList := by
  induction names generalizing label with
  | nil => exact starts
  | cons name rest ih =>
    obtain ⟨more, shape⟩ := starts
    rw [fill_cons]
    refine ih ?_
    rw [Text.replace, String.toList_ofList, ← shape, replaceAfter_before plain]
    exact List.prefix_append _ _

/-- In the label the `x` is followed by the second text or by the blank behind it, and not by the
place that follows it in the first text. -/
theorem label_quoting (first second : String) (rest : List String) :
    ∃ c ≠ '\x7b', ['x', c] <+: (fill (quoting first second) (first :: second :: rest)
      (phrase placeholder (first :: second :: rest))).toList := by
  have firstText : fieldText (quoting first second) first = "x" ++ placeholder second := by
    rw [fieldText_quoting, if_pos rfl]
  obtain ⟨others, shape⟩ : ∃ others, (phrase placeholder (first :: second :: rest)).toList
      = [] ++ ((placeholder first).toList ++ ' ' :: others) := by
    rw [phrase_cons_cons]
    exact ⟨_, by simp; rfl⟩
  obtain ⟨more, once⟩ :=
    toList_replace_first List.not_mem_nil ("x" ++ placeholder second) shape
  obtain ⟨last, twice⟩ := toList_replace_first (show '\x7b' ∉ ['x'] by decide)
    (fieldText (quoting first second) second) (by rw [once]; simp; rfl)
  rw [fill_cons, fill_cons, firstText]
  by_cases same : first = second
  · refine ⟨'x', by decide, prefix_fill _ _ (by decide) ?_⟩
    rw [twice, fieldText_quoting, if_pos same]
    simp
  · refine ⟨' ', by decide, prefix_fill _ _ (by decide) ?_⟩
    rw [twice, fieldText_quoting, if_neg same]
    simp

/-- Labels show the texts of their fields, whatever these are, for no more than one field. -/
theorem label_eq_shown_iff {d : LookupDisplay} (h : d.pattern = phrase placeholder d.simpleFields) :
    (∀ referenced, d.labelOf referenced = d.shown referenced (fieldText referenced)) ↔
      d.simpleFields.length ≤ 1 := by
  refine ⟨fun all => ?_, label_eq_shown h⟩
  simp only [label_eq_fill h, shown] at all
  generalize d.simpleFields = fields at all
  rcases fields with _ | ⟨first, _ | ⟨second, rest⟩⟩
  · simp
  · simp
  · obtain ⟨c, other, starts⟩ := label_quoting first second rest
    have label := all (quoting first second)
    rw [if_neg (List.cons_ne_nil _ _), if_neg (List.cons_ne_nil _ _)] at label
    rw [label, phrase_cons_cons, fieldText_quoting, if_pos rfl] at starts
    exact absurd (by simpa [placeholder] using starts) other

/-- The label of a lookup shows the texts of its fields for every record if and only if there is no
second field. If names have no character that is set around them, each text of the label is that of
its field with the places in it filled of the fields that come later. Where no text holds such a
place, the label shows the texts themselves. -/
theorem label_fills_in_turn {f : Field} {d : LookupDisplay} (display : ofField? f = some d) :
    ((∀ referenced, d.labelOf referenced = d.shown referenced (fieldText referenced)) ↔
      d.simpleFields.length ≤ 1) ∧
    ((∀ name ∈ d.simpleFields, Separate name) → ∀ referenced,
      d.labelOf referenced = d.shown referenced (d.refilled referenced) ∧
      ((∀ field ∈ d.simpleFields, ∀ later ∈ behind field d.simpleFields,
          ¬ (placeholder later).toList <:+: (fieldText referenced field).toList) →
        d.labelOf referenced = d.shown referenced (fieldText referenced))) := by
  have pattern := pattern_of_ofField? display
  refine ⟨label_eq_shown_iff pattern, fun separate referenced => ?_⟩
  have label := label_eq_refilled pattern separate referenced
  refine ⟨label, fun unquoted => label.trans (shown_congr fun field member => ?_)⟩
  exact fill_of_absent referenced (unquoted field member)

end LookupDisplay

namespace Deals

/-- A deal's owner, told by name and code. -/
def owner : Field := ⟨"owner", "lookup", some "User", false, [], [], ["name", "code"], []⟩

def ownerDisplay : LookupDisplay :=
  ⟨"User", "name", "\x7bname\x7d (\x7bcode\x7d)", ["name", "code"], []⟩

def user (name : String) : Record := [("name", .str name), ("code", .str "x")]

end Deals

namespace LookupDisplay

/-- A name that holds no place is shown as it is, but another name may not be. -/
theorem label_fills_in_turn_owner :
    ofField? Deals.owner = some Deals.ownerDisplay ∧
    Deals.ownerDisplay.labelOf (Deals.user "Ann") = "Ann (x)" ∧
    ¬ ∀ referenced, Deals.ownerDisplay.labelOf referenced
      = Deals.ownerDisplay.shown referenced (fieldText referenced) := by
  have display : ofField? Deals.owner = some Deals.ownerDisplay := by decide +kernel
  obtain ⟨always, separately⟩ := label_fills_in_turn display
  have separate : ∀ name ∈ Deals.ownerDisplay.simpleFields, Separate name := by
    simp [Deals.ownerDisplay, Separate]
  have apart : ∀ field ∈ Deals.ownerDisplay.simpleFields,
      ∀ later ∈ behind field Deals.ownerDisplay.simpleFields,
        ¬ (placeholder later).toList <:+: (fieldText (Deals.user "Ann") field).toList := by
    decide +kernel
  have label := (separately separate (Deals.user "Ann")).2 apart
  refine ⟨display, label.trans (by decide +kernel), fun all => ?_⟩
  exact absurd (always.mp all) (by decide)

/-- A user whose name is the place of the code is labelled by the code alone. -/
theorem label_of_name_as_place :
    ofField? Deals.owner = some Deals.ownerDisplay ∧
    Deals.ownerDisplay.labelOf (Deals.user "\x7bcode\x7d") = "x (x)" ∧
    Deals.ownerDisplay.shown (Deals.user "\x7bcode\x7d") (fieldText (Deals.user "\x7bcode\x7d"))
      = "\x7bcode\x7d (x)" := by
  decide +kernel

end LookupDisplay

end RecordQuery
