import RecordQuery.Proofs.Svg.Escape

/-!
# Drawings read back

Markup is read character by character. A bracket begins a tag wherever no value is open, a closing
tag ends the element that was opened last, and an entity stands for its character. The markup of a
drawing whose elements hold elements only or one text is read back as that drawing, whatever the
texts and values: no text is taken for a tag, and the tags are balanced.
-/

namespace RecordQuery

namespace Svg

structure Tag where
  name : String
  attributes : List (String × String)

/-- What the characters so far have begun. -/
inductive Mode
  /-- Outside of tags. -/
  | content (t : Content)
  /-- The name in an opening tag. -/
  | opening (name : List Char)
  /-- The name in a closing tag. -/
  | closing (name : List Char)
  | attribute (tag : Tag) (name : List Char)
  /-- Behind the sign between an attribute's name and its value. -/
  | equals (tag : Tag) (name : String)
  | value (tag : Tag) (name : String) (t : Content)
  /-- Behind a value. -/
  | inside (tag : Tag)
  /-- Behind the slash of a tag that closes itself. -/
  | ending (tag : Tag)

/-- Markup that is being read. -/
structure Reading where
  /-- What the element opened last holds so far. -/
  done : List Svg
  /-- The open elements, the last one first, with what stands before each. -/
  frames : List (Tag × List Svg)
  mode : Mode

namespace Reading

def start : Reading := ⟨[], [], .content .empty⟩

def isNameChar (c : Char) : Bool := c.isAlphanum || c = '-'

/-- What may stand in a tag behind its name or a value. -/
def inTag (done : List Svg) (frames : List (Tag × List Svg)) (tag : Tag) (c : Char) :
    Option Reading :=
  if c = ' ' then some ⟨done, frames, .attribute tag []⟩
  else if c = '/' then some ⟨done, frames, .ending tag⟩
  else if c = '>' then some ⟨[], (tag, done) :: frames, .content .empty⟩
  else none

/-- The empty text between two tags is none. -/
def withText (done : List Svg) (s : String) : List Svg := if s = "" then done else done ++ [text s]

/-- Between an opening and a closing tag with nothing between them there is the empty text. -/
def childrenOf (done : List Svg) : List Svg := if done.isEmpty then [text ""] else done

/-- A closing tag has the name of the element that was opened last. -/
def close (done : List Svg) (frames : List (Tag × List Svg)) (name : String) : Option Reading :=
  match frames with
  | [] => none
  | (tag, before) :: rest =>
    if tag.name = name then
      some ⟨before ++ [element tag.name tag.attributes (childrenOf done)], rest, .content .empty⟩
    else none

def step (r : Reading) (c : Char) : Option Reading :=
  match r with
  | ⟨done, frames, .content t⟩ =>
    if c = '<' then t.finish?.map fun s =>
      ⟨withText done s, frames, .opening []⟩
    else (t.push c).map fun t => ⟨done, frames, .content t⟩
  | ⟨done, frames, .opening name⟩ =>
    if isNameChar c then some ⟨done, frames, .opening (name ++ [c])⟩
    else if name = [] then if c = '/' then some ⟨done, frames, .closing []⟩ else none
    else inTag done frames ⟨String.ofList name, []⟩ c
  | ⟨done, frames, .closing name⟩ =>
    if isNameChar c then some ⟨done, frames, .closing (name ++ [c])⟩
    else if c = '>' then close done frames (String.ofList name)
    else none
  | ⟨done, frames, .attribute tag name⟩ =>
    if isNameChar c then some ⟨done, frames, .attribute tag (name ++ [c])⟩
    else if c = '=' ∧ name ≠ [] then some ⟨done, frames, .equals tag (String.ofList name)⟩
    else none
  | ⟨done, frames, .equals tag name⟩ =>
    if c = '"' then some ⟨done, frames, .value tag name .empty⟩ else none
  | ⟨done, frames, .value tag name t⟩ =>
    if c = '"' then t.finish?.map fun v =>
      ⟨done, frames, .inside ⟨tag.name, tag.attributes ++ [(name, v)]⟩⟩
    else if c = '<' then none
    else (t.push c).map fun t => ⟨done, frames, .value tag name t⟩
  | ⟨done, frames, .inside tag⟩ => inTag done frames tag c
  | ⟨done, frames, .ending tag⟩ =>
    if c = '>' then some ⟨done ++ [element tag.name tag.attributes []], frames, .content .empty⟩
    else none

/-- One element, and nothing open. -/
def finish? : Reading → Option Svg
  | ⟨[t], [], .content ⟨[], none⟩⟩ => some t
  | _ => none

end Reading

/-- The drawing of markup. -/
def read? (s : String) : Option Svg := do
  let r ← s.toList.foldlM Reading.step .start
  r.finish?

/-- Only names of two lists occur, and an element holds elements only or one text. -/
inductive Uses (names attributeNames : List String) : Svg → Prop
  | label {name : String} {attributes : List (String × String)} (named : name ∈ names)
      (attributed : ∀ entry ∈ attributes, entry.1 ∈ attributeNames) (content : String) :
      Uses names attributeNames (label name attributes content)
  | group {name : String} {attributes : List (String × String)} {children : List Svg}
      (named : name ∈ names) (attributed : ∀ entry ∈ attributes, entry.1 ∈ attributeNames)
      (each : ∀ child ∈ children, Uses names attributeNames child) :
      Uses names attributeNames (element name attributes children)

/-- A name that can be told from what stands around it. -/
def Plain (name : String) : Prop := name ≠ "" ∧ name.toList.all Reading.isNameChar = true

instance (name : String) : Decidable (Plain name) := inferInstanceAs (Decidable (_ ∧ _))

namespace Reading

variable {done : List Svg} {frames : List (Tag × List Svg)}

theorem foldlM_after {r next : Reading} {cs : List Char} (h : cs.foldlM step r = some next)
    (rest : List Char) : (cs ++ rest).foldlM step r = rest.foldlM step next := by
  rw [List.foldlM_append, h]
  rfl

theorem foldlM_next {r next : Reading} {c : Char} (h : step r c = some next) (rest : List Char) :
    (c :: rest).foldlM step r = rest.foldlM step next := by
  rw [List.foldlM_cons, h]
  rfl

/-- A name is read as a whole, in whatever tag it stands. -/
theorem foldlM_name {mode : List Char → Mode}
    (takes : ∀ cs c, isNameChar c = true →
      step ⟨done, frames, mode cs⟩ c = some ⟨done, frames, mode (cs ++ [c])⟩)
    {cs : List Char} (plain : cs.all isNameChar = true) (before : List Char) :
    cs.foldlM step ⟨done, frames, mode before⟩ = some ⟨done, frames, mode (before ++ cs)⟩ := by
  induction cs generalizing before with
  | nil => simp
  | cons c rest ih =>
    rw [List.all_cons, Bool.and_eq_true] at plain
    rw [List.foldlM_cons, takes before c plain.1]
    simp [ih plain.2]

/-- A text is read as it was before it was written. -/
theorem foldlM_escape {mode : Content → Mode}
    (takes : ∀ t c, isReserved c = false →
      step ⟨done, frames, mode t⟩ c = (t.push c).map fun t => ⟨done, frames, mode t⟩)
    (s : String) :
    (escape s).toList.foldlM step ⟨done, frames, mode .empty⟩
      = some ⟨done, frames, mode ⟨s.toList, none⟩⟩ := by
  have each : ∀ (cs : List Char) (t : Content), (∀ c ∈ cs, isReserved c = false) →
      cs.foldlM step ⟨done, frames, mode t⟩
        = (cs.foldlM Content.push t).map fun t => ⟨done, frames, mode t⟩ := by
    intro cs
    induction cs with
    | nil => simp
    | cons c rest ih =>
      intro t unreserved
      rw [List.foldlM_cons, List.foldlM_cons, takes t c (unreserved c List.mem_cons_self)]
      cases t.push c with
      | none => rfl
      | some next => exact ih next fun d hd => unreserved d (List.mem_cons_of_mem c hd)
  rw [each _ _ fun _ => isReserved_of_mem_escape, Content.push_escape]
  rfl

theorem step_opening (cs : List Char) (c : Char) (h : isNameChar c = true) :
    step ⟨done, frames, .opening cs⟩ c = some ⟨done, frames, .opening (cs ++ [c])⟩ := by
  simp [step, h]

theorem step_closing (cs : List Char) (c : Char) (h : isNameChar c = true) :
    step ⟨done, frames, .closing cs⟩ c = some ⟨done, frames, .closing (cs ++ [c])⟩ := by
  simp [step, h]

theorem step_attribute (tag : Tag) (cs : List Char) (c : Char) (h : isNameChar c = true) :
    step ⟨done, frames, .attribute tag cs⟩ c = some ⟨done, frames, .attribute tag (cs ++ [c])⟩ := by
  simp [step, h]

theorem step_content (t : Content) (c : Char) (h : isReserved c = false) :
    step ⟨done, frames, .content t⟩ c = (t.push c).map fun t => ⟨done, frames, .content t⟩ := by
  have : c ≠ '<' := by
    rintro rfl
    exact absurd h (by decide)
  simp [step, this]

theorem step_value (tag : Tag) (name : String) (t : Content) (c : Char) (h : isReserved c = false) :
    step ⟨done, frames, .value tag name t⟩ c
      = (t.push c).map fun t => ⟨done, frames, .value tag name t⟩ := by
  have bracket : c ≠ '<' := by
    rintro rfl
    exact absurd h (by decide)
  have quote : c ≠ '"' := by
    rintro rfl
    exact absurd h (by decide)
  simp [step, bracket, quote]

/-- Behind the name of a tag and behind each of its values the same may follow. -/
def Stands (done : List Svg) (frames : List (Tag × List Svg)) (mode : Mode) (tag : Tag) : Prop :=
  ∀ c, isNameChar c = false → step ⟨done, frames, mode⟩ c = inTag done frames tag c

theorem foldlM_attribute {mode : Mode} {tag : Tag} (stands : Stands done frames mode tag)
    {name : String} (plain : Plain name) (v : String) :
    (attributeMarkup (name, v)).toList.foldlM step ⟨done, frames, mode⟩
      = some ⟨done, frames, .inside ⟨tag.name, tag.attributes ++ [(name, v)]⟩⟩ := by
  have written : (attributeMarkup (name, v)).toList
      = ' ' :: (name.toList ++ '=' :: '"' :: ((escape v).toList ++ ['"'])) := by
    simp [attributeMarkup]
  have nonempty : name.toList ≠ [] := by simpa using plain.1
  have equals : step ⟨done, frames, .attribute tag name.toList⟩ '='
      = some ⟨done, frames, .equals tag name⟩ := by
    rw [step, if_neg (by decide), if_pos ⟨rfl, nonempty⟩, String.ofList_toList]
  have ends : step ⟨done, frames, .value tag name ⟨v.toList, none⟩⟩ '"'
      = some ⟨done, frames, .inside ⟨tag.name, tag.attributes ++ [(name, v)]⟩⟩ := by
    simp [step, Content.finish?]
  rw [written, foldlM_next (stands ' ' (by decide)),
    foldlM_after (foldlM_name (step_attribute tag) plain.2 []), List.nil_append, foldlM_next equals,
    foldlM_next (c := '"') rfl, foldlM_after (foldlM_escape (step_value tag name) v),
    foldlM_next ends]
  rfl

theorem foldlM_attributes {attributes : List (String × String)} {mode : Mode} {tag : Tag}
    (stands : Stands done frames mode tag) (plain : ∀ entry ∈ attributes, Plain entry.1) :
    ∃ mode', (String.join (attributes.map attributeMarkup)).toList.foldlM step ⟨done, frames, mode⟩
        = some ⟨done, frames, mode'⟩ ∧
      Stands done frames mode' ⟨tag.name, tag.attributes ++ attributes⟩ := by
  induction attributes generalizing mode tag with
  | nil => exact ⟨mode, rfl, by simpa using stands⟩
  | cons entry rest ih =>
    obtain ⟨name, v⟩ := entry
    have first := foldlM_attribute stands (plain _ List.mem_cons_self) v
    have behind : Stands done frames (.inside ⟨tag.name, tag.attributes ++ [(name, v)]⟩)
        ⟨tag.name, tag.attributes ++ [(name, v)]⟩ := fun _ _ => rfl
    obtain ⟨mode', others, stands'⟩ :=
      ih behind fun entry hentry => plain entry (List.mem_cons_of_mem _ hentry)
    refine ⟨mode', ?_, by simpa using stands'⟩
    rw [List.map_cons, String.join_cons, String.toList_append, foldlM_after first]
    exact others

/-- Behind an opening tag, before its last bracket. -/
theorem foldlM_openingMarkup {name : String} (plain : Plain name)
    {attributes : List (String × String)} (attributed : ∀ entry ∈ attributes, Plain entry.1) :
    ∃ mode, (openingMarkup name attributes).toList.foldlM step ⟨done, frames, .content .empty⟩
        = some ⟨done, frames, mode⟩ ∧
      Stands done frames mode ⟨name, attributes⟩ := by
  have nonempty : name.toList ≠ [] := by simpa using plain.1
  have named : Stands done frames (.opening name.toList) ⟨name, []⟩ := by
    intro c hc
    simp [step, hc, nonempty]
  obtain ⟨mode, others, stands⟩ := foldlM_attributes named attributed
  refine ⟨mode, ?_, by simpa using stands⟩
  have written : (openingMarkup name attributes).toList
      = '<' :: (name.toList ++ (String.join (attributes.map attributeMarkup)).toList) := by
    simp [openingMarkup]
  rw [written, foldlM_next (c := '<') rfl, foldlM_after (foldlM_name step_opening plain.2 [])]
  exact others

theorem foldlM_opened {name : String} (plain : Plain name) {attributes : List (String × String)}
    (attributed : ∀ entry ∈ attributes, Plain entry.1) :
    (openingMarkup name attributes ++ ">").toList.foldlM step ⟨done, frames, .content .empty⟩
      = some ⟨[], (⟨name, attributes⟩, done) :: frames, .content .empty⟩ := by
  obtain ⟨mode, opened, stands⟩ := foldlM_openingMarkup plain attributed
  rw [String.toList_append, foldlM_after opened]
  exact foldlM_next (stands '>' (by decide)) []

theorem foldlM_leaf {name : String} (plain : Plain name) {attributes : List (String × String)}
    (attributed : ∀ entry ∈ attributes, Plain entry.1) :
    (openingMarkup name attributes ++ "/>").toList.foldlM step ⟨done, frames, .content .empty⟩
      = some ⟨done ++ [leaf name attributes], frames, .content .empty⟩ := by
  obtain ⟨mode, opened, stands⟩ := foldlM_openingMarkup plain attributed
  rw [String.toList_append, foldlM_after opened]
  exact foldlM_next (stands '/' (by decide)) ['>']

/-- A closing tag behind the text that an element ends with. -/
theorem foldlM_closed {name : String} (plain : Plain name) (attributes : List (String × String))
    (before : List Svg) {t : Content} {s : String} (finished : t.finish? = some s) :
    ("</" ++ name ++ ">").toList.foldlM step
        ⟨done, (⟨name, attributes⟩, before) :: frames, .content t⟩
      = some ⟨before ++ [element name attributes (childrenOf (withText done s))], frames,
          .content .empty⟩ := by
  have written : ("</" ++ name ++ ">").toList = '<' :: '/' :: (name.toList ++ ['>']) := by simp
  have bracket : step ⟨done, (⟨name, attributes⟩, before) :: frames, .content t⟩ '<'
      = some ⟨withText done s, (⟨name, attributes⟩, before) :: frames, .opening []⟩ := by
    rw [step, if_pos rfl, finished]
    rfl
  rw [written, foldlM_next bracket, foldlM_next (c := '/') rfl,
    foldlM_after (foldlM_name step_closing plain.2 [])]
  refine foldlM_next ?_ []
  simp [step, close, isNameChar]

/-- What stands between two tags is read as a whole. -/
theorem foldlM_element {name : String} (plain : Plain name) {attributes : List (String × String)}
    (attributed : ∀ entry ∈ attributes, Plain entry.1) {inner : String} {held : List Svg}
    {t : Content} {s : String} (finished : t.finish? = some s)
    (read : inner.toList.foldlM step ⟨[], (⟨name, attributes⟩, done) :: frames, .content .empty⟩
      = some ⟨held, (⟨name, attributes⟩, done) :: frames, .content t⟩) :
    (openingMarkup name attributes ++ ">" ++ inner ++ ("</" ++ name ++ ">")).toList.foldlM step
        ⟨done, frames, .content .empty⟩
      = some ⟨done ++ [element name attributes (childrenOf (withText held s))], frames,
          .content .empty⟩ := by
  rw [String.append_assoc, String.toList_append, foldlM_after (foldlM_opened plain attributed),
    String.toList_append, foldlM_after read]
  exact foldlM_closed plain attributes done finished

theorem foldlM_markupAll {children : List Svg}
    (each : ∀ child ∈ children, ∀ done, child.markup.toList.foldlM step
      ⟨done, frames, .content .empty⟩ = some ⟨done ++ [child], frames, .content .empty⟩)
    (done : List Svg) :
    (markupAll children).toList.foldlM step ⟨done, frames, .content .empty⟩
      = some ⟨done ++ children, frames, .content .empty⟩ := by
  induction children generalizing done with
  | nil => simp [markupAll]
  | cons child rest ih =>
    have others := ih (fun other hother => each other (List.mem_cons_of_mem _ hother))
      (done ++ [child])
    rw [markupAll, String.toList_append, foldlM_after (each child List.mem_cons_self done)]
    simpa using others

end Reading

open Reading

/-- The markup of an element is read as that element, wherever it stands. -/
theorem foldlM_markup {names attributeNames : List String} (plain : ∀ name ∈ names, Plain name)
    (attributed : ∀ name ∈ attributeNames, Plain name) {t : Svg}
    (uses : t.Uses names attributeNames) (done : List Svg) (frames : List (Tag × List Svg)) :
    t.markup.toList.foldlM step ⟨done, frames, .content .empty⟩
      = some ⟨done ++ [t], frames, .content .empty⟩ := by
  -- What is open around an element does not change while the element is read.
  induction uses generalizing done frames with
  | @label name attributes named attrs content =>
    have finished : (⟨content.toList, none⟩ : Content).finish? = some content := by
      simp [Content.finish?]
    have inner : (escape content).toList.foldlM step
        ⟨[], (⟨name, attributes⟩, done) :: frames, .content .empty⟩
          = some ⟨[], (⟨name, attributes⟩, done) :: frames, .content ⟨content.toList, none⟩⟩ :=
      foldlM_escape step_content content
    have whole := foldlM_element (plain name named)
      (fun entry hentry => attributed _ (attrs entry hentry)) finished inner
    have children : childrenOf (withText [] content) = [text content] := by
      by_cases h : content = "" <;> simp [withText, childrenOf, h]
    have written : (label name attributes content).markup
        = openingMarkup name attributes ++ ">" ++ escape content ++ ("</" ++ name ++ ">") := by
      simp [label, markup, markupAll, String.append_assoc]
    rw [written, whole, children]
    rfl
  | @group name attributes children named attrs each ih =>
    have plainAttributes : ∀ entry ∈ attributes, Plain entry.1 := fun entry hentry =>
      attributed _ (attrs entry hentry)
    cases children with
    | nil => exact foldlM_leaf (plain name named) plainAttributes
    | cons child rest =>
      have inner : (markupAll (child :: rest)).toList.foldlM step
          ⟨[], (⟨name, attributes⟩, done) :: frames, .content .empty⟩
            = some ⟨child :: rest, (⟨name, attributes⟩, done) :: frames, .content .empty⟩ :=
        foldlM_markupAll (fun child hchild held => ih child hchild held _) []
      have whole := foldlM_element (plain name named) plainAttributes (t := .empty) rfl inner
      have written : (element name attributes (child :: rest)).markup
          = openingMarkup name attributes ++ ">" ++ markupAll (child :: rest)
            ++ ("</" ++ name ++ ">") := by
        simp [markup, String.append_assoc]
      rw [written]
      exact whole

theorem read?_markup {names attributeNames : List String} (plain : ∀ name ∈ names, Plain name)
    (attributed : ∀ name ∈ attributeNames, Plain name) {t : Svg}
    (uses : t.Uses names attributeNames) : read? t.markup = some t := by
  rw [read?, start, foldlM_markup plain attributed uses]
  rfl

/-- Tags that are closed in the wrong order are refused. -/
example : (read? "<svg><text>a</svg></text>").isNone = true := by decide +kernel

end Svg

end RecordQuery
