import RecordQuery.Proofs.Pivot.Cells

/-!
# Rows hold the records below them

A record is pushed along its path of row keys. At a prefix of the path this is the same push, one
level for each key further down; at any other prefix nothing changes. So after a run, the row at a
prefix holds exactly the records whose path begins with it.
-/

namespace RecordQuery

/-- A list begins with one item more if that item is the next. -/
theorem concat_prefix_iff {α : Type} {front path : List α} {next : α} :
    front ++ [next] <+: path ↔ front <+: path ∧ path[front.length]? = some next := by
  constructor
  · rintro ⟨rest, rfl⟩
    exact ⟨⟨[next] ++ rest, by simp⟩, by simp⟩
  · rintro ⟨⟨rest, rfl⟩, hnext⟩
    cases rest with
    | nil => simp at hnext
    | cons first others =>
      obtain rfl : first = next := by simpa using hnext
      exact ⟨others, by simp⟩

namespace PivotLayout

/-- The keys of the rows that a record falls into, from the top. -/
def rowKeys (p : PivotLayout) (r : Record) : List String := (p.rowPath r).map (·.key)

/-- The records whose path begins with some keys. -/
def under (p : PivotLayout) (records : List Record) (keys : List String) : List Record :=
  records.filter fun r => keys <+: p.rowKeys r

theorem under_append (p : PivotLayout) (records : List Record) (r : Record) (keys : List String) :
    p.under (records ++ [r]) keys
      = if keys <+: p.rowKeys r then p.under records keys ++ [r] else p.under records keys := by
  rw [under, List.filter_append]
  by_cases hkeys : keys <+: p.rowKeys r
  · simp [hkeys, under]
  · simp [hkeys, under]

end PivotLayout

namespace RowNode

/-- What becomes of a row when a record is pushed that falls into it at this level. -/
def pushed (column : String) (readings : List (Option Float)) (level : Nat) (step : RowStep)
    (more : List RowStep) (before : Option RowNode) : RowNode :=
  let row := before.getD ⟨step.label, level, Cells.empty readings.length, []⟩
  { row with
    cells := row.cells.push column readings
    children := pushPath column readings (level + 1) more row.children }

theorem get?_pushPath {column : String} {readings : List (Option Float)} {level : Nat}
    {step : RowStep} {more : List RowStep} {rows : Fields RowNode} (h : rows.Ascending)
    (key : String) :
    Fields.get? (pushPath column readings level (step :: more) rows) key
      = if step.key = key then
          some (pushed column readings level step more (Fields.get? rows step.key))
        else Fields.get? rows key :=
  h.get?_adjust step.key (pushed column readings level step more) key

/-- The rows directly below a row, if it is there. -/
def children? (row : Option RowNode) : Fields RowNode := (row.map (·.children)).getD []

theorem children_pushed (column : String) (readings : List (Option Float)) (level : Nat)
    (step : RowStep) (more : List RowStep) (before : Option RowNode) :
    (pushed column readings level step more before).children
      = pushPath column readings (level + 1) more (children? before) := by
  cases before <;> rfl

/-- The rows that stand directly behind some keys. -/
def behind : Fields RowNode → List String → Fields RowNode
  | rows, [] => rows
  | rows, key :: rest => behind (children? (Fields.get? rows key)) rest

@[simp]
theorem behind_empty (keys : List String) : behind [] keys = [] := by
  induction keys with
  | nil => rfl
  | cons key rest ih => exact ih

/-- At every level the rows come in ascending order. -/
def Ordered (rows : Fields RowNode) : Prop := ∀ keys, (behind rows keys).Ascending

theorem Ordered.children {rows : Fields RowNode} (h : Ordered rows) (key : String) :
    Ordered (children? (Fields.get? rows key)) :=
  fun keys => h (key :: keys)

/-- What stands behind some keys after a record has been pushed. -/
theorem behind_pushPath (column : String) (readings : List (Option Float)) (keys : List String) :
    ∀ (level : Nat) (steps : List RowStep) {rows : Fields RowNode}, Ordered rows →
      behind (pushPath column readings level steps rows) keys
        = if keys <+: steps.map (·.key) then
            pushPath column readings (level + keys.length) (steps.drop keys.length)
              (behind rows keys)
          else behind rows keys := by
  induction keys with
  | nil => intro level steps rows _; simp [behind]
  | cons key rest ih =>
    intro level steps rows h
    cases steps with
    | nil => simp [pushPath]
    | cons step more =>
      have ascending : rows.Ascending := h []
      rw [behind, behind, get?_pushPath ascending]
      by_cases hkey : step.key = key
      · subst hkey
        have onPath : step.key :: rest <+: (step :: more).map (·.key) ↔
            rest <+: more.map (·.key) := by simp
        have deeper : level + (step.key :: rest).length = level + 1 + rest.length := by
          simp only [List.length_cons]
          omega
        rw [if_pos rfl, children?, Option.map_some, Option.getD_some, children_pushed,
          ih (level + 1) more (h.children step.key), deeper, List.length_cons,
          List.drop_succ_cons]
        simp only [onPath]
      · have apart : ¬ key :: rest <+: (step :: more).map (·.key) := by
          simp [Ne.symm hkey]
        rw [if_neg hkey, if_neg apart]

theorem Ordered.pushPath {rows : Fields RowNode} (h : Ordered rows) (column : String)
    (readings : List (Option Float)) (level : Nat) (steps : List RowStep) :
    Ordered (RowNode.pushPath column readings level steps rows) := by
  intro keys
  rw [behind_pushPath column readings keys level steps h]
  split
  · cases steps.drop keys.length with
    | nil => exact h keys
    | cons step more => exact (h keys).adjust step.key (pushed column readings _ step more)
  · exact h keys

/-- The row at a prefix of the record's path takes the record in, every other row stays. -/
theorem get?_behind_pushPath (column : String) (readings : List (Option Float))
    (steps : List RowStep) {rows : Fields RowNode} (h : Ordered rows) (keys : List String)
    (key : String) :
    (¬ keys ++ [key] <+: steps.map (·.key) ∧
      Fields.get? (behind (RowNode.pushPath column readings 0 steps rows) keys) key
        = Fields.get? (behind rows keys) key) ∨
    (keys ++ [key] <+: steps.map (·.key) ∧ ∃ step more,
      Fields.get? (behind (RowNode.pushPath column readings 0 steps rows) keys) key
        = some (pushed column readings keys.length step more
            (Fields.get? (behind rows keys) key))) := by
  rw [behind_pushPath column readings keys 0 steps h, Nat.zero_add, concat_prefix_iff]
  by_cases onPath : keys <+: steps.map (·.key)
  · rw [if_pos onPath]
    cases hdrop : steps.drop keys.length with
    | nil =>
      have ended : (steps.map (·.key))[keys.length]? = none := by
        simpa using List.drop_eq_nil_iff.mp hdrop
      exact .inl ⟨by simp [ended], rfl⟩
    | cons step more =>
      have next : (steps.map (·.key))[keys.length]? = some step.key := by
        have := congrArg List.head? hdrop
        rw [List.head?_drop] at this
        simp [this]
      rw [next, get?_pushPath (h keys)]
      by_cases hkey : step.key = key
      · exact .inr ⟨⟨onPath, by rw [hkey]⟩, step, more, by rw [if_pos hkey, hkey]⟩
      · exact .inl ⟨by simp [hkey], if_neg hkey⟩
  · rw [if_neg onPath]
    exact .inl ⟨fun h => onPath h.1, rfl⟩

/-- The rows hold the records: at every level they are ordered, a row is there for each path that
occurs, and it holds the records below it. -/
structure Holds (p : PivotLayout) (records : List Record) (rows : Fields RowNode) : Prop where
  ordered : Ordered rows
  present : ∀ keys key, Fields.get? (behind rows keys) key ≠ none ↔
    ∃ r ∈ records, keys ++ [key] <+: p.rowKeys r
  row : ∀ keys key row, Fields.get? (behind rows keys) key = some row →
    row.level = keys.length ∧ Cells.Holds p (p.under records (keys ++ [key])) row.cells

theorem Holds.empty (p : PivotLayout) : Holds p [] [] where
  ordered := fun keys => by simpa using Fields.ascending_nil
  present := by simp
  row := by simp

variable {p : PivotLayout} {records : List Record} {rows : Fields RowNode}

/-- A row that is not there yet holds nothing. -/
theorem Holds.under_eq_nil (h : Holds p records rows) {keys : List String} {key : String}
    (absent : Fields.get? (behind rows keys) key = none) :
    p.under records (keys ++ [key]) = [] := by
  rw [PivotLayout.under, List.filter_eq_nil_iff]
  intro r hr hkeys
  exact (h.present keys key).mpr ⟨r, hr, by simpa using hkeys⟩ absent

/-- One record more is held by the rows on its path and by no other. -/
theorem Holds.push (h : Holds p records rows) (r : Record) :
    Holds p (records ++ [r]) (pushPath (p.columnKey r) (p.readings r) 0 (p.rowPath r) rows) where
  ordered := h.ordered.pushPath _ _ _ _
  present := by
    intro keys key
    rcases get?_behind_pushPath (p.columnKey r) (p.readings r) (p.rowPath r) h.ordered keys key
      with ⟨off, hget⟩ | ⟨on, step, more, hget⟩
    · have off : ¬ keys ++ [key] <+: p.rowKeys r := off
      rw [hget, h.present]
      simp [off]
    · rw [hget]
      exact ⟨fun _ => ⟨r, by simp, on⟩, fun _ => Option.some_ne_none _⟩
  row := by
    intro keys key row hrow
    rw [p.under_append]
    rcases get?_behind_pushPath (p.columnKey r) (p.readings r) (p.rowPath r) h.ordered keys key
      with ⟨off, hget⟩ | ⟨on, step, more, hget⟩
    · have off : ¬ keys ++ [key] <+: p.rowKeys r := off
      rw [if_neg off]
      exact h.row keys key row (hget ▸ hrow)
    · have on : keys ++ [key] <+: p.rowKeys r := on
      rw [if_pos on]
      obtain rfl := Option.some.inj (hget.symm.trans hrow)
      cases hbefore : Fields.get? (behind rows keys) key with
      | none =>
        rw [h.under_eq_nil hbefore]
        refine ⟨rfl, ?_⟩
        have fresh := (Cells.Holds.empty p).push r
        rwa [← p.length_readings r] at fresh
      | some before =>
        obtain ⟨hlevel, hcells⟩ := h.row keys key before hbefore
        exact ⟨hlevel, hcells.push r⟩

end RowNode

namespace PivotTable

/-- The table holds the records: its rows those below them, its totals all of them. -/
structure Holds (p : PivotLayout) (records : List Record) (t : PivotTable) : Prop where
  layout : t.layout = p
  rows : RowNode.Holds p records t.rows
  grand : Cells.Holds p records t.grand

theorem Holds.start {p : PivotLayout} {t : PivotTable} (h : start p = .ok t) : Holds p [] t := by
  rw [PivotTable.start] at h
  split at h
  · cases h
  · split at h
    · cases h
    · obtain rfl := Except.ok.inj h
      exact ⟨rfl, .empty p, .empty p⟩

theorem Holds.push {p : PivotLayout} {records : List Record} {t : PivotTable}
    (h : Holds p records t) (r : Record) : Holds p (records ++ [r]) (t.push r) := by
  obtain ⟨rfl, rows, grand⟩ := h
  exact ⟨rfl, rows.push r, grand.push r⟩

/-- After a run the table holds all the records that were pushed, in their order. -/
theorem Holds.foldl {p : PivotLayout} {done : List Record} {t : PivotTable} (h : Holds p done t)
    (records : List Record) : Holds p (done ++ records) (records.foldl PivotTable.push t) := by
  induction records generalizing done t with
  | nil => simpa using h
  | cons r rest ih => simpa using ih (h.push r)

theorem Holds.of_start {p : PivotLayout} {empty : PivotTable}
    (started : PivotTable.start p = .ok empty) (records : List Record) :
    Holds p records (records.foldl PivotTable.push empty) :=
  (Holds.start started).foldl records

end PivotTable

end RecordQuery
