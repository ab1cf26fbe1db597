import Mathlib.Data.List.Nodup
import RecordQuery.Proofs.Pivot.ColumnKey
import RecordQuery.Proofs.Pivot.Table

/-!
# Ways down the headers

The headers of a table are a tree in which every way down is the list of segments of a record. A
reader who goes down to the ends of the shown tree meets each way once.
-/

namespace RecordQuery

theorem Direction.nodup_arrange {α : Type} {entries : List α} (h : entries.Nodup) (d : Direction) :
    (d.arrange entries).Nodup := by
  cases d with
  | ascending => exact h
  | descending => exact List.nodup_reverse.mpr h

/-! Headers of a finished table, as a reader sees them. -/

namespace HeaderValue

mutual
/-- The headers at the ends of a tree: those that have no others below them. -/
def leaves : Value → List Value
  | .obj fields => if Fields.contains fields "children" then leavesBelow fields else [.obj fields]
  | v => [v]

/-- The ends below the entry for children. -/
def leavesBelow : List (String × Value) → List Value
  | [] => []
  | (name, v) :: rest => if name = "children" then leavesOf v else leavesBelow rest

def leavesOf : Value → List Value
  | .arr items => leavesAmong items
  | _ => []

def leavesAmong : List Value → List Value
  | [] => []
  | v :: rest => leaves v ++ leavesAmong rest
end

theorem leavesAmong_eq_flatMap (headers : List Value) :
    leavesAmong headers = headers.flatMap leaves := by
  induction headers with
  | nil => rfl
  | cons v rest ih => rw [leavesAmong, ih, List.flatMap_cons]

end HeaderValue

namespace HeaderNode

/-- Headers as they are shown, in the order of their level. -/
def listed (orders : List Direction) (level : Nat) (above : String) (headers : Fields HeaderNode) :
    List Value :=
  (orders.headD .ascending).arrange (toValues orders.tail level above headers)

theorem toValues_eq_map (orders : List Direction) (level : Nat) (above : String)
    (headers : Fields HeaderNode) :
    toValues orders level above headers = headers.map fun entry =>
      entry.2.toValue orders level (ColumnKey.below above entry.1) entry.1 := by
  induction headers with
  | nil => rfl
  | cons entry rest ih =>
    obtain ⟨segment, header⟩ := entry
    rw [toValues, ih]
    rfl

theorem key?_toValue (orders : List Direction) (level : Nat) (key segment : String)
    (header : HeaderNode) : RowValue.key? (header.toValue orders level key segment) = some key := by
  cases header
  rfl

theorem leaves_toValue (orders : List Direction) (level : Nat) (key segment : String)
    (header : HeaderNode) :
    HeaderValue.leaves (header.toValue orders level key segment)
      = if header.children = [] then [header.toValue orders level key segment]
        else HeaderValue.leavesAmong (listed orders (level + 1) key header.children) := by
  obtain ⟨children⟩ := header
  cases children with
  | nil => rfl
  | cons first rest => rfl

/-- The ways of some length down the headers, in the order in which they are shown. -/
def ways : Nat → List Direction → Fields HeaderNode → List (List String)
  | 0, _, _ => [[]]
  | n + 1, orders, headers =>
    ((orders.headD .ascending).arrange headers).flatMap fun entry =>
      (ways n orders.tail entry.2.children).map (entry.1 :: ·)

/-- Every way down has some length, and at each level the headers are in ascending order. -/
def Even : Nat → Fields HeaderNode → Prop
  | 0, headers => headers = []
  | n + 1, headers => headers.Ascending ∧
    ∀ entry ∈ headers, Even n entry.2.children ∧ (entry.2.children = [] → n = 0)

theorem even_nil (n : Nat) : Even n [] := by
  cases n with
  | zero => rfl
  | succ n => exact ⟨Fields.ascending_nil, by simp⟩

theorem map_key?_leavesAmong (orders : List Direction) (level : Nat) (above : String)
    (headers : Fields HeaderNode) :
    (HeaderValue.leavesAmong (listed orders level above headers)).map RowValue.key?
      = ((orders.headD .ascending).arrange headers).flatMap fun entry =>
          (HeaderValue.leaves (entry.2.toValue orders.tail level
            (ColumnKey.below above entry.1) entry.1)).map RowValue.key? := by
  rw [HeaderValue.leavesAmong_eq_flatMap, listed, toValues_eq_map, ← Direction.map_arrange,
    List.flatMap_map, List.map_flatMap]

/-- What a reader finds at the ends is one key for each way down. -/
theorem map_key?_leaves (n : Nat) (orders : List Direction) (level : Nat) (above : String)
    {headers : Fields HeaderNode} (h : Even (n + 1) headers) :
    (HeaderValue.leavesAmong (listed orders level above headers)).map RowValue.key?
      = (ways (n + 1) orders headers).map fun way => some (way.foldl ColumnKey.below above) := by
  induction n generalizing orders level above headers with
  | zero =>
    rw [map_key?_leavesAmong, ways, List.map_flatMap]
    refine List.flatMap_congr fun entry hentry => ?_
    have last : entry.2.children = [] := (h.2 entry (Direction.mem_arrange.mp hentry)).1
    rw [leaves_toValue, if_pos last, List.map_singleton, key?_toValue]
    rfl
  | succ n ih =>
    rw [map_key?_leavesAmong, ways, List.map_flatMap]
    refine List.flatMap_congr fun entry hentry => ?_
    obtain ⟨deeper, last⟩ := h.2 entry (Direction.mem_arrange.mp hentry)
    have more : entry.2.children ≠ [] := fun empty => absurd (last empty) (Nat.succ_ne_zero n)
    rw [leaves_toValue, if_neg more, ih _ _ _ deeper, List.map_map]
    rfl

theorem length_of_mem_ways {n : Nat} {orders : List Direction} {headers : Fields HeaderNode}
    {way : List String} (h : way ∈ ways n orders headers) : way.length = n := by
  induction n generalizing orders headers way with
  | zero => rw [List.mem_singleton.mp h]; rfl
  | succ n ih =>
    obtain ⟨entry, _, hway⟩ := List.mem_flatMap.mp h
    obtain ⟨more, hmore, rfl⟩ := List.mem_map.mp hway
    rw [List.length_cons, ih hmore]

/-- The headers directly below a header, if it is there. -/
def children? (header : Option HeaderNode) : Fields HeaderNode := (header.map (·.children)).getD []

theorem mem_ways_succ {n : Nat} {orders : List Direction} {headers : Fields HeaderNode}
    (h : headers.Ascending) {way : List String} :
    way ∈ ways (n + 1) orders headers ↔ ∃ segment header more,
      Fields.get? headers segment = some header ∧ more ∈ ways n orders.tail header.children ∧
        way = segment :: more := by
  rw [ways, List.mem_flatMap]
  constructor
  · rintro ⟨⟨segment, header⟩, hentry, hway⟩
    obtain ⟨more, hmore, rfl⟩ := List.mem_map.mp hway
    exact ⟨segment, header, more, Fields.get?_of_mem h.nodup (Direction.mem_arrange.mp hentry),
      hmore, rfl⟩
  · rintro ⟨segment, header, more, hget, hmore, rfl⟩
    exact ⟨(segment, header), Direction.mem_arrange.mpr (Fields.mem_of_get? hget),
      List.mem_map.mpr ⟨more, hmore, rfl⟩⟩

/-- No way is there twice: ways through one header differ behind it, others in its segment. -/
theorem Even.nodup_ways {n : Nat} {headers : Fields HeaderNode} (h : Even n headers)
    (orders : List Direction) : (ways n orders headers).Nodup := by
  induction n generalizing orders headers with
  | zero => exact List.nodup_singleton []
  | succ n ih =>
    obtain ⟨ascending, deeper⟩ := h
    rw [ways, List.nodup_flatMap]
    constructor
    · intro entry hentry
      have below := ih (deeper entry (Direction.mem_arrange.mp hentry)).1 orders.tail
      exact below.map fun _ _ same => (List.cons.inj same).2
    · have names : (((orders.headD .ascending).arrange headers).map (·.1)).Nodup := by
        rw [Direction.map_arrange]
        exact Direction.nodup_arrange ascending.nodup _
      refine (List.pairwise_map.mp names).imp fun apart way first second => ?_
      obtain ⟨_, _, rfl⟩ := List.mem_map.mp first
      obtain ⟨_, _, same⟩ := List.mem_map.mp second
      exact apart (List.cons.inj same).1.symm

theorem pushPath_cons (segment : String) (rest : List String) (headers : Fields HeaderNode) :
    pushPath (segment :: rest) headers
      = Fields.adjust segment (fun before => ⟨pushPath rest (children? before)⟩) headers := by
  rw [pushPath]
  congr 1
  funext before
  cases before <;> rfl

theorem get?_pushPath {segment : String} {rest : List String} {headers : Fields HeaderNode}
    (h : headers.Ascending) (name : String) :
    Fields.get? (pushPath (segment :: rest) headers) name
      = if segment = name then some ⟨pushPath rest (children? (Fields.get? headers segment))⟩
        else Fields.get? headers name := by
  rw [pushPath_cons, h.get?_adjust]

theorem pushPath_ne_nil {segments : List String} (h : segments ≠ [])
    (headers : Fields HeaderNode) : pushPath segments headers ≠ [] := by
  obtain ⟨segment, rest, rfl⟩ := List.exists_cons_of_ne_nil h
  intro empty
  have names := congrArg Fields.names empty
  rw [pushPath_cons, Fields.names_adjust] at names
  have present : segment ∈ NameSet.insert segment (Fields.names headers) :=
    NameSet.mem_insert.mpr (.inl rfl)
  rw [names] at present
  cases present

theorem Even.children {n : Nat} {headers : Fields HeaderNode} (h : Even (n + 1) headers)
    (segment : String) : Even n (children? (Fields.get? headers segment)) := by
  cases hget : Fields.get? headers segment with
  | none => exact even_nil n
  | some header => exact (h.2 _ (Fields.mem_of_get? hget)).1

theorem Even.pushPath {segments : List String} {headers : Fields HeaderNode}
    (h : Even segments.length headers) :
    Even segments.length (HeaderNode.pushPath segments headers) := by
  induction segments generalizing headers with
  | nil => exact h
  | cons segment rest ih =>
    have ascending : (HeaderNode.pushPath (segment :: rest) headers).Ascending := by
      rw [pushPath_cons]
      exact h.1.adjust segment _
    refine ⟨ascending, ?_⟩
    rintro ⟨name, header⟩ hentry
    have hget := Fields.get?_of_mem ascending.nodup hentry
    rw [get?_pushPath h.1] at hget
    split at hget
    · obtain rfl := Option.some.inj hget
      refine ⟨ih (h.children segment), fun last => Nat.eq_zero_of_not_pos fun more => ?_⟩
      exact pushPath_ne_nil (List.ne_nil_of_length_pos more) _ last
    · exact h.2 _ (Fields.mem_of_get? hget)

theorem eq_zero_of_mem_ways_nil {n : Nat} {orders : List Direction} {way : List String}
    (h : way ∈ ways n orders []) : n = 0 := by
  cases n with
  | zero => rfl
  | succ n => simp [ways] at h

/-- The way that was pushed is there afterwards, and no other is new. -/
theorem mem_ways_pushPath {segments : List String} {headers : Fields HeaderNode}
    (h : Even segments.length headers) (orders : List Direction) {way : List String} :
    way ∈ ways segments.length orders (pushPath segments headers) ↔
      way = segments ∨ way ∈ ways segments.length orders headers := by
  induction segments generalizing headers orders way with
  | nil => simp [ways]
  | cons segment rest ih =>
    have below : ∀ more, more ∈ ways rest.length orders.tail
        (pushPath rest (children? (Fields.get? headers segment))) ↔
          more = rest ∨
            more ∈ ways rest.length orders.tail (children? (Fields.get? headers segment)) :=
      fun more => ih (h.children segment) orders.tail
    rw [List.length_cons, mem_ways_succ h.pushPath.1, mem_ways_succ h.1]
    constructor
    · rintro ⟨name, header, more, hget, hmore, rfl⟩
      rw [get?_pushPath h.1] at hget
      split at hget
      · next same =>
        subst same
        obtain rfl := Option.some.inj hget
        rcases (below more).mp hmore with rfl | before
        · exact .inl rfl
        · cases hold : Fields.get? headers segment with
          | some old =>
            rw [hold] at before
            exact .inr ⟨segment, old, more, hold, before, rfl⟩
          | none =>
            -- nothing was below a header that is new, so the pushed way ends here
            rw [hold] at before
            have ended := eq_zero_of_mem_ways_nil before
            have length := length_of_mem_ways before
            rw [List.eq_nil_of_length_eq_zero ended,
              List.eq_nil_of_length_eq_zero (length.trans ended)]
            exact .inl rfl
      · exact .inr ⟨name, header, more, hget, hmore, rfl⟩
    · rintro (rfl | ⟨name, header, more, hget, hmore, rfl⟩)
      · exact ⟨segment, _, rest, (get?_pushPath h.1 segment).trans (if_pos rfl),
          (below rest).mpr (.inl rfl), rfl⟩
      · by_cases same : segment = name
        · subst same
          refine ⟨segment, _, more, (get?_pushPath h.1 segment).trans (if_pos rfl),
            (below more).mpr ?_, rfl⟩
          rw [hget]
          exact .inr hmore
        · refine ⟨name, header, more, ?_, hmore, rfl⟩
          rw [get?_pushPath h.1, if_neg same, hget]

/-- The headers hold the records: there is a way down for each list of segments that occurs. -/
structure Holds (p : PivotLayout) (records : List Record) (headers : Fields HeaderNode) : Prop where
  even : Even p.columns.length headers
  present : ∀ orders way, way ∈ ways p.columns.length orders headers ↔
    ∃ r ∈ records, p.columnSegments r = way

variable {p : PivotLayout} {records : List Record} {headers : Fields HeaderNode}

theorem Holds.empty (columned : p.columns ≠ []) : Holds p [] [] where
  even := even_nil _
  present := by
    intro orders way
    have some : p.columns.length ≠ 0 := fun none => columned (List.eq_nil_of_length_eq_zero none)
    simpa using fun h => some (eq_zero_of_mem_ways_nil h)

theorem Holds.push (h : Holds p records headers) (r : Record) :
    Holds p (records ++ [r]) (pushPath (p.columnSegments r) headers) := by
  have deep : p.columns.length = (p.columnSegments r).length := (List.length_map _).symm
  obtain ⟨even, present⟩ := h
  rw [deep] at even present
  constructor
  · rw [deep]
    exact even.pushPath
  · intro orders way
    rw [deep, mem_ways_pushPath even, present]
    simp [or_comm, eq_comm]

end HeaderNode

end RecordQuery
