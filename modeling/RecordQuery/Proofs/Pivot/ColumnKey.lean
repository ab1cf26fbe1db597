import RecordQuery.Pivot.Dimension

/-!
# Keys of columns and keys of headers

The key of a column joins its escaped segments, so it tells them all. The key of a header is built
level by level, and a level counts as the first as long as the key above it is empty: the empty
segments in front leave no separator behind. Header keys of one depth are still different, but they
are keys of columns only where the first of several segments is not empty.
-/

namespace RecordQuery

namespace ColumnKey

/-- What stands behind the first segment of a key. -/
def further (segments : List String) : List Char :=
  segments.flatMap fun segment => separator :: escape segment.toList

theorem toList_escapeText (segment : String) : (escapeText segment).toList = escape segment.toList :=
  String.toList_ofList

theorem further_cons (segment : String) (rest : List String) :
    further (segment :: rest) = separator :: (escape segment.toList ++ further rest) := by
  simp [further]

theorem toList_ofSegments (first : String) (rest : List String) :
    (ofSegments (first :: rest)).toList = escape first.toList ++ further rest := by
  have joined : ofSegments (first :: rest)
      = (String.singleton separator).intercalate ((first :: rest).map escapeText) := rfl
  rw [joined]
  induction rest generalizing first with
  | nil => simp [further, toList_escapeText]
  | cons second more ih =>
    have shorter := ih second rfl
    rw [List.map_cons] at shorter
    rw [List.map_cons, List.map_cons, String.intercalate_cons_cons, String.toList_append, shorter,
      further_cons]
    simp [toList_escapeText]

theorem escape_eq_nil_iff {chars : List Char} : escape chars = [] ↔ chars = [] := by
  cases chars with
  | nil => simp [escape]
  | cons c rest =>
    rw [escape]
    split <;> simp

theorem escapeText_ne_empty {segment : String} (h : segment ≠ "") : escapeText segment ≠ "" := by
  intro empty
  have chars := congrArg String.toList empty
  rw [toList_escapeText] at chars
  exact h (String.toList_inj.mp (escape_eq_nil_iff.mp chars))

/-- What is escaped does not begin with a separator. -/
theorem escape_cons (c : Char) (rest : List Char) :
    ∃ first more, escape (c :: rest) = first :: more ∧ first ≠ separator := by
  rw [escape]
  split
  · exact ⟨'\\', _, rfl, by decide⟩
  · next plain => exact ⟨c, _, rfl, fun h => plain (.inr h)⟩

/-- The end of a segment: the end of the key or a separator. -/
def Boundary (chars : List Char) : Prop := ∀ c more, chars = c :: more → c = separator

theorem boundary_further (segments : List String) : Boundary (further segments) := by
  intro c more h
  cases segments with
  | nil => cases h
  | cons segment rest =>
    rw [further_cons] at h
    exact (List.cons.inj h).1.symm

/-- An escaped segment ends where the next separator stands that is not escaped. -/
theorem escape_append_inj {a b x y : List Char} (hx : Boundary x) (hy : Boundary y)
    (h : escape a ++ x = escape b ++ y) : a = b ∧ x = y := by
  induction a generalizing b with
  | nil =>
    cases b with
    | nil => exact ⟨rfl, h⟩
    | cons d b' =>
      obtain ⟨first, more, escaped, inside⟩ := escape_cons d b'
      rw [escaped] at h
      exact absurd (hx first _ h) inside
  | cons c a' ih =>
    cases b with
    | nil =>
      obtain ⟨first, more, escaped, inside⟩ := escape_cons c a'
      rw [escaped] at h
      exact absurd (hy first _ h.symm) inside
    | cons d b' =>
      rw [escape, escape] at h
      split at h
      · split at h
        · obtain ⟨sameFirst, others⟩ := List.cons.inj (List.cons.inj h).2
          obtain ⟨sameRest, same⟩ := ih others
          exact ⟨by rw [sameFirst, sameRest], same⟩
        · next plain => exact absurd (.inl (List.cons.inj h).1.symm) plain
      · split at h
        · next plain _ => exact absurd (.inl (List.cons.inj h).1) plain
        · obtain ⟨sameFirst, others⟩ := List.cons.inj h
          obtain ⟨sameRest, same⟩ := ih others
          exact ⟨by rw [sameFirst, sameRest], same⟩

theorem further_injective {a b : List String} (h : further a = further b) : a = b := by
  induction a generalizing b with
  | nil =>
    cases b with
    | nil => rfl
    | cons d b' => rw [further_cons] at h; cases h
  | cons c a' ih =>
    cases b with
    | nil => rw [further_cons] at h; cases h
    | cons d b' =>
      rw [further_cons, further_cons] at h
      obtain ⟨same, rest⟩ :=
        escape_append_inj (boundary_further a') (boundary_further b') (List.cons.inj h).2
      rw [String.toList_inj.mp same, ih rest]

theorem ofSegments_ne_empty {first : String} (h : first ≠ "") (rest : List String) :
    ofSegments (first :: rest) ≠ "" := by
  intro empty
  have chars := congrArg String.toList empty
  rw [toList_ofSegments] at chars
  have nothing := escape_eq_nil_iff.mp (List.append_eq_nil_iff.mp chars).1
  exact h (String.toList_inj.mp nothing)

/-- The key of a column tells its segments. -/
theorem ofSegments_injective {c d : String} {a b : List String}
    (h : ofSegments (c :: a) = ofSegments (d :: b)) : c :: a = d :: b := by
  have chars := congrArg String.toList h
  rw [toList_ofSegments, toList_ofSegments] at chars
  obtain ⟨same, rest⟩ := escape_append_inj (boundary_further a) (boundary_further b) chars
  rw [String.toList_inj.mp same, further_injective rest]

/-- The key of a header below another. Above the first level stands the empty key. -/
def below (above segment : String) : String :=
  if above = "" then escapeText segment
  else above ++ String.singleton separator ++ escapeText segment

/-- The key of the header that some segments lead to. -/
def ofHeader (segments : List String) : String := segments.foldl below ""

theorem toList_foldl_below {above : String} (h : above ≠ "") (segments : List String) :
    (segments.foldl below above).toList = above.toList ++ further segments := by
  induction segments generalizing above with
  | nil => simp [further]
  | cons segment rest ih =>
    have next : (below above segment).toList
        = above.toList ++ separator :: escape segment.toList := by
      simp [below, h, toList_escapeText]
    have nonempty : below above segment ≠ "" := by
      intro empty
      rw [empty] at next
      simp at next
    rw [List.foldl_cons, ih nonempty, next, further_cons]
    simp

/-- A header's key is the key of its segments without the empty ones in front, and empty if there
are no others. -/
theorem ofHeader_eq (segments : List String) :
    ofHeader segments = match segments.dropWhile (· = "") with
      | [] => ""
      | first :: rest => ofSegments (first :: rest) := by
  induction segments with
  | nil => rfl
  | cons segment rest ih =>
    by_cases empty : segment = ""
    · subst empty
      exact ih
    · have kept : (segment :: rest).dropWhile (· = "") = segment :: rest := by simp [empty]
      rw [kept]
      apply String.toList_inj.mp
      rw [toList_ofSegments, ← toList_escapeText]
      exact toList_foldl_below (escapeText_ne_empty empty) rest

theorem ne_of_dropWhile {segments : List String} {first : String} {rest : List String}
    (h : segments.dropWhile (· = "") = first :: rest) : first ≠ "" := by
  have kept := List.head?_dropWhile_not (· = "") segments
  rw [h] at kept
  simpa using kept

/-- Header keys do not begin with a separator. -/
theorem head?_ofHeader (segments : List String) :
    (ofHeader segments).toList.head? ≠ some separator := by
  rw [ofHeader_eq]
  cases shown : segments.dropWhile (· = "") with
  | nil => simp
  | cons first rest =>
    have nonempty : first.toList ≠ [] := fun h =>
      ne_of_dropWhile shown (String.toList_inj.mp h)
    obtain ⟨c, chars, hchars⟩ := List.exists_cons_of_ne_nil nonempty
    obtain ⟨d, more, escaped, inside⟩ := escape_cons c chars
    dsimp only
    rw [toList_ofSegments, hchars, escaped]
    simpa using inside

/-- The key of a header is that of a column if there is one segment or the first is not empty. -/
theorem ofHeader_eq_ofSegments {first : String} {rest : List String}
    (h : rest = [] ∨ first ≠ "") : ofHeader (first :: rest) = ofSegments (first :: rest) := by
  rw [ofHeader_eq]
  by_cases empty : first = ""
  · obtain rfl := h.resolve_right fun nonempty => nonempty empty
    subst empty
    rfl
  · simp [empty]

/-- The key of a column with an empty first segment and others behind it is no header's. -/
theorem ofHeader_ne_ofSegments (other : List String) {rest : List String} (several : rest ≠ []) :
    ofHeader other ≠ ofSegments ("" :: rest) := by
  obtain ⟨second, more, rfl⟩ := List.exists_cons_of_ne_nil several
  intro same
  have leading := head?_ofHeader other
  rw [same, toList_ofSegments, further_cons] at leading
  exact leading rfl

/-- Only empty segments are dropped, so the others and the depth tell how many there were. -/
theorem eq_replicate_append_dropWhile (segments : List String) :
    segments = List.replicate (segments.length - (segments.dropWhile (· = "")).length) ""
      ++ segments.dropWhile (· = "") := by
  have parts := List.takeWhile_append_dropWhile (p := (· = "")) (l := segments)
  have blank : segments.takeWhile (· = "")
      = List.replicate (segments.takeWhile (· = "")).length "" :=
    List.eq_replicate_of_mem fun segment h => by
      simpa using List.all_eq_true.mp List.all_takeWhile segment h
  have lengths := congrArg List.length parts
  rw [List.length_append] at lengths
  have front : segments.length - (segments.dropWhile (· = "")).length
      = (segments.takeWhile (· = "")).length := by omega
  rw [front, ← blank, parts]

/-- The keys of two headers of one depth are different. -/
theorem ofHeader_inj {a b : List String} (deep : a.length = b.length)
    (h : ofHeader a = ofHeader b) : a = b := by
  have shown : a.dropWhile (· = "") = b.dropWhile (· = "") := by
    rw [ofHeader_eq, ofHeader_eq] at h
    cases ha : a.dropWhile (· = "") with
    | nil =>
      cases hb : b.dropWhile (· = "") with
      | nil => rfl
      | cons d b' =>
        rw [ha, hb] at h
        exact absurd h.symm (ofSegments_ne_empty (ne_of_dropWhile hb) b')
    | cons c a' =>
      cases hb : b.dropWhile (· = "") with
      | nil =>
        rw [ha, hb] at h
        exact absurd h (ofSegments_ne_empty (ne_of_dropWhile ha) a')
      | cons d b' =>
        rw [ha, hb] at h
        exact ofSegments_injective h
  rw [eq_replicate_append_dropWhile a, eq_replicate_append_dropWhile b, shown, deep]

end ColumnKey

end RecordQuery
