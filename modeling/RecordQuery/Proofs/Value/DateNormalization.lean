import RecordQuery.Value.NativeDate

/-!
# What normalization makes of dates

Every native date gives way to its text and everything else stays as it is. A text may complete a
date around it: a record whose only entry is `$date` is no date while that entry is one itself, and
becomes a date when the entry becomes a text. Such dates are what normalization leaves, and where
they are a second pass goes on.
-/

namespace RecordQuery

namespace Value

/-- The items of a list or the values of a record, in order. -/
def parts : Value → List Value
  | arr items => items
  | obj fields => fields.map (·.2)
  | _ => []

/-- The part at a place. A place names the position to enter at each depth. -/
def at? : Value → List Nat → Option Value
  | v, [] => some v
  | v, n :: place => v.parts[n]?.bind fun part => at? part place

/-- The part at a place outside all native dates. -/
def seen? : Value → List Nat → Option Value
  | v, [] => some v
  | v, n :: place => if v.isDate then none else v.parts[n]?.bind fun part => seen? part place

/-- A value without its parts: a list keeps its length, a record its names and their order, and a
scalar is all there. -/
def shell : Value → Value
  | arr items => arr (items.map fun _ => null)
  | obj fields => obj (fields.map fun entry => (entry.1, null))
  | v => v

/-- What normalization shows of a value, its parts aside. -/
def normalShell (v : Value) : Value :=
  match v.asDate? with
  | some t => str t.text
  | none => v.shell

/-- The instant of a `$date` around a native date, once the inner date is a text. Texts of years
beyond four digits are not read. -/
def wrappedDate? : Value → Option Instant
  | obj [(name, v)] =>
    if name = dateName then v.asDate?.bind fun t => Instant.read? t.text else none
  | _ => none

theorem normalizeDates_of_date {v : Value} {t : Instant} (h : v.asDate? = some t) :
    v.normalizeDates = str t.text := by
  cases v with
  | obj fields => simp [normalizeDates, h]
  | _ => simp [asDate?] at h

theorem normalizeDates_obj {fields : List (String × Value)} (h : (obj fields).asDate? = none) :
    (obj fields).normalizeDates = obj (normalizeDatesFields fields) := by
  simp [normalizeDates, h]

theorem normalizeDatesList_eq_map (items : List Value) :
    normalizeDatesList items = items.map normalizeDates := by
  induction items with
  | nil => rfl
  | cons v rest ih => rw [normalizeDatesList, ih, List.map_cons]

theorem normalizeDatesFields_eq_map (fields : List (String × Value)) :
    normalizeDatesFields fields = fields.map fun entry => (entry.1, entry.2.normalizeDates) := by
  induction fields with
  | nil => rfl
  | cons entry rest ih => rw [normalizeDatesFields, ih, List.map_cons]

theorem parts_normalizeDates {v : Value} (h : v.asDate? = none) :
    v.normalizeDates.parts = v.parts.map normalizeDates := by
  cases v with
  | arr items => exact normalizeDatesList_eq_map items
  | obj fields =>
    rw [normalizeDates_obj h, parts, parts, normalizeDatesFields_eq_map]
    simp
  | _ => rfl

theorem shell_normalizeDates (v : Value) : v.normalizeDates.shell = v.normalShell := by
  unfold normalShell
  cases h : v.asDate? with
  | some t => simp [normalizeDates_of_date h, shell]
  | none =>
    cases v with
    | arr items => simp [normalizeDates, shell, normalizeDatesList_eq_map, Function.comp_def]
    | obj fields =>
      simp [normalizeDates_obj h, shell, normalizeDatesFields_eq_map, Function.comp_def]
    | _ => rfl

/-- What is inside a record with the name of a date decides whether it is one: a text, a number or,
after normalization, what was a date. -/
theorem asDate?_entry_normalizeDates {v : Value} (h : (obj [(dateName, v)]).asDate? = none) :
    (obj [(dateName, v.normalizeDates)]).asDate?
      = v.asDate?.bind fun t => Instant.read? t.text := by
  cases hv : v.asDate? with
  | some t => simp [normalizeDates_of_date hv, asDate?]
  | none =>
    cases v with
    | obj fields => simp [normalizeDates_obj hv, asDate?, asInt?]
    | arr items => simp [normalizeDates, asDate?, asInt?]
    | _ => simpa [normalizeDates] using h

/-- No date is the only entry of another. -/
theorem asDate?_of_entry {v : Value} {t : Instant} (h : (obj [(dateName, v)]).asDate? = some t) :
    v.asDate? = none := by
  cases v with
  | obj fields => simp [asDate?, asInt?] at h
  | _ => rfl

/-- A value is a date after normalization exactly if it was a `$date` around a date. -/
theorem asDate?_normalizeDates (v : Value) : v.normalizeDates.asDate? = v.wrappedDate? := by
  cases v with
  | obj fields =>
    match fields with
    | [] => rfl
    | [(name, v)] =>
      by_cases hname : name = dateName
      · subst hname
        rw [wrappedDate?, if_pos rfl]
        cases h : (obj [(dateName, v)]).asDate? with
        | some t =>
          rw [normalizeDates_of_date h, asDate?_of_entry h]
          rfl
        | none =>
          rw [normalizeDates_obj h]
          exact asDate?_entry_normalizeDates h
      · have h : ∀ w, (obj [(name, w)]).asDate? = none := by
          intro w
          simp [asDate?, hname]
        rw [normalizeDates_obj (h v), wrappedDate?, if_neg hname]
        exact h v.normalizeDates
    | first :: second :: rest =>
      rw [normalizeDates_obj (by simp [asDate?])]
      simp [normalizeDatesFields, asDate?, wrappedDate?]
  | _ => rfl

/-- Each place outside the dates holds what was there, normalized; the places inside them are
gone. -/
theorem at?_normalizeDates (v : Value) (place : List Nat) :
    v.normalizeDates.at? place = (v.seen? place).map normalizeDates := by
  induction place generalizing v with
  | nil => rfl
  | cons n place ih =>
    rw [at?, seen?, isDate]
    cases h : v.asDate? with
    | some t => simp [normalizeDates_of_date h, parts]
    | none =>
      rw [parts_normalizeDates h, List.getElem?_map]
      cases v.parts[n]? with
      | none => simp
      | some part => simp [ih]

/-- No place holds a native date. -/
def NoDates (v : Value) : Prop := ∀ place, (v.at? place).bind asDate? = none

theorem NoDates.part {v part : Value} (h : v.NoDates) (hpart : part ∈ v.parts) : part.NoDates := by
  intro place
  obtain ⟨n, hn⟩ := List.getElem?_of_mem hpart
  simpa [at?, hn] using h (n :: place)

mutual
/-- Where there is no date, normalization changes nothing. -/
theorem normalizeDates_of_noDates : ∀ {v : Value}, v.NoDates → v.normalizeDates = v
  | null, _ | bool _, _ | num _, _ | str _, _ => rfl
  | arr items, h => by
    rw [normalizeDates, normalizeDatesList_of_noDates fun v (hv : v ∈ items) => h.part hv]
  | obj fields, h => by
    have hdate : (obj fields).asDate? = none := h []
    rw [normalizeDates_obj hdate, normalizeDatesFields_of_noDates fun entry hentry =>
      h.part (List.mem_map_of_mem hentry)]

theorem normalizeDatesList_of_noDates : ∀ {items : List Value}, (∀ v ∈ items, v.NoDates) →
    normalizeDatesList items = items
  | [], _ => rfl
  | v :: rest, h => by
    rw [normalizeDatesList, normalizeDates_of_noDates (h v List.mem_cons_self),
      normalizeDatesList_of_noDates fun w hw => h w (List.mem_cons_of_mem _ hw)]

theorem normalizeDatesFields_of_noDates : ∀ {fields : List (String × Value)},
    (∀ entry ∈ fields, entry.2.NoDates) → normalizeDatesFields fields = fields
  | [], _ => rfl
  | (name, v) :: rest, h => by
    rw [normalizeDatesFields, normalizeDates_of_noDates (h (name, v) List.mem_cons_self),
      normalizeDatesFields_of_noDates fun entry hentry => h entry (List.mem_cons_of_mem _ hentry)]
end

/-- A date does not stay as it is. -/
theorem asDate?_of_normalizeDates {v : Value} (h : v.normalizeDates = v) : v.asDate? = none := by
  cases hdate : v.asDate? with
  | none => rfl
  | some t =>
    have htext : v = str t.text := h.symm.trans (normalizeDates_of_date hdate)
    rw [htext] at hdate
    simp [asDate?] at hdate

/-- What normalization leaves as it is holds no date. -/
theorem noDates_of_normalizeDates {v : Value} (h : v.normalizeDates = v) : v.NoDates := by
  intro place
  have hdate := asDate?_of_normalizeDates h
  induction place generalizing v with
  | nil => simpa [at?] using hdate
  | cons n place ih =>
    rw [at?]
    cases hpart : v.parts[n]? with
    | none => rfl
    | some part =>
      have hparts := parts_normalizeDates hdate
      rw [h] at hparts
      have hsame : part.normalizeDates = part := by
        have := congrArg (·[n]?) hparts
        simpa [hpart, eq_comm] using this
      exact ih hsame (asDate?_of_normalizeDates hsame)

/-- A second pass changes nothing exactly if the first one leaves no date. -/
theorem normalizeDates_eq_self_iff {v : Value} : v.normalizeDates = v ↔ v.NoDates :=
  ⟨noDates_of_normalizeDates, normalizeDates_of_noDates⟩

end Value

namespace Record

/-- The value at a place, which begins with the position of an entry. -/
def at? (r : Record) : List Nat → Option Value
  | [] => none
  | n :: place => r[n]?.bind fun entry => entry.2.at? place

/-- The value at a place outside all native dates. -/
def seen? (r : Record) : List Nat → Option Value
  | [] => none
  | n :: place => r[n]?.bind fun entry => entry.2.seen? place

theorem normalizeDates_eq_map (r : Record) :
    r.normalizeDates = r.map fun entry => (entry.1, entry.2.normalizeDates) :=
  Value.normalizeDatesFields_eq_map r

theorem at?_normalizeDates (r : Record) (place : List Nat) :
    r.normalizeDates.at? place = (r.seen? place).map Value.normalizeDates := by
  cases place with
  | nil => rfl
  | cons n place =>
    rw [at?, seen?, normalizeDates_eq_map, List.getElem?_map]
    cases r[n]? with
    | none => rfl
    | some entry => exact Value.at?_normalizeDates entry.2 place

/-- A record is its own normalization exactly if no place holds a date. -/
theorem normalizeDates_eq_self_iff {r : Record} :
    r.normalizeDates = r ↔ ∀ place, (r.at? place).bind Value.asDate? = none := by
  have hentries : r.normalizeDates = r ↔ ∀ entry ∈ r, entry.2.NoDates := by
    constructor
    · intro h entry hentry
      obtain ⟨n, hn⟩ := List.getElem?_of_mem hentry
      have hsame := congrArg (·[n]?) h
      rw [normalizeDates_eq_map] at hsame
      simp only [List.getElem?_map, hn, Option.map_some, Option.some.injEq] at hsame
      exact Value.normalizeDates_eq_self_iff.mp (congrArg Prod.snd hsame)
    · exact Value.normalizeDatesFields_of_noDates
  rw [hentries]
  constructor
  · intro h place
    cases place with
    | nil => rfl
    | cons n place =>
      rw [at?]
      cases hentry : r[n]? with
      | none => rfl
      | some entry => exact h entry (List.mem_of_getElem? hentry) place
  · intro h entry hentry place
    obtain ⟨n, hn⟩ := List.getElem?_of_mem hentry
    simpa [at?, hn] using h (n :: place)

/-- Normalization puts the text of its instant in the place of each native date and keeps the names
of the record and all that is outside the dates. A date is left exactly where a `$date` stood
around a native date, and a second pass changes nothing exactly if there was no such place. -/
theorem normalizeDates_replaces (r : Record) :
    Fields.names r.normalizeDates = Fields.names r ∧
    (∀ place, (r.normalizeDates.at? place).map Value.shell
      = (r.seen? place).map Value.normalShell) ∧
    (∀ place, (r.normalizeDates.at? place).bind Value.asDate?
      = (r.seen? place).bind Value.wrappedDate?) ∧
    (r.normalizeDates.normalizeDates = r.normalizeDates ↔
      ∀ place, (r.seen? place).bind Value.wrappedDate? = none) := by
  have hdates : ∀ place, (r.normalizeDates.at? place).bind Value.asDate?
      = (r.seen? place).bind Value.wrappedDate? := by
    intro place
    rw [at?_normalizeDates, Option.bind_map]
    congr 1
    funext v
    exact Value.asDate?_normalizeDates v
  refine ⟨?_, ?_, hdates, ?_⟩
  · simp [Fields.names, normalizeDates_eq_map]
  · intro place
    rw [at?_normalizeDates, Option.map_map]
    congr 1
    funext v
    exact Value.shell_normalizeDates v
  · rw [normalizeDates_eq_self_iff]
    simp only [hdates]

end Record

namespace Deals

/-- A deal whose date is the only entry of another one. -/
def wrappedDeal : Record :=
  [("_id", .str "d1"),
    ("closedAt", .obj [("$date", .obj [("$date", .str "2024-01-15T10:00:00Z")])])]

end Deals

/-- The inner date becomes a text and so completes the outer one, which is left as a native date
until a second pass. -/
theorem Record.normalizeDates_leaves_wrapped :
    (∃ place, ((Deals.wrappedDeal.normalizeDates.at? place).bind Value.asDate?).isSome) ∧
    Deals.wrappedDeal.normalizeDates.normalizeDates ≠ Deals.wrappedDeal.normalizeDates := by
  have hplace : ((Deals.wrappedDeal.normalizeDates.at? [1]).bind Value.asDate?).isSome := by
    rw [at?_normalizeDates]
    decide +kernel
  refine ⟨⟨[1], hplace⟩, ?_⟩
  intro h
  have hnone := normalizeDates_eq_self_iff.mp h [1]
  rw [hnone] at hplace
  simp at hplace

end RecordQuery
