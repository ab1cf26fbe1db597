import Mathlib.Data.List.Forall2
import RecordQuery.Find.Request
import RecordQuery.Proofs.Value.Wrapped

/-!
# The shapes of a sort specification

An order is asked for by a list of entries, by a record of fields, or by a text that spells one of
these, and a text may spell a text again. Reading takes out one text after the other until it comes
to something else. That takes only finitely many steps, and whatever the shape, what is read is what
the record of the same fields and directions says.
-/

namespace RecordQuery

namespace SortSpec

variable {document : DocumentType}

/-- The part of a field that it is sorted by. -/
def suffix (document : DocumentType) (field : String) : String :=
  match (document.field? field).map (·.type) with
  | some "money" => ".value"
  | some "personName" => ".full"
  | _ => ""

/-- The keys to sort by. The text score is no field. -/
def settle (document : DocumentType) (asked : List SortKey) : List SortKey :=
  (asked.filter fun key => key.field ≠ "$textScore").map fun key =>
    ⟨key.field ++ suffix document key.field, key.direction⟩

/-- How a specification is read, with no bound on the texts to be taken out of each other. -/
inductive Reads (document : DocumentType) : Value → Except CompileError (List SortKey) → Prop
  | plain {v : Value} (h : v.asStr? = none) : Reads document v ((keys v).map (settle document))
  | unreadable {s : String} (h : Value.read? s = none) :
    Reads document (.str s) (.error (.invalidSort .notReadable))
  | text {s : String} {v : Value} {result : Except CompileError (List SortKey)}
    (h : Value.read? s = some v) (inside : Reads document v result) :
    Reads document (.str s) result

/-- There is at most one result. -/
theorem Reads.unique {v : Value} {first second : Except CompileError (List SortKey)}
    (h : Reads document v first) (h' : Reads document v second) : first = second := by
  induction h with
  | plain h =>
    cases h' with
    | plain _ => rfl
    | unreadable _ | text _ _ => cases h
  | unreadable h =>
    cases h' with
    | plain h' => cases h'
    | unreadable _ => rfl
    | text h' _ =>
      rw [h] at h'
      cases h'
  | text h _ ih =>
    cases h' with
    | plain h' => cases h'
    | unreadable h' =>
      rw [h] at h'
      cases h'
    | text h' inside =>
      rw [h] at h'
      obtain rfl := Option.some.inj h'
      exact ih inside

/-- The steps that a specification takes at most. -/
def steps : Value → Nat
  | .str s => s.length + 2
  | _ => 1

theorem sortField_eq (field : String) :
    sortField document field = field ++ suffix document field := by
  unfold sortField suffix
  generalize (document.field? field).map (·.type) = type
  split
  · rfl
  · rfl
  · simp

/-- What is read of the value that a number of steps lead to. -/
def readIn (steps : Nat) (v : Value) (document : DocumentType) :
    Except CompileError (List SortKey) :=
  match unwrap? steps v with
  | none => .error (.invalidSort .notReadable)
  | some spec => (keys spec).map (settle document)

theorem read_eq_readIn (v : Value) : read v document = readIn (steps v) v document := by
  have settled : ∀ spec, (do
      let found ← keys spec
      return (found.filter fun key => key.field ≠ "$textScore").map fun key =>
        { key with field := sortField document key.field } : Except CompileError (List SortKey))
      = (keys spec).map (settle document) := by
    intro spec
    simp only [sortField_eq]
    cases keys spec <;> rfl
  unfold read readIn
  simp only [settled]
  cases v <;> rfl

/-- A text takes a step, and what it spells takes fewer than it. -/
theorem reads_readIn {n : Nat} {v : Value} (enough : steps v ≤ n) :
    Reads document v (readIn n v document) := by
  induction n generalizing v with
  | zero => cases v <;> exact absurd enough (by simp [steps])
  | succ n ih =>
    cases v with
    | str s =>
      rw [readIn, unwrap?]
      cases hread : Value.read? s with
      | none => exact .unreadable hread
      | some w =>
        have fewer : steps w ≤ n := by
          cases w with
          | str t =>
            have := Value.length_lt_of_read? hread
            simp only [steps] at enough ⊢
            omega
          | _ =>
            simp only [steps] at enough ⊢
            omega
        exact .text hread (ih fewer)
    | _ => exact .plain rfl

/-- Every specification is read in finitely many steps. -/
theorem reads_iff {v : Value} {result : Except CompileError (List SortKey)} :
    Reads document v result ↔ read v document = result := by
  have reads : Reads document v (read v document) :=
    read_eq_readIn v ▸ reads_readIn (Nat.le_refl _)
  constructor
  · exact reads.unique
  · rintro rfl
    exact reads

/-- The spellings of a direction. -/
inductive Spells : Value → Direction → Prop
  | one {n : Number} (h : n.orderKey = (Number.int 1).orderKey) : Spells (.num n) .ascending
  | minusOne {n : Number} (h : n.orderKey = (Number.int (-1)).orderKey) :
    Spells (.num n) .descending
  | asc {s : String} (h : s.toLower = "asc") : Spells (.str s) .ascending
  | desc {s : String} (h : s.toLower = "desc") : Spells (.str s) .descending

theorem direction_of_spells {d : Value} {way : Direction} (h : Spells d way) :
    direction d = .ok way := by
  cases h with
  | one h | asc h => exact if_pos h
  | minusOne h =>
    have differ : (Number.int (-1)).orderKey ≠ (Number.int 1).orderKey := by decide +kernel
    simp [direction, h, differ]
  | desc h => simp [direction, h]

/-- What spells no direction is refused, and named. -/
theorem direction_of_unknown {d : Value} (h : ∀ way, ¬ Spells d way) :
    direction d = .error (.invalidSort (.unknownDirection d)) := by
  unfold direction
  split
  · split
    · exact absurd (.one ‹_›) (h _)
    · split
      · exact absurd (.minusOne ‹_›) (h _)
      · rfl
  · split
    · exact absurd (.asc ‹_›) (h _)
    · split
      · exact absurd (.desc ‹_›) (h _)
      · rfl
  · rfl

/-- An entry of a list that says both: the field, by its property or else its term, and how. -/
structure Entry (item : Value) (field : String) (d : Value) : Prop where
  named : item.get? "property" = some (.str field) ∨
    item.get? "property" = none ∧ item.get? "term" = some (.str field)
  direction : item.get? "direction" = some d

theorem entry_eq {item : Value} {field : String} {d : Value} (h : Entry item field d)
    (explicit : d ≠ .null) : entry item = (direction d).map (SortKey.mk field) := by
  have named : ((item.get? "property").or (item.get? "term")).bind Value.asStr? = some field := by
    rcases h.named with property | ⟨property, term⟩
    · simp [property, Value.asStr?]
    · simp [property, term, Value.asStr?]
  rw [entry, named, h.direction]
  cases d with
  | null => exact absurd rfl explicit
  | _ => rfl

/-- The ways to ask for an order of these fields in these directions. -/
inductive Form (written : Fields Value) : Value → Prop
  | list {items : List Value}
    (h : List.Forall₂ (fun item p => Entry item p.1 p.2) items written) : Form written (.arr items)
  | record : Form written (.obj written)
  | text {s : String} {v : Value} (h : Value.read? s = some v) (inside : Form written v) :
    Form written (.str s)

section
variable {written : Fields Value}

theorem entries_eq {items : List Value}
    (h : List.Forall₂ (fun item p => Entry item p.1 p.2) items written)
    (explicit : ∀ p ∈ written, p.2 ≠ .null) : entries items = namedEntries written := by
  induction h with
  | nil => rfl
  | @cons item p items written first _ ih =>
    have key := entry_eq first (explicit p List.mem_cons_self)
    have others := ih fun q hq => explicit q (List.mem_cons_of_mem _ hq)
    rw [entries, namedEntries, key, others]
    cases direction p.2 <;> rfl

/-- Every form is read as the record is. -/
theorem reads_of_form {v : Value} (form : Form written v) (explicit : ∀ p ∈ written, p.2 ≠ .null) :
    Reads document v ((namedEntries written).map (settle document)) := by
  induction form with
  | list h => exact entries_eq h explicit ▸ .plain rfl
  | record => exact .plain rfl
  | text h _ ih => exact .text h ih

/-- What a value asks for, it asks for in any number of texts around it. -/
theorem form_wrap {v : Value} (form : Form written v) (legible : v.ReadsBack) :
    ∀ n, Form written (Value.wrap n v)
  | 0 => form
  | n + 1 => .text (Value.readsBack_wrap legible n) (form_wrap form legible n)

/-- The list of entries that name each field by a property or by a term. -/
def listed (name : String → String) (written : Fields Value) : Value :=
  .arr (written.map fun p => .obj [(name p.1, .str p.1), ("direction", p.2)])

theorem form_listed {name : String → String}
    (named : ∀ p ∈ written, name p.1 = "property" ∨ name p.1 = "term") :
    Form written (listed name written) := by
  refine .list ?_
  rw [List.forall₂_map_left_iff, List.forall₂_same]
  intro p hp
  rcases named p hp with property | term
  · rw [property]
    exact ⟨.inl rfl, rfl⟩
  · rw [term]
    exact ⟨.inr ⟨rfl, rfl⟩, rfl⟩

/-- A list of entries is two levels deeper than its directions. -/
theorem legible_listed {name : String → String} {deepest : Nat}
    (named : ∀ p ∈ written, name p.1 = "property" ∨ name p.1 = "term")
    (legible : ∀ p ∈ written, p.2.Legible deepest) :
    (listed name written).Legible (deepest + 2) := by
  refine Value.legible_list fun p hp => Value.legible_obj ?_ ?_
  · rcases named p hp with h | h <;> simp [Fields.names, h]
  · simpa using legible p hp

/-- These keys are what is written, each with its direction spelled. -/
def Spelled (written : Fields Value) (asked : List SortKey) : Prop :=
  List.Forall₂ (fun p key => p.1 = key.field ∧ Spells p.2 key.direction) written asked

/-- The first direction that is unknown. -/
def FirstUnknown (written : Fields Value) (d : Value) : Prop :=
  ∃ before field after, written = before ++ (field, d) :: after ∧
    (∃ asked, Spelled before asked) ∧ ∀ way, ¬ Spells d way

theorem namedEntries_of_spelled {asked : List SortKey} (h : Spelled written asked) :
    namedEntries written = .ok asked := by
  induction h with
  | nil => rfl
  | cons first _ ih =>
    obtain ⟨named, spelled⟩ := first
    rw [namedEntries, direction_of_spells spelled, ih, named]
    rfl

theorem namedEntries_of_firstUnknown {d : Value} (h : FirstUnknown written d) :
    namedEntries written = .error (.invalidSort (.unknownDirection d)) := by
  obtain ⟨before, field, after, rfl, ⟨asked, spelled⟩, unknown⟩ := h
  induction spelled with
  | nil =>
    rw [List.nil_append, namedEntries, direction_of_unknown unknown]
    rfl
  | cons first _ ih =>
    rw [List.cons_append, namedEntries, direction_of_spells first.2, ih]
    rfl

/-- All directions are spelled, or one is the first that is not. -/
theorem spelled_or_firstUnknown :
    ∀ written : Fields Value, (∃ asked, Spelled written asked) ∨ ∃ d, FirstUnknown written d
  | [] => .inl ⟨[], .nil⟩
  | (field, d) :: rest => by
    by_cases known : ∃ way, Spells d way
    · obtain ⟨way, spells⟩ := known
      rcases spelled_or_firstUnknown rest with ⟨asked, spelled⟩ | ⟨d', before, name, after, rfl, h⟩
      · exact .inl ⟨⟨field, way⟩ :: asked, .cons ⟨rfl, spells⟩ spelled⟩
      · obtain ⟨⟨asked, spelled⟩, unknown⟩ := h
        exact .inr ⟨d', (field, d) :: before, name, after, rfl,
          ⟨⟨field, way⟩ :: asked, .cons ⟨rfl, spells⟩ spelled⟩, unknown⟩
    · exact .inr ⟨d, [], field, rest, rfl, ⟨[], .nil⟩, not_exists.mp known⟩

end

/-- Every specification is read in finitely many steps: a text that another spells is shorter. A
list of entries, a record and any text around them, as long as each direction is given, lead to the
same keys if they spell the same directions, and else to the same fault. The list and the record are
read back from the texts around them if their directions would be. -/
theorem shapes_agree (document : DocumentType) :
    (∀ v result, Reads document v result ↔ read v document = result) ∧
    (∀ s t, Value.read? s = some (.str t) → t.length < s.length) ∧
    ∀ written : Fields Value, (Fields.names written).Nodup → (∀ p ∈ written, p.2 ≠ .null) →
      ((∃ asked, Spelled written asked) ∨ ∃ d, FirstUnknown written d) ∧
      (∀ v, Form written v →
        (∀ asked, Spelled written asked → read v document = .ok (settle document asked)) ∧
        (∀ d, FirstUnknown written d →
          read v document = .error (.invalidSort (.unknownDirection d))) ∧
        (v.ReadsBack → ∀ n, Form written (Value.wrap n v))) ∧
      ((∀ p ∈ written, p.2.Legible 125) → (Value.obj written).ReadsBack ∧
        ∀ name : String → String, (∀ p ∈ written, name p.1 = "property" ∨ name p.1 = "term") →
          Form written (listed name written) ∧ (listed name written).ReadsBack) := by
  refine ⟨fun _ _ => reads_iff, fun _ _ => Value.length_lt_of_read?, ?_⟩
  intro written once explicit
  refine ⟨spelled_or_firstUnknown written, fun v form => ?_, fun legible => ⟨?_, ?_⟩⟩
  · have hread : read v document = (namedEntries written).map (settle document) :=
      reads_iff.mp (reads_of_form form explicit)
    refine ⟨fun asked spelled => ?_, fun d unknown => ?_, form_wrap form⟩
    · rw [hread, namedEntries_of_spelled spelled]
      rfl
    · rw [hread, namedEntries_of_firstUnknown unknown]
      rfl
  · exact (Value.legible_obj once legible).readsBack (by decide)
  · intro name named
    exact ⟨form_listed named, (legible_listed named legible).readsBack (by decide)⟩

/-- Sorted by the value of the amount and by the name of the customer. -/
def offers : DocumentType :=
  ⟨"Offer", [], [("amount", ⟨"amount", "money", none, false, [], [], [], []⟩),
    ("customer", ⟨"customer", "personName", none, false, [], [], [], []⟩)]⟩

/-- The list of entries within two texts gives what the record gives, and an unknown direction is
refused within a text too. -/
theorem shapes_agree_offers :
    let written : Fields Value :=
      [("amount", .str "DESC"), ("$textScore", .nat 1), ("customer", .nat 1)]
    let asked : List SortKey := [⟨"amount.value", .descending⟩, ⟨"customer.full", .ascending⟩]
    let unknown : Fields Value := [("amount", .str "up")]
    read (.obj written) offers = .ok asked ∧
    read (Value.wrap 2 (listed (fun _ => "property") written)) offers = .ok asked ∧
    read (Value.wrap 1 (.obj unknown)) offers
      = .error (.invalidSort (.unknownDirection (.str "up"))) := by
  intro written asked unknown
  obtain ⟨_, _, shapes⟩ := shapes_agree offers
  obtain ⟨_, known, legible⟩ := shapes written (by decide) (by simp [written, Value.nat])
  obtain ⟨_, refused, printed⟩ := shapes unknown (by decide) (by simp [unknown])
  have spelled : Spelled written [⟨"amount", .descending⟩, ⟨"$textScore", .ascending⟩,
      ⟨"customer", .ascending⟩] :=
    .cons ⟨rfl, .desc (by decide +kernel)⟩ (.cons ⟨rfl, .one rfl⟩ (.cons ⟨rfl, .one rfl⟩ .nil))
  have settled : settle offers [⟨"amount", .descending⟩, ⟨"$textScore", .ascending⟩,
      ⟨"customer", .ascending⟩] = asked := by decide
  have first : FirstUnknown unknown (.str "up") := by
    refine ⟨[], "amount", [], rfl, ⟨[], .nil⟩, ?_⟩
    rintro way (_ | _ | h | h) <;> exact absurd h (by decide +kernel)
  have one : (Value.nat 1).Legible 125 := Value.legible_nat (by decide)
  obtain ⟨_, lists⟩ := legible (by simp [written, one])
  obtain ⟨form, readable⟩ := lists (fun _ => "property") fun _ _ => .inl rfl
  have list := (known _ form).2.2 readable 2
  have text := (refused _ .record).2.2 (printed (by simp [unknown])).1 1
  exact ⟨settled ▸ (known _ .record).1 _ spelled, settled ▸ (known _ list).1 _ spelled,
    (refused _ text).2.1 _ first⟩

end SortSpec

end RecordQuery
