import Mathlib.Data.List.Forall2
import RecordQuery.Find.Transform
import RecordQuery.Proofs.Outcome
import RecordQuery.Proofs.Value.Fields

/-!
# What populating a record changes

A lookup is filled in its own field alone, and there in the records whose identifier is found. Each
of them takes from the referenced record what the lookup asks for and keeps the rest, its identifier
included, so what is filled once is found again and filled with the same.
-/

namespace RecordQuery

namespace Fields

variable {α : Type}

theorem names_insert_of_get? {fields : Fields α} {name : String} {old : α}
    (h : get? fields name = some old) (v : α) : names (insert fields name v) = names fields := by
  induction fields with
  | nil => simp at h
  | cons entry rest ih =>
    obtain ⟨other, w⟩ := entry
    by_cases hn : other = name
    · simp [insert, names, hn]
    · rw [get?_cons, if_neg hn] at h
      simpa [insert, names, hn] using ih h

end Fields

namespace Store

/-- A record found by an identifier has that identifier. -/
def FindsById (store : Store) : Prop :=
  ∀ document id r, store.findById document id = .ok (some r) →
    Fields.get? r "_id" = some (.str id)

end Store

theorem Memory.findsById (m : Memory) : m.store.FindsById := by
  intro document id r h
  simpa using List.find?_some (Except.ok.inj h)

namespace Populate

/-- A record with the asked parts of the referenced one, in the place of its own or beside them. -/
structure Merged (referenced : Record) (details : List String) (target filled : Record) : Prop where
  get?_eq : ∀ name, Fields.get? filled name =
    if name ∈ details.map Path.root ∧ Fields.contains referenced name = true then
      Fields.get? referenced name
    else Fields.get? target name
  identifier : Fields.get? filled "_id" = Fields.get? target "_id"

/-- A record inside a lookup's field, before and after. Only one whose identifier is found
changes. -/
inductive Fills (store : Store) (lookup : DetailLookup) : Record → Record → Prop
  | found {id : String} {referenced target filled : Record}
      (identified : Fields.get? target "_id" = some (.str id))
      (finds : store.findById lookup.document id = .ok (some referenced))
      (merged : Merged referenced lookup.details target filled) : Fills store lookup target filled
  | missing {target : Record}
      (absent : ∀ id, Fields.get? target "_id" = some (.str id) →
        store.findById lookup.document id = .ok none) : Fills store lookup target target

/-- An item of a list in a lookup's field. -/
inductive FillsItem (store : Store) (lookup : DetailLookup) : Value → Value → Prop
  | record {target filled : Record} (fills : Fills store lookup target filled) :
      FillsItem store lookup (.obj target) (.obj filled)
  | other {v : Value} (noRecord : v.isRecord = false) : FillsItem store lookup v v

/-- The value of a lookup's field: a record, a list that keeps its length and order, or something
that stays as it is. -/
inductive FillsValue (store : Store) (lookup : DetailLookup) : Value → Value → Prop
  | record {target filled : Record} (fills : Fills store lookup target filled) :
      FillsValue store lookup (.obj target) (.obj filled)
  | list {items filled : List Value} (fills : items.Forall₂ (FillsItem store lookup) filled) :
      FillsValue store lookup (.arr items) (.arr filled)
  | other {v : Value} (noRecord : v.isRecord = false) (noList : v.asList? = none) :
      FillsValue store lookup v v

section
variable {store : Store} {lookup : DetailLookup}

/-- One asked part, copied where the referenced record has it. -/
def copyDetail (referenced : Record) (detail : String) (target : Record) : Record :=
  match Fields.get? referenced (Path.root detail) with
  | some v => Fields.insert target (Path.root detail) v
  | none => target

theorem copyDetails_cons (referenced : Record) (detail : String) (rest : List String)
    (target : Record) :
    copyDetails referenced (detail :: rest) target
      = copyDetails referenced rest (copyDetail referenced detail target) := rfl

theorem get?_copyDetails (referenced : Record) (details : List String) (target : Record)
    (name : String) :
    Fields.get? (copyDetails referenced details target) name =
      if name ∈ details.map Path.root ∧ Fields.contains referenced name = true then
        Fields.get? referenced name
      else Fields.get? target name := by
  rw [Fields.contains_eq_isSome]
  induction details generalizing target with
  | nil => simp [copyDetails]
  | cons detail rest ih =>
    rw [copyDetails_cons, ih]
    simp only [List.map_cons, List.mem_cons]
    cases hdetail : Fields.get? referenced (Path.root detail) with
    | none =>
      by_cases hname : name = Path.root detail
      · simp [copyDetail, hname, hdetail]
      · simp [copyDetail, hdetail, hname]
    | some v =>
      simp only [copyDetail, hdetail, Fields.get?_insert]
      by_cases hname : Path.root detail = name
      · subst hname
        simp [hdetail]
      · simp [hname, Ne.symm hname]

/-- What has been copied is not copied again. -/
theorem copyDetails_of_copied {referenced : Record} {details : List String} {done : Record}
    (copied : ∀ detail ∈ details, ∀ v, Fields.get? referenced (Path.root detail) = some v →
      Fields.get? done (Path.root detail) = some v) :
    copyDetails referenced details done = done := by
  induction details with
  | nil => rfl
  | cons detail rest ih =>
    have same : copyDetail referenced detail done = done := by
      cases hdetail : Fields.get? referenced (Path.root detail) with
      | none => simp [copyDetail, hdetail]
      | some v =>
        simp [copyDetail, hdetail,
          Fields.insert_get?_self (copied detail List.mem_cons_self v hdetail)]
    rw [copyDetails_cons, same]
    exact ih fun other hother => copied other (List.mem_cons_of_mem _ hother)

theorem copyDetails_copyDetails (referenced : Record) (details : List String) (target : Record) :
    copyDetails referenced details (copyDetails referenced details target)
      = copyDetails referenced details target := by
  refine copyDetails_of_copied fun detail hdetail v hv => ?_
  have present : Fields.contains referenced (Path.root detail) = true := by
    rw [Fields.contains_eq_isSome, hv]
    rfl
  rw [get?_copyDetails, if_pos ⟨List.mem_map_of_mem hdetail, present⟩, hv]

theorem merged_copyDetails {referenced : Record} {target : Record} {id : String}
    (identified : Fields.get? target "_id" = some (.str id))
    (same : Fields.get? referenced "_id" = some (.str id)) (details : List String) :
    Merged referenced details target (copyDetails referenced details target) where
  get?_eq := get?_copyDetails referenced details target
  identifier := by
    rw [get?_copyDetails, same, identified]
    simp

/-- What filling a record comes to, and that filling it again changes nothing. -/
theorem fill_eq_ok (finds : store.FindsById) {target filled : Record}
    (h : fill store lookup target = .ok filled) :
    Fills store lookup target filled ∧ fill store lookup filled = .ok filled := by
  unfold fill at h
  split at h
  · rename_i id identified
    cases hfound : store.findById lookup.document id with
    | error e => simp [hfound] at h
    | ok found =>
      cases found with
      | none =>
        simp only [hfound] at h
        obtain rfl := Except.ok.inj h
        refine ⟨.missing fun other hother => ?_, by simp [fill, identified, hfound]⟩
        rw [identified] at hother
        obtain rfl := Value.str.inj (Option.some.inj hother)
        exact hfound
      | some referenced =>
        simp only [hfound] at h
        obtain rfl := Except.ok.inj h
        have merged := merged_copyDetails identified (finds _ _ _ hfound) lookup.details
        have again := merged.identifier.trans identified
        refine ⟨.found identified hfound merged, ?_⟩
        simp [fill, again, hfound, copyDetails_copyDetails]
  · rename_i unidentified
    obtain rfl := Except.ok.inj h
    refine ⟨.missing fun id hid => absurd hid (unidentified id), ?_⟩
    unfold fill
    split
    · rename_i id hid
      exact absurd hid (unidentified id)
    · rfl

theorem fillEach_eq_ok (finds : store.FindsById) : ∀ {items filled : List Value},
    fillEach store lookup items = .ok filled →
      items.Forall₂ (FillsItem store lookup) filled ∧ fillEach store lookup filled = .ok filled
  | [], filled, h => by
    obtain rfl := Except.ok.inj h
    exact ⟨.nil, rfl⟩
  | v :: rest, filled, h => by
    cases v with
    | obj target =>
      obtain ⟨first, hfirst, h⟩ := bind_eq_ok_iff.mp h
      obtain ⟨others, hothers, h⟩ := bind_eq_ok_iff.mp h
      obtain rfl := Except.ok.inj h
      obtain ⟨fills, again⟩ := fill_eq_ok finds hfirst
      obtain ⟨fillsRest, againRest⟩ := fillEach_eq_ok finds hothers
      exact ⟨.cons (.record fills) fillsRest, by rw [fillEach, again, againRest]; rfl⟩
    | null | bool _ | num _ | str _ | arr _ =>
      obtain ⟨others, hothers, h⟩ := bind_eq_ok_iff.mp h
      obtain rfl := Except.ok.inj h
      obtain ⟨fillsRest, againRest⟩ := fillEach_eq_ok finds hothers
      exact ⟨.cons (.other rfl) fillsRest, by simp only [fillEach, againRest]; rfl⟩

/-- What a lookup makes of the value of its field. -/
def fillValue (store : Store) (lookup : DetailLookup) : Value → Except StreamError Value
  | .obj target => (fill store lookup target).map .obj
  | .arr items => (fillEach store lookup items).map .arr
  | v => .ok v

theorem fillValue_eq_ok (finds : store.FindsById) {v w : Value}
    (h : fillValue store lookup v = .ok w) :
    FillsValue store lookup v w ∧ fillValue store lookup w = .ok w := by
  cases v with
  | obj target =>
    obtain ⟨filled, hfilled, rfl⟩ := map_eq_ok_iff.mp h
    obtain ⟨fills, again⟩ := fill_eq_ok finds hfilled
    exact ⟨.record fills, by rw [fillValue, again]; rfl⟩
  | arr items =>
    obtain ⟨filled, hfilled, rfl⟩ := map_eq_ok_iff.mp h
    obtain ⟨fills, again⟩ := fillEach_eq_ok finds hfilled
    exact ⟨.list fills, by rw [fillValue, again]; rfl⟩
  | null | bool _ | num _ | str _ =>
    obtain rfl := Except.ok.inj h
    exact ⟨.other rfl rfl, rfl⟩

/-- One lookup, by the value of its field. -/
theorem apply_eq (store : Store) (lookup : DetailLookup) (r : Record) :
    apply store lookup r =
      match Fields.get? r lookup.field with
      | none => .ok r
      | some v => (fillValue store lookup v).map (Fields.insert r lookup.field) := by
  rw [apply]
  cases hfield : Fields.get? r lookup.field with
  | none => rfl
  | some v =>
    cases v with
    | obj target =>
      simp only [fillValue]
      cases fill store lookup target <;> rfl
    | arr items =>
      simp only [fillValue]
      cases fillEach store lookup items <;> rfl
    | null | bool _ | num _ | str _ =>
      simp [fillValue, Except.map, Fields.insert_get?_self hfield]

/-- What a lookup is filled with, where a record has its field. -/
def FilledIn (store : Store) (lookup : DetailLookup) (r out : Record) : Prop :=
  Option.Rel (fun v w => fillValue store lookup v = .ok w) (Fields.get? r lookup.field)
    (Fields.get? out lookup.field)

theorem apply_eq_ok {r out : Record} (h : apply store lookup r = .ok out) :
    Fields.names out = Fields.names r ∧
    (∀ name, name ≠ lookup.field → Fields.get? out name = Fields.get? r name) ∧
    FilledIn store lookup r out := by
  rw [apply_eq] at h
  rw [FilledIn]
  cases hfield : Fields.get? r lookup.field with
  | none =>
    simp only [hfield] at h
    obtain rfl := Except.ok.inj h
    rw [hfield]
    exact ⟨rfl, fun _ _ => rfl, .none⟩
  | some v =>
    simp only [hfield] at h
    obtain ⟨w, hw, rfl⟩ := map_eq_ok_iff.mp h
    refine ⟨Fields.names_insert_of_get? hfield w, fun name hname => ?_, ?_⟩
    · rw [Fields.get?_insert, if_neg hname.symm]
    · rw [Fields.get?_insert, if_pos rfl]
      exact .some hw

theorem apply_of_filled {r : Record}
    (filled : ∀ v, Fields.get? r lookup.field = some v → fillValue store lookup v = .ok v) :
    apply store lookup r = .ok r := by
  rw [apply_eq]
  cases hfield : Fields.get? r lookup.field with
  | none => rfl
  | some v => simp [filled v hfield, Except.map, Fields.insert_get?_self hfield]

/-- Lookups of different fields do not meet: each finds its field as it was. -/
theorem applyAll_eq_ok {lookups : List DetailLookup} (distinct : (lookups.map (·.field)).Nodup) :
    ∀ {r out : Record},
      lookups.foldlM (fun r lookup => apply store lookup r) r = .ok out →
        Fields.names out = Fields.names r ∧
        (∀ name, name ∉ lookups.map (·.field) → Fields.get? out name = Fields.get? r name) ∧
        ∀ lookup ∈ lookups, FilledIn store lookup r out := by
  induction lookups with
  | nil =>
    intro r out h
    obtain rfl := Except.ok.inj h
    exact ⟨rfl, fun _ _ => rfl, by simp⟩
  | cons first rest ih =>
    intro r out h
    rw [List.map_cons, List.nodup_cons] at distinct
    obtain ⟨next, hnext, h⟩ := bind_eq_ok_iff.mp h
    obtain ⟨names, others, filled⟩ := apply_eq_ok hnext
    obtain ⟨namesRest, othersRest, filledRest⟩ := ih distinct.2 h
    refine ⟨namesRest.trans names, fun name hname => ?_, fun lookup hlookup => ?_⟩
    · rw [List.map_cons, List.mem_cons, not_or] at hname
      rw [othersRest name hname.2, others name hname.1]
    · rcases List.mem_cons.mp hlookup with rfl | hlookup
      · rw [FilledIn, othersRest _ distinct.1]
        exact filled
      · have apart : lookup.field ≠ first.field := fun same =>
          distinct.1 (same ▸ List.mem_map_of_mem hlookup)
        have := filledRest lookup hlookup
        rwa [FilledIn, others _ apart] at this

theorem applyAll_of_filled {lookups : List DetailLookup} {r : Record}
    (filled : ∀ lookup ∈ lookups, apply store lookup r = .ok r) :
    lookups.foldlM (fun r lookup => apply store lookup r) r = .ok r := by
  induction lookups with
  | nil => rfl
  | cons first rest ih =>
    rw [List.foldlM_cons, filled first List.mem_cons_self]
    exact ih fun lookup hlookup => filled lookup (List.mem_cons_of_mem _ hlookup)

end

end Populate

namespace Stage

open Populate (FillsValue)

/-- Where lookups of different fields are populated, the record keeps its names and all other
fields, in each lookup's field only the records that are found change, and only by what the lookup
asks for, and a second pass changes nothing. -/
theorem populate_frames {store : Store} (finds : store.FindsById) {lookups : List DetailLookup}
    (distinct : (lookups.map (·.field)).Nodup) {r out : Record}
    (h : (populate store lookups).apply r = .ok out) :
    Fields.names out = Fields.names r ∧
    (∀ name, name ∉ lookups.map (·.field) → Fields.get? out name = Fields.get? r name) ∧
    (∀ lookup ∈ lookups, Option.Rel (FillsValue store lookup) (Fields.get? r lookup.field)
      (Fields.get? out lookup.field)) ∧
    (populate store lookups).apply out = .ok out := by
  obtain ⟨names, others, filled⟩ := Populate.applyAll_eq_ok distinct h
  refine ⟨names, others, fun lookup hlookup => ?_, ?_⟩
  · have := filled lookup hlookup
    rw [Populate.FilledIn] at this
    generalize Fields.get? r lookup.field = before, Fields.get? out lookup.field = after at this ⊢
    cases this with
    | none => exact .none
    | some hw => exact .some (Populate.fillValue_eq_ok finds hw).1
  · refine Populate.applyAll_of_filled fun lookup hlookup => ?_
    refine Populate.apply_of_filled fun w hfield => ?_
    have := filled lookup hlookup
    rw [Populate.FilledIn, hfield] at this
    generalize Fields.get? r lookup.field = before at this
    cases this with
    | some hw => exact (Populate.fillValue_eq_ok finds hw).2

/-- One contact. -/
def people : Memory :=
  [("Contact",
    [[("_id", .str "c1"), ("name", .str "Ann"), ("address", .obj [("city", .str "Rome")])]])]

/-- A record that links to the contact twice, and once to one that is gone. -/
def linked : Record :=
  [("_id", .str "d1"),
    ("contacts", .arr [.obj [("_id", .str "c1"), ("name", .str "A.")],
      .obj [("_id", .str "c2"), ("name", .str "Bo")], .str "c1"]),
    ("owner", .obj [("_id", .str "c1"), ("since", .str "May")])]

def links : List DetailLookup :=
  [⟨"contacts", "Contact", ["name", "address.city"]⟩,
    ⟨"owner", "Contact", ["_id", "name", "phone"]⟩]

theorem populate_frames_linked :
    (links.map (·.field)).Nodup ∧
    (∃ out, (populate people.store links).apply linked = .ok out ∧
      Fields.names out = ["_id", "contacts", "owner"] ∧
      Fields.get? out "owner"
        = some (.obj [("_id", .str "c1"), ("since", .str "May"), ("name", .str "Ann")]) ∧
      (populate people.store links).apply out = .ok out) := by
  have distinct : (links.map (·.field)).Nodup := by decide
  have applied : (populate people.store links).apply linked = .ok _ := rfl
  obtain ⟨names, -, -, again⟩ := populate_frames people.findsById distinct applied
  exact ⟨distinct, _, applied, names, rfl, again⟩

end Stage

end RecordQuery
