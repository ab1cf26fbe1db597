import Mathlib.Data.List.Forall2
import RecordQuery.Pattern.Reader

/-!
# Where a sequence of sets is found

A search looks for a match from any spot of a text. A sequence of sets matches a stretch of text
whose characters are in the sets one by one, so it is found exactly if the text holds such a
stretch, at its start or its end if the sequence is bound to it.
-/

namespace RecordQuery

namespace Pattern

theorem searchFrom_iff {p : Pattern} (before cs : List Char) :
    searchFrom p before cs = true ↔
      ∃ passed rest, cs = passed ++ rest ∧ ∃ t, t ∈ ends p ⟨passed.reverse ++ before, rest⟩ := by
  have here : ∀ s, (!(ends p s).isEmpty) = true ↔ ∃ t, t ∈ ends p s := by
    intro s
    cases ends p s <;> simp
  induction cs generalizing before with
  | nil =>
    rw [searchFrom, here]
    constructor
    · exact fun h => ⟨[], [], rfl, h⟩
    · rintro ⟨passed, rest, hcs, h⟩
      obtain ⟨rfl, rfl⟩ := List.append_eq_nil_iff.mp hcs.symm
      exact h
  | cons c cs ih =>
    simp only [searchFrom, Bool.or_eq_true, here, ih]
    constructor
    · rintro (h | ⟨passed, rest, rfl, h⟩)
      · exact ⟨[], c :: cs, rfl, h⟩
      · exact ⟨c :: passed, rest, rfl, by simpa using h⟩
    · rintro ⟨passed, rest, hcs, h⟩
      cases passed with
      | nil =>
        obtain rfl : c :: cs = rest := hcs
        exact .inl h
      | cons first passed =>
        obtain ⟨rfl, rfl⟩ := List.cons.inj hcs
        exact .inr ⟨passed, rest, rfl, by simpa using h⟩

theorem ends_seqAll_cons (p : Pattern) (parts : List Pattern) (s : Spot) :
    ends (seqAll (p :: parts)) s = (ends p s).flatMap (ends (seqAll parts)) := by
  cases parts with
  | nil => simp [seqAll, ends]
  | cons q rest => rfl

theorem mem_ends_one {set : CharSet} {s t : Spot} :
    t ∈ ends (one set true) s ↔
      ∃ c rest, s.after = c :: rest ∧ set.mem true c = true ∧ t = ⟨c :: s.before, rest⟩ := by
  rw [ends]
  cases s.after with
  | nil => simp
  | cons c rest => by_cases h : set.mem true c = true <;> simp [h]

/-- The characters of a stretch of text are in the sets, one by one. -/
def Fits (sets : List CharSet) (stretch : List Char) : Prop :=
  List.Forall₂ (fun set c => set.mem true c = true) sets stretch

/-- A match of sets and what follows them is a stretch that fits and a match from its end. -/
theorem mem_ends_sets {sets : List CharSet} {parts : List Pattern} {s t : Spot} :
    t ∈ ends (seqAll (sets.map (one · true) ++ parts)) s ↔
      ∃ stretch rest, s.after = stretch ++ rest ∧ Fits sets stretch ∧
        t ∈ ends (seqAll parts) ⟨stretch.reverse ++ s.before, rest⟩ := by
  induction sets generalizing s with
  | nil => simp [Fits]
  | cons set sets ih =>
    rw [List.map_cons, List.cons_append, ends_seqAll_cons, List.mem_flatMap]
    constructor
    · rintro ⟨next, hnext, h⟩
      obtain ⟨c, rest, hafter, hc, rfl⟩ := mem_ends_one.mp hnext
      obtain ⟨stretch, others, rfl, hfits, h⟩ := ih.mp h
      exact ⟨c :: stretch, others, hafter, .cons hc hfits, by simpa using h⟩
    · rintro ⟨stretch, others, hafter, hfits, h⟩
      cases hfits with
      | cons hc hfits =>
        rename_i c stretch
        refine ⟨⟨c :: s.before, stretch ++ others⟩, mem_ends_one.mpr ⟨c, _, hafter, hc, rfl⟩, ?_⟩
        exact ih.mpr ⟨stretch, others, rfl, hfits, by simpa using h⟩

/-- A sequence of sets, bound to the start or the end of the text or to neither. -/
def bound (atStart atEnd : Bool) (sets : List CharSet) : Pattern :=
  seqAll ((if atStart then [anchor .textStart] else [])
    ++ (sets.map (one · true) ++ if atEnd then [anchor .textEnd] else []))

theorem mem_ends_bound {atStart atEnd : Bool} {sets : List CharSet} {s t : Spot} :
    t ∈ ends (bound atStart atEnd sets) s ↔
      (atStart = true → s.before = []) ∧
        ∃ stretch rest, s.after = stretch ++ rest ∧ Fits sets stretch ∧
          (atEnd = true → rest = []) ∧ t = ⟨stretch.reverse ++ s.before, rest⟩ := by
  have tail : ∀ s, t ∈ ends (seqAll (if atEnd then [anchor .textEnd] else [])) s ↔
      (atEnd = true → s.after = []) ∧ t = s := by
    intro s
    cases atEnd <;> simp [seqAll, ends, Anchor.holds]
  have body : ∀ s, t ∈ ends (seqAll (sets.map (one · true)
        ++ if atEnd then [anchor .textEnd] else [])) s ↔
      ∃ stretch rest, s.after = stretch ++ rest ∧ Fits sets stretch ∧
        (atEnd = true → rest = []) ∧ t = ⟨stretch.reverse ++ s.before, rest⟩ := by
    intro s
    simp only [mem_ends_sets, tail]
  cases atStart with
  | false => simpa [bound] using body s
  | true =>
    rw [bound, if_pos rfl, List.singleton_append, ends_seqAll_cons, List.mem_flatMap]
    simp [ends, Anchor.holds, body]

/-- A sequence of sets is found exactly where a stretch of the text fits it. -/
theorem search_bound {atStart atEnd : Bool} {sets : List CharSet} {text : String} :
    search (bound atStart atEnd sets) text = true ↔
      ∃ before stretch after, text.toList = before ++ stretch ++ after ∧ Fits sets stretch ∧
        (atStart = true → before = []) ∧ (atEnd = true → after = []) := by
  simp only [search, searchFrom_iff, mem_ends_bound, List.append_nil, List.reverse_eq_nil_iff]
  constructor
  · rintro ⟨before, _, htext, _, hstart, stretch, after, rfl, hfits, hend, rfl⟩
    exact ⟨before, stretch, after, by simpa using htext, hfits, hstart, hend⟩
  · rintro ⟨before, stretch, after, htext, hfits, hstart, hend⟩
    exact ⟨before, stretch ++ after, by simpa using htext, _, hstart, stretch, after, rfl, hfits,
      hend, rfl⟩

end Pattern

end RecordQuery
