import RecordQuery.Proofs.Access.Selection
import RecordQuery.Proofs.Value.Apart

/-!
# Paths that collide

Where a set of paths may lead into a field only once, several paths into one field come down to the
field itself. The rules for this leave one set to choose. Clearing it again changes nothing, unless
several paths began with a dot: they share the field without a name, whose path is the empty text,
and an empty text is no path.
-/

namespace RecordQuery

namespace Path

/-- A path leads into the field without a name if it begins with a dot. -/
theorem root_eq_empty_iff {s : String} (nonempty : s ≠ "") :
    root s = "" ↔ s.toList.head? = some '.' := by
  rw [root, ← String.toList_inj, String.toList_ofList, String.toList_empty]
  cases hs : s.toList with
  | nil => exact absurd (String.toList_eq_nil_iff.mp hs) nonempty
  | cons c rest => by_cases hc : c = '.' <;> simp [hc]

end Path

namespace Access

/-- Several paths lead into the field. -/
def Shared (paths : NameSet) (field : String) : Prop :=
  ∃ p ∈ paths, ∃ q ∈ paths, p ≠ q ∧ (p ≠ "" ∧ Path.root p = field) ∧ q ≠ "" ∧ Path.root q = field

/-- What a set of paths comes down to, if no two paths may lead into one field. Empty paths do not
count. -/
structure Clears (paths result : NameSet) : Prop where
  ascending : result.Ascending
  apart : ∀ p ∈ result, ∀ q ∈ result, p ≠ q → Path.root p ≠ Path.root q
  roots : ∀ field, (∃ q ∈ result, Path.root q = field) ↔
    ∃ p ∈ paths, p ≠ "" ∧ Path.root p = field
  covers : ∀ p ∈ paths, p ≠ "" → p ∈ result ∨ Path.root p ∈ result
  origin : ∀ q ∈ result, q ∈ paths ∧ q ≠ "" ∨ Shared paths q

section
variable {paths result other : NameSet} {p q : String}

theorem Clears.eq_of_root (h : Clears paths result) (hp : p ∈ result) (hq : q ∈ result)
    (same : Path.root p = Path.root q) : p = q := by
  by_cases hpq : p = q
  · exact hpq
  · exact absurd same (h.apart p hp q hq hpq)

/-- Of two paths into one field neither is left, but the field is. -/
theorem Clears.mem_of_shared (h : Clears paths result) (shared : Shared paths q) : q ∈ result := by
  obtain ⟨p, hp, p', hp', two, ⟨nonempty, hroot⟩, nonempty', hroot'⟩ := shared
  rcases h.covers p hp nonempty with kept | whole
  · rcases h.covers p' hp' nonempty' with kept' | whole
    · exact absurd (h.eq_of_root kept kept' (hroot.trans hroot'.symm)) two
    · exact hroot' ▸ whole
  · exact hroot ▸ whole

/-- The rules tell of every path whether it is in the result: it is a path that shares its field
with no other, or a field that several paths share. -/
theorem Clears.mem_iff (h : Clears paths result) :
    q ∈ result ↔
      (q ∈ paths ∧ q ≠ "" ∧ ∀ p ∈ paths, p ≠ "" → Path.root p = Path.root q → p = q) ∨
        Shared paths q := by
  constructor
  · intro hq
    rcases h.origin q hq with ⟨listed, nonempty⟩ | shared
    · by_cases colliding : ∃ p ∈ paths, p ≠ "" ∧ Path.root p = Path.root q ∧ p ≠ q
      · obtain ⟨p, hp, nonempty', hroot, two⟩ := colliding
        -- The other path is covered by its field alone, since it is not the one that was kept.
        have whole : Path.root p ∈ result := by
          rcases h.covers p hp nonempty' with kept | whole
          · exact absurd (h.eq_of_root kept hq hroot) two
          · exact whole
        have isField : Path.root p = q := h.eq_of_root whole hq (by rw [Path.root_root, hroot])
        exact .inr ⟨p, hp, q, listed, two, ⟨nonempty', isField⟩, nonempty, hroot.symm.trans isField⟩
      · refine .inl ⟨listed, nonempty, fun p hp nonempty' hroot => ?_⟩
        apply Decidable.byContradiction
        exact fun two => colliding ⟨p, hp, nonempty', hroot, two⟩
    · exact .inr shared
  · rintro (⟨listed, nonempty, alone⟩ | shared)
    · rcases h.covers q listed nonempty with kept | whole
      · exact kept
      · rcases h.origin _ whole with ⟨listed', nonempty'⟩ | shared
        · rwa [alone _ listed' nonempty' (Path.root_root q)] at whole
        · obtain ⟨p, hp, p', hp', two, ⟨hne, hroot⟩, hne', hroot'⟩ := shared
          exact absurd ((alone p hp hne hroot).trans (alone p' hp' hne' hroot').symm) two
    · exact h.mem_of_shared shared

theorem Clears.unique (h : Clears paths result) (h' : Clears paths other) : result = other :=
  h.ascending.ext h'.ascending fun _ => h.mem_iff.trans h'.mem_iff.symm

/-- The paths of a set that are not single share their field with another. -/
theorem shared_of_not_single (set : paths.Ascending) (hp : p ∈ paths) (nonempty : p ≠ "")
    (h : single paths p = false) : Shared paths (Path.root p) := by
  by_cases colliding : ∃ q ∈ paths, q ≠ "" ∧ Path.root q = Path.root p ∧ q ≠ p
  · obtain ⟨q, hq, nonempty', hroot, two⟩ := colliding
    exact ⟨q, hq, p, hp, two, ⟨nonempty', hroot⟩, nonempty, rfl⟩
  · -- The path is the only one into its field, and the set has it once.
    have members : ∀ q, q ∈ (paths.filter (· ≠ "")).filter (Path.root · = Path.root p) ↔
        q ∈ [p] := by
      intro q
      simp only [List.mem_filter, decide_eq_true_eq, List.mem_singleton]
      constructor
      · rintro ⟨⟨hq, nonempty'⟩, hroot⟩
        apply Decidable.byContradiction
        exact fun two => colliding ⟨q, hq, nonempty', hroot, two⟩
      · rintro rfl
        exact ⟨⟨hp, nonempty⟩, rfl⟩
    have once := (List.perm_ext_iff_of_nodup ((set.nodup.filter _).filter _)
      (List.pairwise_singleton _ p)).mpr members
    rw [single, decide_eq_false_iff_not] at h
    exact absurd once.length_eq h

theorem clears_clearCollisions (set : paths.Ascending) : Clears paths (clearCollisions paths) where
  ascending := NameSet.ascending_ofList _
  apart := fun _ hp _ hq two same => two (eq_of_mem_clearCollisions hp hq same)
  roots := by
    intro field
    constructor
    · rintro ⟨q, hq, rfl⟩
      exact root_of_mem_clearCollisions hq
    · rintro ⟨p, hp, nonempty, rfl⟩
      refine ⟨_, mem_clearCollisions.mpr ⟨p, hp, nonempty, rfl⟩, ?_⟩
      split
      · rfl
      · exact Path.root_root p
  covers := by
    intro p hp nonempty
    have left := mem_clearCollisions.mpr ⟨p, hp, nonempty, rfl⟩
    split at left
    · exact .inl left
    · exact .inr left
  origin := by
    intro q hq
    obtain ⟨p, hp, nonempty, rfl⟩ := mem_clearCollisions.mp hq
    cases hsingle : single paths p with
    | true => exact .inl ⟨hp, nonempty⟩
    | false => exact .inr (shared_of_not_single set hp nonempty hsingle)

/-- Nothing collides in what was cleared, so clearing it again only drops an empty path. -/
theorem Clears.again (h : Clears paths result) : Clears result (result.filter (· ≠ "")) where
  ascending := h.ascending.filter _
  apart := fun p hp q hq =>
    h.apart p (List.mem_filter.mp hp).1 q (List.mem_filter.mp hq).1
  roots := by simp [and_assoc]
  covers := by
    intro p hp nonempty
    exact .inl (List.mem_filter.mpr ⟨hp, by simpa using nonempty⟩)
  origin := by
    intro q hq
    exact .inl (by simpa using List.mem_filter.mp hq)

theorem clearCollisions_clearCollisions (set : paths.Ascending) :
    clearCollisions (clearCollisions paths) = (clearCollisions paths).filter (· ≠ "") := by
  have cleared := clears_clearCollisions set
  exact (clears_clearCollisions cleared.ascending).unique cleared.again

theorem Clears.empty_mem_iff (h : Clears paths result) :
    "" ∈ result ↔ ∃ p ∈ paths, ∃ q ∈ paths, p ≠ q ∧ p.toList.head? = some '.' ∧
      q.toList.head? = some '.' := by
  have dotted : ∀ s : String, s ≠ "" ∧ Path.root s = "" ↔ s.toList.head? = some '.' := by
    intro s
    constructor
    · exact fun ⟨nonempty, hroot⟩ => (Path.root_eq_empty_iff nonempty).mp hroot
    · intro hs
      have nonempty : s ≠ "" := by
        rintro rfl
        simp at hs
      exact ⟨nonempty, (Path.root_eq_empty_iff nonempty).mpr hs⟩
  rw [h.mem_iff]
  simp [Shared, dotted]

/-- Clearing a set of paths leaves the one set that the rules allow, in which no path begins
another. Clearing that set again drops the empty path, so it changes nothing exactly if no two paths
of the first set begin with a dot. -/
theorem clearCollisions_clears (set : paths.Ascending) :
    (∀ result, Clears paths result ↔ result = clearCollisions paths) ∧
    (∀ p ∈ clearCollisions paths, ∀ q ∈ clearCollisions paths, p ≠ q →
      (Path.ofText p).Apart (Path.ofText q)) ∧
    clearCollisions (clearCollisions paths) = (clearCollisions paths).filter (· ≠ "") ∧
    (clearCollisions (clearCollisions paths) = clearCollisions paths ↔
      ¬ ∃ p ∈ paths, ∃ q ∈ paths, p ≠ q ∧ p.toList.head? = some '.' ∧
        q.toList.head? = some '.') := by
  have cleared := clears_clearCollisions set
  refine ⟨fun result => ⟨fun h => h.unique cleared, fun h => h ▸ cleared⟩, ?_,
    clearCollisions_clearCollisions set, ?_⟩
  · intro p hp q hq two
    rw [Path.ofText_eq, Path.ofText_eq]
    exact Path.apart_of_ne (cleared.apart p hp q hq two) _ _
  · rw [clearCollisions_clearCollisions set, ← cleared.empty_mem_iff, List.filter_eq_self]
    constructor
    · intro nonempty hmem
      simpa using nonempty "" hmem
    · intro absent p hp
      simpa using fun h : p = "" => absent (h ▸ hp)

end

/-- Two paths into the group leave the group, and a path alone in its field stays. -/
theorem clearCollisions_clears_grouped :
    NameSet.Ascending ["", ".rank", "contact.name", "group", "group._id"] ∧
      clearCollisions ["", ".rank", "contact.name", "group", "group._id"]
        = [".rank", "contact.name", "group"] ∧
      clearCollisions [".rank", "contact.name", "group"] = [".rank", "contact.name", "group"] := by
  have set : NameSet.Ascending ["", ".rank", "contact.name", "group", "group._id"] := by
    decide +kernel
  have cleared : clearCollisions ["", ".rank", "contact.name", "group", "group._id"]
      = [".rank", "contact.name", "group"] := by decide +kernel
  obtain ⟨_, _, _, again⟩ := clearCollisions_clears set
  refine ⟨set, cleared, ?_⟩
  rw [← cleared]
  exact again.mpr (by decide +kernel)

/-- Two paths that begin with a dot leave the empty path, which a second clearing drops. -/
theorem clearCollisions_unsettled :
    NameSet.Ascending [".name", ".rank"] ∧ clearCollisions [".name", ".rank"] = [""] ∧
      clearCollisions (clearCollisions [".name", ".rank"]) = [] := by
  decide +kernel

end Access

end RecordQuery
