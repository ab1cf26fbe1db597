import RecordQuery.Proofs.Outcome
import RecordQuery.Proofs.Store.Cursor

/-!
# Stores that may fail

A store over a memory answers as the memory does, unless it fails: a find may be refused or break
off after any number of records, and a count may be refused. What it does answer is right.
-/

namespace RecordQuery

namespace Store

/-- The store's answers are those of the memory. A cursor that is not whole ends in an error. -/
structure Reflects (store : Store) (m : Memory) : Prop where
  find : ∀ document plan cursor, store.find document plan = .ok cursor →
    ∃ whole, m.find document plan = .ok whole ∧
      (cursor = whole ∨ ∃ n e rest, cursor = whole.take n ++ .error e :: rest)
  count : ∀ document query n, store.count document query = .ok n → m.count document query = .ok n

end Store

namespace Memory

theorem reflects_store (m : Memory) : m.store.Reflects m where
  find := fun _ _ cursor h => ⟨cursor, h, .inl rfl⟩
  count := fun _ _ _ h => h

/-- The memory with a cursor that is lost after some records. -/
def losing (m : Memory) (n : Nat) (reason : String) : Store :=
  { m.store with
    find := fun document plan =>
      (m.find document plan).map fun whole => whole.take n ++ [.error (.cursor reason)] }

theorem reflects_losing (m : Memory) (n : Nat) (reason : String) :
    (m.losing n reason).Reflects m where
  find := by
    intro document plan cursor h
    obtain ⟨whole, hwhole, rfl⟩ := map_eq_ok_iff.mp h
    exact ⟨whole, hwhole, .inr ⟨n, .cursor reason, [], rfl⟩⟩
  count := fun _ _ _ h => h

variable {m : Memory} {document : String}

theorem find_of_read {plan : FindPlan} {p : Predicate} (h : Query.read plan.query = .ok p) :
    m.find document plan
      = .ok (((m.select document plan p).map plan.projection.apply).map .ok) := by
  have drained : (m.openCursor document plan p).toList
      = (m.select document plan p).map plan.projection.apply := by
    rw [MemoryCursor.toList_eq, remaining_openCursor]
  rw [find, h, ← drained]
  rfl

theorem count_of_read {query : Value} {p : Predicate} (h : Query.read query = .ok p) :
    m.count document query = .ok (m.matching document p).length := by
  rw [count, h]
  rfl

theorem find_eq_ok {plan : FindPlan} {cursor : Cursor} (h : m.find document plan = .ok cursor) :
    ∃ p, Query.read plan.query = .ok p ∧
      cursor = ((m.select document plan p).map plan.projection.apply).map .ok := by
  obtain ⟨p, hp, _⟩ := bind_eq_ok_iff.mp h
  exact ⟨p, hp, Except.ok.inj (h.symm.trans (find_of_read hp))⟩

/-- Sorting changes the order of the matching records alone. -/
theorem ordered_perm (m : Memory) (document : String) (keys : List SortKey) (p : Predicate) :
    (if keys.isEmpty then m.matching document p
      else Record.sort keys (m.matching document p)).Perm (m.matching document p) := by
  split
  · exact .refl _
  · exact List.mergeSort_perm _ _

/-- A plan that skips nothing and whose limit is not exceeded selects every record that matches. -/
theorem select_perm {plan : FindPlan} {p : Predicate} (noSkip : plan.skip = 0)
    (enough : ∀ limit, plan.limit = some limit → (m.matching document p).length ≤ limit) :
    (m.select document plan p).Perm (m.matching document p) := by
  have ordered := m.ordered_perm document plan.sort p
  rw [select, noSkip]
  cases hlimit : plan.limit with
  | none => exact ordered
  | some limit =>
    refine (List.Perm.of_eq (List.take_of_length_le ?_)).trans ordered
    rw [List.drop_zero, ordered.length_eq]
    exact enough limit hlimit

/-- A plan that takes at least one record selects none only if none matches. -/
theorem matching_eq_nil {plan : FindPlan} {p : Predicate} (noSkip : plan.skip = 0) {limit : Nat}
    (takes : plan.limit = some limit) (positive : 0 < limit)
    (nothing : m.select document plan p = []) : m.matching document p = [] := by
  have ordered := m.ordered_perm document plan.sort p
  rw [select, noSkip, takes] at nothing
  rcases List.take_eq_nil_iff.mp nothing with hlimit | hrest
  · omega
  · rw [List.drop_zero] at hrest
    rw [hrest] at ordered
    exact ordered.nil_eq.symm

end Memory

end RecordQuery
