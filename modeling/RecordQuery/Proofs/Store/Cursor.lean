import RecordQuery.Proofs.Value.Order
import RecordQuery.Store.Basic

/-!
# What a cursor still has to hand out

The records that are left for a cursor are those of its candidates that match, without as many as
are still to be skipped and no more than are still allowed. Each step hands out the first of them and
leaves the others, so asking often enough brings all of them in their order, and asking again brings
nothing.
-/

namespace RecordQuery

namespace MemoryCursor

/-- The candidates that match. -/
def eligible (c : MemoryCursor) (candidates : List Record) : List Record :=
  if c.plan.sort.isEmpty then candidates.filter c.predicate.holds else candidates

/-- No more records than the plan still allows. -/
def upToLimit (c : MemoryCursor) (records : List Record) : List Record :=
  match c.plan.limit with
  | some limit => records.take (limit - c.yielded)
  | none => records

/-- The records left to hand out. -/
def remaining (c : MemoryCursor) : List Record :=
  (c.upToLimit ((c.eligible c.left).drop (c.plan.skip - c.skipped))).map c.plan.projection.apply

/-- The cursor when it was asked a number of times. -/
def after : Nat → MemoryCursor → MemoryCursor
  | 0, c => c
  | n + 1, c => after n c.next.2

theorem eligible_cons (c : MemoryCursor) (r : Record) (rest : List Record) :
    c.eligible (r :: rest) = if c.plan.sort.isEmpty && !c.predicate.holds r then c.eligible rest
      else r :: c.eligible rest := by
  rw [eligible, eligible]
  cases c.plan.sort.isEmpty with
  | false => rfl
  | true =>
    by_cases hr : c.predicate.holds r = true
    · simp [hr]
    · simp [hr]

theorem length_eligible_le (c : MemoryCursor) (candidates : List Record) :
    (c.eligible candidates).length ≤ candidates.length := by
  rw [eligible]
  split
  · exact List.length_filter_le _ _
  · exact Nat.le_refl _

theorem upToLimit_nil (c : MemoryCursor) : c.upToLimit [] = [] := by
  rw [upToLimit]
  cases c.plan.limit with
  | none => rfl
  | some limit => exact List.take_nil

theorem remaining_of_exhausted {c : MemoryCursor} (h : c.isExhausted = true) :
    c.remaining = [] := by
  rw [isExhausted] at h
  cases hlimit : c.plan.limit with
  | none => simp [hlimit] at h
  | some limit =>
    have done : limit ≤ c.yielded := by simpa [hlimit] using h
    have allowed : limit - c.yielded = 0 := by omega
    rw [remaining, upToLimit, hlimit]
    dsimp only
    rw [allowed]
    rfl

/-- What is allowed beside a record that is handed out now. -/
theorem upToLimit_cons {c : MemoryCursor} (h : c.isExhausted = false) (r : Record)
    (rest : List Record) :
    c.upToLimit (r :: rest) = r :: upToLimit { c with yielded := c.yielded + 1 } rest := by
  rw [isExhausted] at h
  rw [upToLimit, upToLimit]
  cases hlimit : c.plan.limit with
  | none => rfl
  | some limit =>
    have more : c.yielded < limit := by simpa [hlimit] using h
    have one : limit - c.yielded = limit - (c.yielded + 1) + 1 := by omega
    dsimp only
    rw [one, List.take_succ_cons]

/-- Looking at candidates hands out the first of those that are left. -/
theorem advance_remaining {c : MemoryCursor} (h : c.isExhausted = false) (left : List Record)
    (skipped : Nat) :
    (c.advance left skipped).1 = { c with left, skipped }.remaining.head? ∧
      (c.advance left skipped).2.remaining = { c with left, skipped }.remaining.tail := by
  induction left generalizing skipped with
  | nil =>
    have nothing : { c with left := [], skipped }.remaining = [] := by
      rw [remaining, show eligible _ [] = [] by rw [eligible]; split <;> rfl, List.drop_nil,
        upToLimit_nil, List.map_nil]
    rw [advance, nothing]
    exact ⟨rfl, rfl⟩
  | cons r rest ih =>
    have left : { c with left := r :: rest, skipped }.remaining
        = (c.upToLimit ((c.eligible (r :: rest)).drop (c.plan.skip - skipped))).map
            c.plan.projection.apply := rfl
    rw [advance, left, eligible_cons]
    by_cases hmatch : c.plan.sort.isEmpty && !c.predicate.holds r
    · rw [if_pos hmatch, if_pos hmatch]
      exact ih skipped
    · rw [if_neg hmatch, if_neg hmatch]
      by_cases hskip : skipped < c.plan.skip
      · have fewer : c.plan.skip - skipped = c.plan.skip - (skipped + 1) + 1 := by omega
        rw [if_pos hskip, fewer, List.drop_succ_cons]
        exact ih (skipped + 1)
      · have enough : c.plan.skip - skipped = 0 := by omega
        rw [if_neg hskip, enough, List.drop_zero, upToLimit_cons h]
        refine ⟨rfl, ?_⟩
        have rest : remaining { c with left := rest, skipped, yielded := c.yielded + 1 }
            = (upToLimit { c with yielded := c.yielded + 1 }
                ((c.eligible rest).drop (c.plan.skip - skipped))).map
                  c.plan.projection.apply := rfl
        rw [rest, enough, List.drop_zero]
        rfl

theorem next_remaining (c : MemoryCursor) :
    c.next.1 = c.remaining.head? ∧ c.next.2.remaining = c.remaining.tail := by
  rw [next]
  cases h : c.isExhausted with
  | false => exact advance_remaining h c.left c.skipped
  | true =>
    have nothing := remaining_of_exhausted h
    rw [if_pos rfl, nothing]
    exact ⟨rfl, rfl⟩

theorem remaining_after (n : Nat) (c : MemoryCursor) :
    (c.after n).remaining = c.remaining.drop n := by
  induction n generalizing c with
  | zero => rfl
  | succ n ih => rw [after, ih, c.next_remaining.2, List.drop_tail]

/-- Each time it is asked, the cursor hands out the record whose turn it is; behind the last there is
nothing, however often it is asked. -/
theorem next_after (n : Nat) (c : MemoryCursor) : (c.after n).next.1 = c.remaining[n]? := by
  rw [(next_remaining _).1, remaining_after, List.head?_drop]

theorem take_eq (n : Nat) (c : MemoryCursor) : c.take n = c.remaining.take n := by
  induction n generalizing c with
  | zero => rfl
  | succ n ih =>
    obtain ⟨first, others⟩ := c.next_remaining
    rw [take]
    cases hleft : c.remaining with
    | nil =>
      rw [hleft] at first
      rw [show c.next = (none, c.next.2) from Prod.ext first rfl]
      rfl
    | cons r rest =>
      rw [hleft] at first others
      rw [show c.next = (some r, c.next.2) from Prod.ext first rfl]
      dsimp only
      rw [ih, others]
      rfl

theorem length_remaining_le (c : MemoryCursor) : c.remaining.length ≤ c.left.length := by
  have dropped : ((c.eligible c.left).drop (c.plan.skip - c.skipped)).length ≤ c.left.length := by
    rw [List.length_drop]
    exact Nat.le_trans (Nat.sub_le _ _) (c.length_eligible_le c.left)
  rw [remaining, List.length_map, upToLimit]
  cases c.plan.limit with
  | none => exact dropped
  | some limit => exact Nat.le_trans (List.length_take_le' _ _) dropped

theorem toList_eq (c : MemoryCursor) : c.toList = c.remaining := by
  rw [toList, take_eq, List.take_of_length_le c.length_remaining_le]

end MemoryCursor

namespace Memory

/-- An opened cursor is to hand out what its plan selects. -/
theorem remaining_openCursor (m : Memory) (document : String) (plan : FindPlan) (p : Predicate) :
    (m.openCursor document plan p).remaining
      = (m.select document plan p).map plan.projection.apply := by
  have eligible : (m.openCursor document plan p).eligible (m.openCursor document plan p).left
      = if plan.sort.isEmpty then m.matching document p
        else Record.sort plan.sort (m.matching document p) := by
    rw [MemoryCursor.eligible, openCursor]
    dsimp only
    cases plan.sort.isEmpty with
    | false => rfl
    | true => rfl
  rw [MemoryCursor.remaining, eligible, select, MemoryCursor.upToLimit]
  obtain ⟨_, _, _, limit, _⟩ := plan
  cases limit with
  | none => rfl
  | some limit => rfl

end Memory

end RecordQuery
