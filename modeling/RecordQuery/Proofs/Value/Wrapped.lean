import RecordQuery.Proofs.Value.Legible

/-!
# Texts that spell texts

A text that is read from another is the shorter one: the quotes are gone, and what stood between
them took a character at least for each that it spells. So texts are taken out of a text only as
often as it has characters. A value can be wrapped in texts any number of times.
-/

namespace RecordQuery

namespace Value

/-- The characters that a text takes at the least, with its quotes. No others are counted. -/
def Token.size : Token → Nat
  | text s => s.length + 2
  | _ => 0

/-- An open text has its first quote. -/
def Lexing.size : Lexing → Nat
  | between | word _ => 0
  | text done | escape done | code done .. | lower done _ | lowerCode done _ => done.length + 1

/-- As many characters suffice for each text that is found, and for the one that is open. -/
structure Fits (state : List Token × Lexing) (count : Nat) : Prop where
  found : ∀ t ∈ state.1, t.size ≤ count
  opened : state.2.size ≤ count

section
variable {state next : List Token × Lexing} {found : List Token} {c : Char} {count : Nat}

/-- Where no token ends, only the open one may grow. -/
theorem Fits.goesOn {lexing after : Lexing} (h : Fits (found, lexing) count)
    (grows : after.size ≤ lexing.size + 1) : Fits (found, after) (count + 1) :=
  ⟨fun t ht => Nat.le_succ_of_le (h.found t ht), Nat.le_trans grows (Nat.succ_le_succ h.opened)⟩

theorem Fits.add {t : Token} (h : ∀ t ∈ found, t.size ≤ count) (ht : t.size ≤ count) :
    Fits (t :: found, .between) count := by
  refine ⟨fun u hu => ?_, Nat.zero_le _⟩
  rcases List.mem_cons.mp hu with rfl | hu
  · exact ht
  · exact h u hu

theorem Fits.lexBetween (h : ∀ t ∈ found, t.size ≤ count)
    (hstep : Value.lexBetween found c = some next) : Fits next (count + 1) := by
  have kept : ∀ t ∈ found, t.size ≤ count + 1 := fun t ht => Nat.le_succ_of_le (h t ht)
  unfold Value.lexBetween at hstep
  split at hstep
  · obtain rfl := Option.some.inj hstep
    exact ⟨kept, Nat.zero_le _⟩
  · split at hstep
    · obtain rfl := Option.some.inj hstep
      exact ⟨kept, Nat.zero_le _⟩
    · split at hstep <;> cases hstep
      · exact ⟨kept, Nat.le_add_left 1 count⟩
      all_goals exact .add kept (Nat.zero_le _)

theorem size_of_endCode {done : List Char} {value : Nat} {upper : Option Nat} {after : Lexing}
    (h : endCode done value upper = some after) : after.size ≤ done.length + 2 := by
  unfold endCode at h
  split at h <;> repeat' split at h
  all_goals cases h <;> simp [Lexing.size]

/-- A character is at most one more character of a text. -/
theorem Fits.lexStep (h : Fits state count) (hstep : Value.lexStep state c = some next) :
    Fits next (count + 1) := by
  obtain ⟨found, lexing⟩ := state
  cases lexing with
  | between => exact .lexBetween h.found hstep
  | word done =>
    rw [Value.lexStep] at hstep
    split at hstep
    · obtain rfl := Option.some.inj hstep
      exact h.goesOn (Nat.le_succ _)
    · exact .lexBetween (Fits.add h.found (Nat.zero_le _)).found hstep
  | text done =>
    rw [Value.lexStep] at hstep
    split at hstep
    · obtain rfl := Option.some.inj hstep
      refine .add (h.goesOn (Nat.le_succ _)).found ?_
      have := h.opened
      simp only [Lexing.size] at this
      simp only [Token.size, String.length_ofList, List.length_reverse]
      omega
    · split at hstep
      · obtain rfl := Option.some.inj hstep
        exact h.goesOn (Nat.le_succ _)
      · split at hstep
        · cases hstep
        · obtain rfl := Option.some.inj hstep
          exact h.goesOn (Nat.le_refl _)
  | escape done =>
    rw [Value.lexStep] at hstep
    split at hstep
    · obtain rfl := Option.some.inj hstep
      exact h.goesOn (Nat.le_succ _)
    · obtain ⟨d, _, rfl⟩ := Option.map_eq_some_iff.mp hstep
      exact h.goesOn (Nat.le_refl _)
  | code done digits value upper =>
    obtain ⟨digit, _, hstep⟩ := Option.bind_eq_some_iff.mp hstep
    dsimp only at hstep
    split at hstep
    · obtain ⟨after, hafter, hstep⟩ := Option.bind_eq_some_iff.mp hstep
      obtain rfl := Option.some.inj hstep
      exact h.goesOn (size_of_endCode hafter)
    · obtain rfl := Option.some.inj hstep
      exact h.goesOn (Nat.le_succ _)
  | lower done upper | lowerCode done upper =>
    rw [Value.lexStep] at hstep
    split at hstep
    · obtain rfl := Option.some.inj hstep
      exact h.goesOn (Nat.le_succ _)
    · cases hstep

/-- No text that is cut from another takes more characters than it has. -/
theorem size_of_tokensFrom? {cs : List Char} {ts : List Token} (h : Fits state count)
    (hcut : tokensFrom? state cs = some ts) : ∀ t ∈ ts, t.size ≤ count + cs.length := by
  induction cs generalizing state count with
  | nil =>
    obtain ⟨found, lexing⟩ := state
    cases lexing with
    | between =>
      obtain rfl := Option.some.inj hcut
      exact fun t ht => h.found t (List.mem_reverse.mp ht)
    | word done =>
      obtain rfl := Option.some.inj hcut
      have ended : Fits (.word done.reverse :: found, .between) count :=
        .add h.found (Nat.zero_le _)
      exact fun t ht => ended.found t (List.mem_reverse.mp ht)
    | _ => cases hcut
  | cons c cs ih =>
    cases hstep : lexStep state c with
    | none =>
      rw [tokensFrom?, List.foldlM_cons, hstep] at hcut
      cases hcut
    | some next =>
      rw [tokensFrom?_cons hstep] at hcut
      have rest := ih (h.lexStep hstep) hcut
      rwa [Nat.add_right_comm] at rest

end

/-- What is read is inside a list or a record, or is one itself. -/
def Reading.Nested : Reading → Prop
  | value frames _ | more frames => frames ≠ []
  | name .. | colon .. => True
  | finished v => v.asStr? = none

theorem nested_complete {v : Value} {frames : List Frame} (h : frames ≠ [] ∨ v.asStr? = none) :
    (complete v frames).Nested := by
  cases frames with
  | nil => exact h.resolve_left fun h => h rfl
  | cons frame rest => cases frame <;> exact List.cons_ne_nil _ _

theorem asStr?_ofWord? {cs : List Char} {v : Value} (h : ofWord? cs = some v) :
    v.asStr? = none := by
  unfold ofWord? at h
  repeat' split at h
  case isFalse.isFalse.isFalse =>
    obtain ⟨n, _, rfl⟩ := Option.map_eq_some_iff.mp h
    rfl
  all_goals
    obtain rfl := Option.some.inj h
    rfl

theorem nested_of_readStep {reading next : Reading} {t : Token} (h : reading.Nested)
    (hstep : readStep reading t = some next) : next.Nested := by
  unfold readStep at hstep
  split at hstep
  case h_1 =>
    obtain ⟨v, _, rfl⟩ := Option.map_eq_some_iff.mp hstep
    exact nested_complete (.inl h)
  case h_3 | h_4 =>
    split at hstep <;> cases hstep
    simp [Reading.Nested]
  all_goals cases hstep
  all_goals first
    | exact nested_complete (.inl h)
    | exact nested_complete (.inr rfl)
    | simp [Reading.Nested]

/-- Only a list or a record is read from a state that is inside one. -/
theorem asStr?_of_nested {reading : Reading} (h : reading.Nested) {ts : List Token} {v : Value}
    (hread : readFrom? reading ts = some v) : v.asStr? = none := by
  induction ts generalizing reading with
  | nil =>
    cases reading with
    | finished w =>
      obtain rfl := Option.some.inj hread
      exact h
    | _ => cases hread
  | cons t ts ih =>
    cases hstep : readStep reading t with
    | none =>
      rw [readFrom?, List.foldlM_cons, hstep] at hread
      cases hread
    | some next =>
      rw [readFrom?_cons hstep] at hread
      exact ih (nested_of_readStep h hstep) hread

/-- A text is read from its one token. -/
theorem eq_of_readFrom?_str {ts : List Token} {t : String}
    (h : readFrom? (.value [] false) ts = some (str t)) : ts = [.text t] := by
  cases ts with
  | nil => cases h
  | cons first rest =>
    cases hstep : readStep (.value [] false) first with
    | none =>
      rw [readFrom?, List.foldlM_cons, hstep] at h
      cases h
    | some next =>
      rw [readFrom?_cons hstep] at h
      cases first with
      | text s =>
        obtain rfl := Option.some.inj hstep
        cases rest with
        | nil =>
          obtain rfl := str.inj (Option.some.inj h)
          rfl
        | cons _ _ => cases h
      | word cs =>
        obtain ⟨v, hword, rfl⟩ := Option.map_eq_some_iff.mp hstep
        have := asStr?_of_nested (nested_complete (.inr (asStr?_ofWord? hword))) h
        cases this
      | openList | openRecord =>
        obtain rfl := Option.some.inj hstep
        have := asStr?_of_nested (by simp [Reading.Nested]) h
        cases this
      | _ => cases hstep

/-- A text that is read from another is shorter. -/
theorem length_lt_of_read? {s t : String} (h : read? s = some (str t)) : t.length < s.length := by
  obtain ⟨v, hv, collapsed⟩ := Option.map_eq_some_iff.mp h
  obtain rfl : v = str t := by
    cases v with
    | str _ => exact collapsed
    | _ => simp [collapse] at collapsed
  obtain ⟨ts, hts, hread⟩ := Option.bind_eq_some_iff.mp hv
  obtain rfl : ts = [.text t] := eq_of_readFrom?_str hread
  have start : Fits ([], .between) 0 := ⟨by simp, Nat.zero_le _⟩
  have fits := size_of_tokensFrom? start hts (.text t) (by simp)
  simp only [Token.size, String.length_toList] at fits
  omega

/-- The value spelled by a text, that one by another, and so on. -/
def wrap : Nat → Value → Value
  | 0, v => v
  | n + 1, v => str (wrap n v).text

theorem readsBack_wrap {v : Value} (h : v.ReadsBack) : ∀ n, (wrap n v).ReadsBack
  | 0 => h
  | _ + 1 => (legible_str _).readsBack (Nat.zero_le _)

end Value

end RecordQuery
