import RecordQuery.Bridge.Lifecycle

/-!
# One process from its start to its end

Whatever is asked of a process, in whatever order and whatever its surroundings do, an operation
that fails leaves it ended with its input closed, and it is killed at most once. An output is
collected only from a process that succeeded.
-/

namespace RecordQuery

namespace AggregationProcess

variable {α β : Type} {s : Surroundings} {p p' : AggregationProcess}

/-- The process is known to have ended, and nothing more can be written to it. -/
structure Ended (p : AggregationProcess) : Prop where
  terminated : p.terminated = true
  closed : p.inputOpen = false

/-- What may become of a process. Closing and ending are final; a process that is ended is closed by
then; only a process that had not ended is killed, and it has ended then. -/
structure Proceeds (p p' : AggregationProcess) : Prop where
  closing : p.inputOpen = false → p'.inputOpen = false
  ending : p.terminated = true → p'.terminated = true
  orderly : p'.terminated = true → p.terminated = true ∨ p'.inputOpen = false
  kills : p'.killAttempts = p.killAttempts ∨
    p.terminated = false ∧ p'.terminated = true ∧ p'.killAttempts = p.killAttempts + 1

namespace Proceeds

theorem refl (p : AggregationProcess) : p.Proceeds p where
  closing := id
  ending := id
  orderly := .inl
  kills := .inl rfl

theorem trans {p'' : AggregationProcess} (h : p.Proceeds p') (next : p'.Proceeds p'') :
    p.Proceeds p'' where
  closing := fun closed => next.closing (h.closing closed)
  ending := fun ended => next.ending (h.ending ended)
  orderly := by
    intro ended
    rcases next.orderly ended with before | closed
    · rcases h.orderly before with first | closed
      · exact .inl first
      · exact .inr (next.closing closed)
    · exact .inr closed
  kills := by
    rcases next.kills with same | ⟨running, ended, more⟩
    · rcases h.kills with unkilled | ⟨running, ended, more⟩
      · exact .inl (same.trans unkilled)
      · exact .inr ⟨running, next.ending ended, same.trans more⟩
    · -- the process still ran, so the steps before have not killed it
      rcases h.kills with unkilled | ⟨_, already, _⟩
      · refine .inr ⟨?_, ended, by rw [more, unkilled]⟩
        exact Bool.eq_false_iff.mpr fun first => Bool.eq_false_iff.mp running (h.ending first)
      · exact absurd already (Bool.eq_false_iff.mp running)

/-- A process that has ended is not killed any more. -/
theorem killAttempts_eq (h : p.Proceeds p') (ended : p.terminated = true) :
    p'.killAttempts = p.killAttempts := by
  rcases h.kills with same | ⟨running, _, _⟩
  · exact same
  · exact absurd ended (Bool.eq_false_iff.mp running)

end Proceeds

theorem kill_ended (s : Surroundings) (p : AggregationProcess) : (p.kill s).Ended := by
  rw [kill]
  split
  · next ended => exact ⟨ended, rfl⟩
  · exact ⟨rfl, rfl⟩

theorem kill_proceeds (s : Surroundings) (p : AggregationProcess) : p.Proceeds (p.kill s) where
  closing := fun _ => (kill_ended s p).closed
  ending := fun _ => (kill_ended s p).terminated
  orderly := fun _ => .inr (kill_ended s p).closed
  kills := by
    rw [kill]
    cases hp : p.terminated with
    | true => exact .inl rfl
    | false =>
      cases hs : s.endedBefore with
      | true => exact .inl rfl
      | false => exact .inr ⟨rfl, rfl, rfl⟩

/-- The input is closed also where closing it fails. -/
theorem closed_of_closeInput {fault : Option String} (h : p.closeInput s = (fault, p')) :
    p.Proceeds p' ∧ p'.inputOpen = false := by
  obtain ⟨-, rfl⟩ := Prod.mk.inj h
  exact ⟨⟨fun _ => rfl, id, .inl, .inl rfl⟩, rfl⟩

/-- An operation leaves a process that may have become of the one before, and after a failure one
that has ended. -/
structure Leaves (p : AggregationProcess) (o : Operation α) : Prop where
  proceeds : p.Proceeds o.2
  ended : ∀ e, o.1 = .error e → o.2.Ended

namespace Leaves

theorem ok (h : p.Proceeds p') (a : α) : p.Leaves ((.ok a, p') : Operation α) where
  proceeds := h
  ended := by rintro e ⟨⟩

/-- The process is killed before a failure is reported. -/
theorem fail (h : p.Proceeds p') (s : Surroundings) (e : BridgeError) :
    p.Leaves (p'.fail s e : Operation α) where
  proceeds := h.trans (kill_proceeds s p')
  ended := fun _ _ => kill_ended s p'

theorem after {o : Operation α} (h : p.Proceeds p') (next : p'.Leaves o) : p.Leaves o where
  proceeds := h.trans next.proceeds
  ended := next.ended

theorem map {o : Operation α} (h : p.Leaves o) (f : α → β) :
    p.Leaves ((o.1.map f, o.2) : Operation β) where
  proceeds := h.proceeds
  ended := by
    obtain ⟨answer, p'⟩ := o
    intro e failed
    cases answer with
    | error e' => exact h.ended e' rfl
    | ok a => cases failed

end Leaves

theorem leaves_send (s : Surroundings) (p : AggregationProcess) : p.Leaves (p.send s) := by
  rw [send]
  split
  · split
    · exact .fail (.refl p) s _
    · exact .ok (.refl p) ()
  · exact .fail (.refl p) s _

theorem leaves_writeRecords (s : Surroundings) (n : Nat) (p : AggregationProcess)
    (items : List (Except StreamError Record)) : p.Leaves (writeRecords s n p items) := by
  induction items generalizing n p with
  | nil =>
    rw [writeRecords]
    split
    · next closing => exact .fail (closed_of_closeInput closing).1 s _
    · next closing => exact .ok (closed_of_closeInput closing).1 _
  | cons item rest ih =>
    cases item with
    | error e => exact .fail (.refl p) s _
    | ok r =>
      rw [writeRecords]
      split
      · split
        · exact .fail (.refl p) s _
        · have counted : p.Proceeds { p with recordsSent := p.recordsSent + 1 } :=
            ⟨id, id, .inl, .inl rfl⟩
          exact .after counted (ih (n + 1) _)
      · exact .fail (.refl p) s _

/-- A process that ended by itself is not killed, whatever is wrong with its output. -/
theorem leaves_judge (s : Surroundings) (closed : p.inputOpen = false) (status : ExitStatus)
    (bytes : List UInt8) : p.Leaves (p.judge s status bytes) := by
  have ended : ({ p with terminated := true } : AggregationProcess).Ended := ⟨rfl, closed⟩
  have proceeds : p.Proceeds { p with terminated := true } :=
    ⟨id, fun _ => rfl, fun _ => .inr closed, .inl rfl⟩
  rw [judge]
  split
  · split
    · exact .ok proceeds _
    · exact ⟨proceeds, fun _ _ => ended⟩
  · exact ⟨proceeds, fun _ _ => ended⟩

theorem leaves_awaitExit (s : Surroundings) (closed : p.inputOpen = false) (bytes : List UInt8) :
    p.Leaves (p.awaitExit s bytes) := by
  rw [awaitExit]
  split
  · exact .fail (.refl p) s _
  · split
    · exact leaves_judge s closed _ bytes
    · exact .fail (.refl p) s _
    · exact .fail (.refl p) s _

theorem leaves_takeOutput (s : Surroundings) (p : AggregationProcess) :
    p.Leaves (p.takeOutput s) := by
  rw [takeOutput]
  split
  · next closing => exact .fail (closed_of_closeInput closing).1 s _
  · next p₁ closing =>
    obtain ⟨proceeds, closed⟩ := closed_of_closeInput closing
    split
    · exact .fail proceeds s _
    · have taken : p.Proceeds { p₁ with outputTaken := true } :=
        proceeds.trans ⟨id, id, .inl, .inl rfl⟩
      have stillClosed : ({ p₁ with outputTaken := true } : AggregationProcess).inputOpen = false :=
        closed
      dsimp only
      split
      · exact .after taken (leaves_awaitExit s stillClosed _)
      all_goals exact .fail taken s _

theorem leaves_collect (s : Surroundings) (p : AggregationProcess) (kind : AggregationKind) :
    p.Leaves (p.collect s kind) := by
  have output := leaves_takeOutput s p
  rw [collect]
  split
  · next h =>
    rw [h] at output
    exact ⟨output.proceeds, fun _ _ => output.ended _ rfl⟩
  · next h =>
    rw [h] at output
    split
    · exact .ok output.proceeds _
    · exact .fail output.proceeds s _

/-- The surroundings let the process end with success, and its end is known. -/
structure Succeeded (s : Surroundings) (p : AggregationProcess) : Prop where
  terminated : p.terminated = true
  status : ∃ status, s.exit = .ended status ∧ status.isSuccess = true

theorem succeeded_of_judge {status : ExitStatus} {bytes : List UInt8} {output : String}
    (ended : s.exit = .ended status) (h : p.judge s status bytes = (.ok output, p')) :
    p'.Succeeded s := by
  rw [judge] at h
  split at h
  · next success =>
    split at h
    · obtain ⟨-, rfl⟩ := Prod.mk.inj h
      exact ⟨rfl, status, ended, success⟩
    · cases h
  · cases h

theorem succeeded_of_takeOutput {output : String} (h : p.takeOutput s = (.ok output, p')) :
    p'.Succeeded s := by
  rw [takeOutput] at h
  split at h
  · cases h
  · split at h
    · cases h
    · dsimp only at h
      split at h
      · rw [awaitExit] at h
        split at h
        · cases h
        · split at h
          · next status ended => exact succeeded_of_judge ended h
          all_goals cases h
      all_goals cases h

theorem succeeded_of_collect {kind : AggregationKind} {output : AggregationOutput}
    (h : p.collect s kind = (.ok output, p')) : p'.Succeeded s := by
  rw [collect] at h
  split at h
  · cases h
  · next taken =>
    split at h
    · obtain ⟨-, rfl⟩ := Prod.mk.inj h
      exact succeeded_of_takeOutput taken
    · cases h

/-- How many items come before the first that is an error or cannot be written, when the writes are
numbered from a number on. -/
def writable (s : Surroundings) (n : Nat) (items : List (Except StreamError Record)) : Nat :=
  ((items.zipIdx n).takeWhile fun (item, number) =>
    item.isOk && (s.writeFault number).isNone).length

theorem writable_error (s : Surroundings) (n : Nat) (e : StreamError)
    (rest : List (Except StreamError Record)) : writable s n (.error e :: rest) = 0 := rfl

theorem writable_of_fault {n : Nat} {reason : String} (h : s.writeFault n = some reason)
    (item : Except StreamError Record) (rest : List (Except StreamError Record)) :
    writable s n (item :: rest) = 0 := by
  simp [writable, List.zipIdx_cons, h]

theorem writable_of_noFault {n : Nat} (h : s.writeFault n = none) (r : Record)
    (rest : List (Except StreamError Record)) :
    writable s n (.ok r :: rest) = writable s (n + 1) rest + 1 := by
  simp [writable, List.zipIdx_cons, h, Except.isOk, Except.toBool]

theorem recordsSent_fail (s : Surroundings) (p : AggregationProcess) (e : BridgeError) :
    (p.fail s e : Operation α).2.recordsSent = p.recordsSent := by
  rw [fail, kill]
  split <;> rfl

/-- Exactly the records that were written are counted, none where the input was closed before. -/
theorem recordsSent_writeRecords (s : Surroundings) (n : Nat) (p : AggregationProcess)
    (items : List (Except StreamError Record)) :
    (writeRecords s n p items).2.recordsSent
      = p.recordsSent + if p.inputOpen then writable s n items else 0 := by
  induction items generalizing n p with
  | nil =>
    have none : writable s n [] = 0 := rfl
    rw [writeRecords, none, ite_self, Nat.add_zero]
    split
    · next closing =>
      obtain ⟨-, rfl⟩ := Prod.mk.inj closing
      exact recordsSent_fail s _ _
    · next closing =>
      obtain ⟨-, rfl⟩ := Prod.mk.inj closing
      rfl
  | cons item rest ih =>
    cases item with
    | error e =>
      rw [writeRecords, recordsSent_fail, writable_error, ite_self, Nat.add_zero]
    | ok r =>
      rw [writeRecords]
      split
      · next isOpen =>
        cases fault : s.writeFault n with
        | some reason =>
          rw [writable_of_fault fault, Nat.add_zero]
          exact recordsSent_fail s p _
        | none =>
          have counted := ih (n + 1) { p with recordsSent := p.recordsSent + 1 }
          rw [if_pos isOpen] at counted
          rw [writable_of_noFault fault]
          refine counted.trans ?_
          change p.recordsSent + 1 + _ = _
          omega
      · next closed => exact recordsSent_fail s p _

/-- What can be asked of a process. -/
inductive Request
  | send
  /-- Records and errors in any order. -/
  | stream (items : List (Except StreamError Record))
  | collect (kind : AggregationKind)
  | kill

inductive Answer
  | done
  | sent (records : Nat)
  | collected (output : AggregationOutput)

def perform (s : Surroundings) (p : AggregationProcess) : Request → Operation Answer
  | .send => ((p.send s).1.map fun _ => .done, (p.send s).2)
  | .stream items => ((writeRecords s 0 p items).1.map .sent, (writeRecords s 0 p items).2)
  | .collect kind => ((p.collect s kind).1.map .collected, (p.collect s kind).2)
  | .kill => (.ok .done, p.kill s)

/-- The process after some requests, each in surroundings of its own. -/
def run (p : AggregationProcess) (requests : List (Surroundings × Request)) : AggregationProcess :=
  requests.foldl (fun p step => (p.perform step.1 step.2).2) p

theorem leaves_perform (s : Surroundings) (p : AggregationProcess) (request : Request) :
    p.Leaves (p.perform s request) := by
  cases request with
  | send => exact (leaves_send s p).map _
  | stream items => exact (leaves_writeRecords s 0 p items).map _
  | collect kind => exact (leaves_collect s p kind).map _
  | kill => exact .ok (kill_proceeds s p) _

/-- What is true of every process, whatever was asked of it. -/
structure Sound (p : AggregationProcess) : Prop where
  closed : p.terminated = true → p.inputOpen = false
  once : p.killAttempts ≤ 1
  killed : p.killAttempts = 1 → p.terminated = true

theorem sound_spawned (settings : ProcessSettings) : (spawned settings).Sound where
  closed := by rintro ⟨⟩
  once := Nat.zero_le 1
  killed := by rintro ⟨⟩

theorem Sound.proceeds (h : p.Sound) (next : p.Proceeds p') : p'.Sound where
  closed := by
    intro ended
    rcases next.orderly ended with before | closed
    · exact next.closing (h.closed before)
    · exact closed
  once := by
    rcases next.kills with same | ⟨running, _, more⟩
    · exact same ▸ h.once
    · have unkilled : p.killAttempts ≠ 1 := fun one => Bool.eq_false_iff.mp running (h.killed one)
      have := h.once
      omega
  killed := by
    intro one
    rcases next.kills with same | ⟨_, ended, _⟩
    · exact next.ending (h.killed (same ▸ one))
    · exact ended

theorem Sound.run (h : p.Sound) (requests : List (Surroundings × Request)) :
    (p.run requests).Sound := by
  induction requests generalizing p with
  | nil => exact h
  | cons step rest ih => exact ih (h.proceeds (leaves_perform step.1 p step.2).proceeds)

theorem succeeded_of_perform {kind : AggregationKind} {answer : Answer}
    (h : (p.perform s (.collect kind)).1 = .ok answer) :
    (p.perform s (.collect kind)).2.Succeeded s := by
  rw [perform] at h ⊢
  cases collected : p.collect s kind with
  | mk result p' =>
    rw [collected] at h
    cases result with
    | error e => cases h
    | ok output => exact succeeded_of_collect collected

/-- The life of a process. Whatever was asked of it before, it was killed at most once, and it has
ended if it was killed; after a failure it has ended and its input is closed; once it has ended it is
not killed any more; an output is collected only from a process that ended with success; and the
records that are counted are exactly those written before the first error or failed write. -/
theorem run_perform (settings : ProcessSettings) (requests : List (Surroundings × Request))
    (s : Surroundings) (request : Request) :
    let before := (spawned settings).run requests
    let after := before.perform s request
    (before.killAttempts ≤ 1 ∧ (before.killAttempts = 1 → before.terminated = true)) ∧
    (∀ e, after.1 = .error e → after.2.terminated = true ∧ after.2.inputOpen = false) ∧
    (before.terminated = true → after.2.killAttempts = before.killAttempts) ∧
    (∀ kind answer, request = .collect kind → after.1 = .ok answer →
      after.2.terminated = true ∧ ∃ status, s.exit = .ended status ∧ status.isSuccess = true) ∧
    ∀ items, request = .stream items →
      after.2.recordsSent
        = before.recordsSent + if before.inputOpen then writable s 0 items else 0 := by
  intro before after
  have sound : before.Sound := (sound_spawned settings).run requests
  have leaves : before.Leaves after := leaves_perform s before request
  refine ⟨⟨sound.once, sound.killed⟩, ?_, leaves.proceeds.killAttempts_eq, ?_, ?_⟩
  · intro e failed
    have ended := leaves.ended e failed
    exact ⟨ended.terminated, ended.closed⟩
  · rintro kind answer rfl answered
    have succeeded := succeeded_of_perform answered
    exact ⟨succeeded.terminated, succeeded.status⟩
  · rintro items rfl
    exact recordsSent_writeRecords s 0 before items

/-- Every write and the closing succeed; the process runs until it is killed. -/
def calm : Surroundings :=
  ⟨fun _ => none, none, none, .stillOpen, .stillRunning, false, ""⟩

/-- The process answers with a number and ends. -/
def answering : Surroundings :=
  { calm with
    output := .closed ((Reply.success 0).line ++ "1").toUTF8.toList
    exit := .ended (.code 0) }

theorem collected_answering :
    (((spawned (.standard "sh")).run [(calm, .send), (calm, .stream [])]).perform answering
      (.collect .kpi)).1.isOk = true := by
  decide +kernel

/-- A stream that breaks after a record: the process is killed, and another request and another
kill leave it at that. A process whose output is collected has ended. -/
theorem run_perform_brokenAndWhole :
    let requests : List (Surroundings × Request) :=
      [(calm, .send), (calm, .stream [.ok [], .error (.store (.cursor "gone")), .ok []]),
        (calm, .send)]
    let broken := (spawned (.standard "sh")).run requests
    let whole := (spawned (.standard "sh")).run [(calm, .send), (calm, .stream [])]
    broken.recordsSent = 1 ∧ broken.killAttempts = 1 ∧ broken.terminated = true ∧
      (broken.perform calm .kill).2.killAttempts = 1 ∧
      (∃ answer, (whole.perform answering (.collect .kpi)).1 = .ok answer) ∧
      (whole.perform answering (.collect .kpi)).2.terminated = true := by
  intro requests broken whole
  obtain ⟨⟨_, killed⟩, _, unkilled, _, _⟩ := run_perform (.standard "sh") requests calm .kill
  have once : broken.killAttempts = 1 := rfl
  have ended : broken.terminated = true := killed once
  obtain ⟨_, _, _, collected, _⟩ := run_perform (.standard "sh")
    [(calm, .send), (calm, .stream [])] answering (.collect .kpi)
  obtain ⟨answer, answered⟩ :
      ∃ answer, (whole.perform answering (.collect .kpi)).1 = .ok answer := by
    have isOk := collected_answering
    cases result : (whole.perform answering (.collect .kpi)).1 with
    | error e => rw [result] at isOk; cases isOk
    | ok answer => exact ⟨answer, rfl⟩
  exact ⟨rfl, once, ended, (unkilled ended).trans once, ⟨answer, answered⟩,
    (collected _ answer rfl answered).1⟩

end AggregationProcess

end RecordQuery
