import RecordQuery.Proofs.Filter.Evaluation

/-!
# Terms that cross lookups

A term is followed from its document field by field, and from each lookup on to the document that it
refers to. Every step takes a segment off the term, so the way ends even where lookups refer to each
other in a circle. A registry that passes its validation holds every document on the way, and the
only thing that may be missing is a field.
-/

namespace RecordQuery

namespace Registry

/-- A registry is valid exactly if every lookup of every document refers to a registered one. -/
theorem validate_eq_ok_iff {r : Registry} :
    r.validate = .ok () ↔ ∀ entry ∈ r.documents, ∀ declared ∈ entry.2.fields,
      declared.2.isLookup = true → (r.document? (target declared.2)).isSome = true := by
  have hvalid : r.validate = .ok () ↔
      (r.documents.findSome? fun entry => r.dangling? entry.2) = none := by
    rw [validate]
    cases r.documents.findSome? fun entry => r.dangling? entry.2 <;> simp
  rw [hvalid]
  simp [dangling?, Option.isSome_iff_ne_none]

/-- The document that a lookup refers to, wherever the lookup is declared. -/
theorem exists_target {r : Registry} (valid : r.validate = .ok ()) {name segment : String}
    {document : DocumentType} {f : Field} (registered : r.document? name = some document)
    (declared : document.field? segment = some f) (lookup : f.isLookup = true) :
    ∃ next, r.document? (target f) = some next :=
  Option.isSome_iff_exists.mp (validate_eq_ok_iff.mp valid (name, document)
    (Fields.mem_of_get? registered) (segment, f) (Fields.mem_of_get? declared) lookup)

end Registry

namespace Term

/-- Where segments lead from a document: each is declared in the document reached so far, and all
but the last are lookups, followed to what they refer to. -/
inductive Follows (registry : Registry) : DocumentType → Path → Field → Prop
  | field {document : DocumentType} {segment : String} {f : Field}
      (declared : document.field? segment = some f) : Follows registry document [segment] f
  | through {document next : DocumentType} {segment : String} {rest : Path} {f last : Field}
      (declared : document.field? segment = some f) (lookup : f.isLookup = true)
      (refers : registry.document? (Registry.target f) = some next)
      (onward : Follows registry next rest last) : Follows registry document (segment :: rest) last

/-- The way to what a term resolves to: the identifier of the document, or declared fields up to the
one whose type the term has. What is left below is the same; below a lookup it is at most the
identifier of what the lookup refers to. -/
inductive Reaches (registry : Registry) (document : DocumentType) (path : Path) :
    ResolvedTerm → Prop
  | identifier {below : Path} (split : path = "_id" :: below) :
      Reaches registry document path ⟨"ObjectId", below⟩
  | field {segments below : Path} {f : Field} (split : path = segments ++ below)
      (follows : Follows registry document segments f)
      (stops : f.isLookup = true → below = [] ∨ below = ["_id"]) :
      Reaches registry document path ⟨f.type, below⟩

/-- Below a declared field the segments are followed as far as lookups go. -/
theorem follows_of_resolveBelow {registry : Registry} {term : String} {path : Path} :
    ∀ {document : DocumentType} {segment : String} {f : Field} {resolved : ResolvedTerm},
      document.field? segment = some f → resolveBelow registry term f path = .ok resolved →
        ∃ segments last, segment :: path = segments ++ resolved.below ∧
          Follows registry document segments last ∧ resolved.fieldType = last.type ∧
          (last.isLookup = true → resolved.below = [] ∨ resolved.below = ["_id"]) := by
  induction path with
  | nil =>
    intro document segment f resolved declared h
    obtain rfl := Except.ok.inj h
    exact ⟨[segment], f, rfl, .field declared, rfl, fun _ => .inl rfl⟩
  | cons next rest ih =>
    intro document segment f resolved declared h
    rw [resolveBelow] at h
    split at h
    · rename_i crosses
      cases hreferenced : registry.document? (Registry.target f) with
      | none => simp [hreferenced] at h
      | some referenced =>
        cases hnext : referenced.field? next with
        | none => simp [hreferenced, hnext] at h
        | some g =>
          simp only [hreferenced, hnext] at h
          obtain ⟨segments, last, hsplit, follows, htype, hstops⟩ := ih hnext h
          exact ⟨segment :: segments, last, by rw [hsplit, List.cons_append],
            .through declared crosses.1 hreferenced follows, htype, hstops⟩
    · rename_i stays
      obtain rfl := Except.ok.inj h
      refine ⟨[segment], f, rfl, .field declared, rfl, fun lookup => .inr ?_⟩
      exact Decidable.byContradiction fun onward => stays ⟨lookup, onward⟩

theorem reaches_of_resolve {registry : Registry} {document : DocumentType} {term : String}
    {resolved : ResolvedTerm} (h : resolve registry document term = .ok resolved) :
    Reaches registry document (Path.ofText term) resolved := by
  rw [resolve] at h
  rw [Path.ofText_eq] at h ⊢
  by_cases hid : Path.root term = "_id"
  · simp only [hid, ↓reduceIte] at h
    obtain rfl := Except.ok.inj h
    exact .identifier (by rw [hid])
  · simp only [hid, ↓reduceIte] at h
    cases hfield : document.field? (Path.root term) with
    | none => simp [hfield] at h
    | some f =>
      simp only [hfield] at h
      obtain ⟨segments, last, hsplit, follows, htype, hstops⟩ := follows_of_resolveBelow hfield h
      obtain ⟨type, below⟩ := resolved
      obtain rfl : type = last.type := htype
      exact .field hsplit follows hstops

end Term

/-- A step that ends with a result, or with an error that is not about a document. -/
def Settles {α : Type} (x : Except CompileError α) : Prop :=
  (∃ a, x = .ok a) ∨ ∃ e, x = .error e ∧ ∀ target, e ≠ .unknownDocument target

namespace Settles

variable {α β : Type}

theorem ok (a : α) : Settles (.ok a) := .inl ⟨a, rfl⟩

theorem invalid (term : String) (fault : ValueFault) :
    Settles (.error (.invalidValue term fault) : Except CompileError α) :=
  .inr ⟨_, rfl, by simp⟩

theorem bind {x : Except CompileError α} {f : α → Except CompileError β} (h : Settles x)
    (next : ∀ a, Settles (f a)) : Settles (x >>= f) := by
  rcases h with ⟨a, rfl⟩ | ⟨e, rfl, he⟩
  · exact next a
  · exact .inr ⟨e, rfl, he⟩

theorem map {x : Except CompileError α} (h : Settles x) (f : α → β) : Settles (x.map f) := by
  rcases h with ⟨a, rfl⟩ | ⟨e, rfl, he⟩
  · exact ok (f a)
  · exact .inr ⟨e, rfl, he⟩

theorem of_failure? {x : Except CompileError α}
    (h : ∀ e, failureOf x = some e → ∀ target, e ≠ .unknownDocument target) : Settles x := by
  cases x with
  | ok a => exact ok a
  | error e => exact .inr ⟨e, rfl, h e rfl⟩

theorem ne_unknownDocument {x : Except CompileError α} (h : Settles x) {e : CompileError}
    (failed : failureOf x = some e) (target : String) : e ≠ .unknownDocument target := by
  rcases h with ⟨a, rfl⟩ | ⟨e', rfl, he⟩
  · cases failed
  · obtain rfl := Option.some.inj failed
    exact he target

end Settles

namespace Term

/-- Where every lookup on the way refers to a document, only a field can be missing. -/
theorem settles_resolveBelow {registry : Registry} (valid : registry.validate = .ok ())
    {term : String} {path : Path} :
    ∀ {name segment : String} {document : DocumentType} {f : Field},
      registry.document? name = some document → document.field? segment = some f →
        Settles (resolveBelow registry term f path) := by
  induction path with
  | nil => exact fun _ _ => .inl ⟨_, rfl⟩
  | cons next rest ih =>
    intro name segment document f registered declared
    rw [resolveBelow]
    split
    · rename_i crosses
      obtain ⟨referenced, hreferenced⟩ :=
        Registry.exists_target valid registered declared crosses.1
      simp only [hreferenced]
      cases hnext : referenced.field? next with
      | none => exact .inr ⟨_, rfl, by simp⟩
      | some g => exact ih hreferenced hnext
    · exact .inl ⟨_, rfl⟩

theorem settles_resolve {registry : Registry} (valid : registry.validate = .ok ()) {name : String}
    {document : DocumentType} (registered : registry.document? name = some document)
    (term : String) : Settles (resolve registry document term) := by
  rw [resolve, Path.ofText_eq]
  by_cases hid : Path.root term = "_id"
  · simp only [hid, ↓reduceIte]
    exact .inl ⟨_, rfl⟩
  · simp only [hid, ↓reduceIte]
    cases hfield : document.field? (Path.root term) with
    | none => exact .inr ⟨_, rfl, by simp⟩
    | some f => exact settles_resolveBelow valid registered hfield

end Term

namespace Operand

variable (ctx : FilterContext) (term : String) (resolved : ResolvedTerm) (raw : Value)

theorem settles_resolve (operator : Operator) :
    Settles (resolve ctx operator term resolved raw) := by
  simp only [resolve]
  cases raw with
  | str s =>
    simp only
    split
    · exact .invalid _ _
    · exact .ok _
    · exact .ok _
  | _ => exact .ok _

theorem settles_checkLiteral (v : Value) : Settles (checkLiteral term v) := by
  rw [checkLiteral]
  split
  · exact .invalid _ _
  · exact .ok _

theorem settles_literal : Settles (literal ctx term resolved raw) :=
  (settles_resolve ctx term resolved raw _).bind (settles_checkLiteral term)

theorem settles_bound (bounds : Record) (name : String) :
    Settles (bound ctx term resolved bounds name) := by
  rw [bound_eq]
  split
  · exact .ok _
  · exact (settles_literal ctx term resolved _).map some

end Operand

namespace Condition

variable {ctx : FilterContext} {document : DocumentType}

theorem settles_textClause (term : String) (operator : Operator) (v : Value) :
    Settles (textClause term operator v) := by
  have found : ∀ text, Settles (textClause term operator (.str text)) := by
    intro text
    simp only [textClause, bind, Except.bind]
    split
    · exact .ok _
    · exact .invalid _ _
  cases v with
  | str text => exact found text
  | num n => exact found n.text
  | _ => exact .invalid _ _

/-- What a value lacks is an error about the value. -/
theorem settles_clause (operator : Operator) (term : String) (resolved : ResolvedTerm)
    (raw : Value) : Settles (clause ctx operator term resolved raw) := by
  have literal : ∀ {make : Value → Clause}, operator.literal? = some make →
      Settles (clause ctx operator term resolved raw) := by
    intro make hmake
    rw [clause_of_literal hmake]
    exact (Operand.settles_literal ctx term resolved raw).map _
  have resolves := Operand.settles_resolve ctx term resolved raw operator
  cases operator with
  | currentUser | notCurrentUser | currentUserGroup | notCurrentUserGroup | currentUserGroups =>
    exact .ok _
  | isPresent => exact resolves.bind fun _ => .ok _
  | between =>
    cases raw with
    | obj bounds =>
      refine (Operand.settles_bound ctx term resolved bounds _).bind fun low => ?_
      exact (Operand.settles_bound ctx term resolved bounds _).bind fun high => .ok _
    | _ => exact .ok _
  | contains | notContains | startsWith | endsWith =>
    exact resolves.bind fun v => (settles_textClause term _ v).bind fun _ => .ok _
  | _ => exact literal rfl

theorem settles_compile (valid : ctx.registry.validate = .ok ()) {name : String}
    (registered : ctx.registry.document? name = some document) (c : Condition) :
    Settles (c.compile ctx document) := by
  rw [compile]
  split
  · refine (Term.settles_resolve valid registered _).bind fun resolved => ?_
    split
    · exact .inr ⟨_, rfl, by simp⟩
    · split
      · exact .inr ⟨_, rfl, by simp⟩
      · exact (settles_clause _ _ _ _).bind fun _ => .ok _
  · exact .inr ⟨_, rfl, by simp⟩

end Condition

namespace Filter

variable {ctx : FilterContext} {document : DocumentType}

/-- A filter fails as one of its conditions does. -/
theorem settles_compile (valid : ctx.registry.validate = .ok ()) {name : String}
    (registered : ctx.registry.document? name = some document) (f : Filter) :
    Settles (f.compile ctx document) := by
  refine .of_failure? fun e he => ?_
  rw [failureOf_compile] at he
  obtain ⟨c, _, hc⟩ := List.exists_of_findSome?_eq_some he
  exact (Condition.settles_compile valid registered c).ne_unknownDocument hc

/-- In a valid registry no condition and no filter of a registered document fails for want of a
document, whatever circle its lookups go in. The term of a compiled condition leads from the
document to its identifier or to a declared field, by declared lookups alone. -/
theorem compile_stays_registered (valid : ctx.registry.validate = .ok ()) {name : String}
    (registered : ctx.registry.document? name = some document) :
    (∀ c : Condition, Settles (c.compile ctx document)) ∧
    (∀ f : Filter, Settles (f.compileQuery ctx document) ∧
      Settles (f.compilePredicate ctx document)) ∧
    ∀ (c : Condition) compiled, c.compile ctx document = .ok compiled →
      ∃ resolved, Term.resolve ctx.registry document compiled.term = .ok resolved ∧
        Term.Reaches ctx.registry document (Path.ofText compiled.term) resolved := by
  refine ⟨Condition.settles_compile valid registered, fun f => ⟨?_, ?_⟩, ?_⟩
  · exact (settles_compile valid registered f).bind fun _ => .ok _
  · exact (settles_compile valid registered f).bind fun _ => .ok _
  · intro c compiled h
    obtain ⟨_, _, resolved, _, _, _, hresolved, _, _, _⟩ := Condition.compile_eq_ok h
    rw [← Condition.compile_term h] at hresolved
    exact ⟨resolved, hresolved, Term.reaches_of_resolve hresolved⟩

end Filter

namespace Deals

/-- Deals have owners, whose managers have managers. -/
def managed : Registry :=
  ⟨[("Deal", document), ("User", ⟨"User", [], [("manager", ⟨"manager", "lookup", some "User", false,
      [], [], ["name"], []⟩), ("name", textField "name")]⟩)], [], []⟩

def managedContext : FilterContext := ⟨managed, User.new "u1", ⟨0, 0⟩⟩

def managedByAnn : Condition :=
  Condition.new "owner.manager.manager.name" "in" (.arr [.str "Ann"])

end Deals

namespace Filter

open Deals (managedContext managedByAnn)

/-- Two rounds of a lookup that refers to its own document. -/
theorem compile_stays_registered_managed :
    managedContext.registry.validate = .ok () ∧
    managedContext.registry.document? "Deal" = some Deals.document ∧
    ∃ compiled resolved, managedByAnn.compile managedContext Deals.document = .ok compiled ∧
      Term.resolve managedContext.registry Deals.document compiled.term = .ok resolved ∧
      Term.Reaches managedContext.registry Deals.document
        ["owner", "manager", "manager", "name"] resolved := by
  have valid : managedContext.registry.validate = .ok () := rfl
  have registered : managedContext.registry.document? "Deal" = some Deals.document := rfl
  obtain ⟨_, _, reaches⟩ := compile_stays_registered valid registered
  have hcompiled : ∃ compiled, managedByAnn.compile managedContext Deals.document = .ok compiled :=
    ⟨_, rfl⟩
  obtain ⟨compiled, hcompiled⟩ := hcompiled
  obtain ⟨resolved, hresolved, hreaches⟩ := reaches managedByAnn compiled hcompiled
  have hterm : Path.ofText compiled.term = ["owner", "manager", "manager", "name"] := by
    rw [Condition.compile_term hcompiled]
    decide
  exact ⟨valid, registered, compiled, resolved, hcompiled, hresolved, hterm ▸ hreaches⟩

end Filter

end RecordQuery
