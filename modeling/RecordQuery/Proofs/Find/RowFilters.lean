import RecordQuery.Proofs.Filter.Evaluation
import RecordQuery.Proofs.Find.Build

/-!
# The filters of a read

The query of a read conjoins the conditions of every filter that applies. Of their searches it keeps
that of the request's own filter alone, so it says what the filters say together exactly where the
other searches would have found the same records.
-/

namespace RecordQuery

namespace Filter

def enabled (fs : List Filter) : List Filter := fs.filter fun f => !f.disabled

/-- The record meets the conditions of the filter, its search aside. -/
def Passes (ctx : FilterContext) (document : DocumentType) (f : Filter) (r : Record) : Prop :=
  ∃ compiled, f.compile ctx document = .ok compiled ∧ compiled.toPredicate.holds r = true

/-- The filter's own search, if it has one, finds the record. -/
def Finds (f : Filter) (r : Record) : Prop :=
  ∀ search, f.search = some search → Predicate.findsWord search r = true

/-- The filter, taken on its own, matches the record. -/
def Accepts (ctx : FilterContext) (document : DocumentType) (f : Filter) (r : Record) : Prop :=
  ∃ p, f.compilePredicate ctx document = .ok p ∧ p.holds r = true

variable {ctx : FilterContext} {document : DocumentType}

theorem accepts_iff {f : Filter} {r : Record} :
    f.Accepts ctx document r ↔ f.Passes ctx document r ∧ f.Finds r := by
  unfold Accepts Passes Finds compilePredicate
  cases f.compile ctx document with
  | error e => simp [bind, Except.bind]
  | ok compiled =>
    cases f.search with
    | none => simp [bind, Except.bind, pure, Except.pure]
    | some search =>
      simp [bind, Except.bind, pure, Except.pure, Predicate.holds, Predicate.allHold]

theorem compiles_of_compile {f : Filter} {compiled : CompiledFilter}
    (h : f.compile ctx document = .ok compiled) :
    ∃ p, f.compilePredicate ctx document = .ok p := by
  unfold compilePredicate
  rw [h]
  cases f.search with
  | none => exact ⟨_, rfl⟩
  | some search => exact ⟨_, rfl⟩

theorem passes_of_compile {f : Filter} {compiled : CompiledFilter}
    (h : f.compile ctx document = .ok compiled) (r : Record) :
    f.Passes ctx document r ↔ compiled.toPredicate.holds r = true := by
  simp [Passes, h]

theorem compileParts_compiles : ∀ {fs : List Filter} {parts : List CompiledFilter},
    compileParts ctx document fs = .ok parts →
      ∀ f ∈ enabled fs, ∃ compiled, f.compile ctx document = .ok compiled
  | [], parts, _, f, hf => by simp [enabled] at hf
  | first :: rest, parts, h, f, hf => by
    rw [compileParts] at h
    cases hdisabled : first.disabled with
    | true =>
      simp only [hdisabled, ↓reduceIte] at h
      exact compileParts_compiles h f (by simpa [enabled, hdisabled] using hf)
    | false =>
      simp only [hdisabled, Bool.false_eq_true, ↓reduceIte] at h
      obtain ⟨compiled, hcompiled, h⟩ := bind_eq_ok_iff.mp h
      obtain ⟨others, hothers, _⟩ := bind_eq_ok_iff.mp h
      have hf : f = first ∨ f ∈ enabled rest := by simpa [enabled, hdisabled] using hf
      rcases hf with rfl | hf
      · exact ⟨compiled, hcompiled⟩
      · exact compileParts_compiles hothers f hf

theorem evaluateParts_eq_map (answer : Condition → Bool) (fs : List Filter) :
    evaluateParts answer fs = (enabled fs).map (evaluate answer) := by
  induction fs with
  | nil => rfl
  | cons f rest ih =>
    rw [evaluateParts]
    cases hdisabled : f.disabled with
    | true => simpa [enabled, hdisabled] using ih
    | false => simpa [enabled, hdisabled] using ih

/-- Compiled parts hold together where each enabled filter's conditions are met. -/
theorem allHold_compileParts (r : Record) {fs : List Filter} {parts : List CompiledFilter}
    (h : compileParts ctx document fs = .ok parts) :
    Predicate.allHold (CompiledFilter.toPredicates parts) r = true ↔
      ∀ f ∈ enabled fs, f.Passes ctx document r := by
  rw [CompiledFilter.allHold_toPredicates, answers_compileParts r fs h, evaluateParts_eq_map,
    List.all_map, List.all_eq_true]
  refine forall₂_congr fun f hf => ?_
  obtain ⟨compiled, hcompiled⟩ := compileParts_compiles h f hf
  rw [passes_of_compile hcompiled, holds_compile r f hcompiled]
  rfl

theorem compile_allOf {fs : List Filter} {compiled : CompiledFilter}
    (h : (allOf fs).compile ctx document = .ok compiled) :
    ∃ parts, compileParts ctx document fs = .ok parts ∧ compiled = .combine .and parts := by
  obtain ⟨parts, hparts, h⟩ := bind_eq_ok_iff.mp h
  obtain ⟨own, hown, h⟩ := bind_eq_ok_iff.mp h
  obtain rfl : own = [] := (Except.ok.inj hown).symm
  rw [List.append_nil] at h
  exact ⟨parts, hparts, (Except.ok.inj h).symm⟩

end Filter

namespace CompiledFilter

theorem holds_combine_and (parts : List CompiledFilter) (r : Record) :
    (combine .and parts).toPredicate.holds r = Predicate.allHold (toPredicates parts) r := by
  rw [holds_combine, allHold_toPredicates, Combination.verdict]
  cases answers parts r <;> rfl

end CompiledFilter

namespace QueryEngine

/-- The search of the request's own filter, which alone is kept, finds the record. -/
def RequestFinds (request : FindRequest) (r : Record) : Prop :=
  ∀ f, request.filter = some f → f.Finds r

/-- The filters that a read has to satisfy. -/
def rowFilters (registry : Registry) (profile : Profile) (request : FindRequest) : List Filter :=
  Filter.enabled (applicableFilters registry profile request)

theorem requestFinds_iff {request : FindRequest} {r : Record} :
    RequestFinds request r ↔
      ∀ search, request.filter.bind (·.search) = some search →
        Predicate.findsWord search r = true := by
  unfold RequestFinds Filter.Finds
  cases request.filter with
  | none => simp
  | some f => simp

/-- The store reads the query of a read as the conditions of all its filters and one search. -/
theorem read_compileQuery {ctx : FilterContext} {profile : Profile} {document : DocumentType}
    {request : FindRequest} {query : Value} (plain : document.PlainNames)
    (h : compileQuery ctx profile document request = .ok query) :
    (∀ f ∈ rowFilters ctx.registry profile request,
      ∃ p, f.compilePredicate ctx document = .ok p) ∧
    ∃ read, Query.read query = .ok read ∧
      ∀ r, read.holds r = true ↔
        (∀ f ∈ rowFilters ctx.registry profile request, f.Passes ctx document r) ∧
          RequestFinds request r := by
  obtain ⟨whole, hwhole, h⟩ := bind_eq_ok_iff.mp h
  obtain ⟨compiled, hcompiled, hwhole⟩ := bind_eq_ok_iff.mp hwhole
  obtain rfl : compiled.toQuery = whole := Except.ok.inj hwhole
  obtain ⟨fields, clauses, hread⟩ :=
    CompiledFilter.exists_readAs _ (Filter.compile_faithful plain hcompiled)
  obtain ⟨parts, hparts, rfl⟩ := Filter.compile_allOf hcompiled
  have hpasses : ∀ r, (CompiledFilter.combine .and parts).toPredicate.holds r = true ↔
      ∀ f ∈ rowFilters ctx.registry profile request, f.Passes ctx document r := by
    intro r
    rw [CompiledFilter.holds_combine_and]
    exact Filter.allHold_compileParts r hparts
  refine ⟨?_, ?_⟩
  · intro f hf
    obtain ⟨c, hc⟩ := Filter.compileParts_compiles hparts f hf
    exact Filter.compiles_of_compile hc
  · cases hsearch : request.filter.bind (·.search) with
    | none =>
      rw [hsearch] at h
      obtain rfl := Except.ok.inj h
      obtain ⟨read, hok, hagrees⟩ := hread.read_toQuery
      refine ⟨read, hok, fun r => ?_⟩
      rw [hagrees.holds, requestFinds_iff, hsearch, hpasses r]
      simp
    | some search =>
      rw [hsearch] at h
      obtain rfl := Except.ok.inj h
      obtain ⟨read, hok, hagrees⟩ := hread.addSearch search
      refine ⟨read, hok, fun r => ?_⟩
      rw [hagrees.holds, requestFinds_iff, hsearch, ← hpasses r]
      simp [Predicate.holds, Predicate.allHold]

/-- A read is matched by its query as by its filters, each on its own, except where the searches
that the query leaves out matter: among the records that meet all conditions, the search of the
request's own filter has to find what all the searches find. -/
theorem planQuery_matches_iff {engine : QueryEngine} {request : FindRequest} {built : BuiltQuery}
    (h : engine.build request = .ok built) (plain : built.document.PlainNames) :
    ∃ profile read,
      Access.profileFor? request.document built.user engine.registry = some profile ∧
      Query.read built.plan.query = .ok read ∧
      let ctx := engine.context built.user
      let filters := rowFilters engine.registry profile request
      (∀ f ∈ filters, ∃ p, f.compilePredicate ctx built.document = .ok p) ∧
      ∀ r,
        (read.holds r = true ↔
          (∀ f ∈ filters, f.Passes ctx built.document r) ∧ RequestFinds request r) ∧
        ((read.holds r = true ↔ ∀ f ∈ filters, f.Accepts ctx built.document r) ↔
          ((∀ f ∈ filters, f.Passes ctx built.document r) →
            (RequestFinds request r ↔ ∀ f ∈ filters, f.Finds r))) := by
  obtain ⟨profile, settled⟩ := build_eq_ok h
  obtain ⟨hcompiles, read, hread, hholds⟩ := read_compileQuery plain settled.query
  refine ⟨profile, read, settled.granted, hread, hcompiles, fun r => ⟨hholds r, ?_⟩⟩
  rw [hholds r]
  have haccepts : (∀ f ∈ rowFilters engine.registry profile request,
      f.Accepts (engine.context built.user) built.document r) ↔
      (∀ f ∈ rowFilters engine.registry profile request,
        f.Passes (engine.context built.user) built.document r) ∧
      ∀ f ∈ rowFilters engine.registry profile request, f.Finds r := by
    simp only [Filter.accepts_iff, imp_and, forall_and]
  rw [haccepts]
  exact and_congr_right_iff

end QueryEngine

namespace Deals

/-- Deals that have a text with the word in it. -/
def publicDeals : Filter := { Filter.trivial with search := some "public" }

def publicReaders : Profile :=
  ⟨⟨true, false, false, false⟩, ⟨true, false, false, false⟩, [], some publicDeals⟩

/-- Callers with one profile, reading from one store. -/
def engine (profile : Profile) (store : Store) : QueryEngine :=
  ⟨{ registry with profiles := [("Default:access:Default", profile)] }, store,
    fun _ => .ok (User.new "u1"), .standard, ⟨0, 0⟩⟩

/-- A deal without the word. -/
def secretDeal : Record := [("_id", .str "d1"), ("notes", .str "secret")]

def publicEngine : QueryEngine := engine publicReaders (Memory.store [])

theorem granted_publicReaders :
    Access.profileFor? "Deal" (User.new "u1") publicEngine.registry = some publicReaders := rfl

theorem rowFilters_publicReaders :
    QueryEngine.rowFilters publicEngine.registry publicReaders (.new "Deal") = [publicDeals] := rfl

/-- The profile's filter has nothing but a search, so the query of the read asks nothing. -/
theorem built_publicReaders :
    ∃ built, publicEngine.build (.new "Deal") = .ok built ∧ built.document = document ∧
      built.user = User.new "u1" ∧ Query.read built.plan.query = .ok .always :=
  ⟨_, rfl, rfl, rfl, rfl⟩

end Deals

namespace QueryEngine

open Deals (publicEngine publicReaders publicDeals secretDeal)

theorem planQuery_matches_iff_publicDeals :
    ∃ built, publicEngine.build (.new "Deal") = .ok built ∧ built.document.PlainNames ∧
      ∃ read, Query.read built.plan.query = .ok read ∧
        ∀ r,
          (read.holds r = true ↔
              publicDeals.Accepts (publicEngine.context built.user) built.document r) ↔
            (publicDeals.Passes (publicEngine.context built.user) built.document r →
              publicDeals.Finds r) := by
  obtain ⟨built, hbuilt, hdocument, huser, _⟩ := Deals.built_publicReaders
  have plain : built.document.PlainNames := hdocument ▸ Deals.plainNames
  obtain ⟨profile, read, hgranted, hread, _, hmatches⟩ := planQuery_matches_iff hbuilt plain
  obtain rfl : publicReaders = profile := by
    rw [huser] at hgranted
    exact Option.some.inj (Deals.granted_publicReaders.symm.trans hgranted)
  refine ⟨built, hbuilt, plain, read, hread, fun r => ?_⟩
  have := (hmatches r).2
  rw [Deals.rowFilters_publicReaders] at this
  simpa [RequestFinds, FindRequest.new] using this

/-- A caller whose profile asks for a word reads a record without it. -/
theorem planQuery_loses_readFilter_search :
    ∃ built profile read, publicEngine.build (.new "Deal") = .ok built ∧
      built.document.PlainNames ∧
      Access.profileFor? "Deal" built.user publicEngine.registry = some profile ∧
      Query.read built.plan.query = .ok read ∧
      ¬ ∀ r, read.holds r = true ↔
        ∀ f ∈ rowFilters publicEngine.registry profile (.new "Deal"),
          f.Accepts (publicEngine.context built.user) built.document r := by
  obtain ⟨built, hbuilt, hdocument, huser, hread⟩ := Deals.built_publicReaders
  refine ⟨built, publicReaders, .always, hbuilt, hdocument ▸ Deals.plainNames,
    huser ▸ Deals.granted_publicReaders, hread, ?_⟩
  intro hall
  have haccepts := (hall secretDeal).mp rfl publicDeals
    (by rw [Deals.rowFilters_publicReaders]; exact List.mem_singleton_self _)
  have hfinds := (Filter.accepts_iff.mp haccepts).2 "public" rfl
  exact absurd hfinds (by decide +kernel)

end QueryEngine

end RecordQuery
