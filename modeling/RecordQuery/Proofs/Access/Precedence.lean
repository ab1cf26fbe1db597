import RecordQuery.Access.Permission

/-!
# Which profile applies

An entry of `false` denies a document. Otherwise one grant takes effect on it: the entry of the
document if it names profiles, else the entry of the defaults, else the name `Default`. Among its
names the document's own profiles go before the default ones, and earlier names before later ones.
Nothing else is looked at, neither in the caller's access map nor in the registry.
-/

namespace RecordQuery

namespace Access

variable {document : String} {user : User} {registry : Registry} {grant : Grant}

/-- The caller's entry for the document is an explicit `false`. -/
def Denies (user : User) (document : String) : Prop :=
  Fields.get? user.access document = some (.flag false)

/-- The caller's entry for the document leaves the choice to the defaults. -/
def Defers (user : User) (document : String) : Prop :=
  Fields.get? user.access document = none ∨ Fields.get? user.access document = some (.flag true)

/-- The grant that takes effect on a document that is not denied. -/
inductive TakesEffect (user : User) (document : String) : Grant → Prop
  | entry {grant : Grant} (own : Fields.get? user.access document = some grant)
      (naming : ∀ allowed, grant ≠ .flag allowed) : TakesEffect user document grant
  | defaults {grant : Grant} (defers : Defers user document)
      (fallback : Fields.get? user.access "defaults" = some grant) : TakesEffect user document grant
  | standard (defers : Defers user document)
      (unset : Fields.get? user.access "defaults" = none) :
      TakesEffect user document (.profile "Default")

/-- No name has a profile registered for the document. -/
def NoneUnder (registry : Registry) (document : String) (names : List String) : Prop :=
  ∀ name ∈ names, registry.profile? (profileKey document name) = none

/-- The profile that is registered for the document under the first name that has one. -/
def FirstUnder (registry : Registry) (document : String) (names : List String) (p : Profile) :
    Prop :=
  ∃ earlier name later, names = earlier ++ name :: later ∧
    registry.profile? (profileKey document name) = some p ∧ NoneUnder registry document earlier

/-- The profile that goes before all others of the names. -/
inductive Prevails (registry : Registry) (document : String) (names : List String) : Profile → Prop
  | own {p : Profile} (first : FirstUnder registry document names p) :
      Prevails registry document names p
  | default {p : Profile} (unregistered : NoneUnder registry document names)
      (first : FirstUnder registry "Default" names p) : Prevails registry document names p

/-- Both registries have the same profiles for the names. -/
def AgreeUnder (registry other : Registry) (document : String) (names : List String) : Prop :=
  ∀ name ∈ names,
    registry.profile? (profileKey document name) = other.profile? (profileKey document name)

/-- The profile of the first name that has one. -/
def firstUnder? (registry : Registry) (document : String) (names : List String) : Option Profile :=
  names.findSome? fun name => registry.profile? (profileKey document name)

theorem firstUnder?_eq_some_iff {names : List String} {p : Profile} :
    firstUnder? registry document names = some p ↔ FirstUnder registry document names p :=
  List.findSome?_eq_some_iff

theorem firstUnder?_eq_none_iff {names : List String} :
    firstUnder? registry document names = none ↔ NoneUnder registry document names :=
  List.findSome?_eq_none_iff

theorem firstUnder?_congr {other : Registry} {names : List String}
    (agree : AgreeUnder registry other document names) :
    firstUnder? registry document names = firstUnder? other document names := by
  induction names with
  | nil => rfl
  | cons name rest ih =>
    simp only [firstUnder?, List.findSome?_cons] at ih ⊢
    rw [agree name List.mem_cons_self, ih fun later hlater => agree later (.tail name hlater)]

theorem defers_or_denies_or_names (user : User) (document : String) :
    Denies user document ∨ Defers user document ∨
      ∃ grant, Fields.get? user.access document = some grant ∧ ∀ allowed, grant ≠ .flag allowed := by
  rw [Denies, Defers]
  cases Fields.get? user.access document with
  | none => exact .inr (.inl (.inl rfl))
  | some grant =>
    cases grant with
    | flag allowed => cases allowed <;> simp
    | profile name => exact .inr (.inr ⟨_, rfl, by simp⟩)
    | profiles names => exact .inr (.inr ⟨_, rfl, by simp⟩)

theorem exists_takesEffect (admitted : ¬ Denies user document) :
    ∃ grant, TakesEffect user document grant := by
  rcases defers_or_denies_or_names user document with denies | defers | ⟨grant, own, naming⟩
  · exact absurd denies admitted
  · cases hdefaults : Fields.get? user.access "defaults" with
    | none => exact ⟨_, .standard defers hdefaults⟩
    | some grant => exact ⟨grant, .defaults defers hdefaults⟩
  · exact ⟨grant, .entry own naming⟩

theorem Defers.not_naming (defers : Defers user document)
    (own : Fields.get? user.access document = some grant) : ∃ allowed, grant = .flag allowed := by
  rcases defers with unset | deferring
  · cases unset.symm.trans own
  · exact ⟨true, (Option.some.inj (deferring.symm.trans own)).symm⟩

theorem TakesEffect.unique {other : Grant} (h : TakesEffect user document grant)
    (h' : TakesEffect user document other) : other = grant := by
  cases h with
  | entry own naming =>
    cases h' with
    | entry own' _ => exact Option.some.inj (own'.symm.trans own)
    | defaults defers | standard defers =>
      obtain ⟨allowed, rfl⟩ := defers.not_naming own
      exact absurd rfl (naming allowed)
  | defaults defers fallback =>
    cases h' with
    | entry own naming =>
      obtain ⟨allowed, rfl⟩ := defers.not_naming own
      exact absurd rfl (naming allowed)
    | defaults _ fallback' => exact Option.some.inj (fallback'.symm.trans fallback)
    | standard _ unset => cases unset.symm.trans fallback
  | standard defers unset =>
    cases h' with
    | entry own naming =>
      obtain ⟨allowed, rfl⟩ := defers.not_naming own
      exact absurd rfl (naming allowed)
    | defaults _ fallback => cases unset.symm.trans fallback
    | standard => rfl

/-- What takes effect depends on the document's entry and, where it defers, on the defaults. -/
theorem TakesEffect.congr {other : User} (h : TakesEffect user document grant)
    (entry : Fields.get? user.access document = Fields.get? other.access document)
    (defaults : Defers user document →
      Fields.get? user.access "defaults" = Fields.get? other.access "defaults") :
    TakesEffect other document grant := by
  cases h with
  | entry own naming => exact .entry (entry ▸ own) naming
  | defaults defers fallback =>
    exact .defaults (by rwa [Defers, ← entry]) (defaults defers ▸ fallback)
  | standard defers unset => exact .standard (by rwa [Defers, ← entry]) (defaults defers ▸ unset)

theorem profileFor?_of_denies (denies : Denies user document) :
    profileFor? document user registry = none := by
  rw [Denies] at denies
  simp [profileFor?, effectiveGrant?, denies]

theorem profileFor?_eq (takesEffect : TakesEffect user document grant) :
    profileFor? document user registry
      = (firstUnder? registry document grant.names).or
          (firstUnder? registry "Default" grant.names) := by
  have chosen : effectiveGrant? document user = some grant ∨
      effectiveGrant? document user = none ∧ grant.names = [] := by
    cases takesEffect with
    | entry own naming =>
      left
      rw [effectiveGrant?, own, Option.getD_some]
      cases grant with
      | flag allowed => exact absurd rfl (naming allowed)
      | profile name => rfl
      | profiles names => rfl
    | defaults defers fallback =>
      rcases defers with entry | entry
      · rw [effectiveGrant?, entry, fallback]
        cases grant with
        | flag allowed => cases allowed <;> simp [Grant.names]
        | profile name => exact .inl rfl
        | profiles names => exact .inl rfl
      · left
        rw [effectiveGrant?, entry, fallback]
        rfl
    | standard defers unset =>
      left
      rcases defers with entry | entry <;> rw [effectiveGrant?, entry, unset] <;> rfl
  rcases chosen with granted | ⟨denied, unnamed⟩
  · rw [profileFor?, granted]
    rfl
  · rw [profileFor?, denied, unnamed]
    rfl

theorem prevails_iff {names : List String} {p : Profile} :
    (firstUnder? registry document names).or (firstUnder? registry "Default" names) = some p ↔
      Prevails registry document names p := by
  rw [Option.or_eq_some_iff, firstUnder?_eq_some_iff, firstUnder?_eq_some_iff,
    firstUnder?_eq_none_iff]
  constructor
  · rintro (first | ⟨unregistered, first⟩)
    · exact .own first
    · exact .default unregistered first
  · rintro (first | ⟨unregistered, first⟩)
    · exact .inl first
    · exact .inr ⟨unregistered, first⟩

/-- An explicit `false` denies. Otherwise one grant takes effect, the profile is the one that
prevails among its names, and there is none exactly if no name has one. Callers whose entries for
the document agree, and their defaults where these count, get the same profile from registries that
agree on the names. -/
theorem profileFor?_precedence (document : String) (user : User) (registry : Registry) :
    (Denies user document → profileFor? document user registry = none) ∧
    (¬ Denies user document → ∃ grant, TakesEffect user document grant ∧
      (∀ other, TakesEffect user document other → other = grant) ∧
      (∀ p, profileFor? document user registry = some p ↔
        Prevails registry document grant.names p) ∧
      (profileFor? document user registry = none ↔
        NoneUnder registry document grant.names ∧ NoneUnder registry "Default" grant.names)) ∧
    ∀ (other : User) (registry' : Registry),
      Fields.get? user.access document = Fields.get? other.access document →
      (Defers user document →
        Fields.get? user.access "defaults" = Fields.get? other.access "defaults") →
      (∀ grant, TakesEffect user document grant →
        AgreeUnder registry registry' document grant.names ∧
          AgreeUnder registry registry' "Default" grant.names) →
      profileFor? document other registry' = profileFor? document user registry := by
  refine ⟨profileFor?_of_denies, fun admitted => ?_, fun other registry' entry defaults agree => ?_⟩
  · obtain ⟨grant, takesEffect⟩ := exists_takesEffect admitted
    refine ⟨grant, takesEffect, fun _ => takesEffect.unique, fun p => ?_, ?_⟩
    · rw [profileFor?_eq takesEffect, prevails_iff]
    · rw [profileFor?_eq takesEffect, Option.or_eq_none_iff, firstUnder?_eq_none_iff,
        firstUnder?_eq_none_iff]
  · by_cases denies : Denies user document
    · rw [profileFor?_of_denies denies]
      exact profileFor?_of_denies (entry.symm.trans denies)
    · obtain ⟨grant, takesEffect⟩ := exists_takesEffect denies
      obtain ⟨own, default⟩ := agree grant takesEffect
      rw [profileFor?_eq takesEffect, profileFor?_eq (takesEffect.congr entry defaults),
        firstUnder?_congr own, firstUnder?_congr default]

end Access

namespace Deals

def auditors : Profile :=
  ⟨⟨true, false, false, false⟩, ⟨true, false, false, false⟩, [], none⟩

/-- Sellers change deals, but see no field unless a rule shows it. -/
def sellers : Profile := ⟨⟨true, true, false, false⟩, Permissions.none, [], none⟩

/-- Auditors are known for all documents, sellers for deals alone. -/
def profiles : Registry :=
  ⟨[], [("Default:access:Auditor", auditors), ("Deal:access:Seller", sellers)], []⟩

/-- Named as an auditor first, and denied all documents but deals. -/
def auditingSeller : User :=
  ((User.new "u1").withGrant "Deal" (.profiles ["Auditor", "Seller"])).withGrant "defaults"
    (.flag false)

end Deals

namespace Access

open Deals (auditingSeller profiles sellers)

/-- A later name of the document goes before an earlier one of the defaults, and what is denied for
other documents changes nothing. -/
theorem profileFor?_precedence_auditingSeller :
    ¬ Denies auditingSeller "Deal" ∧ ¬ Defers auditingSeller "Deal" ∧
      profileFor? "Deal" auditingSeller profiles = some sellers ∧
      profileFor? "Deal" (auditingSeller.withGrant "Contact" (.flag false)) profiles
        = some sellers := by
  have admitted : ¬ Denies auditingSeller "Deal" := by
    rw [Denies]
    decide
  have naming : ¬ Defers auditingSeller "Deal" := by
    rw [Defers]
    decide
  obtain ⟨_, chosen, apart⟩ := profileFor?_precedence "Deal" auditingSeller profiles
  obtain ⟨grant, _, unique, prevails, _⟩ := chosen admitted
  obtain rfl := unique (.profiles ["Auditor", "Seller"]) (.entry (by decide) (by simp))
  have own : profileFor? "Deal" auditingSeller profiles = some sellers :=
    (prevails sellers).mpr (.own ⟨["Auditor"], "Seller", [], rfl, rfl, by simp [NoneUnder]; rfl⟩)
  refine ⟨admitted, naming, own, ?_⟩
  rw [apart (auditingSeller.withGrant "Contact" (.flag false)) profiles (by decide)
    (fun defers => absurd defers naming) fun _ _ => ⟨fun _ _ => rfl, fun _ _ => rfl⟩, own]

end Access

end RecordQuery
