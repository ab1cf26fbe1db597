import RecordQuery.Access.Projection
import RecordQuery.Proofs.Filter.Compile
import RecordQuery.Proofs.Value.Names

/-!
# How fields are selected

The conditioned fields are gone through one by one. Each may bring in a helper for its condition, and
a helper is never one of the fields that were allowed from the start. The condition of every field
that stays is kept.
-/

namespace RecordQuery

namespace DocumentType

/-- No name is a path of several segments. -/
def DotFree (document : DocumentType) : Prop :=
  ∀ name ∈ Fields.names document.fields, '.' ∉ name.toList

end DocumentType

namespace Access

/-- The field is readable under a condition, and this is the condition compiled. -/
structure Guards (profile : Profile) (document : DocumentType) (ctx : FilterContext)
    (field : ConditionedField) (cc : CompiledCondition) : Prop where
  declared : field.name ∈ Fields.names document.fields
  readable : (profile.field field.name).allowed.read = true
  compiled : ∃ c, (profile.field field.name).conditions.read = some c ∧
    c.compile ctx document = .ok cc
  test : field.test = fun r => .ok (cc.toPredicate.holds r)
  root : field.root = Path.root cc.term

section
variable {profile : Profile} {document : DocumentType} {ctx : FilterContext}

theorem conditionedFields_cons {name : String} {rest : List String} {c : Condition}
    (readable : (profile.field name).allowed.read = true)
    (condition : (profile.field name).conditions.read = some c) :
    conditionedFields profile document ctx (name :: rest) = (do
      let compiled ← c.compile ctx document
      let others ← conditionedFields profile document ctx rest
      return ⟨name, fun record => .ok (compiled.toPredicate.holds record),
        Path.root compiled.term⟩ :: others) := by
  rw [conditionedFields]
  simp only [readable, condition]

theorem conditionedFields_skip {name : String} {rest : List String}
    (h : (profile.field name).allowed.read = true → (profile.field name).conditions.read = none) :
    conditionedFields profile document ctx (name :: rest)
      = conditionedFields profile document ctx rest := by
  rw [conditionedFields]
  cases hread : (profile.field name).allowed.read with
  | false => simp only
  | true => simp only [h hread]

/-- The conditioned fields are the readable ones with a condition, each with its own. -/
theorem conditionedFields_eq_ok :
    ∀ {names : List String} {cs : List ConditionedField},
      (∀ name ∈ names, name ∈ Fields.names document.fields) →
      conditionedFields profile document ctx names = .ok cs →
      (∀ field ∈ cs, ∃ cc, Guards profile document ctx field cc) ∧
      ∀ name ∈ names, (profile.field name).allowed.read = true →
        (profile.field name).conditions.read ≠ none → ∃ field ∈ cs, field.name = name
  | [], cs, _, h => by
    obtain rfl : [] = cs := Except.ok.inj h
    simp
  | name :: rest, cs, declared, h => by
    have hrest : ∀ other ∈ rest, other ∈ Fields.names document.fields :=
      fun other hother => declared other (List.mem_cons_of_mem _ hother)
    by_cases hguarded : (profile.field name).allowed.read = true ∧
        (profile.field name).conditions.read ≠ none
    · obtain ⟨readable, hsome⟩ := hguarded
      obtain ⟨c, condition⟩ := Option.ne_none_iff_exists'.mp hsome
      rw [conditionedFields_cons readable condition] at h
      obtain ⟨cc, hcc, h⟩ := bind_eq_ok_iff.mp h
      obtain ⟨others, hothers, h⟩ := bind_eq_ok_iff.mp h
      obtain rfl := Except.ok.inj h
      obtain ⟨sound, complete⟩ := conditionedFields_eq_ok hrest hothers
      refine ⟨?_, ?_⟩
      · intro field hfield
        rcases List.mem_cons.mp hfield with rfl | hfield
        · exact ⟨cc, declared name (by simp), readable, ⟨c, condition, hcc⟩, rfl, rfl⟩
        · exact sound field hfield
      · intro other hother hread hcondition
        rcases List.mem_cons.mp hother with rfl | hother
        · exact ⟨_, List.mem_cons_self, rfl⟩
        · obtain ⟨field, hfield, hname⟩ := complete other hother hread hcondition
          exact ⟨field, List.mem_cons_of_mem _ hfield, hname⟩
    · have hskip : (profile.field name).allowed.read = true →
          (profile.field name).conditions.read = none := by
        intro hread
        cases hcondition : (profile.field name).conditions.read with
        | none => rfl
        | some c => exact absurd ⟨hread, by simp [hcondition]⟩ hguarded
      rw [conditionedFields_skip hskip] at h
      obtain ⟨sound, complete⟩ := conditionedFields_eq_ok hrest h
      refine ⟨sound, ?_⟩
      intro other hother hread hcondition
      rcases List.mem_cons.mp hother with rfl | hother
      · exact absurd (hskip hread) hcondition
      · exact complete other hother hread hcondition

end

/-- What is known after some of the conditioned fields, when a list of fields was requested. -/
structure ListSelection (allowed : NameSet) (done : List ConditionedField) (s : Selection) :
    Prop where
  kept : ∀ path ∈ allowed, path ∈ s.paths
  sources : ∀ path ∈ s.paths, path ∈ allowed ∨ path ∈ s.helpers
  plain : ∀ helper ∈ s.helpers, Path.root helper = helper
  served : ∀ entry ∈ s.conditions, ∃ field ∈ done, entry = (field.name, field.test) ∧
    (field.root = "_id" ∨ ∃ path ∈ s.paths, Path.root path = field.root)
  complete : ∀ field ∈ done, (∃ path ∈ allowed, Path.root path = field.name) →
    (field.name, field.test) ∈ s.conditions

theorem ListSelection.start (allowed : NameSet) : ListSelection allowed [] ⟨allowed, [], []⟩ where
  kept := fun _ h => h
  sources := fun _ h => .inl h
  plain := by simp
  served := by simp
  complete := by simp

theorem ListSelection.skip {allowed : NameSet} {done : List ConditionedField} {s : Selection}
    {field : ConditionedField} (h : ListSelection allowed done s)
    (unselected : ¬ ∃ path ∈ s.paths, Path.root path = field.name) :
    ListSelection allowed (done ++ [field]) s where
  kept := h.kept
  sources := h.sources
  plain := h.plain
  served := by
    intro entry hentry
    obtain ⟨other, hother, hserved⟩ := h.served entry hentry
    exact ⟨other, List.mem_append_left _ hother, hserved⟩
  complete := by
    intro other hother hallowed
    rcases List.mem_append.mp hother with hother | hother
    · exact h.complete other hother hallowed
    · obtain rfl := List.mem_singleton.mp hother
      obtain ⟨path, hpath, hroot⟩ := hallowed
      exact absurd ⟨path, h.kept path hpath, hroot⟩ unselected

theorem ListSelection.keep {allowed : NameSet} {done : List ConditionedField} {s : Selection}
    {field : ConditionedField} (h : ListSelection allowed done s)
    (served : field.root = "_id" ∨ ∃ path ∈ s.paths, Path.root path = field.root) :
    ListSelection allowed (done ++ [field])
      { s with conditions := s.conditions ++ [(field.name, field.test)] } where
  kept := h.kept
  sources := h.sources
  plain := h.plain
  served := by
    intro entry hentry
    rcases List.mem_append.mp hentry with hentry | hentry
    · obtain ⟨other, hother, hserved⟩ := h.served entry hentry
      exact ⟨other, List.mem_append_left _ hother, hserved⟩
    · exact ⟨field, by simp, List.mem_singleton.mp hentry, served⟩
  complete := by
    intro other hother hallowed
    rcases List.mem_append.mp hother with hother | hother
    · exact List.mem_append_left _ (h.complete other hother hallowed)
    · obtain rfl := List.mem_singleton.mp hother
      simp

/-- A helper is fetched besides the paths that are selected already. -/
theorem ListSelection.fetch {allowed : NameSet} {done : List ConditionedField} {s : Selection}
    {helper : String} (h : ListSelection allowed done s) (plain : Path.root helper = helper) :
    ListSelection allowed done
      { s with
        paths := NameSet.insert helper s.paths
        helpers := NameSet.insert helper s.helpers } where
  kept := fun path hpath => NameSet.mem_insert.mpr (.inr (h.kept path hpath))
  sources := by
    intro path hpath
    rcases NameSet.mem_insert.mp hpath with rfl | hpath
    · exact .inr (NameSet.mem_insert.mpr (.inl rfl))
    · exact (h.sources path hpath).imp_right fun hold => NameSet.mem_insert.mpr (.inr hold)
  plain := by
    intro other hother
    rcases NameSet.mem_insert.mp hother with rfl | hother
    · exact plain
    · exact h.plain other hother
  served := by
    intro entry hentry
    obtain ⟨field, hfield, heq, hserved⟩ := h.served entry hentry
    refine ⟨field, hfield, heq, hserved.imp_right ?_⟩
    rintro ⟨path, hpath, hroot⟩
    exact ⟨path, NameSet.mem_insert.mpr (.inr hpath), hroot⟩
  complete := h.complete

theorem ListSelection.addToList {allowed : NameSet} {done : List ConditionedField} {s : Selection}
    {field : ConditionedField} (h : ListSelection allowed done s)
    (plain : Path.root field.root = field.root) :
    ListSelection allowed (done ++ [field]) (addToList s field) := by
  have selected_iff : ∀ name, (s.paths.any fun path => Path.root path = name) = true ↔
      ∃ path ∈ s.paths, Path.root path = name := by
    simp
  rw [Access.addToList]
  by_cases hselected : ∃ path ∈ s.paths, Path.root path = field.name
  · rw [if_pos ((selected_iff _).mpr hselected)]
    cases hcovered : decide (field.root = "_id") ||
        s.paths.any fun path => Path.root path = field.root with
    | true => exact h.keep (by simpa using hcovered)
    | false =>
      exact (h.fetch plain).keep (.inr ⟨field.root, NameSet.mem_insert.mpr (.inl rfl), plain⟩)
  · rw [if_neg fun hany => hselected ((selected_iff _).mp hany)]
    exact h.skip hselected

theorem ListSelection.foldl {allowed : NameSet} {done cs : List ConditionedField} {s : Selection}
    (h : ListSelection allowed done s) (plain : ∀ field ∈ cs, Path.root field.root = field.root) :
    ListSelection allowed (done ++ cs) (cs.foldl Access.addToList s) := by
  induction cs generalizing done s with
  | nil => simpa using h
  | cons field rest ih =>
    have hnext := h.addToList (plain field List.mem_cons_self)
    have := ih hnext fun other hother => plain other (List.mem_cons_of_mem _ hother)
    simpa [List.append_assoc] using this

/-- What is known after some of the conditioned fields, when everything was requested. -/
structure AllSelection (unreadable : NameSet) (done : List ConditionedField) (s : Selection) :
    Prop where
  excluded : ∀ name ∈ s.paths, name ∈ unreadable
  hidden : ∀ helper ∈ s.helpers, helper ∈ unreadable
  covered : ∀ name ∈ unreadable, name ∈ s.paths ∨ name ∈ s.helpers
  served : ∀ entry ∈ s.conditions, ∃ field ∈ done, entry = (field.name, field.test) ∧
    (field.root = "_id" ∨ field.root ∉ s.paths)
  complete : ∀ field ∈ done, field.name ∉ unreadable → (field.name, field.test) ∈ s.conditions

theorem AllSelection.start (unreadable : NameSet) :
    AllSelection unreadable [] ⟨unreadable, [], []⟩ where
  excluded := fun _ h => h
  hidden := by simp
  covered := fun _ h => .inl h
  served := by simp
  complete := by simp

theorem AllSelection.skip {unreadable : NameSet} {done : List ConditionedField} {s : Selection}
    {field : ConditionedField} (h : AllSelection unreadable done s)
    (excluded : field.name ∈ s.paths) : AllSelection unreadable (done ++ [field]) s where
  excluded := h.excluded
  hidden := h.hidden
  covered := h.covered
  served := by
    intro entry hentry
    obtain ⟨other, hother, hserved⟩ := h.served entry hentry
    exact ⟨other, List.mem_append_left _ hother, hserved⟩
  complete := by
    intro other hother hreadable
    rcases List.mem_append.mp hother with hother | hother
    · exact h.complete other hother hreadable
    · obtain rfl := List.mem_singleton.mp hother
      exact absurd (h.excluded _ excluded) hreadable

theorem AllSelection.keep {unreadable : NameSet} {done : List ConditionedField} {s : Selection}
    {field : ConditionedField} (h : AllSelection unreadable done s)
    (served : field.root = "_id" ∨ field.root ∉ s.paths) :
    AllSelection unreadable (done ++ [field])
      { s with conditions := s.conditions ++ [(field.name, field.test)] } where
  excluded := h.excluded
  hidden := h.hidden
  covered := h.covered
  served := by
    intro entry hentry
    rcases List.mem_append.mp hentry with hentry | hentry
    · obtain ⟨other, hother, hserved⟩ := h.served entry hentry
      exact ⟨other, List.mem_append_left _ hother, hserved⟩
    · exact ⟨field, by simp, List.mem_singleton.mp hentry, served⟩
  complete := by
    intro other hother hreadable
    rcases List.mem_append.mp hother with hother | hother
    · exact List.mem_append_left _ (h.complete other hother hreadable)
    · obtain rfl := List.mem_singleton.mp hother
      simp

/-- A helper is brought back from the excluded fields. -/
theorem AllSelection.bringBack {unreadable : NameSet} {done : List ConditionedField}
    {s : Selection} (h : AllSelection unreadable done s) {helper : String}
    (excluded : helper ∈ s.paths) :
    AllSelection unreadable done
      { s with
        paths := s.paths.filter (· ≠ helper)
        helpers := NameSet.insert helper s.helpers } where
  excluded := fun name hname => h.excluded name (List.mem_filter.mp hname).1
  hidden := by
    intro other hother
    rcases NameSet.mem_insert.mp hother with rfl | hother
    · exact h.excluded other excluded
    · exact h.hidden other hother
  covered := by
    intro name hname
    by_cases hhelper : name = helper
    · exact .inr (NameSet.mem_insert.mpr (.inl hhelper))
    · rcases h.covered name hname with hpath | hold
      · exact .inl (List.mem_filter.mpr ⟨hpath, by simpa using hhelper⟩)
      · exact .inr (NameSet.mem_insert.mpr (.inr hold))
  served := by
    intro entry hentry
    obtain ⟨field, hfield, hentry, hserved⟩ := h.served entry hentry
    refine ⟨field, hfield, hentry, hserved.imp_right fun hroot hmem => ?_⟩
    exact hroot (List.mem_filter.mp hmem).1
  complete := h.complete

theorem AllSelection.addToAll {unreadable : NameSet} {done : List ConditionedField} {s : Selection}
    {field : ConditionedField} (h : AllSelection unreadable done s) :
    AllSelection unreadable (done ++ [field]) (addToAll s field) := by
  rw [Access.addToAll]
  by_cases hexcluded : field.name ∈ s.paths
  · rw [if_pos (by simpa using hexcluded)]
    exact h.skip hexcluded
  · rw [if_neg (by simpa using hexcluded)]
    by_cases hid : field.root = "_id"
    · simpa [hid] using h.keep (.inl hid)
    · by_cases hroot : field.root ∈ s.paths
      · have hback : AllSelection unreadable (done ++ [field]) _ :=
          (h.bringBack hroot).keep (.inr (by simp))
        simpa [hid, hroot] using hback
      · simpa [hid, hroot] using h.keep (.inr hroot)

theorem AllSelection.foldl {unreadable : NameSet} {done cs : List ConditionedField} {s : Selection}
    (h : AllSelection unreadable done s) :
    AllSelection unreadable (done ++ cs) (cs.foldl Access.addToAll s) := by
  induction cs generalizing done s with
  | nil => simpa using h
  | cons field rest ih =>
    have hnext : AllSelection unreadable (done ++ [field]) (Access.addToAll s field) := h.addToAll
    simpa [List.append_assoc] using ih hnext

/-- Whether a path shares its first segment with no other. -/
def single (paths : NameSet) (path : String) : Bool :=
  ((paths.filter (· ≠ "")).filter fun other => Path.root other = Path.root path).length = 1

theorem mem_clearCollisions {paths : NameSet} {q : String} :
    q ∈ clearCollisions paths ↔
      ∃ p ∈ paths, p ≠ "" ∧ q = if single paths p then p else Path.root p := by
  rw [clearCollisions, NameSet.mem_ofList, List.mem_map]
  constructor
  · rintro ⟨p, hp, rfl⟩
    have hp := List.mem_filter.mp hp
    exact ⟨p, hp.1, by simpa using hp.2, by simp only [single, decide_eq_true_eq]⟩
  · rintro ⟨p, hp, hne, rfl⟩
    refine ⟨p, List.mem_filter.mpr ⟨hp, by simpa using hne⟩, ?_⟩
    simp only [single, decide_eq_true_eq]

/-- A path that is single is the only one with its first segment. -/
theorem eq_of_single {paths : NameSet} {p q : String} (h : single paths p = true)
    (hp : p ∈ paths) (nonempty : p ≠ "") (hq : q ∈ paths) (nonempty' : q ≠ "")
    (root : Path.root q = Path.root p) : q = p := by
  rw [single, decide_eq_true_eq, List.length_eq_one_iff] at h
  obtain ⟨only, honly⟩ := h
  have alone : ∀ other ∈ paths, other ≠ "" → Path.root other = Path.root p → other = only := by
    intro other hother hne hroot
    have : other ∈ (paths.filter (· ≠ "")).filter fun other => Path.root other = Path.root p := by
      simp [hother, hne, hroot]
    rw [honly] at this
    exact List.mem_singleton.mp this
  exact (alone q hq nonempty' root).trans (alone p hp nonempty rfl).symm

theorem root_of_mem_clearCollisions {paths : NameSet} {q : String}
    (h : q ∈ clearCollisions paths) : ∃ p ∈ paths, p ≠ "" ∧ Path.root p = Path.root q := by
  obtain ⟨p, hp, hne, rfl⟩ := mem_clearCollisions.mp h
  refine ⟨p, hp, hne, ?_⟩
  split
  · rfl
  · exact (Path.root_root p).symm

/-- What is left has a first segment of its own. -/
theorem eq_of_mem_clearCollisions {paths : NameSet} {q q' : String}
    (h : q ∈ clearCollisions paths) (h' : q' ∈ clearCollisions paths)
    (root : Path.root q = Path.root q') : q = q' := by
  obtain ⟨p, hp, hne, rfl⟩ := mem_clearCollisions.mp h
  obtain ⟨p', hp', hne', rfl⟩ := mem_clearCollisions.mp h'
  have hroot : Path.root p = Path.root p' := by
    split at root <;> split at root <;> simpa using root
  have hsame : single paths p = single paths p' := by rw [single, single, hroot]
  by_cases hsingle : single paths p = true
  · obtain rfl : p' = p := eq_of_single hsingle hp hne hp' hne' hroot.symm
    rfl
  · simp [← hsame, hsingle, hroot]

theorem nodup_clearCollisions (paths : NameSet) : (clearCollisions paths).Nodup :=
  (NameSet.ascending_ofList _).nodup

theorem clearCollisions_singleton {path : String} (nonempty : path ≠ "") :
    clearCollisions [path] = [path] := by
  simp [clearCollisions, NameSet.ofList, NameSet.insert, nonempty]

/-- Several paths into one field leave the whole field. -/
theorem clearCollisions_shared {paths : NameSet} {root p q : String} (hp : p ∈ paths)
    (hq : q ∈ paths) (two : p ≠ q)
    (shared : ∀ path ∈ paths, path ≠ "" ∧ Path.root path = root) :
    clearCollisions paths = [root] := by
  have notSingle : ∀ path ∈ paths, single paths path = false := by
    intro path hpath
    rw [← Bool.not_eq_true]
    intro hsingle
    obtain ⟨nonempty, hroot⟩ := shared path hpath
    have alone : ∀ other ∈ paths, other = path := fun other hother =>
      eq_of_single hsingle hpath nonempty hother (shared other hother).1
        ((shared other hother).2.trans hroot.symm)
    exact two ((alone p hp).trans (alone q hq).symm)
  have members : ∀ path, path ∈ clearCollisions paths ↔ path ∈ [root] := by
    intro path
    rw [mem_clearCollisions, List.mem_singleton]
    constructor
    · rintro ⟨other, hother, _, rfl⟩
      rw [notSingle other hother, if_neg Bool.false_ne_true, (shared other hother).2]
    · rintro rfl
      refine ⟨p, hp, (shared p hp).1, ?_⟩
      rw [notSingle p hp, if_neg Bool.false_ne_true, (shared p hp).2]
  exact List.perm_singleton.mp ((List.perm_ext_iff_of_nodup (nodup_clearCollisions _)
    (by simp)).mpr members)

/-- The fields that the profile hides altogether. -/
def unreadable (profile : Profile) (document : DocumentType) : List String :=
  (Fields.names document.fields).filter fun name => !(profile.field name).allowed.read

/-- The requested paths that lead into no hidden field. -/
def allowed (profile : Profile) (document : DocumentType) (requested : NameSet) : NameSet :=
  requested.filter fun path => !(unreadable profile document).contains (Path.root path)

theorem mem_unreadable {profile : Profile} {document : DocumentType} {name : String} :
    name ∈ unreadable profile document ↔
      name ∈ Fields.names document.fields ∧ (profile.field name).allowed.read = false := by
  simp [unreadable]

theorem mem_allowed {profile : Profile} {document : DocumentType} {requested : NameSet}
    {path : String} :
    path ∈ allowed profile document requested ↔
      path ∈ requested ∧ Path.root path ∉ unreadable profile document := by
  simp [allowed]

/-- How a projection came about. -/
structure Projects (profile : Profile) (document : DocumentType) (requested : NameSet)
    (ctx : FilterContext) (a : AccessProjection) (cs : List ConditionedField) (s : Selection) :
    Prop where
  guards : ∀ field ∈ cs, ∃ cc, Guards profile document ctx field cc
  guarded : ∀ name ∈ Fields.names document.fields, (profile.field name).allowed.read = true →
    (profile.field name).conditions.read ≠ none → ∃ field ∈ cs, field.name = name
  conditions : a.conditions = s.conditions
  helpers : a.helpers = s.helpers
  everything : requested = [] →
    AllSelection (NameSet.ofList (unreadable profile document)) cs s ∧
      a.projection = if s.paths.isEmpty then .all else .except s.paths
  list : requested ≠ [] →
    ListSelection (allowed profile document requested) cs s ∧
      a.projection = .only (clearCollisions s.paths)

theorem project_eq_ok {profile : Profile} {document : DocumentType} {requested : NameSet}
    {ctx : FilterContext} {a : AccessProjection}
    (h : project profile document requested ctx = .ok a) :
    ∃ cs s, Projects profile document requested ctx a cs s := by
  obtain ⟨cs, hcs, h⟩ := bind_eq_ok_iff.mp h
  obtain ⟨guards, guarded⟩ := conditionedFields_eq_ok (fun name hname => hname) hcs
  by_cases hrequested : requested = []
  · rw [if_pos (by simp [hrequested])] at h
    obtain rfl := Except.ok.inj h
    have hs : AllSelection (NameSet.ofList (unreadable profile document)) cs _ :=
      (AllSelection.start _).foldl
    exact ⟨cs, _, guards, guarded, rfl, rfl, fun _ => ⟨hs, rfl⟩, fun hne => absurd hrequested hne⟩
  · rw [if_neg (by simpa using hrequested)] at h
    obtain rfl := Except.ok.inj h
    have plain : ∀ field ∈ cs, Path.root field.root = field.root := by
      intro field hfield
      obtain ⟨cc, hcc⟩ := guards field hfield
      rw [hcc.root, Path.root_root]
    have hs := (ListSelection.start (allowed profile document requested)).foldl plain
    exact ⟨cs, _, guards, guarded, rfl, rfl, fun he => absurd he hrequested, fun _ => ⟨hs, rfl⟩⟩

end Access

end RecordQuery
