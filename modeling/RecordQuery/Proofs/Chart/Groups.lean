import Mathlib.Algebra.BigOperators.Group.List.Lemmas
import RecordQuery.Chart.Series
import RecordQuery.Proofs.Aggregation.Accumulator
import RecordQuery.Proofs.Outcome
import RecordQuery.Proofs.Value.Fields
import RecordQuery.Proofs.Value.Order

/-!
# Groups part the records

The positions of the labels stay in step with the groups: a label is at a position exactly if the
group there has it. So every record goes to the one group of its label, and what a group holds is
what its records come to.
-/

namespace RecordQuery

/-- A label that is new comes last. -/
theorem eraseDups_concat (labels : List String) (label : String) :
    (labels ++ [label]).eraseDups
      = labels.eraseDups ++ if label ∈ labels then [] else [label] := by
  rw [List.eraseDups_append]
  by_cases known : label ∈ labels
  · simp [List.removeAll, known]
  · simp [List.removeAll, known, List.eraseDups_cons]

namespace Group

/-- A group after a record with a label, which may be another one's. -/
def pushUnder (label : String) (reading : Option Float) (g : Group) : Group :=
  if g.label = label then g.push reading else g

@[simp]
theorem label_pushUnder (label : String) (reading : Option Float) (g : Group) :
    (g.pushUnder label reading).label = g.label := by
  rw [pushUnder]
  split <;> rfl

@[simp]
theorem sortKey_pushUnder (label : String) (reading : Option Float) (g : Group) :
    (g.pushUnder label reading).sortKey = g.sortKey := by
  rw [pushUnder]
  split <;> rfl

theorem readings_pushUnder (label : String) (reading : Option Float) (g : Group) :
    (g.pushUnder label reading).readings
      = if g.label = label then g.readings.push reading else g.readings := by
  rw [pushUnder]
  split <;> rfl

end Group

namespace Groups

variable {groups : Groups} {label : String}

def labels (groups : Groups) : List String := groups.entries.map (·.label)

/-- The positions are those of the groups. -/
def InStep (groups : Groups) : Prop :=
  ∀ label position, Fields.get? groups.positions label = some position ↔
    ∃ group, groups.entries[position]? = some group ∧ group.label = label

theorem inStep_empty : InStep empty := by
  intro label position
  simp [empty]

/-- A label has one position, so no two groups have it. -/
theorem InStep.nodup_labels (h : groups.InStep) : groups.labels.Nodup := by
  refine List.nodup_iff_getElem?_ne_getElem?.mpr fun i j before bound same => ?_
  obtain ⟨label, hlabel⟩ : ∃ label, groups.labels[j]? = some label :=
    ⟨_, List.getElem?_eq_getElem bound⟩
  have position : ∀ k, groups.labels[k]? = some label →
      Fields.get? groups.positions label = some k := by
    intro k hk
    rw [labels, List.getElem?_map, Option.map_eq_some_iff] at hk
    exact (h label k).mpr hk
  have : i = j :=
    Option.some.inj ((position i (same.trans hlabel)).symm.trans (position j hlabel))
  omega

theorem InStep.mem_labels (h : groups.InStep) {position : Nat}
    (hposition : Fields.get? groups.positions label = some position) : label ∈ groups.labels := by
  obtain ⟨group, hgroup, rfl⟩ := (h _ _).mp hposition
  exact List.mem_map_of_mem (List.mem_of_getElem? hgroup)

theorem InStep.get?_eq_none_iff (h : groups.InStep) :
    Fields.get? groups.positions label = none ↔ label ∉ groups.labels := by
  rw [Option.eq_none_iff_forall_ne_some]
  constructor
  · intro absent mem
    obtain ⟨group, hgroup, rfl⟩ := List.mem_map.mp mem
    obtain ⟨position, hposition⟩ := List.mem_iff_getElem?.mp hgroup
    exact absent position ((h _ _).mpr ⟨group, hposition, rfl⟩)
  · intro absent position hposition
    exact absent (h.mem_labels hposition)

/-- The groups with one for the label, opened behind the others if it was not there. -/
def opened (groups : Groups) (key : Value) (label : String) : List Group :=
  if label ∈ groups.labels then groups.entries else groups.entries ++ [⟨label, key, .empty⟩]

theorem InStep.entries_enter (h : groups.InStep) (key : Value) (label : String) :
    (groups.enter key label).2.entries = groups.opened key label := by
  rw [enter, opened]
  cases hposition : Fields.get? groups.positions label with
  | none => rw [if_neg (h.get?_eq_none_iff.mp hposition)]
  | some position => rw [if_pos (h.mem_labels hposition)]

theorem InStep.enter (h : groups.InStep) (key : Value) (label : String) :
    (groups.enter key label).2.InStep ∧
      Fields.get? (groups.enter key label).2.positions label
        = some (groups.enter key label).1 := by
  rw [Groups.enter]
  cases hposition : Fields.get? groups.positions label with
  | some position => exact ⟨h, hposition⟩
  | none =>
    refine ⟨fun other position => ?_, by simp [Fields.get?_insert]⟩
    dsimp only
    rw [Fields.get?_insert, List.getElem?_append]
    have absent := h.get?_eq_none_iff.mp hposition
    by_cases old : position < groups.entries.length
    · -- What stood there before has another label.
      rw [if_pos old, ← h other position]
      split
      · rename_i same
        subst same
        rw [hposition]
        simp
        omega
      · rfl
    · have beyond : Fields.get? groups.positions other ≠ some position := by
        intro there
        obtain ⟨group, hgroup, _⟩ := (h other position).mp there
        exact old (List.getElem?_eq_some_iff.mp hgroup).1
      rw [if_neg old, List.getElem?_singleton]
      split
      · rename_i same
        simp [same]
        omega
      · rename_i differs
        simp [beyond, differs]

/-- A group is found again by its label. -/
theorem InStep.modify_eq_map (h : groups.InStep) {position : Nat}
    (hposition : Fields.get? groups.positions label = some position) (f : Group → Group) :
    groups.entries.modify position f
      = groups.entries.map fun g => if g.label = label then f g else g := by
  refine List.ext_getElem? fun i => ?_
  rw [List.getElem?_modify, List.getElem?_map]
  cases hgroup : groups.entries[i]? with
  | none => rfl
  | some group =>
    have same : position = i ↔ group.label = label := by
      constructor
      · rintro rfl
        obtain ⟨found, hfound, rfl⟩ := (h _ _).mp hposition
        rw [Option.some.inj (hgroup.symm.trans hfound)]
      · rintro rfl
        exact Option.some.inj (hposition.symm.trans ((h _ _).mpr ⟨group, hgroup, rfl⟩))
    by_cases there : position = i
    · simp [there, same.mp there]
    · simp [there, mt same.mpr there]

/-- The groups after a record. -/
theorem InStep.entries_push (h : groups.InStep) (key : Value) (label : String)
    (reading : Option Float) :
    (groups.push key label reading).entries
      = (groups.opened key label).map (Group.pushUnder label reading) := by
  obtain ⟨entered, hposition⟩ := h.enter key label
  rw [← h.entries_enter key label]
  exact entered.modify_eq_map hposition (Group.push reading)

theorem InStep.push (h : groups.InStep) (key : Value) (label : String) (reading : Option Float) :
    (groups.push key label reading).InStep := by
  obtain ⟨entered, _⟩ := h.enter key label
  intro other position
  have positions : (groups.push key label reading).positions
      = (groups.enter key label).2.positions := rfl
  rw [positions, entered other position, h.entries_push key label reading,
    ← h.entries_enter key label, List.getElem?_map]
  constructor
  · rintro ⟨group, hgroup, rfl⟩
    exact ⟨_, by rw [hgroup]; rfl, Group.label_pushUnder _ _ _⟩
  · rintro ⟨pushed, hpushed, rfl⟩
    obtain ⟨group, hgroup, rfl⟩ := Option.map_eq_some_iff.mp hpushed
    exact ⟨group, hgroup, (Group.label_pushUnder _ _ _).symm⟩

theorem InStep.labels_push (h : groups.InStep) (key : Value) (label : String)
    (reading : Option Float) :
    (groups.push key label reading).labels
      = groups.labels ++ if label ∈ groups.labels then [] else [label] := by
  have kept : Group.label ∘ Group.pushUnder label reading = Group.label :=
    funext fun g => Group.label_pushUnder label reading g
  rw [labels, h.entries_push key label reading, List.map_map, kept, opened]
  split
  · rw [List.append_nil, labels]
  · rw [List.map_append, labels, List.map_singleton]

end Groups

namespace Series

variable {keyField : String} {valueField : Option String} {records : List Record}

/-- The label that a record is grouped under. -/
def labelOf (keyField : String) (r : Record) : String := groupLabel (groupKey keyField r)

/-- The records under a label, as they came. -/
def under (keyField label : String) (records : List Record) : List Record :=
  records.filter fun r => labelOf keyField r = label

/-- What the records come to: a group for every label that occurs, in the order of the first
records, with the key of its first record and the readings of all of its records. -/
structure Parts (keyField : String) (valueField : Option String) (records : List Record)
    (groups : Groups) : Prop where
  inStep : groups.InStep
  labels : groups.labels = (records.map (labelOf keyField)).eraseDups
  sortKey : ∀ g ∈ groups.entries,
    ((under keyField g.label records).map (groupKey keyField)).head? = some g.sortKey
  readings : ∀ g ∈ groups.entries,
    g.readings = .ofReadings ((under keyField g.label records).map (groupReading valueField))

theorem parts_empty : Parts keyField valueField [] .empty where
  inStep := Groups.inStep_empty
  labels := rfl
  sortKey := by simp [Groups.empty]
  readings := by simp [Groups.empty]

theorem under_append (label : String) (r : Record) :
    under keyField label (records ++ [r])
      = under keyField label records ++ if labelOf keyField r = label then [r] else [] := by
  rw [under, List.filter_append, List.filter_singleton, under]
  simp [Bool.cond_decide]

theorem under_eq_nil {label : String} (absent : label ∉ records.map (labelOf keyField)) :
    under keyField label records = [] := by
  refine List.filter_eq_nil_iff.mpr fun r hr => ?_
  simp only [decide_eq_true_eq]
  rintro rfl
  exact absent (List.mem_map_of_mem hr)

/-- A group that is there before a record is pushed, be it opened for this record. -/
theorem Parts.opened {groups : Groups} (h : Parts keyField valueField records groups) (r : Record)
    {g : Group} (mem : g ∈ groups.opened (groupKey keyField r) (labelOf keyField r)) :
    ((under keyField g.label (records ++ [r])).map (groupKey keyField)).head? = some g.sortKey ∧
      g.readings
        = .ofReadings ((under keyField g.label records).map (groupReading valueField)) := by
  have old : g ∈ groups.entries → _ := fun hg => And.intro (h.sortKey g hg) (h.readings g hg)
  rw [under_append, List.map_append, List.head?_append]
  rw [Groups.opened] at mem
  split at mem
  · rw [(old mem).1]
    exact ⟨rfl, (old mem).2⟩
  · rename_i absent
    rcases List.mem_append.mp mem with hg | hg
    · rw [(old hg).1]
      exact ⟨rfl, (old hg).2⟩
    · obtain rfl := List.mem_singleton.mp hg
      rw [h.labels, List.mem_eraseDups] at absent
      rw [under_eq_nil absent]
      exact ⟨by simp, rfl⟩

/-- What one more record comes to. -/
theorem Parts.push {groups : Groups} (h : Parts keyField valueField records groups) (r : Record) :
    Parts keyField valueField (records ++ [r])
      (groups.push (groupKey keyField r) (labelOf keyField r) (groupReading valueField r)) where
  inStep := h.inStep.push _ _ _
  labels := by
    rw [h.inStep.labels_push, h.labels, List.map_append, List.map_singleton, eraseDups_concat]
    simp only [List.mem_eraseDups]
  sortKey := by
    intro pushed hpushed
    rw [h.inStep.entries_push] at hpushed
    obtain ⟨g, hg, rfl⟩ := List.mem_map.mp hpushed
    rw [Group.label_pushUnder, Group.sortKey_pushUnder]
    exact (h.opened r hg).1
  readings := by
    intro pushed hpushed
    rw [h.inStep.entries_push] at hpushed
    obtain ⟨g, hg, rfl⟩ := List.mem_map.mp hpushed
    rw [Group.label_pushUnder, Group.readings_pushUnder, (h.opened r hg).2, under_append,
      List.map_append, Accumulator.ofReadings, Accumulator.ofReadings, List.foldl_append]
    by_cases own : g.label = labelOf keyField r
    · simp [own]
    · simp [own, Ne.symm own]

/-- What a run of records comes to. -/
theorem Parts.pushAll {groups : Groups} (h : Parts keyField valueField records groups)
    (aggregator : Aggregator) (more : List Record) :
    ∃ found, (more.foldl (fun s r => s.push r) (grouped keyField valueField aggregator groups))
        = grouped keyField valueField aggregator found ∧
      Parts keyField valueField (records ++ more) found := by
  induction more generalizing records groups with
  | nil => exact ⟨groups, rfl, by rwa [List.append_nil]⟩
  | cons r rest ih =>
    obtain ⟨found, hfound, parts⟩ := ih (h.push r)
    exact ⟨found, hfound, by rwa [List.append_cons]⟩

theorem length_under (label : String) (records : List Record) :
    (under keyField label records).length = (records.map (labelOf keyField)).count label := by
  rw [under, ← List.countP_eq_length_filter, List.count_eq_countP, List.countP_map]
  rfl

/-- Every record is counted in one group. -/
theorem Parts.sum_records {groups : Groups} (h : Parts keyField valueField records groups) :
    (groups.entries.map (·.readings.records)).sum = records.length := by
  have counted : groups.entries.map (·.readings.records)
      = groups.labels.map fun label => (records.map (labelOf keyField)).count label := by
    rw [Groups.labels, List.map_map]
    refine List.map_congr_left fun g hg => ?_
    rw [h.readings g hg, Accumulator.records_ofReadings, List.length_map, length_under]
    rfl
  have once : groups.labels.Perm (records.map (labelOf keyField)).dedup := by
    refine (List.perm_ext_iff_of_nodup h.inStep.nodup_labels (List.nodup_dedup _)).mpr fun l => ?_
    rw [h.labels, List.mem_eraseDups, List.mem_dedup]
  rw [counted, (once.map _).sum_eq, List.sum_map_count_dedup_eq_length, List.length_map]

theorem group_eq_ok {aggregator : Aggregator} {s : Series}
    (h : group keyField aggregator valueField = .ok s) :
    s = .grouped keyField valueField aggregator .empty := by
  rw [group] at h
  split at h
  · cases h
  · exact (Except.ok.inj h).symm

/-- Charts start without groups. -/
theorem groups_of_start {config : ChartConfig} {kind : ChartKind} {aggregator : Aggregator}
    {groups : Groups}
    (h : start config kind = .ok (.grouped keyField valueField aggregator groups)) :
    groups = .empty := by
  have of_group : ∀ {key : String} {operation : Aggregator} {value : Option String},
      group key operation value = .ok (.grouped keyField valueField aggregator groups) →
        groups = .empty := by
    intro key operation value h
    injection group_eq_ok h
  cases kind with
  | pie =>
    obtain ⟨category, _, h⟩ := bind_eq_ok_iff.mp h
    exact of_group h
  | histogram =>
    obtain ⟨field, _, h⟩ := bind_eq_ok_iff.mp h
    cases h
  | bar | line | scatter | timeSeries =>
    simp only [start] at h
    split at h
    · obtain ⟨key, _, h⟩ := bind_eq_ok_iff.mp h
      exact of_group h
    · split at h
      · obtain ⟨key, _, h⟩ := bind_eq_ok_iff.mp h
        exact of_group h
      · obtain ⟨x, _, h⟩ := bind_eq_ok_iff.mp h
        obtain ⟨y, _, h⟩ := bind_eq_ok_iff.mp h
        cases h

end Series

namespace Group

/-- The order of the groups' keys. -/
def compare (a b : Group) : Ordering := Value.compare (some a.sortKey) (some b.sortKey)

instance : Std.TransCmp compare :=
  transCmp_on SortKind.compare fun g : Group => SortKind.of (some g.sortKey)

end Group

namespace Chart

theorem pushAll_eq (chart : Chart) (records : List Record) :
    records.foldl Chart.push chart
      = { chart with
          series := records.foldl (fun s r => s.push r) chart.series
          records := chart.records + records.length } := by
  induction records generalizing chart with
  | nil => rfl
  | cons r rest ih =>
    rw [List.foldl_cons, ih, List.foldl_cons, List.length_cons]
    simp only [push, Nat.add_assoc, Nat.add_comm 1]

theorem start_eq_ok {config : ChartConfig} {chart : Chart} (h : start config = .ok chart) :
    Series.start config chart.kind = .ok chart.series ∧ chart.records = 0 := by
  rw [start] at h
  split at h
  · cases h
  · obtain ⟨series, hseries, h⟩ := bind_eq_ok_iff.mp h
    obtain rfl := Except.ok.inj h
    exact ⟨hseries, rfl⟩

/-- The groups of a chart part its records. Labels differ, positions are those of the groups, each
group has the readings of exactly the records under its label, and the counts add up. The groups are
drawn in the one stable order of their keys. -/
theorem groups_partition {config : ChartConfig} {chart : Chart} {keyField : String}
    {valueField : Option String} {aggregator : Aggregator} {groups : Groups}
    (started : start config = .ok chart)
    (grouped : chart.series = .grouped keyField valueField aggregator groups)
    (records : List Record) :
    ∃ found, (records.foldl push chart).series = .grouped keyField valueField aggregator found ∧
      Series.Parts keyField valueField records found ∧ found.labels.Nodup ∧
      (found.entries.map (·.readings.records)).sum = (records.foldl push chart).records ∧
      ∃ arranged, arranged.Perm found.entries ∧
        StableOrder Group.compare found.entries arranged ∧
        found.sorted aggregator
          = arranged.map fun g => (g.label, g.readings.result aggregator) := by
  obtain ⟨hseries, hrecords⟩ := start_eq_ok started
  rw [grouped] at hseries
  obtain rfl := Series.groups_of_start hseries
  obtain ⟨found, hfound, parts⟩ := Series.parts_empty.pushAll aggregator records
  rw [List.nil_append] at parts
  rw [pushAll_eq, grouped, hrecords]
  refine ⟨found, hfound, parts, parts.inStep.nodup_labels, ?_, ?_⟩
  · rw [parts.sum_records, Nat.zero_add]
  · exact ⟨_, List.mergeSort_perm _ _, stableOrder_mergeSort found.entries, rfl⟩

end Chart

namespace Deals

/-- Amounts by stage. -/
def amountsByStage : ChartConfig where
  kind := some .pie
  xAxis := none
  yAxis := some ⟨"amount", none, none⟩
  categoryField := some "stage"
  categoryLabel := none
  aggregation := some .sum
  title := none
  width := none
  height := none
  colors := none
  showLegend := none
  showGrid := none

/-- A text, a number and a record with one caption, among deals without a stage. -/
def stagedDeals : List Record :=
  [[("stage", .nat 2), ("amount", .nat 5)], [("stage", .null)],
    [("stage", .obj [("name", .str "2")]), ("amount", .str "x")], [("amount", .nat 1)],
    [("stage", .str "2"), ("amount", .nat 3)], [("stage", .arr [.str "10"])]]

end Deals

namespace Chart

open Deals (amountsByStage stagedDeals)

theorem groups_partition_stagedDeals :
    ∃ chart found, start amountsByStage = .ok chart ∧
      chart.series = .grouped "stage" (some "amount") .sum .empty ∧
      (stagedDeals.foldl push chart).series = .grouped "stage" (some "amount") .sum found ∧
      found.labels = ["2", "(blank)", "10"] ∧
      (found.entries.map (·.readings.records)).sum = 6 := by
  have started : start amountsByStage
      = .ok ⟨amountsByStage, .pie, .grouped "stage" (some "amount") .sum .empty, 0⟩ := rfl
  obtain ⟨found, hfound, parts, _, hsum, _⟩ := groups_partition started rfl stagedDeals
  refine ⟨_, found, started, rfl, hfound, ?_, ?_⟩
  · rw [parts.labels]
    decide +kernel
  · rw [hsum, pushAll_eq]
    rfl

end Chart

end RecordQuery
