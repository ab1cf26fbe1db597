import RecordQuery.Proofs.Calendar.Bucket
import RecordQuery.Proofs.Pivot.Headers

/-!
# Headers of periods in the order of time

Headers that stand together are in the order of their texts. Where a level puts dates into periods,
these are labels, and so the headers follow each other as the dates do.
-/

namespace RecordQuery

/-- Which of two instants comes first. -/
def Direction.InTime : Direction → Instant → Instant → Prop
  | ascending, s, t => s.compare t = .lt
  | descending, s, t => t.compare s = .lt

namespace HeaderValue

/-- The text that a header shows. -/
def text? (header : Value) : Option String := (header.get? "value").bind Value.asStr?

/-- Headers that stand together at a level: the first, or all that are directly below one header. -/
inductive Siblings (headers : List Value) : Nat → List Value → Prop
  | top : Siblings headers 0 headers
  | under {level : Nat} {siblings : List Value} {header : Value} :
      Siblings headers level siblings → header ∈ siblings →
      Siblings headers (level + 1) (RowValue.children header)

theorem Siblings.of_children {headers siblings : List Value} {header : Value} {level : Nat}
    (member : header ∈ headers) (h : Siblings (RowValue.children header) level siblings) :
    Siblings headers (level + 1) siblings := by
  induction h with
  | top => exact .under .top member
  | under _ inner ih => exact .under ih inner

end HeaderValue

namespace HeaderNode

open HeaderValue (Siblings text?)

theorem text?_toValue (orders : List Direction) (level : Nat) (key segment : String)
    (header : HeaderNode) : text? (header.toValue orders level key segment) = some segment := by
  cases header
  rfl

theorem children_toValue (orders : List Direction) (level : Nat) (key segment : String)
    (header : HeaderNode) :
    RowValue.children (header.toValue orders level key segment)
      = listed orders (level + 1) key header.children := by
  obtain ⟨children⟩ := header
  cases children with
  | nil => simp [listed, toValues, toValue, RowValue.children, Value.get?, Fields.get?]
  | cons first rest => rfl

theorem map_text?_listed (orders : List Direction) (level : Nat) (above : String)
    (headers : Fields HeaderNode) :
    (listed orders level above headers).map text?
      = ((orders.headD .ascending).arrange (Fields.names headers)).map some := by
  rw [listed, Direction.map_arrange, Direction.map_arrange, toValues_eq_map, List.map_map,
    Fields.names, List.map_map]
  congr 1
  exact List.map_congr_left fun entry _ => text?_toValue _ _ _ _ _

/-- Texts of shown headers are in the order of their level. -/
theorem pairwise_listed (orders : List Direction) (level : Nat) (above : String)
    {headers : Fields HeaderNode} (ascending : headers.Ascending) :
    (listed orders level above headers).Pairwise fun v w => ∀ x y, text? v = some x →
      text? w = some y → (orders.headD .ascending).Before x y := by
  have texts := Direction.pairwise_arrange ascending (orders.headD .ascending)
  have shown : ((listed orders level above headers).map text?).Pairwise fun a b => ∀ x y,
      a = some x → b = some y → (orders.headD .ascending).Before x y := by
    rw [map_text?_listed, List.pairwise_map]
    refine texts.imp fun before x y hx hy => ?_
    rwa [← Option.some.inj hx, ← Option.some.inj hy]
  exact List.pairwise_map.mp shown

theorem Even.ascending {n : Nat} {headers : Fields HeaderNode} (h : Even n headers) :
    headers.Ascending := by
  cases n with
  | zero =>
    rw [show headers = [] from h]
    exact Fields.ascending_nil
  | succ n => exact h.1

/-- Headers that stand together are those of one node of the tree. -/
theorem exists_listed_of_siblings {orders : List Direction} {headers : Fields HeaderNode} {n : Nat}
    (even : Even n headers) {level : Nat} {siblings : List Value}
    (h : Siblings (listed orders 0 "" headers) level siblings) :
    ∃ depth above nodes, Even depth nodes ∧
      siblings = listed (orders.drop level) level above nodes := by
  induction h with
  | top => exact ⟨n, "", headers, even, rfl⟩
  | @under level siblings header _ member ih =>
    obtain ⟨depth, above, nodes, even, rfl⟩ := ih
    rw [listed, toValues_eq_map, Direction.mem_arrange, List.mem_map] at member
    obtain ⟨entry, hentry, rfl⟩ := member
    cases depth with
    | zero =>
      rw [show nodes = [] from even] at hentry
      cases hentry
    | succ depth =>
      refine ⟨depth, ColumnKey.below above entry.1, _, (even.2 entry hentry).1, ?_⟩
      rw [children_toValue, List.tail_drop]

/-- Every segment of a way stands among the headers of its level. -/
theorem exists_siblings_of_way {n : Nat} {orders : List Direction} {headers : Fields HeaderNode}
    (even : Even n headers) {way : List String} (h : way ∈ ways n orders headers) (start : Nat)
    (above : String) {level : Nat} {segment : String} (stands : way[level]? = some segment) :
    ∃ siblings, Siblings (listed orders start above headers) level siblings ∧
      ∃ header ∈ siblings, text? header = some segment := by
  induction n generalizing orders headers way start above level with
  | zero =>
    rw [List.mem_singleton.mp h] at stands
    cases stands
  | succ n ih =>
    obtain ⟨first, node, more, hget, deeper, rfl⟩ := (mem_ways_succ even.1).mp h
    have entry := Fields.mem_of_get? hget
    have member : node.toValue orders.tail start (ColumnKey.below above first) first
        ∈ listed orders start above headers := by
      rw [listed, Direction.mem_arrange, toValues_eq_map]
      exact List.mem_map.mpr ⟨_, entry, rfl⟩
    cases level with
    | zero => exact ⟨_, .top, _, member, (text?_toValue _ _ _ _ _).trans stands⟩
    | succ level =>
      obtain ⟨siblings, among, found⟩ :=
        ih (even.2 _ entry).1 deeper (start + 1) (ColumnKey.below above first) stands
      rw [← children_toValue orders.tail start _ first] at among
      exact ⟨siblings, .of_children member among, found⟩

end HeaderNode

namespace ColumnDimension

/-- The date that a record has in a dimension. -/
def date? (d : ColumnDimension) (r : Record) : Option Instant :=
  (Record.pick? r (Path.ofText d.field)).bind Value.instant?

theorem segment_of_date {d : ColumnDimension} {b : Bucket} (bucketed : d.bucket = some b)
    {r : Record} {t : Instant} (dated : d.date? r = some t) (blank : String) :
    d.segment blank r = b.label t := by
  obtain ⟨v, picked, read⟩ := Option.bind_eq_some_iff.mp dated
  simp only [segment, picked, bucketed, read]

/-- Dates whose periods are in order are so themselves. -/
theorem inTime_of_before {d : ColumnDimension} {b : Bucket} (bucketed : d.bucket = some b)
    {first second : Record} {s t : Instant} (hs : d.date? first = some s) (hs' : s.FullYear)
    (ht : d.date? second = some t) (ht' : t.FullYear) {blank : String} {order : Direction}
    (before : order.Before (d.segment blank first) (d.segment blank second)) :
    order.InTime s t := by
  rw [segment_of_date bucketed hs, segment_of_date bucketed ht] at before
  cases order with
  | ascending => exact b.lt_of_label_lt hs' ht' before
  | descending => exact b.lt_of_label_lt ht' hs' before

end ColumnDimension

namespace PivotTable

/-- In the years of four digits labels are the same for the instants of one period only, and no
instant has a label of later bytes than a later instant has. Every record is shown at every level of
the columns, and wherever a pivot puts dates into periods, records that are shown in different
columns of one level stand in the order of their dates. -/
theorem periods_chronological :
    (∀ (b : Bucket) (s t : Instant), s.FullYear → t.FullYear →
      (b.label s = b.label t ↔ b.SamePeriod s t) ∧
      (s.compare t = .lt → ¬ Text.bytes (b.label t) < Text.bytes (b.label s))) ∧
    ∀ (p : PivotLayout) (empty : PivotTable), start p = .ok empty → ∀ records : List Record,
      ∃ headers,
        (records.foldl push empty).toValue.get? "columnHeaders" = some (.arr headers) ∧
        ∀ level d, p.columns[level]? = some d →
          (∀ r ∈ records, ∃ siblings, HeaderValue.Siblings headers level siblings ∧
            ∃ header ∈ siblings, HeaderValue.text? header = some (d.segment p.blankText r)) ∧
          ∀ siblings b, HeaderValue.Siblings headers level siblings → d.bucket = some b →
            siblings.Pairwise fun v w => ∀ first second s t,
              d.date? first = some s → s.FullYear → d.date? second = some t → t.FullYear →
              HeaderValue.text? v = some (d.segment p.blankText first) →
              HeaderValue.text? w = some (d.segment p.blankText second) →
              (d.order.getD .ascending).InTime s t := by
  refine ⟨fun b s t hs ht => ⟨b.label_eq_iff hs ht, fun before => ?_⟩, ?_⟩
  · exact b.bytes_label_le hs ht (by simp [before])
  · intro p empty started records
    refine ⟨_, rfl, fun level d hd => ?_⟩
    have columned : p.columns ≠ [] := by
      intro none
      simp [none] at hd
    have layout := ((Holds.start started).foldl records).layout
    have held := headers_foldl (Holds.start started).layout
      (holds_start_headers started columned) records
    rw [List.nil_append] at held
    generalize records.foldl push empty = t at layout held
    constructor
    · intro r hr
      have way := (held.present t.columnOrders _).mpr ⟨r, hr, rfl⟩
      refine HeaderNode.exists_siblings_of_way held.even way 0 "" ?_
      rw [PivotLayout.columnSegments, List.getElem?_map, hd]
      rfl
    · intro siblings b among bucketed
      obtain ⟨_, above, nodes, even, rfl⟩ := HeaderNode.exists_listed_of_siblings held.even among
      have order : (t.columnOrders.drop level).headD .ascending = d.order.getD .ascending := by
        simp [columnOrders, layout, List.headD_eq_head?_getD, List.head?_drop, hd]
      have texts :=
        HeaderNode.pairwise_listed (t.columnOrders.drop level) level above even.ascending
      rw [order] at texts
      refine texts.imp fun before first second s t hs hs' ht ht' hv hw => ?_
      exact ColumnDimension.inTime_of_before bucketed hs hs' ht ht' (before _ _ hv hw)

end PivotTable

namespace Deals

/-- Deals by owner, in columns by the week they were signed in. -/
def signings : PivotLayout where
  rows := [⟨"owner", "Owner", "text", 0, none, none⟩]
  columns := [⟨"signed", "Signed", "date", none, none, some .week, none⟩]
  values := [⟨"amount", .sum, "Amount", "number", none⟩]
  options := none
  blank := none

def signed (date : String) : Record :=
  [("owner", .str "ann"), ("signed", .str date), ("amount", .int 1)]

/-- The evening of the Sunday after New Year 2021 and the next morning. -/
def aroundMidnight : List Record := [signed "2021-01-04T08:00:00Z", signed "2021-01-03T22:00:00Z"]

def sunday : Instant := ⟨18630 * 86400 + 79200, 0⟩

def monday : Instant := ⟨18631 * 86400 + 28800, 0⟩

/-- The Friday before, which is New Year's Day. -/
def newYear : Instant := ⟨18628 * 86400, 0⟩

/-- The Thursday before, the last day of 2020. -/
def newYearsEve : Instant := ⟨18627 * 86400, 0⟩

end Deals

/-- New Year 2021 lies within a week, the last of 2020. It comes before the week of the Monday
after. -/
theorem PivotTable.periods_chronological_newYear :
    Bucket.week.label Deals.newYearsEve = Bucket.week.label Deals.newYear ∧
    ∃ empty v w, start Deals.signings = .ok empty ∧
      (Deals.aroundMidnight.foldl push empty).toValue.get? "columnHeaders" = some (.arr [v, w]) ∧
      HeaderValue.text? v = some "2020-W53" ∧ HeaderValue.text? w = some "2021-W01" ∧
      Deals.sunday.compare Deals.monday = .lt := by
  obtain ⟨labels, tables⟩ := periods_chronological
  have together : Bucket.week.SamePeriod Deals.newYearsEve Deals.newYear :=
    ⟨18624, by decide, by decide, by decide⟩
  have started : start Deals.signings = .ok _ := rfl
  obtain ⟨_, shown, order⟩ := tables _ _ started Deals.aroundMidnight
  obtain rfl := Value.arr.inj (Option.some.inj shown)
  have siblings := List.pairwise_cons.mp ((order 0 _ rfl).2 _ _ .top rfl)
  refine ⟨(labels .week _ _ (by decide +kernel) (by decide +kernel)).1.mpr together, _, _, _,
    started, rfl, by decide +kernel, by decide +kernel, ?_⟩
  exact siblings.1 _ List.mem_cons_self (Deals.signed "2021-01-03T22:00:00Z")
    (Deals.signed "2021-01-04T08:00:00Z") _ _ (by decide +kernel) (by decide +kernel)
    (by decide +kernel) (by decide +kernel) (by decide +kernel) (by decide +kernel)

end RecordQuery
