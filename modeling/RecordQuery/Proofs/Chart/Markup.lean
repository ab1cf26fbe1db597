import RecordQuery.Chart.Render
import RecordQuery.Proofs.Bridge.Agreement
import RecordQuery.Proofs.Svg.Reader

/-!
# Charts keep texts inside their markup

A chart is drawn with elements and attributes of a few names of its own. What a configuration or a
record holds comes into texts and values only, where it cannot end a tag or begin one.
-/

namespace RecordQuery

namespace Chart

open Svg (leaf label)

/-- The elements that charts are drawn with. -/
def elementNames : List String := ["svg", "rect", "text", "line", "circle", "polyline", "path"]

def attributeNames : List String :=
  ["xmlns", "viewBox", "font-family", "x", "y", "width", "height", "fill", "fill-opacity", "stroke",
    "stroke-width", "stroke-opacity", "text-anchor", "font-size", "transform", "x1", "y1", "x2",
    "y2", "cx", "cy", "r", "points", "d"]

/-- Whatever its texts and values are, the names are the chart's own. -/
def Drawn (t : Svg) : Prop := t.Uses elementNames attributeNames

def AllDrawn (parts : List Svg) : Prop := ∀ t ∈ parts, Drawn t

def Attributed (attributes : List (String × String)) : Prop :=
  ∀ entry ∈ attributes, entry.1 ∈ attributeNames

theorem allDrawn_nil : AllDrawn [] := by simp [AllDrawn]

theorem allDrawn_cons {t : Svg} {parts : List Svg} :
    AllDrawn (t :: parts) ↔ Drawn t ∧ AllDrawn parts := List.forall_mem_cons

theorem allDrawn_append {parts more : List Svg} :
    AllDrawn (parts ++ more) ↔ AllDrawn parts ∧ AllDrawn more := List.forall_mem_append

theorem allDrawn_map {α : Type} {f : α → Svg} (h : ∀ a, Drawn (f a)) (as : List α) :
    AllDrawn (as.map f) := by
  intro t ht
  obtain ⟨a, _, rfl⟩ := List.mem_map.mp ht
  exact h a

theorem allDrawn_flatMap {α : Type} {f : α → List Svg} (h : ∀ a, AllDrawn (f a)) (as : List α) :
    AllDrawn (as.flatMap f) := by
  intro t ht
  obtain ⟨a, _, ha⟩ := List.mem_flatMap.mp ht
  exact h a t ha

theorem allDrawn_ite {c : Prop} [Decidable c] {parts more : List Svg} (hparts : AllDrawn parts)
    (hmore : AllDrawn more) : AllDrawn (if c then parts else more) := by
  split
  · exact hparts
  · exact hmore

/-- Names that are written out are looked up. -/
theorem attributed {attributes : List (String × String)}
    (h : (attributes.all fun entry => attributeNames.contains entry.1) = true) :
    Attributed attributes := by
  intro entry hentry
  exact List.contains_iff_mem.mp (List.all_eq_true.mp h entry hentry)

theorem attributed_append {attributes more : List (String × String)} :
    Attributed (attributes ++ more) ↔ Attributed attributes ∧ Attributed more :=
  List.forall_mem_append

theorem drawn_leaf {name : String} {attributes : List (String × String)}
    (named : name ∈ elementNames) (attributed : Attributed attributes) :
    Drawn (leaf name attributes) :=
  .group named attributed (by simp)

theorem drawn_text {attributes : List (String × String)} (attributed : Attributed attributes)
    (content : String) : Drawn (label "text" attributes content) :=
  .label (by decide) attributed content

theorem drawn_caption (x y : Float) (anchor size content : String) :
    Drawn (caption x y anchor size content) :=
  drawn_text (attributed rfl) content

theorem drawn_line (x₁ y₁ x₂ y₂ : Float) {more : List (String × String)} (h : Attributed more) :
    Drawn (line x₁ y₁ x₂ y₂ more) :=
  drawn_leaf (by decide) (attributed_append.mpr ⟨attributed rfl, h⟩)

theorem drawn_box (x y width height : Float) {more : List (String × String)}
    (h : Attributed more) : Drawn (box x y width height more) :=
  drawn_leaf (by decide) (attributed_append.mpr ⟨attributed rfl, h⟩)

theorem drawn_dot (x y : Float) (radius : String) {more : List (String × String)}
    (h : Attributed more) : Drawn (dot x y radius more) :=
  drawn_leaf (by decide) (attributed_append.mpr ⟨attributed rfl, h⟩)

namespace Sheet

variable (s : Sheet)

theorem allDrawn_yTick (a : Area) (r : Range) (i : Nat) : AllDrawn (s.yTick a r i) := by
  refine allDrawn_append.mpr ⟨allDrawn_ite ?_ allDrawn_nil, ?_⟩
  · exact allDrawn_cons.mpr
      ⟨drawn_line _ _ _ _ (attributed rfl), allDrawn_nil⟩
  · exact allDrawn_cons.mpr ⟨drawn_caption _ _ _ _ _, allDrawn_nil⟩

theorem allDrawn_frame (a : Area) (r : Range) : AllDrawn (s.frame a r) := by
  refine allDrawn_append.mpr ⟨allDrawn_flatMap (s.allDrawn_yTick a r) _, ?_⟩
  simp only [allDrawn_cons, allDrawn_nil, and_true]
  exact ⟨drawn_line _ _ _ _ (attributed rfl),
    drawn_line _ _ _ _ (attributed rfl), drawn_caption _ _ _ _ _,
    drawn_text (attributed rfl) _⟩

theorem allDrawn_legendOf (entries : List (String × String)) : AllDrawn (s.legendOf entries) := by
  refine allDrawn_flatMap (fun _ => ?_) _
  simp only [allDrawn_cons, allDrawn_nil, and_true]
  exact ⟨drawn_leaf (by decide) (attributed rfl), drawn_caption _ _ _ _ _⟩

theorem allDrawn_seriesLegend : AllDrawn s.seriesLegend :=
  allDrawn_ite (s.allDrawn_legendOf _) allDrawn_nil

theorem allDrawn_categoryLabels (a : Area) (categories : List (String × Float)) :
    AllDrawn (categoryLabels a categories) :=
  allDrawn_map (fun _ => drawn_text (attributed rfl) _) _

theorem allDrawn_polyline (points : List (Float × Float)) (color : String) :
    AllDrawn (polyline points color) :=
  allDrawn_cons.mpr ⟨drawn_leaf (by decide) (attributed rfl),
    allDrawn_map (fun _ => drawn_dot _ _ _ (attributed rfl)) _⟩

theorem allDrawn_bars (categories : List (String × Float)) : AllDrawn (s.bars categories) := by
  simp only [bars, allDrawn_append]
  exact ⟨⟨⟨s.allDrawn_frame _ _,
    allDrawn_map (fun _ => drawn_box _ _ _ _ (attributed rfl)) _⟩,
    allDrawn_categoryLabels _ _⟩, s.allDrawn_seriesLegend⟩

theorem allDrawn_categoryLine (categories : List (String × Float)) :
    AllDrawn (s.categoryLine categories) := by
  simp only [categoryLine, allDrawn_append]
  exact ⟨⟨⟨s.allDrawn_frame _ _, allDrawn_polyline _ _⟩, allDrawn_categoryLabels _ _⟩,
    s.allDrawn_seriesLegend⟩

theorem allDrawn_points (h : Horizontal) (found : List (Float × Float)) :
    AllDrawn (s.points h found) := by
  simp only [points, allDrawn_append]
  refine ⟨⟨⟨s.allDrawn_frame _ _, allDrawn_map (fun _ => drawn_caption _ _ _ _ _) _⟩, ?_⟩,
    s.allDrawn_seriesLegend⟩
  cases h with
  | time => exact allDrawn_polyline _ _
  | number =>
    exact allDrawn_map (fun _ => drawn_dot _ _ _ (attributed rfl)) _

theorem allDrawn_histogram (samples : List Float) : AllDrawn (s.histogram samples) := by
  simp only [histogram, allDrawn_append, allDrawn_cons, allDrawn_nil, and_true]
  exact ⟨⟨allDrawn_frame _ _ _,
    allDrawn_map (fun _ => drawn_box _ _ _ _ (attributed rfl)) _⟩,
    drawn_caption _ _ _ _ _, drawn_caption _ _ _ _ _⟩

theorem drawn_slice (c : Circle) (share start sweep : Float) (color : String) :
    Drawn (slice c share start sweep color) := by
  unfold slice
  split
  · exact drawn_dot _ _ _ (attributed rfl)
  · exact drawn_leaf (by decide) (attributed rfl)

theorem allDrawn_labelledSlice (c : Circle) (label : String) (share start : Float)
    (color : String) : AllDrawn (s.labelledSlice c label share start color) := by
  simp only [labelledSlice, allDrawn_cons]
  exact ⟨drawn_slice _ _ _ _ _, drawn_caption _ _ _ _ _,
    allDrawn_ite allDrawn_nil (allDrawn_cons.mpr ⟨drawn_caption _ _ _ _ _, allDrawn_nil⟩)⟩

theorem allDrawn_slicesFrom (c : Circle) (total : Float) (i : Nat) (start : Float)
    (slices : List (String × Float)) : AllDrawn (s.slicesFrom c total i start slices) := by
  induction slices generalizing i start with
  | nil => exact allDrawn_nil
  | cons slice rest ih =>
    rw [slicesFrom]
    refine allDrawn_ite (ih _ _) ?_
    exact allDrawn_append.mpr ⟨s.allDrawn_labelledSlice _ _ _ _ _, ih _ _⟩

theorem allDrawn_pie (slices : List (String × Float)) : AllDrawn (s.pie slices) := by
  unfold pie
  refine allDrawn_ite allDrawn_nil (allDrawn_append.mpr ⟨s.allDrawn_slicesFrom _ _ _ _ _, ?_⟩)
  exact allDrawn_ite (s.allDrawn_legendOf _) allDrawn_nil

end Sheet

theorem allDrawn_parts (c : Chart) : AllDrawn c.parts := by
  unfold parts
  split
  · split
    · exact Sheet.allDrawn_pie _ _
    · exact Sheet.allDrawn_categoryLine _ _
    · exact Sheet.allDrawn_points _ _ _
    · exact Sheet.allDrawn_bars _ _
  · split
    · exact Sheet.allDrawn_points _ _ _
    · exact Sheet.allDrawn_points _ _ _
    · exact Sheet.allDrawn_categoryLine _ _
    · exact Sheet.allDrawn_bars _ _
  · exact Sheet.allDrawn_histogram _ _

theorem drawn_toSvg (c : Chart) : Drawn c.toSvg := by
  refine .group (by decide) (attributed rfl) (allDrawn_append.mpr ⟨?_, c.allDrawn_parts⟩)
  simp only [allDrawn_cons, allDrawn_nil, and_true]
  exact ⟨drawn_leaf (by decide) (attributed rfl),
    drawn_text (attributed rfl) _⟩

/-- Whatever texts a chart was configured with and has taken from records, its markup is read back
as the drawing that was meant, which has names of the chart's own only; all brackets and quotes are
those of the same drawing without its texts and values. The markup begins and ends as a drawing and
comes out of a message as it is. -/
theorem render_confines_texts (c : Chart) :
    c.toSvg.Uses elementNames attributeNames ∧
    Svg.read? c.render = some c.toSvg ∧
    Svg.reserved c.render = Svg.reserved c.toSvg.blank.markup ∧
    "<svg".toList <+: c.render.toList ∧ "</svg>".toList <:+ c.render.toList ∧
    AggregationOutput.readDrawing (c.render ++ "\n") = .ok c.render := by
  have drawn := c.drawn_toSvg
  exact ⟨drawn, Svg.read?_markup (by decide) (by decide) drawn, Svg.reserved_markup c.toSvg,
    Svg.prefix_markup "svg" _ _, Svg.suffix_markup "svg" _ _ _,
    AggregationOutput.readDrawing_render c⟩

end Chart

end RecordQuery
