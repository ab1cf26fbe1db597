import RecordQuery.Calendar.Instant
import RecordQuery.Chart.Scale
import RecordQuery.Svg.Basic

/-!
The parts of a chart: frame, legend, bars, lines, points, bins and slices, each a list of elements.
-/

namespace RecordQuery

namespace Chart

structure AxisLabels where
  x : String
  y : String
  category : String

/-- What all parts of a chart share. -/
structure Sheet where
  width : Float
  height : Float
  /-- There is at least one. -/
  colors : List String
  grid : Bool
  legend : Bool
  labels : AxisLabels

/-- The rectangle between the axes. -/
structure Area where
  left : Float
  top : Float
  right : Float
  bottom : Float

namespace Area

def width (a : Area) : Float := a.right - a.left

def height (a : Area) : Float := a.bottom - a.top

/-- Horizontal place of a number. -/
def across (a : Area) (r : Range) (x : Float) : Float := a.left + r.share x * a.width

/-- Vertical place of a number; numbers grow upwards. -/
def up (a : Area) (r : Range) (y : Float) : Float := a.bottom - r.share y * a.height

/-- Width of one of several bands side by side. -/
def band (a : Area) (count : Nat) : Float := a.width / Float.ofNat (max count 1)

end Area

def caption (x y : Float) (anchor size content : String) : Svg :=
  .label "text" [("x", place x), ("y", place y), ("text-anchor", anchor), ("font-size", size)]
    content

def line (x₁ y₁ x₂ y₂ : Float) (more : List (String × String)) : Svg :=
  .leaf "line" ([("x1", place x₁), ("y1", place y₁), ("x2", place x₂), ("y2", place y₂)] ++ more)

def box (x y width height : Float) (more : List (String × String)) : Svg :=
  .leaf "rect"
    ([("x", place x), ("y", place y), ("width", place width), ("height", place height)] ++ more)

def dot (x y : Float) (radius : String) (more : List (String × String)) : Svg :=
  .leaf "circle" ([("cx", place x), ("cy", place y), ("r", radius)] ++ more)

namespace Sheet

/-- Colours repeat in order. -/
def color (s : Sheet) (i : Nat) : String := s.colors.getD (i % s.colors.length) ""

def area (s : Sheet) (legend : Bool) : Area where
  left := 70
  top := 50
  right := s.width - (if legend then 170 else 30)
  bottom := s.height - 80

/-- One of six ticks of the vertical axis. -/
def yTick (s : Sheet) (a : Area) (r : Range) (i : Nat) : List Svg :=
  let y := a.bottom - a.height * Float.ofNat i / 5
  (if s.grid then
      [line a.left y a.right y [("stroke", "#cccccc"), ("stroke-opacity", "0.6")]]
    else [])
    ++ [caption (a.left - 8) (y + 4) "end" "11" (tickText (r.tick i 5))]

/-- Axes with the ticks of the vertical one and the labels of both. -/
def frame (s : Sheet) (a : Area) (r : Range) : List Svg :=
  let middle := (a.top + a.bottom) / 2
  (List.range 6).flatMap (s.yTick a r)
    ++ [line a.left a.top a.left a.bottom [("stroke", "black")],
      line a.left a.bottom a.right a.bottom [("stroke", "black")],
      caption ((a.left + a.right) / 2) (s.height - 20) "middle" "12" s.labels.x,
      .label "text" [("x", "18"), ("y", place middle), ("text-anchor", "middle"),
        ("font-size", "12"), ("transform", "rotate(-90 18 " ++ place middle ++ ")")] s.labels.y]

/-- Labels beside boxes of their colours. -/
def legendOf (s : Sheet) (entries : List (String × String)) : List Svg :=
  let x := s.width - 160
  entries.zipIdx.flatMap fun ((label, color), i) =>
    let y := 60 + Float.ofNat i * 20
    [.leaf "rect" [("x", place x), ("y", place y), ("width", "12"), ("height", "12"),
        ("fill", color)],
      caption (x + 18) (y + 10) "start" "11" label]

/-- The legend of a chart with one series, if it is shown. -/
def seriesLegend (s : Sheet) : List Svg :=
  if s.legend then s.legendOf [(s.labels.y, s.color 0)] else []

/-- The middle of one band of several. -/
def bandMiddle (a : Area) (count i : Nat) : Float := a.left + a.band count * (Float.ofNat i + 0.5)

def categoryLabels (a : Area) (categories : List (String × Float)) : List Svg :=
  categories.zipIdx.map fun ((label, _), i) =>
    let x := place (bandMiddle a categories.length i)
    let y := place (a.bottom + 16)
    .label "text" [("x", x), ("y", y), ("text-anchor", "end"), ("font-size", "11"),
      ("transform", "rotate(-45 " ++ x ++ " " ++ y ++ ")")] label

/-- A line through points, each of them marked. -/
def polyline (points : List (Float × Float)) (color : String) : List Svg :=
  .leaf "polyline"
      [("points", " ".intercalate (points.map fun (x, y) => place x ++ "," ++ place y)),
        ("fill", "none"), ("stroke", color), ("stroke-width", "2")]
    :: points.map fun (x, y) => dot x y "3" [("fill", color)]

/-- A bar for each category, from zero. -/
def bars (s : Sheet) (categories : List (String × Float)) : List Svg :=
  let a := s.area s.legend
  let found := Range.of (categories.map (·.2))
  let r := (Range.mk (Binary64.lesser found.low 0) found.high).widened
  let band := a.band categories.length
  let base := a.up r 0
  let bar (entry : (String × Float) × Nat) : Svg :=
    let y := a.up r entry.1.2
    box (a.left + band * (Float.ofNat entry.2 + 0.1)) (if y < base then y else base) (band * 0.8)
      (if y < base then base - y else y - base) [("fill", s.color 0)]
  s.frame a r ++ categories.zipIdx.map bar ++ categoryLabels a categories ++ s.seriesLegend

/-- A line from category to category. -/
def categoryLine (s : Sheet) (categories : List (String × Float)) : List Svg :=
  let a := s.area s.legend
  let r := (Range.of (categories.map (·.2))).widened
  let points := categories.zipIdx.map fun ((_, value), i) =>
    (bandMiddle a categories.length i, a.up r value)
  s.frame a r ++ polyline points (s.color 0) ++ categoryLabels a categories ++ s.seriesLegend

/-- What the horizontal axis measures. -/
inductive Horizontal
  | number
  /-- Milliseconds since 1970. -/
  | time
  deriving DecidableEq

/-- Time spans what it spans, or a millisecond to each side of a single instant. -/
def Horizontal.range (h : Horizontal) (found : Range) : Range :=
  match h with
  | number => found.widened
  | time => if found.low < found.high then found else ⟨found.low - 1, found.low + 1⟩

def Horizontal.tickText (h : Horizontal) (x : Float) : String :=
  match h with
  | number => Chart.tickText x
  | time =>
    match Instant.ofMillis? x.toInt64.toInt with
    | some t => Instant.dayText t.date
    | none => ""

/-- Points by two numbers, joined in order if they are instants. -/
def points (s : Sheet) (h : Horizontal) (found : List (Float × Float)) : List Svg :=
  let a := s.area s.legend
  let ry := (Range.of (found.map (·.2))).widened
  let rx := h.range (Range.of (found.map (·.1)))
  let ticks := (List.range 5).map fun i =>
    let x := rx.tick i 4
    caption (a.across rx x) (a.bottom + 18) "middle" "11" (h.tickText x)
  let plotted := found.map fun (x, y) => (a.across rx x, a.up ry y)
  let marks := match h with
    | .time => polyline plotted (s.color 0)
    | .number => plotted.map fun (x, y) =>
        dot x y "3.5" [("fill", s.color 0), ("fill-opacity", "0.8")]
  s.frame a ry ++ ticks ++ marks ++ s.seriesLegend

/-- Bins of a histogram. -/
def binCount : Nat := 30

/-- The bin of a sample; the greatest one belongs to the last bin. -/
def bin (low span x : Float) : Nat :=
  min ((x - low) / span * Float.ofNat binCount).toUInt64.toNat (binCount - 1)

/-- How many samples fall into each bin. -/
def histogram (s : Sheet) (samples : List Float) : List Svg :=
  let a := s.area false
  let found := Range.of samples
  let span := if found.low < found.high then found.high - found.low else 1
  let bins := samples.map (bin found.low span)
  let counts := (List.range binCount).map fun i => bins.count i
  let r := (Range.mk 0 (Float.ofNat (counts.foldl max 0))).widened
  let band := a.width / Float.ofNat binCount
  let bar (entry : Nat × Nat) : Svg :=
    let y := a.up r (Float.ofNat entry.1)
    box (a.left + band * Float.ofNat entry.2) y band (a.bottom - y)
      [("fill", s.color 0), ("stroke", "white")]
  { s with labels := ⟨s.labels.y, "Frequency", ""⟩ }.frame a r ++ counts.zipIdx.map bar
    ++ [caption a.left (a.bottom + 18) "middle" "11" (tickText found.low),
      caption a.right (a.bottom + 18) "middle" "11" (tickText (found.low + span))]

/-- The circle that the slices of a pie fill. -/
structure Circle where
  x : Float
  y : Float
  radius : Float

def Circle.point (c : Circle) (reach angle : Float) : Float × Float :=
  (c.x + c.radius * reach * angle.cos, c.y + c.radius * reach * angle.sin)

/-- A slice between two angles, or the whole circle. -/
def slice (c : Circle) (share start sweep : Float) (color : String) : Svg :=
  if 1 ≤ share then dot c.x c.y (place c.radius) [("fill", color)]
  else
    let (x₁, y₁) := (c.x + c.radius * start.cos, c.y + c.radius * start.sin)
    let stop := start + sweep
    let (x₂, y₂) := (c.x + c.radius * stop.cos, c.y + c.radius * stop.sin)
    let large := if 3.14159265358979323846 < sweep then "1" else "0"
    .leaf "path" [("d", "M " ++ place c.x ++ " " ++ place c.y
        ++ " L " ++ place x₁ ++ " " ++ place y₁
        ++ " A " ++ place c.radius ++ " " ++ place c.radius ++ " 0 " ++ large ++ " 1 " ++ place x₂
        ++ " " ++ place y₂ ++ " Z"), ("fill", color), ("stroke", "white")]

/-- A slice with its share, and its label if there is no legend. -/
def labelledSlice (s : Sheet) (c : Circle) (label : String) (share start : Float) (color : String) :
    List Svg :=
  let sweep := share * 6.28318530717958647692
  let middle := start + sweep / 2
  let (x, y) := c.point 0.6 middle
  slice c share start sweep color
    :: caption x y "middle" "11" (place (share * 100) ++ "%")
    :: if s.legend then [] else
      let (x, y) := c.point 1.1 middle
      [caption x y "middle" "11" label]

/-- Slices from an angle on; empty ones take no place. -/
def slicesFrom (s : Sheet) (c : Circle) (total : Float) : Nat → Float → List (String × Float) →
    List Svg
  | _, _, [] => []
  | i, start, (label, value) :: rest =>
    let share := Binary64.greater value 0 / total
    if share ≤ 0 then slicesFrom s c total (i + 1) start rest
    else s.labelledSlice c label share start (s.color i)
      ++ slicesFrom s c total (i + 1) (start + share * 6.28318530717958647692) rest

/-- Slices clockwise from the top. Nothing is drawn if nothing is positive. -/
def pie (s : Sheet) (slices : List (String × Float)) : List Svg :=
  let a := s.area s.legend
  let c : Circle := ⟨(a.left + a.right) / 2, (a.top + a.bottom) / 2,
    Binary64.lesser a.width a.height / 2⟩
  let total := slices.foldl (fun sum slice => sum + Binary64.greater slice.2 0) 0
  if total ≤ 0 then []
  else
    s.slicesFrom c total 0 (-1.57079632679489661923) slices
      ++ if s.legend then s.legendOf (slices.zipIdx.map fun ((label, _), i) => (label, s.color i))
        else []

end Sheet

end Chart

end RecordQuery
