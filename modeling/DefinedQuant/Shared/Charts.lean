import DefinedQuant.Lib.Xml
import DefinedQuant.Shared.ComponentOutput
import DefinedQuant.Shared.Timestamps
import DefinedQuant.Shared.Visualization
import Mathlib.Algebra.Order.Field.Basic
import Mathlib.Data.Rat.Floor
import Mathlib.Tactic.Linarith
import Mathlib.Tactic.NormNum

/-!
# Charts as SVG

`render_svg` writes a chart description as an SVG document, line by line. Every line is one element
or one tag; the texts of the caller go through `html.escape`, and the geometry is computed over an
ordered field. How numbers are written is left to a `Formats`, of which only is assumed that it
writes no character of markup.
-/

namespace Charts

open Xml (escape escapeChar isPlain tagText)
open Visualization
open Json (digitsText natDigits digit? intToken)
open FixedDigits (padded)
open Calendar (Moment)

/-! The numerals of the geometry, read in any field. -/

scoped instance atLeastTwo_two : Nat.AtLeastTwo 2 := inferInstance
scoped instance atLeastTwo_four : Nat.AtLeastTwo 4 := inferInstance
scoped instance atLeastTwo_nine : Nat.AtLeastTwo 9 := inferInstance
scoped instance atLeastTwo_twelve : Nat.AtLeastTwo 12 := inferInstance
scoped instance atLeastTwo_sixtyTwo : Nat.AtLeastTwo 62 := inferInstance
scoped instance atLeastTwo_seventyTwo : Nat.AtLeastTwo 72 := inferInstance
scoped instance atLeastTwo_ninetySix : Nat.AtLeastTwo 96 := inferInstance

/-! ## Wrapping text -/

/-- `str.expandtabs()`, from a column on -/
def expandTabs : ℕ → Text → Text
  | _, [] => []
  | column, c :: t =>
      if c = 0x9 then
        List.replicate (8 - column % 8) 0x20 ++ expandTabs (column + (8 - column % 8)) t
      else if c = 0xA ∨ c = 0xD then c :: expandTabs 0 t
      else c :: expandTabs (column + 1) t

/-- `TextWrapper._munge_whitespace` -/
def mungeWhitespace (t : Text) : Text :=
  (expandTabs 0 t).map (fun c => if (0x9 ≤ c.val ∧ c.val ≤ 0xD) ∨ c = 0x20 then 0x20 else c)

/-- `TextWrapper._split`: the runs of spaces and of other characters, in order. -/
def splitChunks (t : Text) : List Text := t.splitBy (fun a b => (a == 0x20) == (b == 0x20))

/-- The chunks that fit on a line of which some columns are taken, and the others. -/
def fillLine (width : ℕ) : ℕ → List Text → List Text × List Text
  | _, [] => ([], [])
  | taken, chunk :: chunks =>
      if taken + chunk.length ≤ width then
        let (line, rest) := fillLine width (taken + chunk.length) chunks
        (chunk :: line, rest)
      else ([], chunk :: chunks)

/-- `_handle_long_word` with `break_long_words=False`: a chunk that fits on no line has one for
itself. -/
def placeLongWord (width : ℕ) : List Text × List Text → List Text × List Text
  | ([], chunk :: chunks) => if width < chunk.length then ([chunk], chunks)
    else ([], chunk :: chunks)
  | filled => filled

/-- A list without its last chunk, if that is blank. -/
def dropBlankLast (line : List Text) : List Text :=
  match line.getLast? with
  | some chunk => if ComponentOutput.isBlank chunk then line.dropLast else line
  | none => line

/-- A list without its first chunk, if that is blank. -/
def dropBlankFirst : List Text → List Text
  | [] => []
  | chunk :: chunks => if ComponentOutput.isBlank chunk then chunks else chunk :: chunks

/-- `TextWrapper._wrap_chunks`, where some lines may stand already; a pass of the loop takes a chunk
or more. -/
def wrapChunks (width : ℕ) : ℕ → Bool → List Text → List Text
  | 0, _, _ => []
  | _ + 1, _, [] => []
  | passes + 1, someLines, chunk :: chunks =>
      let chunks := if someLines then dropBlankFirst (chunk :: chunks) else chunk :: chunks
      let (line, rest) := placeLongWord width (fillLine width 0 chunks)
      match dropBlankLast line with
      | [] => wrapChunks width passes someLines rest
      | line => line.flatten :: wrapChunks width passes true rest

/-- `textwrap.wrap(text, width=width, break_long_words=False, break_on_hyphens=False)` -/
def wrap (width : ℕ) (t : Text) : List Text :=
  let chunks := splitChunks (mungeWhitespace t)
  wrapChunks width chunks.length false chunks

/-! ## The texts of a chart -/

section texts

variable {K : Type} (spec : VisualizationSpec K)

/-- The notes under a chart. -/
def notes : List Text :=
  (match spec.caption with
    | some caption => if caption = [] then [] else [caption]
    | none => []) ++
  (if spec.assumptions = [] then []
    else [py "Assumptions: " ++ List.intercalate (py "; ") spec.assumptions]) ++
  (if spec.warnings = [] then [] else [py "Warnings: " ++ List.intercalate (py "; ") spec.warnings])

/-- `_footer_lines` -/
def footerLines : List Text :=
  let characters := (max 45 ((spec.width - 144) / 7)).toNat
  (notes spec).flatMap (fun note =>
    let lines := wrap characters note
    if lines = [] then [[]] else lines)

/-- `_category_label_indexes` -/
def categoryLabelIndexes (categoryCount : ℕ) : List ℕ :=
  let step := max 1 ((categoryCount + 7) / 8)
  let indexes := (List.range ((categoryCount + step - 1) / step)).map (· * step)
  if indexes.getLast? = some (categoryCount - 1) then indexes else indexes ++ [categoryCount - 1]

/-- What charts use of the standard library to read and to write dates. -/
structure Dates where
  fromisoformat : Text → Option Moment
  /-- Whether `%Y` pads the year. -/
  pads : Bool

/-- `value.date().isoformat()` -/
def dateText (t : Moment) : Text :=
  padded 4 t.date.year ++ 0x2D :: padded 2 t.date.month ++ 0x2D :: padded 2 t.date.day

/-- `value.strftime("%Y-%m-%d %H:%M")` -/
def minuteText (dates : Dates) (t : Moment) : Text :=
  digitsText (DatasetRegistry.yearDigits dates.pads t.date.year) ++ 0x2D :: padded 2 t.date.month ++
    0x2D :: padded 2 t.date.day ++ 0x20 :: padded 2 t.hour ++ 0x3A :: padded 2 t.minute

/-- `_category_labels` -/
def categoryLabels (dates : Dates) (categories : List Text) (indexes : List ℕ) : List Text :=
  let selected := indexes.map (fun index => categories.getD index [])
  let withOffset (value : Text) : Text :=
    value.flatMap (fun c => if c = 0x5A then py "+00:00" else [c])
  match selected.mapM (fun value => dates.fromisoformat (withOffset value)) with
  | none => selected.map (fun value =>
      if value.length ≤ 18 then value else value.take 15 ++ py "...")
  | some parsed =>
      if (parsed.map dateText).Nodup then parsed.map dateText else parsed.map (minuteText dates)

/-- `" ".join(description_parts)` -/
def description : Text :=
  List.intercalate (py " ") (spec.altText :: spec.assumptions ++ spec.warnings)

end texts

/-! ## Lines of a document -/

/-- A line that holds one element: its attributes, and the text between its tags; without one it
closes itself. -/
structure Line where
  name : String
  attributes : List (String × Text)
  content : Option Text

/-- The attributes as text. -/
def Line.attributeTexts (line : Line) : List (Text × Text) :=
  line.attributes.map (fun item => (py item.1, item.2))

def Line.text (line : Line) : Text :=
  tagText (py line.name) line.attributeTexts ++
    match line.content with
    | none => py "/>"
    | some content => py ">" ++ content ++ (py "</" ++ py line.name ++ py ">")

/-- An integer as text. -/
def int (n : ℤ) : Text := (intToken n).text

/-- How a chart writes numbers. -/
structure Formats (K : Type) where
  isFinite : K → Bool
  /-- `format(x, ".2f")` -/
  coordinate : K → Text
  /-- `format(x, ".0f")` -/
  whole : K → Text
  /-- `format(x, ".4g")` and `format(x, ".6g")` -/
  general : ℕ → K → Text
  /-- `format(Decimal.from_float(x).scaleb(2), ".4g")` -/
  hundredfold : K → Text
  /-- `format(round(x), "02X")` -/
  channel : K → Text
  coordinate_plain : ∀ x, ∀ c ∈ coordinate x, isPlain c = true
  whole_plain : ∀ x, ∀ c ∈ whole x, isPlain c = true
  general_plain : ∀ n x, ∀ c ∈ general n x, isPlain c = true
  hundredfold_plain : ∀ x, ∀ c ∈ hundredfold x, isPlain c = true
  channel_plain : ∀ x, ∀ c ∈ channel x, isPlain c = true

/-- `_PALETTE` -/
def palette : List String :=
  ["#2563EB", "#D97706", "#059669", "#7C3AED", "#DC2626", "#0891B2", "#4F46E5", "#65A30D",
    "#C026D3", "#EA580C", "#0F766E", "#475569"]

/-- `_PALETTE[index]` -/
def color (index : ℕ) : Text := py (palette.getD index "")

section geometry

variable {K : Type} [Field K] [LinearOrder K] (formats : Formats K) (spec : VisualizationSpec K)

/-- `_format_number` -/
def formatNumber (value : K) (numberFormat : NumberFormat) : Text :=
  match numberFormat with
  | .percent =>
      if formats.isFinite (value * 100) then formats.general 4 (value * 100) ++ py "%"
      else formats.hundredfold value ++ py "%"
  | .integer => formats.whole value
  | .decimal => formats.general 6 value

/-- `_coordinate` -/
def coordinate (value low high top bottom : K) : K :=
  bottom - (value - low) / (high - low) * (bottom - top)

/-- The smallest and the largest of some values, that of no value being zero. -/
def extremes (values : List K) : K × K :=
  (values.tail.foldl min (values.headD 0), values.tail.foldl max (values.headD 0))

/-- `_domain` -/
def domain : K × K :=
  let (low, high) := extremes (spec.series.flatMap ChartSeries.values)
  let (low, high) := if spec.kind = .bar then (min low 0, max high 0) else (low, high)
  if low = high then
    let padding := max (|low| * 0.1) 1e-9
    (low - padding, high + padding)
  else
    let padding := (high - low) * 0.08
    (low - padding, high + padding)

/-- The rectangle that a chart is drawn in. -/
structure Frame (K : Type) where
  left : K
  right : K
  top : K
  bottom : K

/-- The frame between the title and the footer. -/
def frameOf (top below : K) : Frame K where
  left := 76
  right := ((spec.width - 28 : ℤ) : K)
  top := top
  bottom := (spec.height : K) - below - (footerLines spec).length * 15

/-- A coordinate attribute. -/
def coord (name : String) (x : K) : String × Text := (name, formats.coordinate x)

/-- A fixed attribute. -/
def fixed (name value : String) : String × Text := (name, py value)

/-! ### What all charts share -/

/-- The title, the description, the background and the heading. -/
def header (left : K) : List Line :=
  [⟨"title", [("id", spec.id ++ py "_title")], some (escape spec.title)⟩,
    ⟨"desc", [("id", spec.id ++ py "_description")], some (escape (description spec))⟩,
    ⟨"rect", [("width", int spec.width), ("height", int spec.height), fixed "fill" "#FFFFFF"],
    none⟩,
    ⟨"text", [coord formats "x" left, fixed "y" "29", fixed "fill" "#111827",
      fixed "font-family" "system-ui, sans-serif", fixed "font-size" "18",
      fixed "font-weight" "600"], some (escape spec.title)⟩]

/-- The footer from a height on. -/
def footer (left : K) : K → List Text → List Line
  | _, [] => []
  | y, line :: lines =>
      ⟨"text", [coord formats "x" left, coord formats "y" y, fixed "fill" "#4B5563",
        fixed "font-family" "system-ui, sans-serif", fixed "font-size" "10"], some (escape line)⟩ ::
        footer left (y + 15) lines

/-- The attributes of the `svg` element. -/
def rootAttributes : List (String × Text) :=
  [fixed "xmlns" "http://www.w3.org/2000/svg", ("width", int spec.width),
    ("height", int spec.height),
    ("viewBox", py "0 0 " ++ int spec.width ++ py " " ++ int spec.height), fixed "role" "img",
    ("aria-labelledby", spec.id ++ py "_title" ++ py " " ++ spec.id ++ py "_description")]

/-- The document of some lines, joined by line feeds. -/
def document (lines : List Line) : Text :=
  List.intercalate (py "\n") ([py "<?xml version=\"1.0\" encoding=\"UTF-8\"?>",
    tagText (py "svg") ((rootAttributes spec).map (fun item => (py item.1, item.2))) ++ py ">"] ++
    lines.map Line.text ++ [py "</svg>"]) ++ py "\n"

/-! ### Line and bar charts -/

/-- A line of the grid or of an axis. -/
def rule (x1 y1 x2 y2 : K) (stroke width : String) : Line :=
  ⟨"line", [coord formats "x1" x1, coord formats "y1" y1, coord formats "x2" x2,
    coord formats "y2" y2, fixed "stroke" stroke, fixed "stroke-width" width], none⟩

/-- The ticks of the value axis. -/
def ticks (frame : Frame K) (low high : K) : List Line :=
  (List.range 5).flatMap (fun index =>
    let fraction : K := (index : K) / 4
    let value := high - fraction * (high - low)
    let y := frame.top + fraction * (frame.bottom - frame.top)
    [rule formats frame.left y frame.right y "#E5E7EB" "1",
      ⟨"text", [coord formats "x" (frame.left - 9), coord formats "y" (y + 4),
      fixed "text-anchor" "end",
        fixed "fill" "#4B5563", fixed "font-family" "ui-monospace, monospace",
        fixed "font-size" "11"],
        some (escape (formatNumber formats value spec.yAxis.numberFormat))⟩])

/-- The two axes, and the line at zero. -/
def axes (frame : Frame K) (low high : K) : List Line :=
  [rule formats frame.left frame.top frame.left frame.bottom "#9CA3AF" "1",
    rule formats frame.left frame.bottom frame.right frame.bottom "#9CA3AF" "1"] ++
  (if low ≤ 0 ∧ 0 ≤ high then
    let zeroY := coordinate 0 low high frame.top frame.bottom
    [rule formats frame.left zeroY frame.right zeroY "#6B7280" "1.2"]
  else [])

/-- The horizontal position of a category. -/
def categoryX (frame : Frame K) (count index : ℕ) : K :=
  if count = 1 then frame.left + (frame.right - frame.left) / 2
  else frame.left + index * (frame.right - frame.left) / ((count - 1 : ℕ) : K)

/-- A series of a line chart. -/
def lineSeries (frame : Frame K) (low high : K) (count seriesIndex : ℕ) (values : List K) :
    List Line :=
  let showMarkers := count = 1 ∨ 7.0 ≤ (frame.right - frame.left) / ((count - 1 : ℕ) : K)
  let points := values.zipIdx.map (fun item =>
    (categoryX frame count item.2, coordinate item.1 low high frame.top frame.bottom, item.2))
  let commands := points.map (fun (x, y, index) =>
    (if index = 0 then py "M" else py "L") ++ formats.coordinate x ++ py "," ++
      formats.coordinate y)
  ⟨"path", [("d", List.intercalate (py " ") commands), fixed "fill" "none",
    ("stroke", color seriesIndex), fixed "stroke-width" "2.25", fixed "stroke-linecap" "round",
    fixed "stroke-linejoin" "round"], none⟩ ::
    (if showMarkers then
      points.map (fun (x, y, _) =>
        ⟨"circle", [coord formats "cx" x, coord formats "cy" y, fixed "r" "2.6",
          ("fill", color seriesIndex)], none⟩)
    else [])

/-- A series of a bar chart. -/
def barSeries (frame : Frame K) (low high : K) (count seriesCount seriesIndex : ℕ)
    (values : List K) : Line :=
  let groupWidth := (frame.right - frame.left) / (count : K)
  let usableWidth := groupWidth * 0.74
  let barWidth := usableWidth / (seriesCount : K)
  let zeroY := coordinate 0 low high frame.top frame.bottom
  let width := formats.coordinate (max (barWidth - 1.5) 0.8)
  let commands := (List.range count).map (fun (index : ℕ) =>
    let groupStart := frame.left + index * groupWidth + (groupWidth - usableWidth) / 2
    let valueY := coordinate (values.getD index 0) low high frame.top frame.bottom
    py "M" ++ formats.coordinate (groupStart + seriesIndex * barWidth) ++ py "," ++
      formats.coordinate (min valueY zeroY) ++ py "h" ++ width ++ py "v" ++
      formats.coordinate (max |zeroY - valueY| 0.8) ++ py "h-" ++ width ++ py "Z")
  ⟨"path", [("d", List.intercalate (py " ") commands), ("fill", color seriesIndex)], none⟩

/-- The marks of the series. -/
def marks (frame : Frame K) (low high : K) : List Line :=
  let series := (spec.series.map ChartSeries.values).zipIdx
  match spec.kind with
  | .line => series.flatMap (fun item =>
      lineSeries formats frame low high spec.categories.length item.2 item.1)
  | .bar => series.map (fun item =>
      barSeries formats frame low high spec.categories.length spec.series.length item.2 item.1)
  | .heatmap => []

/-- The labels under the categories. -/
def categoryTexts (dates : Dates) (frame : Frame K) : List Line :=
  let indexes := categoryLabelIndexes spec.categories.length
  (indexes.zip (categoryLabels dates spec.categories indexes)).map (fun item =>
    ⟨"text", [coord formats "x" (categoryX frame spec.categories.length item.1),
      coord formats "y" (frame.bottom + 18), fixed "text-anchor" "middle", fixed "fill" "#4B5563",
      fixed "font-family" "system-ui, sans-serif", fixed "font-size" "10"], some (escape item.2)⟩)

/-- The label of the value axis with its unit, as it is written. -/
def valueLabel : Text :=
  escape spec.yAxis.label ++ py " [" ++ escape (py spec.yAxis.unit.value) ++ py "]"

/-- The labels of the axes. -/
def axisTexts (frame : Frame K) : List Line :=
  [⟨"text", [coord formats "x" ((frame.left + frame.right) / 2),
      coord formats "y" (frame.bottom + 39),
      fixed "text-anchor" "middle", fixed "fill" "#374151",
      fixed "font-family" "system-ui, sans-serif", fixed "font-size" "11"],
      some (escape spec.xAxis.label)⟩,
    ⟨"text", [fixed "x" "17", coord formats "y" ((frame.top + frame.bottom) / 2),
      fixed "text-anchor" "middle",
      ("transform",
        py "rotate(-90 17 " ++ formats.coordinate ((frame.top + frame.bottom) / 2) ++ py ")"),
      fixed "fill" "#374151", fixed "font-family" "system-ui, sans-serif", fixed "font-size" "11"],
      some (valueLabel spec)⟩]

/-- The legend, from a position and a series on. -/
def legend : K → ℕ → List Text → List Line
  | _, _, [] => []
  | x, index, label :: labels =>
      let x := if index = 0 then x else x + 18
      ⟨"rect", [coord formats "x" x, coord formats "y" (47 - 8), fixed "width" "10",
        fixed "height" "10", ("fill", color index)], none⟩ ::
      ⟨"text", [coord formats "x" (x + 14), coord formats "y" 47, fixed "fill" "#374151",
        fixed "font-family" "system-ui, sans-serif", fixed "font-size" "10"],
        some (escape label)⟩ ::
      legend (x + 14 + max 48 ((label.length : K) * 6.2)) (index + 1) labels

/-! ### Heatmaps -/

/-- `int(category[:4])` -/
def yearOf (category : Text) : ℕ := Decimal.ofDigitList ((category.take 4).filterMap digit?)

/-- `tuple(sorted({int(category[:4]) for category in categories}))` -/
def yearsOf (categories : List Text) : List ℕ := (categories.map yearOf).dedup.mergeSort

/-- `_MONTH_LABELS` -/
def monthLabels : List String :=
  ["Jan", "Feb", "Mar", "Apr", "May", "Jun", "Jul", "Aug", "Sep", "Oct", "Nov", "Dec"]

def heatmapNegative : List ℤ := [185, 28, 28]
def heatmapNeutral : List ℤ := [249, 250, 251]
def heatmapPositive : List ℤ := [4, 120, 87]

/-- `_interpolate_color` -/
def interpolateColor (start stop : List ℤ) (ratio : K) : Text :=
  py "#" ++ (start.zip stop).flatMap (fun item =>
    formats.channel ((item.1 : K) + ((item.2 - item.1 : ℤ) : K) * ratio))

/-- `_heatmap_color` -/
def heatmapColor (value scale : K) : Text :=
  if scale = 0 then interpolateColor formats heatmapNeutral heatmapNeutral 0
  else
    interpolateColor formats heatmapNeutral (if 0 ≤ value then heatmapPositive else heatmapNegative)
      (min (|value| / scale) 1)

/-- The names of the months over the columns. -/
def monthTexts (frame : Frame K) (cellWidth : K) : List Line :=
  monthLabels.zipIdx.map (fun item =>
    ⟨"text", [coord formats "x" (frame.left + ((item.2 : K) + 0.5) * cellWidth),
      coord formats "y" (frame.top - 10), fixed "text-anchor" "middle", fixed "fill" "#4B5563",
      fixed "font-family" "system-ui, sans-serif", fixed "font-size" "10"], some (py item.1)⟩)

/-- A cell, and its value if there is one and it is shown. -/
def cell (x y cellWidth cellHeight scale : K) (showValues : Prop) [Decidable showValues]
    (value : Option K) : List Line :=
  ⟨"rect", [coord formats "x" x, coord formats "y" y, coord formats "width" cellWidth,
    coord formats "height" cellHeight,
    ("fill", match value with | none => py "#F3F4F6" | some value => heatmapColor formats value scale),
    fixed "stroke" "#FFFFFF", fixed "stroke-width" "1"], none⟩ ::
  match value with
  | none => []
  | some value =>
      let intensity := if scale = 0 then 0 else |value| / scale
      if showValues then
        [⟨"text", [coord formats "x" (x + cellWidth / 2),
          coord formats "y" (y + cellHeight / 2 + 3.5),
          fixed "text-anchor" "middle",
          ("fill", if 0.62 < intensity then py "#FFFFFF" else py "#111827"),
          fixed "font-family" "ui-monospace, monospace", fixed "font-size" "9"],
          some (escape (formatNumber formats value spec.yAxis.numberFormat))⟩]
      else []

/-- The rows of the years. -/
def cells (frame : Frame K) (cellWidth cellHeight scale : K) (observations : List (Text × K)) :
    List Line :=
  (yearsOf spec.categories).zipIdx.flatMap (fun item =>
    let y := frame.top + item.2 * cellHeight
    ⟨"text", [coord formats "x" (frame.left - 9), coord formats "y" (y + cellHeight / 2 + 4),
      fixed "text-anchor" "end", fixed "fill" "#4B5563", fixed "font-family" "system-ui, sans-serif",
      fixed "font-size" "11"], some (digitsText (natDigits item.1))⟩ ::
    (List.range 12).flatMap (fun (month : ℕ) =>
      let category := padded 4 item.1 ++ py "-" ++ padded 2 (month + 1)
      cell formats spec (frame.left + month * cellWidth) y cellWidth cellHeight scale
        (42.0 ≤ cellWidth ∧ 24.0 ≤ cellHeight) (observations.reverse.lookup category)))

/-- The label under the columns, the steps of the legend, its numbers, and the label of the values. -/
def heatmapLegend (frame : Frame K) (scale : K) : List Line :=
  let y := frame.bottom + 31
  let width := min 252 (frame.right - frame.left)
  let number (x : K) (anchor : List (String × Text)) (value : K) : Line :=
    ⟨"text", [coord formats "x" x, coord formats "y" (y + 23)] ++ anchor ++ [fixed "fill" "#4B5563",
      fixed "font-family" "ui-monospace, monospace", fixed "font-size" "9"],
      some (escape (formatNumber formats value spec.yAxis.numberFormat))⟩
  ⟨"text", [coord formats "x" ((frame.left + frame.right) / 2),
    coord formats "y" (frame.bottom + 18), fixed "text-anchor" "middle", fixed "fill" "#374151",
    fixed "font-family" "system-ui, sans-serif", fixed "font-size" "11"],
    some (escape spec.xAxis.label)⟩ ::
  ((List.range 9).map (fun (step : ℕ) =>
    ⟨"rect", [coord formats "x" (frame.left + step * width / 9), coord formats "y" y,
      coord formats "width" (width / 9 + 0.2), fixed "height" "9",
      ("fill", heatmapColor formats (scale * (2 * step / 8 - 1)) scale)], none⟩) ++
  [number frame.left [] (-scale), number (frame.left + width / 2) [fixed "text-anchor" "middle"] 0,
    number (frame.left + width) [fixed "text-anchor" "end"] scale,
    ⟨"text", [coord formats "x" (frame.left + width + 12), coord formats "y" (y + 8),
    fixed "fill" "#374151",
      fixed "font-family" "system-ui, sans-serif", fixed "font-size" "10"],
      some (valueLabel spec)⟩])

/-! ### Rendering -/

/-- What `render_svg` raises. -/
inductive Raised where
  | insufficientSpace
  | zeroDivisionError
  deriving DecidableEq, Repr

/-- The lines of a heatmap. -/
def heatmapLines (frame : Frame K) : List Line :=
  let values := (spec.series.map ChartSeries.values).headD []
  let cellWidth := (frame.right - frame.left) / 12
  let cellHeight := (frame.bottom - frame.top) / ((yearsOf spec.categories).length : K)
  let scale := (extremes (values.map (|·|))).2
  header formats spec frame.left ++ monthTexts formats frame cellWidth ++
    cells formats spec frame cellWidth cellHeight scale (spec.categories.zip values) ++
    heatmapLegend formats spec frame scale ++ footer formats frame.left (frame.bottom + 72)
      (footerLines spec)

/-- `_render_heatmap_svg` -/
def renderHeatmapSvg : Except Raised Text := do
  let frame := frameOf spec 62 96
  Except.raiseIf (frame.bottom - frame.top < 120) .insufficientSpace
  Except.raiseIf (yearsOf spec.categories = []) .zeroDivisionError
  return document spec (heatmapLines formats spec frame)

/-- The lines of a line or bar chart. -/
def chartLines (dates : Dates) (frame : Frame K) : List Line :=
  let (low, high) := domain spec
  header formats spec frame.left ++ ticks formats spec frame low high ++
    axes formats frame low high ++ marks formats spec frame low high ++
    categoryTexts formats spec dates frame ++ axisTexts formats spec frame ++
    legend formats frame.left 0 (spec.series.map ChartSeries.label) ++
    footer formats frame.left (frame.bottom + 57) (footerLines spec)

/-- `render_svg` -/
def renderSvg (dates : Dates) : Except Raised Text :=
  if spec.kind = .heatmap then renderHeatmapSvg formats spec
  else do
    let frame := frameOf spec 58 64
    Except.raiseIf (frame.bottom - frame.top < 120) .insufficientSpace
    -- every vertical position is a quotient by the height of the domain
    Except.raiseIf ((domain spec).2 - (domain spec).1 = 0) .zeroDivisionError
    return document spec (chartLines formats spec dates frame)

/-! ### When there is room -/

/-- The notes leave 120 pixels for the plot. -/
def HasRoom {K : Type} (spec : VisualizationSpec K) : Prop :=
  15 * ((footerLines spec).length : ℤ) + (if spec.kind = .heatmap then 278 else 242) ≤ spec.height

instance {K : Type} (spec : VisualizationSpec K) : Decidable (HasRoom spec) :=
  inferInstanceAs (Decidable (_ ≤ _))

/-- The lines of a chart. -/
def linesOf (dates : Dates) : List Line :=
  if spec.kind = .heatmap then heatmapLines formats spec (frameOf spec 62 96)
  else chartLines formats spec dates (frameOf spec 58 64)

variable [IsStrictOrderedRing K]

theorem height_frameOf (top below : ℤ) :
    (frameOf spec (top : K) (below : K)).bottom - (frameOf spec (top : K) (below : K)).top < 120 ↔
      spec.height < 15 * ((footerLines spec).length : ℤ) + (top + below + 120) := by
  have hCast : (frameOf spec (top : K) (below : K)).bottom -
    (frameOf spec (top : K) (below : K)).top =
      ((spec.height - below - (footerLines spec).length * 15 - top : ℤ) : K) := by
    push_cast
    rfl
  rw [hCast, show (120 : K) = ((120 : ℤ) : K) by norm_num, Int.cast_lt]
  omega

omit [Field K] [IsStrictOrderedRing K] in
theorem foldl_min_le (values : List K) (first : K) : values.foldl min first ≤ first := by
  induction values generalizing first with
  | nil => exact le_rfl
  | cons value values ih => exact (ih _).trans (min_le_left _ _)

omit [Field K] [IsStrictOrderedRing K] in
theorem le_foldl_max (values : List K) (first : K) : first ≤ values.foldl max first := by
  induction values generalizing first with
  | nil => exact le_rfl
  | cons value values ih => exact (le_max_left _ _).trans (ih _)

/-- The domain of the values is no single number, so no position is divided by zero. -/
theorem domain_lt : (domain spec).1 < (domain spec).2 := by
  have hOrder : (extremes (spec.series.flatMap ChartSeries.values)).1 ≤
      (extremes (spec.series.flatMap ChartSeries.values)).2 :=
        (foldl_min_le _ _).trans (le_foldl_max _ _)
  have hPadded : ∀ low high : K, low ≤ high →
      (if low = high then (low - max (|low| * 0.1) 1e-9, high + max (|low| * 0.1) 1e-9)
        else (low - (high - low) * 0.08, high + (high - low) * 0.08) : K × K).1 <
      (if low = high then (low - max (|low| * 0.1) 1e-9, high + max (|low| * 0.1) 1e-9)
        else (low - (high - low) * 0.08, high + (high - low) * 0.08) : K × K).2 := by
    intro low high hLe
    split_ifs with hSame
    · have hPos : (0 : K) < max (|low| * 0.1) 1e-9 := lt_max_of_lt_right (by norm_num)
      show low - _ < high + _
      linarith
    · have hLess : 0 < high - low := sub_pos.2 (lt_of_le_of_ne hLe hSame)
      have hPos : 0 < (high - low) * 0.08 := mul_pos hLess (by norm_num)
      show low - _ < high + _
      linarith
  unfold domain
  by_cases hBar : spec.kind = .bar
  · simp only [if_pos hBar]
    exact hPadded _ _ ((min_le_right _ _).trans (le_max_right _ _))
  · simp only [if_neg hBar]
    exact hPadded _ _ hOrder

variable {formats spec} {dates : Dates}

theorem yearsOf_ne_nil {categories : List Text} (h : categories ≠ []) :
    yearsOf categories ≠ [] := by
  intro hNil
  have hLength : ((categories.map yearOf).dedup.mergeSort).length = 0 := congrArg List.length hNil
  rw [List.length_mergeSort, List.length_eq_zero_iff, List.dedup_eq_nil, List.map_eq_nil_iff]
    at hLength
  exact h hLength

/-- A chart with room is rendered. -/
theorem renderSvg_of_hasRoom {isFinite : K → Bool} (hValid : spec.Valid isFinite)
    (hRoom : HasRoom spec) :
    renderSvg formats spec dates = .ok (document spec (linesOf formats spec dates)) := by
  unfold HasRoom at hRoom
  unfold renderSvg linesOf
  by_cases hKind : spec.kind = .heatmap
  · rw [if_pos hKind] at hRoom
    rw [if_pos hKind, if_pos hKind]
    have hHeight := height_frameOf (K := K) spec 62 96
    have hFits : ¬ (frameOf spec (62 : K) 96).bottom - (frameOf spec (62 : K) 96).top < 120 := by
      intro hSmall
      have hLow := hHeight.1 (by exact_mod_cast hSmall)
      omega
    exact Except.bind_eq_ok.2 ⟨(), Except.raiseIf_eq_ok.2 hFits,
      Except.bind_eq_ok.2 ⟨(), Except.raiseIf_eq_ok.2 (yearsOf_ne_nil hValid.categories), rfl⟩⟩
  · rw [if_neg hKind] at hRoom
    rw [if_neg hKind, if_neg hKind]
    have hHeight := height_frameOf (K := K) spec 58 64
    have hFits : ¬ (frameOf spec (58 : K) 64).bottom - (frameOf spec (58 : K) 64).top < 120 := by
      intro hSmall
      have hLow := hHeight.1 (by exact_mod_cast hSmall)
      omega
    exact Except.bind_eq_ok.2 ⟨(), Except.raiseIf_eq_ok.2 hFits,
      Except.bind_eq_ok.2 ⟨(), Except.raiseIf_eq_ok.2 (sub_pos.2 (domain_lt spec)).ne', rfl⟩⟩

/-- A chart without room is refused. -/
theorem renderSvg_of_not_hasRoom (hRoom : ¬ HasRoom spec) :
    renderSvg formats spec dates = .error .insufficientSpace := by
  unfold HasRoom at hRoom
  unfold renderSvg renderHeatmapSvg
  by_cases hKind : spec.kind = .heatmap
  · rw [if_pos hKind] at hRoom
    rw [if_pos hKind]
    have hSmall : (frameOf spec (62 : K) 96).bottom - (frameOf spec (62 : K) 96).top < 120 := by
      have hHeight := (height_frameOf (K := K) spec 62 96).2 (by omega)
      exact_mod_cast hHeight
    simp only [Except.raiseIf, if_pos hSmall]
    rfl
  · rw [if_neg hKind] at hRoom
    rw [if_neg hKind]
    have hSmall : (frameOf spec (58 : K) 64).bottom - (frameOf spec (58 : K) 64).top < 120 := by
      have hHeight := (height_frameOf (K := K) spec 58 64).2 (by omega)
      exact_mod_cast hHeight
    simp only [Except.raiseIf, if_pos hSmall]
    rfl

end geometry

/-! ## Rational numbers as text -/

/-- `round(x)`: halves go to the even neighbour. -/
def roundHalfEven (x : ℚ) : ℤ :=
  let low := ⌊x⌋
  if x - low < 1 / 2 then low else if 1 / 2 < x - low then low + 1 else if low % 2 = 0 then low
    else low + 1

/-- A sign where a number is negative. -/
def sign (x : ℚ) : Text := if x < 0 then py "-" else []

/-- `format(x, ".2f")` -/
def hundredths (x : ℚ) : Text :=
  let n := (roundHalfEven (|x| * 100)).toNat
  sign x ++ digitsText (natDigits (n / 100)) ++ py "." ++ padded 2 (n % 100)

/-- `format(x, ".0f")` -/
def units (x : ℚ) : Text := sign x ++ digitsText (natDigits (roundHalfEven |x|).toNat)

/-- `format(n, "02X")` of a channel -/
def channelText (x : ℚ) : Text :=
  let n := (roundHalfEven x).toNat % 256
  [n / 16, n % 16].map (fun d =>
    if d < 10 then Json.digitChar d else CodePoint.ofChar (Char.ofNat (0x41 + (d % 16 - 10))))

theorem isPlain_digitsText (ds : List ℕ) : ∀ c ∈ digitsText ds, isPlain c = true := by
  intro c hc
  obtain ⟨d, -, rfl⟩ := List.mem_map.1 hc
  have hAll : ∀ d ∈ List.range 10, isPlain (Json.digitChar d) = true := by decide
  have hMod : Json.digitChar d = Json.digitChar (d % 10) := by simp [Json.digitChar]
  rw [hMod]
  exact hAll _ (List.mem_range.2 (Nat.mod_lt _ (by decide)))

theorem isPlain_append {t u : Text} (ht : ∀ c ∈ t, isPlain c = true)
    (hu : ∀ c ∈ u, isPlain c = true) :
    ∀ c ∈ t ++ u, isPlain c = true := List.forall_mem_append.2 ⟨ht, hu⟩

/-- Fixed texts of a chart. -/
theorem isPlain_py {s : String} (h : (py s).all isPlain = true) : ∀ c ∈ py s, isPlain c = true :=
  List.all_eq_true.1 h

theorem isPlain_sign (x : ℚ) : ∀ c ∈ sign x, isPlain c = true := by
  unfold sign
  split_ifs
  · exact isPlain_py (by decide)
  · exact nofun

theorem isPlain_units (x : ℚ) : ∀ c ∈ units x, isPlain c = true :=
  isPlain_append (isPlain_sign x) (isPlain_digitsText _)

theorem isPlain_hundredths (x : ℚ) : ∀ c ∈ hundredths x, isPlain c = true :=
  isPlain_append (isPlain_append (isPlain_append (isPlain_sign x) (isPlain_digitsText _))
    (isPlain_py (by decide)))
    (isPlain_digitsText _)

/-- The formats of rational numbers, where whole numbers have no more than the digits that are asked
for. -/
def rationalFormats : Formats ℚ where
  isFinite _ := true
  coordinate := hundredths
  whole := units
  general _ x := if x.den = 1 then units x else hundredths x
  hundredfold x := hundredths (x * 100)
  channel := channelText
  coordinate_plain := isPlain_hundredths
  whole_plain := isPlain_units
  general_plain _ x := by
    split_ifs
    · exact isPlain_units x
    · exact isPlain_hundredths x
  hundredfold_plain x := isPlain_hundredths _
  channel_plain x := by
    intro c hc
    obtain ⟨d, hd, rfl⟩ := List.mem_map.1 hc
    have hLess : d < 16 := by
      simp only [List.mem_cons, List.not_mem_nil, or_false] at hd
      omega
    have hAll : ∀ d ∈ List.range 16, isPlain (if d < 10 then Json.digitChar d
        else CodePoint.ofChar (Char.ofNat (0x41 + (d % 16 - 10)))) = true := by decide
    exact hAll d (List.mem_range.2 hLess)

end Charts
