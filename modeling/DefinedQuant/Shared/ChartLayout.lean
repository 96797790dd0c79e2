import DefinedQuant.Shared.ChartLines
import DefinedQuant.Shared.HeatmapGrid

/-!
# The layout of a chart

Elements and attributes depend on the layout of a chart alone. So all charts of a layout have the
same markup, whatever their texts are, and the texts are found again in the document.
-/

namespace Charts

open Xml
open Visualization
open FixedDigits (padded)

/-! ## Layout -/

/-- The charts differ at most in their texts, the texts of a legend being equally long, and need
equally many lines for their notes. -/
structure SameLayout {K : Type} (spec other : VisualizationSpec K) : Prop where
  id : spec.id = other.id
  kind : spec.kind = other.kind
  width : spec.width = other.width
  height : spec.height = other.height
  values : spec.series.map ChartSeries.values = other.series.map ChartSeries.values
  labels : spec.series.map (fun series => series.label.length) = other.series.map (fun series =>
    series.label.length)
  count : spec.categories.length = other.categories.length
  -- the categories of a heatmap are months, by which its cells are placed
  months : spec.kind = .heatmap → spec.categories = other.categories
  notes : (footerLines spec).length = (footerLines other).length

section

variable {K : Type} {spec other : VisualizationSpec K}

/-- Specifications of one layout have the same room. -/
theorem SameLayout.hasRoom (h : SameLayout spec other) (hRoom : HasRoom spec) : HasRoom other := by
  unfold HasRoom at hRoom ⊢
  rw [← h.notes, ← h.kind, ← h.height]
  exact hRoom

/-- The lines of the root are the same. -/
theorem SameLayout.rootTexts_eq (h : SameLayout spec other) : rootTexts spec = rootTexts other := by
  simp only [rootTexts, rootAttributes, h.id, h.width, h.height]

variable (formats : Formats K)

/-- The header has the same tags. -/
theorem SameLayout.tags_header (h : SameLayout spec other) (left : K) :
    tags (header formats spec left) = tags (header formats other left) := by
  simp only [tags, header, List.map_cons, Line.tag, Line.attributeTexts, h.id, h.width, h.height]

variable [Field K]

/-- The frame is the same. -/
theorem SameLayout.frameOf_eq (h : SameLayout spec other) (top below : K) :
    frameOf spec top below = frameOf other top below := by
  simp only [frameOf, h.width, h.height, h.notes]

/-- The footer has a tag for each of its lines, whatever they say. -/
theorem tags_footer (left y : K) (lines others : List Text) (h : lines.length = others.length) :
    tags (footer formats left y lines) = tags (footer formats left y others) := by
  induction lines generalizing others y with
  | nil =>
      obtain rfl := List.length_eq_zero_iff.1 h.symm
      rfl
  | cons line lines ih =>
      cases others with
      | nil => cases h
      | cons other others =>
          have hRest := ih (y + 15) others (Nat.succ.inj h)
          unfold tags at hRest ⊢
          rw [footer, footer, List.map_cons, List.map_cons, hRest]
          rfl

variable (spec other) in
/-- The ticks have the same tags. -/
theorem tags_ticks (frame : Frame K) (low high : K) :
    tags (ticks formats spec frame low high) = tags (ticks formats other frame low high) :=
  tags_flatMap _ (fun _ => rfl)

/-- A list that is mapped keeps its length. -/
theorem length_of_mapM {α β : Type} {f : α → Option β} {items : List α} {values : List β}
    (h : items.mapM f = some values) : values.length = items.length := by
  induction items generalizing values with
  | nil =>
      cases h
      rfl
  | cons item items ih =>
      rw [List.mapM_cons] at h
      obtain ⟨value, -, hRest⟩ := Option.bind_eq_some_iff.1 h
      obtain ⟨rest, hItems, hValues⟩ := Option.bind_eq_some_iff.1 hRest
      cases hValues
      rw [List.length_cons, List.length_cons, ih hItems]

/-- There is one label for each index that is labelled. -/
theorem length_categoryLabels (dates : Dates) (categories : List Text) (indexes : List ℕ) :
    (categoryLabels dates categories indexes).length = indexes.length := by
  unfold categoryLabels
  dsimp only
  split
  · rw [List.length_map, List.length_map]
  · next parsed hParsed =>
    have hLength : parsed.length = indexes.length :=
      (length_of_mapM hParsed).trans (List.length_map _)
    split_ifs
    · rw [List.length_map, hLength]
    · rw [List.length_map, hLength]

/-- The labels of the categories have the same tags. -/
theorem SameLayout.tags_categoryTexts (h : SameLayout spec other) (dates : Dates)
    (frame : Frame K) :
    tags (categoryTexts formats spec dates frame) =
      tags (categoryTexts formats other dates frame) := by
  -- a line depends on the position of its label alone, up to its text
  have hPositions (indexes : List ℕ) (categories : List Text) (line : ℕ × Text → Line)
      (hLine : ∀ item, (line item).tag = (line (item.1, [])).tag) :
      (indexes.zip (categoryLabels dates categories indexes)).map (Line.tag ∘ line) =
        indexes.map (fun index => (line (index, [])).tag) := by
    have hFirst := List.map_fst_zip (length_categoryLabels dates categories indexes).ge
    have hBoth : Line.tag ∘ line = (fun index => (line (index, [])).tag) ∘ Prod.fst := funext hLine
    rw [hBoth, ← List.map_map, hFirst]
  unfold tags categoryTexts
  rw [List.map_map, List.map_map, ← h.count]
  rw [hPositions _ spec.categories _ (fun _ => rfl), hPositions _ other.categories _ (fun _ => rfl)]

variable (spec other) in
/-- The titles of the axes have the same tags. -/
theorem tags_axisTexts (frame : Frame K) :
    tags (axisTexts formats spec frame) = tags (axisTexts formats other frame) := rfl

variable [LinearOrder K]

/-- The domain of the values is the same. -/
theorem SameLayout.domain_eq (h : SameLayout spec other) : domain spec = domain other := by
  have hFlat : spec.series.flatMap ChartSeries.values = other.series.flatMap ChartSeries.values :=
    by
    rw [List.flatMap_def, List.flatMap_def, h.values]
  simp only [domain, h.kind, hFlat]

/-- The marks are the same. -/
theorem SameLayout.marks_eq (h : SameLayout spec other) (frame : Frame K) (low high : K) :
    marks formats spec frame low high = marks formats other frame low high := by
  have hLength : spec.series.length = other.series.length := by
    have hLengths := congrArg List.length h.values
    rwa [List.length_map, List.length_map] at hLengths
  simp only [marks, h.kind, h.values, h.count, hLength]

/-- The legend depends on the lengths of its labels only. -/
theorem tags_legend (labels others : List Text)
    (h : labels.map List.length = others.map List.length) (x : K)
    (index : ℕ) : tags (legend formats x index labels) = tags (legend formats x index others) := by
  induction labels generalizing others x index with
  | nil =>
      obtain rfl := List.map_eq_nil_iff.1 h.symm
      rfl
  | cons label labels ih =>
      cases others with
      | nil => cases h
      | cons other others =>
          obtain ⟨hFirst, hOthers⟩ := List.cons.inj h
          have hRest := fun x => ih others hOthers x (index + 1)
          unfold tags at hRest ⊢
          rw [legend, legend]
          simp only [List.map_cons, hRest, hFirst]
          rfl

variable (spec other) in
/-- A cell has the same tags. -/
theorem tags_cell (x y cellWidth cellHeight scale : K) (showValues : Prop) [Decidable showValues]
    (value : Option K) :
    tags (cell formats spec x y cellWidth cellHeight scale showValues value) =
      tags (cell formats other x y cellWidth cellHeight scale showValues value) := by
  cases value with
  | none => rfl
  | some value =>
      simp only [cell]
      by_cases hShow : showValues
      · simp only [if_pos hShow]
        rfl
      · simp only [if_neg hShow]

/-- All cells of the same categories have the same tags. -/
theorem tags_cells (frame : Frame K) (cellWidth cellHeight scale : K)
    (observations : List (Text × K)) (h : spec.categories = other.categories) :
    tags (cells formats spec frame cellWidth cellHeight scale observations) =
      tags (cells formats other frame cellWidth cellHeight scale observations) := by
  unfold cells
  rw [h]
  refine tags_flatMap _ (fun item => ?_)
  have hCells := tags_flatMap (List.range 12) (fun month : ℕ => tags_cell spec other formats
    (frame.left + month * cellWidth) (frame.top + item.2 * cellHeight) cellWidth cellHeight scale
    (42.0 ≤ cellWidth ∧ 24.0 ≤ cellHeight)
    (observations.reverse.lookup (padded 4 item.1 ++ py "-" ++ padded 2 (month + 1))))
  exact congrArg (List.cons _) hCells

variable (spec other) in
/-- The legend of the heat map has the same tags. -/
theorem tags_heatmapLegend (frame : Frame K) (scale : K) :
    tags (heatmapLegend formats spec frame scale) =
      tags (heatmapLegend formats other frame scale) := by
  simp only [tags, heatmapLegend, List.map_cons, List.map_append]
  rfl

/-- Charts of one layout have the same elements with the same attributes. -/
theorem SameLayout.tags_linesOf (h : SameLayout spec other) (dates : Dates) :
    tags (linesOf formats spec dates) = tags (linesOf formats other dates) := by
  unfold linesOf
  rw [← h.kind, h.frameOf_eq, h.frameOf_eq]
  split_ifs with hKind
  · have hValues : (spec.series.map ChartSeries.values).headD [] =
      (other.series.map ChartSeries.values).headD [] := by
      rw [h.values]
    simp only [heatmapLines, tags_append, hValues, ← h.months hKind, h.tags_header,
      tags_cells formats _ _ _ _ _ (h.months hKind), tags_footer formats _ _ _ _ h.notes]
    rw [tags_heatmapLegend spec other]
  · have hLabels : (spec.series.map ChartSeries.label).map List.length =
        (other.series.map ChartSeries.label).map List.length := by
      rw [List.map_map, List.map_map]
      exact h.labels
    simp only [chartLines, tags_append, h.domain_eq, h.tags_header, h.marks_eq,
      h.tags_categoryTexts, tags_legend formats _ _ hLabels, tags_footer formats _ _ _ _ h.notes]
    rw [tags_ticks spec other, tags_axisTexts spec other]

/-! ## Charts read back -/

/-- A text that passes a lower bound of one is not empty. -/
theorem length_pos_of_charsWithin {high : ℕ} {t : Text} (h : Protocol.charsWithin 1 high t = true) :
    0 < t.length := by
  simp only [Protocol.charsWithin, Bool.and_eq_true, decide_eq_true_eq] at h
  exact h.1.2

/-- The document of a chart is read as an element whose title and description hold the texts of the
caller, and whose markup is that of its lines. -/
theorem exists_readDocument {isFinite : K → Bool} (hValid : spec.Valid isFinite)
    (h : AllowedTexts spec) (dates : Dates) :
    ∃ node, readDocument (document spec (linesOf formats spec dates)) = some node ∧
      node.contents (py "title") = [[.text (lineEnds false spec.title)]] ∧
      node.contents (py "desc") = [[.text (lineEnds false (description spec))]] ∧
      node.markup = [.element (py "svg") (rootTexts spec) (tags (linesOf formats spec dates))] := by
  have hDrawn := drawn_drawing formats spec h dates
  obtain ⟨nodes, hNodes⟩ := exists_forall₂_readsAs hDrawn
  have hTitle : IsTag (py "title") [(py "id", spec.id ++ py "_title")] :=
    isTag_heading (by decide) (by decide) hValid.id.2
  have hDescription : IsTag (py "desc") [(py "id", spec.id ++ py "_description")] :=
    isTag_heading (by decide) (by decide) hValid.id.2
  -- Title and description come first, and then the drawing, each line a node.
  have hLines : List.Forall₂ Line.ReadsAs (headings spec ++ drawing formats spec dates)
      (.element (py "title") [(py "id", spec.id ++ py "_title")] (textNodes spec.title) ::
        .element (py "desc") [(py "id", spec.id ++ py "_description")]
          (textNodes (description spec)) :: nodes) :=
    .cons (.content hTitle rfl h.title) (.cons (.content hDescription rfl (allowed_description h))
      hNodes)
  -- No drawn element has one of their names.
  have hOther (name : String) (hName : ∀ drawn ∈ drawnNames, py drawn ≠ py name) :
    contentsOf (py name) nodes = [] :=
    contentsOf_lines hNodes (fun line hLine => hName _ (hDrawn line hLine).name_mem)
  have hFirst : textNodes spec.title = [.text (lineEnds false spec.title)] :=
    if_neg (List.ne_nil_of_length_pos (length_pos_of_charsWithin hValid.title))
  have hSecond : textNodes (description spec) = [.text (lineEnds false (description spec))] := by
    have hAltText := length_pos_of_charsWithin hValid.altText
    have hDescription : description spec =
        spec.altText ++ (spec.assumptions ++ spec.warnings).flatMap (fun note => py " " ++ note) :=
          by
      rw [description, List.cons_append, intercalate_cons_eq]
    refine if_neg (List.ne_nil_of_length_pos ?_)
    rw [hDescription, List.length_append]
    omega
  rw [linesOf_eq]
  refine ⟨_, readDocument_document hValid.id.2 hLines, ?_, ?_, ?_⟩
  · rw [contents_document, contentsOf_element, if_pos rfl, contentsOf_element, if_neg (by decide),
      hOther "title" (by decide), hFirst]
  · rw [contents_document, contentsOf_element, if_neg (by decide), contentsOf_element, if_pos rfl,
      hOther "desc" (by decide), hSecond]
  · exact markup_document hLines

end

/-! ## Rendered charts -/

section

variable {K : Type} [Field K] [LinearOrder K] [IsStrictOrderedRing K] {spec : VisualizationSpec K}

/-- A valid chart with room for its plot is rendered as a document whose title and description are
the texts of the caller, and which has the same elements and attributes as every chart of its
layout. One without room is refused. -/
theorem documents_read_back (formats : Formats K)
    {isFinite : K → Bool} (hValid : spec.Valid isFinite)
    (hTexts : AllowedTexts spec) (dates : Dates) :
    if HasRoom spec then
      ∃ svg node, renderSvg formats spec dates = .ok svg ∧ readDocument svg = some node ∧
        node.contents (py "title") = [[.text (lineEnds false spec.title)]] ∧
        node.contents (py "desc") = [[.text (lineEnds false (description spec))]] ∧
        ∀ other : VisualizationSpec K, other.Valid isFinite → AllowedTexts other →
          SameLayout spec other →
          ∃ svg' node', renderSvg formats other dates = .ok svg' ∧ readDocument svg' = some node' ∧
            node'.markup = node.markup
    else renderSvg formats spec dates = .error .insufficientSpace := by
  split_ifs with hRoom
  · obtain ⟨node, hRead, hTitle, hDescription, hMarkup⟩ :=
      exists_readDocument formats hValid hTexts dates
    refine ⟨_, node, renderSvg_of_hasRoom hValid hRoom, hRead, hTitle, hDescription, ?_⟩
    intro other hOther hOtherTexts hLayout
    obtain ⟨node', hRead', -, -, hMarkup'⟩ := exists_readDocument formats hOther hOtherTexts dates
    refine ⟨_, node', renderSvg_of_hasRoom hOther (hLayout.hasRoom hRoom), hRead', ?_⟩
    rw [hMarkup', hMarkup, hLayout.rootTexts_eq, hLayout.tags_linesOf]
  · exact renderSvg_of_not_hasRoom hRoom

end

/-- A chart with markup in all its texts. -/
def markupChart : VisualizationSpec ℚ where
  id := py "chart"
  kind := .line
  title := py "<script>&\"</script>"
  altText := py "a < b"
  categories := [py "<b>", py "]]>"]
  series := [⟨py "first", py "</text>", [0, 100]⟩]
  xAxis := { label := py "x & y" }
  yAxis := { label := py "<y/>" }
  assumptions := [py "<!-- none -->"]

/-- The sample chart with markup characters is valid. -/
theorem valid_markupChart : markupChart.Valid rationalFormats.isFinite where
  id := by decide
  title := by decide
  altText := by decide
  xLabel := by decide
  yLabel := by decide
  caption := by decide
  categories := List.cons_ne_nil _ _
  eachCategory := List.forall_mem_cons.2 ⟨by decide, List.forall_mem_singleton.2 (by decide)⟩
  series := by decide
  eachSeries := List.forall_mem_singleton.2 ⟨by decide, by decide, List.cons_ne_nil _ _,
    fun _ _ => rfl⟩
  aligned := List.forall_mem_singleton.2 rfl
  keys := List.nodup_singleton _
  assumptions := ⟨by decide, List.forall_mem_singleton.2 (by decide)⟩
  warnings := ⟨by decide, nofun⟩
  width := by decide
  height := by decide
  version := Nat.zero_le _
  kind := ⟨nofun, fun _ => rfl⟩

/-- A literal of allowed characters is allowed. -/
theorem allowed_of_all {s : String} (h : (py s).all isChar = true) : Allowed (py s) :=
  List.all_eq_true.1 h

/-- All of its texts are allowed. -/
theorem allowedTexts_markupChart : AllowedTexts markupChart where
  title := allowed_of_all (by decide)
  altText := allowed_of_all (by decide)
  xLabel := allowed_of_all (by decide)
  yLabel := allowed_of_all (by decide)
  caption := nofun
  assumptions := List.forall_mem_singleton.2 (allowed_of_all (by decide))
  warnings := nofun
  categories := List.forall_mem_cons.2
    ⟨allowed_of_all (by decide), List.forall_mem_singleton.2 (allowed_of_all (by decide))⟩
  labels := List.forall_mem_singleton.2 (allowed_of_all (by decide))

/-- It has room for its texts. -/
theorem hasRoom_markupChart : HasRoom markupChart := by decide

/-- A chart of the same layout, with letters in all its texts. -/
def plainChart : VisualizationSpec ℚ :=
  { markupChart with
    title := py "Prices of an asset"
    altText := py "rising"
    categories := [py "start", py "end"]
    series := [⟨py "first", py "closing", [0, 100]⟩]
    xAxis := { label := py "time" }
    yAxis := { label := py "price" }
    assumptions := [py "none at all"] }

/-- The sample chart with plain letters is valid. -/
theorem valid_plainChart : plainChart.Valid rationalFormats.isFinite :=
  { valid_markupChart with
    title := by decide
    altText := by decide
    xLabel := by decide
    yLabel := by decide
    categories := List.cons_ne_nil _ _
    eachCategory := List.forall_mem_cons.2 ⟨by decide, List.forall_mem_singleton.2 (by decide)⟩
    series := by decide
    eachSeries := List.forall_mem_singleton.2 ⟨by decide, by decide, List.cons_ne_nil _ _,
      fun _ _ => rfl⟩
    aligned := List.forall_mem_singleton.2 rfl
    keys := List.nodup_singleton _
    assumptions := ⟨by decide, List.forall_mem_singleton.2 (by decide)⟩
    kind := ⟨nofun, fun _ => rfl⟩ }

/-- All of its texts are allowed. -/
theorem allowedTexts_plainChart : AllowedTexts plainChart where
  title := allowed_of_all (by decide)
  altText := allowed_of_all (by decide)
  xLabel := allowed_of_all (by decide)
  yLabel := allowed_of_all (by decide)
  caption := nofun
  assumptions := List.forall_mem_singleton.2 (allowed_of_all (by decide))
  warnings := nofun
  categories := List.forall_mem_cons.2
    ⟨allowed_of_all (by decide), List.forall_mem_singleton.2 (allowed_of_all (by decide))⟩
  labels := List.forall_mem_singleton.2 (allowed_of_all (by decide))

/-- The two sample charts have one layout. -/
theorem sameLayout_plainChart : SameLayout markupChart plainChart where
  id := rfl
  kind := rfl
  width := rfl
  height := rfl
  values := rfl
  labels := by decide
  count := rfl
  months := nofun
  notes := by decide

/-- The chart with markup in its texts has the elements and attributes of the plain one, and its
texts are read back. -/
theorem documents_read_back_markup :
    ∃ svg node plainSvg plainNode,
      renderSvg rationalFormats markupChart noDates = .ok svg ∧ readDocument svg = some node ∧
      renderSvg rationalFormats plainChart noDates = .ok plainSvg ∧
        readDocument plainSvg = some plainNode ∧
      node.contents (py "title") = [[.text (lineEnds false markupChart.title)]] ∧
      node.contents (py "desc") = [[.text (lineEnds false (description markupChart))]] ∧
      plainNode.markup = node.markup := by
  have hRead := documents_read_back rationalFormats valid_markupChart allowedTexts_markupChart
    noDates
  rw [if_pos hasRoom_markupChart] at hRead
  obtain ⟨svg, node, hSvg, hNode, hTitle, hDescription, hLayout⟩ := hRead
  obtain ⟨plainSvg, plainNode, hPlain, hPlainNode, hMarkup⟩ :=
    hLayout plainChart valid_plainChart allowedTexts_plainChart sameLayout_plainChart
  exact ⟨svg, node, plainSvg, plainNode, hSvg, hNode, hPlain, hPlainNode, hTitle, hDescription,
    hMarkup⟩

/-- Three notes leave the lowest chart no room, and a control character in a title leaves a document
that is not well formed. -/
theorem charts_without_documents :
    (VisualizationSpec.Valid rationalFormats.isFinite { annotatedHeatmap with height := 320 } ∧
      renderSvg rationalFormats { annotatedHeatmap with height := 320 } noDates =
        .error .insufficientSpace) ∧
    VisualizationSpec.Valid rationalFormats.isFinite { markupChart with title := [0x1] } ∧
      ∃ svg, renderSvg rationalFormats { markupChart with title := [0x1] } noDates = .ok svg ∧
        readDocument svg = none := by
  have hControl : VisualizationSpec.Valid rationalFormats.isFinite { markupChart with title :=
    [0x1] } :=
    { valid_markupChart with
      title := by decide
      kind := ⟨nofun, fun _ => rfl⟩ }
  refine ⟨⟨valid_low_annotatedHeatmap, renderSvg_of_not_hasRoom not_hasRoom_low_annotatedHeatmap⟩,
    hControl, _, renderSvg_of_hasRoom hControl hasRoom_markupChart, ?_⟩
  rw [linesOf_eq]
  refine readDocument_eq_none hControl.id.2 ?_ _
  intro hAllowed
  exact absurd (hAllowed 0x1 List.mem_cons_self) (by decide)

end Charts
