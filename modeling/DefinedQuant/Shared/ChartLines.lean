import DefinedQuant.Shared.ChartDocuments
import Mathlib.Data.List.SplitBy

/-!
# The lines of a chart

What a chart writes into its tags are names, numbers and colours; the texts of the caller stand
between tags and are escaped. Every line behind the title and the description is therefore an
element that is read as it is written, if the texts consist of characters that XML allows.
-/

namespace Charts

open Xml
open Visualization
open Json (digitsText)
open FixedDigits (padded)
open Calendar (Moment)

/-! ## The characters of the texts -/

/-- Plain characters are neither controls nor surrogates. -/
theorem allowed_of_isPlain {t : Text} (h : ∀ c ∈ t, isPlain c = true) : Allowed t :=
  fun c hc => isChar_of_isPlain (h c hc)

/-- A literal of plain characters may stand in a document. -/
theorem allowed_py {s : String} (h : (py s).all isPlain = true) : Allowed (py s) :=
  allowed_of_isPlain (isPlain_py h)

/-- Joined texts are allowed where each of them is. -/
theorem allowed_flatten {ts : List Text} (h : ∀ t ∈ ts, Allowed t) : Allowed ts.flatten := by
  intro c hc
  obtain ⟨t, ht, hMem⟩ := List.mem_flatten.1 hc
  exact h t ht c hMem

/-- A separator between allowed texts keeps the whole allowed. -/
theorem allowed_intercalate {separator : Text} (hSeparator : Allowed separator) {ts : List Text}
    (h : ∀ t ∈ ts, Allowed t) : Allowed (List.intercalate separator ts) := by
  cases ts with
  | nil => exact nofun
  | cons t ts =>
      obtain ⟨hFirst, hRest⟩ := List.forall_mem_cons.1 h
      rw [intercalate_cons_eq]
      refine hFirst.append ?_
      intro c hc
      obtain ⟨u, hu, hMem⟩ := List.mem_flatMap.1 hc
      exact hSeparator.append (hRest u hu) c hMem

/-- A tab becomes blanks, and nothing else changes. -/
theorem allowed_expandTabs {t : Text} (h : Allowed t) (column : ℕ) :
    Allowed (expandTabs column t) := by
  induction t generalizing column with
  | nil => exact nofun
  | cons c t ih =>
      obtain ⟨hFirst, hRest⟩ := List.forall_mem_cons.1 h
      rw [expandTabs]
      split_ifs
      · refine Allowed.append (fun d hd => ?_) (ih hRest _)
        rw [List.eq_of_mem_replicate hd]
        decide
      · exact List.forall_mem_cons.2 ⟨hFirst, ih hRest _⟩
      · exact List.forall_mem_cons.2 ⟨hFirst, ih hRest _⟩

/-- The whitespace that `textwrap` unifies becomes blanks. -/
theorem allowed_mungeWhitespace {t : Text} (h : Allowed t) : Allowed (mungeWhitespace t) := by
  intro c hc
  obtain ⟨d, hd, rfl⟩ := List.mem_map.1 hc
  split_ifs
  · decide
  · exact allowed_expandTabs h 0 d hd

/-- A line takes its chunks from the front and leaves the others in order. -/
theorem fillLine_append (width taken : ℕ) (chunks : List Text) :
    (fillLine width taken chunks).1 ++ (fillLine width taken chunks).2 = chunks := by
  induction chunks generalizing taken with
  | nil => rfl
  | cons chunk chunks ih =>
      rw [fillLine]
      split_ifs
      · exact congrArg _ (ih _)
      · rfl

/-- A chunk that is too long for any line moves from the rest to the line. -/
theorem placeLongWord_append (width : ℕ) (filled : List Text × List Text) :
    (placeLongWord width filled).1 ++ (placeLongWord width filled).2 = filled.1 ++ filled.2 := by
  rcases filled with ⟨- | ⟨first, line⟩, - | ⟨chunk, chunks⟩⟩
  · rfl
  · rw [placeLongWord]
    split_ifs <;> rfl
  · rfl
  · rfl

/-- Dropping the blank at the end of a line adds no chunk. -/
theorem dropBlankLast_subset (line : List Text) : dropBlankLast line ⊆ line := by
  unfold dropBlankLast
  split
  · split_ifs
    · exact List.dropLast_subset line
    · exact List.Subset.refl line
  · exact List.Subset.refl line

/-- Dropping the blank at the start of a line adds no chunk. -/
theorem dropBlankFirst_subset (chunks : List Text) : dropBlankFirst chunks ⊆ chunks := by
  cases chunks with
  | nil => exact List.Subset.refl _
  | cons chunk chunks =>
      rw [dropBlankFirst]
      split_ifs
      · exact List.subset_cons_self _ _
      · exact List.Subset.refl _

/-- Wrapped lines consist of the chunks. -/
theorem allowed_wrapChunks (width : ℕ) {chunks : List Text} (h : ∀ chunk ∈ chunks, Allowed chunk)
    (passes : ℕ)
    (someLines : Bool) : ∀ line ∈ wrapChunks width passes someLines chunks, Allowed line := by
  induction passes generalizing chunks someLines with
  | zero => exact nofun
  | succ passes ih =>
      cases chunks with
      | nil => exact nofun
      | cons chunk chunks =>
          rw [wrapChunks]
          generalize hKept : (if someLines then dropBlankFirst (chunk :: chunks)
            else chunk :: chunks) = kept
          have hKeptAllowed : ∀ chunk ∈ kept, Allowed chunk := by
            intro c hc
            rw [← hKept] at hc
            split_ifs at hc
            · exact h c (dropBlankFirst_subset _ hc)
            · exact h c hc
          have hParts := (placeLongWord_append width (fillLine width 0 kept)).trans
            (fillLine_append width 0 kept)
          generalize placeLongWord width (fillLine width 0 kept) = filled at hParts
          obtain ⟨line, rest⟩ := filled
          rw [← hParts] at hKeptAllowed
          obtain ⟨hLine, hRest⟩ := List.forall_mem_append.1 hKeptAllowed
          have hLast : ∀ chunk ∈ dropBlankLast line, Allowed chunk :=
            fun c hc => hLine c (dropBlankLast_subset _ hc)
          dsimp only
          generalize dropBlankLast line = last at hLast
          cases last with
          | nil => exact ih hRest someLines
          | cons first last => exact List.forall_mem_cons.2 ⟨allowed_flatten hLast, ih hRest true⟩

/-- Wrapping cuts a text apart and drops blanks, so its lines hold characters of the text only. -/
theorem allowed_wrap {width : ℕ} {t : Text} (h : Allowed t) : ∀ line ∈ wrap width t,
    Allowed line := by
  refine allowed_wrapChunks width ?_ _ false
  intro chunk hChunk c hc
  have hFlatten : (splitChunks (mungeWhitespace t)).flatten = mungeWhitespace t :=
    List.flatten_splitBy _ _
  have hMem : c ∈ (splitChunks (mungeWhitespace t)).flatten :=
    List.mem_flatten.2 ⟨chunk, hChunk, hc⟩
  rw [hFlatten] at hMem
  exact allowed_mungeWhitespace h c hMem

section

variable {K : Type} {spec : VisualizationSpec K}

/-- Every text of the caller consists of characters that XML allows. -/
structure AllowedTexts (spec : VisualizationSpec K) : Prop where
  title : Allowed spec.title
  altText : Allowed spec.altText
  xLabel : Allowed spec.xAxis.label
  yLabel : Allowed spec.yAxis.label
  caption : ∀ caption ∈ spec.caption, Allowed caption
  assumptions : ∀ note ∈ spec.assumptions, Allowed note
  warnings : ∀ note ∈ spec.warnings, Allowed note
  categories : ∀ category ∈ spec.categories, Allowed category
  labels : ∀ series ∈ spec.series, Allowed series.label

/-- The description is composed of the texts of the chart and of literals. -/
theorem allowed_description (h : AllowedTexts spec) : Allowed (description spec) := by
  refine allowed_intercalate (allowed_py (by decide)) (List.forall_mem_append.2 ⟨?_, h.warnings⟩)
  exact List.forall_mem_cons.2 ⟨h.altText, h.assumptions⟩

/-- Assumptions and warnings get a literal label in front. -/
theorem allowed_notes (h : AllowedTexts spec) : ∀ note ∈ notes spec, Allowed note := by
  have hJoined : ∀ (start : String) (texts : List Text), (py start).all isPlain = true →
    (∀ t ∈ texts, Allowed t) →
      ∀ note ∈ (if texts = [] then [] else [py start ++ List.intercalate (py "; ") texts]),
        Allowed note := by
    intro start texts hStart hTexts
    split_ifs
    · exact nofun
    · have hTexts' : Allowed (List.intercalate (py "; ") texts) :=
        allowed_intercalate (allowed_py (by decide)) hTexts
      exact List.forall_mem_singleton.2 ((allowed_py hStart).append hTexts')
  refine List.forall_mem_append.2 ⟨List.forall_mem_append.2 ⟨?_, ?_⟩, ?_⟩
  · cases hCaption : spec.caption with
    | none => exact nofun
    | some caption =>
        dsimp only
        split_ifs
        · exact nofun
        · exact List.forall_mem_singleton.2 (h.caption caption hCaption)
  · exact hJoined "Assumptions: " spec.assumptions (by decide) h.assumptions
  · exact hJoined "Warnings: " spec.warnings (by decide) h.warnings

/-- Every line of the footer comes from the caption or from a note. -/
theorem allowed_footerLines (h : AllowedTexts spec) : ∀ line ∈ footerLines spec, Allowed line := by
  intro line hLine
  obtain ⟨note, hNote, hMem⟩ := List.mem_flatMap.1 hLine
  dsimp only at hMem
  split_ifs at hMem
  · rw [List.mem_singleton.1 hMem]
    exact nofun
  · exact allowed_wrap (allowed_notes h note hNote) line hMem

/-- Digits are plain. -/
theorem allowed_digits (ds : List ℕ) : Allowed (digitsText ds) :=
  allowed_of_isPlain (isPlain_digitsText ds)

/-- A shortened date is made of digits and hyphens. -/
theorem allowed_dateText (t : Moment) : Allowed (dateText t) := by
  have hHyphen : isChar 0x2D = true := by decide
  have hDay : Allowed (0x2D :: padded 2 t.date.day) :=
    List.forall_mem_cons.2 ⟨hHyphen, allowed_digits _⟩
  have hMonth : Allowed (0x2D :: padded 2 t.date.month) :=
    List.forall_mem_cons.2 ⟨hHyphen, allowed_digits _⟩
  exact ((allowed_digits _).append hMonth).append hDay

/-- The label of a minute adds colons and the text of the zone. -/
theorem allowed_minuteText (dates : Dates) (t : Moment) : Allowed (minuteText dates t) := by
  have hPart : ∀ (c : CodePoint) (n : ℕ), isChar c = true → Allowed (c :: padded 2 n) :=
    fun c n hc => List.forall_mem_cons.2 ⟨hc, allowed_digits _⟩
  have hDate := ((allowed_digits (DatasetRegistry.yearDigits dates.pads t.date.year)).append
    (hPart 0x2D t.date.month (by decide))).append (hPart 0x2D t.date.day (by decide))
  exact (hDate.append (hPart 0x20 t.hour (by decide))).append (hPart 0x3A t.minute (by decide))

/-- A label is a category, or a shortened one, or a date. -/
theorem allowed_categoryLabels (dates : Dates) {categories : List Text}
    (h : ∀ category ∈ categories, Allowed category)
    (indexes : List ℕ) : ∀ label ∈ categoryLabels dates categories indexes, Allowed label := by
  intro label hLabel
  unfold categoryLabels at hLabel
  dsimp only at hLabel
  split at hLabel
  · obtain ⟨value, hValue, rfl⟩ := List.mem_map.1 hLabel
    obtain ⟨index, -, rfl⟩ := List.mem_map.1 hValue
    have hCategory : Allowed (categories.getD index []) := by
      rw [List.getD_eq_getElem?_getD]
      cases hFound : categories[index]? with
      | none => exact nofun
      | some category => exact h category (List.mem_of_getElem? hFound)
    split_ifs
    · exact hCategory
    · exact Allowed.append (fun c hc => hCategory c (List.mem_of_mem_take hc))
        (allowed_py (by decide))
  · split_ifs at hLabel
    · obtain ⟨t, -, rfl⟩ := List.mem_map.1 hLabel
      exact allowed_dateText t
    · obtain ⟨t, -, rfl⟩ := List.mem_map.1 hLabel
      exact allowed_minuteText dates t

/-- The formats write numbers in plain characters. -/
theorem isPlain_formatNumber [Field K] (formats : Formats K) (value : K)
    (numberFormat : NumberFormat) :
    ∀ c ∈ formatNumber formats value numberFormat, isPlain c = true := by
  cases numberFormat with
  | decimal => exact formats.general_plain 6 value
  | integer => exact formats.whole_plain value
  | percent =>
      rw [formatNumber]
      split_ifs
      · exact isPlain_append (formats.general_plain 4 _) (isPlain_py (by decide))
      · exact isPlain_append (formats.hundredfold_plain value) (isPlain_py (by decide))

end

/-! ## What is drawn -/

/-- The elements that a chart is drawn with. -/
def drawnNames : List String := ["rect", "text", "line", "path", "circle"]

/-- The name of an element and the names of its attributes. -/
def isTemplate (name : String) (names : List String) : Bool :=
  drawnNames.contains name && isName (py name) && names.all (fun item => isName (py item)) &&
    decide (names.map py).Nodup

/-- The text of a line, if it has one, is escaped. -/
inductive Escaped : Option Text → Prop where
  | none : Escaped none
  | some {t : Text} (h : Allowed t) : Escaped (some (escape t))

/-- Plain characters are escaped as themselves. -/
theorem escaped_of_isPlain {t : Text} (h : ∀ c ∈ t, isPlain c = true) : Escaped (some t) := by
  rw [← escape_of_isPlain h]
  exact .some (allowed_of_isPlain h)

/-- Attributes of some names, whose values stand in a tag as they are. -/
inductive PlainAttributes : List String → List (String × Text) → Prop where
  | nil : PlainAttributes [] []
  | cons {name : String} {value : Text} {names : List String} {rest : List (String × Text)}
      (hValue : ∀ c ∈ value, isPlain c = true) (hRest : PlainAttributes names rest) :
      PlainAttributes (name :: names) ((name, value) :: rest)

/-- The names of the attributes are those of the template. -/
theorem PlainAttributes.map_fst {names : List String} {attributes : List (String × Text)}
    (h : PlainAttributes names attributes) : attributes.map Prod.fst = names := by
  induction h with
  | nil => rfl
  | cons _ _ ih => rw [List.map_cons, ih]

/-- Every value is plain, whichever attribute it is of. -/
theorem PlainAttributes.values {names : List String} {attributes : List (String × Text)}
    (h : PlainAttributes names attributes) : ∀ item ∈ attributes, ∀ c ∈ item.2,
    isPlain c = true := by
  induction h with
  | nil => exact nofun
  | cons hValue _ ih => exact List.forall_mem_cons.2 ⟨hValue, ih⟩

/-- An attribute with a literal value. -/
theorem PlainAttributes.fixed {name value : String} {names : List String}
    {rest : List (String × Text)}
    (hValue : (py value).all isPlain = true) (hRest : PlainAttributes names rest) :
    PlainAttributes (name :: names) (Charts.fixed name value :: rest) :=
      .cons (isPlain_py hValue) hRest

/-- An attribute with a coordinate. -/
theorem PlainAttributes.coord {K : Type} {formats : Formats K} {name : String} {x : K}
    {names : List String} {rest : List (String × Text)} (hRest : PlainAttributes names rest) :
    PlainAttributes (name :: names) (Charts.coord formats name x :: rest) :=
      .cons (formats.coordinate_plain x) hRest

/-- A line that draws something. -/
structure Line.Drawn (line : Line) : Prop where
  attributes : PlainAttributes (line.attributes.map Prod.fst) line.attributes
  template : isTemplate line.name (line.attributes.map Prod.fst) = true
  content : Escaped line.content

/-- A line with plain attributes under a template and with escaped content is drawn. -/
theorem Line.Drawn.of {name : String} {names : List String} {attributes : List (String × Text)}
    {content : Option Text}
    (hAttributes : PlainAttributes names attributes) (hTemplate : isTemplate name names = true)
    (hContent : Escaped content) : Line.Drawn ⟨name, attributes, content⟩ := by
  obtain rfl := hAttributes.map_fst
  exact ⟨hAttributes, hTemplate, hContent⟩

/-- A text beside something: its place, and how it is written. -/
theorem Line.Drawn.label {K : Type} {formats : Formats K} {x y : K}
    {anchor fill family size : String} {content : Option Text}
    (hFixed : [anchor, fill, family, size].all (fun value => (py value).all isPlain) = true)
    (hContent : Escaped content) :
    Line.Drawn ⟨"text", [coord formats "x" x, coord formats "y" y, fixed "text-anchor" anchor,
      fixed "fill" fill, fixed "font-family" family, fixed "font-size" size], content⟩ := by
  simp only [List.all_cons, List.all_nil, Bool.and_true, Bool.and_eq_true] at hFixed
  obtain ⟨hAnchor, hFill, hFamily, hSize⟩ := hFixed
  exact .of (.coord (.coord (.fixed hAnchor (.fixed hFill (.fixed hFamily (.fixed hSize .nil))))))
    (by decide) hContent

/-- A text that begins at its place. -/
theorem Line.Drawn.note {K : Type} {formats : Formats K} {x y : K} {fill family size : String}
    {content : Option Text}
    (hFixed : [fill, family, size].all (fun value => (py value).all isPlain) = true)
    (hContent : Escaped content) :
    Line.Drawn ⟨"text", [coord formats "x" x, coord formats "y" y, fixed "fill" fill,
      fixed "font-family" family, fixed "font-size" size], content⟩ := by
  simp only [List.all_cons, List.all_nil, Bool.and_true, Bool.and_eq_true] at hFixed
  obtain ⟨hFill, hFamily, hSize⟩ := hFixed
  exact .of (.coord (.coord (.fixed hFill (.fixed hFamily (.fixed hSize .nil))))) (by decide)
    hContent

/-- A drawn line makes a tag of its name and attributes. -/
theorem Line.Drawn.isTag {line : Line} (h : line.Drawn) :
    IsTag (py line.name) line.attributeTexts := by
  have hTemplate := h.template
  simp only [isTemplate, Bool.and_eq_true, List.all_eq_true, decide_eq_true_eq] at hTemplate
  obtain ⟨⟨⟨-, hName⟩, hNames⟩, hDistinct⟩ := hTemplate
  refine ⟨hName, ?_, ?_, ?_⟩
  · intro item hItem
    obtain ⟨pair, hPair, rfl⟩ := List.mem_map.1 hItem
    exact hNames _ (List.mem_map_of_mem hPair)
  · rw [List.map_map] at hDistinct
    rw [Line.attributeTexts, List.map_map]
    exact hDistinct
  · intro item hItem
    obtain ⟨pair, hPair, rfl⟩ := List.mem_map.1 hItem
    exact h.attributes.values pair hPair

/-- The reader of documents gets a node from a drawn line. -/
theorem Line.Drawn.exists_readsAs {line : Line} (h : line.Drawn) : ∃ node, line.ReadsAs node := by
  have hContent := h.content
  cases hLine : line.content with
  | none => exact ⟨_, .empty h.isTag hLine⟩
  | some content =>
      rw [hLine] at hContent
      cases hContent with
      | some hChars => exact ⟨_, .content h.isTag hLine hChars⟩

/-- It gets one node for each of several drawn lines. -/
theorem exists_forall₂_readsAs {lines : List Line} (h : ∀ line ∈ lines, line.Drawn) :
    ∃ nodes, List.Forall₂ Line.ReadsAs lines nodes := by
  induction lines with
  | nil => exact ⟨[], .nil⟩
  | cons line lines ih =>
      obtain ⟨hFirst, hRest⟩ := List.forall_mem_cons.1 h
      obtain ⟨node, hNode⟩ := hFirst.exists_readsAs
      obtain ⟨nodes, hNodes⟩ := ih hRest
      exact ⟨node :: nodes, .cons hNode hNodes⟩

/-- Only the elements of the templates are drawn. -/
theorem Line.Drawn.name_mem {line : Line} (h : line.Drawn) : line.name ∈ drawnNames := by
  have hTemplate := h.template
  simp only [isTemplate, Bool.and_eq_true, List.contains_iff_mem] at hTemplate
  exact hTemplate.1.1.1

section

variable {K : Type} (formats : Formats K) (spec : VisualizationSpec K)

/-- A rule between two points has coordinates, a color and a width. -/
theorem drawn_rule (x1 y1 x2 y2 : K) {stroke width : String}
    (hStroke : (py stroke).all isPlain = true)
    (hWidth : (py width).all isPlain = true) : (rule formats x1 y1 x2 y2 stroke width).Drawn :=
  .of (.coord (.coord (.coord (.coord (.fixed hStroke (.fixed hWidth .nil)))))) (by decide) .none

/-- The label of the value axis is escaped with its unit. -/
theorem escaped_valueLabel (h : AllowedTexts spec) : Escaped (some (valueLabel spec)) := by
  have hUnit : Allowed (py spec.yAxis.unit.value) := by
    cases spec.yAxis.unit <;> exact allowed_py (by decide)
  have hLabel : valueLabel spec = escape (spec.yAxis.label ++ py " [" ++ py spec.yAxis.unit.value ++
    py "]") := by
    have hBrackets : escape (py " [") = py " [" ∧ escape (py "]") = py "]" := ⟨rfl, rfl⟩
    simp only [escape, List.flatMap_append] at hBrackets ⊢
    rw [hBrackets.1, hBrackets.2, valueLabel]
    simp only [escape]
  rw [hLabel]
  exact .some (((h.yLabel.append (allowed_py (by decide))).append hUnit).append
    (allowed_py (by decide)))

variable [Field K]

/-- The footer draws one text for each of its lines. -/
theorem drawn_footer (left : K) (lines : List Text) (h : ∀ line ∈ lines, Allowed line) (y : K) :
    ∀ line ∈ footer formats left y lines, line.Drawn := by
  induction lines generalizing y with
  | nil => exact nofun
  | cons line lines ih =>
      obtain ⟨hFirst, hRest⟩ := List.forall_mem_cons.1 h
      refine List.forall_mem_cons.2 ⟨.note (by decide) (.some hFirst), ih hRest _⟩

/-- Every tick is a rule or a formatted number. -/
theorem drawn_ticks (frame : Frame K) (low high : K) : ∀ line ∈ ticks formats spec frame low high,
    line.Drawn := by
  refine List.forall_mem_flatMap.2 (fun index _ => List.forall_mem_cons.2 ⟨?_,
    List.forall_mem_singleton.2 ?_⟩)
  · exact drawn_rule formats _ _ _ _ (by decide) (by decide)
  · exact .label (by decide) (.some (allowed_of_isPlain (isPlain_formatNumber formats _ _)))

/-- The labels under the categories are escaped texts. -/
theorem drawn_categoryTexts (h : AllowedTexts spec) (dates : Dates) (frame : Frame K) :
    ∀ line ∈ categoryTexts formats spec dates frame, line.Drawn := by
  intro line hLine
  obtain ⟨item, hItem, rfl⟩ := List.mem_map.1 hLine
  have hLabel : Allowed item.2 :=
    allowed_categoryLabels dates h.categories _ item.2 (List.of_mem_zip hItem).2
  exact .label (by decide) (.some hLabel)

/-- The labels of both axes are escaped texts. -/
theorem drawn_axisTexts (h : AllowedTexts spec) (frame : Frame K) :
    ∀ line ∈ axisTexts formats spec frame, line.Drawn := by
  refine List.forall_mem_cons.2 ⟨?_, List.forall_mem_singleton.2 ?_⟩
  · exact .label (by decide) (.some h.xLabel)
  · refine .of
      (.fixed (by decide)
        (.coord (.fixed (by decide) (.cons ?_ (.fixed (by decide) (.fixed (by decide)
      (.fixed (by decide) .nil))))))) (by decide) (escaped_valueLabel spec h)
    exact isPlain_append (isPlain_append (isPlain_py (by decide)) (formats.coordinate_plain _))
      (isPlain_py (by decide))

/-- The heading of a grid names the months by literals. -/
theorem drawn_monthTexts (frame : Frame K) (cellWidth : K) :
    ∀ line ∈ monthTexts formats frame cellWidth, line.Drawn := by
  intro line hLine
  obtain ⟨item, hItem, rfl⟩ := List.mem_map.1 hLine
  have hNames : ∀ name ∈ monthLabels, (py name).all isPlain = true := by decide
  have hName : item.1 ∈ monthLabels := (List.mem_zipIdx' hItem).2 ▸ List.getElem_mem _
  exact .label (by decide) (escaped_of_isPlain (isPlain_py (hNames _ hName)))

/-- A color between two colors is made of rounded numbers and punctuation. -/
theorem isPlain_interpolateColor (start stop : List ℤ) (ratio : K) :
    ∀ c ∈ interpolateColor formats start stop ratio, isPlain c = true := by
  refine isPlain_append (isPlain_py (by decide)) ?_
  intro c hc
  obtain ⟨item, -, hMem⟩ := List.mem_flatMap.1 hc
  exact formats.channel_plain _ c hMem

/-- Commands of a path, joined by spaces. -/
theorem isPlain_commands {commands : List Text}
    (h : ∀ command ∈ commands, ∀ c ∈ command, isPlain c = true) :
    ∀ c ∈ List.intercalate (py " ") commands, isPlain c = true := by
  cases commands with
  | nil => exact nofun
  | cons command commands =>
      obtain ⟨hFirst, hRest⟩ := List.forall_mem_cons.1 h
      rw [intercalate_cons_eq]
      refine isPlain_append hFirst ?_
      intro c hc
      obtain ⟨other, hOther, hMem⟩ := List.mem_flatMap.1 hc
      exact isPlain_append (isPlain_py (by decide)) (hRest other hOther) c hMem

variable [LinearOrder K]

/-- The axes are rules of literal colors. -/
theorem drawn_axes (frame : Frame K) (low high : K) : ∀ line ∈ axes formats frame low high,
    line.Drawn := by
  refine List.forall_mem_append.2 ⟨List.forall_mem_cons.2 ⟨?_, List.forall_mem_singleton.2 ?_⟩, ?_⟩
  · exact drawn_rule formats _ _ _ _ (by decide) (by decide)
  · exact drawn_rule formats _ _ _ _ (by decide) (by decide)
  · split_ifs
    · exact List.forall_mem_singleton.2 (drawn_rule formats _ _ _ _ (by decide) (by decide))
    · exact nofun

/-- A line series draws its path and a circle for every value. -/
theorem drawn_lineSeries (frame : Frame K) (low high : K) (count seriesIndex : ℕ)
    (values : List K) :
    ∀ line ∈ lineSeries formats frame low high count seriesIndex values, line.Drawn := by
  refine List.forall_mem_cons.2
    ⟨.of (.cons (isPlain_commands ?_) (.fixed (by decide) (.cons (isPlain_color _)
    (.fixed (by decide) (.fixed (by decide) (.fixed (by decide) .nil)))))) (by decide) .none, ?_⟩
  · intro command hCommand
    obtain ⟨⟨x, y, index⟩, -, rfl⟩ := List.mem_map.1 hCommand
    have hMove : ∀ c ∈ (if index = 0 then py "M" else py "L"), isPlain c = true := by
      split_ifs
      · exact isPlain_py (by decide)
      · exact isPlain_py (by decide)
    exact isPlain_append (isPlain_append (isPlain_append hMove (formats.coordinate_plain x))
      (isPlain_py (by decide)))
      (formats.coordinate_plain y)
  · split_ifs
    · intro line hLine
      obtain ⟨⟨x, y, index⟩, -, rfl⟩ := List.mem_map.1 hLine
      exact .of (.coord (.coord (.fixed (by decide) (.cons (isPlain_color _) .nil))))
        (by decide) .none
    · exact nofun

/-- A bar series draws one path over all of its values. -/
theorem drawn_barSeries (frame : Frame K) (low high : K) (count seriesCount seriesIndex : ℕ)
    (values : List K) :
    (barSeries formats frame low high count seriesCount seriesIndex values).Drawn := by
  refine .of (.cons (isPlain_commands ?_) (.cons (isPlain_color _) .nil)) (by decide) .none
  intro command hCommand
  obtain ⟨index, -, rfl⟩ := List.mem_map.1 hCommand
  have hX := formats.coordinate_plain
  have hMark : ∀ s : String, (py s).all isPlain = true → ∀ c ∈ py s, isPlain c = true :=
    fun _ h => isPlain_py h
  exact isPlain_append
    (isPlain_append (isPlain_append (isPlain_append (isPlain_append (isPlain_append (isPlain_append
    (isPlain_append (isPlain_append (isPlain_append (hMark "M" (by decide)) (hX _))
      (hMark "," (by decide))) (hX _))
    (hMark "h" (by decide))) (hX _)) (hMark "v" (by decide))) (hX _)) (hMark "h-" (by decide)))
      (hX _))
    (hMark "Z" (by decide))

/-- The marks of a chart are those of its series, of whichever kind. -/
theorem drawn_marks (frame : Frame K) (low high : K) : ∀ line ∈ marks formats spec frame low high,
    line.Drawn := by
  unfold marks
  cases spec.kind with
  | line =>
      exact List.forall_mem_flatMap.2 (fun item _ => drawn_lineSeries formats frame low high _
        item.2 item.1)
  | bar =>
      intro line hLine
      obtain ⟨item, -, rfl⟩ := List.mem_map.1 hLine
      exact drawn_barSeries formats frame low high _ _ item.2 item.1
  | heatmap => exact nofun

/-- Every label of the legend stands beside a swatch. -/
theorem drawn_legend (labels : List Text) (h : ∀ label ∈ labels, Allowed label) (x : K)
    (index : ℕ) :
    ∀ line ∈ legend formats x index labels, line.Drawn := by
  induction labels generalizing x index with
  | nil => exact nofun
  | cons label labels ih =>
      obtain ⟨hFirst, hRest⟩ := List.forall_mem_cons.1 h
      refine List.forall_mem_cons.2 ⟨?_, List.forall_mem_cons.2 ⟨?_, ih hRest _ _⟩⟩
      · exact .of
          (.coord (.coord (.fixed (by decide) (.fixed (by decide) (.cons (isPlain_color _) .nil)))))
            (by decide)
          .none
      · exact .note (by decide) (.some hFirst)

/-- The color of a cell lies between two literal colors. -/
theorem isPlain_heatmapColor (value scale : K) : ∀ c ∈ heatmapColor formats value scale,
    isPlain c = true := by
  unfold heatmapColor
  split_ifs
  · exact isPlain_interpolateColor formats _ _ _
  · exact isPlain_interpolateColor formats _ _ _
  · exact isPlain_interpolateColor formats _ _ _

/-- A cell is a rectangle, with its value where values are shown. -/
theorem drawn_cell (x y cellWidth cellHeight scale : K) (showValues : Prop) [Decidable showValues]
    (value : Option K) :
    ∀ line ∈ cell formats spec x y cellWidth cellHeight scale showValues value, line.Drawn := by
  refine List.forall_mem_cons.2 ⟨?_, ?_⟩
  · refine .of
      (.coord (.coord (.coord (.coord (.cons ?_ (.fixed (by decide) (.fixed (by decide) .nil)))))))
        (by decide)
      .none
    cases value with
    | none => exact isPlain_py (by decide)
    | some value => exact isPlain_heatmapColor formats value scale
  · cases value with
    | none => exact nofun
    | some value =>
        have hFill (p : Prop) [Decidable p] : ∀ c ∈ (if p then py "#FFFFFF" else py "#111827"),
          isPlain c = true := by
          split_ifs
          · exact isPlain_py (by decide)
          · exact isPlain_py (by decide)
        by_cases hShow : showValues
        · simp only [if_pos hShow]
          refine List.forall_mem_singleton.2
            (.of (.coord (.coord (.fixed (by decide) (.cons (hFill _)
            (.fixed (by decide) (.fixed (by decide) .nil)))))) (by decide) (.some ?_))
          exact allowed_of_isPlain (isPlain_formatNumber formats _ _)
        · simp only [if_neg hShow]
          exact nofun

/-- The grid draws every cell, also those without an observation. -/
theorem drawn_cells (frame : Frame K) (cellWidth cellHeight scale : K)
    (observations : List (Text × K)) :
    ∀ line ∈ cells formats spec frame cellWidth cellHeight scale observations, line.Drawn := by
  refine List.forall_mem_flatMap.2 (fun item _ => List.forall_mem_cons.2 ⟨?_, ?_⟩)
  · exact .label (by decide) (escaped_of_isPlain (isPlain_digitsText _))
  · exact List.forall_mem_flatMap.2 (fun month _ => drawn_cell formats spec _ _ _ _ _ _ _)

/-- The legend of a heatmap shows its scale on both sides of zero. -/
theorem drawn_heatmapLegend (h : AllowedTexts spec) (frame : Frame K) (scale : K) :
    ∀ line ∈ heatmapLegend formats spec frame scale, line.Drawn := by
  have hNumber (value : K) :
    Escaped (some (escape (formatNumber formats value spec.yAxis.numberFormat))) :=
    .some (allowed_of_isPlain (isPlain_formatNumber formats _ _))
  refine List.forall_mem_cons.2 ⟨?_, List.forall_mem_append.2 ⟨?_, ?_⟩⟩
  · exact .label (by decide) (.some h.xLabel)
  · intro line hLine
    obtain ⟨step, -, rfl⟩ := List.mem_map.1 hLine
    exact .of
      (.coord (.coord (.coord (.fixed (by decide) (.cons (isPlain_heatmapColor formats _ _)
        .nil)))))
      (by decide) .none
  · refine List.forall_mem_cons.2 ⟨?_, List.forall_mem_cons.2 ⟨?_, List.forall_mem_cons.2 ⟨?_,
      List.forall_mem_singleton.2 ?_⟩⟩⟩
    · exact .note (by decide) (hNumber _)
    · exact .label (by decide) (hNumber _)
    · exact .label (by decide) (hNumber _)
    · exact .note (by decide) (escaped_valueLabel spec h)

/-! ## The document of a chart -/

/-- The lines behind the title and the description. -/
def drawing (dates : Dates) : List Line := (linesOf formats spec dates).drop 2

/-- The document is the headings and the drawing, in this order. -/
theorem linesOf_eq (dates : Dates) : linesOf formats spec dates = headings spec ++ drawing formats
    spec dates := by
  unfold drawing linesOf
  split_ifs
  · rfl
  · rfl

/-- Every line of the drawing is drawn, whichever kind the chart has. -/
theorem drawn_drawing (h : AllowedTexts spec) (dates : Dates) : ∀ line ∈ drawing formats spec dates,
    line.Drawn := by
  have hHeader (left : K) : ∀ line ∈ (header formats spec left).drop 2, line.Drawn := by
    refine List.forall_mem_cons.2 ⟨?_, List.forall_mem_singleton.2 ?_⟩
    · exact .of (.cons (isPlain_int _) (.cons (isPlain_int _) (.fixed (by decide) .nil)))
        (by decide) .none
    · exact .of
        (.coord (.fixed (by decide) (.fixed (by decide) (.fixed (by decide) (.fixed (by decide)
        (.fixed (by decide) .nil)))))) (by decide) (.some h.title)
  have hFooter (left y : K) : ∀ line ∈ footer formats left y (footerLines spec), line.Drawn :=
    drawn_footer formats left _ (allowed_footerLines h) y
  unfold drawing linesOf
  split_ifs
  · show ∀ line ∈ (header formats spec (frameOf spec (62 : K) 96).left).drop 2 ++ monthTexts formats
      _ _ ++
      cells formats spec _ _ _ _ _ ++ heatmapLegend formats spec _ _ ++ footer formats _ _
        (footerLines spec),
      line.Drawn
    simp only [List.forall_mem_append]
    exact ⟨⟨⟨⟨hHeader _, drawn_monthTexts formats _ _⟩, drawn_cells formats spec _ _ _ _ _⟩,
      drawn_heatmapLegend formats spec h _ _⟩, hFooter _ _⟩
  · have hLabels : ∀ label ∈ spec.series.map ChartSeries.label, Allowed label :=
      List.forall_mem_map.2 h.labels
    show ∀ line ∈ (header formats spec (frameOf spec (58 : K) 64).left).drop 2 ++ ticks formats spec
      _ _ _ ++
      axes formats _ _ _ ++ marks formats spec _ _ _ ++ categoryTexts formats spec dates _ ++
      axisTexts formats spec _ ++ legend formats _ 0 _ ++ footer formats _ _ (footerLines spec),
        line.Drawn
    simp only [List.forall_mem_append]
    exact ⟨⟨⟨⟨⟨⟨⟨hHeader _, drawn_ticks formats spec _ _ _⟩, drawn_axes formats _ _ _⟩,
      drawn_marks formats spec _ _ _⟩, drawn_categoryTexts formats spec h dates _⟩,
      drawn_axisTexts formats spec h _⟩, drawn_legend formats _ hLabels _ _⟩, hFooter _ _⟩

end

end Charts
