import DefinedQuant.Lib.AwareDatetime
import DefinedQuant.Shared.Charts
import Mathlib.Data.List.Nodup

/-!
# The grid of a heatmap

A heatmap draws a row for each year and a cell for each month, and asks a dict of the observations
for the value of every cell by the label of its month. `gridOf` is the grid of values that is drawn.
The labels of a valid heatmap are the months themselves, so the values of the grid are those of the
specification, each in the cell of its own month.
-/

namespace Charts

open Json FixedDigits Decimal
open Visualization
open Validation (isCalendarMonth)

/-! ## Labels of months -/

/-- `f"{year:04d}-{month:02d}"` -/
def monthLabel (year month : ℕ) : Text := padded 4 year ++ py "-" ++ padded 2 month

/-- `int(category[5:])` -/
def monthOf (category : Text) : ℕ := ofDigitList ((category.drop 5).filterMap digit?)

/-- Reading written digits back. -/
theorem filterMap_digit? {ds : List ℕ} (h : ∀ d ∈ ds, d < 10) :
    (digitsText ds).filterMap digit? = ds := by
  induction ds with
  | nil => rfl
  | cons d ds ih =>
      have hFirst : digit? (digitChar d) = some d := digit?_digitChar (h d List.mem_cons_self)
      rw [digitsText, List.map_cons, List.filterMap_cons_some hFirst]
      exact congrArg _ (ih (fun e he => h e (List.mem_cons_of_mem d he)))

/-- A padded number is read back. -/
theorem filterMap_padded {n v : ℕ} (h : v < 10 ^ n) : ofDigitList ((padded n v).filterMap digit?) =
    v := by
  rw [padded, filterMap_digit? (fun _ => fixedDigits_lt), ofDigitList_fixedDigits h]

/-- The year of a label of a month. -/
theorem yearOf_monthLabel {year : ℕ} (h : year < 10 ^ 4) (month : ℕ) :
    yearOf (monthLabel year month) = year := by
  have hTake : (monthLabel year month).take 4 = padded 4 year := by
    rw [monthLabel, List.append_assoc, List.take_left' (Calendar.AwareDatetime.length_padded 4
      year)]
  rw [yearOf, hTake, filterMap_padded h]

/-- The month of a label of a month. -/
theorem monthOf_monthLabel {month : ℕ} (h : month < 10 ^ 2) (year : ℕ) :
    monthOf (monthLabel year month) = month := by
  have hDrop : (monthLabel year month).drop 5 = padded 2 month := by
    refine List.drop_left' ?_
    rw [List.length_append, Calendar.AwareDatetime.length_padded]
    rfl
  rw [monthOf, hDrop, filterMap_padded h]

/-- Digits are the number that they spell, in as many digits. -/
theorem exists_padded {t : Text} (h : t.all Validation.isDigit = true) :
    ∃ v < 10 ^ t.length, t = padded t.length v := by
  have hEach : ∀ c ∈ t, ∃ d, digit? c = some d := by
    intro c hc
    have hDigit := of_decide_eq_true (List.all_eq_true.1 h c hc)
    exact ⟨c.val - 48, if_pos hDigit⟩
  obtain ⟨ds, hLength, hLess, hText⟩ :
      ∃ ds : List ℕ, ds.length = t.length ∧ (∀ d ∈ ds, d < 10) ∧ digitsText ds = t := by
    clear h
    induction t with
    | nil => exact ⟨[], rfl, nofun, rfl⟩
    | cons c t ih =>
        obtain ⟨d, hd⟩ := hEach c List.mem_cons_self
        obtain ⟨ds, hLength, hLess, hText⟩ := ih (fun e he => hEach e (List.mem_cons_of_mem c he))
        obtain ⟨hSmall, rfl⟩ := digit?_eq_some.1 hd
        refine ⟨d :: ds, by rw [List.length_cons, hLength, List.length_cons],
          List.forall_mem_cons.2 ⟨hSmall, hLess⟩, ?_⟩
        rw [digitsText, List.map_cons]
        exact congrArg _ hText
  refine ⟨ofDigitList ds, hLength ▸ ofDigitList_lt hLess, ?_⟩
  rw [padded, ← hLength, fixedDigits_ofDigitList hLess, hText]

/-- What the validator lets pass as a month is the label of its year and month. -/
theorem eq_monthLabel {category : Text} (h : isCalendarMonth category = true) :
    yearOf category < 10 ^ 4 ∧ 1 ≤ monthOf category ∧ monthOf category ≤ 12 ∧
      category = monthLabel (yearOf category) (monthOf category) := by
  unfold isCalendarMonth at h
  split at h
  · next a b c d hyphen m n =>
    simp only [Bool.and_eq_true, Bool.or_eq_true, decide_eq_true_eq] at h
    obtain ⟨⟨hYear, hHyphen⟩, hMonth⟩ := h
    obtain ⟨year, hLess, hYearText⟩ := exists_padded hYear
    have hDigits : [m, n].all Validation.isDigit = true := by
      simp only [List.all_cons, List.all_nil, Bool.and_true, Bool.and_eq_true, Validation.isDigit,
        decide_eq_true_eq]
      omega
    obtain ⟨month, hMonthLess, hMonthText⟩ := exists_padded hDigits
    have hText : [a, b, c, d, hyphen, m, n] = monthLabel year month := by
      have hMinus : hyphen = CodePoint.ofChar '-' := Fin.ext hHyphen
      have hSplit : [a, b, c, d, hyphen, m, n] = [a, b, c, d] ++ [hyphen] ++ [m, n] := rfl
      rw [hSplit, hYearText, hMonthText, hMinus]
      rfl
    -- The pattern admits the months 01 to 12 only.
    have hRange : 1 ≤ month ∧ month ≤ 12 := by
      have hm : m = digitChar (month / 10) ∧ n = digitChar month := by
        have hBoth : [m, n] = [digitChar (month / 10), digitChar month] := by
          rw [hMonthText]
          simp [padded, fixedDigits, digitsText, digitChar]
        injection hBoth with hm hn
        injection hn with hn
        exact ⟨hm, hn⟩
      have hTens : m.val = 48 + month / 10 % 10 := congrArg Fin.val hm.1
      have hOnes : n.val = 48 + month % 10 := congrArg Fin.val hm.2
      have hTwo : month < 100 := hMonthLess
      omega
    rw [hText, yearOf_monthLabel hLess, monthOf_monthLabel hMonthLess]
    exact ⟨hLess, hRange.1, hRange.2, rfl⟩
  · cases h

/-! ## The grid -/

/-- The value of a key in a list of pairs with distinct keys. -/
theorem lookup_eq_some_iff {α β : Type} [BEq α] [LawfulBEq α] {pairs : List (α × β)}
    (h : (pairs.map Prod.fst).Nodup) {key : α} {value : β} :
    pairs.lookup key = some value ↔ (key, value) ∈ pairs := by
  induction pairs with
  | nil => exact ⟨nofun, nofun⟩
  | cons pair pairs ih =>
      rw [List.map_cons, List.nodup_cons] at h
      rw [List.lookup_cons, List.mem_cons]
      by_cases hKey : key = pair.1
      · subst hKey
        rw [beq_self_eq_true]
        constructor
        · rintro ⟨⟩
          exact .inl rfl
        · rintro (hSame | hMem)
          · exact congrArg some (congrArg Prod.snd hSame).symm
          · exact absurd (List.mem_map_of_mem hMem) h.1
      · rw [beq_false_of_ne hKey]
        exact (ih h.2).trans ⟨.inr, fun hMem =>
          hMem.resolve_left (fun hSame => hKey (congrArg Prod.fst hSame))⟩

section

variable {K : Type}

/-- The categories with their values. -/
def observationsOf (spec : VisualizationSpec K) : List (Text × K) :=
  spec.categories.zip ((spec.series.map ChartSeries.values).headD [])

/-- The cells of a year, from January on. -/
def rowOf (observations : List (Text × K)) (year : ℕ) : List (Option K) :=
  (List.range 12).map (fun month => observations.reverse.lookup (monthLabel year (month + 1)))

/-- The years of the grid, each with its cells. -/
def gridOf (spec : VisualizationSpec K) : List (ℕ × List (Option K)) :=
  (yearsOf spec.categories).map (fun year => (year, rowOf (observationsOf spec) year))

/-- A grid as it is drawn: under one another the years, and behind each its cells from left to
right. -/
def gridLines [Field K] [LinearOrder K] (formats : Formats K) (spec : VisualizationSpec K)
    (frame : Frame K)
    (cellWidth cellHeight scale : K) (grid : List (ℕ × List (Option K))) : List Line :=
  grid.zipIdx.flatMap (fun row =>
    let y := frame.top + row.2 * cellHeight
    ⟨"text", [coord formats "x" (frame.left - 9), coord formats "y" (y + cellHeight / 2 + 4),
      fixed "text-anchor" "end", fixed "fill" "#4B5563",
      fixed "font-family" "system-ui, sans-serif", fixed "font-size" "11"],
      some (digitsText (natDigits row.1.1))⟩ ::
    row.1.2.zipIdx.flatMap (fun value => cell formats spec (frame.left + value.2 * cellWidth) y
      cellWidth cellHeight
      scale (42.0 ≤ cellWidth ∧ 24.0 ≤ cellHeight) value.1))

/-- The values that a grid shows, with the year and month of their cells. -/
def shown (grid : List (ℕ × List (Option K))) : List ((ℕ × ℕ) × K) :=
  grid.flatMap (fun row => row.2.zipIdx.filterMap (fun value =>
    value.1.map (fun shown => ((row.1, value.2 + 1), shown))))

/-- The cells of a row with their months. -/
theorem zipIdx_rowOf (observations : List (Text × K)) (year : ℕ) :
    (rowOf observations year).zipIdx =
      (List.range 12).map (fun month => (observations.reverse.lookup (monthLabel year (month + 1)),
        month)) := by
  rw [rowOf, List.zipIdx_map]
  rfl

/-- What the loops over years and months draw is the grid. -/
theorem cells_eq_gridLines [Field K] [LinearOrder K] (formats : Formats K)
    (spec : VisualizationSpec K) (frame : Frame K) (cellWidth cellHeight scale : K) :
    cells formats spec frame cellWidth cellHeight scale (observationsOf spec) =
      gridLines formats spec frame cellWidth cellHeight scale (gridOf spec) := by
  unfold cells gridLines gridOf
  rw [List.zipIdx_map, List.flatMap_map]
  refine List.flatMap_congr (fun row _ => ?_)
  rw [Prod.map_fst, Prod.map_snd]
  simp only [zipIdx_rowOf, List.flatMap_map]
  rfl

/-- The values that a row shows. -/
def shownRow (observations : List (Text × K)) (year : ℕ) : List ((ℕ × ℕ) × K) :=
  (List.range 12).filterMap (fun month =>
    (observations.reverse.lookup (monthLabel year (month + 1))).map (fun value =>
      ((year, month + 1), value)))

/-- A grid shows the rows of its years. -/
theorem shown_gridOf (spec : VisualizationSpec K) :
    shown (gridOf spec) = (yearsOf spec.categories).flatMap (shownRow (observationsOf spec)) := by
  unfold shown gridOf
  rw [List.flatMap_map]
  simp only [zipIdx_rowOf, List.filterMap_map]
  rfl

/-- What a row shows: the value looked up for each of its months. -/
theorem mem_shownRow {observations : List (Text × K)} {year : ℕ} {place : ℕ × ℕ} {value : K} :
    (place, value) ∈ shownRow observations year ↔
      ∃ month < 12, observations.reverse.lookup (monthLabel year (month + 1)) = some value ∧
        place = (year, month + 1) := by
  simp only [shownRow, List.mem_filterMap, List.mem_range, Option.map_eq_some_iff, Prod.mk.injEq]
  constructor
  · rintro ⟨month, hLess, _, hLookup, rfl, rfl⟩
    exact ⟨month, hLess, hLookup, rfl⟩
  · rintro ⟨month, hLess, hLookup, rfl⟩
    exact ⟨month, hLess, value, hLookup, rfl, rfl⟩

/-- A row shows no place twice. -/
theorem nodup_shownRow (observations : List (Text × K)) (year : ℕ) :
    ((shownRow observations year).map Prod.fst).Nodup := by
  rw [shownRow, List.map_filterMap]
  refine List.Nodup.filterMap ?_ List.nodup_range
  intro a b place hA hB
  simp only [Option.map_map, Option.mem_def, Option.map_eq_some_iff, Function.comp_apply] at hA hB
  obtain ⟨_, -, rfl⟩ := hA
  obtain ⟨_, -, hSame⟩ := hB
  exact (Nat.succ.inj (congrArg Prod.snd hSame)).symm

/-- The years of a grid are those of its categories. -/
theorem mem_yearsOf {categories : List Text} {year : ℕ} :
    year ∈ yearsOf categories ↔ ∃ category ∈ categories, yearOf category = year := by
  rw [yearsOf, List.mem_mergeSort, List.mem_dedup, List.mem_map]

/-- No year has two rows. -/
theorem nodup_yearsOf (categories : List Text) : (yearsOf categories).Nodup :=
  (List.mergeSort_perm _ _).nodup_iff.2 (List.nodup_dedup _)

/-- No cell shows two values. -/
theorem nodup_shown (spec : VisualizationSpec K) : ((shown (gridOf spec)).map Prod.fst).Nodup := by
  rw [shown_gridOf, List.map_flatMap, List.nodup_flatMap]
  refine ⟨fun year _ => nodup_shownRow _ year, (nodup_yearsOf spec.categories).imp ?_⟩
  intro a b hDiffer place hA hB
  obtain ⟨⟨_, _⟩, hMemA, rfl⟩ := List.mem_map.1 hA
  obtain ⟨⟨_, _⟩, hMemB, hSame⟩ := List.mem_map.1 hB
  obtain ⟨_, -, -, rfl⟩ := mem_shownRow.1 hMemA
  obtain ⟨_, -, -, rfl⟩ := mem_shownRow.1 hMemB
  exact hDiffer (congrArg Prod.fst hSame).symm

/-! ## Valid heatmaps -/

/-- The grid shows the observations, each once, in the cell of its own month, and nothing else. -/
structure ShowsOnce (spec : VisualizationSpec K) (grid : List (ℕ × List (Option K))) : Prop where
  years : (grid.map Prod.fst).Nodup
  months : ∀ row ∈ grid, row.2.length = 12
  once : ((shown grid).map Prod.fst).Nodup
  own : (shown grid).Perm
    ((observationsOf spec).map (fun item => ((yearOf item.1, monthOf item.1), item.2)))

/-- The one series of a heatmap has a value for each category. -/
theorem aligned_heatmap {isFinite : K → Bool} {spec : VisualizationSpec K}
    (hValid : spec.Valid isFinite) (hHeatmap : ValidHeatmap spec) :
    ((spec.series.map ChartSeries.values).headD []).length = spec.categories.length := by
  obtain ⟨series, hSeries⟩ := List.length_eq_one_iff.1 hHeatmap.single
  rw [hSeries]
  exact hValid.aligned series (hSeries ▸ List.mem_singleton_self series)

/-- The grid of a valid heat map shows every observation once and nothing else. -/
theorem showsOnce_gridOf {isFinite : K → Bool} {spec : VisualizationSpec K}
    (hValid : spec.Valid isFinite)
    (hKind : spec.kind = .heatmap) : ShowsOnce spec (gridOf spec) := by
  have hHeatmap := hValid.kind.1 hKind
  -- A category is the label of its own year and month.
  have hLabel : ∀ item ∈ observationsOf spec, yearOf item.1 < 10 ^ 4 ∧ 1 ≤ monthOf item.1 ∧
      monthOf item.1 ≤ 12 ∧ item.1 = monthLabel (yearOf item.1) (monthOf item.1) :=
    fun item hItem => eq_monthLabel (hHeatmap.months _ (List.of_mem_zip hItem).1)
  have hKeys : ((observationsOf spec).map Prod.fst).Nodup := by
    rw [observationsOf, List.map_fst_zip (aligned_heatmap hValid hHeatmap).ge]
    exact hHeatmap.distinct
  have hReversed : ((observationsOf spec).reverse.map Prod.fst).Nodup := by
    rw [List.map_reverse, List.nodup_reverse]
    exact hKeys
  -- So different categories have different places.
  have hPlaces :
    ((observationsOf spec).map (fun item => ((yearOf item.1, monthOf item.1), item.2))).Nodup := by
    refine List.Nodup.map_on ?_ (List.Nodup.of_map Prod.fst hKeys)
    intro a hA b hB hSame
    obtain ⟨hPlace, hValue⟩ := Prod.mk.inj hSame
    obtain ⟨hYear, hMonth⟩ := Prod.mk.inj hPlace
    have hCategory : a.1 = b.1 := by rw [(hLabel a hA).2.2.2, (hLabel b hB).2.2.2, hYear, hMonth]
    exact Prod.ext hCategory hValue
  refine ⟨?_, ?_, nodup_shown spec, ?_⟩
  · rw [gridOf, List.map_map]
    exact (List.map_id _).symm ▸ nodup_yearsOf spec.categories
  · intro row hRow
    obtain ⟨year, -, rfl⟩ := List.mem_map.1 hRow
    rw [rowOf, List.length_map, List.length_range]
  -- The grid looks each place up from the end, which finds the one observation there is.
  · rw [List.perm_ext_iff_of_nodup (List.Nodup.of_map Prod.fst (nodup_shown spec)) hPlaces]
    rintro ⟨place, value⟩
    rw [shown_gridOf, List.mem_flatMap, List.mem_map]
    constructor
    · rintro ⟨year, hYear, hMem⟩
      obtain ⟨month, hMonth, hLookup, rfl⟩ := mem_shownRow.1 hMem
      obtain ⟨category, hCategory, rfl⟩ := mem_yearsOf.1 hYear
      have hItem := List.mem_reverse.1 ((lookup_eq_some_iff hReversed).1 hLookup)
      refine ⟨_, hItem, ?_⟩
      rw [yearOf_monthLabel (eq_monthLabel (hHeatmap.months _ hCategory)).1,
        monthOf_monthLabel (by omega)]
    · rintro ⟨⟨category, value⟩, hItem, hSame⟩
      cases hSame
      obtain ⟨hYear, hLow, hHigh, hText⟩ : yearOf category < 10 ^ 4 ∧ 1 ≤ monthOf category ∧
        monthOf category ≤ 12 ∧ category = monthLabel (yearOf category) (monthOf category) :=
          hLabel _ hItem
      refine ⟨yearOf category, mem_yearsOf.2 ⟨category, (List.of_mem_zip hItem).1, rfl⟩,
        mem_shownRow.2
        ⟨monthOf category - 1, by omega, ?_, ?_⟩⟩
      · rw [Nat.sub_add_cancel hLow, ← hText]
        exact (lookup_eq_some_iff hReversed).2 (List.mem_reverse.2 hItem)
      · rw [Nat.sub_add_cancel hLow]

/-! ## The document of a heatmap -/

variable [Field K] [LinearOrder K] (formats : Formats K) (spec : VisualizationSpec K)

/-- The document in which a grid is drawn, between the names of the months and the legend. -/
def heatmapDocument (grid : List (ℕ × List (Option K))) : Text :=
  let frame := frameOf spec (62 : K) 96
  let cellWidth := (frame.right - frame.left) / 12
  let cellHeight := (frame.bottom - frame.top) / ((yearsOf spec.categories).length : K)
  let scale := (extremes (((spec.series.map ChartSeries.values).headD []).map (|·|))).2
  document spec (header formats spec frame.left ++ monthTexts formats frame cellWidth ++
    gridLines formats spec frame cellWidth cellHeight scale grid ++
    heatmapLegend formats spec frame scale ++ footer formats frame.left (frame.bottom + 72)
      (footerLines spec))

/-- The document of a heat map is the one of its grid. -/
theorem document_heatmapLines :
    document spec (heatmapLines formats spec (frameOf spec 62 96)) = heatmapDocument formats spec
      (gridOf spec) := by
  have hCells := cells_eq_gridLines formats spec (frameOf spec (62 : K) 96)
  unfold observationsOf at hCells
  simp only [heatmapLines, heatmapDocument, hCells]

variable [IsStrictOrderedRing K] {spec}

/-- A valid heatmap whose notes leave room for the plot shows every value once, in the cell of its
own month, and leaves the other cells blank. One without room is refused. -/
theorem heatmap_shows_every_value_once {isFinite : K → Bool} (hValid : spec.Valid isFinite)
    (hKind : spec.kind = .heatmap) (dates : Dates) :
    if HasRoom spec then
      ∃ grid, renderSvg formats spec dates = .ok (heatmapDocument formats spec grid) ∧
        ShowsOnce spec grid
    else renderSvg formats spec dates = .error .insufficientSpace := by
  split_ifs with hRoom
  · have hRendered :
      renderSvg formats spec dates = .ok (document spec (linesOf formats spec dates)) :=
      renderSvg_of_hasRoom hValid hRoom
    rw [linesOf, if_pos hKind, document_heatmapLines] at hRendered
    exact ⟨gridOf spec, hRendered, showsOnce_gridOf hValid hKind⟩
  · exact renderSvg_of_not_hasRoom hRoom

end

/-- A heatmap of two months, a year and a month apart, with a caption, an assumption and a warning. -/
def annotatedHeatmap : VisualizationSpec ℚ where
  schemaVersion := 1
  id := py "returns"
  kind := .heatmap
  title := py "Returns"
  altText := py "Returns by month"
  categories := [py "2023-12", py "2025-01"]
  series := [⟨py "returns", py "Returns", [-1, 2]⟩]
  xAxis := { label := py "Month" }
  yAxis := { label := py "Return" }
  caption := some (py "Source")
  assumptions := [py "Prices"]
  warnings := [py "Gaps"]

/-- Texts that are no dates. -/
def noDates : Dates := ⟨fun _ => none, true⟩

/-- The sample heat map is valid. -/
theorem valid_annotatedHeatmap : annotatedHeatmap.Valid rationalFormats.isFinite where
  id := by decide
  title := by decide
  altText := by decide
  xLabel := by decide
  yLabel := by decide
  caption := by decide
  categories := List.cons_ne_nil _ _
  eachCategory := List.forall_mem_cons.2 ⟨by decide, List.forall_mem_singleton.2 (by decide)⟩
  series := by decide
  eachSeries := List.forall_mem_singleton.2 ⟨by decide, by decide, List.cons_ne_nil _ _,
    fun _ _ => rfl⟩
  aligned := List.forall_mem_singleton.2 rfl
  keys := List.nodup_singleton _
  assumptions := ⟨by decide, List.forall_mem_singleton.2 (by decide)⟩
  warnings := ⟨by decide, List.forall_mem_singleton.2 (by decide)⟩
  width := by decide
  height := by decide
  version := le_rfl
  kind := by
    refine ⟨fun _ => ⟨rfl, rfl, ?_, ?_, ?_⟩, fun hKind => absurd rfl hKind⟩
    · exact List.forall_mem_cons.2 ⟨by decide, List.forall_mem_singleton.2 (by decide)⟩
    · show [py "2023-12", py "2025-01"].Nodup
      decide
    · have hOrder : [py "2023-12", py "2025-01"].Pairwise (fun a b => decide (a ≤ b) = true) := by
        decide
      exact List.mergeSort_of_pairwise hOrder

/-- Its footer has three lines. -/
theorem length_footerLines_annotatedHeatmap : (footerLines annotatedHeatmap).length = 3 := by decide

/-- The sample heat map with notes shows each of its values once. -/
theorem heatmap_shows_every_value_once_annotated :
    ∃ grid, renderSvg rationalFormats annotatedHeatmap noDates =
      .ok (heatmapDocument rationalFormats annotatedHeatmap grid) ∧
        ShowsOnce annotatedHeatmap grid := by
  have hShown := heatmap_shows_every_value_once rationalFormats valid_annotatedHeatmap rfl noDates
  have hRoom : HasRoom annotatedHeatmap := by
    unfold HasRoom
    rw [length_footerLines_annotatedHeatmap]
    decide
  rwa [if_pos hRoom] at hShown

/-- It stays valid when it is made lower. -/
theorem valid_low_annotatedHeatmap : { annotatedHeatmap with height := 320 }.Valid
    rationalFormats.isFinite :=
  { valid_annotatedHeatmap with
    height := by decide
    kind := ⟨fun hKind => { valid_annotatedHeatmap.kind.1 hKind with },
      valid_annotatedHeatmap.kind.2⟩ }

/-- It has no room left then. -/
theorem not_hasRoom_low_annotatedHeatmap : ¬ HasRoom { annotatedHeatmap with height := 320 } := by
  have hLines : (footerLines { annotatedHeatmap with height := 320 }).length = 3 :=
    length_footerLines_annotatedHeatmap
  unfold HasRoom
  rw [hLines]
  decide

/-- Three notes leave the lowest chart no room, so that nothing is drawn. -/
theorem annotated_heatmap_not_drawn :
    ¬ ∀ spec : VisualizationSpec ℚ, spec.Valid rationalFormats.isFinite → spec.kind = .heatmap →
      ∃ grid, renderSvg rationalFormats spec noDates =
        .ok (heatmapDocument rationalFormats spec grid) ∧
        ShowsOnce spec grid := by
  intro hDrawn
  obtain ⟨grid, hRendered, -⟩ := hDrawn _ valid_low_annotatedHeatmap rfl
  rw [renderSvg_of_not_hasRoom not_hasRoom_low_annotatedHeatmap] at hRendered
  cases hRendered

end Charts
