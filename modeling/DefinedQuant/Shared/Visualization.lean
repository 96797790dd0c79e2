import DefinedQuant.Lib.Except
import DefinedQuant.Protocol.Patterns
import DefinedQuant.Shared.Validation

/-!
# Chart descriptions

`VisualizationSpec` is the closed description of a chart, over any type of numbers of which some are
finite. Its validation bounds every text, keeps the series aligned with the categories and holds
heatmaps to calendar months in order.
-/

/-- A literal has at most as many characters as bytes. -/
theorem length_py_le (s : String) : (py s).length ≤ s.utf8ByteSize := by
  rw [py, List.length_map]
  obtain ⟨l, rfl⟩ : ∃ l, s = String.ofList l := ⟨s.toList, (String.ofList_toList).symm⟩
  rw [String.toList_ofList, ← String.size_toByteArray, String.toByteArray_ofList]
  induction l with
  | nil => exact Nat.zero_le _
  | cons c l ih =>
      have hOne := c.utf8Size_pos
      rw [List.utf8Encode_cons, ByteArray.size_append, List.utf8Encode_singleton, List.length_cons]
      simp only [List.size_toByteArray, String.length_utf8EncodeChar]
      omega

namespace Visualization

open Protocol (charsWithin isSafeId)

/-- A `ValidationError`: the field and what is wrong with it. -/
structure Invalid where
  field : String
  message : String
  deriving DecidableEq, Repr

/-- `Field(min_length=low, max_length=high)` on a string, which has to be encodable as well. -/
def boundedText (field : String) (low high : ℕ) (value : Text) : Except Invalid Unit :=
  Except.raiseIf (charsWithin low high value = false) ⟨field,
    "String should have a length within its bounds"⟩

/-- `Field(min_length=low, max_length=high)` on a tuple. -/
def boundedItems {α : Type} (field : String) (low high : ℕ) (items : List α) :
    Except Invalid Unit :=
  Except.raiseIf (items.length < low ∨ high < items.length) ⟨field,
    "Tuple should have a length within its bounds"⟩

/-- `ChartKind` -/
inductive ChartKind where
  | line
  | bar
  | heatmap
  deriving DecidableEq, Repr

/-- `NumberFormat` -/
inductive NumberFormat where
  | decimal
  | percent
  | integer
  deriving DecidableEq, Repr

/-- `Unit` -/
inductive ValueUnit where
  | decimal
  | percent
  | price
  | currency
  | years
  | days
  | count
  | volatility
  | unitless
  deriving DecidableEq, Repr

/-- The value of the enumeration. -/
def ValueUnit.value : ValueUnit → String
  | .decimal => "decimal"
  | .percent => "percent"
  | .price => "price"
  | .currency => "currency"
  | .years => "years"
  | .days => "days"
  | .count => "count"
  | .volatility => "volatility"
  | .unitless => "unitless"

/-- `AxisSpec` -/
structure AxisSpec where
  label : Text
  unit : ValueUnit := .unitless
  numberFormat : NumberFormat := .decimal
  deriving DecidableEq

def AxisSpec.validate (axis : AxisSpec) : Except Invalid Unit :=
  boundedText "label" 1 120 axis.label

/-- `ChartSeries` -/
structure ChartSeries (K : Type) where
  key : Text
  label : Text
  values : List K

/-- `VisualizationSpec` -/
structure VisualizationSpec (K : Type) where
  schemaVersion : ℕ := 0
  id : Text
  kind : ChartKind
  title : Text
  altText : Text
  categories : List Text
  series : List (ChartSeries K)
  xAxis : AxisSpec
  yAxis : AxisSpec
  caption : Option Text := none
  assumptions : List Text := []
  warnings : List Text := []
  width : ℤ := 800
  height : ℤ := 440

section

variable {K : Type} (isFinite : K → Bool)

def ChartSeries.validate (series : ChartSeries K) : Except Invalid Unit := do
  boundedText "key" 1 64 series.key
  boundedText "label" 1 120 series.label
  Except.raiseIf (series.values = []) ⟨"values", "Tuple should have at least 1 item"⟩
  Except.raiseIf (isSafeId series.key = false) ⟨"key",
    "series key must match ^[a-z][a-z0-9_]\x7b0,63\x7d$"⟩
  Except.raiseIf (series.values.all isFinite = false) ⟨"values", "chart values must all be finite"⟩

/-- `validate_notes` with the limits of the field -/
def validateNotes (field : String) (notes : List Text) : Except Invalid Unit := do
  boundedItems field 0 20 notes
  Except.raiseIf (notes.any (fun note => !charsWithin 1 500 note))
    ⟨field, "visualization notes must contain 1 to 500 characters"⟩

/-- `_YEAR_MONTH.fullmatch(value)` for `^[0-9]{4}-(0[1-9]|1[0-2])$` -/
def isYearMonth (value : Text) : Bool := Validation.isCalendarMonth value

/-- The rules of heatmaps in `validate_alignment` -/
def validateHeatmap (spec : VisualizationSpec K) : Except Invalid Unit := do
  Except.raiseIf (spec.schemaVersion ≠ 1) ⟨"", "heatmaps require visualization schema version 1"⟩
  Except.raiseIf (spec.series.length ≠ 1) ⟨"", "heatmaps require exactly one series"⟩
  Except.raiseIf (spec.categories.all isYearMonth = false)
    ⟨"", "heatmap categories must use YYYY-MM calendar-month labels"⟩
  Except.raiseIf (¬ spec.categories.Nodup) ⟨"", "heatmap categories must be unique"⟩
  Except.raiseIf (spec.categories.mergeSort (fun a b => decide (a ≤ b)) ≠ spec.categories)
    ⟨"", "heatmap categories must be strictly increasing"⟩

/-- `validate_alignment` -/
def validateAlignment (spec : VisualizationSpec K) : Except Invalid Unit := do
  Except.raiseIf (spec.series.any (fun series => series.values.length ≠ spec.categories.length))
    ⟨"", "every chart series must align one-to-one with categories"⟩
  Except.raiseIf (¬ (spec.series.map ChartSeries.key).Nodup) ⟨"",
    "chart series keys must be unique"⟩
  if spec.kind = .heatmap then validateHeatmap spec
  else Except.raiseIf (spec.schemaVersion ≠ 0) ⟨"",
    "line and bar charts require visualization schema version 0"⟩

/-- The validation of `VisualizationSpec`, its parts first. -/
def VisualizationSpec.validate (spec : VisualizationSpec K) : Except Invalid Unit := do
  spec.xAxis.validate
  spec.yAxis.validate
  spec.series.forM (ChartSeries.validate isFinite)
  Except.raiseIf (1 < spec.schemaVersion) ⟨"schema_version", "Input should be 0 or 1"⟩
  boundedText "id" 1 64 spec.id
  boundedText "title" 1 160 spec.title
  boundedText "alt_text" 1 500 spec.altText
  Except.raiseIf (spec.categories = []) ⟨"categories", "Tuple should have at least 1 item"⟩
  boundedItems "series" 1 12 spec.series
  boundedText "caption" 0 500 (spec.caption.getD [])
  Except.raiseIf (spec.width < 640 ∨ 1600 < spec.width) ⟨"width",
    "Input should be within 640 to 1600"⟩
  Except.raiseIf (spec.height < 320 ∨ 1000 < spec.height) ⟨"height",
    "Input should be within 320 to 1000"⟩
  Except.raiseIf (isSafeId spec.id = false) ⟨"id",
    "visualization id must match ^[a-z][a-z0-9_]\x7b0,63\x7d$"⟩
  Except.raiseIf (spec.categories.any (fun value => !charsWithin 1 80 value))
    ⟨"categories", "chart category labels must contain 1 to 80 characters"⟩
  validateNotes "assumptions" spec.assumptions
  validateNotes "warnings" spec.warnings
  validateAlignment spec

end

/-! ## What the validation checks -/

/-- A valid series. -/
structure ChartSeries.Valid {K : Type} (isFinite : K → Bool) (series : ChartSeries K) : Prop where
  key : charsWithin 1 64 series.key = true ∧ isSafeId series.key = true
  label : charsWithin 1 120 series.label = true
  nonempty : series.values ≠ []
  finite : ∀ value ∈ series.values, isFinite value = true

/-- Valid notes. -/
structure ValidNotes (notes : List Text) : Prop where
  count : notes.length ≤ 20
  each : ∀ note ∈ notes, charsWithin 1 500 note = true

/-- The categories of a valid heatmap. -/
structure ValidHeatmap {K : Type} (spec : VisualizationSpec K) : Prop where
  version : spec.schemaVersion = 1
  single : spec.series.length = 1
  months : ∀ value ∈ spec.categories, isYearMonth value = true
  distinct : spec.categories.Nodup
  sorted : spec.categories.mergeSort (fun a b => decide (a ≤ b)) = spec.categories

/-- A valid specification. -/
structure VisualizationSpec.Valid {K : Type} (isFinite : K → Bool) (spec : VisualizationSpec K) :
    Prop where
  id : charsWithin 1 64 spec.id = true ∧ isSafeId spec.id = true
  title : charsWithin 1 160 spec.title = true
  altText : charsWithin 1 500 spec.altText = true
  xLabel : charsWithin 1 120 spec.xAxis.label = true
  yLabel : charsWithin 1 120 spec.yAxis.label = true
  caption : charsWithin 0 500 (spec.caption.getD []) = true
  categories : spec.categories ≠ []
  eachCategory : ∀ value ∈ spec.categories, charsWithin 1 80 value = true
  series : 1 ≤ spec.series.length ∧ spec.series.length ≤ 12
  eachSeries : ∀ series ∈ spec.series, series.Valid isFinite
  aligned : ∀ series ∈ spec.series, series.values.length = spec.categories.length
  keys : (spec.series.map ChartSeries.key).Nodup
  assumptions : ValidNotes spec.assumptions
  warnings : ValidNotes spec.warnings
  width : 640 ≤ spec.width ∧ spec.width ≤ 1600
  height : 320 ≤ spec.height ∧ spec.height ≤ 1000
  version : spec.schemaVersion ≤ 1
  kind : (spec.kind = .heatmap → ValidHeatmap spec) ∧
    (spec.kind ≠ .heatmap → spec.schemaVersion = 0)

section

variable {K : Type} {isFinite : K → Bool}

theorem boundedText_eq_ok {field : String} {low high : ℕ} {value : Text} {u : Unit} :
    boundedText field low high value = .ok u ↔ charsWithin low high value = true := by
  rw [boundedText, Except.raiseIf_eq_ok, Bool.not_eq_false]

theorem boundedItems_eq_ok {α : Type} {field : String} {low high : ℕ} {items : List α} {u : Unit} :
    boundedItems field low high items = .ok u ↔ low ≤ items.length ∧ items.length ≤ high := by
  rw [boundedItems, Except.raiseIf_eq_ok]
  omega

/-- Two checks in sequence. -/
theorem andThen_eq_ok {ε : Type} {x y : Except ε Unit} {u : Unit} :
    (do x; y) = .ok u ↔ x = .ok () ∧ y = .ok u := by
  cases x with
  | error e => exact ⟨nofun, fun h => nomatch h.1⟩
  | ok v => exact ⟨fun h => ⟨rfl, h⟩, fun h => h.2⟩

theorem ChartSeries.validate_eq_ok {series : ChartSeries K} {u : Unit} :
    series.validate isFinite = .ok u ↔ series.Valid isFinite := by
  unfold ChartSeries.validate
  simp only [andThen_eq_ok, boundedText_eq_ok, Except.raiseIf_eq_ok, Bool.not_eq_false,
    List.all_eq_true]
  constructor
  · rintro ⟨hLength, hLabel, hValues, hKey, hFinite⟩
    exact ⟨⟨hLength, hKey⟩, hLabel, hValues, hFinite⟩
  · rintro ⟨⟨hLength, hKey⟩, hLabel, hValues, hFinite⟩
    exact ⟨hLength, hLabel, hValues, hKey, hFinite⟩

theorem validateNotes_eq_ok {field : String} {notes : List Text} {u : Unit} :
    validateNotes field notes = .ok u ↔ ValidNotes notes := by
  unfold validateNotes
  simp only [andThen_eq_ok, boundedItems_eq_ok, Except.raiseIf_eq_ok, List.any_eq_true,
    Bool.not_eq_true', not_exists, not_and, Bool.not_eq_false]
  constructor
  · rintro ⟨⟨-, hCount⟩, hEach⟩
    exact ⟨hCount, hEach⟩
  · rintro ⟨hCount, hEach⟩
    exact ⟨⟨Nat.zero_le _, hCount⟩, hEach⟩

theorem validateHeatmap_eq_ok {spec : VisualizationSpec K} {u : Unit} :
    validateHeatmap spec = .ok u ↔ ValidHeatmap spec := by
  unfold validateHeatmap
  simp only [andThen_eq_ok, Except.raiseIf_eq_ok, Bool.not_eq_false, List.all_eq_true, not_not,
    ne_eq]
  constructor
  · rintro ⟨hVersion, hSingle, hMonths, hDistinct, hSorted⟩
    exact ⟨hVersion, hSingle, hMonths, hDistinct, hSorted⟩
  · rintro ⟨hVersion, hSingle, hMonths, hDistinct, hSorted⟩
    exact ⟨hVersion, hSingle, hMonths, hDistinct, hSorted⟩

/-- The last check, by the kind of the chart. -/
theorem validateKind_eq_ok {spec : VisualizationSpec K} {u : Unit} {message : Invalid} :
    (if spec.kind = .heatmap then validateHeatmap spec
      else Except.raiseIf (spec.schemaVersion ≠ 0) message) = .ok u ↔
      (spec.kind = .heatmap → ValidHeatmap spec) ∧
        (spec.kind ≠ .heatmap → spec.schemaVersion = 0) := by
  by_cases hKind : spec.kind = .heatmap
  · rw [if_pos hKind, validateHeatmap_eq_ok]
    exact ⟨fun h => ⟨fun _ => h, fun hNot => absurd hKind hNot⟩, fun h => h.1 hKind⟩
  · rw [if_neg hKind, Except.raiseIf_eq_ok, not_not]
    exact ⟨fun h => ⟨fun hHeatmap => absurd hHeatmap hKind, fun _ => h⟩, fun h => h.2 hKind⟩

/-- The validation accepts exactly the valid specifications. -/
theorem VisualizationSpec.validate_eq_ok {spec : VisualizationSpec K} {u : Unit} :
    spec.validate isFinite = .ok u ↔ spec.Valid isFinite := by
  unfold VisualizationSpec.validate validateAlignment AxisSpec.validate
  simp only [andThen_eq_ok, boundedText_eq_ok, boundedItems_eq_ok, Except.raiseIf_eq_ok,
    validateKind_eq_ok, validateNotes_eq_ok, Except.forM_eq_ok, ChartSeries.validate_eq_ok,
    Bool.not_eq_false, List.any_eq_true, Bool.not_eq_true', not_exists, not_and, not_not, ne_eq,
    not_or, not_lt, decide_eq_true_eq]
  constructor
  · rintro ⟨hX, hY, hSeries, hVersion, hId, hTitle, hAlt, hCategories, hCount, hCaption, hWidth,
      hHeight, hSafe, hEach, hAssumptions, hWarnings, hAligned, hKeys, hKind⟩
    exact ⟨⟨hId, hSafe⟩, hTitle, hAlt, hX, hY, hCaption, hCategories, hEach, hCount, hSeries,
      hAligned, hKeys, hAssumptions, hWarnings, hWidth, hHeight, hVersion, hKind⟩
  · rintro ⟨⟨hId, hSafe⟩, hTitle, hAlt, hX, hY, hCaption, hCategories, hEach, hCount, hSeries,
      hAligned, hKeys, hAssumptions, hWarnings, hWidth, hHeight, hVersion, hKind⟩
    exact ⟨hX, hY, hSeries, hVersion, hId, hTitle, hAlt, hCategories, hCount, hCaption, hWidth,
      hHeight, hSafe, hEach, hAssumptions, hWarnings, hAligned, hKeys, hKind⟩

end

end Visualization
