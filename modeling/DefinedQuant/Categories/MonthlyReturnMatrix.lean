import DefinedQuant.Categories.PriceSeries

/-!
# Monthly return matrices

The component `dq.market_data.monthly_return_matrix`: the rules of its contract, its calculation
over exact numbers and the validation of its output. On every input the rules have outcomes; where
no blocking rule fires, the months are consecutive, and the component gives one simple return for
each adjacent pair of prices, labelled with the month that its interval ends in, or refuses a return
that is not finite, `never_fails_late`.
-/

namespace MonthlyReturnMatrix

open Validation (Rule Fields Violation preflight comparison measureOf literal allOf field
    isCalendarMonth decimalValue)
open SeriesRules (Evaluates HoldsSeries NoneBlocks noneBlocks_cons tooFew nonFinite evaluates_tooFew
    evaluates_nonFinite
  resolve_count measures_count measures_has_duplicates measures_is_strictly_increasing allM_cons
    all_neighbours
  any_neighbours_eq_false IsPositive)
open Calculation
open PriceSeries
open ComponentOutput
open Visualization (VisualizationSpec Invalid)

/-! ## The contract -/

/-- `Inputs` -/
structure Inputs where
  prices : List Binary64
  months : List Text
  priceKind : PriceKind
  observationKind : Text
  /-- `min_length=1` -/
  prices_nonempty : prices ≠ []
  months_nonempty : months ≠ []
  length_le : prices.length ≤ maxsize

/-- `inputs.model_dump(mode="python")` -/
def modelDump (inputs : Inputs) : Fields :=
  [(py "prices", .seq .tuple (inputs.prices.map PyValue.float)),
    (py "months", .seq .tuple (inputs.months.map PyValue.str)),
    (py "price_kind", .str inputs.priceKind.text),
    (py "observation_kind", .str inputs.observationKind)]

def monthLengthMismatch : Rule where
  id := "month_length_mismatch"
  severity := .blocking
  condition := comparison (measureOf "months" "count") "ne" (measureOf "prices" "count")
  message := "month_length_mismatch: Month labels and prices must align one-to-one."

/-- `{"left": {"field": "months", "measure": ...}, "op": "eq", "right": {"value": ...}}` -/
def monthsMeasure (measure : String) (value : Bool) : PyValue :=
  comparison (measureOf "months" measure) "eq" (literal (.bool value))

def invalidMonthLabels : Rule where
  id := "invalid_month_labels"
  severity := .blocking
  condition := monthsMeasure "all_valid_calendar_month_labels" false
  message := "invalid_month_labels: Every month label must use the YYYY-MM format."

def duplicateMonths : Rule where
  id := "duplicate_months"
  severity := .blocking
  condition :=
    allOf [monthsMeasure "all_valid_calendar_month_labels" true,
      monthsMeasure "has_duplicates" true]
  message := "duplicate_months: Duplicate month labels are not accepted."

def nonIncreasingMonths : Rule where
  id := "non_increasing_months"
  severity := .blocking
  condition :=
    allOf [monthsMeasure "all_valid_calendar_month_labels" true,
      monthsMeasure "has_duplicates" false,
      monthsMeasure "is_strictly_increasing" false]
  message :=
    "non_increasing_months: Month labels must be strictly increasing; observations are never silently sorted."

def nonConsecutiveMonths : Rule where
  id := "non_consecutive_months"
  severity := .blocking
  condition :=
    allOf [monthsMeasure "all_valid_calendar_month_labels" true,
      monthsMeasure "has_duplicates" false,
      monthsMeasure "is_strictly_increasing" true,
      monthsMeasure "is_consecutive_calendar_months" false]
  message :=
    "non_consecutive_months: Completed month-end labels must be consecutive without missing months."

def unsupportedObservationKind : Rule where
  id := "unsupported_observation_kind"
  severity := .blocking
  condition :=
    comparison (field "observation_kind") "ne" (literal (Validation.text "completed_month_end"))
  message :=
    "unsupported_observation_kind: The caller must assert completed_month_end observations."

/-- `guidance.constraints` of the contract. -/
def constraints : List Rule :=
  [insufficientPrices "insufficient_prices: At least two completed month-end prices are required.",
    nonFinitePrices, nonPositivePrices, monthLengthMismatch, invalidMonthLabels, duplicateMonths,
    nonIncreasingMonths, nonConsecutiveMonths, unsupportedObservationKind,
    unadjustedPriceInterpretation
    "unadjusted_price_interpretation: Corporate-action breaks can distort monthly returns, and distributions are not reinvested."]

/-- `guidance.required_questions` of the contract. -/
def requiredQuestions : List (String × String × String) :=
  [("price_kind", "Are the supplied month-end prices adjusted or unadjusted?",
      "Corporate actions and distributions affect monthly-return interpretation."),
    ("observation_kind", "Can you assert that every observation is a completed month-end price?",
      "A partial current month must not be compared with completed calendar months.")]

/-- What is evaluated of `guidance` of the contract. -/
def guidance : List (Option Text × PyValue) := guidanceOf requiredQuestions constraints

/-! ## The calculation -/

/-- `FORMULA` -/
def formula : String := "r_m = (P_m − P_{m−1}) / P_{m−1}"

/-- `_blocking_error("invalid_month_labels", ...)` -/
def invalidLabel : Raised :=
  .domainError "invalid_month_labels"
    "invalid_month_labels: Every month label must use the YYYY-MM format."

/-- `_blocking_error("non_consecutive_months", ...)` -/
def notConsecutiveMonths : Raised :=
  .domainError "non_consecutive_months"
    "non_consecutive_months: Completed month-end labels must be consecutive without missing months."

/-- `_blocking_error("non_finite_result", ...)` -/
def nonFiniteResult : Raised :=
  .domainError "non_finite_result"
    "non_finite_result: A finite positive price pair produced an unrepresentable monthly return."

/-- `int(match.group("year")) * 12 + int(match.group("month")) - 1` -/
def ordinalOf (label : Text) : ℤ := decimalValue (label.take 4) * 12 + decimalValue (label.drop 5)
    - 1

/-- `_month_ordinal` -/
def monthOrdinal (label : Text) : Except Raised ℤ :=
  if isCalendarMonth label = true then .ok (ordinalOf label) else .error invalidLabel

/-- Some number is not the one after the number before it. -/
def skips (ordinals : List ℤ) : Bool :=
  (ordinals.zip ordinals.tail).any (fun p => decide (p.2 ≠ p.1 + 1))

/-- `(prices[index + 1] - prices[index]) / prices[index]` -/
def returnExpression (index : ℕ) : Text :=
  py "(prices[" ++ digits (index + 1) ++ py "] - prices[" ++ digits index ++ py "]) / prices[" ++
    digits index ++ py "]"

/-- `Output` -/
structure Output (K : Type) where
  monthlyReturns : List K
  returnMonths : List Text
  priceKind : PriceKind
  derivations : List (Derivation K)
  visualizations : List (VisualizationSpec K)
  assumptions : List Text
  warnings : List Text

section

variable {K : Type} [Field K] [LinearOrder K] (floats : Floats K)

/-- `_simple_return` -/
def simpleReturn (pair : K × K) : Except Raised K := do
  let value ← divide (pair.2 - pair.1) pair.1
  Except.raiseIf (floats.isFinite value = false ∨ value = -1) nonFiniteResult
  return value

omit [Field K] [LinearOrder K] in
/-- The derivation of a return. -/
def derivationOf (indexed : K × ℕ) : Derivation K where
  output := ⟨py "monthly_returns", indexed.2⟩
  inputs := [priceRef indexed.2, priceRef (indexed.2 + 1)]
  expression := returnExpression indexed.2
  value := indexed.1

/-- `max(440, min(1000, 180 + year_count * 36))` for the years of the labels -/
def chartHeight (months : List Text) : ℤ :=
  max 440 (min 1000 (180 + ((months.map (List.take 4)).dedup.length : ℤ) * 36))

/-- `_visualization` -/
def visualization (months : List Text) (returns : List K) (kind : PriceKind)
    (assumptions warnings : List Text) : Except Raised (VisualizationSpec K) := do
  let lowest ← smallest returns
  let highest ← largest returns
  let spec : VisualizationSpec K :=
    { schemaVersion := 1
      id := py "monthly_return_heatmap"
      kind := .heatmap
      title := py "Monthly simple-return heatmap"
      altText := py "Calendar heatmap of " ++ digits returns.length ++
        py " monthly simple returns from " ++ kind.text ++
        py " completed month-end prices, ranging from " ++ floats.sixDigits lowest ++ py " to " ++
        floats.sixDigits highest ++ py "."
      categories := months
      series :=
        [{ key := py "monthly_returns", label := py "Monthly simple returns", values := returns }]
      xAxis := { label := py "Calendar month" }
      yAxis := { label := py "Simple return", unit := .decimal, numberFormat := .percent }
      caption := some (py formula ++
        py ". Red is negative, green is positive, and the color scale is symmetric around zero.")
      assumptions := assumptions
      warnings := warnings
      height := chartHeight months }
  validated (spec.validate floats.isFinite)
  return spec

omit [Field K] [LinearOrder K] in
/-- The check of one derivation in `validate_complete_monthly_lineage`. -/
def validateDerivation (indexed : Derivation K × ℕ) : Except Invalid Unit := do
  let (derivation, index) := indexed
  Except.raiseIf (derivation.output ≠ ⟨py "monthly_returns", index⟩)
    ⟨"", "monthly return derivations must be ordered"⟩
  Except.raiseIf (derivation.inputs ≠ [priceRef index, priceRef (index + 1)])
    ⟨"", "monthly lineage must reference adjacent month-end prices"⟩
  Except.raiseIf (derivation.expression ≠ returnExpression index) ⟨"",
    "monthly return expression is not canonical"⟩

omit [Field K] [LinearOrder K] in
/-- `validate_complete_monthly_lineage` -/
def validateCompleteMonthlyLineage (output : Output K) : Except Invalid Unit := do
  Except.raiseIf (output.returnMonths.length ≠ output.monthlyReturns.length)
    ⟨"", "return months must align with monthly returns"⟩
  Except.raiseIf (output.returnMonths.all isCalendarMonth = false)
    ⟨"", "return months must use canonical YYYY-MM labels"⟩
  Except.raiseIf (skips (output.returnMonths.map ordinalOf) = true)
    ⟨"", "return months must be consecutive and strictly increasing"⟩
  Except.raiseIf (output.derivations.length ≠ output.monthlyReturns.length)
    ⟨"", "every monthly return must have one derivation"⟩
  output.derivations.zipIdx.forM validateDerivation

/-- `Output.model_fields` with their values -/
def Output.modelFields (output : Output K) : List (Text × FieldValue K) :=
  [(py "component_id", .other), (py "version", .other), (py "subject_hash", .other),
    (py "unit", .other), (py "assumptions", .items output.assumptions.length),
    (py "disclosures", .items 2), (py "warnings", .items output.warnings.length),
    (py "transformations", .items 2), (py "derivations", .items output.derivations.length),
    (py "visualizations", .items output.visualizations.length),
    (py "monthly_returns", .numbers output.monthlyReturns), (py "return_kind", .other),
    (py "return_months", .items output.returnMonths.length), (py "price_kind", .other),
    (py "observation_kind", .other), (py "gap_check", .other)]

/-- The validation of `Output`. -/
def Output.validate (output : Output K) : Except Invalid Unit := do
  Except.raiseIf (output.monthlyReturns = []) ⟨"monthly_returns",
    "Tuple should have at least 1 item"⟩
  Except.raiseIf (output.monthlyReturns.any (fun value => !floats.isFinite value || decide (value ≤
    -1)) = true)
    ⟨"monthly_returns", "Input should be a finite number greater than -1"⟩
  Except.raiseIf (output.returnMonths = []) ⟨"return_months", "Tuple should have at least 1 item"⟩
  Except.raiseIf (output.returnMonths.all isCalendarMonth = false) ⟨"return_months",
    "String should match pattern"⟩
  Except.raiseIf (output.derivations = []) ⟨"derivations", "Tuple should have at least 1 item"⟩
  validateMessages "assumptions" output.assumptions
  validateMessages "warnings" output.warnings
  validateDerivationTargets output.modelFields output.derivations
  validateCompleteMonthlyLineage output

/-- `assumptions` of an output -/
def assumptionsOf (kind : PriceKind) : List Text :=
  [py "Each price is caller-asserted to be the completed month-end observation for its label.",
    py "All observations refer to one instrument in a consistent price unit.",
    py "Price semantics are caller-declared as " ++ kind.text ++ py "."]

/-- The output of the returns and a chart. -/
def outputOf (inputs : Inputs) (warnings : List Text) (returns : List K)
    (visualization : VisualizationSpec K) : Output K where
  monthlyReturns := returns
  returnMonths := inputs.months.tail
  priceKind := inputs.priceKind
  derivations := returns.zipIdx.map derivationOf
  visualizations := [visualization]
  assumptions := assumptionsOf inputs.priceKind
  warnings := warnings

/-- What `monthly_return_matrix` makes of the returns. -/
def assemble (inputs : Inputs) (warnings : List Text) (returns : List K) :
    Except Raised (Output K) := do
  validated ((returns.zipIdx.map derivationOf).forM (Derivation.validate floats.isFinite))
  let visualization ← visualization floats inputs.months.tail returns inputs.priceKind
    (assumptionsOf inputs.priceKind) warnings
  let output := outputOf inputs warnings returns visualization
  validated (output.validate floats)
  return output

/-- `monthly_return_matrix`, on validated inputs -/
def monthlyReturnMatrix (stdev : List Binary64 → Except Text Binary64) (inputs : Inputs) :
    Except Raised (Output K) := do
  let violations ← (preflight stdev (.mapping guidance) (modelDump inputs)).mapError
    Raised.preflight
  let ordinals ← inputs.months.mapM monthOrdinal
  Except.raiseIf (skips ordinals = true) notConsecutiveMonths
  let prices ← exactPrices inputs.prices
  let returns ← (prices.zip prices.tail).mapM (simpleReturn floats)
  assemble floats inputs (violations.map Violation.message) returns

end

/-! ## The rules -/

/-- Some label stands in two places. -/
def repeats (months : List Text) : Bool := Validation.hasDuplicatesFrom [] (months.map PyValue.str)

def increases (months : List Text) : Bool :=
  (months.zip months.tail).all (fun p => decide (p.1 < p.2))

/-- All labels are months, each the one after the month before it. -/
def follow (months : List Text) : Bool :=
  months.all isCalendarMonth && !skips (months.map ordinalOf)

/-- What every rule of the contract says about the inputs, in the order of the rules. -/
def outcomes (inputs : Inputs) : List Bool :=
  [decide ((inputs.prices.length : ℤ) < 2),
    !inputs.prices.all Binary64.isFinite,
    decide (0 < (inputs.prices.length : ℤ)) && (inputs.prices.all Binary64.isFinite
    && someNotPositive inputs.prices),
    decide (inputs.months.length ≠ inputs.prices.length),
    inputs.months.all isCalendarMonth == false,
    inputs.months.all isCalendarMonth == true && repeats inputs.months == true,
    inputs.months.all isCalendarMonth == true &&
      (repeats inputs.months == false && increases inputs.months == false),
    inputs.months.all isCalendarMonth == true &&
      (repeats inputs.months == false &&
        (increases inputs.months == true && follow inputs.months == false)),
    decide (inputs.observationKind ≠ py "completed_month_end"),
    decide (inputs.priceKind = .unadjusted)]

section

variable {stdev : List Binary64 → Except Text Binary64} (inputs : Inputs)

/-- The dump holds the prices under their name. -/
theorem holdsSeries : HoldsSeries (modelDump inputs) "prices" inputs.prices := by
  simp [HoldsSeries, modelDump]

/-- The dump holds the labels of the months. -/
theorem lookup_months :
    (modelDump inputs).lookup (py "months") = some (.seq .tuple (inputs.months.map PyValue.str)) :=
      by
  simp [modelDump, List.lookup_cons, Validation.py_beq]

/-- The dump holds the kind of the prices. -/
theorem holdsKind : HoldsKind (modelDump inputs) inputs.priceKind := by
  simp [HoldsKind, modelDump, List.lookup_cons, Validation.py_beq]

/-- The dump holds the kind of the observations. -/
theorem lookup_observation_kind :
    (modelDump inputs).lookup (py "observation_kind") = some (.str inputs.observationKind) := by
  simp [modelDump, List.lookup_cons, Validation.py_beq]

/-- The measure registered for valid labels. -/
theorem measures_all_valid :
    (Validation.measures stdev).lookup (py "all_valid_calendar_month_labels") =
    some Validation.measureAllValidCalendarMonthLabels := by
  simp [Validation.measures, List.lookup_cons, Validation.py_beq]

/-- The measure registered for consecutive months. -/
theorem measures_is_consecutive :
    (Validation.measures stdev).lookup (py "is_consecutive_calendar_months") =
    some Validation.measureIsConsecutiveCalendarMonths := by
  simp [Validation.measures, List.lookup_cons, Validation.py_beq]

omit inputs in
/-- The evaluator and the component agree on what a label is. -/
theorem all_isMonthLabel (months : List Text) :
    (months.map PyValue.str).all Validation.isMonthLabel = months.all isCalendarMonth := by
  rw [List.all_map]
  rfl

omit inputs in
/-- The measure of valid labels on a list of texts. -/
theorem measureAllValid_strs (kind : Json.SeqKind) (months : List Text) :
    Validation.measureAllValidCalendarMonthLabels (.seq kind (months.map PyValue.str)) =
      .ok (.bool (months.all isCalendarMonth)) := by
  rw [← all_isMonthLabel]
  rfl

omit inputs in
/-- Texts are compared by their code points, so that they always compare. -/
theorem strictlyIncreasing_strs (pairs : List (Text × Text)) :
    Validation.strictlyIncreasing (pairs.map (fun p => (.str p.1, .str p.2))) =
      some (pairs.all (fun p => decide (p.1 < p.2))) := by
  induction pairs with
  | nil => rfl
  | cons p pairs ih =>
      by_cases h : p.1 < p.2
      · simp [Validation.strictlyIncreasing, PyValue.order, PyValue.OrderOp.holds, h, ih]
      · simp [Validation.strictlyIncreasing, PyValue.order, PyValue.OrderOp.holds, h]

omit inputs in
/-- The measure of the order on a list of texts. -/
theorem measureIsStrictlyIncreasing_strs (kind : Json.SeqKind) (months : List Text) :
    Validation.measureIsStrictlyIncreasing (.seq kind (months.map PyValue.str)) =
      .ok (.bool (increases months)) := by
  have hPairs : (months.map PyValue.str).zip (months.map PyValue.str).tail =
      (months.zip months.tail).map (fun p => (.str p.1, .str p.2)) := by
    rw [← List.map_tail, List.zip_map]
    rfl
  simp [Validation.measureIsStrictlyIncreasing, Validation.sequence, hPairs,
    strictlyIncreasing_strs, Validation.orRefuse, increases, bind, Except.bind, pure, Except.pure]

omit inputs in
/-- The measure of consecutive months on a list of texts. -/
theorem measureIsConsecutive_strs (kind : Json.SeqKind) (months : List Text) :
    Validation.measureIsConsecutiveCalendarMonths (.seq kind (months.map PyValue.str)) =
      .ok (.bool (follow months)) := by
  have hOrdinals : (months.map PyValue.str).filterMap Validation.monthOrdinal =
    months.map ordinalOf := by
    rw [List.filterMap_map, ← List.filterMap_eq_map]
    rfl
  have hNeighbours : ((months.map ordinalOf).zip (months.map ordinalOf).tail).all
    (fun p => decide (p.2 = p.1 + 1)) =
      !skips (months.map ordinalOf) := by
    rw [skips, List.not_any_eq_all_not]
    simp
  unfold Validation.measureIsConsecutiveCalendarMonths
  rw [Validation.sequence]
  simp only [bind, Except.bind, all_isMonthLabel, hOrdinals, hNeighbours, follow]
  split_ifs with h
  · rw [h]
    rfl
  · rw [Bool.not_eq_true] at h
    rw [h]
    rfl

/-- A comparison of a measure of the months that is true or false. -/
theorem evaluates_monthsMeasure {measure : String}
    {apply : PyValue → Except Validation.Raised PyValue} {answer : Bool}
    (levels : ℕ) (value : Bool) (hMeasure : (Validation.measures stdev).lookup (py measure) =
      some apply)
    (hApply : apply (.seq .tuple (inputs.months.map PyValue.str)) = .ok (.bool answer)) :
    Validation.evaluateExpression stdev (modelDump inputs) (levels + 1)
      (monthsMeasure measure value) =
      .ok (answer == value) := by
  have hLeft := (Validation.resolveOperand_measureOf (lookup_months inputs) hMeasure).trans hApply
  refine (Validation.evaluateExpression_comparison levels hLeft
    (Validation.resolveOperand_literal _)).trans ?_
  rw [Validation.compare_eq, PyValue.equal_bool]

/-- The outcome of the comparison on valid labels. -/
theorem evaluates_valid (levels : ℕ) (value : Bool) :
    Validation.evaluateExpression stdev (modelDump inputs) (levels + 1)
      (monthsMeasure "all_valid_calendar_month_labels" value) =
        .ok (inputs.months.all isCalendarMonth == value) :=
  evaluates_monthsMeasure inputs levels value measures_all_valid (measureAllValid_strs .tuple _)

/-- The outcome of the comparison on duplicates. -/
theorem evaluates_repeats (levels : ℕ) (value : Bool) :
    Validation.evaluateExpression stdev (modelDump inputs) (levels + 1)
      (monthsMeasure "has_duplicates" value) =
      .ok (repeats inputs.months == value) :=
  evaluates_monthsMeasure inputs levels value measures_has_duplicates rfl

/-- The outcome of the comparison on the order. -/
theorem evaluates_increases (levels : ℕ) (value : Bool) :
    Validation.evaluateExpression stdev (modelDump inputs) (levels + 1)
      (monthsMeasure "is_strictly_increasing" value) =
      .ok (increases inputs.months == value) :=
  evaluates_monthsMeasure inputs levels value measures_is_strictly_increasing
    (measureIsStrictlyIncreasing_strs .tuple _)

/-- The outcome of the comparison on consecutive months. -/
theorem evaluates_follow (levels : ℕ) (value : Bool) :
    Validation.evaluateExpression stdev (modelDump inputs) (levels + 1)
      (monthsMeasure "is_consecutive_calendar_months" value) =
        .ok (follow inputs.months == value) :=
  evaluates_monthsMeasure inputs levels value measures_is_consecutive
    (measureIsConsecutive_strs .tuple _)

/-- The rule on the number of labels holds exactly when it differs from that of the prices. -/
theorem evaluates_monthLengthMismatch :
    Validation.evaluateExpression stdev (modelDump inputs) Validation.maxExpressionDepth
      monthLengthMismatch.condition =
      .ok (decide (inputs.months.length ≠ inputs.prices.length)) := by
  have hCount : Validation.resolveOperand stdev (modelDump inputs) (measureOf "months" "count") =
      .ok (.int inputs.months.length) := by
    rw [Validation.resolveOperand_measureOf (lookup_months inputs) measures_count]
    simp [Validation.measureCount]
  refine (Validation.evaluateExpression_comparison 2 hCount
    (resolve_count (holdsSeries inputs))).trans ?_
  simp [Validation.compare_ne]

/-- The rule on duplicates asks for valid labels first. -/
theorem evaluates_duplicateMonths :
    Validation.evaluateExpression stdev (modelDump inputs) Validation.maxExpressionDepth
      duplicateMonths.condition =
      .ok (inputs.months.all isCalendarMonth == true && repeats inputs.months == true) :=
  (Validation.evaluateExpression_allOf 2 _ _).trans
    (Validation.allM_pair (evaluates_valid inputs 1 true) (fun _ => evaluates_repeats inputs 1
      true))

/-- The rule on the order asks for valid labels without duplicates first. -/
theorem evaluates_nonIncreasingMonths :
    Validation.evaluateExpression stdev (modelDump inputs) Validation.maxExpressionDepth
      nonIncreasingMonths.condition =
      .ok (inputs.months.all isCalendarMonth == true && (repeats inputs.months == false &&
        increases inputs.months == false)) :=
  (Validation.evaluateExpression_allOf 2 _ _).trans
    (allM_cons (evaluates_valid inputs 1 true) (fun _ =>
      Validation.allM_pair (evaluates_repeats inputs 1 false) (fun _ => evaluates_increases inputs 1
        false)))

/-- The rule on gaps asks for valid labels in their order first. -/
theorem evaluates_nonConsecutiveMonths :
    Validation.evaluateExpression stdev (modelDump inputs) Validation.maxExpressionDepth
      nonConsecutiveMonths.condition =
      .ok (inputs.months.all isCalendarMonth == true && (repeats inputs.months == false &&
        (increases inputs.months == true && follow inputs.months == false))) :=
  (Validation.evaluateExpression_allOf 2 _ _).trans
    (allM_cons (evaluates_valid inputs 1 true)
      (fun _ => allM_cons (evaluates_repeats inputs 1 false) (fun _ =>
      Validation.allM_pair (evaluates_increases inputs 1 true)
        (fun _ => evaluates_follow inputs 1 false))))

/-- The rule on the kind of the observations. -/
theorem evaluates_unsupportedObservationKind :
    Validation.evaluateExpression stdev (modelDump inputs) Validation.maxExpressionDepth
      unsupportedObservationKind.condition =
        .ok (decide (inputs.observationKind ≠ py "completed_month_end")) := by
  refine (Validation.evaluateExpression_comparison 2
    (Validation.resolveOperand_field (lookup_observation_kind inputs))
    (Validation.resolveOperand_literal _)).trans ?_
  simp [Validation.compare_ne, Validation.text]

/-- Every rule of the contract has an outcome on every input. -/
theorem outcomes_of_constraints : Outcomes stdev (modelDump inputs)
    constraints (outcomes inputs) where
  spelled := by decide
  distinct := by decide
  evaluates :=
    .cons (evaluates_tooFew (holdsSeries inputs) _ _)
      (.cons (evaluates_nonFinite (holdsSeries inputs) _ _)
      (.cons (evaluates_nonPositivePrices (holdsSeries inputs))
      (.cons (evaluates_monthLengthMismatch inputs)
      (.cons (evaluates_valid inputs 2 false)
      (.cons (evaluates_duplicateMonths inputs)
      (.cons (evaluates_nonIncreasingMonths inputs)
      (.cons (evaluates_nonConsecutiveMonths inputs)
      (.cons (evaluates_unsupportedObservationKind inputs)
      (.cons (evaluates_unadjusted (holdsKind inputs) _) .nil)))))))))

variable {inputs}

/-- What the rules leave of inputs. -/
structure Inputs.Guarded (inputs : Inputs) : Prop where
  two : 2 ≤ inputs.prices.length
  positive : ∀ x ∈ inputs.prices, IsPositive x
  aligned : inputs.months.length = inputs.prices.length
  months : ∀ month ∈ inputs.months, isCalendarMonth month = true
  increasing : inputs.months.IsChain (· < ·)
  consecutive : (inputs.months.map ordinalOf).IsChain (fun a b => b = a + 1)

/-- Where no blocking rule fires, there are two positive prices, and the months are consecutive. -/
theorem guarded_of_outcomes (h : NoneBlocks constraints (outcomes inputs)) : inputs.Guarded := by
  simp only [constraints, outcomes, noneBlocks_cons, insufficientPrices, tooFew, nonFinitePrices,
    nonFinite, nonPositivePrices, monthLengthMismatch, invalidMonthLabels, duplicateMonths,
    nonIncreasingMonths, nonConsecutiveMonths, unsupportedObservationKind, ne_eq, not_true_eq_false,
    imp_false, Bool.not_eq_true] at h
  obtain ⟨hCount, hFinite, hPositive, hLength, hValid, hRepeats, hIncreases, hFollow, -⟩ := h
  have hTwo : 2 ≤ inputs.prices.length := by
    have hNot := of_decide_eq_false hCount
    omega
  have hAllFinite : inputs.prices.all Binary64.isFinite = true := by simpa using hFinite
  have hMonths : inputs.months.all isCalendarMonth = true := by simpa using hValid
  have hDistinct : repeats inputs.months = false := by simpa [hMonths] using hRepeats
  have hChain : increases inputs.months = true := by simpa [hMonths, hDistinct] using hIncreases
  have hConsecutive : follow inputs.months = true := by simpa [hMonths, hDistinct,
    hChain] using hFollow
  refine ⟨hTwo, positive_of_not_fires hAllFinite ?_, by simpa using hLength,
    List.all_eq_true.1 hMonths, all_neighbours.1 hChain, ?_⟩
  · have hSome : 0 < inputs.prices.length := by omega
    simpa [hSome, hAllFinite] using hPositive
  · have hSkips : skips (inputs.months.map ordinalOf) = false := by
      simpa [follow, hMonths] using hConsecutive
    exact (any_neighbours_eq_false (R := fun a b => b ≠ a + 1).1 hSkips).imp
      (fun _ _ h => not_not.1 h)

end

/-! ## The returns -/

section

variable {K : Type} [Field K] [LinearOrder K] [IsStrictOrderedRing K] {floats : Floats K}

/-- The returns of prices, each at the index of the earlier price. -/
def AreReturns (floats : Floats K) (prices returns : List K) : Prop :=
  returns.length = prices.length - 1 ∧ ∀ i value, returns[i]? = some value → ∃ previous current,
    prices[i]? = some previous ∧ prices[i + 1]? = some current ∧
    value = (current - previous) / previous ∧
      -1 < value ∧ floats.isFinite value = true

/-- A pair of positive prices has a return above -1, unless the return is not finite. -/
theorem answers_simpleReturn {pair : K × K} (hPrevious : 0 < pair.1) (hCurrent : 0 < pair.2) :
    Answers nonFiniteResult (fun value => value = (pair.2 - pair.1) / pair.1 ∧ -1 < value ∧
      floats.isFinite value = true)
      (simpleReturn floats pair) := by
  have hAbove : -1 < (pair.2 - pair.1) / pair.1 := by
    rw [lt_div_iff₀ hPrevious]
    linarith
  apply Answers.of_ok (divide_of_ne_zero hPrevious.ne')
  apply Answers.raiseIf
  intro hKeep
  rw [not_or, Bool.not_eq_false] at hKeep
  exact .ok ⟨rfl, hAbove, hKeep.1⟩

/-- On positive prices the loop gives the simple returns, or refuses a value that is not finite. -/
theorem answers_returns {prices : List K} (hPositive : ∀ p ∈ prices, 0 < p) :
    Answers nonFiniteResult (AreReturns floats prices) ((prices.zip prices.tail).mapM
      (simpleReturn floats)) := by
  have hEach : ∀ pair ∈ prices.zip prices.tail, Answers nonFiniteResult (fun value =>
      value = (pair.2 - pair.1) / pair.1 ∧ -1 < value ∧ floats.isFinite value = true)
        (simpleReturn floats pair) := by
    intro pair hPair
    obtain ⟨hPrevious, hCurrent⟩ := List.of_mem_zip hPair
    exact answers_simpleReturn (hPositive _ hPrevious) (hPositive _ (List.mem_of_mem_tail hCurrent))
  refine (Answers.mapM hEach).imp (fun returns h => ⟨?_, fun i value hValue => ?_⟩)
  · rw [← h.length_eq, List.length_zip, List.length_tail]
    omega
  · obtain ⟨⟨previous, current⟩, hPair, hIs⟩ := exists_partner h hValue
    rw [List.getElem?_zip_eq_some, List.getElem?_tail] at hPair
    exact ⟨previous, current, hPair.1, hPair.2, hIs⟩

omit [IsStrictOrderedRing K] in
/-- The returns that were checked are finite. -/
theorem AreReturns.finite {prices returns : List K} (h : AreReturns floats prices returns) :
    ∀ value ∈ returns, floats.isFinite value = true := by
  intro value hValue
  obtain ⟨i, hi⟩ := List.mem_iff_getElem?.1 hValue
  obtain ⟨previous, current, -, -, -, -, hFinite⟩ := h.2 i value hi
  exact hFinite

omit [Field K] [LinearOrder K] [IsStrictOrderedRing K] in
/-- The derivation of a finite return is valid. -/
theorem valid_derivationOf {indexed : K × ℕ} (hFinite : floats.isFinite indexed.1 = true)
    (hIndex : indexed.2 + 1 ≤ maxsize) : (derivationOf indexed).Valid floats.isFinite := by
  have hNext := sized_digits hIndex
  have hThis := sized_digits (n := indexed.2) (by omega)
  have hNote : IsNote (returnExpression indexed.2) := by
    refine isNote_of_sized ?_
      ((((((sized_py _).append hNext).append (sized_py _)).append hThis).append
      (sized_py _)).append hThis |>.append (sized_py _)) (by decide)
    simp [returnExpression, isBlank_append, (by decide : isBlank (py "(prices[") = false)]
  refine ⟨⟨(by decide : Protocol.isSafeId (py "monthly_returns") = true), Int.natCast_nonneg _⟩, ?_,
    List.cons_ne_nil _ _, hNote.within, hNote.notBlank, hFinite, ?_⟩
  · show ∀ item ∈ [priceRef indexed.2, priceRef (indexed.2 + 1)], _
    rw [List.forall_mem_cons, List.forall_mem_singleton]
    exact ⟨validRef_priceRef _, validRef_priceRef _⟩
  · simp [derivationOf, priceRef]

/-! ## The chart -/

omit [Field K] [LinearOrder K] [IsStrictOrderedRing K] in
/-- The label of a month fits the chart. -/
theorem charsWithin_month {month : Text} (h : isCalendarMonth month = true) :
    Protocol.charsWithin 1 80 month = true := by
  unfold isCalendarMonth at h
  split at h
  · rename_i a b c d hyphen m n
    simp only [Bool.and_eq_true, Bool.or_eq_true, decide_eq_true_eq, List.all_cons, List.all_nil,
      Validation.isDigit, and_true] at h
    obtain ⟨⟨⟨ha, hb, hc, hd⟩, hHyphen⟩, hMonth⟩ := h
    refine Sized.charsWithin (a := 7) (b := 7) ⟨?_, le_rfl, le_rfl⟩ (by decide) (by decide)
    intro x hx
    -- every character is below the surrogates
    have hLow : x.val < 0xD800 := by
      simp only [List.mem_cons, List.not_mem_nil, or_false] at hx
      rcases hx with rfl | rfl | rfl | rfl | rfl | rfl | rfl
      all_goals omega
    rintro ⟨hSurrogate, -⟩
    omega
  · cases h

omit [Field K] [LinearOrder K] [IsStrictOrderedRing K] in
/-- Months in order are valid categories of a heatmap. -/
theorem sorted_of_isChain {months : List Text} (h : months.IsChain (· < ·)) :
    months.Nodup ∧ months.mergeSort (fun a b => decide (a ≤ b)) = months := by
  have hPairwise : months.Pairwise (· < ·) := List.isChain_iff_pairwise.1 h
  exact ⟨hPairwise.imp ne_of_lt,
    List.mergeSort_of_pairwise (hPairwise.imp (fun hLess => decide_eq_true hLess.le))⟩

omit [Field K] [IsStrictOrderedRing K] in
/-- The chart of finite returns is valid. -/
theorem visualization_eq_ok {months : List Text} {returns : List K} (kind : PriceKind)
    {assumptions warnings : List Text}
    (hReturns : returns ≠ []) (hFinite : ∀ value ∈ returns, floats.isFinite value = true)
    (hAligned : months.length = returns.length) (hCount : returns.length ≤ maxsize)
    (hMonths : ∀ month ∈ months, isCalendarMonth month = true)
    (hIncreasing : months.IsChain (· < ·)) (hAssumptions : Visualization.ValidNotes assumptions)
    (hWarnings : Visualization.ValidNotes warnings) :
    ∃ spec, visualization floats months returns kind assumptions warnings = .ok spec ∧
      spec.categories = months := by
  obtain ⟨lowest, hLowest⟩ := exists_smallest hReturns
  obtain ⟨highest, hHighest⟩ := exists_largest hReturns
  obtain ⟨hDistinct, hSorted⟩ := sorted_of_isChain hIncreasing
  refine ⟨_, Except.bind_eq_ok.2 ⟨_, hLowest, Except.bind_eq_ok.2 ⟨_, hHighest,
    Except.bind_eq_ok.2 ⟨(), validated_eq_ok.2 (VisualizationSpec.validate_eq_ok.2 ?_), rfl⟩⟩⟩, rfl⟩
  -- One goal for each check of the specification; a heat map also asks for increasing labels of
  -- months.
  constructor
  all_goals dsimp only
  case id => decide
  case title => decide
  case altText =>
    exact ((((((((sized_literal _ (by decide)).append (sized_digits hCount)).append
      (sized_py _)).append
      (sized_priceKind _)).append (sized_py _)).append (sized_sixDigits floats _)).append
        (sized_py _)).append
      (sized_sixDigits floats _) |>.append (sized_py _)).charsWithin (by decide) (by decide)
  case xLabel => decide
  case yLabel => decide
  case caption => exact ((sized_py _).append (sized_py _)).charsWithin (Nat.zero_le _) (by decide)
  case categories =>
    rw [← List.length_pos_iff, hAligned]
    exact List.length_pos_iff.2 hReturns
  case eachCategory => exact fun month hMonth => charsWithin_month (hMonths month hMonth)
  case series => exact ⟨le_rfl, (by decide : 1 ≤ 12)⟩
  case eachSeries =>
    rw [List.forall_mem_singleton]
    exact ⟨(by decide : Protocol.charsWithin 1 64 (py "monthly_returns") = true ∧
        Protocol.isSafeId (py "monthly_returns") = true),
      (by decide : Protocol.charsWithin 1 120 (py "Monthly simple returns") = true), hReturns,
      hFinite⟩
  case aligned =>
    rw [List.forall_mem_singleton]
    exact hAligned.symm
  case keys => exact List.nodup_singleton _
  case assumptions => exact hAssumptions
  case warnings => exact hWarnings
  case width => decide
  case height =>
    unfold chartHeight
    omega
  case version => decide
  case kind => exact ⟨fun _ => ⟨rfl, rfl, hMonths, hDistinct, hSorted⟩, fun hNot => absurd rfl hNot⟩

/-! ## The output -/

omit [Field K] [LinearOrder K] [IsStrictOrderedRing K] in
/-- Every assumption stands as a note. -/
theorem isNote_assumptionsOf (kind : PriceKind) : ∀ note ∈ assumptionsOf kind, IsNote note := by
  rw [assumptionsOf, List.forall_mem_cons, List.forall_mem_cons, List.forall_mem_singleton]
  refine ⟨isNote_py (by decide) (by decide), isNote_py (by decide) (by decide), ?_⟩
  refine isNote_of_sized ?_ (((sized_py _).append (sized_priceKind kind)).append (sized_py _))
    (by decide)
  simp [isBlank_append, (by decide : isBlank (py "Price semantics are caller-declared as ") =
    false)]

/-- What the component says of the prices: one return for each adjacent pair, in their order. -/
structure Returns (inputs : Inputs) (prices : List K) (output : Output K) : Prop where
  numbers : List.Forall₂ (fun x r => exact x = .ok r) inputs.prices prices
  count : output.monthlyReturns.length + 1 = prices.length
  lineage : output.derivations.length = output.monthlyReturns.length
  /-- The return at `i` is calculated from the prices `i` and `i + 1`, which its derivation names. -/
  each : ∀ i < output.monthlyReturns.length, ∃ previous current value,
    prices[i]? = some previous ∧ prices[i + 1]? = some current ∧ output.monthlyReturns[i]? =
    some value ∧
      output.derivations[i]? = some (derivationOf (value, i)) ∧
        value = (current - previous) / previous
  /-- The return at `i` is labelled with the month of the price `i + 1`. -/
  labels : ∃ chart, output.visualizations = [chart] ∧ chart.categories = output.returnMonths ∧
    output.returnMonths.length = output.monthlyReturns.length ∧
    ∀ i : ℕ, output.returnMonths[i]? = inputs.months[i + 1]?
  accepted : validateCompleteMonthlyLineage output = .ok () ∧
    validateDerivationTargets output.modelFields output.derivations = .ok ()

section

variable (inputs : Inputs) {prices : List K} (returns : List K) (warnings : List Text)
    (chart : VisualizationSpec K)

omit [Field K] [IsStrictOrderedRing K] in
/-- Every derivation points at its return. -/
theorem targets_outputOf :
    validateDerivationTargets (outputOf inputs warnings returns chart).modelFields
    (returns.zipIdx.map derivationOf) = .ok () := by
  have hField : (outputOf inputs warnings returns chart).modelFields.lookup (py "monthly_returns") =
      some (.numbers returns) := by
    simp [Output.modelFields, outputOf, List.lookup_cons, Validation.py_beq]
  apply validateDerivationTargets_of_targets
  · apply nodup_outputs
    intro i d hd
    obtain ⟨value, -, rfl⟩ := getElem?_map_zipIdx hd
    rfl
  · intro d hd
    obtain ⟨i, hi⟩ := List.mem_iff_getElem?.1 hd
    obtain ⟨value, hValue, rfl⟩ := getElem?_map_zipIdx hi
    exact .numbers hField rfl hValue

omit [Field K] [LinearOrder K] [IsStrictOrderedRing K] in
/-- The lineage of the returns is accepted. -/
theorem lineage_outputOf (hGuarded : inputs.Guarded)
    (hLength : returns.length = inputs.prices.length - 1) :
    validateCompleteMonthlyLineage (outputOf inputs warnings returns chart) = .ok () := by
  have hAligned : ¬ inputs.months.tail.length ≠ returns.length := by
    rw [List.length_tail, hGuarded.aligned, hLength]
    exact not_not.2 rfl
  have hMonths : ¬ inputs.months.tail.all isCalendarMonth = false := by
    rw [List.all_eq_true.2 (fun month hMonth => hGuarded.months month
      (List.mem_of_mem_tail hMonth))]
    decide
  have hSkips : ¬ skips (inputs.months.tail.map ordinalOf) = true := by
    have hChain : (inputs.months.tail.map ordinalOf).IsChain (fun a b => b = a + 1) := by
      rw [List.map_tail]
      exact hGuarded.consecutive.tail
    rw [Bool.not_eq_true]
    exact any_neighbours_eq_false.2 (hChain.imp (fun _ _ h => not_not.2 h))
  have hCount : ¬ (returns.zipIdx.map derivationOf).length ≠ returns.length := by
    rw [List.length_map, List.length_zipIdx]
    exact not_not.2 rfl
  refine Visualization.andThen_eq_ok.2 ⟨Except.raiseIf_eq_ok.2 hAligned,
    Visualization.andThen_eq_ok.2
    ⟨Except.raiseIf_eq_ok.2 hMonths, Visualization.andThen_eq_ok.2 ⟨Except.raiseIf_eq_ok.2 hSkips,
    Visualization.andThen_eq_ok.2 ⟨Except.raiseIf_eq_ok.2 hCount, Except.forM_eq_ok.2 ?_⟩⟩⟩⟩
  rintro ⟨d, i⟩ hp
  have hAt : (returns.zipIdx.map derivationOf)[i]? = some d := List.mem_zipIdx_iff_getElem?.1 hp
  obtain ⟨value, -, rfl⟩ := getElem?_map_zipIdx hAt
  exact Visualization.andThen_eq_ok.2 ⟨Except.raiseIf_eq_ok.2 (not_not.2 rfl),
    Visualization.andThen_eq_ok.2
    ⟨Except.raiseIf_eq_ok.2 (not_not.2 rfl), Except.raiseIf_eq_ok.2 (not_not.2 rfl)⟩⟩

variable {inputs returns warnings}

omit [IsStrictOrderedRing K] in
/-- The output of the returns of two or more positive prices is accepted. -/
theorem assemble_eq_ok (hGuarded : inputs.Guarded)
    (hNumbers : exactPrices inputs.prices = .ok prices)
    (hWarnings : warnings.length ≤ 20) (hNotes : ∀ note ∈ warnings, IsNote note)
    (h : AreReturns floats prices returns) :
    ∃ output, assemble floats inputs warnings returns = .ok output ∧
      Returns inputs prices output := by
  have hCount : prices.length = inputs.prices.length := (forall₂_exact hNumbers).length_eq.symm
  have hLength : returns.length = inputs.prices.length - 1 := by rw [h.1, hCount]
  have hMax := inputs.length_le
  have hTwo := hGuarded.two
  have hReturns : returns ≠ [] := by
    rw [← List.length_pos_iff, hLength]
    omega
  have hAligned : inputs.months.tail.length = returns.length := by
    rw [List.length_tail, hGuarded.aligned, hLength]
  have hMonths : ∀ month ∈ inputs.months.tail, isCalendarMonth month = true :=
    fun month hMonth => hGuarded.months month (List.mem_of_mem_tail hMonth)
  -- The steps of the source in their order: the chart, the derivations, and the checks of the
  -- output.
  obtain ⟨chart, hChart, hCategories⟩ := visualization_eq_ok inputs.priceKind hReturns h.finite
    hAligned
    (by omega) hMonths hGuarded.increasing.tail
    (validNotes_of_isNote (by show 3 ≤ 20; decide) (isNote_assumptionsOf inputs.priceKind))
    (validNotes_of_isNote hWarnings hNotes)
  -- Every derivation passes its own check.
  have hDerivations : (returns.zipIdx.map derivationOf).forM (Derivation.validate floats.isFinite) =
    .ok () := by
    rw [Except.forM_eq_ok]
    intro d hd
    obtain ⟨i, hi⟩ := List.mem_iff_getElem?.1 hd
    obtain ⟨value, hValue, rfl⟩ := getElem?_map_zipIdx hi
    have hLess : i < returns.length := (List.getElem?_eq_some_iff.1 hValue).1
    exact Derivation.validate_eq_ok.2
      (valid_derivationOf (h.finite value (List.mem_of_getElem? hValue))
      (by show i + 1 ≤ maxsize; omega))
  have hTargets := targets_outputOf inputs returns warnings chart
  have hLineage := lineage_outputOf inputs returns warnings chart hGuarded hLength
  -- A simple return of positive prices is above minus one.
  have hRepresentable : ¬ returns.any (fun value => !floats.isFinite value || decide (value ≤ -1)) =
    true := by
    rw [List.any_eq_true]
    rintro ⟨value, hValue, hNot⟩
    obtain ⟨i, hi⟩ := List.mem_iff_getElem?.1 hValue
    obtain ⟨previous, current, -, -, -, hAbove, hFinite⟩ := h.2 i value hi
    rw [hFinite, decide_eq_false (not_le.2 hAbove)] at hNot
    cases hNot
  have hNonempty : inputs.months.tail ≠ [] := by
    rw [← List.length_pos_iff, hAligned]
    exact List.length_pos_iff.2 hReturns
  have hPattern : ¬ inputs.months.tail.all isCalendarMonth = false := by
    rw [List.all_eq_true.2 hMonths]
    decide
  have hSome : returns.zipIdx.map derivationOf ≠ [] := by
    rw [← List.length_pos_iff, List.length_map, List.length_zipIdx]
    exact List.length_pos_iff.2 hReturns
  -- The validators of the output, one after the other.
  have hValid : (outputOf inputs warnings returns chart).validate floats = .ok () :=
    Visualization.andThen_eq_ok.2 ⟨Except.raiseIf_eq_ok.2 hReturns,
      Visualization.andThen_eq_ok.2 ⟨Except.raiseIf_eq_ok.2 hRepresentable,
      Visualization.andThen_eq_ok.2 ⟨Except.raiseIf_eq_ok.2 hNonempty,
      Visualization.andThen_eq_ok.2 ⟨Except.raiseIf_eq_ok.2 hPattern,
      Visualization.andThen_eq_ok.2 ⟨Except.raiseIf_eq_ok.2 hSome,
      Visualization.andThen_eq_ok.2
      ⟨validateMessages_of_isNote (isNote_assumptionsOf inputs.priceKind),
      Visualization.andThen_eq_ok.2 ⟨validateMessages_of_isNote hNotes,
      Visualization.andThen_eq_ok.2 ⟨hTargets, hLineage⟩⟩⟩⟩⟩⟩⟩⟩
  refine ⟨outputOf inputs warnings returns chart,
    Except.bind_eq_ok.2 ⟨(), validated_eq_ok.2 hDerivations,
    Except.bind_eq_ok.2 ⟨chart, hChart, Except.bind_eq_ok.2 ⟨(), validated_eq_ok.2 hValid, rfl⟩⟩⟩,
    ?_⟩
  -- What the output says about the prices.
  refine ⟨forall₂_exact hNumbers, ?_, ?_, fun i hi => ?_, ⟨chart, rfl, hCategories, hAligned,
    fun i => ?_⟩, hLineage, hTargets⟩
  · show returns.length + 1 = prices.length
    omega
  · show (returns.zipIdx.map derivationOf).length = returns.length
    rw [List.length_map, List.length_zipIdx]
  · have hLess : i < returns.length := hi
    have hValue := List.getElem?_eq_getElem hLess
    obtain ⟨previous, current, hPrevious, hCurrent, hIs, -⟩ := h.2 i _ hValue
    refine ⟨previous, current, returns[i], hPrevious, hCurrent, hValue, ?_, hIs⟩
    show (returns.zipIdx.map derivationOf)[i]? = _
    rw [List.getElem?_map, List.getElem?_zipIdx, hValue, Option.map_some, Option.map_some,
      Nat.zero_add]
  · show inputs.months.tail[i]? = _
    rw [List.getElem?_tail]

set_option maxRecDepth 1000 in
/-- The messages of the rules stand as notes. -/
theorem messagesStand_constraints : MessagesStand constraints := by
  refine ⟨by decide, ?_⟩
  simp only [constraints, List.forall_mem_cons, List.not_mem_nil, false_imp_iff, implies_true,
    and_true]
  refine ⟨?_, ?_, ?_, ?_, ?_, ?_, ?_, ?_, ?_, ?_⟩ <;> (apply message_stands; decide)

/-- The warnings that go into an output. -/
def warningsOf (inputs : Inputs) : List Text :=
  ((violationsOf constraints (outcomes inputs)).filter (fun v => v.severity = .warning)).map
    Violation.message

omit [IsStrictOrderedRing K] in
/-- What the component does where no blocking rule fires. -/
theorem monthlyReturnMatrix_eq {stdev : List Binary64 → Except Text Binary64} {inputs : Inputs}
    (hNone : ∀ v ∈ violationsOf constraints (outcomes inputs), v.severity ≠ .blocking) :
    monthlyReturnMatrix floats stdev inputs = (do
      let ordinals ← inputs.months.mapM monthOrdinal
      Except.raiseIf (skips ordinals = true) notConsecutiveMonths
      let prices ← exactPrices (K := K) inputs.prices
      let returns ← (prices.zip prices.tail).mapM (simpleReturn floats)
      assemble floats inputs (warningsOf inputs) returns) := by
  refine bind_preflight_guidanceOf requiredQuestions (outcomes_of_constraints inputs)
    (fun question hQuestion => ?_)
    hNone _
  simp only [requiredQuestions, List.mem_cons, List.not_mem_nil, or_false] at hQuestion
  rcases hQuestion with rfl | rfl
  all_goals simp [Validation.hasField, modelDump]

/-- On every input the rules of the contract evaluate, and where no blocking rule fires the
component refuses a return that is not finite or gives the returns of all adjacent pairs. -/
theorem never_fails_late (stdev : List Binary64 → Except Text Binary64) (floats : Floats K)
    (inputs : Inputs) :
    NeverFailsLate (Validation.evaluateConstraints stdev guidance (modelDump inputs))
      nonFiniteResult
      (fun output => ∃ prices, Returns inputs prices output) (monthlyReturnMatrix (K :=
        K) floats stdev inputs) := by
  have hOutcomes : Outcomes stdev (modelDump inputs) constraints (outcomes inputs) :=
    outcomes_of_constraints inputs
  refine ⟨_, evaluateConstraints_guidanceOf hOutcomes, fun hNone => ?_⟩
  have hGuarded := guarded_of_outcomes (noneBlocks_of_violations hNone)
  obtain ⟨hWarnings, hNotes⟩ := isNote_warnings hOutcomes messagesStand_constraints
  obtain ⟨prices, hNumbers, hPositive⟩ := exists_exactPrices (K := K) hGuarded.positive
  have hOrdinals : inputs.months.mapM monthOrdinal = .ok (inputs.months.map ordinalOf) :=
    Except.mapM_eq_map (fun month hMonth => if_pos (hGuarded.months month hMonth))
  have hSkips : ¬ skips (inputs.months.map ordinalOf) = true := by
    rw [Bool.not_eq_true]
    exact any_neighbours_eq_false.2 (hGuarded.consecutive.imp (fun _ _ h => not_not.2 h))
  rw [monthlyReturnMatrix_eq hNone]
  apply Answers.of_ok hOrdinals
  apply Answers.of_ok (a := ()) (Except.raiseIf_eq_ok.2 hSkips)
  apply Answers.of_ok hNumbers
  refine (answers_returns hPositive).bind (fun returns hReturns => ?_)
  obtain ⟨output, hOutput, hIs⟩ := assemble_eq_ok hGuarded hNumbers hWarnings hNotes hReturns
  exact .inr ⟨output, hOutput, prices, hIs⟩

end

end

end MonthlyReturnMatrix
