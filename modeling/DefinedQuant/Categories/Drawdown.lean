import DefinedQuant.Categories.PriceSeries
import DefinedQuant.Lib.Extrema

/-!
# Drawdowns

The component `dq.performance.drawdown`: the rules of its contract, the calculation of the
underwater path and of the maximum-drawdown episode over exact numbers, and the validation of its
output, which recomputes the episode from the drawdowns.
-/

namespace Drawdown

open Calendar (AwareDatetime)
open Validation (Rule Fields Violation preflight)
open SeriesRules
open Calculation
open PriceSeries
open ComponentOutput
open Visualization (VisualizationSpec Invalid)

/-! ## The contract -/

/-- `inputs.model_dump(mode="python")` -/
def modelDump (inputs : Inputs Binary64) : Fields :=
  inputs.dumpWith []

/-- `guidance.constraints` of the contract. -/
def constraints : List Rule :=
  priceConstraints [emptyPrices] []
    "non_increasing_timestamps: Timestamps must be strictly increasing; observations are never silently sorted."
    "frequency_without_timestamps: A declared frequency requires aligned timestamps."
    "unadjusted_price_interpretation: Corporate-action breaks can appear as drawdowns in unadjusted prices."

/-- `guidance.required_questions` of the contract. -/
def requiredQuestions : List (String × String × String) :=
  [("price_kind", "Are the supplied prices adjusted or unadjusted?",
    "Corporate actions can create artificial peaks and crashes.")]

/-- What is evaluated of `guidance` of the contract. -/
def guidance : List (Option Text × PyValue) := guidanceOf requiredQuestions constraints

/-! ## The path -/

/-- `FORMULA` -/
def formula : String := "Dₜ = Pₜ / max(P₀, …, Pₜ) − 1; MDD = minₜ Dₜ"

/-- `_blocking_error` -/
def blockingError (message : String) : Raised :=
  .domainError "non_finite_result" ("non_finite_result: " ++ message)

/-- The variables of the loop of `_calculate_path`. -/
structure Path (K : Type) where
  runningPeak : K
  runningPeakIndex : ℕ
  drawdowns : List K := []
  peakIndices : List ℕ := []

section

variable {K : Type} [Field K] [LinearOrder K] (floats : Floats K)

/-- The drawdown of a price below the running peak. -/
def belowPeak (runningPeak price : K) : Except Raised K := do
  let ratio ← divide price runningPeak
  Except.raiseIf (ratio = 0) (blockingError "A positive price-to-peak ratio rounded to zero.")
  Except.raiseIf (ratio - 1 = -1)
    (blockingError "A positive price-to-peak ratio rounded to total loss.")
  Except.raiseIf (floats.isFinite (ratio - 1) = false)
    (blockingError "A price-to-peak ratio was unrepresentable.")
  return ratio - 1

/-- One turn of the loop of `_calculate_path`. -/
def stepPath (path : Path K) (indexed : K × ℕ) : Except Raised (Path K) :=
  if path.runningPeak ≤ indexed.1 then
    return { runningPeak := indexed.1
             runningPeakIndex := indexed.2
             drawdowns := path.drawdowns ++ [0]
             peakIndices := path.peakIndices ++ [indexed.2] }
  else do
    let drawdown ← belowPeak floats path.runningPeak indexed.1
    return { path with
             drawdowns := path.drawdowns ++ [drawdown]
             peakIndices := path.peakIndices ++ [path.runningPeakIndex] }

/-- `_calculate_path` -/
def calculatePath (prices : List K) : Except Raised (List K × List ℕ) := do
  let first ← item prices 0
  let path ← prices.zipIdx.foldlM (stepPath floats) { runningPeak := first, runningPeakIndex := 0 }
  return (path.drawdowns, path.peakIndices)

/-! ## The output -/

/-- `Output`. The indexes of the peaks, which the validation holds to zero or more, are natural
numbers. -/
structure Output (K : Type) where
  drawdowns : List K
  maximumDrawdown : K
  priceKind : PriceKind
  runningPeakIndices : List ℕ
  peakIndex : ℕ
  troughIndex : ℕ
  recoveryIndex : Option ℕ
  recovered : Bool
  drawdownTimestamps : Option (List AwareDatetime)
  peakTimestamp : Option AwareDatetime
  troughTimestamp : Option AwareDatetime
  recoveryTimestamp : Option AwareDatetime
  declaredFrequency : Option Frequency
  orderingVerified : Bool
  derivations : List (Derivation K)
  visualizations : List (VisualizationSpec K)
  assumptions : List Text
  warnings : List Text

/-- The inputs of the derivation of a drawdown. -/
def pointInputs (index peak : ℕ) : List InputRef :=
  if peak = index then [priceRef index] else [priceRef index, priceRef peak]

/-- `prices[index] / prices[peak] - 1` -/
def ratioExpression (index peak : ℕ) : Text :=
  py "prices[" ++ digits index ++ py "] / prices[" ++ digits peak ++ py "] - 1"

def pointExpression (index peak : ℕ) : Text :=
  if peak = index then py "prices[" ++ digits index ++ py "] is running peak; drawdown = 0"
  else ratioExpression index peak

/-- The inputs of the derivation of the maximum drawdown. -/
def maximumInputs (peak trough : ℕ) : List InputRef :=
  if peak = trough then [priceRef peak] else [priceRef trough, priceRef peak]

def maximumExpression (peak trough : ℕ) : Text :=
  if peak = trough then py "zero drawdown at initial selected peak" else ratioExpression trough peak

omit [Field K] [LinearOrder K] in
/-- The derivation of the drawdown at an index with its running peak. -/
def pointDerivation (point : (K × ℕ) × ℕ) : Derivation K where
  output := ⟨py "drawdowns", point.2⟩
  inputs := pointInputs point.2 point.1.2
  expression := pointExpression point.2 point.1.2
  value := point.1.1

omit [Field K] [LinearOrder K] in
/-- The derivation of the maximum drawdown. -/
def maximumDerivation (peak trough : ℕ) (maximumDrawdown : K) : Derivation K where
  output := ⟨py "maximum_drawdown", 0⟩
  inputs := maximumInputs peak trough
  expression := maximumExpression peak trough
  value := maximumDrawdown

/-! ### The validation of the output -/

/-- One turn of the loop over the running peaks. -/
def validatePeak (output : Output K) (previousPeakIndex : ℤ) (indexed : ℕ × ℕ) :
    Except Invalid ℤ := do
  let (runningPeakIndex, index) := indexed
  Except.raiseIf (index < runningPeakIndex)
    ⟨"", "each running peak index must identify the current or an earlier observation"⟩
  Except.raiseIf ((runningPeakIndex : ℤ) < previousPeakIndex) ⟨"",
    "running peak indexes must never move backward"⟩
  Except.raiseIf (decide (runningPeakIndex = index) ≠ decide (output.drawdowns[index]? = some 0))
    ⟨"", "zero drawdowns must identify the current observation as the running peak"⟩
  Except.raiseIf (output.runningPeakIndices[runningPeakIndex]? ≠ some runningPeakIndex)
    ⟨"", "running peak indexes must reference observations that established a peak"⟩
  return (runningPeakIndex : ℤ)

/-- The loop over the running peaks. -/
def validatePeaks (output : Output K) : Except Invalid Unit := do
  let _ ← output.runningPeakIndices.zipIdx.foldlM (validatePeak output) (-1)
  return ()

/-- The index of the first zero drawdown after the trough. -/
def firstRecovery (output : Output K) : Option ℕ :=
  (List.range' (output.troughIndex + 1) (output.drawdowns.length - (output.troughIndex + 1))).find?
    (fun index => decide (output.drawdowns[index]? = some 0))

/-- The checks of a recovery index that is given. -/
def validateRecovery (output : Output K) : Except Invalid Unit :=
  match output.recoveryIndex with
  | none => .ok ()
  | some recovery => do
      Except.raiseIf (output.drawdowns.length ≤ recovery)
        ⟨"", "recovery index must identify a drawdown observation"⟩
      Except.raiseIf (output.maximumDrawdown < 0 ∧ recovery ≤ output.troughIndex)
        ⟨"", "negative drawdown recovery must follow the selected trough"⟩

/-- `self.drawdowns.index(min(self.drawdowns))` of drawdowns that are not empty -/
def earliestMinimum (drawdowns : List K) : Option ℕ :=
  match smallest drawdowns with
  | .ok m => some (drawdowns.idxOf m)
  | .error _ => none

/-- The checks of the episode. -/
def validateEpisode (output : Output K) : Except Invalid Unit := do
  Except.raiseIf (¬ (output.peakIndex ≤ output.troughIndex ∧
    output.troughIndex < output.drawdowns.length))
    ⟨"", "peak and trough indexes must form an ordered episode"⟩
  Except.raiseIf (output.runningPeakIndices[output.troughIndex]? ≠ some output.peakIndex)
    ⟨"", "selected peak index must equal the running peak at the selected trough"⟩
  Except.raiseIf (output.recovered ≠ output.recoveryIndex.isSome) ⟨"",
    "recovered must agree with recovery_index"⟩
  validateRecovery output
  Except.raiseIf (output.maximumDrawdown = 0 ∧ output.recoveryIndex ≠ some output.troughIndex)
    ⟨"", "zero drawdown must recover at the shared peak and trough observation"⟩
  Except.raiseIf (output.drawdowns[output.troughIndex]? ≠ some output.maximumDrawdown)
    ⟨"", "maximum drawdown must equal the selected trough value"⟩
  Except.raiseIf (earliestMinimum output.drawdowns ≠ some output.troughIndex)
    ⟨"", "the earliest minimum drawdown must be selected"⟩
  Except.raiseIf (output.maximumDrawdown < 0 ∧ output.recoveryIndex ≠ firstRecovery output)
    ⟨"", "recovery index must identify the first zero drawdown after the trough"⟩

omit [Field K] [LinearOrder K] in
/-- What timestamps are compared by. -/
def instantOf (timestamp : Option AwareDatetime) : Option ℤ := timestamp.map AwareDatetime.instant

omit [Field K] [LinearOrder K] in
/-- The checks of the timestamps. Indexes that the episode has checked are in range. -/
def validateTimestamps (output : Output K) : Except Invalid Unit :=
  match output.drawdownTimestamps with
  | none => do
      Except.raiseIf (output.orderingVerified = true) ⟨"",
        "missing timestamps require unverified ordering"⟩
      Except.raiseIf (output.declaredFrequency ≠ none) ⟨"",
        "a declared frequency requires drawdown timestamps"⟩
      Except.raiseIf (output.peakTimestamp ≠ none ∨ output.troughTimestamp ≠ none ∨
        output.recoveryTimestamp ≠ none)
        ⟨"", "episode timestamps require drawdown timestamps"⟩
  | some timestamps => do
      Except.raiseIf (timestamps.length ≠ output.drawdowns.length)
        ⟨"", "drawdown timestamps must align with drawdown values"⟩
      Except.raiseIf (output.orderingVerified = false) ⟨"",
        "aligned timestamps require verified ordering"⟩
      Except.raiseIf (notIncreasing timestamps = true) ⟨"",
        "drawdown timestamps must be strictly increasing"⟩
      Except.raiseIf (instantOf output.peakTimestamp ≠ instantOf timestamps[output.peakIndex]?)
        ⟨"", "peak timestamp must match the selected peak index"⟩
      Except.raiseIf (instantOf output.troughTimestamp ≠ instantOf timestamps[output.troughIndex]?)
        ⟨"", "trough timestamp must match the selected trough index"⟩
      Except.raiseIf (instantOf output.recoveryTimestamp ≠
          instantOf (output.recoveryIndex.bind (fun recovery => timestamps[recovery]?)))
        ⟨"", "recovery timestamp must match the selected recovery index"⟩

omit [Field K] [LinearOrder K] in
/-- The check of the derivation of one drawdown. -/
def validatePoint (point : (Derivation K × ℕ) × ℕ) : Except Invalid Unit := do
  let ((derivation, peak), index) := point
  Except.raiseIf (derivation.output ≠ ⟨py "drawdowns", index⟩)
    ⟨"", "drawdown derivations must be ordered and complete"⟩
  Except.raiseIf (derivation.inputs ≠ pointInputs index peak)
    ⟨"", "drawdown lineage must reference current and peak prices"⟩
  Except.raiseIf (derivation.expression ≠ pointExpression index peak)
    ⟨"", "drawdown derivation expression is not canonical"⟩

omit [Field K] [LinearOrder K] in
/-- The check of the derivation of the maximum drawdown. -/
def validateMaximum (output : Output K) (maximum : Option (Derivation K)) : Except Invalid Unit :=
  match maximum with
  | none => .ok ()
  | some maximum => do
      Except.raiseIf (maximum.output ≠ ⟨py "maximum_drawdown", 0⟩)
        ⟨"", "maximum drawdown derivation must target scalar index zero"⟩
      Except.raiseIf (maximum.inputs ≠ maximumInputs output.peakIndex output.troughIndex ∨
          maximum.expression ≠ maximumExpression output.peakIndex output.troughIndex)
        ⟨"", "maximum drawdown lineage must match the selected episode"⟩

/-- `validate_episode_and_lineage` -/
def validateEpisodeAndLineage (output : Output K) : Except Invalid Unit := do
  Except.raiseIf (output.runningPeakIndices.length ≠ output.drawdowns.length)
    ⟨"", "running peak indexes must align with drawdowns"⟩
  validatePeaks output
  validateEpisode output
  validateTimestamps output
  Except.raiseIf (output.derivations.length ≠ output.drawdowns.length + 1)
    ⟨"", "every drawdown and maximum drawdown need derivations"⟩
  (output.derivations.dropLast.zip output.runningPeakIndices).zipIdx.forM validatePoint
  validateMaximum output output.derivations.getLast?

/-- `Output.model_fields` with their values -/
def Output.modelFields (output : Output K) : List (Text × FieldValue K) :=
  [(py "component_id", .other), (py "version", .other), (py "subject_hash", .other),
    (py "unit", .other), (py "assumptions", .items output.assumptions.length),
    (py "disclosures", .items 4), (py "warnings", .items output.warnings.length),
    (py "transformations", .items 2), (py "derivations", .items output.derivations.length),
    (py "visualizations", .items output.visualizations.length),
    (py "drawdowns", .numbers output.drawdowns),
    (py "maximum_drawdown", .number output.maximumDrawdown), (py "price_kind", .other),
    (py "running_peak_indices", .numbers (output.runningPeakIndices.map Nat.cast)),
    (py "peak_index", .number output.peakIndex), (py "trough_index", .number output.troughIndex),
    (py "recovery_index", match output.recoveryIndex with
      | none => .other
      | some recovery => .number recovery),
    (py "recovered", .other),
    (py "drawdown_timestamps", match output.drawdownTimestamps with
      | none => .other
      | some timestamps => .items timestamps.length),
    (py "peak_timestamp", .other), (py "trough_timestamp", .other),
      (py "recovery_timestamp", .other),
    (py "declared_frequency", .other), (py "ordering_status", .other), (py "gap_check", .other)]

/-- A drawdown within its bounds. -/
def isDrawdown (value : K) : Bool := floats.isFinite value && decide (-1 < value ∧ value ≤ 0)

/-- The validation of `Output`. -/
def Output.validate (output : Output K) : Except Invalid Unit := do
  Except.raiseIf (output.drawdowns = []) ⟨"drawdowns", "Tuple should have at least 1 item"⟩
  Except.raiseIf (output.drawdowns.all (isDrawdown floats) = false)
    ⟨"drawdowns", "Input should be a finite number greater than -1 and at most 0"⟩
  Except.raiseIf (isDrawdown floats output.maximumDrawdown = false)
    ⟨"maximum_drawdown", "Input should be a finite number greater than -1 and at most 0"⟩
  Except.raiseIf (output.runningPeakIndices = []) ⟨"running_peak_indices",
    "Tuple should have at least 1 item"⟩
  Except.raiseIf (output.derivations.length < 2) ⟨"derivations",
    "Tuple should have at least 2 items"⟩
  validateMessages "assumptions" output.assumptions
  validateMessages "warnings" output.warnings
  validateDerivationTargets output.modelFields output.derivations
  validateEpisodeAndLineage output

/-! ## The component -/

/-- `_visualization` -/
def visualization {N : Type} (inputs : Inputs N) (drawdowns : List K)
    (assumptions warnings : List Text) : Except Raised (VisualizationSpec K) := do
  let deepest ← smallest drawdowns
  let spec : VisualizationSpec K :=
    { id := py "underwater_drawdown"
      kind := .line
      title := py "Drawdown / underwater path"
      altText := py "Underwater line chart of " ++ digits drawdowns.length ++
        py " peak-relative drawdowns. The deepest observation is " ++ floats.sixDigits deepest ++
          py " in decimal units."
      categories := pointLabels inputs drawdowns.length
      series := [{ key := py "drawdown", label := py "Drawdown", values := drawdowns }]
      xAxis := { label := if inputs.timestamps.isNone then py "Observation" else py "Observation time" }
      yAxis := { label := py "Drawdown", unit := .decimal, numberFormat := .percent }
      caption :=
        some (py formula ++ py ". Zero marks a running high; negative values show depth below it.")
      assumptions := assumptions
      warnings := warnings }
  validated (spec.validate floats.isFinite)
  return spec

/-- `assumptions` of an output -/
def assumptionsOf (kind : PriceKind) : List Text :=
  [py "All observations refer to one instrument in a consistent price unit.",
    py "Price semantics are caller-declared as " ++ kind.text ++ py "."]

/-- The recovery: at once at the peak itself, otherwise the first later price at or above the price
of the peak. -/
def recoveryOf (prices : List K) (peakValue : K) (peakIndex troughIndex : ℕ) : Option ℕ :=
  if troughIndex = peakIndex then some peakIndex
  else (List.range' (troughIndex + 1) (prices.length - (troughIndex + 1))).find?
    (fun index => decide (peakValue ≤ prices.getD index 0))

/-- The output of a path, its episode and a chart. -/
def outputOf {N : Type} (inputs : Inputs N) (warnings : List Text) (drawdowns : List K)
    (peaks : List ℕ) (maximumDrawdown : K) (peak trough : ℕ) (recovery : Option ℕ)
    (visualization : VisualizationSpec K) : Output K where
  drawdowns := drawdowns
  maximumDrawdown := maximumDrawdown
  priceKind := inputs.priceKind
  runningPeakIndices := peaks
  peakIndex := peak
  troughIndex := trough
  recoveryIndex := recovery
  recovered := recovery.isSome
  drawdownTimestamps := inputs.timestamps
  peakTimestamp := inputs.timestamps.bind (fun ts => ts[peak]?)
  troughTimestamp := inputs.timestamps.bind (fun ts => ts[trough]?)
  recoveryTimestamp := inputs.timestamps.bind (fun ts => recovery.bind (fun r => ts[r]?))
  declaredFrequency := inputs.declaredFrequency
  orderingVerified := inputs.timestamps.isSome
  derivations := (drawdowns.zip peaks).zipIdx.map pointDerivation ++
    [maximumDerivation peak trough maximumDrawdown]
  visualizations := [visualization]
  assumptions := assumptionsOf inputs.priceKind
  warnings := warnings

/-- The messages of the warnings that the preflight returns. -/
def warningsOf {N : Type} (inputs : Inputs N) : List Text :=
  (if inputs.timestamps.isNone then
      [py "ordering_unverified: No timestamps were supplied, so chronology could not be verified."]
    else []) ++
  (if inputs.priceKind = .unadjusted then
      [py "unadjusted_price_interpretation: Corporate-action breaks can appear as drawdowns in unadjusted prices."]
    else [])

/-- What `drawdown` makes of inputs that the preflight has let through, with its warnings. -/
def calculate {N : Type} (inputs : Inputs N) (prices : List K) (warnings : List Text) :
    Except Raised (Output K) := do
  let (drawdowns, peaks) ← calculatePath floats prices
  let deepest ← smallest drawdowns
  let trough := drawdowns.idxOf deepest
  let peak ← item peaks trough
  let peakValue ← item prices peak
  let maximumDrawdown ← item drawdowns trough
  let recovery := recoveryOf prices peakValue peak trough
  validated (((drawdowns.zip peaks).zipIdx.map pointDerivation).forM
    (Derivation.validate floats.isFinite))
  validated ((maximumDerivation peak trough maximumDrawdown).validate floats.isFinite)
  let visualization ← visualization floats inputs drawdowns (assumptionsOf inputs.priceKind)
    warnings
  let output := outputOf inputs warnings drawdowns peaks maximumDrawdown peak trough recovery
    visualization
  validated (output.validate floats)
  return output

/-- `drawdown`, on validated inputs -/
def drawdown (stdev : List Binary64 → Except Text Binary64) (inputs : Inputs Binary64) :
    Except Raised (Output K) := do
  let violations ← (preflight stdev (.mapping guidance) (modelDump inputs)).mapError
    Raised.preflight
  let prices ← exactPrices inputs.prices
  calculate floats inputs prices (violations.map Violation.message)

end

/-! ## The rules -/

/-- What every rule of the contract says about the inputs, in the order of the rules. -/
def outcomes (inputs : Inputs Binary64) : List Bool :=
  priceOutcomes [decide ((inputs.prices.length : ℤ) = 0)] [] inputs.prices inputs.instants
    inputs.declaredFrequency
    inputs.priceKind

/-- Every rule of the contract has an outcome on every input. -/
theorem outcomes_of_constraints {stdev : List Binary64 → Except Text Binary64}
    (inputs : Inputs Binary64) :
    Outcomes stdev (modelDump inputs) constraints (outcomes inputs) where
  spelled := by decide
  distinct := by decide
  evaluates := by
    have hHolds := @Inputs.holdsPrices inputs [] rfl rfl
    exact evaluates_priceConstraints hHolds (.cons (evaluates_emptyPrices hHolds.prices) .nil)
      .nil _ _ _

/-- Where no blocking rule fires, the prices are positive, and the timestamps are in order. -/
theorem guarded_of_outcomes {inputs : Inputs Binary64}
    (h : NoneBlocks constraints (outcomes inputs)) :
    inputs.Guarded IsPositive := by
  obtain ⟨-, -, hPositive, hOrder⟩ := noneBlocks_priceConstraints rfl rfl h
  exact Inputs.guarded hPositive hOrder

/-- The warnings of the rules. -/
theorem messages_of_violations {inputs : Inputs Binary64}
    (hNone : NoneBlocks constraints (outcomes inputs)) :
    ((violationsOf constraints (outcomes inputs)).filter (fun v => v.severity = .warning)).map
      Violation.message =
      warningsOf inputs := by
  simp only [constraints, outcomes, priceConstraints, priceOutcomes, pricesOutcomes, timestampRules,
    timestampOutcomes, List.cons_append, List.nil_append, noneBlocks_cons, emptyPrices,
    nonFinitePrices, nonFinite, nonPositivePrices, timestampLengthMismatch, duplicateTimestamps,
    nonIncreasingTimestamps, frequencyWithoutTimestamps, ne_eq, not_true_eq_false, imp_false,
    Bool.not_eq_true] at hNone
  obtain ⟨hCount, hFinite, hPositive, hLength, hRepeats, hIncreases, hFrequency, -⟩ := hNone
  have hInstants : inputs.instants.isNone = inputs.timestamps.isNone := by
    rw [Inputs.instants, Option.isNone_map]
  rw [violationsOf, outcomes, priceOutcomes, pricesOutcomes, timestampOutcomes, hCount, hFinite,
    hPositive, hLength, hRepeats, hIncreases, hFrequency, hInstants]
  unfold warningsOf constraints
  cases inputs.timestamps.isNone <;> cases inputs.priceKind <;> rfl

end Drawdown
