import DefinedQuant.Categories.Calculation

/-!
# Rolling historical volatility

The component `dq.volatility.rolling_historical_volatility`: its inputs, the rules of its contract,
its calculation over exact numbers with `sqrt` as a parameter, and the validation of its output. The
rules see the inputs as they are, with their doubles. Every partial operation of Python raises where
it is undefined.
-/

namespace RollingHistoricalVolatility

open Calendar (AwareDatetime)
open Validation (Rule Fields Violation preflight comparison measureOf literal allOf field)
open SeriesRules
open Calculation
open ComponentOutput
open Visualization (VisualizationSpec Invalid)

/-! ## Inputs -/

/-- `ReturnKind` -/
inductive ReturnKind where
  | simple
  | log
  deriving DecidableEq, Repr

def ReturnKind.text : ReturnKind → Text
  | .simple => py "simple"
  | .log => py "log"

/-- `Inputs` -/
structure Inputs where
  returns : List Binary64
  windowLength : ℤ
  annualizationFactor : Binary64
  returnKind : ReturnKind
  timestamps : Option (List AwareDatetime)
  declaredFrequency : Option Frequency
  /-- `min_length=1` -/
  returns_nonempty : returns ≠ []
  length_le : returns.length ≤ maxsize

/-- The instants of the timestamps. -/
def Inputs.instants (inputs : Inputs) : Option (List ℤ) :=
  inputs.timestamps.map (fun ts => ts.map AwareDatetime.instant)

/-- `inputs.model_dump(mode="python")` -/
def Inputs.modelDump (inputs : Inputs) : Fields :=
  [(py "returns", .seq .tuple (inputs.returns.map PyValue.float)),
    (py "window_length", .int inputs.windowLength),
    (py "annualization_factor", .float inputs.annualizationFactor),
    (py "return_kind", .str inputs.returnKind.text),
    (py "timestamps", orNone (fun ts => .seq .tuple (ts.map PyValue.instant)) inputs.instants),
    (py "declared_frequency", orNone (fun f => .str (Frequency.text f)) inputs.declaredFrequency)]

/-! ## The contract -/

def insufficientReturns : Rule :=
  tooFew "insufficient_returns" "returns"
    "insufficient_returns: At least two log returns are required."

def nonFiniteReturns : Rule :=
  nonFinite "non_finite_returns" "returns" "non_finite_returns: Every return must be finite."

def windowTooShort : Rule where
  id := "window_too_short"
  severity := .blocking
  condition := comparison (field "window_length") "lt" (literal (.int 2))
  message := "window_too_short: Window length must be at least two."

def windowExceedsReturns : Rule where
  id := "window_exceeds_returns"
  severity := .blocking
  condition := comparison (measureOf "returns" "count") "lt" (field "window_length")
  message := "window_exceeds_returns: At least one complete rolling window is required."

def nonFiniteAnnualizationFactor : Rule :=
  nonFinite "non_finite_annualization_factor" "annualization_factor"
    "non_finite_annualization_factor: The annualization factor must be finite."

def nonPositiveAnnualizationFactor : Rule :=
  nonPositive "non_positive_annualization_factor" "annualization_factor"
    "non_positive_annualization_factor: The annualization factor must be greater than zero."

def unsupportedReturnKind : Rule where
  id := "unsupported_return_kind"
  severity := .blocking
  condition := comparison (field "return_kind") "ne" (literal (Validation.text "log"))
  message := "unsupported_return_kind: Rolling historical volatility accepts log returns only."

def smallWindow : Rule where
  id := "small_window"
  severity := .warning
  condition := allOf [
    comparison (field "window_length") "ge" (literal (.int 2)),
    comparison (field "window_length") "lt" (literal (.int 30))]
  message :=
    "small_window: Fewer than 30 returns per window can produce an unstable descriptive estimate."

/-- The rules about the returns, the window and the factor. -/
def ownRules : List Rule :=
  [insufficientReturns, nonFiniteReturns, windowTooShort, windowExceedsReturns,
    nonFiniteAnnualizationFactor, nonPositiveAnnualizationFactor, unsupportedReturnKind]

/-- `guidance.constraints` of the contract. -/
def constraints : List Rule :=
  ownRules ++
    timestampRules "returns"
      "timestamp_length_mismatch: Timestamps and returns must align one-to-one."
      "non_increasing_timestamps: Timestamps must be strictly increasing; observations are never silently sorted."
      "frequency_without_timestamps: A declared frequency requires aligned timestamps." ++
    [smallWindow]

/-- `guidance.required_questions` of the contract. -/
def requiredQuestions : List (String × String × String) :=
  [("window_length", "How many return observations should each complete rolling window contain?",
      "Window length materially changes smoothness and regime timing."),
    ("annualization_factor", "What explicit number of observation periods per year should be used?",
      "The annualized series changes with this factor and it is never inferred."),
    ("return_kind", "Are the observations log periodic returns?",
      "This component accepts the log-return convention only.")]

/-- What is evaluated of `guidance` of the contract. -/
def guidance : List (Option Text × PyValue) := guidanceOf requiredQuestions constraints

/-! ## The calculation -/

/-- `FORMULA` -/
def formula : String := "σ̂ₜ(w) = stdevₙ₋₁(rₜ₋w₊₁, …, rₜ); σ̂annual,ₜ(w) = σ̂ₜ(w) × sqrt(A)"

/-- `_non_finite_result` -/
def nonFiniteResult (stage : String) (windowIndex : ℤ) : Raised :=
  .domainError "non_finite_result"
    "non_finite_result: Finite inputs produced an unrepresentable rolling volatility value."
    [(py "stage", .str (py stage)), (py "window_index", .int windowIndex)]

/-- `f"sample_stdev_n_minus_1(returns[{start}:{stop}])"` -/
def windowExpression (start stop : ℤ) : Text :=
  py "sample_stdev_n_minus_1(returns[" ++ intDigits start ++ py ":" ++ intDigits stop ++ py "])"

/-- The expression of an annualized value. -/
def annualizedExpression (start stop : ℤ) : Text :=
  windowExpression start stop ++ py " * sqrt(annualization_factor)"

/-- `tuple(InputRef(field="returns", index=index) for index in range(start, stop))` -/
def returnRefs (start stop : ℤ) : List InputRef :=
  (range start stop).map (fun index => { field := py "returns", index })

/-- `InputRef(field="annualization_factor", index=0)` -/
def factorRef : InputRef := { field := py "annualization_factor", index := 0 }

/-- `Output` -/
structure Output (K : Type) where
  periodicVolatility : List K
  annualizedVolatility : List K
  windowLength : ℤ
  annualizationFactor : K
  volatilityTimestamps : Option (List AwareDatetime)
  declaredFrequency : Option Frequency
  orderingVerified : Bool
  derivations : List (Derivation K)
  visualizations : List (VisualizationSpec K)
  assumptions : List Text
  warnings : List Text

section

variable {K : Type} [Field K] [LinearOrder K]

/-- What `_sample_standard_deviation` computes of the working values, in this component and in
`historical_volatility`: nothing where the scale is zero, otherwise the normalized root and the
deviation. -/
def scaledDeviation (sqrt : K → K) (workingValues : List K) : Except Raised (Option (K × K)) := do
  let scale ← largest (workingValues.map (fun value => |value|))
  if scale = 0 then return none
  let scaled ← workingValues.mapM (fun value => divide value scale)
  let mean ← divide scaled.sum (scaled.length : K)
  let rootSumSquared := scaled.foldl (fun root value => hypot sqrt root (value - mean)) 0
  let normalized ← divide rootSumSquared (← squareRoot sqrt ((scaled.length : K) - 1))
  return some (normalized, scale * normalized)

/-- `_sample_standard_deviation` -/
def sampleStandardDeviation (isFinite : K → Bool) (sqrt : K → K) (values : List K)
    (windowIndex : ℤ) : Except Raised K := do
  let anchor ← item values 0
  let centered := values.map (fun value => value - anchor)
  let workingValues := if centered.all isFinite then centered else values
  match ← scaledDeviation sqrt workingValues with
  | none => return 0
  | some (normalized, result) => do
      Except.raiseIf (isFinite result = false ∨ 0 < normalized ∧ result = 0)
        (nonFiniteResult "periodic" windowIndex)
      return result

/-- The labels of the windows: their ends. -/
def categories (inputs : Inputs) : List Text :=
  let start := inputs.windowLength - 1
  match inputs.timestamps with
  | none => (range start inputs.returns.length).map intDigits
  | some timestamps => (sliceFrom timestamps start).map AwareDatetime.isoformat

/-- The chart of a series between two values. -/
def chartOf (floats : Floats K) (inputs : Inputs) (annualizationFactor : K) (annualized : List K)
    (lowest highest : K) (assumptions warnings : List Text) : VisualizationSpec K where
  id := py "rolling_annualized_volatility"
  kind := .line
  title := py "Rolling " ++ intDigits inputs.windowLength ++ py "-period annualized volatility"
  altText := py "Line chart of " ++ digits annualized.length ++
    py " rolling annualized volatility values ranging from " ++ floats.sixDigits lowest ++
    py " to " ++ floats.sixDigits highest ++ py "."
  categories := categories inputs
  series :=
    [{ key := py "annualized_volatility", label := py "Annualized volatility"
       values := annualized }]
  xAxis := { label := if inputs.timestamps.isNone then py "Window end" else py "Window end time" }
  yAxis := { label := py "Annualized volatility", unit := .volatility, numberFormat := .percent }
  caption := some (py formula ++ py "; w = " ++ intDigits inputs.windowLength ++ py ", A = " ++
    floats.sixDigits annualizationFactor ++ py ".")
  assumptions := assumptions
  warnings := warnings

/-- `_visualization` -/
def visualization (floats : Floats K) (inputs : Inputs) (annualizationFactor : K)
    (annualized : List K) (assumptions warnings : List Text) :
    Except Raised (VisualizationSpec K) := do
  let lowest ← smallest annualized
  let highest ← largest annualized
  let spec := chartOf floats inputs annualizationFactor annualized lowest highest assumptions
    warnings
  validated (spec.validate floats.isFinite)
  return spec

/-- The derivation of a periodic value. -/
def periodicDerivation (windowLength : ℤ) (outputIndex : ℕ) (value : K) : Derivation K :=
  let stop := outputIndex + windowLength
  { output := { field := py "periodic_volatility", index := outputIndex }
    inputs := returnRefs outputIndex stop
    expression := windowExpression outputIndex stop
    value }

/-- The derivation of an annualized value. -/
def annualizedDerivation (windowLength : ℤ) (outputIndex : ℕ) (value : K) : Derivation K :=
  let stop := outputIndex + windowLength
  { output := { field := py "annualized_volatility", index := outputIndex }
    inputs := returnRefs outputIndex stop ++ [factorRef]
    expression := annualizedExpression outputIndex stop
    value }

/-- The derivations of both series, window by window. -/
def derivationsOf (windowLength : ℤ) (periodic annualized : List K) : List (Derivation K) :=
  (periodic.zip annualized).zipIdx.flatMap (fun p =>
    [periodicDerivation windowLength p.2 p.1.1, annualizedDerivation windowLength p.2 p.1.2])

/-- `if p: raise ValueError(...)` of a validator. -/
def invalidIf (p : Prop) [Decidable p] (message : String) : Except Raised Unit :=
  Except.raiseIf p (.validationError ⟨"", message⟩)

/-- The part of `validate_complete_rolling_lineage` about one window. -/
def validateWindow (sqrt : K → K) (output : Output K) (outputIndex : ℕ) : Except Raised Unit := do
  let stop := outputIndex + output.windowLength
  let periodic ← item output.derivations (outputIndex * 2)
  let annualized ← item output.derivations (outputIndex * 2 + 1)
  invalidIf (periodic.output ≠ { field := py "periodic_volatility", index := outputIndex })
    "periodic volatility derivations must be ordered"
  invalidIf (periodic.inputs ≠ returnRefs outputIndex stop ∨
    periodic.expression ≠ windowExpression outputIndex stop)
    "periodic volatility lineage must match its window"
  invalidIf (annualized.output ≠ { field := py "annualized_volatility", index := outputIndex })
    "annualized volatility derivations must be ordered"
  invalidIf (annualized.inputs ≠ returnRefs outputIndex stop ++ [factorRef])
    "annualized lineage must reference its window and factor"
  invalidIf (annualized.expression ≠ annualizedExpression outputIndex stop)
    "annualized volatility expression is not canonical"
  let periodicValue ← item output.periodicVolatility outputIndex
  let root ← (squareRoot sqrt output.annualizationFactor).mapError Raised.inValidator
  let expected := periodicValue * root
  let annualizedValue ← item output.annualizedVolatility outputIndex
  invalidIf ((0 < periodicValue ∧ expected = 0) ∨ expected ≠ annualizedValue)
    "annualized values must use square-root scaling"

omit [Field K] [LinearOrder K] in
/-- The part of `validate_complete_rolling_lineage` about timestamps. -/
def validateTimestamps (output : Output K) : Except Raised Unit :=
  match output.volatilityTimestamps with
  | none => do
      invalidIf (output.orderingVerified = true) "missing timestamps require unverified ordering"
      invalidIf (output.declaredFrequency ≠ none)
        "a declared frequency requires volatility timestamps"
  | some timestamps => do
      invalidIf (timestamps.length ≠ output.periodicVolatility.length)
        "volatility timestamps must align with both volatility series"
      invalidIf (output.orderingVerified = false) "aligned timestamps require verified ordering"
      invalidIf (notIncreasing timestamps = true)
        "volatility timestamps must be strictly increasing"

/-- `validate_complete_rolling_lineage` -/
def validateCompleteRollingLineage (sqrt : K → K) (output : Output K) : Except Raised Unit := do
  let count := output.periodicVolatility.length
  invalidIf (output.annualizedVolatility.length ≠ count) "periodic and annualized series must align"
  invalidIf (output.derivations.length ≠ count * 2) "every rolling window requires two derivations"
  validateTimestamps output
  (List.range count).forM (validateWindow sqrt output)

/-- `Output.model_fields` with their values -/
def Output.modelFields (output : Output K) : List (Text × FieldValue K) :=
  [(py "component_id", .other), (py "version", .other), (py "subject_hash", .other),
    (py "unit", .other), (py "assumptions", .items output.assumptions.length),
    (py "disclosures", .items 3), (py "warnings", .items output.warnings.length),
    (py "transformations", .items 2), (py "derivations", .items output.derivations.length),
    (py "visualizations", .items output.visualizations.length),
    (py "periodic_volatility", .numbers output.periodicVolatility),
    (py "annualized_volatility", .numbers output.annualizedVolatility),
    (py "window_length", .number output.windowLength),
    (py "annualization_factor", .number output.annualizationFactor), (py "return_kind", .other),
    (py "volatility_timestamps", match output.volatilityTimestamps with
      | none => .other
      | some timestamps => .items timestamps.length),
    (py "declared_frequency", .other), (py "ordering_status", .other), (py "gap_check", .other)]

/-- `tuple[Annotated[float, Field(ge=0.0, allow_inf_nan=False)], ...]` with `min_length=1` -/
def validateSeries (floats : Floats K) (field : String) (values : List K) :
    Except Invalid Unit := do
  Except.raiseIf (values = []) ⟨field, "Tuple should have at least 1 item"⟩
  Except.raiseIf (values.all floats.isFinite = false) ⟨field, "Input should be a finite number"⟩
  Except.raiseIf (values.any (fun value => decide (value < 0)) = true)
    ⟨field, "Input should be greater than or equal to 0"⟩

/-- The fields of `Output`, and what `ComponentOutput` checks of them. -/
def Output.validateFields (floats : Floats K) (output : Output K) : Except Invalid Unit := do
  validateSeries floats "periodic_volatility" output.periodicVolatility
  validateSeries floats "annualized_volatility" output.annualizedVolatility
  Except.raiseIf (output.windowLength < 2) ⟨"window_length",
    "Input should be greater than or equal to 2"⟩
  Except.raiseIf (floats.isFinite output.annualizationFactor = false)
    ⟨"annualization_factor", "Input should be a finite number"⟩
  Except.raiseIf (output.annualizationFactor ≤ 0) ⟨"annualization_factor",
    "Input should be greater than 0"⟩
  Except.raiseIf (output.derivations.length < 2) ⟨"derivations",
    "Tuple should have at least 2 items"⟩
  validateMessages "assumptions" output.assumptions
  validateMessages "warnings" output.warnings
  validateDerivationTargets output.modelFields output.derivations

/-- The validation of `Output`. -/
def Output.validate (floats : Floats K) (sqrt : K → K) (output : Output K) :
    Except Raised Unit := do
  validated (output.validateFields floats)
  validateCompleteRollingLineage sqrt output

/-- `assumptions` of an output -/
def assumptions : List Text :=
  [py "Supplied observations are comparable decimal log returns from one periodic series.",
    py "Each window uses sample standard deviation with an n − 1 denominator.",
    py "Square-root-of-time scaling is accepted for the explicit annualization factor."]

/-- The output of both series and a chart. -/
def outputOf (inputs : Inputs) (warnings : List Text) (annualizationFactor : K)
    (periodic annualized : List K) (visualization : VisualizationSpec K) : Output K where
  periodicVolatility := periodic
  annualizedVolatility := annualized
  windowLength := inputs.windowLength
  annualizationFactor := annualizationFactor
  volatilityTimestamps := inputs.timestamps.map (fun ts => sliceFrom ts (inputs.windowLength - 1))
  declaredFrequency := inputs.declaredFrequency
  orderingVerified := inputs.timestamps.isSome
  derivations := derivationsOf inputs.windowLength periodic annualized
  visualizations := [visualization]
  assumptions := assumptions
  warnings := warnings

/-- What `rolling_historical_volatility` makes of both series. -/
def assemble (floats : Floats K) (sqrt : K → K) (inputs : Inputs) (warnings : List Text)
    (annualizationFactor : K) (periodic annualized : List K) : Except Raised (Output K) := do
  validated ((derivationsOf inputs.windowLength periodic annualized).forM
    (Derivation.validate floats.isFinite))
  let visualization ← visualization floats inputs annualizationFactor annualized assumptions
    warnings
  let output := outputOf inputs warnings annualizationFactor periodic annualized visualization
  output.validate floats sqrt
  return output

/-- What `rolling_historical_volatility` calculates from exact returns. -/
def calculate (floats : Floats K) (sqrt : K → K) (inputs : Inputs) (returns : List K)
    (annualizationFactor : K) (warnings : List Text) : Except Raised (Output K) := do
  let periodic ← (range 0 (returns.length - inputs.windowLength + 1)).mapM (fun start =>
    sampleStandardDeviation floats.isFinite sqrt (slice returns start (start + inputs.windowLength))
      start)
  let factorRoot ← squareRoot sqrt annualizationFactor
  let annualized := periodic.map (fun value => value * factorRoot)
  (periodic.zip annualized).zipIdx.forM (fun p =>
    Except.raiseIf (floats.isFinite p.1.2 = false ∨ 0 < p.1.1 ∧ p.1.2 = 0)
      (nonFiniteResult "annualized" p.2))
  assemble floats sqrt inputs warnings annualizationFactor periodic annualized

/-- `rolling_historical_volatility`, on inputs that the model has accepted. -/
def rollingHistoricalVolatility (floats : Floats K) (stdev : List Binary64 → Except Text Binary64)
    (sqrt : K → K) (inputs : Inputs) : Except Raised (Output K) := do
  let violations ← (preflight stdev (.mapping guidance) inputs.modelDump).mapError Raised.preflight
  let returns ← inputs.returns.mapM exact
  let annualizationFactor ← exact inputs.annualizationFactor
  calculate floats sqrt inputs returns annualizationFactor (violations.map Violation.message)

end

end RollingHistoricalVolatility
