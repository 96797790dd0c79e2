import DefinedQuant.Categories.PriceSeries

/-!
# Log returns

The component `dq.market_data.log_return`: the rules of its contract, its calculation over exact
numbers with `log` and `log1p` as parameters, and the validation of its output. On every input the
rules have outcomes; where no blocking rule fires, the component gives one return for each adjacent
pair of prices or refuses a return that is not finite, `never_fails_late`.
-/

namespace LogReturn

open Calendar (AwareDatetime)
open Validation (Rule Fields Violation preflight)
open SeriesRules
open Calculation
open PriceSeries
open ComponentOutput
open Visualization (AxisSpec ChartSeries VisualizationSpec Invalid boundedItems)

/-! ## The contract -/

/-- `inputs.model_dump(mode="python")` -/
def modelDump (inputs : Inputs Binary64) : Fields :=
  inputs.dumpWith []

/-- `guidance.constraints` of the contract. -/
def constraints : List Rule :=
  priceConstraints
    [insufficientPrices "insufficient_prices: At least two ordered prices are required."] []
    "non_increasing_timestamps: Timestamps must be strictly increasing; observations are never silently reversed or sorted."
    "frequency_without_timestamps: A declared frequency is meaningful only with aligned timestamps."
    "unadjusted_price_interpretation: Unadjusted price changes exclude reinvested distributions and are not total returns."

/-- `guidance.required_questions` of the contract. -/
def requiredQuestions : List (String × String × String) :=
  [("price_kind", "Are these adjusted or unadjusted prices?",
    "The convention changes the economic interpretation even when the arithmetic is identical.")]

/-- What is evaluated of `guidance` of the contract. -/
def guidance : List (Option Text × PyValue) := guidanceOf requiredQuestions constraints

/-! ## The calculation -/

/-- `FORMULA` -/
def formula : String :=
  "rₜ = log1p((Pₜ − Pₜ₋₁) / Pₜ₋₁) if Pₜ ≥ Pₜ₋₁ / 2 and Pₜ₋₁ ≥ Pₜ / 2; otherwise q = Pₜ / Pₜ₋₁ and rₜ = log(q) if 2⁻¹⁰²² ≤ q < ∞, else log(Pₜ) − log(Pₜ₋₁)"

/-- `math.log` and `math.log1p` where they are defined. -/
structure Logarithms (K : Type) where
  log : K → K
  log1p : K → K

/-- `_non_finite_result()` -/
def nonFiniteResult : Raised :=
  .domainError "non_finite_result"
    "non_finite_result: A finite positive price pair produced a log return that cannot be represented as a finite binary64 value."

/-- `log1p((prices[index + 1] - prices[index]) / prices[index])` -/
def relativeExpression (index : ℕ) : Text :=
  py "log1p((prices[" ++ digits (index + 1) ++ py "] - prices[" ++ digits index ++
    py "]) / prices[" ++ digits index ++ py "])"

/-- `log(prices[index + 1] / prices[index])` -/
def ratioExpression (index : ℕ) : Text :=
  py "log(prices[" ++ digits (index + 1) ++ py "] / prices[" ++ digits index ++ py "])"

/-- `log(prices[index + 1]) - log(prices[index])` -/
def differenceExpression (index : ℕ) : Text :=
  py "log(prices[" ++ digits (index + 1) ++ py "]) - log(prices[" ++ digits index ++ py "])"

/-- `Output` -/
structure Output (K : Type) where
  returns : List K
  priceKind : PriceKind
  returnTimestamps : Option (List AwareDatetime)
  declaredFrequency : Option Frequency
  orderingVerified : Bool
  derivations : List (Derivation K)
  visualizations : List (VisualizationSpec K)
  assumptions : List Text
  warnings : List Text

section

variable {K : Type} [Field K] [LinearOrder K] (floats : Floats K) (logs : Logarithms K)

/-- `math.log(x)` -/
def log (x : K) : Except Raised K := if x ≤ 0 then .error (.valueError "math domain error")
    else .ok (logs.log x)

/-- `math.log1p(x)` -/
def log1p (x : K) : Except Raised K :=
  if x ≤ -1 then .error (.valueError "math domain error") else .ok (logs.log1p x)

local instance atLeastTwo_two : Nat.AtLeastTwo 2 := inferInstance

/-- The branch of `_log_return` that is taken. -/
def logReturnBranch (previous current : K) (index : ℕ) : Except Raised (K × Text) := do
  if previous / 2 ≤ current ∧ current / 2 ≤ previous then do
    let relative ← divide (current - previous) previous
    let value ← log1p logs relative
    return (value, relativeExpression index)
  else do
    let ratio ← divide current previous
    if floats.isFinite ratio = true ∧ floatInfoMin ≤ ratio then do
      let value ← log logs ratio
      return (value, ratioExpression index)
    else do
      let minuend ← log logs current
      let subtrahend ← log logs previous
      return (minuend - subtrahend, differenceExpression index)

/-- `_log_return` -/
def logReturnOf (previous current : K) (index : ℕ) : Except Raised (K × Text) := do
  let (value, expression) ← logReturnBranch floats logs previous current index
  Except.raiseIf (floats.isFinite value = false) nonFiniteResult
  return (value, expression)

/-- One turn of the loop of `_calculate`. -/
def calculatePair (pair : (K × K) × ℕ) : Except Raised (Derivation K) := do
  let (value, expression) ← logReturnOf floats logs pair.1.1 pair.1.2 pair.2
  let derivation : Derivation K :=
    { output := ⟨py "returns", pair.2⟩
      inputs := [priceRef pair.2, priceRef (pair.2 + 1)], expression, value }
  validated (derivation.validate floats.isFinite)
  return derivation

/-- `_calculate`, to the derivations that hold the returns -/
def calculate (prices : List K) : Except Raised (List (Derivation K)) :=
  (pairs prices).mapM (calculatePair floats logs)

/-- The labels of the returns: the ends of their intervals. -/
def categories {N : Type} (inputs : Inputs N) : List Text :=
  match inputs.timestamps with
  | none => (List.range' 1 (inputs.prices.length - 1)).map digits
  | some timestamps => timestamps.tail.map AwareDatetime.isoformat

/-- `_visualization` -/
def visualization {N : Type} (inputs : Inputs N) (returns : List K)
    (assumptions warnings : List Text)
    (orderingVerified : Bool) : Except Raised (VisualizationSpec K) := do
  let minimum ← smallest returns
  let maximum ← largest returns
  let spec : VisualizationSpec K :=
    { id := py "log_periodic_returns"
      kind := .line
      title := py "Log periodic returns"
      altText := py "Line chart of " ++ digits returns.length ++ py " log periodic return" ++
        (if returns.length = 1 then [] else py "s") ++ py " from " ++ inputs.priceKind.text ++
        py " prices. Values range from " ++ floats.sixDigits minimum ++ py " to " ++
        floats.sixDigits maximum ++ py " in decimal units."
      categories := categories inputs
      series := [{ key := py "log_return", label := py "Log return", values := returns }]
      xAxis := { label := if inputs.timestamps.isNone then py "Observation end index" else py "Period end" }
      yAxis := { label := py "Log return", unit := .decimal, numberFormat := .decimal }
      caption :=
        some (py "Each value is " ++ py formula ++ py ". Price kind: " ++ inputs.priceKind.text ++
        py "; ordering: " ++ (if orderingVerified then py "verified" else py "unverified") ++
        py "; calendar-aware gaps: not assessed.")
      assumptions := assumptions
      warnings := warnings }
  validated (spec.validate floats.isFinite)
  return spec

omit [Field K] [LinearOrder K] in
/-- The check of one derivation in `validate_complete_return_lineage`. -/
def validateDerivation (indexed : Derivation K × ℕ) : Except Invalid Unit := do
  let (derivation, index) := indexed
  Except.raiseIf (derivation.output ≠ ⟨py "returns", index⟩) ⟨"",
    "return derivations must be ordered and complete"⟩
  Except.raiseIf (derivation.inputs ≠ [priceRef index, priceRef (index + 1)])
    ⟨"", "each return derivation must reference its two source prices"⟩
  Except.raiseIf (derivation.expression ∉ [relativeExpression index, ratioExpression index,
    differenceExpression index])
    ⟨"", "return derivation expression must identify the executed branch"⟩

/-- The part of `validate_complete_return_lineage` about timestamps. -/
def validateTimestamps (output : Output K) : Except Invalid Unit :=
  match output.returnTimestamps with
  | none => do
      Except.raiseIf (output.orderingVerified = true) ⟨"",
        "ordering can be verified only when timestamps are present"⟩
      Except.raiseIf (output.declaredFrequency ≠ none) ⟨"",
        "a declared frequency requires return timestamps"⟩
  | some timestamps => do
      Except.raiseIf (timestamps.length ≠ output.returns.length) ⟨"",
        "return timestamps must align with returns"⟩
      Except.raiseIf (output.orderingVerified = false) ⟨"",
        "timestamped returns must have verified ordering"⟩
      Except.raiseIf (notIncreasing timestamps = true) ⟨"",
        "return timestamps must be strictly increasing"⟩

/-- `validate_complete_return_lineage` -/
def validateCompleteReturnLineage (output : Output K) : Except Invalid Unit := do
  validateTimestamps output
  Except.raiseIf (output.derivations.length ≠ output.returns.length)
    ⟨"", "every return must have exactly one derivation"⟩
  output.derivations.zipIdx.forM validateDerivation

/-- `Output.model_fields` with their values -/
def Output.modelFields (output : Output K) : List (Text × FieldValue K) :=
  [(py "component_id", .other), (py "version", .other), (py "subject_hash", .other),
    (py "unit", .other), (py "assumptions", .items output.assumptions.length),
    (py "disclosures", .items 3), (py "warnings", .items output.warnings.length),
    (py "transformations", .items 2), (py "derivations", .items output.derivations.length),
    (py "visualizations", .items output.visualizations.length),
    (py "returns", .numbers output.returns), (py "return_kind", .other), (py "price_kind", .other),
    (py "return_timestamps", match output.returnTimestamps with
      | none => .other
      | some timestamps => .items timestamps.length),
    (py "declared_frequency", .other), (py "ordering_status", .other), (py "gap_check", .other)]

/-- The validation of `Output`. -/
def Output.validate (output : Output K) : Except Invalid Unit := do
  Except.raiseIf (output.returns = []) ⟨"returns", "Tuple should have at least 1 item"⟩
  Except.raiseIf (output.returns.all floats.isFinite = false) ⟨"returns",
    "Input should be a finite number"⟩
  Except.raiseIf (output.derivations = []) ⟨"derivations", "Tuple should have at least 1 item"⟩
  validateMessages "assumptions" output.assumptions
  validateMessages "warnings" output.warnings
  validateDerivationTargets output.modelFields output.derivations
  validateCompleteReturnLineage output

/-- `assumptions` of an output -/
def assumptionsOf (kind : PriceKind) : List Text :=
  [py "Successive observations refer to the same instrument and price unit.",
    py "Price semantics are caller-declared as " ++ kind.text ++
      py "; the provider's adjustment methodology is accepted as supplied."]

/-- The output of the derivations and a chart. -/
def outputOf (inputs : Inputs Binary64) (warnings : List Text) (derivations : List (Derivation K))
    (visualization : VisualizationSpec K) : Output K where
  returns := derivations.map Derivation.value
  priceKind := inputs.priceKind
  returnTimestamps := inputs.timestamps.map List.tail
  declaredFrequency := inputs.declaredFrequency
  orderingVerified := inputs.timestamps.isSome
  derivations := derivations
  visualizations := [visualization]
  assumptions := assumptionsOf inputs.priceKind
  warnings := warnings

/-- What `log_return` makes of the derivations. -/
def assemble (inputs : Inputs Binary64) (warnings : List Text) (derivations : List (Derivation K)) :
    Except Raised (Output K) := do
  let visualization ← visualization floats inputs (derivations.map Derivation.value)
    (assumptionsOf inputs.priceKind)
    warnings inputs.timestamps.isSome
  let output := outputOf inputs warnings derivations visualization
  validated (output.validate floats)
  return output

/-- `log_return`, on validated inputs -/
def logReturn (stdev : List Binary64 → Except Text Binary64) (inputs : Inputs Binary64) :
    Except Raised (Output K) := do
  let violations ← (preflight stdev (.mapping guidance) (modelDump inputs)).mapError
    Raised.preflight
  let prices ← exactPrices inputs.prices
  let derivations ← calculate floats logs prices
  assemble floats inputs (violations.map Violation.message) derivations

end

/-! ## The rules -/

/-- What every rule of the contract says about the inputs, in the order of the rules. -/
def outcomes (inputs : Inputs Binary64) : List Bool :=
  priceOutcomes [decide ((inputs.prices.length : ℤ) < 2)] [] inputs.prices inputs.instants
    inputs.declaredFrequency
    inputs.priceKind

/-- Every rule of the contract has an outcome on every input. -/
theorem outcomes_of_constraints {stdev : List Binary64 → Except Text Binary64}
    (inputs : Inputs Binary64) :
    Outcomes stdev (modelDump inputs) constraints (outcomes inputs) where
  spelled := by decide
  distinct := by decide
  evaluates := by
    have hHolds := @Inputs.holdsPrices inputs [] rfl rfl
    exact evaluates_priceConstraints hHolds (.cons (evaluates_tooFew hHolds.prices _ _) .nil)
      .nil _ _ _

/-- Where no blocking rule fires, there are two positive prices, and the timestamps are in order. -/
theorem guarded_of_outcomes {inputs : Inputs Binary64}
    (h : NoneBlocks constraints (outcomes inputs)) :
    2 ≤ inputs.prices.length ∧ inputs.Guarded IsPositive := by
  obtain ⟨hFirst, -, hPositive, hOrder⟩ := noneBlocks_priceConstraints rfl rfl h
  rw [noneBlocks_cons] at hFirst
  have hCount : ¬ (inputs.prices.length : ℤ) < 2 := fun hFew => hFirst.1 (decide_eq_true hFew) rfl
  exact ⟨by omega, Inputs.guarded hPositive hOrder⟩

/-! ## The returns -/

section

variable {K : Type} [Field K] [LinearOrder K] [IsStrictOrderedRing K] {floats : Floats K}
    {logs : Logarithms K}

/-- The value of a return and the expression that says how it was calculated. -/
inductive Branch (logs : Logarithms K) (previous current : K) (index : ℕ) : K → Text → Prop
  | relative : Branch logs previous current index (logs.log1p ((current - previous) / previous))
    (relativeExpression index)
  | ratio : Branch logs previous current index (logs.log (current / previous))
    (ratioExpression index)
  | difference : Branch logs previous current index (logs.log current - logs.log previous)
    (differenceExpression index)

omit [IsStrictOrderedRing K] in
theorem log_of_pos {x : K} (h : 0 < x) : log logs x = .ok (logs.log x) := if_neg (not_le.2 h)

variable (floats logs) in
/-- Of two positive prices, no branch divides by zero or leaves the domain of a logarithm. -/
theorem exists_branch {previous current : K} (hPrevious : 0 < previous) (hCurrent : 0 < current)
    (index : ℕ) :
    ∃ value expression, logReturnBranch floats logs previous current index =
      .ok (value, expression) ∧
      Branch logs previous current index value expression := by
  unfold logReturnBranch
  split_ifs with hNear
  · have hDomain : ¬ (current - previous) / previous ≤ -1 := by
      rw [not_le, lt_div_iff₀ hPrevious]
      linarith
    rw [divide_of_ne_zero hPrevious.ne']
    have hLog : log1p logs ((current - previous) / previous) =
      .ok (logs.log1p ((current - previous) / previous)) :=
      if_neg hDomain
    exact ⟨_, _, Except.bind_eq_ok.2 ⟨_, rfl, Except.bind_eq_ok.2 ⟨_, hLog, rfl⟩⟩, .relative⟩
  · by_cases hRepresentable : floats.isFinite (current / previous) = true ∧
      floatInfoMin ≤ current / previous
    · have hLog : log logs (current / previous) = .ok (logs.log (current / previous)) :=
        log_of_pos (div_pos hCurrent hPrevious)
      refine ⟨_, _, Except.bind_eq_ok.2 ⟨_, divide_of_ne_zero hPrevious.ne', ?_⟩, .ratio⟩
      rw [if_pos hRepresentable]
      exact Except.bind_eq_ok.2 ⟨_, hLog, rfl⟩
    · refine ⟨_, _, Except.bind_eq_ok.2 ⟨_, divide_of_ne_zero hPrevious.ne', ?_⟩, .difference⟩
      rw [if_neg hRepresentable]
      exact Except.bind_eq_ok.2 ⟨_, log_of_pos hCurrent,
        Except.bind_eq_ok.2 ⟨_, log_of_pos hPrevious, rfl⟩⟩

/-- The derivation of the return of a pair. -/
structure IsReturn (floats : Floats K) (logs : Logarithms K) (pair : (K × K) × ℕ)
    (derivation : Derivation K) : Prop where
  output : derivation.output = ⟨py "returns", pair.2⟩
  inputs : derivation.inputs = [priceRef pair.2, priceRef (pair.2 + 1)]
  branch : Branch logs pair.1.1 pair.1.2 pair.2 derivation.value derivation.expression
  finite : floats.isFinite derivation.value = true

omit [LinearOrder K] [IsStrictOrderedRing K] in
/-- The expressions are short, and not blank. -/
theorem Branch.expression {previous current value : K} {index : ℕ} {expression : Text}
    (h : Branch logs previous current index value expression) (hIndex : index + 1 ≤ maxsize) :
    Protocol.charsWithin 1 500 expression = true ∧ isBlank expression = false := by
  have hNext := sized_digits hIndex
  have hThis := sized_digits (n := index) (by omega)
  have hNote : IsNote expression := by
    cases h with
    | relative =>
        refine isNote_of_sized ?_
          ((((((sized_py _).append hNext).append (sized_py _)).append hThis).append
          (sized_py _)).append hThis |>.append (sized_py _)) (by decide)
        simp [relativeExpression, isBlank_append, (by decide : isBlank (py "log1p((prices[") =
          false)]
    | ratio =>
        refine isNote_of_sized ?_ (((((sized_py _).append hNext).append (sized_py _)).append
          hThis).append
          (sized_py _)) (by decide)
        simp [ratioExpression, isBlank_append, (by decide : isBlank (py "log(prices[") = false)]
    | difference =>
        refine isNote_of_sized ?_ (((((sized_py _).append hNext).append (sized_py _)).append
          hThis).append
          (sized_py _)) (by decide)
        simp [differenceExpression, isBlank_append, (by decide : isBlank (py "log(prices[") =
          false)]
  exact ⟨hNote.within, hNote.notBlank⟩

/-- A pair of positive prices has a return, unless the return is not finite. -/
theorem answers_calculatePair {pair : (K × K) × ℕ} (hPrevious : 0 < pair.1.1)
    (hCurrent : 0 < pair.1.2) (hIndex : pair.2 + 1 ≤ maxsize) :
    Answers nonFiniteResult (IsReturn floats logs pair) (calculatePair floats logs pair) := by
  obtain ⟨value, expression, hBranch, hIs⟩ := exists_branch floats logs hPrevious hCurrent pair.2
  obtain ⟨hExpression, hBlank⟩ := hIs.expression hIndex
  have hReturn : Answers nonFiniteResult (fun r => r = (value, expression) ∧
    floats.isFinite value = true)
      (logReturnOf floats logs pair.1.1 pair.1.2 pair.2) := by
    apply Answers.of_ok hBranch
    exact Answers.raiseIf (fun hFinite => .ok ⟨rfl, Bool.not_eq_false _ ▸ hFinite⟩)
  refine hReturn.bind ?_
  rintro r ⟨rfl, hFinite⟩
  have hValid : Derivation.Valid floats.isFinite
      { output := ⟨py "returns", pair.2⟩, inputs := [priceRef pair.2, priceRef (pair.2 + 1)],
        expression, value } := by
    refine ⟨⟨(by decide : Protocol.isSafeId (py "returns") = true), Int.natCast_nonneg _⟩, ?_,
      List.cons_ne_nil _ _, hExpression, hBlank, hFinite, ?_⟩
    · rw [List.forall_mem_cons, List.forall_mem_singleton]
      exact ⟨validRef_priceRef _, validRef_priceRef _⟩
    · simp [priceRef]
  apply Answers.of_ok (a := ()) (validated_eq_ok.2 (Derivation.validate_eq_ok.2 hValid))
  exact .ok ⟨rfl, rfl, hIs, hFinite⟩

/-- The loop over all pairs. -/
theorem answers_calculate {prices : List K} (hPositive : ∀ p ∈ prices, 0 < p)
    (hLength : prices.length ≤ maxsize) :
    Answers nonFiniteResult (List.Forall₂ (IsReturn floats logs) (pairs prices))
      (calculate floats logs prices) := by
  refine Answers.mapM (fun pair hPair => ?_)
  obtain ⟨hIndex, hPrevious, hCurrent⟩ := mem_pairs hPair
  exact answers_calculatePair (hPositive _ hPrevious) (hPositive _ hCurrent)
    (hIndex.le.trans hLength)

/-! ## The chart -/

omit [Field K] [LinearOrder K] [IsStrictOrderedRing K] in
theorem length_categories {N : Type} {inputs : Inputs N}
    (hAligned : ∀ ts, inputs.timestamps = some ts → ts.length = inputs.prices.length) :
    (categories inputs).length = inputs.prices.length - 1 := by
  unfold categories
  cases hTimes : inputs.timestamps with
  | none => rw [List.length_map, List.length_range']
  | some ts => rw [List.length_map, List.length_tail, hAligned ts hTimes]

omit [Field K] [LinearOrder K] [IsStrictOrderedRing K] in
/-- The labels fit the chart. -/
theorem charsWithin_categories {N : Type} (inputs : Inputs N) :
    ∀ label ∈ categories inputs, Protocol.charsWithin 1 80 label = true := by
  intro label hLabel
  unfold categories at hLabel
  split at hLabel
  · obtain ⟨i, hi, rfl⟩ := List.mem_map.1 hLabel
    have hMax := inputs.length_le
    rw [List.mem_range'_1] at hi
    exact (sized_digits (by omega)).charsWithin le_rfl (by decide)
  · obtain ⟨t, -, rfl⟩ := List.mem_map.1 hLabel
    exact (sized_isoformat t).charsWithin le_rfl (by decide)

omit [Field K] [IsStrictOrderedRing K] in
/-- The chart of finite returns is valid. -/
theorem visualization_eq_ok {N : Type} (inputs : Inputs N) {returns : List K}
    {assumptions warnings : List Text}
    (hReturns : returns ≠ []) (hFinite : ∀ r ∈ returns, floats.isFinite r = true)
    (hAligned : returns.length = (categories inputs).length) (hCount : returns.length ≤ maxsize)
    (hAssumptions : Visualization.ValidNotes assumptions)
    (hWarnings : Visualization.ValidNotes warnings) (verified : Bool) :
    ∃ spec, visualization floats inputs returns assumptions warnings verified = .ok spec ∧
      spec.categories = categories inputs := by
  obtain ⟨minimum, hMinimum⟩ := exists_smallest hReturns
  obtain ⟨maximum, hMaximum⟩ := exists_largest hReturns
  have hCategories : categories inputs ≠ [] := by
    rw [← List.length_pos_iff, ← hAligned]
    exact List.length_pos_iff.2 hReturns
  -- The texts that vary with the inputs are bounded piece by piece.
  have hPlural : Sized 0 1 (if returns.length = 1 then [] else py "s") := by
    split_ifs
    · exact ⟨List.forall_mem_nil _, le_rfl, Nat.zero_le _⟩
    · exact sized_py "s"
  have hOrdering : Sized 0 10 (if verified = true then py "verified" else py "unverified") := by
    split_ifs
    · exact ⟨encodable_py _, Nat.zero_le _, by decide⟩
    · exact sized_py "unverified"
  refine ⟨_, Except.bind_eq_ok.2 ⟨_, hMinimum, Except.bind_eq_ok.2 ⟨_, hMaximum,
    Except.bind_eq_ok.2 ⟨(), validated_eq_ok.2 (VisualizationSpec.validate_eq_ok.2 ?_), rfl⟩⟩⟩, rfl⟩
  -- One goal for each check of the specification.
  constructor
  all_goals dsimp only
  case id => decide
  case title => decide
  case altText =>
    exact ((((((((((sized_literal _ (by decide)).append (sized_digits hCount)).append
      (sized_py _)).append
      hPlural).append (sized_py _)).append (sized_priceKind _)).append (sized_py _)).append
      (sized_sixDigits floats _)).append (sized_py _)).append (sized_sixDigits floats _) |>.append
      (sized_py _)).charsWithin (by decide) (by decide)
  case xLabel => cases inputs.timestamps.isNone <;> decide
  case yLabel => decide
  case caption =>
    exact (((((((sized_py _).append (sized_py _)).append (sized_py _)).append
      (sized_priceKind _)).append
      (sized_py _)).append hOrdering).append (sized_py _)).charsWithin (Nat.zero_le _)
        (by decide +kernel)
  case categories => exact hCategories
  case eachCategory => exact charsWithin_categories inputs
  case series => exact ⟨le_rfl, (by decide : 1 ≤ 12)⟩
  case eachSeries =>
    rw [List.forall_mem_singleton]
    exact ⟨(by decide : Protocol.charsWithin 1 64 (py "log_return") = true ∧
      Protocol.isSafeId (py "log_return") = true),
      (by decide : Protocol.charsWithin 1 120 (py "Log return") = true), hReturns, hFinite⟩
  case aligned =>
    rw [List.forall_mem_singleton]
    exact hAligned
  case keys => exact List.nodup_singleton _
  case assumptions => exact hAssumptions
  case warnings => exact hWarnings
  case width => decide
  case height => decide
  case version => decide
  case kind => exact ⟨(fun hKind => by cases hKind), fun _ => rfl⟩

/-! ## The output -/

omit [Field K] [LinearOrder K] [IsStrictOrderedRing K] in
theorem isNote_assumptionsOf (kind : PriceKind) : ∀ note ∈ assumptionsOf kind, IsNote note := by
  rw [assumptionsOf, List.forall_mem_cons, List.forall_mem_singleton]
  refine ⟨isNote_py (by decide) (by decide), ?_⟩
  refine isNote_of_sized ?_ (((sized_py _).append (sized_priceKind kind)).append (sized_py _))
    (by decide)
  simp [isBlank_append, (by decide : isBlank (py "Price semantics are caller-declared as ") =
    false)]

/-- What the component says of the prices: one return for each adjacent pair, in their order. -/
structure Returns (logs : Logarithms K) (inputs : Inputs Binary64) (prices : List K)
    (output : Output K) : Prop where
  numbers : List.Forall₂ (fun x r => exact x = .ok r) inputs.prices prices
  count : output.returns.length + 1 = prices.length
  lineage : output.derivations.length = output.returns.length
  /-- The return at `i` is calculated from the prices `i` and `i + 1`, which its derivation names. -/
  each : ∀ i < output.returns.length, ∃ previous current value expression,
    prices[i]? = some previous ∧ prices[i + 1]? = some current ∧ output.returns[i]? = some value ∧
      output.derivations[i]? = some
        { output := ⟨py "returns", i⟩, inputs := [priceRef i, priceRef (i + 1)], expression,
          value } ∧
      Branch logs previous current i value expression
  /-- The return at `i` is labelled with the timestamp of the price `i + 1`. -/
  labels : ∀ ts, inputs.timestamps = some ts → ∃ ends chart, output.returnTimestamps = some ends ∧
    output.visualizations = [chart] ∧ ends.length = output.returns.length ∧
    ∀ i < ends.length, ∃ t, ts[i + 1]? = some t ∧ ends[i]? = some t ∧
      chart.categories[i]? = some t.isoformat
  accepted : validateCompleteReturnLineage output = .ok () ∧
    validateDerivationTargets output.modelFields output.derivations = .ok ()

omit [LinearOrder K] [IsStrictOrderedRing K] in
/-- A derivation from its parts. -/
theorem IsReturn.eq {pair : (K × K) × ℕ} {derivation : Derivation K}
    (h : IsReturn floats logs pair derivation) :
    derivation = { output := ⟨py "returns", pair.2⟩
                   inputs := [priceRef pair.2, priceRef (pair.2 + 1)]
                   expression := derivation.expression
                   value := derivation.value } := by
  obtain ⟨output, inputs, expression, value⟩ := derivation
  obtain ⟨rfl, rfl, -, -⟩ := h
  rfl

/-- The derivations of the returns of prices, each at its index. -/
def AreReturns (floats : Floats K) (logs : Logarithms K) (prices : List K)
    (derivations : List (Derivation K)) : Prop :=
  derivations.length = prices.length - 1 ∧ ∀ i d, derivations[i]? = some d → ∃ previous current,
    prices[i]? = some previous ∧ prices[i + 1]? = some current ∧
    IsReturn floats logs ((previous, current), i) d

omit [LinearOrder K] [IsStrictOrderedRing K] in
theorem areReturns_of_forall₂ {prices : List K} {derivations : List (Derivation K)}
    (h : List.Forall₂ (IsReturn floats logs) (pairs prices) derivations) :
    AreReturns floats logs prices derivations := by
  refine ⟨h.length_eq.symm.trans length_pairs, fun i d hd => ?_⟩
  obtain ⟨⟨⟨previous, current⟩, j⟩, hPair, hReturn⟩ := exists_partner h hd
  obtain ⟨rfl, hPrevious, hCurrent⟩ := getElem?_pairs hPair
  exact ⟨previous, current, hPrevious, hCurrent, hReturn⟩

omit [LinearOrder K] [IsStrictOrderedRing K] in
theorem Branch.mem {previous current value : K} {index : ℕ} {expression : Text}
    (h : Branch logs previous current index value expression) :
    expression ∈ [relativeExpression index, ratioExpression index, differenceExpression index] := by
  cases h <;> simp

section

variable (inputs : Inputs Binary64) {prices : List K} (warnings : List Text)
    {derivations : List (Derivation K)}
  (chart : VisualizationSpec K)

omit [LinearOrder K] [IsStrictOrderedRing K] in
theorem AreReturns.finite (h : AreReturns floats logs prices derivations) :
    ∀ r ∈ derivations.map Derivation.value, floats.isFinite r = true := by
  intro r hr
  obtain ⟨d, hd, rfl⟩ := List.mem_map.1 hr
  obtain ⟨i, hi⟩ := List.mem_iff_getElem?.1 hd
  obtain ⟨previous, current, -, -, hReturn⟩ := h.2 i d hi
  exact hReturn.finite

omit [IsStrictOrderedRing K] in
/-- Every derivation points at its return. -/
theorem AreReturns.targets (h : AreReturns floats logs prices derivations) :
    validateDerivationTargets (outputOf inputs warnings derivations chart).modelFields derivations =
      .ok () := by
  have hField : (outputOf inputs warnings derivations chart).modelFields.lookup (py "returns") =
      some (.numbers (derivations.map Derivation.value)) := by
    simp [Output.modelFields, outputOf, List.lookup_cons, Validation.py_beq]
  apply validateDerivationTargets_of_targets
  · apply nodup_outputs
    intro i d hd
    obtain ⟨previous, current, -, -, hReturn⟩ := h.2 i d hd
    rw [hReturn.output]
  · intro d hd
    obtain ⟨i, hi⟩ := List.mem_iff_getElem?.1 hd
    obtain ⟨previous, current, -, -, hReturn⟩ := h.2 i d hi
    refine @Targets.numbers K _ d (derivations.map Derivation.value) i ?_ ?_ ?_
    · rw [hReturn.output]
      exact hField
    · rw [hReturn.output]
    · rw [List.getElem?_map, hi, Option.map_some]

omit [Field K] [LinearOrder K] [IsStrictOrderedRing K] in
/-- The timestamps of guarded inputs, the first one left out, are accepted. -/
theorem validateTimestamps_outputOf (hGuarded : inputs.Guarded IsPositive)
    (hLength : derivations.length = inputs.prices.length - 1) :
    validateTimestamps (outputOf inputs warnings derivations chart) = .ok () := by
  unfold validateTimestamps outputOf
  cases hTs : inputs.timestamps with
  | none =>
      exact Visualization.andThen_eq_ok.2 ⟨Except.raiseIf_eq_ok.2 Bool.false_ne_true,
        Except.raiseIf_eq_ok.2 (not_not.2 (hGuarded.frequency hTs))⟩
  | some ts =>
      have hAligned : ts.tail.length = (derivations.map Derivation.value).length := by
        rw [List.length_map, hLength, List.length_tail, hGuarded.aligned ts hTs]
      have hChain : (ts.tail.map AwareDatetime.instant).IsChain (· < ·) := by
        rw [List.map_tail]
        exact (hGuarded.increasing ts hTs).tail
      have hIncreasing : ¬ notIncreasing ts.tail = true := by
        rw [notIncreasing_of_isChain hChain]
        decide
      exact Visualization.andThen_eq_ok.2 ⟨Except.raiseIf_eq_ok.2 (not_not.2 hAligned),
        Visualization.andThen_eq_ok.2 ⟨Except.raiseIf_eq_ok.2 (Bool.noConfusion),
          Except.raiseIf_eq_ok.2 hIncreasing⟩⟩

omit [LinearOrder K] [IsStrictOrderedRing K] in
/-- The lineage of the returns is accepted. -/
theorem AreReturns.lineage (h : AreReturns floats logs prices derivations)
    (hTimestamps : validateTimestamps (outputOf inputs warnings derivations chart) = .ok ()) :
    validateCompleteReturnLineage (outputOf inputs warnings derivations chart) = .ok () := by
  refine Visualization.andThen_eq_ok.2 ⟨hTimestamps, Visualization.andThen_eq_ok.2
    ⟨Except.raiseIf_eq_ok.2 (not_not.2 (List.length_map _).symm), Except.forM_eq_ok.2 ?_⟩⟩
  rintro ⟨d, i⟩ hp
  obtain ⟨previous, current, -, -, hReturn⟩ := h.2 i d (List.mem_zipIdx_iff_getElem?.1 hp)
  exact Visualization.andThen_eq_ok.2 ⟨Except.raiseIf_eq_ok.2 (not_not.2 hReturn.output),
    Visualization.andThen_eq_ok.2 ⟨Except.raiseIf_eq_ok.2 (not_not.2 hReturn.inputs),
      Except.raiseIf_eq_ok.2 (not_not.2 hReturn.branch.mem)⟩⟩

variable {inputs warnings}

omit [IsStrictOrderedRing K] in
/-- The output of the returns of two or more positive prices is accepted. -/
theorem assemble_eq_ok (hGuarded : inputs.Guarded IsPositive) (hTwo : 2 ≤ inputs.prices.length)
    (hNumbers : exactPrices inputs.prices = .ok prices) (hWarnings : warnings.length ≤ 20)
    (hNotes : ∀ note ∈ warnings, IsNote note) (h : AreReturns floats logs prices derivations) :
    ∃ output, assemble floats inputs warnings derivations = .ok output ∧
      Returns logs inputs prices output := by
  have hCount : prices.length = inputs.prices.length := (forall₂_exact hNumbers).length_eq.symm
  have hLength : derivations.length = inputs.prices.length - 1 := by rw [h.1, hCount]
  have hNonempty : derivations ≠ [] := by
    rw [← List.length_pos_iff, hLength]
    omega
  have hValues : derivations.map Derivation.value ≠ [] := by rwa [ne_eq, List.map_eq_nil_iff]
  have hMax := inputs.length_le
  -- The steps of the source in their order: the chart, and then the checks of the output.
  obtain ⟨chart, hChart, hCategories⟩ := visualization_eq_ok inputs hValues h.finite
    (by rw [List.length_map, hLength, length_categories hGuarded.aligned])
    (by rw [List.length_map, hLength]; omega)
    (validNotes_of_isNote (by show 2 ≤ 20; decide) (isNote_assumptionsOf inputs.priceKind))
    (validNotes_of_isNote hWarnings hNotes) inputs.timestamps.isSome
  have hTargets := h.targets inputs warnings chart
  have hLineage :=
    h.lineage inputs warnings chart (validateTimestamps_outputOf inputs warnings chart hGuarded
      hLength)
  have hAllFinite : ¬ (derivations.map Derivation.value).all floats.isFinite = false := by
    rw [List.all_eq_true.2 h.finite]
    decide
  -- The validators of the output, one after the other.
  have hValid : (outputOf inputs warnings derivations chart).validate floats = .ok () :=
    Visualization.andThen_eq_ok.2 ⟨Except.raiseIf_eq_ok.2 hValues,
      Visualization.andThen_eq_ok.2 ⟨Except.raiseIf_eq_ok.2 hAllFinite,
      Visualization.andThen_eq_ok.2 ⟨Except.raiseIf_eq_ok.2 hNonempty,
      Visualization.andThen_eq_ok.2
      ⟨validateMessages_of_isNote (isNote_assumptionsOf inputs.priceKind),
      Visualization.andThen_eq_ok.2 ⟨validateMessages_of_isNote hNotes,
      Visualization.andThen_eq_ok.2 ⟨hTargets, hLineage⟩⟩⟩⟩⟩⟩
  refine ⟨outputOf inputs warnings derivations chart, Except.bind_eq_ok.2 ⟨chart, hChart,
    Except.bind_eq_ok.2 ⟨(), validated_eq_ok.2 hValid, rfl⟩⟩, ?_⟩
  -- What the output says about the prices.
  refine ⟨forall₂_exact hNumbers, ?_, (List.length_map _).symm, fun i hi => ?_, fun ts hTs => ?_,
    hLineage, hTargets⟩
  · show (derivations.map Derivation.value).length + 1 = _
    rw [List.length_map]
    omega
  · have hLess : i < derivations.length := by rwa [← List.length_map]
    have hd := List.getElem?_eq_getElem hLess
    obtain ⟨previous, current, hPrevious, hCurrent, hReturn⟩ := h.2 i _ hd
    refine ⟨previous, current, derivations[i].value, derivations[i].expression, hPrevious, hCurrent,
      ?_, ?_, hReturn.branch⟩
    · show (derivations.map Derivation.value)[i]? = _
      rw [List.getElem?_map, hd, Option.map_some]
    · exact hd.trans (congrArg some hReturn.eq)
  -- A return belongs to the later of its two timestamps.
  · have hAligned := hGuarded.aligned ts hTs
    refine ⟨ts.tail, chart, ?_, rfl, ?_, fun i hi => ?_⟩
    · show inputs.timestamps.map _ = _
      rw [hTs, Option.map_some]
    · show _ = (derivations.map Derivation.value).length
      rw [List.length_tail, List.length_map]
      omega
    · have hLess : i + 1 < ts.length := by
        rw [List.length_tail] at hi
        omega
      refine ⟨ts[i + 1], List.getElem?_eq_getElem hLess, ?_, ?_⟩
      · rw [List.getElem?_tail, List.getElem?_eq_getElem hLess]
      · rw [hCategories, categories, hTs]
        show (ts.tail.map AwareDatetime.isoformat)[i]? = _
        rw [List.getElem?_map, List.getElem?_tail, List.getElem?_eq_getElem hLess, Option.map_some]

theorem messagesStand_constraints : MessagesStand constraints := by
  refine ⟨by decide, ?_⟩
  simp only [constraints, priceConstraints, timestampRules, List.cons_append, List.nil_append,
    List.forall_mem_cons, List.not_mem_nil, false_imp_iff, implies_true, and_true]
  refine ⟨?_, ?_, ?_, ?_, ?_, ?_, ?_, ?_, ?_⟩ <;> (apply message_stands; decide)

/-- The warnings that go into an output. -/
def warningsOf (inputs : Inputs Binary64) : List Text :=
  ((violationsOf constraints (outcomes inputs)).filter (fun v => v.severity = .warning)).map
    Violation.message

omit [IsStrictOrderedRing K] in
/-- What the component does where no blocking rule fires. -/
theorem logReturn_eq {stdev : List Binary64 → Except Text Binary64} {inputs : Inputs Binary64}
    (hNone : ∀ v ∈ violationsOf constraints (outcomes inputs), v.severity ≠ .blocking) :
    logReturn floats logs stdev inputs = (do
      let prices ← exactPrices inputs.prices
      let derivations ← calculate floats logs prices
      assemble floats inputs (warningsOf inputs) derivations) := by
  refine bind_preflight_guidanceOf requiredQuestions (outcomes_of_constraints inputs)
    (fun q hq => ?_) hNone _
  rw [requiredQuestions, List.mem_singleton] at hq
  rw [hq]
  simp [Validation.hasField, modelDump, Inputs.dumpWith, Inputs.pricesField, Inputs.priceKindField]

/-- On every input the rules of the contract evaluate, and where no blocking rule fires the
component refuses a return that is not finite or gives the returns of all adjacent pairs. -/
theorem never_fails_late (stdev : List Binary64 → Except Text Binary64) (floats : Floats K)
    (logs : Logarithms K) (inputs : Inputs Binary64) :
    NeverFailsLate (Validation.evaluateConstraints stdev guidance (modelDump inputs))
      nonFiniteResult
      (fun output => ∃ prices, Returns logs inputs prices output)
        (logReturn floats logs stdev inputs) := by
  have hOutcomes : Outcomes stdev (modelDump inputs) constraints (outcomes inputs) :=
    outcomes_of_constraints inputs
  refine ⟨_, evaluateConstraints_guidanceOf hOutcomes, fun hNone => ?_⟩
  obtain ⟨hTwo, hGuarded⟩ := guarded_of_outcomes (noneBlocks_of_violations hNone)
  obtain ⟨hWarnings, hNotes⟩ := isNote_warnings hOutcomes messagesStand_constraints
  obtain ⟨prices, hNumbers, hPositive⟩ := exists_exactPrices (K := K) hGuarded.positive
  have hMax : prices.length ≤ maxsize := by
    rw [← (forall₂_exact hNumbers).length_eq]
    exact inputs.length_le
  rw [logReturn_eq hNone]
  apply Answers.of_ok hNumbers
  refine (answers_calculate hPositive hMax).bind (fun derivations hDerivations => ?_)
  obtain ⟨output, hOutput, hReturns⟩ := assemble_eq_ok hGuarded hTwo hNumbers hWarnings hNotes
    (areReturns_of_forall₂ hDerivations)
  exact .inr ⟨output, hOutput, prices, hReturns⟩

end

end

end LogReturn
