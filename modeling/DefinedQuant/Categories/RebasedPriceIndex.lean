import DefinedQuant.Categories.PriceSeries

/-!
# Rebased price indexes

The component `dq.market_data.rebased_price_index`: the rules of its contract, its calculation over
exact numbers and the validation of its output. On every input the rules have outcomes; where no
blocking rule fires, the component gives one index value for each price, the base value at the base,
or refuses a value that is not finite, `never_fails_late`.
-/

namespace RebasedPriceIndex

open Calendar (AwareDatetime)
open Validation (Rule Fields Violation preflight comparison measureOf literal allOf field)
open SeriesRules
open Calculation
open PriceSeries
open ComponentOutput
open Visualization (VisualizationSpec Invalid)

/-! ## The contract -/

/-- `Inputs` -/
structure Inputs extends PriceSeries.Inputs Binary64 where
  baseIndex : ℤ
  baseValue : Binary64

/-- `inputs.model_dump(mode="python")` -/
def modelDump (inputs : Inputs) : Fields :=
  inputs.dumpWith [(py "base_index", .int inputs.baseIndex),
    (py "base_value", .float inputs.baseValue)]

def negativeBaseIndex : Rule where
  id := "negative_base_index"
  severity := .blocking
  condition := comparison (field "base_index") "lt" (literal (.int 0))
  message := "negative_base_index: Base index must be zero or greater."

def baseIndexOutOfRange : Rule where
  id := "base_index_out_of_range"
  severity := .blocking
  condition := comparison (field "base_index") "ge" (measureOf "prices" "count")
  message := "base_index_out_of_range: The base index must identify an observation in prices."

def nonFiniteBaseValue : Rule :=
  nonFinite "non_finite_base_value" "base_value"
    "non_finite_base_value: The base value must be finite."

def nonPositiveBaseValue : Rule :=
  nonPositive "non_positive_base_value" "base_value"
    "non_positive_base_value: The base value must be greater than zero."

/-- `guidance.constraints` of the contract. -/
def constraints : List Rule :=
  priceConstraints [] [negativeBaseIndex, baseIndexOutOfRange, nonFiniteBaseValue,
    nonPositiveBaseValue]
    "non_increasing_timestamps: Timestamps must be strictly increasing; observations are never silently sorted."
    "frequency_without_timestamps: A declared frequency requires aligned timestamps."
    "unadjusted_price_interpretation: Unadjusted prices can contain corporate-action breaks and exclude reinvested distributions."

/-- `guidance.required_questions` of the contract. -/
def requiredQuestions : List (String × String × String) :=
  [("price_kind", "Are the supplied prices adjusted or unadjusted?",
      "Corporate actions and distributions change the interpretation of the path."),
    ("base_index", "Which zero-based observation index should be the base?",
      "Changing the base observation changes every index value."),
    ("base_value", "What positive index value should the base observation equal?",
      "The component never assumes 100 or any other base value.")]

/-- What is evaluated of `guidance` of the contract. -/
def guidance : List (Option Text × PyValue) := guidanceOf requiredQuestions constraints

/-! ## The calculation -/

/-- `FORMULA` -/
def formula : String := "Iₜ = B × (Pₜ / P_b)"

/-- `_blocking_error("non_finite_result", ...)` -/
def nonFiniteResult : Raised :=
  .domainError "non_finite_result"
    "non_finite_result: Finite positive inputs produced an unrepresentable rebased value."

/-- `InputRef(field="base_value", index=0)` -/
def baseValueRef : InputRef := ⟨py "base_value", 0⟩

/-- The inputs of the derivation of a value. -/
def inputRefs (index : ℕ) (baseIndex : ℤ) : List InputRef :=
  if (index : ℤ) = baseIndex then [⟨py "prices", baseIndex⟩, baseValueRef]
  else [priceRef index, ⟨py "prices", baseIndex⟩, baseValueRef]

/-- `base_value * (prices[index] / prices[base_index])` -/
def indexExpression (index : ℕ) (baseIndex : ℤ) : Text :=
  if (index : ℤ) = baseIndex then py "base_value at base_index"
  else py "base_value * (prices[" ++ digits index ++ py "] / prices[" ++ digits baseIndex.toNat ++
    py "])"

/-- `Output` -/
structure Output (K : Type) where
  indexValues : List K
  priceKind : PriceKind
  baseIndex : ℤ
  baseValue : K
  indexTimestamps : Option (List AwareDatetime)
  declaredFrequency : Option Frequency
  orderingVerified : Bool
  derivations : List (Derivation K)
  visualizations : List (VisualizationSpec K)
  assumptions : List Text
  warnings : List Text

section

variable {K : Type} [Field K] [LinearOrder K] (floats : Floats K)

/-- `xs[i]`, where a negative index counts from the end -/
def itemAt {α : Type} (xs : List α) (i : ℤ) : Except Raised α :=
  if i < 0 then if i + xs.length < 0 then .error .indexError else item xs (i + xs.length).toNat
  else item xs i.toNat

/-- `_rebased_value`; infinity is no number. -/
def rebasedValue (baseValue price basePrice : K) : Except Raised (Option K) := do
  let ratio ← divide price basePrice
  let value := baseValue * ratio
  if floats.isFinite value = true ∧ floatInfoMin ≤ ratio ∧ floatInfoMin ≤ value then
    return some value
  else do
    -- the fraction is converted where it has a finite double, otherwise `OverflowError` is caught
    let fraction ← divide (baseValue * price) basePrice
    return if floats.isFinite fraction = true then some fraction else none

/-- `value <= 0.0` or no finite number -/
def unrepresentable (value : Option K) : Bool :=
  match value with
  | some value => !floats.isFinite value || decide (value ≤ 0)
  | none => true

/-- The value of a price before it is checked: the base value itself at the base. -/
def uncheckedValue (baseIndex : ℤ) (baseValue basePrice : K) (indexed : K × ℕ) :
    Except Raised (Option K) :=
  if (indexed.2 : ℤ) = baseIndex then .ok (some baseValue)
    else rebasedValue floats baseValue indexed.1 basePrice

/-- One turn of the loop over the prices. -/
def indexValue (baseIndex : ℤ) (baseValue basePrice : K) (indexed : K × ℕ) : Except Raised K := do
  match ← uncheckedValue floats baseIndex baseValue basePrice indexed with
  | none => .error nonFiniteResult
  | some value => do
      Except.raiseIf (unrepresentable floats (some value) = true) nonFiniteResult
      return value

omit [Field K] [LinearOrder K] in
/-- The derivation of a value. -/
def derivationOf (baseIndex : ℤ) (indexed : K × ℕ) : Derivation K where
  output := ⟨py "index_values", indexed.2⟩
  inputs := inputRefs indexed.2 baseIndex
  expression := indexExpression indexed.2 baseIndex
  value := indexed.1

/-- `_visualization` -/
def visualization (inputs : Inputs) (baseValue : K) (values : List K)
    (assumptions warnings : List Text) : Except Raised (VisualizationSpec K) := do
  let lowest ← smallest values
  let highest ← largest values
  let spec : VisualizationSpec K :=
    { id := py "rebased_price_index"
      kind := .line
      title := py "Rebased price index (base = " ++ floats.sixDigits baseValue ++ py ")"
      altText :=
        py "Line chart of " ++ digits values.length ++ py " rebased price observations from " ++
        inputs.priceKind.text ++ py " prices, ranging from " ++ floats.sixDigits lowest ++
        py " to " ++ floats.sixDigits highest ++ py "."
      categories := pointLabels inputs.toInputs values.length
      series := [{ key := py "rebased_price_index", label := py "Rebased price index", values }]
      xAxis := { label := if inputs.timestamps.isNone then py "Observation" else py "Observation time" }
      yAxis := { label := py "Rebased price index", unit := .unitless, numberFormat := .decimal }
      caption := some (py formula ++ py "; b = " ++ digits inputs.baseIndex.toNat ++ py ", B = " ++
        floats.sixDigits baseValue ++ py ". This is a normalized price path, not a return series.")
      assumptions := assumptions
      warnings := warnings }
  validated (spec.validate floats.isFinite)
  return spec

omit [Field K] [LinearOrder K] in
/-- The part of `validate_complete_lineage` about timestamps. -/
def validateTimestamps (output : Output K) : Except Invalid Unit :=
  match output.indexTimestamps with
  | none => do
      Except.raiseIf (output.orderingVerified = true) ⟨"",
        "ordering status must be unverified without timestamps"⟩
      Except.raiseIf (output.declaredFrequency ≠ none) ⟨"",
        "declared frequency requires index timestamps"⟩
  | some timestamps => do
      Except.raiseIf (timestamps.length ≠ output.indexValues.length)
        ⟨"", "index timestamps must align with index values"⟩
      Except.raiseIf (notIncreasing timestamps = true) ⟨"",
        "index timestamps must be strictly increasing"⟩
      Except.raiseIf (output.orderingVerified = false)
        ⟨"", "ordering status must be verified when timestamps are present"⟩

omit [Field K] [LinearOrder K] in
/-- The check of one derivation in `validate_complete_lineage`. -/
def validateDerivation (baseIndex : ℤ) (indexed : Derivation K × ℕ) : Except Invalid Unit := do
  let (derivation, index) := indexed
  Except.raiseIf (derivation.output ≠ ⟨py "index_values", index⟩)
    ⟨"", "index derivations must be ordered and complete"⟩
  Except.raiseIf (derivation.inputs ≠ inputRefs index baseIndex)
    ⟨"", "index derivation inputs must match the explicit base"⟩
  Except.raiseIf (derivation.expression ≠ indexExpression index baseIndex)
    ⟨"", "index derivation expression must match executed indexing"⟩

/-- `validate_complete_lineage`, where the base index is not negative -/
def validateCompleteLineage (output : Output K) : Except Invalid Unit := do
  validateTimestamps output
  Except.raiseIf ((output.indexValues.length : ℤ) ≤ output.baseIndex) ⟨"",
    "base index must identify an index value"⟩
  Except.raiseIf (output.indexValues[output.baseIndex.toNat]? ≠ some output.baseValue)
    ⟨"", "the index value at base_index must equal base_value"⟩
  Except.raiseIf (output.derivations.length ≠ output.indexValues.length)
    ⟨"", "every index value must have exactly one derivation"⟩
  output.derivations.zipIdx.forM (validateDerivation output.baseIndex)

/-- `Output.model_fields` with their values -/
def Output.modelFields (output : Output K) : List (Text × FieldValue K) :=
  [(py "component_id", .other), (py "version", .other), (py "subject_hash", .other),
    (py "unit", .other), (py "assumptions", .items output.assumptions.length),
    (py "disclosures", .items 2), (py "warnings", .items output.warnings.length),
    (py "transformations", .items 2), (py "derivations", .items output.derivations.length),
    (py "visualizations", .items output.visualizations.length),
    (py "index_values", .numbers output.indexValues), (py "price_kind", .other),
    (py "base_index", .number output.baseIndex), (py "base_value", .number output.baseValue),
    (py "index_timestamps", match output.indexTimestamps with
      | none => .other
      | some timestamps => .items timestamps.length),
    (py "declared_frequency", .other), (py "ordering_status", .other), (py "gap_check", .other)]

/-- The validation of `Output`. -/
def Output.validate (output : Output K) : Except Invalid Unit := do
  Except.raiseIf (output.indexValues = []) ⟨"index_values", "Tuple should have at least 1 item"⟩
  Except.raiseIf (output.indexValues.any (fun value => unrepresentable floats (some value)) = true)
    ⟨"index_values", "Input should be a finite number greater than 0"⟩
  Except.raiseIf (output.baseIndex < 0) ⟨"base_index", "Input should be greater than or equal to 0"⟩
  Except.raiseIf (unrepresentable floats (some output.baseValue) = true)
    ⟨"base_value", "Input should be a finite number greater than 0"⟩
  Except.raiseIf (output.derivations = []) ⟨"derivations", "Tuple should have at least 1 item"⟩
  validateMessages "assumptions" output.assumptions
  validateMessages "warnings" output.warnings
  validateDerivationTargets output.modelFields output.derivations
  validateCompleteLineage output

/-- `assumptions` of an output -/
def assumptionsOf (kind : PriceKind) : List Text :=
  [py "All observations refer to the same instrument and price unit.",
    py "Price semantics are caller-declared as " ++ kind.text ++ py "."]

/-- The output of the values and a chart. -/
def outputOf (inputs : Inputs) (warnings : List Text) (baseValue : K) (values : List K)
    (visualization : VisualizationSpec K) : Output K where
  indexValues := values
  priceKind := inputs.priceKind
  baseIndex := inputs.baseIndex
  baseValue := baseValue
  indexTimestamps := inputs.timestamps
  declaredFrequency := inputs.declaredFrequency
  orderingVerified := inputs.timestamps.isSome
  derivations := values.zipIdx.map (derivationOf inputs.baseIndex)
  visualizations := [visualization]
  assumptions := assumptionsOf inputs.priceKind
  warnings := warnings

/-- What `rebased_price_index` makes of the values. -/
def assemble (inputs : Inputs) (warnings : List Text) (baseValue : K) (values : List K) :
    Except Raised (Output K) := do
  validated ((values.zipIdx.map (derivationOf inputs.baseIndex)).forM
    (Derivation.validate floats.isFinite))
  let visualization ← visualization floats inputs baseValue values (assumptionsOf inputs.priceKind)
    warnings
  let output := outputOf inputs warnings baseValue values visualization
  validated (output.validate floats)
  return output

/-- `_blocking_error("base_index_out_of_range", ...)` -/
def outOfRange : Raised :=
  .domainError "base_index_out_of_range"
    "base_index_out_of_range: The base index must identify an observation in prices."

/-- `rebased_price_index`, on validated inputs -/
def rebasedPriceIndex (stdev : List Binary64 → Except Text Binary64) (inputs : Inputs) :
    Except Raised (Output K) := do
  let violations ← (preflight stdev (.mapping guidance) (modelDump inputs)).mapError
    Raised.preflight
  let prices ← exactPrices inputs.prices
  let baseValue ← exact inputs.baseValue
  Except.raiseIf ((prices.length : ℤ) ≤ inputs.baseIndex) outOfRange
  let basePrice ← itemAt prices inputs.baseIndex
  let values ← prices.zipIdx.mapM (indexValue floats inputs.baseIndex baseValue basePrice)
  assemble floats inputs (violations.map Violation.message) baseValue values

end

/-! ## The rules -/

/-- What every rule of the contract says about the inputs, in the order of the rules. -/
def outcomes (inputs : Inputs) : List Bool :=
  priceOutcomes []
    [decide (inputs.baseIndex < 0), decide ((inputs.prices.length : ℤ) ≤ inputs.baseIndex),
      !inputs.baseValue.isFinite, inputs.baseValue.isFinite && atMostZero inputs.baseValue]
    inputs.prices inputs.instants inputs.declaredFrequency inputs.priceKind

section

variable {stdev : List Binary64 → Except Text Binary64} (inputs : Inputs)

theorem holdsPrices : HoldsPrices (modelDump inputs) inputs.prices inputs.instants
    inputs.declaredFrequency
    inputs.priceKind :=
  PriceSeries.Inputs.holdsPrices _ (by simp [List.lookup_cons, Validation.py_beq])
    (by simp [List.lookup_cons, Validation.py_beq])

theorem lookup_base_index : (modelDump inputs).lookup (py "base_index") =
    some (.int inputs.baseIndex) := by
  simp [modelDump, Inputs.dumpWith, Inputs.pricesField, Inputs.priceKindField, List.lookup_cons,
    Validation.py_beq]

theorem holdsBaseValue : HoldsNumber (modelDump inputs) "base_value" inputs.baseValue := by
  simp [HoldsNumber, modelDump, Inputs.dumpWith, Inputs.pricesField, Inputs.priceKindField,
    List.lookup_cons, Validation.py_beq]

theorem evaluates_negativeBaseIndex :
    Evaluates stdev (modelDump inputs) negativeBaseIndex (decide (inputs.baseIndex < 0)) :=
  (Validation.evaluateExpression_comparison 2
    (Validation.resolveOperand_field (lookup_base_index inputs))
    (Validation.resolveOperand_literal _)).trans (Validation.compare_lt _ _ _ _)

theorem evaluates_baseIndexOutOfRange :
    Evaluates stdev (modelDump inputs) baseIndexOutOfRange
      (decide ((inputs.prices.length : ℤ) ≤ inputs.baseIndex)) :=
  (Validation.evaluateExpression_comparison 2
    (Validation.resolveOperand_field (lookup_base_index inputs))
    (resolve_count (holdsPrices inputs).prices)).trans (Validation.compare_ge _ _ _ _)

/-- Every rule of the contract has an outcome on every input. -/
theorem outcomes_of_constraints : Outcomes stdev (modelDump inputs) constraints (outcomes inputs)
    where
  spelled := by decide
  distinct := by decide
  evaluates := evaluates_priceConstraints (holdsPrices inputs) .nil
    (.cons (evaluates_negativeBaseIndex inputs)
      (.cons (evaluates_baseIndexOutOfRange inputs)
      (.cons (evaluates_nonFinite_number (holdsBaseValue inputs) _ _)
      (.cons (evaluates_nonPositive (holdsBaseValue inputs) _ _) .nil)))) _ _ _

variable {inputs}

/-- Where no blocking rule fires, the prices and the base value are positive, and the base is one of
the prices. -/
theorem guarded_of_outcomes (h : NoneBlocks constraints (outcomes inputs)) :
    inputs.Guarded IsPositive ∧ (∃ b : ℕ, inputs.baseIndex = b ∧ b < inputs.prices.length) ∧
      IsPositive inputs.baseValue := by
  obtain ⟨-, hOwn, hPositive, hOrder⟩ := noneBlocks_priceConstraints rfl rfl h
  simp only [noneBlocks_cons, negativeBaseIndex, baseIndexOutOfRange, nonFiniteBaseValue, nonFinite,
    nonPositiveBaseValue, nonPositive, ne_eq, not_true_eq_false, imp_false,
    Bool.not_eq_true] at hOwn
  obtain ⟨hNegative, hRange, hBaseFinite, hBasePositive, -⟩ := hOwn
  refine ⟨Inputs.guarded hPositive hOrder, ?_, ?_⟩
  · have hLow := of_decide_eq_false hNegative
    have hHigh := of_decide_eq_false hRange
    exact ⟨inputs.baseIndex.toNat, by omega, by omega⟩
  · have hBase : inputs.baseValue.isFinite = true := by simpa using hBaseFinite
    exact isPositive_of_not_fires hBase (by simpa [hBase] using hBasePositive)

end

/-! ## The values -/

section

variable {K : Type} [Field K] [LinearOrder K] [IsStrictOrderedRing K] {floats : Floats K} {b : ℕ}
  {baseValue basePrice : K}

/-- The index value of a price: the base value at the base. -/
def valueOf (b : ℕ) (baseValue basePrice : K) (indexed : K × ℕ) : K :=
  if indexed.2 = b then baseValue else baseValue * (indexed.1 / basePrice)

omit [IsStrictOrderedRing K] in
variable (floats baseValue) in
/-- Both ways of calculating give the same number, and the second refuses what is not finite. -/
theorem rebasedValue_eq_ok (price : K) (hBase : basePrice ≠ 0) :
    ∃ value, rebasedValue floats baseValue price basePrice = .ok value ∧
      (value = some (baseValue * (price / basePrice)) ∨ value = none) := by
  unfold rebasedValue
  rw [divide_of_ne_zero hBase]
  by_cases hNormal : floats.isFinite (baseValue * (price / basePrice)) = true ∧
    floatInfoMin ≤ price / basePrice ∧
      floatInfoMin ≤ baseValue * (price / basePrice)
  · exact ⟨_, Except.bind_eq_ok.2 ⟨_, rfl, if_pos hNormal⟩, .inl rfl⟩
  · refine ⟨_, Except.bind_eq_ok.2 ⟨_, rfl, (if_neg hNormal).trans (Except.bind_eq_ok.2
      ⟨_, divide_of_ne_zero hBase, rfl⟩)⟩, ?_⟩
    rw [mul_div_assoc]
    split_ifs
    · exact .inl rfl
    · exact .inr rfl

omit [IsStrictOrderedRing K] in
/-- Every price has its value, unless that is not finite. -/
theorem answers_indexValue (hBase : basePrice ≠ 0) (indexed : K × ℕ) :
    Answers nonFiniteResult (fun value => value = valueOf b baseValue basePrice indexed ∧
      unrepresentable floats (some value) = false) (indexValue floats b baseValue basePrice
        indexed) := by
  have hValue : ∃ value, uncheckedValue floats b baseValue basePrice indexed = .ok value ∧
        (value = some (valueOf b baseValue basePrice indexed) ∨ value = none) := by
    by_cases hAt : indexed.2 = b
    · exact ⟨some baseValue, if_pos (by rw [hAt]), .inl (by rw [valueOf, if_pos hAt])⟩
    · obtain ⟨value, hRebased, hOr⟩ := rebasedValue_eq_ok floats baseValue indexed.1 hBase
      rw [valueOf, if_neg hAt]
      exact ⟨value, (if_neg (fun h => hAt (Int.natCast_inj.1 h))).trans hRebased, hOr⟩
  obtain ⟨value, hEq, rfl | rfl⟩ := hValue
  · refine Answers.of_ok hEq ?_
    apply Answers.raiseIf
    intro hRepresentable
    exact .ok ⟨rfl, Bool.eq_false_iff.2 hRepresentable⟩
  · refine Answers.of_ok hEq ?_
    exact .inl rfl

/-- The values of prices, each at its index. -/
def AreValues (floats : Floats K) (b : ℕ) (baseValue basePrice : K) (prices values : List K) :
    Prop :=
  values.length = prices.length ∧ ∀ i value, values[i]? = some value → ∃ price,
    prices[i]? = some price ∧
    value = valueOf b baseValue basePrice (price, i) ∧ unrepresentable floats (some value) = false

omit [IsStrictOrderedRing K] in
theorem answers_values (hBase : basePrice ≠ 0) (prices : List K) :
    Answers nonFiniteResult (AreValues floats b baseValue basePrice prices)
      (prices.zipIdx.mapM (indexValue floats b baseValue basePrice)) := by
  refine (Answers.mapM (fun indexed _ => answers_indexValue (b := b) hBase indexed)).imp
    (fun values h => ?_)
  refine ⟨h.length_eq.symm.trans List.length_zipIdx, fun i value hValue => ?_⟩
  obtain ⟨⟨price, j⟩, hPair, hIs⟩ := exists_partner h hValue
  rw [List.getElem?_zipIdx, Option.map_eq_some_iff] at hPair
  obtain ⟨price, hPrice, hSame⟩ := hPair
  cases hSame
  rw [Nat.zero_add] at hIs
  exact ⟨price, hPrice, hIs⟩

omit [Field K] [IsStrictOrderedRing K] in
/-- What is representable is finite. -/
theorem finite_of_representable [Zero K] {value : K}
    (h : (!floats.isFinite value || decide (value ≤ 0)) = false) :
    floats.isFinite value = true := by
  obtain ⟨hFinite, -⟩ := (Bool.or_eq_false_iff ..).1 h
  simpa using hFinite

omit [IsStrictOrderedRing K] in
theorem AreValues.finite {prices values : List K}
    (h : AreValues floats b baseValue basePrice prices values) :
    ∀ value ∈ values, floats.isFinite value = true := by
  intro value hValue
  obtain ⟨i, hi⟩ := List.mem_iff_getElem?.1 hValue
  obtain ⟨price, -, -, hRepresentable⟩ := h.2 i value hi
  exact finite_of_representable hRepresentable

omit [IsStrictOrderedRing K] in
/-- At the base stands the base value. -/
theorem AreValues.base {prices values : List K}
    (h : AreValues floats b baseValue basePrice prices values)
    (hb : b < prices.length) : values[b]? = some baseValue ∧
    unrepresentable floats (some baseValue) = false := by
  have hLess : b < values.length := by rwa [h.1]
  obtain ⟨price, -, hValue, hRepresentable⟩ := h.2 b _ (List.getElem?_eq_getElem hLess)
  rw [valueOf, if_pos rfl] at hValue
  rw [hValue] at hRepresentable
  exact ⟨by rw [List.getElem?_eq_getElem hLess, hValue], hRepresentable⟩

omit [Field K] [LinearOrder K] [IsStrictOrderedRing K] in
/-- The derivation of a finite value is valid. -/
theorem valid_derivationOf {indexed : K × ℕ} (hFinite : floats.isFinite indexed.1 = true)
    (hIndex : indexed.2 ≤ maxsize) (hb : b ≤ maxsize) :
    (derivationOf (b : ℤ) indexed).Valid floats.isFinite := by
  have hBaseRef : Protocol.isSafeId (py "prices") = true ∧ (0 : ℤ) ≤ b :=
    ⟨by decide, Int.natCast_nonneg b⟩
  have hValueRef : Protocol.isSafeId baseValueRef.field = true ∧ 0 ≤ baseValueRef.index :=
    ⟨(by decide : Protocol.isSafeId (py "base_value") = true), le_rfl⟩
  have hNote : IsNote (indexExpression indexed.2 b) := by
    unfold indexExpression
    split_ifs
    · exact isNote_py (by decide) (by decide)
    · refine isNote_of_sized ?_
        (((((sized_py _).append (sized_digits hIndex)).append (sized_py _)).append
        (sized_digits (n := (b : ℤ).toNat) (by rwa [Int.toNat_natCast]))).append (sized_py _))
          (by decide)
      simp [isBlank_append, (by decide : isBlank (py "base_value * (prices[") = false)]
  refine ⟨⟨(by decide : Protocol.isSafeId (py "index_values") = true), Int.natCast_nonneg _⟩, ?_,
    ?_, hNote.within, hNote.notBlank, hFinite, ?_⟩
  · show ∀ item ∈ inputRefs indexed.2 b, _
    unfold inputRefs
    split_ifs
    · rw [List.forall_mem_cons, List.forall_mem_singleton]
      exact ⟨hBaseRef, hValueRef⟩
    · rw [List.forall_mem_cons, List.forall_mem_cons, List.forall_mem_singleton]
      exact ⟨validRef_priceRef _, hBaseRef, hValueRef⟩
  · show inputRefs indexed.2 b ≠ []
    unfold inputRefs
    split_ifs
    · exact List.cons_ne_nil _ _
    · exact List.cons_ne_nil _ _
  · show (inputRefs indexed.2 b).Nodup
    unfold inputRefs
    split_ifs with hAt
    · simp [baseValueRef]
    · simp [baseValueRef, priceRef, hAt]

/-! ## The chart -/

omit [Field K] [IsStrictOrderedRing K] in
variable (baseValue) in
/-- The chart of finite values is valid. -/
theorem visualization_eq_ok (inputs : Inputs) {values : List K} {assumptions warnings : List Text}
    (hValues : values ≠ []) (hFinite : ∀ value ∈ values, floats.isFinite value = true)
    (hAligned : ∀ ts, inputs.timestamps = some ts → ts.length = values.length)
    (hCount : values.length ≤ maxsize) (hBase : inputs.baseIndex = b) (hb : b ≤ maxsize)
    (hAssumptions : Visualization.ValidNotes assumptions)
    (hWarnings : Visualization.ValidNotes warnings) :
    ∃ spec, visualization floats inputs baseValue values assumptions warnings = .ok spec ∧
      spec.categories = pointLabels inputs.toInputs values.length := by
  obtain ⟨lowest, hLowest⟩ := exists_smallest hValues
  obtain ⟨highest, hHighest⟩ := exists_largest hValues
  have hCategories := length_pointLabels hAligned
  have hBaseDigits : Sized 1 19 (digits inputs.baseIndex.toNat) := by
    rw [hBase, Int.toNat_natCast]
    exact sized_digits hb
  refine ⟨_, Except.bind_eq_ok.2 ⟨_, hLowest, Except.bind_eq_ok.2 ⟨_, hHighest,
    Except.bind_eq_ok.2 ⟨(), validated_eq_ok.2 (VisualizationSpec.validate_eq_ok.2 ?_), rfl⟩⟩⟩, rfl⟩
  -- One goal for each check of the specification. The texts that vary with the inputs are bounded
  -- piece by piece.
  constructor
  all_goals dsimp only
  case id => decide
  case title =>
    exact (((sized_literal _ (by decide)).append (sized_sixDigits floats _)).append
      (sized_py _)).charsWithin
      (by decide) (by decide)
  case altText =>
    exact ((((((((sized_literal _ (by decide)).append (sized_digits hCount)).append
      (sized_py _)).append
      (sized_priceKind _)).append (sized_py _)).append (sized_sixDigits floats _)).append
        (sized_py _)).append
      (sized_sixDigits floats _) |>.append (sized_py _)).charsWithin (by decide) (by decide)
  case xLabel => cases inputs.timestamps.isNone <;> decide
  case yLabel => decide
  case caption =>
    exact (((((sized_py _).append (sized_py _)).append hBaseDigits).append (sized_py _)).append
      (sized_sixDigits floats _) |>.append (sized_py _)).charsWithin (Nat.zero_le _) (by decide)
  case categories =>
    rw [← List.length_pos_iff, hCategories]
    exact List.length_pos_iff.2 hValues
  case eachCategory => exact charsWithin_pointLabels inputs.toInputs hCount
  case series => exact ⟨le_rfl, (by decide : 1 ≤ 12)⟩
  case eachSeries =>
    rw [List.forall_mem_singleton]
    exact ⟨(by decide : Protocol.charsWithin 1 64 (py "rebased_price_index") = true ∧
        Protocol.isSafeId (py "rebased_price_index") = true),
      (by decide : Protocol.charsWithin 1 120 (py "Rebased price index") = true), hValues, hFinite⟩
  case aligned =>
    rw [List.forall_mem_singleton]
    exact hCategories.symm
  case keys => exact List.nodup_singleton _
  case assumptions => exact hAssumptions
  case warnings => exact hWarnings
  case width => decide
  case height => decide
  case version => decide
  case kind => exact ⟨nofun, fun _ => rfl⟩

/-! ## The output -/

omit [Field K] [LinearOrder K] [IsStrictOrderedRing K] in
theorem isNote_assumptionsOf (kind : PriceKind) : ∀ note ∈ assumptionsOf kind, IsNote note := by
  rw [assumptionsOf, List.forall_mem_cons, List.forall_mem_singleton]
  refine ⟨isNote_py (by decide) (by decide), ?_⟩
  refine isNote_of_sized ?_ (((sized_py _).append (sized_priceKind kind)).append (sized_py _))
    (by decide)
  simp [isBlank_append, (by decide : isBlank (py "Price semantics are caller-declared as ") =
    false)]

/-- What the component says of the prices: one value for each of them, in their order. -/
structure Rebases (inputs : Inputs) (prices : List K) (output : Output K) : Prop where
  numbers : List.Forall₂ (fun x r => exact x = .ok r) inputs.prices prices
  count : output.indexValues.length = prices.length
  lineage : output.derivations.length = output.indexValues.length
  baseNumber : exact inputs.baseValue = .ok output.baseValue
  /-- The value at the base index is the base value. -/
  base : ∃ b : ℕ, inputs.baseIndex = b ∧ output.indexValues[b]? = some output.baseValue
  /-- The value at `i` is calculated from the prices and the base value that its derivation names. -/
  each : ∀ i < output.indexValues.length, ∃ price basePrice value,
    prices[i]? = some price ∧ prices[inputs.baseIndex.toNat]? = some basePrice ∧
      output.indexValues[i]? = some value ∧
      output.derivations[i]? = some (derivationOf inputs.baseIndex (value, i)) ∧
      value = valueOf inputs.baseIndex.toNat output.baseValue basePrice (price, i)
  /-- The value at `i` is labelled with the timestamp of the price `i`. -/
  labels : ∀ ts, inputs.timestamps = some ts → ∃ chart, output.indexTimestamps = some ts ∧
    output.visualizations = [chart] ∧ ts.length = output.indexValues.length ∧
    chart.categories = ts.map AwareDatetime.isoformat
  accepted : validateCompleteLineage output = .ok () ∧
    validateDerivationTargets output.modelFields output.derivations = .ok ()

section

variable (baseValue) (inputs : Inputs) {prices : List K} (values : List K) (warnings : List Text)
  (chart : VisualizationSpec K)

omit [IsStrictOrderedRing K] in
/-- Every derivation points at its value. -/
theorem targets_outputOf :
    validateDerivationTargets (outputOf inputs warnings baseValue values chart).modelFields
    (values.zipIdx.map (derivationOf inputs.baseIndex)) = .ok () := by
  have hField : (outputOf inputs warnings baseValue values chart).modelFields.lookup
    (py "index_values") =
      some (.numbers values) := by
    simp [Output.modelFields, outputOf, List.lookup_cons, Validation.py_beq]
  apply validateDerivationTargets_of_targets
  · apply nodup_outputs
    intro i d hd
    obtain ⟨value, -, rfl⟩ := getElem?_map_zipIdx hd
    rfl
  · intro d hd
    obtain ⟨i, hi⟩ := List.mem_iff_getElem?.1 hd
    obtain ⟨value, hValue, rfl⟩ := getElem?_map_zipIdx hi
    exact .numbers hField rfl hValue

omit [IsStrictOrderedRing K] [LinearOrder K] [Field K] in
/-- The timestamps of guarded inputs are accepted. -/
theorem validateTimestamps_outputOf (hGuarded : inputs.Guarded IsPositive)
    (hLength : values.length = inputs.prices.length) :
    validateTimestamps (outputOf inputs warnings baseValue values chart) = .ok () := by
  unfold validateTimestamps outputOf
  cases hTs : inputs.timestamps with
  | none =>
      exact Visualization.andThen_eq_ok.2 ⟨Except.raiseIf_eq_ok.2 Bool.false_ne_true,
        Except.raiseIf_eq_ok.2 (not_not.2 (hGuarded.frequency hTs))⟩
  | some ts =>
      have hAligned : ts.length = values.length := by rw [hLength, hGuarded.aligned ts hTs]
      have hIncreasing : ¬ notIncreasing ts = true := by
        rw [notIncreasing_of_isChain (hGuarded.increasing ts hTs)]
        decide
      exact Visualization.andThen_eq_ok.2 ⟨Except.raiseIf_eq_ok.2 (not_not.2 hAligned),
        Visualization.andThen_eq_ok.2 ⟨Except.raiseIf_eq_ok.2 hIncreasing,
          Except.raiseIf_eq_ok.2 (Bool.noConfusion)⟩⟩

omit [Field K] [IsStrictOrderedRing K] in
/-- The lineage of the values is accepted. -/
theorem lineage_outputOf
    (hTimestamps : validateTimestamps (outputOf inputs warnings baseValue values chart) = .ok ())
    (hBase : inputs.baseIndex = b) (hValue : values[b]? = some baseValue) :
    validateCompleteLineage (outputOf inputs warnings baseValue values chart) = .ok () := by
  have hLess : b < values.length := (List.getElem?_eq_some_iff.1 hValue).1
  have hRange : ¬ ((values.length : ℤ) ≤ inputs.baseIndex) := by
    rw [hBase]
    omega
  have hAtBase : ¬ values[inputs.baseIndex.toNat]? ≠ some baseValue := by
    rw [hBase, Int.toNat_natCast, hValue]
    exact not_not.2 rfl
  have hCount : ¬ (values.zipIdx.map (derivationOf inputs.baseIndex)).length ≠ values.length := by
    rw [List.length_map, List.length_zipIdx]
    exact not_not.2 rfl
  refine Visualization.andThen_eq_ok.2 ⟨hTimestamps,
    Visualization.andThen_eq_ok.2 ⟨Except.raiseIf_eq_ok.2 hRange,
    Visualization.andThen_eq_ok.2 ⟨Except.raiseIf_eq_ok.2 hAtBase, Visualization.andThen_eq_ok.2
    ⟨Except.raiseIf_eq_ok.2 hCount, Except.forM_eq_ok.2 ?_⟩⟩⟩⟩
  rintro ⟨d, i⟩ hp
  have hAt : (values.zipIdx.map (derivationOf inputs.baseIndex))[i]? = some d :=
    List.mem_zipIdx_iff_getElem?.1 hp
  obtain ⟨value, -, rfl⟩ := getElem?_map_zipIdx hAt
  exact Visualization.andThen_eq_ok.2 ⟨Except.raiseIf_eq_ok.2 (not_not.2 rfl),
    Visualization.andThen_eq_ok.2
    ⟨Except.raiseIf_eq_ok.2 (not_not.2 rfl), Except.raiseIf_eq_ok.2 (not_not.2 rfl)⟩⟩

variable {baseValue inputs values warnings}

omit [IsStrictOrderedRing K] in
/-- The output of the values of positive prices is accepted. -/
theorem assemble_eq_ok (hGuarded : inputs.Guarded IsPositive) (hBase : inputs.baseIndex = b)
    (hb : b < inputs.prices.length) (hNumbers : exactPrices inputs.prices = .ok prices)
    (hBaseValue : exact inputs.baseValue = .ok baseValue) (hBasePrice : prices[b]? = some basePrice)
    (hWarnings : warnings.length ≤ 20) (hNotes : ∀ note ∈ warnings, IsNote note)
    (h : AreValues floats b baseValue basePrice prices values) :
    ∃ output, assemble floats inputs warnings baseValue values = .ok output ∧
      Rebases inputs prices output := by
  have hCount : prices.length = inputs.prices.length := (forall₂_exact hNumbers).length_eq.symm
  have hLength : values.length = inputs.prices.length := h.1.trans hCount
  have hMax := inputs.length_le
  have hValues : values ≠ [] := by
    rw [← List.length_pos_iff, hLength]
    omega
  obtain ⟨hAtBase, hBaseRepresentable⟩ := h.base (by rwa [hCount])
  -- The steps of the source in their order: the chart, the derivations, and the checks of the
  -- output.
  obtain ⟨chart, hChart, hCategories⟩ := visualization_eq_ok baseValue inputs hValues h.finite
    (fun ts hTs => by rw [hLength, hGuarded.aligned ts hTs]) (by omega) hBase (by omega)
    (validNotes_of_isNote (by show 2 ≤ 20; decide) (isNote_assumptionsOf inputs.priceKind))
    (validNotes_of_isNote hWarnings hNotes)
  -- Every derivation passes its own check.
  have hDerivations : (values.zipIdx.map (derivationOf inputs.baseIndex)).forM
    (Derivation.validate floats.isFinite) =
      .ok () := by
    rw [Except.forM_eq_ok]
    intro d hd
    obtain ⟨i, hi⟩ := List.mem_iff_getElem?.1 hd
    obtain ⟨value, hValue, rfl⟩ := getElem?_map_zipIdx hi
    have hLess : i < values.length := (List.getElem?_eq_some_iff.1 hValue).1
    rw [hBase]
    exact Derivation.validate_eq_ok.2
      (valid_derivationOf (h.finite value (List.mem_of_getElem? hValue)) (by omega)
      (by omega))
  have hTargets := targets_outputOf baseValue inputs values warnings chart
  have hTimestamps := validateTimestamps_outputOf baseValue inputs values warnings chart hGuarded
    hLength
  have hLineage := lineage_outputOf baseValue inputs values warnings chart hTimestamps hBase hAtBase
  have hRepresentable : ¬ values.any (fun value => unrepresentable floats (some value)) = true := by
    rw [List.any_eq_true]
    rintro ⟨value, hValue, hNot⟩
    obtain ⟨i, hi⟩ := List.mem_iff_getElem?.1 hValue
    obtain ⟨price, -, -, hIs⟩ := h.2 i value hi
    rw [hIs] at hNot
    cases hNot
  have hNonnegative : ¬ inputs.baseIndex < 0 := by
    rw [hBase]
    omega
  have hBaseFits : ¬ unrepresentable floats (some baseValue) = true := by
    rw [hBaseRepresentable]
    decide
  have hNonempty : values.zipIdx.map (derivationOf inputs.baseIndex) ≠ [] := by
    rw [← List.length_pos_iff, List.length_map, List.length_zipIdx]
    exact List.length_pos_iff.2 hValues
  -- The validators of the output, one after the other.
  have hValid : (outputOf inputs warnings baseValue values chart).validate floats = .ok () :=
    Visualization.andThen_eq_ok.2 ⟨Except.raiseIf_eq_ok.2 hValues,
      Visualization.andThen_eq_ok.2 ⟨Except.raiseIf_eq_ok.2 hRepresentable,
      Visualization.andThen_eq_ok.2 ⟨Except.raiseIf_eq_ok.2 hNonnegative,
      Visualization.andThen_eq_ok.2 ⟨Except.raiseIf_eq_ok.2 hBaseFits,
      Visualization.andThen_eq_ok.2 ⟨Except.raiseIf_eq_ok.2 hNonempty,
      Visualization.andThen_eq_ok.2
      ⟨validateMessages_of_isNote (isNote_assumptionsOf inputs.priceKind),
      Visualization.andThen_eq_ok.2 ⟨validateMessages_of_isNote hNotes,
      Visualization.andThen_eq_ok.2 ⟨hTargets, hLineage⟩⟩⟩⟩⟩⟩⟩⟩
  refine ⟨outputOf inputs warnings baseValue values chart,
    Except.bind_eq_ok.2 ⟨(), validated_eq_ok.2 hDerivations,
    Except.bind_eq_ok.2 ⟨chart, hChart, Except.bind_eq_ok.2 ⟨(), validated_eq_ok.2 hValid, rfl⟩⟩⟩,
    ?_⟩
  -- What the output says about the prices.
  refine ⟨forall₂_exact hNumbers, h.1, ?_, hBaseValue, ⟨b, hBase, hAtBase⟩, fun i hi => ?_,
    fun ts hTs => ?_, hLineage, hTargets⟩
  · show (values.zipIdx.map (derivationOf inputs.baseIndex)).length = values.length
    rw [List.length_map, List.length_zipIdx]
  · have hLess : i < values.length := hi
    have hValue := List.getElem?_eq_getElem hLess
    obtain ⟨price, hPrice, hIs, -⟩ := h.2 i _ hValue
    refine ⟨price, basePrice, values[i], hPrice, ?_, hValue, ?_, ?_⟩
    · rw [hBase, Int.toNat_natCast, hBasePrice]
    · show (values.zipIdx.map (derivationOf inputs.baseIndex))[i]? = _
      rw [List.getElem?_map, List.getElem?_zipIdx, hValue, Option.map_some, Option.map_some,
        Nat.zero_add]
    · rw [hBase, Int.toNat_natCast]
      exact hIs
  · refine ⟨chart, hTs, rfl, ?_, ?_⟩
    · show _ = values.length
      rw [hLength, hGuarded.aligned ts hTs]
    · rw [hCategories, pointLabels, hTs]

set_option maxRecDepth 1000 in
theorem messagesStand_constraints : MessagesStand constraints := by
  refine ⟨by decide, ?_⟩
  simp only [constraints, priceConstraints, timestampRules, List.cons_append, List.nil_append,
    List.forall_mem_cons, List.not_mem_nil, false_imp_iff, implies_true, and_true]
  refine ⟨?_, ?_, ?_, ?_, ?_, ?_, ?_, ?_, ?_, ?_, ?_, ?_⟩ <;> (apply message_stands; decide)

/-- The warnings that go into an output. -/
def warningsOf (inputs : Inputs) : List Text :=
  ((violationsOf constraints (outcomes inputs)).filter (fun v => v.severity = .warning)).map
    Violation.message

omit [IsStrictOrderedRing K] in
/-- What the component does where no blocking rule fires. -/
theorem rebasedPriceIndex_eq {stdev : List Binary64 → Except Text Binary64} {inputs : Inputs}
    (hNone : ∀ v ∈ violationsOf constraints (outcomes inputs), v.severity ≠ .blocking) :
    rebasedPriceIndex floats stdev inputs = (do
      let prices ← exactPrices (K := K) inputs.prices
      let baseValue ← exact inputs.baseValue
      Except.raiseIf ((prices.length : ℤ) ≤ inputs.baseIndex) outOfRange
      let basePrice ← itemAt prices inputs.baseIndex
      let values ← prices.zipIdx.mapM (indexValue floats inputs.baseIndex baseValue basePrice)
      assemble floats inputs (warningsOf inputs) baseValue values) := by
  refine bind_preflight_guidanceOf requiredQuestions (outcomes_of_constraints inputs)
    (fun question hQuestion => ?_)
    hNone _
  simp only [requiredQuestions, List.mem_cons, List.not_mem_nil, or_false] at hQuestion
  rcases hQuestion with rfl | rfl | rfl
  all_goals simp [Validation.hasField, modelDump, Inputs.dumpWith, Inputs.pricesField,
    Inputs.priceKindField]

/-- On every input the rules of the contract evaluate, and where no blocking rule fires the
component refuses a value that is not finite or gives the index values of all prices. -/
theorem never_fails_late (stdev : List Binary64 → Except Text Binary64) (floats : Floats K)
    (inputs : Inputs) :
    NeverFailsLate (Validation.evaluateConstraints stdev guidance (modelDump inputs))
      nonFiniteResult
      (fun output => ∃ prices, Rebases inputs prices output) (rebasedPriceIndex (K :=
        K) floats stdev inputs) := by
  have hOutcomes : Outcomes stdev (modelDump inputs) constraints (outcomes inputs) :=
    outcomes_of_constraints inputs
  refine ⟨_, evaluateConstraints_guidanceOf hOutcomes, fun hNone => ?_⟩
  obtain ⟨hGuarded, ⟨b, hBase, hb⟩, q, hq, hPos⟩ :=
    guarded_of_outcomes (noneBlocks_of_violations hNone)
  obtain ⟨hWarnings, hNotes⟩ := isNote_warnings hOutcomes messagesStand_constraints
  obtain ⟨prices, hNumbers, hPositive⟩ := exists_exactPrices (K := K) hGuarded.positive
  have hCount : prices.length = inputs.prices.length := (forall₂_exact hNumbers).length_eq.symm
  have hBaseValue : exact inputs.baseValue = .ok (q : K) := by rw [exact, hq]
  have hLess : b < prices.length := by omega
  have hRange : ¬ (prices.length : ℤ) ≤ inputs.baseIndex := by omega
  have hItem : itemAt prices inputs.baseIndex = .ok prices[b] := by
    rw [hBase, itemAt, if_neg (by omega), Int.toNat_natCast]
    exact item_of_getElem? (List.getElem?_eq_getElem hLess)
  have hBasePrice : prices[b] ≠ 0 := (hPositive _ (List.getElem_mem hLess)).ne'
  rw [rebasedPriceIndex_eq hNone]
  apply Answers.of_ok hNumbers
  apply Answers.of_ok hBaseValue
  apply Answers.of_ok (a := ()) (Except.raiseIf_eq_ok.2 hRange)
  apply Answers.of_ok hItem
  rw [hBase]
  refine (answers_values hBasePrice prices).bind (fun values hValues => ?_)
  obtain ⟨output, hOutput, hRebases⟩ := assemble_eq_ok hGuarded hBase hb hNumbers hBaseValue
    (List.getElem?_eq_getElem hLess) hWarnings hNotes hValues
  exact .inr ⟨output, hOutput, prices, hRebases⟩

end

end

end RebasedPriceIndex
