import DefinedQuant.Categories.SampleStandardDeviation
import Mathlib.Analysis.Real.Sqrt
import Mathlib.Tactic.Positivity

/-!
# The rules guard the calculation

Every rule of the contract has an outcome on every input, so the evaluation of the rules never
fails. Inputs on which no blocking rule fires meet the preconditions of every partial operation of
the calculation, and their output is accepted where its numbers are finite.
-/

namespace RollingHistoricalVolatility

open Calendar (AwareDatetime)
open Validation
open SeriesRules
open Calculation hiding Raised
open ComponentOutput
open Visualization (VisualizationSpec andThen_eq_ok)

/-! ## The outcomes of the rules -/

/-- What the rules about the returns, the window and the factor say about the inputs. -/
def Inputs.ownOutcomes (inputs : Inputs) : List Bool :=
  [decide ((inputs.returns.length : ℤ) < 2),
    !inputs.returns.all Binary64.isFinite,
    decide (inputs.windowLength < 2),
    decide ((inputs.returns.length : ℤ) < inputs.windowLength),
    !inputs.annualizationFactor.isFinite,
    inputs.annualizationFactor.isFinite && atMostZero inputs.annualizationFactor,
    decide (inputs.returnKind ≠ .log)]

/-- What every rule of the contract says about the inputs, in the order of the rules. -/
def Inputs.outcomes (inputs : Inputs) : List Bool :=
  inputs.ownOutcomes ++ timestampOutcomes inputs.returns.length inputs.instants
    inputs.declaredFrequency ++
    [decide (2 ≤ inputs.windowLength) && decide (inputs.windowLength < 30)]

section

variable {stdev : List Binary64 → Except Text Binary64} (inputs : Inputs)

/-- The dump holds the returns under their name. -/
theorem holdsSeries : HoldsSeries inputs.modelDump "returns" inputs.returns := by
  simp [HoldsSeries, Inputs.modelDump]

/-- The dump holds the window length. -/
theorem lookup_window_length : inputs.modelDump.lookup (py "window_length") =
    some (.int inputs.windowLength) := by
  simp [Inputs.modelDump, List.lookup_cons, py_beq]

/-- The dump holds the annualization factor. -/
theorem holdsFactor : HoldsNumber inputs.modelDump "annualization_factor"
    inputs.annualizationFactor := by
  simp [HoldsNumber, Inputs.modelDump, List.lookup_cons, py_beq]

/-- The dump holds the kind of the returns. -/
theorem lookup_return_kind : inputs.modelDump.lookup (py "return_kind") =
    some (.str inputs.returnKind.text) := by
  simp [Inputs.modelDump, List.lookup_cons, py_beq]

/-- The dump holds the timestamps. -/
theorem holdsTimestamps : HoldsTimestamps inputs.modelDump inputs.instants := by
  simp [HoldsTimestamps, Inputs.modelDump, List.lookup_cons, py_beq]

/-- The dump holds the declared frequency. -/
theorem holdsFrequency : HoldsFrequency inputs.modelDump inputs.declaredFrequency := by
  simp [HoldsFrequency, Inputs.modelDump, List.lookup_cons, py_beq]

/-- The outcome of the rule on a window below two returns. -/
theorem evaluates_windowTooShort : Evaluates stdev inputs.modelDump windowTooShort
    (decide (inputs.windowLength < 2)) :=
  (evaluateExpression_comparison 2 (resolveOperand_field (lookup_window_length inputs))
    (resolveOperand_literal _)).trans
    (compare_lt _ _ _ _)

/-- The outcome of the rule on a window longer than the series. -/
theorem evaluates_windowExceedsReturns : Evaluates stdev inputs.modelDump windowExceedsReturns
    (decide ((inputs.returns.length : ℤ) < inputs.windowLength)) :=
  (evaluateExpression_comparison 2 (resolve_count (holdsSeries inputs))
    (resolveOperand_field (lookup_window_length inputs))).trans (compare_lt _ _ _ _)

/-- The outcome of the rule on the kind of the returns. -/
theorem evaluates_unsupportedReturnKind :
    Evaluates stdev inputs.modelDump unsupportedReturnKind (decide (inputs.returnKind ≠ .log)) := by
  refine (evaluateExpression_comparison 2 (resolveOperand_field (lookup_return_kind inputs))
    (resolveOperand_literal _)).trans ?_
  cases inputs.returnKind <;> simp [compare_ne, ReturnKind.text, text]

/-- The outcome of the warning on a window below thirty returns. -/
theorem evaluates_smallWindow : Evaluates stdev inputs.modelDump smallWindow
    (decide (2 ≤ inputs.windowLength) && decide (inputs.windowLength < 30)) := by
  have hWindow := @resolveOperand_field stdev _ _ _ (lookup_window_length inputs)
  refine (evaluateExpression_allOf 2 _ _).trans (allM_pair ?_ (fun _ => ?_))
  · exact (evaluateExpression_comparison 1 hWindow (resolveOperand_literal _)).trans
      (compare_ge _ _ _ _)
  · exact (evaluateExpression_comparison 1 hWindow (resolveOperand_literal _)).trans
      (compare_lt _ _ _ _)

/-- Every rule of the contract has an outcome on every input. -/
theorem outcomes_of_constraints : Outcomes stdev inputs.modelDump constraints inputs.outcomes where
  spelled := by decide
  distinct := by decide
  evaluates := by
    have hOwn : List.Forall₂ (Evaluates stdev inputs.modelDump) ownRules inputs.ownOutcomes :=
      .cons (evaluates_tooFew (holdsSeries inputs) _ _)
        (.cons (evaluates_nonFinite (holdsSeries inputs) _ _)
        (.cons (evaluates_windowTooShort inputs)
        (.cons (evaluates_windowExceedsReturns inputs)
        (.cons (evaluates_nonFinite_number (holdsFactor inputs) _ _)
        (.cons (evaluates_nonPositive (holdsFactor inputs) _ _)
        (.cons (evaluates_unsupportedReturnKind inputs) .nil))))))
    exact List.rel_append (List.rel_append hOwn
      (evaluates_timestampRules (holdsSeries inputs) (holdsTimestamps inputs)
        (holdsFrequency inputs) _ _ _))
      (.cons (evaluates_smallWindow inputs) .nil)

end

/-! ## Inputs that no blocking rule refuses -/

/-- What the rules leave. -/
structure Guarded (inputs : Inputs) : Prop where
  finite : ∀ x ∈ inputs.returns, x.isFinite = true
  window_ge : 2 ≤ inputs.windowLength
  window_le : inputs.windowLength ≤ inputs.returns.length
  factor_pos : IsPositive inputs.annualizationFactor
  log : inputs.returnKind = .log
  aligned : ∀ ts, inputs.timestamps = some ts → ts.length = inputs.returns.length
  increasing : ∀ ts, inputs.timestamps = some ts → (ts.map AwareDatetime.instant).IsChain (· < ·)
  frequency : inputs.timestamps = none → inputs.declaredFrequency = none

/-- The negations of the blocking rules, taken together. -/
theorem guarded_of_noneBlocks {inputs : Inputs} (h : NoneBlocks constraints inputs.outcomes) :
    Guarded inputs := by
  unfold constraints Inputs.outcomes at h
  rw [noneBlocks_append (by rfl), noneBlocks_append (by rfl)] at h
  obtain ⟨⟨hOwn, hTimes⟩, -⟩ := h
  have hOrder := inOrder_of_noneBlocks hTimes
  simp only [ownRules, Inputs.ownOutcomes, noneBlocks_cons, insufficientReturns, tooFew,
    nonFiniteReturns, nonFinite, windowTooShort, windowExceedsReturns, nonFiniteAnnualizationFactor,
    nonPositiveAnnualizationFactor, nonPositive, unsupportedReturnKind, ne_eq, not_true_eq_false,
    imp_false, Bool.not_eq_true, Bool.not_eq_false', decide_eq_false_iff_not, not_lt,
    not_not] at hOwn
  obtain ⟨-, hFinite, hWindow, hFits, hFactor, hPositive, hKind, -⟩ := hOwn
  constructor
  case finite => exact List.all_eq_true.1 hFinite
  case window_ge => exact hWindow
  case window_le => exact hFits
  case factor_pos => exact isPositive_of_not_fires hFactor (by simpa [hFactor] using hPositive)
  case log => exact hKind
  case aligned =>
    intro ts hTs
    rw [← hOrder.aligned _ (by rw [Inputs.instants, hTs, Option.map_some]), List.length_map]
  case increasing =>
    intro ts hTs
    exact hOrder.increasing _ (by rw [Inputs.instants, hTs, Option.map_some])
  case frequency =>
    intro hNone
    exact hOrder.frequency (by rw [Inputs.instants, hNone, Option.map_none])

/-- The inputs answer every question. -/
theorem hasField_modelDump (inputs : Inputs) : ∀ q ∈ requiredQuestions, hasField inputs.modelDump
    (py q.1) := by
  intro q hq
  simp only [requiredQuestions, List.mem_cons, List.not_mem_nil, or_false] at hq
  rcases hq with rfl | rfl | rfl
  all_goals simp [hasField, Inputs.modelDump]

/-- Inputs that pass the preflight meet the preconditions. -/
theorem guarded_of_preflight {stdev : List Binary64 → Except Text Binary64} {inputs : Inputs}
    {warnings : List Violation} (h : preflight stdev (.mapping guidance) inputs.modelDump =
      .ok warnings) :
    Guarded inputs := by
  have hOutcomes : Outcomes stdev inputs.modelDump constraints inputs.outcomes :=
    outcomes_of_constraints inputs
  exact guarded_of_noneBlocks (noneBlocks_of_violations (not_blocking_of_preflight hOutcomes
    (hasField_modelDump inputs) h))

/-! ## Lineage -/

/-- The references to the returns of a window are well formed. -/
theorem validRefs_returnRefs {start stop : ℤ} (hStart : 0 ≤ start) :
    ∀ ref ∈ returnRefs start stop, Protocol.isSafeId ref.field = true ∧ 0 ≤ ref.index := by
  intro ref hRef
  obtain ⟨i, hi, rfl⟩ := List.mem_map.1 hRef
  exact ⟨(by decide : Protocol.isSafeId (py "returns") = true), hStart.trans (mem_range.1 hi).1⟩

/-- A window refers to no return twice. -/
theorem nodup_returnRefs (start stop : ℤ) : (returnRefs start stop).Nodup :=
  (nodup_range start stop).map (fun _ _ h => congrArg InputRef.index h)

/-- A window that is not empty refers to a return. -/
theorem returnRefs_ne_nil {start stop : ℤ} (h : start < stop) : returnRefs start stop ≠ [] := by
  have hMem : start ∈ range start stop := mem_range.2 ⟨le_rfl, h⟩
  exact List.ne_nil_of_mem (List.mem_map_of_mem hMem)

/-- The reference to the factor is none to a return. -/
theorem factorRef_not_mem (start stop : ℤ) : factorRef ∉ returnRefs start stop := by
  intro h
  obtain ⟨i, -, hi⟩ := List.mem_map.1 h
  have hField : py "returns" = py "annualization_factor" := congrArg InputRef.field hi
  exact absurd hField (by decide)

/-- The two expressions of a window stand as notes. -/
theorem isNote_windowExpression {start stop : ℤ} (hStart : 0 ≤ start) (hLess : start ≤ stop)
    (hMax : stop ≤ maxsize) :
    IsNote (windowExpression start stop) ∧ IsNote (annualizedExpression start stop) := by
  have hFrom := sized_intDigits hStart (hLess.trans hMax)
  have hTo := sized_intDigits (hStart.trans hLess) hMax
  have hExpression :=
    ((((sized_py "sample_stdev_n_minus_1(returns[").append hFrom).append (sized_py ":")).append
    hTo).append (sized_py "])")
  have hBlank : isBlank (windowExpression start stop) = false := by
    simp [windowExpression, isBlank_append,
      (by decide : isBlank (py "sample_stdev_n_minus_1(returns[") = false)]
  refine ⟨isNote_of_sized hBlank hExpression (by decide),
    isNote_of_sized ?_ (hExpression.append (sized_py _)) (by decide)⟩
  rw [annualizedExpression, isBlank_append, hBlank, Bool.false_and]

section

variable {K : Type} {floats : Floats K} {k i : ℕ} {value : K}

/-- Both derivations of a window are valid where their value is finite. -/
theorem valid_periodicDerivation (hk : 1 ≤ k) (hMax : i + k ≤ maxsize)
    (hFinite : floats.isFinite value = true) :
    (periodicDerivation k i value).Valid floats.isFinite := by
  obtain ⟨hNote, -⟩ := @isNote_windowExpression i (i + k) (Int.natCast_nonneg i) (by omega)
    (by omega)
  constructor
  case output => exact ⟨(by decide : Protocol.isSafeId (py "periodic_volatility") = true),
    Int.natCast_nonneg i⟩
  case each => exact validRefs_returnRefs (Int.natCast_nonneg i)
  case nonempty => exact returnRefs_ne_nil (by omega)
  case expression => exact hNote.within
  case notBlank => exact hNote.notBlank
  case finite => exact hFinite
  case distinct => exact nodup_returnRefs _ _

/-- The derivation of an annualized value passes its checks. -/
theorem valid_annualizedDerivation (hMax : i + k ≤ maxsize)
    (hFinite : floats.isFinite value = true) :
    (annualizedDerivation k i value).Valid floats.isFinite := by
  obtain ⟨-, hNote⟩ := @isNote_windowExpression i (i + k) (Int.natCast_nonneg i) (by omega)
    (by omega)
  constructor
  case output => exact ⟨(by decide : Protocol.isSafeId (py "annualized_volatility") = true),
    Int.natCast_nonneg i⟩
  case each =>
    intro ref hRef
    rcases List.mem_append.1 hRef with hReturn | hFactor
    · exact validRefs_returnRefs (Int.natCast_nonneg i) ref hReturn
    · rw [List.mem_singleton.1 hFactor]
      exact ⟨(by decide : Protocol.isSafeId (py "annualization_factor") = true), le_rfl⟩
  case nonempty => exact List.append_ne_nil_of_right_ne_nil _ (List.cons_ne_nil _ _)
  case expression => exact hNote.within
  case notBlank => exact hNote.notBlank
  case finite => exact hFinite
  case distinct =>
    exact List.nodup_append.2 ⟨nodup_returnRefs _ _, List.nodup_singleton _, fun a ha b hb hEq =>
      factorRef_not_mem i (i + k) (List.mem_singleton.1 hb ▸ hEq ▸ ha)⟩

end

/-- Where two elements are written for each, the even positions hold the first and the odd ones the
second. -/
theorem getElem?_flatMap_pair {α β : Type} (f g : α → β) (xs : List α) (i : ℕ) :
    (xs.flatMap (fun x => [f x, g x]))[i * 2]? = xs[i]?.map f ∧
      (xs.flatMap (fun x => [f x, g x]))[i * 2 + 1]? = xs[i]?.map g := by
  induction xs generalizing i with
  | nil => simp
  | cons x xs ih =>
      cases i with
      | zero => simp
      | succ i =>
          obtain ⟨hf, hg⟩ := ih i
          exact ⟨by simpa [Nat.succ_mul] using hf, by simpa [Nat.succ_mul] using hg⟩

section

variable {K : Type} {windowLength : ℤ} {periodic annualized : List K}

/-- The two derivations of a window stand together. -/
theorem getElem?_derivationsOf {i : ℕ} {p a : K} (hp : periodic[i]? = some p)
    (ha : annualized[i]? = some a) :
    (derivationsOf windowLength periodic annualized)[i * 2]? =
      some (periodicDerivation windowLength i p) ∧
      (derivationsOf windowLength periodic annualized)[i * 2 + 1]? =
        some (annualizedDerivation windowLength i a) := by
  have hPair : (periodic.zip annualized).zipIdx[i]? = some ((p, a), i) := by
    have hBoth : (periodic.zip annualized)[i]? = some (p, a) := List.getElem?_zip_eq_some.2 ⟨hp, ha⟩
    rw [List.getElem?_zipIdx, hBoth, Option.map_some, Nat.zero_add]
  obtain ⟨hFirst, hSecond⟩ := getElem?_flatMap_pair
    (fun p : (K × K) × ℕ => periodicDerivation windowLength p.2 p.1.1)
    (fun p : (K × K) × ℕ => annualizedDerivation windowLength p.2 p.1.2)
      (periodic.zip annualized).zipIdx i
  rw [hPair] at hFirst hSecond
  exact ⟨hFirst, hSecond⟩

/-- Every derivation is one of the two of a window. -/
theorem mem_derivationsOf {d : Derivation K}
    (h : d ∈ derivationsOf windowLength periodic annualized) :
    ∃ i p a, periodic[i]? = some p ∧ annualized[i]? = some a ∧
      (d = periodicDerivation windowLength i p ∨ d = annualizedDerivation windowLength i a) := by
  obtain ⟨pair, hPair, hd⟩ := List.mem_flatMap.1 h
  obtain ⟨both, i⟩ := pair
  obtain ⟨hp, ha⟩ := List.getElem?_zip_eq_some.1 (List.mem_zipIdx_iff_getElem?.1 hPair)
  refine ⟨i, both.1, both.2, hp, ha, ?_⟩
  simpa using hd

/-- There are two derivations for each window. -/
theorem length_derivationsOf (h : annualized.length = periodic.length) :
    (derivationsOf windowLength periodic annualized).length = periodic.length * 2 := by
  simp [derivationsOf, List.length_flatMap, h]

/-- No two derivations have one target. -/
theorem nodup_outputs :
    ((derivationsOf windowLength periodic annualized).map Derivation.output).Nodup := by
  rw [derivationsOf, List.map_flatMap, List.nodup_flatMap]
  constructor
  · intro pair _
    have hFields : py "periodic_volatility" ≠ py "annualized_volatility" := by decide
    simp [periodicDerivation, annualizedDerivation, hFields]
  · have hIndexes : (periodic.zip annualized).zipIdx.Pairwise (fun p q => p.2 ≠ q.2) :=
      List.pairwise_map.1 (by rw [List.zipIdx_map_snd]; exact List.nodup_range')
    refine hIndexes.imp (fun hNe => List.disjoint_left.2 (fun ref hFirst hSecond => hNe ?_))
    simp only [List.map_cons, List.map_nil, List.mem_cons, List.not_mem_nil, or_false,
      periodicDerivation, annualizedDerivation] at hFirst hSecond
    rcases hFirst with rfl | rfl
    all_goals
      rcases hSecond with hEq | hEq
      all_goals exact Int.ofNat_inj.1 (congrArg OutputRef.index hEq)

end

/-! ## The chart -/

/-- There is one category of the chart for each window. -/
theorem length_categories {inputs : Inputs} (hGuarded : Guarded inputs) :
    ((categories inputs).length : ℤ) = inputs.returns.length - inputs.windowLength + 1 := by
  have hTwo := hGuarded.window_ge
  have hFits := hGuarded.window_le
  unfold categories
  cases hTs : inputs.timestamps with
  | none =>
      rw [List.length_map, length_range]
      omega
  | some ts =>
      have hAligned := hGuarded.aligned ts hTs
      obtain ⟨k, hk⟩ := Int.eq_ofNat_of_zero_le (by omega : 0 ≤ inputs.windowLength - 1)
      show ((List.map _ (sliceFrom ts (inputs.windowLength - 1))).length : ℤ) = _
      rw [List.length_map, hk, sliceFrom_of_le (by omega), List.length_drop]
      omega

/-- The labels fit the chart. -/
theorem charsWithin_categories {inputs : Inputs} (hGuarded : Guarded inputs) :
    ∀ label ∈ categories inputs, Protocol.charsWithin 1 80 label = true := by
  have hTwo := hGuarded.window_ge
  have hMax := inputs.length_le
  intro label hLabel
  unfold categories at hLabel
  split at hLabel
  · obtain ⟨i, hi, rfl⟩ := List.mem_map.1 hLabel
    obtain ⟨hLow, hHigh⟩ := mem_range.1 hi
    exact (sized_intDigits (by omega) (by omega)).charsWithin le_rfl (by decide)
  · obtain ⟨t, -, rfl⟩ := List.mem_map.1 hLabel
    exact (sized_isoformat t).charsWithin le_rfl (by decide)

section

variable {K : Type} [Field K] [LinearOrder K] {floats : Floats K} {sqrt : K → K} {inputs : Inputs}
    {factor : K}
  {annualized : List K} {warnings : List Text}

/-- Every assumption stands as a note. -/
theorem isNote_assumptions : ∀ note ∈ assumptions, IsNote note := by
  simp only [assumptions, List.forall_mem_cons, List.not_mem_nil, false_imp_iff, implies_true,
    and_true]
  refine ⟨?_, ?_, ?_⟩ <;> exact isNote_py (by decide) (by decide)

omit [Field K] [LinearOrder K] in
/-- The chart of finite values is valid. -/
theorem valid_chartOf (hGuarded : Guarded inputs) (hNonempty : annualized ≠ [])
    (hLength : annualized.length = (categories inputs).length)
    (hFinite : ∀ value ∈ annualized, floats.isFinite value = true)
    (hCount : warnings.length ≤ 20) (hNotes : ∀ note ∈ warnings, IsNote note) (lowest highest : K) :
    (chartOf floats inputs factor annualized lowest highest assumptions warnings).Valid
      floats.isFinite := by
  have hTwo := hGuarded.window_ge
  have hFits := hGuarded.window_le
  have hMax := inputs.length_le
  have hLabels := length_categories hGuarded
  have hWindow := sized_intDigits (i := inputs.windowLength) (by omega) (by omega)
  have hItems : annualized.length ≤ maxsize := by omega
  unfold chartOf
  -- One goal for each check of the specification.
  constructor
  all_goals dsimp only
  case id => decide
  case title =>
    exact (((sized_literal "Rolling " (by decide)).append hWindow).append (sized_py _)).charsWithin
      (by decide) (by decide)
  case altText =>
    exact ((((((sized_literal "Line chart of " (by decide)).append (sized_digits hItems)).append
      (sized_py _)).append
      (sized_sixDigits floats _)).append (sized_py _)).append (sized_sixDigits floats _) |>.append
      (sized_py _)).charsWithin (by decide) (by decide)
  case xLabel => cases inputs.timestamps.isNone <;> decide
  case yLabel => decide
  case caption =>
    exact (((((sized_py formula).append (sized_py _)).append hWindow).append (sized_py _)).append
      (sized_sixDigits floats _) |>.append (sized_py _)).charsWithin (Nat.zero_le _)
        (by decide +kernel)
  case categories => exact List.ne_nil_of_length_pos (hLength ▸ List.length_pos_iff.2 hNonempty)
  case eachCategory => exact charsWithin_categories hGuarded
  case series => exact ⟨le_rfl, (by decide : 1 ≤ 12)⟩
  case eachSeries =>
    rw [List.forall_mem_singleton]
    exact ⟨(by decide : Protocol.charsWithin 1 64 (py "annualized_volatility") = true ∧
      Protocol.isSafeId (py "annualized_volatility") = true),
      (by decide : Protocol.charsWithin 1 120 (py "Annualized volatility") = true), hNonempty,
      hFinite⟩
  case aligned =>
    rw [List.forall_mem_singleton]
    exact hLength
  case keys => exact List.nodup_singleton _
  case assumptions => exact validNotes_of_isNote (by decide) isNote_assumptions
  case warnings => exact validNotes_of_isNote hCount hNotes
  case width => decide
  case height => decide
  case version => decide
  case kind => exact ⟨(fun hKind => by cases hKind), fun _ => rfl⟩

end

/-! ## The output -/

section

variable {K : Type} [Field K] [LinearOrder K] {floats : Floats K} {sqrt : K → K} {inputs : Inputs}
    {factor root : K}
  {periodic : List K} {warnings : List Text} {chart : VisualizationSpec K}

/-- The numbers of an output are finite. -/
structure Output.IsFinite (floats : Floats K) (output : Output K) : Prop where
  periodic : ∀ value ∈ output.periodicVolatility, floats.isFinite value = true
  annualized : ∀ value ∈ output.annualizedVolatility, floats.isFinite value = true
  factor : floats.isFinite output.annualizationFactor = true

/-- Every derivation points at its value. -/
theorem validateDerivationTargets_outputOf {annualized : List K} :
    validateDerivationTargets (outputOf inputs warnings factor periodic annualized
      chart).modelFields
      (derivationsOf inputs.windowLength periodic annualized) = .ok () := by
  have hPeriodic : (outputOf inputs warnings factor periodic annualized chart).modelFields.lookup
      (py "periodic_volatility") = some (.numbers periodic) := by
    simp [Output.modelFields, outputOf, List.lookup_cons, py_beq]
  have hAnnualized : (outputOf inputs warnings factor periodic annualized chart).modelFields.lookup
      (py "annualized_volatility") = some (.numbers annualized) := by
    simp [Output.modelFields, outputOf, List.lookup_cons, py_beq]
  refine validateDerivationTargets_of_targets nodup_outputs (fun d hd => ?_)
  obtain ⟨i, p, a, hp, ha, rfl | rfl⟩ := mem_derivationsOf hd
  · exact .numbers hPeriodic rfl hp
  · exact .numbers hAnnualized rfl ha

/-- A series of finite numbers that are not negative is accepted. -/
theorem validateSeries_eq_ok {values : List K} {field : String} {u : Unit} :
    validateSeries floats field values = .ok u ↔
      values ≠ [] ∧ (∀ value ∈ values, floats.isFinite value = true) ∧ ∀ value ∈ values,
        0 ≤ value := by
  unfold validateSeries
  rw [andThen_eq_ok, andThen_eq_ok, Except.raiseIf_eq_ok, Except.raiseIf_eq_ok,
    Except.raiseIf_eq_ok, Bool.not_eq_false, List.all_eq_true, Bool.not_eq_true, List.any_eq_false]
  simp only [decide_eq_true_eq, not_lt]

omit [Field K] [LinearOrder K] in
/-- The timestamps of guarded inputs, from the end of the first window on, are accepted. -/
theorem validateTimestamps_outputOf (hGuarded : Guarded inputs) {annualized : List K}
    (hLength : (periodic.length : ℤ) = inputs.returns.length - inputs.windowLength + 1) :
    validateTimestamps (outputOf inputs warnings factor periodic annualized chart) = .ok () := by
  have hTwo := hGuarded.window_ge
  have hFits := hGuarded.window_le
  unfold validateTimestamps outputOf
  cases hTs : inputs.timestamps with
  | none =>
      exact andThen_eq_ok.2 ⟨Except.raiseIf_eq_ok.2 Bool.false_ne_true,
        Except.raiseIf_eq_ok.2 (not_not.2 (hGuarded.frequency hTs))⟩
  | some ts =>
      have hAligned := hGuarded.aligned ts hTs
      obtain ⟨k, hk⟩ := Int.eq_ofNat_of_zero_le (by omega : 0 ≤ inputs.windowLength - 1)
      have hDrop : sliceFrom ts (inputs.windowLength - 1) = ts.drop k := by
        rw [hk, sliceFrom_of_le (by omega)]
      have hEnds : (sliceFrom ts (inputs.windowLength - 1)).length = periodic.length := by
        rw [hDrop, List.length_drop]
        omega
      have hChain : ((ts.drop k).map AwareDatetime.instant).IsChain (· < ·) := by
        rw [List.map_drop]
        exact (hGuarded.increasing ts hTs).drop k
      have hIncreasing : ¬ notIncreasing (sliceFrom ts (inputs.windowLength - 1)) = true := by
        rw [hDrop, notIncreasing_of_isChain hChain]
        decide
      exact andThen_eq_ok.2 ⟨Except.raiseIf_eq_ok.2 (not_not.2 hEnds),
        andThen_eq_ok.2 ⟨Except.raiseIf_eq_ok.2 Bool.noConfusion,
        Except.raiseIf_eq_ok.2 hIncreasing⟩⟩

/-- The lineage of one window passes its validation. -/
theorem validateWindow_eq_ok {output : Output K} {i : ℕ} {value : K} (hRoot : 0 < root)
    (hFactor : squareRoot sqrt output.annualizationFactor = .ok root)
    (hDerivations : output.derivations =
      derivationsOf output.windowLength output.periodicVolatility output.annualizedVolatility)
    (hAnnualized : output.annualizedVolatility = output.periodicVolatility.map (fun value =>
      value * root))
    (hValue : output.periodicVolatility[i]? = some value) :
    validateWindow sqrt output i = .ok () := by
  have hScaled : output.annualizedVolatility[i]? = some (value * root) := by
    rw [hAnnualized, List.getElem?_map, hValue, Option.map_some]
  obtain ⟨hFirst, hSecond⟩ := @getElem?_derivationsOf _ output.windowLength _ _ _ _ _ hValue hScaled
  rw [← hDerivations] at hFirst hSecond
  have hInValidator : (squareRoot sqrt output.annualizationFactor).mapError Raised.inValidator =
    .ok root :=
    Except.mapError_eq_ok.2 hFactor
  have hExpected : ¬ (0 < value ∧ value * root = 0) := by
    rintro ⟨hPos, hZero⟩
    rcases mul_eq_zero.1 hZero with h | h
    · exact hPos.ne' h
    · exact hRoot.ne' h
  simp only [validateWindow, item_of_getElem? hFirst, item_of_getElem? hSecond,
    item_of_getElem? hValue, item_of_getElem? hScaled, hInValidator, bind, Except.bind, invalidIf,
    Except.raiseIf, periodicDerivation, annualizedDerivation, ne_eq, not_true_eq_false, or_self,
    or_false, if_false, if_neg hExpected]

/-- The output of finite numbers is accepted. -/
theorem validate_outputOf [IsStrictOrderedRing K] (hGuarded : Guarded inputs)
    (hFactorPos : 0 < factor) (hRoot : 0 < root) (hFactor : squareRoot sqrt factor = .ok root)
    (hLength : (periodic.length : ℤ) = inputs.returns.length - inputs.windowLength + 1)
    (hNonneg : ∀ value ∈ periodic, 0 ≤ value) (hNotes : ∀ note ∈ warnings, IsNote note)
    (hFinite : (outputOf inputs warnings factor periodic (periodic.map (fun value => value * root))
      chart).IsFinite
      floats) :
    (outputOf inputs warnings factor periodic (periodic.map (fun value => value * root))
      chart).validate floats sqrt =
      .ok () := by
  have hFits := hGuarded.window_le
  have hTwo := hGuarded.window_ge
  have hNonempty : periodic ≠ [] := List.ne_nil_of_length_pos (by omega)
  have hScaled : (periodic.map (fun value => value * root)).length = periodic.length :=
    List.length_map _
  have hDerivations :
    (derivationsOf inputs.windowLength periodic (periodic.map (fun value => value * root))).length =
      periodic.length * 2 := length_derivationsOf hScaled
  have hSome : 0 < periodic.length := List.length_pos_iff.2 hNonempty
  -- The checks of the fields, and after them those across the fields.
  have hFields :
    (outputOf inputs warnings factor periodic (periodic.map (fun value => value * root))
      chart).validateFields
      floats = .ok () := by
    refine andThen_eq_ok.2 ⟨validateSeries_eq_ok.2 ⟨hNonempty, hFinite.periodic, hNonneg⟩,
      andThen_eq_ok.2 ⟨validateSeries_eq_ok.2 ⟨?_, hFinite.annualized, ?_⟩,
      andThen_eq_ok.2 ⟨Except.raiseIf_eq_ok.2 (not_lt.2 hTwo),
      andThen_eq_ok.2 ⟨Except.raiseIf_eq_ok.2 ?_,
      andThen_eq_ok.2 ⟨Except.raiseIf_eq_ok.2 (not_le.2 hFactorPos),
      andThen_eq_ok.2 ⟨Except.raiseIf_eq_ok.2 ?_,
      andThen_eq_ok.2 ⟨validateMessages_of_isNote isNote_assumptions,
      andThen_eq_ok.2 ⟨validateMessages_of_isNote hNotes, validateDerivationTargets_outputOf⟩⟩⟩⟩⟩⟩⟩⟩
    · exact List.ne_nil_of_length_pos (hScaled ▸ hSome)
    · exact List.forall_mem_map.2 (fun value hValue => mul_nonneg (hNonneg value hValue) hRoot.le)
    · rw [hFinite.factor]
      exact Bool.noConfusion
    · show ¬ (derivationsOf inputs.windowLength periodic
        (periodic.map (fun value => value * root))).length < 2
      omega
  refine Except.bind_eq_ok.2 ⟨(), validated_eq_ok.2 hFields,
    andThen_eq_ok.2 ⟨?_, andThen_eq_ok.2 ⟨?_,
    andThen_eq_ok.2 ⟨validateTimestamps_outputOf hGuarded hLength, ?_⟩⟩⟩⟩
  · exact Except.raiseIf_eq_ok.2 (not_not.2 hScaled)
  · exact Except.raiseIf_eq_ok.2 (not_not.2 hDerivations)
  -- Every window has its two derivations.
  · rw [Except.forM_eq_ok]
    intro i hi
    have hValue := List.getElem?_eq_getElem (List.mem_range.1 hi)
    exact validateWindow_eq_ok hRoot hFactor rfl rfl hValue

end

/-! ## The windows -/

/-- A window of `k` values. -/
abbrev window {α : Type} (returns : List α) (k i : ℕ) : List α := (returns.drop i).take k

/-- A window within the series has its full length. -/
theorem length_window {α : Type} {returns : List α} {k i : ℕ} (h : i + k ≤ returns.length) :
    (window returns k i).length = k := by
  rw [List.length_take, List.length_drop]
  omega

/-- The slice of the source is the window at its start. -/
theorem slice_eq_window {α : Type} {returns : List α} {k i : ℕ} (h : i + k ≤ returns.length) :
    slice returns (i : ℤ) ((i : ℤ) + k) = window returns k i := by
  have hEq := slice_of_le h (Nat.le_add_right i k)
  rwa [Nat.add_sub_cancel_left, Nat.cast_add] at hEq

section

variable {K : Type} [Field K] [LinearOrder K] [IsStrictOrderedRing K]
    {sqrt : K → K} {inputs : Inputs}
  {returns periodic : List K} {factor : K}

/-- The deviation of the window that starts at `start`. -/
def IsWindowDeviation (inputs : Inputs) (returns : List K) (start : ℤ) (deviation : K) : Prop :=
  2 ≤ (slice returns start (start + inputs.windowLength)).length ∧
    IsSampleDeviation (slice returns start (start + inputs.windowLength)) deviation

/-- What the calculation has before it looks at what is finite: the exact numbers of the inputs, and
the deviation of every complete window, in order. -/
structure Calculated (inputs : Inputs) (returns : List K) (factor : K) (periodic : List K) :
    Prop where
  numbers : inputs.returns.mapM exact = .ok returns
  exactFactor : exact inputs.annualizationFactor = .ok factor
  positive : 0 < factor
  windows : List.Forall₂ (IsWindowDeviation inputs returns)
    (range 0 (returns.length - inputs.windowLength + 1)) periodic

/-- Guarded inputs have complete windows, each with a deviation. -/
theorem exists_calculated (hSqrt : IsSquareRoot sqrt) (hGuarded : Guarded inputs) :
    ∃ (returns periodic : List K) (factor : K), Calculated inputs returns factor periodic := by
  have hTwo := hGuarded.window_ge
  obtain ⟨returns, hReturns⟩ := exists_mapM_exact (K := K) hGuarded.finite
  obtain ⟨q, hq, hPos⟩ := hGuarded.factor_pos
  have hDeviation : ∀ values : List K, ∃ d, 2 ≤ values.length → IsSampleDeviation values d := by
    intro values
    by_cases hLength : 2 ≤ values.length
    · obtain ⟨d, hd, -⟩ := exists_sampleDeviation hSqrt (fun _ => true) hLength
      exact ⟨d, fun _ => hd⟩
    · exact ⟨0, fun h => absurd h hLength⟩
  choose deviation hIs using hDeviation
  refine ⟨returns, (range 0 (returns.length - inputs.windowLength + 1)).map (fun start =>
    deviation (slice returns start (start + inputs.windowLength))), q, hReturns, by rw [exact, hq],
      Rat.cast_pos.2 hPos,
    List.forall₂_map_right_iff.2 (List.forall₂_same.2 (fun start hStart => ?_))⟩
  obtain ⟨hLow, hHigh⟩ := mem_range.1 hStart
  obtain ⟨i, rfl⟩ := Int.eq_ofNat_of_zero_le hLow
  obtain ⟨k, hk⟩ := Int.eq_ofNat_of_zero_le (by omega : 0 ≤ inputs.windowLength)
  have hLength : 2 ≤ (slice returns (i : ℤ) (i + inputs.windowLength)).length := by
    rw [hk, slice_eq_window (by omega), length_window (by omega)]
    omega
  exact ⟨hLength, hIs _ hLength⟩

omit [LinearOrder K] [IsStrictOrderedRing K] in
/-- The exact returns are as many as the returns given. -/
theorem length_returns {numbers : List K} (h : inputs.returns.mapM exact = .ok numbers) :
    numbers.length = inputs.returns.length := (Except.mapM_eq_ok.1 h).length_eq.symm

omit [IsStrictOrderedRing K] in
/-- There is one deviation for every complete window. -/
theorem Calculated.length (h : Calculated inputs returns factor periodic)
    (hGuarded : Guarded inputs) :
    (periodic.length : ℤ) = inputs.returns.length - inputs.windowLength + 1 := by
  have hFits := hGuarded.window_le
  rw [← h.windows.length_eq, length_range, length_returns h.numbers]
  omega

omit [IsStrictOrderedRing K] in
/-- The deviation at an index is that of the window that starts there. -/
theorem Calculated.windows_at (h : Calculated inputs returns factor periodic)
    (hGuarded : Guarded inputs) {i : ℕ} (hi : i < periodic.length) :
    (window returns inputs.windowLength.toNat i).length = inputs.windowLength.toNat ∧
      2 ≤ (window returns inputs.windowLength.toNat i).length ∧
      IsSampleDeviation (window returns inputs.windowLength.toNat i) periodic[i] := by
  have hTwo := hGuarded.window_ge
  have hLength := h.length hGuarded
  have hCount := length_returns h.numbers
  obtain ⟨k, hk⟩ := Int.eq_ofNat_of_zero_le (by omega : 0 ≤ inputs.windowLength)
  have hComplete : i + k ≤ returns.length := by omega
  have hRange : i < (range 0 (returns.length - inputs.windowLength + 1)).length := by
    rwa [h.windows.length_eq]
  have hGet : IsWindowDeviation inputs returns _ periodic[i] := h.windows.get hRange hi
  have hStart : (range 0 (returns.length - inputs.windowLength + 1)).get ⟨i, hRange⟩ = (i : ℤ) := by
    have hSome := @getElem?_range 0 (returns.length - inputs.windowLength + 1) i (by omega)
    rw [List.getElem?_eq_getElem hRange, zero_add] at hSome
    exact Option.some.inj hSome
  rw [hStart, IsWindowDeviation, hk, slice_eq_window hComplete] at hGet
  rw [hk, Int.toNat_natCast]
  exact ⟨length_window hComplete, hGet⟩

omit [IsStrictOrderedRing K] in
/-- No deviation is negative. -/
theorem Calculated.nonneg (h : Calculated inputs returns factor periodic) : ∀ value ∈ periodic,
    0 ≤ value := by
  intro value hValue
  obtain ⟨start, -, hWindow⟩ := h.windows.flip.exists_right hValue
  exact hWindow.2.nonneg

/-- The loop over the windows gives their deviations where they are finite. -/
theorem Calculated.mapM_eq_ok (hSqrt : IsSquareRoot sqrt)
    (h : Calculated inputs returns factor periodic)
    {isFinite : K → Bool} (hFinite : ∀ value ∈ periodic, isFinite value = true) :
    (range 0 (returns.length - inputs.windowLength + 1)).mapM (fun start =>
      sampleStandardDeviation isFinite sqrt (slice returns start (start + inputs.windowLength))
        start) = .ok periodic :=
  Except.mapM_eq_ok.2 (h.windows.imp_mem (fun start _ value hValue hWindow =>
    (sampleStandardDeviation_of_isSampleDeviation hSqrt hWindow.1 hWindow.2 start).1
      (hFinite value hValue)))

/-- It gives nothing else. -/
theorem Calculated.eq_of_mapM (hSqrt : IsSquareRoot sqrt)
    (h : Calculated inputs returns factor periodic) {isFinite : K → Bool} {values : List K}
    (hLoop : (range 0 (returns.length - inputs.windowLength + 1)).mapM (fun start =>
      sampleStandardDeviation isFinite sqrt (slice returns start (start + inputs.windowLength))
        start) = .ok values) :
    values = periodic := by
  refine List.forall₂_unique (fun start _ value deviation hValue hWindow => ?_)
    (Except.mapM_eq_ok.1 hLoop) h.windows
  exact (sampleStandardDeviation_of_isSampleDeviation hSqrt hWindow.1 hWindow.2 start).2.2 value
    hValue

/-- It gives nothing where a deviation is not finite. -/
theorem Calculated.finite_of_mapM (hSqrt : IsSquareRoot sqrt)
    (h : Calculated inputs returns factor periodic)
    {isFinite : K → Bool} (hZero : isFinite 0 = true) {values : List K}
    (hLoop : (range 0 (returns.length - inputs.windowLength + 1)).mapM (fun start =>
      sampleStandardDeviation isFinite sqrt (slice returns start (start + inputs.windowLength))
        start) = .ok values) :
    ∀ value ∈ periodic, isFinite value = true := by
  intro value hValue
  obtain ⟨start, hStart, hWindow⟩ := h.windows.flip.exists_right hValue
  obtain ⟨result, -, hResult⟩ := (Except.mapM_eq_ok.1 hLoop).exists_right hStart
  obtain ⟨-, hInfinite, -⟩ := @sampleStandardDeviation_of_isSampleDeviation _ _ _ _ _ hSqrt isFinite
    _ hWindow.1 _
    hWindow.2 start
  cases hCase : isFinite value with
  | true => rfl
  | false => cases hResult.symm.trans (hInfinite hCase hZero)

/-- It refuses a deviation that is not finite. -/
theorem Calculated.error_of_mapM (hSqrt : IsSquareRoot sqrt)
    (h : Calculated inputs returns factor periodic)
    {isFinite : K → Bool} (hZero : isFinite 0 = true) {e : Calculation.Raised}
    (hLoop : (range 0 (returns.length - inputs.windowLength + 1)).mapM (fun start =>
      sampleStandardDeviation isFinite sqrt (slice returns start (start + inputs.windowLength))
        start) = .error e) :
    ∃ start, e = nonFiniteResult "periodic" start := by
  obtain ⟨start, hStart, hError⟩ := Except.exists_of_mapM_eq_error hLoop
  obtain ⟨deviation, -, hWindow⟩ := h.windows.exists_right hStart
  obtain ⟨hFinite, hInfinite, -⟩ := @sampleStandardDeviation_of_isSampleDeviation _ _ _ _ _ hSqrt
    isFinite _ hWindow.1 _
    hWindow.2 start
  cases hCase : isFinite deviation with
  | true => cases hError.symm.trans (hFinite hCase)
  | false => exact ⟨start, Except.error.inj (hError.symm.trans (hInfinite hCase hZero))⟩

end

/-! ## The calculation -/

section

variable {K : Type} [Field K] [LinearOrder K] {sqrt : K → K} {inputs : Inputs}

/-- What a finished calculation says about the inputs. -/
structure Rolls (floats : Floats K) (sqrt : K → K) (inputs : Inputs) (returns : List K)
    (output : Output K) : Prop where
  numbers : List.Forall₂ (fun x r => exact x = .ok r) inputs.returns returns
  count : (output.periodicVolatility.length : ℤ) = inputs.returns.length - inputs.windowLength + 1
  one_le : 1 ≤ output.periodicVolatility.length
  annualized : ∃ root, squareRoot sqrt output.annualizationFactor = .ok root ∧
    output.annualizedVolatility = output.periodicVolatility.map (fun value => value * root)
  /-- The value at `i` is calculated from the returns `i` to `i + window - 1`. -/
  windows : ∀ i < output.periodicVolatility.length,
    (window returns inputs.windowLength.toNat i).length = inputs.windowLength.toNat ∧
    ∃ deviation, output.periodicVolatility[i]? = some deviation ∧
      (floats.isFinite deviation = true →
        sampleStandardDeviation floats.isFinite sqrt (window returns inputs.windowLength.toNat i)
          i = .ok deviation) ∧
      IsSampleDeviation (window returns inputs.windowLength.toNat i) deviation
  /-- The timestamp at `i` is that of the last return of the window. -/
  timestamps : ∀ ts, inputs.timestamps = some ts → ∃ ends, output.volatilityTimestamps = some ends ∧
    ends.length = output.periodicVolatility.length ∧
    ∀ i < ends.length, ∃ t, ends[i]? = some t ∧ ts[i + inputs.windowLength.toNat - 1]? = some t

variable [IsStrictOrderedRing K] {floats : Floats K} {returns periodic : List K} {factor : K}
    {warnings : List Text}

/-- The series of the deviations roll over the returns. -/
theorem Calculated.rolls (hSqrt : IsSquareRoot sqrt) (hGuarded : Guarded inputs)
    (h : Calculated inputs returns factor periodic) (chart : VisualizationSpec K) :
    Rolls floats sqrt inputs returns
      (outputOf inputs warnings factor periodic (periodic.map (fun value => value * sqrt factor))
        chart) := by
  have hTwo := hGuarded.window_ge
  have hFits := hGuarded.window_le
  have hLength := h.length hGuarded
  constructor
  case numbers => exact Except.mapM_eq_ok.1 h.numbers
  case count => exact hLength
  case one_le =>
    show 1 ≤ periodic.length
    omega
  case annualized => exact ⟨sqrt factor, squareRoot_of_nonneg h.positive.le, rfl⟩
  case windows =>
    intro i hi
    obtain ⟨hWindow, hEnough, hIs⟩ := h.windows_at hGuarded hi
    exact ⟨hWindow, periodic[i], List.getElem?_eq_getElem hi,
      (sampleStandardDeviation_of_isSampleDeviation hSqrt hEnough hIs i).1, hIs⟩
  case timestamps =>
    intro ts hTs
    have hAligned := hGuarded.aligned ts hTs
    -- A window belongs to the timestamp of its last return.
    obtain ⟨k, hk⟩ := Int.eq_ofNat_of_zero_le (by omega : 0 ≤ inputs.windowLength - 1)
    have hWidth : inputs.windowLength.toNat = k + 1 := by omega
    refine ⟨ts.drop k, ?_, ?_, fun i hi => ?_⟩
    · show inputs.timestamps.map _ = _
      rw [hTs, Option.map_some, hk, sliceFrom_of_le (by omega)]
    · show (ts.drop k).length = periodic.length
      rw [List.length_drop]
      omega
    · rw [List.length_drop] at hi
      have hLess : k + i < ts.length := by omega
      refine ⟨ts[k + i], ?_, ?_⟩
      · rw [List.getElem?_drop, List.getElem?_eq_getElem hLess]
      · rw [hWidth, show i + (k + 1) - 1 = k + i by omega, List.getElem?_eq_getElem hLess]

omit [IsStrictOrderedRing K] in
/-- Annualized values that are finite are representable, where the root is positive. -/
theorem forM_annualized_eq_ok [PosMulStrictMono K] {root : K} (hRoot : 0 < root)
    (hFinite : ∀ value ∈ periodic.map (fun value => value * root), floats.isFinite value = true) :
    (periodic.zip (periodic.map (fun value => value * root))).zipIdx.forM (fun p =>
      (Except.raiseIf (floats.isFinite p.1.2 = false ∨ 0 < p.1.1 ∧ p.1.2 = 0)
        (nonFiniteResult "annualized" p.2) :
        Except Calculation.Raised Unit)) = .ok () := by
  rw [Except.forM_eq_ok]
  rintro ⟨⟨value, scaled⟩, i⟩ hp
  obtain ⟨hValue, hScaled⟩ := List.getElem?_zip_eq_some.1 (List.mem_zipIdx_iff_getElem?.1 hp)
  have hMem : scaled ∈ periodic.map (fun value => value * root) := List.mem_of_getElem? hScaled
  rw [List.getElem?_map, hValue, Option.map_some, Option.some.injEq] at hScaled
  refine Except.raiseIf_eq_ok.2 ?_
  rintro (hInfinite | ⟨hPos, hZero⟩)
  · exact Bool.false_ne_true (hInfinite.symm.trans (hFinite scaled hMem))
  · rw [← hScaled] at hZero
    exact (mul_pos hPos hRoot).ne' hZero

omit [IsStrictOrderedRing K] in
/-- Annualized values have a smallest and a largest. -/
theorem exists_extremes (hNonempty : periodic ≠ []) (root : K) : ∃ lowest highest,
    smallest (periodic.map (fun value => value * root)) = .ok lowest ∧
      largest (periodic.map (fun value => value * root)) = .ok highest := by
  have hScaled : periodic.map (fun value => value * root) ≠ [] := by
    rwa [ne_eq, List.map_eq_nil_iff]
  obtain ⟨lowest, hLowest⟩ := exists_smallest hScaled
  obtain ⟨highest, hHighest⟩ := exists_largest hScaled
  exact ⟨lowest, highest, hLowest, hHighest⟩

/-- The output of deviations and their extremes. -/
abbrev outputBetween (floats : Floats K) (sqrt : K → K) (inputs : Inputs) (factor : K)
    (periodic : List K) (warnings : List Text) (lowest highest : K) : Output K :=
  outputOf inputs warnings factor periodic (periodic.map (fun value => value * sqrt factor))
    (chartOf floats inputs factor (periodic.map (fun value => value * sqrt factor)) lowest highest
      assumptions warnings)

/-- Where the numbers are finite, the output is accepted. -/
theorem Calculated.assemble_eq_ok (hSqrt : IsSquareRoot sqrt) (hGuarded : Guarded inputs)
    (h : Calculated inputs returns factor periodic) (hCount : warnings.length ≤ 20)
    (hNotes : ∀ note ∈ warnings, IsNote note) {lowest highest : K}
    (hLowest : smallest (periodic.map (fun value => value * sqrt factor)) = .ok lowest)
    (hHighest : largest (periodic.map (fun value => value * sqrt factor)) = .ok highest)
    (hFinite : (outputBetween floats sqrt inputs factor periodic warnings lowest highest).IsFinite
      floats) :
    assemble floats sqrt inputs warnings factor periodic
      (periodic.map (fun value => value * sqrt factor)) =
      .ok (outputBetween floats sqrt inputs factor periodic warnings lowest highest) := by
  have hTwo := hGuarded.window_ge
  have hFits := hGuarded.window_le
  have hMax := inputs.length_le
  have hLength := h.length hGuarded
  have hLabels := length_categories hGuarded
  have hScaled : (periodic.map (fun value => value * sqrt factor)).length = periodic.length :=
    List.length_map _
  obtain ⟨k, hk⟩ := Int.eq_ofNat_of_zero_le (by omega : 0 ≤ inputs.windowLength)
  -- The steps of the source in their order: the derivations, the chart, and the checks of the
  -- output.
  have hDerivations : (derivationsOf inputs.windowLength periodic
      (periodic.map (fun value => value * sqrt factor))).forM (Derivation.validate floats.isFinite)
        = .ok () := by
    rw [Except.forM_eq_ok]
    intro d hd
    obtain ⟨i, p, a, hp, ha, hCases⟩ := mem_derivationsOf hd
    have hLess : i < periodic.length := (List.getElem?_eq_some_iff.1 hp).1
    rw [hk] at hCases
    rcases hCases with rfl | rfl
    · exact Derivation.validate_eq_ok.2 (valid_periodicDerivation (by omega) (by omega)
        (hFinite.periodic p (List.mem_of_getElem? hp)))
    · exact Derivation.validate_eq_ok.2 (valid_annualizedDerivation (by omega)
        (hFinite.annualized a (List.mem_of_getElem? ha)))
  have hChart := @valid_chartOf _ floats _ factor _ _ hGuarded
    (List.ne_nil_of_length_pos (by omega :
      0 < (periodic.map (fun value => value * sqrt factor)).length)) (by omega)
    hFinite.annualized hCount hNotes lowest highest
  have hValid := validate_outputOf hGuarded h.positive (hSqrt.pos h.positive)
    (squareRoot_of_nonneg h.positive.le) hLength
    h.nonneg hNotes hFinite
  exact Except.bind_eq_ok.2 ⟨(), validated_eq_ok.2 hDerivations,
    Except.bind_eq_ok.2 ⟨_, Except.bind_eq_ok.2 ⟨lowest, hLowest, Except.bind_eq_ok.2 ⟨highest,
    hHighest, Except.bind_eq_ok.2 ⟨(), validated_eq_ok.2
    (VisualizationSpec.validate_eq_ok.2 hChart), rfl⟩⟩⟩, Except.bind_eq_ok.2 ⟨(), hValid, rfl⟩⟩⟩

/-- Where the numbers are finite, the calculation gives the output. -/
theorem Calculated.calculate_eq_ok (hSqrt : IsSquareRoot sqrt) (hGuarded : Guarded inputs)
    (h : Calculated inputs returns factor periodic) (hCount : warnings.length ≤ 20)
    (hNotes : ∀ note ∈ warnings, IsNote note) {lowest highest : K}
    (hLowest : smallest (periodic.map (fun value => value * sqrt factor)) = .ok lowest)
    (hHighest : largest (periodic.map (fun value => value * sqrt factor)) = .ok highest)
    (hFinite : (outputBetween floats sqrt inputs factor periodic warnings lowest highest).IsFinite
      floats) :
    calculate floats sqrt inputs returns factor warnings =
      .ok (outputBetween floats sqrt inputs factor periodic warnings lowest highest) :=
  Except.bind_eq_ok.2 ⟨periodic, h.mapM_eq_ok hSqrt hFinite.periodic,
    Except.bind_eq_ok.2 ⟨sqrt factor, squareRoot_of_nonneg h.positive.le,
    Except.bind_eq_ok.2 ⟨(), forM_annualized_eq_ok (hSqrt.pos h.positive)
    hFinite.annualized, h.assemble_eq_ok hSqrt hGuarded hCount hNotes hLowest hHighest hFinite⟩⟩⟩

/-- The calculation gives no other output, and only finite numbers. -/
theorem Calculated.eq_of_calculate (hSqrt : IsSquareRoot sqrt)
    (h : Calculated inputs returns factor periodic)
    {lowest highest : K} (hLowest : smallest (periodic.map (fun value => value * sqrt factor)) =
      .ok lowest)
    (hHighest : largest (periodic.map (fun value => value * sqrt factor)) = .ok highest)
    {output : Output K}
    (hOutput : calculate floats sqrt inputs returns factor warnings = .ok output) :
    output = outputBetween floats sqrt inputs factor periodic warnings lowest highest ∧
      output.IsFinite floats := by
  obtain ⟨values, hLoop, hOutput⟩ := Except.bind_eq_ok.1 hOutput
  obtain rfl := h.eq_of_mapM hSqrt hLoop
  obtain ⟨root, hRoot, hOutput⟩ := Except.bind_eq_ok.1 hOutput
  obtain rfl := Except.ok.inj ((squareRoot_of_nonneg h.positive.le).symm.trans hRoot)
  obtain ⟨-, -, hOutput⟩ := Except.bind_eq_ok.1 hOutput
  obtain ⟨-, -, hOutput⟩ := Except.bind_eq_ok.1 hOutput
  obtain ⟨chart, hChart, hOutput⟩ := Except.bind_eq_ok.1 hOutput
  obtain ⟨⟨⟩, hValid, hDone⟩ := Except.bind_eq_ok.1 hOutput
  obtain rfl := Except.ok.inj hDone
  obtain ⟨lowest', hLowest', hChart⟩ := Except.bind_eq_ok.1 hChart
  obtain rfl := Except.ok.inj (hLowest.symm.trans hLowest')
  obtain ⟨highest', hHighest', hChart⟩ := Except.bind_eq_ok.1 hChart
  obtain rfl := Except.ok.inj (hHighest.symm.trans hHighest')
  obtain ⟨-, -, hSpec⟩ := Except.bind_eq_ok.1 hChart
  obtain rfl := Except.ok.inj hSpec
  obtain ⟨⟨⟩, hFields, -⟩ := Except.bind_eq_ok.1 hValid
  obtain ⟨hPeriodic, hFields⟩ := andThen_eq_ok.1 (validated_eq_ok.1 hFields)
  obtain ⟨hAnnualized, hFields⟩ := andThen_eq_ok.1 hFields
  obtain ⟨-, hFields⟩ := andThen_eq_ok.1 hFields
  obtain ⟨hFactor, -⟩ := andThen_eq_ok.1 hFields
  exact ⟨rfl, (validateSeries_eq_ok.1 hPeriodic).2.1, (validateSeries_eq_ok.1 hAnnualized).2.1,
    Bool.not_eq_false _ ▸ Except.raiseIf_eq_ok.1 hFactor⟩

/-- The calculation refuses numbers that are not finite in its declared way. -/
theorem Calculated.error_of_calculate {doubles : Doubles K} (hSqrt : IsSquareRoot sqrt)
    (hGuarded : Guarded inputs)
    (h : Calculated inputs returns factor periodic) (hCount : warnings.length ≤ 20)
    (hNotes : ∀ note ∈ warnings, IsNote note) {e : Calculation.Raised}
    (hError : calculate doubles.toFloats sqrt inputs returns factor warnings = .error e) :
    ∃ stage i, e = nonFiniteResult stage i := by
  have hFits := hGuarded.window_le
  have hLength := h.length hGuarded
  rcases Except.bind_eq_error.1 hError with hLoop | ⟨values, hLoop, hRest⟩
  · exact ⟨_, h.error_of_mapM hSqrt doubles.isFinite_zero hLoop⟩
  obtain rfl := h.eq_of_mapM hSqrt hLoop
  rcases Except.bind_eq_error.1 hRest with hRoot | ⟨root, hRoot, hRest⟩
  · cases hRoot.symm.trans (squareRoot_of_nonneg h.positive.le)
  obtain rfl := Except.ok.inj ((squareRoot_of_nonneg h.positive.le).symm.trans hRoot)
  rcases Except.bind_eq_error.1 hRest with hChecks | ⟨⟨⟩, hChecks, hAssemble⟩
  · obtain ⟨p, -, hp⟩ := Except.exists_of_forM_eq_error hChecks
    exact ⟨_, _, (Except.raiseIf_eq_error.1 hp).2.symm⟩
  -- every check has passed, so all numbers are finite
  have hNonempty : values ≠ [] := List.ne_nil_of_length_pos (by omega)
  obtain ⟨lowest, highest, hLowest, hHighest⟩ := exists_extremes hNonempty (sqrt factor)
  have hFinite :
    (outputBetween doubles.toFloats sqrt inputs factor values warnings lowest highest).IsFinite
      doubles.toFloats := by
    constructor
    case periodic => exact h.finite_of_mapM hSqrt doubles.isFinite_zero hLoop
    case annualized =>
      intro scaled hScaled
      obtain ⟨value, hValue, rfl⟩ := List.mem_map.1 hScaled
      obtain ⟨i, hi⟩ := List.mem_iff_getElem?.1 hValue
      have hBoth : (values.zip (values.map (fun value => value * sqrt factor)))[i]? =
        some (value, value * sqrt factor) :=
        List.getElem?_zip_eq_some.2 ⟨hi, by rw [List.getElem?_map, hi, Option.map_some]⟩
      have hCheck := Except.forM_eq_ok.1 hChecks ((value, value * sqrt factor), i)
        (List.mem_zipIdx_iff_getElem?.2 hBoth)
      exact Bool.not_eq_false _ ▸ fun hInfinite => Except.raiseIf_eq_ok.1 hCheck (.inl hInfinite)
    case factor =>
      have hExact := h.exactFactor
      unfold exact at hExact
      split at hExact
      case h_1 q hq => exact Except.ok.inj hExact ▸ doubles.isFinite_toRat _ q hq
      case h_2 => cases hExact
  cases hAssemble.symm.trans (h.assemble_eq_ok hSqrt hGuarded hCount hNotes hLowest hHighest
    hFinite)

end

/-! ## The component -/

/-- The messages of the rules stand as notes. -/
theorem messagesStand_constraints : MessagesStand constraints := by
  refine ⟨by decide, ?_⟩
  simp only [constraints, ownRules, timestampRules, List.cons_append, List.nil_append,
    List.forall_mem_cons, List.not_mem_nil, false_imp_iff, implies_true, and_true]
  refine ⟨?_, ?_, ?_, ?_, ?_, ?_, ?_, ?_, ?_, ?_, ?_, ?_, ?_⟩ <;> (apply message_stands; decide)

/-- The warnings that go into an output. -/
def warningsOf (inputs : Inputs) : List Text :=
  ((violationsOf constraints inputs.outcomes).filter (fun v => v.severity = .warning)).map
    Violation.message

section

variable {K : Type} [Field K] [LinearOrder K] {sqrt : K → K} {inputs : Inputs}
    {returns periodic : List K} {factor : K}
  {stdev : List Binary64 → Except Text Binary64}

/-- What the component does where no blocking rule fires. -/
theorem rollingHistoricalVolatility_eq {floats : Floats K}
    (h : Calculated inputs returns factor periodic)
    (hNone : ∀ v ∈ violationsOf constraints inputs.outcomes, v.severity ≠ .blocking) :
    rollingHistoricalVolatility floats stdev sqrt inputs =
      calculate floats sqrt inputs returns factor (warningsOf inputs) := by
  have hOutcomes : Outcomes stdev inputs.modelDump constraints inputs.outcomes :=
    outcomes_of_constraints inputs
  refine (bind_preflight_guidanceOf requiredQuestions hOutcomes (hasField_modelDump inputs) hNone
    _).trans ?_
  rw [h.numbers]
  show (exact inputs.annualizationFactor >>= fun factor => _) = _
  rw [h.exactFactor]
  rfl

variable [IsStrictOrderedRing K]

/-- Where no blocking rule fires, the component gives one output, and gives it where its numbers are
finite. -/
theorem exists_rolls (floats : Floats K) (hSqrt : IsSquareRoot sqrt)
    (hNone : ∀ v ∈ violationsOf constraints inputs.outcomes, v.severity ≠ .blocking) :
    ∃ returns output, Rolls floats sqrt inputs returns output ∧
      ∀ o, rollingHistoricalVolatility floats stdev sqrt inputs = .ok o ↔ o = output ∧
        output.IsFinite floats := by
  have hGuarded := guarded_of_noneBlocks (noneBlocks_of_violations hNone)
  have hOutcomes : Outcomes stdev inputs.modelDump constraints inputs.outcomes :=
    outcomes_of_constraints inputs
  obtain ⟨hCount, hNotes⟩ := isNote_warnings hOutcomes messagesStand_constraints
  obtain ⟨returns, periodic, factor, h⟩ := exists_calculated hSqrt hGuarded
  have hNonempty : periodic ≠ [] := by
    have hFits := hGuarded.window_le
    have hLength := h.length hGuarded
    exact List.ne_nil_of_length_pos (by omega)
  obtain ⟨lowest, highest, hLowest, hHighest⟩ := exists_extremes hNonempty (sqrt factor)
  refine ⟨returns, outputBetween floats sqrt inputs factor periodic (warningsOf inputs) lowest
    highest,
    h.rolls hSqrt hGuarded _, fun o => ?_⟩
  rw [rollingHistoricalVolatility_eq h hNone]
  constructor
  · intro hOutput
    obtain ⟨rfl, hFinite⟩ := h.eq_of_calculate hSqrt hLowest hHighest hOutput
    exact ⟨rfl, hFinite⟩
  · rintro ⟨rfl, hFinite⟩
    exact h.calculate_eq_ok hSqrt hGuarded hCount hNotes hLowest hHighest hFinite

/-- Where no blocking rule fires, the component refuses nothing but numbers that are not finite. -/
theorem error_of_not_blocking {doubles : Doubles K} (hSqrt : IsSquareRoot sqrt)
    (hNone : ∀ v ∈ violationsOf constraints inputs.outcomes, v.severity ≠ .blocking)
    {e : Calculation.Raised}
    (hError : rollingHistoricalVolatility doubles.toFloats stdev sqrt inputs = .error e) :
    ∃ stage i, e = nonFiniteResult stage i := by
  have hGuarded := guarded_of_noneBlocks (noneBlocks_of_violations hNone)
  have hOutcomes : Outcomes stdev inputs.modelDump constraints inputs.outcomes :=
    outcomes_of_constraints inputs
  obtain ⟨hCount, hNotes⟩ := isNote_warnings hOutcomes messagesStand_constraints
  obtain ⟨returns, periodic, factor, h⟩ := @exists_calculated K _ _ _ _ _ hSqrt hGuarded
  rw [rollingHistoricalVolatility_eq h hNone] at hError
  exact h.error_of_calculate hSqrt hGuarded hCount hNotes hError

end

/-- The real square root is a square root. -/
theorem isSquareRoot_real : IsSquareRoot Real.sqrt :=
  ⟨Real.sqrt_nonneg, fun _ hx => Real.mul_self_sqrt hx⟩

/-- The rules of the contract evaluate on all inputs, and where no blocking rule fires the
calculation over the real numbers returns: it raises nothing, in particular at no maximum or
minimum, division, square root or index. It gives one value for every complete window, the sample
standard deviation of its returns, aligned with the last timestamp of the window, and its output
passes every validation. Only a number that does not count as finite is refused, as
`non_finite_result`; in exact arithmetic all of them count. -/
theorem rules_guard_calculation (stdev : List Binary64 → Except Text Binary64) (doubles : Doubles ℝ)
    (inputs : Inputs) :
    ∃ violations, evaluateConstraints stdev guidance inputs.modelDump = .ok violations ∧
      ((∀ v ∈ violations, v.severity ≠ .blocking) →
        ∃ (returns : List ℝ) (output : Output ℝ), Rolls doubles.toFloats Real.sqrt inputs returns
          output ∧
          (output.IsFinite doubles.toFloats →
            rollingHistoricalVolatility doubles.toFloats stdev Real.sqrt inputs = .ok output) ∧
          (¬ output.IsFinite doubles.toFloats → ∃ stage windowIndex,
            rollingHistoricalVolatility doubles.toFloats stdev Real.sqrt inputs =
              .error (nonFiniteResult stage windowIndex))) := by
  refine ⟨_, evaluateConstraints_guidanceOf (outcomes_of_constraints inputs), fun hNone => ?_⟩
  obtain ⟨returns, output, hRolls, hReturns⟩ :=
    @exists_rolls _ _ _ _ _ stdev _ doubles.toFloats isSquareRoot_real hNone
  refine ⟨returns, output, hRolls, fun hFinite => (hReturns output).2 ⟨rfl, hFinite⟩,
    fun hInfinite => ?_⟩
  cases hResult : rollingHistoricalVolatility doubles.toFloats stdev Real.sqrt inputs with
  | ok o => exact absurd ((hReturns o).1 hResult).2 hInfinite
  | error e =>
      obtain ⟨stage, windowIndex, rfl⟩ := error_of_not_blocking isSquareRoot_real hNone hResult
      exact ⟨stage, windowIndex, rfl⟩

/-- Three daily log returns with their timestamps, and windows of two. -/
def sampleInputs : Inputs where
  returns := [Binary64.ofInt 1, Binary64.ofInt 2, Binary64.ofInt 4]
  windowLength := 2
  annualizationFactor := Binary64.ofInt 252
  returnKind := .log
  timestamps := [5, 6, 7].mapM (fun day => Calendar.datetime 2026 1 day 0 0 0 0 0)
  declaredFrequency := some .daily
  returns_nonempty := List.cons_ne_nil _ _
  length_le := by show 3 ≤ 2 ^ 63 - 1; decide

/-- All real numbers count as finite, and none is written out. -/
noncomputable def allFinite : Doubles ℝ where
  isFinite := fun _ => true
  sixDigits := fun _ => []
  sixDigits_encodable := fun _ => nofun
  sixDigits_length := fun _ => Nat.zero_le _
  isFinite_toRat := fun _ _ _ => rfl

/-- Without overflow every output is finite. -/
theorem isFinite_allFinite (output : Output ℝ) : output.IsFinite allFinite.toFloats :=
  ⟨fun _ _ => rfl, fun _ _ => rfl, rfl⟩

/-- No blocking rule holds of the sample inputs. -/
theorem not_blocking_sampleInputs : ∀ v ∈ violationsOf constraints sampleInputs.outcomes,
    v.severity ≠ .blocking := by
  decide +kernel

/-- Three daily returns and windows of two: the calculation gives two volatilities. -/
theorem rules_guard_calculation_sample : ∃ (returns : List ℝ) (output : Output ℝ),
    rollingHistoricalVolatility allFinite.toFloats (fun _ => .ok Binary64.zero) Real.sqrt
    sampleInputs = .ok output ∧
      Rolls allFinite.toFloats Real.sqrt sampleInputs returns output ∧
        output.periodicVolatility.length = 2 := by
  obtain ⟨violations, hViolations, hGuards⟩ :=
    rules_guard_calculation (fun _ => .ok Binary64.zero) allFinite sampleInputs
  rw [guidance, evaluateConstraints_guidanceOf (outcomes_of_constraints sampleInputs)]
    at hViolations
  obtain rfl := Except.ok.inj hViolations
  obtain ⟨returns, output, hRolls, hReturns, -⟩ := hGuards not_blocking_sampleInputs
  have hCount := hRolls.count
  simp only [sampleInputs, List.length_cons, List.length_nil] at hCount
  exact ⟨returns, output, hReturns (isFinite_allFinite output), hRolls, by omega⟩

end RollingHistoricalVolatility
