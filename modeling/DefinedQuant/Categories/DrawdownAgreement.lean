import DefinedQuant.Categories.DrawdownEpisode

/-!
# Drawdowns agree with their definition

The output that the calculation builds from positive prices: its derivations, its chart and its
validation. In exact arithmetic the calculation returns an output that agrees with the definitions
and that the validation accepts, `drawdown_agrees`; the rules let only such inputs through,
`drawdown_of_rules`.
-/

namespace Drawdown

open Calendar (AwareDatetime)
open SeriesRules
open Calculation
open PriceSeries
open ComponentOutput
open Extrema
open Visualization (VisualizationSpec Invalid andThen_eq_ok)

/-! ## Derivations -/

theorem isNote_ratioExpression {index peak : ℕ} (hIndex : index ≤ maxsize)
    (hPeak : peak ≤ maxsize) :
    IsNote (ratioExpression index peak) := by
  refine isNote_of_sized ?_
    (((((sized_py _).append (sized_digits hIndex)).append (sized_py _)).append
    (sized_digits hPeak)).append (sized_py _)) (by decide)
  simp [ratioExpression, isBlank_append, (by decide : isBlank (py "prices[") = false)]

theorem isNote_pointExpression {index peak : ℕ} (hIndex : index ≤ maxsize)
    (hPeak : peak ≤ maxsize) :
    IsNote (pointExpression index peak) := by
  unfold pointExpression
  split_ifs
  · refine isNote_of_sized ?_ (((sized_py _).append (sized_digits hIndex)).append (sized_py _))
      (by decide)
    simp [isBlank_append, (by decide : isBlank (py "prices[") = false)]
  · exact isNote_ratioExpression hIndex hPeak

theorem isNote_maximumExpression {peak trough : ℕ} (hPeak : peak ≤ maxsize)
    (hTrough : trough ≤ maxsize) :
    IsNote (maximumExpression peak trough) := by
  unfold maximumExpression
  split_ifs
  · exact isNote_py (by decide) (by decide)
  · exact isNote_ratioExpression hTrough hPeak

/-- References that a derivation may have. -/
structure SoundRefs (refs : List InputRef) : Prop where
  each : ∀ item ∈ refs, Protocol.isSafeId item.field = true ∧ 0 ≤ item.index
  nonempty : refs ≠ []
  distinct : refs.Nodup

/-- One price, or two different ones. -/
theorem soundRefs_single (i : ℕ) : SoundRefs [priceRef i] := by
  refine ⟨?_, List.cons_ne_nil _ _, List.nodup_singleton _⟩
  rw [List.forall_mem_singleton]
  exact validRef_priceRef i

theorem soundRefs_pair {i j : ℕ} (h : j ≠ i) : SoundRefs [priceRef i, priceRef j] := by
  refine ⟨?_, List.cons_ne_nil _ _, ?_⟩
  · rw [List.forall_mem_cons, List.forall_mem_singleton]
    exact ⟨validRef_priceRef i, validRef_priceRef j⟩
  · simpa [priceRef] using fun hSame : i = j => h hSame.symm

theorem soundRefs_pointInputs (index peak : ℕ) : SoundRefs (pointInputs index peak) := by
  unfold pointInputs
  split_ifs with hSame
  · exact soundRefs_single index
  · exact soundRefs_pair hSame

theorem soundRefs_maximumInputs (peak trough : ℕ) : SoundRefs (maximumInputs peak trough) := by
  unfold maximumInputs
  split_ifs with hSame
  · exact soundRefs_single peak
  · exact soundRefs_pair hSame

section

variable {K : Type} [Field K] [LinearOrder K] {floats : Floats K} {prices drawdowns : List K}
    {peaks : List ℕ}
  {maximumDrawdown : K} {peak trough : ℕ} {recovery : Option ℕ}

omit [Field K] [LinearOrder K] in
/-- The derivation of a drawdown is valid. -/
theorem valid_pointDerivation {point : (K × ℕ) × ℕ} (hFinite : floats.isFinite point.1.1 = true)
    (hIndex : point.2 ≤ maxsize) (hPeak : point.1.2 ≤ maxsize) :
    (pointDerivation point).Valid floats.isFinite := by
  have hNote := isNote_pointExpression hIndex hPeak
  obtain ⟨hEach, hSome, hDistinct⟩ := soundRefs_pointInputs point.2 point.1.2
  exact ⟨⟨(by decide : Protocol.isSafeId (py "drawdowns") = true), Int.natCast_nonneg _⟩, hEach,
    hSome, hNote.within, hNote.notBlank, hFinite, hDistinct⟩

omit [Field K] [LinearOrder K] in
/-- The derivation of the maximum drawdown is valid. -/
theorem valid_maximumDerivation (hFinite : floats.isFinite maximumDrawdown = true)
    (hPeak : peak ≤ maxsize)
    (hTrough : trough ≤ maxsize) : (maximumDerivation peak trough maximumDrawdown).Valid
    floats.isFinite := by
  have hNote := isNote_maximumExpression hPeak hTrough
  obtain ⟨hEach, hSome, hDistinct⟩ := soundRefs_maximumInputs peak trough
  exact ⟨⟨(by decide : Protocol.isSafeId (py "maximum_drawdown") = true), le_rfl⟩, hEach, hSome,
    hNote.within, hNote.notBlank, hFinite, hDistinct⟩

omit [Field K] [LinearOrder K] in
/-- What a derivation of a drawdown is about. -/
theorem getElem?_points {i : ℕ} {d : Derivation K}
    (h : ((drawdowns.zip peaks).zipIdx.map pointDerivation)[i]? = some d) :
    ∃ value p, drawdowns[i]? = some value ∧ peaks[i]? = some p ∧ d = pointDerivation ((value, p),
      i) := by
  obtain ⟨⟨value, p⟩, hPair, rfl⟩ := getElem?_map_zipIdx h
  rw [List.getElem?_zip_eq_some] at hPair
  exact ⟨value, p, hPair.1, hPair.2, rfl⟩

/-! ## The chart -/

omit [Field K] in
/-- The chart of finite drawdowns is valid. -/
theorem visualization_eq_ok {N : Type} {inputs : Inputs N} {assumptions warnings : List Text}
    {deepest : K} (hDeepest : smallest drawdowns = .ok deepest) (hSome : drawdowns ≠ [])
    (hFinite : ∀ value ∈ drawdowns, floats.isFinite value = true)
    (hAligned : ∀ ts, inputs.timestamps = some ts → ts.length = drawdowns.length)
    (hCount : drawdowns.length ≤ maxsize) (hAssumptions : Visualization.ValidNotes assumptions)
    (hWarnings : Visualization.ValidNotes warnings) :
    ∃ spec, visualization floats inputs drawdowns assumptions warnings = .ok spec := by
  have hCategories := length_pointLabels hAligned
  refine ⟨_, Except.bind_eq_ok.2 ⟨_, hDeepest, Except.bind_eq_ok.2 ⟨(),
    validated_eq_ok.2 (Visualization.VisualizationSpec.validate_eq_ok.2 ?_), rfl⟩⟩⟩
  -- One goal for each check of the specification.
  constructor
  all_goals dsimp only
  case id => decide
  case title => decide
  case altText =>
    exact (((((sized_literal _ (by decide)).append (sized_digits hCount)).append
      (sized_py _)).append
      (sized_sixDigits floats _)).append (sized_py _)).charsWithin (by decide) (by decide)
  case xLabel => cases inputs.timestamps.isNone <;> decide
  case yLabel => decide
  case caption => exact ((sized_py _).append (sized_py _)).charsWithin (Nat.zero_le _) (by decide)
  case categories =>
    rw [← List.length_pos_iff, hCategories]
    exact List.length_pos_iff.2 hSome
  case eachCategory => exact charsWithin_pointLabels inputs hCount
  case series => exact ⟨le_rfl, (by decide : 1 ≤ 12)⟩
  case eachSeries =>
    rw [List.forall_mem_singleton]
    exact ⟨(by decide : Protocol.charsWithin 1 64 (py "drawdown") = true ∧
      Protocol.isSafeId (py "drawdown") = true),
      (by decide : Protocol.charsWithin 1 120 (py "Drawdown") = true), hSome, hFinite⟩
  case aligned =>
    rw [List.forall_mem_singleton]
    exact hCategories.symm
  case keys => exact List.nodup_singleton _
  case assumptions => exact hAssumptions
  case warnings => exact hWarnings
  case width => decide
  case height => decide
  case version => decide
  case kind => exact ⟨nofun, fun _ => rfl⟩

/-! ## The notes -/

omit [Field K] [LinearOrder K] in
theorem isNote_assumptionsOf (kind : PriceKind) : ∀ note ∈ assumptionsOf kind, IsNote note := by
  rw [assumptionsOf, List.forall_mem_cons, List.forall_mem_singleton]
  refine ⟨isNote_py (by decide) (by decide), ?_⟩
  refine isNote_of_sized ?_ (((sized_py _).append (sized_priceKind kind)).append (sized_py _))
    (by decide)
  simp [isBlank_append, (by decide : isBlank (py "Price semantics are caller-declared as ") =
    false)]

omit [Field K] [LinearOrder K] in
theorem isNote_warningsOf {N : Type} (inputs : Inputs N) :
    (warningsOf inputs).length ≤ 20 ∧ ∀ note ∈ warningsOf inputs, IsNote note := by
  have hOrdering :
    IsNote (py
      "ordering_unverified: No timestamps were supplied, so chronology could not be verified.") :=
    isNote_py (by decide) (by decide)
  have hUnadjusted :
    IsNote (py
      "unadjusted_price_interpretation: Corporate-action breaks can appear as drawdowns in unadjusted prices.") :=
    isNote_py (by decide) (by decide)
  unfold warningsOf
  split_ifs
  all_goals simp [hOrdering, hUnadjusted]

/-! ## The output -/

/-- The output agrees with the definitions. -/
structure Agrees (prices : List K) (output : Output K) : Prop where
  count : output.drawdowns.length = prices.length
  drawdown : ∀ t < prices.length,
    output.drawdowns[t]? = some (valueAt prices t / runningMax (valueAt prices) t - 1)
  runningPeak : ∀ t < prices.length, ∃ p, output.runningPeakIndices[t]? = some p ∧
    IsLatestMax (valueAt prices) t p
  trough : IsEarliestMin (valueAt output.drawdowns) prices.length output.troughIndex
  maximum : output.drawdowns[output.troughIndex]? = some output.maximumDrawdown
  peak : output.runningPeakIndices[output.troughIndex]? = some output.peakIndex
  atOnce : output.maximumDrawdown = 0 → output.recoveryIndex = some output.troughIndex
  recovery : output.maximumDrawdown ≠ 0 →
    IsFirstBehind (fun s => valueAt prices output.peakIndex ≤ valueAt prices s) output.troughIndex
      prices.length
      output.recoveryIndex
  recovered : output.recovered = output.recoveryIndex.isSome

section

variable {N : Type} {inputs : Inputs N} {warnings : List Text} {chart : VisualizationSpec K}

/-- The output of an episode agrees with the definitions. -/
theorem agrees_outputOf (h : IsUnderwater prices prices.length drawdowns peaks)
    (hPositive : ∀ p ∈ prices, 0 < p)
    (hEpisode : IsEpisode prices drawdowns peaks maximumDrawdown peak trough recovery) :
    Agrees prices (outputOf inputs warnings drawdowns peaks maximumDrawdown peak trough recovery
      chart) where
  count := h.count
  drawdown := by
    intro t ht
    obtain ⟨p, -, hMax, hDrawdown⟩ := h.each t ht
    rw [← hMax.value]
    exact hDrawdown
  runningPeak := by
    intro t ht
    obtain ⟨p, hp, hMax, -⟩ := h.each t ht
    exact ⟨p, hp, hMax⟩
  trough := hEpisode.deepest
  maximum := hEpisode.maximum
  peak := hEpisode.peakAt
  atOnce := by
    intro hZero
    have hSame : trough = peak := (hEpisode.zero_iff h hPositive).1 hZero
    show recovery = some trough
    rw [hEpisode.recovers, recoveryOf, if_pos hSame, hSame]
  recovery := by
    intro hNegative
    exact hEpisode.isFirstBehind (fun hSame => hNegative ((hEpisode.zero_iff h hPositive).2 hSame))
  recovered := rfl

/-- Every derivation points at its value. -/
theorem targets_outputOf :
    validateDerivationTargets
      (outputOf inputs warnings drawdowns peaks maximumDrawdown peak trough recovery
        chart).modelFields
      ((drawdowns.zip peaks).zipIdx.map pointDerivation ++
        [maximumDerivation peak trough maximumDrawdown]) = .ok () := by
  have hDrawdowns : (outputOf inputs warnings drawdowns peaks maximumDrawdown peak trough recovery
      chart).modelFields.lookup (py "drawdowns") = some (.numbers drawdowns) := by
    simp [Output.modelFields, outputOf, List.lookup_cons, Validation.py_beq]
  have hScalar : (outputOf inputs warnings drawdowns peaks maximumDrawdown peak trough recovery
      chart).modelFields.lookup (py "maximum_drawdown") = some (.number maximumDrawdown) := by
    simp [Output.modelFields, outputOf, List.lookup_cons, Validation.py_beq]
  apply validateDerivationTargets_of_targets
  · rw [List.map_append, List.map_singleton]
    refine List.nodup_append.2 ⟨nodup_outputs (fun i d hd => ?_), List.nodup_singleton _, ?_⟩
    · obtain ⟨value, p, -, -, rfl⟩ := getElem?_points hd
      rfl
    · intro ref hRef other hOther hSame
      obtain ⟨d, hd, rfl⟩ := List.mem_map.1 hRef
      obtain ⟨i, hi⟩ := List.mem_iff_getElem?.1 hd
      obtain ⟨value, p, -, -, rfl⟩ := getElem?_points hi
      rw [List.mem_singleton.1 hOther] at hSame
      exact absurd (congrArg OutputRef.field hSame) (by decide : py "drawdowns" ≠
        py "maximum_drawdown")
  · intro d hd
    rcases List.mem_append.1 hd with hPoint | hLast
    · obtain ⟨i, hi⟩ := List.mem_iff_getElem?.1 hPoint
      obtain ⟨value, p, hValue, -, rfl⟩ := getElem?_points hi
      exact .numbers hDrawdowns rfl hValue
    · rw [List.mem_singleton.1 hLast]
      exact .number hScalar rfl rfl

omit [Field K] [LinearOrder K] in
/-- The timestamps of guarded inputs are accepted. -/
theorem validateTimestamps_outputOf {positive : N → Prop} (hGuarded : inputs.Guarded positive)
    (hLength : drawdowns.length = inputs.prices.length) :
    validateTimestamps (outputOf inputs warnings drawdowns peaks maximumDrawdown peak trough
      recovery chart) = .ok () := by
  unfold validateTimestamps outputOf
  cases hTs : inputs.timestamps with
  | none =>
      exact andThen_eq_ok.2 ⟨Except.raiseIf_eq_ok.2 Bool.false_ne_true,
        andThen_eq_ok.2 ⟨Except.raiseIf_eq_ok.2 (not_not.2 (hGuarded.frequency hTs)),
        Except.raiseIf_eq_ok.2 (by simp)⟩⟩
  | some ts =>
      have hAligned : ¬ ts.length ≠ drawdowns.length := by
        rw [hLength, hGuarded.aligned ts hTs]
        exact not_not.2 rfl
      have hIncreasing : ¬ notIncreasing ts = true := by
        rw [notIncreasing_of_isChain (hGuarded.increasing ts hTs)]
        decide
      exact andThen_eq_ok.2 ⟨Except.raiseIf_eq_ok.2 hAligned,
        andThen_eq_ok.2 ⟨Except.raiseIf_eq_ok.2 (Bool.noConfusion),
        andThen_eq_ok.2 ⟨Except.raiseIf_eq_ok.2 hIncreasing,
        andThen_eq_ok.2 ⟨Except.raiseIf_eq_ok.2 (not_not.2 rfl),
        andThen_eq_ok.2 ⟨Except.raiseIf_eq_ok.2 (not_not.2 rfl),
        Except.raiseIf_eq_ok.2 (not_not.2 rfl)⟩⟩⟩⟩⟩

/-- The validation of the episode and the lineage accepts what the calculation builds. -/
theorem validateEpisodeAndLineage_outputOf {positive : N → Prop}
    (hGuarded : inputs.Guarded positive)
    (hCount : prices.length = inputs.prices.length) (hPositive : ∀ p ∈ prices, 0 < p)
    (h : IsUnderwater prices prices.length drawdowns peaks)
    (hEpisode : IsEpisode prices drawdowns peaks maximumDrawdown peak trough recovery)
    (hEarliest : earliestMinimum drawdowns = some trough) :
    validateEpisodeAndLineage (outputOf inputs warnings drawdowns peaks maximumDrawdown peak trough
      recovery chart) =
      .ok () := by
  -- The checks of the validator, one after the other.
  have hLengths : ¬ peaks.length ≠ drawdowns.length := by
    rw [h.count, h.peakCount]
    exact not_not.2 rfl
  have hZip : (drawdowns.zip peaks).length = drawdowns.length := by
    rw [List.length_zip, h.count, h.peakCount, Nat.min_self]
  have hDerivations : ¬ ((drawdowns.zip peaks).zipIdx.map pointDerivation ++
      [maximumDerivation peak trough maximumDrawdown]).length ≠ drawdowns.length + 1 := by
    rw [List.length_append, List.length_map, List.length_zipIdx, hZip, List.length_singleton]
    exact not_not.2 rfl
  have hPeaks : validatePeaks (outputOf inputs warnings drawdowns peaks maximumDrawdown peak trough
    recovery chart) =
      .ok () := validatePeaks_eq_ok h hPositive rfl rfl
  have hAccepted : validateEpisode
      (outputOf inputs warnings drawdowns peaks maximumDrawdown peak trough recovery chart) =
        .ok () :=
    validateEpisode_eq_ok h hPositive hEpisode rfl rfl rfl rfl rfl rfl rfl hEarliest
  have hTimestamps : validateTimestamps
      (outputOf inputs warnings drawdowns peaks maximumDrawdown peak trough recovery chart) =
        .ok () :=
    validateTimestamps_outputOf hGuarded (h.count.trans hCount)
  -- The derivation of each point refers to its own price and peak.
  have hPoints : (((drawdowns.zip peaks).zipIdx.map pointDerivation ++
      [maximumDerivation peak trough maximumDrawdown]).dropLast.zip peaks).zipIdx.forM
        validatePoint = .ok () := by
    rw [List.dropLast_concat, Except.forM_eq_ok]
    rintro ⟨⟨d, p⟩, i⟩ hMem
    obtain ⟨hAt, hp⟩ : ((drawdowns.zip peaks).zipIdx.map pointDerivation)[i]? = some d ∧
      peaks[i]? = some p :=
      List.getElem?_zip_eq_some.1 (List.mem_zipIdx_iff_getElem?.1 hMem)
    obtain ⟨value, q, -, hq, rfl⟩ := getElem?_points hAt
    obtain rfl : p = q := Option.some.inj (hp.symm.trans hq)
    exact andThen_eq_ok.2 ⟨Except.raiseIf_eq_ok.2 (not_not.2 rfl),
      andThen_eq_ok.2 ⟨Except.raiseIf_eq_ok.2 (not_not.2 rfl),
      Except.raiseIf_eq_ok.2 (not_not.2 rfl)⟩⟩
  -- The last derivation is that of the maximum.
  have hLast : validateMaximum (outputOf inputs warnings drawdowns peaks maximumDrawdown peak trough
    recovery chart)
      ((drawdowns.zip peaks).zipIdx.map pointDerivation ++
        [maximumDerivation peak trough maximumDrawdown]).getLast? = .ok () := by
    rw [List.getLast?_concat]
    exact andThen_eq_ok.2 ⟨Except.raiseIf_eq_ok.2 (not_not.2 rfl),
      Except.raiseIf_eq_ok.2 (not_or.2 ⟨not_not.2 rfl, not_not.2 rfl⟩)⟩
  exact andThen_eq_ok.2 ⟨Except.raiseIf_eq_ok.2 hLengths,
    andThen_eq_ok.2 ⟨hPeaks, andThen_eq_ok.2 ⟨hAccepted,
    andThen_eq_ok.2 ⟨hTimestamps, andThen_eq_ok.2 ⟨Except.raiseIf_eq_ok.2 hDerivations,
    andThen_eq_ok.2 ⟨hPoints, hLast⟩⟩⟩⟩⟩⟩

variable [IsStrictOrderedRing K]

omit [IsStrictOrderedRing K] in
/-- The derivations of the drawdowns are valid. -/
theorem validate_points (hExact : ∀ x, floats.isFinite x = true) (hMax : prices.length ≤ maxsize)
    (h : IsUnderwater prices prices.length drawdowns peaks) :
    ((drawdowns.zip peaks).zipIdx.map pointDerivation).forM (Derivation.validate floats.isFinite) =
      .ok () := by
  rw [Except.forM_eq_ok]
  intro d hd
  obtain ⟨i, hi⟩ := List.mem_iff_getElem?.1 hd
  obtain ⟨value, p, -, hp, rfl⟩ := getElem?_points hi
  have hLess : i < prices.length := by
    rw [← h.peakCount]
    exact (List.getElem?_eq_some_iff.1 hp).1
  obtain ⟨q, hq, hIs, -⟩ := h.each i hLess
  obtain rfl : p = q := Option.some.inj (hp.symm.trans hq)
  have hBack := hIs.le
  exact Derivation.validate_eq_ok.2 (valid_pointDerivation (hExact _) (by show i ≤ maxsize; omega)
    (by show p ≤ maxsize; omega))

/-- The whole output is accepted. -/
theorem validate_outputOf (hExact : ∀ x, floats.isFinite x = true)
    (hPositive : ∀ p ∈ prices, 0 < p) (hNotes : ∀ note ∈ warnings, IsNote note)
    (h : IsUnderwater prices prices.length drawdowns peaks)
    (hEpisode : IsEpisode prices drawdowns peaks maximumDrawdown peak trough recovery)
    (hLineage : validateEpisodeAndLineage
      (outputOf inputs warnings drawdowns peaks maximumDrawdown peak trough recovery chart) =
        .ok ()) :
    (outputOf inputs warnings drawdowns peaks maximumDrawdown peak trough recovery chart).validate
      floats = .ok () := by
  have hLess := hEpisode.deepest.lt
  have hBounds := h.bounds hPositive
  have hIsDrawdown : ∀ value ∈ drawdowns, isDrawdown floats value = true := by
    intro value hValue
    rw [isDrawdown, hExact, decide_eq_true (hBounds value hValue)]
    rfl
  have hSome : drawdowns ≠ [] := by
    rw [← List.length_pos_iff, h.count]
    omega
  have hPeaksSome : peaks ≠ [] := by
    rw [← List.length_pos_iff, h.peakCount]
    omega
  have hAll : ¬ drawdowns.all (isDrawdown floats) = false := by
    rw [List.all_eq_true.2 hIsDrawdown]
    decide
  have hMaximum : ¬ isDrawdown floats maximumDrawdown = false := by
    rw [hIsDrawdown _ (List.mem_of_getElem? hEpisode.maximum)]
    decide
  have hTwo : ¬ ((drawdowns.zip peaks).zipIdx.map pointDerivation ++
      [maximumDerivation peak trough maximumDrawdown]).length < 2 := by
    rw [List.length_append, List.length_map, List.length_zipIdx, List.length_zip, h.count,
      h.peakCount, List.length_singleton]
    omega
  exact andThen_eq_ok.2 ⟨Except.raiseIf_eq_ok.2 hSome, andThen_eq_ok.2 ⟨Except.raiseIf_eq_ok.2 hAll,
    andThen_eq_ok.2 ⟨Except.raiseIf_eq_ok.2 hMaximum,
    andThen_eq_ok.2 ⟨Except.raiseIf_eq_ok.2 hPeaksSome,
    andThen_eq_ok.2 ⟨Except.raiseIf_eq_ok.2 hTwo,
    andThen_eq_ok.2 ⟨validateMessages_of_isNote (isNote_assumptionsOf inputs.priceKind),
    andThen_eq_ok.2 ⟨validateMessages_of_isNote hNotes, andThen_eq_ok.2 ⟨targets_outputOf,
    hLineage⟩⟩⟩⟩⟩⟩⟩⟩

end

/-! ## The calculation -/

variable [IsStrictOrderedRing K]

/-- In exact arithmetic the calculation of positive prices returns an output that agrees with the
definitions and that its validation accepts. -/
theorem calculate_agrees {N : Type} {inputs : Inputs N} {positive : N → Prop} {warnings : List Text}
    (hExact : ∀ x, floats.isFinite x = true) (hGuarded : inputs.Guarded positive)
    (hCount : prices.length = inputs.prices.length) (hPositive : ∀ p ∈ prices, 0 < p)
    (hWarnings : warnings.length ≤ 20) (hNotes : ∀ note ∈ warnings, IsNote note) :
    ∃ output, calculate floats inputs prices warnings = .ok output ∧ Agrees prices output ∧
      validateEpisodeAndLineage output = .ok () := by
  have hPrices : prices ≠ [] := by
    rw [← List.length_pos_iff, hCount]
    exact List.length_pos_iff.2 inputs.prices_nonempty
  have hMax : prices.length ≤ maxsize := hCount ▸ inputs.length_le
  -- The steps of the source in their order: the path, the deepest value, its place and its peak.
  obtain ⟨drawdowns, peaks, hPath, hUnderwater⟩ := calculatePath_eq_ok hExact hPositive hPrices
  have hSome : drawdowns ≠ [] := by
    rw [← List.length_pos_iff, hUnderwater.count]
    exact List.length_pos_iff.2 hPrices
  obtain ⟨deepest, hDeepest⟩ := exists_smallest hSome
  obtain ⟨hMem, hBound⟩ := smallest_spec hDeepest
  have hTrough : IsEarliestMin (valueAt drawdowns) prices.length (drawdowns.idxOf deepest) := by
    rw [← hUnderwater.count]
    exact isEarliestMin_idxOf hMem hBound
  obtain ⟨peak, hPeak, hIsPeak, hDrawdown⟩ := hUnderwater.each _ hTrough.lt
  have hInRange : peak < prices.length := hIsPeak.le.trans_lt hTrough.lt
  -- What was found is the episode that the definition asks for.
  have hEpisode : IsEpisode prices drawdowns peaks _ peak (drawdowns.idxOf deepest)
      (recoveryOf prices (valueAt prices peak) peak (drawdowns.idxOf deepest)) :=
    ⟨hTrough, hDrawdown, hPeak, hIsPeak, rfl⟩
  have hFits := hTrough.lt
  have hMaximum :
    Derivation.validate floats.isFinite (maximumDerivation peak (drawdowns.idxOf deepest)
      (valueAt prices (drawdowns.idxOf deepest) / valueAt prices peak - 1)) = .ok () :=
    Derivation.validate_eq_ok.2 (valid_maximumDerivation (hExact _) (by omega) (by omega))
  -- Then the derivations, the chart and the checks of the output.
  obtain ⟨chart, hChart⟩ : ∃ chart, visualization floats inputs drawdowns
    (assumptionsOf inputs.priceKind) warnings =
      .ok chart := visualization_eq_ok hDeepest hSome (fun value _ => hExact value)
    (fun ts hTs => by rw [hUnderwater.count, hCount, hGuarded.aligned ts hTs])
      (by rwa [hUnderwater.count])
    (validNotes_of_isNote (by show 2 ≤ 20; decide) (isNote_assumptionsOf inputs.priceKind))
    (validNotes_of_isNote hWarnings hNotes)
  have hLineage : validateEpisodeAndLineage
      (outputOf inputs warnings drawdowns peaks _ peak (drawdowns.idxOf deepest) _ chart) =
        .ok () :=
    validateEpisodeAndLineage_outputOf hGuarded hCount hPositive hUnderwater hEpisode
      (earliestMinimum_eq hDeepest)
  have hValid := validate_outputOf hExact hPositive hNotes hUnderwater hEpisode hLineage
  refine ⟨_, ?_, agrees_outputOf hUnderwater hPositive hEpisode, hLineage⟩
  exact Except.bind_eq_ok.2 ⟨_, hPath, Except.bind_eq_ok.2 ⟨_, hDeepest,
    Except.bind_eq_ok.2 ⟨_, item_of_getElem? hPeak,
    Except.bind_eq_ok.2 ⟨_, item_of_getElem? (getElem?_valueAt hInRange),
    Except.bind_eq_ok.2 ⟨_, item_of_getElem? hDrawdown,
    Except.bind_eq_ok.2 ⟨(), validated_eq_ok.2 (validate_points hExact hMax hUnderwater),
    Except.bind_eq_ok.2 ⟨(), validated_eq_ok.2 hMaximum,
    Except.bind_eq_ok.2 ⟨chart, hChart, Except.bind_eq_ok.2 ⟨(), validated_eq_ok.2 hValid,
    rfl⟩⟩⟩⟩⟩⟩⟩⟩⟩

end

/-! ## The component -/

/-- In exact rational arithmetic, for every series of positive prices with timestamps in order or
without any, the drawdowns, the running peaks, the trough, its peak and the recovery are those of
the definitions, and the output passes its own validation. -/
theorem drawdown_agrees (floats : Floats ℚ) (hExact : ∀ q, floats.isFinite q = true)
    (inputs : Inputs ℚ) (hGuarded : inputs.Guarded (0 < ·)) :
    ∃ output, calculate floats inputs inputs.prices (warningsOf inputs) = .ok output ∧
      Agrees inputs.prices output ∧ validateEpisodeAndLineage output = .ok () := by
  obtain ⟨hWarnings, hNotes⟩ := isNote_warningsOf inputs
  exact calculate_agrees hExact hGuarded rfl hGuarded.positive hWarnings hNotes

/-- The rationals, with the format of the one value that is shown. -/
def sampleFloats : Floats ℚ where
  isFinite := fun _ => true
  sixDigits := fun q => if q = -1 / 2 then py "-0.5" else []
  sixDigits_encodable := fun q => by
    split_ifs
    · exact encodable_py _
    · exact nofun
  sixDigits_length := fun q => by
    split_ifs
    · decide
    · exact Nat.zero_le _

/-- A fall to a half and the way back. -/
def sampleInputs : Inputs ℚ where
  prices := [4, 4, 2, 3, 4]
  priceKind := .unadjusted
  timestamps := none
  declaredFrequency := none
  prices_nonempty := List.cons_ne_nil _ _
  length_le := by show 5 ≤ 2 ^ 63 - 1; decide

theorem drawdown_agrees_sample :
    ∃ output, calculate sampleFloats sampleInputs sampleInputs.prices (warningsOf sampleInputs) =
      .ok output ∧
      Agrees sampleInputs.prices output ∧ validateEpisodeAndLineage output = .ok () := by
  apply drawdown_agrees sampleFloats (fun _ => rfl) sampleInputs
  constructor
  case positive =>
    simp only [sampleInputs, List.forall_mem_cons]
    norm_num
  case aligned => exact nofun
  case increasing => exact nofun
  case frequency => exact fun _ => rfl

/-- On every input of doubles the rules of the contract evaluate, and where no blocking rule fires
the component calculates with the exact prices, which are positive, and the timestamps are in order. -/
theorem drawdown_of_rules {K : Type} [Field K] [LinearOrder K] [IsStrictOrderedRing K]
    (floats : Floats K) (stdev : List Binary64 → Except Text Binary64) (inputs : Inputs Binary64) :
    ∃ violations, Validation.evaluateConstraints stdev guidance (modelDump inputs) =
      .ok violations ∧
      ((∀ v ∈ violations, v.severity ≠ .blocking) → inputs.Guarded IsPositive ∧ ∃ prices : List K,
        exactPrices inputs.prices = .ok prices ∧ (∀ p ∈ prices, 0 < p) ∧
          drawdown floats stdev inputs = calculate floats inputs prices (warningsOf inputs)) := by
  have hOutcomes : Outcomes stdev (modelDump inputs) constraints (outcomes inputs) :=
    outcomes_of_constraints inputs
  refine ⟨_, evaluateConstraints_guidanceOf hOutcomes, fun hNone => ?_⟩
  have hRules := noneBlocks_of_violations hNone
  have hGuarded := guarded_of_outcomes hRules
  obtain ⟨prices, hNumbers, hPositive⟩ := exists_exactPrices (K := K) hGuarded.positive
  refine ⟨hGuarded, prices, hNumbers, hPositive, ?_⟩
  have hSupplied : ∀ q ∈ requiredQuestions, Validation.hasField (modelDump inputs) (py q.1) := by
    intro q hq
    rw [requiredQuestions, List.mem_singleton] at hq
    rw [hq]
    simp [Validation.hasField, modelDump, Inputs.dumpWith, Inputs.pricesField,
      Inputs.priceKindField]
  refine (bind_preflight_guidanceOf requiredQuestions hOutcomes hSupplied hNone _).trans ?_
  show (exactPrices inputs.prices >>= fun prices => calculate floats inputs prices _) = _
  rw [hNumbers, messages_of_violations hRules]
  rfl

end Drawdown
