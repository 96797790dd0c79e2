import DefinedQuant.Categories.RollingHistoricalVolatilityGuards

/-!
# Rolling windows and single lists have one deviation

The deviation that the historical component computes of a list is the root of its sample variance,
and the rolling component has this deviation for every window, `sample_variance`.
-/

namespace HistoricalVolatility

open Calculation
open RollingHistoricalVolatility hiding sampleStandardDeviation nonFiniteResult
open Validation (Violation preflight)

/-- Whichever branch is taken, the deviation of a list is the root of its sample variance, in both
components, and zero exactly for equal values. The rolling component has this deviation for every
window of consecutive values. -/
theorem sample_variance {K : Type} [Field K] [LinearOrder K] [IsStrictOrderedRing K] {sqrt : K → K}
    (hSqrt : IsSquareRoot sqrt) :
    (∀ (isFinite : K → Bool) (values : List K), 2 ≤ values.length → ∃ deviation,
      0 ≤ deviation ∧
      deviation ^ 2 * ((values.length : K) - 1) = SampleDeviation.squaredDeviations values ∧
      (deviation = 0 ↔ ∀ x ∈ values, ∀ y ∈ values, x = y) ∧
      (isFinite deviation = true →
        (∃ expression, sampleStandardDeviation isFinite sqrt values = .ok (deviation, expression)) ∧
          ∀ windowIndex,
            RollingHistoricalVolatility.sampleStandardDeviation isFinite sqrt values windowIndex =
            .ok deviation) ∧
      (isFinite deviation = false → isFinite 0 = true →
        sampleStandardDeviation isFinite sqrt values = .error (nonFiniteResult "periodic") ∧
          ∀ windowIndex, RollingHistoricalVolatility.sampleStandardDeviation isFinite sqrt values
            windowIndex =
            .error (RollingHistoricalVolatility.nonFiniteResult "periodic" windowIndex))) ∧
    ∀ (floats : Floats K) {stdev : List Binary64 → Except Text Binary64} {inputs : Inputs}
      {warnings : List Violation},
      preflight stdev (.mapping guidance) inputs.modelDump = .ok warnings →
      ∃ (returns : List K) (output : Output K), inputs.returns.mapM exact = .ok returns ∧
        (∀ o, rollingHistoricalVolatility floats stdev sqrt inputs = .ok o ↔ o = output ∧
          output.IsFinite floats) ∧
        (output.periodicVolatility.length : ℤ) = returns.length - inputs.windowLength + 1 ∧
        ∀ i < output.periodicVolatility.length, ∃ deviation,
          output.periodicVolatility[i]? = some deviation ∧
          (window returns inputs.windowLength.toNat i).length = inputs.windowLength.toNat ∧
          IsSampleDeviation (window returns inputs.windowLength.toNat i) deviation ∧
          (floats.isFinite deviation = true → ∃ expression,
            sampleStandardDeviation floats.isFinite sqrt
            (window returns inputs.windowLength.toNat i) = .ok (deviation, expression)) := by
  -- Of a single window both branches of the source give the one sample deviation there is.
  constructor
  · intro isFinite values hLength
    obtain ⟨deviation, hIs, hFinite, hInfinite, -⟩ := exists_sampleDeviation hSqrt isFinite hLength
    exact ⟨deviation, hIs.nonneg, hIs.square, hIs.eq_zero_iff hLength, hFinite, hInfinite⟩
  -- Along the run every window has the configured length, which the rules put at two or more.
  · intro floats stdev inputs warnings hPreflight
    have hNone := not_blocking_of_preflight (outcomes_of_constraints inputs)
      (hasField_modelDump inputs) hPreflight
    obtain ⟨returns, output, hRolls, hReturns⟩ := @exists_rolls _ _ _ _ _ stdev _ floats hSqrt hNone
    have hWindow := (guarded_of_preflight hPreflight).window_ge
    refine ⟨returns, output, Except.mapM_eq_ok.2 hRolls.numbers, hReturns, ?_, fun i hi => ?_⟩
    · rw [hRolls.count, hRolls.numbers.length_eq]
    · obtain ⟨hLength, deviation, hGet, -, hIs⟩ := hRolls.windows i hi
      have hTwo : 2 ≤ (window returns inputs.windowLength.toNat i).length := by omega
      obtain ⟨single, hSingle, hFinite, -⟩ := exists_sampleDeviation hSqrt floats.isFinite hTwo
      obtain rfl := hSingle.unique hIs hTwo
      exact ⟨single, hGet, hLength, hIs, fun h => (hFinite h).1⟩

/-- A list on which the differences from the first value are not all finite, and the windows of two
of three returns. -/
theorem sample_variance_pair :
    (([-2, 2, 2, 2].map (fun value : ℝ => value - -2)).all (fun x => decide (|x| ≤ 2)) = false ∧
      ∃ expression, sampleStandardDeviation (fun x : ℝ => decide (|x| ≤ 2)) Real.sqrt
        [-2, 2, 2, 2] =
        .ok (2, expression)) ∧
      ∃ output : Output ℝ, rollingHistoricalVolatility allFinite.toFloats
        (fun _ => .ok Binary64.zero) Real.sqrt
        sampleInputs = .ok output ∧ output.periodicVolatility.length = 2 := by
  obtain ⟨hSingle, hRolling⟩ := sample_variance isSquareRoot_real
  constructor
  · refine ⟨by norm_num, ?_⟩
    obtain ⟨deviation, hNonneg, hSquare, -, hFinite, -⟩ :=
      hSingle (fun x => decide (|x| ≤ 2)) [-2, 2, 2, 2] (by decide)
    have hFour : deviation ^ 2 = 2 ^ 2 := by
      norm_num [SampleDeviation.squaredDeviations, SampleDeviation.mean] at hSquare
      linarith
    obtain rfl : deviation = 2 := (pow_left_inj₀ hNonneg zero_le_two two_ne_zero).1 hFour
    exact (hFinite (by norm_num)).1
  · have hPreflight := @preflight_guidanceOf (fun _ => .ok Binary64.zero) _ _ _ requiredQuestions
      (outcomes_of_constraints sampleInputs) (hasField_modelDump sampleInputs)
        not_blocking_sampleInputs
    obtain ⟨returns, output, hNumbers, hReturns, hCount, -⟩ :=
      hRolling allFinite.toFloats hPreflight
    have hLength := (Except.mapM_eq_ok.1 hNumbers).length_eq
    simp only [sampleInputs, List.length_cons, List.length_nil] at hLength hCount
    exact ⟨output, (hReturns output).2 ⟨rfl, isFinite_allFinite output⟩, by omega⟩

end HistoricalVolatility
