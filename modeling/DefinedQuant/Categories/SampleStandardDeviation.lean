import DefinedQuant.Categories.RollingHistoricalVolatility
import DefinedQuant.Lib.SampleDeviation
import Mathlib.Algebra.Order.BigOperators.Group.List
import Mathlib.Algebra.Order.Ring.Abs
import Mathlib.Tactic.Linarith

/-!
# The sample standard deviation of both volatility components

`_sample_standard_deviation` divides the working values by their largest magnitude, accumulates the
root of the squared deviations with `hypot` and scales the result back. The working values are the
values less the first one, or the values themselves where one of those differences is not finite. In
exact arithmetic both choices give the sample standard deviation. What counts as finite is any
predicate.
-/

namespace HistoricalVolatility

open Calculation
open RollingHistoricalVolatility (scaledDeviation)

variable {K : Type} [Field K] [LinearOrder K]

/-- `_CENTERED_PERIODIC_EXPRESSION` -/
def centeredPeriodicExpression : Text := py "centered_scaled_hypot_sample_stdev_n_minus_1(returns)"

/-- `_RAW_FALLBACK_PERIODIC_EXPRESSION` -/
def rawFallbackPeriodicExpression : Text :=
  py "raw_fallback_scaled_hypot_sample_stdev_n_minus_1(returns)"

/-- `_ZERO_PERIODIC_EXPRESSION` -/
def zeroPeriodicExpression : Text := py "zero_dispersion_sample_stdev_n_minus_1(returns)"

/-- `_non_finite_result` -/
def nonFiniteResult (stage : String) : Raised :=
  .domainError "non_finite_result"
    "non_finite_result: Finite inputs produced a volatility that cannot be represented without overflow or meaningful non-zero dispersion rounding to zero."
    [(py "stage", .str (py stage))]

/-- `_sample_standard_deviation` -/
def sampleStandardDeviation (isFinite : K → Bool) (sqrt : K → K) (returns : List K) :
    Except Raised (K × Text) := do
  let anchor ← item returns 0
  let centered := returns.map (fun value => value - anchor)
  let (workingValues, expression) :=
    if centered.all isFinite then (centered, centeredPeriodicExpression)
    else (returns, rawFallbackPeriodicExpression)
  match ← scaledDeviation sqrt workingValues with
  | none => return (0, zeroPeriodicExpression)
  | some (normalized, result) => do
      Except.raiseIf (isFinite result = false ∨ 0 < normalized ∧ result = 0)
        (nonFiniteResult "periodic")
      return (result, expression)

end HistoricalVolatility

namespace RollingHistoricalVolatility

open Calculation

/-! ## Steps of the calculation -/

theorem exists_item {α : Type} {xs : List α} {i : ℕ} (h : i < xs.length) : ∃ x, item xs i = .ok x :=
  ⟨_, item_of_getElem? (List.getElem?_eq_getElem h)⟩

theorem le_foldl_max {α : Type} [LinearOrder α] (xs : List α) (best : α) :
    best ≤ xs.foldl max best ∧ ∀ x ∈ xs, x ≤ xs.foldl max best := by
  induction xs generalizing best with
  | nil => exact ⟨le_rfl, by simp⟩
  | cons y xs ih =>
      obtain ⟨hBest, hRest⟩ := ih (max best y)
      rw [List.forall_mem_cons]
      exact ⟨(le_max_left _ _).trans hBest, (le_max_right _ _).trans hBest, hRest⟩

/-- The largest value is at least every value. -/
theorem le_of_largest {α : Type} [LinearOrder α] {xs : List α} {best : α}
    (h : largest xs = .ok best) :
    ∀ x ∈ xs, x ≤ best := by
  cases xs with
  | nil => cases h
  | cons y xs =>
      cases h
      rw [List.forall_mem_cons]
      exact le_foldl_max xs y

section

variable {K : Type} [Field K] [LinearOrder K]

/-- A function that is a square root on the numbers that have one. -/
structure IsSquareRoot (sqrt : K → K) : Prop where
  nonneg : ∀ x, 0 ≤ sqrt x
  mul_self : ∀ x, 0 ≤ x → sqrt x * sqrt x = x

variable {sqrt : K → K}

theorem IsSquareRoot.pos (hSqrt : IsSquareRoot sqrt) {x : K} (hx : 0 < x) : 0 < sqrt x := by
  refine lt_of_le_of_ne (hSqrt.nonneg x) (fun h => ?_)
  have hMul := hSqrt.mul_self x hx.le
  rw [← h, mul_zero] at hMul
  exact hx.ne hMul

variable [IsStrictOrderedRing K]

/-- The accumulated root of a sum of squares. -/
theorem foldl_hypot (hSqrt : IsSquareRoot sqrt) (f : K → K) (xs : List K) {root : K}
    (h : 0 ≤ root) :
    0 ≤ xs.foldl (fun root x => hypot sqrt root (f x)) root ∧
      xs.foldl (fun root x => hypot sqrt root (f x)) root ^ 2 =
        root ^ 2 + (xs.map (fun x => f x ^ 2)).sum := by
  induction xs generalizing root with
  | nil => simp [h]
  | cons x xs ih =>
      have hSquare : hypot sqrt root (f x) ^ 2 = root ^ 2 + f x ^ 2 := by
        rw [sq, hypot, hSqrt.mul_self _ (add_nonneg (mul_self_nonneg _) (mul_self_nonneg _)),
          sq, sq]
      obtain ⟨hNonneg, hFold⟩ := ih (hSqrt.nonneg (root * root + f x * f x))
      refine ⟨hNonneg, hFold.trans ?_⟩
      rw [List.map_cons, List.sum_cons, ← add_assoc]
      exact congrArg (· + _) hSquare

/-- A number is the sample standard deviation of a list, with the divisor `n - 1`. -/
structure IsSampleDeviation (values : List K) (deviation : K) : Prop where
  nonneg : 0 ≤ deviation
  square : deviation ^ 2 * ((values.length : K) - 1) = SampleDeviation.squaredDeviations values

/-- Two numbers that are the deviation of one list are equal. -/
theorem IsSampleDeviation.unique {values : List K} {d e : K} (hd : IsSampleDeviation values d)
    (he : IsSampleDeviation values e) (hLength : 2 ≤ values.length) : d = e := by
  have hCount : (0 : K) < (values.length : K) - 1 := by
    rw [sub_pos]
    exact_mod_cast hLength
  have hSquare : d ^ 2 = e ^ 2 := mul_right_cancel₀ hCount.ne' (hd.square.trans he.square.symm)
  exact (pow_left_inj₀ hd.nonneg he.nonneg two_ne_zero).1 hSquare

/-- The deviation is zero exactly when all values are equal. -/
theorem IsSampleDeviation.eq_zero_iff {values : List K} {d : K} (hd : IsSampleDeviation values d)
    (hLength : 2 ≤ values.length) : d = 0 ↔ ∀ x ∈ values, ∀ y ∈ values, x = y := by
  have hCount : (0 : K) < (values.length : K) - 1 := by
    rw [sub_pos]
    exact_mod_cast hLength
  constructor
  · intro hZero x hx y hy
    have hSquares : SampleDeviation.squaredDeviations values = 0 := by
      rw [← hd.square, hZero]
      ring
    have hMean := SampleDeviation.eq_mean_of_squaredDeviations_eq_zero hSquares
    rw [hMean x hx, hMean y hy]
  · intro hEqual
    obtain ⟨x, hx⟩ := List.exists_mem_of_length_pos (by omega : 0 < values.length)
    have hSquares := SampleDeviation.squaredDeviations_eq_zero (fun y hy => hEqual y hy x hx)
    rw [← hd.square, mul_eq_zero, or_iff_left hCount.ne'] at hSquares
    exact pow_eq_zero_iff two_ne_zero |>.1 hSquares

/-- Whatever is subtracted from the values, the calculation gives their deviation: nothing where
they are all the number that was subtracted. No division by zero and no maximum of an empty list is
reached. -/
theorem scaledDeviation_sub (hSqrt : IsSquareRoot sqrt) {values : List K}
    (hLength : 2 ≤ values.length) (a : K) :
    scaledDeviation sqrt (values.map (fun value => value - a)) = .ok none ∧
      IsSampleDeviation values 0 ∨
      ∃ normalized deviation,
        scaledDeviation sqrt (values.map (fun value => value - a)) =
        .ok (some (normalized, deviation)) ∧
          IsSampleDeviation values deviation ∧ ¬ (0 < normalized ∧ deviation = 0) := by
  have hValues : values ≠ [] := List.ne_nil_of_length_pos (by omega)
  obtain ⟨scale, hScale⟩ :
    ∃ scale, largest ((values.map (fun value => value - a)).map (fun value => |value|)) =
      .ok scale := exists_largest (by simpa using hValues)
  have hBound : ∀ value ∈ values, |value - a| ≤ scale := by
    intro value hValue
    exact le_of_largest hScale _ (List.mem_map_of_mem (List.mem_map_of_mem hValue))
  -- With zero scale all values are the one they are taken from. Otherwise the scaled values are
  -- computed and their deviation is scaled back.
  by_cases hZero : scale = 0
  · refine .inl ⟨?_, le_rfl, ?_⟩
    · simp only [scaledDeviation, hScale, hZero, bind, Except.bind, if_true]
      rfl
    · have hEqual : ∀ value ∈ values, value = a := by
        intro value hValue
        have hLe := hBound value hValue
        rw [hZero] at hLe
        exact sub_eq_zero.1 (abs_eq_zero.1 (le_antisymm hLe (abs_nonneg _)))
      rw [SampleDeviation.squaredDeviations_eq_zero hEqual]
      ring
  · have hPos : 0 < scale := by
      obtain ⟨value, hValue⟩ := List.exists_mem_of_ne_nil _ hValues
      exact lt_of_le_of_ne ((abs_nonneg _).trans (hBound value hValue)) (Ne.symm hZero)
    let scaled := values.map (fun value => (value - a) / scale)
    have hScaled : (values.map (fun value => value - a)).mapM (fun value => divide value scale) =
      .ok scaled := by
      rw [Except.mapM_eq_map (g := fun value => value / scale)
        (fun value _ => divide_of_ne_zero hZero), List.map_map]
      rfl
    have hCount : scaled.length = values.length := List.length_map _
    have hCountPos : (0 : K) < (scaled.length : K) - 1 := by
      rw [hCount, sub_pos]
      exact_mod_cast hLength
    have hMean : divide scaled.sum (scaled.length : K) = .ok (SampleDeviation.mean scaled) :=
      divide_of_ne_zero (by linarith)
    have hRoot := hSqrt.pos hCountPos
    obtain ⟨hNonneg, hSum⟩ := foldl_hypot hSqrt (fun value => value - SampleDeviation.mean scaled)
      scaled
      (le_refl (0 : K))
    -- The loop over `hypot` gives the root of the sum of squares.
    let root :=
      scaled.foldl (fun root value => hypot sqrt root (value - SampleDeviation.mean scaled)) 0
    refine .inr ⟨root / sqrt ((scaled.length : K) - 1),
      scale * (root / sqrt ((scaled.length : K) - 1)), ?_, ⟨?_, ?_⟩, ?_⟩
    · simp only [scaledDeviation, hScale, hZero, hScaled, hMean, bind, Except.bind,
        squareRoot_of_nonneg hCountPos.le, divide_of_ne_zero hRoot.ne', if_false]
      rfl
    · exact mul_nonneg hPos.le (div_nonneg hNonneg hRoot.le)
    -- Scaling by the largest difference cancels in the sample deviation.
    · have hSquare : sqrt ((scaled.length : K) - 1) ^ 2 = (values.length : K) - 1 := by
        rw [sq, hSqrt.mul_self _ hCountPos.le, hCount]
      have hDeviations : root ^ 2 = SampleDeviation.squaredDeviations values / scale ^ 2 := by
        rw [← SampleDeviation.squaredDeviations_affine a scale]
        refine hSum.trans ?_
        rw [sq, mul_zero, zero_add]
        rfl
      rw [mul_pow, div_pow, hSquare, hDeviations]
      have hDivisor : (values.length : K) - 1 ≠ 0 := by rw [← hCount]; exact hCountPos.ne'
      field_simp
    · rintro ⟨hNormal, hResult⟩
      exact (mul_pos hPos hNormal).ne' hResult

omit [LinearOrder K] [IsStrictOrderedRing K] in
/-- Both branches compute on the values less some number. -/
theorem exists_workingValues (isFinite : K → Bool) (values : List K) (anchor : K) :
    ∃ a, (if (values.map (fun value => value - anchor)).all isFinite then
      values.map (fun value => value - anchor) else values) = values.map (fun value => value - a) :=
        by
  split_ifs
  · exact ⟨anchor, rfl⟩
  · exact ⟨0, by simp⟩

/-- Both components give the sample standard deviation of the values where it is finite, whichever
branch is taken, refuse where it is not, and return no other number. -/
theorem exists_sampleDeviation (hSqrt : IsSquareRoot sqrt) (isFinite : K → Bool) {values : List K}
    (hLength : 2 ≤ values.length) : ∃ deviation, IsSampleDeviation values deviation ∧
      (isFinite deviation = true →
        (∃ expression, HistoricalVolatility.sampleStandardDeviation isFinite sqrt values =
          .ok (deviation, expression)) ∧
          ∀ windowIndex, sampleStandardDeviation isFinite sqrt values windowIndex = .ok deviation) ∧
      (isFinite deviation = false → isFinite 0 = true →
        HistoricalVolatility.sampleStandardDeviation isFinite sqrt values =
            .error (HistoricalVolatility.nonFiniteResult "periodic") ∧
          ∀ windowIndex, sampleStandardDeviation isFinite sqrt values windowIndex =
            .error (nonFiniteResult "periodic" windowIndex)) ∧
      ∀ windowIndex value, sampleStandardDeviation isFinite sqrt values windowIndex = .ok value →
        value = deviation := by
  obtain ⟨anchor, hAnchor⟩ := exists_item (by omega : 0 < values.length)
  obtain ⟨a, hWorking⟩ := exists_workingValues isFinite values anchor
  -- the source pairs the working values with their expression
  have hPair : ∃ expression, (if (values.map (fun value => value - anchor)).all isFinite then
        (values.map (fun value => value - anchor), HistoricalVolatility.centeredPeriodicExpression)
      else (values, HistoricalVolatility.rawFallbackPeriodicExpression)) =
        (values.map (fun value => value - a), expression) := by
    rw [← hWorking]
    split_ifs
    · exact ⟨_, rfl⟩
    · exact ⟨_, rfl⟩
  obtain ⟨expression, hPair⟩ := hPair
  unfold HistoricalVolatility.sampleStandardDeviation sampleStandardDeviation
  simp only [hAnchor, hWorking, hPair, bind, Except.bind]
  rcases scaledDeviation_sub hSqrt hLength a with ⟨hNone, hIs⟩ | ⟨normalized, deviation, hSome, hIs,
    hNever⟩
  · refine ⟨0, hIs, fun _ => ?_, fun hInfinite hZero => ?_, fun windowIndex value h => ?_⟩
    · rw [hNone]
      exact ⟨⟨_, rfl⟩, fun _ => rfl⟩
    · rw [hZero] at hInfinite
      cases hInfinite
    · rw [hNone] at h
      exact (Except.ok.inj h).symm
  · have hReturns : isFinite deviation = true → ¬ (isFinite deviation = false ∨ 0 < normalized ∧
      deviation = 0) := by
      intro hFinite
      rw [hFinite]
      rintro (h | h)
      · cases h
      · exact hNever h
    refine ⟨deviation, hIs, fun hFinite => ?_, fun hInfinite _ => ?_, fun windowIndex value h => ?_⟩
    · rw [hSome]
      simp only [Except.raiseIf, if_neg (hReturns hFinite)]
      exact ⟨⟨expression, rfl⟩, fun _ => rfl⟩
    · rw [hSome]
      simp only [Except.raiseIf, if_pos (Or.inl hInfinite), and_self, implies_true]
    · rw [hSome] at h
      cases hFinite : isFinite deviation with
      | true =>
          simp only [Except.raiseIf, if_neg (hReturns hFinite)] at h
          exact (Except.ok.inj h).symm
      | false =>
          simp only [Except.raiseIf, if_pos (Or.inl hFinite)] at h
          cases h

/-- What a window of at least two values with a deviation gives. -/
theorem sampleStandardDeviation_of_isSampleDeviation (hSqrt : IsSquareRoot sqrt)
    {isFinite : K → Bool} {values : List K}
    (hLength : 2 ≤ values.length) {deviation : K} (hIs : IsSampleDeviation values deviation)
    (windowIndex : ℤ) :
    (isFinite deviation = true → sampleStandardDeviation isFinite sqrt values windowIndex =
      .ok deviation) ∧
      (isFinite deviation = false → isFinite 0 = true → sampleStandardDeviation isFinite sqrt values
        windowIndex =
        .error (nonFiniteResult "periodic" windowIndex)) ∧
      ∀ value, sampleStandardDeviation isFinite sqrt values windowIndex = .ok value →
        value = deviation := by
  obtain ⟨d, hd, hFinite, hInfinite, hOnly⟩ := exists_sampleDeviation hSqrt isFinite hLength
  obtain rfl := hd.unique hIs hLength
  exact ⟨fun h => (hFinite h).2 windowIndex, fun h hZero => (hInfinite h hZero).2 windowIndex,
    hOnly windowIndex⟩

end

end RollingHistoricalVolatility
