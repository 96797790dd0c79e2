import DefinedQuant.Categories.Drawdown
import Mathlib.Tactic.LinearCombination

/-!
# The maximum-drawdown episode

In exact arithmetic the calculation agrees with the definitions of drawdowns, running peaks, trough
and recovery, and the validation of the output, which finds the recovery among the drawdowns where
the calculation finds it among the prices, accepts what the calculation builds.
-/

namespace Drawdown

open Calendar (AwareDatetime)
open SeriesRules
open Calculation
open PriceSeries
open ComponentOutput
open Extrema
open Visualization (VisualizationSpec Invalid andThen_eq_ok)

section

variable {K : Type} [Field K] [LinearOrder K]

/-! ## The path -/

/-- The value of a list at an index. -/
def valueAt (xs : List K) (i : ℕ) : K := xs.getD i 0

omit [LinearOrder K] in
theorem valueAt_of_getElem? {xs : List K} {i : ℕ} {x : K} (h : xs[i]? = some x) :
    valueAt xs i = x := by
  rw [valueAt, List.getD_eq_getElem?_getD, h, Option.getD_some]

omit [LinearOrder K] in
theorem getElem?_valueAt {xs : List K} {i : ℕ} (h : i < xs.length) :
    xs[i]? = some (valueAt xs i) := by
  rw [valueAt, List.getD_eq_getElem _ _ h, List.getElem?_eq_getElem h]

/-- The drawdowns and running peaks of the first `k` prices. -/
structure IsUnderwater (prices : List K) (k : ℕ) (drawdowns : List K) (peaks : List ℕ) : Prop where
  count : drawdowns.length = k
  peakCount : peaks.length = k
  each : ∀ i < k, ∃ p, peaks[i]? = some p ∧ IsLatestMax (valueAt prices) i p ∧
    drawdowns[i]? = some (valueAt prices i / valueAt prices p - 1)

/-- The variables of the loop after `k` turns. -/
structure Follows (prices : List K) (k : ℕ) (path : Path K) : Prop where
  /-- Before the first turn the first price is the running peak. -/
  index : IsLatestMax (valueAt prices) (k - 1) path.runningPeakIndex
  peak : path.runningPeak = valueAt prices path.runningPeakIndex
  underwater : IsUnderwater prices k path.drawdowns path.peakIndices

/-- One more drawdown with its running peak. -/
theorem IsUnderwater.concat {prices drawdowns : List K} {peaks : List ℕ} {k p : ℕ} {value : K}
    (h : IsUnderwater prices k drawdowns peaks) (hPeak : IsLatestMax (valueAt prices) k p)
    (hValue : value = valueAt prices k / valueAt prices p - 1) :
    IsUnderwater prices (k + 1) (drawdowns ++ [value]) (peaks ++ [p]) := by
  refine ⟨?_, ?_, fun i hi => ?_⟩
  · rw [List.length_append, h.count, List.length_singleton]
  · rw [List.length_append, h.peakCount, List.length_singleton]
  · rcases Nat.lt_or_eq_of_le (Nat.lt_succ_iff.1 hi) with hLess | rfl
    · obtain ⟨q, hq, hMax, hDrawdown⟩ := h.each i hLess
      refine ⟨q, ?_, hMax, ?_⟩
      · rw [List.getElem?_append_left (by rwa [h.peakCount]), hq]
      · rw [List.getElem?_append_left (by rwa [h.count]), hDrawdown]
    · refine ⟨p, ?_, hPeak, ?_⟩
      · rw [← h.peakCount, List.getElem?_concat_length]
      · rw [← hValue, ← h.count, List.getElem?_concat_length]

section

variable [IsStrictOrderedRing K] {floats : Floats K} {prices : List K}

omit [IsStrictOrderedRing K] in
/-- A price below the running peak has a drawdown that is neither zero nor a total loss. -/
theorem belowPeak_eq_ok (hExact : ∀ x, floats.isFinite x = true) {runningPeak price : K}
    (hPeak : runningPeak ≠ 0)
    (hPrice : price ≠ 0) : belowPeak floats runningPeak price = .ok (price / runningPeak - 1) := by
  have hRatio : price / runningPeak ≠ 0 := div_ne_zero hPrice hPeak
  have hLoss : ¬ price / runningPeak - 1 = -1 := by
    intro hSame
    have hZero : price / runningPeak = 0 := by linear_combination hSame
    exact hRatio hZero
  have hFinite : ¬ floats.isFinite (price / runningPeak - 1) = false := by
    rw [hExact]
    decide
  unfold belowPeak
  rw [divide_of_ne_zero hPeak]
  exact Except.bind_eq_ok.2 ⟨_, rfl, Except.bind_eq_ok.2 ⟨(), Except.raiseIf_eq_ok.2 hRatio,
    Except.bind_eq_ok.2
    ⟨(), Except.raiseIf_eq_ok.2 hLoss, Except.bind_eq_ok.2 ⟨(), Except.raiseIf_eq_ok.2 hFinite,
      rfl⟩⟩⟩⟩

omit [IsStrictOrderedRing K] in
/-- One turn of the loop. -/
theorem stepPath_follows (hExact : ∀ x, floats.isFinite x = true) (hPositive : ∀ p ∈ prices, 0 < p)
    {k : ℕ} {price : K}
    {path : Path K} (hPrice : prices[k]? = some price) (h : Follows prices k path) :
    ∃ next, stepPath floats path (price, k) = .ok next ∧ Follows prices (k + 1) next := by
  have hAt : valueAt prices k = price := valueAt_of_getElem? hPrice
  have hPos : 0 < price := hPositive price (List.mem_of_getElem? hPrice)
  obtain ⟨hIndex, hPeak, hUnderwater⟩ := h
  unfold stepPath
  by_cases hNew : path.runningPeak ≤ price
  · have hMax : IsLatestMax (valueAt prices) k k := hIndex.pred_of_le (by rwa [hAt, ← hPeak])
    have hZero : (0 : K) = valueAt prices k / valueAt prices k - 1 := by
      rw [hAt, div_self hPos.ne', sub_self]
    refine ⟨_, if_pos hNew, ?_⟩
    constructor
    case index => exact hMax
    case peak => exact hAt.symm
    case underwater => exact hUnderwater.concat hMax hZero
  · have hBelow : valueAt prices k < valueAt prices path.runningPeakIndex := by
      rw [hAt, ← hPeak]
      exact not_le.1 hNew
    have hMax : IsLatestMax (valueAt prices) k path.runningPeakIndex := hIndex.pred_of_lt hBelow
    have hNonzero : path.runningPeak ≠ 0 := (hPos.trans (not_le.1 hNew)).ne'
    refine ⟨_,
      (if_neg hNew).trans (Except.bind_eq_ok.2 ⟨_, belowPeak_eq_ok hExact hNonzero hPos.ne', rfl⟩),
      ?_⟩
    constructor
    case index => exact hMax
    case peak => exact hPeak
    case underwater => exact hUnderwater.concat hMax (by rw [hAt, ← hPeak])

omit [IsStrictOrderedRing K] in
/-- The loop over the prices from `k` on. -/
theorem foldlM_stepPath (hExact : ∀ x, floats.isFinite x = true) (hPositive : ∀ p ∈ prices, 0 < p)
    {rest : List K}
    {k : ℕ} {path : Path K} (hRest : prices.drop k = rest) (h : Follows prices k path) :
    ∃ last, (rest.zipIdx k).foldlM (stepPath floats) path = .ok last ∧
      Follows prices (k + rest.length) last := by
  induction rest generalizing k path with
  | nil => exact ⟨path, rfl, h⟩
  | cons price rest ih =>
      have hPrice : prices[k]? = some price := by
        rw [← Nat.add_zero k, ← List.getElem?_drop, hRest, List.getElem?_cons_zero]
      obtain ⟨next, hStep, hNext⟩ := stepPath_follows hExact hPositive hPrice h
      have hTail : prices.drop (k + 1) = rest := by
        rw [← List.tail_drop, hRest, List.tail_cons]
      obtain ⟨last, hLoop, hLast⟩ := ih hTail hNext
      refine ⟨last, ?_, ?_⟩
      · rw [List.zipIdx_cons, List.foldlM_cons, hStep]
        exact hLoop
      · rwa [List.length_cons, ← Nat.add_assoc, Nat.add_right_comm]

omit [IsStrictOrderedRing K] in
/-- The path of positive prices. -/
theorem calculatePath_eq_ok (hExact : ∀ x, floats.isFinite x = true)
    (hPositive : ∀ p ∈ prices, 0 < p) (hSome : prices ≠ []) :
    ∃ drawdowns peaks, calculatePath floats prices = .ok (drawdowns, peaks) ∧
      IsUnderwater prices prices.length drawdowns peaks := by
  have hZero : prices[0]? = some (valueAt prices 0) :=
    getElem?_valueAt (List.length_pos_iff.2 hSome)
  have hStart : Follows prices 0 { runningPeak := valueAt prices 0, runningPeakIndex := 0 } :=
    ⟨isLatestMax_zero, rfl, rfl, rfl, fun i hi => absurd hi (Nat.not_lt_zero i)⟩
  obtain ⟨last, hLoop, hLast⟩ := foldlM_stepPath hExact hPositive (List.drop_zero) hStart
  rw [Nat.zero_add] at hLast
  exact ⟨last.drawdowns, last.peakIndices, Except.bind_eq_ok.2 ⟨_, item_of_getElem? hZero,
    Except.bind_eq_ok.2
    ⟨last, hLoop, rfl⟩⟩, hLast.underwater⟩

/-! ### What holds of drawdowns -/

variable {drawdowns : List K} {peaks : List ℕ}

omit [IsStrictOrderedRing K] in
theorem valueAt_pos (hPositive : ∀ p ∈ prices, 0 < p) {i : ℕ} (h : i < prices.length) :
    0 < valueAt prices i :=
  hPositive _ (List.mem_of_getElem? (getElem?_valueAt h))

/-- A drawdown is above -1 and at most zero. -/
theorem IsUnderwater.bounds (h : IsUnderwater prices prices.length drawdowns peaks)
    (hPositive : ∀ p ∈ prices, 0 < p) : ∀ value ∈ drawdowns, -1 < value ∧ value ≤ 0 := by
  intro value hValue
  obtain ⟨i, hi⟩ := List.mem_iff_getElem?.1 hValue
  have hLess : i < prices.length := by
    rw [← h.count]
    exact (List.getElem?_eq_some_iff.1 hi).1
  obtain ⟨p, -, hMax, hDrawdown⟩ := h.each i hLess
  rw [← Option.some.inj (hDrawdown.symm.trans hi)]
  have hPeak := valueAt_pos hPositive (hMax.le.trans_lt hLess)
  have hRatio : 0 < valueAt prices i / valueAt prices p :=
    div_pos (valueAt_pos hPositive hLess) hPeak
  have hOne : valueAt prices i / valueAt prices p ≤ 1 := (div_le_one hPeak).2 (hMax.bound i le_rfl)
  exact ⟨by linarith, by linarith⟩

omit [IsStrictOrderedRing K] in
/-- A drawdown is zero exactly at a running peak. -/
theorem IsUnderwater.zero_iff (h : IsUnderwater prices prices.length drawdowns peaks)
    (hPositive : ∀ p ∈ prices, 0 < p) {i p : ℕ} (hPeak : peaks[i]? = some p) :
    drawdowns[i]? = some 0 ↔ p = i := by
  have hLess : i < prices.length := by
    rw [← h.peakCount]
    exact (List.getElem?_eq_some_iff.1 hPeak).1
  obtain ⟨q, hq, hMax, hDrawdown⟩ := h.each i hLess
  obtain rfl := Option.some.inj (hq.symm.trans hPeak)
  have hPos := valueAt_pos hPositive (hMax.le.trans_lt hLess)
  rw [hDrawdown, Option.some_inj, sub_eq_zero, div_eq_one_iff_eq hPos.ne', hMax.eq_iff]

omit [IsStrictOrderedRing K] in
/-- Behind a trough below its peak, the first price at or above the peak is the first zero drawdown. -/
theorem IsUnderwater.recovery_iff (h : IsUnderwater prices prices.length drawdowns peaks)
    (hPositive : ∀ p ∈ prices, 0 < p) {trough peak s : ℕ}
    (hPeak : IsLatestMax (valueAt prices) trough peak)
    (hLow : trough < s) (hHigh : s < prices.length)
    (hBefore : ∀ u, trough < u → u < s → ¬ valueAt prices peak ≤ valueAt prices u) :
    drawdowns[s]? = some 0 ↔ valueAt prices peak ≤ valueAt prices s := by
  obtain ⟨p, hp, hMax, -⟩ := h.each s hHigh
  rw [h.zero_iff hPositive hp]
  by_cases hReach : valueAt prices peak ≤ valueAt prices s
  · -- up to the price before, the peak is still the maximum
    have hStill : IsLatestMax (valueAt prices) (s - 1) peak :=
      hPeak.extend (by omega) (fun u hu hus => not_le.1 (hBefore u hu (by omega)))
    have hHere : IsLatestMax (valueAt prices) s s := hStill.pred_of_le hReach
    exact ⟨fun _ => hReach, fun _ => hMax.unique hHere⟩
  · have hStill : IsLatestMax (valueAt prices) s peak := by
      apply hPeak.extend hLow.le
      intro u hu hus
      rcases Nat.lt_or_eq_of_le hus with hus | rfl
      · exact not_le.1 (hBefore u hu hus)
      · exact not_le.1 hReach
    refine ⟨fun hSame => ?_, fun hNot => absurd hNot hReach⟩
    have hEq : peak = s := hStill.unique (hSame ▸ hMax)
    exact absurd hPeak.le (by omega)

/-! ## The episode -/

/-- The trough, its peak and the recovery. -/
structure IsEpisode (prices drawdowns : List K) (peaks : List ℕ) (maximumDrawdown : K)
    (peak trough : ℕ) (recovery : Option ℕ) : Prop where
  deepest : IsEarliestMin (valueAt drawdowns) prices.length trough
  maximum : drawdowns[trough]? = some maximumDrawdown
  peakAt : peaks[trough]? = some peak
  isPeak : IsLatestMax (valueAt prices) trough peak
  recovers : recovery = recoveryOf prices (valueAt prices peak) peak trough

section

variable {maximumDrawdown : K} {peak trough : ℕ} {recovery : Option ℕ}

omit [IsStrictOrderedRing K] in
/-- The maximum drawdown is zero exactly where the trough is its own peak. -/
theorem IsEpisode.zero_iff (h : IsUnderwater prices prices.length drawdowns peaks)
    (hPositive : ∀ p ∈ prices, 0 < p)
    (hEpisode : IsEpisode prices drawdowns peaks maximumDrawdown peak trough recovery) :
    maximumDrawdown = 0 ↔ trough = peak := by
  have hZero := h.zero_iff hPositive hEpisode.peakAt
  rw [hEpisode.maximum, Option.some_inj] at hZero
  exact hZero.trans eq_comm

omit [IsStrictOrderedRing K] in
/-- The recovery is at once, or it is the first later price at or above the price of the peak. -/
theorem IsEpisode.isFirstBehind (hEpisode : IsEpisode prices drawdowns peaks maximumDrawdown peak
    trough recovery)
    (hApart : trough ≠ peak) :
    IsFirstBehind (fun s => valueAt prices peak ≤ valueAt prices s) trough prices.length
      recovery := by
  rw [hEpisode.recovers, recoveryOf, if_neg hApart]
  exact isFirstBehind_find? trough prices.length

omit [IsStrictOrderedRing K] in
/-- The recovery among the prices is the recovery among the drawdowns. -/
theorem IsEpisode.recovery_eq (h : IsUnderwater prices prices.length drawdowns peaks)
    (hPositive : ∀ p ∈ prices, 0 < p)
    (hEpisode : IsEpisode prices drawdowns peaks maximumDrawdown peak trough recovery)
    (hApart : trough ≠ peak) :
    recovery = (List.range' (trough + 1) (drawdowns.length - (trough + 1))).find?
      (fun index => decide (drawdowns[index]? = some 0)) := by
  have hZero : IsFirstBehind (fun s => drawdowns[s]? = some 0) trough prices.length recovery :=
    (hEpisode.isFirstBehind hApart).congr (fun s hLow hHigh hBefore =>
      h.recovery_iff hPositive hEpisode.isPeak hLow hHigh hBefore)
  rw [h.count]
  exact hZero.unique (isFirstBehind_find? trough prices.length)

/-! ### The validation of the episode -/

omit [IsStrictOrderedRing K] in
/-- The loop over running peaks that are peaks and never move back. -/
theorem foldlM_validatePeak {output : Output K} {rest : List ℕ} {k : ℕ} {previous : ℤ}
    (hEach : ∀ j p : ℕ, rest[j]? = some p → p ≤ k + j ∧
      (p = k + j ↔ output.drawdowns[k + j]? = some 0) ∧
      output.runningPeakIndices[p]? = some p)
    (hPrevious : ∀ p : ℕ, rest[0]? = some p → previous ≤ (p : ℤ))
    (hForward : ∀ j p q : ℕ, rest[j]? = some p → rest[j + 1]? = some q → p ≤ q) :
    ∃ last, (rest.zipIdx k).foldlM (validatePeak output) previous = .ok last := by
  induction rest generalizing k previous with
  | nil => exact ⟨previous, rfl⟩
  | cons p rest ih =>
      obtain ⟨hLe, hZero, hOwn⟩ := hEach 0 p List.getElem?_cons_zero
      rw [Nat.add_zero] at hLe hZero
      have hStep : validatePeak output previous (p, k) = .ok (p : ℤ) := by
        have hBack := not_lt.2 (hPrevious p List.getElem?_cons_zero)
        have hAgree : ¬ decide (p = k) ≠ decide (output.drawdowns[k]? = some 0) :=
          not_not.2 (decide_eq_decide.2 hZero)
        exact Except.bind_eq_ok.2 ⟨(), Except.raiseIf_eq_ok.2 (not_lt.2 hLe), Except.bind_eq_ok.2
          ⟨(), Except.raiseIf_eq_ok.2 hBack, Except.bind_eq_ok.2 ⟨(), Except.raiseIf_eq_ok.2 hAgree,
          Except.bind_eq_ok.2 ⟨(), Except.raiseIf_eq_ok.2 (not_not.2 hOwn), rfl⟩⟩⟩⟩
      rw [List.zipIdx_cons, List.foldlM_cons, hStep]
      apply ih
      · intro j q hq
        rw [Nat.add_right_comm, Nat.add_assoc]
        exact hEach (j + 1) q hq
      · exact fun q hq => Int.ofNat_le.2 (hForward 0 p q List.getElem?_cons_zero hq)
      · exact fun j q r hq hr => hForward (j + 1) q r hq hr

omit [IsStrictOrderedRing K] in
/-- The running peaks of a path are accepted. -/
theorem validatePeaks_eq_ok (h : IsUnderwater prices prices.length drawdowns peaks)
    (hPositive : ∀ p ∈ prices, 0 < p)
    {output : Output K} (hDrawdowns : output.drawdowns = drawdowns)
    (hPeaks : output.runningPeakIndices = peaks) :
    validatePeaks output = .ok () := by
  have hMax : ∀ i p, peaks[i]? = some p → IsLatestMax (valueAt prices) i p := by
    intro i p hp
    have hLess : i < prices.length := by
      rw [← h.peakCount]
      exact (List.getElem?_eq_some_iff.1 hp).1
    obtain ⟨q, hq, hIs, -⟩ := h.each i hLess
    rwa [← Option.some.inj (hq.symm.trans hp)]
  obtain ⟨last, hLoop⟩ : ∃ last, (output.runningPeakIndices.zipIdx 0).foldlM (validatePeak output)
    (-1) = .ok last :=
    foldlM_validatePeak (fun i p hp => by
      rw [hPeaks] at hp
      have hIs := hMax i p hp
      have hLess : i < prices.length := by
        rw [← h.peakCount]
        exact (List.getElem?_eq_some_iff.1 hp).1
      obtain ⟨q, hq, hOwn, -⟩ := h.each p (hIs.le.trans_lt hLess)
      rw [Nat.zero_add, hDrawdowns, hPeaks, h.zero_iff hPositive hp]
      exact ⟨hIs.le, Iff.rfl, by rw [hq, hOwn.unique hIs.self]⟩)
    (fun p _ => by omega)
    (fun i p q hp hq => by
      rw [hPeaks] at hp hq
      exact (hMax i p hp).mono (hMax (i + 1) q hq) (Nat.le_succ i))
  exact Except.bind_eq_ok.2 ⟨last, hLoop, rfl⟩

omit [IsStrictOrderedRing K] in
/-- The recovery index of an episode is in range, and behind a trough that is below its peak. -/
theorem validateRecovery_eq_ok (h : IsUnderwater prices prices.length drawdowns peaks)
    (hPositive : ∀ p ∈ prices, 0 < p)
    (hEpisode : IsEpisode prices drawdowns peaks maximumDrawdown peak trough recovery)
    {output : Output K} (hDrawdowns : output.drawdowns = drawdowns)
    (hMaximum : output.maximumDrawdown = maximumDrawdown)
    (hTrough : output.troughIndex = trough) (hRecovery : output.recoveryIndex = recovery) :
    validateRecovery output = .ok () := by
  unfold validateRecovery
  rw [hRecovery]
  cases hCase : recovery with
  | none => rfl
  | some r =>
      have hRange : r < drawdowns.length ∧ ¬ (maximumDrawdown < 0 ∧ r ≤ trough) := by
        rw [h.count]
        by_cases hApart : trough = peak
        · have hAt : recovery = some peak := by rw [hEpisode.recovers, recoveryOf, if_pos hApart]
          have hSame : r = trough := by rw [hApart, ← Option.some_inj, ← hAt, hCase]
          have hZero := (hEpisode.zero_iff h hPositive).2 hApart
          refine ⟨?_, fun hBoth => ?_⟩
          · rw [hSame]
            exact hEpisode.deepest.lt
          · rw [hZero] at hBoth
            exact absurd hBoth.1 (lt_irrefl 0)
        · have hFirst := hEpisode.isFirstBehind hApart
          rw [hCase] at hFirst
          exact ⟨hFirst.2.1, fun hBoth => absurd hFirst.1 (not_lt.2 hBoth.2)⟩
      rw [← hDrawdowns] at hRange
      dsimp only
      rw [andThen_eq_ok, Except.raiseIf_eq_ok, Except.raiseIf_eq_ok, hMaximum, hTrough, not_le]
      exact hRange

omit [Field K] [IsStrictOrderedRing K] in
/-- The earliest minimum is the one that the calculation takes. -/
theorem earliestMinimum_eq {deepest : K} (hDeepest : smallest drawdowns = .ok deepest) :
    earliestMinimum drawdowns = some (drawdowns.idxOf deepest) := by
  unfold earliestMinimum
  rw [hDeepest]

omit [IsStrictOrderedRing K] in
/-- An episode is accepted. -/
theorem validateEpisode_eq_ok (h : IsUnderwater prices prices.length drawdowns peaks)
    (hPositive : ∀ p ∈ prices, 0 < p)
    (hEpisode : IsEpisode prices drawdowns peaks maximumDrawdown peak trough recovery)
    {output : Output K}
    (hDrawdowns : output.drawdowns = drawdowns) (hPeaks : output.runningPeakIndices = peaks)
    (hMaximum : output.maximumDrawdown = maximumDrawdown) (hPeak : output.peakIndex = peak)
    (hTrough : output.troughIndex = trough) (hRecovery : output.recoveryIndex = recovery)
    (hRecovered : output.recovered = recovery.isSome)
    (hEarliest : earliestMinimum drawdowns = some trough) :
    validateEpisode output = .ok () := by
  have hOrdered : ¬ ¬ (peak ≤ trough ∧ trough < drawdowns.length) := by
    rw [h.count]
    exact not_not.2 ⟨hEpisode.isPeak.le, hEpisode.deepest.lt⟩
  have hAtOnce : ¬ (maximumDrawdown = 0 ∧ recovery ≠ some trough) := by
    rintro ⟨hZero, hOther⟩
    have hSame := (hEpisode.zero_iff h hPositive).1 hZero
    exact hOther (by rw [hEpisode.recovers, recoveryOf, if_pos hSame, hSame])
  have hFirst : ¬ (maximumDrawdown < 0 ∧ recovery ≠ firstRecovery output) := by
    rintro ⟨hNegative, hOther⟩
    have hApart : trough ≠ peak :=
      fun hSame => hNegative.ne ((hEpisode.zero_iff h hPositive).2 hSame)
    apply hOther
    rw [firstRecovery, hDrawdowns, hTrough]
    exact hEpisode.recovery_eq h hPositive hApart
  have hRange := validateRecovery_eq_ok h hPositive hEpisode hDrawdowns hMaximum hTrough hRecovery
  unfold validateEpisode
  rw [hDrawdowns, hPeaks, hMaximum, hPeak, hTrough, hRecovery, hRecovered]
  exact andThen_eq_ok.2 ⟨Except.raiseIf_eq_ok.2 hOrdered,
    andThen_eq_ok.2 ⟨Except.raiseIf_eq_ok.2 (not_not.2 hEpisode.peakAt),
    andThen_eq_ok.2 ⟨Except.raiseIf_eq_ok.2 (not_not.2 rfl),
    andThen_eq_ok.2 ⟨hRange, andThen_eq_ok.2 ⟨Except.raiseIf_eq_ok.2 hAtOnce,
    andThen_eq_ok.2 ⟨Except.raiseIf_eq_ok.2 (not_not.2 hEpisode.maximum),
    andThen_eq_ok.2 ⟨Except.raiseIf_eq_ok.2 (not_not.2 hEarliest),
    Except.raiseIf_eq_ok.2 hFirst⟩⟩⟩⟩⟩⟩⟩

end

end

end

end Drawdown
