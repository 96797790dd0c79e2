import DefinedQuant.Categories.LogReturn
import DefinedQuant.Categories.MonthlyReturnMatrix
import DefinedQuant.Categories.RebasedPriceIndex

/-!
# The components on price series never fail late

Log returns, monthly returns and rebased indexes, over the numbers of any ordered field: every input
passes the evaluation of the rules, and what the blocking rules leave is calculated or refused in
the declared way.
-/

namespace PriceSeries

open Calculation

section

variable {K : Type} [Field K] [LinearOrder K] [IsStrictOrderedRing K]

/-- None of the three components fails late, whatever its inputs are. -/
theorem price_components_never_fail_late (stdev : List Binary64 → Except Text Binary64)
    (floats : Floats K)
    (logs : LogReturn.Logarithms K) (series : Inputs Binary64) (matrix : MonthlyReturnMatrix.Inputs)
    (index : RebasedPriceIndex.Inputs) :
    NeverFailsLate (Validation.evaluateConstraints stdev LogReturn.guidance
      (LogReturn.modelDump series))
        LogReturn.nonFiniteResult (fun output => ∃ prices, LogReturn.Returns logs series prices
          output)
        (LogReturn.logReturn floats logs stdev series) ∧
      NeverFailsLate
        (Validation.evaluateConstraints stdev MonthlyReturnMatrix.guidance
          (MonthlyReturnMatrix.modelDump matrix))
        MonthlyReturnMatrix.nonFiniteResult
        (fun output => ∃ prices : List K, MonthlyReturnMatrix.Returns matrix prices output)
        (MonthlyReturnMatrix.monthlyReturnMatrix floats stdev matrix) ∧
      NeverFailsLate (Validation.evaluateConstraints stdev RebasedPriceIndex.guidance
        (RebasedPriceIndex.modelDump index))
        RebasedPriceIndex.nonFiniteResult
        (fun output => ∃ prices : List K, RebasedPriceIndex.Rebases index prices output)
        (RebasedPriceIndex.rebasedPriceIndex floats stdev index) := by
  refine ⟨LogReturn.never_fails_late stdev floats logs series, ?_, ?_⟩
  · exact MonthlyReturnMatrix.never_fails_late stdev floats matrix
  · exact RebasedPriceIndex.never_fails_late stdev floats index

end

/-! ## Two prices -/

/-- The rationals as doubles, with the format of the integers that are shown in full. -/
def sampleFloats : Floats ℚ where
  isFinite := fun q => decide (|q| < 2 ^ 1024)
  sixDigits := fun q => if 0 ≤ q.num ∧ q.num < 10 ^ 6 then digits q.num.toNat else []
  sixDigits_encodable := fun q => by
    split_ifs with h
    · exact (sized_digits (n := q.num.toNat) (by unfold maxsize; omega)).encodable
    · exact nofun
  sixDigits_length := fun q => by
    split_ifs with h
    · rw [digits, Json.digitsText, List.length_map]
      exact (FixedDigits.length_natDigits_le (by decide) (by omega : q.num.toNat < 10 ^ 6)).trans
        (by decide)
    · exact Nat.zero_le _

/-- The logarithm of one. -/
def sampleLogs : LogReturn.Logarithms ℚ where
  log := fun q => q - 1
  log1p := fun q => q

def sampleSeries : Inputs Binary64 where
  prices := [Binary64.ofInt 100, Binary64.ofInt 100]
  priceKind := .adjusted
  timestamps := none
  declaredFrequency := none
  prices_nonempty := List.cons_ne_nil _ _
  length_le := by show 2 ≤ 2 ^ 63 - 1; decide

def sampleMatrix : MonthlyReturnMatrix.Inputs where
  prices := [Binary64.ofInt 100, Binary64.ofInt 110]
  months := [py "2025-12", py "2026-01"]
  priceKind := .adjusted
  observationKind := py "completed_month_end"
  prices_nonempty := List.cons_ne_nil _ _
  months_nonempty := List.cons_ne_nil _ _
  length_le := by show 2 ≤ 2 ^ 63 - 1; decide

def sampleIndex : RebasedPriceIndex.Inputs where
  prices := [Binary64.ofInt 100, Binary64.ofInt 110]
  priceKind := .adjusted
  timestamps := none
  declaredFrequency := none
  prices_nonempty := List.cons_ne_nil _ _
  length_le := by show 2 ≤ 2 ^ 63 - 1; decide
  baseIndex := 0
  baseValue := Binary64.ofInt 100

/-- All three components give an output. -/
theorem price_components_never_fail_late_sample :
    (∃ output, LogReturn.logReturn sampleFloats sampleLogs (fun _ => .ok Binary64.zero)
      sampleSeries = .ok output ∧
        ∃ prices, LogReturn.Returns sampleLogs sampleSeries prices output) ∧
      (∃ output : MonthlyReturnMatrix.Output ℚ,
        MonthlyReturnMatrix.monthlyReturnMatrix sampleFloats (fun _ => .ok Binary64.zero)
        sampleMatrix = .ok output ∧
          ∃ prices : List ℚ, MonthlyReturnMatrix.Returns sampleMatrix prices output) ∧
      ∃ output : RebasedPriceIndex.Output ℚ,
        RebasedPriceIndex.rebasedPriceIndex sampleFloats (fun _ => .ok Binary64.zero) sampleIndex =
        .ok output ∧
          ∃ prices : List ℚ, RebasedPriceIndex.Rebases sampleIndex prices output := by
  obtain ⟨hLog, hMatrix, hIndex⟩ := price_components_never_fail_late (fun _ => .ok Binary64.zero)
    sampleFloats
    sampleLogs sampleSeries sampleMatrix sampleIndex
  have hSeriesRules : ∀ v ∈ violationsOf LogReturn.constraints (LogReturn.outcomes sampleSeries),
      v.severity ≠ .blocking := by decide +kernel
  have hMatrixRules : ∀ v ∈ violationsOf MonthlyReturnMatrix.constraints
    (MonthlyReturnMatrix.outcomes sampleMatrix),
      v.severity ≠ .blocking := by decide +kernel
  have hIndexRules : ∀ v ∈ violationsOf RebasedPriceIndex.constraints
    (RebasedPriceIndex.outcomes sampleIndex),
      v.severity ≠ .blocking := by decide +kernel
  rw [LogReturn.guidance,
    evaluateConstraints_guidanceOf (LogReturn.outcomes_of_constraints sampleSeries)] at hLog
  rw [MonthlyReturnMatrix.guidance,
    evaluateConstraints_guidanceOf (MonthlyReturnMatrix.outcomes_of_constraints sampleMatrix)]
    at hMatrix
  rw [RebasedPriceIndex.guidance,
    evaluateConstraints_guidanceOf (RebasedPriceIndex.outcomes_of_constraints sampleIndex)]
    at hIndex
  refine ⟨hLog.exists_output hSeriesRules ?_, hMatrix.exists_output hMatrixRules ?_,
    hIndex.exists_output hIndexRules ?_⟩
  · rw [LogReturn.logReturn_eq hSeriesRules]
    decide +kernel
  · rw [MonthlyReturnMatrix.monthlyReturnMatrix_eq hMatrixRules]
    decide +kernel
  · rw [RebasedPriceIndex.rebasedPriceIndex_eq hIndexRules]
    decide +kernel

end PriceSeries
