import Mathlib.Algebra.BigOperators.Group.List.Basic
import Mathlib.Algebra.BigOperators.Ring.List
import Mathlib.Algebra.CharZero.Defs
import Mathlib.Algebra.Field.Basic
import Mathlib.Algebra.Order.Ring.Defs
import Mathlib.Tactic.FieldSimp
import Mathlib.Tactic.Ring

/-!
# Sums of squared deviations

The mean of a list and the sum of the squared deviations from it, over any field of characteristic
zero. Centering and scaling the list moves the mean along and scales the squared deviations, so the
deviations may be computed on centered and scaled values.
-/

namespace SampleDeviation

variable {K : Type*} [Field K]

/-- The arithmetic mean. -/
def mean (xs : List K) : K := xs.sum / xs.length

/-- The sum of the squared deviations from the mean. -/
def squaredDeviations (xs : List K) : K := (xs.map (fun x => (x - mean xs) ^ 2)).sum

theorem sum_map_affine (a c : K) (xs : List K) :
    (xs.map (fun x => (x - a) / c)).sum = (xs.sum - xs.length * a) / c := by
  induction xs with
  | nil => simp
  | cons x xs ih =>
      rw [List.map_cons, List.sum_cons, ih, List.sum_cons, List.length_cons]
      push_cast
      ring

theorem mean_affine [CharZero K] (a c : K) {xs : List K} (h : xs ≠ []) :
    mean (xs.map (fun x => (x - a) / c)) = (mean xs - a) / c := by
  have hLength : (xs.length : K) ≠ 0 := Nat.cast_ne_zero.2 (mt List.length_eq_zero_iff.1 h)
  unfold mean
  rw [sum_map_affine, List.length_map, div_right_comm, sub_div, mul_div_cancel_left₀ a hLength]

theorem squaredDeviations_affine [CharZero K] (a c : K) (xs : List K) :
    squaredDeviations (xs.map (fun x => (x - a) / c)) = squaredDeviations xs / c ^ 2 := by
  by_cases h : xs = []
  · simp [h, squaredDeviations]
  · unfold squaredDeviations
    rw [mean_affine a c h, List.map_map, div_eq_mul_inv _ (c ^ 2), ← List.sum_map_mul_right]
    refine congrArg List.sum (List.map_congr_left (fun x _ => ?_))
    show ((x - a) / c - (mean xs - a) / c) ^ 2 = _
    rw [← sub_div, sub_sub_sub_cancel_right, div_pow, div_eq_mul_inv]

/-- Equal values do not deviate. -/
theorem squaredDeviations_eq_zero [CharZero K] {xs : List K} {a : K} (h : ∀ x ∈ xs, x = a) :
    squaredDeviations xs = 0 := by
  rw [List.eq_replicate_of_mem h]
  by_cases hLength : xs.length = 0
  · simp [hLength, squaredDeviations]
  · have hMean : mean (List.replicate xs.length a) = a := by
      unfold mean
      rw [List.sum_replicate, List.length_replicate, nsmul_eq_mul,
        mul_div_cancel_left₀ a (Nat.cast_ne_zero.2 hLength)]
    unfold squaredDeviations
    rw [hMean]
    simp

/-- Values that do not deviate are all the mean. -/
theorem eq_mean_of_squaredDeviations_eq_zero [LinearOrder K] [IsStrictOrderedRing K] {xs : List K}
    (h : squaredDeviations xs = 0) : ∀ x ∈ xs, x = mean xs := by
  have hEach : ∀ ys : List K, 0 ≤ (ys.map (fun y => (y - mean xs) ^ 2)).sum ∧
      ((ys.map (fun y => (y - mean xs) ^ 2)).sum = 0 → ∀ y ∈ ys, y = mean xs) := by
    intro ys
    induction ys with
    | nil => exact ⟨le_rfl, fun _ y hy => absurd hy List.not_mem_nil⟩
    | cons y ys ih =>
        rw [List.map_cons, List.sum_cons]
        refine ⟨add_nonneg (sq_nonneg _) ih.1, fun hSum => ?_⟩
        obtain ⟨hHead, hTail⟩ := (add_eq_zero_iff_of_nonneg (sq_nonneg _) ih.1).1 hSum
        exact List.forall_mem_cons.2 ⟨sub_eq_zero.1 (pow_eq_zero_iff two_ne_zero |>.1 hHead),
          ih.2 hTail⟩
  exact (hEach xs).2 h

end SampleDeviation
