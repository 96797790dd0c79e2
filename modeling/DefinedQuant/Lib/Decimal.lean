import DefinedQuant.Lib.Binary64
import Mathlib.Data.List.TakeWhile
import Mathlib.Data.Nat.Digits.Lemmas

/-!
# Decimal forms of doubles

A decimal is a whole number times a power of ten. `Binary64.ofDecimal` is the correctly rounded
double of a decimal, and `shortest` the decimal that Python's `repr` prints: the fewest significant
digits that round back to the double and, among those, the nearest. Seventeen digits always do; the
exact expansion stands behind the search so that the result is right without an appeal to that.

Digit lists are most significant digit first.
-/

/-- `digits * 10 ^ exponent`. -/
structure Decimal where
  digits : ℕ
  exponent : ℤ
  deriving DecidableEq

namespace Decimal

/-- The numerator of the decimal as a fraction. -/
def num (x : Decimal) : ℕ := x.digits * 10 ^ x.exponent.toNat

/-- The denominator of the decimal as a fraction. -/
def den (x : Decimal) : ℕ := 10 ^ (-x.exponent).toNat

/-- The value of the decimal. -/
def toRat (x : Decimal) : ℚ := x.digits * (10 : ℚ) ^ x.exponent

/-- The magnitude nearest to the decimal. -/
def round (x : Decimal) : ℕ := Binary64.roundFrac x.num x.den

theorem den_pos (x : Decimal) : 0 < x.den := Nat.pow_pos (by norm_num)

theorem toRat_eq_div (x : Decimal) : x.toRat = (x.num : ℚ) / x.den := by
  unfold toRat num den
  rcases le_total 0 x.exponent with h | h
  · have hExp : ((x.exponent.toNat : ℕ) : ℤ) = x.exponent := Int.toNat_of_nonneg h
    have hZero : (-x.exponent).toNat = 0 := Int.toNat_eq_zero.2 (by omega)
    rw [hZero, pow_zero, Nat.cast_one, div_one, Nat.cast_mul, Nat.cast_pow, Nat.cast_ofNat,
      ← zpow_natCast, hExp]
  · have hExp : (((-x.exponent).toNat : ℕ) : ℤ) = -x.exponent := Int.toNat_of_nonneg (by omega)
    have hZero : x.exponent.toNat = 0 := Int.toNat_eq_zero.2 h
    rw [hZero, pow_zero, mul_one, Nat.cast_pow, Nat.cast_ofNat, ← zpow_natCast, hExp, zpow_neg,
      div_inv_eq_mul]

/-- Decimals of one value round alike. -/
theorem round_congr {x y : Decimal} (h : x.toRat = y.toRat) : x.round = y.round := by
  refine Binary64.roundFrac_congr x.den_pos y.den_pos ?_
  rw [toRat_eq_div, toRat_eq_div, div_eq_div_iff (Nat.cast_ne_zero.2 x.den_pos.ne')
    (Nat.cast_ne_zero.2 y.den_pos.ne')] at h
  exact_mod_cast h

theorem round_zero (p : ℤ) : (⟨0, p⟩ : Decimal).round = 0 := by
  refine Binary64.roundFrac_exact (den_pos _) ?_
  simp [num]

/-! ## Digit lists -/

/-- The number a digit list spells, most significant digit first. -/
def ofDigitList (ds : List ℕ) : ℕ := Nat.ofDigits 10 ds.reverse

@[simp] theorem ofDigitList_nil : ofDigitList [] = 0 := rfl

theorem ofDigitList_append (ds es : List ℕ) :
    ofDigitList (ds ++ es) = ofDigitList ds * 10 ^ es.length + ofDigitList es := by
  unfold ofDigitList
  rw [List.reverse_append, Nat.ofDigits_append, List.length_reverse]
  ring

@[simp] theorem ofDigitList_replicate_zero (n : ℕ) : ofDigitList (List.replicate n 0) = 0 := by
  simp [ofDigitList, Nat.ofDigits_replicate_zero]

/-- The decimal digits of a number, none for zero. -/
def digitList (n : ℕ) : List ℕ := (Nat.digits 10 n).reverse

@[simp] theorem ofDigitList_digitList (n : ℕ) : ofDigitList (digitList n) = n := by
  simp [ofDigitList, digitList, Nat.ofDigits_digits]

theorem digitList_lt {n d : ℕ} (h : d ∈ digitList n) : d < 10 := by
  rw [digitList, List.mem_reverse] at h
  exact Nat.digits_lt_base (by norm_num) h

/-- A positive number's digits start with a nonzero one. -/
theorem digitList_head {n : ℕ} (hn : n ≠ 0) : ∃ d ds, digitList n = d :: ds ∧ d ≠ 0 := by
  have hNe : Nat.digits 10 n ≠ [] := Nat.digits_ne_nil_iff_ne_zero.2 hn
  refine ⟨(Nat.digits 10 n).getLast hNe, (Nat.digits 10 n).dropLast.reverse, ?_,
    Nat.getLast_digit_ne_zero 10 hn⟩
  rw [digitList]
  conv_lhs => rw [← List.dropLast_append_getLast hNe]
  rw [List.reverse_append]
  rfl

/-- The digits without trailing zeros. -/
def stripZeros (ds : List ℕ) : List ℕ := (ds.reverse.dropWhile (· == 0)).reverse

/-- What was stripped is a run of zeros. -/
theorem stripZeros_append (ds : List ℕ) : ∃ k, ds = stripZeros ds ++ List.replicate k 0 := by
  refine ⟨(ds.reverse.takeWhile (· == 0)).length, ?_⟩
  have hZeros : ds.reverse.takeWhile (· == 0)
      = List.replicate (ds.reverse.takeWhile (· == 0)).length 0 := by
    refine List.eq_replicate_of_mem (fun d hd => ?_)
    simpa using List.mem_takeWhile_imp hd
  have hSplit := List.takeWhile_append_dropWhile (p := (· == 0)) (l := ds.reverse)
  calc ds = (ds.reverse).reverse := (List.reverse_reverse ds).symm
    _ = (ds.reverse.takeWhile (· == 0) ++ ds.reverse.dropWhile (· == 0)).reverse := by rw [hSplit]
    _ = stripZeros ds ++ (ds.reverse.takeWhile (· == 0)).reverse := List.reverse_append
    _ = _ := by rw [hZeros]; simp

/-! ## The shortest decimal of a magnitude -/

/-- The decimal exponent of the leading digit of a positive magnitude's value. Every positive double
is at least `10^-400`, so scaling by `10^400` leaves a whole part with all leading digits. -/
def leadingExponent (m : ℕ) : ℤ :=
  ((digitList (Binary64.scaled m * 10 ^ 400 / Binary64.unitsPerOne)).length : ℤ) - 401

/-- The two decimals of `n` significant digits next to a magnitude's value, the nearer one first. -/
def candidates (m n : ℕ) : List Decimal :=
  let p := leadingExponent m - (n - 1 : ℤ)
  let num := Binary64.scaled m * 10 ^ (-p).toNat
  let den := Binary64.unitsPerOne * 10 ^ p.toNat
  let below : Decimal := ⟨num / den, p⟩
  let above : Decimal := ⟨num / den + 1, p⟩
  if 2 * (num % den) < den ∨ (2 * (num % den) = den ∧ num / den % 2 = 0) then [below, above]
  else [above, below]

/-- The exact decimal expansion of a magnitude's value. -/
def exact (m : ℕ) : Decimal := 
  ⟨Binary64.scaled m * 5 ^ Binary64.unitExponent, -(Binary64.unitExponent : ℤ)⟩

/-- The decimal that `repr` prints for a positive magnitude. -/
def shortest (m : ℕ) : Decimal :=
  (((List.range' 1 17).flatMap (candidates m)).find? (fun c => c.round == m)).getD (exact m)

theorem exact_round (m : ℕ) : (exact m).round = m := by
  refine Binary64.roundFrac_exact (den_pos _) ?_
  have hNum : (exact m).num = Binary64.scaled m * 5 ^ Binary64.unitExponent := by
    have hExp : (-(Binary64.unitExponent : ℤ)).toNat = 0 := by omega
    rw [num, exact, hExp, pow_zero, mul_one]
  have hDen : (exact m).den = 5 ^ Binary64.unitExponent * Binary64.unitsPerOne := by
    rw [den, exact, neg_neg, Int.toNat_natCast, Binary64.unitsPerOne, ← Nat.mul_pow]
  rw [hNum, hDen, Nat.mul_assoc]

/-- The printed decimal rounds back to the magnitude. -/
theorem shortest_round (m : ℕ) : (shortest m).round = m := by
  rw [shortest]
  -- The candidates are not to be computed here.
  generalize (List.range' 1 17).flatMap (candidates m) = cs
  cases h : cs.find? (fun c => c.round == m) with
  | none => exact exact_round m
  | some c =>
      have hTest := List.find?_some h
      exact beq_iff_eq.1 hTest

/-- A decimal that rounds to a nonzero magnitude has a nonzero digit. -/
theorem digits_ne_zero_of_round {x : Decimal} (h : x.round ≠ 0) : x.digits ≠ 0 := by
  obtain ⟨d, p⟩ := x
  rintro rfl
  exact h (round_zero p)

theorem shortest_digits_ne_zero {m : ℕ} (hm : m ≠ 0) : (shortest m).digits ≠ 0 := by
  refine digits_ne_zero_of_round ?_
  rw [shortest_round]
  exact hm

end Decimal

namespace Binary64

/-- `float` of a decimal literal. -/
def ofDecimal (negative : Bool) (x : Decimal) : Binary64 := ofFrac negative x.num x.den

/-- A decimal that rounds to a finite magnitude is read as that double. -/
theorem ofDecimal_eq {negative : Bool} {m : Fin (2047 * 2 ^ 52)} {x : Decimal}
    (h : x.round = m.val) : ofDecimal negative x = .finite negative m := by
  have hRound : roundFrac x.num x.den = m.val := h
  unfold ofDecimal ofFrac
  simp only [hRound, m.isLt, dif_pos]

end Binary64
