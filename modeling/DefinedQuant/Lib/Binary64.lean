import DefinedQuant.Lib.Hex
import Mathlib.Algebra.Order.Field.Basic
import Mathlib.Algebra.Order.Ring.Rat
import Mathlib.Data.Nat.Log
import Mathlib.Order.Monotone.Basic
import Mathlib.Tactic.Linarith
import Mathlib.Tactic.NormNum
import Mathlib.Tactic.Ring

/-!
# Binary64 numbers

An IEEE-754 double is a sign and a 63-bit magnitude, whose upper eleven bits are the biased exponent
and whose lower 52 bits are the fraction. Finite magnitudes lie below `2047 * 2^52`, and every
finite double is a whole multiple of `2^-1074`; `scaled` is that multiple. It is strictly increasing
in the magnitude, so a finite magnitude and a value determine each other.

`roundFrac` rounds a nonnegative fraction to the nearest magnitude, ties to even. It depends only on
the value of the fraction and fixes the value of every double, which is all that conversion of
integers and reading of decimals need.
-/

/-- An IEEE-754 binary64 value, up to the payload of a NaN. -/
inductive Binary64 where
  | nan
  | inf (negative : Bool)
  | finite (negative : Bool) (magnitude : Fin (2047 * 2 ^ 52))
  deriving DecidableEq

namespace Binary64

/-! ## Magnitudes -/

/-- The smallest positive double is `2 ^ -unitExponent`. -/
def unitExponent : ℕ := 1074

/-- How many units `2^-1074` make one. -/
def unitsPerOne : ℕ := 2 ^ unitExponent

theorem unitsPerOne_pos : 0 < unitsPerOne :=
  Nat.pos_of_ne_zero (pow_ne_zero _ two_ne_zero)

/-- The value of a magnitude in units of `2^-1074`. -/
def scaled (m : ℕ) : ℕ :=
  if m < 2 ^ 52 then m else (2 ^ 52 + m % 2 ^ 52) * 2 ^ (m / 2 ^ 52 - 1)

theorem scaled_subnormal {m : ℕ} (h : m < 2 ^ 52) : scaled m = m := if_pos h

/-- A normal magnitude by its shift `s` and its 53-bit significand `k`. -/
theorem scaled_normal {s k : ℕ} (hLow : 2 ^ 52 ≤ k) (hHigh : k < 2 ^ 53) :
    scaled (s * 2 ^ 52 + k) = k * 2 ^ s := by
  have hDiv : (s * 2 ^ 52 + k) / 2 ^ 52 - 1 = s := by omega
  have hMod : 2 ^ 52 + (s * 2 ^ 52 + k) % 2 ^ 52 = k := by omega
  unfold scaled
  rw [if_neg (by omega), hDiv, hMod]

/-- Every magnitude is subnormal or normal. -/
theorem magnitude_cases (m : ℕ) : m < 2 ^ 52 ∨
    ∃ s k, 2 ^ 52 ≤ k ∧ k < 2 ^ 53 ∧ m = s * 2 ^ 52 + k := by
  by_cases h : m < 2 ^ 52
  · exact Or.inl h
  · exact Or.inr ⟨m / 2 ^ 52 - 1, 2 ^ 52 + m % 2 ^ 52, by omega, by omega, by omega⟩

theorem scaled_lt_succ (m : ℕ) : scaled m < scaled (m + 1) := by
  rcases magnitude_cases m with h | ⟨s, k, hLow, hHigh, rfl⟩
  · rw [scaled_subnormal h]
    rcases Nat.lt_or_ge (m + 1) (2 ^ 52) with h' | h'
    · rw [scaled_subnormal h']; omega
    · have hEq : m + 1 = 0 * 2 ^ 52 + 2 ^ 52 := by omega
      rw [hEq, scaled_normal le_rfl (by norm_num)]
      omega
  · rw [scaled_normal hLow hHigh]
    have hPos : 0 < 2 ^ s := Nat.two_pow_pos s
    rcases Nat.lt_or_ge (k + 1) (2 ^ 53) with h' | h'
    · rw [Nat.add_assoc, scaled_normal (by omega) h']
      exact Nat.mul_lt_mul_of_pos_right (Nat.lt_succ_self k) hPos
    · have hEq : s * 2 ^ 52 + k + 1 = (s + 1) * 2 ^ 52 + 2 ^ 52 := by omega
      have hTwo : 2 ^ 52 * 2 ^ (s + 1) = 2 ^ 53 * 2 ^ s := by ring
      rw [hEq, scaled_normal le_rfl (by norm_num), hTwo]
      exact Nat.mul_lt_mul_of_pos_right hHigh hPos

/-- Values grow strictly with magnitudes. -/
theorem scaled_strictMono : StrictMono scaled := strictMono_nat_of_lt_succ scaled_lt_succ

theorem scaled_injective : Function.Injective scaled := scaled_strictMono.injective

@[simp] theorem scaled_zero : scaled 0 = 0 := rfl

@[simp] theorem scaled_eq_zero {m : ℕ} : scaled m = 0 ↔ m = 0 :=
  scaled_injective.eq_iff' scaled_zero

/-! ## Rounding -/

/-- The whole number nearest to `num / den`, ties to even. -/
def roundHalfEven (num den : ℕ) : ℕ :=
  if 2 * (num % den) < den ∨ (2 * (num % den) = den ∧ num / den % 2 = 0) then num / den
  else num / den + 1

theorem roundHalfEven_mul {den : ℕ} (hDen : 0 < den) (k : ℕ) : roundHalfEven (k * den) den = k := by
  unfold roundHalfEven
  rw [Nat.mul_mod_left, Nat.mul_div_cancel k hDen, if_pos (Or.inl (by omega))]

theorem roundHalfEven_scale {c : ℕ} (hc : 0 < c) (num den : ℕ) :
    roundHalfEven (num * c) (den * c) = roundHalfEven num den := by
  unfold roundHalfEven
  simp only [Nat.mul_div_mul_right _ _ hc, Nat.mul_mod_mul_right, ← Nat.mul_assoc,
    Nat.mul_lt_mul_right hc, Nat.mul_left_inj hc.ne']

/-- The magnitude nearest to the fraction `num / den`, ties to even. The shift makes the kept
significand at most 53 bits wide; a carry out of it moves to the next exponent by itself. -/
def roundFrac (num den : ℕ) : ℕ :=
  let units := num * unitsPerOne
  let shift := (units / den).log2 - 52
  shift * 2 ^ 52 + roundHalfEven units (den * 2 ^ shift)

/-- Rounding depends on the value of the fraction only. -/
theorem roundFrac_scale {c : ℕ} (hc : 0 < c) (num den : ℕ) :
    roundFrac (num * c) (den * c) = roundFrac num den := by
  have hUnits : num * c * unitsPerOne = num * unitsPerOne * c := Nat.mul_right_comm _ _ _
  have hDen : ∀ s, den * c * 2 ^ s = den * 2 ^ s * c := fun s => Nat.mul_right_comm _ _ _
  unfold roundFrac
  simp only [hUnits, hDen, Nat.mul_div_mul_right _ _ hc, roundHalfEven_scale hc]

/-- Two spellings of one fraction round alike. -/
theorem roundFrac_congr {a b c d : ℕ} (hb : 0 < b) (hd : 0 < d) (h : a * d = c * b) :
    roundFrac a b = roundFrac c d := by
  rw [← roundFrac_scale hd a b, h, Nat.mul_comm b d, roundFrac_scale hb c d]

/-- A fraction that is the value of a double rounds to that double. -/
theorem roundFrac_exact {num den m : ℕ} (hDen : 0 < den) (h : num * unitsPerOne = scaled m * den) :
    roundFrac num den = m := by
  have hQuot : num * unitsPerOne / den = scaled m := by rw [h, Nat.mul_div_cancel _ hDen]
  unfold roundFrac
  simp only [hQuot]
  rw [h]
  rcases magnitude_cases m with hm | ⟨s, k, hLow, hHigh, rfl⟩
  · have hLog : m.log2 - 52 = 0 := by
      rcases Nat.eq_zero_or_pos m with rfl | hPos
      · simp
      · have := (Nat.log2_lt (by omega)).2 hm
        omega
    rw [scaled_subnormal hm, hLog, pow_zero, mul_one, roundHalfEven_mul hDen]
    omega
  · have hkLog : k.log2 = 52 := (Nat.log2_eq_iff (by omega)).2 ⟨hLow, hHigh⟩
    have hLog : (k * 2 ^ s).log2 - 52 = s := by
      have hPos : 0 < 2 ^ s := Nat.two_pow_pos s
      have hEq : (k * 2 ^ s).log2 = 52 + s := by
        refine (Nat.log2_eq_iff (Nat.mul_pos (by omega) hPos).ne').2 ⟨?_, ?_⟩
        · rw [pow_add]
          exact Nat.mul_le_mul_right _ hLow
        · rw [Nat.add_right_comm, pow_add]
          exact Nat.mul_lt_mul_of_pos_right hHigh hPos
      omega
    rw [scaled_normal hLow hHigh, hLog]
    have hRearrange : k * 2 ^ s * den = k * (den * 2 ^ s) := by
      rw [Nat.mul_assoc, Nat.mul_comm (2 ^ s) den]
    rw [hRearrange, roundHalfEven_mul (Nat.mul_pos hDen (Nat.two_pow_pos s))]

/-! ## Values -/

/-- The double nearest to `±num / den`; a magnitude past the largest finite one is infinite. -/
def ofFrac (negative : Bool) (num den : ℕ) : Binary64 :=
  if h : roundFrac num den < 2047 * 2 ^ 52 then .finite negative ⟨roundFrac num den, h⟩
  else .inf negative

/-- `float(n)` for an integer within the finite range. -/
def ofInt (n : ℤ) : Binary64 := ofFrac (decide (n < 0)) n.natAbs 1

/-- `math.isfinite(x)`. -/
def isFinite : Binary64 → Bool
  | .finite _ _ => true
  | _ => false

/-- The exact value of a finite double. -/
def toRat? : Binary64 → Option ℚ
  | .finite negative m =>
      some ((if negative then -1 else 1) * ((scaled m : ℚ) / unitsPerOne))
  | _ => none

/-- A finite double is a number. -/
theorem exists_toRat?_of_isFinite {x : Binary64} (h : x.isFinite = true) :
    ∃ q, x.toRat? = some q := by
  cases x with
  | nan => cases h
  | inf negative => cases h
  | finite negative m => exact ⟨_, rfl⟩

/-- `x.is_integer()` for a finite double. -/
def isInteger : Binary64 → Bool
  | .finite _ m => scaled m % unitsPerOne == 0
  | _ => false

/-- `abs(x) > bound` for a whole bound. -/
def absExceeds : Binary64 → ℕ → Bool
  | .finite _ m, bound => decide (bound * unitsPerOne < scaled m)
  | .inf _, _ => true
  | .nan, _ => false

/-- `x == 0.0`. -/
def isZero : Binary64 → Bool
  | .finite _ m => m.val == 0
  | _ => false

/-- `0.0`. -/
def zero : Binary64 := .finite false ⟨0, by norm_num⟩

/-- The 64-bit pattern; a NaN is the quiet one that Python computes with. -/
def bits : Binary64 → ℕ
  | .finite negative m => (if negative then 2 ^ 63 else 0) + m.val
  | .inf negative => (if negative then 2 ^ 63 else 0) + 2047 * 2 ^ 52
  | .nan => 2047 * 2 ^ 52 + 2 ^ 51

/-- `struct.pack(">d", x)`. -/
def pack (x : Binary64) : Bytes := bigEndian 8 (bits x)

theorem bits_lt (x : Binary64) : bits x < 256 ^ 8 := by
  cases x with
  | nan => simp only [bits]; norm_num
  | inf negative => cases negative <;> simp only [bits] <;> norm_num
  | finite negative m =>
      have hm := m.isLt
      cases negative <;> simp [bits] <;> omega

theorem bits_injective : Function.Injective bits := by
  intro x y h
  cases x with
  | nan =>
      cases y with
      | nan => rfl
      | inf b => cases b <;> simp [bits] at h
      | finite b n => have hn := n.isLt; cases b <;> simp [bits] at h <;> omega
  | inf a =>
      cases y with
      | nan => cases a <;> simp [bits] at h
      | inf b => cases a <;> cases b <;> simp_all [bits]
      | finite b n => have hn := n.isLt; cases a <;> cases b <;> simp [bits] at h <;> omega
  | finite a m =>
      have hm := m.isLt
      cases y with
      | nan => cases a <;> simp [bits] at h <;> omega
      | inf b => cases a <;> cases b <;> simp [bits] at h <;> omega
      | finite b n =>
          have hn := n.isLt
          cases a <;> cases b <;> simp [bits] at h
          · rw [Fin.ext h]
          · omega
          · omega
          · rw [Fin.ext h]

/-- The packed octets determine the double. -/
theorem pack_injective : Function.Injective pack := by
  intro x y h
  exact bits_injective (bigEndian_inj (bits_lt x) (bits_lt y) h)

theorem toRat?_eq_some_of_finite (negative : Bool) (m : Fin (2047 * 2 ^ 52)) :
    toRat? (.finite negative m)
      = some ((if negative then -1 else 1) * ((scaled m : ℚ) / unitsPerOne)) := rfl

private theorem unitsPerOne_pos_rat : (0 : ℚ) < unitsPerOne :=
  Nat.cast_pos.2 unitsPerOne_pos

/-- Finite doubles of one value agree, but for the sign of zero. -/
theorem eq_of_toRat?_eq {a b : Bool} {m n : Fin (2047 * 2 ^ 52)}
    (h : toRat? (.finite a m) = toRat? (.finite b n)) : m = n ∧ (a = b ∨ m.val = 0) := by
  have hPos := unitsPerOne_pos_rat
  have hEq : (if a then (-1 : ℚ) else 1) * ((scaled m : ℚ) / unitsPerOne)
      = (if b then -1 else 1) * ((scaled n : ℚ) / unitsPerOne) := by
    rw [toRat?_eq_some_of_finite, toRat?_eq_some_of_finite] at h
    exact Option.some.inj h
  have hm : (0 : ℚ) ≤ scaled m := Nat.cast_nonneg _
  have hn : (0 : ℚ) ≤ scaled n := Nat.cast_nonneg _
  have hScaled : (if a then (-1 : ℚ) else 1) * scaled m = (if b then -1 else 1) * scaled n := by
    rw [← mul_div_assoc, ← mul_div_assoc, div_left_inj' hPos.ne'] at hEq
    exact hEq
  have hSame : ∀ {p q : Fin (2047 * 2 ^ 52)}, (scaled p : ℚ) = scaled q → p = q := by
    intro p q hpq
    exact Fin.ext (scaled_injective (Nat.cast_injective hpq))
  have hZero : ∀ {p : Fin (2047 * 2 ^ 52)}, (scaled p : ℚ) = 0 → p.val = 0 := by
    intro p hp
    exact scaled_eq_zero.1 (Nat.cast_eq_zero.1 hp)
  cases a <;> cases b <;> simp only [Bool.false_eq_true, if_false, if_true, one_mul, neg_mul,
    neg_inj] at hScaled
  · exact ⟨hSame hScaled, Or.inl rfl⟩
  · have h1 : (scaled m : ℚ) = 0 := by linarith
    have h2 : (scaled n : ℚ) = 0 := by linarith
    exact ⟨hSame (h1.trans h2.symm), Or.inr (hZero h1)⟩
  · have h1 : (scaled m : ℚ) = 0 := by linarith
    have h2 : (scaled n : ℚ) = 0 := by linarith
    exact ⟨hSame (h1.trans h2.symm), Or.inr (hZero h1)⟩
  · exact ⟨hSame hScaled, Or.inl rfl⟩

/-! ## Whole numbers -/

/-- A natural number below `2^53` is the value of a magnitude. -/
theorem exists_scaled_eq {n : ℕ} (h : n < 2 ^ 53) :
    ∃ m, m < 2047 * 2 ^ 52 ∧ scaled m = n * unitsPerOne := by
  rcases Nat.eq_zero_or_pos n with rfl | hPos
  · exact ⟨0, by norm_num, by rw [scaled_zero, Nat.zero_mul]⟩
  · have hLog : n.log2 < 53 := (Nat.log2_lt (by omega)).2 h
    obtain ⟨hLow, hHigh⟩ := (Nat.log2_eq_iff (by omega)).1 (rfl : n.log2 = n.log2)
    set e := n.log2 with he
    have hkLow : 2 ^ 52 ≤ n * 2 ^ (52 - e) := by
      calc 2 ^ 52 = 2 ^ e * 2 ^ (52 - e) := by rw [← pow_add]; congr 1; omega
        _ ≤ n * 2 ^ (52 - e) := Nat.mul_le_mul_right _ hLow
    have hkHigh : n * 2 ^ (52 - e) < 2 ^ 53 := by
      calc n * 2 ^ (52 - e) < 2 ^ (e + 1) * 2 ^ (52 - e) :=
            Nat.mul_lt_mul_of_pos_right hHigh (Nat.two_pow_pos _)
        _ = 2 ^ 53 := by rw [← pow_add]; congr 1; omega
    refine ⟨(1022 + e) * 2 ^ 52 + n * 2 ^ (52 - e), by omega, ?_⟩
    have hExp : 2 ^ (52 - e) * 2 ^ (1022 + e) = unitsPerOne := by
      rw [← pow_add, unitsPerOne, unitExponent]
      congr 1
      omega
    rw [scaled_normal hkLow hkHigh, Nat.mul_assoc, hExp]

/-- Conversion of a safe integer is exact. -/
theorem toRat?_ofInt {n : ℤ} (h : n.natAbs < 2 ^ 53) : toRat? (ofInt n) = some (n : ℚ) := by
  obtain ⟨m, hm, hScaled⟩ := exists_scaled_eq h
  have hRound : roundFrac n.natAbs 1 = m := roundFrac_exact one_pos (by rw [hScaled, mul_one])
  have hFinite : ofInt n = .finite (decide (n < 0)) ⟨m, hm⟩ := by
    unfold ofInt ofFrac
    simp only [hRound, hm, dif_pos]
  have hValue : (scaled m : ℚ) / unitsPerOne = (n.natAbs : ℚ) := by
    rw [hScaled, Nat.cast_mul]
    exact mul_div_cancel_right₀ _ unitsPerOne_pos_rat.ne'
  rw [hFinite, toRat?]
  simp only [hValue]
  congr 1
  rcases lt_or_ge n 0 with hNeg | hNonneg
  · have hAbs : (n.natAbs : ℚ) = -(n : ℚ) := by
      rw [Nat.cast_natAbs, abs_of_neg hNeg, Int.cast_neg]
    rw [if_pos (decide_eq_true hNeg), hAbs]
    ring
  · have hAbs : (n.natAbs : ℚ) = (n : ℚ) := by
      rw [Nat.cast_natAbs, abs_of_nonneg hNonneg]
    rw [if_neg (by simpa using hNonneg), hAbs, one_mul]

end Binary64
