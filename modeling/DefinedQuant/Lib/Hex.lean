import DefinedQuant.Lib.Text
import Mathlib.Algebra.Group.Nat.Defs

/-!
# Big-endian bytes and hexadecimal text

`bigEndian` lays a number out in a fixed number of octets, most significant first, and `Bytes.hex`
is Python's `bytes.hex()`: two lowercase digits for each octet. Both are injective, the first on the
numbers that fit.
-/

/-- The low `width` octets of `n`, most significant first. -/
def bigEndian : ℕ → ℕ → Bytes
  | 0, _ => []
  | width + 1, n => bigEndian width (n / 256) ++ [Byte.ofNat n]

@[simp] theorem bigEndian_length (width n : ℕ) : (bigEndian width n).length = width := by
  induction width generalizing n with
  | zero => rfl
  | succ width ih => simp [bigEndian, ih]

/-- Numbers that fit are determined by their octets. -/
theorem bigEndian_inj : ∀ {width m n : ℕ}, m < 256 ^ width → n < 256 ^ width →
    bigEndian width m = bigEndian width n → m = n
  | 0, m, n, hm, hn, _ => by
      rw [Nat.pow_zero] at hm hn
      omega
  | width + 1, m, n, hm, hn, hEq => by
      obtain ⟨hHigh, hLow⟩ := List.append_inj' hEq rfl
      rw [Nat.pow_succ'] at hm hn
      have hDiv : m / 256 = n / 256 :=
        bigEndian_inj (Nat.div_lt_of_lt_mul hm) (Nat.div_lt_of_lt_mul hn) hHigh
      have hByte : Byte.ofNat m = Byte.ofNat n := List.head_eq_of_cons_eq hLow
      have hMod : m % 256 = n % 256 := congrArg Fin.val hByte
      omega

/-- One lowercase hexadecimal digit. -/
def hexDigit (n : Fin 16) : CodePoint :=
  if n.val < 10 then ⟨48 + n.val, by omega⟩ else ⟨87 + n.val, by omega⟩

theorem hexDigit_injective : Function.Injective hexDigit := by
  intro a b h
  have hVal := congrArg Fin.val h
  simp only [hexDigit] at hVal
  ext
  split_ifs at hVal <;> simp only at hVal <;> omega

/-- The two hexadecimal digits of an octet. -/
def hexByte (b : Byte) : Text :=
  [hexDigit ⟨b.val / 16, by omega⟩, hexDigit ⟨b.val % 16, by omega⟩]

/-- Python's `bytes.hex()`. -/
def Bytes.hex (bs : Bytes) : Text := bs.flatMap hexByte

theorem hexByte_injective : Function.Injective hexByte := by
  intro a b h
  have hHigh := hexDigit_injective (List.head_eq_of_cons_eq h)
  have hLow := hexDigit_injective (List.head_eq_of_cons_eq (List.tail_eq_of_cons_eq h))
  have h1 := congrArg Fin.val hHigh
  have h2 := congrArg Fin.val hLow
  simp only at h1 h2
  ext
  omega

theorem Bytes.hex_injective : Function.Injective Bytes.hex :=
  PrefixCode.flatMap_injective
    (PrefixCode.selfDelimiting_of_length hexByte_injective 2 (fun _ => rfl))
    (fun _ => List.cons_ne_nil _ _)

@[simp] theorem Bytes.hex_length (bs : Bytes) : (Bytes.hex bs).length = 2 * bs.length := by
  induction bs with
  | nil => rfl
  | cons b bs ih =>
      have hSplit : Bytes.hex (b :: bs) = hexByte b ++ Bytes.hex bs := rfl
      rw [hSplit, List.length_append, ih, List.length_cons]
      simp only [hexByte, List.length_cons, List.length_nil]
      omega

/-- A lowercase hexadecimal digit. -/
def IsHexDigit (c : CodePoint) : Prop :=
  (48 ≤ c.val ∧ c.val ≤ 57) ∨ (97 ≤ c.val ∧ c.val ≤ 102)

instance (c : CodePoint) : Decidable (IsHexDigit c) := inferInstanceAs (Decidable (_ ∨ _))

theorem isHexDigit_hexDigit (n : Fin 16) : IsHexDigit (hexDigit n) := by
  unfold IsHexDigit hexDigit
  split_ifs with h
  · left; simp only; omega
  · right; simp only; omega

/-- Hexadecimal text has only hexadecimal digits. -/
theorem Bytes.isHexDigit_of_mem_hex {bs : Bytes} {c : CodePoint} (h : c ∈ Bytes.hex bs) :
    IsHexDigit c := by
  obtain ⟨b, -, hc⟩ := List.mem_flatMap.1 h
  simp only [hexByte, List.mem_cons, List.not_mem_nil, or_false] at hc
  rcases hc with rfl | rfl <;> exact isHexDigit_hexDigit _

theorem Bytes.isAscii_hex (bs : Bytes) : Text.IsAscii (Bytes.hex bs) := by
  intro c hc
  rcases Bytes.isHexDigit_of_mem_hex hc with h | h <;> omega
