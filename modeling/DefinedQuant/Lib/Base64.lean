import DefinedQuant.Lib.Text
import Mathlib.Data.Fintype.Basic

/-!
# URL-safe Base64 without padding

Three octets become four symbols, each for six bits; a last group of one or two octets becomes two
or three symbols. `decode` is the lenient decoder, which ignores the bits that a last group has to
spare; so several texts may decode to the same octets, and a caller that wants one spelling compares
with `encode`. `decode_encode` is the round trip.
-/

namespace Base64

/-- The symbol for six bits. -/
def symbol (n : ℕ) : CodePoint :=
  if n < 26 then Fin.ofNat _ (65 + n)
  else if n < 52 then Fin.ofNat _ (71 + n)
  else if n < 62 then Fin.ofNat _ (n - 4)
  else if n = 62 then 0x2D
  else 0x5F

/-- The six bits of a symbol. -/
def bits (c : CodePoint) : Option ℕ :=
  if 65 ≤ c.val ∧ c.val ≤ 90 then some (c.val - 65)
  else if 97 ≤ c.val ∧ c.val ≤ 122 then some (c.val - 71)
  else if 48 ≤ c.val ∧ c.val ≤ 57 then some (c.val + 4)
  else if c.val = 0x2D then some 62
  else if c.val = 0x5F then some 63
  else none

/-- A symbol of the alphabet `[A-Za-z0-9_-]`. -/
def IsSymbol (c : CodePoint) : Prop := (bits c).isSome = true

instance (c : CodePoint) : Decidable (IsSymbol c) := inferInstanceAs (Decidable (_ = _))

/-- `base64.urlsafe_b64encode(data).rstrip(b"=")` -/
def encode : Bytes → Text
  | [] => []
  | [a] => [symbol (a.val / 4), symbol (a.val % 4 * 16)]
  | [a, b] => [symbol (a.val / 4), symbol (a.val % 4 * 16 + b.val / 16), symbol (b.val % 16 * 4)]
  | a :: b :: c :: rest =>
      symbol (a.val / 4) :: symbol (a.val % 4 * 16 + b.val / 16) ::
        symbol (b.val % 16 * 4 + c.val / 64) :: symbol (c.val % 64) :: encode rest

/-- The octets of a text of symbols, a last group of fewer than four included. -/
def decode : Text → Option Bytes
  | [] => some []
  | [_] => none
  | [a, b] => do
      let a ← bits a
      let b ← bits b
      return [Byte.ofNat (a * 4 + b / 16)]
  | [a, b, c] => do
      let a ← bits a
      let b ← bits b
      let c ← bits c
      return [Byte.ofNat (a * 4 + b / 16), Byte.ofNat (b % 16 * 16 + c / 4)]
  | a :: b :: c :: d :: rest => do
      let a ← bits a
      let b ← bits b
      let c ← bits c
      let d ← bits d
      let rest ← decode rest
      return Byte.ofNat (a * 4 + b / 16) :: Byte.ofNat (b % 16 * 16 + c / 4) ::
        Byte.ofNat (c % 4 * 64 + d) :: rest

/-- Every group of six bits has its symbol. -/
theorem bits_symbol {n : ℕ} (h : n < 64) : bits (symbol n) = some n := by
  have hAll : ∀ k : Fin 64, bits (symbol k.val) = some k.val := by decide
  exact hAll ⟨n, h⟩

theorem Byte.ofNat_val (b : Byte) {n : ℕ} (h : n % 256 = b.val) : Byte.ofNat n = b := Fin.ext h

/-- What was encoded is decoded. -/
theorem decode_encode (bs : Bytes) : decode (encode bs) = some bs := by
  induction bs using encode.induct with
  | case1 => rfl
  | case2 a =>
      have ha := a.isLt
      rw [encode, decode, bits_symbol (by omega), bits_symbol (by omega)]
      simp only [Option.bind_eq_bind, Option.bind_some, Option.pure_def, Option.some.injEq,
        List.cons.injEq, and_true]
      exact Byte.ofNat_val a (by omega)
  | case3 a b =>
      have ha := a.isLt
      have hb := b.isLt
      rw [encode, decode, bits_symbol (by omega), bits_symbol (by omega), bits_symbol (by omega)]
      simp only [Option.bind_eq_bind, Option.bind_some, Option.pure_def, Option.some.injEq,
        List.cons.injEq, and_true]
      exact ⟨Byte.ofNat_val a (by omega), Byte.ofNat_val b (by omega)⟩
  | case4 a b c rest ih =>
      have ha := a.isLt
      have hb := b.isLt
      have hc := c.isLt
      rw [encode, decode, bits_symbol (by omega), bits_symbol (by omega), bits_symbol (by omega),
        bits_symbol (by omega), ih]
      simp only [Option.bind_eq_bind, Option.bind_some, Option.pure_def, Option.some.injEq,
        List.cons.injEq, and_true]
      exact ⟨Byte.ofNat_val a (by omega), Byte.ofNat_val b (by omega), Byte.ofNat_val c (by omega)⟩

/-- An encoded text consists of symbols. -/
theorem isSymbol_encode (bs : Bytes) : ∀ c ∈ encode bs, IsSymbol c := by
  have hSymbol : ∀ {n : ℕ}, n < 64 → IsSymbol (symbol n) := fun hn => by
    rw [IsSymbol, bits_symbol hn, Option.isSome_some]
  induction bs using encode.induct with
  | case1 => simp [encode]
  | case2 a =>
      have ha := a.isLt
      simp only [encode, List.forall_mem_cons]
      exact ⟨hSymbol (by omega), hSymbol (by omega), by simp⟩
  | case3 a b =>
      have ha := a.isLt
      have hb := b.isLt
      simp only [encode, List.forall_mem_cons]
      exact ⟨hSymbol (by omega), hSymbol (by omega), hSymbol (by omega), by simp⟩
  | case4 a b c rest ih =>
      have ha := a.isLt
      have hb := b.isLt
      have hc := c.isLt
      simp only [encode, List.forall_mem_cons]
      exact ⟨hSymbol (by omega), hSymbol (by omega), hSymbol (by omega), hSymbol (by omega), ih⟩

/-- Four symbols for every three octets, rounded up. -/
theorem length_encode_le (bs : Bytes) : 3 * (encode bs).length ≤ 4 * bs.length + 2 := by
  induction bs using encode.induct with
  | case1 => simp [encode]
  | case2 a => simp [encode]
  | case3 a b => simp [encode]
  | case4 a b c rest ih =>
      simp only [encode, List.length_cons]
      omega

end Base64
