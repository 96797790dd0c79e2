import DefinedQuant.Lib.Sha256
import Mathlib.Tactic.Common

/-!
# SHA-256 for the kernel

The same rounds over natural numbers, in the primitive operations that the kernel computes at once,
with the sixteen words of the window as arguments of their own. `sha256_eq_evaluate` puts the
evaluation in the place of the hash where a digest of a fixed message has to be computed.
-/

namespace Sha256

/-- `2 ^ 32` -/
def modulus : ℕ := 4294967296

/-- The eight words of the chaining value, as numbers. -/
structure Numbers where
  a : ℕ
  b : ℕ
  c : ℕ
  d : ℕ
  e : ℕ
  f : ℕ
  g : ℕ
  h : ℕ

def Chain.numbers (s : Chain) : Numbers :=
  ⟨s.a.toNat, s.b.toNat, s.c.toNat, s.d.toNat, s.e.toNat, s.f.toNat, s.g.toNat, s.h.toNat⟩

/-! ## Words -/

def evalRotate (x n : ℕ) : ℕ :=
  Nat.lor (Nat.shiftRight x n) (Nat.mod (Nat.shiftLeft x (Nat.sub 32 n)) modulus)

def evalBigSigma0 (x : ℕ) : ℕ := Nat.xor (Nat.xor (evalRotate x 2) (evalRotate x 13))
    (evalRotate x 22)
def evalBigSigma1 (x : ℕ) : ℕ := Nat.xor (Nat.xor (evalRotate x 6) (evalRotate x 11))
    (evalRotate x 25)
def evalSmallSigma0 (x : ℕ) : ℕ := Nat.xor (Nat.xor (evalRotate x 7) (evalRotate x 18))
    (Nat.shiftRight x 3)
def evalSmallSigma1 (x : ℕ) : ℕ := Nat.xor (Nat.xor (evalRotate x 17) (evalRotate x 19))
    (Nat.shiftRight x 10)

def evalAdd (x y : ℕ) : ℕ := Nat.mod (Nat.add x y) modulus

def evalNext (w14 w9 w1 w0 : ℕ) : ℕ :=
  evalAdd (evalAdd (evalAdd (evalSmallSigma1 w14) w9) (evalSmallSigma0 w1)) w0

/-- The first sum of a round. -/
def evalFirst (e f g h w k : ℕ) : ℕ :=
  evalAdd (evalAdd (evalAdd (evalAdd h (evalBigSigma1 e))
    (Nat.xor (Nat.land e f) (Nat.land (Nat.sub 4294967295 e) g))) k) w

/-- The second sum of a round. -/
def evalSecond (a b c : ℕ) : ℕ :=
  evalAdd (evalBigSigma0 a) (Nat.xor (Nat.xor (Nat.land a b) (Nat.land a c)) (Nat.land b c))

variable (x y : Word)

/-- A rotation, computed on numbers. -/
theorem evalRotate_toNat {n : ℕ} (hn : n < 32) :
    evalRotate x.toNat n = (x.rotateRight n).toNat := by
  rw [BitVec.toNat_rotateRight, Nat.mod_eq_of_lt hn]
  rfl

/-- The function Σ₀, computed on numbers. -/
theorem evalBigSigma0_toNat : evalBigSigma0 x.toNat = (bigSigma0 x).toNat := by
  simp only [evalBigSigma0, bigSigma0, BitVec.toNat_xor, evalRotate_toNat x (by decide : 2 < 32),
    evalRotate_toNat x (by decide : 13 < 32), evalRotate_toNat x (by decide : 22 < 32)]
  rfl

/-- The function Σ₁, computed on numbers. -/
theorem evalBigSigma1_toNat : evalBigSigma1 x.toNat = (bigSigma1 x).toNat := by
  simp only [evalBigSigma1, bigSigma1, BitVec.toNat_xor, evalRotate_toNat x (by decide : 6 < 32),
    evalRotate_toNat x (by decide : 11 < 32), evalRotate_toNat x (by decide : 25 < 32)]
  rfl

/-- The function σ₀, computed on numbers. -/
theorem evalSmallSigma0_toNat : evalSmallSigma0 x.toNat = (smallSigma0 x).toNat := by
  simp only [evalSmallSigma0, smallSigma0, BitVec.toNat_xor, BitVec.toNat_ushiftRight,
    evalRotate_toNat x (by decide : 7 < 32), evalRotate_toNat x (by decide : 18 < 32)]
  rfl

/-- The function σ₁, computed on numbers. -/
theorem evalSmallSigma1_toNat : evalSmallSigma1 x.toNat = (smallSigma1 x).toNat := by
  simp only [evalSmallSigma1, smallSigma1, BitVec.toNat_xor, BitVec.toNat_ushiftRight,
    evalRotate_toNat x (by decide : 17 < 32), evalRotate_toNat x (by decide : 19 < 32)]
  rfl

/-- Addition modulo 2^32, computed on numbers. -/
theorem evalAdd_toNat : evalAdd x.toNat y.toNat = (x + y).toNat := (BitVec.toNat_add x y).symm

/-- The next word of the schedule, computed on numbers. -/
theorem evalNext_toNat (w14 w9 w1 w0 : Word) : evalNext w14.toNat w9.toNat w1.toNat w0.toNat
    = (smallSigma1 w14 + w9 + smallSigma0 w1 + w0).toNat := by
  rw [evalNext, evalSmallSigma0_toNat, evalSmallSigma1_toNat, evalAdd_toNat, evalAdd_toNat,
    evalAdd_toNat]

/-- The first temporary of a round, computed on numbers. -/
theorem evalFirst_toNat (e f g h w k : Word) : evalFirst e.toNat f.toNat g.toNat h.toNat w.toNat
    k.toNat
    = (h + bigSigma1 e + ((e &&& f) ^^^ (~~~e &&& g)) + k + w).toNat := by
  have hChoice : Nat.xor (Nat.land e.toNat f.toNat) (Nat.land (Nat.sub 4294967295 e.toNat) g.toNat)
      = ((e &&& f) ^^^ (~~~e &&& g)).toNat := by
    rw [BitVec.toNat_xor, BitVec.toNat_and, BitVec.toNat_and, BitVec.toNat_not]
    rfl
  rw [evalFirst, hChoice, evalBigSigma1_toNat, evalAdd_toNat, evalAdd_toNat, evalAdd_toNat,
    evalAdd_toNat]

/-- The second temporary of a round, computed on numbers. -/
theorem evalSecond_toNat (a b c : Word) : evalSecond a.toNat b.toNat c.toNat
    = (bigSigma0 a + ((a &&& b) ^^^ (a &&& c) ^^^ (b &&& c))).toNat := by
  have hMajority : Nat.xor (Nat.xor (Nat.land a.toNat b.toNat) (Nat.land a.toNat c.toNat))
      (Nat.land b.toNat c.toNat) = ((a &&& b) ^^^ (a &&& c) ^^^ (b &&& c)).toNat := by
    rw [BitVec.toNat_xor, BitVec.toNat_xor, BitVec.toNat_and, BitVec.toNat_and, BitVec.toNat_and]
    rfl
  rw [evalSecond, hMajority, evalBigSigma0_toNat, evalAdd_toNat]

/-! ## Rounds -/

/-- The rounds of a block; the arguments are the window and the chaining value. -/
def evalRounds : List ℕ → ℕ → ℕ → ℕ → ℕ → ℕ → ℕ → ℕ → ℕ → ℕ → ℕ → ℕ → ℕ → ℕ → ℕ → ℕ → ℕ →
    ℕ → ℕ → ℕ → ℕ → ℕ → ℕ → ℕ → ℕ → Numbers
  | [], _, _, _, _, _, _, _, _, _, _, _, _, _, _, _, _, a, b, c, d, e, f, g, h =>
    ⟨a, b, c, d, e, f, g, h⟩
  | k :: ks, w0, w1, w2, w3, w4, w5, w6, w7, w8, w9, w10, w11, w12, w13, w14, w15, a, b, c, d, e, f,
    g, h =>
      evalRounds ks w1 w2 w3 w4 w5 w6 w7 w8 w9 w10 w11 w12 w13 w14 w15 (evalNext w14 w9 w1 w0)
        (evalAdd (evalFirst e f g h w0 k) (evalSecond a b c)) a b c
          (evalAdd d (evalFirst e f g h w0 k)) e f g

/-- The rounds, by induction on the constants left; the sixteen words are the window of the
schedule. -/
theorem evalRounds_toNat (ks : List Word) :
    ∀ (w0 w1 w2 w3 w4 w5 w6 w7 w8 w9 w10 w11 w12 w13 w14 w15 : Word)
    (s : Chain), evalRounds (ks.map BitVec.toNat) w0.toNat w1.toNat w2.toNat w3.toNat w4.toNat
    w5.toNat w6.toNat
      w7.toNat w8.toNat w9.toNat w10.toNat w11.toNat w12.toNat w13.toNat w14.toNat w15.toNat
        s.a.toNat s.b.toNat
      s.c.toNat s.d.toNat s.e.toNat s.f.toNat s.g.toNat s.h.toNat
    = (rounds ks [w0, w1, w2, w3, w4, w5, w6, w7, w8, w9, w10, w11, w12, w13, w14, w15]
      s).numbers := by
  induction ks with
  | nil => exact fun _ _ _ _ _ _ _ _ _ _ _ _ _ _ _ _ _ => rfl
  | cons k ks ih =>
      intro w0 w1 w2 w3 w4 w5 w6 w7 w8 w9 w10 w11 w12 w13 w14 w15 s
      rw [List.map_cons, evalRounds, evalNext_toNat, evalFirst_toNat, evalSecond_toNat,
        evalAdd_toNat, evalAdd_toNat]
      exact ih w1 w2 w3 w4 w5 w6 w7 w8 w9 w10 w11 w12 w13 w14 w15
        (smallSigma1 w14 + w9 + smallSigma0 w1 + w0) (round s w0 k)

/-- Compress the first sixteen words into the chaining value. -/
def evalCompress (s : Numbers) (w : List ℕ) : Numbers :=
  let t := evalRounds (roundConstants.map BitVec.toNat) (w.getD 0 0) (w.getD 1 0) (w.getD 2 0)
    (w.getD 3 0)
    (w.getD 4 0) (w.getD 5 0) (w.getD 6 0) (w.getD 7 0) (w.getD 8 0) (w.getD 9 0) (w.getD 10 0)
      (w.getD 11 0)
    (w.getD 12 0) (w.getD 13 0) (w.getD 14 0) (w.getD 15 0) s.a s.b s.c s.d s.e s.f s.g s.h
  ⟨evalAdd s.a t.a, evalAdd s.b t.b, evalAdd s.c t.c, evalAdd s.d t.d, evalAdd s.e t.e,
    evalAdd s.f t.f, evalAdd s.g t.g, evalAdd s.h t.h⟩

/-- The compression of a block, computed on numbers. -/
theorem evalCompress_toNat (s : Chain) {block : List Word} (rest : List Word)
    (hLength : block.length = 16) :
    evalCompress s.numbers ((block ++ rest).map BitVec.toNat) = (compress s block).numbers := by
  match block, hLength with
  | [w0, w1, w2, w3, w4, w5, w6, w7, w8, w9, w10, w11, w12, w13, w14, w15], _ =>
      have hRounds := evalRounds_toNat roundConstants w0 w1 w2 w3 w4 w5 w6 w7 w8 w9 w10 w11 w12 w13
        w14 w15 s
      rw [evalCompress, compress]
      -- The rounds stay closed here: their terms are large.
      generalize rounds roundConstants _ s = t at hRounds ⊢
      simp only [Chain.numbers, List.cons_append, List.map_cons, List.getD_cons_zero,
        List.getD_cons_succ] at hRounds ⊢
      rw [hRounds]
      simp only [evalAdd_toNat]

/-! ## Messages -/

def evalWords : Bytes → List ℕ
  | a :: b :: c :: d :: rest =>
      Nat.add (Nat.mul (Nat.add (Nat.mul (Nat.add (Nat.mul a.val 256) b.val) 256) c.val) 256)
        d.val ::
        evalWords rest
  | _ => []

/-- The words of a message, computed on numbers. -/
theorem evalWords_eq : ∀ octets : Bytes, evalWords octets = (words octets).map BitVec.toNat
  | a :: b :: c :: d :: rest => by
      have hWord : (word a b c d).toNat = ((a.val * 256 + b.val) * 256 + c.val) * 256 + d.val := by
        rw [word, BitVec.toNat_ofNat]
        omega
      rw [evalWords, words, List.map_cons, evalWords_eq rest, hWord]
      rfl
  | [] => rfl
  | [_] => rfl
  | [_, _] => rfl
  | [_, _, _] => rfl

-- Stated of functions: between applied ones the kernel would compare the chaining values, round by round.
/-- One more block is compressed. -/
theorem compressAll_succ (count : ℕ) :
    compressAll (count + 1) = fun ws s => compressAll count (ws.drop 16)
      (compress s (ws.take 16)) := rfl

/-- Compress block after block; `count` blocks are left. -/
def evalCompressAll : ℕ → List ℕ → Numbers → Numbers
  | 0, _, s => s
  | count + 1, ws, s => evalCompressAll count (ws.drop 16) (evalCompress s ws)

/-- The same on numbers. -/
theorem evalCompressAll_succ (count : ℕ) :
    evalCompressAll (count + 1) = fun ws s => evalCompressAll count (ws.drop 16)
      (evalCompress s ws) := rfl

/-- The compression of all blocks, by induction on their count. -/
theorem evalCompressAll_toNat (count : ℕ) : ∀ (ws : List Word) (s : Chain), ws.length = 16 * count →
    evalCompressAll count (ws.map BitVec.toNat) s.numbers = (compressAll count ws s).numbers := by
  induction count with
  | zero => exact fun _ _ _ => rfl
  | succ count ih =>
      intro ws s hLength
      have hTake : (ws.take 16).length = 16 := by
        rw [List.length_take]
        omega
      have hDrop : (ws.drop 16).length = 16 * count := by
        rw [List.length_drop]
        omega
      have hCompress := evalCompress_toNat s (ws.drop 16) hTake
      rw [List.take_append_drop] at hCompress
      rw [evalCompressAll_succ, compressAll_succ]
      beta_reduce
      rw [← List.map_drop, hCompress, ih _ _ hDrop]

/-- Four octets make a word. -/
theorem length_words : ∀ octets : Bytes, (words octets).length = octets.length / 4
  | a :: b :: c :: d :: rest => by
      rw [words, List.length_cons, length_words rest]
      simp only [List.length_cons]
      omega
  | [] => by simp [words]
  | [_] => by simp [words]
  | [_, _] => by simp [words]
  | [_, _, _] => by simp [words]

/-- A padded message is a whole number of blocks. -/
theorem length_pad (message : Bytes) : (pad message).length % 64 = 0 := by
  simp only [pad, List.length_append, List.length_cons, List.length_replicate, bigEndian_length]
  omega

def Numbers.bytes (s : Numbers) : Bytes :=
  [s.a, s.b, s.c, s.d, s.e, s.f, s.g, s.h].flatMap (fun w => bigEndian 4 w)

/-- The octets of a chain, computed on numbers. -/
theorem Numbers.bytes_numbers (s : Chain) : s.numbers.bytes = s.bytes := by
  simp only [Numbers.bytes, Chain.numbers, Chain.bytes, List.flatMap_cons, List.flatMap_nil]

/-- The digest of a message. -/
def evaluate (message : Bytes) : Bytes :=
  (evalCompressAll ((pad message).length / 64) (evalWords (pad message)) initial.numbers).bytes

end Sha256

open Sha256 in
/-- The hash can be evaluated on numbers. -/
theorem sha256_eq_evaluate (message : Bytes) : sha256 message = evaluate message := by
  have hLength : (words (pad message)).length = 16 * ((pad message).length / 64) := by
    have hPad := length_pad message
    rw [length_words]
    omega
  rw [evaluate, evalWords_eq, evalCompressAll_toNat _ _ _ hLength, Numbers.bytes_numbers, sha256]
