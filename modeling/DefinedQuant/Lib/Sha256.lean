import DefinedQuant.Lib.Hex
import Mathlib.Data.BitVec

/-!
# SHA-256 and HMAC

The hash of FIPS 180-4, computed on octet lists: padding, the message schedule, and sixty-four
rounds for each block. Nothing is assumed of it here beyond its digest length; a development that
needs two digests to differ says so of the inputs it has in mind.
-/

namespace Sha256

/-- A 32-bit word. -/
abbrev Word := BitVec 32

/-- The first 32 bits of the fractional parts of the cube roots of the first 64 primes. -/
def roundConstants : List Word :=
  [0x428a2f98, 0x71374491, 0xb5c0fbcf, 0xe9b5dba5, 0x3956c25b, 0x59f111f1, 0x923f82a4, 0xab1c5ed5,
   0xd807aa98, 0x12835b01, 0x243185be, 0x550c7dc3, 0x72be5d74, 0x80deb1fe, 0x9bdc06a7, 0xc19bf174,
   0xe49b69c1, 0xefbe4786, 0x0fc19dc6, 0x240ca1cc, 0x2de92c6f, 0x4a7484aa, 0x5cb0a9dc, 0x76f988da,
   0x983e5152, 0xa831c66d, 0xb00327c8, 0xbf597fc7, 0xc6e00bf3, 0xd5a79147, 0x06ca6351, 0x14292967,
   0x27b70a85, 0x2e1b2138, 0x4d2c6dfc, 0x53380d13, 0x650a7354, 0x766a0abb, 0x81c2c92e, 0x92722c85,
   0xa2bfe8a1, 0xa81a664b, 0xc24b8b70, 0xc76c51a3, 0xd192e819, 0xd6990624, 0xf40e3585, 0x106aa070,
   0x19a4c116, 0x1e376c08, 0x2748774c, 0x34b0bcb5, 0x391c0cb3, 0x4ed8aa4a, 0x5b9cca4f, 0x682e6ff3,
   0x748f82ee, 0x78a5636f, 0x84c87814, 0x8cc70208, 0x90befffa, 0xa4506ceb, 0xbef9a3f7, 0xc67178f2]

/-- The eight words of the chaining value. -/
structure Chain where
  a : Word
  b : Word
  c : Word
  d : Word
  e : Word
  f : Word
  g : Word
  h : Word

/-- The first 32 bits of the fractional parts of the square roots of the first eight primes. -/
def initial : Chain where
  a := 0x6a09e667
  b := 0xbb67ae85
  c := 0x3c6ef372
  d := 0xa54ff53a
  e := 0x510e527f
  f := 0x9b05688c
  g := 0x1f83d9ab
  h := 0x5be0cd19

def bigSigma0 (x : Word) : Word := x.rotateRight 2 ^^^ x.rotateRight 13 ^^^ x.rotateRight 22
def bigSigma1 (x : Word) : Word := x.rotateRight 6 ^^^ x.rotateRight 11 ^^^ x.rotateRight 25
def smallSigma0 (x : Word) : Word := x.rotateRight 7 ^^^ x.rotateRight 18 ^^^ x >>> 3
def smallSigma1 (x : Word) : Word := x.rotateRight 17 ^^^ x.rotateRight 19 ^^^ x >>> 10

/-- The schedule word that follows the sixteen words of the window. -/
def nextWord (window : List Word) : Word :=
  smallSigma1 (window.getD 14 0) + window.getD 9 0 + smallSigma0 (window.getD 1 0) +
    window.getD 0 0

/-- One round: the chaining value after the schedule word `w` and the round constant `k`. -/
def round (s : Chain) (w k : Word) : Chain :=
  let t1 := s.h + bigSigma1 s.e + ((s.e &&& s.f) ^^^ (~~~s.e &&& s.g)) + k + w
  let t2 := bigSigma0 s.a + ((s.a &&& s.b) ^^^ (s.a &&& s.c) ^^^ (s.b &&& s.c))
  { a := t1 + t2, b := s.a, c := s.b, d := s.c, e := s.d + t1, f := s.e, g := s.f, h := s.g }

/-- The rounds of a block, the window of schedule words sliding along. -/
def rounds : List Word → List Word → Chain → Chain
  | [], _, s => s
  | k :: ks, window, s =>
      rounds ks (window.tail ++ [nextWord window]) (round s (window.headD 0) k)

/-- Compress one block of sixteen words into the chaining value. -/
def compress (s : Chain) (block : List Word) : Chain :=
  let t := rounds roundConstants block s
  { a := s.a + t.a, b := s.b + t.b, c := s.c + t.c, d := s.d + t.d, e := s.e + t.e, f := s.f + t.f,
    g := s.g + t.g, h := s.h + t.h }

/-- Four octets as a word. -/
def word (a b c d : Byte) : Word :=
  BitVec.ofNat 32 (((a.val * 256 + b.val) * 256 + c.val) * 256 + d.val)

/-- An octet list of a multiple of four as words. -/
def words : Bytes → List Word
  | a :: b :: c :: d :: rest => word a b c d :: words rest
  | _ => []

/-- The message, a one bit, zero bits up to 56 octets modulo 64, and the bit length in 8 octets. -/
def pad (message : Bytes) : Bytes :=
  message ++ 0x80 :: List.replicate ((119 - message.length % 64) % 64) 0 ++
    bigEndian 8 (8 * message.length)

/-- Compress block after block; `count` blocks are left. -/
def compressAll : ℕ → List Word → Chain → Chain
  | 0, _, s => s
  | count + 1, ws, s => compressAll count (ws.drop 16) (compress s (ws.take 16))

/-- The chaining value as 32 octets. -/
def Chain.bytes (s : Chain) : Bytes :=
  [s.a, s.b, s.c, s.d, s.e, s.f, s.g, s.h].flatMap (fun w => bigEndian 4 w.toNat)

@[simp] theorem Chain.bytes_length (s : Chain) : s.bytes.length = 32 := rfl

end Sha256

open Sha256 in
/-- `hashlib.sha256(message).digest()`. -/
def sha256 (message : Bytes) : Bytes :=
  (compressAll ((pad message).length / 64) (words (pad message)) initial).bytes

@[simp] theorem sha256_length (message : Bytes) : (sha256 message).length = 32 :=
  Sha256.Chain.bytes_length _

/-- `hashlib.sha256(message).hexdigest()`. -/
def sha256Hex (message : Bytes) : Text := Bytes.hex (sha256 message)

@[simp] theorem sha256Hex_length (message : Bytes) : (sha256Hex message).length = 64 := by
  simp [sha256Hex]

theorem isAscii_sha256Hex (message : Bytes) : Text.IsAscii (sha256Hex message) :=
  Bytes.isAscii_hex _

/-- Octets combined with a repeated octet by exclusive or. -/
def xorByte (b : Byte) (bs : Bytes) : Bytes := bs.map (fun c => Byte.ofNat (b.val ^^^ c.val))

/-- `hmac.digest(key, message, "sha256")`, for keys of at most one block. -/
def hmacSha256 (key message : Bytes) : Bytes :=
  let block := key ++ List.replicate (64 - key.length) 0
  sha256 (xorByte 0x5C block ++ sha256 (xorByte 0x36 block ++ message))

@[simp] theorem hmacSha256_length (key message : Bytes) : (hmacSha256 key message).length = 32 :=
  sha256_length _
