import DefinedQuant.Lib.Json.Strings
import DefinedQuant.Lib.Sha256Evaluation
import DefinedQuant.Lib.SortBy

/-!
# Canonical encoding

Plans, receipts, records and subjects are identified by the SHA-256 of a canonical encoding. A value
is first turned into a tagged tree of lists, strings and booleans, in which every number is the
hexadecimal form of a double and every dict is a list of entries in UTF-8 key order. The tree is
then written as compact JSON, and a hash prepends a prefix, the canonicalization name and the hash
domain, separated by zero octets.

Enums and protocol models take part through the JSON value they dump to, so `Value` is the whole
domain here; objects of other types, which the source refuses with `TypeError`, have no counterpart.
-/

namespace Canonical

open Json

/-- `CANONICALIZATION_ID` -/
def canonicalizationId : String := "dq-tagged-json-v1"

/-- `_HASH_PREFIX` -/
def hashPrefix : String := "defined-quant"

/-- `_MAX_SAFE_INTEGER` -/
def maxSafeInteger : ℕ := 2 ^ 53 - 1

/-- `_valid_utf8` -/
def validUtf8 (value : Text) : Except ValueError Bytes :=
  match utf8 value with
  | some bytes => .ok bytes
  | none => .error ⟨"canonical strings cannot contain lone Unicode surrogates"⟩

/-- The double that `_number_hex` packs for an `int` or a `float`, before it drops the sign of
zero. -/
def acceptedDouble : ℤ ⊕ Binary64 → Except ValueError Binary64
  | .inl n =>
      if maxSafeInteger < n.natAbs then
        .error ⟨"canonical integers must be within the IEEE-754 safe-integer range"⟩
      else .ok (Binary64.ofInt n)
  | .inr x =>
      if !x.isFinite then .error ⟨"canonical numbers must be finite"⟩
      else if x.isInteger && x.absExceeds maxSafeInteger then
        .error ⟨"integer-valued floats must be within the safe-integer range"⟩
      else .ok x

/-- `_number_hex` -/
def numberHex (value : ℤ ⊕ Binary64) : Except ValueError Text := do
  let normalized ← acceptedDouble value
  return (if normalized.isZero then Binary64.zero else normalized).pack.hex

/-! ## Tagged trees -/

/-- What a tagged tree is made of: `None`, booleans, strings and lists. -/
inductive Tree where
  | none
  | bool (b : Bool)
  | str (s : Text)
  | list (xs : List Tree)

/-- One entry of a tagged object. -/
def Tree.entry (key : Text) (item : Tree) : Tree := .list [.str key, item]

mutual

/-- `_tagged_tree` -/
def taggedTree : Value → Except ValueError Tree
  | .null => return .list [.str (py "null")]
  | .bool b => return .list [.str (py "boolean"), .bool b]
  | .str s => do
      let _ ← validUtf8 s
      return .list [.str (py "string"), .str s]
  | .int n => do return .list [.str (py "number"), .str (← numberHex (.inl n))]
  | .float x => do return .list [.str (py "number"), .str (← numberHex (.inr x))]
  | .obj m => do
      let keyed ← taggedMembers m
      let entries ← (sortBy (fun p => p.1) keyed).mapM
        (fun p => do return Tree.entry p.2.1 (← p.2.2))
      return .list [.str (py "object"), .list entries]
  | .seq _ xs => do return .list [.str (py "array"), .list (← taggedItems xs)]

/-- `_tagged_tree` of every item. -/
def taggedItems : List Value → Except ValueError (List Tree)
  | [] => return []
  | x :: xs => do return (← taggedTree x) :: (← taggedItems xs)

/-- Every member under the UTF-8 form of its key. All keys are checked before any value is looked
at, so the value's own tree stays unevaluated. -/
def taggedMembers : Members → Except ValueError (List (Bytes × Text × Except ValueError Tree))
  | [] => return []
  | (key, item) :: m => do
      let keyBytes ← validUtf8 key
      return (keyBytes, key, taggedTree item) :: (← taggedMembers m)

end

/-- `_encode_string`; the escapes are those of the JSON writer. -/
def encodeString (value : Text) : Except ValueError Text := do
  let _ ← validUtf8 value
  return writeString value

mutual

/-- `_encode_tagged_json` -/
def encodeTaggedJson : Tree → Except ValueError Text
  | .none => return py "null"
  | .bool true => return py "true"
  | .bool false => return py "false"
  | .str s => encodeString s
  | .list xs => do return py "[" ++ PrefixCode.joinSep 0x2C (← encodeTaggedItems xs) ++ py "]"

/-- `_encode_tagged_json` of every item. -/
def encodeTaggedItems : List Tree → Except ValueError (List Text)
  | [] => return []
  | x :: xs => do return (← encodeTaggedJson x) :: (← encodeTaggedItems xs)

end

/-- `canonical_json_bytes` -/
def canonicalJsonBytes (value : Value) : Except ValueError Bytes := do
  validUtf8 (← encodeTaggedJson (← taggedTree value))

/-! ## Hashing -/

/-- `_DOMAIN_PATTERN`: `^[a-z][a-z0-9_.-]{0,127}$` -/
def isDomain (domain : Text) : Bool :=
  match domain with
  | [] => false
  | c :: rest =>
      (0x61 ≤ c.val && c.val ≤ 0x7A) && rest.length ≤ 127 &&
        rest.all (fun d => (0x61 ≤ d.val && d.val ≤ 0x7A) || (0x30 ≤ d.val && d.val ≤ 0x39) ||
          d.val == 0x5F || d.val == 0x2E || d.val == 0x2D)

/-- The octets that `canonical_hash` feeds to SHA-256. -/
def hashPayload (value : Value) (domain : Text) : Except ValueError Bytes :=
  if isDomain domain then do
    let canonical ← canonicalJsonBytes value
    return PrefixCode.joinSep 0
      [utf8Raw (py hashPrefix), utf8Raw (py canonicalizationId), utf8Raw domain, canonical]
  else .error ⟨"hash domain must match ^[a-z][a-z0-9_.-]\x7b0,127\x7d$"⟩

/-- `canonical_hash` -/
def canonicalHash (value : Value) (domain : Text) : Except ValueError Text := do
  return sha256Hex (← hashPayload value domain)

/-- The hash with its rounds over numbers, for the kernel. -/
theorem canonicalHash_eq_evaluate (value : Value) (domain : Text) :
    canonicalHash value domain = do return Bytes.hex (Sha256.evaluate (← hashPayload value domain)) := by
  simp only [canonicalHash, sha256Hex, sha256_eq_evaluate]

/-! ## Structural equality

The equality that canonical encoding is meant to decide: dicts without regard to order, lists and
tuples alike, numbers by exact value, and nothing across kinds.
-/

mutual

/-- The values are structurally equal. -/
def Same : Value → Value → Prop
  | .null, w => w = .null
  | .bool b, w => w = .bool b
  | .str s, w => w = .str s
  | .int n, w => w.number? = some (n : ℚ)
  | .float x, w => ∃ q, x.toRat? = some q ∧ w.number? = some q
  | .seq _ xs, w => ∃ kind ys, w = .seq kind ys ∧ SameItems xs ys
  | .obj m, w => ∃ n, w = .obj n ∧ m.length = n.length ∧ SameMembers m n

/-- Equal item by item. -/
def SameItems : List Value → List Value → Prop
  | [], ys => ys = []
  | x :: xs, ys => ∃ y ys', ys = y :: ys' ∧ Same x y ∧ SameItems xs ys'

/-- Every member has an equal one of the same key on the other side. -/
def SameMembers : Members → Members → Prop
  | [], _ => True
  | (key, x) :: m, n => (∃ y, Value.get? key n = some y ∧ Same x y) ∧ SameMembers m n

end

end Canonical
