import DefinedQuant.Lib.Codec

/-!
# Identifiers, digests, versions and member paths

The closed spellings that the protocol models accept. A pattern of the source that is a regular
expression over a handful of character classes is written as the predicate it decides; the pattern
itself stands in the docstring. `\d` takes every decimal digit of Unicode, not the ASCII ones only.
-/

namespace CodePoint

/-- `[a-z]` -/
def isLower (c : CodePoint) : Bool := 0x61 ≤ c.val && c.val ≤ 0x7A

/-- `[A-Z]` -/
def isUpper (c : CodePoint) : Bool := 0x41 ≤ c.val && c.val ≤ 0x5A

/-- `[0-9]` -/
def isDigit (c : CodePoint) : Bool := 0x30 ≤ c.val && c.val ≤ 0x39

/-- The zeros of the runs of ten that make up the Unicode category `Nd`. -/
def decimalZeros : List ℕ :=
  [0x30, 0x660, 0x6f0, 0x7c0, 0x966, 0x9e6, 0xa66, 0xae6, 0xb66, 0xbe6, 0xc66, 0xce6, 0xd66, 0xde6,
    0xe50, 0xed0, 0xf20, 0x1040, 0x1090, 0x17e0, 0x1810, 0x1946, 0x19d0, 0x1a80, 0x1a90, 0x1b50,
    0x1bb0, 0x1c40, 0x1c50, 0xa620, 0xa8d0, 0xa900, 0xa9d0, 0xa9f0, 0xaa50, 0xabf0, 0xff10, 0x104a0,
    0x10d30, 0x11066, 0x110f0, 0x11136, 0x111d0, 0x112f0, 0x11450, 0x114d0, 0x11650, 0x116c0,
    0x11730, 0x118e0, 0x11950, 0x11c50, 0x11d50, 0x11da0, 0x11f50, 0x16a60, 0x16ac0, 0x16b50,
    0x1d7ce, 0x1d7d8, 0x1d7e2, 0x1d7ec, 0x1d7f6, 0x1e140, 0x1e2f0, 0x1e4f0, 0x1e950, 0x1fbf0]

/-- `\d` -/
def isDecimal (c : CodePoint) : Bool :=
  decimalZeros.any (fun first => first ≤ c.val && c.val ≤ first + 9)

/-- `[0-9A-Za-z-]` -/
def isVersionChar (c : CodePoint) : Bool :=
  c.isDigit || c.isUpper || c.isLower || c.val == 0x2D

/-- `[A-Za-z0-9_-]` -/
def isMemberChar (c : CodePoint) : Bool := c.isVersionChar || c.val == 0x5F

/-- `[a-z0-9_]` -/
def isIdChar (c : CodePoint) : Bool := c.isLower || c.isDigit || c.val == 0x5F

/-- `_ASCII_CASEFOLD_TABLE` -/
def asciiCasefold (c : CodePoint) : CodePoint :=
  if h : c.isUpper then
    ⟨c.val + 0x20, by
      rw [isUpper, Bool.and_eq_true, decide_eq_true_iff, decide_eq_true_iff] at h
      omega⟩
  else c

end CodePoint

namespace Protocol

/-- `str.split(sep)` for a separator of one character. -/
def split (sep : CodePoint) (value : Text) : List Text := value.splitOn sep

/-! ## Identifiers and digests -/

/-- `^[a-z][a-z0-9_]*$` -/
def isIdentifier (value : Text) : Bool :=
  match value with
  | [] => false
  | c :: rest => c.isLower && rest.all CodePoint.isIdChar

/-- `_SAFE_ID_PATTERN`: `^[a-z][a-z0-9_]{0,63}$` -/
def isSafeId (value : Text) : Bool := isIdentifier value && value.length ≤ 64

/-- `_SHA256_PATTERN`: `^[0-9a-f]{64}$` -/
def isSha256 (value : Text) : Bool :=
  value.length == 64 && value.all (fun c => c.isDigit || 0x61 ≤ c.val && c.val ≤ 0x66)

/-- `_COMPONENT_ID_PATTERN`: `^dq\.[a-z][a-z0-9_]*\.[a-z][a-z0-9_]*$` -/
def isComponentId (value : Text) : Bool :=
  match split 0x2E value with
  | [package, group, name] => package == py "dq" && isIdentifier group && isIdentifier name
  | _ => false

/-! ## Versions -/

/-- `0|[1-9]\d*` -/
def isVersionNumber (value : Text) : Bool :=
  match value with
  | [] => false
  | c :: rest => c.val == 0x30 && rest.isEmpty ||
      (0x31 ≤ c.val && c.val ≤ 0x39) && rest.all CodePoint.isDecimal

/-- `0|[1-9]\d*|[0-9A-Za-z-]*[A-Za-z-][0-9A-Za-z-]*` -/
def isPrereleasePart (value : Text) : Bool :=
  isVersionNumber value ||
    value.all CodePoint.isVersionChar && value.any (fun c => !c.isDigit)

/-- `[0-9A-Za-z-]+` -/
def isBuildPart (value : Text) : Bool := !value.isEmpty && value.all CodePoint.isVersionChar

/-- The text before the first separator, and what follows it if there is one. -/
def partition (sep : CodePoint) (value : Text) : Text × Option Text :=
  match value.dropWhile (· ≠ sep) with
  | [] => (value, none)
  | _ :: rest => (value.takeWhile (· ≠ sep), some rest)

/-- `_SEMVER_PATTERN`: three numbers, then optionally `-` and prerelease parts, then optionally `+`
and build parts. No `+` stands before the build, and no `-` before the prerelease. -/
def isSemver (value : Text) : Bool :=
  let (version, build) := partition 0x2B value
  let (core, prerelease) := partition 0x2D version
  (match split 0x2E core with
    | [major, minor, patch] =>
        isVersionNumber major && isVersionNumber minor && isVersionNumber patch
    | _ => false) &&
  (match prerelease with
    | none => true
    | some parts => (split 0x2E parts).all isPrereleasePart) &&
  (match build with
    | none => true
    | some parts => (split 0x2E parts).all isBuildPart)

example : isSemver (py "1.20.0-rc.1+linux-64") = true := by decide
example : isSemver (py "1.02.0") = false := by decide

/-! The version, the hash and the identifier of the samples. -/

theorem isSemver_one : isSemver (py "1.0.0") = true := by decide

theorem isSha256_zeros : isSha256 (List.replicate 64 0x30) = true := by decide

theorem isComponentId_sample : isComponentId (py "dq.a.b") = true := by decide

/-! ## Member paths -/

/-- `_RELATIVE_MEMBER_PATH_PATTERN`: segments between `/`, each made of nonempty parts between `.`. -/
def isRelativeMemberPath (value : Text) : Bool :=
  (split 0x2F value).all (fun segment =>
    (split 0x2E segment).all (fun part => !part.isEmpty && part.all CodePoint.isMemberChar))

/-- `_RELATIVE_MEMBER_PATH_ERROR` -/
def relativeMemberPathError : String :=
  "member path must use safe-ASCII segments with dots only inside segment names"

/-- `_WINDOWS_DEVICE_MEMBER_NAMES` -/
def windowsDeviceMemberNames : List Text :=
  ["con", "prn", "aux", "nul", "com1", "com2", "com3", "com4", "com5", "com6", "com7", "com8",
    "com9", "lpt1", "lpt2", "lpt3", "lpt4", "lpt5", "lpt6", "lpt7", "lpt8", "lpt9"].map py

/-- `portable_member_key` -/
def portableMemberKey (value : Text) : Except ValueError Text := do
  if ¬ Text.IsAscii value ∨ ¬ (1 ≤ value.length ∧ value.length ≤ 512) ∨
      isRelativeMemberPath value = false then
    throw ⟨relativeMemberPathError⟩
  let foldedSegments ← (split 0x2F value).mapM (fun segment => do
    if segment = py "." ∨ segment = py ".." ∨ segment.getLast? = some 0x2E ∨
        segment.getLast? = some 0x20 ∨ 0x3A ∈ segment ∨ 0x5C ∈ segment then
      throw ⟨relativeMemberPathError⟩
    let folded := segment.map CodePoint.asciiCasefold
    if (partition 0x2E folded).1 ∈ windowsDeviceMemberNames then
      throw ⟨relativeMemberPathError⟩
    return folded)
  return PrefixCode.joinSep 0x2F foldedSegments

/-- A portable path of a bundle member. -/
def isMemberPath (value : Text) : Bool := (portableMemberKey value).isOk

/-- The paths name different members on every platform, `manifest.json` among them. -/
def distinctMembers (paths : List Text) : Bool :=
  match paths.mapM portableMemberKey, portableMemberKey (py "manifest.json") with
  | .ok keys, .ok manifestKey => decide (keys.Nodup ∧ manifestKey ∉ keys)
  | _, _ => false

example : isMemberPath (py "charts/01-price.svg") = true := by decide
example : isMemberPath (py "charts/Aux.svg") = false := by decide

/-! ## Field types -/

open Json

/-- Text of a number of characters, `min_length` to `max_length`. -/
def charsWithin (low high : ℕ) (value : Text) : Bool :=
  decide (Text.Encodable value) && low ≤ value.length && value.length ≤ high

/-- The length of a literal, without decoding it. -/
theorem charsWithin_literal {low high : ℕ} {cs : List Char}
    (h : low ≤ cs.length ∧ cs.length ≤ high) :
    charsWithin low high (py (String.ofList cs)) = true := by
  have hLength : (py (String.ofList cs)).length = cs.length := by rw [py_ofList, List.length_map]
  rw [charsWithin, decide_eq_true (encodable_py _), hLength, decide_eq_true h.1, decide_eq_true h.2]
  rfl

theorem charsWithin_demo : charsWithin 1 240 (py "demo") = true := by decide

/-- A list of a number of items, `min_length` to `max_length`. -/
def lengthWithin {α : Type} (low high : ℕ) (xs : List α) : Except ValueError Unit :=
  if low ≤ xs.length ∧ xs.length ≤ high then .ok ()
  else .error ⟨"Tuple should have a number of items within its bounds"⟩

/-- `Field(pattern=_SAFE_ID_PATTERN)` -/
abbrev SafeId := {t : Text // isSafeId t = true}

/-- `Field(pattern=_SHA256_PATTERN)` -/
abbrev Sha256Text := {t : Text // isSha256 t = true}

/-- `Field(pattern=_SEMVER_PATTERN)` -/
abbrev Semver := {t : Text // isSemver t = true}

/-- `Field(pattern=_COMPONENT_ID_PATTERN)` -/
abbrev ComponentId := {t : Text // isComponentId t = true}

/-- `RelativeMemberPath` -/
abbrev RelativeMemberPath := {t : Text // isMemberPath t = true}

/-- `Field(min_length=low, max_length=high)` on a string. -/
abbrev Chars (low high : ℕ) := {t : Text // charsWithin low high t = true}

/-- `Field(min_length=low, max_length=high)` on a tuple. -/
abbrev Bounded (α : Type) (low high : ℕ) := {xs : List α // lengthWithin low high xs = .ok ()}

/-- A string that matches one of the patterns. -/
def patternCodec (p : Text → Bool) : Codec {t : Text // p t = true} :=
  Codec.text p "String should match pattern"

def SafeId.codec : Codec SafeId := patternCodec isSafeId

def Sha256Text.codec : Codec Sha256Text := patternCodec isSha256

def Semver.codec : Codec Semver := patternCodec isSemver

def ComponentId.codec : Codec ComponentId := patternCodec isComponentId

def RelativeMemberPath.codec : Codec RelativeMemberPath :=
  Codec.text isMemberPath relativeMemberPathError

def Chars.codec (low high : ℕ) : Codec (Chars low high) :=
  Codec.text (charsWithin low high) "String should have a length within its bounds"

def Bounded.codec {α : Type} (c : Codec α) (low high : ℕ) : Codec (Bounded α low high) :=
  c.array.validated (lengthWithin low high)

end Protocol
