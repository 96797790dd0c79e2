import DefinedQuant.Lib.Json.Nesting
import DefinedQuant.Protocol.Canonical
import DefinedQuant.Protocol.Patterns

/-!
# Stored documents and references

The two exact serializations of host documents, the strict reader that accepts them, and the content
references that name them. A CAS document is compact with sorted keys, a portable member indented by
two; both end in a line feed. The strict reader refuses anything canonical encoding refuses, and the
CAS reader also any other spelling of what it read.
-/

namespace DataRecords

open Json Canonical Protocol

/-- `MAX_SAFE_INTEGER` -/
def maxSafeInteger : ℕ := 2 ^ 53 - 1

def maxDatasetRows : ℕ := 40000
def maxDatasetColumns : ℕ := 128
def maxCellBytes : ℕ := 64 * 1024
def maxLiteralFields : ℕ := 64
def maxLiteralBytes : ℕ := 64 * 1024
def maxLiteralsBytes : ℕ := 512 * 1024
def maxOperationMemberBytes : ℕ := 128 * 1024 * 1024
def maxOperationArtifacts : ℕ := 128
def maxRecordBytes : ℕ := 2 * 1024 * 1024

/-- `_utf8_bytes` as the check it makes on a field. -/
def utf8Within (minimum maximum : ℕ) (value : Text) : Bool :=
  decide (Text.Encodable value) && minimum ≤ utf8Length value && utf8Length value ≤ maximum

/-- A string field bounded by `_utf8_bytes`. -/
abbrev Utf8Text (minimum maximum : ℕ) := {t : Text // utf8Within minimum maximum t = true}

def Utf8Text.codec (name : String) (minimum maximum : ℕ) : Codec (Utf8Text minimum maximum) :=
  Codec.text (utf8Within minimum maximum) (name ++ " must contain a bounded number of UTF-8 bytes")

/-- `_validate_semver` -/
def validateSemver (value : Text) : Except ValueError Unit :=
  if ¬ utf8Within 1 128 value then .error ⟨"version must contain 1..128 UTF-8 bytes"⟩
  else if ¬ isSemver value then .error ⟨"version must be a canonical semantic version"⟩
  else .ok ()

/-! ## Serializations -/

/-- A document in one of the two styles, with its final line feed. -/
def documentBytes (style : Style) (value : Value) : Except ValueError Bytes := do
  let _ ← canonicalJsonBytes value
  validUtf8 ((← dumps style value) ++ [0x0A])

/-- `pretty_json_bytes` of a JSON value -/
def prettyJsonBytes (value : Value) : Except ValueError Bytes := documentBytes .pretty value

/-- `cas_json_bytes` of a JSON value -/
def casJsonBytes (value : Value) : Except ValueError Bytes := documentBytes .compactSorted value

/-- `strict_json_loads` -/
def strictJsonLoads (content : Bytes) (maximumBytes : Option ℕ) : Except ValueError Value := do
  if maximumBytes.any (fun maximum => maximum < content.length) then
    throw ⟨"JSON document exceeds its byte limit"⟩
  match utf8Decode content with
  | none => throw ⟨"JSON document must be strict UTF-8"⟩
  | some text =>
      if text.head? = some 0xFEFF then
        throw ⟨"JSON document must not contain a byte-order mark"⟩
      let value ← loads text
      let _ ← canonicalJsonBytes value
      return value

/-- `strict_cas_json_loads` -/
def strictCasJsonLoads (content : Bytes) (maximumBytes : ℕ) : Except ValueError Value := do
  let value ← strictJsonLoads content (some maximumBytes)
  if (← casJsonBytes value) ≠ content then
    throw ⟨"CAS document does not use defined-quant-cas-json-v1"⟩
  return value

/-! ## On a limited stack -/

/-- What the recursion limit of the interpreter leaves to a call: the stack of `json.loads`, and the
values that the canonical encoding gets through. -/
structure Recursion where
  stack : Stack
  encodes : Value → Bool

/-- A step that puts a value through the canonical encoding. -/
def Recursion.through {α : Type} (recursion : Recursion) (value : Value) (x : Except ValueError α) :
    Except Stopped α :=
  if recursion.encodes value then x.mapError .value else .error .recursion

/-- `strict_json_loads` on a limited stack -/
def strictJsonLoadsWithin (recursion : Recursion) (content : Bytes) (maximumBytes : Option ℕ) :
    Except Stopped Value := do
  if maximumBytes.any (fun maximum => maximum < content.length) then
    throw (.value ⟨"JSON document exceeds its byte limit"⟩)
  match utf8Decode content with
  | none => throw (.value ⟨"JSON document must be strict UTF-8"⟩)
  | some text =>
      if text.head? = some 0xFEFF then
        throw (.value ⟨"JSON document must not contain a byte-order mark"⟩)
      let value ← loadsWithin recursion.stack text
      let _ ← recursion.through value (canonicalJsonBytes value)
      return value

theorem Recursion.follows_through {α : Type} (recursion : Recursion) (value : Value)
    (x : Except ValueError α) : Follows (recursion.through value x) x := by
  unfold Recursion.through
  split_ifs
  · exact follows_mapError x
  · exact follows_recursion x

theorem Recursion.through_of_encodes {α : Type} {recursion : Recursion} {value : Value}
    (h : recursion.encodes value = true) (x : Except ValueError α) :
    recursion.through value x = x.mapError .value := if_pos h

/-- What the strict reader accepts without a limit it accepts on a stack with enough levels for the
value. -/
theorem strictJsonLoadsWithin_of_fits {recursion : Recursion} {content : Bytes}
    {maximumBytes : Option ℕ} {value : Value} (h : strictJsonLoads content maximumBytes = .ok value)
    (hFits : fits (recursion.stack.calls .objectPairsHook) value recursion.stack.depth = true)
    (hEncodes : recursion.encodes value = true) :
    strictJsonLoadsWithin recursion content maximumBytes = .ok value := by
  unfold strictJsonLoads at h
  unfold strictJsonLoadsWithin
  by_cases hLong : maximumBytes.any (fun maximum => maximum < content.length) = true
  · rw [if_pos hLong] at h
    cases h
  rw [if_neg hLong] at h ⊢
  cases hText : utf8Decode content with
  | none =>
      rw [hText] at h
      cases h
  | some text =>
      simp only [hText] at h ⊢
      by_cases hMark : text.head? = some 0xFEFF
      · rw [if_pos hMark] at h
        cases h
      · rw [if_neg hMark] at h ⊢
        obtain ⟨value', hLoads, h⟩ := Except.bind_eq_ok.1 h
        obtain ⟨bytes, hBytes, hSame⟩ := Except.bind_eq_ok.1 h
        cases hSame
        refine Except.bind_eq_ok.2 ⟨value, loadsWithin_of_fits hLoads hFits,
          Except.bind_eq_ok.2 ⟨bytes, ?_, rfl⟩⟩
        rw [Recursion.through_of_encodes hEncodes, hBytes]
        rfl

/-- The strict reader reads what it reads without a limit, or stops for want of a level. -/
theorem follows_strictJsonLoads (recursion : Recursion) (content : Bytes)
    (maximumBytes : Option ℕ) :
    Follows (strictJsonLoadsWithin recursion content maximumBytes)
      (strictJsonLoads content maximumBytes) := by
  unfold strictJsonLoadsWithin strictJsonLoads
  by_cases hLong : maximumBytes.any (fun maximum => maximum < content.length) = true
  · rw [if_pos hLong, if_pos hLong]
    exact .inr rfl
  rw [if_neg hLong, if_neg hLong]
  cases utf8Decode content with
  | none => exact .inr rfl
  | some text =>
      by_cases hMark : text.head? = some 0xFEFF
      · simp only [if_pos hMark]
        exact .inr rfl
      · simp only [if_neg hMark]
        exact (follows_loads recursion.stack text).bind (fun value =>
          (recursion.follows_through value _).bind (fun _ => .inr rfl))

/-! ## References -/

/-- The two kinds of record. -/
inductive RecordKind where
  | dataset
  | operation
  deriving DecidableEq

/-- The first part of a reference. -/
def RecordKind.scheme : RecordKind → String
  | .dataset => "dqds"
  | .operation => "dqop"

/-- `ParsedReference`: a reference that is well formed, its version still as text. -/
structure ParsedReference where
  kind : RecordKind
  versionToken : Text
  digest : Text
  deriving DecidableEq

/-- `[0-9]{1,3}` -/
def isVersionToken (value : Text) : Bool :=
  1 ≤ value.length && value.length ≤ 3 && value.all CodePoint.isDigit

/-- `^(dqds|dqop):v([0-9]{1,3}):([0-9a-f]{64})$` -/
def matchReference (value : Text) : Option ParsedReference :=
  match split 0x3A value with
  | [scheme, version, digest] =>
      match (if scheme = py "dqds" then some RecordKind.dataset
        else if scheme = py "dqop" then some RecordKind.operation else none), version with
      | some kind, 0x76 :: token =>
          if isVersionToken token && isSha256 digest then some ⟨kind, token, digest⟩ else none
      | _, _ => none
  | _ => none

/-- `_parse_reference` -/
def parseReference (kind : RecordKind) (value : Text) : Except ValueError ParsedReference :=
  match matchReference value with
  | some parsed => if parsed.kind = kind then .ok parsed else .error ⟨"invalid reference"⟩
  | none => .error ⟨"invalid reference"⟩

/-- `dataset_reference` and `operation_reference`, for a digest that is one. -/
def makeReference (kind : RecordKind) (digest : Text) : Text :=
  py kind.scheme ++ py ":v1:" ++ digest

end DataRecords
