import DefinedQuant.Protocol.Operation
import DefinedQuant.Shared.DataRecords.Documents
import Mathlib.Data.Prod.Lex

/-!
# Operation bindings and operation records

A binding says where an operation's input came from: literal fields, and at most one immutable
source whose columns fill the remaining ones. A record binds a portable bundle, by the digests and
sizes of its members, to the operation, the runner, the renderers and the binding.

An operation source needs protocol 0.5.0, which `ProtocolVersion` does not have. So no valid record
has one, and the compatibility of every valid record is empty.
-/

namespace DataRecords

open Json Canonical Protocol

/-- `OPERATION_RECORD_HASH_DOMAIN` -/
def operationRecordHashDomain : Text := py "mcp.operation.v1"

/-! ## Members -/

/-- The kind of a bundle member. -/
inductive MemberKind where
  | normalizedInput
  | result
  | artifact
  deriving DecidableEq

def MemberKind.value : MemberKind → String
  | .normalizedInput => "normalized_input"
  | .result => "result"
  | .artifact => "artifact"

/-- The rank of a kind in the canonical order of members. -/
def MemberKind.rank : MemberKind → ℕ
  | .normalizedInput => 0
  | .result => 1
  | .artifact => 2

def MemberKind.codec : Codec MemberKind :=
  .enum [.normalizedInput, .result, .artifact] value (by intro a; cases a <;> simp [value])

/-- A member's size, strict and bounded. -/
abbrev MemberSize :=
  {n : ℤ // (decide (0 ≤ n) && decide (n ≤ maxOperationMemberBytes)) = true}

def MemberSize.codec : Codec MemberSize :=
  Codec.integer (fun n => decide (0 ≤ n) && decide (n ≤ maxOperationMemberBytes))
    "Input should be within its bounds"

/-- `OperationMemberV1` -/
structure OperationMember where
  kind : MemberKind
  path : RelativeMemberPath
  sha256 : Sha256Text
  sizeBytes : MemberSize
  deriving DecidableEq

def OperationMember.fields : Fields OperationMember :=
  (Fields.and (.required "kind" MemberKind.codec)
    (.and (.required "path" RelativeMemberPath.codec)
    (.and (.required "sha256" Sha256Text.codec) (.required "size_bytes" MemberSize.codec)
    (by decide)) (by decide)) (by decide)).iso
    (fun (a, b, c, d) => ⟨a, b, c, d⟩) (fun m => (m.kind, m.path, m.sha256, m.sizeBytes))
    (fun _ => rfl)

def OperationMember.codec : Codec OperationMember := .object fields

/-- The canonical order of members: by kind, then by path in UTF-8. -/
def memberKey (member : OperationMember) : ℕ ×ₗ Bytes :=
  toLex (member.kind.rank, utf8Raw member.path.1)

/-! ## Bindings -/

/-- `FieldMappingV1` -/
structure FieldMapping where
  sourceField : Utf8Text 1 240
  inputField : Utf8Text 1 240
  deriving DecidableEq

def FieldMapping.fields : Fields FieldMapping :=
  (Fields.and (.required "source_field" (Utf8Text.codec "field mapping name" 1 240))
    (.required "input_field" (Utf8Text.codec "field mapping name" 1 240)) (by decide)).iso
    (fun (a, b) => ⟨a, b⟩) (fun m => (m.sourceField, m.inputField)) (fun _ => rfl)

def FieldMapping.codec : Codec FieldMapping := .object fields

/-- `_validate_mappings` -/
def validateMappings (mappings : List FieldMapping) : Except ValueError Unit :=
  if (mappings.map (fun m => m.sourceField)).Nodup ∧
    (mappings.map (fun m => m.inputField)).Nodup then
    .ok ()
  else .error ⟨"source mappings must be unique by source and target field"⟩

/-- The fields of a binding source, `DatasetOperationSourceV1` or `OperationOperationSourceV1`. -/
structure BindingSourceFields where
  kind : RecordKind
  ref : Text
  mappings : Bounded FieldMapping 1 128
  deriving DecidableEq

def RecordKind.value : RecordKind → String
  | .dataset => "dataset"
  | .operation => "operation"

def RecordKind.codec : Codec RecordKind :=
  .enum [.dataset, .operation] value (by intro a; cases a <;> simp [value])

/-- `_validate_source` of either kind. -/
def BindingSourceFields.validateSource (self : BindingSourceFields) : Except ValueError Unit := do
  let parsed ← parseReference self.kind self.ref
  if parsed.versionToken ≠ py "1" then
    throw ⟨"operation binding requires a v1 reference"⟩
  validateMappings self.mappings.1

def BindingSourceFields.fields : Fields BindingSourceFields :=
  (Fields.and (.required "kind" RecordKind.codec)
    (.and (.required "ref" (Codec.text (fun _ => true) ""))
      (.required "mappings" (Bounded.codec FieldMapping.codec 1 128))
    (by decide)) (by decide)).iso
    (fun (a, b, c) => ⟨a, b.1, c⟩) (fun s => (s.kind, ⟨s.ref, rfl⟩, s.mappings)) (fun _ => rfl)

/-- `OperationBindingSourceV1` -/
abbrev BindingSource := {s : BindingSourceFields // s.validateSource = .ok ()}

def BindingSource.codec : Codec BindingSource :=
  (Codec.object BindingSourceFields.fields).validated BindingSourceFields.validateSource

/-- The fields of `OperationBindingV1`. -/
structure OperationBindingFields where
  literals : SortedObject
  source : Option BindingSource

def OperationBindingFields.fields : Fields OperationBindingFields :=
  (Fields.and (.required "literals" SortedObject.codec) (.optional "source" BindingSource.codec)
    (by decide)).iso
    (fun (a, b) => ⟨a, b⟩) (fun b => (b.literals, b.source)) (fun _ => rfl)

/-- `_validate_binding` -/
def OperationBindingFields.validateBinding (self : OperationBindingFields) :
    Except ValueError Unit := do
  if maxLiteralFields < self.literals.members.length then
    throw ⟨"operation binding contains too many literal fields"⟩
  self.literals.members.forM (fun (key, value) => do
    if utf8Within 1 240 key = false then
      throw ⟨"literal input field must contain 1..240 UTF-8 bytes"⟩
    if maxLiteralBytes < (← canonicalJsonBytes value).length then
      throw ⟨"operation literal exceeds its canonical byte limit"⟩)
  if maxLiteralsBytes < (← canonicalJsonBytes (.obj self.literals.members)).length then
    throw ⟨"operation literals exceed their canonical byte limit"⟩
  if self.source.any (fun source => source.1.mappings.1.any (fun mapping =>
      decide (mapping.inputField.1 ∈ self.literals.members.map Prod.fst))) then
    throw ⟨"source mappings cannot overlap literal input fields"⟩

/-- `OperationBindingV1` -/
abbrev OperationBinding := {b : OperationBindingFields // b.validateBinding = .ok ()}

/-- The dump is `canonical_projection`. -/
def OperationBinding.codec : Codec OperationBinding :=
  (Codec.object OperationBindingFields.fields).validated OperationBindingFields.validateBinding

/-! ## Records -/

/-- The one compatibility list that a valid record has. -/
def noCompatibility : Codec Unit where
  decode v :=
    match v with
    | .seq _ [] => .ok ()
    | _ => .error ⟨"dataset and literal bindings require empty compatibility"⟩
  encode _ := .list []
  decode_encode _ := rfl
  decode_sorted v _ := by
    cases v with
    | seq kind xs => cases xs <;> rfl
    | _ => rfl
  distinct_encode _ := by simp

/-- The fields of `OperationRecordV1` that have more than one value. -/
structure OperationRecordFields where
  protocolVersion : ProtocolVersion
  component : ComponentRef
  operationHash : Sha256Text
  manifestSha256 : Sha256Text
  members : Bounded OperationMember 2 130
  runner : RunnerIdentity
  renderers : Bounded RunnerIdentity 0 128
  binding : OperationBinding

def OperationRecordFields.fields : Fields OperationRecordFields :=
  (Fields.and (.required "host_schema_version"
    (.literalInt 1 "record version must be the integer 1"))
    (.and (.required "record_kind" (.literal "operation"))
    (.and (.required "host_binding_version"
      (.literalInt 1 "record version must be the integer 1"))
    (.and (.required "execution_mode" (.literal "unmanaged"))
    (.and (.required "protocol_version" ProtocolVersion.codec)
    (.and (.required "component" ComponentRef.codec)
    (.and (.required "operation_hash" Sha256Text.codec)
    (.and (.required "manifest_sha256" Sha256Text.codec)
    (.and (.required "members" (Bounded.codec OperationMember.codec 2 130))
    (.and (.required "runner" RunnerIdentity.codec)
    (.and (.required "renderers" (Bounded.codec RunnerIdentity.codec 0 128))
    (.and (.required "binding" OperationBinding.codec)
      (.required "compatibility" noCompatibility)
    (by decide)) (by decide)) (by decide)) (by decide)) (by decide)) (by decide)) (by decide))
    (by decide)) (by decide)) (by decide)) (by decide)) (by decide)).iso
    (fun (_, _, _, _, a, b, c, d, e, f, g, h, _) => ⟨a, b, c, d, e, f, g, h⟩)
    (fun r => ((), (), (), (), r.protocolVersion, r.component, r.operationHash, r.manifestSha256,
      r.members, r.runner, r.renderers, r.binding, ()))
    (fun _ => rfl)

/-- The canonical order of renderer identities. -/
def rendererKey (renderer : RunnerIdentity) : Bytes ×ₗ Bytes :=
  toLex (utf8Raw renderer.name.1, utf8Raw renderer.version.1)

/-- `_validate_record` -/
def OperationRecordFields.validateRecord (self : OperationRecordFields) :
    Except ValueError Unit := do
  let kinds := self.members.1.map (fun m => m.kind)
  if kinds.count .normalizedInput ≠ 1 ∨ kinds.count .result ≠ 1 then
    throw ⟨"operation record requires exactly one input and result member"⟩
  if maxOperationArtifacts < kinds.count .artifact then
    throw ⟨"operation record contains too many artifacts"⟩
  if distinctMembers (self.members.1.map (fun m => m.path.1)) = false then
    throw ⟨"operation member paths must be unique"⟩
  if self.members.1 ≠ sortBy memberKey self.members.1 then
    throw ⟨"operation members are not canonically ordered"⟩
  if ¬ (self.renderers.1.map (fun r => (r.name, r.version))).Nodup then
    throw ⟨"operation renderer identities must be unique"⟩
  if self.renderers.1 ≠ sortBy rendererKey self.renderers.1 then
    throw ⟨"operation renderer identities are not canonically ordered"⟩
  if utf8Within 1 240 self.component.id.1 = false then
    throw ⟨"component ID must contain 1..240 UTF-8 bytes"⟩
  validateSemver self.component.version.1
  validateSemver self.runner.version.1
  self.renderers.1.forM (fun renderer => validateSemver renderer.version.1)
  if self.binding.1.source.any (fun source => source.1.kind = .operation) then
    throw ⟨"operation-source bindings require protocol 0.5.0"⟩

/-- `OperationRecordV1` -/
abbrev OperationRecord := {r : OperationRecordFields // r.validateRecord = .ok ()}

/-- The dump is `canonical_projection`. -/
def OperationRecord.codec : Codec OperationRecord :=
  (Codec.object OperationRecordFields.fields).validated OperationRecordFields.validateRecord

/-- `OperationRecordV1.digest` -/
def OperationRecord.digest (record : OperationRecord) : Except ValueError Text :=
  canonicalHash (OperationRecord.codec.encode record) operationRecordHashDomain

/-- `OperationRecordV1.reference` -/
def OperationRecord.reference (record : OperationRecord) : Except ValueError Text := do
  return makeReference .operation (← record.digest)

end DataRecords
