import DefinedQuant.Protocol.Canonical
import DefinedQuant.Protocol.Patterns

/-!
# Models of one unmanaged component operation

The closed protocol models, each as a structure whose fields are already valid, with the codec that
its fields determine: `codec.decode` is `model_validate` and `codec.encode` is
`model_dump(mode="json")`. Fields that hold arbitrary JSON keep it in sorted form.

Members are spelled as the source spells its fields; the codec carries the source's names.
-/

namespace Protocol

open Json Canonical

/-! ## Versions -/

/-- `ProtocolVersion` -/
inductive ProtocolVersion where
  | v010
  | v020
  | v030
  | v040
  deriving DecidableEq

/-- `SUPPORTED_PROTOCOL_VERSIONS` -/
def supportedProtocolVersions : List ProtocolVersion := [.v010, .v020, .v030, .v040]

def ProtocolVersion.value : ProtocolVersion → String
  | .v010 => "0.1.0"
  | .v020 => "0.2.0"
  | .v030 => "0.3.0"
  | .v040 => "0.4.0"

def ProtocolVersion.codec : Codec ProtocolVersion :=
  .enum supportedProtocolVersions value
    (by intro a; cases a <;> simp [value, supportedProtocolVersions])

/-- `PROTOCOL_VERSION` -/
def protocolVersion : ProtocolVersion := .v040

/-! ## Digests -/

/-- Every hexadecimal digest is one that the models accept. -/
theorem isSha256_sha256Hex (content : Bytes) : isSha256 (sha256Hex content) = true := by
  rw [isSha256, Bool.and_eq_true, beq_iff_eq, List.all_eq_true]
  refine ⟨sha256Hex_length content, fun c hc => ?_⟩
  rw [Bool.or_eq_true, CodePoint.isDigit, Bool.and_eq_true, Bool.and_eq_true, decide_eq_true_iff,
    decide_eq_true_iff, decide_eq_true_iff, decide_eq_true_iff]
  exact Bytes.isHexDigit_of_mem_hex hc

/-- `hashlib.sha256(content).hexdigest()` as a field value. -/
def digestOf (content : Bytes) : Sha256Text := ⟨sha256Hex content, isSha256_sha256Hex content⟩

/-! ## Provenance -/

/-- `SourceKind` -/
inductive SourceKind where
  | userPrompt
  | userAttachment
  | externalProvider
  | synthetic
  deriving DecidableEq

def SourceKind.value : SourceKind → String
  | .userPrompt => "user_prompt"
  | .userAttachment => "user_attachment"
  | .externalProvider => "external_provider"
  | .synthetic => "synthetic"

def SourceKind.codec : Codec SourceKind :=
  .enum [.userPrompt, .userAttachment, .externalProvider, .synthetic] value
    (by intro a; cases a <;> simp [value])

/-- `InterpretationMethod` -/
inductive InterpretationMethod where
  | aiInterpreted
  | callerStructured
  | adapterNormalized
  deriving DecidableEq

def InterpretationMethod.value : InterpretationMethod → String
  | .aiInterpreted => "ai_interpreted"
  | .callerStructured => "caller_structured"
  | .adapterNormalized => "adapter_normalized"

def InterpretationMethod.codec : Codec InterpretationMethod :=
  .enum [.aiInterpreted, .callerStructured, .adapterNormalized] value
    (by intro a; cases a <;> simp [value])

/-- `ProvenanceStatus` -/
inductive ProvenanceStatus where
  | unverified
  | callerConfirmed
  deriving DecidableEq

def ProvenanceStatus.value : ProvenanceStatus → String
  | .unverified => "unverified"
  | .callerConfirmed => "caller_confirmed"

def ProvenanceStatus.codec : Codec ProvenanceStatus :=
  .enum [.unverified, .callerConfirmed] value (by intro a; cases a <;> simp [value])

/-- A digest field that may be `None`. -/
def optionalSha256 : Codec (Option Sha256Text) := Sha256Text.codec.nullable (fun _ => rfl)

/-- `CallerProvenance` -/
structure CallerProvenance where
  sourceKind : SourceKind
  interpretationMethod : InterpretationMethod
  verificationStatus : ProvenanceStatus
  label : Chars 1 240
  references : Bounded (Chars 1 500) 0 50
  contentSha256 : Option Sha256Text
  assumptions : Bounded (Chars 1 500) 0 50
  deriving DecidableEq

theorem lengthWithin_noReferences : lengthWithin 0 50 ([] : List (Chars 1 500)) = .ok () := rfl

def CallerProvenance.fields : Fields CallerProvenance :=
  (Fields.and (.required "source_kind" SourceKind.codec)
    (.and (.required "interpretation_method" InterpretationMethod.codec)
    (.and (.defaulted "verification_status" ProvenanceStatus.codec .unverified)
    (.and (.required "label" (Chars.codec 1 240))
    (.and (.defaulted "references" (Bounded.codec (Chars.codec 1 500) 0 50)
      ⟨[], lengthWithin_noReferences⟩)
    (.and (.defaulted "content_sha256" optionalSha256 none)
      (.defaulted "assumptions" (Bounded.codec (Chars.codec 1 500) 0 50)
        ⟨[], lengthWithin_noReferences⟩)
    (by decide)) (by decide)) (by decide)) (by decide)) (by decide)) (by decide)).iso
    (fun (a, b, c, d, e, f, g) => ⟨a, b, c, d, e, f, g⟩)
    (fun p => (p.sourceKind, p.interpretationMethod, p.verificationStatus, p.label, p.references,
      p.contentSha256, p.assumptions))
    (fun _ => rfl)

def CallerProvenance.codec : Codec CallerProvenance := .object fields

/-! ## Requests -/

/-- `ComponentRef` -/
structure ComponentRef where
  id : ComponentId
  version : Semver
  subjectHash : Sha256Text
  deriving DecidableEq

def ComponentRef.fields : Fields ComponentRef :=
  (Fields.and (.required "id" ComponentId.codec)
    (.and (.required "version" Semver.codec) (.required "subject_hash" Sha256Text.codec)
    (by decide)) (by decide)).iso
    (fun (a, b, c) => ⟨a, b, c⟩) (fun r => (r.id, r.version, r.subjectHash)) (fun _ => rfl)

def ComponentRef.codec : Codec ComponentRef := .object fields

/-- `SvgArtifactRequest`: every field has one value. -/
structure SvgArtifactRequest where
  deriving DecidableEq

def SvgArtifactRequest.fields : Fields SvgArtifactRequest :=
  (Fields.and (.defaulted "kind" (.literal "svg") ())
    (.defaulted "selection" (.literal "all") ()) (by decide)).iso
    (fun _ => ⟨⟩) (fun _ => ((), ())) (fun _ => rfl)

def SvgArtifactRequest.codec : Codec SvgArtifactRequest := .object fields

/-- The fields of `OperationRequest`. -/
structure OperationRequestFields where
  component : ComponentRef
  input : SortedObject
  provenance : CallerProvenance
  artifacts : Option SvgArtifactRequest

def OperationRequestFields.fields : Fields OperationRequestFields :=
  (Fields.and (.defaulted "schema_version" (.literalInt 1 "Input should be 1") ())
    (.and (.required "component" ComponentRef.codec)
    (.and (.required "input" SortedObject.codec)
    (.and (.required "provenance" CallerProvenance.codec)
      (.defaulted "artifacts" (SvgArtifactRequest.codec.nullable (fun _ => rfl)) none)
    (by decide)) (by decide)) (by decide)) (by decide)).iso
    (fun (_, a, b, c, d) => ⟨a, b, c, d⟩)
    (fun r => ((), r.component, r.input, r.provenance, r.artifacts)) (fun _ => rfl)

/-- `validate_canonical_input` -/
def OperationRequestFields.validateCanonicalInput (self : OperationRequestFields) :
    Except ValueError Unit := do
  let _ ← canonicalJsonBytes (.obj self.input.members)

/-- `OperationRequest` -/
abbrev OperationRequest :=
  {r : OperationRequestFields // r.validateCanonicalInput = .ok ()}

def OperationRequest.codec : Codec OperationRequest :=
  (Codec.object OperationRequestFields.fields).validated
    OperationRequestFields.validateCanonicalInput

/-- `_OPERATION_HASH_DOMAIN` -/
def operationHashDomain : Text := py "operation.request.v1"

/-- `OperationRequest.operation_hash` -/
def operationHash (request : OperationRequest) : Except ValueError Text :=
  canonicalHash (OperationRequest.codec.encode request) operationHashDomain

/-! ## Manifests -/

/-- `RunnerIdentity` -/
structure RunnerIdentity where
  name : SafeId
  version : Semver
  deriving DecidableEq

def RunnerIdentity.fields : Fields RunnerIdentity :=
  (Fields.and (.required "name" SafeId.codec) (.required "version" Semver.codec) (by decide)).iso
    (fun (a, b) => ⟨a, b⟩) (fun r => (r.name, r.version)) (fun _ => rfl)

def RunnerIdentity.codec : Codec RunnerIdentity := .object fields

/-- `FileDigest` -/
structure FileDigest where
  path : RelativeMemberPath
  sha256 : Sha256Text
  deriving DecidableEq

def FileDigest.fields : Fields FileDigest :=
  (Fields.and (.required "path" RelativeMemberPath.codec) (.required "sha256" Sha256Text.codec)
    (by decide)).iso
    (fun (a, b) => ⟨a, b⟩) (fun d => (d.path, d.sha256)) (fun _ => rfl)

def FileDigest.codec : Codec FileDigest := .object fields

/-- `SvgArtifact`; its kind and media type have one value each. -/
structure SvgArtifact where
  path : RelativeMemberPath
  visualizationId : SafeId
  title : Chars 1 160
  altText : Chars 1 500
  visualizationHash : Sha256Text
  sha256 : Sha256Text
  renderer : SafeId
  rendererVersion : Semver
  deriving DecidableEq

def SvgArtifact.fields : Fields SvgArtifact :=
  (Fields.and (.defaulted "kind" (.literal "svg") ())
    (.and (.defaulted "media_type" (.literal "image/svg+xml") ())
    (.and (.required "path" RelativeMemberPath.codec)
    (.and (.required "visualization_id" SafeId.codec)
    (.and (.required "title" (Chars.codec 1 160))
    (.and (.required "alt_text" (Chars.codec 1 500))
    (.and (.required "visualization_hash" Sha256Text.codec)
    (.and (.required "sha256" Sha256Text.codec)
    (.and (.required "renderer" SafeId.codec) (.required "renderer_version" Semver.codec)
    (by decide)) (by decide)) (by decide)) (by decide)) (by decide)) (by decide)) (by decide))
    (by decide)) (by decide)).iso
    (fun (_, _, a, b, c, d, e, f, g, h) => ⟨a, b, c, d, e, f, g, h⟩)
    (fun s => ((), (), s.path, s.visualizationId, s.title, s.altText, s.visualizationHash, s.sha256,
      s.renderer, s.rendererVersion))
    (fun _ => rfl)

def SvgArtifact.codec : Codec SvgArtifact := .object fields

/-- The fields of `OperationManifest`. -/
structure OperationManifestFields where
  protocolVersion : ProtocolVersion
  operationHash : Sha256Text
  request : OperationRequest
  component : ComponentRef
  runner : RunnerIdentity
  input : FileDigest
  result : FileDigest
  artifacts : List SvgArtifact

def OperationManifestFields.fields : Fields OperationManifestFields :=
  (Fields.and (.defaulted "schema_version" (.literalInt 1 "Input should be 1") ())
    (.and (.defaulted "protocol_version" ProtocolVersion.codec Protocol.protocolVersion)
    (.and (.defaulted "canonicalization_id" (.literal "dq-tagged-json-v1") ())
    (.and (.defaulted "execution_mode" (.literal "unmanaged") ())
    (.and (.required "operation_hash" Sha256Text.codec)
    (.and (.required "request" OperationRequest.codec)
    (.and (.required "component" ComponentRef.codec)
    (.and (.required "runner" RunnerIdentity.codec)
    (.and (.required "input" FileDigest.codec)
    (.and (.required "result" FileDigest.codec)
      (.defaulted "artifacts" SvgArtifact.codec.array [])
    (by decide)) (by decide)) (by decide)) (by decide)) (by decide)) (by decide)) (by decide))
    (by decide)) (by decide)) (by decide)).iso
    (fun (_, a, _, _, b, c, d, e, f, g, h) => ⟨a, b, c, d, e, f, g, h⟩)
    (fun m => ((), m.protocolVersion, (), (), m.operationHash, m.request, m.component, m.runner,
      m.input, m.result, m.artifacts))
    (fun _ => rfl)

/-- The paths of every member but the manifest, in the manifest's order. -/
def OperationManifestFields.paths (self : OperationManifestFields) : List Text :=
  self.input.path.1 :: self.result.path.1 :: self.artifacts.map (fun a => a.path.1)

/-- `validate_bindings`; the two constants it compares first are literals of the model. -/
def OperationManifestFields.validateBindings (self : OperationManifestFields) :
    Except ValueError Unit := do
  if (← Protocol.operationHash self.request) ≠ self.operationHash.1 then
    throw ⟨"manifest operation_hash does not bind its request"⟩
  if self.component ≠ self.request.1.component then
    throw ⟨"manifest component does not match its request"⟩
  if distinctMembers self.paths = false then
    throw ⟨"manifest member paths must be unique"⟩
  if ¬ (self.artifacts.map (fun a => a.visualizationId)).Nodup then
    throw ⟨"manifest artifact visualization IDs must be unique"⟩
  if self.request.1.artifacts = none ∧ self.artifacts ≠ [] then
    throw ⟨"manifest contains artifacts that were not requested"⟩

/-- `OperationManifest` -/
abbrev OperationManifest := {m : OperationManifestFields // m.validateBindings = .ok ()}

def OperationManifest.codec : Codec OperationManifest :=
  (Codec.object OperationManifestFields.fields).validated OperationManifestFields.validateBindings

end Protocol
