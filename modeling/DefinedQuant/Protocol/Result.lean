import DefinedQuant.Lib.Except
import DefinedQuant.Protocol.Operation

/-!
# Results of one operation

A protocol response is a success with the manifest of the operation, or a failure with a closed
error. The two are told apart by their `status`.
-/

namespace Protocol

open Json Canonical

/-- `OperationErrorCode` -/
inductive OperationErrorCode where
  | invalidOperationRequest
  | invalidJson
  | componentNotFound
  | componentIdentityMismatch
  | invalidComponentInput
  | componentRefused
  | componentExecutionFailed
  | outputValidationFailed
  | componentContractError
  | invalidOutputDirectory
  | outputExists
  | artifactWriteFailed
  | operationFailed
  deriving DecidableEq

def OperationErrorCode.value : OperationErrorCode → String
  | .invalidOperationRequest => "invalid_operation_request"
  | .invalidJson => "invalid_json"
  | .componentNotFound => "component_not_found"
  | .componentIdentityMismatch => "component_identity_mismatch"
  | .invalidComponentInput => "invalid_component_input"
  | .componentRefused => "component_refused"
  | .componentExecutionFailed => "component_execution_failed"
  | .outputValidationFailed => "output_validation_failed"
  | .componentContractError => "component_contract_error"
  | .invalidOutputDirectory => "invalid_output_directory"
  | .outputExists => "output_exists"
  | .artifactWriteFailed => "artifact_write_failed"
  | .operationFailed => "operation_failed"

def OperationErrorCode.codec : Codec OperationErrorCode :=
  .enum [.invalidOperationRequest, .invalidJson, .componentNotFound, .componentIdentityMismatch,
    .invalidComponentInput, .componentRefused, .componentExecutionFailed, .outputValidationFailed,
    .componentContractError, .invalidOutputDirectory, .outputExists, .artifactWriteFailed,
    .operationFailed] value (by intro a; cases a <;> simp [value])

/-- The empty dict. -/
def emptyObject : SortedObject := SortedObject.of [] Value.distinct_empty

/-- The fields of `OperationError`. -/
structure OperationErrorFields where
  code : OperationErrorCode
  message : Chars 1 500
  component : Option ComponentRef
  details : SortedObject

def OperationErrorFields.fields : Fields OperationErrorFields :=
  (Fields.and (.required "code" OperationErrorCode.codec)
    (.and (.required "message" (Chars.codec 1 500))
    (.and (.defaulted "component" (ComponentRef.codec.nullable (fun _ => rfl)) none)
      (.defaulted "details" SortedObject.codec emptyObject)
    (by decide)) (by decide)) (by decide)).iso
    (fun (a, b, c, d) => ⟨a, b, c, d⟩) (fun e => (e.code, e.message, e.component, e.details))
    (fun _ => rfl)

/-- `validate_canonical_details` -/
def OperationErrorFields.validateCanonicalDetails (self : OperationErrorFields) :
    Except ValueError Unit := do
  let _ ← canonicalJsonBytes (.obj self.details.members)

/-- `OperationError` -/
abbrev OperationError :=
  {e : OperationErrorFields // e.validateCanonicalDetails = .ok ()}

def OperationError.codec : Codec OperationError :=
  (Codec.object OperationErrorFields.fields).validated
    OperationErrorFields.validateCanonicalDetails

/-- `OperationSuccess` -/
structure OperationSuccess where
  manifest : OperationManifest

def OperationSuccess.fields : Fields OperationSuccess :=
  (Fields.and (.defaulted "schema_version" (.literalInt 1 "Input should be 1") ())
    (.and (.defaulted "status" (.literal "succeeded") ())
      (.required "manifest" OperationManifest.codec) (by decide)) (by decide)).iso
    (fun (_, _, a) => ⟨a⟩) (fun s => ((), (), s.manifest)) (fun _ => rfl)

def OperationSuccess.codec : Codec OperationSuccess := .object fields

/-- `OperationFailure` -/
structure OperationFailure where
  operationHash : Option Sha256Text
  error : OperationError

def OperationFailure.fields : Fields OperationFailure :=
  (Fields.and (.defaulted "schema_version" (.literalInt 1 "Input should be 1") ())
    (.and (.defaulted "status" (.literal "failed") ())
    (.and (.defaulted "operation_hash" optionalSha256 none)
      (.required "error" OperationError.codec)
    (by decide)) (by decide)) (by decide)).iso
    (fun (_, _, a, b) => ⟨a, b⟩) (fun f => ((), (), f.operationHash, f.error)) (fun _ => rfl)

def OperationFailure.codec : Codec OperationFailure := .object fields

/-- `OperationResult` -/
inductive OperationResult where
  | success (success : OperationSuccess)
  | failure (failure : OperationFailure)

/-- The value of the discriminator. -/
def statusOf : Value → Option Value
  | .obj m => Value.get? (py "status") m
  | _ => none

/-- `TypeAdapter(OperationResult).validate_python` -/
def OperationResult.decode (v : Value) : Except ValueError OperationResult :=
  match statusOf v with
  | some (.str status) =>
      if status = py "succeeded" then .success <$> OperationSuccess.codec.decode v
      else if status = py "failed" then .failure <$> OperationFailure.codec.decode v
      else .error ⟨"Input tag does not match any of the expected tags: 'succeeded', 'failed'"⟩
  | _ => .error ⟨"Unable to extract tag using discriminator 'status'"⟩

/-- `model_dump(mode="json")` -/
def OperationResult.encode : OperationResult → Value
  | .success s => OperationSuccess.codec.encode s
  | .failure f => OperationFailure.codec.encode f

theorem OperationResult.decode_encode (r : OperationResult) : decode r.encode = .ok r := by
  cases r with
  | success s =>
      have hDecode := OperationSuccess.codec.decode_encode s
      show OperationResult.success <$> OperationSuccess.codec.decode
        (OperationSuccess.codec.encode s)
        = _
      rw [hDecode]
      rfl
  | failure f =>
      have hDecode := OperationFailure.codec.decode_encode f
      show OperationResult.failure <$> OperationFailure.codec.decode
        (OperationFailure.codec.encode f)
        = _
      rw [hDecode]
      rfl

/-! ## A sample operation -/

/-- `{}`, as the runtime writes it. -/
def sampleInput : Bytes := [0x7B, 0x7D, 0x0A]

/-- `{"value": 1}`, as the runtime writes it. -/
def sampleResult : Bytes :=
  [0x7B, 0x0A, 0x20, 0x20, 0x22, 0x76, 0x61, 0x6C, 0x75, 0x65, 0x22, 0x3A, 0x20, 0x31, 0x0A,
    0x7D, 0x0A]

def sampleComponent : ComponentRef :=
  ⟨⟨py "dq.a.b", isComponentId_sample⟩, ⟨py "1.0.0", isSemver_one⟩, ⟨List.replicate 64 0x30,
    isSha256_zeros⟩⟩

def sampleRunner : RunnerIdentity := ⟨⟨py "r", by decide⟩, ⟨py "1.0.0", isSemver_one⟩⟩

def sampleRequest : OperationRequest :=
  ⟨⟨sampleComponent, SortedObject.of [] Value.distinct_empty,
    ⟨.synthetic, .callerStructured, .unverified, ⟨py "sample", by decide⟩,
    ⟨[], lengthWithin_noReferences⟩, none,
      ⟨[], lengthWithin_noReferences⟩⟩, none⟩, rfl⟩

/-- What the hash of the request is taken of. -/
def hashedRequest : Bytes :=
  (hashPayload (OperationRequest.codec.encode sampleRequest) operationHashDomain).toOption.getD []

theorem operationHash_sampleRequest : Protocol.operationHash sampleRequest =
    .ok (sha256Hex hashedRequest) := by
  have hOk : (hashPayload (OperationRequest.codec.encode sampleRequest) operationHashDomain).isOk =
    true := by
    decide +kernel
  unfold Protocol.operationHash canonicalHash hashedRequest
  cases h : hashPayload (OperationRequest.codec.encode sampleRequest) operationHashDomain with
  | ok payload => rfl
  | error e =>
      rw [h] at hOk
      cases hOk

def inputPath : RelativeMemberPath := ⟨py "input.json", by decide⟩

def resultPath : RelativeMemberPath := ⟨py "result.json", by decide⟩

def sampleManifestFields : OperationManifestFields where
  protocolVersion := Protocol.protocolVersion
  operationHash := digestOf hashedRequest
  request := sampleRequest
  component := sampleComponent
  runner := sampleRunner
  input := ⟨inputPath, digestOf sampleInput⟩
  result := ⟨resultPath, digestOf sampleResult⟩
  artifacts := []

theorem validateBindings_sample : sampleManifestFields.validateBindings = .ok () := by
  unfold OperationManifestFields.validateBindings
  refine Except.bind_eq_ok.2 ⟨_, operationHash_sampleRequest, ?_⟩
  simp only [Except.throwIf_eq_ok]
  exact ⟨not_not.2 rfl, not_not.2 rfl, by decide, not_not.2 List.nodup_nil,
    if_neg (fun h => h.2 rfl)⟩

/-- The manifest of an operation without artifacts. -/
def sampleManifest : OperationManifest := ⟨sampleManifestFields, validateBindings_sample⟩

def sampleSuccess : OperationSuccess := ⟨sampleManifest⟩

end Protocol
