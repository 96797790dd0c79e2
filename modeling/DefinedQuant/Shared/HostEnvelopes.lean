import DefinedQuant.Lib.Json.Size
import DefinedQuant.Protocol.Ports
import DefinedQuant.Shared.DataRecords.Documents
import DefinedQuant.Shared.HostFailures

/-!
# Host envelopes

The two closed envelopes of every host response. A failure carries a code and details that satisfy
the schema of that code; message, outcome and retry policy are fixed by the code, and the wording of
a trust notice by its label. A `HostFailure` with other details cannot be built.
-/

namespace HostFailures

open Json Protocol DataRecords

/-! ## Fixed presentation -/

/-- `HostOutcome` -/
inductive HostOutcome where
  | needsInformation
  | refused
  | failed
  deriving DecidableEq

def HostOutcome.value : HostOutcome → String
  | .needsInformation => "needs_information"
  | .refused => "refused"
  | .failed => "failed"

/-- `TrustLabel` -/
inductive TrustLabel where
  | contractMetadataOnly
  | installedSubjectInspected
  | unverifiedCallerData
  | structuralCompatibilityOnly
  | unmanagedExecution
  | noVerifiedResult
  deriving DecidableEq

def TrustLabel.value : TrustLabel → String
  | .contractMetadataOnly => "contract_metadata_only"
  | .installedSubjectInspected => "installed_subject_inspected"
  | .unverifiedCallerData => "unverified_caller_data"
  | .structuralCompatibilityOnly => "structural_compatibility_only"
  | .unmanagedExecution => "unmanaged_execution"
  | .noVerifiedResult => "no_verified_result"

/-- `_TRUST_STATEMENTS` -/
def TrustLabel.statement : TrustLabel → String
  | .contractMetadataOnly =>
      "Contract-only catalog metadata; no component was imported or executed."
  | .installedSubjectInspected =>
      "Installed component identity and schema were inspected; no calculation was executed."
  | .unverifiedCallerData => "Registered caller-supplied data is unverified and unauthenticated."
  | .structuralCompatibilityOnly =>
      "Semantic-port compatibility is structural only; it neither transfers data nor authorizes execution."
  | .unmanagedExecution =>
      "Unsigned host-reconciled record for an unmanaged local operation; digests bind its request, selected subject, result, and declared artifact bytes. Data authenticity, financial approval, correctness, and independent execution are not attested."
  | .noVerifiedResult => "No dataset, component result, or digest-checked artifact was returned."

/-- `HostFailureSpec` -/
structure HostFailureSpec where
  outcome : HostOutcome
  message : String
  retryAllowed : Bool

/-- `HOST_FAILURE_SPECS` -/
def HostFailureCode.spec : HostFailureCode → HostFailureSpec
  | .invalidToolRequest => ⟨.refused, "The request does not satisfy the closed tool schema.", false⟩
  | .unsupportedHostSchema => ⟨.refused,
      "The requested host schema version is not supported.", false⟩
  | .unsupportedProtocolVersion => ⟨.refused,
      "The requested Defined Quant protocol version is not supported.", false⟩
  | .unsupportedReferenceVersion => ⟨.refused,
      "The requested content-addressed reference version is not supported.", false⟩
  | .componentNotFound => ⟨.failed,
      "The requested component is not available in the active catalog.", false⟩
  | .componentIdentityMismatch => ⟨.refused,
      "The requested component ID, version, or subject hash does not match the verified installed identity.", false⟩
  | .missingConvention => ⟨.needsInformation,
      "An answer-changing financial convention must be supplied explicitly.", false⟩
  | .incompatiblePorts => ⟨.refused,
      "The selected output and input semantic ports are not compatible.", false⟩
  | .unsupportedBinding => ⟨.refused,
      "The requested data binding form is not supported by this host version.", false⟩
  | .multipleNonLiteralSources => ⟨.refused,
      "An operation may use at most one non-literal source record.", false⟩
  | .invalidDataset => ⟨.refused,
      "The supplied data does not satisfy the closed dataset contract.", false⟩
  | .unsupportedDataFormat => ⟨.refused, "The supplied data format is not supported.", false⟩
  | .inputRootDenied => ⟨.refused,
      "Local file access is not permitted by the configured input roots.", false⟩
  | .unsafeInputPath => ⟨.refused,
      "The local input path failed closed path and file-type checks.", false⟩
  | .inputLimitExceeded => ⟨.refused,
      "The request or dataset exceeds a configured byte or count limit.", false⟩
  | .invalidFieldMapping => ⟨.refused,
      "The requested source-to-input field mapping is invalid.", false⟩
  | .referenceNotFound => ⟨.failed,
      "The requested immutable reference does not exist in the active session.", false⟩
  | .referenceScopeDenied => ⟨.refused,
      "The requested immutable reference is not available to the active session scope.", false⟩
  | .recordCorrupt => ⟨.failed,
      "The immutable stored record failed schema or digest verification and was refused.", false⟩
  | .cacheFull => ⟨.failed,
      "The session storage quota cannot accept another immutable record.", true⟩
  | .recordPublicationFailed => ⟨.failed,
      "The immutable host record could not be published safely.", true⟩
  | .workerTimeout => ⟨.failed, "The bounded worker exceeded its wall-clock execution limit.", true⟩
  | .workerCancelled => ⟨.failed,
      "The bounded worker operation was cancelled and its process tree was terminated.", true⟩
  | .workerCrashed => ⟨.failed, "The bounded worker exited without a valid typed response.", true⟩
  | .workerCapacity => ⟨.failed,
      "The bounded worker concurrency limit is currently occupied.", true⟩
  | .workerResourceLimit => ⟨.failed,
      "The bounded worker exceeded its configured memory or captured-output resource limit.", false⟩
  | .componentRefused => ⟨.refused,
      "The component refused the requested calculation within its declared scope.", false⟩
  | .componentFailed => ⟨.failed,
      "The component failed outside its supported refusal protocol.", false⟩
  | .invalidComponentInput => ⟨.refused,
      "The resolved input does not satisfy the component's canonical input model.", false⟩
  | .outputValidationFailed => ⟨.failed,
      "The component output failed its canonical output model or identity checks.", false⟩
  | .componentContractError => ⟨.failed,
      "The installed component or its declarative contract failed integrity checks.", false⟩
  | .artifactPublicationFailed => ⟨.failed,
      "The operation output or declared artifact could not be published safely.", false⟩
  | .resultLimitExceeded => ⟨.refused,
      "The requested response, page, operation output, or artifact exceeds a configured limit.",
      false⟩
  | .artifactNotFound => ⟨.failed,
      "The requested artifact is not declared by the validated operation manifest.", false⟩
  | .internalFailure => ⟨.failed,
      "The host failed internally without a safe domain-specific outcome.", false⟩

/-- `HOST_SUCCESS_TEXT` -/
def hostSuccessText : String := "Defined Quant host outcome: ok; use structuredContent."

/-! ## Schemas of the details -/

/-- `_INPUT_LIMIT_NAMES` -/
def inputLimitNames : List String :=
  ["tool_arguments_bytes", "inline_json_source_bytes", "local_file_bytes",
    "normalized_dataset_payload_bytes", "worker_request_bytes", "dataset_rows", "dataset_columns",
    "decoded_cell_bytes"]

/-- `_RESULT_LIMIT_NAMES` -/
def resultLimitNames : List String :=
  ["search_response_bytes", "structured_tool_response_bytes", "dataset_preview_page_bytes",
    "result_page_bytes", "message_page_bytes", "artifact_decoded_bytes",
    "resource_response_frame_bytes", "normalized_result_member_bytes", "result_top_level_fields",
    "operation_artifacts", "operation_bundle_bytes", "worker_control_response_bytes"]

/-- `_field_name` -/
def isFieldName : Value → Bool
  | .str t => utf8Within 1 240 t
  | _ => false

/-- `_component_id` -/
def isComponentIdValue : Value → Bool
  | .str t => 1 ≤ t.length && t.length ≤ 240 && isComponentId t
  | _ => false

/-- `_safe_id` -/
def isSafeIdValue : Value → Bool
  | .str t => isSafeId t
  | _ => false

/-- `_safe_integer` -/
def isSafeInteger (minimum : ℤ) : Value → Bool
  | .int n => minimum ≤ n && n ≤ maxSafeInteger
  | _ => false

/-- `_exact_keys` -/
def exactKeys (details : Members) (required optional : List String) : Bool :=
  required.all (fun key => (Value.get? (py key) details).isSome) &&
    details.all (fun p => (required ++ optional).any (fun key => p.1 = py key))

/-- `_string_array`, of a field that is there -/
def isStringArray (predicate : Value → Bool) (maximum : ℕ) : Value → Bool
  | .seq _ xs => xs.length ≤ maximum && xs.all predicate
  | _ => false

/-- A text of at most 128 octets. -/
def isShortText : Value → Bool
  | .str t => utf8Within 0 128 t
  | _ => false

/-- `^v[0-9]{1,3}$` -/
def isReferenceVersion : Value → Bool
  | .str (c :: token) => c = 0x76 && isVersionToken token
  | _ => false

/-- At most eight valid differences. -/
def isDifferences : Value → Bool
  | .seq _ xs => xs.length ≤ 8 && xs.all (fun x => (PortDifference.codec.decode x).isOk)
  | .str t => t.isEmpty
  | _ => false

/-- One of the names of a limit. -/
def isLimitName (names : List String) : Value → Bool
  | .str t => names.any (fun name => t = py name)
  | _ => false

/-- The one field of the details, under a test. -/
def exactField (details : Members) (key : String) (p : Value → Bool) : Bool :=
  exactKeys details [key] [] && (Value.get? (py key) details).any p

/-- The three fields of a limit failure. -/
def exactLimit (details : Members) (names : List String) : Bool :=
  exactKeys details ["limit_name", "maximum", "actual"] [] &&
    (Value.get? (py "limit_name") details).any (isLimitName names) &&
    (Value.get? (py "maximum") details).any (isSafeInteger 0) &&
    (Value.get? (py "actual") details).any (isSafeInteger 0)

/-- The test that `_validate_failure_details` makes. -/
def validDetails (code : HostFailureCode) (details : Members) : Bool :=
  match code with
  | .unsupportedBinding | .multipleNonLiteralSources | .unsupportedDataFormat | .inputRootDenied
  | .unsafeInputPath | .referenceNotFound | .referenceScopeDenied | .recordCorrupt | .cacheFull
  | .recordPublicationFailed | .workerTimeout | .workerCancelled | .workerCrashed
  | .workerCapacity | .workerResourceLimit | .artifactPublicationFailed | .internalFailure =>
      details.isEmpty
  | .invalidToolRequest | .missingConvention | .invalidFieldMapping | .invalidComponentInput =>
      exactField details "fields" (isStringArray isFieldName 32)
  | .unsupportedHostSchema =>
      exactField details "requested_version" (isSafeInteger (-maxSafeInteger))
  | .unsupportedProtocolVersion => exactField details "requested_version" isShortText
  | .unsupportedReferenceVersion => exactField details "requested_version" isReferenceVersion
  | .componentNotFound | .componentIdentityMismatch | .componentRefused | .componentFailed
  | .outputValidationFailed => exactField details "component_id" isComponentIdValue
  | .componentContractError =>
      exactKeys details [] ["component_id"] &&
        (Value.get? (py "component_id") details).all isComponentIdValue
  | .invalidDataset => exactField details "finding_codes" (isStringArray isSafeIdValue 32)
  | .inputLimitExceeded => exactLimit details inputLimitNames
  | .resultLimitExceeded => exactLimit details resultLimitNames
  | .artifactNotFound => exactField details "artifact_id" isSafeIdValue
  | .incompatiblePorts => exactField details "differences" isDifferences

/-- `_validate_failure_details` -/
def validateFailureDetails (code : HostFailureCode) (details : Members) : Except ValueError Unit :=
  if validDetails code details then .ok ()
  else .error ⟨"details do not satisfy the closed schema for " ++ code.value⟩

/-! ## Envelopes -/

/-- The dump of `Trust`, as `trust_notice` builds it. -/
def trustNotice (label : TrustLabel) : Value :=
  .obj [(py "label", .lit label.value), (py "statement", .lit label.statement)]

/-- `HostSuccess` -/
structure HostSuccess where
  data : Members
  trust : TrustLabel

/-- The dump of a `HostSuccess`. -/
def HostSuccess.dump (success : HostSuccess) : Value :=
  .obj [(py "host_schema_version", .int 1), (py "outcome", .lit "ok"),
    (py "data", .obj success.data), (py "trust", trustNotice success.trust)]

/-- `host_success` -/
def hostSuccess (data : Members) (trust : TrustLabel) : HostSuccess := ⟨data, trust⟩

/-- `HostFailure`, with its `HostError` -/
structure HostFailure where
  code : HostFailureCode
  details : Members
  trust : TrustLabel
  valid : validateFailureDetails code details = .ok ()

/-- The dump of a `HostFailure`. -/
def HostFailure.dump (failure : HostFailure) : Value :=
  .obj [(py "host_schema_version", .int 1), (py "outcome", .lit failure.code.spec.outcome.value),
    (py "error", .obj [(py "code", .lit failure.code.value),
      (py "message", .lit failure.code.spec.message),
      (py "retry_allowed", .bool failure.code.spec.retryAllowed),
      (py "details", .obj failure.details)]),
    (py "trust", trustNotice failure.trust)]

/-- `host_failure` -/
def hostFailure (code : HostFailureCode) (details : Members) (trust : TrustLabel) :
    Except ValueError HostFailure :=
  match h : validateFailureDetails code details with
  | .ok () => .ok ⟨code, details, trust, h⟩
  | .error e => .error e

/-- The failure that is always at hand. -/
def internalFailure (trust : TrustLabel) : HostFailure := ⟨.internalFailure, [], trust, rfl⟩

/-- `tool_success_result_projection` -/
def toolSuccessResultProjection (data : Members) (trust : TrustLabel) : Value :=
  .obj [(py "content", .list [.obj [(py "type", .lit "text"), (py "text", .lit hostSuccessText)]]),
    (py "structuredContent", (hostSuccess data trust).dump), (py "isError", .bool false)]

/-! ## What fits a schema -/

theorem hostFailure_eq_ok {code : HostFailureCode} {details : Members} {trust : TrustLabel}
    (h : validDetails code details = true) :
    ∃ hValid, hostFailure code details trust = .ok ⟨code, details, trust, hValid⟩ := by
  have hValid : validateFailureDetails code details = .ok () := if_pos h
  refine ⟨hValid, ?_⟩
  unfold hostFailure
  split
  · rfl
  · next e hError =>
      rw [hValid] at hError
      cases hError

/-- The details of a failure fit their schema. -/
theorem HostFailure.validDetails_eq (f : HostFailure) : validDetails f.code f.details = true := by
  by_contra hInvalid
  have hOk := f.valid
  rw [validateFailureDetails, if_neg hInvalid] at hOk
  cases hOk

end HostFailures
