import DefinedQuant.Lib.Json.Value

/-!
# Host failures

The closed failure vocabulary of the host, and `Raised`, the exceptions that cross the boundaries of
the modelled functions. A host failure carries its code and its details; the message and the retry
policy are functions of the code.
-/

namespace HostFailures

open Json

/-- `HostFailureCode` -/
inductive HostFailureCode where
  | invalidToolRequest
  | unsupportedHostSchema
  | unsupportedProtocolVersion
  | unsupportedReferenceVersion
  | componentNotFound
  | componentIdentityMismatch
  | missingConvention
  | incompatiblePorts
  | unsupportedBinding
  | multipleNonLiteralSources
  | invalidDataset
  | unsupportedDataFormat
  | inputRootDenied
  | unsafeInputPath
  | inputLimitExceeded
  | invalidFieldMapping
  | referenceNotFound
  | referenceScopeDenied
  | recordCorrupt
  | cacheFull
  | recordPublicationFailed
  | workerTimeout
  | workerCancelled
  | workerCrashed
  | workerCapacity
  | workerResourceLimit
  | componentRefused
  | componentFailed
  | invalidComponentInput
  | outputValidationFailed
  | componentContractError
  | artifactPublicationFailed
  | resultLimitExceeded
  | artifactNotFound
  | internalFailure
  deriving DecidableEq

def HostFailureCode.value : HostFailureCode → String
  | .invalidToolRequest => "invalid_tool_request"
  | .unsupportedHostSchema => "unsupported_host_schema"
  | .unsupportedProtocolVersion => "unsupported_protocol_version"
  | .unsupportedReferenceVersion => "unsupported_reference_version"
  | .componentNotFound => "component_not_found"
  | .componentIdentityMismatch => "component_identity_mismatch"
  | .missingConvention => "missing_convention"
  | .incompatiblePorts => "incompatible_ports"
  | .unsupportedBinding => "unsupported_binding"
  | .multipleNonLiteralSources => "multiple_non_literal_sources"
  | .invalidDataset => "invalid_dataset"
  | .unsupportedDataFormat => "unsupported_data_format"
  | .inputRootDenied => "input_root_denied"
  | .unsafeInputPath => "unsafe_input_path"
  | .inputLimitExceeded => "input_limit_exceeded"
  | .invalidFieldMapping => "invalid_field_mapping"
  | .referenceNotFound => "reference_not_found"
  | .referenceScopeDenied => "reference_scope_denied"
  | .recordCorrupt => "record_corrupt"
  | .cacheFull => "cache_full"
  | .recordPublicationFailed => "record_publication_failed"
  | .workerTimeout => "worker_timeout"
  | .workerCancelled => "worker_cancelled"
  | .workerCrashed => "worker_crashed"
  | .workerCapacity => "worker_capacity"
  | .workerResourceLimit => "worker_resource_limit"
  | .componentRefused => "component_refused"
  | .componentFailed => "component_failed"
  | .invalidComponentInput => "invalid_component_input"
  | .outputValidationFailed => "output_validation_failed"
  | .componentContractError => "component_contract_error"
  | .artifactPublicationFailed => "artifact_publication_failed"
  | .resultLimitExceeded => "result_limit_exceeded"
  | .artifactNotFound => "artifact_not_found"
  | .internalFailure => "internal_failure"

/-- `SecureFilesystemErrorCode` -/
inductive SecureFilesystemErrorCode where
  | capabilityUnavailable
  | accessDenied
  | unsafePath
  | notRegularFile
  | byteLimitExceeded
  | fileChanged
  | notPrivate
  | alreadyExists
  | lockUnavailable
  | publicationFailed
  | removeFailed
  deriving DecidableEq

/-- An exception: `HostFailureException`, `SecureFilesystemError`, `ValueError` with its subclasses,
`OSError`, or `RecursionError`. -/
inductive Raised where
  | host (code : HostFailureCode) (details : Members)
  | filesystem (code : SecureFilesystemErrorCode) (actual : Option ℕ)
  | value (error : ValueError)
  | os
  | recursion

/-- `isinstance(exc, HostFailureException)` -/
def Raised.IsHost : Raised → Prop
  | .host _ _ => True
  | _ => False

/-- `_fail` without details -/
def failure (code : HostFailureCode) : Raised := .host code []

/-- `_fail(INVALID_TOOL_REQUEST, details={"fields": fields})` -/
def invalidRequest (fields : List String) : Raised :=
  .host .invalidToolRequest [(py "fields", .list (fields.map Value.lit))]

/-- A limit failure, under either of the two limit codes. -/
def limitFailure (code : HostFailureCode) (name : String) (maximum actual : ℕ) : Raised :=
  .host code [(py "limit_name", .lit name), (py "maximum", .int maximum),
    (py "actual", .int actual)]

end HostFailures
