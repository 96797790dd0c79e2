import DefinedQuant.Lib.ByteSource
import DefinedQuant.Lib.PosixPath
import DefinedQuant.Protocol.Result
import DefinedQuant.Shared.FailureEnvelopes
import DefinedQuant.Shared.WorkerRuntime

/-!
# Worker messages

The request that the controller writes to a worker and the control message that a worker writes
back, with the reader at the other end of each. Both sides write documents in the record format and
read them strictly. What a component computes is a parameter: a finished operation comes with its
result and the names of the fields of its input model, an inspection with its data or its failure.

A field name of a component's input model is any identifier of the language, and there may be any
number.
-/

namespace WorkerMessages

open Json Protocol DataRecords HostFailures
open WorkerRuntime (maxWorkerRequestBytes maxWorkerControlBytes)

/-- `value.get(key)` -/
def get (m : Members) (key : String) : Value := (Value.get? (py key) m).getD .null

/-- `value == 1` -/
def isOne : Value → Bool
  | .int n => n = 1
  | .bool b => b
  | .float x => x = Binary64.ofInt 1
  | _ => false

/-- `set(value) == {...}` -/
def hasExactly (m : Members) (names : List String) : Bool := exactKeys m names []

/-! ## Requests -/

/-- The two actions of an inspection. -/
inductive InspectionAction where
  | inspectComponent
  | comparePorts
  deriving DecidableEq

def InspectionAction.value : InspectionAction → String
  | .inspectComponent => "inspect_component"
  | .comparePorts => "compare_ports"

/-- What `os.path.abspath` and `Path.resolve` return. -/
structure AbsolutePath where
  path : PosixPath
  wellFormed : path.WellFormed
  absolute : path.isAbsolute = true

/-- A directory that was made: the system took its path, in which there is no NUL. -/
structure MadeDirectory extends AbsolutePath where
  noNul : (0 : CodePoint) ∉ path.fspath

/-- `work_root / "bundle"` -/
def MadeDirectory.bundle (workRoot : MadeDirectory) : PosixPath := workRoot.path.child (py "bundle")

/-- The path of a catalog, or `null`. -/
def catalogValue : Option AbsolutePath → Value
  | none => .null
  | some catalog => .str catalog.path.fspath

/-- The envelope of an operation. -/
def operationEnvelope (request : OperationRequest) (workRoot : MadeDirectory)
    (catalogRoot : Option AbsolutePath) : Value :=
  .obj [(py "catalog_root", catalogValue catalogRoot),
    (py "output_dir", .str workRoot.bundle.fspath),
    (py "request", OperationRequest.codec.encode request), (py "schema_version", .int 1)]

/-- The envelope of an inspection. -/
def inspectionEnvelope (action : InspectionAction) (arguments : Members)
    (catalogRoot : Option AbsolutePath) : Value :=
  .obj [(py "action", .lit action.value), (py "arguments", .obj arguments),
    (py "catalog_root", catalogValue catalogRoot), (py "schema_version", .int 1)]

/-- The loop of `_request` over descriptor 0. Each turn but the last takes an octet at least. -/
def readRequest {σ : Type} (source : ByteSource σ) : ℕ → Bytes → σ → Except ValueError Bytes
  | 0, _, _ => .error ⟨"worker request exceeds its fixed limit"⟩
  | fuel + 1, content, s =>
      let (chunk, s') := source.read (min 65536 (maxWorkerRequestBytes + 1 - content.length)) s
      if chunk = [] then .ok content
      else if maxWorkerRequestBytes < (content ++ chunk).length then
        .error ⟨"worker request exceeds its fixed limit"⟩
      else readRequest source fuel (content ++ chunk) s'

/-- What a worker is asked for. -/
inductive Payload where
  | operation (request : OperationRequest)
  | inspection (action : InspectionAction) (arguments : Members)

/-- What `_request` returns. -/
structure WorkerRequest where
  payload : Payload
  outputDir : Option PosixPath
  catalogRoot : Option PosixPath

/-- The action of an inspection. -/
def readAction : Value → Except ValueError InspectionAction
  | .str t =>
      if t = py "inspect_component" then .ok .inspectComponent
      else if t = py "compare_ports" then .ok .comparePorts
      else .error ⟨"worker request action is invalid"⟩
  | _ => .error ⟨"worker request action is invalid"⟩

/-- The arguments of an inspection. -/
def readArguments : Value → Except ValueError Members
  | .obj arguments => .ok arguments
  | _ => .error ⟨"worker request arguments are invalid"⟩

/-- The payload, by the names in the envelope. -/
def readPayload (m : Members) : Except ValueError Payload :=
  if hasExactly m ["catalog_root", "output_dir", "request", "schema_version"] then do
    return .operation (← OperationRequest.codec.decode (get m "request"))
  else if hasExactly m ["action", "arguments", "catalog_root", "schema_version"] then do
    let action ← readAction (get m "action")
    return .inspection action (← readArguments (get m "arguments"))
  else .error ⟨"worker request envelope is invalid"⟩

/-- A path that is a text with something in it and no NUL. -/
def readPath (message : String) : Value → Except ValueError PosixPath
  | .str t => if t = [] ∨ (0 : CodePoint) ∈ t then .error ⟨message⟩ else .ok (PosixPath.parse t)
  | _ => .error ⟨message⟩

/-- The output directory, which only an operation has. -/
def readOutputDir (m : Members) : Payload → Except ValueError (Option PosixPath)
  | .operation _ => some <$> readPath "worker output path is invalid" (get m "output_dir")
  | .inspection _ _ => .ok none

/-- The catalog, if there is one. -/
def readCatalogRoot (v : Value) : Except ValueError (Option PosixPath) :=
  if v.isNull then .ok none else some <$> readPath "worker catalog path is invalid" v

/-- What `_request` makes of the octets it has read. -/
def decodeRequest (content : Bytes) : Except ValueError WorkerRequest := do
  match ← strictCasJsonLoads content maxWorkerRequestBytes with
  | .obj m =>
      if isOne (get m "schema_version") then do
        let payload ← readPayload m
        let outputDir ← readOutputDir m payload
        let catalogRoot ← readCatalogRoot (get m "catalog_root")
        if outputDir.any (fun path => !path.isAbsolute) || catalogRoot.any
          (fun path => !path.isAbsolute)
        then throw ⟨"worker paths must be absolute"⟩
        else return ⟨payload, outputDir, catalogRoot⟩
      else throw ⟨"worker request schema is unsupported"⟩
  | _ => throw ⟨"worker request envelope is invalid"⟩

/-- `_request` -/
def request {σ : Type} (source : ByteSource σ) (s : σ) : Except ValueError WorkerRequest := do
  decodeRequest (← readRequest source (maxWorkerRequestBytes + 2) [] s)

/-! ## Control messages -/

/-- A worker that ran out of memory or of its streams. -/
def resourceLimitMessage : Value :=
  .obj [(py "kind", .lit "resource_limit"), (py "schema_version", .int 1)]

/-- `isinstance(result, OperationFailure) and result.error.details.get("type") == "MemoryError"` -/
def ranOutOfMemory : OperationResult → Bool
  | .success _ => false
  | .failure f =>
      match get f.error.val.details.members "type" with
      | .str t => t = py "MemoryError"
      | _ => false

/-- The message of a finished operation. -/
def operationMessage (result : OperationResult) (inputFields : List Text) : Value :=
  if ranOutOfMemory result then resourceLimitMessage
  else .obj [(py "input_fields", .list (inputFields.map .str)),
    (py "kind", .lit "operation_result"), (py "result", result.encode),
    (py "schema_version", .int 1)]

/-- The message of a finished inspection. -/
def inspectionMessage (data : Members) : Value :=
  .obj [(py "data", .obj data), (py "kind", .lit "inspection_result"),
    (py "schema_version", .int 1)]

/-- The message of an inspection that failed. -/
def failureMessage (f : HostFailure) : Value :=
  .obj [(py "failure", f.dump), (py "kind", .lit "host_failure"), (py "schema_version", .int 1)]

/-- `_FIELD_NAME` -/
def isFieldName : Text → Bool
  | [] => false
  | c :: name =>
      (c.isLower || c.isUpper || c.val == 0x5F) && name.length ≤ 127 &&
        name.all (fun d => d.isLower || d.isUpper || d.isDigit || d.val == 0x5F)

/-- One of the input fields. -/
def readField : Value → Except ValueError Text
  | .str t => if isFieldName t then .ok t else .error ⟨""⟩
  | _ => .error ⟨""⟩

/-- The input fields. -/
def readFields : Value → Except ValueError (List Text)
  | .seq .list xs => do
      if xs.length > 256 then .error ⟨""⟩
      else do
        let fields ← xs.mapM readField
        if fields.Nodup then .ok fields else .error ⟨""⟩
  | _ => .error ⟨""⟩

/-- `value.get("kind") == kind` -/
def isKind (m : Members) (kind : String) : Bool :=
  match get m "kind" with
  | .str t => t = py kind
  | _ => false

/-- The object that both readers of control messages take. -/
def readControl (content : Bytes) : Except ValueError Members := do
  match ← strictCasJsonLoads content maxWorkerControlBytes with
  | .obj m => if isOne (get m "schema_version") then return m else throw ⟨""⟩
  | _ => throw ⟨""⟩

/-- What `_control_response` makes of the members. -/
def operationResponse (m : Members) : Except ValueError (Option OperationResult × List Text) :=
  if isKind m "resource_limit" && hasExactly m ["kind", "schema_version"] then .ok (none, [])
  else if hasExactly m ["input_fields", "kind", "result", "schema_version"] &&
      isKind m "operation_result" then do
    let fields ← readFields (get m "input_fields")
    let result ← OperationResult.decode (get m "result")
    return (some result, fields)
  else .error ⟨""⟩

/-- `HostFailureException(code)` of a code without details. -/
def workerCrashed : HostFailure := ⟨.workerCrashed, [], .noVerifiedResult, rfl⟩

def workerResourceLimit : HostFailure := ⟨.workerResourceLimit, [], .noVerifiedResult, rfl⟩

/-- `WorkerController._control_response` -/
def controlResponse (content : Bytes) : Except HostFailure (Option OperationResult × List Text) :=
  (readControl content >>= operationResponse).mapError (fun _ => workerCrashed)

/-- What `_inspection_response` makes of the members: the data, or the failure that it raises. -/
def inspectionOutcome (m : Members) : Except ValueError (Except HostFailure Members) :=
  if isKind m "resource_limit" && hasExactly m ["kind", "schema_version"] then
    .ok (.error workerResourceLimit)
  else if isKind m "host_failure" && hasExactly m ["failure", "kind", "schema_version"] then do
    let f ← HostFailure.modelValidate (get m "failure")
    return .error f
  else if isKind m "inspection_result" && hasExactly m ["data", "kind", "schema_version"] then
    match get m "data" with
    | .obj data => .ok (.ok data)
    | _ => .error ⟨""⟩
  else .error ⟨""⟩

/-- `WorkerController._inspection_response` -/
def inspectionResponse (content : Bytes) : Except HostFailure Members :=
  match readControl content >>= inspectionOutcome with
  | .ok outcome => outcome
  | .error _ => .error workerCrashed

/-- The readings that a controller uses. -/
def responses : WorkerRuntime.Responses where
  operation content := (controlResponse content).mapError (fun f => .host f.code f.details)
  inspection content := (inspectionResponse content).mapError (fun f => .host f.code f.details)

end WorkerMessages
