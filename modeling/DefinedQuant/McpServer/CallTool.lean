import DefinedQuant.McpServer.ToolResults
import DefinedQuant.Shared.FailureDetails

/-!
# Tool calls

`on_call_tool`: the checks of the arguments, the answer of the service, the result and the audit
record. The result and the audited outcome are decided apart, so they can differ: where details do
not fit the schema of their code, where the table of the tool lacks a code, and where a result is
replaced for its size.

The request models are a parameter: `validate` gives the request, or the locations of the errors.
-/

namespace McpServer

open Json HostFailures DataRecords

/-! ## The arguments -/

/-- `model_fields` of the request model. -/
def modelFields : Tool → List String
  | .searchComponents => ["host_schema_version", "query", "filters", "limit"]
  | .inspectComponent =>
      ["host_schema_version", "component_id", "expected_version", "expected_subject_hash", "view"]
  | .registerDataset =>
      ["host_schema_version", "source", "columns", "semantics", "provenance",
        "external_preprocessing"]
  | .describeDataset => ["host_schema_version", "dataset_ref", "view", "cursor", "limit"]
  | .comparePorts => ["host_schema_version", "producer", "consumer"]
  | .executeComponent =>
      ["host_schema_version", "component", "literals", "sources", "provenance", "artifacts"]
  | .getOperation =>
      ["host_schema_version", "operation_ref", "view", "field", "artifact_id", "cursor", "limit"]

/-- Where a validation error is: keys and indices. -/
abbrev Location := List (Text ⊕ ℕ)

/-- The first key of a location that is a field of the model. -/
def selectedField (surface : Tool) (location : Location) : Option Text :=
  location.findSome? (fun item =>
    match item with
    | .inl key => if key ∈ (modelFields surface).map py then some key else none
    | .inr _ => none)

/-- The loop of `_validation_fields`, from the fields found so far. -/
def collectFields (surface : Tool) (fields : List Text) : List Location → List Text
  | [] => fields
  | location :: locations =>
      let fields :=
        match selectedField surface location with
        | some key => if key ∈ fields then fields else fields ++ [key]
        | none => fields
      if fields.length = 32 then fields else collectFields surface fields locations

/-- `_validation_fields` -/
def validationFields (surface : Tool) (locations : List Location) : List Text :=
  collectFields surface [] locations

/-- A code and its details. -/
structure Refusal where
  code : HostFailureCode
  details : Members

/-- `arguments.get("host_schema_version", 1)` -/
def requestedVersion (arguments : Members) : Value :=
  (Value.get? (py "host_schema_version") arguments).getD (.int 1)

/-- The part of `on_call_tool` that decides whether there is a request, from the octets of the
arguments. -/
def acceptRequest {Request : Type} (validate : Tool → Members → Except (List Location) Request)
    (surface : Tool) (arguments : Members) (argumentBytes : Except ValueError Bytes) :
    Except Refusal Request :=
  match argumentBytes with
  | .error _ => .error ⟨.invalidToolRequest, [(py "fields", .list [])]⟩
  | .ok bytes =>
      if maxArgumentBytes < bytes.length then
        .error ⟨.inputLimitExceeded, [(py "limit_name", .lit "tool_arguments_bytes"),
          (py "maximum", .int maxArgumentBytes), (py "actual", .int bytes.length)]⟩
      else
        match requestedVersion arguments with
        | .int n =>
            if n ≠ 1 then .error ⟨.unsupportedHostSchema, [(py "requested_version", .int n)]⟩
            else
              match validate surface arguments with
              | .error locations => .error ⟨.invalidToolRequest,
                  [(py "fields", .list ((validationFields surface locations).map .str))]⟩
              | .ok request => .ok request
        | _ => .error ⟨.invalidToolRequest, [(py "fields", .list [.lit "host_schema_version"])]⟩

/-! ## The call -/

/-- How the service answers a request. -/
inductive Answer where
  | data (data : Members)
  | hostFailure (f : HostFailure)
  | componentContractError
  | exception

/-- What the server rests on: the dump of a text, the request models and the service. -/
structure Server (Request : Type) where
  sdk : TextContent
  validate : Tool → Members → Except (List Location) Request
  dispatch : Request → Answer

/-- The result and the outcome of an answer, before the result is bounded. -/
def answered (surface : Tool) : Answer → CallToolResult × String
  | .data data => (successResult surface data, "ok")
  | .hostFailure f => (failureResult surface f.code f.details, f.code.value)
  | .componentContractError =>
      (failureResult surface .componentContractError [],
        HostFailureCode.componentContractError.value)
  | .exception => (failureResult surface .internalFailure [], HostFailureCode.internalFailure.value)

variable {Request : Type}

/-- What the server makes of the arguments of a call. -/
def accepted (server : Server Request) (surface : Tool) (params : Option Members) :
    Except Refusal Request :=
  acceptRequest server.validate surface (params.getD []) (compactBytes (.obj (params.getD [])))

end McpServer
