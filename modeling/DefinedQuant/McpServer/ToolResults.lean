import DefinedQuant.Shared.RecordViews
import DefinedQuant.Shared.DataRecords.FaithfulDocuments

/-!
# Tool results

How the server turns what the service answers into the result of a tool call: the envelope as
structured content, a fixed text beside it, and a bound on the size of the whole. The bound is
applied last; a result over it is replaced by a failure.

`TextContent` is the content type of the SDK, which dumps a text under its declared fields.
`optional` names those that the server leaves unset; they are dumped as `null`.
-/

namespace McpServer

open Json Canonical HostFailures DataRecords

/-! ## Tools -/

/-- The names of `REQUEST_MODELS`. -/
inductive Tool where
  | searchComponents
  | inspectComponent
  | registerDataset
  | describeDataset
  | comparePorts
  | executeComponent
  | getOperation
  deriving DecidableEq

/-- `_SUCCESS_TRUST` -/
def successTrust : Tool → TrustLabel
  | .searchComponents => .contractMetadataOnly
  | .inspectComponent => .installedSubjectInspected
  | .registerDataset => .unverifiedCallerData
  | .describeDataset => .unverifiedCallerData
  | .comparePorts => .structuralCompatibilityOnly
  | .executeComponent => .unmanagedExecution
  | .getOperation => .unmanagedExecution

/-- `_FAILURE_TRUST` -/
def failureTrust : Tool → TrustLabel
  | .searchComponents => .contractMetadataOnly
  | .comparePorts => .structuralCompatibilityOnly
  | _ => .noVerifiedResult

/-- `_ALLOWED_FAILURES` -/
def allowedFailures : Tool → List HostFailureCode
  | .searchComponents =>
      [.invalidToolRequest, .unsupportedHostSchema, .inputLimitExceeded, .componentContractError,
        .resultLimitExceeded, .internalFailure]
  | .inspectComponent =>
      [.invalidToolRequest, .unsupportedHostSchema, .inputLimitExceeded, .componentNotFound,
        .componentIdentityMismatch, .componentContractError, .workerTimeout, .workerCancelled,
        .workerCrashed, .workerCapacity, .workerResourceLimit, .resultLimitExceeded,
        .internalFailure]
  | .registerDataset =>
      [.invalidToolRequest, .unsupportedHostSchema, .invalidDataset, .unsupportedDataFormat,
        .inputRootDenied, .unsafeInputPath, .inputLimitExceeded, .invalidFieldMapping,
        .recordCorrupt, .cacheFull, .recordPublicationFailed, .resultLimitExceeded,
        .internalFailure]
  | .describeDataset =>
      [.invalidToolRequest, .unsupportedHostSchema, .inputLimitExceeded,
        .unsupportedReferenceVersion, .referenceNotFound, .referenceScopeDenied, .recordCorrupt,
        .resultLimitExceeded, .internalFailure]
  | .comparePorts =>
      [.invalidToolRequest, .unsupportedHostSchema, .inputLimitExceeded, .componentNotFound,
        .componentIdentityMismatch, .invalidFieldMapping, .incompatiblePorts,
        .componentContractError, .workerTimeout, .workerCancelled, .workerCrashed,
        .workerCapacity, .workerResourceLimit, .resultLimitExceeded, .internalFailure]
  | .executeComponent =>
      [.invalidToolRequest, .unsupportedHostSchema, .unsupportedProtocolVersion,
        .unsupportedReferenceVersion, .componentNotFound, .componentIdentityMismatch,
        .missingConvention, .incompatiblePorts, .unsupportedBinding, .multipleNonLiteralSources,
        .invalidDataset, .inputLimitExceeded, .invalidFieldMapping, .referenceNotFound,
        .referenceScopeDenied, .recordCorrupt, .cacheFull, .recordPublicationFailed,
        .workerTimeout, .workerCancelled, .workerCrashed, .workerCapacity, .workerResourceLimit,
        .componentRefused, .componentFailed, .invalidComponentInput, .outputValidationFailed,
        .componentContractError, .artifactPublicationFailed, .resultLimitExceeded,
        .internalFailure]
  | .getOperation =>
      [.invalidToolRequest, .unsupportedHostSchema, .inputLimitExceeded,
        .unsupportedProtocolVersion, .unsupportedReferenceVersion, .referenceNotFound,
        .referenceScopeDenied, .recordCorrupt, .artifactNotFound, .resultLimitExceeded,
        .internalFailure]

/-- `MAX_ARGUMENT_BYTES` -/
def maxArgumentBytes : ℕ := 1024 * 1024

/-- `MAX_SEARCH_RESULT_BYTES` -/
def maxSearchResultBytes : ℕ := 64 * 1024

/-- `MAX_TOOL_RESULT_BYTES` -/
def maxToolResultBytes : ℕ := 256 * 1024

/-- The limit on a result of a tool. -/
def maximumFor (surface : Tool) : ℕ :=
  if surface = .searchComponents then maxSearchResultBytes else maxToolResultBytes

/-- The name under which the limit is reported. -/
def limitNameFor (surface : Tool) : String :=
  if surface = .searchComponents then "search_response_bytes" else "structured_tool_response_bytes"

/-! ## Results -/

/-- `types.TextContent`, as far as it is dumped. -/
structure TextContent where
  optional : List Text
  encodable : ∀ name ∈ optional, Text.Encodable name

/-- `TextContent(type="text", text=text).model_dump(mode="json", by_alias=True)` -/
def TextContent.dump (sdk : TextContent) (text : Text) : Value :=
  .obj ((py "type", .lit "text") :: (py "text", .str text) ::
    sdk.optional.map (fun name => (name, Value.null)))

/-- `types.CallToolResult`, its content being texts. -/
structure CallToolResult where
  content : List Text
  structuredContent : Value
  isError : Bool

/-- `_compact_bytes` -/
def compactBytes (value : Value) : Except ValueError Bytes := do
  validUtf8 (← dumps .compactSorted value)

/-- The result that carries a failure. -/
def resultOfFailure (f : HostFailure) : CallToolResult where
  content := [py f.code.spec.message]
  structuredContent := f.dump
  isError := true

/-- `_failure_result` -/
def failureResult (surface : Tool) (code : HostFailureCode) (details : Members) : CallToolResult :=
  let (code, details) :=
    if code ∉ allowedFailures surface then (HostFailureCode.internalFailure, [])
    else (code, details)
  match hostFailure code details (failureTrust surface) with
  | .ok f => resultOfFailure f
  | .error _ => resultOfFailure (internalFailure (failureTrust surface))

/-- `_success_result` -/
def successResult (surface : Tool) (data : Members) : CallToolResult where
  content := [py hostSuccessText]
  structuredContent := (hostSuccess data (successTrust surface)).dump
  isError := false

/-- `_tool_result_projection` -/
def toolResultProjection (sdk : TextContent) (result : CallToolResult) : Value :=
  .obj [(py "content", .list (result.content.map sdk.dump)),
    (py "structuredContent", result.structuredContent), (py "isError", .bool result.isError)]

/-- `_bounded_tool_result` -/
def boundedToolResult (sdk : TextContent) (surface : Tool) (result : CallToolResult) :
    Except ValueError CallToolResult := do
  let actual := (← compactBytes (toolResultProjection sdk result)).length
  if actual ≤ maximumFor surface then return result
  else
    return failureResult surface .resultLimitExceeded
      [(py "limit_name", .lit (limitNameFor surface)), (py "maximum", .int (maximumFor surface)),
        (py "actual", .int actual)]

/-! ## The two measures of a response

`record_views` measures the result that it expects the server to send, and the server the result
that it sends. They differ by the unset fields of the text content, which only the server counts.
-/

/-- What the unset fields of a text content take: a comma, the name, a colon and `null`. -/
def TextContent.overhead (sdk : TextContent) : ℕ :=
  (sdk.optional.map (fun name => utf8Length (writeString name) + 6)).sum

/-- The size of a text content: its declared members and the overhead. -/
theorem size_dump (sdk : TextContent) (text : Text) :
    size (sdk.dump text)
      = size (.obj [(py "type", .lit "text"), (py "text", .str text)]) + sdk.overhead := by
  have hNull : ∀ names : List Text,
      ((names.map (fun name => (name, Value.null))).map memberSize).sum + names.length
        = (names.map (fun name => utf8Length (writeString name) + 6)).sum := by
    intro names
    induction names with
    | nil => rfl
    | cons name names ih =>
        simp only [List.map_cons, List.sum_cons, List.length_cons, memberSize, size_null]
        omega
  have hOptional := hNull sdk.optional
  rw [TextContent.dump, size_obj, size_obj, TextContent.overhead]
  simp only [List.map_cons, List.sum_cons, List.length_cons, List.length_map, List.map_nil,
    List.sum_nil, List.length_nil]
  omega

/-- What is printable is written, and written as its rendering. -/
theorem compactBytes_eq_ok {v : Value} {bs : Bytes} :
    compactBytes v = .ok bs ↔ Printable v ∧ utf8Raw (render .compactSorted 0 v) = bs := by
  unfold compactBytes
  rw [Except.bind_eq_ok]
  constructor
  · rintro ⟨text, hDumps, hBytes⟩
    obtain ⟨hCheck, rfl⟩ := dumps_eq_ok.1 hDumps
    obtain ⟨hEncodable, hRaw⟩ := validUtf8_eq_ok.1 hBytes
    exact ⟨⟨hCheck, hEncodable⟩, hRaw⟩
  · rintro ⟨⟨hCheck, hEncodable⟩, hRaw⟩
    exact ⟨_, dumps_eq_ok.2 ⟨hCheck, rfl⟩, validUtf8_eq_ok.2 ⟨hEncodable, hRaw⟩⟩

/-- The octets written are as many as the size says. -/
theorem length_compactBytes {v : Value} {bs : Bytes} (h : compactBytes v = .ok bs) :
    bs.length = size v := by
  obtain ⟨-, rfl⟩ := compactBytes_eq_ok.1 h
  rw [size]
  rfl

/-- The tools that return what `record_views` builds. -/
def IsView (surface : Tool) : Prop :=
  surface = .registerDataset ∨ surface = .describeDataset ∨ surface = .executeComponent ∨
    surface = .getOperation

/-- Every view has the limit of a tool result. -/
theorem IsView.maximumFor_eq {surface : Tool} (h : IsView surface) :
    maximumFor surface = maxToolResultBytes := by
  rcases h with rfl | rfl | rfl | rfl <;> rfl

/-- The projection counts the declared result and the overhead. -/
theorem size_toolResultProjection (sdk : TextContent) (surface : Tool) (data : Members) :
    size (toolResultProjection sdk (successResult surface data))
      = size (toolSuccessResultProjection data (successTrust surface)) + sdk.overhead := by
  have hDump : size (sdk.dump (py hostSuccessText))
      = size (.obj [(py "type", .lit "text"), (py "text", .lit hostSuccessText)]) + sdk.overhead :=
    size_dump sdk _
  have hContent : size (.list [sdk.dump (py hostSuccessText)])
      = size (.list [.obj [(py "type", .lit "text"), (py "text", .lit hostSuccessText)]])
        + sdk.overhead := by
    rw [size_seq, size_seq]
    simp only [List.map_cons, List.map_nil, List.sum_cons, List.sum_nil, List.length_cons,
      List.length_nil, hDump]
    omega
  show size (.obj [(py "content", .list [sdk.dump (py hostSuccessText)]), _, _]) = _
  rw [toolSuccessResultProjection, size_obj, size_obj]
  simp only [successResult, List.map_cons, List.map_nil, List.sum_cons, List.sum_nil,
    List.length_cons, List.length_nil, memberSize, hContent]
  omega

/-- A text content is printable when its text encodes. -/
theorem printable_dump (sdk : TextContent) {text : Text} (h : Text.Encodable text) :
    Printable (sdk.dump text) := by
  refine printable_obj.2 (fun p hp => ?_)
  rcases List.mem_cons.1 hp with rfl | hp
  · exact ⟨writeString_encodable (s := py "type") (by decide), printable_str (by decide)⟩
  · rcases List.mem_cons.1 hp with rfl | hp
    · exact ⟨writeString_encodable (s := py "text") (by decide), printable_str h⟩
    · obtain ⟨name, hName, rfl⟩ := List.mem_map.1 hp
      exact ⟨writeString_encodable (sdk.encodable name hName), printable_null⟩

/-- What `record_views` can measure, the server can. -/
theorem printable_toolResultProjection (sdk : TextContent) (surface : Tool) {data : Members}
    (h : Printable (.obj data)) :
    Printable (toolResultProjection sdk (successResult surface data)) := by
  have hParts := printable_obj.1
    ((@RecordViews.printable_toolSuccessResultProjection data (successTrust surface)).2 h)
  refine printable_obj.2 (fun p hp => ?_)
  rcases List.mem_cons.1 hp with rfl | hp
  · refine ⟨writeString_encodable (s := py "content") (by decide), ?_⟩
    refine printable_seq.2 (fun x hx => ?_)
    obtain ⟨text, hMem, rfl⟩ := List.mem_map.1 hx
    rw [List.mem_singleton.1 hMem]
    exact printable_dump sdk (by decide)
  · exact hParts p (List.mem_cons_of_mem _ hp)

/-- A failure is marked as an error. -/
theorem isError_failureResult (surface : Tool) (code : HostFailureCode) (details : Members) :
    (failureResult surface code details).isError = true := by
  unfold failureResult
  split
  split <;> rfl

/-- A result within the limit is returned as it is, and any other is replaced. -/
theorem boundedToolResult_eq_self_iff {sdk : TextContent} {surface : Tool} {data : Members}
    (h : Printable (toolResultProjection sdk (successResult surface data))) :
    boundedToolResult sdk surface (successResult surface data) = .ok (successResult surface data)
      ↔ size (toolResultProjection sdk (successResult surface data)) ≤ maximumFor surface := by
  have hBytes := compactBytes_eq_ok.2 ⟨h, rfl⟩
  rw [← length_compactBytes hBytes, boundedToolResult, Except.bind_eq_ok]
  constructor
  · rintro ⟨bytes, hEq, hReturn⟩
    obtain rfl : _ = bytes := Except.ok.inj (hBytes.symm.trans hEq)
    by_contra hOver
    rw [if_neg hOver, Except.pure_eq_ok] at hReturn
    have hError := congrArg CallToolResult.isError hReturn
    rw [isError_failureResult] at hError
    cases hError
  · intro hFits
    exact ⟨_, hBytes, by rw [if_pos hFits]; rfl⟩

/-- **Which views are delivered.** A response that `record_views` accepts as within its bound is
sent unchanged exactly when the unset fields of the text content fit as well. -/
theorem view_delivered_iff (sdk : TextContent) (surface : Tool) (hView : IsView surface)
    (data : Members) (n : ℕ) (hSize : RecordViews.resultSize data (successTrust surface) = .ok n)
    (_hAccepted : n ≤ RecordViews.maxStructuredResponseBytes) :
    boundedToolResult sdk surface (successResult surface data) = .ok (successResult surface data)
      ↔ n + sdk.overhead ≤ maxToolResultBytes := by
  obtain ⟨-, hPrintable, rfl⟩ := RecordViews.resultSize_eq_ok.1 hSize
  rw [boundedToolResult_eq_self_iff (printable_toolResultProjection sdk surface hPrintable),
    size_toolResultProjection, RecordViews.size_toolSuccessResultProjection, hView.maximumFor_eq]

/-! ### A view that is not delivered -/

/-- `types.TextContent` of the SDK, whose annotations and metadata the server leaves unset. -/
def declaredText : TextContent where
  optional := [py "annotations", py "_meta"]
  encodable := by decide

/-- The two unset members take 32 octets. -/
theorem overhead_declaredText : declaredText.overhead = 32 := rfl

/-- The `result_field` view of a text, up to the text. -/
def scalarView : Members :=
  [(py "compact", .bool false),
    (py "operation_ref", .str (py "dqop:v1:" ++ List.replicate 64 0x30)),
    (py "view", .lit "result_field"), (py "field", .lit "summary"),
    (py "result_sha256", .str (List.replicate 64 0x30)),
    (py "field_sha256", .str (List.replicate 64 0x30)), (py "expires", .lit "session_end"),
    (py "value_kind", .lit "scalar")]

/-- The `result_field` view of a text of a number of letters. -/
def letterView (letters : ℕ) : Members :=
  scalarView ++ [(py "value", .str (List.replicate letters 0x78))]

/-- The encoder accepts the sample view. -/
theorem accepts_scalarView : Canonical.Accepts (.obj scalarView) := by
  have hZeros : Text.Encodable (List.replicate 64 0x30) := by decide
  simp only [scalarView, Canonical.accepts_obj, List.forall_mem_cons, List.not_mem_nil,
    false_imp_iff, implies_true, and_true, encodable_py, Canonical.accepts_bool,
    Canonical.accepts_str, Text.encodable_append, hZeros]

/-- The size of a view with one text. -/
theorem resultSize_letterView (letters : ℕ) :
    RecordViews.resultSize (letterView letters) .unmanagedExecution = .ok (letters + 845) := by
  have hLetters : ∀ c ∈ List.replicate letters (0x78 : CodePoint), IsPlain c := by
    intro c hc
    rw [List.eq_of_mem_replicate hc]
    exact ⟨rfl, by decide⟩
  have hEncodable : Text.Encodable (List.replicate letters 0x78) :=
    Text.IsAscii.encodable (fun c hc => (hLetters c hc).2)
  have hAccepts : Canonical.Accepts (.obj (letterView letters)) :=
    Canonical.accepts_obj_append.2 ⟨accepts_scalarView,
      Canonical.accepts_obj.2 (List.forall_mem_singleton.2
      ⟨encodable_py _, Canonical.accepts_str.2 hEncodable⟩)⟩
  have hPrintable : Printable (.obj (letterView letters)) :=
    ⟨check_of_accepts _ hAccepts, encodable_render_of_accepts _ _ 0 hAccepts⟩
  refine RecordViews.resultSize_eq_ok.2 ⟨hAccepts, hPrintable, ?_⟩
  · have hEnvelope := RecordViews.envelopeSize_unmanagedExecution
    have hScalar : size (.obj scalarView) = 359 := by decide +kernel
    have hKeyLength : utf8Length (writeString (py "value")) = 7 := rfl
    have hValue : size (.obj [(py "value", .str (List.replicate letters 0x78))]) = letters +
      12 := by
      rw [size_obj]
      simp only [List.map_cons, List.map_nil, List.sum_cons, List.sum_nil, List.length_cons,
        List.length_nil, memberSize, hKeyLength, size_str_of_isPlain hLetters,
        List.length_replicate]
      omega
    have hAppend := size_obj_append (m := scalarView)
      (n := [(py "value", .str (List.replicate letters 0x78))]) (List.cons_ne_nil _ _)
      (List.cons_ne_nil _ _)
    rw [letterView, hEnvelope]
    omega

/-- A view of exactly 256 KiB by the measure of `record_views` is replaced by a refusal. -/
theorem view_not_delivered :
    RecordViews.resultSize (letterView 261299) .unmanagedExecution
        = .ok RecordViews.maxStructuredResponseBytes ∧
      boundedToolResult declaredText .getOperation (successResult .getOperation (letterView 261299))
        ≠ .ok (successResult .getOperation (letterView 261299)) := by
  have hSize := resultSize_letterView 261299
  obtain ⟨-, hPrintable, hEq⟩ := RecordViews.resultSize_eq_ok.1 hSize
  refine ⟨hSize, fun hDelivered => ?_⟩
  have hFits := (boundedToolResult_eq_self_iff
    (printable_toolResultProjection declaredText .getOperation hPrintable)).1 hDelivered
  rw [size_toolResultProjection, RecordViews.size_toolSuccessResultProjection,
    overhead_declaredText]
    at hFits
  have hMaximum : maximumFor .getOperation = 262144 := rfl
  have hTrust : successTrust .getOperation = .unmanagedExecution := rfl
  rw [hMaximum, hTrust] at hFits
  omega

/-- A view with 32 octets to spare is delivered. -/
theorem view_delivered_iff_letters :
    boundedToolResult declaredText .getOperation (successResult .getOperation (letterView 261267))
      = .ok (successResult .getOperation (letterView 261267)) :=
  (view_delivered_iff declaredText .getOperation (.inr (.inr (.inr rfl))) (letterView 261267) 262112
    (resultSize_letterView 261267) (by decide)).2 (by rw [overhead_declaredText]; decide)

end McpServer
