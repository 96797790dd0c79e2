import DefinedQuant.Shared.HostEnvelopes
import DefinedQuant.Shared.SessionCursor
import DefinedQuant.Shared.DataRecords.RoundTrip

/-!
# Bounded views of stored records

What the host shows of a stored dataset or operation: metadata, summaries, and pages of rows,
results and messages. Every response is measured as the complete tool result it will become, and
refused over the limit; a page takes as many items as fit.

The views are written against `Cas`, the four methods of a session store that they call, in any
monad with exceptions. `Cas.host` is the store of `SessionCas`.
-/

namespace RecordViews

open Json Canonical Protocol DataRecords HostFailures SessionCas

universe u

/-- `MAX_STRUCTURED_RESPONSE_BYTES` -/
def maxStructuredResponseBytes : ℕ := 256 * 1024

/-- `DEFAULT_PREVIEW_LIMIT` -/
def defaultPreviewLimit : ℤ := 20

/-- `MAX_PREVIEW_LIMIT` -/
def maxPreviewLimit : ℤ := 50

/-- `DEFAULT_RESULT_LIMIT` -/
def defaultResultLimit : ℤ := 100

/-- `MAX_RESULT_LIMIT` -/
def maxResultLimit : ℤ := 1000

/-- `DEFAULT_MESSAGE_LIMIT` -/
def defaultMessageLimit : ℤ := 20

/-- `MAX_MESSAGE_LIMIT` -/
def maxMessageLimit : ℤ := 100

/-- The methods of a `SessionCas` that the views call. -/
structure Cas (m : Type → Type u) where
  loadDataset : Text → m StoredDataset
  loadOperation : Text → m StoredOperation
  encodeCursor : Text → Text → Option Text → ℤ → m Text
  decodeCursor : Text → Text → Text → Option Text → m ℤ

/-- The store of one session. -/
def Cas.host : Cas Host where
  loadDataset := SessionCas.loadDataset
  loadOperation := SessionCas.loadOperation
  encodeCursor := SessionCas.encodeCursor
  decodeCursor := SessionCas.decodeCursor

section Views

variable {m : Type → Type u} [Monad m] [MonadExceptOf Raised m]

/-- A pure computation that may raise. -/
def raising {α : Type} (wrap : ValueError → Raised) : Except ValueError α → m α
  | .ok a => pure a
  | .error e => throw (wrap e)

/-- `if p: raise e` -/
def refuseIf (p : Prop) [Decidable p] (e : Raised) : m Unit := if p then throw e else pure ()

/-! ## Bounds -/

/-- `_digest` -/
def digest (value : Value) : Except ValueError Text := do
  return sha256Hex (← canonicalJsonBytes value)

/-- `_result_size` -/
def resultSize (data : Members) (trust : TrustLabel) : Except ValueError ℕ := do
  return (← casJsonBytes (toolSuccessResultProjection data trust)).length - 1

/-- `_bounded_result` -/
def boundedResult (data : Members) (limitName : String) (trust : TrustLabel) : m Members := do
  let actual ← raising .value (resultSize data trust)
  refuseIf (maxStructuredResponseBytes < actual)
    (limitFailure .resultLimitExceeded limitName maxStructuredResponseBytes actual)
  return data

/-- `_validate_limit` -/
def validateLimit (value maximum : ℤ) : m ℕ := do
  refuseIf (¬ (1 ≤ value ∧ value ≤ maximum)) (invalidRequest ["limit"])
  return value.toNat

/-- `_start`; a decoded index is not negative. -/
def startOf (cas : Cas m) (cursor : Option Text) (reference view : Text) (selector : Option Text) :
    m ℕ :=
  match cursor with
  | none => pure 0
  | some token => do return (← cas.decodeCursor token reference view selector).toNat

/-! ## Pages -/

/-- What the pages of one view share. -/
structure Paging (α : Type) where
  values : List α
  build : List α → Members → Members
  reference : Text
  view : Text
  selector : Option Text
  limitName : String
  trust : TrustLabel

/-- The description of a page that starts at an index and takes a number of items. -/
def pageOf {α : Type} (cas : Cas m) (paging : Paging α) (start returned : ℕ) : m Members := do
  let stop := start + returned
  let complete := decide (stop = paging.values.length)
  let nextCursor ←
    if complete then pure Value.null
    else Value.str <$> cas.encodeCursor paging.reference paging.view paging.selector stop
  return [(py "start", .int start), (py "returned", .int returned), (py "next_cursor", nextCursor),
    (py "complete", .bool complete)]

/-- The filling loop of `_page`: `selected` fits, and `rest` is still to be tried. -/
def fill {α : Type} (cas : Cas m) (paging : Paging α) (start : ℕ) (selected : List α) :
    List α → m (List α)
  | [] => return selected
  | item :: rest => do
      let candidate := selected ++ [item]
      let page ← pageOf cas paging start candidate.length
      let actual ← raising .value (resultSize (paging.build candidate page) paging.trust)
      if maxStructuredResponseBytes < actual then
        refuseIf (selected.isEmpty = true)
          (limitFailure .resultLimitExceeded paging.limitName maxStructuredResponseBytes actual)
        return selected
      else fill cas paging start candidate rest

/-- `_page` -/
def page {α : Type} (cas : Cas m) (paging : Paging α) (start limit : ℕ) : m Members := do
  refuseIf (paging.values.length < start) (invalidRequest ["cursor"])
  let selected ← fill cas paging start [] ((paging.values.drop start).take limit)
  let page ← pageOf cas paging start selected.length
  boundedResult (paging.build selected page) paging.limitName paging.trust

/-! ## Datasets -/

/-- `_dataset_metadata` -/
def datasetMetadata (stored : StoredDataset) (compact : Bool) : Members :=
  let record := stored.record.1
  [(py "compact", .bool compact), (py "dataset_ref", .str stored.reference),
    (py "normalized_payload_sha256", .str record.payload.sha256.1),
    (py "raw_source_sha256", .str record.rawSourceSha256.1),
    (py "row_count", .int record.rowCount.1),
    (py "columns", .list (record.columns.1.map DatasetRecordColumn.codec.encode)),
    (py "semantics", DatasetSemantics.codec.encode record.semantics),
    (py "external_preprocessing", ExternalPreprocessing.codec.encode record.externalPreprocessing),
    (py "normalization_events",
      .list (record.normalizationEvents.1.map NormalizationEvent.codec.encode)),
    (py "findings", .list (record.findings.1.map DatasetFinding.codec.encode)),
    (py "expires", .lit "session_end")]

/-- `rows`, each under its field IDs -/
def previewRows (payload : DatasetPayload) : List Value :=
  payload.1.rows.1.map (fun row =>
    .obj ((payload.1.columns.1.map (fun c => c.fieldId.1)).zip (row.map (fun cell => cell.value))))

/-- The pages of the preview of a dataset. -/
def previewPaging (stored : StoredDataset) (reference : Text) : Paging Value where
  values := previewRows stored.payload
  build items page :=
    datasetMetadata stored false ++ [(py "preview", .obj ((py "rows", .list items) :: page))]
  reference := reference
  view := py "preview"
  selector := none
  limitName := "dataset_preview_page_bytes"
  trust := .unverifiedCallerData

/-- `describe_dataset` -/
def describeDataset (cas : Cas m) (reference view : Text) (cursor : Option Text) (limit : ℤ) :
    m Members := do
  let stored ← cas.loadDataset reference
  if view = py "metadata" then
    refuseIf (cursor.isSome = true ∨ limit ≠ defaultPreviewLimit)
      (invalidRequest (if cursor.isSome then ["cursor"] else ["limit"]))
    boundedResult (datasetMetadata stored true) "structured_tool_response_bytes"
      .unverifiedCallerData
  else do
    refuseIf (view ≠ py "preview") (invalidRequest ["view"])
    let pageLimit ← validateLimit limit maxPreviewLimit
    let start ← startOf cas cursor reference (py "preview") none
    page cas (previewPaging stored reference) start pageLimit

/-! ## Operations -/

/-- `_result` -/
def result (stored : StoredOperation) : m Members :=
  match stored.members.lookup stored.manifest.1.result.path.1 with
  | none => throw (failure .recordCorrupt)
  | some content =>
      match strictJsonLoads content none with
      | .ok (.obj members) => pure members
      | _ => throw (failure .recordCorrupt)

/-- A field of a result that is a list of strings, `[]` if it is missing. -/
def textItems (result : Members) (key : Text) : Option (List Value) :=
  match (Value.get? key result).getD (.list []) with
  | .seq _ xs => if xs.all (fun x => x matches .str _) then some xs else none
  | _ => none

/-- The messages of one kind. -/
def messageItems (kind : String) (texts : List Value) : List Value :=
  texts.mapIdx (fun index text =>
    .obj [(py "kind", .lit kind), (py "index", .int index), (py "text", text)])

/-- `_messages` -/
def messages (result : Members) : m (List Value × Text) :=
  match textItems result (py "warnings"), textItems result (py "disclosures") with
  | some warnings, some disclosures => do
      let messagesDigest ← raising .value
        (digest (.obj [(py "warnings", .list warnings), (py "disclosures", .list disclosures)]))
      return (messageItems "warning" warnings ++ messageItems "disclosure" disclosures,
        messagesDigest)
  | _, _ => throw (failure .recordCorrupt)

/-- `reference.rsplit(":", 1)[1]` -/
def referenceDigest (reference : Text) : Text := (split 0x3A reference).getLastD []

/-- The metadata of one artifact; every artifact of a reconciled manifest has a member. -/
def artifactEntry (stored : StoredOperation) (artifact : SvgArtifact) : Except ValueError Value :=
  match stored.record.1.members.1.find? (fun member => member.path = artifact.path) with
  | none => .error ⟨"KeyError"⟩
  | some member =>
      .ok (.obj [(py "artifact_id", .str artifact.visualizationId.1),
        (py "media_type", .lit "image/svg+xml"), (py "size_bytes", .int member.sizeBytes.1),
        (py "sha256", .str artifact.sha256.1),
        (py "resource_uri", .str (py "dqop://v1/" ++ referenceDigest stored.reference ++
          py "/artifact/" ++ artifact.visualizationId.1))])

/-- `_artifact_metadata` -/
def artifactMetadata (stored : StoredOperation) : m (List Value) :=
  raising .value (stored.manifest.1.artifacts.mapM (artifactEntry stored))

/-- The projection of one field of a result. -/
def fieldProjection (p : Text × Value) : Except ValueError (Text × Value) := do
  let structured (kind : String) (count : ℕ) : Except ValueError (Text × Value) := do
    return (p.1, .obj [(py "kind", .lit "structured"), (py "value_kind", .lit kind),
      (py "count", .int count), (py "sha256", .str (← digest p.2)),
      (py "page_available", .bool true)])
  match p.2 with
  | .seq _ xs => structured "array" xs.length
  | .obj members => structured "object" members.length
  | _ => return p

/-- The source of an operation, as its summary shows it. -/
def sourceContext (cas : Cas m) (stored : StoredOperation) : m Members :=
  match stored.record.1.binding.1.source with
  | none => pure []
  | some source => do
      refuseIf (source.1.kind ≠ .dataset) (failure .unsupportedBinding)
      let dataset ← cas.loadDataset source.1.ref
      let events := dataset.record.1.normalizationEvents.1
      return [(py "source_context", .obj [(py "kind", .lit "dataset"),
        (py "ref", .str source.1.ref), (py "external_preprocessing_status",
        .lit dataset.record.1.externalPreprocessing.status),
        (py "normalization_event_count", .int events.length),
        (py "normalization_event_application_count",
          .int (events.map (fun event => event.count.1)).sum)])]

/-- `operation_summary` -/
def operationSummary (cas : Cas m) (stored : StoredOperation)
    (cursorEncoder : Text → Text → Option Text → ℤ → m Text) : m Members := do
  let result ← result stored
  let resultProjection ← raising .value (result.mapM fieldProjection)
  let (messages, messagesDigest) ← messages result
  let firstMessages := messages.take defaultMessageLimit.toNat
  let complete := decide (firstMessages.length = messages.length)
  let sourceContext ← sourceContext cas stored
  let nextCursor ←
    if complete then pure Value.null
    else Value.str <$> cursorEncoder stored.reference (py "messages") none firstMessages.length
  let artifacts ← artifactMetadata stored
  let record := stored.record.1
  boundedResult
    ([(py "compact", .bool true), (py "operation_ref", .str stored.reference),
      (py "operation_hash", .str record.operationHash.1),
      (py "manifest_sha256", .str record.manifestSha256.1),
      (py "component", ComponentRef.codec.encode record.component),
      (py "protocol_version", .lit record.protocolVersion.value),
      (py "execution_mode", .lit "unmanaged"), (py "result", .obj resultProjection),
      (py "messages", .obj [(py "items", .list firstMessages), (py "total", .int messages.length),
        (py "digest", .str messagesDigest), (py "complete", .bool complete),
        (py "next_cursor", nextCursor)]),
      (py "artifacts", .list artifacts), (py "expires", .lit "session_end")] ++ sourceContext)
    "structured_tool_response_bytes" .unmanagedExecution

/-- The selectors of `get_operation`. -/
structure Selectors where
  field : Option Text
  artifactId : Option Text
  cursor : Option Text
  limit : Option ℤ

/-- `any(value is not None for value in (field, artifact_id, cursor, limit))` -/
def Selectors.any (selectors : Selectors) : Bool :=
  selectors.field.isSome || selectors.artifactId.isSome || selectors.cursor.isSome ||
    selectors.limit.isSome

/-- The items of a structured field, the entries of an object in the order of their keys in UTF-8. -/
def fieldItems : Value → Option (String × String × List Value)
  | .seq _ xs => some ("array", "items", xs)
  | .obj members => some ("object", "entries", (sortBy (fun p => utf8Raw p.1) members).map (fun p =>
      .obj [(py "key", .str p.1), (py "value", p.2)]))
  | _ => none

/-- The pages of a structured field of a result. -/
def fieldPaging (base : Members) (reference field : Text) (valueKind itemsKey : String)
    (items : List Value) : Paging Value where
  values := items
  build items page :=
    base ++ [(py "value_kind", .lit valueKind), (py itemsKey, .list items), (py "page", .obj page)]
  reference := reference
  view := py "result_field"
  selector := some field
  limitName := "result_page_bytes"
  trust := .unmanagedExecution

/-- The `result_field` view. -/
def resultFieldView (cas : Cas m) (reference : Text) (result : Members) (resultSha256 : Text)
    (selectors : Selectors) : m Members :=
  match selectors.field with
  | none => throw (invalidRequest ["field"])
  | some field =>
      match Value.get? field result with
      | none => throw (invalidRequest ["field"])
      | some value => do
          refuseIf (selectors.artifactId.isSome = true) (invalidRequest ["field"])
          let fieldSha256 ← raising .value (digest value)
          let base : Members :=
            [(py "compact", .bool false), (py "operation_ref", .str reference),
              (py "view", .lit "result_field"), (py "field", .str field),
              (py "result_sha256", .str resultSha256), (py "field_sha256", .str fieldSha256),
              (py "expires", .lit "session_end")]
          match fieldItems value with
          | none => do
              refuseIf (selectors.cursor.isSome = true ∨ selectors.limit.isSome = true)
                (invalidRequest [])
              boundedResult (base ++ [(py "value_kind", .lit "scalar"), (py "value", value)])
                "result_page_bytes" .unmanagedExecution
          | some (valueKind, itemsKey, items) => do
              let pageLimit ←
                validateLimit (selectors.limit.getD defaultResultLimit) maxResultLimit
              let start ←
                startOf cas selectors.cursor reference (py "result_field") (some field)
              page cas (fieldPaging base reference field valueKind itemsKey items) start pageLimit

/-- The pages of the messages of an operation. -/
def messagePaging (base : Members) (reference : Text) (items : List Value) : Paging Value where
  values := items
  build items page := base ++ [(py "messages", .list items), (py "page", .obj page)]
  reference := reference
  view := py "messages"
  selector := none
  limitName := "message_page_bytes"
  trust := .unmanagedExecution

/-- The `messages` view. -/
def messagesView (cas : Cas m) (reference : Text) (result : Members) (resultSha256 : Text)
    (selectors : Selectors) : m Members := do
  refuseIf (selectors.field.isSome = true ∨ selectors.artifactId.isSome = true) (invalidRequest [])
  let (items, messagesDigest) ← messages result
  let pageLimit ← validateLimit (selectors.limit.getD defaultMessageLimit) maxMessageLimit
  let start ← startOf cas selectors.cursor reference (py "messages") none
  page cas (messagePaging [(py "compact", .bool false), (py "operation_ref", .str reference),
    (py "view", .lit "messages"), (py "result_sha256", .str resultSha256),
    (py "messages_sha256", .str messagesDigest), (py "expires", .lit "session_end")]
    reference items) start pageLimit

/-- `item["artifact_id"] == artifact_id` -/
def isArtifact (artifactId : Text) : Value → Bool
  | .obj members => (Value.get? (py "artifact_id") members).any (fun v => v.pyEq (.str artifactId))
  | _ => false

/-- The `artifact_metadata` view. -/
def artifactView (stored : StoredOperation) (reference : Text) (selectors : Selectors) :
    m Members :=
  match selectors.artifactId with
  | none => throw (invalidRequest [])
  | some artifactId => do
      refuseIf (selectors.field.isSome = true ∨ selectors.cursor.isSome = true ∨
        selectors.limit.isSome = true) (invalidRequest [])
      refuseIf (isSafeId artifactId = false) (invalidRequest ["artifact_id"])
      let artifacts ← artifactMetadata stored
      match artifacts.find? (isArtifact artifactId) with
      | none => throw (.host .artifactNotFound [(py "artifact_id", .str artifactId)])
      | some artifact =>
          boundedResult [(py "compact", .bool true), (py "operation_ref", .str reference),
            (py "view", .lit "artifact_metadata"),
            (py "manifest_sha256", .str stored.record.1.manifestSha256.1),
            (py "artifact", artifact), (py "expires", .lit "session_end")]
            "structured_tool_response_bytes" .unmanagedExecution

/-- `get_operation` -/
def getOperation (cas : Cas m) (reference view : Text) (selectors : Selectors) : m Members := do
  let stored ← cas.loadOperation reference
  if view = py "summary" then
    refuseIf (selectors.any = true) (invalidRequest [])
    let summary ← operationSummary cas stored cas.encodeCursor
    let summarySha256 ← raising .value (digest (.obj summary))
    boundedResult [(py "compact", .bool true), (py "operation_ref", .str reference),
      (py "view", .lit "summary"), (py "summary_sha256", .str summarySha256),
      (py "summary", .obj summary), (py "expires", .lit "session_end")]
      "structured_tool_response_bytes" .unmanagedExecution
  else if view = py "manifest" then
    refuseIf (selectors.any = true) (invalidRequest [])
    boundedResult [(py "compact", .bool false), (py "operation_ref", .str reference),
      (py "view", .lit "manifest"), (py "manifest_sha256", .str stored.record.1.manifestSha256.1),
      (py "manifest", OperationManifest.codec.encode stored.manifest),
      (py "expires", .lit "session_end")]
      "structured_tool_response_bytes" .unmanagedExecution
  else
    let result ← result stored
    let resultSha256 := stored.manifest.1.result.sha256.1
    if view = py "result_field" then resultFieldView cas reference result resultSha256 selectors
    else if view = py "messages" then messagesView cas reference result resultSha256 selectors
    else if view = py "artifact_metadata" then artifactView stored reference selectors
    else throw (invalidRequest ["view"])

end Views

/-! ## What is measured -/

/-- The members of a tool result around its structured content. -/
def aroundContent : Members :=
  [(py "content", .list [.obj [(py "type", .lit "text"), (py "text", .lit hostSuccessText)]]),
    (py "isError", .bool false)]

/-- The members of an envelope around its data. -/
def aroundData (trust : TrustLabel) : Members :=
  [(py "host_schema_version", .int 1), (py "outcome", .lit "ok"), (py "trust", trustNotice trust)]

/-- The octets of the tool result around the data. -/
def envelopeSize (trust : TrustLabel) : ℕ :=
  size (.obj aroundContent) + size (.obj (aroundData trust)) + 29

/-- The data stands in an envelope that does not depend on it. -/
theorem size_toolSuccessResultProjection (data : Members) (trust : TrustLabel) :
    size (toolSuccessResultProjection data trust) = envelopeSize trust + size (.obj data) := by
  have hData : utf8Length (writeString (py "data")) = 6 := rfl
  have hContent : utf8Length (writeString (py "structuredContent")) = 19 := rfl
  have hDump : size ((hostSuccess data trust).dump)
      = size (.obj (aroundData trust)) + size (.obj data) + 8 := by
    simp only [HostSuccess.dump, hostSuccess, aroundData, size_obj, List.map_cons, List.map_nil,
      List.sum_cons, List.sum_nil, List.length_cons, List.length_nil, memberSize, hData]
    omega
  rw [envelopeSize, toolSuccessResultProjection, aroundContent, size_obj, size_obj]
  simp only [List.map_cons, List.map_nil, List.sum_cons, List.sum_nil, List.length_cons,
    List.length_nil, memberSize, hDump, hContent]
  omega

/-- An envelope is as large as the texts of its trust label, and 210 octets. -/
theorem envelopeSize_eq (trust : TrustLabel) :
    envelopeSize trust = size (.lit trust.value) + size (.lit trust.statement) + 210 := by
  have hContent : size (.obj aroundContent) = 109 := by decide +kernel
  have hFixed : size (.lit "host_schema_version") + size (.int 1) + size (.lit "outcome") +
    size (.lit "ok") +
      size (.lit "trust") + size (.lit "label") + size (.lit "statement") = 60 := by
    decide +kernel
  have hKey (s : String) : utf8Length (writeString (py s)) = size (.lit s) := (size_str _).symm
  rw [envelopeSize, hContent, aroundData, trustNotice]
  simp only [size_obj, List.map_cons, List.map_nil, List.sum_cons, List.sum_nil, List.length_cons,
    List.length_nil, memberSize, hKey]
  omega

theorem envelopeSize_unmanagedExecution : envelopeSize .unmanagedExecution = 475 := by
  have hStatement : size (.lit (TrustLabel.statement .unmanagedExecution)) = 244 := by
    apply size_literal
    decide +kernel
  have hLabel : size (.lit (TrustLabel.value .unmanagedExecution)) = 21 := by
    apply size_literal
    decide
  rw [envelopeSize_eq, hStatement, hLabel]

theorem accepts_aroundContent : Accepts (.obj aroundContent) := by
  simp only [aroundContent, accepts_obj, accepts_seq, List.forall_mem_cons, List.not_mem_nil,
    false_imp_iff, implies_true, and_true]
  exact ⟨⟨encodable_py _, ⟨encodable_py _, accepts_lit _⟩, encodable_py _, accepts_lit _⟩,
    encodable_py _, accepts_bool _⟩

theorem accepts_aroundData (trust : TrustLabel) : Accepts (.obj (aroundData trust)) := by
  simp only [aroundData, trustNotice, accepts_obj, List.forall_mem_cons, List.not_mem_nil,
    false_imp_iff, implies_true, and_true]
  exact ⟨⟨encodable_py _, accepts_int.2 (by decide)⟩, ⟨encodable_py _, accepts_lit _⟩,
    encodable_py _,
    ⟨encodable_py _, accepts_lit _⟩, encodable_py _, accepts_lit _⟩

theorem accepts_toolSuccessResultProjection {data : Members} {trust : TrustLabel} :
    Accepts (toolSuccessResultProjection data trust) ↔ Accepts (.obj data) := by
  have hDump : Accepts ((hostSuccess data trust).dump) ↔ Accepts (.obj data) :=
    (accepts_obj_insert (m := [_, _]) (n := [_])).trans
      ⟨fun h => h.1.2, fun h => ⟨⟨encodable_py _, h⟩, accepts_aroundData trust⟩⟩
  refine (accepts_obj_insert (m := [_]) (n := [_])).trans ?_
  rw [hDump]
  exact ⟨fun h => h.1.2, fun h => ⟨⟨encodable_py _, h⟩, accepts_aroundContent⟩⟩

theorem printable_lit (s : String) : Printable (.lit s) := printable_str (encodable_py s)

theorem printable_aroundContent : Printable (.obj aroundContent) := by
  have hKey (s : String) : Text.Encodable (writeString (py s)) :=
    writeString_encodable (encodable_py s)
  simp only [aroundContent, printable_obj, printable_seq, List.forall_mem_cons, List.not_mem_nil,
    false_imp_iff, implies_true, and_true]
  exact ⟨⟨hKey _, ⟨hKey _, printable_lit _⟩, hKey _, printable_lit _⟩, hKey _, printable_bool _⟩

theorem printable_aroundData (trust : TrustLabel) : Printable (.obj (aroundData trust)) := by
  have hKey (s : String) : Text.Encodable (writeString (py s)) :=
    writeString_encodable (encodable_py s)
  simp only [aroundData, trustNotice, printable_obj, List.forall_mem_cons, List.not_mem_nil,
    false_imp_iff, implies_true, and_true]
  exact ⟨⟨hKey _, printable_int (by decide)⟩, ⟨hKey _, printable_lit _⟩, hKey _,
    ⟨hKey _, printable_lit _⟩, hKey _, printable_lit _⟩

theorem printable_toolSuccessResultProjection {data : Members} {trust : TrustLabel} :
    Printable (toolSuccessResultProjection data trust) ↔ Printable (.obj data) := by
  have hDump : Printable ((hostSuccess data trust).dump) ↔ Printable (.obj data) :=
    (printable_obj_insert (m := [_, _]) (n := [_])).trans
      ⟨fun h => h.1.2, fun h => ⟨⟨writeString_encodable (encodable_py _), h⟩,
        printable_aroundData trust⟩⟩
  refine (printable_obj_insert (m := [_]) (n := [_])).trans ?_
  rw [hDump]
  exact ⟨fun h => h.1.2, fun h => ⟨⟨writeString_encodable (encodable_py _), h⟩,
    printable_aroundContent⟩⟩

/-- The measure of a response is the size of the tool result it will become. -/
theorem resultSize_eq_ok {data : Members} {trust : TrustLabel} {n : ℕ} :
    resultSize data trust = .ok n ↔ Accepts (.obj data) ∧ Printable (.obj data) ∧
      n = envelopeSize trust + size (.obj data) := by
  rw [resultSize, Except.bind_eq_ok, ← size_toolSuccessResultProjection]
  constructor
  · rintro ⟨content, hContent, hLength⟩
    obtain ⟨hAccepts, hPrintable, -⟩ := casJsonBytes_eq_ok.1 hContent
    rw [Except.pure_eq_ok, length_casJsonBytes hContent] at hLength
    exact ⟨accepts_toolSuccessResultProjection.1 hAccepts,
      printable_toolSuccessResultProjection.1 hPrintable, hLength.symm⟩
  · rintro ⟨hAccepts, hPrintable, rfl⟩
    have hProjection : Accepts (toolSuccessResultProjection data trust) :=
      accepts_toolSuccessResultProjection.2 hAccepts
    have hContent := casJsonBytes_eq_ok.2
      ⟨hProjection, printable_toolSuccessResultProjection.2 hPrintable, rfl⟩
    refine ⟨_, hContent, ?_⟩
    rw [Except.pure_eq_ok, length_casJsonBytes hContent]
    rfl

end RecordViews
