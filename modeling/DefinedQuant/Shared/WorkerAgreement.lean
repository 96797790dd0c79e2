import DefinedQuant.Shared.WorkerMessages

/-!
# Worker messages agree

What one side writes the other reads as what it was, with dicts in sorted order. The readers do
refuse some messages that the writers write: a control message of a finished operation with more
than 256 input fields or with a name that is no plain ASCII identifier, and a request with NUL in
the path of its catalog. A refused control message is reported as a crash of the worker.
-/

namespace WorkerMessages

open Json Protocol DataRecords HostFailures
open WorkerRuntime (maxWorkerRequestBytes maxWorkerControlBytes)

/-! ## Messages -/

/-- A dict: under a key stands one value. -/
abbrev Dict := {m : Members // (Value.obj m).Distinct}

/-- The messages between a controller and a worker. The fields of a model have different names. -/
inductive Message where
  | operation (request : OperationRequest) (workRoot : MadeDirectory)
    (catalogRoot : Option AbsolutePath)
  | inspection (action : InspectionAction) (arguments : Dict) (catalogRoot : Option AbsolutePath)
  | finished (result : OperationResult) (inputFields : List Text) (nodup : inputFields.Nodup)
  | inspected (data : Dict)
  | failed (f : HostFailure) (distinct : (Value.obj f.details).Distinct)

/-- The value that is written. -/
def Message.value : Message → Value
  | .operation request workRoot catalogRoot => operationEnvelope request workRoot catalogRoot
  | .inspection action arguments catalogRoot => inspectionEnvelope action arguments.val catalogRoot
  | .finished result inputFields _ => operationMessage result inputFields
  | .inspected data => inspectionMessage data.val
  | .failed f _ => failureMessage f

/-- The byte limit of the message. -/
def Message.maximum : Message → ℕ
  | .operation _ _ _ | .inspection _ _ _ => maxWorkerRequestBytes
  | .finished _ _ _ | .inspected _ | .failed _ _ => maxWorkerControlBytes

/-- A worker gets a request from its pipe, in whatever pieces that hands it out. -/
def ReadsAs (content : Bytes) (expected : WorkerRequest) : Prop :=
  ∀ (σ : Type) (source : ByteSource σ) (s : σ), source.rest s = content →
    request source s = .ok expected

/-- The other side reads what was meant. -/
def Message.Agrees : Message → Bytes → Prop
  | .operation request workRoot catalogRoot, content =>
      ReadsAs content ⟨.operation request, some workRoot.bundle, catalogRoot.map AbsolutePath.path⟩
  | .inspection action arguments catalogRoot, content =>
      ReadsAs content ⟨.inspection action (SortedObject.sortMembers arguments.val), none,
        catalogRoot.map AbsolutePath.path⟩
  | .finished result inputFields _, content =>
      controlResponse content =
        .ok (if ranOutOfMemory result then (none, []) else (some result, inputFields))
  | .inspected data, content => inspectionResponse content = .ok (SortedObject.sortMembers data.val)
  | .failed f distinct, content => inspectionResponse content = .error (f.sortDetails distinct)

/-- A catalog without NUL in its path. -/
def PlainCatalog (catalogRoot : Option AbsolutePath) : Prop :=
  ∀ catalog ∈ catalogRoot, (0 : CodePoint) ∉ catalog.path.fspath

/-- The message is one that the reader takes. -/
def Message.Readable : Message → Prop
  | .operation _ _ catalogRoot => PlainCatalog catalogRoot
  | .inspection _ _ catalogRoot => PlainCatalog catalogRoot
  | .finished result inputFields _ => ranOutOfMemory result = true ∨
      (inputFields.length ≤ 256 ∧ ∀ field ∈ inputFields, isFieldName field = true)
  | .inspected _ => True
  | .failed _ _ => True

/-! ## Reading the request off the pipe -/

/-- The loop returns everything up to the end when that is within the limit. -/
theorem readRequest_eq_ok {σ : Type} (source : ByteSource σ) : ∀ (fuel : ℕ) (content : Bytes)
    (s : σ),
    maxWorkerRequestBytes + 1 < fuel + content.length →
      (content ++ source.rest s).length ≤ maxWorkerRequestBytes →
        readRequest source fuel content s = .ok (content ++ source.rest s)
  | 0, content, s, hFuel, hLimit => by
      rw [List.length_append] at hLimit
      omega
  | fuel + 1, content, s, hFuel, hLimit => by
      have hSplit :=
        source.read_append_rest (min 65536 (maxWorkerRequestBytes + 1 - content.length)) s
      have hRoom : 0 < min 65536 (maxWorkerRequestBytes + 1 - content.length) := by
        rw [List.length_append] at hLimit
        omega
      have hEnd := source.rest_of_read_eq_nil hRoom (s := s)
      unfold readRequest
      rcases hRead : source.read (min 65536 (maxWorkerRequestBytes + 1 - content.length)) s with
        ⟨chunk, s'⟩
      rw [hRead] at hSplit hEnd
      simp only at hSplit hEnd ⊢
      by_cases hNil : chunk = []
      · rw [if_pos hNil, (hEnd hNil).1, List.append_nil]
      · have hSome := List.length_pos_iff.2 hNil
        rw [← hSplit, ← List.append_assoc] at hLimit
        have hShort := hLimit
        rw [List.length_append] at hShort
        rw [if_neg hNil, if_neg (by omega), readRequest_eq_ok source fuel _ _ _ hLimit,
          List.append_assoc, hSplit]
        rw [List.length_append]
        omega

/-- What the worker reads is what it makes of the content as a whole. -/
theorem readsAs_iff {content : Bytes} (hLimit : content.length ≤ maxWorkerRequestBytes)
    {expected : WorkerRequest} :
    ReadsAs content expected ↔ decodeRequest content = .ok expected := by
  have hRead : ∀ {σ : Type} (source : ByteSource σ) (s : σ), source.rest s = content →
      request source s = decodeRequest content := by
    intro σ source s hRest
    have hLoop := readRequest_eq_ok source (maxWorkerRequestBytes + 2) [] s
      (Nat.lt_succ_self _) (by rw [List.nil_append, hRest]; exact hLimit)
    rw [List.nil_append, hRest] at hLoop
    rw [request, hLoop]
    rfl
  constructor
  · intro h
    rw [← hRead ByteSource.greedy content rfl]
    exact h _ _ _ rfl
  · intro h σ source s hRest
    rw [hRead source s hRest, h]

/-! ## Reading members back -/

section Members

variable {m : Members}

/-- Sorting the members sorts the value at a key. -/
theorem get_sortMembers (hm : (Value.obj m).Distinct) (key : String) :
    get (SortedObject.sortMembers m) key = sorted (get m key) := by
  unfold get
  rw [get?_sortMembers hm]
  cases Value.get? (py key) m <;> rfl

/-- Sorting the members keeps the set of their names. -/
theorem hasExactly_sortMembers (hm : (Value.obj m).Distinct) (names : List String) :
    hasExactly (SortedObject.sortMembers m) names = hasExactly m names :=
  exactKeys_sortMembers hm names []

/-- Sorting the members keeps the kind of a message. -/
theorem isKind_sortMembers (hm : (Value.obj m).Distinct) (kind : String) :
    isKind (SortedObject.sortMembers m) kind = isKind m kind := by
  unfold isKind
  rw [get_sortMembers hm]
  cases get m "kind" with
  | seq _ _ => rw [sorted, normal_seq]
  | obj members => rw [SortedObject.sorted_obj]
  | _ => rfl

/-- Sorting does not change whether a value is one. -/
theorem isOne_sorted (v : Value) : isOne (sorted v) = isOne v := by
  cases v with
  | seq _ _ => rw [sorted, normal_seq]; rfl
  | obj members => rw [SortedObject.sorted_obj]; rfl
  | _ => rfl

end Members

/-! ## Control messages -/

section Control

variable {m : Members} {content : Bytes}

/-- A control message that was written is read as its members, sorted. -/
theorem readControl_of_written (hm : (Value.obj m).Distinct)
    (hVersion : get m "schema_version" = .int 1)
    (h : casJsonBytes (.obj m) = .ok content) (hLimit : content.length ≤ maxWorkerControlBytes) :
    readControl content = .ok (SortedObject.sortMembers m) := by
  have hLoads := strictCasJsonLoads_casJsonBytes hm h hLimit
  rw [SortedObject.sorted_obj] at hLoads
  have hOne : isOne (get (SortedObject.sortMembers m) "schema_version") = true := by
    rw [get_sortMembers hm, isOne_sorted, hVersion]
    rfl
  simp only [readControl, hLoads, bind, Except.bind, hOne, if_true]
  rfl

/-- The message of a resource limit repeats no key. -/
theorem distinct_resourceLimitMessage : resourceLimitMessage.Distinct := by
  simp [resourceLimitMessage]

/-- A written message of a resource limit is read as one. -/
theorem controlResponse_resourceLimit (h : casJsonBytes resourceLimitMessage = .ok content)
    (hLimit : content.length ≤ maxWorkerControlBytes) :
    controlResponse content = .ok (none, []) := by
  have hm := distinct_resourceLimitMessage
  unfold resourceLimitMessage at h hm
  rw [controlResponse, readControl_of_written hm (by simp [get, Value.get?_cons]) h hLimit]
  simp only [bind, Except.bind, operationResponse, isKind_sortMembers hm, hasExactly_sortMembers hm]
  rw [if_pos (by simp [isKind, hasExactly, exactKeys, get, Value.get?_cons])]
  rfl

/-! ### Fields -/

/-- Sorting leaves a list of names as it is. -/
theorem sorted_fields (fields : List Text) :
    sorted (.list (fields.map .str)) = .list (fields.map .str) := by
  rw [sorted, normal_seq, List.map_map]
  rfl

/-- Names that pass the check are read back. -/
theorem mapM_readField {fields : List Text} (h : ∀ field ∈ fields, isFieldName field = true) :
    (fields.map Value.str).mapM readField = .ok fields := by
  induction fields with
  | nil => rfl
  | cons field fields ih =>
      have hField : readField (.str field) = .ok field := if_pos (h field List.mem_cons_self)
      have hRest := ih (fun f hf => h f (List.mem_cons_of_mem _ hf))
      rw [List.map_cons, List.mapM_cons, hField, hRest]
      rfl

/-- Names that are no plain identifiers stop the reader. -/
theorem all_of_mapM_readField : ∀ {fields names : List Text},
    (fields.map Value.str).mapM readField = .ok names → ∀ field ∈ fields, isFieldName field = true
  | [], _, _, field, hField => absurd hField List.not_mem_nil
  | first :: fields, names, h, field, hField => by
      rw [List.map_cons, List.mapM_cons] at h
      obtain ⟨name, hFirst, h⟩ := Except.bind_eq_ok.1 h
      obtain ⟨rest, hRest, -⟩ := Except.bind_eq_ok.1 h
      rcases List.mem_cons.1 hField with rfl | hField
      · by_contra hBad
        rw [readField, if_neg hBad] at hFirst
        cases hFirst
      · exact all_of_mapM_readField hRest field hField

/-- At most 256 different names are read back. -/
theorem readFields_eq_ok {fields : List Text} (hNodup : fields.Nodup)
    (hLength : fields.length ≤ 256) (h : ∀ field ∈ fields, isFieldName field = true) :
    readFields (.list (fields.map .str)) = .ok fields := by
  simp only [readFields, List.length_map, Nat.not_lt.2 hLength, if_false, mapM_readField h,
    bind, Except.bind, hNodup, if_true]

/-- Too many names, or a name that fails the check, are refused. -/
theorem readFields_eq_error {fields : List Text}
    (h : ¬ (fields.length ≤ 256 ∧ ∀ field ∈ fields, isFieldName field = true)) :
    ∃ e, readFields (.list (fields.map .str)) = .error e := by
  by_cases hLength : fields.length ≤ 256
  · cases hRead : (fields.map Value.str).mapM readField with
    | ok names => exact absurd ⟨hLength, all_of_mapM_readField hRead⟩ h
    | error e =>
        refine ⟨e, ?_⟩
        simp only [readFields, List.length_map, Nat.not_lt.2 hLength, if_false, hRead, bind,
          Except.bind]
  · refine ⟨⟨""⟩, ?_⟩
    simp only [readFields, List.length_map, gt_iff_lt, Nat.not_le.1 hLength, if_true]

/-! ### Results -/

/-- The document of a result repeats no key. -/
theorem distinct_encode_result (result : OperationResult) : result.encode.Distinct := by
  cases result with
  | success s => exact OperationSuccess.codec.distinct_encode s
  | failure f => exact OperationFailure.codec.distinct_encode f

/-- The tag of a result is read before its members are sorted or after. -/
theorem statusOf_sorted {v : Value} (hv : v.Distinct) :
    statusOf (sorted v) = (statusOf v).map sorted := by
  cases v with
  | seq _ _ => rw [sorted, normal_seq]; rfl
  | obj members =>
      rw [SortedObject.sorted_obj]
      exact get?_sortMembers hv _
  | _ => rfl

/-- The sorted document of a result decodes to it. -/
theorem decode_sorted_result (result : OperationResult) :
    OperationResult.decode (sorted result.encode) = .ok result := by
  have hDecode := result.decode_encode
  have hv := distinct_encode_result result
  rw [OperationResult.decode, statusOf_sorted hv]
  cases result with
  | success s =>
      have hStatus : statusOf (OperationResult.success s).encode = some (.lit "succeeded") := rfl
      rw [hStatus]
      show (if py "succeeded" = py "succeeded" then
        OperationResult.success <$> OperationSuccess.codec.decode
          (sorted (OperationSuccess.codec.encode s))
        else _) = _
      rw [if_pos rfl, OperationSuccess.codec.decode_sorted_encode]
      rfl
  | failure f =>
      have hStatus : statusOf (OperationResult.failure f).encode = some (.lit "failed") := rfl
      rw [hStatus]
      show (if py "failed" = py "succeeded" then _ else if py "failed" = py "failed" then
        OperationResult.failure <$> OperationFailure.codec.decode
          (sorted (OperationFailure.codec.encode f))
        else _) = _
      rw [if_neg (by simp), if_pos rfl, OperationFailure.codec.decode_sorted_encode]
      rfl

/-- The members of the message of a finished operation. -/
def operationMembers (result : OperationResult) (inputFields : List Text) : Members :=
  [(py "input_fields", .list (inputFields.map .str)), (py "kind", .lit "operation_result"),
    (py "result", result.encode), (py "schema_version", .int 1)]

/-- The message of an operation repeats no key. -/
theorem distinct_operationMembers (result : OperationResult) (inputFields : List Text) :
    (Value.obj (operationMembers result inputFields)).Distinct := by
  simp [operationMembers, distinct_encode_result]

/-- A written message of an operation is read back, if its names are. -/
theorem controlResponse_operation {result : OperationResult} {inputFields : List Text}
    (h : casJsonBytes (.obj (operationMembers result inputFields)) = .ok content)
    (hLimit : content.length ≤ maxWorkerControlBytes) :
    controlResponse content = ((readFields (.list (inputFields.map .str))).mapError
      (fun _ => workerCrashed)).map (fun fields => (some result, fields)) := by
  have hm := distinct_operationMembers result inputFields
  rw [controlResponse, readControl_of_written hm (by simp [operationMembers, get, Value.get?_cons])
    h
    hLimit]
  simp only [bind, Except.bind, operationResponse, isKind_sortMembers hm, hasExactly_sortMembers hm,
    get_sortMembers hm]
  rw [if_neg (by simp [operationMembers, isKind, get, Value.get?_cons])]
  rw [if_pos (by simp [operationMembers, isKind, hasExactly, exactKeys, get, Value.get?_cons])]
  have hFields : get (operationMembers result inputFields) "input_fields"
      = .list (inputFields.map .str) := by
    simp [operationMembers, get, Value.get?_cons]
  have hResult : get (operationMembers result inputFields) "result" = result.encode := by
    simp [operationMembers, get, Value.get?_cons]
  rw [hFields, hResult, sorted_fields, decode_sorted_result]
  cases readFields (.list (inputFields.map .str)) <;> rfl

/-! ### Inspections -/

/-- A written answer to an inspection is read back with its members sorted. -/
theorem inspectionResponse_data {data : Members} (hData : (Value.obj data).Distinct)
    (h : casJsonBytes (inspectionMessage data) = .ok content)
    (hLimit : content.length ≤ maxWorkerControlBytes) :
    inspectionResponse content = .ok (SortedObject.sortMembers data) := by
  have hm : (inspectionMessage data).Distinct := by
    simpa [inspectionMessage] using hData
  unfold inspectionMessage at h hm
  rw [inspectionResponse, readControl_of_written hm (by simp [get, Value.get?_cons]) h hLimit]
  simp only [bind, Except.bind, inspectionOutcome, isKind_sortMembers hm, hasExactly_sortMembers hm,
    get_sortMembers hm]
  rw [if_neg (by simp [isKind, get, Value.get?_cons]),
    if_neg (by simp [isKind, get, Value.get?_cons]),
    if_pos (by simp [isKind, hasExactly, exactKeys, get, Value.get?_cons])]
  have hGet : get [(py "data", .obj data), (py "kind", .lit "inspection_result"),
      (py "schema_version", .int 1)] "data" = .obj data := by
    simp [get, Value.get?_cons]
  rw [hGet, SortedObject.sorted_obj]

/-- A written failure of an inspection is raised again with its details sorted. -/
theorem inspectionResponse_failure {f : HostFailure} (hDetails : (Value.obj f.details).Distinct)
    (h : casJsonBytes (failureMessage f) = .ok content)
    (hLimit : content.length ≤ maxWorkerControlBytes) :
    inspectionResponse content = .error (f.sortDetails hDetails) := by
  have hDump : f.dump.Distinct := by
    simpa [HostFailure.dump, trustNotice] using hDetails
  have hm : (failureMessage f).Distinct := by
    simp [failureMessage, hDump]
  unfold failureMessage at h hm
  rw [inspectionResponse, readControl_of_written hm (by simp [get, Value.get?_cons]) h hLimit]
  simp only [bind, Except.bind, inspectionOutcome, isKind_sortMembers hm, hasExactly_sortMembers hm,
    get_sortMembers hm]
  rw [if_neg (by simp [isKind, get, Value.get?_cons]),
    if_pos (by simp [isKind, hasExactly, exactKeys, get, Value.get?_cons])]
  have hGet : get [(py "failure", f.dump), (py "kind", .lit "host_failure"),
      (py "schema_version", .int 1)] "failure" = f.dump := by
    simp [get, Value.get?_cons]
  rw [hGet, modelValidate_sorted_dump f hDetails]
  rfl

end Control

/-! ## Requests -/

section Requests

variable {m : Members} {content : Bytes} {catalogRoot : Option AbsolutePath}

/-- An absolute path without a null character is read back. -/
theorem readPath_fspath {message : String} {path : PosixPath} (hWell : path.WellFormed)
    (hAbsolute : path.isAbsolute = true) (hNul : (0 : CodePoint) ∉ path.fspath) :
    readPath message (.str path.fspath) = .ok path := by
  have hPlain : ¬ (path.fspath = [] ∨ (0 : CodePoint) ∈ path.fspath) :=
    not_or.2 ⟨PosixPath.fspath_ne_nil hAbsolute, hNul⟩
  rw [readPath, if_neg hPlain, PosixPath.parse_fspath hWell hAbsolute]

/-- Sorting leaves the root of the catalog as it is. -/
theorem sorted_catalogValue (catalogRoot : Option AbsolutePath) :
    sorted (catalogValue catalogRoot) = catalogValue catalogRoot := by
  cases catalogRoot <;> rfl

/-- It repeats no key. -/
theorem distinct_catalogValue (catalogRoot : Option AbsolutePath) :
    (catalogValue catalogRoot).Distinct := by
  cases catalogRoot <;> trivial

/-- The path of a catalog is read back if there is no NUL in it, and refused otherwise. -/
theorem readCatalogRoot_catalogValue :
    (PlainCatalog catalogRoot → readCatalogRoot (catalogValue catalogRoot)
      = .ok (catalogRoot.map AbsolutePath.path)) ∧
    (¬ PlainCatalog catalogRoot → ∃ e, readCatalogRoot (catalogValue catalogRoot) = .error e) := by
  cases catalogRoot with
  | none =>
      refine ⟨fun _ => rfl, fun hNot => absurd ?_ hNot⟩
      intro catalog hMem
      cases hMem
  | some catalog =>
      constructor
      · intro hPlain
        show some <$> readPath _ (.str catalog.path.fspath) = _
        rw [readPath_fspath catalog.wellFormed catalog.absolute (hPlain catalog rfl)]
        rfl
      · intro hNot
        have hNul : (0 : CodePoint) ∈ catalog.path.fspath := by
          by_contra hNone
          refine hNot fun other hOther => ?_
          cases hOther
          exact hNone
        refine ⟨⟨"worker catalog path is invalid"⟩, ?_⟩
        show some <$> readPath _ (.str catalog.path.fspath) = _
        rw [readPath, if_pos (.inr hNul)]
        rfl

/-- The catalog that was read is absolute. -/
theorem any_not_absolute (catalogRoot : Option AbsolutePath) :
    (catalogRoot.map AbsolutePath.path).any (fun path => !path.isAbsolute) = false := by
  cases catalogRoot with
  | none => rfl
  | some catalog => simp [catalog.absolute]

/-- A request that was written is read up to its catalog as it was meant. -/
theorem decodeRequest_of_written {payload : Payload} {outputDir : Option PosixPath}
    (hm : (Value.obj m).Distinct) (hVersion : get m "schema_version" = .int 1)
    (hCatalog : get m "catalog_root" = catalogValue catalogRoot)
    (hPayload : readPayload (SortedObject.sortMembers m) = .ok payload)
    (hOutput : readOutputDir (SortedObject.sortMembers m) payload = .ok outputDir)
    (hAbsolute : outputDir.any (fun path => !path.isAbsolute) = false)
    (h : casJsonBytes (.obj m) = .ok content) (hLimit : content.length ≤ maxWorkerRequestBytes) :
    decodeRequest content = .ok ⟨payload, outputDir, catalogRoot.map AbsolutePath.path⟩ ↔
      PlainCatalog catalogRoot := by
  have hLoads := strictCasJsonLoads_casJsonBytes hm h hLimit
  rw [SortedObject.sorted_obj] at hLoads
  have hOne : isOne (get (SortedObject.sortMembers m) "schema_version") = true := by
    rw [get_sortMembers hm, isOne_sorted, hVersion]
    rfl
  have hRead : get (SortedObject.sortMembers m) "catalog_root" = catalogValue catalogRoot := by
    rw [get_sortMembers hm, hCatalog, sorted_catalogValue]
  obtain ⟨hPlain, hRefused⟩ := @readCatalogRoot_catalogValue catalogRoot
  simp only [decodeRequest, hLoads, bind, Except.bind, hOne, if_true, hPayload, hOutput, hRead]
  constructor
  · intro hOk
    by_contra hNot
    obtain ⟨e, hError⟩ := hRefused hNot
    rw [hError] at hOk
    cases hOk
  · intro hIs
    rw [hPlain hIs]
    simp only [hAbsolute, any_not_absolute, Bool.or_self, Bool.false_eq_true, if_false]
    rfl

/-- The members of the envelope of an operation. -/
theorem decodeRequest_operation {request : OperationRequest} {workRoot : MadeDirectory}
    (h : casJsonBytes (operationEnvelope request workRoot catalogRoot) = .ok content)
    (hLimit : content.length ≤ maxWorkerRequestBytes) :
    decodeRequest content = .ok ⟨.operation request, some workRoot.bundle,
      catalogRoot.map AbsolutePath.path⟩ ↔ PlainCatalog catalogRoot := by
  have hm : (operationEnvelope request workRoot catalogRoot).Distinct := by
    simp [operationEnvelope, distinct_catalogValue, OperationRequest.codec.distinct_encode]
  unfold operationEnvelope at h hm
  -- The output directory is a child of the working directory, so that it is absolute too.
  have hWell : workRoot.bundle.WellFormed :=
    PosixPath.wellFormed_child workRoot.wellFormed ⟨by decide, by decide, by decide⟩
  have hAbsolute : workRoot.bundle.isAbsolute = true := workRoot.absolute
  have hNul : (0 : CodePoint) ∉ workRoot.bundle.fspath :=
    PosixPath.not_mem_fspath_child workRoot.absolute workRoot.noNul (by decide) (by decide)
  refine decodeRequest_of_written hm (by simp [get, Value.get?_cons])
    (by simp [get, Value.get?_cons])
    ?_ ?_ (by simp [hAbsolute]) h hLimit
  -- The payload is read back, and then the path of the output.
  · rw [readPayload, hasExactly_sortMembers hm, get_sortMembers hm]
    rw [if_pos (by simp [hasExactly, exactKeys, Value.get?_cons])]
    have hGet : get [(py "catalog_root", catalogValue catalogRoot),
        (py "output_dir", .str workRoot.bundle.fspath),
        (py "request", OperationRequest.codec.encode request), (py "schema_version", .int 1)]
        "request"
        = OperationRequest.codec.encode request := by
      simp [get, Value.get?_cons]
    rw [hGet, OperationRequest.codec.decode_sorted_encode]
    rfl
  · have hGet : get [(py "catalog_root", catalogValue catalogRoot),
        (py "output_dir", .str workRoot.bundle.fspath),
        (py "request", OperationRequest.codec.encode request), (py "schema_version", .int 1)]
        "output_dir"
        = .str workRoot.bundle.fspath := by
      simp [get, Value.get?_cons]
    rw [readOutputDir, get_sortMembers hm, hGet]
    show some <$> readPath _ (.str workRoot.bundle.fspath) = _
    rw [readPath_fspath hWell hAbsolute hNul]
    rfl

/-- The name of an action is read as that action. -/
theorem readAction_value (action : InspectionAction) :
    readAction (.lit action.value) = .ok action := by
  have hNe : py "compare_ports" ≠ py "inspect_component" := by simp
  cases action with
  | inspectComponent => simp only [InspectionAction.value, readAction, if_true]
  | comparePorts => simp only [InspectionAction.value, readAction, if_neg hNe, if_true]

/-- A written request for an inspection is read back with its arguments sorted. -/
theorem decodeRequest_inspection {action : InspectionAction} {arguments : Members}
    (hArguments : (Value.obj arguments).Distinct)
    (h : casJsonBytes (inspectionEnvelope action arguments catalogRoot) = .ok content)
    (hLimit : content.length ≤ maxWorkerRequestBytes) :
    decodeRequest content = .ok ⟨.inspection action (SortedObject.sortMembers arguments), none,
      catalogRoot.map AbsolutePath.path⟩ ↔ PlainCatalog catalogRoot := by
  have hm : (inspectionEnvelope action arguments catalogRoot).Distinct := by
    simpa [inspectionEnvelope, distinct_catalogValue] using hArguments
  unfold inspectionEnvelope at h hm
  refine decodeRequest_of_written hm (by simp [get, Value.get?_cons])
    (by simp [get, Value.get?_cons])
    ?_ rfl rfl h hLimit
  have hAction : get [(py "action", .lit action.value), (py "arguments", .obj arguments),
      (py "catalog_root", catalogValue catalogRoot), (py "schema_version", .int 1)] "action"
      = .lit action.value := by
    simp [get, Value.get?_cons]
  have hGet : get [(py "action", .lit action.value), (py "arguments", .obj arguments),
      (py "catalog_root", catalogValue catalogRoot), (py "schema_version", .int 1)] "arguments"
      = .obj arguments := by
    simp [get, Value.get?_cons]
  rw [readPayload, hasExactly_sortMembers hm, hasExactly_sortMembers hm]
  rw [if_neg (by simp [hasExactly, exactKeys, Value.get?_cons]),
    if_pos (by simp [hasExactly, exactKeys, Value.get?_cons])]
  simp only [get_sortMembers hm, hAction, hGet, SortedObject.sorted_obj]
  show (do
    let action ← readAction (.lit action.value)
    return Payload.inspection action
      (← readArguments (.obj (SortedObject.sortMembers arguments)))) = _
  rw [readAction_value]
  rfl

end Requests

/-! ## Agreement -/

/-- The message of a finished operation is read as it was meant when its fields are plain and not
too many. -/
theorem agrees_finished_iff {result : OperationResult} {inputFields : List Text} {content : Bytes}
    (nodup : inputFields.Nodup) (h : casJsonBytes (operationMessage result inputFields) =
      .ok content)
    (hLimit : content.length ≤ maxWorkerControlBytes) :
    (Message.finished result inputFields nodup).Agrees content ↔
      (Message.finished result inputFields nodup).Readable := by
  simp only [Message.Agrees, Message.Readable]
  simp only [operationMessage] at h
  by_cases hMemory : ranOutOfMemory result = true
  · rw [if_pos hMemory] at h ⊢
    exact iff_of_true (controlResponse_resourceLimit h hLimit) (.inl hMemory)
  · rw [if_neg hMemory] at h ⊢
    rw [controlResponse_operation h hLimit]
    by_cases hFields : inputFields.length ≤ 256 ∧ ∀ field ∈ inputFields, isFieldName field = true
    · refine iff_of_true ?_ (.inr hFields)
      rw [readFields_eq_ok nodup hFields.1 hFields.2]
      rfl
    · obtain ⟨e, hError⟩ := readFields_eq_error hFields
      refine iff_of_false ?_ (not_or.2 ⟨hMemory, hFields⟩)
      rw [hError]
      nofun

/-- A message that was written within its limit is read as it was meant exactly when the reader
takes its names and paths: at most 256 input fields, each a plain identifier of ASCII characters,
and a catalog without NUL in its path. -/
theorem agrees_iff_readable {message : Message} {content : Bytes}
    (h : casJsonBytes message.value = .ok content) (hLimit : content.length ≤ message.maximum) :
    message.Agrees content ↔ message.Readable := by
  cases message with
  | operation request workRoot catalogRoot =>
      exact (readsAs_iff hLimit).trans (decodeRequest_operation h hLimit)
  | inspection action arguments catalogRoot =>
      exact (readsAs_iff hLimit).trans (decodeRequest_inspection arguments.property h hLimit)
  | finished result inputFields nodup => exact agrees_finished_iff nodup h hLimit
  | inspected data => exact iff_of_true (inspectionResponse_data data.property h hLimit) trivial
  | failed f distinct => exact iff_of_true (inspectionResponse_failure distinct h hLimit) trivial

/-! ### Two finished operations -/

/-- A failure without details. -/
def sampleResult : OperationResult :=
  .failure ⟨none, ⟨⟨.operationFailed, ⟨py "x", by decide⟩, none, emptyObject⟩,
    by decide⟩⟩

/-- The message of a finished operation whose input model has one field. -/
def sampleMessage (field : Text) : Message :=
  .finished sampleResult [field] (List.nodup_singleton _)

/-- A value is written within a number of octets. -/
def writesWithin (v : Value) (limit : ℕ) : Bool :=
  match casJsonBytes v with
  | .ok content => content.length ≤ limit
  | .error _ => false

/-- A value that is written within a limit has its octets. -/
theorem exists_of_writesWithin {v : Value} {limit : ℕ} (h : writesWithin v limit = true) :
    ∃ content, casJsonBytes v = .ok content ∧ content.length ≤ limit := by
  unfold writesWithin at h
  cases hWrite : casJsonBytes v with
  | ok content =>
      rw [hWrite] at h
      exact ⟨content, rfl, of_decide_eq_true h⟩
  | error e =>
      rw [hWrite] at h
      cases h

/-- `/tmp/work` -/
def sampleWorkRoot : MadeDirectory where
  path := ⟨[PosixPath.slash], [py "tmp", py "work"]⟩
  wellFormed := by decide
  absolute := by decide
  noNul := by decide

/-- `/srv/catalog` -/
def sampleCatalog : AbsolutePath where
  path := ⟨[PosixPath.slash], [py "srv", py "catalog"]⟩
  wellFormed := by decide
  absolute := by decide

/-- The envelope of an operation, with its work root and a catalog. -/
def sampleOperation : Message := .operation sampleRequest sampleWorkRoot (some sampleCatalog)

/-- The envelope of an operation and the message that it has finished are read as they were meant. -/
theorem agrees_iff_readable_sample :
    (∃ content, casJsonBytes sampleOperation.value = .ok content ∧ sampleOperation.Agrees content) ∧
      ∃ content, casJsonBytes (sampleMessage (py "window")).value = .ok content ∧
        (sampleMessage (py "window")).Agrees content := by
  constructor
  · have hWrites : writesWithin sampleOperation.value maxWorkerRequestBytes = true := by
      decide +kernel
    obtain ⟨content, hContent, hLimit⟩ := exists_of_writesWithin hWrites
    refine ⟨content, hContent, (agrees_iff_readable hContent hLimit).2 ?_⟩
    intro catalog hCatalog
    cases hCatalog
    decide
  · have hWrites : writesWithin (sampleMessage (py "window")).value maxWorkerControlBytes =
      true := by
      decide +kernel
    obtain ⟨content, hContent, hLimit⟩ := exists_of_writesWithin hWrites
    refine ⟨content, hContent, (agrees_iff_readable hContent hLimit).2 (.inr ⟨by decide, ?_⟩)⟩
    intro field hField
    rw [List.mem_singleton.1 hField]
    decide

/-- The name `é`, which is an identifier. -/
def accented : Text := [0xE9]

/-- A message with an accented field name is not readable. -/
theorem not_readable_accented : ¬ (sampleMessage accented).Readable := by
  have hMemory : ranOutOfMemory sampleResult = false := by decide
  have hName : isFieldName accented = false := by decide
  rintro (h | ⟨-, h⟩)
  · rw [hMemory] at h
    cases h
  · have hField := h accented List.mem_cons_self
    rw [hName] at hField
    cases hField

/-- The control message of an operation whose input model has a field `é` is written, and refused by
its reader. -/
theorem not_agrees_accented : ¬ ∀ (message : Message) (content : Bytes),
    casJsonBytes message.value = .ok content → content.length ≤ message.maximum →
      message.Agrees content := by
  intro hAll
  have hWrites : writesWithin (sampleMessage accented).value maxWorkerControlBytes = true := by
    decide +kernel
  obtain ⟨content, hContent, hLimit⟩ := exists_of_writesWithin hWrites
  have hAgrees := hAll (sampleMessage accented) content hContent hLimit
  exact not_readable_accented ((agrees_finished_iff _ hContent hLimit).1 hAgrees)

end WorkerMessages
