import DefinedQuant.Shared.DataRecords.Dataset
import DefinedQuant.Shared.DataRecords.Operation
import DefinedQuant.Shared.LocalHost

/-!
# Reconciling bundles with operation records

A record is derived from a bundle on disk: its members are read, hashed and compared with the
manifest, its result is parsed, and its binding must resolve to the input that the manifest's
request names. The same derivation, repeated on a stored bundle, is what verifies a stored record.

The functions look at the bundle through `Look`, at paths relative to the entry that holds it.
-/

namespace OperationRecords

open Json Canonical Protocol DataRecords HostFailures LocalHost

/-- `MAX_NORMALIZED_RESULT_BYTES` -/
def maxNormalizedResultBytes : ℕ := 64 * 1024 * 1024

/-- `MAX_ARTIFACT_BYTES` -/
def maxArtifactBytes : ℕ := 5 * 1024 * 1024

/-- `MAX_OPERATION_BUNDLE_BYTES` -/
def maxOperationBundleBytes : ℕ := 128 * 1024 * 1024

/-- `MAX_RESULT_TOP_LEVEL_FIELDS` -/
def maxResultTopLevelFields : ℕ := 256

/-- `_result_limit` -/
def resultLimit (name : String) (maximum actual : ℕ) : Raised :=
  limitFailure .resultLimitExceeded name maximum actual

/-- `OperationRecordError("invalid_field_mapping", details={"fields": []})` -/
def invalidMapping : Raised := .host .invalidFieldMapping [(py "fields", .list [])]

/-- `OperationRecordError("record_corrupt")` -/
def corrupt : Raised := failure .recordCorrupt

/-- `_same_json` -/
def sameJson (left right : Value) : Bool :=
  match canonicalJsonBytes left, canonicalJsonBytes right with
  | .ok a, .ok b => a == b
  | _, _ => false

/-- `_bounded_member_bytes` -/
def boundedMemberBytes (path : List Text) (maximum : ℕ) (limitName : String) : Look Bytes :=
  (Probe.query (.readRegularFile path maximum)).mapError (fun e =>
    match e with
    | .filesystem .byteLimitExceeded actual =>
        resultLimit limitName maximum (actual.getD (maximum + 1))
    | .filesystem _ _ => corrupt
    | e => e)

/-! ## Bindings -/

/-- The state of the loop in `resolve_dataset_fields`. -/
structure Resolution where
  seenSource : List Text
  seenTarget : List Text
  output : Members
  valid : Bool

/-- One mapping of the loop. A mapping that is refused leaves everything else as it was. -/
def Resolution.step (payload : DatasetPayload) (state : Resolution) (mapping : FieldMapping) :
    Resolution :=
  let sourceField := mapping.sourceField.1
  let inputField := mapping.inputField.1
  match payload.1.columns.1.findIdx? (fun column => column.fieldId.1 = sourceField) with
  | some index =>
      if sourceField ∈ state.seenSource ∨ inputField ∈ state.seenTarget then
        { state with valid := false }
      else
        { state with
          seenSource := sourceField :: state.seenSource
          seenTarget := inputField :: state.seenTarget
          output := state.output ++ [(inputField, .list (payload.column index))] }
  | none => { state with valid := false }

/-- `resolve_dataset_fields` -/
def resolveDatasetFields (payload : DatasetPayload) (mappings : List FieldMapping)
    (literals : Members) : Except Raised Members :=
  let state := mappings.foldl (Resolution.step payload)
    ⟨[], literals.map Prod.fst, literals, true⟩
  if state.valid then .ok state.output else .error invalidMapping

/-- A dataset as it was loaded: record and payload. -/
abbrev SourceDataset := DatasetRecord × DatasetPayload

/-- `_validate_binding` -/
def validateBinding (binding : OperationBinding) (manifest : OperationManifest)
    (dataset : Option SourceDataset) : Except Raised Unit := do
  let resolved ←
    match binding.1.source with
    | none =>
        if dataset.isSome then throw invalidMapping
        pure binding.1.literals.members
    | some source =>
        if source.1.kind = .operation then throw (failure .unsupportedBinding)
        match dataset with
        | none => throw (failure .internalFailure)
        | some (record, payload) =>
            let reference ← record.reference.mapError Raised.value
            if source.1.ref ≠ reference then throw corrupt
            (record.validatePayload payload).mapError (fun _ => corrupt)
            let resolved ← (resolveDatasetFields payload source.1.mappings.1
              binding.1.literals.members).mapError (fun _ => invalidMapping)
            if sameJson record.1.source.provenance.modelDump
                (CallerProvenance.codec.encode manifest.1.request.1.provenance) = false then
              throw corrupt
            pure resolved
  if sameJson (.obj resolved) (.obj manifest.1.request.1.input.members) = false then
    throw invalidMapping

/-! ## Derivation -/

/-- The members that a manifest declares, with their digests, in its order. -/
def declaredMembers (manifest : OperationManifest) : List (MemberKind × FileDigest) :=
  (.normalizedInput, manifest.1.input) :: (.result, manifest.1.result) ::
    manifest.1.artifacts.map (fun artifact => (.artifact, ⟨artifact.path, artifact.sha256⟩))

/-- The limit that a member of a kind is read under, and its name. -/
def memberLimit : MemberKind → ℕ × String
  | .result => (maxNormalizedResultBytes, "normalized_result_member_bytes")
  | .artifact => (maxArtifactBytes, "artifact_decoded_bytes")
  | .normalizedInput => (maxOperationBundleBytes, "operation_bundle_bytes")

/-- The bundle's names are exactly the declared ones, portable and distinct. -/
def checkNames (expectedNames actualNames : List Text) : Except Raised Unit := do
  let expectedKeys ← (expectedNames.mapM portableMemberKey).mapError (fun _ => corrupt)
  let actualKeys ← (actualNames.mapM portableMemberKey).mapError (fun _ => corrupt)
  if ¬ (expectedKeys.Nodup ∧ actualKeys.Nodup ∧
      (∀ name ∈ actualNames, name ∈ expectedNames) ∧
      (∀ name ∈ expectedNames, name ∈ actualNames)) then
    throw corrupt

/-- `_manifest_bytes` for content that has been read. -/
def checkManifestBytes (manifest : OperationManifest) (content : Bytes) : Except Raised Unit := do
  let pretty ← (prettyJsonBytes (OperationManifest.codec.encode manifest)).mapError Raised.value
  if content ≠ pretty then throw corrupt
  let parsed ← (do OperationManifest.codec.decode (← strictJsonLoads content none)).mapError
    (fun _ => corrupt)
  if (OperationManifest.codec.encode parsed).pyEq (OperationManifest.codec.encode manifest) =
    false then
    throw corrupt

/-- `_load_result` for content that has been read. -/
def loadResult (content : Bytes) : Except Raised Members := do
  if maxNormalizedResultBytes < content.length then
    throw (resultLimit "normalized_result_member_bytes" maxNormalizedResultBytes content.length)
  match ← (strictJsonLoads content none).mapError (fun _ => corrupt) with
  | .obj value =>
      if maxResultTopLevelFields < value.length then
        throw (resultLimit "result_top_level_fields" maxResultTopLevelFields value.length)
      return value
  | _ => throw corrupt

/-- Read one declared member, compare its digest and describe it. -/
def deriveMember (bundle : List Text) (declared : MemberKind × FileDigest) :
    Look OperationMember := do
  let limit := memberLimit declared.1
  let content ← boundedMemberBytes (bundle ++ [declared.2.path.1]) limit.1 limit.2
  if sha256Hex content ≠ declared.2.sha256.1 then Probe.fail corrupt
  else if h : (decide (0 ≤ (content.length : ℤ)) &&
      decide ((content.length : ℤ) ≤ maxOperationMemberBytes)) = true then
    return ⟨declared.1, declared.2.path, declared.2.sha256, ⟨content.length, h⟩⟩
  else Probe.fail (.value ⟨"Input should be within its bounds"⟩)

/-- Read the declared members one after another. -/
def deriveMembers (bundle : List Text) : List (MemberKind × FileDigest) →
    Look (List OperationMember)
  | [] => return []
  | declared :: rest => do
      let member ← deriveMember bundle declared
      return member :: (← deriveMembers bundle rest)

/-- The identities of the artifacts' renderers, once each, in canonical order. -/
def renderersOf (manifest : OperationManifest) : List RunnerIdentity :=
  sortBy rendererKey
    (manifest.1.artifacts.map (fun a => (⟨a.renderer, a.rendererVersion⟩ : RunnerIdentity))).dedup

/-- `OperationRecordV1.model_validate` of a record put together from valid parts. -/
def assembleRecord (manifest : OperationManifest) (manifestContent : Bytes)
    (members : List OperationMember) (binding : OperationBinding) :
    Except ValueError OperationRecord := do
  let members ← checked (lengthWithin 2 130) members
  let renderers ← checked (lengthWithin 0 128) (renderersOf manifest)
  checked OperationRecordFields.validateRecord
    { protocolVersion := manifest.1.protocolVersion
      component := manifest.1.component
      operationHash := manifest.1.operationHash
      manifestSha256 := digestOf manifestContent
      members := members
      runner := manifest.1.runner
      renderers := renderers
      binding := binding }

/-- The name of the manifest in a bundle. -/
def manifestName : Text := py "manifest.json"

/-- `_derive_record` -/
def deriveRecord (manifest : OperationManifest) (bundle : List Text) (binding : OperationBinding) :
    Look OperationRecord := do
  if maxOperationArtifacts < manifest.1.artifacts.length then
    Probe.fail (resultLimit "operation_artifacts" maxOperationArtifacts manifest.1.artifacts.length)
  else
    let actualNames ← (Probe.query (.iterdir bundle)).mapError (fun _ => corrupt)
    Probe.lift id (checkNames (manifestName :: manifest.1.paths) actualNames)
    let manifestContent ← boundedMemberBytes (bundle ++ [manifestName]) maxOperationBundleBytes
      "operation_bundle_bytes"
    Probe.lift id (checkManifestBytes manifest manifestContent)
    let members ← deriveMembers bundle (declaredMembers manifest)
    let totalBytes : ℤ :=
      manifestContent.length + (members.map (fun member => member.sizeBytes.1)).sum
    if (maxOperationBundleBytes : ℤ) < totalBytes then
      Probe.fail (resultLimit "operation_bundle_bytes" maxOperationBundleBytes totalBytes.toNat)
    else
      -- the result is read a second time, and only this reading is parsed
      let resultContent ← boundedMemberBytes (bundle ++ [manifest.1.result.path.1])
        maxNormalizedResultBytes "normalized_result_member_bytes"
      let _ ← Probe.lift id (loadResult resultContent)
      Probe.lift (fun _ => corrupt)
        (assembleRecord manifest manifestContent (sortBy memberKey members) binding)

/-- `build_operation_record` with an empty compatibility list -/
def buildOperationRecord (manifest : OperationManifest) (bundle : List Text) (binding : Value)
    (dataset : Option SourceDataset) : Look OperationRecord := do
  let validatedBinding ← Probe.lift (fun _ => invalidMapping)
    (OperationBinding.codec.decode binding)
  Probe.lift id (validateBinding validatedBinding manifest dataset)
  deriveRecord manifest bundle validatedBinding

/-- `reconcile_operation_record` -/
def reconcileOperationRecord (record : OperationRecord) (bundle : List Text)
    (dataset : Option SourceDataset) : Look OperationManifest := do
  let manifestContent ← boundedMemberBytes (bundle ++ [manifestName]) maxOperationBundleBytes
    "operation_bundle_bytes"
  let manifest ← Probe.lift (fun _ => corrupt)
    (do OperationManifest.codec.decode (← strictJsonLoads manifestContent none))
  Probe.lift id (validateBinding record.1.binding manifest dataset)
  let derived ← deriveRecord manifest bundle record.1.binding
  if (OperationRecord.codec.encode derived).pyEq (OperationRecord.codec.encode record) = false then
    Probe.fail corrupt
  else return manifest

end OperationRecords
