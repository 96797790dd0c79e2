import DefinedQuant.Lib.Base64
import DefinedQuant.Shared.OperationRecords

/-!
# The session content-addressed store

One session keeps datasets and operations under references derived from their records. Publication
stages an entry, verifies the staged copy, renames it into place and registers its reference;
loading verifies the stored entry again. An entry that fails verification is moved to quarantine and
its reference stays corrupt for the rest of the session.

A `World` is a session with its directory, the registry that all sessions of the process share, and
the oracle that decides what happens to the files between two steps. `Session.counted` and
`Session.failures` are not in the source. They record, for use in statements only, the size that
each reference was first registered with, and which references had a stored entry fail verification.

The recursion limit of the interpreter is modelled where a caller hands over a document that it may
meet: in the manifest and the record of `publish_operation`. The rows of a dataset are not nested, a
cursor that its key authenticates has some hundred bytes, and a load takes a `RecursionError` as it
takes any other failure.
-/

namespace SessionCas

open Json Canonical Protocol DataRecords HostFailures LocalHost OperationRecords FileTree

/-! ## State -/

/-- `MAX_DATASET_PAYLOAD_BYTES` -/
def maxDatasetPayloadBytes : ℕ := 512 * 1024

/-- `MAX_SESSION_BYTES` -/
def maxSessionBytes : ℕ := 1024 * 1024 * 1024

/-- `MAX_CURSOR_BYTES` -/
def maxCursorBytes : ℕ := 512

/-- `CasLimits`: positive, within the hard maxima. -/
structure CasLimits where
  recordBytes : ℕ
  datasetPayloadBytes : ℕ
  operationBundleBytes : ℕ
  sessionBytes : ℕ
  recordBytes_mem : 1 ≤ recordBytes ∧ recordBytes ≤ maxRecordBytes
  datasetPayloadBytes_mem : 1 ≤ datasetPayloadBytes ∧ datasetPayloadBytes ≤ maxDatasetPayloadBytes
  operationBundleBytes_mem :
    1 ≤ operationBundleBytes ∧ operationBundleBytes ≤ maxOperationBundleBytes
  sessionBytes_mem : 1 ≤ sessionBytes ∧ sessionBytes ≤ maxSessionBytes

/-- `StoredDataset` -/
structure StoredDataset where
  reference : Text
  record : DatasetRecord
  payload : DatasetPayload

/-- `StoredOperation` -/
structure StoredOperation where
  reference : Text
  record : OperationRecord
  manifest : OperationManifest
  manifestBytes : Bytes
  members : List (Text × Bytes)

/-- `SessionScopeRegistry`: the sessions that hold a reference. -/
abbrev SessionScopeRegistry := Text → Finset Text

namespace SessionScopeRegistry

/-- `register` -/
def register (registry : SessionScopeRegistry) (sessionId reference : Text) :
    SessionScopeRegistry :=
  Function.update registry reference (insert sessionId (registry reference))

/-- `known_outside` -/
def knownOutside (registry : SessionScopeRegistry) (sessionId reference : Text) : Bool :=
  decide ((registry reference).erase sessionId ≠ ∅)

/-- `unregister_session` -/
def unregisterSession (registry : SessionScopeRegistry) (sessionId : Text) : SessionScopeRegistry :=
  fun reference => (registry reference).erase sessionId

end SessionScopeRegistry

/-- The state of one `SessionCas`. -/
structure Session where
  sessionId : Text
  limits : CasLimits
  cursorKey : Bytes
  references : Finset Text
  corruptReferences : Finset Text
  usedBytes : ℕ
  closed : Bool
  lockHeld : Bool
  counted : Text → ℕ
  failures : Finset Text

/-- A session and everything it can see or change. -/
structure World where
  oracle : Oracle
  restrictedByDefault : Bool
  tick : ℕ
  disk : Disk
  session : Session
  registry : SessionScopeRegistry

/-- What the recursion limit leaves to a call that is made now. -/
def World.recursion (w : World) : Recursion := w.oracle.recursion w.tick

/-- A program of the store. -/
abbrev Host := EStateM Raised World

/-! ## Steps on the files -/

/-- The world at the next step, after the outside has acted. -/
def World.stir (w : World) : World :=
  { w with disk := w.oracle.env w.tick w.disk, tick := w.tick + 1 }

/-- Ask one question about an entry. -/
def ask (loc : Location) {γ : Type} (q : Query γ) : Host γ := fun w =>
  match (w.oracle.fault w.tick).bind (fun fault => failed fault q) with
  | some e => .error e w.stir
  | none =>
      match answer (w.stir.disk.entry loc) q with
      | .ok c => .ok c w.stir
      | .error e => .error e w.stir

/-- Look at an entry. -/
def look {α : Type} (loc : Location) (program : Look α) : Host α := Probe.perform (ask loc) program

/-- A test that does not fail. -/
def observe {α : Type} (f : Disk → α) : Host α := fun w => .ok (f w.stir.disk) w.stir

/-- `path.exists()`, which follows links -/
def pathExists (loc : Location) : Host Bool :=
  observe (fun disk => ((disk.entry loc).bind Node.resolve).isSome)

/-- `path.is_symlink()` -/
def isSymlink (loc : Location) : Host Bool :=
  observe (fun disk => match disk.entry loc with | some (.symlink _) => true | _ => false)

/-- Change an entry; a failing step may leave anything of it behind. -/
def change (loc : Location) (f : Option Node → Except Raised (Option Node)) : Host Unit := fun w =>
  match w.oracle.fault w.tick with
  | some fault => .error (.filesystem fault.code fault.actual)
      { w.stir with disk := w.stir.disk.set loc (fault.residue (w.stir.disk.entry loc)) }
  | none =>
      match f (w.stir.disk.entry loc) with
      | .ok node => .ok () { w.stir with disk := w.stir.disk.set loc node }
      | .error e => .error e w.stir

/-- `publish_directory_no_replace`, which moves the entry or raises. -/
def publishDirectoryNoReplace (source destination : Location) : Host Unit := fun w =>
  match w.oracle.fault w.tick with
  | some fault => .error (.filesystem fault.code fault.actual) w.stir
  | none =>
      match renameEntry w.stir.disk source destination with
      | .ok disk => .ok () { w.stir with disk := disk }
      | .error e => .error e w.stir

/-- `secrets.token_hex(8)` -/
def tokenHex : Host Text := fun w => .ok (w.oracle.token w.tick) { w with tick := w.tick + 1 }

/-- `except SecureFilesystemError: pass` -/
def ignoreFilesystem (x : Host Unit) : Host Unit :=
  Effect.rescue x (fun e =>
    match e with
    | .filesystem _ _ => pure ()
    | e => throw e)

/-! ## References and accounting -/

/-- The area of a kind of record. -/
def areaOf : RecordKind → Area
  | .dataset => .datasets
  | .operation => .operations

/-- `_reference_parts` -/
def referenceParts (reference : Text) (expected : Option RecordKind) :
    Except Raised (RecordKind × Text) :=
  match matchReference reference with
  | none => .error (invalidRequest [])
  | some parsed =>
      if parsed.versionToken ≠ py "1" then
        .error (.host .unsupportedReferenceVersion
          [(py "requested_version", .str (0x76 :: parsed.versionToken))])
      else if expected.any (fun kind => parsed.kind ≠ kind) then .error (invalidRequest [])
      else .ok (parsed.kind, parsed.digest)

/-- `_require_open` -/
def requireOpen : Host Unit := do
  Effect.raiseIf ((← get).session.closed = true) (failure .referenceNotFound)

/-- `_destination` -/
def destinationOf (reference : Text) (expected : RecordKind) : Except Raised Location := do
  return ⟨areaOf expected, (← referenceParts reference (some expected)).2⟩

/-- `_reserve` -/
def reserve (size : ℕ) : Host Unit := do
  let w ← get
  Effect.raiseIf (w.session.limits.sessionBytes < w.session.usedBytes + size) (failure .cacheFull)

/-- The world after a first registration. -/
def World.register (w : World) (reference : Text) (size : ℕ) : World :=
  { w with
    session := { w.session with
      references := insert reference w.session.references
      usedBytes := w.session.usedBytes + size
      counted := Function.update w.session.counted reference size }
    registry := w.registry.register w.session.sessionId reference }

/-- `_register` -/
def register (reference : Text) (size : ℕ) : Host Unit := do
  if reference ∈ (← get).session.references then return
  else
    reserve size
    modify (fun w => w.register reference size)

/-- `_resolve` -/
def resolve (reference : Text) (expected : RecordKind) : Host Location := do
  requireOpen
  let destination ← Effect.lift id (destinationOf reference expected)
  let w ← get
  Effect.raiseIf (reference ∈ w.session.corruptReferences) (failure .recordCorrupt)
  if reference ∈ w.session.references then return destination
  else if w.registry.knownOutside w.session.sessionId reference then
    throw (failure .referenceScopeDenied)
  else throw (failure .referenceNotFound)

/-! ## Corruption -/

/-- `self._corrupt_references.add(reference)` -/
def World.markCorrupt (w : World) (reference : Text) : World :=
  { w with session := { w.session with
      corruptReferences := insert reference w.session.corruptReferences } }

/-- Where an entry goes in quarantine. -/
def quarantineTarget (destination : Location) (token : Text) : Location :=
  ⟨.quarantine, py destination.area.name ++ py "-" ++ destination.name ++ py "-" ++ token⟩

/-- `_quarantine` -/
def quarantine (destination : Location) (reference : Text) : Host Unit := do
  modify (fun w => w.markCorrupt reference)
  if ← pathExists destination then
    if ← isSymlink destination then return
    else
      let token ← tokenHex
      ignoreFilesystem (publishDirectoryNoReplace destination (quarantineTarget destination token))
  else return

/-- `except Exception as exc: self._quarantine(...); raise _fail(RECORD_CORRUPT) from exc` -/
def corruptOnError {α : Type} (destination : Location) (reference : Text) (x : Host α) : Host α :=
  Effect.rescue x (fun _ => do
    quarantine destination reference
    throw (failure .recordCorrupt))

/-- The world after a verification has failed. -/
def World.recordFailure (w : World) (reference : Text) : World :=
  { w with session := { w.session with failures := insert reference w.session.failures } }

/-- Record when a verification fails; a staged copy that is not published yet does not count. -/
def verifying {α : Type} (loc : Location) (reference : Text) (x : Host α) : Host α :=
  Effect.rescue x (fun e => do
    modify (fun w => if loc.area = .staging then w else w.recordFailure reference)
    throw e)

/-! ## Loading datasets -/

/-- `_validate_owned_directory` -/
def validateOwnedDirectory (path : List Text) : Look Unit :=
  (Probe.query (.verifyPrivateDirectory path)).mapError (fun e =>
    match e with
    | .filesystem _ _ => .value ⟨"session directory is not owner-private"⟩
    | e => e)

/-- `_read_private` -/
def readPrivate (path : List Text) (maximumBytes : ℕ) : Look Bytes :=
  (Probe.query (.readPrivateFile path maximumBytes)).mapError (fun e =>
    match e with
    | .filesystem _ _ => .value ⟨"CAS member could not be read safely"⟩
    | e => e)

/-- A stored document and the model it holds: parsed, validated and spelled in the one way. -/
def readDocument {α : Type} (codec : Codec α) (content : Bytes) (maximumBytes : ℕ) :
    Except ValueError α := do
  codec.decode (← strictCasJsonLoads content maximumBytes)

/-- The name of the record in an entry. -/
def recordName : Text := py "record.json"

/-- The name of the payload in a dataset entry. -/
def payloadName : Text := py "payload.json"

/-- What `_load_dataset_directory` does with what it has read. -/
def verifyDataset (limits : CasLimits) (reference : Text) (recordBytes payloadBytes : Bytes) :
    Except ValueError StoredDataset := do
  let record ← readDocument DatasetRecord.codec recordBytes limits.recordBytes
  let payload ← readDocument DatasetPayload.codec payloadBytes limits.datasetPayloadBytes
  Except.raiseIf ((← casJsonBytes (DatasetRecord.codec.encode record)) ≠ recordBytes ∨
      (← casJsonBytes (DatasetPayload.codec.encode payload)) ≠ payloadBytes)
    ⟨"dataset entry omits or changes a materialized record field"⟩
  Except.raiseIf ((← record.reference) ≠ reference)
    ⟨"dataset reference digest does not match its stored record"⟩
  record.validatePayload payload
  return ⟨reference, record, payload⟩

/-- The reading of a dataset entry. -/
def readDataset (limits : CasLimits) (reference : Text) : Look StoredDataset := do
  validateOwnedDirectory []
  let entries ← Probe.query (.iterdir [])
  if sameNames entries [recordName, payloadName] = false then
    Probe.fail (.value ⟨"dataset entry has unexpected members"⟩)
  else
    let recordBytes ← readPrivate [recordName] limits.recordBytes
    let payloadBytes ← readPrivate [payloadName] limits.datasetPayloadBytes
    Probe.lift Raised.value (verifyDataset limits reference recordBytes payloadBytes)

/-- `_load_dataset_directory` -/
def loadDatasetDirectory (directory : Location) (reference : Text) : Host StoredDataset := do
  let limits := (← get).session.limits
  verifying directory reference (look directory (readDataset limits reference))

/-- `load_dataset` -/
def loadDataset (reference : Text) : Host StoredDataset := do
  let destination ← resolve reference .dataset
  Effect.rescue (loadDatasetDirectory destination reference) (fun e =>
    match e with
    | .host _ _ => throw e
    | _ => do
        quarantine destination reference
        throw (failure .recordCorrupt))

/-! ## Loading operations -/

/-- The bundle in an operation entry. -/
def bundleName : Text := py "bundle"

/-- What the walk over a bundle has found: the portable keys so far and the paths to read. -/
abbrev Found := List Text × List Text

/-- The files of one directory of the walk. -/
def collectFiles (root : List Text) : List Text → Found → Except ValueError Found
  | [], found => return found
  | name :: rest, (keys, paths) => do
      let relative := PrefixCode.joinSep 0x2F (root ++ [name])
      match portableMemberKey relative with
      | .error _ => throw ⟨"operation member path is unsafe"⟩
      | .ok key =>
          if relative = manifestName then collectFiles root rest (keys, paths)
          else if key ∈ keys then throw ⟨"operation bundle has an invalid member count"⟩
          else collectFiles root rest (key :: keys, paths ++ [relative])

/-- Every directory that the walk lists has to be private. -/
def validateDirectories (root : List Text) : List Text → Look Unit
  | [] => return
  | name :: rest => do
      validateOwnedDirectory (bundleName :: root ++ [name])
      validateDirectories root rest

/-- The loop over `os.walk`. -/
def collectSteps : List Node.WalkStep → Found → Look Found
  | [], found => return found
  | step :: rest, found => do
      validateDirectories step.root step.directories
      let found ← Probe.lift Raised.value (collectFiles step.root step.files found)
      collectSteps rest found

/-- Read the members within what remains of the byte limit. -/
def readMembers (remaining : ℕ) : List Text → Look (List (Text × Bytes))
  | [] => return []
  | relative :: rest => do
      let content ← readPrivate (bundleName :: split 0x2F relative) remaining
      return (relative, content) :: (← readMembers (remaining - content.length) rest)

/-- `_read_operation_bundle` -/
def readOperationBundle (limits : CasLimits) : Look (Bytes × List (Text × Bytes)) := do
  validateOwnedDirectory [bundleName]
  let manifestBytes ← readPrivate [bundleName, manifestName] limits.operationBundleBytes
  let steps ← Probe.query (.walk [bundleName])
  let manifestKey ← Probe.lift Raised.value (portableMemberKey manifestName)
  let (_, paths) ← collectSteps steps ([manifestKey], [])
  if ¬ (2 ≤ paths.length ∧ paths.length ≤ 130) then
    Probe.fail (.value ⟨"operation bundle has an invalid member count"⟩)
  else
    let members ← readMembers (limits.operationBundleBytes - manifestBytes.length)
      (sortBy utf8Raw paths)
    return (manifestBytes, members)

/-- What `_load_operation_directory` does with the record it has read. -/
def verifyOperationRecord (limits : CasLimits) (reference : Text) (recordBytes : Bytes) :
    Except ValueError OperationRecord := do
  let record ← readDocument OperationRecord.codec recordBytes limits.recordBytes
  Except.raiseIf ((← casJsonBytes (OperationRecord.codec.encode record)) ≠ recordBytes)
    ⟨"operation entry omits or changes a materialized record field"⟩
  Except.raiseIf ((← record.reference) ≠ reference)
    ⟨"operation reference digest does not match its stored record"⟩
  return record

/-- The first reading of an operation entry: its record, its manifest and its members. -/
def readOperation (limits : CasLimits) (reference : Text) :
    Look (OperationRecord × Bytes × List (Text × Bytes)) := do
  validateOwnedDirectory []
  let entries ← Probe.query (.iterdir [])
  if sameNames entries [recordName, bundleName] = false then
    Probe.fail (.value ⟨"operation entry has unexpected members"⟩)
  else
    let recordBytes ← readPrivate [recordName] limits.recordBytes
    let record ← Probe.lift Raised.value (verifyOperationRecord limits reference recordBytes)
    let (manifestBytes, members) ← readOperationBundle limits
    return (record, manifestBytes, members)

/-- The dataset that a binding names, loaded and verified. -/
def loadSource (binding : OperationBinding) : Host (Option SourceDataset) :=
  match binding.1.source with
  | none => return none
  | some source =>
      if source.1.kind = .operation then
        throw (.value ⟨"operation-source records remain deferred"⟩)
      else do
        let stored ← loadDataset source.1.ref
        return some (stored.record, stored.payload)

/-- `_reconcile_operation`, which reads the bundle a second time -/
def reconcileOperation (record : OperationRecord) (directory : Location) :
    Host OperationManifest := do
  let dataset ← loadSource record.1.binding
  look directory (reconcileOperationRecord record [bundleName] dataset)

/-- `_load_operation_directory` -/
def loadOperationDirectory (directory : Location) (reference : Text) : Host StoredOperation := do
  let limits := (← get).session.limits
  verifying directory reference (do
    let (record, manifestBytes, members) ← look directory (readOperation limits reference)
    let manifest ← reconcileOperation record directory
    return ⟨reference, record, manifest, manifestBytes, members⟩)

/-- The two handlers of `load_operation`: every failure sends the entry to quarantine. -/
def operationCorrupt {α : Type} (destination : Location) (reference : Text) (e : Raised) :
    Host α := do
  quarantine destination reference
  match e with
  | .host .recordCorrupt _ => throw e
  | _ => throw (failure .recordCorrupt)

/-- `load_operation` -/
def loadOperation (reference : Text) : Host StoredOperation := do
  let destination ← resolve reference .operation
  Effect.rescue (loadOperationDirectory destination reference)
    (operationCorrupt destination reference)

/-! ## Publishing -/

/-- `_entry_size` -/
def entrySize (loc : Location) : Host ℕ :=
  look loc ((Probe.query .privateTreeSize).mapError (fun e =>
    match e with
    | .filesystem _ _ => .value ⟨"CAS entry contains an unsafe member"⟩
    | e => e))

/-- Create a stage, unless its name is taken. -/
def createStage (stage : Location) : Host Bool :=
  Effect.rescue (do change stage createEntry; return true) (fun e =>
    match e with
    | .filesystem .alreadyExists _ => pure false
    | e => throw e)

/-- The attempts of `_new_stage` that are left. -/
def newStageFrom (kind : String) : ℕ → Host Location
  | 0 => throw (refusal .alreadyExists)
  | attempts + 1 => do
      let token ← tokenHex
      let stage : Location := ⟨.staging, py kind ++ py "-" ++ token⟩
      if ← createStage stage then return stage else newStageFrom kind attempts

/-- `_new_stage` -/
def newStage (kind : String) : Host Location := newStageFrom kind 100

/-- `_write_private` -/
def writePrivate (stage : Location) (path : List Text) (content : Bytes) : Host Unit :=
  Effect.rescue (change stage (createFile content path)) (fun e =>
    match e with
    | .filesystem _ _ => throw (Raised.value ⟨"CAS member could not be created privately"⟩)
    | e => throw e)

/-- The `finally` of both publications. -/
def removeStage (stage : Location) : Host Unit := do
  if ← pathExists stage then ignoreFilesystem (change stage removeTree) else return

/-- The `except` clauses of both publications: host failures pass, everything else is one failure. -/
def publicationGuard {α : Type} (x : Host α) : Host α :=
  Effect.rescue x (fun e =>
    match e with
    | .host _ _ => throw e
    | _ => throw (failure .recordPublicationFailed))

/-- Load a stored entry of either kind, for the sake of its verification. -/
def loadDirectory : RecordKind → Location → Text → Host Unit
  | .dataset, directory, reference => do let _ ← loadDatasetDirectory directory reference
  | .operation, directory, reference => do let _ ← loadOperationDirectory directory reference

/-- What `_publish_stage` does when the stage was not moved: it goes on if something stands there. -/
def notMoved (destination : Location) (e : Raised) : Host Bool :=
  match e with
  | .filesystem .alreadyExists _ => return false
  | .filesystem _ _ => do if ← pathExists destination then return false else throw e
  | _ => throw e

/-- Move a stage into place, unless something stands there. -/
def moveStage (stage destination : Location) : Host Bool :=
  Effect.rescue (do publishDirectoryNoReplace stage destination; return true) (notMoved destination)

/-- `_publish_stage` -/
def publishStage (stage destination : Location) (reference : Text) (kind : RecordKind) :
    Host Unit := do
  if ← moveStage stage destination then return
  else corruptOnError destination reference (loadDirectory kind destination reference)

/-- The arguments of `publish_dataset`, validated and serialized. -/
def validateDatasetArguments (payload record : Value) :
    Except ValueError (DatasetRecord × Bytes × Bytes) := do
  let validatedPayload ← DatasetPayload.codec.decode payload
  let validatedRecord ← DatasetRecord.codec.decode record
  validatedRecord.validatePayload validatedPayload
  let payloadBytes ← casJsonBytes (DatasetPayload.codec.encode validatedPayload)
  let recordBytes ← casJsonBytes (DatasetRecord.codec.encode validatedRecord)
  return (validatedRecord, payloadBytes, recordBytes)

/-- Publishing over an entry that is there: it has to verify. -/
def republishDataset (destination : Location) (reference : Text) : Host Text := do
  let loaded ← corruptOnError destination reference (loadDatasetDirectory destination reference)
  let size ← entrySize destination
  register reference size
  return loaded.reference

/-- `publish_dataset`; the arguments are the canonical projections of the two models. -/
def publishDataset (payload record : Value) : Host Text := do
  requireOpen
  let (validatedRecord, payloadBytes, recordBytes) ←
    Effect.lift (fun _ => failure .recordPublicationFailed)
      (validateDatasetArguments payload record)
  let w ← get
  Effect.raiseIf (w.session.limits.datasetPayloadBytes < payloadBytes.length)
    (limitFailure .inputLimitExceeded "normalized_dataset_payload_bytes"
      w.session.limits.datasetPayloadBytes payloadBytes.length)
  Effect.raiseIf (w.session.limits.recordBytes < recordBytes.length)
    (failure .recordPublicationFailed)
  let reference ← Effect.lift Raised.value validatedRecord.reference
  Effect.raiseIf (reference ∈ w.session.corruptReferences) (failure .recordCorrupt)
  let destination ← Effect.lift id (destinationOf reference .dataset)
  if ← pathExists destination then republishDataset destination reference
  else
    reserve (payloadBytes.length + recordBytes.length)
    let stage ← newStage "dataset"
    Effect.finallyDo (publicationGuard (do
      writePrivate stage [recordName] recordBytes
      writePrivate stage [payloadName] payloadBytes
      let _ ← loadDatasetDirectory stage reference
      publishStage stage destination reference .dataset
      register reference (payloadBytes.length + recordBytes.length)
      return reference)) (removeStage stage)

/-- `_validated_manifest`, as without a recursion limit -/
def validatedManifest (content : Bytes) : Except ValueError OperationManifest := do
  let value ← strictJsonLoads content (some maxOperationBundleBytes)
  let manifest ← OperationManifest.codec.decode value
  if (← prettyJsonBytes (OperationManifest.codec.encode manifest)) ≠ content then
    throw ⟨"operation manifest is not the exact Phase-1 serialization"⟩
  return manifest

/-- The loop of `_validated_member_mapping`; the names are the keys of a mapping. -/
def validatedMembersFrom (keys : List Text) : List (Text × Bytes) →
    Except ValueError (List (Text × Bytes))
  | [] => return []
  | (name, content) :: rest => do
      match portableMemberKey name with
      | .error _ => throw ⟨"operation member mapping is invalid"⟩
      | .ok key =>
          if key ∈ keys then throw ⟨"operation member mapping is invalid"⟩
          else return (name, content) :: (← validatedMembersFrom (key :: keys) rest)

/-- `_validated_member_mapping` -/
def validatedMemberMapping (members : List (Text × Bytes)) :
    Except ValueError (List (Text × Bytes)) := do
  if ¬ (2 ≤ members.length ∧ members.length ≤ 130) then
    throw ⟨"operation bundle has an invalid member count"⟩
  validatedMembersFrom [← portableMemberKey manifestName] members

/-- The arguments of `publish_operation`, validated and serialized as without a recursion limit. -/
def validateOperationArguments (record : Value) (manifestBytes : Bytes)
    (members : List (Text × Bytes)) :
    Except ValueError (OperationRecord × List (Text × Bytes) × Bytes) := do
  let validatedRecord ← OperationRecord.codec.decode record
  let _ ← validatedManifest manifestBytes
  let memberCopy ← validatedMemberMapping members
  let recordBytes ← casJsonBytes (OperationRecord.codec.encode validatedRecord)
  return (validatedRecord, memberCopy, recordBytes)

/-- `_validated_manifest` on a limited stack -/
def validatedManifestWithin (recursion : Recursion) (content : Bytes) :
    Except Stopped OperationManifest := do
  let value ← strictJsonLoadsWithin recursion content (some maxOperationBundleBytes)
  let manifest ← (OperationManifest.codec.decode value).mapError .value
  let dumped := OperationManifest.codec.encode manifest
  if (← recursion.through dumped (prettyJsonBytes dumped)) ≠ content then
    throw (.value ⟨"operation manifest is not the exact Phase-1 serialization"⟩)
  return manifest

/-- The arguments of `publish_operation`, validated and serialized on a limited stack. -/
def operationArgumentsWithin (recursion : Recursion) (record : Value) (manifestBytes : Bytes)
    (members : List (Text × Bytes)) :
    Except Stopped (OperationRecord × List (Text × Bytes) × Bytes) := do
  let validatedRecord ← recursion.through record (OperationRecord.codec.decode record)
  let _ ← validatedManifestWithin recursion manifestBytes
  let memberCopy ← (validatedMemberMapping members).mapError .value
  let dumped := OperationRecord.codec.encode validatedRecord
  let recordBytes ← recursion.through dumped (casJsonBytes dumped)
  return (validatedRecord, memberCopy, recordBytes)

/-- `except (TypeError, ValueError, ValidationError)` around the validation, which a
`RecursionError` passes. -/
def argumentsFailure : Stopped → Raised
  | .value _ => failure .recordPublicationFailed
  | .recursion => .recursion

/-- Equality of dicts, for lists of members with distinct names. -/
def sameMembers (left right : List (Text × Bytes)) : Bool :=
  decide (left.length = right.length ∧ ∀ member ∈ left, member ∈ right)

/-- The comparison of a stored operation with the one to be published. -/
def sameOperation (loaded : StoredOperation) (record : OperationRecord) (manifestBytes : Bytes)
    (members : List (Text × Bytes)) : Bool :=
  (OperationRecord.codec.encode loaded.record).pyEq (OperationRecord.codec.encode record) &&
    loaded.manifestBytes == manifestBytes && sameMembers loaded.members members

/-- Publishing over an entry that is there: it has to verify and to hold the same operation. -/
def republishOperation (destination : Location) (reference : Text) (record : OperationRecord)
    (manifestBytes : Bytes) (members : List (Text × Bytes)) : Host Text := do
  let loaded ← corruptOnError destination reference (loadOperationDirectory destination reference)
  Effect.raiseIf (sameOperation loaded record manifestBytes members = false)
    (failure .recordPublicationFailed)
  let size ← entrySize destination
  register reference size
  return loaded.reference

/-- Write the members of a bundle, each into its directory. -/
def writeMembers (stage : Location) : List (Text × Bytes) → Host Unit
  | [] => return
  | (name, content) :: rest => do
      let path := bundleName :: split 0x2F name
      let w ← get
      change stage (createDirectories w.restrictedByDefault true path.dropLast)
      writePrivate stage path content
      writeMembers stage rest

/-- Write the entry of an operation into its stage. -/
def writeOperation (stage : Location) (restrictedByDefault : Bool)
    (recordBytes manifestBytes : Bytes) (members : List (Text × Bytes)) : Host Unit := do
  writePrivate stage [recordName] recordBytes
  change stage (createDirectories restrictedByDefault false [bundleName])
  writePrivate stage [bundleName, manifestName] manifestBytes
  writeMembers stage members

/-- `publish_operation`; the record argument is the canonical projection of the model. -/
def publishOperation (record : Value) (manifestBytes : Bytes) (members : List (Text × Bytes)) :
    Host Text := do
  requireOpen
  let w ← get
  let (validatedRecord, memberCopy, recordBytes) ←
    Effect.lift argumentsFailure (operationArgumentsWithin w.recursion record manifestBytes members)
  let bundleSize := manifestBytes.length + (memberCopy.map (fun member => member.2.length)).sum
  Effect.raiseIf (w.session.limits.operationBundleBytes < bundleSize)
    (limitFailure .resultLimitExceeded "operation_bundle_bytes"
      w.session.limits.operationBundleBytes bundleSize)
  Effect.raiseIf (w.session.limits.recordBytes < recordBytes.length)
    (failure .recordPublicationFailed)
  let reference ← Effect.lift Raised.value validatedRecord.reference
  Effect.raiseIf (reference ∈ w.session.corruptReferences) (failure .recordCorrupt)
  let destination ← Effect.lift id (destinationOf reference .operation)
  if ← pathExists destination then
    republishOperation destination reference validatedRecord manifestBytes memberCopy
  else
    reserve (recordBytes.length + bundleSize)
    let stage ← newStage "operation"
    Effect.finallyDo (publicationGuard (do
      writeOperation stage w.restrictedByDefault recordBytes manifestBytes memberCopy
      let _ ← loadOperationDirectory stage reference
      if ← pathExists destination then
        republishOperation destination reference validatedRecord manifestBytes memberCopy
      else
        publishStage stage destination reference .operation
        register reference (recordBytes.length + bundleSize)
        return reference)) (removeStage stage)

end SessionCas
