import DefinedQuant.Protocol.Plan
import DefinedQuant.Shared.CursorRoundTrip
import DefinedQuant.Shared.DataRecords.FaithfulDocuments
import DefinedQuant.Shared.SessionAccounting

/-!
# Which failures leave the store

A call of the store is meant to return or to raise a host failure. Two steps are taken outside every
handler: a publication creates its stage before its `try`, and a publication over an entry that is
there measures the entry after the handler around its verification. `Exposed` names the point at
which a publication takes such a step. A third failure passes the handler that it is raised under:
the validation of an operation catches no `RecursionError`, which a manifest or a record raises that
is nested too deeply (`OperationOverflows`). A call fails in the closed vocabulary exactly when its
validation meets no recursion limit and the exposed step that it arrives at succeeds.
-/

namespace SessionCas

open Json Canonical Protocol DataRecords HostFailures LocalHost OperationRecords FileTree Effect

variable {w w' : World}

/-! ## Temporary output -/

/-- `temporary_operation_output`, around what is done with the path that it yields. -/
def temporaryOperationOutput (body : Location → List Text → Host Unit) : Host Unit := do
  requireOpen
  let stage ← newStage "operation"
  Effect.finallyDo (body stage [bundleName]) (removeStage stage)

/-! ## The steps outside the handlers -/

/-- Where a publication stands when it leaves its handlers. -/
inductive Exposed where
  | measure (destination : Location) (reference result : Text)
  | stage (kind : String) (body : Location → Host Text)

/-- `publish_dataset` as far as the step outside its handlers. -/
def exposeDataset (payload record : Value) : Host Exposed := do
  requireOpen
  let (validatedRecord, payloadBytes, recordBytes) ←
    Effect.lift (fun _ => failure .recordPublicationFailed)
      (validateDatasetArguments payload record)
  let w ← get
  Effect.raiseIf (w.session.limits.datasetPayloadBytes < payloadBytes.length)
    (limitFailure .inputLimitExceeded "normalized_dataset_payload_bytes"
      w.session.limits.datasetPayloadBytes payloadBytes.length)
  Effect.raiseIf (w.session.limits.recordBytes < recordBytes.length)
    (failure .recordPublicationFailed)
  let reference ← Effect.lift Raised.value validatedRecord.reference
  Effect.raiseIf (reference ∈ w.session.corruptReferences) (failure .recordCorrupt)
  let destination ← Effect.lift id (destinationOf reference .dataset)
  if ← pathExists destination then
    let loaded ← corruptOnError destination reference (loadDatasetDirectory destination reference)
    return .measure destination reference loaded.reference
  else
    reserve (payloadBytes.length + recordBytes.length)
    return .stage "dataset" (fun stage => do
      writePrivate stage [recordName] recordBytes
      writePrivate stage [payloadName] payloadBytes
      let _ ← loadDatasetDirectory stage reference
      publishStage stage destination reference .dataset
      register reference (payloadBytes.length + recordBytes.length)
      return reference)

/-- `publish_operation` as far as the step outside its handlers. -/
def exposeOperation (record : Value) (manifestBytes : Bytes) (members : List (Text × Bytes)) :
    Host Exposed := do
  requireOpen
  let w ← get
  let (validatedRecord, memberCopy, recordBytes) ←
    Effect.lift argumentsFailure (operationArgumentsWithin w.recursion record manifestBytes members)
  let bundleSize := manifestBytes.length + (memberCopy.map (fun member => member.2.length)).sum
  Effect.raiseIf (w.session.limits.operationBundleBytes < bundleSize)
    (limitFailure .resultLimitExceeded "operation_bundle_bytes"
      w.session.limits.operationBundleBytes bundleSize)
  Effect.raiseIf (w.session.limits.recordBytes < recordBytes.length)
    (failure .recordPublicationFailed)
  let reference ← Effect.lift Raised.value validatedRecord.reference
  Effect.raiseIf (reference ∈ w.session.corruptReferences) (failure .recordCorrupt)
  let destination ← Effect.lift id (destinationOf reference .operation)
  if ← pathExists destination then
    let loaded ← corruptOnError destination reference (loadOperationDirectory destination reference)
    Effect.raiseIf (sameOperation loaded validatedRecord manifestBytes memberCopy = false)
      (failure .recordPublicationFailed)
    return .measure destination reference loaded.reference
  else
    reserve (recordBytes.length + bundleSize)
    return .stage "operation" (fun stage => do
      writeOperation stage w.restrictedByDefault recordBytes manifestBytes memberCopy
      let _ ← loadOperationDirectory stage reference
      if ← pathExists destination then
        republishOperation destination reference validatedRecord manifestBytes memberCopy
      else
        publishStage stage destination reference .operation
        register reference (recordBytes.length + bundleSize)
        return reference)

/-- The validation of a manifest meets the recursion limit: `json.loads` on its text, or the
canonical encoding on what was read or on what is written back to be compared. -/
inductive ManifestOverflows (recursion : Recursion) (content : Bytes) : Prop where
  | reading (text : Text) : content.length ≤ maxOperationBundleBytes →
    utf8Decode content = some text →
      text.head? ≠ some 0xFEFF → loadsWithin recursion.stack text = .error .recursion →
      ManifestOverflows recursion content
  | encoding (text : Text) (value : Value) : content.length ≤ maxOperationBundleBytes →
      utf8Decode content = some text → text.head? ≠ some 0xFEFF →
      loadsWithin recursion.stack text = .ok value → recursion.encodes value = false →
      ManifestOverflows recursion content
  | writing (value : Value) (manifest : OperationManifest) :
      strictJsonLoadsWithin recursion content (some maxOperationBundleBytes) = .ok value →
      OperationManifest.codec.decode value = .ok manifest →
      recursion.encodes (OperationManifest.codec.encode manifest) = false →
      ManifestOverflows recursion content

/-- The validation of an operation meets the recursion limit: at its record, at its manifest, or
where the record is written. -/
inductive OperationOverflows (recursion : Recursion) (record : Value) (manifestBytes : Bytes)
    (members : List (Text × Bytes)) : Prop where
  | record : recursion.encodes record = false → OperationOverflows recursion record manifestBytes
    members
  | manifest (validated : OperationRecord) : recursion.encodes record = true →
      OperationRecord.codec.decode record = .ok validated →
        ManifestOverflows recursion manifestBytes →
      OperationOverflows recursion record manifestBytes members
  | writing (validated : OperationRecord) (manifest : OperationManifest)
    (memberCopy : List (Text × Bytes)) :
      recursion.encodes record = true → OperationRecord.codec.decode record = .ok validated →
      validatedManifestWithin recursion manifestBytes = .ok manifest →
      validatedMemberMapping members = .ok memberCopy →
      recursion.encodes (OperationRecord.codec.encode validated) = false →
      OperationOverflows recursion record manifestBytes members

/-- The entry can be measured: the size query does not fail, and the tree is as it should be. -/
def Measurable (w : World) (loc : Location) : Prop :=
  w.oracle.fault w.tick = none ∧ ∃ size, answer (w.stir.disk.entry loc) .privateTreeSize = .ok size

/-- The name of a stage made from the next token. -/
def World.stageName (w : World) (kind : String) : Location :=
  ⟨.staging, py kind ++ py "-" ++ w.oracle.token w.tick⟩

/-- One of the attempts that are left creates its stage, and those before it find their names taken. -/
def StageCreated (kind : String) : ℕ → World → Prop
  | 0, _ => False
  | attempts + 1, w =>
      let asked : World := { w with tick := w.tick + 1 }
      match w.oracle.fault asked.tick, asked.stir.disk.entry (w.stageName kind) with
      | none, none => True
      | none, some _ => StageCreated kind attempts asked.stir
      | some fault, entry =>
          fault.code = .alreadyExists ∧ StageCreated kind attempts
            { asked.stir with disk := asked.stir.disk.set (w.stageName kind) (fault.residue entry) }

/-- An error of the filesystem, raised as it is. -/
def IsFilesystem : Raised → Prop
  | .filesystem _ _ => True
  | _ => False

/-- A program that raises host failures only. -/
abbrev FailsClosed {α : Type} (x : Host α) : Prop := Raises Raised.IsHost x

/-- Opening brackets are valid UTF-8. -/
theorem utf8Decode_brackets (n : ℕ) :
    utf8Decode (List.replicate n (0x5B : Byte)) = some (List.replicate n (0x5B : CodePoint)) := by
  have hAscii : Text.IsAscii (List.replicate n 0x5B) := by
    intro c hc
    rw [List.eq_of_mem_replicate hc]
    decide
  refine utf8Decode_of_utf8 (utf8_eq_some_iff.2 ⟨hAscii.encodable, ?_⟩)
  rw [hAscii.utf8Raw_eq, List.map_replicate]
  rfl

/-- A manifest of more opening brackets than there are levels left is one on which the validation
stops. -/
theorem operationOverflows_brackets {recursion : Recursion} {record : Value}
    {validated : OperationRecord} {n : ℕ}
    (members : List (Text × Bytes)) (hEncodes : recursion.encodes record = true)
    (hRecord : OperationRecord.codec.decode record = .ok validated)
    (hSize : n ≤ maxOperationBundleBytes) (hDeep : recursion.stack.depth < n) :
    OperationOverflows recursion record (List.replicate n 0x5B) members := by
  refine .manifest validated hEncodes hRecord (.reading (List.replicate n 0x5B) ?_
    (utf8Decode_brackets n) ?_
    (loadsWithin_brackets hDeep))
  · rw [List.length_replicate]
    exact hSize
  · obtain ⟨n, rfl⟩ := Nat.exists_eq_add_one_of_ne_zero (Nat.ne_zero_of_lt hDeep)
    rw [List.replicate_succ, List.head?_cons]
    exact fun h => absurd (Option.some.inj h) (by decide)

/-- The step outside the handlers succeeds. -/
def Exposed.Covered : Exposed → World → Prop
  | .measure destination _ _, w => Measurable w destination
  | .stage kind _, w => StageCreated kind 100 w

/-- The step outside the handlers that a call takes, if it takes one, succeeds, and its validation
does not meet the recursion limit. -/
def Call.Covered (w : World) : Call → Prop
  | .publishDataset payload record =>
      ∀ point t, (exposeDataset payload record).run w = .ok point t → point.Covered t
  | .publishOperation record manifestBytes members =>
      (w.session.closed = false → ¬ OperationOverflows w.recursion record manifestBytes members) ∧
        ∀ point t, (exposeOperation record manifestBytes members).run w = .ok point t →
          point.Covered t
  | _ => True

/-- What is done with a temporary output; what it raises itself are host failures. -/
structure OutputUse where
  body : Location → List Text → Host Unit
  failsClosed : ∀ stage path, FailsClosed (body stage path)

/-- Something that happens to a session. -/
inductive Event where
  | call (c : Call)
  | temporaryOperationOutput (output : OutputUse)
  | close
  | others (registry : SessionScopeRegistry)

def Event.run : Event → Host Unit
  | .call c => c.run
  | .temporaryOperationOutput output => SessionCas.temporaryOperationOutput output.body
  | .close => SessionCas.close
  | .others registry => modify (fun w => { w with registry := registry })

/-- The step outside the handlers that a call takes, if it takes one, succeeds. -/
def Event.Covered (w : World) : Event → Prop
  | .call c => c.Covered w
  | .temporaryOperationOutput _ => w.session.closed = false → StageCreated "operation" 100 w
  | _ => True

end SessionCas
