import DefinedQuant.Shared.DataRecords.FaithfulDocuments
import DefinedQuant.Shared.DataRecords.Validity
import DefinedQuant.Shared.SessionPublishing

/-!
# Publications that return

In calm surroundings a valid dataset within the limits is published where nothing stands: the stage
is made and filled, read back, moved into place and registered. Two small datasets with one
reference serve as samples wherever a run of a session is needed in full.
-/

namespace SessionCas

open Json Canonical DataRecords HostFailures LocalHost FileTree Effect
open Protocol (Sha256Text)

variable {w w' : World}

/-! ## The entry of a dataset -/

/-- The entry of a dataset as it is published. -/
def datasetEntry (recordBytes payloadBytes : Bytes) : Node :=
  .directory .personal [(recordName, .file .personal recordBytes),
    (payloadName, .file .personal payloadBytes)]

/-- A file within the limit is read whole. -/
theorem readContent_eq_ok {content content' : Bytes} {maximumBytes : ℕ} :
    readContent content maximumBytes = .ok content' ↔
      content.length ≤ maximumBytes ∧ content = content' := by
  unfold readContent
  split_ifs with h
  · simp [not_le.2 h]
  · simp [not_lt.1 h]

/-- Reading a published entry verifies the two files that it was given. -/
theorem replay_readDataset_datasetEntry {limits : CasLimits} {reference : Text}
    {recordBytes payloadBytes : Bytes} {stored : StoredDataset} :
    (readDataset limits reference).replay (answer (some (datasetEntry recordBytes payloadBytes)))
        = .ok stored ↔
      recordBytes.length ≤ limits.recordBytes ∧ payloadBytes.length ≤ limits.datasetPayloadBytes ∧
        verifyDataset limits reference recordBytes payloadBytes = .ok stored := by
  have hOwned : (validateOwnedDirectory []).replay
      (answer (some (datasetEntry recordBytes payloadBytes))) = .ok () := rfl
  have hNames : (Probe.query (.iterdir []) : Look (List Text)).replay
      (answer (some (datasetEntry recordBytes payloadBytes))) = .ok [recordName, payloadName] := rfl
  have hRecord : answer (some (datasetEntry recordBytes payloadBytes))
      (.readPrivateFile [recordName] limits.recordBytes)
        = readContent recordBytes limits.recordBytes := rfl
  have hPayload : answer (some (datasetEntry recordBytes payloadBytes))
      (.readPrivateFile [payloadName] limits.datasetPayloadBytes)
        = readContent payloadBytes limits.datasetPayloadBytes := rfl
  have hSame : sameNames [recordName, payloadName] [recordName, payloadName] ≠ false := by decide
  unfold readDataset
  rw [Probe.replay_bind, hOwned]
  show (Probe.query (.iterdir []) >>= _ : Look StoredDataset).replay _ = _ ↔ _
  rw [Probe.replay_bind, hNames]
  show (ite _ _ _ : Look StoredDataset).replay _ = _ ↔ _
  rw [if_neg hSame]
  simp only [readPrivate, Probe.replay_bind, Except.bind_eq_ok, Probe.replay_mapError,
    Except.mapError_eq_ok, Probe.replay_query, Probe.replay_lift, hRecord, hPayload,
    readContent_eq_ok]
  constructor
  · rintro ⟨_, ⟨hRecord, rfl⟩, _, ⟨hPayload, rfl⟩, hVerify⟩
    exact ⟨hRecord, hPayload, hVerify⟩
  · rintro ⟨hRecord, hPayload, hVerify⟩
    exact ⟨_, ⟨hRecord, rfl⟩, _, ⟨hPayload, rfl⟩, hVerify⟩

/-! ## Valid arguments -/

/-- What `_validate_dataset_arguments` checks and what it gives back. -/
theorem validateDatasetArguments_eq_ok {payload record : Value} {validatedRecord : DatasetRecord}
    {payloadBytes recordBytes : Bytes} :
    validateDatasetArguments payload record = .ok (validatedRecord, payloadBytes, recordBytes) ↔
      ∃ validatedPayload, DatasetPayload.codec.decode payload = .ok validatedPayload ∧
        DatasetRecord.codec.decode record = .ok validatedRecord ∧
        validatedRecord.validatePayload validatedPayload = .ok () ∧
        casJsonBytes (DatasetPayload.codec.encode validatedPayload) = .ok payloadBytes ∧
        casJsonBytes (DatasetRecord.codec.encode validatedRecord) = .ok recordBytes := by
  unfold validateDatasetArguments
  simp only [Except.bind_eq_ok, Except.pure_eq_ok]
  constructor
  · rintro ⟨validatedPayload, hPayload, _, hRecord, _, hValid, _, hPayloadBytes, _, hRecordBytes, h⟩
    cases h
    exact ⟨validatedPayload, hPayload, hRecord, hValid, hPayloadBytes, hRecordBytes⟩
  · rintro ⟨validatedPayload, hPayload, hRecord, hValid, hPayloadBytes, hRecordBytes⟩
    exact ⟨validatedPayload, hPayload, _, hRecord, (), hValid, _, hPayloadBytes, _,
      hRecordBytes, rfl⟩

/-! ## A publication over nothing returns -/

/-- A run that has touched nothing but files and the clock. -/
structure OnlyFiles (w w' : World) : Prop where
  oracle : w'.oracle = w.oracle
  session : w'.session = w.session
  registry : w'.registry = w.registry

/-- A read changes no file. -/
theorem Reads.onlyFiles (h : Reads w w') : OnlyFiles w w' := ⟨h.oracle, h.session, h.registry⟩

instance : IsTrans World OnlyFiles where
  trans _ _ _ h h' := ⟨h'.oracle.trans h.oracle, h'.session.trans h.session,
    h'.registry.trans h.registry⟩

/-- In calm surroundings a change that is possible is made, to the files alone. -/
theorem run_change_of_calm {loc : Location} {f : Option Node → Except Raised (Option Node)}
    {node : Option Node} (hCalm : w.Calm) (h : f (w.disk.entry loc) = .ok node) :
    ∃ w', (change loc f).run w = .ok () w' ∧ OnlyFiles w w' ∧ w'.disk = w.disk.set loc node := by
  have hDisk := (reads_stir w).disk hCalm.quiet
  refine ⟨{ w.stir with disk := w.stir.disk.set loc node },
    run_change_eq_ok.2 ⟨hCalm.fault _, node, by rw [hDisk]; exact h, rfl⟩, ⟨rfl, rfl, rfl⟩, ?_⟩
  show w.stir.disk.set loc node = _
  rw [hDisk]

/-- Removing from a place that was free leaves what was there. -/
theorem set_none_of_free {disk : Disk} {loc : Location} (h : disk.entry loc = none) :
    disk.set loc none = disk := by
  unfold Disk.set
  rw [Function.update_eq_self_iff.2 h.symm]

/-- The last write to a location counts. -/
theorem set_set (disk : Disk) (loc : Location) (node node' : Option Node) :
    (disk.set loc node).set loc node' = disk.set loc node' := by
  unfold Disk.set
  rw [Function.update_idem]

/-- A location holds what was just written there. -/
theorem entry_set_self (disk : Disk) (loc : Location) (node : Option Node) :
    (disk.set loc node).entry loc = node := Function.update_self _ _ _

/-- A write touches no other location. -/
theorem entry_set_of_ne (disk : Disk) {loc loc' : Location} (node : Option Node) (h : loc' ≠ loc) :
    (disk.set loc node).entry loc' = disk.entry loc' := Function.update_of_ne h _ _

/-- A document that was written within the limit is read back. -/
theorem readDocument_of_written {α : Type} (codec : Codec α) {a : α} {content : Bytes}
    {maximumBytes : ℕ} (hContent : casJsonBytes (codec.encode a) = .ok content)
    (hMaximum : content.length ≤ maximumBytes) :
    readDocument codec content maximumBytes = .ok a := by
  unfold readDocument
  rw [strictCasJsonLoads_casJsonBytes (codec.distinct_encode a) hContent hMaximum]
  exact codec.decode_sorted_encode a

/-- Verified arguments are what the entry made of them verifies as. -/
theorem verifyDataset_of_arguments {limits : CasLimits} {payload record : Value} {reference : Text}
    {validatedRecord : DatasetRecord} {payloadBytes recordBytes : Bytes}
    (hArguments : validateDatasetArguments payload record
      = .ok (validatedRecord, payloadBytes, recordBytes))
    (hPayload : payloadBytes.length ≤ limits.datasetPayloadBytes)
    (hRecord : recordBytes.length ≤ limits.recordBytes)
    (hReference : validatedRecord.reference = .ok reference) :
    ∃ stored, verifyDataset limits reference recordBytes payloadBytes = .ok stored := by
  obtain ⟨validatedPayload, -, -, hValid, hPayloadBytes, hRecordBytes⟩ :=
    validateDatasetArguments_eq_ok.1 hArguments
  exact ⟨⟨reference, validatedRecord, validatedPayload⟩, verifyDataset_eq_ok.2
    ⟨rfl, readDocument_of_written _ hRecordBytes hRecord, readDocument_of_written _ hPayloadBytes
      hPayload,
      hRecordBytes, hPayloadBytes, hReference, hValid⟩⟩

/-- What a publication over nothing does to its world: the entry is put in place, and a new
reference is registered with the bytes of payload and record. -/
structure Puts (reference : Text) (loc : Location) (recordBytes payloadBytes : Bytes)
    (before : Disk) (w w' : World) : Prop where
  oracle : w'.oracle = w.oracle
  session : reference ∉ w.session.references →
    w'.session = (w.register reference (payloadBytes.length + recordBytes.length)).session
  registry : reference ∉ w.session.references →
    w'.registry = w.registry.register w.session.sessionId reference
  disk : w'.disk = before.set loc (some (datasetEntry recordBytes payloadBytes))

/-- Work on a stage that holds nothing yet, with room for the entry, returns. -/
theorem run_stageDataset_of_calm {stage destination : Location} {reference : Text}
    {recordBytes payloadBytes : Bytes} {stored : StoredDataset} (hCalm : w.Calm)
    (hStage : stage.area = .staging) (hStored : IsStored destination)
    (hEmpty : w.disk.entry stage = some emptyEntry) (hFree : w.disk.entry destination = none)
    (hRoom : w.HasRoom (payloadBytes.length + recordBytes.length))
    (hPayload : payloadBytes.length ≤ w.session.limits.datasetPayloadBytes)
    (hRecord : recordBytes.length ≤ w.session.limits.recordBytes)
    (hVerify : verifyDataset w.session.limits reference recordBytes payloadBytes = .ok stored) :
    ∃ w', (stageDataset stage destination reference recordBytes payloadBytes).run w
      = .ok reference w' ∧
        Puts reference destination recordBytes payloadBytes (w.disk.set stage none) w w' := by
  have hNe : destination ≠ stage := fun hEq => hStored.area_ne.1 (hEq ▸ hStage)
  obtain ⟨t₁, hWrite₁, hOnly₁, hDisk₁⟩ := @run_change_of_calm _ stage
    (createFile recordBytes [recordName]) (some (.directory .personal
      [(recordName, .file .personal recordBytes)])) hCalm (by rw [hEmpty]; rfl)
  obtain ⟨t₂, hWrite₂, hOnly₂, hDisk₂⟩ := @run_change_of_calm _ stage
    (createFile payloadBytes [payloadName]) (some (datasetEntry recordBytes payloadBytes))
    (hCalm.congr hOnly₁.oracle)
    (by rw [hDisk₁, entry_set_self]; rfl)
  rw [hDisk₁, set_set] at hDisk₂
  have hOnly := IsTrans.trans (r := OnlyFiles) _ _ _ hOnly₁ hOnly₂
  have hCalm₂ := hCalm.congr hOnly.oracle
  have hReplay : (readDataset t₂.session.limits reference).replay (answer (t₂.disk.entry stage))
      = .ok stored := by
    rw [hDisk₂, entry_set_self, hOnly.session]
    exact replay_readDataset_datasetEntry.2 ⟨hRecord, hPayload, hVerify⟩
  obtain ⟨t₃, hReads, hLook⟩ := run_look_of_replay hCalm₂ hReplay
  have hCalm₃ := hCalm₂.congr hReads.oracle
  have hOnly₃ := IsTrans.trans (r := OnlyFiles) _ _ _ hOnly hReads.onlyFiles
  have hDisk₃ : t₃.stir.disk = w.disk.set stage (some (datasetEntry recordBytes payloadBytes)) := by
    rw [(reads_stir t₃).disk hCalm₃.quiet, hReads.disk hCalm₂.quiet, hDisk₂]
  -- the stage is moved to where nothing stands
  have hRename : renameEntry t₃.stir.disk stage destination =
      .ok ((w.disk.set stage none).set destination
        (some (datasetEntry recordBytes payloadBytes))) := by
    unfold renameEntry
    rw [hDisk₃, entry_set_self, entry_set_of_ne _ _ hNe, hFree, set_set]
  have hMove : (moveStage stage destination).run t₃ = .ok true { t₃.stir with
      disk := (w.disk.set stage none).set destination (some (datasetEntry recordBytes payloadBytes))
        } := by
    refine run_rescue_eq_ok.2 (.inl (run_bind_eq_ok.2 ⟨(), _, ?_, rfl⟩))
    exact run_publishDirectoryNoReplace_eq_ok.2 ⟨hCalm₃.fault _, _, hRename, rfl⟩
  obtain ⟨t₅, hRegister, hPuts⟩ : ∃ t₅,
      (register reference (payloadBytes.length + recordBytes.length)).run { t₃.stir with
        disk := (w.disk.set stage none).set destination
          (some (datasetEntry recordBytes payloadBytes)) } = .ok () t₅ ∧
        Puts reference destination recordBytes payloadBytes (w.disk.set stage none) w t₅ := by
    by_cases hMem : reference ∈ w.session.references
    · exact ⟨_, run_register_eq_ok.2 (.inl ⟨by show _ ∈ t₃.session.references; rwa [hOnly₃.session],
        rfl⟩), hOnly₃.oracle, fun hNew => absurd hMem hNew, fun hNew => absurd hMem hNew, rfl⟩
    · refine ⟨_, run_register_eq_ok.2 (.inr ⟨?_, ?_, rfl⟩), hOnly₃.oracle, fun _ => ?_, fun _ =>
        ?_, rfl⟩
      · show _ ∉ t₃.session.references
        rwa [hOnly₃.session]
      · show t₃.session.usedBytes + _ ≤ t₃.session.limits.sessionBytes
        rw [hOnly₃.session]
        exact hRoom
      · show (World.register t₃ reference _).session = _
        simp only [World.register, hOnly₃.session]
      · show t₃.registry.register t₃.session.sessionId reference = _
        rw [hOnly₃.session, hOnly₃.registry]
  refine ⟨t₅, ?_, hPuts⟩
  unfold stageDataset commit
  refine run_bind_eq_ok.2 ⟨(), t₁, run_writePrivate_eq_ok.2 hWrite₁, ?_⟩
  refine run_bind_eq_ok.2 ⟨(), t₂, run_writePrivate_eq_ok.2 hWrite₂, ?_⟩
  refine run_bind_eq_ok.2 ⟨stored, t₃, run_loadDatasetDirectory_eq_ok.2 hLook, ?_⟩
  refine run_bind_eq_ok.2 ⟨(), _, run_bind_eq_ok.2 ⟨true, _, hMove, rfl⟩, ?_⟩
  exact run_bind_eq_ok.2 ⟨(), t₅, hRegister, rfl⟩

/-- A new stage, when the first name that is tried is not taken. -/
theorem run_newStage_of_calm {kind : String} (hCalm : w.Calm)
    (hFree : w.disk.entry ⟨.staging, py kind ++ py "-" ++ w.oracle.token w.tick⟩ = none) :
    ∃ w', (newStage kind).run w = .ok ⟨.staging, py kind ++ py "-" ++ w.oracle.token w.tick⟩ w' ∧
      OnlyFiles w w' ∧
      w'.disk = w.disk.set ⟨.staging, py kind ++ py "-" ++ w.oracle.token w.tick⟩
        (some emptyEntry) := by
  have hToken : tokenHex.run w = .ok (w.oracle.token w.tick) { w with tick := w.tick + 1 } := rfl
  have hCalm' : World.Calm { w with tick := w.tick + 1 } := hCalm.congr rfl
  obtain ⟨t, hCreate, hOnly, hDisk⟩ := @run_change_of_calm _
    ⟨.staging, py kind ++ py "-" ++ w.oracle.token w.tick⟩ createEntry (some emptyEntry) hCalm'
    (by show createEntry (w.disk.entry _) = _; rw [hFree]; rfl)
  refine ⟨t, run_bind_eq_ok.2 ⟨_, _, hToken, run_bind_eq_ok.2 ⟨true, t, ?_, rfl⟩⟩,
    ⟨hOnly.oracle, hOnly.session, hOnly.registry⟩, hDisk⟩
  exact run_rescue_eq_ok.2 (.inl (run_bind_eq_ok.2 ⟨(), t, hCreate, rfl⟩))

/-- There is nothing to remove where a stage has been moved away. -/
theorem run_removeStage_of_free {stage : Location} (hCalm : w.Calm)
    (hFree : w.disk.entry stage = none) : (removeStage stage).run w = .ok () w.stir := by
  show (if ((w.stir.disk.entry stage).bind Node.resolve).isSome then
    ignoreFilesystem (change stage removeTree) else pure ()).run w.stir = _
  rw [(reads_stir w).disk hCalm.quiet, hFree]
  rfl

/-- In calm surroundings, a valid dataset within the limits is published where nothing stands. -/
theorem run_publishDataset_of_missing {payload record : Value} {validatedRecord : DatasetRecord}
    {payloadBytes recordBytes : Bytes} {reference : Text} {destination : Location} (hCalm : w.Calm)
    (hOpen : w.session.closed = false) (hArguments : validateDatasetArguments payload record
      = .ok (validatedRecord, payloadBytes, recordBytes))
    (hPayload : payloadBytes.length ≤ w.session.limits.datasetPayloadBytes)
    (hRecord : recordBytes.length ≤ w.session.limits.recordBytes)
    (hReference : validatedRecord.reference = .ok reference)
    (hCorrupt : reference ∉ w.session.corruptReferences)
    (hDestination : destinationOf reference .dataset = .ok destination)
    (hMissing : w.disk.entry destination = none)
    (hRoom : w.HasRoom (payloadBytes.length + recordBytes.length))
    (hFree : ∀ token, w.disk.entry ⟨.staging, py "dataset" ++ py "-" ++ token⟩ = none) :
    ∃ w', (publishDataset payload record).run w = .ok reference w' ∧
      Puts reference destination recordBytes payloadBytes w.disk w w' := by
  have hStir := reads_stir w
  have hCalm₁ := hCalm.congr hStir.oracle
  obtain ⟨-, hStored, -⟩ := destinationOf_spec hDestination
  obtain ⟨t, hNew, hOnly, hDisk⟩ := @run_newStage_of_calm _ "dataset" hCalm₁ (by
    rw [hStir.disk hCalm.quiet]
    exact hFree _)
  obtain ⟨stored, hVerify⟩ := verifyDataset_of_arguments hArguments hPayload hRecord hReference
  have hNe : destination ≠ ⟨.staging, py "dataset" ++ py "-" ++ w.stir.oracle.token w.stir.tick⟩ :=
    fun hEq => hStored.area_ne.1 (by rw [hEq])
  have hSession : t.session = w.session := hOnly.session
  obtain ⟨t', hStage, hPuts⟩ := @run_stageDataset_of_calm t _ destination
    reference _ _ _ (hCalm₁.congr hOnly.oracle) rfl hStored
    (by rw [hDisk, entry_set_self])
    (by rw [hDisk, entry_set_of_ne _ _ hNe, hStir.disk hCalm.quiet, hMissing])
    (by unfold World.HasRoom; rw [hSession]; exact hRoom)
    (by rw [hSession]; exact hPayload) (by rw [hSession]; exact hRecord)
    (by rw [hSession]; exact hVerify)
  -- the stage is gone, and the rest of the disk is as it was
  have hDisk' : t'.disk = w.disk.set destination (some (datasetEntry recordBytes payloadBytes)) :=
    by
    rw [hPuts.disk, hDisk, set_set, hStir.disk hCalm.quiet, set_none_of_free (hFree _)]
  have hCalm' : t'.Calm := (hCalm₁.congr hOnly.oracle).congr hPuts.oracle
  have hRemove := @run_removeStage_of_free t'
    ⟨.staging, py "dataset" ++ py "-" ++ w.stir.oracle.token w.stir.tick⟩ hCalm' (by
      rw [hDisk', entry_set_of_ne _ _ hNe.symm]
      exact hFree _)
  refine ⟨t'.stir, ?_, ?_⟩
  · unfold publishDataset
    rw [run_requireOpen_bind_eq_ok, run_lift_bind_eq_ok]
    simp only [run_get_bind, run_raiseIf_bind_eq_ok, run_lift_bind_eq_ok]
    have hFound : (pathExists destination).run w = .ok false w.stir := by
      show EStateM.Result.ok (((w.stir.disk.entry destination).bind Node.resolve).isSome) w.stir = _
      rw [hStir.disk hCalm.quiet, hMissing]
      rfl
    refine ⟨hOpen, _, hArguments, not_lt.2 hPayload, not_lt.2 hRecord, reference, hReference,
      hCorrupt, destination, hDestination, run_bind_eq_ok.2 ⟨false, w.stir, hFound, ?_⟩⟩
    have hReserve : (reserve (payloadBytes.length + recordBytes.length)).run w.stir =
      .ok () w.stir :=
      run_raiseIf_eq_ok.2 ⟨not_lt.2 hRoom, rfl⟩
    refine run_bind_eq_ok.2 ⟨(), w.stir, hReserve, run_bind_eq_ok.2 ⟨_, t, hNew, ?_⟩⟩
    exact run_finallyDo_of_ok (run_publicationGuard_eq_ok.2 hStage) hRemove
  · have hNew : reference ∉ w.session.references → reference ∉ t.session.references := by
      rw [hSession]
      exact id
    have hRegistry : t.registry = w.registry := hOnly.registry
    refine ⟨hPuts.oracle.trans hOnly.oracle, fun hFresh => ?_, fun hFresh => ?_, ?_⟩
    · show t'.session = _
      rw [hPuts.session (hNew hFresh)]
      simp only [World.register, hSession]
    · show t'.registry = _
      rw [hPuts.registry (hNew hFresh), hRegistry, hSession]
    · rw [(reads_stir t').disk hCalm'.quiet, hDisk']

/-! ## A session that has just been opened -/

/-- A stack of a thousand levels, of which a call finds most left. -/
def roomyRecursion : Recursion where
  stack := ⟨900, fun _ => 3⟩
  encodes value := fits 0 value 200

/-- Surroundings that leave the files alone, in which nothing fails. -/
def calmOracle : Oracle := ⟨fun _ disk => disk, fun _ => none, fun _ => [], fun _ => roomyRecursion⟩

/-- A session that has just been opened, in an empty directory and in calm surroundings. -/
def World.opened (sessionId : Text) (limits : CasLimits) (cursorKey : Bytes) : World where
  oracle := calmOracle
  restrictedByDefault := true
  tick := 0
  disk := ⟨true, none, fun _ => none⟩
  session := Session.opened sessionId limits cursorKey
  registry := fun _ => ∅

/-- Nothing interferes with a session that was just opened. -/
theorem calm_opened (sessionId : Text) (limits : CasLimits) (cursorKey : Bytes) :
    (World.opened sessionId limits cursorKey).Calm := ⟨fun _ _ => rfl, fun _ => rfl⟩

/-! ## Two datasets with one reference -/

/-- A payload of two cells, the second of which is `2`. -/
def samplePayload (cell : Value) : Value :=
  .obj [(py "schema_version", .int 1), (py "serialization", .lit "dq-table-v1"),
    (py "columns", .list [.obj [(py "field_id", .lit "x"), (py "data_type", .lit "number")]]),
    (py "rows", .list [.list [cell], .list [.int 2]])]

/-- The cell `1`. -/
def integerCell : Value := .int 1

/-- The cell `1.0`. -/
def floatCell : Value := .float (Binary64.ofInt 1)

/-- The record of both. -/
def sampleRecord : Value :=
  .obj [(py "host_schema_version", .int 1), (py "record_kind", .lit "dataset"),
    (py "payload", .obj [(py "serialization", .lit "dq-table-v1"), (py "sha256",
      .lit "ccb7def2ec6c1ce792f1cc451885dc88a837f91aabe22be7c6844bfd2ead87bb")]),
    (py "raw_source_sha256", .str (List.replicate 64 0x30)),
    (py "source", .obj [(py "kind", .lit "inline_rows"), (py "provenance", .obj [
      (py "source_kind", .lit "synthetic"), (py "interpretation_method", .lit "caller_structured"),
      (py "verification_status", .lit "unverified"), (py "label", .lit "sample"),
      (py "references", .list []), (py "assumptions", .list [])])]),
    (py "external_preprocessing", .obj [(py "status", .lit "unknown")]),
    (py "columns", .list [.obj [(py "source_name", .lit "x"), (py "field_id", .lit "x"),
      (py "data_type", .lit "number"), (py "role", .lit "value"), (py "semantic_port", .null)]]),
    (py "semantics", .obj [(py "ordering", .lit "preserve_source_order")]),
    (py "row_count", .int 2), (py "column_count", .int 1), (py "observation_bounds", .null),
    (py "normalization_events", .list []), (py "findings", .list []),
    (py "normalizer", .obj [(py "name", .lit "n"), (py "version", .lit "1.0.0")])]

def sampleDigest : Text := py "7f494b808bef97a5a7965a5f88ab4a30dcc8713e2a56631f6a1c136f1653f48d"

/-- The reference of the sample record. -/
def sampleReference : Text := makeReference .dataset sampleDigest

/-- What the counterexamples need to know of validated arguments. -/
def argumentFacts (arguments : Except ValueError (DatasetRecord × Bytes × Bytes)) :
    Option (Option Text × ℕ × ℕ) :=
  match arguments with
  | .ok (record, payloadBytes, recordBytes) =>
      some (record.reference.toOption, payloadBytes.length, recordBytes.length)
  | .error _ => none

/-- The facts of accepted arguments: the reference and the two sizes. -/
theorem argumentFacts_ok (record : DatasetRecord) (payloadBytes recordBytes : Bytes) :
    argumentFacts (.ok (record, payloadBytes, recordBytes))
      = some (record.reference.toOption, payloadBytes.length, recordBytes.length) := rfl

/-! ### The samples as models

`samplePayload` and `sampleRecord` are what the models below are encoded as, so they are decoded
without computing. Only the two digests are computed, and the sizes.
-/

/-- The table of a number and `2`. -/
def cellTable (cell : SortedJson) : DatasetPayloadFields where
  columns := ⟨[⟨⟨py "x", by decide⟩, .number⟩], by decide⟩
  rows := ⟨[[cell], [.of (.int 2) trivial]], rfl⟩

/-- The table of one cell is valid for every number that may stand in it. -/
theorem validateTable_cellTable {cell : SortedJson}
    (hCell : validateCell cell.value .number = .ok ())
    (hAccepts : Accepts (samplePayload cell.value)) : (cellTable cell).validateTable = .ok () := by
  refine DatasetPayloadFields.validateTable_eq_ok.2 ⟨List.nodup_singleton _, fun row hRow => ?_,
    hAccepts⟩
  rcases List.mem_cons.1 hRow with rfl | hRow
  · refine ⟨rfl, fun p hp => ?_⟩
    obtain rfl := List.mem_singleton.1 hp
    exact hCell
  · obtain rfl := List.mem_singleton.1 hRow
    refine ⟨rfl, fun p hp => ?_⟩
    obtain rfl := List.mem_singleton.1 hp
    rfl

/-- The digest of both payloads. -/
def cellSha256 : Sha256Text :=
  ⟨py "ccb7def2ec6c1ce792f1cc451885dc88a837f91aabe22be7c6844bfd2ead87bb", by decide⟩

def cellColumn : DatasetRecordColumn :=
  ⟨{ sourceName := ⟨py "x", by decide⟩
     fieldId := ⟨py "x", by decide⟩
     dataType := .number
     role := .value
     semanticPort := none }, rfl⟩

/-! What the fields of a record with one row check, shared by the samples. -/

/-- An empty list of references is within its limit. -/
theorem noReferences : Protocol.lengthWithin 0 50 ([] : List ProvenanceText) = .ok () := rfl

/-- An empty list of normalization events is within its limit. -/
theorem noEvents : Protocol.lengthWithin 0 768 ([] : List NormalizationEvent) = .ok () := rfl

/-- An empty list of findings is within its limit. -/
theorem noFindings : Protocol.lengthWithin 0 50 ([] : List DatasetFinding) = .ok () := rfl

/-- One row is within the limit on rows. -/
theorem oneRow : (decide ((1 : ℤ) ≤ 1) && decide ((1 : ℤ) ≤ maxDatasetRows)) = true := by decide

/-- Two rows are within the limit on rows. -/
theorem twoRows : (decide ((1 : ℤ) ≤ 2) && decide ((2 : ℤ) ≤ maxDatasetRows)) = true := by decide

/-- One column is within the limit on columns. -/
theorem oneColumn : (decide ((1 : ℤ) ≤ 1) && decide ((1 : ℤ) ≤ maxDatasetColumns)) = true := by
    decide

/-- The sample version is a semantic version. -/
theorem validateSemver_one : validateSemver (py "1.0.0") = .ok () := by decide

def cellFields : DatasetRecordFields where
  payload := ⟨cellSha256⟩
  rawSourceSha256 := ⟨List.replicate 64 0x30, Protocol.isSha256_zeros⟩
  source := .inline .inlineRows
    { sourceKind := .synthetic
      interpretationMethod := .callerStructured
      verificationStatus := .unverified
      label := ⟨py "sample", by decide⟩
      references := ⟨[], noReferences⟩
      contentSha256 := none
      assumptions := ⟨[], noReferences⟩ }
  externalPreprocessing := .without .unknown
  columns := ⟨[cellColumn], by decide⟩
  semantics := ⟨none, none, none, none, none, none, none, none, none⟩
  rowCount := ⟨2, twoRows⟩
  columnCount := ⟨1, oneColumn⟩
  observationBounds := none
  normalizationEvents := ⟨[], noEvents⟩
  findings := ⟨[], noFindings⟩
  normalizer := ⟨⟨py "n", by decide⟩, ⟨py "1.0.0", Protocol.isSemver_one⟩⟩

/-- The fields of the sample record are valid together. -/
theorem validateRecord_cellFields : cellFields.validateRecord = .ok () := by
  refine DatasetRecordFields.validateRecord_eq_ok.2 ⟨rfl, ⟨List.nodup_singleton _,
    List.nodup_singleton _⟩, Nat.zero_le 1, fun _ => rfl, List.nodup_nil, rfl, nofun, rfl,
    nofun, ?_⟩
  exact validateSemver_one

def cellRecord : DatasetRecord := ⟨cellFields, validateRecord_cellFields⟩

/-- The sample record document decodes to the sample record. -/
theorem decode_sampleRecord : DatasetRecord.codec.decode sampleRecord = .ok cellRecord :=
  DatasetRecord.codec.decode_encode cellRecord

/-- The canonical hash of the sample record document. -/
theorem digest_sampleRecord : canonicalHash sampleRecord datasetRecordHashDomain =
    .ok sampleDigest := by
  rw [canonicalHash_eq_evaluate]
  decide +kernel

/-- The reference of the sample record is its hash with the prefix. -/
theorem reference_cellRecord : cellRecord.reference = .ok sampleReference := by
  have hDigest : cellRecord.digest = .ok sampleDigest := digest_sampleRecord
  rw [DatasetRecord.reference, hDigest]
  rfl

/-- The sizes of the sample documents in canonical bytes. -/
theorem sizes_sample : size sampleRecord = 796 ∧ size (samplePayload integerCell) = 117 ∧
    size (samplePayload floatCell) = 119 := by
  decide +kernel

/-- A value that has a canonical hash is accepted by the canonical encoder. -/
theorem accepts_of_canonicalHash {v : Value} {domain digest : Text}
    (h : canonicalHash v domain = .ok digest) :
    Accepts v := by
  obtain ⟨p, hPayload, -⟩ := Except.bind_eq_ok.1 h
  obtain ⟨-, bs, hBytes, -⟩ := hashPayload_eq_ok hPayload
  exact ⟨bs, hBytes⟩

def cellPayload (cell : SortedJson) (hCell : validateCell cell.value .number = .ok ())
    (hAccepts : Accepts (samplePayload cell.value)) : DatasetPayload :=
  ⟨cellTable cell, validateTable_cellTable hCell hAccepts⟩

/-- The sample payload document decodes to the table of its cell. -/
theorem decode_samplePayload {cell : SortedJson} (hCell : validateCell cell.value .number = .ok ())
    (hAccepts : Accepts (samplePayload cell.value)) :
    DatasetPayload.codec.decode (samplePayload cell.value) =
      .ok (cellPayload cell hCell hAccepts) :=
  DatasetPayload.codec.decode_encode (cellPayload cell hCell hAccepts)

/-- A table of one number whose digest is the one that the record names goes with the record. -/
theorem argumentFacts_cellTable {cell : SortedJson} {n : ℕ}
    (hCell : validateCell cell.value .number = .ok ())
    (hDigest : canonicalHash (samplePayload cell.value) datasetPayloadHashDomain = .ok cellSha256.1)
    (hSize : size (samplePayload cell.value) = n) :
    argumentFacts (validateDatasetArguments (samplePayload cell.value) sampleRecord)
      = some (some sampleReference, n + 1, 797) := by
  have hAccepts := accepts_of_canonicalHash hDigest
  have hValid : cellRecord.validatePayload (cellPayload cell hCell hAccepts) = .ok () := by
    unfold DatasetRecord.validatePayload
    refine Except.bind_eq_ok.2 ⟨_, hDigest, Except.throwIf_eq_ok.2 ⟨not_not.2 rfl, ?_⟩⟩
    exact Except.throwIf_eq_ok.2 ⟨not_or.2 ⟨not_not.2 rfl, not_not.2 rfl⟩,
      Except.throwIf_eq_ok.2 ⟨not_not.2 rfl, rfl⟩⟩
  obtain ⟨payloadBytes, hPayloadBytes⟩ : ∃ bytes, casJsonBytes (samplePayload cell.value) =
    .ok bytes :=
    ⟨_, documentBytes_of_accepts .compactSorted hAccepts⟩
  obtain ⟨recordBytes, hRecordBytes⟩ : ∃ bytes, casJsonBytes sampleRecord = .ok bytes :=
    ⟨_, documentBytes_of_accepts .compactSorted (accepts_of_canonicalHash digest_sampleRecord)⟩
  have hArguments := validateDatasetArguments_eq_ok.2
    ⟨_, decode_samplePayload hCell hAccepts, decode_sampleRecord, hValid, hPayloadBytes,
      hRecordBytes⟩
  rw [hArguments, argumentFacts_ok, reference_cellRecord, length_casJsonBytes hPayloadBytes,
    length_casJsonBytes hRecordBytes, hSize, sizes_sample.1]
  rfl

-- Both in one, so that what they share is computed once.
/-- The payload with an integer and the payload with the equal double have the same canonical hash. -/
theorem digest_samplePayload :
    canonicalHash (samplePayload integerCell) datasetPayloadHashDomain = .ok cellSha256.1 ∧
      canonicalHash (samplePayload floatCell) datasetPayloadHashDomain = .ok cellSha256.1 := by
  rw [canonicalHash_eq_evaluate, canonicalHash_eq_evaluate]
  decide +kernel

/-- The double is a valid cell of a number column. -/
theorem validateCell_floatCell : validateCell floatCell .number = .ok () := by
  decide +kernel

/-- The reference and the sizes of the arguments with an integer. -/
theorem argumentFacts_integerCell : argumentFacts (validateDatasetArguments
    (samplePayload integerCell) sampleRecord) = some (some sampleReference, 118, 797) :=
  @argumentFacts_cellTable (.of integerCell trivial) _ rfl digest_samplePayload.1 sizes_sample.2.1

/-- The reference and the sizes of the arguments with a double: the same reference, two more bytes. -/
theorem argumentFacts_floatCell : argumentFacts (validateDatasetArguments
    (samplePayload floatCell) sampleRecord) = some (some sampleReference, 120, 797) :=
  @argumentFacts_cellTable (.of floatCell trivial) _ validateCell_floatCell digest_samplePayload.2
    sizes_sample.2.2

/-- Known facts come from accepted arguments. -/
theorem argumentFacts_eq_some {arguments : Except ValueError (DatasetRecord × Bytes × Bytes)}
    {reference : Text} {m n : ℕ} (h : argumentFacts arguments = some (some reference, m, n)) :
    ∃ record payloadBytes recordBytes, arguments = .ok (record, payloadBytes, recordBytes) ∧
      record.reference = .ok reference ∧ payloadBytes.length = m ∧ recordBytes.length = n := by
  unfold argumentFacts at h
  split at h
  · next record payloadBytes recordBytes =>
      simp only [Option.some.injEq, Prod.mk.injEq] at h
      obtain ⟨hReference, hPayload, hRecord⟩ := h
      refine ⟨record, payloadBytes, recordBytes, rfl, ?_, hPayload, hRecord⟩
      cases hEq : record.reference with
      | ok r =>
          rw [hEq] at hReference
          exact congrArg Except.ok (Option.some.inj hReference)
      | error e =>
          rw [hEq] at hReference
          cases hReference
  · cases h

/-- Limits with room for both samples. -/
def sampleLimits : CasLimits :=
  ⟨2000, 2000, 2000, 10000, by decide, by decide, by decide, by decide⟩

/-- The sample reference names a dataset by its digest. -/
theorem destinationOf_sampleReference :
    destinationOf sampleReference .dataset = .ok ⟨.datasets, sampleDigest⟩ :=
  destinationOf_makeReference .dataset (by decide)

/-! ## Publishing the samples -/

/-- Published over nothing, the sample takes its payload and its record. -/
theorem takes_datasetEntry (recordBytes payloadBytes : Bytes) :
    Takes (some (datasetEntry recordBytes payloadBytes))
      (payloadBytes.length + recordBytes.length) := by
  have hTree : Node.treeSize [(recordName, .file .personal recordBytes),
      (payloadName, .file .personal payloadBytes)] =
      .ok (recordBytes.length + (payloadBytes.length + 0)) := rfl
  rw [Nat.add_zero, Nat.add_comm] at hTree
  simp only [Takes, datasetEntry, answer, Option.bind_some, Node.resolve, hTree]

/-- A session with the limits of the samples that has just been opened, in an empty directory and in
calm surroundings. -/
structure FreshSession (sessionId : Text) (w : World) : Prop where
  calm : w.Calm
  session : w.session = Session.opened sessionId sampleLimits []
  empty : ∀ loc, w.disk.entry loc = none

/-- A session that was just opened is fresh. -/
theorem freshSession_opened (sessionId : Text) :
    FreshSession sessionId (World.opened sessionId sampleLimits []) :=
  ⟨calm_opened _ _ _, rfl, fun _ => rfl⟩

/-- What is known after the sample has been published into a fresh session. -/
structure HoldsSample (sessionId : Text) (w w' : World) : Prop where
  calm : w'.Calm
  session : w'.session = (w.register sampleReference 915).session
  registry : w'.registry = w.registry.register sessionId sampleReference
  takes : Takes (w'.disk.entry ⟨.datasets, sampleDigest⟩) 915

/-- The sample is published into a fresh session, which is charged 118 bytes for the payload and 797
for the record. -/
theorem run_publishDataset_sample {sessionId : Text} (h : FreshSession sessionId w) :
    ∃ w', (publishDataset (samplePayload integerCell) sampleRecord).run w = .ok sampleReference w' ∧
      HoldsSample sessionId w w' := by
  obtain ⟨record, payloadBytes, recordBytes, hArguments, hReference, hPayload, hRecord⟩ :=
    argumentFacts_eq_some argumentFacts_integerCell
  have hRoom : 0 + (118 + 797) ≤ sampleLimits.sessionBytes := by decide
  obtain ⟨w', hRun, hPuts⟩ := run_publishDataset_of_missing h.calm (by rw [h.session]; rfl)
    hArguments
    (by rw [hPayload, h.session]; exact (by decide : 118 ≤ sampleLimits.datasetPayloadBytes))
    (by rw [hRecord, h.session]; exact (by decide : 797 ≤ sampleLimits.recordBytes)) hReference
    (by rw [h.session]; exact Finset.notMem_empty _) destinationOf_sampleReference (h.empty _)
    (by unfold World.HasRoom; rw [hPayload, hRecord, h.session]; exact hRoom) (fun _ => h.empty _)
  have hNew : sampleReference ∉ w.session.references := by
    rw [h.session]
    exact Finset.notMem_empty _
  have hSession := hPuts.session hNew
  have hRegistry := hPuts.registry hNew
  rw [hPayload, hRecord] at hSession
  rw [h.session] at hRegistry
  refine ⟨w', hRun, h.calm.congr hPuts.oracle, hSession, hRegistry, ?_⟩
  have hTakes := takes_datasetEntry recordBytes payloadBytes
  rw [hPayload, hRecord] at hTakes
  rw [hPuts.disk, entry_set_self]
  exact hTakes

end SessionCas
