import DefinedQuant.Shared.SessionAccounting

/-!
# Datasets read back as they were published

A dataset publication over nothing leaves exactly the two files it was given. Over an entry that is
there it leaves that entry alone, which holds the same dataset by its digests, but perhaps in
another spelling: canonical encoding identifies an integer with the equal double, and the stored
text does not.
-/

namespace SessionCas

open Json Canonical DataRecords HostFailures LocalHost FileTree Effect
open Protocol (Sha256Text)

variable {w w' : World}

/-! ## The entry of a dataset -/

/-- Writing the two files into a new stage makes the entry. -/
theorem entry_of_writeDataset {stage : Location} (hStage : stage.area = .staging) {t : World}
    {recordBytes payloadBytes : Bytes} (hQuiet : w.Quiet)
    (hEmpty : w.disk.entry stage = some emptyEntry)
    (hRecord : (writePrivate stage [recordName] recordBytes).run w = .ok () t)
    (hPayload : (writePrivate stage [payloadName] payloadBytes).run t = .ok () w') :
    w'.disk.entry stage = some (datasetEntry recordBytes payloadBytes) := by
  have hFirst := entry_of_change hQuiet (run_writePrivate_eq_ok.1 hRecord)
  have hSettles := (keeps_settles_writePrivate (X := ∅) (F := ∅) hStage _ _).ok hRecord
  have hSecond := entry_of_change (hQuiet.congr hSettles.oracle) (run_writePrivate_eq_ok.1 hPayload)
  rw [hEmpty] at hFirst
  rw [← Except.ok.inj hFirst] at hSecond
  exact (Except.ok.inj hSecond).symm

/-! ## Runs that mark nothing -/

/-- A run that marks no reference. -/
def MarksNothing (w w' : World) : Prop :=
  w'.session.corruptReferences = w.session.corruptReferences

instance : Std.Refl MarksNothing where
  refl _ := rfl

instance : IsTrans World MarksNothing where
  trans _ _ _ h h' := h'.trans h

/-- A read marks nothing as corrupt. -/
theorem Reads.marksNothing (h : Reads w w') : MarksNothing w w' := by
  unfold MarksNothing
  rw [h.session]

/-- Neither does a change on the disk. -/
theorem keeps_marksNothing_change (loc : Location)
    (f : Option Node → Except Raised (Option Node)) : Keeps MarksNothing (change loc f) := by
  intro v
  show MarksNothing v (final (change loc f v))
  unfold change
  split
  · rfl
  · split <;> rfl

/-- Neither does writing a file. -/
theorem keeps_marksNothing_writePrivate (stage : Location) (path : List Text) (content : Bytes) :
    Keeps MarksNothing (writePrivate stage path content) := by
  refine keeps_rescue (keeps_marksNothing_change _ _) (fun e => ?_)
  split <;> exact keeps_throw _

/-- Neither does making a stage. -/
theorem keeps_marksNothing_newStageFrom (kind : String) : ∀ attempts : ℕ,
    Keeps MarksNothing (newStageFrom kind attempts)
  | 0 => keeps_throw _
  | attempts + 1 => by
      refine keeps_bind (keeps_reads_tokenHex.mono (fun _ _ h => h.marksNothing)) (fun token => ?_)
      refine keeps_bind (keeps_rescue ?_ (fun e => ?_)) (fun created => ?_)
      · exact keeps_bind (keeps_marksNothing_change _ _) (fun _ => keeps_pure _)
      · split
        · exact keeps_pure _
        · exact keeps_throw _
      · exact keeps_ite (fun _ => keeps_pure _) (fun _ => keeps_marksNothing_newStageFrom kind
          attempts)

/-- Neither does removing one. -/
theorem keeps_marksNothing_removeStage (stage : Location) :
    Keeps MarksNothing (removeStage stage) := by
  refine keeps_bind ((keeps_reads_observe _).mono (fun _ _ h => h.marksNothing)) (fun found => ?_)
  refine keeps_ite (fun _ => ?_) (fun _ => keeps_pure _)
  exact keeps_ignoreFilesystem (keeps_marksNothing_change _ _)

/-- Neither does `_register`. -/
theorem marksNothing_of_register {reference : Text} {size : ℕ} {u : Unit}
    (h : (register reference size).run w = .ok u w') : MarksNothing w w' := by
  rcases run_register_eq_ok.1 h with ⟨-, rfl⟩ | ⟨-, -, rfl⟩ <;> rfl

/-- Neither does a stage that is published. -/
theorem marksNothing_of_publishStage {stage destination : Location} {reference : Text}
    {kind : RecordKind} {u : Unit}
    (h : (publishStage stage destination reference kind).run w = .ok u w') : MarksNothing w w' := by
  obtain ⟨moved, t, hMove, h⟩ := run_bind_eq_ok.1 h
  rcases moveStage_spec hMove with ⟨rfl, hRun⟩ | ⟨rfl, hReads⟩
  · cases h
    obtain ⟨-, disk, -, rfl⟩ := run_publishDirectoryNoReplace_eq_ok.1 hRun
    rfl
  · exact IsTrans.trans _ _ _ hReads.marksNothing
      (loadDirectory_spec (run_corruptOnError_eq_ok.1 h)).1.marksNothing

/-- In a quiet world, a stored entry stays where it is during a run that marks nothing. -/
theorem Settles.entry_eq {loc : Location} (h : Settles ∅ ∅ w w') (hQuiet : w.Quiet)
    (hStored : IsStored loc) (hMarks : MarksNothing w w')
    (hCorrupt : entryReference loc ∉ w.session.corruptReferences) :
    w'.disk.entry loc = w.disk.entry loc := by
  rcases h.entries hQuiet loc hStored (Set.notMem_empty _) with hEq | ⟨-, hMark, -⟩
  · exact hEq
  · rw [hMarks] at hMark
    exact absurd hMark hCorrupt

/-! ## What a publication leaves -/

/-- What a publication that returns leaves at the destination: the two files where nothing stood,
and otherwise what stood there, which reads as a dataset. -/
structure Leaves (limits : CasLimits) (reference : Text) (recordBytes payloadBytes : Bytes)
    (before after : Option Node) : Prop where
  reads : ∃ stored, (readDataset limits reference).replay (answer after) = .ok stored
  entry : (before.bind Node.resolve = none ∧ after = some (datasetEntry recordBytes payloadBytes)) ∨
    ((∃ info entries, before = some (.directory info entries)) ∧ after = before)

/-- A dataset that is staged and published is on disk with the octets given. -/
theorem stageDataset_leaves {stage destination : Location} {reference result : Text}
    {recordBytes payloadBytes : Bytes} (hStage : stage.area = .staging)
    (hStored : IsStored destination) (hQuiet : w.Quiet)
    (hMissing : (w.disk.entry destination).bind Node.resolve = none)
    (hCorrupt : entryReference destination ∉ w.session.corruptReferences)
    (hEmpty : w.disk.entry stage = some emptyEntry)
    (h : (stageDataset stage destination reference recordBytes payloadBytes).run w =
      .ok result w') :
    MarksNothing w w' ∧ w'.disk.entry destination = some (datasetEntry recordBytes payloadBytes) ∧
      ∃ stored, (readDataset w.session.limits reference).replay
        (answer (some (datasetEntry recordBytes payloadBytes))) = .ok stored := by
  -- The steps of the source: two files are written, read back, moved to the destination and
  -- registered.
  obtain ⟨_, t₁, hRecord, h⟩ := run_bind_eq_ok.1 h
  obtain ⟨_, t₂, hPayload, h⟩ := run_bind_eq_ok.1 h
  obtain ⟨loaded, t₃, hLoad, h⟩ := run_bind_eq_ok.1 h
  obtain ⟨_, t₄, hPublish, h⟩ := run_bind_eq_ok.1 h
  obtain ⟨_, t₅, hRegister, h⟩ := run_bind_eq_ok.1 h
  cases h
  rw [run_loadDatasetDirectory_eq_ok] at hLoad
  have hWrites := IsTrans.trans (r := Settles ∅ ∅) _ _ _
    ((keeps_settles_writePrivate hStage _ _).ok hRecord)
    ((keeps_settles_writePrivate hStage _ _).ok hPayload)
  have hReads := (keeps_reads_look _ _).ok hLoad
  have hQuiet₂ := hQuiet.congr hWrites.oracle
  have hMarks := IsTrans.trans (r := MarksNothing) _ _ _
    ((keeps_marksNothing_writePrivate _ _ _).ok hRecord)
    ((keeps_marksNothing_writePrivate _ _ _).ok hPayload)
  have hStaged := entry_of_writeDataset hStage hQuiet hEmpty hRecord hPayload
  -- The destination is still free when the stage is moved there.
  have hMissing₃ : (t₃.disk.entry destination).bind Node.resolve = none := by
    rw [hReads.disk hQuiet₂, hWrites.entry_eq hQuiet hStored hMarks hCorrupt]
    exact hMissing
  obtain ⟨-, hMoved⟩ := (publishStage_spec (F := ∅) hStage hStored hPublish).2
    (hQuiet₂.congr hReads.oracle) hMissing₃
  have hDisk : w'.disk = t₄.disk := by
    rcases run_register_eq_ok.1 hRegister with ⟨-, rfl⟩ | ⟨-, -, rfl⟩ <;> rfl
  refine ⟨?_, ?_, loaded, ?_⟩
  · exact IsTrans.trans _ _ _ (IsTrans.trans _ _ _ (IsTrans.trans _ _ _ hMarks hReads.marksNothing)
      (marksNothing_of_publishStage hPublish)) (marksNothing_of_register hRegister)
  · rw [hDisk, hMoved, hReads.disk hQuiet₂, hStaged]
  · rw [← hWrites.limits, ← hStaged]
    exact replay_of_look hQuiet₂ hLoad

/-- A dataset publication that returns in a quiet world marks nothing, and leaves its entry. -/
theorem publishDataset_leaves {payload record : Value} {result : Text} (hQuiet : w.Quiet)
    (h : (publishDataset payload record).run w = .ok result w') :
    ∃ validatedRecord payloadBytes recordBytes destination,
      validateDatasetArguments payload record = .ok (validatedRecord, payloadBytes, recordBytes) ∧
        validatedRecord.reference = .ok result ∧ destinationOf result .dataset = .ok destination ∧
        result ∉ w.session.corruptReferences ∧ MarksNothing w w' ∧
        Leaves w.session.limits result recordBytes payloadBytes (w.disk.entry destination)
          (w'.disk.entry destination) := by
  -- Everything up to the look at the destination: the arguments, the limits, the reference, and
  -- that it is not known to be corrupt.
  unfold publishDataset at h
  rw [run_requireOpen_bind_eq_ok, run_lift_bind_eq_ok] at h
  obtain ⟨-, ⟨validatedRecord, payloadBytes, recordBytes⟩, hArguments, h⟩ := h
  simp only [run_get_bind, run_raiseIf_bind_eq_ok, run_lift_bind_eq_ok] at h
  obtain ⟨-, -, reference, hReference, hCorrupt, destination, hDestination, h⟩ := h
  obtain ⟨found, t, hFound, h⟩ := run_bind_eq_ok.1 h
  obtain ⟨-, hStored, hEntry⟩ := destinationOf_spec hDestination
  cases hFound
  have hStir := reads_stir w
  have hQuiet₁ := hQuiet.congr hStir.oracle
  suffices hSpec : result = reference ∧ MarksNothing w.stir w' ∧
      Leaves w.session.limits reference recordBytes payloadBytes (w.stir.disk.entry destination)
        (w'.disk.entry destination) by
    obtain ⟨rfl, hMarks, hLeaves⟩ := hSpec
    rw [hStir.disk hQuiet] at hLeaves
    exact ⟨validatedRecord, payloadBytes, recordBytes, destination, hArguments, hReference,
      hDestination, hCorrupt, hMarks, hLeaves⟩
  split at h
  · -- something stands there, and it verifies
    obtain ⟨loaded, t₁, hLoad, h⟩ := run_bind_eq_ok.1 h
    rw [run_corruptOnError_eq_ok, run_loadDatasetDirectory_eq_ok] at hLoad
    obtain ⟨size, t₂, hSize, h⟩ := run_bind_eq_ok.1 h
    obtain ⟨u, t₃, hRegister, h⟩ := run_bind_eq_ok.1 h
    cases h
    have hReads := IsTrans.trans (r := Reads) _ _ _ ((keeps_reads_look _ _).ok hLoad)
      ((keeps_reads_entrySize _).ok hSize)
    have hReplay := replay_of_look hQuiet₁ hLoad
    have hDisk : w'.disk = w.stir.disk := by
      have hRegistered : w'.disk = t₂.disk := by
        rcases run_register_eq_ok.1 hRegister with ⟨-, rfl⟩ | ⟨-, -, rfl⟩ <;> rfl
      rw [hRegistered, hReads.disk hQuiet₁]
    obtain ⟨hDirectory, recordBytes', payloadBytes', hVerify⟩ := replay_readDataset hReplay
    refine ⟨(verifyDataset_eq_ok.1 hVerify).1, ?_, ?_⟩
    · exact IsTrans.trans _ _ _ hReads.marksNothing (marksNothing_of_register hRegister)
    · rw [hDisk]
      exact ⟨⟨loaded, hReplay⟩, .inr ⟨hDirectory, rfl⟩⟩
  · -- nothing stands there
    next hMissing =>
      rw [Bool.not_eq_true, Option.isSome_eq_false_iff, Option.isNone_iff_eq_none] at hMissing
      obtain ⟨stage, t, t', hNew, hStage, hEmpty, hBody, hRemove⟩ := run_staged_eq_ok h
      have hSettles := (keeps_settles_newStageFrom (X := ∅) (F := ∅) _ _).ok hNew
      have hMarks := (keeps_marksNothing_newStageFrom _ _).ok hNew
      have hQuiet₂ := hQuiet₁.congr hSettles.oracle
      have hCorrupt₂ : entryReference destination ∉ t.session.corruptReferences := by
        rw [hEntry, hMarks]
        exact hCorrupt
      obtain ⟨hMarks', hAfter, stored, hReplay⟩ := stageDataset_leaves hStage hStored hQuiet₂
        (missing_of_newStage hStored hNew hQuiet₁ hMissing) hCorrupt₂ (hEmpty hQuiet₁) hBody
      have hResult := (stageDataset_spec hStage hDestination
        (fun _ => missing_of_newStage hStored hNew hQuiet₁ hMissing) (fun _ => hEmpty hQuiet₁)
          hBody)
      have hMarks'' := (keeps_marksNothing_removeStage stage).ok hRemove
      have hKept : w'.disk.entry destination = t'.disk.entry destination := by
        refine ((keeps_settles_removeStage hStage).ok hRemove).entry_eq ?_ hStored hMarks'' ?_
        · exact hQuiet₂.congr hResult.2.oracle
        · rw [hMarks']
          exact hCorrupt₂
      refine ⟨hResult.1, IsTrans.trans _ _ _ (IsTrans.trans _ _ _ hMarks hMarks') hMarks'', ?_⟩
      rw [hKept, hAfter]
      refine ⟨⟨stored, ?_⟩, .inl ⟨hMissing, rfl⟩⟩
      rw [hSettles.limits] at hReplay
      exact hReplay

/-! ## Loading what was published -/

/-- A record accepts only payloads of the digest that it names. -/
theorem digest_of_validatePayload {record : DatasetRecord} {payload : DatasetPayload}
    (h : record.validatePayload payload = .ok ()) :
    payload.digest = .ok record.1.payload.sha256.1 := by
  unfold DatasetRecord.validatePayload at h
  obtain ⟨digest, hDigest, h⟩ := Except.bind_eq_ok.1 h
  by_cases hEq : digest ≠ record.1.payload.sha256.1
  · rw [if_pos hEq] at h
    cases h
  · rw [hDigest, not_not.1 hEq]

/-- The document of a record has its payload binding. -/
theorem get?_payload (record : DatasetRecord) :
    ∃ m, DatasetRecord.codec.encode record = .obj m ∧ Value.get? (py "payload") m
      = some (DatasetPayloadBinding.codec.encode record.1.payload) := ⟨_, rfl, rfl⟩

/-- The document of a payload binding has its digest. -/
theorem get?_sha256 (binding : DatasetPayloadBinding) :
    ∃ m, DatasetPayloadBinding.codec.encode binding = .obj m ∧
      Value.get? (py "sha256") m = some (.str binding.sha256.1) := ⟨_, rfl, rfl⟩

/-- Structurally equal dicts have structurally equal members. -/
theorem same_get? {m n : Members} {key : Text} {x y : Value} (h : Same (.obj m) (.obj n))
    (hx : Value.get? key m = some x) (hy : Value.get? key n = some y) : Same x y := by
  obtain ⟨n', hEq, -, hMembers⟩ := (by simpa only [Same] using h :
    ∃ n', Value.obj n = .obj n' ∧ m.length = n'.length ∧ SameMembers m n')
  cases hEq
  obtain ⟨y', hy', hSame⟩ := sameMembers_iff.1 hMembers _ (Value.mem_of_get? hx)
  rw [hy] at hy'
  cases hy'
  exact hSame

/-- Structurally equal records name one payload digest. -/
theorem sha256_of_same {record record' : DatasetRecord}
    (h : Same (DatasetRecord.codec.encode record) (DatasetRecord.codec.encode record')) :
    record.1.payload.sha256.1 = record'.1.payload.sha256.1 := by
  obtain ⟨m, hm, hPayload⟩ := get?_payload record
  obtain ⟨n, hn, hPayload'⟩ := get?_payload record'
  rw [hm, hn] at h
  have hBinding := same_get? h hPayload hPayload'
  obtain ⟨b, hb, hSha⟩ := get?_sha256 record.1.payload
  obtain ⟨c, hc, hSha'⟩ := get?_sha256 record'.1.payload
  rw [hb, hc] at hBinding
  have hText := same_get? hBinding hSha hSha'
  rw [Same, Value.str.injEq] at hText
  exact hText.symm

/-- A stored dataset is the given one, up to the spelling of numbers, unless hash inputs collide. -/
structure SameDataset (stored : StoredDataset) (payload : DatasetPayload) (record : DatasetRecord) :
    Prop where
  sameRecord : NoCollision datasetRecordHashDomain (DatasetRecord.codec.encode stored.record)
      (DatasetRecord.codec.encode record) →
    Same (DatasetRecord.codec.encode stored.record) (DatasetRecord.codec.encode record)
  samePayload : NoCollision datasetRecordHashDomain (DatasetRecord.codec.encode stored.record)
      (DatasetRecord.codec.encode record) →
    NoCollision datasetPayloadHashDomain (DatasetPayload.codec.encode stored.payload)
      (DatasetPayload.codec.encode payload) →
    Same (DatasetPayload.codec.encode stored.payload) (DatasetPayload.codec.encode payload)

/-- Datasets under one reference are the same. -/
theorem sameDataset_of_reference {stored : StoredDataset} {payload : DatasetPayload}
    {record : DatasetRecord} {reference : Text} (hStored : stored.record.reference = .ok reference)
    (hRecord : record.reference = .ok reference)
    (hValid : stored.record.validatePayload stored.payload = .ok ())
    (hValid' : record.validatePayload payload = .ok ()) : SameDataset stored payload record := by
  have hSame : NoCollision datasetRecordHashDomain (DatasetRecord.codec.encode stored.record)
      (DatasetRecord.codec.encode record) →
      Same (DatasetRecord.codec.encode stored.record) (DatasetRecord.codec.encode record) := by
    intro hNo
    obtain ⟨digest, hDigest, hEq⟩ := Except.bind_eq_ok.1 hStored
    obtain ⟨digest', hDigest', hEq'⟩ := Except.bind_eq_ok.1 hRecord
    rw [Except.pure_eq_ok] at hEq hEq'
    have hDigests : digest = digest' := List.append_cancel_left (hEq.trans hEq'.symm)
    rw [← hDigests] at hDigest'
    exact same_of_canonicalHash (Codec.distinct_encode _ _) (Codec.distinct_encode _ _) hNo hDigest
      hDigest'
  refine ⟨hSame, fun hNo hNo' => ?_⟩
  have hDigest := digest_of_validatePayload hValid
  rw [sha256_of_same (hSame hNo)] at hDigest
  exact same_of_canonicalHash (Codec.distinct_encode _ _) (Codec.distinct_encode _ _) hNo' hDigest
    (digest_of_validatePayload hValid')

/-- Whatever is loaded under the reference is `stored`, and in calm surroundings it is loaded. -/
def LoadsAs (w : World) (reference : Text) (stored : StoredDataset) : Prop :=
  (∀ loaded w', (loadDataset reference).run w = .ok loaded w' → loaded = stored) ∧
    (w.Calm → ∃ w', (loadDataset reference).run w = .ok stored w')

/-- What is on disk under an open, clean reference is loaded. -/
theorem loadsAs_of_onDisk {reference : Text} {loc : Location} {stored : StoredDataset}
    (hQuiet : w.Quiet) (hOpen : w.session.closed = false)
    (hMem : reference ∈ w.session.references) (hCorrupt : reference ∉ w.session.corruptReferences)
    (hOnDisk : DatasetOnDisk w reference loc stored) : LoadsAs w reference stored := by
  constructor
  · intro loaded w' h
    obtain ⟨destination, hResolve, hLook⟩ := run_loadDataset_eq_ok.1 h
    obtain ⟨-, hDestination, -, -, -⟩ := run_resolve_eq_ok.1 hResolve
    rw [hOnDisk.destination] at hDestination
    cases hDestination
    have hReplay := replay_of_look hQuiet hLook
    rw [hOnDisk.verified] at hReplay
    exact (Except.ok.inj hReplay).symm
  · intro hCalm
    obtain ⟨w', -, hRun⟩ := run_look_of_replay hCalm hOnDisk.verified
    exact ⟨w', run_loadDataset_eq_ok.2
      ⟨loc, run_resolve_eq_ok.2 ⟨hOpen, hOnDisk.destination, hCorrupt, hMem, rfl⟩, hRun⟩⟩

/-- In a quiet world every step carries the stored entries. -/
theorem Step.carries (hQuiet : w.Quiet) (h : Step w w') :
    Carries w w' ∧ w'.oracle = w.oracle ∧ w'.session.closed = w.session.closed := by
  cases h with
  | call c =>
      rcases call_step c w with hSettles | ⟨-, kind, loc, reference, -, -, hRegisters⟩
      · exact ⟨hSettles.carries hQuiet, hSettles.oracle, hSettles.closed⟩
      · refine ⟨?_, hRegisters.oracle, hRegisters.closed⟩
        obtain ⟨t, t', size, hBefore, hRegister, hAfter, hIntact, -⟩ := hRegisters
        have hQuiet' : t'.Quiet := hQuiet.congr (by
          rw [← hBefore.oracle]
          rcases run_register_eq_ok.1 hRegister with ⟨-, rfl⟩ | ⟨-, -, rfl⟩ <;> rfl)
        exact ((hIntact hQuiet).1.trans (carries_of_register hRegister)).trans
          (hAfter.carries hQuiet')
  | others registry => exact ⟨⟨rfl, subset_rfl, subset_rfl, fun _ _ _ => .inl rfl⟩, rfl, rfl⟩

/-- A run of a quiet session carries every entry over. -/
theorem carries_of_steps (hQuiet : w.Quiet) (h : Relation.ReflTransGen Step w w') :
    Carries w w' ∧ w'.oracle = w.oracle ∧ w'.session.closed = w.session.closed := by
  induction h with
  | refl => exact ⟨⟨rfl, subset_rfl, subset_rfl, fun _ _ _ => .inl rfl⟩, rfl, rfl⟩
  | tail _ hStep ih =>
      obtain ⟨hCarries, hOracle, hClosed⟩ := ih
      obtain ⟨hCarries', hOracle', hClosed'⟩ := hStep.carries (hQuiet.congr hOracle)
      exact ⟨hCarries.trans hCarries', hOracle'.trans hOracle, hClosed'.trans hClosed⟩

/-- What a published dataset is loaded as, at once and for as long as its reference is not corrupt. -/
structure Published (w w' : World) (reference : Text) (payload : DatasetPayload)
    (record : DatasetRecord) (payloadBytes recordBytes : Bytes) (loc : Location)
    (stored : StoredDataset) : Prop where
  destination : destinationOf reference .dataset = .ok loc
  payloadBytes_eq : casJsonBytes (DatasetPayload.codec.encode payload) = .ok payloadBytes
  recordBytes_eq : casJsonBytes (DatasetRecord.codec.encode record) = .ok recordBytes
  first : (w.disk.entry loc).bind Node.resolve = none →
    casJsonBytes (DatasetPayload.codec.encode stored.payload) = .ok payloadBytes ∧
      casJsonBytes (DatasetRecord.codec.encode stored.record) = .ok recordBytes
  again : (w.disk.entry loc).bind Node.resolve ≠ none → w'.disk.entry loc = w.disk.entry loc ∧
    (readDataset w.session.limits reference).replay (answer (w.disk.entry loc)) = .ok stored
  same : SameDataset stored payload record
  unmarked : reference ∉ w'.session.corruptReferences
  now : LoadsAs w' reference stored
  later : ∀ v, Relation.ReflTransGen Step w' v → reference ∉ v.session.corruptReferences →
    LoadsAs v reference stored

/-- After a publication the entry is on disk and loads as what was published. -/
theorem published_of_run {payload record : Value} {reference : Text} (hQuiet : w.Quiet)
    (h : (publishDataset payload record).run w = .ok reference w') :
    ∃ validatedPayload validatedRecord payloadBytes recordBytes loc stored,
      DatasetPayload.codec.decode payload = .ok validatedPayload ∧
        DatasetRecord.codec.decode record = .ok validatedRecord ∧
        Published w w' reference validatedPayload validatedRecord payloadBytes recordBytes loc
          stored := by
  -- What the publication registers, and what it leaves at the destination.
  obtain ⟨hOpen, _, _, _, _, -, -, -, hLoc, hRegisters⟩ := publishDataset_spec h
  obtain ⟨validatedRecord, payloadBytes, recordBytes, loc, hArguments, hReference, hDestination,
    hCorrupt, hMarks, ⟨stored, hReplay⟩, hEntry⟩ := publishDataset_leaves hQuiet h
  obtain ⟨validatedPayload, hPayload, hRecord, hValid, hPayloadBytes, hRecordBytes⟩ :=
    validateDatasetArguments_eq_ok.1 hArguments
  obtain ⟨-, _, _, hVerify⟩ := replay_readDataset hReplay
  obtain ⟨-, -, -, -, -, hStoredReference, hStoredValid⟩ := verifyDataset_eq_ok.1 hVerify
  have hQuiet' := hQuiet.congr hRegisters.oracle
  have hLimits : w'.session.limits = w.session.limits := by
    obtain ⟨t, t', size, hBefore, hRegister, hAfter, -⟩ := hRegisters
    rw [hAfter.limits, (carries_of_register hRegister).limits, hBefore.limits]
  have hOnDisk : DatasetOnDisk w' reference loc stored :=
    ⟨hDestination, by rw [hLimits]; exact hReplay⟩
  have hMem : reference ∈ w'.session.references := by
    rw [hRegisters.references]
    exact Finset.mem_insert_self _ _
  have hOpen' : w'.session.closed = false := hRegisters.closed.trans hOpen
  have hCorrupt' : reference ∉ w'.session.corruptReferences := by
    rw [hMarks]
    exact hCorrupt
  refine ⟨validatedPayload, validatedRecord, payloadBytes, recordBytes, loc, stored, hPayload,
    hRecord, hDestination, hPayloadBytes, hRecordBytes, fun hMissing => ?_, fun hThere => ?_,
    sameDataset_of_reference hStoredReference hReference hStoredValid hValid, hCorrupt', ?_, ?_⟩
  -- A new entry holds the octets given, an old one those it had before.
  · rcases hEntry with ⟨-, hAfter⟩ | ⟨⟨info, entries, hBefore⟩, -⟩
    · rw [hAfter] at hReplay
      obtain ⟨-, -, hVerify⟩ := replay_readDataset_datasetEntry.1 hReplay
      obtain ⟨-, -, -, hRecord, hPayload, -, -⟩ := verifyDataset_eq_ok.1 hVerify
      exact ⟨hPayload, hRecord⟩
    · rw [hBefore] at hMissing
      cases hMissing
  · rcases hEntry with ⟨hMissing, -⟩ | ⟨-, hAfter⟩
    · exact absurd hMissing hThere
    · rw [hAfter] at hReplay
      exact ⟨hAfter, hReplay⟩
  · exact loadsAs_of_onDisk hQuiet' hOpen' hMem hCorrupt' hOnDisk
  -- Later steps carry the entry over.
  · intro v hSteps hCorrupt'
    obtain ⟨hCarries, hOracle, hClosed⟩ := carries_of_steps hQuiet' hSteps
    exact loadsAs_of_onDisk (hQuiet'.congr hOracle) (hClosed.trans hOpen')
      (hCarries.references hMem) hCorrupt' (hOnDisk.carries hCarries hCorrupt')

/-! ## Datasets are published faithfully -/

/-- A dataset publication that returns while nothing outside touches the files leaves an entry that
is loaded at once, and later for as long as the reference is not corrupt. It is the dataset that was
published, octet for octet where nothing stood before, and otherwise the entry that was there, which
is the same dataset up to the spelling of its numbers. -/
theorem dataset_publication_faithful {payload record : Value} {reference : Text} (hQuiet : w.Quiet)
    (h : (publishDataset payload record).run w = .ok reference w') :
    ∃ validatedPayload validatedRecord payloadBytes recordBytes loc stored,
      DatasetPayload.codec.decode payload = .ok validatedPayload ∧
        DatasetRecord.codec.decode record = .ok validatedRecord ∧
        Published w w' reference validatedPayload validatedRecord payloadBytes recordBytes loc
          stored :=
  published_of_run hQuiet h

/-- Where nothing stood before, a dataset is loaded as what was published. -/
theorem Published.stored_eq {reference : Text} {payload : DatasetPayload} {record : DatasetRecord}
    {payloadBytes recordBytes : Bytes} {loc : Location} {stored loaded : StoredDataset} {v : World}
    (h : Published w w' reference payload record payloadBytes recordBytes loc stored)
    (hMissing : (w.disk.entry loc).bind Node.resolve = none) (hQuiet : w'.Quiet)
    (hLoad : (loadDataset reference).run w' = .ok loaded v) :
    loaded = ⟨reference, record, payload⟩ := by
  obtain ⟨hPayload, hRecord⟩ := h.first hMissing
  have hPayload' := eq_of_casJsonBytes DatasetPayload.codec hPayload h.payloadBytes_eq
  have hRecord' := eq_of_casJsonBytes DatasetRecord.codec hRecord h.recordBytes_eq
  obtain rfl := h.now.1 loaded v hLoad
  obtain ⟨destination, -, hLook⟩ := run_loadDataset_eq_ok.1 hLoad
  obtain ⟨-, _, _, hVerify⟩ := replay_readDataset (replay_of_look hQuiet hLook)
  obtain ⟨hReference, -⟩ := verifyDataset_eq_ok.1 hVerify
  cases loaded
  simp only at hReference hPayload' hRecord'
  rw [hReference, hPayload', hRecord']

/-- A publication into a session that has just been opened. -/
theorem dataset_publication_faithful_opened : ∃ w',
    (publishDataset (samplePayload integerCell) sampleRecord).run (World.opened [] sampleLimits [])
      = .ok sampleReference w' ∧ ∃ stored, LoadsAs w' sampleReference stored := by
  obtain ⟨w', hRun, -⟩ := run_publishDataset_sample (freshSession_opened [])
  have hCalm := calm_opened [] sampleLimits []
  obtain ⟨_, _, _, _, _, stored, -, -, hPublished⟩ := dataset_publication_faithful hCalm.quiet hRun
  exact ⟨w', hRun, stored, hPublished.now⟩

/-- Publishing `1.0` over `1` returns the reference of both, under which `1` is loaded. -/
theorem dataset_publication_not_octet_faithful :
    ¬ ∀ (w w' w'' : World) (payload record : Value) (reference : Text)
      (validatedPayload : DatasetPayload) (validatedRecord : DatasetRecord)
      (loaded : StoredDataset),
      Reachable w → w.Calm → DatasetPayload.codec.decode payload = .ok validatedPayload →
        DatasetRecord.codec.decode record = .ok validatedRecord →
        (publishDataset payload record).run w = .ok reference w' →
        (loadDataset reference).run w' = .ok loaded w'' →
          casJsonBytes (DatasetPayload.codec.encode loaded.payload)
              = casJsonBytes (DatasetPayload.codec.encode validatedPayload) ∧
            casJsonBytes (DatasetRecord.codec.encode loaded.record)
              = casJsonBytes (DatasetRecord.codec.encode validatedRecord) := by
  intro hClaim
  have hCalm := calm_opened [] sampleLimits []
  -- First the payload with the integer is published.
  obtain ⟨record, payloadBytes, recordBytes, hArguments, hReference, hPayload, hRecord⟩ :=
    argumentFacts_eq_some argumentFacts_integerCell
  obtain ⟨w₁, hFirst, -⟩ := run_publishDataset_sample (freshSession_opened [])
  have hStep := step_publishDataset hFirst
  have hReachable := (reachable_opened [] sampleLimits []).publishDataset hFirst
  obtain ⟨-, hOracle, -⟩ := hStep.carries hCalm.quiet
  have hCalm₁ := hCalm.congr hOracle
  obtain ⟨_, _, payloadBytes₁, _, loc, stored, hDecoded, -, hPublished⟩ :=
    published_of_run hCalm.quiet hFirst
  -- Then the payload with the equal double is published under the same reference.
  obtain ⟨record', payloadBytes', recordBytes', hArguments', hReference', hPayload', hRecord'⟩ :=
    argumentFacts_eq_some argumentFacts_floatCell
  have hMem : sampleReference ∈ w₁.session.references := by
    obtain ⟨-, _, _, _, _, -, -, -, -, hRegisters⟩ := publishDataset_spec hFirst
    rw [hRegisters.references]
    exact Finset.mem_insert_self _ _
  have hLimits : w₁.session.limits = sampleLimits := (hStep.carries hCalm.quiet).1.limits
  obtain ⟨w₂, hSecond⟩ := (datasetIdempotent hReachable.sound _ _ _ _ _ _ hArguments' hReference'
    hMem).2 hCalm₁ hPublished.unmarked (by rw [hPayload', hLimits]; decide)
    (by rw [hRecord', hLimits]; decide)
  obtain ⟨_, _, payloadBytes₂, _, _, _, hDecoded', hDecodedRecord, hPublished'⟩ :=
    published_of_run hCalm₁.quiet hSecond
  have hStep' := step_publishDataset hSecond
  have hCalm₂ := hCalm₁.congr (hStep'.carries hCalm₁.quiet).2.1
  -- What is loaded is the first payload, which is two octets shorter than the second.
  have hLoads := hPublished.later w₂ (Relation.ReflTransGen.single hStep') hPublished'.unmarked
  obtain ⟨w₃, hLoad⟩ := hLoads.2 hCalm₂
  obtain ⟨hEq, -⟩ := hClaim w₁ w₂ w₃ _ _ _ _ _ stored hReachable hCalm₁ hDecoded' hDecodedRecord
    hSecond hLoad
  rw [(hPublished.first rfl).1, hPublished'.payloadBytes_eq] at hEq
  have hLength : ∀ {cell : Value} {p : DatasetPayload} {r : DatasetRecord} {b b' c : Bytes},
      validateDatasetArguments (samplePayload cell) sampleRecord = .ok (r, b, c) →
      DatasetPayload.codec.decode (samplePayload cell) = .ok p →
      casJsonBytes (DatasetPayload.codec.encode p) = .ok b' → b' = b := by
    intro cell p r b b' c hArguments hDecode hBytes
    obtain ⟨p', hDecode', -, -, hBytes', -⟩ := validateDatasetArguments_eq_ok.1 hArguments
    rw [hDecode] at hDecode'
    cases hDecode'
    rw [hBytes] at hBytes'
    exact Except.ok.inj hBytes'
  have hFirstLength := hLength hArguments hDecoded hPublished.payloadBytes_eq
  have hSecondLength := hLength hArguments' hDecoded' hPublished'.payloadBytes_eq
  have hBytes : payloadBytes₁ = payloadBytes₂ := Except.ok.inj hEq
  rw [← hFirstLength] at hPayload
  rw [← hSecondLength, ← hBytes, hPayload] at hPayload'
  exact absurd hPayload' (by decide)

end SessionCas
