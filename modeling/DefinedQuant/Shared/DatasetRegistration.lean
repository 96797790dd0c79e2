import DefinedQuant.Protocol.Plan
import DefinedQuant.Shared.CursorBinding
import DefinedQuant.Shared.DataRecords.FaithfulDocuments
import DefinedQuant.Shared.DataRecords.Validity
import DefinedQuant.Shared.Paging

/-!
# Registering a dataset

`register_dataset` normalizes, publishes, and describes what it has published. A publication that
raises has moved no stored entry, unless it has found corruption. The description comes after the
publication, and a dataset whose description is over the limit of a response stays registered
although the call raises.
-/

namespace SessionCas

open Json DataRecords HostFailures LocalHost FileTree Effect

variable {w w' : World}

/-! ## A publication that raises -/

/-- A run during which no stored entry is moved, except for one location, and nothing is marked. -/
structure Spares (destination : Location) (w w' : World) : Prop where
  oracle : w'.oracle = w.oracle
  marks : MarksNothing w w'
  entries : w.Quiet → ∀ loc, IsStored loc → loc ≠ destination → w'.disk.entry loc = w.disk.entry loc

section Spares

variable {destination : Location}

instance : Std.Refl (Spares destination) where
  refl _ := ⟨rfl, rfl, fun _ _ _ _ => rfl⟩

instance : IsTrans World (Spares destination) where
  trans _ _ _ h h' := ⟨h'.oracle.trans h.oracle, IsTrans.trans _ _ _ h.marks h'.marks,
    fun hQuiet loc hStored hNe => (h'.entries (hQuiet.congr h.oracle) loc hStored hNe).trans
      (h.entries hQuiet loc hStored hNe)⟩

/-- Reading spares every destination. -/
theorem Reads.spares (h : Reads w w') : Spares destination w w' :=
  ⟨h.oracle, h.marksNothing, fun hQuiet loc _ _ => by rw [h.disk hQuiet]⟩

/-- A change in staging spares every destination. -/
theorem spares_set (w : World) {loc : Location} (hLoc : loc.area = .staging) (node : Option Node) :
    Spares destination w { w.stir with disk := w.stir.disk.set loc node } := by
  refine ⟨rfl, rfl, fun hQuiet other hStored _ => ?_⟩
  have hNe : other ≠ loc := fun hEq => hStored.area_ne.1 (hEq ▸ hLoc)
  show Function.update w.stir.disk.entry loc node other = _
  rw [Function.update_of_ne hNe, (reads_stir w).disk hQuiet]

theorem keeps_spares_change {loc : Location} (hLoc : loc.area = .staging)
    (f : Option Node → Except Raised (Option Node)) :
    Keeps (Spares destination) (change loc f) := by
  intro v
  show Spares destination v (final (change loc f v))
  unfold change
  split
  · exact spares_set v hLoc _
  · split
    · exact spares_set v hLoc _
    · exact (reads_stir v).spares

/-- Writing a file in staging spares the destination. -/
theorem keeps_spares_writePrivate {stage : Location} (hStage : stage.area = .staging)
    (path : List Text) (content : Bytes) :
    Keeps (Spares destination) (writePrivate stage path content) := by
  refine keeps_rescue (keeps_spares_change hStage _) (fun e => ?_)
  split <;> exact keeps_throw _

/-- Looking for a free stage does as well. -/
theorem keeps_spares_newStageFrom (kind : String) : ∀ attempts : ℕ,
    Keeps (Spares destination) (newStageFrom kind attempts)
  | 0 => keeps_throw _
  | attempts + 1 => by
      refine keeps_bind (keeps_reads_tokenHex.mono (fun _ _ h => h.spares)) (fun token => ?_)
      refine keeps_bind (keeps_rescue ?_ (fun e => ?_)) (fun created => ?_)
      · exact keeps_bind (keeps_spares_change rfl _) (fun _ => keeps_pure _)
      · split
        · exact keeps_pure _
        · exact keeps_throw _
      · exact keeps_ite (fun _ => keeps_pure _) (fun _ => keeps_spares_newStageFrom kind attempts)

/-- Removing the stage does as well. -/
theorem keeps_spares_removeStage {stage : Location} (hStage : stage.area = .staging) :
    Keeps (Spares destination) (removeStage stage) := by
  refine keeps_bind ((keeps_reads_observe _).mono (fun _ _ h => h.spares)) (fun found => ?_)
  refine keeps_ite (fun _ => ?_) (fun _ => keeps_pure _)
  exact keeps_ignoreFilesystem (keeps_spares_change hStage _)

/-- Registering changes the session only. -/
theorem keeps_spares_register (reference : Text) (size : ℕ) :
    Keeps (Spares destination) (register reference size) := by
  refine keeps_bind keeps_get (fun v => keeps_ite (fun _ => keeps_pure _) (fun _ => ?_))
  refine keeps_bind (keeps_bind keeps_get (fun _ => keeps_raiseIf _ _)) (fun _ => ?_)
  exact keeps_modify (fun s => ⟨rfl, rfl, fun _ _ _ _ => rfl⟩)

/-- What verification catches, it turns into another error. -/
theorem keeps_spares_verifying {α : Type} (loc : Location) (reference : Text) {x : Host α}
    (hx : Keeps (Spares destination) x) :
    Keeps (Spares destination) (verifying loc reference x) := by
  refine keeps_rescue hx (fun e => keeps_bind (keeps_modify (fun s => ?_)) (fun _ => keeps_throw _))
  split
  · exact Std.Refl.refl s
  · exact ⟨rfl, rfl, fun _ _ _ _ => rfl⟩

/-- Loading a dataset spares the destination, whatever it finds there. -/
theorem keeps_spares_loadDatasetDirectory (loc : Location) (reference : Text) :
    Keeps (Spares destination) (loadDatasetDirectory loc reference) :=
  keeps_bind keeps_get (fun _ => keeps_spares_verifying _ _
    ((keeps_reads_look _ _).mono (fun _ _ h => h.spares)))

/-- The failure that reports corruption. -/
def IsRecordCorrupt (e : Raised) : Prop := e = failure .recordCorrupt

/-- Only an error of verification can leave a mark on the destination. -/
theorem keepsUnless_corruptOnError {α : Type} (loc : Location) (reference : Text) {x : Host α}
    (hx : Keeps (Spares destination) x) :
    KeepsUnless IsRecordCorrupt (Spares destination) (corruptOnError loc reference x) := by
  refine keepsUnless_rescue_exempt (fun s a s' h => hx.ok h) (fun e s => ?_)
  obtain ⟨u, t, hQuarantine⟩ := returns_quarantine loc reference s
  constructor
  · intro a s' hRun
    rw [run_bind_of_ok hQuarantine] at hRun
    cases hRun
  · intro e' s' hRun
    rw [run_bind_of_ok hQuarantine] at hRun
    cases hRun
    rfl

/-- Moving a stage to a destination touches no other stored entry. -/
theorem keeps_spares_publishDirectoryNoReplace {stage : Location} (hStage : stage.area = .staging) :
    Keeps (Spares destination) (publishDirectoryNoReplace stage destination) := by
  intro v
  cases hRun : (publishDirectoryNoReplace stage destination).run v with
  | error e v' => exact (reads_of_publishDirectoryNoReplace_error hRun).spares
  | ok u v' =>
      obtain ⟨-, disk, hRename, rfl⟩ := run_publishDirectoryNoReplace_eq_ok.1 hRun
      refine ⟨rfl, rfl, fun hQuiet loc hStored hNe => ?_⟩
      have hNe' : loc ≠ stage := fun hEq => hStored.area_ne.1 (hEq ▸ hStage)
      unfold renameEntry at hRename
      split at hRename <;> cases hRename
      show Function.update (Function.update v.stir.disk.entry stage none) destination _ loc = _
      rw [Function.update_of_ne hNe, Function.update_of_ne hNe', (reads_stir v).disk hQuiet]

/-- A publication spares its destination unless the entry there is corrupt. -/
theorem keepsUnless_publishStage {stage : Location} (hStage : stage.area = .staging)
    (reference : Text) :
    KeepsUnless IsRecordCorrupt (Spares destination)
      (publishStage stage destination reference .dataset) := by
  refine keepsUnless_bind (Keeps.unless ?_) (fun moved => ?_)
  · refine keeps_rescue (keeps_bind (keeps_spares_publishDirectoryNoReplace hStage)
      (fun _ => keeps_pure _)) (fun e => ?_)
    exact (keeps_reads_notMoved _ e).mono (fun _ _ h => h.spares)
  · refine keepsUnless_ite (fun _ => (keeps_pure _).unless) (fun _ => ?_)
    exact keepsUnless_corruptOnError _ _
      (keeps_bind (keeps_spares_loadDatasetDirectory _ _) (fun _ => keeps_pure _))

/-- A publication that raises has moved no stored entry but the one it was about, unless it reports
corruption. -/
theorem keepsUnless_publishDataset {payload record : Value}
    (hDestination : ∀ validatedRecord payloadBytes recordBytes reference loc,
      validateDatasetArguments payload record = .ok (validatedRecord, payloadBytes, recordBytes) →
        DatasetRecord.reference validatedRecord = .ok reference →
          destinationOf reference .dataset = .ok loc → loc = destination) :
    KeepsUnless IsRecordCorrupt (Spares destination) (publishDataset payload record) := by
  have hReads : ∀ {α : Type} {x : Host α}, Keeps Reads x →
      KeepsUnless IsRecordCorrupt (Spares destination) x :=
    fun hx => (hx.mono (fun _ _ h => h.spares)).unless
  -- Step by step along the source. Only the verification of what stands at the destination, and
  -- the publication of the stage, can find a corrupt record.
  unfold publishDataset
  refine keepsUnless_bind (hReads keeps_reads_requireOpen) (fun _ => ?_)
  refine keepsUnless_lift_bind (fun ⟨validatedRecord, payloadBytes, recordBytes⟩ hArguments => ?_)
  refine keepsUnless_bind keeps_get.unless (fun v => ?_)
  refine keepsUnless_bind (keeps_raiseIf _ _).unless (fun _ => ?_)
  refine keepsUnless_bind (keeps_raiseIf _ _).unless (fun _ => ?_)
  refine keepsUnless_lift_bind (fun reference hReference => ?_)
  refine keepsUnless_bind (keeps_raiseIf _ _).unless (fun _ => ?_)
  refine keepsUnless_lift_bind (fun loc hLoc => ?_)
  obtain rfl := hDestination _ _ _ _ _ hArguments hReference hLoc
  refine keepsUnless_bind (hReads (keeps_reads_observe _)) (fun found => ?_)
  refine keepsUnless_ite (fun _ => ?_) (fun _ => ?_)
  · refine keepsUnless_bind (keepsUnless_corruptOnError _ _
      (keeps_spares_loadDatasetDirectory _ _)) (fun loaded => ?_)
    refine keepsUnless_bind (hReads (keeps_reads_entrySize _)) (fun size => ?_)
    exact (keeps_bind (keeps_spares_register _ _) (fun _ => keeps_pure _)).unless
  -- A new entry is made in a stage, which is removed on every way out.
  · refine keepsUnless_bind (keeps_bind keeps_get (fun _ => keeps_raiseIf _ _)).unless (fun _ => ?_)
    refine keepsUnless_bind_of_ok (keeps_spares_newStageFrom "dataset" 100).unless
      (fun _ stage _ hNew => ?_)
    have hStage := (newStageFrom_spec "dataset" hNew).1
    refine keepsUnless_finallyDo ?_ (keeps_spares_removeStage hStage) (removeStage_returns stage)
    refine keepsUnless_rescue ?_ (fun e => ?_) (fun e s he => ?_)
    · refine keepsUnless_bind (keeps_spares_writePrivate hStage _ _).unless (fun _ => ?_)
      refine keepsUnless_bind (keeps_spares_writePrivate hStage _ _).unless (fun _ => ?_)
      refine keepsUnless_bind (keeps_spares_loadDatasetDirectory _ _).unless (fun _ => ?_)
      refine keepsUnless_bind (keepsUnless_publishStage hStage _) (fun _ => ?_)
      exact (keeps_bind (keeps_spares_register _ _) (fun _ => keeps_pure _)).unless
    · split <;> exact keeps_throw _
    · rw [he]
      exact ⟨_, s, rfl, rfl⟩

end Spares

/-- A publication of what is corrupt does nothing. -/
theorem reads_of_publishDataset_corrupt {payload record : Value} {validatedRecord : DatasetRecord}
    {payloadBytes recordBytes : Bytes} {reference : Text} {e : Raised}
    (hArguments : validateDatasetArguments payload record
      = .ok (validatedRecord, payloadBytes, recordBytes))
    (hReference : validatedRecord.reference = .ok reference)
    (hCorrupt : reference ∈ w.session.corruptReferences)
    (h : (publishDataset payload record).run w = .error e w') : Reads w w' := by
  unfold publishDataset at h
  rcases run_bind_eq_error.1 h with hOpen | ⟨u, t, hOpen, hRest⟩
  · exact keeps_reads_requireOpen.error hOpen
  · have hReads := keeps_reads_requireOpen.ok hOpen
    refine IsTrans.trans _ _ _ hReads ?_
    rw [run_lift_bind_of_ok hArguments, run_get_bind] at hRest
    by_cases hPayload : t.session.limits.datasetPayloadBytes < payloadBytes.length
    · rw [run_raiseIf_bind_of_pos hPayload] at hRest
      cases hRest
      exact Std.Refl.refl _
    rw [run_raiseIf_bind_of_neg hPayload] at hRest
    by_cases hRecord : t.session.limits.recordBytes < recordBytes.length
    · rw [run_raiseIf_bind_of_pos hRecord] at hRest
      cases hRest
      exact Std.Refl.refl _
    rw [run_raiseIf_bind_of_neg hRecord, run_lift_bind_of_ok hReference,
      run_raiseIf_bind_of_pos (by rw [hReads.session]; exact hCorrupt)] at hRest
    cases hRest
    exact Std.Refl.refl _

/-- In a quiet world a publication that raises leaves every stored entry where it is, unless it
reports corruption. -/
theorem entries_of_publishDataset_error {payload record : Value} {e : Raised} (hQuiet : w.Quiet)
    (h : (publishDataset payload record).run w = .error e w') (he : ¬ IsRecordCorrupt e) :
    ∀ loc, IsStored loc → w'.disk.entry loc = w.disk.entry loc := by
  by_cases hFound : ∃ validatedRecord payloadBytes recordBytes reference loc,
      validateDatasetArguments payload record = .ok (validatedRecord, payloadBytes, recordBytes) ∧
        DatasetRecord.reference validatedRecord = .ok reference ∧
          destinationOf reference .dataset = .ok loc
  · obtain ⟨validatedRecord, payloadBytes, recordBytes, reference, destination, hArguments,
      hReference, hDestination⟩ := hFound
    obtain ⟨-, hStored, hEntry⟩ := destinationOf_spec hDestination
    by_cases hCorrupt : reference ∈ w.session.corruptReferences
    · intro loc _
      rw [(reads_of_publishDataset_corrupt hArguments hReference hCorrupt h).disk hQuiet]
    · have hSpares : Spares destination w w' := by
        refine (keepsUnless_publishDataset ?_).2 _ _ _ h he
        intro _ _ _ _ loc hArguments' hReference' hLoc
        rw [hArguments] at hArguments'
        cases hArguments'
        rw [hReference] at hReference'
        cases hReference'
        rw [hDestination] at hLoc
        exact (Except.ok.inj hLoc).symm
      intro loc hLoc
      by_cases hEq : loc = destination
      · subst hEq
        refine (onError_publishDataset _ _ _ _ _ h).entry_eq hQuiet hLoc hSpares.marks ?_
        rw [hEntry]
        exact hCorrupt
      · exact hSpares.entries hQuiet loc hLoc hEq
  · -- the publication has not come to a destination
    have hSpares : Spares ⟨.staging, []⟩ w w' := by
      refine (keepsUnless_publishDataset ?_).2 _ _ _ h he
      intro validatedRecord payloadBytes recordBytes reference loc hArguments hReference hLoc
      exact absurd ⟨validatedRecord, payloadBytes, recordBytes, reference, loc, hArguments,
        hReference, hLoc⟩ hFound
    intro loc hLoc
    refine hSpares.entries hQuiet loc hLoc ?_
    rintro rfl
    exact hLoc.area_ne.1 rfl

/-! ## Sessions that start empty -/

/-- The states that a session reaches from a directory without stored entries. -/
def FromEmpty (w : World) : Prop :=
  ∃ (start : World) (sessionId : Text) (limits : CasLimits) (cursorKey : Bytes),
    start.session = Session.opened sessionId limits cursorKey ∧
      (∀ loc, IsStored loc → start.disk.entry loc = none) ∧ Relation.ReflTransGen Step start w

/-- An opened session has started from an empty one. -/
theorem fromEmpty_opened (sessionId : Text) (limits : CasLimits) (cursorKey : Bytes) :
    FromEmpty (World.opened sessionId limits cursorKey) :=
  ⟨_, sessionId, limits, cursorKey, rfl, fun _ _ => rfl, .refl⟩

/-- The limits that a session has by default, which are the hardest ones. -/
def hardLimits : CasLimits :=
  ⟨maxRecordBytes, maxDatasetPayloadBytes, OperationRecords.maxOperationBundleBytes,
    maxSessionBytes,
    by decide, by decide, by decide, by decide⟩

/-- Every stored entry is registered. -/
def AllRegistered (w : World) : Prop :=
  ∀ loc, IsStored loc → w.disk.entry loc ≠ none → entryReference loc ∈ w.session.references

/-- Whatever settles under a registration keeps every entry registered. -/
theorem AllRegistered.settles {X : Set Location} {F : Set Text} (h : AllRegistered w)
    (hQuiet : w.Quiet) (hSettles : Settles X F w w') :
    ∀ loc, IsStored loc → loc ∉ X → w'.disk.entry loc ≠ none →
      entryReference loc ∈ w'.session.references := by
  intro loc hStored hX hSome
  rw [hSettles.references]
  rcases hSettles.entries hQuiet loc hStored hX with hEq | ⟨hNone, -⟩
  · rw [hEq] at hSome
    exact h loc hStored hSome
  · exact absurd hNone hSome

/-- A step of a session keeps every entry registered. -/
theorem AllRegistered.step (h : AllRegistered w) (hQuiet : w.Quiet) (hStep : Step w w') :
    AllRegistered w' := by
  cases hStep with
  | call c =>
      rcases call_step c w with hSettles | ⟨-, kind, destination, reference, hDestination, -,
        hRegisters⟩
      · exact fun loc hStored hSome => h.settles hQuiet hSettles loc hStored (Set.notMem_empty _)
          hSome
      · obtain ⟨-, -, hEntry⟩ := destinationOf_spec hDestination
        have hReferences := hRegisters.references
        obtain ⟨t, t', size, hBefore, hRegister, hAfter, -⟩ := hRegisters
        have hDisk : t'.disk = t.disk := by
          rcases run_register_eq_ok.1 hRegister with ⟨-, rfl⟩ | ⟨-, -, rfl⟩ <;> rfl
        have hOracle : t'.oracle = t.oracle := by
          rcases run_register_eq_ok.1 hRegister with ⟨-, rfl⟩ | ⟨-, -, rfl⟩ <;> rfl
        have hQuiet' : t'.Quiet := hQuiet.congr (hOracle.trans hBefore.oracle)
        intro loc hStored hSome
        rw [hReferences]
        by_cases hEq : loc = destination
        · rw [hEq, hEntry]
          exact Finset.mem_insert_self _ _
        · refine Finset.mem_insert_of_mem ?_
          rw [← hBefore.references]
          refine h.settles hQuiet hBefore loc hStored hEq ?_
          rcases hAfter.entries hQuiet' loc hStored (Set.notMem_empty _) with hSame | ⟨hNone, -⟩
          · rwa [hSame, hDisk] at hSome
          · exact absurd hNone hSome
  | others registry => exact h

/-- In a session that started empty, every entry on disk is registered. -/
theorem FromEmpty.allRegistered (h : FromEmpty w) (hQuiet : w.Quiet) : AllRegistered w := by
  obtain ⟨start, sessionId, limits, cursorKey, -, hEmpty, hSteps⟩ := h
  induction hSteps with
  | refl => exact fun loc hStored hSome => absurd (hEmpty loc hStored) hSome
  | @tail v v' _ hStep ih =>
      have hOracle : v'.oracle = v.oracle := by
        cases hStep with
        | call c =>
            rcases call_step c v with hSettles | ⟨-, _, _, _, -, -, hRegisters⟩
            · exact hSettles.oracle
            · exact hRegisters.oracle
        | others registry => rfl
      have hQuiet' := hQuiet.congr hOracle.symm
      exact (ih hQuiet').step hQuiet' hStep

end SessionCas

namespace RecordViews

open Json Canonical Protocol DataRecords HostFailures LocalHost SessionCas FileTree Effect

variable {w w' : World}

/-- `DefinedQuantService.register_dataset`, once `normalize_dataset` has returned or raised. -/
def registerDataset (normalized : Except Raised (DatasetPayload × DatasetRecord)) :
    Host Members := do
  let (payload, record) ← lift id normalized
  let reference ← publishDataset (DatasetPayload.codec.encode payload)
    (DatasetRecord.codec.encode record)
  describeDataset Cas.host reference (py "metadata") none defaultPreviewLimit

/-- The description of a dataset is within the limit of a response. -/
def Described (stored : StoredDataset) : Prop :=
  ∃ size, resultSize (datasetMetadata stored true) .unverifiedCallerData = .ok size ∧
    size ≤ maxStructuredResponseBytes

/-- The description of what a record stands for is within the limit; it does not show the payload. -/
def Describable (payload : DatasetPayload) (record : DatasetRecord) : Prop :=
  ∀ reference, record.reference = .ok reference → Described ⟨reference, record, payload⟩

/-- A dataset that some session can publish: its parts fit together and are within the hard limits. -/
def Publishable (payload : DatasetPayload) (record : DatasetRecord) : Prop :=
  ∃ payloadBytes recordBytes reference,
    validateDatasetArguments (DatasetPayload.codec.encode payload)
    (DatasetRecord.codec.encode record)
      = .ok (record, payloadBytes, recordBytes) ∧
    record.reference = .ok reference ∧ payloadBytes.length ≤ maxDatasetPayloadBytes ∧
    recordBytes.length ≤ maxRecordBytes

/-- A registration that raises, except for corruption, has registered and moved nothing. -/
def Transactional (w : World) (normalized : Except Raised (DatasetPayload × DatasetRecord)) :
    Prop :=
  ∀ e w', (registerDataset normalized).run w = .error e w' → ¬ IsRecordCorrupt e →
    w'.session.references = w.session.references ∧ w'.session.usedBytes = w.session.usedBytes ∧
      (w.Quiet → ∀ loc, IsStored loc → w'.disk.entry loc = w.disk.entry loc)

/-- A result that is too large is refused, and not as a corrupt record. -/
theorem run_boundedResult_eq_error {data : Members} {limitName : String} {trust : TrustLabel}
    {e : Raised} (h : (boundedResult data limitName trust : Host Members).run w = .error e w') :
    w' = w ∧ ¬ IsRecordCorrupt e ∧
      ¬ ∃ size, resultSize data trust = .ok size ∧ size ≤ maxStructuredResponseBytes := by
  unfold boundedResult at h
  rw [raising_host] at h
  cases hSize : resultSize data trust with
  | error e' =>
      rw [hSize] at h
      cases h
      refine ⟨rfl, ?_, ?_⟩
      · intro hCorrupt
        cases hCorrupt
      · rintro ⟨size, hEq, -⟩
        cases hEq
  | ok size =>
      rw [hSize] at h
      change (refuseIf _ _ >>= _ : Host Members).run w = _ at h
      rw [refuseIf_host] at h
      by_cases hLimit : maxStructuredResponseBytes < size
      · rw [run_raiseIf_bind_of_pos hLimit] at h
        cases h
        refine ⟨rfl, ?_, ?_⟩
        · intro hCorrupt
          cases hCorrupt
        · rintro ⟨size', hEq, hLe⟩
          cases hEq
          exact absurd hLe (not_le.2 hLimit)
      · rw [run_raiseIf_bind_of_neg hLimit] at h
        cases h

/-- A description in the metadata view. -/
theorem describeDataset_metadata (reference : Text) :
    describeDataset Cas.host reference (py "metadata") none defaultPreviewLimit
      = (SessionCas.loadDataset reference >>= fun stored =>
          boundedResult (datasetMetadata stored true) "structured_tool_response_bytes"
            .unverifiedCallerData) := by
  unfold describeDataset
  refine congrArg _ (funext fun stored => ?_)
  rw [if_pos rfl, refuseIf_host]
  rfl

/-- A load of what is registered in an open session can only fail as corrupt. -/
theorem isRecordCorrupt_of_loadDataset {reference : Text} {destination : Location} {e : Raised}
    (hOpen : w.session.closed = false)
    (hDestination : destinationOf reference .dataset = .ok destination)
    (hMem : reference ∈ w.session.references)
    (h : (SessionCas.loadDataset reference).run w = .error e w') : IsRecordCorrupt e := by
  by_cases hCorrupt : reference ∈ w.session.corruptReferences
  · have hResolve := run_resolve_of_corrupt hOpen hDestination hCorrupt
    unfold SessionCas.loadDataset at h
    rw [run_bind, hResolve] at h
    cases h
    rfl
  · have hResolve : (resolve reference .dataset).run w = .ok destination w :=
      run_resolve_eq_ok.2 ⟨hOpen, hDestination, hCorrupt, hMem, rfl⟩
    rw [run_loadDataset hResolve] at h
    obtain ⟨e', t, -, hHandler⟩ := run_rescue_eq_error.1 h
    obtain ⟨u, t', hQuarantine⟩ := returns_quarantine destination reference t
    rw [run_bind_of_ok hQuarantine] at hHandler
    cases hHandler
    rfl

/-- What a publication that returns was given is publishable. -/
theorem publishable_of_run {payload : DatasetPayload} {record : DatasetRecord} {reference : Text}
    (h : (publishDataset (DatasetPayload.codec.encode payload)
      (DatasetRecord.codec.encode record)).run w = .ok reference w') :
    Publishable payload record ∧ record.reference = .ok reference := by
  obtain ⟨-, validatedRecord, payloadBytes, recordBytes, -, hArguments, hReference, -⟩ :=
    publishDataset_spec h
  obtain ⟨_, -, hDecode, -⟩ := validateDatasetArguments_eq_ok.1 hArguments
  rw [DatasetRecord.codec.decode_encode] at hDecode
  cases hDecode
  unfold publishDataset at h
  rw [run_requireOpen_bind_eq_ok, run_lift_bind_of_ok hArguments] at h
  simp only [run_get_bind, run_raiseIf_bind_eq_ok, not_lt] at h
  obtain ⟨-, hPayload, hRecord, -⟩ := h
  exact ⟨⟨payloadBytes, recordBytes, reference, hArguments, hReference,
    hPayload.trans w.session.limits.datasetPayloadBytes_mem.2,
    hRecord.trans w.session.limits.recordBytes_mem.2⟩, hReference⟩

/-- The description that follows a publication raises nothing but corruption, if it is within the
limit. -/
theorem isRecordCorrupt_of_describe {reference : Text} {destination : Location} {e : Raised}
    (hOpen : w.session.closed = false)
    (hDestination : destinationOf reference .dataset = .ok destination)
    (hMem : reference ∈ w.session.references)
    (hDescribed : ∀ stored t, (SessionCas.loadDataset reference).run w = .ok stored t →
      Described stored)
    (h : (describeDataset Cas.host reference (py "metadata") none defaultPreviewLimit).run w
      = .error e w') : IsRecordCorrupt e := by
  rw [describeDataset_metadata] at h
  rcases run_bind_eq_error.1 h with hLoad | ⟨stored, t, hLoad, hBounded⟩
  · exact isRecordCorrupt_of_loadDataset hOpen hDestination hMem hLoad
  · exact absurd (hDescribed stored t hLoad) (run_boundedResult_eq_error hBounded).2.2

/-- A description only looks, unless it finds corruption. -/
theorem reads_of_describe_error {reference : Text} {destination : Location} {e : Raised}
    (hOpen : w.session.closed = false)
    (hDestination : destinationOf reference .dataset = .ok destination)
    (hMem : reference ∈ w.session.references)
    (h : (describeDataset Cas.host reference (py "metadata") none defaultPreviewLimit).run w
      = .error e w') (he : ¬ IsRecordCorrupt e) : Reads w w' := by
  rw [describeDataset_metadata] at h
  rcases run_bind_eq_error.1 h with hLoad | ⟨stored, t, hLoad, hBounded⟩
  · exact absurd (isRecordCorrupt_of_loadDataset hOpen hDestination hMem hLoad) he
  · rw [(run_boundedResult_eq_error hBounded).1]
    exact reads_of_loadDataset hLoad

/-- The reference of a record points somewhere. -/
theorem destinationOf_reference {record : DatasetRecord} {reference : Text}
    (h : record.reference = .ok reference) : ∃ loc, destinationOf reference .dataset = .ok loc := by
  obtain ⟨digest, hDigest, hReference⟩ := Except.bind_eq_ok.1 h
  obtain ⟨content, -, hDigest⟩ := Except.bind_eq_ok.1 hDigest
  cases hReference
  cases hDigest
  exact ⟨_, destinationOf_makeReference .dataset (isSha256_sha256Hex _)⟩

/-- The other records that have the reference of a record; they would be collisions of the hash. -/
def OnlyRecord (record : DatasetRecord) : Prop :=
  ∀ other : DatasetRecord, other.reference = record.reference → other = record

/-- What is loaded under the reference of a record, when no other record has that reference. -/
theorem record_of_loadDataset {reference : Text} {record : DatasetRecord} {stored : StoredDataset}
    (hReference : record.reference = .ok reference) (hOnly : OnlyRecord record)
    (h : (SessionCas.loadDataset reference).run w = .ok stored w') :
    stored = ⟨reference, record, stored.payload⟩ := by
  obtain ⟨destination, -, hLook⟩ := run_loadDataset_eq_ok.1 h
  obtain ⟨_, _, hVerify⟩ := (returns_readDataset _ _).of_perform hLook
  obtain ⟨hStored, -, -, -, -, hRecord, -⟩ := verifyDataset_eq_ok.1 hVerify
  have hEq := hOnly stored.record (hRecord.trans hReference.symm)
  cases stored
  simp only at hStored hEq
  rw [hStored, hEq]

/-- What is loaded after a first publication is what was published. -/
theorem stored_of_publishDataset {payload : DatasetPayload} {record : DatasetRecord}
    {reference : Text} {loc : Location} (hQuiet : w.Quiet)
    (hPublish : (publishDataset (DatasetPayload.codec.encode payload)
      (DatasetRecord.codec.encode record)).run w = .ok reference w')
    (hDestination : destinationOf reference .dataset = .ok loc)
    (hMissing : (w.disk.entry loc).bind Node.resolve = none) {stored : StoredDataset} {t : World}
    (hLoad : (SessionCas.loadDataset reference).run w' = .ok stored t) :
    stored = ⟨reference, record, payload⟩ := by
  obtain ⟨_, _, _, _, loc', _, hPayload, hRecord, hPublished⟩ := published_of_run hQuiet hPublish
  rw [DatasetPayload.codec.decode_encode] at hPayload
  cases hPayload
  rw [DatasetRecord.codec.decode_encode] at hRecord
  cases hRecord
  have hLoc := hPublished.destination
  rw [hDestination] at hLoc
  cases hLoc
  obtain ⟨-, _, _, _, _, -, -, -, -, hRegisters⟩ := publishDataset_spec hPublish
  exact hPublished.stored_eq hMissing (hQuiet.congr hRegisters.oracle) hLoad

/-- In a quiet world, publishing what is registered leaves every stored entry where it is. -/
theorem entries_of_publishDataset_again {payload record : Value} {reference : Text} {loc : Location}
    (hQuiet : w.Quiet) (hPublish : (publishDataset payload record).run w = .ok reference w')
    (hDestination : destinationOf reference .dataset = .ok loc)
    (hThere : (w.disk.entry loc).bind Node.resolve ≠ none) :
    ∀ other, IsStored other → w'.disk.entry other = w.disk.entry other := by
  obtain ⟨_, _, _, _, loc', _, -, -, hPublished⟩ := published_of_run hQuiet hPublish
  have hLoc := hPublished.destination
  rw [hDestination] at hLoc
  cases hLoc
  obtain ⟨-, validatedRecord, payloadBytes, recordBytes, -, hArguments, hReference, -⟩ :=
    publishDataset_spec hPublish
  have hSpares : Spares loc w w' := by
    refine (keepsUnless_publishDataset ?_).1 _ _ _ hPublish
    intro _ _ _ _ loc' hArguments' hReference' hLoc'
    rw [hArguments] at hArguments'
    cases hArguments'
    rw [hReference] at hReference'
    cases hReference'
    rw [hDestination] at hLoc'
    exact (Except.ok.inj hLoc').symm
  intro other hOther
  by_cases hEq : other = loc
  · rw [hEq]
    exact (hPublished.again hThere).1
  · exact hSpares.entries hQuiet other hOther hEq

/-- A registration that raises in the publication is transactional. -/
theorem transactional_of_publish_error {payload record : Value} {e : Raised}
    (h : (publishDataset payload record).run w = .error e w') (he : ¬ IsRecordCorrupt e) :
    w'.session.references = w.session.references ∧ w'.session.usedBytes = w.session.usedBytes ∧
      (w.Quiet → ∀ loc, IsStored loc → w'.disk.entry loc = w.disk.entry loc) :=
  ⟨(onError_publishDataset _ _ _ _ _ h).references, (onError_publishDataset _ _ _ _ _ h).usedBytes,
    fun hQuiet => entries_of_publishDataset_error hQuiet h he⟩

/-- A registration that raises in the description is transactional, if the description is within the
limit: then what was loaded is something that was registered before. -/
theorem transactional_of_describe_error {payload : DatasetPayload} {record : DatasetRecord}
    {reference : Text} {t : World} {e : Raised} (hFrom : FromEmpty w)
    (hHash : w.Quiet ∨ OnlyRecord record) (hFits : Describable payload record)
    (hPublish : (publishDataset (DatasetPayload.codec.encode payload)
      (DatasetRecord.codec.encode record)).run w = .ok reference t)
    (h : (describeDataset Cas.host reference (py "metadata") none defaultPreviewLimit).run t
      = .error e w') (he : ¬ IsRecordCorrupt e) :
    w'.session.references = w.session.references ∧ w'.session.usedBytes = w.session.usedBytes ∧
      (w.Quiet → ∀ loc, IsStored loc → w'.disk.entry loc = w.disk.entry loc) := by
  obtain ⟨hOpen, _, _, _, destination, -, -, -, hDestination, hRegisters⟩ :=
    publishDataset_spec hPublish
  have hOpen' : t.session.closed = false := hRegisters.closed.trans hOpen
  have hMem : reference ∈ t.session.references := by
    rw [hRegisters.references]
    exact Finset.mem_insert_self _ _
  -- What is described is the dataset that was published, either because nothing interferes or
  -- because the record has no other payload.
  rcases hHash with hQuiet | hOnly
  · by_cases hMissing : (w.disk.entry destination).bind Node.resolve = none
    · refine absurd (isRecordCorrupt_of_describe hOpen' hDestination hMem (fun stored t' hLoad =>
        ?_) h)
        he
      rw [stored_of_publishDataset hQuiet hPublish hDestination hMissing hLoad]
      exact hFits reference (publishable_of_run hPublish).2
    -- The dataset was there before, so that the publication registered nothing new.
    · have hReads := reads_of_describe_error hOpen' hDestination hMem h he
      obtain ⟨-, hStored, hEntry⟩ := destinationOf_spec hDestination
      have hRegistered : reference ∈ w.session.references := by
        rw [← hEntry]
        refine hFrom.allRegistered hQuiet destination hStored (fun hNone => hMissing ?_)
        rw [hNone]
        rfl
      refine ⟨?_, ?_, fun _ loc hLoc => ?_⟩
      · rw [hReads.session, hRegisters.references, Finset.insert_eq_self.2 hRegistered]
      · rw [hReads.session]
        exact hRegisters.usedBytes hRegistered
      · rw [hReads.disk (hQuiet.congr hRegisters.oracle)]
        exact entries_of_publishDataset_again hQuiet hPublish hDestination hMissing loc hLoc
  · refine absurd (isRecordCorrupt_of_describe hOpen' hDestination hMem (fun stored t' hLoad => ?_)
      h) he
    have hReference := (publishable_of_run hPublish).2
    rw [record_of_loadDataset hReference hOnly hLoad]
    exact hFits reference hReference

/-- A dataset that can be published and whose description is over the limit is registered by a call
that raises. -/
theorem not_transactional_of_not_describable {payload : DatasetPayload} {record : DatasetRecord}
    (hPublishable : Publishable payload record) (hOver : ¬ Describable payload record) :
    ¬ Transactional (World.opened [] hardLimits []) (.ok (payload, record)) := by
  obtain ⟨payloadBytes, recordBytes, reference, hArguments, hReference, hPayload, hRecord⟩ :=
    hPublishable
  have hCalm := calm_opened [] hardLimits []
  obtain ⟨destination, hDestination⟩ := destinationOf_reference hReference
  -- In an empty session the publication goes through.
  obtain ⟨t, hPublish, -⟩ := run_publishDataset_of_missing hCalm rfl hArguments hPayload hRecord
    hReference (Finset.notMem_empty _) hDestination rfl (by
      show 0 + _ ≤ maxSessionBytes
      have hRoom : maxDatasetPayloadBytes + maxRecordBytes ≤ maxSessionBytes := by decide
      omega) (fun _ => rfl)
  obtain ⟨-, _, _, _, _, -, -, -, -, hRegisters⟩ := publishDataset_spec hPublish
  obtain ⟨_, _, _, _, _, _, -, -, hPublished⟩ := published_of_run hCalm.quiet hPublish
  obtain ⟨t', hLoad⟩ := hPublished.now.2 (hCalm.congr hRegisters.oracle)
  rw [stored_of_publishDataset hCalm.quiet hPublish hDestination rfl hLoad] at hLoad
  have hReferences : t'.session.references = {reference} := by
    rw [(reads_of_loadDataset hLoad).session, hRegisters.references]
    rfl
  have hRegister : (registerDataset (.ok (payload, record))).run (World.opened [] hardLimits [])
      = (boundedResult (datasetMetadata ⟨reference, record, payload⟩ true)
          "structured_tool_response_bytes" .unverifiedCallerData : Host Members).run t' := by
    show (publishDataset _ _ >>= _).run _ = _
    rw [run_bind_of_ok hPublish, describeDataset_metadata, run_bind_of_ok hLoad]
  -- Then the description is refused, and the reference stays registered.
  intro hTransactional
  cases hRun : (boundedResult (datasetMetadata ⟨reference, record, payload⟩ true)
      "structured_tool_response_bytes" .unverifiedCallerData : Host Members).run t' with
  | ok response v =>
      refine hOver (fun reference' hReference' => ?_)
      rw [hReference] at hReference'
      cases hReference'
      exact (run_boundedResult_eq_ok hRun).2.2
  | error e v =>
      obtain ⟨rfl, he, -⟩ := run_boundedResult_eq_error hRun
      have hEq := (hTransactional e v (hRegister.trans hRun) he).1
      rw [hReferences] at hEq
      exact absurd hEq (Finset.singleton_ne_empty _)

/-- Registering is transactional in every state of every session that started empty, exactly for
what normalization refuses, what no session can publish, and what has a description within the
limit. Where something acts on the files from outside, no other record is taken to have the same
hash. -/
theorem transactional_iff (normalized : Except Raised (DatasetPayload × DatasetRecord)) :
    (∀ w, FromEmpty w → (w.Quiet ∨ ∀ payload record, normalized = .ok (payload, record) →
        OnlyRecord record) → Transactional w normalized) ↔
      ∀ payload record, normalized = .ok (payload, record) →
        Describable payload record ∨ ¬ Publishable payload record := by
  constructor
  · intro hAll payload record hNormalized
    by_contra hNot
    rw [not_or, not_not] at hNot
    obtain ⟨hOver, hPublishable⟩ := hNot
    rw [hNormalized] at hAll
    exact not_transactional_of_not_describable hPublishable hOver
      (hAll _ (fromEmpty_opened [] hardLimits []) (.inl (calm_opened [] hardLimits []).quiet))
  · intro hCondition w hFrom hHash e w' hRun he
    cases normalized with
    | error failed =>
        cases hRun
        exact ⟨rfl, rfl, fun _ _ _ => rfl⟩
    | ok outcome =>
        obtain ⟨payload, record⟩ := outcome
        have hHash' : w.Quiet ∨ OnlyRecord record := hHash.imp_right (fun h => h payload record rfl)
        change (publishDataset _ _ >>= _).run w = _ at hRun
        rcases run_bind_eq_error.1 hRun with hPublish | ⟨reference, t, hPublish, hDescribe⟩
        · exact transactional_of_publish_error hPublish he
        · have hFits := (hCondition payload record rfl).resolve_right
            (not_not.2 (publishable_of_run hPublish).1)
          exact transactional_of_describe_error hFrom hHash' hFits hPublish hDescribe he

/-! ## A dataset that is too wide to describe

One row without members, under as many columns as a table can have: their names take six octets for
each character, and every column misses its value. The description is over the limit of a response.
-/

/-- Two letters for a number below 256. -/
def letters (i : ℕ) : Text := [⟨0x61 + i / 16 % 16, by omega⟩, ⟨0x61 + i % 16, by omega⟩]

/-- A field ID of the greatest length. -/
def wideFieldId (i : ℕ) : Text := letters i ++ List.replicate 62 0x61

/-- A source name of the greatest length, of characters that take six octets in JSON. -/
def wideSourceName (i : ℕ) : Text := letters i ++ List.replicate 238 0x01

/-- The letters of an index are plain. -/
theorem isPlain_lettersOf (i : ℕ) : ∀ c ∈ letters i, IsPlain c := by
  intro c hc
  unfold letters at hc
  rcases List.mem_pair.1 hc with rfl | rfl
  · exact isPlain_of_val (show 0x20 ≤ 0x61 + i / 16 % 16 by omega)
      (show 0x61 + i / 16 % 16 < 0x80 by omega)
      (show 0x61 + i / 16 % 16 ≠ 0x22 by omega) (show 0x61 + i / 16 % 16 ≠ 0x5C by omega)
  · exact isPlain_of_val (show 0x20 ≤ 0x61 + i % 16 by omega) (show 0x61 + i % 16 < 0x80 by omega)
      (show 0x61 + i % 16 ≠ 0x22 by omega) (show 0x61 + i % 16 ≠ 0x5C by omega)

/-- A field id of 64 letters takes 66 bytes, with its quotes. -/
theorem size_wideFieldId (i : ℕ) : size (.str (wideFieldId i)) = 66 := by
  rw [size_str_of_isPlain (fun c hc => ?_)]
  · rfl
  · rcases List.mem_append.1 hc with hc | hc
    · exact isPlain_lettersOf i c hc
    · rw [List.eq_of_mem_replicate hc]
      decide

/-- Each control character is escaped in six bytes. -/
theorem utf8Length_escapeText_replicate (n : ℕ) : utf8Length (escapeText (List.replicate n 0x01)) =
    6 * n := by
  induction n with
  | zero => rfl
  | succ n ih =>
      have hEscape : utf8Length (escape 0x01) = 6 := by decide
      rw [List.replicate_succ, escapeText, List.flatMap_cons, utf8Length_append, hEscape]
      rw [escapeText] at ih
      omega

/-- A source name of 238 control characters and two letters takes 1432 bytes. -/
theorem size_wideSourceName (i : ℕ) : size (.str (wideSourceName i)) = 1432 := by
  have hLetters : size (.str (letters i)) = 4 := size_str_of_isPlain (isPlain_lettersOf i)
  have hRest := utf8Length_escapeText_replicate 238
  have hQuote : utf8Length [quote] = 1 := rfl
  rw [size_str, writeString, utf8Length_cons, utf8Length_append, hQuote] at hLetters ⊢
  rw [wideSourceName, escapeText, List.flatMap_append, utf8Length_append]
  rw [escapeText] at hLetters hRest
  omega

/-- Different columns have different letters. -/
theorem letters_injective {i j : Fin 128} (h : letters i = letters j) : i = j := by
  obtain ⟨hHigh, hTail⟩ := List.cons.inj h
  obtain ⟨hLow, -⟩ := List.cons.inj hTail
  have hHigh' : 0x61 + i.val / 16 % 16 = 0x61 + j.val / 16 % 16 := Fin.val_eq_of_eq hHigh
  have hLow' : 0x61 + i.val % 16 = 0x61 + j.val % 16 := Fin.val_eq_of_eq hLow
  have hi := i.isLt
  have hj := j.isLt
  exact Fin.ext (by omega)

/-- The field ids are safe. -/
theorem isSafeId_wideFieldId : ∀ i : Fin 128, isSafeId (wideFieldId i) = true := by decide +kernel

/-- The source names are within 240 bytes. -/
theorem utf8Within_wideSourceName : ∀ i : Fin 128, utf8Within 1 240 (wideSourceName i) = true := by
  decide +kernel

def widePort : SemanticPort :=
  ⟨{ direction := .output
     concept := .rebasedPriceIndexSeries
     unit := .volatility
     shape := .orderedSeries
     cardinality := .oneOrMore
     convention := .rollingSampleStandardDeviationSquareRootAnnualization
     ordering := .preserveSourceOrder
     frequency := .notApplicable
     provenanceRequirement := .sourceOrComponentBound }, by decide⟩

def wideColumn (i : Fin 128) : DatasetRecordColumn :=
  ⟨{ sourceName := ⟨wideSourceName i, utf8Within_wideSourceName i⟩
     fieldId := ⟨wideFieldId i, isSafeId_wideFieldId i⟩
     dataType := .timestamp
     role := .instrument
     semanticPort := some widePort }, rfl⟩

def wideEvent (i : Fin 128) : NormalizationEvent where
  code := .jsonMissingFieldToNull
  fieldId := ⟨wideFieldId i, isSafeId_wideFieldId i⟩
  count := ⟨1, oneRow⟩

/-- The sizes of the two integers that occur. -/
theorem sizes_int : size (.int 1) = 1 ∧ size (.int 128) = 3 := by decide +kernel

/-- A column takes 1923 bytes, mostly for its source name. -/
theorem size_wideColumn (i : Fin 128) : size (DatasetRecordColumn.codec.encode (wideColumn i)) =
    1923 := by
  have hPort : size (SemanticPort.codec.encode widePort) = 336 := by decide +kernel
  have hType : size (.lit "timestamp") = 11 := by
    apply size_literal
    decide
  have hRole : size (.lit "instrument") = 12 := by
    apply size_literal
    decide
  have hEncode : DatasetRecordColumn.codec.encode (wideColumn i) =
      .obj [(py "source_name", .str (wideSourceName i)), (py "field_id", .str (wideFieldId i)),
        (py "data_type", .lit "timestamp"), (py "role", .lit "instrument"),
        (py "semantic_port", SemanticPort.codec.encode widePort)] := rfl
  rw [hEncode, size_obj]
  simp only [List.map_cons, List.map_nil, List.sum_cons, List.sum_nil, List.length_cons,
    List.length_nil, memberSize, size_wideSourceName, size_wideFieldId, hPort, hType, hRole]
  decide

/-- An event takes 125 bytes. -/
theorem size_wideEvent (i : Fin 128) : size (NormalizationEvent.codec.encode (wideEvent i)) =
    125 := by
  have hCode : size (.lit "json_missing_field_to_null") = 28 := by
    apply size_literal
    decide
  have hEncode : NormalizationEvent.codec.encode (wideEvent i) =
      .obj [(py "code", .lit "json_missing_field_to_null"), (py "field_id", .str (wideFieldId i)),
        (py "count", .int 1)] := rfl
  rw [hEncode, size_obj]
  simp only [List.map_cons, List.map_nil, List.sum_cons, List.sum_nil, List.length_cons,
    List.length_nil, memberSize, size_wideFieldId, hCode, sizes_int.1]
  decide

/-- A list of as many values as the table has columns, all of one size. -/
theorem size_wideList {α : Type} {c : Codec α} {item : Fin 128 → α} {n : ℕ}
    (h : ∀ i, size (c.encode (item i)) = n) :
    size (.list (((List.finRange 128).map item).map c.encode)) = 128 * n + 129 := by
  have hMap : (((List.finRange 128).map item).map c.encode).map size = List.replicate 128 n := by
    rw [List.map_map, List.map_map]
    exact List.eq_replicate_iff.2 ⟨by simp, by simpa using h⟩
  rw [size_seq, hMap, List.sum_replicate_nat, List.length_map, List.length_map,
    List.length_finRange]
  omega

def widePayloadColumn (i : Fin 128) : DatasetPayloadColumn :=
  ⟨⟨wideFieldId i, isSafeId_wideFieldId i⟩, .timestamp⟩

def widePayloadFields : DatasetPayloadFields where
  columns := ⟨(List.finRange 128).map widePayloadColumn, by decide +kernel⟩
  rows := ⟨[List.replicate 128 (.of .null trivial)], by decide⟩

/-- Letters are no surrogates. -/
theorem encodable_letters (i : ℕ) : Text.Encodable (letters i) := by
  intro c hc hSurrogate
  have hLow := hSurrogate.1
  have hPlain := (isPlain_lettersOf i c hc).2
  omega

/-- A repeated character is encodable where it is no surrogate. -/
theorem encodable_replicate {c : CodePoint} (h : ¬ c.IsSurrogate) (n : ℕ) :
    Text.Encodable (List.replicate n c) :=
  fun _ hd => List.eq_of_mem_replicate hd ▸ h

/-- The field ids are encodable. -/
theorem encodable_wideFieldId (i : ℕ) : Text.Encodable (wideFieldId i) :=
  Text.encodable_append.2 ⟨encodable_letters i, encodable_replicate (by decide) 62⟩

/-- The source names are encodable. -/
theorem encodable_wideSourceName (i : ℕ) : Text.Encodable (wideSourceName i) :=
  Text.encodable_append.2 ⟨encodable_letters i, encodable_replicate (by decide) 238⟩

/-- The payload as it is written, part by part. -/
theorem encode_widePayload : widePayloadFields.projection =
    .obj [(py "schema_version", .int 1), (py "serialization", .lit "dq-table-v1"),
      (py "columns", .list (((List.finRange 128).map widePayloadColumn).map
      DatasetPayloadColumn.codec.encode)),
      (py "rows", .list [.list ((List.replicate 128 (SortedJson.of .null trivial)).map
      SortedJson.codec.encode)])] :=
  rfl

/-- The payload has a canonical form. -/
theorem accepts_widePayload : Accepts widePayloadFields.projection := by
  rw [encode_widePayload, accepts_obj]
  simp only [List.forall_mem_cons, List.not_mem_nil, false_imp_iff, implies_true, and_true]
  refine ⟨⟨encodable_py _, accepts_one⟩, ⟨encodable_py _, accepts_lit _⟩,
    ⟨encodable_py _, accepts_seq.2 ?_⟩, encodable_py _, accepts_seq.2 (fun row hRow => ?_)⟩
  · rw [List.map_map]
    refine List.forall_mem_map.2 (fun i _ => accepts_obj.2 ?_)
    exact List.forall_mem_cons.2 ⟨⟨encodable_py _, accepts_str.2 (encodable_wideFieldId i)⟩,
      List.forall_mem_cons.2 ⟨⟨encodable_py _, accepts_lit _⟩, fun _ h =>
      absurd h List.not_mem_nil⟩⟩
  · rw [List.mem_singleton.1 hRow, List.map_replicate, accepts_seq]
    exact fun v hv => List.eq_of_mem_replicate hv ▸ accepts_null

/-- The payload passes its validator: one row without values for 128 columns. -/
theorem validateTable_widePayload : widePayloadFields.validateTable = .ok () := by
  have hUnique : (((List.finRange 128).map widePayloadColumn).map (fun c => c.fieldId)).Nodup := by
    rw [List.map_map]
    refine (List.nodup_finRange 128).map (fun i j h => letters_injective ?_)
    exact List.append_cancel_right (congrArg Subtype.val h)
  refine DatasetPayloadFields.validateTable_eq_ok.2 ⟨hUnique, fun row hRow => ?_,
    accepts_widePayload⟩
  obtain rfl := List.mem_singleton.1 hRow
  refine ⟨by rw [List.length_replicate]; rfl, fun p hp => ?_⟩
  rw [List.eq_of_mem_replicate (List.of_mem_zip hp).1]
  rfl

def widePayload : DatasetPayload := ⟨widePayloadFields, validateTable_widePayload⟩

def wideSource : DatasetRecordSource :=
  .inline .inlineRows
    { sourceKind := .synthetic
      interpretationMethod := .callerStructured
      verificationStatus := .unverified
      label := ⟨py "wide", by decide⟩
      references := ⟨[], noReferences⟩
      contentSha256 := none
      assumptions := ⟨[], noReferences⟩ }

def noSemantics : DatasetSemantics := ⟨none, none, none, none, none, none, none, none, none⟩

def wideNormalizer : RunnerIdentity :=
  ⟨⟨py "defined_quant_mcp_dataset_normalizer", by decide⟩, ⟨py "1.0.0", isSemver_one⟩⟩

def wideFields (payloadSha256 rawSourceSha256 : Sha256Text) : DatasetRecordFields where
  payload := ⟨payloadSha256⟩
  rawSourceSha256 := rawSourceSha256
  source := wideSource
  externalPreprocessing := .without .unknown
  columns := ⟨(List.finRange 128).map wideColumn, by decide +kernel⟩
  semantics := noSemantics
  rowCount := ⟨1, oneRow⟩
  columnCount := ⟨128, by decide⟩
  observationBounds := none
  normalizationEvents := ⟨(List.finRange 128).map wideEvent, by decide +kernel⟩
  findings := ⟨[], noFindings⟩
  normalizer := wideNormalizer

def someSha256 : Sha256Text := ⟨List.replicate 64 0x30, isSha256_zeros⟩

/-- The bytes of a field id: its two letters, then 62 times the letter `a`. -/
theorem utf8Raw_wideFieldId (i : ℕ) :
    utf8Raw (wideFieldId i) = ⟨0x61 + i / 16 % 16, by omega⟩ :: ⟨0x61 + i % 16, by omega⟩ ::
      utf8Raw (List.replicate 62 0x61) := by
  have hLetters : Text.IsAscii (letters i) := fun c hc => (isPlain_lettersOf i c hc).2
  rw [wideFieldId, utf8Raw_append, hLetters.utf8Raw_eq]
  refine congrArg₂ _ (Fin.ext ?_) (congrArg₂ _ (Fin.ext ?_) rfl)
  · show (0x61 + i / 16 % 16) % 256 = 0x61 + i / 16 % 16
    omega
  · show (0x61 + i % 16) % 256 = 0x61 + i % 16
    omega

/-- The events are in the order of their fields. -/
theorem eventKey_lt {i j : Fin 128} (h : i < j) :
    eventKey (wideEvent i) < eventKey (wideEvent j) := by
  have hKey : utf8Raw (wideFieldId i) < utf8Raw (wideFieldId j) := by
    rw [utf8Raw_wideFieldId, utf8Raw_wideFieldId, List.cons_lt_cons_iff, List.cons_lt_cons_iff,
      Fin.lt_def, Fin.lt_def, Fin.ext_iff]
    show 0x61 + i.val / 16 % 16 < 0x61 + j.val / 16 % 16 ∨ 0x61 + i.val / 16 % 16 = 0x61 +
      j.val / 16 % 16 ∧
      (0x61 + i.val % 16 < 0x61 + j.val % 16 ∨ _)
    have hi := i.isLt
    have hj := j.isLt
    have hij : i.val < j.val := h
    rcases Nat.lt_or_ge (i.val / 16 % 16) (j.val / 16 % 16) with hHigh | hHigh
    · exact .inl (by omega)
    · exact .inr ⟨by omega, .inl (by omega)⟩
  exact Prod.Lex.toLex_lt_toLex.2 (.inr ⟨rfl, hKey⟩)

/-- The record passes its validator. -/
theorem validateRecord_wideFields (payloadSha256 rawSourceSha256 : Sha256Text) :
    (wideFields payloadSha256 rawSourceSha256).validateRecord = .ok () := by
  have hKeys : ((List.finRange 128).map (fun i => eventKey (wideEvent i))).Pairwise (· < ·) :=
    List.pairwise_map.2 ((List.pairwise_lt_finRange 128).imp (fun h => eventKey_lt h))
  refine DatasetRecordFields.validateRecord_eq_ok.2 ⟨rfl, ⟨?_, ?_⟩, ?_, fun _ => rfl, ?_, ?_, ?_,
    rfl, nofun, ?_⟩
  · show (((List.finRange 128).map wideColumn).map (fun c => c.1.fieldId)).Nodup
    rw [List.map_map]
    refine (List.nodup_finRange 128).map (fun i j h => letters_injective ?_)
    exact List.append_cancel_right (congrArg Subtype.val h)
  · show (((List.finRange 128).map wideColumn).map (fun c => c.1.sourceName)).Nodup
    rw [List.map_map]
    refine (List.nodup_finRange 128).map (fun i j h => letters_injective ?_)
    exact List.append_cancel_right (congrArg Subtype.val h)
  · show (((List.finRange 128).map wideColumn).filter (fun c => c.1.role = .timestamp)).length ≤ 1
    rw [List.filter_map, List.filter_eq_nil_iff.2 (fun i _ => Bool.noConfusion)]
    exact Nat.zero_le 1
  · show (((List.finRange 128).map wideEvent).map eventKey).Nodup
    rw [List.map_map]
    exact hKeys.imp (fun h => h.ne)
  · refine sortBy_eq_self ?_
    show ((List.finRange 128).map wideEvent).Pairwise _
    exact List.pairwise_map.2 ((List.pairwise_lt_finRange 128).imp (fun h => (eventKey_lt h).le))
  · show ∀ event ∈ (List.finRange 128).map wideEvent, _
    refine List.forall_mem_map.2 (fun i _ => ?_)
    have hFound : ∃ column, ((List.finRange 128).map wideColumn).find?
        (fun c => c.1.fieldId = (wideEvent i).fieldId) = some column := by
      refine Option.isSome_iff_exists.1 (List.find?_isSome.2 ⟨wideColumn i, ?_, decide_eq_true rfl⟩)
      exact List.mem_map_of_mem (List.mem_finRange i)
    obtain ⟨column, hFound⟩ := hFound
    unfold DatasetRecordFields.validateEvent
    rw [show (wideFields payloadSha256 rawSourceSha256).columns.1 = (List.finRange 128).map
      wideColumn from rfl,
      hFound]
    rfl
  · exact validateSemver_one

def wideRecord (payloadSha256 rawSourceSha256 : Sha256Text) : DatasetRecord :=
  ⟨wideFields payloadSha256 rawSourceSha256, validateRecord_wideFields _ _⟩

variable {payloadSha256 rawSourceSha256 : Sha256Text}

/-- The columns and the events alone are over the limit of a response. -/
theorem size_metadata_le (stored : StoredDataset) :
    size (.list (stored.record.1.columns.1.map DatasetRecordColumn.codec.encode)) +
      size (.list (stored.record.1.normalizationEvents.1.map NormalizationEvent.codec.encode))
        ≤ size (.obj (datasetMetadata stored true)) := by
  rw [size_obj]
  simp only [datasetMetadata, List.map_cons, List.map_nil, List.sum_cons, List.sum_nil, memberSize]
  omega

/-- The columns of the record, in order. -/
theorem columns_wideRecord : (wideRecord payloadSha256 rawSourceSha256).1.columns.1 =
    (List.finRange 128).map wideColumn :=
  rfl

/-- Its events, one for each column. -/
theorem events_wideRecord :
    (wideRecord payloadSha256 rawSourceSha256).1.normalizationEvents.1 = (List.finRange 128).map
      wideEvent :=
  rfl

/-- The description of the dataset exceeds the limit on responses. -/
theorem wide_over_limit (reference : Text) (payload : DatasetPayload) :
    maxStructuredResponseBytes
      < size (.obj (datasetMetadata ⟨reference, wideRecord payloadSha256 rawSourceSha256, payload⟩
        true)) := by
  have hParts := size_metadata_le ⟨reference, wideRecord payloadSha256 rawSourceSha256, payload⟩
  dsimp only at hParts
  rw [columns_wideRecord, events_wideRecord, size_wideList size_wideColumn,
    size_wideList size_wideEvent] at hParts
  refine lt_of_lt_of_le ?_ hParts
  decide

/-- A column has a canonical form. -/
theorem accepts_wideColumn (i : Fin 128) :
    Accepts (DatasetRecordColumn.codec.encode (wideColumn i)) := by
  have hPort : Accepts (SemanticPort.codec.encode widePort) := accepts_of_isOk (by decide +kernel)
  have hEncode : DatasetRecordColumn.codec.encode (wideColumn i) =
      .obj [(py "source_name", .str (wideSourceName i)), (py "field_id", .str (wideFieldId i)),
        (py "data_type", .lit "timestamp"), (py "role", .lit "instrument"),
        (py "semantic_port", SemanticPort.codec.encode widePort)] := rfl
  rw [hEncode, accepts_obj]
  simp only [List.forall_mem_cons, List.not_mem_nil, false_imp_iff, implies_true, and_true]
  exact ⟨⟨encodable_py _, accepts_str.2 (encodable_wideSourceName i)⟩,
    ⟨encodable_py _, accepts_str.2 (encodable_wideFieldId i)⟩, ⟨encodable_py _, accepts_lit _⟩,
    ⟨encodable_py _, accepts_lit _⟩, encodable_py _, hPort⟩

/-- An event has a canonical form. -/
theorem accepts_wideEvent (i : Fin 128) :
    Accepts (NormalizationEvent.codec.encode (wideEvent i)) := by
  have hEncode : NormalizationEvent.codec.encode (wideEvent i) =
      .obj [(py "code", .lit "json_missing_field_to_null"), (py "field_id", .str (wideFieldId i)),
        (py "count", .int 1)] := rfl
  rw [hEncode, accepts_obj]
  simp only [List.forall_mem_cons, List.not_mem_nil, false_imp_iff, implies_true, and_true]
  exact ⟨⟨encodable_py _, accepts_lit _⟩, ⟨encodable_py _, accepts_str.2 (encodable_wideFieldId i)⟩,
    encodable_py _, accepts_int.2 (by decide)⟩

/-- A list has a canonical form where its items have one. -/
theorem accepts_wideList {α : Type} {c : Codec α}
    {item : Fin 128 → α} (h : ∀ i, Accepts (c.encode (item i))) :
    Accepts (.list (((List.finRange 128).map item).map c.encode)) := by
  rw [accepts_seq, List.map_map]
  exact List.forall_mem_map.2 (fun i _ => h i)

/-- The wide record as it is written, part by part. -/
theorem encode_wideRecord : DatasetRecord.codec.encode (wideRecord payloadSha256 rawSourceSha256) =
    .obj [(py "host_schema_version", .int 1), (py "record_kind", .lit "dataset"),
      (py "payload", .obj [(py "serialization", .lit "dq-table-v1"),
      (py "sha256", .str payloadSha256.1)]), (py "raw_source_sha256", .str rawSourceSha256.1),
      (py "source", DatasetRecordSource.codec.encode wideSource),
      (py "external_preprocessing", ExternalPreprocessing.codec.encode (.without .unknown)),
      (py "columns", .list (((List.finRange 128).map wideColumn).map
      DatasetRecordColumn.codec.encode)),
        (py "semantics", DatasetSemantics.codec.encode noSemantics),
      (py "row_count", .int 1), (py "column_count", .int 128), (py "observation_bounds", .null),
      (py "normalization_events", .list (((List.finRange 128).map wideEvent).map
      NormalizationEvent.codec.encode)),
      (py "findings", .list []), (py "normalizer", RunnerIdentity.codec.encode wideNormalizer)] :=
      rfl

/-- So the record has a canonical form. -/
theorem accepts_wideRecord :
    Accepts (DatasetRecord.codec.encode (wideRecord payloadSha256 rawSourceSha256)) := by
  have hSource : Accepts (DatasetRecordSource.codec.encode wideSource) :=
    accepts_of_isOk (by decide +kernel)
  have hPreprocessing : Accepts (ExternalPreprocessing.codec.encode (.without .unknown)) :=
    accepts_of_isOk (by decide)
  have hSemantics : Accepts (DatasetSemantics.codec.encode noSemantics) :=
    accepts_of_isOk (by decide)
  have hNormalizer : Accepts (RunnerIdentity.codec.encode wideNormalizer) :=
    accepts_of_isOk (by decide)
  have hBinding :
    Accepts (.obj [(py "serialization", .lit "dq-table-v1"),
      (py "sha256", .str payloadSha256.1)]) := by
    rw [accepts_obj]
    simp only [List.forall_mem_cons, List.not_mem_nil, false_imp_iff, implies_true, and_true]
    exact ⟨⟨encodable_py _, accepts_lit _⟩, encodable_py _, accepts_str.2 (encodable_sha256Text _)⟩
  have hKey := encodable_py
  rw [encode_wideRecord, accepts_obj]
  simp only [List.forall_mem_cons, List.not_mem_nil, false_imp_iff, implies_true, and_true]
  exact ⟨⟨hKey _, accepts_one⟩, ⟨hKey _, accepts_lit _⟩, ⟨hKey _, hBinding⟩,
    ⟨hKey _, accepts_str.2 (encodable_sha256Text _)⟩, ⟨hKey _, hSource⟩, ⟨hKey _, hPreprocessing⟩,
    ⟨hKey _, accepts_wideList accepts_wideColumn⟩, ⟨hKey _, hSemantics⟩, ⟨hKey _, accepts_one⟩,
    ⟨hKey _, accepts_int.2 (by decide)⟩, ⟨hKey _, accepts_null⟩,
    ⟨hKey _, accepts_wideList accepts_wideEvent⟩,
    ⟨hKey _, accepts_seq.2 (fun _ h => absurd h List.not_mem_nil)⟩, hKey _, hNormalizer⟩

/-- A digest takes 66 bytes, with its quotes. -/
theorem size_sha256Text (t : Sha256Text) : size (.str t.1) = 66 := by
  obtain ⟨hLength, hPlain⟩ := isPlain_of_isSha256 t.2
  rw [size_str_of_isPlain hPlain, hLength]

/-- The keys and the short values of a record take little. -/
theorem size_record_le (binding rawSource source preprocessing columns semantics events normalizer :
    Value) :
    size (.obj [(py "host_schema_version", .int 1), (py "record_kind", .lit "dataset"),
      (py "payload", binding),
        (py "raw_source_sha256", rawSource), (py "source", source),
        (py "external_preprocessing", preprocessing), (py "columns", columns),
        (py "semantics", semantics), (py "row_count", .int 1), (py "column_count", .int 128),
        (py "observation_bounds", .null), (py "normalization_events", events),
        (py "findings", .list []), (py "normalizer", normalizer)])
      ≤ size binding + size rawSource + size source + size preprocessing + size columns +
        size semantics + size events +
        size normalizer + 500 := by
  have hShort : size (.int 1) + size (.lit "dataset") + size (.int 128) + size (.list []) ≤ 50 := by
    have hKind : size (.lit "dataset") = 9 := by
      apply size_literal
      decide
    rw [hKind, sizes_int.1, sizes_int.2, size_seq]
    decide
  have hKeys : ([py "host_schema_version", py "record_kind", py "payload", py "raw_source_sha256",
    py "source",
      py "external_preprocessing", py "columns", py "semantics", py "row_count", py "column_count",
      py "observation_bounds", py "normalization_events", py "findings", py "normalizer"].map
      (fun key => utf8Length (writeString key))).sum ≤ 300 := by
    decide
  refine (size_obj_le _).trans ((Nat.add_le_add_right (Nat.add_le_add_left hKeys _) _).trans ?_)
  simp only [List.map_cons, List.map_nil, List.sum_cons, List.sum_nil, List.length_cons,
    List.length_nil, size_null]
  -- the sizes of the fixed values are atoms here, not to be computed
  generalize size (.int 1) = one, size (.lit "dataset") = kind, size (.int 128) = width,
    size (.list []) = empty
    at hShort ⊢
  generalize size binding = a, size rawSource = b, size source = c, size preprocessing = d,
    size columns = e, size semantics = f, size events = g, size normalizer = h
  omega

/-- The record is within the limit of records. -/
theorem size_wideRecord_lt :
    size (DatasetRecord.codec.encode (wideRecord payloadSha256 rawSourceSha256)) <
      maxRecordBytes := by
  have hSource : size (DatasetRecordSource.codec.encode wideSource) ≤ 500 := by decide +kernel
  have hPreprocessing : size (ExternalPreprocessing.codec.encode (.without .unknown)) ≤ 500 := by
    decide +kernel
  have hSemantics : size (DatasetSemantics.codec.encode noSemantics) ≤ 500 := by decide +kernel
  have hNormalizer : size (RunnerIdentity.codec.encode wideNormalizer) ≤ 500 := by decide +kernel
  have hBinding :
    size (.obj [(py "serialization", .lit "dq-table-v1"), (py "sha256", .str payloadSha256.1)]) ≤
      500 := by
    have hFixed : utf8Length (writeString (py "serialization")) +
      utf8Length (writeString (py "sha256")) +
        size (.lit "dq-table-v1") ≤ 100 := by
      decide +kernel
    rw [size_obj]
    simp only [List.map_cons, List.map_nil, List.sum_cons, List.sum_nil, List.length_cons,
      List.length_nil, memberSize, size_sha256Text]
    generalize utf8Length (writeString (py "serialization")) = key,
      utf8Length (writeString (py "sha256")) = key', size (.lit "dq-table-v1") = form at hFixed ⊢
    omega
  have hSize :=
    size_record_le (.obj [(py "serialization", .lit "dq-table-v1"),
      (py "sha256", .str payloadSha256.1)])
    (.str rawSourceSha256.1) (DatasetRecordSource.codec.encode wideSource)
    (ExternalPreprocessing.codec.encode (.without .unknown))
    (.list (((List.finRange 128).map wideColumn).map DatasetRecordColumn.codec.encode))
    (DatasetSemantics.codec.encode noSemantics)
    (.list (((List.finRange 128).map wideEvent).map NormalizationEvent.codec.encode))
    (RunnerIdentity.codec.encode wideNormalizer)
  rw [← encode_wideRecord, size_wideList size_wideColumn, size_wideList size_wideEvent,
    size_sha256Text] at hSize
  have hLimit : 2097152 ≤ maxRecordBytes := by decide
  generalize size (DatasetRecord.codec.encode _) = total at hSize ⊢
  generalize size (DatasetRecordSource.codec.encode wideSource) = source at hSource hSize
  generalize size (ExternalPreprocessing.codec.encode _) = preprocessing at hPreprocessing hSize
  generalize size (DatasetSemantics.codec.encode noSemantics) = semantics at hSemantics hSize
  generalize size (RunnerIdentity.codec.encode wideNormalizer) = normalizer at hNormalizer hSize
  generalize size (.obj _) = binding at hBinding hSize
  generalize maxRecordBytes = limit at hLimit ⊢
  omega

/-- A column of the payload takes 103 bytes. -/
theorem size_widePayloadColumn (i : Fin 128) :
    size (DatasetPayloadColumn.codec.encode (widePayloadColumn i)) = 103 := by
  have hType : size (.lit "timestamp") = 11 := by
    apply size_literal
    decide
  have hEncode : DatasetPayloadColumn.codec.encode (widePayloadColumn i) =
      .obj [(py "field_id", .str (wideFieldId i)), (py "data_type", .lit "timestamp")] := rfl
  rw [hEncode, size_obj]
  simp only [List.map_cons, List.map_nil, List.sum_cons, List.sum_nil, List.length_cons,
    List.length_nil, memberSize, size_wideFieldId, hType]
  decide

/-- A payload with one row of nulls is within the limit of payloads. -/
theorem size_widePayload_lt : size (DatasetPayload.codec.encode widePayload) <
    maxDatasetPayloadBytes := by
  have hShort : size (.int 1) + size (.lit "dq-table-v1") ≤ 50 := by
    have hForm : size (.lit "dq-table-v1") = 13 := by
      apply size_literal
      decide
    rw [hForm, sizes_int.1]
    decide
  have hKeys : ([py "schema_version", py "serialization", py "columns", py "rows"].map
      (fun key => utf8Length (writeString key))).sum ≤ 50 := by
    decide
  have hRow :
    size (.list [.list ((List.replicate 128 (SortedJson.of .null trivial)).map
      SortedJson.codec.encode)])
      = 643 := by
    have hNull : SortedJson.codec.encode (SortedJson.of .null trivial) = .null := rfl
    rw [List.map_replicate, hNull, size_seq, List.map_singleton, size_seq, List.map_replicate,
      size_null, List.sum_replicate_nat, List.length_replicate]
    rfl
  have hSize :=
    size_obj_le [(py "schema_version", .int 1), (py "serialization", .lit "dq-table-v1"),
      (py "columns", .list (((List.finRange 128).map widePayloadColumn).map
      DatasetPayloadColumn.codec.encode)),
      (py "rows", .list [.list ((List.replicate 128 (SortedJson.of .null trivial)).map
      SortedJson.codec.encode)])]
  rw [← encode_widePayload] at hSize
  simp only [List.map_cons, List.map_nil, List.sum_cons, List.sum_nil, List.length_cons,
    List.length_nil, size_wideList size_widePayloadColumn, hRow] at hSize hKeys
  have hLimit : 524288 ≤ maxDatasetPayloadBytes := by decide
  show size widePayloadFields.projection < _
  generalize size widePayloadFields.projection = total at hSize ⊢
  generalize size (.int 1) = one, size (.lit "dq-table-v1") = form at hShort hSize
  generalize utf8Length (writeString (py "schema_version")) = a,
    utf8Length (writeString (py "serialization")) = b, utf8Length (writeString (py "columns")) = c,
    utf8Length (writeString (py "rows")) = d at hKeys hSize
  generalize maxDatasetPayloadBytes = limit at hLimit ⊢
  omega

/-- The record agrees with the payload that it digests. -/
theorem validatePayload_wideRecord (h : widePayload.digest = .ok payloadSha256.1) :
    (wideRecord payloadSha256 rawSourceSha256).validatePayload widePayload = .ok () := by
  have hWidth : ((widePayload.1.columns.1.length : ℤ)) = 128 := by
    show ((((List.finRange 128).map widePayloadColumn).length : ℕ) : ℤ) = 128
    rw [List.length_map, List.length_finRange]
    rfl
  have hColumns : widePayload.1.columns.1.map (fun c => (c.fieldId, c.dataType)) =
      (wideRecord payloadSha256 rawSourceSha256).1.columns.1.map
        (fun c => (c.1.fieldId, c.1.dataType)) := by
    rw [columns_wideRecord, List.map_map]
    exact List.map_map
  have hNoTimestamp : (wideRecord payloadSha256 rawSourceSha256).1.columns.1.findIdx?
      (fun c => c.1.role = .timestamp) = none := by
    rw [columns_wideRecord, List.findIdx?_eq_none_iff]
    exact List.forall_mem_map.2 (fun _ _ => rfl)
  unfold DatasetRecord.validatePayload
  refine Except.bind_eq_ok.2 ⟨_, h, Except.throwIf_eq_ok.2 ⟨not_not.2 rfl,
    Except.throwIf_eq_ok.2 ⟨?_, ?_⟩⟩⟩
  · exact not_or.2 ⟨not_not.2 rfl, not_not.2 hWidth⟩
  · rw [Except.throwIf_eq_ok, hNoTimestamp]
    exact ⟨not_not.2 hColumns, rfl⟩

/-- A table of one empty row under 128 wide columns is stored and registered by a call that raises,
whatever its raw source was. -/
theorem not_transactional_wide : ∃ payloadSha256 :
    Sha256Text, widePayload.digest = .ok payloadSha256.1 ∧
    ∀ rawSourceSha256, FromEmpty (World.opened [] hardLimits []) ∧
      ¬ Transactional (World.opened [] hardLimits [])
        (.ok (widePayload, wideRecord payloadSha256 rawSourceSha256)) := by
  have hPayloadAccepts : Accepts (DatasetPayload.codec.encode widePayload) := accepts_widePayload
  obtain ⟨digest, hDigest⟩ := (@canonicalHash_isOk_iff _ datasetPayloadHashDomain (by decide)).2
    hPayloadAccepts
  obtain ⟨content, -, hSha⟩ := Except.bind_eq_ok.1 hDigest
  have hSha' := Except.pure_eq_ok.1 hSha
  refine ⟨digestOf content, hDigest.trans (congrArg _ hSha'.symm), fun rawSourceSha256 =>
    ⟨fromEmpty_opened _ _ _, ?_⟩⟩
  -- The table can be published: it is accepted, and both documents are within their limits.
  have hRecordAccepts :
    Accepts (DatasetRecord.codec.encode (wideRecord (digestOf content) rawSourceSha256)) :=
    accepts_wideRecord
  have hPayloadBytes : ∃ bytes, casJsonBytes (DatasetPayload.codec.encode widePayload) =
    .ok bytes :=
    ⟨_, documentBytes_of_accepts .compactSorted hPayloadAccepts⟩
  have hRecordBytes : ∃ bytes,
      casJsonBytes (DatasetRecord.codec.encode (wideRecord (digestOf content) rawSourceSha256)) =
      .ok bytes :=
    ⟨_, documentBytes_of_accepts .compactSorted hRecordAccepts⟩
  obtain ⟨payloadBytes, hPayloadBytes⟩ := hPayloadBytes
  obtain ⟨recordBytes, hRecordBytes⟩ := hRecordBytes
  have hRecordDigest : ∃ d, (wideRecord (digestOf content) rawSourceSha256).digest = .ok d :=
    (@canonicalHash_isOk_iff _ datasetRecordHashDomain (by decide)).2 hRecordAccepts
  obtain ⟨d, hRecordDigest⟩ := hRecordDigest
  have hReference : (wideRecord (digestOf content) rawSourceSha256).reference =
    .ok (makeReference .dataset d) := by
    unfold DatasetRecord.reference
    rw [hRecordDigest]
    rfl
  refine not_transactional_of_not_describable ⟨payloadBytes, recordBytes, _, ?_, hReference, ?_, ?_⟩
    (fun hDescribable => ?_)
  · exact validateDatasetArguments_eq_ok.2 ⟨widePayload, DatasetPayload.codec.decode_encode _,
      DatasetRecord.codec.decode_encode _,
      validatePayload_wideRecord (hDigest.trans (congrArg _ hSha'.symm)), hPayloadBytes,
      hRecordBytes⟩
  · rw [length_casJsonBytes hPayloadBytes]
    exact Nat.add_one_le_iff.2 size_widePayload_lt
  · rw [length_casJsonBytes hRecordBytes]
    exact Nat.add_one_le_iff.2 size_wideRecord_lt
  -- Its description is too long for a response.
  · obtain ⟨size, hSize, hLe⟩ := hDescribable _ hReference
    obtain ⟨-, -, rfl⟩ := resultSize_eq_ok.1 hSize
    have hOver := @wide_over_limit (digestOf content) rawSourceSha256 (makeReference .dataset d)
      widePayload
    omega

end RecordViews
