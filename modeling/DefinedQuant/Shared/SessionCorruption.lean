import DefinedQuant.Shared.SessionFaithful

/-!
# Corruption is sticky

The outside may change any file at any moment. Once the stored entry of a reference has failed to
verify, whichever call found it out, the reference is marked for the rest of the session, and what
is marked is refused before a file is looked at; so putting the old files back repairs nothing.
-/

namespace SessionCas

open Json Canonical DataRecords HostFailures LocalHost OperationRecords FileTree Effect

variable {w w' : World}

/-! ## Failures are marked -/

/-- Every reference whose stored entry has failed to verify is marked. -/
def FailuresMarked (w : World) : Prop := w.session.failures ⊆ w.session.corruptReferences

/-- Settling marks the failures it meets. -/
theorem FailuresMarked.settles {X : Set Location} (h : FailuresMarked w)
    (hSettles : Settles X ∅ w w') : FailuresMarked w' := by
  intro r hr
  by_contra hCorrupt
  rcases hSettles.marked r hr hCorrupt with hF | ⟨hr, hCorrupt⟩
  · exact hF
  · exact hCorrupt (h hr)

/-- A run after which what has failed or was marked still is. -/
structure Remembers (w w' : World) : Prop where
  failures : w.session.failures ⊆ w'.session.failures
  corrupt : w.session.corruptReferences ⊆ w'.session.corruptReferences
  closed : w'.session.closed = w.session.closed
  marked : FailuresMarked w → FailuresMarked w'

/-- Two steps that forget no corruption forget none together. -/
theorem Remembers.trans {w'' : World} (h : Remembers w w') (h' : Remembers w' w'') :
    Remembers w w'' :=
  ⟨h.failures.trans h'.failures, h.corrupt.trans h'.corrupt, h'.closed.trans h.closed,
    fun hMarked => h'.marked (h.marked hMarked)⟩

/-- Settling forgets no corruption. -/
theorem Settles.remembers {X : Set Location} (h : Settles X ∅ w w') : Remembers w w' :=
  ⟨h.failures, h.corrupt, h.closed, fun hMarked => hMarked.settles h⟩

/-- Neither does `_register`. -/
theorem remembers_of_register {reference : Text} {size : ℕ} {u : Unit}
    (h : (register reference size).run w = .ok u w') : Remembers w w' := by
  rcases run_register_eq_ok.1 h with ⟨-, rfl⟩ | ⟨-, -, rfl⟩
  · exact ⟨subset_rfl, subset_rfl, rfl, id⟩
  · exact ⟨subset_rfl, subset_rfl, rfl, id⟩

/-- Neither does any step. -/
theorem Step.remembers (h : Step w w') : Remembers w w' := by
  cases h with
  | call c =>
      rcases call_step c w with hSettles | ⟨-, kind, loc, reference, -, -, hRegisters⟩
      · exact hSettles.remembers
      · obtain ⟨t, t', size, hBefore, hRegister, hAfter, -⟩ := hRegisters
        exact (hBefore.remembers.trans (remembers_of_register hRegister)).trans hAfter.remembers
  | others registry => exact ⟨subset_rfl, subset_rfl, rfl, id⟩

/-- Neither does a run. -/
theorem remembers_of_steps (h : Relation.ReflTransGen Step w w') : Remembers w w' := by
  induction h with
  | refl => exact ⟨subset_rfl, subset_rfl, rfl, id⟩
  | tail _ hStep ih => exact ih.trans hStep.remembers

/-- In every reachable session each failure is marked. -/
theorem Reachable.failuresMarked (h : Reachable w) : FailuresMarked w := by
  obtain ⟨start, sessionId, limits, cursorKey, hStart, hSteps⟩ := h
  refine (remembers_of_steps hSteps).marked (fun r hr => ?_)
  rw [hStart] at hr
  exact absurd hr (Finset.notMem_empty r)

/-! ## What is marked is refused -/

/-- `_resolve` refuses a corrupt reference. -/
theorem run_resolve_of_corrupt {reference : Text} {kind : RecordKind} {loc : Location}
    (hOpen : w.session.closed = false) (hDestination : destinationOf reference kind = .ok loc)
    (hCorrupt : reference ∈ w.session.corruptReferences) :
    (resolve reference kind).run w = .error (failure .recordCorrupt) w := by
  have hRequire : requireOpen.run w = .ok () w := by
    refine run_raiseIf_eq_ok.2 ⟨?_, rfl⟩
    rw [hOpen]
    exact Bool.false_ne_true
  unfold resolve
  rw [run_bind_of_ok hRequire, run_lift_bind_of_ok hDestination, run_get_bind,
    run_raiseIf_bind_of_pos hCorrupt]

/-- A call that is made for a reference of a kind, by its arguments and what the recursion limit
leaves to it. -/
def Call.For (recursion : Recursion) (kind : RecordKind) (reference : Text) : Call → Prop
  | .publishDataset payload record => ∃ validatedRecord payloadBytes recordBytes,
      validateDatasetArguments payload record = .ok (validatedRecord, payloadBytes, recordBytes) ∧
        validatedRecord.reference = .ok reference
  | .publishOperation record manifestBytes members => ∃ validatedRecord memberCopy recordBytes,
      operationArgumentsWithin recursion record manifestBytes members
          = .ok (validatedRecord, memberCopy, recordBytes) ∧
        validatedRecord.reference = .ok reference
  | .loadDataset reference' => kind = .dataset ∧ reference' = reference
  | .loadOperation reference' => kind = .operation ∧ reference' = reference
  | .encodeCursor reference' _ _ _ => reference' = reference
  | .decodeCursor _ reference' _ _ => reference' = reference

/-- What a call publishes is within the octet limits of the session. -/
def Call.WithinLimits (limits : CasLimits) : Call → Prop
  | .publishDataset payload record => ∀ validatedRecord payloadBytes recordBytes,
      validateDatasetArguments payload record = .ok (validatedRecord, payloadBytes, recordBytes) →
        payloadBytes.length ≤ limits.datasetPayloadBytes ∧ recordBytes.length ≤ limits.recordBytes
  | .publishOperation record manifestBytes members => ∀ validatedRecord memberCopy recordBytes,
      validateOperationArguments record manifestBytes members
          = .ok (validatedRecord, memberCopy, recordBytes) →
        manifestBytes.length + (memberCopy.map (fun member => member.2.length)).sum
            ≤ limits.operationBundleBytes ∧ recordBytes.length ≤ limits.recordBytes
  | _ => True

/-- The call is refused: as corrupt, or in any way if it decodes a cursor. -/
def Call.Refused (w : World) (call : Call) : Prop :=
  ∃ e w', call.run.run w = .error e w' ∧
    ((∀ token reference view selector, call ≠ .decodeCursor token reference view selector) →
      e = failure .recordCorrupt)

/-- A call that runs into an error first ends with it. -/
theorem refused_of_run {α : Type} {x : Host α} {call : Call} {e : Raised}
    (hCall : call.run = (do let _ ← x)) (hRun : x.run w = .error e w')
    (he : (∀ token reference view selector, call ≠ .decodeCursor token reference view selector) →
      e = failure .recordCorrupt) : call.Refused w :=
  ⟨e, w', by rw [hCall]; exact run_bind_eq_error.2 (.inl hRun), he⟩

/-- `publish_dataset` refuses a corrupt reference, after its limits. -/
theorem run_publishDataset_of_corrupt {payload record : Value} {validatedRecord : DatasetRecord}
    {payloadBytes recordBytes : Bytes} {reference : Text} (hOpen : w.session.closed = false)
    (hArguments : validateDatasetArguments payload record
      = .ok (validatedRecord, payloadBytes, recordBytes))
    (hReference : validatedRecord.reference = .ok reference)
    (hPayload : payloadBytes.length ≤ w.session.limits.datasetPayloadBytes)
    (hRecord : recordBytes.length ≤ w.session.limits.recordBytes)
    (hCorrupt : reference ∈ w.session.corruptReferences) :
    (publishDataset payload record).run w = .error (failure .recordCorrupt) w := by
  unfold publishDataset
  rw [run_requireOpen_bind_of_open hOpen, run_lift_bind_of_ok hArguments]
  simp only [run_get_bind]
  rw [run_raiseIf_bind_of_neg (not_lt.2 hPayload), run_raiseIf_bind_of_neg (not_lt.2 hRecord),
    run_lift_bind_of_ok hReference, run_raiseIf_bind_of_pos hCorrupt]

/-- So does `publish_operation`. -/
theorem run_publishOperation_of_corrupt {record : Value} {manifestBytes : Bytes}
    {members memberCopy : List (Text × Bytes)} {validatedRecord : OperationRecord}
    {recordBytes : Bytes} {reference : Text} (hOpen : w.session.closed = false)
    (hArguments : operationArgumentsWithin w.recursion record manifestBytes members
      = .ok (validatedRecord, memberCopy, recordBytes))
    (hReference : validatedRecord.reference = .ok reference)
    (hBundle : manifestBytes.length + (memberCopy.map (fun member => member.2.length)).sum
      ≤ w.session.limits.operationBundleBytes)
    (hRecord : recordBytes.length ≤ w.session.limits.recordBytes)
    (hCorrupt : reference ∈ w.session.corruptReferences) :
    (publishOperation record manifestBytes members).run w
      = .error (failure .recordCorrupt) w := by
  unfold publishOperation
  rw [run_requireOpen_bind_of_open hOpen, run_get_bind, run_lift_bind_of_ok hArguments]
  simp only
  rw [run_raiseIf_bind_of_neg (not_lt.2 hBundle), run_raiseIf_bind_of_neg (not_lt.2 hRecord),
    run_lift_bind_of_ok hReference, run_raiseIf_bind_of_pos hCorrupt]

/-- `encode_cursor` refuses a corrupt reference. -/
theorem run_encodeCursor_of_corrupt {reference : Text} {kind : RecordKind} {loc : Location}
    (hOpen : w.session.closed = false) (hDestination : destinationOf reference kind = .ok loc)
    (hCorrupt : reference ∈ w.session.corruptReferences) (view : Text) (selector : Option Text)
    (nextIndex : ℤ) :
    (encodeCursor reference view selector nextIndex).run w = .error (failure .recordCorrupt) w := by
  obtain ⟨parts, hParts⟩ := referenceParts_of_destinationOf hDestination
  unfold encodeCursor
  rw [run_requireOpen_bind_of_open hOpen, run_lift_bind_of_ok hParts, run_get_bind,
    run_raiseIf_bind_of_pos hCorrupt]

/-- No cursor for a marked reference is accepted. -/
theorem run_decodeCursor_of_corrupt {token reference view : Text} {selector : Option Text} {n : ℤ}
    (h : (decodeCursor token reference view selector).run w = .ok n w') :
    reference ∉ w.session.corruptReferences := by
  unfold decodeCursor at h
  rw [run_requireOpen_bind_eq_ok, run_get_bind, run_lift_bind_eq_ok] at h
  obtain ⟨-, index, -, h⟩ := h
  rw [run_lift_bind_eq_ok] at h
  obtain ⟨parts, -, h⟩ := h
  rw [run_raiseIf_bind_eq_ok] at h
  exact fun hCorrupt => h.1 (.inr hCorrupt)

/-- Every call for a marked reference is refused. -/
theorem refused_of_corrupt {kind : RecordKind} {loc : Location} {reference : Text} {call : Call}
    (hOpen : w.session.closed = false) (hDestination : destinationOf reference kind = .ok loc)
    (hCorrupt : reference ∈ w.session.corruptReferences)
    (hFor : call.For w.recursion kind reference)
    (hWithin : call.WithinLimits w.session.limits) : call.Refused w := by
  -- Each call reaches the check for corruption, the publications after their limits.
  cases call with
  | publishDataset payload record =>
      obtain ⟨validatedRecord, payloadBytes, recordBytes, hArguments, hReference⟩ := hFor
      obtain ⟨hPayload, hRecord⟩ := hWithin _ _ _ hArguments
      exact refused_of_run rfl (run_publishDataset_of_corrupt hOpen hArguments hReference hPayload
        hRecord hCorrupt) (fun _ => rfl)
  | publishOperation record manifestBytes members =>
      obtain ⟨validatedRecord, memberCopy, recordBytes, hArguments, hReference⟩ := hFor
      obtain ⟨hBundle, hRecord⟩ := hWithin _ _ _
        ((follows_operationArguments w.recursion record manifestBytes members).ok hArguments)
      exact refused_of_run rfl (run_publishOperation_of_corrupt hOpen hArguments hReference hBundle
        hRecord hCorrupt) (fun _ => rfl)
  | loadDataset reference' =>
      obtain ⟨rfl, rfl⟩ := hFor
      have hRun : (loadDataset reference').run w = .error (failure .recordCorrupt) w :=
        run_bind_eq_error.2 (.inl (run_resolve_of_corrupt hOpen hDestination hCorrupt))
      exact refused_of_run rfl hRun (fun _ => rfl)
  | loadOperation reference' =>
      obtain ⟨rfl, rfl⟩ := hFor
      have hRun : (loadOperation reference').run w = .error (failure .recordCorrupt) w :=
        run_bind_eq_error.2 (.inl (run_resolve_of_corrupt hOpen hDestination hCorrupt))
      exact refused_of_run rfl hRun (fun _ => rfl)
  | encodeCursor reference' view selector nextIndex =>
      obtain rfl := hFor
      exact refused_of_run rfl (run_encodeCursor_of_corrupt hOpen hDestination hCorrupt view
        selector
        nextIndex) (fun _ => rfl)
  | decodeCursor token reference' view selector =>
      obtain rfl := hFor
      cases hRun : (decodeCursor token reference' view selector).run w with
      | ok n t => exact absurd hCorrupt (run_decodeCursor_of_corrupt hRun)
      | error e t => exact refused_of_run rfl hRun (fun hNot => absurd rfl (hNot _ _ _ _))

/-! ## Operations and their datasets -/

/-- An operation is loaded only with the dataset that it was made from. -/
theorem source_of_loadOperation {reference : Text} {stored : StoredOperation}
    (h : (loadOperation reference).run w = .ok stored w') {source : BindingSource}
    (hSource : stored.record.1.binding.1.source = some source) :
    source.1.ref ∈ w.session.references ∧ source.1.ref ∉ w.session.corruptReferences := by
  obtain ⟨destination, -, hLoad⟩ := run_loadOperation_eq_ok.1 h
  obtain ⟨-, t, t', dataset, hRead, hLoadSource, -⟩ := run_loadOperationDirectory_eq_ok.1 hLoad
  have hReads := (keeps_reads_look _ _).ok hRead
  rcases run_loadSource_eq_ok.1 hLoadSource with ⟨hNone, -⟩ | ⟨source', loaded, hSome, -,
    hDataset, -⟩
  · rw [hSource] at hNone
    cases hNone
  · rw [hSource] at hSome
    cases hSome
    obtain ⟨loc, hResolve, -⟩ := run_loadDataset_eq_ok.1 hDataset
    obtain ⟨-, -, hCorrupt, hMem, -⟩ := run_resolve_eq_ok.1 hResolve
    rw [hReads.session] at hCorrupt hMem
    exact ⟨hMem, hCorrupt⟩

/-! ## Corruption is sticky, and transitive -/

/-- Once the stored entry of a reference has failed to verify, every later call for it within the
limits is refused, whatever happens to the files; and an operation is returned only with its
dataset, which is registered and not corrupt. -/
theorem corruption_sticky_transitive :
    (∀ (w v : World) (kind : RecordKind) (loc : Location) (reference : Text) (call : Call),
      Reachable w → destinationOf reference kind = .ok loc → reference ∈ w.session.failures →
        Relation.ReflTransGen Step w v → call.For v.recursion kind reference →
        call.WithinLimits v.session.limits → call.Refused v) ∧
    (∀ (w w' : World) (reference : Text) (stored : StoredOperation),
      (loadOperation reference).run w = .ok stored w' →
        ∀ source, stored.record.1.binding.1.source = some source →
          source.1.ref ∈ w.session.references ∧ source.1.ref ∉ w.session.corruptReferences) := by
  refine ⟨?_, fun w w' reference stored h source hSource => source_of_loadOperation h hSource⟩
  intro w v kind loc reference call hReachable hDestination hFailed hSteps hFor hWithin
  have hRemembers := remembers_of_steps hSteps
  have hOpen : v.session.closed = false := hRemembers.closed.trans hReachable.sound.isOpen
  exact refused_of_corrupt hOpen hDestination
    (hRemembers.corrupt (hReachable.failuresMarked hFailed)) hFor hWithin

/-- Limits with room for the payload of `1` and not for that of `1.0`. -/
def tightLimits : CasLimits :=
  ⟨2000, 119, 2000, 10000, sampleLimits.recordBytes_mem, by decide,
    sampleLimits.operationBundleBytes_mem, sampleLimits.sessionBytes_mem⟩

/-- A new session in whose directory somebody has put a file in the way of the sample dataset. -/
def obstructedWorld (limits : CasLimits) : World :=
  { World.opened [] limits [] with
    disk := (World.opened [] limits []).disk.set ⟨.datasets, sampleDigest⟩
      (some (.file .personal [])) }

/-- An entry that cannot be read fails to verify. -/
theorem run_loadDatasetDirectory_of_unreadable {loc : Location} {reference : Text} {e : Raised}
    (hCalm : w.Calm) (hStored : IsStored loc)
    (h : (readDataset w.session.limits reference).replay (answer (w.disk.entry loc)) = .error e) :
    ∃ t, (loadDatasetDirectory loc reference).run w = .error e t ∧
      reference ∈ t.session.failures := by
  obtain ⟨t, -, hRun⟩ := run_look hCalm loc (readDataset w.session.limits reference)
  rw [h] at hRun
  refine ⟨t.recordFailure reference, ?_, Finset.mem_insert_self _ _⟩
  unfold loadDatasetDirectory verifying
  rw [run_get_bind, run_rescue, hRun]
  show EStateM.Result.error e (if loc.area = .staging then t else t.recordFailure reference) = _
  rw [if_neg hStored.area_ne.1]

/-- Whatever a verification finds, its failure is on record when the entry has gone to quarantine. -/
theorem run_corruptOnError_of_error {α : Type} {loc : Location} {x : Host α} {e : Raised}
    {t : World} (hStored : IsStored loc) (hRun : x.run w = .error e t)
    (hFailed : entryReference loc ∈ t.session.failures) :
    ∃ e' w', (corruptOnError loc (entryReference loc) x).run w = .error e' w' ∧
      entryReference loc ∈ w'.session.failures := by
  have hQuarantine := (quarantine_spec (X := ∅) (F := ∅) hStored t).1
  unfold corruptOnError
  rw [run_rescue, hRun]
  show ∃ e' w', (quarantine loc (entryReference loc) >>= fun _ => throw _ : Host α).run t = _ ∧ _
  rw [run_bind]
  cases hEnd : (quarantine loc (entryReference loc)).run t with
  | ok u t' =>
      rw [hEnd] at hQuarantine
      exact ⟨_, t', rfl, hQuarantine.failures hFailed⟩
  | error e' t' =>
      rw [hEnd] at hQuarantine
      exact ⟨e', t', rfl, hQuarantine.failures hFailed⟩

/-- The obstructed session after a publication of the sample, which finds the file. -/
@[irreducible] def findObstruction (limits : CasLimits) : World :=
  final ((Call.publishDataset (samplePayload integerCell) sampleRecord).run.run
    (obstructedWorld limits))

/-- Running into the obstruction is a step of the session. -/
theorem step_findObstruction (limits : CasLimits) :
    Step (obstructedWorld limits) (findObstruction limits) := by
  unfold findObstruction
  exact Step.call _ _

/-- The session that ran into it is reachable. -/
theorem reachable_findObstruction (limits : CasLimits) : Reachable (findObstruction limits) :=
  ⟨obstructedWorld limits, [], limits, [], rfl,
    Relation.ReflTransGen.single (step_findObstruction limits)⟩

/-- It has met a failure of the sample reference. -/
theorem failures_findObstruction {limits : CasLimits} (hPayload : 118 ≤ limits.datasetPayloadBytes)
    (hRecord : 797 ≤ limits.recordBytes) :
    sampleReference ∈ (findObstruction limits).session.failures := by
  obtain ⟨record, payloadBytes, recordBytes, hArguments, hReference, hPayload', hRecord'⟩ :=
    argumentFacts_eq_some argumentFacts_integerCell
  -- A file stands where the directory of the dataset should be, so that it cannot be verified.
  obtain ⟨-, hStored, hEntry⟩ := destinationOf_spec destinationOf_sampleReference
  have hCalm : (obstructedWorld limits).stir.Calm := ⟨fun _ _ => rfl, fun _ => rfl⟩
  obtain ⟨t, hLoad, hFailed⟩ := @run_loadDatasetDirectory_of_unreadable _ _ sampleReference
    (.value ⟨"session directory is not owner-private"⟩) hCalm hStored rfl
  rw [← hEntry] at hLoad hFailed
  obtain ⟨e, w', hVerify, hFailed⟩ := run_corruptOnError_of_error hStored hLoad hFailed
  rw [hEntry] at hVerify hFailed
  have hPayloadLimit : ¬ (obstructedWorld limits).session.limits.datasetPayloadBytes
      < payloadBytes.length := by
    rw [hPayload', not_lt]
    exact hPayload
  have hRecordLimit : ¬ (obstructedWorld limits).session.limits.recordBytes
      < recordBytes.length := by
    rw [hRecord', not_lt]
    exact hRecord
  have hFound : (pathExists ⟨.datasets, sampleDigest⟩).run (obstructedWorld limits)
      = .ok true (obstructedWorld limits).stir := rfl
  have hUnmarked : sampleReference ∉ (obstructedWorld limits).session.corruptReferences :=
    Finset.notMem_empty _
  -- The publication gets as far as the verification.
  have hRun : (publishDataset (samplePayload integerCell) sampleRecord).run (obstructedWorld limits)
      = .error e w' := by
    unfold publishDataset
    rw [run_requireOpen_bind_of_open rfl, run_lift_bind_of_ok hArguments]
    simp only [run_get_bind]
    rw [run_raiseIf_bind_of_neg hPayloadLimit, run_raiseIf_bind_of_neg hRecordLimit,
      run_lift_bind_of_ok hReference, run_raiseIf_bind_of_neg hUnmarked,
      run_lift_bind_of_ok destinationOf_sampleReference]
    refine run_bind_eq_error.2 (.inr ⟨true, _, hFound, ?_⟩)
    exact run_bind_eq_error.2 (.inl hVerify)
  have hCall : (Call.publishDataset (samplePayload integerCell) sampleRecord).run.run
      (obstructedWorld limits) = .error e w' := run_bind_eq_error.2 (.inl hRun)
  unfold findObstruction
  rw [hCall]
  exact hFailed

/-- Loading the sample after a publication has found the file. -/
theorem corruption_sticky_transitive_obstructed :
    (Call.loadDataset sampleReference).Refused (findObstruction sampleLimits) :=
  corruption_sticky_transitive.1 _ _ .dataset _ sampleReference (.loadDataset sampleReference)
    (reachable_findObstruction _) destinationOf_sampleReference
    (failures_findObstruction (by decide) (by decide)) .refl ⟨rfl, rfl⟩ trivial

/-- A payload over its limit is refused for its size. -/
theorem not_refused_of_over {payload record : Value} {validated : DatasetRecord}
    {payloadBytes recordBytes : Bytes} {v : World}
    (hArguments : validateDatasetArguments payload record = .ok (validated, payloadBytes,
      recordBytes))
    (hOpen : v.session.closed = false)
    (hOver : v.session.limits.datasetPayloadBytes < payloadBytes.length) :
    ¬ (Call.publishDataset payload record).Refused v := by
  rintro ⟨e, w', hRun, he⟩
  have hRefused : (Call.publishDataset payload record).run.run v
      = .error (limitFailure .inputLimitExceeded "normalized_dataset_payload_bytes"
          v.session.limits.datasetPayloadBytes payloadBytes.length) v := by
    refine run_bind_eq_error.2 (.inl ?_)
    unfold publishDataset
    rw [run_requireOpen_bind_of_open hOpen, run_lift_bind_of_ok hArguments]
    simp only [run_get_bind]
    rw [run_raiseIf_bind_of_pos hOver]
  rw [hRefused] at hRun
  cases hRun
  cases he (fun _ _ _ _ => Call.noConfusion)

/-- A publication over a limit is refused for its size, also when its reference is corrupt. -/
theorem corruption_not_before_limits :
    ¬ ∀ (w v : World) (kind : RecordKind) (loc : Location) (reference : Text) (call : Call),
      Reachable w → destinationOf reference kind = .ok loc → reference ∈ w.session.failures →
        Relation.ReflTransGen Step w v → call.For v.recursion kind reference → call.Refused v := by
  intro hClaim
  obtain ⟨record, payloadBytes, recordBytes, hArguments, hReference, hPayload, -⟩ :=
    argumentFacts_eq_some argumentFacts_floatCell
  have hReachable := reachable_findObstruction tightLimits
  have hQuiet : (obstructedWorld tightLimits).Quiet := fun _ _ => rfl
  have hLimits : (findObstruction tightLimits).session.limits = tightLimits :=
    ((step_findObstruction tightLimits).carries hQuiet).1.limits
  have hRefused := hClaim _ _ .dataset _ sampleReference
    (.publishDataset (samplePayload floatCell) sampleRecord) hReachable
      destinationOf_sampleReference
    (failures_findObstruction (by decide) (by decide)) .refl ⟨_, _, _, hArguments, hReference⟩
  have hOver : (findObstruction tightLimits).session.limits.datasetPayloadBytes
      < payloadBytes.length := by
    rw [hLimits, hPayload]
    decide
  exact not_refused_of_over hArguments hReachable.sound.isOpen hOver hRefused

end SessionCas
