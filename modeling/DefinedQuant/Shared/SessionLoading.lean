import DefinedQuant.Shared.SessionSteps

/-!
# Loading from a session

A load that returns has only looked. One that raises has marked every reference whose stored entry
it found wanting. `Intact` is what a load needs: the entry of a reference reads as it should, and
the dataset that an operation was made from is one that the session holds.
-/

namespace SessionCas

open Json DataRecords HostFailures LocalHost OperationRecords FileTree Effect

variable {X : Set Location} {F : Set Text} {w w' : World}

/-! ## Resolving -/

/-- Behind the check that the session is open. -/
theorem run_requireOpen_bind_eq_ok {β : Type} {f : Unit → Host β} {b : β} :
    (requireOpen >>= f).run w = .ok b w' ↔
      w.session.closed = false ∧ (f ()).run w = .ok b w' := by
  show (raiseIf (w.session.closed = true) (failure .referenceNotFound) >>= f).run w = _ ↔ _
  rw [run_raiseIf_bind_eq_ok, Bool.not_eq_true]

/-- The check that an open session is open. -/
theorem run_requireOpen_bind_of_open {β : Type} {f : Unit → Host β}
    (hOpen : w.session.closed = false) : (requireOpen >>= f).run w = (f ()).run w := by
  show (raiseIf (w.session.closed = true) (failure .referenceNotFound) >>= f).run w = _
  refine run_raiseIf_bind_of_neg ?_
  rw [hOpen]
  exact Bool.false_ne_true

/-- Asking whether the session is open only reads. -/
theorem keeps_reads_requireOpen : Keeps Reads requireOpen :=
  keeps_bind keeps_get (fun _ => keeps_raiseIf _ _)

/-- Resolving a reference only reads. -/
theorem keeps_reads_resolve (reference : Text) (kind : RecordKind) :
    Keeps Reads (resolve reference kind) := by
  refine keeps_bind keeps_reads_requireOpen (fun _ => ?_)
  refine keeps_bind (keeps_lift _ _) (fun destination => ?_)
  refine keeps_bind keeps_get (fun v => ?_)
  refine keeps_bind (keeps_raiseIf _ _) (fun _ => ?_)
  refine keeps_ite (fun _ => keeps_pure _) (fun _ => ?_)
  exact keeps_ite (fun _ => keeps_throw _) (fun _ => keeps_throw _)

/-- A reference resolves when the session is open and holds it, and it is not corrupt. -/
theorem run_resolve_eq_ok {reference : Text} {kind : RecordKind} {loc : Location} :
    (resolve reference kind).run w = .ok loc w' ↔
      w.session.closed = false ∧ destinationOf reference kind = .ok loc ∧
        reference ∉ w.session.corruptReferences ∧ reference ∈ w.session.references ∧ w' = w := by
  unfold resolve
  rw [run_requireOpen_bind_eq_ok, run_lift_bind_eq_ok]
  simp only [run_get_bind, run_raiseIf_bind_eq_ok]
  constructor
  · rintro ⟨hOpen, destination, hDestination, hCorrupt, hRun⟩
    by_cases hMem : reference ∈ w.session.references
    · rw [if_pos hMem] at hRun
      cases hRun
      exact ⟨hOpen, hDestination, hCorrupt, hMem, rfl⟩
    · rw [if_neg hMem] at hRun
      split at hRun <;> cases hRun
  · rintro ⟨hOpen, hDestination, hCorrupt, hMem, rfl⟩
    refine ⟨hOpen, loc, hDestination, hCorrupt, ?_⟩
    rw [if_pos hMem]
    rfl

/-! ## Loading datasets -/

/-- An error of verification was one of the computation first. -/
theorem run_verifying_eq_error {α : Type} {loc : Location} {reference : Text} {x : Host α}
    {e : Raised} (h : (verifying loc reference x).run w = .error e w') :
    ∃ t, x.run w = .error e t := by
  obtain ⟨e', t, hRun, hRest⟩ := run_rescue_eq_error.1 h
  rcases run_bind_eq_error.1 hRest with hRest | ⟨_, _, _, hRest⟩
  · cases hRest
  · cases hRest
    exact ⟨t, hRun⟩

/-- Reading a file never raises a host error. -/
theorem not_isHost_of_readContent {content : Bytes} {maximumBytes : ℕ} {e : Raised}
    (h : readContent content maximumBytes = .error e) : ¬ e.IsHost := by
  unfold readContent at h
  split at h <;> cases h
  exact id

/-- No answer of the file system is a host error. -/
theorem not_isHost_of_answer {entry : Option Node} {γ : Type} (q : Query γ) {e : Raised}
    (h : answer entry q = .error e) : ¬ e.IsHost := by
  -- Whatever is asked of the file system, its errors are its own.
  cases q with
  | verifyPrivateDirectory path =>
      simp only [answer] at h
      split at h
      · split at h <;> cases h
        exact id
      · cases h
        exact id
  | iterdir path =>
      simp only [answer] at h
      split at h <;> cases h
      exact id
  | walk path =>
      simp only [answer] at h
      split at h <;> cases h
  | readPrivateFile path maximumBytes =>
      simp only [answer] at h
      split at h
      · split at h
        · exact not_isHost_of_readContent h
        · cases h
          exact id
      all_goals
        cases h
        exact id
  | readRegularFile path maximumBytes =>
      simp only [answer] at h
      split at h
      · exact not_isHost_of_readContent h
      all_goals
        cases h
        exact id
  | privateTreeSize =>
      simp only [answer] at h
      split at h
      · split at h <;> cases h <;> exact id
      · cases h

/-- The filesystem raises no host failure. -/
theorem not_isHost_of_ask {loc : Location} {γ : Type} (q : Query γ) {e : Raised}
    (h : (ask loc q).run w = .error e w') : ¬ e.IsHost := by
  have hFailed : ∀ fault : Fault, failed fault q = some e → ¬ e.IsHost := by
    intro fault hFault
    cases q <;> cases hFault <;> exact id
  change ask loc q w = _ at h
  unfold ask at h
  split at h
  · next hFault =>
      cases h
      obtain ⟨fault, -, hFault⟩ := Option.bind_eq_some_iff.1 hFault
      exact hFailed fault hFault
  · split at h
    · cases h
    · next hError =>
        cases h
        exact not_isHost_of_answer q hError

/-- Checking a directory raises no host error. -/
theorem raises_validateOwnedDirectory (path : List Text) :
    (validateOwnedDirectory path).Raises (fun e => ¬ e.IsHost) (fun e => ¬ e.IsHost) := by
  refine Probe.raises_mapError (Probe.raises_query _) (fun e he => ?_)
  split
  · exact id
  · exact he

/-- A private read raises no host error. -/
theorem raises_readPrivate (path : List Text) (maximumBytes : ℕ) :
    (readPrivate path maximumBytes).Raises (fun e => ¬ e.IsHost) (fun e => ¬ e.IsHost) := by
  refine Probe.raises_mapError (Probe.raises_query _) (fun e he => ?_)
  split
  · exact id
  · exact he

/-- Reading a dataset entry raises no host failure. -/
theorem raises_readDataset (limits : CasLimits) (reference : Text) :
    (readDataset limits reference).Raises (fun e => ¬ e.IsHost) (fun e => ¬ e.IsHost) := by
  refine Probe.raises_bind (raises_validateOwnedDirectory _) (fun _ => ?_)
  refine Probe.raises_bind (Probe.raises_query _) (fun entries => ?_)
  split
  · exact id
  · refine Probe.raises_bind (raises_readPrivate _ _) (fun recordBytes => ?_)
    refine Probe.raises_bind (raises_readPrivate _ _) (fun payloadBytes => ?_)
    exact Probe.raises_lift (fun _ => id) _

/-- Loading a dataset can mark its reference as corrupt, and nothing else. -/
theorem keeps_settles_loadDatasetDirectory (loc : Location) (reference : Text) :
    Keeps (Settles X (insert reference F)) (loadDatasetDirectory loc reference) :=
  keeps_bind keeps_get (fun _ =>
    keeps_settles_verifying ((keeps_reads_look _ _).mono (fun _ _ h => h.settles)))

/-- In staging it marks nothing, as no reference names the stage. -/
theorem keeps_settles_loadDatasetDirectory_staged {loc : Location} (hLoc : loc.area = .staging)
    (reference : Text) : Keeps (Settles X F) (loadDatasetDirectory loc reference) :=
  keeps_bind keeps_get (fun _ =>
    keeps_settles_verifying_staged hLoc ((keeps_reads_look _ _).mono (fun _ _ h => h.settles)))

/-- Where it returns, it has only looked. -/
theorem run_loadDatasetDirectory_eq_ok {loc : Location} {reference : Text}
    {stored : StoredDataset} :
    (loadDatasetDirectory loc reference).run w = .ok stored w' ↔
      (look loc (readDataset w.session.limits reference)).run w = .ok stored w' := by
  unfold loadDatasetDirectory
  rw [run_get_bind, run_verifying_eq_ok]

/-- It raises no host error. -/
theorem not_isHost_of_loadDatasetDirectory {loc : Location} {reference : Text} {e : Raised}
    (h : (loadDatasetDirectory loc reference).run w = .error e w') : ¬ e.IsHost := by
  obtain ⟨t, hRun⟩ := run_verifying_eq_error (w := w) h
  exact (raises_readDataset _ _).of_perform (fun q => not_isHost_of_ask q) hRun

/-- Whatever the files do, a dataset that is read is what two contents were verified as. -/
theorem returns_readDataset (limits : CasLimits) (reference : Text) :
    (readDataset limits reference).Returns (fun stored => ∃ recordBytes payloadBytes,
      verifyDataset limits reference recordBytes payloadBytes = .ok stored) := by
  refine Probe.returns_bind_of_forall (fun _ => ?_)
  refine Probe.returns_bind_of_forall (fun entries => ?_)
  split
  · trivial
  · refine Probe.returns_bind_of_forall (fun recordBytes => ?_)
    refine Probe.returns_bind_of_forall (fun payloadBytes => ?_)
    exact Probe.returns_lift (fun stored h => ⟨recordBytes, payloadBytes, h⟩)

/-- A verified dataset is the record and the payload that its two files hold. -/
theorem verifyDataset_eq_ok {limits : CasLimits} {reference : Text}
    {recordBytes payloadBytes : Bytes} {stored : StoredDataset} :
    verifyDataset limits reference recordBytes payloadBytes = .ok stored ↔
      stored.reference = reference ∧
        readDocument DatasetRecord.codec recordBytes limits.recordBytes = .ok stored.record ∧
        readDocument DatasetPayload.codec payloadBytes limits.datasetPayloadBytes =
          .ok stored.payload ∧
        casJsonBytes (DatasetRecord.codec.encode stored.record) = .ok recordBytes ∧
        casJsonBytes (DatasetPayload.codec.encode stored.payload) = .ok payloadBytes ∧
        stored.record.reference = .ok reference ∧
        stored.record.validatePayload stored.payload = .ok () := by
  unfold verifyDataset
  simp only [Except.bind_eq_ok, Except.raiseIf_eq_ok, Except.pure_eq_ok, not_or, not_not]
  constructor
  · rintro ⟨record, hRecord, payload, hPayload, _, hRecordBytes, _, hPayloadBytes, _, ⟨rfl, rfl⟩, _,
      hReference, _, rfl, _, hValid, rfl⟩
    exact ⟨rfl, hRecord, hPayload, hRecordBytes, hPayloadBytes, hReference, hValid⟩
  · rintro ⟨rfl, hRecord, hPayload, hRecordBytes, hPayloadBytes, hReference, hValid⟩
    exact ⟨_, hRecord, _, hPayload, _, hRecordBytes, _, hPayloadBytes, (), ⟨rfl, rfl⟩, _,
      hReference, (), rfl, (), hValid, rfl⟩

/-- Once its reference has resolved, a dataset is loaded or its entry goes to quarantine. -/
theorem run_loadDataset {reference : Text} {destination : Location}
    (h : (resolve reference .dataset).run w = .ok destination w) :
    (loadDataset reference).run w
      = (corruptOnError destination reference (loadDatasetDirectory destination reference)).run
        w := by
  unfold loadDataset corruptOnError
  rw [run_bind, h]
  show (rescue _ _).run w = _
  rw [run_rescue, run_rescue]
  cases hRun : (loadDatasetDirectory destination reference).run w with
  | ok stored t => rfl
  | error e t =>
      have hHost := not_isHost_of_loadDatasetDirectory hRun
      cases e with
      | host code details => exact absurd trivial hHost
      | _ => rfl

/-- `load_dataset` resolves the reference and looks at its entry. -/
theorem run_loadDataset_eq_ok {reference : Text} {stored : StoredDataset} :
    (loadDataset reference).run w = .ok stored w' ↔
      ∃ destination, (resolve reference .dataset).run w = .ok destination w ∧
        (look destination (readDataset w.session.limits reference)).run w = .ok stored w' := by
  constructor
  · intro h
    obtain ⟨destination, t, hResolve, -⟩ := run_bind_eq_ok.1 h
    obtain ⟨-, -, -, -, rfl⟩ := run_resolve_eq_ok.1 hResolve
    rw [run_loadDataset hResolve, run_corruptOnError_eq_ok, run_loadDatasetDirectory_eq_ok] at h
    exact ⟨destination, hResolve, h⟩
  · rintro ⟨destination, hResolve, h⟩
    rw [run_loadDataset hResolve, run_corruptOnError_eq_ok, run_loadDatasetDirectory_eq_ok]
    exact h

/-- Where it returns, it has only read. -/
theorem reads_of_loadDataset {reference : Text} {stored : StoredDataset}
    (h : (loadDataset reference).run w = .ok stored w') : Reads w w' := by
  obtain ⟨destination, -, hLook⟩ := run_loadDataset_eq_ok.1 h
  exact (keeps_reads_look _ _).ok hLook

/-- Otherwise it marks at most a reference that it has found corrupt. -/
theorem keeps_settles_loadDataset (reference : Text) :
    Keeps (Settles X F) (loadDataset reference) := by
  intro v
  cases hResolve : (resolve reference .dataset).run v with
  | error e t =>
      have hRun : (loadDataset reference).run v = .error e t := by
        unfold loadDataset
        rw [run_bind, hResolve]
      rw [hRun]
      exact ((keeps_reads_resolve _ _).error hResolve).settles
  | ok destination t =>
      obtain ⟨-, hDestination, -, -, rfl⟩ := run_resolve_eq_ok.1 hResolve
      obtain ⟨-, hStored, hReference⟩ := destinationOf_spec hDestination
      rw [run_loadDataset hResolve]
      subst hReference
      refine keeps_settles_corruptOnError hStored (keeps_settles_loadDatasetDirectory _ _) ?_ t
      intro s s' a hRun
      rw [run_loadDatasetDirectory_eq_ok] at hRun
      exact ((keeps_reads_look _ _).ok hRun).settles

/-! ## Loading operations -/

/-- The source of an operation is loaded as a dataset. -/
theorem keeps_settles_loadSource (binding : OperationBinding) :
    Keeps (Settles X F) (loadSource binding) := by
  unfold loadSource
  split
  · exact keeps_pure _
  · refine keeps_ite (fun _ => keeps_throw _) (fun _ => ?_)
    exact keeps_bind (keeps_settles_loadDataset _) (fun _ => keeps_pure _)

/-- What a binding's source is loaded as. -/
theorem run_loadSource_eq_ok {binding : OperationBinding} {dataset : Option SourceDataset} :
    (loadSource binding).run w = .ok dataset w' ↔
      (binding.1.source = none ∧ dataset = none ∧ w' = w) ∨
        ∃ source stored, binding.1.source = some source ∧ source.1.kind ≠ .operation ∧
          (loadDataset source.1.ref).run w = .ok stored w' ∧
          dataset = some (stored.record, stored.payload) := by
  unfold loadSource
  -- An operation without a source loads nothing; one whose source is an operation is refused.
  split
  · next hSource =>
      rw [hSource]
      constructor
      · intro h
        cases h
        exact .inl ⟨rfl, rfl, rfl⟩
      · rintro (⟨-, rfl, rfl⟩ | ⟨source, stored, h, -⟩)
        · rfl
        · cases h
  · next source hSource =>
      rw [hSource]
      by_cases hKind : source.1.kind = .operation
      · rw [if_pos hKind]
        constructor
        · intro h
          cases h
        · rintro (⟨h, -⟩ | ⟨source', stored, h, hKind', -⟩)
          · cases h
          · cases h
            exact absurd hKind hKind'
      · rw [if_neg hKind, run_bind_eq_ok]
        constructor
        · rintro ⟨stored, t, hLoad, hRun⟩
          cases hRun
          exact .inr ⟨source, stored, rfl, hKind, hLoad, rfl⟩
        · rintro (⟨h, -⟩ | ⟨source', stored, h, -, hLoad, rfl⟩)
          · cases h
          · cases h
            exact ⟨stored, w', hLoad, rfl⟩

/-- Where it returns, it has only read. -/
theorem reads_of_loadSource {binding : OperationBinding} {dataset : Option SourceDataset}
    (h : (loadSource binding).run w = .ok dataset w') : Reads w w' := by
  rcases run_loadSource_eq_ok.1 h with ⟨-, -, rfl⟩ | ⟨source, stored, -, -, hLoad, -⟩
  · exact Std.Refl.refl _
  · exact reads_of_loadDataset hLoad

/-- Reading the bundle and reconciling it changes no entry. -/
theorem keeps_settles_loadOperationEntry (loc : Location) (limits : CasLimits) (reference : Text) :
    Keeps (Settles X F) (do
      let (record, manifestBytes, members) ← look loc (readOperation limits reference)
      let manifest ← reconcileOperation record loc
      return (⟨reference, record, manifest, manifestBytes, members⟩ : StoredOperation)) := by
  have hLook : ∀ {α : Type} (program : Look α), Keeps (Settles X F) (look loc program) :=
    fun program => (keeps_reads_look _ _).mono (fun _ _ h => h.settles)
  refine keeps_bind (hLook _) (fun read => ?_)
  refine keeps_bind (keeps_bind (keeps_settles_loadSource _) (fun _ => hLook _)) (fun _ => ?_)
  exact keeps_pure _

/-- Loading an operation can mark its reference as corrupt, and nothing else. -/
theorem keeps_settles_loadOperationDirectory (loc : Location) (reference : Text) :
    Keeps (Settles X (insert reference F)) (loadOperationDirectory loc reference) :=
  keeps_bind keeps_get (fun _ =>
    keeps_settles_verifying (keeps_settles_loadOperationEntry _ _ _))

/-- In staging it marks nothing. -/
theorem keeps_settles_loadOperationDirectory_staged {loc : Location} (hLoc : loc.area = .staging)
    (reference : Text) : Keeps (Settles X F) (loadOperationDirectory loc reference) :=
  keeps_bind keeps_get (fun _ =>
    keeps_settles_verifying_staged hLoc (keeps_settles_loadOperationEntry _ _ _))

/-- The three stages of a load: the first reading, the source, the second reading. -/
theorem run_loadOperationDirectory_eq_ok {loc : Location} {reference : Text}
    {stored : StoredOperation} :
    (loadOperationDirectory loc reference).run w = .ok stored w' ↔
      stored.reference = reference ∧ ∃ t t' dataset,
        (look loc (readOperation w.session.limits reference)).run w
          = .ok (stored.record, stored.manifestBytes, stored.members) t ∧
        (loadSource stored.record.1.binding).run t = .ok dataset t' ∧
        (look loc (reconcileOperationRecord stored.record [bundleName] dataset)).run t'
          = .ok stored.manifest w' := by
  unfold loadOperationDirectory reconcileOperation
  rw [run_get_bind, run_verifying_eq_ok]
  simp only [run_bind_eq_ok]
  constructor
  · rintro ⟨⟨record, manifestBytes, members⟩, t, hRead, manifest, s, ⟨dataset, t', hSource, hLook⟩,
      hRun⟩
    cases hRun
    exact ⟨rfl, t, t', dataset, hRead, hSource, hLook⟩
  · rintro ⟨rfl, t, t', dataset, hRead, hSource, hLook⟩
    exact ⟨_, t, hRead, _, w', ⟨dataset, t', hSource, hLook⟩, rfl⟩

/-- Where it returns, it has only read. -/
theorem reads_of_loadOperationDirectory {loc : Location} {reference : Text}
    {stored : StoredOperation}
    (h : (loadOperationDirectory loc reference).run w = .ok stored w') : Reads w w' := by
  obtain ⟨-, t, t', dataset, hRead, hSource, hLook⟩ := run_loadOperationDirectory_eq_ok.1 h
  have hFirst := IsTrans.trans (r := Reads) _ _ _ ((keeps_reads_look _ _).ok hRead)
    (reads_of_loadSource hSource)
  exact IsTrans.trans _ _ _ hFirst ((keeps_reads_look _ _).ok hLook)

/-- A corrupt operation is quarantined before its error goes on. -/
theorem operationCorrupt_eq {α : Type} (destination : Location) (reference : Text) (e : Raised) :
    ∃ e', (operationCorrupt destination reference e : Host α)
      = quarantine destination reference >>= fun _ => throw e' := by
  by_cases hCorrupt : ∃ details, e = .host .recordCorrupt details
  · obtain ⟨details, rfl⟩ := hCorrupt
    exact ⟨_, rfl⟩
  · refine ⟨failure .recordCorrupt, ?_⟩
    unfold operationCorrupt
    congr 1
    funext _
    split
    · exact absurd ⟨_, rfl⟩ hCorrupt
    · rfl

/-- `load_operation` resolves the reference and reads its directory. -/
theorem run_loadOperation_eq_ok {reference : Text} {stored : StoredOperation} :
    (loadOperation reference).run w = .ok stored w' ↔
      ∃ destination, (resolve reference .operation).run w = .ok destination w ∧
        (loadOperationDirectory destination reference).run w = .ok stored w' := by
  unfold loadOperation
  rw [run_bind_eq_ok]
  constructor
  · rintro ⟨destination, t, hResolve, hRun⟩
    obtain ⟨-, -, -, -, rfl⟩ := run_resolve_eq_ok.1 hResolve
    rw [run_rescue_quarantine_eq_ok (operationCorrupt_eq destination reference)] at hRun
    exact ⟨destination, hResolve, hRun⟩
  · rintro ⟨destination, hResolve, hRun⟩
    refine ⟨destination, w, hResolve, ?_⟩
    rw [run_rescue_quarantine_eq_ok (operationCorrupt_eq destination reference)]
    exact hRun

/-- It marks at most references that it has found corrupt. -/
theorem keeps_settles_loadOperation (reference : Text) :
    Keeps (Settles X F) (loadOperation reference) := by
  intro v
  unfold loadOperation
  rw [run_bind]
  cases hResolve : (resolve reference .operation).run v with
  | error e t => exact ((keeps_reads_resolve _ _).error hResolve).settles
  | ok destination t =>
      obtain ⟨-, hDestination, -, -, rfl⟩ := run_resolve_eq_ok.1 hResolve
      obtain ⟨-, hStored, hReference⟩ := destinationOf_spec hDestination
      subst hReference
      refine keeps_settles_rescue hStored (operationCorrupt_eq _ _)
        (keeps_settles_loadOperationDirectory _ _) ?_ t
      exact fun hRun => (reads_of_loadOperationDirectory hRun).settles

/-! ## Cursors -/

/-- Minting a cursor only reads. -/
theorem keeps_reads_encodeCursor (reference view : Text) (selector : Option Text) (nextIndex : ℤ) :
    Keeps Reads (encodeCursor reference view selector nextIndex) := by
  refine keeps_bind keeps_reads_requireOpen (fun _ => ?_)
  refine keeps_bind (keeps_lift _ _) (fun _ => ?_)
  refine keeps_bind keeps_get (fun v => ?_)
  refine keeps_bind (keeps_raiseIf _ _) (fun _ => ?_)
  exact keeps_bind (keeps_raiseIf _ _) (fun _ => keeps_lift _ _)

/-- Decoding one only reads. -/
theorem keeps_reads_decodeCursor (token reference view : Text) (selector : Option Text) :
    Keeps Reads (decodeCursor token reference view selector) := by
  refine keeps_bind keeps_reads_requireOpen (fun _ => ?_)
  refine keeps_bind keeps_get (fun v => ?_)
  refine keeps_bind (keeps_lift _ _) (fun index => ?_)
  refine keeps_bind (keeps_lift _ _) (fun _ => ?_)
  exact keeps_bind (keeps_raiseIf _ _) (fun _ => keeps_pure _)

/-! ## Intact entries -/

/-- `private_tree_size` of an entry gives this size. -/
def Takes (entry : Option Node) (size : ℕ) : Prop := answer entry .privateTreeSize = .ok size

/-- The size of an entry can be taken: nothing in it is foreign, a link, or no file. -/
def Measured (entry : Option Node) : Prop := ∃ size, Takes entry size

/-- The stored entry of a dataset reads as `stored`. -/
structure DatasetOnDisk (w : World) (reference : Text) (loc : Location) (stored : StoredDataset) :
    Prop where
  destination : destinationOf reference .dataset = .ok loc
  verified : (readDataset w.session.limits reference).replay (answer (w.disk.entry loc)) =
    .ok stored

/-- The dataset that reconciliation is given: what the session holds under the reference of the
binding's source, unless that has become corrupt. -/
def SourceOf (w : World) (binding : OperationBinding) (dataset : Option SourceDataset) : Prop :=
  match binding.1.source with
  | none => dataset = none
  | some source =>
      source.1.kind ≠ .operation ∧ source.1.ref ∈ w.session.references ∧
        (source.1.ref ∉ w.session.corruptReferences → ∃ loc stored,
          DatasetOnDisk w source.1.ref loc stored ∧ dataset = some (stored.record, stored.payload))

/-- Both readings of an operation entry agree with its record. -/
structure OperationReads (limits : CasLimits) (reference : Text) (entry : Option Node)
    (dataset : Option SourceDataset) (stored : StoredOperation) : Prop where
  reference_eq : stored.reference = reference
  read : (readOperation limits reference).replay (answer entry)
    = .ok (stored.record, stored.manifestBytes, stored.members)
  reconciled : (reconcileOperationRecord stored.record [bundleName] dataset).replay (answer entry)
    = .ok stored.manifest

/-- The stored entry of an operation reads as `stored`. -/
structure OperationOnDisk (w : World) (reference : Text) (loc : Location)
    (stored : StoredOperation) :
    Prop where
  destination : destinationOf reference .operation = .ok loc
  verified : ∃ dataset, SourceOf w stored.record.1.binding dataset ∧
    OperationReads w.session.limits reference (w.disk.entry loc) dataset stored

/-- The complete entry of a reference is on disk, it verifies, and its size can be taken. -/
def Intact (w : World) (reference : Text) : Prop :=
  (∃ loc stored, DatasetOnDisk w reference loc stored ∧ Measured (w.disk.entry loc)) ∨
    ∃ loc stored, OperationOnDisk w reference loc stored ∧ Measured (w.disk.entry loc)

/-- A run after which every stored entry is where it was, or has a marked reference. -/
structure Carries (w w' : World) : Prop where
  limits : w'.session.limits = w.session.limits
  references : w.session.references ⊆ w'.session.references
  corrupt : w.session.corruptReferences ⊆ w'.session.corruptReferences
  entries : ∀ loc, IsStored loc → w.disk.entry loc ≠ none →
    w'.disk.entry loc = w.disk.entry loc ∨ entryReference loc ∈ w'.session.corruptReferences

/-- In a quiet world, what settles nothing carries every entry. -/
theorem Settles.carries (h : Settles ∅ F w w') (hQuiet : w.Quiet) : Carries w w' := by
  refine ⟨h.limits, by rw [h.references], h.corrupt, fun loc hStored _ => ?_⟩
  rcases h.entries hQuiet loc hStored (Set.notMem_empty _) with hEq | ⟨-, hMark, -⟩
  · exact .inl hEq
  · exact .inr hMark

/-- A directory that passes the check is there, and private. -/
theorem replay_validateOwnedDirectory {entry : Option Node} {path : List Text} {u : Unit}
    (h : (validateOwnedDirectory path).replay (answer entry) = .ok u) :
    ∃ info entries, lookup entry path = some (.directory info entries) ∧ info.isPrivate = true := by
  unfold validateOwnedDirectory at h
  rw [Probe.replay_mapError, Except.mapError_eq_ok, Probe.replay_query] at h
  simp only [answer] at h
  split at h
  · next info entries hLookup =>
      split at h
      · next hPrivate => exact ⟨info, entries, hLookup, hPrivate⟩
      · cases h
  · cases h

/-- For the entry itself: it is a directory. -/
theorem eq_directory_of_replay {entry : Option Node} {u : Unit}
    (h : (validateOwnedDirectory []).replay (answer entry) = .ok u) :
    ∃ info entries, entry = some (.directory info entries) := by
  obtain ⟨info, entries, hLookup, -⟩ := replay_validateOwnedDirectory h
  cases entry with
  | none => cases hLookup
  | some node => exact ⟨info, entries, hLookup⟩

/-- A dataset is read from a directory, and is what its two files were verified as. -/
theorem replay_readDataset {limits : CasLimits} {reference : Text} {entry : Option Node}
    {stored : StoredDataset} (h : (readDataset limits reference).replay (answer entry) =
      .ok stored) :
    (∃ info entries, entry = some (.directory info entries)) ∧ ∃ recordBytes payloadBytes,
      verifyDataset limits reference recordBytes payloadBytes = .ok stored := by
  unfold readDataset at h
  rw [Probe.replay_bind, Except.bind_eq_ok] at h
  obtain ⟨u, hOwned, h⟩ := h
  refine ⟨eq_directory_of_replay hOwned, ?_⟩
  rw [Probe.replay_bind, Except.bind_eq_ok] at h
  obtain ⟨entries, -, h⟩ := h
  split at h
  · cases h
  · rw [Probe.replay_bind, Except.bind_eq_ok] at h
    obtain ⟨recordBytes, -, h⟩ := h
    rw [Probe.replay_bind, Except.bind_eq_ok] at h
    obtain ⟨payloadBytes, -, h⟩ := h
    rw [Probe.replay_lift, Except.mapError_eq_ok] at h
    exact ⟨recordBytes, payloadBytes, h⟩

/-- An operation is read from a directory. -/
theorem replay_readOperation {limits : CasLimits} {reference : Text} {entry : Option Node}
    {read : OperationRecord × Bytes × List (Text × Bytes)}
    (h : (readOperation limits reference).replay (answer entry) = .ok read) :
    ∃ info entries, entry = some (.directory info entries) := by
  unfold readOperation at h
  rw [Probe.replay_bind, Except.bind_eq_ok] at h
  obtain ⟨u, hOwned, -⟩ := h
  exact eq_directory_of_replay hOwned

/-- A dataset on disk is carried with its entry. -/
theorem DatasetOnDisk.entry_eq {reference : Text} {loc : Location} {stored : StoredDataset}
    (h : DatasetOnDisk w reference loc stored) (hCarries : Carries w w')
    (hCorrupt : reference ∉ w'.session.corruptReferences) :
    w'.disk.entry loc = w.disk.entry loc := by
  obtain ⟨-, hStored, hReference⟩ := destinationOf_spec h.destination
  obtain ⟨⟨info, entries, hEntry⟩, -⟩ := replay_readDataset h.verified
  rcases hCarries.entries loc hStored (by rw [hEntry]; exact Option.some_ne_none _) with hEq | hMark
  · exact hEq
  · rw [hReference] at hMark
    exact absurd hMark hCorrupt

/-- So it stays on disk. -/
theorem DatasetOnDisk.carries {reference : Text} {loc : Location} {stored : StoredDataset}
    (h : DatasetOnDisk w reference loc stored) (hCarries : Carries w w')
    (hCorrupt : reference ∉ w'.session.corruptReferences) :
    DatasetOnDisk w' reference loc stored := by
  refine ⟨h.destination, ?_⟩
  rw [h.entry_eq hCarries hCorrupt, hCarries.limits]
  exact h.verified

/-- The source of an operation stays where it is. -/
theorem SourceOf.carries {binding : OperationBinding} {dataset : Option SourceDataset}
    (h : SourceOf w binding dataset) (hCarries : Carries w w') : SourceOf w' binding dataset := by
  unfold SourceOf at h ⊢
  split
  · next hSource =>
      rw [hSource] at h
      exact h
  · next source hSource =>
      rw [hSource] at h
      obtain ⟨hKind, hMem, hOnDisk⟩ := h
      refine ⟨hKind, hCarries.references hMem, fun hCorrupt => ?_⟩
      obtain ⟨loc, stored, hOnDisk, hEq⟩ := hOnDisk (fun hc => hCorrupt (hCarries.corrupt hc))
      exact ⟨loc, stored, hOnDisk.carries hCarries hCorrupt, hEq⟩

/-- An operation on disk is carried with its entry. -/
theorem OperationOnDisk.entry_eq {reference : Text} {loc : Location} {stored : StoredOperation}
    (h : OperationOnDisk w reference loc stored) (hCarries : Carries w w')
    (hCorrupt : reference ∉ w'.session.corruptReferences) :
    w'.disk.entry loc = w.disk.entry loc := by
  obtain ⟨-, hStored, hReference⟩ := destinationOf_spec h.destination
  obtain ⟨dataset, -, hReads⟩ := h.verified
  obtain ⟨info, entries, hEntry⟩ := replay_readOperation hReads.read
  rcases hCarries.entries loc hStored (by rw [hEntry]; exact Option.some_ne_none _) with hEq | hMark
  · exact hEq
  · rw [hReference] at hMark
    exact absurd hMark hCorrupt

/-- So it stays on disk. -/
theorem OperationOnDisk.carries {reference : Text} {loc : Location} {stored : StoredOperation}
    (h : OperationOnDisk w reference loc stored) (hCarries : Carries w w')
    (hCorrupt : reference ∉ w'.session.corruptReferences) :
    OperationOnDisk w' reference loc stored := by
  obtain ⟨dataset, hSource, hReads⟩ := h.verified
  refine ⟨h.destination, dataset, hSource.carries hCarries, ?_⟩
  rw [h.entry_eq hCarries hCorrupt, hCarries.limits]
  exact hReads

/-- An intact reference stays intact or becomes corrupt. -/
theorem Intact.carries {reference : Text} (h : Intact w reference) (hCarries : Carries w w')
    (hCorrupt : reference ∉ w'.session.corruptReferences) : Intact w' reference := by
  rcases h with ⟨loc, stored, hOnDisk, hMeasured⟩ | ⟨loc, stored, hOnDisk, hMeasured⟩
  · refine .inl ⟨loc, stored, hOnDisk.carries hCarries hCorrupt, ?_⟩
    rw [hOnDisk.entry_eq hCarries hCorrupt]
    exact hMeasured
  · refine .inr ⟨loc, stored, hOnDisk.carries hCarries hCorrupt, ?_⟩
    rw [hOnDisk.entry_eq hCarries hCorrupt]
    exact hMeasured

/-! ## Loads that return, and intact entries -/

/-- What was loaded as the source of an operation is on disk. -/
theorem sourceOf_of_run {binding : OperationBinding} {dataset : Option SourceDataset}
    (hQuiet : w.Quiet) (h : (loadSource binding).run w = .ok dataset w') :
    SourceOf w binding dataset := by
  unfold SourceOf
  rcases run_loadSource_eq_ok.1 h with ⟨hSource, hDataset, -⟩ |
    ⟨source, stored, hSource, hKind, hLoad, hDataset⟩
  · rw [hSource]
    exact hDataset
  · rw [hSource]
    obtain ⟨loc, hResolve, hLook⟩ := run_loadDataset_eq_ok.1 hLoad
    obtain ⟨-, hDestination, -, hMem, -⟩ := run_resolve_eq_ok.1 hResolve
    exact ⟨hKind, hMem, fun _ =>
      ⟨loc, stored, ⟨hDestination, replay_of_look hQuiet hLook⟩, hDataset⟩⟩

/-- In a quiet world looking changes nothing that is carried, in either direction. -/
theorem Reads.carries_symm (h : Reads w w') (hQuiet : w.Quiet) : Carries w' w := by
  refine ⟨by rw [h.session], by rw [h.session], by rw [h.session], fun loc _ _ => .inl ?_⟩
  rw [h.disk hQuiet]

/-- What a load has read in a quiet world, wherever the entry stands. -/
theorem operationReads_of_run {reference : Text} {loc : Location} {stored : StoredOperation}
    (hQuiet : w.Quiet) (h : (loadOperationDirectory loc reference).run w = .ok stored w') :
    ∃ dataset, SourceOf w stored.record.1.binding dataset ∧
      OperationReads w.session.limits reference (w.disk.entry loc) dataset stored := by
  obtain ⟨hReference, t, t', dataset, hRead, hSource, hLook⟩ := run_loadOperationDirectory_eq_ok.1 h
  have hFirst := (keeps_reads_look _ _).ok hRead
  have hSecond := reads_of_loadSource hSource
  have hQuiet' := hQuiet.congr hFirst.oracle
  refine ⟨dataset, ?_, hReference, replay_of_look hQuiet hRead, ?_⟩
  · exact (sourceOf_of_run hQuiet' hSource).carries (hFirst.carries_symm hQuiet)
  · have hReplay := replay_of_look (hQuiet'.congr hSecond.oracle) hLook
    rwa [hSecond.disk hQuiet', hFirst.disk hQuiet] at hReplay

/-! ## Loading what is intact -/

/-- The outside leaves the files alone and no step fails. -/
structure World.Calm (w : World) : Prop where
  quiet : w.Quiet
  fault : ∀ tick, w.oracle.fault tick = none

/-- A calm world depends on its oracle only. -/
theorem World.Calm.congr (h : w.Calm) (hOracle : w'.oracle = w.oracle) : w'.Calm :=
  ⟨h.quiet.congr hOracle, by rw [hOracle]; exact h.fault⟩

/-- In a calm world a program does what it does against the entry as it stands. -/
theorem run_look (hCalm : w.Calm) {α : Type} (loc : Location) (program : Look α) :
    ∃ w', Reads w w' ∧
      (look loc program).run w = ending (program.replay (answer (w.disk.entry loc))) w' := by
  have hStep : ∀ {γ : Type} (q : Query γ) (s : World), Reads w s →
      ∃ s', Reads w s' ∧ (ask loc q).run s = ending (answer (w.disk.entry loc) q) s' := by
    intro γ q s hs
    have hStir := reads_stir s
    refine ⟨s.stir, IsTrans.trans _ _ _ hs hStir, ?_⟩
    have hEntry : s.stir.disk.entry loc = w.disk.entry loc := by
      rw [hStir.disk (hCalm.quiet.congr hs.oracle), hs.disk hCalm.quiet]
    show ask loc q s = _
    unfold ask
    rw [hs.oracle, hCalm.fault, Option.bind_none, hEntry]
    cases answer (w.disk.entry loc) q <;> rfl
  exact @Probe.perform_eq_replay Query Raised World α (ask loc) (answer (w.disk.entry loc))
    (fun s => Reads w s) hStep program w (Std.Refl.refl w)

/-- In a calm world, a look gives what the entry answers. -/
theorem run_look_of_replay (hCalm : w.Calm) {α : Type} {loc : Location} {program : Look α} {a : α}
    (h : program.replay (answer (w.disk.entry loc)) = .ok a) :
    ∃ w', Reads w w' ∧ (look loc program).run w = .ok a w' := by
  obtain ⟨w', hReads, hRun⟩ := run_look hCalm loc program
  rw [h] at hRun
  exact ⟨w', hReads, hRun⟩

/-- In a calm world an intact dataset loads. -/
theorem run_loadDatasetDirectory_of_onDisk {reference : Text} {loc : Location}
    {stored : StoredDataset} (hCalm : w.Calm) (h : DatasetOnDisk w reference loc stored) :
    ∃ w', Reads w w' ∧ (loadDatasetDirectory loc reference).run w = .ok stored w' := by
  obtain ⟨w', hReads, hRun⟩ := run_look_of_replay hCalm h.verified
  exact ⟨w', hReads, run_loadDatasetDirectory_eq_ok.2 hRun⟩

end SessionCas
