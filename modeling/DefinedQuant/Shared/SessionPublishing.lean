import DefinedQuant.Shared.SessionLoading

/-!
# Publishing into a session

A publication that raises has registered nothing and moved nothing but to quarantine: the last step
that can fail is the move into place, because the bytes of the entry were reserved before it was
staged. One that returns has registered its reference, once, and in a quiet world the entry of that
reference is intact from the moment it is registered.
-/

namespace SessionCas

open Json DataRecords HostFailures LocalHost OperationRecords FileTree Effect

variable {X : Set Location} {F : Set Text} {w w' : World}

/-! ## Staging -/

/-- A change is made where the outside raises no fault and the file system allows it. -/
theorem run_change_eq_ok {loc : Location} {f : Option Node → Except Raised (Option Node)}
    {u : Unit} :
    (change loc f).run w = .ok u w' ↔ w.oracle.fault w.tick = none ∧
      ∃ node, f (w.stir.disk.entry loc) = .ok node ∧
        w' = { w.stir with disk := w.stir.disk.set loc node } := by
  show change loc f w = _ ↔ _
  unfold change
  split
  · next fault hFault =>
      rw [hFault]
      simp
  · next hFault =>
      rw [hFault]
      cases hNode : f (w.stir.disk.entry loc) with
      | ok node => simp [eq_comm]
      | error e => simp

/-- In a quiet world, a change finds the entry as it was. -/
theorem entry_of_change {loc : Location} {f : Option Node → Except Raised (Option Node)} {u : Unit}
    (hQuiet : w.Quiet) (h : (change loc f).run w = .ok u w') :
    f (w.disk.entry loc) = .ok (w'.disk.entry loc) := by
  obtain ⟨-, node, hNode, rfl⟩ := run_change_eq_ok.1 h
  rw [(reads_stir w).disk hQuiet] at hNode
  rw [hNode]
  show _ = Except.ok (Function.update w.stir.disk.entry loc node loc)
  rw [Function.update_self]

/-- An entry that is there, a directory of this weight. -/
def EntryWeighs (entry : Option Node) (size : ℕ) : Prop :=
  ∃ node, entry = some node ∧ node.leadsToDirectory = true ∧ node.Weighs size

/-- What an entry weighs is the size that is taken of it. -/
theorem EntryWeighs.takes {entry : Option Node} {size : ℕ} (h : EntryWeighs entry size) :
    Takes entry size := by
  obtain ⟨node, rfl, hDirectory, hNode⟩ := h
  cases hNode with
  | file => cases hDirectory
  | directory size _ _ hEntries =>
      have hTotal := Node.treeSize_eq_sum (fun entry hMem => (hEntries entry hMem).entrySize_eq)
      simp only [Takes, answer, Option.bind_some, Node.resolve, hTotal]

/-- A new file adds its content to the weight of the entry. -/
theorem entryWeighs_of_createFile {content : Bytes} {path : List Text} {entry entry' : Option Node}
    {size : ℕ} (h : createFile content path entry = .ok entry') (hEntry : EntryWeighs entry size) :
    EntryWeighs entry' (size + content.length) := by
  obtain ⟨node, rfl, hDirectory, hNode⟩ := hEntry
  unfold createFile at h
  simp only at h
  split at h
  · next node' hNode' =>
      cases h
      exact ⟨node', rfl, Node.leadsToDirectory_changeAt hNode' hDirectory,
        Node.weighs_createFile hNode' hNode⟩
  · cases h

/-- Making directories adds no bytes, and leaves a directory a directory. -/
theorem weighs_makeDirectories {restrictedByDefault existOk : Bool} {size : ℕ} :
    ∀ {path done : List Text} {node node' : Node},
      makeDirectories restrictedByDefault existOk done path node = .ok node' →
        node.leadsToDirectory = true → node.Weighs size →
          node'.leadsToDirectory = true ∧ node'.Weighs size
  | [], done, node, node', h, hDirectory, hNode => by
      unfold makeDirectories at h
      cases h
      exact ⟨hDirectory, hNode⟩
  | [name], done, node, node', h, hDirectory, hNode => by
      unfold makeDirectories at h
      refine ⟨Node.leadsToDirectory_changeAt h hDirectory,
        Node.weighs_createDirectory rfl (fun old new hNew => ?_) h hNode⟩
      split at hNew <;> cases hNew
      rfl
  | name :: next :: path, done, node, node', h, hDirectory, hNode => by
      unfold makeDirectories at h
      obtain ⟨between, hBetween, h⟩ := Except.bind_eq_ok.1 h
      unfold makeParent at hBetween
      split at hBetween
      · exact weighs_makeDirectories h (Node.leadsToDirectory_changeAt hBetween hDirectory)
          (Node.weighs_createDirectory rfl (fun old new hNew => by cases hNew; rfl) hBetween hNode)
      · cases hBetween
        exact weighs_makeDirectories h hDirectory hNode

/-- A new directory weighs nothing. -/
theorem entryWeighs_of_createDirectories {restrictedByDefault existOk : Bool} {path : List Text}
    {entry entry' : Option Node} {size : ℕ}
    (h : createDirectories restrictedByDefault existOk path entry = .ok entry')
    (hEntry : EntryWeighs entry size) : EntryWeighs entry' size := by
  obtain ⟨node, rfl, hDirectory, hNode⟩ := hEntry
  unfold createDirectories at h
  simp only at h
  split at h
  · next node' hNode' =>
      split at h
      · cases h
        exact ⟨node', rfl, weighs_makeDirectories hNode' hDirectory hNode⟩
      · cases h
  · cases h

/-- A run that, when it returns in a quiet world, has added so many bytes to a staged entry. -/
def Adds (stage : Location) (size : ℕ) (x : Host Unit) : Prop :=
  ∀ (w w' : World) (before : ℕ), w.Quiet → x.run w = .ok () w' →
    EntryWeighs (w.disk.entry stage) before → EntryWeighs (w'.disk.entry stage) (before + size)

/-- `_write_private` returns where the file could be created. -/
theorem run_writePrivate_eq_ok {stage : Location} {path : List Text} {content : Bytes} {u : Unit} :
    (writePrivate stage path content).run w = .ok u w' ↔
      (change stage (createFile content path)).run w = .ok u w' := by
  unfold writePrivate
  rw [run_rescue_eq_ok]
  constructor
  · rintro (h | ⟨e, t, -, h⟩)
    · exact h
    · split at h <;> cases h
  · exact .inl

/-- Files are written in staging, which no reference names. -/
theorem keeps_settles_writePrivate {stage : Location} (hStage : stage.area = .staging)
    (path : List Text) (content : Bytes) :
    Keeps (Settles X F) (writePrivate stage path content) := by
  refine keeps_rescue (keeps_settles_change hStage _) (fun e => ?_)
  split
  · exact keeps_throw _
  · exact keeps_throw _

/-- It adds the content to the entry under the stage. -/
theorem adds_writePrivate (stage : Location) (path : List Text) (content : Bytes) :
    Adds stage content.length (writePrivate stage path content) := by
  intro w w' before hQuiet hRun hEntry
  exact entryWeighs_of_createFile (entry_of_change hQuiet (run_writePrivate_eq_ok.1 hRun)) hEntry

/-- Directories add nothing to it. -/
theorem adds_createDirectories (stage : Location) (restrictedByDefault existOk : Bool)
    (path : List Text) :
    Adds stage 0 (change stage (createDirectories restrictedByDefault existOk path)) := by
  intro w w' before hQuiet hRun hEntry
  exact entryWeighs_of_createDirectories (entry_of_change hQuiet hRun) hEntry

/-- All members of a bundle are written in staging. -/
theorem keeps_settles_writeMembers {stage : Location} (hStage : stage.area = .staging) :
    ∀ members : List (Text × Bytes), Keeps (Settles X F) (writeMembers stage members)
  | [] => keeps_pure _
  | (name, content) :: rest => by
      refine keeps_bind keeps_get (fun v => ?_)
      refine keeps_bind (keeps_settles_change hStage _) (fun _ => ?_)
      refine keeps_bind (keeps_settles_writePrivate hStage _ _) (fun _ => ?_)
      exact keeps_settles_writeMembers hStage rest

/-- What two runs add is the sum of what each adds. -/
theorem Adds.bind {stage : Location} {x y : Host Unit} {first second : ℕ}
    (hSettles : Keeps (Settles ∅ ∅) x) (hx : Adds stage first x) (hy : Adds stage second y) :
    Adds stage (first + second) (x >>= fun _ => y) := by
  intro w w' before hQuiet hRun hEntry
  obtain ⟨u, t, hFirst, hSecond⟩ := run_bind_eq_ok.1 hRun
  rw [← Nat.add_assoc]
  exact hy _ _ _ (hQuiet.congr (hSettles.ok hFirst).oracle) hSecond (hx _ _ _ hQuiet hFirst hEntry)

/-- The members add the sum of their lengths. -/
theorem adds_writeMembers {stage : Location} (hStage : stage.area = .staging) :
    ∀ members : List (Text × Bytes),
      Adds stage (members.map (fun member => member.2.length)).sum (writeMembers stage members)
  | [] => by
      intro w w' before _ hRun hEntry
      cases hRun
      exact hEntry
  | (name, content) :: rest => by
      intro w
      have hMember := Adds.bind (keeps_settles_change hStage _)
        (adds_createDirectories stage w.restrictedByDefault true (bundleName :: Protocol.split 0x2F
          name).dropLast)
        (Adds.bind (keeps_settles_writePrivate hStage _ _)
          (adds_writePrivate stage (bundleName :: Protocol.split 0x2F name) content)
          (adds_writeMembers hStage rest))
      rw [Nat.zero_add] at hMember
      exact hMember w

/-- A stage is created in staging. -/
theorem keeps_settles_createStage {stage : Location} (hStage : stage.area = .staging) :
    Keeps (Settles X F) (createStage stage) := by
  refine keeps_rescue (keeps_bind (keeps_settles_change hStage _) (fun _ => keeps_pure _))
    (fun e => ?_)
  split
  · exact keeps_pure _
  · exact keeps_throw _

/-- An entry that has just been made. -/
def emptyEntry : Node := .directory .personal []

/-- An empty directory weighs nothing. -/
theorem entryWeighs_emptyEntry : EntryWeighs (some emptyEntry) 0 :=
  ⟨_, rfl, rfl, .directory (fun _ => 0) rfl List.nodup_nil (fun _ h => absurd h List.not_mem_nil)⟩

/-- The stage that is created is an empty directory. -/
theorem entry_of_createStage {stage : Location} (hQuiet : w.Quiet)
    (h : (createStage stage).run w = .ok true w') : w'.disk.entry stage = some emptyEntry := by
  rcases run_rescue_eq_ok.1 h with h | ⟨e, t, -, h⟩
  · obtain ⟨u, t, hChange, hDone⟩ := run_bind_eq_ok.1 h
    cases hDone
    have hEntry := entry_of_change hQuiet hChange
    unfold createEntry at hEntry
    split at hEntry
    · exact (Except.ok.inj hEntry).symm
    · cases hEntry
  · split at h <;> cases h

/-- The attempts to find a free name stay in staging. -/
theorem keeps_settles_newStageFrom (kind : String) : ∀ attempts : ℕ,
    Keeps (Settles X F) (newStageFrom kind attempts)
  | 0 => keeps_throw _
  | attempts + 1 => by
      refine keeps_bind (keeps_reads_tokenHex.mono (fun _ _ h => h.settles)) (fun token => ?_)
      refine keeps_bind (keeps_settles_createStage rfl) (fun created => ?_)
      exact keeps_ite (fun _ => keeps_pure _) (fun _ => keeps_settles_newStageFrom kind attempts)

/-- A new stage is an empty directory in the staging area. -/
theorem newStageFrom_spec (kind : String) : ∀ {attempts : ℕ} {w w' : World} {stage : Location},
    (newStageFrom kind attempts).run w = .ok stage w' →
      stage.area = .staging ∧ (w.Quiet → w'.disk.entry stage = some emptyEntry)
  | 0, w, w', stage, h => by cases h
  | attempts + 1, w, w', stage, h => by
      obtain ⟨token, t, hToken, h⟩ := run_bind_eq_ok.1 h
      obtain ⟨created, t', hCreated, h⟩ := run_bind_eq_ok.1 h
      have hFirst := (keeps_reads_tokenHex.ok hToken).oracle
      cases created with
      | true =>
          cases h
          exact ⟨rfl, fun hQuiet => entry_of_createStage (hQuiet.congr hFirst) hCreated⟩
      | false =>
          have hSecond := ((keeps_settles_createStage (X := ∅) (F := ∅) rfl).ok hCreated).oracle
          obtain ⟨hArea, hEmpty⟩ := newStageFrom_spec kind h
          exact ⟨hArea, fun hQuiet => hEmpty ((hQuiet.congr hFirst).congr hSecond)⟩

/-! ## Registering -/

/-- A reference that is known changes nothing, and another one is counted where it fits the session. -/
theorem run_register_eq_ok {reference : Text} {size : ℕ} {u : Unit} :
    (register reference size).run w = .ok u w' ↔
      (reference ∈ w.session.references ∧ w' = w) ∨
        (reference ∉ w.session.references ∧
          w.session.usedBytes + size ≤ w.session.limits.sessionBytes ∧
          w' = w.register reference size) := by
  unfold register
  rw [run_get_bind]
  by_cases hMem : reference ∈ w.session.references
  · rw [if_pos hMem]
    constructor
    · intro h
      cases h
      exact .inl ⟨hMem, rfl⟩
    · rintro (⟨-, rfl⟩ | ⟨hNot, -⟩)
      · rfl
      · exact absurd hMem hNot
  · rw [if_neg hMem]
    unfold reserve
    rw [run_bind_eq_ok]
    simp only [run_get_bind, run_raiseIf_eq_ok, not_lt]
    constructor
    · rintro ⟨_, _, ⟨hSize, rfl⟩, h⟩
      cases h
      exact .inr ⟨hMem, hSize, rfl⟩
    · rintro (⟨hNot, -⟩ | ⟨-, hSize, rfl⟩)
      · exact absurd hNot hMem
      · exact ⟨(), w, ⟨hSize, rfl⟩, rfl⟩

/-- A registration that raises has changed nothing, and was over the limit. -/
theorem run_register_eq_error {reference : Text} {size : ℕ} {e : Raised}
    (h : (register reference size).run w = .error e w') :
    w' = w ∧ w.session.limits.sessionBytes < w.session.usedBytes + size := by
  unfold register at h
  rw [run_get_bind] at h
  split at h
  · cases h
  · rcases run_bind_eq_error.1 h with h | ⟨_, _, _, h⟩
    · obtain ⟨hSize, -, hEq⟩ := run_raiseIf_eq_error.1 h
      exact ⟨hEq, hSize⟩
    · cases h

/-- A reference that does not fit leaves the session as it was. -/
theorem onError_register (reference : Text) (size : ℕ) :
    OnError (Settles X F) (register reference size) := by
  intro v e v' h
  obtain ⟨rfl, -⟩ := run_register_eq_error h
  exact Std.Refl.refl _

/-- Weighing an entry only reads. -/
theorem keeps_reads_entrySize (loc : Location) : Keeps Reads (entrySize loc) := keeps_reads_look _ _

/-- In a quiet world, the size is that of the entry. -/
theorem takes_of_entrySize {loc : Location} {size : ℕ} (hQuiet : w.Quiet)
    (h : (entrySize loc).run w = .ok size w') : Takes (w.disk.entry loc) size := by
  have hReplay := replay_of_look hQuiet h
  rwa [Probe.replay_mapError, Except.mapError_eq_ok, Probe.replay_query] at hReplay

/-! ## Moving a stage into place -/

/-- The stage is renamed where the outside raises no fault and the destination is free. -/
theorem run_publishDirectoryNoReplace_eq_ok {source destination : Location} {u : Unit} :
    (publishDirectoryNoReplace source destination).run w = .ok u w' ↔
      w.oracle.fault w.tick = none ∧ ∃ disk, renameEntry w.stir.disk source destination = .ok disk ∧
        w' = { w.stir with disk := disk } := by
  show publishDirectoryNoReplace source destination w = _ ↔ _
  unfold publishDirectoryNoReplace
  split
  · next fault hFault =>
      rw [hFault]
      simp
  · next hFault =>
      rw [hFault]
      cases renameEntry w.stir.disk source destination with
      | ok disk => simp [eq_comm]
      | error e => simp

/-- A rename that fails has changed nothing. -/
theorem reads_of_publishDirectoryNoReplace_error {source destination : Location} {e : Raised}
    (h : (publishDirectoryNoReplace source destination).run w = .error e w') : Reads w w' := by
  change publishDirectoryNoReplace source destination w = _ at h
  unfold publishDirectoryNoReplace at h
  split at h
  · cases h
    exact reads_stir w
  · split at h
    · cases h
    · cases h
      exact reads_stir w

/-- The stage stands where nothing stood. -/
def Moved (stage destination : Location) (w w' : World) : Prop :=
  w.disk.entry destination = none ∧ w'.disk.entry destination = w.disk.entry stage

/-- A rename settles the destination and takes the entry of the stage there. -/
theorem settles_of_publishDirectoryNoReplace {stage destination : Location}
    (hStage : stage.area = .staging) (hStored : IsStored destination) {u : Unit}
    (h : (publishDirectoryNoReplace stage destination).run w = .ok u w') :
    Settles {destination} F w w' ∧ (w.Quiet → Moved stage destination w w') := by
  obtain ⟨-, disk, hDisk, rfl⟩ := run_publishDirectoryNoReplace_eq_ok.1 h
  unfold renameEntry at hDisk
  split at hDisk
  · cases hDisk
  · cases hDisk
  · next node hNode hFree =>
      cases hDisk
      have hOther : w.Quiet → ∀ loc : Location, loc.area ≠ .staging → loc ≠ destination →
          Function.update (Function.update w.stir.disk.entry stage none) destination (some node) loc
            = w.disk.entry loc := by
        intro hQuiet loc hArea hNe
        have hNe' : loc ≠ stage := fun hEq => hArea (hEq ▸ hStage)
        rw [Function.update_of_ne hNe, Function.update_of_ne hNe', (reads_stir w).disk hQuiet]
      refine ⟨⟨rfl, rfl, rfl, rfl, subset_rfl, subset_rfl, fun r hr hc => .inr ⟨hr, hc⟩, ?_, ?_⟩,
        ?_⟩
      · intro hQuiet loc hLoc hX
        exact .inl (hOther hQuiet loc hLoc.area_ne.1 hX)
      · intro hQuiet loc hArea _
        refine hOther hQuiet loc (by rw [hArea]; decide) ?_
        rintro rfl
        exact hStored.area_ne.2 hArea
      · intro hQuiet
        rw [(reads_stir w).disk hQuiet] at hNode hFree
        refine ⟨hFree, ?_⟩
        show Function.update (Function.update w.stir.disk.entry stage none) destination (some node)
          destination = _
        rw [Function.update_self, hNode]

/-- What follows a rename that failed only reads. -/
theorem keeps_reads_notMoved (destination : Location) (e : Raised) :
    Keeps Reads (notMoved destination e) := by
  unfold notMoved
  split
  · exact keeps_pure _
  · refine keeps_bind (keeps_reads_observe _) (fun found => ?_)
    exact keeps_ite (fun _ => keeps_pure _) (fun _ => keeps_throw _)
  · exact keeps_throw _

/-- It never says that the stage was moved. -/
theorem notMoved_ne_true {destination : Location} {e : Raised} {moved : Bool}
    (h : (notMoved destination e).run w = .ok moved w') : moved = false := by
  unfold notMoved at h
  split at h
  · cases h
    rfl
  · obtain ⟨found, t, -, h⟩ := run_bind_eq_ok.1 h
    split at h <;> cases h
    rfl
  · cases h

/-- A stage was moved, or nothing was changed. -/
theorem moveStage_spec {stage destination : Location} {moved : Bool}
    (h : (moveStage stage destination).run w = .ok moved w') :
    (moved = true ∧ (publishDirectoryNoReplace stage destination).run w = .ok () w') ∨
      (moved = false ∧ Reads w w') := by
  rcases run_rescue_eq_ok.1 h with h | ⟨e, t, hRun, h⟩
  · obtain ⟨u, t, hRun, hDone⟩ := run_bind_eq_ok.1 h
    cases hDone
    exact .inl ⟨rfl, hRun⟩
  · rcases run_bind_eq_error.1 hRun with hRun | ⟨_, _, _, hRun⟩
    · refine .inr ⟨notMoved_ne_true h, ?_⟩
      exact IsTrans.trans _ _ _ (reads_of_publishDirectoryNoReplace_error hRun)
        ((keeps_reads_notMoved _ _).ok h)
    · cases hRun

/-- A stage that could not be moved has changed nothing. -/
theorem reads_of_moveStage_error {stage destination : Location} {e : Raised}
    (h : (moveStage stage destination).run w = .error e w') : Reads w w' := by
  obtain ⟨e', t, hRun, h⟩ := run_rescue_eq_error.1 h
  rcases run_bind_eq_error.1 hRun with hRun | ⟨_, _, _, hRun⟩
  · exact IsTrans.trans _ _ _ (reads_of_publishDirectoryNoReplace_error hRun)
      ((keeps_reads_notMoved _ _).error h)
  · cases hRun

/-- A load can find the entry corrupt, and mark its reference. -/
theorem keeps_settles_loadDirectory (kind : RecordKind) (loc : Location) (reference : Text) :
    Keeps (Settles X (insert reference F)) (loadDirectory kind loc reference) := by
  cases kind with
  | dataset =>
      exact keeps_bind (keeps_settles_loadDatasetDirectory _ _) (fun _ => keeps_pure _)
  | operation =>
      exact keeps_bind (keeps_settles_loadOperationDirectory _ _) (fun _ => keeps_pure _)

/-- A load for the sake of verification has only looked, at a directory. -/
theorem loadDirectory_spec {kind : RecordKind} {loc : Location} {reference : Text} {u : Unit}
    (h : (loadDirectory kind loc reference).run w = .ok u w') :
    Reads w w' ∧ (w.Quiet → ∃ info entries, w.disk.entry loc = some (.directory info entries)) := by
  cases kind with
  | dataset =>
      obtain ⟨stored, t, hLoad, hDone⟩ := run_bind_eq_ok.1 h
      cases hDone
      rw [run_loadDatasetDirectory_eq_ok] at hLoad
      refine ⟨(keeps_reads_look _ _).ok hLoad, fun hQuiet => ?_⟩
      exact (replay_readDataset (replay_of_look hQuiet hLoad)).1
  | operation =>
      obtain ⟨stored, t, hLoad, hDone⟩ := run_bind_eq_ok.1 h
      cases hDone
      refine ⟨reads_of_loadOperationDirectory hLoad, fun hQuiet => ?_⟩
      obtain ⟨dataset, -, hReads⟩ := operationReads_of_run hQuiet hLoad
      exact replay_readOperation hReads.read

/-- Verifying a destination marks nothing but its own reference, which loading has marked already. -/
theorem keeps_settles_verifyDestination {destination : Location} (hStored : IsStored destination)
    (kind : RecordKind) :
    Keeps (Settles X F) (corruptOnError destination (entryReference destination)
      (loadDirectory kind destination (entryReference destination))) :=
  keeps_settles_corruptOnError hStored (keeps_settles_loadDirectory _ _ _)
    (fun h => (loadDirectory_spec h).1.settles)

/-- A publication step that raises has moved nothing into place. -/
theorem onError_publishStage {stage destination : Location} (hStored : IsStored destination)
    (kind : RecordKind) :
    OnError (Settles X F) (publishStage stage destination (entryReference destination) kind) := by
  intro v e v' h
  rcases run_bind_eq_error.1 h with h | ⟨moved, t, hMove, h⟩
  · exact (reads_of_moveStage_error h).settles
  · rcases moveStage_spec hMove with ⟨rfl, -⟩ | ⟨rfl, hReads⟩
    · cases h
    · exact IsTrans.trans _ _ _ hReads.settles ((keeps_settles_verifyDestination hStored kind).error
        h)

/-- A publication step that returns has moved the stage, or found an entry that verifies. In a quiet
world where nothing stood, it has moved the stage. -/
theorem publishStage_spec {stage destination : Location} (hStage : stage.area = .staging)
    (hStored : IsStored destination) {kind : RecordKind} {reference : Text} {u : Unit}
    (h : (publishStage stage destination reference kind).run w = .ok u w') :
    Settles {destination} F w w' ∧
      (w.Quiet → (w.disk.entry destination).bind Node.resolve = none →
        Moved stage destination w w') := by
  obtain ⟨moved, t, hMove, h⟩ := run_bind_eq_ok.1 h
  rcases moveStage_spec hMove with ⟨rfl, hRun⟩ | ⟨rfl, hReads⟩
  · cases h
    obtain ⟨hSettles, hMoved⟩ := settles_of_publishDirectoryNoReplace hStage hStored hRun
    exact ⟨hSettles, fun hQuiet _ => hMoved hQuiet⟩
  · obtain ⟨hReads', hDirectory⟩ := loadDirectory_spec (run_corruptOnError_eq_ok.1 h)
    refine ⟨IsTrans.trans _ _ _ hReads.settles hReads'.settles, fun hQuiet hMissing => ?_⟩
    obtain ⟨info, entries, hEntry⟩ := hDirectory (hQuiet.congr hReads.oracle)
    rw [hReads.disk hQuiet] at hEntry
    rw [hEntry] at hMissing
    cases hMissing

/-! ## Registered publications -/

/-- There is room for an entry of this size. -/
def World.HasRoom (w : World) (size : ℕ) : Prop :=
  w.session.usedBytes + size ≤ w.session.limits.sessionBytes

/-- A run that settles if there was room for an entry before it. -/
def SettlesWithin (size : ℕ) (w w' : World) : Prop := w.HasRoom size → Settles ∅ ∅ w w'

/-- What settles nothing new leaves the room of the session. -/
theorem Settles.hasRoom {size : ℕ} (h : Settles X F w w') (hRoom : w.HasRoom size) :
    w'.HasRoom size := by
  unfold World.HasRoom
  rw [h.usedBytes, h.limits]
  exact hRoom

instance (size : ℕ) : Std.Refl (SettlesWithin size) where
  refl w := fun _ => Std.Refl.refl w

instance (size : ℕ) : IsTrans World (SettlesWithin size) where
  trans _ _ _ h h' := fun hRoom => IsTrans.trans _ _ _ (h hRoom) (h' ((h hRoom).hasRoom hRoom))

/-- A size was taken of an entry before the run ended. -/
def SizeTaken (loc : Location) (size : ℕ) (w : World) : Prop :=
  ∃ s t, Settles ∅ ∅ w s ∧ (entrySize loc).run s = .ok size t

/-- A run that registers a reference between two runs that settle. The reference is counted with
`octets`, the bytes that the call has written, or with the size that it has taken of an entry that
was there. When nothing outside acts, the entry of the reference is intact by then and of the size
counted, and the others are where they were. -/
def Registers (octets : ℕ) (loc : Location) (reference : Text) (w w' : World) : Prop :=
  ∃ t t' size, Settles {loc} ∅ w t ∧ (register reference size).run t = .ok () t' ∧
    Settles ∅ ∅ t' w' ∧
    (w.Quiet → Carries w t ∧ Intact t reference ∧ Takes (t.disk.entry loc) size) ∧
    (size = octets ∨ SizeTaken loc size w)

/-- The size of an entry can be taken before something that settles nothing. -/
theorem SizeTaken.after {loc : Location} {size : ℕ} (h : Settles ∅ ∅ w w')
    (h' : SizeTaken loc size w') : SizeTaken loc size w := by
  obtain ⟨s, t, hBefore, hSize⟩ := h'
  exact ⟨s, t, IsTrans.trans _ _ _ h hBefore, hSize⟩

/-- What is carried twice is carried. -/
theorem Carries.trans {w'' : World} (h : Carries w w') (h' : Carries w' w'') : Carries w w'' := by
  refine ⟨h'.limits.trans h.limits, h.references.trans h'.references, h.corrupt.trans h'.corrupt,
    fun loc hStored hSome => ?_⟩
  rcases h.entries loc hStored hSome with hEq | hMark
  · rcases h'.entries loc hStored (by rw [hEq]; exact hSome) with hEq' | hMark
    · exact .inl (hEq'.trans hEq)
    · exact .inr hMark
  · exact .inr (h'.corrupt hMark)

/-- Settling nothing before a registration does not matter. -/
theorem Registers.after {octets : ℕ} {loc : Location} {reference : Text} {v : World}
    (h : Settles ∅ ∅ w v) (h' : Registers octets loc reference v w') :
    Registers octets loc reference w w' := by
  obtain ⟨t, t', size, hBefore, hRegister, hAfter, hIntact, hSize⟩ := h'
  refine ⟨t, t', size, IsTrans.trans _ _ _ (h.mono (Set.empty_subset _) subset_rfl) hBefore,
    hRegister, hAfter, fun hQuiet => ?_, hSize.imp_right (fun hTaken => hTaken.after h)⟩
  obtain ⟨hCarries, hIntact⟩ := hIntact (hQuiet.congr h.oracle)
  exact ⟨(h.carries hQuiet).trans hCarries, hIntact⟩

/-- Settling nothing after a registration does not matter. -/
theorem Registers.before {octets : ℕ} {loc : Location} {reference : Text} {v : World}
    (h : Registers octets loc reference w v) (h' : Settles ∅ ∅ v w') :
    Registers octets loc reference w w' := by
  obtain ⟨t, t', size, hBefore, hRegister, hAfter, hRest⟩ := h
  exact ⟨t, t', size, hBefore, hRegister, IsTrans.trans _ _ _ hAfter h', hRest⟩

/-- The end of a publication: the stage is moved into place and registered. -/
def commit (stage destination : Location) (reference : Text) (kind : RecordKind) (size : ℕ) :
    Host Text := do
  publishStage stage destination reference kind
  register reference size
  return reference

/-- A commit that fails leaves at most its own entry behind. -/
theorem onError_commit {stage destination : Location} (hStage : stage.area = .staging)
    (hStored : IsStored destination) (kind : RecordKind) (size : ℕ) :
    OnError (SettlesWithin size) (commit stage destination (entryReference destination) kind
      size) := by
  intro v e v' h hRoom
  rcases run_bind_eq_error.1 h with h | ⟨u, t, hPublish, h⟩
  · exact onError_publishStage hStored kind _ _ _ h
  · have hSettles := (publishStage_spec (F := ∅) hStage hStored hPublish).1
    rcases run_bind_eq_error.1 h with h | ⟨_, _, _, h⟩
    · have hFull := (run_register_eq_error h).2
      have hRoom' := hSettles.hasRoom hRoom
      unfold World.HasRoom at hRoom'
      omega
    · cases h

/-- What a commit has done when it returns; the stage held what the reference stands for. -/
theorem registers_of_commit {stage destination : Location} {reference : Text} {kind : RecordKind}
    {size : ℕ} (hStage : stage.area = .staging) (hStored : IsStored destination)
    {result : Text} {v : World} (hBefore : Settles ∅ ∅ v w)
    (hMissing : v.Quiet → (v.disk.entry destination).bind Node.resolve = none)
    (hIntact : ∀ t, v.Quiet → Carries w t → t.disk.entry destination = w.disk.entry stage →
      Intact t reference ∧ Takes (t.disk.entry destination) size)
    (h : (commit stage destination reference kind size).run w = .ok result w') :
    result = reference ∧ Registers size destination reference v w' := by
  obtain ⟨u, t, hPublish, h⟩ := run_bind_eq_ok.1 h
  obtain ⟨u', t', hRegister, h⟩ := run_bind_eq_ok.1 h
  cases h
  obtain ⟨hSettles, hMoved⟩ := publishStage_spec (F := ∅) hStage hStored hPublish
  have hBoth := IsTrans.trans (r := Settles {destination} ∅) _ _ _
    (hBefore.mono (Set.empty_subset _) subset_rfl) hSettles
  refine ⟨rfl, t, w', size, hBoth, hRegister, Std.Refl.refl _, fun hQuiet => ?_, .inl rfl⟩
  have hMissing' : (w.disk.entry destination).bind Node.resolve = none := by
    rcases hBefore.entries hQuiet destination hStored (Set.notMem_empty _) with hEq | ⟨hNone, -⟩
    · rw [hEq]
      exact hMissing hQuiet
    · rw [hNone]
      rfl
  have hQuiet' := hQuiet.congr hBefore.oracle
  obtain ⟨hFree, hMoved⟩ := hMoved hQuiet' hMissing'
  have hCarries : Carries w t := by
    refine ⟨hSettles.limits, by rw [hSettles.references], hSettles.corrupt, fun loc hLoc hSome =>
      ?_⟩
    have hNe : loc ≠ destination := fun hEq => hSome (hEq ▸ hFree)
    rcases hSettles.entries hQuiet' loc hLoc hNe with hEq | ⟨-, hMark, -⟩
    · exact .inl hEq
    · exact .inr hMark
  exact ⟨(hBefore.carries hQuiet).trans hCarries, hIntact t hQuiet hCarries hMoved⟩

/-! ## The frame of a publication -/

/-- The guard passes a result on as it is. -/
theorem run_publicationGuard_eq_ok {α : Type} {x : Host α} {a : α} :
    (publicationGuard x).run w = .ok a w' ↔ x.run w = .ok a w' := by
  unfold publicationGuard
  rw [run_rescue_eq_ok]
  constructor
  · rintro (h | ⟨e, t, -, h⟩)
    · exact h
    · split at h <;> cases h
  · exact .inl

/-- The guard translates errors and changes nothing else. -/
theorem onError_publicationGuard {α : Type} {R : World → World → Prop} {x : Host α}
    (h : OnError R x) : OnError R (publicationGuard x) := by
  intro v e v' hRun
  obtain ⟨e', t, hRun, hHandler⟩ := run_rescue_eq_error.1 hRun
  split at hHandler <;> cases hHandler
  · exact h _ _ _ hRun
  · exact h _ _ _ hRun

/-- A stage is removed in staging. -/
theorem keeps_settles_removeStage {stage : Location} (hStage : stage.area = .staging) :
    Keeps (Settles X F) (removeStage stage) := by
  refine keeps_bind ((keeps_reads_observe _).mono (fun _ _ h => h.settles)) (fun found => ?_)
  refine keeps_ite (fun _ => ?_) (fun _ => keeps_pure _)
  exact keeps_ignoreFilesystem (keeps_settles_change hStage _)

/-- Removing a stage never raises. -/
theorem removeStage_returns (stage : Location) (w : World) :
    ∃ w', (removeStage stage).run w = .ok () w' := by
  have hChange : ∀ {v v' : World} {e : Raised}, (change stage removeTree).run v = .error e v' →
      ∃ code actual, e = .filesystem code actual := by
    intro v v' e h
    change change stage removeTree v = _ at h
    unfold change at h
    split at h
    · cases h
      exact ⟨_, _, rfl⟩
    · split at h
      · cases h
      · next hError =>
          cases h
          unfold removeTree at hError
          split at hError <;> cases hError <;> exact ⟨_, _, rfl⟩
  have hIgnore : ∀ v, ∃ v', (ignoreFilesystem (change stage removeTree)).run v = .ok () v' := by
    intro v
    unfold ignoreFilesystem
    rw [run_rescue]
    cases hRun : (change stage removeTree).run v with
    | ok u t => exact ⟨t, rfl⟩
    | error e t =>
        obtain ⟨code, actual, rfl⟩ := hChange hRun
        exact ⟨t, rfl⟩
  show ∃ w', (if ((w.stir.disk.entry stage).bind Node.resolve).isSome then
    ignoreFilesystem (change stage removeTree) else pure ()).run w.stir = .ok () w'
  split
  · exact hIgnore _
  · exact ⟨_, rfl⟩

/-! ## Publishing datasets -/

/-- An entry that is there is verified, measured and registered. -/
theorem republishDataset_spec {destination : Location} {reference result : Text} (octets : ℕ)
    (hDestination : destinationOf reference .dataset = .ok destination)
    (h : (republishDataset destination reference).run w = .ok result w') :
    result = reference ∧ Registers octets destination reference w w' := by
  obtain ⟨loaded, t, hLoad, h⟩ := run_bind_eq_ok.1 h
  rw [run_corruptOnError_eq_ok, run_loadDatasetDirectory_eq_ok] at hLoad
  obtain ⟨size, t', hSize, h⟩ := run_bind_eq_ok.1 h
  obtain ⟨u, t'', hRegister, h⟩ := run_bind_eq_ok.1 h
  cases h
  have hFirst := (keeps_reads_look _ _).ok hLoad
  have hSecond := (keeps_reads_entrySize _).ok hSize
  have hBoth := IsTrans.trans (r := Reads) _ _ _ hFirst hSecond
  obtain ⟨recordBytes, payloadBytes, hVerify⟩ := (returns_readDataset _ _).of_perform hLoad
  refine ⟨(verifyDataset_eq_ok.1 hVerify).1, t', w', size, hBoth.settles, hRegister,
    Std.Refl.refl _, fun hQuiet => ?_, .inr ⟨t, t', hFirst.settles, hSize⟩⟩
  have hQuiet' := hQuiet.congr hFirst.oracle
  have hTakes : Takes (t'.disk.entry destination) size := by
    rw [hSecond.disk hQuiet']
    exact takes_of_entrySize hQuiet' hSize
  refine ⟨(hBoth.settles (F := ∅)).carries hQuiet,
    .inl ⟨destination, loaded, ⟨hDestination, ?_⟩, size, hTakes⟩, hTakes⟩
  rw [hBoth.disk hQuiet, hBoth.session]
  exact replay_of_look hQuiet hLoad

/-- Republishing a dataset settles nothing before it registers. -/
theorem onError_republishDataset {destination : Location} {reference : Text}
    (hDestination : destinationOf reference .dataset = .ok destination) :
    OnError (Settles ∅ ∅) (republishDataset destination reference) := by
  obtain ⟨-, hStored, rfl⟩ := destinationOf_spec hDestination
  refine onError_bind (keeps_settles_corruptOnError hStored (keeps_settles_loadDatasetDirectory _ _)
    (fun h => ((keeps_reads_look _ _).ok (run_loadDatasetDirectory_eq_ok.1 h)).settles))
    (fun loaded => ?_)
  refine onError_bind ((keeps_reads_entrySize _).mono (fun _ _ h => h.settles)) (fun size => ?_)
  intro v e v' h
  rcases run_bind_eq_error.1 h with h | ⟨_, _, _, h⟩
  · exact onError_register _ _ _ _ _ h
  · cases h

/-- The part of `publish_dataset` that works on a stage. -/
def stageDataset (stage destination : Location) (reference : Text)
    (recordBytes payloadBytes : Bytes) : Host Text := do
  writePrivate stage [recordName] recordBytes
  writePrivate stage [payloadName] payloadBytes
  let _ ← loadDatasetDirectory stage reference
  commit stage destination reference .dataset (payloadBytes.length + recordBytes.length)

/-- A dataset that could not be published leaves at most its own entry. -/
theorem onError_stageDataset {stage destination : Location} (hStage : stage.area = .staging)
    (hStored : IsStored destination) (recordBytes payloadBytes : Bytes) :
    OnError (SettlesWithin (payloadBytes.length + recordBytes.length))
      (stageDataset stage destination (entryReference destination) recordBytes payloadBytes) := by
  have hWithin : ∀ {α : Type} {x : Host α}, Keeps (Settles ∅ ∅) x →
      Keeps (SettlesWithin (payloadBytes.length + recordBytes.length)) x :=
    fun hx => hx.mono (fun _ _ h _ => h)
  refine onError_bind (hWithin (keeps_settles_writePrivate hStage _ _)) (fun _ => ?_)
  refine onError_bind (hWithin (keeps_settles_writePrivate hStage _ _)) (fun _ => ?_)
  refine onError_bind (hWithin (keeps_settles_loadDatasetDirectory_staged hStage _)) (fun _ => ?_)
  exact onError_commit hStage hStored .dataset _

/-- A dataset that is staged and moved is on disk as it was written, and counted with its size. -/
theorem stageDataset_spec {stage destination : Location} {reference result : Text}
    {recordBytes payloadBytes : Bytes} (hStage : stage.area = .staging)
    (hDestination : destinationOf reference .dataset = .ok destination)
    (hMissing : w.Quiet → (w.disk.entry destination).bind Node.resolve = none)
    (hEmpty : w.Quiet → w.disk.entry stage = some emptyEntry)
    (h : (stageDataset stage destination reference recordBytes payloadBytes).run w =
      .ok result w') :
    result = reference ∧
      Registers (payloadBytes.length + recordBytes.length) destination reference w w' := by
  obtain ⟨-, hStored, -⟩ := destinationOf_spec hDestination
  -- The steps of the source: two files are written, read back, and committed.
  obtain ⟨_, t₁, hRecord, h⟩ := run_bind_eq_ok.1 h
  obtain ⟨_, t₂, hPayload, h⟩ := run_bind_eq_ok.1 h
  obtain ⟨loaded, t₃, hLoad, h⟩ := run_bind_eq_ok.1 h
  rw [run_loadDatasetDirectory_eq_ok] at hLoad
  have hFirst := (keeps_settles_writePrivate (X := ∅) (F := ∅) hStage _ _).ok hRecord
  have hSecond := IsTrans.trans (r := Settles ∅ ∅) _ _ _ hFirst
    ((keeps_settles_writePrivate hStage _ _).ok hPayload)
  have hReads := (keeps_reads_look _ _).ok hLoad
  have hThird := IsTrans.trans (r := Settles ∅ ∅) _ _ _ hSecond hReads.settles
  refine registers_of_commit hStage hStored hThird hMissing ?_ h
  intro t hQuiet hCarries hMoved
  have hQuiet₂ := hQuiet.congr hSecond.oracle
  -- The stage weighs what was written into it.
  have hStaged : EntryWeighs (t₂.disk.entry stage) (0 + recordBytes.length + payloadBytes.length) :=
    adds_writePrivate _ _ _ _ _ _ (hQuiet.congr hFirst.oracle) hPayload
      (adds_writePrivate _ _ _ _ _ _ hQuiet hRecord (by
        rw [hEmpty hQuiet]
        exact entryWeighs_emptyEntry))
  rw [Nat.zero_add, Nat.add_comm] at hStaged
  rw [hReads.disk hQuiet₂] at hMoved
  have hTakes : Takes (t.disk.entry destination) (payloadBytes.length + recordBytes.length) := by
    rw [hMoved]
    exact hStaged.takes
  refine ⟨.inl ⟨destination, loaded, ⟨hDestination, ?_⟩, _, hTakes⟩, hTakes⟩
  rw [hMoved, hCarries.limits, hReads.session]
  exact replay_of_look hQuiet₂ hLoad

/-- The frame of both publications: a stage, the work on it, and its removal. -/
theorem onError_staged {kind : String} {size : ℕ} {body : Location → Host Text}
    (hBody : ∀ stage : Location, stage.area = .staging → OnError (SettlesWithin size) (body stage))
    :
    OnError (Settles ∅ ∅) (do
      reserve size
      let stage ← newStage kind
      finallyDo (publicationGuard (body stage)) (removeStage stage)) := by
  intro v e v' h
  rcases run_bind_eq_error.1 h with hReserve | ⟨_, t, hReserve, hRest⟩
  · obtain ⟨-, -, rfl⟩ := run_raiseIf_eq_error.1 hReserve
    exact Std.Refl.refl _
  · obtain ⟨hRoom, rfl⟩ := run_raiseIf_eq_ok.1 hReserve
    rcases run_bind_eq_error.1 hRest with hNew | ⟨stage, t', hNew, hRest⟩
    · exact (keeps_settles_newStageFrom kind 100).error hNew
    · have hSettles := (keeps_settles_newStageFrom (X := ∅) (F := ∅) kind 100).ok hNew
      have hArea := (newStageFrom_spec kind hNew).1
      have hFrame : OnError (SettlesWithin size)
          (finallyDo (publicationGuard (body stage)) (removeStage stage)) :=
        onError_finallyDo (onError_publicationGuard (hBody stage hArea))
          ((keeps_settles_removeStage hArea).mono (fun _ _ h _ => h)) (removeStage_returns stage)
      exact IsTrans.trans _ _ _ hSettles (hFrame _ _ _ hRest (hSettles.hasRoom (not_lt.1 hRoom)))

/-- What a publication that works on a stage has done when it returns. -/
theorem run_staged_eq_ok {kind : String} {size : ℕ} {body : Location → Host Text} {result : Text}
    (h : (do
      reserve size
      let stage ← newStage kind
      finallyDo (publicationGuard (body stage)) (removeStage stage) : Host Text).run w
        = .ok result w') :
    ∃ stage t t', (newStage kind).run w = .ok stage t ∧ stage.area = .staging ∧
      (w.Quiet → t.disk.entry stage = some emptyEntry) ∧ (body stage).run t = .ok result t' ∧
      (removeStage stage).run t' = .ok () w' := by
  obtain ⟨_, t, hReserve, hRest⟩ := run_bind_eq_ok.1 h
  obtain ⟨-, rfl⟩ := run_raiseIf_eq_ok.1 hReserve
  obtain ⟨stage, t', hStage, hFrame⟩ := run_bind_eq_ok.1 hRest
  obtain ⟨t'', hBody, hRemove⟩ := run_finallyDo_eq_ok hFrame
  rw [run_publicationGuard_eq_ok] at hBody
  obtain ⟨hArea, hEmpty⟩ := newStageFrom_spec kind hStage
  exact ⟨stage, t', t'', hStage, hArea, hEmpty, hBody, hRemove⟩

/-- A new stage leaves what is missing missing. -/
theorem missing_of_newStage {kind : String} {stage destination : Location}
    (hStored : IsStored destination) (h : (newStage kind).run w = .ok stage w') (hQuiet : w.Quiet)
    (hMissing : (w.disk.entry destination).bind Node.resolve = none) :
    (w'.disk.entry destination).bind Node.resolve = none := by
  have hNew := (keeps_settles_newStageFrom (X := ∅) (F := ∅) kind 100).ok h
  rcases hNew.entries hQuiet destination hStored (Set.notMem_empty _) with hEq | ⟨hNone, -⟩
  · rw [hEq]
    exact hMissing
  · rw [hNone]
    rfl

/-- What a body does in a fresh stage, it does in the publication; the stage is removed afterwards. -/
theorem staged_spec {kind : String} {size octets : ℕ} {body : Location → Host Text}
    {destination : Location} {reference result : Text} (hStored : IsStored destination)
    (hMissing : w.Quiet → (w.disk.entry destination).bind Node.resolve = none)
    (hBody : ∀ (stage : Location) (v v' : World) (result : Text), stage.area = .staging →
      (v.Quiet → (v.disk.entry destination).bind Node.resolve = none) →
      (v.Quiet → v.disk.entry stage = some emptyEntry) → (body stage).run v = .ok result v' →
        result = reference ∧ Registers octets destination reference v v')
    (h : (do
      reserve size
      let stage ← newStage kind
      finallyDo (publicationGuard (body stage)) (removeStage stage) : Host Text).run w
        = .ok result w') :
    result = reference ∧ Registers octets destination reference w w' := by
  obtain ⟨stage, t, t', hStage, hArea, hEmpty, hBodyRun, hRemove⟩ := run_staged_eq_ok h
  have hNew := (keeps_settles_newStageFrom (X := ∅) (F := ∅) kind 100).ok hStage
  have hQuiet : t.Quiet → w.Quiet := fun hQuiet => hQuiet.congr hNew.oracle.symm
  obtain ⟨hResult, hRegisters⟩ := hBody stage t t' result hArea
    (fun hw => missing_of_newStage hStored hStage (hQuiet hw) (hMissing (hQuiet hw)))
    (fun hw => hEmpty (hQuiet hw)) hBodyRun
  exact ⟨hResult, (hRegisters.after hNew).before ((keeps_settles_removeStage hArea).ok hRemove)⟩

/-- A dataset publication that raises has settled. -/
theorem onError_publishDataset (payload record : Value) :
    OnError (Settles ∅ ∅) (publishDataset payload record) := by
  have hReads : ∀ {α : Type} {x : Host α}, Keeps Reads x → Keeps (Settles ∅ ∅) x :=
    fun hx => hx.mono (fun _ _ h => h.settles)
  unfold publishDataset
  refine onError_bind (hReads keeps_reads_requireOpen) (fun _ => ?_)
  refine onError_bind (keeps_lift _ _) (fun ⟨validatedRecord, payloadBytes, recordBytes⟩ => ?_)
  refine onError_bind keeps_get (fun v => ?_)
  refine onError_bind (keeps_raiseIf _ _) (fun _ => ?_)
  refine onError_bind (keeps_raiseIf _ _) (fun _ => ?_)
  refine onError_bind (keeps_lift _ _) (fun reference => ?_)
  refine onError_bind (keeps_raiseIf _ _) (fun _ => ?_)
  refine onError_lift_bind (fun destination hDestination => ?_)
  refine onError_bind (hReads (keeps_reads_observe _)) (fun found => ?_)
  refine onError_ite (fun _ => onError_republishDataset hDestination) (fun _ => ?_)
  obtain ⟨-, hStored, rfl⟩ := destinationOf_spec hDestination
  exact onError_staged (fun stage hStage =>
    onError_stageDataset hStage hStored recordBytes payloadBytes)

/-- What is known of a dataset publication that returns. -/
theorem publishDataset_spec {payload record : Value} {result : Text}
    (h : (publishDataset payload record).run w = .ok result w') :
    w.session.closed = false ∧ ∃ validatedRecord payloadBytes recordBytes destination,
      validateDatasetArguments payload record = .ok (validatedRecord, payloadBytes, recordBytes) ∧
        validatedRecord.reference = .ok result ∧ result ∉ w.session.corruptReferences ∧
        destinationOf result .dataset = .ok destination ∧
        Registers (payloadBytes.length + recordBytes.length) destination result w w' := by
  unfold publishDataset at h
  rw [run_requireOpen_bind_eq_ok, run_lift_bind_eq_ok] at h
  obtain ⟨hOpen, ⟨validatedRecord, payloadBytes, recordBytes⟩, hArguments, h⟩ := h
  simp only [run_get_bind, run_raiseIf_bind_eq_ok, run_lift_bind_eq_ok] at h
  obtain ⟨-, -, reference, hReference, hCorrupt, destination, hDestination, h⟩ := h
  obtain ⟨found, t, hFound, h⟩ := run_bind_eq_ok.1 h
  have hReads := (keeps_reads_observe _).ok hFound
  suffices hSpec : result = reference ∧
      Registers (payloadBytes.length + recordBytes.length) destination reference t w' by
    obtain ⟨rfl, hRegisters⟩ := hSpec
    exact ⟨hOpen, validatedRecord, payloadBytes, recordBytes, destination, hArguments, hReference,
      hCorrupt, hDestination, hRegisters.after hReads.settles⟩
  split at h
  · exact republishDataset_spec _ hDestination h
  · next hMissing =>
      obtain ⟨-, hStored, -⟩ := destinationOf_spec hDestination
      cases hFound
      refine staged_spec hStored (fun hQuiet => ?_) (fun stage v v' result hStage hMissing
        hEmpty h =>
        stageDataset_spec hStage hDestination hMissing hEmpty h) h
      rw [Bool.not_eq_true, Option.isSome_eq_false_iff, Option.isNone_iff_eq_none] at hMissing
      exact hMissing

/-! ## Publishing operations -/

/-- An operation that is there already is verified against its record and counted with its size. -/
theorem republishOperation_spec {destination : Location} {reference result : Text}
    {record : OperationRecord} {manifestBytes : Bytes} {members : List (Text × Bytes)} (octets : ℕ)
    (hDestination : destinationOf reference .operation = .ok destination)
    (h : (republishOperation destination reference record manifestBytes members).run w
      = .ok result w') :
    result = reference ∧ Registers octets destination reference w w' := by
  unfold republishOperation at h
  obtain ⟨loaded, t, hLoad, h⟩ := run_bind_eq_ok.1 h
  rw [run_corruptOnError_eq_ok] at hLoad
  rw [run_raiseIf_bind_eq_ok] at h
  obtain ⟨size, t', hSize, h⟩ := run_bind_eq_ok.1 h.2
  obtain ⟨u, t'', hRegister, h⟩ := run_bind_eq_ok.1 h
  cases h
  have hFirst := reads_of_loadOperationDirectory hLoad
  have hSecond := (keeps_reads_entrySize _).ok hSize
  have hBoth := IsTrans.trans (r := Reads) _ _ _ hFirst hSecond
  refine ⟨(run_loadOperationDirectory_eq_ok.1 hLoad).1, t', w', size, hBoth.settles, hRegister,
    Std.Refl.refl _, fun hQuiet => ?_, .inr ⟨t, t', hFirst.settles, hSize⟩⟩
  have hQuiet' := hQuiet.congr hFirst.oracle
  have hCarries := (hBoth.settles (F := ∅)).carries hQuiet
  obtain ⟨dataset, hSource, hReads⟩ := operationReads_of_run hQuiet hLoad
  have hTakes : Takes (t'.disk.entry destination) size := by
    rw [hSecond.disk hQuiet']
    exact takes_of_entrySize hQuiet' hSize
  refine ⟨hCarries, .inr ⟨destination, loaded,
    ⟨hDestination, dataset, hSource.carries hCarries, ?_⟩, size, hTakes⟩, hTakes⟩
  rw [hBoth.disk hQuiet, hBoth.session]
  exact hReads

/-- Republishing an operation settles nothing before it registers. -/
theorem onError_republishOperation {destination : Location} {reference : Text}
    (hDestination : destinationOf reference .operation = .ok destination) (record : OperationRecord)
    (manifestBytes : Bytes) (members : List (Text × Bytes)) :
    OnError (Settles ∅ ∅)
      (republishOperation destination reference record manifestBytes members) := by
  obtain ⟨-, hStored, rfl⟩ := destinationOf_spec hDestination
  refine onError_bind (keeps_settles_corruptOnError hStored
    (keeps_settles_loadOperationDirectory _ _)
    (fun h => (reads_of_loadOperationDirectory h).settles)) (fun loaded => ?_)
  refine onError_bind (keeps_raiseIf _ _) (fun _ => ?_)
  refine onError_bind ((keeps_reads_entrySize _).mono (fun _ _ h => h.settles)) (fun size => ?_)
  intro v e v' h
  rcases run_bind_eq_error.1 h with h | ⟨_, _, _, h⟩
  · exact onError_register _ _ _ _ _ h
  · cases h

/-- Both documents and all members are written in staging. -/
theorem keeps_settles_writeOperation {stage : Location} (hStage : stage.area = .staging)
    (restrictedByDefault : Bool) (recordBytes manifestBytes : Bytes)
    (members : List (Text × Bytes)) :
    Keeps (Settles X F)
      (writeOperation stage restrictedByDefault recordBytes manifestBytes members) := by
  refine keeps_bind (keeps_settles_writePrivate hStage _ _) (fun _ => ?_)
  refine keeps_bind (keeps_settles_change hStage _) (fun _ => ?_)
  refine keeps_bind (keeps_settles_writePrivate hStage _ _) (fun _ => ?_)
  exact keeps_settles_writeMembers hStage members

/-- What is written for an operation adds its record, its manifest and its members. -/
theorem adds_writeOperation {stage : Location} (hStage : stage.area = .staging)
    (restrictedByDefault : Bool) (recordBytes manifestBytes : Bytes)
    (members : List (Text × Bytes)) :
    Adds stage (recordBytes.length +
        (manifestBytes.length + (members.map (fun member => member.2.length)).sum))
      (writeOperation stage restrictedByDefault recordBytes manifestBytes members) := by
  have hBundle := Adds.bind (keeps_settles_change hStage _)
    (adds_createDirectories stage restrictedByDefault false [bundleName])
    (Adds.bind (keeps_settles_writePrivate hStage _ _)
      (adds_writePrivate stage [bundleName, manifestName] manifestBytes)
      (adds_writeMembers hStage members))
  rw [Nat.zero_add] at hBundle
  exact Adds.bind (keeps_settles_writePrivate hStage _ _)
    (adds_writePrivate stage [recordName] recordBytes) hBundle

/-- The part of `publish_operation` that works on a stage. -/
def stageOperation (stage destination : Location) (reference : Text) (record : OperationRecord)
    (restrictedByDefault : Bool) (recordBytes manifestBytes : Bytes) (members : List (Text × Bytes))
    (size : ℕ) : Host Text := do
  writeOperation stage restrictedByDefault recordBytes manifestBytes members
  let _ ← loadOperationDirectory stage reference
  if ← pathExists destination then
    republishOperation destination reference record manifestBytes members
  else commit stage destination reference .operation size

/-- An operation that could not be published leaves at most its own entry. -/
theorem onError_stageOperation {stage destination : Location} {reference : Text}
    (hStage : stage.area = .staging)
    (hDestination : destinationOf reference .operation = .ok destination) (record : OperationRecord)
    (restrictedByDefault : Bool) (recordBytes manifestBytes : Bytes) (members : List (Text × Bytes))
    (size : ℕ) :
    OnError (SettlesWithin size) (stageOperation stage destination reference record
      restrictedByDefault recordBytes manifestBytes members size) := by
  have hWithin : ∀ {α : Type} {x : Host α}, Keeps (Settles ∅ ∅) x → Keeps (SettlesWithin size) x :=
    fun hx => hx.mono (fun _ _ h _ => h)
  refine onError_bind (hWithin (keeps_settles_writeOperation hStage _ _ _ _)) (fun _ => ?_)
  refine onError_bind (hWithin (keeps_settles_loadOperationDirectory_staged hStage _)) (fun _ => ?_)
  refine onError_bind (hWithin ((keeps_reads_observe _).mono (fun _ _ h => h.settles)))
    (fun found => ?_)
  refine onError_ite (fun _ v e v' h _ => onError_republishOperation hDestination _ _ _ _ _ _ h)
    (fun _ => ?_)
  obtain ⟨-, hStored, rfl⟩ := destinationOf_spec hDestination
  exact onError_commit hStage hStored .operation size

/-- An operation that is staged and moved is on disk as it was written, and counted with its size. -/
theorem stageOperation_spec {stage destination : Location} {reference result : Text}
    {record : OperationRecord} {restrictedByDefault : Bool} {recordBytes manifestBytes : Bytes}
    {members : List (Text × Bytes)} {size : ℕ} (hStage : stage.area = .staging)
    (hSize : size = recordBytes.length +
      (manifestBytes.length + (members.map (fun member => member.2.length)).sum))
    (hDestination : destinationOf reference .operation = .ok destination)
    (hMissing : w.Quiet → (w.disk.entry destination).bind Node.resolve = none)
    (hEmpty : w.Quiet → w.disk.entry stage = some emptyEntry)
    (h : (stageOperation stage destination reference record restrictedByDefault recordBytes
      manifestBytes members size).run w = .ok result w') :
    result = reference ∧ Registers size destination reference w w' := by
  obtain ⟨-, hStored, -⟩ := destinationOf_spec hDestination
  obtain ⟨_, t₁, hWrite, h⟩ := run_bind_eq_ok.1 h
  obtain ⟨loaded, t₂, hLoad, h⟩ := run_bind_eq_ok.1 h
  obtain ⟨found, t₃, hFound, h⟩ := run_bind_eq_ok.1 h
  have hFirst := (keeps_settles_writeOperation (X := ∅) (F := ∅) hStage _ _ _ _).ok hWrite
  have hReads := IsTrans.trans (r := Reads) _ _ _ (reads_of_loadOperationDirectory hLoad)
    ((keeps_reads_observe _).ok hFound)
  have hBefore := IsTrans.trans (r := Settles ∅ ∅) _ _ _ hFirst hReads.settles
  -- Somebody else may have published the operation meanwhile; then it is published again, and
  -- otherwise the stage is moved.
  split at h
  · obtain ⟨hResult, hRegisters⟩ := republishOperation_spec size hDestination h
    exact ⟨hResult, hRegisters.after hBefore⟩
  · refine registers_of_commit hStage hStored hBefore hMissing ?_ h
    intro t hQuiet hCarries hMoved
    have hQuiet₁ := hQuiet.congr hFirst.oracle
    obtain ⟨dataset, hSource, hOperation⟩ := operationReads_of_run hQuiet₁ hLoad
    rw [hReads.disk hQuiet₁] at hMoved
    have hTakes : Takes (t.disk.entry destination) size := by
      have hStaged := adds_writeOperation hStage _ _ _ _ _ _ 0 hQuiet hWrite (by
        rw [hEmpty hQuiet]
        exact entryWeighs_emptyEntry)
      rw [Nat.zero_add, ← hSize] at hStaged
      rw [hMoved]
      exact hStaged.takes
    refine ⟨.inr ⟨destination, loaded, ⟨hDestination, dataset, ?_, ?_⟩, _, hTakes⟩, hTakes⟩
    · exact hSource.carries (((hReads.settles (F := ∅)).carries hQuiet₁).trans hCarries)
    · rw [hMoved, hCarries.limits, hReads.session]
      exact hOperation

/-- On a limited stack the manifest is validated as without a limit, or the validation stops for
want of a level. -/
theorem follows_validatedManifest (recursion : Recursion) (content : Bytes) :
    Follows (validatedManifestWithin recursion content) (validatedManifest content) := by
  refine (follows_strictJsonLoads recursion content _).bind (fun value => ?_)
  refine (follows_mapError _).bind (fun manifest => ?_)
  refine (recursion.follows_through _ _).bind (fun dumped => ?_)
  split_ifs
  · exact .inr rfl
  · exact .inr rfl

/-- So are the arguments of an operation publication. -/
theorem follows_operationArguments (recursion : Recursion) (record : Value) (manifestBytes : Bytes)
    (members : List (Text × Bytes)) :
    Follows (operationArgumentsWithin recursion record manifestBytes members)
      (validateOperationArguments record manifestBytes members) := by
  refine (recursion.follows_through _ _).bind (fun validatedRecord => ?_)
  refine (follows_validatedManifest recursion manifestBytes).bind (fun _ => ?_)
  refine (follows_mapError _).bind (fun memberCopy => ?_)
  exact (recursion.follows_through _ _).bind (fun recordBytes => .inr rfl)

/-- An operation publication that raises has settled. -/
theorem onError_publishOperation (record : Value) (manifestBytes : Bytes)
    (members : List (Text × Bytes)) :
    OnError (Settles ∅ ∅) (publishOperation record manifestBytes members) := by
  have hReads : ∀ {α : Type} {x : Host α}, Keeps Reads x → Keeps (Settles ∅ ∅) x :=
    fun hx => hx.mono (fun _ _ h => h.settles)
  unfold publishOperation
  refine onError_bind (hReads keeps_reads_requireOpen) (fun _ => ?_)
  refine onError_bind keeps_get (fun v => ?_)
  refine onError_bind (keeps_lift _ _) (fun ⟨validatedRecord, memberCopy, recordBytes⟩ => ?_)
  refine onError_bind (keeps_raiseIf _ _) (fun _ => ?_)
  refine onError_bind (keeps_raiseIf _ _) (fun _ => ?_)
  refine onError_bind (keeps_lift _ _) (fun reference => ?_)
  refine onError_bind (keeps_raiseIf _ _) (fun _ => ?_)
  refine onError_lift_bind (fun destination hDestination => ?_)
  refine onError_bind (hReads (keeps_reads_observe _)) (fun found => ?_)
  refine onError_ite (fun _ => onError_republishOperation hDestination _ _ _) (fun _ => ?_)
  exact onError_staged (fun stage hStage => onError_stageOperation hStage hDestination
    validatedRecord
    v.restrictedByDefault recordBytes manifestBytes memberCopy _)

/-- What is known of an operation publication that returns. -/
theorem publishOperation_spec {record : Value} {manifestBytes : Bytes}
    {members : List (Text × Bytes)}
    {result : Text} (h : (publishOperation record manifestBytes members).run w = .ok result w') :
    w.session.closed = false ∧ ∃ validatedRecord memberCopy recordBytes destination,
      validateOperationArguments record manifestBytes members
          = .ok (validatedRecord, memberCopy, recordBytes) ∧
        validatedRecord.reference = .ok result ∧ result ∉ w.session.corruptReferences ∧
        destinationOf result .operation = .ok destination ∧
        Registers (recordBytes.length + (manifestBytes.length +
          (memberCopy.map (fun member => member.2.length)).sum)) destination result w w' := by
  unfold publishOperation at h
  rw [run_requireOpen_bind_eq_ok, run_get_bind, run_lift_bind_eq_ok] at h
  obtain ⟨hOpen, ⟨validatedRecord, memberCopy, recordBytes⟩, hWithin, h⟩ := h
  have hArguments := (follows_operationArguments w.recursion record manifestBytes members).ok
    hWithin
  simp only [run_raiseIf_bind_eq_ok, run_lift_bind_eq_ok] at h
  obtain ⟨-, -, reference, hReference, hCorrupt, destination, hDestination, h⟩ := h
  obtain ⟨found, t, hFound, h⟩ := run_bind_eq_ok.1 h
  have hReads := (keeps_reads_observe _).ok hFound
  suffices hSpec : result = reference ∧ Registers (recordBytes.length + (manifestBytes.length +
      (memberCopy.map (fun member => member.2.length)).sum)) destination reference t w' by
    obtain ⟨rfl, hRegisters⟩ := hSpec
    exact ⟨hOpen, validatedRecord, memberCopy, recordBytes, destination, hArguments, hReference,
      hCorrupt, hDestination, hRegisters.after hReads.settles⟩
  split at h
  · exact republishOperation_spec _ hDestination h
  · next hMissing =>
      obtain ⟨-, hStored, -⟩ := destinationOf_spec hDestination
      cases hFound
      refine staged_spec hStored (fun hQuiet => ?_) (fun stage v v' result hStage hMissing
        hEmpty h =>
        stageOperation_spec hStage rfl hDestination hMissing hEmpty h) h
      rw [Bool.not_eq_true, Option.isSome_eq_false_iff, Option.isNone_iff_eq_none] at hMissing
      exact hMissing

/-! ## Publishing what is there already -/

/-- In a quiet world, a directory exists. -/
theorem run_pathExists_of_directory {loc : Location} {info : Meta} {entries : Entries}
    (hQuiet : w.Quiet) (hEntry : w.disk.entry loc = some (.directory info entries)) :
    (pathExists loc).run w = .ok true w.stir := by
  show EStateM.Result.ok (((w.stir.disk.entry loc).bind Node.resolve).isSome) w.stir = _
  rw [(reads_stir w).disk hQuiet, hEntry]
  rfl

/-- In a calm world, an entry that can be measured has a size. -/
theorem run_entrySize_of_measured {loc : Location} (hCalm : w.Calm)
    (hMeasured : Measured (w.disk.entry loc)) :
    ∃ size w', (entrySize loc).run w = .ok size w' ∧ Reads w w' := by
  obtain ⟨size, hSize⟩ := hMeasured
  have hLook : ∃ w', Reads w w' ∧ (entrySize loc).run w = .ok size w' := by
    refine run_look_of_replay hCalm ?_
    rw [Probe.replay_mapError, Except.mapError_eq_ok, Probe.replay_query]
    exact hSize
  obtain ⟨w', hReads, hRun⟩ := hLook
  exact ⟨size, w', hRun, hReads⟩

/-- The two kinds of reference differ. -/
theorem makeReference_kind_ne (left right : Text) :
    makeReference .dataset left ≠ makeReference .operation right := by
  intro h
  have hScheme : py (RecordKind.dataset.scheme) = py (RecordKind.operation.scheme) := by
    unfold makeReference at h
    rw [List.append_assoc, List.append_assoc] at h
    exact (List.append_inj h (by decide)).1
  exact absurd hScheme (by decide)

/-- In a calm world, publishing a dataset that is registered and intact returns its reference. -/
theorem run_publishDataset_of_intact {payload record : Value} {validatedRecord : DatasetRecord}
    {payloadBytes recordBytes : Bytes} {reference : Text} (hCalm : w.Calm)
    (hOpen : w.session.closed = false) (hArguments : validateDatasetArguments payload record
      = .ok (validatedRecord, payloadBytes, recordBytes))
    (hPayload : payloadBytes.length ≤ w.session.limits.datasetPayloadBytes)
    (hRecord : recordBytes.length ≤ w.session.limits.recordBytes)
    (hReference : validatedRecord.reference = .ok reference)
    (hRegistered : reference ∈ w.session.references)
    (hCorrupt : reference ∉ w.session.corruptReferences) {loc : Location} {stored : StoredDataset}
    (hOnDisk : DatasetOnDisk w reference loc stored) (hMeasured : Measured (w.disk.entry loc)) :
    ∃ w', (publishDataset payload record).run w = .ok reference w' := by
  obtain ⟨⟨info, entries, hEntry⟩, -⟩ := replay_readDataset hOnDisk.verified
  -- Nothing interferes, so that the entry still verifies when it is looked at.
  have hStir := reads_stir w
  have hCalm₁ := hCalm.congr hStir.oracle
  have hOnDisk₁ : DatasetOnDisk w.stir reference loc stored :=
    hOnDisk.carries ((hStir.settles (F := ∅)).carries hCalm.quiet) hCorrupt
  obtain ⟨t, hReads, hLoad⟩ := run_loadDatasetDirectory_of_onDisk hCalm₁ hOnDisk₁
  have hBoth := IsTrans.trans (r := Reads) _ _ _ hStir hReads
  obtain ⟨size, w', hSize, hReads'⟩ := run_entrySize_of_measured (hCalm.congr hBoth.oracle) (by
    rw [hBoth.disk hCalm.quiet]
    exact hMeasured)
  have hVerify :=
    verifyDataset_eq_ok.1 (replay_readDataset hOnDisk.verified).2.choose_spec.choose_spec
  refine ⟨w', ?_⟩
  -- The steps of the source: the arguments, the limits, the destination, and the entry that
  -- stands there.
  unfold publishDataset
  rw [run_requireOpen_bind_eq_ok, run_lift_bind_eq_ok]
  simp only [run_get_bind, run_raiseIf_bind_eq_ok, run_lift_bind_eq_ok]
  refine ⟨hOpen, _, hArguments, not_lt.2 hPayload, not_lt.2 hRecord, reference, hReference,
    hCorrupt, loc, hOnDisk.destination, run_bind_eq_ok.2 ⟨true, w.stir,
      run_pathExists_of_directory hCalm.quiet hEntry, ?_⟩⟩
  refine run_bind_eq_ok.2 ⟨stored, t, run_corruptOnError_eq_ok.2 hLoad, ?_⟩
  refine run_bind_eq_ok.2 ⟨size, w', hSize, ?_⟩
  refine run_bind_eq_ok.2 ⟨(), w', run_register_eq_ok.2 (.inl ⟨?_, rfl⟩), ?_⟩
  · rw [hReads'.session, hBoth.session]
    exact hRegistered
  · rw [hVerify.1]
    rfl

end SessionCas
