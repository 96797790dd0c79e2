import DefinedQuant.Shared.SessionCursor

/-!
# What the steps of a session can do

`Reads` is a run that only looks, and `Settles` one that registers nothing: the session keeps its
references and its accounting, and a stored entry stays where it is unless it goes to quarantine
with its reference marked corrupt. Both hold of every part of a publication but the rename and the
registration, however the files are changed and whichever steps fail.

`Settles X F` exempts the locations `X` from what is said about entries, and the references `F` from
what is said about failed verifications: every other failure is marked by the time the run ends.
-/

namespace SessionCas

open Json DataRecords HostFailures LocalHost OperationRecords FileTree Effect

/-! ## References and locations -/

/-- The areas of stored entries. -/
def IsStored (loc : Location) : Prop := loc.area = .datasets ∨ loc.area = .operations

/-- A stored location lies neither in the staging area nor in the quarantine. -/
theorem IsStored.area_ne {loc : Location} (h : IsStored loc) :
    loc.area ≠ .staging ∧ loc.area ≠ .quarantine := by
  rcases h with h | h <;> rw [h] <;> decide

/-- The reference that an entry is stored under. -/
def entryReference (loc : Location) : Text :=
  match loc.area with
  | .datasets => makeReference .dataset loc.name
  | .operations => makeReference .operation loc.name
  | _ => []

/-- A reference consists of its three parts. -/
theorem eq_of_matchReference {reference : Text} {parsed : ParsedReference}
    (h : matchReference reference = some parsed) :
    reference = py parsed.kind.scheme ++ py ":v" ++ parsed.versionToken ++ py ":" ++
      parsed.digest := by
  -- The parts of the split, joined again, are the reference.
  have hJoin : [(0x3A : CodePoint)].intercalate (Protocol.split 0x3A reference) = reference :=
    List.intercalate_splitOn _
  unfold matchReference at h
  split at h
  · next scheme version digest hSplit =>
      rw [hSplit] at hJoin
      split at h
      · next kind token hKind =>
          by_cases hParts : (isVersionToken token && Protocol.isSha256 digest) = true
          · rw [if_pos hParts] at h
            cases h
            have hScheme : scheme = py kind.scheme := by
              by_cases hDataset : scheme = py "dqds"
              · rw [if_pos hDataset] at hKind
                cases hKind
                exact hDataset
              · rw [if_neg hDataset] at hKind
                by_cases hOperation : scheme = py "dqop"
                · rw [if_pos hOperation] at hKind
                  cases hKind
                  exact hOperation
                · rw [if_neg hOperation] at hKind
                  cases hKind
            rw [← hJoin, hScheme]
            simp [List.intercalate, py]
            decide
          · rw [if_neg hParts] at h
            cases h
      · cases h
  · cases h

/-- A reference made from a digest is matched as what it was made from. -/
theorem matchReference_makeReference (kind : RecordKind) {digest : Text}
    (hDigest : Protocol.isSha256 digest = true) :
    matchReference (makeReference kind digest) = some ⟨kind, py "1", digest⟩ := by
  have hColon : (0x3A : CodePoint) ∉ digest := by
    intro hMem
    rw [Protocol.isSha256, Bool.and_eq_true, List.all_eq_true] at hDigest
    exact absurd (hDigest.2 _ hMem) (by decide)
  have hJoin : makeReference kind digest = [(0x3A : CodePoint)].intercalate
      [py kind.scheme, py "v1", digest] := by
    cases kind <;> simp [makeReference, List.intercalate, py] <;> decide
  have hSplit : Protocol.split 0x3A (makeReference kind digest)
      = [py kind.scheme, py "v1", digest] := by
    rw [hJoin]
    refine List.splitOn_intercalate _ ?_ (List.cons_ne_nil _ _)
    intro part hPart
    simp only [List.mem_cons, List.not_mem_nil, or_false] at hPart
    rcases hPart with rfl | rfl | rfl
    · cases kind <;> decide
    · decide
    · exact hColon
  unfold matchReference
  rw [hSplit]
  have hToken : (isVersionToken (py "1") && Protocol.isSha256 digest) = true := by
    rw [hDigest]
    decide
  cases kind <;> exact if_pos hToken

/-- A reference made of a digest leads to the location of that digest. -/
theorem destinationOf_makeReference (kind : RecordKind) {digest : Text}
    (hDigest : Protocol.isSha256 digest = true) :
    destinationOf (makeReference kind digest) kind = .ok ⟨areaOf kind, digest⟩ := by
  unfold destinationOf referenceParts
  rw [matchReference_makeReference kind hDigest]
  simp only [ne_eq, not_true_eq_false, if_false, Option.any_some, decide_false, Bool.false_eq_true]
  rfl

/-- A reference that leads somewhere has the parts of a reference. -/
theorem referenceParts_of_destinationOf {reference : Text} {kind : RecordKind} {loc : Location}
    (h : destinationOf reference kind = .ok loc) :
    ∃ parts, referenceParts reference none = .ok parts := by
  obtain ⟨parts, hParts, -⟩ := Except.bind_eq_ok.1 h
  unfold referenceParts at hParts ⊢
  split at hParts
  · cases hParts
  · next parsed hMatch =>
      split_ifs at hParts with hVersion
      refine ⟨(parsed.kind, parsed.digest), ?_⟩
      simp only [if_neg hVersion, Option.any_none, Bool.false_eq_true, if_false]

/-- The destination of a reference is stored under that reference. -/
theorem destinationOf_spec {reference : Text} {kind : RecordKind} {loc : Location}
    (h : destinationOf reference kind = .ok loc) :
    loc.area = areaOf kind ∧ IsStored loc ∧ entryReference loc = reference := by
  unfold destinationOf referenceParts at h
  split at h
  · cases h
  · next parsed hMatch =>
      have hReference := eq_of_matchReference hMatch
      by_cases hVersion : parsed.versionToken ≠ py "1"
      · rw [if_pos hVersion] at h
        cases h
      · rw [if_neg hVersion] at h
        by_cases hKind : parsed.kind = kind
        · simp only [Option.any_some, hKind, ne_eq, not_true_eq_false, decide_false,
            Bool.false_eq_true, if_false] at h
          cases h
          rw [not_not.1 hVersion, hKind] at hReference
          refine ⟨rfl, ?_, ?_⟩
          · cases kind
            · exact .inl rfl
            · exact .inr rfl
          · rw [hReference]
            cases kind <;> simp [entryReference, areaOf, makeReference, py]
        · simp only [Option.any_some, ne_eq, hKind, not_false_eq_true, decide_true, if_true] at h
          cases h

/-! ## Looking -/

/-- The outside leaves the files alone. -/
def World.Quiet (w : World) : Prop := ∀ tick disk, w.oracle.env tick disk = disk

/-- A run that only looks. The disk may change from outside. -/
structure Reads (w w' : World) : Prop where
  oracle : w'.oracle = w.oracle
  restrictedByDefault : w'.restrictedByDefault = w.restrictedByDefault
  registry : w'.registry = w.registry
  session : w'.session = w.session
  disk : w.Quiet → w'.disk = w.disk

/-- Quietness is about the oracle only. -/
theorem World.Quiet.congr {w w' : World} (h : w.Quiet) (hOracle : w'.oracle = w.oracle) :
    w'.Quiet := by
  intro tick disk
  rw [hOracle]
  exact h tick disk

instance : Std.Refl Reads where
  refl _ := ⟨rfl, rfl, rfl, rfl, fun _ => rfl⟩

instance : IsTrans World Reads where
  trans _ _ _ h h' :=
    ⟨h'.oracle.trans h.oracle, h'.restrictedByDefault.trans h.restrictedByDefault,
      h'.registry.trans h.registry, h'.session.trans h.session,
      fun hQuiet => (h'.disk (hQuiet.congr h.oracle)).trans (h.disk hQuiet)⟩

/-- Time that passes outside is a read. -/
theorem reads_stir (w : World) : Reads w w.stir := ⟨rfl, rfl, rfl, rfl, fun h => h _ _⟩

/-- Asking the file system is a read. -/
theorem keeps_reads_ask (loc : Location) {γ : Type} (q : Query γ) : Keeps Reads (ask loc q) := by
  intro w
  show Reads w (final (ask loc q w))
  unfold ask
  split
  · exact reads_stir w
  · split <;> exact reads_stir w

/-- So is a whole look. -/
theorem keeps_reads_look {α : Type} (loc : Location) (program : Look α) :
    Keeps Reads (look loc program) := Probe.keeps_perform (fun q => keeps_reads_ask loc q) program

/-- So is an observation of the disk. -/
theorem keeps_reads_observe {α : Type} (f : Disk → α) : Keeps Reads (observe f) :=
  fun w => reads_stir w

/-- So is drawing a token. -/
theorem keeps_reads_tokenHex : Keeps Reads tokenHex := fun _ => ⟨rfl, rfl, rfl, rfl, fun _ => rfl⟩

/-- In a quiet world a program that returns has seen the entry as it stands. -/
theorem replay_of_look {α : Type} {loc : Location} {program : Look α} {w w' : World} {a : α}
    (hQuiet : w.Quiet) (h : (look loc program).run w = .ok a w') :
    program.replay (answer (w.disk.entry loc)) = .ok a := by
  have hStep : ∀ {γ : Type} (q : Query γ) {s s' : World} {c : γ},
      s.Quiet ∧ s.disk.entry loc = w.disk.entry loc → (ask loc q).run s = .ok c s' →
        (s'.Quiet ∧ s'.disk.entry loc = w.disk.entry loc) ∧
          answer (w.disk.entry loc) q = .ok c := by
    intro γ q s s' c hs hRun
    have hReads := (keeps_reads_ask loc q).ok hRun
    refine ⟨⟨hs.1.congr hReads.oracle, by rw [hReads.disk hs.1, hs.2]⟩, ?_⟩
    have hStir : s.stir.disk.entry loc = w.disk.entry loc := by
      rw [(reads_stir s).disk hs.1, hs.2]
    change ask loc q s = _ at hRun
    unfold ask at hRun
    split at hRun
    · cases hRun
    · split at hRun
      · next hAnswer =>
          cases hRun
          rw [← hStir]
          exact hAnswer
      · cases hRun
  exact Probe.replay_of_perform hStep program ⟨hQuiet, rfl⟩ h

/-! ## Settling -/

/-- A stored entry that has gone to quarantine: its reference is marked, and what it held is kept. -/
def Quarantined (loc : Location) (w w' : World) : Prop :=
  w'.disk.entry loc = none ∧ entryReference loc ∈ w'.session.corruptReferences ∧
    ∃ target : Location, target.area = .quarantine ∧ w'.disk.entry target = w.disk.entry loc

/-- A run that registers nothing. -/
structure Settles (X : Set Location) (F : Set Text) (w w' : World) : Prop where
  oracle : w'.oracle = w.oracle
  restrictedByDefault : w'.restrictedByDefault = w.restrictedByDefault
  registry : w'.registry = w.registry
  session : w'.session = { w.session with
    corruptReferences := w'.session.corruptReferences
    failures := w'.session.failures }
  corrupt : w.session.corruptReferences ⊆ w'.session.corruptReferences
  failures : w.session.failures ⊆ w'.session.failures
  marked : ∀ r ∈ w'.session.failures, r ∉ w'.session.corruptReferences →
    r ∈ F ∨ (r ∈ w.session.failures ∧ r ∉ w.session.corruptReferences)
  entries : w.Quiet → ∀ loc, IsStored loc → loc ∉ X →
    w'.disk.entry loc = w.disk.entry loc ∨ Quarantined loc w w'
  kept : w.Quiet → ∀ loc : Location, loc.area = .quarantine → w.disk.entry loc ≠ none →
    w'.disk.entry loc = w.disk.entry loc

section Settles

variable {X : Set Location} {F : Set Text} {w w' : World}

instance : Std.Refl (Settles X F) where
  refl _ := ⟨rfl, rfl, rfl, rfl, subset_rfl, subset_rfl, fun _ h h' => .inr ⟨h, h'⟩,
    fun _ _ _ _ => .inl rfl, fun _ _ _ _ => rfl⟩

instance : IsTrans World (Settles X F) where
  trans a b c h h' := by
    refine ⟨h'.oracle.trans h.oracle, h'.restrictedByDefault.trans h.restrictedByDefault,
      h'.registry.trans h.registry, ?_, h.corrupt.trans h'.corrupt, h.failures.trans h'.failures,
      ?_, ?_, ?_⟩
    · rw [h'.session, h.session]
    · intro r hr hCorrupt
      rcases h'.marked r hr hCorrupt with hF | ⟨hr, hCorrupt⟩
      · exact .inl hF
      · exact h.marked r hr hCorrupt
    · intro hQuiet loc hStored hX
      have hQuiet' := hQuiet.congr h.oracle
      by_cases hNone : a.disk.entry loc = none
      · left
        rcases h.entries hQuiet loc hStored hX with hEq | ⟨hGone, -⟩ <;>
          rcases h'.entries hQuiet' loc hStored hX with hEq' | ⟨hGone', -⟩ <;> simp_all
      · rcases h.entries hQuiet loc hStored hX with hEq | ⟨hGone, hMark, target, hArea, hTarget⟩
        · rcases h'.entries hQuiet' loc hStored hX with hEq' | ⟨hGone', hMark', target, hArea,
            hTarget⟩
          · exact .inl (hEq'.trans hEq)
          · exact .inr ⟨hGone', hMark', target, hArea, hTarget.trans hEq⟩
        · refine .inr ⟨?_, h'.corrupt hMark, target, hArea, ?_⟩
          · rcases h'.entries hQuiet' loc hStored hX with hEq' | ⟨hGone', -⟩
            · exact hEq'.trans hGone
            · exact hGone'
          · rw [h'.kept hQuiet' target hArea (by rw [hTarget]; exact hNone), hTarget]
    · intro hQuiet loc hArea hNone
      have hEq := h.kept hQuiet loc hArea hNone
      rw [h'.kept (hQuiet.congr h.oracle) loc hArea (by rw [hEq]; exact hNone), hEq]

/-- A step may be allowed to settle more. -/
theorem Settles.mono {Y : Set Location} {G : Set Text} (h : Settles X F w w') (hX : X ⊆ Y)
    (hF : F ⊆ G) : Settles Y G w w' :=
  ⟨h.oracle, h.restrictedByDefault, h.registry, h.session, h.corrupt, h.failures,
    fun r hr hc => (h.marked r hr hc).imp_left (fun hr => hF hr),
    fun hQuiet loc hStored hY => h.entries hQuiet loc hStored (fun hLoc => hY (hX hLoc)), h.kept⟩

/-- A read settles nothing. -/
theorem Reads.settles (h : Reads w w') : Settles X F w w' := by
  refine ⟨h.oracle, h.restrictedByDefault, h.registry, ?_, ?_, ?_, ?_, ?_, ?_⟩
  · rw [h.session]
  · rw [h.session]
  · rw [h.session]
  · intro r hr hc
    rw [h.session] at hr hc
    exact .inr ⟨hr, hc⟩
  · intro hQuiet loc _ _
    rw [h.disk hQuiet]
    exact .inl rfl
  · intro hQuiet loc _ _
    rw [h.disk hQuiet]

/-- Settling registers no reference. -/
theorem Settles.references (h : Settles X F w w') :
    w'.session.references = w.session.references := by rw [h.session]

/-- Settling counts no byte. -/
theorem Settles.usedBytes (h : Settles X F w w') : w'.session.usedBytes = w.session.usedBytes := by
  rw [h.session]

/-- Settling counts no entry. -/
theorem Settles.counted (h : Settles X F w w') : w'.session.counted = w.session.counted := by
  rw [h.session]

/-- Settling changes no limit. -/
theorem Settles.limits (h : Settles X F w w') : w'.session.limits = w.session.limits := by
  rw [h.session]

/-- Settling closes nothing. -/
theorem Settles.closed (h : Settles X F w w') : w'.session.closed = w.session.closed := by
  rw [h.session]

/-- Settling keeps the identity of the session. -/
theorem Settles.sessionId (h : Settles X F w w') : w'.session.sessionId = w.session.sessionId := by
  rw [h.session]

/-- Settling keeps the key of the cursors. -/
theorem Settles.cursorKey (h : Settles X F w w') : w'.session.cursorKey = w.session.cursorKey := by
  rw [h.session]

/-- Changing an entry of the staging area settles. -/
theorem keeps_settles_change {loc : Location} (hLoc : loc.area = .staging)
    (f : Option Node → Except Raised (Option Node)) : Keeps (Settles X F) (change loc f) := by
  have hSet : ∀ (w : World) (node : Option Node),
      Settles X F w { w.stir with disk := w.stir.disk.set loc node } := by
    intro w node
    have hOther : w.Quiet → ∀ loc' : Location, loc'.area ≠ .staging →
        Function.update w.stir.disk.entry loc node loc' = w.disk.entry loc' := by
      intro hQuiet loc' hArea
      have hNe : loc' ≠ loc := fun hEq => hArea (hEq ▸ hLoc)
      rw [Function.update_of_ne hNe, (reads_stir w).disk hQuiet]
    refine ⟨rfl, rfl, rfl, rfl, subset_rfl, subset_rfl, fun r hr hc => .inr ⟨hr, hc⟩, ?_, ?_⟩
    · intro hQuiet loc' hStored _
      exact .inl (hOther hQuiet loc' hStored.area_ne.1)
    · intro hQuiet loc' hArea _
      exact hOther hQuiet loc' (by rw [hArea]; decide)
  intro w
  show Settles X F w (final (change loc f w))
  unfold change
  split
  · exact hSet w _
  · split
    · exact hSet w _
    · exact (reads_stir w).settles

/-- A failed verification of a stored entry leaves its reference to be marked. -/
theorem keeps_settles_verifying {α : Type} {loc : Location} {reference : Text} {x : Host α}
    (hx : Keeps (Settles X F) x) :
    Keeps (Settles X (insert reference F)) (verifying loc reference x) := by
  refine keeps_rescue (hx.mono (fun _ _ h => h.mono subset_rfl (Set.subset_insert _ _)))
    (fun e => ?_)
  refine keeps_bind (keeps_modify (fun w => ?_)) (fun _ => keeps_throw e)
  split_ifs
  · exact Std.Refl.refl w
  · refine ⟨rfl, rfl, rfl, rfl, subset_rfl, Finset.subset_insert _ _, ?_, fun _ _ _ _ => .inl rfl,
      fun _ _ _ _ => rfl⟩
    intro r hr hc
    rcases Finset.mem_insert.1 hr with rfl | hr
    · exact .inl (Set.mem_insert _ _)
    · exact .inr ⟨hr, hc⟩

/-- A failed verification of a staged copy does not count. -/
theorem keeps_settles_verifying_staged {α : Type} {loc : Location} (hLoc : loc.area = .staging)
    {reference : Text} {x : Host α} (hx : Keeps (Settles X F) x) :
    Keeps (Settles X F) (verifying loc reference x) := by
  refine keeps_rescue hx (fun e => ?_)
  refine keeps_bind (keeps_modify (fun w => ?_)) (fun _ => keeps_throw e)
  rw [if_pos hLoc]
  exact Std.Refl.refl w

/-- A verification that succeeds is the program verified. -/
theorem run_verifying_eq_ok {α : Type} {loc : Location} {reference : Text} {x : Host α} {a : α} :
    (verifying loc reference x).run w = .ok a w' ↔ x.run w = .ok a w' := by
  unfold verifying
  rw [run_rescue_eq_ok]
  constructor
  · rintro (h | ⟨e, t, -, h⟩)
    · exact h
    · obtain ⟨u, t', -, h⟩ := run_bind_eq_ok.1 h
      cases h
  · exact .inl

/-! ## Quarantine -/

/-- Ignoring the errors of the file system keeps what the program keeps. -/
theorem keeps_ignoreFilesystem {R : World → World → Prop} [Std.Refl R] [IsTrans World R]
    {x : Host Unit} (hx : Keeps R x) : Keeps R (ignoreFilesystem x) := by
  refine keeps_rescue hx (fun e => ?_)
  split
  · exact keeps_pure ()
  · exact keeps_throw _

/-- Marking a reference corrupt settles it. -/
theorem settles_markCorrupt (w : World) (reference : Text) :
    Settles X F w (w.markCorrupt reference) := by
  refine ⟨rfl, rfl, rfl, rfl, Finset.subset_insert _ _, subset_rfl, ?_, fun _ _ _ _ => .inl rfl,
    fun _ _ _ _ => rfl⟩
  intro r hr hc
  exact .inr ⟨hr, fun h => hc (Finset.mem_insert_of_mem h)⟩

/-- Moving a stored entry to quarantine settles once its reference is marked. -/
theorem settles_rename {source destination : Location}
    (hDestination : destination.area = .quarantine)
    (hSource : IsStored source) (hCorrupt : entryReference source ∈ w.session.corruptReferences)
    (h : final ((publishDirectoryNoReplace source destination).run w) = w') :
    Settles X F w w' := by
  change final (publishDirectoryNoReplace source destination w) = w' at h
  unfold publishDirectoryNoReplace at h
  -- A rename that fails has changed nothing.
  split at h
  · rw [← h]
    exact (reads_stir w).settles
  · split at h
    · next disk hDisk =>
        rw [← h]
        unfold renameEntry at hDisk
        split at hDisk
        · cases hDisk
        · cases hDisk
        · next node hNode hFree =>
            cases hDisk
            have hNe : ∀ loc, IsStored loc → loc ≠ destination := by
              rintro loc hLoc rfl
              exact hLoc.area_ne.2 hDestination
            refine ⟨rfl, rfl, rfl, rfl, subset_rfl, subset_rfl, fun r hr hc => .inr ⟨hr, hc⟩,
              ?_, ?_⟩
            -- The entry that was moved is corrupt and now in the quarantine; every other entry
            -- stays.
            · intro hQuiet loc hStored _
              by_cases hLoc : loc = source
              · refine .inr ⟨?_, by rw [hLoc]; exact hCorrupt, destination, hDestination, ?_⟩
                · show Function.update (Function.update w.stir.disk.entry source none) destination _
                    loc = _
                  rw [Function.update_of_ne (hNe loc hStored), hLoc, Function.update_self]
                · show Function.update (Function.update w.stir.disk.entry source none) destination _
                    destination = _
                  rw [Function.update_self, hLoc, ← hNode, (reads_stir w).disk hQuiet]
              · left
                show Function.update (Function.update w.stir.disk.entry source none) destination _
                  loc = _
                rw [Function.update_of_ne (hNe loc hStored), Function.update_of_ne hLoc,
                  (reads_stir w).disk hQuiet]
            · intro hQuiet loc hArea hSome
              rw [(reads_stir w).disk hQuiet] at hFree
              have hNe' : loc ≠ destination := fun hEq => hSome (hEq ▸ hFree)
              have hNe'' : loc ≠ source := fun hEq => hSource.area_ne.2 (hEq ▸ hArea)
              show Function.update (Function.update w.stir.disk.entry source none) destination _
                loc = _
              rw [Function.update_of_ne hNe', Function.update_of_ne hNe'',
                (reads_stir w).disk hQuiet]
    · rw [← h]
      exact (reads_stir w).settles

/-- A run that settles once a reference is marked. -/
def SettlesMarked (X : Set Location) (F : Set Text) (reference : Text) (w w' : World) : Prop :=
  reference ∈ w.session.corruptReferences → Settles X F w w'

instance (reference : Text) : Std.Refl (SettlesMarked X F reference) where
  refl w := fun _ => Std.Refl.refl w

instance (reference : Text) : IsTrans World (SettlesMarked X F reference) where
  trans _ _ _ h h' := fun hMark => IsTrans.trans _ _ _ (h hMark) (h' ((h hMark).corrupt hMark))

/-- What a quarantine leaves behind: the reference is marked, and the entry may have gone. -/
theorem quarantine_spec {destination : Location} (hStored : IsStored destination) (w : World) :
    Settles X F w (final ((quarantine destination (entryReference destination)).run w)) ∧
      entryReference destination ∈
        (final ((quarantine destination (entryReference destination)).run
          w)).session.corruptReferences := by
  have hMark : entryReference destination ∈
      (w.markCorrupt (entryReference destination)).session.corruptReferences :=
    Finset.mem_insert_self _ _
  have hReads : ∀ {α : Type} {x : Host α}, Keeps Reads x →
      Keeps (SettlesMarked X F (entryReference destination)) x :=
    fun hx => hx.mono (fun _ _ h _ => h.settles)
  have hMove : ∀ token, Keeps (SettlesMarked X F (entryReference destination))
      (ignoreFilesystem (publishDirectoryNoReplace destination
        (quarantineTarget destination token))) := by
    intro token
    exact keeps_ignoreFilesystem (fun v hv => settles_rename rfl hStored hv rfl)
  have hRest : Keeps (SettlesMarked X F (entryReference destination)) (do
      if ← pathExists destination then
        if ← isSymlink destination then return
        else
          let token ← tokenHex
          ignoreFilesystem (publishDirectoryNoReplace destination
            (quarantineTarget destination token))
      else return) := by
    refine keeps_bind (hReads (keeps_reads_observe _)) (fun found => ?_)
    refine keeps_ite (fun _ => ?_) (fun _ => keeps_pure _)
    refine keeps_bind (hReads (keeps_reads_observe _)) (fun link => ?_)
    refine keeps_ite (fun _ => keeps_pure _) (fun _ => ?_)
    exact keeps_bind (hReads keeps_reads_tokenHex) hMove
  have hSettles := hRest (w.markCorrupt (entryReference destination)) hMark
  exact ⟨IsTrans.trans _ _ _ (settles_markCorrupt w _) hSettles, hSettles.corrupt hMark⟩

/-- A failed verification that is answered by quarantine, and an error after it, settles. -/
theorem keeps_settles_rescue {α : Type} {destination : Location} {x : Host α}
    {handler : Raised → Host α} (hStored : IsStored destination) (hHandler : ∀ e, ∃ e', handler e
      = quarantine destination (entryReference destination) >>= fun _ => throw e')
    (hx : Keeps (Settles X (insert (entryReference destination) F)) x)
    (hOk : ∀ {w w' : World} {a : α}, x.run w = .ok a w' → Settles X F w w') :
    Keeps (Settles X F) (rescue x handler) := by
  intro w
  rw [run_rescue]
  cases hRun : x.run w with
  | ok a t => exact hOk hRun
  | error e t =>
      have hFirst := hx.error hRun
      obtain ⟨hSettles, hMark⟩ := quarantine_spec (X := X) (F := F) hStored t
      obtain ⟨e', hThrow⟩ := hHandler e
      have hFinal : final ((handler e).run t)
          = final ((quarantine destination (entryReference destination)).run t) := by
        rw [hThrow, run_bind]
        cases (quarantine destination (entryReference destination)).run t <;> rfl
      show Settles X F w (final ((handler e).run t))
      rw [hFinal]
      have hBoth := IsTrans.trans (r := Settles X (insert (entryReference destination) F)) _ _ _
        hFirst (hSettles.mono subset_rfl (Set.subset_insert _ _))
      refine ⟨hBoth.oracle, hBoth.restrictedByDefault, hBoth.registry, hBoth.session, hBoth.corrupt,
        hBoth.failures, fun r hr hc => ?_, hBoth.entries, hBoth.kept⟩
      rcases hBoth.marked r hr hc with hr' | hr'
      · rcases Set.mem_insert_iff.1 hr' with rfl | hr'
        · exact absurd hMark hc
        · exact .inl hr'
      · exact .inr hr'

/-- A handler that quarantines and raises again cannot succeed. -/
theorem run_rescue_quarantine_eq_ok {α : Type} {destination : Location} {reference : Text}
    {x : Host α} {handler : Raised → Host α}
    (hHandler : ∀ e, ∃ e', handler e = quarantine destination reference >>= fun _ => throw e')
    {a : α} : (rescue x handler).run w = .ok a w' ↔ x.run w = .ok a w' := by
  rw [run_rescue_eq_ok]
  constructor
  · rintro (h | ⟨e, t, -, h⟩)
    · exact h
    · obtain ⟨e', hThrow⟩ := hHandler e
      rw [hThrow] at h
      obtain ⟨u, t', -, h⟩ := run_bind_eq_ok.1 h
      cases h
  · exact .inl

/-- A program whose failure quarantines its entry settles that entry at most. -/
theorem keeps_settles_corruptOnError {α : Type} {destination : Location} {x : Host α}
    (hStored : IsStored destination)
    (hx : Keeps (Settles X (insert (entryReference destination) F)) x)
    (hOk : ∀ {w w' : World} {a : α}, x.run w = .ok a w' → Settles X F w w') :
    Keeps (Settles X F) (corruptOnError destination (entryReference destination) x) :=
  keeps_settles_rescue hStored (fun _ => ⟨_, rfl⟩) hx hOk

/-- With the quarantine on failure, success is the success of the program. -/
theorem run_corruptOnError_eq_ok {α : Type} {destination : Location} {reference : Text} {x : Host α}
    {a : α} : (corruptOnError destination reference x).run w = .ok a w' ↔ x.run w = .ok a w' :=
  run_rescue_quarantine_eq_ok (fun _ => ⟨_, rfl⟩)

end Settles

/-! ## Quarantine -/

/-- An observation always returns. -/
theorem returns_observe {α : Type} (f : Disk → α) : Returns (observe f) :=
  fun v => ⟨f v.stir.disk, v.stir, rfl⟩

/-- Moving an entry raises nothing but errors of the filesystem. -/
theorem filesystem_of_publishDirectoryNoReplace {source destination : Location} {e : Raised}
    {w w' : World} (h : (publishDirectoryNoReplace source destination).run w = .error e w') :
    ∃ code actual, e = .filesystem code actual := by
  change publishDirectoryNoReplace source destination w = _ at h
  unfold publishDirectoryNoReplace at h
  split at h
  · cases h
    exact ⟨_, _, rfl⟩
  · split at h
    · cases h
    · next hRename =>
        cases h
        unfold renameEntry at hRename
        split at hRename <;> cases hRename <;> exact ⟨_, _, rfl⟩

/-- Quarantine does not raise. -/
theorem returns_quarantine (loc : Location) (reference : Text) :
    Returns (quarantine loc reference) := by
  refine returns_bind (fun v => ⟨_, _, rfl⟩) (fun _ => ?_)
  refine returns_bind (returns_observe _) (fun found => returns_ite ?_ (returns_pure _))
  refine returns_bind (returns_observe _) (fun symlink => returns_ite (returns_pure _) ?_)
  refine returns_bind (fun v => ⟨_, _, rfl⟩) (fun token v => ?_)
  cases hRun : (publishDirectoryNoReplace loc (quarantineTarget loc token)).run v with
  | ok u v' => exact ⟨u, v', run_rescue_eq_ok.2 (.inl hRun)⟩
  | error e v' =>
      obtain ⟨code, actual, rfl⟩ := filesystem_of_publishDirectoryNoReplace hRun
      exact ⟨(), v', run_rescue_eq_ok.2 (.inr ⟨_, v', hRun, rfl⟩)⟩

end SessionCas
