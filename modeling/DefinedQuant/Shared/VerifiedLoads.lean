import DefinedQuant.Shared.RecordedBundles
import DefinedQuant.Shared.ScriptedLoads

/-!
# Loads return what they verify

The outside may change the stored files between any two steps of a load. A dataset is verified as
the two contents that were read. The bundle of an operation is read twice: first for the caller,
then for the reconciliation with the record, so what is returned is what was verified if the bundle
stays as it is from the first reading of its manifest on, and may be anything else if it does not.
-/

namespace SessionCas

open Json Canonical Protocol DataRecords HostFailures LocalHost OperationRecords FileTree Effect

variable {w w' : World} {entry : Option Node}

/-! ## Waiting -/

/-- A run that only lets the outside act. -/
def Waits (w w' : World) : Prop := ∃ n, w' = World.stir^[n] w

instance : Std.Refl Waits where
  refl _ := ⟨0, rfl⟩

instance : IsTrans World Waits where
  trans := by
    rintro w _ _ ⟨m, rfl⟩ ⟨n, rfl⟩
    exact ⟨n + m, (Function.iterate_add_apply World.stir n m w).symm⟩

/-- Letting the outside act is waiting. -/
theorem waits_stir (w : World) : Waits w w.stir := ⟨1, rfl⟩

/-- Each time the outside acts, the clock goes on by one. -/
theorem tick_iterate_stir (w : World) (n : ℕ) : (World.stir^[n] w).tick = w.tick + n := by
  induction n with
  | zero => rfl
  | succ n ih =>
      rw [Function.iterate_succ_apply']
      show (World.stir^[n] w).tick + 1 = _
      rw [ih, Nat.add_assoc]

/-- Asking the file system is waiting. -/
theorem keeps_waits_ask (loc : Location) {γ : Type} (q : Query γ) : Keeps Waits (ask loc q) := by
  intro v
  show Waits v (final (ask loc q v))
  unfold ask
  split
  · exact waits_stir v
  · split <;> exact waits_stir v

/-- So is a whole look. -/
theorem keeps_waits_look {α : Type} (loc : Location) (program : Look α) :
    Keeps Waits (look loc program) := Probe.keeps_perform (fun q => keeps_waits_ask loc q) program

/-- So is loading the source of an operation. -/
theorem waits_of_loadSource {binding : OperationBinding} {dataset : Option SourceDataset}
    (h : (loadSource binding).run w = .ok dataset w') : Waits w w' := by
  rcases run_loadSource_eq_ok.1 h with ⟨-, -, rfl⟩ | ⟨source, stored, -, -, hLoad, -⟩
  · exact Std.Refl.refl _
  · obtain ⟨destination, -, hLook⟩ := run_loadDataset_eq_ok.1 hLoad
    exact (keeps_waits_look _ _).ok hLook

/-- A question that is answered is answered by the entry as it stands then. -/
theorem run_ask_eq_ok {loc : Location} {γ : Type} {q : Query γ} {c : γ}
    (h : (ask loc q).run w = .ok c w') : w' = w.stir ∧ answer (w'.disk.entry loc) q = .ok c := by
  change ask loc q w = _ at h
  unfold ask at h
  split at h
  · cases h
  · split at h
    · next hAnswer =>
        cases h
        exact ⟨rfl, hAnswer⟩
    · cases h

/-- A look of two parts succeeds when both do, one after the other. -/
theorem run_look_bind_eq_ok {α β : Type} {loc : Location} {p : Look α} {f : α → Look β} {b : β} :
    (look loc (p >>= f)).run w = .ok b w' ↔
      ∃ a t, (look loc p).run w = .ok a t ∧ (look loc (f a)).run t = .ok b w' := by
  unfold look
  rw [Probe.perform_bind, run_bind_eq_ok]

/-- What stands at the bundle of an entry. -/
def World.bundleAt (w : World) (loc : Location) : Option Node :=
  lookup (w.disk.entry loc) [bundleName]

/-- The outside leaves the bundle of an entry alone, step by step from `v` to `w`. -/
def BundleStays (loc : Location) (v w : World) : Prop :=
  ∀ n, v.tick + n ≤ w.tick → (World.stir^[n] v).bundleAt loc = v.bundleAt loc

/-- While a bundle stays, it is the same whenever it is looked at. -/
theorem BundleStays.bundleAt_eq {loc : Location} {v s : World} (h : BundleStays loc v w)
    (hs : Waits v s) (hw : Waits s w) : s.bundleAt loc = v.bundleAt loc := by
  obtain ⟨m, rfl⟩ := hs
  obtain ⟨n, rfl⟩ := hw
  apply h m
  rw [tick_iterate_stir, tick_iterate_stir]
  omega

/-- While the bundle stays, a program that asks about it alone has seen the bundle as it stands. -/
theorem replay_of_look_still {α : Type} {loc : Location} {program : Look α} {v s : World} {a : α}
    (hStays : BundleStays loc v w) (hAsks : program.Asks (Query.Within [bundleName]))
    (hs : Waits v s) (h : (look loc program).run s = .ok a w') (hw : Waits w' w) :
    program.replay (answer (v.disk.entry loc)) = .ok a := by
  refine Probe.replay_of_perform_between (R := Waits) (v := v) (fun q => keeps_waits_ask loc q) ?_
    hAsks hs h
  intro γ q t t' c hq ht hRun hRest
  obtain ⟨-, hAnswer⟩ := run_ask_eq_ok hRun
  have hBundle := hStays.bundleAt_eq (IsTrans.trans _ _ _ ht ((keeps_waits_ask loc q).ok hRun))
    (IsTrans.trans _ _ _ hRest hw)
  rw [← answer_congr hBundle q hq]
  exact hAnswer

/-! ## The first reading -/

/-- The collected paths are those of the files other than the manifest. -/
theorem collectFiles_eq_ok {root : List Text} :
    ∀ {files : List Text} {keys keys' paths paths' : List Text},
    collectFiles root files (keys, paths) = .ok (keys', paths') →
      paths' = paths ++ (files.map (fun name => PrefixCode.joinSep 0x2F (root ++ [name]))).filter
        (fun path => path ≠ manifestName)
  | [], keys, keys', paths, paths', h => by
      cases h
      exact (List.append_nil _).symm
  | name :: files, keys, keys', paths, paths', h => by
      unfold collectFiles at h
      dsimp only at h
      rw [List.map_cons, List.filter_cons]
      split at h
      · cases h
      · next key hKey =>
          by_cases hManifest : PrefixCode.joinSep 0x2F (root ++ [name]) = manifestName
          · rw [if_pos hManifest] at h
            rw [if_neg (by simpa using hManifest)]
            exact collectFiles_eq_ok h
          · rw [if_neg hManifest] at h
            rw [if_pos (by simpa using hManifest)]
            split at h
            · cases h
            · rw [collectFiles_eq_ok h, List.append_assoc]
              rfl

/-- A private file that is read is there. -/
theorem file_of_readPrivateFile {path : List Text} {maximumBytes : ℕ} {content : Bytes}
    (h : answer entry (.readPrivateFile path maximumBytes) = .ok content) :
    ∃ info, lookup entry path = some (.file info content) := by
  simp only [answer] at h
  split at h
  · next info held hLookup =>
      split_ifs at h
      obtain ⟨-, rfl⟩ := readContent_eq_ok.1 h
      exact ⟨info, hLookup⟩
  all_goals cases h

/-- The members are read in the order of their paths, each from its file. -/
theorem readMembers_eq_ok : ∀ {paths : List Text} {remaining : ℕ} {members : List (Text × Bytes)},
    (readMembers remaining paths).replay (answer entry) = .ok members →
      members.map Prod.fst = paths ∧ ∀ member ∈ members, ∃ info,
        lookup entry ([bundleName] ++ split 0x2F member.1) = some (.file info member.2)
  | [], remaining, members, h => by
      cases h
      exact ⟨rfl, List.forall_mem_nil _⟩
  | path :: paths, remaining, members, h => by
      unfold readMembers at h
      rw [Probe.replay_bind] at h
      obtain ⟨content, hContent, h⟩ := Except.bind_eq_ok.1 h
      rw [Probe.replay_bind] at h
      obtain ⟨rest, hRest, h⟩ := Except.bind_eq_ok.1 h
      cases h
      obtain ⟨hPaths, hFiles⟩ := readMembers_eq_ok hRest
      refine ⟨by rw [List.map_cons, hPaths], List.forall_mem_cons.2 ⟨?_, hFiles⟩⟩
      rw [readPrivate, Probe.replay_mapError, Except.mapError_eq_ok, Probe.replay_query] at hContent
      exact file_of_readPrivateFile hContent

/-- What `_read_operation_bundle` does once it has the manifest. -/
def readRest (limits : CasLimits) (manifestBytes : Bytes) : Look (Bytes × List (Text × Bytes)) := do
  let steps ← Probe.query (.walk [bundleName])
  let manifestKey ← Probe.lift Raised.value (portableMemberKey manifestName)
  let (_, paths) ← collectSteps steps ([manifestKey], [])
  if ¬ (2 ≤ paths.length ∧ paths.length ≤ 130) then
    Probe.fail (.value ⟨"operation bundle has an invalid member count"⟩)
  else
    let members ← readMembers (limits.operationBundleBytes - manifestBytes.length)
      (sortBy utf8Raw paths)
    return (manifestBytes, members)

/-- What is read behind the manifest comes with the manifest that was read. -/
theorem returns_readRest (limits : CasLimits) (manifestBytes : Bytes) :
    (readRest limits manifestBytes).Returns (fun read => read.1 = manifestBytes) := by
  refine Probe.returns_bind_of_forall (fun steps => ?_)
  refine Probe.returns_bind_of_forall (fun key => ?_)
  refine Probe.returns_bind_of_forall ?_
  rintro ⟨keys, paths⟩
  dsimp only
  split
  · trivial
  · exact Probe.returns_bind_of_forall (fun members => rfl)

/-- Reading a bundle: the directory, the manifest, then the rest. -/
theorem readOperationBundle_eq (limits : CasLimits) : readOperationBundle limits = (do
    validateOwnedDirectory [bundleName]
    let manifestBytes ← readPrivate [bundleName, manifestName] limits.operationBundleBytes
    readRest limits manifestBytes) := rfl

/-- What is read from a described bundle: its members, each as its file holds it. -/
theorem replay_readRest {record : OperationRecord} {limits : CasLimits} {manifestBytes : Bytes}
    {read : Bytes × List (Text × Bytes)} (hDescribed : Described entry [bundleName] record)
    (h : (readRest limits manifestBytes).replay (answer entry) = .ok read) :
    read.1 = manifestBytes ∧ (read.2.map Prod.fst).Nodup ∧
      (∀ path, path ∈ read.2.map Prod.fst ↔ path ∈ memberPaths record) ∧
      ∀ member ∈ read.2, Holds entry [bundleName] member.1 member.2 := by
  obtain ⟨info, entries, hBundle, hNodup, hNames, hFiles⟩ := hDescribed.entries
  -- A described bundle is a flat directory, so that the walk answers one step.
  have hWalk :
    answer entry (.walk [bundleName]) = .ok [⟨[], [], sortBy utf8Raw (entries.map Prod.fst)⟩] := by
    have hNodes : ∀ e ∈ entries, ∃ info content, e.2 = .file info content := by
      intro e he
      obtain ⟨info, content, hFile, -⟩ := hFiles e he
      exact ⟨info, content, hFile⟩
    simp only [answer, hBundle, Node.walk_of_files hNodes]
  unfold readRest at h
  simp only [Probe.replay_bind, Probe.replay_query, Probe.replay_lift, Except.bind_eq_ok,
    Except.mapError_eq_ok, hWalk] at h
  obtain ⟨steps, hWalked, key, -, ⟨keys, paths⟩, hSteps, h⟩ := h
  cases hWalked
  unfold collectSteps validateDirectories at hSteps
  simp only [Probe.replay_bind, Probe.replay_pure, Probe.replay_lift, Except.bind_eq_ok,
    Except.mapError_eq_ok] at hSteps
  obtain ⟨_, -, found, hFound, hSteps⟩ := hSteps
  cases hSteps
  have hPaths := collectFiles_eq_ok hFound
  rw [List.nil_append] at hPaths
  dsimp only at h
  -- The number of the paths is checked before any member is read.
  by_cases hCount : 2 ≤ paths.length ∧ paths.length ≤ 130
  · rw [if_neg (not_not.2 hCount)] at h
    rw [Probe.replay_bind, Except.bind_eq_ok] at h
    obtain ⟨members, hMembers, h⟩ := h
    cases h
    obtain ⟨hOrder, hRead⟩ := readMembers_eq_ok hMembers
    have hListed : paths = (sortBy utf8Raw (entries.map Prod.fst)).filter
      (fun path => path ≠ manifestName) := by
      rw [hPaths]
      simp only [List.nil_append, PrefixCode.joinSep_singleton, List.map_id']
    refine ⟨rfl, ?_, fun path => ?_, fun member hMember => ?_⟩
    -- The members are the files other than the manifest, each once and with its content.
    · rw [hOrder, (sortBy_perm utf8Raw paths).nodup_iff, hListed]
      exact ((sortBy_perm utf8Raw _).nodup_iff.2 hNodup).filter _
    · rw [hOrder, mem_sortBy, hListed, List.mem_filter, mem_sortBy, hNames]
      constructor
      · rintro ⟨rfl | hPath, hOther⟩
        · exact absurd rfl (of_decide_eq_true hOther)
        · exact hPath
      · intro hPath
        refine ⟨.inr hPath, decide_eq_true ?_⟩
        rintro rfl
        exact hDescribed.unreserved hPath
    · obtain ⟨info', hLookup⟩ := hRead member hMember
      obtain ⟨name, hSplit, hHolds⟩ := hDescribed.holds_of_lookup (List.splitOn_ne_nil _ _) hLookup
      have hName : [(0x2F : CodePoint)].intercalate (split 0x2F member.1) = member.1 :=
        List.intercalate_splitOn _
      unfold split at hName
      rw [hSplit, List.intercalate_singleton] at hName
      rw [← hName]
      exact hHolds
  · rw [if_pos hCount] at h
    cases h

/-! ## What the first reading asks -/

/-- Validating a directory asks inside of the bundle only. -/
theorem asks_validateOwnedDirectory {top path : List Text} (h : top <+: path) :
    (validateOwnedDirectory path).Asks (Query.Within top) :=
      Probe.asks_mapError (Probe.asks_query h)

/-- So does reading a file. -/
theorem asks_readPrivate {top path : List Text} (h : top <+: path) (maximumBytes : ℕ) :
    (readPrivate path maximumBytes).Asks (Query.Within top) :=
      Probe.asks_mapError (Probe.asks_query h)

/-- So does validating the directories of a walk. -/
theorem asks_validateDirectories (root : List Text) : ∀ names : List Text,
    (validateDirectories root names).Asks (Query.Within [bundleName])
  | [] => Probe.asks_pure _
  | name :: rest =>
      Probe.asks_bind (asks_validateOwnedDirectory (List.prefix_append [bundleName]
        (root ++ [name])))
        (fun _ => asks_validateDirectories root rest)

/-- So does collecting the files of a walk. -/
theorem asks_collectSteps : ∀ (steps : List Node.WalkStep) (found : Found),
    (collectSteps steps found).Asks (Query.Within [bundleName])
  | [], _ => Probe.asks_pure _
  | _ :: rest, _ =>
      Probe.asks_bind (asks_validateDirectories _ _) (fun _ =>
        Probe.asks_bind (Probe.asks_lift _ _) (fun found => asks_collectSteps rest found))

/-- So does reading the members. -/
theorem asks_readMembers : ∀ (remaining : ℕ) (paths : List Text),
    (readMembers remaining paths).Asks (Query.Within [bundleName])
  | _, [] => Probe.asks_pure _
  | _, path :: rest =>
      Probe.asks_bind (asks_readPrivate (List.prefix_append [bundleName] (split 0x2F path)) _)
        (fun _ => Probe.asks_bind (asks_readMembers _ rest) (fun _ => Probe.asks_pure _))

/-- Behind the manifest, the first reading asks about the bundle alone. -/
theorem asks_readRest (limits : CasLimits) (manifestBytes : Bytes) :
    (readRest limits manifestBytes).Asks (Query.Within [bundleName]) := by
  refine Probe.asks_bind (Probe.asks_query (List.prefix_refl [bundleName])) (fun steps => ?_)
  refine Probe.asks_bind (Probe.asks_lift _ _) (fun key => ?_)
  refine Probe.asks_bind (asks_collectSteps _ _) (fun found => ?_)
  refine Probe.asks_ite trivial ?_
  exact Probe.asks_bind (asks_readMembers _ _) (fun _ => Probe.asks_pure _)

/-! ## Loads -/

/-- What a load returns. -/
inductive Loaded where
  | dataset (stored : StoredDataset)
  | operation (stored : StoredOperation)

/-- `load_dataset` and `load_operation` -/
def load (kind : RecordKind) (reference : Text) : Host Loaded :=
  match kind with
  | .dataset => do return .dataset (← loadDataset reference)
  | .operation => do return .operation (← loadOperation reference)

/-- The manifest and the members of a stored operation are those that its record declares. -/
structure StoredOperation.Verified (stored : StoredOperation) : Prop where
  manifest : sha256Hex stored.manifestBytes = stored.record.1.manifestSha256.1
  distinct : (stored.members.map Prod.fst).Nodup
  paths : ∀ path, path ∈ stored.members.map Prod.fst ↔ path ∈ memberPaths stored.record
  contents : ∀ path content, (path, content) ∈ stored.members →
    ∃ member ∈ stored.record.1.members.1,
    member.path.1 = path ∧ sha256Hex content = member.sha256.1 ∧
      (content.length : ℤ) = member.sizeBytes.1

/-- Everything in a loaded value hashes to its record. -/
def Loaded.Verified : Loaded → Prop
  | .dataset stored => stored.payload.digest = .ok stored.record.1.payload.sha256.1
  | .operation stored => stored.Verified

/-- The questions of the load of an operation up to the first reading of its manifest: about the
entry, its names, the record, the bundle and the manifest. -/
def untilManifest : ℕ := 5

/-- From the first reading of the manifest on, the outside leaves the bundle of the reference alone. -/
def BundleUntouched (reference : Text) (w w' : World) : Prop :=
  ∀ loc, destinationOf reference .operation = .ok loc →
    BundleStays loc (World.stir^[untilManifest] w) w'

/-- A dataset is returned as its own two contents were verified, whatever happens to the files. -/
theorem verified_of_loadDataset {reference : Text} {stored : StoredDataset}
    (h : (loadDataset reference).run w = .ok stored w') :
    stored.payload.digest = .ok stored.record.1.payload.sha256.1 := by
  obtain ⟨destination, -, hLook⟩ := run_loadDataset_eq_ok.1 h
  obtain ⟨recordBytes, payloadBytes, hVerify⟩ := (returns_readDataset _ _).of_perform hLook
  obtain ⟨-, -, -, -, -, -, hValid⟩ := verifyDataset_eq_ok.1 hVerify
  exact digest_of_validatePayload hValid

/-- A directory that is validated takes one look. -/
theorem run_validateOwnedDirectory_eq_ok {loc : Location} {path : List Text} {u : Unit}
    (h : (look loc (validateOwnedDirectory path)).run w = .ok u w') : w' = w.stir := by
  have hAsk := Probe.run_mapError_eq_ok.1 h
  rw [Probe.run_query] at hAsk
  exact (run_ask_eq_ok hAsk).1

/-- A private file that is read is held by the entry at that moment. -/
theorem run_readPrivate_eq_ok {loc : Location} {path : List Text} {maximumBytes : ℕ}
    {content : Bytes} (h : (look loc (readPrivate path maximumBytes)).run w = .ok content w') :
    w' = w.stir ∧ ∃ info, lookup (w'.disk.entry loc) path = some (.file info content) := by
  have hAsk := Probe.run_mapError_eq_ok.1 h
  rw [Probe.run_query] at hAsk
  obtain ⟨hStir, hAnswer⟩ := run_ask_eq_ok hAsk
  exact ⟨hStir, file_of_readPrivateFile hAnswer⟩

/-- The manifest is read at a known moment, and the rest of the bundle behind it. -/
theorem run_readOperation_eq_ok {loc : Location} {limits : CasLimits} {reference : Text}
    {record : OperationRecord} {manifestBytes : Bytes} {members : List (Text × Bytes)}
    (h : (look loc (readOperation limits reference)).run w = .ok (record, manifestBytes, members)
      w') :
    ∃ v info, v = World.stir^[untilManifest] w ∧
      lookup (v.disk.entry loc) [bundleName, manifestName] = some (.file info manifestBytes) ∧
      (look loc (readRest limits manifestBytes)).run v = .ok (manifestBytes, members) w' := by
  unfold readOperation at h
  obtain ⟨_, _, hOwned, h⟩ := run_look_bind_eq_ok.1 h
  obtain rfl := run_validateOwnedDirectory_eq_ok hOwned
  obtain ⟨names, _, hNames, h⟩ := run_look_bind_eq_ok.1 h
  unfold look at hNames
  rw [Probe.run_query] at hNames
  obtain ⟨rfl, -⟩ := run_ask_eq_ok hNames
  split at h
  · cases h
  obtain ⟨recordBytes, _, hRecordBytes, h⟩ := run_look_bind_eq_ok.1 h
  obtain ⟨rfl, -⟩ := run_readPrivate_eq_ok hRecordBytes
  obtain ⟨record', _, hRecord, h⟩ := run_look_bind_eq_ok.1 h
  obtain ⟨-, rfl⟩ := Probe.run_lift_eq_ok.1 hRecord
  obtain ⟨⟨manifestBytes', members'⟩, _, hBundle, h⟩ := run_look_bind_eq_ok.1 h
  cases h
  rw [readOperationBundle_eq] at hBundle
  obtain ⟨_, _, hDirectory, hBundle⟩ := run_look_bind_eq_ok.1 hBundle
  obtain rfl := run_validateOwnedDirectory_eq_ok hDirectory
  obtain ⟨manifestBytes', _, hManifest, hRest⟩ := run_look_bind_eq_ok.1 hBundle
  obtain ⟨rfl, info, hFile⟩ := run_readPrivate_eq_ok hManifest
  obtain rfl : manifestBytes' = manifestBytes := ((returns_readRest _ _).of_perform hRest).symm
  exact ⟨_, info, rfl, hFile, hRest⟩

/-- An operation whose bundle stays as it is from the first reading of its manifest on is returned
as it was verified. -/
theorem verified_of_loadOperation {reference : Text} {stored : StoredOperation}
    (h : (loadOperation reference).run w = .ok stored w')
    (hUntouched : BundleUntouched reference w w') :
    stored.Verified := by
  obtain ⟨loc, hResolve, hDirectory⟩ := run_loadOperation_eq_ok.1 h
  obtain ⟨-, hDestination, -⟩ := run_resolve_eq_ok.1 hResolve
  have hStays := hUntouched loc hDestination
  obtain ⟨-, t, t', dataset, hRead, hSource, hReconcile⟩ :=
    run_loadOperationDirectory_eq_ok.1 hDirectory
  obtain ⟨v, info, rfl, hManifest, hRest⟩ := run_readOperation_eq_ok hRead
  have hSecond := (keeps_waits_look _ _).ok hReconcile
  have hFirst := IsTrans.trans (r := Waits) _ _ _ (waits_of_loadSource hSource) hSecond
  have hBetween := (keeps_waits_look _ _).ok hRest
  have hDescribed := described_of_reconcile (replay_of_look_still hStays
    (asks_reconcileOperationRecord _ _) (IsTrans.trans (r := Waits) _ _ _ hBetween
      (waits_of_loadSource hSource)) hReconcile (Std.Refl.refl _))
  obtain ⟨-, hDistinct, hPaths, hHolds⟩ := replay_readRest hDescribed
    (replay_of_look_still hStays (asks_readRest _ _) (Std.Refl.refl _) hRest hFirst)
  refine ⟨?_, hDistinct, hPaths, fun path content hMember => ?_⟩
  · obtain ⟨content, hHeld, hDigest⟩ := hDescribed.manifestFile
    obtain rfl := hHeld.unique ⟨info, hManifest⟩
    exact hDigest
  · have hPath : path ∈ memberPaths stored.record :=
      (hPaths path).1 (List.mem_map.2 ⟨_, hMember, rfl⟩)
    obtain ⟨member, hMem, rfl⟩ := List.mem_map.1 hPath
    obtain ⟨held, hHeld, hDigest, hSize⟩ := hDescribed.files member hMem
    obtain rfl := hHeld.unique (hHolds _ hMember)
    exact ⟨member, hMem, rfl, hDigest, hSize⟩

/-- A load that returns has verified what it returns: a dataset whatever happens to the files, an
operation if the outside leaves its bundle alone from the first reading of the manifest on. -/
theorem loads_return_what_they_verify {kind : RecordKind} {reference : Text} {loaded : Loaded}
    (h : (load kind reference).run w = .ok loaded w')
    (hUntouched : kind = .operation → BundleUntouched reference w w') : loaded.Verified := by
  cases kind with
  | dataset =>
      obtain ⟨stored, t, hLoad, hReturn⟩ := run_bind_eq_ok.1 h
      cases hReturn
      exact verified_of_loadDataset hLoad
  | operation =>
      obtain ⟨stored, t, hLoad, hReturn⟩ := run_bind_eq_ok.1 h
      cases hReturn
      exact verified_of_loadOperation hLoad (hUntouched rfl)

/-! ## Two scripts -/

/-- A step of a reachable session leads to a reachable session. -/
theorem reachable_step {w w' : World} (h : Reachable w) (hStep : Step w w') : Reachable w' := by
  obtain ⟨start, sessionId, limits, cursorKey, hStart, hRun⟩ := h
  exact ⟨start, sessionId, limits, cursorKey, hStart, hRun.tail hStep⟩

/-- A session that has published an operation is reachable. -/
theorem reachable_of_publishOperation {record : Value} {manifestBytes : Bytes}
    {members : List (Text × Bytes)} {reference : Text} (h : Reachable w)
    (hRun : (publishOperation record manifestBytes members).run w = .ok reference w') :
    Reachable w' := by
  have hCall : (Call.publishOperation record manifestBytes members).run.run w = .ok () w' :=
    run_bind_eq_ok.2 ⟨reference, w', hRun, rfl⟩
  have hStep := Step.call (.publishOperation record manifestBytes members) w
  rw [hCall] at hStep
  exact reachable_step h hStep

/-- `load_operation` is the load of its kind. -/
theorem load_of_loadOperation {reference : Text} {stored : StoredOperation}
    (h : (loadOperation reference).run w = .ok stored w') :
    (load .operation reference).run w = .ok (.operation stored) w' :=
      run_bind_eq_ok.2 ⟨stored, w', h, rfl⟩

/-- The outside stays the one it is. -/
theorem oracle_iterate_stir (w : World) (n : ℕ) : (World.stir^[n] w).oracle = w.oracle := by
  induction n with
  | zero => rfl
  | succ n ih =>
      rw [Function.iterate_succ_apply']
      exact ih

/-- What a script puts at an entry is there after the step. -/
theorem entry_iterate_stir {loc : Location} {script : ℕ → Option Node}
    (hOracle : w.oracle = SessionCas.scripted loc script) (n : ℕ) :
    (World.stir^[n + 1] w).disk.entry loc = script (w.tick + n) := by
  rw [Function.iterate_succ_apply', entry_stir ((oracle_iterate_stir w n).trans hOracle),
    tick_iterate_stir]

/-- A load of a published operation whose entry nobody changes. -/
theorem loads_return_what_they_verify_published : ∃ w w' reference loaded,
    Reachable w ∧ (load .operation reference).run w = .ok loaded w' ∧ loaded.Verified := by
  obtain ⟨loc, entry, -, stored, hPublishable, -, -⟩ := exists_sample
  let script : ℕ → Option Node := fun _ => entry
  have hScript : ∀ start n, Shows script start n entry := fun _ _ _ _ _ => rfl
  obtain ⟨w, hPublish, -, hOracle, hLimits, hLoads⟩ := @run_publishOperation_of_script
    (World.scripted bundleLimits loc script) loc script entry _ _ hPublishable rfl rfl (hScript _ _)
  have hReachable := reachable_of_publishOperation ⟨_, [], bundleLimits, [], rfl, .refl⟩ hPublish
  obtain ⟨w', -, hLoad⟩ := @run_loadOperation_of_script w loc script entry entry stored hOracle
    hLoads
    (by rw [hLimits]; exact hPublishable.reads) (hScript _ _) (hScript _ _)
  have hUntouched : BundleUntouched stored.reference w w' := by
    intro loc' hLoc n _
    obtain rfl : loc' = loc := Except.ok.inj (hLoc.symm.trans hPublishable.destination)
    unfold World.bundleAt
    rw [← Function.iterate_add_apply]
    show lookup ((World.stir^[(n + 4) + 1] w).disk.entry loc') _ =
      lookup ((World.stir^[4 + 1] w).disk.entry loc') _
    rw [entry_iterate_stir hOracle, entry_iterate_stir hOracle]
  exact ⟨w, w', stored.reference, .operation stored, hReachable, load_of_loadOperation hLoad,
    loads_return_what_they_verify (load_of_loadOperation hLoad) (fun _ => hUntouched)⟩

/-- The outside shows an empty result for as long as the first reading of a load takes, and the
published one before and after: the load returns the empty result beside a record that declares
another. -/
theorem load_returns_unverified : ¬ ∀ (w w' : World) (kind : RecordKind) (reference : Text)
    (loaded : Loaded),
    Reachable w → (load kind reference).run w = .ok loaded w' → loaded.Verified := by
  intro hClaim
  obtain ⟨loc, good, empty, stored, hPublishable, hHolds, hTwice⟩ := exists_sample
  let start := publishSteps bundleLimits stored good
  let steps := firstSteps bundleLimits stored.reference empty
  let script : ℕ → Option Node := fun tick => if start ≤ tick ∧ tick < start + steps then empty
    else good
  have hBefore : Shows script 0 start good := by
    intro tick _ hTick
    exact if_neg (by omega)
  have hDuring : Shows script start steps empty := fun tick hFirst hLast => if_pos ⟨hFirst, hLast⟩
  have hAfter : ∀ n, Shows script (start + steps) n good := by
    intro n tick hTick _
    exact if_neg (by omega)
  obtain ⟨w, hPublish, hTick, hOracle, hLimits, hLoads⟩ := @run_publishOperation_of_script
    (World.scripted bundleLimits loc script) loc script good _ _ hPublishable rfl rfl hBefore
  have hStart : w.tick = start := hTick.trans (Nat.zero_add _)
  have hReachable := reachable_of_publishOperation ⟨_, [], bundleLimits, [], rfl, .refl⟩ hPublish
  obtain ⟨w', -, hLoad⟩ := @run_loadOperation_of_script w loc script empty good
    { stored with members := sampleMembers [] } hOracle hLoads (by rw [hLimits]; exact hTwice)
    (by rw [hLimits, hStart]; exact hDuring) (by rw [hLimits, hStart]; exact hAfter _)
  have hVerified := hClaim w w' .operation _ _ hReachable (load_of_loadOperation hLoad)
  -- the record has the size of the published result
  obtain ⟨member, hMember, hPath, -, hSize⟩ :=
    hVerified.contents resultPath.1 [] (by simp [sampleMembers])
  obtain ⟨content, hHeld, -, hLength⟩ :=
    (described_of_reconcile hPublishable.reads.reconciled).files member hMember
  rw [hPath] at hHeld
  obtain rfl := hHeld.unique hHolds
  rw [← hSize] at hLength
  cases hLength

end SessionCas
