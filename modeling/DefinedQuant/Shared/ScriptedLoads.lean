import DefinedQuant.Protocol.Plan
import DefinedQuant.Protocol.Result
import DefinedQuant.Shared.CursorBinding
import DefinedQuant.Shared.DataRecords.FaithfulDocuments
import DefinedQuant.Shared.RecordReconciliation
import DefinedQuant.Shared.SessionFaithful

/-!
# Loads under a script

The outside may follow a script: before every step it puts at one entry what the script says for
that moment, and nothing fails. A load then reads the entry twice, each time as the script has it,
and returns what the first reading saw if the second one reconciles. The steps of a look are
counted, so that a script can change its mind between the two readings.
-/

namespace SessionCas

open Json Canonical Protocol DataRecords HostFailures LocalHost OperationRecords FileTree Effect

variable {w w' : World} {loc : Location} {script : ℕ → Option Node} {entry entry' : Option Node}

/-- Surroundings in which nothing fails, and that put what a script says at one entry before every
step. -/
def scripted (loc : Location) (script : ℕ → Option Node) : Oracle where
  env tick disk := disk.set loc (script tick)
  fault _ := none
  token _ := []
  recursion _ := roomyRecursion

/-- A session that has just been opened in such surroundings. -/
def World.scripted (limits : CasLimits) (loc : Location) (script : ℕ → Option Node) : World :=
  { World.opened [] limits [] with oracle := SessionCas.scripted loc script }

/-- A run that has taken `n` steps, and has left the session as it was. -/
structure Passes (n : ℕ) (w w' : World) : Prop where
  tick : w'.tick = w.tick + n
  oracle : w'.oracle = w.oracle
  session : w'.session = w.session

/-- No time has passed. -/
theorem passes_zero (w : World) : Passes 0 w w := ⟨rfl, rfl, rfl⟩

/-- One look takes one step. -/
theorem passes_stir (w : World) : Passes 1 w w.stir := ⟨rfl, rfl, rfl⟩

/-- Times add up. -/
theorem Passes.trans {m n : ℕ} {v : World} (h : Passes m v w) (h' : Passes n w w') :
    Passes (m + n) v w' := by
  refine ⟨?_, h'.oracle.trans h.oracle, h'.session.trans h.session⟩
  rw [h'.tick, h.tick, Nat.add_assoc]

/-- The script has one entry for the `n` steps from a moment on. -/
def Shows (script : ℕ → Option Node) (start n : ℕ) (entry : Option Node) : Prop :=
  ∀ tick, start ≤ tick → tick < start + n → script tick = entry

/-- What is shown for some time is shown for every part of it. -/
theorem Shows.mono {start start' n n' : ℕ} (h : Shows script start n entry)
    (hStart : start ≤ start') (hEnd : start' + n' ≤ start + n) : Shows script start' n' entry := by
  intro tick hFirst hLast
  exact h tick (by omega) (by omega)

/-! ## Looking -/

/-- At every step, the entry is what the script shows then. -/
theorem entry_stir (hOracle : w.oracle = SessionCas.scripted loc script) :
    w.stir.disk.entry loc = script w.tick := by
  show (w.oracle.env w.tick w.disk).entry loc = _
  rw [hOracle]
  exact Function.update_self _ _ _

/-- A question is answered by the entry of its step. -/
theorem run_ask_of_script {γ : Type} {q : Query γ} {c : γ}
    (hOracle : w.oracle = SessionCas.scripted loc script) (h : answer (script w.tick) q = .ok c) :
    (ask loc q).run w = .ok c w.stir := by
  show ask loc q w = _
  have hFault : w.oracle.fault w.tick = none := by
    rw [hOracle]
    rfl
  unfold ask
  rw [hFault, Option.bind_none, entry_stir hOracle, h]

/-- A program that returns against the entry that the script shows returns under the script. -/
theorem run_look_of_script {α : Type} {program : Look α} {a : α}
    (hOracle : w.oracle = SessionCas.scripted loc script)
    (hShows : Shows script w.tick (program.queries (answer entry)) entry)
    (h : program.replay (answer entry) = .ok a) :
    ∃ w', Passes (program.queries (answer entry)) w w' ∧ (look loc program).run w = .ok a w' := by
  -- after some of the queries: the steps taken so far and those to come are all of them
  let Inv : ℕ → World → Prop := fun n s =>
    ∃ taken, Passes taken w s ∧ taken + n = program.queries (answer entry)
  have hStep : ∀ {γ : Type} (q : Query γ) {c : γ} {n : ℕ} {s : World}, answer entry q = .ok c →
      Inv (n + 1) s → ∃ s', Inv n s' ∧ (ask loc q).run s = .ok c s' := by
    intro γ q c n s hAnswer hInv
    obtain ⟨taken, hPasses, hCount⟩ := hInv
    have hEntry : script s.tick = entry :=
      hShows _ (by rw [hPasses.tick]; omega) (by rw [hPasses.tick]; omega)
    refine ⟨s.stir, ⟨taken + 1, hPasses.trans (passes_stir s), by omega⟩, ?_⟩
    apply run_ask_of_script (hPasses.oracle.trans hOracle)
    rw [hEntry]
    exact hAnswer
  obtain ⟨w', ⟨taken, hPasses, hCount⟩, hRun⟩ := Probe.perform_of_replay hStep h
    (s := w) ⟨0, passes_zero w, Nat.zero_add _⟩
  rw [Nat.add_zero] at hCount
  exact ⟨w', hCount ▸ hPasses, hRun⟩

/-! ## Loading -/

/-- The steps of the first reading of an entry. -/
def firstSteps (limits : CasLimits) (reference : Text) (entry : Option Node) : ℕ :=
  (readOperation limits reference).queries (answer entry)

/-- The steps of the reconciliation with an entry. -/
def secondSteps (record : OperationRecord) (entry : Option Node) : ℕ :=
  (reconcileOperationRecord record [bundleName] none).queries (answer entry)

/-- A load returns what it reads first, if what it reads next reconciles with the record. -/
theorem run_loadOperationDirectory_of_script {stored : StoredOperation}
    (hOracle : w.oracle = SessionCas.scripted loc script)
    (hFirst : Shows script w.tick (firstSteps w.session.limits stored.reference entry) entry)
    (hSecond : Shows script (w.tick + firstSteps w.session.limits stored.reference entry)
      (secondSteps stored.record entry') entry')
    (hRead : (readOperation w.session.limits stored.reference).replay (answer entry)
      = .ok (stored.record, stored.manifestBytes, stored.members))
    (hSource : stored.record.1.binding.1.source = none)
    (hReconcile : (reconcileOperationRecord stored.record [bundleName] none).replay (answer entry')
      = .ok stored.manifest) :
    ∃ w', Passes (firstSteps w.session.limits stored.reference entry + secondSteps stored.record
      entry') w w' ∧
      (loadOperationDirectory loc stored.reference).run w = .ok stored w' := by
  obtain ⟨t, hPasses, hLook⟩ := run_look_of_script hOracle hFirst hRead
  obtain ⟨w', hPasses', hLook'⟩ := @run_look_of_script t loc script entry' _ _ _
    (hPasses.oracle.trans hOracle) (by rw [hPasses.tick]; exact hSecond) hReconcile
  refine ⟨w', hPasses.trans hPasses', run_loadOperationDirectory_eq_ok.2 ⟨rfl, t, t, none, hLook,
    ?_, hLook'⟩⟩
  exact run_loadSource_eq_ok.2 (.inl ⟨hSource, rfl, rfl⟩)

/-- The two readings of a load. -/
structure ReadTwice (limits : CasLimits) (stored : StoredOperation) (first second : Option Node) :
    Prop where
  read : (readOperation limits stored.reference).replay (answer first)
    = .ok (stored.record, stored.manifestBytes, stored.members)
  literal : stored.record.1.binding.1.source = none
  reconciled : (reconcileOperationRecord stored.record [bundleName] none).replay (answer second)
    = .ok stored.manifest

/-- The session can load from an entry: it is open, and it holds the reference that leads there. -/
structure Loads (w : World) (loc : Location) (reference : Text) : Prop where
  isOpen : w.session.closed = false
  destination : destinationOf reference .operation = .ok loc
  known : reference ∈ w.session.references
  sound : reference ∉ w.session.corruptReferences

/-- Nothing else moves a world that loads while time passes. -/
theorem Loads.passes {n : ℕ} {reference : Text} (h : Loads w loc reference)
    (hPasses : Passes n w w') :
    Loads w' loc reference := by
  refine ⟨?_, h.destination, ?_, ?_⟩
  · rw [hPasses.session]
    exact h.isOpen
  · rw [hPasses.session]
    exact h.known
  · rw [hPasses.session]
    exact h.sound

/-- An operation is loaded where the script shows one entry for the first reading of the bundle and
another for the second. -/
theorem run_loadOperation_of_script {stored : StoredOperation}
    (hOracle : w.oracle = SessionCas.scripted loc script) (hLoads : Loads w loc stored.reference)
    (h : ReadTwice w.session.limits stored entry entry')
    (hFirst : Shows script w.tick (firstSteps w.session.limits stored.reference entry) entry)
    (hSecond : Shows script (w.tick + firstSteps w.session.limits stored.reference entry)
      (secondSteps stored.record entry') entry') :
    ∃ w', Passes (firstSteps w.session.limits stored.reference entry + secondSteps stored.record
      entry') w w' ∧
      (loadOperation stored.reference).run w = .ok stored w' := by
  obtain ⟨w', hPasses, hRun⟩ := run_loadOperationDirectory_of_script hOracle hFirst hSecond h.read
    h.literal
    h.reconciled
  refine ⟨w', hPasses, run_loadOperation_eq_ok.2 ⟨loc, run_resolve_eq_ok.2 ?_, hRun⟩⟩
  exact ⟨hLoads.isOpen, hLoads.destination, hLoads.sound, hLoads.known, rfl⟩

/-! ## Publishing over an entry that is there -/

/-- An entry holds an operation that can be published, within the limits of a session. -/
structure Publishable (limits : CasLimits) (loc : Location) (entry : Option Node)
    (stored : StoredOperation) :
    Prop where
  arguments : ∃ recordBytes, recordBytes.length ≤ limits.recordBytes ∧
    operationArgumentsWithin roomyRecursion (OperationRecord.codec.encode stored.record)
      stored.manifestBytes
      stored.members = .ok (stored.record, stored.members, recordBytes)
  bundle : stored.manifestBytes.length + (stored.members.map (fun member => member.2.length)).sum
    ≤ limits.operationBundleBytes
  reference : stored.record.reference = .ok stored.reference
  destination : destinationOf stored.reference .operation = .ok loc
  present : (entry.bind Node.resolve).isSome = true
  size : ∃ size, answer entry .privateTreeSize = .ok size ∧ size ≤ limits.sessionBytes
  reads : ReadTwice limits stored entry entry

/-- The steps of the publication. -/
def publishSteps (limits : CasLimits) (stored : StoredOperation) (entry : Option Node) : ℕ :=
  1 + (firstSteps limits stored.reference entry + secondSteps stored.record entry) + 1

/-- An operation is the same as itself. -/
theorem sameOperation_self (stored : StoredOperation) :
    sameOperation stored stored.record stored.manifestBytes stored.members = true := by
  have hMembers : sameMembers stored.members stored.members = true :=
    decide_eq_true ⟨rfl, fun member hMember => hMember⟩
  unfold sameOperation
  rw [pyEq_self_record, beq_self_eq_true, hMembers]
  rfl

/-- In a new session, publishing an operation whose entry is there registers it. -/
theorem run_publishOperation_of_script {limits : CasLimits} {stored : StoredOperation}
    (h : Publishable limits loc entry stored) (hOracle : w.oracle = SessionCas.scripted loc script)
    (hSession : w.session = Session.opened [] limits [])
    (hShows : Shows script w.tick (publishSteps limits stored entry) entry) :
    ∃ w', (publishOperation (OperationRecord.codec.encode stored.record) stored.manifestBytes
        stored.members).run w = .ok stored.reference w' ∧
      w'.tick = w.tick + publishSteps limits stored entry ∧ w'.oracle = w.oracle ∧
      w'.session.limits = limits ∧ Loads w' loc stored.reference := by
  unfold publishSteps at hShows ⊢
  obtain ⟨recordBytes, hRecordBytes, hArguments⟩ := h.arguments
  obtain ⟨size, hSize, hRoom⟩ := h.size
  have hLimits : w.stir.session.limits = limits := by
    show w.session.limits = limits
    rw [hSession]
    rfl
  have hThere : (pathExists loc).run w = .ok true w.stir := by
    show EStateM.Result.ok (((w.stir.disk.entry loc).bind Node.resolve).isSome) w.stir = _
    rw [entry_stir hOracle, hShows w.tick le_rfl (by omega), h.present]
  -- the verification of what is there
  obtain ⟨t, hPasses, hLoad⟩ := @run_loadOperationDirectory_of_script w.stir loc script entry entry
    stored
    hOracle (by rw [hLimits]; exact hShows.mono (Nat.le_succ _) (by show w.tick + 1 + _ ≤ _; omega))
    (by
      rw [hLimits]
      refine hShows.mono ?_ ?_
      · show w.tick ≤ w.tick + 1 + _
        omega
      · show w.tick + 1 + _ + _ ≤ _
        omega)
    (by rw [hLimits]; exact h.reads.read) h.reads.literal h.reads.reconciled
  rw [hLimits] at hPasses
  have hTick : t.tick = w.tick + 1 + (firstSteps limits stored.reference entry +
      secondSteps stored.record entry) := hPasses.tick
  -- its size
  have hEntry : script t.tick = entry := hShows _ (by omega) (by omega)
  have hMeasure : (entrySize loc).run t = .ok size t.stir := by
    apply Probe.run_mapError_eq_ok.2
    rw [Probe.run_query]
    apply run_ask_of_script (hPasses.oracle.trans hOracle)
    rw [hEntry]
    exact hSize
  -- its registration
  have hNew : t.stir.session = Session.opened [] limits [] := hPasses.session.trans hSession
  have hRegister : (register stored.reference size).run t.stir
      = .ok () (t.stir.register stored.reference size) := by
    refine run_register_eq_ok.2 (.inr ⟨?_, ?_, rfl⟩)
    · rw [hNew]
      exact Finset.notMem_empty _
    · rw [hNew]
      exact (Nat.zero_add size).symm ▸ hRoom
  refine ⟨t.stir.register stored.reference size, ?_, ?_, hPasses.oracle, ?_, ?_, h.destination,
    Finset.mem_insert_self _ _, ?_⟩
  · have hRecursion : w.recursion = roomyRecursion := by
      unfold World.recursion
      rw [hOracle]
      rfl
    unfold publishOperation
    rw [run_requireOpen_bind_eq_ok, run_get_bind, run_lift_bind_eq_ok, hRecursion]
    simp only [run_raiseIf_bind_eq_ok, run_lift_bind_eq_ok]
    rw [hSession]
    refine ⟨rfl, _, hArguments, not_lt.2 h.bundle, not_lt.2 hRecordBytes, stored.reference,
      h.reference, Finset.notMem_empty _, loc, h.destination, run_bind_eq_ok.2 ⟨true, w.stir,
      hThere, ?_⟩⟩
    refine run_bind_eq_ok.2 ⟨stored, t, run_corruptOnError_eq_ok.2 hLoad, ?_⟩
    rw [run_raiseIf_bind_eq_ok, sameOperation_self]
    refine ⟨Bool.noConfusion, run_bind_eq_ok.2 ⟨size, t.stir, hMeasure, ?_⟩⟩
    exact run_bind_eq_ok.2 ⟨(), _, hRegister, rfl⟩
  · show t.tick + 1 = _
    rw [hTick]
    omega
  · show t.stir.session.limits = limits
    rw [hNew]
    rfl
  · show t.stir.session.closed = false
    rw [hNew]
    rfl
  · show _ ∉ t.stir.session.corruptReferences
    rw [hNew]
    exact Finset.notMem_empty _

/-! ## The sample operation -/

/-- The manifest as the runtime writes it, and how long that may be. -/
def SampleManifestBytes (manifestBytes : Bytes) : Prop :=
  prettyJsonBytes (OperationManifest.codec.encode sampleManifest) = .ok manifestBytes ∧
    manifestBytes.length ≤ 2000

/-- The component has a canonical form. -/
theorem accepts_component : Accepts (ComponentRef.codec.encode sampleComponent) := by
  have hKey : ∀ s : String, Text.Encodable (py s) := encodable_py
  show Accepts (.obj [(py "id", .lit "dq.a.b"), (py "version", .lit "1.0.0"),
    (py "subject_hash", .str sampleComponent.subjectHash.1)])
  refine accepts_obj.2 ?_
  simp only [List.forall_mem_cons]
  exact ⟨⟨hKey _, accepts_lit _⟩, ⟨hKey _, accepts_lit _⟩,
    ⟨hKey _, accepts_str.2 (encodable_sha256Text _)⟩, List.forall_mem_nil _⟩

/-- The runner has a canonical form. -/
theorem accepts_runner : Accepts (RunnerIdentity.codec.encode sampleRunner) := by
  show Accepts (.obj [(py "name", .lit "r"), (py "version", .lit "1.0.0")])
  refine accepts_obj.2 ?_
  simp only [List.forall_mem_cons]
  exact ⟨⟨encodable_py _, accepts_lit _⟩, ⟨encodable_py _, accepts_lit _⟩, List.forall_mem_nil _⟩

/-- The manifest, written out. -/
theorem encode_sampleManifest : OperationManifest.codec.encode sampleManifest =
    .obj [(py "schema_version", .int 1),
      (py "protocol_version", .lit Protocol.protocolVersion.value),
      (py "canonicalization_id", .lit "dq-tagged-json-v1"), (py "execution_mode", .lit "unmanaged"),
      (py "operation_hash", .str (digestOf hashedRequest).1),
      (py "request", OperationRequest.codec.encode sampleRequest),
      (py "component", ComponentRef.codec.encode sampleComponent),
      (py "runner", RunnerIdentity.codec.encode sampleRunner),
      (py "input", .obj [(py "path", .str inputPath.1),
      (py "sha256", .str (digestOf sampleInput).1)]),
      (py "result", .obj [(py "path", .str resultPath.1),
      (py "sha256", .str (digestOf sampleResult).1)]), (py "artifacts", .list [])] := rfl

/-- A member of the manifest has a canonical form. -/
theorem accepts_fileDigest {name : String} {path : RelativeMemberPath} {sha256 : Sha256Text}
    (hPath : path.1 = py name) :
    Accepts (.obj [(py "path", .str path.1), (py "sha256", .str sha256.1)]) := by
  rw [hPath]
  refine accepts_obj.2 ?_
  simp only [List.forall_mem_cons]
  exact ⟨⟨encodable_py _, accepts_lit _⟩, ⟨encodable_py _, accepts_str.2 (encodable_sha256Text _)⟩,
    List.forall_mem_nil _⟩

/-- So the manifest has a canonical form. -/
theorem accepts_sampleManifest : Accepts (OperationManifest.codec.encode sampleManifest) := by
  have hKey : ∀ s : String, Text.Encodable (py s) := encodable_py
  rw [encode_sampleManifest]
  refine accepts_obj.2 ?_
  simp only [List.forall_mem_cons]
  exact ⟨⟨hKey _, accepts_one⟩, ⟨hKey _, accepts_lit _⟩, ⟨hKey _, accepts_lit _⟩,
    ⟨hKey _, accepts_lit _⟩,
    ⟨hKey _, accepts_str.2 (encodable_sha256Text _)⟩,
    ⟨hKey _, accepts_of_canonicalHash operationHash_sampleRequest⟩, ⟨hKey _, accepts_component⟩,
    ⟨hKey _, accepts_runner⟩, ⟨hKey _, accepts_fileDigest rfl⟩, ⟨hKey _, accepts_fileDigest rfl⟩,
    ⟨hKey _, accepts_seq.2 (List.forall_mem_nil _)⟩, List.forall_mem_nil _⟩

/-- So it has bytes. -/
theorem exists_sampleManifestBytes : ∃ manifestBytes, SampleManifestBytes manifestBytes := by
  have hLength : ∀ text : Text, (utf8Raw (text ++ [0x0A])).length = utf8Length text + 1 :=
    fun text => utf8Length_append text [0x0A]
  have hShort : utf8Length (render .pretty 0 (OperationManifest.codec.encode sampleManifest)) + 1 ≤
    2000 := by
    rw [encode_sampleManifest]
    simp only [digestOf, sha256Hex, sha256_eq_evaluate]
    decide +kernel
  refine ⟨_, documentBytes_of_accepts .pretty accepts_sampleManifest, ?_⟩
  exact (hLength _).trans_le hShort

/-! ### Its entry -/

/-- The files of its bundle, with some result. -/
def sampleBundle (manifestBytes result : Bytes) : Entries :=
  [(manifestName, .file .personal manifestBytes), (inputPath.1, .file .personal sampleInput),
    (resultPath.1, .file .personal result)]

def sampleEntry (recordBytes manifestBytes result : Bytes) : Option Node :=
  some (.directory .personal [(recordName, .file .personal recordBytes),
    (bundleName, .directory .personal (sampleBundle manifestBytes result))])

variable {recordBytes manifestBytes result : Bytes}

/-- The bundle of the entry is the directory of its three files. -/
theorem lookup_bundle (path : List Text) :
    lookup (sampleEntry recordBytes manifestBytes result) (bundleName :: path)
      = Node.lookup path (.directory .personal (sampleBundle manifestBytes result)) := by
  show (Node.child bundleName [(recordName, .file .personal recordBytes),
    (bundleName, .directory .personal (sampleBundle manifestBytes result))]).bind
    (Node.lookup path) = _
  rw [Node.child, if_neg (by decide), Node.child, if_pos rfl]
  rfl

/-- A file of the bundle is found under its name. -/
theorem lookup_bundle_file {name : Text} {content : Bytes}
    (h : (name, Node.file .personal content) ∈ sampleBundle manifestBytes result) :
    lookup (sampleEntry recordBytes manifestBytes result) [bundleName, name] =
      some (.file .personal content) := by
  have hNodup : ((sampleBundle manifestBytes result).map Prod.fst).Nodup := by
    show [manifestName, inputPath.1, resultPath.1].Nodup
    decide
  rw [lookup_bundle]
  show (Node.child name (sampleBundle manifestBytes result)).bind (Node.lookup []) = _
  rw [Node.child_eq_some hNodup h]
  rfl

/-- A private read of a file gives its content. -/
theorem answer_private {name : Text} {content : Bytes} {maximumBytes : ℕ}
    (h : (name, Node.file .personal content) ∈ sampleBundle manifestBytes result)
    (hLength : content.length ≤ maximumBytes) :
    answer (sampleEntry recordBytes manifestBytes result) (.readPrivateFile [bundleName, name]
      maximumBytes)
      = .ok content := by
  simp only [answer, lookup_bundle_file h]
  exact (if_pos rfl).trans (if_neg (not_lt.2 hLength))

/-- A plain read does as well. -/
theorem answer_regular {name : Text} {content : Bytes} {maximumBytes : ℕ}
    (h : (name, Node.file .personal content) ∈ sampleBundle manifestBytes result)
    (hLength : content.length ≤ maximumBytes) :
    answer (sampleEntry recordBytes manifestBytes result) (.readRegularFile [bundleName, name]
      maximumBytes)
      = .ok content := by
  simp only [answer, lookup_bundle_file h]
  exact if_neg (not_lt.2 hLength)

/-- A walk lists the three files. -/
theorem answer_walk : answer (sampleEntry recordBytes manifestBytes result) (.walk [bundleName])
    = .ok [⟨[], [], [inputPath.1, manifestName, resultPath.1]⟩] := by
  have hFiles : ∀ entry ∈ sampleBundle manifestBytes result, ∃ info content,
    entry.2 = .file info content := by
    intro entry hEntry
    simp only [sampleBundle, List.mem_cons, List.not_mem_nil, or_false] at hEntry
    rcases hEntry with rfl | rfl | rfl <;> exact ⟨_, _, rfl⟩
  have hSorted : sortBy utf8Raw [manifestName, inputPath.1, resultPath.1]
      = [inputPath.1, manifestName, resultPath.1] := by
    decide
  simp only [answer, lookup_bundle]
  show Except.ok (Node.walk [] (.directory .personal (sampleBundle manifestBytes result))) = _
  rw [Node.walk_of_files hFiles, ← hSorted]
  rfl

/-- Reading a file of the bundle, with the checks of its directory. -/
theorem replay_readPrivate {name : Text} {content : Bytes} {maximumBytes : ℕ}
    (h : (name, Node.file .personal content) ∈ sampleBundle manifestBytes result)
    (hLength : content.length ≤ maximumBytes) :
    (readPrivate [bundleName, name] maximumBytes).replay
      (answer (sampleEntry recordBytes manifestBytes result))
      = .ok content := by
  rw [readPrivate, Probe.replay_mapError, Except.mapError_eq_ok, Probe.replay_query]
  exact answer_private h hLength

/-- The members of the bundle, with some result. -/
def sampleMembers (result : Bytes) : List (Text × Bytes) :=
  [(inputPath.1, sampleInput), (resultPath.1, result)]

/-- The names of the bundle are portable and distinct; the manifest is not a member. -/
theorem collect_sample : ∃ key keys, portableMemberKey manifestName = .ok key ∧
    collectFiles [] [inputPath.1, manifestName, resultPath.1] ([key], [])
      = .ok (keys, [inputPath.1, resultPath.1]) := by
  let collected : Except ValueError (List Text) := do
    let key ← portableMemberKey manifestName
    let found ← collectFiles [] [inputPath.1, manifestName, resultPath.1] ([key], [])
    return found.2
  have hPaths : collected.toOption = some [inputPath.1, resultPath.1] := by decide
  cases h : collected with
  | error e =>
      rw [h] at hPaths
      cases hPaths
  | ok paths =>
      rw [h] at hPaths
      obtain ⟨key, hKey, h⟩ := Except.bind_eq_ok.1 h
      obtain ⟨⟨keys, found⟩, hFound, h⟩ := Except.bind_eq_ok.1 h
      cases h
      cases hPaths
      exact ⟨key, keys, hKey, hFound⟩

/-- Both members are read within the limit. -/
theorem replay_sampleMembers {remaining : ℕ} (h : 3 + result.length ≤ remaining) :
    (readMembers remaining [inputPath.1, resultPath.1]).replay
      (answer (sampleEntry recordBytes manifestBytes result))
      = .ok (sampleMembers result) := by
  have hInput : split 0x2F inputPath.1 = [inputPath.1] := by decide
  have hResult : split 0x2F resultPath.1 = [resultPath.1] := by decide
  have hLength : sampleInput.length = 3 := rfl
  have hFirst := @replay_readPrivate recordBytes manifestBytes result inputPath.1 sampleInput
    remaining
    (by simp [sampleBundle]) (by omega)
  have hSecond := @replay_readPrivate recordBytes manifestBytes result resultPath.1 result
    (remaining - sampleInput.length) (by simp [sampleBundle]) (by omega)
  simp only [readMembers, hInput, hResult, Probe.replay_bind, Probe.replay_pure]
  refine Except.bind_eq_ok.2 ⟨_, hFirst, Except.bind_eq_ok.2 ⟨_, ?_, rfl⟩⟩
  exact Except.bind_eq_ok.2 ⟨_, hSecond, rfl⟩

/-- The whole bundle is read within the limit. -/
theorem replay_readOperationBundle {limits : CasLimits}
    (hManifest : SampleManifestBytes manifestBytes)
    (h : 2000 + 3 + result.length ≤ limits.operationBundleBytes) :
    (readOperationBundle limits).replay (answer (sampleEntry recordBytes manifestBytes result))
      = .ok (manifestBytes, sampleMembers result) := by
  have hLength := hManifest.2
  obtain ⟨key, keys, hKey, hFound⟩ := collect_sample
  have hOwned : (validateOwnedDirectory [bundleName]).replay
      (answer (sampleEntry recordBytes manifestBytes result)) = .ok () := by
    rw [validateOwnedDirectory, Probe.replay_mapError, Except.mapError_eq_ok, Probe.replay_query]
    simp only [answer, lookup_bundle]
    rfl
  have hRead := @replay_readPrivate recordBytes manifestBytes result manifestName manifestBytes
    limits.operationBundleBytes (by simp [sampleBundle]) (by omega)
  have hMembers := @replay_sampleMembers recordBytes manifestBytes result
    (limits.operationBundleBytes - manifestBytes.length) (by omega)
  have hSorted : sortBy utf8Raw [inputPath.1, resultPath.1] = [inputPath.1, resultPath.1] := by
    decide
  unfold readOperationBundle
  simp only [Probe.replay_bind, Probe.replay_query, Probe.replay_lift, Except.bind_eq_ok,
    Except.mapError_eq_ok]
  refine ⟨(), hOwned, _, hRead, _, answer_walk, key, hKey, (keys, [inputPath.1, resultPath.1]),
    ?_, ?_⟩
  · unfold collectSteps validateDirectories collectSteps
    simp only [Probe.replay_bind, Probe.replay_pure, Probe.replay_lift, Except.bind_eq_ok,
      Except.mapError_eq_ok]
    exact ⟨(), trivial, _, hFound, rfl⟩
  · dsimp only
    rw [if_neg (not_not.2 (by decide)), hSorted, Probe.replay_bind, hMembers]
    rfl

/-! ### Its record -/

def sampleBinding : OperationBinding := ⟨⟨SortedObject.of [] Value.distinct_empty, none⟩, rfl⟩

/-- The members as a record declares them. -/
def declaredSample : List OperationMember :=
  [⟨.normalizedInput, inputPath, digestOf sampleInput, ⟨3, by decide⟩⟩,
    ⟨.result, resultPath, digestOf sampleResult, ⟨17, by decide⟩⟩]

def sampleRecordFields (manifestBytes : Bytes) : OperationRecordFields where
  protocolVersion := Protocol.protocolVersion
  component := sampleComponent
  operationHash := digestOf hashedRequest
  manifestSha256 := digestOf manifestBytes
  members := ⟨declaredSample, by decide⟩
  runner := sampleRunner
  renderers := ⟨[], by decide⟩
  binding := sampleBinding

/-- The members are declared in order. -/
theorem sorted_declaredSample : sortBy memberKey declaredSample = declaredSample := by
    decide +kernel

/-- The record passes its validator. -/
theorem validateRecord_sample : (sampleRecordFields manifestBytes).validateRecord = .ok () := by
  unfold OperationRecordFields.validateRecord
  simp only [Except.throwIf_eq_ok]
  have hKinds : ¬ ((declaredSample.map (fun m => m.kind)).count .normalizedInput ≠ 1 ∨
      (declaredSample.map (fun m => m.kind)).count .result ≠ 1) := by decide
  have hArtifacts : ¬ maxOperationArtifacts <
      (declaredSample.map (fun m => m.kind)).count .artifact := by decide
  have hPaths : ¬ distinctMembers (declaredSample.map (fun m => m.path.1)) = false := by decide
  have hId : ¬ utf8Within 1 240 sampleComponent.id.1 = false := by decide
  exact ⟨hKinds, hArtifacts, hPaths, not_not.2 sorted_declaredSample.symm, not_not.2 List.nodup_nil,
    not_not.2 rfl, hId, rfl⟩

def sampleOperationRecord (manifestBytes : Bytes) : OperationRecord :=
  ⟨sampleRecordFields manifestBytes, validateRecord_sample⟩

/-- The record is assembled from the manifest and the binding. -/
theorem assembleRecord_sample :
    assembleRecord sampleManifest manifestBytes (sortBy memberKey declaredSample) sampleBinding
      = .ok (sampleOperationRecord manifestBytes) := by
  rw [sorted_declaredSample]
  refine Except.bind_eq_ok.2 ⟨(sampleRecordFields manifestBytes).members, checked_eq_ok.2 rfl, ?_⟩
  exact Except.bind_eq_ok.2 ⟨(sampleRecordFields manifestBytes).renderers, checked_eq_ok.2 rfl,
    checked_eq_ok.2 rfl⟩

/-- A member is read within its own bound. -/
theorem replay_boundedMemberBytes {name : Text} {content : Bytes} {maximum : ℕ} {limitName : String}
    (h : (name, Node.file .personal content) ∈ sampleBundle manifestBytes result)
    (hLength : content.length ≤ maximum) :
    (boundedMemberBytes ([bundleName] ++ [name]) maximum limitName).replay
      (answer (sampleEntry recordBytes manifestBytes result)) = .ok content := by
  rw [boundedMemberBytes, Probe.replay_mapError, Except.mapError_eq_ok, Probe.replay_query]
  exact answer_regular h hLength

/-- A declared member is derived from its file. -/
theorem replay_deriveMember {kind : MemberKind} {path : RelativeMemberPath} {content : Bytes}
    {size : MemberSize}
    (h : (path.1, Node.file .personal content) ∈ sampleBundle manifestBytes result)
    (hLength : content.length ≤ (memberLimit kind).1) (hSize : size.1 = content.length) :
    (deriveMember [bundleName] (kind, ⟨path, digestOf content⟩)).replay
      (answer (sampleEntry recordBytes manifestBytes result)) = .ok ⟨kind, path, digestOf content,
        size⟩ := by
  obtain ⟨size, hBounds⟩ := size
  obtain rfl : size = content.length := hSize
  unfold deriveMember
  rw [Probe.replay_bind]
  refine Except.bind_eq_ok.2 ⟨content, replay_boundedMemberBytes h hLength, ?_⟩
  have hDigest : ¬ sha256Hex content ≠ (digestOf content).1 := not_not.2 rfl
  dsimp only
  rw [if_neg hDigest, dif_pos hBounds]
  rfl

/-- The members are derived from the files with their digests and sizes. -/
theorem replay_deriveMembers :
    (deriveMembers [bundleName] (declaredMembers sampleManifest)).replay
      (answer (sampleEntry recordBytes manifestBytes sampleResult)) = .ok declaredSample := by
  have hInput := @replay_deriveMember recordBytes manifestBytes sampleResult .normalizedInput
    inputPath sampleInput
    ⟨3, by decide⟩ (by simp [sampleBundle]) (by decide) rfl
  have hResult := @replay_deriveMember recordBytes manifestBytes sampleResult .result resultPath
    sampleResult
    ⟨17, by decide⟩ (by simp [sampleBundle]) (by decide) rfl
  show (deriveMembers [bundleName] [(.normalizedInput, ⟨inputPath, digestOf sampleInput⟩),
    (.result, ⟨resultPath, digestOf sampleResult⟩)]).replay _ = _
  simp only [deriveMembers, Probe.replay_bind, Probe.replay_pure]
  refine Except.bind_eq_ok.2 ⟨_, hInput, Except.bind_eq_ok.2 ⟨_, ?_, rfl⟩⟩
  exact Except.bind_eq_ok.2 ⟨_, hResult, rfl⟩

/-- The result is a document. -/
theorem loadResult_sampleResult : ∃ value, loadResult sampleResult = .ok value := by
  have hOk : (loadResult sampleResult).toOption.isSome = true := by decide +kernel
  cases h : loadResult sampleResult with
  | ok value => exact ⟨value, rfl⟩
  | error e =>
      rw [h] at hOk
      cases hOk

/-- The bytes are those that the manifest is written in. -/
theorem checkManifestBytes_sample (hManifest : SampleManifestBytes manifestBytes) :
    checkManifestBytes sampleManifest manifestBytes = .ok () := by
  obtain ⟨hPretty, -⟩ := hManifest
  have hDecode := decode_of_pretty hPretty
  obtain ⟨bs, text, hCanonical, -⟩ := documentBytes_eq_ok.1 hPretty
  have hSelf := pyEq_self_of_accepts _ (OperationManifest.codec.distinct_encode sampleManifest) ⟨bs,
    hCanonical⟩
  unfold checkManifestBytes
  refine Except.bind_eq_ok.2 ⟨_, Except.mapError_eq_ok.2 hPretty,
    Except.throwIf_eq_ok.2 ⟨not_not.2 rfl, ?_⟩⟩
  refine Except.bind_eq_ok.2 ⟨_, Except.mapError_eq_ok.2 hDecode, ?_⟩
  rw [hSelf]
  rfl

/-- The record is derived from the bundle. -/
theorem replay_deriveRecord (hManifest : SampleManifestBytes manifestBytes) :
    (deriveRecord sampleManifest [bundleName] sampleBinding).replay
      (answer (sampleEntry recordBytes manifestBytes sampleResult))
        = .ok (sampleOperationRecord manifestBytes) := by
  have hLength := hManifest.2
  obtain ⟨value, hValue⟩ := loadResult_sampleResult
  have hNames : answer (sampleEntry recordBytes manifestBytes sampleResult) (.iterdir [bundleName])
      = .ok [manifestName, inputPath.1, resultPath.1] := by
    simp only [answer, lookup_bundle]
    rfl
  have hCheck : checkNames (manifestName :: sampleManifest.1.paths) [manifestName, inputPath.1,
    resultPath.1]
      = .ok () :=
    Except.eq_ok_of_toOption (by decide)
  have hLimit : 2000 ≤ maxOperationBundleBytes := by decide
  have hRead := @replay_boundedMemberBytes recordBytes manifestBytes sampleResult manifestName
    manifestBytes
    maxOperationBundleBytes "operation_bundle_bytes" (by simp [sampleBundle]) (by omega)
  have hResult := @replay_boundedMemberBytes recordBytes manifestBytes sampleResult resultPath.1
    sampleResult
    maxNormalizedResultBytes "normalized_result_member_bytes" (by simp [sampleBundle]) (by decide)
  unfold deriveRecord
  rw [if_neg (by decide)]
  simp only [Probe.replay_bind, Probe.replay_mapError, Probe.replay_query, Probe.replay_lift,
    Except.bind_eq_ok, Except.mapError_eq_ok]
  refine ⟨_, hNames, (), hCheck, _, hRead, (), checkManifestBytes_sample hManifest, _,
    replay_deriveMembers, ?_⟩
  rw [if_neg ?_]
  · simp only [Probe.replay_bind, Probe.replay_lift, Except.bind_eq_ok, Except.mapError_eq_ok]
    exact ⟨_, hResult, value, hValue, assembleRecord_sample⟩
  · have hSum : (declaredSample.map (fun member => member.sizeBytes.1)).sum = 20 := rfl
    have hMaximum : maxOperationBundleBytes = 134217728 := rfl
    rw [hSum, hMaximum]
    omega

/-- The binding fits the manifest, without a source. -/
theorem validateBinding_sample : validateBinding sampleBinding sampleManifest none = .ok () :=
  Except.eq_ok_of_toOption (by decide)

/-- The record is built from the bundle that holds the result. -/
theorem build_sample (hManifest : SampleManifestBytes manifestBytes) :
    (buildOperationRecord sampleManifest [bundleName] (OperationBinding.codec.encode sampleBinding)
      none).replay (answer (sampleEntry recordBytes manifestBytes sampleResult))
        = .ok (sampleOperationRecord manifestBytes) := by
  unfold buildOperationRecord
  simp only [Probe.replay_bind, Probe.replay_lift, Except.bind_eq_ok, Except.mapError_eq_ok]
  exact ⟨sampleBinding, OperationBinding.codec.decode_encode _, (), validateBinding_sample,
    replay_deriveRecord hManifest⟩

/-- The record reconciles with the bundle it was built from. -/
theorem reconcile_sample (hManifest : SampleManifestBytes manifestBytes) :
    (reconcileOperationRecord (sampleOperationRecord manifestBytes) [bundleName] none).replay
      (answer (sampleEntry recordBytes manifestBytes sampleResult)) = .ok sampleManifest :=
  reconcile_of_build (build_sample hManifest)

/-- The record of one entry reconciles with it, and with another entry that holds the same bundle. -/
theorem records_reconcile_sample : ∃ record entry entry', entry ≠ entry' ∧
    (reconcileOperationRecord record [bundleName] none).replay (answer entry) = .ok sampleManifest ∧
      SameBundle entry entry' [bundleName] [bundleName] := by
  obtain ⟨manifestBytes, hManifest⟩ := exists_sampleManifestBytes
  have hFirst := records_reconcile.1 (sampleEntry [] manifestBytes sampleResult) sampleManifest
    [bundleName] _ none _
    (build_sample hManifest)
  have hSecond := records_reconcile.1 (sampleEntry [0x0A] manifestBytes sampleResult) sampleManifest
    [bundleName] _
    none _ (build_sample hManifest)
  -- the two entries differ in their record file alone
  have hNo : NoCollision (sampleEntry [] manifestBytes sampleResult)
    (sampleEntry [0x0A] manifestBytes sampleResult)
      [bundleName] [bundleName] := by
    rintro name x y hHeld ⟨info, hFile⟩ -
    refine hHeld.unique ⟨info, ?_⟩
    rw [List.singleton_append, lookup_bundle] at hFile ⊢
    exact hFile
  obtain ⟨-, hSame, -⟩ := records_reconcile.2 _ _ _ [bundleName] [bundleName] none none _ _ hFirst
    hSecond hNo
  refine ⟨_, _, _, fun hEntries => ?_, hFirst, hSame⟩
  simp only [sampleEntry, Option.some.injEq, Node.directory.injEq, List.cons.injEq, Prod.mk.injEq,
    Node.file.injEq] at hEntries
  exact absurd hEntries.2.1.2.2 (by simp)

/-- A member of the record has a canonical form. -/
theorem accepts_member {kind : MemberKind} {name : String} {path : RelativeMemberPath}
    {sha256 : Sha256Text} {size : MemberSize} (hPath : path.1 = py name) :
    Accepts (OperationMember.codec.encode ⟨kind, path, sha256, size⟩) := by
  have hSize : size.1.natAbs ≤ Canonical.maxSafeInteger := by
    have hBounds := size.2
    rw [Bool.and_eq_true, decide_eq_true_iff, decide_eq_true_iff] at hBounds
    have hMember : maxOperationMemberBytes = 134217728 := rfl
    have hSafe : 134217728 ≤ Canonical.maxSafeInteger := by decide
    omega
  show Accepts (.obj [(py "kind", .lit kind.value), (py "path", .str path.1),
    (py "sha256", .str sha256.1), (py "size_bytes", .int size.1)])
  rw [hPath]
  refine accepts_obj.2 ?_
  simp only [List.forall_mem_cons]
  exact ⟨⟨encodable_py _, accepts_lit _⟩, ⟨encodable_py _, accepts_lit _⟩,
    ⟨encodable_py _, accepts_str.2 (encodable_sha256Text _)⟩, ⟨encodable_py _, accepts_int.2 hSize⟩,
    List.forall_mem_nil _⟩

/-- So the record has a canonical form. -/
theorem accepts_sampleRecord :
    Accepts (OperationRecord.codec.encode (sampleOperationRecord manifestBytes)) := by
  have hKey : ∀ s : String, Text.Encodable (py s) := encodable_py
  have hEmpty : Accepts (.list []) := accepts_seq.2 (List.forall_mem_nil _)
  have hMembers : Accepts (.list (declaredSample.map OperationMember.codec.encode)) := by
    refine accepts_seq.2 ?_
    simp only [declaredSample, List.map_cons, List.map_nil, List.forall_mem_cons]
    exact ⟨accepts_member rfl, accepts_member rfl, List.forall_mem_nil _⟩
  have hBinding : Accepts (OperationBinding.codec.encode sampleBinding) := by
    show Accepts (.obj [(py "literals", .obj [])])
    refine accepts_obj.2 ?_
    simp only [List.forall_mem_cons]
    exact ⟨⟨hKey _, accepts_obj.2 (List.forall_mem_nil _)⟩, List.forall_mem_nil _⟩
  rw [encode_record]
  refine accepts_obj.2 ?_
  simp only [recordMembers, List.forall_mem_cons]
  exact ⟨⟨hKey _, accepts_one⟩, ⟨hKey _, accepts_lit _⟩, ⟨hKey _, accepts_one⟩,
    ⟨hKey _, accepts_lit _⟩,
    ⟨hKey _, accepts_lit _⟩, ⟨hKey _, accepts_component⟩,
    ⟨hKey _, accepts_str.2 (encodable_sha256Text _)⟩,
    ⟨hKey _, accepts_str.2 (encodable_sha256Text _)⟩, ⟨hKey _, hMembers⟩, ⟨hKey _, accepts_runner⟩,
    ⟨hKey _, hEmpty⟩, ⟨hKey _, hBinding⟩, ⟨hKey _, hEmpty⟩, List.forall_mem_nil _⟩

/-- It takes at most 4000 bytes. -/
theorem size_sampleRecord :
    size (OperationRecord.codec.encode (sampleOperationRecord manifestBytes)) ≤ 4000 := by
  have hFixed : size (.int 1) + size (.lit "operation") + size (.int 1) + size (.lit "unmanaged") +
      size (.lit Protocol.protocolVersion.value) +
      size (ComponentRef.codec.encode sampleComponent) +
      size (.list (declaredSample.map OperationMember.codec.encode)) +
      size (RunnerIdentity.codec.encode sampleRunner) + size (.list []) +
      size (OperationBinding.codec.encode sampleBinding) + size (.list []) ≤ 2000 := by
    simp only [declaredSample, digestOf, sha256Hex, sha256_eq_evaluate]
    decide +kernel
  have hKeys :
    ([py "host_schema_version", py "record_kind", py "host_binding_version", py "execution_mode",
      py "protocol_version", py "component", py "operation_hash", py "manifest_sha256",
      py "members", py "runner", py "renderers", py "binding", py "compatibility"].map
      (fun key => utf8Length (writeString key))).sum ≤ 500 := by
    decide
  have hDigest : ∀ digest : Sha256Text, size (.str digest.1) = 66 := by
    intro digest
    obtain ⟨hLength, hPlain⟩ := isPlain_of_isSha256 digest.2
    rw [size_str_of_isPlain hPlain, hLength]
  have hMembers : recordMembers (sampleOperationRecord manifestBytes) =
      [(py "host_schema_version", .int 1), (py "record_kind", .lit "operation"),
        (py "host_binding_version", .int 1), (py "execution_mode", .lit "unmanaged"),
        (py "protocol_version", .lit Protocol.protocolVersion.value),
        (py "component", ComponentRef.codec.encode sampleComponent),
        (py "operation_hash", .str (digestOf hashedRequest).1),
        (py "manifest_sha256", .str (digestOf manifestBytes).1),
        (py "members", .list (declaredSample.map OperationMember.codec.encode)),
        (py "runner", RunnerIdentity.codec.encode sampleRunner), (py "renderers", .list []),
        (py "binding", OperationBinding.codec.encode sampleBinding),
        (py "compatibility", .list [])] := rfl
  rw [encode_record, hMembers]
  refine (size_obj_le _).trans ((Nat.add_le_add_right (Nat.add_le_add_left hKeys _) _).trans ?_)
  simp only [List.map_cons, List.map_nil, List.sum_cons, List.sum_nil, List.length_cons,
    List.length_nil, hDigest]
  -- the sizes of the fixed values are atoms here, not to be computed
  generalize size (.int 1) = one, size (.lit "operation") = kind, size (.lit "unmanaged") = mode,
    size (.lit Protocol.protocolVersion.value) = version, size (.list []) = empty,
    size (ComponentRef.codec.encode sampleComponent) = component,
    size (.list (declaredSample.map OperationMember.codec.encode)) = members,
    size (RunnerIdentity.codec.encode sampleRunner) = runner,
    size (OperationBinding.codec.encode sampleBinding) = binding at hFixed ⊢
  omega

/-! ### Publishing and loading it -/

def bundleLimits : CasLimits :=
  ⟨10000, 10000, 10000, 100000, by decide, by decide, by decide, by decide⟩

/-- A record that was written within the limit is read back under its reference. -/
theorem verifyOperationRecord_of_written {limits : CasLimits} {record : OperationRecord}
    {recordBytes : Bytes}
    {reference : Text} (hWritten : casJsonBytes (OperationRecord.codec.encode record) =
      .ok recordBytes)
    (hLength : recordBytes.length ≤ limits.recordBytes)
    (hReference : record.reference = .ok reference) :
    verifyOperationRecord limits reference recordBytes = .ok record := by
  have hRead := readDocument_of_written OperationRecord.codec hWritten hLength
  unfold verifyOperationRecord
  refine Except.bind_eq_ok.2 ⟨record, hRead, Except.bind_eq_ok.2 ⟨recordBytes, hWritten, ?_⟩⟩
  refine Except.bind_eq_ok.2 ⟨(), Except.raiseIf_eq_ok.2 (not_not.2 rfl), ?_⟩
  refine Except.bind_eq_ok.2 ⟨reference, hReference, ?_⟩
  exact Except.bind_eq_ok.2 ⟨(), Except.raiseIf_eq_ok.2 (not_not.2 rfl), rfl⟩

/-- The record is written, and it has a reference. -/
theorem exists_sampleReference : ∃ recordBytes reference loc,
    casJsonBytes (OperationRecord.codec.encode (sampleOperationRecord manifestBytes)) =
    .ok recordBytes ∧
      recordBytes.length ≤ bundleLimits.recordBytes ∧
        (sampleOperationRecord manifestBytes).reference = .ok reference ∧
      destinationOf reference .operation = .ok loc := by
  obtain ⟨recordBytes, hWritten⟩ : ∃ content,
      casJsonBytes (OperationRecord.codec.encode (sampleOperationRecord manifestBytes)) =
      .ok content :=
    ⟨_, documentBytes_of_accepts .compactSorted accepts_sampleRecord⟩
  obtain ⟨digest, hDigest⟩ := (@canonicalHash_isOk_iff _ operationRecordHashDomain (by decide)).2
    accepts_sampleRecord
  obtain ⟨payload, -, hSha⟩ := Except.bind_eq_ok.1 hDigest
  have hReference : (sampleOperationRecord manifestBytes).reference =
    .ok (makeReference .operation digest) := by
    unfold OperationRecord.reference OperationRecord.digest
    rw [hDigest]
    rfl
  obtain rfl := Except.pure_eq_ok.1 hSha
  have hLength := length_casJsonBytes hWritten
  have hSize := @size_sampleRecord manifestBytes
  have hRoom : bundleLimits.recordBytes = 10000 := rfl
  exact ⟨recordBytes, _, _, hWritten, by omega, hReference,
    destinationOf_makeReference .operation (isSha256_sha256Hex _)⟩

/-- The record of the sample is nested a few levels deep. -/
theorem encodes_sampleRecord :
    roomyRecursion.encodes (OperationRecord.codec.encode (sampleOperationRecord manifestBytes)) =
      true := rfl

/-- The manifest is encoded within the recursion limit. -/
theorem encodes_sampleManifest :
    roomyRecursion.encodes (OperationManifest.codec.encode sampleManifest) = true := by
      decide +kernel

/-- It is nested three deep and has fewer than 900 nodes. -/
theorem fits_sampleManifest : fits 3 (OperationManifest.codec.encode sampleManifest)
    900 = true := by
  decide +kernel

/-- The sample can be published: its manifest is read, and its record written. -/
theorem operationArguments_sample (hManifest : SampleManifestBytes manifestBytes)
    (hWritten : casJsonBytes (OperationRecord.codec.encode (sampleOperationRecord manifestBytes)) =
      .ok recordBytes) :
    operationArgumentsWithin roomyRecursion
      (OperationRecord.codec.encode (sampleOperationRecord manifestBytes))
      manifestBytes (sampleMembers sampleResult)
        = .ok (sampleOperationRecord manifestBytes, sampleMembers sampleResult, recordBytes) := by
  obtain ⟨hPretty, hLength⟩ := hManifest
  have hMembers : validatedMemberMapping (sampleMembers sampleResult) =
    .ok (sampleMembers sampleResult) :=
    Except.eq_ok_of_toOption (by decide)
  have hLimit : maxOperationBundleBytes = 134217728 := rfl
  have hLoads := @strictJsonLoads_documentBytes .pretty _ _ (some maxOperationBundleBytes)
    (OperationManifest.codec.distinct_encode sampleManifest) hPretty (by
      intro maximum h
      cases h
      omega)
  have hSorted := @normal_of_sortKeys .pretty rfl (OperationManifest.codec.encode sampleManifest)
  have hDecode := OperationManifest.codec.decode_sorted_encode sampleManifest
  rw [← hSorted] at hDecode
  have hRead := @strictJsonLoadsWithin_of_fits roomyRecursion _ _ _ hLoads
    (fits_normal .pretty _ fits_sampleManifest) (fits_normal .pretty _ encodes_sampleManifest)
  have hValidated : validatedManifestWithin roomyRecursion manifestBytes = .ok sampleManifest := by
    refine Except.bind_eq_ok.2 ⟨_, hRead, Except.bind_eq_ok.2 ⟨sampleManifest,
      Except.mapError_eq_ok.2 hDecode, ?_⟩⟩
    refine Except.bind_eq_ok.2 ⟨manifestBytes, ?_, if_neg (not_not.2 rfl)⟩
    rw [Recursion.through_of_encodes encodes_sampleManifest]
    exact Except.mapError_eq_ok.2 hPretty
  refine Except.bind_eq_ok.2 ⟨(sampleOperationRecord manifestBytes), ?_, ?_⟩
  · rw [Recursion.through_of_encodes encodes_sampleRecord]
    exact Except.mapError_eq_ok.2 (OperationRecord.codec.decode_encode _)
  refine Except.bind_eq_ok.2 ⟨sampleManifest, hValidated, ?_⟩
  refine Except.bind_eq_ok.2 ⟨_, Except.mapError_eq_ok.2 hMembers, Except.bind_eq_ok.2 ⟨recordBytes,
    ?_, rfl⟩⟩
  rw [Recursion.through_of_encodes encodes_sampleRecord]
  exact Except.mapError_eq_ok.2 hWritten

/-- The entry reads as its record, its manifest and its members, whatever its result is. -/
theorem replay_readOperation_sample {reference : Text}
    (hManifest : SampleManifestBytes manifestBytes)
    (hWritten : casJsonBytes (OperationRecord.codec.encode (sampleOperationRecord manifestBytes)) =
      .ok recordBytes)
    (hLength : recordBytes.length ≤ bundleLimits.recordBytes)
    (hReference : (sampleOperationRecord manifestBytes).reference = .ok reference)
    (hResult : result.length ≤ 17) :
    (readOperation bundleLimits reference).replay
      (answer (sampleEntry recordBytes manifestBytes result))
      = .ok ((sampleOperationRecord manifestBytes), manifestBytes, sampleMembers result) := by
  have hLimit : bundleLimits.operationBundleBytes = 10000 := rfl
  have hOwned :
    (validateOwnedDirectory []).replay (answer (sampleEntry recordBytes manifestBytes result))
      = .ok () := by
    rw [validateOwnedDirectory, Probe.replay_mapError, Except.mapError_eq_ok, Probe.replay_query]
    rfl
  have hNames : answer (sampleEntry recordBytes manifestBytes result) (.iterdir [])
      = .ok [recordName, bundleName] := rfl
  have hRecord : (readPrivate [recordName] bundleLimits.recordBytes).replay
      (answer (sampleEntry recordBytes manifestBytes result)) = .ok recordBytes := by
    rw [readPrivate, Probe.replay_mapError, Except.mapError_eq_ok, Probe.replay_query]
    have hFile : lookup (sampleEntry recordBytes manifestBytes result) [recordName]
        = some (.file .personal recordBytes) := by
      show (Node.child recordName [(recordName, .file .personal recordBytes),
        (bundleName, .directory .personal (sampleBundle manifestBytes result))]).bind
        (Node.lookup []) = _
      rw [Node.child, if_pos rfl]
      rfl
    simp only [answer, hFile]
    exact (if_pos rfl).trans (if_neg (not_lt.2 hLength))
  have hVerify := verifyOperationRecord_of_written hWritten hLength hReference
  have hBundle := @replay_readOperationBundle recordBytes manifestBytes result bundleLimits
    hManifest (by omega)
  have hSame : sameNames [recordName, bundleName] [recordName, bundleName] = true := by decide
  -- only what was read matters from here on
  generalize (sampleOperationRecord manifestBytes) = record at hVerify ⊢
  unfold readOperation
  simp only [Probe.replay_bind, Probe.replay_query, Except.bind_eq_ok]
  refine ⟨(), hOwned, _, hNames, ?_⟩
  rw [hSame, if_neg Bool.noConfusion]
  simp only [Probe.replay_bind, Probe.replay_lift, Except.bind_eq_ok, Except.mapError_eq_ok]
  exact ⟨recordBytes, hRecord, record, hVerify, (manifestBytes, sampleMembers result), hBundle, rfl⟩

/-- An operation that can be published where its entry is, and the same entry with an empty result:
read first, it is returned as an operation that its record does not describe. -/
theorem exists_sample : ∃ loc good empty stored, Publishable bundleLimits loc good stored ∧
    Holds good [bundleName] resultPath.1 sampleResult ∧
      ReadTwice bundleLimits { stored with members := sampleMembers [] } empty good := by
  obtain ⟨manifestBytes, hManifest⟩ := exists_sampleManifestBytes
  obtain ⟨recordBytes, reference, loc, hWritten, hLength, hReference, hDestination⟩ :=
    @exists_sampleReference manifestBytes
  have hShort := hManifest.2
  have hLimit : bundleLimits.operationBundleBytes = 10000 := rfl
  have hSum : ((sampleMembers sampleResult).map (fun member => member.2.length)).sum = 20 := rfl
  have hSize : answer (sampleEntry recordBytes manifestBytes sampleResult) .privateTreeSize
      = .ok (recordBytes.length + (manifestBytes.length + 20)) := by
    have hTree : Node.treeSize [(recordName, .file .personal recordBytes),
        (bundleName, .directory .personal (sampleBundle manifestBytes sampleResult))]
          = .ok (recordBytes.length + (manifestBytes.length + 20)) := by
      rfl
    simp only [answer, sampleEntry, Option.bind_some, Node.resolve, hTree]
  have hRead := @replay_readOperation_sample recordBytes manifestBytes sampleResult reference
    hManifest hWritten
    hLength hReference le_rfl
  have hReadEmpty := @replay_readOperation_sample recordBytes manifestBytes [] reference hManifest
    hWritten
    hLength hReference (Nat.zero_le _)
  have hArguments := operationArguments_sample hManifest hWritten
  have hReconcile := @reconcile_sample recordBytes manifestBytes hManifest
  have hLiteral : (sampleOperationRecord manifestBytes).1.binding.1.source = none := rfl
  have hHolds : Holds (sampleEntry recordBytes manifestBytes sampleResult) [bundleName] resultPath.1
    sampleResult :=
    ⟨.personal, lookup_bundle_file (by simp [sampleBundle])⟩
  -- only what was read and written matters from here on
  generalize sampleOperationRecord manifestBytes = record at *
  generalize sampleManifest = manifest at *
  refine ⟨loc, sampleEntry recordBytes manifestBytes sampleResult,
    sampleEntry recordBytes manifestBytes [],
    ⟨reference, record, manifest, manifestBytes, sampleMembers sampleResult⟩, ?_, hHolds, ?_⟩
  · refine ⟨⟨recordBytes, hLength, hArguments⟩, ?_, hReference, hDestination, rfl, ⟨_, hSize, ?_⟩,
      hRead, hLiteral, hReconcile⟩
    · show manifestBytes.length + _ ≤ _
      rw [hSum, hLimit]
      omega
    · have hRecords : bundleLimits.recordBytes = 10000 := rfl
      have hSession : bundleLimits.sessionBytes = 100000 := rfl
      omega
  · exact ⟨hReadEmpty, hLiteral, hReconcile⟩

end SessionCas
