import DefinedQuant.Shared.OperationRuntime

/-!
# An operation takes effect as a whole or not at all

`executeOperation` always returns. When it returns a success, the output directory holds the
manifest and its members; when it returns a failure, every entry of the parent is as it was before,
up to a staging directory whose removal failed. Two failures break this, and only these two: a
staging directory that was made but could not be made private is forgotten, and a test whether the
staging directory is still there that fails is taken for a failure of the whole operation, also
behind the rename.
-/

namespace OperationRuntime

open Json Canonical Protocol DataRecords HostFailures LocalHost FileTree Effect

variable {w w' : World}

/-! ## Steps that change nothing -/

/-- A run that leaves the entries alone, without an incident. -/
structure Rests (w w' : World) : Prop where
  entry : w'.entry = w.entry
  incidents : w'.incidents = w.incidents

instance : Std.Refl Rests where
  refl _ := ⟨rfl, rfl⟩

instance : IsTrans World Rests where
  trans _ _ _ h h' := ⟨h'.entry.trans h.entry, h'.incidents.trans h.incidents⟩

/-- A step of time leaves every entry. -/
theorem rests_next (w : World) : Rests w w.next := ⟨rfl, rfl⟩

/-- Testing a name leaves every entry. -/
theorem keeps_rests_test {α : Type} (name : Text) (f : Option Node → α) :
    Keeps Rests (test name f) := by
  intro w
  show Rests w (final (test name f w))
  unfold test
  split <;> exact rests_next w

/-- `os.path.lexists` leaves every entry. -/
theorem keeps_rests_lexists (name : Text) : Keeps Rests (lexists name) := by
  intro w
  show Rests w (final (lexists name w))
  unfold lexists
  split <;> exact rests_next w

/-- Asking about a name leaves every entry. -/
theorem keeps_rests_ask {α : Type} (name : Text) (q : Query α) : Keeps Rests (ask name q) := by
  intro w
  show Rests w (final (ask name q w))
  unfold ask
  split
  · exact rests_next w
  · split <;> exact rests_next w

/-- Listing a directory leaves every entry. -/
theorem keeps_rests_iterdir (name : Text) : Keeps Rests (iterdir name) := by
  intro w
  show Rests w (final (iterdir name w))
  unfold iterdir
  split
  · exact rests_next w
  · split <;> exact rests_next w

/-- The parent directory is there already. -/
theorem keeps_rests_ensureDirectoryPath : Keeps Rests ensureDirectoryPath := by
  intro w
  show Rests w (final (ensureDirectoryPath w))
  unfold ensureDirectoryPath
  split <;> exact rests_next w

/-- The check of the output name leaves every entry. -/
theorem keeps_rests_assertOutputAvailable (output : Text) (component : Option ComponentRef) :
    Keeps Rests (assertOutputAvailable output component) :=
  keeps_bind (keeps_rests_lexists output) (fun _ => keeps_ite (fun _ => keeps_throw _)
    (fun _ => keeps_pure _))

/-- So does the check of its path. -/
theorem keeps_rests_safeOutputDirectory (path : OutputPath) (component : Option ComponentRef) :
    Keeps Rests (safeOutputDirectory path component) := by
  refine keeps_bind (keeps_lift _ _) (fun _ => ?_)
  refine keeps_bind (keeps_lift _ _) (fun link => keeps_ite (fun _ => keeps_throw _) (fun _ => ?_))
  refine keeps_bind (keeps_lift _ _) (fun _ => keeps_ite (fun _ => keeps_throw _) (fun _ => ?_))
  refine keeps_bind (keeps_rests_test _ _) (fun _ => keeps_ite (fun _ => ?_)
    (fun _ => keeps_pure _))
  refine keeps_bind (keeps_rests_test _ _) (fun _ => ?_)
  exact keeps_ite (fun _ => keeps_pure _) (fun _ => keeps_throw _)

/-- And both together. -/
theorem keeps_rests_prepareOutputDirectory (path : OutputPath) (component : Option ComponentRef) :
    Keeps Rests (prepareOutputDirectory path component) := by
  refine keeps_bind (keeps_rests_safeOutputDirectory path component) (fun output => ?_)
  exact keeps_bind (keeps_rests_assertOutputAvailable output component) (fun _ => keeps_pure _)

/-- Translating errors keeps what the computation keeps. -/
theorem keeps_translate {α : Type} {R : World → World → Prop} [Std.Refl R] [IsTrans World R]
    {caught : Thrown → Bool} {error : String → Thrown} {x : Run α} (hx : Keeps R x) :
    Keeps R (translate caught error x) := by
  refine keeps_rescue hx (fun e => ?_)
  split
  · exact keeps_throw _
  · exact keeps_ite (fun _ => keeps_throw _) (fun _ => keeps_throw _)

/-- A handler that only translates lets every result through. -/
theorem run_translate_eq_ok {α : Type} {caught : Thrown → Bool} {error : String → Thrown}
    {x : Run α} {a : α} :
    (translate caught error x).run w = .ok a w' ↔ x.run w = .ok a w' := by
  unfold translate
  rw [run_rescue_eq_ok]
  constructor
  · rintro (h | ⟨e, t, -, h⟩)
    · exact h
    · split at h
      · cases h
      · split at h <;> cases h
  · exact .inl

/-- What is raised behind such a handler was raised before it, in the same state. -/
theorem run_translate_eq_error {α : Type} {caught : Thrown → Bool} {error : String → Thrown}
    {x : Run α} {e : Thrown} (h : (translate caught error x).run w = .error e w') :
    ∃ e', x.run w = .error e' w' := by
  obtain ⟨e', t, hRun, h⟩ := run_rescue_eq_error.1 h
  refine ⟨e', ?_⟩
  split at h
  · cases h
    exact hRun
  · split at h
    · cases h
      exact hRun
    · cases h
      exact hRun

/-! ## The bundle -/

/-- A directory holds the members of a manifest, and nothing else: every declared member with its
digest, and the manifest itself. -/
structure HoldsBundle (manifest : OperationManifest) (entry : Option Node) : Prop where
  names : ∃ info entries, entry = some (.directory info entries) ∧
    ∀ name, name ∈ entries.map Prod.fst ↔ name ∈ expectedNames manifest
  members : ∀ member ∈ declared manifest, ∃ info content,
    lookup entry [member.1] = some (.file info content) ∧ sha256 content = member.2
  manifest : ∃ info content, lookup entry [manifestMember] = some (.file info content) ∧
    prettyJson (OperationManifest.codec.encode manifest) = .ok content

/-- A question that returns has been answered by the entry. -/
theorem run_ask_eq_ok {α : Type} {name : Text} {q : Query α} {a : α}
    (h : (ask name q).run w = .ok a w') :
    answer (w.entry name) q = .ok a := by
  change ask name q w = _ at h
  unfold ask at h
  split at h
  · cases h
  · split at h
    · next hAnswer =>
        cases h
        exact hAnswer
    · cases h

/-- A listing that returns has been answered by the entry. -/
theorem run_iterdir_eq_ok {name : Text} {names : List Text}
    (h : (iterdir name).run w = .ok names w') :
    answer (w.entry name) (.iterdir []) = .ok names := by
  change iterdir name w = _ at h
  unfold iterdir at h
  split at h
  · cases h
  · split at h
    · next hAnswer =>
        cases h
        exact hAnswer
    · cases h

/-- A file that was read as a private one. -/
theorem file_of_answer {entry : Option Node} {path : List Text} {maximumBytes : ℕ} {content : Bytes}
    (h : answer entry (.readPrivateFile path maximumBytes) = .ok content) :
    ∃ info, lookup entry path = some (.file info content) := by
  simp only [answer] at h
  split at h
  · next info content' hFile =>
      split at h
      · unfold readContent at h
        split at h <;> cases h
        exact ⟨info, hFile⟩
      · cases h
  all_goals cases h

/-- Looking for irregular files leaves every entry. -/
theorem keeps_rests_anyIrregular (stage : Text) (names : List Text) :
    Keeps Rests (anyIrregular stage names) := by
  induction names with
  | nil => exact keeps_pure _
  | cons name rest ih =>
      refine keeps_bind (keeps_rests_test _ _) (fun _ => keeps_ite (fun _ => keeps_pure _)
        (fun _ => ?_))
      exact keeps_bind (keeps_rests_test _ _) (fun _ => keeps_ite (fun _ => ih)
        (fun _ => keeps_pure _))

/-- Verifying the members leaves every entry. -/
theorem keeps_rests_verifyMembers (stage : Text) (members : List (Text × Text)) :
    Keeps Rests (verifyMembers stage members) := by
  induction members with
  | nil => exact keeps_pure _
  | cons member rest ih =>
      exact keeps_bind (keeps_rests_ask _ _) (fun _ => keeps_ite (fun _ => keeps_throw _)
        (fun _ => ih))

/-- Reconciling the bundle leaves every entry. -/
theorem keeps_rests_reconcileBundle (stage : Text) (manifest : OperationManifest) :
    Keeps Rests (reconcileBundle stage manifest) := by
  refine keeps_bind (keeps_rests_ask _ _) (fun _ => ?_)
  refine keeps_bind (keeps_lift _ _) (fun _ => ?_)
  refine keeps_bind (keeps_rests_iterdir _) (fun _ => ?_)
  refine keeps_bind (keeps_lift _ _) (fun _ => keeps_ite (fun _ => keeps_throw _) (fun _ => ?_))
  refine keeps_bind (keeps_rests_anyIrregular _ _) (fun _ => keeps_ite (fun _ => keeps_throw _)
    (fun _ => ?_))
  refine keeps_bind (keeps_rests_ask _ _) (fun _ => ?_)
  refine keeps_bind (keeps_lift _ _) (fun _ => keeps_ite (fun _ => keeps_throw _) (fun _ => ?_))
  refine keeps_bind (keeps_lift _ _) (fun _ => ?_)
  exact keeps_ite (fun _ => keeps_throw _) (fun _ => keeps_rests_verifyMembers _ _)

/-- Every declared member has been read with its digest. -/
theorem verifyMembers_spec {stage : Text} {members : List (Text × Text)}
    (h : (verifyMembers stage members).run w = .ok () w') :
    ∀ member ∈ members, ∃ info content,
      lookup (w.entry stage) [member.1] = some (.file info content) ∧
      sha256 content = member.2 := by
  induction members generalizing w with
  | nil =>
      intro member hMember
      cases hMember
  | cons first rest ih =>
      obtain ⟨content, t, hRead, h⟩ := run_bind_eq_ok.1 h
      have hRests := (keeps_rests_ask _ _).ok hRead
      by_cases hDigest : sha256 content ≠ first.2
      · rw [if_pos hDigest] at h
        cases h
      · rw [if_neg hDigest] at h
        rw [List.forall_mem_cons]
        obtain ⟨info, hFile⟩ := file_of_answer (run_ask_eq_ok hRead)
        refine ⟨⟨info, content, hFile, not_not.1 hDigest⟩, ?_⟩
        rw [← hRests.entry]
        exact ih h

/-- A staged bundle that was reconciled holds what its manifest says. -/
theorem reconcileBundle_spec {stage : Text} {manifest : OperationManifest}
    (h : (reconcileBundle stage manifest).run w = .ok () w') :
    HoldsBundle manifest (w.entry stage) := by
  obtain ⟨_, t₁, hDirectory, h⟩ := run_bind_eq_ok.1 h
  obtain ⟨_, -, h⟩ := run_lift_bind_eq_ok.1 h
  obtain ⟨names, t₂, hNames, h⟩ := run_bind_eq_ok.1 h
  obtain ⟨_, -, h⟩ := run_lift_bind_eq_ok.1 h
  split at h
  · cases h
  next hSame =>
  obtain ⟨irregular, t₃, hIrregular, h⟩ := run_bind_eq_ok.1 h
  split at h
  · cases h
  obtain ⟨manifestBytes, t₄, hManifest, h⟩ := run_bind_eq_ok.1 h
  obtain ⟨pretty, hPretty, h⟩ := run_lift_bind_eq_ok.1 h
  split at h
  · cases h
  next hBytes =>
  obtain ⟨_, -, h⟩ := run_lift_bind_eq_ok.1 h
  split at h
  · cases h
  -- Between the looks nothing moves, so that all of them saw the stage as it was at the start.
  have hFirst := ((keeps_rests_ask _ _).ok hDirectory).entry
  have hSecond := ((keeps_rests_iterdir _).ok hNames).entry.trans hFirst
  have hThird := ((keeps_rests_anyIrregular _ _).ok hIrregular).entry.trans hSecond
  have hFourth := ((keeps_rests_ask _ _).ok hManifest).entry.trans hThird
  have hList := run_iterdir_eq_ok hNames
  rw [hFirst] at hList
  refine ⟨?_, ?_, ?_⟩
  -- The names in the directory are those of the manifest; the members verify one by one; the
  -- manifest on disk is the one expected.
  · have hAnswer := run_ask_eq_ok hDirectory
    simp only [answer, lookup] at hAnswer
    cases hEntry : w.entry stage with
    | none =>
        rw [hEntry] at hAnswer
        cases hAnswer
    | some node =>
        cases node with
        | directory info entries =>
            rw [hEntry] at hList
            have hNames : entries.map Prod.fst = names := by
              cases hList
              rfl
            refine ⟨info, entries, rfl, fun name => ?_⟩
            rw [hNames]
            simp only [not_or, not_not, Bool.not_eq_false, sameNames, decide_eq_true_eq] at hSame
            exact ⟨hSame.2.2.1 name, hSame.2.2.2 name⟩
        | file info content =>
            rw [hEntry] at hAnswer
            cases hAnswer
        | symlink target =>
            rw [hEntry] at hAnswer
            cases hAnswer
        | special info =>
            rw [hEntry] at hAnswer
            cases hAnswer
  · rw [← hFourth]
    exact verifyMembers_spec h
  · obtain ⟨info, hFile⟩ := file_of_answer (run_ask_eq_ok hManifest)
    rw [hThird] at hFile
    rw [not_not] at hBytes
    exact ⟨info, manifestBytes, hFile, hBytes ▸ hPretty⟩

/-! ## Steps on the staging directory -/

/-- The entry is a directory, not a link to one. -/
def IsDirectory (entry : Option Node) : Prop :=
  ∃ info entries, entry = some (.directory info entries)

/-- A run that works inside a staging directory, without an incident. -/
structure Works (stage : Text) (w w' : World) : Prop where
  others : ∀ name, name ≠ stage → w'.entry name = w.entry name
  isDirectory : IsDirectory (w.entry stage) → IsDirectory (w'.entry stage)
  incidents : w'.incidents = w.incidents

instance (stage : Text) : Std.Refl (Works stage) where
  refl _ := ⟨fun _ _ => rfl, id, rfl⟩

instance (stage : Text) : IsTrans World (Works stage) where
  trans _ _ _ h h' :=
    ⟨fun name hName => (h'.others name hName).trans (h.others name hName),
      fun hDirectory => h'.isDirectory (h.isDirectory hDirectory), h'.incidents.trans h.incidents⟩

/-- What leaves every entry works on the stage only. -/
theorem Rests.works (h : Rests w w') (stage : Text) : Works stage w w' :=
  ⟨fun name _ => by rw [h.entry], fun hDirectory => by rwa [h.entry], h.incidents⟩

/-- A file created in a directory leaves it a directory. -/
theorem isDirectory_createFile {content : Bytes} {member : Text} {entry node : Option Node}
    (h : createFile content [member] entry = .ok node) (hDirectory : IsDirectory entry) :
    IsDirectory node := by
  obtain ⟨info, entries, rfl⟩ := hDirectory
  cases hChild : Node.child member entries with
  | none =>
      simp only [createFile, Node.createFile, Node.changeAt, hChild] at h
      cases h
      exact ⟨_, _, rfl⟩
  | some child =>
      simp only [createFile, Node.createFile, Node.changeAt, hChild] at h
      cases h

/-- A new file in the stage is work on the stage. -/
theorem works_set {stage : Text} {node : Option Node} {content : Bytes} {member : Text}
    (h : createFile content [member] (w.entry stage) = .ok node) :
    Works stage w (w.next.set stage node) := by
  refine ⟨fun name hName => Function.update_of_ne hName _ _, fun hDirectory => ?_, rfl⟩
  show IsDirectory (Function.update w.entry stage node stage)
  rw [Function.update_self]
  exact isDirectory_createFile h hDirectory

/-- A private file is created in the stage, or not at all. -/
theorem keeps_works_createPrivateFile (stage member : Text) (content : Bytes) :
    Keeps (Works stage) (createPrivateFile stage member content) := by
  intro w
  show Works stage w (final (createPrivateFile stage member content w))
  unfold createPrivateFile
  cases w.fault w.tick with
  | some fault =>
      simp only
      split
      · next node hPart =>
          obtain ⟨part, -, hPart⟩ := Option.map_eq_some_iff.1 hPart
          exact works_set hPart
      · exact (rests_next w).works stage
  | none =>
      simp only
      split
      · next node hNode => exact works_set hNode
      · exact (rests_next w).works stage

/-- All artifacts are written in the stage. -/
theorem keeps_works_writeArtifacts (stage : Text) (artifacts : List (Visualization × Text)) :
    Keeps (Works stage) (writeArtifacts stage artifacts) := by
  induction artifacts with
  | nil => exact keeps_pure _
  | cons artifact rest ih =>
      refine keeps_bind (keeps_lift _ _) (fun _ => ?_)
      refine keeps_bind (keeps_works_createPrivateFile _ _ _) (fun _ => ?_)
      refine keeps_bind (keeps_lift _ _) (fun _ => keeps_bind (keeps_lift _ _) (fun _ => ?_))
      exact keeps_bind ih (fun _ => keeps_pure _)

/-! ## Publication -/

/-- A staged bundle has been moved into place. -/
structure Published (stage output : Text) (w w' : World) : Prop where
  free : w.entry output = none
  moved : w'.entry output = w.entry stage
  gone : w'.entry stage = none
  incidents : w'.incidents = w.incidents

/-- The stage is published at the output name, or every entry is left. -/
theorem publishDirectoryNoReplace_spec (stage output : Text) (w : World) :
    (∃ w', (publishDirectoryNoReplace stage output).run w = .ok () w' ∧
      Published stage output w w') ∨
      ∃ e w', (publishDirectoryNoReplace stage output).run w = .error e w' ∧ Rests w w' := by
  have hRun : (publishDirectoryNoReplace stage output).run w = publishDirectoryNoReplace stage
    output w := rfl
  rw [hRun]
  unfold publishDirectoryNoReplace
  cases w.fault w.tick with
  | some fault => exact .inr ⟨_, _, rfl, rests_next w⟩
  | none =>
      cases hSource : w.entry stage with
      | none => exact .inr ⟨_, _, rfl, rests_next w⟩
      | some node =>
          cases hFree : w.entry output with
          | some other => exact .inr ⟨_, _, rfl, rests_next w⟩
          | none =>
              have hNe : stage ≠ output := by
                rintro rfl
                rw [hSource] at hFree
                cases hFree
              refine .inl ⟨_, rfl, hFree, ?_, ?_, rfl⟩
              · exact (Function.update_self output _ _).trans hSource.symm
              · show Function.update (Function.update w.entry stage none) output (some node)
                  stage = none
                rw [Function.update_of_ne hNe, Function.update_self]

/-- What follows a publication that failed leaves every entry. -/
theorem keeps_rests_notPublished (output : Text) (component : ComponentRef) (e : Thrown) :
    Keeps Rests (notPublished output component e) := by
  unfold notPublished
  split
  · exact keeps_throw _
  · refine keeps_bind (keeps_rests_lexists output) (fun _ => ?_)
    exact keeps_ite (fun _ => keeps_throw _) (fun _ => keeps_throw _)
  · exact keeps_throw _

/-- It never returns. -/
theorem notPublished_ne_ok {output : Text} {component : ComponentRef} {e : Thrown} {u : Unit} :
    (notPublished output component e).run w ≠ .ok u w' := by
  intro h
  unfold notPublished at h
  split at h
  · cases h
  · obtain ⟨_, t, -, h⟩ := run_bind_eq_ok.1 h
    split at h <;> cases h
  · cases h

/-- With the checks of the stage: it is published as a whole, or every entry is left. -/
theorem publishStagedDirectory_spec (stage output : Text) (members : List Text)
    (component : ComponentRef) (w : World) :
    (∃ w', (publishStagedDirectory stage output members component).run w = .ok () w' ∧
        Published stage output w w') ∨
      ∃ e w', (publishStagedDirectory stage output members component).run w = .error e w' ∧ Rests w w' := by
  cases hRun : (publishStagedDirectory stage output members component).run w with
  | ok u w' =>
      refine .inl ⟨w', rfl, ?_⟩
      obtain ⟨_, -, h⟩ := run_lift_bind_eq_ok.1 hRun
      obtain ⟨_, t, hAvailable, h⟩ := run_bind_eq_ok.1 h
      have hRests := (keeps_rests_assertOutputAvailable _ _).ok hAvailable
      rcases run_rescue_eq_ok.1 h with h | ⟨e, v, -, h⟩
      · rcases publishDirectoryNoReplace_spec stage output t with ⟨v, hMoved, hPublished⟩ | ⟨e, v, hError, -⟩
        · rw [hMoved] at h
          cases h
          exact ⟨by rw [← hRests.entry]; exact hPublished.free, by rw [← hRests.entry]; exact hPublished.moved,
            hPublished.gone, hPublished.incidents.trans hRests.incidents⟩
        · rw [hError] at h
          cases h
      · exact absurd h notPublished_ne_ok
  | error e w' =>
      refine .inr ⟨e, w', rfl, ?_⟩
      rcases run_bind_eq_error.1 hRun with h | ⟨_, t, hMembers, h⟩
      · exact (keeps_lift id (assertFlatMembers members)).error h
      have hFirst := (keeps_lift (R := Rests) id (assertFlatMembers members)).ok hMembers
      rcases run_bind_eq_error.1 h with h | ⟨_, v, hAvailable, h⟩
      · exact IsTrans.trans _ _ _ hFirst ((keeps_rests_assertOutputAvailable _ _).error h)
      have hSecond :=
        IsTrans.trans _ _ _ hFirst ((keeps_rests_assertOutputAvailable _ _).ok hAvailable)
      obtain ⟨e', u, hError, h⟩ := run_rescue_eq_error.1 h
      rcases publishDirectoryNoReplace_spec stage output v with ⟨u', hMoved, -⟩ | ⟨e'', u', hError',
        hRests⟩
      · rw [hMoved] at hError
        cases hError
      · rw [hError'] at hError
        cases hError
        exact IsTrans.trans _ _ _ hSecond
          (IsTrans.trans _ _ _ hRests ((keeps_rests_notPublished _ _ _).error h))

/-! ## Materializing into a stage -/

/-- The staged bundle is in place, and it is not known that the stage has gone. -/
structure Misjudged (stage output : Text) (w w' : World) : Prop where
  ne : output ≠ stage
  free : w.entry output = none
  taken : w'.entry output ≠ none
  gone : w'.entry stage = none
  incidents : w'.incidents = .existenceUnknown stage :: w.incidents

/-- How the work on a stage ends: with the bundle in place, with a failure before it is, or with a
failure behind it. -/
inductive Worked (stage output : Text) (w : World) :
    EStateM.Result Thrown World (OperationManifest × Bool) → Prop where
  | published {manifest : OperationManifest} {w' : World} :
      HoldsBundle manifest (w'.entry output) → w'.incidents = w.incidents →
        Worked stage output w (.ok (manifest, true) w')
  | failed {e : Thrown} {w' : World} : Works stage w w' → Worked stage output w (.error e w')
  | misjudged {e : Thrown} {w' : World} : Misjudged stage output w w' →
    Worked stage output w (.error e w')

/-- Work goes on behind a step that works on the stage. -/
theorem worked_bind {stage output : Text} {α : Type} {x : Run α}
    {f : α → Run (OperationManifest × Bool)}
    (hStage : IsDirectory (w.entry stage)) (hx : Keeps (Works stage) x)
    (hf : ∀ a t, x.run w = .ok a t → IsDirectory (t.entry stage) →
      Worked stage output t ((f a).run t)) :
    Worked stage output w ((x >>= f).run w) := by
  rw [run_bind]
  cases hRun : x.run w with
  | error e t => exact .failed (hx.error hRun)
  | ok a t =>
      have hWorks := hx.ok hRun
      have hRest := hf a t hRun (hWorks.isDirectory hStage)
      show Worked stage output w ((f a).run t)
      generalize (f a).run t = result at hRest
      cases hRest with
      | published hBundle hIncidents => exact .published hBundle (hIncidents.trans hWorks.incidents)
      | failed h => exact .failed (IsTrans.trans _ _ _ hWorks h)
      | misjudged h =>
          exact .misjudged ⟨h.ne, (hWorks.others output h.ne).symm.trans h.free, h.taken, h.gone,
            by rw [h.incidents, hWorks.incidents]⟩

/-- Behind the rename, the only step left is the test whether the stage is still there. -/
theorem worked_of_published {stage output : Text} {manifest : OperationManifest}
    (hStage : IsDirectory (w.entry stage)) (hBundle : HoldsBundle manifest (w.entry stage))
    (hPublished : Published stage output w w') :
    Worked stage output w
      ((do return (manifest, !(← stagingExists stage)) : Run (OperationManifest × Bool)).run w') :=
        by
  rw [run_bind]
  unfold stagingExists EStateM.run
  dsimp only
  cases w'.fault w'.tick with
  | none =>
      rw [hPublished.gone]
      refine .published ?_ hPublished.incidents
      show HoldsBundle manifest (w'.entry output)
      rwa [hPublished.moved]
  | some fault =>
      obtain ⟨info, entries, hEntry⟩ := hStage
      refine .misjudged ⟨?_, hPublished.free, ?_, hPublished.gone, ?_⟩
      · rintro rfl
        have hFree := hPublished.free
        rw [hEntry] at hFree
        cases hFree
      · show w'.entry output ≠ none
        rw [hPublished.moved, hEntry]
        exact Option.some_ne_none _
      · show Incident.existenceUnknown stage :: w'.incidents = _
        rw [hPublished.incidents]

/-- Filling the stage touches no name but the stage and the output, however it ends. -/
theorem worked_materializeInto (request : OperationRequest)
    (artifacts : List (Visualization × Text))
    (members : List Text) (inputBytes resultBytes : Bytes) (output : Text) {stage : Text}
    (hStage : IsDirectory (w.entry stage)) :
    Worked stage output w
      ((materializeInto request artifacts members inputBytes resultBytes output stage).run w) := by
  refine worked_bind hStage (keeps_works_createPrivateFile _ _ _) (fun _ _ _ hStage => ?_)
  refine worked_bind hStage (keeps_works_createPrivateFile _ _ _) (fun _ _ _ hStage => ?_)
  refine worked_bind hStage (keeps_works_writeArtifacts _ _) (fun _ _ _ hStage => ?_)
  refine worked_bind hStage (keeps_lift _ _) (fun manifest _ _ hStage => ?_)
  refine worked_bind hStage (keeps_lift _ _) (fun _ _ _ hStage => ?_)
  refine worked_bind hStage (keeps_works_createPrivateFile _ _ _) (fun _ v _ hStage => ?_)
  refine worked_bind hStage ((keeps_translate (keeps_rests_reconcileBundle stage manifest)).mono
    (fun _ _ h => h.works stage)) (fun _ t hVerified hStage => ?_)
  -- the stage is published as it was verified
  have hBundle : HoldsBundle manifest (t.entry stage) := by
    have hReconciled := run_translate_eq_ok.1 hVerified
    rw [((keeps_rests_reconcileBundle stage manifest).ok hReconciled).entry]
    exact reconcileBundle_spec hReconciled
  rcases publishStagedDirectory_spec stage output members request.1.component t with
    ⟨t', hRun, hPublished⟩ | ⟨e, t', hRun, hRests⟩
  · rw [run_bind_of_ok hRun]
    exact worked_of_published hStage hBundle hPublished
  · rw [run_bind, hRun]
    exact .failed (hRests.works stage)

/-! ## Cleaning up -/

/-- An incident that the code forgets about. -/
def Incident.IsSlip : Incident → Prop
  | .removalFailed _ => False
  | _ => True

/-- How an operation that fails leaves the entries: as they were, up to a stage whose removal
failed, or otherwise behind a slip. -/
inductive Fails (w w' : World) : Prop where
  | restored : Rests w w' → Fails w w'
  | unremoved (stage : Text) : stagingPrefix <+: stage →
    (∀ name, name ≠ stage → w'.entry name = w.entry name) →
      w'.incidents = .removalFailed stage :: w.incidents → Fails w w'
  | slipped (name : Text) (slips : List Incident) : w'.entry name ≠ w.entry name → slips ≠ [] →
      (∀ slip ∈ slips, slip.IsSlip) → w'.incidents = slips ++ w.incidents → Fails w w'

/-- A quiet step before a failed run leaves the failure as it was. -/
theorem Rests.fails {t : World} (h : Rests w t) (hFails : Fails t w') : Fails w w' := by
  cases hFails with
  | restored h' => exact .restored (IsTrans.trans _ _ _ h h')
  | unremoved stage hPrefix hOthers hIncidents =>
      exact .unremoved stage hPrefix (fun name hName => by rw [hOthers name hName, h.entry])
        (by rw [hIncidents, h.incidents])
  | slipped name slips hName hSome hSlips hIncidents =>
      exact .slipped name slips (by rwa [← h.entry]) hSome hSlips (by rw [hIncidents, h.incidents])

/-- `_remove_stage` asks whether the stage exists, and removes it quietly if it does. -/
theorem run_removeStage (stage : Text) (w : World) :
    (removeStage stage).run w = match w.fault w.tick with
      | some fault => .error (.os fault.osType) (w.next.note (.existenceUnknown stage))
      | none => if pathExists (w.entry stage) = true then (removeQuietly stage).run w.next
        else .ok () w.next := by
  have hTest : (stagingExists stage).run w = match w.fault w.tick with
      | some fault => .error (.os fault.osType) (w.next.note (.existenceUnknown stage))
      | none => .ok (pathExists (w.entry stage)) w.next := rfl
  unfold removeStage
  rw [run_bind, hTest]
  cases w.fault w.tick with
  | some fault => rfl
  | none =>
      cases pathExists (w.entry stage) with
      | true => rfl
      | false => rfl

/-- Ignoring an error does not change where a run ends. -/
theorem final_removeQuietly (stage : Text) (w : World) :
    final ((removeQuietly stage).run w) = final ((removePrivateTree stage).run w) := by
  unfold removeQuietly
  rw [run_rescue]
  cases (removePrivateTree stage).run w with
  | ok u t => rfl
  | error e t => cases e <;> rfl

/-- Removing a stage leaves every other name, and either the stage goes or the removal is on record. -/
theorem removePrivateTree_spec {stage : Text} (hStage : IsDirectory (w.entry stage)) :
    let w' := final ((removePrivateTree stage).run w)
    (∀ name, name ≠ stage → w'.entry name = w.entry name) ∧
      ((w'.entry stage = none ∧ w'.incidents = w.incidents) ∨
        w'.incidents = .removalFailed stage :: w.incidents) := by
  obtain ⟨info, entries, hEntry⟩ := hStage
  have hRun : (removePrivateTree stage).run w = removePrivateTree stage w := rfl
  rw [hRun]
  unfold removePrivateTree
  cases w.fault w.tick with
  | some fault => exact ⟨fun name hName => Function.update_of_ne hName _ _, .inr rfl⟩
  | none =>
      rw [hEntry]
      exact ⟨fun name hName => Function.update_of_ne hName _ _,
        .inl ⟨Function.update_self _ _ _, rfl⟩⟩

/-- What the cleanup makes of a stage, whether it returns or raises. -/
theorem removeStage_spec {stage : Text} (hStage : IsDirectory (w.entry stage)) :
    let w' := final ((removeStage stage).run w)
    (∀ name, name ≠ stage → w'.entry name = w.entry name) ∧
      ((w'.entry stage = none ∧ w'.incidents = w.incidents) ∨
        w'.incidents = .removalFailed stage :: w.incidents ∨
        (w'.entry stage = w.entry stage ∧ w'.incidents = .existenceUnknown stage :: w.incidents)) :=
          by
  rw [run_removeStage]
  cases w.fault w.tick with
  | some fault => exact ⟨fun _ _ => rfl, .inr (.inr ⟨rfl, rfl⟩)⟩
  | none =>
      have hExists : pathExists (w.entry stage) = true := by
        obtain ⟨info, entries, hEntry⟩ := hStage
        rw [hEntry]
        rfl
      simp only [if_pos hExists]
      rw [final_removeQuietly]
      obtain ⟨hOthers, hEnd⟩ := removePrivateTree_spec (w := w.next) hStage
      exact ⟨hOthers, hEnd.imp_right .inl⟩

/-- Cleaning up where nothing is left does nothing. -/
theorem removeStage_of_gone {stage : Text} (hGone : w.entry stage = none) :
    let w' := final ((removeStage stage).run w)
    w'.entry = w.entry ∧
      (w'.incidents = w.incidents ∨ w'.incidents = .existenceUnknown stage :: w.incidents) := by
  rw [run_removeStage]
  cases w.fault w.tick with
  | some fault => exact ⟨rfl, .inr rfl⟩
  | none =>
      rw [hGone]
      exact ⟨rfl, .inl rfl⟩

/-- The cleanup raises or not; the run ends where the cleanup ends, and not with a result. -/
theorem run_finallyUnpublished_of_error {α : Type} {stage : Text} {body : Run (α × Bool)}
    {e : Thrown} (h : body.run w = .error e w') :
    ∃ e', (finallyUnpublished stage body).run w = .error e' (final ((removeStage stage).run w')) :=
      by
  simp only [EStateM.run] at h ⊢
  simp only [finallyUnpublished, h]
  cases removeStage stage w' with
  | ok u t => exact ⟨e, rfl⟩
  | error e' t => exact ⟨e', rfl⟩

/-! ## The whole of an operation -/

/-- How a run ends that is to put a bundle in place and to return its manifest, in a form or
another. -/
inductive Ends {α : Type} (manifestOf : α → OperationManifest) (output : Text) (w : World) :
    EStateM.Result Thrown World α → Prop where
  | published {a : α} {w' : World} : HoldsBundle (manifestOf a) (w'.entry output) →
      w'.incidents = w.incidents → Ends manifestOf output w (.ok a w')
  | failed {e : Thrown} {w' : World} : Fails w w' → Ends manifestOf output w (.error e w')

/-- The stage is the only new entry when the work on it starts. -/
theorem ends_finallyUnpublished {stage output : Text} {t : World}
    {body : Run (OperationManifest × Bool)}
    (hPrefix : stagingPrefix <+: stage) (hFree : w.entry stage = none)
    (hOthers : ∀ name, name ≠ stage → t.entry name = w.entry name)
    (hStage : IsDirectory (t.entry stage))
    (hIncidents : t.incidents = w.incidents) (hWorked : Worked stage output t (body.run t)) :
    Ends id output w ((finallyUnpublished stage body).run t) := by
  generalize hRun : body.run t = result at hWorked
  -- A published bundle leaves nothing to clean up. Otherwise the handler removes the stage.
  cases hWorked with
  | published hBundle hSame =>
      have hReturn : ∀ {manifest : OperationManifest} {t' : World},
        body.run t = .ok (manifest, true) t' →
          (finallyUnpublished stage body).run t = .ok manifest t' := by
        intro manifest t' h
        simp only [EStateM.run] at h ⊢
        simp only [finallyUnpublished, h, if_true]
      rw [hReturn hRun]
      exact .published hBundle (hSame.trans hIncidents)
  | @failed e t' hWorks =>
      obtain ⟨e', hError⟩ := @run_finallyUnpublished_of_error _ _ _ stage _ _ hRun
      rw [hError]
      refine .failed ?_
      obtain ⟨hSame, hEnd⟩ := removeStage_spec (hWorks.isDirectory hStage)
      have hSame' : ∀ name, name ≠ stage →
          (final ((removeStage stage).run t')).entry name = w.entry name := by
        intro name hName
        rw [hSame name hName, hWorks.others name hName, hOthers name hName]
      have hBefore : t'.incidents = w.incidents := hWorks.incidents.trans hIncidents
      -- The stage goes, stays with the removal on record, or stays because its existence is
      -- unknown.
      rcases hEnd with ⟨hGone, hQuiet⟩ | hFailed | ⟨hLeft, hUnknown⟩
      · refine .restored ⟨funext (fun name => ?_), hQuiet.trans hBefore⟩
        by_cases hName : name = stage
        · rw [hName, hGone, hFree]
        · exact hSame' name hName
      · exact .unremoved stage hPrefix hSame' (by rw [hFailed, hBefore])
      · refine .slipped stage [.existenceUnknown stage] ?_ (List.cons_ne_nil _ _) ?_
          (by rw [hUnknown, hBefore]; rfl)
        · obtain ⟨info, entries, hEntry⟩ := hWorks.isDirectory hStage
          rw [hLeft, hEntry, hFree]
          exact Option.some_ne_none _
        · intro slip hSlip
          rw [List.mem_singleton.1 hSlip]
          trivial
  -- The directory was renamed although the call says otherwise, so that the output is taken.
  | @misjudged e t' hMisjudged =>
      obtain ⟨e', hError⟩ := @run_finallyUnpublished_of_error _ _ _ stage _ _ hRun
      rw [hError]
      refine .failed ?_
      obtain ⟨hSame, hEnd⟩ := removeStage_of_gone hMisjudged.gone
      have hTaken : (final ((removeStage stage).run t')).entry output ≠ w.entry output := by
        rw [hSame, ← hOthers output hMisjudged.ne, hMisjudged.free]
        exact hMisjudged.taken
      have hBefore : t'.incidents = .existenceUnknown stage :: w.incidents := by
        rw [hMisjudged.incidents, hIncidents]
      rcases hEnd with hQuiet | hUnknown
      · refine .slipped output [.existenceUnknown stage] hTaken (List.cons_ne_nil _ _) ?_
          (by rw [hQuiet, hBefore]; rfl)
        intro slip hSlip
        rw [List.mem_singleton.1 hSlip]
        trivial
      · refine .slipped output [.existenceUnknown stage, .existenceUnknown stage] hTaken
          (List.cons_ne_nil _ _) ?_ (by rw [hUnknown, hBefore]; rfl)
        intro slip hSlip
        simp only [List.mem_cons, List.not_mem_nil, or_false, or_self] at hSlip
        rw [hSlip]
        trivial

/-! ## The stage -/

/-- How the creation of a stage ends: with a new empty directory, with nothing changed, or with a
directory that is forgotten. -/
inductive Staged (w : World) : EStateM.Result Thrown World Text → Prop where
  | created {stage : Text} {w' : World} : stagingPrefix <+: stage → w.entry stage = none →
      w'.entry = Function.update w.entry stage (some emptyDirectory) → w'.incidents = w.incidents →
        Staged w (.ok stage w')
  | failed {e : Thrown} {w' : World} : Fails w w' → Staged w (.error e w')

/-- A quiet step before a stage is made. -/
theorem Rests.staged {t : World} {result : EStateM.Result Thrown World Text} (h : Rests w t)
    (hStaged : Staged t result) : Staged w result := by
  cases hStaged with
  | created hPrefix hFree hEntry hIncidents =>
      exact .created hPrefix (by rwa [← h.entry]) (by rw [hEntry, h.entry])
        (hIncidents.trans h.incidents)
  | failed hFails => exact .failed (h.fails hFails)

/-- One attempt at a stage. -/
theorem createStage_spec (stage : Text) (w : World) :
    (∃ w', (createStage stage).run w = .ok true w' ∧ w.entry stage = none ∧
        w'.entry = Function.update w.entry stage (some emptyDirectory) ∧
          w'.incidents = w.incidents) ∨
      (∃ w', (createStage stage).run w = .ok false w' ∧ Rests w w') ∨
        ∃ e w', (createStage stage).run w = .error e w' ∧ Fails w w' := by
  have hChange : (createPrivateDirectory stage).run w = createPrivateDirectory stage w := rfl
  unfold createStage
  rw [run_rescue, run_bind, hChange]
  unfold createPrivateDirectory
  -- Without a fault the directory is made, unless the name is taken.
  cases w.fault w.tick with
  | none =>
      cases hEntry : w.entry stage with
      | none => exact .inl ⟨_, rfl, rfl, rfl, rfl⟩
      | some node => exact .inr (.inl ⟨_, rfl, rests_next w⟩)
  | some fault =>
      cases hEntry : w.entry stage with
      | some node =>
          simp only
          cases fault.code with
          | alreadyExists => exact .inr (.inl ⟨_, rfl, rests_next w⟩)
          | _ => exact .inr (.inr ⟨_, _, rfl, .restored (rests_next w)⟩)
      | none =>
          simp only
          -- With a fault the directory may have been made nevertheless, which leaves it there.
          by_cases hMade : fault.made = true ∧ fault.code ≠ .alreadyExists
          · rw [if_pos hMade]
            have hSlip :
              Fails w ((w.next.set stage (some emptyDirectory)).note (.directoryLeft stage)) := by
              refine .slipped stage [.directoryLeft stage] ?_ (List.cons_ne_nil _ _) ?_ rfl
              · show Function.update w.entry stage _ stage ≠ w.entry stage
                rw [Function.update_self, hEntry]
                exact Option.some_ne_none _
              · intro slip hSlip
                rw [List.mem_singleton.1 hSlip]
                trivial
            cases hCode : fault.code with
            | alreadyExists => exact absurd hCode hMade.2
            | _ => exact .inr (.inr ⟨_, _, rfl, hSlip⟩)
          · rw [if_neg hMade]
            cases fault.code with
            | alreadyExists => exact .inr (.inl ⟨_, rfl, rests_next w⟩)
            | _ => exact .inr (.inr ⟨_, _, rfl, .restored (rests_next w)⟩)

/-- Every attempt at a stage makes an empty directory of a fresh name or fails quietly. -/
theorem staged_newStageFrom (attempts : ℕ) (w : World) :
    Staged w ((newStageFrom attempts).run w) := by
  induction attempts generalizing w with
  | zero => exact .failed (.restored (Std.Refl.refl w))
  | succ attempts ih =>
      have hToken : (newStageFrom (attempts + 1)).run w
          = (createStage (stagingPrefix ++ w.token w.tick) >>= fun created =>
              if created then return stagingPrefix ++ w.token w.tick else newStageFrom attempts).run
                w.next := rfl
      rw [hToken, run_bind]
      refine (rests_next w).staged ?_
      rcases createStage_spec (stagingPrefix ++ w.token w.tick) w.next with
        ⟨t, hRun, hFree, hEntry, hIncidents⟩ | ⟨t, hRun, hRests⟩ | ⟨e, t, hRun, hFails⟩
      · rw [hRun]
        exact .created (List.prefix_append _ _) hFree hEntry hIncidents
      · rw [hRun]
        exact hRests.staged (ih t)
      · rw [hRun]
        exact .failed hFails

/-- A quiet program followed by one that makes a stage. -/
theorem staged_bind {α : Type} {x : Run α} {f : α → Run Text} (hx : Keeps Rests x)
    (hf : ∀ a t, Staged t ((f a).run t)) : Staged w ((x >>= f).run w) := by
  rw [run_bind]
  cases hRun : x.run w with
  | ok a t => exact (hx.ok hRun).staged (hf a t)
  | error e t => exact .failed (.restored (hx.error hRun))

/-- A handler that only translates does not change where a run ends. -/
theorem run_translate_of_error {α : Type} {caught : Thrown → Bool} {error : String → Thrown}
    {x : Run α}
    {e : Thrown} (h : x.run w = .error e w') : ∃ e', (translate caught error x).run w = .error e'
    w' := by
  cases hRun : (translate caught error x).run w with
  | ok a t =>
      rw [run_translate_eq_ok.1 hRun] at h
      cases h
  | error e' t =>
      obtain ⟨e'', hError⟩ := run_translate_eq_error hRun
      rw [hError] at h
      cases h
      exact ⟨e', rfl⟩

/-- Renaming an exception changes nothing in what the stage saw. -/
theorem worked_translate {stage output : Text} {caught : Thrown → Bool} {error : String → Thrown}
    {x : Run (OperationManifest × Bool)} (h : Worked stage output w (x.run w)) :
    Worked stage output w ((translate caught error x).run w) := by
  generalize hRun : x.run w = result at h
  cases h with
  | published hBundle hIncidents =>
      rw [run_translate_eq_ok.2 hRun]
      exact .published hBundle hIncidents
  | failed hWorks =>
      obtain ⟨e', hError⟩ := @run_translate_of_error _ _ _ caught error _ _ hRun
      rw [hError]
      exact .failed hWorks
  | misjudged hMisjudged =>
      obtain ⟨e', hError⟩ := @run_translate_of_error _ _ _ caught error _ _ hRun
      rw [hError]
      exact .misjudged hMisjudged

/-- A quiet program followed by one that ends well. -/
theorem ends_bind {α β : Type} {manifestOf : β → OperationManifest} {output : Text} {x : Run α}
    {f : α → Run β} (hx : Keeps Rests x)
    (hf : ∀ a t, x.run w = .ok a t → Ends manifestOf output t ((f a).run t)) :
    Ends manifestOf output w ((x >>= f).run w) := by
  rw [run_bind]
  cases hRun : x.run w with
  | error e t => exact .failed (.restored (hx.error hRun))
  | ok a t =>
      have hRests := hx.ok hRun
      have hEnds := hf a t hRun
      show Ends manifestOf output w ((f a).run t)
      generalize (f a).run t = result at hEnds
      cases hEnds with
      | published hBundle hIncidents => exact .published hBundle (hIncidents.trans hRests.incidents)
      | failed hFails => exact .failed (hRests.fails hFails)

/-- `materialize_operation_bundle` ends with the whole bundle published or with nothing published. -/
theorem ends_materialize (casefold : Text → Text) (request : OperationRequest)
    (visualizations : List Visualization) (inputBytes resultBytes : Bytes) (output : Text)
    (w : World) :
    Ends id output w
      ((materialize casefold request visualizations inputBytes resultBytes output).run w) := by
  refine ends_bind (keeps_lift _ _) (fun _ t _ => ?_)
  have hStaged : Staged t ((do
      ensureDirectoryPath
      assertOutputAvailable output (some request.1.component)
      newOperationStage : Run Text).run t) := by
    refine staged_bind keeps_rests_ensureDirectoryPath (fun _ _ => ?_)
    exact staged_bind (keeps_rests_assertOutputAvailable _ _) (fun _ v => staged_newStageFrom 100 v)
  rw [run_bind]
  cases hRun : (translate isFileError
      (refusedAs .artifactWriteFailed "Could not prepare the operation output directory."
        (some request.1.component)) (do
      ensureDirectoryPath
      assertOutputAvailable output (some request.1.component)
      newOperationStage)).run t with
  | error e v =>
      obtain ⟨e', hError⟩ := run_translate_eq_error hRun
      rw [hError] at hStaged
      cases hStaged with
      | failed hFails => exact .failed hFails
  | ok stage v =>
      rw [run_translate_eq_ok.1 hRun] at hStaged
      cases hStaged with
      | created hPrefix hFree hEntry hIncidents =>
          have hStage : IsDirectory (v.entry stage) :=
            ⟨_, _, by rw [hEntry, Function.update_self]; rfl⟩
          refine ends_finallyUnpublished hPrefix hFree ?_ hStage hIncidents ?_
          · intro name hName
            rw [hEntry, Function.update_of_ne hName]
          · exact worked_translate (worked_materializeInto request _ _ inputBytes resultBytes output
              hStage)

/-- So does the component call together with the bundle. -/
theorem ends_executeOperationSuccess (installation : Installation) (request : OperationRequest)
    (record : installation.Record) (output : Text) (w : World) :
    Ends OperationSuccess.manifest output w
      ((executeOperationSuccess installation request record output).run w) := by
  refine ends_bind (keeps_lift _ _) (fun models _ _ => ?_)
  refine ends_bind (keeps_lift _ _) (fun validatedInput _ _ => ?_)
  refine ends_bind (keeps_lift _ _) (fun inputBytes _ _ => ?_)
  refine ends_bind (keeps_lift _ _) (fun result _ _ => ?_)
  refine ends_bind (keeps_lift _ _) (fun resultBytes t _ => ?_)
  have hEnds := ends_materialize installation.casefold request (installation.visualizations result)
    inputBytes resultBytes output t
  rw [run_bind]
  generalize (materialize installation.casefold request (installation.visualizations result)
    inputBytes resultBytes output).run t = outcome at hEnds
  cases hEnds with
  | published hBundle hIncidents => exact .published hBundle hIncidents
  | failed hFails => exact .failed hFails

/-- The output directory is prepared under its own name. -/
theorem prepareOutputDirectory_eq_ok {path : OutputPath} {component : Option ComponentRef}
    {output : Text}
    (h : (prepareOutputDirectory path component).run w = .ok output w') : output = path.name := by
  obtain ⟨name, t, hSafe, h⟩ := run_bind_eq_ok.1 h
  obtain ⟨_, _, -, h⟩ := run_bind_eq_ok.1 h
  cases h
  obtain ⟨_, -, h⟩ := run_lift_bind_eq_ok.1 hSafe
  obtain ⟨link, -, h⟩ := run_lift_bind_eq_ok.1 h
  split at h
  · cases h
  obtain ⟨_, -, h⟩ := run_lift_bind_eq_ok.1 h
  split at h
  · cases h
  obtain ⟨present, _, -, h⟩ := run_bind_eq_ok.1 h
  split at h
  · obtain ⟨directory, _, -, h⟩ := run_bind_eq_ok.1 h
    split at h
    · cases h
      rfl
    · cases h
  · cases h
    rfl

/-- So does the attempt with its validated output path. -/
theorem ends_attempt (installation : Installation) (request : OperationRequest) (path : OutputPath)
    (w : World) :
    Ends OperationSuccess.manifest path.name w ((attempt installation request path).run w) := by
  refine ends_bind (keeps_rests_prepareOutputDirectory _ _) (fun output t hPrepared => ?_)
  rw [prepareOutputDirectory_eq_ok hPrepared]
  refine ends_bind (keeps_lift _ _) (fun record v _ => ?_)
  exact ends_executeOperationSuccess installation request record path.name v

/-! ## Atomicity -/

/-- The world in which an operation starts. -/
def World.start (fault : ℕ → Option Fault) (token : ℕ → Text) (entry : Text → Option Node) :
    World :=
  ⟨fault, token, 0, entry, []⟩

/-- A success leaves the output directory with exactly its bundle. A failure leaves it as it was,
unless it has the name of a staging directory, and whatever else is different afterwards is
something whose removal failed. -/
def Atomic (start : World) (output : Text) (w' : World) : OperationResult → Prop
  | .success success => HoldsBundle success.manifest (w'.entry output)
  | .failure _ => (¬ stagingPrefix <+: output → w'.entry output = start.entry output) ∧
      ∀ name, w'.entry name = start.entry name ∨ .removalFailed name ∈ w'.incidents

/-- A failed run is atomic if and only if no incident on record is a slip. -/
theorem Fails.atomic_iff {fault : ℕ → Option Fault} {token : ℕ → Text} {entry : Text → Option Node}
    (h : Fails (World.start fault token entry) w') (output : Text) (failure : OperationFailure) :
    Atomic (World.start fault token entry) output w' (.failure failure) ↔
      ∀ incident ∈ w'.incidents, ¬ incident.IsSlip := by
  -- Everything as before, a stage left with its removal on record, or a slip.
  cases h with
  | restored hRests =>
      have hEntry := hRests.entry
      have hIncidents := hRests.incidents
      refine iff_of_true ⟨fun _ => by rw [hEntry], fun name => .inl (by rw [hEntry])⟩ ?_
      intro incident hIncident
      rw [hIncidents] at hIncident
      cases hIncident
  | unremoved stage hPrefix hOthers hIncidents =>
      refine iff_of_true ⟨fun hOutput => hOthers output ?_, fun name => ?_⟩ ?_
      · rintro rfl
        exact hOutput hPrefix
      · by_cases hName : name = stage
        · exact .inr (by rw [hIncidents, hName]; exact List.mem_cons_self)
        · exact .inl (hOthers name hName)
      · intro incident hIncident
        rw [hIncidents] at hIncident
        rw [List.mem_singleton.1 hIncident]
        exact id
  | slipped name slips hName hSome hSlips hIncidents =>
      have hAll : w'.incidents = slips := by
        rw [hIncidents]
        exact List.append_nil slips
      obtain ⟨slip, hSlip⟩ := List.exists_mem_of_ne_nil slips hSome
      refine iff_of_false (fun hAtomic => ?_) (fun hNone => ?_)
      · rcases hAtomic.2 name with hSame | hRemoval
        · exact hName hSame
        · rw [hAll] at hRemoval
          exact hSlips _ hRemoval
      · rw [hAll] at hNone
        exact hNone slip hSlip (hSlips slip hSlip)

/-- An operation always returns, whatever fails. It takes effect as a whole or not at all exactly
when no staging directory is left by its own creation, and no test whether the staging directory is
there fails. -/
theorem execute_operation_atomic_iff (installation : Installation) (request : Value)
    (path : OutputPath) (fault : ℕ → Option Fault) (token : ℕ → Text) (entry : Text → Option Node) :
    ∃ result w', (executeOperation installation request path).run (World.start fault token entry)
        = .ok result w' ∧
      (Atomic (World.start fault token entry) path.name w' result ↔
        ∀ incident ∈ w'.incidents, ¬ incident.IsSlip) := by
  unfold executeOperation
  cases hRequest : OperationRequest.codec.decode request with
  | error e => exact ⟨_, _, rfl, Fails.atomic_iff (.restored (Std.Refl.refl _)) _ _⟩
  | ok validated =>
      have hEnds := ends_attempt installation validated path (World.start fault token entry)
      simp only
      rw [run_rescue, run_bind]
      generalize (attempt installation validated path).run (World.start fault token entry) =
        outcome at hEnds
      cases hEnds with
      | published hBundle hIncidents =>
          refine ⟨_, _, rfl, iff_of_true hBundle ?_⟩
          intro incident hIncident
          rw [hIncidents] at hIncident
          cases hIncident
      | failed hFails => exact ⟨_, _, rfl, hFails.atomic_iff _ _⟩

/-- A request without input. -/
def emptyRequest : OperationRequest :=
  ⟨⟨⟨⟨py "dq.demo.nothing", by decide⟩, ⟨py "1.0.0", isSemver_one⟩, ⟨List.replicate 64 0x30,
    isSha256_zeros⟩⟩, emptyObject, ⟨.userPrompt, .callerStructured, .unverified,
    ⟨py "demo", charsWithin_demo⟩,
      ⟨[], lengthWithin_noReferences⟩, none, ⟨[], lengthWithin_noReferences⟩⟩, none⟩,
    rfl⟩

/-- A component that computes nothing. -/
def emptyInstallation : Installation where
  Record := Unit
  Models := Unit
  Input := Unit
  Output := Unit
  componentRecordForRequest := fun _ => .ok ()
  componentExecutionModels := fun _ _ => .ok ()
  validateComponentInput := fun _ _ _ _ => .ok ()
  dumpInput := fun _ => .ok .null
  executeValidatedComponent := fun _ _ _ _ => .ok ()
  dumpOutput := fun _ => .ok .null
  visualizations := fun _ => []
  validationDetails := fun _ => ⟨.null, trivial⟩
  casefold := id

/-- The staging directory is made, and cannot be made private. -/
def unprivateFault (tick : ℕ) : Option Fault :=
  if tick = 5 then some ⟨.notPrivate, "", none, true, none⟩ else none

/-- A directory that cannot be made private stays behind. -/
theorem staging_directory_left : ¬ ∀ (installation : Installation) (request : Value)
    (path : OutputPath) (fault : ℕ → Option Fault) (token : ℕ → Text) (entry : Text → Option Node),
    ∃ result w', (executeOperation installation request path).run (World.start fault token entry)
        = .ok result w' ∧ Atomic (World.start fault token entry) path.name w' result := by
  intro h
  obtain ⟨result, w', hRun, hAtomic⟩ :=
    h emptyInstallation (OperationRequest.codec.encode emptyRequest)
    ⟨py "out", .ok (), .ok false, .ok (), false⟩ unprivateFault (fun _ => []) (fun _ => none)
  have hAttempt : (attempt emptyInstallation emptyRequest ⟨py "out", .ok (), .ok false, .ok (),
    false⟩).run
      (World.start unprivateFault (fun _ => []) (fun _ => none))
        = .error (refusedAs .artifactWriteFailed "Could not prepare the operation output directory."
            (some emptyRequest.1.component) "SecureFilesystemError")
          ⟨unprivateFault, fun _ => [], 6,
            Function.update (fun _ => none) (stagingPrefix ++ []) (some emptyDirectory),
            [.directoryLeft (stagingPrefix ++ [])]⟩ := by
    rfl
  unfold executeOperation at hRun
  rw [OperationRequest.codec.decode_encode] at hRun
  simp only at hRun
  rw [run_rescue, run_bind, hAttempt] at hRun
  cases hRun
  rcases hAtomic.2 (stagingPrefix ++ []) with hSame | hRemoval
  · change Function.update (fun _ => none) (stagingPrefix ++ []) (some emptyDirectory)
      (stagingPrefix ++ [])
      = none at hSame
    rw [Function.update_self] at hSame
    cases hSame
  · rw [List.mem_singleton] at hRemoval
    cases hRemoval

end OperationRuntime
