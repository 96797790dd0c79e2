import DefinedQuant.Lib.PathTree
import DefinedQuant.Protocol.MemberPathSchema
import DefinedQuant.Shared.SessionCas

/-!
# Members as a tree of files

The members of an operation are written below one directory, next to its manifest. The models and
the store tell their paths apart as wholes. A path that begins another passes, though one of the two
is a file where the other needs a directory: `members_coexist_iff` says that this is the only
obstacle.
-/

namespace Protocol

open PathTree Pattern

/-! ## Platforms -/

/-- Whether a file system tells the cases of a letter apart. -/
inductive Platform
  | caseSensitive
  | caseInsensitive

def Platform.name : Platform → Text → Text
  | .caseSensitive, segment => segment
  | .caseInsensitive, segment => segment.map CodePoint.asciiCasefold

/-- The names that a path goes through. -/
def Platform.path (platform : Platform) (value : Text) : List Text :=
  (value.splitOn 0x2F).map platform.name

/-- The files can be written into an empty directory. -/
def Writable (platform : Platform) (paths : List Text) : Prop :=
  ∃ tree, writeAll empty (paths.map platform.path) = some tree

/-- One path is a directory on the way to the other, up to the case of letters. -/
def IsAncestor (a b : Text) : Prop :=
  ∃ front rest, b.splitOn 0x2F = front ++ rest ∧ rest ≠ [] ∧
    List.Forall₂ EqualUpToCase (a.splitOn 0x2F) front

/-- The paths can stand side by side on every platform. -/
structure Coexist (paths : List Text) : Prop where
  distinct : paths.Pairwise (fun a b => ¬ EqualUpToCase a b)
  unrelated : ∀ a ∈ paths, ∀ b ∈ paths, ¬ IsAncestor a b
  writable : ∀ platform, Writable platform paths

/-- No path continues another after a slash, by their keys. -/
def NoneNested (paths : List Text) : Prop :=
  ∀ a ∈ paths, ∀ b ∈ paths, ∀ keyA keyB, portableMemberKey a = .ok keyA →
    portableMemberKey b = .ok keyB →
    ¬ keyA ++ [0x2F] <+: keyB

/-! ## Paths and their pieces -/

/-- Mapping the symbols commutes with splitting, if it respects the separator. -/
theorem map_splitOn {sep : CodePoint} {f : CodePoint → CodePoint} (hSep : ∀ c, f c = sep ↔
    c = sep) :
    ∀ value : Text, (value.splitOn sep).map (List.map f) = (value.map f).splitOn sep
  | [] => by rw [List.splitOn_nil, List.map_nil, List.splitOn_nil]; rfl
  | c :: value => by
      rw [List.map_cons, List.splitOn_cons_eq_if_modifyHead, List.splitOn_cons_eq_if_modifyHead,
        ← map_splitOn hSep value]
      have hSame : (f c == sep) = (c == sep) := by
        rw [Bool.eq_iff_iff, beq_iff_eq, beq_iff_eq, hSep]
      rw [hSame]
      split_ifs
      · rfl
      · cases value.splitOn sep <;> rfl

/-- The pieces of one text begin those of another, which has more, exactly when the other continues
after a separator. -/
theorem exists_splitOn_append_iff {sep : CodePoint} {a b : Text} :
    (∃ rest, rest ≠ [] ∧ a.splitOn sep ++ rest = b.splitOn sep) ↔ a ++ [sep] <+: b := by
  constructor
  · rintro ⟨rest, hNonempty, hRest⟩
    have hA := @List.intercalate_splitOn _ a _ _ sep
    have hB := @List.intercalate_splitOn _ b _ _ sep
    obtain ⟨next, more, rfl⟩ := List.exists_cons_of_ne_nil hNonempty
    obtain ⟨first, pieces, hSplit⟩ := List.exists_cons_of_ne_nil (List.splitOn_ne_nil sep a)
    rw [hSplit, intercalate_cons] at hA
    rw [← hRest, hSplit, List.cons_append, intercalate_cons, List.map_append, List.flatten_append,
      ← List.append_assoc, hA, List.map_cons, List.flatten_cons] at hB
    rw [← hB, List.append_assoc]
    exact List.prefix_append_right_inj a |>.2 ⟨next ++ (more.map ([sep] ++ ·)).flatten, rfl⟩
  · rintro ⟨rest, rfl⟩
    refine ⟨rest.splitOn sep, List.splitOn_ne_nil _ _, ?_⟩
    rw [List.append_assoc, List.singleton_append, List.splitOn_append_cons_self]

/-- A text is known by its segments. -/
theorem splitOn_injective {sep : CodePoint} {a b : Text} (h : a.splitOn sep = b.splitOn sep) :
    a = b := by
  rw [← @List.intercalate_splitOn _ a _ _ sep, h, List.intercalate_splitOn]

/-- Only the slash folds to the slash. -/
theorem asciiCasefold_eq_slash (c : CodePoint) : c.asciiCasefold = 0x2F ↔ c = 0x2F := by
  rw [← Fin.val_inj, ← Fin.val_inj, val_asciiCasefold]
  change _ = 0x2F ↔ _ = 0x2F
  split_ifs <;> omega

/-- A path of a platform that ignores case, by its folded text. -/
theorem path_caseInsensitive (value : Text) :
    Platform.caseInsensitive.path value = (value.map CodePoint.asciiCasefold).splitOn 0x2F :=
  map_splitOn asciiCasefold_eq_slash value

/-- No path is empty. -/
theorem path_ne_nil (platform : Platform) (value : Text) : platform.path value ≠ [] :=
  fun h => List.splitOn_ne_nil _ _ (List.map_eq_nil_iff.1 h)

/-- What is below a path on a platform that tells cases apart is below it on one that does not. -/
theorem path_prefix_caseInsensitive {platform : Platform} {a b : Text}
    (h : platform.path a <+: platform.path b) :
    Platform.caseInsensitive.path a <+: Platform.caseInsensitive.path b := by
  cases platform with
  | caseSensitive =>
      have hNames : ∀ value, Platform.caseSensitive.path value = value.splitOn 0x2F :=
        fun value => List.map_id _
      rw [hNames, hNames] at h
      exact h.map _
  | caseInsensitive => exact h

/-- Segments are equal up to case when they fold alike. -/
theorem forall₂_equalUpToCase_iff {xs ys : List Text} : List.Forall₂ EqualUpToCase xs ys ↔
    xs.map (List.map CodePoint.asciiCasefold) = ys.map (List.map CodePoint.asciiCasefold) := by
  rw [← List.forall₂_eq_eq_eq, List.forall₂_map_left_iff, List.forall₂_map_right_iff]
  exact ⟨fun h => h.imp (fun _ _ => map_asciiCasefold_eq_iff.2), fun h =>
    h.imp (fun _ _ => map_asciiCasefold_eq_iff.1)⟩

/-- By their keys, a path is on the way to another exactly when the other continues it after a
slash. -/
theorem isAncestor_iff {a b : Text} :
    IsAncestor a b ↔ a.map CodePoint.asciiCasefold ++ [0x2F] <+: b.map CodePoint.asciiCasefold := by
  have hStrict : IsAncestor a b ↔ ∃ rest, rest ≠ [] ∧
      Platform.caseInsensitive.path a ++ rest = Platform.caseInsensitive.path b := by
    constructor
    · rintro ⟨front, rest, hSplit, hRest, hSame⟩
      refine ⟨rest.map (List.map CodePoint.asciiCasefold), fun h => hRest (List.map_eq_nil_iff.1 h),
        ?_⟩
      unfold Platform.path
      rw [hSplit, List.map_append]
      exact congrArg (· ++ _) (forall₂_equalUpToCase_iff.1 hSame)
    · rintro ⟨rest, hRest, hPath⟩
      obtain ⟨front, back, hSplit, hFront, rfl⟩ := List.map_eq_append_iff.1 hPath.symm
      exact ⟨front, back, hSplit, fun h => hRest (List.map_eq_nil_iff.2 h),
        forall₂_equalUpToCase_iff.2 hFront.symm⟩
  rw [hStrict, path_caseInsensitive, path_caseInsensitive]
  exact exists_splitOn_append_iff

/-- On a platform that does not tell cases apart, two paths collide when they are one, or when one
is on the way to the other. -/
theorem path_prefix_iff {a b : Text} :
    Platform.caseInsensitive.path a <+: Platform.caseInsensitive.path b ↔
    EqualUpToCase a b ∨ IsAncestor a b := by
  rw [path_caseInsensitive, path_caseInsensitive, isAncestor_iff, ← map_asciiCasefold_eq_iff,
    ← exists_splitOn_append_iff]
  constructor
  · rintro ⟨rest, hRest⟩
    by_cases hNil : rest = []
    · rw [hNil, List.append_nil] at hRest
      exact .inl (splitOn_injective hRest)
    · exact .inr ⟨rest, hNil, hRest⟩
  · rintro (hSame | ⟨rest, -, hRest⟩)
    · rw [hSame]
    · exact ⟨rest, hRest⟩

/-! ## Paths that were accepted -/

/-- The paths have keys, all different. -/
def Keyed (paths : List Text) : Prop := ∃ keys, paths.mapM portableMemberKey = .ok keys ∧ keys.Nodup

/-- The keys of accepted paths are the folded paths. -/
theorem mapM_portableMemberKey {paths keys : List Text}
    (h : paths.mapM portableMemberKey = .ok keys) :
    keys = paths.map (List.map CodePoint.asciiCasefold) := by
  have hSteps := Except.mapM_eq_ok.1 h
  clear h
  induction hSteps with
  | nil => rfl
  | cons hStep _ ih => rw [ih, List.map_cons, (portableMemberKey_eq_ok.1 hStep).2]

/-- Paths with keys differ up to case. -/
theorem Keyed.distinct {paths : List Text} (h : Keyed paths) :
    paths.Pairwise (fun a b => ¬ EqualUpToCase a b) := by
  obtain ⟨keys, hKeys, hNodup⟩ := h
  rw [mapM_portableMemberKey hKeys, List.Nodup, List.pairwise_map] at hNodup
  exact hNodup.imp (fun hNe hSame => hNe (map_asciiCasefold_eq_iff.2 hSame))

/-- Among paths with keys, none is nested when none is an ancestor of another. -/
theorem Keyed.noneNested_iff {paths : List Text} (h : Keyed paths) :
    NoneNested paths ↔ ∀ a ∈ paths, ∀ b ∈ paths, ¬ IsAncestor a b := by
  obtain ⟨keys, hKeys, -⟩ := h
  have hKey : ∀ a ∈ paths, portableMemberKey a = .ok (a.map CodePoint.asciiCasefold) := by
    intro a ha
    obtain ⟨key, -, hStep⟩ := (Except.mapM_eq_ok.1 hKeys).exists_right ha
    rw [hStep, (portableMemberKey_eq_ok.1 hStep).2]
  refine forall₂_congr (fun a ha => forall₂_congr (fun b hb => ?_))
  rw [isAncestor_iff]
  constructor
  · exact fun hNone => hNone _ _ (hKey a ha) (hKey b hb)
  · intro hNone keyA keyB hA hB
    rw [(portableMemberKey_eq_ok.1 hA).2, (portableMemberKey_eq_ok.1 hB).2]
    exact hNone

/-- Paths with different keys can stand side by side exactly when none is nested in another. -/
theorem Keyed.coexist_iff {paths : List Text} (h : Keyed paths) : Coexist paths ↔
    NoneNested paths := by
  rw [h.noneNested_iff]
  constructor
  · exact fun hCoexist => hCoexist.unrelated
  · intro hUnrelated
    refine ⟨h.distinct, hUnrelated, fun platform => exists_writeAll_iff.2 ⟨fun hMem => ?_, ?_⟩⟩
    · obtain ⟨value, -, hNil⟩ := List.mem_map.1 hMem
      exact path_ne_nil platform value hNil
    · rw [List.pairwise_map]
      refine h.distinct.imp_of_mem (fun ha hb hDistinct => ⟨fun hPrefix => ?_, fun hPrefix => ?_⟩)
      · rcases path_prefix_iff.1 (path_prefix_caseInsensitive hPrefix) with hSame | hAncestor
        · exact hDistinct hSame
        · exact hUnrelated _ ha _ hb hAncestor
      · rcases path_prefix_iff.1 (path_prefix_caseInsensitive hPrefix) with hSame | hAncestor
        · exact hDistinct (map_asciiCasefold_eq_iff.1 (map_asciiCasefold_eq_iff.2 hSame).symm)
        · exact hUnrelated _ hb _ ha hAncestor

/-! ## The three validators -/

/-- Distinct members have keys, together with the manifest. -/
theorem keyed_of_distinctMembers {paths : List Text} (h : distinctMembers paths = true) :
    Keyed (py "manifest.json" :: paths) := by
  unfold distinctMembers at h
  split at h
  · next keys manifestKey hKeys hManifest =>
      obtain ⟨hNodup, hMem⟩ := decide_eq_true_iff.1 h
      refine ⟨manifestKey :: keys, ?_, List.nodup_cons.2 ⟨hMem, hNodup⟩⟩
      exact Except.mapM_eq_ok.2 (.cons hManifest (Except.mapM_eq_ok.1 hKeys))
  · cases h

/-- The loop over a mapping keeps the keys apart. -/
theorem keyed_of_validatedMembersFrom : ∀ {members accepted : List (Text × Bytes)}
    {keys : List Text},
    SessionCas.validatedMembersFrom keys members = .ok accepted →
      ∃ more, (accepted.map Prod.fst).mapM portableMemberKey = .ok more ∧ more.Nodup ∧ ∀ key ∈ more,
        key ∉ keys
  | [], accepted, keys, h => by
      cases h
      exact ⟨[], rfl, List.nodup_nil, fun _ h => absurd h List.not_mem_nil⟩
  | (name, content) :: rest, accepted, keys, h => by
      unfold SessionCas.validatedMembersFrom at h
      split at h
      · cases h
      · next key hKey =>
          split_ifs at h with hUsed
          · obtain ⟨tail, hTail, hAccepted⟩ := Except.bind_eq_ok.1 h
            cases hAccepted
            obtain ⟨more, hMore, hNodup, hFresh⟩ := keyed_of_validatedMembersFrom hTail
            refine ⟨key :: more, Except.mapM_eq_ok.2 (.cons hKey (Except.mapM_eq_ok.1 hMore)),
              ?_, ?_⟩
            · exact List.nodup_cons.2 ⟨fun hMem => hFresh key hMem List.mem_cons_self, hNodup⟩
            · exact List.forall_mem_cons.2 ⟨hUsed, fun k hk hMem =>
                hFresh k hk (List.mem_cons_of_mem _ hMem)⟩

/-- So have validated members. -/
theorem keyed_of_validatedMemberMapping {members accepted : List (Text × Bytes)}
    (h : SessionCas.validatedMemberMapping members = .ok accepted) :
    Keyed (py "manifest.json" :: accepted.map Prod.fst) := by
  obtain ⟨-, h⟩ := Except.throwIf_eq_ok.1 h
  obtain ⟨manifestKey, hManifest, h⟩ := Except.bind_eq_ok.1 h
  obtain ⟨keys, hKeys, hNodup, hFresh⟩ := keyed_of_validatedMembersFrom h
  refine ⟨manifestKey :: keys, Except.mapM_eq_ok.2 (.cons hManifest (Except.mapM_eq_ok.1 hKeys)),
    ?_⟩
  exact List.nodup_cons.2 ⟨fun hMem => hFresh _ hMem List.mem_cons_self, hNodup⟩

/-- The members of a manifest are distinct. -/
theorem distinctMembers_of_manifest (manifest : OperationManifest) :
    distinctMembers manifest.1.paths = true := by
  have h := manifest.2
  unfold OperationManifestFields.validateBindings at h
  obtain ⟨hash, -, h⟩ := Except.bind_eq_ok.1 h
  obtain ⟨-, h⟩ := Except.throwIf_eq_ok.1 h
  obtain ⟨-, h⟩ := Except.throwIf_eq_ok.1 h
  exact Bool.of_not_eq_false (Except.throwIf_eq_ok.1 h).1

/-- So are the members of a record. -/
theorem distinctMembers_of_record (record : DataRecords.OperationRecord) :
    distinctMembers (record.1.members.1.map (fun m => m.path.1)) = true := by
  have h := record.2
  unfold DataRecords.OperationRecordFields.validateRecord at h
  obtain ⟨-, h⟩ := Except.throwIf_eq_ok.1 h
  obtain ⟨-, h⟩ := Except.throwIf_eq_ok.1 h
  exact Bool.of_not_eq_false (Except.throwIf_eq_ok.1 h).1

/-- The members' paths that one of the three validators accepts. -/
inductive AcceptedMembers : List Text → Prop
  | manifest (manifest : OperationManifest) : AcceptedMembers manifest.1.paths
  | mapping {members accepted : List (Text × Bytes)} :
      SessionCas.validatedMemberMapping members = .ok accepted →
        AcceptedMembers (accepted.map Prod.fst)
  | record (record : DataRecords.OperationRecord) :
      AcceptedMembers (record.1.members.1.map (fun m => m.path.1))

/-- What each validator accepts can stand side by side with the manifest exactly when no path is
nested in another. -/
theorem members_coexist_iff {paths : List Text} (h : AcceptedMembers paths) :
    Coexist (py "manifest.json" :: paths) ↔ NoneNested (py "manifest.json" :: paths) := by
  cases h with
  | manifest manifest =>
    exact (keyed_of_distinctMembers (distinctMembers_of_manifest manifest)).coexist_iff
  | mapping hAccepted => exact (keyed_of_validatedMemberMapping hAccepted).coexist_iff
  | record record => exact (keyed_of_distinctMembers (distinctMembers_of_record record)).coexist_iff

/-- A mapping of two members, one below the other. -/
def nestedMembers : List (Text × Bytes) := [(py "a", []), (py "a/b", [])]

/-- The mapping is accepted, and its members cannot stand side by side. -/
theorem not_coexist_nested : SessionCas.validatedMemberMapping nestedMembers = .ok nestedMembers ∧
    ¬ Coexist (py "manifest.json" :: nestedMembers.map Prod.fst) := by
  have hAncestor : IsAncestor (py "a") (py "a/b") :=
    ⟨[py "a"], [py "b"], by decide, List.cons_ne_nil _ _,
      .cons (map_asciiCasefold_eq_iff.1 rfl) .nil⟩
  refine ⟨by decide, fun h => h.unrelated (py "a") ?_ (py "a/b") ?_ hAncestor⟩
  · decide
  · decide

/-- A result and two charts in a directory. -/
def chartMembers : List (Text × Bytes) :=
  [(py "result.json", []), (py "charts/a.svg", []), (py "charts/b.svg", [])]

/-- The sample members are not nested in one another. -/
theorem noneNested_chartMembers : NoneNested (py "manifest.json" :: chartMembers.map Prod.fst) := by
  have hKeys : ∀ a ∈ py "manifest.json" :: chartMembers.map Prod.fst,
      ∀ b ∈ py "manifest.json" :: chartMembers.map Prod.fst,
        ¬ a.map CodePoint.asciiCasefold ++ [0x2F] <+: b.map CodePoint.asciiCasefold := by
    decide
  intro a ha b hb keyA keyB hA hB
  rw [(portableMemberKey_eq_ok.1 hA).2, (portableMemberKey_eq_ok.1 hB).2]
  exact hKeys a ha b hb

/-- The charts can stand in their directory, next to the result and the manifest. -/
theorem members_coexist_iff_charts : Coexist (py "manifest.json" :: chartMembers.map Prod.fst) := by
  have hAccepted : SessionCas.validatedMemberMapping chartMembers = .ok chartMembers := by decide
  exact (members_coexist_iff (.mapping hAccepted)).2 noneNested_chartMembers

end Protocol
