import DefinedQuant.Shared.RecordReconciliation

/-!
# What a record says of its bundle

A record that reconciles with a bundle describes it: the manifest's file has the digest that the
record names, the listing is the manifest and the paths of the members, and every member's file has
its digest and its size. So a described bundle is a directory of files, and a path below it has one
component.

Reconciliation asks about the bundle alone.
-/

namespace OperationRecords

open Json Canonical Protocol DataRecords HostFailures LocalHost FileTree

variable {entry : Option Node} {bundle : List Text} {manifest : OperationManifest}
  {binding : OperationBinding} {record : OperationRecord}

/-! ## Deriving members -/

/-- The file of a member has the digest and the size that the member names. -/
def FileHeld (entry : Option Node) (bundle : List Text) (member : OperationMember) : Prop :=
  ∃ content, Holds entry bundle member.path.1 content ∧ sha256Hex content = member.sha256.1 ∧
    (content.length : ℤ) = member.sizeBytes.1

theorem deriveMember_eq_ok {declared : MemberKind × FileDigest} {member : OperationMember}
    (h : (deriveMember bundle declared).replay (answer entry) = .ok member) :
    member.path.1 = declared.2.path.1 ∧ FileHeld entry bundle member := by
  unfold deriveMember at h
  rw [Probe.replay_bind] at h
  obtain ⟨content, hContent, h⟩ := Except.bind_eq_ok.1 h
  have hHolds := holds_of_boundedMemberBytes hContent
  by_cases hDigest : sha256Hex content ≠ declared.2.sha256.1
  · rw [if_pos hDigest] at h
    cases h
  rw [if_neg hDigest] at h
  by_cases hSize : (decide (0 ≤ (content.length : ℤ)) &&
      decide ((content.length : ℤ) ≤ maxOperationMemberBytes)) = true
  · rw [dif_pos hSize] at h
    cases h
    exact ⟨rfl, content, hHolds, not_not.1 hDigest, rfl⟩
  · rw [dif_neg hSize] at h
    cases h

theorem deriveMembers_eq_ok : ∀ {declared : List (MemberKind × FileDigest)}
    {members : List OperationMember},
    (deriveMembers bundle declared).replay (answer entry) = .ok members →
      members.map (fun member => member.path.1) = declared.map (fun d => d.2.path.1) ∧
        ∀ member ∈ members, FileHeld entry bundle member
  | [], members, h => by
      cases h
      exact ⟨rfl, List.forall_mem_nil _⟩
  | first :: declared, members, h => by
      unfold deriveMembers at h
      rw [Probe.replay_bind] at h
      obtain ⟨member, hMember, h⟩ := Except.bind_eq_ok.1 h
      rw [Probe.replay_bind] at h
      obtain ⟨rest, hRest, h⟩ := Except.bind_eq_ok.1 h
      cases h
      obtain ⟨hPath, hHeld⟩ := deriveMember_eq_ok hMember
      obtain ⟨hPaths, hAll⟩ := deriveMembers_eq_ok hRest
      refine ⟨?_, List.forall_mem_cons.2 ⟨hHeld, hAll⟩⟩
      rw [List.map_cons, List.map_cons, hPath, hPaths]

/-- Names that pass the check are distinct. -/
theorem nodup_of_checkNames {expectedNames actualNames : List Text}
    (h : checkNames expectedNames actualNames = .ok ()) : expectedNames.Nodup ∧
    actualNames.Nodup := by
  unfold checkNames at h
  obtain ⟨expectedKeys, hExpected, h⟩ := Except.bind_eq_ok.1 h
  obtain ⟨actualKeys, hActual, h⟩ := Except.bind_eq_ok.1 h
  rw [Except.mapError_eq_ok] at hExpected hActual
  by_cases hAll : expectedKeys.Nodup ∧ actualKeys.Nodup ∧
    (∀ name ∈ actualNames, name ∈ expectedNames) ∧
      (∀ name ∈ expectedNames, name ∈ actualNames)
  · exact ⟨Except.nodup_of_mapM hExpected hAll.1, Except.nodup_of_mapM hActual hAll.2.1⟩
  · rw [if_pos hAll] at h
    cases h

theorem members_of_assembleRecord {content : Bytes} {members : List OperationMember}
    (h : assembleRecord manifest content members binding = .ok record) :
    record.1.members.1 = members := by
  unfold assembleRecord at h
  obtain ⟨boundedMembers, hMembers, h⟩ := Except.bind_eq_ok.1 h
  obtain ⟨renderers, -, h⟩ := Except.bind_eq_ok.1 h
  rw [checked_eq_ok.1 h]
  exact checked_eq_ok.1 hMembers

/-- The paths of the members of a record. -/
def memberPaths (record : OperationRecord) : List Text :=
  record.1.members.1.map (fun member => member.path.1)

/-- What stands at a bundle is what a record says of it: the manifest's digest, the names, and the
digest and the size of every member. -/
structure Described (entry : Option Node) (bundle : List Text) (record : OperationRecord) :
    Prop where
  manifestFile : ∃ content, Holds entry bundle manifestName content ∧
    sha256Hex content = record.1.manifestSha256.1
  names : ∃ names, answer entry (.iterdir bundle) = .ok names ∧ names.Nodup ∧
    ∀ name, name ∈ names ↔ name = manifestName ∨ name ∈ memberPaths record
  unreserved : manifestName ∉ memberPaths record
  files : ∀ member ∈ record.1.members.1, FileHeld entry bundle member

/-- A derived record describes the bundle that it was derived from. -/
theorem described_of_deriveRecord
    (h : (deriveRecord manifest bundle binding).replay (answer entry) = .ok record) :
    Described entry bundle record := by
  obtain ⟨names, content, members, hNames, hCheck, hContent, -, hMembers, hRecord⟩ :=
    deriveRecord_eq_ok h
  obtain ⟨hPaths, hHeld⟩ := deriveMembers_eq_ok hMembers
  obtain ⟨hExpected, hActual⟩ := nodup_of_checkNames hCheck
  have hSorted := members_of_assembleRecord hRecord
  have hMem : ∀ path, path ∈ memberPaths record ↔ path ∈ manifest.1.paths := by
    intro path
    unfold memberPaths
    rw [hSorted, ← paths_declaredMembers, ← hPaths]
    exact ((sortBy_perm memberKey members).map _).mem_iff
  refine ⟨⟨content, holds_of_boundedMemberBytes hContent, ?_⟩, ⟨names, hNames, hActual, fun name =>
    ?_⟩, ?_, ?_⟩
  · rw [(manifestSha256_of_assembleRecord hRecord).1]
    rfl
  · rw [mem_iff_of_checkNames hCheck, List.mem_cons, hMem]
  · rw [hMem]
    exact (List.nodup_cons.1 hExpected).1
  · intro member hMember
    rw [hSorted] at hMember
    exact hHeld member (mem_sortBy.1 hMember)

/-! ## The dump of the members -/

section Dump

open Value

theorem value_injective {kind kind' : MemberKind} (h : py kind.value = py kind'.value) :
    kind = kind' := by
  cases kind <;> cases kind' <;> first | rfl | exact absurd h (by decide)

/-- The members of the dump of a member. -/
def memberDump (member : OperationMember) : Members :=
  [(py "kind", .lit member.kind.value), (py "path", .str member.path.1),
    (py "sha256", .str member.sha256.1), (py "size_bytes", .int member.sizeBytes.1)]

/-- Members with equal dumps are one member. -/
theorem member_eq_of_pyEq {member member' : OperationMember}
    (h : pyEq (OperationMember.codec.encode member) (OperationMember.codec.encode member') = true) :
    member = member' := by
  have hDump : ∀ m : OperationMember, OperationMember.codec.encode m = .obj (memberDump m) :=
    fun _ => rfl
  have hKeys := (Value.distinct_obj.1 (OperationMember.codec.distinct_encode member')).1
  have hMem : ∀ m : OperationMember, (py "kind", Value.lit m.kind.value) ∈ memberDump m ∧
      (py "path", Value.str m.path.1) ∈ memberDump m ∧
        (py "sha256", Value.str m.sha256.1) ∈ memberDump m ∧
      (py "size_bytes", Value.int m.sizeBytes.1) ∈ memberDump m := by
    intro m
    simp [memberDump]
  obtain ⟨hKind, hPath, hDigest, hSize⟩ := hMem member
  obtain ⟨hKind', hPath', hDigest', hSize'⟩ := hMem member'
  rw [hDump, hDump] at h
  have hKinds := value_injective (eq_of_pyEq_str (pyEq_value hKeys h hKind hKind'))
  have hPaths := eq_of_pyEq_str (pyEq_value hKeys h hPath hPath')
  have hDigests := eq_of_pyEq_str (pyEq_value hKeys h hDigest hDigest')
  have hSizes := eq_of_pyEq_int (pyEq_value hKeys h hSize hSize')
  cases member
  cases member'
  simp only [OperationMember.mk.injEq]
  exact ⟨hKinds, Subtype.ext hPaths, Subtype.ext hDigests, Subtype.ext hSizes⟩

theorem members_eq_of_pyEqItems : ∀ {members members' : List OperationMember},
    pyEqItems (members.map OperationMember.codec.encode) (members'.map OperationMember.codec.encode)
    = true →
      members = members'
  | [], [], _ => rfl
  | [], _ :: _, h => by cases h
  | _ :: _, [], h => by cases h
  | member :: members, member' :: members', h => by
      rw [List.map_cons, List.map_cons, pyEqItems_cons, Bool.and_eq_true] at h
      rw [member_eq_of_pyEq h.1, members_eq_of_pyEqItems h.2]

/-- Records with equal dumps have the same members. -/
theorem members_eq_of_pyEq {derived record : OperationRecord}
    (h : pyEq (OperationRecord.codec.encode derived) (OperationRecord.codec.encode record) = true) :
    derived.1.members.1 = record.1.members.1 := by
  have hMem : ∀ r : OperationRecord,
      (py "members", Value.list (r.1.members.1.map OperationMember.codec.encode)) ∈ recordMembers
      r := by
    intro r
    simp [recordMembers]
  rw [encode_record, encode_record] at h
  have hList := pyEq_value (keys_recordMembers record) h (hMem derived) (hMem record)
  rw [pyEq_seq, Bool.and_eq_true] at hList
  exact members_eq_of_pyEqItems hList.2

end Dump

/-- A record that reconciles with a bundle describes it. -/
theorem described_of_reconcile {dataset : Option SourceDataset}
    (h : (reconcileOperationRecord record bundle dataset).replay (answer entry) = .ok manifest) :
    Described entry bundle record := by
  unfold reconcileOperationRecord at h
  simp only [Probe.replay_bind, Probe.replay_lift, Except.bind_eq_ok, Except.mapError_eq_ok] at h
  obtain ⟨content, -, parsed, -, _, -, derived, hDerive, h⟩ := h
  by_cases hSame : (OperationRecord.codec.encode derived).pyEq (OperationRecord.codec.encode record)
    = false
  · rw [if_pos hSame] at h
    cases h
  rw [Bool.not_eq_false] at hSame
  have hDescribed := described_of_deriveRecord hDerive
  have hMembers := members_eq_of_pyEq hSame
  have hPaths : memberPaths derived = memberPaths record := by
    unfold memberPaths
    rw [hMembers]
  refine ⟨?_, ?_, ?_, ?_⟩
  · rw [← manifestSha256_eq hSame]
    exact hDescribed.manifestFile
  · rw [← hPaths]
    exact hDescribed.names
  · rw [← hPaths]
    exact hDescribed.unreserved
  · rw [← hMembers]
    exact hDescribed.files

/-! ## Described bundles -/

/-- A path below a directory leads through an entry of it. -/
theorem lookup_below {top : List Text} {info : Meta} {entries : Entries}
    (h : (lookup entry top).bind Node.resolve = some (.directory info entries)) (name : Text)
    (rest : List Text) :
    lookup entry (top ++ name :: rest) = (Node.child name entries).bind (Node.lookup rest) := by
  rw [lookup_append]
  obtain ⟨node, hNode, hResolve⟩ := Option.bind_eq_some_iff.1 h
  rw [hNode, Option.bind_some]
  simp only [Node.lookup, hResolve]

/-- A described bundle is a directory of files: the manifest and the members. -/
theorem Described.entries (h : Described entry bundle record) :
    ∃ info entries, (lookup entry bundle).bind Node.resolve = some (.directory info entries) ∧
      (entries.map Prod.fst).Nodup ∧
      (∀ name, name ∈ entries.map Prod.fst ↔ name = manifestName ∨ name ∈ memberPaths record) ∧
      ∀ e ∈ entries, ∃ info content, e.2 = .file info content ∧ Holds entry bundle e.1 content := by
  obtain ⟨names, hNames, hNodup, hMem⟩ := h.names
  have hHeld : ∀ name ∈ names, ∃ content, Holds entry bundle name content := by
    intro name hName
    rcases (hMem name).1 hName with rfl | hPath
    · obtain ⟨content, hHolds, -⟩ := h.manifestFile
      exact ⟨content, hHolds⟩
    · obtain ⟨member, hMember, rfl⟩ := List.mem_map.1 hPath
      obtain ⟨content, hHolds, -⟩ := h.files member hMember
      exact ⟨content, hHolds⟩
  simp only [answer] at hNames
  split at hNames
  · next found hFound =>
      cases hNames
      obtain ⟨node, hNode, hListing⟩ := Option.bind_eq_some_iff.1 hFound
      cases node with
      | directory info entries =>
          cases hListing
          refine ⟨info, entries, hNode, hNodup, hMem, fun e he => ?_⟩
          obtain ⟨content, hHolds⟩ := hHeld e.1 (List.mem_map_of_mem he)
          obtain ⟨info', hLookup⟩ := id hHolds
          rw [lookup_below hNode, Node.child_eq_some hNodup he] at hLookup
          exact ⟨info', content, Option.some.inj hLookup, hHolds⟩
      | _ => cases hListing
  · cases hNames

/-- What is found at a path of several components below a described bundle is found at one. -/
theorem Described.holds_of_lookup {path : List Text} {info : Meta} {content : Bytes}
    (h : Described entry bundle record) (hPath : path ≠ [])
    (hLookup : lookup entry (bundle ++ path) = some (.file info content)) :
    ∃ name, path = [name] ∧ Holds entry bundle name content := by
  obtain ⟨_, entries, hBundle, hNodup, -, hFiles⟩ := h.entries
  cases path with
  | nil => exact absurd rfl hPath
  | cons name rest =>
      have hBelow := hLookup
      rw [lookup_below hBundle] at hBelow
      obtain ⟨node, hChild, hRest⟩ := Option.bind_eq_some_iff.1 hBelow
      obtain ⟨info', held, hFile, -⟩ := hFiles _ (Node.child_mem hChild)
      dsimp only at hFile
      subst hFile
      cases rest with
      | nil => exact ⟨name, rfl, info, hLookup⟩
      | cons next rest => cases hRest

/-! ## What reconciliation asks -/

theorem asks_boundedMemberBytes {path : List Text} (h : bundle <+: path) (maximum : ℕ)
    (limitName : String) :
    (boundedMemberBytes path maximum limitName).Asks (Query.Within bundle) :=
  Probe.asks_mapError (Probe.asks_query h)

theorem asks_deriveMember (declared : MemberKind × FileDigest) :
    (deriveMember bundle declared).Asks (Query.Within bundle) := by
  refine Probe.asks_bind (asks_boundedMemberBytes (List.prefix_append _ _) _ _) (fun content => ?_)
  refine Probe.asks_ite trivial ?_
  split
  · exact Probe.asks_pure _
  · trivial

theorem asks_deriveMembers : ∀ declared : List (MemberKind × FileDigest),
    (deriveMembers bundle declared).Asks (Query.Within bundle)
  | [] => Probe.asks_pure _
  | first :: declared =>
      Probe.asks_bind (asks_deriveMember first) (fun _ =>
        Probe.asks_bind (asks_deriveMembers declared) (fun _ => Probe.asks_pure _))

theorem asks_deriveRecord (manifest : OperationManifest) (binding : OperationBinding) :
    (deriveRecord manifest bundle binding).Asks (Query.Within bundle) := by
  unfold deriveRecord
  refine Probe.asks_ite trivial ?_
  refine Probe.asks_bind (Probe.asks_mapError (Probe.asks_query (List.prefix_refl bundle)))
    (fun names => ?_)
  refine Probe.asks_bind (Probe.asks_lift _ _) (fun _ => ?_)
  refine Probe.asks_bind (asks_boundedMemberBytes (List.prefix_append _ _) _ _) (fun content => ?_)
  refine Probe.asks_bind (Probe.asks_lift _ _) (fun _ => ?_)
  refine Probe.asks_bind (asks_deriveMembers _) (fun members => ?_)
  refine Probe.asks_ite trivial ?_
  refine Probe.asks_bind (asks_boundedMemberBytes (List.prefix_append _ _) _ _) (fun result => ?_)
  exact Probe.asks_bind (Probe.asks_lift _ _) (fun _ => Probe.asks_lift _ _)

/-- Reconciliation asks about the bundle alone. -/
theorem asks_reconcileOperationRecord (record : OperationRecord) (dataset : Option SourceDataset) :
    (reconcileOperationRecord record bundle dataset).Asks (Query.Within bundle) := by
  refine Probe.asks_bind (asks_boundedMemberBytes (List.prefix_append _ _) _ _) (fun content => ?_)
  refine Probe.asks_bind (Probe.asks_lift _ _) (fun manifest => ?_)
  refine Probe.asks_bind (Probe.asks_lift _ _) (fun _ => ?_)
  refine Probe.asks_bind (asks_deriveRecord manifest _) (fun derived => ?_)
  exact Probe.asks_ite trivial (Probe.asks_pure _)

end OperationRecords
