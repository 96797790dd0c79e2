import DefinedQuant.Shared.DataRecords.FaithfulDocuments
import DefinedQuant.Shared.DatasetMappings

/-!
# What a reconciled record says

Building a record from a bundle and reconciling it with the bundle derive the same record, so what
was built reconciles. And a record binds its bundle: the digest of the manifest is in the record,
the digests of the other members are in the manifest, so two bundles that reconcile with one record
have the same members with the same octets, unless two of their files collide under SHA-256. The
input of the request is what the binding resolves to.
-/

namespace OperationRecords

open Json Canonical Protocol DataRecords HostFailures LocalHost FileTree

/-! ## A value equals itself -/

section PyEq

open Value

/-- Two lists are equal item by item. -/
theorem pyEqItems_cons (x y : Value) (xs ys : List Value) :
    pyEqItems (x :: xs) (y :: ys) = (pyEq x y && pyEqItems xs ys) := rfl

/-- A dict looks up its keys in the other one. -/
theorem pyEqMembers_cons (p : Text × Value) (m n : Members) :
    pyEqMembers (p :: m) n
      = ((match get? p.1 n with | some y => pyEq p.2 y | none => false) && pyEqMembers m n) := rfl

/-- A bool is compared as a number. -/
theorem pyEq_bool (a b : Bool) :
    pyEq (.bool a) (.bool b) = ((Value.bool a).numeric? == (Value.bool b).numeric?) :=
  rfl

/-- So is an integer. -/
theorem pyEq_int (m n : ℤ) :
    pyEq (.int m) (.int n) = ((Value.int m).numeric? == (Value.int n).numeric?) := rfl

/-- Texts are compared character by character. -/
theorem pyEq_str (s t : Text) : pyEq (.str s) (.str t) = (s == t) := rfl

/-- Sequences are equal where they are of one kind and equal item by item. -/
theorem pyEq_seq (kind kind' : SeqKind) (xs ys : List Value) :
    pyEq (.seq kind xs) (.seq kind' ys) = (kind == kind' && pyEqItems xs ys) := rfl

/-- Dicts of one size are equal where one finds its members in the other. -/
theorem pyEq_obj (m n : Members) :
    pyEq (.obj m) (.obj n) = (m.length == n.length && pyEqMembers m n) := rfl

/-- A list equals itself where its items do. -/
theorem pyEqItems_self {xs : List Value} (h : ∀ x ∈ xs, pyEq x x = true) :
    pyEqItems xs xs = true := by
  induction xs with
  | nil => rfl
  | cons x xs ih =>
      rw [pyEqItems_cons, h x List.mem_cons_self, ih (fun y hy => h y (List.mem_cons_of_mem _ hy))]
      rfl

/-- A dict finds its members in a dict that holds them. -/
theorem pyEqMembers_self {m n : Members} (hn : (n.map Prod.fst).Nodup) (hSub : ∀ p ∈ m, p ∈ n)
    (h : ∀ p ∈ m, pyEq p.2 p.2 = true) : pyEqMembers m n = true := by
  induction m with
  | nil => rfl
  | cons p m ih =>
      have hGet : get? p.1 n = some p.2 := (get?_eq_some_iff hn).2 (hSub p List.mem_cons_self)
      rw [pyEqMembers_cons, hGet, ih (fun q hq => hSub q (List.mem_cons_of_mem _ hq))
        (fun q hq => h q (List.mem_cons_of_mem _ hq))]
      exact (Bool.and_true _).trans (h p List.mem_cons_self)

/-- A text equals itself. -/
theorem pyEq_self_str (s : Text) : pyEq (.str s) (.str s) = true := by
  rw [pyEq_str]
  exact beq_self_eq_true s

/-- An integer equals itself. -/
theorem pyEq_self_int (n : ℤ) : pyEq (.int n) (.int n) = true := by
  rw [pyEq_int]
  exact beq_self_eq_true _

/-- A list equals itself where its items do. -/
theorem pyEq_self_list {xs : List Value} (h : ∀ x ∈ xs, pyEq x x = true) :
    pyEq (.list xs) (.list xs) = true := by
  rw [pyEq_seq, pyEqItems_self h]
  rfl

/-- A dict with distinct keys equals itself where its values do. -/
theorem pyEq_self_obj {m : Members} (hm : (m.map Prod.fst).Nodup)
    (h : ∀ p ∈ m, pyEq p.2 p.2 = true) :
    pyEq (.obj m) (.obj m) = true := by
  rw [pyEq_obj, pyEqMembers_self hm (fun _ hp => hp) h]
  simp

/-- A value that canonical encoding accepts has no NaN inside, and equals itself. -/
theorem pyEq_self_of_accepts (v : Value) : v.Distinct → Accepts v → pyEq v v = true := by
  induction v using Value.induct with
  | null => exact fun _ _ => rfl
  | bool b =>
      intro _ _
      rw [pyEq_bool]
      exact beq_self_eq_true _
  | str s => exact fun _ _ => pyEq_self_str s
  | int n => exact fun _ _ => pyEq_self_int n
  | float x =>
      intro _ h
      simp [pyEq, isFinite_of_accepts h]
  | seq kind xs ih =>
      intro hv h
      rw [Value.distinct_seq] at hv
      rw [accepts_seq] at h
      rw [pyEq_seq, pyEqItems_self (fun x hx => ih x hx (hv x hx) (h x hx))]
      simp
  | obj m ih =>
      intro hv h
      rw [Value.distinct_obj] at hv
      rw [accepts_obj] at h
      exact pyEq_self_obj hv.1 (fun p hp => ih p hp (hv.2 p hp) (h p hp).2)

/-- A member of one of two equal dicts is in the other with an equal value. -/
theorem get?_of_pyEqMembers {n : Members} {key : Text} : ∀ {m : Members} {v : Value},
    pyEqMembers m n = true → (key, v) ∈ m → ∃ w, get? key n = some w ∧ pyEq v w = true
  | [], v, _, h => by cases h
  | (k, x) :: m, v, hEq, h => by
      rw [pyEqMembers_cons, Bool.and_eq_true] at hEq
      rcases List.mem_cons.1 h with h | h
      · cases h
        cases hGet : get? key n with
        | none =>
            rw [hGet] at hEq
            exact absurd hEq.1 Bool.false_ne_true
        | some w =>
            rw [hGet] at hEq
            exact ⟨w, rfl, hEq.1⟩
      · exact get?_of_pyEqMembers hEq.2 h

/-- Equal dicts have equal values under one key. -/
theorem pyEq_value {m n : Members} {key : Text} {v w : Value} (hn : (n.map Prod.fst).Nodup)
    (h : pyEq (.obj m) (.obj n) = true) (hv : (key, v) ∈ m) (hw : (key, w) ∈ n) :
    pyEq v w = true := by
  rw [pyEq_obj, Bool.and_eq_true] at h
  obtain ⟨w', hGet, hEq⟩ := get?_of_pyEqMembers h.2 hv
  rw [(get?_eq_some_iff hn).2 hw] at hGet
  cases hGet
  exact hEq

/-- Equal texts are the same. -/
theorem eq_of_pyEq_str {s t : Text} (h : pyEq (.str s) (.str t) = true) : s = t := by
  rw [pyEq_str] at h
  exact eq_of_beq h

/-- Equal integers are the same. -/
theorem eq_of_pyEq_int {m n : ℤ} (h : pyEq (.int m) (.int n) = true) : m = n := by
  simpa [pyEq_int, numeric?, number?] using h

end PyEq

/-! ## The dump of a record -/

section Dump

open Value

/-- A runner identity equals itself, as it is dumped. -/
theorem pyEq_self_identity (identity : RunnerIdentity) :
    pyEq (RunnerIdentity.codec.encode identity) (RunnerIdentity.codec.encode identity) = true := by
  have hKeys := (Value.distinct_obj.1 (RunnerIdentity.codec.distinct_encode identity)).1
  refine pyEq_self_obj hKeys fun p hp => ?_
  rcases List.mem_pair.1 hp with rfl | rfl <;> exact pyEq_self_str _

/-- A component reference equals itself. -/
theorem pyEq_self_component (component : ComponentRef) :
    pyEq (ComponentRef.codec.encode component) (ComponentRef.codec.encode component) = true := by
  have hKeys := (Value.distinct_obj.1 (ComponentRef.codec.distinct_encode component)).1
  refine pyEq_self_obj hKeys fun p hp => ?_
  rcases List.mem_cons.1 hp with rfl | hp
  · exact pyEq_self_str _
  · rcases List.mem_pair.1 hp with rfl | rfl <;> exact pyEq_self_str _

/-- A member equals itself. -/
theorem pyEq_self_member (member : OperationMember) :
    pyEq (OperationMember.codec.encode member) (OperationMember.codec.encode member) = true := by
  have hKeys := (Value.distinct_obj.1 (OperationMember.codec.distinct_encode member)).1
  refine pyEq_self_obj hKeys fun p hp => ?_
  rcases List.mem_cons.1 hp with rfl | hp
  · exact pyEq_self_str _
  rcases List.mem_cons.1 hp with rfl | hp
  · exact pyEq_self_str _
  rcases List.mem_pair.1 hp with rfl | rfl
  · exact pyEq_self_str _
  · exact pyEq_self_int _

/-- A field mapping equals itself. -/
theorem pyEq_self_mapping (mapping : FieldMapping) :
    pyEq (FieldMapping.codec.encode mapping) (FieldMapping.codec.encode mapping) = true := by
  have hKeys := (Value.distinct_obj.1 (FieldMapping.codec.distinct_encode mapping)).1
  refine pyEq_self_obj hKeys fun p hp => ?_
  rcases List.mem_pair.1 hp with rfl | rfl <;> exact pyEq_self_str _

/-- A source equals itself. -/
theorem pyEq_self_source (source : BindingSource) :
    pyEq (BindingSource.codec.encode source) (BindingSource.codec.encode source) = true := by
  have hKeys := (Value.distinct_obj.1 (BindingSource.codec.distinct_encode source)).1
  refine pyEq_self_obj hKeys fun p hp => ?_
  rcases List.mem_cons.1 hp with rfl | hp
  · exact pyEq_self_str _
  rcases List.mem_pair.1 hp with rfl | rfl
  · exact pyEq_self_str _
  · refine pyEq_self_list fun v hv => ?_
    obtain ⟨mapping, -, rfl⟩ := List.mem_map.1 hv
    exact pyEq_self_mapping mapping

/-- The literals of a binding were encoded when it was validated. -/
theorem accepts_literals (binding : OperationBinding) :
    Accepts (.obj binding.1.literals.members) := by
  have hValid := binding.2
  unfold OperationBindingFields.validateBinding at hValid
  simp only [Except.throwIf_eq_ok, Except.bind_eq_ok] at hValid
  obtain ⟨-, -, -, bs, hBytes, -⟩ := hValid
  exact ⟨bs, hBytes⟩

/-- A binding equals itself. -/
theorem pyEq_self_binding (binding : OperationBinding) :
    pyEq (OperationBinding.codec.encode binding) (OperationBinding.codec.encode binding) =
      true := by
  have hDistinct := OperationBinding.codec.distinct_encode binding
  have hKeys := (Value.distinct_obj.1 hDistinct).1
  refine pyEq_self_obj hKeys fun p hp => ?_
  rcases List.mem_cons.1 hp with rfl | hp
  · exact pyEq_self_of_accepts _ binding.1.literals.distinct (accepts_literals binding)
  · cases hSource : binding.1.source with
    | none =>
        have hNil : (Fields.optional "source" BindingSource.codec).encode binding.1.source =
          [] := by
          rw [hSource]
          rfl
        exact absurd (hNil ▸ hp) List.not_mem_nil
    | some source =>
        have hOne : (Fields.optional "source" BindingSource.codec).encode binding.1.source
            = [(py "source", BindingSource.codec.encode source)] := by
          rw [hSource]
          rfl
        have hMem : p ∈ [(py "source", BindingSource.codec.encode source)] := hOne ▸ hp
        rw [List.mem_singleton.1 hMem]
        exact pyEq_self_source source

/-- The members of the dump of a record. -/
def recordMembers (record : OperationRecord) : Members :=
  [(py "host_schema_version", .int 1), (py "record_kind", .lit "operation"),
    (py "host_binding_version", .int 1), (py "execution_mode", .lit "unmanaged"),
    (py "protocol_version", .lit record.1.protocolVersion.value),
    (py "component", ComponentRef.codec.encode record.1.component),
    (py "operation_hash", .str record.1.operationHash.1),
    (py "manifest_sha256", .str record.1.manifestSha256.1),
    (py "members", .list (record.1.members.1.map OperationMember.codec.encode)),
    (py "runner", RunnerIdentity.codec.encode record.1.runner),
    (py "renderers", .list (record.1.renderers.1.map RunnerIdentity.codec.encode)),
    (py "binding", OperationBinding.codec.encode record.1.binding),
    (py "compatibility", .list [])]

/-- A record is dumped as a dict. -/
theorem encode_record (record : OperationRecord) :
    OperationRecord.codec.encode record = .obj (recordMembers record) := rfl

/-- The keys of the dump are distinct. -/
theorem keys_recordMembers (record : OperationRecord) :
    ((recordMembers record).map Prod.fst).Nodup := by
  have hDistinct := OperationRecord.codec.distinct_encode record
  rw [encode_record] at hDistinct
  exact (Value.distinct_obj.1 hDistinct).1

/-- A record equals itself, so the comparison of a rebuilt record succeeds. -/
theorem pyEq_self_record (record : OperationRecord) :
    pyEq (OperationRecord.codec.encode record) (OperationRecord.codec.encode record) = true := by
  rw [encode_record]
  refine pyEq_self_obj (keys_recordMembers record) ?_
  simp only [recordMembers, List.forall_mem_cons, pyEq_self_int, pyEq_self_str, pyEq_self_component,
    pyEq_self_identity, pyEq_self_binding, true_and]
  refine ⟨pyEq_self_list fun v hv => ?_, pyEq_self_list fun v hv => ?_, rfl, List.forall_mem_nil _⟩
  · obtain ⟨member, -, rfl⟩ := List.mem_map.1 hv
    exact pyEq_self_member member
  · obtain ⟨identity, -, rfl⟩ := List.mem_map.1 hv
    exact pyEq_self_identity identity

/-- Records with equal dumps bind one manifest. -/
theorem manifestSha256_eq {derived record : OperationRecord}
    (h : pyEq (OperationRecord.codec.encode derived) (OperationRecord.codec.encode record) = true) :
    derived.1.manifestSha256 = record.1.manifestSha256 := by
  have hMem : ∀ r : OperationRecord,
      (py "manifest_sha256", Value.str r.1.manifestSha256.1) ∈ recordMembers r := by
    intro r
    simp [recordMembers]
  rw [encode_record, encode_record] at h
  exact Subtype.ext (eq_of_pyEq_str (pyEq_value (keys_recordMembers record) h (hMem derived)
    (hMem record)))

end Dump

/-! ## What a binding resolves to -/

/-- The fields that a binding stands for: its literals, and the columns of its dataset under the
names that its mappings give them. -/
def Resolves (binding : OperationBinding) (dataset : Option SourceDataset) (resolved : Members) :
    Prop :=
  match binding.1.source with
  | none => dataset = none ∧ resolved = binding.1.literals.members
  | some source => ∃ record payload columns, dataset = some (record, payload) ∧
      record.reference = .ok source.1.ref ∧ record.validatePayload payload = .ok () ∧
      List.Forall₂ (Maps payload) source.1.mappings.1 columns ∧
      resolved = binding.1.literals.members ++ columns

/-- The binding stands for the input of the request. -/
def BoundInput (binding : OperationBinding) (dataset : Option SourceDataset)
    (manifest : OperationManifest) : Prop :=
  ∃ resolved bytes, Resolves binding dataset resolved ∧ canonicalJsonBytes (.obj resolved) =
    .ok bytes ∧
    canonicalJsonBytes (.obj manifest.1.request.1.input.members) = .ok bytes

/-- Values that are the same JSON share their canonical bytes. -/
theorem exists_of_sameJson {left right : Value} (h : sameJson left right = true) :
    ∃ bytes, canonicalJsonBytes left = .ok bytes ∧ canonicalJsonBytes right = .ok bytes := by
  unfold sameJson at h
  cases hLeft : canonicalJsonBytes left with
  | error e =>
      rw [hLeft] at h
      cases h
  | ok x =>
      cases hRight : canonicalJsonBytes right with
      | error e =>
          rw [hLeft, hRight] at h
          cases h
      | ok y =>
          rw [hLeft, hRight] at h
          exact ⟨x, rfl, congrArg Except.ok (eq_of_beq h).symm⟩

/-- The last step of `_validate_binding`. -/
theorem boundInput_of_sameJson {binding : OperationBinding} {manifest : OperationManifest}
    {dataset : Option SourceDataset} {resolved : Members}
    (hResolves : Resolves binding dataset resolved)
    (h : (if sameJson (.obj resolved) (.obj manifest.1.request.1.input.members) = false then
      throw invalidMapping else pure () : Except Raised Unit) = .ok ()) :
    BoundInput binding dataset manifest := by
  have hSame : sameJson (.obj resolved) (.obj manifest.1.request.1.input.members) = true := by
    by_contra hDiffers
    rw [Bool.not_eq_true] at hDiffers
    rw [if_pos hDiffers] at h
    cases h
  obtain ⟨bytes, hLeft, hRight⟩ := exists_of_sameJson hSame
  exact ⟨resolved, bytes, hResolves, hLeft, hRight⟩

/-- A validated binding stands for the input of the request. -/
theorem boundInput_of_validateBinding {binding : OperationBinding} {manifest : OperationManifest}
    {dataset : Option SourceDataset} (h : validateBinding binding manifest dataset = .ok ()) :
    BoundInput binding dataset manifest := by
  unfold validateBinding at h
  cases hSource : binding.1.source with
  | none =>
      simp only [hSource, Except.throwIf_eq_ok] at h
      obtain ⟨hNone, h⟩ := h
      refine boundInput_of_sameJson ?_ h
      rw [Resolves, hSource]
      exact ⟨Option.not_isSome_iff_eq_none.1 hNone, rfl⟩
  | some source =>
      simp only [hSource, Except.throwIf_eq_ok] at h
      obtain ⟨-, h⟩ := h
      cases dataset with
      | none => cases h
      | some loaded =>
          obtain ⟨record, payload⟩ := loaded
          simp only [Except.bind_eq_ok, Except.throwIf_eq_ok, Except.mapError_eq_ok, not_not] at h
          obtain ⟨reference, hReference, hRef, _, hPayload, output, hOutput, -,
            resolved, hPure, h⟩ := h
          cases hPure
          obtain ⟨columns, hColumns, hEq⟩ := resolveDatasetFields_eq_ok hOutput
          refine boundInput_of_sameJson ?_ h
          rw [Resolves, hSource]
          exact ⟨record, payload, columns, rfl, hRef ▸ hReference, hPayload, hColumns, hEq⟩

/-! ## What a derivation has seen -/

section Derivation

variable {entry : Option Node} {bundle : List Text} {manifest : OperationManifest}
  {binding : OperationBinding} {record : OperationRecord}

/-- A file of the bundle. -/
def Holds (entry : Option Node) (bundle : List Text) (name : Text) (content : Bytes) : Prop :=
  ∃ info, lookup entry (bundle ++ [name]) = some (.file info content)

/-- A name holds one content. -/
theorem Holds.unique {name : Text} {content content' : Bytes} (h : Holds entry bundle name content)
    (h' : Holds entry bundle name content') : content = content' := by
  obtain ⟨info, hFile⟩ := h
  obtain ⟨info', hFile'⟩ := h'
  rw [hFile] at hFile'
  cases hFile'
  rfl

/-- What was read within a bound is held. -/
theorem holds_of_boundedMemberBytes {name : Text} {maximum : ℕ} {limitName : String}
    {content : Bytes}
    (h : (boundedMemberBytes (bundle ++ [name]) maximum limitName).replay (answer entry) =
      .ok content) :
    Holds entry bundle name content := by
  rw [boundedMemberBytes, Probe.replay_mapError, Probe.replay_query, Except.mapError_eq_ok] at h
  simp only [answer] at h
  unfold Holds
  cases hLookup : lookup entry (bundle ++ [name]) with
  | none =>
      rw [hLookup] at h
      cases h
  | some node =>
      rw [hLookup] at h
      cases node with
      | file info held =>
          simp only [readContent] at h
          split_ifs at h
          cases h
          exact ⟨info, rfl⟩
      | _ => cases h

/-- A member on disk has the digest that the manifest declares. -/
def MemberHeld (entry : Option Node) (bundle : List Text) (declared : MemberKind × FileDigest) :
    Prop :=
  ∃ content, Holds entry bundle declared.2.path.1 content ∧ sha256Hex content = declared.2.sha256.1

/-- A derived member is held with its digest. -/
theorem memberHeld_of_deriveMember {declared : MemberKind × FileDigest} {member : OperationMember}
    (h : (deriveMember bundle declared).replay (answer entry) = .ok member) :
    MemberHeld entry bundle declared := by
  unfold deriveMember at h
  rw [Probe.replay_bind] at h
  obtain ⟨content, hContent, h⟩ := Except.bind_eq_ok.1 h
  by_cases hDigest : sha256Hex content ≠ declared.2.sha256.1
  · rw [if_pos hDigest] at h
    cases h
  · exact ⟨content, holds_of_boundedMemberBytes hContent, not_not.1 hDigest⟩

/-- All derived members are held with their digests. -/
theorem memberHeld_of_deriveMembers : ∀ {declared : List (MemberKind × FileDigest)}
    {members : List OperationMember},
    (deriveMembers bundle declared).replay (answer entry) = .ok members →
      ∀ d ∈ declared, MemberHeld entry bundle d
  | [], _, _, d, hd => absurd hd List.not_mem_nil
  | first :: declared, members, h, d, hd => by
      unfold deriveMembers at h
      rw [Probe.replay_bind] at h
      obtain ⟨member, hMember, h⟩ := Except.bind_eq_ok.1 h
      rw [Probe.replay_bind] at h
      obtain ⟨rest, hRest, -⟩ := Except.bind_eq_ok.1 h
      rcases List.mem_cons.1 hd with rfl | hd
      · exact memberHeld_of_deriveMember hMember
      · exact memberHeld_of_deriveMembers hRest d hd

/-- The bundle on disk is what the manifest says: its names, its own octets and its members. -/
structure Bundled (entry : Option Node) (bundle : List Text) (manifest : OperationManifest)
    (content : Bytes) : Prop where
  names : ∃ names, answer entry (.iterdir bundle) = .ok names ∧
    ∀ name, name ∈ names ↔ name ∈ manifestName :: manifest.1.paths
  manifestFile : Holds entry bundle manifestName content
  pretty : prettyJsonBytes (OperationManifest.codec.encode manifest) = .ok content
  members : ∀ declared ∈ declaredMembers manifest, MemberHeld entry bundle declared

/-- The names that are found are the names that are expected. -/
theorem mem_iff_of_checkNames {expectedNames actualNames : List Text}
    (h : checkNames expectedNames actualNames = .ok ()) (name : Text) :
    name ∈ actualNames ↔ name ∈ expectedNames := by
  unfold checkNames at h
  obtain ⟨expectedKeys, -, h⟩ := Except.bind_eq_ok.1 h
  obtain ⟨actualKeys, -, h⟩ := Except.bind_eq_ok.1 h
  by_cases hAll : expectedKeys.Nodup ∧ actualKeys.Nodup ∧
    (∀ name ∈ actualNames, name ∈ expectedNames) ∧
      (∀ name ∈ expectedNames, name ∈ actualNames)
  · exact ⟨hAll.2.2.1 name, hAll.2.2.2 name⟩
  · rw [if_pos hAll] at h
    cases h

/-- The manifest is written in its pretty form. -/
theorem pretty_of_checkManifestBytes {content : Bytes}
    (h : checkManifestBytes manifest content = .ok ()) :
    prettyJsonBytes (OperationManifest.codec.encode manifest) = .ok content := by
  unfold checkManifestBytes at h
  obtain ⟨pretty, hPretty, h⟩ := Except.bind_eq_ok.1 h
  by_cases hSame : content ≠ pretty
  · rw [if_pos hSame] at h
    cases h
  · rw [not_not.1 hSame]
    exact Except.mapError_eq_ok.1 hPretty

/-- A record holds the digest of the manifest and its binding. -/
theorem manifestSha256_of_assembleRecord {content : Bytes} {members : List OperationMember}
    (h : assembleRecord manifest content members binding = .ok record) :
    record.1.manifestSha256 = digestOf content ∧ record.1.binding = binding := by
  unfold assembleRecord at h
  obtain ⟨boundedMembers, -, h⟩ := Except.bind_eq_ok.1 h
  obtain ⟨renderers, -, h⟩ := Except.bind_eq_ok.1 h
  have hFields := checked_eq_ok.1 h
  rw [hFields]
  exact ⟨rfl, rfl⟩

/-- What a derivation that returns has gone through. -/
theorem deriveRecord_eq_ok
    (h : (deriveRecord manifest bundle binding).replay (answer entry) = .ok record) :
    ∃ names content members, answer entry (.iterdir bundle) = .ok names ∧
      checkNames (manifestName :: manifest.1.paths) names = .ok () ∧
      (boundedMemberBytes (bundle ++ [manifestName]) maxOperationBundleBytes
        "operation_bundle_bytes").replay (answer entry) = .ok content ∧
      checkManifestBytes manifest content = .ok () ∧
      (deriveMembers bundle (declaredMembers manifest)).replay (answer entry) = .ok members ∧
      assembleRecord manifest content (sortBy memberKey members) binding = .ok record := by
  unfold deriveRecord at h
  by_cases hCount : maxOperationArtifacts < manifest.1.artifacts.length
  · rw [if_pos hCount] at h
    cases h
  rw [if_neg hCount] at h
  simp only [Probe.replay_bind, Probe.replay_mapError, Probe.replay_query, Probe.replay_lift,
    Except.bind_eq_ok, Except.mapError_eq_ok] at h
  obtain ⟨names, hNames, _, hCheck, content, hContent, _, hManifest, members, hMembers, h⟩ := h
  by_cases hTotal : (maxOperationBundleBytes : ℤ) <
      content.length + (members.map (fun member => member.sizeBytes.1)).sum
  · rw [if_pos hTotal] at h
    cases h
  rw [if_neg hTotal] at h
  simp only [Probe.replay_bind, Probe.replay_lift, Except.bind_eq_ok, Except.mapError_eq_ok] at h
  obtain ⟨-, -, -, -, hRecord⟩ := h
  exact ⟨names, content, members, hNames, hCheck, hContent, hManifest, hMembers, hRecord⟩

/-- A derivation that returns has found the bundle to be what the manifest says. -/
theorem bundled_of_deriveRecord
    (h : (deriveRecord manifest bundle binding).replay (answer entry) = .ok record) :
    ∃ content, Bundled entry bundle manifest content ∧
      (boundedMemberBytes (bundle ++ [manifestName]) maxOperationBundleBytes
        "operation_bundle_bytes").replay (answer entry) = .ok content ∧
      record.1.manifestSha256 = digestOf content ∧ record.1.binding = binding := by
  obtain ⟨names, content, members, hNames, hCheck, hContent, hManifest, hMembers, hRecord⟩ :=
    deriveRecord_eq_ok h
  obtain ⟨hDigest, hBinding⟩ := manifestSha256_of_assembleRecord hRecord
  refine ⟨content, ⟨⟨names, hNames, mem_iff_of_checkNames hCheck⟩,
    holds_of_boundedMemberBytes hContent, pretty_of_checkManifestBytes hManifest,
    memberHeld_of_deriveMembers hMembers⟩, hContent, hDigest, hBinding⟩

/-- The manifest's own file is read back as the manifest. -/
theorem decode_of_pretty {content : Bytes}
    (h : prettyJsonBytes (OperationManifest.codec.encode manifest) = .ok content) :
    (strictJsonLoads content none >>= OperationManifest.codec.decode) = .ok manifest := by
  have hDistinct := OperationManifest.codec.distinct_encode manifest
  have hLoads := @strictJsonLoads_documentBytes _ _ _ none hDistinct h
    (fun _ hNone => by cases hNone)
  have hSorted := @normal_of_sortKeys .pretty rfl (OperationManifest.codec.encode manifest)
  have hDecode := OperationManifest.codec.decode_sorted_encode manifest
  rw [← hSorted] at hDecode
  exact Except.bind_eq_ok.2 ⟨_, hLoads, hDecode⟩

end Derivation

/-! ## Reconciliation -/

section Reconciliation

variable {entry entry' : Option Node} {bundle bundle' : List Text}
  {manifest manifest' : OperationManifest} {record : OperationRecord}
  {dataset dataset' : Option SourceDataset}

/-- A record that was built reconciles with its bundle, and gives back its manifest. -/
theorem reconcile_of_build {binding : Value}
    (h : (buildOperationRecord manifest bundle binding dataset).replay (answer entry) =
      .ok record) :
    (reconcileOperationRecord record bundle dataset).replay (answer entry) = .ok manifest := by
  unfold buildOperationRecord at h
  simp only [Probe.replay_bind, Probe.replay_lift, Except.bind_eq_ok, Except.mapError_eq_ok] at h
  obtain ⟨validatedBinding, -, u, hBinding, hDerive⟩ := h
  obtain ⟨content, hBundled, hContent, -, rfl⟩ := bundled_of_deriveRecord hDerive
  have hManifest := decode_of_pretty hBundled.pretty
  have hSelf := pyEq_self_record record
  unfold reconcileOperationRecord
  simp only [Probe.replay_bind, Probe.replay_lift, Except.bind_eq_ok, Except.mapError_eq_ok]
  refine ⟨content, hContent, manifest, Except.bind_eq_ok.1 hManifest, u, hBinding, record,
    hDerive, ?_⟩
  rw [if_neg (by rw [hSelf]; nofun)]
  rfl

/-- What reconciliation has found. -/
theorem reconcile_eq_ok
    (h : (reconcileOperationRecord record bundle dataset).replay (answer entry) = .ok manifest) :
    ∃ content, Bundled entry bundle manifest content ∧ record.1.manifestSha256 = digestOf content ∧
      BoundInput record.1.binding dataset manifest := by
  unfold reconcileOperationRecord at h
  simp only [Probe.replay_bind, Probe.replay_lift, Except.bind_eq_ok, Except.mapError_eq_ok] at h
  obtain ⟨content, hContent, parsed, hParsed, _, hBinding, derived, hDerive, h⟩ := h
  by_cases hSame : (OperationRecord.codec.encode derived).pyEq (OperationRecord.codec.encode record)
    = false
  · rw [if_pos hSame] at h
    cases h
  rw [if_neg hSame] at h
  cases h
  rw [Bool.not_eq_false] at hSame
  obtain ⟨found, hBundled, -, hDigest, -⟩ := bundled_of_deriveRecord hDerive
  refine ⟨found, hBundled, ?_, boundInput_of_validateBinding hBinding⟩
  rw [← manifestSha256_eq hSame, hDigest]

/-- No two files of the bundles with one name collide under SHA-256. -/
def NoCollision (entry entry' : Option Node) (bundle bundle' : List Text) : Prop :=
  ∀ name x y, Holds entry bundle name x → Holds entry' bundle' name y → sha256Hex x = sha256Hex y →
    x = y

/-- Two bundles list the same names, and hold the same octets under each. -/
def SameBundle (entry entry' : Option Node) (bundle bundle' : List Text) : Prop :=
  ∃ names names', answer entry (.iterdir bundle) = .ok names ∧ answer entry' (.iterdir bundle') =
    .ok names' ∧
    (∀ name, name ∈ names ↔ name ∈ names') ∧
    ∀ name ∈ names, ∃ content, Holds entry bundle name content ∧ Holds entry' bundle' name content

/-- The declared members have the paths of the manifest. -/
theorem paths_declaredMembers (manifest : OperationManifest) :
    (declaredMembers manifest).map (fun declared => declared.2.path.1) = manifest.1.paths := by
  simp [declaredMembers, OperationManifestFields.paths]

/-- Bundles with one manifest hold the same members: each has the digest that the manifest declares. -/
theorem Bundled.sameBundle {content : Bytes} (hNo : NoCollision entry entry' bundle bundle')
    (h : Bundled entry bundle manifest content) (h' : Bundled entry' bundle' manifest content) :
    SameBundle entry entry' bundle bundle' := by
  obtain ⟨names, hNames, hListed⟩ := h.names
  obtain ⟨names', hNames', hListed'⟩ := h'.names
  refine ⟨names, names', hNames, hNames', fun name => (hListed name).trans (hListed' name).symm, ?_⟩
  intro name hName
  rcases List.mem_cons.1 ((hListed name).1 hName) with rfl | hPath
  · exact ⟨content, h.manifestFile, h'.manifestFile⟩
  · rw [← paths_declaredMembers] at hPath
    obtain ⟨declared, hDeclared, rfl⟩ := List.mem_map.1 hPath
    obtain ⟨x, hHeld, hDigest⟩ := h.members declared hDeclared
    obtain ⟨y, hHeld', hDigest'⟩ := h'.members declared hDeclared
    have hSame : x = y := hNo _ x y hHeld hHeld' (hDigest.trans hDigest'.symm)
    exact ⟨x, hHeld, hSame ▸ hHeld'⟩

/-- A record determines the octets of its manifest, and these determine the manifest. -/
theorem manifest_eq_of_record {content content' : Bytes}
    (hNo : NoCollision entry entry' bundle bundle')
    (h : Bundled entry bundle manifest content) (h' : Bundled entry' bundle' manifest' content')
    (hDigest : digestOf content = digestOf content') : content = content' ∧
    manifest = manifest' := by
  have hContent : content = content' :=
    hNo manifestName content content' h.manifestFile h'.manifestFile (congrArg Subtype.val hDigest)
  have hDecode := decode_of_pretty h.pretty
  rw [hContent, decode_of_pretty h'.pretty] at hDecode
  exact ⟨hContent, (Except.ok.inj hDecode).symm⟩

end Reconciliation

/-- What was built reconciles with the bundle it was built from. Two bundles that reconcile with one
record have one manifest and the same members, octet by octet, unless two of their files collide,
and with each of them the binding stands for the input of the manifest's request. -/
theorem records_reconcile :
    (∀ (entry : Option Node) (manifest : OperationManifest) (bundle : List Text) (binding : Value)
        (dataset : Option SourceDataset) (record : OperationRecord),
      (buildOperationRecord manifest bundle binding dataset).replay (answer entry) = .ok record →
        (reconcileOperationRecord record bundle dataset).replay (answer entry) = .ok manifest) ∧
    ∀ (record : OperationRecord) (entry entry' : Option Node) (bundle bundle' : List Text)
        (dataset dataset' : Option SourceDataset) (manifest manifest' : OperationManifest),
      (reconcileOperationRecord record bundle dataset).replay (answer entry) = .ok manifest →
      (reconcileOperationRecord record bundle' dataset').replay (answer entry') = .ok manifest' →
      NoCollision entry entry' bundle bundle' →
        manifest = manifest' ∧ SameBundle entry entry' bundle bundle' ∧
          BoundInput record.1.binding dataset manifest ∧ BoundInput record.1.binding dataset'
            manifest' := by
  refine ⟨fun entry manifest bundle binding dataset record h => reconcile_of_build h, ?_⟩
  intro record entry entry' bundle bundle' dataset dataset' manifest manifest' h h' hNo
  obtain ⟨content, hBundled, hDigest, hInput⟩ := reconcile_eq_ok h
  obtain ⟨content', hBundled', hDigest', hInput'⟩ := reconcile_eq_ok h'
  obtain ⟨rfl, rfl⟩ := manifest_eq_of_record hNo hBundled hBundled' (hDigest.symm.trans hDigest')
  exact ⟨rfl, hBundled.sameBundle hNo hBundled', hInput, hInput'⟩

end OperationRecords
