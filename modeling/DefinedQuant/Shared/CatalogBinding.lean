import DefinedQuant.Shared.Catalog
import DefinedQuant.Lib.Json.Read
import DefinedQuant.Protocol.CanonicalInjective

/-!
# Subject hashes bind what they depend on

Building a manifest is a depth-first traversal of the dependencies: it fails at what the traversal
meets first, and returns exactly when no cycle and nothing missing can be reached. What is built for
a component does not depend on the path it was reached by, so a manifest holds the hashes of the
manifests of its dependencies, and equal hashes go down to everything that can be reached.
-/

namespace Components

open Json Canonical Protocol DepthFirst

variable {catalog : Catalog}

/-! ## The graph of a catalog -/

/-- What a component ID points to: nothing if it is not installed. -/
def Catalog.next (catalog : Catalog) (name : Text) : Option (List Text) :=
  match catalog.resolve name with
  | .ok record =>
      match record.declared with
      | .ok declared => some declared.components
      | .error _ => some []
  | .error _ => none

/-- A component depends on another one. -/
abbrev Catalog.Depends (catalog : Catalog) : Text → Text → Prop := Points catalog.next

/-- The error for what a traversal meets. -/
def faultError : Fault Text → Raised
  | .missing _ name => .dq .componentNotFound (py "component is not installed: " ++ name)
    (some name)
  | .cycle path name => cycleError path name

/-- A record that can be built on its own: it is read without an error, and with no dependencies its
manifest can be written as JSON. -/
def ComponentRecord.WellFormed (root : PackageRoot) (record : ComponentRecord) : Prop :=
  ∃ declared head value, record.declared = .ok declared ∧
    manifestHead root record declared = .ok head ∧
    jsonCompatible (manifestOf head declared []) = .ok value ∧ value.Distinct ∧ Printable value ∧
    ∀ dependency ∈ declared.components, Text.Encodable dependency

/-- A catalog whose records are each well formed on their own. -/
def Catalog.WellFormed (catalog : Catalog) : Prop :=
  ∀ record ∈ catalog.records, record.WellFormed catalog.root

/-- The graph has no node exactly where the catalog has no record. -/
theorem Catalog.next_eq_none_iff {name : Text} :
    catalog.next name = none ↔ ∀ record, catalog.resolve name ≠ .ok record := by
  unfold Catalog.next
  cases h : catalog.resolve name with
  | error e => simp
  | ok record => cases hDeclared : record.declared <;> simp [hDeclared]

/-- A node of the graph is a record, and its edges are the declared components. -/
theorem Catalog.resolve_of_next {name : Text} {components : List Text}
    (h : catalog.next name = some components) :
    ∃ record, catalog.resolve name = .ok record ∧ record.componentId = name ∧
      ∀ declared, record.declared = .ok declared → declared.components = components := by
  unfold Catalog.next at h
  split at h
  · next record hRecord =>
    refine ⟨record, hRecord, (Catalog.resolve_eq_ok.1 hRecord).2, fun declared hDeclared => ?_⟩
    rw [hDeclared] at h
    exact Option.some.inj h
  · cases h

/-- A missing node is a missing component. -/
theorem Catalog.resolve_of_missing {name : Text} (h : catalog.next name = none) (path : List Text) :
    catalog.resolve name = .error (faultError (.missing path name)) := by
  rw [Catalog.next_eq_none_iff] at h
  unfold Catalog.resolve at h ⊢
  split
  · next record hFound =>
    rw [hFound] at h
    exact absurd rfl (h record)
  · rfl

/-- Only components of the catalog are nodes. -/
theorem Catalog.mem_of_next {name : Text} (h : catalog.next name ≠ none) :
    name ∈ catalog.records.map ComponentRecord.componentId := by
  obtain ⟨components, hNext⟩ := Option.ne_none_iff_exists'.1 h
  obtain ⟨record, hRecord, hName, -⟩ := Catalog.resolve_of_next hNext
  exact List.mem_map.2 ⟨record, (Catalog.resolve_eq_ok.1 hRecord).1, hName⟩

/-! ## The manifest, without its path -/

/-- The hash of one dependency, reached by a path. -/
def dependencyHash (catalog : Catalog) (stack : List Text) (dependency : Text) :
    Except Raised (Text × Text) := do
  let manifest ← subjectManifest catalog stack (← catalog.resolve dependency)
  return (dependency, ← canonicalDigest manifest)

/-- A component that is on the stack already ends the search with a cycle. -/
theorem subjectManifest_of_mem {stack : List Text} {record : ComponentRecord}
    (h : record.componentId ∈ stack) :
    subjectManifest catalog stack record = .error (cycleError stack record.componentId) := by
  rw [subjectManifest, dif_pos h]

/-- Any other component is described with the hashes of its dependencies. -/
theorem subjectManifest_of_notMem {stack : List Text} {record : ComponentRecord}
    (h : record.componentId ∉ stack) :
    subjectManifest catalog stack record = (do
      let declared ← record.declared
      let hashes ← declared.components.mapM
        (dependencyHash catalog (stack ++ [record.componentId]))
      return manifestOf (← manifestHead catalog.root record declared) declared hashes) := by
  rw [subjectManifest, dif_neg h]
  refine congrArg _ (funext fun declared => ?_)
  refine congrArg (· >>= _) (congrArg (fun f => declared.components.mapM f)
    (funext fun dependency => ?_))
  unfold dependencyHash
  split
  · next e hError => rw [hError]; rfl
  · next found hFound => rw [hFound]; rfl

/-- What is built for a component does not depend on the path, as long as neither meets a fault. -/
theorem subjectManifest_eq_of_clean {stack : List Text} {name : Text}
    (h : Clean catalog.next stack name) : ∀ {stack' : List Text} {record : ComponentRecord},
      Clean catalog.next stack' name → catalog.resolve name = .ok record →
      subjectManifest catalog stack record = subjectManifest catalog stack' record := by
  induction h with
  | @node stack name components hNext hNot hBelow ih =>
      intro stack' record h' hRecord
      have hNot' := h'.notMem
      obtain ⟨found, hFound, hName, hComponents⟩ := Catalog.resolve_of_next hNext
      have hSame : found = record := Except.ok.inj (hFound.symm.trans hRecord)
      subst hSame
      rw [← hName] at hNot hNot'
      rw [subjectManifest_of_notMem hNot, subjectManifest_of_notMem hNot']
      cases hDeclared : found.declared with
      | error e => rfl
      | ok declared =>
          have hHashes : declared.components.mapM
                (dependencyHash catalog (stack ++ [found.componentId])) =
              declared.components.mapM (dependencyHash catalog (stack' ++ [found.componentId])) :=
                by
            refine Except.mapM_congr (fun dependency hDependency => ?_)
            rw [hComponents declared hDeclared] at hDependency
            have hClean' := h'.points ⟨components, hNext, hDependency⟩
            rw [hName]
            unfold dependencyHash
            cases hResolve : catalog.resolve dependency with
            | error e => rfl
            | ok dependencyRecord =>
                have hManifest := ih dependency hDependency hClean' hResolve
                exact congrArg (fun manifest : Except Raised Data => manifest >>= fun manifest => do
                  return (dependency, ← canonicalDigest manifest)) hManifest
          exact congrArg (fun hashes : Except Raised (List (Text × Text)) =>
            hashes >>= fun hashes => do
            return manifestOf (← manifestHead catalog.root found declared) declared hashes) hHashes

/-- The hash of a dependency is its subject hash. -/
theorem dependencyHash_of_clean {stack : List Text} {dependency : Text}
    (h : Clean catalog.next stack dependency) :
    dependencyHash catalog stack dependency
      = (do return (dependency, ← freshSubjectHash catalog dependency)) := by
  unfold dependencyHash freshSubjectHash subjectManifestOf
  cases hResolve : catalog.resolve dependency with
  | error e => rfl
  | ok record =>
      have hSame := subjectManifest_eq_of_clean h (h.mono (List.nil_subset _)) hResolve
      simp only [bind, Except.bind, hSame]
      cases subjectManifest catalog [] record with
      | error e => rfl
      | ok manifest => rfl

/-- The recursion over the graph: the manifest of a clean component holds the subject hashes of what
it depends on. -/
theorem subjectManifestOf_of_clean {name : Text} (h : Clean catalog.next [] name)
    {record : ComponentRecord} (hRecord : catalog.resolve name = .ok record) :
    subjectManifestOf catalog name = (do
      let declared ← record.declared
      let hashes ← declared.components.mapM
        (fun dependency => do return (dependency, ← freshSubjectHash catalog dependency))
      return manifestOf (← manifestHead catalog.root record declared) declared hashes) := by
  obtain ⟨-, hName⟩ := Catalog.resolve_eq_ok.1 hRecord
  have hManifest : subjectManifestOf catalog name = subjectManifest catalog [] record := by
    rw [subjectManifestOf, hRecord]
    rfl
  rw [hManifest, subjectManifest_of_notMem List.not_mem_nil]
  cases hDeclared : record.declared with
  | error e => rfl
  | ok declared =>
      have hHashes :
        declared.components.mapM (dependencyHash catalog ([] ++ [record.componentId])) =
          declared.components.mapM
            (fun dependency => do return (dependency, ← freshSubjectHash catalog dependency)) := by
        refine Except.mapM_congr (fun dependency hDependency => ?_)
        have hNext : catalog.next name = some declared.components := by
          rw [Catalog.next, hRecord]
          simp only [hDeclared]
        rw [hName]
        exact dependencyHash_of_clean (h.points ⟨_, hNext, hDependency⟩)
      exact congrArg (fun hashes : Except Raised (List (Text × Text)) => hashes >>= fun hashes => do
        return manifestOf (← manifestHead catalog.root record declared) declared hashes) hHashes

/-! ## JSON of a manifest -/

/-- Members are converted one after the other. -/
theorem jsonCompatibleMembers_append {m n : List (Option Text × Data)} {values : Members} :
    jsonCompatibleMembers (m ++ n) = .ok values ↔
      ∃ ms ns, jsonCompatibleMembers m = .ok ms ∧ jsonCompatibleMembers n = .ok ns ∧
        values = ms ++ ns := by
  induction m generalizing values with
  | nil => simp [jsonCompatibleMembers, eq_comm]
  | cons p m ih =>
      obtain ⟨key, x⟩ := p
      cases key with
      | none => simp [jsonCompatibleMembers]
      | some key =>
          simp only [List.cons_append, jsonCompatibleMembers, Except.bind_eq_ok, Except.pure_eq_ok]
          constructor
          · rintro ⟨value, hValue, rest, hRest, rfl⟩
            obtain ⟨ms, ns, hm, hn, rfl⟩ := ih.1 hRest
            exact ⟨_, ns, ⟨value, hValue, ms, hm, rfl⟩, hn, rfl⟩
          · rintro ⟨_, ns, ⟨value, hValue, ms, hm, rfl⟩, hn, rfl⟩
            exact ⟨value, hValue, _, ih.2 ⟨ms, ns, hm, hn, rfl⟩, rfl⟩

/-- Texts stay texts. -/
theorem jsonCompatibleMembers_texts (m : List (Text × Text)) :
    jsonCompatibleMembers (m.map (fun p => (some p.1, .str p.2)))
      = .ok (m.map (fun p => (p.1, .str p.2))) := by
  induction m with
  | nil => rfl
  | cons p m ih =>
      rw [List.map_cons, jsonCompatibleMembers, ih]
      rfl

/-- The JSON of a manifest: what stands before and after the hashes does not depend on them. -/
theorem jsonCompatible_manifestOf {head : List (Option Text × Data)} {declared : Declared}
    {hashes : List (Text × Text)} {value : Value} :
    jsonCompatible (manifestOf head declared hashes) = .ok value ↔
      ∃ before after, jsonCompatibleMembers head = .ok before ∧
        jsonCompatible (.seq .list ((sortBy id (declared.dependencies.filter
          (fun d => !isComponentDependency d))).map Data.str)) = .ok after ∧
        value = .obj (before ++
          [(py "component_dependencies", .obj ((assignAll hashes).map (fun p => (p.1, .str p.2)))),
            (py "external_dependency_specifications", after)]) := by
  simp only [manifestOf, jsonCompatible, Except.bind_eq_ok, Except.pure_eq_ok,
    jsonCompatibleMembers_append, jsonCompatibleMembers, jsonCompatibleMembers_texts,
    Except.ok.injEq, exists_eq_left']
  constructor
  · rintro ⟨_, ⟨before, _, hBefore, ⟨_, ⟨_, ⟨items, hItems, rfl⟩, rfl⟩, rfl⟩, rfl⟩, rfl⟩
    exact ⟨before, _, hBefore, ⟨items, hItems, rfl⟩, rfl⟩
  · rintro ⟨before, _, hBefore, ⟨items, hItems, rfl⟩, rfl⟩
    exact ⟨_, ⟨before, _, hBefore, ⟨_, ⟨_, ⟨items, hItems, rfl⟩, rfl⟩, rfl⟩, rfl⟩, rfl⟩

/-! ## Dicts of assignments -/

/-- Assigning a key adds it at the end, if it is new. -/
theorem keys_assign (m : List (Text × Text)) (p : Text × Text) :
    (assign m p).map Prod.fst =
      if p.1 ∈ m.map Prod.fst then m.map Prod.fst else m.map Prod.fst ++ [p.1] := by
  unfold assign
  split_ifs with hKey
  · rw [List.map_map]
    refine List.map_congr_left (fun q _ => ?_)
    show (if q.1 = p.1 then p else q).1 = q.1
    split_ifs with hSame
    · exact hSame.symm
    · rfl
  · rw [List.map_append, List.map_singleton]

/-- Assigning keeps the keys distinct. -/
theorem nodup_assign {m : List (Text × Text)} (h : (m.map Prod.fst).Nodup) (p : Text × Text) :
    ((assign m p).map Prod.fst).Nodup := by
  rw [keys_assign]
  split_ifs with hKey
  · exact h
  · exact List.nodup_append.2 ⟨h, List.nodup_singleton _, fun a ha b hb hEq =>
      hKey (by rw [← List.mem_singleton.1 hb, ← hEq]; exact ha)⟩

/-- A dict holds a key once. -/
theorem nodup_assignAll (pairs : List (Text × Text)) : ((assignAll pairs).map Prod.fst).Nodup := by
  have hFold : ∀ (pairs m : List (Text × Text)), (m.map Prod.fst).Nodup →
      ((pairs.foldl assign m).map Prod.fst).Nodup := by
    intro pairs
    induction pairs with
    | nil => exact fun m h => h
    | cons p pairs ih => exact fun m h => ih _ (nodup_assign h p)
  exact hFold pairs [] List.nodup_nil

/-- Assignments that agree on every key are the members of their dict. -/
theorem mem_assignAll {value : Text → Text} {keys : List Text} {p : Text × Text} :
    p ∈ assignAll (keys.map (fun key => (key, value key))) ↔ p.1 ∈ keys ∧ p.2 = value p.1 := by
  -- Assigning a key again assigns the value it has, so that only the set of keys counts.
  have hFold : ∀ (keys : List Text) (m : List (Text × Text)), (∀ q ∈ m, q.2 = value q.1) →
      (p ∈ (keys.map (fun key => (key, value key))).foldl assign m ↔
        p ∈ m ∨ p.1 ∈ keys ∧ p.2 = value p.1) := by
    intro keys
    induction keys with
    | nil => intro m _; simp
    | cons key keys ih =>
        intro m hm
        rw [List.map_cons, List.foldl_cons]
        have hMem : ∀ q, q ∈ assign m (key, value key) ↔ q ∈ m ∨ q = (key, value key) := by
          intro q
          unfold assign
          split_ifs with hKey
          · obtain ⟨r, hr, hrKey⟩ := List.mem_map.1 hKey
            have hSameEntry : r = (key, value key) :=
              Prod.ext hrKey ((hm r hr).trans (congrArg value hrKey))
            have hOld : (key, value key) ∈ m := hSameEntry ▸ hr
            have hSame : m.map (fun q => if q.1 = key then (key, value key) else q) = m := by
              refine (List.map_congr_left (fun q hq => ?_)).trans (List.map_id m)
              split_ifs with hEq
              · rw [← hEq, ← hm q hq]
                rfl
              · rfl
            rw [hSame]
            exact ⟨.inl, fun h => h.elim id (fun hq => hq ▸ hOld)⟩
          · rw [List.mem_append, List.mem_singleton]
        rw [ih _ (fun q hq => ((hMem q).1 hq).elim (hm q) (fun hEq => by rw [hEq])), hMem,
          List.mem_cons]
        constructor
        · rintro ((hOld | rfl) | ⟨hKey, hValue⟩)
          · exact .inl hOld
          · exact .inr ⟨.inl rfl, rfl⟩
          · exact .inr ⟨.inr hKey, hValue⟩
        · rintro (hOld | ⟨hKey | hKey, hValue⟩)
          · exact .inl (.inl hOld)
          · exact .inl (.inr (by rw [← hKey, ← hValue]))
          · exact .inr ⟨hKey, hValue⟩
  rw [assignAll, hFold keys [] (fun q hq => absurd hq List.not_mem_nil)]
  simp

/-! ## Well formed records build -/

/-- The steps of `canonical_json` on a manifest. -/
theorem canonicalJson_eq_ok {manifest : Data} {bytes : Bytes} :
    canonicalJson manifest = .ok bytes ↔ ∃ value text, jsonCompatible manifest = .ok value ∧
      dumps .compactSorted value = .ok text ∧ validUtf8 text = .ok bytes := by
  unfold canonicalJson
  simp only [Except.bind_eq_ok, Except.mapError_eq_ok]
  constructor
  · rintro ⟨value, hValue, text, hText, hBytes⟩
    exact ⟨value, text, hValue, hText, hBytes⟩
  · rintro ⟨value, text, hValue, hText, hBytes⟩
    exact ⟨value, hValue, text, hText, hBytes⟩

/-- A manifest of a well formed record can be written, whatever the hashes of its dependencies are. -/
theorem exists_canonicalJson {head : List (Option Text × Data)} {declared : Declared}
    {value : Value}
    {hashes : List (Text × Text)} (hValue : jsonCompatible (manifestOf head declared []) =
      .ok value)
    (hDistinct : value.Distinct) (hPrintable : Printable value)
    (hHashes : ∀ p ∈ assignAll hashes, Text.Encodable p.1 ∧ Text.Encodable p.2) :
    ∃ value', jsonCompatible (manifestOf head declared hashes) = .ok value' ∧ value'.Distinct ∧
      ∃ bytes, canonicalJson (manifestOf head declared hashes) = .ok bytes := by
  obtain ⟨before, after, hBefore, hAfter, rfl⟩ := jsonCompatible_manifestOf.1 hValue
  -- The hashes stand in one member; the others are those of the manifest without them.
  have hNew : jsonCompatible (manifestOf head declared hashes) = .ok (.obj (before ++
      [(py "component_dependencies", .obj ((assignAll hashes).map (fun p => (p.1, .str p.2)))),
        (py "external_dependency_specifications", after)])) :=
    jsonCompatible_manifestOf.2 ⟨before, after, hBefore, hAfter, rfl⟩
  rw [Value.distinct_obj, List.map_append, List.forall_mem_append] at hDistinct
  simp only [List.forall_mem_cons] at hDistinct
  obtain ⟨hKeys, hDistinctBefore, -, hDistinctAfter, -⟩ := hDistinct
  rw [printable_obj, List.forall_mem_append] at hPrintable
  simp only [List.forall_mem_cons] at hPrintable
  obtain ⟨hPrintableBefore, ⟨hKey, -⟩, hPrintableAfter, -⟩ := hPrintable
  refine ⟨_, hNew, ?_, ?_⟩
  · rw [Value.distinct_obj, List.map_append, List.forall_mem_append]
    simp only [List.forall_mem_cons]
    refine ⟨hKeys, hDistinctBefore, ?_, hDistinctAfter, fun _ h => absurd h List.not_mem_nil⟩
    rw [Value.distinct_obj, List.map_map]
    refine ⟨nodup_assignAll hashes, fun p hp => ?_⟩
    obtain ⟨q, -, rfl⟩ := List.mem_map.1 hp
    exact Value.distinct_str _
  · have hNewPrintable : Printable (.obj (before ++
        [(py "component_dependencies", .obj ((assignAll hashes).map (fun p => (p.1, .str p.2)))),
          (py "external_dependency_specifications", after)])) := by
      rw [printable_obj, List.forall_mem_append]
      simp only [List.forall_mem_cons]
      refine ⟨hPrintableBefore, ⟨hKey, printable_obj.2 (fun p hp => ?_)⟩, hPrintableAfter,
        fun _ h => absurd h List.not_mem_nil⟩
      obtain ⟨q, hq, rfl⟩ := List.mem_map.1 hp
      exact ⟨writeString_encodable (hHashes q hq).1, printable_str (hHashes q hq).2⟩
    exact ⟨_, canonicalJson_eq_ok.2 ⟨_, _, hNew, dumps_eq_ok.2 ⟨hNewPrintable.1, rfl⟩,
      validUtf8_eq_ok.2 ⟨hNewPrintable.2, rfl⟩⟩⟩

/-- The parts of a component that is well formed on its own and whose dependencies have hashes. -/
structure BuiltFrom (catalog : Catalog) (name : Text) (manifest : Data) (value : Value)
    (components : List Text) (digest : Text → Text) : Prop where
  next : catalog.next name = some components
  manifest_eq : subjectManifestOf catalog name = .ok manifest
  digests : ∀ dependency ∈ components, freshSubjectHash catalog dependency = .ok (digest dependency)
  value_eq : jsonCompatible manifest = .ok value
  distinct : value.Distinct
  bytes_eq : ∃ bytes, canonicalJson manifest = .ok bytes
  members : ∃ before after, value = .obj (before ++
    [(py "component_dependencies",
        .obj ((assignAll (components.map (fun d => (d, digest d)))).map
        (fun p => (p.1, .str p.2)))),
      (py "external_dependency_specifications", after)])

/-- A built manifest has canonical bytes, and their digest is the subject hash. -/
theorem BuiltFrom.hash {name : Text} {manifest : Data} {value : Value} {components : List Text}
    {digest : Text → Text} (h : BuiltFrom catalog name manifest value components digest) :
    ∃ bytes, canonicalJson manifest = .ok bytes ∧
      freshSubjectHash catalog name = .ok (sha256Hex bytes) := by
  obtain ⟨bytes, hBytes⟩ := h.bytes_eq
  refine ⟨bytes, hBytes, ?_⟩
  rw [freshSubjectHash, h.manifest_eq]
  show (do return sha256Hex (← canonicalJson manifest)) = _
  rw [hBytes]
  rfl

/-- What the traversal finds clean is built. -/
theorem exists_builtFrom (hCatalog : catalog.WellFormed) {path : List Text} {name : Text}
    (h : Clean catalog.next path name) :
    ∃ manifest value components digest, BuiltFrom catalog name manifest value components
      digest := by
  induction h with
  | @node path name components hNext hNot hBelow ih =>
      have hClean : Clean catalog.next [] name :=
        (Clean.node hNext hNot hBelow).mono (List.nil_subset path)
      obtain ⟨record, hRecord, hName, hComponents⟩ := Catalog.resolve_of_next hNext
      obtain ⟨declared, head, value, hDeclared, hHead, hValue, hDistinct, hPrintable, hEncodable⟩ :=
        hCatalog record (Catalog.resolve_eq_ok.1 hRecord).1
      have hSame := hComponents declared hDeclared
      subst hSame
      -- Every dependency has a hash, which is a digest.
      have hDigests : ∀ dependency ∈ declared.components, ∃ bytes,
          freshSubjectHash catalog dependency = .ok (sha256Hex bytes) := by
        intro dependency hDependency
        obtain ⟨manifest, value, components, digest, hBuilt⟩ := ih dependency hDependency
        obtain ⟨bytes, -, hHash⟩ := hBuilt.hash
        exact ⟨bytes, hHash⟩
      choose! bytes hBytes using hDigests
      have hHashes : declared.components.mapM
            (fun dependency => do return (dependency, ← freshSubjectHash catalog dependency))
          = .ok (declared.components.map (fun d => (d, sha256Hex (bytes d)))) := by
        refine Except.mapM_eq_map (fun dependency hDependency => ?_)
        rw [hBytes dependency hDependency]
        rfl
      have hManifest : subjectManifestOf catalog name = .ok
          (manifestOf head declared (declared.components.map (fun d => (d, sha256Hex (bytes d)))))
            := by
        rw [subjectManifestOf_of_clean hClean hRecord]
        exact Except.bind_eq_ok.2 ⟨declared, hDeclared, Except.bind_eq_ok.2
          ⟨_, hHashes, Except.bind_eq_ok.2 ⟨head, hHead, rfl⟩⟩⟩
      have hAscii : ∀ p ∈ assignAll (declared.components.map (fun d => (d, sha256Hex (bytes d)))),
          Text.Encodable p.1 ∧ Text.Encodable p.2 := by
        intro p hp
        obtain ⟨hKey, hHash⟩ := mem_assignAll.1 hp
        exact ⟨hEncodable p.1 hKey, hHash ▸ (isAscii_sha256Hex _).encodable⟩
      obtain ⟨value', hValue', hDistinct', hJson⟩ :=
        exists_canonicalJson hValue hDistinct hPrintable hAscii
      obtain ⟨before, after, -, -, hMembers⟩ := jsonCompatible_manifestOf.1 hValue'
      exact ⟨_, value', declared.components, fun d => sha256Hex (bytes d), hNext, hManifest, hBytes,
        hValue', hDistinct', hJson, before, after, hMembers⟩

/-- What the traversal meets first is raised. -/
theorem subjectManifest_of_meets (hCatalog : catalog.WellFormed) {path : List Text} {name : Text}
    {fault : Fault Text} (h : Meets catalog.next path name fault) :
    (catalog.resolve name >>= subjectManifest catalog path) = .error (faultError fault) := by
  induction h with
  | @missing path name hNext =>
      rw [Catalog.resolve_of_missing hNext path]
      rfl
  | @cycle path name components hNext hMem =>
      obtain ⟨record, hRecord, hName, -⟩ := Catalog.resolve_of_next hNext
      rw [hRecord]
      show subjectManifest catalog path record = _
      rw [subjectManifest_of_mem (hName ▸ hMem), hName]
      rfl
  | @deeper path name before dependency after fault hNext hNot hBefore _ ih =>
      obtain ⟨record, hRecord, hName, hComponents⟩ := Catalog.resolve_of_next hNext
      obtain ⟨declared, head, value, hDeclared, -⟩ :=
        hCatalog record (Catalog.resolve_eq_ok.1 hRecord).1
      rw [hRecord]
      show subjectManifest catalog path record = _
      rw [subjectManifest_of_notMem (hName ▸ hNot), hDeclared, hName]
      show (declared.components.mapM (dependencyHash catalog (path ++ [name])) >>= _) = _
      rw [hComponents declared hDeclared, Except.mapM_of_first_error (e := faultError fault)]
      · rfl
      · intro clean hMem
        obtain ⟨manifest, _, _, _, hBuilt⟩ := exists_builtFrom hCatalog (hBefore clean hMem)
        obtain ⟨bytes, -, hHash⟩ := hBuilt.hash
        rw [dependencyHash_of_clean (hBefore clean hMem), hHash]
        exact ⟨_, rfl⟩
      · show (catalog.resolve dependency >>= fun found =>
          subjectManifest catalog (path ++ [name]) found >>= _) = _
        rw [← bind_assoc, ih]
        rfl

/-! ## Equal hashes -/

/-- Manifests that are written as the same JSON, up to the order of members. -/
def SameJson (manifest manifest' : Data) : Prop :=
  ∃ value value', jsonCompatible manifest = .ok value ∧ jsonCompatible manifest' = .ok value' ∧
    normal .compactSorted value = normal .compactSorted value'

/-- SHA-256 tells the written manifests of two catalogs apart. -/
def NoManifestCollision (A B : Catalog) : Prop :=
  ∀ name name' manifest manifest' bytes bytes', subjectManifestOf A name = .ok manifest →
    subjectManifestOf B name' = .ok manifest' → canonicalJson manifest = .ok bytes →
    canonicalJson manifest' = .ok bytes' → sha256Hex bytes = sha256Hex bytes' → bytes = bytes'

/-- The assumption is about both catalogs alike. -/
theorem NoManifestCollision.symm {A B : Catalog} (h : NoManifestCollision A B) :
    NoManifestCollision B A :=
  fun _ _ _ _ _ _ hB hA hBytes hBytes' hHash => (h _ _ _ _ _ _ hA hB hBytes' hBytes hHash.symm).symm

/-- The members of objects with one normal form have the same normal forms. -/
theorem normal_eq_of_normal_obj_eq {m n : Members} (hn : (n.map Prod.fst).Nodup)
    (h : normal .compactSorted (.obj m) = normal .compactSorted (.obj n)) {key : Text} {x y : Value}
    (hx : (key, x) ∈ m) (hy : (key, y) ∈ n) :
    normal .compactSorted x = normal .compactSorted y := by
  rw [normal_obj, normal_obj, Value.obj.injEq] at h
  have hLeft : (key, normal .compactSorted x) ∈
      (arrange .compactSorted n).map (fun p => (p.1, normal .compactSorted p.2)) := by
    rw [← h]
    exact List.mem_map.2 ⟨(key, x), mem_arrange.2 hx, rfl⟩
  obtain ⟨q, hq, hEq⟩ := List.mem_map.1 hLeft
  have hKey : q.1 = key := congrArg Prod.fst hEq
  have hSame : q = (key, y) :=
    List.inj_on_of_nodup_map hn (mem_arrange.1 hq) hy hKey
  have hValue : normal .compactSorted q.2 = normal .compactSorted x := congrArg Prod.snd hEq
  rw [← hValue, hSame]

/-- One text is written for one value, up to the order of members. -/
theorem BuiltFrom.normal_eq {A B : Catalog} {a b : Text} {manifest manifest' : Data}
    {value value' : Value} {components components' : List Text} {digest digest' : Text → Text}
    (h : BuiltFrom A a manifest value components digest)
    (h' : BuiltFrom B b manifest' value' components' digest') {bytes : Bytes}
    (hBytes : canonicalJson manifest = .ok bytes) (hBytes' : canonicalJson manifest' = .ok bytes) :
    normal .compactSorted value = normal .compactSorted value' := by
  obtain ⟨_, text, hValue, hText, hUtf8⟩ := canonicalJson_eq_ok.1 hBytes
  obtain ⟨_, text', hValue', hText', hUtf8'⟩ := canonicalJson_eq_ok.1 hBytes'
  cases h.value_eq.symm.trans hValue
  cases h'.value_eq.symm.trans hValue'
  obtain ⟨hEncodable, hRaw⟩ := validUtf8_eq_ok.1 hUtf8
  obtain ⟨hEncodable', hRaw'⟩ := validUtf8_eq_ok.1 hUtf8'
  have hSame : text = text' :=
    utf8_inj (utf8_eq_some_iff.2 ⟨hEncodable, hRaw⟩) (utf8_eq_some_iff.2 ⟨hEncodable', hRaw'⟩)
  have hLoads := loads_dumps h.distinct hText
  rw [hSame, loads_dumps h'.distinct hText'] at hLoads
  exact (Except.ok.inj hLoads).symm

/-- Manifests that are the same JSON hold the same hashes of the same dependencies. -/
theorem BuiltFrom.digest_eq {A B : Catalog} {a b : Text} {manifest manifest' : Data}
    {value value' : Value} {components components' : List Text} {digest digest' : Text → Text}
    (h : BuiltFrom A a manifest value components digest)
    (h' : BuiltFrom B b manifest' value' components' digest')
    (hNormal : normal .compactSorted value = normal .compactSorted value') {dependency : Text}
    (hDependency : dependency ∈ components) :
    dependency ∈ components' ∧ digest' dependency = digest dependency := by
  have hDistinct' := h'.distinct
  obtain ⟨before, after, rfl⟩ := h.members
  obtain ⟨before', after', rfl⟩ := h'.members
  rw [Value.distinct_obj] at hDistinct'
  have hObjects := @normal_eq_of_normal_obj_eq _ _ hDistinct'.1 hNormal
    (py "component_dependencies") _ _ (List.mem_append_right _ List.mem_cons_self)
    (List.mem_append_right _ List.mem_cons_self)
  have hEntry : (dependency, digest dependency) ∈
      assignAll (components.map (fun d => (d, digest d))) := mem_assignAll.2 ⟨hDependency, rfl⟩
  rw [normal_obj, normal_obj, Value.obj.injEq] at hObjects
  have hFound : (dependency, Value.str (digest dependency)) ∈
      (arrange .compactSorted ((assignAll (components'.map (fun d => (d, digest' d)))).map
        (fun p => (p.1, Value.str p.2)))).map (fun p => (p.1, normal .compactSorted p.2)) := by
    rw [← hObjects]
    exact List.mem_map.2 ⟨(dependency, .str (digest dependency)),
      mem_arrange.2 (List.mem_map.2 ⟨_, hEntry, rfl⟩), rfl⟩
  obtain ⟨q, hq, hEq⟩ := List.mem_map.1 hFound
  obtain ⟨p, hp, rfl⟩ := List.mem_map.1 (mem_arrange.1 hq)
  obtain ⟨hKey, hValue⟩ := mem_assignAll.1 hp
  have hName : p.1 = dependency := congrArg Prod.fst hEq
  have hText : p.2 = digest dependency := by
    have hStr : Value.str p.2 = Value.str (digest dependency) := congrArg Prod.snd hEq
    exact Value.str.inj hStr
  rw [hName] at hKey hValue
  exact ⟨hKey, hValue.symm.trans hText⟩

/-! ## Subject hashes -/

/-- A fault that the search meets is the error of the manifest. -/
theorem subjectManifestOf_of_meets (hCatalog : catalog.WellFormed) {name : Text}
    {fault : Fault Text} (h : Meets catalog.next [] name fault) :
    subjectManifestOf catalog name = .error (faultError fault) :=
  subjectManifest_of_meets hCatalog h

/-- A manifest is built exactly when the traversal is clean. -/
theorem clean_iff_built (hCatalog : catalog.WellFormed) {name : Text} :
    Clean catalog.next [] name ↔ ∃ manifest, subjectManifestOf catalog name = .ok manifest := by
  constructor
  · intro h
    obtain ⟨manifest, _, _, _, hBuilt⟩ := exists_builtFrom hCatalog h
    exact ⟨manifest, hBuilt.manifest_eq⟩
  · rintro ⟨manifest, hManifest⟩
    rcases clean_or_meets (fun _ => Catalog.mem_of_next) [] name with hClean | ⟨fault, hFault⟩
    · exact hClean
    · rw [subjectManifestOf_of_meets hCatalog hFault] at hManifest
      cases hManifest

/-- A component with a hash reaches no fault. -/
theorem clean_of_hash (hCatalog : catalog.WellFormed) {name hash : Text}
    (h : freshSubjectHash catalog name = .ok hash) : Clean catalog.next [] name := by
  obtain ⟨manifest, hManifest, -⟩ := Except.bind_eq_ok.1 h
  exact (clean_iff_built hCatalog).2 ⟨manifest, hManifest⟩

/-- Equal hashes are hashes of the same manifest, which holds equal hashes of the same dependencies. -/
theorem sameJson_of_hash {A B : Catalog} (hA : A.WellFormed) (hB : B.WellFormed)
    (hCollision : NoManifestCollision A B) {name name' hash : Text}
    (h : freshSubjectHash A name = .ok hash) (h' : freshSubjectHash B name' = .ok hash) :
    (∃ manifest manifest', subjectManifestOf A name = .ok manifest ∧
        subjectManifestOf B name' = .ok manifest' ∧ SameJson manifest manifest') ∧
      ∀ dependency, A.Depends name dependency → B.Depends name' dependency ∧
        ∃ hash, freshSubjectHash A dependency = .ok hash ∧ freshSubjectHash B dependency =
          .ok hash := by
  obtain ⟨manifest, value, components, digest, hBuilt⟩ := exists_builtFrom hA (clean_of_hash hA h)
  obtain ⟨manifest', value', components', digest', hBuilt'⟩ :=
    exists_builtFrom hB (clean_of_hash hB h')
  obtain ⟨bytes, hBytes, hHash⟩ := hBuilt.hash
  obtain ⟨bytes', hBytes', hHash'⟩ := hBuilt'.hash
  have hDigest : sha256Hex bytes = sha256Hex bytes' := by
    rw [h] at hHash
    rw [h'] at hHash'
    exact (Except.ok.inj hHash).symm.trans (Except.ok.inj hHash')
  have hSame := hCollision _ _ _ _ _ _ hBuilt.manifest_eq hBuilt'.manifest_eq hBytes hBytes' hDigest
  subst hSame
  have hNormal := hBuilt.normal_eq hBuilt' hBytes hBytes'
  refine ⟨⟨manifest, manifest', hBuilt.manifest_eq, hBuilt'.manifest_eq, value, value',
    hBuilt.value_eq, hBuilt'.value_eq, hNormal⟩, ?_⟩
  rintro dependency ⟨bs, hBs, hMem⟩
  rw [hBuilt.next] at hBs
  cases hBs
  obtain ⟨hMem', hEq⟩ := hBuilt.digest_eq hBuilt' hNormal hMem
  refine ⟨⟨components', hBuilt'.next, hMem'⟩, digest dependency, hBuilt.digests dependency hMem, ?_⟩
  rw [← hEq]
  exact hBuilt'.digests dependency hMem'

/-- Equal hashes go down to whatever can be reached. -/
theorem sameJson_of_reachable {A B : Catalog} (hA : A.WellFormed) (hB : B.WellFormed)
    (hCollision : NoManifestCollision A B) {name hash : Text}
    (h : freshSubjectHash A name = .ok hash) (h' : freshSubjectHash B name = .ok hash)
    {dependency : Text} (hReach : Relation.ReflTransGen A.Depends name dependency) :
    Relation.ReflTransGen B.Depends name dependency ∧
      ∃ hash, freshSubjectHash A dependency = .ok hash ∧ freshSubjectHash B dependency =
        .ok hash := by
  induction hReach with
  | refl => exact ⟨.refl, hash, h, h'⟩
  | tail _ hStep ih =>
      obtain ⟨hReach', hash, hHash, hHash'⟩ := ih
      obtain ⟨-, hBelow⟩ := sameJson_of_hash hA hB hCollision hHash hHash'
      obtain ⟨hStep', hFound⟩ := hBelow _ hStep
      exact ⟨hReach'.tail hStep', hFound⟩

/-- Building a manifest ends for every component of every catalog: it returns exactly when no cycle
and nothing missing can be reached, and otherwise raises what its traversal meets first. Two
catalogs that give a component one hash agree on the manifests of everything that it depends on. -/
theorem subject_hash_binding (A B : Catalog) (hA : A.WellFormed) (hB : B.WellFormed) (name : Text) :
    ((∃ manifest, subjectManifestOf A name = .ok manifest) ↔
        ∀ dependency, Relation.ReflTransGen A.Depends name dependency →
          (∃ record, A.resolve dependency = .ok record) ∧
            ¬ Relation.TransGen A.Depends dependency dependency) ∧
      (∀ e, subjectManifestOf A name = .error e ↔
        ∃ fault, Meets A.next [] name fault ∧ e = faultError fault) ∧
      ∀ hash, NoManifestCollision A B → freshSubjectHash A name = .ok hash →
        freshSubjectHash B name = .ok hash →
        ∀ dependency, (Relation.ReflTransGen A.Depends name dependency ↔
            Relation.ReflTransGen B.Depends name dependency) ∧
          (Relation.ReflTransGen A.Depends name dependency →
            ∃ manifest manifest', subjectManifestOf A dependency = .ok manifest ∧
              subjectManifestOf B dependency = .ok manifest' ∧ SameJson manifest manifest') := by
  refine ⟨?_, fun e => ⟨fun hError => ?_, ?_⟩, ?_⟩
  · rw [← clean_iff_built hA, clean_iff (fun _ => Catalog.mem_of_next)]
    refine forall₂_congr (fun dependency _ => and_congr_left' ?_)
    rw [Ne, Catalog.next_eq_none_iff, not_forall]
    exact exists_congr (fun record => not_not)
  · rcases @clean_or_meets _ A.next _ _ (fun _ => Catalog.mem_of_next) [] name with
      hClean | ⟨fault, hFault⟩
    · obtain ⟨manifest, hManifest⟩ := (clean_iff_built hA).1 hClean
      rw [hManifest] at hError
      cases hError
    · rw [subjectManifestOf_of_meets hA hFault] at hError
      exact ⟨fault, hFault, (Except.error.inj hError).symm⟩
  · rintro ⟨fault, hFault, rfl⟩
    exact subjectManifestOf_of_meets hA hFault
  · intro hash hCollision h h' dependency
    refine ⟨⟨fun hReach => ?_, fun hReach => ?_⟩, fun hReach => ?_⟩
    · exact (sameJson_of_reachable hA hB hCollision h h' hReach).1
    · exact (sameJson_of_reachable hB hA hCollision.symm h' h hReach).1
    · obtain ⟨-, found, hHash, hHash'⟩ := sameJson_of_reachable hA hB hCollision h h' hReach
      exact (sameJson_of_hash hA hB hCollision hHash hHash').1

/-! ## Two catalogs of one graph

Four components, of which two depend on a third one: both catalogs hold them, one of them beside
components on a cycle and one that misses a dependency.
-/

/-- An empty Python file. -/
def emptyFile (name : String) : SourceFile where
  path := py name
  parts := [py name]
  text := some ⟨[], Text.encodable_nil⟩

def sampleRoot : PackageRoot where
  validation := { emptyFile "validation.py" with isFile := true }
  types := []
  charts := { emptyFile "charts.py" with isFile := true }

/-- A component with one empty file, by its ID and the components that it depends on. -/
def sampleComponent (name : String) (dependencies : List String) : ComponentRecord where
  componentId := py name
  callablePath := py "shared:compute"
  metadata := [(py "id", .str (py name)), (py "guidance", .mapping []), (py "display", .mapping []),
    (py "depends_on", .seq .list (dependencies.map (fun dependency => .str (py dependency))))]
  files := [emptyFile "component.py"]
  importsRendering := .ok false
  schemas := .ok (.mapping [], .mapping [])

def sampleDeclared (dependencies : List String) : Declared where
  guidance := []
  display := []
  inputs := .mapping []
  output := .mapping []
  dependencies := dependencies.map py

/-- Reading a list of texts gives the texts. -/
theorem mapM_texts {f : Data → Except Raised Text} (hf : ∀ s, f (.str s) = .ok s)
    (texts : List String) :
    (texts.map (fun text => Data.str (py text))).mapM f = .ok (texts.map py) := by
  induction texts with
  | nil => rfl
  | cons text texts ih =>
      rw [List.map_cons, List.mapM_cons, hf, ih]
      rfl

/-- What a sample component declares. -/
theorem declared_sampleComponent (name : String) (dependencies : List String) :
    (sampleComponent name dependencies).declared = .ok (sampleDeclared dependencies) := by
  have hSpecifications : dependencySpecifications (sampleComponent name dependencies)
      = .ok (dependencies.map py) := mapM_texts (fun _ => rfl) dependencies
  unfold ComponentRecord.declared
  rw [hSpecifications]
  rfl

/-- A list of texts is compatible with JSON. -/
theorem jsonCompatibleItems_texts (texts : List String) :
    jsonCompatibleItems (texts.map (fun text => Data.str (py text))) = .ok (texts.map Value.lit) :=
      by
  induction texts with
  | nil => rfl
  | cons text texts ih =>
      rw [List.map_cons, jsonCompatibleItems, ih]
      rfl

/-- A hashed field of such a component. -/
def sampleField (name : String) (dependencies : List String) (field : Text) : Value :=
  if field = py "id" then .lit name
  else if field = py "depends_on" then .list (dependencies.map Value.lit)
  else .null

/-- The digest of an empty file. -/
def emptyDigest : Text := sha256Hex []

/-- The manifest of such a component up to its dependencies, as JSON. -/
def sampleBefore (name : String) (dependencies : List String) : Members :=
  [(py "canonicalization_version", .int 2), (py "contract_schema_version", .int 1),
    (py "behaviour_files", .obj [(py "component.py", .str emptyDigest)]),
    (py "component", .obj (behaviourComponentFields.map (fun field =>
      (field, sampleField name dependencies field)))),
    (py "guidance", .obj []),
    (py "semantic_display", .obj (semanticDisplayFields.map (fun field => (field, .null)))),
    (py "schemas", .obj [(py "inputs", .obj []), (py "output", .obj [])]),
    (py "public_symbols", .list [.lit "Inputs", .lit "Output", .lit "compute"]),
    (py "shared_runtime", .obj [(py "validation.py", .str emptyDigest)])]

def sampleHead (name : String) (dependencies : List String) : List (Option Text × Data) :=
  [entry "canonicalization_version" (.int 2), entry "contract_schema_version" (.int 1),
    entry "behaviour_files" (.mapping [entry "component.py" (.str emptyDigest)]),
    entry "component" (project behaviourComponentFields (sampleComponent name dependencies).get?),
    entry "guidance" (.mapping []),
    entry "semantic_display" (project semanticDisplayFields (mappingGet [])),
    entry "schemas" (.mapping [entry "inputs" (.mapping []), entry "output" (.mapping [])]),
    entry "public_symbols" (.seq .list [.str (py "Inputs"), .str (py "Output"),
    .str (py "compute")]),
    entry "shared_runtime" (.mapping [entry "validation.py" (.str emptyDigest)])]

/-- A projection is converted field by field. -/
theorem jsonCompatible_project {fields : List Text} {get : Text → Option Data}
    {value : Text → Value}
    (h : ∀ field ∈ fields, jsonCompatible ((get field).getD .none) = .ok (value field)) :
    jsonCompatible (project fields get) =
      .ok (.obj (fields.map (fun field => (field, value field)))) := by
  have hMembers : ∀ fields : List Text,
      (∀ field ∈ fields, jsonCompatible ((get field).getD .none) = .ok (value field)) →
      jsonCompatibleMembers (fields.map (fun field => (some field, (get field).getD .none)))
        = .ok (fields.map (fun field => (field, value field))) := by
    intro fields
    induction fields with
    | nil => exact fun _ => rfl
    | cons field fields ih =>
        intro h
        obtain ⟨hHead, hTail⟩ := List.forall_mem_cons.1 h
        rw [List.map_cons, jsonCompatibleMembers, hHead, ih hTail]
        rfl
  rw [project, jsonCompatible, hMembers fields h]
  rfl

/-- The head of a sample manifest, as JSON. -/
theorem jsonCompatibleMembers_sampleHead (name : String) (dependencies : List String) :
    jsonCompatibleMembers (sampleHead name dependencies) = .ok (sampleBefore name dependencies) :=
      by
  have hComponent := @jsonCompatible_project behaviourComponentFields
    (sampleComponent name dependencies).get? (sampleField name dependencies) (by
    have hDependencies : jsonCompatible (.seq .list
        (dependencies.map (fun dependency => .str (py dependency))))
          = .ok (.list (dependencies.map Value.lit)) := by
      rw [jsonCompatible, jsonCompatibleItems_texts]
      rfl
    simp only [behaviourComponentFields, List.forall_mem_cons, List.not_mem_nil, false_imp_iff,
      implies_true, and_true]
    exact ⟨rfl, rfl, rfl, rfl, rfl, rfl, rfl, rfl, rfl, rfl, rfl, rfl, rfl, rfl,
      hDependencies, rfl⟩)
  unfold sampleHead
  simp only [entry, jsonCompatibleMembers, hComponent]
  rfl

/-- A whole sample manifest, as JSON. -/
theorem jsonCompatible_sampleManifest {name : String} {dependencies : List String}
    (hComponents : ∀ dependency ∈ dependencies, isComponentDependency (py dependency) = true)
    (hashes : List (Text × Text)) :
    jsonCompatible (manifestOf (sampleHead name dependencies) (sampleDeclared dependencies) hashes)
      = .ok (.obj (sampleBefore name dependencies ++
        [(py "component_dependencies", .obj ((assignAll hashes).map (fun p => (p.1, .str p.2)))),
          (py "external_dependency_specifications", .list [])])) := by
  have hNone : (sampleDeclared dependencies).dependencies.filter (fun d => !isComponentDependency d)
      = [] := by
    refine List.filter_eq_nil_iff.2 (fun d hMem => ?_)
    obtain ⟨dependency, hDependency, rfl⟩ := List.mem_map.1 hMem
    simp [hComponents dependency hDependency]
  refine jsonCompatible_manifestOf.2 ⟨_, _, jsonCompatibleMembers_sampleHead name dependencies,
    ?_, rfl⟩
  rw [hNone]
  rfl

/-- The fields of a sample have distinct keys. -/
theorem distinct_sampleField (name : String) (dependencies : List String) (field : Text) :
    (sampleField name dependencies field).Distinct := by
  unfold sampleField
  split_ifs
  · exact Value.distinct_str _
  · refine Value.distinct_seq.2 (fun x hx => ?_)
    obtain ⟨dependency, -, rfl⟩ := List.mem_map.1 hx
    exact Value.distinct_str _
  · exact Value.distinct_null

/-- The fields of a sample can be written. -/
theorem printable_sampleField (name : String) (dependencies : List String) (field : Text) :
    Printable (sampleField name dependencies field) := by
  unfold sampleField
  split_ifs
  · exact printable_str (encodable_py name)
  · refine printable_seq.2 (fun x hx => ?_)
    obtain ⟨dependency, -, rfl⟩ := List.mem_map.1 hx
    exact printable_str (encodable_py dependency)
  · exact printable_null

/-- Such a component is well formed, whatever it is called and whichever components it depends on. -/
theorem wellFormed_sampleComponent {root : PackageRoot} {name : String} {dependencies : List String}
    (hRoot : manifestHead root (sampleComponent name dependencies) (sampleDeclared dependencies)
      = .ok (sampleHead name dependencies))
    (hComponents : ∀ dependency ∈ dependencies, isComponentDependency (py dependency) = true) :
    (sampleComponent name dependencies).WellFormed root := by
  refine ⟨_, _, _, declared_sampleComponent name dependencies, hRoot,
    jsonCompatible_sampleManifest hComponents [], ?_, ?_, fun d hMem => ?_⟩
  · have hFields : (behaviourComponentFields.map (fun field =>
        (field, sampleField name dependencies field))).map Prod.fst = behaviourComponentFields :=
          rfl
    simp only [sampleBefore, List.cons_append, List.nil_append, Value.distinct_obj,
      Value.distinct_seq, hFields, List.forall_mem_map, distinct_sampleField, List.forall_mem_cons,
      List.not_mem_nil, false_imp_iff, implies_true, and_true, Value.distinct_str,
      Value.distinct_null, Value.distinct_int, List.map_cons, List.map_nil, List.nodup_nil,
      Value.lit]
    decide
  · have hDigest : Printable (.str emptyDigest) := printable_str (isAscii_sha256Hex _).encodable
    simp only [sampleBefore, List.cons_append, List.nil_append, printable_obj, printable_seq,
      List.forall_mem_map, printable_sampleField, hDigest, List.forall_mem_cons, List.not_mem_nil,
      false_imp_iff, implies_true, and_true, printable_null]
    simp only [Printable]
    decide
  · obtain ⟨hMem', -⟩ := List.mem_filter.1 hMem
    obtain ⟨dependency, -, rfl⟩ := List.mem_map.1 hMem'
    exact encodable_py dependency

/-- The manifest of such a component, from the hashes of its dependencies. -/
def sampleManifest (name : String) (dependencies : List String) (hashes : List (Text × Text)) :
    Data :=
  manifestOf (sampleHead name dependencies) (sampleDeclared dependencies) hashes

/-- The digest of the empty byte string. -/
theorem emptyDigest_eq :
    emptyDigest = py "e3b0c44298fc1c149afbf4c8996fb92427ae41e4649b934ca495991b7852b855" := by
  rw [emptyDigest, sha256Hex, sha256_eq_evaluate]
  decide +kernel

/-- The digest of a manifest, by the evaluator of SHA-256 that the kernel runs. -/
theorem canonicalDigest_eq_evaluate (value : Data) :
    canonicalDigest value = do return Bytes.hex (Sha256.evaluate (← canonicalJson value)) := by
  simp only [canonicalDigest, sha256Hex, sha256_eq_evaluate]

def baseDigest : Text := py "5ff24872ad9e857a94fd561b56f414a55145fd65547b71c399d453acbb7c1937"
def leftDigest : Text := py "31ff7d393129e8a485e774aca4e55e68c368d5343d6894992024e3f5feffd7b4"
def rightDigest : Text := py "148ed5600067e02959009fbea2c73cb136b9608feeea37a725be6ca66f7fa254"
def topDigest : Text := py "fa679ea9fa68db36ac693771d705c4027ffa25949728369cc7717006db2ccda6"

/-- A catalog that holds a component, two that depend on it, and one that depends on both. -/
structure HoldsDiamond (catalog : Catalog) : Prop where
  head : ∀ name dependencies, manifestHead catalog.root (sampleComponent name dependencies)
    (sampleDeclared dependencies) = .ok (sampleHead name dependencies)
  base : catalog.resolve (py "dq.a.base") = .ok (sampleComponent "dq.a.base" [])
  left : catalog.resolve (py "dq.a.left") = .ok (sampleComponent "dq.a.left" ["dq.a.base"])
  right : catalog.resolve (py "dq.a.right") = .ok (sampleComponent "dq.a.right" ["dq.a.base"])
  top : catalog.resolve (py "dq.a.top")
    = .ok (sampleComponent "dq.a.top" ["dq.a.left", "dq.a.right"])

/-- The components, with their manifests and digests. -/
def diamond : List (Text × Data × Text) :=
  [(py "dq.a.base", sampleManifest "dq.a.base" [] [], baseDigest),
    (py "dq.a.left", sampleManifest "dq.a.left" ["dq.a.base"] [(py "dq.a.base", baseDigest)],
      leftDigest),
    (py "dq.a.right", sampleManifest "dq.a.right" ["dq.a.base"] [(py "dq.a.base", baseDigest)],
      rightDigest),
    (py "dq.a.top", sampleManifest "dq.a.top" ["dq.a.left", "dq.a.right"]
      [(py "dq.a.left", leftDigest), (py "dq.a.right", rightDigest)], topDigest)]

/-- The hashes of the four components, computed. -/
theorem digest_diamond : ∀ p ∈ diamond, canonicalDigest p.2.1 = .ok p.2.2 := by
  simp only [diamond, sampleManifest, sampleHead, emptyDigest_eq, canonicalDigest_eq_evaluate]
  decide +kernel

/-- The manifest of a sample component whose dependencies have hashes. -/
theorem subjectManifestOf_sample {name : String} {dependencies : List String}
    {hashes : List (Text × Text)} (hHolds : HoldsDiamond catalog)
    (hRecord : catalog.resolve (py name) = .ok (sampleComponent name dependencies))
    (hComponents : (dependencies.map py).filter isComponentDependency = dependencies.map py)
    (hClean : Clean catalog.next [] (py name)) (hHashes : (dependencies.map py).mapM
      (fun dependency => do return (dependency, ← freshSubjectHash catalog dependency)) =
        .ok hashes) :
    subjectManifestOf catalog (py name) = .ok (sampleManifest name dependencies hashes) := by
  rw [subjectManifestOf_of_clean hClean hRecord, declared_sampleComponent]
  refine Except.bind_eq_ok.2 ⟨_, rfl, Except.bind_eq_ok.2 ⟨hashes, ?_, Except.bind_eq_ok.2
    ⟨_, hHolds.head name dependencies, rfl⟩⟩⟩
  show ((dependencies.map py).filter isComponentDependency).mapM _ = _
  rw [hComponents, hHashes]

/-- The hash of a component whose manifest is known. -/
theorem freshSubjectHash_eq {name hash : Text} {manifest : Data}
    (hManifest : subjectManifestOf catalog name = .ok manifest)
    (hDigest : canonicalDigest manifest = .ok hash) : freshSubjectHash catalog name = .ok hash := by
  rw [freshSubjectHash, hManifest]
  exact hDigest

/-- The edges of a sample component are its dependencies. -/
theorem next_sample {name : String} {dependencies : List String}
    (hRecord : catalog.resolve (py name) = .ok (sampleComponent name dependencies))
    (hComponents : (dependencies.map py).filter isComponentDependency = dependencies.map py) :
    catalog.next (py name) = some (dependencies.map py) := by
  rw [Catalog.next, hRecord]
  simp only [declared_sampleComponent]
  exact congrArg some hComponents

/-- The shared dependency has no dependencies of its own. -/
theorem HoldsDiamond.clean_base (hHolds : HoldsDiamond catalog) {path : List Text}
    (hPath : py "dq.a.base" ∉ path) : Clean catalog.next path (py "dq.a.base") :=
  .node (next_sample hHolds.base rfl) hPath (fun _ h => absurd h List.not_mem_nil)

/-- The component on top reaches the shared dependency on two ways and no fault. -/
theorem HoldsDiamond.clean_top (hHolds : HoldsDiamond catalog) :
    Clean catalog.next [] (py "dq.a.top") := by
  refine .node (next_sample hHolds.top (by decide)) List.not_mem_nil (List.forall_mem_cons.2
    ⟨?_, List.forall_mem_cons.2 ⟨?_, fun _ h => absurd h List.not_mem_nil⟩⟩)
  · refine .node (next_sample hHolds.left (by decide)) (by decide) (List.forall_mem_singleton.2 ?_)
    exact hHolds.clean_base (by decide)
  · refine .node (next_sample hHolds.right (by decide)) (by decide) (List.forall_mem_singleton.2 ?_)
    exact hHolds.clean_base (by decide)

/-- Every catalog that holds the components builds the same manifests of them. -/
theorem HoldsDiamond.manifests (hHolds : HoldsDiamond catalog) :
    ∀ p ∈ diamond, subjectManifestOf catalog p.1 = .ok p.2.1 := by
  have hTop := hHolds.clean_top
  have hClean : ∀ name, name = py "dq.a.left" ∨ name = py "dq.a.right" →
    Clean catalog.next [] name := by
    intro name hName
    refine (hTop.points ⟨_, next_sample hHolds.top (by decide), ?_⟩).mono (List.nil_subset _)
    simpa using hName
  have hDigests := digest_diamond
  simp only [diamond, List.forall_mem_cons] at hDigests ⊢
  obtain ⟨hBase, hLeft, hRight, -⟩ := hDigests
  have hBaseManifest := @subjectManifestOf_sample _ "dq.a.base" [] [] hHolds hHolds.base rfl
    (hHolds.clean_base List.not_mem_nil) rfl
  have hBaseHash := freshSubjectHash_eq hBaseManifest hBase
  have hOne : ([py "dq.a.base"].mapM fun dependency => do
      return (dependency, ← freshSubjectHash catalog dependency)) =
        .ok [(py "dq.a.base", baseDigest)] := by
    rw [List.mapM_cons, hBaseHash]
    rfl
  have hLeftManifest := @subjectManifestOf_sample _ "dq.a.left" ["dq.a.base"] _ hHolds hHolds.left
    (by decide) (hClean _ (.inl rfl)) hOne
  have hRightManifest := @subjectManifestOf_sample _ "dq.a.right" ["dq.a.base"] _ hHolds
    hHolds.right
    (by decide) (hClean _ (.inr rfl)) hOne
  have hLeftHash := freshSubjectHash_eq hLeftManifest hLeft
  have hRightHash := freshSubjectHash_eq hRightManifest hRight
  have hBoth : ([py "dq.a.left", py "dq.a.right"].mapM fun dependency => do
      return (dependency, ← freshSubjectHash catalog dependency))
        = .ok [(py "dq.a.left", leftDigest), (py "dq.a.right", rightDigest)] := by
    rw [List.mapM_cons, hLeftHash, List.mapM_cons, hRightHash]
    rfl
  exact ⟨hBaseManifest, hLeftManifest, hRightManifest,
    subjectManifestOf_sample hHolds hHolds.top (by decide) hTop hBoth, fun _ h =>
    absurd h List.not_mem_nil⟩

/-- Where a catalog builds the manifests of these components only, their hashes are told apart. -/
theorem noManifestCollision_of_diamond {A B : Catalog} (hA : HoldsDiamond A) (hB : HoldsDiamond B)
    (hOnlyA : ∀ name, Clean A.next [] name → name ∈ diamond.map Prod.fst)
    (hOnlyB : ∀ name, Clean B.next [] name → name ∈ diamond.map Prod.fst)
    (hWellA : A.WellFormed) (hWellB : B.WellFormed) : NoManifestCollision A B := by
  intro name name' manifest manifest' bytes bytes' hManifest hManifest' hBytes hBytes' hHash
  obtain ⟨p, hp, rfl⟩ := List.mem_map.1 (hOnlyA name ((clean_iff_built hWellA).2 ⟨_, hManifest⟩))
  obtain ⟨q, hq, rfl⟩ := List.mem_map.1 (hOnlyB name' ((clean_iff_built hWellB).2 ⟨_, hManifest'⟩))
  cases (hA.manifests p hp).symm.trans hManifest
  cases (hB.manifests q hq).symm.trans hManifest'
  have hDigest : ∀ {r : Text × Data × Text} {bytes : Bytes}, r ∈ diamond →
      canonicalJson r.2.1 = .ok bytes → sha256Hex bytes = r.2.2 := by
    intro r bytes hr hBytes
    have hr := digest_diamond r hr
    rw [canonicalDigest, hBytes] at hr
    exact Except.ok.inj hr
  rw [hDigest hp hBytes, hDigest hq hBytes'] at hHash
  have hDistinct : (diamond.map (fun r => r.2.2)).Nodup := by
    simp only [diamond, List.map_cons, List.map_nil]
    decide
  cases List.inj_on_of_nodup_map hDistinct hp hq hHash
  exact Except.ok.inj (hBytes.symm.trans hBytes')

/-- The components, and some that are on a cycle, miss a dependency, or do both. -/
def brokenRecords : List ComponentRecord :=
  [sampleComponent "dq.a.top" ["dq.a.left", "dq.a.right"], sampleComponent "dq.a.left"
    ["dq.a.base"],
    sampleComponent "dq.a.right" ["dq.a.base"], sampleComponent "dq.a.base" [],
    sampleComponent "dq.a.loop" ["dq.a.back"], sampleComponent "dq.a.back" ["dq.a.loop"],
    sampleComponent "dq.a.open" ["dq.a.absent"],
    sampleComponent "dq.a.mixed" ["dq.a.base", "dq.a.loop", "dq.a.open"]]

/-- The first catalog has no id twice. -/
theorem distinct_brokenRecords : (brokenRecords.map ComponentRecord.componentId).Nodup := by
  decide

def brokenCatalog : Catalog := ⟨sampleRoot, brokenRecords, distinct_brokenRecords⟩

/-- The components in another order, with the charts missing. -/
def diamondRecords : List ComponentRecord :=
  [sampleComponent "dq.a.base" [], sampleComponent "dq.a.right" ["dq.a.base"],
    sampleComponent "dq.a.left" ["dq.a.base"], sampleComponent "dq.a.top" ["dq.a.left",
    "dq.a.right"]]

/-- Nor has the second. -/
theorem distinct_diamondRecords : (diamondRecords.map ComponentRecord.componentId).Nodup := by
  decide

def diamondCatalog : Catalog where
  root := { sampleRoot with charts := { emptyFile "charts.py" with isFile := false } }
  records := diamondRecords
  distinct := distinct_diamondRecords

/-- The first catalog holds the four components, beside broken ones. -/
theorem holdsDiamond_brokenCatalog : HoldsDiamond brokenCatalog where
  head _ _ := rfl
  base := rfl
  left := rfl
  right := rfl
  top := rfl

/-- The second catalog holds them alone. -/
theorem holdsDiamond_diamondCatalog : HoldsDiamond diamondCatalog where
  head _ _ := rfl
  base := rfl
  left := rfl
  right := rfl
  top := rfl

/-- Both catalogs are well formed: this one, -/
theorem wellFormed_brokenCatalog : brokenCatalog.WellFormed := by
  simp only [Catalog.WellFormed, brokenCatalog, brokenRecords, List.forall_mem_cons]
  exact ⟨wellFormed_sampleComponent rfl (by decide), wellFormed_sampleComponent rfl (by decide),
    wellFormed_sampleComponent rfl (by decide), wellFormed_sampleComponent rfl (by decide),
    wellFormed_sampleComponent rfl (by decide), wellFormed_sampleComponent rfl (by decide),
    wellFormed_sampleComponent rfl (by decide), wellFormed_sampleComponent rfl (by decide),
    fun _ h => absurd h List.not_mem_nil⟩

/-- and this one. -/
theorem wellFormed_diamondCatalog : diamondCatalog.WellFormed := by
  simp only [Catalog.WellFormed, diamondCatalog, diamondRecords, List.forall_mem_cons]
  exact ⟨wellFormed_sampleComponent rfl (by decide), wellFormed_sampleComponent rfl (by decide),
    wellFormed_sampleComponent rfl (by decide), wellFormed_sampleComponent rfl (by decide),
    fun _ h => absurd h List.not_mem_nil⟩

/-- The edges of the broken components: a cycle of two, a missing name, and one that reaches both. -/
theorem next_brokenCatalog : brokenCatalog.next (py "dq.a.loop") = some [py "dq.a.back"] ∧
    brokenCatalog.next (py "dq.a.back") = some [py "dq.a.loop"] ∧
    brokenCatalog.next (py "dq.a.open") = some [py "dq.a.absent"] ∧
    brokenCatalog.next (py "dq.a.mixed")
      = some [py "dq.a.base", py "dq.a.loop", py "dq.a.open"] ∧
    brokenCatalog.next (py "dq.a.absent") = none := by
  have hNext : ∀ name dependencies,
      brokenCatalog.resolve (py name) = .ok (sampleComponent name dependencies) →
      (dependencies.map py).filter isComponentDependency = dependencies.map py →
      brokenCatalog.next (py name) = some (dependencies.map py) := fun _ _ => next_sample
  exact ⟨hNext "dq.a.loop" ["dq.a.back"] rfl (by decide), hNext "dq.a.back" ["dq.a.loop"] rfl
    (by decide),
    hNext "dq.a.open" ["dq.a.absent"] rfl (by decide),
    hNext "dq.a.mixed" ["dq.a.base", "dq.a.loop", "dq.a.open"] rfl (by decide), rfl⟩

/-- The component that misses a dependency, and the one whose traversal comes to a cycle first. -/
theorem meets_brokenCatalog :
    Meets brokenCatalog.next [] (py "dq.a.open") (.missing [py "dq.a.open"] (py "dq.a.absent")) ∧
      Meets brokenCatalog.next [] (py "dq.a.mixed")
        (.cycle [py "dq.a.mixed", py "dq.a.loop", py "dq.a.back"] (py "dq.a.loop")) := by
  obtain ⟨hLoop, hBack, hOpen, hMixed, hAbsent⟩ := next_brokenCatalog
  refine ⟨@Meets.deeper _ _ _ _ [] _ _ _ hOpen List.not_mem_nil
    (fun _ h => absurd h List.not_mem_nil)
    (.missing hAbsent), @Meets.deeper _ _ _ _ [py "dq.a.base"] _ _ _ hMixed List.not_mem_nil
    (List.forall_mem_singleton.2 (holdsDiamond_brokenCatalog.clean_base (by decide))) ?_⟩
  refine @Meets.deeper _ _ _ _ [] _ _ _ hLoop (by decide) (fun _ h => absurd h List.not_mem_nil) ?_
  refine @Meets.deeper _ _ _ _ [] _ _ _ hBack (by decide) (fun _ h => absurd h List.not_mem_nil) ?_
  exact .cycle hLoop (by decide)

/-- Of the first catalog, only the four components reach no fault. -/
theorem clean_brokenCatalog {name : Text} (h : Clean brokenCatalog.next [] name) :
    name ∈ diamond.map Prod.fst := by
  obtain ⟨hLoop, hBack, hOpen, hMixed, hAbsent⟩ := next_brokenCatalog
  have hCycle : ¬ ∃ path, Clean brokenCatalog.next path (py "dq.a.loop") := by
    rintro ⟨path, hClean⟩
    exact hClean.not_cycle (.tail (.single ⟨_, hLoop, List.mem_singleton_self _⟩)
      ⟨_, hBack, List.mem_singleton_self _⟩)
  have hHeld := Catalog.mem_of_next h.isSome
  have hNames : brokenCatalog.records.map ComponentRecord.componentId =
    [py "dq.a.top", py "dq.a.left",
    py "dq.a.right", py "dq.a.base", py "dq.a.loop", py "dq.a.back", py "dq.a.open",
    py "dq.a.mixed"] := rfl
  rw [hNames] at hHeld
  simp only [diamond, List.map_cons, List.map_nil]
  simp only [List.mem_cons, List.not_mem_nil, or_false] at hHeld ⊢
  rcases hHeld with rfl | rfl | rfl | rfl | rfl | rfl | rfl | rfl
  · exact .inr (.inr (.inr rfl))
  · exact .inr (.inl rfl)
  · exact .inr (.inr (.inl rfl))
  · exact .inl rfl
  · exact absurd ⟨_, h⟩ hCycle
  · exact absurd ⟨_, h.points ⟨_, hBack, List.mem_singleton_self _⟩⟩ hCycle
  · exact absurd hAbsent (h.points ⟨_, hOpen, List.mem_singleton_self _⟩).isSome
  · exact absurd ⟨_, h.points ⟨_, hMixed, by simp⟩⟩ hCycle

/-- The second catalog has no other components. -/
theorem clean_diamondCatalog {name : Text} (h : Clean diamondCatalog.next [] name) :
    name ∈ diamond.map Prod.fst := by
  have hHeld := Catalog.mem_of_next h.isSome
  have hNames : diamondCatalog.records.map ComponentRecord.componentId
    = [py "dq.a.base", py "dq.a.right", py "dq.a.left", py "dq.a.top"] := rfl
  rw [hNames] at hHeld
  simp only [diamond, List.map_cons, List.map_nil]
  simp only [List.mem_cons, List.not_mem_nil, or_false] at hHeld ⊢
  rcases hHeld with hBase | hRight | hLeft | hTop
  · exact .inl hBase
  · exact .inr (.inr (.inl hRight))
  · exact .inr (.inl hLeft)
  · exact .inr (.inr (.inr hTop))

/-- Over two catalogs that share four components: the manifests agree down to the component that two
others depend on, and what is missing and what is on a cycle is raised as the traversal meets it. -/
theorem subject_hash_binding_diamond :
    (∀ dependency, Relation.ReflTransGen brokenCatalog.Depends (py "dq.a.top") dependency →
      (∃ record, brokenCatalog.resolve dependency = .ok record) ∧
        ¬ Relation.TransGen brokenCatalog.Depends dependency dependency) ∧
    subjectManifestOf brokenCatalog (py "dq.a.open")
      = .error (faultError (.missing [py "dq.a.open"] (py "dq.a.absent"))) ∧
    subjectManifestOf brokenCatalog (py "dq.a.mixed") = .error (cycleError
      [py "dq.a.mixed", py "dq.a.loop", py "dq.a.back"] (py "dq.a.loop")) ∧
    Relation.ReflTransGen diamondCatalog.Depends (py "dq.a.top") (py "dq.a.base") ∧
    ∃ manifest manifest', subjectManifestOf brokenCatalog (py "dq.a.base") = .ok manifest ∧
      subjectManifestOf diamondCatalog (py "dq.a.base") = .ok manifest' ∧
        SameJson manifest manifest' := by
  have hBinding := subject_hash_binding brokenCatalog diamondCatalog wellFormed_brokenCatalog
    wellFormed_diamondCatalog
  obtain ⟨hMissing, hCycle⟩ := meets_brokenCatalog
  have hMem : (py "dq.a.top", sampleManifest "dq.a.top" ["dq.a.left", "dq.a.right"]
      [(py "dq.a.left", leftDigest), (py "dq.a.right", rightDigest)], topDigest) ∈ diamond := by
    simp [diamond]
  have hTop := holdsDiamond_brokenCatalog.manifests _ hMem
  have hTop' := holdsDiamond_diamondCatalog.manifests _ hMem
  have hDigest := digest_diamond _ hMem
  have hCollision := noManifestCollision_of_diamond holdsDiamond_brokenCatalog
    holdsDiamond_diamondCatalog (fun _ => clean_brokenCatalog) (fun _ => clean_diamondCatalog)
    wellFormed_brokenCatalog wellFormed_diamondCatalog
  have hReach : Relation.ReflTransGen brokenCatalog.Depends (py "dq.a.top") (py "dq.a.base") :=
    .tail (.single ⟨_, next_sample holdsDiamond_brokenCatalog.top (by decide), List.mem_cons_self⟩)
      ⟨_, next_sample holdsDiamond_brokenCatalog.left (by decide), List.mem_cons_self⟩
  obtain ⟨hSame, hManifests⟩ := (hBinding (py "dq.a.top")).2.2 topDigest hCollision
    (freshSubjectHash_eq hTop hDigest) (freshSubjectHash_eq hTop' hDigest) (py "dq.a.base")
  exact ⟨(hBinding _).1.1 ⟨_, hTop⟩, ((hBinding _).2.1 _).2 ⟨_, hMissing, rfl⟩,
    ((hBinding _).2.1 _).2 ⟨_, hCycle, rfl⟩, hSame.1 hReach, hManifests hReach⟩

end Components
