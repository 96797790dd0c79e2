import DefinedQuant.Lib.DepthFirst
import DefinedQuant.Lib.Json.Size
import DefinedQuant.Lib.Sha256
import DefinedQuant.Protocol.Canonical
import DefinedQuant.Protocol.Patterns

/-!
# The component catalog and subject hashes

A component is identified by the hash of its subject manifest: what it declares, the files that
define its behaviour, and for every component that it depends on the hash of that component's
manifest. The manifest is built by a recursion that carries the path of components in progress.

`Data` is what a contract or a schema may hold before `_json_compatible` has made JSON of it. What
Python reads from the disk, imports or derives from a Pydantic model is part of a record or of the
package root, as it was read, imported or derived, with its failure.
-/

namespace Components

open Json Canonical Protocol

/-! ## Errors -/

inductive DQErrorCode where
  | componentNotFound
  | componentContractError
  | componentLoadError
  deriving DecidableEq, Repr

/-- A raised exception: a `DQError`, or a `ValueError` of the JSON writer. -/
inductive Raised where
  | dq (code : DQErrorCode) (message : Text) (componentId : Option Text)
  | value (e : ValueError)
  deriving DecidableEq

/-- `ComponentContractError(message, component_id=...)` -/
def contractError (message : Text) (componentId : Option Text) : Raised :=
  .dq .componentContractError message componentId

/-! ## Contract data -/

/-- A Python value in contract data; a key that is not a string is `none`. -/
inductive Data where
  | none
  | bool (b : Bool)
  | int (n : ℤ)
  | float (x : Binary64)
  | str (s : Text)
  /-- A date or a datetime, by its ISO form. -/
  | date (isoformat : Text)
  | seq (kind : SeqKind) (xs : List Data)
  | mapping (m : List (Option Text × Data))
  /-- A value of any other type. -/
  | other (typeName : Text)

/-- A literal under a string key. -/
abbrev entry (key : String) (value : Data) : Option Text × Data := (some (py key), value)

mutual

/-- `_json_compatible` -/
def jsonCompatible : Data → Except Raised Value
  | .none => .ok .null
  | .bool b => .ok (.bool b)
  | .int n => .ok (.int n)
  | .str s => .ok (.str s)
  | .float x =>
      if x.isFinite then .ok (.float x)
      else .error (contractError (py "contract data cannot contain non-finite numbers") .none)
  | .date isoformat => .ok (.str isoformat)
  | .mapping m => do return .obj (← jsonCompatibleMembers m)
  | .seq _ xs => do return .list (← jsonCompatibleItems xs)
  | .other typeName =>
      .error (contractError (py "contract value of type " ++ typeName ++
        py " is not JSON-compatible")
        .none)

def jsonCompatibleItems : List Data → Except Raised (List Value)
  | [] => .ok []
  | x :: xs => do
      let value ← jsonCompatible x
      return value :: (← jsonCompatibleItems xs)

def jsonCompatibleMembers : List (Option Text × Data) → Except Raised Members
  | [] => .ok []
  | (.none, _) :: _ => .error (contractError (py "contract object keys must be strings") .none)
  | (some key, x) :: m => do
      let value ← jsonCompatible x
      return (key, value) :: (← jsonCompatibleMembers m)

end

/-- `_canonical_json` -/
def canonicalJson (value : Data) : Except Raised Bytes := do
  let text ← (dumps .compactSorted (← jsonCompatible value)).mapError Raised.value
  (validUtf8 text).mapError Raised.value

/-- `hashlib.sha256(_canonical_json(value)).hexdigest()` -/
def canonicalDigest (value : Data) : Except Raised Text := do
  return sha256Hex (← canonicalJson value)

/-! ## Records -/

/-- A Python file, with its text if it can be read as UTF-8. -/
structure SourceFile where
  path : Text
  parts : List Text
  text : Option { t : Text // Text.Encodable t }

/-- `relative.as_posix()` -/
def SourceFile.asPosix (file : SourceFile) : Text := [(0x2F : CodePoint)].intercalate file.parts

/-- A file that must be there. -/
structure SharedModule extends SourceFile where
  isFile : Bool

/-- The shared runtime modules of the package. -/
structure PackageRoot where
  validation : SharedModule
  types : List SharedModule
  charts : SharedModule

/-- `ComponentRecord`, with what is found at its path: the Python files beneath it in order, whether
they import the renderer, and the schemas of its models. -/
structure ComponentRecord where
  componentId : Text
  callablePath : Text
  metadata : List (Text × Data)
  files : List SourceFile
  importsRendering : Except Raised Bool
  schemas : Except Raised (Data × Data)

/-- `record.metadata.get(field)` -/
def ComponentRecord.get? (record : ComponentRecord) (field : Text) : Option Data :=
  record.metadata.lookup field

/-- `text.replace("\r\n", "\n").replace("\r", "\n")` -/
def normaliseNewlines : Text → Text
  | 0x0D :: 0x0A :: rest => 0x0A :: normaliseNewlines rest
  | 0x0D :: rest => 0x0A :: normaliseNewlines rest
  | c :: rest => c :: normaliseNewlines rest
  | [] => []

/-- `_normalised_text_hash` -/
def normalisedTextHash (file : SourceFile) : Except Raised Text :=
  match file.text with
  | none => .error (contractError (py "cannot hash UTF-8 source file: " ++ file.path) none)
  | some text => .ok (sha256Hex (utf8Raw (normaliseNewlines text.1)))

/-- A file that defines behaviour: no test, no example, no cache. -/
def definesBehaviour (file : SourceFile) : Bool :=
  !((py "test_").isPrefixOf (file.parts.getLastD []) || file.parts.contains (py "examples") ||
    file.parts.contains (py "__pycache__"))

/-- The hash of a file under its relative path. -/
def fileEntry (file : SourceFile) : Except Raised (Option Text × Data) := do
  return (some file.asPosix, .str (← normalisedTextHash file))

/-- `_behaviour_files` -/
def behaviourFiles (record : ComponentRecord) : Except Raised Data := do
  let files ← (record.files.filter definesBehaviour).mapM fileEntry
  Except.raiseIf (files = []) (contractError (py "component has no behaviour-defining Python files")
    (some record.componentId))
  return .mapping files

/-- `_shared_runtime_hashes` -/
def sharedRuntimeHashes (root : PackageRoot) (record : ComponentRecord) : Except Raised Data := do
  let rendering ← record.importsRendering
  let paths := [root.validation] ++ root.types ++ (if rendering then [root.charts] else [])
  return .mapping (← paths.mapM (fun file => do
    Except.raiseIf (file.isFile = false)
      (contractError (py "required shared runtime module is missing: " ++ file.path) none)
    fileEntry file.toSourceFile))

/-- `_public_symbols`; a callable path has one colon. -/
def publicSymbols (record : ComponentRecord) : Except Raised Data := do
  let symbols := [py "Inputs", py "Output", (split 0x3A record.callablePath).getLastD []]
  Except.raiseIf (¬ symbols.Nodup)
    (contractError (py "component callable may not be named Inputs or Output")
      (some record.componentId))
  return .seq .list ((sortBy id symbols).map Data.str)

/-- `_BEHAVIOUR_COMPONENT_FIELDS` -/
def behaviourComponentFields : List Text :=
  [py "id", py "slug", py "title", py "category", py "group", py "version", py "lifecycle",
    py "callable", py "template", py "summary", py "tags", py "discovery", py "assumptions",
    py "limitations", py "depends_on", py "supported_python"]

/-- `_SEMANTIC_DISPLAY_FIELDS` -/
def semanticDisplayFields : List Text := [py "formula", py "intent", py "output"]

/-- `CANONICALIZATION_VERSION` -/
def canonicalizationVersion : ℤ := 2

/-- `CONTRACT_SCHEMA_VERSION` -/
def contractSchemaVersion : ℤ := 1

/-- `isinstance(value, Mapping)` -/
def asMapping (value : Option Data) (message : String) (componentId : Text) :
    Except Raised (List (Option Text × Data)) :=
  match value with
  | some (.mapping m) => .ok m
  | _ => .error (contractError (py message) (some componentId))

/-- The dependency specifications of a record: a list of strings. -/
def dependencySpecifications (record : ComponentRecord) : Except Raised (List Text) :=
  let refused := contractError (py "depends_on must be a list of dependency specifications")
    (some record.componentId)
  match (record.get? (py "depends_on")).getD (.seq .list []) with
  | .seq .list xs => xs.mapM (fun x => match x with | .str s => .ok s | _ => .error refused)
  | _ => .error refused

/-- `dependency.startswith("dq.")` -/
def isComponentDependency (dependency : Text) : Bool := (py "dq.").isPrefixOf dependency

/-! ## The manifest -/

/-- What is read of a record before its dependencies are visited. -/
structure Declared where
  guidance : List (Option Text × Data)
  display : List (Option Text × Data)
  inputs : Data
  output : Data
  dependencies : List Text

def ComponentRecord.declared (record : ComponentRecord) : Except Raised Declared := do
  let guidance ← asMapping (record.get? (py "guidance")) "contract guidance must be an object"
    record.componentId
  let display ← asMapping (record.get? (py "display")) "contract display must be an object"
    record.componentId
  let (inputs, output) ← record.schemas
  let dependencies ← dependencySpecifications record
  return { guidance, display, inputs, output, dependencies }

/-- The components that a record depends on, in the order of its specifications. -/
def Declared.components (declared : Declared) : List Text :=
  declared.dependencies.filter isComponentDependency

/-- `{field: mapping.get(field) for field in fields}` -/
def project (fields : List Text) (get : Text → Option Data) : Data :=
  .mapping (fields.map (fun field => (some field, (get field).getD .none)))

/-- `mapping.get(field)` -/
def mappingGet (m : List (Option Text × Data)) (field : Text) : Option Data := m.lookup (some field)

/-- `mapping[key] = value` -/
def assign (assigned : List (Text × Text)) (p : Text × Text) : List (Text × Text) :=
  if p.1 ∈ assigned.map Prod.fst then assigned.map (fun q => if q.1 = p.1 then p else q)
  else assigned ++ [p]

/-- The dict of a list of assignments. -/
def assignAll (pairs : List (Text × Text)) : List (Text × Text) := pairs.foldl assign []

/-- The part of the manifest that comes before the hashes of the dependencies. -/
def manifestHead (root : PackageRoot) (record : ComponentRecord) (declared : Declared) :
    Except Raised (List (Option Text × Data)) := do
  let files ← behaviourFiles record
  let symbols ← publicSymbols record
  let runtime ← sharedRuntimeHashes root record
  return [entry "canonicalization_version" (.int canonicalizationVersion),
    entry "contract_schema_version" (.int contractSchemaVersion), entry "behaviour_files" files,
    entry "component" (project behaviourComponentFields record.get?),
    entry "guidance" (.mapping declared.guidance),
    entry "semantic_display" (project semanticDisplayFields (mappingGet declared.display)),
    entry "schemas"
      (.mapping [entry "inputs" declared.inputs, entry "output" declared.output]),
    entry "public_symbols" symbols, entry "shared_runtime" runtime]

/-- The manifest, with the hashes of the dependencies. -/
def manifestOf (head : List (Option Text × Data)) (declared : Declared)
    (hashes : List (Text × Text)) : Data :=
  .mapping (head ++ [
    entry "component_dependencies"
      (.mapping ((assignAll hashes).map (fun p => (some p.1, .str p.2)))),
    entry "external_dependency_specifications"
      (.seq .list
        ((sortBy id (declared.dependencies.filter (fun d => !isComponentDependency d))).map
        Data.str))])

/-- A catalog: the package root, and records in the order of the directories, no two of one ID. -/
structure Catalog where
  root : PackageRoot
  records : List ComponentRecord
  distinct : (records.map ComponentRecord.componentId).Nodup

/-- `_resolve_record` for a component ID that names no path. -/
def Catalog.resolve (catalog : Catalog) (componentId : Text) : Except Raised ComponentRecord :=
  match catalog.records.find? (fun record => record.componentId = componentId) with
  | some record => .ok record
  | none => .error (.dq .componentNotFound (py "component is not installed: " ++ componentId)
      (some componentId))

theorem Catalog.resolve_eq_ok {catalog : Catalog} {componentId : Text} {record : ComponentRecord} :
    catalog.resolve componentId = .ok record ↔
      record ∈ catalog.records ∧ record.componentId = componentId := by
  unfold Catalog.resolve
  constructor
  · intro h
    split at h
    · next found hFound =>
      cases h
      exact ⟨List.mem_of_find?_eq_some hFound, by simpa using List.find?_some hFound⟩
    · cases h
  · rintro ⟨hMem, rfl⟩
    split
    · next found hFound =>
      have hId : found.componentId = record.componentId := by simpa using List.find?_some hFound
      rw [List.inj_on_of_nodup_map catalog.distinct (List.mem_of_find?_eq_some hFound) hMem hId]
    · next hNone => simpa using List.find?_eq_none.1 hNone record hMem

/-- `component dependency cycle: a -> b -> a` -/
def cycleError (stack : List Text) (componentId : Text) : Raised :=
  contractError (py "component dependency cycle: " ++
    (py " -> ").intercalate (stack ++ [componentId])) (some componentId)

/-- The component IDs of a catalog that are not on a path, and one more for a component that the
catalog does not hold. -/
def Catalog.remaining (catalog : Catalog) (stack : List Text) (record : ComponentRecord) : ℕ :=
  DepthFirst.fresh (catalog.records.map ComponentRecord.componentId) stack +
    (if record.componentId ∈ catalog.records.map ComponentRecord.componentId then 0 else 1)

theorem Catalog.remaining_lt {catalog : Catalog} {stack : List Text}
    {record dependency : ComponentRecord} {name : Text} (hStack : record.componentId ∉ stack)
    (hDependency : catalog.resolve name = .ok dependency) :
    catalog.remaining (stack ++ [record.componentId]) dependency < catalog.remaining stack
      record := by
  obtain ⟨hMem, -⟩ := Catalog.resolve_eq_ok.1 hDependency
  have hHeld : dependency.componentId ∈ catalog.records.map ComponentRecord.componentId :=
    List.mem_map_of_mem hMem
  unfold Catalog.remaining
  rw [if_pos hHeld]
  by_cases hRecord : record.componentId ∈ catalog.records.map ComponentRecord.componentId
  · rw [if_pos hRecord]
    have := DepthFirst.fresh_lt hRecord hStack
    omega
  · rw [if_neg hRecord]
    have hLe : DepthFirst.fresh (catalog.records.map ComponentRecord.componentId)
        (stack ++ [record.componentId]) ≤
          DepthFirst.fresh (catalog.records.map ComponentRecord.componentId) stack := by
      unfold DepthFirst.fresh
      refine (List.monotone_filter_right _ (fun a ha => ?_)).length_le
      simp only [List.mem_append, decide_eq_true_eq, not_or] at ha ⊢
      exact ha.1
    omega

/-- `_subject_manifest`: the recursion goes along the dependencies, and ends because it goes on only
from a component that is not on its path yet. -/
def subjectManifest (catalog : Catalog) (stack : List Text) (record : ComponentRecord) :
    Except Raised Data :=
  if _hStack : record.componentId ∈ stack then .error (cycleError stack record.componentId)
  else do
    let declared ← record.declared
    let hashes ← declared.components.mapM (fun dependency =>
      match _hFound : catalog.resolve dependency with
      | .error e => .error e
      | .ok found => do
          let manifest ← subjectManifest catalog (stack ++ [record.componentId]) found
          return (dependency, ← canonicalDigest manifest))
    return manifestOf (← manifestHead catalog.root record declared) declared hashes
termination_by catalog.remaining stack record
decreasing_by exact Catalog.remaining_lt _hStack _hFound

/-- `subject_manifest` of a component ID. -/
def subjectManifestOf (catalog : Catalog) (componentId : Text) : Except Raised Data := do
  subjectManifest catalog [] (← catalog.resolve componentId)

/-- `_fresh_subject_hash` -/
def freshSubjectHash (catalog : Catalog) (componentId : Text) : Except Raised Text := do
  canonicalDigest (← subjectManifestOf catalog componentId)

/-- `_cached_subject_hash`: the hashes kept for a component ID and a root. -/
abbrev SubjectCache := List ((Text × Text) × Text)

/-- `subject_hash` of a component ID, for the catalogs at the roots as they are now. -/
def subjectHash (catalogAt : Text → Catalog) (cache : SubjectCache) (componentId root : Text) :
    Except Raised Text × SubjectCache :=
  match cache.lookup (componentId, root) with
  | some hash => (.ok hash, cache)
  | none =>
      match freshSubjectHash (catalogAt root) componentId with
      | .ok hash => (.ok hash, ((componentId, root), hash) :: cache)
      | .error e => (.error e, cache)

/-- Every hash in the cache is the one that would be computed now. -/
def SubjectCache.Fresh (catalogAt : Text → Catalog) (cache : SubjectCache) : Prop :=
  ∀ componentId root hash, cache.lookup (componentId, root) = some hash →
    freshSubjectHash (catalogAt root) componentId = .ok hash

/-- The cache changes nothing while the catalogs do not. -/
theorem subjectHash_of_fresh {catalogAt : Text → Catalog} {cache : SubjectCache}
    (h : cache.Fresh catalogAt) (componentId root : Text) :
    (subjectHash catalogAt cache componentId root).1 = freshSubjectHash (catalogAt root)
      componentId ∧
      (subjectHash catalogAt cache componentId root).2.Fresh catalogAt := by
  unfold subjectHash
  split
  · next hash hLookup => exact ⟨(h _ _ _ hLookup).symm, h⟩
  · split
    · next hash hHash =>
      refine ⟨hHash.symm, fun otherId otherRoot otherHash hLookup => ?_⟩
      rw [List.lookup_cons] at hLookup
      split at hLookup
      · next hSame =>
        have hEq : (otherId, otherRoot) = (componentId, root) := by simpa using hSame
        cases hEq
        cases hLookup
        exact hHash
      · exact h _ _ _ hLookup
    · next e hError => exact ⟨hError.symm, h⟩

end Components
