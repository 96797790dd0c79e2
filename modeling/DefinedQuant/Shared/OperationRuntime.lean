import DefinedQuant.Lib.Effect
import DefinedQuant.Lib.FixedDigits
import DefinedQuant.Shared.LocalHost
import DefinedQuant.Shared.OperationFailures

/-!
# Executing one unmanaged operation

`executeOperation` validates a request, runs the component, writes what it computed into a private
staging directory beside the output directory, checks the staged bundle against its manifest and
moves it into place. The files are the entries of the output directory's parent. Every step on them
may fail; what it leaves behind then is in the fault that hits it.

What the catalog, the component and the renderer compute is given by an `Installation`: none of it
touches these files, and each of its parts may raise whatever it likes. That the parent comes into
being when it is missing is left out.

`World.incidents` is not in the source. It records, for use in statements only, the failures after
which something may stay behind.
-/

namespace OperationRuntime

open Json Canonical Protocol DataRecords HostFailures LocalHost FileTree

/-! ## Exceptions -/

/-- An `Exception` on its way to `operation_failure`, with its type's name where it is reported. -/
inductive Thrown where
  | runtime (error : OperationRuntimeError)
  | filesystem (code : SecureFilesystemErrorCode)
  | os (typeName : String)
  | value (typeName : String)
  | other (typeName : String)

/-- `type(exc).__name__` -/
def Thrown.typeName : Thrown → String
  | .runtime _ => "OperationRuntimeError"
  | .filesystem _ => "SecureFilesystemError"
  | .os typeName | .value typeName | .other typeName => typeName

/-- The exception as `operation_failure` sees it. -/
def Thrown.report : Thrown → OperationException
  | .runtime error => .runtime error
  | e => .other e.typeName

/-- What a query raises. -/
def thrownOf : Raised → Thrown
  | .filesystem code _ => .filesystem code
  | .os => .os "OSError"
  | .value _ => .value "ValueError"
  | .host _ _ => .other "HostFailureException"
  | .recursion => .other "RecursionError"

/-- `OperationRuntimeError(code, message, component=component)` -/
def refused (code : OperationErrorCode) (message : String) (component : Option ComponentRef) :
    Thrown :=
  .runtime ⟨code, py message, component, [], Value.distinct_empty⟩

/-- `OperationRuntimeError(..., details={"type": type(exc).__name__})` -/
def refusedAs (code : OperationErrorCode) (message : String) (component : Option ComponentRef)
    (typeName : String) : Thrown :=
  .runtime ⟨code, py message, component, [(py "type", .lit typeName)], by simp⟩

/-! ## The files -/

/-- A failing step: what it raises, and what it leaves behind. -/
structure Fault where
  code : SecureFilesystemErrorCode
  osType : String
  /-- `create_private_file` has created the file and written this much. -/
  written : Option Bytes
  /-- `create_private_directory` has made the directory and failed to make it private. -/
  made : Bool
  /-- What `remove_private_tree` has not removed. -/
  rest : Option Node

/-- A failure after which something may stay behind. -/
inductive Incident where
  | directoryLeft (name : Text)
  | existenceUnknown (name : Text)
  | removalFailed (name : Text)

/-- The entries of the output directory's parent, and what the surroundings will do to the steps on
them. -/
structure World where
  fault : ℕ → Option Fault
  token : ℕ → Text
  tick : ℕ
  entry : Text → Option Node
  incidents : List Incident

/-- A program that works on the output. -/
abbrev Run := EStateM Thrown World

/-- The world at the next step. -/
def World.next (w : World) : World := { w with tick := w.tick + 1 }

/-- The world with another entry at a name. -/
def World.set (w : World) (name : Text) (node : Option Node) : World :=
  { w with entry := Function.update w.entry name node }

/-- The world after an incident. -/
def World.note (w : World) (incident : Incident) : World :=
  { w with incidents := incident :: w.incidents }

/-- A test on an entry, which raises an `OSError` when it cannot be made. -/
def test {α : Type} (name : Text) (f : Option Node → α) : Run α := fun w =>
  match w.fault w.tick with
  | some fault => .error (.os fault.osType) w.next
  | none => .ok (f (w.entry name)) w.next

/-- `path.exists()`, which follows links -/
def pathExists (entry : Option Node) : Bool := (entry.bind Node.resolve).isSome

/-- `path.is_dir()`, which follows links -/
def isDirectory (entry : Option Node) : Bool :=
  match entry.bind Node.resolve with
  | some (.directory _ _) => true
  | _ => false

/-- `os.path.lexists`, which takes a failing test for an absent entry -/
def lexists (name : Text) : Run Bool := fun w =>
  match w.fault w.tick with
  | some _ => .ok false w.next
  | none => .ok (w.entry name).isSome w.next

/-- `staging_dir.exists()` -/
def stagingExists (stage : Text) : Run Bool := fun w =>
  match w.fault w.tick with
  | some fault => .error (.os fault.osType) (w.next.note (.existenceUnknown stage))
  | none => .ok (pathExists (w.entry stage)) w.next

/-- A question that the secure filesystem answers. -/
def ask {α : Type} (name : Text) (q : Query α) : Run α := fun w =>
  match w.fault w.tick with
  | some fault => .error (.filesystem fault.code) w.next
  | none =>
      match answer (w.entry name) q with
      | .ok a => .ok a w.next
      | .error e => .error (thrownOf e) w.next

/-- `directory.iterdir()` -/
def iterdir (name : Text) : Run (List Text) := fun w =>
  match w.fault w.tick with
  | some fault => .error (.os fault.osType) w.next
  | none =>
      match answer (w.entry name) (.iterdir []) with
      | .ok names => .ok names w.next
      | .error e => .error (thrownOf e) w.next

/-- `ensure_directory_path` of the parent -/
def ensureDirectoryPath : Run Unit := fun w =>
  match w.fault w.tick with
  | some fault => .error (.filesystem fault.code) w.next
  | none => .ok () w.next

/-- A directory that the program has made for itself. -/
def emptyDirectory : Node := .directory .personal []

/-- `create_private_directory`. A taken name is found by the first step, which leaves nothing
behind. -/
def createPrivateDirectory (name : Text) : Run Unit := fun w =>
  match w.fault w.tick, w.entry name with
  | some fault, none =>
      if fault.made = true ∧ fault.code ≠ .alreadyExists then
        .error (.filesystem fault.code)
          ((w.next.set name (some emptyDirectory)).note (.directoryLeft name))
      else .error (.filesystem fault.code) w.next
  | some fault, some _ => .error (.filesystem fault.code) w.next
  | none, none => .ok () (w.next.set name (some emptyDirectory))
  | none, some _ => .error (.filesystem .alreadyExists) w.next

/-- `create_private_file` -/
def createPrivateFile (stage member : Text) (content : Bytes) : Run Unit := fun w =>
  match w.fault w.tick with
  | some fault =>
      match fault.written.map (fun part => createFile part [member] (w.entry stage)) with
      | some (.ok node) => .error (.filesystem fault.code) (w.next.set stage node)
      | _ => .error (.filesystem fault.code) w.next
  | none =>
      match createFile content [member] (w.entry stage) with
      | .ok node => .ok () (w.next.set stage node)
      | .error e => .error (thrownOf e) w.next

/-- `publish_directory_no_replace`, which moves the entry or raises. -/
def publishDirectoryNoReplace (source destination : Text) : Run Unit := fun w =>
  match w.fault w.tick with
  | some fault => .error (.filesystem fault.code) w.next
  | none =>
      match w.entry source, w.entry destination with
      | none, _ => .error (.filesystem .publicationFailed) w.next
      | some _, some _ => .error (.filesystem .alreadyExists) w.next
      | some node, none => .ok () ((w.next.set source none).set destination (some node))

/-- `remove_private_tree` -/
def removePrivateTree (name : Text) : Run Unit := fun w =>
  match w.fault w.tick with
  | some fault =>
      .error (.filesystem fault.code) ((w.next.set name fault.rest).note (.removalFailed name))
  | none =>
      match removeTree (w.entry name) with
      | .ok node => .ok () (w.next.set name node)
      | .error e => .error (thrownOf e) (w.next.note (.removalFailed name))

/-- `secrets.token_hex(8)` -/
def tokenHex : Run Text := fun w => .ok (w.token w.tick) w.next

/-! ## Handlers -/

/-- `except OperationRuntimeError: raise` and a handler for exceptions of the given kinds -/
def translate {α : Type} (caught : Thrown → Bool) (error : String → Thrown) (x : Run α) : Run α :=
  Effect.rescue x (fun e =>
    match e with
    | .runtime _ => throw e
    | e => if caught e then throw (error e.typeName) else throw e)

/-- `(OSError, SecureFilesystemError)` -/
def isFileError : Thrown → Bool
  | .os _ | .filesystem _ => true
  | _ => false

/-- `(OSError, SecureFilesystemError, ValidationError, ValueError)` -/
def isBundleError : Thrown → Bool
  | .os _ | .filesystem _ | .value _ => true
  | _ => false

/-- `(TypeError, ValueError, OverflowError)` -/
def isSerializationError : Thrown → Bool
  | .value _ => true
  | .other typeName => typeName == "TypeError" || typeName == "OverflowError"
  | _ => false

/-! ## The output directory -/

/-- The output path as the interpreter resolves it: its name in its parent, and what the steps of
the resolution did. -/
structure OutputPath where
  name : Text
  /-- `expanduser` -/
  expanded : Except Thrown Unit
  /-- `is_symlink` of the expanded path -/
  link : Except Thrown Bool
  /-- `resolve` -/
  resolved : Except Thrown Unit
  /-- a filesystem root or the user's home -/
  forbidden : Bool

/-- `_safe_output_directory` -/
def safeOutputDirectory (path : OutputPath) (component : Option ComponentRef) : Run Text := do
  Effect.lift id path.expanded
  if ← Effect.lift id path.link then
    throw (refused .invalidOutputDirectory "Output directory must not be a symbolic link."
      component)
  else
    Effect.lift id path.resolved
    if path.forbidden then
      throw (refused .invalidOutputDirectory
        "Output directory must not be a filesystem root or the user home directory." component)
    else if ← test path.name pathExists then
      if ← test path.name isDirectory then return path.name
      else
        throw (refused .invalidOutputDirectory
          "Output directory target exists and is not a directory."
          component)
    else return path.name

/-- `_assert_output_available` -/
def assertOutputAvailable (output : Text) (component : Option ComponentRef) : Run Unit := do
  if ← lexists output then
    throw (refused .outputExists "Output directory already exists; choose a new directory."
      component)
  else return

/-- `prepare_output_directory` -/
def prepareOutputDirectory (path : OutputPath) (component : Option ComponentRef) : Run Text := do
  let output ← safeOutputDirectory path component
  assertOutputAvailable output component
  return output

/-! ## Members -/

/-- A chart that a component returns, with what the renderer makes of it. -/
structure Visualization where
  id : Text
  title : Text
  altText : Text
  /-- `render_svg(spec).encode("utf-8")` -/
  svg : Except Thrown Bytes
  /-- `visualization_hash(spec)` -/
  hash : Except Thrown Text

/-- A character that a stem keeps. -/
def isStemChar (c : CodePoint) : Bool := (0x61 ≤ c && c ≤ 0x7A) || c.isDigit

/-- `re.sub(r"[^a-z0-9]+", "-", value)`, behind a character that was replaced or not. -/
def dashes : Bool → Text → Text
  | _, [] => []
  | replaced, c :: rest =>
      if isStemChar c then c :: dashes false rest
      else if replaced then dashes true rest
      else 0x2D :: dashes true rest

/-- `value.strip("-")` -/
def stripDashes (value : Text) : Text :=
  ((value.dropWhile (· == 0x2D)).reverse.dropWhile (· == 0x2D)).reverse

/-- `_safe_stem` -/
def safeStem (casefold : Text → Text) (value : Text) : Text :=
  let stem := stripDashes (dashes false (casefold value))
  if stem = [] then py "visualization" else stem

/-- The number in front of a member's name. -/
def memberIndex (index : ℕ) : Text :=
  if index < 100 then FixedDigits.padded 2 index else py (toString index)

/-- The members of the charts, numbered from `index`. -/
def artifactMembers (casefold : Text → Text) : ℕ → List Visualization → List Text
  | _, [] => []
  | index, spec :: rest =>
      (memberIndex index ++ py "-" ++ safeStem casefold spec.id ++ py ".svg")
        :: artifactMembers casefold (index + 1) rest

def inputMember : Text := py "input.json"

def resultMember : Text := py "result.json"

/-- `_MANIFEST_MEMBER` -/
def manifestMember : Text := py "manifest.json"

/-- `_assert_flat_members` -/
def assertFlatMembers (members : List Text) : Except Thrown Unit :=
  let refusal := refused .artifactWriteFailed "The runner generated a non-flat output member path."
    none
  match members.mapM portableMemberKey with
  | .error _ => .error refusal
  | .ok keys =>
      if (∃ member ∈ members, (0x2F : CodePoint) ∈ member) ∨ ¬ keys.Nodup then .error refusal
        else .ok ()

/-! ## Serializations -/

/-- `_pretty_json_bytes` -/
def prettyJson (value : Value) : Except Thrown Bytes := do
  let text ← (dumps .pretty value).mapError (fun _ => .value "ValueError")
  (validUtf8 (text ++ [0x0A])).mapError (fun _ => .value "UnicodeEncodeError")

/-- `_normalized_model_bytes` -/
def normalizedModelBytes (dump : Except Thrown Value) (component : ComponentRef)
    (code : OperationErrorCode) (message : String) : Except Thrown Bytes :=
  (dump >>= prettyJson).mapError (fun e =>
    if isSerializationError e then refusedAs code message component e.typeName else e)

/-- A model that is built from keyword arguments. -/
def construct {α : Type} (codec : Codec α) (arguments : List (String × Value)) : Except Thrown α :=
  (codec.decode (objectOf arguments)).mapError (fun _ => .value "ValidationError")

/-! ## The staging directory -/

/-- `_STAGING_PREFIX` -/
def stagingPrefix : Text := py ".defined-quant-operation-stage-"

/-- Create a staging directory, unless its name is taken. -/
def createStage (stage : Text) : Run Bool :=
  Effect.rescue (do createPrivateDirectory stage; return true) (fun e =>
    match e with
    | .filesystem .alreadyExists => pure false
    | e => throw e)

/-- The attempts of `_new_operation_stage` that are left. -/
def newStageFrom : ℕ → Run Text
  | 0 => throw (.filesystem .alreadyExists)
  | attempts + 1 => do
      let stage := stagingPrefix ++ (← tokenHex)
      if ← createStage stage then return stage else newStageFrom attempts

/-- `_new_operation_stage` -/
def newOperationStage : Run Text := newStageFrom 100

/-- `try: remove_private_tree(...) except SecureFilesystemError: pass` -/
def removeQuietly (stage : Text) : Run Unit :=
  Effect.rescue (removePrivateTree stage) (fun e =>
    match e with
    | .filesystem _ => pure ()
    | e => throw e)

/-- What the `finally` of `_materialize` does with a stage that was not published. -/
def removeStage (stage : Text) : Run Unit := do
  if ← stagingExists stage then removeQuietly stage else return

/-- `try: ... finally:` where the body tells whether it has published the stage -/
def finallyUnpublished {α : Type} (stage : Text) (body : Run (α × Bool)) : Run α := fun w =>
  match body w with
  | .ok (a, published) w' =>
      if published then .ok a w'
      else
        match removeStage stage w' with
        | .ok _ w'' => .ok a w''
        | .error e w'' => .error e w''
  | .error e w' =>
      match removeStage stage w' with
      | .ok _ w'' => .error e w''
      | .error e' w'' => .error e' w''

/-! ## The staged bundle -/

/-- `hashlib.sha256(content).hexdigest()` -/
def sha256 (content : Bytes) : Text := sha256Hex content

/-- `_MAX_OPERATION_BUNDLE_BYTES` -/
def maxOperationBundleBytes : ℕ := 128 * 1024 * 1024

/-- The digests that a manifest declares, in its order. -/
def declared (manifest : OperationManifest) : List (Text × Text) :=
  (manifest.1.input.path.1, manifest.1.input.sha256.1)
    :: (manifest.1.result.path.1, manifest.1.result.sha256.1)
    :: manifest.1.artifacts.map (fun a => (a.path.1, a.sha256.1))

/-- The names that a bundle has to hold. -/
def expectedNames (manifest : OperationManifest) : List Text :=
  (declared manifest).map Prod.fst ++ [manifestMember]

/-- `portable_member_key` of each name -/
def portableKeys (names : List Text) : Except Thrown (List Text) :=
  (names.mapM portableMemberKey).mapError (fun _ => .value "ValueError")

/-- `any(entry.is_symlink() or not entry.is_file() for entry in entries)` -/
def anyIrregular (stage : Text) : List Text → Run Bool
  | [] => return false
  | name :: rest => do
      let link ← test stage (fun entry =>
        match lookup entry [name] with
        | some (.symlink _) => true
        | _ => false)
      if link then return true
      else
        let file ← test stage (fun entry =>
          match (lookup entry [name]).bind Node.resolve with
          | some (.file _ _) => true
          | _ => false)
        if file then anyIrregular stage rest else return true

/-- `OperationManifest.model_validate_json` -/
def manifestOfBytes (content : Bytes) : Except Thrown OperationManifest :=
  match utf8Decode content with
  | none => .error (.value "ValidationError")
  | some text => (loads text >>= OperationManifest.codec.decode).mapError (fun _ =>
    .value "ValidationError")

/-- The loop over the declared members. -/
def verifyMembers (stage : Text) : List (Text × Text) → Run Unit
  | [] => return
  | (path, digest) :: rest => do
      let content ← ask stage (.readPrivateFile [path] maxOperationBundleBytes)
      if sha256 content ≠ digest then throw (.value "ValueError")
      else verifyMembers stage rest

/-- The body of `verify_operation_bundle`. -/
def reconcileBundle (stage : Text) (manifest : OperationManifest) : Run Unit := do
  ask stage (.verifyPrivateDirectory [])
  let expectedKeys ← Effect.lift id (portableKeys (expectedNames manifest))
  let names ← iterdir stage
  let actualKeys ← Effect.lift id (portableKeys names)
  if ¬ expectedKeys.Nodup ∨ ¬ actualKeys.Nodup ∨ sameNames names (expectedNames manifest) =
    false then
    throw (.value "ValueError")
  else if ← anyIrregular stage names then throw (.value "ValueError")
  else
    let manifestBytes ← ask stage (.readPrivateFile [manifestMember] maxOperationBundleBytes)
    if manifestBytes ≠ (← Effect.lift id (prettyJson (OperationManifest.codec.encode manifest)))
      then
      throw (.value "ValueError")
    else
      let read ← Effect.lift id (manifestOfBytes manifestBytes)
      if (OperationManifest.codec.encode read).pyEq (OperationManifest.codec.encode manifest) =
        false then
        throw (.value "ValueError")
      else verifyMembers stage (declared manifest)

/-- `verify_operation_bundle` -/
def verifyOperationBundle (stage : Text) (manifest : OperationManifest) : Run Unit :=
  translate isBundleError
    (refusedAs .artifactWriteFailed
      "The staged operation bundle failed deterministic reconciliation."
      (some manifest.1.component))
    (reconcileBundle stage manifest)

/-- What `_publish_staged_directory` makes of a failed rename. -/
def notPublished (output : Text) (component : ComponentRef) (e : Thrown) : Run Unit :=
  let taken := refused .outputExists
    "Output directory appeared before publication completed; choose a new directory."
      (some component)
  match e with
  | .filesystem .alreadyExists => throw taken
  | .filesystem code => do if ← lexists output then throw taken else throw (.filesystem code)
  | e => throw e

/-- `_publish_staged_directory` -/
def publishStagedDirectory (stage output : Text) (members : List Text) (component : ComponentRef) :
    Run Unit := do
  Effect.lift id (assertFlatMembers members)
  assertOutputAvailable output (some component)
  Effect.rescue (publishDirectoryNoReplace stage output) (notPublished output component)

/-! ## Materializing -/

/-- The loop over the charts. -/
def writeArtifacts (stage : Text) : List (Visualization × Text) → Run (List SvgArtifact)
  | [] => return []
  | (spec, member) :: rest => do
      let content ← Effect.lift id spec.svg
      createPrivateFile stage member content
      let hash ← Effect.lift id spec.hash
      let artifact ← Effect.lift id (construct SvgArtifact.codec
        [("path", .str member), ("visualization_id", .str spec.id), ("title", .str spec.title),
          ("alt_text", .str spec.altText), ("visualization_hash", .str hash),
          ("sha256", .str (sha256 content)), ("renderer", .lit "defined_quant_svg"),
          ("renderer_version", .lit "0.1.3")])
      return artifact :: (← writeArtifacts stage rest)

/-- `FileDigest(path=..., sha256=...)` -/
def fileDigest (path : Text) (content : Bytes) : Value :=
  objectOf [("path", .str path), ("sha256", .str (sha256 content))]

/-- The manifest of what has been written. -/
def makeManifest (request : OperationRequest) (inputBytes resultBytes : Bytes)
    (artifacts : List SvgArtifact) : Except Thrown OperationManifest := do
  let hash ← (operationHash request).mapError (fun _ => .value "ValueError")
  construct OperationManifest.codec
    [("execution_mode", .lit "unmanaged"), ("operation_hash", .str hash),
      ("request", OperationRequest.codec.encode request),
      ("component", ComponentRef.codec.encode request.1.component),
      ("runner", objectOf [("name", .lit "use_defined_quant"), ("version", .lit "0.1.0")]),
      ("input", fileDigest inputMember inputBytes), ("result", fileDigest resultMember resultBytes),
      ("artifacts", .list (artifacts.map SvgArtifact.codec.encode))]

/-- The charts to write and their members. -/
def artifactsOf (casefold : Text → Text) (request : OperationRequest)
    (visualizations : List Visualization) : List (Visualization × Text) :=
  match request.1.artifacts with
  | none => []
  | some _ => visualizations.zip (artifactMembers casefold 1 visualizations)

/-- The body of `_materialize` that works on the stage: the manifest, and whether it is published. -/
def materializeInto (request : OperationRequest) (artifacts : List (Visualization × Text))
    (members : List Text) (inputBytes resultBytes : Bytes) (output stage : Text) :
    Run (OperationManifest × Bool) := do
  createPrivateFile stage inputMember inputBytes
  createPrivateFile stage resultMember resultBytes
  let written ← writeArtifacts stage artifacts
  let manifest ← Effect.lift id (makeManifest request inputBytes resultBytes written)
  let manifestBytes ← Effect.lift id (prettyJson (OperationManifest.codec.encode manifest))
  createPrivateFile stage manifestMember manifestBytes
  verifyOperationBundle stage manifest
  publishStagedDirectory stage output members request.1.component
  let left ← stagingExists stage
  return (manifest, !left)

/-- `_materialize` -/
def materialize (casefold : Text → Text) (request : OperationRequest)
    (visualizations : List Visualization) (inputBytes resultBytes : Bytes) (output : Text) :
    Run OperationManifest := do
  let component := request.1.component
  let artifacts := artifactsOf casefold request visualizations
  let members := [inputMember, resultMember] ++ artifacts.map Prod.snd ++ [manifestMember]
  Effect.lift id (assertFlatMembers members)
  let stage ← translate isFileError
    (refusedAs .artifactWriteFailed "Could not prepare the operation output directory."
      (some component))
    (do
      ensureDirectoryPath
      assertOutputAvailable output (some component)
      newOperationStage)
  finallyUnpublished stage (translate isBundleError
    (refusedAs .artifactWriteFailed
      "The component completed, but its portable artifacts could not be materialized."
        (some component))
    (materializeInto request artifacts members inputBytes resultBytes output stage))

/-! ## Executing -/

/-- What the installed catalog, the component and the renderer compute. -/
structure Installation where
  Record : Type
  Models : Type
  Input : Type
  Output : Type
  /-- `component_record_for_request` -/
  componentRecordForRequest : OperationRequest → Except Thrown Record
  /-- `component_execution_models` -/
  componentExecutionModels : Record → ComponentRef → Except Thrown Models
  /-- `validate_component_input` -/
  validateComponentInput : Record → Models → Members → ComponentRef → Except Thrown Input
  dumpInput : Input → Except Thrown Value
  /-- `execute_validated_component` -/
  executeValidatedComponent : Record → Models → Input → ComponentRef → Except Thrown Output
  dumpOutput : Output → Except Thrown Value
  visualizations : Output → List Visualization
  /-- `_validation_details` -/
  validationDetails : ValueError → {v : Value // v.Distinct}
  casefold : Text → Text

/-- `_execute_operation_success` -/
def executeOperationSuccess (installation : Installation) (request : OperationRequest)
    (record : installation.Record) (output : Text) : Run OperationSuccess := do
  let component := request.1.component
  let models ← Effect.lift id (installation.componentExecutionModels record component)
  let validatedInput ← Effect.lift id
    (installation.validateComponentInput record models request.1.input.members component)
  let inputBytes ← Effect.lift id (normalizedModelBytes (installation.dumpInput validatedInput)
    component
    .invalidComponentInput "Normalized component input contains a non-finite or non-JSON value.")
  let result ← Effect.lift id
    (installation.executeValidatedComponent record models validatedInput component)
  let resultBytes ← Effect.lift id (normalizedModelBytes (installation.dumpOutput result) component
    .outputValidationFailed "Normalized component output contains a non-finite or non-JSON value.")
  let manifest ← materialize installation.casefold request (installation.visualizations result)
    inputBytes resultBytes output
  return ⟨manifest⟩

/-- What `execute_operation` does with a valid request. -/
def attempt (installation : Installation) (request : OperationRequest) (path : OutputPath) :
    Run OperationSuccess := do
  let output ← prepareOutputDirectory path (some request.1.component)
  let record ← Effect.lift id (installation.componentRecordForRequest request)
  executeOperationSuccess installation request record output

/-- The refusal of a request that is not valid. -/
def invalidRequest (installation : Installation) (error : ValueError) : OperationRuntimeError where
  code := .invalidOperationRequest
  message := py "Request does not satisfy the canonical OperationRequest schema."
  component := none
  details := [(py "errors", (installation.validationDetails error).1)]
  distinct_details := by
    have h := (installation.validationDetails error).2
    simpa using h

/-- `execute_operation`; the request is what its model dumps. -/
def executeOperation (installation : Installation) (request : Value) (path : OutputPath) :
    Run OperationResult :=
  match OperationRequest.codec.decode request with
  | .error e => return .failure (operationFailure (.runtime (invalidRequest installation e)) none)
  | .ok validated =>
      Effect.rescue (do return .success (← attempt installation validated path)) (fun e =>
        return .failure (operationFailure e.report (some validated)))

end OperationRuntime
