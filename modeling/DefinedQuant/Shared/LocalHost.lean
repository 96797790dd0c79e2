import DefinedQuant.Lib.FileTree
import DefinedQuant.Lib.Probe
import DefinedQuant.Shared.DataRecords.Documents
import DefinedQuant.Shared.HostFailures
import Mathlib.Data.Finset.Basic
import Mathlib.Logic.Function.Basic

/-!
# The secure filesystem of a session

A session keeps its records in the entries of four areas of its directory. A `Location` names an
entry, and paths inside one are relative. The operations are those of the POSIX provider, each an
atomic step on the entry it works on: what a provider does in several system calls has the outcome
it would have at one moment, or fails.

Between two steps anything may happen to the files: `Oracle.env` is the change from outside before a
step, and `Oracle.fault` says that a step fails and what it leaves behind in the entry that it was
changing. Publication alone is taken to be atomic, and moves the entry or raises. The outside may
also replace an area directory, which is then an arbitrary change of its entries together with
failing steps.

`exists`, `is_symlink` and `os.walk` do not fail; the latter skips what it cannot list.
-/

namespace LocalHost

open FileTree HostFailures

/-- The directories of a session. -/
inductive Area where
  | datasets
  | operations
  | staging
  | quarantine
  deriving DecidableEq

def Area.name : Area → String
  | .datasets => "datasets"
  | .operations => "operations"
  | .staging => "staging"
  | .quarantine => "quarantine"

/-- An entry of an area. -/
structure Location where
  area : Area
  name : Text
  deriving DecidableEq

/-- The directory of a session: whether it is there, its marker file, and the entries of its areas. -/
structure Disk where
  present : Bool
  marker : Option Node
  entry : Location → Option Node

/-- Set or remove an entry. -/
def Disk.set (disk : Disk) (loc : Location) (node : Option Node) : Disk :=
  { disk with entry := Function.update disk.entry loc node }

/-- A failing step: the error it raises, and what it leaves behind in the entry it was changing. -/
structure Fault where
  code : SecureFilesystemErrorCode
  actual : Option ℕ
  residue : Option Node → Option Node

/-- What the surroundings do, step by step, and what the recursion limit leaves to a call. -/
structure Oracle where
  env : ℕ → Disk → Disk
  fault : ℕ → Option Fault
  token : ℕ → Text
  recursion : ℕ → DataRecords.Recursion

/-! ## Looking -/

/-- The questions a program asks about one entry. -/
inductive Query : Type → Type where
  | verifyPrivateDirectory (path : List Text) : Query Unit
  | iterdir (path : List Text) : Query (List Text)
  | walk (path : List Text) : Query (List Node.WalkStep)
  | readPrivateFile (path : List Text) (maximumBytes : ℕ) : Query Bytes
  | readRegularFile (path : List Text) (maximumBytes : ℕ) : Query Bytes
  | privateTreeSize : Query ℕ

/-- A program that looks at one entry. -/
abbrev Look := Probe Query Raised

/-- A filesystem error without a size. -/
def refusal (code : SecureFilesystemErrorCode) : Raised := .filesystem code none

/-- The content of a file, within a limit. -/
def readContent (content : Bytes) (maximumBytes : ℕ) : Except Raised Bytes :=
  if maximumBytes < content.length then
    .error (.filesystem .byteLimitExceeded (some content.length))
  else .ok content

/-- What stands at a path inside an entry. -/
def lookup (entry : Option Node) (path : List Text) : Option Node := entry.bind (Node.lookup path)

/-- The answer that an entry gives to a question. -/
def answer (entry : Option Node) : {γ : Type} → Query γ → Except Raised γ
  | _, .verifyPrivateDirectory path =>
      match lookup entry path with
      | some (.directory info _) => if info.isPrivate then .ok () else .error (refusal .notPrivate)
      | _ => .error (refusal .notPrivate)
  | _, .iterdir path =>
      match (lookup entry path).bind Node.resolve |>.bind Node.names with
      | some names => .ok names
      | none => .error .os
  | _, .walk path =>
      match (lookup entry path).bind Node.resolve with
      | some node => .ok (Node.walk [] node)
      | none => .ok []
  | _, .readPrivateFile path maximumBytes =>
      match lookup entry path with
      | some (.file info content) =>
          if info.isPrivate then readContent content maximumBytes else .error (refusal .notPrivate)
      | some (.directory _ _) | some (.special _) => .error (refusal .notPrivate)
      | _ => .error (refusal .unsafePath)
  | _, .readRegularFile path maximumBytes =>
      match lookup entry path with
      | some (.file _ content) => readContent content maximumBytes
      | some _ => .error (refusal .notRegularFile)
      | none => .error (refusal .unsafePath)
  | _, .privateTreeSize =>
      match entry.bind Node.resolve with
      | some (.directory _ entries) =>
          match Node.treeSize entries with
          | .ok size => .ok size
          | .error .notPrivate => .error (refusal .notPrivate)
          | .error .notRegularFile => .error (refusal .notRegularFile)
      | _ => .ok 0

/-- The question is about what stands at a path or below it. -/
def Query.Within (top : List Text) : {γ : Type} → Query γ → Prop
  | _, .verifyPrivateDirectory path => top <+: path
  | _, .iterdir path => top <+: path
  | _, .walk path => top <+: path
  | _, .readPrivateFile path _ => top <+: path
  | _, .readRegularFile path _ => top <+: path
  | _, .privateTreeSize => False

theorem lookup_append (entry : Option Node) (path rest : List Text) :
    lookup entry (path ++ rest) = (lookup entry path).bind (Node.lookup rest) := by
  unfold lookup
  rw [Option.bind_assoc]
  congr 1
  funext node
  exact Node.lookup_append path rest node

/-- What stands at a path decides the answers to the questions about it. -/
theorem answer_congr {entry entry' : Option Node} {top : List Text}
    (h : lookup entry top = lookup entry' top) {γ : Type} (q : Query γ) (hq : q.Within top) :
    answer entry q = answer entry' q := by
  have hBelow : ∀ path, top <+: path → lookup entry path = lookup entry' path := by
    rintro path ⟨rest, rfl⟩
    rw [lookup_append, lookup_append, h]
  cases q with
  | privateTreeSize => exact hq.elim
  | _ => simp only [answer, hBelow _ hq]

/-- How a question fails, when it does. -/
def failed (fault : Fault) : {γ : Type} → Query γ → Option Raised
  | _, .walk _ => none
  | _, .iterdir _ => some .os
  | _, _ => some (.filesystem fault.code fault.actual)

/-! ## Changing -/

/-- The error of an impossible change: the two creating operations differ in the second. -/
def changeError (blocked : SecureFilesystemErrorCode) : Node.ChangeError → Raised
  | .exists => refusal .alreadyExists
  | .blocked => refusal blocked

/-- `create_private_file` on an entry. -/
def createFile (content : Bytes) (path : List Text) (entry : Option Node) :
    Except Raised (Option Node) :=
  match entry with
  | none => .error (refusal .accessDenied)
  | some node =>
      match Node.createFile content path node with
      | .ok node' => .ok (some node')
      | .error e => .error (changeError .accessDenied e)

/-- Make a directory that is missing on the way, if that is asked for. It takes the mode that the
process gives by default, which may let others in. -/
def makeParent (restrictedByDefault existOk : Bool) (path : List Text) (node : Node) :
    Except Node.ChangeError Node :=
  if existOk then Node.createDirectory some ⟨true, restrictedByDefault⟩ path node else .ok node

/-- `path.mkdir(mode=0o700, parents=existOk, exist_ok=existOk)` and `os.chmod(path, 0o700)` -/
def makeDirectories (restrictedByDefault existOk : Bool) : List Text → List Text → Node →
    Except Node.ChangeError Node
  | _, [], node => .ok node
  | done, [name], node =>
      Node.createDirectory (fun info => if existOk then some ⟨info.owned, true⟩ else none) .personal
        (done ++ [name]) node
  | done, name :: rest, node => do
      let node' ← makeParent restrictedByDefault existOk (done ++ [name]) node
      makeDirectories restrictedByDefault existOk (done ++ [name]) rest node'

/-- `create_private_directory` of a directory inside an entry, with its parents and over an existing
one if `existOk` says so. -/
def createDirectories (restrictedByDefault existOk : Bool) (path : List Text)
    (entry : Option Node) : Except Raised (Option Node) :=
  match entry with
  | none => .error (refusal .unsafePath)
  | some node =>
      match makeDirectories restrictedByDefault existOk [] path node with
      | .ok node' =>
          match answer (some node') (.verifyPrivateDirectory path) with
          | .ok () => .ok (some node')
          | .error e => .error e
      | .error e => .error (changeError .unsafePath e)

/-- `create_private_directory` of an entry. -/
def createEntry (entry : Option Node) : Except Raised (Option Node) :=
  match entry with
  | none => .ok (some (.directory .personal []))
  | some _ => .error (refusal .alreadyExists)

/-- `remove_private_tree` of an entry. -/
def removeTree (entry : Option Node) : Except Raised (Option Node) :=
  match entry with
  | none | some (.symlink _) | some (.file _ _) | some (.special _) =>
      .error (refusal .removeFailed)
  | some (.directory _ _) => .ok none

/-- `publish_directory_no_replace`: rename an entry to a name that is not taken. -/
def renameEntry (disk : Disk) (source destination : Location) : Except Raised Disk :=
  match disk.entry source, disk.entry destination with
  | none, _ => .error (refusal .publicationFailed)
  | some _, some _ => .error (refusal .alreadyExists)
  | some node, none => .ok ((disk.set source none).set destination (some node))

end LocalHost
