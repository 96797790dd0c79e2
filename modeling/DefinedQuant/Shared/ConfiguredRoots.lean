import DefinedQuant.Lib.ChangingTree
import DefinedQuant.Lib.PosixPath
import DefinedQuant.Shared.HostFailures

/-!
# Configured input roots

How a file below a configured root is read. The caller's path is refused or matched against the
roots by its text alone; then the POSIX provider walks from the pinned root's descriptor, one
component at a time, and reads what it has opened. Between two system calls the tree may change in
any way.

Closing a descriptor has no outcome, so it is left out; `str.casefold` is a parameter.
-/

namespace ConfiguredRoots

open ChangingTree HostFailures

/-! ## The path -/

/-- `_ARCHIVE_SUFFIXES` -/
def archiveSuffixes : List Text :=
  [py ".7z", py ".bz2", py ".gz", py ".rar", py ".tar", py ".tgz", py ".xz", py ".zip"]

/-- The characters of `("~", "$", "*", "?", "[", "]")`. -/
def expansionTokens : Text := py "~$*?[]"

/-- `_lexical_path_parts` -/
def lexicalPathParts (casefold : Text → Text) (path : PosixPath) : Except Raised (List Text) :=
  let value := path.fspath
  if expansionTokens.any (fun token => token ∈ value) then .error (failure .unsafeInputPath)
  else if path.isAbsolute = false ∨ PosixPath.dotDot ∈ path.parts then
    .error (failure .unsafeInputPath)
  else if casefold path.suffix ∈ archiveSuffixes then .error (failure .unsupportedDataFormat)
  else .ok (path.parts.filter (fun part => part ≠ path.anchor ∧ part ≠ [PosixPath.slash]))

/-- `_PosixPinnedRoot`: the descriptor, and the identity of the directory when it was pinned. -/
structure Handle where
  descriptor : Inode
  device : ℕ
  inode : ℕ
  closed : Bool

/-- The directory that was pinned. -/
def Handle.original (handle : Handle) : Inode := ⟨handle.device, handle.inode⟩

/-- `_PinnedRoot` -/
structure PinnedRoot where
  path : PosixPath
  handle : Handle

/-- `ConfiguredFileRoots`; `secureFilesystem` says whether a provider was selected. -/
structure ConfiguredFileRoots where
  closed : Bool
  roots : List PinnedRoot
  secureFilesystem : Bool

/-- A component that is none. -/
def Unsafe (part : Text) : Prop := part = [] ∨ part = PosixPath.dot ∨ part = PosixPath.dotDot

instance (part : Text) : Decidable (Unsafe part) := inferInstanceAs (Decidable (_ ∨ _))

/-- The loop of `_matching_root`. -/
def findRoot (path : PosixPath) : List PinnedRoot → Except Raised (PinnedRoot × List Text)
  | [] => .error (failure .inputRootDenied)
  | root :: roots =>
      match path.relativeTo root.path with
      | none => findRoot path roots
      | some relative =>
          let parts := relative.parts
          if parts = [] ∨ ∃ part ∈ parts, Unsafe part then .error (failure .unsafeInputPath)
          else .ok (root, parts)

/-- `ConfiguredFileRoots._matching_root` -/
def ConfiguredFileRoots.matchingRoot (casefold : Text → Text) (self : ConfiguredFileRoots)
    (path : PosixPath) : Except Raised (PinnedRoot × List Text) := do
  let _ ← lexicalPathParts casefold path
  findRoot path self.roots

/-! ## The provider -/

/-- The largest piece that is asked for, `1024 * 1024`. -/
def pieceSize : ℕ := 1048576

/-- The loop of `_read_descriptor`. Each turn hands out an octet at least, so `fuel` that exceeds
the room below the maximum does not run out (`readChunks_fuel`). -/
def readChunks (host : Surroundings) (file : Inode) (maximumBytes : ℕ) :
    ℕ → ℕ → EStateM Raised ℕ (List Bytes)
  | 0, _ => throw .os
  | fuel + 1, total => do
      let chunk ← readAt host .os file total (min pieceSize (maximumBytes + 1 - total))
      if chunk = [] then return []
      else do
        Effect.raiseIf (maximumBytes < total + chunk.length)
          (.filesystem .byteLimitExceeded (some (total + chunk.length)))
        let chunks ← readChunks host file maximumBytes fuel (total + chunk.length)
        return chunk :: chunks

/-- `_read_descriptor` -/
def readDescriptor (host : Surroundings) (descriptor : Inode) (metadata : Stat) (maximumBytes : ℕ) :
    EStateM Raised ℕ Bytes := do
  Effect.raiseIf (maximumBytes < metadata.size)
    (.filesystem .byteLimitExceeded (some metadata.size))
  let chunks ← readChunks host descriptor maximumBytes (maximumBytes + 2) 0
  let total := (chunks.map List.length).sum
  let after ← fstat host .os descriptor
  Effect.raiseIf (after.inode.device ≠ metadata.inode.device ∨
      after.inode.number ≠ metadata.inode.number ∨ after.size ≠ metadata.size ∨
        total ≠ metadata.size)
    (.filesystem .fileChanged none)
  return chunks.flatten

/-- `os.open(part, flags, dir_fd=current)`. A name that the system cannot take raises a
`ValueError`. -/
def openPart (host : Surroundings) (directory : Bool) (current : Inode) (part : Text) :
    EStateM Raised ℕ Inode :=
  match PosixPath.fsencode part with
  | some name => openAt host .os directory current name
  | none => throw (.value ⟨"embedded null byte"⟩)

/-- The directories on the way. -/
def openDirectories (host : Surroundings) (current : Inode) : List Text → EStateM Raised ℕ Inode
  | [] => return current
  | part :: parts => do
      let next ← openPart host true current part
      openDirectories host next parts

/-- The handlers of `read_file_beneath`. -/
def refuseUnsafe (raised : Raised) : EStateM Raised ℕ Bytes :=
  match raised with
  | .filesystem code actual => throw (.filesystem code actual)
  | .os => throw (.filesystem .unsafePath none)
  | .value _ => throw (.filesystem .unsafePath none)
  | .host code details => throw (.host code details)
  | .recursion => throw .recursion

/-- `PosixSecureFilesystem.read_file_beneath` -/
def readFileBeneath (host : Surroundings) (handle : Handle) (parts : List Text) (maximumBytes : ℕ) :
    EStateM Raised ℕ Bytes :=
  Effect.rescue (do
    Effect.raiseIf (parts = [] ∨ ∃ part ∈ parts, Unsafe part) (.filesystem .unsafePath none)
    Effect.raiseIf (handle.closed = true) (.filesystem .accessDenied none)
    let root ← dup host .os handle.descriptor
    let pinnedMetadata ← fstat host .os root
    Effect.raiseIf ((pinnedMetadata.inode.device, pinnedMetadata.inode.number) ≠
      (handle.device, handle.inode)) (.filesystem .unsafePath none)
    let current ← openDirectories host root parts.dropLast
    let file ← openPart host false current (parts.getLastD [])
    let metadata ← fstat host .os file
    Effect.raiseIf (metadata.isRegular = false) (.filesystem .notRegularFile none)
    readDescriptor host file metadata maximumBytes) refuseUnsafe

/-! ## Reading -/

/-- `MAX_LOCAL_FILE_BYTES` -/
def maxLocalFileBytes : ℕ := 64 * 1024 * 1024

/-- The handler of `ConfiguredFileRoots.read`. -/
def translate (raised : Raised) : EStateM Raised ℕ Bytes :=
  match raised with
  | .filesystem .notRegularFile _ => throw (failure .unsupportedDataFormat)
  | .filesystem .byteLimitExceeded actual =>
      throw (limitFailure .inputLimitExceeded "local_file_bytes" maxLocalFileBytes
        (actual.getD (maxLocalFileBytes + 1)))
  | .filesystem _ _ => throw (failure .unsafeInputPath)
  | other => throw other

/-- `ConfiguredFileRoots.read` -/
def ConfiguredFileRoots.read (casefold : Text → Text) (self : ConfiguredFileRoots)
    (host : Surroundings) (pathValue : Text) : EStateM Raised ℕ Bytes := do
  let path := PosixPath.parse pathValue
  let (root, parts) ← Effect.lift id (self.matchingRoot casefold path)
  Effect.rescue (do
    Effect.raiseIf (self.closed = true ∨ self.secureFilesystem = false) (failure .inputRootDenied)
    readFileBeneath host root.handle parts maxLocalFileBytes) translate

end ConfiguredRoots
