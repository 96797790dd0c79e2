import DefinedQuant.Shared.ConfiguredRoots
import Mathlib.Data.List.Forall2

/-!
# Confined reads

Whatever the surroundings do between two system calls, what `read` returns comes from a file that
was reached from the pinned directory by entries with the names of the path's components, and has as
many octets as that file when its size was first taken. The octets are those of the file at the
moments at which they were read; since nothing keeps others from writing, they need not be what it
held at any one moment, unless no octet that is there is replaced.
-/

namespace ConfiguredRoots

open ChangingTree HostFailures Effect

/-! ## The loop -/

section Loop

variable {host : Surroundings} {file : Inode} {maximum : ℕ}

/-- From a position on, the octets are those of the file, each at a moment of the reading. -/
def OctetsOf (host : Surroundings) (file : Inode) (position : ℕ) (octets : Bytes) (now later : ℕ) :
    Prop :=
  ∀ i < octets.length, ∃ moment held, now ≤ moment ∧ moment < later ∧
    host.tree moment file = some (.file held) ∧ held[position + i]? = octets[i]?

theorem octetsOf_append {position now between later : ℕ} {first rest : Bytes} (hNow : now ≤ between)
    (hLater : between ≤ later) (hFirst : OctetsOf host file position first now between)
    (hRest : OctetsOf host file (position + first.length) rest between later) :
    OctetsOf host file position (first ++ rest) now later := by
  intro i hi
  by_cases hLt : i < first.length
  · obtain ⟨moment, held, hFrom, hTo, hHeld, hEq⟩ := hFirst i hLt
    refine ⟨moment, held, hFrom, hTo.trans_le hLater, hHeld, ?_⟩
    rw [hEq, List.getElem?_append_left hLt]
  · rw [List.length_append] at hi
    obtain ⟨moment, held, hFrom, hTo, hHeld, hEq⟩ := hRest (i - first.length) (by omega)
    refine ⟨moment, held, hNow.trans hFrom, hTo, hHeld, ?_⟩
    rw [List.getElem?_append_right (by omega), ← hEq]
    congr 1
    omega

/-- What one call hands out is what the file holds there at that moment. -/
theorem octetsOf_readAt {position count now later : ℕ} {chunk : Bytes}
    (h : (readAt host Raised.os file position count).run now = .ok chunk later) :
    OctetsOf host file position chunk now later := by
  obtain ⟨held, hHeld, rfl, rfl⟩ := readAt_eq_ok h
  intro i hi
  refine ⟨now, held, Nat.le_refl _, Nat.lt_succ_self _, hHeld, ?_⟩
  rw [List.length_take] at hi
  rw [List.getElem?_take_of_lt (by omega), List.getElem?_drop]

/-- The pieces stay within the maximum and are octets of the file, one behind the other. -/
theorem readChunks_spec : ∀ {fuel total now later : ℕ} {chunks : List Bytes},
    (readChunks host file maximum fuel total).run now = .ok chunks later → total ≤ maximum →
      total + chunks.flatten.length ≤ maximum ∧ now ≤ later ∧
        OctetsOf host file total chunks.flatten now later
  | 0, total, now, later, chunks, h, _ => by cases h
  | fuel + 1, total, now, later, chunks, h, hTotal => by
      unfold readChunks at h
      obtain ⟨chunk, between, hRead, h⟩ := run_bind_eq_ok.1 h
      have hChunk := octetsOf_readAt hRead
      obtain ⟨-, -, -, rfl⟩ := readAt_eq_ok hRead
      by_cases hEnd : chunk = []
      · rw [if_pos hEnd] at h
        cases h
        refine ⟨by simpa using hTotal, Nat.le_succ _, fun i hi => ?_⟩
        exact absurd hi (Nat.not_lt_zero _)
      · rw [if_neg hEnd] at h
        obtain ⟨hRoom, h⟩ := run_raiseIf_bind_eq_ok.1 h
        obtain ⟨rest, after, hRest, h⟩ := run_bind_eq_ok.1 h
        cases h
        obtain ⟨hBound, hLe, hOctets⟩ := readChunks_spec hRest (by omega)
        rw [List.flatten_cons, List.length_append]
        refine ⟨by omega, by omega, ?_⟩
        exact octetsOf_append (Nat.le_succ _) hLe hChunk hOctets

/-- Fuel beyond the room below the maximum makes no difference, so the loop never runs out of it. -/
theorem readChunks_fuel : ∀ {fuel fuel' total : ℕ}, total ≤ maximum → maximum + 1 < fuel + total →
    maximum + 1 < fuel' + total →
      readChunks host file maximum fuel total = readChunks host file maximum fuel' total
  | 0, _, total, hTotal, hFuel, _ => by omega
  | _ + 1, 0, total, hTotal, _, hFuel' => by omega
  | fuel + 1, fuel' + 1, total, hTotal, hFuel, hFuel' => by
      unfold readChunks
      refine bind_congr fun chunk => ?_
      by_cases hEnd : chunk = []
      · rw [if_pos hEnd, if_pos hEnd]
      · have hSome := List.length_pos_iff.2 hEnd
        rw [if_neg hEnd, if_neg hEnd]
        by_cases hRoom : maximum < total + chunk.length
        · funext now
          exact (run_raiseIf_bind_of_pos hRoom).trans (run_raiseIf_bind_of_pos hRoom).symm
        · rw [@readChunks_fuel _ fuel' _ (by omega) (by omega) (by omega)]

end Loop

/-- `_read_descriptor` returns as many octets as the metadata say, within the maximum. -/
theorem readDescriptor_spec {host : Surroundings} {file : Inode} {metadata : Stat}
    {maximum now later : ℕ} {content : Bytes}
    (h : (readDescriptor host file metadata maximum).run now = .ok content later) :
    content.length = metadata.size ∧ content.length ≤ maximum ∧
      OctetsOf host file 0 content now later := by
  unfold readDescriptor at h
  obtain ⟨-, h⟩ := run_raiseIf_bind_eq_ok.1 h
  obtain ⟨chunks, between, hChunks, h⟩ := run_bind_eq_ok.1 h
  obtain ⟨after, fstated, hAfter, h⟩ := run_bind_eq_ok.1 h
  obtain ⟨hSame, h⟩ := run_raiseIf_bind_eq_ok.1 h
  cases h
  obtain ⟨-, -, rfl⟩ := fstat_eq_ok.1 hAfter
  obtain ⟨hBound, hLe, hOctets⟩ := readChunks_spec hChunks (Nat.zero_le _)
  have hSize : (chunks.map List.length).sum = metadata.size := by
    by_contra hDiffers
    exact hSame (.inr (.inr (.inr hDiffers)))
  refine ⟨by rw [List.length_flatten, hSize], by omega, fun i hi => ?_⟩
  obtain ⟨moment, held, hFrom, hTo, hHeld, hEq⟩ := hOctets i hi
  exact ⟨moment, held, hFrom, hTo.trans (Nat.lt_succ_self _), hHeld, hEq⟩

/-! ## The walk -/

/-- A component of a path as the walk takes it: neither empty nor of dots alone, and without a
slash. -/
def Safe (part : Text) : Prop := ¬ Unsafe part ∧ PosixPath.slash ∉ part

/-- A safe component names an entry. -/
theorem isComponent_of_safe {part : Text} {name : Bytes} (hSafe : Safe part)
    (h : PosixPath.fsencode part = some name) : IsComponent name := by
  obtain ⟨hUnsafe, hSlash⟩ := hSafe
  refine ⟨?_, ?_, ?_, ?_⟩
  · exact PosixPath.fsencode_ne_nil h (fun hNil => hUnsafe (.inl hNil))
  · intro hMem
    obtain ⟨c, hc, hVal⟩ := PosixPath.mem_of_mem_fsencode (by decide) h hMem
    have hEq : c = PosixPath.slash := Fin.ext hVal
    exact hSlash (hEq ▸ hc)
  · rintro rfl
    refine hUnsafe (.inr (.inl ?_))
    exact PosixPath.eq_of_fsencode_ascii h (by decide) (by simp)
  · rintro rfl
    refine hUnsafe (.inr (.inr ?_))
    exact PosixPath.eq_of_fsencode_ascii h (by decide) (by simp)

variable {host : Surroundings}

/-- The names that the file system has for components. -/
abbrev NamesOf (parts : List Text) (names : List Bytes) : Prop :=
  List.Forall₂ (fun part name => PosixPath.fsencode part = some name) parts names

theorem openPart_spec {directory : Bool} {current next : Inode} {part : Text} {now later : ℕ}
    (hSafe : Safe part) (h : (openPart host directory current part).run now = .ok next later) :
    ∃ name, PosixPath.fsencode part = some name ∧ Follows (host.tree now) current name next ∧
      later = now + 1 := by
  unfold openPart at h
  cases hName : PosixPath.fsencode part with
  | none =>
      rw [hName] at h
      cases h
  | some name =>
      rw [hName] at h
      exact ⟨name, rfl, follows_of_openAt (isComponent_of_safe hSafe hName) h⟩

/-- The directories on the way are entries, one below the other. -/
theorem openDirectories_spec : ∀ {parts : List Text} {current last : Inode} {now later : ℕ},
    (∀ part ∈ parts, Safe part) → (openDirectories host current parts).run now = .ok last later →
      ∃ names, NamesOf parts names ∧ Descends host now current names later last
  | [], current, last, now, later, _, h => by
      cases h
      exact ⟨[], .nil, .here _ _⟩
  | part :: parts, current, last, now, later, hSafe, h => by
      unfold openDirectories at h
      obtain ⟨next, between, hPart, h⟩ := run_bind_eq_ok.1 h
      obtain ⟨name, hName, hFollows, rfl⟩ := openPart_spec (hSafe part List.mem_cons_self) hPart
      obtain ⟨names, hNames, hDescends⟩ :=
        openDirectories_spec (fun p hp => hSafe p (List.mem_cons_of_mem _ hp)) h
      exact ⟨name :: names, .cons hName hNames, .down (Nat.le_refl _) hFollows hDescends⟩

/-! ## What a read returns -/

/-- A regular file was reached from a directory by the components of a path, and at the moment after
it was opened it had as many octets as there are here, which the limit allows. -/
structure Reached (host : Surroundings) (start : Inode) (parts : List Text) (now opened : ℕ)
    (file : Inode) (content : Bytes) : Prop where
  safe : parts ≠ [] ∧ ∀ part ∈ parts, Safe part
  descends : ∃ names, NamesOf parts names ∧ Descends host now start names opened file
  regular : ∃ held, host.tree opened file = some (.file held) ∧ held.length = content.length
  bounded : content.length ≤ maxLocalFileBytes

/-- While a file is read, no octet that it held at first is replaced. It may grow and shrink. -/
def Unreplaced (host : Surroundings) (file : Inode) (opened later : ℕ) : Prop :=
  ∀ first held moment, host.tree opened file = some (.file first) → opened ≤ moment →
    moment < later →
    host.tree moment file = some (.file held) → first <+: held ∨ held <+: first

/-- Octets of a file whose octets are not replaced are its content. -/
theorem eq_of_unreplaced {file : Inode} {opened later : ℕ} {first content : Bytes}
    (hFirst : host.tree opened file = some (.file first)) (hLength : first.length = content.length)
    (hOctets : OctetsOf host file 0 content opened later) (h : Unreplaced host file opened later) :
    content = first := by
  refine List.ext_getElem? fun i => ?_
  by_cases hi : i < content.length
  · obtain ⟨moment, held, hFrom, hTo, hHeld, hEq⟩ := hOctets i hi
    rw [Nat.zero_add] at hEq
    rw [← hEq]
    have hHeldLength : i < held.length := by
      by_contra hOut
      rw [List.getElem?_eq_none (Nat.not_lt.1 hOut), eq_comm, List.getElem?_eq_none_iff] at hEq
      exact Nat.not_lt.2 hEq hi
    rcases h first held moment hFirst hFrom hTo hHeld with ⟨rest, rfl⟩ | ⟨rest, rfl⟩
    · exact List.getElem?_append_left (hLength ▸ hi)
    · exact (List.getElem?_append_left hHeldLength).symm
  · rw [List.getElem?_eq_none (Nat.not_lt.1 hi),
      List.getElem?_eq_none (by rw [hLength]; exact Nat.not_lt.1 hi)]

/-- `read_file_beneath` returns octets of a file that it has reached from the directory that was
pinned. -/
theorem readFileBeneath_spec {handle : Handle} {parts : List Text} {now later : ℕ} {content : Bytes}
    (hSlash : ∀ part ∈ parts, PosixPath.slash ∉ part)
    (h : (readFileBeneath host handle parts maxLocalFileBytes).run now = .ok content later) :
    ∃ opened file, Reached host handle.original parts now opened file content ∧
      OctetsOf host file 0 content (opened + 1) later := by
  unfold readFileBeneath at h
  rcases run_rescue_eq_ok.1 h with h | ⟨raised, between, -, h⟩
  · obtain ⟨hParts, h⟩ := run_raiseIf_bind_eq_ok.1 h
    obtain ⟨-, h⟩ := run_raiseIf_bind_eq_ok.1 h
    obtain ⟨root, dupped, hDup, h⟩ := run_bind_eq_ok.1 h
    obtain ⟨-, hRoot, rfl⟩ := run_syscall_eq_ok.1 hDup
    obtain ⟨pinned, fstated, hPinned, h⟩ := run_bind_eq_ok.1 h
    obtain ⟨-, ⟨pinnedObject, -, hPinnedStat⟩, rfl⟩ := fstat_eq_ok.1 hPinned
    obtain ⟨hSame, h⟩ := run_raiseIf_bind_eq_ok.1 h
    obtain ⟨current, walked, hWalk, h⟩ := run_bind_eq_ok.1 h
    obtain ⟨file, opened, hOpen, h⟩ := run_bind_eq_ok.1 h
    obtain ⟨metadata, stated, hStat, h⟩ := run_bind_eq_ok.1 h
    obtain ⟨hRegular, h⟩ := run_raiseIf_bind_eq_ok.1 h
    obtain ⟨hLength, hBound, hOctets⟩ := readDescriptor_spec h
    obtain ⟨-, ⟨object, hObject, rfl⟩, rfl⟩ := fstat_eq_ok.1 hStat
    obtain ⟨hSome, hUnsafe⟩ := not_or.1 hParts
    have hSafe : ∀ part ∈ parts, Safe part := fun part hPart =>
      ⟨fun hBad => hUnsafe ⟨part, hPart, hBad⟩, hSlash part hPart⟩
    have hOriginal : root = handle.original := by
      have hInode : pinned.inode = root := by
        rw [← hPinnedStat]
        cases pinnedObject <;> rfl
      rw [ne_eq, not_not, hInode, Prod.mk.injEq] at hSame
      cases root
      exact congrArg₂ Inode.mk hSame.1 hSame.2
    -- the walk to the last directory, and the entry of the file there
    have hSplit : parts = parts.dropLast ++ [parts.getLastD []] := by
      rw [List.getLastD_eq_getLast?, List.getLast?_eq_getLast_of_ne_nil hSome, Option.getD_some]
      exact (List.dropLast_append_getLast hSome).symm
    have hLastMem : parts.getLastD [] ∈ parts := by
      rw [List.getLastD_eq_getLast?, List.getLast?_eq_getLast_of_ne_nil hSome, Option.getD_some]
      exact List.getLast_mem hSome
    have hLast : Safe (parts.getLastD []) := hSafe _ hLastMem
    obtain ⟨names, hNames, hDescends⟩ :=
      openDirectories_spec (fun part hPart => hSafe part ((List.dropLast_sublist parts).subset
        hPart)) hWalk
    obtain ⟨name, hName, hFollows, rfl⟩ := openPart_spec hLast hOpen
    have hAll : NamesOf parts (names ++ [name]) := by
      rw [hSplit]
      exact List.rel_append hNames (.cons hName .nil)
    refine ⟨walked + 1, file, ⟨⟨hSome, hSafe⟩, ⟨names ++ [name], hAll, ?_⟩, ?_, hBound⟩, hOctets⟩
    · rw [← hOriginal]
      refine (hDescends.snoc hFollows).mono (by omega) (by simp)
    · cases object with
      | file held => exact ⟨held, hObject, hLength.symm⟩
      | directory entries => exact absurd rfl hRegular
      | symlink target => exact absurd rfl hRegular
      | special => exact absurd rfl hRegular
  · cases raised <;> cases h

/-! ## Configured roots -/

variable {casefold : Text → Text} {self : ConfiguredFileRoots}

/-- The root and the components that `_matching_root` settles on. -/
theorem findRoot_eq_ok {path : PosixPath} {root : PinnedRoot} {parts : List Text} :
    ∀ {roots : List PinnedRoot}, findRoot path roots = .ok (root, parts) →
      root ∈ roots ∧ ∃ relative, path.relativeTo root.path = some relative ∧ parts = relative.parts
  | [], h => by cases h
  | first :: roots, h => by
      unfold findRoot at h
      cases hRelative : path.relativeTo first.path with
      | none =>
          rw [hRelative] at h
          obtain ⟨hMem, hRest⟩ := findRoot_eq_ok h
          exact ⟨List.mem_cons_of_mem _ hMem, hRest⟩
      | some relative =>
          simp only [hRelative] at h
          split_ifs at h
          cases h
          exact ⟨List.mem_cons_self, relative, hRelative, rfl⟩

/-- What follows a root in a path has components of the path. -/
theorem mem_tail_of_relativeTo {path other relative : PosixPath} {part : Text}
    (h : path.relativeTo other = some relative) (hPart : part ∈ relative.parts) :
    part ∈ path.tail := by
  unfold PosixPath.relativeTo at h
  split_ifs at h
  cases h
  exact List.mem_of_mem_drop hPart

/-- The outcome of a read that returns: which root and which file, and where the octets are from. -/
theorem read_eq_ok {pathValue : Text} {now later : ℕ} {content : Bytes}
    (h : (self.read casefold host pathValue).run now = .ok content later) :
    ∃ root ∈ self.roots, ∃ relative, (PosixPath.parse pathValue).relativeTo root.path =
      some relative ∧
      ∃ opened file, Reached host root.handle.original relative.parts now opened file content ∧
        OctetsOf host file 0 content (opened + 1) later := by
  unfold ConfiguredFileRoots.read at h
  obtain ⟨⟨root, parts⟩, hRoot, h⟩ := run_lift_bind_eq_ok.1 h
  obtain ⟨-, -, hFind⟩ := Except.bind_eq_ok.1 hRoot
  obtain ⟨hMem, relative, hRelative, rfl⟩ := findRoot_eq_ok hFind
  refine ⟨root, hMem, relative, hRelative, ?_⟩
  have hSlash : ∀ part ∈ relative.parts, PosixPath.slash ∉ part := fun part hPart =>
    PosixPath.slash_not_mem_of_mem_tail (mem_tail_of_relativeTo hRelative hPart)
  rcases run_rescue_eq_ok.1 h with h | ⟨raised, between, -, h⟩
  · obtain ⟨-, h⟩ := run_raiseIf_bind_eq_ok.1 h
    exact readFileBeneath_spec hSlash h
  · unfold translate at h
    split at h <;> cases h

/-- Reads are confined: what `read` returns are as many octets as a regular file had when its size
was taken, no more than the maximum, and the file was reached from the directory that was pinned for
a root by entries with the names of the components below that root, none of them a link or a step
up. Each octet is what the file held there when it was read, so they are the content of the file
unless octets of it were replaced meanwhile. -/
theorem read_confined {pathValue : Text} {now later : ℕ} {content : Bytes}
    (h : (self.read casefold host pathValue).run now = .ok content later) :
    ∃ root ∈ self.roots, ∃ relative, (PosixPath.parse pathValue).relativeTo root.path =
      some relative ∧
      ∃ opened file, Reached host root.handle.original relative.parts now opened file content ∧
        OctetsOf host file 0 content opened later ∧
        (Unreplaced host file opened later → host.tree opened file = some (.file content)) := by
  obtain ⟨root, hMem, relative, hRelative, opened, file, hReached, hOctets⟩ := read_eq_ok h
  have hWindow : OctetsOf host file 0 content opened later := by
    intro i hi
    obtain ⟨moment, held, hFrom, hTo, hHeld⟩ := hOctets i hi
    exact ⟨moment, held, (Nat.le_succ _).trans hFrom, hTo, hHeld⟩
  refine ⟨root, hMem, relative, hRelative, opened, file, hReached, hWindow, fun hUnreplaced => ?_⟩
  obtain ⟨first, hFirst, hLength⟩ := hReached.regular
  rw [hFirst, eq_of_unreplaced hFirst hLength hWindow hUnreplaced]

/-- A root with one file, which holds some octets. -/
def sampleTree (content : Bytes) : Tree := fun inode =>
  if inode = ⟨1, 1⟩ then some (.directory [([102], ⟨1, 2⟩)])
  else if inode = ⟨1, 2⟩ then some (.file content)
  else none

def sampleRoots : ConfiguredFileRoots :=
  ⟨false, [⟨PosixPath.parse (py "/r"), ⟨⟨1, 1⟩, 1, 1, false⟩⟩], true⟩

/-- Surroundings that hand out one octet at a time, and change the file once. -/
def sampleHost (before after : Bytes) : Surroundings where
  tree now := sampleTree (if now ≤ 4 then before else after)
  fails _ := false
  granted _ := 0
  walk _ _ _ := none

/-- What a run returned, and when. -/
def returned : EStateM.Result Raised ℕ Bytes → Option (Bytes × ℕ)
  | .ok content later => some (content, later)
  | .error _ _ => none

theorem eq_ok_of_returned {result : EStateM.Result Raised ℕ Bytes} {content : Bytes} {later : ℕ}
    (h : returned result = some (content, later)) : result = .ok content later := by
  cases result with
  | ok content' later' =>
      cases h
      rfl
  | error e later' => cases h

theorem sample_run : returned
    ((sampleRoots.read id (sampleHost [1, 2] [1, 2]) (py "/r/f")).run 0) = some ([1, 2], 8) := by
  decide

theorem torn_run : returned
    ((sampleRoots.read id (sampleHost [1, 2] [0, 0]) (py "/r/f")).run 0) = some ([1, 0], 8) := by
  decide

theorem read_confined_sample : ∃ root ∈ sampleRoots.roots, ∃ relative,
    (PosixPath.parse (py "/r/f")).relativeTo root.path = some relative ∧
      ∃ opened file, Reached (sampleHost [1, 2] [1, 2]) root.handle.original relative.parts 0 opened
          file [1, 2] ∧
        OctetsOf (sampleHost [1, 2] [1, 2]) file 0 [1, 2] opened 8 ∧
        (Unreplaced (sampleHost [1, 2] [1, 2]) file opened 8 →
          (sampleHost [1, 2] [1, 2]).tree opened file = some (.file [1, 2])) :=
  read_confined (eq_ok_of_returned sample_run)

/-- What `read` returns need not be what the file held at any moment: between the two octets that it
reads here, the file is cut to nothing and grown to its old size again. -/
theorem read_torn : ¬ ∀ (casefold : Text → Text) (self : ConfiguredFileRoots) (host : Surroundings)
    (pathValue : Text) (now later : ℕ) (content : Bytes),
    (self.read casefold host pathValue).run now = .ok content later →
      ∃ root ∈ self.roots, ∃ relative,
        (PosixPath.parse pathValue).relativeTo root.path = some relative ∧
          ∃ opened file, Reached host root.handle.original relative.parts now opened file content ∧
            ∃ moment, now ≤ moment ∧ moment < later ∧
              host.tree moment file = some (.file content) := by
  intro hAll
  obtain ⟨root, -, relative, -, opened, file, -, moment, -, -, hHeld⟩ :=
    hAll _ _ _ _ _ _ _ (eq_ok_of_returned torn_run)
  simp only [sampleHost, sampleTree] at hHeld
  split_ifs at hHeld <;> simp at hHeld

end ConfiguredRoots
