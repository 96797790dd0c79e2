import Mathlib.Data.List.Infix
import Mathlib.Data.Nat.Notation
import Mathlib.Logic.Function.Basic

/-!
# Writing files into a tree

A tree of names holds a directory or a file at a path. Writing a file makes the directories above it
and then the file, which may not exist yet. `exists_writeAll_iff`: a list of files can be written
into an empty tree, in the order given and hence in any, exactly when no path of the list is empty
and none begins another.
-/

namespace PathTree

variable {α : Type} [DecidableEq α]

inductive Entry where
  | directory
  | file
  deriving DecidableEq

/-- What stands at each path. -/
abbrev Tree (α : Type) := List α → Option Entry

/-- The tree with a root and nothing in it. -/
def empty : Tree α := fun path => if path = [] then some .directory else none

/-- `mkdir(exist_ok=True)` -/
def makeDirectory (tree : Tree α) (path : List α) : Option (Tree α) :=
  match tree path with
  | none => some (Function.update tree path (some .directory))
  | some .directory => some tree
  | some .file => none

/-- `mkdir(parents=True, exist_ok=True)` -/
def makeDirectories (tree : Tree α) (path : List α) : Option (Tree α) :=
  path.inits.foldlM makeDirectory tree

/-- `open(path, "x")` -/
def createFile (tree : Tree α) (path : List α) : Option (Tree α) :=
  match tree path with
  | none => some (Function.update tree path (some .file))
  | some _ => none

/-- A file and the directories above it. -/
def write (tree : Tree α) (path : List α) : Option (Tree α) := do
  createFile (← makeDirectories tree path.dropLast) path

def writeAll (tree : Tree α) (paths : List (List α)) : Option (Tree α) := paths.foldlM write tree

/-! ## Directories -/

variable {tree tree' : Tree α} {path : List α} {paths : List (List α)}

theorem makeDirectory_eq_some : makeDirectory tree path = some tree' ↔
    tree path ≠ some .file ∧ tree' = Function.update tree path (some .directory) := by
  unfold makeDirectory
  cases hEntry : tree path with
  | none => simp [eq_comm]
  | some entry =>
      cases entry with
      | directory =>
          have hSame : Function.update tree path (some .directory) = tree := by
            rw [← hEntry, Function.update_eq_self]
          rw [hSame]
          simp [eq_comm]
      | file => simp

/-- Directories are made unless one of them is a file. -/
theorem foldlM_makeDirectory_eq_some : ∀ {paths : List (List α)} {tree tree' : Tree α},
    paths.foldlM makeDirectory tree = some tree' ↔ (∀ p ∈ paths, tree p ≠ some .file) ∧
      tree' = fun p => if p ∈ paths then some .directory else tree p
  | [], tree, tree' => by
      rw [List.foldlM_nil, Option.pure_def, Option.some.injEq, eq_comm]
      simp
  | path :: paths, tree, tree' => by
      rw [List.foldlM_cons, Option.bind_eq_bind, Option.bind_eq_some_iff]
      -- A directory that was made does not stand in the way of another one.
      have hUpdate : ∀ p, Function.update tree path (some .directory) p =
          if p = path then some .directory else tree p :=
            fun p => Function.update_apply tree path _ p
      constructor
      · rintro ⟨step, hStep, hRest⟩
        obtain ⟨hHead, rfl⟩ := makeDirectory_eq_some.1 hStep
        obtain ⟨hTail, rfl⟩ := foldlM_makeDirectory_eq_some.1 hRest
        refine ⟨List.forall_mem_cons.2 ⟨hHead, fun p hp hFile => ?_⟩, ?_⟩
        · have hOther := hTail p hp
          rw [hUpdate] at hOther
          split_ifs at hOther with hEq
          · exact hHead (hEq ▸ hFile)
          · exact hOther hFile
        · funext p
          simp only [hUpdate, List.mem_cons]
          split_ifs <;> simp_all
      · rintro ⟨hFree, rfl⟩
        obtain ⟨hHead, hTail⟩ := List.forall_mem_cons.1 hFree
        refine ⟨_, makeDirectory_eq_some.2 ⟨hHead, rfl⟩, foldlM_makeDirectory_eq_some.2 ⟨fun p hp =>
          ?_, ?_⟩⟩
        · rw [hUpdate]
          split_ifs
          · exact nofun
          · exact hTail p hp
        · funext p
          simp only [hUpdate, List.mem_cons]
          split_ifs <;> simp_all

/-! ## Files -/

/-- The tree that holds some files and what is needed above them. -/
def holding (paths : List (List α)) : Tree α := fun q =>
  if q ∈ paths then some .file else if q = [] ∨ ∃ p ∈ paths, q <+: p then some .directory else none

theorem empty_eq_holding : (empty : Tree α) = holding [] := by
  funext q
  simp [empty, holding]

theorem holding_eq_file {q : List α} : holding paths q = some .file ↔ q ∈ paths := by
  unfold holding
  split_ifs with hFile hDirectory
  · exact iff_of_true rfl hFile
  · exact iff_of_false nofun hFile
  · exact iff_of_false nofun hFile

theorem holding_eq_none {q : List α} : holding paths q = none ↔ q ≠ [] ∧ ∀ p ∈ paths,
    ¬ q <+: p := by
  unfold holding
  split_ifs with hFile hDirectory
  · exact iff_of_false nofun (fun h => h.2 q hFile (List.prefix_refl q))
  · rcases hDirectory with rfl | ⟨p, hp, hPrefix⟩
    · exact iff_of_false nofun (fun h => h.1 rfl)
    · exact iff_of_false nofun (fun h => h.2 p hp hPrefix)
  · rw [not_or, not_exists] at hDirectory
    exact iff_of_true rfl ⟨hDirectory.1, fun p hp hPrefix => hDirectory.2 p ⟨hp, hPrefix⟩⟩

theorem createFile_eq_some : createFile tree path = some tree' ↔
    tree path = none ∧ tree' = Function.update tree path (some .file) := by
  unfold createFile
  cases tree path with
  | none => simp [eq_comm]
  | some entry => simp

omit [DecidableEq α] in
/-- What stands above a path, and the path itself. -/
theorem prefix_iff_dropLast (hPath : path ≠ []) {p : List α} : p <+: path ↔ p <+: path.dropLast ∨
    p = path := by
  conv_lhs => rw [← List.dropLast_append_getLast hPath, List.prefix_concat_iff,
    List.dropLast_append_getLast hPath]
  exact or_comm

omit [DecidableEq α] in
theorem not_prefix_dropLast (hPath : path ≠ []) : ¬ path <+: path.dropLast := by
  intro h
  have hLength := h.length_le
  have hPos := List.length_pos_iff.2 hPath
  rw [List.length_dropLast] at hLength
  omega

/-- Once a file is written, the tree holds it, and the directories above it. -/
theorem update_holding (hPath : path ≠ []) (hAbove : ∀ p ∈ path.dropLast.inits, p ∉ paths) :
    Function.update (fun p => if p ∈ path.dropLast.inits then some .directory else holding paths p)
      path
      (some .file) = holding (path :: paths) := by
  funext q
  rw [Function.update_apply]
  by_cases hFile : q = path
  · rw [if_pos hFile, hFile]
    exact (holding_eq_file.2 List.mem_cons_self).symm
  · rw [if_neg hFile]
    have hPrefix : q <+: path ↔ q ∈ path.dropLast.inits := by
      rw [prefix_iff_dropLast hPath, or_iff_left hFile, List.mem_inits]
    have hFiles : q ∈ path :: paths ↔ q ∈ paths := by rw [List.mem_cons, or_iff_right hFile]
    unfold holding
    by_cases hDirectory : q ∈ path.dropLast.inits
    · rw [if_pos hDirectory, if_neg (fun h => hAbove q hDirectory (hFiles.1 h)),
        if_pos (.inr ⟨path, List.mem_cons_self, hPrefix.2 hDirectory⟩)]
    · have hSame : (∃ p ∈ path :: paths, q <+: p) ↔ ∃ p ∈ paths, q <+: p := by
        rw [List.exists_mem_cons_iff, hPrefix, or_iff_right hDirectory]
      simp only [if_neg hDirectory, hFiles, hSame]

/-- One more file is written exactly when none that is there is at the path, above it or below it. -/
theorem write_holding : write (holding paths) path = some tree' ↔
    (path ≠ [] ∧ ∀ p ∈ paths, ¬ p <+: path ∧ ¬ path <+: p) ∧ tree' = holding (path :: paths) := by
  unfold write makeDirectories
  rw [Option.bind_eq_bind, Option.bind_eq_some_iff]
  constructor
  · rintro ⟨above, hAbove, hCreate⟩
    obtain ⟨hFree, rfl⟩ := foldlM_makeDirectory_eq_some.1 hAbove
    obtain ⟨hNone, rfl⟩ := createFile_eq_some.1 hCreate
    split_ifs at hNone
    obtain ⟨hPath, hBelow⟩ := holding_eq_none.1 hNone
    have hAbove : ∀ p ∈ path.dropLast.inits, p ∉ paths :=
      fun p hp hMem => hFree p hp (holding_eq_file.2 hMem)
    refine ⟨⟨hPath, fun p hp => ⟨fun hPrefix => ?_, hBelow p hp⟩⟩, update_holding hPath hAbove⟩
    rcases (prefix_iff_dropLast hPath).1 hPrefix with hFront | rfl
    · exact hAbove p ((List.mem_inits _ _).2 hFront) hp
    · exact hBelow p hp (List.prefix_refl p)
  · rintro ⟨⟨hPath, hFree⟩, rfl⟩
    have hAbove : ∀ p ∈ path.dropLast.inits, p ∉ paths := by
      intro p hp hMem
      exact (hFree p hMem).1 ((prefix_iff_dropLast hPath).2 (.inl ((List.mem_inits _ _).1 hp)))
    refine ⟨_, foldlM_makeDirectory_eq_some.2 ⟨fun p hp hFile =>
      hAbove p hp (holding_eq_file.1 hFile), rfl⟩, ?_⟩
    refine createFile_eq_some.2 ⟨?_, (update_holding hPath hAbove).symm⟩
    rw [if_neg (fun h => not_prefix_dropLast hPath ((List.mem_inits _ _).1 h))]
    exact holding_eq_none.2 ⟨hPath, fun p hp => (hFree p hp).2⟩

/-- Files can be written one after the other exactly when none of them begins another. -/
theorem exists_writeAll_holding : ∀ {paths done : List (List α)},
    (∃ tree, writeAll (holding done) paths = some tree) ↔ (∀ p ∈ paths, p ≠ [] ∧ ∀ q ∈ done,
    ¬ q <+: p ∧ ¬ p <+: q) ∧
      paths.Pairwise (fun p q => ¬ p <+: q ∧ ¬ q <+: p)
  | [], done => by simp [writeAll]
  | path :: paths, done => by
      unfold writeAll
      rw [List.foldlM_cons, List.pairwise_cons, List.forall_mem_cons]
      constructor
      · rintro ⟨tree, h⟩
        obtain ⟨step, hStep, hRest⟩ := Option.bind_eq_some_iff.1 h
        obtain ⟨hPath, rfl⟩ := write_holding.1 hStep
        obtain ⟨hFree, hPairwise⟩ := exists_writeAll_holding.1 ⟨tree, hRest⟩
        refine ⟨⟨hPath, fun p hp => ⟨(hFree p hp).1, ?_⟩⟩, fun p hp => ?_, hPairwise⟩
        · exact fun q hq => (hFree p hp).2 q (List.mem_cons_of_mem _ hq)
        · exact (hFree p hp).2 path List.mem_cons_self
      · rintro ⟨⟨hPath, hFree⟩, hHead, hPairwise⟩
        have hAfter : ∀ p ∈ paths, p ≠ [] ∧ ∀ q ∈ path :: done, ¬ q <+: p ∧ ¬ p <+: q :=
          fun p hp => ⟨(hFree p hp).1, List.forall_mem_cons.2 ⟨hHead p hp, (hFree p hp).2⟩⟩
        obtain ⟨tree, hRest⟩ := exists_writeAll_holding.2 ⟨hAfter, hPairwise⟩
        exact ⟨tree, Option.bind_eq_some_iff.2 ⟨_, write_holding.2 ⟨hPath, rfl⟩, hRest⟩⟩

theorem exists_writeAll_iff : (∃ tree, writeAll empty paths = some tree) ↔
    [] ∉ paths ∧ paths.Pairwise (fun p q => ¬ p <+: q ∧ ¬ q <+: p) := by
  rw [empty_eq_holding, exists_writeAll_holding]
  refine and_congr_left (fun _ => ?_)
  constructor
  · exact fun h hMem => (h [] hMem).1 rfl
  · exact fun h p hp => ⟨fun hEq => h (hEq ▸ hp), fun q hq => absurd hq List.not_mem_nil⟩

end PathTree
