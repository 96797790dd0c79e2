import DefinedQuant.Lib.Effect
import DefinedQuant.Lib.Text

/-!
# Directory trees that change

A program opens a file component by component while others rearrange the tree and write to its
files. `Surroundings` is everything that the program does not decide: the tree at every moment,
which is arbitrary, which calls fail, and how much a call to read hands out. A system call takes one
moment, so the changes between two calls are the difference between two trees.

`Descends` is what a confined program does: it follows entries, each one there when it was followed,
and nothing that it reaches is a symbolic link. A name of several components, an absolute one, `.`
and `..` are not entries; where they lead is left to the surroundings.
-/

namespace ChangingTree

/-- What identifies a file: a device and a number there. An open descriptor holds the number. -/
structure Inode where
  device : ℕ
  number : ℕ
  deriving DecidableEq

/-- What is behind an inode. -/
inductive Object where
  | directory (entries : List (Bytes × Inode))
  | file (content : Bytes)
  | symlink (target : Bytes)
  | special
  deriving DecidableEq

/-- The files at one moment, whether or not a name leads to them. -/
abbrev Tree := Inode → Option Object

/-- What the program does not decide, by moments. -/
structure Surroundings where
  tree : ℕ → Tree
  /-- A call that fails for a reason of its own, such as a limit or a permission. -/
  fails : ℕ → Bool
  /-- A call to read hands out at most one octet more than this. -/
  granted : ℕ → ℕ
  /-- Where a name that is no single component leads. -/
  walk : ℕ → Inode → Bytes → Option Inode

/-- A name that a directory can have an entry under. -/
def IsComponent (name : Bytes) : Prop :=
  name ≠ [] ∧ (47 : Byte) ∉ name ∧ name ≠ [46] ∧ name ≠ [46, 46]

instance (name : Bytes) : Decidable (IsComponent name) := by
  unfold IsComponent
  infer_instance

/-- The entry of a directory under a name. -/
def entry (tree : Tree) (dir : Inode) (name : Bytes) : Option Inode :=
  match tree dir with
  | some (.directory entries) => entries.lookup name
  | _ => none

/-- What a descriptor's metadata say. -/
structure Stat where
  inode : Inode
  isDirectory : Bool
  isRegular : Bool
  size : ℕ
  deriving DecidableEq

def Object.stat (inode : Inode) : Object → Stat
  | .directory _ => ⟨inode, true, false, 0⟩
  | .file content => ⟨inode, false, true, content.length⟩
  | .symlink target => ⟨inode, false, false, target.length⟩
  | .special => ⟨inode, false, false, 0⟩

/-! ## System calls -/

section Calls

variable {ε α : Type} (host : Surroundings) (os : ε)

/-- A call that takes one moment, and fails when it has no answer. -/
def syscall (answer : ℕ → Option α) : EStateM ε ℕ α := fun now =>
  match if host.fails now then none else answer now with
  | some a => .ok a (now + 1)
  | none => .error os (now + 1)

/-- `openat` with `O_NOFOLLOW`, and with `O_DIRECTORY` if a directory is asked for. -/
def openAt (directory : Bool) (dir : Inode) (name : Bytes) : EStateM ε ℕ Inode :=
  syscall host os (fun now =>
    if IsComponent name then
      match entry (host.tree now) dir name with
      | some inode =>
          match host.tree now inode with
          | some (.directory _) => some inode
          | some (.symlink _) => none
          | some _ => if directory then none else some inode
          | none => none
      | none => none
    else host.walk now dir name)

/-- `dup` -/
def dup (descriptor : Inode) : EStateM ε ℕ Inode := syscall host os (fun _ => some descriptor)

/-- `fstat` -/
def fstat (descriptor : Inode) : EStateM ε ℕ Stat :=
  syscall host os (fun now => (host.tree now descriptor).map (Object.stat descriptor))

/-- `read`, of a file whose position is known: a beginning of what follows, empty only at the end. -/
def readAt (file : Inode) (position count : ℕ) : EStateM ε ℕ Bytes :=
  syscall host os (fun now =>
    match host.tree now file with
    | some (.file content) => some ((content.drop position).take (min count (host.granted now + 1)))
    | _ => none)

variable {host} {os}

theorem run_syscall_eq_ok {answer : ℕ → Option α} {a : α} {now later : ℕ} :
    (syscall host os answer).run now = .ok a later ↔
      host.fails now = false ∧ answer now = some a ∧ later = now + 1 := by
  simp only [EStateM.run, syscall]
  by_cases hFails : host.fails now
  · simp [hFails]
  · rw [if_neg hFails]
    cases hAnswer : answer now with
    | none => simp
    | some b =>
        simp only [EStateM.Result.ok.injEq, Option.some.injEq, Bool.not_eq_true] at hFails ⊢
        constructor
        · rintro ⟨rfl, rfl⟩
          exact ⟨hFails, rfl, rfl⟩
        · rintro ⟨-, rfl, rfl⟩
          exact ⟨rfl, rfl⟩

/-- At a moment, a name in a directory stands for something that is no symbolic link. -/
def Follows (tree : Tree) (dir : Inode) (name : Bytes) (inode : Inode) : Prop :=
  IsComponent name ∧ (∃ entries, tree dir = some (.directory entries) ∧
    entries.lookup name = some inode) ∧
    ∃ object, tree inode = some object ∧ ∀ target, object ≠ .symlink target

theorem entry_eq_some {tree : Tree} {dir inode : Inode} {name : Bytes} :
    entry tree dir name = some inode ↔
      ∃ entries, tree dir = some (.directory entries) ∧ entries.lookup name = some inode := by
  unfold entry
  cases hDir : tree dir with
  | none => simp
  | some object => cases object <;> simp

/-- What `openat` returns for a single component is an entry of the directory, and no link. -/
theorem follows_of_openAt {directory : Bool} {dir inode : Inode} {name : Bytes} {now later : ℕ}
    (hName : IsComponent name) (h : (openAt host os directory dir name).run now = .ok inode later) :
    Follows (host.tree now) dir name inode ∧ later = now + 1 := by
  obtain ⟨-, hAnswer, rfl⟩ := run_syscall_eq_ok.1 h
  rw [if_pos hName] at hAnswer
  refine ⟨⟨hName, ?_⟩, rfl⟩
  rw [← entry_eq_some]
  cases hEntry : entry (host.tree now) dir name with
  | none =>
      rw [hEntry] at hAnswer
      cases hAnswer
  | some found =>
      rw [hEntry] at hAnswer
      have hKind : found = inode ∧
          ∃ object, host.tree now found = some object ∧ ∀ target, object ≠ .symlink target := by
        cases hObject : host.tree now found with
        | none => simp [hObject] at hAnswer
        | some object => cases object <;> simp_all
      obtain ⟨rfl, hObject⟩ := hKind
      exact ⟨rfl, hObject⟩

theorem fstat_eq_ok {descriptor : Inode} {stat : Stat} {now later : ℕ} :
    (fstat host os descriptor).run now = .ok stat later ↔ host.fails now = false ∧
      (∃ object, host.tree now descriptor = some object ∧ object.stat descriptor = stat) ∧
        later = now + 1 := by
  unfold fstat
  rw [run_syscall_eq_ok, Option.map_eq_some_iff]

theorem readAt_eq_ok {file : Inode} {position count : ℕ} {chunk : Bytes} {now later : ℕ}
    (h : (readAt host os file position count).run now = .ok chunk later) :
    ∃ content, host.tree now file = some (.file content) ∧
      chunk = (content.drop position).take (min count (host.granted now + 1)) ∧
        later = now + 1 := by
  obtain ⟨-, hAnswer, rfl⟩ := run_syscall_eq_ok.1 h
  cases hObject : host.tree now file with
  | none => simp [hObject] at hAnswer
  | some object => cases object <;> simp_all

end Calls

/-- Following entries from one inode to another, each at a moment of its own. -/
inductive Descends (host : Surroundings) : ℕ → Inode → List Bytes → ℕ → Inode → Prop
  | here (now : ℕ) (inode : Inode) : Descends host now inode [] now inode
  | down {now followed later : ℕ} {dir next inode : Inode} {name : Bytes} {names : List Bytes} :
      now ≤ followed → Follows (host.tree followed) dir name next →
      Descends host (followed + 1) next names later inode →
      Descends host now dir (name :: names) later inode

namespace Descends

variable {host : Surroundings} {now later : ℕ} {dir inode : Inode} {names : List Bytes}

theorem le (h : Descends host now dir names later inode) : now ≤ later := by
  induction h with
  | here => exact Nat.le_refl _
  | down hLe _ _ ih => omega

/-- One entry more at the end. -/
theorem snoc (h : Descends host now dir names later inode) {name : Bytes} {next : Inode}
    (hFollows : Follows (host.tree later) inode name next) :
    Descends host now dir (names ++ [name]) (later + 1) next := by
  induction h with
  | here now inode => exact .down (Nat.le_refl _) hFollows (.here _ _)
  | down hLe hFirst _ ih => exact .down hLe hFirst (ih hFollows)

/-- Starting earlier. -/
theorem mono {earlier : ℕ} (hEarlier : earlier ≤ now) (h : Descends host now dir names later inode)
    (hNames : names ≠ []) : Descends host earlier dir names later inode := by
  cases h with
  | here => exact absurd rfl hNames
  | down hLe hFollows hRest => exact .down (hEarlier.trans hLe) hFollows hRest

end Descends

end ChangingTree
