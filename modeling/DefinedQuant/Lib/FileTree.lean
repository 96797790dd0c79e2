import DefinedQuant.Lib.SortBy
import DefinedQuant.Lib.Text
import DefinedQuant.Lib.Except

/-!
# File trees

What a program finds at a path: a file with its content, a directory, a symbolic link or something
else (a socket, a device, a pipe). Of the metadata only two bits matter here, whether the owner is
the current user and whether the mode keeps everybody else out. A link carries what it leads to at
the moment, which may be nothing; paths go through links, except in their last component.

Writing through a link leaves the tree as it is: what is written lands elsewhere.
-/

namespace FileTree

/-- Owner and mode. -/
structure Meta where
  owned : Bool
  restricted : Bool
  deriving DecidableEq

/-- The metadata of something that the program makes for itself. -/
def Meta.personal : Meta := ⟨true, true⟩

/-- `_owner_matches` and the mode of `_private_mode`. -/
def Meta.isPrivate (info : Meta) : Bool := info.owned && info.restricted

/-- What a name stands for. -/
inductive Node where
  | file (info : Meta) (content : Bytes)
  | directory (info : Meta) (entries : List (Text × Node))
  | symlink (target : Option Node)
  | special (info : Meta)

/-- A listing: names and what they stand for. -/
abbrev Entries := List (Text × Node)

namespace Node

/-- What a path leads to once links are followed. -/
def resolve : Node → Option Node
  | .symlink none => none
  | .symlink (some target) => target.resolve
  | node => some node

/-- The entry of a name. -/
def child (name : Text) : Entries → Option Node
  | [] => none
  | (key, node) :: entries => if key = name then some node else child name entries

/-- What stands at a path, the last component not followed. -/
def lookup : List Text → Node → Option Node
  | [], node => some node
  | name :: path, node =>
      match node.resolve with
      | some (.directory _ entries) => (child name entries).bind (lookup path)
      | _ => none

/-- The names in a directory, in the order of the listing. -/
def names : Node → Option (List Text)
  | .directory _ entries => some (entries.map Prod.fst)
  | _ => none

/-- A directory, or a link to one. -/
def leadsToDirectory (node : Node) : Bool :=
  match node.resolve with
  | some (.directory _ _) => true
  | _ => false

/-! ## Walking a tree -/

/-- One step of `os.walk`: where it is, the directories and the other entries there. -/
structure WalkStep where
  root : List Text
  directories : List Text
  files : List Text

mutual

/-- `os.walk(top, followlinks=False)`, names in UTF-8 order. Nothing is walked at a path that is no
directory, and a link is listed but not entered. -/
def walk (root : List Text) : Node → List WalkStep
  | .directory _ entries =>
      let isDirectory := fun (entry : Text × Node) => entry.2.leadsToDirectory
      ⟨root, sortBy utf8Raw ((entries.filter isDirectory).map Prod.fst),
          sortBy utf8Raw ((entries.filter (fun entry => !isDirectory entry)).map Prod.fst)⟩ ::
        (sortBy (fun below => utf8Raw below.1) (walkEntries root entries)).flatMap Prod.snd
  | _ => []

/-- The walks below a directory, under the names of its entries. -/
def walkEntries (root : List Text) : Entries → List (Text × List WalkStep)
  | [] => []
  | (name, node) :: entries => (name, walk (root ++ [name]) node) :: walkEntries root entries

end

/-- Why a tree has no size: an entry that is a link or not owned, or one that is neither a file nor
a directory. -/
inductive SizeError where
  | notPrivate
  | notRegularFile
  deriving DecidableEq

mutual

/-- `private_tree_size` of one entry. -/
def entrySize : Node → Except SizeError ℕ
  | .symlink _ => .error .notPrivate
  | .file info content => if info.owned then .ok content.length else .error .notPrivate
  | .directory info entries => if info.owned then treeSize entries else .error .notPrivate
  | .special info => if info.owned then .error .notRegularFile else .error .notPrivate

/-- `private_tree_size` of the entries of a directory. -/
def treeSize : Entries → Except SizeError ℕ
  | [] => .ok 0
  | (_, node) :: entries => do return (← entrySize node) + (← treeSize entries)

end

/-! ## Changing a tree -/

/-- Why a change at a path is impossible. -/
inductive ChangeError where
  | exists
  | blocked
  deriving DecidableEq

/-- Change what stands at a path below a node: `change` gets the current entry of the last component
and returns the new one. Components before it lead through directories. -/
def changeAt (change : Option Node → Except ChangeError Node) :
    List Text → Node → Except ChangeError Node
  | [], _ => .error .blocked
  | [name], node =>
      match node with
      | .directory info entries => do
          let node' ← change (child name entries)
          return .directory info (entries.filter (fun entry => entry.1 ≠ name) ++ [(name, node')])
      | .symlink _ => if node.leadsToDirectory then .ok node else .error .blocked
      | _ => .error .blocked
  | name :: path, node =>
      match node with
      | .directory info entries =>
          match child name entries with
          | some inner => do
              let inner' ← changeAt change path inner
              return .directory info
                (entries.map (fun entry => if entry.1 = name then (name, inner') else entry))
          | none => .error .blocked
      | .symlink _ => if node.leadsToDirectory then .ok node else .error .blocked
      | _ => .error .blocked

/-- Create a file, which must not exist. -/
def createFile (content : Bytes) : List Text → Node → Except ChangeError Node :=
  changeAt (fun current =>
    match current with
    | none => .ok (.file .personal content)
    | some _ => .error .exists)

/-- Create a directory. `existing` says what becomes of the metadata of one that is there already,
if that is allowed. -/
def createDirectory (existing : Meta → Option Meta) (info : Meta) :
    List Text → Node → Except ChangeError Node :=
  changeAt (fun current =>
    match current with
    | none => .ok (.directory info [])
    | some (.directory info' entries) =>
        match existing info' with
        | some info'' => .ok (.directory info'' entries)
        | none => .error .exists
    | some _ => .error .exists)

/-! ## Paths and walks -/

/-- A path is followed in two stages. -/
theorem lookup_append : ∀ (path rest : List Text) (node : Node),
    lookup (path ++ rest) node = (lookup path node).bind (lookup rest)
  | [], rest, node => rfl
  | name :: path, rest, node => by
      rw [List.cons_append]
      simp only [lookup]
      cases node.resolve with
      | none => rfl
      | some target =>
          cases target with
          | directory info entries =>
              dsimp only
              rw [Option.bind_assoc]
              congr 1
              funext inner
              exact lookup_append path rest inner
          | _ => rfl

theorem child_eq_some {name : Text} {node : Node} : ∀ {entries : Entries},
    (entries.map Prod.fst).Nodup → (name, node) ∈ entries → child name entries = some node
  | [], _, h => absurd h List.not_mem_nil
  | (key, inner) :: entries, hNodup, h => by
      obtain ⟨hFresh, hRest⟩ := List.nodup_cons.1 hNodup
      unfold child
      rcases List.mem_cons.1 h with h | h
      · cases h
        exact if_pos rfl
      · have hName : key ≠ name := by
          rintro rfl
          exact hFresh (List.mem_map.2 ⟨_, h, rfl⟩)
        rw [if_neg hName]
        exact child_eq_some hRest h

/-- Nothing is walked below a directory that holds files alone. -/
theorem walkEntries_of_files {root : List Text} : ∀ {entries : Entries},
    (∀ entry ∈ entries, ∃ info content, entry.2 = .file info content) →
      ∀ below ∈ walkEntries root entries, below.2 = []
  | [], _, below, hBelow => absurd hBelow List.not_mem_nil
  | (name, node) :: entries, h, below, hBelow => by
      obtain ⟨⟨info, content, rfl⟩, hRest⟩ := List.forall_mem_cons.1 h
      rcases List.mem_cons.1 hBelow with rfl | hBelow
      · rfl
      · exact walkEntries_of_files hRest below hBelow

/-- The walk over a directory that holds files alone is one step. -/
theorem walk_of_files {root : List Text} {info : Meta} {entries : Entries}
    (h : ∀ entry ∈ entries, ∃ info content, entry.2 = .file info content) :
    walk root (.directory info entries)
      = [⟨root, [], sortBy utf8Raw (entries.map Prod.fst)⟩] := by
  have hFile : ∀ entry ∈ entries, leadsToDirectory entry.2 = false := by
    intro entry hEntry
    obtain ⟨info, content, hNode⟩ := h entry hEntry
    rw [hNode]
    rfl
  have hDirectories : entries.filter (fun entry => leadsToDirectory entry.2) = [] := by
    refine List.filter_eq_nil_iff.2 fun entry hEntry => ?_
    rw [hFile entry hEntry]
    exact Bool.false_ne_true
  have hFiles : entries.filter (fun entry => !leadsToDirectory entry.2) = entries := by
    refine List.filter_eq_self.2 fun entry hEntry => ?_
    rw [hFile entry hEntry]
    rfl
  have hBelow : (sortBy (fun below => utf8Raw below.1) (walkEntries root entries)).flatMap
    Prod.snd = [] := by
    refine List.flatMap_eq_nil_iff.2 fun below hMem => ?_
    exact walkEntries_of_files h below (mem_sortBy.1 hMem)
  rw [walk]
  simp only [hDirectories, hFiles, hBelow]
  rfl

/-! ## Sizes of changed trees -/

theorem child_mem {name : Text} {node : Node} : ∀ {entries : Entries},
    child name entries = some node → (name, node) ∈ entries
  | [], h => by cases h
  | (key, inner) :: entries, h => by
      unfold child at h
      by_cases hKey : key = name
      · rw [if_pos hKey] at h
        cases h
        rw [hKey]
        exact List.mem_cons_self
      · rw [if_neg hKey] at h
        exact List.mem_cons_of_mem _ (child_mem h)

/-- A node whose size can be taken, with that size: owned, made of files and directories, every name
once. `size` gives the size of what stands under a name. -/
inductive Weighs : Node → ℕ → Prop
  | file {info : Meta} {content : Bytes} (hOwned : info.owned = true) :
      Weighs (.file info content) content.length
  | directory {info : Meta} {entries : Entries} (size : Text → ℕ) (hOwned : info.owned = true)
      (hDistinct : (entries.map Prod.fst).Nodup)
      (hEntries : ∀ entry ∈ entries, Weighs entry.2 (size entry.1)) :
      Weighs (.directory info entries) ((entries.map Prod.fst).map size).sum

/-- `private_tree_size` of a listing is the sum over its entries. -/
theorem treeSize_eq_sum {size : Text → ℕ} : ∀ {entries : Entries},
    (∀ entry ∈ entries, entrySize entry.2 = .ok (size entry.1)) →
      treeSize entries = .ok ((entries.map Prod.fst).map size).sum
  | [], _ => rfl
  | (name, node) :: entries, h => by
      obtain ⟨hNode, hRest⟩ := List.forall_mem_cons.1 h
      rw [treeSize, hNode, treeSize_eq_sum hRest]
      rfl

/-- `private_tree_size` is the weight. -/
theorem Weighs.entrySize_eq {node : Node} {n : ℕ} (h : Weighs node n) : entrySize node = .ok n := by
  induction h with
  | file hOwned => rw [entrySize, if_pos hOwned]
  | directory size hOwned hDistinct hEntries ih => rw [entrySize, if_pos hOwned, treeSize_eq_sum ih]

/-- Where one of distinct keys grows, the sum grows by as much. -/
theorem sum_update_of_mem {f : Text → ℕ} {key : Text} {added : ℕ} : ∀ {keys : List Text},
    keys.Nodup → key ∈ keys →
      (keys.map (Function.update f key (f key + added))).sum = (keys.map f).sum + added
  | [], _, h => absurd h List.not_mem_nil
  | other :: keys, hDistinct, h => by
      obtain ⟨hFresh, hRest⟩ := List.nodup_cons.1 hDistinct
      simp only [List.map_cons, List.sum_cons]
      by_cases hKey : other = key
      · subst hKey
        have hSame : keys.map (Function.update f other (f other + added)) = keys.map f := by
          refine List.map_congr_left (fun name hName => Function.update_of_ne ?_ _ _)
          exact fun hEq => hFresh (hEq ▸ hName)
        rw [Function.update_self, hSame]
        omega
      · have hMem := (List.mem_cons.1 h).resolve_left (fun hEq => hKey hEq.symm)
        rw [Function.update_of_ne hKey, sum_update_of_mem hRest hMem]
        omega

theorem child_eq_none {name : Text} : ∀ {entries : Entries},
    child name entries = none → name ∉ entries.map Prod.fst
  | [], _ => List.not_mem_nil
  | (key, inner) :: entries, h => by
      unfold child at h
      by_cases hKey : key = name
      · rw [if_pos hKey] at h
        cases h
      · rw [if_neg hKey] at h
        exact List.not_mem_cons_of_ne_of_not_mem (fun hEq => hKey hEq.symm) (child_eq_none h)

/-- A directory in which one entry is put in the place of those under its name. -/
theorem Weighs.put {info : Meta} {entries : Entries} {size : Text → ℕ} {name : Text} {node : Node}
    {n : ℕ} (hOwned : info.owned = true) (hDistinct : (entries.map Prod.fst).Nodup)
    (hEntries : ∀ entry ∈ entries, Weighs entry.2 (size entry.1)) (hNode : Weighs node n) :
    Weighs (.directory info (entries.filter (fun entry => entry.1 ≠ name) ++ [(name, node)]))
      ((((entries.map Prod.fst).filter (· ≠ name)).map size).sum + n) := by
  have hNames : (entries.filter (fun entry => entry.1 ≠ name) ++ [(name, node)]).map Prod.fst
      = (entries.map Prod.fst).filter (· ≠ name) ++ [name] := by
    rw [List.map_append, List.filter_map]
    rfl
  have hOthers : ((entries.map Prod.fst).filter (· ≠ name)).map (Function.update size name n)
      = ((entries.map Prod.fst).filter (· ≠ name)).map size := by
    refine List.map_congr_left (fun other hOther => Function.update_of_ne ?_ _ _)
    simpa using (List.mem_filter.1 hOther).2
  have hWeighs := @Weighs.directory info
    (entries.filter (fun entry => entry.1 ≠ name) ++ [(name, node)]) (Function.update size name n)
    hOwned ?_ ?_
  · rw [hNames, List.map_append, List.sum_append, hOthers, List.map_singleton, List.sum_singleton,
      Function.update_self] at hWeighs
    exact hWeighs
  · rw [hNames]
    refine List.nodup_append.2 ⟨hDistinct.filter _, List.nodup_singleton _, ?_⟩
    intro other hOther last hLast
    rw [List.mem_singleton.1 hLast]
    simpa using (List.mem_filter.1 hOther).2
  · intro entry hMem
    rcases List.mem_append.1 hMem with hMem | hMem
    · obtain ⟨hOld, hNe⟩ := List.mem_filter.1 hMem
      rw [Function.update_of_ne (by simpa using hNe)]
      exact hEntries entry hOld
    · rw [List.mem_singleton.1 hMem, Function.update_self]
      exact hNode

/-- A change adds to the weight of a tree what it adds in place: to the entry that it changes, or
with a new entry. -/
theorem weighs_changeAt {change : Option Node → Except ChangeError Node} {added : ℕ}
    (hNew : ∀ node, change none = .ok node → Weighs node added)
    (hOld : ∀ inner node n, change (some inner) = .ok node → Weighs inner n →
      Weighs node (n + added)) :
    ∀ {path : List Text} {node node' : Node} {n : ℕ}, changeAt change path node = .ok node' →
      Weighs node n → Weighs node' (n + added)
  | [], node, node', n, h, _ => by
      unfold changeAt at h
      cases h
  | [name], node, node', n, h, hNode => by
      unfold changeAt at h
      cases hNode with
      | file => cases h
      | @directory info entries size hOwned hDistinct hEntries =>
          obtain ⟨inner', hInner, h⟩ := Except.bind_eq_ok.1 h
          cases h
          -- At the last name the change puts an entry there: a new one adds its weight, an old
          -- one is replaced.
          cases hChild : child name entries with
          | none =>
              rw [hChild] at hInner
              have hPut := @Weighs.put _ _ _ name _ _ hOwned hDistinct hEntries (hNew _ hInner)
              -- No other entry has the name, so that none is taken out of the sum.
              have hAll : (entries.map Prod.fst).filter (· ≠ name) = entries.map Prod.fst := by
                refine List.filter_eq_self.2 (fun other hOther => ?_)
                have hFresh := child_eq_none hChild
                exact decide_eq_true (fun hEq => hFresh (hEq ▸ hOther))
              rwa [hAll] at hPut
          | some inner =>
              rw [hChild] at hInner
              have hMem := child_mem hChild
              have hPut := @Weighs.put _ _ _ name _ _ hOwned hDistinct hEntries
                (hOld _ _ _ hInner (hEntries _ hMem))
              -- The weight of the entry is taken out of the sum and put back changed.
              have hSum : (((entries.map Prod.fst).filter (· ≠ name)).map size).sum + size name
                  = ((entries.map Prod.fst).map size).sum := by
                have hErase := hDistinct.erase_eq_filter name
                have hName : name ∈ entries.map Prod.fst := List.mem_map.2 ⟨_, hMem, rfl⟩
                have hPerm := ((List.perm_cons_erase hName).map size).sum_nat
                rw [hErase, List.map_cons, List.sum_cons] at hPerm
                have hFilter : (entries.map Prod.fst).filter (· ≠ name)
                    = (entries.map Prod.fst).filter (· != name) :=
                  List.filter_congr (fun other _ => by rw [bne, beq_eq_decide, decide_not])
                rw [hFilter]
                omega
              rwa [← Nat.add_assoc, hSum] at hPut
  | name :: next :: path, node, node', n, h, hNode => by
      unfold changeAt at h
      cases hNode with
      | file => cases h
      | @directory info entries size hOwned hDistinct hEntries =>
          simp only at h
          split at h
          · next inner hChild =>
              obtain ⟨inner', hInner, h⟩ := Except.bind_eq_ok.1 h
              cases h
              have hMem := child_mem hChild
              -- Further up only the entry on the path changes its weight.
              have hChanged := weighs_changeAt hNew hOld hInner (hEntries _ hMem)
              have hNames : (entries.map (fun entry =>
                  if entry.1 = name then (name, inner') else entry)).map Prod.fst
                    = entries.map Prod.fst := by
                rw [List.map_map]
                refine List.map_congr_left (fun entry _ => ?_)
                by_cases hName : entry.1 = name
                · simp [hName]
                · simp [hName]
              have hName : name ∈ entries.map Prod.fst := List.mem_map.2 ⟨_, hMem, rfl⟩
              rw [← sum_update_of_mem hDistinct hName, ← hNames]
              refine .directory _ hOwned (by rwa [hNames]) (fun entry hEntry => ?_)
              obtain ⟨old, hOldMem, rfl⟩ := List.mem_map.1 hEntry
              by_cases hSame : old.1 = name
              · rw [if_pos hSame, Function.update_self]
                exact hChanged
              · rw [if_neg hSame, Function.update_of_ne hSame]
                exact hEntries old hOldMem
          · cases h

/-- A directory that is changed is a directory. -/
theorem leadsToDirectory_changeAt {change : Option Node → Except ChangeError Node} :
    ∀ {path : List Text} {node node' : Node}, changeAt change path node = .ok node' →
      node.leadsToDirectory = true → node'.leadsToDirectory = true
  | [], node, node', h, _ => by
      unfold changeAt at h
      cases h
  | [name], node, node', h, hNode => by
      unfold changeAt at h
      split at h
      · obtain ⟨inner, -, h⟩ := Except.bind_eq_ok.1 h
        cases h
        rfl
      · rw [if_pos hNode] at h
        cases h
        exact hNode
      · cases h
  | name :: next :: path, node, node', h, hNode => by
      unfold changeAt at h
      split at h
      · split at h
        · obtain ⟨inner, -, h⟩ := Except.bind_eq_ok.1 h
          cases h
          rfl
        · cases h
      · rw [if_pos hNode] at h
        cases h
        exact hNode
      · cases h

/-- A new file adds its content. -/
theorem weighs_createFile {content : Bytes} {path : List Text} {node node' : Node} {n : ℕ}
    (h : createFile content path node = .ok node') (hNode : Weighs node n) :
    Weighs node' (n + content.length) := by
  refine weighs_changeAt (fun inner hInner => ?_) (fun _ _ _ hInner => by cases hInner) h hNode
  cases hInner
  exact .file rfl

/-- A directory adds nothing. -/
theorem weighs_createDirectory {existing : Meta → Option Meta} {info : Meta} {path : List Text}
    {node node' : Node} {n : ℕ} (hInfo : info.owned = true)
    (hExisting : ∀ old new, existing old = some new → new.owned = old.owned)
    (h : createDirectory existing info path node = .ok node') (hNode : Weighs node n) :
    Weighs node' n := by
  refine @weighs_changeAt _ 0 (fun inner hInner => ?_) (fun inner changed n hInner hOld => ?_) _ _ _
    _ h hNode
  · cases hInner
    exact .directory (fun _ => 0) hInfo List.nodup_nil (fun _ h => absurd h List.not_mem_nil)
  · cases hOld with
    | file => cases hInner
    | @directory old entries size hOwned hDistinct hEntries =>
        simp only at hInner
        split at hInner
        · next new hNew =>
            cases hInner
            exact .directory size ((hExisting old new hNew).trans hOwned) hDistinct hEntries
        · cases hInner

end Node

end FileTree
