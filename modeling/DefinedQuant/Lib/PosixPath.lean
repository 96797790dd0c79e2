import DefinedQuant.Lib.Text
import DefinedQuant.Lib.Except

/-!
# POSIX paths

`PurePosixPath`: the root of a path, which is empty, one slash or two, and the components behind it.
Reading a path drops empty components and those of one dot, and keeps those of two. The name of a
component in the file system is its form under `os.fsencode`, where the surrogates U+DC80 to U+DCFF
stand for single octets; a component without slashes has a name without them, and only `.` and `..`
are named so.
-/

/-- A path, read. -/
structure PosixPath where
  root : Text
  tail : List Text
  deriving DecidableEq

namespace PosixPath

def slash : CodePoint := CodePoint.ofChar '/'

def dot : Text := py "."

def dotDot : Text := py ".."

/-- The components of a relative path. -/
def components (rel : Text) : List Text := (rel.splitOn slash).filter (fun x => x ≠ [] ∧ x ≠ dot)

/-- `Path(value)`. Exactly two leading slashes are a root of their own. -/
def parse (value : Text) : PosixPath :=
  if [slash, slash] <+: value ∧ ¬ [slash, slash, slash] <+: value then
    ⟨[slash, slash], components (value.drop 2)⟩
  else if [slash] <+: value then ⟨[slash], components (value.drop 1)⟩
  else ⟨[], components value⟩

/-- `path.anchor` -/
def anchor (path : PosixPath) : Text := path.root

/-- `path.parts` -/
def parts (path : PosixPath) : List Text := if path.root = [] then path.tail
    else path.root :: path.tail

/-- `path.is_absolute()` -/
def isAbsolute (path : PosixPath) : Bool := path.root ≠ []

/-- `os.fspath(path)` -/
def fspath (path : PosixPath) : Text :=
  if path.root = [] ∧ path.tail = [] then dot
  else path.root ++ [slash].intercalate path.tail

/-- `path.suffix` -/
def suffix (path : PosixPath) : Text :=
  let name := path.tail.getLastD []
  let stem := (name.reverse.dropWhile (· ≠ CodePoint.ofChar '.')).reverse.dropLast
  if stem ≠ [] ∧ stem.length < name.length - 1 then name.drop stem.length else []

/-- `path.relative_to(other)`: what follows the other path, if that is a beginning of this one. -/
def relativeTo (path other : PosixPath) : Option PosixPath :=
  if path.root = other.root ∧ other.tail <+: path.tail then
    some ⟨[], path.tail.drop other.tail.length⟩
  else none

/-! ## Components -/

theorem not_mem_splitOn (sep : CodePoint) : ∀ (text : Text), ∀ part ∈ text.splitOn sep, sep ∉ part
  | [], part, h => by
      rw [List.splitOn_nil, List.mem_singleton] at h
      rw [h]
      exact List.not_mem_nil
  | c :: text, part, h => by
      have hRest := not_mem_splitOn sep text
      rw [List.splitOn_cons_eq_if_modifyHead] at h
      by_cases hSep : c = sep
      · rw [if_pos (by simpa using hSep)] at h
        rcases List.mem_cons.1 h with rfl | h
        · exact List.not_mem_nil
        · exact hRest part h
      · rw [if_neg (by simpa using hSep)] at h
        cases hSplit : text.splitOn sep with
        | nil => exact absurd hSplit (List.splitOn_ne_nil sep text)
        | cons first rest =>
            rw [hSplit, List.modifyHead_cons] at h
            rw [hSplit] at hRest
            rcases List.mem_cons.1 h with rfl | h
            · intro hMem
              rcases List.mem_cons.1 hMem with hEq | hMem
              · exact hSep hEq.symm
              · exact hRest first List.mem_cons_self hMem
            · exact hRest part (List.mem_cons_of_mem _ h)

/-- No component of a path holds a slash. -/
theorem slash_not_mem_of_mem_tail {value part : Text} (h : part ∈ (parse value).tail) :
    slash ∉ part := by
  have hComponents : ∀ rel, part ∈ components rel → slash ∉ part := fun rel h =>
    not_mem_splitOn slash rel part (List.mem_filter.1 h).1
  unfold parse at h
  split_ifs at h <;> exact hComponents _ h

/-! ## Writing a path and reading it again -/

/-- What reading yields: one of the three roots, and components that are neither empty nor one dot
and hold no slash. -/
def WellFormed (path : PosixPath) : Prop :=
  (path.root = [] ∨ path.root = [slash] ∨ path.root = [slash, slash]) ∧
    ∀ part ∈ path.tail, part ≠ [] ∧ part ≠ dot ∧ slash ∉ part

instance (path : PosixPath) : Decidable path.WellFormed :=
  inferInstanceAs (Decidable ((path.root = [] ∨ path.root = [slash] ∨ path.root = [slash, slash]) ∧
    ∀ part ∈ path.tail, part ≠ [] ∧ part ≠ dot ∧ slash ∉ part))

/-- `path / name` -/
def child (path : PosixPath) (name : Text) : PosixPath := ⟨path.root, path.tail ++ [name]⟩

theorem wellFormed_child {path : PosixPath} {name : Text} (h : path.WellFormed)
    (hName : name ≠ [] ∧ name ≠ dot ∧ slash ∉ name) : (path.child name).WellFormed := by
  refine ⟨h.1, fun part hPart => ?_⟩
  rcases List.mem_append.1 hPart with hPart | hPart
  · exact h.2 part hPart
  · rw [List.mem_singleton.1 hPart]
    exact hName

theorem components_intercalate {tail : List Text}
    (h : ∀ part ∈ tail, part ≠ [] ∧ part ≠ dot ∧ slash ∉ part) :
    components ([slash].intercalate tail) = tail := by
  by_cases hTail : tail = []
  · rw [hTail]
    rfl
  · rw [components, List.splitOn_intercalate _ (fun part hPart => (h part hPart).2.2) hTail]
    refine List.filter_eq_self.2 fun part hPart => ?_
    exact decide_eq_true ⟨(h part hPart).1, (h part hPart).2.1⟩

/-- The relative part of a path that was read does not begin with a slash. -/
theorem not_slash_prefix {tail : List Text}
    (h : ∀ part ∈ tail, part ≠ [] ∧ part ≠ dot ∧ slash ∉ part) :
    ¬ [slash] <+: [slash].intercalate tail := by
  cases tail with
  | nil =>
      rintro ⟨rest, hRest⟩
      cases hRest
  | cons first rest =>
      obtain ⟨hSome, -, hSlash⟩ := h first List.mem_cons_self
      obtain ⟨c, cs, rfl⟩ := List.exists_cons_of_ne_nil hSome
      rintro ⟨after, hEq⟩
      have hFirst : slash = c := by
        cases rest <;> simp_all [List.intercalate]
      exact hSlash (hFirst ▸ List.mem_cons_self)

/-- An absolute path is read back from its text. -/
theorem parse_fspath {path : PosixPath} (h : path.WellFormed) (hAbsolute : path.isAbsolute = true) :
    parse path.fspath = path := by
  obtain ⟨root, tail⟩ := path
  obtain ⟨hRoot, hTail⟩ := h
  have hSome : root ≠ [] := of_decide_eq_true hAbsolute
  have hText : fspath ⟨root, tail⟩ = root ++ [slash].intercalate tail :=
    if_neg (fun hEmpty => hSome hEmpty.1)
  have hRest := not_slash_prefix hTail
  have hComponents := components_intercalate hTail
  rw [hText]
  rcases hRoot with hRoot | hRoot | hRoot
  · exact absurd hRoot hSome
  · simp only at hRoot hTail hRest hComponents
    subst hRoot
    have hOne : ¬ [slash, slash] <+: [slash] ++ [slash].intercalate tail := by
      rw [List.singleton_append, List.cons_prefix_cons]
      exact fun hTwo => hRest hTwo.2
    rw [parse, if_neg (fun hTwo => hOne hTwo.1), if_pos (List.prefix_append _ _)]
    rw [List.singleton_append, List.drop_succ_cons, List.drop_zero, hComponents]
  · simp only at hRoot hTail hRest hComponents
    subst hRoot
    have hThree : ¬ [slash, slash, slash] <+: [slash, slash] ++ [slash].intercalate tail := by
      rw [List.cons_append, List.singleton_append, List.cons_prefix_cons, List.cons_prefix_cons]
      exact fun hMore => hRest hMore.2.2
    rw [parse, if_pos ⟨List.prefix_append _ _, hThree⟩]
    rw [List.cons_append, List.singleton_append, List.drop_succ_cons, List.drop_succ_cons,
      List.drop_zero, hComponents]

/-- What a joined text contains is in the separator or in a part. -/
theorem mem_intercalate_concat {c : CodePoint} {sep last : Text} : ∀ {tail : List Text},
    c ∈ sep.intercalate (tail ++ [last]) → c ∈ sep ∨ c ∈ sep.intercalate tail ∨ c ∈ last
  | [], h => by
      rw [List.nil_append, List.intercalate_singleton] at h
      exact .inr (.inr h)
  | first :: tail, h => by
      rw [List.cons_append, List.intercalate_cons_of_ne_nil (by simp), List.mem_append,
        List.mem_append] at h
      rcases h with (h | h) | h
      · refine .inr (.inl ?_)
        by_cases hTail : tail = []
        · rwa [hTail, List.intercalate_singleton]
        · rw [List.intercalate_cons_of_ne_nil hTail]
          exact List.mem_append_left _ (List.mem_append_left _ h)
      · exact .inl h
      · rcases mem_intercalate_concat h with h | h | h
        · exact .inl h
        · refine .inr (.inl ?_)
          by_cases hTail : tail = []
          · rw [hTail] at h
            cases h
          · rw [List.intercalate_cons_of_ne_nil hTail]
            exact List.mem_append_right _ h
        · exact .inr (.inr h)

/-- A child has the code points of its parent and of its name in its text. -/
theorem not_mem_fspath_child {path : PosixPath} {name : Text} {c : CodePoint}
    (hAbsolute : path.isAbsolute = true) (hPath : c ∉ path.fspath) (hName : c ∉ name)
    (hSlash : c ≠ slash) : c ∉ (path.child name).fspath := by
  have hRoot : path.root ≠ [] := of_decide_eq_true hAbsolute
  rw [fspath, if_neg (fun hEmpty => hRoot hEmpty.1), List.mem_append] at hPath
  rw [fspath, if_neg (fun hEmpty => hRoot hEmpty.1), List.mem_append]
  rintro (h | h)
  · exact hPath (.inl h)
  · rcases mem_intercalate_concat h with h | h | h
    · exact hSlash (List.mem_singleton.1 h)
    · exact hPath (.inr h)
    · exact hName h

theorem fspath_ne_nil {path : PosixPath} (hAbsolute : path.isAbsolute = true) :
    path.fspath ≠ [] := by
  have hRoot : path.root ≠ [] := of_decide_eq_true hAbsolute
  rw [fspath, if_neg (fun hEmpty => hRoot hEmpty.1)]
  exact List.append_ne_nil_of_left_ne_nil hRoot _

/-! ## Names in the file system -/

/-- The octets of one code point under `os.fsencode`, as far as a system call takes them: there are
none for NUL and for a surrogate that stands for no octet. -/
def fsencodeChar (c : CodePoint) : Option Bytes :=
  if c.val = 0 then none
  else if 0xDC80 ≤ c.val ∧ c.val ≤ 0xDCFF then some [Byte.ofNat (c.val - 0xDC00)]
  else if c.IsSurrogate then none
  else some (utf8Char c)

/-- The name that a system call gets for a text. -/
def fsencode : Text → Option Bytes
  | [] => some []
  | c :: text => do return (← fsencodeChar c) ++ (← fsencode text)

/-- A code point becomes itself if it is one of ASCII, and octets outside of ASCII if not. -/
theorem fsencodeChar_cases {c : CodePoint} {octets : Bytes} (h : fsencodeChar c = some octets) :
    (c.val < 0x80 ∧ octets = [Byte.ofNat c.val]) ∨
      (octets ≠ [] ∧ ∀ octet ∈ octets, 0x80 ≤ octet.val) := by
  unfold fsencodeChar at h
  split_ifs at h with h0 hEscape hSurrogate
  · cases h
    refine .inr ⟨List.cons_ne_nil _ _, fun octet hMem => ?_⟩
    rw [List.mem_singleton.1 hMem, Byte.val_ofNat]
    omega
  · cases h
    by_cases hAscii : c.val < 0x80
    · refine .inl ⟨hAscii, ?_⟩
      rw [utf8Char, if_pos hAscii]
    · refine .inr ⟨utf8Char_ne_nil c, fun octet hMem => ?_⟩
      have hLt := c.isLt
      rw [utf8Char, if_neg hAscii] at hMem
      split_ifs at hMem
      all_goals
        simp only [List.mem_cons, List.not_mem_nil, or_false] at hMem
        rcases hMem with rfl | rfl | rfl | rfl <;> rw [Byte.val_ofNat] <;> omega

theorem fsencode_cons_eq_some {c : CodePoint} {text : Text} {name : Bytes} :
    fsencode (c :: text) = some name ↔ ∃ octets rest, fsencodeChar c = some octets ∧
      fsencode text = some rest ∧ name = octets ++ rest := by
  simp only [fsencode, bind, Option.bind_eq_some_iff, pure, Option.some.injEq]
  constructor
  · rintro ⟨octets, hChar, rest, hRest, rfl⟩
    exact ⟨octets, rest, hChar, hRest, rfl⟩
  · rintro ⟨octets, rest, hChar, hRest, rfl⟩
    exact ⟨octets, hChar, rest, hRest, rfl⟩

/-- An octet of ASCII in a name is a code point of the text. -/
theorem mem_of_mem_fsencode {b : Byte} (hb : b.val < 0x80) : ∀ {text : Text} {name : Bytes},
    fsencode text = some name → b ∈ name → ∃ c ∈ text, c.val = b.val
  | [], name, h, hMem => by
      cases h
      cases hMem
  | c :: text, name, h, hMem => by
      obtain ⟨octets, rest, hChar, hRest, rfl⟩ := fsencode_cons_eq_some.1 h
      rcases List.mem_append.1 hMem with hMem | hMem
      · rcases fsencodeChar_cases hChar with ⟨hAscii, rfl⟩ | ⟨-, hHigh⟩
        · refine ⟨c, List.mem_cons_self, ?_⟩
          rw [List.mem_singleton.1 hMem, Byte.val_ofNat]
          omega
        · exact absurd (hHigh b hMem) (by omega)
      · obtain ⟨c', hc', hVal⟩ := mem_of_mem_fsencode hb hRest hMem
        exact ⟨c', List.mem_cons_of_mem _ hc', hVal⟩

/-- A name in ASCII is the text itself. -/
theorem map_val_of_fsencode : ∀ {text : Text} {name : Bytes},
    fsencode text = some name → (∀ b ∈ name, b.val < 0x80) →
      text.map (fun c => c.val) = name.map (fun b => b.val)
  | [], name, h, _ => by
      cases h
      rfl
  | c :: text, name, h, hName => by
      obtain ⟨octets, rest, hChar, hRest, rfl⟩ := fsencode_cons_eq_some.1 h
      have hTail := map_val_of_fsencode hRest (fun b hb => hName b (List.mem_append_right _ hb))
      rcases fsencodeChar_cases hChar with ⟨hAscii, rfl⟩ | ⟨hSome, hHigh⟩
      · have hVal : c.val % 256 = c.val := by omega
        rw [List.map_cons, hTail, List.cons_append, List.map_cons, Byte.val_ofNat, hVal]
        rfl
      · obtain ⟨b, hb⟩ := List.exists_mem_of_ne_nil _ hSome
        have hLow := hName b (List.mem_append_left _ hb)
        exact absurd (hHigh b hb) (by omega)

theorem fsencode_ne_nil {text : Text} {name : Bytes} (h : fsencode text = some name)
    (hText : text ≠ []) : name ≠ [] := by
  rintro rfl
  have hMap := map_val_of_fsencode h (fun b hb => absurd hb List.not_mem_nil)
  exact hText (List.map_eq_nil_iff.1 hMap)

/-- Texts with the same name in ASCII are the same. -/
theorem eq_of_fsencode_ascii {text text' : Text} {name : Bytes} (h : fsencode text = some name)
    (h' : fsencode text' = some name) (hName : ∀ b ∈ name, b.val < 0x80) : text = text' := by
  have hMap := (map_val_of_fsencode h hName).trans (map_val_of_fsencode h' hName).symm
  exact Fin.val_injective.list_map hMap

end PosixPath
