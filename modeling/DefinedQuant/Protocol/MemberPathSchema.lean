import DefinedQuant.Lib.Pattern
import DefinedQuant.Protocol.Patterns

/-!
# The published schema of member paths

The constraints that the JSON schema of `RelativeMemberPath` states, as regular expressions that are
searched for in the path. `portableMemberKey_iff_schema`: they accept the paths that
`portable_member_key` accepts, whichever of the two ends of a text `$` stands for, and its keys tell
paths apart up to the case of letters.
-/

namespace Protocol

open Pattern

/-! ## The schema -/

/-- What `$` takes for the end of a text: the end alone, or also the place before a final newline. -/
inductive Dialect
  | ecmaScript
  | python

def Dialect.atEnd : Dialect → Text → Prop
  | .ecmaScript, rest => rest = []
  | .python, rest => rest = [] ∨ rest = [0x0A]

/-- `[ab]` -/
def oneOf (letters : String) : Pattern CodePoint := .one (fun c => decide (c ∈ py letters))

/-- `[A-Za-z0-9_-]+` -/
def memberName : Pattern CodePoint := plus (.one CodePoint.isMemberChar)

/-- `_RELATIVE_MEMBER_PATH_PATTERN` -/
def relativeMemberPathPattern : Pattern CodePoint :=
  .seq .start (.seq (separated 0x2F (separated 0x2E memberName)) .stop)

/-- `_UNSAFE_MEMBER_PATH_CHARACTER_PATTERN`: `[^-A-Za-z0-9_./]` -/
def unsafeMemberPathCharacterPattern : Pattern CodePoint :=
  .one (fun c => !(c.isMemberChar || c.val == 0x2E || c.val == 0x2F))

/-- `[Cc][Oo][Nn]|[Pp][Rr][Nn]|[Aa][Uu][Xx]|[Nn][Uu][Ll]|[Cc][Oo][Mm][1-9]|[Ll][Pp][Tt][1-9]` -/
def windowsDeviceName : Pattern CodePoint :=
  .alt (.seq (oneOf "Cc") (.seq (oneOf "Oo") (oneOf "Nn")))
    (.alt (.seq (oneOf "Pp") (.seq (oneOf "Rr") (oneOf "Nn")))
    (.alt (.seq (oneOf "Aa") (.seq (oneOf "Uu") (oneOf "Xx")))
    (.alt (.seq (oneOf "Nn") (.seq (oneOf "Uu") (oneOf "Ll")))
    (.alt (.seq (oneOf "Cc") (.seq (oneOf "Oo") (.seq (oneOf "Mm") (oneOf "123456789"))))
      (.seq (oneOf "Ll") (.seq (oneOf "Pp") (.seq (oneOf "Tt") (oneOf "123456789"))))))))

/-- `_WINDOWS_DEVICE_MEMBER_PATTERN` -/
def windowsDeviceMemberPattern : Pattern CodePoint :=
  .seq (.alt .start (.one (· == 0x2F)))
    (.seq (headed 0x2E windowsDeviceName memberName) (.alt (.one (· == 0x2F)) .stop))

/-- A schema of strings. -/
structure StringSchema where
  minLength : ℕ
  maxLength : ℕ
  pattern : Pattern CodePoint
  /-- `"not": {"anyOf": [...]}` -/
  notAnyOf : List (Pattern CodePoint)

/-- The string is valid for the schema. -/
def StringSchema.Valid (dialect : Dialect) (schema : StringSchema) (value : Text) : Prop :=
  schema.minLength ≤ value.length ∧ value.length ≤ schema.maxLength ∧
    Finds dialect.atEnd schema.pattern value ∧ ∀ p ∈ schema.notAnyOf, ¬ Finds dialect.atEnd p value

/-- The published schema of `RelativeMemberPath`. -/
def relativeMemberPathSchema : StringSchema where
  minLength := 1
  maxLength := 512
  pattern := relativeMemberPathPattern
  notAnyOf := [unsafeMemberPathCharacterPattern, windowsDeviceMemberPattern]

/-! ## Letters -/

/-- The letters of the alphabet in either case. -/
def SameLetter (a b : CodePoint) : Prop :=
  a = b ∨ a.isUpper = true ∧ b.val = a.val + 0x20 ∨ b.isUpper = true ∧ a.val = b.val + 0x20

/-- The texts are equal up to the case of ASCII letters. -/
def EqualUpToCase (a b : Text) : Prop := List.Forall₂ SameLetter a b

/-- Folding moves the capital letters by 32 and nothing else. -/
theorem val_asciiCasefold (c : CodePoint) :
    c.asciiCasefold.val = if 0x41 ≤ c.val ∧ c.val ≤ 0x5A then c.val + 0x20 else c.val := by
  unfold CodePoint.asciiCasefold
  have hUpper : c.isUpper = true ↔ 0x41 ≤ c.val ∧ c.val ≤ 0x5A := by
    rw [CodePoint.isUpper, Bool.and_eq_true, decide_eq_true_iff, decide_eq_true_iff]
  by_cases h : c.isUpper = true
  · rw [dif_pos h, if_pos (hUpper.1 h)]
  · rw [dif_neg h, if_neg (mt hUpper.2 h)]

/-- Two code points fold alike when they are one letter up to its case. -/
theorem asciiCasefold_eq_iff {a b : CodePoint} : a.asciiCasefold = b.asciiCasefold ↔
    SameLetter a b := by
  have hUpper : ∀ c : CodePoint, c.isUpper = true ↔ 0x41 ≤ c.val ∧ c.val ≤ 0x5A := fun c => by
    rw [CodePoint.isUpper, Bool.and_eq_true, decide_eq_true_iff, decide_eq_true_iff]
  rw [SameLetter, hUpper, hUpper, ← Fin.val_inj, ← Fin.val_inj (a := a), val_asciiCasefold,
    val_asciiCasefold]
  split_ifs <;> omega

/-- Two texts fold alike when they are equal up to the case of their letters. -/
theorem map_asciiCasefold_eq_iff {a b : Text} :
    a.map CodePoint.asciiCasefold = b.map CodePoint.asciiCasefold ↔ EqualUpToCase a b := by
  rw [EqualUpToCase, ← List.forall₂_eq_eq_eq, List.forall₂_map_left_iff, List.forall₂_map_right_iff]
  exact ⟨fun h => h.imp (fun _ _ => asciiCasefold_eq_iff.1), fun h =>
    h.imp (fun _ _ => asciiCasefold_eq_iff.2)⟩

/-! ## Device names -/

/-- The pattern matches the texts that one of the names is the lower-case form of. -/
def FoldsInto (p : Pattern CodePoint) (names : List Text) : Prop :=
  Describes p (fun m => m.map CodePoint.asciiCasefold ∈ names)

/-- A class of letters describes the one-letter names it folds into. -/
theorem foldsInto_oneOf {letters : String} {names : List Text}
    (hOne : ∀ name ∈ names, name.length = 1)
    (h : ∀ c, c ∈ py letters ↔ [c.asciiCasefold] ∈ names) : FoldsInto (oneOf letters) names := by
  refine (describes_one _).congr (fun m => ?_)
  constructor
  · rintro ⟨c, rfl, hc⟩
    exact (h c).1 (decide_eq_true_iff.1 hc)
  · intro hMem
    obtain ⟨c, rfl⟩ := List.length_eq_one_iff.1 ((List.length_map _).symm.trans (hOne _ hMem))
    exact ⟨c, rfl, decide_eq_true ((h c).2 hMem)⟩

/-- A sequence of patterns describes the concatenations of their names. -/
theorem FoldsInto.seq {p q : Pattern CodePoint} {fronts backs : List Text} (hp : FoldsInto p fronts)
    (hq : FoldsInto q backs) :
    FoldsInto (.seq p q) (fronts.flatMap (fun front => backs.map (front ++ ·))) := by
  refine (Describes.seq hp hq).congr (fun m => ?_)
  constructor
  · rintro ⟨m₁, m₂, rfl, hFront, hBack⟩
    rw [List.map_append]
    exact List.mem_flatMap.2 ⟨_, hFront, List.mem_map.2 ⟨_, hBack, rfl⟩⟩
  · intro hMem
    obtain ⟨front, hFront, hMem⟩ := List.mem_flatMap.1 hMem
    obtain ⟨back, hBack, hEq⟩ := List.mem_map.1 hMem
    obtain ⟨m₁, m₂, rfl, rfl, rfl⟩ := List.map_eq_append_iff.1 hEq.symm
    exact ⟨m₁, m₂, rfl, hFront, hBack⟩

/-- An alternative describes the names of both sides. -/
theorem FoldsInto.alt {p q : Pattern CodePoint} {names others : List Text} (hp : FoldsInto p names)
    (hq : FoldsInto q others) : FoldsInto (.alt p q) (names ++ others) :=
  (Describes.alt hp hq).congr (fun _ => List.mem_append.symm)

/-- Membership in a literal, by the numbers of its code points. -/
theorem mem_py_iff {letters : String} {values : List ℕ} (h : (py letters).map Fin.val = values)
    (c : CodePoint) :
    c ∈ py letters ↔ c.val ∈ values := by
  rw [← h, List.mem_map_of_injective Fin.val_injective]

/-- A letter in either case. -/
theorem foldsInto_letter (letters : String) (lower : CodePoint)
    (h : 0x61 ≤ lower.val ∧ lower.val ≤ 0x7A)
    (hLetters : (py letters).map Fin.val = [lower.val - 0x20, lower.val]) :
    FoldsInto (oneOf letters) [[lower]] := by
  refine foldsInto_oneOf (fun name hName => by rw [List.mem_singleton.1 hName]; rfl) (fun c => ?_)
  rw [mem_py_iff hLetters, List.mem_singleton, List.cons.injEq, and_iff_left rfl, ← Fin.val_inj,
    val_asciiCasefold, List.mem_cons, List.mem_singleton]
  split_ifs <;> omega

/-- The class of digits folds into the digits. -/
theorem foldsInto_digit : FoldsInto (oneOf "123456789") ((py "123456789").map (fun c => [c])) := by
  have hDigits : (py "123456789").map Fin.val = [0x31, 0x32, 0x33, 0x34, 0x35, 0x36, 0x37, 0x38,
    0x39] := by decide
  refine foldsInto_oneOf (by decide) (fun c => ?_)
  rw [List.mem_map_of_injective (fun _ _ h => List.head_eq_of_cons_eq h),
    mem_py_iff hDigits, mem_py_iff hDigits, val_asciiCasefold]
  simp only [List.mem_cons, List.not_mem_nil, or_false]
  split_ifs <;> omega

/-- The published pattern of the device names folds into the list the code keeps. -/
theorem foldsInto_windowsDeviceName : FoldsInto windowsDeviceName windowsDeviceMemberNames := by
  have c := foldsInto_letter "Cc" 0x63 (by decide) (by decide)
  have o := foldsInto_letter "Oo" 0x6F (by decide) (by decide)
  have n := foldsInto_letter "Nn" 0x6E (by decide) (by decide)
  have p := foldsInto_letter "Pp" 0x70 (by decide) (by decide)
  have r := foldsInto_letter "Rr" 0x72 (by decide) (by decide)
  have a := foldsInto_letter "Aa" 0x61 (by decide) (by decide)
  have u := foldsInto_letter "Uu" 0x75 (by decide) (by decide)
  have x := foldsInto_letter "Xx" 0x78 (by decide) (by decide)
  have l := foldsInto_letter "Ll" 0x6C (by decide) (by decide)
  have m := foldsInto_letter "Mm" 0x6D (by decide) (by decide)
  have t := foldsInto_letter "Tt" 0x74 (by decide) (by decide)
  have h :=
    (c.seq (o.seq n)).alt ((p.seq (r.seq n)).alt ((a.seq (u.seq x)).alt ((n.seq (u.seq l)).alt
    ((c.seq (o.seq (m.seq foldsInto_digit))).alt (l.seq (p.seq (t.seq foldsInto_digit)))))))
  exact h

/-! ## Segments -/

/-- `[A-Za-z0-9_-]+` -/
def IsName (m : Text) : Prop := m ≠ [] ∧ ∀ c ∈ m, c.isMemberChar = true

/-- Names between dots. -/
def IsSegment (m : Text) : Prop := ∀ part ∈ m.splitOn 0x2E, IsName part

/-- The name of a device, with or without extensions. -/
def IsDeviceSegment (m : Text) : Prop :=
  ∃ head tail, m.splitOn 0x2E = head :: tail ∧
    head.map CodePoint.asciiCasefold ∈ windowsDeviceMemberNames ∧
    ∀ part ∈ tail, IsName part

/-- A path is well formed when each of its segments is. -/
theorem isRelativeMemberPath_iff {value : Text} :
    isRelativeMemberPath value = true ↔ ∀ segment ∈ value.splitOn 0x2F, IsSegment segment := by
  unfold isRelativeMemberPath split IsSegment IsName
  simp only [List.all_eq_true, Bool.and_eq_true, Bool.not_eq_true', List.isEmpty_eq_false_iff]

/-- A name holds member characters only. -/
theorem IsName.not_mem {m : Text} (h : IsName m) {c : CodePoint} (hc : c.isMemberChar = false) :
    c ∉ m := by
  intro hMem
  rw [h.2 c hMem] at hc
  cases hc

/-- The characters of a segment. -/
theorem IsSegment.mem {m : Text} (h : IsSegment m) {c : CodePoint} (hMem : c ∈ m) :
    c = 0x2E ∨ c.isMemberChar = true := by
  rcases mem_splitOn_of_mem 0x2E hMem with hDot | ⟨part, hPart, hMem⟩
  · exact .inl hDot
  · exact .inr ((h part hPart).2 c hMem)

/-- No segment holds a slash. -/
theorem IsSegment.slash_not_mem {m : Text} (h : IsSegment m) : (0x2F : CodePoint) ∉ m := by
  intro hMem
  rcases h.mem hMem with hDot | hChar
  · cases hDot
  · cases hChar

/-- Neither does a segment that names a device. -/
theorem IsDeviceSegment.slash_not_mem {m : Text} (h : IsDeviceSegment m) :
    (0x2F : CodePoint) ∉ m := by
  obtain ⟨head, tail, hSplit, hHead, hTail⟩ := h
  intro hMem
  rcases mem_splitOn_of_mem 0x2E hMem with hDot | ⟨part, hPart, hMem⟩
  · cases hDot
  · rw [hSplit] at hPart
    rcases List.mem_cons.1 hPart with rfl | hPart
    · have hClean : ∀ name ∈ windowsDeviceMemberNames, (0x2F : CodePoint) ∉ name := by decide
      exact hClean _ hHead (List.mem_map.2 ⟨0x2F, hMem, by decide⟩)
    · exact (hTail part hPart).not_mem (by decide) hMem

/-- The pattern of a path describes the well-formed paths. -/
theorem describes_path : Describes (separated 0x2F (separated 0x2E memberName))
    (fun value => isRelativeMemberPath value = true) := by
  have hSegment : Describes (separated 0x2E memberName) IsSegment :=
    (describes_plus_one CodePoint.isMemberChar).separated (fun m h => IsName.not_mem h (by decide))
  exact (hSegment.separated (fun _ h => h.slash_not_mem)).congr
    (fun _ => isRelativeMemberPath_iff.symm)

/-- The pattern of a device segment describes the segments that name a device. -/
theorem describes_deviceSegment : Describes (headed 0x2E windowsDeviceName memberName)
    IsDeviceSegment := by
  refine Describes.headed foldsInto_windowsDeviceName (describes_plus_one CodePoint.isMemberChar)
    (fun m h hMem => ?_) (fun m h => IsName.not_mem h (by decide))
  have hClean : ∀ name ∈ windowsDeviceMemberNames, (0x2E : CodePoint) ∉ name := by decide
  exact hClean _ h (List.mem_map.2 ⟨0x2E, hMem, by decide⟩)

/-! ## Searching a path -/

/-- Where a search for the device pattern succeeds: at a segment between slashes or ends. -/
theorem finds_device {atEnd : Text → Prop} {value : Text} :
    Finds atEnd windowsDeviceMemberPattern value ↔
    ∃ before segment after, value = before ++ segment ++ after ∧ IsDeviceSegment segment ∧
      (before = [] ∨ ∃ b, before = b ++ [0x2F]) ∧ ((∃ a, after = 0x2F :: a) ∨ atEnd after) := by
  constructor
  -- What is matched is a slash or the start, the segment, and a slash or the end.
  · rintro ⟨before, m, after, rfl, h⟩
    obtain ⟨front, _, rfl, hFront, hRest⟩ := matches_seq.1 h
    obtain ⟨segment, back, rfl, hSegment, hBack⟩ := matches_seq.1 hRest
    refine ⟨before ++ front, segment, back ++ after, by simp, (describes_deviceSegment _ _ _ _).1
      hSegment, ?_, ?_⟩
    · rcases matches_alt.1 hFront with hStart | hSlash
      · obtain ⟨rfl, rfl⟩ := matches_start.1 hStart
        exact .inl rfl
      · obtain ⟨c, rfl, hc⟩ := matches_one.1 hSlash
        rw [beq_iff_eq] at hc
        rw [hc]
        exact .inr ⟨before, rfl⟩
    · rcases matches_alt.1 hBack with hSlash | hStop
      · obtain ⟨c, rfl, hc⟩ := matches_one.1 hSlash
        rw [beq_iff_eq] at hc
        rw [hc]
        exact .inl ⟨after, rfl⟩
      · obtain ⟨rfl, hEnd⟩ := matches_stop.1 hStop
        exact .inr hEnd
  · rintro ⟨before, segment, after, rfl, hSegment, hBefore, hAfter⟩
    have hFront : ∃ b front, before = b ++ front ∧
        ∀ rest, Matches atEnd (.alt .start (.one (· == 0x2F))) b front rest := by
      rcases hBefore with rfl | ⟨b, rfl⟩
      · exact ⟨[], [], rfl, fun _ => .left .start⟩
      · exact ⟨b, [0x2F], rfl, fun _ => .right (.one (beq_self_eq_true _))⟩
    have hBack : ∃ back a, after = back ++ a ∧
        ∀ start, Matches atEnd (.alt (.one (· == 0x2F)) .stop) start back a := by
      rcases hAfter with ⟨a, rfl⟩ | hEnd
      · exact ⟨[0x2F], a, rfl, fun _ => .left (.one (beq_self_eq_true _))⟩
      · exact ⟨[], after, rfl, fun _ => .right (.stop hEnd)⟩
    obtain ⟨b, front, rfl, hFront⟩ := hFront
    obtain ⟨back, a, rfl, hBack⟩ := hBack
    refine ⟨b, front ++ (segment ++ back), a, by simp, .seq (hFront _) (.seq ?_ (hBack _))⟩
    exact (describes_deviceSegment _ _ _ _).2 hSegment

/-- In both dialects `$` holds at the end of the text. -/
theorem Dialect.atEnd_nil (dialect : Dialect) : dialect.atEnd [] := by
  cases dialect
  · rfl
  · exact .inl rfl

/-- Without a newline, both dialects agree where a text ends. -/
theorem Dialect.eq_nil_of_atEnd {dialect : Dialect} {after : Text}
    (hNewline : (0x0A : CodePoint) ∉ after) (h : dialect.atEnd after) : after = [] := by
  cases dialect with
  | ecmaScript => exact h
  | python =>
      rcases h with rfl | rfl
      · rfl
      · exact absurd List.mem_cons_self hNewline

section Search

variable {dialect : Dialect} {value : Text}

/-- The pattern of unsafe characters is found exactly when some character is not portable. -/
theorem finds_unsafe : Finds dialect.atEnd unsafeMemberPathCharacterPattern value ↔
    ¬ ∀ c ∈ value, c.isMemberChar = true ∨ c = 0x2E ∨ c = 0x2F := by
  rw [unsafeMemberPathCharacterPattern, finds_one, not_forall]
  refine exists_congr (fun c => ?_)
  rw [Classical.not_imp, Bool.not_eq_true', ← Bool.not_eq_true, Bool.or_eq_true, Bool.or_eq_true,
    beq_iff_eq, beq_iff_eq, or_assoc, ← Fin.val_inj, ← Fin.val_inj]
  rfl

/-- Without a line break the path pattern is found exactly in the well-formed paths. -/
theorem finds_path (hNewline : (0x0A : CodePoint) ∉ value) :
    Finds dialect.atEnd relativeMemberPathPattern value ↔ isRelativeMemberPath value = true := by
  rw [relativeMemberPathPattern, finds_anchored describes_path]
  constructor
  · rintro ⟨m, after, rfl, hPath, hEnd⟩
    rw [Dialect.eq_nil_of_atEnd (fun h => hNewline (List.mem_append_right _ h)) hEnd,
      List.append_nil]
    exact hPath
  · exact fun hPath => ⟨value, [], (List.append_nil _).symm, hPath, dialect.atEnd_nil⟩

/-- Without a line break the device pattern is found exactly when a segment names a device. -/
theorem finds_device_iff (hNewline : (0x0A : CodePoint) ∉ value) :
    Finds dialect.atEnd windowsDeviceMemberPattern value ↔ ∃ segment ∈ value.splitOn 0x2F,
      IsDeviceSegment segment := by
  rw [finds_device]
  constructor
  · rintro ⟨before, segment, after, rfl, hSegment, hBefore, hAfter⟩
    refine ⟨segment, mem_splitOn_iff.2 ⟨hSegment.slash_not_mem, before, after, rfl, hBefore, ?_⟩,
      hSegment⟩
    rcases hAfter with hSlash | hEnd
    · exact .inr hSlash
    · exact .inl (Dialect.eq_nil_of_atEnd (fun h => hNewline (List.mem_append_right _ h)) hEnd)
  · rintro ⟨segment, hMem, hSegment⟩
    obtain ⟨-, before, after, rfl, hBefore, hAfter⟩ := mem_splitOn_iff.1 hMem
    refine ⟨before, segment, after, rfl, hSegment, hBefore, ?_⟩
    rcases hAfter with rfl | hSlash
    · exact .inr dialect.atEnd_nil
    · exact .inl hSlash

end Search

/-! ## The keys of paths -/

/-- What stands before the separator is the longest run without it. -/
theorem partition_fst_eq {sep : CodePoint} {value : Text} :
    (partition sep value).1 = value.takeWhile (fun c => decide (c ≠ sep)) := by
  unfold partition
  split
  · next hDrop =>
      have hJoin := List.takeWhile_append_dropWhile (p := fun c => decide (c ≠ sep)) (l := value)
      rw [hDrop, List.append_nil] at hJoin
      exact hJoin.symm
  · rfl

/-- What stands before the first separator is the first piece. -/
theorem partition_fst {sep : CodePoint} {value head : Text} {tail : List Text}
    (h : value.splitOn sep = head :: tail) : (partition sep value).1 = head := by
  have hHead : ∀ c ∈ head, decide (c ≠ sep) = true := fun c hc =>
    decide_eq_true (fun hEq => (mem_splitOn_iff.1 (h ▸ List.mem_cons_self)).1 (hEq ▸ hc))
  have hJoin := @List.intercalate_splitOn _ value _ _ sep
  rw [h, intercalate_cons] at hJoin
  rw [partition_fst_eq, ← hJoin, List.takeWhile_append_of_pos hHead]
  cases tail with
  | nil => exact List.append_nil head
  | cons next tail => simp

/-- Folding commutes with cutting at the dot. -/
theorem partition_casefold {segment : Text} :
    (partition 0x2E (segment.map CodePoint.asciiCasefold)).1 =
      (partition 0x2E segment).1.map CodePoint.asciiCasefold := by
  have hDot : ∀ c : CodePoint, c.asciiCasefold = 0x2E ↔ c = 0x2E := by
    intro c
    rw [← Fin.val_inj, ← Fin.val_inj, val_asciiCasefold]
    change _ = 0x2E ↔ _ = 0x2E
    split_ifs <;> omega
  have hSame : (fun c => decide (c ≠ (0x2E : CodePoint))) ∘ CodePoint.asciiCasefold = fun c =>
    decide (c ≠ 0x2E) := by
    funext c
    exact decide_eq_decide.2 (not_congr (hDot c))
  rw [partition_fst_eq, partition_fst_eq, List.takeWhile_map, hSame]

/-- The first name of a segment is that of a device exactly when the segment names one. -/
theorem isDeviceSegment_iff {segment : Text} (h : IsSegment segment) : IsDeviceSegment segment ↔
    (partition 0x2E (segment.map CodePoint.asciiCasefold)).1 ∈ windowsDeviceMemberNames := by
  rw [partition_casefold]
  constructor
  · rintro ⟨head, tail, hSplit, hHead, -⟩
    rw [partition_fst hSplit]
    exact hHead
  · intro hHead
    cases hSplit : segment.splitOn 0x2E with
    | nil => exact absurd hSplit (List.splitOn_ne_nil _ _)
    | cons head tail =>
        rw [partition_fst hSplit] at hHead
        refine ⟨head, tail, hSplit, hHead, fun part hPart => h part ?_⟩
        rw [hSplit]
        exact List.mem_cons_of_mem _ hPart

/-- Mapping each segment and joining again is mapping the whole text. -/
theorem joinSep_map_splitOn {sep : CodePoint} {f : CodePoint → CodePoint} (hSep : f sep = sep)
    (value : Text) :
    PrefixCode.joinSep sep ((value.splitOn sep).map (List.map f)) = value.map f := by
  have hJoin : ∀ pieces : List Text,
      PrefixCode.joinSep sep (pieces.map (List.map f)) = ([sep].intercalate pieces).map f := by
    intro pieces
    induction pieces with
    | nil => rfl
    | cons first pieces ih =>
        cases pieces with
        | nil => rw [List.intercalate_singleton, List.map_singleton, PrefixCode.joinSep_singleton]
        | cons next pieces =>
            rw [List.intercalate_cons_cons, List.map_append, List.map_append, List.map_singleton,
              hSep, ← ih]
            simp
  rw [hJoin, List.intercalate_splitOn]

/-- The loop's body in `portable_member_key`. -/
def foldedSegment (segment : Text) : Except ValueError Text := do
  if segment = py "." ∨ segment = py ".." ∨ segment.getLast? = some 0x2E ∨
      segment.getLast? = some 0x20 ∨ 0x3A ∈ segment ∨ 0x5C ∈ segment then
    throw ⟨relativeMemberPathError⟩
  let folded := segment.map CodePoint.asciiCasefold
  if (partition 0x2E folded).1 ∈ windowsDeviceMemberNames then
    throw ⟨relativeMemberPathError⟩
  return folded

/-- No segment ends with a dot. -/
theorem IsSegment.getLast?_ne_dot {m : Text} (h : IsSegment m) : m.getLast? ≠ some 0x2E := by
  intro hLast
  obtain ⟨front, rfl⟩ := List.getLast?_eq_some_iff.1 hLast
  refine (h [] ?_).1 rfl
  rw [List.splitOn_append_cons_self]
  exact List.mem_append_right _ List.mem_cons_self

/-- A segment folds unless it names a device. -/
theorem foldedSegment_eq_ok {segment folded : Text} (h : IsSegment segment) :
    foldedSegment segment = .ok folded ↔
      ¬ IsDeviceSegment segment ∧ folded = segment.map CodePoint.asciiCasefold := by
  have hMem : ∀ c : CodePoint, c.isMemberChar = false → c ≠ 0x2E → c ∉ segment := by
    intro c hChar hDot hMem
    rcases h.mem hMem with hEq | hEq
    · exact hDot hEq
    · rw [hEq] at hChar
      cases hChar
  have hPlain : ¬ (segment = py "." ∨ segment = py ".." ∨ segment.getLast? = some 0x2E ∨
      segment.getLast? = some 0x20 ∨ 0x3A ∈ segment ∨ 0x5C ∈ segment) := by
    rintro (hDot | hDots | hLast | hSpace | hColon | hBackslash)
    · exact h.getLast?_ne_dot (hDot ▸ rfl)
    · exact h.getLast?_ne_dot (hDots ▸ rfl)
    · exact h.getLast?_ne_dot hLast
    · exact hMem 0x20 (by decide) (by decide) (List.mem_of_getLast? hSpace)
    · exact hMem 0x3A (by decide) (by decide) hColon
    · exact hMem 0x5C (by decide) (by decide) hBackslash
  unfold foldedSegment
  rw [isDeviceSegment_iff h, Except.throwIf_eq_ok, Except.throwIf_eq_ok, Except.pure_eq_ok,
    eq_comm (a := folded)]
  exact and_iff_right hPlain

/-- The characters of a path. -/
theorem mem_relativeMemberPath {value : Text} (h : isRelativeMemberPath value = true)
    {c : CodePoint} (hMem : c ∈ value) : c.isMemberChar = true ∨ c = 0x2E ∨ c = 0x2F := by
  rcases mem_splitOn_of_mem 0x2F hMem with hSlash | ⟨segment, hSegment, hMem⟩
  · exact .inr (.inr hSlash)
  · rcases (isRelativeMemberPath_iff.1 h segment hSegment).mem hMem with hDot | hChar
    · exact .inr (.inl hDot)
    · exact .inl hChar

/-- A well-formed path is plain ASCII. -/
theorem isAscii_of_isRelativeMemberPath {value : Text} (h : isRelativeMemberPath value = true) :
    Text.IsAscii value := by
  intro c hMem
  rcases mem_relativeMemberPath h hMem with hChar | rfl | rfl
  · simp only [CodePoint.isMemberChar, CodePoint.isVersionChar, CodePoint.isDigit,
      CodePoint.isUpper, CodePoint.isLower, Bool.or_eq_true, Bool.and_eq_true, decide_eq_true_iff,
      beq_iff_eq] at hChar
    omega
  · decide
  · decide

/-- `portable_member_key` in its steps: the checks on the path, then every segment. -/
theorem portableMemberKey_eq (value : Text) : portableMemberKey value = (do
    if ¬ Text.IsAscii value ∨ ¬ (1 ≤ value.length ∧ value.length ≤ 512) ∨
      isRelativeMemberPath value = false then
      throw ⟨relativeMemberPathError⟩
    let folded ← (value.splitOn 0x2F).mapM foldedSegment
    return PrefixCode.joinSep 0x2F folded) := rfl

/-- The segments are folded one by one, and a device's name stops the loop. -/
theorem mapM_foldedSegment_eq_ok {value : Text} (h : isRelativeMemberPath value = true)
    {folded : List Text} :
    (value.splitOn 0x2F).mapM foldedSegment = .ok folded ↔
      (∀ segment ∈ value.splitOn 0x2F, ¬ IsDeviceSegment segment) ∧
        folded = (value.splitOn 0x2F).map (List.map CodePoint.asciiCasefold) := by
  have hSegments := isRelativeMemberPath_iff.1 h
  constructor
  · intro hFolded
    have hDevice : ∀ segment ∈ value.splitOn 0x2F, ¬ IsDeviceSegment segment := by
      intro segment hMem
      obtain ⟨y, -, hStep⟩ := (Except.mapM_eq_ok.1 hFolded).exists_right hMem
      exact ((foldedSegment_eq_ok (hSegments segment hMem)).1 hStep).1
    rw [Except.mapM_eq_map (fun segment hMem =>
      (foldedSegment_eq_ok (hSegments segment hMem)).2 ⟨hDevice segment hMem, rfl⟩)] at hFolded
    cases hFolded
    exact ⟨hDevice, rfl⟩
  · rintro ⟨hDevice, rfl⟩
    exact Except.mapM_eq_map (fun segment hMem =>
      (foldedSegment_eq_ok (hSegments segment hMem)).2 ⟨hDevice segment hMem, rfl⟩)

/-- The paths that have a key, and the key. -/
theorem portableMemberKey_eq_ok {value key : Text} : portableMemberKey value = .ok key ↔
    (1 ≤ value.length ∧ value.length ≤ 512 ∧ isRelativeMemberPath value = true ∧
      ∀ segment ∈ value.splitOn 0x2F, ¬ IsDeviceSegment segment) ∧
        key = value.map CodePoint.asciiCasefold := by
  have hJoin :=
    joinSep_map_splitOn (f := CodePoint.asciiCasefold) (show CodePoint.asciiCasefold 0x2F = 0x2F by
      decide) value
  rw [portableMemberKey_eq, Except.throwIf_eq_ok, Except.bind_eq_ok]
  constructor
  · rintro ⟨hGuard, folded, hFolded, hKey⟩
    obtain ⟨-, hLength, hPath⟩ : Text.IsAscii value ∧ (1 ≤ value.length ∧ value.length ≤ 512) ∧
        isRelativeMemberPath value = true := by
      rw [not_or, not_or, not_not, not_not, Bool.not_eq_false] at hGuard
      exact hGuard
    obtain ⟨hDevice, rfl⟩ := (mapM_foldedSegment_eq_ok hPath).1 hFolded
    rw [hJoin, Except.pure_eq_ok] at hKey
    exact ⟨⟨hLength.1, hLength.2, hPath, hDevice⟩, hKey.symm⟩
  · rintro ⟨⟨hLow, hHigh, hPath, hDevice⟩, rfl⟩
    refine ⟨?_, _, (mapM_foldedSegment_eq_ok hPath).2 ⟨hDevice, rfl⟩, ?_⟩
    · rintro (hAscii | hLength | hOther)
      · exact hAscii (isAscii_of_isRelativeMemberPath hPath)
      · exact hLength ⟨hLow, hHigh⟩
      · rw [hPath] at hOther
        cases hOther
    · rw [hJoin]
      rfl

/-! ## The schema and the check agree -/

/-- The published schema accepts the paths of the allowed length without a device segment. -/
theorem valid_relativeMemberPathSchema {dialect : Dialect} {value : Text} :
    relativeMemberPathSchema.Valid dialect value ↔ 1 ≤ value.length ∧ value.length ≤ 512 ∧
      isRelativeMemberPath value = true ∧ ∀ segment ∈ value.splitOn 0x2F,
        ¬ IsDeviceSegment segment := by
  unfold StringSchema.Valid relativeMemberPathSchema
  refine and_congr_right (fun _ => and_congr_right (fun _ => ?_))
  rw [List.forall_mem_cons, List.forall_mem_singleton, finds_unsafe, not_not]
  constructor
  · rintro ⟨hPath, hSafe, hDevice⟩
    have hNewline : (0x0A : CodePoint) ∉ value := fun hMem => by
      rcases hSafe _ hMem with h | h | h <;> cases h
    refine ⟨(finds_path hNewline).1 hPath, fun segment hMem hSegment => ?_⟩
    exact hDevice ((finds_device_iff hNewline).2 ⟨segment, hMem, hSegment⟩)
  · rintro ⟨hPath, hDevice⟩
    have hSafe : ∀ c ∈ value, c.isMemberChar = true ∨ c = 0x2E ∨ c = 0x2F :=
      fun c hMem => mem_relativeMemberPath hPath hMem
    have hNewline : (0x0A : CodePoint) ∉ value := fun hMem => by
      rcases hSafe _ hMem with h | h | h <;> cases h
    refine ⟨(finds_path hNewline).2 hPath, hSafe, fun hFinds => ?_⟩
    obtain ⟨segment, hMem, hSegment⟩ := (finds_device_iff hNewline).1 hFinds
    exact hDevice segment hMem hSegment

/-- The check and the schema accept the same paths, and the keys tell them apart up to the case of
letters. -/
theorem portableMemberKey_iff_schema :
    (∀ (dialect : Dialect) (value : Text),
      (∃ key, portableMemberKey value = .ok key) ↔ relativeMemberPathSchema.Valid dialect value) ∧
    ∀ {a b keyA keyB : Text}, portableMemberKey a = .ok keyA → portableMemberKey b = .ok keyB →
      (keyA = keyB ↔ EqualUpToCase a b) := by
  constructor
  · intro dialect value
    rw [valid_relativeMemberPathSchema]
    constructor
    · rintro ⟨key, hKey⟩
      exact (portableMemberKey_eq_ok.1 hKey).1
    · exact fun hValid => ⟨_, portableMemberKey_eq_ok.2 ⟨hValid, rfl⟩⟩
  · intro a b keyA keyB hA hB
    obtain ⟨-, rfl⟩ := portableMemberKey_eq_ok.1 hA
    obtain ⟨-, rfl⟩ := portableMemberKey_eq_ok.1 hB
    exact map_asciiCasefold_eq_iff

/-- Two spellings of one path. -/
theorem portableMemberKey_iff_schema_chart : EqualUpToCase (py "Charts/price.svg")
    (py "charts/PRICE.svg") :=
  (portableMemberKey_iff_schema.2
    (show portableMemberKey (py "Charts/price.svg") = .ok (py "charts/price.svg") by decide)
    (show portableMemberKey (py "charts/PRICE.svg") = .ok (py "charts/price.svg") by decide)).1 rfl

end Protocol
