import DefinedQuant.Lib.Except
import DefinedQuant.Lib.SortBy
import DefinedQuant.Lib.Json.Numbers
import DefinedQuant.Lib.Json.Strings

/-!
# Writing JSON

`dumps` is `json.dumps` with `ensure_ascii=False` and `allow_nan=False`, in the two layouts in use:
the compact separators, or an indent. Members are written in insertion order or sorted by key. A
double that is not finite and an integer too long to print are refused; everything else has a text.

`normal` is what reading the text back gives: lists for tuples, and sorted members when they were
written sorted.
-/

namespace Json

/-- The layout options of `json.dumps`. Without an indent the separators are `","` and `":"`. -/
structure Style where
  sortKeys : Bool
  indent : Option ℕ

/-- `separators=(",", ":"), sort_keys=True` -/
def Style.compactSorted : Style := ⟨true, none⟩

/-- `separators=(",", ":")` -/
def Style.compact : Style := ⟨false, none⟩

/-- `indent=2, sort_keys=True` -/
def Style.pretty : Style := ⟨true, some 2⟩

/-- The line break before an item at a nesting level. -/
def newline (style : Style) (level : ℕ) : Text :=
  match style.indent with
  | none => []
  | some width => 0x0A :: List.replicate (width * level) 0x20

/-- What stands between a key and its value. -/
def keySeparator (style : Style) : Text :=
  match style.indent with
  | none => [0x3A]
  | some _ => [0x3A, 0x20]

/-- Members in the order in which they are written. -/
def arrange {α : Type} (style : Style) (m : List (Text × α)) : List (Text × α) :=
  if style.sortKeys then sortBy (fun p => p.1) m else m

/-- Parts up to the closing bracket, each on its own line when there is an indent. -/
def bodyText (style : Style) (level : ℕ) (closing : CodePoint) (parts : List Text) : Text :=
  PrefixCode.joinSep 0x2C (parts.map (fun p => newline style (level + 1) ++ p)) ++
    (newline style level ++ [closing])

/-- Parts between brackets. -/
def bracket (style : Style) (level : ℕ) (opening closing : CodePoint) (parts : List Text) : Text :=
  if parts.isEmpty then [opening, closing] else opening :: bodyText style level closing parts

/-- `float.__repr__` -/
def floatText : Binary64 → Text
  | .finite negative m => (floatToken negative m).text
  | .inf negative => if negative then py "-Infinity" else py "Infinity"
  | .nan => py "NaN"

mutual

/-- The text of a value that stands at a nesting level. -/
def render (style : Style) (level : ℕ) : Value → Text
  | .null => py "null"
  | .bool b => if b then py "true" else py "false"
  | .str s => writeString s
  | .int n => (intToken n).text
  | .float x => floatText x
  | .seq _ xs => bracket style level 0x5B 0x5D (renderItems style (level + 1) xs)
  | .obj m => bracket style level 0x7B 0x7D
      ((arrange style (renderMembers style (level + 1) m)).map Prod.snd)

/-- The texts of the items. -/
def renderItems (style : Style) (level : ℕ) : List Value → List Text
  | [] => []
  | x :: xs => render style level x :: renderItems style level xs

/-- The texts of the members, each with its key. -/
def renderMembers (style : Style) (level : ℕ) : Members → List (Text × Text)
  | [] => []
  | (key, x) :: m => (key, writeString key ++ keySeparator style ++ render style level x) ::
      renderMembers style level m

end

mutual

/-- Find the first number that `json.dumps` refuses. -/
def check : Value → Except ValueError Unit
  | .int n =>
      if maxStrDigits < (natDigits n.natAbs).length then
        .error ⟨"Exceeds the limit (4300 digits) for integer string conversion"⟩
      else .ok ()
  | .float x =>
      if x.isFinite then .ok () else .error ⟨"Out of range float values are not JSON compliant"⟩
  | .seq _ xs => checkItems xs
  | .obj m => checkMembers m
  | _ => .ok ()

/-- `check` on every item. -/
def checkItems : List Value → Except ValueError Unit
  | [] => .ok ()
  | x :: xs => do
      check x
      checkItems xs

/-- `check` on the value of every member. -/
def checkMembers : Members → Except ValueError Unit
  | [] => .ok ()
  | (_, x) :: m => do
      check x
      checkMembers m

end

/-- `json.dumps(value, ensure_ascii=False, allow_nan=False, ...)` -/
def dumps (style : Style) (value : Value) : Except ValueError Text := do
  check value
  return render style 0 value

mutual

/-- The value that its text reads back as. -/
def normal (style : Style) : Value → Value
  | .seq _ xs => .list (normalItems style xs)
  | .obj m => .obj (arrange style (normalMembers style m))
  | v => v

/-- `normal` of every item. -/
def normalItems (style : Style) : List Value → List Value
  | [] => []
  | x :: xs => normal style x :: normalItems style xs

/-- `normal` of the value of every member. -/
def normalMembers (style : Style) : Members → Members
  | [] => []
  | (key, x) :: m => (key, normal style x) :: normalMembers style m

end

/-! ## Lists and members pointwise -/

/-- The elements are rendered one by one. -/
theorem renderItems_eq_map (style : Style) (level : ℕ) (xs : List Value) :
    renderItems style level xs = xs.map (render style level) := by
  induction xs with
  | nil => rfl
  | cons x xs ih => rw [renderItems, ih, List.map_cons]

/-- The text of one member. -/
def memberText (style : Style) (level : ℕ) (p : Text × Value) : Text :=
  writeString p.1 ++ keySeparator style ++ render style level p.2

/-- The members are rendered one by one. -/
theorem renderMembers_eq_map (style : Style) (level : ℕ) (m : Members) :
    renderMembers style level m = m.map (fun p => (p.1, memberText style level p)) := by
  induction m with
  | nil => rfl
  | cons p m ih => rw [renderMembers, ih, List.map_cons]; rfl

/-- The elements are normalized one by one. -/
theorem normalItems_eq_map (style : Style) (xs : List Value) :
    normalItems style xs = xs.map (normal style) := by
  induction xs with
  | nil => rfl
  | cons x xs ih => rw [normalItems, ih, List.map_cons]

/-- The members are normalized one by one. -/
theorem normalMembers_eq_map (style : Style) (m : Members) :
    normalMembers style m = m.map (fun p => (p.1, normal style p.2)) := by
  induction m with
  | nil => rfl
  | cons p m ih => rw [normalMembers, ih, List.map_cons]

/-- A list passes when each element does. -/
theorem checkItems_eq_ok {xs : List Value} :
    checkItems xs = .ok () ↔ ∀ x ∈ xs, check x = .ok () := by
  induction xs with
  | nil => simp [checkItems]
  | cons x xs ih =>
      rw [checkItems, Except.bind_eq_ok, List.forall_mem_cons, ← ih]
      exact ⟨fun ⟨_, h, hs⟩ => ⟨h, hs⟩, fun ⟨h, hs⟩ => ⟨(), h, hs⟩⟩

/-- An object passes when the value of each member does. -/
theorem checkMembers_eq_ok {m : Members} :
    checkMembers m = .ok () ↔ ∀ p ∈ m, check p.2 = .ok () := by
  induction m with
  | nil => simp [checkMembers]
  | cons p m ih =>
      rw [checkMembers, Except.bind_eq_ok, List.forall_mem_cons, ← ih]
      exact ⟨fun ⟨_, h, hs⟩ => ⟨h, hs⟩, fun ⟨h, hs⟩ => ⟨(), h, hs⟩⟩

/-- Arranging the members commutes with mapping their values. -/
theorem arrange_map {α β : Type} (style : Style) (f : Text × α → β) (m : List (Text × α)) :
    arrange style (m.map (fun p => (p.1, f p))) = (arrange style m).map (fun p => (p.1, f p)) := by
  unfold arrange
  split_ifs
  · exact sortBy_map _ _ _ (fun _ => rfl) m
  · rfl

/-- Arranging adds and drops no member. -/
theorem mem_arrange {α : Type} {style : Style} {m : List (Text × α)} {p : Text × α} :
    p ∈ arrange style m ↔ p ∈ m := by
  unfold arrange
  split_ifs
  · exact mem_sortBy
  · rfl

/-- Arranged members repeat no key. -/
theorem arrange_keys_nodup {α : Type} {style : Style} {m : List (Text × α)}
    (h : (m.map Prod.fst).Nodup) : ((arrange style m).map Prod.fst).Nodup := by
  unfold arrange
  split_ifs
  · exact nodup_map_sortBy h
  · exact h

/-- Arranging keeps the number of members. -/
theorem length_arrange {α : Type} (style : Style) (m : List (Text × α)) :
    (arrange style m).length = m.length := by
  unfold arrange
  split_ifs
  · exact length_sortBy _ m
  · rfl

/-- An array is rendered as its elements in brackets. -/
theorem render_seq (style : Style) (level : ℕ) (kind : SeqKind) (xs : List Value) :
    render style level (.seq kind xs)
      = bracket style level 0x5B 0x5D (xs.map (render style (level + 1))) := by
  rw [render, renderItems_eq_map]

/-- An object is rendered as its arranged members in braces. -/
theorem render_obj (style : Style) (level : ℕ) (m : Members) :
    render style level (.obj m)
      = bracket style level 0x7B 0x7D
          ((arrange style m).map (memberText style (level + 1))) := by
  rw [render, renderMembers_eq_map, arrange_map, List.map_map]
  rfl

/-- The normal form of an array is a list of normal forms. -/
theorem normal_seq (style : Style) (kind : SeqKind) (xs : List Value) :
    normal style (.seq kind xs) = .list (xs.map (normal style)) := by
  rw [normal, normalItems_eq_map]

/-- The normal form of an object has its members arranged. -/
theorem normal_obj (style : Style) (m : Members) :
    normal style (.obj m)
      = .obj ((arrange style m).map (fun p => (p.1, normal style p.2))) := by
  rw [normal, normalMembers_eq_map, arrange_map]

/-! ## Reading back is stable -/

/-- Arranging twice is arranging once. -/
theorem arrange_arrange {α : Type} (style : Style) (m : List (Text × α)) :
    arrange style (arrange style m) = arrange style m := by
  unfold arrange
  split_ifs
  · exact sortBy_sortBy _ m
  · rfl

/-- A value and what it reads back as have one text. -/
theorem render_normal (style : Style) (v : Value) :
    ∀ level, render style level (normal style v) = render style level v := by
  induction v using Value.induct with
  | null => intro level; rfl
  | bool b => intro level; rfl
  | str s => intro level; rfl
  | int n => intro level; rfl
  | float x => intro level; rfl
  | seq kind xs ih =>
      intro level
      rw [normal_seq, render_seq, render_seq, List.map_map]
      congr 1
      exact List.map_congr_left (fun x hx => ih x hx (level + 1))
  | obj m ih =>
      intro level
      rw [normal_obj, render_obj, render_obj, arrange_map style (fun p => normal style p.2),
        arrange_arrange, List.map_map]
      congr 1
      refine List.map_congr_left (fun p hp => ?_)
      simp only [Function.comp_apply, memberText, ih p (mem_arrange.1 hp) (level + 1)]

/-- The normal form of what passes the check passes it. -/
theorem check_normal (style : Style) (v : Value) :
    check v = .ok () → check (normal style v) = .ok () := by
  induction v using Value.induct with
  | null => exact id
  | bool b => exact id
  | str s => exact id
  | int n => exact id
  | float x => exact id
  | seq kind xs ih =>
      intro h
      rw [check, checkItems_eq_ok] at h
      rw [normal_seq, check, checkItems_eq_ok]
      intro y hy
      obtain ⟨x, hx, rfl⟩ := List.mem_map.1 hy
      exact ih x hx (h x hx)
  | obj m ih =>
      intro h
      rw [check, checkMembers_eq_ok] at h
      rw [normal_obj, check, checkMembers_eq_ok]
      intro q hq
      obtain ⟨p, hp, rfl⟩ := List.mem_map.1 hq
      exact ih p (mem_arrange.1 hp) (h p (mem_arrange.1 hp))

/-- Reading back keeps keys distinct. -/
theorem distinct_normal (style : Style) (v : Value) : v.Distinct → (normal style v).Distinct := by
  induction v using Value.induct with
  | null => exact id
  | bool b => exact id
  | str s => exact id
  | int n => exact id
  | float x => exact id
  | seq kind xs ih =>
      intro h
      rw [Value.distinct_seq] at h
      rw [normal_seq, Value.distinct_seq]
      intro y hy
      obtain ⟨x, hx, rfl⟩ := List.mem_map.1 hy
      exact ih x hx (h x hx)
  | obj m ih =>
      intro h
      rw [Value.distinct_obj] at h
      rw [normal_obj, Value.distinct_obj, List.map_map]
      refine ⟨arrange_keys_nodup h.1, fun q hq => ?_⟩
      obtain ⟨p, hp, rfl⟩ := List.mem_map.1 hq
      exact ih p (mem_arrange.1 hp) (h.2 p (mem_arrange.1 hp))

/-- A normal form is its own normal form. -/
theorem normal_normal (style : Style) (v : Value) :
    normal style (normal style v) = normal style v := by
  induction v using Value.induct with
  | null => rfl
  | bool b => rfl
  | str s => rfl
  | int n => rfl
  | float x => rfl
  | seq kind xs ih =>
      rw [normal_seq, normal_seq, List.map_map]
      congr 1
      exact List.map_congr_left (fun x hx => ih x hx)
  | obj m ih =>
      rw [normal_obj, normal_obj, arrange_map style (fun p => normal style p.2), arrange_arrange,
        List.map_map]
      congr 1
      refine List.map_congr_left (fun p hp => ?_)
      simp only [Function.comp_apply, ih p (mem_arrange.1 hp)]

end Json
