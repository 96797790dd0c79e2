import DefinedQuant.Lib.Json.Size

/-!
# Identical values

Two values are identical when they differ in nothing but the order in which members were inserted:
an integer is not identical to the double of its value, nor `0.0` to `-0.0`. Sorting the members of
every dict decides it, so a text that is written sorted is one text exactly for identical values.
-/

namespace Json

namespace Value

mutual

/-- No tuple stands inside the value, as in everything that JSON text denotes. -/
def Listed : Value → Prop
  | .seq kind xs => kind = .list ∧ ListedItems xs
  | .obj m => ListedMembers m
  | _ => True

/-- `Listed` for every item. -/
def ListedItems : List Value → Prop
  | [] => True
  | x :: xs => Listed x ∧ ListedItems xs

/-- `Listed` for the value of every member. -/
def ListedMembers : Members → Prop
  | [] => True
  | (_, x) :: m => Listed x ∧ ListedMembers m

end

/-- An array is listed when it is a list of listed elements. -/
theorem listed_seq {kind : SeqKind} {xs : List Value} :
    Listed (.seq kind xs) ↔ kind = .list ∧ ∀ x ∈ xs, Listed x := by
  have hItems : ∀ xs : List Value, ListedItems xs ↔ ∀ x ∈ xs, Listed x := by
    intro xs
    induction xs with
    | nil => simp [ListedItems]
    | cons x xs ih => simp [ListedItems, ih]
  rw [Listed, hItems]

/-- An object is listed when its values are. -/
theorem listed_obj {m : Members} : Listed (.obj m) ↔ ∀ p ∈ m, Listed p.2 := by
  rw [Listed]
  induction m with
  | nil => simp [ListedMembers]
  | cons p m ih => simp [ListedMembers, ih]

mutual

/-- The values are equal, with the kind of every number, and the order of members disregarded. -/
def Identical : Value → Value → Prop
  | .seq kind xs, w => ∃ ys, w = .seq kind ys ∧ IdenticalItems xs ys
  | .obj m, w => ∃ n, w = .obj n ∧ m.length = n.length ∧ IdenticalMembers m n
  | v, w => w = v

/-- Identical item by item. -/
def IdenticalItems : List Value → List Value → Prop
  | [], ys => ys = []
  | x :: xs, ys => ∃ y ys', ys = y :: ys' ∧ Identical x y ∧ IdenticalItems xs ys'

/-- Every member has an identical one of the same key on the other side. -/
def IdenticalMembers : Members → Members → Prop
  | [], _ => True
  | (key, x) :: m, n => (∃ y, get? key n = some y ∧ Identical x y) ∧ IdenticalMembers m n

end

/-- Arrays are identical element by element. -/
theorem identicalItems_iff : ∀ {xs ys : List Value},
    IdenticalItems xs ys ↔ List.Forall₂ Identical xs ys
  | [], ys => by rw [IdenticalItems, List.forall₂_nil_left_iff]
  | x :: xs, ys => by
      rw [IdenticalItems, List.forall₂_cons_left_iff]
      constructor
      · rintro ⟨y, ys', rfl, hx, hxs⟩
        exact ⟨y, ys', hx, identicalItems_iff.1 hxs, rfl⟩
      · rintro ⟨y, ys', hx, hxs, rfl⟩
        exact ⟨y, ys', rfl, hx, identicalItems_iff.2 hxs⟩

/-- Objects are identical key by key. -/
theorem identicalMembers_iff {m n : Members} :
    IdenticalMembers m n ↔ ∀ p ∈ m, ∃ y, get? p.1 n = some y ∧ Identical p.2 y := by
  induction m with
  | nil => simp [IdenticalMembers]
  | cons p m ih => simp only [IdenticalMembers, ih, List.forall_mem_cons]

end Value

open Value

/-! ## Sorted members decide identity -/

section Normal

variable {style : Style}

/-- The members of a normal dict, before they are sorted. -/
def normalEntries (style : Style) (m : Members) : Members :=
  m.map (fun p => (p.1, normal style p.2))

/-- Normalizing the values keeps the keys. -/
theorem keys_normalEntries (m : Members) : (normalEntries style m).map Prod.fst =
    m.map Prod.fst := by
  simp [normalEntries, Function.comp_def]

/-- A normalized member comes of a member. -/
theorem mem_normalEntries {m : Members} {q : Text × Value} :
    q ∈ normalEntries style m ↔ ∃ p ∈ m, (p.1, normal style p.2) = q := List.mem_map

/-- In a style that sorts, the normal form of an object is sorted by its keys. -/
theorem normal_obj_sorted (h : style.sortKeys = true) (m : Members) :
    normal style (.obj m) = .obj (sortBy Prod.fst (normalEntries style m)) := by
  have hArrange := arrange_map style (fun p : Text × Value => normal style p.2) m
  rw [normal_obj, ← hArrange, arrange, if_pos h]
  rfl

/-- Entries under distinct keys sort to one list exactly when they are permutations of one another. -/
theorem sortBy_key_eq_iff {m n : Members} (hm : (m.map Prod.fst).Nodup) :
    sortBy Prod.fst m = sortBy Prod.fst n ↔ m.Perm n := by
  constructor
  · intro h
    exact (sortBy_perm Prod.fst m).symm.trans (h ▸ sortBy_perm Prod.fst n)
  · intro h
    exact sortBy_eq_of_perm h (fun a ha b hb hab => List.inj_on_of_nodup_map hm ha hb hab)

/-- Identical dicts have the same entries. -/
theorem perm_of_identicalMembers {m n : Members} (hm : (m.map Prod.fst).Nodup)
    (hLength : m.length = n.length)
    (h : ∀ p ∈ m, ∃ y, get? p.1 n = some y ∧ normal style p.2 = normal style y) :
    (normalEntries style m).Perm (normalEntries style n) := by
  have hNodup : (normalEntries style m).Nodup :=
    List.Nodup.of_map Prod.fst ((keys_normalEntries m).symm ▸ hm)
  have hSubset : normalEntries style m ⊆ normalEntries style n := by
    intro q hq
    obtain ⟨p, hp, rfl⟩ := mem_normalEntries.1 hq
    obtain ⟨y, hy, hSame⟩ := h p hp
    exact mem_normalEntries.2 ⟨(p.1, y), mem_of_get? hy, by rw [hSame]⟩
  apply (List.subperm_of_subset hNodup hSubset).perm_of_length_le
  simp [normalEntries, hLength]

/-- Dicts with the same entries have every key in common. -/
theorem get?_of_perm {m n : Members} (hn : (n.map Prod.fst).Nodup)
    (h : (normalEntries style m).Perm (normalEntries style n)) {p : Text × Value} (hp : p ∈ m) :
    ∃ y, (p.1, y) ∈ n ∧ get? p.1 n = some y ∧ normal style p.2 = normal style y := by
  obtain ⟨q, hq, hEq⟩ := mem_normalEntries.1 (h.mem_iff.1 (mem_normalEntries.2 ⟨p, hp, rfl⟩))
  obtain ⟨hKey, hValue⟩ := Prod.mk.inj hEq
  refine ⟨q.2, ?_, ?_, hValue.symm⟩
  · rw [← hKey]
    exact hq
  · rw [← hKey]
    exact (get?_eq_some_iff hn).2 hq

/-- Identical values have one normal form in a style that sorts, by induction on the first. -/
theorem normal_eq_of_identical (hStyle : style.sortKeys = true) (v : Value) :
    ∀ {w : Value}, v.Distinct → Identical v w → normal style v = normal style w := by
  induction v using Value.induct with
  | null => exact fun _ h => by rw [h]
  | bool b => exact fun _ h => by rw [h]
  | str s => exact fun _ h => by rw [h]
  | int n => exact fun _ h => by rw [h]
  | float x => exact fun _ h => by rw [h]
  | seq kind xs ih =>
      rintro w hv ⟨ys, rfl, hItems⟩
      rw [distinct_seq] at hv
      rw [identicalItems_iff] at hItems
      have hMap : xs.map (normal style) = ys.map (normal style) := by
        rw [← List.forall₂_eq_eq_eq, List.forall₂_map_left_iff, List.forall₂_map_right_iff]
        exact hItems.imp_mem (fun x hx y _ hxy => ih x hx (hv x hx) hxy)
      rw [normal_seq, normal_seq, hMap]
  | obj m ih =>
      rintro w hv ⟨n, rfl, hLength, hMembers⟩
      rw [distinct_obj] at hv
      rw [identicalMembers_iff] at hMembers
      rw [normal_obj_sorted hStyle, normal_obj_sorted hStyle]
      refine congrArg Value.obj ((sortBy_key_eq_iff ((keys_normalEntries m).symm ▸ hv.1)).2 ?_)
      apply perm_of_identicalMembers hv.1 hLength
      intro p hp
      obtain ⟨y, hy, hSame⟩ := hMembers p hp
      exact ⟨y, hy, ih p hp (hv.2 p hp) hSame⟩

/-- Listed values with one normal form are identical. -/
theorem identical_of_normal_eq (hStyle : style.sortKeys = true) (v : Value) :
    ∀ {w : Value}, v.Listed → w.Listed → v.Distinct → w.Distinct → normal style v = normal style w →
      Identical v w := by
  -- By induction on the first value; a normal form keeps the kind of its value.
  induction v using Value.induct with
  | null => intro w _ _ _ _ h; cases w <;> first | rfl | cases h
  | bool b => intro w _ _ _ _ h; cases w <;> first | exact h.symm | cases h
  | str s => intro w _ _ _ _ h; cases w <;> first | exact h.symm | cases h
  | int n => intro w _ _ _ _ h; cases w <;> first | exact h.symm | cases h
  | float x => intro w _ _ _ _ h; cases w <;> first | exact h.symm | cases h
  | seq kind xs ih =>
      intro w hv hw hdv hdw h
      cases w with
      | seq kind' ys =>
          obtain ⟨rfl, hxs⟩ := listed_seq.1 hv
          obtain ⟨rfl, hys⟩ := listed_seq.1 hw
          rw [distinct_seq] at hdv hdw
          rw [normal_seq, normal_seq] at h
          have hMap : xs.map (normal style) = ys.map (normal style) := by
            injection h
          rw [← List.forall₂_eq_eq_eq, List.forall₂_map_left_iff, List.forall₂_map_right_iff]
            at hMap
          refine ⟨ys, rfl, identicalItems_iff.2 (hMap.imp_mem ?_)⟩
          exact fun x hx y hy hxy => ih x hx (hxs x hx) (hys y hy) (hdv x hx) (hdw y hy) hxy
      | obj n =>
          rw [normal_seq, normal_obj] at h
          cases h
      | _ => rw [normal_seq] at h; cases h
  | obj m ih =>
      intro w hv hw hdv hdw h
      cases w with
      | obj n =>
          rw [listed_obj] at hv hw
          rw [distinct_obj] at hdv hdw
          rw [normal_obj_sorted hStyle, normal_obj_sorted hStyle] at h
          -- Sorted by distinct keys, equal entries are the same entries in another order.
          have hPerm : (normalEntries style m).Perm (normalEntries style n) :=
            (sortBy_key_eq_iff ((keys_normalEntries m).symm ▸ hdv.1)).1 (by injection h)
          have hLength : m.length = n.length := by
            simpa [normalEntries] using hPerm.length_eq
          refine ⟨n, rfl, hLength, identicalMembers_iff.2 (fun p hp => ?_)⟩
          obtain ⟨y, hMem, hGet, hSame⟩ := get?_of_perm hdw.1 hPerm hp
          exact ⟨y, hGet, ih p hp (hv p hp) (hw _ hMem) (hdv.2 p hp) (hdw.2 _ hMem) hSame⟩
      | seq kind ys =>
          rw [normal_seq, normal_obj] at h
          cases h
      | _ => rw [normal_obj] at h; cases h

/-- Values have one sorted form exactly when they are identical. -/
theorem normal_eq_iff (hStyle : style.sortKeys = true) {v w : Value} (hv : v.Listed) (hw : w.Listed)
    (hdv : v.Distinct) (hdw : w.Distinct) : normal style v = normal style w ↔ Identical v w :=
  ⟨identical_of_normal_eq hStyle v hv hw hdv hdw, normal_eq_of_identical hStyle v hdv⟩

/-- What is read back holds lists only. -/
theorem listed_normal (style : Style) (v : Value) : (normal style v).Listed := by
  induction v using Value.induct with
  | null => trivial
  | bool b => trivial
  | str s => trivial
  | int n => trivial
  | float x => trivial
  | seq kind xs ih =>
      rw [normal_seq]
      refine listed_seq.2 ⟨rfl, fun y hy => ?_⟩
      obtain ⟨x, hx, rfl⟩ := List.mem_map.1 hy
      exact ih x hx
  | obj m ih =>
      rw [normal_obj, listed_obj]
      intro q hq
      obtain ⟨p, hp, rfl⟩ := List.mem_map.1 hq
      exact ih p (mem_arrange.1 hp)

/-- A value is identical to its sorted form. -/
theorem identical_normal (hStyle : style.sortKeys = true) {v : Value} (hv : v.Listed)
    (hdv : v.Distinct) : Identical (normal style v) v :=
  (normal_eq_iff hStyle (listed_normal style v) hv (distinct_normal style v hdv) hdv).1
    (normal_normal style v)

end Normal

/-! ## Every style writes text that can be encoded -/

section Encodable

variable {style : Style}

/-- Written digits are plain ASCII. -/
theorem isAscii_digitsText (ds : List ℕ) : Text.IsAscii (digitsText ds) := by
  intro c hc
  obtain ⟨d, -, rfl⟩ := List.mem_map.1 hc
  show 48 + d % 10 < 0x80
  omega

/-- So is a number token. -/
theorem isAscii_numberText (t : NumberToken) : Text.IsAscii t.text := by
  have hSign : Text.IsAscii (if t.negative then [0x2D] else []) := by
    split_ifs <;> decide
  have hFraction : Text.IsAscii (fractionText t.fraction) := by
    cases t.fraction with
    | none => decide
    | some ds => exact List.forall_mem_cons.2 ⟨by decide, isAscii_digitsText ds⟩
  have hExponent : Text.IsAscii (exponentText t.exponent) := by
    cases t.exponent with
    | none => decide
    | some e =>
        refine List.forall_mem_cons.2 ⟨by decide, List.forall_mem_cons.2 ⟨?_, isAscii_digitsText _⟩⟩
        split_ifs <;> decide
  unfold NumberToken.text
  exact List.forall_mem_append.2 ⟨List.forall_mem_append.2
    ⟨List.forall_mem_append.2 ⟨hSign, isAscii_digitsText _⟩, hFraction⟩, hExponent⟩

/-- So is a written double. -/
theorem isAscii_floatText (x : Binary64) : Text.IsAscii (floatText x) := by
  cases x with
  | finite negative m => exact isAscii_numberText _
  | inf negative =>
      rw [floatText]
      split_ifs <;> decide
  | nan => rw [floatText]; decide

/-- So is a line break with its indentation. -/
theorem isAscii_newline (style : Style) (level : ℕ) : Text.IsAscii (newline style level) := by
  unfold newline
  cases style.indent with
  | none => exact fun c hc => absurd hc List.not_mem_nil
  | some width =>
      refine List.forall_mem_cons.2 ⟨by decide, fun c hc => ?_⟩
      rw [List.eq_of_mem_replicate hc]
      decide

/-- So is what separates a key from its value. -/
theorem isAscii_keySeparator (style : Style) : Text.IsAscii (keySeparator style) := by
  unfold keySeparator
  split <;> decide

/-- Brackets, separators and indents add ASCII only. -/
theorem encodable_bracket_of_parts {level : ℕ} {opening closing : CodePoint} {parts : List Text}
    (hOpening : ¬ opening.IsSurrogate) (hClosing : ¬ closing.IsSurrogate)
    (h : ∀ part ∈ parts, Text.Encodable part) :
    Text.Encodable (bracket style level opening closing parts) := by
  have hStop : Text.Encodable [closing] := Text.encodable_cons.2 ⟨hClosing, Text.encodable_nil⟩
  unfold bracket
  split_ifs
  · exact Text.encodable_cons.2 ⟨hOpening, hStop⟩
  · refine Text.encodable_cons.2 ⟨hOpening, ?_⟩
    unfold bodyText
    rw [Text.encodable_append, encodable_joinSep (by decide)]
    refine ⟨?_, ?_⟩
    · intro part hPart
      obtain ⟨p, hp, rfl⟩ := List.mem_map.1 hPart
      exact Text.encodable_append.2 ⟨(isAscii_newline style _).encodable, h p hp⟩
    · exact Text.encodable_append.2 ⟨(isAscii_newline style _).encodable, hStop⟩

/-- A member encodes when its key and its value do. -/
theorem encodable_memberText_of_parts {level : ℕ} {p : Text × Value} (hKey : Text.Encodable p.1)
    (hValue : Text.Encodable (render style level p.2)) :
    Text.Encodable (memberText style level p) :=
  Text.encodable_append.2 ⟨Text.encodable_append.2
    ⟨writeString_encodable hKey, (isAscii_keySeparator style).encodable⟩, hValue⟩

end Encodable

end Json
