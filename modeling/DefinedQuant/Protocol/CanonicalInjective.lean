import DefinedQuant.Lib.Except
import DefinedQuant.Protocol.Canonical

/-!
# Canonical encoding is injective

Two accepted values have one canonical encoding exactly when they are structurally equal. The proof
goes through the three stages of the encoder. Number texts agree exactly when the numbers do. Tagged
trees agree exactly when the values do, where the tag says the kind and the sorted entries forget
the insertion order and nothing else. Written trees are a self-delimiting code, and UTF-8 is
injective.
-/

namespace Canonical

open Json

/-! ## Numbers -/

/-- The exact value of an `int` or a finite `float`. -/
def numberValue : ℤ ⊕ Binary64 → Option ℚ
  | .inl n => some n
  | .inr x => x.toRat?

/-- A double that is zero is the positive one. -/
def Normalized (x : Binary64) : Prop := x.isZero = true → x = Binary64.zero

/-- Folding the negative zero leaves a normalized number. -/
theorem normalized_ite (x : Binary64) : Normalized (if x.isZero then Binary64.zero else x) := by
  by_cases h : x.isZero = true
  · rw [if_pos h]
    exact fun _ => rfl
  · rw [if_neg h]
    exact fun h' => absurd h' h

/-- Normalizing the sign of zero keeps the value. -/
theorem toRat?_ite (x : Binary64) :
    (if x.isZero then Binary64.zero else x).toRat? = x.toRat? := by
  by_cases h : x.isZero = true
  · rw [if_pos h]
    cases x with
    | nan => cases h
    | inf negative => cases h
    | finite negative m =>
        have hm : m.val = 0 := by simpa [Binary64.isZero] using h
        rw [Binary64.zero, Binary64.toRat?_eq_some_of_finite, Binary64.toRat?_eq_some_of_finite, hm,
          Binary64.scaled_zero, Nat.cast_zero, zero_div, mul_zero, mul_zero]
  · rw [if_neg h]

/-- Normalized doubles of one value are one double. -/
theorem Normalized.eq_of_toRat? {x y : Binary64} {q : ℚ} (hx : Normalized x) (hy : Normalized y)
    (hxq : x.toRat? = some q) (hyq : y.toRat? = some q) : x = y := by
  cases x with
  | nan => cases hxq
  | inf negative => cases hxq
  | finite a m =>
      cases y with
      | nan => cases hyq
      | inf negative => cases hyq
      | finite b n =>
          obtain ⟨rfl, rfl | hZero⟩ := Binary64.eq_of_toRat?_eq (hxq.trans hyq.symm)
          · rfl
          · have hIsZero : ∀ c, (Binary64.finite c m).isZero = true := fun c => by
              simp [Binary64.isZero, hZero]
            rw [hx (hIsZero a), hy (hIsZero b)]

/-- An accepted number is a double of its own value. -/
theorem acceptedDouble_spec {value : ℤ ⊕ Binary64} {x : Binary64}
    (h : acceptedDouble value = .ok x) :
    ∃ q, x.toRat? = some q ∧ numberValue value = some q := by
  cases value with
  | inl n =>
      simp only [acceptedDouble] at h
      split_ifs at h with hSafe
      cases h
      have hn : n.natAbs < 2 ^ 53 := by unfold maxSafeInteger at hSafe; omega
      exact ⟨n, Binary64.toRat?_ofInt hn, rfl⟩
  | inr y =>
      simp only [acceptedDouble] at h
      split_ifs at h with hFinite hSafe
      cases h
      obtain ⟨q, hq⟩ := @Binary64.exists_toRat?_of_isFinite x (by simpa using hFinite)
      exact ⟨q, hq, hq⟩

/-- An accepted number's text packs a normalized double of the number's value. -/
theorem numberHex_spec {value : ℤ ⊕ Binary64} {h : Text} (hOk : numberHex value = .ok h) :
    ∃ x q, Normalized x ∧ x.toRat? = some q ∧ numberValue value = some q ∧ h = x.pack.hex := by
  obtain ⟨y, hy, hh⟩ := Except.bind_eq_ok.1 hOk
  obtain ⟨q, hyq, hq⟩ := acceptedDouble_spec hy
  rw [Except.pure_eq_ok] at hh
  exact ⟨_, q, normalized_ite y, (toRat?_ite y).trans hyq, hq, hh.symm⟩

/-- Accepted numbers have one text exactly when they have one value. -/
theorem numberHex_eq_iff {a b : ℤ ⊕ Binary64} {g h : Text} (ha : numberHex a = .ok g)
    (hb : numberHex b = .ok h) :
    g = h ↔ ∃ q, numberValue a = some q ∧ numberValue b = some q := by
  obtain ⟨x, p, hxn, hxp, hap, rfl⟩ := numberHex_spec ha
  obtain ⟨y, q, hyn, hyq, hbq, rfl⟩ := numberHex_spec hb
  constructor
  · intro hEq
    have hxy : x = y := Binary64.pack_injective (Bytes.hex_injective hEq)
    have hpq : p = q := by
      have hSome := hxp.symm.trans ((congrArg Binary64.toRat? hxy).trans hyq)
      exact Option.some.inj hSome
    exact ⟨p, hap, hpq ▸ hbq⟩
  · rintro ⟨r, har, hbr⟩
    have hpr : p = r := Option.some.inj (hap.symm.trans har)
    have hqr : q = r := Option.some.inj (hbq.symm.trans hbr)
    subst hpr hqr
    rw [hxn.eq_of_toRat? hyn hxp hyq]

/-! ## Tagged trees

What each kind of value tags to. A dict's entries are those of its members in UTF-8 key order.
-/

/-- A text encodes exactly when it holds no surrogate, and then as its octets. -/
theorem validUtf8_eq_ok {s : Text} {bs : Bytes} :
    validUtf8 s = .ok bs ↔ Text.Encodable s ∧ utf8Raw s = bs := by
  unfold validUtf8
  rw [← utf8_eq_some_iff]
  cases h : utf8 s with
  | none => simp
  | some bytes => simp

/-- The number of a numeric value. -/
def asNumber : Value → Option (ℤ ⊕ Binary64)
  | .int n => some (.inl n)
  | .float x => some (.inr x)
  | _ => none

/-- The exact value of a number, read off the value or off its two kinds. -/
theorem number?_of_asNumber {v : Value} {a : ℤ ⊕ Binary64} (h : asNumber v = some a) :
    v.number? = numberValue a := by
  cases v <;> cases h <;> rfl

/-- A number is tagged with the hexadecimal of its value, whether it is an integer or a double. -/
theorem taggedTree_number {v : Value} {a : ℤ ⊕ Binary64} (hv : asNumber v = some a) {t : Tree} :
    taggedTree v = .ok t ↔
      ∃ h, numberHex a = .ok h ∧ .list [.str (py "number"), .str h] = t := by
  cases v <;> cases hv <;> simp only [taggedTree, Except.bind_eq_ok, Except.pure_eq_ok]

/-- The elements of an array are tagged one by one, in their order. -/
theorem taggedItems_eq_ok : ∀ {xs : List Value} {ts : List Tree},
    taggedItems xs = .ok ts ↔ List.Forall₂ (fun x t => taggedTree x = .ok t) xs ts
  | [], ts => by
      rw [taggedItems, Except.pure_eq_ok, List.forall₂_nil_left_iff, eq_comm]
  | x :: xs, ts => by
      simp only [taggedItems, Except.bind_eq_ok, Except.pure_eq_ok, List.forall₂_cons_left_iff]
      constructor
      · rintro ⟨t, ht, ts', hts', rfl⟩
        exact ⟨t, ts', ht, taggedItems_eq_ok.1 hts', rfl⟩
      · rintro ⟨t, ts', ht, hts', rfl⟩
        exact ⟨t, ht, ts', taggedItems_eq_ok.2 hts', rfl⟩

/-- An array is tagged with the trees of its elements; lists and tuples alike. -/
theorem taggedTree_seq {kind : SeqKind} {xs : List Value} {t : Tree} :
    taggedTree (.seq kind xs) = .ok t ↔
      ∃ ts, List.Forall₂ (fun x t => taggedTree x = .ok t) xs ts ∧
        .list [.str (py "array"), .list ts] = t := by
  simp only [taggedTree, Except.bind_eq_ok, Except.pure_eq_ok, taggedItems_eq_ok]

/-- The members are prepared for sorting when every key encodes. -/
theorem taggedMembers_eq_ok : ∀ {m : Members} {ks : List (Bytes × Text × Except ValueError Tree)},
    taggedMembers m = .ok ks ↔ (∀ p ∈ m, Text.Encodable p.1) ∧
      ks = m.map (fun p => (utf8Raw p.1, p.1, taggedTree p.2))
  | [], ks => by
      simp only [taggedMembers, Except.pure_eq_ok, List.map_nil, List.not_mem_nil, false_imp_iff,
        implies_true, true_and]
      exact eq_comm
  | (key, item) :: m, ks => by
      simp only [taggedMembers, Except.bind_eq_ok, Except.pure_eq_ok, validUtf8_eq_ok,
        taggedMembers_eq_ok (m := m), List.forall_mem_cons, List.map_cons]
      constructor
      · rintro ⟨bs, ⟨hKey, rfl⟩, ks', ⟨hKeys, rfl⟩, rfl⟩
        exact ⟨⟨hKey, hKeys⟩, rfl⟩
      · rintro ⟨⟨hKey, hKeys⟩, rfl⟩
        exact ⟨_, ⟨hKey, rfl⟩, _, ⟨hKeys, rfl⟩, rfl⟩

/-- A member tags to an entry of its key. -/
def TagsTo (p : Text × Value) (e : Tree) : Prop :=
  ∃ t, taggedTree p.2 = .ok t ∧ e = Tree.entry p.1 t

/-- The members in UTF-8 key order. -/
def sortedMembers (m : Members) : Members := sortBy (fun p => utf8Raw p.1) m

/-- An object is tagged with its members in the order of the octets of their keys. -/
theorem taggedTree_obj {m : Members} {t : Tree} :
    taggedTree (.obj m) = .ok t ↔ (∀ p ∈ m, Text.Encodable p.1) ∧
      ∃ es, List.Forall₂ TagsTo (sortedMembers m) es ∧
        .list [.str (py "object"), .list es] = t := by
  have hSort : sortBy (fun p : Bytes × Text × Except ValueError Tree => p.1)
      (m.map (fun p => (utf8Raw p.1, p.1, taggedTree p.2)))
        = (sortedMembers m).map (fun p => (utf8Raw p.1, p.1, taggedTree p.2)) :=
    sortBy_map _ _ _ (fun _ => rfl) m
  simp only [taggedTree, Except.bind_eq_ok, Except.pure_eq_ok, taggedMembers_eq_ok,
    Except.mapM_eq_ok]
  constructor
  · rintro ⟨ks, ⟨hKeys, rfl⟩, es, hes, rfl⟩
    rw [hSort, List.forall₂_map_left_iff] at hes
    refine ⟨hKeys, es, hes.imp ?_, rfl⟩
    rintro p e ⟨t, ht, rfl⟩
    exact ⟨t, ht, rfl⟩
  · rintro ⟨hKeys, es, hes, rfl⟩
    refine ⟨_, ⟨hKeys, rfl⟩, es, ?_, rfl⟩
    rw [hSort, List.forall₂_map_left_iff]
    refine hes.imp ?_
    rintro p e ⟨t, ht, rfl⟩
    exact ⟨t, ht, rfl⟩

/-! ### The tag tells the kind -/

/-- The tag of a value's tree. -/
def kindTag : Value → String
  | .null => "null"
  | .bool _ => "boolean"
  | .str _ => "string"
  | .int _ => "number"
  | .float _ => "number"
  | .seq _ _ => "array"
  | .obj _ => "object"

/-- A tagged tree starts with the tag of its value. -/
theorem taggedTree_tag {w : Value} {t : Tree} (h : taggedTree w = .ok t) :
    ∃ rest, t = .list (.str (py (kindTag w)) :: rest) := by
  cases w with
  | null =>
      rw [taggedTree, Except.pure_eq_ok] at h
      exact ⟨_, h.symm⟩
  | bool b =>
      rw [taggedTree, Except.pure_eq_ok] at h
      exact ⟨_, h.symm⟩
  | str s =>
      simp only [taggedTree, Except.bind_eq_ok, Except.pure_eq_ok] at h
      obtain ⟨_, -, rfl⟩ := h
      exact ⟨_, rfl⟩
  | int n =>
      obtain ⟨g, -, rfl⟩ := (taggedTree_number rfl).1 h
      exact ⟨_, rfl⟩
  | float x =>
      obtain ⟨g, -, rfl⟩ := (taggedTree_number rfl).1 h
      exact ⟨_, rfl⟩
  | seq kind xs =>
      obtain ⟨ts, -, rfl⟩ := taggedTree_seq.1 h
      exact ⟨_, rfl⟩
  | obj m =>
      obtain ⟨-, es, -, rfl⟩ := taggedTree_obj.1 h
      exact ⟨_, rfl⟩

/-- The tag of a tree is the kind of the value it comes from. -/
theorem kindTag_of_taggedTree {w : Value} {tag : String} {rest : List Tree}
    (h : taggedTree w = .ok (.list (.str (py tag) :: rest))) : kindTag w = tag := by
  obtain ⟨rest', hEq⟩ := taggedTree_tag h
  have hTag : py tag = py (kindTag w) ∧ rest = rest' := by simpa using hEq
  exact (py_injective hTag.1).symm

/-- Only null has the tree of null. -/
theorem eq_null_of_taggedTree {w : Value}
    (h : taggedTree w = .ok (.list [.str (py "null")])) : w = .null := by
  have hTag := kindTag_of_taggedTree h
  cases w <;> simp only [kindTag, String.reduceEq] at hTag
  rfl

/-- Only the boolean itself has the tree of a boolean. -/
theorem eq_bool_of_taggedTree {w : Value} {b : Bool}
    (h : taggedTree w = .ok (.list [.str (py "boolean"), .bool b])) : w = .bool b := by
  have hTag := kindTag_of_taggedTree h
  cases w <;> simp only [kindTag, String.reduceEq] at hTag
  simpa [taggedTree] using h

/-- Only the text itself has the tree of a text. -/
theorem eq_str_of_taggedTree {w : Value} {s : Text}
    (h : taggedTree w = .ok (.list [.str (py "string"), .str s])) : w = .str s := by
  have hTag := kindTag_of_taggedTree h
  cases w <;> simp only [kindTag, String.reduceEq] at hTag
  simp only [taggedTree, Except.bind_eq_ok, Except.pure_eq_ok] at h
  obtain ⟨_, -, hEq⟩ := h
  simpa using hEq

/-- Only a number has the tree of a number, and it has the hexadecimal the tree shows. -/
theorem number_of_taggedTree {w : Value} {g : Text}
    (h : taggedTree w = .ok (.list [.str (py "number"), .str g])) :
    ∃ b, asNumber w = some b ∧ numberHex b = .ok g := by
  have hNumber : ∀ {b}, asNumber w = some b → ∃ b, asNumber w = some b ∧ numberHex b = .ok g := by
    intro b hb
    obtain ⟨g', hg', hEq⟩ := (taggedTree_number hb).1 h
    have hgg : g' = g := by simpa using hEq
    exact ⟨b, hb, hgg ▸ hg'⟩
  have hTag := kindTag_of_taggedTree h
  cases w <;> simp only [kindTag, String.reduceEq] at hTag
  · exact hNumber rfl
  · exact hNumber rfl

/-- Only an array has the tree of an array, and its elements have the trees inside. -/
theorem seq_of_taggedTree {w : Value} {ts : List Tree}
    (h : taggedTree w = .ok (.list [.str (py "array"), .list ts])) :
    ∃ kind ys, w = .seq kind ys ∧ List.Forall₂ (fun y t => taggedTree y = .ok t) ys ts := by
  have hTag := kindTag_of_taggedTree h
  cases w <;> simp only [kindTag, String.reduceEq] at hTag
  obtain ⟨ts', hts', hEq⟩ := taggedTree_seq.1 h
  have htt : ts' = ts := by simpa using hEq
  exact ⟨_, _, rfl, htt ▸ hts'⟩

/-- Only an object has the tree of an object, and its sorted members have the trees inside. -/
theorem obj_of_taggedTree {w : Value} {es : List Tree}
    (h : taggedTree w = .ok (.list [.str (py "object"), .list es])) :
    ∃ n, w = .obj n ∧ List.Forall₂ TagsTo (sortedMembers n) es := by
  have hTag := kindTag_of_taggedTree h
  cases w <;> simp only [kindTag, String.reduceEq] at hTag
  obtain ⟨-, es', hes', hEq⟩ := taggedTree_obj.1 h
  have hee : es' = es := by simpa using hEq
  exact ⟨_, rfl, hee ▸ hes'⟩

/-! ### Trees agree exactly for equal values -/

/-- Two lists of values are the same when they are the same element by element. -/
theorem sameItems_iff : ∀ {xs ys : List Value}, SameItems xs ys ↔ List.Forall₂ Same xs ys
  | [], ys => by rw [SameItems, List.forall₂_nil_left_iff]
  | x :: xs, ys => by
      rw [SameItems, List.forall₂_cons_left_iff]
      constructor
      · rintro ⟨y, ys', rfl, hx, hxs⟩
        exact ⟨y, ys', hx, sameItems_iff.1 hxs, rfl⟩
      · rintro ⟨y, ys', hx, hxs, rfl⟩
        exact ⟨y, ys', rfl, hx, sameItems_iff.2 hxs⟩

/-- Two objects agree on the members of the first when the second has the same value at each key. -/
theorem sameMembers_iff {m n : Members} :
    SameMembers m n ↔ ∀ p ∈ m, ∃ y, Value.get? p.1 n = some y ∧ Same p.2 y := by
  induction m with
  | nil => simp [SameMembers]
  | cons p m ih => simp only [SameMembers, ih, List.forall_mem_cons]

/-- Dicts with the same entries have equal members. -/
theorem sameMembers_of_entries {m n : Members} {es : List Tree} (hn : (n.map Prod.fst).Nodup)
    (hm : List.Forall₂ TagsTo (sortedMembers m) es) (hn' : List.Forall₂ TagsTo (sortedMembers n) es)
    (ih : ∀ p ∈ m, ∀ y t, taggedTree p.2 = .ok t → taggedTree y = .ok t → (∃ q ∈ n, q.2 = y) →
      Same p.2 y) :
    m.length = n.length ∧ SameMembers m n := by
  have hMatch := List.forall₂_common hm hn'
  constructor
  · have hLen := hMatch.length_eq
    simpa [sortedMembers] using hLen
  · rw [sameMembers_iff]
    intro p hp
    obtain ⟨q, hq, e, ⟨t, ht, rfl⟩, ⟨u, hu, hEntry⟩⟩ :=
      hMatch.exists_right (x := p) (mem_sortBy.2 hp)
    have hqn : q ∈ n := mem_sortBy.1 hq
    have hEq : p.1 = q.1 ∧ t = u := by simpa [Tree.entry] using hEntry
    refine ⟨q.2, ?_, ih p hp q.2 t ht (hEq.2 ▸ hu) ⟨q, hqn, rfl⟩⟩
    rw [hEq.1]
    exact (Value.get?_eq_some_iff hn).2 hqn

/-- The members of `n` taken in the order of `m`. -/
def alignTo (n m : Members) : Members :=
  m.map (fun p => (p.1, (Value.get? p.1 n).getD .null))

/-- Equal dicts sort to the same keys: the second one's sorted members are the first one's, with the
second one's values. -/
theorem sortedMembers_align {m n : Members} (hm : (m.map Prod.fst).Nodup)
    (hn : (n.map Prod.fst).Nodup) (hLen : m.length = n.length)
    (hKeys : ∀ p ∈ m, ∃ y, Value.get? p.1 n = some y) (hEnc : ∀ p ∈ n, Text.Encodable p.1) :
    sortedMembers n = alignTo n (sortedMembers m) := by
  have hAlignKeys : (alignTo n m).map Prod.fst = m.map Prod.fst := by
    simp [alignTo, Function.comp_def]
  have hSubset : alignTo n m ⊆ n := by
    intro q hq
    obtain ⟨p, hp, rfl⟩ := List.mem_map.1 hq
    obtain ⟨y, hy⟩ := hKeys p hp
    rw [hy]
    exact Value.mem_of_get? hy
  have hNodup : (alignTo n m).Nodup := List.Nodup.of_map Prod.fst (hAlignKeys ▸ hm)
  have hPerm : (alignTo n m).Perm n :=
    (List.subperm_of_subset hNodup hSubset).perm_of_length_le (by simp [alignTo, hLen])
  have hSorted : sortBy (fun p => utf8Raw p.1) (alignTo n m) = alignTo n (sortedMembers m) :=
    sortBy_map _ _ _ (fun _ => rfl) m
  rw [← hSorted]
  refine (sortBy_eq_of_perm hPerm ?_).symm
  intro a ha b hb hab
  have hKey : a.1 = b.1 := by
    have hRaw : ∀ q ∈ alignTo n m, utf8 q.1 = some (utf8Raw q.1) := fun q hq =>
      utf8_eq_some_iff.2 ⟨hEnc q (hSubset hq), rfl⟩
    exact utf8_inj (hRaw a ha) (hab ▸ hRaw b hb)
  have hVal := (Value.get?_eq_some_iff hn).2 (hSubset ha)
  rw [hKey] at hVal
  have hSnd : a.2 = b.2 :=
    Option.some.inj (hVal.symm.trans ((Value.get?_eq_some_iff hn).2 (hSubset hb)))
  exact Prod.ext hKey hSnd

/-- The number case: trees agree exactly when the other value is a number of the same value. -/
theorem taggedNumber_eq_iff {v w : Value} {a : ℤ ⊕ Binary64} {t u : Tree}
    (ha : asNumber v = some a) (hv : taggedTree v = .ok t) (hw : taggedTree w = .ok u) :
    t = u ↔ ∃ q, numberValue a = some q ∧ w.number? = some q := by
  obtain ⟨g, hg, rfl⟩ := (taggedTree_number ha).1 hv
  constructor
  · rintro rfl
    obtain ⟨b, hb, hbg⟩ := number_of_taggedTree hw
    rw [number?_of_asNumber hb]
    exact (numberHex_eq_iff hg hbg).1 rfl
  · rintro ⟨q, haq, hwq⟩
    obtain ⟨b, hb⟩ : ∃ b, asNumber w = some b := by
      cases w <;> first | exact ⟨_, rfl⟩ | cases hwq
    obtain ⟨h, hh, rfl⟩ := (taggedTree_number hb).1 hw
    rw [number?_of_asNumber hb] at hwq
    rw [(numberHex_eq_iff hg hh).2 ⟨q, haq, hwq⟩]

/-- Accepted values have one tagged tree exactly when they are structurally equal. -/
theorem taggedTree_eq_iff (v : Value) : ∀ {w : Value} {t u : Tree}, v.Distinct → w.Distinct →
    taggedTree v = .ok t → taggedTree w = .ok u → (t = u ↔ Same v w) := by
  -- By induction on the first value. Equal trees have equal tags, so that the second value is of
  -- the same kind; conversely a value of the same kind gets the same tree.
  induction v using Value.induct with
  | null =>
      intro w t u _ _ hv hw
      rw [taggedTree, Except.pure_eq_ok] at hv
      subst hv
      constructor
      · rintro rfl
        exact eq_null_of_taggedTree hw
      · intro hSame
        rw [Same] at hSame
        subst hSame
        simpa [taggedTree] using hw
  | bool b =>
      intro w t u _ _ hv hw
      rw [taggedTree, Except.pure_eq_ok] at hv
      subst hv
      constructor
      · rintro rfl
        exact eq_bool_of_taggedTree hw
      · intro hSame
        rw [Same] at hSame
        subst hSame
        simpa [taggedTree] using hw
  | str s =>
      intro w t u _ _ hv hw
      have hv' := hv
      simp only [taggedTree, Except.bind_eq_ok, Except.pure_eq_ok] at hv'
      obtain ⟨_, -, rfl⟩ := hv'
      constructor
      · rintro rfl
        exact eq_str_of_taggedTree hw
      · intro hSame
        rw [Same] at hSame
        subst hSame
        exact Except.ok.inj (hv.symm.trans hw)
  -- An integer and a double are told apart by nothing but their exact value.
  | int n =>
      intro w t u _ _ hv hw
      rw [taggedNumber_eq_iff rfl hv hw, Same]
      simp [numberValue]
  | float x =>
      intro w t u _ _ hv hw
      rw [taggedNumber_eq_iff rfl hv hw, Same]
      rfl
  | seq kind xs ih =>
      intro w t u hdv hdw hv hw
      rw [Value.distinct_seq] at hdv
      obtain ⟨ts, hts, rfl⟩ := taggedTree_seq.1 hv
      constructor
      · rintro rfl
        obtain ⟨kind', ys, rfl, hys⟩ := seq_of_taggedTree hw
        rw [Value.distinct_seq] at hdw
        -- Both lists of elements tag to one list of trees, so that they agree pair by pair.
        have hSame : List.Forall₂ Same xs ys := by
          refine (List.forall₂_common hts hys).imp_mem ?_
          rintro x hx y hy ⟨t, hxt, hyt⟩
          exact (ih x hx (hdv x hx) (hdw y hy) hxt hyt).1 rfl
        exact ⟨kind', ys, rfl, sameItems_iff.2 hSame⟩
      · rintro ⟨kind', ys, rfl, hSame⟩
        rw [Value.distinct_seq] at hdw
        obtain ⟨us, hus, rfl⟩ := taggedTree_seq.1 hw
        -- Each tree of the first array is that of a partner in the second one.
        have hPartner : List.Forall₂ (fun x u => ∃ y, (y ∈ ys ∧ Same x y) ∧ taggedTree y = .ok u)
            xs us :=
          ((sameItems_iff.1 hSame).imp_mem (fun x _ y hy h => ⟨hy, h⟩)).trans' hus
        have hEq : ts = us := by
          refine List.forall₂_unique ?_ hts hPartner
          rintro x hx t u hxt ⟨y, ⟨hy, hxy⟩, hyu⟩
          exact (ih x hx (hdv x hx) (hdw y hy) hxt hyu).2 hxy
        rw [hEq]
  -- The entries stand in the order of the keys. With distinct keys that order does not depend on
  -- how the document was written.
  | obj m ih =>
      intro w t u hdv hdw hv hw
      rw [Value.distinct_obj] at hdv
      obtain ⟨-, es, hes, rfl⟩ := taggedTree_obj.1 hv
      constructor
      · rintro rfl
        obtain ⟨n, rfl, hes'⟩ := obj_of_taggedTree hw
        rw [Value.distinct_obj] at hdw
        refine ⟨n, rfl, sameMembers_of_entries hdw.1 hes hes' ?_⟩
        rintro p hp y t hpt hyt ⟨q, hq, rfl⟩
        exact (ih p hp (hdv.2 p hp) (hdw.2 q hq) hpt hyt).1 rfl
      · rintro ⟨n, rfl, hLen, hSame⟩
        rw [Value.distinct_obj] at hdw
        rw [sameMembers_iff] at hSame
        obtain ⟨hEnc, es', hes', rfl⟩ := taggedTree_obj.1 hw
        -- The sorted members of the second object, read along the keys of the first.
        rw [sortedMembers_align hdv.1 hdw.1 hLen (fun p hp => (hSame p hp).imp fun _ h => h.1) hEnc,
          alignTo, List.forall₂_map_left_iff] at hes'
        have hEq : es = es' := by
          refine List.forall₂_unique ?_ hes hes'
          rintro p hp e e' ⟨t, ht, rfl⟩ ⟨u, hu, rfl⟩
          have hpm : p ∈ m := mem_sortBy.1 hp
          obtain ⟨y, hy, hpy⟩ := hSame p hpm
          simp only [hy, Option.getD_some] at hu
          have hyn : (p.1, y) ∈ n := Value.mem_of_get? hy
          rw [(ih p hpm (hdv.2 p hpm) (hdw.2 _ hyn) ht hu).2 hpy]
        rw [hEq]

/-! ## Written trees -/

/-- Induction over trees, with the hypothesis for every item. -/
@[elab_as_elim]
theorem Tree.induct {P : Tree → Prop} (none : P .none) (bool : ∀ b, P (.bool b))
    (str : ∀ s, P (.str s)) (list : ∀ xs, (∀ x ∈ xs, P x) → P (.list xs)) (t : Tree) : P t :=
  @Tree.rec P (fun xs => ∀ x ∈ xs, P x) none bool str list
    (by simp) (fun _ _ hx hxs => List.forall_mem_cons.2 ⟨hx, hxs⟩) t

mutual

/-- The text of a tree whose strings are all encodable. -/
def renderTree : Tree → Text
  | .none => py "null"
  | .bool true => py "true"
  | .bool false => py "false"
  | .str s => writeString s
  | .list xs => py "[" ++ PrefixCode.joinSep 0x2C (renderItems xs) ++ py "]"

/-- The text of every item. -/
def renderItems : List Tree → List Text
  | [] => []
  | x :: xs => renderTree x :: renderItems xs

end

/-- The items of an array are rendered one by one. -/
theorem renderItems_eq_map (xs : List Tree) : renderItems xs = xs.map renderTree := by
  induction xs with
  | nil => rfl
  | cons x xs ih => rw [renderItems, ih, List.map_cons]

/-- The encoder writes the items of an array one by one. -/
theorem encodeTaggedItems_eq_ok : ∀ {xs : List Tree} {ss : List Text},
    encodeTaggedItems xs = .ok ss ↔ List.Forall₂ (fun x s => encodeTaggedJson x = .ok s) xs ss
  | [], ss => by
      rw [encodeTaggedItems, Except.pure_eq_ok, List.forall₂_nil_left_iff, eq_comm]
  | x :: xs, ss => by
      simp only [encodeTaggedItems, Except.bind_eq_ok, Except.pure_eq_ok,
        List.forall₂_cons_left_iff]
      constructor
      · rintro ⟨t, ht, ts', hts', rfl⟩
        exact ⟨t, ts', ht, encodeTaggedItems_eq_ok.1 hts', rfl⟩
      · rintro ⟨t, ts', ht, hts', rfl⟩
        exact ⟨t, ht, ts', encodeTaggedItems_eq_ok.2 hts', rfl⟩

/-- What the encoder writes is the tree's text. -/
theorem encodeTaggedJson_eq_render (t : Tree) : ∀ {s : Text},
    encodeTaggedJson t = .ok s → s = renderTree t := by
  induction t using Tree.induct with
  | none =>
      intro s h
      rw [encodeTaggedJson, Except.pure_eq_ok] at h
      exact h.symm
  | bool b =>
      intro s h
      cases b <;> rw [encodeTaggedJson, Except.pure_eq_ok] at h <;> exact h.symm
  | str s =>
      intro s' h
      simp only [encodeTaggedJson, encodeString, Except.bind_eq_ok, Except.pure_eq_ok] at h
      obtain ⟨_, -, rfl⟩ := h
      rfl
  | list xs ih =>
      intro s h
      simp only [encodeTaggedJson, Except.bind_eq_ok, Except.pure_eq_ok,
        encodeTaggedItems_eq_ok] at h
      obtain ⟨ss, hss, rfl⟩ := h
      have hMap : List.Forall₂ (fun x s => s = renderTree x) xs ss :=
        hss.imp_mem (fun x hx s _ h => ih x hx h)
      have hEq : ss = renderItems xs := by
        rw [renderItems_eq_map]
        exact List.forall₂_unique (fun _ _ _ _ hy hz => hy.trans hz) hMap
          (List.forall₂_map_right_iff.2 (List.forall₂_same.2 (fun _ _ => rfl)))
      rw [hEq, renderTree]

/-- The first symbol of a tree's text, which tells its kind. -/
def firstSymbol : Tree → CodePoint
  | .none => 0x6E
  | .bool true => 0x74
  | .bool false => 0x66
  | .str _ => quote
  | .list _ => 0x5B

/-- The first symbol of a rendered tree tells its kind. -/
theorem renderTree_head (t : Tree) : ∃ rest, renderTree t = firstSymbol t :: rest := by
  cases t with
  | none => exact ⟨_, rfl⟩
  | bool b => cases b <;> exact ⟨_, rfl⟩
  | str s => exact ⟨_, rfl⟩
  | list xs => exact ⟨_, rfl⟩

/-- `n` opens only the null tree. -/
theorem eq_none_of_firstSymbol {t : Tree} (h : firstSymbol t = 0x6E) : t = .none := by
  cases t with
  | none => rfl
  | bool b => cases b <;> simp [firstSymbol] at h
  | str s => simp [firstSymbol, quote] at h
  | list xs => simp [firstSymbol] at h

/-- `t` and `f` open only their own booleans. -/
theorem eq_bool_of_firstSymbol {t : Tree} {b : Bool} (h : firstSymbol t = firstSymbol (.bool b)) :
    t = .bool b := by
  cases t with
  | none => cases b <;> simp [firstSymbol] at h
  | bool c => cases b <;> cases c <;> first | rfl | simp [firstSymbol] at h
  | str s => cases b <;> simp [firstSymbol, quote] at h
  | list xs => cases b <;> simp [firstSymbol] at h

/-- A quote opens only a text. -/
theorem eq_str_of_firstSymbol {t : Tree} (h : firstSymbol t = quote) : ∃ s, t = .str s := by
  cases t with
  | none => simp [firstSymbol, quote] at h
  | bool b => cases b <;> simp [firstSymbol, quote] at h
  | str s => exact ⟨s, rfl⟩
  | list xs => simp [firstSymbol, quote] at h

/-- A bracket opens only an array. -/
theorem eq_list_of_firstSymbol {t : Tree} (h : firstSymbol t = 0x5B) : ∃ xs, t = .list xs := by
  cases t with
  | none => simp [firstSymbol] at h
  | bool b => cases b <;> simp [firstSymbol] at h
  | str s => simp [firstSymbol, quote] at h
  | list xs => exact ⟨xs, rfl⟩

/-- No tree opens with the closing bracket. -/
theorem firstSymbol_ne_close (t : Tree) : firstSymbol t ≠ 0x5D := by
  cases t with
  | none => simp [firstSymbol]
  | bool b => cases b <;> simp [firstSymbol]
  | str s => simp [firstSymbol, quote]
  | list xs => simp [firstSymbol]

/-- A rendered tree is told from the end of the array it stands in. -/
theorem renderTree_not_close (t : Tree) (r s : Text) : renderTree t ++ r ≠ 0x5D :: s := by
  obtain ⟨rest, h⟩ := renderTree_head t
  rw [h]
  intro hEq
  exact firstSymbol_ne_close t (List.head_eq_of_cons_eq hEq)

/-- Trees whose texts begin alike have one first symbol. -/
theorem firstSymbol_eq {t u : Tree} {r s : Text} (h : renderTree t ++ r = renderTree u ++ s) :
    firstSymbol t = firstSymbol u := by
  obtain ⟨rest, ht⟩ := renderTree_head t
  obtain ⟨rest', hu⟩ := renderTree_head u
  rw [ht, hu] at h
  exact List.head_eq_of_cons_eq h

/-- An array is rendered as its items between brackets, with commas between them. -/
theorem renderTree_list (xs : List Tree) (r : Text) :
    renderTree (.list xs) ++ r
      = 0x5B :: (PrefixCode.joinSep 0x2C (xs.map renderTree) ++ 0x5D :: r) := by
  have hOpen : py "[" = [0x5B] := rfl
  have hClose : py "]" = [0x5D] := rfl
  rw [renderTree, renderItems_eq_map, hOpen, hClose]
  simp only [List.cons_append, List.nil_append, List.append_assoc]

/-- Written trees are a self-delimiting code. -/
theorem renderTree_selfDelimiting : PrefixCode.SelfDelimiting renderTree := by
  intro t
  induction t using Tree.induct with
  | none =>
      intro u r s hEq
      have hu := eq_none_of_firstSymbol (firstSymbol_eq hEq).symm
      subst hu
      exact ⟨rfl, List.append_cancel_left hEq⟩
  | bool b =>
      intro u r s hEq
      have hu := eq_bool_of_firstSymbol (firstSymbol_eq hEq).symm
      subst hu
      exact ⟨rfl, List.append_cancel_left hEq⟩
  | str s =>
      intro u q r hEq
      obtain ⟨s', rfl⟩ := eq_str_of_firstSymbol (firstSymbol_eq hEq).symm
      obtain ⟨rfl, rfl⟩ := writeString_selfDelimiting s s' q r hEq
      exact ⟨rfl, rfl⟩
  | list xs ih =>
      intro u r s hEq
      obtain ⟨ys, rfl⟩ := eq_list_of_firstSymbol (firstSymbol_eq hEq).symm
      rw [renderTree_list, renderTree_list] at hEq
      obtain ⟨rfl, rfl⟩ := PrefixCode.joinSep_stop_inj (by decide) renderTree_not_close xs ys r s ih
        (List.tail_eq_of_cons_eq hEq)
      exact ⟨rfl, rfl⟩

/-! ## The encoding and the hash input -/

/-- Acceptance, stage by stage. -/
theorem canonicalJsonBytes_eq_ok {v : Value} {bs : Bytes} (h : canonicalJsonBytes v = .ok bs) :
    ∃ t, taggedTree v = .ok t ∧ utf8 (renderTree t) = some bs := by
  simp only [canonicalJsonBytes, Except.bind_eq_ok, validUtf8_eq_ok] at h
  obtain ⟨t, ht, s, hs, hEnc, hbs⟩ := h
  rw [encodeTaggedJson_eq_render t hs] at hEnc hbs
  exact ⟨t, ht, utf8_eq_some_iff.2 ⟨hEnc, hbs⟩⟩

/-- Accepted values have one encoding exactly when they are structurally equal. -/
theorem canonicalJsonBytes_eq_iff {v w : Value} {x y : Bytes} (hdv : v.Distinct) (hdw : w.Distinct)
    (hv : canonicalJsonBytes v = .ok x) (hw : canonicalJsonBytes w = .ok y) :
    x = y ↔ Same v w := by
  obtain ⟨t, ht, hx⟩ := canonicalJsonBytes_eq_ok hv
  obtain ⟨u, hu, hy⟩ := canonicalJsonBytes_eq_ok hw
  rw [← taggedTree_eq_iff v hdv hdw ht hu]
  constructor
  · rintro rfl
    exact renderTree_selfDelimiting.injective (utf8_inj hx hy)
  · rintro rfl
    exact Option.some.inj (hx.symm.trans hy)

/-- The characters of a hash domain are ASCII and not NUL. -/
theorem isDomain_chars {domain : Text} (h : isDomain domain = true) :
    ∀ c ∈ domain, 0 < c.val ∧ c.val < 0x80 := by
  cases domain with
  | nil => cases h
  | cons c rest =>
      simp only [isDomain, Bool.and_eq_true, decide_eq_true_eq, List.all_eq_true,
        Bool.or_eq_true, beq_iff_eq] at h
      obtain ⟨⟨hc, -⟩, hRest⟩ := h
      intro d hd
      rcases List.mem_cons.1 hd with rfl | hd
      · omega
      · have hDigit := hRest d hd
        omega

/-- A hash domain is plain ASCII, so that no octet of it is the separator. -/
theorem isAscii_of_isDomain {domain : Text} (h : isDomain domain = true) :
    Text.IsAscii domain :=
  fun c hc => (isDomain_chars h c hc).2

/-- A hash domain contains no zero octet. -/
theorem zero_notMem_domain {domain : Text} (h : isDomain domain = true) :
    (0 : Byte) ∉ utf8Raw domain := by
  rw [(isAscii_of_isDomain h).utf8Raw_eq]
  intro hMem
  obtain ⟨c, hc, hZero⟩ := List.mem_map.1 hMem
  have hVal : c.val % 256 = 0 := congrArg Fin.val hZero
  have hRange := isDomain_chars h c hc
  omega

/-- What is written before the first occurrence of a separator is determined. -/
theorem append_cons_inj_of_notMem {α : Type} {a : α} : ∀ {xs ys rs ss : List α},
    a ∉ xs → a ∉ ys → xs ++ a :: rs = ys ++ a :: ss → xs = ys ∧ rs = ss
  | [], [], _, _, _, _, h => ⟨rfl, List.tail_eq_of_cons_eq h⟩
  | [], y :: ys, _, _, _, hy, h => by
      rw [List.head_eq_of_cons_eq h] at hy
      exact absurd List.mem_cons_self hy
  | x :: xs, [], _, _, hx, _, h => by
      rw [← List.head_eq_of_cons_eq h] at hx
      exact absurd List.mem_cons_self hx
  | x :: xs, y :: ys, _, _, hx, hy, h => by
      obtain ⟨rfl, rfl⟩ := append_cons_inj_of_notMem (fun hm => hx (List.mem_cons_of_mem _ hm))
        (fun hm => hy (List.mem_cons_of_mem _ hm)) (List.tail_eq_of_cons_eq h)
      exact ⟨by rw [List.head_eq_of_cons_eq h], rfl⟩

/-- The hash input of an accepted value in a valid domain. -/
theorem hashPayload_eq_ok {v : Value} {domain : Text} {p : Bytes}
    (h : hashPayload v domain = .ok p) :
    isDomain domain = true ∧ ∃ bs, canonicalJsonBytes v = .ok bs ∧
      p = utf8Raw (py hashPrefix) ++ 0 :: (utf8Raw (py canonicalizationId) ++ 0 ::
        (utf8Raw domain ++ 0 :: bs)) := by
  unfold hashPayload at h
  split_ifs at h with hDomain
  simp only [Except.bind_eq_ok, Except.pure_eq_ok] at h
  obtain ⟨bs, hbs, rfl⟩ := h
  exact ⟨hDomain, bs, hbs, rfl⟩

/-- Hash inputs agree exactly for one domain and structurally equal values. -/
theorem hashPayload_eq_iff {v w : Value} {d e : Text} {p q : Bytes} (hdv : v.Distinct)
    (hdw : w.Distinct) (hp : hashPayload v d = .ok p) (hq : hashPayload w e = .ok q) :
    p = q ↔ d = e ∧ Same v w := by
  obtain ⟨hd, x, hx, rfl⟩ := hashPayload_eq_ok hp
  obtain ⟨he, y, hy, rfl⟩ := hashPayload_eq_ok hq
  rw [← canonicalJsonBytes_eq_iff hdv hdw hx hy]
  constructor
  · intro hEq
    have hTail := List.tail_eq_of_cons_eq (List.append_cancel_left hEq)
    have hTail' := List.tail_eq_of_cons_eq (List.append_cancel_left hTail)
    obtain ⟨hDomain, hRest⟩ :=
      append_cons_inj_of_notMem (zero_notMem_domain hd) (zero_notMem_domain he) hTail'
    have hdUtf8 : utf8 d = some (utf8Raw d) :=
      utf8_eq_some_iff.2 ⟨(isAscii_of_isDomain hd).encodable, rfl⟩
    have heUtf8 : utf8 e = some (utf8Raw d) :=
      utf8_eq_some_iff.2 ⟨(isAscii_of_isDomain he).encodable, hDomain.symm⟩
    exact ⟨utf8_inj hdUtf8 heUtf8, hRest⟩
  · rintro ⟨rfl, rfl⟩
    rfl

/-- The hash inputs of two values do not collide. -/
def NoCollision (domain : Text) (a b : Value) : Prop :=
  ∀ p q, hashPayload a domain = .ok p → hashPayload b domain = .ok q → sha256Hex p = sha256Hex q →
    p = q

/-- Values with one hash are structurally equal, unless their hash inputs collide. -/
theorem same_of_canonicalHash {a b : Value} {domain digest : Text} (ha : a.Distinct)
    (hb : b.Distinct) (hNo : NoCollision domain a b) (h : canonicalHash a domain = .ok digest)
    (h' : canonicalHash b domain = .ok digest) : Same a b := by
  obtain ⟨p, hp, hDigest⟩ := Except.bind_eq_ok.1 h
  obtain ⟨q, hq, hDigest'⟩ := Except.bind_eq_ok.1 h'
  rw [Except.pure_eq_ok] at hDigest hDigest'
  have hEq := hNo p q hp hq (hDigest.trans hDigest'.symm)
  exact ((hashPayload_eq_iff ha hb hp hq).1 hEq).2

/-- Canonical encoding and hash framing are injective up to structural equality: accepted values
have one encoding exactly when they are structurally equal, and hash inputs agree exactly when the
domains do as well. -/
theorem canonicalEncoding_injective {a b : JsonValue} {x y : Bytes}
    (ha : canonicalJsonBytes a.value = .ok x) (hb : canonicalJsonBytes b.value = .ok y) :
    (x = y ↔ Same a.value b.value) ∧
      ∀ {d e : Text} {p q : Bytes}, hashPayload a.value d = .ok p → hashPayload b.value e = .ok q →
        (p = q ↔ d = e ∧ Same a.value b.value) :=
  ⟨canonicalJsonBytes_eq_iff a.distinct b.distinct ha hb,
    fun hp hq => hashPayload_eq_iff a.distinct b.distinct hp hq⟩

/-- Two spellings of one value, `{"a": 1, "b": [0.0]}` and `{"b": (-0.0,), "a": 1.0}`. -/
def spelledOneWay : JsonValue where
  value := .obj [(py "a", .int 1), (py "b", .seq .list [.float Binary64.zero])]
  distinct := by simp

@[inherit_doc spelledOneWay]
def spelledAnotherWay : JsonValue where
  value := .obj [(py "b", .seq .tuple [.float (.finite true 0)]),
    (py "a", .float (Binary64.ofInt 1))]
  distinct := by simp

/-- Two spellings of one document, with the keys reordered and an integer written as a double, have
the same canonical bytes. -/
theorem canonicalJsonBytes_spelled :
    canonicalJsonBytes spelledOneWay.value = canonicalJsonBytes spelledAnotherWay.value ∧
      (canonicalJsonBytes spelledOneWay.value).isOk = true := by
  decide +kernel

/-- The two spellings are structurally equal, since they have one encoding. -/
theorem canonicalEncoding_injective_spelled :
    Same spelledOneWay.value spelledAnotherWay.value := by
  obtain ⟨hEq, hOk⟩ := canonicalJsonBytes_spelled
  cases hx : canonicalJsonBytes spelledOneWay.value with
  | error e => simp [hx, Except.isOk, Except.toBool] at hOk
  | ok x => exact (canonicalEncoding_injective hx (hEq ▸ hx)).1.1 rfl

end Canonical
