import DefinedQuant.Lib.Json.Size
import DefinedQuant.Protocol.CanonicalInjective

/-!
# What the canonical encoding accepts

A value is accepted when its strings can be encoded and its numbers lie in the shared range.
Acceptance goes by parts, so that a document is accepted as soon as everything it is made of is.
-/

namespace Canonical

open Json

instance : Nonempty Tree := ⟨.none⟩

/-- The value has a canonical encoding. -/
def Accepts (v : Value) : Prop := ∃ bs, canonicalJsonBytes v = .ok bs

/-- The tree has a text, and the text can be encoded. -/
def Encodes (t : Tree) : Prop := ∃ s, encodeTaggedJson t = .ok s ∧ Text.Encodable s

/-- The tree of a text is written when the text encodes. -/
theorem encodes_str {s : Text} (h : Text.Encodable s) : Encodes (.str s) := by
  obtain ⟨bs, hBytes⟩ : ∃ bs, validUtf8 s = .ok bs := ⟨_, validUtf8_eq_ok.2 ⟨h, rfl⟩⟩
  refine ⟨writeString s, ?_, writeString_encodable h⟩
  rw [encodeTaggedJson, encodeString, hBytes]
  rfl

/-- The tree of a boolean is written. -/
theorem encodes_bool (b : Bool) : Encodes (.bool b) := by
  cases b
  · exact ⟨py "false", rfl, Text.IsAscii.encodable (by decide)⟩
  · exact ⟨py "true", rfl, Text.IsAscii.encodable (by decide)⟩

/-- A list is written when its items are. -/
theorem encodes_list {xs : List Tree} (h : ∀ x ∈ xs, Encodes x) : Encodes (.list xs) := by
  have hItems : ∃ ss, encodeTaggedItems xs = .ok ss ∧ ∀ s ∈ ss, Text.Encodable s := by
    induction xs with
    | nil => exact ⟨[], rfl, by simp⟩
    | cons x xs ih =>
        obtain ⟨s, hs, hEnc⟩ := h x List.mem_cons_self
        obtain ⟨ss, hss, hEncs⟩ := ih (fun y hy => h y (List.mem_cons_of_mem _ hy))
        exact ⟨s :: ss, encodeTaggedItems_eq_ok.2 (.cons hs (encodeTaggedItems_eq_ok.1 hss)),
          List.forall_mem_cons.2 ⟨hEnc, hEncs⟩⟩
  obtain ⟨ss, hss, hEnc⟩ := hItems
  refine ⟨py "[" ++ PrefixCode.joinSep 0x2C ss ++ py "]", ?_, ?_⟩
  · rw [encodeTaggedJson, hss]
    rfl
  · rw [Text.encodable_append, Text.encodable_append, encodable_joinSep (by decide)]
    exact ⟨⟨Text.IsAscii.encodable (by decide), hEnc⟩, Text.IsAscii.encodable (by decide)⟩

/-- Two items under a tag. -/
theorem encodes_tagged {tag : String} {t : Tree} (hTag : Text.Encodable (py tag)) (h : Encodes t) :
    Encodes (.list [.str (py tag), t]) := by
  refine encodes_list (fun x hx => ?_)
  rcases List.mem_pair.1 hx with rfl | rfl
  · exact encodes_str hTag
  · exact h

/-- The hexadecimal of a number encodes. -/
theorem numberHex_encodable {a : ℤ ⊕ Binary64} {h : Text} (hEq : numberHex a = .ok h) :
    Text.Encodable h := by
  obtain ⟨x, -, hx⟩ := Except.bind_eq_ok.1 hEq
  rw [← Except.pure_eq_ok.1 hx]
  exact (Bytes.isAscii_hex _).encodable

/-- Every tree that a value tags to can be written. -/
theorem encodes_taggedTree (v : Value) : ∀ {t : Tree}, taggedTree v = .ok t → Encodes t := by
  -- By induction on the value. Texts were checked when the tree was made, and everything else is
  -- plain ASCII.
  induction v using Value.induct with
  | null =>
      intro t h
      rw [taggedTree, Except.pure_eq_ok] at h
      subst h
      refine encodes_list (fun x hx => ?_)
      rw [List.mem_singleton.1 hx]
      exact encodes_str (Text.IsAscii.encodable (by decide))
  | bool b =>
      intro t h
      rw [taggedTree, Except.pure_eq_ok] at h
      subst h
      exact encodes_tagged (Text.IsAscii.encodable (by decide)) (encodes_bool b)
  | str s =>
      intro t h
      rw [taggedTree, Except.bind_eq_ok] at h
      obtain ⟨_, hBytes, h⟩ := h
      rw [← Except.pure_eq_ok.1 h]
      exact encodes_tagged (Text.IsAscii.encodable (by decide))
        (encodes_str (validUtf8_eq_ok.1 hBytes).1)
  | int n =>
      intro t h
      obtain ⟨hex, hHex, rfl⟩ := (taggedTree_number (v := .int n) rfl).1 h
      exact encodes_tagged (Text.IsAscii.encodable (by decide))
        (encodes_str (numberHex_encodable hHex))
  | float x =>
      intro t h
      obtain ⟨hex, hHex, rfl⟩ := (taggedTree_number (v := .float x) rfl).1 h
      exact encodes_tagged (Text.IsAscii.encodable (by decide))
        (encodes_str (numberHex_encodable hHex))
  | seq kind xs ih =>
      intro t h
      obtain ⟨ts, hts, rfl⟩ := taggedTree_seq.1 h
      refine encodes_tagged (Text.IsAscii.encodable (by decide)) (encodes_list (fun t ht => ?_))
      obtain ⟨x, hx, hTag⟩ := List.Forall₂.exists_right hts.flip ht
      exact ih x hx hTag
  | obj m ih =>
      intro t h
      obtain ⟨hKeys, es, hes, rfl⟩ := taggedTree_obj.1 h
      refine encodes_tagged (Text.IsAscii.encodable (by decide)) (encodes_list (fun e he => ?_))
      obtain ⟨p, hp, hTag⟩ := List.Forall₂.exists_right hes.flip he
      obtain ⟨t, ht, rfl⟩ := hTag
      refine encodes_list (fun x hx => ?_)
      rcases List.mem_pair.1 hx with rfl | rfl
      · exact encodes_str (hKeys p (mem_sortBy.1 hp))
      · exact ih p (mem_sortBy.1 hp) ht

/-- The encoder accepts a value exactly when it can be tagged. -/
theorem accepts_iff {v : Value} : Accepts v ↔ ∃ t, taggedTree v = .ok t := by
  constructor
  · rintro ⟨bs, h⟩
    obtain ⟨t, ht, -⟩ := canonicalJsonBytes_eq_ok h
    exact ⟨t, ht⟩
  · rintro ⟨t, ht⟩
    obtain ⟨s, hs, hEnc⟩ := encodes_taggedTree v ht
    refine ⟨utf8Raw s, ?_⟩
    rw [canonicalJsonBytes, ht]
    show (do validUtf8 (← encodeTaggedJson t)) = _
    rw [hs]
    exact validUtf8_eq_ok.2 ⟨hEnc, rfl⟩

/-! ## By parts -/

/-- Null is accepted. -/
theorem accepts_null : Accepts .null := accepts_iff.2 ⟨_, rfl⟩

/-- A boolean is accepted. -/
theorem accepts_bool (b : Bool) : Accepts (.bool b) := accepts_iff.2 ⟨_, rfl⟩

/-- A text is accepted when it encodes. -/
theorem accepts_str {s : Text} : Accepts (.str s) ↔ Text.Encodable s := by
  rw [accepts_iff]
  simp only [taggedTree, Except.bind_eq_ok, Except.pure_eq_ok, validUtf8_eq_ok]
  constructor
  · rintro ⟨_, _, h, _⟩
    exact h.1
  · intro h
    exact ⟨_, _, ⟨h, rfl⟩, rfl⟩

/-- A literal is accepted. -/
theorem accepts_lit (s : String) : Accepts (.lit s) := accepts_str.2 (encodable_py s)

/-- An integer is accepted within the safe range. -/
theorem accepts_int {n : ℤ} : Accepts (.int n) ↔ n.natAbs ≤ maxSafeInteger := by
  rw [accepts_iff]
  simp only [taggedTree, numberHex, acceptedDouble, Except.bind_eq_ok, Except.pure_eq_ok]
  by_cases h : maxSafeInteger < n.natAbs
  · simp only [if_pos h, not_le.2 h, iff_false]
    rintro ⟨_, _, ⟨_, hError, _⟩, _⟩
    cases hError
  · simp only [if_neg h, not_lt.1 h, iff_true]
    exact ⟨_, _, ⟨_, rfl, rfl⟩, rfl⟩

/-- An array is accepted when its elements are. -/
theorem accepts_seq {kind : SeqKind} {xs : List Value} :
    Accepts (.seq kind xs) ↔ ∀ x ∈ xs, Accepts x := by
  rw [accepts_iff]
  simp only [accepts_iff, taggedTree_seq]
  constructor
  · rintro ⟨_, ts, hts, -⟩ x hx
    obtain ⟨t, -, ht⟩ := List.Forall₂.exists_right hts hx
    exact ⟨t, ht⟩
  · intro h
    choose! f hf using h
    exact ⟨_, xs.map f, List.forall₂_map_right_iff.2 (List.forall₂_same.2 hf), rfl⟩

/-- An object is accepted when its keys encode and its values are accepted. -/
theorem accepts_obj {m : Members} :
    Accepts (.obj m) ↔ ∀ p ∈ m, Text.Encodable p.1 ∧ Accepts p.2 := by
  rw [accepts_iff]
  simp only [accepts_iff, taggedTree_obj]
  constructor
  · rintro ⟨_, hKeys, es, hes, -⟩ p hp
    obtain ⟨e, -, t, ht, -⟩ := List.Forall₂.exists_right hes (mem_sortBy.2 hp)
    exact ⟨hKeys p hp, t, ht⟩
  · intro h
    choose! f hf using fun p hp => (h p hp).2
    refine ⟨_, fun p hp => (h p hp).1, (sortedMembers m).map (fun p => Tree.entry p.1 (f p)),
      ?_, rfl⟩
    refine List.forall₂_map_right_iff.2 (List.forall₂_same.2 (fun p hp => ?_))
    exact ⟨f p, hf p (mem_sortBy.1 hp), rfl⟩

/-- One member among others. -/
theorem accepts_obj_insert {m n : Members} {key : Text} {v : Value} :
    Accepts (.obj (m ++ (key, v) :: n))
      ↔ (Text.Encodable key ∧ Accepts v) ∧ Accepts (.obj (m ++ n)) := by
  rw [accepts_obj, accepts_obj, List.forall_mem_append, List.forall_mem_append,
    List.forall_mem_cons]
  exact and_left_comm

/-- Joined objects are accepted when both are. -/
theorem accepts_obj_append {m n : Members} :
    Accepts (.obj (m ++ n)) ↔ Accepts (.obj m) ∧ Accepts (.obj n) := by
  rw [accepts_obj, accepts_obj, accepts_obj, List.forall_mem_append]

/-- Acceptance is decided by running the encoder. -/
theorem accepts_of_isOk {v : Value} (h : (canonicalJsonBytes v).isOk = true) : Accepts v := by
  cases hv : canonicalJsonBytes v with
  | ok bs => exact ⟨bs, hv⟩
  | error e =>
      rw [hv] at h
      cases h

end Canonical
