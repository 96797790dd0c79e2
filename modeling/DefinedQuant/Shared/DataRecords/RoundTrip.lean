import DefinedQuant.Protocol.CanonicalAccepts
import DefinedQuant.Shared.DataRecords.Documents

/-!
# Stored documents read back

What `pretty_json_bytes` or `cas_json_bytes` has written, the strict readers accept, and they return
it with its members in the order in which they were written. The reader refuses what canonical
encoding refuses, so the point is that a value and what it reads back as have the same canonical
encoding.
-/

namespace DataRecords

open Json Canonical

/-! ## Canonical encoding does not see the order of members -/

/-- Members under distinct keys sort by their UTF-8 forms to one list, in whatever order they stand. -/
theorem sortedMembers_eq_of_perm {m n : Members} (hPerm : m.Perm n) (hm : (m.map Prod.fst).Nodup)
    (hEnc : ∀ p ∈ m, Text.Encodable p.1) : sortedMembers m = sortedMembers n := by
  refine sortBy_eq_of_perm hPerm (fun a ha b hb hab => ?_)
  have hKey : a.1 = b.1 := utf8_inj (utf8_eq_some_iff.2 ⟨hEnc a ha, rfl⟩)
    (utf8_eq_some_iff.2 ⟨hEnc b hb, hab.symm⟩)
  exact List.inj_on_of_nodup_map hm ha hb hKey

theorem arrange_perm {α : Type} (style : Style) (m : List (Text × α)) :
    (arrange style m).Perm m := by
  unfold arrange
  split_ifs
  · exact sortBy_perm _ m
  · exact List.Perm.refl m

theorem taggedTree_normal (style : Style) (v : Value) :
    ∀ {t : Tree}, v.Distinct → taggedTree v = .ok t → taggedTree (normal style v) = .ok t := by
  induction v using Value.induct with
  | null => exact fun _ h => h
  | bool b => exact fun _ h => h
  | str s => exact fun _ h => h
  | int n => exact fun _ h => h
  | float x => exact fun _ h => h
  | seq kind xs ih =>
      intro t hv h
      rw [Value.distinct_seq] at hv
      obtain ⟨ts, hts, rfl⟩ := taggedTree_seq.1 h
      rw [normal_seq]
      refine taggedTree_seq.2 ⟨ts, List.forall₂_map_left_iff.2 ?_, rfl⟩
      exact hts.imp_mem (fun x hx t _ ht => ih x hx (hv x hx) ht)
  | obj m ih =>
      intro t hv h
      rw [Value.distinct_obj] at hv
      obtain ⟨hEnc, es, hes, rfl⟩ := taggedTree_obj.1 h
      -- The tree sorts the members anyway, by the same order.
      have hSorted : sortedMembers ((arrange style m).map (fun p => (p.1, normal style p.2)))
          = (sortedMembers m).map (fun p => (p.1, normal style p.2)) := by
        have hEq : sortedMembers (arrange style m) = sortedMembers m :=
          (sortedMembers_eq_of_perm (arrange_perm style m).symm hv.1 hEnc).symm
        rw [← hEq]
        exact sortBy_map _ _ _ (fun _ => rfl) _
      rw [normal_obj]
      refine taggedTree_obj.2 ⟨?_, es, ?_, rfl⟩
      · intro q hq
        obtain ⟨p, hp, rfl⟩ := List.mem_map.1 hq
        exact hEnc p (mem_arrange.1 hp)
      · rw [hSorted, List.forall₂_map_left_iff]
        refine hes.imp_mem (fun p hp e _ ht => ?_)
        obtain ⟨t, ht, rfl⟩ := ht
        have hp' : p ∈ m := mem_sortBy.1 hp
        exact ⟨t, ih p hp' (hv.2 p hp') ht, rfl⟩

/-- A value and what it reads back as have one canonical encoding. -/
theorem canonicalJsonBytes_normal (style : Style) {v : Value} {bs : Bytes} (hv : v.Distinct)
    (h : canonicalJsonBytes v = .ok bs) : canonicalJsonBytes (normal style v) = .ok bs := by
  unfold canonicalJsonBytes at h ⊢
  obtain ⟨t, ht, h⟩ := Except.bind_eq_ok.1 h
  rw [taggedTree_normal style v hv ht]
  exact h

/-! ## Reading what was written -/

theorem utf8Decode_of_validUtf8 {text : Text} {content : Bytes}
    (h : validUtf8 text = .ok content) : utf8Decode content = some text :=
  utf8Decode_of_utf8 (utf8_eq_some_iff.2 (validUtf8_eq_ok.1 h))

/-- The strict reader accepts a canonical value in any style, with or without a final line feed. -/
theorem strictJsonLoads_render {style : Style} {v : Value} {text : Text} {content bs : Bytes}
    {ending : Text} {maximumBytes : Option ℕ} (hv : v.Distinct)
    (hCanonical : canonicalJsonBytes v = .ok bs) (hDumps : dumps style v = .ok text)
    (hEnding : EndsNumber ending) (hSpace : skipSpace ending = [])
    (hContent : validUtf8 (text ++ ending) = .ok content)
    (hMaximum : ∀ maximum, maximumBytes = some maximum → content.length ≤ maximum) :
    strictJsonLoads content maximumBytes = .ok (normal style v) := by
  unfold dumps at hDumps
  obtain ⟨_, hCheck, hText⟩ := Except.bind_eq_ok.1 hDumps
  rw [Except.pure_eq_ok] at hText
  subst hText
  obtain ⟨c, tail, hHead, -, -, -, hMark⟩ := render_head style 0 hCheck
  have hNoMark : (render style 0 v ++ ending).head? ≠ some 0xFEFF := by
    rw [hHead]
    exact fun h => hMark (Option.some.inj h)
  have hLength : maximumBytes.any (fun maximum => maximum < content.length) = false := by
    cases maximumBytes with
    | none => rfl
    | some maximum => simpa using hMaximum maximum rfl
  unfold strictJsonLoads
  rw [hLength, utf8Decode_of_validUtf8 hContent]
  simp only [Bool.false_eq_true, if_false, hNoMark]
  rw [loads_render hv hCheck hEnding hSpace]
  show (do let _ ← canonicalJsonBytes (normal style v); return normal style v) = _
  rw [canonicalJsonBytes_normal style hv hCanonical]
  rfl

theorem documentBytes_eq_ok {style : Style} {v : Value} {content : Bytes} :
    documentBytes style v = .ok content ↔ ∃ bs text, canonicalJsonBytes v = .ok bs ∧
      dumps style v = .ok text ∧ validUtf8 (text ++ [0x0A]) = .ok content := by
  unfold documentBytes
  simp only [Except.bind_eq_ok]
  exact ⟨fun ⟨bs, h, text, h', h''⟩ => ⟨bs, text, h, h', h''⟩,
    fun ⟨bs, text, h, h', h''⟩ => ⟨bs, h, text, h', h''⟩⟩

/-- A written document reads back with its members in the order in which they were written. -/
theorem strictJsonLoads_documentBytes {style : Style} {v : Value} {content : Bytes}
    {maximumBytes : Option ℕ} (hv : v.Distinct) (h : documentBytes style v = .ok content)
    (hMaximum : ∀ maximum, maximumBytes = some maximum → content.length ≤ maximum) :
    strictJsonLoads content maximumBytes = .ok (normal style v) := by
  obtain ⟨bs, text, hCanonical, hDumps, hContent⟩ := documentBytes_eq_ok.1 h
  exact strictJsonLoads_render hv hCanonical hDumps endsNumber_lineFeed rfl hContent hMaximum

/-- What a document reads back as is written as the same document. -/
theorem documentBytes_normal {style : Style} {v : Value} {content : Bytes} (hv : v.Distinct)
    (h : documentBytes style v = .ok content) : documentBytes style (normal style v) =
    .ok content := by
  obtain ⟨bs, text, hCanonical, hDumps, hContent⟩ := documentBytes_eq_ok.1 h
  refine documentBytes_eq_ok.2 ⟨bs, text, canonicalJsonBytes_normal style hv hCanonical, ?_,
    hContent⟩
  unfold dumps at hDumps ⊢
  obtain ⟨_, hCheck, hText⟩ := Except.bind_eq_ok.1 hDumps
  rw [check_normal style v hCheck, render_normal style v 0]
  exact hText

/-- A CAS document is accepted by its reader. -/
theorem strictCasJsonLoads_casJsonBytes {v : Value} {content : Bytes} {maximumBytes : ℕ}
    (hv : v.Distinct) (h : casJsonBytes v = .ok content)
    (hMaximum : content.length ≤ maximumBytes) :
    strictCasJsonLoads content maximumBytes = .ok (sorted v) := by
  unfold strictCasJsonLoads
  rw [strictJsonLoads_documentBytes hv h (fun maximum hEq => Option.some.inj hEq ▸ hMaximum)]
  show (do
    if (← casJsonBytes (sorted v)) ≠ content then
      throw ⟨"CAS document does not use defined-quant-cas-json-v1"⟩
    return sorted v : Except ValueError Value) = _
  have hAgain : casJsonBytes (sorted v) = .ok content := documentBytes_normal hv h
  rw [hAgain]
  show (if content ≠ content then _ else _) = _
  rw [if_neg (not_not.2 rfl)]
  rfl

/-- A CAS document is the compact text of an accepted value, and a final line feed. -/
theorem casJsonBytes_eq_ok {v : Value} {content : Bytes} :
    casJsonBytes v = .ok content ↔ Accepts v ∧ Printable v ∧
      content = utf8Raw (render .compactSorted 0 v ++ [0x0A]) := by
  have hFeed : Text.Encodable [0x0A] := Text.IsAscii.encodable (by decide)
  rw [casJsonBytes, documentBytes_eq_ok]
  constructor
  · rintro ⟨bs, text, hCanonical, hDumps, hContent⟩
    obtain ⟨hCheck, rfl⟩ := dumps_eq_ok.1 hDumps
    obtain ⟨hEncodable, rfl⟩ := validUtf8_eq_ok.1 hContent
    exact ⟨⟨bs, hCanonical⟩, ⟨hCheck, (Text.encodable_append.1 hEncodable).1⟩, rfl⟩
  · rintro ⟨⟨bs, hCanonical⟩, ⟨hCheck, hEncodable⟩, rfl⟩
    exact ⟨bs, _, hCanonical, dumps_eq_ok.2 ⟨hCheck, rfl⟩,
      validUtf8_eq_ok.2 ⟨Text.encodable_append.2 ⟨hEncodable, hFeed⟩, rfl⟩⟩

theorem length_casJsonBytes {v : Value} {content : Bytes} (h : casJsonBytes v = .ok content) :
    content.length = size v + 1 := by
  obtain ⟨-, -, rfl⟩ := casJsonBytes_eq_ok.1 h
  rw [size]
  exact utf8Length_append _ [0x0A]

/-- Models that are written as the same document are the same. -/
theorem eq_of_casJsonBytes {α : Type} (c : Codec α) {a b : α} {content : Bytes}
    (ha : casJsonBytes (c.encode a) = .ok content) (hb : casJsonBytes (c.encode b) = .ok content) :
    a = b := by
  have hA := strictCasJsonLoads_casJsonBytes (c.distinct_encode a) ha le_rfl
  have hB := strictCasJsonLoads_casJsonBytes (c.distinct_encode b) hb le_rfl
  have hSorted : sorted (c.encode a) = sorted (c.encode b) := Except.ok.inj (hA.symm.trans hB)
  have hDecode := c.decode_sorted_encode a
  rw [hSorted, c.decode_sorted_encode] at hDecode
  exact (Except.ok.inj hDecode).symm

end DataRecords
