import DefinedQuant.Lib.Json.Identical
import DefinedQuant.Shared.DataRecords.RoundTrip

/-!
# The document formats are faithful

Whatever canonical encoding accepts can be written, in either style: an accepted integer is short,
an accepted double is finite, and no string holds a surrogate. What is written is read back as an
identical value, and two values are written as one document exactly when they are identical.
-/

namespace DataRecords

open Json Canonical Value

/-! ## Accepted values can be written -/

theorem isFinite_of_accepts {x : Binary64} (h : Accepts (.float x)) : x.isFinite = true := by
  obtain ⟨t, ht⟩ := accepts_iff.1 h
  obtain ⟨hex, hHex, -⟩ := (taggedTree_number (v := .float x) rfl).1 ht
  obtain ⟨y, hAccepted, -⟩ := Except.bind_eq_ok.1 hHex
  by_contra hInfinite
  rw [Bool.not_eq_true] at hInfinite
  simp only [acceptedDouble, hInfinite, Bool.not_false, if_true, reduceCtorEq] at hAccepted

/-- `json.dumps` finds no number to refuse. -/
theorem check_of_accepts (v : Value) : Accepts v → check v = .ok () := by
  induction v using Value.induct with
  | null => exact fun _ => rfl
  | bool b => exact fun _ => rfl
  | str s => exact fun _ => rfl
  | int n =>
      intro h
      have hSafe : n.natAbs < 10 ^ 16 := lt_of_le_of_lt (accepts_int.1 h) (by decide)
      exact (printable_int hSafe).1
  | float x =>
      intro h
      rw [check, if_pos (isFinite_of_accepts h)]
  | seq kind xs ih =>
      intro h
      rw [check, checkItems_eq_ok]
      exact fun x hx => ih x hx (accepts_seq.1 h x hx)
  | obj m ih =>
      intro h
      rw [check, checkMembers_eq_ok]
      exact fun p hp => ih p hp (accepts_obj.1 h p hp).2

theorem encodable_render_of_accepts (style : Style) (v : Value) :
    ∀ level, Accepts v → Text.Encodable (render style level v) := by
  induction v using Value.induct with
  | null =>
      intro level _
      have hText : Text.IsAscii (py "null") := by decide
      exact hText.encodable
  | bool b =>
      intro level _
      have hText : Text.IsAscii (if b then py "true" else py "false") := by cases b <;> decide
      cases b <;> exact hText.encodable
  | str s => exact fun _ h => writeString_encodable (accepts_str.1 h)
  | int n => exact fun _ _ => (isAscii_numberText _).encodable
  | float x => exact fun _ _ => (isAscii_floatText x).encodable
  | seq kind xs ih =>
      intro level h
      rw [render_seq]
      apply encodable_bracket_of_parts (by decide) (by decide)
      intro part hPart
      obtain ⟨x, hx, rfl⟩ := List.mem_map.1 hPart
      exact ih x hx _ (accepts_seq.1 h x hx)
  | obj m ih =>
      intro level h
      rw [render_obj]
      apply encodable_bracket_of_parts (by decide) (by decide)
      intro part hPart
      obtain ⟨p, hp, rfl⟩ := List.mem_map.1 hPart
      have hMember := accepts_obj.1 h p (mem_arrange.1 hp)
      exact encodable_memberText_of_parts hMember.1 (ih p (mem_arrange.1 hp) _ hMember.2)

/-- Every accepted value is written. -/
theorem documentBytes_of_accepts (style : Style) {v : Value} (h : Accepts v) :
    documentBytes style v = .ok (utf8Raw (render style 0 v ++ [0x0A])) := by
  have hFeed : Text.Encodable [0x0A] := Text.IsAscii.encodable (by decide)
  obtain ⟨bs, hCanonical⟩ := id h
  refine documentBytes_eq_ok.2 ⟨bs, _, hCanonical, dumps_eq_ok.2 ⟨check_of_accepts v h, rfl⟩, ?_⟩
  exact validUtf8_eq_ok.2
    ⟨Text.encodable_append.2 ⟨encodable_render_of_accepts style v 0 h, hFeed⟩, rfl⟩

/-! ## One document for identical values -/

section Identity

variable {style : Style} {v w : Value}

/-- Documents agree exactly when their values sort to one form. -/
theorem documentBytes_eq_iff (hv : v.Distinct) (hw : w.Distinct)
    {content content' : Bytes} (h : documentBytes style v = .ok content)
    (h' : documentBytes style w = .ok content') :
    content = content' ↔ normal style v = normal style w := by
  constructor
  · rintro rfl
    have hLoads := @strictJsonLoads_documentBytes _ _ _ none hv h nofun
    have hLoads' := @strictJsonLoads_documentBytes _ _ _ none hw h' nofun
    exact Except.ok.inj (hLoads.symm.trans hLoads')
  · intro hNormal
    have hSelf := documentBytes_normal hv h
    rw [hNormal, documentBytes_normal hw h'] at hSelf
    exact (Except.ok.inj hSelf).symm

end Identity

/-- The values that the formats are for: what JSON text denotes, within the canonical range. -/
structure Document where
  value : Value
  distinct : value.Distinct
  listed : value.Listed
  accepted : Accepts value

/-- The two formats are faithful. Every document is written in both, the readers give an identical
value back within their byte limits, and two documents have one CAS form exactly when they are
identical. -/
theorem documents_faithful (v w : Document) :
    (∃ content, casJsonBytes v.value = .ok content ∧ ∀ maximumBytes, content.length ≤ maximumBytes →
      ∃ u, strictCasJsonLoads content maximumBytes = .ok u ∧ Identical u v.value) ∧
    (casJsonBytes v.value = casJsonBytes w.value ↔ Identical v.value w.value) ∧
    ∃ content, prettyJsonBytes v.value = .ok content ∧ ∀ maximumBytes,
      (∀ maximum, maximumBytes = some maximum → content.length ≤ maximum) →
        ∃ u, strictJsonLoads content maximumBytes = .ok u ∧ Identical u v.value := by
  have hCas := documentBytes_of_accepts .compactSorted v.accepted
  have hCas' := documentBytes_of_accepts .compactSorted w.accepted
  have hPretty := documentBytes_of_accepts .pretty v.accepted
  refine ⟨⟨_, hCas, fun maximumBytes hMaximum => ?_⟩, ?_,
    ⟨_, hPretty, fun maximumBytes hMaximum => ?_⟩⟩
  · exact ⟨_, strictCasJsonLoads_casJsonBytes v.distinct hCas hMaximum,
      identical_normal rfl v.listed v.distinct⟩
  · rw [casJsonBytes, casJsonBytes, hCas, hCas', Except.ok.injEq,
      documentBytes_eq_iff v.distinct w.distinct hCas hCas']
    exact normal_eq_iff rfl v.listed w.listed v.distinct w.distinct
  · exact ⟨_, strictJsonLoads_documentBytes v.distinct hPretty hMaximum,
      identical_normal rfl v.listed v.distinct⟩

/-- `{"b": [1, null, {"x": -0.0}], "a": {"d": "é", "c": true}}` -/
def nestedValue : Value :=
  .obj [(py "b", .list [.int 1, .null, .obj [(py "x", .float (Binary64.ofFrac true 0 1))]]),
    (py "a", .obj [(py "d", .str [0xE9]), (py "c", .bool true)])]

/-- The same, with the members of both dicts the other way round. -/
def reorderedValue : Value :=
  .obj [(py "a", .obj [(py "c", .bool true), (py "d", .str [0xE9])]),
    (py "b", .list [.int 1, .null, .obj [(py "x", .float (Binary64.ofFrac true 0 1))]])]

theorem distinct_nestedValue : nestedValue.Distinct := by
  decide

theorem listed_nestedValue : nestedValue.Listed := by
  simp [nestedValue, Value.Listed, Value.ListedItems, Value.ListedMembers]

theorem accepts_nestedValue : Accepts nestedValue :=
  accepts_of_isOk (by decide +kernel)

def nestedDocument : Document where
  value := nestedValue
  distinct := distinct_nestedValue
  listed := listed_nestedValue
  accepted := accepts_nestedValue

theorem distinct_reorderedValue : reorderedValue.Distinct := by
  decide

theorem listed_reorderedValue : reorderedValue.Listed := by
  simp [reorderedValue, Value.Listed, Value.ListedItems, Value.ListedMembers]

theorem accepts_reorderedValue : Accepts reorderedValue :=
  accepts_of_isOk (by decide +kernel)

def reorderedDocument : Document where
  value := reorderedValue
  distinct := distinct_reorderedValue
  listed := listed_reorderedValue
  accepted := accepts_reorderedValue

/-- The two are identical, so they have one CAS form, which reads as either. -/
theorem documents_faithful_nested : ∃ content u, casJsonBytes nestedValue = .ok content ∧
    casJsonBytes reorderedValue = .ok content ∧ strictCasJsonLoads content content.length = .ok u ∧
      Identical u nestedValue := by
  obtain ⟨⟨content, hContent, hLoads⟩, hIdentical, -⟩ :=
    documents_faithful nestedDocument reorderedDocument
  obtain ⟨u, hLoads, hRead⟩ := hLoads content.length le_rfl
  have hSame : Identical nestedValue reorderedValue := by
    simp [nestedValue, reorderedValue, Identical, IdenticalItems, IdenticalMembers, Value.get?_cons]
  exact ⟨content, u, hContent, (hIdentical.2 hSame).symm.trans hContent, hLoads, hRead⟩

end DataRecords
