import DefinedQuant.Shared.DataRecords.RoundTrip
import DefinedQuant.Shared.SessionLoading

/-!
# A cursor reads back as the index it was made for

A token that a session makes for a record, a view and a selector is authentic under the key of that
session, is spelled in the one way, and is bound to what it was made for; so the session that made
it reads the index back.
-/

namespace SessionCas

open Json Canonical Protocol DataRecords HostFailures Effect

variable {w w' : World}

theorem encodable_of_isSha256 {digest : Text} (h : isSha256 digest = true) :
    Text.Encodable digest := by
  refine Text.IsAscii.encodable (fun c hc => ?_)
  simp only [isSha256, Bool.and_eq_true, List.all_eq_true] at h
  have hChar := h.2 c hc
  simp only [CodePoint.isDigit, Bool.or_eq_true, Bool.and_eq_true, decide_eq_true_eq] at hChar
  omega

theorem isSha256_of_matchReference {reference : Text} {parsed : ParsedReference}
    (h : matchReference reference = some parsed) : isSha256 parsed.digest = true := by
  unfold matchReference at h
  split at h
  · split at h
    · split at h
      · next hParts =>
          cases h
          rw [Bool.and_eq_true] at hParts
          exact hParts.2
      · cases h
    · cases h
  · cases h

/-- A reference that has a destination can be encoded. -/
theorem encodable_of_destinationOf {reference : Text} {kind : RecordKind} {loc : LocalHost.Location}
    (h : destinationOf reference kind = .ok loc) : Text.Encodable reference := by
  unfold destinationOf referenceParts at h
  split at h
  · cases h
  · next parsed hMatch =>
      by_cases hVersion : parsed.versionToken ≠ py "1"
      · rw [if_pos hVersion] at h
        cases h
      · have hScheme : Text.Encodable (py parsed.kind.scheme) := by
          cases parsed.kind <;> exact Text.IsAscii.encodable (by decide)
        rw [eq_of_matchReference hMatch, not_not.1 hVersion]
        simp only [Text.encodable_append]
        refine ⟨⟨⟨⟨hScheme, ?_⟩, ?_⟩, ?_⟩,
          encodable_of_isSha256 (isSha256_of_matchReference hMatch)⟩ <;>
          exact Text.IsAscii.encodable (by decide)

/-- A reference of this version has a destination. -/
theorem destinationOf_of_referenceParts {reference : Text} {parts : RecordKind × Text}
    (h : referenceParts reference none = .ok parts) :
    ∃ loc, destinationOf reference parts.1 = .ok loc := by
  refine ⟨⟨areaOf parts.1, parts.2⟩, Except.bind_eq_ok.2 ⟨parts, ?_, rfl⟩⟩
  unfold referenceParts at h ⊢
  split at h
  · cases h
  · next parsed hMatch =>
      split_ifs at h with hVersion
      cases h
      simp only [if_neg hVersion, Option.any_some, ne_eq, not_true_eq_false, decide_false,
        Bool.false_eq_true, if_false]

/-- The selector of a cursor, as its payload names it, is null or ASCII. -/
theorem accepts_selectorBinding {selector : Option Text} {binding : Value}
    (h : cursorSelectorBinding selector = .ok binding) :
    Accepts binding ∧ binding.Distinct ∧ (∀ style, normal style binding = binding) ∧
      binding.pyEq binding = true := by
  unfold cursorSelectorBinding at h
  split at h
  · cases h
    exact ⟨accepts_null, trivial, fun _ => rfl, rfl⟩
  · split at h
    · cases h
    · next encoded hEncoded =>
        by_cases hBounds : encoded = [] ∨ 240 < encoded.length
        · rw [if_pos hBounds] at h
          cases h
        · rw [if_neg hBounds] at h
          cases h
          exact ⟨accepts_str.2 (isAscii_sha256Hex _).encodable, trivial, fun _ => rfl,
            beq_self_eq_true _⟩

/-- The payload of a cursor is canonical JSON that reads back as itself. -/
theorem normal_cursorPayload (reference view : Text) {binding : Value} (nextIndex : ℤ)
    (hBinding : ∀ style, normal style binding = binding) :
    normal .compactSorted (cursorPayload reference view binding nextIndex)
      = cursorPayload reference view binding nextIndex := by
  simp only [cursorPayload, normal, normalMembers, hBinding]
  congr 1

theorem accepts_cursorPayload {reference view : Text} {binding : Value} {nextIndex : ℤ}
    (hReference : Text.Encodable reference) (hView : Text.Encodable view)
    (hBinding : Accepts binding) (hIndex : 0 ≤ nextIndex ∧ nextIndex ≤ 9007199254740991) :
    Accepts (cursorPayload reference view binding nextIndex) := by
  refine accepts_obj.2 ?_
  simp only [List.forall_mem_cons, List.not_mem_nil, false_imp_iff, implies_true, and_true]
  refine ⟨⟨by decide, accepts_int.2 ?_⟩, ⟨by decide, accepts_str.2 hReference⟩,
    ⟨by decide, hBinding⟩,
    ⟨by decide, accepts_str.2 hView⟩, by decide, accepts_int.2 (by decide)⟩
  show nextIndex.natAbs ≤ 2 ^ 53 - 1
  omega

/-- The payload of an authentic token. -/
theorem authenticPayload_encode {cursorKey payload : Bytes} (hPayload : payload ≠ [])
    (hLength : (Base64.encode (payload ++ hmacSha256 cursorKey payload)).length ≤ maxCursorBytes) :
    authenticPayload cursorKey (Base64.encode (payload ++ hmacSha256 cursorKey payload))
      = .ok payload := by
  have hTake : (payload ++ hmacSha256 cursorKey payload).length - 32 = payload.length := by
    rw [List.length_append, hmacSha256_length, Nat.add_sub_cancel]
  have hPositive : 0 < payload.length := List.length_pos_iff.2 hPayload
  have hToken : isCursorToken (Base64.encode (payload ++ hmacSha256 cursorKey payload)) = true := by
    simp only [isCursorToken, Bool.and_eq_true, decide_eq_true_eq, List.all_eq_true]
    refine ⟨⟨?_, hLength⟩, fun c hc => Base64.isSymbol_encode _ c hc⟩
    cases hEncode : Base64.encode (payload ++ hmacSha256 cursorKey payload) with
    | nil =>
        have hDecode := Base64.decode_encode (payload ++ hmacSha256 cursorKey payload)
        rw [hEncode] at hDecode
        have hNil : payload ++ hmacSha256 cursorKey payload = [] := (Option.some.inj hDecode).symm
        exact absurd (List.append_eq_nil_iff.1 hNil).1 hPayload
    | cons c token => exact Nat.le_add_left 1 token.length
  have hLong : ¬ (payload ++ hmacSha256 cursorKey payload).length ≤ 32 := by
    rw [List.length_append, hmacSha256_length]
    omega
  unfold authenticPayload
  rw [hToken, Base64.decode_encode]
  simp only [Bool.true_eq_false, if_false, ne_eq, not_true_eq_false, hTake, List.take_left',
    List.drop_left', hLong]
  rfl

/-- A payload gives its index for exactly what it is bound to. -/
theorem boundIndex_cursorPayload_eq_ok {reference view reference' view' : Text} {binding : Value}
    {selector : Option Text} {nextIndex index : ℤ} :
    boundIndex (cursorPayload reference view binding nextIndex) reference' view' selector =
      .ok index ↔
      reference = reference' ∧ view = view' ∧
        (∃ binding', cursorSelectorBinding selector = .ok binding' ∧ binding.pyEq binding' = true) ∧
        0 ≤ nextIndex ∧ nextIndex = index := by
  -- The payload has the five keys, each with the value it was made of.
  have hNames : sameNames cursorKeys cursorKeys = true := by decide
  have hText : ∀ t u : Text, (Value.str t).pyEq (.str u) = (t == u) := fun _ _ => rfl
  have hOne : (Value.int 1).pyEq (.int 1) = true := by decide
  have hPayload : (([(py "i", Value.int nextIndex), (py "r", .str reference), (py "s", binding),
      (py "v", .str view), (py "z", .int 1)] : Members).map Prod.fst) = cursorKeys := rfl
  unfold boundIndex cursorPayload
  dsimp only
  rw [hPayload, hNames]
  have hZ : Value.get? (py "z") ([(py "i", .int nextIndex), (py "r", .str reference),
      (py "s", binding), (py "v", .str view), (py "z", .int 1)] : Members) = some (.int 1) := rfl
  have hR : Value.get? (py "r") ([(py "i", .int nextIndex), (py "r", .str reference),
      (py "s", binding), (py "v", .str view), (py "z", .int 1)] : Members)
        = some (.str reference) := rfl
  have hV : Value.get? (py "v") ([(py "i", .int nextIndex), (py "r", .str reference),
      (py "s", binding), (py "v", .str view), (py "z", .int 1)] : Members) = some (.str view) := rfl
  have hS : Value.get? (py "s") ([(py "i", .int nextIndex), (py "r", .str reference),
      (py "s", binding), (py "v", .str view), (py "z", .int 1)] : Members) = some binding := rfl
  have hI : Value.get? (py "i") ([(py "i", .int nextIndex), (py "r", .str reference),
      (py "s", binding), (py "v", .str view), (py "z", .int 1)] : Members)
        = some (.int nextIndex) := rfl
  simp only [hZ, hR, hV, hS, hI, hText, hOne, Bool.true_eq_false, false_or, if_false,
    Except.throwIf_eq_ok, Except.bind_eq_ok, not_or, Bool.not_eq_false, beq_iff_eq]
  -- What is left are the comparisons of the source.
  constructor
  · rintro ⟨⟨hReference, hView⟩, binding', hBinding, hEq, hIndex⟩
    split_ifs at hIndex with hNegative
    cases hIndex
    exact ⟨hReference, hView, ⟨binding', hBinding, hEq⟩, not_lt.1 hNegative, rfl⟩
  · rintro ⟨hReference, hView, ⟨binding', hBinding, hEq⟩, hIndex, rfl⟩
    refine ⟨⟨hReference, hView⟩, binding', hBinding, hEq, ?_⟩
    rw [if_neg (not_lt.2 hIndex)]
    rfl

/-- What `_encode_cursor_token` checks, and the token it makes. -/
structure TokenOf (cursorKey : Bytes) (reference view : Text) (selector : Option Text)
    (nextIndex : ℤ) (token : Text) (binding : Value) (payload : Bytes) : Prop where
  bound : cursorSelectorBinding selector = .ok binding
  isView : isCursorView view = true
  inRange : 0 ≤ nextIndex ∧ nextIndex ≤ 9007199254740991
  written : ∃ text, dumps .compactSorted (cursorPayload reference view binding nextIndex) =
    .ok text ∧
    validUtf8 text = .ok payload
  signed : token = Base64.encode (payload ++ hmacSha256 cursorKey payload)
  short : token.length ≤ maxCursorBytes

theorem encodeCursorToken_eq_ok {cursorKey : Bytes} {reference view token : Text}
    {selector : Option Text} {nextIndex : ℤ} :
    encodeCursorToken cursorKey reference view selector nextIndex = .ok token ↔
      ∃ binding payload, TokenOf cursorKey reference view selector nextIndex token binding
        payload := by
  unfold encodeCursorToken
  rw [Except.bind_eq_ok]
  constructor
  · rintro ⟨binding, hBinding, h⟩
    rw [Except.mapError_eq_ok] at hBinding
    split at h
    · cases h
    next hBounds =>
    obtain ⟨text, hText, h⟩ := Except.bind_eq_ok.1 h
    obtain ⟨payload, hPayload, h⟩ := Except.bind_eq_ok.1 h
    rw [Except.mapError_eq_ok] at hText hPayload
    dsimp only at h
    split at h
    · cases h
    next hLength =>
    rw [Except.pure_eq_ok] at h
    subst h
    simp only [not_or, Bool.not_eq_false, not_not] at hBounds
    exact ⟨binding, payload, hBinding, hBounds.1, hBounds.2, ⟨text, hText, hPayload⟩, rfl,
      not_lt.1 hLength⟩
  · rintro ⟨binding, payload, h⟩
    obtain ⟨text, hText, hPayload⟩ := h.written
    refine ⟨binding, Except.mapError_eq_ok.2 h.bound, ?_⟩
    rw [if_neg (by rw [h.isView]; simpa using h.inRange), Except.bind_eq_ok]
    refine ⟨text, Except.mapError_eq_ok.2 hText, Except.bind_eq_ok.2
      ⟨payload, Except.mapError_eq_ok.2 hPayload, ?_⟩⟩
    dsimp only
    rw [← h.signed, if_neg (not_lt.2 h.short)]
    rfl

/-- The payload of a token reads back as it was written. -/
theorem TokenOf.loads {cursorKey : Bytes} {reference view token : Text} {selector : Option Text}
    {nextIndex : ℤ} {binding : Value} {payload : Bytes} (hReference : Text.Encodable reference)
    (h : TokenOf cursorKey reference view selector nextIndex token binding payload) :
    strictJsonLoads payload none = .ok (cursorPayload reference view binding nextIndex) := by
  obtain ⟨text, hText, hPayload⟩ := h.written
  have hView := h.isView
  simp only [isCursorView, Bool.and_eq_true, decide_eq_true_eq] at hView
  obtain ⟨hAccepts, hDistinct, hNormal, -⟩ := accepts_selectorBinding h.bound
  obtain ⟨bs, hCanonical⟩ := accepts_cursorPayload hReference hView.1.1 hAccepts h.inRange
  have hPayloadDistinct : (cursorPayload reference view binding nextIndex).Distinct :=
    ⟨(by decide : cursorKeys.Nodup), trivial, trivial, hDistinct, trivial, trivial, trivial⟩
  have hLoads := @strictJsonLoads_render _ _ _ _ _ [] none hPayloadDistinct
    hCanonical hText endsNumber_nil rfl (by rwa [List.append_nil]) (fun _ h => by cases h)
  rwa [normal_cursorPayload _ _ _ hNormal] at hLoads

/-- A token is authentic under the key it was made with. -/
theorem TokenOf.authentic {cursorKey : Bytes} {reference view token : Text} {selector : Option Text}
    {nextIndex : ℤ} {binding : Value} {payload : Bytes} (hReference : Text.Encodable reference)
    (h : TokenOf cursorKey reference view selector nextIndex token binding payload) :
    authenticPayload cursorKey token = .ok payload := by
  have hNonempty : payload ≠ [] := by
    rintro rfl
    cases h.loads hReference
  have hLength := h.short
  rw [h.signed] at hLength ⊢
  exact authenticPayload_encode hNonempty hLength

/-- A token reads back as the index it was made for. -/
theorem decodeCursorToken_encodeCursorToken {cursorKey : Bytes} {reference view token : Text}
    {selector : Option Text} {nextIndex : ℤ} (hReference : Text.Encodable reference)
    (h : encodeCursorToken cursorKey reference view selector nextIndex = .ok token) :
    decodeCursorToken cursorKey token reference view selector = .ok nextIndex := by
  obtain ⟨binding, payload, hToken⟩ := encodeCursorToken_eq_ok.1 h
  have hEq := (accepts_selectorBinding hToken.bound).2.2.2
  unfold decodeCursorToken
  rw [hToken.authentic hReference]
  show (strictJsonLoads payload none >>= fun value => boundIndex value reference view selector) = _
  rw [hToken.loads hReference]
  exact boundIndex_cursorPayload_eq_ok.2
    ⟨rfl, rfl, ⟨binding, hToken.bound, hEq⟩, hToken.inRange.1, rfl⟩

/-! ## The two operations -/

/-- A reference that a session has registered, not found corrupt and not given up. -/
structure Live (w : World) (reference : Text) : Prop where
  isOpen : w.session.closed = false
  registered : reference ∈ w.session.references
  intact : reference ∉ w.session.corruptReferences

/-- `encode_cursor` returns the token of the session's key for a live reference. -/
theorem run_encodeCursor_eq_ok {reference view token : Text} {selector : Option Text} {index : ℤ} :
    (encodeCursor reference view selector index).run w = .ok token w' ↔
      w' = w ∧ Live w reference ∧ (∃ parts, referenceParts reference none = .ok parts) ∧
        encodeCursorToken w.session.cursorKey reference view selector index = .ok token := by
  unfold encodeCursor
  rw [run_requireOpen_bind_eq_ok, run_lift_bind_eq_ok]
  simp only [run_get_bind, run_raiseIf_bind_eq_ok, run_lift_eq_ok]
  constructor
  · rintro ⟨hOpen, parts, hParts, hCorrupt, hMem, hToken, hEq⟩
    exact ⟨hEq, ⟨hOpen, not_not.1 hMem, hCorrupt⟩, ⟨parts, hParts⟩, hToken⟩
  · rintro ⟨hEq, hLive, ⟨parts, hParts⟩, hToken⟩
    exact ⟨hLive.isOpen, parts, hParts, hLive.intact, not_not.2 hLive.registered, hToken, hEq⟩

/-- `decode_cursor` returns the index that the token carries for the session's key. -/
theorem run_decodeCursor_eq_ok {token reference view : Text} {selector : Option Text} {index : ℤ} :
    (decodeCursor token reference view selector).run w = .ok index w' ↔
      w' = w ∧ Live w reference ∧ (∃ parts, referenceParts reference none = .ok parts) ∧
        decodeCursorToken w.session.cursorKey token reference view selector = .ok index := by
  unfold decodeCursor
  rw [run_requireOpen_bind_eq_ok]
  simp only [run_get_bind, run_lift_bind_eq_ok, run_raiseIf_bind_eq_ok, not_or, not_not]
  constructor
  · rintro ⟨hOpen, index', hIndex, parts, hParts, ⟨hMem, hCorrupt⟩, hRun⟩
    cases hRun
    exact ⟨rfl, ⟨hOpen, hMem, hCorrupt⟩, ⟨parts, hParts⟩, hIndex⟩
  · rintro ⟨rfl, hLive, ⟨parts, hParts⟩, hIndex⟩
    exact ⟨hLive.isOpen, index, hIndex, parts, hParts, ⟨hLive.registered, hLive.intact⟩, rfl⟩

end SessionCas
