import DefinedQuant.Shared.CursorRoundTrip
import DefinedQuant.Shared.SessionScope
import DefinedQuant.Shared.SessionCorruption

/-!
# What a cursor is bound to

`Minting` is the history of a session: whatever is called, and which cursors were handed out on the
way. A cursor that is handed out is accepted for as long as its record is live and stands for its
index. A cursor that is accepted was handed out for what it is used for, unless someone without the
key made a MAC for another payload (`Forged`) or two selectors have one digest.
-/

namespace SessionCas

open Json Canonical Protocol DataRecords HostFailures LocalHost Effect

variable {w w' : World}

/-- `_encode_pending_cursor` -/
def encodePendingCursor (reference view : Text) (selector : Option Text) (nextIndex : ℤ) :
    Host Text := do
  requireOpen
  let _ ← Effect.lift id (referenceParts reference none)
  let w ← get
  Effect.raiseIf (reference ∈ w.session.corruptReferences) (failure .recordCorrupt)
  Effect.lift id (encodeCursorToken w.session.cursorKey reference view selector nextIndex)

/-! ## Histories -/

/-- What a cursor is asked for. -/
structure CursorRequest where
  reference : Text
  view : Text
  selector : Option Text
  nextIndex : ℤ

/-- A cursor that was handed out. -/
structure Mint extends CursorRequest where
  token : Text

/-- The cursor that a computation hands out, if it returns. -/
def Mint.of (request : CursorRequest) (x : Host Text) (w : World) : List Mint :=
  match x.run w with
  | .ok token _ => [{ request with token }]
  | .error _ _ => []

/-- The cursors that a call hands out. -/
def Call.minted (w : World) : Call → List Mint
  | .encodeCursor reference view selector nextIndex =>
      Mint.of ⟨reference, view, selector, nextIndex⟩ (SessionCas.encodeCursor reference view
        selector nextIndex) w
  | _ => []

/-- A run of a session and the cursors it has handed out. -/
inductive Minting (start : World) : World → List Mint → Prop where
  | opened (sessionId : Text) (limits : CasLimits) (cursorKey : Bytes)
      (h : start.session = Session.opened sessionId limits cursorKey) : Minting start start []
  | call {w mints} (c : Call) : Minting start w mints →
      Minting start (final (c.run.run w)) (c.minted w ++ mints)
  | pending {w mints} (request : CursorRequest) : Minting start w mints →
      Minting start
        (final ((encodePendingCursor request.reference request.view request.selector
          request.nextIndex).run w))
        (Mint.of request (encodePendingCursor request.reference request.view request.selector
          request.nextIndex) w ++ mints)
  | others {w mints} (registry : SessionScopeRegistry) : Minting start w mints →
      Minting start { w with registry := registry } mints
  | close {w mints} : Minting start w mints → Minting start (final (SessionCas.close.run w)) mints

/-! ## What a run keeps -/

/-- A pending cursor is a token for a well-formed reference, and leaves the session alone. -/
theorem run_encodePendingCursor_eq_ok {reference view token : Text} {selector : Option Text}
    {index : ℤ} (h : (encodePendingCursor reference view selector index).run w = .ok token w') :
    w' = w ∧ (∃ parts, referenceParts reference none = .ok parts) ∧
      encodeCursorToken w.session.cursorKey reference view selector index = .ok token := by
  unfold encodePendingCursor at h
  rw [run_requireOpen_bind_eq_ok, run_lift_bind_eq_ok] at h
  obtain ⟨-, parts, hParts, h⟩ := h
  simp only [run_get_bind, run_raiseIf_bind_eq_ok, run_lift_eq_ok] at h
  exact ⟨h.2.2, ⟨parts, hParts⟩, h.2.1⟩

/-- Making one is a read. -/
theorem keeps_reads_encodePendingCursor (reference view : Text) (selector : Option Text)
    (nextIndex : ℤ) : Keeps Reads (encodePendingCursor reference view selector nextIndex) := by
  refine keeps_bind keeps_reads_requireOpen (fun _ => ?_)
  refine keeps_bind (keeps_lift _ _) (fun _ => ?_)
  refine keeps_bind keeps_get (fun v => ?_)
  exact keeps_bind (keeps_raiseIf _ _) (fun _ => keeps_lift _ _)

/-- What every state of a run has: the key of the start, references that name an entry, and behind
each cursor what it was made for. -/
structure Minted (start w : World) (mints : List Mint) : Prop where
  key : w.session.cursorKey = start.session.cursorKey
  formed : ∀ reference ∈ w.session.references, ∃ kind loc, destinationOf reference kind = .ok loc
  made : ∀ mint ∈ mints, Text.Encodable mint.reference ∧
    encodeCursorToken start.session.cursorKey mint.reference mint.view mint.selector mint.nextIndex
      = .ok mint.token

/-- The key of a session and the form of its references outlast a step that gives up references or
takes one in. -/
theorem Minted.scope {start : World} {mints : List Mint} (h : Minted start w mints)
    (hKey : w'.session.cursorKey = w.session.cursorKey)
    (hReferences : ∀ reference ∈ w'.session.references, reference ∈ w.session.references ∨
      ∃ kind loc, destinationOf reference kind = .ok loc) : Minted start w' mints :=
  ⟨hKey.trans h.key, fun reference hMem => (hReferences reference hMem).elim (h.formed reference)
    id,
    h.made⟩

/-- The cursors of a computation that makes the token of the session's key. -/
theorem Minted.handOut {start : World} {mints : List Mint} {request : CursorRequest} {x : Host Text}
    (h : Minted start w mints)
    (hToken : ∀ token w', x.run w = .ok token w' → Text.Encodable request.reference ∧
      encodeCursorToken w.session.cursorKey request.reference request.view request.selector
        request.nextIndex = .ok token) :
    Minted start w (Mint.of request x w ++ mints) := by
  refine ⟨h.key, h.formed, fun mint hMint => ?_⟩
  rcases List.mem_append.1 hMint with hNew | hOld
  · unfold Mint.of at hNew
    split at hNew
    · next token w' hRun =>
      rw [List.mem_singleton] at hNew
      rw [hNew, ← h.key]
      exact hToken token w' hRun
    · exact absurd hNew List.not_mem_nil
  · exact h.made mint hOld

/-- A well-formed reference encodes. -/
theorem encodable_of_referenceParts {reference : Text} {parts : RecordKind × Text}
    (h : referenceParts reference none = .ok parts) : Text.Encodable reference := by
  obtain ⟨loc, hLoc⟩ := destinationOf_of_referenceParts h
  exact encodable_of_destinationOf hLoc

/-- Registering keeps the key of the cursors. -/
theorem Registers.cursorKey {octets : ℕ} {loc : Location} {reference : Text}
    (h : Registers octets loc reference w w') : w'.session.cursorKey = w.session.cursorKey := by
  obtain ⟨t, t', size, hBefore, hRegister, hAfter, -⟩ := h
  rw [hAfter.cursorKey, ← hBefore.cursorKey]
  rcases run_register_eq_ok.1 hRegister with ⟨-, rfl⟩ | ⟨-, -, rfl⟩ <;> rfl

/-- A step that gives no reference to the session and leaves its key alone. -/
structure SameKey (w w' : World) : Prop where
  cursorKey : w'.session.cursorKey = w.session.cursorKey
  references : w'.session.references ⊆ w.session.references

instance : Std.Refl SameKey where
  refl _ := ⟨rfl, subset_rfl⟩

instance : IsTrans World SameKey where
  trans _ _ _ h h' := ⟨h'.cursorKey.trans h.cursorKey, h'.references.trans h.references⟩

/-- So does closing. -/
theorem keeps_sameKey_close : Keeps SameKey close := by
  have hMarker : Keeps SameKey validMarker := by
    intro v
    show SameKey v (final (validMarker v))
    unfold validMarker
    split <;> exact ⟨rfl, subset_rfl⟩
  have hTree : Keeps SameKey removeSessionTree := by
    intro v
    show SameKey v (final (removeSessionTree v))
    unfold removeSessionTree
    split <;> exact ⟨rfl, subset_rfl⟩
  have hRelease : Keeps SameKey releaseLock := keeps_modify (fun _ => ⟨rfl, subset_rfl⟩)
  have hRemove : Keeps SameKey removeIfMarked := by
    refine keeps_bind ((keeps_reads_observe _).mono
      (fun _ _ h => ⟨by rw [h.session], by rw [h.session]⟩)) (fun found => ?_)
    refine keeps_ite (fun _ => ?_) (fun _ => keeps_pure _)
    refine keeps_bind hMarker (fun valid => ?_)
    refine keeps_ite (fun _ => ?_) (fun _ => keeps_pure _)
    exact keeps_bind hRelease (fun _ => hTree)
  refine keeps_bind keeps_get (fun v => ?_)
  refine keeps_ite (fun _ => keeps_pure _) (fun _ => ?_)
  refine keeps_bind (keeps_modify (fun _ => ⟨rfl, Finset.empty_subset _⟩)) (fun _ => ?_)
  refine keeps_finallyDo (keeps_rescue hRemove (fun e => ?_)) hRelease
  split <;> exact keeps_throw _

/-- No call changes the key, and every reference a call adds leads somewhere. -/
theorem cursorKey_call (c : Call) (w : World) :
    (final (c.run.run w)).session.cursorKey = w.session.cursorKey ∧
      ∀ reference ∈ (final (c.run.run w)).session.references, reference ∈ w.session.references ∨
        ∃ kind loc, destinationOf reference kind = .ok loc := by
  rcases call_step c w with hSettles | ⟨-, kind, loc, reference, hLoc, -, hRegisters⟩
  · refine ⟨hSettles.cursorKey, fun reference hMem => .inl ?_⟩
    rwa [hSettles.references] at hMem
  · refine ⟨hRegisters.cursorKey, fun other hMem => ?_⟩
    rw [hRegisters.references, Finset.mem_insert] at hMem
    rcases hMem with rfl | hMem
    · exact .inr ⟨kind, loc, hLoc⟩
    · exact .inl hMem

/-- What a run has minted was minted with the key of its start. -/
theorem Minting.minted {start : World} {mints : List Mint} (h : Minting start w mints) :
    Minted start w mints := by
  induction h with
  | opened sessionId limits cursorKey hStart =>
      refine ⟨rfl, fun reference hMem => ?_, fun mint hMint => absurd hMint List.not_mem_nil⟩
      rw [hStart] at hMem
      exact absurd hMem (Finset.notMem_empty _)
  | @call w mints c _ ih =>
      obtain ⟨hKey, hReferences⟩ := cursorKey_call c w
      refine Minted.scope ?_ hKey hReferences
      cases c with
      | encodeCursor reference view selector nextIndex =>
          refine ih.handOut (fun token w' hRun => ?_)
          obtain ⟨-, -, ⟨parts, hParts⟩, hToken⟩ := run_encodeCursor_eq_ok.1 hRun
          exact ⟨encodable_of_referenceParts hParts, hToken⟩
      | _ => exact ih
  | @pending w mints request _ ih =>
      have hReads := keeps_reads_encodePendingCursor request.reference request.view request.selector
        request.nextIndex w
      refine Minted.scope (ih.handOut (fun token w' hRun => ?_)) (by rw [hReads.session])
        (fun reference hMem => .inl (by rwa [hReads.session] at hMem))
      obtain ⟨-, ⟨parts, hParts⟩, hToken⟩ := run_encodePendingCursor_eq_ok hRun
      exact ⟨encodable_of_referenceParts hParts, hToken⟩
  | others registry _ ih => exact ih.scope rfl (fun _ hMem => .inl hMem)
  | @close w mints _ ih =>
      have hSame := keeps_sameKey_close w
      exact ih.scope hSame.cursorKey (fun _ hMem => .inl (hSame.references hMem))

/-! ## How long a cursor is -/

/-- A name that a view can have: not empty, at most 64 octets, no control characters. -/
def IsViewName (view : Text) : Prop := isCursorView view = true ∧ ∀ c ∈ view, 0x20 ≤ c.val

/-- A selector that a view can be asked for: none, or a name of one to 240 octets. -/
def IsSelector (selector : Option Text) : Prop :=
  ∀ name, selector = some name → Text.Encodable name ∧ name ≠ [] ∧ utf8Length name ≤ 240

/-- A digest is 64 plain characters. -/
theorem isPlain_of_isSha256 {digest : Text} (h : isSha256 digest = true) :
    digest.length = 64 ∧ ∀ c ∈ digest, IsPlain c := by
  simp only [isSha256, Bool.and_eq_true, beq_iff_eq, List.all_eq_true] at h
  refine ⟨h.1, fun c hc => ?_⟩
  have hChar := h.2 c hc
  simp only [CodePoint.isDigit, Bool.or_eq_true, Bool.and_eq_true, decide_eq_true_eq] at hChar
  exact isPlain_of_val (by omega) (by omega) (by omega) (by omega)

/-- A reference takes 74 octets as a JSON string. -/
theorem size_reference {reference : Text} {kind : RecordKind} {loc : Location}
    (h : destinationOf reference kind = .ok loc) : size (.str reference) = 74 := by
  obtain ⟨parts, hParts, -⟩ := Except.bind_eq_ok.1 h
  unfold referenceParts at hParts
  split at hParts
  · cases hParts
  · next parsed hMatch =>
      split_ifs at hParts with hVersion
      obtain ⟨hLength, hPlain⟩ := isPlain_of_isSha256 (isSha256_of_matchReference hMatch)
      have hKind : (py parsed.kind.scheme).length = 4 ∧ ∀ c ∈ py parsed.kind.scheme, IsPlain c := by
        cases parsed.kind <;> exact ⟨rfl, isPlain_of_all (by decide)⟩
      rw [eq_of_matchReference hMatch, not_not.1 hVersion, size_str_of_isPlain]
      · simp only [List.length_append, hKind.1, hLength]
        rfl
      · intro c hc
        simp only [List.mem_append] at hc
        rcases hc with (((hc | hc) | hc) | hc) | hc
        · exact hKind.2 c hc
        · exact isPlain_of_all (s := py ":v") (by decide) c hc
        · exact isPlain_of_all (s := py "1") (by decide) c hc
        · exact isPlain_of_all (s := py ":") (by decide) c hc
        · exact hPlain c hc

/-- A selector has a short binding. -/
theorem cursorSelectorBinding_of_isSelector {selector : Option Text} (h : IsSelector selector) :
    ∃ binding, cursorSelectorBinding selector = .ok binding ∧ Printable binding ∧
      size binding ≤ 66 := by
  cases selector with
  | none => exact ⟨.null, rfl, printable_null, by rw [size_null]; omega⟩
  | some name =>
      obtain ⟨hEncodable, hSome, hLength⟩ := h name rfl
      have hRaw : utf8Raw name ≠ [] := by
        cases name with
        | nil => exact absurd rfl hSome
        | cons c rest =>
            intro hNil
            exact utf8Char_ne_nil c (List.append_eq_nil_iff.1 hNil).1
      obtain ⟨hDigest, hPlain⟩ := isPlain_of_isSha256
        (isSha256_sha256Hex (cursorSelectorDomain ++ utf8Raw name))
      refine ⟨.str (sha256Hex (cursorSelectorDomain ++ utf8Raw name)), ?_,
        printable_str (isAscii_sha256Hex _).encodable, ?_⟩
      · simp only [cursorSelectorBinding, utf8_eq_some_iff.2 ⟨hEncodable, rfl⟩]
        exact if_neg (not_or.2 ⟨hRaw, not_lt.2 hLength⟩)
      · rw [size_str_of_isPlain hPlain, hDigest]

/-- The payload of a cursor takes at most 330 octets. -/
theorem size_cursorPayload_le {reference view : Text} {binding : Value} {nextIndex : ℤ}
    {kind : RecordKind} {loc : Location} (hReference : destinationOf reference kind = .ok loc)
    (hView : IsViewName view) (hBinding : size binding ≤ 66)
    (hIndex : 0 ≤ nextIndex ∧ nextIndex ≤ 9007199254740991) :
    size (cursorPayload reference view binding nextIndex) ≤ 330 := by
  have hLength : utf8Length view ≤ 64 := by
    have hIsView := hView.1
    simp only [isCursorView, Bool.and_eq_true, decide_eq_true_eq] at hIsView
    exact hIsView.2
  have hViewSize := size_str_le_mul (fun c hc => utf8Length_escape_le_two (hView.2 c hc))
  have hOne : size (.int 1) ≤ 17 := size_int_le (by decide)
  have hIndexSize : size (.int nextIndex) ≤ 17 := size_int_le (by omega)
  have hReferenceSize := size_reference hReference
  have hKey : ∀ key ∈ cursorKeys, utf8Length (writeString key) = 3 := by decide
  simp only [cursorKeys, List.forall_mem_cons] at hKey
  obtain ⟨hI, hR, hS, hV, hZ, -⟩ := hKey
  rw [cursorPayload, size_obj]
  simp only [List.map_cons, List.map_nil, List.sum_cons, List.sum_nil, List.length_cons,
    List.length_nil, memberSize, hI, hR, hS, hV, hZ]
  omega

/-- A cursor for a reference of this version fits the bound of the decoder. -/
theorem exists_encodeCursorToken (cursorKey : Bytes) {reference view : Text}
    {selector : Option Text} {nextIndex : ℤ} {kind : RecordKind} {loc : Location}
    (hReference : destinationOf reference kind = .ok loc) (hView : IsViewName view)
    (hSelector : IsSelector selector) (hIndex : 0 ≤ nextIndex ∧ nextIndex ≤ 9007199254740991) :
    ∃ token, encodeCursorToken cursorKey reference view selector nextIndex = .ok token ∧
      token.length ≤ maxCursorBytes := by
  obtain ⟨binding, hBinding, hBindingPrintable, hBindingSize⟩ :=
    cursorSelectorBinding_of_isSelector hSelector
  have hEncodable : Text.Encodable view := by
    have hIsView := hView.1
    simp only [isCursorView, Bool.and_eq_true, decide_eq_true_eq] at hIsView
    exact hIsView.1.1
  have hPrintable : Printable (cursorPayload reference view binding nextIndex) := by
    refine printable_obj.2 ?_
    simp only [List.forall_mem_cons, List.not_mem_nil, false_imp_iff, implies_true, and_true]
    exact ⟨⟨by decide, printable_int (by omega)⟩,
      ⟨by decide, printable_str (encodable_of_destinationOf hReference)⟩,
      ⟨by decide, hBindingPrintable⟩, ⟨by decide, printable_str hEncodable⟩,
      by decide, printable_int (by decide)⟩
  -- The payload takes 330 octets at most, the tag 32, and Base64 a third more.
  have hSize := size_cursorPayload_le hReference hView hBindingSize hIndex
  have hPayload :
    (utf8Raw (render .compactSorted 0 (cursorPayload reference view binding nextIndex))).length
      ≤ 330 := by
    rw [size] at hSize
    exact hSize
  generalize hText : render .compactSorted 0 (cursorPayload reference view binding nextIndex) = text
    at hPayload
  have hShort : (Base64.encode (utf8Raw text ++ hmacSha256 cursorKey (utf8Raw text))).length
      ≤ maxCursorBytes := by
    have hEncode := Base64.length_encode_le (utf8Raw text ++ hmacSha256 cursorKey (utf8Raw text))
    rw [List.length_append, hmacSha256_length] at hEncode
    rw [maxCursorBytes]
    omega
  refine ⟨_, encodeCursorToken_eq_ok.2 ⟨binding, utf8Raw text, ?_⟩, hShort⟩
  refine ⟨hBinding, hView.1, hIndex, ⟨text, dumps_eq_ok.2 ⟨hPrintable.1, hText⟩, ?_⟩, rfl, hShort⟩
  exact validUtf8_eq_ok.2 ⟨hText ▸ hPrintable.2, rfl⟩

/-! ## What a cursor is accepted for -/

/-- The text of an authentic token is determined by its payload. -/
theorem eq_of_authenticPayload {cursorKey payload : Bytes} {token : Text}
    (h : authenticPayload cursorKey token = .ok payload) :
    token = Base64.encode (payload ++ hmacSha256 cursorKey payload) := by
  unfold authenticPayload at h
  rw [Except.throwIf_eq_ok] at h
  obtain ⟨-, h⟩ := h
  split at h
  · cases h
  · next decoded _ =>
    simp only [Except.throwIf_eq_ok, Except.pure_eq_ok, not_not] at h
    obtain ⟨hSpelling, -, hMac, rfl⟩ := h
    rw [← hMac, List.take_append_drop, hSpelling]

/-- A token that verifies under a key although no cursor handed out carries its payload. -/
def Forged (cursorKey : Bytes) (mints : List Mint) (token : Text) : Prop :=
  ∃ payload, authenticPayload cursorKey token = .ok payload ∧
    ∀ mint ∈ mints, authenticPayload cursorKey mint.token ≠ .ok payload

/-- Two selectors have different digests, unless they are the same octets. -/
def NoSelectorCollision (selector selector' : Option Text) : Prop :=
  ∀ name name', selector = some name → selector' = some name' →
    sha256Hex (cursorSelectorDomain ++ utf8Raw name) =
      sha256Hex (cursorSelectorDomain ++ utf8Raw name') →
    cursorSelectorDomain ++ utf8Raw name = cursorSelectorDomain ++ utf8Raw name'

/-- The binding of a name is its hash. -/
theorem cursorSelectorBinding_some {name : Text} {binding : Value}
    (h : cursorSelectorBinding (some name) = .ok binding) :
    Text.Encodable name ∧ binding = .str (sha256Hex (cursorSelectorDomain ++ utf8Raw name)) := by
  unfold cursorSelectorBinding at h
  dsimp only at h
  split at h
  · cases h
  · next encoded hEncoded =>
    obtain ⟨hEncodable, rfl⟩ := utf8_eq_some_iff.1 hEncoded
    split_ifs at h
    cases h
    exact ⟨hEncodable, rfl⟩

/-- Without a collision the binding tells the selector. -/
theorem eq_of_cursorSelectorBinding {selector selector' : Option Text} {binding binding' : Value}
    (h : cursorSelectorBinding selector = .ok binding)
    (h' : cursorSelectorBinding selector' = .ok binding')
    (hApart : NoSelectorCollision selector selector') (hEq : binding.pyEq binding' = true) :
    selector = selector' := by
  cases selector with
  | none =>
      cases h
      cases selector' with
      | none => rfl
      | some name' =>
          obtain ⟨-, rfl⟩ := cursorSelectorBinding_some h'
          cases hEq
  | some name =>
      obtain ⟨hEncodable, rfl⟩ := cursorSelectorBinding_some h
      cases selector' with
      | none =>
          cases h'
          cases hEq
      | some name' =>
          obtain ⟨hEncodable', rfl⟩ := cursorSelectorBinding_some h'
          have hDigest : sha256Hex (cursorSelectorDomain ++ utf8Raw name)
              = sha256Hex (cursorSelectorDomain ++ utf8Raw name') := beq_iff_eq.1 hEq
          have hRaw := List.append_cancel_left (hApart name name' rfl rfl hDigest)
          rw [utf8_inj (utf8_eq_some_iff.2 ⟨hEncodable, rfl⟩)
            (utf8_eq_some_iff.2 ⟨hEncodable', hRaw.symm⟩)]

/-- A token that decodes under the key of a session was handed out for what it is used for. -/
theorem Minted.of_decodeCursorToken {start : World} {mints : List Mint} (h : Minted start w mints)
    {token reference view : Text} {selector : Option Text} {index : ℤ}
    (hDecode : decodeCursorToken start.session.cursorKey token reference view selector = .ok index)
    (hForged : ¬ Forged start.session.cursorKey mints token)
    (hApart : ∀ mint ∈ mints, NoSelectorCollision mint.selector selector) :
    { reference, view, selector, nextIndex := index, token } ∈ mints := by
  obtain ⟨payload, hPayload, hDecode⟩ := Except.bind_eq_ok.1 hDecode
  obtain ⟨value, hLoads, hBound⟩ := Except.bind_eq_ok.1 hDecode
  have hExists : ∃ mint ∈ mints, authenticPayload start.session.cursorKey mint.token =
    .ok payload := by
    by_contra hNone
    refine hForged ⟨payload, hPayload, fun mint hMint hAuthentic => ?_⟩
    exact hNone ⟨mint, hMint, hAuthentic⟩
  obtain ⟨mint, hMint, hAuthentic⟩ := hExists
  obtain ⟨hEncodable, hMade⟩ := h.made mint hMint
  obtain ⟨binding, payload', hToken⟩ := encodeCursorToken_eq_ok.1 hMade
  have hSame : payload' = payload :=
    Except.ok.inj ((hToken.authentic hEncodable).symm.trans hAuthentic)
  subst hSame
  have hValue : value = cursorPayload mint.reference mint.view binding mint.nextIndex :=
    Except.ok.inj (hLoads.symm.trans (hToken.loads hEncodable))
  rw [hValue, boundIndex_cursorPayload_eq_ok] at hBound
  obtain ⟨hReference, hView, ⟨binding', hBinding, hEq⟩, -, hIndex⟩ := hBound
  have hSelector := eq_of_cursorSelectorBinding hToken.bound hBinding (hApart mint hMint) hEq
  have hText : token = mint.token :=
    (eq_of_authenticPayload hPayload).trans (eq_of_authenticPayload hAuthentic).symm
  rw [← hReference, ← hView, ← hSelector, ← hIndex, hText]
  exact hMint

/-- The token of a live reference is handed out, and decodes to its index. -/
theorem Minted.run_cursor {start : World} {mints : List Mint} (h : Minted start w mints)
    {reference view token : Text} {selector : Option Text} {nextIndex : ℤ}
    (hLive : Live w reference)
    (hToken : encodeCursorToken start.session.cursorKey reference view selector nextIndex =
      .ok token) :
    (encodeCursor reference view selector nextIndex).run w = .ok token w ∧
      (decodeCursor token reference view selector).run w = .ok nextIndex w := by
  obtain ⟨kind, loc, hLoc⟩ := h.formed reference hLive.registered
  have hParts := referenceParts_of_destinationOf hLoc
  refine ⟨run_encodeCursor_eq_ok.2 ⟨rfl, hLive, hParts, ?_⟩,
    run_decodeCursor_eq_ok.2 ⟨rfl, hLive, hParts, ?_⟩⟩
  · rw [h.key]
    exact hToken
  · rw [h.key]
    exact decodeCursorToken_encodeCursorToken (encodable_of_destinationOf hLoc) hToken

/-- What decodes is a token. -/
theorem isCursorToken_of_decodeCursorToken {cursorKey : Bytes} {token reference view : Text}
    {selector : Option Text} {index : ℤ}
    (h : decodeCursorToken cursorKey token reference view selector = .ok index) :
    isCursorToken token = true := by
  obtain ⟨payload, hPayload, -⟩ := Except.bind_eq_ok.1 h
  unfold authenticPayload at hPayload
  rw [Except.throwIf_eq_ok, Bool.not_eq_false] at hPayload
  exact hPayload.1

/-- Cursors work for what they were made for and for nothing else. In every state of a session: a
cursor for a live reference can be made, fits the bound of the decoder and reads back as its index;
every cursor handed out before, for a record already published or still pending, is the one that
would be handed out now and reads back as its index; and a cursor that is accepted was handed out
for that reference, view, selector and index. -/
theorem cursor_round_trip_binding {start : World} {mints : List Mint} (h : Minting start w mints) :
    (∀ reference view selector nextIndex, Live w reference → IsViewName view → IsSelector selector →
        0 ≤ nextIndex → nextIndex ≤ 2 ^ 53 - 1 →
        ∃ token, (encodeCursor reference view selector nextIndex).run w = .ok token w ∧
          isCursorToken token = true ∧
          (decodeCursor token reference view selector).run w = .ok nextIndex w) ∧
      (∀ mint ∈ mints, Live w mint.reference →
        (encodeCursor mint.reference mint.view mint.selector mint.nextIndex).run w
            = .ok mint.token w ∧
          (decodeCursor mint.token mint.reference mint.view mint.selector).run w
            = .ok mint.nextIndex w) ∧
      ∀ token reference view selector index w',
        (decodeCursor token reference view selector).run w = .ok index w' →
        ¬ Forged w.session.cursorKey mints token →
        (∀ mint ∈ mints, NoSelectorCollision mint.selector selector) →
        { reference, view, selector, nextIndex := index, token } ∈ mints := by
  have hMinted := h.minted
  refine ⟨?_, ?_, ?_⟩
  · intro reference view selector nextIndex hLive hView hSelector hLow hHigh
    obtain ⟨kind, loc, hLoc⟩ := hMinted.formed reference hLive.registered
    obtain ⟨token, hToken, -⟩ := exists_encodeCursorToken start.session.cursorKey hLoc hView
      hSelector
      ⟨hLow, hHigh⟩
    obtain ⟨hEncode, hDecode⟩ := hMinted.run_cursor hLive hToken
    obtain ⟨-, -, -, hIndex⟩ := run_decodeCursor_eq_ok.1 hDecode
    exact ⟨token, hEncode, isCursorToken_of_decodeCursorToken hIndex, hDecode⟩
  · intro mint hMint hLive
    exact hMinted.run_cursor hLive (hMinted.made mint hMint).2
  · intro token reference view selector index w' hRun hForged hApart
    obtain ⟨-, -, -, hIndex⟩ := run_decodeCursor_eq_ok.1 hRun
    rw [hMinted.key] at hForged hIndex
    exact hMinted.of_decodeCursorToken hIndex hForged hApart

/-- A cursor is prepared for a record that has not been published yet. -/
theorem run_encodePendingCursor_of_token {reference view token : Text} {selector : Option Text}
    {index : ℤ} {kind : RecordKind} {loc : Location} (hOpen : w.session.closed = false)
    (hLoc : destinationOf reference kind = .ok loc)
    (hCorrupt : reference ∉ w.session.corruptReferences)
    (hToken : encodeCursorToken w.session.cursorKey reference view selector index = .ok token) :
    (encodePendingCursor reference view selector index).run w = .ok token w := by
  obtain ⟨parts, hParts⟩ := referenceParts_of_destinationOf hLoc
  unfold encodePendingCursor
  rw [run_requireOpen_bind_eq_ok, run_lift_bind_eq_ok]
  refine ⟨hOpen, parts, hParts, ?_⟩
  simp only [run_get_bind, run_raiseIf_bind_eq_ok, run_lift_eq_ok]
  exact ⟨hCorrupt, hToken, trivial⟩

/-- A request that was answered mints its token. -/
theorem Mint.of_eq {request : CursorRequest} {x : Host Text} {token : Text}
    (h : x.run w = .ok token w') : Mint.of request x w = [{ request with token }] := by
  unfold Mint.of
  rw [h]

/-- The cursor behind the first row of the sample. -/
def secondRow : CursorRequest := ⟨sampleReference, py "preview", none, 1⟩

/-- The run in which the sample is published after a cursor has been prepared for it, other sessions
act, and the cursor is asked for again. -/
theorem minting_sample : ∃ token w,
    Minting (World.opened [] sampleLimits []) w [{ secondRow with token },
    { secondRow with token }] ∧
      Live w sampleReference := by
  have hOpened : Minting (World.opened [] sampleLimits []) (World.opened [] sampleLimits []) [] :=
    .opened [] sampleLimits [] rfl
  have hPrintable : (py "preview").all (fun c => decide (0x20 ≤ c.val)) = true := by decide
  have hView : IsViewName (py "preview") :=
    ⟨by decide +kernel, fun c hc => of_decide_eq_true (List.all_eq_true.1 hPrintable c hc)⟩
  have hSelector : IsSelector none := fun _ h => nomatch h
  have hIndex : (0 : ℤ) ≤ 1 ∧ (1 : ℤ) ≤ 9007199254740991 := by decide
  obtain ⟨token, hToken, -⟩ :=
    exists_encodeCursorToken [] destinationOf_sampleReference hView hSelector hIndex
  -- the cursor is prepared
  have hPrepared := hOpened.pending secondRow
  have hPendingRun : (encodePendingCursor secondRow.reference secondRow.view secondRow.selector
      secondRow.nextIndex).run (World.opened [] sampleLimits []) = .ok token
        (World.opened [] sampleLimits []) :=
    run_encodePendingCursor_of_token rfl destinationOf_sampleReference (Finset.notMem_empty _)
      hToken
  rw [Mint.of_eq hPendingRun, hPendingRun, final_ok] at hPrepared
  -- the sample is published, and other sessions act
  obtain ⟨w₁, hRun, hHolds⟩ := run_publishDataset_sample (freshSession_opened [])
  have hPublished := hPrepared.call (.publishDataset (samplePayload integerCell) sampleRecord)
  have hCall : (Call.publishDataset (samplePayload integerCell) sampleRecord).run.run
      (World.opened [] sampleLimits []) = .ok () w₁ := run_bind_eq_ok.2 ⟨_, _, hRun, rfl⟩
  rw [hCall, final_ok] at hPublished
  have hOthers := hPublished.others (fun _ => ∅)
  have hLive : Live { w₁ with registry := fun _ => ∅ } sampleReference := by
    refine ⟨?_, ?_, ?_⟩ <;> simp only [hHolds.session]
    · rfl
    · exact Finset.mem_insert_self _ _
    · exact Finset.notMem_empty _
  -- the cursor is asked for
  obtain ⟨hEncode, -⟩ := hOthers.minted.run_cursor hLive hToken
  have hAsked := hOthers.call (.encodeCursor sampleReference (py "preview") none 1)
  have hAskedRun : (Call.encodeCursor sampleReference (py "preview") none 1).run.run
      { w₁ with registry := fun _ => ∅ } = .ok () { w₁ with registry := fun _ => ∅ } :=
    run_bind_eq_ok.2 ⟨_, _, hEncode, rfl⟩
  rw [hAskedRun, final_ok] at hAsked
  have hMinted : Call.minted { w₁ with registry := fun _ => ∅ }
      (.encodeCursor sampleReference (py "preview") none 1) = [{ secondRow with token }] :=
    Mint.of_eq hEncode
  rw [hMinted] at hAsked
  exact ⟨token, _, hAsked, hLive⟩

/-- The cursor behind the first row of the sample, prepared before the sample was published and
asked for afterwards: it reads back as its index, is accepted for what it was made for and for no
other view, and for nothing once the session is closed. -/
theorem cursor_round_trip_binding_sample : ∃ token w mints,
    Minting (World.opened [] sampleLimits []) w mints ∧ { secondRow with token } ∈ mints ∧
      Live w sampleReference ∧
      (encodeCursor sampleReference (py "preview") none 1).run w = .ok token w ∧
      (decodeCursor token sampleReference (py "preview") none).run w = .ok 1 w ∧
      (∀ view index w', (decodeCursor token sampleReference view none).run w = .ok index w' →
        view = py "preview" ∧ index = 1) ∧
      ∀ view index w', (decodeCursor token sampleReference view none).run (final (close.run w))
        ≠ .ok index w' := by
  obtain ⟨token, w, hMinting, hLive⟩ := minting_sample
  obtain ⟨-, hKept, hAccepted⟩ := cursor_round_trip_binding hMinting
  have hMem : ({ secondRow with token } : Mint) ∈ [{ secondRow with token }, { secondRow with token }] :=
    List.mem_cons_self
  obtain ⟨hEncode, hDecode⟩ := hKept _ hMem hLive
  refine ⟨token, w, _, hMinting, hMem, hLive, hEncode, hDecode, fun view index w' hRun => ?_,
    fun view index w' hRun => ?_⟩
  · have hMint := hAccepted _ _ _ _ _ _ hRun
      (fun ⟨payload, hPayload, hOther⟩ => hOther _ hMem hPayload)
      (fun mint _ name name' _ hName => nomatch hName)
    have hEq : ({ reference := sampleReference, view, selector := none, nextIndex := index, token } : Mint)
        = { secondRow with token } := by
      rcases List.mem_cons.1 hMint with hEq | hMint
      · exact hEq
      · exact List.mem_singleton.1 hMint
    cases hEq
    exact ⟨rfl, rfl⟩
  · obtain ⟨-, hOpen, -⟩ := run_decodeCursor_eq_ok.1 hRun
    have hClosed := (close_scopeChange w).2.2
    rw [hOpen.isOpen] at hClosed
    cases hClosed

end SessionCas
