import DefinedQuant.Shared.SessionCas

/-!
# Cursors, and the end of a session

A cursor is an opaque token for the next index of one view of one record. Its payload names the
index, the record, the view and a digest of the selector, and is authenticated with the key of the
session, so that only the session that made a cursor accepts it, and only for what it was made for.

Closing a session expires its references before anything is removed from the disk.
-/

namespace SessionCas

open Json Canonical Protocol DataRecords HostFailures LocalHost FileTree

/-! ## Cursors -/

/-- `_CURSOR_SELECTOR_DOMAIN` -/
def cursorSelectorDomain : Bytes := utf8Raw (py "defined-quant-cursor-selector-v1") ++ [0]

/-- `_cursor_selector_binding` -/
def cursorSelectorBinding : Option Text → Except ValueError Value
  | none => .ok .null
  | some selector =>
      match utf8 selector with
      | none => .error ⟨"surrogates not allowed"⟩
      | some encoded =>
          if encoded = [] ∨ 240 < encoded.length then .error ⟨"invalid cursor selector"⟩
          else .ok (.str (sha256Hex (cursorSelectorDomain ++ encoded)))

/-- The payload of a cursor. -/
def cursorPayload (reference view : Text) (selectorBinding : Value) (nextIndex : ℤ) : Value :=
  .obj [(py "i", .int nextIndex), (py "r", .str reference), (py "s", selectorBinding),
    (py "v", .str view), (py "z", .int 1)]

/-- A view that a cursor may name: not empty, at most 64 octets. -/
def isCursorView (view : Text) : Bool :=
  decide (Text.Encodable view) && !view.isEmpty && utf8Length view ≤ 64

/-- `_encode_cursor_token` -/
def encodeCursorToken (cursorKey : Bytes) (reference view : Text) (selector : Option Text)
    (nextIndex : ℤ) : Except Raised Text := do
  let selectorBinding ← (cursorSelectorBinding selector).mapError (fun _ => invalidRequest [])
  if isCursorView view = false ∨ ¬ (0 ≤ nextIndex ∧ nextIndex ≤ 9007199254740991) then
    throw (invalidRequest [])
  let text ← (dumps .compactSorted (cursorPayload reference view selectorBinding
    nextIndex)).mapError
    Raised.value
  let payload ← (validUtf8 text).mapError Raised.value
  let token := Base64.encode (payload ++ hmacSha256 cursorKey payload)
  if maxCursorBytes < token.length then throw (invalidRequest [])
  return token

/-- `encode_cursor` -/
def encodeCursor (reference view : Text) (selector : Option Text) (nextIndex : ℤ) : Host Text := do
  requireOpen
  let _ ← Effect.lift id (referenceParts reference none)
  let w ← get
  Effect.raiseIf (reference ∈ w.session.corruptReferences) (failure .recordCorrupt)
  Effect.raiseIf (reference ∉ w.session.references)
    (if w.registry.knownOutside w.session.sessionId reference then failure .referenceScopeDenied
      else failure .referenceNotFound)
  Effect.lift id (encodeCursorToken w.session.cursorKey reference view selector nextIndex)

/-- `_CURSOR_PATTERN`: `^[A-Za-z0-9_-]{1,512}$` -/
def isCursorToken (token : Text) : Bool :=
  1 ≤ token.length && token.length ≤ 512 && token.all (fun c => decide (Base64.IsSymbol c))

/-- The payload of an authentic token. -/
def authenticPayload (cursorKey : Bytes) (token : Text) : Except ValueError Bytes := do
  if isCursorToken token = false then throw ⟨"invalid cursor shape"⟩
  match Base64.decode token with
  | none => throw ⟨"Incorrect padding"⟩
  | some decoded =>
      if Base64.encode decoded ≠ token then throw ⟨"non-canonical cursor encoding"⟩
      if decoded.length ≤ 32 then throw ⟨"invalid cursor length"⟩
      let payload := decoded.take (decoded.length - 32)
      if decoded.drop (decoded.length - 32) ≠ hmacSha256 cursorKey payload then
        throw ⟨"invalid cursor authentication"⟩
      return payload

/-- The keys of a cursor payload. -/
def cursorKeys : List Text := [py "i", py "r", py "s", py "v", py "z"]

/-- The index in a payload that is bound to a reference, a view and a selector. -/
def boundIndex (value : Value) (reference view : Text) (selector : Option Text) :
    Except ValueError ℤ := do
  match value with
  | .obj m =>
      if sameNames (m.map Prod.fst) cursorKeys = false then throw ⟨"invalid cursor payload"⟩
      match Value.get? (py "z") m, Value.get? (py "r") m, Value.get? (py "v") m,
        Value.get? (py "s") m, Value.get? (py "i") m with
      | some z, some r, some v, some s, some i =>
          if z.pyEq (.int 1) = false ∨ r.pyEq (.str reference) = false ∨
              v.pyEq (.str view) = false then
            throw ⟨"cursor binding mismatch"⟩
          if s.pyEq (← cursorSelectorBinding selector) = false then
            throw ⟨"cursor binding mismatch"⟩
          match i with
          | .int n => if n < 0 then throw ⟨"cursor binding mismatch"⟩ else return n
          | _ => throw ⟨"cursor binding mismatch"⟩
      | _, _, _, _, _ => throw ⟨"invalid cursor payload"⟩
  | _ => throw ⟨"invalid cursor payload"⟩

/-- The part of `decode_cursor` that depends on the token and the key alone. -/
def decodeCursorToken (cursorKey : Bytes) (token reference view : Text) (selector : Option Text) :
    Except ValueError ℤ := do
  let payload ← authenticPayload cursorKey token
  let value ← strictJsonLoads payload none
  boundIndex value reference view selector

/-- `decode_cursor` -/
def decodeCursor (token reference view : Text) (selector : Option Text) : Host ℤ := do
  requireOpen
  let w ← get
  let index ← Effect.lift (fun _ => invalidRequest [])
    (decodeCursorToken w.session.cursorKey token reference view selector)
  let _ ← Effect.lift id (referenceParts reference none)
  Effect.raiseIf (reference ∉ w.session.references ∨ reference ∈ w.session.corruptReferences)
    (invalidRequest [])
  return index

/-! ## Opening and closing -/

/-- The state of a session that has just been opened. -/
def Session.opened (sessionId : Text) (limits : CasLimits) (cursorKey : Bytes) : Session where
  sessionId := sessionId
  limits := limits
  cursorKey := cursorKey
  references := ∅
  corruptReferences := ∅
  usedBytes := 0
  closed := false
  lockHeld := true
  counted := fun _ => 0
  failures := ∅

/-- `_MARKER_VALUE` -/
def markerValue : Value :=
  .obj [(py "application", .lit "defined-quant-local-mcp"), (py "schema_version", .int 1)]

/-- `_valid_marker_content` -/
def validMarkerContent (content : Bytes) : Bool :=
  match strictCasJsonLoads content 1024 with
  | .ok value => value.pyEq markerValue
  | .error _ => false

/-- `self._directory.exists()` -/
def directoryExists : Host Bool := observe (fun disk => disk.present)

/-- `_valid_marker` -/
def validMarker : Host Bool := fun w =>
  match w.oracle.fault w.tick, answer w.stir.disk.marker (.readPrivateFile [] 1024) with
  | none, .ok content => .ok (validMarkerContent content) w.stir
  | _, _ => .ok false w.stir

/-- The session directory after it has been removed. -/
def Disk.removed (_ : Disk) : Disk := ⟨false, none, fun _ => none⟩

/-- `remove_private_tree` and `remove_locked_session_tree` of the whole session directory -/
def removeSessionTree : Host Unit := fun w =>
  match w.oracle.fault w.tick with
  | some fault => .error (.filesystem fault.code fault.actual)
      { w.stir with disk := { w.stir.disk with
          entry := fun loc => fault.residue (w.stir.disk.entry loc) } }
  | none => .ok () { w.stir with disk := Disk.removed w.stir.disk }

/-- The world once a session is marked closed and its references are given up. -/
def World.expire (w : World) : World :=
  { w with
    session := { w.session with closed := true, references := ∅ }
    registry := w.registry.unregisterSession w.session.sessionId }

/-- Release the lock, if it is still held. -/
def releaseLock : Host Unit :=
  modify (fun w => { w with session := { w.session with lockHeld := false } })

/-- Remove the directory of a session, if it is there and carries the marker. -/
def removeIfMarked : Host Unit := do
  if ← directoryExists then
    if ← validMarker then
      releaseLock
      removeSessionTree
    else return
  else return

/-- `close`; removing a locked tree releases the lock, also when it fails. -/
def close : Host Unit := do
  if (← get).session.closed then return
  else
    modify World.expire
    Effect.finallyDo (Effect.rescue removeIfMarked (fun e =>
      match e with
      | .filesystem _ _ | .os => throw (failure .recordPublicationFailed)
      | e => throw e)) releaseLock

end SessionCas
