import DefinedQuant.Protocol.Plan
import DefinedQuant.Protocol.Result
import DefinedQuant.Shared.DataRecords.FaithfulDocuments

/-!
# Failures of operations

`operationFailure` turns what an operation raised into the failure of the wire. Details that
`json.dumps` refuses are replaced and the code stays; details that only the canonical rules refuse,
and a message without a UTF-8 form, replace the whole error by a generic one.
-/

namespace OperationRuntime

open Json Canonical Protocol DataRecords

/-- `OperationRuntimeError` -/
structure OperationRuntimeError where
  code : OperationErrorCode
  message : Text
  component : Option ComponentRef
  details : Members
  distinct_details : (Value.obj details).Distinct

/-- What an operation raises: its own error, or any other `Exception`, of which the type is
reported. -/
inductive OperationException where
  | runtime (error : OperationRuntimeError)
  | other (typeName : String)

/-- `_sanitize_json_value` of a dict -/
def sanitizeDetails (details : Members) : Value :=
  match dumps .compactSorted (.obj details) >>= loads with
  | .ok value => value
  | .error _ => objectOf [("unavailable_type", .lit "dict")]

/-- `_safe_details` -/
def safeDetails (details : Members) : Members :=
  match sanitizeDetails details with
  | .obj m => m
  | value => [(py "value", value)]

/-- `_safe_text` of a `str` -/
def safeText (value : Text) (fallback : String) : Text :=
  if value.take 500 = [] then py fallback else value.take 500

/-- `OperationError(...)` -/
def makeOperationError (code : OperationErrorCode) (message : Text)
    (component : Option ComponentRef) (details : Members) : Except ValueError OperationError :=
  if h : charsWithin 1 500 message = true then do
    let details ← SortedObject.codec.decode (.obj details)
    checked OperationErrorFields.validateCanonicalDetails ⟨code, ⟨message, h⟩, component, details⟩
  else .error ⟨"validation error"⟩

/-- `OperationFailure(...)` -/
def makeOperationFailure (operationHash : Option Text) (error : OperationError) :
    Except ValueError OperationFailure :=
  match operationHash with
  | none => .ok ⟨none, error⟩
  | some digest =>
      if h : isSha256 digest = true then .ok ⟨some ⟨digest, h⟩, error⟩
        else .error ⟨"validation error"⟩

/-- `request.operation_hash if request is not None else None` -/
def requestHash : Option OperationRequest → Except ValueError (Option Text)
  | none => .ok none
  | some request => some <$> operationHash request

/-- The error of a failure. -/
def errorOf (request : Option OperationRequest) : OperationException →
    Except ValueError OperationError
  | .runtime e =>
      makeOperationError e.code (safeText e.message "The unmanaged operation failed.") e.component
        (safeDetails e.details)
  | .other typeName =>
      makeOperationError .operationFailed (py "The unmanaged operation failed unexpectedly.")
        (request.map (fun r => r.1.component)) [(py "type", .lit typeName)]

/-- What `operation_failure` tries first. -/
def specificFailure (exc : OperationException) (request : Option OperationRequest) :
    Except ValueError OperationFailure := do
  let error ← errorOf request exc
  makeOperationFailure (← requestHash request) error

/-- The failure without details that stands for one that cannot be built. -/
def genericFailure : OperationFailure where
  operationHash := none
  error :=
    ⟨⟨.operationFailed, ⟨py "The unmanaged operation failure could not be serialized safely.", by
      decide⟩,
    none, emptyObject⟩, rfl⟩

/-- `operation_failure` -/
def operationFailure (exc : OperationException) (request : Option OperationRequest) :
    OperationFailure :=
  match specificFailure exc request with
  | .ok failure => failure
  | .error _ => genericFailure

/-! ## Requests have hashes -/

theorem accepts_nullable {α : Type} {c : Codec α} {h : ∀ a, (c.encode a).isNull = false}
    (hc : ∀ a, Accepts (c.encode a)) (a : Option α) : Accepts ((c.nullable h).encode a) := by
  cases a with
  | none => exact accepts_null
  | some a => exact hc a

theorem accepts_provenance (self : CallerProvenance) :
    Accepts (CallerProvenance.codec.encode self) := by
  have hSame : CallerProvenance.codec.encode self = objectOf
      [("source_kind", SourceKind.codec.encode self.sourceKind),
        ("interpretation_method", InterpretationMethod.codec.encode self.interpretationMethod),
        ("verification_status", ProvenanceStatus.codec.encode self.verificationStatus),
        ("label", .str self.label.1),
        ("references", .list (self.references.1.map (fun t => .str t.1))),
        ("content_sha256", optionalSha256.encode self.contentSha256),
        ("assumptions", .list (self.assumptions.1.map (fun t => .str t.1)))] := rfl
  rw [hSame, accepts_objectOf]
  simp only [List.forall_mem_cons, List.not_mem_nil, false_imp_iff, implies_true, and_true]
  exact ⟨accepts_lit _, accepts_lit _, accepts_lit _, accepts_str.2 (encodable_chars _),
    accepts_texts _, accepts_nullable (fun digest => accepts_str.2 (encodable_sha256Text digest)) _,
    accepts_texts _⟩

theorem accepts_request (request : OperationRequest) :
    Accepts (OperationRequest.codec.encode request) := by
  have hSame : OperationRequest.codec.encode request = objectOf
      [("schema_version", .int 1), ("component", request.1.component.dump),
        ("input", .obj request.1.input.members),
        ("provenance", CallerProvenance.codec.encode request.1.provenance),
        ("artifacts", (SvgArtifactRequest.codec.nullable (fun _ => rfl)).encode
        request.1.artifacts)] := rfl
  have hInput : Accepts (.obj request.1.input.members) := by
    obtain ⟨bytes, hBytes, -⟩ := Except.bind_eq_ok.1 request.2
    exact ⟨bytes, hBytes⟩
  have hSvg : ∀ svg, Accepts (SvgArtifactRequest.codec.encode svg) := by
    intro svg
    have hFields : SvgArtifactRequest.codec.encode svg = objectOf [("kind", .lit "svg"),
      ("selection", .lit "all")] :=
      rfl
    rw [hFields, accepts_objectOf]
    simp only [List.forall_mem_cons, List.not_mem_nil, false_imp_iff, implies_true, and_true]
    exact ⟨accepts_lit _, accepts_lit _⟩
  rw [hSame, accepts_objectOf]
  simp only [List.forall_mem_cons, List.not_mem_nil, false_imp_iff, implies_true, and_true]
  exact ⟨accepts_one, request.1.component.accepts_dump, hInput, accepts_provenance _,
    accepts_nullable hSvg _⟩

theorem operationHash_isOk (request : OperationRequest) :
    ∃ digest, operationHash request = .ok digest ∧
    isSha256 digest = true := by
  obtain ⟨digest, h⟩ := (@canonicalHash_isOk_iff _ operationHashDomain (by decide)).2
    (accepts_request request)
  refine ⟨digest, h, ?_⟩
  obtain ⟨payload, -, hDigest⟩ := Except.bind_eq_ok.1 h
  rw [← Except.pure_eq_ok.1 hDigest]
  exact isSha256_sha256Hex payload

theorem requestHash_isOk (request : Option OperationRequest) (error : OperationError) :
    ∃ digest failure, requestHash request = .ok digest ∧ makeOperationFailure digest error =
      .ok failure ∧
      failure.error = error := by
  cases request with
  | none => exact ⟨none, _, rfl, rfl, rfl⟩
  | some request =>
      obtain ⟨digest, hDigest, hSha⟩ := operationHash_isOk request
      refine ⟨some digest, ⟨some ⟨digest, hSha⟩, error⟩, ?_, ?_, rfl⟩
      · rw [requestHash, hDigest]
        rfl
      · rw [makeOperationFailure, dif_pos hSha]

/-! ## Details -/

/-- Reading a value back does not change whether it has a canonical form. -/
theorem accepts_normal_iff (style : Style) (v : Value) : Accepts (normal style v) ↔ Accepts v := by
  induction v using Value.induct with
  | null => exact Iff.rfl
  | bool b => exact Iff.rfl
  | str s => exact Iff.rfl
  | int n => exact Iff.rfl
  | float x => exact Iff.rfl
  | seq kind xs ih =>
      rw [normal_seq, accepts_seq, accepts_seq, List.forall_mem_map]
      exact forall₂_congr ih
  | obj m ih =>
      rw [normal_obj, accepts_obj, accepts_obj]
      constructor
      · intro h p hp
        obtain ⟨hKey, hValue⟩ :=
          h (p.1, normal style p.2) (List.mem_map.2 ⟨p, mem_arrange.2 hp, rfl⟩)
        exact ⟨hKey, (ih p hp).1 hValue⟩
      · intro h p hp
        obtain ⟨q, hq, rfl⟩ := List.mem_map.1 hp
        have hMem := mem_arrange.1 hq
        exact ⟨(h q hMem).1, (ih q hMem).2 (h q hMem).2⟩

/-- What becomes of details: their sorted form, or a note that they are unavailable. -/
theorem safeDetails_cases {details : Members} (hDistinct : (Value.obj details).Distinct) :
    (check (.obj details) = .ok () ∧ Value.obj (safeDetails details) = normal .compactSorted
      (.obj details)) ∨
      (check (.obj details) ≠ .ok () ∧
        safeDetails details = [(py "unavailable_type", .lit "dict")]) := by
  by_cases hCheck : check (.obj details) = .ok ()
  · refine .inl ⟨hCheck, ?_⟩
    have hDumps : dumps .compactSorted (.obj details) =
      .ok (render .compactSorted 0 (.obj details)) :=
      dumps_eq_ok.2 ⟨hCheck, rfl⟩
    have hRead : dumps .compactSorted (.obj details) >>= loads =
      .ok (normal .compactSorted (.obj details)) :=
      Except.bind_eq_ok.2 ⟨_, hDumps, loads_dumps hDistinct hDumps⟩
    unfold safeDetails sanitizeDetails
    rw [hRead, normal_obj]
  · refine .inr ⟨hCheck, ?_⟩
    have hRead : ∃ e, dumps .compactSorted (.obj details) >>= loads = .error e := by
      cases hDumps : dumps .compactSorted (.obj details) with
      | error e => exact ⟨e, rfl⟩
      | ok text => exact absurd (dumps_eq_ok.1 hDumps).1 hCheck
    obtain ⟨e, hRead⟩ := hRead
    unfold safeDetails sanitizeDetails
    rw [hRead]
    rfl

/-- The details survive the wire model. -/
def DetailsAllowed (details : Members) : Prop := check (.obj details) = .ok () →
    Accepts (.obj details)

theorem accepts_safeDetails {details : Members} (hDistinct : (Value.obj details).Distinct) :
    (Value.obj (safeDetails details)).Distinct ∧
      (Accepts (.obj (safeDetails details)) ↔ DetailsAllowed details) := by
  rcases safeDetails_cases hDistinct with ⟨hCheck, hSame⟩ | ⟨hCheck, hSame⟩
  · rw [hSame]
    refine ⟨distinct_normal _ _ hDistinct, (accepts_normal_iff _ _).trans ?_⟩
    exact ⟨fun h _ => h, fun h => h hCheck⟩
  · rw [hSame]
    refine ⟨by simp, ⟨fun _ h => absurd h hCheck, fun _ => accepts_obj.2 (fun p hp => ?_)⟩⟩
    rw [List.mem_singleton.1 hp]
    exact ⟨encodable_py _, accepts_lit _⟩

/-- An error of the wire is built exactly for a bounded message and details with a canonical form. -/
theorem makeOperationError_eq_ok {code : OperationErrorCode} {message : Text}
    {component : Option ComponentRef}
    {details : Members} (hDistinct : (Value.obj details).Distinct) :
    (∃ error, makeOperationError code message component details = .ok error ∧ error.1.code = code ∧
        error.1.component = component) ↔
      charsWithin 1 500 message = true ∧ Accepts (.obj details) := by
  have hDecode : SortedObject.codec.decode (.obj details) =
    .ok (SortedObject.of details hDistinct) := by
    show (if h : (Value.obj details).Distinct then Except.ok (SortedObject.of details h) else _) = _
    rw [dif_pos hDistinct]
  -- The details are kept with their members sorted, which the canonical encoder does not see.
  have hMembers : Value.obj (SortedObject.of details hDistinct).members = sorted (.obj details) :=
    (SortedObject.sorted_obj details).symm
  unfold makeOperationError
  constructor
  · rintro ⟨error, h, -, -⟩
    split_ifs at h with hMessage
    obtain ⟨object, hObject, h⟩ := Except.bind_eq_ok.1 h
    rw [hDecode] at hObject
    cases hObject
    obtain ⟨bytes, hBytes, -⟩ := Except.bind_eq_ok.1 error.2
    rw [checked_eq_ok.1 h] at hBytes
    dsimp only at hBytes
    rw [hMembers] at hBytes
    exact ⟨hMessage, (accepts_normal_iff _ _).1 ⟨bytes, hBytes⟩⟩
  · rintro ⟨hMessage, hAccepts⟩
    obtain ⟨bytes, hBytes⟩ := (accepts_normal_iff .compactSorted _).2 hAccepts
    have hValid : OperationErrorFields.validateCanonicalDetails
        ⟨code, ⟨message, hMessage⟩, component, SortedObject.of details hDistinct⟩ = .ok () := by
      refine Except.bind_eq_ok.2 ⟨bytes, ?_, rfl⟩
      show canonicalJsonBytes (.obj (SortedObject.of details hDistinct).members) = _
      rw [hMembers]
      exact hBytes
    refine ⟨⟨_, hValid⟩, ?_, rfl, rfl⟩
    rw [dif_pos hMessage]
    exact Except.bind_eq_ok.2 ⟨_, hDecode, checked_eq_ok.2 rfl⟩

/-! ## The identity of an error -/

theorem charsWithin_safeText (message : Text) {fallback : String}
    (hFallback : charsWithin 1 500 (py fallback) = true) :
    charsWithin 1 500 (safeText message fallback) = true ↔ Text.Encodable (message.take 500) := by
  unfold safeText
  split_ifs with hEmpty
  · rw [hEmpty]
    exact ⟨fun _ => Text.encodable_nil, fun _ => hFallback⟩
  · have hPos := List.length_pos_iff.2 hEmpty
    have hShort : (message.take 500).length ≤ 500 := by
      rw [List.length_take]
      omega
    simp only [charsWithin, Bool.and_eq_true, decide_eq_true_eq]
    exact ⟨fun h => h.1.1, fun h => ⟨⟨h, hPos⟩, hShort⟩⟩

/-- The failure carries the error's code and component, in a form that the wire model reads back. -/
def KeepsIdentity (error : OperationRuntimeError) (failure : OperationFailure) : Prop :=
  failure.error.1.code = error.code ∧ failure.error.1.component = error.component ∧
    OperationResult.decode (OperationResult.encode (.failure failure)) = .ok (.failure failure)

/-- What the wire holds of an error. -/
def Carried (error : OperationRuntimeError) : Prop :=
  Text.Encodable (error.message.take 500) ∧ DetailsAllowed error.details

theorem operationFailure_of_carried {error : OperationRuntimeError} (h : Carried error)
    (request : Option OperationRequest) :
    (operationFailure (.runtime error) request).error.1.code = error.code ∧
      (operationFailure (.runtime error) request).error.1.component = error.component := by
  obtain ⟨hDistinct, hAccepts⟩ := accepts_safeDetails error.distinct_details
  have hMessage :=
    (@charsWithin_safeText error.message "The unmanaged operation failed." (by decide)).2 h.1
  obtain ⟨wire, hWire, hCode, hComponent⟩ := (@makeOperationError_eq_ok error.code _
    error.component _ hDistinct).2 ⟨hMessage, hAccepts.2 h.2⟩
  obtain ⟨digest, failure, hDigest, hFailure, hSame⟩ := requestHash_isOk request wire
  have hSpecific : specificFailure (.runtime error) request = .ok failure :=
    Except.bind_eq_ok.2 ⟨wire, hWire, Except.bind_eq_ok.2 ⟨digest, hDigest, hFailure⟩⟩
  unfold operationFailure
  rw [hSpecific]
  dsimp only
  rw [hSame]
  exact ⟨hCode, hComponent⟩

/-- An error that the wire cannot hold becomes the generic one. -/
theorem operationFailure_of_not_carried {error : OperationRuntimeError} (h : ¬ Carried error)
    (request : Option OperationRequest) : operationFailure (.runtime error) request =
    genericFailure := by
  obtain ⟨hDistinct, hAccepts⟩ := accepts_safeDetails error.distinct_details
  cases hSpecific : specificFailure (.runtime error) request with
  | error e =>
      unfold operationFailure
      rw [hSpecific]
  | ok failure =>
      obtain ⟨wire, hWire, -⟩ := Except.bind_eq_ok.1 hSpecific
      have hFields : wire.1.code = error.code ∧ wire.1.component = error.component := by
        have hMade := hWire
        unfold errorOf makeOperationError at hMade
        dsimp only at hMade
        split_ifs at hMade
        obtain ⟨object, -, hMade⟩ := Except.bind_eq_ok.1 hMade
        rw [checked_eq_ok.1 hMade]
        exact ⟨rfl, rfl⟩
      obtain ⟨hMessage, hDetails⟩ := (makeOperationError_eq_ok hDistinct).1 ⟨wire, hWire, hFields⟩
      exact absurd ⟨(charsWithin_safeText error.message (by decide)).1 hMessage,
        hAccepts.1 hDetails⟩ h

/-- An error keeps its code and its component on the wire exactly when its message, cut to its first
500 characters, has a UTF-8 form and its details have a canonical form or none in JSON at all; or
when it is the generic error itself. -/
theorem keeps_identity_iff (error : OperationRuntimeError) (request : Option OperationRequest) :
    KeepsIdentity error (operationFailure (.runtime error) request) ↔
      Carried error ∨ (error.code = .operationFailed ∧ error.component = none) := by
  have hWire := OperationResult.decode_encode (.failure (operationFailure (.runtime error) request))
  by_cases hCarried : Carried error
  · obtain ⟨hCode, hComponent⟩ := operationFailure_of_carried hCarried request
    exact ⟨fun _ => .inl hCarried, fun _ => ⟨hCode, hComponent, hWire⟩⟩
  · have hGeneric := operationFailure_of_not_carried hCarried request
    rw [or_iff_right hCarried]
    constructor
    · rintro ⟨hCode, hComponent, -⟩
      rw [hGeneric] at hCode hComponent
      exact ⟨hCode.symm, hComponent.symm⟩
    · rintro ⟨hCode, hComponent⟩
      refine ⟨?_, ?_, hWire⟩
      · rw [hGeneric, hCode]
        rfl
      · rw [hGeneric, hComponent]
        rfl

/-- A refusal that mentions a count beyond the safe integers. -/
def countedRefusal : OperationRuntimeError where
  code := .componentRefused
  message := py "The component refused the requested calculation."
  component := none
  details := [(py "count", .int (2 ^ 53))]
  distinct_details := by simp

/-- JSON writes the count, the canonical rules refuse it, and the refusal loses its code. -/
theorem counted_refusal_loses_code : check (.obj countedRefusal.details) = .ok () ∧
    (operationFailure (.runtime countedRefusal) none).error.1.code = .operationFailed ∧
    ¬ KeepsIdentity countedRefusal (operationFailure (.runtime countedRefusal) none) := by
  have hCheck : check (.obj countedRefusal.details) = .ok () := by
    rw [check, checkMembers_eq_ok]
    intro p hp
    rw [List.mem_singleton.1 hp]
    rfl
  have hNotCarried : ¬ Carried countedRefusal := by
    rintro ⟨-, hDetails⟩
    have hCount := (accepts_obj.1 (hDetails hCheck) _ List.mem_cons_self).2
    exact absurd (accepts_int.1 hCount) (by decide)
  have hGeneric := operationFailure_of_not_carried hNotCarried none
  refine ⟨hCheck, by rw [hGeneric]; rfl, ?_⟩
  rintro ⟨hCode, -⟩
  rw [hGeneric] at hCode
  cases hCode

end OperationRuntime
