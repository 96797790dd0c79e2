import DefinedQuant.Shared.HostEnvelopes
import DefinedQuant.Shared.DataRecords.RoundTrip

/-!
# Failure envelopes read back

`HostFailure.model_validate`. Reading checks again what building a failure has fixed: the
presentation of the code, the schema of the details, and the wording of the trust notice. None of
these sees the order in which the members of a dict stand, so the dump of a failure that was written
and read validates to that failure.
-/

namespace HostFailures

open Json Protocol DataRecords

/-! ## Dicts in another order -/

section Order

variable {m : Members}

theorem get?_sortMembers (hm : (Value.obj m).Distinct) (key : Text) :
    Value.get? key (SortedObject.sortMembers m) = (Value.get? key m).map sorted := by
  rw [Value.distinct_obj] at hm
  have hKeys : ((m.map (fun p => (p.1, sorted p.2))).map Prod.fst).Nodup := by
    rw [List.map_map]
    exact hm.1
  rw [SortedObject.sortMembers, get?_arrange _ hKeys, get?_map]

theorem exactKeys_sortMembers (hm : (Value.obj m).Distinct) (required optional : List String) :
    exactKeys (SortedObject.sortMembers m) required optional = exactKeys m required optional := by
  have hKeys :
    (SortedObject.sortMembers m).all (fun p => (required ++ optional).any (fun key => p.1 = py key))
      = m.all (fun p => (required ++ optional).any (fun key => p.1 = py key)) := by
    have hPerm := arrange_perm Style.compactSorted (m.map (fun p => (p.1, sorted p.2)))
    rw [SortedObject.sortMembers, hPerm.all_eq, List.all_map]
    rfl
  unfold exactKeys
  rw [hKeys]
  congr 1
  refine List.all_congr rfl fun key => ?_
  rw [get?_sortMembers hm, Option.isSome_map]

/-- A test that does not see the order inside a value. -/
def Blind (p : Value → Bool) : Prop := ∀ v : Value, v.Distinct → p (sorted v) = p v

theorem any_get?_sortMembers (hm : (Value.obj m).Distinct) {p : Value → Bool} (hp : Blind p)
    (key : Text) :
    (Value.get? key (SortedObject.sortMembers m)).any p = (Value.get? key m).any p := by
  rw [get?_sortMembers hm]
  cases h : Value.get? key m with
  | none => rfl
  | some v =>
      have hv := (Value.distinct_obj.1 hm).2 _ (Value.mem_of_get? h)
      exact hp v hv

theorem exactField_sortMembers (hm : (Value.obj m).Distinct) {p : Value → Bool} (hp : Blind p)
    (key : String) :
    exactField (SortedObject.sortMembers m) key p = exactField m key p := by
  rw [exactField, exactField, exactKeys_sortMembers hm, any_get?_sortMembers hm hp]

end Order

/-- A test that looks into no container is blind. -/
theorem blind_of_scalar {p : Value → Bool} (hSeq : ∀ kind xs, p (.seq kind xs) = false)
    (hObj : ∀ m, p (.obj m) = false) : Blind p := by
  intro v _
  cases v with
  | seq kind xs =>
      rw [sorted, normal_seq, hSeq, hSeq]
  | obj m =>
      rw [SortedObject.sorted_obj, hObj, hObj]
  | _ => rfl

theorem blind_isStringArray {p : Value → Bool} (hp : Blind p) (maximum : ℕ) :
    Blind (isStringArray p maximum) := by
  intro v hv
  cases v with
  | seq kind xs =>
      rw [sorted, normal_seq]
      rw [Value.distinct_seq] at hv
      simp only [isStringArray, List.length_map, List.all_map]
      have hItems : xs.all (p ∘ sorted) = xs.all p := by
        rw [Bool.eq_iff_iff, List.all_eq_true, List.all_eq_true]
        exact forall₂_congr fun x hx => by rw [Function.comp_apply, hp x (hv x hx)]
      exact congrArg _ hItems
  | obj m => rw [SortedObject.sorted_obj]; rfl
  | _ => rfl

theorem blind_isDifferences : Blind isDifferences := by
  intro v hv
  cases v with
  | seq kind xs =>
      rw [sorted, normal_seq]
      rw [Value.distinct_seq] at hv
      simp only [isDifferences, List.length_map, List.all_map]
      have hItems : xs.all ((fun x => (PortDifference.codec.decode x).isOk) ∘ sorted)
          = xs.all (fun x => (PortDifference.codec.decode x).isOk) := by
        rw [Bool.eq_iff_iff, List.all_eq_true, List.all_eq_true]
        refine forall₂_congr fun x hx => ?_
        rw [Function.comp_apply, PortDifference.codec.decode_sorted x (hv x hx)]
      exact congrArg _ hItems
  | obj m => rw [SortedObject.sorted_obj]; rfl
  | _ => rfl

/-- The schemas of the details do not see the order of members. -/
theorem validDetails_sortMembers {m : Members} (hm : (Value.obj m).Distinct)
    (code : HostFailureCode) :
    validDetails code (SortedObject.sortMembers m) = validDetails code m := by
  have hEmpty : (SortedObject.sortMembers m).isEmpty = m.isEmpty := by
    have hPerm := arrange_perm Style.compactSorted (m.map (fun p => (p.1, sorted p.2)))
    have hLength := hPerm.length_eq
    rw [List.length_map] at hLength
    rw [Bool.eq_iff_iff, List.isEmpty_iff_length_eq_zero, List.isEmpty_iff_length_eq_zero,
      SortedObject.sortMembers, hLength]
  have hFields : Blind isFieldName := blind_of_scalar (fun _ _ => rfl) (fun _ => rfl)
  have hIds : Blind isSafeIdValue := blind_of_scalar (fun _ _ => rfl) (fun _ => rfl)
  have hComponent : Blind isComponentIdValue := blind_of_scalar (fun _ _ => rfl) (fun _ => rfl)
  have hShort : Blind isShortText := blind_of_scalar (fun _ _ => rfl) (fun _ => rfl)
  have hReference : Blind isReferenceVersion := blind_of_scalar (fun _ _ => rfl) (fun _ => rfl)
  have hInteger : ∀ minimum, Blind (isSafeInteger minimum) := fun _ =>
    blind_of_scalar (fun _ _ => rfl) (fun _ => rfl)
  have hName : ∀ names, Blind (isLimitName names) := fun _ =>
    blind_of_scalar (fun _ _ => rfl) (fun _ => rfl)
  have hLimit : ∀ names, exactLimit (SortedObject.sortMembers m) names = exactLimit m names := by
    intro names
    rw [exactLimit, exactLimit, exactKeys_sortMembers hm, any_get?_sortMembers hm (hName names),
      any_get?_sortMembers hm (hInteger 0), any_get?_sortMembers hm (hInteger 0)]
  cases code
  all_goals
    simp only [validDetails, hEmpty, hLimit, exactField_sortMembers hm hComponent,
      exactField_sortMembers hm (blind_isStringArray hFields 32),
      exactField_sortMembers hm (hInteger (-maxSafeInteger)), exactField_sortMembers hm hShort,
      exactField_sortMembers hm hReference, exactField_sortMembers hm hIds,
      exactField_sortMembers hm (blind_isStringArray hIds 32),
      exactField_sortMembers hm blind_isDifferences]
  -- the one code whose field may be missing
  rw [exactKeys_sortMembers hm, get?_sortMembers hm]
  congr 1
  cases h : Value.get? (py "component_id") m with
  | none => rfl
  | some v => exact hComponent v ((Value.distinct_obj.1 hm).2 _ (Value.mem_of_get? h))

/-! ## Envelopes -/

def HostOutcome.codec : Codec HostOutcome :=
  .enum [.needsInformation, .refused, .failed] value (by intro a; cases a <;> simp [value])

def TrustLabel.codec : Codec TrustLabel :=
  .enum [.contractMetadataOnly, .installedSubjectInspected, .unverifiedCallerData,
    .structuralCompatibilityOnly, .unmanagedExecution, .noVerifiedResult] value
    (by intro a; cases a <;> simp [value])

/-- Every code. -/
def HostFailureCode.all : List HostFailureCode :=
  [.invalidToolRequest, .unsupportedHostSchema, .unsupportedProtocolVersion,
    .unsupportedReferenceVersion, .componentNotFound, .componentIdentityMismatch,
    .missingConvention, .incompatiblePorts, .unsupportedBinding, .multipleNonLiteralSources,
    .invalidDataset, .unsupportedDataFormat, .inputRootDenied, .unsafeInputPath,
    .inputLimitExceeded, .invalidFieldMapping, .referenceNotFound, .referenceScopeDenied,
    .recordCorrupt, .cacheFull, .recordPublicationFailed, .workerTimeout, .workerCancelled,
    .workerCrashed, .workerCapacity, .workerResourceLimit, .componentRefused, .componentFailed,
    .invalidComponentInput, .outputValidationFailed, .componentContractError,
    .artifactPublicationFailed, .resultLimitExceeded, .artifactNotFound, .internalFailure]

def HostFailureCode.codec : Codec HostFailureCode :=
  .enum all value (by intro a; cases a <;> simp [all, value])

/-- The fields of `Trust`. -/
structure TrustFields where
  label : TrustLabel
  statement : Chars 1 500

def TrustFields.fields : Fields TrustFields :=
  (Fields.and (.required "label" TrustLabel.codec) (.required "statement" (Chars.codec 1 500))
    (by decide)).iso (fun (a, b) => ⟨a, b⟩) (fun t => (t.label, t.statement)) (fun _ => rfl)

/-- `validate_statement` -/
def TrustFields.validateStatement (self : TrustFields) : Except ValueError Unit :=
  if self.statement.val ≠ py self.label.statement then
    .error ⟨"trust statement does not match its fixed label"⟩
  else .ok ()

def Trust.codec : Codec {t : TrustFields // t.validateStatement = .ok ()} :=
  (Codec.object TrustFields.fields).validated TrustFields.validateStatement

/-- A JSON boolean. -/
def boolean : Codec Bool where
  decode v :=
    match v with
    | .bool b => .ok b
    | _ => .error ⟨"Input should be a valid boolean"⟩
  encode b := .bool b
  decode_encode _ := rfl
  decode_sorted v _ := by cases v <;> rfl
  distinct_encode _ := trivial

/-- The fields of `HostError`. -/
structure HostErrorFields where
  code : HostFailureCode
  message : Chars 1 500
  retryAllowed : Bool
  details : SortedObject

def HostErrorFields.fields : Fields HostErrorFields :=
  (Fields.and (.required "code" HostFailureCode.codec)
    (.and (.required "message" (Chars.codec 1 500))
    (.and (.required "retry_allowed" boolean) (.required "details" SortedObject.codec)
    (by decide)) (by decide)) (by decide)).iso
    (fun (a, b, c, d) => ⟨a, b, c, d⟩) (fun e => (e.code, e.message, e.retryAllowed, e.details))
    (fun _ => rfl)

/-- `validate_fixed_fields` -/
def HostErrorFields.validateFixedFields (self : HostErrorFields) : Except ValueError Unit :=
  if self.message.val ≠ py self.code.spec.message ∨
    self.retryAllowed ≠ self.code.spec.retryAllowed then
    .error ⟨"host error presentation does not match its fixed code"⟩
  else validateFailureDetails self.code self.details.members

abbrev HostError := {e : HostErrorFields // e.validateFixedFields = .ok ()}

def HostError.codec : Codec HostError :=
  (Codec.object HostErrorFields.fields).validated HostErrorFields.validateFixedFields

/-- The fields of the `HostFailure` model. -/
structure HostFailureFields where
  outcome : HostOutcome
  error : HostError
  trust : {t : TrustFields // t.validateStatement = .ok ()}

def HostFailureFields.fields : Fields HostFailureFields :=
  (Fields.and (.defaulted "host_schema_version" (.literalInt 1 "Input should be 1") ())
    (.and (.required "outcome" HostOutcome.codec)
    (.and (.required "error" HostError.codec) (.required "trust" Trust.codec)
    (by decide)) (by decide)) (by decide)).iso
    (fun (_, a, b, c) => ⟨a, b, c⟩) (fun f => ((), f.outcome, f.error, f.trust)) (fun _ => rfl)

/-- `validate_outcome` -/
def HostFailureFields.validateOutcome (self : HostFailureFields) : Except ValueError Unit :=
  if self.outcome ≠ self.error.val.code.spec.outcome then
    .error ⟨"host outcome does not match its fixed code"⟩
  else .ok ()

def HostFailureFields.codec : Codec {f : HostFailureFields // f.validateOutcome = .ok ()} :=
  (Codec.object fields).validated validateOutcome

/-- The details of an error that was validated fit their schema. -/
theorem HostError.validDetails (e : HostError) :
    validateFailureDetails e.val.code e.val.details.members = .ok () := by
  have hValid := e.property
  unfold HostErrorFields.validateFixedFields at hValid
  split_ifs at hValid
  exact hValid

/-- `HostFailure.model_validate` -/
def HostFailure.modelValidate (v : Value) : Except ValueError HostFailure := do
  let fields ← HostFailureFields.codec.decode v
  let error := fields.val.error
  return ⟨error.val.code, error.val.details.members, fields.val.trust.val.label, error.validDetails⟩

/-! ## Round trip -/

/-- The message of every code fits its field. -/
theorem charsWithin_message (code : HostFailureCode) :
    charsWithin 1 500 (py code.spec.message) = true := by
  cases code
  all_goals
    simp only [HostFailureCode.spec]
    apply charsWithin_literal
    decide

/-- So does the statement of every label. -/
theorem charsWithin_statement (label : TrustLabel) :
    charsWithin 1 500 (py label.statement) = true := by
  cases label
  all_goals
    simp only [TrustLabel.statement]
    apply charsWithin_literal
    decide +kernel

/-- A failure whose details stand in another order. -/
def HostFailure.sortDetails (f : HostFailure) (h : (Value.obj f.details).Distinct) :
    HostFailure where
  code := f.code
  details := SortedObject.sortMembers f.details
  trust := f.trust
  valid := by
    rw [validateFailureDetails, validDetails_sortMembers h, f.validDetails_eq, if_pos rfl]

/-- The fields of a failure, its details sorted. -/
def HostFailure.toFields (f : HostFailure) (h : (Value.obj f.details).Distinct) :
    {f : HostFailureFields // f.validateOutcome = .ok ()} :=
  ⟨⟨f.code.spec.outcome,
      ⟨⟨f.code, ⟨py f.code.spec.message, charsWithin_message f.code⟩, f.code.spec.retryAllowed,
          SortedObject.of f.details h⟩,
        (if_neg (by simp)).trans (f.sortDetails h).valid⟩,
      ⟨⟨f.trust, ⟨py f.trust.statement, charsWithin_statement f.trust⟩⟩, if_neg (by simp)⟩⟩,
    if_neg (by simp)⟩

theorem sorted_dump (f : HostFailure) (h : (Value.obj f.details).Distinct) :
    sorted f.dump = sorted (HostFailureFields.codec.encode (f.toFields h)) := by
  have hDetails : sorted (.obj (f.sortDetails h).details) = sorted (.obj f.details) := by
    have hSorted := (SortedObject.of f.details h).sorted_eq
    rw [SortedObject.sorted_obj f.details]
    exact hSorted
  have hEncode : HostFailureFields.codec.encode (f.toFields h) = (f.sortDetails h).dump := rfl
  rw [hEncode, HostFailure.dump, HostFailure.dump]
  simp only [SortedObject.sorted_obj, SortedObject.sortMembers, List.map_cons, List.map_nil]
    at hDetails ⊢
  rw [hDetails]
  rfl

/-- The dump of a failure, sorted, validates to the failure. -/
theorem modelValidate_sorted_dump (f : HostFailure) (h : (Value.obj f.details).Distinct) :
    HostFailure.modelValidate (sorted f.dump) = .ok (f.sortDetails h) := by
  rw [sorted_dump f h, HostFailure.modelValidate, Codec.decode_sorted_encode]
  rfl

end HostFailures
