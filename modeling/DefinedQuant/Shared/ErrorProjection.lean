import DefinedQuant.Protocol.Result
import DefinedQuant.Shared.FailureEnvelopes

/-!
# Redacted operation errors

`map_operation_error` turns an error of the runtime into a host failure. Of the error's details it
keeps names of input fields that the component declares, and of identities one component id; nothing
else of the error reaches the failure (`mapOperationError_redacts`).
-/

namespace HostFailures

open Json Protocol DataRecords

/-! ## The mapping -/

/-- `OPERATION_ERROR_DEFAULT_CODES` -/
def operationErrorDefaultCode : OperationErrorCode → HostFailureCode
  | .invalidOperationRequest => .invalidToolRequest
  | .invalidJson => .invalidToolRequest
  | .componentNotFound => .componentNotFound
  | .componentIdentityMismatch => .componentIdentityMismatch
  | .invalidComponentInput => .invalidComponentInput
  | .componentRefused => .componentRefused
  | .componentExecutionFailed => .componentFailed
  | .outputValidationFailed => .outputValidationFailed
  | .componentContractError => .componentContractError
  | .invalidOutputDirectory => .artifactPublicationFailed
  | .outputExists => .artifactPublicationFailed
  | .artifactWriteFailed => .artifactPublicationFailed
  | .operationFailed => .internalFailure

/-- `component_input_fields`: a string, or a collection of whatever it holds. -/
inductive FieldCollection where
  | text (t : Text)
  | items (xs : List Value)

/-- The text of a field name. -/
def fieldName? : Value → Option Text
  | .str t => if utf8Within 1 240 t then some t else none
  | _ => none

/-- `_verified_fields` -/
def verifiedFields : FieldCollection → List Text
  | .text _ => []
  | .items xs => xs.filterMap fieldName?

/-- The loop of `_project_fields`; what was projected was seen. -/
def projectItems (verified : List Text) : List Text → List Value → List Text
  | projected, [] => projected
  | projected, .str t :: values =>
      if t ∉ verified ∨ t ∈ projected then projectItems verified projected values
      else if (projected ++ [t]).length = 32 then projected ++ [t]
      else projectItems verified (projected ++ [t]) values
  | projected, _ :: values => projectItems verified projected values

/-- `_project_fields`, of a list -/
def projectFields (values : List Value) (verified : List Text) : List Text :=
  projectItems verified [] values

/-- The first item of the location of an error of the input model. -/
def locationHead? : Value → Option Value
  | .obj m =>
      match Value.get? (py "loc") m with
      | some (.seq _ (first :: _)) => some first
      | _ => none
  | _ => none

/-- `_component_input_fields` -/
def componentInputFields (error : OperationError) (verified : List Text) : List Text :=
  match Value.get? (py "errors") error.1.details.members with
  | some (.seq .list rawErrors) => projectFields (rawErrors.filterMap locationHead?) verified
  | _ => []

/-- `question.get("field")`, of the questions that are mappings -/
def questionField? : Value → Option Value
  | .obj m => some ((Value.get? (py "field") m).getD .null)
  | _ => none

/-- The questions of a component error with the code `ambiguous_input`. -/
def ambiguousQuestions (componentError : Members) : List Value :=
  match Value.get? (py "code") componentError, Value.get? (py "details") componentError with
  | some (.str code), some (.obj componentDetails) =>
      if code ≠ py "ambiguous_input" then []
      else
        match Value.get? (py "questions") componentDetails with
        | some (.seq .list questions) => questions
        | _ => []
  | _, _ => []

/-- `_missing_convention_fields` -/
def missingConventionFields (error : OperationError) (verified : List Text) : List Text :=
  match Value.get? (py "component_error") error.1.details.members with
  | some (.obj componentError) =>
      projectFields ((ambiguousQuestions componentError).filterMap questionField?) verified
  | _ => []

/-- `_project_component_id` -/
def projectComponentId (error : OperationError) (validatedRequest : Option OperationRequest) :
    Option Text :=
  let candidates := (validatedRequest.map (fun request => request.1.component.id.1)).toList ++
    (error.1.component.map (fun component => component.id.1)).toList
  candidates.find? (fun value => isComponentIdValue (.str value))

/-- `details={"fields": fields}` -/
def fieldDetails (fields : List Text) : Members := [(py "fields", .list (fields.map Value.str))]

/-- `details={"component_id": component_id}` -/
def componentDetails (componentId : Text) : Members := [(py "component_id", .str componentId)]

/-- The `try` block of `map_operation_error`. -/
def projectOperationError (error : OperationError) (validatedRequest : Option OperationRequest)
    (componentInputFieldNames : FieldCollection) : Except ValueError HostFailure := do
  let code := operationErrorDefaultCode error.1.code
  let verified := verifiedFields componentInputFieldNames
  let componentId := projectComponentId error validatedRequest
  let identified := match componentId with
    | none => hostFailure .internalFailure [] .noVerifiedResult
    | some id => hostFailure code (componentDetails id) .noVerifiedResult
  match error.1.code with
  | .invalidOperationRequest | .invalidJson => hostFailure code (fieldDetails []) .noVerifiedResult
  | .invalidComponentInput =>
      hostFailure code (fieldDetails (componentInputFields error verified)) .noVerifiedResult
  | .componentRefused =>
      let projected := missingConventionFields error verified
      if projected ≠ [] then hostFailure .missingConvention (fieldDetails projected) .noVerifiedResult
      else identified
  | .componentNotFound | .componentIdentityMismatch | .componentExecutionFailed
    | .outputValidationFailed =>
      identified
  | .componentContractError =>
      hostFailure code (componentId.elim [] componentDetails) .noVerifiedResult
  | .invalidOutputDirectory | .outputExists | .artifactWriteFailed | .operationFailed =>
      hostFailure code [] .noVerifiedResult

/-- `map_operation_error` -/
def mapOperationError (error : OperationError) (validatedRequest : Option OperationRequest)
    (componentInputFieldNames : FieldCollection) : HostFailure :=
  match projectOperationError error validatedRequest componentInputFieldNames with
  | .ok failure => failure
  | .error _ => internalFailure .noVerifiedResult

/-! ## Projected fields -/

/-- What the loop has projected: declared fields, each once, at most 32. -/
structure Projected (verified names : List Text) : Prop where
  nodup : names.Nodup
  declared : ∀ name ∈ names, name ∈ verified
  length_le : names.length ≤ 32

/-- Projecting the items keeps verified names only, by induction on the items. -/
theorem projected_projectItems {verified : List Text} :
    ∀ (values : List Value) {projected : List Text},
    Projected verified projected → projected.length < 32 →
    Projected verified (projectItems verified projected values)
  | [], projected, h, _ => h
  | v :: values, projected, h, hRoom => by
      cases v with
      | str t =>
          unfold projectItems
          split_ifs with hSkip hFull
          · exact projected_projectItems values h hRoom
          all_goals
            rw [not_or, not_not] at hSkip
            have hNext : Projected verified (projected ++ [t]) := by
              refine ⟨List.nodup_append_comm.1 (List.nodup_cons.2 ⟨hSkip.2, h.nodup⟩), ?_, ?_⟩
              · intro name hName
                rcases List.mem_append.1 hName with hOld | hNew
                · exact h.declared name hOld
                · rw [List.mem_singleton.1 hNew]
                  exact hSkip.1
              · rw [List.length_append]
                exact hRoom
          · exact hNext
          · refine projected_projectItems values hNext (lt_of_le_of_ne hNext.length_le hFull)
      | _ => exact projected_projectItems values h hRoom

/-- No names at all are projected. -/
theorem projected_nil (verified : List Text) : Projected verified [] :=
  ⟨List.nodup_nil, fun _ h => absurd h List.not_mem_nil, by decide⟩

/-- Projected fields are verified, different and at most 32. -/
theorem projected_projectFields (values : List Value) (verified : List Text) :
    Projected verified (projectFields values verified) :=
  projected_projectItems values (projected_nil verified) (by decide)

/-- So are the fields of a rejected input. -/
theorem projected_componentInputFields (error : OperationError) (verified : List Text) :
    Projected verified (componentInputFields error verified) := by
  unfold componentInputFields
  split
  · exact projected_projectFields _ _
  · exact projected_nil verified

/-- So are the missing conventions. -/
theorem projected_missingConventionFields (error : OperationError) (verified : List Text) :
    Projected verified (missingConventionFields error verified) := by
  unfold missingConventionFields
  split
  · exact projected_projectFields _ _
  · exact projected_nil verified

/-- A verified field is a short text of the declared fields. -/
theorem mem_verifiedFields {fields : FieldCollection} {name : Text} :
    name ∈ verifiedFields fields ↔
      utf8Within 1 240 name = true ∧ ∃ xs, fields = .items xs ∧ Value.str name ∈ xs := by
  cases fields with
  | text t => simp [verifiedFields]
  | items xs =>
      rw [verifiedFields, List.mem_filterMap]
      constructor
      · rintro ⟨v, hv, hName⟩
        cases v with
        | str t =>
            simp only [fieldName?, Option.ite_none_right_eq_some] at hName
            obtain ⟨hWithin, hEq⟩ := hName
            cases hEq
            exact ⟨hWithin, xs, rfl, hv⟩
        | _ => cases hName
      · rintro ⟨hWithin, _, ⟨⟩, hMem⟩
        exact ⟨.str name, hMem, if_pos hWithin⟩

/-! ## What a failure is made of -/

/-- The field names that the mapping projects, by the code of the error. -/
def projectedFields (error : OperationError) (verified : List Text) : List Text :=
  match error.1.code with
  | .invalidComponentInput => componentInputFields error verified
  | .componentRefused => missingConventionFields error verified
  | _ => []

/-- The code and the details of a failure about a component. -/
def identifiedOutcome (code : HostFailureCode) : Option Text → HostFailureCode × Members
  | none => (.internalFailure, [])
  | some id => (code, componentDetails id)

/-- The code and the details of the failure, from all that they depend on. -/
def outcomeOf (code : OperationErrorCode) (fields : List Text) (componentId : Option Text) :
    HostFailureCode × Members :=
  match code with
  | .invalidOperationRequest | .invalidJson => (operationErrorDefaultCode code, fieldDetails [])
  | .invalidComponentInput => (operationErrorDefaultCode code, fieldDetails fields)
  | .componentRefused =>
      if fields ≠ [] then (.missingConvention, fieldDetails fields)
      else identifiedOutcome (operationErrorDefaultCode code) componentId
  | .componentNotFound | .componentIdentityMismatch | .componentExecutionFailed
    | .outputValidationFailed =>
      identifiedOutcome (operationErrorDefaultCode code) componentId
  | .componentContractError => (operationErrorDefaultCode code, componentId.elim [] componentDetails)
  | .invalidOutputDirectory | .outputExists | .artifactWriteFailed | .operationFailed =>
      (operationErrorDefaultCode code, [])

section Outcome

variable {error : OperationError} {request : Option OperationRequest} {fields : FieldCollection}

/-- The projection of an error depends on the verified fields and the component id only. -/
theorem projectOperationError_eq : projectOperationError error request fields =
    hostFailure (outcomeOf error.1.code (projectedFields error (verifiedFields fields))
        (projectComponentId error request)).1
      (outcomeOf error.1.code (projectedFields error (verifiedFields fields))
        (projectComponentId error request)).2 .noVerifiedResult := by
  have hIdentified : ∀ code, (match projectComponentId error request with
      | none => hostFailure .internalFailure [] .noVerifiedResult
      | some id => hostFailure code (componentDetails id) .noVerifiedResult) =
        hostFailure (identifiedOutcome code (projectComponentId error request)).1
          (identifiedOutcome code (projectComponentId error request)).2 .noVerifiedResult := by
    intro code
    cases projectComponentId error request <;> rfl
  unfold projectOperationError projectedFields outcomeOf
  cases hCode : error.1.code
  case componentRefused =>
    simp only
    by_cases hFields : missingConventionFields error (verifiedFields fields) ≠ []
    · rw [if_pos hFields, if_pos hFields]
    · rw [if_neg hFields, if_neg hFields]
      exact hIdentified _
  all_goals first | rfl | exact hIdentified _

/-- The fields of every code are verified, different and at most 32. -/
theorem projected_projectedFields (verified : List Text) :
    Projected verified (projectedFields error verified) := by
  unfold projectedFields
  split
  · exact projected_componentInputFields error verified
  · exact projected_missingConventionFields error verified
  · exact projected_nil verified

/-- A projected component id fits the field of the details. -/
theorem isComponentIdValue_of_projected {id : Text}
    (h : projectComponentId error request = some id) :
    isComponentIdValue (.str id) = true := by
  unfold projectComponentId at h
  exact @List.find?_some _ (fun value : Text => isComponentIdValue (.str value)) _ _ h

/-- Looking up the one key of an object. -/
theorem get?_single (key : Text) (v : Value) : Value.get? key [(key, v)] = some v := if_pos rfl

/-- Declared names fit the schema of the codes that carry fields. -/
theorem exactField_fieldDetails {verified : List Text} {names : List Text}
    (h : Projected verified names) (hVerified : ∀ name ∈ verified, utf8Within 1 240 name = true) :
    exactField (fieldDetails names) "fields" (isStringArray isFieldName 32) = true := by
  have hNames : isStringArray isFieldName 32 (.list (names.map Value.str)) = true := by
    show (decide ((names.map Value.str).length ≤ 32) && (names.map Value.str).all isFieldName) =
      true
    rw [List.length_map, decide_eq_true h.length_le, Bool.true_and, List.all_map, List.all_eq_true]
    exact fun name hName => hVerified name (h.declared name hName)
  simp [exactField, exactKeys, fieldDetails, get?_single, hNames]

/-- Details with a component id are valid. -/
theorem exactField_componentDetails {id : Text} (h : isComponentIdValue (.str id) = true) :
    exactField (componentDetails id) "component_id" isComponentIdValue = true := by
  simp [exactField, exactKeys, componentDetails, get?_single, h]

/-- So are the details of an outcome that may name a component. -/
theorem validDetails_identifiedOutcome {code : HostFailureCode} {componentId : Option Text}
    (hCode : ∀ details, validDetails code details = exactField details "component_id"
      isComponentIdValue)
    (hId : ∀ id ∈ componentId, isComponentIdValue (.str id) = true) :
    validDetails (identifiedOutcome code componentId).1 (identifiedOutcome code componentId).2 =
      true := by
  cases componentId with
  | none => rfl
  | some id =>
      show validDetails code (componentDetails id) = true
      rw [hCode]
      exact exactField_componentDetails (hId id rfl)

/-- Every failure of the mapping fits the schema of its code. -/
theorem validDetails_outcomeOf {verified names : List Text} {componentId : Option Text}
    (hNames : Projected verified names)
    (hVerified : ∀ name ∈ verified, utf8Within 1 240 name = true)
    (hId : ∀ id ∈ componentId, isComponentIdValue (.str id) = true) (code : OperationErrorCode) :
    validDetails (outcomeOf code names componentId).1 (outcomeOf code names componentId).2 =
      true := by
  have hFields := exactField_fieldDetails hNames hVerified
  unfold outcomeOf
  cases code
  case componentRefused =>
    by_cases hNonempty : names ≠ []
    · simp only [if_pos hNonempty]
      exact hFields
    · simp only [if_neg hNonempty]
      exact validDetails_identifiedOutcome (fun _ => rfl) hId
  case componentContractError =>
    cases componentId with
    | none => rfl
    | some id =>
        simp [operationErrorDefaultCode, validDetails, exactKeys, componentDetails, get?_single,
          hId id rfl]
  case invalidComponentInput => exact hFields
  all_goals first | rfl | exact validDetails_identifiedOutcome (fun _ => rfl) hId

/-- The mapping never falls back to its handler. -/
theorem mapOperationError_eq : (mapOperationError error request fields).code =
      (outcomeOf error.1.code (projectedFields error (verifiedFields fields))
        (projectComponentId error request)).1 ∧
    (mapOperationError error request fields).details =
      (outcomeOf error.1.code (projectedFields error (verifiedFields fields))
        (projectComponentId error request)).2 ∧
    (mapOperationError error request fields).trust = .noVerifiedResult := by
  have hNames : Projected (verifiedFields fields) (projectedFields error (verifiedFields fields)) :=
    projected_projectedFields _
  have hId : ∀ id ∈ projectComponentId error request, isComponentIdValue (.str id) = true :=
    fun _ h => isComponentIdValue_of_projected h
  obtain ⟨hValid, hFailure⟩ := @hostFailure_eq_ok _ _ .noVerifiedResult
    (validDetails_outcomeOf hNames (fun name hName => (mem_verifiedFields.1 hName).1) hId
      error.1.code)
  unfold mapOperationError
  rw [projectOperationError_eq, hFailure]
  exact ⟨rfl, rfl, rfl⟩

end Outcome

/-- Failures with the same code, details and trust notice are one failure. -/
theorem HostFailure.ext_fields {f g : HostFailure} (hCode : f.code = g.code)
    (hDetails : f.details = g.details) (hTrust : f.trust = g.trust) : f = g := by
  cases f
  cases g
  cases hCode
  cases hDetails
  cases hTrust
  rfl

/-- The dump of a failure whose details are in sorted form validates to the failure. -/
theorem modelValidate_dump (f : HostFailure) (h : (Value.obj f.details).Distinct)
    (hSorted : SortedObject.sortMembers f.details = f.details) :
    HostFailure.modelValidate f.dump = .ok f := by
  have hSame : f.sortDetails h = f := HostFailure.ext_fields rfl hSorted rfl
  have hEncode : HostFailureFields.codec.encode (f.toFields h) = (f.sortDetails h).dump := rfl
  rw [← hSame, ← hEncode, HostFailure.modelValidate, Codec.decode_encode]
  rfl

/-- Details of one member are in sorted form when its value is. -/
theorem sorted_single {key : Text} {v : Value} (hDistinct : v.Distinct) (hSorted : sorted v = v) :
    (Value.obj [(key, v)]).Distinct ∧ SortedObject.sortMembers [(key, v)] = [(key, v)] := by
  refine ⟨Value.distinct_obj.2 ⟨List.nodup_singleton _, fun p hp => ?_⟩, ?_⟩
  · rw [List.mem_singleton.1 hp]
    exact hDistinct
  · show [(key, sorted v)] = _
    rw [hSorted]

/-- Details with fields are sorted already. -/
theorem sorted_fieldDetails (names : List Text) :
    (Value.obj (fieldDetails names)).Distinct ∧
      SortedObject.sortMembers (fieldDetails names) = fieldDetails names := by
  refine sorted_single ?_ ?_
  · rw [Value.distinct_seq]
    intro x hx
    obtain ⟨name, -, rfl⟩ := List.mem_map.1 hx
    trivial
  · rw [sorted, normal_seq, List.map_map]
    rfl

/-- The details of the mapping's failures are in sorted form. -/
theorem sorted_outcomeOf (code : OperationErrorCode) (names : List Text)
    (componentId : Option Text) :
    (Value.obj (outcomeOf code names componentId).2).Distinct ∧
      SortedObject.sortMembers (outcomeOf code names componentId).2 =
        (outcomeOf code names componentId).2 := by
  have hEmpty : (Value.obj []).Distinct ∧ SortedObject.sortMembers [] = [] :=
    ⟨Value.distinct_obj.2 ⟨List.nodup_nil, fun _ h => absurd h List.not_mem_nil⟩, rfl⟩
  have hId : ∀ id, (Value.obj (componentDetails id)).Distinct ∧
      SortedObject.sortMembers (componentDetails id) = componentDetails id :=
        fun id => sorted_single trivial rfl
  have hIdentified : ∀ c, (Value.obj (identifiedOutcome c componentId).2).Distinct ∧
      SortedObject.sortMembers (identifiedOutcome c componentId).2 =
        (identifiedOutcome c componentId).2 := by
    intro c
    cases componentId with
    | none => exact hEmpty
    | some id => exact hId id
  unfold outcomeOf
  cases code
  case componentRefused =>
    by_cases hNonempty : names ≠ []
    · simp only [if_pos hNonempty]
      exact sorted_fieldDetails names
    · simp only [if_neg hNonempty]
      exact hIdentified _
  case componentContractError =>
    cases componentId with
    | none => exact hEmpty
    | some id => exact hId id
  all_goals first | exact sorted_fieldDetails _ | exact hIdentified _ | exact hEmpty

/-! ## Redaction -/

/-- The component that a failure names: that of the request when its id has at most 240 characters,
otherwise that of the error. -/
def NamesComponent (request : Option OperationRequest) (error : OperationError) (id : Text) :
    Prop :=
  id.length ≤ 240 ∧ ((∃ r, request = some r ∧ id = r.1.component.id.1) ∨
    (∀ r, request = some r → 240 < r.1.component.id.1.length) ∧
      ∃ component, error.1.component = some component ∧ id = component.id.1)

/-- A failure of the mapping: its own validators accept it, and its details are empty, declared
field names or one component id. -/
structure Redacted (error : OperationError) (request : Option OperationRequest)
    (fields : FieldCollection) (failure : HostFailure) : Prop where
  valid : HostFailure.modelValidate failure.dump = .ok failure
  details : failure.details = [] ∨
    (∃ names, failure.details = fieldDetails names ∧ names.length ≤ 32 ∧ names.Nodup ∧
      ∀ name ∈ names, ∃ xs, fields = .items xs ∧ Value.str name ∈ xs) ∨
    ∃ id, failure.details = componentDetails id ∧ NamesComponent request error id

/-- A component id fits the details exactly when it has at most 240 characters. -/
theorem isComponentIdValue_iff (id : ComponentId) : isComponentIdValue (.str id.1) = true ↔
    id.1.length ≤ 240 := by
  have hPositive : 1 ≤ id.1.length := by
    by_contra hShort
    have hNil := List.length_eq_zero_iff.1 (by omega : id.1.length = 0)
    have hId := id.2
    rw [hNil] at hId
    cases hId
  simp [isComponentIdValue, id.2, hPositive]

/-- A projected component id is that of the request, or that of the error. -/
theorem namesComponent_of_projected {error : OperationError} {request : Option OperationRequest}
    {id : Text}
    (h : projectComponentId error request = some id) : NamesComponent request error id := by
  have hError : ∀ {component}, error.1.component = component →
      ((component.map (fun c => c.id.1)).toList.find?
        (fun value => isComponentIdValue (.str value))) = some id →
      id.length ≤ 240 ∧ ∃ c, error.1.component = some c ∧ id = c.id.1 := by
    intro component hComponent hFind
    cases component with
    | none => cases hFind
    | some c =>
        rw [Option.map_some, Option.toList_some, List.find?_cons] at hFind
        split at hFind
        · next hValid =>
            cases hFind
            exact ⟨(isComponentIdValue_iff c.id).1 hValid, c, hComponent, rfl⟩
        · cases hFind
  unfold projectComponentId at h
  cases request with
  | none =>
      obtain ⟨hLength, hNamed⟩ := hError rfl h
      exact ⟨hLength, .inr ⟨nofun, hNamed⟩⟩
  | some r =>
      simp only [Option.map_some, Option.toList_some, List.singleton_append, List.find?_cons] at h
      split at h
      · next hValid =>
          cases h
          exact ⟨(isComponentIdValue_iff r.1.component.id).1 hValid, .inl ⟨r, rfl, rfl⟩⟩
      · next hInvalid =>
          obtain ⟨hLength, hNamed⟩ := hError rfl h
          refine ⟨hLength, .inr ⟨?_, hNamed⟩⟩
          rintro _ ⟨⟩
          rw [← Bool.not_eq_true, isComponentIdValue_iff] at hInvalid
          omega

/-- The details of an outcome are empty, its fields or its component id. -/
theorem details_outcomeOf (code : OperationErrorCode) (names : List Text)
    (componentId : Option Text) :
    (outcomeOf code names componentId).2 = [] ∨
      (∃ shown, (outcomeOf code names componentId).2 = fieldDetails shown ∧
        (shown = [] ∨ shown = names)) ∨
      ∃ id, (outcomeOf code names componentId).2 = componentDetails id ∧ componentId = some id := by
  have hIdentified : ∀ c, (identifiedOutcome c componentId).2 = [] ∨
      ∃ id, (identifiedOutcome c componentId).2 = componentDetails id ∧ componentId = some id := by
    intro c
    cases componentId with
    | none => exact .inl rfl
    | some id => exact .inr ⟨id, rfl, rfl⟩
  have hEither : ∀ c, (identifiedOutcome c componentId).2 = [] ∨
      (∃ shown, (identifiedOutcome c componentId).2 = fieldDetails shown ∧
        (shown = [] ∨ shown = names)) ∨
      ∃ id, (identifiedOutcome c componentId).2 = componentDetails id ∧ componentId = some id := by
    intro c
    rcases hIdentified c with hNone | hSome
    · exact .inl hNone
    · exact .inr (.inr hSome)
  unfold outcomeOf
  cases code
  case componentRefused =>
    by_cases hNonempty : names ≠ []
    · simp only [if_pos hNonempty]
      exact .inr (.inl ⟨names, rfl, .inr rfl⟩)
    · simp only [if_neg hNonempty]
      exact hEither _
  case componentContractError =>
    cases componentId with
    | none => exact .inl rfl
    | some id => exact .inr (.inr ⟨id, rfl, rfl⟩)
  case invalidComponentInput => exact .inr (.inl ⟨names, rfl, .inr rfl⟩)
  all_goals first | exact hEither _ | exact .inl rfl | exact .inr (.inl ⟨[], rfl, .inl rfl⟩)

/-- Every mapped error is redacted. -/
theorem redacted_mapOperationError (error : OperationError) (request : Option OperationRequest)
    (fields : FieldCollection) :
    Redacted error request fields (mapOperationError error request fields) := by
  obtain ⟨-, hDetails, -⟩ := @mapOperationError_eq error request fields
  have hProjected :
    Projected (verifiedFields fields) (projectedFields error (verifiedFields fields)) :=
    projected_projectedFields _
  constructor
  · obtain ⟨hDistinct, hSorted⟩ := sorted_outcomeOf error.1.code
      (projectedFields error (verifiedFields fields)) (projectComponentId error request)
    rw [← hDetails] at hDistinct hSorted
    exact modelValidate_dump _ hDistinct hSorted
  · rw [hDetails]
    rcases details_outcomeOf error.1.code (projectedFields error (verifiedFields fields))
      (projectComponentId error request) with hEmpty | ⟨shown, hShown, hNames⟩ | ⟨id, hShown, hId⟩
    · exact .inl hEmpty
    · have hShownProjected : Projected (verifiedFields fields) shown := by
        rcases hNames with rfl | rfl
        · exact projected_nil _
        · exact hProjected
      refine .inr (.inl ⟨shown, hShown, hShownProjected.length_le, hShownProjected.nodup,
        fun name hName => ?_⟩)
      exact (mem_verifiedFields.1 (hShownProjected.declared name hName)).2
    · exact .inr (.inr ⟨id, hShown, namesComponent_of_projected hId⟩)

/-- Every failure of the mapping is redacted, and two errors that agree on the code, the component
id and the projected field names have one failure. -/
theorem mapOperationError_redacts :
    (∀ error request fields, Redacted error request fields (mapOperationError error request
      fields)) ∧
      ∀ {e₁ e₂ : OperationError} {request : Option OperationRequest} {fields : FieldCollection},
        e₁.1.code = e₂.1.code →
        e₁.1.component.map (fun c => c.id.1) = e₂.1.component.map (fun c => c.id.1) →
        projectedFields e₁ (verifiedFields fields) = projectedFields e₂ (verifiedFields fields) →
        mapOperationError e₁ request fields = mapOperationError e₂ request fields := by
  refine ⟨redacted_mapOperationError, fun {e₁ e₂ request fields} hCode hComponent hFields => ?_⟩
  have hId : projectComponentId e₁ request = projectComponentId e₂ request := by
    unfold projectComponentId
    rw [hComponent]
  obtain ⟨hCode₁, hDetails₁, hTrust₁⟩ := @mapOperationError_eq e₁ request fields
  obtain ⟨hCode₂, hDetails₂, hTrust₂⟩ := @mapOperationError_eq e₂ request fields
  rw [hCode, hFields, hId] at hCode₁ hDetails₁
  exact HostFailure.ext_fields (hCode₁.trans hCode₂.symm) (hDetails₁.trans hDetails₂.symm)
    (hTrust₁.trans hTrust₂.symm)

/-- A reference to a component. -/
def componentNamed (id : ComponentId) : ComponentRef :=
  ⟨id, ⟨py "1.0.0", isSemver_one⟩, ⟨List.replicate 64 0x30, isSha256_zeros⟩⟩

/-- An error about a component, with the message given. -/
def notFound (message : Chars 1 500) : OperationError :=
  ⟨⟨.componentNotFound, message, some (componentNamed ⟨py "dq.a.b", isComponentId_sample⟩),
    emptyObject⟩, rfl⟩

/-- A request for a component whose id has 245 characters. -/
def longRequest : OperationRequest :=
  ⟨⟨componentNamed ⟨py "dq.a." ++ List.replicate 240 0x62, by decide⟩, emptyObject,
    ⟨.userPrompt, .callerStructured, .unverified, ⟨py "demo", charsWithin_demo⟩,
    ⟨[], lengthWithin_noReferences⟩, none,
      ⟨[], lengthWithin_noReferences⟩⟩, none⟩, rfl⟩

/-- The failure for a request with a long component id names the component of the error. -/
theorem not_names_request :
    (mapOperationError (notFound ⟨py "missing", by decide⟩) (some longRequest)
      (.items [])).details = componentDetails (py "dq.a.b") ∧
    longRequest.1.component.id.1 ≠ py "dq.a.b" := by
  have hId : projectComponentId (notFound ⟨py "missing", by decide⟩) (some longRequest) =
    some (py "dq.a.b") := by
    decide +kernel
  refine ⟨mapOperationError_eq.2.1.trans ?_, by decide⟩
  rw [hId]
  rfl

/-- The errors of an input model in one declared field and in one that is not declared. -/
def inputErrors (undeclared : String) : Members :=
  [(py "errors", .list [.obj [(py "loc", .list [.lit "window", .int 3])],
    .obj [(py "loc", .list [.lit undeclared])]])]

/-- An invalid input, with the path of a file in its message and its details. -/
def invalidPrivate : OperationError :=
  ⟨⟨.invalidComponentInput, ⟨py "bad /home/a", by decide⟩, none,
    SortedObject.of (inputErrors "/home/a") (by decide)⟩,
    Except.eq_ok_of_toOption (by decide +kernel)⟩

/-- Another one, with another path. -/
def invalidShared : OperationError :=
  ⟨⟨.invalidComponentInput, ⟨py "bad /srv/b", by decide⟩, none,
    SortedObject.of (inputErrors "/srv/b") (by decide)⟩,
    Except.eq_ok_of_toOption (by decide +kernel)⟩

/-- The failures of the two name the declared field, and nothing else of their messages and details. -/
theorem mapOperationError_redacts_inputs :
    mapOperationError invalidPrivate none (.items [.lit "returns", .lit "window"]) =
        mapOperationError invalidShared none (.items [.lit "returns", .lit "window"]) ∧
      (mapOperationError invalidPrivate none (.items [.lit "returns", .lit "window"])).details =
        fieldDetails [py "window"] := by
  have hFields : ∀ error ∈ [invalidPrivate, invalidShared],
      projectedFields error (verifiedFields (.items [.lit "returns", .lit "window"])) =
      [py "window"] := by
    intro error hError
    rcases List.mem_pair.1 hError with rfl | rfl <;> decide +kernel
  have hPrivate := hFields invalidPrivate List.mem_cons_self
  have hShared := hFields invalidShared (List.mem_cons_of_mem _ List.mem_cons_self)
  refine ⟨mapOperationError_redacts.2 rfl rfl (hPrivate.trans hShared.symm),
    mapOperationError_eq.2.1.trans ?_⟩
  rw [hPrivate]
  rfl

end HostFailures
