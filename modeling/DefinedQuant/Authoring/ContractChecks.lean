import DefinedQuant.Lib.SortBy
import DefinedQuant.Protocol.Patterns
import DefinedQuant.Shared.Validation

/-!
# The authoring checks of guidance

What is checked of the guidance of a contract before the contract is accepted: the `guidance`
definition of `contract.schema.json`, and `_validate_guidance` against the input fields of the
component.
-/

namespace Authoring

open PyValue (get? keysAre)

/-! ## The schema -/

/-- `identifier`: `^[a-z][a-z0-9]*(?:_[a-z0-9]+)*$`, where `$` also stands before a last line feed. -/
def isIdentifier (value : Text) : Bool :=
  let body := if value.getLast? = some 0x0A then value.dropLast else value
  value.length ≤ 64 &&
    (match body with
      | [] => false
      | c :: _ => c.isLower) &&
    (Protocol.split 0x5F body).all (fun part =>
      !part.isEmpty && part.all (fun c => c.isLower || c.isDigit))

/-- `{"$ref": "#/$defs/identifier"}` -/
def isIdentifierValue : Option PyValue → Bool
  | some (.str s) => isIdentifier s
  | _ => false

/-- `{"type": "string", "minLength": 1}` -/
def isNonEmptyString : Option PyValue → Bool
  | some (.str s) => !s.isEmpty
  | _ => false

/-- A value without items. -/
def isScalar : PyValue → Bool
  | .none | .bool _ | .int _ | .float _ | .str _ => true
  | _ => false

/-- `jsonValue` -/
def isJsonValue : Option PyValue → Bool
  | some (.seq .list xs) => xs.all isScalar
  | some v => isScalar v
  | none => false

/-- The `measure` enumeration. -/
def measureNames : List Text :=
  ["identity", "count", "stdev", "min", "max", "all_finite", "all_valid_calendar_month_labels",
    "has_duplicates", "is_consecutive_calendar_months", "is_strictly_increasing"].map py

/-- The `op` enumeration. -/
def operatorNames : List Text := ["lt", "le", "gt", "ge", "eq", "ne", "in_set", "not_in_set"].map py

/-- `{"enum": [...]}` -/
def isOneOf (names : List Text) : Option PyValue → Bool
  | some (.str s) => decide (s ∈ names)
  | _ => false

/-- `additionalProperties: false`, `required` -/
def hasKeys (m : List (Option Text × PyValue)) (required optional : List String) : Bool :=
  m.all (fun p => decide (p.1 ∈ (required ++ optional).map (fun k => some (py k)))) &&
    required.all (fun k => (get? m k).isSome)

/-- `operand` -/
def isOperand : Option PyValue → Bool
  | some (.mapping m) =>
      (hasKeys m ["value"] [] && isJsonValue (get? m "value")) ||
        (hasKeys m ["field"] ["measure"] && isIdentifierValue (get? m "field") &&
          ((get? m "measure").isNone || isOneOf measureNames (get? m "measure")))
  | _ => false

/-- `comparison` -/
def isComparison (m : List (Option Text × PyValue)) : Bool :=
  hasKeys m ["left", "op", "right"] [] && isOperand (get? m "left") &&
    isOneOf operatorNames (get? m "op") && isOperand (get? m "right")

mutual

/-- `condition`; an object with the single key `all` or `any` is no comparison. -/
def isCondition : PyValue → Bool
  | .mapping [(some key, .seq .list children)] =>
      (decide (key = py "all") || decide (key = py "any")) && !children.isEmpty &&
        areConditions children
  | .mapping m => isComparison m
  | _ => false

def areConditions : List PyValue → Bool
  | [] => true
  | child :: children => isCondition child && areConditions children

end

/-- `constraint` -/
def isConstraint : PyValue → Bool
  | .mapping m =>
      hasKeys m ["id", "severity", "when", "message"] [] && isIdentifierValue (get? m "id") &&
        isOneOf [py "blocking", py "warning"] (get? m "severity") &&
        ((get? m "when").map isCondition).getD false && isNonEmptyString (get? m "message")
  | _ => false

/-- `requiredQuestion` -/
def isRequiredQuestion : PyValue → Bool
  | .mapping m =>
      hasKeys m ["id", "ask", "why", "resolves_to", "default"] [] && isIdentifierValue
        (get? m "id") &&
        isNonEmptyString (get? m "ask") && isNonEmptyString (get? m "why") &&
        isIdentifierValue (get? m "resolves_to") && isJsonValue (get? m "default")
  | _ => false

/-- `advisoryQuestion` -/
def isAdvisoryQuestion : PyValue → Bool
  | .mapping m =>
      hasKeys m ["id", "ask", "why"] [] && isIdentifierValue (get? m "id") &&
        isNonEmptyString (get? m "ask") && isNonEmptyString (get? m "why")
  | _ => false

/-- `allowedDefault` -/
def isAllowedDefault : PyValue → Bool
  | .mapping m =>
      hasKeys m ["field", "value", "rationale"] ["only_if"] && isIdentifierValue (get? m "field") &&
        isJsonValue (get? m "value") && isNonEmptyString (get? m "rationale") &&
        ((get? m "only_if").map isCondition).getD true
  | _ => false

/-- `{"type": "array", "items": ...}` -/
def isArrayOf (isItem : PyValue → Bool) : Option PyValue → Bool
  | some (.seq .list xs) => xs.all isItem
  | _ => false

/-- `nonEmptyStringArray` -/
def isNonEmptyStringArray : Option PyValue → Bool
  | some (.seq .list xs) => !xs.isEmpty && xs.all (fun x => isNonEmptyString (some x))
  | _ => false

/-- `guidance` -/
def isGuidance (m : List (Option Text × PyValue)) : Bool :=
  hasKeys m ["use_when", "do_not_use_when", "unsupported_scope", "required_questions",
    "allowed_defaults",
      "constraints", "interpretation"] ["advisory_questions"] &&
    isNonEmptyStringArray (get? m "use_when") && isNonEmptyStringArray (get? m "do_not_use_when") &&
    isNonEmptyStringArray (get? m "unsupported_scope") &&
    isArrayOf isRequiredQuestion (get? m "required_questions") &&
    ((get? m "advisory_questions").isNone ||
      isArrayOf isAdvisoryQuestion (get? m "advisory_questions")) &&
    isArrayOf isAllowedDefault (get? m "allowed_defaults") &&
    isArrayOf isConstraint (get? m "constraints") && isNonEmptyString (get? m "interpretation")

/-! ## The checker -/

mutual

/-- `_condition_fields` -/
def conditionFields : PyValue → List Text
  | .mapping m =>
      (match get? m "field" with
        | some (.str field) => [field]
        | _ => []) ++ memberFields m
  | .seq .list xs => itemFields xs
  | _ => []

def memberFields : List (Option Text × PyValue) → List Text
  | [] => []
  | (_, v) :: m => conditionFields v ++ memberFields m

def itemFields : List PyValue → List Text
  | [] => []
  | v :: xs => conditionFields v ++ itemFields xs

end

/-- `"value" in operand` for a mapping. -/
def isLiteralOperand : Option PyValue → Bool
  | some (.mapping m) => (get? m "value").isSome
  | _ => false

mutual

/-- `_has_literal_only_comparison` -/
def hasLiteralOnlyComparison : PyValue → Bool
  | .mapping m =>
      match branchComparison (py "all") m, branchComparison (py "any") m with
      | some found, _ => found
      | none, some found => found
      | none, none => isLiteralOperand (get? m "left") && isLiteralOperand (get? m "right")
  | _ => false

/-- What is found under the first member with the key, if it is a list. -/
def branchComparison (key : Text) : List (Option Text × PyValue) → Option Bool
  | [] => none
  | (k, v) :: m => if k = some key then childrenComparison v else branchComparison key m

def childrenComparison : PyValue → Option Bool
  | .seq .list children => some (anyComparison children)
  | _ => none

def anyComparison : List PyValue → Bool
  | [] => false
  | child :: children => hasLiteralOnlyComparison child || anyComparison children

end

/-- `_duplicates` -/
def duplicates (values : List Text) : List Text :=
  sortBy id (values.filter (fun v => decide (1 < values.count v))).dedup

/-- An error of `_validate_guidance`. -/
inductive GuidanceError where
  | unknownField (field : Text)
  | inputIndependent (constraintId : PyValue)
  | duplicateQuestion (id : Text)
  | unknownTarget (target : Text)
  | nonRequiredTarget (target : Text)
  | duplicateDefault (field : Text)
  | unknownDefault (field : Text)
  | undeclaredDefault (field : Text)
  | mismatchedDefault (field : Text)

/-- The text of an error after the path, for `repr`. -/
def GuidanceError.message (repr : PyValue → Text) : GuidanceError → Text
  | .unknownField field => py "guidance references unknown input field " ++ repr (.str field)
  | .inputIndependent constraintId => py "warning constraint " ++ repr constraintId ++
      py " contains an input-independent comparison; constant output context belongs in Output.disclosures"
  | .duplicateQuestion id => py "duplicate required question id " ++ repr (.str id)
  | .unknownTarget target => py "required question resolves to unknown input " ++ repr (.str target)
  | .nonRequiredTarget target =>
      py "required question resolves to non-required input " ++ repr (.str target)
  | .duplicateDefault field => py "duplicate allowed default for " ++ repr (.str field)
  | .unknownDefault field => py "allowed default references unknown input " ++ repr (.str field)
  | .undeclaredDefault field =>
      py "allowed default for " ++ repr (.str field) ++ py " is not declared by Inputs"
  | .mismatchedDefault field =>
      py "allowed default for " ++ repr (.str field) ++ py " does not match Inputs"

/-- What the checker knows of the inputs model. -/
structure InputsModel where
  inputFields : List Text
  requiredInputs : List Text
  /-- The defaults of the other fields; an enumeration member by its value. -/
  inputDefaults : List (Text × PyValue)

/-- `raw if isinstance(raw, list) else []` -/
def listOrEmpty (m : List (Option Text × PyValue)) (key : String) : List PyValue :=
  match get? m key with
  | some (.seq .list xs) => xs
  | _ => []

/-- The text under a key of an item that is a mapping. -/
def textMember (key : String) : PyValue → Option Text
  | .mapping m =>
      match get? m key with
      | some (.str s) => some s
      | _ => none
  | _ => none

/-- The error of a warning that compares literals. -/
def literalErrors : PyValue → List GuidanceError
  | .mapping m =>
      match get? m "severity" with
      | some (.str severity) =>
          if severity = py "warning" ∧ hasLiteralOnlyComparison ((get? m "when").getD .none) then
            [.inputIndependent ((get? m "id").getD (.str (py "unknown")))]
          else []
      | _ => []
  | _ => []

/-- The error of a question about its target. -/
def targetErrors (inputs : InputsModel) (question : PyValue) : List GuidanceError :=
  match textMember "resolves_to" question with
  | some target =>
      if target ∉ inputs.inputFields then [.unknownTarget target]
      else if target ∉ inputs.requiredInputs then [.nonRequiredTarget target]
      else []
  | none => []

/-- The error of an allowed default that differs from the model's. -/
def defaultErrors (inputs : InputsModel) (item : PyValue) : List GuidanceError :=
  match textMember "field" item with
  | some field =>
      match inputs.inputDefaults.lookup field with
      | some modelDefault =>
          let value := match item with
            | .mapping m => (get? m "value").getD .none
            | _ => .none
          if PyValue.equal modelDefault value then [] else [.mismatchedDefault field]
      | none => []
  | none => []

/-- The fields that the conditions and the defaults refer to. -/
def referencedFields (m : List (Option Text × PyValue)) : List Text :=
  conditionFields ((get? m "constraints").getD (.seq .list [])) ++
    conditionFields ((get? m "allowed_defaults").getD (.seq .list []))

/-- `_validate_guidance` of an object. -/
def validateGuidance (inputs : InputsModel) (m : List (Option Text × PyValue)) :
    List GuidanceError :=
  let unknown := (referencedFields m).filter (fun field => decide (field ∉ inputs.inputFields))
  let questions := listOrEmpty m "required_questions"
  let defaults := listOrEmpty m "allowed_defaults"
  let defaultFields := defaults.filterMap (textMember "field")
  (sortedSet unknown).map .unknownField ++
    (listOrEmpty m "constraints").flatMap literalErrors ++
    (duplicates (questions.filterMap (textMember "id"))).map .duplicateQuestion ++
    questions.flatMap (targetErrors inputs) ++
    (duplicates defaultFields).map .duplicateDefault ++
    (sortedSet (defaultFields.filter (fun field => decide (field ∉ inputs.inputFields)))).map
      .unknownDefault ++
    (sortedSet (defaultFields.filter (fun field => decide (field ∈ inputs.requiredInputs)))).map
      .undeclaredDefault ++
    defaults.flatMap (defaultErrors inputs)

end Authoring
