import DefinedQuant.Lib.Except
import DefinedQuant.Lib.PyValue

/-!
# Constraint evaluation

The evaluator of the rules that a contract declares: closed expressions over the fields of a
component's inputs, without any code. A rule compares operands, which are literals or measures of
fields, and joins comparisons by `all` and `any` down to a fixed depth. `preflight` raises all
blocking rules that fire at once and returns the others.

`statistics.stdev` and `repr` are parameters. The interpreter's limit on the digits of an integer
that is shown is part of the evaluator; its recursion limit is not met here, and `RuleLimits` adds
it.
-/

namespace Validation

open PyValue (OrderOp)

/-- `MAX_EXPRESSION_DEPTH` -/
def maxExpressionDepth : ℕ := 3

/-- An input field with its value. -/
abbrev Fields := List (Text × PyValue)

/-! ## Failures -/

/-- Why an evaluation is refused with a `ContractEvaluationError`. -/
inductive Reason where
  | sequenceRequired (measure : Text)
  | numbersRequired (measure : Text)
  | sizedRequired
  | tooFewForStdev
  | nonFiniteStdev
  | emptySequence (measure : Text)
  | undefinedMeasure (measure : Text)
  | incomparableSequence
  | operandNotObject
  | operandAmbiguous
  | literalKeys
  | unknownOperandKeys
  | fieldNotText
  | unavailableField (field : Text)
  | unknownMeasure (measure : PyValue)
  | unknownOperator (operator : Text)
  /-- The operands are those of the expression, which the message does not show. -/
  | setRequired (operator : Text) (left right : PyValue)
  | undefinedOperator (operator : Text) (left right : PyValue)
  | tooDeep
  | expressionNotObject
  | emptyBranch (branch : Text)
  | comparisonKeys
  | operatorNotText
  | constraintsNotList
  | constraintNotObject
  | constraintId
  | duplicateConstraintId (id : Text)
  | invalidSeverity (id : Text)
  | noMessage (id : Text)
  | noExpression (id : Text)
  | guidanceNotLists
  | invalidAllowedDefault
  | noDefaultValue (field : Text)
  | invalidRequiredQuestion
  | questionTargetNotText
  | guidanceNotObject

/-- The message of the error, for `repr`. -/
def Reason.message (repr : PyValue → Text) : Reason → Text
  | .sequenceRequired measure => py "measure " ++ repr (.str measure) ++
    py " requires a sequence value"
  | .numbersRequired measure => py "measure " ++ repr (.str measure) ++
    py " requires numeric values"
  | .sizedRequired => py "measure 'count' requires a sized non-string value"
  | .tooFewForStdev => py "measure 'stdev' requires at least two values"
  | .nonFiniteStdev => py "measure 'stdev' produced a non-finite value"
  | .emptySequence measure =>
      py "measure " ++ repr (.str measure) ++ py " is undefined for an empty sequence"
  | .undefinedMeasure measure =>
      py "measure " ++ repr (.str measure) ++ py " is undefined for the supplied values"
  | .incomparableSequence =>
      py "measure 'is_strictly_increasing' requires mutually comparable values"
  | .operandNotObject => py "constraint operand must be an object"
  | .operandAmbiguous => py "constraint operand must contain exactly one of 'value' or 'field'"
  | .literalKeys => py "literal constraint operands may contain only 'value'"
  | .unknownOperandKeys => py "field operand contains unknown keys"
  | .fieldNotText => py "constraint field must be a string"
  | .unavailableField field => py "constraint references an unavailable input field: " ++ field
  | .unknownMeasure measure => py "unknown constraint measure: " ++ repr measure
  | .unknownOperator operator => py "unknown constraint operator: " ++ repr (.str operator)
  | .setRequired operator _ _ =>
      py "operator " ++ repr (.str operator) ++ py " requires a set-like right operand"
  | .undefinedOperator operator _ _ =>
      py "operator " ++ repr (.str operator) ++ py " is undefined for the supplied operands"
  | .tooDeep => py "constraint expression exceeds maximum depth 3"
  | .expressionNotObject => py "constraint expression must be an object"
  | .emptyBranch branch => py "constraint '" ++ branch ++ py "' must contain a non-empty list"
  | .comparisonKeys => py "comparison expression must contain exactly 'left', 'op', and 'right'"
  | .operatorNotText => py "constraint operator must be a string"
  | .constraintsNotList => py "guidance constraints must be a list"
  | .constraintNotObject => py "constraint record must be an object"
  | .constraintId => py "constraint id must be a non-empty string"
  | .duplicateConstraintId id => py "duplicate constraint id: " ++ id
  | .invalidSeverity id => py "constraint " ++ repr (.str id) ++ py " has invalid severity"
  | .noMessage id => py "constraint " ++ repr (.str id) ++ py " has no message"
  | .noExpression id => py "constraint " ++ repr (.str id) ++ py " has no expression"
  | .guidanceNotLists => py "allowed_defaults and required_questions must be lists"
  | .invalidAllowedDefault => py "invalid allowed_default record"
  | .noDefaultValue field => py "allowed default for " ++ repr (.str field) ++ py " has no value"
  | .invalidRequiredQuestion => py "invalid required_question record"
  | .questionTargetNotText => py "required_question resolves_to must be a string"
  | .guidanceNotObject => py "contract guidance must be an object"

inductive Severity where
  | blocking
  | warning
  deriving DecidableEq, Repr

/-- `Violation` -/
structure Violation where
  rule : Text
  severity : Severity
  message : Text
  deriving DecidableEq, Repr

/-- A required question that has no answer. -/
structure MissingQuestion where
  id : PyValue
  field : Text
  ask : PyValue
  why : PyValue

/-- A raised exception. -/
inductive Raised where
  | contractEvaluationError (reason : Reason)
  | ambiguousInput (questions : List MissingQuestion)
  | domainError (violations : List Violation)
  /-- An `OverflowError` of `float(...)`. -/
  | overflowError
  /-- A `TypeError` of a value that has no hash. -/
  | typeError
  /-- The `ValueError` of `repr(...)` on an integer of too many digits. -/
  | valueError
  /-- Any other exception of `statistics.stdev`. -/
  | statisticsError (message : Text)
  /-- A `RecursionError`, which only the evaluator on a limited stack raises. -/
  | recursionError

/-- `raise _contract_error(...)` -/
def refuse {α : Type} (reason : Reason) : Except Raised α :=
  .error (.contractEvaluationError reason)

/-- `if p: raise _contract_error(...)` -/
def refuseIf (p : Prop) [Decidable p] (reason : Reason) : Except Raised Unit :=
  Except.raiseIf p (.contractEvaluationError reason)

/-- An outcome of a comparison, or the refusal where Python raises a `TypeError`. -/
def orRefuse {α : Type} (reason : Reason) : Option α → Except Raised α
  | some a => .ok a
  | none => refuse reason

/-! ## Measures -/

/-- `_sequence` -/
def sequence (value : PyValue) (measure : Text) : Except Raised (List PyValue) :=
  match value with
  | .seq _ xs => .ok xs
  | _ => refuse (.sequenceRequired measure)

/-- `_real` -/
def real (measure : Text) (value : PyValue) : Except Raised Binary64 :=
  match value with
  | .int n =>
      if (Binary64.ofInt n).isFinite then .ok (Binary64.ofInt n) else .error .overflowError
  | .float x => .ok x
  | _ => refuse (.numbersRequired measure)

/-- `_measure_count` -/
def measureCount (value : PyValue) : Except Raised PyValue :=
  match value with
  | .seq _ xs => .ok (.int xs.length)
  | .mapping m => .ok (.int m.length)
  | _ => refuse .sizedRequired

/-- `_measure_stdev` -/
def measureStdev (stdev : List Binary64 → Except Text Binary64) (value : PyValue) :
    Except Raised PyValue := do
  let values ← sequence value (py "stdev")
  let numbers ← values.mapM (real (py "stdev"))
  refuseIf (numbers.length < 2) .tooFewForStdev
  let result ← (stdev numbers).mapError Raised.statisticsError
  refuseIf (result.isFinite = false) .nonFiniteStdev
  return .float result

/-- `min(values)` for `lt` and `max(values)` for `gt`: the first of the extreme items. -/
def extreme (op : OrderOp) : PyValue → List PyValue → Option PyValue
  | best, [] => some best
  | best, x :: xs => do
      let better ← PyValue.order op x best
      extreme op (if better then x else best) xs

/-- `_measure_min` and `_measure_max` -/
def measureExtreme (op : OrderOp) (measure : Text) (value : PyValue) : Except Raised PyValue := do
  let values ← sequence value measure
  match values with
  | [] => refuse (.emptySequence measure)
  | x :: xs => orRefuse (.undefinedMeasure measure) (extreme op x xs)

/-- `_measure_all_finite` -/
def measureAllFinite (value : PyValue) : Except Raised PyValue := do
  let numbers ← match value with
    | .seq _ xs => xs.mapM (real (py "all_finite"))
    | _ => [value].mapM (real (py "all_finite"))
  return .bool (numbers.all Binary64.isFinite)

/-- `[0-9]` -/
def isDigit (c : CodePoint) : Bool := decide (0x30 ≤ c.val ∧ c.val ≤ 0x39)

/-- `[0-9]{4}-(?:0[1-9]|1[0-2])` -/
def isCalendarMonth (text : Text) : Bool :=
  match text with
  | [a, b, c, d, hyphen, m, n] =>
      [a, b, c, d].all isDigit && decide (hyphen.val = 0x2D) &&
        ((decide (m.val = 0x30) && decide (0x31 ≤ n.val ∧ n.val ≤ 0x39)) ||
          (decide (m.val = 0x31) && decide (0x30 ≤ n.val ∧ n.val ≤ 0x32)))
  | _ => false

/-- Whether a value is the label of a calendar month. -/
def isMonthLabel (value : PyValue) : Bool :=
  match value with
  | .str text => isCalendarMonth text
  | _ => false

/-- `_measure_all_valid_calendar_month_labels` -/
def measureAllValidCalendarMonthLabels (value : PyValue) : Except Raised PyValue := do
  let values ← sequence value (py "all_valid_calendar_month_labels")
  return .bool (values.all isMonthLabel)

/-- Whether an item equals one of the prior items. -/
def hasDuplicatesFrom : List PyValue → List PyValue → Bool
  | _, [] => false
  | prior, item :: rest =>
      prior.any (fun p => PyValue.equal item p) || hasDuplicatesFrom (prior ++ [item]) rest

/-- `_measure_has_duplicates` -/
def measureHasDuplicates (value : PyValue) : Except Raised PyValue := do
  let values ← sequence value (py "has_duplicates")
  return .bool (hasDuplicatesFrom [] values)

/-- `int(text)` for digits. -/
def decimalValue (text : Text) : ℤ := text.foldl (fun n c => 10 * n + ((c.val : ℤ) - 0x30)) 0

/-- The number of a calendar month. -/
def monthOrdinal : PyValue → Option ℤ
  | .str text => some (decimalValue (text.take 4) * 12 + decimalValue (text.drop 5) - 1)
  | _ => none

/-- `_measure_is_consecutive_calendar_months` -/
def measureIsConsecutiveCalendarMonths (value : PyValue) : Except Raised PyValue := do
  let values ← sequence value (py "is_consecutive_calendar_months")
  if values.all isMonthLabel then
    let ordinals := values.filterMap monthOrdinal
    return .bool ((ordinals.zip ordinals.tail).all (fun p => decide (p.2 = p.1 + 1)))
  else return .bool false

/-- `all(left < right ...)`, which stops at the first pair that is not in order. -/
def strictlyIncreasing : List (PyValue × PyValue) → Option Bool
  | [] => some true
  | (left, right) :: pairs => do
      if ← PyValue.order .lt left right then strictlyIncreasing pairs else return false

/-- `_measure_is_strictly_increasing` -/
def measureIsStrictlyIncreasing (value : PyValue) : Except Raised PyValue := do
  let values ← sequence value (py "is_strictly_increasing")
  return .bool (← orRefuse .incomparableSequence (strictlyIncreasing (values.zip values.tail)))

/-- `_MEASURE_DISPATCH`, by the names in `MEASURES`. -/
def measures (stdev : List Binary64 → Except Text Binary64) :
    List (Text × (PyValue → Except Raised PyValue)) :=
  [(py "identity", .ok), (py "count", measureCount), (py "stdev", measureStdev stdev),
    (py "min", measureExtreme .lt (py "min")), (py "max", measureExtreme .gt (py "max")),
    (py "all_finite", measureAllFinite),
    (py "all_valid_calendar_month_labels", measureAllValidCalendarMonthLabels),
    (py "has_duplicates", measureHasDuplicates),
    (py "is_consecutive_calendar_months", measureIsConsecutiveCalendarMonths),
    (py "is_strictly_increasing", measureIsStrictlyIncreasing)]

/-! ## Expressions -/

/-- `isinstance(operand, Mapping)` with text keys. -/
def textMapping (value : PyValue) (reason : Reason) :
    Except Raised (List (Option Text × PyValue)) :=
  match value with
  | .mapping m => if PyValue.keysAreText m then .ok m else refuse reason
  | _ => refuse reason

mutual

/-- Whether `repr(value)` returns: no integer inside has more than 4300 digits. -/
def shown : PyValue → Bool
  | .int n => decide (n.natAbs < 10 ^ 4300)
  | .seq _ xs => shownItems xs
  | .mapping m => shownMembers m
  | _ => true

def shownItems : List PyValue → Bool
  | [] => true
  | x :: xs => shown x && shownItems xs

def shownMembers : List (Option Text × PyValue) → Bool
  | [] => true
  | (_, x) :: m => shown x && shownMembers m

end

/-- The value of a field operand. A measure that is not a text is shown in the message. -/
def resolveField (stdev : List Binary64 → Except Text Binary64) (values : Fields)
    (field measure : PyValue) : Except Raised PyValue :=
  match field with
  | .str name =>
      match values.lookup name with
      | none => refuse (.unavailableField name)
      | some value =>
          match measure with
          | .str measureName =>
              match (measures stdev).lookup measureName with
              | none => refuse (.unknownMeasure measure)
              | some apply => apply value
          | _ => if shown measure then refuse (.unknownMeasure measure) else .error .valueError
  | _ => refuse .fieldNotText

/-- `_resolve_operand` -/
def resolveOperand (stdev : List Binary64 → Except Text Binary64) (values : Fields)
    (operand : PyValue) : Except Raised PyValue := do
  let m ← textMapping operand .operandNotObject
  match PyValue.get? m "value", PyValue.get? m "field" with
  | some value, none =>
      refuseIf (PyValue.keysAre m ["value"] = false) .literalKeys
      return value
  | none, some field =>
      refuseIf (¬ ∀ p ∈ m, p.1 ∈ [some (py "field"), some (py "measure")]) .unknownOperandKeys
      resolveField stdev values field ((PyValue.get? m "measure").getD (.str (py "identity")))
  | _, _ => refuse .operandAmbiguous

/-- The order operators of `OPERATORS`. -/
def orderOperators : List (Text × OrderOp) :=
  [(py "lt", .lt), (py "le", .le), (py "gt", .gt), (py "ge", .ge)]

/-- `_compare`; the operands are kept for the failure. -/
def compare (operator : Text) (left right leftOperand rightOperand : PyValue) :
    Except Raised Bool :=
  match orderOperators.lookup operator with
  | some op =>
      orRefuse (.undefinedOperator operator leftOperand rightOperand) (PyValue.order op left right)
  | none =>
      if operator = py "eq" then .ok (PyValue.equal left right)
      else if operator = py "ne" then .ok (!PyValue.equal left right)
      else if operator = py "in_set" ∨ operator = py "not_in_set" then
        match right with
        | .seq _ items => .ok (PyValue.isIn left items == decide (operator = py "in_set"))
        | _ => refuse (.setRequired operator leftOperand rightOperand)
      else refuse (.unknownOperator operator)

/-- `isinstance(children, list)` with at least one item. -/
def branchChildren (branch : Text) (children : PyValue) : Except Raised (List PyValue) :=
  match children with
  | .seq .list (child :: rest) => .ok (child :: rest)
  | _ => refuse (.emptyBranch branch)

/-- The comparison of an expression. -/
def evaluateComparison (stdev : List Binary64 → Except Text Binary64) (values : Fields)
    (m : List (Option Text × PyValue)) : Except Raised Bool :=
  match PyValue.get? m "left", PyValue.get? m "op", PyValue.get? m "right" with
  | some leftOperand, some operator, some rightOperand => do
      refuseIf (PyValue.keysAre m ["left", "op", "right"] = false) .comparisonKeys
      match operator with
      | .str name => do
          let left ← resolveOperand stdev values leftOperand
          let right ← resolveOperand stdev values rightOperand
          compare name left right leftOperand rightOperand
      | _ => refuse .operatorNotText
  | _, _, _ => refuse .comparisonKeys

/-- `_evaluate_expression`, by how many levels it may still go down. -/
def evaluateExpression (stdev : List Binary64 → Except Text Binary64) (values : Fields) :
    ℕ → PyValue → Except Raised Bool
  | 0, _ => refuse .tooDeep
  | levels + 1, expression => do
      let m ← textMapping expression .expressionNotObject
      if PyValue.keysAre m ["all"] then
        let children ← branchChildren (py "all") ((PyValue.get? m "all").getD .none)
        children.allM (evaluateExpression stdev values levels)
      else if PyValue.keysAre m ["any"] then
        let children ← branchChildren (py "any") ((PyValue.get? m "any").getD .none)
        children.anyM (evaluateExpression stdev values levels)
      else evaluateComparison stdev values m

/-! ## Rules -/

mutual

/-- Whether a value has a hash. -/
def hashable : PyValue → Bool
  | .seq .list _ | .mapping _ => false
  | .seq .tuple xs => hashableItems xs
  | _ => true

def hashableItems : List PyValue → Bool
  | [] => true
  | x :: xs => hashable x && hashableItems xs

end

/-- `severity in {"blocking", "warning"}` -/
def severityOf (id : Text) (severity : PyValue) : Except Raised Severity :=
  match severity with
  | .str s =>
      if s = py "blocking" then .ok .blocking
      else if s = py "warning" then .ok .warning
      else refuse (.invalidSeverity id)
  | _ => if hashable severity then refuse (.invalidSeverity id) else .error .typeError

/-- A text that is not empty. -/
def nonEmptyText? : Option PyValue → Option Text
  | some (.str (c :: s)) => some (c :: s)
  | _ => none

/-- A value that is there and is not `None`. -/
def present? : Option PyValue → Option PyValue
  | none | some .none => none
  | some value => some value

/-- One turn of the loop over the rules, with the IDs seen and the violations found so far. -/
def evaluateRule (stdev : List Binary64 → Except Text Binary64) (values : Fields)
    (sofar : List Text × List Violation) (rule : PyValue) :
    Except Raised (List Text × List Violation) := do
  match rule with
  | .mapping m =>
      let id ← orRefuse .constraintId (nonEmptyText? (PyValue.get? m "id"))
      refuseIf (id ∈ sofar.1) (.duplicateConstraintId id)
      let severity ← severityOf id ((PyValue.get? m "severity").getD .none)
      let message ← orRefuse (.noMessage id) (nonEmptyText? (PyValue.get? m "message"))
      let expression ← orRefuse (.noExpression id) (present? (PyValue.get? m "when"))
      let fires ← evaluateExpression stdev values maxExpressionDepth expression
      return (sofar.1 ++ [id], if fires then sofar.2 ++ [{ rule := id, severity, message }]
        else sofar.2)
  | _ => refuse .constraintNotObject

/-- `guidance.get(key, [])` -/
def listOr (guidance : List (Option Text × PyValue)) (key : String) (reason : Reason) :
    Except Raised (List PyValue) :=
  match (PyValue.get? guidance key).getD (.seq .list []) with
  | .seq .list xs => .ok xs
  | _ => refuse reason

/-- `evaluate_constraints` -/
def evaluateConstraints (stdev : List Binary64 → Except Text Binary64)
    (guidance : List (Option Text × PyValue)) (values : Fields) :
    Except Raised (List Violation) := do
  let constraints ← listOr guidance "constraints" .constraintsNotList
  let (_, violations) ← constraints.foldlM (evaluateRule stdev values) ([], [])
  return violations

/-! ## Preflight -/

/-- `values[field] = value` for a field that has no value. -/
def addField (values : Fields) (field : Text) (value : PyValue) : Fields :=
  values ++ [(field, value)]

/-- `field in values` -/
def hasField (values : Fields) (field : Text) : Prop := field ∈ values.map Prod.fst

instance (values : Fields) (field : Text) : Decidable (hasField values field) :=
  inferInstanceAs (Decidable (_ ∈ _))

/-- An allowed default: its value, and the condition on it. -/
structure AllowedDefault where
  value : PyValue
  onlyIf : Option PyValue

/-- `defaults[field] = item` -/
def assignDefault (defaults : List (Text × AllowedDefault)) (field : Text) (item : AllowedDefault) :
    List (Text × AllowedDefault) :=
  if field ∈ defaults.map Prod.fst then
    defaults.map (fun p => if p.1 = field then (field, item) else p)
  else defaults ++ [(field, item)]

/-- One turn of the loop over the allowed defaults. -/
def readDefault (defaults : List (Text × AllowedDefault)) (item : PyValue) :
    Except Raised (List (Text × AllowedDefault)) :=
  match item with
  | .mapping m =>
      match PyValue.get? m "field", PyValue.get? m "value" with
      | some (.str field), some value =>
          .ok (assignDefault defaults field { value, onlyIf := present? (PyValue.get? m "only_if") })
      | some (.str field), none => refuse (.noDefaultValue field)
      | _, _ => refuse .invalidAllowedDefault
  | _ => refuse .invalidAllowedDefault

/-- A required question: its target, its default and what is reported when it has no answer. -/
structure RequiredQuestion where
  target : Text
  default : Option PyValue
  missing : MissingQuestion

/-- What is read of a required question. -/
def readQuestion (question : PyValue) : Except Raised RequiredQuestion :=
  match question with
  | .mapping m =>
      match PyValue.get? m "resolves_to" with
      | some (.str field) =>
          .ok { target := field
                default := present? (PyValue.get? m "default")
                missing :=
                  { id := (PyValue.get? m "id").getD .none
                    field
                    ask := (PyValue.get? m "ask").getD .none
                    why := (PyValue.get? m "why").getD .none } }
      | _ => refuse .questionTargetNotText
  | _ => refuse .invalidRequiredQuestion

/-- Whether a question has neither an answer nor any default. -/
def isMissing (values : Fields) (defaults : List (Text × AllowedDefault)) (q : RequiredQuestion) :
    Bool :=
  !decide (hasField values q.target) && (defaults.lookup q.target).isNone && q.default.isNone

/-- `only_if is None or evaluate_expression(only_if, values)` -/
def applies (stdev : List Binary64 → Except Text Binary64) (values : Fields)
    (item : AllowedDefault) : Except Raised Bool :=
  match item.onlyIf with
  | none => .ok true
  | some condition => evaluateExpression stdev values maxExpressionDepth condition

/-- The value of an allowed default that applies. -/
def defaultValue (stdev : List Binary64 → Except Text Binary64) (values : Fields)
    (item : Option AllowedDefault) : Except Raised (Option PyValue) :=
  match item with
  | none => .ok none
  | some item => do return if ← applies stdev values item then some item.value else none

/-- One turn of the loop that answers questions by defaults, with those that stay open. -/
def answerQuestion (stdev : List Binary64 → Except Text Binary64)
    (defaults : List (Text × AllowedDefault)) (sofar : Fields × List MissingQuestion)
    (q : RequiredQuestion) : Except Raised (Fields × List MissingQuestion) := do
  if hasField sofar.1 q.target then return sofar
  else
    let byRule ← defaultValue stdev sofar.1 (defaults.lookup q.target)
    match byRule, q.default with
    | some value, _ | none, some value => return (addField sofar.1 q.target value, sofar.2)
    | none, none => return (sofar.1, sofar.2 ++ [q.missing])

/-- One turn of the loop that fills in the remaining defaults. -/
def fillDefault (stdev : List Binary64 → Except Text Binary64) (values : Fields)
    (p : Text × AllowedDefault) : Except Raised Fields := do
  if hasField values p.1 then return values
  else return if ← applies stdev values p.2 then addField values p.1 p.2.value else values

/-- `_effective_values` -/
def effectiveValues (stdev : List Binary64 → Except Text Binary64)
    (guidance : List (Option Text × PyValue)) (supplied : Fields) : Except Raised Fields := do
  let rawDefaults ← listOr guidance "allowed_defaults" .guidanceNotLists
  let rawQuestions ← listOr guidance "required_questions" .guidanceNotLists
  let defaults ← rawDefaults.foldlM readDefault []
  let questions ← rawQuestions.mapM readQuestion
  let missing := questions.filter (isMissing supplied defaults)
  Except.raiseIf (missing ≠ []) (.ambiguousInput (missing.map RequiredQuestion.missing))
  let (values, unanswered) ← questions.foldlM (answerQuestion stdev defaults) (supplied, [])
  Except.raiseIf (unanswered.isEmpty = false) (.ambiguousInput unanswered)
  defaults.foldlM (fillDefault stdev) values

/-- `preflight`, for the guidance of a component's contract. -/
def preflight (stdev : List Binary64 → Except Text Binary64) (guidance : PyValue)
    (kwargs : Fields) : Except Raised (List Violation) := do
  match guidance with
  | .mapping m =>
      let values ← effectiveValues stdev m kwargs
      let violations ← evaluateConstraints stdev m values
      let blocking := violations.filter (fun v => v.severity = .blocking)
      Except.raiseIf (blocking ≠ []) (.domainError blocking)
      return violations.filter (fun v => v.severity = .warning)
  | _ => refuse .guidanceNotObject

end Validation
