import DefinedQuant.Shared.Validation

/-!
# Constraint evaluation on a limited stack

The evaluator as the interpreter runs it. Comparing two values goes down into the items of both,
showing one into its own, and the interpreter's recursion limit stops a descent that is too deep
with a `RecursionError`, which no handler of the evaluator catches. Which descents are too deep
depends on the stack that is left to the call, and on which items the operands share, as a shared
item is not gone into. So that is a parameter, of which only this much is known: a descent into
values that are nested no deeper than some limit returns.

Everything else is as in `Validation`, whose evaluator this one follows up to the first descent that
is too deep.
-/

namespace Validation

/-! ## Descents -/

mutual

/-- How deep a value is nested. -/
def depth : PyValue → ℕ
  | .seq _ xs => depthItems xs + 1
  | .mapping m => depthMembers m + 1
  | _ => 0

def depthItems : List PyValue → ℕ
  | [] => 0
  | x :: xs => max (depth x) (depthItems xs)

def depthMembers : List (Option Text × PyValue) → ℕ
  | [] => 0
  | (_, x) :: m => max (depth x) (depthMembers m)

end

/-- A step of the evaluation that goes down into values. -/
inductive Descent where
  /-- The comparison of two operands, which come from these expressions. -/
  | compared (operator : Text) (left right leftOperand rightOperand : PyValue)
  /-- A measure of a field that compares the items of its value. -/
  | measured (field measure : Text) (value : PyValue)
  /-- The message about a measure that is no text. -/
  | shown (measure : PyValue)

/-- How deep it goes down at most. -/
def Descent.depth : Descent → ℕ
  | .compared _ left right _ _ => min (Validation.depth left) (Validation.depth right)
  | .measured _ _ value => Validation.depth value
  | .shown measure => Validation.depth measure

/-- The interpreter, as far as the evaluator depends on it: `statistics.stdev`, and the descents
that meet the recursion limit. -/
structure Interpreter where
  stdev : List Binary64 → Except Text Binary64
  limit : ℕ
  overflows : Descent → Bool
  shallow : ∀ descent, descent.depth ≤ limit → overflows descent = false

/-- A step that takes a descent. -/
def Interpreter.descend {α : Type} (interpreter : Interpreter) (descent : Descent)
    (x : Except Raised α) : Except Raised α :=
  if interpreter.overflows descent then .error .recursionError else x

/-! ## The evaluator -/

/-- The measures that compare the items of a value. -/
def comparingMeasures : List Text :=
  [py "min", py "max", py "has_duplicates", py "is_strictly_increasing"]

section

variable (interpreter : Interpreter) (values : Fields)

/-- A measure of a field. -/
def measureWithin (field measure : Text) (apply : PyValue → Except Raised PyValue)
    (value : PyValue) : Except Raised PyValue :=
  if measure ∈ comparingMeasures then interpreter.descend (.measured field measure value)
    (apply value)
  else apply value

/-- The value of a field operand. A measure that is not a text is shown in the message. -/
def resolveFieldWithin (field measure : PyValue) : Except Raised PyValue :=
  match field with
  | .str name =>
      match values.lookup name with
      | none => refuse (.unavailableField name)
      | some value =>
          match measure with
          | .str measureName =>
              match (measures interpreter.stdev).lookup measureName with
              | none => refuse (.unknownMeasure measure)
              | some apply => measureWithin interpreter name measureName apply value
          | _ => interpreter.descend (.shown measure)
              (if shown measure then refuse (.unknownMeasure measure) else .error .valueError)
  | _ => refuse .fieldNotText

/-- `_resolve_operand` -/
def resolveOperandWithin (operand : PyValue) : Except Raised PyValue := do
  let m ← textMapping operand .operandNotObject
  match PyValue.get? m "value", PyValue.get? m "field" with
  | some value, none =>
      refuseIf (PyValue.keysAre m ["value"] = false) .literalKeys
      return value
  | none, some field =>
      refuseIf (¬ ∀ p ∈ m, p.1 ∈ [some (py "field"), some (py "measure")]) .unknownOperandKeys
      resolveFieldWithin interpreter values field ((PyValue.get? m "measure").getD
        (.str (py "identity")))
  | _, _ => refuse .operandAmbiguous

/-- Whether an operator compares its operands: the two that look into a set refuse what is none
before. -/
def comparesOperands (operator : Text) (right : PyValue) : Bool :=
  (orderOperators.lookup operator).isSome || operator == py "eq" || operator == py "ne" ||
    (operator == py "in_set" || operator == py "not_in_set") &&
      match right with
      | .seq _ _ => true
      | _ => false

/-- `_compare` -/
def compareWithin (operator : Text) (left right leftOperand rightOperand : PyValue) :
    Except Raised Bool :=
  if comparesOperands operator right then
    interpreter.descend (.compared operator left right leftOperand rightOperand)
      (compare operator left right leftOperand rightOperand)
  else compare operator left right leftOperand rightOperand

/-- The comparison of an expression. -/
def evaluateComparisonWithin (m : List (Option Text × PyValue)) : Except Raised Bool :=
  match PyValue.get? m "left", PyValue.get? m "op", PyValue.get? m "right" with
  | some leftOperand, some operator, some rightOperand => do
      refuseIf (PyValue.keysAre m ["left", "op", "right"] = false) .comparisonKeys
      match operator with
      | .str name => do
          let left ← resolveOperandWithin interpreter values leftOperand
          let right ← resolveOperandWithin interpreter values rightOperand
          compareWithin interpreter name left right leftOperand rightOperand
      | _ => refuse .operatorNotText
  | _, _, _ => refuse .comparisonKeys

/-- `_evaluate_expression`, by how many levels it may still go down. -/
def evaluateExpressionWithin : ℕ → PyValue → Except Raised Bool
  | 0, _ => refuse .tooDeep
  | levels + 1, expression => do
      let m ← textMapping expression .expressionNotObject
      if PyValue.keysAre m ["all"] then
        let children ← branchChildren (py "all") ((PyValue.get? m "all").getD .none)
        children.allM (evaluateExpressionWithin levels)
      else if PyValue.keysAre m ["any"] then
        let children ← branchChildren (py "any") ((PyValue.get? m "any").getD .none)
        children.anyM (evaluateExpressionWithin levels)
      else evaluateComparisonWithin interpreter values m

/-- One turn of the loop over the rules, with the IDs seen and the violations found so far. -/
def evaluateRuleWithin (sofar : List Text × List Violation) (rule : PyValue) :
    Except Raised (List Text × List Violation) := do
  match rule with
  | .mapping m =>
      let id ← orRefuse .constraintId (nonEmptyText? (PyValue.get? m "id"))
      refuseIf (id ∈ sofar.1) (.duplicateConstraintId id)
      let severity ← severityOf id ((PyValue.get? m "severity").getD .none)
      let message ← orRefuse (.noMessage id) (nonEmptyText? (PyValue.get? m "message"))
      let expression ← orRefuse (.noExpression id) (present? (PyValue.get? m "when"))
      let fires ← evaluateExpressionWithin interpreter values maxExpressionDepth expression
      return (sofar.1 ++ [id], if fires then sofar.2 ++ [{ rule := id, severity, message }]
        else sofar.2)
  | _ => refuse .constraintNotObject

/-- `evaluate_constraints` -/
def evaluateConstraintsWithin (guidance : List (Option Text × PyValue)) :
    Except Raised (List Violation) := do
  let constraints ← listOr guidance "constraints" .constraintsNotList
  let (_, violations) ← constraints.foldlM (evaluateRuleWithin interpreter values) ([], [])
  return violations

end

/-! ## Up to the first descent that is too deep -/

section Overruns

variable {α β : Type} {x y : Except Raised α}

/-- A computation does what another one does, or stops for want of a level. -/
def Overruns (x y : Except Raised α) : Prop := x = .error .recursionError ∨ x = y

theorem overruns_refl (x : Except Raised α) : Overruns x x := .inr rfl

theorem overruns_descend (interpreter : Interpreter) (descent : Descent) (x : Except Raised α) :
    Overruns (interpreter.descend descent x) x := by
  unfold Interpreter.descend
  split_ifs
  · exact .inl rfl
  · exact .inr rfl

theorem Overruns.bind {f g : α → Except Raised β} (h : Overruns x y)
    (hRest : ∀ a, Overruns (f a) (g a)) :
    Overruns (x >>= f) (y >>= g) := by
  rcases h with rfl | rfl
  · exact .inl rfl
  · cases x with
    | error e => exact .inr rfl
    | ok a => exact hRest a

theorem overruns_allM {f g : α → Except Raised Bool} (h : ∀ x, Overruns (f x) (g x)) :
    ∀ xs : List α, Overruns (xs.allM f) (xs.allM g)
  | [] => overruns_refl _
  | x :: xs => (h x).bind (fun b => by
      cases b with
      | true => exact overruns_allM h xs
      | false => exact overruns_refl _)

theorem overruns_anyM {f g : α → Except Raised Bool} (h : ∀ x, Overruns (f x) (g x)) :
    ∀ xs : List α, Overruns (xs.anyM f) (xs.anyM g)
  | [] => overruns_refl _
  | x :: xs => (h x).bind (fun b => by
      cases b with
      | true => exact overruns_refl _
      | false => exact overruns_anyM h xs)

theorem overruns_foldlM {f g : β → α → Except Raised β} (h : ∀ b x, Overruns (f b x) (g b x)) :
    ∀ (xs : List α) (b : β), Overruns (xs.foldlM f b) (xs.foldlM g b)
  | [], _ => overruns_refl _
  | x :: xs, b => by
      rw [List.foldlM_cons, List.foldlM_cons]
      exact (h b x).bind (fun b => overruns_foldlM h xs b)

end Overruns

section Follows

variable (interpreter : Interpreter) (values : Fields)

theorem overruns_measure (field measure : Text) (apply : PyValue → Except Raised PyValue)
    (value : PyValue) :
    Overruns (measureWithin interpreter field measure apply value) (apply value) := by
  unfold measureWithin
  split_ifs
  · exact overruns_descend _ _ _
  · exact overruns_refl _

theorem overruns_resolveField (field measure : PyValue) : Overruns
    (resolveFieldWithin interpreter values field measure) (resolveField interpreter.stdev values
      field measure) := by
  cases field with
  | str name =>
      simp only [resolveFieldWithin, resolveField]
      cases values.lookup name with
      | none => exact overruns_refl _
      | some value =>
          cases measure with
          | str measureName =>
              simp only
              cases (measures interpreter.stdev).lookup measureName with
              | none => exact overruns_refl _
              | some apply => exact overruns_measure interpreter _ _ apply value
          | _ => exact overruns_descend _ _ _
  | _ => exact overruns_refl _

theorem overruns_resolveOperand (operand : PyValue) : Overruns
    (resolveOperandWithin interpreter values operand) (resolveOperand interpreter.stdev values
      operand) := by
  refine (overruns_refl (textMapping operand .operandNotObject)).bind (fun m => ?_)
  cases PyValue.get? m "value" with
  | some value =>
      cases PyValue.get? m "field" with
      | some field => exact overruns_refl _
      | none => exact overruns_refl _
  | none =>
      cases PyValue.get? m "field" with
      | some field => exact (overruns_refl _).bind (fun _ => overruns_resolveField interpreter
        values _ _)
      | none => exact overruns_refl _

theorem overruns_compare (operator : Text) (left right leftOperand rightOperand : PyValue) :
    Overruns
    (compareWithin interpreter operator left right leftOperand rightOperand)
    (compare operator left right leftOperand rightOperand) := by
  unfold compareWithin
  split_ifs
  · exact overruns_descend _ _ _
  · exact overruns_refl _

theorem overruns_evaluateComparison (m : List (Option Text × PyValue)) : Overruns
    (evaluateComparisonWithin interpreter values m) (evaluateComparison interpreter.stdev values
      m) := by
  unfold evaluateComparisonWithin evaluateComparison
  cases PyValue.get? m "left" with
  | none => exact overruns_refl _
  | some leftOperand =>
      cases PyValue.get? m "op" with
      | none => exact overruns_refl _
      | some operator =>
          cases PyValue.get? m "right" with
          | none => exact overruns_refl _
          | some rightOperand =>
              refine (overruns_refl _).bind (fun _ => ?_)
              cases operator with
              | str name =>
                  exact (overruns_resolveOperand interpreter values leftOperand).bind (fun left =>
                    (overruns_resolveOperand interpreter values rightOperand).bind (fun right =>
                      overruns_compare interpreter name left right leftOperand rightOperand))
              | _ => exact overruns_refl _

/-- An expression is evaluated as without a limit, up to the first descent that is too deep. -/
theorem overruns_evaluateExpression : ∀ (levels : ℕ) (expression : PyValue), Overruns
    (evaluateExpressionWithin interpreter values levels expression)
    (evaluateExpression interpreter.stdev values levels expression)
  | 0, _ => overruns_refl _
  | levels + 1, expression => by
      unfold evaluateExpressionWithin evaluateExpression
      refine (overruns_refl _).bind (fun m => ?_)
      split_ifs
      · exact (overruns_refl _).bind (fun children =>
          overruns_allM (overruns_evaluateExpression levels) children)
      · exact (overruns_refl _).bind (fun children =>
          overruns_anyM (overruns_evaluateExpression levels) children)
      · exact overruns_evaluateComparison interpreter values m

/-- So are the rules of a guidance object. -/
theorem overruns_evaluateConstraints (guidance : List (Option Text × PyValue)) : Overruns
    (evaluateConstraintsWithin interpreter values guidance)
    (evaluateConstraints interpreter.stdev guidance values) := by
  refine (overruns_refl _).bind (fun rules => ?_)
  refine (overruns_foldlM (fun sofar rule => ?_) rules ([], [])).bind (fun _ => overruns_refl _)
  unfold evaluateRuleWithin evaluateRule
  cases rule with
  | mapping m =>
      refine (overruns_refl _).bind (fun id => (overruns_refl _).bind (fun _ =>
        (overruns_refl _).bind (fun severity => ?_)))
      refine (overruns_refl _).bind (fun message => (overruns_refl _).bind (fun condition => ?_))
      exact (overruns_evaluateExpression interpreter values _ condition).bind
        (fun _ => overruns_refl _)
  | _ => exact overruns_refl _

end Follows

end Validation
