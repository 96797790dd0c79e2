import DefinedQuant.Shared.Validation

/-!
# Rules of a contract

Rules as a contract spells them, and what the evaluator makes of each kind of expression. A contract
whose rules have distinct IDs, and of which every condition has an outcome, gives the violations of
the rules that fire, in order.
-/

namespace Validation

open PyValue (OrderOp)

/-! ## Spelling -/

/-- A JSON object. -/
def object (members : List (String × PyValue)) : PyValue :=
  .mapping (members.map (fun p => (some (py p.1), p.2)))

/-- A JSON string. -/
def text (s : String) : PyValue := .str (py s)

/-- `{"field": ...}` -/
def field (name : String) : PyValue := object [("field", text name)]

/-- `{"field": ..., "measure": ...}` -/
def measureOf (name measure : String) : PyValue :=
  object [("field", text name), ("measure", text measure)]

/-- `{"value": ...}` -/
def literal (value : PyValue) : PyValue := object [("value", value)]

/-- `{"left": ..., "op": ..., "right": ...}` -/
def comparison (left : PyValue) (op : String) (right : PyValue) : PyValue :=
  object [("left", left), ("op", text op), ("right", right)]

/-- `{"all": [...]}` -/
def allOf (children : List PyValue) : PyValue := object [("all", .seq .list children)]

/-- A rule of a contract. -/
structure Rule where
  id : String
  severity : Validation.Severity
  condition : PyValue
  message : String

/-- A rule as it stands in the contract. -/
def Rule.toObject (rule : Rule) : PyValue :=
  object [("id", text rule.id),
    ("severity", text (match rule.severity with | .blocking => "blocking" | .warning => "warning")),
    ("when", rule.condition), ("message", text rule.message)]

/-- A required question without a default. -/
def question (id ask why : String) : PyValue :=
  object [("id", text id), ("ask", text ask), ("why", text why), ("resolves_to", text id),
    ("default", .none)]

/-! ## Evaluation -/

theorem py_beq (s t : String) : (py s == py t) = decide (s = t) := by
  rw [Bool.eq_iff_iff]
  simp

section

variable {stdev : List Binary64 → Except Text Binary64} {values : Fields}

/-- The measure of finiteness. -/
theorem measures_all_finite : (measures stdev).lookup (py "all_finite") =
    some measureAllFinite := by
  simp [measures, List.lookup_cons, py_beq]

/-- An object has the text keys that it is spelled with. -/
theorem textMapping_object (members : List (String × PyValue)) (reason : Reason) :
    textMapping (object members) reason = .ok (members.map (fun p => (some (py p.1), p.2))) := by
  simp [textMapping, object, PyValue.keysAreText]

/-- A literal is its value. -/
theorem resolveOperand_literal (value : PyValue) :
    resolveOperand stdev values (literal value) = .ok value := by
  simp [resolveOperand, literal, textMapping_object, PyValue.get?, PyValue.keysAre,
    List.lookup_cons, py_beq, refuseIf, Except.raiseIf, bind, Except.bind, pure, Except.pure]

/-- A measured field is measured. -/
theorem resolveOperand_measureOf {name measure : String} {value : PyValue}
    {apply : PyValue → Except Raised PyValue} (hField : values.lookup (py name) = some value)
    (hMeasure : (measures stdev).lookup (py measure) = some apply) :
    resolveOperand stdev values (measureOf name measure) = apply value := by
  simp [resolveOperand, measureOf, text, textMapping_object, PyValue.get?, List.lookup_cons, py_beq,
    refuseIf, Except.raiseIf, bind, Except.bind, resolveField, hField, hMeasure]

/-- A field is the value of the dump. -/
theorem resolveOperand_field {name : String} {value : PyValue}
    (hField : values.lookup (py name) = some value) :
    resolveOperand stdev values (field name) = .ok value := by
  simp [resolveOperand, field, text, textMapping_object, PyValue.get?, List.lookup_cons, py_beq,
    refuseIf, Except.raiseIf, bind, Except.bind, resolveField, hField, measures]

/-- A comparison of two operands. -/
theorem evaluateExpression_comparison {left right a b : PyValue} {op : String} (levels : ℕ)
    (hLeft : resolveOperand stdev values left = .ok a)
    (hRight : resolveOperand stdev values right = .ok b) :
    evaluateExpression stdev values (levels + 1) (comparison left op right) =
      compare (py op) a b left right := by
  simp [evaluateExpression, comparison, text, textMapping_object, evaluateComparison, PyValue.get?,
    PyValue.keysAre, List.lookup_cons, py_beq, refuseIf, Except.raiseIf, bind, Except.bind, hLeft,
    hRight]

/-- A conjunction of conditions, evaluated from the left. -/
theorem evaluateExpression_allOf (levels : ℕ) (child : PyValue) (children : List PyValue) :
    evaluateExpression stdev values (levels + 1) (allOf (child :: children)) =
      (child :: children).allM (evaluateExpression stdev values levels) := by
  simp [evaluateExpression, allOf, textMapping_object, PyValue.get?, PyValue.keysAre,
    branchChildren, bind,
    Except.bind]

/-- `eq` is the equality of Python. -/
theorem compare_eq (a b l r : PyValue) : compare (py "eq") a b l r = .ok (PyValue.equal a b) := by
  simp [compare, orderOperators, List.lookup_cons, py_beq]

/-- `ne` is its negation. -/
theorem compare_ne (a b l r : PyValue) : compare (py "ne") a b l r = .ok (!PyValue.equal a b) := by
  simp [compare, orderOperators, List.lookup_cons, py_beq]

/-- `lt` on integers. -/
theorem compare_lt (a b : ℤ) (l r : PyValue) :
    compare (py "lt") (.int a) (.int b) l r = .ok (decide (a < b)) := by
  simp [compare, orderOperators, orRefuse, PyValue.OrderOp.holds]

/-- `ge` on integers. -/
theorem compare_ge (a b : ℤ) (l r : PyValue) :
    compare (py "ge") (.int a) (.int b) l r = .ok (decide (b ≤ a)) := by
  simp [compare, orderOperators, List.lookup_cons, py_beq, orRefuse, PyValue.OrderOp.holds]

/-- A conjunction of one condition. -/
theorem allM_single (f : PyValue → Except Raised Bool) (x : PyValue) : [x].allM f = f x := by
  cases h : f x with
  | error e => simp [List.allM, h, bind, Except.bind]
  | ok b => cases b <;> simp [List.allM, h, bind, Except.bind, pure, Except.pure]

/-- A conjunction of two conditions: the second is evaluated after the first only. -/
theorem allM_pair {f : PyValue → Except Raised Bool} {x y : PyValue} {a b : Bool}
    (hx : f x = .ok a) (hy : a = true → f y = .ok b) : [x, y].allM f = .ok (a && b) := by
  cases a with
  | false => simp [List.allM, hx, bind, Except.bind, pure, Except.pure]
  | true => cases b <;> simp [List.allM, hx, hy, bind, Except.bind, pure, Except.pure]

/-- The violation of a rule that fires. -/
def Rule.violation (rule : Rule) : Violation :=
  { rule := py rule.id, severity := rule.severity, message := py rule.message }

/-- A rule has an ID and a message. -/
def Rule.Spelled (rule : Rule) : Prop := rule.id ≠ "" ∧ rule.message ≠ ""

instance (rule : Rule) : Decidable rule.Spelled := inferInstanceAs (Decidable (_ ∧ _))

/-- A literal that is not empty stands as a text. -/
theorem nonEmptyText?_py {s : String} (h : s ≠ "") : nonEmptyText? (some (.str (py s))) =
    some (py s) := by
  cases hText : py s with
  | nil => exact absurd (py_injective (hText.trans (by decide : [] = py ""))) h
  | cons c rest => rfl

/-- A condition that has an outcome is there. -/
theorem present?_of_evaluates {condition : PyValue} {fires : Bool}
    (h : evaluateExpression stdev values maxExpressionDepth condition = .ok fires) :
    present? (some condition) = some condition := by
  cases condition with
  | none => cases h
  | _ => rfl

/-- One rule of a contract whose condition has an outcome. -/
theorem evaluateRule_toObject {rule : Rule} {sofar : List Text × List Violation} {fires : Bool}
    (hSpelled : rule.Spelled) (hFresh : py rule.id ∉ sofar.1)
    (hFires : evaluateExpression stdev values maxExpressionDepth rule.condition = .ok fires) :
    evaluateRule stdev values sofar rule.toObject = .ok (sofar.1 ++ [py rule.id],
      if fires then sofar.2 ++ [rule.violation] else sofar.2) := by
  have hSeverity : severityOf (py rule.id)
      (text (match rule.severity with | .blocking => "blocking" | .warning => "warning")) =
        .ok rule.severity := by
    cases rule.severity <;> simp [severityOf, text]
  simp only [evaluateRule, Rule.toObject, object, PyValue.get?, List.map_cons, List.map_nil,
    List.lookup_cons, Option.some_beq_some, py_beq]
  simp [text] at hSeverity ⊢
  simp [orRefuse, nonEmptyText?_py hSpelled.1, nonEmptyText?_py hSpelled.2, refuseIf,
    Except.raiseIf, hFresh, hSeverity, present?_of_evaluates hFires, hFires, bind, Except.bind,
    Rule.violation]

/-- The loop over rules that have outcomes keeps the violations of those that fire. -/
theorem foldlM_evaluateRule {rules : List Rule} {outcomes : List Bool}
    {sofar : List Text × List Violation} (hSpelled : ∀ rule ∈ rules, rule.Spelled)
    (hDistinct : (rules.map Rule.id).Nodup) (hFresh : ∀ rule ∈ rules, py rule.id ∉ sofar.1)
    (hOutcomes : List.Forall₂ (fun rule fires =>
      evaluateExpression stdev values maxExpressionDepth rule.condition = .ok fires) rules
        outcomes) :
    (rules.map Rule.toObject).foldlM (evaluateRule stdev values) sofar =
      .ok (sofar.1 ++ rules.map (fun rule => py rule.id),
        sofar.2 ++ ((rules.zip outcomes).filter Prod.snd).map (fun p => p.1.violation)) := by
  induction hOutcomes generalizing sofar with
  | nil => simp [pure, Except.pure]
  | @cons rule fires rules outcomes hFires _ ih =>
      rw [List.forall_mem_cons] at hSpelled hFresh
      rw [List.map_cons, List.nodup_cons, List.mem_map] at hDistinct
      rw [List.map_cons, List.foldlM_cons, evaluateRule_toObject hSpelled.1 hFresh.1 hFires]
      have hRest := @ih (sofar.1 ++ [py rule.id],
        if fires then sofar.2 ++ [rule.violation] else sofar.2) hSpelled.2 hDistinct.2
        (fun other hOther => by
          rw [List.mem_append, List.mem_singleton, not_or, py_inj]
          exact ⟨hFresh.2 other hOther, fun hSame => hDistinct.1 ⟨other, hOther, hSame⟩⟩)
      refine Eq.trans hRest ?_
      cases fires <;> simp

/-- A contract whose rules have outcomes gives the violations of the rules that fire. -/
theorem evaluateConstraints_rules {guidance : List (Option Text × PyValue)} {rules : List Rule}
    {outcomes : List Bool}
    (hRules : PyValue.get? guidance "constraints" = some (.seq .list (rules.map Rule.toObject)))
    (hSpelled : ∀ rule ∈ rules, rule.Spelled) (hDistinct : (rules.map Rule.id).Nodup)
    (hOutcomes : List.Forall₂ (fun rule fires =>
      evaluateExpression stdev values maxExpressionDepth rule.condition = .ok fires) rules
        outcomes) :
    evaluateConstraints stdev guidance values =
      .ok (((rules.zip outcomes).filter Prod.snd).map (fun p => p.1.violation)) := by
  have hLoop := @foldlM_evaluateRule _ _ _ _ ([], []) hSpelled hDistinct (by simp) hOutcomes
  simp [evaluateConstraints, listOr, hRules, hLoop, bind, Except.bind, pure, Except.pure]

/-! ## Supplied values -/

/-- Without defaults, and with an answer to every question, the values are the supplied ones. -/
theorem effectiveValues_of_supplied {guidance : List (Option Text × PyValue)}
    {rawQuestions : List PyValue} {questions : List RequiredQuestion}
    (hDefaults : PyValue.get? guidance "allowed_defaults" = some (.seq .list []))
    (hQuestions : PyValue.get? guidance "required_questions" = some (.seq .list rawQuestions))
    (hRead : rawQuestions.mapM readQuestion = .ok questions)
    (hSupplied : ∀ q ∈ questions, hasField values q.target) :
    effectiveValues stdev guidance values = .ok values := by
  have hMissing : questions.filter (isMissing values []) = [] := by
    rw [List.filter_eq_nil_iff]
    intro q hq
    simp [isMissing, hSupplied q hq]
  have hAnswers : questions.foldlM (answerQuestion stdev []) (values, []) = .ok (values, []) := by
    clear hRead hMissing
    induction questions with
    | nil => rfl
    | cons q questions ih =>
        rw [List.forall_mem_cons] at hSupplied
        have hAnswer : answerQuestion stdev [] (values, []) q = .ok (values, []) :=
          if_pos hSupplied.1
        rw [List.foldlM_cons, hAnswer]
        exact ih hSupplied.2
  simp [effectiveValues, listOr, hDefaults, hQuestions, hRead, hMissing, hAnswers,
    Except.raiseIf, bind,
    Except.bind, pure, Except.pure]

/-- A question of the guidance is read back. -/
theorem readQuestion_question (id ask why : String) : readQuestion (question id ask why) =
    .ok { target := py id
          default := none
          missing := { id := text id, field := py id, ask := text ask, why := text why } } := by
  simp [readQuestion, question, object, text, PyValue.get?, List.lookup_cons, py_beq, present?]

end

end Validation
