import DefinedQuant.Shared.RuleEscapes

/-!
# Rules on shallow values

On values that are nested no deeper than the limit, an expression that is nested no deeper meets no
descent that is too deep: what it compares is part of a value or of the expression. So the limited
evaluator is the plain one there, and what `Validation` and the modules over it say of the plain one
holds of the limited one.
-/

namespace Validation

open PyValue (OrderOp)

/-- An element is no deeper than its list. -/
theorem depth_le_depthItems {x : PyValue} : ∀ {xs : List PyValue}, x ∈ xs → depth x ≤ depthItems xs
  | y :: ys, h => by
      rw [depthItems]
      rcases List.mem_cons.1 h with rfl | h
      · exact le_max_left _ _
      · exact (depth_le_depthItems h).trans (le_max_right _ _)

/-- A sequence is one deeper than its items. -/
theorem depth_seq (kind : Json.SeqKind) (xs : List PyValue) : depth (.seq kind xs) = depthItems xs +
    1 := by
  rw [depth]

/-- A mapping is one deeper than its members. -/
theorem depth_mapping (m : List (Option Text × PyValue)) : depth (.mapping m) = depthMembers m +
    1 := by
  rw [depth]

/-- A value looked up is no deeper than the members. -/
theorem depth_le_of_get? {key : String} {value : PyValue} : ∀ {m : List (Option Text × PyValue)},
    PyValue.get? m key = some value → depth value ≤ depthMembers m
  | (k, x) :: m, h => by
      rw [depthMembers]
      rw [PyValue.get?, List.lookup_cons] at h
      split at h
      · cases h
        exact le_max_left _ _
      · exact (depth_le_of_get? h).trans (le_max_right _ _)

/-- A mapping that is read has its members one level below. -/
theorem depth_of_textMapping {value : PyValue} {reason : Reason} {m : List (Option Text × PyValue)}
    (h : textMapping value reason = .ok m) : depth value = depthMembers m + 1 := by
  unfold textMapping at h
  split at h
  · split_ifs at h
    · cases h
      exact depth_mapping _
    · cases h
  · cases h

/-- A value that is present was there. -/
theorem get?_of_present? {x : Option PyValue} {value : PyValue} (h : present? x = some value) :
    x = some value := by
  unfold present? at h
  split at h
  · cases h
  · cases h
  · exact h

theorem uncaught_recursionError : Uncaught .recursionError := by
  intro reason h
  cases h

/-- A descent that is too deep goes down into values that are nested deeper than the limit. -/
theorem Interpreter.limit_lt_of_overflows (interpreter : Interpreter) {descent : Descent}
    (h : interpreter.overflows descent = true) : interpreter.limit < descent.depth := by
  by_contra hLe
  rw [interpreter.shallow descent (not_lt.1 hLe)] at h
  cases h

/-- What an operand consists of is nested no deeper than some depth. -/
def Operand.AtMost (n : ℕ) : Operand → Prop
  | .literal value => depth value ≤ n
  | .field _ measure => depth measure ≤ n

/-- So with an expression. -/
def Form.AtMost (n : ℕ) : Form → Prop
  | .all children | .any children => ∀ child ∈ children, depth child ≤ n
  | .comparison left _ right => depth left ≤ n ∧ depth right ≤ n

/-- An operand is no deeper than what it is read from. -/
theorem atMost_of_readOperand {operand : PyValue} {form : Operand}
    (h : readOperand operand = .ok form) :
    form.AtMost (depth operand) := by
  obtain ⟨m, hm, h⟩ := Except.bind_eq_ok.1 h
  have hLe : depthMembers m ≤ depth operand := by
    rw [depth_of_textMapping hm]
    exact Nat.le_succ _
  split at h
  · next hValue _ =>
      obtain ⟨-, -, h⟩ := Except.bind_eq_ok.1 h
      cases h
      exact (depth_le_of_get? hValue).trans hLe
  · obtain ⟨-, -, h⟩ := Except.bind_eq_ok.1 h
    cases h
    cases hMeasure : PyValue.get? m "measure" with
    | none => exact Nat.zero_le _
    | some measure => exact (depth_le_of_get? hMeasure).trans hLe
  · cases h

/-- A child is no deeper than the members of its branch. -/
theorem atMost_of_branchChildren {m : List (Option Text × PyValue)} {key : String}
    {children : List PyValue}
    (h : branchChildren (py key) ((PyValue.get? m key).getD .none) = .ok children) {child : PyValue}
    (hChild : child ∈ children) : depth child ≤ depthMembers m := by
  cases hGet : PyValue.get? m key with
  | none =>
      rw [hGet] at h
      cases h
  | some value =>
      rw [hGet, Option.getD_some] at h
      unfold branchChildren at h
      split at h
      · cases h
        have hItems := depth_le_of_get? hGet
        rw [depth_seq] at hItems
        exact (depth_le_depthItems hChild).trans ((Nat.le_succ _).trans hItems)
      · cases h

/-- An expression is no deeper than what it is read from. -/
theorem atMost_of_readExpression {expression : PyValue} {form : Form}
    (h : readExpression expression = .ok form) :
    form.AtMost (depth expression) := by
  obtain ⟨m, hm, h⟩ := Except.bind_eq_ok.1 h
  have hLe : depthMembers m ≤ depth expression := by
    rw [depth_of_textMapping hm]
    exact Nat.le_succ _
  split_ifs at h
  · obtain ⟨children, hChildren, h⟩ := Except.bind_eq_ok.1 h
    cases h
    exact fun child hChild => (atMost_of_branchChildren hChildren hChild).trans hLe
  · obtain ⟨children, hChildren, h⟩ := Except.bind_eq_ok.1 h
    cases h
    exact fun child hChild => (atMost_of_branchChildren hChildren hChild).trans hLe
  · unfold readComparison at h
    split at h
    · next hLeft _ hRight =>
        obtain ⟨-, -, h⟩ := Except.bind_eq_ok.1 h
        split at h
        · cases h
          exact ⟨(depth_le_of_get? hLeft).trans hLe, (depth_le_of_get? hRight).trans hLe⟩
        · cases h
    · cases h

/-- The extreme item is one of the items. -/
theorem mem_of_extreme {op : OrderOp} : ∀ {best result : PyValue} {xs : List PyValue},
    extreme op best xs = some result → result ∈ best :: xs
  | best, result, [], h => by
      cases h
      exact List.mem_singleton_self _
  | best, result, x :: xs, h => by
      obtain ⟨better, -, h⟩ := Option.bind_eq_some_iff.1 h
      have hMem := mem_of_extreme h
      cases better with
      | true => exact List.mem_cons_of_mem _ hMem
      | false =>
          rcases List.mem_cons.1 hMem with rfl | hMem
          · exact List.mem_cons_self
          · exact List.mem_cons_of_mem _ (List.mem_cons_of_mem _ hMem)

/-- `min` and `max` answer nothing deeper than their series. -/
theorem depth_measureExtreme {op : OrderOp} {measure : Text} {value result : PyValue}
    (h : measureExtreme op measure value = .ok result) : depth result ≤ depth value := by
  obtain ⟨xs, hSequence, h⟩ := Except.bind_eq_ok.1 h
  obtain ⟨kind, rfl⟩ := sequence_eq_ok.1 hSequence
  cases xs with
  | nil => cases h
  | cons x xs =>
      have hMem := mem_of_extreme (orRefuse_eq_ok.1 h)
      rw [depth_seq]
      exact (depth_le_depthItems hMem).trans (Nat.le_succ _)

/-- A measure of a value is nested no deeper than the value. -/
theorem depth_measure {stdev : List Binary64 → Except Text Binary64} {measure : Text}
    {apply : PyValue → Except Raised PyValue}
    (hApply : (measures stdev).lookup measure = some apply)
    {value result : PyValue} (h : apply value = .ok result) : depth result ≤ depth value := by
  obtain ⟨before, after, hMeasures, -⟩ := List.lookup_eq_some_iff.1 hApply
  have hMem : (measure, apply) ∈ measures stdev := by
    rw [hMeasures]
    simp
  simp only [measures, List.mem_cons, List.not_mem_nil, or_false, Prod.mk.injEq] at hMem
  -- One case for each registered measure, in the order of the table. Only `identity` and the
  -- extremes answer a value of the series.
  rcases hMem with ⟨-, rfl⟩ | ⟨-, rfl⟩ | ⟨-, rfl⟩ | ⟨-, rfl⟩ | ⟨-, rfl⟩ | ⟨-, rfl⟩ | ⟨-, rfl⟩ |
    ⟨-, rfl⟩ | ⟨-, rfl⟩ | ⟨-, rfl⟩
  · cases h
    exact le_rfl
  · unfold measureCount at h
    split at h
    · cases h
      exact Nat.zero_le _
    · cases h
      exact Nat.zero_le _
    · cases h
  · obtain ⟨_, -, h⟩ := Except.bind_eq_ok.1 h
    obtain ⟨_, -, h⟩ := Except.bind_eq_ok.1 h
    obtain ⟨_, -, h⟩ := Except.bind_eq_ok.1 h
    obtain ⟨_, -, h⟩ := Except.bind_eq_ok.1 h
    obtain ⟨_, -, h⟩ := Except.bind_eq_ok.1 h
    cases h
    exact Nat.zero_le _
  -- `min` and `max`
  · exact depth_measureExtreme h
  · exact depth_measureExtreme h
  · rw [measureAllFinite_eq] at h
    obtain ⟨_, -, h⟩ := Except.bind_eq_ok.1 h
    cases h
    exact Nat.zero_le _
  · obtain ⟨_, -, h⟩ := Except.bind_eq_ok.1 h
    cases h
    exact Nat.zero_le _
  · obtain ⟨_, -, h⟩ := Except.bind_eq_ok.1 h
    cases h
    exact Nat.zero_le _
  · obtain ⟨_, -, h⟩ := Except.bind_eq_ok.1 h
    split at h
    · cases h
      exact Nat.zero_le _
    · cases h
      exact Nat.zero_le _
  · obtain ⟨_, -, h⟩ := Except.bind_eq_ok.1 h
    obtain ⟨_, -, h⟩ := Except.bind_eq_ok.1 h
    cases h
    exact Nat.zero_le _

section

variable {interpreter : Interpreter} {values : Fields} {fault : Raised}
variable (hValues : ∀ field value, values.lookup field = some value →
    depth value ≤ interpreter.limit)
include hValues

/-- The value that a shallow operand stands for is shallow. -/
theorem Stands.depth_le {operand value : PyValue} (h : Stands interpreter values operand value)
    (hOperand : depth operand ≤ interpreter.limit) : depth value ≤ interpreter.limit := by
  cases h with
  | literal hLiteral =>
      have hDepth := atMost_of_readOperand hLiteral
      exact le_trans hDepth hOperand
  | measured _ hField hMeasure _ hResult => exact (depth_measure hMeasure hResult).trans (hValues _ _ hField)

/-- A shallow operand lets no RecursionError out. -/
theorem OperandEscapes.ne_recursionError {operand : PyValue}
    (h : OperandEscapes interpreter values operand fault)
    (hOperand : depth operand ≤ interpreter.limit) : fault ≠ .recursionError := by
  cases h with
  | measure _ hField hMeasure =>
      cases hMeasure with
      | finite => exact nofun
      | converted => exact nofun
      | stdev => exact nofun
      | deep _ hDeep =>
          exact absurd (hValues _ _ hField) (not_le.2 (interpreter.limit_lt_of_overflows hDeep))
  | deep hForm _ _ hDeep =>
      have hMeasure := le_trans (atMost_of_readOperand hForm) hOperand
      exact absurd hMeasure (not_le.2 (interpreter.limit_lt_of_overflows hDeep))
  | digits => exact nofun

/-- Nothing that is too deep lies on the way through a shallow expression on shallow values. -/
theorem Escapes.ne_recursionError {levels : ℕ} {expression : PyValue}
    (h : Escapes interpreter values levels expression fault)
    (hExpression : depth expression ≤ interpreter.limit) :
    fault ≠ .recursionError := by
  induction h with
  | left hForm hOperand =>
      exact hOperand.ne_recursionError hValues ((atMost_of_readExpression hForm).1.trans
        hExpression)
  | right hForm _ hOperand =>
      exact hOperand.ne_recursionError hValues ((atMost_of_readExpression hForm).2.trans
        hExpression)
  | deep hForm hLeft _ hDeep =>
      have hDepth := hLeft.depth_le hValues ((atMost_of_readExpression hForm).1.trans hExpression)
      have hLt := lt_of_lt_of_le (interpreter.limit_lt_of_overflows hDeep.2) (min_le_left _ _)
      exact absurd hDepth (not_le.2 hLt)
  | all hForm _ _ ih =>
      exact ih
        ((atMost_of_readExpression hForm _ (List.mem_append_right _ List.mem_cons_self)).trans
          hExpression)
  | any hForm _ _ ih =>
      exact ih
        ((atMost_of_readExpression hForm _ (List.mem_append_right _ List.mem_cons_self)).trans
          hExpression)

/-- On shallow values the limit does not change what a shallow expression evaluates to. -/
theorem evaluateExpressionWithin_of_shallow (levels : ℕ) {expression : PyValue}
    (hExpression : depth expression ≤ interpreter.limit) :
    evaluateExpressionWithin interpreter values levels expression =
      evaluateExpression interpreter.stdev values levels expression := by
  rcases overruns_evaluateExpression interpreter values levels expression with hError | hSame
  · have hEscapes := (evaluateExpressionWithin_eq_error uncaught_recursionError).1 hError
    exact absurd rfl (hEscapes.ne_recursionError hValues hExpression)
  · exact hSame

/-- Nor do the rules of a shallow guidance object come out differently. -/
theorem evaluateConstraintsWithin_of_shallow {guidance : List (Option Text × PyValue)}
    (hGuidance : depth (.mapping guidance) ≤ interpreter.limit) :
    evaluateConstraintsWithin interpreter values guidance =
      evaluateConstraints interpreter.stdev guidance values := by
  rcases overruns_evaluateConstraints interpreter values guidance with hError | hSame
  · obtain ⟨before, rule, after, _, hRules, -, -, -, hEscapes⟩ :=
      (evaluateConstraintsWithin_eq_error uncaught_recursionError).1 hError
    generalize hMapping : rule = item at hEscapes
    cases hEscapes with
    | condition _ _ hCondition hEscapes =>
        refine absurd rfl (hEscapes.ne_recursionError hValues ?_)
        -- The condition is part of the rule, and the rule of the guidance.
        have hRule := depth_le_of_get? hRules
        have hItem : depth rule ≤ depthItems (before ++ rule :: after) :=
          depth_le_depthItems (List.mem_append_right before List.mem_cons_self)
        have hWhen := depth_le_of_get? (get?_of_present? hCondition)
        have hMembers := congrArg depth hMapping
        rw [depth_mapping] at hMembers
        rw [depth_seq] at hRule
        rw [depth_mapping] at hGuidance
        omega
  · exact hSame

end

end Validation
