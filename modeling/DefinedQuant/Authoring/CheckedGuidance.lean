import DefinedQuant.Authoring.ContractChecks
import DefinedQuant.Shared.ContractRules

/-!
# What the checks of guidance leave to the evaluator

A contract that passes the schema and the checker has well-formed conditions over known fields. The
checks do not bound how deep conditions are nested, do not ask that rules have distinct IDs and do
not look at whether the operands of a comparison can be compared. The evaluator refuses each of
these when it gets there, whatever the values are, and refuses nothing else for a reason of the
guidance alone.
-/

namespace Authoring

open Validation
open PyValue (get? keysAre)

/-! ## Failures of the guidance alone -/

mutual

/-- A value that JSON can spell. -/
def isJson : PyValue → Bool
  | .none | .bool _ | .int _ | .str _ => true
  | .float x => x.isFinite
  | .instant _ => false
  | .seq .list xs => areJson xs
  | .seq .tuple _ => false
  | .mapping m => areJsonMembers m

def areJson : List PyValue → Bool
  | [] => true
  | x :: xs => isJson x && areJson xs

def areJsonMembers : List (Option Text × PyValue) → Bool
  | [] => true
  | (key, x) :: m => key.isSome && isJson x && areJsonMembers m

end

/-- An assignment of JSON values to all fields and to no others. -/
structure Full (fields : List Text) (values : Fields) : Prop where
  assigned : ∀ f ∈ fields, hasField values f
  known : ∀ p ∈ values, p.1 ∈ fields
  json : ∀ p ∈ values, isJson p.2 = true

section

variable (stdev : List Binary64 → Except Text Binary64) (fields : List Text)

/-- No assignment gives the operands values that the operator compares. -/
def Hopeless (operator : Text) (left right : PyValue) : Prop :=
  ∀ values, Full fields values → ∀ a b, resolveOperand stdev values left = .ok a →
    resolveOperand stdev values right = .ok b →
    ∀ outcome, Validation.compare operator a b left right ≠ .ok outcome

/-- A reason that does not depend on the values: nothing about the value of a field can be its
cause. -/
def OfGuidance : Reason → Prop
  | .sequenceRequired _ | .numbersRequired _ | .sizedRequired | .tooFewForStdev | .nonFiniteStdev
  | .emptySequence _ | .undefinedMeasure _ | .incomparableSequence => False
  | .setRequired operator left right | .undefinedOperator operator left right =>
      Hopeless stdev fields operator left right
  | _ => True

/-- The evaluation never fails for a reason of the guidance alone. -/
def NeverFailsAlone (guidance : List (Option Text × PyValue)) : Prop :=
  ∀ values, Full fields values → ∀ reason,
    evaluateConstraints stdev guidance values = .error (.contractEvaluationError reason) →
      ¬ OfGuidance stdev fields reason

end

/-! ## Which conditions are reached -/

section

variable (stdev : List Binary64 → Except Text Binary64) (values : Fields)

/-- The evaluation of a condition gets to a condition inside it: past those before it that hold in
an `all`, and past those before it that do not hold in an `any`. -/
inductive Reaches : ℕ → PyValue → ℕ → PyValue → Prop
  | here (levels : ℕ) (e : PyValue) : Reaches levels e levels e
  | all {levels levels' : ℕ} {child e : PyValue} {before after : List PyValue}
      (passed : ∀ c ∈ before, evaluateExpression stdev values levels c = .ok true)
      (inside : Reaches levels child levels' e) :
      Reaches (levels + 1) (.mapping [(some (py "all"), .seq .list (before ++ child :: after))])
        levels' e
  | any {levels levels' : ℕ} {child e : PyValue} {before after : List PyValue}
      (passed : ∀ c ∈ before, evaluateExpression stdev values levels c = .ok false)
      (inside : Reaches levels child levels' e) :
      Reaches (levels + 1) (.mapping [(some (py "any"), .seq .list (before ++ child :: after))])
        levels' e

end

section

variable {stdev : List Binary64 → Except Text Binary64} {values : Fields}

/-- `all` evaluates its children up to the first that fails. -/
theorem evaluateExpression_all (levels : ℕ) {children : List PyValue} (h : children ≠ []) :
    evaluateExpression stdev values (levels + 1) (.mapping [(some (py "all"), .seq .list children)])
      =
      children.allM (evaluateExpression stdev values levels) := by
  cases children with
  | nil => exact absurd rfl h
  | cons child children => exact evaluateExpression_allOf levels child children

/-- `any` evaluates its children up to the first that holds. -/
theorem evaluateExpression_any (levels : ℕ) {children : List PyValue} (h : children ≠ []) :
    evaluateExpression stdev values (levels + 1) (.mapping [(some (py "any"), .seq .list children)])
      =
      children.anyM (evaluateExpression stdev values levels) := by
  cases children with
  | nil => exact absurd rfl h
  | cons child children =>
      simp [evaluateExpression, textMapping, PyValue.keysAreText, get?, keysAre, branchChildren,
        bind, Except.bind]

/-- A condition fails as the condition does that its evaluation gets to. -/
theorem Reaches.evaluate_error {levels levels' : ℕ} {e e' : PyValue} {failure : Raised}
    (h : Reaches stdev values levels e levels' e')
    (hError : evaluateExpression stdev values levels' e' = .error failure) :
    evaluateExpression stdev values levels e = .error failure := by
  induction h with
  | here => exact hError
  | all passed _ ih => exact (evaluateExpression_all _ (by simp)).trans ((Except.allM_stops (by simp)).2 ⟨_, _, _, rfl, passed, ih hError⟩)
  | any passed _ ih => exact (evaluateExpression_any _ (by simp)).trans ((Except.anyM_stops (by simp)).2 ⟨_, _, _, rfl, passed, ih hError⟩)

end

/-! ## Conditions that pass the checks -/

/-- The keys are among those that are allowed, and the required ones are there. -/
theorem hasKeys_iff {m : List (Option Text × PyValue)} {required optional : List String} :
    hasKeys m required optional = true ↔
      (∀ p ∈ m, p.1 ∈ (required ++ optional).map (fun k => some (py k))) ∧
        ∀ k ∈ required, ∃ v, get? m k = some v := by
  simp only [hasKeys, Bool.and_eq_true, List.all_eq_true, decide_eq_true_iff,
    Option.isSome_iff_exists]

/-- A member that is found is there. -/
theorem mem_of_get? {m : List (Option Text × PyValue)} {key : String} {v : PyValue}
    (h : get? m key = some v) : (some (py key), v) ∈ m := by
  obtain ⟨before, after, rfl, -⟩ := List.lookup_eq_some_iff.1 h
  simp

/-- So is its key. -/
theorem mem_keys_of_get? {m : List (Option Text × PyValue)} {key : String} {v : PyValue}
    (h : get? m key = some v) : some (py key) ∈ m.map Prod.fst :=
  List.mem_map_of_mem (mem_of_get? h)

/-- The keys are exactly the given ones. -/
theorem keysAre_iff {m : List (Option Text × PyValue)} {keys : List String} :
    keysAre m keys = true ↔ (∀ k ∈ m.map Prod.fst, k ∈ keys.map (fun k => some (py k))) ∧
      ∀ k ∈ keys, some (py k) ∈ m.map Prod.fst := by
  simp only [keysAre, Bool.and_eq_true, List.all_eq_true, decide_eq_true_iff]

/-- An object with just the required keys has these keys, all of them texts. -/
theorem keysAre_of_hasKeys {m : List (Option Text × PyValue)} {required : List String}
    (h : hasKeys m required [] = true) : keysAre m required = true := by
  obtain ⟨hKeys, hRequired⟩ := hasKeys_iff.1 h
  refine keysAre_iff.2 ⟨fun k hk => ?_, fun k hk => ?_⟩
  · obtain ⟨p, hp, rfl⟩ := List.mem_map.1 hk
    simpa using hKeys p hp
  · obtain ⟨v, hv⟩ := hRequired k hk
    exact mem_keys_of_get? hv

/-- Then all keys are texts. -/
theorem keysAreText_of_hasKeys {m : List (Option Text × PyValue)} {required optional : List String}
    (h : hasKeys m required optional = true) : PyValue.keysAreText m = true := by
  refine List.all_eq_true.2 (fun p hp => ?_)
  obtain ⟨k, -, hk⟩ := List.mem_map.1 ((hasKeys_iff.1 h).1 p hp)
  rw [← hk]
  rfl

/-- The parts of a comparison. -/
theorem isComparison_cases {m : List (Option Text × PyValue)} (h : isComparison m = true) :
    hasKeys m ["left", "op", "right"] [] = true ∧ ∃ left operator right,
      get? m "left" = some left ∧ get? m "op" = some (.str operator) ∧ get? m "right" = some right ∧
      isOperand (some left) = true ∧ operator ∈ operatorNames ∧ isOperand (some right) = true := by
  simp only [isComparison, Bool.and_eq_true] at h
  obtain ⟨⟨⟨hKeys, hLeft⟩, hOp⟩, hRight⟩ := h
  obtain ⟨left, hLeftValue⟩ := (hasKeys_iff.1 hKeys).2 "left" (by simp)
  obtain ⟨right, hRightValue⟩ := (hasKeys_iff.1 hKeys).2 "right" (by simp)
  unfold isOneOf at hOp
  split at hOp
  · next operator hOperator =>
    rw [hLeftValue] at hLeft
    rw [hRightValue] at hRight
    exact ⟨hKeys, left, operator, right, hLeftValue, hOperator, hRightValue, hLeft,
      of_decide_eq_true hOp, hRight⟩
  · cases hOp

/-- A comparison is evaluated as one. -/
theorem evaluateExpression_of_isComparison {stdev : List Binary64 → Except Text Binary64}
    {values : Fields} (levels : ℕ) {m : List (Option Text × PyValue)} (h : isComparison m = true) :
    evaluateExpression stdev values (levels + 1) (.mapping m) = evaluateComparison stdev values
      m := by
  obtain ⟨hKeys, left, operator, right, hLeft, -, -, -⟩ := isComparison_cases h
  have hBranch : ∀ branch : String, branch ≠ "left" → keysAre m [branch] = false := by
    intro branch hBranch
    rw [Bool.eq_false_iff]
    intro hAre
    have hOnly := (keysAre_iff.1 hAre).1 _ (mem_keys_of_get? hLeft)
    simp [Ne.symm hBranch] at hOnly
  simp [evaluateExpression, textMapping, keysAreText_of_hasKeys hKeys, hBranch "all" (by decide),
    hBranch "any" (by decide), bind, Except.bind]

/-- What a comparison makes of its operands. -/
theorem evaluateComparison_eq {stdev : List Binary64 → Except Text Binary64} {values : Fields}
    {m : List (Option Text × PyValue)} {left right : PyValue} {operator : Text}
    (hKeys : hasKeys m ["left", "op", "right"] [] = true) (hLeft : get? m "left" = some left)
    (hOp : get? m "op" = some (.str operator)) (hRight : get? m "right" = some right) :
    evaluateComparison stdev values m = (do
      let a ← resolveOperand stdev values left
      let b ← resolveOperand stdev values right
      Validation.compare operator a b left right) := by
  simp [evaluateComparison, hLeft, hOp, hRight, keysAre_of_hasKeys hKeys, refuseIf,
    Except.raiseIf, bind,
    Except.bind]

/-- Conditions are checked one by one. -/
theorem areConditions_iff {xs : List PyValue} :
    areConditions xs = true ↔ ∀ x ∈ xs, isCondition x = true := by
  induction xs with
  | nil => simp [areConditions]
  | cons x xs ih => rw [areConditions, Bool.and_eq_true, ih, List.forall_mem_cons]

/-- The three kinds of conditions. -/
theorem isCondition_cases {e : PyValue} (h : isCondition e = true) :
    (∃ children, e = .mapping [(some (py "all"), .seq .list children)] ∧ children ≠ [] ∧
      ∀ c ∈ children, isCondition c = true) ∨
    (∃ children, e = .mapping [(some (py "any"), .seq .list children)] ∧ children ≠ [] ∧
      ∀ c ∈ children, isCondition c = true) ∨
    (∃ m, e = .mapping m ∧ isComparison m = true) := by
  unfold isCondition at h
  split at h
  · next key children =>
    rw [Bool.and_eq_true, Bool.and_eq_true, Bool.or_eq_true, decide_eq_true_iff, decide_eq_true_iff,
      areConditions_iff] at h
    obtain ⟨⟨hKey, hChildren⟩, hEach⟩ := h
    have hNonempty : children ≠ [] := by simpa using hChildren
    rcases hKey with rfl | rfl
    · exact .inl ⟨children, rfl, hNonempty, hEach⟩
    · exact .inr (.inl ⟨children, rfl, hNonempty, hEach⟩)
  · next m _ => exact .inr (.inr ⟨m, rfl, h⟩)
  · cases h

/-- The fields of items are collected in order. -/
theorem itemFields_append (xs ys : List PyValue) : itemFields (xs ++ ys) = itemFields xs ++
    itemFields ys := by
  induction xs with
  | nil => rfl
  | cons x xs ih => rw [List.cons_append, itemFields, ih, itemFields, List.append_assoc]

/-- The fields of a child are fields of the condition. -/
theorem fields_of_child {branch : String} {before after : List PyValue} {child : PyValue} {f : Text}
    (h : f ∈ conditionFields child) :
    f ∈ conditionFields (.mapping [(some (py branch), .seq .list (before ++ child :: after))]) := by
  simp [conditionFields, memberFields, itemFields_append, itemFields, h]

/-- A field of a member is a field of the mapping. -/
theorem fields_of_member {m : List (Option Text × PyValue)} {key : String} {v : PyValue} {f : Text}
    (hGet : get? m key = some v) (h : f ∈ conditionFields v) : f ∈ memberFields m := by
  induction m with
  | nil => cases hGet
  | cons p m ih =>
      obtain ⟨k, w⟩ := p
      rw [memberFields, List.mem_append]
      by_cases hKey : some (py key) = k
      · have hValue : w = v := by simpa [get?, List.lookup_cons, hKey] using hGet
        rw [hValue]
        exact .inl h
      · refine .inr (ih ?_)
        have hNot : (some (py key) == k) = false := by simpa using hKey
        simpa [get?, List.lookup_cons, hNot] using hGet

section

variable {stdev : List Binary64 → Except Text Binary64} {values : Fields}

/-- Inside a condition that passes the checks, all conditions do. -/
theorem Reaches.passes {levels levels' : ℕ} {e e' : PyValue}
    (h : Reaches stdev values levels e levels' e') (hCondition : isCondition e = true) :
    isCondition e' = true ∧ ∀ f ∈ conditionFields e', f ∈ conditionFields e := by
  induction h with
  | here => exact ⟨hCondition, fun _ hf => hf⟩
  | @all levels levels' child e before after passed inside ih =>
      have hChild : isCondition child = true := by
        rcases isCondition_cases hCondition with ⟨children, hEq, -, hEach⟩ | ⟨children, hEq, -,
          hEach⟩ |
          ⟨m, hEq, hComparison⟩
        · cases hEq
          exact hEach child (by simp)
        · simp [py_injective.eq_iff] at hEq
        · cases hEq
          simp [isComparison, hasKeys, get?] at hComparison
      obtain ⟨hInner, hFields⟩ := ih hChild
      exact ⟨hInner, fun f hf => fields_of_child (hFields f hf)⟩
  | @any levels levels' child e before after passed inside ih =>
      have hChild : isCondition child = true := by
        rcases isCondition_cases hCondition with ⟨children, hEq, -, hEach⟩ | ⟨children, hEq, -,
          hEach⟩ |
          ⟨m, hEq, hComparison⟩
        · simp [py_injective.eq_iff] at hEq
        · cases hEq
          exact hEach child (by simp)
        · cases hEq
          simp [isComparison, hasKeys, get?] at hComparison
      obtain ⟨hInner, hFields⟩ := ih hChild
      exact ⟨hInner, fun f hf => fields_of_child (hFields f hf)⟩

/-- A condition whose evaluation fails gets to a level that is too deep or to a comparison that
fails. -/
theorem exists_reaches_of_error {levels : ℕ} {e : PyValue} {failure : Raised}
    (hCondition : isCondition e = true)
    (hError : evaluateExpression stdev values levels e = .error failure) :
    ∃ levels' e', Reaches stdev values levels e levels' e' ∧
      ((levels' = 0 ∧ failure = .contractEvaluationError .tooDeep) ∨
        ∃ n m, levels' = n + 1 ∧ e' = .mapping m ∧ isComparison m = true ∧
          evaluateComparison stdev values m = .error failure) := by
  induction levels generalizing e with
  | zero => exact ⟨0, e, .here 0 e, .inl ⟨rfl, by cases hError; rfl⟩⟩
  | succ levels ih =>
      rcases isCondition_cases hCondition with ⟨children, rfl, hNonempty, hEach⟩ |
        ⟨children, rfl, hNonempty, hEach⟩ | ⟨m, rfl, hComparison⟩
      · rw [evaluateExpression_all levels hNonempty] at hError
        obtain ⟨before, child, after, rfl, hBefore, hChild⟩ :=
          (Except.allM_stops (by simp)).1 hError
        obtain ⟨levels', e', hReaches, hEnd⟩ := ih (hEach child (by simp)) hChild
        exact ⟨levels', e', .all hBefore hReaches, hEnd⟩
      · rw [evaluateExpression_any levels hNonempty] at hError
        obtain ⟨before, child, after, rfl, hBefore, hChild⟩ :=
          (Except.anyM_stops (by simp)).1 hError
        obtain ⟨levels', e', hReaches, hEnd⟩ := ih (hEach child (by simp)) hChild
        exact ⟨levels', e', .any hBefore hReaches, hEnd⟩
      · refine ⟨levels + 1, .mapping m, .here _ _, .inr ⟨levels, m, rfl, rfl, hComparison, ?_⟩⟩
        rwa [evaluateExpression_of_isComparison levels hComparison] at hError

end

/-! ## Operands that pass the checks -/

/-- A key that an object may not have is not there. -/
theorem get?_eq_none_of_hasKeys {m : List (Option Text × PyValue)} {required optional : List String}
    {key : String} (h : hasKeys m required optional = true) (hKey : key ∉ required ++ optional) :
    get? m key = none := by
  cases hGet : get? m key with
  | none => rfl
  | some v =>
      obtain ⟨k, hk, hSame⟩ := List.mem_map.1 ((hasKeys_iff.1 h).1 _ (mem_of_get? hGet))
      have hEq : k = key := by simpa using hSame
      exact absurd (hEq ▸ hk) hKey

/-- The two kinds of operands. -/
theorem isOperand_cases {operand : PyValue} (h : isOperand (some operand) = true) :
    ∃ m, operand = .mapping m ∧ PyValue.keysAreText m = true ∧
      ((∃ v, get? m "value" = some v ∧ get? m "field" = none ∧ keysAre m ["value"] = true) ∨
        ∃ name measure, get? m "field" = some (.str name) ∧ get? m "value" = none ∧
          (∀ p ∈ m, p.1 ∈ [some (py "field"), some (py "measure")]) ∧ measure ∈ measureNames ∧
          (get? m "measure").getD (.str (py "identity")) = .str measure) := by
  unfold isOperand at h
  split at h
  · next m hMapping =>
    cases hMapping
    rw [Bool.or_eq_true, Bool.and_eq_true, Bool.and_eq_true, Bool.and_eq_true] at h
    -- A literal, or a field with an optional measure.
    rcases h with ⟨hKeys, -⟩ | ⟨⟨hKeys, hField⟩, hMeasure⟩
    · obtain ⟨v, hv⟩ := (hasKeys_iff.1 hKeys).2 "value" (by simp)
      exact ⟨m, rfl, keysAreText_of_hasKeys hKeys,
        .inl ⟨v, hv, get?_eq_none_of_hasKeys hKeys (by decide), keysAre_of_hasKeys hKeys⟩⟩
    · unfold isIdentifierValue at hField
      split at hField
      · next name hName =>
        have hOnly : ∀ p ∈ m, p.1 ∈ [some (py "field"), some (py "measure")] :=
          (hasKeys_iff.1 hKeys).1
        have hNoValue : get? m "value" = none := get?_eq_none_of_hasKeys hKeys (by decide)
        refine ⟨m, rfl, keysAreText_of_hasKeys hKeys, .inr ?_⟩
        cases hGet : get? m "measure" with
        | none =>
            exact ⟨name, py "identity", hName, hNoValue, hOnly, by simp [measureNames], rfl⟩
        | some measure =>
            rw [hGet] at hMeasure
            have hOne : isOneOf measureNames (some measure) = true := by simpa using hMeasure
            unfold isOneOf at hOne
            split at hOne
            · next measureName hText =>
              cases hText
              exact ⟨name, measureName, hName, hNoValue, hOnly, of_decide_eq_true hOne, rfl⟩
            · cases hOne
      · cases hField
  · cases h

section

variable {stdev : List Binary64 → Except Text Binary64} {values : Fields}

/-- Every name of a measure has a measure. -/
theorem exists_measure {measure : Text} (h : measure ∈ measureNames) :
    ∃ apply, (measures stdev).lookup measure = some apply := by
  obtain ⟨name, hName, rfl⟩ := List.mem_map.1 h
  simp only [List.mem_cons, List.not_mem_nil, or_false] at hName
  rcases hName with rfl | rfl | rfl | rfl | rfl | rfl | rfl | rfl | rfl | rfl
  all_goals simp [measures, List.lookup_cons, py_beq]

/-- A supplied field has a value. -/
theorem exists_lookup_of_hasField {name : Text} (h : hasField values name) :
    ∃ v, values.lookup name = some v := by
  cases hLookup : values.lookup name with
  | some v => exact ⟨v, rfl⟩
  | none =>
      obtain ⟨p, hp, hName⟩ := List.mem_map.1 h
      exact absurd hName.symm (by simpa using List.lookup_eq_none_iff.1 hLookup p hp)

/-- An operand over known fields fails only as its measure does on a value. -/
theorem exists_of_resolveOperand_error {operand : PyValue} {failure : Raised}
    (hOperand : isOperand (some operand) = true)
    (hFields : ∀ f ∈ conditionFields operand, hasField values f)
    (hError : resolveOperand stdev values operand = .error failure) :
    ∃ measure apply value, (measures stdev).lookup measure = some apply ∧
      apply value = .error failure := by
  obtain ⟨m, rfl, hText, hKind⟩ := isOperand_cases hOperand
  rcases hKind with ⟨v, hValue, hNoField, hKeys⟩ | ⟨name, measure, hField, hNoValue, hOnly,
    hMeasure, hGet⟩
  · simp [resolveOperand, textMapping, hText, hValue, hNoField, hKeys, refuseIf,
      Except.raiseIf, bind,
      Except.bind, pure, Except.pure] at hError
  · have hKnown : hasField values name := by
      apply hFields
      simp [conditionFields, hField]
    obtain ⟨value, hValue⟩ := exists_lookup_of_hasField hKnown
    obtain ⟨apply, hApply⟩ := @exists_measure stdev _ hMeasure
    refine ⟨measure, apply, value, hApply, ?_⟩
    have hKeys : refuseIf (¬ ∀ p ∈ m, p.1 ∈ [some (py "field"), some (py "measure")])
        .unknownOperandKeys = .ok () := if_neg (not_not.2 hOnly)
    simpa only [resolveOperand, textMapping, hText, if_true, hField, hNoValue, hKeys, bind,
      Except.bind, resolveField, hGet, hValue, hApply] using hError

end

/-! ## Measures fail because of values -/

/-- A failure that a value can be the cause of. -/
def IsOfValue : Raised → Prop
  | .contractEvaluationError reason =>
      match reason with
      | .sequenceRequired _ | .numbersRequired _ | .sizedRequired | .tooFewForStdev
        | .nonFiniteStdev
      | .emptySequence _ | .undefinedMeasure _ | .incomparableSequence => True
      | _ => False
  | _ => True

/-- A fault of a value is no fault of the guidance. -/
theorem IsOfValue.not_ofGuidance {stdev : List Binary64 → Except Text Binary64} {fields : List Text}
    {reason : Reason} (h : IsOfValue (.contractEvaluationError reason)) :
    ¬ OfGuidance stdev fields reason := by
  cases reason <;> first | exact h.elim | exact id

/-- A computation fails only because of values. -/
def FailsOfValue {α : Type} (x : Except Raised α) : Prop := ∀ e, x = .error e → IsOfValue e

section

variable {α β : Type}

/-- Returning is no fault. -/
theorem failsOfValue_ok (a : α) : FailsOfValue (.ok a : Except Raised α) := nofun

/-- A fault of a value is one. -/
theorem failsOfValue_error {e : Raised} (h : IsOfValue e) :
    FailsOfValue (.error e : Except Raised α) := by
  rintro _ ⟨⟩
  exact h

/-- Two steps fail as one of them does. -/
theorem FailsOfValue.bind {x : Except Raised α} {f : α → Except Raised β} (hx : FailsOfValue x)
    (hf : ∀ a, FailsOfValue (f a)) : FailsOfValue (x >>= f) := by
  cases x with
  | error e =>
      rintro _ ⟨⟩
      exact hx e rfl
  | ok a => exact hf a

/-- A check of a value fails of the value. -/
theorem failsOfValue_refuseIf {p : Prop} [Decidable p] {reason : Reason}
    (h : IsOfValue (.contractEvaluationError reason)) : FailsOfValue (refuseIf p reason) := by
  unfold refuseIf Except.raiseIf
  split
  · exact failsOfValue_error h
  · exact failsOfValue_ok ()

/-- So does a missing result. -/
theorem failsOfValue_orRefuse {reason : Reason} (h : IsOfValue (.contractEvaluationError reason))
    (o : Option α) : FailsOfValue (orRefuse reason o) := by
  cases o with
  | none => exact failsOfValue_error h
  | some a => exact failsOfValue_ok a

/-- A traversal fails of the value where each step does. -/
theorem failsOfValue_mapM {f : α → Except Raised β} (h : ∀ x, FailsOfValue (f x)) (xs : List α) :
    FailsOfValue (xs.mapM f) := by
  induction xs with
  | nil => exact failsOfValue_ok []
  | cons x xs ih =>
      rw [List.mapM_cons]
      exact (h x).bind (fun _ => ih.bind (fun _ => failsOfValue_ok _))

/-- What is no sequence is refused as a value. -/
theorem failsOfValue_sequence (value : PyValue) (measure : Text) :
    FailsOfValue (Validation.sequence value measure) := by
  unfold Validation.sequence
  split
  · exact failsOfValue_ok _
  · exact failsOfValue_error trivial

/-- What is no number is refused as a value. -/
theorem failsOfValue_real (measure : Text) (value : PyValue) :
    FailsOfValue (Validation.real measure value) := by
  unfold Validation.real
  split
  · split
    · exact failsOfValue_ok _
    · exact failsOfValue_error trivial
  · exact failsOfValue_ok _
  · exact failsOfValue_error trivial

/-- An extreme fails only of the value that it is taken of. -/
theorem failsOfValue_measureExtreme (op : PyValue.OrderOp) (measure : Text) (value : PyValue) :
    FailsOfValue (measureExtreme op measure value) := by
  refine (failsOfValue_sequence value measure).bind (fun values => ?_)
  cases values with
  | nil => exact failsOfValue_error trivial
  | cons x xs => exact failsOfValue_orRefuse (by trivial) _

/-- Every measure, on every value. -/
theorem failsOfValue_measure {stdev : List Binary64 → Except Text Binary64} {measure : Text}
    {apply : PyValue → Except Raised PyValue} (h : (measures stdev).lookup measure = some apply)
    (value : PyValue) : FailsOfValue (apply value) := by
  obtain ⟨before, after, hMeasures, -⟩ := List.lookup_eq_some_iff.1 h
  have hMem : (measure, apply) ∈ measures stdev := by
    rw [hMeasures]
    simp
  simp only [measures, List.mem_cons, List.not_mem_nil, or_false, Prod.mk.injEq] at hMem
  -- One case for each registered measure, in the order of the table.
  rcases hMem with ⟨-, rfl⟩ | ⟨-, rfl⟩ | ⟨-, rfl⟩ | ⟨-, rfl⟩ | ⟨-, rfl⟩ | ⟨-, rfl⟩ | ⟨-, rfl⟩ |
    ⟨-, rfl⟩ | ⟨-, rfl⟩ | ⟨-, rfl⟩
  · exact failsOfValue_ok value
  · unfold measureCount
    split
    · exact failsOfValue_ok _
    · exact failsOfValue_ok _
    · exact failsOfValue_error trivial
  · refine (failsOfValue_sequence value _).bind (fun values =>
      (failsOfValue_mapM (failsOfValue_real _) values).bind (fun numbers =>
        (failsOfValue_refuseIf (by trivial)).bind (fun _ => FailsOfValue.bind ?_ (fun result =>
          (failsOfValue_refuseIf (by trivial)).bind (fun _ => failsOfValue_ok _)))))
    cases stdev numbers with
    | error message => exact failsOfValue_error trivial
    | ok result => exact failsOfValue_ok result
  · exact failsOfValue_measureExtreme _ _ value
  · exact failsOfValue_measureExtreme _ _ value
  · unfold measureAllFinite
    split
    · exact (failsOfValue_mapM (failsOfValue_real _) _).bind (fun _ => failsOfValue_ok _)
    · exact (failsOfValue_mapM (failsOfValue_real _) _).bind (fun _ => failsOfValue_ok _)
  · exact (failsOfValue_sequence value _).bind (fun _ => failsOfValue_ok _)
  · exact (failsOfValue_sequence value _).bind (fun _ => failsOfValue_ok _)
  · refine (failsOfValue_sequence value _).bind (fun values => ?_)
    split
    · exact failsOfValue_ok _
    · exact failsOfValue_ok _
  · exact (failsOfValue_sequence value _).bind (fun _ =>
      (failsOfValue_orRefuse (by trivial) _).bind (fun _ => failsOfValue_ok _))

end

/-! ## Comparisons that no assignment can decide -/

/-- An operator of the schema fails only for operands that it is not defined for. -/
theorem compare_eq_error {operator : Text} {a b left right : PyValue} {failure : Raised}
    (hOperator : operator ∈ operatorNames)
    (hError : Validation.compare operator a b left right = .error failure) :
    failure = .contractEvaluationError (.undefinedOperator operator left right) ∨
      failure = .contractEvaluationError (.setRequired operator left right) := by
  unfold Validation.compare at hError
  split at hError
  · next op _ =>
    cases hOrder : PyValue.order op a b with
    | some outcome => simp [hOrder, orRefuse] at hError
    | none =>
        refine .inl ?_
        simpa [hOrder, orRefuse, refuse, eq_comm] using hError
  · next hNone =>
    split at hError
    · cases hError
    split at hError
    · cases hError
    split at hError
    · split at hError
      · cases hError
      · refine .inr ?_
        simpa [refuse, eq_comm] using hError
    · next hEq hNe hSet =>
      -- every operator of the schema is one of those above
      obtain ⟨name, hName, rfl⟩ := List.mem_map.1 hOperator
      simp only [List.mem_cons, List.not_mem_nil, or_false] at hName
      simp only [orderOperators, List.lookup_eq_none_iff] at hNone
      rcases hName with rfl | rfl | rfl | rfl | rfl | rfl | rfl | rfl <;> simp at hNone hEq hNe hSet

section

variable (stdev : List Binary64 → Except Text Binary64) (fields : List Text) (values : Fields)

/-- What the checks do not exclude at a place that an evaluation gets to: a level that is too deep,
or a comparison whose operands have values, but that is not defined for any values they can have. -/
def IsFault (levels : ℕ) (e : PyValue) : Prop :=
  levels = 0 ∨ ∃ m left operator right a b, e = .mapping m ∧ get? m "left" = some left ∧
    get? m "op" = some (.str operator) ∧ get? m "right" = some right ∧
    resolveOperand stdev values left = .ok a ∧ resolveOperand stdev values right = .ok b ∧
    Hopeless stdev fields operator left right

end

section

variable {stdev : List Binary64 → Except Text Binary64} {fields : List Text} {values : Fields}

/-- A field of an operand is a field of the comparison. -/
theorem fields_of_comparison {m : List (Option Text × PyValue)} {key : String} {v : PyValue}
    {f : Text} (hGet : get? m key = some v) (h : f ∈ conditionFields v) :
    f ∈ conditionFields (.mapping m) := by
  rw [conditionFields]
  exact List.mem_append_right _ (fields_of_member hGet h)

/-- A comparison that passes the checks fails for a reason of the guidance alone only if it is a
fault. -/
theorem isFault_of_comparison_error (hFull : Full fields values) (levels : ℕ)
    {m : List (Option Text × PyValue)} (hComparison : isComparison m = true)
    (hFields : ∀ f ∈ conditionFields (.mapping m), f ∈ fields) {reason : Reason}
    (hError : evaluateComparison stdev values m = .error (.contractEvaluationError reason))
    (hReason : OfGuidance stdev fields reason) :
    IsFault stdev fields values levels (.mapping m) := by
  obtain ⟨hKeys, left, operator, right, hLeft, hOp, hRight, hLeftOperand, hOperator,
    hRightOperand⟩ :=
    isComparison_cases hComparison
  rw [evaluateComparison_eq hKeys hLeft hOp hRight] at hError
  have hResolves : ∀ key operand, get? m key = some operand → isOperand (some operand) = true →
      resolveOperand stdev values operand ≠ .error (.contractEvaluationError reason) := by
    intro key operand hGet hOperand hFails
    obtain ⟨measure, apply, value, hMeasure, hApply⟩ := exists_of_resolveOperand_error hOperand
      (fun f hf => hFull.assigned f (hFields f (fields_of_comparison hGet hf))) hFails
    exact (failsOfValue_measure hMeasure value _ hApply).not_ofGuidance hReason
  cases hA : resolveOperand stdev values left with
  | error failure =>
      rw [hA] at hError
      cases hError
      exact absurd hA (hResolves "left" left hLeft hLeftOperand)
  | ok a =>
      cases hB : resolveOperand stdev values right with
      | error failure =>
          rw [hA, hB] at hError
          cases hError
          exact absurd hB (hResolves "right" right hRight hRightOperand)
      | ok b =>
          rw [hA, hB] at hError
          refine .inr ⟨m, left, operator, right, a, b, rfl, hLeft, hOp, hRight, hA, hB, ?_⟩
          rcases compare_eq_error hOperator hError with hSame | hSame <;> cases hSame <;>
            exact hReason

/-- At a fault the evaluation fails for a reason of the guidance alone. -/
theorem IsFault.exists_error {levels : ℕ} {e : PyValue} (h : IsFault stdev fields values levels e)
    (hFull : Full fields values) (hCondition : isCondition e = true) :
    ∃ reason, evaluateExpression stdev values levels e = .error (.contractEvaluationError reason) ∧
      OfGuidance stdev fields reason := by
  cases levels with
  | zero => exact ⟨.tooDeep, rfl, trivial⟩
  | succ levels =>
      obtain hZero | ⟨m, left, operator, right, a, b, rfl, hLeft, hOp, hRight, hA, hB, hHopeless⟩ :=
        h
      · cases hZero
      have hComparison : isComparison m = true := by
        rcases isCondition_cases hCondition with ⟨children, hEq, -⟩ | ⟨children, hEq, -⟩ |
          ⟨m', hEq, hComparison⟩
        · cases hEq
          simp [get?, List.lookup_cons, py_beq] at hLeft
        · cases hEq
          simp [get?, List.lookup_cons, py_beq] at hLeft
        · cases hEq
          exact hComparison
      obtain ⟨hKeys, left', operator', right', hLeft', hOp', hRight', -, hOperator, -⟩ :=
        isComparison_cases hComparison
      cases hOp.symm.trans hOp'
      cases hOutcome : Validation.compare operator a b left right with
      | ok outcome => exact absurd hOutcome (hHopeless values hFull a b hA hB outcome)
      | error failure =>
          have hEvaluate : evaluateExpression stdev values (levels + 1) (.mapping m) =
            .error failure := by
            rw [evaluateExpression_of_isComparison levels hComparison,
              evaluateComparison_eq hKeys hLeft hOp hRight, hA, hB]
            exact hOutcome
          rcases compare_eq_error hOperator hOutcome with rfl | rfl
          · exact ⟨_, hEvaluate, hHopeless⟩
          · exact ⟨_, hEvaluate, hHopeless⟩

end

/-! ## Rules -/

/-- The ID of a rule, and its condition. -/
abbrev ruleId : PyValue → Option Text := textMember "id"

def ruleCondition : PyValue → Option PyValue
  | .mapping m => get? m "when"
  | _ => none

/-- What the evaluator does with a rule that passes the schema. -/
theorem evaluateRule_of_isConstraint {rule : PyValue} (h : isConstraint rule = true) :
    ∃ id condition severity message, ruleId rule = some id ∧ ruleCondition rule = some condition ∧
      isCondition condition = true ∧
      ∀ (stdev : List Binary64 → Except Text Binary64) (values : Fields)
        (sofar : List Text × List Violation), evaluateRule stdev values sofar rule = (do
          refuseIf (id ∈ sofar.1) (.duplicateConstraintId id)
          let fires ← evaluateExpression stdev values maxExpressionDepth condition
          return (sofar.1 ++ [id],
            if fires then sofar.2 ++ [{ rule := id, severity, message }] else sofar.2)) := by
  -- The checker has seen each member that the evaluator reads, so that none of its refusals can
  -- occur.
  unfold isConstraint at h
  split at h
  · next m =>
    simp only [Bool.and_eq_true] at h
    obtain ⟨⟨⟨⟨hKeys, hId⟩, hSeverity⟩, hWhen⟩, hMessage⟩ := h
    unfold isIdentifierValue at hId
    split at hId
    · next id hIdValue =>
      obtain ⟨severity, hSeverityValue⟩ : ∃ severity,
          severityOf id ((get? m "severity").getD .none) = .ok severity := by
        unfold isOneOf at hSeverity
        split at hSeverity
        · next s hText =>
          have hMem : s = py "blocking" ∨ s = py "warning" := by simpa using hSeverity
          rw [hText]
          rcases hMem with rfl | rfl
          · exact ⟨.blocking, by simp [severityOf]⟩
          · exact ⟨.warning, by simp [severityOf]⟩
        · cases hSeverity
      obtain ⟨condition, hCondition⟩ := (hasKeys_iff.1 hKeys).2 "when" (by simp)
      have hIs : isCondition condition = true := by simpa [hCondition] using hWhen
      have hPresent : present? (some condition) = some condition := by
        cases condition <;> first | rfl | (simp [isCondition] at hIs)
      have hIdText : nonEmptyText? (some (.str id)) = some id := by
        cases id with
        | nil => simp [isIdentifier] at hId
        | cons c rest => rfl
      obtain ⟨message, hMessageText⟩ : ∃ message, nonEmptyText? (get? m "message") =
        some message := by
        unfold isNonEmptyString at hMessage
        split at hMessage
        · next s hText =>
          rw [hText]
          cases s with
          | nil => cases hMessage
          | cons c rest => exact ⟨_, rfl⟩
        · cases hMessage
      refine ⟨id, condition, severity, message, by simp [textMember, hIdValue], hCondition, hIs, ?_⟩
      intro stdev values sofar
      simp only [evaluateRule, hIdValue, hIdText, hSeverityValue, hMessageText, hCondition,
        hPresent, orRefuse, bind, Except.bind]
    · cases hId
  · cases h

section

variable {stdev : List Binary64 → Except Text Binary64} {fields : List Text} {values : Fields}

/-- The IDs seen are those of the rules before. -/
theorem seen_of_foldlM {rules : List PyValue} {sofar after : List Text × List Violation}
    (hRules : ∀ rule ∈ rules, isConstraint rule = true)
    (h : rules.foldlM (evaluateRule stdev values) sofar = .ok after) :
    after.1 = sofar.1 ++ rules.filterMap ruleId := by
  induction rules generalizing sofar with
  | nil =>
      cases h
      simp
  | cons rule rules ih =>
      obtain ⟨hRule, hRest⟩ := List.forall_mem_cons.1 hRules
      obtain ⟨id, condition, severity, message, hId, -, -, hEvaluate⟩ :=
        evaluateRule_of_isConstraint hRule
      rw [List.foldlM_cons, Except.bind_eq_ok] at h
      obtain ⟨next, hNext, h⟩ := h
      rw [hEvaluate] at hNext
      obtain ⟨-, -, hNext⟩ := Except.bind_eq_ok.1 hNext
      obtain ⟨fires, -, hNext⟩ := Except.bind_eq_ok.1 hNext
      cases hNext
      rw [ih hRest h, List.filterMap_cons, hId]
      simp

end

section

variable (stdev : List Binary64 → Except Text Binary64) (fields : List Text)

/-- On no assignment does the evaluation get to a rule whose ID an earlier rule has, or inside a
rule to a fault. -/
def MeetsNoFault (guidance : List (Option Text × PyValue)) : Prop :=
  ∀ values, Full fields values → ∀ before rule after sofar,
    listOrEmpty guidance "constraints" = before ++ rule :: after →
    before.foldlM (evaluateRule stdev values) ([], []) = .ok sofar →
    (∀ id, ruleId rule = some id → id ∉ before.filterMap ruleId) ∧
      ∀ condition, ruleCondition rule = some condition → ∀ levels e,
        Reaches stdev values maxExpressionDepth condition levels e →
          ¬ IsFault stdev fields values levels e

end

/-- What the checks say about the rules. -/
theorem constraints_of_checked {inputs : InputsModel} {guidance : List (Option Text × PyValue)}
    (hSchema : isGuidance guidance = true) (hChecked : validateGuidance inputs guidance = []) :
    get? guidance "constraints" = some (.seq .list (listOrEmpty guidance "constraints")) ∧
      (∀ rule ∈ listOrEmpty guidance "constraints", isConstraint rule = true) ∧
      ∀ f ∈ itemFields (listOrEmpty guidance "constraints"), f ∈ inputs.inputFields := by
  simp only [isGuidance, Bool.and_eq_true] at hSchema
  have hArray := hSchema.1.2
  unfold isArrayOf at hArray
  split at hArray
  · next rules hRules =>
    have hList : listOrEmpty guidance "constraints" = rules := by simp [listOrEmpty, hRules]
    rw [hList]
    refine ⟨hRules, List.all_eq_true.1 hArray, fun f hf => ?_⟩
    by_contra hUnknown
    have hSorted : sortedSet ((referencedFields guidance).filter
        (fun field => decide (field ∉ inputs.inputFields))) = [] := by
      simp only [validateGuidance, List.append_eq_nil_iff, List.map_eq_nil_iff] at hChecked
      exact hChecked.1.1.1.1.1.1.1
    have hMem : f ∈ sortedSet ((referencedFields guidance).filter
        (fun field => decide (field ∉ inputs.inputFields))) := by
      refine mem_sortBy.2 (List.mem_dedup.2 (List.mem_filter.2 ⟨?_, decide_eq_true hUnknown⟩))
      refine List.mem_append_left _ ?_
      rw [hRules]
      exact hf
    rw [hSorted] at hMem
    cases hMem
  · cases hArray

/-- A field of a condition is a field of its rules. -/
theorem fields_of_rule {rules : List PyValue} {rule condition : PyValue} {f : Text}
    (hRule : rule ∈ rules) (hCondition : ruleCondition rule = some condition)
    (h : f ∈ conditionFields condition) : f ∈ itemFields rules := by
  obtain ⟨before, after, rfl⟩ := List.append_of_mem hRule
  rw [itemFields_append, itemFields]
  refine List.mem_append_right _ (List.mem_append_left _ ?_)
  cases rule with
  | mapping m => exact fields_of_comparison hCondition h
  | _ => cases hCondition

/-- For guidance that passes the schema and the checker, the evaluator never fails for a reason of
the guidance alone exactly when on no assignment the evaluation gets to a repeated rule ID, to a
condition nested too deep, or to a comparison that is defined for no values of its operands. -/
theorem neverFailsAlone_iff (stdev : List Binary64 → Except Text Binary64) (inputs : InputsModel)
    (guidance : List (Option Text × PyValue)) (hSchema : isGuidance guidance = true)
    (hChecked : validateGuidance inputs guidance = []) :
    NeverFailsAlone stdev inputs.inputFields guidance ↔
      MeetsNoFault stdev inputs.inputFields guidance := by
  obtain ⟨hList, hRules, hFields⟩ := constraints_of_checked hSchema hChecked
  have hEvaluate : ∀ values failure,
      (listOrEmpty guidance "constraints").foldlM (evaluateRule stdev values) ([], []) =
      .error failure ↔
        evaluateConstraints stdev guidance values = .error failure := by
    intro values failure
    have hOr : listOr guidance "constraints" .constraintsNotList =
        .ok (listOrEmpty guidance "constraints") := by
      simp [listOr, hList]
    cases hLoop : (listOrEmpty guidance "constraints").foldlM (evaluateRule stdev values) ([],
      []) with
    | error e => simp [evaluateConstraints, hOr, hLoop, bind, Except.bind]
    | ok p => simp [evaluateConstraints, hOr, hLoop, bind, Except.bind, pure, Except.pure]
  constructor
  · intro hNever values hFull before rule after sofar hSplit hBefore
    have hMem : rule ∈ listOrEmpty guidance "constraints" := by
      rw [hSplit]
      simp
    have hBeforeRules : ∀ r ∈ before, isConstraint r = true := fun r hr =>
      hRules r (by rw [hSplit]; exact List.mem_append_left _ hr)
    obtain ⟨id, condition, severity, message, hId, hCondition, hIs, hRule⟩ :=
      evaluateRule_of_isConstraint (hRules rule hMem)
    have hSeen : sofar.1 = before.filterMap ruleId := seen_of_foldlM hBeforeRules hBefore
    -- whatever the rule is refused for is the failure of the whole evaluation
    have hFails : ∀ reason, evaluateRule stdev values sofar rule =
        .error (.contractEvaluationError reason) → ¬ OfGuidance stdev inputs.inputFields
          reason := by
      intro reason hError
      apply hNever values hFull
      rw [← hEvaluate, hSplit]
      exact Except.foldlM_eq_error.2 ⟨_, _, _, _, rfl, hBefore, hError⟩
    have hFresh : id ∉ before.filterMap ruleId := by
      intro hRepeated
      refine hFails (.duplicateConstraintId id) ?_ trivial
      rw [hRule, refuseIf, Except.raiseIf, if_pos (hSeen ▸ hRepeated)]
      rfl
    refine ⟨fun id' hId' => ?_, fun condition' hCondition' levels e hReaches hFault => ?_⟩
    · cases hId.symm.trans hId'
      exact hFresh
    · cases hCondition.symm.trans hCondition'
      obtain ⟨reason, hError, hReason⟩ := hFault.exists_error hFull (hReaches.passes hIs).1
      refine hFails reason ?_ hReason
      rw [hRule, refuseIf, Except.raiseIf, if_neg (hSeen ▸ hFresh)]
      show (evaluateExpression stdev values maxExpressionDepth condition >>= _) = _
      rw [hReaches.evaluate_error hError]
      rfl
  · intro hMeets values hFull reason hError hReason
    obtain ⟨before, rule, after, sofar, hSplit, hBefore, hStep⟩ :=
      Except.foldlM_eq_error.1 ((hEvaluate values _).2 hError)
    have hMem : rule ∈ listOrEmpty guidance "constraints" := by
      rw [hSplit]
      simp
    have hBeforeRules : ∀ r ∈ before, isConstraint r = true := fun r hr =>
      hRules r (by rw [hSplit]; exact List.mem_append_left _ hr)
    obtain ⟨id, condition, severity, message, hId, hCondition, hIs, hRule⟩ :=
      evaluateRule_of_isConstraint (hRules rule hMem)
    have hSeen : sofar.1 = before.filterMap ruleId := seen_of_foldlM hBeforeRules hBefore
    obtain ⟨hFresh, hNoFault⟩ := hMeets values hFull before rule after sofar hSplit hBefore
    rw [hRule, refuseIf, Except.raiseIf, if_neg (hSeen ▸ hFresh id hId)] at hStep
    cases hOutcome : evaluateExpression stdev values maxExpressionDepth condition with
    | ok fires =>
        rw [hOutcome] at hStep
        cases hStep
    | error failure =>
        rw [hOutcome] at hStep
        cases hStep
        obtain ⟨levels, e, hReaches, hEnd⟩ := exists_reaches_of_error hIs hOutcome
        apply hNoFault condition hCondition levels e hReaches
        obtain ⟨rfl, -⟩ | ⟨n, m, rfl, rfl, hComparison, hFails⟩ := hEnd
        · exact .inl rfl
        · exact isFault_of_comparison_error hFull _ hComparison (fun f hf =>
            hFields f (fields_of_rule hMem hCondition ((hReaches.passes hIs).2 f hf))) hFails
              hReason

/-! ## Samples -/

/-- The inputs of a component with one required field. -/
def sampleInputs : InputsModel :=
  { inputFields := [py "window"], requiredInputs := [py "window"], inputDefaults := [] }

/-- Guidance with one rule. -/
def sampleGuidance (condition : PyValue) : List (Option Text × PyValue) :=
  [(some (py "use_when"), .seq .list [text "a"]), (some (py "do_not_use_when"),
    .seq .list [text "b"]), (some (py "unsupported_scope"), .seq .list [text "c"]),
    (some (py "required_questions"), .seq .list []), (some (py "allowed_defaults"), .seq .list []),
    (some (py "constraints"),
    .seq .list [object [("id", text "short"), ("severity", text "blocking"),
      ("when", condition), ("message", text "too short")]]),
    (some (py "interpretation"), text "d")]

/-- A window below two, as one comparison. -/
def shortWindow : PyValue := comparison (field "window") "lt" (literal (.int 2))

/-- An assignment to the required field. -/
def sampleValues : Fields := [(py "window", .int 5)]

/-- The sample fills every input. -/
theorem full_sampleValues : Full sampleInputs.inputFields sampleValues :=
  ⟨by simp [sampleInputs, sampleValues, hasField], by simp [sampleInputs, sampleValues],
    by simp [sampleValues, isJson]⟩

/-- A rule on the length of a window never fails by itself. -/
theorem neverFailsAlone_iff_short : NeverFailsAlone (fun _ => .error (py "not asked for"))
    sampleInputs.inputFields (sampleGuidance shortWindow) := by
  refine (neverFailsAlone_iff _ sampleInputs (sampleGuidance shortWindow) (by decide)
    (by decide)).2 ?_
  intro values _ before rule after sofar hSplit _
  have hOne : [object [("id", text "short"), ("severity", text "blocking"), ("when", shortWindow),
      ("message", text "too short")]] = before ++ rule :: after := hSplit
  obtain ⟨rfl, rfl, -⟩ : before = [] ∧ object [("id", text "short"), ("severity", text "blocking"),
      ("when", shortWindow), ("message", text "too short")] = rule ∧ after = [] := by
    cases before with
    | nil => simpa [eq_comm] using hOne
    | cons r before => simp at hOne
  refine ⟨by simp, fun condition hCondition levels e hReaches hFault => ?_⟩
  have hShort : condition = shortWindow := by
    simpa [ruleCondition, object, get?, List.lookup_cons, py_beq, eq_comm] using hCondition
  subst hShort
  obtain ⟨rfl, rfl⟩ : levels = maxExpressionDepth ∧ e = shortWindow := by
    unfold shortWindow comparison object at hReaches ⊢
    cases hReaches
    exact ⟨rfl, rfl⟩
  obtain hZero | ⟨m, left, operator, right, a, b, hMapping, hLeft, hOp, hRight, -, -, hHopeless⟩ :=
    hFault
  · cases hZero
  · cases hMapping
    simp [get?, List.lookup_cons, py_beq] at hLeft hRight
    subst hLeft hRight
    have hWindow : sampleValues.lookup (py "window") = some (.int 5) := by simp [sampleValues]
    have hOperator : operator = py "lt" := by
      simpa [get?, List.lookup_cons, py_beq, text, eq_comm] using hOp
    subst hOperator
    exact hHopeless sampleValues full_sampleValues _ _ (resolveOperand_field hWindow)
      (resolveOperand_literal _) _ (compare_lt _ _ _ _)

/-- The same condition in three conjunctions passes the checks, and the evaluator refuses it. -/
theorem failsAlone_deep : ¬ ∀ (stdev : List Binary64 → Except Text Binary64) (inputs : InputsModel)
    (guidance : List (Option Text × PyValue)), isGuidance guidance = true →
      validateGuidance inputs guidance = [] → NeverFailsAlone stdev inputs.inputFields
        guidance := by
  intro h
  have hNever := h (fun _ => .error (py "not asked for")) sampleInputs
    (sampleGuidance (allOf [allOf [allOf [shortWindow]]])) (by decide) (by decide)
  exact hNever sampleValues full_sampleValues .tooDeep rfl trivial

end Authoring
