import DefinedQuant.Shared.ContractRules
import DefinedQuant.Shared.RuleLimits

/-!
# The meaning of expressions

The evaluator turns what it cannot evaluate into a `ContractEvaluationError`, with some exceptions:
an integer that does not fit a double, a failure of `statistics.stdev`, a descent into values that
is too deep, and a measure that is no text and cannot be shown. It stops at the first of them that
it gets to, and gets to a part of an expression only behind parts that came out one way.

So expressions have a meaning of their own here. `Stands` says which value an operand stands for,
`Holds` which way an expression comes out, and `Escapes` which exceptions lie on the way through it;
none of them runs the evaluator. The theorems for the evaluator then say, form by form, that it
returns what `Holds` says and raises what `Escapes` says.
-/

namespace Validation

open PyValue (OrderOp)

/-! ## Closed computations -/

section Closed

variable {α β : Type} {x : Except Raised α} {fault : Raised}

/-- The computation returns, or is refused with a `ContractEvaluationError`. -/
def Closed (x : Except Raised α) : Prop := ∀ e, x = .error e → ∃ reason,
    e = .contractEvaluationError reason

/-- An exception that the callers of the evaluator do not make a refusal of. -/
def Uncaught (fault : Raised) : Prop := ∀ reason, fault ≠ .contractEvaluationError reason

/-- A computation is closed when it raises no fault that the evaluator lets out. -/
theorem closed_iff : Closed x ↔ ∀ fault, Uncaught fault → x ≠ .error fault := by
  constructor
  · intro hClosed fault hFault h
    obtain ⟨reason, hReason⟩ := hClosed fault h
    exact hFault reason hReason
  · intro hNone e h
    by_contra hOther
    exact hNone e (fun reason hReason => hOther ⟨reason, hReason⟩) h

/-- A closed computation raises nothing that is not caught. -/
theorem Closed.ne (h : Closed x) (hFault : Uncaught fault) : x ≠ .error fault :=
  closed_iff.1 h fault hFault

/-- A value is closed. -/
theorem closed_ok (a : α) : Closed (.ok a : Except Raised α) := nofun

/-- So is a refusal of the evaluator. -/
theorem closed_refuse (reason : Reason) : Closed (refuse reason : Except Raised α) := by
  intro e h
  exact ⟨reason, (Except.error.inj h).symm⟩

/-- A computation with a known value is replaced by it. -/
theorem bind_of_ok {f : α → Except Raised β} {a : α} (h : x = .ok a) : (x >>= f) = f a := by
  rw [h]
  rfl

/-- What runs behind a computation only has to be closed for what the computation returns. -/
theorem Closed.bind {f : α → Except Raised β} (hx : Closed x) (hf : ∀ a, x = .ok a → Closed (f a)) :
    Closed (x >>= f) := by
  cases hRun : x with
  | error e =>
      intro e' h
      obtain rfl : e = e' := Except.error.inj h
      exact hx e hRun
  | ok a => exact hf a hRun

/-- Behind a closed computation an exception that is not caught comes from the rest. -/
theorem Closed.bind_eq_error {f : α → Except Raised β} (hx : Closed x) (hFault : Uncaught fault) :
    (x >>= f) = .error fault ↔ ∃ a, x = .ok a ∧ f a = .error fault := by
  rw [Except.bind_eq_error, or_iff_right (hx.ne hFault)]

/-- What is made of a returned value does not matter. -/
theorem bind_pure_eq_error {f : α → β} : (x >>= fun a => pure (f a)) = .error fault ↔
    x = .error fault := by
  rw [Except.bind_eq_error, or_iff_left]
  rintro ⟨a, -, h⟩
  cases h

/-- A guarded refusal is closed. -/
theorem closed_refuseIf {p : Prop} [Decidable p] {reason : Reason} :
    Closed (refuseIf p reason) := by
  unfold refuseIf Except.raiseIf
  split_ifs
  · exact closed_refuse reason
  · exact closed_ok ()

/-- A refusal in place of a missing value is closed. -/
theorem closed_orRefuse {reason : Reason} (x : Option α) : Closed (orRefuse reason x) := by
  cases x with
  | none => exact closed_refuse reason
  | some a => exact closed_ok a

/-- A missing value is refused, and no other. -/
theorem orRefuse_eq_ok {reason : Reason} {x : Option α} {a : α} : orRefuse reason x = .ok a ↔
    x = some a := by
  cases x with
  | none => exact iff_of_false nofun nofun
  | some b =>
      rw [orRefuse, Except.ok.injEq, Option.some.injEq]

/-- A guard passes exactly when its condition fails. -/
theorem refuseIf_eq_ok {p : Prop} [Decidable p] {reason : Reason} {u : Unit} :
    refuseIf p reason = .ok u ↔ ¬ p :=
  Except.raiseIf_eq_ok

end Closed

/-! ## Measures -/

/-- Whether `float(...)` returns for every number of a list, up to the first item that is no number:
there the conversion is refused before anything behind it is looked at. -/
def converts : List PyValue → Bool
  | .int n :: xs => (Binary64.ofInt n).isFinite && converts xs
  | .float _ :: xs => converts xs
  | _ => true

/-- The items that `all_finite` converts. -/
def measuredItems : PyValue → List PyValue
  | .seq _ xs => xs
  | value => [value]

section Measures

variable {stdev : List Binary64 → Except Text Binary64} {value : PyValue} {fault : Raised}

/-- The conversion of a list fails with an `OverflowError`, at an integer that does not fit. -/
theorem mapM_real_eq_error (measure : Text) (hFault : Uncaught fault) : ∀ {xs : List PyValue},
    xs.mapM (real measure) = .error fault ↔ converts xs = false ∧ fault = .overflowError
  | [] => iff_of_false nofun nofun
  | x :: xs => by
      have hRest : ∀ y, (do let ys ← xs.mapM (real measure); return y :: ys) = .error fault ↔
          converts xs = false ∧ fault = .overflowError :=
        fun y => bind_pure_eq_error.trans (mapM_real_eq_error measure hFault)
      -- An item that is no number is refused, and nothing behind it is converted.
      have hRefused : ∀ reason : Reason, (refuse reason >>= fun y =>
          (do let ys ← xs.mapM (real measure); return y :: ys) : Except Raised (List Binary64)) ≠
            .error fault :=
        fun reason h => hFault reason (Except.error.inj h).symm
      rw [List.mapM_cons]
      cases x with
      | int n =>
          by_cases hFinite : (Binary64.ofInt n).isFinite = true
          · rw [converts, hFinite, Bool.true_and, ← hRest (Binary64.ofInt n), real, if_pos hFinite]
            rfl
          · rw [converts, Bool.eq_false_of_not_eq_true hFinite, Bool.false_and, real,
              if_neg hFinite]
            constructor
            · exact fun h => ⟨rfl, (Except.error.inj h).symm⟩
            · rintro ⟨-, rfl⟩
              rfl
      | float x => rw [converts, ← hRest x]; rfl
      | none => exact iff_of_false (hRefused _) nofun
      | bool b => exact iff_of_false (hRefused _) nofun
      | str s => exact iff_of_false (hRefused _) nofun
      | instant t => exact iff_of_false (hRefused _) nofun
      | seq kind ys => exact iff_of_false (hRefused _) nofun
      | mapping m => exact iff_of_false (hRefused _) nofun

/-- Asking for a sequence is closed. -/
theorem closed_sequence (value : PyValue) (measure : Text) : Closed (sequence value measure) := by
  cases value with
  | seq kind xs => exact closed_ok xs
  | _ => exact closed_refuse _

/-- Only a list or a tuple is a sequence. -/
theorem sequence_eq_ok {measure : Text} {xs : List PyValue} :
    sequence value measure = .ok xs ↔ ∃ kind, value = .seq kind xs := by
  cases value with
  | seq kind ys =>
      constructor
      · rintro ⟨⟩
        exact ⟨kind, rfl⟩
      · rintro ⟨_, ⟨⟩⟩
        rfl
  | _ => exact iff_of_false nofun nofun

/-- `all_finite` converts every measured item and then asks whether each is finite. -/
theorem measureAllFinite_eq (value : PyValue) : measureAllFinite value = (do
    let numbers ← (measuredItems value).mapM (real (py "all_finite"))
    return .bool (numbers.all Binary64.isFinite)) := by
  cases value <;> rfl

/-- `all_finite` lets out the OverflowError of an integer that no double holds, and nothing else. -/
theorem measureAllFinite_eq_error (hFault : Uncaught fault) :
    measureAllFinite value = .error fault ↔
    converts (measuredItems value) = false ∧ fault = .overflowError := by
  rw [measureAllFinite_eq, bind_pure_eq_error, mapM_real_eq_error _ hFault]

/-- The exceptions of the `stdev` measure: of the conversion, and of `statistics.stdev` on two
numbers or more. -/
theorem measureStdev_eq_error (hFault : Uncaught fault) : measureStdev stdev value = .error fault ↔
    ∃ kind xs, value = .seq kind xs ∧ (converts xs = false ∧ fault = .overflowError ∨
      ∃ numbers message, xs.mapM (real (py "stdev")) = .ok numbers ∧ 2 ≤ numbers.length ∧
        stdev numbers = .error message ∧ fault = .statisticsError message) := by
  have hSequence : measureStdev stdev value = .error fault ↔ ∃ kind xs, value = .seq kind xs ∧
      (xs.mapM (real (py "stdev")) >>= fun numbers => do
        refuseIf (numbers.length < 2) .tooFewForStdev
        let result ← (stdev numbers).mapError Raised.statisticsError
        refuseIf (result.isFinite = false) .nonFiniteStdev
        return PyValue.float result) = .error fault := by
    unfold measureStdev
    rw [(closed_sequence value _).bind_eq_error hFault]
    simp only [sequence_eq_ok]
    constructor
    · rintro ⟨xs, ⟨kind, hValue⟩, h⟩
      exact ⟨kind, xs, hValue, h⟩
    · rintro ⟨kind, xs, hValue, h⟩
      exact ⟨xs, ⟨kind, hValue⟩, h⟩
  rw [hSequence]
  refine exists_congr (fun kind => exists_congr (fun xs => and_congr_right (fun _ => ?_)))
  rw [Except.bind_eq_error, mapM_real_eq_error _ hFault]
  refine or_congr_right ?_
  simp only [closed_refuseIf.bind_eq_error hFault, refuseIf_eq_ok, not_lt]
  constructor
  · rintro ⟨numbers, hNumbers, -, hEnough, h⟩
    cases hStdev : stdev numbers with
    | error message =>
        rw [hStdev] at h
        exact ⟨numbers, message, hNumbers, hEnough, hStdev, (Except.error.inj h).symm⟩
    | ok result =>
        rw [hStdev] at h
        exact absurd h ((closed_refuseIf.bind (fun _ _ => closed_ok _)).ne hFault)
  · rintro ⟨numbers, message, hNumbers, hEnough, hStdev, rfl⟩
    exact ⟨numbers, hNumbers, (), hEnough, by rw [hStdev]; rfl⟩

/-- `min` and `max` are closed. -/
theorem closed_measureExtreme (op : OrderOp) (measure : Text) (value : PyValue) :
    Closed (measureExtreme op measure value) := by
  refine (closed_sequence value measure).bind (fun values _ => ?_)
  cases values with
  | nil => exact closed_refuse _
  | cons x xs => exact closed_orRefuse _

/-- Every measure but the two that convert numbers is closed. -/
theorem closed_measure {measure : Text} {apply : PyValue → Except Raised PyValue}
    (hApply : (measures stdev).lookup measure = some apply) (hFinite : measure ≠ py "all_finite")
    (hStdev : measure ≠ py "stdev") : Closed (apply value) := by
  obtain ⟨before, after, hMeasures, -⟩ := List.lookup_eq_some_iff.1 hApply
  have hMem : (measure, apply) ∈ measures stdev := by
    rw [hMeasures]
    simp
  simp only [measures, List.mem_cons, List.not_mem_nil, or_false, Prod.mk.injEq] at hMem
  rcases hMem with ⟨-, rfl⟩ | ⟨-, rfl⟩ | ⟨rfl, -⟩ | ⟨-, rfl⟩ | ⟨-, rfl⟩ | ⟨rfl, -⟩ | ⟨-, rfl⟩ |
    ⟨-, rfl⟩ | ⟨-, rfl⟩ | ⟨-, rfl⟩
  · exact closed_ok value
  · unfold measureCount
    split
    · exact closed_ok _
    · exact closed_ok _
    · exact closed_refuse _
  · exact absurd rfl hStdev
  · exact closed_measureExtreme _ _ value
  · exact closed_measureExtreme _ _ value
  · exact absurd rfl hFinite
  · exact (closed_sequence value _).bind (fun _ _ => closed_ok _)
  · exact (closed_sequence value _).bind (fun _ _ => closed_ok _)
  · refine (closed_sequence value _).bind (fun values _ => ?_)
    split
    · exact closed_ok _
    · exact closed_ok _
  · exact (closed_sequence value _).bind (fun _ _ => (closed_orRefuse _).bind
      (fun _ _ => closed_ok _))

/-- The measure registered as `stdev`. -/
theorem measures_stdev : (measures stdev).lookup (py "stdev") = some (measureStdev stdev) := by
  simp [measures, List.lookup_cons, py_beq]

/-- The measures that compare items are measures. -/
theorem exists_lookup_of_mem {measure : Text} (h : measure ∈ comparingMeasures) :
    ∃ apply, (measures stdev).lookup measure = some apply := by
  simp only [comparingMeasures, List.mem_cons, List.not_mem_nil, or_false] at h
  rcases h with rfl | rfl | rfl | rfl <;> simp [measures, List.lookup_cons, py_beq]

end Measures

/-! ## What is written

How an operand and an expression are written does not depend on the values, and what is not written
in one of these ways is refused.
-/

/-- An operand: a literal, or a field with the measure that is taken of it. -/
inductive Operand where
  | literal (value : PyValue)
  | field (field measure : PyValue)

/-- An operand as it is written. -/
def readOperand (operand : PyValue) : Except Raised Operand := do
  let m ← textMapping operand .operandNotObject
  match PyValue.get? m "value", PyValue.get? m "field" with
  | some value, none =>
      refuseIf (PyValue.keysAre m ["value"] = false) .literalKeys
      return .literal value
  | none, some field =>
      refuseIf (¬ ∀ p ∈ m, p.1 ∈ [some (py "field"), some (py "measure")]) .unknownOperandKeys
      return .field field ((PyValue.get? m "measure").getD (.str (py "identity")))
  | _, _ => refuse .operandAmbiguous

/-- An expression: a branch, or a comparison of two operands. -/
inductive Form where
  | all (children : List PyValue)
  | any (children : List PyValue)
  | comparison (left : PyValue) (operator : Text) (right : PyValue)

/-- The operands of a comparison as it is written. -/
def readComparison (m : List (Option Text × PyValue)) : Except Raised Form :=
  match PyValue.get? m "left", PyValue.get? m "op", PyValue.get? m "right" with
  | some left, some operator, some right => do
      refuseIf (PyValue.keysAre m ["left", "op", "right"] = false) .comparisonKeys
      match operator with
      | .str name => return .comparison left name right
      | _ => refuse .operatorNotText
  | _, _, _ => refuse .comparisonKeys

/-- An expression as it is written. -/
def readExpression (expression : PyValue) : Except Raised Form := do
  let m ← textMapping expression .expressionNotObject
  if PyValue.keysAre m ["all"] then
    return .all (← branchChildren (py "all") ((PyValue.get? m "all").getD .none))
  else if PyValue.keysAre m ["any"] then
    return .any (← branchChildren (py "any") ((PyValue.get? m "any").getD .none))
  else readComparison m

/-- Reading a mapping is closed. -/
theorem closed_textMapping (value : PyValue) (reason : Reason) :
    Closed (textMapping value reason) := by
  unfold textMapping
  split
  · split_ifs
    · exact closed_ok _
    · exact closed_refuse _
  · exact closed_refuse _

/-- Reading the children of a branch is closed. -/
theorem closed_branchChildren (branch : Text) (children : PyValue) :
    Closed (branchChildren branch children) := by
  unfold branchChildren
  split
  · exact closed_ok _
  · exact closed_refuse _

/-- Reading an operand is closed. -/
theorem closed_readOperand (operand : PyValue) : Closed (readOperand operand) := by
  refine (closed_textMapping operand _).bind (fun m _ => ?_)
  split
  · exact closed_refuseIf.bind (fun _ _ => closed_ok _)
  · exact closed_refuseIf.bind (fun _ _ => closed_ok _)
  · exact closed_refuse _

/-- Reading a comparison is closed. -/
theorem closed_readComparison (m : List (Option Text × PyValue)) : Closed (readComparison m) := by
  unfold readComparison
  split
  · refine closed_refuseIf.bind (fun _ _ => ?_)
    split
    · exact closed_ok _
    · exact closed_refuse _
  · exact closed_refuse _

/-- Reading an expression is closed. -/
theorem closed_readExpression (expression : PyValue) : Closed (readExpression expression) := by
  refine (closed_textMapping expression _).bind (fun m _ => ?_)
  split_ifs
  · exact (closed_branchChildren _ _).bind (fun _ _ => closed_ok _)
  · exact (closed_branchChildren _ _).bind (fun _ _ => closed_ok _)
  · exact closed_readComparison m

section Evaluator

variable (interpreter : Interpreter) (values : Fields)

/-! ## What it means -/

/-- The value that an operand stands for. -/
inductive Stands : PyValue → PyValue → Prop where
  | literal {operand value : PyValue} (hOperand : readOperand operand = .ok (.literal value)) :
    Stands operand value
  | measured {operand value result : PyValue} {field measure : Text} {apply : PyValue →
    Except Raised PyValue}
      (hOperand : readOperand operand = .ok (.field (.str field) (.str measure)))
      (hField : values.lookup field = some value)
      (hMeasure : (measures interpreter.stdev).lookup measure = some apply)
      (hShallow : measure ∈ comparingMeasures →
        interpreter.overflows (.measured field measure value) = false)
      (hResult : apply value = .ok result) : Stands operand result

/-- The exceptions of a measure of a field: a number that does not fit a double, `statistics.stdev`,
and items that are nested too deep to be compared. -/
inductive MeasureEscapes (field : Text) (value : PyValue) : Text → Raised → Prop where
  | finite (hConverts : converts (measuredItems value) = false) :
      MeasureEscapes field value (py "all_finite") .overflowError
  | converted {kind : Json.SeqKind} {xs : List PyValue} (hValue : value = .seq kind xs)
      (hConverts : converts xs = false) : MeasureEscapes field value (py "stdev") .overflowError
  | stdev {kind : Json.SeqKind} {xs : List PyValue} {numbers : List Binary64} {message : Text}
      (hValue : value = .seq kind xs) (hNumbers : xs.mapM (real (py "stdev")) = .ok numbers)
      (hEnough : 2 ≤ numbers.length) (hStdev : interpreter.stdev numbers = .error message) :
      MeasureEscapes field value (py "stdev") (.statisticsError message)
  | deep {measure : Text} (hMeasure : measure ∈ comparingMeasures)
      (hDeep : interpreter.overflows (.measured field measure value) = true) :
      MeasureEscapes field value measure .recursionError

/-- The exceptions of an operand: those of its measure, and of showing one that is no text. -/
inductive OperandEscapes : PyValue → Raised → Prop where
  | measure {operand value : PyValue} {field measure : Text} {fault : Raised}
      (hOperand : readOperand operand = .ok (.field (.str field) (.str measure)))
      (hField : values.lookup field = some value)
      (hMeasure : MeasureEscapes interpreter field value measure fault) :
      OperandEscapes operand fault
  | deep {operand value measure : PyValue} {field : Text}
      (hOperand : readOperand operand = .ok (.field (.str field) measure))
      (hField : values.lookup field = some value) (hText : ∀ s, measure ≠ .str s)
      (hDeep : interpreter.overflows (.shown measure) = true) :
      OperandEscapes operand .recursionError
  | digits {operand value measure : PyValue} {field : Text}
      (hOperand : readOperand operand = .ok (.field (.str field) measure))
      (hField : values.lookup field = some value) (hText : ∀ s, measure ≠ .str s)
      (hShallow : interpreter.overflows (.shown measure) = false)
      (hDigits : shown measure = false) :
      OperandEscapes operand .valueError

/-- The comparison of two values goes down deeper than the stack allows. -/
def TooDeep (operator : Text) (left right leftOperand rightOperand : PyValue) : Prop :=
  comparesOperands operator right = true ∧
    interpreter.overflows (.compared operator left right leftOperand rightOperand) = true

/-- Which way an expression comes out, within some levels. -/
inductive Holds : ℕ → PyValue → Bool → Prop where
  | comparison {levels : ℕ} {expression leftOperand rightOperand left right : PyValue}
    {operator : Text} {b : Bool}
      (hForm : readExpression expression = .ok (.comparison leftOperand operator rightOperand))
      (hLeft : Stands interpreter values leftOperand left)
      (hRight : Stands interpreter values rightOperand right)
      (hShallow : ¬ TooDeep interpreter operator left right leftOperand rightOperand)
      (hCompare : compare operator left right leftOperand rightOperand = .ok b) :
      Holds (levels + 1) expression b
  | all {levels : ℕ} {expression : PyValue} {children : List PyValue}
      (hForm : readExpression expression = .ok (.all children))
      (hChildren : ∀ child ∈ children, Holds levels child true) : Holds (levels + 1) expression true
  | notAll {levels : ℕ} {expression child : PyValue} {before after : List PyValue}
      (hForm : readExpression expression = .ok (.all (before ++ child :: after)))
      (hBefore : ∀ c ∈ before, Holds levels c true) (hChild : Holds levels child false) :
      Holds (levels + 1) expression false
  | any {levels : ℕ} {expression child : PyValue} {before after : List PyValue}
      (hForm : readExpression expression = .ok (.any (before ++ child :: after)))
      (hBefore : ∀ c ∈ before, Holds levels c false) (hChild : Holds levels child true) :
      Holds (levels + 1) expression true
  | notAny {levels : ℕ} {expression : PyValue} {children : List PyValue}
      (hForm : readExpression expression = .ok (.any children))
      (hChildren : ∀ child ∈ children, Holds levels child false) :
      Holds (levels + 1) expression false

/-- The exceptions that lie on the way through an expression: in its operands, in the comparison of
their values, and in a child behind children that leave the branch open. -/
inductive Escapes : ℕ → PyValue → Raised → Prop where
  | left {levels : ℕ} {expression leftOperand rightOperand : PyValue} {operator : Text}
    {fault : Raised}
      (hForm : readExpression expression = .ok (.comparison leftOperand operator rightOperand))
      (hOperand : OperandEscapes interpreter values leftOperand fault) :
      Escapes (levels + 1) expression fault
  | right {levels : ℕ} {expression leftOperand rightOperand left : PyValue} {operator : Text}
    {fault : Raised}
      (hForm : readExpression expression = .ok (.comparison leftOperand operator rightOperand))
      (hLeft : Stands interpreter values leftOperand left)
      (hOperand : OperandEscapes interpreter values rightOperand fault) :
      Escapes (levels + 1) expression fault
  | deep {levels : ℕ} {expression leftOperand rightOperand left right : PyValue} {operator : Text}
      (hForm : readExpression expression = .ok (.comparison leftOperand operator rightOperand))
      (hLeft : Stands interpreter values leftOperand left)
      (hRight : Stands interpreter values rightOperand right)
      (hDeep : TooDeep interpreter operator left right leftOperand rightOperand) :
      Escapes (levels + 1) expression .recursionError
  | all {levels : ℕ} {expression child : PyValue} {before after : List PyValue} {fault : Raised}
      (hForm : readExpression expression = .ok (.all (before ++ child :: after)))
      (hBefore : ∀ c ∈ before, Holds interpreter values levels c true)
      (hChild : Escapes levels child fault) :
      Escapes (levels + 1) expression fault
  | any {levels : ℕ} {expression child : PyValue} {before after : List PyValue} {fault : Raised}
      (hForm : readExpression expression = .ok (.any (before ++ child :: after)))
      (hBefore : ∀ c ∈ before, Holds interpreter values levels c false)
      (hChild : Escapes levels child fault) :
      Escapes (levels + 1) expression fault

/-! ## Operands -/

section Operands

variable {interpreter values} {fault : Raised}

/-- The value of an operand, as it is written. -/
def Operand.resolve (interpreter : Interpreter) (values : Fields) : Operand → Except Raised PyValue
  | .literal value => .ok value
  | .field name measure => resolveFieldWithin interpreter values name measure

/-- An operand is read, and then resolved. -/
theorem resolveOperandWithin_eq (operand : PyValue) :
    resolveOperandWithin interpreter values operand =
    readOperand operand >>= Operand.resolve interpreter values := by
  unfold resolveOperandWithin readOperand
  rw [bind_assoc]
  refine bind_congr (fun m => ?_)
  cases PyValue.get? m "value" with
  | some value =>
      cases PyValue.get? m "field" with
      | some field => rfl
      | none =>
          simp only [bind_assoc]
          rfl
  | none =>
      cases PyValue.get? m "field" with
      | some field =>
          simp only [bind_assoc]
          rfl
      | none => rfl

/-- A descent within the limit gives the value of what it descends into. -/
theorem descend_eq_ok {α : Type} {descent : Descent} {x : Except Raised α} {a : α} :
    interpreter.descend descent x = .ok a ↔ interpreter.overflows descent = false ∧ x = .ok a := by
  unfold Interpreter.descend
  cases interpreter.overflows descent with
  | true => exact iff_of_false nofun nofun
  | false => exact (and_iff_right rfl).symm

/-- A descent raises when it overflows, or what it descends into raises. -/
theorem descend_eq_error {α : Type} {descent : Descent} {x : Except Raised α} :
    interpreter.descend descent x = .error fault ↔ interpreter.overflows descent = true ∧
      fault = .recursionError ∨
      interpreter.overflows descent = false ∧ x = .error fault := by
  unfold Interpreter.descend
  cases interpreter.overflows descent with
  | true => simp [eq_comm]
  | false => simp

/-- What a measure of a field returns. -/
theorem measureWithin_eq_ok {field measure : Text} {apply : PyValue → Except Raised PyValue}
    {value result : PyValue} :
    measureWithin interpreter field measure apply value = .ok result ↔
      (measure ∈ comparingMeasures → interpreter.overflows (.measured field measure value) =
        false) ∧
        apply value = .ok result := by
  unfold measureWithin
  split_ifs with hMeasure
  · rw [descend_eq_ok, forall_prop_of_true hMeasure]
  · rw [forall_prop_of_false hMeasure, true_and]

/-- Only a measure raises as one. -/
theorem MeasureEscapes.exists_lookup {field measure : Text} {value : PyValue}
    (h : MeasureEscapes interpreter field value measure fault) :
    ∃ apply, (measures interpreter.stdev).lookup measure = some apply := by
  cases h with
  | finite => exact ⟨_, measures_all_finite⟩
  | converted => exact ⟨_, measures_stdev⟩
  | stdev => exact ⟨_, measures_stdev⟩
  | deep hMeasure => exact exists_lookup_of_mem hMeasure

/-- What a measure of a field raises. -/
theorem measureWithin_eq_error {field measure : Text} {apply : PyValue → Except Raised PyValue}
    {value : PyValue}
    (hApply : (measures interpreter.stdev).lookup measure = some apply) (hFault : Uncaught fault) :
    measureWithin interpreter field measure apply value = .error fault ↔
      MeasureEscapes interpreter field value measure fault := by
  have hFinite : py "all_finite" ∉ comparingMeasures := by simp [comparingMeasures]
  have hStdev : py "stdev" ∉ comparingMeasures := by simp [comparingMeasures]
  constructor
  -- Three measures can let a fault out: a comparing one that goes too deep, `all_finite` and
  -- `stdev`. The others are closed.
  · intro h
    unfold measureWithin at h
    split_ifs at h with hMeasure
    · rcases descend_eq_error.1 h with ⟨hDeep, rfl⟩ | ⟨-, hError⟩
      · exact .deep hMeasure hDeep
      · have hClosed : Closed (apply value) := by
          refine closed_measure hApply ?_ ?_
          · rintro rfl
            exact hFinite hMeasure
          · rintro rfl
            exact hStdev hMeasure
        exact absurd hError (hClosed.ne hFault)
    · by_cases hOne : measure = py "all_finite"
      · subst hOne
        rw [measures_all_finite] at hApply
        cases hApply
        obtain ⟨hConverts, rfl⟩ := (measureAllFinite_eq_error hFault).1 h
        exact .finite hConverts
      · by_cases hOther : measure = py "stdev"
        · subst hOther
          rw [measures_stdev] at hApply
          cases hApply
          obtain ⟨kind, xs, hValue, ⟨hConverts, rfl⟩ | ⟨numbers, message, hNumbers, hEnough, hError,
            rfl⟩⟩ :=
            (measureStdev_eq_error hFault).1 h
          · exact .converted hValue hConverts
          · exact .stdev hValue hNumbers hEnough hError
        · exact absurd h ((closed_measure hApply hOne hOther).ne hFault)
  · intro h
    cases h with
    | finite hConverts =>
        rw [measures_all_finite] at hApply
        cases hApply
        rw [measureWithin, if_neg hFinite]
        exact (measureAllFinite_eq_error hFault).2 ⟨hConverts, rfl⟩
    | converted hValue hConverts =>
        rw [measures_stdev] at hApply
        cases hApply
        rw [measureWithin, if_neg hStdev]
        exact (measureStdev_eq_error hFault).2 ⟨_, _, hValue, .inl ⟨hConverts, rfl⟩⟩
    | stdev hValue hNumbers hEnough hError =>
        rw [measures_stdev] at hApply
        cases hApply
        rw [measureWithin, if_neg hStdev]
        exact (measureStdev_eq_error hFault).2 ⟨_, _, hValue, .inr ⟨_, _, hNumbers, hEnough,
          hError, rfl⟩⟩
    | deep hMeasure hDeep =>
        rw [measureWithin, if_pos hMeasure]
        exact descend_eq_error.2 (.inl ⟨hDeep, rfl⟩)

/-- An operand is resolved to the value that it stands for. -/
theorem resolveOperandWithin_eq_ok {operand value : PyValue} :
    resolveOperandWithin interpreter values operand = .ok value ↔ Stands interpreter values operand
      value := by
  rw [resolveOperandWithin_eq, Except.bind_eq_ok]
  constructor
  · rintro ⟨form, hForm, h⟩
    rcases form with literal | ⟨name, measure⟩
    · cases h
      exact .literal hForm
    · replace h : resolveFieldWithin interpreter values name measure = .ok value := h
      unfold resolveFieldWithin at h
      split at h
      · split at h
        · cases h
        · next hField =>
            split at h
            · split at h
              · cases h
              · next hMeasure =>
                  obtain ⟨hShallow, hResult⟩ := measureWithin_eq_ok.1 h
                  exact .measured hForm hField hMeasure hShallow hResult
            · -- A measure that is no text never has a value: it is shown in the message.
              obtain ⟨-, hRefused⟩ := descend_eq_ok.1 h
              split_ifs at hRefused
              cases hRefused
      · cases h
  · intro h
    cases h with
    | literal hOperand => exact ⟨_, hOperand, rfl⟩
    | measured hOperand hField hMeasure hShallow hResult =>
        refine ⟨_, hOperand, ?_⟩
        simp only [Operand.resolve, resolveFieldWithin, hField, hMeasure]
        exact measureWithin_eq_ok.2 ⟨hShallow, hResult⟩

/-- Resolving an operand raises what escapes from it. -/
theorem resolveOperandWithin_eq_error {operand : PyValue} (hFault : Uncaught fault) :
    resolveOperandWithin interpreter values operand = .error fault ↔
      OperandEscapes interpreter values operand fault := by
  rw [resolveOperandWithin_eq, (closed_readOperand operand).bind_eq_error hFault]
  -- A literal raises nothing. A field raises what its measure raises, or what showing an unknown
  -- measure does.
  constructor
  · rintro ⟨form, hForm, h⟩
    rcases form with literal | ⟨name, measure⟩
    · cases h
    · replace h : resolveFieldWithin interpreter values name measure = .error fault := h
      unfold resolveFieldWithin at h
      split at h
      · split at h
        · exact absurd h ((closed_refuse _).ne hFault)
        · next hField =>
            split at h
            · split at h
              · exact absurd h ((closed_refuse _).ne hFault)
              · next hMeasure => exact .measure hForm hField ((measureWithin_eq_error hMeasure hFault).1 h)
            · next hText =>
                rcases descend_eq_error.1 h with ⟨hDeep, rfl⟩ | ⟨hShallow, hShown⟩
                · exact .deep hForm hField hText hDeep
                · split_ifs at hShown with hDigits
                  · exact absurd hShown ((closed_refuse _).ne hFault)
                  · cases hShown
                    exact .digits hForm hField hText hShallow (Bool.eq_false_of_not_eq_true hDigits)
      · exact absurd h ((closed_refuse _).ne hFault)
  -- A measure that is no text is only shown, to be refused.
  · have hOther : ∀ {name : Text} {value measure : PyValue}, values.lookup name = some value →
        (∀ s, measure ≠ .str s) → resolveFieldWithin interpreter values (.str name) measure =
          interpreter.descend (.shown measure)
            (if shown measure then refuse (.unknownMeasure measure) else .error .valueError) := by
      intro name value measure hField hText
      cases measure with
      | str s => exact absurd rfl (hText s)
      | _ => simp only [resolveFieldWithin, hField]
    intro h
    cases h with
    | measure hOperand hField hMeasure =>
        obtain ⟨apply, hApply⟩ := hMeasure.exists_lookup
        refine ⟨_, hOperand, ?_⟩
        simp only [Operand.resolve, resolveFieldWithin, hField, hApply]
        exact (measureWithin_eq_error hApply hFault).2 hMeasure
    | deep hOperand hField hText hDeep =>
        refine ⟨_, hOperand, (hOther hField hText).trans ?_⟩
        exact descend_eq_error.2 (.inl ⟨hDeep, rfl⟩)
    | digits hOperand hField hText hShallow hDigits =>
        refine ⟨_, hOperand, (hOther hField hText).trans ?_⟩
        refine descend_eq_error.2 (.inr ⟨hShallow, ?_⟩)
        rw [hDigits, if_neg Bool.false_ne_true]

/-- What escapes from an operand is not caught by the evaluator. -/
theorem OperandEscapes.uncaught {operand : PyValue}
    (h : OperandEscapes interpreter values operand fault) :
    Uncaught fault := by
  cases h with
  | measure _ _ hMeasure => cases hMeasure <;> exact nofun
  | deep => exact nofun
  | digits => exact nofun

end Operands

/-! ## Expressions -/

section Expressions

variable {interpreter values} {fault : Raised}

/-- The outcome of an expression, as it is written. -/
def Form.evaluate (interpreter : Interpreter) (values : Fields) (levels : ℕ) :
    Form → Except Raised Bool
  | .all children => children.allM (evaluateExpressionWithin interpreter values levels)
  | .any children => children.anyM (evaluateExpressionWithin interpreter values levels)
  | .comparison leftOperand operator rightOperand => do
      let left ← resolveOperandWithin interpreter values leftOperand
      let right ← resolveOperandWithin interpreter values rightOperand
      compareWithin interpreter operator left right leftOperand rightOperand

/-- A comparison is read first and evaluated then. -/
theorem evaluateComparisonWithin_eq (levels : ℕ) (m : List (Option Text × PyValue)) :
    evaluateComparisonWithin interpreter values m =
      readComparison m >>= Form.evaluate interpreter values levels := by
  unfold evaluateComparisonWithin readComparison
  cases PyValue.get? m "left" with
  | none => rfl
  | some left =>
      cases PyValue.get? m "op" with
      | none => rfl
      | some operator =>
          cases PyValue.get? m "right" with
          | none => rfl
          | some right =>
              simp only [bind_assoc]
              refine bind_congr (fun _ => ?_)
              cases operator <;> rfl

/-- An expression is read, and then evaluated. -/
theorem evaluateExpressionWithin_eq (levels : ℕ) (expression : PyValue) :
    evaluateExpressionWithin interpreter values (levels + 1) expression =
      readExpression expression >>= Form.evaluate interpreter values levels := by
  unfold evaluateExpressionWithin readExpression
  rw [bind_assoc]
  refine bind_congr (fun m => ?_)
  split_ifs
  · rw [bind_assoc]
    rfl
  · rw [bind_assoc]
    rfl
  · exact evaluateComparisonWithin_eq levels m

/-- Comparing or showing a value that is nested too deep raises RecursionError. -/
theorem compareWithin_of_tooDeep {operator : Text} {left right leftOperand rightOperand : PyValue}
    (h : TooDeep interpreter operator left right leftOperand rightOperand) :
    compareWithin interpreter operator left right leftOperand rightOperand =
      .error .recursionError := by
  rw [compareWithin, if_pos h.1, Interpreter.descend, if_pos h.2]

/-- A comparison that is not too deep is the plain one. -/
theorem compareWithin_of_not_tooDeep {operator : Text}
    {left right leftOperand rightOperand : PyValue}
    (h : ¬ TooDeep interpreter operator left right leftOperand rightOperand) :
    compareWithin interpreter operator left right leftOperand rightOperand =
      compare operator left right leftOperand rightOperand := by
  unfold compareWithin Interpreter.descend
  split_ifs with hCompares hDeep
  · exact absurd ⟨hCompares, hDeep⟩ h
  · rfl
  · rfl

/-- The comparison itself, apart from its depth, is closed. -/
theorem closed_compare (operator : Text) (left right leftOperand rightOperand : PyValue) :
    Closed (compare operator left right leftOperand rightOperand) := by
  unfold compare
  split
  · exact closed_orRefuse _
  · split_ifs
    · exact closed_ok _
    · exact closed_ok _
    · split
      · exact closed_ok _
      · exact closed_refuse _
    · exact closed_refuse _

/-- A comparison within the limit answers as the comparison without one. -/
theorem compareWithin_eq_ok {operator : Text} {left right leftOperand rightOperand : PyValue}
    {b : Bool} :
    compareWithin interpreter operator left right leftOperand rightOperand = .ok b ↔
      ¬ TooDeep interpreter operator left right leftOperand rightOperand ∧
        compare operator left right leftOperand rightOperand = .ok b := by
  by_cases hDeep : TooDeep interpreter operator left right leftOperand rightOperand
  · rw [compareWithin_of_tooDeep hDeep]
    exact iff_of_false nofun (fun h => h.1 hDeep)
  · rw [compareWithin_of_not_tooDeep hDeep, and_iff_right hDeep]

/-- A comparison lets out RecursionError when it is too deep, and nothing else. -/
theorem compareWithin_eq_error {operator : Text} {left right leftOperand rightOperand : PyValue}
    (hFault : Uncaught fault) :
    compareWithin interpreter operator left right leftOperand rightOperand = .error fault ↔
      TooDeep interpreter operator left right leftOperand rightOperand ∧
        fault = .recursionError := by
  by_cases hDeep : TooDeep interpreter operator left right leftOperand rightOperand
  · rw [compareWithin_of_tooDeep hDeep, and_iff_right hDeep]
    exact ⟨fun h => (Except.error.inj h).symm, fun h => h ▸ rfl⟩
  · rw [compareWithin_of_not_tooDeep hDeep]
    exact iff_of_false ((closed_compare _ _ _ _ _).ne hFault) (fun h => hDeep h.1)

/-- An expression evaluates to the way that it comes out, by induction on the levels that are left. -/
theorem evaluateExpressionWithin_eq_ok : ∀ {levels : ℕ} {expression : PyValue} {b : Bool},
    evaluateExpressionWithin interpreter values levels expression = .ok b ↔
      Holds interpreter values levels expression b
  | 0, _, _ => iff_of_false nofun nofun
  | levels + 1, expression, b => by
      rw [evaluateExpressionWithin_eq, Except.bind_eq_ok]
      constructor
      · rintro ⟨form, hForm, h⟩
        -- Along the three forms of a condition. `all` stops at the first false child and `any` at
        -- the first true one, so that the children behind are not evaluated.
        cases form with
        | all children =>
            cases b with
            | true => exact .all hForm (fun c hc => evaluateExpressionWithin_eq_ok.1
              (Except.allM_eq_true.1 h c hc))
            | false =>
                obtain ⟨before, child, after, rfl, hBefore, hChild⟩ :=
                  (Except.allM_stops (by simp)).1 h
                exact .notAll hForm (fun c hc => evaluateExpressionWithin_eq_ok.1 (hBefore c hc))
                  (evaluateExpressionWithin_eq_ok.1 hChild)
        | any children =>
            cases b with
            | true =>
                obtain ⟨before, child, after, rfl, hBefore, hChild⟩ :=
                  (Except.anyM_stops (by simp)).1 h
                exact .any hForm (fun c hc => evaluateExpressionWithin_eq_ok.1 (hBefore c hc))
                  (evaluateExpressionWithin_eq_ok.1 hChild)
            | false =>
                exact .notAny hForm (fun c hc => evaluateExpressionWithin_eq_ok.1
                  (Except.anyM_eq_false.1 h c hc))
        | comparison leftOperand operator rightOperand =>
            obtain ⟨left, hLeft, hRest⟩ := Except.bind_eq_ok.1 h
            obtain ⟨right, hRight, hCompare⟩ := Except.bind_eq_ok.1 hRest
            obtain ⟨hShallow, hOutcome⟩ := compareWithin_eq_ok.1 hCompare
            exact .comparison hForm (resolveOperandWithin_eq_ok.1 hLeft)
              (resolveOperandWithin_eq_ok.1 hRight)
              hShallow hOutcome
      · intro h
        cases h with
        | comparison hForm hLeft hRight hShallow hCompare =>
            refine ⟨_, hForm, Except.bind_eq_ok.2 ⟨_, resolveOperandWithin_eq_ok.2 hLeft, ?_⟩⟩
            refine Except.bind_eq_ok.2 ⟨_, resolveOperandWithin_eq_ok.2 hRight, ?_⟩
            exact compareWithin_eq_ok.2 ⟨hShallow, hCompare⟩
        | all hForm hChildren =>
            exact ⟨_, hForm, Except.allM_eq_true.2 (fun c hc => evaluateExpressionWithin_eq_ok.2
              (hChildren c hc))⟩
        | notAll hForm hBefore hChild =>
            exact ⟨_, hForm, (Except.allM_stops (by simp)).2 ⟨_, _, _, rfl,
              fun c hc => evaluateExpressionWithin_eq_ok.2 (hBefore c hc),
              evaluateExpressionWithin_eq_ok.2 hChild⟩⟩
        | any hForm hBefore hChild =>
            exact ⟨_, hForm, (Except.anyM_stops (by simp)).2 ⟨_, _, _, rfl,
              fun c hc => evaluateExpressionWithin_eq_ok.2 (hBefore c hc),
              evaluateExpressionWithin_eq_ok.2 hChild⟩⟩
        | notAny hForm hChildren =>
            exact ⟨_, hForm, Except.anyM_eq_false.2 (fun c hc => evaluateExpressionWithin_eq_ok.2
              (hChildren c hc))⟩

/-- The evaluation raises what lies on the way, by induction on the levels that are left. -/
theorem evaluateExpressionWithin_eq_error (hFault : Uncaught fault) :
    ∀ {levels : ℕ} {expression : PyValue},
    evaluateExpressionWithin interpreter values levels expression = .error fault ↔
      Escapes interpreter values levels expression fault
  | 0, _ => iff_of_false ((closed_refuse _).ne hFault) nofun
  | levels + 1, expression => by
      rw [evaluateExpressionWithin_eq, (closed_readExpression expression).bind_eq_error hFault]
      constructor
      · rintro ⟨form, hForm, h⟩
        -- A fault stops the evaluation as well: what stood before it was evaluated without one.
        cases form with
        | all children =>
            obtain ⟨before, child, after, rfl, hBefore, hChild⟩ := (Except.allM_stops (by simp)).1 h
            exact .all hForm (fun c hc => evaluateExpressionWithin_eq_ok.1 (hBefore c hc))
              ((evaluateExpressionWithin_eq_error hFault).1 hChild)
        | any children =>
            obtain ⟨before, child, after, rfl, hBefore, hChild⟩ := (Except.anyM_stops (by simp)).1 h
            exact .any hForm (fun c hc => evaluateExpressionWithin_eq_ok.1 (hBefore c hc))
              ((evaluateExpressionWithin_eq_error hFault).1 hChild)
        | comparison leftOperand operator rightOperand =>
            rcases Except.bind_eq_error.1 h with hLeft | ⟨left, hLeft, hRest⟩
            · exact .left hForm ((resolveOperandWithin_eq_error hFault).1 hLeft)
            · rcases Except.bind_eq_error.1 hRest with hRight | ⟨right, hRight, hCompare⟩
              · exact .right hForm (resolveOperandWithin_eq_ok.1 hLeft)
                  ((resolveOperandWithin_eq_error hFault).1 hRight)
              · obtain ⟨hDeep, rfl⟩ := (compareWithin_eq_error hFault).1 hCompare
                exact .deep hForm (resolveOperandWithin_eq_ok.1 hLeft)
                  (resolveOperandWithin_eq_ok.1 hRight) hDeep
      · intro h
        cases h with
        | left hForm hOperand =>
            exact ⟨_, hForm,
              Except.bind_eq_error.2 (.inl ((resolveOperandWithin_eq_error hFault).2 hOperand))⟩
        | right hForm hLeft hOperand =>
            refine ⟨_, hForm,
              Except.bind_eq_error.2 (.inr ⟨_, resolveOperandWithin_eq_ok.2 hLeft, ?_⟩)⟩
            exact Except.bind_eq_error.2 (.inl ((resolveOperandWithin_eq_error hFault).2 hOperand))
        | deep hForm hLeft hRight hDeep =>
            refine ⟨_, hForm,
              Except.bind_eq_error.2 (.inr ⟨_, resolveOperandWithin_eq_ok.2 hLeft, ?_⟩)⟩
            refine Except.bind_eq_error.2 (.inr ⟨_, resolveOperandWithin_eq_ok.2 hRight, ?_⟩)
            exact (compareWithin_eq_error hFault).2 ⟨hDeep, rfl⟩
        | all hForm hBefore hChild =>
            exact ⟨_, hForm, (Except.allM_stops (by simp)).2 ⟨_, _, _, rfl,
              fun c hc => evaluateExpressionWithin_eq_ok.2 (hBefore c hc),
              (evaluateExpressionWithin_eq_error hFault).2 hChild⟩⟩
        | any hForm hBefore hChild =>
            exact ⟨_, hForm, (Except.anyM_stops (by simp)).2 ⟨_, _, _, rfl,
              fun c hc => evaluateExpressionWithin_eq_ok.2 (hBefore c hc),
              (evaluateExpressionWithin_eq_error hFault).2 hChild⟩⟩

/-- Only exceptions that are not caught escape. -/
theorem Escapes.uncaught {levels : ℕ} {expression : PyValue}
    (h : Escapes interpreter values levels expression fault) :
    Uncaught fault := by
  induction h with
  | left _ hOperand => exact hOperand.uncaught
  | right _ _ hOperand => exact hOperand.uncaught
  | deep => exact nofun
  | all _ _ _ ih => exact ih
  | any _ _ _ ih => exact ih

end Expressions

end Evaluator

end Validation
