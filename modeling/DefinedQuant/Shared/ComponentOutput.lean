import DefinedQuant.Shared.PlanValidation
import DefinedQuant.Shared.Visualization

/-!
# Component outputs

The lineage of a component's output, and what `ComponentOutput` checks of it: each derivation has a
target of its own, an existing number of the output that the derivation gives the value of.
-/

namespace ComponentOutput

open Protocol (charsWithin isSafeId)
open Visualization (Invalid boundedText andThen_eq_ok boundedText_eq_ok)

/-- `InputRef`, without a citation -/
structure InputRef where
  field : Text
  index : ℤ
  deriving DecidableEq, Repr

/-- `OutputRef` -/
structure OutputRef where
  field : Text
  index : ℤ
  deriving DecidableEq, Repr

/-- `Derivation` -/
structure Derivation (K : Type) where
  output : OutputRef
  inputs : List InputRef
  expression : Text
  value : K
  deriving DecidableEq

/-- `value.strip()` is empty. -/
def isBlank (value : Text) : Bool := value.all PlanValidation.isWhitespace

/-- The checks of a reference. -/
def validateRef (field : Text) (index : ℤ) : Except Invalid Unit := do
  Except.raiseIf (isSafeId field = false) ⟨"field", "String should match pattern"⟩
  Except.raiseIf (index < 0) ⟨"index", "Input should be greater than or equal to 0"⟩

/-- The validation of `Derivation`, its parts first. -/
def Derivation.validate {K : Type} (isFinite : K → Bool) (derivation : Derivation K) :
    Except Invalid Unit := do
  validateRef derivation.output.field derivation.output.index
  derivation.inputs.forM (fun item => validateRef item.field item.index)
  Except.raiseIf (derivation.inputs = []) ⟨"inputs", "Tuple should have at least 1 item"⟩
  boundedText "expression" 1 500 derivation.expression
  Except.raiseIf (isBlank derivation.expression = true) ⟨"expression",
    "derivation expression must not be blank"⟩
  Except.raiseIf (isFinite derivation.value = false) ⟨"value", "derivation value must be finite"⟩
  Except.raiseIf (¬ derivation.inputs.Nodup) ⟨"", "derivation input locations must be unique"⟩

/-- The value of a field of an output. -/
inductive FieldValue (K : Type) where
  | numbers (values : List K)
  | number (value : K)
  | items (count : ℕ)
  | other

/-- The check of one derivation in `validate_derivation_targets`. -/
def validateTarget {K : Type} [DecidableEq K] (modelFields : List (Text × FieldValue K))
    (derivation : Derivation K) : Except Invalid Unit :=
  match modelFields.lookup derivation.output.field with
  | none => .error ⟨"", "derivation output field does not exist"⟩
  | some (.numbers values) => do
      Except.raiseIf ((values.length : ℤ) ≤ derivation.output.index) ⟨"",
        "derivation output index is out of range"⟩
      Except.raiseIf (values[derivation.output.index.toNat]? ≠ some derivation.value)
        ⟨"", "derivation value must equal its referenced output value"⟩
  | some (.number value) => do
      Except.raiseIf (derivation.output.index ≠ 0) ⟨"", "scalar derivation output must use index 0"⟩
      Except.raiseIf (value ≠ derivation.value) ⟨"",
        "derivation value must equal its referenced output value"⟩
  | some (.items count) => do
      Except.raiseIf ((count : ℤ) ≤ derivation.output.index) ⟨"",
        "derivation output index is out of range"⟩
      .error ⟨"", "derivation output must reference a numeric value"⟩
  | some .other => do
      Except.raiseIf (derivation.output.index ≠ 0) ⟨"", "scalar derivation output must use index 0"⟩
      .error ⟨"", "derivation output must reference a numeric value"⟩

/-- `validate_derivation_targets` -/
def validateDerivationTargets {K : Type} [DecidableEq K] (modelFields : List (Text × FieldValue K))
    (derivations : List (Derivation K)) : Except Invalid Unit := do
  Except.raiseIf (¬ (derivations.map Derivation.output).Nodup) ⟨"",
    "derivation output locations must be unique"⟩
  derivations.forM (validateTarget modelFields)

/-- `validate_messages` -/
def validateMessages (field : String) (values : List Text) : Except Invalid Unit :=
  Except.raiseIf (values.any isBlank = true) ⟨field, "output messages must not be blank"⟩

/-! ## What the checks accept -/

section

variable {K : Type} {isFinite : K → Bool}

/-- A derivation with sound parts. -/
structure Derivation.Valid (isFinite : K → Bool) (derivation : Derivation K) : Prop where
  output : isSafeId derivation.output.field = true ∧ 0 ≤ derivation.output.index
  each : ∀ item ∈ derivation.inputs, isSafeId item.field = true ∧ 0 ≤ item.index
  nonempty : derivation.inputs ≠ []
  expression : charsWithin 1 500 derivation.expression = true
  notBlank : isBlank derivation.expression = false
  finite : isFinite derivation.value = true
  distinct : derivation.inputs.Nodup

theorem validateRef_eq_ok {field : Text} {index : ℤ} {u : Unit} :
    validateRef field index = .ok u ↔ isSafeId field = true ∧ 0 ≤ index := by
  unfold validateRef
  rw [andThen_eq_ok, Except.raiseIf_eq_ok, Except.raiseIf_eq_ok, Bool.not_eq_false, not_lt]

theorem Derivation.validate_eq_ok {derivation : Derivation K} {u : Unit} :
    derivation.validate isFinite = .ok u ↔ derivation.Valid isFinite := by
  unfold Derivation.validate
  simp only [andThen_eq_ok, validateRef_eq_ok, Except.forM_eq_ok, Except.raiseIf_eq_ok,
    boundedText_eq_ok, Bool.not_eq_true, Bool.not_eq_false, not_not]
  constructor
  · rintro ⟨hOutput, hEach, hNonempty, hExpression, hBlank, hFinite, hDistinct⟩
    exact ⟨hOutput, hEach, hNonempty, hExpression, hBlank, hFinite, hDistinct⟩
  · rintro ⟨hOutput, hEach, hNonempty, hExpression, hBlank, hFinite, hDistinct⟩
    exact ⟨hOutput, hEach, hNonempty, hExpression, hBlank, hFinite, hDistinct⟩

variable [DecidableEq K]

/-- What a derivation points at. -/
inductive Targets (modelFields : List (Text × FieldValue K)) (derivation : Derivation K) : Prop
  | numbers {values : List K} {i : ℕ} : modelFields.lookup derivation.output.field =
    some (.numbers values) →
      derivation.output.index = i → values[i]? = some derivation.value →
        Targets modelFields derivation
  | number {value : K} : modelFields.lookup derivation.output.field = some (.number value) →
      derivation.output.index = 0 → value = derivation.value → Targets modelFields derivation

theorem validateTarget_of_targets {modelFields : List (Text × FieldValue K)}
    {derivation : Derivation K}
    (h : Targets modelFields derivation) : validateTarget modelFields derivation = .ok () := by
  cases h with
  | @numbers values i hField hIndex hValue =>
      have hLess : i < values.length := (List.getElem?_eq_some_iff.1 hValue).1
      simp only [validateTarget, hField, hIndex, Int.toNat_natCast, hValue]
      rw [andThen_eq_ok, Except.raiseIf_eq_ok, Except.raiseIf_eq_ok, not_not]
      exact ⟨by omega, rfl⟩
  | number hField hIndex hValue =>
      simp only [validateTarget, hField, hIndex, hValue]
      rw [andThen_eq_ok, Except.raiseIf_eq_ok, Except.raiseIf_eq_ok]
      exact ⟨not_not.2 rfl, not_not.2 rfl⟩

/-- Derivations with targets of their own pass. -/
theorem validateDerivationTargets_of_targets {modelFields : List (Text × FieldValue K)}
    {derivations : List (Derivation K)} (hDistinct : (derivations.map Derivation.output).Nodup)
    (hTargets : ∀ derivation ∈ derivations, Targets modelFields derivation) :
    validateDerivationTargets modelFields derivations = .ok () := by
  rw [validateDerivationTargets, andThen_eq_ok, Except.raiseIf_eq_ok, not_not, Except.forM_eq_ok]
  exact ⟨hDistinct, fun derivation h => validateTarget_of_targets (hTargets derivation h)⟩

end

end ComponentOutput
