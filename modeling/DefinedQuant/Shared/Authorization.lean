import DefinedQuant.Protocol.Authorization
import DefinedQuant.Shared.PlanValidation

/-!
# Authorization chains

`validatePlan` checks a plan against a policy and the installed component, and issues a receipt.
`verifyAuthorization` gets a plan, a receipt, an approval and a binding of any origin. It compares
the roots that they name, validates the plan again and asks for the same receipt, and compares the
binding with the one that it would capture now. What it accepts is a chain whose records all bind
each other, and the plan of an accepted chain can be replaced only by one with the same semantic
projection.

What the installation answers is a parameter: the packaged profiles, the installed component with
its subject, its input model and its constraints, and the text of a datetime in a JSON dump.
-/

namespace PlanValidation

open Calendar (AwareDatetime)
open Json Canonical Protocol

/-! ## What is raised -/

/-- An exception, as the handlers tell them apart. -/
inductive Raised where
  | value (error : ValueError)
  /-- `ValidationError` of an input model, with its number of errors -/
  | schema (errors : ℕ)
  /-- `AmbiguousInput`, with the questions of its details -/
  | ambiguous (questions : PyValue)
  | contractEvaluation
  | domain (message : Text)
  /-- `ComponentContractError`, `ComponentLoadError` or `ComponentNotFound` -/
  | component
  /-- An exception without a handler. -/
  | other (name : String)

/-- A function ends early: it returns a failure, or an exception leaves it. -/
inductive Stop (φ : Type) where
  | returns (failure : φ)
  | raises (error : Raised)

/-- A `ValueError` that nothing catches. -/
def raising {φ α : Type} (r : Except ValueError α) : Except (Stop φ) α :=
  r.mapError (fun e => .raises (.value e))

/-- Return the failure, once it is built. -/
def returning {φ α : Type} : Except ValueError φ → Except (Stop φ) α
  | .ok failure => .error (.returns failure)
  | .error e => .error (.raises (.value e))

/-- Return the failure if there is one. -/
def returningSome {φ : Type} : Except ValueError (Option φ) → Except (Stop φ) Unit
  | .ok none => .ok ()
  | .ok (some failure) => .error (.returns failure)
  | .error e => .error (.raises (.value e))

/-! ## The installation -/

/-- An installed component, as `component_record` finds it. -/
structure InstalledComponent where
  componentId : Text
  version : Text
  metadata : List (Option Text × PyValue)

/-- What the installation answers. -/
structure Environment where
  /-- The text of a packaged profile, if the file exists. -/
  profile : Text → Option Text
  /-- `json.loads` with unique keys, and `ExecutionPolicy.model_validate` -/
  readPolicy : Text → Except Raised ExecutionPolicy
  componentRecord : ComponentId → Except Raised InstalledComponent
  verifySubject : InstalledComponent → Except Raised Text
  /-- `component_models`, `model_validate` and `model_dump` -/
  validateInput : InstalledComponent → Members → Except Raised (List (Option Text × PyValue))
  preflight : ComponentId → List (Option Text × PyValue) → Except Raised Unit
  /-- The text of a datetime in a JSON dump. -/
  isoformat : AwareDatetime → Text

/-- `load_execution_policy`, for an ID that is safe already -/
def loadExecutionPolicy (env : Environment) (policyId : SafeId) : Except Raised ExecutionPolicy :=
  match env.profile policyId.1 with
  | none => .error (.value ⟨"unknown execution policy"⟩)
  | some text => do
      let policy ← env.readPolicy text
      if policy.policyId ≠ policyId then
        throw (.value ⟨"packaged execution policy ID does not match its filename"⟩)
      else return policy

/-! ## Validation -/

/-- `return _blocked(...)` -/
def block {α : Type} (plan : AnalysisPlan) (code : ValidationIssueCode) (message : Text)
    (field : Option String) : Except (Stop ValidationFailure) α :=
  returning (blocked plan code message (field.map py))

/-- `return _blocked(...)` under a condition. -/
def blockIf (p : Prop) [Decidable p] (plan : AnalysisPlan) (code : ValidationIssueCode)
    (message : String) (field : Option String) : Except (Stop ValidationFailure) Unit :=
  if p then block plan code (py message) field else .ok ()

/-- The policy is the packaged one. -/
def checkPackaged (env : Environment) (plan : AnalysisPlan) (policy : ExecutionPolicy) :
    Except (Stop ValidationFailure) Unit :=
  match loadExecutionPolicy env policy.policyId with
  | .error (.value _) => block plan .executionScopeDenied
      (py "execution policy is not an installed packaged allowlist") (some "execution_policy_hash")
  | .error (.schema _) => block plan .executionScopeDenied
      (py "execution policy is not an installed packaged allowlist") (some "execution_policy_hash")
  | .error e => .error (.raises e)
  | .ok packaged => blockIf (packaged ≠ policy) plan .executionScopeDenied
      "execution policy differs from the packaged allowlist" (some "execution_policy_hash")

/-- The plan binds the policy, and the policy is the packaged one. -/
def checkPolicy (env : Environment) (plan : AnalysisPlan) (policy : ExecutionPolicy) :
    Except (Stop ValidationFailure) Unit := do
  let policyHash ← raising policy.policyHash
  blockIf (plan.executionPolicyHash.1 ≠ policyHash) plan .planPolicyMismatch
    "plan does not bind the supplied execution policy" (some "execution_policy_hash")
  checkPackaged env plan policy

/-- `_matching_rule` -/
def matchingRule (plan : AnalysisPlan) (policy : ExecutionPolicy) :
    Except (Stop ValidationFailure) ManagedComponentRule :=
  let profileRules := policy.components.filter (fun rule => rule.profileId = plan.step.profileId)
  if profileRules = [] then
    block plan .executionScopeDenied (py "plan profile is not allowed by the execution policy")
      (some "profile_id")
  else
    match profileRules.find? (fun rule => rule.component = plan.step.component) with
    | some rule => .ok rule
    | none => block plan .planComponentIdentityMismatch
        (py "plan component identity is not the exact subject allowed by its profile")
          (some "component")

/-- The installed component, and whether it is the one that the plan names. -/
def installedRef (env : Environment) (component : ComponentRef) :
    Except Raised (InstalledComponent × Bool) := do
  let record ← env.componentRecord component.id
  if record.version ≠ component.version.1 then return (record, false)
  else return (record, decide ((← env.verifySubject record) = component.subjectHash.1))

/-- The installed component of the plan. -/
def checkComponent (env : Environment) (plan : AnalysisPlan) :
    Except (Stop ValidationFailure) InstalledComponent :=
  match installedRef env plan.step.component with
  | .error .component => block plan .componentContractError
      (py "installed component identity or contract could not be validated") (some "component")
  | .error e => .error (.raises e)
  | .ok (_, false) => block plan .planComponentIdentityMismatch
      (py "installed component does not match the plan's exact version and subject")
        (some "component")
  | .ok (record, true) => .ok record

/-- `ComponentLifecycle(value)` -/
def ComponentLifecycle.ofValue (value : Text) : Option ComponentLifecycle :=
  [ComponentLifecycle.draft, .published, .deprecated].find? (fun lifecycle =>
    value = py lifecycle.value)

/-- The lifecycle of the installed component. -/
def installedLifecycle (record : InstalledComponent) : Option ComponentLifecycle :=
  match PyValue.get? record.metadata "lifecycle" with
  | some (.str raw) => ComponentLifecycle.ofValue raw
  | _ => none

/-- The lifecycle is the one that the rule allows. -/
def checkLifecycle (plan : AnalysisPlan) (record : InstalledComponent)
    (rule : ManagedComponentRule) : Except (Stop ValidationFailure) Unit :=
  match installedLifecycle record with
  | none => block plan .componentContractError (py "installed component has an invalid lifecycle")
      (some "component_lifecycle")
  | some lifecycle =>
      blockIf (plan.step.componentLifecycle ≠ lifecycle ∨ lifecycle ≠ rule.allowedLifecycle ∨
          (rule.requireExplicitOptIn = true ∧ plan.step.explicitDraftOptIn = false))
        plan .planComponentLifecycleDenied
        "component lifecycle or required explicit opt-in is not authorized"
          (some "component_lifecycle")

/-- The questions of the component's guidance. -/
def checkGuidance (plan : AnalysisPlan) (record : InstalledComponent) :
    Except (Stop ValidationFailure) Unit :=
  match PyValue.get? record.metadata "guidance" with
  | some (.mapping guidance) => returningSome (validateRequiredQuestions plan guidance)
  | _ => block plan .componentContractError (py "component guidance must be an object") none

/-- `_is_empty` -/
def isEmpty : Value → Bool
  | .str s => s.isEmpty
  | .seq _ xs => xs.isEmpty
  | .obj m => m.isEmpty
  | _ => false

/-- The field of a requirement is missing. -/
def isMissingInput (input : Members) (requirement : InputRequirement) : Bool :=
  match Value.get? requirement.field.1 input with
  | none => true
  | some .null => true
  | some value => requirement.requireNonEmpty && isEmpty value

/-- `ValidationIssueCode(requirement.failure_code.value)` -/
def issueCodeOf : RequirementFailureCode → ValidationIssueCode
  | .managedRequiredInputMissing => .managedRequiredInputMissing
  | .managedTimestampRequired => .managedTimestampRequired

/-- `_validate_managed_requirements` -/
def validateManagedRequirements (plan : AnalysisPlan) (rule : ManagedComponentRule) :
    Except ValueError (Option ValidationFailure) :=
  match rule.requirements.find? (isMissingInput plan.step.dataset.input) with
  | none => .ok none
  | some requirement => do
      return some (← blocked plan (issueCodeOf requirement.failureCode)
        (py "managed profile requires non-empty input field '" ++ requirement.field.1 ++ py "'")
        (some requirement.field.1))

/-- The input of the dataset, read by the input model of the component. -/
def checkInput (env : Environment) (plan : AnalysisPlan) (record : InstalledComponent) :
    Except (Stop ValidationFailure) (List (Option Text × PyValue)) :=
  match env.validateInput record plan.step.dataset.input with
  | .ok input => .ok input
  | .error (.schema errors) => block plan .invalidComponentInput
      (py ("component input does not match its closed Pydantic schema (" ++ toString errors ++
        " validation error(s))")) (some "input")
  | .error .component => block plan .componentContractError
      (py "installed component input model could not be validated") (some "component")
  | .error e => .error (.raises e)

/-- A member of a mapping, or `None`. -/
def memberOf (raw : List (Option Text × PyValue)) (key : String) : PyValue :=
  (PyValue.get? raw key).getD .none

/-- The question that an ambiguity asks, under the keys of a contract. -/
def ambiguousQuestion (raw : List (Option Text × PyValue)) : List (Option Text × PyValue) :=
  [(some (py "id"), memberOf raw "id"), (some (py "resolves_to"), memberOf raw "field"),
    (some (py "ask"), memberOf raw "ask"), (some (py "why"), memberOf raw "why")]

/-- `_ambiguity_failure` -/
def ambiguityFailure (plan : AnalysisPlan) : PyValue → Except ValueError ValidationFailure
  | .seq .list (raw :: raws) =>
      match (mappings (raw :: raws)).mapM (fun m => contractQuestion (ambiguousQuestion m)) with
      | .error _ => blocked plan .componentContractError
        (py "component ambiguity metadata is invalid") none
      | .ok questions =>
          if questions.length ≠ (raw :: raws).length then
            blocked plan .componentContractError
              (py "component ambiguity contains a non-object clarification question") none
          else do
            let planHash ← plan.planHash
            let issues ← questions.mapM (fun question =>
              issue .planRequiredQuestionUnresolved (unresolvedMessage question)
                (some question.targetField.1))
            ValidationFailure.make .needsInformation planHash issues questions
  | _ => blocked plan .componentContractError
      (py "component reported ambiguity without valid clarification questions") none

/-- The constraints of the component. -/
def checkConstraints (env : Environment) (plan : AnalysisPlan)
    (input : List (Option Text × PyValue)) : Except (Stop ValidationFailure) Unit :=
  match env.preflight plan.step.component.id input with
  | .ok () => .ok ()
  | .error (.ambiguous questions) => returning (ambiguityFailure plan questions)
  | .error .contractEvaluation => block plan .componentContractError
      (py "component constraint contract could not be evaluated") none
  | .error (.domain message) => block plan .componentConstraintViolation message none
  | .error .component => block plan .componentContractError
      (py "component constraints could not be validated") none
  | .error e => .error (.raises e)

/-- A digest in a field with the digest pattern. -/
def digestField (digest : Text) : Except ValueError Sha256Text :=
  if h : isSha256 digest = true then .ok ⟨digest, h⟩ else .error validationError

/-- `_VALIDATOR` -/
def validator : RunnerIdentity :=
  ⟨⟨py "managed_plan_validator", by decide⟩, ⟨py "0.1.0", by decide⟩⟩

/-- `_PASSED_CHECKS` -/
def passedChecks : List ValidationCheck :=
  [⟨⟨py "policy_binding", by decide⟩⟩, ⟨⟨py "component_identity", by decide⟩⟩,
    ⟨⟨py "lifecycle_opt_in", by decide⟩⟩, ⟨⟨py "required_questions", by decide⟩⟩,
    ⟨⟨py "managed_input_requirements", by decide⟩⟩, ⟨⟨py "component_input_schema", by decide⟩⟩,
    ⟨⟨py "component_constraints", by decide⟩⟩]

/-- The receipt at the end of `validate_plan`. -/
def issueReceipt (plan : AnalysisPlan) (policy : ExecutionPolicy) :
    Except ValueError ValidationReceipt := do
  let planHash ← digestField (← plan.planHash)
  let policyHash ← digestField (← policy.policyHash)
  let datasetHash ← digestField (← plan.step.dataset.datasetHash)
  return ⟨planHash, policyHash, plan.step.component, datasetHash, validator, passedChecks, by
    decide, by decide⟩

/-- The body of `validate_plan`. -/
def evaluatePlan (env : Environment) (plan : AnalysisPlan) (policy : ExecutionPolicy) :
    Except (Stop ValidationFailure) ValidationReceipt := do
  checkPolicy env plan policy
  let rule ← matchingRule plan policy
  let record ← checkComponent env plan
  checkLifecycle plan record rule
  checkGuidance plan record
  returningSome (validateManagedRequirements plan rule)
  let input ← checkInput env plan record
  checkConstraints env plan input
  raising (issueReceipt plan policy)

/-- `validate_plan` -/
def validatePlan (env : Environment) (plan : AnalysisPlan) (policy : ExecutionPolicy) :
    Except Raised (ValidationReceipt ⊕ ValidationFailure) :=
  match evaluatePlan env plan policy with
  | .ok receipt => .ok (.inl receipt)
  | .error (.returns failure) => .ok (.inr failure)
  | .error (.raises e) => .error e

/-! ## Verification -/

/-- A text in a field with bounds on its length. -/
def charsField (low high : ℕ) (text : Text) : Except ValueError (Chars low high) :=
  if h : charsWithin low high text = true then .ok ⟨text, h⟩ else .error validationError

/-- `create_manual_approval` -/
def createManualApproval (receipt : ValidationReceipt) (approvedBy : Text)
    (approvedAt : AwareDatetime) (note : Option Text) : Except ValueError ApprovalRecord := do
  let receiptHash ← digestField (← receipt.receiptHash)
  let approvedBy ← charsField 1 160 approvedBy
  match note with
  | none => return ⟨receipt.planHash, receiptHash, approvedBy, approvedAt, none⟩
  | some note => return ⟨receipt.planHash, receiptHash, approvedBy, approvedAt,
    some (← charsField 1 500 note)⟩

/-- `create_authorization_binding` -/
def createAuthorizationBinding (env : Environment) (plan : AnalysisPlan)
    (receipt : ValidationReceipt)
    (approval : ApprovalRecord) : Except ValueError AuthorizationBinding := do
  let planHash ← plan.planHash
  if receipt.planHash.1 ≠ planHash then throw ⟨"validation receipt does not bind the supplied plan"⟩
  if approval.planHash.1 ≠ planHash then throw ⟨"manual approval does not bind the supplied plan"⟩
  let receiptHash ← receipt.receiptHash
  if approval.validationReceiptHash.1 ≠ receiptHash then
    throw ⟨"manual approval does not bind the supplied validation receipt"⟩
  return ⟨← digestField planHash, ← digestField receiptHash,
    ← digestField (← approval.approvalHash env.isoformat), plan.step.component,
    ← digestField (← plan.step.dataset.datasetHash)⟩

/-- `return _authorization_failure(...)` under a condition. -/
def failIf (p : Prop) [Decidable p] (code : AuthorizationErrorCode) (message : Chars 1 500) :
    Except (Stop AuthorizationFailure) Unit :=
  if p then .error (.returns ⟨code, message⟩) else .ok ()

/-- A hash, or `return _authorization_failure(...)` where there is none. -/
def hashed (code : AuthorizationErrorCode) (message : Chars 1 500) :
    Except ValueError Text → Except (Stop AuthorizationFailure) Text
  | .ok digest => .ok digest
  | .error _ => .error (.returns ⟨code, message⟩)

/-- The plan is valid now, and its receipt is the given one. -/
def reproduce (env : Environment) (plan : AnalysisPlan) (policy : ExecutionPolicy)
    (receipt : ValidationReceipt) : Except (Stop AuthorizationFailure) Unit :=
  match validatePlan env plan policy with
  | .error e => .error (.raises e)
  | .ok (.inr _) => failIf True .validationReceiptMismatch
      ⟨py "validation receipt cannot be reproduced from the current plan and policy", by
        apply charsWithin_literal; decide⟩
  | .ok (.inl current) => failIf (current ≠ receipt) .validationReceiptMismatch
      ⟨py "validation receipt cannot be reproduced from the current plan and policy", by
        apply charsWithin_literal; decide⟩

/-- The checks of `verify_authorization` before it captures the roots again. -/
def earlierChecks (env : Environment) (plan : AnalysisPlan) (receipt : ValidationReceipt)
    (approval : ApprovalRecord)
    (binding : AuthorizationBinding) (policy : ExecutionPolicy) : Except (Stop AuthorizationFailure)
    Unit := do
  failIf (binding.component ≠ plan.step.component ∨ receipt.component ≠ plan.step.component)
    .componentBindingMismatch ⟨py "component identity changed after authorization", by
      apply charsWithin_literal; decide⟩
  let datasetHash ← hashed .datasetBindingMismatch
    ⟨py "dataset content is no longer canonically hashable", by apply charsWithin_literal; decide⟩
      plan.step.dataset.datasetHash
  failIf (binding.datasetHash.1 ≠ datasetHash ∨ receipt.datasetHash.1 ≠ datasetHash)
    .datasetBindingMismatch ⟨py "dataset content or timestamps changed after authorization", by
      apply charsWithin_literal; decide⟩
  let policyHash ← hashed .policyBindingMismatch
    ⟨py "execution policy is no longer canonically hashable", by apply charsWithin_literal; decide⟩
      policy.policyHash
  failIf (plan.executionPolicyHash.1 ≠ policyHash ∨ receipt.policyHash.1 ≠ policyHash)
    .policyBindingMismatch ⟨py "execution policy changed after plan validation", by
      apply charsWithin_literal; decide⟩
  let planHash ← hashed .planRevisionStale
    ⟨py "plan content is no longer canonically hashable", by apply charsWithin_literal; decide⟩
      plan.planHash
  failIf (binding.planHash.1 ≠ planHash ∨ receipt.planHash.1 ≠ planHash)
    .planRevisionStale ⟨py "plan revision changed after validation", by apply charsWithin_literal; decide⟩
  let receiptHash ← hashed .validationReceiptMismatch
    ⟨py "validation receipt is no longer canonically hashable", by apply charsWithin_literal; decide⟩ receipt.receiptHash
  failIf (binding.validationReceiptHash.1 ≠ receiptHash)
    .validationReceiptMismatch
    ⟨py "validation receipt changed after authorization roots were captured", by
      apply charsWithin_literal; decide⟩
  reproduce env plan policy receipt
  failIf (approval.planHash.1 ≠ planHash ∨ approval.validationReceiptHash.1 ≠ receiptHash)
    .approvalBindingMismatch
    ⟨py "manual approval does not bind the current plan and validation receipt", by
      apply charsWithin_literal; decide⟩
  let approvalHash ← hashed .approvalBindingMismatch
    ⟨py "manual approval is no longer canonically hashable", by apply charsWithin_literal; decide⟩
      (approval.approvalHash env.isoformat)
  failIf (binding.approvalHash.1 ≠ approvalHash)
    .approvalBindingMismatch
    ⟨py "manual approval changed after authorization roots were captured", by
      apply charsWithin_literal; decide⟩

/-- `verify_authorization` -/
def verifyAuthorization (env : Environment) (plan : AnalysisPlan) (receipt : ValidationReceipt)
    (approval : ApprovalRecord) (binding : AuthorizationBinding) (policy : ExecutionPolicy) :
    Except Raised (AuthorizationSuccess ⊕ AuthorizationFailure) :=
  match earlierChecks env plan receipt approval binding policy with
  | .error (.returns failure) => .ok (.inr failure)
  | .error (.raises e) => .error e
  | .ok () =>
      match createAuthorizationBinding env plan receipt approval with
      | .error e => .error (.value e)
      | .ok expected =>
          if binding ≠ expected then
            .ok (.inr ⟨.authorizationBindingMismatch,
              ⟨py "authorization binding differs from the reproduced authorization roots", by
              apply charsWithin_literal; decide⟩⟩)
          else .ok (.inl ⟨binding⟩)

/-! ## Early returns -/

section Stops

variable {φ α : Type}

/-- An error of the model stops, a value goes on. -/
theorem raising_eq_ok {r : Except ValueError α} {a : α} :
    (raising r : Except (Stop φ) α) = .ok a ↔ r = .ok a := by
  unfold raising
  exact Except.mapError_eq_ok

/-- A guard passes exactly when its condition fails. -/
theorem failIf_eq_ok {p : Prop} [Decidable p] {code : AuthorizationErrorCode}
    {message : Chars 1 500} :
    failIf p code message = .ok () ↔ ¬ p := by
  unfold failIf
  split_ifs with h
  · exact iff_of_false nofun (not_not.2 h)
  · exact iff_of_true rfl h

/-- A digest that can be computed goes on. -/
theorem hashed_eq_ok {code : AuthorizationErrorCode} {message : Chars 1 500}
    {r : Except ValueError Text}
    {digest : Text} : hashed code message r = .ok digest ↔ r = .ok digest := by
  cases r with
  | ok d => exact ⟨fun h => congrArg Except.ok (Except.ok.inj h), fun h =>
    congrArg Except.ok (Except.ok.inj h)⟩
  | error e => exact ⟨nofun, nofun⟩

/-- A digest field holds the digest it was made of. -/
theorem digestField_eq_ok {digest : Text} {d : Sha256Text} : digestField digest = .ok d ↔
    d.1 = digest := by
  unfold digestField
  split_ifs with h
  · rw [Except.ok.injEq, Subtype.ext_iff, eq_comm]
  · exact iff_of_false nofun (fun hd => h (hd ▸ d.2))

/-- Blocking gives no value. -/
theorem block_ne_ok {plan : AnalysisPlan} {code : ValidationIssueCode} {message : Text}
    {field : Option String} {a : α} : block plan code message field ≠ .ok a := by
  unfold block returning
  split <;> exact nofun

/-- A blocking guard passes exactly when its condition fails. -/
theorem blockIf_eq_ok {p : Prop} [Decidable p] {plan : AnalysisPlan} {code : ValidationIssueCode}
    {message : String}
    {field : Option String} : blockIf p plan code message field = .ok () ↔ ¬ p := by
  unfold blockIf
  split_ifs with h
  · exact iff_of_false block_ne_ok (not_not.2 h)
  · exact iff_of_true rfl h

/-- The checks return a failure. -/
def Refuses (r : Except (Stop AuthorizationFailure) α) : Prop :=
  ∃ failure, r = .error (.returns failure)

/-- A refusal behind a guard is a refusal. -/
theorem refuses_failIf_bind {p : Prop} [Decidable p] {code : AuthorizationErrorCode}
    {message : Chars 1 500}
    {f : Unit → Except (Stop AuthorizationFailure) α} (h : ¬ p → Refuses (f ())) :
    Refuses (failIf p code message >>= f) := by
  unfold failIf
  split_ifs with hp
  · exact ⟨_, rfl⟩
  · exact h hp

/-- So is a refusal behind a digest. -/
theorem refuses_hashed_bind {code : AuthorizationErrorCode} {message : Chars 1 500}
    {r : Except ValueError Text} {f : Text → Except (Stop AuthorizationFailure) α}
    (h : ∀ digest, r = .ok digest → Refuses (f digest)) :
    Refuses (hashed code message r >>= f) := by
  cases r with
  | ok digest => exact h digest rfl
  | error e => exact ⟨_, rfl⟩

end Stops

/-! ## What a receipt says -/

variable {env : Environment} {plan other : AnalysisPlan} {policy : ExecutionPolicy}
    {receipt : ValidationReceipt}
  {approval : ApprovalRecord} {binding : AuthorizationBinding}

/-- The hashes of a receipt are those of the plan, the policy and the dataset. -/
theorem issueReceipt_eq_ok (h : issueReceipt plan policy = .ok receipt) :
    plan.planHash = .ok receipt.planHash.1 ∧ policy.policyHash = .ok receipt.policyHash.1 ∧
      plan.step.dataset.datasetHash = .ok receipt.datasetHash.1 ∧
        receipt.component = plan.step.component := by
  unfold issueReceipt at h
  obtain ⟨planDigest, hPlan, h⟩ := Except.bind_eq_ok.1 h
  obtain ⟨planHash, hPlanField, h⟩ := Except.bind_eq_ok.1 h
  obtain ⟨policyDigest, hPolicy, h⟩ := Except.bind_eq_ok.1 h
  obtain ⟨policyHash, hPolicyField, h⟩ := Except.bind_eq_ok.1 h
  obtain ⟨datasetDigest, hDataset, h⟩ := Except.bind_eq_ok.1 h
  obtain ⟨datasetHash, hDatasetField, h⟩ := Except.bind_eq_ok.1 h
  obtain rfl := Except.ok.inj h
  rw [digestField_eq_ok] at hPlanField hPolicyField hDatasetField
  exact ⟨hPlanField ▸ hPlan, hPolicyField ▸ hPolicy, hDatasetField ▸ hDataset, rfl⟩

/-- `validate_plan` answers a receipt exactly when the evaluation does. -/
theorem validatePlan_eq_receipt :
    validatePlan env plan policy = .ok (.inl receipt) ↔ evaluatePlan env plan policy =
      .ok receipt := by
  unfold validatePlan
  constructor
  · intro h
    split at h
    · rename_i current hCurrent
      rw [hCurrent, ← Sum.inl.inj (Except.ok.inj h)]
    · cases Except.ok.inj h
    · cases h
  · intro h
    rw [h]

/-- A plan with a receipt binds the policy. -/
theorem receipt_of_validatePlan (h : validatePlan env plan policy = .ok (.inl receipt)) :
    policy.policyHash = .ok plan.executionPolicyHash.1 ∧ issueReceipt plan policy =
      .ok receipt := by
  rw [validatePlan_eq_receipt] at h
  unfold evaluatePlan at h
  obtain ⟨⟨⟩, hPolicy, h⟩ := Except.bind_eq_ok.1 h
  obtain ⟨rule, -, h⟩ := Except.bind_eq_ok.1 h
  obtain ⟨record, -, h⟩ := Except.bind_eq_ok.1 h
  obtain ⟨⟨⟩, -, h⟩ := Except.bind_eq_ok.1 h
  obtain ⟨⟨⟩, -, h⟩ := Except.bind_eq_ok.1 h
  obtain ⟨⟨⟩, -, h⟩ := Except.bind_eq_ok.1 h
  obtain ⟨input, -, h⟩ := Except.bind_eq_ok.1 h
  obtain ⟨⟨⟩, -, h⟩ := Except.bind_eq_ok.1 h
  unfold checkPolicy at hPolicy
  obtain ⟨policyHash, hHash, hPolicy⟩ := Except.bind_eq_ok.1 hPolicy
  obtain ⟨⟨⟩, hBinds, -⟩ := Except.bind_eq_ok.1 hPolicy
  rw [blockIf_eq_ok, not_not] at hBinds
  exact ⟨hBinds ▸ raising_eq_ok.1 hHash, raising_eq_ok.1 h⟩

/-! ## The checks of the verifier -/

/-- The binding captures the roots of the plan, the receipt and the approval, which name each other. -/
structure Captures (env : Environment) (plan : AnalysisPlan) (receipt : ValidationReceipt)
    (approval : ApprovalRecord) (binding : AuthorizationBinding) : Prop where
  planHash : plan.planHash = .ok binding.planHash.1
  receiptPlan : receipt.planHash = binding.planHash
  approvalPlan : approval.planHash = binding.planHash
  receiptHash : receipt.receiptHash = .ok binding.validationReceiptHash.1
  approvalReceipt : approval.validationReceiptHash = binding.validationReceiptHash
  approvalHash : approval.approvalHash env.isoformat = .ok binding.approvalHash.1
  component : binding.component = plan.step.component
  datasetHash : plan.step.dataset.datasetHash = .ok binding.datasetHash.1

/-- The binding that is built captures the plan, the receipt and the approval. -/
theorem createAuthorizationBinding_eq_ok :
    createAuthorizationBinding env plan receipt approval = .ok binding ↔
      Captures env plan receipt approval binding := by
  unfold createAuthorizationBinding
  constructor
  · intro h
    obtain ⟨planHash, hPlan, h⟩ := Except.bind_eq_ok.1 h
    obtain ⟨hReceiptPlan, h⟩ := Except.throwIf_eq_ok.1 h
    obtain ⟨hApprovalPlan, h⟩ := Except.throwIf_eq_ok.1 h
    obtain ⟨receiptHash, hReceipt, h⟩ := Except.bind_eq_ok.1 h
    obtain ⟨hApprovalReceipt, h⟩ := Except.throwIf_eq_ok.1 h
    obtain ⟨planField, hPlanField, h⟩ := Except.bind_eq_ok.1 h
    obtain ⟨receiptField, hReceiptField, h⟩ := Except.bind_eq_ok.1 h
    obtain ⟨approvalHash, hApproval, h⟩ := Except.bind_eq_ok.1 h
    obtain ⟨approvalField, hApprovalField, h⟩ := Except.bind_eq_ok.1 h
    obtain ⟨datasetHash, hDataset, h⟩ := Except.bind_eq_ok.1 h
    obtain ⟨datasetField, hDatasetField, h⟩ := Except.bind_eq_ok.1 h
    obtain rfl := Except.ok.inj h
    rw [not_not] at hReceiptPlan hApprovalPlan hApprovalReceipt
    rw [digestField_eq_ok] at hPlanField hReceiptField hApprovalField hDatasetField
    exact ⟨hPlanField ▸ hPlan, Subtype.ext (hReceiptPlan.trans hPlanField.symm),
      Subtype.ext (hApprovalPlan.trans hPlanField.symm), hReceiptField ▸ hReceipt,
      Subtype.ext (hApprovalReceipt.trans hReceiptField.symm), hApprovalField ▸ hApproval, rfl,
      hDatasetField ▸ hDataset⟩
  · rintro ⟨hPlan, hReceiptPlan, hApprovalPlan, hReceipt, hApprovalReceipt, hApproval, hComponent,
      hDataset⟩
    refine Except.bind_eq_ok.2 ⟨_, hPlan,
      Except.throwIf_eq_ok.2 ⟨not_not.2 (congrArg _ hReceiptPlan), ?_⟩⟩
    refine Except.throwIf_eq_ok.2 ⟨not_not.2 (congrArg _ hApprovalPlan), ?_⟩
    refine Except.bind_eq_ok.2 ⟨_, hReceipt,
      Except.throwIf_eq_ok.2 ⟨not_not.2 (congrArg _ hApprovalReceipt), ?_⟩⟩
    refine Except.bind_eq_ok.2 ⟨_, digestField_eq_ok.2 rfl, ?_⟩
    refine Except.bind_eq_ok.2 ⟨_, digestField_eq_ok.2 rfl, ?_⟩
    refine Except.bind_eq_ok.2 ⟨_, hApproval, Except.bind_eq_ok.2 ⟨_, digestField_eq_ok.2 rfl, ?_⟩⟩
    refine Except.bind_eq_ok.2 ⟨_, hDataset, Except.bind_eq_ok.2 ⟨_, digestField_eq_ok.2 rfl, ?_⟩⟩
    rw [← hComponent]
    rfl

/-- A receipt is reproduced when the validation answers it again. -/
theorem reproduce_eq_ok :
    reproduce env plan policy receipt = .ok () ↔ validatePlan env plan policy =
      .ok (.inl receipt) := by
  unfold reproduce
  cases hValid : validatePlan env plan policy with
  | error e => exact iff_of_false nofun nofun
  | ok outcome =>
      cases outcome with
      | inl current =>
          rw [failIf_eq_ok, not_not]
          exact ⟨fun h => h ▸ rfl, fun h => Sum.inl.inj (Except.ok.inj h)⟩
      | inr failure =>
          rw [failIf_eq_ok]
          exact iff_of_false (not_not.2 trivial) (fun h => nomatch Except.ok.inj h)

/-- The checks pass exactly for a valid plan with its own receipt and a binding that captures the
chain. -/
theorem earlierChecks_eq_ok :
    earlierChecks env plan receipt approval binding policy = .ok () ↔
      validatePlan env plan policy = .ok (.inl receipt) ∧ Captures env plan receipt approval
        binding := by
  unfold earlierChecks
  constructor
  -- The checks in the order of the source; each guard passes or stops.
  · intro h
    obtain ⟨⟨⟩, hComponent, h⟩ := Except.bind_eq_ok.1 h
    obtain ⟨datasetHash, hDataset, h⟩ := Except.bind_eq_ok.1 h
    obtain ⟨⟨⟩, hDatasetSame, h⟩ := Except.bind_eq_ok.1 h
    obtain ⟨policyHash, -, h⟩ := Except.bind_eq_ok.1 h
    obtain ⟨⟨⟩, -, h⟩ := Except.bind_eq_ok.1 h
    obtain ⟨planHash, hPlan, h⟩ := Except.bind_eq_ok.1 h
    obtain ⟨⟨⟩, hPlanSame, h⟩ := Except.bind_eq_ok.1 h
    obtain ⟨receiptHash, hReceipt, h⟩ := Except.bind_eq_ok.1 h
    obtain ⟨⟨⟩, hReceiptSame, h⟩ := Except.bind_eq_ok.1 h
    obtain ⟨⟨⟩, hValid, h⟩ := Except.bind_eq_ok.1 h
    obtain ⟨⟨⟩, hApprovalSame, h⟩ := Except.bind_eq_ok.1 h
    obtain ⟨approvalHash, hApproval, h⟩ := Except.bind_eq_ok.1 h
    rw [failIf_eq_ok, not_or, not_not, not_not] at hComponent hDatasetSame hPlanSame hApprovalSame
    rw [failIf_eq_ok, not_not] at hReceiptSame h
    rw [hashed_eq_ok] at hDataset hPlan hReceipt hApproval
    refine ⟨reproduce_eq_ok.1 hValid, ?_, ?_, ?_, ?_, ?_, ?_, hComponent.1, ?_⟩
    · rw [hPlanSame.1, hPlan]
    · exact Subtype.ext (hPlanSame.2.trans hPlanSame.1.symm)
    · exact Subtype.ext (hApprovalSame.1.trans hPlanSame.1.symm)
    · rw [hReceiptSame, hReceipt]
    · exact Subtype.ext (hApprovalSame.2.trans hReceiptSame.symm)
    · rw [h, hApproval]
    · rw [hDatasetSame.1, hDataset]
  -- Conversely the receipt was issued for this plan, so that its hashes are those of the binding.
  · rintro ⟨hValid, hCaptures⟩
    obtain ⟨hPolicy, hReceipt⟩ := receipt_of_validatePlan hValid
    obtain ⟨-, hReceiptPolicy, hReceiptDataset, hReceiptComponent⟩ := issueReceipt_eq_ok hReceipt
    have hDatasetSame : binding.datasetHash.1 = receipt.datasetHash.1 :=
      Except.ok.inj (hCaptures.datasetHash.symm.trans hReceiptDataset)
    have hPolicySame : plan.executionPolicyHash.1 = receipt.policyHash.1 :=
      Except.ok.inj (hPolicy.symm.trans hReceiptPolicy)
    have hPass : ∀ {p q : Prop} [Decidable p] [Decidable q] {code : AuthorizationErrorCode} {message : Chars 1 500},
        p → q → failIf (¬ p ∨ ¬ q) code message = .ok () :=
      fun hp hq => failIf_eq_ok.2 (not_or.2 ⟨not_not.2 hp, not_not.2 hq⟩)
    refine Except.bind_eq_ok.2 ⟨(), hPass hCaptures.component hReceiptComponent, ?_⟩
    refine Except.bind_eq_ok.2 ⟨_, hashed_eq_ok.2 hCaptures.datasetHash, ?_⟩
    refine Except.bind_eq_ok.2 ⟨(), hPass rfl hDatasetSame.symm, ?_⟩
    refine Except.bind_eq_ok.2 ⟨_, hashed_eq_ok.2 hPolicy, ?_⟩
    refine Except.bind_eq_ok.2 ⟨(), hPass rfl hPolicySame.symm, ?_⟩
    refine Except.bind_eq_ok.2 ⟨_, hashed_eq_ok.2 hCaptures.planHash, ?_⟩
    refine Except.bind_eq_ok.2 ⟨(), hPass rfl (congrArg _ hCaptures.receiptPlan), ?_⟩
    refine Except.bind_eq_ok.2 ⟨_, hashed_eq_ok.2 hCaptures.receiptHash, ?_⟩
    refine Except.bind_eq_ok.2 ⟨(), failIf_eq_ok.2 (not_not.2 rfl), ?_⟩
    refine Except.bind_eq_ok.2 ⟨(), reproduce_eq_ok.2 hValid, ?_⟩
    refine Except.bind_eq_ok.2 ⟨(), hPass (congrArg _ hCaptures.approvalPlan)
      (congrArg _ hCaptures.approvalReceipt), ?_⟩
    exact Except.bind_eq_ok.2 ⟨_, hashed_eq_ok.2 hCaptures.approvalHash, failIf_eq_ok.2 (not_not.2 rfl)⟩

/-- The verifier accepts exactly what passes the checks, and answers with the binding. -/
theorem verifyAuthorization_eq_success {success : AuthorizationSuccess} :
    verifyAuthorization env plan receipt approval binding policy = .ok (.inl success) ↔
      (validatePlan env plan policy = .ok (.inl receipt) ∧ Captures env plan receipt approval binding) ∧
        success = ⟨binding⟩ := by
  rw [← earlierChecks_eq_ok]
  unfold verifyAuthorization
  cases hChecks : earlierChecks env plan receipt approval binding policy with
  | error stop =>
      cases stop with
      | returns failure => exact iff_of_false (fun h => nomatch Except.ok.inj h) (fun h => nomatch h.1)
      | raises e => exact iff_of_false nofun (fun h => nomatch h.1)
  | ok u =>
      rw [createAuthorizationBinding_eq_ok.2 (earlierChecks_eq_ok.1 hChecks).2]
      show (if binding ≠ binding then _ else _) = _ ↔ _
      rw [if_neg (not_not.2 rfl)]
      exact ⟨fun h => ⟨rfl, (Sum.inl.inj (Except.ok.inj h)).symm⟩, fun h => h.2 ▸ rfl⟩

/-! ## Another plan -/

/-- The verifier never accepts a plan with another hash: it stops before it validates the plan
again. -/
theorem refuses_of_planHash (h : other.planHash ≠ .ok binding.planHash.1) :
    Refuses (earlierChecks env other receipt approval binding policy) := by
  unfold earlierChecks
  refine refuses_failIf_bind (fun _ => refuses_hashed_bind (fun datasetHash _ => ?_))
  refine refuses_failIf_bind (fun _ => refuses_hashed_bind (fun policyHash _ => ?_))
  refine refuses_failIf_bind (fun _ => refuses_hashed_bind (fun planHash hPlan => ?_))
  refine refuses_failIf_bind (fun hSame => ?_)
  rw [not_or, not_not] at hSame
  exact absurd (hSame.1 ▸ hPlan) h

/-- Plans with one hash have one canonical form, unless their hash inputs collide. -/
theorem canonical_of_planHash {digest : Text}
    (hNo : NoCollision analysisPlanHashDomain plan.semanticProjection other.semanticProjection)
    (hPlan : plan.planHash = .ok digest) (hOther : other.planHash = .ok digest) :
    canonicalJsonBytes plan.semanticProjection = canonicalJsonBytes other.semanticProjection := by
  obtain ⟨p, hp, hDigest⟩ := Except.bind_eq_ok.1 hPlan
  obtain ⟨q, hq, hDigest'⟩ := Except.bind_eq_ok.1 hOther
  rw [Except.pure_eq_ok] at hDigest hDigest'
  have hSame := hNo p q hp hq (hDigest.trans hDigest'.symm)
  obtain ⟨-, bs, hBytes, hFraming⟩ := hashPayload_eq_ok hp
  obtain ⟨-, cs, hBytes', hFraming'⟩ := hashPayload_eq_ok hq
  rw [hFraming, hFraming', List.append_cancel_left_eq, List.cons.injEq, List.append_cancel_left_eq,
    List.cons.injEq, List.append_cancel_left_eq, List.cons.injEq] at hSame
  rw [hBytes, hBytes', hSame.2.2.2]

/-- Two answers that differ at most in their times. -/
structure SameAnswer (a b : ResolvedQuestion) : Prop where
  questionId : a.questionId = b.questionId
  targetField : a.targetField = b.targetField
  answer : a.answer = b.answer
  suppliedBy : a.suppliedBy = b.suppliedBy
  verificationStatus : a.verificationStatus = b.verificationStatus

/-- Two plans that differ at most in `resolved_at`. -/
structure DifferInTimes (plan other : AnalysisPlan) : Prop where
  protocolVersion : plan.protocolVersion = other.protocolVersion
  planId : plan.planId = other.planId
  revision : plan.revision = other.revision
  parentPlanHash : plan.parentPlanHash = other.parentPlanHash
  objective : plan.objective = other.objective
  resolvedQuestions : List.Forall₂ SameAnswer plan.resolvedQuestions other.resolvedQuestions
  step : plan.step = other.step
  expectedOutputs : plan.expectedOutputs = other.expectedOutputs
  stopConditions : plan.stopConditions = other.stopConditions
  executionPolicyHash : plan.executionPolicyHash = other.executionPolicyHash

/-- Answers that differ in their times only have one projection. -/
theorem SameAnswer.projection {a b : ResolvedQuestion} (h : SameAnswer a b) :
    a.semanticProjection = b.semanticProjection := by
  unfold ResolvedQuestion.semanticProjection
  rw [h.questionId, h.targetField, h.answer, h.suppliedBy, h.verificationStatus]

/-- Plans that differ in such times only have one hash. -/
theorem DifferInTimes.planHash (h : DifferInTimes plan other) : plan.planHash = other.planHash := by
  have hQuestions : plan.resolvedQuestions.map ResolvedQuestion.semanticProjection =
      other.resolvedQuestions.map ResolvedQuestion.semanticProjection := by
    rw [← List.forall₂_eq_eq_eq, List.forall₂_map_left_iff, List.forall₂_map_right_iff]
    exact h.resolvedQuestions.imp (fun _ _ hSame => hSame.projection)
  unfold AnalysisPlan.planHash AnalysisPlan.semanticProjection
  rw [h.protocolVersion, h.planId, h.revision, h.parentPlanHash, h.objective, hQuestions, h.step,
    h.expectedOutputs, h.stopConditions, h.executionPolicyHash]

/-- They are blocked with the same issues. -/
theorem DifferInTimes.blocked (h : DifferInTimes plan other) : blocked plan = blocked other := by
  funext code message field
  unfold PlanValidation.blocked
  rw [h.planHash]

/-- They leave the same questions undeclared. -/
theorem DifferInTimes.undeclared (h : DifferInTimes plan other) :
    undeclared plan = undeclared other := by
  funext questions
  have hSame := h.resolvedQuestions
  unfold PlanValidation.undeclared
  generalize plan.resolvedQuestions = answers, other.resolvedQuestions = others at hSame
  induction hSame with
  | nil => rfl
  | cons hSame _ ih => rw [List.any_cons, List.any_cons, ih, hSame.questionId, hSame.targetField]

/-- A question finds the same answer in both plans, or none. -/
theorem DifferInTimes.resolutionOf (h : DifferInTimes plan other)
    (question : ClarificationQuestion) :
    Option.Rel SameAnswer (resolutionOf plan question) (resolutionOf other question) := by
  have hSame := h.resolvedQuestions
  unfold PlanValidation.resolutionOf
  generalize plan.resolvedQuestions = answers, other.resolvedQuestions = others at hSame
  induction hSame with
  | nil => exact .none
  | cons hSame _ ih =>
      rw [List.find?_cons, List.find?_cons, hSame.questionId, hSame.targetField]
      split
      · exact .some hSame
      · exact ih

/-- The same holds of confirmed answers. -/
theorem DifferInTimes.confirmed (h : DifferInTimes plan other) (question : ClarificationQuestion) :
    Option.Rel SameAnswer
      ((PlanValidation.resolutionOf plan question).filter (fun r => r.verificationStatus =
        .callerConfirmed))
      ((PlanValidation.resolutionOf other question).filter (fun r => r.verificationStatus =
        .callerConfirmed)) := by
  have hResolution := h.resolutionOf question
  generalize PlanValidation.resolutionOf plan question = found, PlanValidation.resolutionOf other
    question = found'
    at hResolution
  cases hResolution with
  | none => exact .none
  | some hSame =>
      rw [Option.filter_some, Option.filter_some, hSame.verificationStatus]
      split
      · exact .some hSame
      · exact .none

/-- The check of the questions finds the same. -/
theorem DifferInTimes.checkQuestions (h : DifferInTimes plan other)
    (questions : List ClarificationQuestion) :
    ∀ issues missing, checkQuestions plan questions issues missing = checkQuestions other questions
      issues missing := by
  induction questions with
  | nil =>
      intro issues missing
      rw [PlanValidation.checkQuestions, PlanValidation.checkQuestions, h.planHash]
  | cons question questions ih =>
      intro issues missing
      have hConfirmed := h.confirmed question
      rw [PlanValidation.checkQuestions, PlanValidation.checkQuestions, h.step, h.blocked]
      simp only [ih]
      generalize (PlanValidation.resolutionOf plan question).filter _ = found,
        (PlanValidation.resolutionOf other question).filter _ = found' at hConfirmed
      cases hConfirmed with
      | none => rfl
      | some hSame =>
          dsimp only
          rw [hSame.answer]

/-- So does the validation of the required questions. -/
theorem DifferInTimes.validateRequiredQuestions (h : DifferInTimes plan other) :
    validateRequiredQuestions plan = validateRequiredQuestions other := by
  funext guidance
  unfold PlanValidation.validateRequiredQuestions
  simp only [h.blocked, h.undeclared, h.checkQuestions]

/-- Validation never looks at the times of the answers. -/
theorem DifferInTimes.validatePlan (h : DifferInTimes plan other) :
    validatePlan env plan policy = validatePlan env other policy := by
  have hBlock : ∀ {α : Type}, (block plan : _ → _ → _ → Except (Stop ValidationFailure) α) =
    block other := by
    intro α
    funext code message field
    unfold block
    rw [h.blocked]
  have hBlockIf : ∀ (p : Prop) [Decidable p], blockIf p plan = blockIf p other := by
    intro p _
    funext code message field
    unfold blockIf
    rw [hBlock]
  have hRequirements : validateManagedRequirements plan = validateManagedRequirements other := by
    funext rule
    unfold validateManagedRequirements
    rw [h.blocked, h.step]
  have hAmbiguity : ambiguityFailure plan = ambiguityFailure other := by
    funext questions
    unfold ambiguityFailure
    rw [h.blocked, h.planHash]
  unfold PlanValidation.validatePlan evaluatePlan checkPolicy checkPackaged matchingRule
    checkComponent checkLifecycle
    checkGuidance checkInput checkConstraints issueReceipt
  simp only [hBlock, hBlockIf, hRequirements, hAmbiguity, h.validateRequiredQuestions, h.step,
    h.planHash, h.executionPolicyHash]

/-! ## Chains -/

/-- An approval names its receipt and the plan of its receipt. -/
theorem createManualApproval_eq_ok {approvedBy : Text} {approvedAt : AwareDatetime}
    {note : Option Text}
    (h : createManualApproval receipt approvedBy approvedAt note = .ok approval) :
    approval.planHash = receipt.planHash ∧
      receipt.receiptHash = .ok approval.validationReceiptHash.1 ∧
      approval.approvedAt = approvedAt := by
  unfold createManualApproval at h
  obtain ⟨digest, hDigest, h⟩ := Except.bind_eq_ok.1 h
  obtain ⟨receiptHash, hField, h⟩ := Except.bind_eq_ok.1 h
  obtain ⟨actor, -, h⟩ := Except.bind_eq_ok.1 h
  rw [digestField_eq_ok] at hField
  cases note with
  | none =>
      obtain rfl := Except.ok.inj h
      exact ⟨rfl, hField ▸ hDigest, rfl⟩
  | some note =>
      obtain ⟨text, -, h⟩ := Except.bind_eq_ok.1 h
      obtain rfl := Except.ok.inj h
      exact ⟨rfl, hField ▸ hDigest, rfl⟩

/-- A digest fits a field. -/
theorem exists_digestField {v : Value} {domain digest : Text}
    (h : canonicalHash v domain = .ok digest) :
    ∃ d : Sha256Text, d.1 = digest := by
  obtain ⟨payload, -, hDigest⟩ := Except.bind_eq_ok.1 h
  exact ⟨⟨digest, Except.pure_eq_ok.1 hDigest ▸ isSha256_sha256Hex payload⟩, rfl⟩

/-- A text field is made of its own text. -/
theorem charsField_val {low high : ℕ} (text : Chars low high) :
    charsField low high text.1 = .ok text := by
  unfold charsField
  rw [dif_pos text.2]

/-- Every receipt can be approved. -/
theorem exists_manualApproval (receipt : ValidationReceipt) (approvedBy : Chars 1 160)
    (approvedAt : AwareDatetime) (note : Option (Chars 1 500)) :
    ∃ approval, createManualApproval receipt approvedBy.1 approvedAt (note.map Subtype.val) =
      .ok approval := by
  obtain ⟨digest, hDigest⟩ := receipt.receiptHash_isOk
  obtain ⟨receiptHash, rfl⟩ := exists_digestField hDigest
  unfold createManualApproval
  cases note with
  | none =>
      refine ⟨⟨receipt.planHash, receiptHash, approvedBy, approvedAt, none⟩,
        Except.bind_eq_ok.2 ⟨_, hDigest, ?_⟩⟩
      exact Except.bind_eq_ok.2 ⟨_, digestField_eq_ok.2 rfl,
        Except.bind_eq_ok.2 ⟨_, charsField_val _, rfl⟩⟩
  | some text =>
      refine ⟨⟨receipt.planHash, receiptHash, approvedBy, approvedAt, some text⟩,
        Except.bind_eq_ok.2 ⟨_, hDigest, ?_⟩⟩
      refine Except.bind_eq_ok.2 ⟨_, digestField_eq_ok.2 rfl,
        Except.bind_eq_ok.2 ⟨_, charsField_val _, ?_⟩⟩
      exact Except.bind_eq_ok.2 ⟨_, charsField_val _, rfl⟩

/-- A valid plan, its receipt, an approval of the receipt and the binding that captures them are
accepted. -/
theorem honest_chain_accepted (hIso : ∀ time, Text.Encodable (env.isoformat time))
    (hValid : validatePlan env plan policy = .ok (.inl receipt)) {approvedBy : Text}
    {approvedAt : AwareDatetime}
    {note : Option Text} (hApproval : createManualApproval receipt approvedBy approvedAt note =
      .ok approval) :
    ∃ binding, createAuthorizationBinding env plan receipt approval = .ok binding ∧
      verifyAuthorization env plan receipt approval binding policy = .ok (.inl ⟨binding⟩) := by
  obtain ⟨hPlan, -, hDataset, -⟩ := issueReceipt_eq_ok (receipt_of_validatePlan hValid).2
  obtain ⟨hApprovalPlan, hReceipt, -⟩ := createManualApproval_eq_ok hApproval
  have hAccepts : Accepts (approval.dump env.isoformat) := by
    refine accepts_objectOf.2 ?_
    simp only [List.forall_mem_cons, List.not_mem_nil, false_imp_iff, implies_true, and_true]
    refine ⟨accepts_one, accepts_lit _, accepts_str.2 (encodable_sha256Text _),
      accepts_str.2 (encodable_sha256Text _), accepts_str.2 (encodable_chars _),
      accepts_str.2 (hIso _), ?_⟩
    cases approval.note with
    | none => exact accepts_null
    | some text => exact accepts_str.2 (encodable_chars text)
  obtain ⟨digest, hDigest⟩ := (@canonicalHash_isOk_iff _ manualApprovalHashDomain (by decide)).2
    hAccepts
  obtain ⟨approvalHash, rfl⟩ := exists_digestField hDigest
  have hCaptures : Captures env plan receipt approval
      ⟨receipt.planHash, approval.validationReceiptHash, approvalHash, plan.step.component,
        receipt.datasetHash⟩ :=
    ⟨hPlan, rfl, hApprovalPlan, hReceipt, rfl, hDigest, rfl, hDataset⟩
  exact ⟨_, createAuthorizationBinding_eq_ok.2 hCaptures,
    verifyAuthorization_eq_success.2 ⟨⟨hValid, hCaptures⟩, rfl⟩⟩

/-- The verifier accepts exactly the chains that bind each other: validation gives the receipt
again, the approval names the plan and the receipt, and the binding is the one that captures them
now. Where the earlier checks pass, capturing it raises nothing. In an accepted chain no plan with
another canonical projection takes the place of the plan, unless their hash inputs collide, and one
that differs only in the times of its answers always does. -/
theorem authorization_mutually_bound (env : Environment) (plan : AnalysisPlan)
    (receipt : ValidationReceipt)
    (approval : ApprovalRecord) (binding : AuthorizationBinding) (policy : ExecutionPolicy) :
    ((∃ success, verifyAuthorization env plan receipt approval binding policy =
      .ok (.inl success)) ↔
      validatePlan env plan policy = .ok (.inl receipt) ∧ plan.planHash = .ok approval.planHash.1 ∧
        receipt.receiptHash = .ok approval.validationReceiptHash.1 ∧
        createAuthorizationBinding env plan receipt approval = .ok binding) ∧
    (earlierChecks env plan receipt approval binding policy = .ok () →
      ∃ expected, createAuthorizationBinding env plan receipt approval = .ok expected) ∧
    ((∃ success, verifyAuthorization env plan receipt approval binding policy =
      .ok (.inl success)) →
      ∀ other : AnalysisPlan,
        (canonicalJsonBytes plan.semanticProjection ≠ canonicalJsonBytes other.semanticProjection →
          NoCollision analysisPlanHashDomain plan.semanticProjection other.semanticProjection →
          ∃ failure, verifyAuthorization env other receipt approval binding policy =
            .ok (.inr failure)) ∧
        (DifferInTimes plan other →
          ∃ success, verifyAuthorization env other receipt approval binding policy =
            .ok (.inl success))) := by
  -- Acceptance is the validation run again together with the binding built again.
  have hAccepted : (∃ success, verifyAuthorization env plan receipt approval binding policy =
    .ok (.inl success)) ↔
      validatePlan env plan policy = .ok (.inl receipt) ∧ Captures env plan receipt approval
        binding :=
    ⟨fun ⟨_, h⟩ => (verifyAuthorization_eq_success.1 h).1, fun h =>
      ⟨_, verifyAuthorization_eq_success.2 ⟨h, rfl⟩⟩⟩
  refine ⟨hAccepted.trans (and_congr_right (fun _ => ?_)), fun h => ?_, fun h other =>
    ⟨fun hDiffers hNo => ?_,
    fun hTimes => ?_⟩⟩
  · rw [createAuthorizationBinding_eq_ok]
    refine ⟨fun h => ⟨?_, ?_, h⟩, fun h => h.2.2⟩
    · rw [h.approvalPlan, h.planHash]
    · rw [h.approvalReceipt, h.receiptHash]
  · exact ⟨binding, createAuthorizationBinding_eq_ok.2 (earlierChecks_eq_ok.1 h).2⟩
  -- Another plan has another hash, which the binding does not name.
  · obtain ⟨-, hCaptures⟩ := hAccepted.1 h
    have hStale : other.planHash ≠ .ok binding.planHash.1 :=
      fun hHash => hDiffers (canonical_of_planHash hNo hCaptures.planHash hHash)
    obtain ⟨failure, hRefused⟩ := @refuses_of_planHash env other policy receipt approval binding
      hStale
    refine ⟨failure, ?_⟩
    unfold verifyAuthorization
    rw [hRefused]
  -- Times are in no hash.
  · obtain ⟨hValid, hCaptures⟩ := hAccepted.1 h
    refine ⟨_, verifyAuthorization_eq_success.2 ⟨⟨hTimes.validatePlan ▸ hValid, ?_⟩, rfl⟩⟩
    exact { hCaptures with
      planHash := hTimes.planHash ▸ hCaptures.planHash
      component := hTimes.step ▸ hCaptures.component
      datasetHash := hTimes.step ▸ hCaptures.datasetHash }

/-! ## An accepted chain -/

/-- The question that the component asks. -/
def firstQuestion : ClarificationQuestion := frequencyQuestion ⟨py "first", by decide⟩

/-- `unansweredPlan` under a policy, with the confirmed answer to `firstQuestion` and the input that
it speaks of. -/
def answeredPlan (executionPolicyHash : Sha256Text) (resolvedAt : AwareDatetime) : AnalysisPlan :=
  { unansweredPlan with
    resolvedQuestions :=
      [{ questionId := firstQuestion.questionId, targetField := firstQuestion.targetField
         answer := .str (py "daily"), suppliedBy := ⟨py "caller", by decide⟩
         verificationStatus := .callerConfirmed, resolvedAt
         accepts_answer := accepts_str.2 (encodable_py _)
         distinct_answer := Value.distinct_str _ }]
    step := { unansweredPlan.step with
      dataset := { datasetId := unansweredPlan.step.dataset.datasetId
                   input := [(py "frequency", .str (py "daily"))]
                   accepts_input := accepts_obj.2 (List.forall_mem_singleton.2
                     ⟨encodable_py _, accepts_str.2 (encodable_py _)⟩)
                   distinct_input := by simp } }
    executionPolicyHash
    ids_nodup := List.nodup_singleton _
    targets_nodup := List.nodup_singleton _ }

/-- A policy that allows the component of `unansweredPlan` as a draft, with a frequency. -/
def draftPolicy : ExecutionPolicy where
  policyId := ⟨py "drafts", by decide⟩
  version := ⟨py "1.0.0", isSemver_one⟩
  components :=
    [{ profileId := unansweredPlan.step.profileId, component := unansweredPlan.step.component
       allowedLifecycle := .draft, requireExplicitOptIn := true
       requirements := [⟨firstQuestion.targetField, .managedRequiredInputMissing, true⟩]
       fields_nodup := List.nodup_singleton _ }]
  components_ne := List.cons_ne_nil _ _
  profiles_nodup := List.nodup_singleton _

/-- Guidance that asks about the frequency. -/
def frequencyGuidance : List (Option Text × PyValue) :=
  [(some (py "required_questions"), .seq .list [.mapping (rawQuestion "first")])]

/-- The component of `unansweredPlan`, a draft. -/
def installedDraft : InstalledComponent where
  componentId := py "dq.returns.simple_return"
  version := py "1.0.0"
  metadata :=
    [(some (py "lifecycle"), .str (py "draft")), (some (py "guidance"), .mapping frequencyGuidance)]

/-- An installation with the policy and the component. -/
def installation : Environment where
  profile := fun policyId => if policyId = py "drafts" then some (py "drafts") else none
  readPolicy := fun _ => .ok draftPolicy
  componentRecord := fun _ => .ok installedDraft
  verifySubject := fun _ => .ok (digestOf []).1
  validateInput := fun _ _ => .ok [(some (py "frequency"), .str (py "daily"))]
  preflight := fun _ _ => .ok ()
  isoformat := AwareDatetime.isoformat

/-- The sample plan and its component are packaged. -/
theorem checkPackaged_installation {plan : AnalysisPlan} :
    checkPackaged installation plan draftPolicy = .ok () := by
  have hPackaged : loadExecutionPolicy installation draftPolicy.policyId = .ok draftPolicy := by
    simp [loadExecutionPolicy, installation, draftPolicy, bind, Except.bind, pure, Except.pure]
  rw [checkPackaged, hPackaged]
  exact blockIf_eq_ok.2 (not_not.2 rfl)

variable (policyHash : Sha256Text) (resolvedAt : AwareDatetime)

/-- The plan answers what the component asks. -/
theorem checkGuidance_answeredPlan : checkGuidance (answeredPlan policyHash resolvedAt)
    installedDraft = .ok () := by
  have hGuidance : PyValue.get? installedDraft.metadata "guidance" =
    some (.mapping frequencyGuidance) := rfl
  have hDeclares : Declares frequencyGuidance [firstQuestion] :=
    ⟨_, rfl, .cons ⟨_, rfl, rfl⟩ .nil⟩
  have hAll : AllDeclared (answeredPlan policyHash resolvedAt)
    [firstQuestion] := by
    intro resolution hMem
    obtain rfl := List.mem_singleton.1 hMem
    exact ⟨_, List.mem_cons_self, rfl, rfl⟩
  have hResolves : Resolves (answeredPlan policyHash resolvedAt)
    firstQuestion :=
    ⟨_, ⟨List.mem_cons_self, rfl, rfl, rfl⟩, _, rfl, rfl⟩
  rw [checkGuidance, hGuidance]
  show returningSome (validateRequiredQuestions _ frequencyGuidance) = _
  rw [(validate_of_declares hDeclares).2 hAll, checkQuestions_resolved hResolves]
  rfl

/-- The sample component passes the check of its lifecycle. -/
theorem checkLifecycle_answeredPlan {rule : ManagedComponentRule} (h : rule ∈ draftPolicy.components) :
    checkLifecycle (answeredPlan policyHash resolvedAt) installedDraft rule = .ok () := by
  have hLifecycle : installedLifecycle installedDraft = some .draft := by decide
  obtain rfl := List.mem_singleton.1 h
  rw [checkLifecycle, hLifecycle]
  refine blockIf_eq_ok.2 ?_
  rintro (h | h | ⟨-, h⟩)
  · exact h rfl
  · exact h rfl
  · cases h

/-- The plan passes validation. -/
theorem exists_receipt : ∃ policyHash receipt,
    validatePlan installation (answeredPlan policyHash resolvedAt) draftPolicy =
      .ok (.inl receipt) := by
  obtain ⟨policyDigest, hPolicy⟩ := draftPolicy.policyHash_isOk
  obtain ⟨policyHash, rfl⟩ := exists_digestField hPolicy
  have hRevision : (answeredPlan policyHash resolvedAt).revision.natAbs ≤ maxSafeInteger :=
    (by decide : (1 : ℤ).natAbs ≤ maxSafeInteger)
  obtain ⟨planDigest, hPlan⟩ := (answeredPlan policyHash resolvedAt).planHash_isOk_iff.2 hRevision
  obtain ⟨planHash, rfl⟩ := exists_digestField hPlan
  obtain ⟨datasetDigest, hDataset⟩ :=
    (answeredPlan policyHash resolvedAt).step.dataset.datasetHash_isOk
  obtain ⟨datasetHash, rfl⟩ := exists_digestField hDataset
  obtain ⟨receipt, hReceipt⟩ : ∃ receipt, issueReceipt (answeredPlan policyHash resolvedAt)
    draftPolicy = .ok receipt :=
    ⟨_, Except.bind_eq_ok.2 ⟨_, hPlan, Except.bind_eq_ok.2 ⟨_, digestField_eq_ok.2 rfl, Except.bind_eq_ok.2 ⟨_, hPolicy,
      Except.bind_eq_ok.2 ⟨_, digestField_eq_ok.2 rfl, Except.bind_eq_ok.2 ⟨_, hDataset,
      Except.bind_eq_ok.2 ⟨_, digestField_eq_ok.2 rfl, rfl⟩⟩⟩⟩⟩⟩⟩
  obtain ⟨rule, hMem, hRule, hRequirements⟩ : ∃ rule ∈ draftPolicy.components,
      matchingRule (answeredPlan policyHash resolvedAt) draftPolicy = .ok rule ∧
        validateManagedRequirements (answeredPlan policyHash resolvedAt) rule = .ok none := by
    refine ⟨_, List.mem_cons_self, ?_, rfl⟩
    simp [matchingRule, draftPolicy, answeredPlan, unansweredPlan]
  have hComponent : checkComponent installation (answeredPlan policyHash resolvedAt) =
    .ok installedDraft := by
    simp [checkComponent, installedRef, installation, installedDraft, answeredPlan, unansweredPlan,
      bind, Except.bind,
      pure, Except.pure]
  refine ⟨policyHash, receipt, validatePlan_eq_receipt.2 ?_⟩
  refine Except.bind_eq_ok.2 ⟨(), Except.bind_eq_ok.2 ⟨_, raising_eq_ok.2 hPolicy,
    Except.bind_eq_ok.2 ⟨(),
    blockIf_eq_ok.2 (not_not.2 rfl), checkPackaged_installation⟩⟩, ?_⟩
  refine Except.bind_eq_ok.2 ⟨_, hRule, Except.bind_eq_ok.2 ⟨_, hComponent, ?_⟩⟩
  refine Except.bind_eq_ok.2 ⟨(), checkLifecycle_answeredPlan policyHash resolvedAt hMem,
    Except.bind_eq_ok.2 ⟨(),
    checkGuidance_answeredPlan policyHash resolvedAt, ?_⟩⟩
  rw [hRequirements]
  exact Except.bind_eq_ok.2 ⟨(), rfl, Except.bind_eq_ok.2 ⟨_, rfl, Except.bind_eq_ok.2 ⟨(), rfl,
    raising_eq_ok.2 hReceipt⟩⟩⟩

/-- A plan that was answered on one day and approved on the next: the chain is accepted, also with
the plan that was answered on the day of the approval. -/
theorem authorization_mutually_bound_approved : ∃ monday tuesday policyHash receipt approval
    binding,
    Calendar.datetime 2026 1 5 9 0 0 0 0 = some monday ∧ Calendar.datetime 2026 1 6 9 0 0 0 0 =
      some tuesday ∧
      createManualApproval receipt (py "reviewer") tuesday none = .ok approval ∧
      createAuthorizationBinding installation (answeredPlan policyHash monday) receipt approval =
        .ok binding ∧
      ∀ resolvedAt ∈ [monday, tuesday], ∃ success, verifyAuthorization installation
        (answeredPlan policyHash resolvedAt)
        receipt approval binding draftPolicy = .ok (.inl success) := by
  obtain ⟨monday, hMonday⟩ :=
    Option.isSome_iff_exists.1 (by decide : (Calendar.datetime 2026 1 5 9 0 0 0 0).isSome = true)
  obtain ⟨tuesday, hTuesday⟩ :=
    Option.isSome_iff_exists.1 (by decide : (Calendar.datetime 2026 1 6 9 0 0 0 0).isSome = true)
  obtain ⟨policyHash, receipt, hValid⟩ := exists_receipt monday
  obtain ⟨approval, hApproval⟩ := exists_manualApproval receipt ⟨py "reviewer", by decide⟩
    tuesday none
  obtain ⟨binding, hBinding, hVerified⟩ := honest_chain_accepted AwareDatetime.encodable_isoformat
    hValid hApproval
  obtain ⟨hAccepted, -, hReplaced⟩ :=
    authorization_mutually_bound installation (answeredPlan policyHash monday) receipt
    approval binding draftPolicy
  refine ⟨monday, tuesday, policyHash, receipt, approval, binding, hMonday, hTuesday, hApproval,
    hBinding, ?_⟩
  rw [List.forall_mem_cons, List.forall_mem_singleton]
  refine ⟨⟨_, hVerified⟩, (hReplaced ⟨_, hVerified⟩ (answeredPlan policyHash tuesday)).2 ?_⟩
  exact { protocolVersion := rfl, planId := rfl, revision := rfl, parentPlanHash := rfl
          objective := rfl, resolvedQuestions := .cons ⟨rfl, rfl, rfl, rfl, rfl⟩ .nil, step := rfl
          expectedOutputs := rfl, stopConditions := rfl, executionPolicyHash := rfl }

end PlanValidation
