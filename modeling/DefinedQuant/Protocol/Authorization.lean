import DefinedQuant.Protocol.Plan

/-!
# Execution policies and authorization records

A policy lists the components that a managed profile may run. A receipt records that one plan passed
validation under one policy, an approval records that somebody approved the plan and the receipt,
and a binding captures the roots of all of them. Each record is hashed as a whole, in a domain of
its own.
-/

namespace Protocol

open Calendar (AwareDatetime)
open Json Canonical

/-! ## Policies -/

/-- `RequirementFailureCode` -/
inductive RequirementFailureCode where
  | managedRequiredInputMissing
  | managedTimestampRequired
  deriving DecidableEq

def RequirementFailureCode.value : RequirementFailureCode → String
  | .managedRequiredInputMissing => "managed_required_input_missing"
  | .managedTimestampRequired => "managed_timestamp_required"

/-- `InputRequirement`. A null value never satisfies it. -/
structure InputRequirement where
  field : SafeId
  failureCode : RequirementFailureCode
  requireNonEmpty : Bool
  deriving DecidableEq

def InputRequirement.dump (self : InputRequirement) : Value :=
  objectOf [("field", .str self.field.1), ("failure_code", .lit self.failureCode.value),
    ("require_non_null", .bool true), ("require_non_empty", .bool self.requireNonEmpty)]

/-- `ManagedComponentRule` -/
structure ManagedComponentRule where
  profileId : SafeId
  component : ComponentRef
  allowedLifecycle : ComponentLifecycle
  requireExplicitOptIn : Bool
  requirements : List InputRequirement
  /-- `validate_requirements` -/
  fields_nodup : (requirements.map InputRequirement.field).Nodup
  deriving DecidableEq

def ManagedComponentRule.dump (self : ManagedComponentRule) : Value :=
  objectOf [("profile_id", .str self.profileId.1), ("component", self.component.dump),
    ("allowed_lifecycle", .lit self.allowedLifecycle.value),
    ("require_explicit_opt_in", .bool self.requireExplicitOptIn),
    ("requirements", .list (self.requirements.map InputRequirement.dump))]

/-- `ExecutionPolicy` -/
structure ExecutionPolicy where
  policyId : SafeId
  version : Semver
  components : List ManagedComponentRule
  components_ne : components ≠ []
  /-- `validate_unique_rules` -/
  profiles_nodup : (components.map ManagedComponentRule.profileId).Nodup
  deriving DecidableEq

/-- `model_dump(mode="json")` -/
def ExecutionPolicy.dump (self : ExecutionPolicy) : Value :=
  objectOf [("schema_version", .int 1), ("policy_id", .str self.policyId.1),
    ("version", .str self.version.1),
    ("components", .list (self.components.map ManagedComponentRule.dump))]

/-- `EXECUTION_POLICY_HASH_DOMAIN` -/
def executionPolicyHashDomain : Text := py "managed.execution_policy.v1"

/-- `policy_hash` -/
def ExecutionPolicy.policyHash (self : ExecutionPolicy) : Except ValueError Text :=
  canonicalHash self.dump executionPolicyHashDomain

/-! ## Receipts -/

/-- `ValidationCheck`. Its status is always `passed`. -/
structure ValidationCheck where
  checkId : SafeId
  deriving DecidableEq

def ValidationCheck.dump (self : ValidationCheck) : Value :=
  objectOf [("check_id", .str self.checkId.1), ("status", .lit "passed")]

/-- `model_dump(mode="json")` of a runner identity -/
def RunnerIdentity.dump (self : RunnerIdentity) : Value :=
  objectOf [("name", .str self.name.1), ("version", .str self.version.1)]

/-- `ValidationReceipt` -/
structure ValidationReceipt where
  planHash : Sha256Text
  policyHash : Sha256Text
  component : ComponentRef
  datasetHash : Sha256Text
  validator : RunnerIdentity
  checks : List ValidationCheck
  checks_ne : checks ≠ []
  /-- `validate_checks` -/
  checks_nodup : (checks.map ValidationCheck.checkId).Nodup
  deriving DecidableEq

/-- `model_dump(mode="json")` -/
def ValidationReceipt.dump (self : ValidationReceipt) : Value :=
  objectOf [("schema_version", .int 1), ("status", .lit "validated"),
    ("plan_hash", .str self.planHash.1), ("policy_hash", .str self.policyHash.1),
    ("component", self.component.dump), ("dataset_hash", .str self.datasetHash.1),
    ("validator", self.validator.dump), ("checks", .list (self.checks.map ValidationCheck.dump))]

/-- `VALIDATION_RECEIPT_HASH_DOMAIN` -/
def validationReceiptHashDomain : Text := py "managed.validation_receipt.v1"

/-- `receipt_hash` -/
def ValidationReceipt.receiptHash (self : ValidationReceipt) : Except ValueError Text :=
  canonicalHash self.dump validationReceiptHashDomain

/-! ## Approvals and bindings -/

/-- `ApprovalRecord`. Its kind is always `manual`. -/
structure ApprovalRecord where
  planHash : Sha256Text
  validationReceiptHash : Sha256Text
  approvedBy : Chars 1 160
  approvedAt : AwareDatetime
  note : Option (Chars 1 500)
  deriving DecidableEq

/-- `model_dump(mode="json")`, for the text of a datetime. -/
def ApprovalRecord.dump (isoformat : AwareDatetime → Text) (self : ApprovalRecord) : Value :=
  objectOf [("schema_version", .int 1), ("authorization_kind", .lit "manual"),
    ("plan_hash", .str self.planHash.1),
    ("validation_receipt_hash", .str self.validationReceiptHash.1),
    ("approved_by", .str self.approvedBy.1), ("approved_at", .str (isoformat self.approvedAt)),
    ("note", match self.note with
      | none => .null
      | some note => .str note.1)]

/-- `MANUAL_APPROVAL_HASH_DOMAIN` -/
def manualApprovalHashDomain : Text := py "managed.manual_approval.v1"

/-- `approval_hash` -/
def ApprovalRecord.approvalHash (isoformat : AwareDatetime → Text) (self : ApprovalRecord) :
    Except ValueError Text :=
  canonicalHash (self.dump isoformat) manualApprovalHashDomain

/-- `AuthorizationBinding` -/
structure AuthorizationBinding where
  planHash : Sha256Text
  validationReceiptHash : Sha256Text
  approvalHash : Sha256Text
  component : ComponentRef
  datasetHash : Sha256Text
  deriving DecidableEq

/-- `AuthorizationErrorCode` -/
inductive AuthorizationErrorCode where
  | planRevisionStale
  | validationReceiptMismatch
  | approvalBindingMismatch
  | componentBindingMismatch
  | datasetBindingMismatch
  | policyBindingMismatch
  | authorizationBindingMismatch
  deriving DecidableEq

/-- `AuthorizationFailure` -/
structure AuthorizationFailure where
  code : AuthorizationErrorCode
  message : Chars 1 500
  deriving DecidableEq

/-- `AuthorizationSuccess` -/
structure AuthorizationSuccess where
  binding : AuthorizationBinding
  deriving DecidableEq

/-! ## Hashes -/

/-- A policy has a canonical form. -/
theorem ExecutionPolicy.policyHash_isOk (self : ExecutionPolicy) :
    ∃ digest, self.policyHash = .ok digest := by
  refine (canonicalHash_isOk_iff (by decide)).2 (accepts_objectOf.2 ?_)
  simp only [List.forall_mem_cons, List.not_mem_nil, false_imp_iff, implies_true, and_true]
  refine ⟨accepts_one, accepts_str.2 (encodable_safeId _), accepts_str.2 (encodable_semver _),
    accepts_seq.2 (List.forall_mem_map.2 (fun rule _ => accepts_objectOf.2 ?_))⟩
  simp only [List.forall_mem_cons, List.not_mem_nil, false_imp_iff, implies_true, and_true]
  refine ⟨accepts_str.2 (encodable_safeId _), rule.component.accepts_dump, accepts_lit _,
    accepts_bool _,
    accepts_seq.2 (List.forall_mem_map.2 (fun requirement _ => accepts_objectOf.2 ?_))⟩
  simp only [List.forall_mem_cons, List.not_mem_nil, false_imp_iff, implies_true, and_true]
  exact ⟨accepts_str.2 (encodable_safeId _), accepts_lit _, accepts_bool _, accepts_bool _⟩

/-- A dataset binding has a canonical form. -/
theorem DatasetBinding.datasetHash_isOk (self : DatasetBinding) :
    ∃ digest, self.datasetHash = .ok digest :=
  (canonicalHash_isOk_iff (by decide)).2 self.accepts_dump

/-- A receipt has a canonical form. -/
theorem ValidationReceipt.receiptHash_isOk (self : ValidationReceipt) :
    ∃ digest, self.receiptHash = .ok digest := by
  refine (canonicalHash_isOk_iff (by decide)).2 (accepts_objectOf.2 ?_)
  simp only [List.forall_mem_cons, List.not_mem_nil, false_imp_iff, implies_true, and_true]
  refine ⟨accepts_one, accepts_lit _, accepts_str.2 (encodable_sha256Text _),
    accepts_str.2 (encodable_sha256Text _), self.component.accepts_dump,
    accepts_str.2 (encodable_sha256Text _), accepts_objectOf.2 ?_,
    accepts_seq.2 (List.forall_mem_map.2 (fun check _ => accepts_objectOf.2 ?_))⟩
  · simp only [List.forall_mem_cons, List.not_mem_nil, false_imp_iff, implies_true, and_true]
    exact ⟨accepts_str.2 (encodable_safeId _), accepts_str.2 (encodable_semver _)⟩
  · simp only [List.forall_mem_cons, List.not_mem_nil, false_imp_iff, implies_true, and_true]
    exact ⟨accepts_str.2 (encodable_safeId _), accepts_lit _⟩

end Protocol
