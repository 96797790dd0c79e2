import DefinedQuant.Lib.AwareDatetime
import DefinedQuant.Protocol.CanonicalAccepts
import DefinedQuant.Protocol.Operation

/-!
# Analysis plans

A plan proposes one step of a component on one bound dataset, with the answers to the component's
questions. Its hash covers its semantic projection, which leaves out when the answers were given.
The revision number of a plan has no upper bound, and it alone decides whether the projection has a
canonical form.
-/

namespace Protocol

open Calendar (AwareDatetime)
open Json Canonical

/-! ## Objects with literal keys -/

/-- A dict with literal keys. -/
def objectOf (members : List (String × Value)) : Value :=
  .obj (members.map (fun p => (py p.1, p.2)))

/-- An object with literal names is accepted when its values are. -/
theorem accepts_objectOf {members : List (String × Value)} :
    Accepts (objectOf members) ↔ ∀ p ∈ members, Accepts p.2 := by
  rw [objectOf, accepts_obj, List.forall_mem_map]
  exact forall₂_congr (fun p _ => and_iff_right (encodable_py p.1))

/-! ## Plans -/

/-- `QuestionVerificationStatus` -/
inductive QuestionVerificationStatus where
  | unverified
  | callerConfirmed
  deriving DecidableEq

def QuestionVerificationStatus.value : QuestionVerificationStatus → String
  | .unverified => "unverified"
  | .callerConfirmed => "caller_confirmed"

/-- `ResolvedQuestion` -/
structure ResolvedQuestion where
  questionId : SafeId
  targetField : SafeId
  answer : Value
  suppliedBy : Chars 1 160
  verificationStatus : QuestionVerificationStatus
  resolvedAt : AwareDatetime
  /-- `validate_answer` -/
  accepts_answer : Accepts answer
  distinct_answer : answer.Distinct

/-- `semantic_projection`, without the time of the answer -/
def ResolvedQuestion.semanticProjection (self : ResolvedQuestion) : Value :=
  objectOf [("schema_version", .int 1), ("question_id", .str self.questionId.1),
    ("target_field", .str self.targetField.1), ("answer", self.answer),
    ("supplied_by", .str self.suppliedBy.1),
    ("verification_status", .lit self.verificationStatus.value)]

/-- `DatasetBinding` -/
structure DatasetBinding where
  datasetId : SafeId
  input : Members
  /-- `validate_canonical_input` -/
  accepts_input : Accepts (.obj input)
  distinct_input : (Value.obj input).Distinct

/-- `model_dump(mode="json")` -/
def DatasetBinding.dump (self : DatasetBinding) : Value :=
  objectOf [("schema_version", .int 1), ("dataset_id", .str self.datasetId.1),
    ("verification_status", .lit "unverified"), ("input", .obj self.input)]

/-- `DATASET_BINDING_HASH_DOMAIN` -/
def datasetBindingHashDomain : Text := py "managed.dataset_binding.v1"

/-- `dataset_hash` -/
def DatasetBinding.datasetHash (self : DatasetBinding) : Except ValueError Text :=
  canonicalHash self.dump datasetBindingHashDomain

/-- `ComponentLifecycle` -/
inductive ComponentLifecycle where
  | draft
  | published
  | deprecated
  deriving DecidableEq

def ComponentLifecycle.value : ComponentLifecycle → String
  | .draft => "draft"
  | .published => "published"
  | .deprecated => "deprecated"

/-- `model_dump(mode="json")` of a component reference -/
def ComponentRef.dump (self : ComponentRef) : Value :=
  objectOf [("id", .str self.id.1), ("version", .str self.version.1),
    ("subject_hash", .str self.subjectHash.1)]

/-- `PlanStep` -/
structure PlanStep where
  stepId : SafeId
  profileId : SafeId
  component : ComponentRef
  componentLifecycle : ComponentLifecycle
  explicitDraftOptIn : Bool
  dataset : DatasetBinding

/-- `model_dump(mode="json")` -/
def PlanStep.dump (self : PlanStep) : Value :=
  objectOf [("schema_version", .int 1), ("step_id", .str self.stepId.1),
    ("profile_id", .str self.profileId.1), ("component", self.component.dump),
    ("component_lifecycle", .lit self.componentLifecycle.value),
    ("explicit_draft_opt_in", .bool self.explicitDraftOptIn), ("dataset", self.dataset.dump)]

/-- `PlanText` -/
abbrev PlanText := Chars 1 500

/-- `AnalysisPlan`. Its protocol version is one of the last three. -/
structure AnalysisPlan where
  protocolVersion : ProtocolVersion
  planId : SafeId
  revision : ℤ
  parentPlanHash : Option Sha256Text
  objective : PlanText
  resolvedQuestions : List ResolvedQuestion
  step : PlanStep
  expectedOutputs : Bounded PlanText 1 50
  stopConditions : Bounded PlanText 1 50
  executionPolicyHash : Sha256Text
  managed : protocolVersion ≠ .v010
  one_le_revision : 1 ≤ revision
  /-- `validate_revision_and_questions` -/
  parent_iff : parentPlanHash = none ↔ revision = 1
  ids_nodup : (resolvedQuestions.map ResolvedQuestion.questionId).Nodup
  targets_nodup : (resolvedQuestions.map ResolvedQuestion.targetField).Nodup

/-- `semantic_projection` -/
def AnalysisPlan.semanticProjection (self : AnalysisPlan) : Value :=
  objectOf [("schema_version", .int 1), ("protocol_version", .lit self.protocolVersion.value),
    ("plan_id", .str self.planId.1), ("revision", .int self.revision),
    ("parent_plan_hash", match self.parentPlanHash with
      | none => .null
      | some digest => .str digest.1),
    ("objective", .str self.objective.1),
    ("resolved_questions", .list (self.resolvedQuestions.map ResolvedQuestion.semanticProjection)),
    ("step", self.step.dump),
    ("expected_outputs", .list (self.expectedOutputs.1.map (fun t => .str t.1))),
    ("stop_conditions", .list (self.stopConditions.1.map (fun t => .str t.1))),
    ("execution_policy_hash", .str self.executionPolicyHash.1)]

/-- `ANALYSIS_PLAN_HASH_DOMAIN` -/
def analysisPlanHashDomain : Text := py "managed.analysis_plan.v1"

/-- `plan_hash` -/
def AnalysisPlan.planHash (self : AnalysisPlan) : Except ValueError Text :=
  canonicalHash self.semanticProjection analysisPlanHashDomain

/-! ## Pattern-bound texts have a UTF-8 form -/

/-- A text of characters that are no surrogates encodes. -/
theorem encodable_of_forall {t : Text} {p : CodePoint → Bool} (hp : ∀ c, p c = true →
    ¬ c.IsSurrogate)
    (h : ∀ c ∈ t, p c = true) : Text.Encodable t :=
  fun c hc => hp c (h c hc)

/-- No character of an identifier is a surrogate. -/
theorem isIdChar_not_surrogate (c : CodePoint) (h : c.isIdChar = true) : ¬ c.IsSurrogate := by
  simp only [CodePoint.isIdChar, CodePoint.isLower, CodePoint.isDigit, Bool.or_eq_true,
    Bool.and_eq_true, decide_eq_true_eq, beq_iff_eq] at h
  intro hSurrogate
  have hLow := hSurrogate.1
  omega

/-- An identifier encodes. -/
theorem encodable_of_isIdentifier {t : Text} (h : isIdentifier t = true) : Text.Encodable t := by
  refine encodable_of_forall isIdChar_not_surrogate ?_
  cases t with
  | nil => cases h
  | cons c rest =>
      rw [isIdentifier, Bool.and_eq_true, List.all_eq_true] at h
      refine List.forall_mem_cons.2 ⟨?_, h.2⟩
      rw [CodePoint.isIdChar, h.1]
      rfl

/-- A safe id encodes. -/
theorem encodable_safeId (t : SafeId) : Text.Encodable t.1 := by
  have h := t.2
  rw [isSafeId, Bool.and_eq_true] at h
  exact encodable_of_isIdentifier h.1

/-- A digest encodes. -/
theorem encodable_sha256Text (t : Sha256Text) : Text.Encodable t.1 := by
  have h := t.2
  rw [isSha256, Bool.and_eq_true, List.all_eq_true] at h
  refine encodable_of_forall (fun c hc => ?_) h.2
  simp only [CodePoint.isDigit, Bool.or_eq_true, Bool.and_eq_true, decide_eq_true_eq] at hc
  intro hSurrogate
  have hLow := hSurrogate.1
  omega

/-- A text field encodes, by its own check. -/
theorem encodable_chars {low high : ℕ} (t : Chars low high) : Text.Encodable t.1 := by
  have h := t.2
  simp only [charsWithin, Bool.and_eq_true, decide_eq_true_eq] at h
  exact h.1.1

/-- A text whose parts between separators have a UTF-8 form has one. -/
theorem encodable_of_split {sep : CodePoint} (hSep : ¬ sep.IsSurrogate) :
    ∀ (t : Text), (∀ part ∈ split sep t, Text.Encodable part) → Text.Encodable t
  | [], _ => Text.encodable_nil
  | c :: t, h => by
      have hRest := encodable_of_split hSep t
      rw [split, List.splitOn_cons_eq_if_modifyHead] at h
      rw [Text.encodable_cons]
      by_cases hc : c = sep
      · rw [if_pos (by simpa using hc)] at h
        exact ⟨hc ▸ hSep, hRest (fun part hPart => h part (List.mem_cons_of_mem _ hPart))⟩
      · rw [if_neg (by simpa using hc)] at h
        cases hSplit : t.splitOn sep with
        | nil => exact absurd hSplit (List.splitOn_ne_nil sep t)
        | cons first rest =>
            rw [hSplit, List.modifyHead_cons] at h
            obtain ⟨hFirst, hTail⟩ := List.forall_mem_cons.1 h
            rw [Text.encodable_cons] at hFirst
            refine ⟨hFirst.1, hRest ?_⟩
            rw [split, hSplit]
            exact List.forall_mem_cons.2 ⟨hFirst.2, hTail⟩

/-- A text encodes when both sides of a separator do. -/
theorem encodable_of_partition {sep : CodePoint} (hSep : ¬ sep.IsSurrogate) {t : Text}
    (hFront : Text.Encodable (partition sep t).1)
    (hRest : ∀ rest, (partition sep t).2 = some rest → Text.Encodable rest) : Text.Encodable t := by
  have hJoin := List.takeWhile_append_dropWhile (p := fun c => decide (c ≠ sep)) (l := t)
  unfold partition at hFront hRest
  cases hDrop : t.dropWhile (fun c => decide (c ≠ sep)) with
  | nil =>
      rw [hDrop] at hFront
      exact hFront
  | cons c rest =>
      rw [hDrop] at hFront hRest hJoin
      have hc : c = sep := by
        have hHead := List.head?_dropWhile_not (fun c => decide (c ≠ sep)) t
        rw [hDrop] at hHead
        simpa using hHead
      rw [← hJoin]
      intro d hd
      rcases List.mem_append.1 hd with hd | hd
      · exact hFront d hd
      · rcases List.mem_cons.1 hd with rfl | hd
        · rw [hc]
          exact hSep
        · exact hRest rest rfl d hd

/-- No character of a version is a surrogate. -/
theorem isVersionChar_not_surrogate (c : CodePoint) (h : c.isVersionChar = true) :
    ¬ c.IsSurrogate := by
  simp only [CodePoint.isVersionChar, CodePoint.isUpper, CodePoint.isLower, CodePoint.isDigit,
    Bool.or_eq_true, Bool.and_eq_true, decide_eq_true_eq, beq_iff_eq] at h
  intro hSurrogate
  have hLow := hSurrogate.1
  omega

/-- No run of decimal digits touches the surrogates. -/
theorem isDecimal_not_surrogate (c : CodePoint) (h : c.isDecimal = true) : ¬ c.IsSurrogate := by
  have hRuns : CodePoint.decimalZeros.all (fun first => first + 9 < 0xD800 || 0xDFFF < first) =
    true := by
    decide +kernel
  obtain ⟨first, hFirst, hRange⟩ := List.any_eq_true.1 h
  simp only [Bool.and_eq_true, decide_eq_true_eq] at hRange
  rintro ⟨hLow, hHigh⟩
  have hRun := List.all_eq_true.1 hRuns first hFirst
  simp only [Bool.or_eq_true, decide_eq_true_eq] at hRun
  omega

/-- A version number encodes. -/
theorem encodable_versionNumber {t : Text} (h : isVersionNumber t = true) : Text.Encodable t := by
  cases t with
  | nil => exact Text.encodable_nil
  | cons c rest =>
      simp only [isVersionNumber, Bool.or_eq_true, Bool.and_eq_true, decide_eq_true_eq, beq_iff_eq,
        List.isEmpty_iff] at h
      rw [Text.encodable_cons]
      rcases h with ⟨hZero, rfl⟩ | ⟨hRange, hRest⟩
      · refine ⟨fun hSurrogate => ?_, Text.encodable_nil⟩
        have hLow := hSurrogate.1
        omega
      · refine ⟨fun hSurrogate => ?_, encodable_of_forall isDecimal_not_surrogate
          (List.all_eq_true.1 hRest)⟩
        have hLow := hSurrogate.1
        omega

/-- So do the characters of a pre-release. -/
theorem encodable_versionChars {t : Text} (h : t.all CodePoint.isVersionChar = true) :
    Text.Encodable t :=
  encodable_of_forall isVersionChar_not_surrogate (List.all_eq_true.1 h)

/-- A semantic version encodes. -/
theorem encodable_semver (t : Semver) : Text.Encodable t.1 := by
  have hPlus : ¬ CodePoint.IsSurrogate 0x2B := by decide
  have hDash : ¬ CodePoint.IsSurrogate 0x2D := by decide
  have hPoint : ¬ CodePoint.IsSurrogate 0x2E := by decide
  have h := t.2
  simp only [isSemver, Bool.and_eq_true] at h
  obtain ⟨⟨hCore, hPrerelease⟩, hBuild⟩ := h
  refine encodable_of_partition hPlus ?_ (fun rest hRest => ?_)
  · refine encodable_of_partition hDash ?_ (fun rest hRest => ?_)
    · refine encodable_of_split hPoint _ (fun part hPart => ?_)
      split at hCore
      · rename_i hSplit
        rw [hSplit] at hPart
        simp only [Bool.and_eq_true] at hCore
        rcases List.mem_cons.1 hPart with rfl | hPart
        · exact encodable_versionNumber hCore.1.1
        · rcases List.mem_pair.1 hPart with rfl | rfl
          · exact encodable_versionNumber hCore.1.2
          · exact encodable_versionNumber hCore.2
      · cases hCore
    · rw [hRest] at hPrerelease
      refine encodable_of_split hPoint _ (fun part hPart => ?_)
      have hKind := List.all_eq_true.1 hPrerelease part hPart
      simp only [isPrereleasePart, Bool.or_eq_true, Bool.and_eq_true] at hKind
      rcases hKind with hNumber | hChars
      · exact encodable_versionNumber hNumber
      · exact encodable_versionChars hChars.1
  · rw [hRest] at hBuild
    refine encodable_of_split hPoint _ (fun part hPart => ?_)
    have hKind := List.all_eq_true.1 hBuild part hPart
    rw [isBuildPart, Bool.and_eq_true] at hKind
    exact encodable_versionChars hKind.2

/-- A component id encodes. -/
theorem encodable_componentId (t : ComponentId) : Text.Encodable t.1 := by
  have h := t.2
  unfold isComponentId at h
  refine @encodable_of_split 0x2E (by decide) _ (fun part hPart => ?_)
  split at h
  · rename_i hSplit
    rw [hSplit] at hPart
    simp only [Bool.and_eq_true, beq_iff_eq] at h
    rcases List.mem_cons.1 hPart with rfl | hPart
    · rw [h.1.1]
      exact encodable_py _
    · rcases List.mem_pair.1 hPart with rfl | rfl
      · exact encodable_of_isIdentifier h.1.2
      · exact encodable_of_isIdentifier h.2
  · cases h

/-! ## Canonical forms -/

/-- The encoder accepts the schema version. -/
theorem accepts_one : Accepts (.int 1) := accepts_int.2 (by decide)

/-- The encoder accepts the projection of an answer. -/
theorem ResolvedQuestion.accepts_projection (self : ResolvedQuestion) :
    Accepts self.semanticProjection := by
  refine accepts_objectOf.2 ?_
  simp only [List.forall_mem_cons, List.not_mem_nil, false_imp_iff, implies_true, and_true]
  exact ⟨accepts_one, accepts_str.2 (encodable_safeId _), accepts_str.2 (encodable_safeId _),
    self.accepts_answer, accepts_str.2 (encodable_chars _), accepts_lit _⟩

/-- The encoder accepts the dump of a dataset binding. -/
theorem DatasetBinding.accepts_dump (self : DatasetBinding) : Accepts self.dump := by
  refine accepts_objectOf.2 ?_
  simp only [List.forall_mem_cons, List.not_mem_nil, false_imp_iff, implies_true, and_true]
  exact ⟨accepts_one, accepts_str.2 (encodable_safeId _), accepts_lit _, self.accepts_input⟩

/-- The encoder accepts the dump of a component reference. -/
theorem ComponentRef.accepts_dump (self : ComponentRef) : Accepts self.dump := by
  refine accepts_objectOf.2 ?_
  simp only [List.forall_mem_cons, List.not_mem_nil, false_imp_iff, implies_true, and_true]
  exact ⟨accepts_str.2 (encodable_componentId _), accepts_str.2 (encodable_semver _),
    accepts_str.2 (encodable_sha256Text _)⟩

/-- The encoder accepts the dump of a step. -/
theorem PlanStep.accepts_dump (self : PlanStep) : Accepts self.dump := by
  refine accepts_objectOf.2 ?_
  simp only [List.forall_mem_cons, List.not_mem_nil, false_imp_iff, implies_true, and_true]
  exact ⟨accepts_one, accepts_str.2 (encodable_safeId _), accepts_str.2 (encodable_safeId _),
    self.component.accepts_dump, accepts_lit _, accepts_bool _, self.dataset.accepts_dump⟩

/-- The encoder accepts a bounded list of text fields. -/
theorem accepts_texts {low high n m : ℕ} (texts : Bounded (Chars low high) n m) :
    Accepts (.list (texts.1.map (fun t => .str t.1))) := by
  refine accepts_seq.2 (fun v hv => ?_)
  obtain ⟨t, -, rfl⟩ := List.mem_map.1 hv
  exact accepts_str.2 (encodable_chars t)

/-- The revision decides whether a plan has a canonical form. -/
theorem AnalysisPlan.accepts_projection_iff (self : AnalysisPlan) :
    Accepts self.semanticProjection ↔ self.revision.natAbs ≤ maxSafeInteger := by
  unfold AnalysisPlan.semanticProjection
  rw [accepts_objectOf]
  simp only [List.forall_mem_cons, List.not_mem_nil, false_imp_iff, implies_true, and_true]
  have hParent : Accepts (match self.parentPlanHash with
      | none => .null
      | some digest => .str digest.1) := by
    cases self.parentPlanHash with
    | none => exact accepts_null
    | some digest => exact accepts_str.2 (encodable_sha256Text digest)
  have hQuestions :
    Accepts (.list (self.resolvedQuestions.map ResolvedQuestion.semanticProjection)) := by
    refine accepts_seq.2 (fun v hv => ?_)
    obtain ⟨question, -, rfl⟩ := List.mem_map.1 hv
    exact question.accepts_projection
  constructor
  · rintro ⟨-, -, -, hRevision, -⟩
    exact accepts_int.1 hRevision
  · intro hRevision
    exact ⟨accepts_one, accepts_lit _, accepts_str.2 (encodable_safeId _), accepts_int.2 hRevision,
      hParent, accepts_str.2 (encodable_chars _), hQuestions, self.step.accepts_dump,
      accepts_texts _, accepts_texts _, accepts_str.2 (encodable_sha256Text _)⟩

/-- A value is hashed in a valid domain exactly when it has a canonical form. -/
theorem canonicalHash_isOk_iff {v : Value} {domain : Text} (hDomain : isDomain domain = true) :
    (∃ digest, canonicalHash v domain = .ok digest) ↔ Accepts v := by
  constructor
  · rintro ⟨digest, h⟩
    obtain ⟨p, hPayload, -⟩ := Except.bind_eq_ok.1 h
    obtain ⟨-, bs, hBytes, -⟩ := hashPayload_eq_ok hPayload
    exact ⟨bs, hBytes⟩
  · rintro ⟨bs, hBytes⟩
    unfold canonicalHash hashPayload
    rw [if_pos hDomain, hBytes]
    exact ⟨_, rfl⟩

/-- A plan has a hash exactly when its revision is a safe integer. -/
theorem AnalysisPlan.planHash_isOk_iff (self : AnalysisPlan) :
    (∃ digest, self.planHash = .ok digest) ↔ self.revision.natAbs ≤ maxSafeInteger :=
  (canonicalHash_isOk_iff (by decide)).trans self.accepts_projection_iff

end Protocol
