import DefinedQuant.Lib.PyValue
import DefinedQuant.Protocol.Plan
import DefinedQuant.Shared.DataRecords.Documents
import Mathlib.Data.List.Forall2

/-!
# The questions of a plan

A component declares questions, a plan carries answers, and the bound dataset holds the inputs that
the answers speak about. `validateRequiredQuestions` joins the three: nothing is left to say where
every question is resolved and nothing else is; a plan that leaves questions open needs information
about exactly those; anything else blocks it. Two open questions with one id or one target field are
more than the failure model can hold, and a plan whose revision has no canonical form has no hash to
report.
-/

namespace PlanValidation

open Json Canonical Protocol

/-! ## Failures -/

/-- `ValidationIssueCode` -/
inductive ValidationIssueCode where
  | executionScopeDenied
  | planPolicyMismatch
  | planComponentIdentityMismatch
  | planComponentLifecycleDenied
  | planRequiredQuestionUnresolved
  | planResolvedQuestionMismatch
  | managedRequiredInputMissing
  | managedTimestampRequired
  | invalidComponentInput
  | componentConstraintViolation
  | componentContractError
  deriving DecidableEq

/-- `AuthorizationText` -/
abbrev AuthorizationText := Chars 1 500

/-- `ValidationIssue` -/
structure ValidationIssue where
  code : ValidationIssueCode
  message : AuthorizationText
  field : Option (Chars 1 160)
  deriving DecidableEq

/-- `ClarificationQuestion` -/
structure ClarificationQuestion where
  questionId : SafeId
  targetField : SafeId
  prompt : AuthorizationText
  materiality : AuthorizationText
  deriving DecidableEq

/-- The status of a failure. -/
inductive FailureStatus where
  | needsInformation
  | blocked
  deriving DecidableEq

/-- `ValidationFailure` -/
structure ValidationFailure where
  status : FailureStatus
  planHash : Sha256Text
  issues : List ValidationIssue
  questions : List ClarificationQuestion
  issues_ne : issues ≠ []
  /-- `validate_status` -/
  asks : status = .needsInformation → questions ≠ []
  blocks : status = .blocked → questions = []
  ids_nodup : (questions.map ClarificationQuestion.questionId).Nodup
  targets_nodup : (questions.map ClarificationQuestion.targetField).Nodup

/-- `ValidationError` of pydantic. -/
def validationError : ValueError := ⟨"validation error"⟩

/-- The construction of a failure. -/
def ValidationFailure.make (status : FailureStatus) (planHash : Text)
    (issues : List ValidationIssue)
    (questions : List ClarificationQuestion) : Except ValueError ValidationFailure :=
  if hHash : isSha256 planHash = true then
    if hIssues : issues ≠ [] then
      if h : (status = .needsInformation → questions ≠ []) ∧
        (status = .blocked → questions = []) then
        if hDistinct : (questions.map ClarificationQuestion.questionId).Nodup ∧
            (questions.map ClarificationQuestion.targetField).Nodup then
          .ok ⟨status, ⟨planHash, hHash⟩, issues, questions, hIssues, h.1, h.2, hDistinct.1,
            hDistinct.2⟩
        else .error validationError
      else .error validationError
    else .error validationError
  else .error validationError

/-- `str.isspace` -/
def isWhitespace (c : CodePoint) : Bool :=
  (0x9 ≤ c.val && c.val ≤ 0xD) || (0x1C ≤ c.val && c.val ≤ 0x20) || (0x2000 ≤ c.val && c.val ≤
    0x200A) ||
    [0x85, 0xA0, 0x1680, 0x2028, 0x2029, 0x202F, 0x205F, 0x3000].contains c.val

/-- `" ".join(message.split())` -/
def collapse (message : Text) : Text :=
  PrefixCode.joinSep 0x20 ((message.splitOnP isWhitespace).filter (fun part => !part.isEmpty))

/-- A field of an issue. -/
def issueField : Option Text → Except ValueError (Option (Chars 1 160))
  | none => .ok none
  | some field => if h : charsWithin 1 160 field = true then .ok (some ⟨field, h⟩)
    else .error validationError

/-- `_issue` -/
def issue (code : ValidationIssueCode) (message : Text) (field : Option Text) :
    Except ValueError ValidationIssue := do
  let normalized := if collapse message = [] then py "managed validation failed"
    else collapse message
  let bounded := if 500 < normalized.length then normalized.take 497 ++ py "..." else normalized
  let field ← issueField field
  if h : charsWithin 1 500 bounded = true then return ⟨code, ⟨bounded, h⟩, field⟩
  else throw validationError

/-- `_blocked` -/
def blocked (plan : AnalysisPlan) (code : ValidationIssueCode) (message : Text)
    (field : Option Text) : Except ValueError ValidationFailure := do
  let planHash ← plan.planHash
  let issue ← issue code message field
  ValidationFailure.make .blocked planHash [issue] []

/-! ## Questions -/

/-- What reading a question of a contract raises: `ComponentContractError` or `ValidationError`. -/
inductive QuestionError where
  | contract (message : String)
  | validation
  deriving DecidableEq

/-- A member that is a nonempty string. -/
def nonemptyText (raw : List (Option Text × PyValue)) (key : String) : Option Text :=
  match PyValue.get? raw key with
  | some (.str s) => if s = [] then none else some s
  | _ => none

/-- `_contract_question` -/
def contractQuestion (raw : List (Option Text × PyValue)) :
    Except QuestionError ClarificationQuestion :=
  match nonemptyText raw "id", nonemptyText raw "resolves_to", nonemptyText raw "ask",
    nonemptyText raw "why" with
  | none, _, _, _ => .error (.contract "required question has invalid ID")
  | _, none, _, _ => .error (.contract "required question has invalid target")
  | _, _, none, _ => .error (.contract "required question has invalid id, target, or prompt")
  | _, _, _, none => .error (.contract "required question has invalid materiality explanation")
  | some questionId, some targetField, some prompt, some materiality =>
      if h : (isSafeId questionId = true ∧ isSafeId targetField = true) ∧
          charsWithin 1 500 prompt = true ∧ charsWithin 1 500 materiality = true then
        .ok ⟨⟨questionId, h.1.1⟩, ⟨targetField, h.1.2⟩, ⟨prompt, h.2.1⟩, ⟨materiality, h.2.2⟩⟩
      else .error .validation

/-- `raw` of every entry that is a mapping. -/
def mappings (raws : List PyValue) : List (List (Option Text × PyValue)) :=
  raws.filterMap (fun raw =>
    match raw with
    | .mapping m => some m
    | _ => none)

/-- `resolutions.get((question_id, target_field))`. The ids of a plan's resolutions are unique. -/
def resolutionOf (plan : AnalysisPlan) (question : ClarificationQuestion) :
    Option ResolvedQuestion :=
  plan.resolvedQuestions.find? (fun resolution =>
    resolution.questionId = question.questionId ∧ resolution.targetField = question.targetField)

/-- The message about an open question; the `repr` of an id quotes it. -/
def unresolvedMessage (question : ClarificationQuestion) : Text :=
  py "required question '" ++ question.questionId.1 ++ py "' needs caller confirmation"

/-- The loop over the declared questions, with the open ones so far. -/
def checkQuestions (plan : AnalysisPlan) : List ClarificationQuestion → List ValidationIssue →
    List ClarificationQuestion → Except ValueError (Option ValidationFailure)
  | [], issues, missing =>
      if missing = [] then .ok none
      else do
        let planHash ← plan.planHash
        return some (← ValidationFailure.make .needsInformation planHash issues missing)
  | question :: questions, issues, missing =>
      match (resolutionOf plan question).filter (fun r => r.verificationStatus = .callerConfirmed)
        with
      | none => do
          let issue ← issue .planRequiredQuestionUnresolved (unresolvedMessage question)
            (some question.targetField.1)
          checkQuestions plan questions (issues ++ [issue]) (missing ++ [question])
      | some resolution =>
          match Value.get? question.targetField.1 plan.step.dataset.input with
          | none => do
              return some (← blocked plan .planResolvedQuestionMismatch
                (py "resolved question target is absent from the bound dataset input")
                (some question.targetField.1))
          | some bound => do
              if (← canonicalJsonBytes bound) ≠ (← canonicalJsonBytes resolution.answer) then
                return some (← blocked plan .planResolvedQuestionMismatch
                  (py "resolved question answer does not match the bound dataset input")
                  (some question.targetField.1))
              else checkQuestions plan questions issues missing

/-- A resolution that no question asks for. -/
def undeclared (plan : AnalysisPlan) (questions : List ClarificationQuestion) : Bool :=
  plan.resolvedQuestions.any (fun resolution =>
    !questions.any (fun question =>
      decide (question.questionId = resolution.questionId ∧
        question.targetField = resolution.targetField)))

/-- `_validate_required_questions` -/
def validateRequiredQuestions (plan : AnalysisPlan) (guidance : List (Option Text × PyValue)) :
    Except ValueError (Option ValidationFailure) :=
  match (PyValue.get? guidance "required_questions").getD (.seq .list []) with
  | .seq .list rawQuestions =>
      match (mappings rawQuestions).mapM contractQuestion with
      | .error _ => do
          return some (← blocked plan .componentContractError
            (py "component required-question metadata is invalid") none)
      | .ok questions =>
          if questions.length ≠ rawQuestions.length then do
            return some (← blocked plan .componentContractError
              (py "component required_questions contains a non-object entry") none)
          else if undeclared plan questions then do
            return some (← blocked plan .planResolvedQuestionMismatch
              (py "plan contains a resolved question not declared by the component contract") none)
          else checkQuestions plan questions [] []
  | _ => do
      return some (← blocked plan .componentContractError
        (py "component required_questions must be a list") none)

/-! ## Failures can be built -/

/-- The parts of a text that encodes encode. -/
theorem encodable_of_mem_splitOnP {p : CodePoint → Bool} :
    ∀ {t : Text}, Text.Encodable t → ∀ part ∈ t.splitOnP p, Text.Encodable part
  | [], _, part, hPart => by
      rw [List.splitOnP_nil, List.mem_singleton] at hPart
      rw [hPart]
      exact Text.encodable_nil
  | c :: t, h, part, hPart => by
      obtain ⟨hc, ht⟩ := Text.encodable_cons.1 h
      have hRest := encodable_of_mem_splitOnP (p := p) ht
      rw [List.splitOnP_cons_eq_if_modifyHead] at hPart
      split_ifs at hPart
      · rcases List.mem_cons.1 hPart with rfl | hPart
        · exact Text.encodable_nil
        · exact hRest part hPart
      · cases hSplit : t.splitOnP p with
        | nil => exact absurd hSplit (List.splitOnP_ne_nil p t)
        | cons first rest =>
            rw [hSplit, List.modifyHead_cons] at hPart
            rw [hSplit] at hRest
            rcases List.mem_cons.1 hPart with rfl | hPart
            · exact Text.encodable_cons.2 ⟨hc, hRest first List.mem_cons_self⟩
            · exact hRest part (List.mem_cons_of_mem _ hPart)

/-- Collapsing white space keeps a text that encodes. -/
theorem encodable_collapse {message : Text} (h : Text.Encodable message) :
    Text.Encodable (collapse message) := by
  unfold collapse
  rw [encodable_joinSep (by decide)]
  exact fun part hPart => encodable_of_mem_splitOnP h part (List.mem_filter.1 hPart).1

/-- A message that has a UTF-8 form makes an issue. -/
theorem issue_isOk {message : Text} (hMessage : Text.Encodable message) (code : ValidationIssueCode)
    {field : Option Text} (hField : ∀ f, field = some f → charsWithin 1 160 f = true) :
    ∃ i, issue code message field = .ok i := by
  have hFieldOk : ∃ f, issueField field = .ok f := by
    cases field with
    | none => exact ⟨none, rfl⟩
    | some f =>
        rw [issueField, dif_pos (hField f rfl)]
        exact ⟨_, rfl⟩
  obtain ⟨f, hFieldOk⟩ := hFieldOk
  have hCollapse := encodable_collapse hMessage
  -- The message is collapsed, replaced when nothing is left, and cut at 500 characters.
  have hNormal : Text.Encodable (if collapse message = [] then py "managed validation failed"
    else collapse message) ∧
      1 ≤ (if collapse message = [] then py "managed validation failed"
        else collapse message).length := by
    split_ifs with hEmpty
    · exact ⟨encodable_py _, by decide⟩
    · exact ⟨hCollapse, List.length_pos_iff.2 hEmpty⟩
  unfold issue
  rw [hFieldOk]
  generalize (if collapse message = [] then py "managed validation failed" else collapse message) =
    normalized
    at hNormal
  have hBounded : charsWithin 1 500
      (if 500 < normalized.length then normalized.take 497 ++ py "..." else normalized) = true := by
    have hDots : (py "...").length = 3 := rfl
    simp only [charsWithin, Bool.and_eq_true, decide_eq_true_eq]
    split_ifs with hLong
    · refine ⟨⟨?_, ?_⟩, ?_⟩
      · intro c hc
        rcases List.mem_append.1 hc with hc | hc
        · exact hNormal.1 c (List.mem_of_mem_take hc)
        · exact encodable_py _ c hc
      · rw [List.length_append]
        omega
      · rw [List.length_append, List.length_take]
        omega
    · exact ⟨⟨hNormal.1, hNormal.2⟩, by omega⟩
  refine ⟨⟨code, ⟨_, hBounded⟩, f⟩, ?_⟩
  show (if h : charsWithin 1 500 _ = true then _ else _) = _
  rw [dif_pos hBounded]
  rfl

/-- A safe id fits the field of an issue. -/
theorem charsWithin_safeId (t : SafeId) : charsWithin 1 160 t.1 = true := by
  have h := t.2
  rw [isSafeId, Bool.and_eq_true, decide_eq_true_eq] at h
  have hPos : 1 ≤ t.1.length := by
    cases hText : t.1 with
    | nil =>
        rw [hText] at h
        cases h.1
    | cons c rest => exact Nat.le_add_left 1 _
  simp only [charsWithin, Bool.and_eq_true, decide_eq_true_eq]
  exact ⟨⟨encodable_safeId t, hPos⟩, h.2.trans (by decide)⟩

/-- The hash of a plan is a digest. -/
theorem isSha256_planHash {plan : AnalysisPlan} {digest : Text} (h : plan.planHash = .ok digest) :
    isSha256 digest = true := by
  obtain ⟨payload, -, hDigest⟩ := Except.bind_eq_ok.1 h
  rw [← Except.pure_eq_ok.1 hDigest]
  exact isSha256_sha256Hex payload

/-- The field of a question. -/
theorem safeId_field (t : SafeId) : ∀ f, some t.1 = some f → charsWithin 1 160 f = true := by
  rintro f ⟨⟩
  exact charsWithin_safeId t

/-- An issue without a field has nothing to check. -/
theorem no_field : ∀ f, (none : Option Text) = some f → charsWithin 1 160 f = true := by
  intro f h
  cases h

/-- A blocking failure is built for every plan that has a hash, and for no other. -/
theorem blocked_eq {plan : AnalysisPlan} {message : Text} (hMessage : Text.Encodable message)
    (code : ValidationIssueCode) {field : Option Text}
    (hField : ∀ f, field = some f → charsWithin 1 160 f = true) :
    (∀ digest, plan.planHash = .ok digest →
      ∃ failure, blocked plan code message field = .ok failure ∧ failure.status = .blocked) ∧
      ∀ e, plan.planHash = .error e → blocked plan code message field = .error e := by
  constructor
  · intro digest hDigest
    obtain ⟨i, hIssue⟩ := issue_isOk hMessage code hField
    have hMake : ∃ failure, ValidationFailure.make .blocked digest [i] [] = .ok failure ∧
        failure.status = .blocked := by
      have hStatus :
        (FailureStatus.blocked = .needsInformation → ([] : List ClarificationQuestion) ≠ []) ∧
          (FailureStatus.blocked = .blocked → ([] : List ClarificationQuestion) = []) :=
        ⟨fun h => (by cases h), fun _ => rfl⟩
      unfold ValidationFailure.make
      rw [dif_pos (isSha256_planHash hDigest), dif_pos (List.cons_ne_nil i []), dif_pos hStatus,
        dif_pos ⟨List.nodup_nil, List.nodup_nil⟩]
      exact ⟨_, rfl, rfl⟩
    obtain ⟨failure, hMake, hBlocked⟩ := hMake
    exact ⟨failure, Except.bind_eq_ok.2 ⟨digest, hDigest, Except.bind_eq_ok.2 ⟨i, hIssue, hMake⟩⟩,
      hBlocked⟩
  · intro e h
    unfold blocked
    rw [h]
    rfl

/-- The failure that asks for information is built exactly for questions without a common id or
target. -/
theorem make_needsInformation {plan : AnalysisPlan} {digest : Text}
    (hDigest : plan.planHash = .ok digest)
    {issues : List ValidationIssue} {questions : List ClarificationQuestion} (hIssues : issues ≠ [])
    (hQuestions : questions ≠ []) :
    (((questions.map ClarificationQuestion.questionId).Nodup ∧
        (questions.map ClarificationQuestion.targetField).Nodup) →
      ∃ failure, ValidationFailure.make .needsInformation digest issues questions = .ok failure ∧
        failure.status = .needsInformation ∧ failure.questions = questions) ∧
      (¬ ((questions.map ClarificationQuestion.questionId).Nodup ∧
        (questions.map ClarificationQuestion.targetField).Nodup) →
      ValidationFailure.make .needsInformation digest issues questions = .error validationError) :=
        by
  have hStatus : (FailureStatus.needsInformation = .needsInformation → questions ≠ []) ∧
      (FailureStatus.needsInformation = .blocked → questions = []) :=
    ⟨fun _ => hQuestions, fun h => (by cases h)⟩
  unfold ValidationFailure.make
  rw [dif_pos (isSha256_planHash hDigest), dif_pos hIssues, dif_pos hStatus]
  constructor
  · intro hDistinct
    rw [dif_pos hDistinct]
    exact ⟨_, rfl, rfl, rfl⟩
  · intro hDistinct
    rw [dif_neg hDistinct]

/-! ## What the questions ask for -/

/-- The guidance declares the questions, in this order. -/
def Declares (guidance : List (Option Text × PyValue)) (questions : List ClarificationQuestion) :
    Prop :=
  ∃ raws, (PyValue.get? guidance "required_questions").getD (.seq .list []) = .seq .list raws ∧
    List.Forall₂ (fun raw question => ∃ m, raw = PyValue.mapping m ∧
      contractQuestion m = .ok question)
      raws questions

/-- The plan carries a confirmed answer to the question. -/
def Confirms (plan : AnalysisPlan) (question : ClarificationQuestion)
    (resolution : ResolvedQuestion) : Prop :=
  resolution ∈ plan.resolvedQuestions ∧ resolution.questionId = question.questionId ∧
    resolution.targetField = question.targetField ∧ resolution.verificationStatus = .callerConfirmed

/-- The confirmed answer is the input that the dataset binds. -/
def Resolves (plan : AnalysisPlan) (question : ClarificationQuestion) : Prop :=
  ∃ resolution, Confirms plan question resolution ∧
    ∃ bound, Value.get? question.targetField.1 plan.step.dataset.input = some bound ∧
      canonicalJsonBytes bound = canonicalJsonBytes resolution.answer

/-- Every resolution of the plan belongs to a question. -/
def AllDeclared (plan : AnalysisPlan) (questions : List ClarificationQuestion) : Prop :=
  ∀ resolution ∈ plan.resolvedQuestions, ∃ question ∈ questions,
    question.questionId = resolution.questionId ∧ question.targetField = resolution.targetField

/-- Every question is resolved, and nothing else is. -/
def Complete (plan : AnalysisPlan) (guidance : List (Option Text × PyValue)) : Prop :=
  ∃ questions, Declares guidance questions ∧ AllDeclared plan questions ∧ ∀ question ∈ questions,
    Resolves plan question

/-- No confirmed answer. -/
def isOpen (plan : AnalysisPlan) (question : ClarificationQuestion) : Bool :=
  ((resolutionOf plan question).filter (fun r => r.verificationStatus = .callerConfirmed)).isNone

/-- The open questions, in the order of the contract. -/
def openQuestions (plan : AnalysisPlan) (questions : List ClarificationQuestion) :
    List ClarificationQuestion :=
  questions.filter (isOpen plan)

/-- Some questions have no confirmed answer, and apart from that nothing is wrong. -/
def MerelyUnanswered (plan : AnalysisPlan) (guidance : List (Option Text × PyValue))
    (questions : List ClarificationQuestion) : Prop :=
  Declares guidance questions ∧ AllDeclared plan questions ∧ openQuestions plan questions ≠ [] ∧
    ∀ question ∈ questions, (∃ resolution, Confirms plan question resolution) →
      Resolves plan question

/-! ## Reading the plan -/

/-- The lookup finds the one resolution of a question. -/
theorem resolutionOf_eq_some {plan : AnalysisPlan} {question : ClarificationQuestion}
    {r : ResolvedQuestion} :
    resolutionOf plan question = some r ↔ r ∈ plan.resolvedQuestions ∧
      r.questionId = question.questionId ∧
      r.targetField = question.targetField := by
  unfold resolutionOf
  constructor
  · intro h
    have hMem := List.mem_of_find?_eq_some h
    have hPair := List.find?_some h
    rw [decide_eq_true_eq] at hPair
    exact ⟨hMem, hPair⟩
  · rintro ⟨hMem, hPair⟩
    cases hFind : plan.resolvedQuestions.find? (fun resolution =>
        decide (resolution.questionId = question.questionId ∧
          resolution.targetField = question.targetField)) with
    | none =>
        have hNone := List.find?_eq_none.1 hFind r hMem
        rw [decide_eq_true_eq] at hNone
        exact absurd hPair hNone
    | some other =>
        have hOther := List.find?_some hFind
        rw [decide_eq_true_eq] at hOther
        have hSame := List.inj_on_of_nodup_map plan.ids_nodup (List.mem_of_find?_eq_some hFind) hMem
          (hOther.1.trans hPair.1.symm)
        rw [hSame]

/-- A question is answered by the resolution that confirms it. -/
theorem confirmed_eq_some {plan : AnalysisPlan} {question : ClarificationQuestion}
    {r : ResolvedQuestion} :
    (resolutionOf plan question).filter (fun r => r.verificationStatus = .callerConfirmed) =
      some r ↔
      Confirms plan question r := by
  rw [Option.filter_eq_some_iff, resolutionOf_eq_some, decide_eq_true_eq]
  unfold Confirms
  simp only [and_assoc]

/-- A question is open when no resolution confirms it. -/
theorem isOpen_iff {plan : AnalysisPlan} {question : ClarificationQuestion} :
    isOpen plan question = true ↔ ¬ ∃ resolution, Confirms plan question resolution := by
  unfold isOpen
  rw [Option.isNone_iff_eq_none, Option.eq_none_iff_forall_not_mem, not_exists]
  exact forall_congr' (fun r => not_congr confirmed_eq_some)

/-- No answer is undeclared when all are declared. -/
theorem undeclared_eq_false_iff {plan : AnalysisPlan} {questions : List ClarificationQuestion} :
    undeclared plan questions = false ↔ AllDeclared plan questions := by
  unfold undeclared AllDeclared
  rw [List.any_eq_false]
  simp only [Bool.not_eq_true, Bool.not_eq_false', List.any_eq_true, decide_eq_true_eq]

/-- What guidance declares: every question it lists is well formed. -/
theorem declares_iff {guidance : List (Option Text × PyValue)} {raws : List PyValue}
    (hRaws : (PyValue.get? guidance "required_questions").getD (.seq .list []) = .seq .list raws)
    {questions : List ClarificationQuestion} : Declares guidance questions ↔
      (mappings raws).mapM contractQuestion = .ok questions ∧ questions.length = raws.length := by
  have hSame : Declares guidance questions ↔
      List.Forall₂ (fun raw question => ∃ m, raw = PyValue.mapping m ∧
        contractQuestion m = .ok question)
        raws questions := by
    constructor
    · rintro ⟨raws', hRaws', h⟩
      rw [hRaws] at hRaws'
      cases hRaws'
      exact h
    · exact fun h => ⟨raws, hRaws, h⟩
  rw [hSame, Except.mapM_eq_ok]
  clear hSame hRaws
  constructor
  · intro h
    refine ⟨?_, h.length_eq.symm⟩
    induction h with
    | nil => exact .nil
    | cons hHead _ ih =>
        obtain ⟨m, rfl, hQuestion⟩ := hHead
        exact .cons hQuestion ih
  · rintro ⟨h, hLength⟩
    -- every entry that is no mapping would make the list of questions shorter
    have hAll : ∀ raw ∈ raws, ∃ m, raw = PyValue.mapping m := by
      have hCount : (mappings raws).length = raws.length := h.length_eq.trans hLength
      intro raw hRaw
      have hSome := List.filterMap_length_eq_length.1 hCount raw hRaw
      cases raw with
      | mapping m => exact ⟨m, rfl⟩
      | _ => cases hSome
    clear hLength
    induction raws generalizing questions with
    | nil =>
        cases h
        exact .nil
    | cons raw raws ih =>
        obtain ⟨⟨m, rfl⟩, hRest⟩ := List.forall_mem_cons.1 hAll
        cases h with
        | cons hHead hTail => exact .cons ⟨m, rfl, hHead⟩ (ih hTail hRest)

/-! ## The loop over the questions -/

/-- A confirmed answer that is not the bound input. -/
def Conflicts (plan : AnalysisPlan) (question : ClarificationQuestion) : Prop :=
  (∃ resolution, Confirms plan question resolution) ∧ ¬ Resolves plan question

variable {plan : AnalysisPlan}

/-- Bound inputs and answers have canonical forms, so the comparison takes place. -/
theorem bound_accepts {key : Text} {bound : Value}
    (h : Value.get? key plan.step.dataset.input = some bound) :
    Accepts bound := by
  have hMem : (key, bound) ∈ plan.step.dataset.input :=
    (Value.get?_eq_some_iff (Value.distinct_obj.1 plan.step.dataset.distinct_input).1).1 h
  exact (accepts_obj.1 plan.step.dataset.accepts_input _ hMem).2

/-- An open question adds an issue and is missing. -/
theorem checkQuestions_open {question : ClarificationQuestion} (h : isOpen plan question = true)
    (questions : List ClarificationQuestion) (issues : List ValidationIssue)
    (missing : List ClarificationQuestion) :
    ∃ i, checkQuestions plan (question :: questions) issues missing =
      checkQuestions plan questions (issues ++ [i]) (missing ++ [question]) := by
  have hMessage : Text.Encodable (unresolvedMessage question) := by
    intro c hc
    unfold unresolvedMessage at hc
    rcases List.mem_append.1 hc with hc | hc
    · rcases List.mem_append.1 hc with hc | hc
      · exact encodable_py _ c hc
      · exact encodable_safeId _ c hc
    · exact encodable_py _ c hc
  obtain ⟨i, hIssue⟩ :=
    issue_isOk hMessage .planRequiredQuestionUnresolved (safeId_field question.targetField)
  refine ⟨i, ?_⟩
  rw [isOpen, Option.isNone_iff_eq_none] at h
  rw [checkQuestions, h]
  dsimp only
  rw [hIssue]
  rfl

/-- A resolved question adds nothing. -/
theorem checkQuestions_resolved {question : ClarificationQuestion} (h : Resolves plan question)
    (questions : List ClarificationQuestion) (issues : List ValidationIssue)
    (missing : List ClarificationQuestion) :
    checkQuestions plan (question :: questions) issues missing = checkQuestions plan questions
      issues missing := by
  obtain ⟨resolution, hConfirms, bound, hBound, hSame⟩ := h
  obtain ⟨bytes, hBytes⟩ := bound_accepts hBound
  rw [checkQuestions, confirmed_eq_some.2 hConfirms]
  dsimp only
  rw [hBound]
  dsimp only
  rw [← hSame, hBytes]
  show (if bytes ≠ bytes then _ else _) = _
  rw [if_neg (not_not.2 rfl)]

/-- The outcome that reports a blocking failure. -/
def Blocks (plan : AnalysisPlan) (outcome : Except ValueError (Option ValidationFailure)) : Prop :=
  (∀ digest, plan.planHash = .ok digest → ∃ failure, outcome = .ok (some failure) ∧
    failure.status = .blocked) ∧
    ∀ e, plan.planHash = .error e → outcome = .error e

/-- A blocked validation blocks. -/
theorem blocks_blocked {message : Text} (hMessage : Text.Encodable message)
    (code : ValidationIssueCode)
    {field : Option Text} (hField : ∀ f, field = some f → charsWithin 1 160 f = true) :
    Blocks plan (do return some (← blocked plan code message field)) := by
  obtain ⟨hOk, hError⟩ := @blocked_eq plan _ hMessage code _ hField
  constructor
  · intro digest hDigest
    obtain ⟨failure, hFailure, hStatus⟩ := hOk digest hDigest
    refine ⟨failure, ?_, hStatus⟩
    rw [hFailure]
    rfl
  · intro e h
    rw [hError e h]
    rfl

/-- A conflicting answer blocks. -/
theorem checkQuestions_conflict {question : ClarificationQuestion} (h : Conflicts plan question)
    (questions : List ClarificationQuestion) (issues : List ValidationIssue)
    (missing : List ClarificationQuestion) :
    Blocks plan (checkQuestions plan (question :: questions) issues missing) := by
  obtain ⟨⟨resolution, hConfirms⟩, hNot⟩ := h
  rw [checkQuestions, confirmed_eq_some.2 hConfirms]
  dsimp only
  cases hBound : Value.get? question.targetField.1 plan.step.dataset.input with
  | none => exact blocks_blocked (encodable_py _) _ (safeId_field _)
  | some bound =>
      obtain ⟨bytes, hBytes⟩ := bound_accepts hBound
      obtain ⟨answerBytes, hAnswer⟩ := resolution.accepts_answer
      have hDiffer : bytes ≠ answerBytes := by
        rintro rfl
        exact hNot ⟨resolution, hConfirms, bound, hBound, hBytes.trans hAnswer.symm⟩
      dsimp only
      rw [hBytes, hAnswer]
      show Blocks plan (if bytes ≠ answerBytes then _ else _)
      rw [if_pos hDiffer]
      exact blocks_blocked (encodable_py _) _ (safeId_field _)

/-- One conflict, wherever it stands, blocks the plan. -/
theorem checkQuestions_blocks {questions : List ClarificationQuestion}
    (h : ∃ question ∈ questions, Conflicts plan question)
    (issues : List ValidationIssue) (missing : List ClarificationQuestion) :
    Blocks plan (checkQuestions plan questions issues missing) := by
  induction questions generalizing issues missing with
  | nil =>
      obtain ⟨question, hMem, -⟩ := h
      exact absurd hMem List.not_mem_nil
  | cons question questions ih =>
      by_cases hConflict : Conflicts plan question
      · exact checkQuestions_conflict hConflict questions issues missing
      · have hRest : ∃ question ∈ questions, Conflicts plan question := by
          obtain ⟨other, hMem, hOther⟩ := h
          rcases List.mem_cons.1 hMem with rfl | hMem
          · exact absurd hOther hConflict
          · exact ⟨other, hMem, hOther⟩
        by_cases hOpen : isOpen plan question = true
        · obtain ⟨i, hStep⟩ := checkQuestions_open hOpen questions issues missing
          rw [hStep]
          exact ih hRest _ _
        · have hConfirmed := not_not.1 (mt isOpen_iff.2 hOpen)
          have hResolved : Resolves plan question :=
            not_not.1 (fun hNot => hConflict ⟨hConfirmed, hNot⟩)
          rw [checkQuestions_resolved hResolved]
          exact ih hRest _ _

/-- Without a conflict the loop collects the open questions, with an issue for each. -/
theorem checkQuestions_collects {questions : List ClarificationQuestion}
    (h : ∀ question ∈ questions, ¬ Conflicts plan question) (issues : List ValidationIssue)
    (missing : List ClarificationQuestion) :
    ∃ more, more.length = (openQuestions plan questions).length ∧
      checkQuestions plan questions issues missing =
        checkQuestions plan [] (issues ++ more) (missing ++ openQuestions plan questions) := by
  induction questions generalizing issues missing with
  | nil =>
      refine ⟨[], rfl, ?_⟩
      rw [openQuestions, List.filter_nil, List.append_nil, List.append_nil]
  | cons question questions ih =>
      obtain ⟨hHead, hTail⟩ := List.forall_mem_cons.1 h
      by_cases hOpen : isOpen plan question = true
      · obtain ⟨i, hStep⟩ := checkQuestions_open hOpen questions issues missing
        obtain ⟨more, hLength, hRest⟩ := ih hTail (issues ++ [i]) (missing ++ [question])
        refine ⟨i :: more, ?_, ?_⟩
        · rw [openQuestions, List.filter_cons_of_pos hOpen, List.length_cons, List.length_cons,
            hLength]
          rfl
        · rw [hStep, hRest, openQuestions, openQuestions, List.filter_cons_of_pos hOpen,
            List.append_assoc, List.append_assoc]
          rfl
      · have hConfirmed := not_not.1 (mt isOpen_iff.2 hOpen)
        have hResolved : Resolves plan question := not_not.1 (fun hNot => hHead ⟨hConfirmed, hNot⟩)
        obtain ⟨more, hLength, hRest⟩ := ih hTail issues missing
        refine ⟨more, ?_, ?_⟩
        · rw [openQuestions, List.filter_cons_of_neg hOpen]
          exact hLength
        · rw [checkQuestions_resolved hResolved, hRest, openQuestions, openQuestions,
            List.filter_cons_of_neg hOpen]

/-! ## The decision -/

variable {guidance : List (Option Text × PyValue)}

/-- Guidance declares one list of questions. -/
theorem declares_unique {questions others : List ClarificationQuestion}
    (h : Declares guidance questions) (h' : Declares guidance others) : questions = others := by
  obtain ⟨raws, hRaws, _⟩ := id h
  have hRead := ((declares_iff hRaws).1 h).1
  rw [((declares_iff hRaws).1 h').1] at hRead
  exact (Except.ok.inj hRead).symm

/-- Guidance that declares no list of questions blocks the plan. -/
theorem blocks_of_not_declares (h : ¬ ∃ questions, Declares guidance questions) :
    Blocks plan (validateRequiredQuestions plan guidance) := by
  unfold validateRequiredQuestions
  split
  · rename_i raws hRaws
    split
    · exact blocks_blocked (encodable_py _) _ no_field
    · rename_i questions hRead
      by_cases hLength : questions.length = raws.length
      · exact absurd ⟨questions, (declares_iff hRaws).2 ⟨hRead, hLength⟩⟩ h
      · rw [if_pos hLength]
        exact blocks_blocked (encodable_py _) _ no_field
  · exact blocks_blocked (encodable_py _) _ no_field

/-- With declared questions, an undeclared answer blocks, and else the questions are checked one by
one. -/
theorem validate_of_declares {questions : List ClarificationQuestion}
    (h : Declares guidance questions) :
    (¬ AllDeclared plan questions → Blocks plan (validateRequiredQuestions plan guidance)) ∧
      (AllDeclared plan questions → validateRequiredQuestions plan guidance = checkQuestions plan
        questions [] []) := by
  obtain ⟨raws, hRaws, _⟩ := id h
  obtain ⟨hRead, hLength⟩ := (declares_iff hRaws).1 h
  unfold validateRequiredQuestions
  rw [hRaws]
  dsimp only
  rw [hRead]
  dsimp only
  rw [if_neg (not_not.2 hLength)]
  constructor
  · intro hAll
    have hUndeclared : undeclared plan questions = true := by
      rw [← Bool.not_eq_false]
      exact mt undeclared_eq_false_iff.1 hAll
    rw [if_pos hUndeclared]
    exact blocks_blocked (encodable_py _) _ no_field
  · intro hAll
    rw [undeclared_eq_false_iff.2 hAll]
    rfl

/-- The function decides about a plan: it says nothing exactly where the questions are resolved,
asks about the open questions where there is nothing else to say, and blocks the plan in every other
case. -/
def Decided (plan : AnalysisPlan) (guidance : List (Option Text × PyValue)) : Prop :=
  (validateRequiredQuestions plan guidance = .ok none ↔ Complete plan guidance) ∧
    (¬ Complete plan guidance → ∃ failure, validateRequiredQuestions plan guidance =
      .ok (some failure) ∧
      ((∃ questions, MerelyUnanswered plan guidance questions ∧ failure.status = .needsInformation ∧
          failure.questions = openQuestions plan questions) ∨
        ((¬ ∃ questions, MerelyUnanswered plan guidance questions) ∧ failure.status = .blocked)))

/-- Where the validation blocks, it decides exactly when the plan can be hashed. -/
theorem decided_of_blocks (h : Blocks plan (validateRequiredQuestions plan guidance))
    (hComplete : ¬ Complete plan guidance)
    (hMerely : ¬ ∃ questions, MerelyUnanswered plan guidance questions) :
    Decided plan guidance ↔ plan.revision.natAbs ≤ maxSafeInteger := by
  rw [← plan.planHash_isOk_iff]
  constructor
  · rintro ⟨-, hFailure⟩
    obtain ⟨failure, hOutcome, -⟩ := hFailure hComplete
    cases hHash : plan.planHash with
    | ok digest => exact ⟨digest, rfl⟩
    | error e =>
        rw [h.2 e hHash] at hOutcome
        cases hOutcome
  · rintro ⟨digest, hDigest⟩
    obtain ⟨failure, hOutcome, hBlocked⟩ := h.1 digest hDigest
    refine ⟨⟨fun hNone => ?_, fun h => absurd h hComplete⟩, fun _ =>
      ⟨failure, hOutcome, .inr ⟨hMerely, hBlocked⟩⟩⟩
    rw [hOutcome] at hNone
    cases hNone

/-- No two open questions share an id or a target field. -/
def OpenDistinct (plan : AnalysisPlan) (questions : List ClarificationQuestion) : Prop :=
  ((openQuestions plan questions).map ClarificationQuestion.questionId).Nodup ∧
    ((openQuestions plan questions).map ClarificationQuestion.targetField).Nodup

/-- Open questions are reported where the plan has a hash and they have nothing in common. -/
theorem outcome_of_merely {questions : List ClarificationQuestion}
    (h : MerelyUnanswered plan guidance questions) :
    (plan.revision.natAbs ≤ maxSafeInteger ∧ OpenDistinct plan questions →
      ∃ failure, validateRequiredQuestions plan guidance = .ok (some failure) ∧
        failure.status = .needsInformation ∧ failure.questions = openQuestions plan questions) ∧
      (¬ (plan.revision.natAbs ≤ maxSafeInteger ∧ OpenDistinct plan questions) →
        ∃ e, validateRequiredQuestions plan guidance = .error e) := by
  obtain ⟨hDeclares, hAll, hOpen, hResolves⟩ := h
  have hNoConflict : ∀ question ∈ questions, ¬ Conflicts plan question :=
    fun question hMem hConflict => hConflict.2 (hResolves question hMem hConflict.1)
  obtain ⟨issues, hLength, hLoop⟩ := checkQuestions_collects hNoConflict [] []
  rw [List.nil_append, List.nil_append] at hLoop
  have hIssues : issues ≠ [] := by
    rintro rfl
    exact hOpen (List.eq_nil_of_length_eq_zero hLength.symm)
  rw [(validate_of_declares hDeclares).2 hAll, hLoop, checkQuestions, if_neg hOpen,
    ← plan.planHash_isOk_iff]
  constructor
  · rintro ⟨⟨digest, hDigest⟩, hDistinct⟩
    obtain ⟨failure, hMake, hStatus, hQuestions⟩ :=
      (make_needsInformation hDigest hIssues hOpen).1 hDistinct
    refine ⟨failure, ?_, hStatus, hQuestions⟩
    exact Except.bind_eq_ok.2 ⟨digest, hDigest, Except.bind_eq_ok.2 ⟨failure, hMake, rfl⟩⟩
  · intro hNot
    cases hHash : plan.planHash with
    | error e => exact ⟨e, rfl⟩
    | ok digest =>
        have hDistinct : ¬ OpenDistinct plan questions :=
          fun hDistinct => hNot ⟨⟨digest, hHash⟩, hDistinct⟩
        have hMake := (make_needsInformation hHash hIssues hOpen).2 hDistinct
        refine ⟨validationError, ?_⟩
        show (ValidationFailure.make _ digest issues _ >>= _) = _
        rw [hMake]
        rfl

/-- The function decides exactly when the questions are resolved, or the plan has a hash and, where
it merely leaves questions open, no two of them share an id or a target field. -/
theorem required_questions_decided_iff (plan : AnalysisPlan)
    (guidance : List (Option Text × PyValue)) :
    Decided plan guidance ↔ Complete plan guidance ∨
      (plan.revision.natAbs ≤ maxSafeInteger ∧
        ∀ questions, MerelyUnanswered plan guidance questions → OpenDistinct plan questions) := by
  -- The cases follow the function: guidance that declares no questions, an undeclared answer, a
  -- conflicting answer, and last nothing but open questions. In the first three the validation
  -- blocks.
  by_cases hDeclares : ∃ questions, Declares guidance questions
  · obtain ⟨questions, hDeclares⟩ := hDeclares
    have hSame : ∀ others, Declares guidance others → others = questions := fun others h =>
      declares_unique h hDeclares
    by_cases hAll : AllDeclared plan questions
    · by_cases hConflict : ∃ question ∈ questions, Conflicts plan question
      · have hBlocks := checkQuestions_blocks hConflict [] []
        rw [← (validate_of_declares hDeclares).2 hAll] at hBlocks
        obtain ⟨question, hMem, hConfirmed, hNot⟩ := hConflict
        have hComplete : ¬ Complete plan guidance := by
          rintro ⟨others, hOthers, -, hResolves⟩
          rw [hSame others hOthers] at hResolves
          exact hNot (hResolves question hMem)
        have hMerely : ∀ others, ¬ MerelyUnanswered plan guidance others := by
          rintro others ⟨hOthers, -, -, hResolves⟩
          rw [hSame others hOthers] at hResolves
          exact hNot (hResolves question hMem hConfirmed)
        rw [decided_of_blocks hBlocks hComplete (fun ⟨others, h⟩ => hMerely others h),
          or_iff_right hComplete]
        exact (and_iff_left (fun others h => absurd h (hMerely others))).symm
      · have hResolves : ∀ question ∈ questions, (∃ resolution, Confirms plan question resolution) →
            Resolves plan question := fun question hMem hConfirmed =>
          not_not.1 (fun hNot => hConflict ⟨question, hMem, hConfirmed, hNot⟩)
        -- No conflict is left. Either every question is resolved, or some are merely open.
        by_cases hOpen : openQuestions plan questions = []
        · have hComplete : Complete plan guidance := by
            refine ⟨questions, hDeclares, hAll, fun question hMem => hResolves question hMem ?_⟩
            have hClosed := List.filter_eq_nil_iff.1 hOpen question hMem
            exact not_not.1 (mt isOpen_iff.2 hClosed)
          refine ⟨fun _ => .inl hComplete, fun _ => ⟨⟨fun _ => hComplete, fun _ => ?_⟩, fun h =>
            absurd hComplete h⟩⟩
          obtain ⟨issues, -, hLoop⟩ := @checkQuestions_collects plan _
            (fun question hMem hBad => hBad.2 (hResolves question hMem hBad.1)) [] []
          rw [(validate_of_declares hDeclares).2 hAll, hLoop, hOpen]
          rfl
        · have hMerely : MerelyUnanswered plan guidance questions :=
            ⟨hDeclares, hAll, hOpen, hResolves⟩
          have hComplete : ¬ Complete plan guidance := by
            rintro ⟨others, hOthers, -, hDone⟩
            rw [hSame others hOthers] at hDone
            refine hOpen (List.filter_eq_nil_iff.2 (fun question hMem hIsOpen => ?_))
            obtain ⟨resolution, hConfirms, -⟩ := hDone question hMem
            exact isOpen_iff.1 hIsOpen ⟨resolution, hConfirms⟩
          obtain ⟨hReported, hRaised⟩ := outcome_of_merely hMerely
          rw [or_iff_right hComplete]
          -- With open questions the outcome is a failure that asks about them, if the plan has a
          -- hash and the questions are told apart. Otherwise it raises.
          constructor
          · rintro ⟨-, hFailure⟩
            obtain ⟨failure, hOutcome, -⟩ := hFailure hComplete
            have hFine : plan.revision.natAbs ≤ maxSafeInteger ∧ OpenDistinct plan questions := by
              by_contra hNot
              obtain ⟨e, hError⟩ := hRaised hNot
              rw [hError] at hOutcome
              cases hOutcome
            refine ⟨hFine.1, fun others hOthers => ?_⟩
            rw [hSame others hOthers.1]
            exact hFine.2
          · rintro ⟨hRevision, hDistinct⟩
            obtain ⟨failure, hOutcome, hStatus, hQuestions⟩ :=
              hReported ⟨hRevision, hDistinct questions hMerely⟩
            refine ⟨⟨fun hNone => ?_, fun h => absurd h hComplete⟩,
              fun _ => ⟨failure, hOutcome, .inl ⟨questions, hMerely, hStatus, hQuestions⟩⟩⟩
            rw [hOutcome] at hNone
            cases hNone
    · have hComplete : ¬ Complete plan guidance := by
        rintro ⟨others, hOthers, hOthersAll, -⟩
        rw [hSame others hOthers] at hOthersAll
        exact hAll hOthersAll
      have hMerely : ∀ others, ¬ MerelyUnanswered plan guidance others := by
        rintro others ⟨hOthers, hOthersAll, -⟩
        rw [hSame others hOthers] at hOthersAll
        exact hAll hOthersAll
      rw [decided_of_blocks ((validate_of_declares hDeclares).1 hAll) hComplete (fun ⟨others, h⟩ =>
        hMerely others h),
        or_iff_right hComplete]
      exact (and_iff_left (fun others h => absurd h (hMerely others))).symm
  · have hComplete : ¬ Complete plan guidance := fun ⟨questions, h, _⟩ => hDeclares ⟨questions, h⟩
    have hMerely : ∀ others, ¬ MerelyUnanswered plan guidance others :=
      fun others h => hDeclares ⟨others, h.1⟩
    rw [decided_of_blocks (blocks_of_not_declares hDeclares) hComplete (fun ⟨others, h⟩ =>
      hMerely others h),
      or_iff_right hComplete]
    exact (and_iff_left (fun others h => absurd h (hMerely others))).symm

/-- A plan without answers. -/
def unansweredPlan : AnalysisPlan where
  protocolVersion := .v040
  planId := ⟨py "plan", by decide⟩
  revision := 1
  parentPlanHash := none
  objective := ⟨py "objective", by decide⟩
  resolvedQuestions := []
  step := { stepId := ⟨py "step", by decide⟩, profileId := ⟨py "profile", by decide⟩
            component := ⟨⟨py "dq.returns.simple_return", by decide⟩, ⟨py "1.0.0", isSemver_one⟩,
              digestOf []⟩
            componentLifecycle := .draft, explicitDraftOptIn := true
            dataset := { datasetId := ⟨py "dataset", by decide⟩, input := []
                         accepts_input := accepts_obj.2 (fun _ h => absurd h List.not_mem_nil)
                         distinct_input := Value.distinct_empty } }
  expectedOutputs := ⟨[⟨py "output", by decide⟩], rfl⟩
  stopConditions := ⟨[⟨py "stop", by decide⟩], rfl⟩
  executionPolicyHash := digestOf []
  managed := by decide
  one_le_revision := by decide
  parent_iff := by decide
  ids_nodup := List.nodup_nil
  targets_nodup := List.nodup_nil

/-- A question about the field `frequency`. -/
def frequencyQuestion (id : SafeId) : ClarificationQuestion where
  questionId := id
  targetField := ⟨py "frequency", by decide⟩
  prompt := ⟨py "Which frequency?", by decide⟩
  materiality := ⟨py "It scales the result.", by decide⟩

/-- The question as a contract writes it. -/
def rawQuestion (id : String) : List (Option Text × PyValue) :=
  [(some (py "id"), .str (py id)), (some (py "resolves_to"), .str (py "frequency")),
    (some (py "ask"), .str (py "Which frequency?")),
    (some (py "why"), .str (py "It scales the result."))]

/-- Two questions with different ids that resolve to one field. -/
def sharedTarget : List (Option Text × PyValue) :=
  [(some (py "required_questions"), .seq .list [.mapping (rawQuestion "first"),
    .mapping (rawQuestion "second")])]

/-- Two open questions about one field make a failure that cannot be built, and its error escapes. -/
theorem shared_target_not_decided :
    (∃ e, validateRequiredQuestions unansweredPlan sharedTarget = .error e) ∧
      ¬ Decided unansweredPlan sharedTarget := by
  have hDeclares : Declares sharedTarget
      [frequencyQuestion ⟨py "first", by decide⟩, frequencyQuestion ⟨py "second", by decide⟩] :=
    ⟨_, rfl, .cons ⟨_, rfl, rfl⟩ (.cons ⟨_, rfl, rfl⟩ .nil)⟩
  have hNoAnswer : ∀ question, ¬ ∃ resolution, Confirms unansweredPlan question resolution := by
    rintro question ⟨resolution, hMem, -⟩
    exact List.not_mem_nil hMem
  have hMerely : MerelyUnanswered unansweredPlan sharedTarget
      [frequencyQuestion ⟨py "first", by decide⟩, frequencyQuestion ⟨py "second", by decide⟩] :=
    ⟨hDeclares, fun _ h => absurd h List.not_mem_nil, List.cons_ne_nil _ _,
      fun question _ h => absurd h (hNoAnswer question)⟩
  have hShared : ¬ OpenDistinct unansweredPlan
      [frequencyQuestion ⟨py "first", by decide⟩, frequencyQuestion ⟨py "second", by decide⟩] := by
    rintro ⟨-, hTargets⟩
    exact (List.nodup_cons.1 hTargets).1 List.mem_cons_self
  obtain ⟨e, hError⟩ := (outcome_of_merely hMerely).2 (fun h => hShared h.2)
  refine ⟨⟨e, hError⟩, ?_⟩
  rintro ⟨-, hFailure⟩
  have hComplete : ¬ Complete unansweredPlan sharedTarget := by
    rintro ⟨others, hOthers, -, hDone⟩
    rw [declares_unique hOthers hDeclares] at hDone
    obtain ⟨resolution, hConfirms, -⟩ := hDone _ List.mem_cons_self
    exact hNoAnswer _ ⟨resolution, hConfirms⟩
  obtain ⟨failure, hOutcome, -⟩ := hFailure hComplete
  rw [hError] at hOutcome
  cases hOutcome

end PlanValidation
