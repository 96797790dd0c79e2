import DefinedQuant.Shared.RuleMeaning

/-!
# What escapes the rules

The loop over the rules goes past a rule whichever way its condition comes out, and stops where a
rule is not well formed, has the ID of an earlier one, or raises. Besides what escapes from its
condition a rule raises the `TypeError` of a severity that has no hash. With that the exceptions of
a guidance object are those of a rule that the loop gets to, and the evaluator is closed on an
expression, or on a guidance object, exactly when there are none.
-/

namespace Validation

section Evaluator

variable (interpreter : Interpreter) (values : Fields)

/-! ## Rules -/

/-- The ID of a rule. -/
def ruleId : PyValue → Option Text
  | .mapping m => nonEmptyText? (PyValue.get? m "id")
  | _ => none

/-- The severity of a rule. -/
def ruleSeverity (m : List (Option Text × PyValue)) : PyValue :=
  (PyValue.get? m "severity").getD .none

/-- The loop goes past a rule, whichever way its condition comes out. -/
inductive Passes : PyValue → Prop where
  | intro {m : List (Option Text × PyValue)} {message : Text} {condition : PyValue} {b : Bool}
      (hSeverity : ruleSeverity m = text "blocking" ∨ ruleSeverity m = text "warning")
      (hMessage : nonEmptyText? (PyValue.get? m "message") = some message)
      (hCondition : present? (PyValue.get? m "when") = some condition)
      (hHolds : Holds interpreter values maxExpressionDepth condition b) : Passes (.mapping m)

/-- The exceptions of a rule that the loop gets to: a severity without a hash, and those of its
condition. -/
inductive RuleEscapes : PyValue → Raised → Prop where
  | severity {m : List (Option Text × PyValue)} (hHash : hashable (ruleSeverity m) = false) :
      RuleEscapes (.mapping m) .typeError
  | condition {m : List (Option Text × PyValue)} {message : Text} {condition : PyValue}
    {fault : Raised}
      (hSeverity : ruleSeverity m = text "blocking" ∨ ruleSeverity m = text "warning")
      (hMessage : nonEmptyText? (PyValue.get? m "message") = some message)
      (hCondition : present? (PyValue.get? m "when") = some condition)
      (hEscapes : Escapes interpreter values maxExpressionDepth condition fault) :
      RuleEscapes (.mapping m) fault

/-- The exceptions of a guidance object: of a rule behind rules that the loop goes past, whose IDs
are all different. -/
def GuidanceEscapes (guidance : List (Option Text × PyValue)) (fault : Raised) : Prop :=
  ∃ (before : List PyValue) (rule : PyValue) (after : List PyValue) (ids : List Text),
    PyValue.get? guidance "constraints" = some (.seq .list (before ++ rule :: after)) ∧
      (before ++ [rule]).map ruleId = ids.map some ∧ ids.Nodup ∧
        (∀ r ∈ before, Passes interpreter values r) ∧
      RuleEscapes interpreter values rule fault

section Rules

variable {interpreter values} {fault : Raised}

theorem severityOf_eq_ok {id : Text} {severity : PyValue} : (∃ s, severityOf id severity = .ok s) ↔
    severity = text "blocking" ∨ severity = text "warning" := by
  unfold severityOf text
  cases severity with
  | str s =>
      simp only [PyValue.str.injEq]
      split_ifs with hBlocking hWarning
      · exact iff_of_true ⟨_, rfl⟩ (.inl hBlocking)
      · exact iff_of_true ⟨_, rfl⟩ (.inr hWarning)
      · exact iff_of_false nofun (not_or.2 ⟨hBlocking, hWarning⟩)
  | _ =>
      refine iff_of_false ?_ nofun
      rintro ⟨s, h⟩
      split_ifs at h
      cases h

theorem severityOf_eq_error {id : Text} {severity : PyValue} (hFault : Uncaught fault) :
    severityOf id severity = .error fault ↔ hashable severity = false ∧ fault = .typeError := by
  cases severity with
  | str s =>
      refine iff_of_false ?_ nofun
      unfold severityOf
      simp only
      split_ifs
      · exact nofun
      · exact nofun
      · exact (closed_refuse _).ne hFault
  | _ =>
      unfold severityOf
      simp only
      split_ifs with hHash
      · exact iff_of_false ((closed_refuse _).ne hFault) (fun h => by rw [hHash] at h; exact absurd h.1 nofun)
      · rw [Bool.not_eq_true] at hHash
        exact ⟨fun h => ⟨hHash, (Except.error.inj h).symm⟩, fun h => h.2 ▸ rfl⟩

/-- The turn of a rule whose ID is new. -/
theorem evaluateRuleWithin_eq {sofar : List Text × List Violation}
    {m : List (Option Text × PyValue)} {id : Text}
    (hId : ruleId (.mapping m) = some id) (hNew : id ∉ sofar.1) :
    evaluateRuleWithin interpreter values sofar (.mapping m) = (do
      let severity ← severityOf id (ruleSeverity m)
      let message ← orRefuse (.noMessage id) (nonEmptyText? (PyValue.get? m "message"))
      let expression ← orRefuse (.noExpression id) (present? (PyValue.get? m "when"))
      let fires ← evaluateExpressionWithin interpreter values maxExpressionDepth expression
      return (sofar.1 ++ [id], if fires then sofar.2 ++ [{ rule := id, severity, message }]
        else sofar.2)) := by
  have hFresh : refuseIf (id ∈ sofar.1) (.duplicateConstraintId id) = .ok () :=
    refuseIf_eq_ok.2 hNew
  exact (bind_of_ok (orRefuse_eq_ok.2 hId)).trans (bind_of_ok hFresh)

/-- A turn gets as far as to the severity only with an ID that is new. -/
theorem exists_new_of_evaluateRuleWithin {sofar : List Text × List Violation} {rule : PyValue}
    (h : ∀ reason, evaluateRuleWithin interpreter values sofar rule ≠ refuse reason) :
    ∃ m id, rule = .mapping m ∧ ruleId rule = some id ∧ id ∉ sofar.1 := by
  cases rule with
  | mapping m =>
      cases hId : nonEmptyText? (PyValue.get? m "id") with
      | none => exact absurd (by simp only [evaluateRuleWithin, hId]; rfl) (h .constraintId)
      | some id =>
          refine ⟨m, id, rfl, hId, fun hSeen => h (.duplicateConstraintId id) ?_⟩
          have hTwice : refuseIf (id ∈ sofar.1) (.duplicateConstraintId id) =
              refuse (.duplicateConstraintId id) := if_pos hSeen
          refine (bind_of_ok (orRefuse_eq_ok.2 hId)).trans ?_
          rw [hTwice]
          rfl
  | _ => exact absurd rfl (h .constraintNotObject)

/-- What a turn that returns has read. -/
theorem evaluateRuleWithin_eq_ok {sofar sofar' : List Text × List Violation} {rule : PyValue}
    (h : evaluateRuleWithin interpreter values sofar rule = .ok sofar') :
    ∃ id, ruleId rule = some id ∧ id ∉ sofar.1 ∧ sofar'.1 = sofar.1 ++ [id] ∧
      Passes interpreter values rule := by
  obtain ⟨m, id, rfl, hId, hNew⟩ := exists_new_of_evaluateRuleWithin (fun reason hRefused => by
    rw [h] at hRefused
    cases hRefused)
  rw [evaluateRuleWithin_eq hId hNew] at h
  obtain ⟨severity, hSeverity, h⟩ := Except.bind_eq_ok.1 h
  obtain ⟨message, hMessage, h⟩ := Except.bind_eq_ok.1 h
  obtain ⟨condition, hCondition, h⟩ := Except.bind_eq_ok.1 h
  obtain ⟨fires, hFires, h⟩ := Except.bind_eq_ok.1 h
  cases h
  exact ⟨id, hId, hNew, rfl, .intro (severityOf_eq_ok.1 ⟨severity, hSeverity⟩)
    (orRefuse_eq_ok.1 hMessage)
    (orRefuse_eq_ok.1 hCondition) (evaluateExpressionWithin_eq_ok.1 hFires)⟩

/-- A rule that the loop goes past. -/
theorem exists_evaluateRuleWithin {sofar : List Text × List Violation} {rule : PyValue} {id : Text}
    (hId : ruleId rule = some id) (hNew : id ∉ sofar.1) (hPasses : Passes interpreter values rule) :
    ∃ violations, evaluateRuleWithin interpreter values sofar rule = .ok (sofar.1 ++ [id],
      violations) := by
  cases hPasses with
  | intro hSeverity hMessage hCondition hHolds =>
      obtain ⟨severity, hSeverity⟩ := severityOf_eq_ok.2 hSeverity
      rw [evaluateRuleWithin_eq hId hNew, bind_of_ok hSeverity,
        bind_of_ok (orRefuse_eq_ok.2 hMessage), bind_of_ok (orRefuse_eq_ok.2 hCondition),
        bind_of_ok (evaluateExpressionWithin_eq_ok.2 hHolds)]
      exact ⟨_, rfl⟩

/-- What a turn raises. -/
theorem evaluateRuleWithin_eq_error {sofar : List Text × List Violation} {rule : PyValue}
    (hFault : Uncaught fault) :
    evaluateRuleWithin interpreter values sofar rule = .error fault ↔
      ∃ id, ruleId rule = some id ∧ id ∉ sofar.1 ∧ RuleEscapes interpreter values rule fault := by
  constructor
  · intro h
    obtain ⟨m, id, rfl, hId, hNew⟩ := exists_new_of_evaluateRuleWithin (fun reason hRefused => by
      rw [h] at hRefused
      exact hFault reason (Except.error.inj hRefused))
    refine ⟨id, hId, hNew, ?_⟩
    rw [evaluateRuleWithin_eq hId hNew] at h
    rcases Except.bind_eq_error.1 h with hSeverity | ⟨severity, hSeverity, h⟩
    · obtain ⟨hHash, rfl⟩ := (severityOf_eq_error hFault).1 hSeverity
      exact .severity hHash
    · obtain ⟨message, hMessage, h⟩ := ((closed_orRefuse _).bind_eq_error hFault).1 h
      obtain ⟨condition, hCondition, h⟩ := ((closed_orRefuse _).bind_eq_error hFault).1 h
      have hEscapes := (evaluateExpressionWithin_eq_error hFault).1 (bind_pure_eq_error.1 h)
      exact .condition (severityOf_eq_ok.1 ⟨severity, hSeverity⟩) (orRefuse_eq_ok.1 hMessage)
        (orRefuse_eq_ok.1 hCondition) hEscapes
  · rintro ⟨id, hId, hNew, hEscapes⟩
    cases hEscapes with
    | severity hHash =>
        rw [evaluateRuleWithin_eq hId hNew]
        exact Except.bind_eq_error.2 (.inl ((severityOf_eq_error hFault).2 ⟨hHash, rfl⟩))
    | condition hSeverity hMessage hCondition hEscapes =>
        obtain ⟨severity, hSeverity⟩ := severityOf_eq_ok.2 hSeverity
        rw [evaluateRuleWithin_eq hId hNew]
        refine Except.bind_eq_error.2 (.inr ⟨severity, hSeverity, ?_⟩)
        refine Except.bind_eq_error.2 (.inr ⟨_, orRefuse_eq_ok.2 hMessage, ?_⟩)
        refine Except.bind_eq_error.2 (.inr ⟨_, orRefuse_eq_ok.2 hCondition, ?_⟩)
        exact bind_pure_eq_error.2 ((evaluateExpressionWithin_eq_error hFault).2 hEscapes)

theorem RuleEscapes.uncaught {rule : PyValue} (h : RuleEscapes interpreter values rule fault) :
    Uncaught fault := by
  cases h with
  | severity => exact nofun
  | condition _ _ _ hEscapes => exact hEscapes.uncaught

/-- The loop goes past rules, of which none has the ID of another: by induction on the rules, with
the IDs seen so far. -/
theorem foldlM_evaluateRuleWithin_eq_ok :
    ∀ {rules : List PyValue} {sofar sofar' : List Text × List Violation},
    sofar.1.Nodup → rules.foldlM (evaluateRuleWithin interpreter values) sofar = .ok sofar' →
      ∃ ids, rules.map ruleId = ids.map some ∧ sofar'.1 = sofar.1 ++ ids ∧ sofar'.1.Nodup ∧
        ∀ r ∈ rules, Passes interpreter values r
  | [], sofar, sofar', hNodup, h => by
      cases h
      exact ⟨[], rfl, (List.append_nil _).symm, hNodup, nofun⟩
  | rule :: rules, sofar, sofar', hNodup, h => by
      rw [List.foldlM_cons] at h
      obtain ⟨next, hRule, hRest⟩ := Except.bind_eq_ok.1 h
      obtain ⟨id, hId, hNew, hNext, hPasses⟩ := evaluateRuleWithin_eq_ok hRule
      have hNextNodup : next.1.Nodup := by
        rw [hNext]
        exact (List.nodup_append_comm.2 (List.nodup_cons.2 ⟨hNew, hNodup⟩))
      obtain ⟨ids, hIds, hLast, hLastNodup, hRules⟩ :=
        foldlM_evaluateRuleWithin_eq_ok hNextNodup hRest
      refine ⟨id :: ids, by rw [List.map_cons, List.map_cons, hId, hIds], ?_, hLastNodup,
        List.forall_mem_cons.2 ⟨hPasses, hRules⟩⟩
      rw [hLast, hNext, List.append_assoc, List.singleton_append]

theorem exists_foldlM_evaluateRuleWithin : ∀ {rules : List PyValue} {ids : List Text}
    {sofar : List Text × List Violation}, rules.map ruleId = ids.map some → (sofar.1 ++ ids).Nodup →
      (∀ r ∈ rules, Passes interpreter values r) →
        ∃ violations, rules.foldlM (evaluateRuleWithin interpreter values) sofar =
          .ok (sofar.1 ++ ids, violations)
  | [], [], sofar, _, _, _ => ⟨sofar.2, by rw [List.append_nil]; rfl⟩
  | rule :: rules, id :: ids, sofar, hIds, hNodup, hPasses => by
      rw [List.map_cons, List.map_cons, List.cons.injEq] at hIds
      obtain ⟨hHead, hTail⟩ := List.forall_mem_cons.1 hPasses
      have hNew : id ∉ sofar.1 := fun hSeen => (List.nodup_append.1 hNodup).2.2 id hSeen id
        List.mem_cons_self rfl
      obtain ⟨found, hRule⟩ := exists_evaluateRuleWithin hIds.1 hNew hHead
      have hRest : ((sofar.1 ++ [id]) ++ ids).Nodup := by
        rwa [List.append_assoc, List.singleton_append]
      obtain ⟨violations, hRules⟩ :=
        @exists_foldlM_evaluateRuleWithin rules ids (sofar.1 ++ [id], found) hIds.2 hRest hTail
      refine ⟨violations, ?_⟩
      rw [List.foldlM_cons, hRule]
      rw [List.append_assoc, List.singleton_append] at hRules
      exact hRules

theorem closed_listOr (guidance : List (Option Text × PyValue)) (key : String) (reason : Reason) :
    Closed (listOr guidance key reason) := by
  unfold listOr
  split
  · exact closed_ok _
  · exact closed_refuse _

/-- A list that is not empty is one that the guidance has. -/
theorem listOr_eq_ok_append {guidance : List (Option Text × PyValue)} {key : String}
    {reason : Reason} {before after : List PyValue} {x : PyValue} :
    listOr guidance key reason = .ok (before ++ x :: after) ↔
      PyValue.get? guidance key = some (.seq .list (before ++ x :: after)) := by
  constructor
  · intro h
    cases hGet : PyValue.get? guidance key with
    | none =>
        rw [listOr, hGet] at h
        exact absurd (Except.ok.inj h) (by simp)
    | some value =>
        rw [listOr, hGet, Option.getD_some] at h
        split at h
        · rw [Except.ok.inj h]
        · cases h
  · intro h
    rw [listOr, h, Option.getD_some]

/-- The loop over the rules raises what escapes from the guidance. -/
theorem evaluateConstraintsWithin_eq_error {guidance : List (Option Text × PyValue)}
    (hFault : Uncaught fault) :
    evaluateConstraintsWithin interpreter values guidance = .error fault ↔
      GuidanceEscapes interpreter values guidance fault := by
  have hLoop : evaluateConstraintsWithin interpreter values guidance = .error fault ↔ ∃ rules,
      listOr guidance "constraints" .constraintsNotList = .ok rules ∧
        rules.foldlM (evaluateRuleWithin interpreter values) ([], []) = .error fault := by
    rw [evaluateConstraintsWithin, (closed_listOr _ _ _).bind_eq_error hFault]
    exact exists_congr (fun rules => and_congr_right (fun _ => bind_pure_eq_error))
  rw [hLoop]
  constructor
  · rintro ⟨rules, hRules, h⟩
    obtain ⟨before, rule, after, sofar, rfl, hBefore, hRule⟩ := Except.foldlM_eq_error.1 h
    obtain ⟨ids, hIds, hSeen, hNodup, hPasses⟩ :=
      foldlM_evaluateRuleWithin_eq_ok List.nodup_nil hBefore
    obtain ⟨id, hId, hNew, hEscapes⟩ := (evaluateRuleWithin_eq_error hFault).1 hRule
    rw [List.nil_append] at hSeen
    refine ⟨before, rule, after, ids ++ [id], listOr_eq_ok_append.1 hRules, ?_, ?_, hPasses,
      hEscapes⟩
    · rw [List.map_append, List.map_append, hIds, List.map_singleton, List.map_singleton, hId]
    · rw [hSeen] at hNodup hNew
      exact List.nodup_append_comm.2 (List.nodup_cons.2 ⟨hNew, hNodup⟩)
  · rintro ⟨before, rule, after, ids, hRules, hIds, hNodup, hPasses, hEscapes⟩
    refine ⟨_, listOr_eq_ok_append.2 hRules, ?_⟩
    -- The last of the IDs is that of the rule, which the others before it do not have.
    obtain ⟨seen, last, rfl⟩ : ∃ seen last, ids = seen ++ [last] := by
      rcases List.eq_nil_or_concat' ids with rfl | ⟨seen, last, h⟩
      · simp at hIds
      · exact ⟨seen, last, h⟩
    rw [List.map_append, List.map_append, List.map_singleton, List.map_singleton] at hIds
    obtain ⟨hBeforeIds, hId⟩ := List.append_inj' hIds rfl
    obtain ⟨violations, hBefore⟩ := @exists_foldlM_evaluateRuleWithin _ _ before seen ([], [])
      hBeforeIds
      (List.nodup_append.1 hNodup).1 hPasses
    refine Except.foldlM_eq_error.2 ⟨before, rule, after, _, rfl, hBefore, ?_⟩
    refine (evaluateRuleWithin_eq_error hFault).2 ⟨last, (List.cons.inj hId).1, fun hSeen => ?_,
      hEscapes⟩
    exact (List.nodup_append.1 hNodup).2.2 last hSeen last List.mem_cons_self rfl

end Rules

end Evaluator

/-! ## When the evaluator is closed -/

/-- An interpreter whose descents are bounded by the depth of the values alone. -/
def plainInterpreter (stdev : List Binary64 → Except Text Binary64) (limit : ℕ) : Interpreter where
  stdev
  limit
  overflows descent := decide (limit < descent.depth)
  shallow _ h := decide_eq_false (not_lt.2 h)

theorem readOperand_literal (value : PyValue) :
    readOperand (literal value) = .ok (.literal value) := by
  simp [readOperand, literal, textMapping_object, PyValue.get?, PyValue.keysAre, List.lookup_cons,
    py_beq, refuseIf, Except.raiseIf, bind, Except.bind, pure, Except.pure]

theorem readExpression_comparison (left : PyValue) (op : String) (right : PyValue) :
    readExpression (comparison left op right) = .ok (.comparison left (py op) right) := by
  simp [readExpression, comparison, text, textMapping_object, readComparison, PyValue.get?,
    PyValue.keysAre, List.lookup_cons, py_beq, refuseIf, Except.raiseIf, bind, Except.bind, pure,
    Except.pure]

/-- Two literals that are both nested deeper than the limit cannot be compared. -/
theorem deep_literals_escape {stdev : List Binary64 → Except Text Binary64} {values : Fields}
    {limit : ℕ} {left right : PyValue} (hLeft : limit < depth left) (hRight : limit < depth right)
    (levels : ℕ) :
    Escapes (plainInterpreter stdev limit) values (levels + 1) (comparison (literal left) "eq"
      (literal right))
      .recursionError := by
  refine .deep (readExpression_comparison _ _ _) (.literal (readOperand_literal left))
    (.literal (readOperand_literal right)) ⟨?_, decide_eq_true (lt_min hLeft hRight)⟩
  simp [comparesOperands]

end Validation
