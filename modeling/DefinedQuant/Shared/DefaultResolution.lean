import DefinedQuant.Shared.ContractRules

/-!
# Resolving defaults

Values grow while the required questions are settled: an answer is never replaced, and a condition
that has an outcome keeps it. So a resolution that returns is right: nothing supplied is changed,
every question has a value, and what is added comes from a default that applies. A refusal reports
the questions of one pass only. It is right when that pass has seen every question that cannot be
answered, and has not reported one that another question's default answers.
-/

namespace Validation

variable {stdev : List Binary64 → Except Text Binary64}

/-! ## Growing values -/

/-- Every value is still there. -/
def Extends (values more : Fields) : Prop := ∀ field v, values.lookup field = some v →
    more.lookup field = some v

/-- Values extend themselves. -/
theorem Extends.refl (values : Fields) : Extends values values := fun _ _ h => h

/-- Extending twice extends. -/
theorem Extends.trans {a b c : Fields} (h : Extends a b) (h' : Extends b c) : Extends a c :=
  fun field v hv => h' field v (h field v hv)

/-- A field is there where it has a value. -/
theorem hasField_iff {values : Fields} {field : Text} :
    hasField values field ↔ ∃ v, values.lookup field = some v := by
  unfold hasField
  induction values with
  | nil => simp
  | cons p values ih =>
      rw [List.map_cons, List.mem_cons, ih, List.lookup_cons]
      by_cases h : field = p.1
      · simp [h]
      · simp [h, beq_eq_false_iff_ne.2 h]

/-- An extension has the fields that were there. -/
theorem Extends.hasField {values more : Fields} {field : Text} (h : Extends values more)
    (hField : hasField values field) : hasField more field := by
  obtain ⟨v, hv⟩ := hasField_iff.1 hField
  exact hasField_iff.2 ⟨v, h field v hv⟩

/-- A new field has its value, and the others keep theirs. -/
theorem lookup_addField {values : Fields} {field f : Text} {v : PyValue}
    (h : ¬ hasField values field) :
    (addField values field v).lookup f = if f = field then some v else values.lookup f := by
  unfold addField
  rw [List.lookup_append]
  by_cases hf : f = field
  · subst hf
    have hNone : values.lookup f = none := by
      cases hLookup : values.lookup f with
      | none => rfl
      | some v => exact absurd (hasField_iff.2 ⟨v, hLookup⟩) h
    simp [hNone]
  · cases hLookup : values.lookup f <;> simp [hf, List.lookup_cons, beq_eq_false_iff_ne.2 hf]

/-- Adding a new field extends the values. -/
theorem extends_addField {values : Fields} {field : Text} {v : PyValue}
    (h : ¬ hasField values field) :
    Extends values (addField values field v) := by
  intro f w hw
  rw [lookup_addField h, if_neg]
  · exact hw
  · rintro rfl
    exact h (hasField_iff.2 ⟨w, hw⟩)

/-! ## Conditions keep their outcomes -/

section Keeps

variable {α β : Type}

/-- What the one computation returns, the other one returns as well. -/
def Keeps (x y : Except Raised α) : Prop := ∀ a, x = .ok a → y = .ok a

/-- A computation keeps its own result. -/
theorem Keeps.refl (x : Except Raised α) : Keeps x x := fun _ h => h

/-- A refusal promises nothing. -/
theorem keeps_refuse (reason : Reason) (y : Except Raised α) : Keeps (refuse reason) y := nofun

/-- Two steps keep their result where both do. -/
theorem Keeps.bind {x y : Except Raised α} {f g : α → Except Raised β} (h : Keeps x y)
    (hf : ∀ a, Keeps (f a) (g a)) : Keeps (x >>= f) (y >>= g) := by
  intro b hb
  obtain ⟨a, ha, hb⟩ := Except.bind_eq_ok.1 hb
  exact Except.bind_eq_ok.2 ⟨a, h a ha, hf a b hb⟩

/-- A search through all items keeps its result where each test does. -/
theorem keeps_allM {f g : α → Except Raised Bool} (h : ∀ x, Keeps (f x) (g x)) :
    ∀ xs : List α, Keeps (xs.allM f) (xs.allM g)
  | [] => Keeps.refl _
  | x :: xs => (h x).bind (fun b => by
      cases b with
      | true => exact keeps_allM h xs
      | false => exact Keeps.refl _)

/-- So does a search for some item. -/
theorem keeps_anyM {f g : α → Except Raised Bool} (h : ∀ x, Keeps (f x) (g x)) :
    ∀ xs : List α, Keeps (xs.anyM f) (xs.anyM g)
  | [] => Keeps.refl _
  | x :: xs => (h x).bind (fun b => by
      cases b with
      | true => exact Keeps.refl _
      | false => exact keeps_anyM h xs)

end Keeps

section Outcomes

variable {values more : Fields}

/-- A field that was resolved is resolved alike in an extension. -/
theorem keeps_resolveField (h : Extends values more) (field measure : PyValue) :
    Keeps (resolveField stdev values field measure) (resolveField stdev more field measure) := by
  unfold resolveField
  cases field with
  | str name =>
      cases hLookup : values.lookup name with
      | none =>
          simp only [hLookup]
          exact keeps_refuse _ _
      | some value =>
          simp only [hLookup, h name value hLookup]
          exact Keeps.refl _
  | _ => exact Keeps.refl _

/-- So is an operand. -/
theorem keeps_resolveOperand (h : Extends values more) (operand : PyValue) :
    Keeps (resolveOperand stdev values operand) (resolveOperand stdev more operand) := by
  refine (Keeps.refl _).bind (fun m => ?_)
  split
  · exact Keeps.refl _
  · exact (Keeps.refl _).bind (fun _ => keeps_resolveField h _ _)
  · exact Keeps.refl _

/-- So is a comparison. -/
theorem keeps_evaluateComparison (h : Extends values more) (m : List (Option Text × PyValue)) :
    Keeps (evaluateComparison stdev values m) (evaluateComparison stdev more m) := by
  unfold evaluateComparison
  split
  · next leftOperand operator rightOperand _ _ _ =>
      refine (Keeps.refl _).bind (fun _ => ?_)
      cases operator with
      | str name =>
          exact (keeps_resolveOperand h leftOperand).bind (fun _ =>
            (keeps_resolveOperand h rightOperand).bind (fun _ => Keeps.refl _))
      | _ => exact Keeps.refl _
  · exact Keeps.refl _

/-- A condition that has an outcome keeps it while the values grow: it has only asked for fields
that are there. -/
theorem keeps_evaluateExpression (h : Extends values more) : ∀ (levels : ℕ) (expression : PyValue),
    Keeps (evaluateExpression stdev values levels expression) (evaluateExpression stdev more levels
    expression)
  | 0, _ => Keeps.refl _
  | levels + 1, expression => by
      unfold evaluateExpression
      refine (Keeps.refl _).bind (fun m => ?_)
      split_ifs
      · exact (Keeps.refl _).bind (fun children => keeps_allM (keeps_evaluateExpression h levels)
          children)
      · exact (Keeps.refl _).bind (fun children => keeps_anyM (keeps_evaluateExpression h levels)
          children)
      · exact keeps_evaluateComparison h m

/-- A default that applies still applies in an extension, and one that does not still does not. -/
theorem keeps_applies (h : Extends values more) (item : AllowedDefault) :
    Keeps (applies stdev values item) (applies stdev more item) := by
  unfold applies
  split
  · exact Keeps.refl _
  · exact keeps_evaluateExpression h _ _

end Outcomes

/-! ## Settling the questions

What the resolution is for: the questions are settled one after the other. A field that has a value
keeps it; else the question takes the value of the allowed default if that applies, else its own
default, and else it stays open.
-/

/-- One question. -/
def settleQuestion (stdev : List Binary64 → Except Text Binary64)
    (defaults : List (Text × AllowedDefault))
    (values : Fields) (q : RequiredQuestion) : Except Raised Fields := do
  if hasField values q.target then return values
  else
    let byRule ← defaultValue stdev values (defaults.lookup q.target)
    match byRule.or q.default with
    | some value => return addField values q.target value
    | none => return values

/-- All of them. -/
def settle (stdev : List Binary64 → Except Text Binary64)
    (defaults : List (Text × AllowedDefault)) :
    Fields → List RequiredQuestion → Except Raised Fields
  | values, [] => .ok values
  | values, q :: questions => do settle stdev defaults (← settleQuestion stdev defaults values q) questions

section Settle

variable {defaults : List (Text × AllowedDefault)} {values next resolved : Fields}
    {q : RequiredQuestion}
  {questions : List RequiredQuestion}

/-- The allowed default of a field applies. -/
def RuleApplies (stdev : List Binary64 → Except Text Binary64)
    (defaults : List (Text × AllowedDefault))
    (values : Fields) (field : Text) (value : PyValue) : Prop :=
  ∃ item, defaults.lookup field = some item ∧ item.value = value ∧ applies stdev values item =
    .ok true

/-- A rule that applies still applies in an extension. -/
theorem RuleApplies.mono {more : Fields} {field : Text} {value : PyValue} (h : Extends values more)
    (hRule : RuleApplies stdev defaults values field value) :
    RuleApplies stdev defaults more field value := by
  obtain ⟨item, hItem, hValue, hApplies⟩ := hRule
  exact ⟨item, hItem, hValue, keeps_applies h item _ hApplies⟩

/-- The value by rule is that of a rule that applies, or none does. -/
theorem defaultValue_eq_ok {field : Text} {byRule : Option PyValue}
    (h : defaultValue stdev values (defaults.lookup field) = .ok byRule) :
    (∃ value, byRule = some value ∧ RuleApplies stdev defaults values field value) ∨
      byRule = none ∧ ∀ item, defaults.lookup field = some item → applies stdev values item =
        .ok false := by
  cases hItem : defaults.lookup field with
  | none =>
      rw [hItem] at h
      cases h
      exact .inr ⟨rfl, nofun⟩
  | some item =>
      rw [hItem, defaultValue] at h
      obtain ⟨b, hApplies, h⟩ := Except.bind_eq_ok.1 h
      cases b with
      | true =>
          cases h
          exact .inl ⟨_, rfl, item, hItem, rfl, hApplies⟩
      | false =>
          cases h
          refine .inr ⟨rfl, fun other hOther => ?_⟩
          cases hOther
          exact hApplies

/-- What settling one question does: nothing if its field has a value, else a value from where it
may come from, and nothing if there is none. -/
theorem settleQuestion_cases (h : settleQuestion stdev defaults values q = .ok next) :
    (hasField values q.target ∧ next = values) ∨
    (¬ hasField values q.target ∧ ∃ value, next = addField values q.target value ∧
      (RuleApplies stdev defaults values q.target value ∨ q.default = some value)) ∨
    (¬ hasField values q.target ∧ next = values ∧ q.default = none ∧
      ∀ item, defaults.lookup q.target = some item → applies stdev values item = .ok false) := by
  unfold settleQuestion at h
  split_ifs at h with hField
  · cases h
    exact .inl ⟨hField, rfl⟩
  · obtain ⟨byRule, hByRule, h⟩ := Except.bind_eq_ok.1 h
    rcases defaultValue_eq_ok hByRule with ⟨value, rfl, hRule⟩ | ⟨rfl, hNot⟩
    · cases h
      exact .inr (.inl ⟨hField, value, rfl, .inl hRule⟩)
    · cases hDefault : q.default with
      | some value =>
          rw [hDefault] at h
          cases h
          exact .inr (.inl ⟨hField, value, rfl, .inr rfl⟩)
      | none =>
          rw [hDefault] at h
          cases h
          exact .inr (.inr ⟨hField, rfl, rfl, hNot⟩)

/-- Settling a question extends the values. -/
theorem settleQuestion_extends (h : settleQuestion stdev defaults values q = .ok next) :
    Extends values next := by
  rcases settleQuestion_cases h with ⟨-, rfl⟩ | ⟨hField, value, rfl, -⟩ | ⟨-, rfl, -⟩
  · exact Extends.refl _
  · exact extends_addField hField
  · exact Extends.refl _

/-- Settling all questions extends the values. -/
theorem settle_extends (h : settle stdev defaults values questions = .ok resolved) :
    Extends values resolved := by
  induction questions generalizing values with
  | nil =>
      cases h
      exact Extends.refl _
  | cons q questions ih =>
      obtain ⟨next, hNext, h⟩ := Except.bind_eq_ok.1 h
      exact (settleQuestion_extends hNext).trans (ih h)

/-- What is there in the end was there in the beginning, or comes from a default. -/
theorem settle_added (h : settle stdev defaults values questions = .ok resolved) {field : Text}
    {v : PyValue} (hv : resolved.lookup field = some v) : values.lookup field = some v ∨
      (¬ hasField values field ∧ (RuleApplies stdev defaults resolved field v ∨
        ∃ q ∈ questions, q.target = field ∧ q.default = some v)) := by
  induction questions generalizing values with
  | nil =>
      cases h
      exact .inl hv
  | cons q questions ih =>
      obtain ⟨next, hNext, h⟩ := Except.bind_eq_ok.1 h
      have hExtends := settle_extends h
      rcases ih h with hIn | ⟨hNot, hSource⟩
      · rcases settleQuestion_cases hNext with ⟨-, rfl⟩ | ⟨hField, value, rfl, hSource⟩ | ⟨-,
          rfl, -⟩
        · exact .inl hIn
        · rw [lookup_addField hField] at hIn
          split_ifs at hIn with hSame
          · cases hIn
            subst hSame
            refine .inr ⟨hField, hSource.imp (fun hRule => ?_) (fun hDefault => ?_)⟩
            · exact hRule.mono ((extends_addField hField).trans hExtends)
            · exact ⟨q, List.mem_cons_self, rfl, hDefault⟩
          · exact .inl hIn
        · exact .inl hIn
      · refine .inr ⟨fun hField => hNot ((settleQuestion_extends hNext).hasField hField), ?_⟩
        refine hSource.imp id ?_
        rintro ⟨other, hMem, hOther⟩
        exact ⟨other, List.mem_cons_of_mem _ hMem, hOther⟩

/-- A question that can be answered is. -/
theorem settle_answers (h : settle stdev defaults values questions = .ok resolved)
    (hq : q ∈ questions)
    (hAnswer : (∃ value, RuleApplies stdev defaults resolved q.target value) ∨ q.default.isSome = true) :
    hasField resolved q.target := by
  induction questions generalizing values with
  | nil => cases hq
  | cons other questions ih =>
      obtain ⟨next, hNext, h⟩ := Except.bind_eq_ok.1 h
      have hExtends := settle_extends h
      rcases List.mem_cons.1 hq with rfl | hq
      · apply hExtends.hasField
        rcases settleQuestion_cases hNext with ⟨hField, rfl⟩ | ⟨hField, value, rfl, -⟩ |
          ⟨-, rfl, hNone, hNot⟩
        · exact hField
        · exact hasField_iff.2 ⟨value, by rw [lookup_addField hField, if_pos rfl]⟩
        · -- neither the rule, whose outcome stays, nor the question itself has an answer
          rcases hAnswer with ⟨value, item, hItem, -, hApplies⟩ | hSome
          · have hFalse := keeps_applies hExtends item _ (hNot item hItem)
            rw [hApplies] at hFalse
            cases hFalse
          · rw [hNone] at hSome
            cases hSome
      · exact ih h hq

/-! ## The two passes over the questions -/

/-- The questions that the second pass leaves open: no value when it has looked at them. -/
def openQuestions (stdev : List Binary64 → Except Text Binary64)
    (defaults : List (Text × AllowedDefault)) :
    Fields → List RequiredQuestion → List RequiredQuestion
  | _, [] => []
  | values, q :: questions =>
      match settleQuestion stdev defaults values q with
      | .ok next =>
          if hasField next q.target then openQuestions stdev defaults next questions
          else q :: openQuestions stdev defaults next questions
      | .error _ => []

/-- A question stays open where settling it has not filled its target. -/
theorem openQuestions_cons (hNext : settleQuestion stdev defaults values q = .ok next) :
    openQuestions stdev defaults values (q :: questions) = if hasField next q.target then
      openQuestions stdev defaults next questions
        else q :: openQuestions stdev defaults next questions := by
  rw [openQuestions, hNext]

/-- The pass of the source settles a question and notes it where it stays open. -/
theorem answerQuestion_eq (hNext : settleQuestion stdev defaults values q = .ok next)
    (unanswered : List MissingQuestion) : answerQuestion stdev defaults (values, unanswered) q =
      .ok (next, unanswered ++ if hasField next q.target then [] else [q.missing]) := by
  unfold settleQuestion at hNext
  unfold answerQuestion
  -- A field that is there is left alone; otherwise a rule is tried first and the default then.
  by_cases hField : hasField values q.target
  · rw [if_pos hField] at hNext ⊢
    cases hNext
    rw [if_pos hField, List.append_nil]
    rfl
  · rw [if_neg hField] at hNext ⊢
    obtain ⟨byRule, hByRule, hNext⟩ := Except.bind_eq_ok.1 hNext
    rw [hByRule]
    have hAdded : ∀ value, hasField (addField values q.target value) q.target := by
      intro value
      exact hasField_iff.2 ⟨value, by rw [lookup_addField hField, if_pos rfl]⟩
    cases byRule with
    | some value =>
        cases hNext
        rw [if_pos (hAdded value), List.append_nil]
        rfl
    | none =>
        cases hDefault : q.default with
        | some value =>
            rw [hDefault] at hNext
            cases hNext
            rw [if_pos (hAdded value), List.append_nil]
            rfl
        | none =>
            rw [hDefault] at hNext
            cases hNext
            rw [if_neg hField]
            rfl

/-- The second pass settles the questions and reports the ones it leaves open. -/
theorem foldlM_answerQuestion (h : settle stdev defaults values questions = .ok resolved)
    (unanswered : List MissingQuestion) :
    questions.foldlM (answerQuestion stdev defaults) (values, unanswered) = .ok (resolved,
      unanswered ++ (openQuestions stdev defaults values questions).map RequiredQuestion.missing) :=
      by
  induction questions generalizing values unanswered with
  | nil =>
      cases h
      rw [openQuestions, List.map_nil, List.append_nil]
      rfl
  | cons q questions ih =>
      obtain ⟨next, hNext, h⟩ := Except.bind_eq_ok.1 h
      rw [List.foldlM_cons, answerQuestion_eq hNext, openQuestions_cons hNext]
      refine (ih h _).trans ?_
      split_ifs with hField
      · rw [List.append_nil]
      · rw [List.append_assoc]
        rfl

/-- A question is open when neither its field's rule nor it nor a question before it has an answer. -/
theorem mem_openQuestions (h : settle stdev defaults values questions = .ok resolved) :
    q ∈ openQuestions stdev defaults values questions ↔ ∃ before after, questions = before ++ q :: after ∧
      ¬ hasField values q.target ∧ (¬ ∃ value, RuleApplies stdev defaults resolved q.target value) ∧
      ∀ p ∈ before ++ [q], p.target = q.target → p.default = none := by
  -- By induction on the questions. The loop goes on with the values that the first one has left.
  induction questions generalizing values with
  | nil =>
      rw [openQuestions]
      refine iff_of_false List.not_mem_nil ?_
      rintro ⟨before, after, hNil, -⟩
      exact absurd hNil.symm (List.append_ne_nil_of_right_ne_nil _ (List.cons_ne_nil _ _))
  | cons p questions ih =>
      obtain ⟨next, hNext, h⟩ := Except.bind_eq_ok.1 h
      have hExtends := settle_extends h
      have hGrows := settleQuestion_extends hNext
      -- The first question is open when its field is still missing behind it.
      have hOpen : q ∈ openQuestions stdev defaults values (p :: questions) ↔
          (q = p ∧ ¬ hasField next p.target) ∨ q ∈ openQuestions stdev defaults next questions := by
        rw [openQuestions_cons hNext]
        by_cases hField : hasField next p.target
        · simp [hField]
        · simp [hField, List.mem_cons]
      rw [hOpen, ih h]
      constructor
      · rintro (⟨rfl, hField⟩ | ⟨before, after, rfl, hField, hRule, hBefore⟩)
        -- Settling the first question can have found it answered, filled it, or left it.
        · rcases settleQuestion_cases hNext with ⟨hThere, rfl⟩ | ⟨hNot, value, rfl, -⟩ |
            ⟨hNot, rfl, hNone, hFalse⟩
          · exact absurd hThere hField
          · exact absurd (hasField_iff.2 ⟨value, by rw [lookup_addField hNot, if_pos rfl]⟩) hField
          · refine ⟨[], questions, rfl, hField, ?_, ?_⟩
            · rintro ⟨value, item, hItem, -, hApplies⟩
              have hKept := keeps_applies hExtends item _ (hFalse item hItem)
              rw [hApplies] at hKept
              cases hKept
            · intro r hr _
              rw [List.mem_singleton.1 hr]
              exact hNone
        · refine ⟨p :: before, after, rfl, fun hThere => hField (hGrows.hasField hThere), hRule, ?_⟩
          refine List.forall_mem_cons.2 ⟨fun hTarget => ?_, hBefore⟩
          rcases settleQuestion_cases hNext with ⟨hThere, rfl⟩ | ⟨hNot, value, rfl, -⟩ | ⟨-, -,
            hNone, -⟩
          · exact absurd (hTarget ▸ hThere) hField
          · refine absurd (hasField_iff.2 ⟨value, ?_⟩) hField
            rw [lookup_addField hNot, if_pos hTarget.symm]
          · exact hNone
      · rintro ⟨before, after, hEq, hField, hRule, hBefore⟩
        -- Neither a rule nor the default of another question filled the field of `q`.
        have hStays : (p.target = q.target → p.default = none) → ¬ hasField next q.target := by
          intro hNone hThere
          rcases settleQuestion_cases hNext with ⟨-, rfl⟩ | ⟨hNot, value, rfl, hSource⟩ | ⟨-,
            rfl, -⟩
          · exact hField hThere
          · obtain ⟨v, hv⟩ := hasField_iff.1 hThere
            rw [lookup_addField hNot] at hv
            split_ifs at hv with hSame
            · rcases hSource with hApplies | hDefault
              · exact hRule ⟨value, hSame ▸ hApplies.mono (hGrows.trans hExtends)⟩
              · rw [hNone hSame.symm] at hDefault
                cases hDefault
            · exact hField (hasField_iff.2 ⟨v, hv⟩)
          · exact hField hThere
        cases before with
        | nil =>
            obtain ⟨rfl, rfl⟩ := List.cons.inj hEq
            exact .inl ⟨rfl, hStays (fun hTarget => hBefore p (List.mem_singleton_self p) hTarget)⟩
        | cons r before =>
            obtain ⟨rfl, rfl⟩ := List.cons.inj hEq
            refine .inr ⟨before, after, rfl, hStays (hBefore p List.mem_cons_self), hRule, ?_⟩
            exact fun r hr => hBefore r (List.mem_cons_of_mem _ hr)

/-- Questions that are not left open have a value in the end. -/
theorem filter_openQuestions (h : settle stdev defaults values questions = .ok resolved) :
    (openQuestions stdev defaults values questions).filter (fun q => ¬ hasField resolved q.target)
      = questions.filter (fun q => ¬ hasField resolved q.target) := by
  induction questions generalizing values with
  | nil => rfl
  | cons p questions ih =>
      obtain ⟨next, hNext, h⟩ := Except.bind_eq_ok.1 h
      rw [openQuestions_cons hNext]
      split_ifs with hField
      · have hThere : hasField resolved p.target := (settle_extends h).hasField hField
        rw [List.filter_cons_of_neg (by simp [hThere])]
        exact ih h
      · rw [List.filter_cons, List.filter_cons, ih h]

end Settle

/-! ## The remaining defaults -/

section Fill

variable {values next : Fields}

/-- The last pass fills a target that is still missing, where its default applies. -/
theorem fillDefault_cases {p : Text × AllowedDefault} (h : fillDefault stdev values p = .ok next) :
    next = values ∨ ¬ hasField values p.1 ∧ next = addField values p.1 p.2.value ∧
      applies stdev values p.2 = .ok true := by
  unfold fillDefault at h
  split_ifs at h with hField
  · cases h
    exact .inl rfl
  · obtain ⟨b, hApplies, h⟩ := Except.bind_eq_ok.1 h
    cases b with
    | true =>
        cases h
        exact .inr ⟨hField, rfl, hApplies⟩
    | false =>
        cases h
        exact .inl rfl

/-- Filling in the remaining defaults keeps every value, and adds those of defaults that apply. -/
theorem foldlM_fillDefault {rest : List (Text × AllowedDefault)}
    (h : rest.foldlM (fillDefault stdev) values = .ok next) : Extends values next ∧
      ∀ field v, next.lookup field = some v → values.lookup field = some v ∨
        ¬ hasField values field ∧ ∃ item, (field, item) ∈ rest ∧ item.value = v ∧
          applies stdev next item = .ok true := by
  induction rest generalizing values with
  | nil =>
      cases h
      exact ⟨Extends.refl _, fun _ _ hv => .inl hv⟩
  | cons p rest ih =>
      rw [List.foldlM_cons] at h
      obtain ⟨filled, hFilled, h⟩ := Except.bind_eq_ok.1 h
      obtain ⟨hExtends, hAdded⟩ := ih h
      rcases fillDefault_cases hFilled with rfl | ⟨hNot, rfl, hApplies⟩
      · refine ⟨hExtends, fun field v hv => (hAdded field v hv).imp id ?_⟩
        rintro ⟨hField, item, hMem, hItem⟩
        exact ⟨hField, item, List.mem_cons_of_mem _ hMem, hItem⟩
      · have hGrows := extends_addField (v := p.2.value) hNot
        refine ⟨hGrows.trans hExtends, fun field v hv => ?_⟩
        rcases hAdded field v hv with hThere | ⟨hField, item, hMem, hItem⟩
        · rw [lookup_addField hNot] at hThere
          split_ifs at hThere with hSame
          · cases hThere
            subst hSame
            exact .inr ⟨hNot, p.2, List.mem_cons_self, rfl,
              keeps_applies (hGrows.trans hExtends) p.2 _ hApplies⟩
          · exact .inl hThere
        · exact .inr ⟨fun hThere => hField (hGrows.hasField hThere), item,
            List.mem_cons_of_mem _ hMem, hItem⟩

end Fill

/-! ## The whole resolution -/

section Resolution

variable {guidance : List (Option Text × PyValue)} {defaults : List (Text × AllowedDefault)}
  {questions : List RequiredQuestion} {supplied resolved : Fields}

/-- A guidance object whose defaults and questions can be read. -/
structure WellFormed (guidance : List (Option Text × PyValue))
    (defaults : List (Text × AllowedDefault)) (questions : List RequiredQuestion) : Prop where
  defaults : (do (← listOr guidance "allowed_defaults" .guidanceNotLists).foldlM readDefault []) =
    .ok defaults
  questions : (do (← listOr guidance "required_questions" .guidanceNotLists).mapM readQuestion)
    = .ok questions

/-- No condition that is asked for raises: the questions can be settled, and if that leaves none
open the remaining defaults can be filled in. -/
structure Askable (stdev : List Binary64 → Except Text Binary64)
    (defaults : List (Text × AllowedDefault))
    (questions : List RequiredQuestion) (supplied resolved : Fields) : Prop where
  settle : settle stdev defaults supplied questions = .ok resolved
  fill : (∀ q ∈ questions, hasField resolved q.target) →
    ∃ values, defaults.foldlM (fillDefault stdev) resolved = .ok values

/-- A field can be filled by an allowed default that applies or by the default of a question for it. -/
def CanFill (stdev : List Binary64 → Except Text Binary64) (defaults : List (Text × AllowedDefault))
    (questions : List RequiredQuestion) (resolved : Fields) (field : Text) : Prop :=
  (∃ value, RuleApplies stdev defaults resolved field value) ∨
    ∃ q ∈ questions, q.target = field ∧ q.default.isSome = true

open Classical in
/-- The questions that have no answer, in the order of the contract. -/
noncomputable def unanswerable (stdev : List Binary64 → Except Text Binary64)
    (defaults : List (Text × AllowedDefault)) (questions : List RequiredQuestion)
    (supplied resolved : Fields) : List RequiredQuestion :=
  questions.filter (fun q => ¬ hasField supplied q.target ∧
    ¬ CanFill stdev defaults questions resolved q.target)

/-- What a resolution that returns has done. -/
structure Returned (stdev : List Binary64 → Except Text Binary64)
    (defaults : List (Text × AllowedDefault))
    (questions : List RequiredQuestion) (supplied values : Fields) : Prop where
  kept : Extends supplied values
  present : ∀ q ∈ questions, hasField values q.target
  added : ∀ field v, values.lookup field = some v → ¬ hasField supplied field →
    RuleApplies stdev defaults values field v ∨ ∃ q ∈ questions, q.target = field ∧
      q.default = some v

/-- The resolution returns as it should, or reports exactly the questions that have no answer. -/
def Complete (stdev : List Binary64 → Except Text Binary64)
    (guidance : List (Option Text × PyValue))
    (defaults : List (Text × AllowedDefault)) (questions : List RequiredQuestion)
    (supplied resolved : Fields) : Prop :=
  (∃ values, effectiveValues stdev guidance supplied = .ok values ∧
    Returned stdev defaults questions supplied values) ∨
  effectiveValues stdev guidance supplied = .error (.ambiguousInput
    ((unanswerable stdev defaults questions supplied resolved).map RequiredQuestion.missing))

/-- The first pass sees it all: if it finds a question with neither a value nor a default, no other
question has a default for that field, and every other question has an answer. If it finds none, no
question that the second pass leaves open stands before one with a default for the same field. -/
structure Foreseen (stdev : List Binary64 → Except Text Binary64)
    (defaults : List (Text × AllowedDefault))
    (questions : List RequiredQuestion) (supplied resolved : Fields) : Prop where
  alone : ∀ q ∈ questions, isMissing supplied defaults q = true →
    (∀ p ∈ questions, p.target = q.target → p.default = none) ∧
      ∀ p ∈ questions, isMissing supplied defaults p = true ∨ hasField supplied p.target ∨
        CanFill stdev defaults questions resolved p.target
  ordered : (∀ q ∈ questions, isMissing supplied defaults q = false) →
    ∀ before q after, questions = before ++ q :: after → ¬ hasField supplied q.target →
      (¬ ∃ value, RuleApplies stdev defaults resolved q.target value) →
      (∀ p ∈ before ++ [q], p.target = q.target → p.default = none) →
        ∀ p ∈ after, p.target = q.target → p.default = none

/-- The early check asks for what has no value, no rule and no default. -/
theorem isMissing_iff {q : RequiredQuestion} : isMissing supplied defaults q = true ↔
    ¬ hasField supplied q.target ∧ defaults.lookup q.target = none ∧ q.default = none := by
  simp [isMissing, and_assoc, Option.isNone_iff_eq_none]

/-- A question has a value in the end if it had one, or if there is one for it. -/
theorem hasField_resolved_iff (h : settle stdev defaults supplied questions = .ok resolved)
    {q : RequiredQuestion} (hq : q ∈ questions) : hasField resolved q.target ↔
      hasField supplied q.target ∨ CanFill stdev defaults questions resolved q.target := by
  constructor
  · intro hField
    obtain ⟨v, hv⟩ := hasField_iff.1 hField
    rcases settle_added h hv with hThere | ⟨-, hRule | ⟨p, hp, hTarget, hDefault⟩⟩
    · exact .inl (hasField_iff.2 ⟨v, hThere⟩)
    · exact .inr (.inl ⟨v, hRule⟩)
    · exact .inr (.inr ⟨p, hp, hTarget, by rw [hDefault]; rfl⟩)
  · rintro (hField | hRule | ⟨p, hp, hTarget, hDefault⟩)
    · exact (settle_extends h).hasField hField
    · exact settle_answers h hq (.inl hRule)
    · rw [← hTarget]
      exact settle_answers h hp (.inr hDefault)

open Classical in
/-- What is unanswerable is missing and cannot be filled. -/
theorem mem_unanswerable {q : RequiredQuestion} :
    q ∈ unanswerable stdev defaults questions supplied resolved ↔ q ∈ questions ∧
      ¬ hasField supplied q.target ∧ ¬ CanFill stdev defaults questions resolved q.target := by
  unfold unanswerable
  rw [List.mem_filter]
  exact and_congr_right' decide_eq_true_iff

/-- It is what settling leaves open. -/
theorem unanswerable_eq (h : settle stdev defaults supplied questions = .ok resolved) :
    unanswerable stdev defaults questions supplied resolved
      = questions.filter (fun q => ¬ hasField resolved q.target) := by
  unfold unanswerable
  apply List.filter_congr
  intro q hq
  exact decide_eq_decide.2 (by rw [hasField_resolved_iff h hq, not_or])

/-- The report of the second pass is right exactly when no open question gets a value behind it. -/
theorem map_openQuestions_eq_iff (h : settle stdev defaults supplied questions = .ok resolved) :
    (openQuestions stdev defaults supplied questions).map RequiredQuestion.missing
        = (unanswerable stdev defaults questions supplied resolved).map RequiredQuestion.missing ↔
      ∀ q ∈ openQuestions stdev defaults supplied questions, ¬ hasField resolved q.target := by
  rw [unanswerable_eq h, ← filter_openQuestions h]
  constructor
  · intro hMap q hq
    have hLength := congrArg List.length hMap
    rw [List.length_map, List.length_map] at hLength
    have hAll := List.length_filter_eq_length_iff.1 hLength.symm
    exact of_decide_eq_true (hAll q hq)
  · intro hAll
    rw [List.filter_eq_self.2 (fun q hq => decide_eq_true (hAll q hq))]

/-- An open question gets a value behind it exactly from a later question for its field. -/
theorem open_stays_iff (h : settle stdev defaults supplied questions = .ok resolved) :
    (∀ q ∈ openQuestions stdev defaults supplied questions, ¬ hasField resolved q.target) ↔
      ∀ before q after, questions = before ++ q :: after → ¬ hasField supplied q.target →
        (¬ ∃ value, RuleApplies stdev defaults resolved q.target value) →
        (∀ p ∈ before ++ [q], p.target = q.target → p.default = none) →
          ∀ p ∈ after, p.target = q.target → p.default = none := by
  constructor
  · intro hStays before q after hEq hField hRule hBefore p hp hTarget
    have hOpen := (mem_openQuestions h).2 ⟨before, after, hEq, hField, hRule, hBefore⟩
    by_contra hDefault
    have hMem : p ∈ questions := by
      rw [hEq]
      exact List.mem_append_right _ (List.mem_cons_of_mem _ hp)
    have hThere := settle_answers h hMem (.inr (Option.isSome_iff_ne_none.2 hDefault))
    exact hStays q hOpen (hTarget ▸ hThere)
  · intro hOrdered q hq hThere
    obtain ⟨before, after, hEq, hField, hRule, hBefore⟩ := (mem_openQuestions h).1 hq
    obtain ⟨v, hv⟩ := hasField_iff.1 hThere
    rcases settle_added h hv with hIn | ⟨-, hApplies | ⟨p, hp, hTarget, hDefault⟩⟩
    · exact hField (hasField_iff.2 ⟨v, hIn⟩)
    · exact hRule ⟨v, hApplies⟩
    · have hNone : p.default = none := by
        rw [hEq, ← List.singleton_append, ← List.append_assoc] at hp
        rcases List.mem_append.1 hp with hp | hp
        · exact hBefore p hp hTarget
        · exact hOrdered before q after hEq hField hRule hBefore p hp hTarget
      rw [hNone] at hDefault
      cases hDefault

open Classical in
/-- The report of the first pass is right exactly when the pass sees every question that has no
answer, and no question of it has one. -/
theorem map_missing_eq_iff (hNamed : ∀ q ∈ questions, q.missing.field = q.target)
    {q₀ : RequiredQuestion}
    (hq₀ : q₀ ∈ questions) (hMissing : isMissing supplied defaults q₀ = true) :
    (questions.filter (isMissing supplied defaults)).map RequiredQuestion.missing
        = (unanswerable stdev defaults questions supplied resolved).map RequiredQuestion.missing ↔
      ∀ q ∈ questions, isMissing supplied defaults q = true →
        (∀ p ∈ questions, p.target = q.target → p.default = none) ∧
          ∀ p ∈ questions, isMissing supplied defaults p = true ∨ hasField supplied p.target ∨
            CanFill stdev defaults questions resolved p.target := by
  constructor
  · intro hMap q hq hqMissing
    constructor
    -- A missing question that another one could fill would be answerable, and so be in one list
    -- only.
    · intro p hp hTarget
      by_contra hDefault
      have hMem : q.missing ∈ (questions.filter (isMissing supplied defaults)).map
        RequiredQuestion.missing :=
        List.mem_map_of_mem (List.mem_filter.2 ⟨hq, hqMissing⟩)
      rw [hMap] at hMem
      obtain ⟨r, hr, hSame⟩ := List.mem_map.1 hMem
      obtain ⟨hr, -, hNot⟩ := mem_unanswerable.1 hr
      have hField : r.target = q.target := by rw [← hNamed r hr, ← hNamed q hq, hSame]
      exact hNot (.inr ⟨p, hp, hTarget.trans hField.symm, Option.isSome_iff_ne_none.2 hDefault⟩)
    -- Conversely an unanswerable question would have to be missing too.
    · intro p hp
      by_cases hAnswered : hasField supplied p.target ∨ CanFill stdev defaults questions resolved
        p.target
      · exact .inr hAnswered
      · rw [not_or] at hAnswered
        have hMem : p.missing ∈ (unanswerable stdev defaults questions supplied resolved).map
            RequiredQuestion.missing :=
          List.mem_map_of_mem (mem_unanswerable.2 ⟨hp, hAnswered.1, hAnswered.2⟩)
        rw [← hMap] at hMem
        obtain ⟨r, hr, hSame⟩ := List.mem_map.1 hMem
        obtain ⟨hr, hrMissing⟩ := List.mem_filter.1 hr
        have hField : r.target = p.target := by rw [← hNamed r hr, ← hNamed p hp, hSame]
        have hNone : p.default = none := by
          by_contra hDefault
          exact hAnswered.2 (.inr ⟨p, hp, rfl, Option.isSome_iff_ne_none.2 hDefault⟩)
        exact .inl (isMissing_iff.2 ⟨hAnswered.1, hField ▸ (isMissing_iff.1 hrMissing).2.1, hNone⟩)
  · intro h
    -- Under the two conditions the filters agree question by question.
    have hFilter : questions.filter (isMissing supplied defaults)
        = unanswerable stdev defaults questions supplied resolved := by
      apply List.filter_congr
      intro q hq
      rw [Bool.eq_iff_iff]
      refine Iff.trans ?_ decide_eq_true_iff.symm
      constructor
      · intro hqMissing
        obtain ⟨hField, hRule, -⟩ := isMissing_iff.1 hqMissing
        refine ⟨hField, ?_⟩
        rintro (⟨value, item, hItem, -⟩ | ⟨p, hp, hTarget, hDefault⟩)
        · rw [hRule] at hItem
          cases hItem
        · rw [(h q hq hqMissing).1 p hp hTarget] at hDefault
          cases hDefault
      · rintro ⟨hField, hNot⟩
        rcases (h q₀ hq₀ hMissing).2 q hq with hm | hf | hc
        · exact hm
        · exact absurd hf hField
        · exact absurd hc hNot
    rw [hFilter]

/-! ### The outcome -/

/-- A question reports its own target. -/
theorem missing_field_of_readQuestion {question : PyValue} {q : RequiredQuestion}
    (h : readQuestion question = .ok q) : q.missing.field = q.target := by
  unfold readQuestion at h
  split at h
  · split at h
    · cases h
      rfl
    · cases h
  · cases h

/-- All questions of a contract do. -/
theorem WellFormed.named (h : WellFormed guidance defaults questions) :
    ∀ q ∈ questions, q.missing.field = q.target := by
  intro q hq
  obtain ⟨raw, -, hRead⟩ := Except.bind_eq_ok.1 h.questions
  obtain ⟨question, -, hQuestion⟩ := List.Forall₂.exists_right (Except.mapM_eq_ok.1 hRead).flip hq
  exact missing_field_of_readQuestion hQuestion

/-- Assigning a default keeps the targets distinct. -/
theorem keys_assignDefault {field : Text} {item : AllowedDefault}
    (h : (defaults.map Prod.fst).Nodup) :
    ((assignDefault defaults field item).map Prod.fst).Nodup := by
  unfold assignDefault
  split_ifs with hField
  · have hKeys : (defaults.map (fun p => if p.1 = field then (field, item) else p)).map Prod.fst
        = defaults.map Prod.fst := by
      rw [List.map_map]
      refine List.map_congr_left (fun p _ => ?_)
      by_cases hp : p.1 = field
      · simp [hp]
      · simp [hp]
    rw [hKeys]
    exact h
  · rw [List.map_append, List.nodup_append]
    refine ⟨h, List.nodup_singleton _, ?_⟩
    rintro a ha b hb rfl
    rw [List.map_singleton, List.mem_singleton] at hb
    exact hField (by rw [hb] at ha; exact ha)

/-- Reading the defaults keeps their targets distinct. -/
theorem keys_readDefaults {raw : List PyValue} {sofar : List (Text × AllowedDefault)}
    (hSofar : (sofar.map Prod.fst).Nodup) (h : raw.foldlM readDefault sofar = .ok defaults) :
    (defaults.map Prod.fst).Nodup := by
  induction raw generalizing sofar with
  | nil =>
      cases h
      exact hSofar
  | cons item raw ih =>
      rw [List.foldlM_cons] at h
      obtain ⟨next, hNext, h⟩ := Except.bind_eq_ok.1 h
      refine ih ?_ h
      unfold readDefault at hNext
      split at hNext
      · split at hNext
        · cases hNext
          exact keys_assignDefault hSofar
        · cases hNext
        · cases hNext
      · cases hNext

/-- The defaults of a contract have distinct targets. -/
theorem WellFormed.keys (h : WellFormed guidance defaults questions) :
    (defaults.map Prod.fst).Nodup := by
  obtain ⟨raw, -, hRead⟩ := Except.bind_eq_ok.1 h.defaults
  exact @keys_readDefaults _ _ [] List.nodup_nil hRead

/-- With distinct keys, a member is what is found under its key. -/
theorem lookup_of_mem {field : Text} {item : AllowedDefault} (hKeys : (defaults.map Prod.fst).Nodup)
    (h : (field, item) ∈ defaults) : defaults.lookup field = some item := by
  induction defaults with
  | nil => cases h
  | cons p defaults ih =>
      rw [List.map_cons, List.nodup_cons] at hKeys
      rw [List.lookup_cons]
      rcases List.mem_cons.1 h with rfl | h
      · simp
      · have hNe : field ≠ p.1 := by
          rintro rfl
          exact hKeys.1 (List.mem_map.2 ⟨_, h, rfl⟩)
        rw [beq_eq_false_iff_ne.2 hNe]
        exact ih hKeys.2 h

/-- The resolution, pass by pass. -/
theorem effectiveValues_eq (hWell : WellFormed guidance defaults questions)
    (hSettle : settle stdev defaults supplied questions = .ok resolved) :
    effectiveValues stdev guidance supplied =
      if questions.filter (isMissing supplied defaults) ≠ [] then .error (.ambiguousInput
        ((questions.filter (isMissing supplied defaults)).map RequiredQuestion.missing))
      else if openQuestions stdev defaults supplied questions ≠ [] then .error (.ambiguousInput
        ((openQuestions stdev defaults supplied questions).map RequiredQuestion.missing))
      else defaults.foldlM (fillDefault stdev) resolved := by
  obtain ⟨rawDefaults, hRawDefaults, hDefaults⟩ := Except.bind_eq_ok.1 hWell.defaults
  obtain ⟨rawQuestions, hRawQuestions, hQuestions⟩ := Except.bind_eq_ok.1 hWell.questions
  have hFold := foldlM_answerQuestion hSettle []
  rw [List.nil_append] at hFold
  unfold effectiveValues
  rw [hRawDefaults, hRawQuestions]
  simp only [bind, Except.bind, hDefaults, hQuestions, hFold, Except.raiseIf]
  by_cases hMissing : questions.filter (isMissing supplied defaults) ≠ []
  · rw [if_pos hMissing, if_pos hMissing]
  · rw [if_neg hMissing, if_neg hMissing]
    by_cases hOpen : openQuestions stdev defaults supplied questions = []
    · simp [hOpen]
    · simp [hOpen]

/-- A resolution that gets past the questions has done what it should. -/
theorem returned_of_fill (hWell : WellFormed guidance defaults questions)
    (hSettle : settle stdev defaults supplied questions = .ok resolved)
    (hPresent : ∀ q ∈ questions, hasField resolved q.target) {values : Fields}
    (hFill : defaults.foldlM (fillDefault stdev) resolved = .ok values) :
    Returned stdev defaults questions supplied values := by
  obtain ⟨hExtends, hAdded⟩ := foldlM_fillDefault hFill
  refine ⟨(settle_extends hSettle).trans hExtends, fun q hq => hExtends.hasField (hPresent q hq),
    ?_⟩
  intro field v hv hNew
  rcases hAdded field v hv with hThere | ⟨-, item, hMem, hValue, hApplies⟩
  · rcases settle_added hSettle hThere with hOld | ⟨-, hSource⟩
    · exact absurd (hasField_iff.2 ⟨v, hOld⟩) hNew
    · exact hSource.imp (fun hRule => hRule.mono hExtends) id
  · exact .inl ⟨item, lookup_of_mem hWell.keys hMem, hValue, hApplies⟩

/-- Default resolution returns as it should, or reports exactly the questions that have no answer,
if and only if the pass that reports has seen them all and none that has one. -/
theorem complete_iff_foreseen (hWell : WellFormed guidance defaults questions)
    (hAsk : Askable stdev defaults questions supplied resolved) :
    Complete stdev guidance defaults questions supplied resolved ↔
      Foreseen stdev defaults questions supplied resolved := by
  have hEq := effectiveValues_eq hWell hAsk.settle
  -- The function refuses in two places: first for the questions that are missing up front, and
  -- behind the loop for those that it left open.
  by_cases hMissing : ∃ q ∈ questions, isMissing supplied defaults q = true
  · obtain ⟨q₀, hq₀, hq₀Missing⟩ := hMissing
    have hFilter : questions.filter (isMissing supplied defaults) ≠ [] :=
      List.ne_nil_of_mem (List.mem_filter.2 ⟨hq₀, hq₀Missing⟩)
    rw [if_pos hFilter] at hEq
    have hComplete : Complete stdev guidance defaults questions supplied resolved ↔
        (questions.filter (isMissing supplied defaults)).map RequiredQuestion.missing
          = (unanswerable stdev defaults questions supplied resolved).map
            RequiredQuestion.missing := by
      unfold Complete
      rw [hEq]
      simp
    rw [hComplete, map_missing_eq_iff hWell.named hq₀ hq₀Missing]
    refine ⟨fun h => ⟨h, fun hNone => ?_⟩, fun h => h.alone⟩
    rw [hNone q₀ hq₀] at hq₀Missing
    cases hq₀Missing
  · have hNone : ∀ q ∈ questions, isMissing supplied defaults q = false := by
      intro q hq
      by_contra h
      exact hMissing ⟨q, hq, Bool.eq_true_of_not_eq_false h⟩
    have hFilter : ¬ questions.filter (isMissing supplied defaults) ≠ [] := by
      rw [not_not, List.filter_eq_nil_iff]
      exact fun q hq => by rw [hNone q hq]; exact Bool.false_ne_true
    rw [if_neg hFilter] at hEq
    -- Without a missing question only the order of the questions can go wrong.
    have hForeseen : Foreseen stdev defaults questions supplied resolved ↔
        ∀ q ∈ openQuestions stdev defaults supplied questions, ¬ hasField resolved q.target := by
      rw [open_stays_iff hAsk.settle]
      refine ⟨fun h => h.ordered hNone, fun h => ⟨fun q hq hqMissing => ?_, fun _ => h⟩⟩
      rw [hNone q hq] at hqMissing
      cases hqMissing
    rw [hForeseen]
    by_cases hOpen : openQuestions stdev defaults supplied questions = []
    · -- every question has been answered, and the remaining defaults are filled in
      rw [if_neg (not_not.2 hOpen)] at hEq
      have hPresent : ∀ q ∈ questions, hasField resolved q.target := by
        have hNil := filter_openQuestions hAsk.settle
        rw [hOpen, List.filter_nil, eq_comm, List.filter_eq_nil_iff] at hNil
        intro q hq
        simpa using hNil q hq
      obtain ⟨values, hFill⟩ := hAsk.fill hPresent
      refine iff_of_true (.inl ⟨values, hEq.trans hFill, returned_of_fill hWell hAsk.settle hPresent
        hFill⟩) ?_
      rw [hOpen]
      exact fun q hq => absurd hq List.not_mem_nil
    · rw [if_pos hOpen] at hEq
      rw [← map_openQuestions_eq_iff hAsk.settle]
      unfold Complete
      rw [hEq]
      simp

end Resolution

/-! ### A question that is not reported -/

/-- What is read of a question without a default. -/
def bareQuestion (name : String) : RequiredQuestion where
  target := py name
  default := none
  missing := { id := text name, field := py name, ask := text "?", why := text "-" }

/-- An allowed default whose condition `1 == 2` never holds. -/
def neverApplies : AllowedDefault where
  value := .int 1
  onlyIf := some (comparison (literal (.int 1)) "eq" (literal (.int 2)))

/-- Two questions, the second with an allowed default that does not apply. -/
def twoQuestions : List (Option Text × PyValue) :=
  [(some (py "allowed_defaults"), .seq .list [object [("field", text "b"), ("value", .int 1),
      ("only_if", comparison (literal (.int 1)) "eq" (literal (.int 2)))]]),
    (some (py "required_questions"), .seq .list [question "a" "?" "-", question "b" "?" "-"])]

/-- The sample with two questions is well formed. -/
theorem wellFormed_twoQuestions : WellFormed twoQuestions [(py "b", neverApplies)]
    [bareQuestion "a", bareQuestion "b"] where
  defaults := rfl
  questions := rfl

/-- Nothing of it can be settled without an answer. -/
theorem askable_twoQuestions : Askable stdev [(py "b", neverApplies)] [bareQuestion "a", bareQuestion "b"]
    [] [] where
  settle := rfl
  fill := by
    intro h
    exact absurd (h _ List.mem_cons_self) List.not_mem_nil

/-- Neither question has an answer, and only the first one is reported. -/
theorem second_question_not_reported :
    WellFormed twoQuestions [(py "b", neverApplies)] [bareQuestion "a", bareQuestion "b"] ∧
      Askable (fun _ => .ok Binary64.zero) [(py "b", neverApplies)] [bareQuestion "a",
        bareQuestion "b"] [] [] ∧
        ¬ Complete (fun _ => .ok Binary64.zero) twoQuestions [(py "b", neverApplies)]
          [bareQuestion "a", bareQuestion "b"] [] [] := by
  refine ⟨wellFormed_twoQuestions, askable_twoQuestions, ?_⟩
  have hRun : effectiveValues (fun _ => .ok Binary64.zero) twoQuestions []
      = .error (.ambiguousInput [(bareQuestion "a").missing]) := rfl
  have hSecond : bareQuestion "b" ∈ unanswerable (fun _ => .ok Binary64.zero)
    [(py "b", neverApplies)]
      [bareQuestion "a", bareQuestion "b"] [] [] := by
    refine mem_unanswerable.2 ⟨List.mem_cons_of_mem _ List.mem_cons_self, List.not_mem_nil, ?_⟩
    rintro (⟨value, item, hItem, -, hApplies⟩ | ⟨q, hq, -, hDefault⟩)
    · cases hItem
      have hNever : applies (fun _ => .ok Binary64.zero) [] neverApplies = .ok false := rfl
      rw [hNever] at hApplies
      cases hApplies
    · rcases List.mem_pair.1 hq with rfl | rfl <;> cases hDefault
  rintro (⟨values, hOk, -⟩ | hError)
  · rw [hRun] at hOk
    cases hOk
  · rw [hRun] at hError
    have hReport := Raised.ambiguousInput.inj (Except.error.inj hError)
    have hMem := List.mem_map_of_mem (f := RequiredQuestion.missing) hSecond
    rw [← hReport, List.mem_singleton] at hMem
    have hField := congrArg MissingQuestion.field hMem
    revert hField
    decide

/-- What is read of a question with the default 5. -/
def answeredQuestion : RequiredQuestion := { bareQuestion "a" with default := some (.int 5) }

/-- An allowed default that applies when `a` is 5. -/
def appliesAtFive : AllowedDefault where
  value := .int 7
  onlyIf := some (comparison (field "a") "eq" (literal (.int 5)))

/-- Two questions, the first with a default, on which the allowed default of the second depends. -/
def dependentQuestions : List (Option Text × PyValue) :=
  [(some (py "allowed_defaults"), .seq .list [object [("field", text "b"), ("value", .int 7),
      ("only_if", comparison (field "a") "eq" (literal (.int 5)))]]),
    (some (py "required_questions"), .seq .list [object [("id", text "a"), ("ask", text "?"),
      ("why", text "-"), ("resolves_to", text "a"), ("default", .int 5)], question "b" "?" "-"])]

/-- Both questions are answered, the second by the allowed default. -/
theorem complete_iff_foreseen_dependent : Complete (fun _ => .ok Binary64.zero) dependentQuestions
    [(py "b", appliesAtFive)] [answeredQuestion, bareQuestion "b"] [] [(py "a", .int 5),
      (py "b", .int 7)] := by
  have hWell : WellFormed dependentQuestions [(py "b", appliesAtFive)] [answeredQuestion,
    bareQuestion "b"] :=
    ⟨rfl, rfl⟩
  have hAsk : Askable (fun _ => .ok Binary64.zero) [(py "b", appliesAtFive)] [answeredQuestion, bareQuestion "b"] []
      [(py "a", .int 5), (py "b", .int 7)] :=
    ⟨rfl, fun _ => ⟨_, rfl⟩⟩
  refine (complete_iff_foreseen hWell hAsk).2 ⟨fun q hq hMissing => ?_, fun _ before q after hEq _ _
    hNone => ?_⟩
  · rcases List.mem_pair.1 hq with rfl | rfl <;> cases hMissing
  · cases before with
    | nil =>
        -- the first question has a default of its own
        obtain ⟨rfl, -⟩ := List.cons.inj hEq
        have hDefault := hNone answeredQuestion List.mem_cons_self rfl
        cases hDefault
    | cons p before =>
        have hLength := congrArg List.length hEq
        simp only [List.length_append, List.length_cons, List.length_nil] at hLength
        have hAfter : after = [] := List.length_eq_zero_iff.1 (by omega)
        rw [hAfter]
        exact List.forall_mem_nil _

end Validation
