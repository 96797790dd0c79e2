import DefinedQuant.Shared.ContractRules

/-!
# Rules about a series

What the contracts of the components share: the rules about a series of doubles, about the
timestamps that go with it and about a declared frequency, with the messages of each contract, and
what they make of any values that hold these fields. Every rule has an outcome, whatever the doubles
are. Where none of the rules about timestamps fires, the timestamps are those of the series, in
order.
-/

namespace SeriesRules

open Validation

/-- `Frequency` -/
inductive Frequency where
  | intraday
  | daily
  | weekly
  | monthly
  | quarterly
  | annual
  | irregular
  deriving DecidableEq, Repr

def Frequency.text : Frequency → Text
  | .intraday => py "intraday"
  | .daily => py "daily"
  | .weekly => py "weekly"
  | .monthly => py "monthly"
  | .quarterly => py "quarterly"
  | .annual => py "annual"
  | .irregular => py "irregular"

/-- A value, or `None`. -/
def orNone {α : Type} (dump : α → PyValue) : Option α → PyValue
  | none => .none
  | some a => dump a

/-! ## The rules -/

/-- `series` has fewer than two items. -/
def tooFew (id series message : String) : Rule where
  id := id
  severity := .blocking
  condition := comparison (measureOf series "count") "lt" (literal (.int 2))
  message := message

/-- A number of `series`, or the number in that field, is not finite. -/
def nonFinite (id series message : String) : Rule where
  id := id
  severity := .blocking
  condition := comparison (measureOf series "all_finite") "eq" (literal (.bool false))
  message := message

/-- The number in the field is finite and not positive. -/
def nonPositive (id number message : String) : Rule where
  id := id
  severity := .blocking
  condition := allOf [
    comparison (measureOf number "all_finite") "eq" (literal (.bool true)),
    comparison (field number) "le" (literal (.int 0))]
  message := message

/-- `{"left": {"field": "timestamps"}, "op": "ne", "right": {"value": null}}` -/
def timestampsGiven : PyValue := comparison (field "timestamps") "ne" (literal .none)

def timestampLengthMismatch (series message : String) : Rule where
  id := "timestamp_length_mismatch"
  severity := .blocking
  condition := allOf [timestampsGiven,
    comparison (measureOf "timestamps" "count") "ne" (measureOf series "count")]
  message := message

def duplicateTimestamps : Rule where
  id := "duplicate_timestamps"
  severity := .blocking
  condition := allOf [timestampsGiven,
    comparison (measureOf "timestamps" "has_duplicates") "eq" (literal (.bool true))]
  message := "duplicate_timestamps: Duplicate timestamps are not accepted."

def nonIncreasingTimestamps (message : String) : Rule where
  id := "non_increasing_timestamps"
  severity := .blocking
  condition := allOf [timestampsGiven,
    comparison (measureOf "timestamps" "has_duplicates") "eq" (literal (.bool false)),
    comparison (measureOf "timestamps" "is_strictly_increasing") "eq" (literal (.bool false))]
  message := message

def frequencyWithoutTimestamps (message : String) : Rule where
  id := "frequency_without_timestamps"
  severity := .blocking
  condition := allOf [
    comparison (field "declared_frequency") "ne" (literal .none),
    comparison (field "timestamps") "eq" (literal .none)]
  message := message

def orderingUnverified : Rule where
  id := "ordering_unverified"
  severity := .warning
  condition := comparison (field "timestamps") "eq" (literal .none)
  message :=
    "ordering_unverified: No timestamps were supplied, so chronology could not be verified."

/-- The rules about the timestamps of `series`, which stand together in a contract. -/
def timestampRules (series mismatch nonIncreasing withoutTimestamps : String) : List Rule :=
  [timestampLengthMismatch series mismatch, duplicateTimestamps,
    nonIncreasingTimestamps nonIncreasing, frequencyWithoutTimestamps withoutTimestamps,
    orderingUnverified]

/-! ## The outcomes -/

/-- Whether the timestamps repeat an instant, and whether they are strictly increasing. -/
def repeats (ts : List ℤ) : Bool := hasDuplicatesFrom [] (ts.map PyValue.instant)

def increases (ts : List ℤ) : Bool := (ts.zip ts.tail).all (fun p => decide (p.1 < p.2))

/-- A number is at most zero; a NaN is not. -/
def atMostZero (x : Binary64) : Bool := (PyValue.order .le (.float x) (.int 0)).getD false

/-- What the rules about timestamps say of a series of `count` items. -/
def timestampOutcomes (count : ℕ) (timestamps : Option (List ℤ)) (frequency : Option Frequency) :
    List Bool :=
  [timestamps.any (fun ts => decide (ts.length ≠ count)),
    timestamps.any (fun ts => repeats ts == true),
    timestamps.any (fun ts => repeats ts == false && !increases ts),
    frequency.isSome && timestamps.isNone,
    timestamps.isNone]

section

variable {stdev : List Binary64 → Except Text Binary64} {values : Fields}

/-- The measure registered as `count`. -/
theorem measures_count : (measures stdev).lookup (py "count") = some measureCount := by
  simp [measures, List.lookup_cons, py_beq]

/-- The measure registered as `has_duplicates`. -/
theorem measures_has_duplicates :
    (measures stdev).lookup (py "has_duplicates") = some measureHasDuplicates := by
  simp [measures, List.lookup_cons, py_beq]

/-- The measure registered as `is_strictly_increasing`. -/
theorem measures_is_strictly_increasing :
    (measures stdev).lookup (py "is_strictly_increasing") = some measureIsStrictlyIncreasing := by
  simp [measures, List.lookup_cons, py_beq]

/-- The finiteness of a list of doubles. -/
theorem measureAllFinite_floats (kind : Json.SeqKind) (xs : List Binary64) :
    measureAllFinite (.seq kind (xs.map PyValue.float)) = .ok (.bool (xs.all Binary64.isFinite)) :=
      by
  have hReal : (xs.map PyValue.float).mapM (real (py "all_finite")) = .ok xs := by
    rw [Except.mapM_eq_ok, List.forall₂_map_left_iff]
    exact List.forall₂_same.2 (fun x _ => rfl)
  simp [measureAllFinite, hReal, bind, Except.bind, pure, Except.pure]

/-- A single double is measured as a list of one. -/
theorem measureAllFinite_float (x : Binary64) :
    measureAllFinite (.float x) = .ok (.bool x.isFinite) := by
  simp [measureAllFinite, real, bind, Except.bind, pure, Except.pure]

/-- Instants always compare. -/
theorem strictlyIncreasing_instants (pairs : List (ℤ × ℤ)) :
    strictlyIncreasing (pairs.map (fun p => (.instant p.1, .instant p.2))) =
      some (pairs.all (fun p => decide (p.1 < p.2))) := by
  induction pairs with
  | nil => rfl
  | cons p pairs ih =>
      by_cases h : p.1 < p.2
      · simp [strictlyIncreasing, PyValue.OrderOp.holds, h, ih]
      · simp [strictlyIncreasing, PyValue.OrderOp.holds, h]

/-- The measure of the order on a list of instants. -/
theorem measureIsStrictlyIncreasing_instants (kind : Json.SeqKind) (ts : List ℤ) :
    measureIsStrictlyIncreasing (.seq kind (ts.map PyValue.instant)) = .ok (.bool (increases ts)) :=
      by
  have hPairs : (ts.map PyValue.instant).zip (ts.map PyValue.instant).tail =
      (ts.zip ts.tail).map (fun p => (.instant p.1, .instant p.2)) := by
    rw [← List.map_tail, List.zip_map]
    rfl
  simp [measureIsStrictlyIncreasing, Validation.sequence, hPairs, strictlyIncreasing_instants,
    orRefuse, increases, bind, Except.bind, pure, Except.pure]

/-- A double and an integer are always comparable. -/
theorem compare_le_zero (x : Binary64) (l r : PyValue) :
    Validation.compare (py "le") (.float x) (.int 0) l r = .ok (atMostZero x) := by
  have hOrder : PyValue.order .le (.float x) (.int 0) = some (atMostZero x) := by
    unfold atMostZero
    cases x <;> rw [PyValue.order] <;> first | rfl | nofun
  simp [Validation.compare, orderOperators, List.lookup_cons, py_beq, orRefuse, hOrder]

/-- Comparing a boolean with `false`. -/
theorem compare_eq_false (b : Bool) (l r : PyValue) :
    Validation.compare (py "eq") (.bool b) (.bool false) l r = .ok (!b) := by
  cases b <;> simp [compare_eq]

/-- Comparing a boolean with `true`. -/
theorem compare_eq_true (b : Bool) (l r : PyValue) :
    Validation.compare (py "eq") (.bool b) (.bool true) l r = .ok b := by
  cases b <;> simp [compare_eq]

/-- A conjunction goes on behind a condition that holds. -/
theorem allM_cons {f : PyValue → Except Validation.Raised Bool} {x : PyValue} {xs : List PyValue}
    {a b : Bool}
    (hx : f x = .ok a) (hxs : a = true → xs.allM f = .ok b) : (x :: xs).allM f = .ok (a && b) := by
  cases a with
  | false => simp [List.allM, hx, bind, Except.bind, pure, Except.pure]
  | true => simp [List.allM, hx, hxs rfl, bind, Except.bind]

/-- A rule has an outcome on some values. -/
def Evaluates (stdev : List Binary64 → Except Text Binary64) (values : Fields) (rule : Rule)
    (fires : Bool) : Prop :=
  evaluateExpression stdev values maxExpressionDepth rule.condition = .ok fires

/-- The values hold a series of doubles. -/
def HoldsSeries (values : Fields) (series : String) (xs : List Binary64) : Prop :=
  values.lookup (py series) = some (.seq .tuple (xs.map PyValue.float))

/-- The values hold a double. -/
def HoldsNumber (values : Fields) (number : String) (x : Binary64) : Prop :=
  values.lookup (py number) = some (.float x)

/-- The values hold timestamps, or `None`. -/
def HoldsTimestamps (values : Fields) (timestamps : Option (List ℤ)) : Prop :=
  values.lookup (py "timestamps") = some (orNone (fun ts => .seq .tuple (ts.map PyValue.instant))
    timestamps)

/-- The values hold a declared frequency, or `None`. -/
def HoldsFrequency (values : Fields) (frequency : Option Frequency) : Prop :=
  values.lookup (py "declared_frequency") = some (orNone (fun f => .str (Frequency.text f))
    frequency)

section

variable {series : String} {xs : List Binary64}

/-- The operand that counts a series. -/
theorem resolve_count (h : HoldsSeries values series xs) :
    resolveOperand stdev values (measureOf series "count") = .ok (.int xs.length) := by
  rw [resolveOperand_measureOf h measures_count]
  simp [measureCount]

/-- The operand that asks whether a series is finite. -/
theorem resolve_all_finite (h : HoldsSeries values series xs) :
    resolveOperand stdev values (measureOf series "all_finite") =
      .ok (.bool (xs.all Binary64.isFinite)) := by
  rw [resolveOperand_measureOf h measures_all_finite, measureAllFinite_floats]

/-- A rule on fewer than two observations. -/
theorem evaluates_tooFew (h : HoldsSeries values series xs) (id message : String) :
    Evaluates stdev values (tooFew id series message) (decide ((xs.length : ℤ) < 2)) :=
  (evaluateExpression_comparison 2 (resolve_count h) (resolveOperand_literal _)).trans
    (compare_lt _ _ _ _)

/-- A rule on a series with a value that is not finite. -/
theorem evaluates_nonFinite (h : HoldsSeries values series xs) (id message : String) :
    Evaluates stdev values (nonFinite id series message) (!xs.all Binary64.isFinite) :=
  (evaluateExpression_comparison 2 (resolve_all_finite h) (resolveOperand_literal _)).trans
    (compare_eq_false _ _ _)

end

section

variable {number : String} {x : Binary64}

/-- The operand that asks whether a number is finite. -/
theorem resolve_number_all_finite (h : HoldsNumber values number x) :
    resolveOperand stdev values (measureOf number "all_finite") = .ok (.bool x.isFinite) := by
  rw [resolveOperand_measureOf h measures_all_finite, measureAllFinite_float]

/-- A rule on a number that is not finite. -/
theorem evaluates_nonFinite_number (h : HoldsNumber values number x) (id message : String) :
    Evaluates stdev values (nonFinite id number message) (!x.isFinite) :=
  (evaluateExpression_comparison 2 (resolve_number_all_finite h) (resolveOperand_literal _)).trans
    (compare_eq_false _ _ _)

/-- A rule on a finite number that is not positive. -/
theorem evaluates_nonPositive (h : HoldsNumber values number x) (id message : String) :
    Evaluates stdev values (nonPositive id number message) (x.isFinite && atMostZero x) := by
  refine (evaluateExpression_allOf 2 _ _).trans (allM_pair ?finite (fun _ => ?positive))
  case finite =>
    exact (evaluateExpression_comparison 1 (resolve_number_all_finite h)
      (resolveOperand_literal _)).trans
      (compare_eq_true _ _ _)
  case positive =>
    exact (evaluateExpression_comparison 1 (resolveOperand_field h)
      (resolveOperand_literal _)).trans
      (compare_le_zero _ _ _)

end

variable {timestamps : Option (List ℤ)} {frequency : Option Frequency}

/-- The condition that timestamps are given. -/
theorem evaluates_timestampsGiven (h : HoldsTimestamps values timestamps) :
    evaluateExpression stdev values 2 timestampsGiven = .ok timestamps.isSome := by
  refine (evaluateExpression_comparison 1 (resolveOperand_field h) (resolveOperand_literal _)).trans
    ?_
  cases timestamps <;> simp [compare_ne, orNone]

/-- A conjunction behind the condition that timestamps are given asks about them. -/
theorem evaluates_given {rest : List PyValue}
    {fires : List ℤ → Bool} (h : HoldsTimestamps values timestamps)
    (hRest : ∀ ts, timestamps = some ts → rest.allM (evaluateExpression stdev values 2) =
      .ok (fires ts)) :
    evaluateExpression stdev values maxExpressionDepth (allOf (timestampsGiven :: rest)) =
      .ok (timestamps.any fires) := by
  refine (evaluateExpression_allOf 2 _ _).trans ?_
  cases timestamps with
  | none => exact allM_cons (b := false) (evaluates_timestampsGiven h) nofun
  | some ts => exact allM_cons (evaluates_timestampsGiven h) (fun _ => hRest ts rfl)

/-- A measure of the timestamps that are given. -/
theorem resolve_timestamps {ts : List ℤ} (h : HoldsTimestamps values (some ts)) {measure : String}
    {apply : PyValue → Except Validation.Raised PyValue}
    (hMeasure : (measures stdev).lookup (py measure) = some apply) :
    resolveOperand stdev values (measureOf "timestamps" measure) =
      apply (.seq .tuple (ts.map PyValue.instant)) :=
  resolveOperand_measureOf h hMeasure

/-- The rule on the number of timestamps holds when there are timestamps and their number differs. -/
theorem evaluates_timestampLengthMismatch {series : String} {xs : List Binary64}
    (hSeries : HoldsSeries values series xs)
    (h : HoldsTimestamps values timestamps) (message : String) :
    Evaluates stdev values (timestampLengthMismatch series message)
      (timestamps.any (fun ts => decide (ts.length ≠ xs.length))) := by
  apply evaluates_given h
  rintro ts rfl
  have hCount : resolveOperand stdev values (measureOf "timestamps" "count") =
    .ok (.int ts.length) := by
    rw [resolve_timestamps h measures_count]
    simp [measureCount]
  refine (allM_single _ _).trans
    ((evaluateExpression_comparison 1 hCount (resolve_count hSeries)).trans ?_)
  simp [compare_ne]

/-- The outcome of the comparison on repeated timestamps. -/
theorem evaluates_repeats {ts : List ℤ} (h : HoldsTimestamps values (some ts)) (b : Bool) :
    evaluateExpression stdev values 2
      (comparison (measureOf "timestamps" "has_duplicates") "eq" (literal (.bool b))) =
        .ok (repeats ts == b) := by
  have hMeasure : resolveOperand stdev values (measureOf "timestamps" "has_duplicates") =
    .ok (.bool (repeats ts)) :=
    resolve_timestamps h measures_has_duplicates
  refine (evaluateExpression_comparison 1 hMeasure (resolveOperand_literal _)).trans ?_
  rw [compare_eq, PyValue.equal_bool]

/-- The rule on duplicate timestamps. -/
theorem evaluates_duplicateTimestamps (h : HoldsTimestamps values timestamps) :
    Evaluates stdev values duplicateTimestamps (timestamps.any (fun ts => repeats ts == true)) := by
  apply evaluates_given h
  rintro ts rfl
  exact (allM_single _ _).trans (evaluates_repeats h true)

/-- The rule on the order of the timestamps asks for no duplicates first. -/
theorem evaluates_nonIncreasingTimestamps (h : HoldsTimestamps values timestamps)
    (message : String) :
    Evaluates stdev values (nonIncreasingTimestamps message)
      (timestamps.any (fun ts => repeats ts == false && !increases ts)) := by
  apply evaluates_given h
  rintro ts rfl
  refine allM_pair (evaluates_repeats h false) (fun _ => ?_)
  have hMeasure : resolveOperand stdev values (measureOf "timestamps" "is_strictly_increasing") =
      .ok (.bool (increases ts)) :=
    (resolve_timestamps h measures_is_strictly_increasing).trans
      (measureIsStrictlyIncreasing_instants .tuple ts)
  exact (evaluateExpression_comparison 1 hMeasure (resolveOperand_literal _)).trans
    (compare_eq_false _ _ _)

/-- Comparing the timestamps with `None`. -/
theorem compare_timestamps_none (l r : PyValue) :
    Validation.compare (py "eq") (orNone (fun ts => .seq .tuple (ts.map PyValue.instant))
      timestamps) .none l r =
      .ok timestamps.isNone := by
  cases timestamps <;> simp [compare_eq, orNone]

/-- The rule on a frequency that is declared without timestamps. -/
theorem evaluates_frequencyWithoutTimestamps (hTimes : HoldsTimestamps values timestamps)
    (h : HoldsFrequency values frequency) (message : String) :
    Evaluates stdev values (frequencyWithoutTimestamps message)
      (frequency.isSome && timestamps.isNone) := by
  refine (evaluateExpression_allOf 2 _ _).trans (allM_pair ?given (fun _ => ?missing))
  case given =>
    refine (evaluateExpression_comparison 1 (resolveOperand_field h)
      (resolveOperand_literal _)).trans ?_
    cases frequency <;> simp [compare_ne, orNone]
  case missing =>
    exact (evaluateExpression_comparison 1 (resolveOperand_field hTimes)
      (resolveOperand_literal _)).trans
      (compare_timestamps_none _ _)

/-- The warning that the order cannot be verified. -/
theorem evaluates_orderingUnverified (h : HoldsTimestamps values timestamps) :
    Evaluates stdev values orderingUnverified timestamps.isNone :=
  (evaluateExpression_comparison 2 (resolveOperand_field h) (resolveOperand_literal _)).trans
    (compare_timestamps_none _ _)

/-- Every rule about timestamps has an outcome. -/
theorem evaluates_timestampRules {series : String} {xs : List Binary64}
    (hSeries : HoldsSeries values series xs)
    (hTimes : HoldsTimestamps values timestamps) (hFrequency : HoldsFrequency values frequency)
    (mismatch nonIncreasing withoutTimestamps : String) :
    List.Forall₂ (Evaluates stdev values) (timestampRules series mismatch nonIncreasing
      withoutTimestamps)
      (timestampOutcomes xs.length timestamps frequency) :=
  .cons (evaluates_timestampLengthMismatch hSeries hTimes _)
    (.cons (evaluates_duplicateTimestamps hTimes)
    (.cons (evaluates_nonIncreasingTimestamps hTimes _)
    (.cons (evaluates_frequencyWithoutTimestamps hTimes hFrequency _)
    (.cons (evaluates_orderingUnverified hTimes) .nil))))

end

/-! ## What the rules leave -/

/-- Of the rules with these outcomes, none that fires is blocking. -/
def NoneBlocks (rules : List Rule) (outcomes : List Bool) : Prop :=
  ∀ p ∈ rules.zip outcomes, p.2 = true → p.1.severity ≠ .blocking

/-- No rule blocks when the first does not and none of the others does. -/
theorem noneBlocks_cons {rule : Rule} {rules : List Rule} {fires : Bool} {outcomes : List Bool} :
    NoneBlocks (rule :: rules) (fires :: outcomes) ↔
      (fires = true → rule.severity ≠ .blocking) ∧ NoneBlocks rules outcomes :=
  List.forall_mem_cons

/-- Groups of rules are asked one after the other. -/
theorem noneBlocks_append {rules rules' : List Rule} {outcomes outcomes' : List Bool}
    (hLength : rules.length = outcomes.length) :
    NoneBlocks (rules ++ rules') (outcomes ++ outcomes') ↔ NoneBlocks rules outcomes ∧
      NoneBlocks rules' outcomes' := by
  rw [NoneBlocks, List.zip_append hLength]
  exact List.forall_mem_append

/-- A double is a positive number. -/
def IsPositive (x : Binary64) : Prop := ∃ q, x.toRat? = some q ∧ 0 < q

/-- A finite double that is not at most zero is positive. -/
theorem isPositive_of_not_fires {x : Binary64} (hFinite : x.isFinite = true)
    (h : atMostZero x = false) :
    IsPositive x := by
  obtain ⟨q, hq⟩ := Binary64.exists_toRat?_of_isFinite hFinite
  refine ⟨q, hq, ?_⟩
  simpa [atMostZero, PyValue.order_float_int .le hq, PyValue.OrderOp.holds] using h

/-- No two neighbours are related exactly where the list is a chain of the negation. -/
theorem any_neighbours_eq_false {α : Type} {R : α → α → Prop} [DecidableRel R] {xs : List α} :
    (xs.zip xs.tail).any (fun p => decide (R p.1 p.2)) = false ↔
      xs.IsChain (fun a b => ¬ R a b) := by
  induction xs with
  | nil => simp
  | cons x xs ih =>
      cases xs with
      | nil => simp
      | cons y xs =>
          rw [List.isChain_cons_cons, ← ih, List.tail_cons, List.zip_cons_cons, List.any_cons,
            Bool.or_eq_false_iff, decide_eq_false_iff_not]
          rfl

/-- A check on all neighbours of a list is a chain. -/
theorem all_neighbours {α : Type} {R : α → α → Prop} [DecidableRel R] {xs : List α} :
    (xs.zip xs.tail).all (fun p => decide (R p.1 p.2)) = true ↔ xs.IsChain R := by
  have hAny := @any_neighbours_eq_false α (fun a b => ¬ R a b) _ xs
  simp only [not_not] at hAny
  rw [← hAny, List.all_eq_true, List.any_eq_false]
  simp

/-- Strictly increasing instants. -/
theorem increases_iff {ts : List ℤ} : increases ts = true ↔ ts.IsChain (· < ·) := all_neighbours

/-- The timestamps are those of a series of `count` items, in order, and a frequency needs them. -/
structure InOrder (count : ℕ) (timestamps : Option (List ℤ)) (frequency : Option Frequency) :
    Prop where
  aligned : ∀ ts, timestamps = some ts → ts.length = count
  increasing : ∀ ts, timestamps = some ts → ts.IsChain (· < ·)
  frequency : timestamps = none → frequency = none

/-- Where no blocking rule about timestamps fires, they are in order. -/
theorem inOrder_of_noneBlocks {series mismatch nonIncreasing withoutTimestamps : String} {count : ℕ}
    {timestamps : Option (List ℤ)} {frequency : Option Frequency}
    (h : NoneBlocks (timestampRules series mismatch nonIncreasing withoutTimestamps)
      (timestampOutcomes count timestamps frequency)) : InOrder count timestamps frequency := by
  simp only [timestampRules, timestampOutcomes, noneBlocks_cons, timestampLengthMismatch,
    duplicateTimestamps, nonIncreasingTimestamps, frequencyWithoutTimestamps, ne_eq,
    not_true_eq_false, imp_false, Bool.not_eq_true] at h
  obtain ⟨hLength, hRepeats, hIncreases, hFrequency, -⟩ := h
  constructor
  · rintro ts rfl
    simpa using hLength
  · rintro ts rfl
    have hNoRepeat : repeats ts = false := by simpa using hRepeats
    have hIncreasing : increases ts = true := by simpa [hNoRepeat] using hIncreases
    exact increases_iff.1 hIncreasing
  · rintro rfl
    simpa using hFrequency

end SeriesRules
