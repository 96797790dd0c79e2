import DefinedQuant.Categories.SeriesRules

/-!
# The rules of the price components

What the contracts of the components on price series share: the rules about prices, and the group of
rules that stands around those of a component's own. Every rule has an outcome, whatever the doubles
are. Where no blocking rule fires, the prices are positive and the timestamps are in order.
-/

namespace PriceSeries

open Validation
open SeriesRules

/-- `PriceKind` -/
inductive PriceKind where
  | adjusted
  | unadjusted
  deriving DecidableEq, Repr

def PriceKind.text : PriceKind → Text
  | .adjusted => py "adjusted"
  | .unadjusted => py "unadjusted"

/-! ## The rules -/

def insufficientPrices (message : String) : Rule := tooFew "insufficient_prices" "prices" message

def emptyPrices : Rule where
  id := "empty_prices"
  severity := .blocking
  condition := comparison (measureOf "prices" "count") "eq" (literal (.int 0))
  message := "empty_prices: At least one price is required."

def nonFinitePrices : Rule :=
  nonFinite "non_finite_prices" "prices" "non_finite_prices: Every price must be finite."

def nonPositivePrices : Rule where
  id := "non_positive_prices"
  severity := .blocking
  condition := allOf [
    comparison (measureOf "prices" "count") "gt" (literal (.int 0)),
    comparison (measureOf "prices" "all_finite") "eq" (literal (.bool true)),
    comparison (measureOf "prices" "min") "le" (literal (.int 0))]
  message := "non_positive_prices: Prices must be strictly positive."

def unadjustedPriceInterpretation (message : String) : Rule where
  id := "unadjusted_price_interpretation"
  severity := .warning
  condition := comparison (field "price_kind") "eq" (literal (text "unadjusted"))
  message := message

/-- The rules of a contract on prices with timestamps: its own rules stand before those about prices
and behind them. -/
def priceConstraints (first own : List Rule) (nonIncreasing withoutTimestamps unadjusted : String) :
    List Rule :=
  first ++ [nonFinitePrices, nonPositivePrices] ++ own ++
    timestampRules "prices"
      "timestamp_length_mismatch: Timestamps and prices must align one-to-one." nonIncreasing
      withoutTimestamps ++ [unadjustedPriceInterpretation unadjusted]

/-! ## The smallest price -/

/-- `a < b` -/
def less (a b : Binary64) : Bool := (PyValue.order .lt (.float a) (.float b)).getD false

/-- `min(best, *xs)` -/
def least : Binary64 → List Binary64 → Binary64
  | best, [] => best
  | best, x :: xs => least (if less x best then x else best) xs

/-- The smallest of some prices is at most zero. -/
def someNotPositive : List Binary64 → Bool
  | [] => false
  | x :: xs => atMostZero (least x xs)

theorem order_floats (a b : Binary64) : PyValue.order .lt (.float a) (.float b) =
    some (less a b) := by
  unfold less
  cases a <;> cases b <;> rfl

theorem extreme_floats (best : Binary64) (xs : List Binary64) :
    Validation.extreme .lt (.float best) (xs.map PyValue.float) = some (.float (least best xs)) :=
      by
  induction xs generalizing best with
  | nil => rfl
  | cons x xs ih =>
      rw [List.map_cons, Validation.extreme, order_floats, Option.bind_eq_bind, Option.bind_some,
        least, ← ih]
      split_ifs <;> rfl

theorem less_of_toRat? {a b : Binary64} {p q : ℚ} (ha : a.toRat? = some p)
    (hb : b.toRat? = some q) :
    less a b = decide (p < q) := by
  have hMagnitude : ∀ {x : Binary64} {r : ℚ}, x.toRat? = some r →
      PyValue.ofBinary64 x = some (PyValue.point r) := by
    intro x r hx
    cases x with
    | nan => cases hx
    | inf negative => cases hx
    | finite negative m => exact congrArg (Option.map PyValue.point) hx
  have hOrder : PyValue.order .lt (.float a) (.float b) =
      some (PyValue.OrderOp.holdsOf .lt (PyValue.ofBinary64 a) (PyValue.ofBinary64 b)) := by
    cases a <;> cases b <;> rfl
  rw [less, hOrder, hMagnitude ha, hMagnitude hb]
  exact PyValue.holds_point .lt p q

/-- The smallest of finite prices is one of them, and none is smaller. -/
theorem least_spec {best : Binary64} {xs : List Binary64}
    (h : ∀ x ∈ best :: xs, ∃ q, x.toRat? = some q) :
    ∃ q, (least best xs).toRat? = some q ∧ least best xs ∈ best :: xs ∧
      ∀ x ∈ best :: xs, ∀ r, x.toRat? = some r → q ≤ r := by
  induction xs generalizing best with
  | nil =>
      obtain ⟨q, hq⟩ := h best List.mem_cons_self
      refine ⟨q, hq, List.mem_cons_self, fun x hx r hr => ?_⟩
      rw [List.mem_singleton.1 hx] at hr
      exact (Option.some.inj (hq.symm.trans hr)).le
  | cons x xs ih =>
      obtain ⟨p, hp⟩ := h best List.mem_cons_self
      obtain ⟨q, hq⟩ := h x (List.mem_cons_of_mem _ List.mem_cons_self)
      have hLess := less_of_toRat? hq hp
      have hRest : ∀ y ∈ (if less x best then x else best) :: xs, ∃ r, y.toRat? = some r := by
        intro y hy
        rcases List.mem_cons.1 hy with rfl | hy
        · split_ifs
          · exact ⟨q, hq⟩
          · exact ⟨p, hp⟩
        · exact h y (List.mem_cons_of_mem _ (List.mem_cons_of_mem _ hy))
      obtain ⟨m, hm, hMem, hBound⟩ := ih hRest
      refine ⟨m, hm, ?_, fun y hy r hr => ?_⟩
      · rw [least]
        rcases List.mem_cons.1 hMem with hEq | hTail
        · rw [hEq]
          split_ifs
          · exact List.mem_cons_of_mem _ List.mem_cons_self
          · exact List.mem_cons_self
        · exact List.mem_cons_of_mem _ (List.mem_cons_of_mem _ hTail)
      · -- the smaller of the first two is at least the result
        have hFirst : m ≤ p ∧ m ≤ q := by
          by_cases hqp : q < p
          · rw [hLess, decide_eq_true hqp, if_pos rfl] at hBound
            have hmq := hBound x List.mem_cons_self q hq
            exact ⟨hmq.trans hqp.le, hmq⟩
          · rw [hLess, decide_eq_false hqp, if_neg Bool.false_ne_true] at hBound
            have hmp := hBound best List.mem_cons_self p hp
            exact ⟨hmp, hmp.trans (not_lt.1 hqp)⟩
        rcases List.mem_cons.1 hy with rfl | hy
        · rw [← Option.some.inj (hp.symm.trans hr)]
          exact hFirst.1
        · rcases List.mem_cons.1 hy with rfl | hy
          · rw [← Option.some.inj (hq.symm.trans hr)]
            exact hFirst.2
          · exact hBound y (List.mem_cons_of_mem _ hy) r hr

/-- What the rules about prices say of them. -/
def pricesOutcomes (prices : List Binary64) : List Bool :=
  [!prices.all Binary64.isFinite,
    decide (0 < (prices.length : ℤ)) && (prices.all Binary64.isFinite && someNotPositive prices)]

/-- What the rules of a contract on prices say, of which `first` and `own` are what its own rules
say. -/
def priceOutcomes (first own : List Bool) (prices : List Binary64) (timestamps : Option (List ℤ))
    (frequency : Option Frequency) (kind : PriceKind) : List Bool :=
  first ++ pricesOutcomes prices ++ own ++ timestampOutcomes prices.length timestamps frequency ++
    [decide (kind = .unadjusted)]

/-! ## What the rules make of the values -/

section

variable {stdev : List Binary64 → Except Text Binary64} {values : Fields} {prices : List Binary64}
  {timestamps : Option (List ℤ)} {frequency : Option Frequency} {kind : PriceKind}

theorem measures_min : (measures stdev).lookup (py "min") = some (measureExtreme .lt (py "min")) :=
  by
  simp [measures, List.lookup_cons, py_beq]

theorem compare_gt (a b : ℤ) (l r : PyValue) :
    Validation.compare (py "gt") (.int a) (.int b) l r = .ok (decide (b < a)) := by
  simp [Validation.compare, orderOperators, List.lookup_cons, py_beq, orRefuse,
    PyValue.OrderOp.holds]

theorem compare_eq_int (a b : ℤ) (l r : PyValue) :
    Validation.compare (py "eq") (.int a) (.int b) l r = .ok (decide (a = b)) := by
  rw [compare_eq, PyValue.equal_int]

theorem resolve_min {x : Binary64} {xs : List Binary64}
    (h : HoldsSeries values "prices" (x :: xs)) :
    resolveOperand stdev values (measureOf "prices" "min") = .ok (.float (least x xs)) := by
  rw [resolveOperand_measureOf h measures_min]
  simp [measureExtreme, Validation.sequence, extreme_floats, orRefuse, bind, Except.bind]

theorem evaluates_emptyPrices (h : HoldsSeries values "prices" prices) :
    Evaluates stdev values emptyPrices (decide ((prices.length : ℤ) = 0)) :=
  (evaluateExpression_comparison 2 (resolve_count h) (resolveOperand_literal _)).trans
    (compare_eq_int _ _ _ _)

theorem evaluates_nonPositivePrices (h : HoldsSeries values "prices" prices) :
    Evaluates stdev values nonPositivePrices
      (decide (0 < (prices.length : ℤ)) && (prices.all Binary64.isFinite && someNotPositive
        prices)) := by
  refine (evaluateExpression_allOf 2 _ _).trans
    (allM_cons ?count (fun hCount => allM_pair ?finite (fun _ => ?smallest)))
  case count =>
    exact (evaluateExpression_comparison 1 (resolve_count h) (resolveOperand_literal _)).trans
      (compare_gt _ _ _ _)
  case finite =>
    exact (evaluateExpression_comparison 1 (resolve_all_finite h) (resolveOperand_literal _)).trans
      (compare_eq_true _ _ _)
  case smallest =>
    cases prices with
    | nil => cases hCount
    | cons x xs =>
        exact (evaluateExpression_comparison 1 (resolve_min h) (resolveOperand_literal _)).trans
          (compare_le_zero _ _ _)

/-- The rules about prices have outcomes. -/
theorem evaluates_pricesRules (h : HoldsSeries values "prices" prices) :
    List.Forall₂ (Evaluates stdev values) [nonFinitePrices, nonPositivePrices]
      (pricesOutcomes prices) :=
  .cons (evaluates_nonFinite h _ _) (.cons (evaluates_nonPositivePrices h) .nil)

/-- The values hold the kind of the prices. -/
def HoldsKind (values : Fields) (kind : PriceKind) : Prop :=
  values.lookup (py "price_kind") = some (.str kind.text)

theorem evaluates_unadjusted (h : HoldsKind values kind) (message : String) :
    Evaluates stdev values (unadjustedPriceInterpretation message) (decide (kind = .unadjusted)) :=
      by
  refine (evaluateExpression_comparison 2 (resolveOperand_field h) (resolveOperand_literal _)).trans
    ?_
  cases kind <;> simp [compare_eq, PriceKind.text, text]

/-- The values hold prices with timestamps. -/
structure HoldsPrices (values : Fields) (prices : List Binary64) (timestamps : Option (List ℤ))
    (frequency : Option Frequency) (kind : PriceKind) : Prop where
  prices : HoldsSeries values "prices" prices
  timestamps : HoldsTimestamps values timestamps
  frequency : HoldsFrequency values frequency
  kind : HoldsKind values kind

/-- Where the rules of a component's own have outcomes, all rules of its contract have. -/
theorem evaluates_priceConstraints {first own : List Rule} {firstOutcomes ownOutcomes : List Bool}
    (h : HoldsPrices values prices timestamps frequency kind)
    (hFirst : List.Forall₂ (Evaluates stdev values) first firstOutcomes)
    (hOwn : List.Forall₂ (Evaluates stdev values) own ownOutcomes)
    (nonIncreasing withoutTimestamps unadjusted : String) :
    List.Forall₂ (Evaluates stdev values) (priceConstraints first own nonIncreasing
      withoutTimestamps unadjusted)
      (priceOutcomes firstOutcomes ownOutcomes prices timestamps frequency kind) := by
  have hTimes : List.Forall₂ (Evaluates stdev values) _ (timestampOutcomes prices.length timestamps
    frequency) :=
    evaluates_timestampRules h.prices h.timestamps h.frequency
      "timestamp_length_mismatch: Timestamps and prices must align one-to-one." nonIncreasing
        withoutTimestamps
  have hKind : List.Forall₂ (Evaluates stdev values) [unadjustedPriceInterpretation unadjusted] _ :=
    .cons (evaluates_unadjusted h.kind unadjusted) .nil
  exact List.rel_append
    (List.rel_append (List.rel_append (List.rel_append hFirst (evaluates_pricesRules h.prices))
      hOwn)
    hTimes) hKind

end

/-! ## What the rules leave -/

/-- Where neither rule about the prices fires, they are positive. -/
theorem positive_of_not_fires {prices : List Binary64}
    (hFinite : prices.all Binary64.isFinite = true)
    (hPositive : someNotPositive prices = false) : ∀ x ∈ prices, IsPositive x := by
  have hRat : ∀ x ∈ prices, ∃ q, x.toRat? = some q :=
    fun x hx => Binary64.exists_toRat?_of_isFinite (List.all_eq_true.1 hFinite x hx)
  cases prices with
  | nil => exact fun x hx => absurd hx List.not_mem_nil
  | cons x xs =>
      obtain ⟨m, hm, -, hBound⟩ := least_spec hRat
      have hPos : 0 < m := by
        have hNot : atMostZero (least x xs) = false := hPositive
        simpa [atMostZero, PyValue.order_float_int .le hm, PyValue.OrderOp.holds] using hNot
      intro y hy
      obtain ⟨r, hr⟩ := hRat y hy
      exact ⟨r, hr, hPos.trans_le (hBound y hy r hr)⟩

/-- Where no blocking rule about prices fires, they are positive. -/
theorem positive_of_noneBlocks {prices : List Binary64}
    (h : NoneBlocks [nonFinitePrices, nonPositivePrices] (pricesOutcomes prices)) :
    ∀ x ∈ prices, IsPositive x := by
  simp only [pricesOutcomes, noneBlocks_cons, nonFinitePrices, nonFinite, nonPositivePrices, ne_eq,
    not_true_eq_false, imp_false, Bool.not_eq_true] at h
  obtain ⟨hFinite, hPositive, -⟩ := h
  have hAll : prices.all Binary64.isFinite = true := by simpa using hFinite
  cases prices with
  | nil => exact fun x hx => absurd hx List.not_mem_nil
  | cons x xs =>
      have hSome : (0 : ℤ) < (x :: xs).length := Int.natCast_pos.2 (Nat.succ_pos _)
      rw [decide_eq_true hSome, hAll, Bool.true_and, Bool.true_and] at hPositive
      exact positive_of_not_fires hAll hPositive

/-- Where no blocking rule of a contract on prices fires, none of its own does, the prices are
positive, and the timestamps are in order. -/
theorem noneBlocks_priceConstraints {first own : List Rule} {firstOutcomes ownOutcomes : List Bool}
    {nonIncreasing withoutTimestamps unadjusted : String} {prices : List Binary64}
    {timestamps : Option (List ℤ)}
    {frequency : Option Frequency} {kind : PriceKind} (hFirst : first.length = firstOutcomes.length)
    (hOwn : own.length = ownOutcomes.length)
    (h : NoneBlocks (priceConstraints first own nonIncreasing withoutTimestamps unadjusted)
      (priceOutcomes firstOutcomes ownOutcomes prices timestamps frequency kind)) :
    NoneBlocks first firstOutcomes ∧ NoneBlocks own ownOutcomes ∧ (∀ x ∈ prices, IsPositive x) ∧
      InOrder prices.length timestamps frequency := by
  unfold priceConstraints priceOutcomes at h
  rw [noneBlocks_append (by simp [hFirst, hOwn, pricesOutcomes, timestampRules, timestampOutcomes]),
    noneBlocks_append (by simp [hFirst, hOwn, pricesOutcomes]),
    noneBlocks_append (by simp [hFirst, pricesOutcomes]), noneBlocks_append hFirst] at h
  obtain ⟨⟨⟨⟨hFirst, hPrices⟩, hOwn⟩, hTimes⟩, -⟩ := h
  exact ⟨hFirst, hOwn, positive_of_noneBlocks hPrices, inOrder_of_noneBlocks hTimes⟩

end PriceSeries
