import DefinedQuant.Categories.Calculation
import DefinedQuant.Categories.PriceRules

/-!
# Components on price series

What the components on price series have in common: their inputs, over the doubles that the rules
see and over the exact numbers that the calculations use; what their contracts make of the inputs;
and the adjacent pairs of prices.
-/

namespace PriceSeries

open Calendar (AwareDatetime)
open Validation (Fields)
open SeriesRules
open Calculation

/-! ## Inputs -/

/-- The fields that the `Inputs` of the components share, over the numbers `N`. -/
structure Inputs (N : Type) where
  prices : List N
  priceKind : PriceKind
  timestamps : Option (List AwareDatetime)
  declaredFrequency : Option Frequency
  /-- `min_length=1` -/
  prices_nonempty : prices ≠ []
  length_le : prices.length ≤ maxsize

/-- The instants of the timestamps. -/
def Inputs.instants {N : Type} (inputs : Inputs N) : Option (List ℤ) :=
  inputs.timestamps.map (fun ts => ts.map AwareDatetime.instant)

/-- The fields as `inputs.model_dump(mode="python")` gives them. -/
def Inputs.pricesField (inputs : Inputs Binary64) : Text × PyValue :=
  (py "prices", .seq .tuple (inputs.prices.map PyValue.float))

def Inputs.priceKindField {N : Type} (inputs : Inputs N) : Text × PyValue :=
  (py "price_kind", .str inputs.priceKind.text)

def Inputs.timestampsField {N : Type} (inputs : Inputs N) : Text × PyValue :=
  (py "timestamps", orNone (fun ts => .seq .tuple (ts.map PyValue.instant)) inputs.instants)

def Inputs.frequencyField {N : Type} (inputs : Inputs N) : Text × PyValue :=
  (py "declared_frequency", orNone (fun f => .str (Frequency.text f)) inputs.declaredFrequency)

/-- What the rules leave of inputs. -/
structure Inputs.Guarded {N : Type} (positive : N → Prop) (inputs : Inputs N) : Prop where
  positive : ∀ x ∈ inputs.prices, positive x
  aligned : ∀ ts, inputs.timestamps = some ts → ts.length = inputs.prices.length
  increasing : ∀ ts, inputs.timestamps = some ts → (ts.map AwareDatetime.instant).IsChain (· < ·)
  frequency : inputs.timestamps = none → inputs.declaredFrequency = none

/-- The dump of inputs whose own fields stand behind the kind of the prices. -/
def Inputs.dumpWith (inputs : Inputs Binary64) (own : Fields) : Fields :=
  inputs.pricesField :: inputs.priceKindField :: own ++ [inputs.timestampsField,
    inputs.frequencyField]

theorem Inputs.holdsPrices (inputs : Inputs Binary64) {own : Fields}
    (hTimes : own.lookup (py "timestamps") = none)
    (hFrequency : own.lookup (py "declared_frequency") = none) :
    HoldsPrices (inputs.dumpWith own) inputs.prices inputs.instants inputs.declaredFrequency
      inputs.priceKind where
  prices := by simp [HoldsSeries, dumpWith, pricesField]
  timestamps := by
    simp [HoldsTimestamps, dumpWith, pricesField, priceKindField, timestampsField, List.lookup_cons,
      List.lookup_append, hTimes, Validation.py_beq]
  frequency := by
    simp [HoldsFrequency, dumpWith, pricesField, priceKindField, timestampsField, frequencyField,
      List.lookup_cons, List.lookup_append, hFrequency, Validation.py_beq]
  kind := by simp [HoldsKind, dumpWith, pricesField, priceKindField, List.lookup_cons,
    Validation.py_beq]

/-- Where no blocking rule of a contract on prices fires, the inputs are guarded. -/
theorem Inputs.guarded {inputs : Inputs Binary64} (hPositive : ∀ x ∈ inputs.prices, IsPositive x)
    (hOrder : InOrder inputs.prices.length inputs.instants inputs.declaredFrequency) :
    inputs.Guarded IsPositive := by
  refine ⟨hPositive, fun ts hTs => ?_, fun ts hTs => ?_, fun hNone => ?_⟩
  · have hInstants : inputs.instants = some (ts.map AwareDatetime.instant) := by
      rw [Inputs.instants, hTs, Option.map_some]
    rw [← hOrder.aligned _ hInstants, List.length_map]
  · exact hOrder.increasing _ (by rw [Inputs.instants, hTs, Option.map_some])
  · exact hOrder.frequency (by rw [Inputs.instants, hNone, Option.map_none])

/-! ## Prices -/

section

variable {K : Type} [Field K]

/-- The prices as exact numbers. -/
def exactPrices (prices : List Binary64) : Except Raised (List K) := prices.mapM exact

theorem forall₂_exact {prices : List Binary64} {numbers : List K}
    (h : exactPrices prices = .ok numbers) :
    List.Forall₂ (fun x r => exact x = .ok r) prices numbers :=
  Except.mapM_eq_ok.1 h

variable [LinearOrder K] [IsStrictOrderedRing K]

/-- Positive doubles are positive numbers. -/
theorem exists_exactPrices {prices : List Binary64} (h : ∀ x ∈ prices, IsPositive x) :
    ∃ numbers : List K, exactPrices prices = .ok numbers ∧ ∀ r ∈ numbers, 0 < r := by
  obtain ⟨numbers, hNumbers⟩ : ∃ numbers : List K, exactPrices prices = .ok numbers := by
    refine Except.exists_mapM_eq_ok (fun x hx => ?_)
    obtain ⟨q, hq, -⟩ := h x hx
    exact ⟨(q : K), by rw [exact, hq]⟩
  refine ⟨numbers, hNumbers, fun r hr => ?_⟩
  obtain ⟨x, hx, hExact⟩ := (forall₂_exact hNumbers).flip.exists_right hr
  obtain ⟨q, hq, hPos⟩ := h x hx
  rw [exact, hq] at hExact
  rw [← Except.ok.inj hExact]
  exact Rat.cast_pos.2 hPos

end

/-! ## Labels -/

theorem sized_priceKind (kind : PriceKind) : Sized 0 10 kind.text := by
  cases kind with
  | adjusted => exact ⟨encodable_py _, Nat.zero_le _, by decide⟩
  | unadjusted => exact ⟨encodable_py _, Nat.zero_le _, by decide⟩

/-- The labels of one point for each price: its timestamp, or its index. -/
def pointLabels {N : Type} (inputs : Inputs N) (count : ℕ) : List Text :=
  match inputs.timestamps with
  | none => (List.range count).map digits
  | some timestamps => timestamps.map AwareDatetime.isoformat

theorem length_pointLabels {N : Type} {inputs : Inputs N} {count : ℕ}
    (hAligned : ∀ ts, inputs.timestamps = some ts → ts.length = count) :
    (pointLabels inputs count).length = count := by
  unfold pointLabels
  cases hTimes : inputs.timestamps with
  | none => rw [List.length_map, List.length_range]
  | some ts => rw [List.length_map, hAligned ts hTimes]

/-- The labels fit a chart. -/
theorem charsWithin_pointLabels {N : Type} (inputs : Inputs N) {count : ℕ}
    (hCount : count ≤ maxsize) :
    ∀ label ∈ pointLabels inputs count, Protocol.charsWithin 1 80 label = true := by
  intro label hLabel
  unfold pointLabels at hLabel
  split at hLabel
  · obtain ⟨i, hi, rfl⟩ := List.mem_map.1 hLabel
    have hLess := List.mem_range.1 hi
    exact (sized_digits (by omega)).charsWithin le_rfl (by decide)
  · obtain ⟨t, -, rfl⟩ := List.mem_map.1 hLabel
    exact (sized_isoformat t).charsWithin le_rfl (by decide)

/-! ## Lineage -/

/-- `InputRef(field="prices", index=index)` -/
def priceRef (index : ℕ) : ComponentOutput.InputRef := ⟨py "prices", index⟩

theorem validRef_priceRef (index : ℕ) : Protocol.isSafeId (priceRef index).field = true ∧
    0 ≤ (priceRef index).index :=
  ⟨(by decide : Protocol.isSafeId (py "prices") = true), Int.natCast_nonneg _⟩

/-- `enumerate(zip(prices, prices[1:]))` -/
def pairs {K : Type} (prices : List K) : List ((K × K) × ℕ) := (prices.zip prices.tail).zipIdx

section

variable {K : Type} {prices : List K}

theorem length_pairs : (pairs prices).length = prices.length - 1 := by
  rw [pairs, List.length_zipIdx, List.length_zip, List.length_tail]
  omega

theorem getElem?_pairs {i : ℕ} {pair : (K × K) × ℕ} (h : (pairs prices)[i]? = some pair) :
    pair.2 = i ∧ prices[i]? = some pair.1.1 ∧ prices[i + 1]? = some pair.1.2 := by
  rw [pairs, List.getElem?_zipIdx, Option.map_eq_some_iff] at h
  obtain ⟨both, hBoth, rfl⟩ := h
  rw [List.getElem?_zip_eq_some, List.getElem?_tail] at hBoth
  exact ⟨Nat.zero_add i, hBoth⟩

theorem mem_pairs {pair : (K × K) × ℕ} (h : pair ∈ pairs prices) :
    pair.2 + 1 < prices.length ∧ pair.1.1 ∈ prices ∧ pair.1.2 ∈ prices := by
  obtain ⟨i, hi⟩ := List.mem_iff_getElem?.1 h
  obtain ⟨rfl, hPrevious, hCurrent⟩ := getElem?_pairs hi
  exact ⟨(List.getElem?_eq_some_iff.1 hCurrent).1, List.mem_of_getElem? hPrevious,
    List.mem_of_getElem? hCurrent⟩

open ComponentOutput (Derivation)

/-- Derivations that stand at the index of their target have distinct targets. -/
theorem nodup_outputs {derivations : List (Derivation K)}
    (h : ∀ (i : ℕ) (d : Derivation K), derivations[i]? = some d → d.output.index = i) :
    (derivations.map Derivation.output).Nodup := by
  have hIndex : derivations.map (fun d => d.output.index) = (List.range derivations.length).map
    Nat.cast := by
    apply List.ext_getElem?
    intro i
    rw [List.getElem?_map, List.getElem?_map]
    cases hd : derivations[i]? with
    | none =>
        rw [List.getElem?_eq_none (by simpa using hd)]
        rfl
    | some d =>
        have hLess : i < derivations.length := (List.getElem?_eq_some_iff.1 hd).1
        rw [List.getElem?_range hLess, Option.map_some, Option.map_some, h i d hd]
  have hNodup : (derivations.map (fun d => d.output.index)).Nodup := by
    rw [hIndex]
    exact List.nodup_range.map Nat.cast_injective
  rw [← Function.comp_def (fun r : ComponentOutput.OutputRef => r.index) Derivation.output,
    ← List.map_map] at hNodup
  exact hNodup.of_map _

end

end PriceSeries
