import Mathlib.Data.Finset.Lattice.Fold
import Mathlib.Data.List.GetD
import Mathlib.Order.Interval.Finset.Nat

/-!
# Extrema of sequences and where they are

The latest maximum so far, the earliest minimum of a sequence, and the first place behind another
one where something holds. Each is unique, so two searches that find it agree.
-/

namespace Extrema

variable {α : Type} [LinearOrder α] {f : ℕ → α} {i j p q : ℕ}

/-- At `p` is the latest maximum of the values up to `i`. -/
structure IsLatestMax (f : ℕ → α) (i p : ℕ) : Prop where
  le : p ≤ i
  bound : ∀ s ≤ i, f s ≤ f p
  latest : ∀ s, p < s → s ≤ i → f s < f p

theorem isLatestMax_zero : IsLatestMax f 0 0 :=
  ⟨le_rfl, fun s hs => by rw [Nat.le_zero.1 hs], fun _ h hs => absurd h (Nat.not_lt.2 hs)⟩

/-- A value that reaches the maximum is the latest maximum. -/
theorem IsLatestMax.succ_of_le (h : IsLatestMax f i p) (hNext : f p ≤ f (i + 1)) :
    IsLatestMax f (i + 1) (i + 1) := by
  refine ⟨le_rfl, fun s hs => ?_, fun _ h hs => absurd h (Nat.not_lt.2 hs)⟩
  rcases Nat.lt_or_eq_of_le hs with hs | rfl
  · exact (h.bound s (Nat.lt_succ_iff.1 hs)).trans hNext
  · exact le_rfl

/-- A value below the maximum leaves it where it is. -/
theorem IsLatestMax.succ_of_lt (h : IsLatestMax f i p) (hNext : f (i + 1) < f p) :
    IsLatestMax f (i + 1) p := by
  refine ⟨h.le.trans (Nat.le_succ i), fun s hs => ?_, fun s hLater hs => ?_⟩
  · rcases Nat.lt_or_eq_of_le hs with hs | rfl
    · exact h.bound s (Nat.lt_succ_iff.1 hs)
    · exact hNext.le
  · rcases Nat.lt_or_eq_of_le hs with hs | rfl
    · exact h.latest s hLater (Nat.lt_succ_iff.1 hs)
    · exact hNext

/-- The same, counted from the place before. -/
theorem IsLatestMax.pred_of_le (h : IsLatestMax f (i - 1) p) (hNext : f p ≤ f i) :
    IsLatestMax f i i := by
  cases i with
  | zero => exact isLatestMax_zero
  | succ i => exact h.succ_of_le hNext

theorem IsLatestMax.pred_of_lt (h : IsLatestMax f (i - 1) p) (hNext : f i < f p) :
    IsLatestMax f i p := by
  cases i with
  | zero => exact h
  | succ i => exact h.succ_of_lt hNext

theorem IsLatestMax.unique (hp : IsLatestMax f i p) (hq : IsLatestMax f i q) : p = q := by
  rcases lt_trichotomy p q with h | h | h
  · exact absurd (hp.latest q h hq.le) (not_lt.2 (hq.bound p hp.le))
  · exact h
  · exact absurd (hq.latest p h hp.le) (not_lt.2 (hp.bound q hq.le))

/-- The maximum is the maximum of the values up to itself. -/
theorem IsLatestMax.self (h : IsLatestMax f i p) : IsLatestMax f p p :=
  ⟨le_rfl, fun s hs => h.bound s (hs.trans h.le), fun _ hLater hs =>
    absurd hLater (Nat.not_lt.2 hs)⟩

/-- A maximum never moves back. -/
theorem IsLatestMax.mono (hp : IsLatestMax f i p) (hq : IsLatestMax f j q) (h : i ≤ j) : p ≤ q := by
  by_contra hBack
  have hLess := hq.latest p (Nat.lt_of_not_le hBack) (hp.le.trans h)
  exact absurd hLess (not_lt.2 (hp.bound q ((Nat.le_of_lt (Nat.lt_of_not_le hBack)).trans hp.le)))

/-- The maximum is here exactly when its value is. -/
theorem IsLatestMax.eq_iff (h : IsLatestMax f i p) : p = i ↔ f i = f p := by
  constructor
  · rintro rfl
    rfl
  · intro hValue
    rcases Nat.lt_or_eq_of_le h.le with hLess | hSame
    · exact absurd hValue (h.latest i hLess le_rfl).ne
    · exact hSame

/-- While no later value reaches the maximum, it stays. -/
theorem IsLatestMax.extend (h : IsLatestMax f i p) (hij : i ≤ j)
    (hBelow : ∀ s, i < s → s ≤ j → f s < f p) :
    IsLatestMax f j p := by
  refine ⟨h.le.trans hij, fun s hs => ?_, fun s hLater hs => ?_⟩
  · rcases Nat.lt_or_ge i s with hAfter | hUpTo
    · exact (hBelow s hAfter hs).le
    · exact h.bound s hUpTo
  · rcases Nat.lt_or_ge i s with hAfter | hUpTo
    · exact hBelow s hAfter hs
    · exact h.latest s hLater hUpTo

/-- The maximum of the values up to `i`. -/
def runningMax (f : ℕ → α) (i : ℕ) : α := (Finset.Iic i).sup' ⟨i, Finset.mem_Iic.2 le_rfl⟩ f

/-- At the latest maximum stands the maximum. -/
theorem IsLatestMax.value (h : IsLatestMax f i p) : f p = runningMax f i := by
  apply le_antisymm
  · exact Finset.le_sup' f (Finset.mem_Iic.2 h.le)
  · exact Finset.sup'_le _ f (fun s hs => h.bound s (Finset.mem_Iic.1 hs))

/-- At `t` is the earliest minimum of the first `n` values. -/
structure IsEarliestMin (f : ℕ → α) (n t : ℕ) : Prop where
  lt : t < n
  bound : ∀ s < n, f t ≤ f s
  earliest : ∀ s < t, f t < f s

/-- What is the first place behind `t` and before `n` where `P` holds, if there is one. -/
def IsFirstBehind (P : ℕ → Prop) (t n : ℕ) : Option ℕ → Prop
  | some r => t < r ∧ r < n ∧ P r ∧ ∀ s, t < s → s < r → ¬ P s
  | none => ∀ s, t < s → s < n → ¬ P s

theorem IsFirstBehind.unique {P : ℕ → Prop} {t n : ℕ} {r s : Option ℕ} (hr : IsFirstBehind P t n r)
    (hs : IsFirstBehind P t n s) : r = s := by
  cases r with
  | none =>
      cases s with
      | none => rfl
      | some s => exact absurd hs.2.2.1 (hr s hs.1 hs.2.1)
  | some r =>
      cases s with
      | none => exact absurd hr.2.2.1 (hs r hr.1 hr.2.1)
      | some s =>
          obtain ⟨hrLow, hrHigh, hrHolds, hrFirst⟩ := hr
          obtain ⟨hsLow, hsHigh, hsHolds, hsFirst⟩ := hs
          rcases lt_trichotomy r s with h | h | h
          · exact absurd hrHolds (hsFirst r hrLow h)
          · rw [h]
          · exact absurd hsHolds (hrFirst s hsLow h)

/-- Two conditions that agree up to the first place where one holds have the same first place. -/
theorem IsFirstBehind.congr {P Q : ℕ → Prop} {t n : ℕ} {r : Option ℕ} (hr : IsFirstBehind P t n r)
    (h : ∀ s, t < s → s < n → (∀ u, t < u → u < s → ¬ P u) → (Q s ↔ P s)) :
    IsFirstBehind Q t n r := by
  cases r with
  | none => exact fun s hLow hHigh =>
    (h s hLow hHigh (fun u hu hus => hr u hu (hus.trans hHigh))).not.2 (hr s hLow hHigh)
  | some r =>
      obtain ⟨hLow, hHigh, hHolds, hFirst⟩ := hr
      refine ⟨hLow, hHigh, (h r hLow hHigh hFirst).2 hHolds, fun s hs hsr => ?_⟩
      have hBefore : ∀ u, t < u → u < s → ¬ P u := fun u hu hus => hFirst u hu (hus.trans hsr)
      exact (h s hs (hsr.trans hHigh) hBefore).not.2 (hFirst s hs hsr)

/-! ### Searches in lists -/

/-- The first place of the minimum of a list is its earliest minimum. -/
theorem isEarliestMin_idxOf {xs : List α} {m d : α} (hMem : m ∈ xs) (hBound : ∀ x ∈ xs, m ≤ x) :
    IsEarliestMin (fun i => xs.getD i d) xs.length (xs.idxOf m) := by
  have hLess : xs.idxOf m < xs.length := List.idxOf_lt_length_of_mem hMem
  have hAt : xs.getD (xs.idxOf m) d = m := by
    rw [List.getD_eq_getElem _ _ hLess, List.getElem_idxOf]
  refine ⟨hLess, fun s hs => ?_, fun s hs => ?_⟩
  · show xs.getD (xs.idxOf m) d ≤ xs.getD s d
    rw [hAt, List.getD_eq_getElem _ _ hs]
    exact hBound _ (List.getElem_mem hs)
  · show xs.getD (xs.idxOf m) d < xs.getD s d
    have hShort : s < xs.length := hs.trans hLess
    rw [hAt, List.getD_eq_getElem _ _ hShort]
    refine lt_of_le_of_ne (hBound _ (List.getElem_mem hShort)) (fun hSame => ?_)
    have hFirst := List.not_of_lt_findIdx (p := (· == m)) hs
    exact absurd hSame.symm (by simpa using hFirst)

/-- A search through the places behind `t` finds the first one. -/
theorem isFirstBehind_find? {P : ℕ → Prop} [DecidablePred P] (t n : ℕ) :
    IsFirstBehind P t n ((List.range' (t + 1) (n - (t + 1))).find? (fun i => decide (P i))) := by
  cases hFound : (List.range' (t + 1) (n - (t + 1))).find? (fun i => decide (P i)) with
  | none =>
      intro s hLow hHigh
      have hNot := List.find?_eq_none.1 hFound s (List.mem_range'_1.2 ⟨hLow, by omega⟩)
      simpa using hNot
  | some r =>
      obtain ⟨hHolds, i, hi, hAt, hFirst⟩ := List.find?_eq_some_iff_getElem.1 hFound
      rw [List.length_range'] at hi
      rw [List.getElem_range', Nat.one_mul] at hAt
      refine ⟨by omega, by omega, of_decide_eq_true hHolds, fun s hLow hHigh => ?_⟩
      have hBefore := hFirst (s - (t + 1)) (by omega)
      rw [List.getElem_range', Nat.one_mul, Nat.add_sub_cancel' hLow] at hBefore
      simpa using hBefore

end Extrema
