import Mathlib.Data.List.Basic
import Mathlib.Tactic.Common

/-!
# Self-delimiting codes

An encoder is self-delimiting when the word of a value can be read off the front of any input that
starts with it: whatever follows, the value and the remaining input are determined. Such an encoder
is injective, and the property survives the usual ways of putting words together. The pointwise form
`DelimitsAt` is the one an induction over a nested syntax tree uses, since there the property is
only known for the children at hand.
-/

namespace PrefixCode

variable {α β σ : Type*}

/-- At `a`, the encoder's word determines the value and where the word ends. -/
def DelimitsAt (enc : α → List σ) (a : α) : Prop :=
  ∀ b r s, enc a ++ r = enc b ++ s → a = b ∧ r = s

/-- The encoder's words can be read off the front of any input. -/
def SelfDelimiting (enc : α → List σ) : Prop :=
  ∀ a, DelimitsAt enc a

/-- A self-delimiting encoder is injective. -/
theorem SelfDelimiting.injective {enc : α → List σ} (h : SelfDelimiting enc) :
    Function.Injective enc := by
  intro a b hab
  exact (h a b [] [] (by rw [hab])).1

/-- An encoder with a reader that undoes it in front of any input is self-delimiting. -/
theorem selfDelimiting_of_reader {enc : α → List σ} (read : List σ → Option (α × List σ))
    (h : ∀ a r, read (enc a ++ r) = some (a, r)) : SelfDelimiting enc := by
  intro a b r s hEq
  have hRead : some (a, r) = some (b, s) := by rw [← h a r, ← h b s, hEq]
  simpa using hRead

/-- Encoders whose words all have one length are self-delimiting as soon as they are injective. -/
theorem selfDelimiting_of_length {enc : α → List σ} (hInj : Function.Injective enc) (n : ℕ)
    (hLen : ∀ a, (enc a).length = n) : SelfDelimiting enc := by
  intro a b r s hEq
  obtain ⟨hHead, hTail⟩ := List.append_inj hEq (by rw [hLen, hLen])
  exact ⟨hInj hHead, hTail⟩

/-! ## Concatenations

A concatenation of nonempty words ended by a terminator is self-delimiting as soon as no word starts
with the terminator.
-/

/-- A run of words that is closed by `stop` determines the run, when no word begins with `stop`. -/
theorem flatMap_stop_inj {enc : α → List σ} {stop : σ} (h : SelfDelimiting enc)
    (hStop : ∀ a r s, enc a ++ r ≠ stop :: s) :
    ∀ (xs ys : List α) (r s : List σ),
      xs.flatMap enc ++ stop :: r = ys.flatMap enc ++ stop :: s → xs = ys ∧ r = s
  | [], [], r, s, hEq => by simpa using hEq
  | [], y :: ys, r, s, hEq => by
      rw [List.flatMap_cons, List.append_assoc] at hEq
      exact absurd hEq.symm (hStop y _ _)
  | x :: xs, [], r, s, hEq => by
      rw [List.flatMap_cons, List.append_assoc] at hEq
      exact absurd hEq (hStop x _ _)
  | x :: xs, y :: ys, r, s, hEq => by
      simp only [List.flatMap_cons, List.append_assoc] at hEq
      obtain ⟨rfl, hRest⟩ := h x y _ _ hEq
      obtain ⟨rfl, rfl⟩ := flatMap_stop_inj h hStop xs ys r s hRest
      exact ⟨rfl, rfl⟩

/-- Concatenating nonempty self-delimiting words is injective. -/
theorem flatMap_injective {enc : α → List σ} (h : SelfDelimiting enc) (hNe : ∀ a, enc a ≠ []) :
    Function.Injective (fun xs : List α => xs.flatMap enc) := by
  intro xs
  induction xs with
  | nil =>
      rintro (_ | ⟨y, ys⟩) hEq
      · rfl
      · simp only [List.flatMap_nil, List.flatMap_cons] at hEq
        exact absurd (List.append_eq_nil_iff.1 hEq.symm).1 (hNe y)
  | cons x xs ih =>
      rintro (_ | ⟨y, ys⟩) hEq
      · simp only [List.flatMap_nil, List.flatMap_cons] at hEq
        exact absurd (List.append_eq_nil_iff.1 hEq).1 (hNe x)
      · simp only [List.flatMap_cons] at hEq
        obtain ⟨rfl, hRest⟩ := h x y _ _ hEq
        rw [ih hRest]

/-! ## Separated lists

Words joined by a separator and closed by a terminator, as in a bracketed list. The first symbol of
a word is neither, and the two are different symbols, so what follows each word says whether the
list goes on.
-/

/-- Join words with a separator between neighbours. -/
def joinSep (sep : σ) : List (List σ) → List σ
  | [] => []
  | [w] => w
  | w :: ws => w ++ sep :: joinSep sep ws

@[simp] theorem joinSep_nil (sep : σ) : joinSep sep [] = [] := rfl

@[simp] theorem joinSep_singleton (sep : σ) (w : List σ) : joinSep sep [w] = w := rfl

@[simp] theorem joinSep_cons_cons (sep : σ) (w v : List σ) (ws : List (List σ)) :
    joinSep sep (w :: v :: ws) = w ++ sep :: joinSep sep (v :: ws) := rfl

/-- A separated list closed by `stop` determines its items, given that each item of the first list
determines itself. -/
theorem joinSep_stop_inj {enc : α → List σ} {sep stop : σ} (hSep : sep ≠ stop)
    (hStop : ∀ a r s, enc a ++ r ≠ stop :: s) :
    ∀ (xs ys : List α) (r s : List σ), (∀ x ∈ xs, DelimitsAt enc x) →
      joinSep sep (xs.map enc) ++ stop :: r = joinSep sep (ys.map enc) ++ stop :: s →
      xs = ys ∧ r = s
  | [], [], r, s, _, hEq => by simpa using hEq
  | [], [y], r, s, _, hEq => absurd hEq.symm (hStop y _ _)
  | [], y :: y' :: ys, r, s, _, hEq => by
      simp only [List.map_cons, joinSep_cons_cons, List.append_assoc] at hEq
      exact absurd hEq.symm (hStop y _ _)
  | [x], [], r, s, _, hEq => absurd hEq (hStop x _ _)
  | x :: x' :: xs, [], r, s, _, hEq => by
      simp only [List.map_cons, joinSep_cons_cons, List.append_assoc] at hEq
      exact absurd hEq (hStop x _ _)
  | [x], [y], r, s, hAt, hEq => by
      obtain ⟨rfl, hRest⟩ := hAt x (by simp) y _ _ hEq
      exact ⟨rfl, List.tail_eq_of_cons_eq hRest⟩
  | [x], y :: y' :: ys, r, s, hAt, hEq => by
      simp only [List.map_cons, List.map_nil, joinSep_singleton, joinSep_cons_cons,
        List.append_assoc] at hEq
      obtain ⟨-, hRest⟩ := hAt x (by simp) y _ _ hEq
      exact absurd (List.head_eq_of_cons_eq hRest).symm hSep
  | x :: x' :: xs, [y], r, s, hAt, hEq => by
      simp only [List.map_cons, List.map_nil, joinSep_singleton, joinSep_cons_cons,
        List.append_assoc] at hEq
      obtain ⟨-, hRest⟩ := hAt x (by simp) y _ _ hEq
      exact absurd (List.head_eq_of_cons_eq hRest) hSep
  | x :: x' :: xs, y :: y' :: ys, r, s, hAt, hEq => by
      simp only [List.map_cons, joinSep_cons_cons, List.append_assoc] at hEq
      obtain ⟨rfl, hRest⟩ := hAt x (by simp) y _ _ hEq
      have hTail := List.tail_eq_of_cons_eq hRest
      obtain ⟨hXs, rfl⟩ := joinSep_stop_inj hSep hStop (x' :: xs) (y' :: ys) r s
        (fun z hz => hAt z (List.mem_cons_of_mem _ hz)) (by simpa using hTail)
      exact ⟨by rw [hXs], rfl⟩

end PrefixCode
