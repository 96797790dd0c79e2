import Mathlib.Data.List.Lex
import Mathlib.Data.List.Sort

/-!
# Stable sorting by a key

`sortBy key` is Python's `sorted(xs, key=key)`: a stable sort in the order of the keys. Sequences of
ordered items are compared lexicographically, as Python compares strings and byte strings. Sorted
permutations of one another agree as soon as the key tells their members apart.
-/

section

variable {α β γ : Type*} [LinearOrder β]

/-- `sorted(xs, key=key)` -/
def sortBy (key : α → β) (xs : List α) : List α := xs.insertionSort (fun a b => key a ≤ key b)

instance sortByTotal (key : α → β) : Std.Total (fun a b => key a ≤ key b) :=
  ⟨fun a b => le_total (key a) (key b)⟩

instance sortByTrans (key : α → β) : IsTrans α (fun a b => key a ≤ key b) :=
  ⟨fun _ _ _ hab hbc => le_trans hab hbc⟩

@[simp] theorem sortBy_nil (key : α → β) : sortBy key [] = [] := rfl

theorem sortBy_perm (key : α → β) (xs : List α) : (sortBy key xs).Perm xs :=
  List.perm_insertionSort _ _

@[simp] theorem mem_sortBy {key : α → β} {xs : List α} {a : α} : a ∈ sortBy key xs ↔ a ∈ xs :=
  (sortBy_perm key xs).mem_iff

@[simp] theorem length_sortBy (key : α → β) (xs : List α) : (sortBy key xs).length = xs.length :=
  (sortBy_perm key xs).length_eq

theorem pairwise_sortBy (key : α → β) (xs : List α) :
    (sortBy key xs).Pairwise (fun a b => key a ≤ key b) :=
  List.pairwise_insertionSort _ xs

/-- `sorted(set(values))` -/
def sortedSet {α : Type*} [DecidableEq α] [LinearOrder α] (values : List α) : List α :=
  sortBy id values.dedup

/-- `set(names) == set(expected)` -/
def sameNames {α : Type*} [DecidableEq α] (names expected : List α) : Bool :=
  decide ((∀ name ∈ names, name ∈ expected) ∧ ∀ name ∈ expected, name ∈ names)

/-- Sorting leaves a sorted list alone. -/
theorem sortBy_eq_self {key : α → β} {xs : List α}
    (h : xs.Pairwise (fun a b => key a ≤ key b)) : sortBy key xs = xs :=
  h.insertionSort_eq

@[simp] theorem sortBy_sortBy (key : α → β) (xs : List α) :
    sortBy key (sortBy key xs) = sortBy key xs :=
  sortBy_eq_self (pairwise_sortBy key xs)

/-- Sorting commutes with a map that keeps the keys. -/
theorem sortBy_map (key : α → β) (key' : γ → β) (f : α → γ) (h : ∀ a, key' (f a) = key a)
    (xs : List α) : sortBy key' (xs.map f) = (sortBy key xs).map f :=
  (List.map_insertionSort _ _ f xs (fun a _ b _ => by rw [h a, h b])).symm

/-- Permutations whose keys tell members apart sort to the same list. -/
theorem sortBy_eq_of_perm {key : α → β} {xs ys : List α} (hPerm : xs.Perm ys)
    (hInj : ∀ a ∈ xs, ∀ b ∈ xs, key a = key b → a = b) : sortBy key xs = sortBy key ys := by
  have hSorted : (sortBy key xs).Perm (sortBy key ys) :=
    (sortBy_perm key xs).trans (hPerm.trans (sortBy_perm key ys).symm)
  refine hSorted.eq_of_pairwise ?_ (pairwise_sortBy key xs) (pairwise_sortBy key ys)
  intro a b ha hb hab hba
  exact hInj a (mem_sortBy.1 ha) b (hPerm.mem_iff.2 (mem_sortBy.1 hb)) (le_antisymm hab hba)

/-- Distinct keys stay distinct. -/
theorem nodup_map_sortBy {f : α → γ} {key : α → β} {xs : List α} (h : (xs.map f).Nodup) :
    ((sortBy key xs).map f).Nodup :=
  ((sortBy_perm key xs).map f).nodup_iff.2 h

end
