import Mathlib.Data.List.Forall2
import Mathlib.Data.List.Perm.Basic

/-!
# Computations that may raise

Inversion of `Except` computations: when a sequence of steps succeeds, so did every step. `Forall₂`
says what a successful traversal of a list produced.
-/

namespace Except

universe u v

variable {ε : Type u} {α β : Type v}

@[simp] theorem pure_eq_ok {a b : α} : (pure a : Except ε α) = .ok b ↔ a = b := by
  simp [pure, Except.pure]

@[simp] theorem throw_ne_ok {e : ε} {a : α} : (throw e : Except ε α) ≠ .ok a := by
  simp [throw, throwThe, MonadExceptOf.throw]

/-- A sequence of two computations succeeds exactly when both do. -/
theorem bind_eq_ok {x : Except ε α} {f : α → Except ε β} {b : β} :
    (x >>= f) = .ok b ↔ ∃ a, x = .ok a ∧ f a = .ok b := by
  cases x with
  | error e => simp [bind, Except.bind]
  | ok a => simp [bind, Except.bind]

/-- A sequence of two computations fails where the first does, or the second on what the first
returned. -/
theorem bind_eq_error {x : Except ε α} {f : α → Except ε β} {e : ε} :
    (x >>= f) = .error e ↔ x = .error e ∨ ∃ a, x = .ok a ∧ f a = .error e := by
  cases x with
  | error e' => simp [bind, Except.bind]
  | ok a => simp [bind, Except.bind]

/-- `if p: raise e` -/
def raiseIf {ε : Type} (p : Prop) [Decidable p] (e : ε) : Except ε Unit := if p then .error e
    else .ok ()

theorem raiseIf_eq_ok {ε : Type} {p : Prop} [Decidable p] {e : ε} {u : Unit} :
    raiseIf p e = .ok u ↔ ¬ p := by
  unfold raiseIf
  by_cases h : p
  · simp [h]
  · simp [h]

theorem raiseIf_eq_error {ε : Type} {p : Prop} [Decidable p] {e e' : ε} :
    raiseIf p e = .error e' ↔ p ∧ e = e' := by
  unfold raiseIf
  by_cases h : p
  · rw [if_pos h, Except.error.injEq, and_iff_right h]
  · rw [if_neg h]
    exact ⟨nofun, fun hNot => absurd hNot.1 h⟩

/-- A check between two steps of a `do` block. -/
theorem throwIf_eq_ok {ε α : Type} {p : Prop} [Decidable p] {e : ε} {x : Except ε α} {a : α} :
    (if p then (do throw e; x) else x) = .ok a ↔ ¬ p ∧ x = .ok a := by
  by_cases h : p
  · simp [h, throw, throwThe, MonadExceptOf.throw, bind, Except.bind]
  · simp [h]

/-- Translating the error of a computation. -/
theorem mapError_eq_ok {δ : Type u} {x : Except ε α} {f : ε → δ} {a : α} :
    x.mapError f = .ok a ↔ x = .ok a := by
  cases x with
  | error e => simp [Except.mapError]
  | ok b => simp [Except.mapError]

/-- The result of a computation of which only that is known. -/
theorem eq_ok_of_toOption {x : Except ε α} {a : α} (h : x.toOption = some a) : x = .ok a := by
  cases x with
  | error e => cases h
  | ok b =>
      cases h
      rfl

/-- A loop succeeds exactly when it does on every item. -/
theorem forM_eq_ok {ε α : Type} {f : α → Except ε PUnit} : ∀ {xs : List α} {u : PUnit},
    xs.forM f = .ok u ↔ ∀ x ∈ xs, f x = .ok ()
  | [], _ => by simp [List.forM, pure, Except.pure]
  | x :: xs, u => by
      rw [List.forall_mem_cons, ← @forM_eq_ok _ _ _ xs u]
      show (f x >>= fun _ => xs.forM f) = _ ↔ _
      rw [bind_eq_ok]
      exact ⟨fun ⟨_, h, h'⟩ => ⟨h, h'⟩, fun ⟨h, h'⟩ => ⟨(), h, h'⟩⟩

section Loops

variable {δ γ κ : Type} {r : Except δ Bool}

/-- A search for an item that fails the test ends at the first item with another outcome than
`true`. -/
theorem allM_stops {f : γ → Except δ Bool} {xs : List γ} (hr : r ≠ .ok true) :
    xs.allM f = r ↔ ∃ before x after, xs = before ++ x :: after ∧ (∀ y ∈ before, f y = .ok true) ∧
      f x = r := by
  -- By induction on the list: the first element stops the loop, or the loop goes on with the
  -- others.
  induction xs with
  | nil =>
      refine iff_of_false (fun h => hr h.symm) ?_
      rintro ⟨before, x, after, hSplit, -⟩
      cases before <;> cases hSplit
  | cons y xs ih =>
      have hUnfold : (y :: xs).allM f = (f y >>= fun b => if b then xs.allM f else pure false) := by
        rw [List.allM]
        exact bind_congr (fun b => by cases b <;> rfl)
      rw [hUnfold]
      by_cases hTrue : f y = .ok true
      · rw [hTrue]
        refine ih.trans ⟨?_, ?_⟩
        · rintro ⟨before, x, after, rfl, hBefore, hx⟩
          exact ⟨y :: before, x, after, rfl, List.forall_mem_cons.2 ⟨hTrue, hBefore⟩, hx⟩
        · rintro ⟨before, x, after, hSplit, hBefore, hx⟩
          cases before with
          | nil =>
              cases hSplit
              exact absurd (hx.symm.trans hTrue) hr
          | cons z before =>
              cases hSplit
              exact ⟨before, x, after, rfl, fun w hw => hBefore w (List.mem_cons_of_mem _ hw), hx⟩
      · have hStop : (f y >>= fun b => if b then xs.allM f else pure false) = f y := by
          cases hy : f y with
          | error e => rfl
          | ok b =>
              cases b with
              | true => exact absurd hy hTrue
              | false => rfl
        rw [hStop]
        constructor
        · exact fun h => ⟨[], y, xs, rfl, by simp, h⟩
        · rintro ⟨before, x, after, hSplit, hBefore, hx⟩
          cases before with
          | nil =>
              cases hSplit
              exact hx
          | cons z before =>
              cases hSplit
              exact absurd (hBefore y List.mem_cons_self) hTrue

theorem allM_eq_true {f : γ → Except δ Bool} {xs : List γ} :
    xs.allM f = .ok true ↔ ∀ x ∈ xs, f x = .ok true := by
  induction xs with
  | nil => exact iff_of_true rfl nofun
  | cons x xs ih =>
      rw [List.forall_mem_cons, ← ih, List.allM, bind_eq_ok]
      constructor
      · rintro ⟨b, hx, h⟩
        cases b with
        | true => exact ⟨hx, h⟩
        | false => cases h
      · exact fun ⟨hx, h⟩ => ⟨true, hx, h⟩

/-- A search for an item that passes the test is a search for one that fails the opposite test. -/
theorem anyM_eq_allM {f : γ → Except δ Bool} {xs : List γ} :
    xs.anyM f = Bool.not <$> xs.allM (fun x => Bool.not <$> f x) := by
  induction xs with
  | nil => rfl
  | cons x xs ih =>
      rw [List.anyM, List.allM, ih]
      cases f x with
      | error e => rfl
      | ok b => cases b <;> rfl

theorem not_map_eq {x : Except δ Bool} : Bool.not <$> x = r ↔ x = Bool.not <$> r := by
  rcases x with e | a <;> rcases r with e' | b
  · exact Iff.rfl
  · exact iff_of_false nofun nofun
  · exact iff_of_false nofun nofun
  · cases a <;> cases b <;> simp [Functor.map, Except.map]

/-- A search for an item that passes the test ends at the first item with another outcome than
`false`. -/
theorem anyM_stops {f : γ → Except δ Bool} {xs : List γ} (hr : r ≠ .ok false) :
    xs.anyM f = r ↔ ∃ before x after, xs = before ++ x :: after ∧ (∀ y ∈ before, f y = .ok false) ∧
      f x = r := by
  have hNot : Bool.not <$> r ≠ .ok true := fun h => hr (not_map_eq.1 h)
  rw [anyM_eq_allM, not_map_eq, allM_stops hNot]
  have hTrue : (Bool.not <$> (Except.ok true : Except δ Bool)) = .ok false := rfl
  have hAgain : Bool.not <$> (Bool.not <$> r) = r := (not_map_eq.2 rfl)
  simp only [not_map_eq, hTrue, hAgain]

theorem anyM_eq_false {f : γ → Except δ Bool} {xs : List γ} :
    xs.anyM f = .ok false ↔ ∀ x ∈ xs, f x = .ok false := by
  have hFalse : (Bool.not <$> (Except.ok false : Except δ Bool)) = .ok true := rfl
  have hTrue : (Bool.not <$> (Except.ok true : Except δ Bool)) = .ok false := rfl
  rw [anyM_eq_allM, not_map_eq, hFalse, allM_eq_true]
  simp only [not_map_eq, hTrue]

/-- A loop with a state fails at the first item on which its body fails. -/
theorem foldlM_eq_error {f : κ → γ → Except δ κ} {xs : List γ} {s : κ} {e : δ} :
    xs.foldlM f s = .error e ↔ ∃ before x after t, xs = before ++ x :: after ∧
      before.foldlM f s = .ok t ∧
      f t x = .error e := by
  induction xs generalizing s with
  | nil =>
      refine iff_of_false nofun ?_
      rintro ⟨before, x, after, t, hSplit, -⟩
      cases before <;> cases hSplit
  | cons y xs ih =>
      rw [List.foldlM_cons, bind_eq_error]
      constructor
      · rintro (hHere | ⟨t, hy, h⟩)
        · exact ⟨[], y, xs, s, rfl, rfl, hHere⟩
        · obtain ⟨before, x, after, t', rfl, hBefore, hx⟩ := ih.1 h
          exact ⟨y :: before, x, after, t', rfl,
            List.foldlM_cons.trans (bind_eq_ok.2 ⟨t, hy, hBefore⟩), hx⟩
      · rintro ⟨before, x, after, t, hSplit, hBefore, hx⟩
        cases before with
        | nil =>
            cases hSplit
            cases hBefore
            exact .inl hx
        | cons z before =>
            cases hSplit
            rw [List.foldlM_cons] at hBefore
            obtain ⟨t', hz, hRest⟩ := bind_eq_ok.1 hBefore
            exact .inr ⟨t', hz, ih.2 ⟨before, x, after, t, rfl, hRest, hx⟩⟩

end Loops

/-- A traversal succeeds exactly when it does on every item. -/
theorem mapM_eq_ok {f : α → Except ε β} : ∀ {xs : List α} {ys : List β},
    xs.mapM f = .ok ys ↔ List.Forall₂ (fun x y => f x = .ok y) xs ys
  | [], ys => by
      rw [List.mapM_nil, List.forall₂_nil_left_iff, pure_eq_ok, eq_comm]
  | x :: xs, ys => by
      rw [List.mapM_cons, bind_eq_ok]
      constructor
      · rintro ⟨y, hy, hRest⟩
        obtain ⟨ys', hys', hEq⟩ := bind_eq_ok.1 hRest
        rw [pure_eq_ok] at hEq
        rw [← hEq]
        exact .cons hy (mapM_eq_ok.1 hys')
      · intro h
        cases h with
        | cons hy hys =>
            exact ⟨_, hy, bind_eq_ok.2 ⟨_, mapM_eq_ok.2 hys, rfl⟩⟩

/-- A traversal on every item of which the computation succeeds succeeds. -/
theorem exists_mapM_eq_ok {f : α → Except ε β} {xs : List α} (h : ∀ x ∈ xs, ∃ y, f x = .ok y) :
    ∃ ys, xs.mapM f = .ok ys := by
  induction xs with
  | nil => exact ⟨[], rfl⟩
  | cons x xs ih =>
      obtain ⟨⟨y, hy⟩, hRest⟩ := List.forall_mem_cons.1 h
      obtain ⟨ys, hys⟩ := ih hRest
      exact ⟨y :: ys, mapM_eq_ok.2 (.cons hy (mapM_eq_ok.1 hys))⟩

/-- A traversal that fails has failed on an item. -/
theorem exists_of_mapM_eq_error {f : α → Except ε β} {xs : List α} {e : ε}
    (h : xs.mapM f = .error e) :
    ∃ x ∈ xs, f x = .error e := by
  induction xs with
  | nil => cases h
  | cons x xs ih =>
      rw [List.mapM_cons] at h
      rcases bind_eq_error.1 h with hHead | ⟨y, -, hRest⟩
      · exact ⟨x, List.mem_cons_self, hHead⟩
      · rcases bind_eq_error.1 hRest with hTail | ⟨ys, -, hDone⟩
        · obtain ⟨x', hx', hError⟩ := ih hTail
          exact ⟨x', List.mem_cons_of_mem _ hx', hError⟩
        · cases hDone

/-- A loop of checks that fails has failed on an item. -/
theorem exists_of_forM_eq_error {ε α : Type} {f : α → Except ε PUnit} {xs : List α} {e : ε}
    (h : xs.forM f = .error e) : ∃ x ∈ xs, f x = .error e := by
  induction xs with
  | nil => cases h
  | cons x xs ih =>
      have hSteps : (f x >>= fun _ => xs.forM f) = .error e := h
      rcases bind_eq_error.1 hSteps with hHead | ⟨-, -, hRest⟩
      · exact ⟨x, List.mem_cons_self, hHead⟩
      · obtain ⟨x', hx', hError⟩ := ih hRest
        exact ⟨x', List.mem_cons_of_mem _ hx', hError⟩

/-- Traversing the items in another order gives the results in another order. -/
theorem mapM_perm {f : α → Except ε β} {xs xs' : List α} {ys : List β} (h : xs.mapM f = .ok ys)
    (hPerm : xs.Perm xs') : ∃ ys', xs'.mapM f = .ok ys' ∧ ys.Perm ys' := by
  obtain ⟨ys', hMatch, hResults⟩ := List.perm_comp_forall₂ hPerm.symm (mapM_eq_ok.1 h)
  exact ⟨ys', mapM_eq_ok.2 hMatch, hResults.symm⟩

/-- A traversal with two steps is two traversals. -/
theorem mapM_bind_eq_ok {γ : Type v} {f : α → Except ε β} {g : β → Except ε γ} {xs : List α}
    {zs : List γ} : xs.mapM (fun x => f x >>= g) = .ok zs ↔
      ∃ ys, xs.mapM f = .ok ys ∧ ys.mapM g = .ok zs := by
  simp only [mapM_eq_ok, bind_eq_ok]
  constructor
  · intro h
    induction h with
    | nil => exact ⟨[], .nil, .nil⟩
    | cons hHead _ ih =>
        obtain ⟨y, hf, hg⟩ := hHead
        obtain ⟨ys, hfs, hgs⟩ := ih
        exact ⟨y :: ys, .cons hf hfs, .cons hg hgs⟩
  · rintro ⟨ys, hfs, hgs⟩
    induction hfs generalizing zs with
    | nil => cases hgs; exact .nil
    | cons hf _ ih =>
        obtain ⟨z, rest, hg, hRest, rfl⟩ := List.forall₂_cons_left_iff.1 hgs
        exact .cons ⟨_, hf, hg⟩ (ih hRest)

theorem mapM_congr {f g : α → Except ε β} {xs : List α} (h : ∀ x ∈ xs, f x = g x) :
    xs.mapM f = xs.mapM g := by
  induction xs with
  | nil => rfl
  | cons x xs ih =>
      rw [List.mapM_cons, List.mapM_cons, h x List.mem_cons_self,
        ih (fun y hy => h y (List.mem_cons_of_mem _ hy))]

/-- A traversal ends with the first error. -/
theorem mapM_of_first_error {f : α → Except ε β} {before after : List α} {x : α} {e : ε}
    (hBefore : ∀ y ∈ before, ∃ z, f y = .ok z) (hx : f x = .error e) :
    (before ++ x :: after).mapM f = .error e := by
  induction before with
  | nil =>
      rw [List.nil_append, List.mapM_cons, hx]
      rfl
  | cons y before ih =>
      obtain ⟨⟨z, hz⟩, hRest⟩ := List.forall_mem_cons.1 hBefore
      rw [List.cons_append, List.mapM_cons, hz, ih hRest]
      rfl

/-- A traversal on whose items the computation is a function gives the list of its values. -/
theorem mapM_eq_map {f : α → Except ε β} {g : α → β} {xs : List α} (h : ∀ x ∈ xs, f x = .ok (g x)) :
    xs.mapM f = .ok (xs.map g) := by
  induction xs with
  | nil => rfl
  | cons x xs ih =>
      obtain ⟨hx, hxs⟩ := List.forall_mem_cons.1 h
      rw [List.mapM_cons, hx, ih hxs]
      rfl

end Except

namespace List

variable {α β γ : Type*}

/-- Two lists that match the same third list match each other. -/
theorem forall₂_common {R : α → γ → Prop} {S : β → γ → Prop} :
    ∀ {xs : List α} {ys : List β} {zs : List γ}, Forall₂ R xs zs → Forall₂ S ys zs →
      Forall₂ (fun x y => ∃ z, R x z ∧ S y z) xs ys
  | [], _, _, .nil, .nil => .nil
  | _ :: _, _, _, .cons hx hxs, .cons hy hys =>
      .cons ⟨_, hx, hy⟩ (forall₂_common hxs hys)

/-- Every item on the left has a partner on the right. -/
theorem Forall₂.exists_right {R : α → β → Prop} {xs : List α} {ys : List β}
    (h : Forall₂ R xs ys) {x : α} (hx : x ∈ xs) : ∃ y ∈ ys, R x y := by
  induction h with
  | nil => cases hx
  | cons hHead _ ih =>
      rcases mem_cons.1 hx with rfl | hx
      · exact ⟨_, mem_cons_self, hHead⟩
      · obtain ⟨y, hy, hR⟩ := ih hx
        exact ⟨y, mem_cons_of_mem _ hy, hR⟩

/-- Weakening a match, knowing where the items come from. -/
theorem Forall₂.imp_mem {R S : α → β → Prop} : ∀ {xs : List α} {ys : List β},
    Forall₂ R xs ys → (∀ x ∈ xs, ∀ y ∈ ys, R x y → S x y) → Forall₂ S xs ys
  | [], _, .nil, _ => .nil
  | _ :: _, _, .cons hHead hTail, h =>
      .cons (h _ mem_cons_self _ mem_cons_self hHead)
        (hTail.imp_mem (fun x hx y hy => h x (mem_cons_of_mem _ hx) y (mem_cons_of_mem _ hy)))

/-- Matches compose. -/
theorem Forall₂.trans' {R : α → β → Prop} {S : β → γ → Prop} :
    ∀ {xs : List α} {ys : List β} {zs : List γ}, Forall₂ R xs ys → Forall₂ S ys zs →
      Forall₂ (fun x z => ∃ y, R x y ∧ S y z) xs zs
  | _, _, _, .nil, .nil => .nil
  | _, _, _, .cons hx hxs, .cons hy hys => .cons ⟨_, hx, hy⟩ (hxs.trans' hys)

/-- A relation that is functional on the left list's items determines the right list. -/
theorem forall₂_unique {R S : α → β → Prop} : ∀ {xs : List α} {ys zs : List β},
    (∀ x ∈ xs, ∀ y z, R x y → S x z → y = z) → Forall₂ R xs ys → Forall₂ S xs zs → ys = zs
  | [], _, _, _, .nil, .nil => rfl
  | _ :: _, _, _, hUnique, .cons hy hys, .cons hz hzs => by
      rw [hUnique _ mem_cons_self _ _ hy hz,
        forall₂_unique (fun x hx => hUnique x (mem_cons_of_mem _ hx)) hys hzs]

end List

namespace Except

/-- Items with distinct results are distinct. -/
theorem nodup_of_mapM {ε α β : Type} {f : α → Except ε β} {xs : List α} {ys : List β}
    (h : xs.mapM f = .ok ys) (hDistinct : ys.Nodup) : xs.Nodup := by
  have hMatch := mapM_eq_ok.1 h
  clear h
  induction hMatch with
  | nil => exact List.nodup_nil
  | cons hHead hTail ih =>
      obtain ⟨hFresh, hRest⟩ := List.nodup_cons.1 hDistinct
      refine List.nodup_cons.2 ⟨fun hMem => ?_, ih hRest⟩
      obtain ⟨y, hy, hEq⟩ := hTail.exists_right hMem
      rw [hHead] at hEq
      cases hEq
      exact hFresh hy

end Except
