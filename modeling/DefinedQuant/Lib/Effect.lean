import Mathlib.Logic.Relation
import Mathlib.Tactic.Attr.Core

/-!
# Stateful computations that may raise

Rules for `EStateM`, the monad of programs that change a state and return or raise; a raised
exception does not undo a change. `Keeps R x` says that a run of `x` relates the state before to the
state after, however it ends. For a reflexive and transitive `R` it is closed under everything a
program is made of, so it is proved of the primitive steps and follows for a program by its shape.
The inversion lemmas take a run apart into the runs of its parts.
-/

namespace Effect

variable {ε σ α β : Type}

/-- The state in which a run ends. -/
def final : EStateM.Result ε σ α → σ
  | .ok _ s => s
  | .error _ s => s

/-- The state behind a result. -/
@[simp] theorem final_ok (a : α) (s : σ) : final (.ok a s : EStateM.Result ε σ α) = s := rfl

/-- The state behind an error. -/
@[simp] theorem final_error (e : ε) (s : σ) : final (.error e s : EStateM.Result ε σ α) = s := rfl

/-- The end of a run with a given outcome. -/
def ending : Except ε α → σ → EStateM.Result ε σ α
  | .ok a, s => .ok a s
  | .error e, s => .error e s

/-- Run a fallible pure computation, translating what it raises. -/
def lift {δ : Type} (wrap : δ → ε) : Except δ α → EStateM ε σ α
  | .ok a => pure a
  | .error e => throw (wrap e)

/-- `if p: raise e` -/
def raiseIf (p : Prop) [Decidable p] (e : ε) : EStateM ε σ Unit := if p then throw e else pure ()

/-- `try: x finally: cleanup`. What the cleanup raises replaces what `x` did. -/
def finallyDo (x : EStateM ε σ α) (cleanup : EStateM ε σ Unit) : EStateM ε σ α := fun s =>
  match x s with
  | .ok a s' =>
      match cleanup s' with
      | .ok _ s'' => .ok a s''
      | .error e s'' => .error e s''
  | .error e s' =>
      match cleanup s' with
      | .ok _ s'' => .error e s''
      | .error e' s'' => .error e' s''

/-- `try: x except Exception as e: handler(e)` -/
def rescue (x : EStateM ε σ α) (handler : ε → EStateM ε σ α) : EStateM ε σ α := fun s =>
  match x s with
  | .ok a s' => .ok a s'
  | .error e s' => handler e s'

/-! ## Runs -/

/-- Throwing leaves the state as it is. -/
theorem run_throw (e : ε) (s : σ) : (throw e : EStateM ε σ α).run s = .error e s := rfl

/-- The second step starts where the first has ended. -/
theorem run_bind (x : EStateM ε σ α) (f : α → EStateM ε σ β) (s : σ) :
    (x >>= f).run s = match x.run s with
      | .ok a s' => (f a).run s'
      | .error e s' => .error e s' := rfl

/-- A handler goes on from the state of the error. -/
theorem run_rescue (x : EStateM ε σ α) (handler : ε → EStateM ε σ α) (s : σ) :
    (rescue x handler).run s = match x.run s with
      | .ok a s' => .ok a s'
      | .error e s' => (handler e).run s' := rfl

/-- The check passes exactly when the condition fails, and changes nothing. -/
theorem run_raiseIf_eq_ok {p : Prop} [Decidable p] {e : ε} {s s' : σ} {u : Unit} :
    (raiseIf p e : EStateM ε σ Unit).run s = .ok u s' ↔ ¬ p ∧ s' = s := by
  unfold raiseIf
  by_cases h : p
  · simp [h, run_throw]
  · simp [h, eq_comm]

/-- A check that raises leaves the state as it is. -/
theorem run_raiseIf_eq_error {p : Prop} [Decidable p] {e e' : ε} {s s' : σ} :
    (raiseIf p e : EStateM ε σ Unit).run s = .error e' s' ↔ p ∧ e' = e ∧ s' = s := by
  unfold raiseIf
  by_cases h : p
  · simp [h, run_throw, eq_comm]
  · simp [h]

/-- A pure computation leaves the state as it is. -/
theorem run_lift_eq_ok {δ : Type} {wrap : δ → ε} {x : Except δ α} {s s' : σ} {a : α} :
    (lift wrap x : EStateM ε σ α).run s = .ok a s' ↔ x = .ok a ∧ s' = s := by
  cases x with
  | ok b => simp [lift, eq_comm]
  | error e => simp [lift, run_throw]

/-- A run of two steps returns when both do. -/
theorem run_bind_eq_ok {x : EStateM ε σ α} {f : α → EStateM ε σ β} {s s' : σ} {b : β} :
    (x >>= f).run s = .ok b s' ↔ ∃ a t, x.run s = .ok a t ∧ (f a).run t = .ok b s' := by
  rw [run_bind]
  cases h : x.run s with
  | ok a t =>
      constructor
      · intro hRun
        exact ⟨a, t, rfl, hRun⟩
      · rintro ⟨_, _, ⟨⟩, hRun⟩
        exact hRun
  | error e t => simp

/-- A run of two steps raises in the first step or in the second. -/
theorem run_bind_eq_error {x : EStateM ε σ α} {f : α → EStateM ε σ β} {s s' : σ} {e : ε} :
    (x >>= f).run s = .error e s' ↔
      x.run s = .error e s' ∨ ∃ a t, x.run s = .ok a t ∧ (f a).run t = .error e s' := by
  rw [run_bind]
  cases h : x.run s with
  | ok a t =>
      constructor
      · intro hRun
        exact .inr ⟨a, t, rfl, hRun⟩
      · rintro (⟨⟨⟩⟩ | ⟨_, _, ⟨⟩, hRun⟩)
        exact hRun
  | error e t => simp

/-- Behind a step that returned. -/
theorem run_bind_of_ok {x : EStateM ε σ α} {f : α → EStateM ε σ β} {s t : σ} {a : α}
    (h : x.run s = .ok a t) : (x >>= f).run s = (f a).run t := by
  rw [run_bind, h]

-- Not by `rfl` itself: as a definitional step of `simp` it would have the kernel run both sides.
/-- Reading the state and going on with it. -/
theorem run_get_bind (f : σ → EStateM ε σ β) (s : σ) :
    ((get : EStateM ε σ σ) >>= f).run s = (f s).run s := run_bind_of_ok rfl

/-- Behind a check that passed. -/
theorem run_raiseIf_bind_eq_ok {p : Prop} [Decidable p] {e : ε} {f : Unit → EStateM ε σ β}
    {s s' : σ} {b : β} : (raiseIf p e >>= f).run s = .ok b s' ↔ ¬ p ∧ (f ()).run s = .ok b s' := by
  rw [run_bind]
  unfold raiseIf
  by_cases h : p
  · simp [h, run_throw]
  · simp [h]

/-- A check that does not pass. -/
theorem run_raiseIf_bind_of_pos {p : Prop} [Decidable p] {e : ε} {f : Unit → EStateM ε σ β} {s : σ}
    (h : p) : (raiseIf p e >>= f).run s = .error e s := by
  rw [run_bind, raiseIf, if_pos h]
  rfl

/-- A check that passes. -/
theorem run_raiseIf_bind_of_neg {p : Prop} [Decidable p] {e : ε} {f : Unit → EStateM ε σ β} {s : σ}
    (h : ¬ p) : (raiseIf p e >>= f).run s = (f ()).run s := by
  rw [run_bind, raiseIf, if_neg h]
  rfl

/-- A step whose result is known. -/
theorem run_lift_bind_of_ok {δ : Type} {wrap : δ → ε} {x : Except δ α} {f : α → EStateM ε σ β}
    {s : σ} {a : α} (h : x = .ok a) : (lift wrap x >>= f).run s = (f a).run s := by
  rw [run_bind, h]
  rfl

/-- Behind a pure computation that returned. -/
theorem run_lift_bind_eq_ok {δ : Type} {wrap : δ → ε} {x : Except δ α} {f : α → EStateM ε σ β}
    {s s' : σ} {b : β} :
    (lift wrap x >>= f).run s = .ok b s' ↔ ∃ a, x = .ok a ∧ (f a).run s = .ok b s' := by
  rw [run_bind]
  cases x with
  | ok a => simp [lift]
  | error e => simp [lift, run_throw]

/-- A rescued computation returns where it returns by itself or its handler does. -/
theorem run_rescue_eq_ok {x : EStateM ε σ α} {handler : ε → EStateM ε σ α} {s s' : σ} {a : α} :
    (rescue x handler).run s = .ok a s' ↔
      x.run s = .ok a s' ∨ ∃ e t, x.run s = .error e t ∧ (handler e).run t = .ok a s' := by
  rw [run_rescue]
  cases h : x.run s with
  | ok a t => simp
  | error e t =>
      constructor
      · intro hRun
        exact .inr ⟨e, t, rfl, hRun⟩
      · rintro (⟨⟨⟩⟩ | ⟨_, _, ⟨⟩, hRun⟩)
        exact hRun

/-- It raises where the handler raises. -/
theorem run_rescue_eq_error {x : EStateM ε σ α} {handler : ε → EStateM ε σ α} {s s' : σ} {e : ε} :
    (rescue x handler).run s = .error e s' ↔
      ∃ e' t, x.run s = .error e' t ∧ (handler e').run t = .error e s' := by
  rw [run_rescue]
  cases h : x.run s with
  | ok a t => simp
  | error e t =>
      constructor
      · intro hRun
        exact ⟨e, t, rfl, hRun⟩
      · rintro ⟨_, _, ⟨⟩, hRun⟩
        exact hRun

/-- A cleanup that always returns keeps the outcome of the program before it. -/
theorem run_finallyDo_eq_ok {x : EStateM ε σ α} {cleanup : EStateM ε σ Unit} {s s' : σ} {a : α}
    (h : (finallyDo x cleanup).run s = .ok a s') :
    ∃ t, x.run s = .ok a t ∧ cleanup.run t = .ok () s' := by
  simp only [EStateM.run, finallyDo] at h ⊢
  cases hx : x s with
  | ok b t =>
      rw [hx] at h
      cases hc : cleanup t with
      | ok u t' =>
          simp only [hc, EStateM.Result.ok.injEq] at h
          exact ⟨t, by rw [h.1], by rw [hc, h.2]⟩
      | error e t' => simp only [hc, reduceCtorEq] at h
  | error e t =>
      rw [hx] at h
      cases hc : cleanup t with
      | ok u t' => simp only [hc, reduceCtorEq] at h
      | error e t' => simp only [hc, reduceCtorEq] at h

/-- A cleanup that returns leaves the result as it is. -/
theorem run_finallyDo_of_ok {x : EStateM ε σ α} {cleanup : EStateM ε σ Unit} {s t s' : σ} {a : α}
    (hx : x.run s = .ok a t) (hCleanup : cleanup.run t = .ok () s') :
    (finallyDo x cleanup).run s = .ok a s' := by
  simp only [EStateM.run] at hx hCleanup
  simp only [EStateM.run, finallyDo, hx, hCleanup]

/-- A program with a cleanup raises when the program does or when the cleanup does. -/
theorem run_finallyDo_eq_error {x : EStateM ε σ α} {cleanup : EStateM ε σ Unit} {s s' : σ} {e : ε}
    (h : (finallyDo x cleanup).run s = .error e s') :
    (∃ t, x.run s = .error e t ∧ cleanup.run t = .ok () s') ∨
      ∃ t, final (x.run s) = t ∧ cleanup.run t = .error e s' := by
  simp only [EStateM.run, finallyDo] at h ⊢
  cases hx : x s with
  | ok b t =>
      rw [hx] at h
      cases hc : cleanup t with
      | ok u t' => simp only [hc, reduceCtorEq] at h
      | error e' t' =>
          simp only [hc, EStateM.Result.error.injEq] at h
          exact .inr ⟨t, rfl, by rw [hc, h.1, h.2]⟩
  | error e' t =>
      rw [hx] at h
      cases hc : cleanup t with
      | ok u t' =>
          simp only [hc, EStateM.Result.error.injEq] at h
          exact .inl ⟨t, by rw [h.1], by rw [hc, h.2]⟩
      | error e'' t' =>
          simp only [hc, EStateM.Result.error.injEq] at h
          exact .inr ⟨t, rfl, by rw [hc, h.1, h.2]⟩

/-! ## Relations between the states before and after -/

/-- A run relates the state before to the state after, whether it returns or raises. -/
def Keeps (R : σ → σ → Prop) (x : EStateM ε σ α) : Prop := ∀ s, R s (final (x.run s))

section Keeps

variable {R : σ → σ → Prop}

/-- The relation, for a run that returns. -/
theorem Keeps.ok {x : EStateM ε σ α} (h : Keeps R x) {s s' : σ} {a : α}
    (hRun : x.run s = .ok a s') : R s s' := by
  have hFinal := h s
  rwa [hRun] at hFinal

/-- The relation, for a run that raises. -/
theorem Keeps.error {x : EStateM ε σ α} (h : Keeps R x) {s s' : σ} {e : ε}
    (hRun : x.run s = .error e s') : R s s' := by
  have hFinal := h s
  rwa [hRun] at hFinal

/-- A weaker relation is kept as well. -/
theorem Keeps.mono {S : σ → σ → Prop} {x : EStateM ε σ α} (h : Keeps R x)
    (hSub : ∀ s s', R s s' → S s s') : Keeps S x := fun s => hSub _ _ (h s)

/-- Returning changes nothing. -/
theorem keeps_pure [Std.Refl R] (a : α) : Keeps R (pure a : EStateM ε σ α) :=
  fun s => Std.Refl.refl s

/-- Throwing changes nothing. -/
theorem keeps_throw [Std.Refl R] (e : ε) : Keeps R (throw e : EStateM ε σ α) :=
  fun s => Std.Refl.refl s

/-- Reading the state changes nothing. -/
theorem keeps_get [Std.Refl R] : Keeps R (get : EStateM ε σ σ) := fun s => Std.Refl.refl s

/-- A pure computation changes nothing. -/
theorem keeps_lift [Std.Refl R] {δ : Type} (wrap : δ → ε) (x : Except δ α) :
    Keeps R (lift wrap x : EStateM ε σ α) := by
  cases x with
  | ok a => exact keeps_pure a
  | error e => exact keeps_throw _

/-- A check changes nothing. -/
theorem keeps_raiseIf [Std.Refl R] (p : Prop) [Decidable p] (e : ε) :
    Keeps R (raiseIf p e : EStateM ε σ Unit) := by
  unfold raiseIf
  by_cases h : p
  · rw [if_pos h]
    exact keeps_throw e
  · rw [if_neg h]
    exact keeps_pure ()

/-- Two steps keep a transitive relation that each of them keeps. -/
theorem keeps_bind [IsTrans σ R] {x : EStateM ε σ α} {f : α → EStateM ε σ β}
    (hx : Keeps R x) (hf : ∀ a, Keeps R (f a)) : Keeps R (x >>= f) := by
  intro s
  rw [run_bind]
  cases h : x.run s with
  | ok a t => exact IsTrans.trans _ _ _ (hx.ok h) (hf a t)
  | error e t => exact hx.error h

/-- A handler is a second step on the way of errors. -/
theorem keeps_rescue [IsTrans σ R] {x : EStateM ε σ α} {handler : ε → EStateM ε σ α}
    (hx : Keeps R x) (hHandler : ∀ e, Keeps R (handler e)) : Keeps R (rescue x handler) := by
  intro s
  rw [run_rescue]
  cases h : x.run s with
  | ok a t => exact hx.ok h
  | error e t => exact IsTrans.trans _ _ _ (hx.error h) (hHandler e t)

/-- A cleanup is a second step on both ways. -/
theorem keeps_finallyDo [IsTrans σ R] {x : EStateM ε σ α} {cleanup : EStateM ε σ Unit}
    (hx : Keeps R x) (hCleanup : Keeps R cleanup) : Keeps R (finallyDo x cleanup) := by
  intro s
  cases hRun : (finallyDo x cleanup).run s with
  | ok a s' =>
      obtain ⟨t, hx', hc⟩ := run_finallyDo_eq_ok hRun
      exact IsTrans.trans _ _ _ (hx.ok hx') (hCleanup.ok hc)
  | error e s' =>
      rcases run_finallyDo_eq_error hRun with ⟨t, hx', hc⟩ | ⟨t, ht, hc⟩
      · exact IsTrans.trans _ _ _ (hx.error hx') (hCleanup.ok hc)
      · have hFirst := hx s
        rw [ht] at hFirst
        exact IsTrans.trans _ _ _ hFirst (hCleanup.error hc)

/-- A change of the state has to respect the relation everywhere. -/
theorem keeps_modify {f : σ → σ} (h : ∀ s, R s (f s)) :
    Keeps R (modify f : EStateM ε σ PUnit) := fun s => h s

/-- Each branch has to keep the relation where it is taken. -/
theorem keeps_ite {p : Prop} [Decidable p] {x y : EStateM ε σ α} (hx : p → Keeps R x)
    (hy : ¬ p → Keeps R y) : Keeps R (if p then x else y) := by
  by_cases h : p
  · rw [if_pos h]
    exact hx h
  · rw [if_neg h]
    exact hy h

end Keeps

/-! ## Relations at an exception -/

/-- A run that raises relates the state before to the state after. -/
def OnError (R : σ → σ → Prop) (x : EStateM ε σ α) : Prop :=
  ∀ s e s', x.run s = .error e s' → R s s'

section OnError

variable {R : σ → σ → Prop}

/-- What is kept always is kept on errors. -/
theorem Keeps.onError {x : EStateM ε σ α} (h : Keeps R x) : OnError R x :=
  fun _ _ _ hRun => h.error hRun

/-- The first step keeps the relation, the second does when it raises. -/
theorem onError_bind [IsTrans σ R] {x : EStateM ε σ α} {f : α → EStateM ε σ β}
    (hx : Keeps R x) (hf : ∀ a, OnError R (f a)) : OnError R (x >>= f) := by
  intro s e s' hRun
  rcases run_bind_eq_error.1 hRun with hRun | ⟨a, t, hFirst, hRun⟩
  · exact hx.error hRun
  · exact IsTrans.trans _ _ _ (hx.ok hFirst) (hf a _ _ _ hRun)

/-- Behind a pure computation, what it returned is known. -/
theorem onError_lift_bind [Std.Refl R] {δ : Type} {wrap : δ → ε} {x : Except δ α}
    {f : α → EStateM ε σ β} (hf : ∀ a, x = .ok a → OnError R (f a)) :
    OnError R (lift wrap x >>= f) := by
  cases x with
  | ok a => exact hf a rfl
  | error e =>
      intro s e' s' hRun
      cases hRun
      exact Std.Refl.refl s

/-- Each branch has to keep the relation on its errors. -/
theorem onError_ite {p : Prop} [Decidable p] {x y : EStateM ε σ α} (hx : p → OnError R x)
    (hy : ¬ p → OnError R y) : OnError R (if p then x else y) := by
  by_cases h : p
  · rw [if_pos h]
    exact hx h
  · rw [if_neg h]
    exact hy h

/-- With a cleanup that never raises, only the program before it can. -/
theorem onError_finallyDo [IsTrans σ R] {x : EStateM ε σ α} {cleanup : EStateM ε σ Unit}
    (hx : OnError R x) (hCleanup : Keeps R cleanup)
    (hReturns : ∀ s, ∃ s', cleanup.run s = .ok () s') : OnError R (finallyDo x cleanup) := by
  intro s e s' hRun
  rcases run_finallyDo_eq_error hRun with ⟨t, hFirst, hRun⟩ | ⟨t, -, hRun⟩
  · exact IsTrans.trans _ _ _ (hx _ _ _ hFirst) (hCleanup.ok hRun)
  · obtain ⟨t', ht'⟩ := hReturns t
    rw [ht'] at hRun
    cases hRun

end OnError

/-! ## Programs that never raise -/

/-- Every run returns. -/
def Returns (x : EStateM ε σ α) : Prop := ∀ s, ∃ a s', x.run s = .ok a s'

/-- Returning returns. -/
theorem returns_pure (a : α) : Returns (pure a : EStateM ε σ α) := fun s => ⟨a, s, rfl⟩

/-- Two steps return where both do. -/
theorem returns_bind {x : EStateM ε σ α} {f : α → EStateM ε σ β} (hx : Returns x)
    (hf : ∀ a, Returns (f a)) : Returns (x >>= f) := by
  intro s
  obtain ⟨a, t, hFirst⟩ := hx s
  obtain ⟨b, s', hSecond⟩ := hf a t
  exact ⟨b, s', run_bind_eq_ok.2 ⟨a, t, hFirst, hSecond⟩⟩

/-- Both branches have to return. -/
theorem returns_ite {p : Prop} [Decidable p] {x y : EStateM ε σ α} (hx : Returns x)
    (hy : Returns y) : Returns (if p then x else y) := by
  by_cases h : p
  · rwa [if_pos h]
  · rwa [if_neg h]

/-! ## What a program raises -/

/-- Every exception that a run raises satisfies `P`. -/
def Raises (P : ε → Prop) (x : EStateM ε σ α) : Prop := ∀ s e s', x.run s = .error e s' → P e

section Raises

variable {P : ε → Prop}

/-- What always returns raises nothing that is not allowed. -/
theorem Returns.raises {x : EStateM ε σ α} (h : Returns x) : Raises P x := by
  intro s e s' hRun
  obtain ⟨a, t, hReturn⟩ := h s
  rw [hReturn] at hRun
  cases hRun

/-- Throwing raises its error. -/
theorem raises_throw {e : ε} (h : P e) : Raises P (throw e : EStateM ε σ α) := by
  intro s e' s' hRun
  cases hRun
  exact h

/-- Two steps raise what one of them raises. -/
theorem raises_bind {x : EStateM ε σ α} {f : α → EStateM ε σ β} (hx : Raises P x)
    (hf : ∀ a, Raises P (f a)) : Raises P (x >>= f) := by
  intro s e s' hRun
  rcases run_bind_eq_error.1 hRun with hRun | ⟨a, t, -, hRun⟩
  · exact hx _ _ _ hRun
  · exact hf a _ _ _ hRun

/-- A pure computation raises its wrapped errors. -/
theorem raises_lift {δ : Type} {wrap : δ → ε} {x : Except δ α}
    (h : ∀ e, x = .error e → P (wrap e)) :
    Raises P (lift wrap x : EStateM ε σ α) := by
  cases x with
  | ok a => exact (returns_pure a).raises
  | error e => exact raises_throw (h e rfl)

end Raises

/-! ## Relations with an exception made for some exceptions -/

/-- A run relates the state before to the state after, unless it raises one of the exempt
exceptions. -/
def KeepsUnless (exempt : ε → Prop) (R : σ → σ → Prop) (x : EStateM ε σ α) : Prop :=
  (∀ s a s', x.run s = .ok a s' → R s s') ∧
    ∀ s e s', x.run s = .error e s' → ¬ exempt e → R s s'

section KeepsUnless

variable {exempt : ε → Prop} {R : σ → σ → Prop}

/-- What is kept always is kept unless something is raised. -/
theorem Keeps.unless {x : EStateM ε σ α} (h : Keeps R x) : KeepsUnless exempt R x :=
  ⟨fun _ _ _ hRun => h.ok hRun, fun _ _ _ hRun _ => h.error hRun⟩

/-- Behind a step that returned. -/
theorem keepsUnless_bind_of_ok [IsTrans σ R] {x : EStateM ε σ α} {f : α → EStateM ε σ β}
    (hx : KeepsUnless exempt R x) (hf : ∀ s a s', x.run s = .ok a s' → KeepsUnless exempt R (f a)) :
    KeepsUnless exempt R (x >>= f) := by
  constructor
  · intro s b s' hRun
    obtain ⟨a, t, hFirst, hSecond⟩ := run_bind_eq_ok.1 hRun
    exact IsTrans.trans _ _ _ (hx.1 _ _ _ hFirst) ((hf _ _ _ hFirst).1 _ _ _ hSecond)
  · intro s e s' hRun he
    rcases run_bind_eq_error.1 hRun with hFirst | ⟨a, t, hFirst, hSecond⟩
    · exact hx.2 _ _ _ hFirst he
    · exact IsTrans.trans _ _ _ (hx.1 _ _ _ hFirst) ((hf _ _ _ hFirst).2 _ _ _ hSecond he)

/-- An exempt error of the first step ends both. -/
theorem keepsUnless_bind [IsTrans σ R] {x : EStateM ε σ α} {f : α → EStateM ε σ β}
    (hx : KeepsUnless exempt R x) (hf : ∀ a, KeepsUnless exempt R (f a)) :
    KeepsUnless exempt R (x >>= f) := keepsUnless_bind_of_ok hx (fun _ a _ _ => hf a)

/-- Behind a pure computation, what it returned is known. -/
theorem keepsUnless_lift_bind [Std.Refl R] {δ : Type} {wrap : δ → ε} {x : Except δ α}
    {f : α → EStateM ε σ β} (hf : ∀ a, x = .ok a → KeepsUnless exempt R (f a)) :
    KeepsUnless exempt R (lift wrap x >>= f) := by
  cases x with
  | ok a => exact hf a rfl
  | error e => exact (keeps_throw (wrap e)).unless

/-- Each branch has to keep the relation unless it raises an exempt error. -/
theorem keepsUnless_ite {p : Prop} [Decidable p] {x y : EStateM ε σ α}
    (hx : p → KeepsUnless exempt R x) (hy : ¬ p → KeepsUnless exempt R y) :
    KeepsUnless exempt R (if p then x else y) := by
  by_cases h : p
  · rw [if_pos h]
    exact hx h
  · rw [if_neg h]
    exact hy h

/-- A handler that passes exempt exceptions on. -/
theorem keepsUnless_rescue [IsTrans σ R] {x : EStateM ε σ α} {handler : ε → EStateM ε σ α}
    (hx : KeepsUnless exempt R x) (hHandler : ∀ e, Keeps R (handler e))
    (hPass : ∀ e s, exempt e → ∃ e' s', (handler e).run s = .error e' s' ∧ exempt e') :
    KeepsUnless exempt R (rescue x handler) := by
  constructor
  · intro s a s' hRun
    rcases run_rescue_eq_ok.1 hRun with hFirst | ⟨e, t, hFirst, hSecond⟩
    · exact hx.1 _ _ _ hFirst
    · refine IsTrans.trans _ _ _ (hx.2 _ _ _ hFirst fun he => ?_) ((hHandler e).ok hSecond)
      obtain ⟨e', s'', hError, -⟩ := hPass e t he
      rw [hError] at hSecond
      cases hSecond
  · intro s e' s' hRun he'
    obtain ⟨e, t, hFirst, hSecond⟩ := run_rescue_eq_error.1 hRun
    refine IsTrans.trans _ _ _ (hx.2 _ _ _ hFirst fun he => ?_) ((hHandler e).error hSecond)
    obtain ⟨e'', s'', hError, he''⟩ := hPass e t he
    rw [hError] at hSecond
    cases hSecond
    exact he' he''

/-- A handler that raises nothing but exempt exceptions. -/
theorem keepsUnless_rescue_exempt {x : EStateM ε σ α} {handler : ε → EStateM ε σ α}
    (hx : ∀ s a s', x.run s = .ok a s' → R s s')
    (hHandler : ∀ e s, (∀ a s', (handler e).run s ≠ .ok a s') ∧
      ∀ e' s', (handler e).run s = .error e' s' → exempt e') :
    KeepsUnless exempt R (rescue x handler) := by
  constructor
  · intro s a s' hRun
    rcases run_rescue_eq_ok.1 hRun with hFirst | ⟨e, t, -, hSecond⟩
    · exact hx _ _ _ hFirst
    · exact absurd hSecond ((hHandler e t).1 a s')
  · intro s e' s' hRun he'
    obtain ⟨e, t, -, hSecond⟩ := run_rescue_eq_error.1 hRun
    exact absurd ((hHandler e t).2 e' s' hSecond) he'

/-- With a cleanup that never raises, only the program before it can. -/
theorem keepsUnless_finallyDo [IsTrans σ R] {x : EStateM ε σ α} {cleanup : EStateM ε σ Unit}
    (hx : KeepsUnless exempt R x) (hCleanup : Keeps R cleanup)
    (hReturns : ∀ s, ∃ s', cleanup.run s = .ok () s') :
    KeepsUnless exempt R (finallyDo x cleanup) := by
  constructor
  · intro s a s' hRun
    obtain ⟨t, hFirst, hLast⟩ := run_finallyDo_eq_ok hRun
    exact IsTrans.trans _ _ _ (hx.1 _ _ _ hFirst) (hCleanup.ok hLast)
  · intro s e s' hRun he
    rcases run_finallyDo_eq_error hRun with ⟨t, hFirst, hLast⟩ | ⟨t, -, hLast⟩
    · exact IsTrans.trans _ _ _ (hx.2 _ _ _ hFirst he) (hCleanup.ok hLast)
    · obtain ⟨t', hReturn⟩ := hReturns t
      rw [hReturn] at hLast
      cases hLast

end KeepsUnless

end Effect
