import DefinedQuant.Lib.Effect
import DefinedQuant.Lib.Except

/-!
# Programs that only ask

A `Probe Q ε α` looks at its surroundings through the queries `Q` and changes nothing. An error of a
query ends the program, after a translation; so what a program returns depends on the answers alone.
`replay` runs a program against fixed answers, `perform` against a world that answers, fails and
moves on between two queries. `perform_eq_replay` says when the two agree, and `replay_of_perform`
that a program which returns although queries may fail has returned what it would have without
failures.
-/

/-- A program over the queries `Q`. -/
inductive Probe (Q : Type → Type) (ε α : Type) : Type 1 where
  | done (a : α)
  | fail (e : ε)
  | ask {γ : Type} (q : Q γ) (wrap : ε → ε) (next : γ → Probe Q ε α)

namespace Probe

variable {Q : Type → Type} {ε σ α β γ δ : Type}

/-- Sequencing. -/
def bind : Probe Q ε α → (α → Probe Q ε β) → Probe Q ε β
  | .done a, f => f a
  | .fail e, _ => .fail e
  | .ask q wrap next, f => .ask q wrap (fun c => (next c).bind f)

instance : Monad (Probe Q ε) where
  pure := .done
  bind := .bind

/-- `try: ... except E as e: raise f(e)` -/
def mapError (f : ε → ε) : Probe Q ε α → Probe Q ε α
  | .done a => .done a
  | .fail e => .fail (f e)
  | .ask q wrap next => .ask q (fun e => f (wrap e)) (fun c => (next c).mapError f)

/-- One query. -/
def query (q : Q α) : Probe Q ε α := .ask q id .done

/-- A fallible pure computation. -/
def lift (wrap : δ → ε) : Except δ α → Probe Q ε α
  | .ok a => .done a
  | .error e => .fail (wrap e)

/-! ## Against fixed answers -/

/-- Run a program against fixed answers. -/
def replay (answer : ∀ {γ : Type}, Q γ → Except ε γ) : Probe Q ε α → Except ε α
  | .done a => .ok a
  | .fail e => .error e
  | .ask q wrap next =>
      match answer q with
      | .ok c => (next c).replay answer
      | .error e => .error (wrap e)

section Replay

variable {answer : ∀ {γ : Type}, Q γ → Except ε γ}

/-- A program that asks nothing answers its value. -/
@[simp] theorem replay_pure (a : α) : (pure a : Probe Q ε α).replay answer = .ok a := rfl

/-- A program that fails, fails under every answer. -/
@[simp] theorem replay_fail (e : ε) : (fail e : Probe Q ε α).replay answer = .error e := rfl

/-- A single question gets its answer. -/
@[simp] theorem replay_query (q : Q α) : (query q : Probe Q ε α).replay answer = answer q := by
  simp only [query, replay]
  cases answer q <;> rfl

/-- A pure computation is replayed with its error wrapped. -/
@[simp] theorem replay_lift (wrap : δ → ε) (x : Except δ α) :
    (lift wrap x : Probe Q ε α).replay answer = x.mapError wrap := by
  cases x <;> rfl

/-- Two programs in a row are replayed in a row. -/
@[simp] theorem replay_bind (p : Probe Q ε α) (f : α → Probe Q ε β) :
    (p >>= f).replay answer = p.replay answer >>= fun a => (f a).replay answer := by
  show (p.bind f).replay answer = _
  induction p with
  | done a => rfl
  | fail e => rfl
  | ask q wrap next ih =>
      simp only [bind, replay]
      cases answer q with
      | ok c => exact ih c
      | error e => rfl

/-- Renaming the error commutes with replaying. -/
@[simp] theorem replay_mapError (f : ε → ε) (p : Probe Q ε α) :
    (p.mapError f).replay answer = (p.replay answer).mapError f := by
  induction p with
  | done a => rfl
  | fail e => rfl
  | ask q wrap next ih =>
      simp only [mapError, replay]
      cases answer q with
      | ok c => exact ih c
      | error e => rfl

end Replay

/-! ## Against a world -/

/-- Run a program in a world that answers. -/
def perform (act : ∀ {γ : Type}, Q γ → EStateM ε σ γ) : Probe Q ε α → EStateM ε σ α
  | .done a => pure a
  | .fail e => throw e
  | .ask q wrap next => fun s =>
      match act q s with
      | .ok c s' => (next c).perform act s'
      | .error e s' => .error (wrap e) s'

section Perform

variable {act : ∀ {γ : Type}, Q γ → EStateM ε σ γ} {answer : ∀ {γ : Type}, Q γ → Except ε γ}

/-- A question is put to the world, and its answer handed on. -/
theorem perform_ask (q : Q γ) (wrap : ε → ε) (next : γ → Probe Q ε α) (s : σ) :
    (perform act (.ask q wrap next)).run s = match (act q).run s with
      | .ok c s' => (perform act (next c)).run s'
      | .error e s' => .error (wrap e) s' := by
  simp only [perform, EStateM.run]

/-- Two programs in a row are performed in a row. -/
theorem perform_bind (p : Probe Q ε α) (f : α → Probe Q ε β) :
    perform act (p >>= f) = perform act p >>= fun a => perform act (f a) := by
  show perform act (p.bind f) = _
  induction p with
  | done a => rfl
  | fail e => rfl
  | ask q wrap next ih =>
      funext s
      show (perform act (.ask q wrap fun c => (next c).bind f)).run s
        = (perform act (.ask q wrap next) >>= fun a => perform act (f a)).run s
      rw [perform_ask, Effect.run_bind, perform_ask]
      cases (act q).run s with
      | ok c s' => exact congrFun (ih c) s'
      | error e s' => rfl

/-- A program keeps what every query keeps. -/
theorem keeps_perform {R : σ → σ → Prop} [Std.Refl R] [IsTrans σ R]
    (h : ∀ {γ : Type} (q : Q γ), Effect.Keeps R (act q)) (p : Probe Q ε α) :
    Effect.Keeps R (perform act p) := by
  induction p with
  | done a => exact Effect.keeps_pure a
  | fail e => exact Effect.keeps_throw e
  | ask q wrap next ih =>
      intro s
      rw [perform_ask]
      cases hq : (act q).run s with
      | ok c s' => exact IsTrans.trans _ _ _ ((h q).ok hq) (ih c s')
      | error e s' => exact (h q).error hq

/-- In a world that answers every query with the fixed answer, a run is the replay. -/
theorem perform_eq_replay {Inv : σ → Prop}
    (h : ∀ {γ : Type} (q : Q γ) (s : σ), Inv s →
      ∃ s', Inv s' ∧ (act q).run s = Effect.ending (answer q) s')
    (p : Probe Q ε α) : ∀ s, Inv s →
      ∃ s', Inv s' ∧ (perform act p).run s = Effect.ending (p.replay answer) s' := by
  induction p with
  | done a => exact fun s hs => ⟨s, hs, rfl⟩
  | fail e => exact fun s hs => ⟨s, hs, rfl⟩
  | ask q wrap next ih =>
      intro s hs
      obtain ⟨s', hs', hq⟩ := h q s hs
      rw [perform_ask, hq]
      simp only [replay]
      cases answer q with
      | ok c => exact ih c s' hs'
      | error e => exact ⟨s', hs', rfl⟩

/-- In a world whose queries fail or give the fixed answer, a run that returns is the replay. -/
theorem replay_of_perform {Inv : σ → Prop}
    (h : ∀ {γ : Type} (q : Q γ) {s s' : σ} {c : γ}, Inv s → (act q).run s = .ok c s' →
      Inv s' ∧ answer q = .ok c)
    (p : Probe Q ε α) : ∀ {s s' : σ} {a : α}, Inv s → (perform act p).run s = .ok a s' →
      p.replay answer = .ok a := by
  induction p with
  | done a =>
      intro s s' a' _ hRun
      cases hRun
      rfl
  | fail e =>
      intro s s' a' _ hRun
      cases hRun
  | ask q wrap next ih =>
      intro s s' a' hs hRun
      rw [perform_ask] at hRun
      cases hq : (act q).run s with
      | ok c t =>
          rw [hq] at hRun
          obtain ⟨ht, hAnswer⟩ := h q hs hq
          simp only [replay, hAnswer]
          exact ih c ht hRun
      | error e t =>
          rw [hq] at hRun
          cases hRun

end Perform

/-! ## What a program raises -/

/-- Every error that the program can raise satisfies `P`, if those of its queries satisfy `E`. -/
def Raises (E P : ε → Prop) : Probe Q ε α → Prop
  | .done _ => True
  | .fail e => P e
  | .ask _ wrap next => (∀ e, E e → P (wrap e)) ∧ ∀ c, (next c).Raises E P

section Raises

variable {E P : ε → Prop}

/-- A single question raises what its answer raises. -/
theorem raises_query (q : Q α) : (query q : Probe Q ε α).Raises E E :=
  ⟨fun _ he => he, fun _ => trivial⟩

/-- Two programs in a row raise what either raises. -/
theorem raises_bind {p : Probe Q ε α} {f : α → Probe Q ε β} (hp : p.Raises E P)
    (hf : ∀ a, (f a).Raises E P) : (p >>= f).Raises E P := by
  show (p.bind f).Raises E P
  induction p with
  | done a => exact hf a
  | fail e => exact hp
  | ask q wrap next ih => exact ⟨hp.1, fun c => ih c (hp.2 c)⟩

/-- Translated errors are what the translation makes of the program's errors. -/
theorem raises_mapError {S : ε → Prop} {f : ε → ε} {p : Probe Q ε α} (hp : p.Raises E S)
    (hf : ∀ e, S e → P (f e)) : (p.mapError f).Raises E P := by
  induction p with
  | done a => trivial
  | fail e => exact hf e hp
  | ask q wrap next ih => exact ⟨fun e he => hf _ (hp.1 e he), fun c => ih c (hp.2 c)⟩

/-- A pure computation raises its wrapped errors only. -/
theorem raises_lift {wrap : δ → ε} (h : ∀ e, P (wrap e)) (x : Except δ α) :
    (lift wrap x : Probe Q ε α).Raises E P := by
  cases x with
  | ok a => trivial
  | error e => exact h e

/-- What a program raises against the world, when the world raises only allowed errors. -/
theorem Raises.of_perform {act : ∀ {γ : Type}, Q γ → EStateM ε σ γ} {p : Probe Q ε α}
    (hAct : ∀ {γ : Type} (q : Q γ) {s s' : σ} {e : ε}, (act q).run s = .error e s' → E e)
    (hp : p.Raises E P) : ∀ {s s' : σ} {e : ε}, (perform act p).run s = .error e s' → P e := by
  induction p with
  | done a =>
      intro s s' e hRun
      cases hRun
  | fail e =>
      intro s s' e' hRun
      cases hRun
      exact hp
  | ask q wrap next ih =>
      intro s s' e hRun
      rw [perform_ask] at hRun
      cases hq : (act q).run s with
      | ok c t =>
          rw [hq] at hRun
          exact ih c (hp.2 c) hRun
      | error e' t =>
          rw [hq] at hRun
          cases hRun
          exact hp.1 e' (hAct q hq)

end Raises

/-! ## What a program returns -/

/-- Whatever the answers, a result of the program satisfies `P`. -/
def Returns (P : α → Prop) : Probe Q ε α → Prop
  | .done a => P a
  | .fail _ => True
  | .ask _ _ next => ∀ c, (next c).Returns P

section Returns

variable {P : α → Prop}

/-- Every program returns something. -/
theorem returns_true (p : Probe Q ε α) : p.Returns (fun _ => True) := by
  induction p with
  | done a => trivial
  | fail e => trivial
  | ask q wrap next ih => exact ih

/-- What the second program returns, given what the first did. -/
theorem returns_bind {S : β → Prop} {p : Probe Q ε α} {f : α → Probe Q ε β} (hp : p.Returns P)
    (hf : ∀ a, P a → (f a).Returns S) : (p >>= f).Returns S := by
  show (p.bind f).Returns S
  induction p with
  | done a => exact hf a hp
  | fail e => trivial
  | ask q wrap next ih => exact fun c => ih c (hp c)

/-- Behind a program of which nothing is known. -/
theorem returns_bind_of_forall {S : β → Prop} {p : Probe Q ε α} {f : α → Probe Q ε β}
    (hf : ∀ a, (f a).Returns S) : (p >>= f).Returns S :=
  returns_bind (returns_true p) (fun a _ => hf a)

/-- A pure computation returns its value. -/
theorem returns_lift {wrap : δ → ε} {x : Except δ α} (h : ∀ a, x = .ok a → P a) :
    (lift wrap x : Probe Q ε α).Returns P := by
  cases x with
  | ok a => exact h a rfl
  | error e => trivial

/-- What a program returns against the world. -/
theorem Returns.of_perform {act : ∀ {γ : Type}, Q γ → EStateM ε σ γ} {p : Probe Q ε α}
    (hp : p.Returns P) : ∀ {s s' : σ} {a : α}, (perform act p).run s = .ok a s' → P a := by
  induction p with
  | done a =>
      intro s s' a' hRun
      cases hRun
      exact hp
  | fail e =>
      intro s s' a hRun
      cases hRun
  | ask q wrap next ih =>
      intro s s' a hRun
      rw [perform_ask] at hRun
      cases hq : (act q).run s with
      | ok c t =>
          rw [hq] at hRun
          exact ih c (hp c) hRun
      | error e t =>
          rw [hq] at hRun
          cases hRun

end Returns

/-! ## What a program asks -/

/-- Every query that the program can make satisfies `P`. -/
def Asks (P : ∀ {γ : Type}, Q γ → Prop) : Probe Q ε α → Prop
  | .done _ => True
  | .fail _ => True
  | .ask q _ next => P q ∧ ∀ c, (next c).Asks P

section Asks

variable {P : ∀ {γ : Type}, Q γ → Prop}

/-- A program without questions asks only allowed ones. -/
theorem asks_pure (a : α) : (pure a : Probe Q ε α).Asks P := trivial

/-- A single question is allowed when it is. -/
theorem asks_query {q : Q α} (h : P q) : (query q : Probe Q ε α).Asks P := ⟨h, fun _ => trivial⟩

/-- A pure computation asks nothing. -/
theorem asks_lift (wrap : δ → ε) (x : Except δ α) : (lift wrap x : Probe Q ε α).Asks P := by
  cases x with
  | ok a => trivial
  | error e => trivial

/-- Two programs in a row ask what either asks. -/
theorem asks_bind {p : Probe Q ε α} {f : α → Probe Q ε β} (hp : p.Asks P) (hf : ∀ a, (f a).Asks P) :
    (p >>= f).Asks P := by
  show (p.bind f).Asks P
  induction p with
  | done a => exact hf a
  | fail e => trivial
  | ask q wrap next ih => exact ⟨hp.1, fun c => ih c (hp.2 c)⟩

/-- Renaming the error asks nothing new. -/
theorem asks_mapError {f : ε → ε} {p : Probe Q ε α} (hp : p.Asks P) : (p.mapError f).Asks P := by
  induction p with
  | done a => trivial
  | fail e => trivial
  | ask q wrap next ih => exact ⟨hp.1, fun c => ih c (hp.2 c)⟩

/-- A branch asks what its sides ask. -/
theorem asks_ite {p : Prop} [Decidable p] {x y : Probe Q ε α} (hx : x.Asks P) (hy : y.Asks P) :
    (if p then x else y).Asks P := by
  split
  · exact hx
  · exact hy

/-- A run between `v` and `w` that returns is the replay, if every query it makes there is answered
as in the replay. -/
theorem replay_of_perform_between {act : ∀ {γ : Type}, Q γ → EStateM ε σ γ}
    {answer : ∀ {γ : Type}, Q γ → Except ε γ} {R : σ → σ → Prop} [Std.Refl R] [IsTrans σ R]
    {v w : σ} (hKeeps : ∀ {γ : Type} (q : Q γ), Effect.Keeps R (act q))
    (h : ∀ {γ : Type} (q : Q γ) {s s' : σ} {c : γ}, P q → R v s → (act q).run s = .ok c s' →
      R s' w →
      answer q = .ok c)
    {p : Probe Q ε α} (hp : p.Asks P) : ∀ {s : σ} {a : α}, R v s → (perform act p).run s = .ok a w →
      p.replay answer = .ok a := by
  induction p with
  | done a =>
      intro s a' _ hRun
      cases hRun
      rfl
  | fail e =>
      intro s a' _ hRun
      cases hRun
  | ask q wrap next ih =>
      intro s a hs hRun
      rw [perform_ask] at hRun
      cases hq : (act q).run s with
      | error e t =>
          rw [hq] at hRun
          cases hRun
      | ok c t =>
          rw [hq] at hRun
          have hRest := (keeps_perform hKeeps (next c)).ok hRun
          simp only [replay, h q hp.1 hs hq hRest]
          exact ih c (hp.2 c) (IsTrans.trans _ _ _ hs ((hKeeps q).ok hq)) hRun

end Asks

/-! ## Runs that return -/

section Returning

variable {act : ∀ {γ : Type}, Q γ → EStateM ε σ γ} {s s' : σ}

/-- Performing a single question is putting it to the world. -/
theorem run_query (q : Q γ) : (perform act (query q : Probe Q ε γ)).run s = (act q).run s := by
  rw [query, perform_ask]
  cases (act q).run s <;> rfl

/-- A failed run is no successful one. -/
theorem error_ne_ok {e : ε} {t : σ} {a : α} : (.error e t : EStateM.Result ε σ α) ≠ .ok a s' := by
  intro h
  cases h

/-- A translation of errors leaves a run that returns as it is. -/
theorem run_mapError_eq_ok {f : ε → ε} {p : Probe Q ε α} {a : α} :
    (perform act (p.mapError f)).run s = .ok a s' ↔ (perform act p).run s = .ok a s' := by
  induction p generalizing s with
  | done a => rfl
  | fail e => exact iff_of_false error_ne_ok error_ne_ok
  | ask q wrap next ih =>
      rw [mapError, perform_ask, perform_ask]
      cases (act q).run s with
      | ok c t => exact ih c
      | error e t => exact iff_of_false error_ne_ok error_ne_ok

/-- A pure computation that succeeds leaves the state alone. -/
theorem run_lift_eq_ok {wrap : δ → ε} {x : Except δ α} {a : α} :
    (perform act (lift wrap x : Probe Q ε α)).run s = .ok a s' ↔ x = .ok a ∧ s' = s := by
  cases x with
  | ok b =>
      constructor
      · intro h
        cases h
        exact ⟨rfl, rfl⟩
      · rintro ⟨h, rfl⟩
        cases h
        rfl
  | error e => exact iff_of_false error_ne_ok (fun h => by cases h.1)

end Returning

/-! ## Counting queries -/

section Queries

variable {answer : ∀ {γ : Type}, Q γ → Except ε γ} {act : ∀ {γ : Type}, Q γ → EStateM ε σ γ}

/-- How many queries a program makes against fixed answers. -/
def queries (answer : ∀ {γ : Type}, Q γ → Except ε γ) : Probe Q ε α → ℕ
  | .done _ => 0
  | .fail _ => 0
  | .ask q _ next =>
      match answer q with
      | .ok c => (next c).queries answer + 1
      | .error _ => 1

/-- A program that returns against fixed answers returns in a world that gives these answers for as
many queries as it makes; `Inv n` says that the world will do so for another `n`. -/
theorem perform_of_replay {Inv : ℕ → σ → Prop}
    (h : ∀ {γ : Type} (q : Q γ) {c : γ} {n : ℕ} {s : σ}, answer q = .ok c → Inv (n + 1) s →
      ∃ s', Inv n s' ∧ (act q).run s = .ok c s')
    {p : Probe Q ε α} {a : α} (hp : p.replay answer = .ok a) : ∀ {s : σ}, Inv (p.queries answer) s →
      ∃ s', Inv 0 s' ∧ (perform act p).run s = .ok a s' := by
  induction p with
  | done b =>
      intro s hs
      cases hp
      exact ⟨s, hs, rfl⟩
  | fail e => cases hp
  | ask q wrap next ih =>
      intro s hs
      simp only [replay] at hp
      simp only [queries] at hs
      cases hq : answer q with
      | error e =>
          rw [hq] at hp
          cases hp
      | ok c =>
          rw [hq] at hp hs
          obtain ⟨t, ht, hRun⟩ := h q hq hs
          obtain ⟨s', hs', hRest⟩ := ih c hp ht
          refine ⟨s', hs', ?_⟩
          rw [perform_ask, hRun]
          exact hRest

end Queries

end Probe
