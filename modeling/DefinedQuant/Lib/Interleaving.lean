import Mathlib.Logic.Function.Basic
import Mathlib.Logic.Relation

/-!
# Interleaved programs

Threads run sequential programs over a shared state. A program has ended, or it performs an action
and goes on with the response; what an action does to the state, and which responses it can have, is
a relation. A step of a configuration is one action of one thread, so a run is an interleaving of
actions.

`Safe` is what a thread has to show about its own program, in rely-guarantee style: before each
action the other threads may have changed the state within the rely of this thread; the action has
to keep the global invariant and to stay within the rely of every other thread. A configuration
whose threads are all safe stays so, which gives the invariant in every state that an interleaving
reaches, and the postcondition of every thread that has ended.

`Code` adds exceptions and local variables, with the rules for the statements that a method is made
of.
-/

namespace Interleaving

universe u

variable {A : Type → Type u} {α β γ ε ρ σ ι : Type}

/-! ## Programs -/

/-- A sequential program over actions. -/
inductive Program (A : Type → Type u) (α : Type) : Type (max 1 u)
  | done (a : α)
  | act {γ : Type} (a : A γ) (next : γ → Program A α)

namespace Program

/-- One program and then another. -/
def bind : Program A α → (α → Program A β) → Program A β
  | .done a, f => f a
  | .act a next, f => .act a (fun r => (next r).bind f)

instance : Monad (Program A) where
  pure := .done
  bind := bind

end Program

/-! ## Configurations -/

/-- What an action of a thread does: the state before, the response and the state after. -/
structure Machine (A : Type → Type u) (ι σ : Type) where
  exec : {γ : Type} → ι → A γ → σ → γ → σ → Prop

/-- The shared state and what every thread still has to do. -/
structure Config (A : Type → Type u) (ι σ α : Type) where
  state : σ
  threads : ι → Program A α

variable [DecidableEq ι]

/-- One action of one thread. -/
inductive Step (M : Machine A ι σ) : Config A ι σ α → Config A ι σ α → Prop
  | act {γ : Type} {s s' : σ} {threads : ι → Program A α} {i : ι} {a : A γ}
      {next : γ → Program A α} {r : γ} (hNext : threads i = .act a next) (h : M.exec i a s r s') :
      Step M ⟨s, threads⟩ ⟨s', Function.update threads i (next r)⟩

/-- What an interleaving reaches. -/
def Reaches (M : Machine A ι σ) : Config A ι σ α → Config A ι σ α → Prop :=
  Relation.ReflTransGen (Step M)

/-- A program that a thread runs alone, to its end: its result and the state after it. -/
inductive Performs (M : Machine A ι σ) (i : ι) : Program A α → σ → α → σ → Prop
  | done (a : α) (s : σ) : Performs M i (.done a) s a s
  | act {γ : Type} {a : A γ} {next : γ → Program A α} {r : γ} {s s' s'' : σ} {b : α}
      (h : M.exec i a s r s') (hNext : Performs M i (next r) s' b s'') :
      Performs M i (.act a next) s b s''

/-- What one program performs alone, the machine reaches while the other threads wait. -/
theorem Performs.reaches {M : Machine A ι σ} {i : ι} {p : Program A α} {s s' : σ} {a : α}
    (h : Performs M i p s a s') (threads : ι → Program A α) (hp : threads i = p) :
    Reaches M ⟨s, threads⟩ ⟨s', Function.update threads i (.done a)⟩ := by
  induction h generalizing threads with
  | done a s =>
      rw [← hp, Function.update_eq_self]
      exact .refl
  | act h _ ih =>
      have hRest := ih (Function.update threads i _) (Function.update_self i _ threads)
      rw [Function.update_idem] at hRest
      exact .head (.act hp h) hRest

/-! ## Scheduled runs -/

/-- A response to each action of a machine that can be performed. -/
structure Scheduler (M : Machine A ι σ) where
  respond : {γ : Type} → ι → A γ → σ → Option (γ × σ)
  exec : ∀ {γ : Type} {i : ι} {a : A γ} {s s' : σ} {r : γ},
    respond i a s = some (r, s') → M.exec i a s r s'

/-- The threads act in the order of a schedule; a thread that has ended or has to wait is passed
over. -/
def Scheduler.run {M : Machine A ι σ} (scheduler : Scheduler M) :
    List ι → Config A ι σ α → Config A ι σ α
  | [], c => c
  | i :: schedule, c =>
      match c.threads i with
      | .done _ => scheduler.run schedule c
      | .act a next =>
          match scheduler.respond i a c.state with
          | none => scheduler.run schedule c
          | some (r, s) => scheduler.run schedule ⟨s, Function.update c.threads i (next r)⟩

/-- A scheduled run is a run of the machine. -/
theorem Scheduler.reaches {M : Machine A ι σ} (scheduler : Scheduler M) (schedule : List ι)
    (c : Config A ι σ α) : Reaches M c (scheduler.run schedule c) := by
  induction schedule generalizing c with
  | nil => exact .refl
  | cons i schedule ih =>
      rw [Scheduler.run]
      split
      · exact ih c
      · next a next hNext =>
          split
          · exact ih c
          · next r s hRespond => exact .head (.act hNext (scheduler.exec hRespond)) (ih _)

/-! ## Safe programs -/

/-- A machine with an invariant of its state and what each thread may rely on when others act. -/
structure Discipline (A : Type → Type u) (ι σ : Type) extends Machine A ι σ where
  Inv : σ → Prop
  Rely : ι → σ → σ → Prop
  refl : ∀ i s, Rely i s s
  trans : ∀ i s t u, Rely i s t → Rely i t u → Rely i s u

section Safe

omit [DecidableEq ι]

/-- A program of a thread that keeps the invariant and what the others rely on, from a state, and
ends in a postcondition. -/
def Safe (D : Discipline A ι σ) (i : ι) (Q : α → σ → Prop) : Program A α → σ → Prop
  | .done a, s => Q a s
  | .act a next, s => ∀ s', D.Rely i s s' → D.Inv s' → ∀ r s'', D.exec i a s' r s'' →
      D.Inv s'' ∧ (∀ j, j ≠ i → D.Rely j s' s'') ∧ Safe D i Q (next r) s''

variable {D : Discipline A ι σ} {i : ι}

/-- The condition at the end may be weakened. -/
theorem Safe.mono {Q Q' : α → σ → Prop} (hQ : ∀ a s, Q a s → Q' a s) {p : Program A α} {s : σ}
    (h : Safe D i Q p s) : Safe D i Q' p s := by
  induction p generalizing s with
  | done a => exact hQ a s h
  | act a next ih =>
      intro s' hRely hInv r s'' hExec
      obtain ⟨hInv', hGuarantee, hNext⟩ := h s' hRely hInv r s'' hExec
      exact ⟨hInv', hGuarantee, ih r hNext⟩

/-- Two programs in a row are safe when the second is safe from where the first ends. -/
theorem Safe.bind {Q : β → σ → Prop} {p : Program A α} {f : α → Program A β} {s : σ}
    (h : Safe D i (fun a s => Safe D i Q (f a) s) p s) :
    Safe D i Q (p >>= f) s := by
  induction p generalizing s with
  | done a => exact h
  | act a next ih =>
      intro s' hRely hInv r s'' hExec
      obtain ⟨hInv', hGuarantee, hNext⟩ := h s' hRely hInv r s'' hExec
      exact ⟨hInv', hGuarantee, ih r hNext⟩

/-- A safe program is safe after what the others do, when its postcondition is. -/
theorem Safe.rely {Q : α → σ → Prop} (hQ : ∀ a s s', D.Rely i s s' → Q a s → Q a s')
    {p : Program A α} {s s' : σ} (hRely : D.Rely i s s') (h : Safe D i Q p s) :
    Safe D i Q p s' := by
  cases p with
  | done a => exact hQ a s s' hRely h
  | act a next => exact fun t hRely' => h t (D.trans i s s' t hRely hRely')

/-- What holds of a thread that has ended. -/
theorem Safe.of_ended {Q : α → σ → Prop} {p : Program A α} {a : α} {s : σ} (hp : p = .done a)
    (h : Safe D i Q p s) : Q a s := by
  rw [hp] at h
  exact h

end Safe

/-- **Every interleaving of safe programs is safe.** -/
theorem Safe.of_reaches {D : Discipline A ι σ} {Q : ι → α → σ → Prop}
    (hQ : ∀ i a s s', D.Rely i s s' → Q i a s → Q i a s') {c c' : Config A ι σ α}
    (hInv : D.Inv c.state) (hSafe : ∀ i, Safe D i (Q i) (c.threads i) c.state)
    (h : Reaches D.toMachine c c') :
    D.Inv c'.state ∧ ∀ i, Safe D i (Q i) (c'.threads i) c'.state := by
  induction h with
  | refl => exact ⟨hInv, hSafe⟩
  | tail _ hStep ih =>
      obtain ⟨hInv, hSafe⟩ := ih
      cases hStep with
      | @act γ s s' threads i a next r hNext hExec =>
          have hActs := hSafe i
          simp only [hNext] at hActs
          obtain ⟨hInv', hGuarantee, hRest⟩ := hActs s (D.refl i s) hInv r s' hExec
          refine ⟨hInv', fun j => ?_⟩
          show Safe D j (Q j) (Function.update threads i (next r) j) s'
          by_cases hj : j = i
          · rw [hj, Function.update_self]
            exact hRest
          · rw [Function.update_of_ne hj]
            exact (hSafe j).rely (hQ j) (hGuarantee j hj)

/-! ## Methods -/

/-- Code that may raise and has local variables. -/
abbrev Code (A : Type → Type u) (ε ρ : Type) := ExceptT ε (StateT ρ (Program A))

namespace Code

/-- Run a method from its local variables. -/
def start (x : Code A ε ρ α) (locals : ρ) : Program A (Except ε α × ρ) := x locals

/-- An action. -/
def step (a : A α) : Code A ε ρ α := fun locals => .act a (fun r => .done (.ok r, locals))

/-- An action that may raise. -/
def call (a : A (Except ε α)) : Code A ε ρ α := fun locals => .act a (fun r => .done (r, locals))

/-- An assignment to local variables. -/
def assign (f : ρ → ρ) : Code A ε ρ Unit := fun locals => .done (.ok (), f locals)

/-- The local variables. -/
def locals : Code A ε ρ ρ := fun locals => .done (.ok locals, locals)

/-- `raise e` -/
def raise (e : ε) : Code A ε ρ α := fun locals => .done (.error e, locals)

/-- `try: x except Exception as e: handler(e)` -/
def rescue (x : Code A ε ρ α) (handler : ε → Code A ε ρ α) : Code A ε ρ α := fun locals => do
  match ← x.start locals with
  | (.ok a, locals) => return (.ok a, locals)
  | (.error e, locals) => (handler e).start locals

/-- `try: x finally: cleanup`. What the cleanup raises replaces what `x` did. -/
def finallyDo (x : Code A ε ρ α) (cleanup : Code A ε ρ Unit) : Code A ε ρ α := fun locals => do
  let (result, locals) ← x.start locals
  match ← cleanup.start locals with
  | (.ok _, locals) => return (result, locals)
  | (.error e, locals) => return (.error e, locals)

/-- A postcondition with a case for each way to end. -/
abbrev Ends (ok : α → Prop) (error : ε → Prop) : Except ε α → Prop
  | .ok a => ok a
  | .error e => error e

section Rules

omit [DecidableEq ι]

/-- A method of a thread that is safe from a state and ends in a postcondition on its result, its
local variables and the state. -/
def Runs (D : Discipline A ι σ) (i : ι) (x : Code A ε ρ α) (Q : Except ε α → ρ → σ → Prop) (l : ρ)
    (s : σ) : Prop :=
  Safe D i (fun r s => Q r.1 r.2 s) (x.start l) s

variable {D : Discipline A ι σ} {i : ι} {Q Q' : Except ε α → ρ → σ → Prop} {l : ρ} {s : σ}

/-- The condition at the end may be weakened. -/
theorem Runs.mono {x : Code A ε ρ α} (hQ : ∀ r l s, Q r l s → Q' r l s)
    (h : Runs D i x Q l s) : Runs D i x Q' l s := by
  refine Safe.mono ?_ h
  intro r s
  exact hQ r.1 r.2 s

/-- The rule of a value. -/
theorem runs_pure {a : α} (h : Q (.ok a) l s) : Runs D i (pure a) Q l s := h

/-- The rule of a raise. -/
theorem runs_raise {e : ε} (h : Q (.error e) l s) : Runs D i (raise e) Q l s := h

/-- The rule of an assignment to the local variables. -/
theorem runs_assign {f : ρ → ρ} {Q : Except ε Unit → ρ → σ → Prop} (h : Q (.ok ()) (f l) s) :
    Runs D i (assign f) Q l s := h

/-- The rule of reading the local variables. -/
theorem runs_locals {Q : Except ε ρ → ρ → σ → Prop} (h : Q (.ok l) l s) :
    Runs D i locals Q l s := h

/-- The rule of sequence: an exception skips the second program. -/
theorem runs_bind {x : Code A ε ρ α} {f : α → Code A ε ρ β} {Q : Except ε β → ρ → σ → Prop}
    (h : Runs D i x (fun r l s => Ends (fun a => Runs D i (f a) Q l s) (fun e => Q (.error e) l s)
      r)
      l s) : Runs D i (x >>= f) Q l s := by
  refine Safe.bind (f := fun r => ExceptT.bindCont f r.1 r.2) (Safe.mono (fun r s hr => ?_) h)
  obtain ⟨r, l⟩ := r
  cases r with
  | ok a => exact hr
  | error e => exact hr

/-- The rule of `except`: the handler runs after an exception only. -/
theorem runs_rescue {x : Code A ε ρ α} {handler : ε → Code A ε ρ α}
    (h : Runs D i x (fun r l s =>
      Ends (fun a => Q (.ok a) l s) (fun e => Runs D i (handler e) Q l s) r) l s) :
    Runs D i (rescue x handler) Q l s := by
  refine Safe.bind (Safe.mono (fun r s hr => ?_) h)
  obtain ⟨r, l⟩ := r
  cases r with
  | ok a => exact hr
  | error e => exact hr

/-- The rule of `finally`: the cleanup runs on both ways out. -/
theorem runs_finallyDo {x : Code A ε ρ α} {cleanup : Code A ε ρ Unit}
    (h : Runs D i x (fun result l s =>
      Runs D i cleanup (fun r l s =>
        Ends (fun _ => Q result l s) (fun e => Q (.error e) l s) r) l s) l s) :
    Runs D i (finallyDo x cleanup) Q l s := by
  refine Safe.bind (Safe.mono (fun r s hr => ?_) h)
  obtain ⟨result, l⟩ := r
  refine Safe.bind (Safe.mono (fun r s hr => ?_) hr)
  obtain ⟨r, l⟩ := r
  cases r with
  | ok a => exact hr
  | error e => exact hr

/-- The rule of an atomic step, which must keep the invariant and what the others rely on. -/
theorem runs_step {a : A α}
    (h : ∀ s', D.Rely i s s' → D.Inv s' → ∀ r s'', D.exec i a s' r s'' →
      D.Inv s'' ∧ (∀ j, j ≠ i → D.Rely j s' s'') ∧ Q (.ok r) l s'') :
    Runs D i (step a) Q l s := h

/-- The rule of an atomic step that may raise. -/
theorem runs_call {a : A (Except ε α)}
    (h : ∀ s', D.Rely i s s' → D.Inv s' → ∀ r s'', D.exec i a s' r s'' →
      D.Inv s'' ∧ (∀ j, j ≠ i → D.Rely j s' s'') ∧ Q r l s'') :
    Runs D i (call a) Q l s := h

/-- An assertion that the other threads cannot break. -/
def Stable (D : Discipline A ι σ) (i : ι) (P : σ → Prop) : Prop :=
  ∀ s s', D.Rely i s s' → P s → P s'

/-- An action that only reads, from a stable assertion. -/
theorem runs_step_of_reads {a : A α} {P : σ → Prop} (hP : Stable D i P) (hs : P s)
    (hReads : ∀ s r s', D.exec i a s r s' → s' = s)
    (h : ∀ s' r, P s' → D.Inv s' → D.exec i a s' r s' → Q (.ok r) l s') :
    Runs D i (step a) Q l s := by
  refine runs_step (fun s' hRely hInv r s'' hExec => ?_)
  obtain rfl := hReads s' r s'' hExec
  exact ⟨hInv, fun j _ => D.refl j s'', h s'' r (hP s s'' hRely hs) hInv hExec⟩

/-- A step that only reads needs no proof about the others. -/
theorem runs_call_of_reads {a : A (Except ε α)} {P : σ → Prop} (hP : Stable D i P) (hs : P s)
    (hReads : ∀ s r s', D.exec i a s r s' → s' = s)
    (h : ∀ s' r, P s' → D.Inv s' → D.exec i a s' r s' → Q r l s') :
    Runs D i (call a) Q l s := by
  refine runs_call (fun s' hRely hInv r s'' hExec => ?_)
  obtain rfl := hReads s' r s'' hExec
  exact ⟨hInv, fun j _ => D.refl j s'', h s'' r (hP s s'' hRely hs) hInv hExec⟩

/-! ### Methods that keep an assertion -/

/-- A method that keeps an assertion on its local variables and the state, however it ends. -/
def Keeps (D : Discipline A ι σ) (i : ι) (P : ρ → σ → Prop) (x : Code A ε ρ α) : Prop :=
  ∀ l s, P l s → Runs D i x (fun _ l s => P l s) l s

variable {P : ρ → σ → Prop}

/-- A value keeps every condition. -/
theorem keeps_pure (a : α) : Keeps D i P (pure a : Code A ε ρ α) := fun _ _ h => h

/-- So does a raise. -/
theorem keeps_raise (e : ε) : Keeps D i P (raise e : Code A ε ρ α) := fun _ _ h => h

/-- Two programs in a row keep what both keep. -/
theorem keeps_bind {x : Code A ε ρ α} {f : α → Code A ε ρ β} (hx : Keeps D i P x)
    (hf : ∀ a, Keeps D i P (f a)) : Keeps D i P (x >>= f) := by
  intro l s h
  refine runs_bind ((hx l s h).mono (fun r l s hr => ?_))
  cases r with
  | ok a => exact hf a l s hr
  | error e => exact hr

/-- So do a program and its handler. -/
theorem keeps_rescue {x : Code A ε ρ α} {handler : ε → Code A ε ρ α} (hx : Keeps D i P x)
    (hHandler : ∀ e, Keeps D i P (handler e)) : Keeps D i P (rescue x handler) := by
  intro l s h
  refine runs_rescue ((hx l s h).mono (fun r l s hr => ?_))
  cases r with
  | ok a => exact hr
  | error e => exact hHandler e l s hr

/-- A reading step keeps every stable condition. -/
theorem keeps_step {a : A α} (hP : ∀ l, Stable D i (P l))
    (hReads : ∀ s r s', D.exec i a s r s' → s' = s) :
    Keeps D i P (step a : Code A ε ρ α) :=
  fun l _ h => runs_step_of_reads (hP l) h hReads (fun _ _ hs _ _ => hs)

/-- So does a reading step that may raise. -/
theorem keeps_call {a : A (Except ε α)} (hP : ∀ l, Stable D i (P l))
    (hReads : ∀ s r s', D.exec i a s r s' → s' = s) :
    Keeps D i P (call a : Code A ε ρ α) :=
  fun l _ h => runs_call_of_reads (hP l) h hReads (fun _ _ hs _ _ => hs)

/-- A part of a method that keeps an assertion, before the rest. -/
theorem runs_bind_of_keeps {x : Code A ε ρ α} {f : α → Code A ε ρ β} {Q : Except ε β → ρ → σ → Prop}
    (hx : Keeps D i P x) (h : P l s) (hOk : ∀ a l s, P l s → Runs D i (f a) Q l s)
    (hError : ∀ e l s, P l s → Q (.error e) l s) : Runs D i (x >>= f) Q l s := by
  refine runs_bind ((hx l s h).mono (fun r l s hr => ?_))
  cases r with
  | ok a => exact hOk a l s hr
  | error e => exact hError e l s hr

end Rules

end Code

end Interleaving
