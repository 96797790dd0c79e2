import DefinedQuant.Shared.ServiceSession

/-!
# One session for a service, gone after its close

The calls of a service against the discipline of its session lock, and what follows for every
interleaving whose steps are in order: there is at most one store, and after a `close` none is open.
-/

namespace ServiceSession

open Interleaving Interleaving.Code

variable {ι ρ ε : Type}

/-! ## The discipline -/

/-- What the session lock protects, outside of its sections: a `close` has emptied the field for
good, and before that an empty field means that no store has been created. -/
def Settled (stored : Option ℕ) (stores : ℕ) (taken : Bool) : Prop :=
  (taken = true → stored = none) ∧ (taken = false → stored = none → stores = 0)

/-- What holds between any two actions. -/
structure Single (s : Service ι ρ) : Prop where
  stores : s.stores ≤ 1
  isOpen : ∀ store, s.isOpen store = true → store < s.stores
  stored : ∀ store, s.stored = some store → store < s.stores
  issued : ∀ p ∈ s.issued, p.1 < s.stores
  settled : s.lock = none → Settled s.stored s.stores s.taken

/-- What a call can rely on while the others act. -/
structure Undisturbed (i : ι) (s s' : Service ι ρ) : Prop where
  lock : s'.lock = some i ↔ s.lock = some i
  locked : s.lock = some i → s'.stored = s.stored ∧ s'.stores = s.stores ∧ s'.taken = s.taken
  issued : ∀ p ∈ s.issued, p ∈ s'.issued
  taken : s.taken = true → s'.taken = true
  closed : s.taken = true → ∀ store, s.isOpen store = false → s'.isOpen store = false

/-- A call is undisturbed when nothing happens. -/
theorem Undisturbed.refl (i : ι) (s : Service ι ρ) : Undisturbed i s s :=
  ⟨Iff.rfl, fun _ => ⟨rfl, rfl, rfl⟩, fun _ hp => hp, fun h => h, fun _ _ h => h⟩

/-- Two steps that leave a call undisturbed leave it so together. -/
theorem Undisturbed.trans (i : ι) (s t u : Service ι ρ) (h : Undisturbed i s t)
    (h' : Undisturbed i t u) : Undisturbed i s u where
  lock := h'.lock.trans h.lock
  locked := by
    intro hLock
    obtain ⟨hStored, hStores, hTaken⟩ := h.locked hLock
    obtain ⟨hStored', hStores', hTaken'⟩ := h'.locked (h.lock.2 hLock)
    exact ⟨hStored'.trans hStored, hStores'.trans hStores, hTaken'.trans hTaken⟩
  issued p hp := h'.issued p (h.issued p hp)
  taken hTaken := h'.taken (h.taken hTaken)
  closed hTaken store hClosed := h'.closed (h.taken hTaken) store (h.closed hTaken store hClosed)

/-- The discipline of a service whose steps are in order. -/
def discipline : Discipline (Action ρ ε) ι (Service ι ρ) where
  toMachine := orderlyMachine
  Inv := Single
  Rely := Undisturbed
  refl := Undisturbed.refl
  trans := Undisturbed.trans

/-! ## What a call knows -/

/-- References that stores of the service have registered. -/
def Issued (references : List ρ) (s : Service ι ρ) : Prop :=
  ∀ r ∈ references, ∃ store, (store, r) ∈ s.issued

/-- Outside of the session lock, with references that have been registered. -/
def Outside (i : ι) (references : List ρ) (s : Service ι ρ) : Prop :=
  s.lock ≠ some i ∧ Issued references s

/-- Inside a section of the session lock, with a fact about what it protects. -/
def Inside (i : ι) (references : List ρ) (P : Option ℕ → ℕ → Bool → Prop) (s : Service ι ρ) :
    Prop :=
  s.lock = some i ∧ P s.stored s.stores s.taken ∧ Issued references s

/-- A `close` has emptied the field, and no other store than this one is open. -/
def Closing (store : Option ℕ) (s : Service ι ρ) : Prop :=
  s.taken = true ∧ ∀ other, some other ≠ store → s.isOpen other = false

variable {i : ι} {references : List ρ} {P P' : Option ℕ → ℕ → Bool → Prop} {l : Unit}
  {s s' : Service ι ρ}

/-- References stay issued while others take steps. -/
theorem Issued.undisturbed (h : Issued references s) (hRely : Undisturbed i s s') :
    Issued references s' := by
  intro r hr
  obtain ⟨store, hStore⟩ := h r hr
  exact ⟨store, hRely.issued _ hStore⟩

/-- So does a store that a closing call has taken. -/
theorem Closing.undisturbed {store : Option ℕ} (h : Closing store s) (hRely : Undisturbed i s s') :
    Closing store s' :=
  ⟨hRely.taken h.1, fun other hOther => hRely.closed h.1 other (h.2 other hOther)⟩

/-- What a call knows outside of the lock stands while others take steps. -/
theorem stable_outside : Stable (discipline (ε := ε)) i (Outside i references) := by
  rintro s s' hRely ⟨hLock, hIssued⟩
  exact ⟨fun hLock' => hLock (hRely.lock.1 hLock'), hIssued.undisturbed hRely⟩

/-- What a call knows inside of the lock stands, since the others wait. -/
theorem stable_inside : Stable (discipline (ε := ε)) i (Inside i references P) := by
  rintro s s' hRely ⟨hLock, hP, hIssued⟩
  obtain ⟨hStored, hStores, hTaken⟩ := hRely.locked hLock
  refine ⟨hRely.lock.2 hLock, ?_, hIssued.undisturbed hRely⟩
  rwa [hStored, hStores, hTaken]

/-- Inside of the lock, a weaker fact about the shared state holds too. -/
theorem Inside.mono (h : Inside i references P s)
    (hP : ∀ stored stores taken, P stored stores taken → P' stored stores taken) :
    Inside i references P' s :=
  ⟨h.1, hP _ _ _ h.2.1, h.2.2⟩

/-! ## The session lock -/

/-- A change of what the lock protects, by the call that holds it. -/
theorem undisturbed_of_locked {j : ι} (hj : j ≠ i) (hLock : s.lock = some i)
    (hLock' : s'.lock = some i)
    (hIssued : s'.issued = s.issued) (hTaken : s.taken = true → s'.taken = true)
    (hOpen : s.taken = true → s'.isOpen = s.isOpen) : Undisturbed j s s' where
  lock := by rw [hLock, hLock']
  locked hOther := absurd (Option.some.inj (hOther.symm.trans hLock)) hj
  issued p hp := by rwa [hIssued]
  taken := hTaken
  closed hMarked store hClosed := by rwa [hOpen hMarked]

/-- The rule of `with self._lock`: the body runs inside and leaves the lock on every way out. -/
theorem runs_withLock {α : Type} {x : Method ρ ε α}
    {Q : Except ε α → Service ι ρ → Prop} (h : Outside i references s)
    (hStable : ∀ r s s', Undisturbed i s s' → Q r s → Q r s')
    (hFree : ∀ r s, Q r s → Q r { s with lock := none })
    (hx : ∀ s, Inside i references Settled s → Runs discipline i x
      (fun r _ s => Inside i references Settled s ∧ Q r s) l s) :
    Runs discipline i (withLock x) (fun r _ s => Outside i references s ∧ Q r s) l s := by
  refine runs_bind (runs_step (fun t hRely hInv _ t' hExec => ?_))
  obtain ⟨⟨hNone, rfl⟩, -⟩ := hExec
  obtain ⟨-, hIssued⟩ := stable_outside s t hRely h
  refine ⟨⟨hInv.stores, hInv.isOpen, hInv.stored, hInv.issued, ?_⟩, ?_, ?_⟩
  · intro hHeld
    cases hHeld
  · intro j hj
    refine ⟨?_, fun hOther => ?_, fun _ hp => hp, fun hTaken => hTaken, fun _ _ hClosed => hClosed⟩
    · rw [hNone]
      simp [Ne.symm hj]
    · rw [hNone] at hOther
      cases hOther
  · have hEntered : Inside i references Settled { t with lock := some i } :=
      ⟨rfl, hInv.settled hNone, hIssued⟩
    refine runs_finallyDo ((hx _ hEntered).mono ?_)
    rintro r l s ⟨hInside, hr⟩
    refine runs_step (fun t hRely hInv _ t' hExec => ?_)
    obtain ⟨rfl, -⟩ := hExec
    obtain ⟨hLock, hSettled, hIssued⟩ := stable_inside s t hRely hInside
    refine ⟨⟨hInv.stores, hInv.isOpen, hInv.stored, hInv.issued, fun _ => hSettled⟩, ?_,
      ⟨(Option.some_ne_none i).symm, hIssued⟩, hFree r t (hStable r s t hRely hr)⟩
    intro j hj
    refine ⟨?_, fun hOther => ?_, fun _ hp => hp, fun hTaken => hTaken, fun _ _ hClosed => hClosed⟩
    · rw [hLock]
      simp [Ne.symm hj]
    · exact absurd (Option.some.inj (hOther.symm.trans hLock)) hj

/-! ## The actions -/

/-- Fewer references are issued when more are. -/
theorem Outside.mono {references' : List ρ} (h : Outside i references s)
    (hSub : ∀ r ∈ references', r ∈ references) : Outside i references' s :=
  ⟨h.1, fun r hr => h.2 r (hSub r hr)⟩

/-- A call out of the service gives back what the method knew. -/
theorem keeps_native (c : Native) :
    Keeps discipline i (fun _ => Outside i references) (native c : Method ρ ε Unit) :=
  keeps_call (fun _ => stable_outside) (fun _ _ _ hExec => hExec.1)

/-- So does a call on the output store. -/
theorem keeps_output (store : ℕ) :
    Keeps discipline i (fun _ => Outside i references) (call (.output store) : Method ρ ε Unit) :=
  keeps_call (fun _ => stable_outside) (fun _ _ _ hExec => hExec.1)

/-- Reading the store field changes nothing. -/
theorem keeps_readStore :
    Keeps discipline i (fun _ => Outside i references) (step .readStore : Method ρ ε (Option ℕ)) :=
  keeps_step (fun _ => stable_outside) (fun _ _ _ hExec => hExec.1.2)

/-- Inside of the lock the field that is read is the field that stands. -/
theorem runs_readStore {Q : Except ε (Option ℕ) → Unit → Service ι ρ → Prop}
    (h : Inside i references P s) (hQ : ∀ store s, Inside i references (fun stored stores taken =>
      stored = store ∧ P stored stores taken) s → Q (.ok store) l s) :
    Runs discipline i (step .readStore : Method ρ ε (Option ℕ)) Q l s :=
  runs_step_of_reads stable_inside h (fun _ _ _ hExec => hExec.1.2)
    (fun s store hInside _ hExec =>
      hQ store s ⟨hInside.1, ⟨hExec.1.1.symm, hInside.2.1⟩, hInside.2.2⟩)

/-- A store is created only where there has been none. -/
theorem runs_createStore {Q : Except ε ℕ → Unit → Service ι ρ → Prop}
    (h : Inside i references (fun stored stores taken =>
      stored = none ∧ Settled stored stores taken) s)
    (hOk : ∀ store s, Inside i references (fun _ stores taken =>
      store < stores ∧ taken = false) s → Q (.ok store) l s)
    (hError : ∀ e s, Inside i references Settled s → Q (.error e) l s) :
    Runs discipline i (call .createStore : Method ρ ε ℕ) Q l s := by
  refine runs_call (fun t hRely hInv r t' hExec => ?_)
  obtain ⟨hLock, ⟨hNone, hSettled⟩, hIssued⟩ := stable_inside s t hRely h
  obtain ⟨hExec, hTaken⟩ := hExec
  -- A failure to open a store leaves none. Otherwise it is the first store of the service.
  cases r with
  | error e =>
      obtain rfl := hExec
      exact ⟨hInv, fun j _ => Undisturbed.refl j _, hError e _ ⟨hLock, hSettled, hIssued⟩⟩
  | ok store =>
      obtain ⟨rfl, rfl⟩ := hExec
      have hZero : t.stores = 0 := hSettled.2 hTaken hNone
      refine ⟨⟨?_, ?_, ?_, ?_, ?_⟩, ?_, hOk _ _ ⟨hLock, ⟨Nat.lt_succ_self _, hTaken⟩, hIssued⟩⟩
      · exact Nat.le_of_eq (congrArg Nat.succ hZero)
      · intro store hOpen
        by_cases hStore : store = t.stores
        · rw [hStore]
          exact Nat.lt_succ_self _
        · have hOpen' : t.isOpen store = true := by
            rw [← hOpen]
            exact (Function.update_of_ne hStore _ _).symm
          exact Nat.lt_succ_of_lt (hInv.isOpen store hOpen')
      · intro store hStored
        exact Nat.lt_succ_of_lt (hInv.stored store hStored)
      · intro p hp
        exact Nat.lt_succ_of_lt (hInv.issued p hp)
      · intro hFree
        exact absurd (hLock.symm.trans hFree) (Option.some_ne_none i)
      -- The other calls wait for the lock.
      · intro j hj
        exact undisturbed_of_locked hj hLock hLock rfl (fun h => h)
          (fun hMarked => absurd (hTaken.symm.trans hMarked) Bool.false_ne_true)

/-- A store that was just opened is put into the empty field. -/
theorem runs_setStore {store : ℕ} {Q : Except ε Unit → Unit → Service ι ρ → Prop}
    (h : Inside i references (fun _ stores taken => store < stores ∧ taken = false) s)
    (hQ : ∀ s, Inside i references Settled s → Q (.ok ()) l s) :
    Runs discipline i (step (.setStore store) : Method ρ ε Unit) Q l s := by
  refine runs_step (fun t hRely hInv r t' hExec => ?_)
  obtain ⟨hLock, ⟨hStore, hTaken⟩, hIssued⟩ := stable_inside s t hRely h
  obtain ⟨rfl, -⟩ := hExec
  refine ⟨⟨hInv.stores, hInv.isOpen, ?_, hInv.issued, ?_⟩, ?_, hQ _ ⟨hLock, ⟨?_, ?_⟩, hIssued⟩⟩
  · intro other hOther
    obtain rfl := Option.some.inj hOther
    exact hStore
  · intro hFree
    exact absurd (hLock.symm.trans hFree) (Option.some_ne_none i)
  · intro j hj
    exact undisturbed_of_locked hj hLock hLock rfl (fun h => h) (fun _ => rfl)
  · intro hMarked
    exact absurd (hTaken.symm.trans hMarked) Bool.false_ne_true
  · intro _ hNone
    exact absurd hNone (Option.some_ne_none store)

/-- A `close` that empties the field leaves at most the store that was in it open. -/
theorem runs_clearStore {store : Option ℕ} {Q : Except ε Unit → Unit → Service ι ρ → Prop}
    (h : Inside i references (fun stored stores taken =>
      stored = store ∧ Settled stored stores taken) s)
    (hQ : ∀ s, Inside i references Settled s → Closing store s → Q (.ok ()) l s) :
    Runs discipline i (step .clearStore : Method ρ ε Unit) Q l s := by
  refine runs_step (fun t hRely hInv r t' hExec => ?_)
  obtain ⟨hLock, ⟨hStored, hSettled⟩, hIssued⟩ := stable_inside s t hRely h
  obtain ⟨rfl, hOrder⟩ := hExec
  have hEmpty : Settled none t.stores true :=
    ⟨fun _ => rfl, fun hTaken => absurd hTaken.symm Bool.false_ne_true⟩
  refine ⟨⟨hInv.stores, hInv.isOpen, ?_, hInv.issued, fun _ => hEmpty⟩, ?_,
    hQ _ ⟨hLock, hEmpty, hIssued⟩ ⟨rfl, fun other hOther => ?_⟩⟩
  · intro other hOther
    exact absurd hOther.symm (Option.some_ne_none other)
  · intro j hj
    exact undisturbed_of_locked hj hLock hLock rfl (fun _ => rfl) (fun _ => rfl)
  · rw [← hStored] at hOther
    show t.isOpen other = false
    cases hField : t.stored with
    | none => exact hOrder hField other
    | some store =>
        rw [Bool.eq_false_iff]
        intro hOpen
        have hOther' := hInv.isOpen other hOpen
        have hStore := hInv.stored store hField
        have hOne := hInv.stores
        apply hOther
        rw [hField]
        congr 1
        omega

/-- A taken store is closed once. -/
theorem runs_closeStore {store : ℕ} (h : Outside i references s)
    (hClosing : Closing (some store) s) :
    Runs discipline i (call (.closeStore store) : Method ρ ε Unit)
      (fun _ _ s => Outside i references s ∧ Closing none s) l s := by
  refine runs_call (fun t hRely hInv r t' hExec => ?_)
  obtain ⟨hLock, hIssued⟩ := stable_outside s t hRely h
  obtain ⟨hTaken, hClosed⟩ := hClosing.undisturbed hRely
  obtain ⟨rfl, -⟩ := hExec
  have hOpen : ∀ other, Function.update t.isOpen store false other = true →
    t.isOpen other = true := by
    intro other hOther
    by_cases hSame : other = store
    · rw [hSame, Function.update_self] at hOther
      exact absurd hOther Bool.false_ne_true
    · rwa [Function.update_of_ne hSame] at hOther
  refine ⟨⟨hInv.stores, fun other hOther => hInv.isOpen other (hOpen other hOther), hInv.stored,
    hInv.issued, hInv.settled⟩, ?_, ⟨hLock, hIssued⟩, hTaken, ?_⟩
  · intro j _
    refine ⟨Iff.rfl, fun _ => ⟨rfl, rfl, rfl⟩, fun _ hp => hp, fun hTaken => hTaken, ?_⟩
    intro _ other hOther
    rw [Bool.eq_false_iff] at hOther ⊢
    exact fun hOther' => hOther (hOpen other hOther')
  · intro other _
    show Function.update t.isOpen store false other = false
    by_cases hSame : other = store
    · rw [hSame, Function.update_self]
    · rw [Function.update_of_ne hSame]
      exact hClosed other (fun hOther => hSame (Option.some.inj hOther))

/-- A publication issues the reference it answers, or raises. -/
theorem runs_publish {store : ℕ} {Q : Except ε ρ → Unit → Service ι ρ → Prop}
    (h : Outside i references s) (hOk : ∀ r s, Outside i (r :: references) s → Q (.ok r) l s)
    (hError : ∀ e s, Outside i references s → Q (.error e) l s) :
    Runs discipline i (call (.publish store)) Q l s := by
  refine runs_call (fun t hRely hInv r t' hExec => ?_)
  obtain ⟨hLock, hIssued⟩ := stable_outside s t hRely h
  obtain ⟨hExec, -⟩ := hExec
  cases r with
  | error e =>
      obtain rfl := hExec
      exact ⟨hInv, fun j _ => Undisturbed.refl j _, hError e _ ⟨hLock, hIssued⟩⟩
  | ok r =>
      obtain ⟨hOpen, rfl⟩ := hExec
      refine ⟨⟨hInv.stores, hInv.isOpen, hInv.stored, List.forall_mem_cons.2
        ⟨hInv.isOpen store hOpen, hInv.issued⟩, hInv.settled⟩, ?_, hOk r _ ⟨hLock, ?_⟩⟩
      · intro j _
        exact ⟨Iff.rfl, fun _ => ⟨rfl, rfl, rfl⟩, fun _ hp => List.mem_cons_of_mem _ hp,
          fun hTaken => hTaken, fun _ _ hClosed => hClosed⟩
      · refine List.forall_mem_cons.2 ⟨⟨store, List.mem_cons_self⟩, fun other hOther => ?_⟩
        obtain ⟨k, hk⟩ := hIssued other hOther
        exact ⟨k, List.mem_cons_of_mem _ hk⟩

/-- A resolved source names references that were issued. -/
theorem runs_resolve {store : ℕ} {reference : ρ} {Q : Except ε (List ρ) → Unit → Service ι ρ → Prop}
    (h : Outside i references s)
    (hOk : ∀ named s, Outside i (named ++ references) s → Q (.ok named) l s)
    (hError : ∀ e s, Outside i references s → Q (.error e) l s) :
    Runs discipline i (resolve store reference) Q l s := by
  refine runs_call_of_reads stable_outside h (fun s r s' hExec => ?_)
    (fun s r hOutside _ hExec => ?_)
  · cases r with
    | ok named => exact hExec.1.2.2.2
    | error e => exact hExec.1
  · cases r with
    | error e => exact hError e s hOutside
    | ok named =>
        refine hOk named s ⟨hOutside.1, List.forall_mem_append.2 ⟨fun r hr => ?_, hOutside.2⟩⟩
        exact ⟨store, hExec.1.2.2.1 r hr⟩

/-! ## The methods -/

/-- `session_cas`, whose section leaves a store in the field or raises. -/
theorem keeps_sessionCas :
    Keeps discipline i (fun _ => Outside i references) (sessionCas : Method ρ ε ℕ) := by
  refine keeps_bind keeps_readStore (fun stored => ?_)
  cases stored with
  | some store => exact keeps_pure store
  | none =>
      intro l s h
      refine (runs_withLock (Q := fun _ _ => True) h (fun _ _ _ _ h => h) (fun _ _ h => h)
        (fun s hInside => ?_)).mono (fun _ _ _ h => h.1)
      refine runs_bind (runs_readStore hInside (fun stored s hRead => ?_))
      cases stored with
      | some store => exact runs_pure ⟨hRead.mono (fun _ _ _ hP => hP.2), trivial⟩
      | none =>
          refine runs_bind (runs_createStore hRead (fun store s hCreated => ?_)
            (fun e s hInside => ⟨hInside, trivial⟩))
          refine runs_bind (runs_setStore hCreated (fun s hInside => ?_))
          exact runs_pure ⟨hInside, trivial⟩

/-- What a method has handed out: the references of its result have been registered. -/
def Handed (i : ι) (result : Except ε (List ρ)) (s : Service ι ρ) : Prop :=
  Outside i (result.toOption.getD []) s

/-- A method that raises hands nothing out. -/
theorem handed_error (e : ε) (h : Outside i references s) :
    Handed i (.error e : Except ε (List ρ)) s :=
  h.mono (fun _ hr => absurd hr List.not_mem_nil)

/-- A record that is resolved in the store hands out what it names. -/
theorem runs_viewRecord {reference : ρ} (h : Outside i references s) :
    Runs discipline i (viewRecord reference : Method ρ ε (List ρ)) (fun r _ s => Handed i r s) l
      s := by
  refine runs_bind_of_keeps keeps_sessionCas h (fun store l s h => ?_)
    (fun e l s h => handed_error e h)
  refine runs_resolve h (fun named s hNamed => ?_) (fun e s h => handed_error e h)
  exact hNamed.mono (fun r hr => List.mem_append_left _ hr)

/-- `register_dataset` hands out issued references only. -/
theorem runs_registerDataset (h : Outside i references s) :
    Runs discipline i (registerDataset : Method ρ ε (List ρ)) (fun r _ s => Handed i r s) l s := by
  refine runs_bind_of_keeps (keeps_native _) h (fun _ l s h => ?_) (fun e l s h => handed_error e h)
  refine runs_bind_of_keeps keeps_sessionCas h (fun store l s h => ?_)
    (fun e l s h => handed_error e h)
  refine runs_bind (runs_publish h (fun reference s h => ?_) (fun e s h => handed_error e h))
  exact runs_viewRecord h

/-- Loading a source changes nothing a method knows. -/
theorem keeps_loadSource (source : Option ρ) :
    Keeps discipline i (fun _ => Outside i references) (loadSource source : Method ρ ε Unit) := by
  cases source with
  | none => exact keeps_pure ()
  | some reference =>
      refine keeps_bind keeps_sessionCas (fun store l s h => ?_)
      refine runs_bind (runs_resolve h (fun named s hNamed => ?_) (fun e s h => h))
      exact runs_pure (hNamed.mono (fun _ hr => List.mem_append_right _ hr))

/-- So does resolving one, and what it names was issued. -/
theorem runs_resolveSource {store : ℕ} {source : Option ρ}
    {Q : Except ε (List ρ) → Unit → Service ι ρ → Prop} (h : Outside i references s)
    (hOk : ∀ named s, Outside i (named ++ references) s → Q (.ok named) l s)
    (hError : ∀ e s, Outside i references s → Q (.error e) l s) :
    Runs discipline i (resolveSource store source) Q l s := by
  cases source with
  | none => exact runs_pure (hOk [] s h)
  | some reference => exact runs_resolve h hOk hError

/-- `_execute_recorded_operation` hands out issued references only. -/
theorem runs_executeRecordedOperation {source : Option ρ} (h : Outside i references s) :
    Runs discipline i (executeRecordedOperation source : Method ρ ε (List ρ))
      (fun r _ s => Handed i r s) l s := by
  refine runs_bind_of_keeps (keeps_native _) h (fun _ l s h => ?_) (fun e l s h => handed_error e h)
  refine runs_bind_of_keeps (keeps_loadSource source) h (fun _ l s h => ?_)
    (fun e l s h => handed_error e h)
  refine runs_bind_of_keeps (keeps_native _) h (fun _ l s h => ?_) (fun e l s h => handed_error e h)
  refine runs_bind_of_keeps (keeps_native _) h (fun _ l s h => ?_) (fun e l s h => handed_error e h)
  refine runs_bind_of_keeps (keeps_native _) h (fun _ l s h => ?_) (fun e l s h => handed_error e h)
  refine runs_bind_of_keeps keeps_sessionCas h (fun store l s h => ?_)
    (fun e l s h => handed_error e h)
  refine runs_bind_of_keeps keeps_sessionCas h (fun _ l s h => ?_)
    (fun e l s h => handed_error e h)
  refine runs_bind (runs_resolveSource h (fun named s h => ?_) (fun e s h => handed_error e h))
  refine runs_bind_of_keeps keeps_sessionCas h (fun store l s h => ?_)
    (fun e l s h => handed_error e h)
  refine runs_bind (runs_publish h (fun reference s h => ?_) (fun e s h => handed_error e h))
  refine runs_pure (h.mono (fun r hr => ?_))
  rcases List.mem_cons.1 hr with rfl | hr
  · exact List.mem_cons_self
  · exact List.mem_cons_of_mem _ (List.mem_append_left _ hr)

/-- `execute_component` hands out issued references only. -/
theorem runs_executeComponent {source : Option ρ} (h : Outside i references s) :
    Runs discipline i (executeComponent source : Method ρ ε (List ρ))
      (fun r _ s => Handed i r s) l s := by
  refine runs_bind_of_keeps keeps_sessionCas h (fun store l s h => ?_)
    (fun e l s h => handed_error e h)
  refine runs_bind_of_keeps (keeps_output store) h (fun _ l s h => ?_)
    (fun e l s h => handed_error e h)
  refine runs_finallyDo ((runs_executeRecordedOperation h).mono (fun result l s hHanded => ?_))
  refine (keeps_output store l s hHanded).mono (fun r l s h => ?_)
  cases r with
  | ok u => exact h
  | error e => exact handed_error e h

/-- `close` returns when no store is open, and none will be. -/
theorem runs_close (h : Outside i references s) :
    Runs discipline i (close : Method ρ ε Unit)
      (fun r _ s => Outside i references s ∧ (r = .ok () → Closing none s)) l s := by
  refine runs_bind_of_keeps (keeps_native _) h (fun _ l s h => ?_)
    (fun e l s h => ⟨h, fun hOk => by cases hOk⟩)
  refine runs_bind ((runs_withLock (Q := fun r s => ∃ store, r = .ok store ∧ Closing store s) h
    (fun r s s' hRely hClosing => ?_) (fun r s hClosing => hClosing) (fun s hInside => ?_)).mono ?_)
  · obtain ⟨store, hr, hClosing⟩ := hClosing
    exact ⟨store, hr, hClosing.undisturbed hRely⟩
  · refine runs_bind (runs_readStore hInside (fun store s hRead => ?_))
    refine runs_bind (runs_clearStore hRead (fun s hInside hClosing => ?_))
    exact runs_pure ⟨hInside, store, rfl, hClosing⟩
  · rintro r l s ⟨hOutside, store, rfl, hClosing⟩
    -- the store that was in the field is closed
    have hTaken : Runs discipline i (closeTaken store : Method ρ ε Unit)
        (fun _ _ s => Outside i references s ∧ Closing none s) l s := by
      cases store with
      | none => exact runs_pure ⟨hOutside, hClosing⟩
      | some store => exact runs_closeStore hOutside hClosing
    refine runs_bind (hTaken.mono (fun r l s hClosed => ?_))
    cases r with
    | error e => exact ⟨hClosed.1, fun hOk => by cases hOk⟩
    | ok u =>
        have hStable : Stable (discipline (ε := ε)) i
            (fun s => Outside i references s ∧ Closing none s) :=
          fun s s' hRely h => ⟨stable_outside s s' hRely h.1, h.2.undisturbed hRely⟩
        exact runs_call_of_reads hStable hClosed (fun _ _ _ hExec => hExec.1)
          (fun s r hClosed _ _ => ⟨hClosed.1, fun _ => hClosed.2⟩)

/-! ## Runs -/

/-- What an ended call leaves: the references that it hands out have been registered; a `close` that
returns without an exception leaves no store open. -/
def Outcome.Leaves (outcome : Outcome ρ ε) (s : Service ι ρ) : Prop :=
  match outcome with
  | .returned result => Issued (result.toOption.getD []) s
  | .closed result => result = .ok () → Closing none s

/-- An outcome stands while the others go on. -/
theorem Outcome.Leaves.undisturbed {outcome : Outcome ρ ε} (h : outcome.Leaves s)
    (hRely : Undisturbed i s s') : outcome.Leaves s' := by
  cases outcome with
  | returned result => exact Issued.undisturbed h hRely
  | closed result => exact fun hOk => (h hOk).undisturbed hRely

/-- A method whose run hands out issued references is safe as a thread. -/
theorem safe_returning {method : Method ρ ε (List ρ)}
    (h : Runs discipline i method (fun r _ s => Handed i r s) () s) :
    Safe discipline i Outcome.Leaves (returning method) s := by
  refine Safe.bind (Safe.mono (fun r s hr => ?_) h)
  exact hr.2

/-- Every call is safe from the start. -/
theorem safe_program (call : Call ρ) (h : Outside i [] s) :
    Safe discipline i Outcome.Leaves (call.program : Program (Action ρ ε) (Outcome ρ ε)) s := by
  cases call with
  | registerDataset => exact safe_returning (runs_registerDataset h)
  | viewRecord reference => exact safe_returning (runs_viewRecord h)
  | executeRecordedOperation source => exact safe_returning (runs_executeRecordedOperation h)
  | executeComponent source => exact safe_returning (runs_executeComponent h)
  | other =>
      refine safe_returning (runs_bind_of_keeps (keeps_native _) h (fun _ l s h => ?_)
        (fun e l s h => handed_error e h))
      exact runs_pure h
  | close =>
      refine Safe.bind (Safe.mono (fun r s hr => ?_) (runs_close h))
      exact hr.2

/-- A service that starts has at most one session. -/
theorem single_initial (given : Option (List ρ)) : Single (Service.initial (ι := ι) given) := by
  cases given with
  | none =>
      refine ⟨Nat.zero_le 1, fun store h => ?_, fun store h => ?_, fun p h => ?_, fun _ => ?_⟩
      · exact absurd h Bool.false_ne_true
      · exact absurd h.symm (Option.some_ne_none store)
      · exact absurd h List.not_mem_nil
      · exact ⟨fun _ => rfl, fun _ _ => rfl⟩
  | some references =>
      refine ⟨Nat.le_refl 1, fun store h => ?_, fun store h => ?_, fun p h => ?_, fun _ => ?_⟩
      · rw [of_decide_eq_true h]
        exact Nat.zero_lt_one
      · rw [← Option.some.inj h]
        exact Nat.zero_lt_one
      · obtain ⟨r, -, rfl⟩ := List.mem_map.1 h
        exact Nat.zero_lt_one
      · exact ⟨fun h => absurd h Bool.false_ne_true, fun _ h => absurd h (Option.some_ne_none 0)⟩

/-- A method starts outside of the lock with nothing issued to it. -/
theorem outside_initial (given : Option (List ρ)) : Outside i [] (Service.initial given) := by
  refine ⟨?_, fun r hr => absurd hr List.not_mem_nil⟩
  cases given with
  | none => exact (Option.some_ne_none i).symm
  | some references => exact (Option.some_ne_none i).symm

/-- One session: the references that the service hands out come from one store, and after a `close`
has returned without an exception no store is open. -/
structure OneSession (c : Config (Action ρ ε) ι (Service ι ρ) (Outcome ρ ε)) : Prop where
  references : ∃ store, ∀ i named, c.threads i = .done (.returned (.ok named)) →
    ∀ r ∈ named, (store, r) ∈ c.state.issued
  gone : ∀ i, c.threads i = .done (.closed (.ok ())) → ∀ store, c.state.isOpen store = false

/-- **A service whose steps are in order has one session.** -/
theorem oneSession_of_reaches [DecidableEq ι] {given : Option (List ρ)} {calls : ι → Call ρ}
    {c : Config (Action ρ ε) ι (Service ι ρ) (Outcome ρ ε)}
    (h : Reaches orderlyMachine (started given calls) c) : OneSession c := by
  obtain ⟨hInv, hSafe⟩ := Safe.of_reaches (D := discipline)
    (Q := fun (_ : ι) (outcome : Outcome ρ ε) s => outcome.Leaves s)
    (c := started given calls) (fun i outcome s s' hRely hLeaves => hLeaves.undisturbed hRely)
    (single_initial given) (fun i => safe_program (calls i) (outside_initial given)) h
  refine ⟨⟨0, fun i named hDone r hr => ?_⟩, fun i hDone store => ?_⟩
  · have hLeaves := Safe.of_ended hDone (hSafe i)
    obtain ⟨store, hStore⟩ : ∃ store, (store, r) ∈ c.state.issued := hLeaves r hr
    have hFirst : store = 0 := by
      have hLess := hInv.issued _ hStore
      have hOne := hInv.stores
      omega
    rwa [hFirst] at hStore
  · have hClosing := Safe.of_ended hDone (hSafe i) rfl
    exact hClosing.2 store (Option.some_ne_none store)

/-! ## A registration and a close -/

/-- A service without a store, asked to register a dataset and to close. -/
def registering : Config (Action Unit Unit) Bool (Service Bool Unit) (Outcome Unit Unit) :=
  started none (fun closes => cond closes .close .registerDataset)

/-- Only the first store is open. -/
def firstOpen : ℕ → Bool := Function.update (fun _ => false) 0 true

/-- The registration creates the store, publishes and describes; a `close` may have come before. -/
theorem performs_registerDataset {M : Machine (Action Unit Unit) Bool (Service Bool Unit)}
    (taken : Bool) (hM : ∀ {γ : Type} (a : Action Unit Unit γ) s (r : γ) s', exec false a s r s' →
      (taken = false → Orderly a s) → M.exec false a s r s') :
    Performs M false (registering.threads false) ⟨none, none, 0, fun _ => false, [], taken⟩
      (.returned (.ok [()])) ⟨some 0, none, 1, firstOpen, [(0, ())], taken⟩ := by
  refine .act (r := (.ok () : Except Unit Unit)) (hM _ _ _ _ rfl (fun _ => trivial)) ?_
  refine .act (r := none) (hM _ _ _ _ ⟨rfl, rfl⟩ (fun _ => trivial)) ?_
  refine .act (r := ()) (hM _ _ _ _ ⟨rfl, rfl⟩ (fun _ => trivial)) ?_
  refine .act (r := none) (hM _ _ _ _ ⟨rfl, rfl⟩ (fun _ => trivial)) ?_
  refine .act (r := (.ok 0 : Except Unit ℕ)) (hM _ _ _ _ ⟨rfl, rfl⟩ (fun h => h)) ?_
  refine .act (r := ()) (hM _ _ _ _ rfl (fun _ => trivial)) ?_
  refine .act (r := ()) (hM _ _ _ _ rfl (fun _ => trivial)) ?_
  refine .act (r := (.ok () : Except Unit Unit)) (hM _ _ _ _ ⟨rfl, rfl⟩ (fun _ => trivial)) ?_
  refine .act (r := some 0) (hM _ _ _ _ ⟨rfl, rfl⟩ (fun _ => trivial)) ?_
  refine .act (r := (.ok [()] : Except Unit (List Unit)))
    (hM _ _ _ _ ⟨rfl, List.mem_cons_self, fun _ _ => List.mem_cons_self, rfl⟩ (fun _ => trivial)) ?_
  exact .done _ _

/-- The `close` of the service with its store. -/
theorem performs_close_of_stored :
    Performs orderlyMachine true (registering.threads true) ⟨some 0, none, 1, firstOpen, [(0, ())],
      false⟩
      (.closed (.ok ())) ⟨none, none, 1, Function.update firstOpen 0 false, [(0, ())], true⟩ := by
  refine .act (r := (.ok () : Except Unit Unit)) ⟨rfl, trivial⟩ ?_
  refine .act (r := ()) ⟨⟨rfl, rfl⟩, trivial⟩ ?_
  refine .act (r := some 0) ⟨⟨rfl, rfl⟩, trivial⟩ ?_
  refine .act (r := ()) ⟨rfl, fun h => absurd h (Option.some_ne_none 0)⟩ ?_
  refine .act (r := ()) ⟨rfl, trivial⟩ ?_
  refine .act (r := (.ok () : Except Unit Unit)) ⟨rfl, trivial⟩ ?_
  refine .act (r := (.ok () : Except Unit Unit)) ⟨rfl, trivial⟩ ?_
  exact .done _ _

/-- The `close` of a service that has no store yet. -/
theorem performs_close_of_empty :
    Performs machine true (registering.threads true) registering.state
      (.closed (.ok ())) ⟨none, none, 0, fun _ => false, [], true⟩ := by
  refine .act (r := (.ok () : Except Unit Unit)) rfl ?_
  refine .act (r := ()) ⟨rfl, rfl⟩ ?_
  refine .act (r := none) ⟨rfl, rfl⟩ ?_
  refine .act (r := ()) rfl ?_
  refine .act (r := ()) rfl ?_
  refine .act (r := (.ok () : Except Unit Unit)) rfl ?_
  exact .done _ _

/-- The threads when both calls have ended. -/
def bothEnded (first second : Bool) : Bool → Program (Action Unit Unit) (Outcome Unit Unit) :=
  Function.update (Function.update registering.threads first (endOf first)) second (endOf second)
where
  endOf (closes : Bool) : Program (Action Unit Unit) (Outcome Unit Unit) :=
    .done (cond closes (.closed (.ok ())) (.returned (.ok [()])))

/-- Two calls open the session together with a close: one session came of it. -/
theorem oneSession_of_reaches_registering :
    OneSession ⟨⟨none, none, 1, Function.update firstOpen 0 false, [(0, ())], true⟩,
      bothEnded false true⟩ := by
  have hFirst : Reaches orderlyMachine registering _ :=
    (performs_registerDataset (M := orderlyMachine) false (fun _ _ _ _ hExec hOrder =>
      ⟨hExec, hOrder rfl⟩)).reaches registering.threads rfl
  have hSecond := performs_close_of_stored.reaches
    (Function.update registering.threads false (bothEnded.endOf false)) rfl
  have hRun :
    Reaches orderlyMachine (started none (fun closes => cond closes .close .registerDataset)) _ :=
    hFirst.trans hSecond
  exact oneSession_of_reaches hRun

/-- A registration that runs on after a `close` creates a store that nobody closes. -/
theorem not_oneSession_of_close_first :
    ¬ ∀ c, Reaches machine registering c → OneSession c := by
  intro hAll
  have hFirst := performs_close_of_empty.reaches registering.threads rfl
  have hSecond := (performs_registerDataset (M := machine) true
    (fun _ _ _ _ hExec _ => hExec)).reaches
    (Function.update registering.threads true (bothEnded.endOf true)) rfl
  have hSession := hAll _ (hFirst.trans hSecond)
  have hClosed : firstOpen 0 = false := hSession.gone true rfl 0
  exact Bool.false_ne_true hClosed.symm

end ServiceSession
