import DefinedQuant.Shared.WorkerRuntime

/-!
# Slots and publications of the worker controller

What every interleaving of calls of a controller keeps, as long as the two unguarded steps of the
cleanup do not raise. A call owns its entries of the ledger and its registration; the lock protects
the closed flag, the registrations and the all-done event, so that a call inside a locked section
finds them as it left them.
-/

namespace WorkerRuntime

open Json Protocol Interleaving Interleaving.Code

variable {ι κ : Type}

/-! ## The discipline -/

/-- A call has a slot. -/
def Controller.HasSlot (s : Controller ι κ) (i : ι) : Prop :=
  s.ledger.released i < s.ledger.acquired i

/-- A call has published its bundle. -/
def Controller.Published (s : Controller ι κ) (i : ι) : Prop :=
  ∃ p ∈ s.ledger.publications, p.call = i

/-- What holds between any two actions. -/
structure Accounted (concurrentWorkers : ℕ) (s : Controller ι κ) : Prop where
  taken : ∀ i, s.ledger.released i ≤ s.ledger.acquired i ∧ s.ledger.acquired i ≤ 1
  slots : ∃ holders : Finset ι, (∀ i, i ∈ holders ↔ s.HasSlot i) ∧
    s.free + holders.card = concurrentWorkers
  running : s.ledger.running.Nodup ∧ ∀ i ∈ s.ledger.running, s.HasSlot i
  active : s.active.Nodup ∧ ∀ i ∈ s.active, s.HasSlot i
  publications : ∀ p ∈ s.ledger.publications, p.closed = false ∧ p.seen = false
  allDone : s.lock = none → (s.allDone = true ↔ s.active = [])

/-- What a call can rely on while the others act. -/
structure Undisturbed (i : ι) (s s' : Controller ι κ) : Prop where
  acquired : s'.ledger.acquired i = s.ledger.acquired i
  released : s'.ledger.released i = s.ledger.released i
  running : i ∈ s'.ledger.running ↔ i ∈ s.ledger.running
  active : i ∈ s'.active ↔ i ∈ s.active
  seen : s'.ledger.seen i = s.ledger.seen i
  published : s'.Published i ↔ s.Published i
  lock : s'.lock = some i ↔ s.lock = some i
  locked : s.lock = some i → s'.closed = s.closed ∧ s'.active = s.active ∧ s'.allDone = s.allDone

/-- Doing nothing disturbs nobody. -/
theorem Undisturbed.refl (i : ι) (s : Controller ι κ) : Undisturbed i s s :=
  ⟨rfl, rfl, Iff.rfl, Iff.rfl, rfl, Iff.rfl, Iff.rfl, fun _ => ⟨rfl, rfl, rfl⟩⟩

/-- Two steps that do not disturb a call together do not. -/
theorem Undisturbed.trans (i : ι) (s t u : Controller ι κ) (h : Undisturbed i s t)
    (h' : Undisturbed i t u) : Undisturbed i s u where
  acquired := h'.acquired.trans h.acquired
  released := h'.released.trans h.released
  running := h'.running.trans h.running
  active := h'.active.trans h.active
  seen := h'.seen.trans h.seen
  published := h'.published.trans h.published
  lock := h'.lock.trans h.lock
  locked := by
    intro hLock
    obtain ⟨hClosed, hActive, hAllDone⟩ := h.locked hLock
    obtain ⟨hClosed', hActive', hAllDone'⟩ := h'.locked (h.lock.2 hLock)
    exact ⟨hClosed'.trans hClosed, hActive'.trans hActive, hAllDone'.trans hAllDone⟩

/-- The discipline of a controller whose cleanup does not raise. -/
def discipline [DecidableEq ι] [DecidableEq κ] (concurrentWorkers : ℕ)
    (verifies : ι → OperationManifest → Prop) : Discipline (Action ι κ) ι (Controller ι κ) where
  toMachine := calmMachine concurrentWorkers verifies
  Inv := Accounted concurrentWorkers
  Rely := Undisturbed
  refl := Undisturbed.refl
  trans := Undisturbed.trans

/-! ## What a call knows -/

/-- What a call knows of itself. -/
structure Mine where
  acquired : ℕ
  released : ℕ
  running : Bool
  active : Bool
  seen : Bool
  published : Bool

/-- The controller has what the call knows. -/
structure Owns (i : ι) (v : Mine) (s : Controller ι κ) : Prop where
  acquired : s.ledger.acquired i = v.acquired
  released : s.ledger.released i = v.released
  running : i ∈ s.ledger.running ↔ v.running = true
  active : i ∈ s.active ↔ v.active = true
  seen : s.ledger.seen i = v.seen
  published : s.Published i ↔ v.published = true

/-- Outside of every locked section. -/
def Outside (i : ι) (v : Mine) (s : Controller ι κ) : Prop := Owns i v s ∧ s.lock ≠ some i

/-- Inside a locked section, with a fact about what the lock protects. -/
def Inside (i : ι) (v : Mine) (P : Bool → List ι → Bool → Prop) (s : Controller ι κ) : Prop :=
  Owns i v s ∧ s.lock = some i ∧ P s.closed s.active s.allDone

/-- The all-done event is set when no worker is active, and only then. -/
def Agree (_closed : Bool) (active : List ι) (allDone : Bool) : Prop := allDone = true ↔ active = []

variable {concurrentWorkers : ℕ} {verifies : ι → OperationManifest → Prop} {i : ι} {v : Mine}
  {P : Bool → List ι → Bool → Prop} {l : Locals} {s : Controller ι κ}

/-- The others leave what a call owns. -/
theorem Owns.undisturbed {s' : Controller ι κ} (h : Owns i v s) (hRely : Undisturbed i s s') :
    Owns i v s' where
  acquired := hRely.acquired.trans h.acquired
  released := hRely.released.trans h.released
  running := hRely.running.trans h.running
  active := hRely.active.trans h.active
  seen := hRely.seen.trans h.seen
  published := hRely.published.trans h.published

variable [DecidableEq ι] [DecidableEq κ]

/-- The others leave a call outside of the lock where it is. -/
theorem stable_outside : Stable (discipline concurrentWorkers verifies) i
    (Outside (κ := κ) i v) := by
  rintro s s' hRely ⟨hOwns, hLock⟩
  exact ⟨hOwns.undisturbed hRely, fun hLock' => hLock (hRely.lock.1 hLock')⟩

/-- The others cannot change the shared state while a call holds the lock. -/
theorem stable_inside : Stable (discipline concurrentWorkers verifies) i
    (Inside (κ := κ) i v P) := by
  rintro s s' hRely ⟨hOwns, hLock, hP⟩
  obtain ⟨hClosed, hActive, hAllDone⟩ := hRely.locked hLock
  refine ⟨hOwns.undisturbed hRely, hRely.lock.2 hLock, ?_⟩
  rwa [hClosed, hActive, hAllDone]

/-! ## The actions -/

omit [DecidableEq ι] [DecidableEq κ] in
/-- A change behind the lock, which leaves the ledger and the registrations of the others. -/
theorem undisturbed_of_ledger {s s' : Controller ι κ} {j : ι} (hLedger : s'.ledger = s.ledger)
    (hActive : j ∈ s'.active ↔ j ∈ s.active) (hLock : s'.lock = some j ↔ s.lock = some j)
    (hLocked : s.lock ≠ some j) : Undisturbed j s s' where
  acquired := by rw [hLedger]
  released := by rw [hLedger]
  running := by rw [hLedger]
  active := hActive
  seen := by rw [hLedger]
  published := by rw [Controller.Published, hLedger]; rfl
  lock := hLock
  locked hOther := absurd hOther hLocked

omit [DecidableEq ι] [DecidableEq κ] in
/-- A change of the ledger in the entries of one call. -/
theorem undisturbed_of_entries {s s' : Controller ι κ} {j : ι} (hClosed : s'.closed = s.closed)
    (hActive : s'.active = s.active) (hAllDone : s'.allDone = s.allDone) (hLock : s'.lock = s.lock)
    (hAcquired : s'.ledger.acquired j = s.ledger.acquired j)
    (hReleased : s'.ledger.released j = s.ledger.released j)
    (hRunning : j ∈ s'.ledger.running ↔ j ∈ s.ledger.running)
    (hSeen : s'.ledger.seen j = s.ledger.seen j) (hPublished : s'.Published j ↔ s.Published j) :
    Undisturbed j s s' where
  acquired := hAcquired
  released := hReleased
  running := hRunning
  active := by rw [hActive]
  seen := hSeen
  published := hPublished
  lock := by rw [hLock]
  locked _ := ⟨hClosed, hActive, hAllDone⟩

/-- A body under the lock may assume that the shared state agrees, and restores it. -/
theorem runs_withLock {α : Type} {x : Method ι κ α} {Q : Except Raised α → Locals → Mine → Prop}
    (h : Outside i v s)
    (hx : ∀ s, Inside i v Agree s → Runs (discipline concurrentWorkers verifies) i x
      (fun r l s => ∃ v', Inside i v' Agree s ∧ Q r l v') l s) :
    Runs (discipline concurrentWorkers verifies) i (withLock x)
      (fun r l s => ∃ v', Outside i v' s ∧ Q r l v') l s := by
  -- Taking the lock: it was free, so that the fields agreed.
  refine runs_bind (runs_step (fun t hRely hInv _ t' hExec => ?_))
  obtain ⟨⟨hFree, rfl⟩, -⟩ := hExec
  obtain ⟨hOwns, -⟩ := stable_outside s t hRely h
  refine ⟨⟨hInv.taken, hInv.slots, hInv.running, hInv.active, hInv.publications, ?_⟩, ?_, ?_⟩
  · intro hNone
    cases hNone
  · intro j hj
    refine undisturbed_of_ledger rfl Iff.rfl ?_ ?_
    · rw [hFree]
      simp [Ne.symm hj]
    · rw [hFree]
      simp
  · have hEntered : Inside i v Agree { t with lock := some i } :=
      ⟨⟨hOwns.acquired, hOwns.released, hOwns.running, hOwns.active, hOwns.seen, hOwns.published⟩,
        rfl, hInv.allDone hFree⟩
    -- Releasing it: the body has made them agree again.
    refine runs_finallyDo ((hx _ hEntered).mono ?_)
    rintro r l s ⟨v', hInside, hQ⟩
    refine runs_step (fun t hRely hInv _ t' hExec => ?_)
    obtain ⟨rfl, -⟩ := hExec
    obtain ⟨hOwns, hLock, hAgree⟩ := stable_inside s t hRely hInside
    refine ⟨⟨hInv.taken, hInv.slots, hInv.running, hInv.active, hInv.publications,
      fun _ => hAgree⟩, ?_, v', ⟨⟨hOwns.acquired, hOwns.released, hOwns.running, hOwns.active,
      hOwns.seen, hOwns.published⟩, nofun⟩, hQ⟩
    intro j hj
    refine undisturbed_of_ledger rfl Iff.rfl ?_ ?_
    · rw [hLock]
      simp [Ne.symm hj]
    · rw [hLock]
      simp [Ne.symm hj]

/-! ### The semaphore -/

/-- Acquiring capacity takes one slot or none. -/
theorem runs_acquireCapacity {Q : Except Raised Bool → Locals → Controller ι κ → Prop}
    (h : Outside i v s) (hAcquired : v.acquired = 0) (hReleased : v.released = 0)
    (hTaken : ∀ s, Outside i { v with acquired := 1 } s → Q (.ok true) l s)
    (hFull : ∀ s, Outside i v s → Q (.ok false) l s) :
    Runs (discipline concurrentWorkers verifies) i (step .acquireCapacity) Q l s := by
  refine runs_step (fun t hRely hInv r t' hExec => ?_)
  have hOutside := stable_outside s t hRely h
  obtain ⟨hOwns, hLock⟩ := hOutside
  have hZero : t.ledger.acquired i = 0 := hOwns.acquired.trans hAcquired
  have hZero' : t.ledger.released i = 0 := hOwns.released.trans hReleased
  -- The semaphore is full, and nothing changes, or it gives a slot to this call and to no other.
  cases r with
  | false =>
      obtain ⟨⟨-, rfl⟩, -⟩ := hExec
      exact ⟨hInv, fun j _ => Undisturbed.refl j _, hFull _ ⟨hOwns, hLock⟩⟩
  | true =>
      obtain ⟨⟨hFree, rfl⟩, -⟩ := hExec
      have hOne : Function.update t.ledger.acquired i (t.ledger.acquired i + 1) i = 1 := by
        rw [Function.update_self, hZero]
      have hOther : ∀ j, j ≠ i →
          Function.update t.ledger.acquired i (t.ledger.acquired i + 1) j = t.ledger.acquired j :=
        fun j hj => Function.update_of_ne hj _ _
      -- The calls that held a slot go on holding it.
      have hKept : ∀ j, t.HasSlot j → t.ledger.released j <
          Function.update t.ledger.acquired i (t.ledger.acquired i + 1) j := by
        intro j hSlot
        by_cases hj : j = i
        · rw [hj, hOne, hZero']
          decide
        · rw [hOther j hj]
          exact hSlot
      refine ⟨⟨?_, ?_, ⟨hInv.running.1, fun j hj => hKept j (hInv.running.2 j hj)⟩,
        ⟨hInv.active.1, fun j hj => hKept j (hInv.active.2 j hj)⟩, hInv.publications,
        hInv.allDone⟩, ?_, hTaken _ ⟨⟨hOne, hOwns.released, hOwns.running, hOwns.active, hOwns.seen,
        hOwns.published⟩, hLock⟩⟩
      · intro j
        show t.ledger.released j ≤ Function.update t.ledger.acquired i _ j ∧
          Function.update t.ledger.acquired i _ j ≤ 1
        by_cases hj : j = i
        · rw [hj, hOne, hZero']
          decide
        · rw [hOther j hj]
          exact hInv.taken j
      · -- the call joins the holders
        obtain ⟨holders, hHolders, hCount⟩ := hInv.slots
        have hNew : i ∉ holders := by
          rw [hHolders, Controller.HasSlot, hZero, hZero']
          exact Nat.lt_irrefl 0
        refine ⟨insert i holders, fun j => ?_, ?_⟩
        · rw [Finset.mem_insert, hHolders]
          show _ ↔ t.ledger.released j < Function.update t.ledger.acquired i _ j
          by_cases hj : j = i
          · rw [hj, hOne, hZero']
            exact iff_of_true (.inl rfl) (by decide)
          · rw [hOther j hj]
            exact ⟨fun hMem => hMem.resolve_left hj, .inr⟩
        · rw [Finset.card_insert_of_notMem hNew]
          show t.free - 1 + (holders.card + 1) = concurrentWorkers
          omega
      · intro j hj
        exact undisturbed_of_entries rfl rfl rfl rfl (hOther j hj) rfl Iff.rfl rfl Iff.rfl

/-- A slot is released by the call that took it, once its worker is neither running nor registered. -/
theorem runs_releaseCapacity {Q : Except Raised Unit → Locals → Controller ι κ → Prop}
    (h : Outside i v s) (hAcquired : v.acquired = 1) (hReleased : v.released = 0)
    (hRunning : v.running = false) (hActive : v.active = false)
    (hQ : ∀ s, Outside i { v with released := 1 } s → Q (.ok ()) l s) :
    Runs (discipline concurrentWorkers verifies) i (call .releaseCapacity) Q l s := by
  refine runs_call (fun t hRely hInv r t' hExec => ?_)
  obtain ⟨hOwns, hLock⟩ := stable_outside s t hRely h
  have hOne : t.ledger.acquired i = 1 := hOwns.acquired.trans hAcquired
  have hZero : t.ledger.released i = 0 := hOwns.released.trans hReleased
  obtain ⟨holders, hHolders, hCount⟩ := hInv.slots
  have hHolder : i ∈ holders := by
    rw [hHolders, Controller.HasSlot, hOne, hZero]
    decide
  have hPositive := Finset.card_pos.2 ⟨i, hHolder⟩
  cases r with
  | error e =>
      -- the semaphore is never released beyond its bound
      obtain ⟨⟨hFull, -⟩, -⟩ := hExec
      omega
  | ok u =>
      obtain ⟨⟨hFree, rfl⟩, -⟩ := hExec
      have hDone : Function.update t.ledger.released i (t.ledger.released i + 1) i = 1 := by
        rw [Function.update_self, hZero]
      have hOther : ∀ j, j ≠ i →
          Function.update t.ledger.released i (t.ledger.released i + 1) j = t.ledger.released j :=
        fun j hj => Function.update_of_ne hj _ _
      have hKept : ∀ j, j ≠ i → t.HasSlot j →
          Function.update t.ledger.released i (t.ledger.released i + 1) j <
            t.ledger.acquired j := by
        intro j hj hSlot
        rw [hOther j hj]
        exact hSlot
      refine ⟨⟨?_, ?_, ⟨hInv.running.1, fun j hj => hKept j ?_ (hInv.running.2 j hj)⟩,
        ⟨hInv.active.1, fun j hj => hKept j ?_ (hInv.active.2 j hj)⟩, hInv.publications,
        hInv.allDone⟩, ?_, hQ _ ⟨⟨hOwns.acquired, hDone, hOwns.running, hOwns.active, hOwns.seen,
        hOwns.published⟩, hLock⟩⟩
      · intro j
        show Function.update t.ledger.released i _ j ≤ t.ledger.acquired j ∧ t.ledger.acquired j ≤ 1
        by_cases hj : j = i
        · rw [hj, hDone, hOne]
          decide
        · rw [hOther j hj]
          exact hInv.taken j
      · refine ⟨holders.erase i, fun j => ?_, ?_⟩
        · rw [Finset.mem_erase, hHolders]
          show _ ↔ Function.update t.ledger.released i _ j < t.ledger.acquired j
          by_cases hj : j = i
          · rw [hj, hDone, hOne]
            exact iff_of_false (fun hMem => hMem.1 rfl) (by decide)
          · rw [hOther j hj]
            exact ⟨fun hMem => hMem.2, fun hMem => ⟨hj, hMem⟩⟩
        · rw [Finset.card_erase_of_mem hHolder]
          show t.free + 1 + (holders.card - 1) = concurrentWorkers
          omega
      · rintro rfl
        rw [hOwns.running, hRunning] at hj
        cases hj
      · rintro rfl
        rw [hOwns.active, hActive] at hj
        cases hj
      · intro j hj
        exact undisturbed_of_entries rfl rfl rfl rfl rfl (hOther j hj) Iff.rfl rfl Iff.rfl

/-! ### The native worker -/

/-- A worker is launched inside of the lock by a call that holds a slot. -/
theorem runs_launch {Q : Except Raised Unit → Locals → Controller ι κ → Prop}
    (h : Inside i v P s) (hSlot : v.released < v.acquired) (hRunning : v.running = false)
    (hOk : ∀ s, Inside i { v with running := true } P s → Q (.ok ()) l s)
    (hError : ∀ e s, Inside i v P s → Q (.error e) l s) :
    Runs (discipline concurrentWorkers verifies) i (call .launch) Q l s := by
  refine runs_call (fun t hRely hInv r t' hExec => ?_)
  obtain ⟨hOwns, hLock, hP⟩ := stable_inside s t hRely h
  cases r with
  | error e =>
      obtain ⟨rfl, -⟩ := hExec
      exact ⟨hInv, fun j _ => Undisturbed.refl j _, hError e _ ⟨hOwns, hLock, hP⟩⟩
  | ok u =>
      obtain ⟨rfl, -⟩ := hExec
      have hNew : i ∉ t.ledger.running := by
        rw [hOwns.running, hRunning]
        exact Bool.false_ne_true
      have hHas : t.HasSlot i := by
        rw [Controller.HasSlot, hOwns.released, hOwns.acquired]
        exact hSlot
      refine ⟨⟨hInv.taken, hInv.slots, ⟨List.nodup_cons.2 ⟨hNew, hInv.running.1⟩,
        List.forall_mem_cons.2 ⟨hHas, hInv.running.2⟩⟩, hInv.active, hInv.publications,
        hInv.allDone⟩, ?_, hOk _ ⟨⟨hOwns.acquired, hOwns.released,
        iff_of_true List.mem_cons_self rfl, hOwns.active, hOwns.seen, hOwns.published⟩, hLock, hP⟩⟩
      intro j hj
      refine undisturbed_of_entries rfl rfl rfl rfl rfl rfl ?_ rfl Iff.rfl
      exact List.mem_cons.trans (or_iff_right hj)

/-- A worker whose handle is closed runs no longer. -/
theorem runs_closeHandle {Q : Except Raised Unit → Locals → Controller ι κ → Prop}
    (h : Outside i v s) (hOk : ∀ s, Outside i { v with running := false } s → Q (.ok ()) l s)
    (hError : ∀ s, Outside i { v with running := false } s → Q (.error .process) l s) :
    Runs (discipline concurrentWorkers verifies) i (call .closeHandle) Q l s := by
  refine runs_call (fun t hRely hInv r t' hExec => ?_)
  obtain ⟨hOwns, hLock⟩ := stable_outside s t hRely h
  obtain ⟨rfl, hHolds⟩ := hExec
  have hGone : Outside i { v with running := false }
      { t with ledger := { t.ledger with running := t.ledger.running.erase i } } :=
    ⟨⟨hOwns.acquired, hOwns.released,
      iff_of_false (fun hMem => hInv.running.1.not_mem_erase hMem) Bool.false_ne_true,
      hOwns.active, hOwns.seen, hOwns.published⟩, hLock⟩
  refine ⟨⟨hInv.taken, hInv.slots, ⟨hInv.running.1.erase i, fun j hj =>
    hInv.running.2 j (List.mem_of_mem_erase hj)⟩, hInv.active, hInv.publications, hInv.allDone⟩,
    ?_, ?_⟩
  · intro j hj
    refine undisturbed_of_entries rfl rfl rfl rfl rfl rfl ?_ rfl Iff.rfl
    exact List.mem_erase_of_ne hj
  · cases r with
    | ok u => exact hOk _ hGone
    | error e =>
        obtain rfl : e = .process := hHolds
        exact hError _ hGone

/-! ### Behind the lock -/

/-- A launched worker is registered inside of the lock. -/
theorem runs_register {Q : Except Raised Unit → Locals → Controller ι κ → Prop}
    (h : Inside i v P s) (hSlot : v.released < v.acquired) (hActive : v.active = false)
    (hQ : ∀ s, Inside i { v with active := true } (fun _ active _ => active ≠ []) s →
      Q (.ok ()) l s) :
    Runs (discipline concurrentWorkers verifies) i (step .register) Q l s := by
  refine runs_step (fun t hRely hInv r t' hExec => ?_)
  obtain ⟨hOwns, hLock, hP⟩ := stable_inside s t hRely h
  obtain ⟨rfl, -⟩ := hExec
  have hNew : i ∉ t.active := by
    rw [hOwns.active, hActive]
    exact Bool.false_ne_true
  have hHas : t.HasSlot i := by
    rw [Controller.HasSlot, hOwns.released, hOwns.acquired]
    exact hSlot
  refine ⟨⟨hInv.taken, hInv.slots, hInv.running, ⟨List.nodup_cons.2 ⟨hNew, hInv.active.1⟩,
    List.forall_mem_cons.2 ⟨hHas, hInv.active.2⟩⟩, hInv.publications, fun hNone => ?_⟩, ?_,
    hQ _ ⟨⟨hOwns.acquired, hOwns.released, hOwns.running, iff_of_true List.mem_cons_self rfl,
    hOwns.seen, hOwns.published⟩, hLock, List.cons_ne_nil _ _⟩⟩
  · exact absurd (hLock.symm.trans hNone) nofun
  · intro j hj
    refine undisturbed_of_ledger rfl (List.mem_cons.trans (or_iff_right hj)) Iff.rfl ?_
    rw [hLock]
    simp [Ne.symm hj]

/-- It is unregistered inside of the lock. -/
theorem runs_unregister {Q : Except Raised Unit → Locals → Controller ι κ → Prop}
    (h : Inside i v Agree s) (hActive : v.active = true)
    (hQ : ∀ s, Inside i { v with active := false } (fun _ _ allDone => allDone = false) s →
      Q (.ok ()) l s) :
    Runs (discipline concurrentWorkers verifies) i (step .unregister) Q l s := by
  refine runs_step (fun t hRely hInv r t' hExec => ?_)
  obtain ⟨hOwns, hLock, hAgree⟩ := stable_inside s t hRely h
  obtain ⟨rfl, -⟩ := hExec
  have hMem : i ∈ t.active := hOwns.active.2 hActive
  have hAllDone : t.allDone = false := by
    rw [Bool.eq_false_iff]
    intro hDone
    rw [hAgree.1 hDone] at hMem
    cases hMem
  refine ⟨⟨hInv.taken, hInv.slots, hInv.running, ⟨hInv.active.1.erase i, fun j hj =>
    hInv.active.2 j (List.mem_of_mem_erase hj)⟩, hInv.publications, fun hNone => ?_⟩, ?_,
    hQ _ ⟨⟨hOwns.acquired, hOwns.released, hOwns.running,
    iff_of_false (fun hMem => hInv.active.1.not_mem_erase hMem) Bool.false_ne_true, hOwns.seen,
    hOwns.published⟩, hLock, hAllDone⟩⟩
  · exact absurd (hLock.symm.trans hNone) nofun
  · intro j hj
    refine undisturbed_of_ledger rfl (List.mem_erase_of_ne hj) Iff.rfl ?_
    rw [hLock]
    simp [Ne.symm hj]

/-- A change of the closed flag, the shutdown event or the all-done event, behind the lock. -/
theorem runs_mark {a : Action ι κ Unit} {Q : Except Raised Unit → Locals → Controller ι κ → Prop}
    {R : Bool → List ι → Bool → Prop} (closed shutdown allDone : Controller ι κ → Bool)
    (h : Inside i v P s)
    (hExec : ∀ s r s', (discipline concurrentWorkers verifies).exec i a s r s' →
      s' = { s with closed := closed s, shutdown := shutdown s, allDone := allDone s })
    (hP : ∀ s, P s.closed s.active s.allDone → R (closed s) s.active (allDone s))
    (hQ : ∀ s, Inside i v R s → Q (.ok ()) l s) :
    Runs (discipline concurrentWorkers verifies) i (step a) Q l s := by
  refine runs_step (fun t hRely hInv r t' hStep => ?_)
  obtain ⟨hOwns, hLock, hHolds⟩ := stable_inside s t hRely h
  obtain rfl := hExec t r t' hStep
  refine ⟨⟨hInv.taken, hInv.slots, hInv.running, hInv.active, hInv.publications, fun hNone => ?_⟩,
    ?_, hQ _ ⟨⟨hOwns.acquired, hOwns.released, hOwns.running, hOwns.active, hOwns.seen,
    hOwns.published⟩, hLock, hP t hHolds⟩⟩
  · exact absurd (hLock.symm.trans hNone) nofun
  · intro j hj
    refine undisturbed_of_ledger rfl Iff.rfl Iff.rfl ?_
    rw [hLock]
    simp [Ne.symm hj]

/-- Where a worker is registered, not all are done. -/
theorem runs_clearAllDone {Q : Except Raised Unit → Locals → Controller ι κ → Prop}
    (h : Inside i v (fun _ active _ => active ≠ []) s)
    (hQ : ∀ s, Inside i v Agree s → Q (.ok ()) l s) :
    Runs (discipline concurrentWorkers verifies) i (step .clearAllDone) Q l s :=
  runs_mark (fun s => s.closed) (fun s => s.shutdown) (fun _ => false) h (fun _ _ _ hExec =>
    hExec.1)
    (fun _ hActive => iff_of_false Bool.false_ne_true hActive) hQ

/-- Where none is registered, all are done. -/
theorem runs_setAllDone {Q : Except Raised Unit → Locals → Controller ι κ → Prop}
    (h : Inside i v (fun _ active _ => active = []) s)
    (hQ : ∀ s, Inside i v Agree s → Q (.ok ()) l s) :
    Runs (discipline concurrentWorkers verifies) i (step .setAllDone) Q l s :=
  runs_mark (fun s => s.closed) (fun s => s.shutdown) (fun _ => true) h (fun _ _ _ hExec => hExec.1)
    (fun _ hActive => iff_of_true rfl hActive) hQ

/-- A result is published while the controller is open, and once. -/
theorem runs_publish {Q : Except Raised Unit → Locals → Controller ι κ → Prop}
    (h : Inside i v (fun closed active allDone => closed = false ∧ Agree closed active allDone) s)
    (hSeen : v.seen = false)
    (hOk : ∀ s, Inside i { v with published := true } Agree s → Q (.ok ()) l s)
    (hError : ∀ e s, Inside i v Agree s → Q (.error e) l s) :
    Runs (discipline concurrentWorkers verifies) i (call .publish) Q l s := by
  refine runs_call (fun t hRely hInv r t' hExec => ?_)
  obtain ⟨hOwns, hLock, hClosed, hAgree⟩ := stable_inside s t hRely h
  cases r with
  | error e =>
      obtain ⟨rfl, -⟩ := hExec
      exact ⟨hInv, fun j _ => Undisturbed.refl j _, hError e _ ⟨hOwns, hLock, hAgree⟩⟩
  | ok u =>
      obtain ⟨rfl, -⟩ := hExec
      refine ⟨⟨hInv.taken, hInv.slots, hInv.running, hInv.active, ?_, hInv.allDone⟩, ?_,
        hOk _ ⟨⟨hOwns.acquired, hOwns.released, hOwns.running, hOwns.active, hOwns.seen,
        iff_of_true ?_ rfl⟩, hLock, hAgree⟩⟩
      · exact List.forall_mem_append.2 ⟨hInv.publications,
          List.forall_mem_singleton.2 ⟨hClosed, hOwns.seen.trans hSeen⟩⟩
      · intro j hj
        refine undisturbed_of_entries rfl rfl rfl rfl rfl rfl Iff.rfl rfl ?_
        constructor
        · rintro ⟨p, hp, rfl⟩
          rcases List.mem_append.1 hp with hp | hp
          · exact ⟨p, hp, rfl⟩
          · rw [List.mem_singleton.1 hp] at hj
            exact absurd rfl hj
        · rintro ⟨p, hp, hCall⟩
          exact ⟨p, List.mem_append_left _ hp, hCall⟩
      · exact ⟨_, List.mem_append_right _ List.mem_cons_self, rfl⟩

/-! ### Cancel events -/

/-- A look at the cancel event behind the lock is remembered. -/
theorem runs_isCancelled_inside {event : κ}
    {Q : Except Raised Bool → Locals → Controller ι κ → Prop} (h : Inside i v P s)
    (hQ : ∀ r s, Inside i { v with seen := v.seen || r } P s → Q (.ok r) l s) :
    Runs (discipline concurrentWorkers verifies) i (step (.isCancelled event)) Q l s := by
  refine runs_step (fun t hRely hInv r t' hExec => ?_)
  obtain ⟨hOwns, hLock, hP⟩ := stable_inside s t hRely h
  obtain ⟨⟨-, rfl⟩, -⟩ := hExec
  refine ⟨⟨hInv.taken, hInv.slots, hInv.running, hInv.active, hInv.publications, hInv.allDone⟩, ?_,
    hQ r _ ⟨⟨hOwns.acquired, hOwns.released, hOwns.running, hOwns.active, ?_, hOwns.published⟩,
    hLock, hP⟩⟩
  · intro j hj
    exact undisturbed_of_entries rfl rfl rfl rfl rfl rfl Iff.rfl (Function.update_of_ne hj _ _)
      Iff.rfl
  · show Function.update t.ledger.seen i _ i = _
    rw [Function.update_self, hOwns.seen, decide_eq_true hLock, Bool.and_true]

/-- Asking whether a call is cancelled changes nothing. -/
theorem exec_isCancelled_outside {event : κ} {s s' : Controller ι κ} {r : Bool}
    (hLock : s.lock ≠ some i)
    (hExec : (discipline concurrentWorkers verifies).exec i (.isCancelled event) s r s') :
    s' = s := by
  obtain ⟨⟨-, rfl⟩, -⟩ := hExec
  rw [decide_eq_false hLock, Bool.and_false, Bool.or_false, Function.update_eq_self]

/-! ## Methods that change nothing -/

/-- Between the sections of a call: what it owns, and whether `active` is set. -/
def Idle (i : ι) (v : Mine) (active : Bool) (l : Locals) (s : Controller ι κ) : Prop :=
  Outside i v s ∧ l.active = active

variable {active : Bool}

/-- The others leave a call idle. -/
theorem stable_idle (l : Locals) : Stable (discipline concurrentWorkers verifies) i
    (Idle (κ := κ) i v active l) := by
  rintro s s' hRely ⟨hOutside, hActive⟩
  exact ⟨stable_outside s s' hRely hOutside, hActive⟩

/-- A question to the outside leaves the call idle. -/
theorem keeps_ask {γ : Type} (c : Native ι γ) :
    Keeps (discipline concurrentWorkers verifies) i (Idle i v active) (ask (κ := κ) c) :=
  keeps_step stable_idle (fun _ _ _ hExec => hExec.1)

/-- So does a native call, whatever it raises. -/
theorem keeps_native {γ : Type} (c : Native ι (Except Raised γ)) :
    Keeps (discipline concurrentWorkers verifies) i (Idle i v active) (native (κ := κ) c) :=
  keeps_call stable_idle (fun _ _ _ hExec => hExec.1)

/-- Reading the shutdown flag does as well. -/
theorem keeps_readShutdown :
    Keeps (discipline concurrentWorkers verifies) i (Idle i v active)
      (step .readShutdown : Method ι κ Bool) :=
  keeps_step stable_idle (fun _ _ _ hExec => hExec.1.2)

/-- Both signs of a cancellation are only read. -/
theorem keeps_isCancelled (cancelEvent : Option κ) :
    Keeps (discipline concurrentWorkers verifies) i (Idle i v active) (isCancelled cancelEvent) :=
      by
  cases cancelEvent with
  | none => exact keeps_pure false
  | some event =>
      intro l s h
      refine runs_step (fun t hRely hInv r t' hExec => ?_)
      have hIdle := stable_idle l s t hRely h
      obtain rfl := exec_isCancelled_outside hIdle.1.2 hExec
      exact ⟨hInv, fun j _ => Undisturbed.refl j _, hIdle⟩

/-- An ignored error of a process changes nothing. -/
theorem keeps_ignoreProcess (e : Raised) :
    Keeps (discipline concurrentWorkers verifies) i (Idle (κ := κ) i v active) (ignoreProcess e) :=
      by
  cases e with
  | process => exact keeps_pure ()
  | _ => exact keeps_raise _

/-- A check changes nothing. -/
theorem keeps_raiseIf (condition : Bool) (e : Raised) :
    Keeps (discipline concurrentWorkers verifies) i (Idle (κ := κ) i v active)
      (raiseIf condition e) := by
  cases condition with
  | true => exact keeps_raise e
  | false => exact keeps_pure ()

/-- A body under a condition keeps the call idle where the body does. -/
theorem keeps_whenSet {body : Method ι κ Unit} (condition : Bool)
    (h : Keeps (discipline concurrentWorkers verifies) i (Idle i v active) body) :
    Keeps (discipline concurrentWorkers verifies) i (Idle i v active) (whenSet condition body) := by
  cases condition with
  | true => exact h
  | false => exact keeps_pure ()

/-- The limit on requests is a check. -/
theorem keeps_enforceRequestLimit (content : Bytes) :
    Keeps (discipline concurrentWorkers verifies) i (Idle (κ := κ) i v active)
      (enforceRequestLimit content) := by
  unfold enforceRequestLimit
  split
  · exact keeps_raise _
  · exact keeps_pure ()

/-- The limit on control files is a check. -/
theorem keeps_enforceControlLimit :
    Keeps (discipline concurrentWorkers verifies) i (Idle (κ := κ) i v active)
      enforceControlLimit := by
  refine keeps_bind (keeps_ask _) (fun actual => ?_)
  cases actual with
  | some actual => exact keeps_raise _
  | none => exact keeps_pure ()

/-- A round of the monitor asks and reads. -/
theorem keeps_monitorRound (cancelEvent : Option κ) :
    Keeps (discipline concurrentWorkers verifies) i (Idle i v active) (monitorRound cancelEvent) :=
      by
  unfold monitorRound
  refine keeps_bind keeps_readShutdown (fun shutdown => ?_)
  split
  · exact keeps_pure _
  refine keeps_bind (keeps_isCancelled cancelEvent) (fun cancelled => ?_)
  split
  · exact keeps_pure _
  refine keeps_bind (keeps_ask _) (fun overflow => ?_)
  split
  · exact keeps_pure _
  refine keeps_bind (keeps_ask _) (fun broken => ?_)
  split
  · exact keeps_pure _
  refine keeps_bind (keeps_rescue ?_ (fun e => ?_)) (fun polled => ?_)
  · refine keeps_bind (keeps_native _) (fun exceeded => ?_)
    split
    · exact keeps_pure _
    refine keeps_bind (keeps_native _) (fun exited => ?_)
    split <;> exact keeps_pure _
  · cases e with
    | process => exact keeps_pure _
    | _ => exact keeps_raise _
  · cases polled with
    | some reason => exact keeps_pure _
    | none =>
        refine keeps_bind (keeps_ask _) (fun passed => ?_)
        split <;> exact keeps_pure _

/-- So do all of its rounds. -/
theorem keeps_monitorLoop (cancelEvent : Option κ) (rounds : ℕ) :
    Keeps (discipline concurrentWorkers verifies) i (Idle i v active)
      (monitorLoop cancelEvent rounds) := by
  induction rounds with
  | zero =>
      refine keeps_bind (keeps_step stable_idle ?_) (fun never => never.elim)
      intro s never
      exact never.elim
  | succ rounds ih =>
      refine keeps_bind (keeps_monitorRound cancelEvent) (fun reason => ?_)
      cases reason with
      | some reason => exact keeps_pure _
      | none => exact ih

/-- The monitor registers nothing and publishes nothing. -/
theorem keeps_monitor (cancelEvent : Option κ) :
    Keeps (discipline concurrentWorkers verifies) i (Idle i v active) (monitor cancelEvent) :=
  keeps_bind (keeps_ask _) (keeps_monitorLoop cancelEvent)

/-- Cleaning up a process ends it and closes its handles. -/
theorem keeps_cleanupProcess (self : ι) :
    Keeps (discipline concurrentWorkers verifies) i (Idle (κ := κ) i v active)
      (cleanupProcess self) := by
  refine keeps_bind (keeps_rescue (keeps_native _) keeps_ignoreProcess) (fun _ => ?_)
  refine keeps_bind (keeps_rescue (keeps_native _) keeps_ignoreProcess) (fun _ => ?_)
  refine keeps_bind (keeps_rescue ?_ keeps_ignoreProcess) (fun _ => keeps_native _)
  exact keeps_bind (keeps_native _) (fun _ => keeps_native _)

/-- The request is written to the worker only. -/
theorem keeps_writeRequest :
    Keeps (discipline concurrentWorkers verifies) i (Idle (κ := κ) i v active) writeRequest := by
  refine keeps_rescue (keeps_bind (keeps_native _) (fun _ => keeps_pure _)) (fun e => ?_)
  cases e with
  | stream => exact keeps_pure _
  | _ => exact keeps_raise _

/-- The reason to stop is read off the signs. -/
theorem keeps_stopReason (cancelEvent : Option κ) (written : Bool) :
    Keeps (discipline concurrentWorkers verifies) i (Idle i v active)
      (stopReason cancelEvent written) := by
  cases written with
  | true => exact keeps_monitor cancelEvent
  | false => exact keeps_pure _

/-- Supervision as a whole keeps the call idle. -/
theorem keeps_superviseWorker (self : ι) (cancelEvent : Option κ) :
    Keeps (discipline concurrentWorkers verifies) i (Idle i v active)
      (superviseWorker self cancelEvent) := by
  refine keeps_bind (keeps_native _) (fun _ => ?_)
  refine keeps_bind keeps_writeRequest (fun written => ?_)
  refine keeps_bind (keeps_stopReason cancelEvent written) (fun reason => ?_)
  refine keeps_bind (keeps_cleanupProcess self) (fun _ => ?_)
  refine keeps_bind keeps_enforceControlLimit (fun _ => ?_)
  cases reason with
  | some code => exact keeps_raise _
  | none => exact keeps_bind keeps_readShutdown (fun shutdown => keeps_raiseIf shutdown _)

/-- The response is read and checked. -/
theorem keeps_collectResult
    (controlResponse : Bytes → Except Raised (Option OperationResult × List Text)) :
    Keeps (discipline concurrentWorkers verifies) i (Idle (κ := κ) i v active)
      (collectResult controlResponse) := by
  refine keeps_bind (keeps_native _) (fun exitFailed => ?_)
  refine keeps_bind (keeps_ask _) (fun content => ?_)
  refine keeps_bind (keeps_ask _) (fun overflow => ?_)
  refine keeps_bind (keeps_raiseIf _ _) (fun _ => ?_)
  refine keeps_bind (keeps_raiseIf _ _) (fun _ => ?_)
  split
  · exact keeps_raise _
  · exact keeps_raise _
  · refine keeps_bind (keeps_ask _) (fun emitted => ?_)
    split
    · exact keeps_bind (keeps_ask _) (fun _ => keeps_pure _)
    · exact keeps_pure _

/-! ## The sections of a call -/

/-- Reading what the lock protects. -/
theorem runs_readClosed {Q : Except Raised Bool → Locals → Controller ι κ → Prop}
    (h : Inside i v P s)
    (hQ : ∀ closed s, Inside i v (fun closed' active allDone => closed' = closed ∧
      P closed' active allDone) s → Q (.ok closed) l s) :
    Runs (discipline concurrentWorkers verifies) i (step .readClosed) Q l s :=
  runs_step_of_reads stable_inside h (fun _ _ _ hExec => hExec.1.2)
    (fun s closed hInside _ hExec =>
      hQ closed s ⟨hInside.1, hInside.2.1, hExec.1.1.symm, hInside.2.2⟩)

/-- Under the lock, the registered workers are those that are read. -/
theorem runs_activeWorkers {Q : Except Raised (List ι) → Locals → Controller ι κ → Prop}
    (h : Inside i v P s)
    (hQ : ∀ workers s, Inside i v (fun closed active allDone => active = workers ∧
      P closed active allDone) s → Q (.ok workers) l s) :
    Runs (discipline concurrentWorkers verifies) i (step .activeWorkers) Q l s :=
  runs_step_of_reads stable_inside h (fun _ _ _ hExec => hExec.1.2)
    (fun s workers hInside _ hExec =>
      hQ workers s ⟨hInside.1, hInside.2.1, hExec.1.1.symm, hInside.2.2⟩)

omit [DecidableEq ι] [DecidableEq κ] in
/-- Inside of the lock, a weaker fact about the shared state holds too. -/
theorem Inside.mono {P' : Bool → List ι → Bool → Prop} (h : Inside i v P s)
    (hP : ∀ closed active allDone, P closed active allDone → P' closed active allDone) :
    Inside i v P' s :=
  ⟨h.1, h.2.1, hP _ _ _ h.2.2⟩

/-- The check for a closed controller, behind the lock. -/
theorem runs_requireOpen {Q : Except Raised Unit → Locals → Controller ι κ → Prop}
    (h : Inside i v P s) (hOk : ∀ s, Inside i v (fun closed active allDone => closed = false ∧
      P closed active allDone) s → Q (.ok ()) l s)
    (hError : ∀ s, Inside i v P s → Q (.error (failure .workerCancelled)) l s) :
    Runs (discipline concurrentWorkers verifies) i requireOpen Q l s := by
  refine runs_bind (runs_readClosed h (fun closed s hRead => ?_))
  cases closed with
  | true => exact runs_raise (hError s (hRead.mono (fun _ _ _ hP => hP.2)))
  | false => exact runs_pure (hOk s hRead)

/-- Asking whether the controller is open changes nothing. -/
theorem keeps_requireOpen :
    Keeps (discipline concurrentWorkers verifies) i (Idle (κ := κ) i v active)
      (withLock requireOpen) := by
  rintro l s ⟨hOutside, hActive⟩
  refine (runs_withLock (Q := fun _ l' v' => l' = l ∧ v' = v) hOutside (fun s hInside => ?_)).mono
    ?_
  · refine runs_requireOpen hInside (fun s hOpen => ?_) (fun s hInside => ?_)
    · exact ⟨v, hOpen.mono (fun _ _ _ hP => hP.2), rfl, rfl⟩
    · exact ⟨v, hInside, rfl, rfl⟩
  · rintro r l' s ⟨v', hOutside', rfl, rfl⟩
    exact ⟨hOutside', hActive⟩

/-- The launch: a worker that is running and registered, or nothing. -/
theorem runs_launchWorker (h : Idle i v false l s) (hSlot : v.released < v.acquired)
    (hRunning : v.running = false) (hActive : v.active = false) :
    Runs (discipline concurrentWorkers verifies) i (launchWorker (κ := κ))
      (fun r l s =>
        match r with
        | .ok _ => Idle i { v with running := true, active := true } true l s
        | .error _ => Idle i v false l s) l s := by
  obtain ⟨hOutside, hLocal⟩ := h
  refine runs_rescue ((runs_withLock (Q := fun r l' v' =>
    match r with
    | .ok _ => l'.active = true ∧ v' = { v with running := true, active := true }
    | .error _ => l'.active = false ∧ v' = v) hOutside (fun s hInside => ?_)).mono ?_)
  · refine runs_bind (runs_requireOpen hInside (fun s hOpen => ?_) (fun s hInside => ?_))
    · refine runs_bind (runs_launch hOpen hSlot hRunning (fun s hLaunched => ?_)
        (fun e s hOpen => ?_))
      · refine runs_bind (runs_assign ?_)
        refine runs_bind (runs_register hLaunched hSlot hActive (fun s hRegistered => ?_))
        exact runs_clearAllDone hRegistered (fun s hAgree => ⟨_, hAgree, rfl, rfl⟩)
      · exact ⟨v, hOpen.mono (fun _ _ _ hP => hP.2), hLocal, rfl⟩
    · exact ⟨v, hInside, hLocal, rfl⟩
  · rintro r l' s ⟨v', hOutside', hQ⟩
    cases r with
    | ok u =>
        obtain ⟨hLocal', rfl⟩ := hQ
        exact ⟨hOutside', hLocal'⟩
    | error e =>
        obtain ⟨hLocal', rfl⟩ := hQ
        cases e <;> exact runs_raise ⟨hOutside', hLocal'⟩

/-- The close of a worker of a call. -/
theorem runs_closeActive (h : Idle i v true l s) (hActive : v.active = true) :
    Runs (discipline concurrentWorkers verifies) i (closeActive (κ := κ))
      (fun r _ s => r = .ok () ∧ Outside i { v with running := false, active := false } s) l s := by
  have hClose : ∀ s, Outside i { v with running := false } s →
      Runs (discipline concurrentWorkers verifies) i
        (withLock do
          step .unregister
          whenSet (← step .activeWorkers).isEmpty (step .setAllDone))
        (fun r _ s => r = .ok () ∧
          Outside (κ := κ) i { v with running := false, active := false } s)
        l s := by
    intro s hOutside
    refine (runs_withLock (Q := fun r _ v' =>
      r = .ok () ∧ v' = { v with running := false, active := false }) hOutside
      (fun s hInside => ?_)).mono ?_
    · refine runs_bind (runs_unregister hInside hActive (fun s hGone => ?_))
      refine runs_bind (runs_activeWorkers hGone (fun workers s hWorkers => ?_))
      cases workers with
      | nil =>
          refine runs_setAllDone (hWorkers.mono (fun _ _ _ hP => hP.1)) (fun s hAgree => ?_)
          exact ⟨_, hAgree, rfl, rfl⟩
      | cons worker workers =>
          refine ⟨_, hWorkers.mono (fun _ active allDone hP => ?_), rfl, rfl⟩
          rw [Agree, hP.1, hP.2]
          exact iff_of_false Bool.false_ne_true (List.cons_ne_nil _ _)
    · rintro r l' s ⟨v', hOutside', rfl, rfl⟩
      exact ⟨rfl, hOutside'⟩
  refine runs_bind (runs_rescue (runs_closeHandle h.1 (fun s hClosed => ?_) (fun s hClosed => ?_)))
  · exact hClose s hClosed
  · exact hClose s hClosed

/-! ## A call and its slot -/

/-- What a call knows before it starts. -/
def Mine.fresh : Mine := ⟨0, 0, false, false, false, false⟩

/-- What a call knows while it holds its slot. -/
def Mine.holding (worker seen published : Bool) : Mine := ⟨1, 0, worker, worker, seen, published⟩

/-- The body of a call has ended: its slot is held, its worker is the one that `active` names. -/
def Holding (i : ι) (G : Bool → Prop) (l : Locals) (s : Controller ι κ) : Prop :=
  ∃ seen published, Idle i (.holding l.active seen published) l.active l s ∧ G published

/-- A call has given its slot back and has no worker. -/
def Finished (i : ι) (G : Bool → Prop) (s : Controller ι κ) : Prop :=
  ∃ acquired seen published, Outside i ⟨acquired, acquired, false, false, seen, published⟩ s ∧
    G published

/-- What is suppressed is an error; the call stays idle. -/
theorem keeps_suppress {body : Method ι κ Unit}
    (h : Keeps (discipline concurrentWorkers verifies) i (Idle i v active) body) {l : Locals}
    {s : Controller ι κ} (hIdle : Idle i v active l s) :
    Runs (discipline concurrentWorkers verifies) i (suppress body)
      (fun r l s => r = .ok () ∧ Idle i v active l s) l s := by
  refine runs_rescue ((h l s hIdle).mono (fun r l s hr => ?_))
  cases r with
  | ok u => exact ⟨rfl, hr⟩
  | error e => exact ⟨rfl, hr⟩

/-- The test for the work root returns. -/
theorem runs_workRootExists {Q : Except Raised Bool → Locals → Controller ι κ → Prop}
    (h : Idle i v active l s) (hQ : ∀ found s, Idle i v active l s → Q (.ok found) l s) :
    Runs (discipline concurrentWorkers verifies) i (native .workRootExists) Q l s := by
  refine runs_call_of_reads (stable_idle l) h (fun _ _ _ hExec => hExec.1) ?_
  intro s r hIdle _ hExec
  cases r with
  | ok found => exact hQ found s hIdle
  | error e => exact absurd hExec.2 id

/-- The `finally` clause gives the slot back, whatever the call did. -/
theorem runs_releaseAll {G : Bool → Prop} (h : Holding i G l s) :
    Runs (discipline concurrentWorkers verifies) i (releaseAll (κ := κ))
      (fun r _ s => r = .ok () ∧ Finished i G s) l s := by
  obtain ⟨seen, published, hIdle, hG⟩ := h
  -- behind the close of the worker
  have hRest : ∀ l s, Idle i (.holding false seen published) l.active l s →
      Runs (discipline concurrentWorkers verifies) i
        (do
          whenSet (← locals).workRoot (do
            whenSet (← native .workRootExists) (suppress (native .removeWorkRoot)))
          whenSet (← locals).workspace (suppress (native .closeWorkspace))
          call .releaseCapacity)
        (fun r _ s => r = .ok () ∧ Finished (κ := κ) i G s) l s := by
    intro l s hIdle
    have hRelease : ∀ l s, Idle i (.holding false seen published) l.active l s →
        Runs (discipline concurrentWorkers verifies) i (call .releaseCapacity)
          (fun r _ s => r = .ok () ∧ Finished (κ := κ) i G s) l s :=
      fun l s hIdle => runs_releaseCapacity hIdle.1 rfl rfl rfl rfl
        (fun s hOutside => ⟨rfl, 1, seen, published, hOutside, hG⟩)
    have hWorkspace : ∀ l s, Idle i (.holding false seen published) l.active l s →
        Runs (discipline concurrentWorkers verifies) i
          (do
            whenSet (← locals).workspace (suppress (native .closeWorkspace))
            call .releaseCapacity)
          (fun r _ s => r = .ok () ∧ Finished (κ := κ) i G s) l s := by
      intro l s hIdle
      refine runs_bind (runs_locals (runs_bind ?_))
      cases l.workspace with
      | false => exact runs_pure (hRelease l s hIdle)
      | true =>
          refine (keeps_suppress (keeps_native _) hIdle).mono ?_
          rintro r l' s ⟨rfl, hOutside, hActive⟩
          exact hRelease l' s ⟨hOutside, rfl⟩
    refine runs_bind (runs_locals (runs_bind ?_))
    cases l.workRoot with
    | false => exact runs_pure (hWorkspace l s hIdle)
    | true =>
        refine runs_bind (runs_workRootExists hIdle (fun found s hIdle => ?_))
        cases found with
        | false => exact runs_pure (hWorkspace l s hIdle)
        | true =>
            refine (keeps_suppress (keeps_native _) hIdle).mono ?_
            rintro r l' s ⟨rfl, hOutside, hActive⟩
            exact hWorkspace l' s ⟨hOutside, rfl⟩
  refine runs_bind (runs_locals (runs_bind ?_))
  cases hActive : l.active with
  | false =>
      rw [hActive] at hIdle
      exact runs_pure (hRest l s ⟨hIdle.1, rfl⟩)
  | true =>
      rw [hActive] at hIdle
      refine (runs_closeActive hIdle rfl).mono ?_
      rintro r l' s ⟨rfl, hOutside⟩
      exact hRest l' s ⟨hOutside, rfl⟩

/-- A call gives back every slot that it takes. `G` is what its result says about its publication. -/
theorem runs_withSlot {α : Type} {body : Method ι κ α} {G : Option α → Bool → Prop}
    (h : Outside i .fresh s) (hLocals : l.active = false) (hNone : G none false)
    (hBody : ∀ s, Idle i (.holding false false false) false l s →
      Runs (discipline concurrentWorkers verifies) i body
        (fun r l s => Holding i (G r.toOption) l s) l s) :
    Runs (discipline concurrentWorkers verifies) i (withSlot body)
      (fun r _ s => Finished i (G r.toOption) s) l s := by
  refine runs_bind (runs_acquireCapacity h rfl rfl (fun s hTaken => ?_) (fun s hFull => ?_))
  · refine runs_bind (runs_pure ?_)
    refine runs_finallyDo
      (runs_rescue ((hBody s ⟨hTaken, hLocals⟩).mono (fun r l s hHolding => ?_)))
    have hEnd : ∀ r : Except Raised α, Holding i (G r.toOption) l s →
        Runs (discipline concurrentWorkers verifies) i releaseAll
          (fun released _ s => Ends (fun _ => Finished (κ := κ) i (G r.toOption) s)
            (fun e => Finished i (G (Except.error e : Except Raised α).toOption) s) released)
          l s := by
      intro r hHolding
      refine (runs_releaseAll hHolding).mono ?_
      rintro _ _ _ ⟨rfl, hFinished⟩
      exact hFinished
    cases r with
    | ok a => exact hEnd (.ok a) hHolding
    | error e =>
        cases e with
        | process => exact runs_raise (hEnd (.error (failure .workerCrashed)) hHolding)
        | _ => exact runs_raise (hEnd (.error _) hHolding)
  · exact runs_bind (runs_raise ⟨0, false, false, hFull, hNone⟩)

end WorkerRuntime
