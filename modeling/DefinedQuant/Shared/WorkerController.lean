import DefinedQuant.Shared.WorkerAccounting

/-!
# Every interleaving of a worker controller

The methods of the controller against the discipline of `WorkerAccounting`, and what follows for a
whole run: any number of calls, closes and cancellations in any interleaving.
-/

namespace WorkerRuntime

open Json Protocol Interleaving Interleaving.Code

variable {ι κ : Type} [DecidableEq ι] [DecidableEq κ] {concurrentWorkers : ℕ}
  {verifies : ι → OperationManifest → Prop} {i : ι} {v : Mine} {P : Bool → List ι → Bool → Prop}
  {l : Locals} {s : Controller ι κ} {active : Bool}

/-! ## The methods of a call -/

omit [DecidableEq ι] [DecidableEq κ] in
/-- An idle call holds what it holds. -/
theorem holding_of_idle {G : Bool → Prop} {worker seen published : Bool}
    (h : Idle i (.holding worker seen published) worker l s) (hG : G published) :
    Holding i G l s := by
  obtain ⟨hOutside, hActive⟩ := h
  subst hActive
  exact ⟨seen, published, ⟨hOutside, rfl⟩, hG⟩

/-- An assignment that leaves `active`. -/
theorem keeps_assign {f : Locals → Locals} (hf : ∀ l, (f l).active = l.active) :
    Keeps (discipline concurrentWorkers verifies) i (Idle (κ := κ) i v active)
      (assign f : Method ι κ Unit) :=
  fun l _ h => runs_assign ⟨h.1, (hf l).trans h.2⟩

/-- Preparing an operation leaves the call idle. -/
theorem keeps_prepareOperation :
    Keeps (discipline concurrentWorkers verifies) i (Idle (κ := κ) i v active) prepareOperation :=
      by
  refine keeps_bind (keeps_native _) (fun _ => ?_)
  refine keeps_bind (keeps_native _) (fun _ => ?_)
  refine keeps_bind (keeps_assign (fun _ => rfl)) (fun _ => ?_)
  exact keeps_bind (keeps_native _) keeps_enforceRequestLimit

/-- So does preparing an inspection. -/
theorem keeps_prepareInspection :
    Keeps (discipline concurrentWorkers verifies) i (Idle (κ := κ) i v active) prepareInspection :=
      by
  refine keeps_rescue ?_ (fun e => ?_)
  · refine keeps_bind (keeps_native _) (fun _ => ?_)
    refine keeps_bind (keeps_native _) (fun _ => ?_)
    refine keeps_bind (keeps_assign (fun _ => rfl)) (fun _ => ?_)
    exact keeps_bind (keeps_native _) keeps_enforceRequestLimit
  · cases e with
    | host code details => exact keeps_raise _
    | _ => exact keeps_raise _

/-- What fails in the preparation becomes a failed result. -/
theorem runs_prepared (h : Idle i v active l s) :
    Runs (discipline concurrentWorkers verifies) i (prepared (κ := κ))
      (fun r l s => Idle i v active l s ∧
        ∀ execution, r = .ok (some execution) → ∃ f, execution.result = .failure f) l s := by
  refine runs_rescue (runs_bind_of_keeps keeps_prepareOperation h (fun _ l s hIdle => ?_)
    (fun e l s hIdle => ?_))
  · refine runs_pure ⟨hIdle, fun execution hExecution => ?_⟩
    cases Except.ok.inj hExecution
  · cases e with
    | host code details => exact runs_raise ⟨hIdle, fun execution hExecution => by cases hExecution⟩
    | _ =>
        refine runs_bind_of_keeps (keeps_ask _) hIdle (fun f l s hIdle => ?_)
          (fun e l s hIdle => ⟨hIdle, fun execution hExecution => by cases hExecution⟩)
        refine runs_pure ⟨hIdle, fun execution hExecution => ⟨f, ?_⟩⟩
        obtain rfl := Option.some.inj (Except.ok.inj hExecution)
        rfl

/-- A look at the cancel event of a call, behind the lock. -/
theorem runs_isCancelled {cancelEvent : Option κ}
    {Q : Except Raised Bool → Locals → Controller ι κ → Prop} (h : Inside i v P s)
    (hQ : ∀ r s, Inside i { v with seen := v.seen || r } P s → Q (.ok r) l s) :
    Runs (discipline concurrentWorkers verifies) i (isCancelled cancelEvent) Q l s := by
  cases cancelEvent with
  | some event => exact runs_isCancelled_inside h hQ
  | none =>
      refine runs_pure (hQ false s ?_)
      rw [Bool.or_false]
      exact h

/-- A native call behind the lock. -/
theorem runs_native_inside {γ : Type} {c : Native ι (Except Raised γ)}
    {Q : Except Raised γ → Locals → Controller ι κ → Prop} (h : Inside i v P s)
    (hQ : ∀ r s, Inside i v P s → Q r l s) :
    Runs (discipline concurrentWorkers verifies) i (native c) Q l s :=
  runs_call_of_reads stable_inside h (fun _ _ _ hExec => hExec.1) (fun s r hInside _ _ =>
    hQ r s hInside)

/-- The section that publishes: the bundle is published where it ends, and only there. -/
theorem runs_publishSection {cancelEvent : Option κ}
    (h : Idle i (.holding true false false) true l s) :
    Runs (discipline concurrentWorkers verifies) i
      (withLock do
        raiseIf (← step .readClosed) (failure .workerCancelled)
        raiseIf (← isCancelled cancelEvent) (failure .workerCancelled)
        native .ensureParent
        call .publish)
      (fun r l s => ∃ seen, Idle i (.holding true seen r.isOk) true l s) l s := by
  obtain ⟨hOutside, hActive⟩ := h
  refine (runs_withLock (Q := fun r l' v' =>
    l'.active = true ∧ ∃ seen, v' = .holding true seen r.isOk) hOutside (fun s hInside => ?_)).mono
      ?_
  -- Every way out of the section releases the lock with the same facts; only the last step
  -- publishes.
  · have hKeep : ∀ {seen : Bool} {e : Raised} {s : Controller ι κ}
        {P : Bool → List ι → Bool → Prop},
        Inside i (.holding true seen false) (fun closed active allDone =>
          P closed active allDone ∧ Agree closed active allDone) s →
        ∃ v', Inside i v' Agree s ∧ l.active = true ∧
          ∃ seen, v' = .holding true seen (Except.error e : Except Raised Unit).isOk :=
      fun hOpen => ⟨_, hOpen.mono (fun _ _ _ hP => hP.2), hActive, _, rfl⟩
    refine runs_bind (runs_readClosed hInside (fun closed s hRead => runs_bind ?_))
    cases closed with
    | true => exact runs_raise (hKeep hRead)
    | false =>
        refine runs_pure
          (runs_bind (runs_isCancelled hRead (fun cancelled s hSeen => runs_bind ?_)))
        cases cancelled with
        | true => exact runs_raise (hKeep hSeen)
        | false =>
            refine runs_pure (runs_bind (runs_native_inside hSeen (fun r s hOpen => ?_)))
            cases r with
            | error e => exact hKeep hOpen
            | ok u =>
                refine runs_publish hOpen rfl (fun s hPublished => ?_) (fun e s hAgree => ?_)
                · exact ⟨_, hPublished, hActive, false, rfl⟩
                · exact ⟨_, hAgree, hActive, false, rfl⟩
  · rintro r l' s ⟨v', hOutside', hActive', seen, rfl⟩
    exact ⟨seen, hOutside', hActive'⟩

/-- What the result of a call says about its publication. -/
def Delivered (verifies : ι → OperationManifest → Prop) (i : ι) (result : Option OperationResult)
    (published : Bool) : Prop :=
  (published = true ↔ ∃ success, result = some (.success success)) ∧
    ∀ success, result = some (.success success) → verifies i success.manifest

omit [DecidableEq ι] in
/-- Without a result nothing is delivered. -/
theorem delivered_none : Delivered verifies i none false := by
  refine ⟨iff_of_false Bool.false_ne_true ?_, ?_⟩
  · rintro ⟨success, hSuccess⟩
    cases hSuccess
  · intro success hSuccess
    cases hSuccess

omit [DecidableEq ι] in
/-- A failure is delivered without a publication. -/
theorem delivered_failure (f : OperationFailure) : Delivered verifies i (some (.failure f))
    false := by
  refine ⟨iff_of_false Bool.false_ne_true ?_, ?_⟩
  · rintro ⟨success, hSuccess⟩
    cases hSuccess
  · intro success hSuccess
    cases hSuccess

/-- Publishing a result takes place under the lock, once, unless the call was cancelled. -/
theorem runs_publishResult {cancelEvent : Option κ} {result : OperationResult}
    (h : Idle i (.holding true false false) true l s) :
    Runs (discipline concurrentWorkers verifies) i (publishResult cancelEvent result)
      (fun r l s => ∃ seen published, Idle i (.holding true seen published) true l s ∧
        Delivered verifies i r.toOption published) l s := by
  cases result with
  | failure f => exact runs_pure ⟨false, false, h, delivered_failure f⟩
  | success success =>
      -- an exception in the section leaves nothing published
      have hFailed : ∀ {l} {s : Controller ι κ} {seen}, Idle i (.holding true seen false) true l s →
          Runs (discipline concurrentWorkers verifies) i
            (do return OperationResult.failure (← ask .operationFailure) :
              Method ι κ OperationResult)
            (fun r l s => ∃ seen published, Idle i (.holding true seen published) true l s ∧
              Delivered verifies i r.toOption published) l s := by
        intro l s seen hIdle
        refine runs_bind_of_keeps (keeps_ask _) hIdle (fun f l s hIdle => ?_)
          (fun e l s hIdle => ⟨seen, false, hIdle, delivered_none⟩)
        exact runs_pure ⟨seen, false, hIdle, delivered_failure f⟩
      refine runs_rescue (runs_bind (runs_bind ?_))
      refine runs_call_of_reads (stable_idle l) h (fun s r s' hExec => ?_)
        (fun s r hIdle _ hExec => ?_)
      · cases r with
        | ok u => exact hExec.1.2
        | error e => exact hExec.1
      · cases r with
        | error e =>
            cases e with
            | host code details => exact runs_raise ⟨_, false, hIdle, delivered_none⟩
            | _ => exact hFailed hIdle
        | ok u =>
            obtain ⟨⟨hVerifies, -⟩, -⟩ := hExec
            refine (runs_publishSection hIdle).mono ?_
            rintro r l s ⟨seen, hPublished⟩
            cases r with
            | error e =>
                cases e with
                | host code details => exact runs_raise ⟨_, false, hPublished, delivered_none⟩
                | _ => exact hFailed hPublished
            | ok u =>
                refine runs_pure ⟨seen, true, hPublished, iff_of_true rfl ⟨success, rfl⟩, ?_⟩
                intro success' hSuccess
                obtain rfl := OperationResult.success.inj (Option.some.inj hSuccess)
                exact hVerifies

/-! ## Calls -/

/-- From the launch to the end of the worker, which `active` names. -/
theorem runs_worker {α : Type} {cancelEvent : Option κ} {rest : Method ι κ α}
    {G : Option α → Bool → Prop} (h : Idle i (.holding false false false) false l s)
    (hNone : G none false) (hRest : ∀ l s, Idle i (.holding true false false) true l s →
      Runs (discipline concurrentWorkers verifies) i rest
        (fun r l s => Holding i (G r.toOption) l s) l s) :
    Runs (discipline concurrentWorkers verifies) i
      (do
        launchWorker
        superviseWorker i cancelEvent
        rest)
      (fun r l s => Holding i (G r.toOption) l s) l s := by
  refine runs_bind ((runs_launchWorker h (by decide) rfl rfl).mono (fun r l s hLaunched => ?_))
  cases r with
  | error e => exact holding_of_idle hLaunched hNone
  | ok u =>
      refine runs_bind_of_keeps (keeps_superviseWorker i cancelEvent) hLaunched
        (fun _ l s hIdle => hRest l s hIdle) (fun e l s hIdle => ?_)
      exact holding_of_idle hIdle hNone

/-- `execute_operation` -/
theorem runs_executeOperation
    {controlResponse : Bytes → Except Raised (Option OperationResult × List Text)}
    {cancelEvent : Option κ} (h : Outside i .fresh s) (hLocals : l.active = false) :
    Runs (discipline concurrentWorkers verifies) i (executeOperation controlResponse i cancelEvent)
      (fun r _ s => Finished i (Delivered verifies i (r.toOption.map WorkerExecution.result)) s) l
        s := by
  refine runs_withSlot (G :=
    fun execution => Delivered verifies i (execution.map WorkerExecution.result)) h
    hLocals delivered_none (fun s hIdle => ?_)
  refine runs_bind_of_keeps keeps_requireOpen hIdle (fun _ l s hIdle => ?_)
    (fun e l s hIdle => holding_of_idle hIdle delivered_none)
  refine runs_bind ((runs_prepared hIdle).mono ?_)
  rintro r l s ⟨hIdle, hFailure⟩
  cases r with
  | error e => exact holding_of_idle hIdle delivered_none
  | ok failed =>
      cases failed with
      | some execution =>
          obtain ⟨f, hResult⟩ := hFailure execution rfl
          refine runs_pure (holding_of_idle hIdle ?_)
          show Delivered verifies i (some execution.result) false
          rw [hResult]
          exact delivered_failure f
      | none =>
          refine runs_worker (G := fun execution =>
            Delivered verifies i (execution.map WorkerExecution.result)) hIdle delivered_none
            (fun l s hIdle => ?_)
          refine runs_bind_of_keeps (keeps_collectResult controlResponse) hIdle
            (fun execution l s hIdle => ?_) (fun e l s hIdle => holding_of_idle hIdle
              delivered_none)
          refine runs_bind ((runs_publishResult hIdle).mono ?_)
          rintro r l s ⟨seen, published, hIdle, hDelivered⟩
          cases r with
          | error e => exact holding_of_idle hIdle hDelivered
          | ok result => exact runs_pure (holding_of_idle hIdle hDelivered)

/-- `_execute_inspection` -/
theorem runs_executeInspection {inspectionResponse : Bytes → Except Raised Members}
    {cancelEvent : Option κ} (h : Outside i .fresh s) (hLocals : l.active = false) :
    Runs (discipline concurrentWorkers verifies) i
      (executeInspection inspectionResponse i cancelEvent)
      (fun _ _ s => Finished i (fun published => published = false) s) l s := by
  have hKept : ∀ {α : Type} {worker : Bool} {x : Method ι κ α},
      Keeps (discipline concurrentWorkers verifies) i
        (Idle i (.holding worker false false) worker) x → ∀ l s,
      Idle i (.holding worker false false) worker l s →
      Runs (discipline concurrentWorkers verifies) i x
        (fun _ l s => Holding i (fun published => published = false) l s) l s :=
    fun hKeeps l s hIdle => (hKeeps l s hIdle).mono (fun _ _ _ hIdle => holding_of_idle hIdle rfl)
  refine runs_withSlot (G := fun _ published => published = false) h hLocals rfl (fun s hIdle => ?_)
  refine runs_bind_of_keeps keeps_requireOpen hIdle (fun _ l s hIdle => ?_)
    (fun e l s hIdle => holding_of_idle hIdle rfl)
  refine runs_bind_of_keeps keeps_prepareInspection hIdle (fun _ l s hIdle => ?_)
    (fun e l s hIdle => holding_of_idle hIdle rfl)
  refine runs_worker (G := fun _ published => published = false) hIdle rfl (hKept ?_)
  refine keeps_bind (keeps_ask _) (fun overflow => keeps_bind (keeps_raiseIf _ _) (fun _ => ?_))
  refine keeps_bind (keeps_native _) (fun failed => keeps_bind (keeps_raiseIf _ _) (fun _ => ?_))
  refine keeps_bind (keeps_ask _) (fun emitted => keeps_bind (keeps_raiseIf _ _) (fun _ => ?_))
  refine keeps_bind (keeps_ask _) (fun content => ?_)
  cases inspectionResponse content with
  | error e => exact keeps_raise e
  | ok data => exact keeps_pure data

/-! ## Close and cancellation -/

/-- Marking the controller closed leaves the call idle. -/
theorem keeps_markClosed :
    Keeps (discipline concurrentWorkers verifies) i (Idle (κ := κ) i v active) markClosed := by
  rintro l s ⟨hOutside, hActive⟩
  refine (runs_withLock (Q := fun _ l' v' => l' = l ∧ v' = v) hOutside (fun s hInside => ?_)).mono
    ?_
  · refine runs_bind (runs_readClosed hInside (fun closed s hRead => ?_))
    have hAgree := hRead.mono (fun _ _ _ hP => hP.2)
    show Runs _ _ (if closed then _ else _) _ _ _
    split
    · exact runs_pure ⟨v, hAgree, rfl, rfl⟩
    · refine runs_bind (runs_mark (R := Agree) (fun _ => true) (fun s => s.shutdown)
        (fun s => s.allDone) hAgree (fun _ _ _ hExec => hExec.1) (fun _ hP => hP)
          (fun s hMarked => ?_))
      refine runs_bind (runs_mark (R := Agree) (fun s => s.closed) (fun _ => true)
        (fun s => s.allDone) hMarked (fun _ _ _ hExec => hExec.1) (fun _ hP => hP)
          (fun s hShut => ?_))
      refine runs_bind (runs_activeWorkers hShut (fun workers s hWorkers => runs_pure ?_))
      exact ⟨v, hWorkers.mono (fun _ _ _ hP => hP.2), rfl, rfl⟩
  · rintro r l' s ⟨v', hOutside', rfl, rfl⟩
    exact ⟨hOutside', hActive⟩

/-- So does asking for the remaining workers. -/
theorem keeps_remaining :
    Keeps (discipline concurrentWorkers verifies) i (Idle (κ := κ) i v active)
      (withLock (step .activeWorkers)) := by
  rintro l s ⟨hOutside, hActive⟩
  refine (runs_withLock (Q := fun _ l' v' => l' = l ∧ v' = v) hOutside (fun s hInside => ?_)).mono
    ?_
  · refine runs_activeWorkers hInside (fun workers s hWorkers => ?_)
    exact ⟨v, hWorkers.mono (fun _ _ _ hP => hP.2), rfl, rfl⟩
  · rintro r l' s ⟨v', hOutside', rfl, rfl⟩
    exact ⟨hOutside', hActive⟩

/-- So does stopping them. -/
theorem keeps_stopWorkers (stop : ι → Native ι (Except Raised Unit)) (workers : List ι) :
    Keeps (discipline concurrentWorkers verifies) i (Idle (κ := κ) i v active)
      (stopWorkers stop workers) := by
  induction workers with
  | nil => exact keeps_pure ()
  | cons worker workers ih =>
      refine keeps_bind (keeps_ask _) (fun closed => keeps_bind (keeps_whenSet _ ?_) (fun _ => ih))
      exact keeps_rescue (keeps_native _) keeps_ignoreProcess

/-- So does waiting for them. -/
theorem keeps_waitAllDone :
    Keeps (discipline concurrentWorkers verifies) i (Idle (κ := κ) i v active)
      (step .waitAllDone : Method ι κ Bool) :=
  keeps_step stable_idle (fun _ _ _ hExec => hExec.1.2)

/-- `WorkerController.close` -/
theorem keeps_close :
    Keeps (discipline concurrentWorkers verifies) i (Idle (κ := κ) i v active) close := by
  refine keeps_bind keeps_markClosed (fun marked => ?_)
  cases marked with
  | none => exact keeps_pure ()
  | some workers =>
      refine keeps_bind (keeps_stopWorkers _ workers) (fun _ => ?_)
      refine keeps_bind keeps_waitAllDone (fun done => keeps_whenSet _ ?_)
      refine keeps_bind keeps_remaining (fun remaining => ?_)
      refine keeps_bind (keeps_stopWorkers _ remaining) (fun _ => ?_)
      exact keeps_bind keeps_waitAllDone (fun _ => keeps_pure ())

/-! ## Runs -/

/-- What the outcome of a call says about its publication. -/
def Outcome.Delivers (verifies : ι → OperationManifest → Prop) (i : ι) (outcome : Outcome)
    (published : Bool) : Prop :=
  match outcome with
  | .executed result => Delivered verifies i (result.toOption.map WorkerExecution.result) published
  | _ => published = false

/-- A controller and the calls that are made of it. -/
def started (responses : Responses) (concurrentWorkers : ℕ) (calls : ι → Call κ) :
    Config (Action ι κ) ι (Controller ι κ) Outcome :=
  ⟨.initial concurrentWorkers, fun i => (calls i).program responses i⟩

omit [DecidableEq ι] [DecidableEq κ] in
/-- A controller that starts accounts for its slots. -/
theorem accounted_initial : Accounted concurrentWorkers (Controller.initial (ι := ι) (κ := κ)
    concurrentWorkers) where
  taken _ := ⟨Nat.le_refl 0, Nat.zero_le 1⟩
  slots := ⟨∅, fun i => iff_of_false (Finset.notMem_empty i) (Nat.lt_irrefl 0), rfl⟩
  running := ⟨List.nodup_nil, fun _ hi => absurd hi List.not_mem_nil⟩
  active := ⟨List.nodup_nil, fun _ hi => absurd hi List.not_mem_nil⟩
  publications _ hp := absurd hp List.not_mem_nil
  allDone _ := iff_of_true rfl rfl

omit [DecidableEq ι] [DecidableEq κ] in
/-- A call starts fresh. -/
theorem fresh_initial : Outside i .fresh (Controller.initial (κ := κ) concurrentWorkers) := by
  refine ⟨⟨rfl, rfl, ?_, ?_, rfl, ?_⟩, (Option.some_ne_none i).symm⟩
  · exact iff_of_false List.not_mem_nil Bool.false_ne_true
  · exact iff_of_false List.not_mem_nil Bool.false_ne_true
  · refine iff_of_false ?_ Bool.false_ne_true
    rintro ⟨p, hp, -⟩
    exact List.not_mem_nil hp

omit [DecidableEq ι] [DecidableEq κ] in
/-- A fresh call has nothing left to finish. -/
theorem finished_of_fresh {G : Bool → Prop} (h : Outside i .fresh s) (hG : G false) :
    Finished i G s :=
  ⟨0, false, false, h, hG⟩

/-- A cancellation leaves all that is accounted for. -/
theorem safe_cancel {event : κ} {Q : Outcome → Controller ι κ → Prop} (h : Outside i v s)
    (hQ : ∀ s, Outside i v s → Q .cancelled s) :
    Safe (discipline concurrentWorkers verifies) i Q
      (.act (.setCancelled event) (fun _ => .done .cancelled)) s := by
  intro t hRely hInv r t' hExec
  obtain ⟨rfl, -⟩ := hExec
  obtain ⟨hOwns, hLock⟩ := stable_outside s t hRely h
  refine ⟨⟨hInv.taken, hInv.slots, hInv.running, hInv.active, hInv.publications, hInv.allDone⟩,
    fun j _ => undisturbed_of_entries rfl rfl rfl rfl rfl rfl Iff.rfl rfl Iff.rfl,
    hQ _ ⟨⟨hOwns.acquired, hOwns.released, hOwns.running, hOwns.active, hOwns.seen,
    hOwns.published⟩, hLock⟩⟩

/-- Every call is safe from the start. -/
theorem safe_program (responses : Responses) (call : Call κ) (h : Outside i .fresh s) :
    Safe (discipline concurrentWorkers verifies) i
      (fun outcome s => Finished i (outcome.Delivers verifies i) s) (call.program responses i)
        s := by
  cases call with
  | executeOperation cancelEvent =>
      refine Safe.bind (Safe.mono (fun r s hr => ?_)
        (runs_executeOperation h rfl))
      exact hr
  | executeInspection cancelEvent =>
      refine Safe.bind (Safe.mono (fun r s hr => ?_)
        (runs_executeInspection h rfl))
      exact hr
  | close =>
      refine Safe.bind (Safe.mono (fun r s hr => ?_) (keeps_close .unset s ⟨h, rfl⟩))
      exact finished_of_fresh hr.1 rfl
  | cancel event => exact safe_cancel h (fun s hFresh => finished_of_fresh hFresh rfl)

omit [DecidableEq ι] [DecidableEq κ] in
/-- A finished call stays so while the others go on. -/
theorem Finished.undisturbed {G : Bool → Prop} {s' : Controller ι κ} (h : Finished i G s)
    (hRely : Undisturbed i s s') : Finished i G s' := by
  obtain ⟨acquired, seen, published, ⟨hOwns, hLock⟩, hG⟩ := h
  exact ⟨acquired, seen, published,
    ⟨hOwns.undisturbed hRely, fun hLock' => hLock (hRely.lock.1 hLock')⟩, hG⟩

/-- What holds in every state that an interleaving of calls reaches. -/
theorem accounted_of_reaches {responses : Responses} {calls : ι → Call κ}
    {c : Config (Action ι κ) ι (Controller ι κ) Outcome}
    (h : Reaches (calmMachine concurrentWorkers verifies)
      (started responses concurrentWorkers calls) c) :
    Accounted concurrentWorkers c.state ∧ ∀ i outcome, c.threads i = .done outcome →
      Finished i (outcome.Delivers verifies i) c.state := by
  obtain ⟨hInv, hSafe⟩ := Safe.of_reaches (D := discipline concurrentWorkers verifies)
    (Q := fun i (outcome : Outcome) s => Finished i (outcome.Delivers verifies i) s)
    (c := started responses concurrentWorkers calls)
    (fun i outcome s s' hRely hFinished => hFinished.undisturbed hRely) accounted_initial
    (fun i => safe_program responses (calls i) fresh_initial) h
  refine ⟨hInv, fun i outcome hDone => ?_⟩
  exact Safe.of_ended (Q := fun (outcome : Outcome) s => Finished i (outcome.Delivers verifies i) s)
    hDone
    (hSafe i)

omit [DecidableEq κ] in
/-- Workers that have a slot each are not more than the slots. -/
theorem Accounted.length_le (h : Accounted concurrentWorkers s) {workers : List ι}
    (hNodup : workers.Nodup) (hSlots : ∀ i ∈ workers, s.HasSlot i) :
    workers.length ≤ concurrentWorkers := by
  obtain ⟨holders, hHolders, hCount⟩ := h.slots
  have hSub : workers.toFinset ⊆ holders := by
    intro i hi
    exact (hHolders i).2 (hSlots i (List.mem_toFinset.1 hi))
  have hCard := Finset.card_le_card hSub
  rw [List.toFinset_card_of_nodup hNodup] at hCard
  omega

/-- The account of a controller: what was published, which calls succeeded, how many workers there
are, what became of the slots, and the all-done event. -/
structure Account (concurrentWorkers : ℕ) (c : Config (Action ι κ) ι (Controller ι κ) Outcome) :
    Prop where
  publications : ∀ p ∈ c.state.ledger.publications, p.closed = false ∧ p.seen = false
  success : ∀ i result, c.threads i = .done (.executed result) →
    ((∃ execution success, result = .ok execution ∧ execution.result = .success success) ↔
      c.state.Published i)
  workers : c.state.ledger.running.length ≤ concurrentWorkers ∧
    c.state.active.length ≤ concurrentWorkers
  taken : ∀ i, c.state.ledger.released i ≤ c.state.ledger.acquired i ∧ c.state.ledger.acquired i ≤ 1
  slots : ∀ i outcome, c.threads i = .done outcome →
    c.state.ledger.released i = c.state.ledger.acquired i
  allDone : c.state.lock = none → (c.state.allDone = true ↔ c.state.active = [])

/-- **A controller whose cleanup does not raise accounts for its slots and publications.** -/
theorem account_of_reaches {responses : Responses} {calls : ι → Call κ}
    {c : Config (Action ι κ) ι (Controller ι κ) Outcome}
    (h : Reaches (calmMachine concurrentWorkers verifies)
      (started responses concurrentWorkers calls) c) : Account concurrentWorkers c := by
  obtain ⟨hInv, hEnded⟩ := accounted_of_reaches h
  refine ⟨hInv.publications, fun i result hDone => ?_,
    ⟨hInv.length_le hInv.running.1 hInv.running.2, hInv.length_le hInv.active.1 hInv.active.2⟩,
    hInv.taken, fun i outcome hDone => ?_, hInv.allDone⟩
  · obtain ⟨acquired, seen, published, hOutside, hDelivered, -⟩ := hEnded i _ hDone
    rw [hOutside.1.published, hDelivered]
    constructor
    · rintro ⟨execution, success, rfl, hSuccess⟩
      exact ⟨success, congrArg some hSuccess⟩
    · rintro ⟨success, hSuccess⟩
      cases result with
      | error e => cases hSuccess
      | ok execution => exact ⟨execution, success, rfl, Option.some.inj hSuccess⟩
  · obtain ⟨acquired, seen, published, hOutside, -⟩ := hEnded i outcome hDone
    exact hOutside.1.released.trans hOutside.1.acquired.symm

/-! ## A run of three calls -/

/-- What the platform answers to a call whose worker does its work and exits. -/
def Native.answer {ι γ : Type} : Native ι γ → Option γ
  | .prepareOutput => some (.ok ())
  | .inspectionParents => some (.ok ())
  | .createWorkRoot => some (.ok ())
  | .requestBytes => some (.ok [0x7B, 0x7D])
  | .operationFailure => none
  | .startReaders => some (.ok ())
  | .writeRequest => some (.ok ())
  | .rounds => some 1
  | .streamOverflow => some false
  | .controlBroken => some false
  | .memoryExceeded => some (.ok false)
  | .exited => some (.ok true)
  | .deadlinePassed => some false
  | .terminateTree _ => some (.ok ())
  | .waitProcess => some (.ok ())
  | .killTree _ => some (.ok ())
  | .joinReaders => some (.ok ())
  | .workerClosed _ => some false
  | .controlOverflow => some none
  | .exitFailed => some (.ok false)
  | .controlBytes => some []
  | .outputEmitted => some false
  | .ensureParent => some (.ok ())
  | .workRootExists => some (.ok true)
  | .removeWorkRoot => some (.ok ())
  | .closeWorkspace => some (.ok ())

/-- A response to an action of a call when nothing fails: a call waits for the lock while it is
taken, and `close` until the last worker is gone. -/
def calmResponse {ι κ γ : Type} [DecidableEq ι] [DecidableEq κ] (concurrentWorkers : ℕ) (i : ι) :
    Action ι κ γ → Controller ι κ → Option (γ × Controller ι κ)
  | .acquireCapacity, s =>
      if 0 < s.free then
        some (true, { s with
          free := s.free - 1
          ledger := { s.ledger with
            acquired := Function.update s.ledger.acquired i (s.ledger.acquired i + 1) } })
      else none
  | .releaseCapacity, s =>
      if s.free < concurrentWorkers then
        some (.ok (), { s with
          free := s.free + 1
          ledger := { s.ledger with
            released := Function.update s.ledger.released i (s.ledger.released i + 1) } })
      else none
  | .acquireLock, s => if s.lock = none then some ((), { s with lock := some i }) else none
  | .releaseLock, s => some ((), { s with lock := none })
  | .readClosed, s => some (s.closed, s)
  | .setClosed, s => some ((), { s with closed := true })
  | .readShutdown, s => some (s.shutdown, s)
  | .setShutdown, s => some ((), { s with shutdown := true })
  | .activeWorkers, s => some (s.active, s)
  | .register, s => some ((), { s with active := i :: s.active })
  | .unregister, s => some ((), { s with active := s.active.erase i })
  | .clearAllDone, s => some ((), { s with allDone := false })
  | .setAllDone, s => some ((), { s with allDone := true })
  | .waitAllDone, s => if s.allDone = true then some (true, s) else none
  | .isCancelled event, s => some (s.cancelled event, { s with
      ledger := { s.ledger with
        seen := Function.update s.ledger.seen i
          (s.ledger.seen i || (s.cancelled event && decide (s.lock = some i))) } })
  | .setCancelled event, s => some ((), { s with cancelled := Function.update s.cancelled event true })
  | .launch, s => some (.ok (), { s with ledger := { s.ledger with running :=
    i :: s.ledger.running } })
  | .closeHandle, s => some (.ok (), { s with
      ledger := { s.ledger with running := s.ledger.running.erase i } })
  | .verifyBundle _, s => some (.ok (), s)
  | .publish, s => some (.ok (), { s with ledger := { s.ledger with
      publications := s.ledger.publications ++ [⟨i, s.closed, s.ledger.seen i⟩] } })
  | .native c, s => c.answer.map (fun r => (r, s))
  | .hang, _ => none

/-- The scheduler of the witness answers as the controller may. -/
theorem calmResponse_exec {γ : Type} {i : ι} {a : Action ι κ γ} {r : γ}
    (h : calmResponse concurrentWorkers i a s = some (r, s')) :
    (calmMachine concurrentWorkers (fun (_ : ι) _ => True)).exec i a s r s' := by
  cases a with
  | acquireCapacity | releaseCapacity | acquireLock | waitAllDone =>
      rw [calmResponse, Option.ite_none_right_eq_some] at h
      obtain ⟨hGuard, h⟩ := h
      cases h
      exact ⟨by simp [exec, hGuard], trivial⟩
  | native c =>
      rw [calmResponse, Option.map_eq_some_iff] at h
      obtain ⟨r', hAnswer, h⟩ := h
      cases h
      refine ⟨rfl, ?_⟩
      cases c <;> first | trivial | (cases hAnswer; trivial)
  | hang => cases h
  | _ =>
      cases h
      exact ⟨by simp [exec], trivial⟩

/-- The calls of a controller when nothing fails. -/
def calmScheduler {ι κ : Type} [DecidableEq ι] [DecidableEq κ] (concurrentWorkers : ℕ) :
    Scheduler (calmMachine (ι := ι) (κ := κ) concurrentWorkers (fun _ _ => True)) :=
  ⟨calmResponse concurrentWorkers, calmResponse_exec⟩

/-- An operation that succeeds, and an inspection. -/
def sampleResponses : Responses :=
  ⟨fun _ => .ok (some (.success sampleSuccess), []), fun _ => .ok []⟩

/-- An operation, an inspection and a close. -/
def sampleCalls : Fin 3 → Call Unit
  | 0 => .executeOperation none
  | 1 => .executeInspection none
  | 2 => .close

/-- Both workers are launched and the operation ends; then the controller is closed, and the
inspection sees the shutdown. -/
def sampleSchedule : List (Fin 3) :=
  List.replicate 16 0 ++ List.replicate 16 1 ++ List.replicate 60 0 ++ List.replicate 12 2 ++
    List.replicate 60 1 ++ List.replicate 12 2

/-- The calls of the schedule, with two slots. -/
def closedRun : Config (Action (Fin 3) Unit) (Fin 3) (Controller (Fin 3) Unit) Outcome :=
  (calmScheduler 2).run sampleSchedule (started sampleResponses 2 sampleCalls)

/-- The call has ended, and for an inspection in a failure. -/
def endsAsScheduled : Program (Action (Fin 3) Unit) Outcome → Bool
  | .done (.executed (.ok _)) => true
  | .done (.inspected (.error _)) => true
  | .done (.closed (.ok _)) => true
  | _ => false

/-- The operation is published before the controller is closed, the inspection fails, both slots are
given back, and the account holds. -/
theorem account_of_reaches_closed :
    closedRun.state.ledger.publications.map Publication.call = [0] ∧ closedRun.state.closed = true ∧
      closedRun.state.ledger.released 0 = 1 ∧ closedRun.state.ledger.released 1 = 1 ∧
      (∀ i, endsAsScheduled (closedRun.threads i) = true) ∧ Account 2 closedRun := by
  have hRun : Reaches _ (started sampleResponses 2 sampleCalls) closedRun :=
    (calmScheduler 2).reaches sampleSchedule _
  exact ⟨by decide +kernel, by decide +kernel, by decide +kernel, by decide +kernel, by decide +kernel,
    account_of_reaches hRun⟩

/-! ## A run of one call -/

/-- Responses that cannot be read. -/
def unreadable : Responses := ⟨fun _ => .error .other, fun _ => .error .other⟩

/-- A single call of a controller with one slot. -/
def lonely : Config (Action Unit Unit) Unit (Controller Unit Unit) Outcome :=
  started unreadable 1 (fun _ => .executeOperation none)

/-- The controller after the call, which took its slot and did not give it back. -/
def afterLonely : Controller Unit Unit :=
  { Controller.initial 1 with
    free := 0
    ledger := ⟨fun _ => 1, fun _ => 0, [], fun _ => false, []⟩ }

/-- The worker of the call cannot be launched, and the test for the work root raises. -/
theorem performs_raising :
    Performs (machine 1 (fun (_ : Unit) _ => True)) () (lonely.threads ()) lonely.state
      (.executed (.error .other)) afterLonely := by
  -- the slot, the open controller, the work root and the request
  refine .act (r := true) ⟨by decide, rfl⟩ ?_
  refine .act (r := ()) ⟨rfl, rfl⟩ ?_
  refine .act (r := false) ⟨rfl, rfl⟩ ?_
  refine .act (r := ()) rfl ?_
  refine .act (r := (.ok () : Except Raised Unit)) rfl ?_
  refine .act (r := (.ok () : Except Raised Unit)) rfl ?_
  refine .act (r := (.ok [] : Except Raised Bytes)) rfl ?_
  -- the launch fails
  refine .act (r := ()) ⟨rfl, rfl⟩ ?_
  refine .act (r := false) ⟨rfl, rfl⟩ ?_
  refine .act (r := (.error .process : Except Raised Unit)) rfl ?_
  refine .act (r := ()) rfl ?_
  -- the test for the work root raises
  refine .act (r := (.error .other : Except Raised Bool)) rfl ?_
  exact .done _ _

/-- A slot that is never given back. -/
theorem not_account_of_raising :
    ¬ ∀ c, Reaches (machine 1 (fun (_ : Unit) _ => True)) lonely c → Account 1 c := by
  intro hAll
  have hAccount := hAll _ (performs_raising.reaches lonely.threads rfl)
  have hSlot : 0 = 1 := hAccount.slots () _ (Function.update_self () _ lonely.threads)
  exact absurd hSlot Nat.zero_ne_one

end WorkerRuntime
