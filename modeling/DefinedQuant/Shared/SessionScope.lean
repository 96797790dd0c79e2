import DefinedQuant.Shared.SessionAccounting

/-!
# Scopes of sessions

The sessions of a process share one registry and nothing else. In every state that they reach
together, the registry holds a reference for exactly the open sessions that registered it; so
whether a reference resolves, and which refusal is raised when it does not, depends on who
registered it alone.
-/

namespace SessionCas

open Json DataRecords HostFailures LocalHost OperationRecords FileTree Effect

variable {w w' : World}

/-! ## A process -/

/-- The sessions of a process by their identifiers, and the registry that they share. A session sees
the registry of the process; what its own world says about it is out of date. -/
structure Process where
  world : Text → Option World
  registry : SessionScopeRegistry

/-- The world of a session as the session sees it. -/
def Process.enter (p : Process) (w : World) : World := { w with registry := p.registry }

/-- The process after a session has acted. -/
def Process.leave (p : Process) (sessionId : Text) (w : World) : Process where
  world := Function.update p.world sessionId (some w)
  registry := w.registry

/-- What a session can do: answer a call, or close. -/
inductive Action where
  | call (c : Call)
  | close

def Action.run : Action → Host Unit
  | .call c => c.run
  | .close => SessionCas.close

/-- One step of a process: a session is opened under a fresh identifier, or one acts. -/
inductive Process.Step : Process → Process → Prop
  | opened (p : Process) (sessionId : Text) (limits : CasLimits) (cursorKey : Bytes) (w : World)
      (hFresh : p.world sessionId = none)
      (hOpened : w.session = Session.opened sessionId limits cursorKey) :
      Step p { p with world := Function.update p.world sessionId (some w) }
  | acts (p : Process) (sessionId : Text) (w : World) (action : Action)
      (hWorld : p.world sessionId = some w) :
      Step p (p.leave sessionId (final (action.run.run (p.enter w))))

/-- The states that a process without sessions reaches. -/
def Process.Reachable (p : Process) : Prop :=
  Relation.ReflTransGen Process.Step ⟨fun _ => none, fun _ => ∅⟩ p

/-! ## What a step does to scopes -/

/-- What an action can do to the references of its session and to the registry. -/
inductive ScopeChange (w w' : World) : Prop
  | none (hClosed : w'.session.closed = w.session.closed)
      (hReferences : w'.session.references = w.session.references)
      (hRegistry : w'.registry = w.registry)
  | registered (reference : Text) (hOpen : w.session.closed = false)
      (hClosed : w'.session.closed = w.session.closed)
      (hReferences : w'.session.references = insert reference w.session.references)
      (hRegistry : w'.registry = w.registry.register w.session.sessionId reference)
  | closed (hClosed : w'.session.closed = true) (hReferences : w'.session.references = ∅)
      (hRegistry : w'.registry = w.registry.unregisterSession w.session.sessionId)

/-- The scope of a session stays what it is. -/
structure SameScope (w w' : World) : Prop where
  sessionId : w'.session.sessionId = w.session.sessionId
  closed : w'.session.closed = w.session.closed
  references : w'.session.references = w.session.references
  registry : w'.registry = w.registry

instance : Std.Refl SameScope where
  refl _ := ⟨rfl, rfl, rfl, rfl⟩

instance : IsTrans World SameScope where
  trans _ _ _ h h' := ⟨h'.sessionId.trans h.sessionId, h'.closed.trans h.closed,
    h'.references.trans h.references, h'.registry.trans h.registry⟩

/-- Settling changes nothing in the scope of a session. -/
theorem Settles.sameScope {X : Set Location} {F : Set Text} (h : Settles X F w w') :
    SameScope w w' := ⟨h.sessionId, h.closed, h.references, h.registry⟩

/-- Registering adds one reference to the scope. -/
theorem Registers.scopeChange {octets : ℕ} {loc : Location} {reference : Text}
    (hOpen : w.session.closed = false) (h : Registers octets loc reference w w') :
    w'.session.sessionId = w.session.sessionId ∧ ScopeChange w w' := by
  obtain ⟨t, t', size, hBefore, hRegister, hAfter, -⟩ := h
  rcases run_register_eq_ok.1 hRegister with ⟨-, rfl⟩ | ⟨-, -, rfl⟩
  · have hSame := IsTrans.trans (r := SameScope) _ _ _ hBefore.sameScope hAfter.sameScope
    exact ⟨hSame.sessionId, .none hSame.closed hSame.references hSame.registry⟩
  · refine ⟨hAfter.sessionId.trans hBefore.sessionId, .registered reference hOpen ?_ ?_ ?_⟩
    · exact hAfter.closed.trans hBefore.closed
    · rw [hAfter.references, ← hBefore.references]
      rfl
    · rw [hAfter.registry, ← hBefore.registry, ← hBefore.sessionId]
      rfl

/-- Removing a marked directory changes no scope. -/
theorem keeps_sameScope_removeIfMarked : Keeps SameScope removeIfMarked := by
  have hSame : ∀ {α : Type} {x : Host α}, Keeps Reads x → Keeps SameScope x :=
    fun hx => hx.mono (fun _ _ h => ⟨by rw [h.session], by rw [h.session], by rw [h.session],
      h.registry⟩)
  have hMarker : Keeps SameScope validMarker := by
    intro v
    show SameScope v (final (validMarker v))
    unfold validMarker
    split <;> exact ⟨rfl, rfl, rfl, rfl⟩
  have hTree : Keeps SameScope removeSessionTree := by
    intro v
    show SameScope v (final (removeSessionTree v))
    unfold removeSessionTree
    split <;> exact ⟨rfl, rfl, rfl, rfl⟩
  refine keeps_bind (hSame (keeps_reads_observe _)) (fun found => ?_)
  refine keeps_ite (fun _ => ?_) (fun _ => keeps_pure _)
  refine keeps_bind hMarker (fun valid => ?_)
  refine keeps_ite (fun _ => ?_) (fun _ => keeps_pure _)
  exact keeps_bind (keeps_modify (fun _ => ⟨rfl, rfl, rfl, rfl⟩)) (fun _ => hTree)

/-- What leaves the scope alone behind the expiry of a session closes it and nothing else. -/
theorem expire_scopeChange {rest : Host Unit} (h : Keeps SameScope rest) (w : World) :
    (final ((modify World.expire >>= fun _ => rest).run w)).session.sessionId =
      w.session.sessionId ∧
      ScopeChange w (final ((modify World.expire >>= fun _ => rest).run w)) ∧
      (final ((modify World.expire >>= fun _ => rest).run w)).session.closed = true := by
  have hSame := h w.expire
  exact ⟨hSame.sessionId, .closed hSame.closed hSame.references hSame.registry, hSame.closed⟩

/-- Closing expires the session first; what follows, and however it ends, leaves its scope alone. -/
theorem close_scopeChange (w : World) :
    (final (close.run w)).session.sessionId = w.session.sessionId ∧
      ScopeChange w (final (close.run w)) ∧ (final (close.run w)).session.closed = true := by
  unfold close
  rw [run_get_bind]
  by_cases hClosed : w.session.closed = true
  · rw [if_pos hClosed]
    exact ⟨rfl, .none rfl rfl rfl, hClosed⟩
  · rw [if_neg hClosed]
    apply expire_scopeChange
    apply keeps_finallyDo
    · refine keeps_rescue keeps_sameScope_removeIfMarked (fun e => ?_)
      split <;> exact keeps_throw _
    · exact keeps_modify (fun _ => ⟨rfl, rfl, rfl, rfl⟩)

/-- Whatever a session does, it stays the same session and its scope grows, or ends with it. -/
theorem action_scopeChange (action : Action) (w : World) :
    (final (action.run.run w)).session.sessionId = w.session.sessionId ∧
      ScopeChange w (final (action.run.run w)) := by
  cases action with
  | close => exact ⟨(close_scopeChange w).1, (close_scopeChange w).2.1⟩
  | call c =>
      rcases call_step c w with hSettles | ⟨hOpen, kind, loc, reference, -, -, hRegisters⟩
      · have hSame := hSettles.sameScope
        exact ⟨hSame.sessionId, .none hSame.closed hSame.references hSame.registry⟩
      · exact hRegisters.scopeChange hOpen

/-! ## Isolation -/

/-- The registry holds a reference for exactly the sessions that list it, and only open ones do. -/
structure Process.Isolated (p : Process) : Prop where
  sessionId : ∀ sessionId w, p.world sessionId = some w → w.session.sessionId = sessionId
  closed : ∀ sessionId w, p.world sessionId = some w → w.session.closed = true →
    w.session.references = ∅
  registry : ∀ reference sessionId, sessionId ∈ p.registry reference ↔
    ∃ w, p.world sessionId = some w ∧ reference ∈ w.session.references

/-- After a registration, who holds a reference. -/
theorem SessionScopeRegistry.mem_register {registry : SessionScopeRegistry}
    {sessionId reference sessionId' reference' : Text} :
    sessionId' ∈ registry.register sessionId reference reference' ↔
      (sessionId' = sessionId ∧ reference' = reference) ∨ sessionId' ∈ registry reference' := by
  unfold register
  by_cases h : reference' = reference
  · subst h
    rw [Function.update_self, Finset.mem_insert]
    simp
  · rw [Function.update_of_ne h]
    simp [h]

/-- After a session ends, who holds a reference. -/
theorem SessionScopeRegistry.mem_unregisterSession {registry : SessionScopeRegistry}
    {sessionId sessionId' reference : Text} :
    sessionId' ∈ registry.unregisterSession sessionId reference ↔
      sessionId' ≠ sessionId ∧ sessionId' ∈ registry reference := by
  unfold unregisterSession
  rw [Finset.mem_erase]

/-- A reference is known outside when another session holds it. -/
theorem SessionScopeRegistry.knownOutside_eq_true {registry : SessionScopeRegistry}
    {sessionId reference : Text} :
    registry.knownOutside sessionId reference = true ↔
      ∃ sessionId', sessionId' ≠ sessionId ∧ sessionId' ∈ registry reference := by
  unfold knownOutside
  rw [decide_eq_true_iff, ← Finset.nonempty_iff_ne_empty]
  simp only [Finset.Nonempty, Finset.mem_erase]

/-- An action of one session keeps the scopes of all. -/
theorem Process.Isolated.leave {p : Process} {sessionId : Text} {w w' : World} (h : p.Isolated)
    (hWorld : p.world sessionId = some w) (hSessionId : w'.session.sessionId = w.session.sessionId)
    (hChange : ScopeChange (p.enter w) w') : (p.leave sessionId w').Isolated := by
  have hId : w.session.sessionId = sessionId := h.sessionId _ _ hWorld
  have hOther : ∀ {sessionId'}, sessionId' ≠ sessionId →
      (p.leave sessionId w').world sessionId' = p.world sessionId' :=
    fun hNe => Function.update_of_ne hNe _ _
  have hSelf : (p.leave sessionId w').world sessionId = some w' := Function.update_self _ _ _
  -- The three parts of the invariant: each world has its own id, a closed one holds nothing, and
  -- the registry tells who holds what. The session that left is told from the others each time.
  refine ⟨fun sessionId' v hv => ?_, fun sessionId' v hv hClosed => ?_, fun reference sessionId' =>
    ?_⟩
  · by_cases hEq : sessionId' = sessionId
    · rw [hEq, hSelf] at hv
      cases hv
      rw [hSessionId, hId, hEq]
    · rw [hOther hEq] at hv
      exact h.sessionId _ _ hv
  · by_cases hEq : sessionId' = sessionId
    · rw [hEq, hSelf] at hv
      cases hv
      -- In the registry the three ways to leave: nothing changed, one reference more, or the
      -- session ended.
      cases hChange with
      | none hC hReferences hRegistry =>
          rw [hReferences]
          exact h.closed sessionId w hWorld (hC.symm.trans hClosed)
      | registered r hOpen hC hReferences hRegistry =>
          rw [hC] at hClosed
          exact absurd (hOpen.symm.trans hClosed) Bool.false_ne_true
      | closed hC hReferences hRegistry => exact hReferences
    · rw [hOther hEq] at hv
      exact h.closed _ _ hv hClosed
  · show sessionId' ∈ w'.registry reference ↔ _
    have hRest : sessionId' ≠ sessionId → ((∃ v, (p.leave sessionId w').world sessionId' = some v ∧
        reference ∈ v.session.references) ↔ sessionId' ∈ p.registry reference) := by
      intro hNe
      rw [hOther hNe]
      exact (h.registry reference sessionId').symm
    have hOwn : (∃ v, (p.leave sessionId w').world sessionId = some v ∧
        reference ∈ v.session.references) ↔ reference ∈ w'.session.references := by
      rw [hSelf]
      simp
    have hBefore : sessionId ∈ p.registry reference ↔ reference ∈ w.session.references := by
      rw [h.registry, hWorld]
      simp
    cases hChange with
    | none hC hReferences hRegistry =>
        rw [hRegistry]
        show sessionId' ∈ p.registry reference ↔ _
        by_cases hEq : sessionId' = sessionId
        · rw [hEq, hOwn, hReferences]
          exact hBefore
        · exact (hRest hEq).symm
    | registered r hOpen hC hReferences hRegistry =>
        rw [hRegistry, SessionScopeRegistry.mem_register]
        show (sessionId' = w.session.sessionId ∧ reference = r) ∨
          sessionId' ∈ p.registry reference ↔ _
        by_cases hEq : sessionId' = sessionId
        · rw [hEq, hOwn, hReferences, Finset.mem_insert, hBefore, hId]
          simp [Process.enter]
        · rw [hRest hEq, hId]
          simp [hEq]
    | closed hC hReferences hRegistry =>
        rw [hRegistry, SessionScopeRegistry.mem_unregisterSession]
        show sessionId' ≠ w.session.sessionId ∧ sessionId' ∈ p.registry reference ↔ _
        by_cases hEq : sessionId' = sessionId
        · rw [hEq, hOwn, hReferences, hId]
          simp
        · rw [hRest hEq, hId]
          simp [hEq]

/-- Opening a session under a fresh identifier adds one that holds nothing. -/
theorem Process.Isolated.opened {p : Process} {sessionId : Text} {limits : CasLimits}
    {cursorKey : Bytes} {w : World} (h : p.Isolated) (hFresh : p.world sessionId = none)
    (hOpened : w.session = Session.opened sessionId limits cursorKey) :
    Process.Isolated { p with world := Function.update p.world sessionId (some w) } := by
  have hWorld : ∀ {sessionId' v}, Function.update p.world sessionId (some w) sessionId' = some v →
      (sessionId' = sessionId ∧ v = w) ∨ p.world sessionId' = some v := by
    intro sessionId' v hv
    by_cases hEq : sessionId' = sessionId
    · rw [hEq, Function.update_self] at hv
      cases hv
      exact .inl ⟨hEq, rfl⟩
    · rw [Function.update_of_ne hEq] at hv
      exact .inr hv
  refine ⟨fun sessionId' v hv => ?_, fun sessionId' v hv hClosed => ?_, fun reference sessionId' =>
    ?_⟩
  · rcases hWorld hv with ⟨rfl, rfl⟩ | hv
    · rw [hOpened]
      rfl
    · exact h.sessionId _ _ hv
  · rcases hWorld hv with ⟨rfl, rfl⟩ | hv
    · rw [hOpened]
      rfl
    · exact h.closed _ _ hv hClosed
  · rw [h.registry]
    constructor
    · rintro ⟨v, hv, hMem⟩
      have hNe : sessionId' ≠ sessionId := by
        rintro rfl
        rw [hFresh] at hv
        cases hv
      exact ⟨v, (Function.update_of_ne hNe _ _).trans hv, hMem⟩
    · rintro ⟨v, hv, hMem⟩
      rcases hWorld hv with ⟨-, rfl⟩ | hv
      · rw [hOpened] at hMem
        exact absurd hMem (Finset.notMem_empty _)
      · exact ⟨v, hv, hMem⟩

/-- Every reachable process is isolated. -/
theorem Process.Reachable.isolated {p : Process} (h : p.Reachable) : p.Isolated := by
  induction h with
  | refl =>
      refine ⟨fun _ _ h => (nomatch h), fun _ _ h => (nomatch h), fun reference sessionId => ?_⟩
      simp
  | tail _ hStep ih =>
      cases hStep with
      | opened sessionId limits cursorKey w hFresh hOpened => exact ih.opened hFresh hOpened
      | acts sessionId w action hWorld =>
          obtain ⟨hSessionId, hChange⟩ := action_scopeChange action (Process.enter _ w)
          exact ih.leave hWorld hSessionId hChange

/-! ## Resolving -/

/-- The three outcomes of resolving a well-formed reference that is not corrupt in an open session. -/
theorem run_resolve_of_open {reference : Text} {kind : RecordKind} {loc : Location}
    (hOpen : w.session.closed = false) (hLoc : destinationOf reference kind = .ok loc)
    (hCorrupt : reference ∉ w.session.corruptReferences) :
    (resolve reference kind).run w
      = if reference ∈ w.session.references then .ok loc w
        else if w.registry.knownOutside w.session.sessionId reference = true then
          .error (failure .referenceScopeDenied) w
        else .error (failure .referenceNotFound) w := by
  have hRequire : requireOpen.run w = .ok () w := run_raiseIf_eq_ok.2 ⟨by rw [hOpen]; simp, rfl⟩
  have hCheck : (raiseIf (reference ∈ w.session.corruptReferences) (failure .recordCorrupt)).run w
      = .ok () w := run_raiseIf_eq_ok.2 ⟨hCorrupt, rfl⟩
  have hDestination : (lift id (destinationOf reference kind) : Host Location).run w = .ok loc
    w := by
    rw [hLoc]
    rfl
  unfold resolve
  rw [run_bind_of_ok hRequire, run_bind_of_ok hDestination, run_get_bind, run_bind_of_ok hCheck]
  by_cases hMem : reference ∈ w.session.references
  · rw [if_pos hMem, if_pos hMem]
    rfl
  · rw [if_neg hMem, if_neg hMem]
    by_cases hKnown : w.registry.knownOutside w.session.sessionId reference = true
    · rw [if_pos hKnown, if_pos hKnown]
      rfl
    · rw [if_neg hKnown, if_neg hKnown]
      rfl

/-- Nothing resolves in a closed session. -/
theorem run_resolve_of_closed {reference : Text} {kind : RecordKind}
    (hClosed : w.session.closed = true) :
    (resolve reference kind).run w = .error (failure .referenceNotFound) w := by
  have hRequire : requireOpen.run w = .error (failure .referenceNotFound) w :=
    run_raiseIf_eq_error.2 ⟨hClosed, rfl, rfl⟩
  unfold resolve
  rw [run_bind, hRequire]

/-- The reference that a publication returns. -/
def Call.published (c : Call) (w : World) : Option Text :=
  match c with
  | .publishDataset payload record =>
      match (SessionCas.publishDataset payload record).run w with
      | .ok reference _ => some reference
      | .error _ _ => none
  | .publishOperation record manifestBytes members =>
      match (SessionCas.publishOperation record manifestBytes members).run w with
      | .ok reference _ => some reference
      | .error _ _ => none
  | _ => none

/-- The references of a session are those that its publications have returned. -/
theorem references_call (c : Call) (w : World) :
    (final (c.run.run w)).session.references
      = w.session.references ∪ (c.published w).toFinset := by
  have hDone : ∀ {α : Type} (x : Host α), final ((do let _ ← x).run w) = final (x.run w) := by
    intro α x
    rw [run_bind]
    cases x.run w <;> rfl
  have hLoad : ∀ {α : Type} {x : Host α}, Keeps (Settles ∅ ∅) x →
      (final ((do let _ ← x).run w)).session.references = w.session.references ∪ ∅ := by
    intro α x hx
    rw [hDone, (hx w).references, Finset.union_empty]
  -- A publication adds the reference it answers. Loads and cursors add nothing, however they end.
  cases c with
  | publishDataset payload record =>
      show (final ((do let _ ← SessionCas.publishDataset payload record).run w)).session.references
        = _
      rw [hDone]
      unfold Call.published
      cases h : (SessionCas.publishDataset payload record).run w with
      | ok reference t =>
          obtain ⟨-, _, _, _, loc, -, -, -, -, hRegisters⟩ := publishDataset_spec h
          simp only [h, final_ok, Option.toFinset_some, hRegisters.references, Finset.union_comm,
            Finset.insert_eq]
      | error e t =>
          simp only [h, final_error, Option.toFinset_none, Finset.union_empty]
          exact (onError_publishDataset payload record _ _ _ h).references
  | publishOperation record manifestBytes members =>
      show (final ((do let _ ← SessionCas.publishOperation record manifestBytes members).run
        w)).session.references = _
      rw [hDone]
      unfold Call.published
      cases h : (SessionCas.publishOperation record manifestBytes members).run w with
      | ok reference t =>
          obtain ⟨-, _, _, _, loc, -, -, -, -, hRegisters⟩ := publishOperation_spec h
          simp only [h, final_ok, Option.toFinset_some, hRegisters.references, Finset.union_comm,
            Finset.insert_eq]
      | error e t =>
          simp only [h, final_error, Option.toFinset_none, Finset.union_empty]
          exact (onError_publishOperation record manifestBytes members _ _ _ h).references
  | loadDataset reference => exact hLoad (keeps_settles_loadDataset reference)
  | loadOperation reference => exact hLoad (keeps_settles_loadOperation reference)
  | encodeCursor reference view selector nextIndex =>
      exact hLoad ((keeps_reads_encodeCursor _ _ _ _).mono (fun _ _ h => h.settles))
  | decodeCursor token reference view selector =>
      exact hLoad ((keeps_reads_decodeCursor _ _ _ _).mono (fun _ _ h => h.settles))

/-- A session is open and has registered a reference. -/
def Process.Holds (p : Process) (sessionId reference : Text) : Prop :=
  ∃ w, p.world sessionId = some w ∧ w.session.closed = false ∧ reference ∈ w.session.references

/-- In an isolated process the registry says who holds a reference. -/
theorem Process.Isolated.mem_registry {p : Process} (h : p.Isolated) {reference sessionId : Text} :
    sessionId ∈ p.registry reference ↔ p.Holds sessionId reference := by
  rw [h.registry]
  constructor
  · rintro ⟨w, hWorld, hMem⟩
    refine ⟨w, hWorld, Bool.eq_false_iff.2 (fun hClosed => ?_), hMem⟩
    rw [h.closed _ _ hWorld hClosed] at hMem
    exact absurd hMem (Finset.notMem_empty _)
  · rintro ⟨w, hWorld, -, hMem⟩
    exact ⟨w, hWorld, hMem⟩

/-- Another session holds a reference. -/
def Process.HeldElsewhere (p : Process) (sessionId reference : Text) : Prop :=
  ∃ sessionId', sessionId' ≠ sessionId ∧ p.Holds sessionId' reference

/-- What resolving a well-formed reference that is not corrupt does in an open session. -/
structure Process.Resolves (p : Process) (sessionId : Text) (w : World) (reference : Text)
    (kind : RecordKind) (loc : Location) : Prop where
  ok : (resolve reference kind).run (p.enter w) = .ok loc (p.enter w) ↔ p.Holds sessionId reference
  scopeDenied : (resolve reference kind).run (p.enter w)
      = .error (failure .referenceScopeDenied) (p.enter w) ↔
    ¬ p.Holds sessionId reference ∧ p.HeldElsewhere sessionId reference
  notFound : (resolve reference kind).run (p.enter w)
      = .error (failure .referenceNotFound) (p.enter w) ↔
    ¬ p.Holds sessionId reference ∧ ¬ p.HeldElsewhere sessionId reference

/-- An open session resolves what it holds, unless it is corrupt. -/
theorem Process.Isolated.resolves {p : Process} (h : p.Isolated) {sessionId : Text} {w : World}
    {reference : Text} {kind : RecordKind} {loc : Location} (hWorld : p.world sessionId = some w)
    (hOpen : w.session.closed = false) (hLoc : destinationOf reference kind = .ok loc)
    (hCorrupt : reference ∉ w.session.corruptReferences) :
    p.Resolves sessionId w reference kind loc := by
  have hRun := run_resolve_of_open (w := p.enter w) hOpen hLoc hCorrupt
  have hHolds : reference ∈ (p.enter w).session.references ↔ p.Holds sessionId reference := by
    constructor
    · exact fun hMem => ⟨w, hWorld, hOpen, hMem⟩
    · rintro ⟨v, hv, -, hMem⟩
      rw [hWorld] at hv
      cases hv
      exact hMem
  have hElsewhere : (p.enter w).registry.knownOutside (p.enter w).session.sessionId reference =
    true ↔
      p.HeldElsewhere sessionId reference := by
    rw [SessionScopeRegistry.knownOutside_eq_true]
    show (∃ sessionId', sessionId' ≠ w.session.sessionId ∧ sessionId' ∈ p.registry reference) ↔ _
    rw [h.sessionId _ _ hWorld]
    simp only [h.mem_registry, Process.HeldElsewhere]
  by_cases hMem : reference ∈ (p.enter w).session.references
  · rw [if_pos hMem] at hRun
    refine ⟨?_, ?_, ?_⟩ <;> simp [hRun, ← hHolds, hMem]
  · rw [if_neg hMem] at hRun
    by_cases hKnown : (p.enter w).registry.knownOutside (p.enter w).session.sessionId reference =
      true
    · rw [if_pos hKnown] at hRun
      refine ⟨?_, ?_, ?_⟩ <;> simp [hRun, ← hHolds, ← hElsewhere, hMem, hKnown,
        HostFailures.failure]
    · rw [if_neg hKnown] at hRun
      refine ⟨?_, ?_, ?_⟩ <;> simp [hRun, ← hHolds, ← hElsewhere, hMem, hKnown,
        HostFailures.failure]

/-- In every state that the sessions of a process reach together, the registry holds each reference
for exactly the open sessions whose publications returned it, resolving depends on who holds the
reference alone, and a closed session resolves nothing and holds nothing, however its removal ended. -/
theorem session_scope_isolation (p : Process) (h : p.Reachable) :
    (∀ reference sessionId, sessionId ∈ p.registry reference ↔ p.Holds sessionId reference) ∧
    (∀ (c : Call) w, (final (c.run.run w)).session.references
      = w.session.references ∪ (c.published w).toFinset) ∧
    (∀ sessionId w reference kind loc, p.world sessionId = some w → w.session.closed = false →
      destinationOf reference kind = .ok loc → reference ∉ w.session.corruptReferences →
        p.Resolves sessionId w reference kind loc) ∧
    (∀ w, (final (close.run w)).session.closed = true) ∧
    (∀ sessionId w, p.world sessionId = some w → w.session.closed = true →
      (∀ reference kind, (resolve reference kind).run (p.enter w)
        = .error (failure .referenceNotFound) (p.enter w)) ∧
      ∀ reference, sessionId ∉ p.registry reference) := by
  have hIsolated := h.isolated
  refine ⟨fun _ _ => hIsolated.mem_registry, references_call, ?_, fun w =>
    (close_scopeChange w).2.2, ?_⟩
  · intro sessionId w reference kind loc hWorld hOpen hLoc hCorrupt
    exact hIsolated.resolves hWorld hOpen hLoc hCorrupt
  · intro sessionId w hWorld hClosed
    refine ⟨fun reference kind => run_resolve_of_closed hClosed, fun reference hMem => ?_⟩
    obtain ⟨v, hv, hOpen, -⟩ := hIsolated.mem_registry.1 hMem
    rw [hWorld] at hv
    cases hv
    exact absurd (hOpen.symm.trans hClosed) Bool.false_ne_true

/-- The world of a session that left is kept as it ended. -/
theorem Process.world_leave_self (p : Process) (sessionId : Text) (w : World) :
    (p.leave sessionId w).world sessionId = some w := Function.update_self _ _ _

/-- The other sessions are left alone. -/
theorem Process.world_leave_of_ne (p : Process) {sessionId sessionId' : Text} (w : World)
    (h : sessionId' ≠ sessionId) : (p.leave sessionId w).world sessionId' = p.world sessionId' :=
  Function.update_of_ne h _ _

/-- What a session sees of its process leaves it fresh. -/
theorem FreshSession.enter {sessionId : Text} (h : FreshSession sessionId w) (p : Process) :
    FreshSession sessionId (p.enter w) := ⟨h.calm.congr rfl, h.session, h.empty⟩

/-- A fresh session of a process publishes the sample. -/
theorem Process.publishes_sample {p : Process} {sessionId : Text} (h : FreshSession sessionId w)
    (hWorld : p.world sessionId = some w) :
    ∃ w', Process.Step p (p.leave sessionId w') ∧ HoldsSample sessionId (p.enter w) w' := by
  obtain ⟨w', hRun, hHolds⟩ := run_publishDataset_sample (h.enter p)
  have hStep := Process.Step.acts p sessionId w
    (.call (.publishDataset (samplePayload integerCell) sampleRecord)) hWorld
  have hCall : (Action.call (.publishDataset (samplePayload integerCell) sampleRecord)).run.run
      (p.enter w) = .ok () w' := run_bind_eq_ok.2 ⟨_, _, hRun, rfl⟩
  rw [hCall] at hStep
  exact ⟨w', hStep, hHolds⟩

/-- After its publication a session holds the sample. -/
theorem HoldsSample.holds {p : Process} {sessionId : Text} (h : HoldsSample sessionId w w')
    (hFresh : FreshSession sessionId w) (hWorld : p.world sessionId = some w') :
    p.Holds sessionId sampleReference := by
  have hClosed : w'.session.closed = w.session.closed := by
    rw [h.session]
    rfl
  refine ⟨w', hWorld, ?_, ?_⟩
  · rw [hClosed, hFresh.session]
    rfl
  · rw [h.session]
    exact Finset.mem_insert_self _ _

/-- The process in which one more session has just been opened. -/
def Process.addFresh (p : Process) (sessionId : Text) : Process :=
  { p with world :=
    Function.update p.world sessionId (some (World.opened sessionId sampleLimits [])) }

/-- The world of a session that was just opened. -/
theorem Process.world_addFresh_self (p : Process) (sessionId : Text) :
    (p.addFresh sessionId).world sessionId = some (World.opened sessionId sampleLimits []) :=
  Function.update_self _ _ _

/-- Opening a session leaves the others alone. -/
theorem Process.world_addFresh_of_ne (p : Process) {sessionId sessionId' : Text}
    (h : sessionId' ≠ sessionId) : (p.addFresh sessionId).world sessionId' = p.world sessionId' :=
  Function.update_of_ne h _ _

/-- Opening a session leads to a reachable process. -/
theorem Process.Reachable.addFresh {p : Process} (h : p.Reachable) {sessionId : Text}
    (hFresh : p.world sessionId = none) : (p.addFresh sessionId).Reachable :=
  h.tail (.opened p sessionId sampleLimits [] _ hFresh rfl)

/-- A process with three fresh sessions. -/
def threeSessions : Process :=
  ((Process.addFresh ⟨fun _ => none, fun _ => ∅⟩ (py "a")).addFresh (py "b")).addFresh (py "c")

/-- The three sample sessions have different names. -/
theorem names_ne : py "a" ≠ py "b" ∧ py "c" ≠ py "a" ∧ py "c" ≠ py "b" := by decide

/-- A process with three sessions is reachable. -/
theorem reachable_threeSessions : threeSessions.Reachable := by
  obtain ⟨hab, hca, hcb⟩ := names_ne
  refine Process.Reachable.addFresh
    (Process.Reachable.addFresh (Process.Reachable.addFresh .refl rfl)
    ?_) ?_
  · rw [Process.world_addFresh_of_ne _ hab.symm]
  · rw [Process.world_addFresh_of_ne _ hcb, Process.world_addFresh_of_ne _ hca]

/-- Each of them was just opened, and there is no other. -/
theorem world_threeSessions :
    threeSessions.world (py "a") = some (World.opened (py "a") sampleLimits []) ∧
      threeSessions.world (py "b") = some (World.opened (py "b") sampleLimits []) ∧
      threeSessions.world (py "c") = some (World.opened (py "c") sampleLimits []) ∧
      ∀ sessionId, sessionId ≠ py "a" → sessionId ≠ py "b" → sessionId ≠ py "c" →
        threeSessions.world sessionId = none := by
  obtain ⟨hab, hca, hcb⟩ := names_ne
  unfold threeSessions
  refine ⟨?_, ?_, Process.world_addFresh_self _ _, fun sessionId ha hb hc => ?_⟩
  · rw [Process.world_addFresh_of_ne _ hca.symm, Process.world_addFresh_of_ne _ hab,
      Process.world_addFresh_self]
  · rw [Process.world_addFresh_of_ne _ hcb.symm, Process.world_addFresh_self]
  · rw [Process.world_addFresh_of_ne _ hc, Process.world_addFresh_of_ne _ hb,
      Process.world_addFresh_of_ne _ ha]

/-- Of three sessions two publish the sample, and both hold its reference; then the first is closed.
The registry holds the reference for the second alone, where it resolves; the third is denied the
scope of the second, and the closed one finds nothing. -/
theorem session_scope_isolation_shared : ∃ (p q : Process) (wa wb wc : World), p.Reachable ∧
    p.Holds (py "a") sampleReference ∧ p.Holds (py "b") sampleReference ∧ Process.Step p q ∧
    q.world (py "a") = some wa ∧ q.world (py "b") = some wb ∧ q.world (py "c") = some wc ∧
    wa.session.closed = true ∧
    (∀ sessionId, sessionId ∈ q.registry sampleReference ↔ sessionId = py "b") ∧
    (resolve sampleReference .dataset).run (q.enter wa)
      = .error (failure .referenceNotFound) (q.enter wa) ∧
    (resolve sampleReference .dataset).run (q.enter wb)
      = .ok ⟨.datasets, sampleDigest⟩ (q.enter wb) ∧
    (resolve sampleReference .dataset).run (q.enter wc)
      = .error (failure .referenceScopeDenied) (q.enter wc) := by
  obtain ⟨hA, hB, hC, hNone⟩ := world_threeSessions
  obtain ⟨hab, hca, hcb⟩ := names_ne
  obtain ⟨wa, hStepA, hHoldsA⟩ := Process.publishes_sample (freshSession_opened _) hA
  have hB₁ := (threeSessions.world_leave_of_ne wa hab.symm).trans hB
  obtain ⟨wb, hStepB, hHoldsB⟩ := Process.publishes_sample (freshSession_opened _) hB₁
  -- both have published
  have hWorldA := ((threeSessions.leave (py "a") wa).world_leave_of_ne wb hab).trans
    (threeSessions.world_leave_self _ wa)
  have hReachable := (reachable_threeSessions.tail hStepA).tail hStepB
  have hFreshA :
    FreshSession (py "a") (threeSessions.enter (World.opened (py "a") sampleLimits [])) :=
    (freshSession_opened _).enter _
  have hFreshB : FreshSession (py "b") ((threeSessions.leave (py "a") wa).enter
      (World.opened (py "b") sampleLimits [])) := (freshSession_opened _).enter _
  have hStepClose := Process.Step.acts _ (py "a") wa .close hWorldA
  generalize hp : (threeSessions.leave (py "a") wa).leave (py "b") wb = p at *
  have hWorldB : p.world (py "b") = some wb := by
    rw [← hp]
    exact Process.world_leave_self _ _ _
  have hWorldC : p.world (py "c") = some (World.opened (py "c") sampleLimits []) := by
    rw [← hp]
    exact ((Process.world_leave_of_ne _ wb hcb).trans (Process.world_leave_of_ne _ wa hca)).trans hC
  have hOthers : ∀ sessionId, sessionId ≠ py "a" → sessionId ≠ py "b" → sessionId ≠ py "c" →
      p.world sessionId = none := by
    intro sessionId ha hb hc
    rw [← hp]
    exact ((Process.world_leave_of_ne _ wb hb).trans (Process.world_leave_of_ne _ wa ha)).trans
      (hNone sessionId ha hb hc)
  -- the first is closed
  have hClosed := (session_scope_isolation p hReachable).2.2.2.1 (p.enter wa)
  have hReachable' := hReachable.tail hStepClose
  change Process.Step p (p.leave (py "a") (final (close.run (p.enter wa)))) at hStepClose
  change (p.leave (py "a") (final (close.run (p.enter wa)))).Reachable at hReachable'
  generalize final (close.run (p.enter wa)) = wa' at *
  have hQB : (p.leave (py "a") wa').world (py "b") = some wb :=
    (p.world_leave_of_ne wa' hab.symm).trans hWorldB
  have hQC : (p.leave (py "a") wa').world (py "c") = some (World.opened (py "c") sampleLimits []) :=
    (p.world_leave_of_ne wa' hca).trans hWorldC
  have hHolds := hHoldsB.holds hFreshB hQB
  obtain ⟨hRegistry, -, hResolves, -, hGone⟩ := session_scope_isolation _ hReachable'
  have hNotC : ¬ (p.leave (py "a") wa').Holds (py "c") sampleReference := by
    rintro ⟨v, hv, -, hMem⟩
    rw [hQC] at hv
    cases hv
    exact absurd hMem (Finset.notMem_empty _)
  have hNotA : ¬ (p.leave (py "a") wa').Holds (py "a") sampleReference := by
    rintro ⟨v, hv, hOpen, -⟩
    rw [p.world_leave_self] at hv
    cases hv
    exact absurd (hOpen.symm.trans hClosed) Bool.false_ne_true
  refine ⟨p, p.leave (py "a") wa', wa', wb, World.opened (py "c") sampleLimits [], hReachable,
    hHoldsA.holds hFreshA hWorldA, hHoldsB.holds hFreshB hWorldB, hStepClose,
    p.world_leave_self _ _, hQB, hQC, hClosed, fun sessionId => ?_, ?_, ?_, ?_⟩
  · rw [hRegistry]
    constructor
    · intro h
      by_contra hNe
      by_cases ha : sessionId = py "a"
      · exact hNotA (ha ▸ h)
      · by_cases hc : sessionId = py "c"
        · exact hNotC (hc ▸ h)
        · obtain ⟨v, hv, -⟩ := h
          rw [p.world_leave_of_ne _ ha, hOthers _ ha hNe hc] at hv
          cases hv
    · rintro rfl
      exact hHolds
  · exact (hGone (py "a") wa' (p.world_leave_self _ _) hClosed).1 _ _
  · refine (hResolves (py "b") wb _ _ _ hQB ?_ destinationOf_sampleReference ?_).ok.2 hHolds
    · rw [hHoldsB.session]
      rfl
    · rw [hHoldsB.session]
      exact Finset.notMem_empty _
  · exact (hResolves (py "c") _ _ _ _ hQC rfl destinationOf_sampleReference
      (Finset.notMem_empty _)).scopeDenied.2 ⟨hNotC, py "b", hcb.symm, hHolds⟩

end SessionCas
