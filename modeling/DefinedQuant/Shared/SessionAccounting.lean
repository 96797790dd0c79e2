import DefinedQuant.Shared.SessionRuns
import Mathlib.Algebra.BigOperators.Group.Finset.Basic

/-!
# The accounting of a session

Every state that a session can reach, whatever is called and whichever steps fail, accounts for each
registered reference once and stays within its limit. When nothing outside acts, every registered
reference that is not corrupt has an intact entry.
-/

namespace SessionCas

open Json DataRecords HostFailures LocalHost OperationRecords FileTree Effect

variable {w w' : World}

/-! ## Calls and runs -/

/-- The operations that a session offers while it is open. -/
inductive Call where
  | publishDataset (payload record : Value)
  | publishOperation (record : Value) (manifestBytes : Bytes) (members : List (Text × Bytes))
  | loadDataset (reference : Text)
  | loadOperation (reference : Text)
  | encodeCursor (reference view : Text) (selector : Option Text) (nextIndex : ℤ)
  | decodeCursor (token reference view : Text) (selector : Option Text)

/-- A call, for its effect. -/
def Call.run : Call → Host Unit
  | .publishDataset payload record => do let _ ← SessionCas.publishDataset payload record
  | .publishOperation record manifestBytes members => do
      let _ ← SessionCas.publishOperation record manifestBytes members
  | .loadDataset reference => do let _ ← SessionCas.loadDataset reference
  | .loadOperation reference => do let _ ← SessionCas.loadOperation reference
  | .encodeCursor reference view selector nextIndex => do
      let _ ← SessionCas.encodeCursor reference view selector nextIndex
  | .decodeCursor token reference view selector => do
      let _ ← SessionCas.decodeCursor token reference view selector

/-- The bytes that a publication writes: payload and record, or record, manifest and members. -/
def Call.octets : Call → ℕ
  | .publishDataset payload record =>
      match validateDatasetArguments payload record with
      | .ok (_, payloadBytes, recordBytes) => payloadBytes.length + recordBytes.length
      | .error _ => 0
  | .publishOperation record manifestBytes members =>
      match validateOperationArguments record manifestBytes members with
      | .ok (_, memberCopy, recordBytes) =>
          recordBytes.length +
            (manifestBytes.length + (memberCopy.map (fun member => member.2.length)).sum)
      | .error _ => 0
  | _ => 0

/-- A call that raises has settled. -/
theorem onError_call (call : Call) : OnError (Settles ∅ ∅) call.run := by
  have hDiscard : ∀ {α : Type} {x : Host α}, OnError (Settles ∅ ∅) x →
      OnError (Settles ∅ ∅) (do let _ ← x) := by
    intro α x hx v e v' h
    rcases run_bind_eq_error.1 h with h | ⟨_, _, _, h⟩
    · exact hx _ _ _ h
    · cases h
  cases call with
  | publishDataset payload record => exact hDiscard (onError_publishDataset payload record)
  | publishOperation record manifestBytes members =>
      exact hDiscard (onError_publishOperation record manifestBytes members)
  | loadDataset reference => exact hDiscard (keeps_settles_loadDataset reference).onError
  | loadOperation reference => exact hDiscard (keeps_settles_loadOperation reference).onError
  | encodeCursor reference view selector nextIndex =>
      exact hDiscard ((keeps_reads_encodeCursor _ _ _ _).mono (fun _ _ h => h.settles)).onError
  | decodeCursor token reference view selector =>
      exact hDiscard ((keeps_reads_decodeCursor _ _ _ _).mono (fun _ _ h => h.settles)).onError

/-- The octets of an accepted dataset: those of its payload and of its record. -/
theorem octets_publishDataset {payload record : Value} {validatedRecord : DatasetRecord}
    {payloadBytes recordBytes : Bytes} (h : validateDatasetArguments payload record
      = .ok (validatedRecord, payloadBytes, recordBytes)) :
    (Call.publishDataset payload record).octets = payloadBytes.length + recordBytes.length := by
  simp only [Call.octets, h]

/-- The octets of an accepted operation: those of its record, its manifest and its members. -/
theorem octets_publishOperation {record : Value} {manifestBytes : Bytes}
    {members memberCopy : List (Text × Bytes)} {validatedRecord : OperationRecord}
    {recordBytes : Bytes} (h : validateOperationArguments record manifestBytes members
      = .ok (validatedRecord, memberCopy, recordBytes)) :
    (Call.publishOperation record manifestBytes members).octets = recordBytes.length +
      (manifestBytes.length + (memberCopy.map (fun member => member.2.length)).sum) := by
  simp only [Call.octets, h]

/-- A call that returns has settled or registered one reference. -/
theorem call_spec {call : Call} (h : call.run.run w = .ok () w') :
    Settles ∅ ∅ w w' ∨ w.session.closed = false ∧ ∃ kind loc reference,
      destinationOf reference kind = .ok loc ∧ reference ∉ w.session.corruptReferences ∧
        Registers call.octets loc reference w w' := by
  cases call with
  | publishDataset payload record =>
      obtain ⟨result, t, hRun, hDone⟩ := run_bind_eq_ok.1 h
      cases hDone
      obtain ⟨hOpen, _, _, _, loc, hArguments, -, hCorrupt, hLoc, hRegisters⟩ :=
        publishDataset_spec hRun
      rw [← octets_publishDataset hArguments] at hRegisters
      exact .inr ⟨hOpen, _, loc, result, hLoc, hCorrupt, hRegisters⟩
  | publishOperation record manifestBytes members =>
      obtain ⟨result, t, hRun, hDone⟩ := run_bind_eq_ok.1 h
      cases hDone
      obtain ⟨hOpen, _, _, _, loc, hArguments, -, hCorrupt, hLoc, hRegisters⟩ :=
        publishOperation_spec hRun
      rw [← octets_publishOperation hArguments] at hRegisters
      exact .inr ⟨hOpen, _, loc, result, hLoc, hCorrupt, hRegisters⟩
  | loadDataset reference =>
      exact .inl ((keeps_bind (keeps_settles_loadDataset reference) (fun _ => keeps_pure _)).ok h)
  | loadOperation reference =>
      exact .inl ((keeps_bind (keeps_settles_loadOperation reference) (fun _ => keeps_pure _)).ok h)
  | encodeCursor reference view selector nextIndex =>
      have hKeeps := keeps_bind (keeps_reads_encodeCursor reference view selector nextIndex)
        (fun _ => keeps_pure ())
      exact .inl (hKeeps.ok h).settles
  | decodeCursor token reference view selector =>
      have hKeeps := keeps_bind (keeps_reads_decodeCursor token reference view selector)
        (fun _ => keeps_pure ())
      exact .inl (hKeeps.ok h).settles

/-- One step of a run: a call, or other sessions changing what they share with this one. -/
inductive Step : World → World → Prop
  | call (c : Call) (w : World) : Step w (final (c.run.run w))
  | others (w : World) (registry : SessionScopeRegistry) : Step w { w with registry := registry }

/-- The states that an opened session reaches. -/
def Reachable (w : World) : Prop :=
  ∃ (start : World) (sessionId : Text) (limits : CasLimits) (cursorKey : Bytes),
    start.session = Session.opened sessionId limits cursorKey ∧ Relation.ReflTransGen Step start w

/-- A session that was just opened is reachable. -/
theorem reachable_opened (sessionId : Text) (limits : CasLimits) (cursorKey : Bytes) :
    Reachable (World.opened sessionId limits cursorKey) :=
  ⟨_, sessionId, limits, cursorKey, rfl, .refl⟩

/-- A publication that returns is a step. -/
theorem step_publishDataset {payload record : Value} {reference : Text}
    (h : (publishDataset payload record).run w = .ok reference w') : Step w w' := by
  have hCall := Step.call (.publishDataset payload record) w
  have hDone : (Call.publishDataset payload record).run.run w = .ok () w' :=
    run_bind_eq_ok.2 ⟨_, _, h, rfl⟩
  rwa [hDone] at hCall

/-- A successful publication leads to a reachable world. -/
theorem Reachable.publishDataset {payload record : Value} {reference : Text} (h : Reachable w)
    (hRun : (publishDataset payload record).run w = .ok reference w') : Reachable w' := by
  obtain ⟨start, sessionId, limits, cursorKey, hStart, hSteps⟩ := h
  exact ⟨start, sessionId, limits, cursorKey, hStart, hSteps.tail (step_publishDataset hRun)⟩

/-- What a call does, however it ends. -/
theorem call_step (call : Call) (w : World) :
    Settles ∅ ∅ w (final (call.run.run w)) ∨ w.session.closed = false ∧ ∃ kind loc reference,
      destinationOf reference kind = .ok loc ∧ reference ∉ w.session.corruptReferences ∧
        Registers call.octets loc reference w (final (call.run.run w)) := by
  cases h : call.run.run w with
  | ok u t => exact call_spec h
  | error e t => exact .inl (onError_call call _ _ _ h)

/-! ## Accounting -/

/-- The bytes that a session has used are those it counted, and within its limit. -/
def Accounted (session : Session) : Prop :=
  session.usedBytes = ∑ reference ∈ session.references, session.counted reference ∧
    session.usedBytes ≤ session.limits.sessionBytes

/-- A session that was just opened has nothing to account for. -/
theorem accounted_opened (sessionId : Text) (limits : CasLimits) (cursorKey : Bytes) :
    Accounted (Session.opened sessionId limits cursorKey) :=
  ⟨rfl, Nat.zero_le _⟩

/-- Settling keeps the account. -/
theorem Accounted.settles {X : Set Location} {F : Set Text} (h : Accounted w.session)
    (hSettles : Settles X F w w') : Accounted w'.session := by
  unfold Accounted
  rw [hSettles.usedBytes, hSettles.references, hSettles.counted, hSettles.limits]
  exact h

/-- A registration counts a new reference once. -/
theorem Accounted.register {reference : Text} {size : ℕ} {u : Unit} (h : Accounted w.session)
    (hRun : (register reference size).run w = .ok u w') : Accounted w'.session := by
  rcases run_register_eq_ok.1 hRun with ⟨-, rfl⟩ | ⟨hNew, hRoom, rfl⟩
  · exact h
  · refine ⟨?_, hRoom⟩
    show w.session.usedBytes + size = ∑ r ∈ insert reference w.session.references,
      Function.update w.session.counted reference size r
    have hOthers : ∑ r ∈ w.session.references, Function.update w.session.counted reference size r
        = ∑ r ∈ w.session.references, w.session.counted r := by
      refine Finset.sum_congr rfl (fun r hr => ?_)
      have hNe : r ≠ reference := fun hEq => hNew (hEq ▸ hr)
      rw [Function.update_of_ne hNe]
    rw [Finset.sum_insert hNew, Function.update_self, hOthers, h.1, add_comm]

/-- Registering an entry keeps the account. -/
theorem Accounted.registers {octets : ℕ} {loc : Location} {reference : Text}
    (h : Accounted w.session)
    (hRegisters : Registers octets loc reference w w') : Accounted w'.session := by
  obtain ⟨t, t', size, hBefore, hRegister, hAfter, -⟩ := hRegisters
  exact ((h.settles hBefore).register hRegister).settles hAfter

/-- Registering changes no entry, and forgets nothing. -/
theorem carries_of_register {reference : Text} {size : ℕ} {u : Unit}
    (h : (register reference size).run w = .ok u w') : Carries w w' := by
  rcases run_register_eq_ok.1 h with ⟨-, rfl⟩ | ⟨-, -, rfl⟩
  · exact ⟨rfl, subset_rfl, subset_rfl, fun _ _ _ => .inl rfl⟩
  · exact ⟨rfl, Finset.subset_insert _ _, subset_rfl, fun _ _ _ => .inl rfl⟩

/-- `_register` adds its reference to the references. -/
theorem references_of_register {reference : Text} {size : ℕ} {u : Unit}
    (h : (register reference size).run w = .ok u w') :
    w'.session.references = insert reference w.session.references := by
  rcases run_register_eq_ok.1 h with ⟨hMem, rfl⟩ | ⟨-, -, rfl⟩
  · exact (Finset.insert_eq_self.2 hMem).symm
  · rfl

/-- Registering adds one reference. -/
theorem Registers.references {octets : ℕ} {loc : Location} {reference : Text}
    (h : Registers octets loc reference w w') :
    w'.session.references = insert reference w.session.references := by
  obtain ⟨t, t', size, hBefore, hRegister, hAfter, -⟩ := h
  rw [hAfter.references, references_of_register hRegister, hBefore.references]

/-- Registering what is registered uses no bytes. -/
theorem Registers.usedBytes {octets : ℕ} {loc : Location} {reference : Text}
    (h : Registers octets loc reference w w')
    (hMem : reference ∈ w.session.references) : w'.session.usedBytes = w.session.usedBytes := by
  obtain ⟨t, t', size, hBefore, hRegister, hAfter, -⟩ := h
  rcases run_register_eq_ok.1 hRegister with ⟨-, rfl⟩ | ⟨hNew, -⟩
  · rw [hAfter.usedBytes, hBefore.usedBytes]
  · rw [hBefore.references] at hNew
    exact absurd hMem hNew

/-- Registering closes nothing. -/
theorem Registers.closed {octets : ℕ} {loc : Location} {reference : Text}
    (h : Registers octets loc reference w w') : w'.session.closed = w.session.closed := by
  obtain ⟨t, t', size, hBefore, hRegister, hAfter, -⟩ := h
  rw [hAfter.closed, ← hBefore.closed]
  rcases run_register_eq_ok.1 hRegister with ⟨-, rfl⟩ | ⟨-, -, rfl⟩ <;> rfl

/-- Registering leaves the outside alone. -/
theorem Registers.oracle {octets : ℕ} {loc : Location} {reference : Text}
    (h : Registers octets loc reference w w') : w'.oracle = w.oracle := by
  obtain ⟨t, t', size, hBefore, hRegister, hAfter, -⟩ := h
  rw [hAfter.oracle, ← hBefore.oracle]
  rcases run_register_eq_ok.1 hRegister with ⟨-, rfl⟩ | ⟨-, -, rfl⟩ <;> rfl

/-! ## What is counted -/

/-- A reference that leads somewhere is made of the digest it leads to. -/
theorem eq_makeReference_of_destinationOf {reference : Text} {kind : RecordKind} {loc : Location}
    (h : destinationOf reference kind = .ok loc) : reference = makeReference kind loc.name := by
  obtain ⟨hArea, -, hReference⟩ := destinationOf_spec h
  rw [← hReference]
  unfold entryReference
  rw [hArea]
  cases kind <;> rfl

/-- A reference points at one place. -/
theorem destinationOf_unique {reference : Text} {kind kind' : RecordKind} {loc loc' : Location}
    (h : destinationOf reference kind = .ok loc) (h' : destinationOf reference kind' = .ok loc') :
    loc = loc' := by
  have hEq : makeReference kind loc.name = makeReference kind' loc'.name := by
    rw [← eq_makeReference_of_destinationOf h, ← eq_makeReference_of_destinationOf h']
  have hKind : kind = kind' := by
    cases kind <;> cases kind'
    · rfl
    · exact absurd hEq (makeReference_kind_ne _ _)
    · exact absurd hEq.symm (makeReference_kind_ne _ _)
    · rfl
  subst hKind
  have hName : loc.name = loc'.name := List.append_cancel_left hEq
  have hArea : loc.area = loc'.area := by
    rw [(destinationOf_spec h).1, (destinationOf_spec h').1]
  cases loc
  cases loc'
  simp only at hName hArea
  rw [hName, hArea]

/-- Something stands where an intact reference points. -/
theorem Intact.entry_ne_none {reference : Text} {kind : RecordKind} {loc : Location}
    (h : Intact w reference) (hLoc : destinationOf reference kind = .ok loc) :
    w.disk.entry loc ≠ none := by
  rcases h with ⟨loc', stored, hOnDisk, -⟩ | ⟨loc', stored, hOnDisk, -⟩
  · obtain ⟨⟨info, entries, hEntry⟩, -⟩ := replay_readDataset hOnDisk.verified
    rw [destinationOf_unique hLoc hOnDisk.destination, hEntry]
    exact Option.some_ne_none _
  · obtain ⟨dataset, -, hReads⟩ := hOnDisk.verified
    obtain ⟨info, entries, hEntry⟩ := replay_readOperation hReads.read
    rw [destinationOf_unique hLoc hOnDisk.destination, hEntry]
    exact Option.some_ne_none _

/-- A reference is counted with the size of the entry that it points at. -/
def CountsEntry (w : World) (reference : Text) : Prop :=
  ∃ kind loc, destinationOf reference kind = .ok loc ∧
    Takes (w.disk.entry loc) (w.session.counted reference)

/-- A run that counts nothing new, and counts what it registers with the bytes that it has written
or with the size that it has taken of an entry that was there. -/
structure CountsOnce (octets : ℕ) (w w' : World) : Prop where
  kept : ∀ reference ∈ w.session.references,
    reference ∈ w'.session.references ∧ w'.session.counted reference = w.session.counted reference
  new : ∀ reference ∈ w'.session.references, reference ∉ w.session.references →
    ∃ kind loc, destinationOf reference kind = .ok loc ∧
      (w'.session.counted reference = octets ∨ SizeTaken loc (w'.session.counted reference) w)

/-- Registering does not change what is counted for another entry. -/
theorem counted_of_register {reference other : Text} {size : ℕ} {u : Unit}
    (h : (register reference size).run w = .ok u w') (hOther : other ∈ w.session.references) :
    w'.session.counted other = w.session.counted other := by
  rcases run_register_eq_ok.1 h with ⟨-, rfl⟩ | ⟨hNew, -, rfl⟩
  · rfl
  · exact Function.update_of_ne (fun hEq : other = reference => hNew (hEq ▸ hOther)) _ _

/-- A reference that was not registered is counted with the size that it is registered with. -/
theorem counted_of_register_new {reference : Text} {size : ℕ} {u : Unit}
    (h : (register reference size).run w = .ok u w') (hNew : reference ∉ w.session.references) :
    w'.session.counted reference = size := by
  rcases run_register_eq_ok.1 h with ⟨hMem, -⟩ | ⟨-, -, rfl⟩
  · exact absurd hMem hNew
  · exact Function.update_self _ _ _

/-- Registering counts its entry once, the first time. -/
theorem Registers.countsOnce {octets : ℕ} {kind : RecordKind} {loc : Location} {reference : Text}
    (h : Registers octets loc reference w w') (hLoc : destinationOf reference kind = .ok loc) :
    CountsOnce octets w w' := by
  have hReferences := h.references
  obtain ⟨t, t', size, hBefore, hRegister, hAfter, -, hSize⟩ := h
  refine ⟨fun r hMem => ⟨?_, ?_⟩, fun r hMem hNew => ?_⟩
  · rw [hReferences]
    exact Finset.mem_insert_of_mem hMem
  · rw [hAfter.counted, counted_of_register hRegister (by rwa [hBefore.references]),
      hBefore.counted]
  · rw [hReferences] at hMem
    obtain rfl := (Finset.mem_insert.1 hMem).resolve_right hNew
    refine ⟨kind, loc, hLoc, ?_⟩
    rw [hAfter.counted, counted_of_register_new hRegister (by rwa [hBefore.references])]
    exact hSize

/-! ## Intact entries -/

/-- Every registered reference that is not corrupt has an intact entry of the size that is counted. -/
def AllIntact (w : World) : Prop :=
  ∀ reference ∈ w.session.references, reference ∉ w.session.corruptReferences →
    Intact w reference ∧ CountsEntry w reference

/-- What a run carries and counts as before is still counted. -/
theorem CountsEntry.carries {reference : Text} (h : CountsEntry w reference)
    (hCarries : Carries w w')
    (hIntact : Intact w reference) (hCorrupt : reference ∉ w'.session.corruptReferences)
    (hCounted : w'.session.counted reference = w.session.counted reference) :
    CountsEntry w' reference := by
  obtain ⟨kind, loc, hLoc, hTakes⟩ := h
  obtain ⟨-, hStored, hReference⟩ := destinationOf_spec hLoc
  refine ⟨kind, loc, hLoc, ?_⟩
  have hSome : w.disk.entry loc ≠ none := hIntact.entry_ne_none hLoc
  rw [hCounted]
  rcases hCarries.entries loc hStored hSome with hEq | hMark
  · rw [hEq]
    exact hTakes
  · rw [hReference] at hMark
    exact absurd hMark hCorrupt

/-- Entries that are carried over stay intact. -/
theorem AllIntact.carries (h : AllIntact w) (hCarries : Carries w w')
    (hReferences : w'.session.references = w.session.references)
    (hCounted : w'.session.counted = w.session.counted) : AllIntact w' := by
  intro reference hMem hCorrupt
  rw [hReferences] at hMem
  obtain ⟨hIntact, hCounts⟩ := h reference hMem (fun hc => hCorrupt (hCarries.corrupt hc))
  exact ⟨hIntact.carries hCarries hCorrupt,
    hCounts.carries hCarries hIntact hCorrupt (by rw [hCounted])⟩

/-- After a registration every registered entry is intact, the new one included. -/
theorem AllIntact.registers {octets : ℕ} {kind : RecordKind} {loc : Location} {reference : Text}
    (hQuiet : w.Quiet) (h : AllIntact w) (hLoc : destinationOf reference kind = .ok loc)
    (hRegisters : Registers octets loc reference w w') : AllIntact w' := by
  have hReferences := hRegisters.references
  have hCounts := hRegisters.countsOnce hLoc
  obtain ⟨t, t', size, hBefore, hRegister, hAfter, hIntact, -⟩ := hRegisters
  obtain ⟨hCarries, hIntact, hTakes⟩ := hIntact hQuiet
  have hQuiet' : t'.Quiet := hQuiet.congr (by
    rw [← hBefore.oracle]
    rcases run_register_eq_ok.1 hRegister with ⟨-, rfl⟩ | ⟨-, -, rfl⟩ <;> rfl)
  have hEnd := (carries_of_register hRegister).trans (hAfter.carries hQuiet')
  have hAll := hCarries.trans hEnd
  intro r hMem hCorrupt
  rw [hReferences] at hMem
  by_cases hOld : r ∈ w.session.references
  · obtain ⟨hIntact, hCounted⟩ := h r hOld (fun hc => hCorrupt (hAll.corrupt hc))
    exact ⟨hIntact.carries hAll hCorrupt,
      hCounted.carries hAll hIntact hCorrupt (hCounts.kept r hOld).2⟩
  · obtain rfl := (Finset.mem_insert.1 hMem).resolve_right hOld
    have hCounted : CountsEntry t' r := by
      refine ⟨kind, loc, hLoc, ?_⟩
      rw [counted_of_register_new hRegister (by rwa [hBefore.references])]
      rcases run_register_eq_ok.1 hRegister with ⟨-, rfl⟩ | ⟨-, -, rfl⟩ <;> exact hTakes
    refine ⟨hIntact.carries hEnd hCorrupt, ?_⟩
    refine hCounted.carries (hAfter.carries hQuiet') ?_ hCorrupt (by rw [hAfter.counted])
    exact hIntact.carries (carries_of_register hRegister) (fun hc => hCorrupt (hAfter.corrupt hc))

/-! ## Reachable states -/

/-- What holds of every reachable state. -/
structure Sound (w : World) : Prop where
  isOpen : w.session.closed = false
  accounted : Accounted w.session
  intact : w.Quiet → AllIntact w

/-- Every step of a session keeps it sound. -/
theorem Sound.step (h : Sound w) (hStep : Step w w') : Sound w' := by
  cases hStep with
  | call c =>
      rcases call_step c w with hSettles | ⟨-, kind, loc, reference, hLoc, -, hRegisters⟩
      · refine ⟨hSettles.closed.trans h.isOpen, h.accounted.settles hSettles, fun hQuiet => ?_⟩
        have hQuiet' := hQuiet.congr hSettles.oracle.symm
        exact (h.intact hQuiet').carries (hSettles.carries hQuiet') hSettles.references
          hSettles.counted
      · refine ⟨hRegisters.closed.trans h.isOpen, h.accounted.registers hRegisters,
          fun hQuiet => ?_⟩
        have hQuiet' := hQuiet.congr hRegisters.oracle.symm
        exact (h.intact hQuiet').registers hQuiet' hLoc hRegisters
  | others registry =>
      refine ⟨h.isOpen, h.accounted, fun hQuiet => ?_⟩
      exact AllIntact.carries (h.intact hQuiet)
        ⟨rfl, subset_rfl, subset_rfl, fun _ _ _ => .inl rfl⟩ rfl rfl

/-- Every reachable session is sound. -/
theorem Reachable.sound (h : Reachable w) : Sound w := by
  obtain ⟨start, sessionId, limits, cursorKey, hStart, hRun⟩ := h
  induction hRun with
  | refl =>
      refine ⟨by rw [hStart]; rfl, by rw [hStart]; exact accounted_opened _ _ _,
        fun _ reference hMem => ?_⟩
      rw [hStart] at hMem
      exact absurd hMem (Finset.notMem_empty _)
  | tail _ hStep ih => exact ih.step hStep

/-! ## Publishing again -/

/-- Publishing what is registered changes neither what is registered nor what is used, and can only
return the same reference. -/
theorem registered_unchanged {x : Host Text} {reference : Text} (hError : OnError (Settles ∅ ∅) x)
    (hOk : ∀ result w', x.run w = .ok result w' →
      result = reference ∧ ∃ octets loc, Registers octets loc reference w w')
    (hRegistered : reference ∈ w.session.references) :
    (∀ result w', x.run w = .ok result w' → result = reference) ∧
      (final (x.run w)).session.references = w.session.references ∧
      (final (x.run w)).session.usedBytes = w.session.usedBytes := by
  refine ⟨fun result w' h => (hOk result w' h).1, ?_⟩
  cases h : x.run w with
  | ok result t =>
      obtain ⟨-, octets, loc, hRegisters⟩ := hOk result t h
      refine ⟨?_, hRegisters.usedBytes hRegistered⟩
      show t.session.references = _
      rw [hRegisters.references, Finset.insert_eq_self.2 hRegistered]
  | error e t =>
      have hSettles := hError _ _ _ h
      exact ⟨hSettles.references, hSettles.usedBytes⟩

/-- A successful `publish_dataset` registers the octets of its arguments at the location of its
reference. -/
theorem publishDataset_registers {payload record : Value} {validatedRecord : DatasetRecord}
    {payloadBytes recordBytes : Bytes} {reference result : Text}
    (hArguments : validateDatasetArguments payload record
      = .ok (validatedRecord, payloadBytes, recordBytes))
    (hReference : validatedRecord.reference = .ok reference)
    (h : (publishDataset payload record).run w = .ok result w') :
    result = reference ∧ ∃ octets loc, Registers octets loc reference w w' := by
  obtain ⟨-, _, _, _, loc, hArguments', hReference', -, -, hRegisters⟩ := publishDataset_spec h
  rw [hArguments] at hArguments'
  cases hArguments'
  rw [hReference] at hReference'
  cases hReference'
  exact ⟨rfl, _, loc, hRegisters⟩

/-- An intact reference of a dataset record is a dataset on disk. -/
theorem Intact.dataset {reference : Text} {record : DatasetRecord} (h : Intact w reference)
    (hReference : record.reference = .ok reference) :
    ∃ loc stored, DatasetOnDisk w reference loc stored ∧ Measured (w.disk.entry loc) := by
  rcases h with h | ⟨loc, stored, hOnDisk, -⟩
  · exact h
  · obtain ⟨digest, -, hEq⟩ := Except.bind_eq_ok.1 hReference
    rw [Except.pure_eq_ok, eq_makeReference_of_destinationOf hOnDisk.destination] at hEq
    exact absurd hEq (makeReference_kind_ne _ _)

/-- An intact operation is on disk as its record says, and measured. -/
theorem Intact.operation {reference : Text} {record : OperationRecord} (h : Intact w reference)
    (hReference : record.reference = .ok reference) :
    ∃ loc stored, OperationOnDisk w reference loc stored ∧ Measured (w.disk.entry loc) := by
  rcases h with ⟨loc, stored, hOnDisk, -⟩ | h
  · obtain ⟨digest, -, hEq⟩ := Except.bind_eq_ok.1 hReference
    rw [Except.pure_eq_ok, eq_makeReference_of_destinationOf hOnDisk.destination] at hEq
    exact absurd hEq.symm (makeReference_kind_ne _ _)
  · exact h

/-- What publishing a registered dataset does: it changes neither what is registered nor what is
used, returns no other reference, and does return when the reference is not corrupt and nothing
fails. -/
def DatasetIdempotent (w : World) : Prop :=
  ∀ payload record validatedRecord payloadBytes recordBytes reference,
    validateDatasetArguments payload record = .ok (validatedRecord, payloadBytes, recordBytes) →
    validatedRecord.reference = .ok reference → reference ∈ w.session.references →
      ((∀ result w', (publishDataset payload record).run w = .ok result w' → result = reference) ∧
        (final ((publishDataset payload record).run w)).session.references = w.session.references ∧
        (final ((publishDataset payload record).run w)).session.usedBytes = w.session.usedBytes) ∧
      (w.Calm → reference ∉ w.session.corruptReferences →
        payloadBytes.length ≤ w.session.limits.datasetPayloadBytes →
        recordBytes.length ≤ w.session.limits.recordBytes →
          ∃ w', (publishDataset payload record).run w = .ok reference w')

/-- Publishing a dataset again counts nothing again. -/
theorem datasetIdempotent (h : Sound w) : DatasetIdempotent w := by
  intro payload record validatedRecord payloadBytes recordBytes reference hArguments hReference
    hRegistered
  refine ⟨registered_unchanged (onError_publishDataset payload record)
    (fun result w' hRun => publishDataset_registers hArguments hReference hRun) hRegistered, ?_⟩
  intro hCalm hCorrupt hPayload hRecord
  obtain ⟨loc, stored, hOnDisk, hMeasured⟩ :=
    (h.intact hCalm.quiet reference hRegistered hCorrupt).1.dataset hReference
  exact run_publishDataset_of_intact hCalm h.isOpen hArguments hPayload hRecord hReference
    hRegistered
    hCorrupt hOnDisk hMeasured

end SessionCas
