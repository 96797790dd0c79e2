import DefinedQuant.Lib.Interleaving
import Mathlib.Data.Nat.Notation

/-!
# The session store of the service

The service creates its store on first use and reads it again at several points of one call; `close`
takes it away. The calls are interleaved programs over the field that holds the store, the session
lock and the stores that exist; what the service asks of its worker controller, of the file roots
and of a store beyond this is a call that may do anything and may raise. A caller that abandons a
call leaves its program running.

Stores are numbered as they are created; a store that the service is given is the first.
-/

namespace ServiceSession

open Interleaving Interleaving.Code

/-! ## Actions -/

/-- What a call asks of the parts of the service that do not know its store. -/
inductive Native where
  | normalizeDataset
  | checkRequest
  | bindRequest
  | executeWorker
  | buildRecord
  | closeWorkers
  | closeRoots
  | other

/-- What a call does to the shared state. `ρ` are references and `ε` exceptions. -/
inductive Action (ρ ε : Type) : Type → Type where
  | readStore : Action ρ ε (Option ℕ)
  | acquireLock : Action ρ ε Unit
  | releaseLock : Action ρ ε Unit
  | createStore : Action ρ ε (Except ε ℕ)
  | setStore (store : ℕ) : Action ρ ε Unit
  | clearStore : Action ρ ε Unit
  | publish (store : ℕ) : Action ρ ε (Except ε ρ)
  | resolve (store : ℕ) (reference : ρ) : Action ρ ε (Except ε (List ρ))
  | output (store : ℕ) : Action ρ ε (Except ε Unit)
  | closeStore (store : ℕ) : Action ρ ε (Except ε Unit)
  | native (call : Native) : Action ρ ε (Except ε Unit)

/-- What the calls of a service share: the field with its store, the session lock, how many stores
there have been and which of them are open, the references that each has registered, and whether a
`close` has emptied the field. -/
structure Service (ι ρ : Type) where
  stored : Option ℕ
  lock : Option ι
  stores : ℕ
  isOpen : ℕ → Bool
  issued : List (ℕ × ρ)
  taken : Bool

/-- `DefinedQuantService.__init__`, with the references of the store that it is given, if any. -/
def Service.initial {ι ρ : Type} (given : Option (List ρ)) : Service ι ρ :=
  match given with
  | none => ⟨none, none, 0, fun _ => false, [], false⟩
  | some references =>
      ⟨some 0, none, 1, fun store => decide (store = 0), references.map (fun r => (0, r)), false⟩

section Machine

variable {ι ρ ε : Type}

/-- What an action of a call does. A record is resolved in an open store that has registered all the
references that it names; the close of a store closes it also where the removal of its files raises. -/
def exec {γ : Type} (i : ι) (a : Action ρ ε γ) (s : Service ι ρ) (r : γ) (s' : Service ι ρ) :
    Prop :=
  match a, r with
  | .readStore, store => store = s.stored ∧ s' = s
  | .acquireLock, _ => s.lock = none ∧ s' = { s with lock := some i }
  | .releaseLock, _ => s' = { s with lock := none }
  | .createStore, .ok store => store = s.stores ∧ s' = { s with
      stores := s.stores + 1
      isOpen := Function.update s.isOpen s.stores true }
  | .createStore, .error _ => s' = s
  | .setStore store, _ => s' = { s with stored := some store }
  | .clearStore, _ => s' = { s with stored := none, taken := true }
  | .publish store, .ok reference => s.isOpen store = true ∧
      s' = { s with issued := (store, reference) :: s.issued }
  | .publish _, .error _ => s' = s
  | .resolve store reference, .ok named => s.isOpen store = true ∧ reference ∈ named ∧
      (∀ r ∈ named, (store, r) ∈ s.issued) ∧ s' = s
  | .resolve _ _, .error _ => s' = s
  | .output _, _ => s' = s
  | .closeStore store, _ => s' = { s with isOpen := Function.update s.isOpen store false }
  | .native _, _ => s' = s

/-- The machine of a service. -/
def machine : Machine (Action ρ ε) ι (Service ι ρ) := ⟨exec⟩

/-- No store is created once a `close` has emptied the field, and no `close` finds the field empty
while a store is open. -/
def Orderly {γ : Type} (a : Action ρ ε γ) (s : Service ι ρ) : Prop :=
  match a with
  | .createStore => s.taken = false
  | .clearStore => s.stored = none → ∀ store, s.isOpen store = false
  | _ => True

/-- The machine without the steps that are out of order. -/
def orderlyMachine : Machine (Action ρ ε) ι (Service ι ρ) :=
  ⟨fun i a s r s' => exec i a s r s' ∧ Orderly a s⟩

end Machine

/-! ## Methods -/

/-- The code of a service. -/
abbrev Method (ρ ε : Type) := Code (Action ρ ε) ε Unit

section Methods

variable {ρ ε α : Type}

def native (c : Native) : Method ρ ε Unit := call (.native c)

/-- `with self._session_lock` -/
def withLock (body : Method ρ ε α) : Method ρ ε α := do
  step .acquireLock
  finallyDo body (step .releaseLock)

/-- `DefinedQuantService.session_cas` -/
def sessionCas : Method ρ ε ℕ := do
  match ← step .readStore with
  | some store => return store
  | none =>
      withLock do
        match ← step .readStore with
        | some store => return store
        | none =>
            let store ← call .createStore
            step (.setStore store)
            return store

/-- The references that a record names, itself included. -/
def resolve (store : ℕ) (reference : ρ) : Method ρ ε (List ρ) := call (.resolve store reference)

/-- The references that the source of a request names, if it has one. -/
def resolveSource (store : ℕ) (source : Option ρ) : Method ρ ε (List ρ) :=
  match source with
  | none => return []
  | some reference => resolve store reference

/-- `register_dataset` -/
def registerDataset : Method ρ ε (List ρ) := do
  native .normalizeDataset
  let reference ← call (.publish (← sessionCas))
  resolve (← sessionCas) reference

/-- `describe_dataset`, `get_operation` and `read_operation_artifact` -/
def viewRecord (reference : ρ) : Method ρ ε (List ρ) := do
  resolve (← sessionCas) reference

/-- The dataset of a request, if it has one. -/
def loadSource (source : Option ρ) : Method ρ ε Unit :=
  match source with
  | none => return ()
  | some reference => do
      let _ ← resolve (← sessionCas) reference

/-- `execute_recorded_operation`: the references in its summary. -/
def executeRecordedOperation (source : Option ρ) : Method ρ ε (List ρ) := do
  native .checkRequest
  loadSource source
  native .bindRequest
  native .executeWorker
  native .buildRecord
  let store ← sessionCas
  let _ ← sessionCas
  let named ← resolveSource store source
  let reference ← call (.publish (← sessionCas))
  return reference :: named

/-- `execute_component` -/
def executeComponent (source : Option ρ) : Method ρ ε (List ρ) := do
  let store ← sessionCas
  call (.output store)
  finallyDo (executeRecordedOperation source) (call (.output store))

/-- `cas.close()`, if there is a store. -/
def closeTaken (store : Option ℕ) : Method ρ ε Unit :=
  match store with
  | none => return ()
  | some store => call (.closeStore store)

/-- `DefinedQuantService.close` -/
def close : Method ρ ε Unit := do
  native .closeWorkers
  let store ← withLock do
    let store ← step .readStore
    step .clearStore
    return store
  closeTaken store
  native .closeRoots

end Methods

/-! ## Calls -/

/-- What is asked of a service. `other` are the calls that do not use its store. -/
inductive Call (ρ : Type) where
  | registerDataset
  | viewRecord (reference : ρ)
  | executeRecordedOperation (source : Option ρ)
  | executeComponent (source : Option ρ)
  | other
  | close

/-- How a call ends: with the references that it hands out, or closed. -/
inductive Outcome (ρ ε : Type) where
  | returned (references : Except ε (List ρ))
  | closed (result : Except ε Unit)

section Calls

variable {ρ ε : Type}

/-- A method that hands out references, as a program. -/
def returning (method : Method ρ ε (List ρ)) : Program (Action ρ ε) (Outcome ρ ε) := do
  let (references, _) ← method.start ()
  return .returned references

/-- The program of a call. -/
def Call.program : Call ρ → Program (Action ρ ε) (Outcome ρ ε)
  | .registerDataset => returning ServiceSession.registerDataset
  | .viewRecord reference => returning (ServiceSession.viewRecord reference)
  | .executeRecordedOperation source => returning (ServiceSession.executeRecordedOperation source)
  | .executeComponent source => returning (ServiceSession.executeComponent source)
  | .other => returning (do
      native .other
      return [])
  | .close => do
      let (result, _) ← ServiceSession.close.start ()
      return .closed result

/-- A service and the calls that are made of it. -/
def started {ι : Type} (given : Option (List ρ)) (calls : ι → Call ρ) :
    Config (Action ρ ε) ι (Service ι ρ) (Outcome ρ ε) :=
  ⟨.initial given, fun i => (calls i).program⟩

end Calls

end ServiceSession
