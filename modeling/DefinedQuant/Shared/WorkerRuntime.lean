import DefinedQuant.Lib.Interleaving
import DefinedQuant.Protocol.Result
import DefinedQuant.Shared.HostFailures
import Mathlib.Data.Finset.Card

/-!
# The worker controller

The calls of a `WorkerController` as interleaved programs. The state is what they share: the
capacity semaphore, the lock and what it protects, the events. Everything else that a call does,
files, processes and streams, is a native call, which may answer anything or raise.

`Ledger` is bookkeeping that no program reads: how often a call took and gave back its slot, which
native workers are open, whether a call has seen its cancel event set while it held the lock, and
what was published when.

The rounds of the monitor are announced by an answer before the first one, so that every program
ends; a call can wait for as long as it likes.
-/

namespace WorkerRuntime

open Json Protocol Interleaving Interleaving.Code

/-! ## Exceptions and events -/

/-- An exception. `stream` stands for `BrokenPipeError`, `OSError` and `ValueError`. -/
inductive Raised where
  | host (code : HostFailures.HostFailureCode) (details : Members)
  | process
  | stream
  | other
  deriving Inhabited

/-- `HostFailureException(code)` -/
def failure (code : HostFailures.HostFailureCode) : Raised := .host code []

/-- `MAX_WORKER_REQUEST_BYTES` -/
def maxWorkerRequestBytes : ℕ := 2 * 1024 * 1024

/-- `MAX_WORKER_CONTROL_BYTES` -/
def maxWorkerControlBytes : ℕ := 4 * 1024 * 1024

/-- What a call asks of the platform and of its own worker; nothing of it touches the shared state.
`operationFailure` is what `operation_failure` makes of an exception, which never raises. -/
inductive Native (ι : Type) : Type → Type where
  | prepareOutput : Native ι (Except Raised Unit)
  | inspectionParents : Native ι (Except Raised Unit)
  | createWorkRoot : Native ι (Except Raised Unit)
  | requestBytes : Native ι (Except Raised Bytes)
  | operationFailure : Native ι OperationFailure
  | startReaders : Native ι (Except Raised Unit)
  | writeRequest : Native ι (Except Raised Unit)
  | rounds : Native ι ℕ
  | streamOverflow : Native ι Bool
  | controlBroken : Native ι Bool
  | memoryExceeded : Native ι (Except Raised Bool)
  | exited : Native ι (Except Raised Bool)
  | deadlinePassed : Native ι Bool
  | terminateTree (worker : ι) : Native ι (Except Raised Unit)
  | waitProcess : Native ι (Except Raised Unit)
  | killTree (worker : ι) : Native ι (Except Raised Unit)
  | joinReaders : Native ι (Except Raised Unit)
  | workerClosed (worker : ι) : Native ι Bool
  | controlOverflow : Native ι (Option ℕ)
  | exitFailed : Native ι (Except Raised Bool)
  | controlBytes : Native ι Bytes
  | outputEmitted : Native ι Bool
  | ensureParent : Native ι (Except Raised Unit)
  | workRootExists : Native ι (Except Raised Bool)
  | removeWorkRoot : Native ι (Except Raised Unit)
  | closeWorkspace : Native ι (Except Raised Unit)

/-- What a call does to the shared state, and what it asks of the platform. -/
inductive Action (ι κ : Type) : Type → Type 1 where
  | acquireCapacity : Action ι κ Bool
  | releaseCapacity : Action ι κ (Except Raised Unit)
  | acquireLock : Action ι κ Unit
  | releaseLock : Action ι κ Unit
  | readClosed : Action ι κ Bool
  | setClosed : Action ι κ Unit
  | readShutdown : Action ι κ Bool
  | setShutdown : Action ι κ Unit
  | activeWorkers : Action ι κ (List ι)
  | register : Action ι κ Unit
  | unregister : Action ι κ Unit
  | clearAllDone : Action ι κ Unit
  | setAllDone : Action ι κ Unit
  | waitAllDone : Action ι κ Bool
  | isCancelled (event : κ) : Action ι κ Bool
  | setCancelled (event : κ) : Action ι κ Unit
  | launch : Action ι κ (Except Raised Unit)
  | closeHandle : Action ι κ (Except Raised Unit)
  | verifyBundle (manifest : OperationManifest) : Action ι κ (Except Raised Unit)
  | publish : Action ι κ (Except Raised Unit)
  | native {γ : Type} (call : Native ι γ) : Action ι κ γ
  | hang : Action ι κ Empty

/-! ## The shared state -/

/-- A publication, with what held of its call when it was made. -/
structure Publication (ι : Type) where
  call : ι
  closed : Bool
  seen : Bool

/-- Bookkeeping of a controller. -/
structure Ledger (ι : Type) where
  acquired : ι → ℕ
  released : ι → ℕ
  running : List ι
  seen : ι → Bool
  publications : List (Publication ι)

/-- What the calls of a controller share; `κ` names the cancel events. -/
structure Controller (ι κ : Type) where
  free : ℕ
  lock : Option ι
  closed : Bool
  shutdown : Bool
  active : List ι
  allDone : Bool
  cancelled : κ → Bool
  ledger : Ledger ι

/-- `WorkerController.__init__` -/
def Controller.initial {ι κ : Type} (concurrentWorkers : ℕ) : Controller ι κ where
  free := concurrentWorkers
  lock := none
  closed := false
  shutdown := false
  active := []
  allDone := true
  cancelled _ := false
  ledger := ⟨fun _ => 0, fun _ => 0, [], fun _ => false, []⟩

/-! ## What the actions do -/

section Machine

variable {ι κ : Type} [DecidableEq ι] [DecidableEq κ]

/-- What an action of a call does: the state before, the answer and the state after. `verifies` says
which manifest reconciles with the bundle of a call, whose files stay as they are once its worker
has stopped. -/
def exec (concurrentWorkers : ℕ) (verifies : ι → OperationManifest → Prop) {γ : Type} (i : ι)
    (a : Action ι κ γ) (s : Controller ι κ) (r : γ) (s' : Controller ι κ) : Prop :=
  match a, r with
  | .acquireCapacity, true => 0 < s.free ∧ s' = { s with
      free := s.free - 1
      ledger := { s.ledger with
        acquired := Function.update s.ledger.acquired i (s.ledger.acquired i + 1) } }
  | .acquireCapacity, false => s.free = 0 ∧ s' = s
  | .releaseCapacity, .ok _ => s.free < concurrentWorkers ∧ s' = { s with
      free := s.free + 1
      ledger := { s.ledger with
        released := Function.update s.ledger.released i (s.ledger.released i + 1) } }
  | .releaseCapacity, .error _ => concurrentWorkers ≤ s.free ∧ s' = s
  | .acquireLock, _ => s.lock = none ∧ s' = { s with lock := some i }
  | .releaseLock, _ => s' = { s with lock := none }
  | .readClosed, closed => closed = s.closed ∧ s' = s
  | .setClosed, _ => s' = { s with closed := true }
  | .readShutdown, shutdown => shutdown = s.shutdown ∧ s' = s
  | .setShutdown, _ => s' = { s with shutdown := true }
  | .activeWorkers, workers => workers = s.active ∧ s' = s
  | .register, _ => s' = { s with active := i :: s.active }
  | .unregister, _ => s' = { s with active := s.active.erase i }
  | .clearAllDone, _ => s' = { s with allDone := false }
  | .setAllDone, _ => s' = { s with allDone := true }
  | .waitAllDone, done => (done = true → s.allDone = true) ∧ s' = s
  | .isCancelled event, cancelled => cancelled = s.cancelled event ∧ s' = { s with
      ledger := { s.ledger with
        seen := Function.update s.ledger.seen i
          (s.ledger.seen i || (cancelled && decide (s.lock = some i))) } }
  | .setCancelled event, _ => s' = { s with cancelled := Function.update s.cancelled event true }
  | .launch, .ok _ => s' = { s with ledger := { s.ledger with running := i :: s.ledger.running } }
  | .launch, .error _ => s' = s
  | .closeHandle, _ => s' = { s with
      ledger := { s.ledger with running := s.ledger.running.erase i } }
  | .verifyBundle manifest, .ok _ => verifies i manifest ∧ s' = s
  | .verifyBundle _, .error _ => s' = s
  | .publish, .ok _ => s' = { s with ledger := { s.ledger with
      publications := s.ledger.publications ++ [⟨i, s.closed, s.ledger.seen i⟩] } }
  | .publish, .error _ => s' = s
  | .native _, _ => s' = s
  | .hang, never => never.elim

/-- The machine of a controller. -/
def machine (concurrentWorkers : ℕ) (verifies : ι → OperationManifest → Prop) :
    Machine (Action ι κ) ι (Controller ι κ) :=
  ⟨exec concurrentWorkers verifies⟩

/-- The two unguarded steps of the cleanup do not raise: the test for the work root, and the close
of the worker beyond its `WorkerProcessError`. -/
def CleanupHolds {γ : Type} (a : Action ι κ γ) (r : γ) : Prop :=
  match a, r with
  | .native .workRootExists, .error _ => False
  | .closeHandle, .error e => e = .process
  | _, _ => True

/-- The machine without the steps in which the cleanup raises. -/
def calmMachine (concurrentWorkers : ℕ) (verifies : ι → OperationManifest → Prop) :
    Machine (Action ι κ) ι (Controller ι κ) :=
  ⟨fun i a s r s' => exec concurrentWorkers verifies i a s r s' ∧ CleanupHolds a r⟩

end Machine

/-! ## Methods -/

/-- Which of the variables that the `finally` clause looks at are set. -/
structure Locals where
  active : Bool
  workRoot : Bool
  workspace : Bool

/-- The code of a controller. -/
abbrev Method (ι κ : Type) := Code (Action ι κ) Raised Locals

section Methods

variable {ι κ : Type} {α : Type}

def native {γ : Type} (c : Native ι (Except Raised γ)) : Method ι κ γ := call (.native c)

def ask {γ : Type} (c : Native ι γ) : Method ι κ γ := step (.native c)

/-- `with self._lock` -/
def withLock (body : Method ι κ α) : Method ι κ α := do
  step .acquireLock
  finallyDo body (step .releaseLock)

/-- `except WorkerProcessError: pass` -/
def ignoreProcess (e : Raised) : Method ι κ Unit :=
  match e with
  | .process => return ()
  | e => raise e

/-- `except Exception: pass` -/
def suppress (body : Method ι κ Unit) : Method ι κ Unit := rescue body (fun _ => return ())

/-- `if condition: raise e` -/
def raiseIf (condition : Bool) (e : Raised) : Method ι κ Unit :=
  if condition then raise e else return ()

/-- `if condition: body` -/
def whenSet (condition : Bool) (body : Method ι κ Unit) : Method ι κ Unit :=
  if condition then body else return ()

/-- `if self._closed: raise HostFailureException(HostFailureCode.WORKER_CANCELLED)` -/
def requireOpen : Method ι κ Unit := do
  raiseIf (← step .readClosed) (failure .workerCancelled)

/-- `cancel_event is not None and cancel_event.is_set()` -/
def isCancelled (cancelEvent : Option κ) : Method ι κ Bool :=
  match cancelEvent with
  | some event => step (.isCancelled event)
  | none => return false

/-- `_enforce_request_limit` -/
def enforceRequestLimit (content : Bytes) : Method ι κ Unit :=
  if maxWorkerRequestBytes < content.length then
    raise (.host .inputLimitExceeded [(py "limit_name", .lit "worker_request_bytes"),
      (py "maximum", .int maxWorkerRequestBytes), (py "actual", .int content.length)])
  else return ()

/-- `_enforce_control_limit` -/
def enforceControlLimit : Method ι κ Unit := do
  match ← ask .controlOverflow with
  | some actual =>
      raise (.host .resultLimitExceeded [(py "limit_name", .lit "worker_control_response_bytes"),
        (py "maximum", .int maxWorkerControlBytes), (py "actual", .int actual)])
  | none => return ()

/-- One round of `_monitor`: `none` where it goes on to wait. -/
def monitorRound (cancelEvent : Option κ) :
    Method ι κ (Option (Option HostFailures.HostFailureCode)) := do
  if ← step .readShutdown then return some (some .workerCancelled)
  if ← isCancelled cancelEvent then return some (some .workerCancelled)
  if ← ask .streamOverflow then return some (some .workerResourceLimit)
  if ← ask .controlBroken then return some (some .workerCrashed)
  let polled ← rescue
    (do
      if ← native .memoryExceeded then return some (some .workerResourceLimit)
      if ← native .exited then return some none
      return none)
    (fun e =>
      match e with
      | .process => return some (some .workerCrashed)
      | e => raise e)
  match polled with
  | some reason => return some reason
  | none => if ← ask .deadlinePassed then return some (some .workerTimeout) else return none

/-- The loop of `_monitor`, for a number of rounds; behind the last of them the call waits on. -/
def monitorLoop (cancelEvent : Option κ) : ℕ → Method ι κ (Option HostFailures.HostFailureCode)
  | 0 => do
      let never ← step .hang
      never.elim
  | rounds + 1 => do
      match ← monitorRound cancelEvent with
      | some reason => return reason
      | none => monitorLoop cancelEvent rounds

/-- `_monitor` -/
def monitor (cancelEvent : Option κ) : Method ι κ (Option HostFailures.HostFailureCode) := do
  monitorLoop cancelEvent (← ask .rounds)

/-- `_cleanup_process`; the worker of a call is closed by the call alone, and after this. -/
def cleanupProcess (self : ι) : Method ι κ Unit := do
  rescue (native (.terminateTree self)) ignoreProcess
  rescue (native .waitProcess) ignoreProcess
  rescue (do
    native (.killTree self)
    native .waitProcess) ignoreProcess
  native .joinReaders

/-- `_close_active` -/
def closeActive : Method ι κ Unit := do
  rescue (call .closeHandle) ignoreProcess
  withLock do
    step .unregister
    whenSet (← step .activeWorkers).isEmpty (step .setAllDone)

/-- The section of a call that launches its worker and registers it. -/
def launchWorker : Method ι κ Unit :=
  rescue
    (withLock do
      requireOpen
      call .launch
      assign (fun l => { l with active := true })
      step .register
      step .clearAllDone)
    (fun e =>
      match e with
      | .process => raise (failure .workerCrashed)
      | e => raise e)

/-- The request on the worker's input: whether it has been written. -/
def writeRequest : Method ι κ Bool :=
  rescue
    (do
      native .writeRequest
      return true)
    (fun e =>
      match e with
      | .stream => return false
      | e => raise e)

/-- The reason to stop the worker, if there is one. -/
def stopReason (cancelEvent : Option κ) (written : Bool) :
    Method ι κ (Option HostFailures.HostFailureCode) :=
  if written then monitor cancelEvent else return some .workerCrashed

/-- From the start of the readers to the check for a shutdown. -/
def superviseWorker (self : ι) (cancelEvent : Option κ) : Method ι κ Unit := do
  native .startReaders
  let reason ← stopReason cancelEvent (← writeRequest)
  cleanupProcess self
  enforceControlLimit
  match reason with
  | some code => raise (failure code)
  | none => raiseIf (← step .readShutdown) (failure .workerCancelled)

/-- The `finally` clause of a call. -/
def releaseAll : Method ι κ Unit := do
  whenSet (← locals).active closeActive
  whenSet (← locals).workRoot (do
    whenSet (← native .workRootExists) (suppress (native .removeWorkRoot)))
  whenSet (← locals).workspace (suppress (native .closeWorkspace))
  call .releaseCapacity

/-- What the `try` statement of a call does with what its body raises. -/
def crashed {α : Type} (e : Raised) : Method ι κ α :=
  match e with
  | .process => raise (failure .workerCrashed)
  | e => raise e

/-- A call that holds a slot from its start to the end of its `finally` clause. -/
def withSlot {α : Type} (body : Method ι κ α) : Method ι κ α := do
  raiseIf (! (← step .acquireCapacity)) (failure .workerCapacity)
  finallyDo (rescue body crashed) releaseAll

/-! ## Execution -/

/-- `WorkerExecution` -/
structure WorkerExecution where
  result : OperationResult
  componentInputFields : List Text

/-- The first `try` statement of `execute_operation`: the work root and the request. -/
def prepareOperation : Method ι κ Unit := do
  native .prepareOutput
  native .createWorkRoot
  assign (fun l => { l with workRoot := true, workspace := true })
  enforceRequestLimit (← native .requestBytes)

/-- What is raised in the preparation: a host failure as it is, anything else as a failed result. -/
def prepared : Method ι κ (Option WorkerExecution) :=
  rescue
    (do
      prepareOperation
      return none)
    (fun e =>
      match e with
      | .host code details => raise (.host code details)
      | _ => return some ⟨.failure (← ask .operationFailure), []⟩)

/-- The section in which a bundle is published, and the checks before it. -/
def publishBundle (cancelEvent : Option κ) (manifest : OperationManifest) : Method ι κ Unit := do
  call (.verifyBundle manifest)
  withLock do
    raiseIf (← step .readClosed) (failure .workerCancelled)
    raiseIf (← isCancelled cancelEvent) (failure .workerCancelled)
    native .ensureParent
    call .publish

/-- What the answer of a worker becomes. -/
def publishResult (cancelEvent : Option κ) (result : OperationResult) :
    Method ι κ OperationResult :=
  match result with
  | .failure f => return .failure f
  | .success success =>
      rescue
        (do
          publishBundle cancelEvent success.manifest
          return .success success)
        (fun e =>
          match e with
          | .host code details => raise (.host code details)
          | _ => return .failure (← ask .operationFailure))

/-- The answer of a worker that has exited. -/
def collectResult (controlResponse : Bytes → Except Raised (Option OperationResult × List Text)) :
    Method ι κ WorkerExecution := do
  let exitFailed ← native .exitFailed
  let content ← ask .controlBytes
  raiseIf (← ask .streamOverflow) (failure .workerResourceLimit)
  raiseIf exitFailed (failure .workerCrashed)
  match controlResponse content with
  | .error e => raise e
  | .ok (none, _) => raise (failure .workerResourceLimit)
  | .ok (some result, fields) =>
      if ← ask .outputEmitted then return ⟨.failure (← ask .operationFailure), fields⟩
      else return ⟨result, fields⟩

/-- `execute_operation` -/
def executeOperation (controlResponse : Bytes → Except Raised (Option OperationResult × List Text))
    (self : ι) (cancelEvent : Option κ) : Method ι κ WorkerExecution :=
  withSlot do
    withLock requireOpen
    match ← prepared with
    | some execution => return execution
    | none =>
        launchWorker
        superviseWorker self cancelEvent
        let execution ← collectResult controlResponse
        return ⟨← publishResult cancelEvent execution.result, execution.componentInputFields⟩

/-! ## Inspection -/

/-- The first `try` statement of `_execute_inspection`. -/
def prepareInspection : Method ι κ Unit :=
  rescue
    (do
      native .inspectionParents
      native .createWorkRoot
      assign (fun l => { l with workRoot := true, workspace := true })
      enforceRequestLimit (← native .requestBytes))
    (fun e =>
      match e with
      | .host code details => raise (.host code details)
      | _ => raise (failure .workerCrashed))

/-- `_execute_inspection` -/
def executeInspection (inspectionResponse : Bytes → Except Raised Members) (self : ι)
    (cancelEvent : Option κ) : Method ι κ Members :=
  withSlot do
    withLock requireOpen
    prepareInspection
    launchWorker
    superviseWorker self cancelEvent
    raiseIf (← ask .streamOverflow) (failure .workerResourceLimit)
    raiseIf (← native .exitFailed) (failure .workerCrashed)
    raiseIf (← ask .outputEmitted) (failure .componentContractError)
    match inspectionResponse (← ask .controlBytes) with
    | .error e => raise e
    | .ok data => return data

/-! ## Close -/

/-- The part of `close` that marks the controller: the workers that were active, unless it was
closed. -/
def markClosed : Method ι κ (Option (List ι)) :=
  withLock do
    if ← step .readClosed then return none
    step .setClosed
    step .setShutdown
    return some (← step .activeWorkers)

/-- The loops of `close` over workers. -/
def stopWorkers (stop : ι → Native ι (Except Raised Unit)) : List ι → Method ι κ Unit
  | [] => return ()
  | worker :: workers => do
      whenSet (! (← ask (.workerClosed worker))) (rescue (native (stop worker)) ignoreProcess)
      stopWorkers stop workers

/-- `WorkerController.close` -/
def close : Method ι κ Unit := do
  match ← markClosed with
  | none => return ()
  | some active =>
      stopWorkers .terminateTree active
      whenSet (! (← step .waitAllDone)) do
        let remaining ← withLock (step .activeWorkers)
        stopWorkers .killTree remaining
        let _ ← step .waitAllDone

end Methods

/-! ## Calls -/

/-- What is asked of a controller and of the events of its calls. -/
inductive Call (κ : Type) where
  | executeOperation (cancelEvent : Option κ)
  | executeInspection (cancelEvent : Option κ)
  | close
  | cancel (event : κ)

/-- How a call ends. -/
inductive Outcome where
  | executed (result : Except Raised WorkerExecution)
  | inspected (result : Except Raised Members)
  | closed (result : Except Raised Unit)
  | cancelled

/-- The readings of the two kinds of control response. -/
structure Responses where
  operation : Bytes → Except Raised (Option OperationResult × List Text)
  inspection : Bytes → Except Raised Members

/-- No variable is set. -/
def Locals.unset : Locals := ⟨false, false, false⟩

/-- The program of a call. -/
def Call.program {ι κ : Type} (responses : Responses) (self : ι) :
    Call κ → Program (Action ι κ) Outcome
  | .executeOperation cancelEvent => do
      let (result, _) ← (WorkerRuntime.executeOperation responses.operation self cancelEvent).start
        .unset
      return .executed result
  | .executeInspection cancelEvent => do
      let (result, _) ← (WorkerRuntime.executeInspection responses.inspection self
        cancelEvent).start
        .unset
      return .inspected result
  | .close => do
      let (result, _) ← WorkerRuntime.close.start .unset
      return .closed result
  | .cancel event => .act (.setCancelled event) (fun _ => .done .cancelled)

end WorkerRuntime
