import MotionServer.App.Connections
import MotionServer.Diagnostic.Definitions
import MotionServer.Diagnostic.Lookup

/-!
# The session of a server

The runtime state and the diagnostics, over a start and everything that assigns them: the monitor,
the two recoveries, the reconnection of a server that did not initialize, and the fault resets. What
the bus and the drives do is the outcome of each step.

* `ServerSession`, `Session`: the session, with what the server state and the loops keep beside it;
* `updateBus`, `updateAxes`, `runCycle`: the monitor and its cycle;
* `reconnectRuntime`, `restartAxisRuntime`, `reconnectFailedInitialization`;
* `faultResetSource`; `SessionRequest`, `handleRequest`: requests and their gates;
* **`SessionEvent`, `step`**: requests and cycles in any order, after a `start`.
-/

namespace MotionServer

/-- `InitializationStage`. -/
inductive InitializationStage
  | configuration
  | deviceModelBuild
  | runtimeCreation
  | busConnection
  | deviceInitialization
  deriving DecidableEq, Repr

/-- `InitializationRecoveryScope`, by its value. -/
def InitializationStage.recoveryScope : InitializationStage → ℕ
  | configuration | deviceModelBuild | runtimeCreation => 2
  | busConnection | deviceInitialization => 1

/-- `recovery_action_allowed` for `BUS_RECONNECT`. -/
def InitializationStage.AllowsBusReconnect (stage : InitializationStage) : Prop :=
  stage.recoveryScope ≤ 1

instance (stage : InitializationStage) : Decidable stage.AllowsBusReconnect :=
  inferInstanceAs (Decidable (_ ≤ _))

/-- `ServerRuntimeState`. -/
inductive ServerRuntimeState
  | normal
  | initializationError
  | busDisconnected
  | fault
  deriving DecidableEq, Repr

/-- What the id factory gives and the clock shows at a call of the diagnostic manager. -/
structure Stamp (T : Type) where
  newId : Except PyExc String
  now : T

/-- `ServerSession`, and what the server state and the server loop keep beside it. -/
structure ServerSession (T : Type) where
  /-- The stage that failed, if one did. -/
  initializationStatus : Option InitializationStage
  runtimeState : ServerRuntimeState
  diagnosticManager : DiagnosticManager T
  runtime : Option ℕ
  /-- How many runtimes were created. -/
  runtimes : ℕ
  /-- `state["initialization_status"]`. -/
  stateStatus : Option InitializationStage
  /-- Whether there is a `state["bus_reconnect_operation"]`. -/
  reconnectOperation : Bool
  /-- The runtime that `run_server_loop` serves, none in `run_degraded_server_loop`. -/
  servedRuntime : Option ℕ
  /-- Whether the server is in `run_bus_disconnected_loop`. -/
  disconnectedLoop : Bool
  busWkcMismatchCycles : ℕ
  /-- How many calls of the diagnostic manager were made. -/
  calls : ℕ

/-- A program over the session. -/
abbrev Session (T α : Type) : Type := Prog PyExc (ServerSession T) α

namespace ServerSession

variable {T α : Type}

/-- The session of a process that starts. -/
def init : ServerSession T where
  initializationStatus := none
  runtimeState := .normal
  diagnosticManager := .init
  runtime := none
  runtimes := 0
  stateStatus := none
  reconnectOperation := false
  servedRuntime := none
  disconnectedLoop := false
  busWkcMismatchCycles := 0
  calls := 0

/-- `attach_runtime` of a new runtime. -/
def attachRuntime : Session T Unit :=
  Prog.modify fun s => { s with runtime := some s.runtimes, runtimes := s.runtimes + 1 }

/-- `detach_runtime`. -/
def detachRuntime : Session T Unit := Prog.modify fun s => { s with runtime := none }

/-- `mark_ready`. -/
def markReady : Session T Unit :=
  Prog.modify fun s => { s with initializationStatus := none, runtimeState := .normal }

/-- `mark_failed`. -/
def markFailed (stage : InitializationStage) : Session T Unit :=
  Prog.modify fun s => { s with
    initializationStatus := some stage, runtimeState := .initializationError }

/-- `set_runtime_state`. -/
def setRuntimeState (runtimeState : ServerRuntimeState) : Session T Unit := do
  let s ← Prog.get
  Prog.raiseIf (runtimeState ≠ .initializationError ∧ s.runtime = none) .runtimeError
  Prog.modify fun s => { s with runtimeState := runtimeState }

/-- Whether a fault of the server or of the bus is active. -/
def globalFault (s : ServerSession T) : Bool :=
  s.diagnosticManager.hasActiveFault (.sourceType .server) ||
    s.diagnosticManager.hasActiveFault (.sourceType .bus)

/-! ## Calls of the diagnostic manager -/

variable [LT T] [DecidableLT T] (stamps : ℕ → Stamp T)

omit [LT T] [DecidableLT T] in
/-- A call of the manager, with the next stamp. -/
def callManager (call : Stamp T → Prog PyExc (DiagnosticManager T) α) : Session T α := fun s =>
  ((call (stamps s.calls) s.diagnosticManager).1, { s with
    diagnosticManager := (call (stamps s.calls) s.diagnosticManager).2, calls := s.calls + 1 })

omit [LT T] [DecidableLT T] in
def detect (definition : DiagnosticDefinition) (source : DiagnosticSource)
    (detail : Option String) : Session T Unit := do
  let _ ← callManager stamps fun stamp =>
    DiagnosticManager.detect definition source detail none stamp.newId stamp.now

/-- `resolve`: the id and the source of the status are kept in the heap. -/
def resolve (definition : DiagnosticDefinition) (source : DiagnosticSource) :
    Session T (DiagnosticStatus T) :=
  callManager stamps fun stamp => do
    let r ← DiagnosticManager.resolve definition.code source none stamp.now
    DiagnosticManager.statusAt r

def acknowledge (diagnosticId : String) : Session T Unit := do
  let _ ← callManager stamps fun stamp =>
    DiagnosticManager.acknowledge diagnosticId none stamp.now

def acknowledgeFaults (source : DiagnosticSource) : Session T Unit := do
  let _ ← callManager stamps fun stamp =>
    DiagnosticManager.acknowledgeFaults (some source) none none stamp.now

/-- `_resolve_if_active`. -/
def resolveIfActive (definition : DiagnosticDefinition) (source : DiagnosticSource) :
    Session T Unit := do
  let s ← Prog.get
  Prog.onlyIf ((s.diagnosticManager.statusFor definition.code source).isSome = true) do
    let _ ← resolve stamps definition source

/-! ## The monitor -/

/-- `_update_bus`. -/
def updateBus (expectedWkc actualWkc : ℤ) (transportAvailable : Bool) : Session T Unit :=
  if 0 < expectedWkc ∧ actualWkc ≠ expectedWkc then do
    Prog.modify fun s => { s with busWkcMismatchCycles := s.busWkcMismatchCycles + 1 }
    let s ← Prog.get
    Prog.onlyIf (3 ≤ s.busWkcMismatchCycles) do
      Prog.raiseIf (transportAvailable = false) (communicationException "bus_transport_state")
      detect stamps busProcessDataIncomplete busSource none
      setRuntimeState .fault
  else do
    Prog.modify fun s => { s with busWkcMismatchCycles := 0 }
    resolveIfActive stamps busProcessDataIncomplete busSource

/-- `_update_condition`. -/
def updateCondition (active : Bool) (definition : DiagnosticDefinition)
    (source : DiagnosticSource) : Session T Unit :=
  if active then detect stamps definition source none
  else resolveIfActive stamps definition source

/-- `_update_axes`, with `CIA402_FAULT_BIT` and `CIA402_WARNING_BIT`. -/
def updateAxes (statuswords : List ℕ) : Session T Unit :=
  statuswords.zipIdx.forM fun entry => do
    updateCondition stamps (entry.1.testBit 3) axisDriveFault (axisSource entry.2)
    updateCondition stamps (entry.1.testBit 7) axisDriveWarning (axisSource entry.2)

omit [LT T] [DecidableLT T] in
/-- `mark_bus_disconnected`. -/
def markBusDisconnected (detail : String) : Session T Unit := do
  let s ← Prog.get
  Prog.raiseIf (s.runtime = none) .runtimeError
  detect stamps busConnectionLost busSource (some detail)
  setRuntimeState .busDisconnected

/-- What a cycle of the server loop meets. `detail` is the text of a communication exception. -/
inductive CycleOutcome
  | failed (detail : String)
  | exchanged (expectedWkc actualWkc : ℤ) (transportAvailable : Bool) (statuswords : List ℕ)
      (detail : String)

omit [LT T] [DecidableLT T] in
/-- `mark_bus_disconnected`, then `run_bus_disconnected_loop`. -/
def loseBus (detail : String) : Session T Unit := do
  markBusDisconnected stamps detail
  Prog.modify fun s => { s with disconnectedLoop := true }

/-- The exchange and the monitor of one turn of `run_server_loop`, unless the server waits for the
bus. -/
def runCycle (outcome : CycleOutcome) : Session T Unit := do
  let s ← Prog.get
  Prog.onlyIf (s.servedRuntime ≠ none ∧
      (s.disconnectedLoop = false ∨ s.runtimeState ≠ .busDisconnected)) do
    Prog.modify fun s => { s with disconnectedLoop := false }
    match outcome with
    | .failed detail => loseBus stamps detail
    | .exchanged expectedWkc actualWkc transportAvailable statuswords detail =>
      tryCatch (do
          updateBus stamps expectedWkc actualWkc transportAvailable
          updateAxes stamps statuswords)
        fun e => if e.isCommunication then loseBus stamps detail else throw e

/-! ## Recoveries -/

/-- How the refresh of one axis ends: only some exceptions are recorded. -/
inductive RefreshOutcome
  | refreshed
  | failed (detail : String)
  | raised

/-- How a recovery goes: whether the bus was found again and the drives were prepared, how the
refresh of each axis ended, whether the process data became stable, and whether that was in time. -/
structure RecoveryOutcome (n : ℕ) where
  prepared : Bool
  refresh : Fin n → RefreshOutcome
  stable : Bool
  inTime : Bool
  detail : String

/-- `refresh_after_recovery`. -/
def refreshAfterRecovery {n : ℕ} (outcome : RecoveryOutcome n) (affectedAxes : List (Fin n)) :
    Session T Unit := do
  Prog.raiseIf (affectedAxes = []) .valueError
  affectedAxes.forM fun a =>
    match outcome.refresh a with
    | .refreshed => resolveIfActive stamps parameterRefreshFailed (axisSource a)
    | .failed detail => do
      detect stamps parameterRefreshFailed (axisSource a) (some detail)
      throw .osError
    | .raised => throw .osError

/-- `close`, `_connect_until` and `_restore_process_image`. -/
def restoreProcessImage {n : ℕ} (outcome : RecoveryOutcome n) (refreshAxes : List (Fin n)) :
    Session T Unit := do
  Prog.raiseIf (outcome.prepared = false) .osError
  refreshAfterRecovery stamps outcome refreshAxes
  Prog.raiseIf (outcome.stable = false) .osError

/-- `record_bus_reconnect_failure`. -/
def recordBusReconnectFailure (detail : String) : Session T Unit :=
  detect stamps busReconnectFailed busSource (some detail)

/-- `complete_bus_reconnect_diagnostics`. -/
def completeBusReconnectDiagnostics : Session T Unit := do
  resolveIfActive stamps busConnectionLost busSource
  resolveIfActive stamps busReconnectFailed busSource
  resolveIfActive stamps busProcessDataIncomplete busSource
  let s ← Prog.get
  s.diagnosticManager.activeStatuses.forM fun status =>
    Prog.onlyIf (status.definition.code = axisRestartFailed.code) do
      let _ ← resolve stamps axisRestartFailed status.source
  acknowledgeFaults stamps busSource

/-- `reconnect_runtime`. -/
def reconnectRuntime {n : ℕ} (outcome : RecoveryOutcome n) : Session T Unit := do
  let s ← Prog.get
  Prog.raiseIf (s.servedRuntime = none ∨ s.runtime ≠ s.servedRuntime)
    (communicationException "bus_reconnect")
  tryCatch (do
      restoreProcessImage stamps outcome (List.finRange n)
      Prog.raiseIf (outcome.inTime = false) .osError)
    fun _ => do
      recordBusReconnectFailure stamps outcome.detail
      setRuntimeState .busDisconnected
      throw (communicationException "bus_reconnect")
  completeBusReconnectDiagnostics stamps
  let s ← Prog.get
  setRuntimeState (if s.globalFault then .fault else .normal)

/-- What a failed axis restart records. -/
def failAxisRestart (axisIndex : ℕ) (detail : String) (runtimeState : ServerRuntimeState) :
    Session T Unit := do
  detect stamps axisRestartFailed (axisSource axisIndex) (some detail)
  setRuntimeState runtimeState
  throw (communicationException "axis_restart")

/-- `restart_axis_runtime`. -/
def restartAxisRuntime {n : ℕ} (outcome : RecoveryOutcome n) (axisIndex : Fin n) :
    Session T Unit := do
  let s ← Prog.get
  Prog.raiseIf (s.servedRuntime = none ∨ s.runtime ≠ s.servedRuntime)
    (communicationException "axis_restart")
  setRuntimeState .fault
  tryCatch (restoreProcessImage stamps outcome [axisIndex])
    fun _ => failAxisRestart stamps axisIndex outcome.detail .busDisconnected
  -- the bus is operational from here on
  Prog.onlyIf (outcome.inTime = false) (failAxisRestart stamps axisIndex outcome.detail .fault)
  let s ← Prog.get
  Prog.onlyIf ((s.diagnosticManager.statusFor axisRestartFailed.code
      (axisSource axisIndex)).isSome = true) do
    let status ← resolve stamps axisRestartFailed (axisSource axisIndex)
    acknowledge stamps status.diagnosticId
  setRuntimeState .normal

/-! ## Initialization -/

/-- `fail_runtime_initialization`. `attached` tells whether the failure left a runtime attached. -/
def failRuntimeInitialization (attached : Bool) (stage : InitializationStage) :
    Session T Unit := do
  markFailed stage
  detect stamps serverInitializationFailed serverSource none
  Prog.onlyIf (attached = true) detachRuntime

/-- `initialize_runtime_session`, which fails at `failure`, if it fails. The last two stages have a
runtime. -/
def initializeRuntimeSession (failure : Option InitializationStage) : Session T Unit := do
  let attached : Bool := match failure with
    | some .configuration | some .deviceModelBuild | some .runtimeCreation => false
    | some .busConnection | some .deviceInitialization | none => true
  Prog.onlyIf (attached = true) attachRuntime
  match failure with
  | some stage => failRuntimeInitialization stamps attached stage
  | none => pure ()

/-- `resolve_initialization_fault`. -/
def resolveInitializationFault : Session T (Option (DiagnosticStatus T)) :=
  tryCatch (do
      let status ← resolve stamps serverInitializationFailed serverSource
      pure (some status))
    fun e => if e = .keyError then pure none else throw e

/-- How an initialization goes: where it fails, whether it took too long, and whether the server
state could be built. -/
structure InitializationOutcome where
  failure : Option InitializationStage
  inTime : Bool
  built : Bool
  detail : String
  deriving DecidableEq

/-- The operation succeeds. -/
def InitializationOutcome.Succeeds (outcome : InitializationOutcome) : Prop :=
  outcome.failure = none ∧ outcome.inTime = true ∧ outcome.built = true

instance (outcome : InitializationOutcome) : Decidable outcome.Succeeds :=
  inferInstanceAs (Decidable (_ ∧ _ ∧ _))

/-- A failure of `reconnect_failed_initialization` after the runtime was initialized. -/
def failReconnection (stage : InitializationStage) (detail : String) : Session T Unit := do
  failRuntimeInitialization stamps true stage
  recordBusReconnectFailure stamps detail
  throw (communicationException "bus_reconnect")

def acknowledgeIfAny (status : Option (DiagnosticStatus T)) : Session T Unit :=
  match status with
  | some status => acknowledge stamps status.diagnosticId
  | none => pure ()

/-- `reconnect_failed_initialization`. -/
def reconnectFailedInitialization (outcome : InitializationOutcome) : Session T Unit := do
  initializeRuntimeSession stamps outcome.failure
  Prog.onlyIf (outcome.failure ≠ none) do
    recordBusReconnectFailure stamps outcome.detail
    throw (communicationException "bus_reconnect")
  Prog.onlyIf (outcome.inTime = false) (failReconnection stamps .busConnection outcome.detail)
  Prog.onlyIf (outcome.built = false) (failReconnection stamps .deviceInitialization outcome.detail)
  markReady
  let initializationFault ← resolveInitializationFault stamps
  acknowledgeIfAny stamps initializationFault
  completeBusReconnectDiagnostics stamps
  Prog.modify fun s => { s with stateStatus := none, reconnectOperation := false }

/-- `initial_degraded_state`. -/
def degrade (reconnectOperation : Bool) : Session T Unit :=
  Prog.modify fun s => { s with
    stateStatus := s.initializationStatus, reconnectOperation := reconnectOperation }

/-- The start of `run_main_once`, up to its server loop. -/
def runMainOnce (outcome : InitializationOutcome) : Session T Unit := do
  initializeRuntimeSession stamps outcome.failure
  if outcome.failure ≠ none then degrade true
  else if outcome.built = false then do
    failRuntimeInitialization stamps true .deviceInitialization
    degrade false
  else do
    markReady
    let _ ← resolveInitializationFault stamps
    Prog.modify fun s => { s with stateStatus := none, servedRuntime := s.runtime }

/-- How a process starts: with a configuration that cannot be loaded, or with a runtime to
initialize. -/
inductive Startup
  | configurationFailed
  | initialization (outcome : InitializationOutcome)

/-- `run`, up to the server loop. -/
def start : Startup → Session T Unit
  | .configurationFailed => do
    markFailed .configuration
    detect stamps serverInitializationFailed serverSource none
    degrade false
  | .initialization outcome => runMainOnce stamps outcome

/-! ## Requests -/

/-- `_refresh_global_fault_state`. -/
def refreshGlobalFaultState : Session T Unit := do
  let s ← Prog.get
  Prog.onlyIf (s.globalFault = false ∧ s.runtime ≠ none ∧ s.runtimeState = .fault)
    (setRuntimeState .normal)

/-- `fault_reset_source`. -/
def faultResetSource (source : DiagnosticSource) : Session T Unit := do
  acknowledgeFaults stamps source
  refreshGlobalFaultState

/-- The requests that change the session, with what the bus and the drives do meanwhile. The first
flag of an axis request tells whether its exchanges before the diagnostics succeed. -/
inductive SessionRequest (n : ℕ)
  | serverFaultReset
  | busFaultReset
  | busReconnect (initialization : InitializationOutcome) (recovery : RecoveryOutcome n)
  | axisRestart (prepared : Bool) (axisIndex : Fin n) (recovery : RecoveryOutcome n)
  | axisFaultReset (prepared : Bool) (axes : List (Fin n))

namespace SessionRequest

variable {n : ℕ}

def command : SessionRequest n → Command
  | serverFaultReset => .serverFaultReset
  | busFaultReset => .busFaultReset
  | busReconnect _ _ => .busReconnect
  | axisRestart _ _ _ => .axisRestart
  | axisFaultReset _ _ => .faultReset true

/-- The gates of `validate_command` before and after that of the authority. The fault of an axis
stops none of these requests. -/
def Allowed (request : SessionRequest n) (s : ServerSession T) : Prop :=
  (s.stateStatus.isSome = true → request.command.degradedAllowed = true) ∧
    (request.command = .busReconnect → ∀ stage ∈ s.stateStatus, stage.AllowsBusReconnect) ∧
    (request.command = .busReconnect → s.runtimeState ≠ .normal) ∧
    (s.runtimeState = .fault ∨ s.runtimeState = .busDisconnected →
      request.command.globalFaultAllowed = true)

instance (request : SessionRequest n) (s : ServerSession T) : Decidable (request.Allowed s) := by
  unfold Allowed
  infer_instance

end SessionRequest

variable {n : ℕ}

/-- The handlers. -/
def handleRequest : SessionRequest n → Session T Unit
  | .serverFaultReset => faultResetSource stamps serverSource
  | .busFaultReset => faultResetSource stamps busSource
  | .busReconnect initialization recovery => do
    let s ← Prog.get
    if s.reconnectOperation = true then reconnectFailedInitialization stamps initialization
    else reconnectRuntime stamps recovery
  | .axisRestart prepared axisIndex recovery => do
    Prog.raiseIf (prepared = false) (.motionServer (.deviceAccess "axis_restart"))
    tryCatch (restartAxisRuntime stamps recovery axisIndex)
      fun _ => throw (.motionServer (.deviceAccess "axis_restart"))
  | .axisFaultReset prepared axes => do
    Prog.raiseIf (prepared = false) (communicationException "processdata")
    axes.forM fun a => acknowledgeFaults stamps (axisSource a)

/-- What happens to the session. -/
inductive SessionEvent (n : ℕ)
  | cycle (outcome : CycleOutcome)
  | turn
  | request (request : SessionRequest n)

/-- One event. A `turn` of `run_degraded_server_loop` goes over to `run_server_loop` when there is a
runtime and the state is normal, and an exception of a handler is answered. -/
def step : SessionEvent n → Session T Unit
  | .cycle outcome => runCycle stamps outcome
  | .turn => do
    let s ← Prog.get
    Prog.onlyIf (s.servedRuntime = none ∧ s.runtime ≠ none ∧ s.runtimeState = .normal)
      (Prog.modify fun s => { s with servedRuntime := s.runtime, busWkcMismatchCycles := 0 })
  | .request request => do
    let s ← Prog.get
    Prog.onlyIf (request.Allowed s) (tryCatch (handleRequest stamps request) fun _ => pure ())

end ServerSession

end MotionServer
