import MotionServer.Handlers.Restart
import MotionServer.Handlers.Trajectory

/-!
# The server

* `Command`, `commandOf`: the requests whose handlers move axes, `handleCommand` their handlers;
* `Refusal`, **`validateCommand`**: the gates of the router;
* `routeMessage`: a request of a client, a failure is answered and leaves its writes;
* `runCycle`: one turn of the server loop;
* **`Event`, `step`, `run`**: requests and cycles in any order.
-/

namespace MotionServer

variable {n : ℕ} {F : Type}

/-! ## Commands -/

/-- The requests the model knows. `axes` tells the request of many axes from that of one. -/
inductive Command
  | trajectory
  | trajectoryStop
  | stop (axes : Bool)
  | enable (axes : Bool)
  | disable (axes : Bool)
  | faultReset (axes : Bool)
  | home
  | moveAbs (axes : Bool)
  | moveRel (axes : Bool)
  | moveVel (axes : Bool)
  | jogStart
  | jogStop
  | mode
  | manualCW
  | axisRestart
  | serverFaultReset
  | busFaultReset
  | busReconnect
  | authorityRequest
  | authorityRelease
  deriving DecidableEq

/-- `command_spec`. -/
def commandOf : String → Option Command
  | "system/axes/trajectory" => some .trajectory
  | "system/axes/trajectory_stop" => some .trajectoryStop
  | "system/axis/stop" => some (.stop false)
  | "system/axes/stop" => some (.stop true)
  | "system/axis/enable" => some (.enable false)
  | "system/axes/enable" => some (.enable true)
  | "system/axis/disable" => some (.disable false)
  | "system/axes/disable" => some (.disable true)
  | "system/axis/fault_reset" => some (.faultReset false)
  | "system/axes/fault_reset" => some (.faultReset true)
  | "system/axis/home" => some .home
  | "system/axis/move_abs" => some (.moveAbs false)
  | "system/axes/move_abs" => some (.moveAbs true)
  | "system/axis/move_rel" => some (.moveRel false)
  | "system/axes/move_rel" => some (.moveRel true)
  | "system/axis/move_vel" => some (.moveVel false)
  | "system/axes/move_vel" => some (.moveVel true)
  | "system/axis/jog_start" => some .jogStart
  | "system/axis/jog_stop" => some .jogStop
  | "system/axis/mode" => some .mode
  | "system/axis/manualCW" => some .manualCW
  | "system/axis/restart" => some .axisRestart
  | "system/server/fault_reset" => some .serverFaultReset
  | "system/bus/fault_reset" => some .busFaultReset
  | "system/bus/reconnect" => some .busReconnect
  | "system/authority/request" => some .authorityRequest
  | "system/authority/release" => some .authorityRelease
  | _ => none

namespace Command

/-- `advanced_only`. -/
def advancedOnly : Command → Bool
  | trajectory | trajectoryStop | manualCW => true
  | _ => false

/-- `is_authority`. -/
def isAuthority : Command → Bool
  | authorityRequest | authorityRelease => true
  | _ => false

/-- The names that start with `system/axis/` or `system/axes/`. -/
def isAxisCommand : Command → Bool
  | serverFaultReset | busFaultReset | busReconnect | authorityRequest | authorityRelease => false
  | _ => true

/-- `GLOBAL_FAULT_ALLOWED_COMMANDS`. -/
def globalFaultAllowed : Command → Bool
  | serverFaultReset | busFaultReset | busReconnect | disable _ | faultReset _ | stop _ => true
  | _ => false

/-- `AXIS_FAULT_ALLOWED_COMMANDS`. -/
def axisFaultAllowed : Command → Bool
  | disable _ | faultReset _ | stop _ | axisRestart => true
  | _ => false

/-- The requests that `require_axes` wraps. -/
def requiresAxes : Command → Bool
  | trajectory | trajectoryStop => true
  | stop axes | enable axes | disable axes | faultReset axes | moveAbs axes | moveRel axes
  | moveVel axes => axes
  | _ => false

end Command

/-! ## Gates -/

/-- `_selected_axis_indices`: what cannot be read selects no axis. -/
def selectedAxisIndices [PyFloat F] (message : Message F) : Except PyExc (List ℤ) :=
  let values : List (Value F) :=
    match message.getD "axes" .null with
    | .null => (message.get? "axis").toList
    | .list values => values
    | value => [value]
  match values.mapM Value.toInt with
  | .ok indices => .ok indices
  | .error e => if e.isTypeOrValueError then .ok [] else .error e

/-- `command_allowed_by_runtime_state`. -/
def commandAllowedByRuntimeState [PyFloat F] (command : Command) (message : Message F)
    (runtimeState : RuntimeState) (activeFault : Option (Fin n) → Bool) : Except PyExc Bool :=
  if command.isAuthority then .ok true
  else if command = .busReconnect ∧ runtimeState = .normal then .ok false
  else if runtimeState ≠ .normal ∧ !command.globalFaultAllowed then .ok false
  else if !command.isAxisCommand || command.axisFaultAllowed then .ok true
  else do
    let indices ← selectedAxisIndices message
    pure (indices.all fun index => !((toAxis n index).any fun a => activeFault (some a)))

/-- `client_has_command_authority`. -/
def World.HasAuthority (w : World n F) (client : ℕ) : Prop := w.commandAuthorityOwner = some client

instance (w : World n F) (client : ℕ) : Decidable (w.HasAuthority client) :=
  inferInstanceAs (Decidable (_ = _))

/-- `validate_command` of an initialized server, and the exception the router raises for it. -/
def validateCommand [PyFloat F] (w : World n F) (client : ℕ) (command : Command)
    (message : Message F) (activeFault : Option (Fin n) → Bool) : Except PyExc Unit :=
  if command.advancedOnly ∧ !w.advancedMode then
    .error (.motionServer (.unsupportedOperation (commandName message) "advanced_only"))
  else if !command.isAuthority ∧ ¬ w.HasAuthority client then
    .error (.motionServer (match w.commandAuthorityOwner with
      | none => .authorityRequired
      | some owner => .authorityBusy owner))
  else do
    let allowed ← commandAllowedByRuntimeState command message w.runtimeState activeFault
    if allowed then pure () else throw (.motionServer (.invalidState (commandName message) "runtime"))

/-- `require_single_axis` and `require_axes`. -/
def requireAxisKey (command : Command) (message : Message F) : Except PyExc Unit :=
  if command.isAxisCommand ∧
      ¬ ((message.has "axes" = true ↔ command.requiresAxes = true) ∧
        (message.has "axis" = true ↔ command.requiresAxes = false)) then
    .error (.motionServer (.invalidRequest (commandName message)))
  else .ok ()

/-! ## Requests -/

variable [PyFloat F]

/-- `acquire_authority`. -/
def acquireAuthority (client : ℕ) : Server n F Unit := do
  let w ← Prog.get
  match w.commandAuthorityOwner with
  | none => Prog.modify fun w => { w with commandAuthorityOwner := some client }
  | some owner =>
    Prog.raiseIf (owner ≠ client) (.motionServer (.authorityBusy owner))

/-- `release_authority`. -/
def releaseAuthority (client : ℕ) : Server n F Unit := do
  let w ← Prog.get
  match w.commandAuthorityOwner with
  | none => throw (.motionServer .authorityRequired)
  | some owner =>
    Prog.raiseIf (owner ≠ client) (.motionServer (.authorityBusy owner))
    Prog.modify fun w => { w with commandAuthorityOwner := none }

/-- `COMMAND_HANDLERS` and `AUTHORITY_HANDLERS`. -/
def handler (env : Env n F) (client : ℕ) (message : Message F) : Command → Server n F Unit
  | .trajectory => moveApi message
  | .trajectoryStop => trajectoryStop message
  | .stop _ => stopAxes env message
  | .enable _ => enable env message
  | .disable _ => disable env message
  | .faultReset _ => faultResetAxes env message
  | .home => startHoming env message
  | .moveAbs _ => moveAbsolute env message
  | .moveRel _ => moveRelative env message
  | .moveVel _ => moveVelocity env message
  | .jogStart => startJog env message
  | .jogStop => stopJog env message
  | .mode => setMode env message
  | .manualCW => setControlword message
  | .axisRestart => restartAxis env message
  | .serverFaultReset | .busFaultReset => resetSource env
  | .busReconnect => reconnectRuntime env
  | .authorityRequest => acquireAuthority client
  | .authorityRelease => releaseAuthority client

/-- `_route_message_to_handler`. -/
def routeToHandler (env : Env n F) (client : ℕ) (message : Message F) : Server n F Unit := do
  match commandOf (commandName message) with
  | none => throw (.motionServer (.unknownCommand (commandName message)))
  | some command =>
    let w ← Prog.get
    let activeFault ← access env.activeFault
    Prog.lift (validateCommand w client command message activeFault)
    Prog.lift (requireAxisKey command message)
    handler env client message command

/-- `request_response`: an exception becomes a response that reports it. -/
def routeMessage (env : Env n F) (client : ℕ) (message : Message F) :
    Server n F (Except PyExc Unit) :=
  tryCatch (do
      routeToHandler env client message
      pure (.ok ()))
    fun e => pure (.error e)

/-! ## Cycles -/

/-- `except CommunicationException`: `mark_bus_disconnected`, then `run_bus_disconnected_loop`. -/
def losingBus (m : Server n F Unit) : Server n F Bool :=
  tryCatch (do
      m
      pure true)
    fun e =>
      if e.isCommunication then do
        markBusDisconnected
        Prog.modify fun w => { w with disconnectedLoop := true }
        pure false
      else throw e

/-- The process data part of a cycle. -/
def cycleProcessdata (env : Env n F) : Server n F Unit := do
  holdFaultedAxes
  updateActive
  exchange env

/-- `diagnostic_monitor.update`. -/
def updateDiagnostics (env : Env n F) : Server n F Unit := do
  let incomplete ← Prog.lift =<< access env.diagnosis
  Prog.modify fun w => { w with
    runtimeState := if incomplete then .fault else w.runtimeState }

/-- One turn of `run_server_loop`. The loop that waits for the bus has no cycles; it ends where the
runtime state has changed. -/
def runCycle (env : Env n F) : Server n F Unit := do
  let w ← Prog.get
  Prog.onlyIf (w.disconnectedLoop = false ∨ w.runtimeState ≠ .busDisconnected) do
    Prog.modify fun w => { w with disconnectedLoop := false }
    let exchanged ← losingBus (cycleProcessdata env)
    Prog.onlyIf (exchanged = true) do
      let diagnosed ← losingBus (updateDiagnostics env)
      Prog.onlyIf (diagnosed = true) (updateHomingState env)

/-! ## Runs -/

/-- What happens to the server. -/
inductive Event (F : Type)
  | cycle
  | request (client : ℕ) (message : Message F)
  | disconnect (client : ℕ)

/-- One event. Only a cycle can raise: then the server ends. -/
def step (env : Env n F) : Event F → Server n F Unit
  | .cycle => runCycle env
  | .request client message => do
    let _ ← routeMessage env client message
    pure ()
  | .disconnect client => Prog.modify fun w => { w with
      commandAuthorityOwner :=
        if w.commandAuthorityOwner = some client then none else w.commandAuthorityOwner }

/-- A run: events until one of them ends the server. -/
def run (env : Env n F) (events : List (Event F)) : Server n F Unit := events.forM (step env)

/-- `initial_state` after `initialize_drive`: every axis stands in the initial mode. -/
def World.initial (settings : MotionSettings n F) (units : Fin n → AxisUnits) (mode : MotionMode)
    (configuration : PdoConfiguration) (cspProfile : CspProfile) (txpdo : Fin n → TxPDO) :
    World n F :=
  let actualPosition (a : Fin n) : F := PyFloat.ofInt (txpdo a).actualPosition.toInt
  { generators := fun a => (CspTrajectoryGenerator.init 0.0 cspProfile).reset (actualPosition a)
    settings := settings
    cspVelocityOffsetByAxis := fun _ => false
    rxpdo := fun a => { RxPDO.init configuration with
      controlword := 0x000F
      modeOfOperation := mode.code
      targetPosition := if mode = .csp then (txpdo a).actualPosition.toInt else 0 }
    txpdo := txpdo
    connected := true
    phase := .idle
    units := units
    profileVelocity := fun _ => 0.0
    targetPositions := actualPosition
    motionModes := fun _ => mode
    jogPreviousModes := fun _ => none
    trajectory := inactiveTrajectoryState .idle
    homing := inactiveHomingState .idle
    commandAuthorityOwner := none
    advancedMode := true
    runtimeState := .normal
    disconnectedLoop := false
    exchanges := 0
    accesses := 0
    sent := [] }

/-- An outside where nothing fails and no drive moves. -/
def Env.quiet (txpdo : Fin n → TxPDO) : Env n F where
  exchange _ := .received txpdo
  blocking _ := none
  clock _ := 0.0
  rounds _ := 0
  diagnosis _ := .ok false
  activeFault _ _ := false
  mapped _ _ := false
  parameters _ :=
    { units := { userPositionUnit := none, convertingUnitExponents := none }
      motionLimits := { maxVelocity := 0.0, acceleration := 0.0, deceleration := 0.0, jerk := 0.0 }
      profileVelocity := 0.0 }

end MotionServer
