import MotionServer.App.World

/-!
# Exchanging process data

* `Env`: what the bus, the drives and the clock answer, access by access;
* `updateCommands`, `applyCommands`: the next commanded position of each axis in CSP mode;
* **`exchange`**: one process data cycle;
* `configureMotionMode`, `ensureCspMode`, `commandCspPositions`, `commandProfilePositions`,
  `commandProfileVelocities`: the setpoints of the handlers.
-/

namespace MotionServer

variable {n : ℕ} {F : Type}

/-- What becomes of a prepared process image. -/
inductive ExchangeOutcome (n : ℕ)
  | sendError (e : PyExc)
  | receiveError (e : PyExc)
  | received (txpdo : Fin n → TxPDO)

/-- What is read from a drive after a reconnect. -/
structure AxisParameters (F : Type) where
  units : AxisUnits
  motionLimits : AxisMotionLimits F
  profileVelocity : F

/-- The outside of the server. An exchange or an access is answered by its number. -/
structure Env (n : ℕ) (F : Type) where
  exchange : ℕ → ExchangeOutcome n
  /-- The exception of a blocking operation: an SDO write or a state change of the bus. -/
  blocking : ℕ → Option PyExc
  clock : ℕ → F
  /-- How often a loop that waits goes round. -/
  rounds : ℕ → ℕ
  /-- Whether the diagnostic monitor finds the process data incomplete, or raises. -/
  diagnosis : ℕ → Except PyExc Bool
  /-- `has_active_fault` of an axis, and of the server or the bus. -/
  activeFault : ℕ → Option (Fin n) → Bool
  /-- The axes whose process data an attempt to connect maps anew. -/
  mapped : ℕ → Fin n → Bool
  parameters : ℕ → AxisParameters F

/-- `CommunicationException`. -/
def communicationException (operation : String) : PyExc := .motionServer (.communication operation)

/-- One access to the outside. -/
def access {α : Type} (answer : ℕ → α) : Server n F α := do
  let w ← Prog.get
  Prog.modify fun w => { w with accesses := w.accesses + 1 }
  pure (answer w.accesses)

def blockingOperation (env : Env n F) : Server n F Unit := do
  match ← access env.blocking with
  | none => pure ()
  | some e => throw e

/-- `write_sdo`. -/
def writeSdo (env : Env n F) : Server n F Unit := do
  let w ← Prog.get
  Prog.raiseIf (w.connected = false) (communicationException "bus_transport_disconnected")
  blockingOperation env

variable [PyFloat F]

/-! ## Commands -/

/-- `AxisCommand` as `update_commands` makes it. -/
structure AxisCommand where
  targetPosition : ℤ
  velocityOffset : ℤ

/-- `velocity_offset` of a command. -/
def World.velocityOffset (w : World n F) (axisIndex : Fin n) (commandVelocity : F) :
    Except PyExc ℤ :=
  if w.cspVelocityOffsetByAxis axisIndex then
    PyFloat.roundInt (commandVelocity / pyMax (w.settings.positionCountsPerApiUnit axisIndex) 1e-9)
  else .ok 0

/-- The update of a generator with the limits of its axis, in drive units. -/
def World.updateGenerator (w : World n F) (axisIndex : Fin n) :
    Except PyExc (CspTrajectoryGenerator F) :=
  let limits := w.settings.motionLimits axisIndex
  let scale := w.settings.positionCountsPerApiUnit axisIndex
  (w.generators axisIndex).update w.settings.cycleTime (limits.maxVelocity * scale)
    (limits.acceleration * scale) (limits.deceleration * scale) (limits.jerk * scale)

/-- The step of `update_commands` for one axis: nothing for an axis in another mode. -/
def updateCommand (axisIndex : Fin n) : Server n F (Option AxisCommand) := do
  let w ← Prog.get
  if (w.rxpdo axisIndex).modeOfOperation ≠ 8 then pure none
  else
    let g ← Prog.lift (w.updateGenerator axisIndex)
    Prog.modify fun w => w.setGenerator axisIndex g
    let sentPosition ← Prog.lift (PyFloat.roundInt g.commandPosition)
    let velocityOffset ← Prog.lift (w.velocityOffset axisIndex g.commandVelocity)
    pure (some ⟨sentPosition, velocityOffset⟩)

/-- `update_commands`. -/
def updateCommands : Server n F (List (Fin n × Option AxisCommand)) :=
  (List.finRange n).mapM fun axisIndex => do
    let command ← updateCommand axisIndex
    pure (axisIndex, command)

/-- `apply_commands` for one axis. -/
def RxPDO.applyCommand (rx : RxPDO) (command : AxisCommand) : RxPDO :=
  { rx with
    targetPosition := command.targetPosition
    velocityOffset :=
      if rx.hasField .velocityOffset then command.velocityOffset else rx.velocityOffset }

/-- `apply_commands`. -/
def applyCommands (commands : List (Fin n × Option AxisCommand)) : Server n F Unit :=
  commands.forM fun (axisIndex, command) =>
    match command with
    | none => pure ()
    | some command => Prog.modify fun w => w.setRxpdo axisIndex (·.applyCommand command)

/-- The master's `prepare_processdata`: the phase is checked before anything is packed. -/
def prepareMaster : Server n F Unit := do
  let w ← Prog.get
  Prog.raiseIf (w.connected = false) (communicationException "bus_transport_disconnected")
  Prog.raiseIf (w.phase ≠ .idle) .runtimeError
  (List.finRange n).forM fun axisIndex => Prog.lift (w.rxpdo axisIndex).encode
  Prog.modify fun w => { w with phase := .prepared }

/-- `prepare_processdata`. -/
def prepareProcessdata : Server n F Unit := do
  let commands ← updateCommands
  applyCommands commands
  prepareMaster

/-- `send_processdata` and `receive_processdata` of a prepared image. -/
def transferProcessdata (env : Env n F) : Server n F Unit := do
  let w ← Prog.get
  Prog.modify fun w => { w with exchanges := w.exchanges + 1 }
  match env.exchange w.exchanges with
  | .sendError e => throw e
  | .receiveError e =>
    Prog.modify fun w => { w with phase := .sent, sent := w.rxpdo :: w.sent }
    throw e
  | .received txpdo =>
    Prog.modify fun w => { w with txpdo := txpdo, phase := .idle, sent := w.rxpdo :: w.sent }

/-- `exchange` once. -/
def exchange (env : Env n F) : Server n F Unit := do
  prepareProcessdata
  transferProcessdata env

/-! ## Modes -/

/-- `configure_mode_code`. -/
def configureModeCode (env : Env n F) (mode : MotionMode) (axisIndex : Fin n) :
    Server n F Unit := do
  Prog.modify fun w => w.setRxpdo axisIndex fun rx => { rx with modeOfOperation := mode.code }
  writeSdo env
  (exchange env).repeatN 5

/-- `configure_motion_mode`. -/
def configureMotionMode (env : Env n F) (mode : MotionMode) (axisIndex : Fin n) :
    Server n F Unit := do
  requirePdoFieldsForMode mode axisIndex
  configureModeCode env mode axisIndex

/-- The switch of one axis in `ensure_csp_mode`, and whether there was one. -/
def switchToCsp (axisIndex : Fin n) : Server n F Bool := do
  let w ← Prog.get
  if w.motionModes axisIndex = .csp then pure false
  else
    holdAxisAtActualPosition axisIndex
    Prog.modify fun w => w.setRxpdo axisIndex fun rx =>
      { rx with modeOfOperation := MotionMode.csp.code, controlword := 0x000F }
    Prog.modify fun w => w.setMotionMode axisIndex .csp
    pure true

/-- `ensure_csp_mode`. -/
def ensureCspMode (axes : List (Fin n)) : Server n F Unit := do
  let changed ← axes.mapM switchToCsp
  if changed.any id then
    let w ← Prog.get
    setTargetPositions w.targetPositions
  else pure ()

/-! ## Setpoints -/

/-- `command_csp_positions`: the positions are checked before any axis is written. -/
def commandCspPositions (targetPositions : Fin n → F) (axes : List (Fin n)) :
    Server n F Unit := do
  let checked ← Prog.lift (axes.mapM fun a => requireInt32 (targetPositions a))
  axes.forM fun a => Prog.modify fun w => w.setRxpdo a fun rx =>
    { rx with modeOfOperation := MotionMode.csp.code, controlword := 0x000F }
  setTargetPositions fun a =>
    match (axes.zip checked).find? (·.1 = a) with
    | some (_, position) => PyFloat.ofInt position
    | none => targetPositions a

/-- `wait_pp_setpoint_ack`, at most `maxCycles` exchanges long. -/
def waitPpSetpointAck (env : Env n F) (axes : List (Fin n)) (expected : Bool) :
    ℕ → Server n F Bool
  | 0 => pure false
  | maxCycles + 1 => do
    exchange env
    let w ← Prog.get
    if ∀ a ∈ axes, (w.txpdo a).setpointAck = expected then pure true
    else waitPpSetpointAck env axes expected maxCycles

/-- `PP_HANDSHAKE_MAX_CYCLES`. -/
def ppHandshakeMaxCycles : ℕ := 100

def setControlwords (axes : List (Fin n)) (controlword : ℤ) : Server n F Unit :=
  axes.forM fun a => Prog.modify fun w => w.setRxpdo a fun rx => { rx with controlword := controlword }

/-- `pp_setpoint_handshake`. -/
def ppSetpointHandshake (env : Env n F) (axes : List (Fin n)) : Server n F Unit := do
  setControlwords axes 0x000F
  let ackClearedBefore ← waitPpSetpointAck env axes false ppHandshakeMaxCycles
  setControlwords axes 0x003F
  let ackSet ← waitPpSetpointAck env axes true ppHandshakeMaxCycles
  setControlwords axes 0x000F
  let ackClearedAfter ← waitPpSetpointAck env axes false ppHandshakeMaxCycles
  Prog.raiseIf ((ackClearedBefore && ackSet && ackClearedAfter) = false) .runtimeError

/-- `command_profile_positions`. -/
def commandProfilePositions (env : Env n F) (targetPositions : Fin n → F) (axes : List (Fin n)) :
    Server n F Unit := do
  axes.forM fun a => do
    requirePdoFieldsForMode .pp a
    Prog.modify fun w => w.setRxpdo a fun rx => { rx with modeOfOperation := MotionMode.pp.code }
    let target ← Prog.lift (requireInt32 (targetPositions a))
    Prog.modify fun w => w.setRxpdo a fun rx => { rx with targetPosition := target }
  ppSetpointHandshake env axes

/-- `command_profile_velocities` and `command_position_axes` do this where a drive is faulted. -/
def rejectIfAnyDriveFaulted (command : String) : Server n F Unit := do
  let w ← Prog.get
  Prog.onlyIf (w.faultedAxes ≠ []) do
    holdFaultedAxes
    syncTrajectoryToActualPositions
    throw (.motionServer (.invalidState command "axis_fault"))

/-- The switch of an axis to PV mode. -/
def switchToPv (env : Env n F) (axisIndex : Fin n) : Server n F Unit := do
  let w ← Prog.get
  Prog.onlyIf (w.motionModes axisIndex ≠ .pv) do
    holdAxisAtActualPosition axisIndex
    configureMotionMode env .pv axisIndex
    Prog.modify fun w => w.setMotionMode axisIndex .pv

/-- The step of `command_profile_velocities` for one axis. -/
def commandProfileVelocity (env : Env n F) (axisIndex : Fin n) (velocity : F) :
    Server n F Unit := do
  requirePdoFieldsForMode .pv axisIndex
  let targetVelocity ← Prog.lift (requireInt32 velocity)
  Prog.modify fun w => w.setRxpdo axisIndex fun rx => { rx with targetVelocity := targetVelocity }
  switchToPv env axisIndex
  Prog.modify fun w => w.setRxpdo axisIndex fun rx => { rx with
    modeOfOperation := MotionMode.pv.code
    targetVelocity := targetVelocity
    controlword := 0x000F }
  syncVelocityCommand axisIndex velocity

/-- `command_profile_velocities`. -/
def commandProfileVelocities (env : Env n F) (axes : List (Fin n)) (velocities : List F)
    (command : String) : Server n F Unit := do
  rejectIfAnyDriveFaulted command
  rejectIfAnyAxisDisabled axes command
  rejectIfPvNotAllowed axes command
  (axes.zip velocities).forM fun (axisIndex, velocity) =>
    commandProfileVelocity env axisIndex velocity
  (exchange env).repeatN 2

end MotionServer
