import MotionServer.Handlers.Homing

/-!
# Stopping, enabling and switching axes

* **`stopAxes`**: the stop of the named axes, each in its mode;
* `enable`, `disable`, `faultResetAxes`, `setControlword`: the states of the drives;
* `setMode`: the motion mode of an axis.
-/

namespace MotionServer

variable {n : ℕ} {F : Type} [PyFloat F]

/-! ## Stop -/

/-- `request_axis_halt`. -/
def requestAxisHalt (axisIndex : Fin n) : Server n F Unit :=
  Prog.modify fun w => w.setRxpdo axisIndex fun rx => rx.setBit haltBit

/-- The hold of the named axes in `stop_axes`: every generator is given its target and put to rest
at the actual position of its axis. -/
def holdForStop (axes : List (Fin n)) : Server n F Unit := do
  let before ← Prog.get
  axes.forM holdAxisAtActualPosition
  Prog.modify fun w => { w with
    targetPositions := fun a =>
      if a ∈ axes then before.actualPosition a else before.targetPositions a }
  let w ← Prog.get
  setTargetPositions w.targetPositions
  syncTrajectoryToActualPositions

/-- The stop of one axis in its mode. An axis in `homing` mode has been stopped before. -/
def stopInMode (env : Env n F) (command : String) (axisIndex : Fin n) : Server n F Unit := do
  let w ← Prog.get
  match w.motionModes axisIndex with
  | .pp | .csp => requestAxisHalt axisIndex
  | .pv => commandProfileVelocities env [axisIndex] [0.0] command
  | .jog => Prog.modify fun w => w.setRxpdo axisIndex fun rx => { rx with controlword := 0x000F }
  | .homing => pure ()

/-- The axes a stop acts on, or its rejection. -/
def acceptStop (message : Message F) : Server n F (List (Fin n)) := do
  let axes ← rejecting (commandName message) (Prog.lift (selectedAxes n message))
  rejectIfAnyAxisDisabled axes (commandName message)
  pure axes

/-- `stop_axes`. -/
def stopAxes (env : Env n F) (message : Message F) : Server n F Unit := do
  let axes ← acceptStop message
  finishActiveHoming env .stopped
  Prog.modify fun w => { w with trajectory := inactiveTrajectoryState .axisStop }
  holdForStop axes
  let w ← Prog.get
  axes.forM fun a =>
    Prog.onlyIf ((w.txpdo a).operationEnabled = true) (stopInMode env (commandName message) a)

/-! ## Enable, disable, fault reset -/

/-- `enable`. -/
def enable (env : Env n F) (message : Message F) : Server n F Unit := do
  let axes ← rejecting (commandName message) (Prog.lift (selectedAxes n message))
  setControlwords axes 0x000F
  (exchange env).repeatN 3

/-- `disable_axis` of `disable`. -/
def disableAxis (axisIndex : Fin n) : Server n F Unit := do
  holdAxisAtActualPosition axisIndex
  Prog.modify fun w => w.setRxpdo axisIndex fun rx => { rx with controlword := 0x0007 }

/-- The end of an active trajectory or homing that shares an axis with those to be disabled. -/
def releaseAxes (env : Env n F) (axes : List (Fin n)) : Server n F Unit := do
  let w ← Prog.get
  Prog.onlyIf (w.trajectory.active = true ∧ ∃ i, w.trajectory.axes i ∈ axes) <|
    Prog.modify fun w => { w with trajectory := inactiveTrajectoryState .axisDisable }
  Prog.onlyIf (w.homing.active = true ∧ ∃ a ∈ w.homing.axes, a ∈ axes) (finishHoming env .stopped)

/-- `disable`. -/
def disable (env : Env n F) (message : Message F) : Server n F Unit := do
  let axes ← rejecting (commandName message) (Prog.lift (selectedAxes n message))
  releaseAxes env axes
  axes.forM disableAxis
  let w ← Prog.get
  setTargetPositions w.targetPositions
  (exchange env).repeatN 3

/-- The control words of one stage of `reset_faults`. -/
def setEachControlword (axes : List (Fin n)) (controlword : Fin n → ℤ) : Server n F Unit :=
  axes.forM fun a => Prog.modify fun w => w.setRxpdo a fun rx => { rx with controlword := controlword a }

/-- `reset_faults`. -/
def resetFaults (env : Env n F) (axes : List (Fin n)) : Server n F Unit := do
  let original ← Prog.get
  let cleared : Fin n → ℤ := fun a => Int.ldiff (original.rxpdo a).controlword 0x0080
  setEachControlword axes cleared
  (exchange env).repeatN 2
  setEachControlword axes fun a => Int.lor (original.rxpdo a).controlword 0x0080
  (exchange env).repeatN 2
  setEachControlword axes cleared
  (exchange env).repeatN 2
  setControlwords axes 0x0006
  (exchange env).repeatN 5
  setControlwords axes 0x0007
  (exchange env).repeatN 5

/-- `fault_reset_axes`. -/
def faultResetAxes (env : Env n F) (message : Message F) : Server n F Unit := do
  let axes ← rejecting (commandName message) (Prog.lift (selectedAxes n message))
  resetFaults env axes

/-! ## Manual control word -/

/-- `is_operation_enabled_controlword`. -/
def isOperationEnabledControlword (controlword : ℤ) : Bool :=
  Int.land controlword 0x008F = 0x000F

/-- The axes a control word is for: all of them, one, or none that exists. -/
def controlwordAxes (n : ℕ) (message : Message F) : Except PyExc (List (Fin n)) :=
  match message.getD "axis" .null with
  | .null => .ok (List.finRange n)
  | axis => match axis.toInt with
    | .ok index => .ok (toAxis n index).toList
    | .error e => if e.isTypeOrValueError then .ok [] else .error e

/-- The hold of axes that a request takes out of operation. -/
def holdEach (axes : List (Fin n)) : Server n F Unit := do
  axes.forM holdAxisAtActualPosition
  let w ← Prog.get
  setTargetPositions w.targetPositions

/-- `set_controlword`: what it cannot read it ignores. -/
def setControlword (message : Message F) : Server n F Unit := do
  match parseIntLiteral true (message.getD "controlword" .null).text with
  | none => pure ()
  | some controlword =>
    let axes ← Prog.lift (controlwordAxes n message)
    setControlwords axes controlword
    Prog.onlyIf (axes ≠ [] ∧ isOperationEnabledControlword controlword = false) (holdEach axes)

/-! ## Motion modes -/

/-- The mode and the axes of a mode request. -/
def modeRequest (n : ℕ) (message : Message F) : Except PyExc (MotionMode × List (Fin n)) :=
  match MotionMode.ofName (lowerText message "mode" "") with
  | none => .error (operationRejected (commandName message))
  | some mode => match message.getD "axis" .null with
    | .null => .ok (mode, List.finRange n)
    | axis => match axis.toInt with
      | .ok index => match toAxis n index with
        | some axisIndex => .ok (mode, [axisIndex])
        | none => .error (operationRejected (commandName message))
      | .error e =>
        if e.isTypeOrValueError then .error (operationRejected (commandName message)) else .error e

/-- The switch of one axis in `set_mode`, and whether it failed. -/
def switchMode (env : Env n F) (mode : MotionMode) (axisIndex : Fin n) : Server n F Bool := do
  let w ← Prog.get
  tryCatch (do
      configureMotionMode env mode axisIndex
      Prog.modify fun w => w.setMotionMode axisIndex mode
      pure false)
    fun _ => do
      Prog.modify fun w' => w'.setRxpdo axisIndex fun rx =>
        { rx with modeOfOperation := (w.motionModes axisIndex).code }
      pure true

/-- The checks of `set_mode` before it holds the axes. -/
def checkMode (mode : MotionMode) (axes : List (Fin n)) (command : String) : Server n F Unit := do
  Prog.onlyIf (mode = .pv) (rejectIfPvNotAllowed axes command)
  rejecting command (axes.forM (requirePdoFieldsForMode mode))

/-- `set_mode`. -/
def setMode (env : Env n F) (message : Message F) : Server n F Unit := do
  let (mode, axes) ← Prog.lift (modeRequest n message)
  let w ← Prog.get
  Prog.onlyIf (∃ a ∈ axes, w.motionModes a ≠ mode) do
    checkMode mode axes (commandName message)
    holdEach axes
    let failed ← axes.mapM (switchMode env mode)
    Prog.raiseIf (failed.any id = true) (operationRejected (commandName message))

end MotionServer
