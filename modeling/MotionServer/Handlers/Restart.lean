import MotionServer.App.Recovery
import MotionServer.Handlers.AxisState

/-!
# Restarting an axis

* `prepareRestart`: every axis is held, switched off and waited for;
* **`restartAxis`**: the restart request.
-/

namespace MotionServer

variable {n : ℕ} {F : Type} [PyFloat F]

/-- `wait_axis_not_operation_enabled`, at most `maxCycles` exchanges long. -/
def waitAxisNotOperationEnabled (env : Env n F) (axisIndex : Fin n) : ℕ → Server n F Bool
  | 0 => pure false
  | maxCycles + 1 => do
    exchange env
    let w ← Prog.get
    if (w.txpdo axisIndex).statusword &&& 0x006F ≠ 0x0027 then pure true
    else waitAxisNotOperationEnabled env axisIndex maxCycles

/-- Every axis is held, and put to rest. -/
def holdAll : Server n F Unit := do
  holdEach (List.finRange n)
  syncTrajectoryToActualPositions

/-- Every axis is switched off, and must leave operation within 50 exchanges. -/
def disableAll (env : Env n F) : Server n F Unit := do
  setControlwords (List.finRange n) 0x0007
  let disabled ← (List.finRange n).mapM fun a => waitAxisNotOperationEnabled env a 50
  Prog.raiseIf (disabled.all id = false) .runtimeError

/-- `keep_pdo_alive_for_seconds`. -/
def keepPdoAlive (env : Env n F) : Server n F Unit := do
  let rounds ← access env.rounds
  (exchange env).repeatN rounds

/-- The part of what `restart_axis` tries that comes before the recovery. `request_axis_restart`
writes two objects of the drive. -/
def prepareRestart (env : Env n F) : Server n F Unit := do
  finishActiveHoming env .stopped
  let w ← Prog.get
  Prog.onlyIf (w.trajectory.active = true) <|
    Prog.modify fun w => { w with trajectory := inactiveTrajectoryState .axisRestart }
  holdAll
  disableAll env
  keepPdoAlive env
  writeSdo env
  writeSdo env

/-- What `restart_axis` tries. -/
def tryRestartAxis (env : Env n F) (axisIndex : Fin n) : Server n F Unit := do
  prepareRestart env
  restartAxisRuntime env axisIndex

/-- `restart_axis`. Every device profile supports the restart. -/
def restartAxis (env : Env n F) (message : Message F) : Server n F Unit := do
  let axes ← rejecting (commandName message) (Prog.lift (selectedAxes n message))
  match axes with
  | [axisIndex] =>
    tryCatch (tryRestartAxis env axisIndex) fun _ =>
      throw (.motionServer (.deviceAccess "axis_restart"))
  | _ => throw (operationRejected (commandName message))

end MotionServer
