import MotionServer.App.Exchange

/-!
# Losing and reconnecting the bus

* `markBusDisconnected`;
* `reconnectRuntime`, `restartAxisRuntime`: the two recoveries, **`restoreProcessImage`** their main
  part;
* `resetSource`: the fault reset of the server and of the bus.
-/

namespace MotionServer

variable {n : ℕ} {F : Type}

/-- `close`. -/
def closeRuntime : Server n F Unit :=
  Prog.modify fun w => { w with connected := false, phase := .idle }

/-- `mark_bus_disconnected`. -/
def markBusDisconnected : Server n F Unit := do
  closeRuntime
  Prog.modify fun w => { w with runtimeState := .busDisconnected }

/-- `connect` up to PRE-OP: the drives that were reached have their process data mapped anew, with
default values. -/
def connectRuntime (env : Env n F) : Server n F Unit := do
  let mapped ← access env.mapped
  Prog.modify fun w => { w with
    rxpdo := fun a => if mapped a then .init (w.rxpdo a).configuration else w.rxpdo a
    txpdo := fun a => if mapped a then .init else w.txpdo a }
  blockingOperation env
  Prog.modify fun w => { w with
    rxpdo := fun a => .init (w.rxpdo a).configuration
    txpdo := fun _ => .init
    connected := true }

variable [PyFloat F]

/-- `refresh_axis_parameter_cache`. -/
def refreshAxisParameters (env : Env n F) (axisIndex : Fin n) : Server n F Unit := do
  blockingOperation env
  let parameters ← access env.parameters
  Prog.modify fun w => { w with
    units := Function.update w.units axisIndex parameters.units
    profileVelocity := Function.update w.profileVelocity axisIndex parameters.profileVelocity
    settings := { w.settings with
      motionLimits := Function.update w.settings.motionLimits axisIndex
        { parameters.motionLimits with jerk := (w.settings.motionLimits axisIndex).jerk }
      positionCountsPerApiUnit := Function.update w.settings.positionCountsPerApiUnit axisIndex
        parameters.units.positionCountsPerApiUnit } }
  let w ← Prog.get
  Prog.onlyIf ((w.rxpdo axisIndex).hasField .profileVelocity = true) do
    let profileVelocity ← Prog.lift (requireUint32 parameters.profileVelocity)
    Prog.modify fun w => w.setRxpdo axisIndex fun rx => { rx with profileVelocity := profileVelocity }

/-- `enter_operational`. -/
def enterOperational (env : Env n F) : Server n F Unit := do
  let w ← Prog.get
  (List.finRange n).forM fun a => Prog.lift (w.rxpdo a).encode
  blockingOperation env

/-- `_wait_for_stable_processdata`. -/
def waitForStableProcessdata (env : Env n F) : Server n F Unit := do
  let rounds ← access env.rounds
  (exchange env).repeatN rounds
  blockingOperation env

/-- The part of `_restore_process_image` before the generators are put to rest. -/
def restoreDrives (env : Env n F) (refreshAxes : List (Fin n)) : Server n F Unit := do
  (List.finRange n).forM fun a => do
    Prog.modify fun w => w.setRxpdo a fun rx =>
      { rx with modeOfOperation := (w.motionModes a).code }
    writeSdo env
  refreshAxes.forM (refreshAxisParameters env)
  enterOperational env
  waitForStableProcessdata env

/-- `_restore_process_image`. -/
def restoreProcessImage (env : Env n F) (refreshAxes : List (Fin n)) : Server n F Unit := do
  restoreDrives env refreshAxes
  syncTrajectoryToActualPositions

/-- What `reconnect_runtime` tries. The last operation is the check of its deadline. -/
def tryReconnect (env : Env n F) : Server n F Unit := do
  closeRuntime
  connectRuntime env
  restoreProcessImage env (List.finRange n)
  blockingOperation env

/-- `reconnect_runtime`. -/
def reconnectRuntime (env : Env n F) : Server n F Unit := do
  tryCatch (tryReconnect env) fun _ => do
    markBusDisconnected
    throw (communicationException "bus_reconnect")
  let globalFault ← access (env.activeFault · none)
  Prog.modify fun w => { w with runtimeState := if globalFault then .fault else .normal }

/-- What `restart_axis_runtime` tries until the bus is operational. -/
def tryRestart (env : Env n F) (axisIndex : Fin n) : Server n F Unit := do
  closeRuntime
  connectRuntime env
  restoreProcessImage env [axisIndex]

/-- `restart_axis_runtime`. The last operation is the check of its deadline. -/
def restartAxisRuntime (env : Env n F) (axisIndex : Fin n) : Server n F Unit := do
  Prog.modify fun w => { w with runtimeState := .fault }
  tryCatch (tryRestart env axisIndex) fun _ => do
    markBusDisconnected
    throw (communicationException "axis_restart")
  tryCatch (blockingOperation env) fun _ => throw (communicationException "axis_restart")
  Prog.modify fun w => { w with runtimeState := .normal }

omit [PyFloat F] in
/-- `fault_reset_source` of the server or the bus. -/
def resetSource (env : Env n F) : Server n F Unit := do
  let globalFault ← access (env.activeFault · none)
  Prog.modify fun w => { w with
    runtimeState :=
      if !globalFault ∧ w.runtimeState = .fault then .normal else w.runtimeState }

end MotionServer
