import MotionServer.Api.Decoder
import MotionServer.App.Exchange

/-!
# Moves

* `axisPositionsFromMessage`, `axisDistancesFromMessage`, `axisVelocitiesFromMessage`: the values
  of a request, in drive units;
* **`commandPositionAxes`**: the common part of the absolute and the relative move;
* `moveAbsolute`, `moveRelative`, `moveVelocity`: the handlers.
-/

namespace MotionServer

variable {n : ℕ} {F : Type} [PyFloat F]

/-- `except Exception: raise_operation_rejected(...)`. -/
def rejecting {α : Type} (command : String) (m : Server n F α) : Server n F α :=
  tryCatch m fun _ => throw (operationRejected command)

/-! ## Values -/

/-- The floats of a request: a list under one key or a number under another. -/
def requestFloats (message : Message F) (plural singular : String) : Except PyExc (List F) :=
  match message.get? plural with
  | some values => do (← values.iterate).mapM Value.toFloat
  | none => match message.get? singular with
    | some value => do pure [← value.toFloat]
    | none => .error .valueError

/-- `require_int32(axis_position_api_to_drive(...))`. -/
def World.positionToDrive (w : World n F) (axisIndex : Fin n) (value : F) : Except PyExc ℤ :=
  requireInt32 ((w.units axisIndex).positionApiToDrive value)

/-- `axis_positions_from_message`: a target for every axis; those not named keep theirs. -/
def axisPositionsFromMessage (w : World n F) (message : Message F) (axes : List (Fin n)) :
    Except PyExc (Fin n → F) := do
  let values ← requestFloats message "positions" "position"
  if values.length = n ∧ axes.length = n then
    let positions ← ((List.finRange n).zip values).mapM fun (a, value) => w.positionToDrive a value
    pure fun a => (positions[a.val]?).elim (w.targetPositions a) PyFloat.ofInt
  else if values.length ≠ axes.length then throw .valueError
  else
    let positions ← (axes.zip values).mapM fun (a, value) => w.positionToDrive a value
    pure ((axes.zip positions).foldl
      (fun targets (a, position) => Function.update targets a (PyFloat.ofInt position))
      w.targetPositions)

/-- `axis_distances_from_message`. -/
def axisDistancesFromMessage (w : World n F) (message : Message F) (axes : List (Fin n)) :
    Except PyExc (List ℤ) := do
  let values ← requestFloats message "distances" "distance"
  if values.length ≠ axes.length then throw .valueError
  else (axes.zip values).mapM fun (a, value) => w.positionToDrive a value

/-- `axis_velocities_from_message`. -/
def axisVelocitiesFromMessage (w : World n F) (message : Message F) (axes : List (Fin n)) :
    Except PyExc (List F) := do
  let values ← requestFloats message "velocities" "velocity"
  if values.length ≠ axes.length then throw .valueError
  else pure ((axes.zip values).map fun (a, value) => (w.units a).motionApiToDrive value .velocity)

/-- The profile velocities of a move, one for each axis; none when the request has none. -/
def requestProfileVelocities (message : Message F) (axes : List (Fin n)) :
    Except PyExc (List F) :=
  match message.get? "profile_velocities" with
  | some values => do
    let values ← (← values.iterate).mapM Value.toFloat
    if values.length ≠ axes.length then throw .valueError else pure values
  | none => match message.get? "profile_velocity" with
    | some value => axes.mapM fun _ => value.toFloat
    | none => .ok []

/-- `apply_move_profile_velocity`. -/
def applyMoveProfileVelocity (message : Message F) (axes : List (Fin n)) : Server n F Unit := do
  let values ← Prog.lift (requestProfileVelocities message axes)
  (axes.zip values).forM fun (a, value) => do
    let w ← Prog.get
    let velocity := (w.units a).motionApiToDrive value .velocity
    Prog.modify fun w => { w with profileVelocity := Function.update w.profileVelocity a velocity }
    Prog.onlyIf ((w.rxpdo a).hasField .profileVelocity = true) do
      let profileVelocity ← Prog.lift (requireUint32 velocity)
      Prog.modify fun w => w.setRxpdo a fun rx => { rx with profileVelocity := profileVelocity }

/-! ## Position moves -/

/-- The rollback of `command_position_axes`. -/
def rollbackPositionAxes (axes : List (Fin n)) : Server n F Unit := do
  let actual ← Prog.get
  axes.forM fun a => do
    Prog.modify fun w => { w with
      targetPositions := Function.update w.targetPositions a (actual.actualPosition a) }
    holdAxisAtActualPosition a
  let w ← Prog.get
  setTargetPositions w.targetPositions

/-- The two outputs of `command_position_axes`: to the axes in PP and to those in CSP mode. -/
def outputPositionAxes (env : Env n F) (axes : List (Fin n)) : Server n F Unit := do
  let w ← Prog.get
  let ppAxes := axes.filter (w.motionModes · = .pp)
  let cspAxes := axes.filter (w.motionModes · = .csp)
  Prog.onlyIf (ppAxes ≠ []) (commandProfilePositions env w.targetPositions ppAxes)
  Prog.onlyIf (cspAxes ≠ []) (commandCspPositions w.targetPositions cspAxes)

/-- `command_position_axes`. -/
def commandPositionAxes (env : Env n F) (axes : List (Fin n)) (positions : Fin n → F)
    (command : String) : Server n F Unit := do
  rejectIfAnyDriveFaulted command
  rejectIfAnyAxisDisabled axes command
  Prog.modify fun w => { w with
    targetPositions := fun a => if a ∈ axes then positions a else w.targetPositions a }
  tryCatch (outputPositionAxes env axes) fun _ => do
    rollbackPositionAxes axes
    throw (operationRejected command)

/-- The axes and targets of an absolute move, with its profile velocity applied. -/
def prepareMoveAbsolute (message : Message F) : Server n F (List (Fin n) × (Fin n → F)) := do
  let w ← Prog.get
  let axes ← Prog.lift (selectedAxes n message)
  let positions ← Prog.lift (axisPositionsFromMessage w message axes)
  applyMoveProfileVelocity message axes
  pure (axes, positions)

/-- `move_absolute`. -/
def moveAbsolute (env : Env n F) (message : Message F) : Server n F Unit := do
  let (axes, positions) ← rejecting (commandName message) (prepareMoveAbsolute message)
  let w ← Prog.get
  Prog.raiseIf (∃ a ∈ axes, (w.txpdo a).referenced = false)
    (operationRejected (commandName message))
  commandPositionAxes env axes positions (commandName message)

/-- The axes and distances of a relative move, with its profile velocity applied. -/
def prepareMoveRelative (message : Message F) : Server n F (List (Fin n) × List ℤ) := do
  let w ← Prog.get
  let axes ← Prog.lift (selectedAxes n message)
  let distances ← Prog.lift (axisDistancesFromMessage w message axes)
  applyMoveProfileVelocity message axes
  pure (axes, distances)

/-- `relative_target_positions`. -/
def World.relativeTargetPositions (w : World n F) (axes : List (Fin n)) (distances : List ℤ) :
    Fin n → F :=
  (axes.zip distances).foldl (fun positions (a, distance) =>
    Function.update positions a (positions a + PyFloat.ofInt distance)) w.actualPosition

/-- The targets of a relative move: the axes in order, an axis named twice is rounded twice. -/
def relativeTargets (w : World n F) (axes : List (Fin n)) (distances : List ℤ) :
    Except PyExc (Fin n → F) :=
  axes.foldlM (fun positions a => do
      pure (Function.update positions a (PyFloat.ofInt (← requireInt32 (positions a)))))
    (w.relativeTargetPositions axes distances)

/-- `move_relative`. -/
def moveRelative (env : Env n F) (message : Message F) : Server n F Unit := do
  let (axes, distances) ← rejecting (commandName message) (prepareMoveRelative message)
  let w ← Prog.get
  let positions ← Prog.lift (relativeTargets w axes distances)
  commandPositionAxes env axes positions (commandName message)

/-- `move_velocity`. -/
def moveVelocity (env : Env n F) (message : Message F) : Server n F Unit := do
  let w ← Prog.get
  let (axes, velocities) ← rejecting (commandName message) <| Prog.lift do
    let axes ← selectedAxes n message
    pure (axes, ← axisVelocitiesFromMessage w message axes)
  commandProfileVelocities env axes velocities (commandName message)

end MotionServer
