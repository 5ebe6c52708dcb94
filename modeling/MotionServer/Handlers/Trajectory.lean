import MotionServer.Handlers.AxisState

/-!
# Trajectories

* `TrajectoryRequest`, `trajectoryRequest`: the axes and points of a request, checked;
* **`move`**: the handler, `rejectTrajectory` and `faultTrajectory` its refusals;
* `trajectoryStop`;
* **`updateActive`**: what a cycle does with the active trajectory.
-/

namespace MotionServer

variable {n : ℕ} {F : Type} [PyFloat F]

/-! ## Requests -/

/-- The axes and points of a trajectory. -/
structure TrajectoryRequest (n : ℕ) (F : Type) where
  {m : ℕ}
  axes : Fin m → Fin n
  points : List (TrajectoryPoint F m)

/-- The axes of the list that exist, if all of them do. -/
def trajectoryAxes (n : ℕ) (axes : List ℤ) : Option (List (Fin n)) := axes.mapM (toAxis n)

/-- The checks of a request in drive units: what is `none` here is refused with
`reject_trajectory`. -/
def trajectoryRequest (n : ℕ) (message : Message F) :
    Except PyExc (Option (TrajectoryRequest n F)) := do
  let axes ← messageAxes n (message.getD "axes" (.list []))
  match normalizeTrajectoryPoints axes.length (message.getD "points" (.list [])) with
  | .error e => if e.isTypeOrValueError then pure none else throw e
  | .ok points =>
    if h : ∀ i : Fin axes.length, (toAxis n axes[i]).isSome then
      if points = [] then pure none
      else pure (some { axes := fun i => (toAxis n axes[i]).get (h i), points := points })
    else pure none

/-- `reject_trajectory`. -/
def rejectTrajectory : Server n F Unit := do
  Prog.modify fun w => { w with trajectory := inactiveTrajectoryState .rejected }
  throw (operationRejected "system/axes/trajectory")

/-- `fault_trajectory`. -/
def faultTrajectory : Server n F Unit := do
  Prog.modify fun w => { w with trajectory := inactiveTrajectoryState .fault }
  throw (operationRejected "system/axes/trajectory")

/-- `command_positions`. -/
def World.commandPositions {m : ℕ} (w : World n F) (axes : Fin m → Fin n) : Fin m → F :=
  fun i => (w.generators (axes i)).commandPosition

/-- A single point is expanded to a move from the commanded positions. -/
def expandSinglePoint {m : ℕ} (w : World n F) (axes : Fin m → Fin n)
    (points : List (TrajectoryPoint F m)) : List (TrajectoryPoint F m) :=
  match points with
  | [point] =>
    let current := w.commandPositions axes
    let duration := estimateTrajectoryDuration w.settings axes current point.positions
    [{ positions := current, velocities := none, accelerations := none, timeFromStart := 0.0 },
      { positions := point.positions, velocities := none, accelerations := none,
        timeFromStart := duration }]
  | points => points

/-- `same_trajectory_target`. -/
def TrajectoryState.sameTarget (trajectory : TrajectoryState n F) {m : ℕ} (axes : Fin m → Fin n)
    (points : List (TrajectoryPoint F m)) : Bool :=
  trajectory.active && decide (List.ofFn trajectory.axes = List.ofFn axes) &&
    match trajectory.points.getLast?, points.getLast? with
    | some activePoint, some point =>
      ((List.ofFn activePoint.positions).zip (List.ofFn point.positions)).all
        fun (activeValue, value) => decide (pyAbs (activeValue - value) ≤ 1e-6)
    | _, _ => false

/-- The start of an accepted trajectory. -/
def startTrajectory {m : ℕ} (axes : Fin m → Fin n) (points : List (TrajectoryPoint F m)) :
    Server n F Unit := do
  setAxisTrajectories axes points
  (List.finRange m).forM fun i => Prog.modify fun w => w.setRxpdo (axes i) fun rx =>
    { rx with modeOfOperation := MotionMode.csp.code, controlword := 0x000F }
  Prog.modify fun w => { w with
    trajectory :=
      { active := true
        state := .running
        m := m
        axes := axes
        segment := 0
        timeFromStart := 0.0
        points := points } }

/-- `move` from where every axis is in CSP mode: the duplicate of the active trajectory is ignored
and the limits are checked. -/
def moveInCsp {m : ℕ} (axes : Fin m → Fin n) (points : List (TrajectoryPoint F m)) :
    Server n F Unit := do
  let w ← Prog.get
  let points := expandSinglePoint w axes points
  if w.trajectory.sameTarget axes points = true then pure ()
  else if (validateTrajectoryLimits w.settings axes points).isSome then faultTrajectory
  else startTrajectory axes points

/-- `move` of checked axes and points. -/
def moveRequest (request : TrajectoryRequest n F) : Server n F Unit := do
  let axes := List.ofFn request.axes
  let w ← Prog.get
  if w.faultedAxes ≠ [] then
    holdFaultedAxes
    syncTrajectoryToActualPositions
    rejectTrajectory
  else if w.disabledOperationAxes axes ≠ [] then rejectTrajectory
  else
    ensureCspMode axes
    moveInCsp request.axes request.points

/-- `move` of a message in drive units. -/
def move (message : Message F) : Server n F Unit := do
  match ← Prog.lift (trajectoryRequest n message) with
  | none => rejectTrajectory
  | some request => moveRequest request

/-- `move_api`. -/
def moveApi (message : Message F) : Server n F Unit := do
  let w ← Prog.get
  let converted ← Prog.lift (trajectoryMessageApiToDrive w.units message)
  move converted

/-! ## Stop -/

/-- `stop_rejected`. -/
def rejectStop (e : PyExc) : Server n F Unit := do
  Prog.modify fun w => { w with trajectory := inactiveTrajectoryState .stopRejected }
  throw e

/-- `stop` of checked axes. -/
def holdTrajectory (axes : List (Fin n)) : Server n F Unit := do
  ensureCspMode axes
  let w ← Prog.get
  Prog.modify fun w => { w with targetPositions := w.actualPosition }
  setTargetPositions w.actualPosition
  syncTrajectoryToActualPositions
  commandCspPositions w.actualPosition axes

/-- `stop`. -/
def trajectoryStop (message : Message F) : Server n F Unit := do
  if lowerText message "mode" "controlled" ≠ "controlled" then
    rejectStop (.motionServer (.unsupportedOperation (commandName message) "stop_mode"))
  else
    Prog.modify fun w => { w with trajectory := inactiveTrajectoryState .stopped }
    match selectedAxes n message with
    | .error e => rejectStop e
    | .ok axes =>
      rejectIfAnyAxisDisabled axes (commandName message)
      holdTrajectory axes

/-! ## Playback -/

/-- Whether `update_active` completes the trajectory. -/
def World.Completes (w : World n F) : Prop :=
  let progress := w.trajectoryProgress w.trajectory.axes
  progress.active = false ∨
    ∃ final ∈ w.trajectory.points.getLast?, final.timeFromStart ≤ progress.elapsed

instance (w : World n F) : Decidable w.Completes := inferInstanceAs (Decidable (_ ∨ _))

/-- The targets that `update_active` takes over from the generators. -/
def World.playedTargets (w : World n F) : Fin n → F :=
  updateEach w.trajectory.axes
    (fun i _ => (w.generators (w.trajectory.axes i)).commandPosition) w.targetPositions

/-- `update_active`. -/
def updateActive : Server n F Unit := do
  let w ← Prog.get
  Prog.onlyIf (w.trajectory.active = true) do
    let progress := w.trajectoryProgress w.trajectory.axes
    Prog.modify fun w => { w with
      targetPositions := w.playedTargets
      trajectory := { w.trajectory with
        timeFromStart := progress.elapsed
        segment := progress.segment } }
    match w.trajectory.points.getLast? with
    | none => throw .indexError
    | some final =>
      Prog.onlyIf w.Completes do
        completeTrajectory w.trajectory.axes final.positions
        Prog.modify fun w' => { w' with
          targetPositions :=
            updateEach w.trajectory.axes (fun i _ => final.positions i) w'.targetPositions
          trajectory := { w'.trajectory with
            active := false
            state := .complete
            segment := w.trajectory.points.length - 2 } }

end MotionServer
