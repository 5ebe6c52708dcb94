import MotionServer.Control.CspTrajectoryGenerator

/-!
# The trajectory verifier

The points of a trajectory carry one value for each of its `m` axes. The verifier compares each
segment with the limits of each axis.

* `TrajectoryPoint`, `axisTimedPoints`;
* `requiredSegmentDurationForAxis`: the shortest duration the verifier grants a segment;
* **`validateTrajectoryLimits`**: `none` is the empty error text, an acceptance.
-/

namespace MotionServer

variable {F : Type} [PyFloat F] {n m : ℕ}

/-- A normalized trajectory point of `m` axes. -/
structure TrajectoryPoint (F : Type) (m : ℕ) where
  positions : Fin m → F
  velocities : Option (Fin m → F)
  accelerations : Option (Fin m → F)
  timeFromStart : F

/-- The point seen by one axis. -/
def TrajectoryPoint.onAxis (point : TrajectoryPoint F m) (localIndex : Fin m) : TimedPoint F where
  position := point.positions localIndex
  velocity := point.velocities.map (· localIndex)
  acceleration := point.accelerations.map (· localIndex)
  timeFromStart := point.timeFromStart

/-- `axis_timed_points`. -/
def axisTimedPoints (points : List (TrajectoryPoint F m)) (localIndex : Fin m) :
    List (TimedPoint F) :=
  points.map (·.onAxis localIndex)

/-- `AxisMotionLimits`. -/
structure AxisMotionLimits (F : Type) where
  maxVelocity : F
  acceleration : F
  deceleration : F
  jerk : F

/-- What the verifier reads of the runtime: the cycle time, and the limits and the position scale of
each axis. -/
structure MotionSettings (n : ℕ) (F : Type) where
  cycleTime : F
  motionLimits : Fin n → AxisMotionLimits F
  positionCountsPerApiUnit : Fin n → F

namespace MotionSettings

variable (settings : MotionSettings n F) (axisIndex : Fin n)

def velocityLimit : F :=
  (settings.motionLimits axisIndex).maxVelocity * settings.positionCountsPerApiUnit axisIndex

def accelerationLimit : F :=
  (settings.motionLimits axisIndex).acceleration * settings.positionCountsPerApiUnit axisIndex

def decelerationLimit : F :=
  (settings.motionLimits axisIndex).deceleration * settings.positionCountsPerApiUnit axisIndex

/-- `accel_limit` of the duration estimates. -/
def accelLimit : F :=
  pyMin (pyMax (settings.accelerationLimit axisIndex) 1e-9)
    (pyMax (settings.decelerationLimit axisIndex) 1e-9)

end MotionSettings

/-! ## Durations -/

/-- `trajectory_point_value` with the default `0.0`. -/
def trajectoryPointValue (values : Option (Fin m → F)) (localIndex : Fin m) : F :=
  match values with
  | none => 0.0
  | some values => values localIndex

/-- `estimate_trajectory_duration`. -/
def estimateTrajectoryDuration (settings : MotionSettings n F) (axes : Fin m → Fin n)
    (current target : Fin m → F) : F :=
  let duration := (List.finRange m).foldl (fun duration localIndex =>
    let distance := pyAbs (target localIndex - current localIndex)
    let maxVelocity := pyMax (settings.velocityLimit (axes localIndex)) 1e-9
    let accelLimit := settings.accelLimit (axes localIndex)
    pyMax (pyMax duration (1.875 * distance / maxVelocity))
      (PyFloat.sqrt (5.773502691896258 * distance / accelLimit))) 0.0
  pyMax duration settings.cycleTime

/-- `sample_segment_peaks`. -/
def sampleSegmentPeaks (previous current : TrajectoryPoint F m) (localIndex : Fin m)
    (duration : F) : F × F :=
  let duration := pyMax duration 1e-9
  let p0 := previous.positions localIndex
  let p1 := current.positions localIndex
  let v0 := trajectoryPointValue previous.velocities localIndex
  let v1 := trajectoryPointValue current.velocities localIndex
  let a0 := trajectoryPointValue previous.accelerations localIndex
  let a1 := trajectoryPointValue current.accelerations localIndex
  let c1 := v0
  let c2 := a0 / 2.0
  let c := quinticCoefficients p0 p1 v0 v1 a0 a1 duration
  (List.range 65).foldl (fun peaks sampleIndex =>
    let t := duration * PyFloat.ofInt sampleIndex / 64.0
    (pyMax peaks.1 (pyAbs (quinticVelocity c1 c2 c t)),
      pyMax peaks.2 (pyAbs (quinticAcceleration c2 c t)))) (0.0, 0.0)

/-- The loop of `required_segment_duration_for_axis`, at most `fuel` rounds long. -/
def stretchDuration (previous current : TrajectoryPoint F m) (localIndex : Fin m)
    (velocityLimit accelLimit : F) : ℕ → F → F
  | 0, duration => duration
  | fuel + 1, duration =>
    let peaks := sampleSegmentPeaks previous current localIndex duration
    let velocityRatio := peaks.1 / velocityLimit
    let accelerationRatio := peaks.2 / accelLimit
    let ratio := pyMax (pyMax velocityRatio (PyFloat.sqrt accelerationRatio)) 1.0
    if ratio ≤ 1.0001 then duration
    else stretchDuration previous current localIndex velocityLimit accelLimit fuel
      (duration * pyMin (pyMax ratio 1.02) 2.0)

/-- `required_segment_duration_for_axis`. -/
def requiredSegmentDurationForAxis (settings : MotionSettings n F) (axisIndex : Fin n)
    (previous current : TrajectoryPoint F m) (localIndex : Fin m) (initialDt : F) : F :=
  let distance := pyAbs (current.positions localIndex - previous.positions localIndex)
  if distance ≤ 1e-9 then pyMax initialDt settings.cycleTime
  else
    let velocityLimit := pyMax (settings.velocityLimit axisIndex) 1e-9
    let accelLimit := settings.accelLimit axisIndex
    let duration :=
      pyMax (pyMax (pyMax initialDt (1.875 * distance / velocityLimit))
        (PyFloat.sqrt (5.773502691896258 * distance / accelLimit))) settings.cycleTime
    if previous.velocities.isNone && current.velocities.isNone then duration
    else stretchDuration previous current localIndex velocityLimit accelLimit 24 duration

/-! ## Limits -/

/-- The error texts of `validate_trajectory_limits`, with the numbers they show. -/
inductive TrajectoryLimitError (n : ℕ) (F : Type)
  | segmentTime (segment : ℕ)
  | segmentLimits (axisIndex : Fin n) (segment : ℕ) (requestedDt requiredDt start stop : F)
  | waypointVelocity (axisIndex : Fin n) (required limit : F)
  | waypointAcceleration (axisIndex : Fin n) (required limit : F)
  | segmentAcceleration (axisIndex : Fin n) (required limit : F)

/-- The limit an acceleration is compared with: by its sign. -/
def MotionSettings.signedLimit (settings : MotionSettings n F) (axisIndex : Fin n) (accel : F) : F :=
  if 0.0 ≤ accel then settings.accelerationLimit axisIndex
  else settings.decelerationLimit axisIndex

/-- The waypoint checks of one point. -/
def validateWaypoint (settings : MotionSettings n F) (axisIndex : Fin n)
    (point : TrajectoryPoint F m) (localIndex : Fin m) : Option (TrajectoryLimitError n F) :=
  let velocityError : Option (TrajectoryLimitError n F) := match point.velocities with
    | none => none
    | some velocities =>
      let required := pyAbs (velocities localIndex)
      if settings.velocityLimit axisIndex + 1e-9 < required then
        some (.waypointVelocity axisIndex required (settings.velocityLimit axisIndex))
      else none
  velocityError.or <| match point.accelerations with
    | none => none
    | some accelerations =>
      let required := accelerations localIndex
      let limit := settings.signedLimit axisIndex required
      if limit + 1e-9 < pyAbs required then some (.waypointAcceleration axisIndex required limit)
      else none

/-- The accelerations at the ends of the cubic segment, `2 a2` and `2 a2 + 6 a3 dt`. -/
def cubicEndAccelerations (start stop startVelocity stopVelocity dt : F) : F × F :=
  let a2 := (3.0 * (stop - start) / dt - 2.0 * startVelocity - stopVelocity) / dt
  let a3 := (2.0 * (start - stop) / dt + startVelocity + stopVelocity) / (dt * dt)
  (2.0 * a2, 2.0 * a2 + 6.0 * a3 * dt)

def validateSegmentAcceleration (settings : MotionSettings n F) (axisIndex : Fin n) (accel : F) :
    Option (TrajectoryLimitError n F) :=
  let limit := settings.signedLimit axisIndex accel
  if limit + 1e-9 < pyAbs accel then some (.segmentAcceleration axisIndex accel limit) else none

/-- The checks of one segment for one axis. -/
def validateSegmentAxis (settings : MotionSettings n F) (segment : ℕ) (axisIndex : Fin n)
    (previous current : TrajectoryPoint F m) (localIndex : Fin m) :
    Option (TrajectoryLimitError n F) :=
  let dt := current.timeFromStart - previous.timeFromStart
  let start := previous.positions localIndex
  let stop := current.positions localIndex
  let requiredDt := requiredSegmentDurationForAxis settings axisIndex previous current localIndex
    settings.cycleTime
  if dt + 1e-9 < requiredDt then some (.segmentLimits axisIndex segment dt requiredDt start stop)
  else
    (validateWaypoint settings axisIndex previous localIndex).or <|
    (validateWaypoint settings axisIndex current localIndex).or <|
    if previous.velocities.isSome || current.velocities.isSome then
      let accels := cubicEndAccelerations start stop
        (trajectoryPointValue previous.velocities localIndex)
        (trajectoryPointValue current.velocities localIndex) dt
      (validateSegmentAcceleration settings axisIndex accels.1).or
        (validateSegmentAcceleration settings axisIndex accels.2)
    else none

/-- The checks of one segment. -/
def validateSegment (settings : MotionSettings n F) (axes : Fin m → Fin n) (segment : ℕ)
    (previous current : TrajectoryPoint F m) : Option (TrajectoryLimitError n F) :=
  if current.timeFromStart - previous.timeFromStart ≤ 0.0 then some (.segmentTime segment)
  else (List.finRange m).findSome? fun localIndex =>
    validateSegmentAxis settings segment (axes localIndex) previous current localIndex

/-- `validate_trajectory_limits`: the first error, segment by segment and axis by axis. -/
def validateTrajectoryLimits (settings : MotionSettings n F) (axes : Fin m → Fin n)
    (points : List (TrajectoryPoint F m)) : Option (TrajectoryLimitError n F) :=
  go 1 points
where
  go (segment : ℕ) : List (TrajectoryPoint F m) → Option (TrajectoryLimitError n F)
    | previous :: current :: rest =>
      (validateSegment settings axes segment previous current).or (go (segment + 1) (current :: rest))
    | _ => none

end MotionServer
