import MotionServer.Python.Float

/-!
# The CSP trajectory generator

One generator an axis. It plays timed points, or moves to a target with a trapezoid or a quintic
profile.

* `CspTrajectoryGenerator`, `setTargetPosition`, `reset`, `setTrajectoryMove`,
  `clearTrajectoryMove`: the state and what the controller writes to it;
* `CspTrajectoryGenerator.update`: one control cycle;
* `interpolatePointMoveSegment`, `interpolateCubicSegment`, `interpolateQuinticSegment`: the curves.
-/

namespace MotionServer

variable {F : Type} [PyFloat F]

/-- `csp_profile`. -/
inductive CspProfile
  | trapezoid
  | quintic
  deriving DecidableEq, Repr

/-- `trajectory_move_profile`. -/
inductive TrajectoryMoveProfile
  | pointMove
  | cubic
  | quintic
  deriving DecidableEq, Repr

/-- A timed point of one axis. -/
structure TimedPoint (F : Type) where
  position : F
  velocity : Option F
  acceleration : Option F
  timeFromStart : F
  deriving DecidableEq

/-- `point_move_profile_state`. -/
structure PointMoveProfile (F : Type) where
  start : F
  target : F
  distance : F
  duration : F
  elapsed : F
  deriving DecidableEq

/-- The state of a generator. -/
structure CspTrajectoryGenerator (F : Type) where
  commandPosition : F
  targetPosition : F
  commandVelocity : F
  commandAcceleration : F
  timedPoints : List (TimedPoint F)
  timedElapsed : F
  timedSegment : ℕ
  timedActive : Bool
  trajectoryMoveProfile : TrajectoryMoveProfile
  pointMoveProfileState : Option (PointMoveProfile F)
  cspProfile : CspProfile
  deriving DecidableEq

/-! ## The unit shapes -/

/-- `max(0.0, min(1.0, s))`. -/
def clampUnit (s : F) : F := pyMax 0.0 (pyMin 1.0 s)

/-- `max(0.0, min(duration, t))`. -/
def clampTime (duration t : F) : F := pyMax 0.0 (pyMin duration t)

/-- Position, velocity and acceleration of the trapezoid at the fraction `s` of its duration. -/
def trapezoidShape (s : F) : F × F × F :=
  let s := clampUnit s
  let peakVelocity : F := 4.0 / 3.0
  let acceleration : F := 16.0 / 3.0
  if s < 0.25 then
    (0.5 * acceleration * s * s, acceleration * s, acceleration)
  else if s ≤ 0.75 then
    (peakVelocity * s - 1.0 / 6.0, peakVelocity, 0.0)
  else
    let remaining := 1.0 - s
    (1.0 - 0.5 * acceleration * remaining * remaining, acceleration * remaining, -acceleration)

/-- Position, velocity and acceleration of the quintic at the fraction `s` of its duration. -/
def quinticShape (s : F) : F × F × F :=
  let s := clampUnit s
  (10.0 * s ^ 3 - 15.0 * s ^ 4 + 6.0 * s ^ 5,
    30.0 * s ^ 2 - 60.0 * s ^ 3 + 30.0 * s ^ 4,
    60.0 * s - 180.0 * s ^ 2 + 120.0 * s ^ 3)

/-! ## The segments -/

def interpolatePointMoveSegment (cspProfile : CspProfile) (start stop : TimedPoint F)
    (localTime duration : F) : F × F × F :=
  let duration := pyMax duration 1e-9
  let t := clampTime duration localTime
  let s := t / duration
  let distance := stop.position - start.position
  let shape := match cspProfile with
    | .trapezoid => trapezoidShape s
    | .quintic => quinticShape s
  (start.position + distance * shape.1, distance * shape.2.1 / duration,
    distance * shape.2.2 / (duration * duration))

def interpolateCubicSegment (start stop : TimedPoint F) (localTime duration : F) : F × F × F :=
  let duration := pyMax duration 1e-9
  let t := clampTime duration localTime
  let p0 := start.position
  let p1 := stop.position
  let v0 := orZero start.velocity
  let v1 := orZero stop.velocity
  let c0 := p0
  let c1 := v0
  let duration2 := duration * duration
  let duration3 := duration2 * duration
  let c2 := (3.0 * (p1 - p0) - (2.0 * v0 + v1) * duration) / duration2
  let c3 := (2.0 * (p0 - p1) + (v0 + v1) * duration) / duration3
  (c0 + c1 * t + c2 * t * t + c3 * t * t * t, c1 + 2.0 * c2 * t + 3.0 * c3 * t * t,
    2.0 * c2 + 6.0 * c3 * t)

/-- `c3`, `c4` and `c5` of the quintic with the given boundary values. -/
def quinticCoefficients (p0 p1 v0 v1 a0 a1 duration : F) : F × F × F :=
  let duration2 := duration * duration
  let duration3 := duration2 * duration
  let duration4 := duration3 * duration
  let duration5 := duration4 * duration
  ((20.0 * (p1 - p0) - (8.0 * v1 + 12.0 * v0) * duration - (3.0 * a0 - a1) * duration2) /
      (2.0 * duration3),
    (30.0 * (p0 - p1) + (14.0 * v1 + 16.0 * v0) * duration + (3.0 * a0 - 2.0 * a1) * duration2) /
      (2.0 * duration4),
    (12.0 * (p1 - p0) - (6.0 * v1 + 6.0 * v0) * duration - (a0 - a1) * duration2) /
      (2.0 * duration5))

/-- `c1 + 2 c2 t + 3 c3 t² + 4 c4 t³ + 5 c5 t⁴`. -/
def quinticVelocity (c1 c2 : F) (c : F × F × F) (t : F) : F :=
  c1 + 2.0 * c2 * t + 3.0 * c.1 * t * t + 4.0 * c.2.1 * t * t * t + 5.0 * c.2.2 * t * t * t * t

/-- `2 c2 + 6 c3 t + 12 c4 t² + 20 c5 t³`. -/
def quinticAcceleration (c2 : F) (c : F × F × F) (t : F) : F :=
  2.0 * c2 + 6.0 * c.1 * t + 12.0 * c.2.1 * t * t + 20.0 * c.2.2 * t * t * t

def interpolateQuinticSegment (start stop : TimedPoint F) (localTime duration : F) : F × F × F :=
  let duration := pyMax duration 1e-9
  let t := clampTime duration localTime
  let p0 := start.position
  let p1 := stop.position
  let v0 := orZero start.velocity
  let v1 := orZero stop.velocity
  let a0 := orZero start.acceleration
  let a1 := orZero stop.acceleration
  let c := quinticCoefficients p0 p1 v0 v1 a0 a1 duration
  let c0 := p0
  let c1 := v0
  let c2 := a0 / 2.0
  (c0 + c1 * t + c2 * t * t + c.1 * t * t * t + c.2.1 * t * t * t * t + c.2.2 * t * t * t * t * t,
    quinticVelocity c1 c2 c t, quinticAcceleration c2 c t)

/-! ## What the controller writes -/

/-- `_is_zero` of a present value. -/
def isZero (value : F) : Bool := decide (pyAbs value ≤ 1e-12)

/-- `_classify_trajectory_move_profile`. -/
def classifyTrajectoryMoveProfile (points : List (TimedPoint F)) : TrajectoryMoveProfile :=
  if points.any (fun point => point.velocity.isNone) ||
      points.all (fun point => point.velocity.any isZero) then
    .pointMove
  else if points.any (fun point => point.acceleration.isNone) ||
      points.all (fun point => point.acceleration.any isZero) then
    .cubic
  else
    .quintic

namespace CspTrajectoryGenerator

/-- `__init__`. -/
def init (initialPosition : F) (cspProfile : CspProfile) : CspTrajectoryGenerator F where
  commandPosition := initialPosition
  targetPosition := initialPosition
  commandVelocity := 0.0
  commandAcceleration := 0.0
  timedPoints := []
  timedElapsed := 0.0
  timedSegment := 0
  timedActive := false
  trajectoryMoveProfile := .pointMove
  pointMoveProfileState := none
  cspProfile := cspProfile

def setTargetPosition (g : CspTrajectoryGenerator F) (targetPosition : F) :
    CspTrajectoryGenerator F :=
  { g with
    targetPosition := targetPosition
    timedActive := false
    timedPoints := []
    pointMoveProfileState := none }

def reset (g : CspTrajectoryGenerator F) (position : F) : CspTrajectoryGenerator F :=
  { g with
    commandPosition := position
    targetPosition := position
    commandVelocity := 0.0
    commandAcceleration := 0.0
    timedPoints := []
    timedElapsed := 0.0
    timedSegment := 0
    timedActive := false
    trajectoryMoveProfile := .pointMove
    pointMoveProfileState := none }

def setTrajectoryMove (g : CspTrajectoryGenerator F) (points : List (TimedPoint F)) :
    CspTrajectoryGenerator F :=
  let g' := { g with
    timedPoints := points
    trajectoryMoveProfile := classifyTrajectoryMoveProfile points
    timedElapsed := 0.0
    timedSegment := 0
    timedActive := decide (2 ≤ points.length)
    pointMoveProfileState := none }
  match points with
  | [] => g'
  | first :: _ =>
    { g' with
      commandPosition := first.position
      targetPosition := first.position
      commandVelocity := orZero first.velocity
      commandAcceleration := orZero first.acceleration }

def clearTrajectoryMove (g : CspTrajectoryGenerator F) : CspTrajectoryGenerator F :=
  { g with
    timedPoints := []
    timedElapsed := 0.0
    timedSegment := 0
    timedActive := false
    trajectoryMoveProfile := .pointMove
    pointMoveProfileState := none }

/-! ## One control cycle -/

/-- `_find_timed_segment`: the first segment that ends at `elapsed` or later, or the last one. -/
def findTimedSegment (points : List (TimedPoint F)) (elapsed : F) : ℕ :=
  min (points.tail.findIdx fun point => decide (elapsed ≤ point.timeFromStart)) (points.length - 2)

/-- `_interpolate_trajectory_move_segment`. -/
def interpolateTrajectoryMoveSegment (profile : TrajectoryMoveProfile) (cspProfile : CspProfile)
    (start stop : TimedPoint F) (localTime duration : F) : F × F × F :=
  match profile with
  | .pointMove => interpolatePointMoveSegment cspProfile start stop localTime duration
  | .cubic => interpolateCubicSegment start stop localTime duration
  | .quintic => interpolateQuinticSegment start stop localTime duration

/-- What `_update_timed_trajectory` does where it ends: at the final waypoint, at rest unless the
profile has a final velocity or acceleration. -/
def finishTimed (g : CspTrajectoryGenerator F) (final : TimedPoint F) : CspTrajectoryGenerator F :=
  { g with
    commandPosition := final.position
    targetPosition := final.position
    commandVelocity :=
      if g.trajectoryMoveProfile = .pointMove then 0.0 else orZero final.velocity
    commandAcceleration :=
      if g.trajectoryMoveProfile = .quintic then orZero final.acceleration else 0.0
    timedSegment := g.timedPoints.length - 2
    timedActive := false }

/-- `_update_timed_trajectory`. -/
def updateTimedTrajectory (g : CspTrajectoryGenerator F) (cycleTime : F) :
    Except PyExc (CspTrajectoryGenerator F) :=
  match g.timedPoints.getLast? with
  | none => .ok { g with timedActive := false }
  | some final =>
    if final.timeFromStart ≤ g.timedElapsed then .ok (g.finishTimed final)
    else if final.timeFromStart - g.timedElapsed ≤ cycleTime * 0.5 then .ok (g.finishTimed final)
    else
      let segment := findTimedSegment g.timedPoints g.timedElapsed
      match g.timedPoints[segment]?, g.timedPoints[segment + 1]? with
      | some start, some stop =>
        let segmentStart := start.timeFromStart
        let duration := stop.timeFromStart - segmentStart
        let localTime := g.timedElapsed - segmentStart
        let curve := interpolateTrajectoryMoveSegment g.trajectoryMoveProfile g.cspProfile start
          stop localTime duration
        .ok { g with
          timedSegment := segment
          commandPosition := curve.1
          commandVelocity := curve.2.1
          commandAcceleration := curve.2.2
          targetPosition := curve.1
          timedElapsed := g.timedElapsed + cycleTime }
      | _, _ => .error .indexError

/-- `_crossed_target`. -/
def crossedTarget (g : CspTrajectoryGenerator F) (nextPosition : F) : Bool :=
  if g.commandPosition ≤ g.targetPosition then decide (g.targetPosition ≤ nextPosition)
  else decide (nextPosition ≤ g.targetPosition)

/-- At the target, at rest. -/
def settle (g : CspTrajectoryGenerator F) : CspTrajectoryGenerator F :=
  { g with
    commandPosition := g.targetPosition
    commandVelocity := 0.0
    commandAcceleration := 0.0 }

/-- `_update_trapezoid`. -/
def updateTrapezoid (g : CspTrajectoryGenerator F) (cycleTime maxVelocity acceleration
    deceleration : F) : CspTrajectoryGenerator F :=
  let error := g.targetPosition - g.commandPosition
  if pyAbs error ≤ 1e-9 ∧ pyAbs g.commandVelocity ≤ 1e-9 then g.settle
  else
    let direction : F := if 0.0 ≤ error then 1.0 else -1.0
    let distanceRemaining := pyAbs error
    let brakingDistance :=
      g.commandVelocity * g.commandVelocity / (2.0 * pyMax deceleration 1e-9)
    let desiredVelocity :=
      if distanceRemaining ≤ brakingDistance then 0.0 else direction * maxVelocity
    let deltaV := desiredVelocity - g.commandVelocity
    let velocityLimit :=
      if pyAbs g.commandVelocity < pyAbs desiredVelocity then acceleration else deceleration
    let maxDeltaV := velocityLimit * cycleTime
    let deltaV := pyMax (pyMin deltaV maxDeltaV) (-maxDeltaV)
    let g' := { g with
      commandVelocity := g.commandVelocity + deltaV
      commandAcceleration := (g.commandVelocity + deltaV - g.commandVelocity) / cycleTime }
    let nextPosition := g'.commandPosition + g'.commandVelocity * cycleTime
    if g'.crossedTarget nextPosition then g'.settle
    else { g' with commandPosition := nextPosition }

/-- `_create_quintic_point_move`. -/
def createQuinticPointMove (start target maxVelocity acceleration deceleration jerk : F) :
    PointMoveProfile F :=
  let distance := target - start
  let absDistance := pyAbs distance
  let duration :=
    if absDistance ≤ 1e-9 then 0.0
    else
      let velocityTime := 1.875 * absDistance / pyMax maxVelocity 1e-9
      let accelTime :=
        PyFloat.sqrt (5.773502691896258 * absDistance / pyMax acceleration 1e-9)
      let decelTime :=
        PyFloat.sqrt (5.773502691896258 * absDistance / pyMax deceleration 1e-9)
      let jerkTime := PyFloat.cbrt (60.0 * absDistance / pyMax jerk 1e-9)
      pyMax (pyMax (pyMax velocityTime accelTime) decelTime) jerkTime
  { start, target, distance, duration, elapsed := 0.0 }

/-- `_update_quintic_point_move`. -/
def updateQuinticPointMove (g : CspTrajectoryGenerator F) (cycleTime maxVelocity acceleration
    deceleration jerk : F) : CspTrajectoryGenerator F :=
  let create := createQuinticPointMove g.commandPosition g.targetPosition maxVelocity acceleration
    deceleration jerk
  let profile := match g.pointMoveProfileState with
    | none => create
    | some profile => if pyEq profile.target g.targetPosition then profile else create
  let duration := profile.duration
  let elapsed := pyMin (profile.elapsed + cycleTime) duration
  let elapsed := if duration - elapsed ≤ cycleTime * 0.5 then duration else elapsed
  if duration ≤ 0.0 then { g.settle with pointMoveProfileState := none }
  else
    let s := clampUnit (elapsed / duration)
    let distance := profile.distance
    let blend := 10.0 * s ^ 3 - 15.0 * s ^ 4 + 6.0 * s ^ 5
    let blendVelocity := 30.0 * s ^ 2 - 60.0 * s ^ 3 + 30.0 * s ^ 4
    let blendAcceleration := 60.0 * s - 180.0 * s ^ 2 + 120.0 * s ^ 3
    if duration ≤ elapsed then { g.settle with pointMoveProfileState := none }
    else
      { g with
        commandPosition := profile.start + distance * blend
        commandVelocity := distance * blendVelocity / duration
        commandAcceleration := distance * blendAcceleration / (duration * duration)
        pointMoveProfileState := some { profile with elapsed := elapsed } }

/-- `update`. The new command position is `commandPosition` of the result. -/
def update (g : CspTrajectoryGenerator F) (cycleTime maxVelocity acceleration deceleration
    jerk : F) : Except PyExc (CspTrajectoryGenerator F) :=
  let cycleTime := pyMax cycleTime 1e-9
  let maxVelocity := pyMax maxVelocity 0.0
  let acceleration := pyMax acceleration 1e-9
  let deceleration := pyMax deceleration 1e-9
  if g.timedActive then g.updateTimedTrajectory cycleTime
  else if g.cspProfile = .trapezoid then
    .ok ({ g with pointMoveProfileState := none }.updateTrapezoid cycleTime maxVelocity acceleration
      deceleration)
  else if jerk ≤ 0.0 then .error .valueError
  else .ok (g.updateQuinticPointMove cycleTime maxVelocity acceleration deceleration jerk)

end CspTrajectoryGenerator

end MotionServer
