import MotionServer.Python.Float

/-!
# Axis units

A drive counts positions in its own unit, with a power of ten for each kind of quantity. The API
uses millimetres or degrees.

* `AxisUnits`: the unit settings of an axis;
* `AxisUnits.positionCountsPerApiUnit`, `AxisUnits.positionApiToDrive`,
  `AxisUnits.positionDriveToApi`, `AxisUnits.motionApiToDrive`: the conversions;
* **`AxisUnits.positionCountsPerApiUnit_pos`**: over `ℝ` the factor is positive.
-/

namespace MotionServer

/-- `converting_unit_exponents` of an axis. -/
structure UnitExponents where
  position : ℤ
  velocity : ℤ
  acceleration : ℤ
  jerk : ℤ
  deriving DecidableEq

/-- The unit settings that were read from an axis, where they could be read. -/
structure AxisUnits where
  userPositionUnit : Option ℤ
  convertingUnitExponents : Option UnitExponents
  deriving DecidableEq

/-- The quantities a motion value may be. -/
inductive MotionKind
  | velocity
  | acceleration
  | deceleration
  | jerk
  deriving DecidableEq

namespace AxisUnits

variable {F : Type} [PyFloat F]

/-- `unit in PV_USER_POSITION_UNITS`: radian, degree or revolution. -/
def isRotary (unit : ℤ) : Bool := unit == 0x1000 || unit == 0x4100 || unit == 0xB400

/-- `unit in LINEAR_USER_POSITION_UNITS`: metre. -/
def isLinear (unit : ℤ) : Bool := unit == 0x0100

/-- `pv_allowed`. -/
def pvAllowed (units : AxisUnits) : Bool := units.userPositionUnit.any isRotary

/-- `scale_from_exponent`: the sign of the exponent makes no difference. -/
def scaleFromExponent : Option ℤ → F
  | none => 1.0
  | some exponent => 1.0 / (10.0 : F) ^ exponent.natAbs

/-- `api_to_user_unit_factor`. -/
def apiToUserUnitFactor : Option ℤ → F
  | none => 1.0
  | some unit =>
    if isLinear unit then 0.001
    else if unit = 0x1000 then 3.141592653589793 / 180.0
    else if unit = 0x4100 then 1.0
    else if unit = 0xB400 then 1.0 / 360.0
    else 1.0

/-- `position_counts_per_api_unit`. -/
def positionCountsPerApiUnit (units : AxisUnits) : F :=
  if units.userPositionUnit.any fun unit => isLinear unit || isRotary unit then
    apiToUserUnitFactor units.userPositionUnit /
      pyMax (scaleFromExponent (units.convertingUnitExponents.map (·.position))) 1e-12
  else 1.0

/-- `position_drive_to_api`. -/
def positionDriveToApi (units : AxisUnits) (value : F) : F := value / units.positionCountsPerApiUnit

/-- `position_api_to_drive`. -/
def positionApiToDrive (units : AxisUnits) (value : F) : F := value * units.positionCountsPerApiUnit

/-- `_motion_scale`. -/
def motionScale (units : AxisUnits) (kind : MotionKind) : F :=
  pyMax (scaleFromExponent (units.convertingUnitExponents.map fun exponents =>
    match kind with
    | .velocity => exponents.velocity
    | .acceleration => exponents.acceleration
    | .deceleration => exponents.acceleration
    | .jerk => exponents.jerk)) 1e-12

/-- `motion_drive_to_api`. -/
def motionDriveToApi (units : AxisUnits) (value : F) (kind : MotionKind) : F :=
  value * units.motionScale kind / apiToUserUnitFactor units.userPositionUnit

/-- `motion_api_to_drive`. -/
def motionApiToDrive (units : AxisUnits) (value : F) (kind : MotionKind) : F :=
  value * apiToUserUnitFactor units.userPositionUnit / units.motionScale kind

theorem apiToUserUnitFactor_pos (unit : Option ℤ) : 0 < (apiToUserUnitFactor unit : ℝ) := by
  unfold apiToUserUnitFactor
  split
  · norm_num
  · split_ifs <;> norm_num

/-- **The position factor is positive.** -/
theorem positionCountsPerApiUnit_pos (units : AxisUnits) :
    0 < (units.positionCountsPerApiUnit : ℝ) := by
  unfold positionCountsPerApiUnit
  split_ifs
  · refine div_pos (apiToUserUnitFactor_pos _) ?_
    rw [pyMax_real]
    exact lt_max_of_lt_right (by norm_num)
  · norm_num

end AxisUnits

end MotionServer
