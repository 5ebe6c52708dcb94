import MotionServer.Device.AxisUnits
import MotionServer.Device.Drive
import MotionServer.Device.StateMachine
import Mathlib.Data.Int.Bitwise

/-!
# The virtual drive

* `ServoOd`, `OdWrite`: the objects of the dictionary that the drive uses, and writes to them;
* `VirtualCiA402Servo`: the drive;
* `VirtualCiA402Servo.applyOdCommands`: a reset, a new mode and a new target;
* `processPp`, `processPv`, `processJog`, `processCsp`, `processHoming`: one cycle in each mode;
* `VirtualCiA402Servo.modelUpdate`: one cycle.

The numbers of the dictionary are integers of 32 bits or floats, so they are kept as floats.
-/

namespace MotionServer

variable {F : Type}

/-! ## The object dictionary -/

/-- Objects with an integer that the drive reads. -/
inductive OdCommand
  | controlword
  | modeOfOperation
  | deviceResetCommand
  | parameterSaveCommand
  | positionExponent
  | velocityExponent
  | accelerationExponent
  deriving DecidableEq

/-- Objects with a number that the drive reads. -/
inductive OdParameter
  | targetPosition
  | targetVelocity
  | profileVelocity
  | profileAcceleration
  | profileDeceleration
  | positiveVelocityLimit
  | negativeVelocityLimit
  | positionWindow
  | positionWindowTime
  | negativeSoftwareLimit
  | positiveSoftwareLimit
  deriving DecidableEq

/-- The objects of the dictionary, with those that the drive only reports. -/
structure ServoOd (F : Type) where
  command : OdCommand → ℤ
  parameter : OdParameter → F
  statusword : BitVec 16
  modeOfOperationDisplay : ℤ
  actualPosition : F
  actualVelocity : F
  parameterSaveStatus : ℤ
  parameterSaveReturnCode : ℤ
  parameterSaveReturnValue : ℤ

/-- A write to the dictionary. -/
inductive OdWrite (F : Type)
  | command (object : OdCommand) (value : ℤ)
  | parameter (object : OdParameter) (value : F)

namespace ServoOd

/-- `write`. -/
def write (od : ServoOd F) : OdWrite F → ServoOd F
  | .command object value => { od with command := Function.update od.command object value }
  | .parameter object value => { od with parameter := Function.update od.parameter object value }

def controlword (od : ServoOd F) : ℤ := od.command .controlword

def modeOfOperation (od : ServoOd F) : ℤ := od.command .modeOfOperation

def targetPosition (od : ServoOd F) : F := od.parameter .targetPosition

end ServoOd

/-- What the drive is configured with. -/
structure ServoProfile (F : Type) where
  cycleTime : F
  pdoConfiguration : PdoConfiguration
  nonPdoConfiguration : List (OdWrite F)

/-- The parameter that a field of the receive process data is mapped to. -/
def RxField.odParameter : RxField → Option OdParameter
  | .targetPosition => some .targetPosition
  | .profileVelocity => some .profileVelocity
  | .targetVelocity => some .targetVelocity
  | _ => none

namespace ServoOd

variable [PyFloat F] (profile : ServoProfile F)

/-- `reset_non_pdo_configuration`. -/
def resetNonPdoConfiguration (od : ServoOd F) : ServoOd F :=
  profile.nonPdoConfiguration.foldl write od

/-- `reset_pdo_values`: the objects that are mapped to process data get their defaults. -/
def resetPdoValues (od : ServoOd F) : ServoOd F :=
  let mapped := profile.pdoConfiguration.rxFields.filterMap RxField.odParameter
  let od := mapped.foldl (fun od object => od.write (.parameter object 0.0)) od
  let od := (od.write (.command .controlword 0)).write (.command .modeOfOperation 8)
  { od with
    statusword := 0x0040
    modeOfOperationDisplay := 8
    actualPosition := 0.0
    actualVelocity := 0.0 }

/-- The dictionary of a new drive. -/
def init : ServoOd F :=
  let zeros : ServoOd F := ⟨fun _ => 0, fun _ => 0.0, 0, 0, 0.0, 0.0, 0, 0, 0⟩
  (zeros.resetNonPdoConfiguration profile).resetPdoValues profile

end ServoOd

/-! ## The drive -/

/-- `VirtualCiA402Servo`. -/
structure VirtualCiA402Servo (F : Type) where
  od : ServoOd F
  sm : CiA402State
  actualPosition : F
  actualVelocity : F
  kp : F
  targetReached : Bool
  windowCounter : ℤ
  previousControlword : ℤ
  ppActive : Bool
  ppTargetPosition : F
  ppSetpointAck : Bool
  haltActive : Bool
  homingActive : Bool
  homingCounter : ℤ
  homingReferenced : Bool
  homingError : Bool
  softwareLimitWarning : Bool
  positionTargetRejected : Bool
  lastModeCommand : ℤ
  lastTargetPositionCommand : F
  lastDeviceResetCommand : ℤ
  lastParameterSaveCommand : ℤ

/-- `int(x)` of a finite number. -/
def pyTrunc [PyFloat F] (x : F) : ℤ :=
  match PyFloat.truncInt x with
  | .ok i => i
  | .error _ => 0

/-- `_unit_scale`, not below `1e-12`. -/
def unitScale [PyFloat F] (exponent : ℤ) : F :=
  pyMax (AxisUnits.scaleFromExponent (some exponent)) 1e-12

namespace VirtualCiA402Servo

variable [PyFloat F] (profile : ServoProfile F) (servo : VirtualCiA402Servo F)

def parameter (object : OdParameter) : F := servo.od.parameter object

/-- `get_statusword() == 0x0027`. -/
def operationEnabled : Bool := servo.sm = .operationEnabled

/-- A bit of the control word. -/
def controlBit (bit : ℕ) : Bool := servo.od.controlword.testBit bit

/-- A bit of the control word that was not set in the cycle before. -/
def risingBit (bit : ℕ) : Bool := servo.controlBit bit && !servo.previousControlword.testBit bit

/-! ### Scales -/

def positionScale : F := unitScale (servo.od.command .positionExponent)

def velocityScale : F := unitScale (servo.od.command .velocityExponent)

def accelerationScale : F := unitScale (servo.od.command .accelerationExponent)

/-- `_velocity_to_position_rate`. -/
def velocityToPositionRate (velocity : F) : F :=
  velocity * servo.velocityScale / servo.positionScale

/-- `_position_rate_to_velocity`. -/
def positionRateToVelocity (positionRate : F) : F :=
  positionRate * servo.positionScale / servo.velocityScale

/-- `_acceleration_to_position_rate`. -/
def accelerationToPositionRate (acceleration : F) : F :=
  acceleration * servo.accelerationScale / servo.positionScale

/-- `_acceleration_to_velocity_delta` in one cycle. -/
def accelerationToVelocityDelta (acceleration : F) : F :=
  acceleration * servo.accelerationScale / servo.velocityScale * profile.cycleTime

/-! ### Feedback -/

/-- `_write_actual_feedback`. -/
def writeActualFeedback : VirtualCiA402Servo F :=
  { servo with
    od := { servo.od with
      actualPosition := servo.actualPosition
      actualVelocity := servo.actualVelocity } }

/-- `set_target_position` of the dictionary. -/
def writeTarget (position : F) : VirtualCiA402Servo F :=
  { servo with od := servo.od.write (.parameter .targetPosition position) }

/-- `stop_at_current_position`. -/
def stopAtCurrentPosition : VirtualCiA402Servo F :=
  let stopped := { servo with
    actualVelocity := 0.0
    ppActive := false
    ppTargetPosition := servo.actualPosition
    lastTargetPositionCommand := servo.actualPosition
    windowCounter := 0
    targetReached := true }
  (stopped.writeTarget servo.actualPosition).writeActualFeedback

/-- `is_in_position`. -/
def isInPosition : Bool :=
  pyAbs (servo.od.targetPosition - servo.od.actualPosition) ≤ servo.parameter .positionWindow

/-- `update_target_reached`. -/
def updateTargetReached : VirtualCiA402Servo F :=
  let counted := if servo.isInPosition then { servo with windowCounter := servo.windowCounter + 1 }
    else { servo with windowCounter := 0, targetReached := false }
  let requiredCount :=
    max 1 (pyTrunc (servo.parameter .positionWindowTime / (profile.cycleTime * 1000.0)))
  if requiredCount ≤ counted.windowCounter then { counted with targetReached := true } else counted

/-- `_software_position_limits`. -/
def softwarePositionLimits : F × F :=
  let negativeLimit := servo.parameter .negativeSoftwareLimit
  let positiveLimit := servo.parameter .positiveSoftwareLimit
  if positiveLimit < negativeLimit then (positiveLimit, negativeLimit)
  else (negativeLimit, positiveLimit)

/-- `_position_target_is_within_software_limits`. -/
def positionTargetIsWithinSoftwareLimits (position : F) : Bool :=
  servo.softwarePositionLimits.1 ≤ position ∧ position ≤ servo.softwarePositionLimits.2

/-- `_actual_position_exceeds_software_limits`. -/
def actualPositionExceedsSoftwareLimits : Bool :=
  servo.actualPosition < servo.softwarePositionLimits.1 ∨
    servo.softwarePositionLimits.2 < servo.actualPosition

/-! ### Commands of the dictionary -/

/-- `set_mode` with a mode that the drive was in before. -/
def setMode (mode previousMode : ℤ) : VirtualCiA402Servo F :=
  let left :=
    if mode ≠ previousMode then
      if mode ≠ 6 then
        { servo.stopAtCurrentPosition with homingActive := false, homingError := false }
      else servo.stopAtCurrentPosition
    else servo
  { left with
    od := { left.od.write (.command .modeOfOperation mode) with modeOfOperationDisplay := mode }
    lastModeCommand := mode }

/-- `_position_command_requires_reference`. -/
def positionCommandRequiresReference : Bool :=
  servo.od.modeOfOperation = 1 ∨ servo.od.modeOfOperation = 8

/-- A target that is accepted. -/
def acceptTarget (position previousTarget : F) : VirtualCiA402Servo F :=
  { servo with
    positionTargetRejected := false
    softwareLimitWarning := servo.actualPositionExceedsSoftwareLimits && servo.softwareLimitWarning
    targetReached := pyEq position previousTarget && servo.targetReached
    windowCounter := if pyEq position previousTarget then servo.windowCounter else 0
    lastTargetPositionCommand := position }.writeTarget position

/-- `set_target_position` with the target before. -/
def setTargetPosition (position previousTarget : F) : VirtualCiA402Servo F :=
  if servo.positionCommandRequiresReference ∧ servo.homingReferenced = false then
    { servo.writeTarget previousTarget with lastTargetPositionCommand := previousTarget }
  else if servo.positionTargetIsWithinSoftwareLimits position = false then
    { { servo with softwareLimitWarning := true, positionTargetRejected := true }.stopAtCurrentPosition
      with targetReached := false }
  else servo.acceptTarget position previousTarget

/-- `_apply_device_reset_response`. -/
def applyDeviceResetResponse : VirtualCiA402Servo F :=
  let currentPosition := servo.od.actualPosition
  let od := (servo.od.resetNonPdoConfiguration profile).resetPdoValues profile
  let od := od.write (.parameter .targetPosition currentPosition)
  { servo with
    od := { od with
      actualPosition := currentPosition
      statusword := 0x0027
      modeOfOperationDisplay := od.modeOfOperation }
    lastModeCommand := od.modeOfOperation
    lastTargetPositionCommand := currentPosition }

/-- A device reset was written since the cycle before. -/
def resetRequested : Bool :=
  servo.od.command .deviceResetCommand ≠ servo.lastDeviceResetCommand ∧
    servo.od.command .deviceResetCommand = 1

/-- A reset, if it was requested. -/
def applyReset : VirtualCiA402Servo F :=
  let command := servo.od.command .deviceResetCommand
  let answered := if servo.resetRequested then servo.applyDeviceResetResponse profile else servo
  { answered with lastDeviceResetCommand := command }

/-- The answer to a command to save the parameters. -/
def applyParameterSave : VirtualCiA402Servo F :=
  let command := servo.od.command .parameterSaveCommand
  let answered :=
    if command ≠ servo.lastParameterSaveCommand ∧ command = 1 then
      { servo with od := { servo.od with
          parameterSaveStatus := 0
          parameterSaveReturnCode := 0
          parameterSaveReturnValue := 1 } }
    else servo
  { answered with lastParameterSaveCommand := command }

/-- A new mode, if it was requested. -/
def applyMode : VirtualCiA402Servo F :=
  if servo.od.modeOfOperation ≠ servo.lastModeCommand then
    servo.setMode servo.od.modeOfOperation servo.lastModeCommand
  else servo

/-- A new target, if it was requested. -/
def applyTarget (requestedTarget : F) : VirtualCiA402Servo F :=
  if pyEq requestedTarget servo.lastTargetPositionCommand then servo
  else servo.setTargetPosition requestedTarget servo.lastTargetPositionCommand

/-- A new mode and a new target. The target is read before the mode is set, which overwrites it. -/
def applyModeAndTarget : VirtualCiA402Servo F := servo.applyMode.applyTarget servo.od.targetPosition

/-- `_apply_od_commands`. -/
def applyOdCommands : VirtualCiA402Servo F :=
  (servo.applyReset profile).applyParameterSave.applyModeAndTarget

/-! ### Motion -/

/-- `_move_towards`. -/
def moveTowards (current target maxDelta : F) : F :=
  if maxDelta ≤ 0.0 then current
  else
    let delta := target - current
    if pyAbs delta ≤ maxDelta then target
    else current + maxDelta * (if 0.0 < delta then 1.0 else -1.0)

/-- The position after a cycle with the velocity. -/
def advance (velocity : F) : VirtualCiA402Servo F :=
  { servo with
    actualVelocity := velocity
    actualPosition :=
      servo.actualPosition + servo.velocityToPositionRate velocity * profile.cycleTime }

/-- `_decelerate_to_stop`. -/
def decelerateToStop : VirtualCiA402Servo F :=
  let decel := pyAbs (servo.parameter .profileDeceleration)
  servo.advance profile (moveTowards servo.actualVelocity 0.0
    (servo.accelerationToVelocityDelta profile decel))

/-- `abs(float(self.od.read(0x2183, 0x0C)) * 1000.0)`. -/
def negativeVelocityLimit : F := pyAbs (servo.parameter .negativeVelocityLimit * 1000.0)

/-- `abs(float(self.od.read(0x607F)))`. -/
def positiveVelocityLimit : F := pyAbs (servo.parameter .positiveVelocityLimit)

/-- `max_vel` of a move to a target. -/
def maxVelocity (target : F) : F :=
  let profileVelocity := pyAbs (servo.parameter .profileVelocity)
  let maxProfileVelocity :=
    if target < servo.actualPosition ∧ 0.0 < servo.negativeVelocityLimit then
      servo.negativeVelocityLimit
    else servo.positiveVelocityLimit
  if 0.0 < maxProfileVelocity then pyMin profileVelocity maxProfileVelocity else profileVelocity

/-! ### Homing -/

/-- The start of a homing run. -/
def startHoming : VirtualCiA402Servo F :=
  { { servo with
      homingActive := true
      homingCounter := max 1 (pyTrunc (0.1 / profile.cycleTime))
      homingReferenced := false
      homingError := false
      actualVelocity := 0.0 }.writeActualFeedback with
    targetReached := false }

/-- The end of a homing run. -/
def finishHoming : VirtualCiA402Servo F :=
  { ({ servo with actualPosition := 0.0, actualVelocity := 0.0 }.writeTarget 0.0).writeActualFeedback
    with
    targetReached := true
    homingActive := false
    homingReferenced := true }

/-- `process_homing` in Operation Enabled. -/
def processHoming : VirtualCiA402Servo F :=
  let started := if servo.risingBit 4 then servo.startHoming profile else servo
  if started.homingActive = false then started
  else
    let counted := { started with homingCounter := started.homingCounter - 1 }
    if 0 < counted.homingCounter then counted else counted.finishHoming

/-! ### Profile position -/

/-- The cycle of a move that was ended. -/
def endMove : VirtualCiA402Servo F :=
  ({ servo with ppActive := false, ppSetpointAck := false }.decelerateToStop profile).writeActualFeedback

/-- The new velocity of a move. -/
def ppVelocity (target : F) : F :=
  let accel := pyAbs (servo.parameter .profileAcceleration)
  let decel := pyAbs (servo.parameter .profileDeceleration)
  let error := target - servo.actualPosition
  let direction : F := if 0.0 ≤ error then 1.0 else -1.0
  let positionVelocityTowardTarget := servo.velocityToPositionRate servo.actualVelocity * direction
  let decelPositionRate := servo.accelerationToPositionRate decel
  let stoppingDistance :=
    if 0.0 < decelPositionRate then
      pyMax positionVelocityTowardTarget 0.0 ^ 2 / (2.0 * decelPositionRate)
    else 0.0
  if servo.actualVelocity * direction < 0.0 then
    moveTowards servo.actualVelocity 0.0 (servo.accelerationToVelocityDelta profile decel)
  else if pyAbs error ≤ stoppingDistance then
    moveTowards servo.actualVelocity 0.0 (servo.accelerationToVelocityDelta profile decel)
  else
    moveTowards servo.actualVelocity (direction * servo.maxVelocity target)
      (servo.accelerationToVelocityDelta profile accel)

/-- The servo stands at the target of the move. -/
def arrive : VirtualCiA402Servo F :=
  { servo with
    actualPosition := servo.ppTargetPosition
    actualVelocity := 0.0
    ppActive := false }

/-- The drive is so close to the target that the move ends. -/
def ppInWindow : Bool :=
  let decel := pyAbs (servo.parameter .profileDeceleration)
  pyAbs (servo.ppTargetPosition - servo.actualPosition) ≤ pyAbs (servo.parameter .positionWindow) ∧
    pyAbs servo.actualVelocity ≤ pyMax (servo.accelerationToVelocityDelta profile decel) 1e-9

/-- One cycle of a move. -/
def ppMove : VirtualCiA402Servo F :=
  let target := servo.ppTargetPosition
  let moved :=
    if servo.ppInWindow profile then servo.arrive
    else
      let next := servo.advance profile (servo.ppVelocity profile target)
      let remaining := target - servo.actualPosition
      if pyEq remaining 0.0 ∨ remaining * (target - next.actualPosition) ≤ 0.0 then servo.arrive
      else next
  moved.writeActualFeedback.updateTargetReached profile

/-- The new setpoint of a rising start bit. -/
def acceptSetpoint : VirtualCiA402Servo F :=
  if servo.risingBit 4 then
    { servo with
      ppTargetPosition := servo.od.targetPosition
      ppActive := true
      targetReached := false
      windowCounter := 0
      ppSetpointAck := servo.controlBit 4 }
  else { servo with ppSetpointAck := servo.controlBit 4 }

/-- The cycle of a drive that may move. -/
def ppContinue : VirtualCiA402Servo F :=
  let accepted := servo.acceptSetpoint
  if accepted.ppActive = false then
    (accepted.decelerateToStop profile).writeActualFeedback.updateTargetReached profile
  else accepted.ppMove profile

/-- `process_pp` in Operation Enabled. -/
def processPp : VirtualCiA402Servo F :=
  if servo.haltActive then
    let halted := servo.endMove profile
    { halted with targetReached := pyAbs halted.actualVelocity ≤ 1e-9 }
  else if servo.homingReferenced = false then { servo.endMove profile with targetReached := false }
  else if servo.risingBit 4 ∧ servo.positionTargetRejected then servo.endMove profile
  else servo.ppContinue profile

/-! ### Profile velocity and jog -/

/-- One cycle toward a velocity, with the limits of profile velocity and jog. -/
def followVelocity (targetVelocity : F) : VirtualCiA402Servo F :=
  let limit :=
    if pyAbs servo.actualVelocity < pyAbs targetVelocity then servo.parameter .profileAcceleration
    else servo.parameter .profileDeceleration
  let maxDelta := servo.accelerationToVelocityDelta profile limit
  (servo.advance profile (moveTowards servo.actualVelocity targetVelocity maxDelta)).writeActualFeedback

/-- `process_pv` in Operation Enabled. -/
def processPv : VirtualCiA402Servo F :=
  let requested := if servo.haltActive then 0.0 else servo.parameter .targetVelocity
  let targetVelocity :=
    if 0.0 ≤ requested ∧ 0.0 < servo.positiveVelocityLimit then
      pyMin requested servo.positiveVelocityLimit
    else if requested < 0.0 ∧ 0.0 < servo.negativeVelocityLimit then
      pyMax requested (-servo.negativeVelocityLimit)
    else requested
  let limit :=
    if pyAbs servo.actualVelocity < pyAbs targetVelocity then servo.parameter .profileAcceleration
    else servo.parameter .profileDeceleration
  let moved := servo.followVelocity profile targetVelocity
  { moved with
    targetReached := pyAbs (moved.actualVelocity - targetVelocity) ≤
      pyMax (servo.accelerationToVelocityDelta profile limit) 1e-9 }

/-- `min` of the limits that are positive, or zero. -/
def minPositive (limits : List F) : F :=
  match limits.filter fun limit => 0.0 < limit with
  | [] => 0.0
  | limit :: rest => rest.foldl pyMin limit

/-- `_jog_velocity_limit`. -/
def jogVelocityLimit : F :=
  let maxVelocity := minPositive
    [pyAbs (servo.parameter .profileVelocity), servo.positiveVelocityLimit,
      servo.negativeVelocityLimit]
  maxVelocity * (if servo.controlBit 12 then 1.0 else if servo.controlBit 11 then 0.25 else 0.5)

/-- `_limit_jog_velocity_at_software_limit`. -/
def limitJogVelocityAtSoftwareLimit (targetVelocity : F) : F :=
  if pyAbs targetVelocity ≤ 1e-12 then 0.0
  else if 0.0 < targetVelocity ∧ servo.softwarePositionLimits.2 ≤ servo.actualPosition then 0.0
  else if targetVelocity < 0.0 ∧ servo.actualPosition ≤ servo.softwarePositionLimits.1 then 0.0
  else targetVelocity

/-- `process_jog` in Operation Enabled. -/
def processJog : VirtualCiA402Servo F :=
  let positive := servo.controlBit 4
  let negative := servo.controlBit 5
  let requested : F :=
    if positive = negative ∨ servo.haltActive then 0.0
    else (if positive then 1.0 else -1.0) * servo.jogVelocityLimit
  let moved := servo.followVelocity profile (servo.limitJogVelocityAtSoftwareLimit requested)
  { moved with targetReached := pyAbs moved.actualVelocity ≤ 1e-9 }

/-! ### Cyclic position -/

/-- The new velocity of cyclic positions. -/
def cspVelocity (target : F) : F :=
  let error := target - servo.actualPosition
  let maxVel := servo.maxVelocity target
  let desired := pyMax (pyMin (servo.positionRateToVelocity (servo.kp * error)) maxVel) (-maxVel)
  let limit :=
    if pyAbs servo.actualVelocity < pyAbs desired then servo.parameter .profileAcceleration
    else servo.parameter .profileDeceleration
  let maxDelta := servo.accelerationToVelocityDelta profile limit
  servo.actualVelocity + pyMax (pyMin (desired - servo.actualVelocity) maxDelta) (-maxDelta)

/-- `process_csp` in Operation Enabled. -/
def processCsp : VirtualCiA402Servo F :=
  if servo.haltActive then
    let halted := (servo.decelerateToStop profile).writeActualFeedback
    { halted with targetReached := pyAbs halted.actualVelocity ≤ 1e-9 }
  else if servo.homingReferenced = false then
    ({ servo with targetReached := false }.decelerateToStop profile).writeActualFeedback
  else
    let moved := servo.advance profile (servo.cspVelocity profile servo.od.targetPosition)
    moved.writeActualFeedback.updateTargetReached profile

/-! ### One cycle -/

/-- The motion of one cycle in Operation Enabled, by the mode. -/
def processMode : VirtualCiA402Servo F :=
  if servo.od.modeOfOperation = 1 then servo.processPp profile
  else if servo.od.modeOfOperation = 3 then servo.processPv profile
  else if servo.od.modeOfOperation = 8 then servo.processCsp profile
  else if servo.od.modeOfOperation = 6 then servo.processHoming profile
  else if servo.od.modeOfOperation = -3 then servo.processJog profile
  else servo

/-- `_is_moving`. -/
def isMoving : Bool :=
  decide (1e-9 < pyAbs servo.actualVelocity) || servo.ppActive || servo.homingActive

/-- `_software_limit_is_active`. -/
def softwareLimitIsActive : Bool :=
  servo.softwareLimitWarning || servo.actualPositionExceedsSoftwareLimits

/-- A bit of the status word, if it is set. -/
def statusBit (bit : ℕ) (set : Bool) : BitVec 16 := if set then 1 <<< bit else 0

/-- The status word of a cycle. -/
def reportedStatusword : BitVec 16 :=
  servo.sm.statusword ||| statusBit 10 servo.targetReached ||| statusBit 12 servo.ppSetpointAck |||
    statusBit 8 servo.isMoving ||| statusBit 7 servo.softwareLimitIsActive |||
    statusBit 11 servo.softwareLimitIsActive ||| statusBit 15 servo.homingReferenced |||
    statusBit 3 (servo.od.modeOfOperation = 6 && servo.homingError)

/-- The state machine takes the control word, and a drive that is switched off stops. -/
def processControlword : VirtualCiA402Servo F :=
  let taken := { servo with
    haltActive := servo.controlBit 8
    sm := servo.sm.process servo.od.controlword }
  if servo.operationEnabled ∧ taken.operationEnabled = false then taken.stopAtCurrentPosition
  else taken

/-- `process_cycle`. -/
def processCycle : VirtualCiA402Servo F :=
  let taken := servo.processControlword
  let moved := if taken.operationEnabled then taken.processMode profile else taken
  { moved with
    od := { moved.od with statusword := moved.reportedStatusword }
    previousControlword := servo.od.controlword }

/-- `model_update`. -/
def modelUpdate : VirtualCiA402Servo F := (servo.applyOdCommands profile).processCycle profile

/-! ### The start -/

/-- `__init__`. -/
def init : VirtualCiA402Servo F where
  od := ServoOd.init profile
  sm := .switchOnDisabled
  actualPosition := 0.0
  actualVelocity := 0.0
  kp := 5.0
  targetReached := false
  windowCounter := 0
  previousControlword := 0
  ppActive := false
  ppTargetPosition := 0.0
  ppSetpointAck := false
  haltActive := false
  homingActive := false
  homingCounter := 0
  homingReferenced := false
  homingError := false
  softwareLimitWarning := false
  positionTargetRejected := false
  lastModeCommand := (ServoOd.init profile).modeOfOperation
  lastTargetPositionCommand := (ServoOd.init profile).targetPosition
  lastDeviceResetCommand := (ServoOd.init profile).command .deviceResetCommand
  lastParameterSaveCommand := (ServoOd.init profile).command .parameterSaveCommand

end VirtualCiA402Servo

/-- What happens to a virtual drive: a write to its dictionary, or a cycle. -/
inductive ServoEvent (F : Type)
  | write (entry : OdWrite F)
  | cycle

/-- One event. -/
def VirtualCiA402Servo.step [PyFloat F] (profile : ServoProfile F) (servo : VirtualCiA402Servo F) :
    ServoEvent F → VirtualCiA402Servo F
  | .write entry => { servo with od := servo.od.write entry }
  | .cycle => servo.modelUpdate profile

end MotionServer
