import MotionServer.Device.SdoAccess
import MotionServer.Handlers.Motion

/-!
# Limits of an axis

* `writeMotionLimits`, `readMotionLimits`, `writeSoftwarePositionLimits`,
  `readSoftwarePositionLimits`: the objects of a drive that hold its limits;
* `SettingsState`: the drives and the copies that the server keeps of their limits;
* **`reconcile`**: write, read back, keep what was read, and raise what the write raised;
* `updateAxisMotionLimits`, `updateSoftwarePositionLimits`, `setMotionLimits`,
  `setSoftwarePositionLimits`: the two kinds of limits and their handlers.
-/

namespace MotionServer

variable {n : ℕ} {F D : Type} [PyFloat F]

/-! ## The drive -/

/-- The four motion limits of a drive, in drive units. -/
structure DriveMotionLimits (F : Type) where
  positiveVelocity : F
  negativeVelocity : F
  acceleration : F
  deceleration : F

/-- `MAX_PROFILE_VELOCITY_INDEX`. -/
def maxProfileVelocityIndex : ℕ := 0x607F

/-- `NEGATIVE_VELOCITY_LIMIT_INDEX` and its subindex. -/
def negativeVelocityLimitIndex : ℕ := 0x2183
def negativeVelocityLimitSubindex : ℕ := 0x0C

/-- `MAX_ACCELERATION_INDEX`. -/
def maxAccelerationIndex : ℕ := 0x60C5

/-- `MAX_DECELERATION_INDEX`. -/
def maxDecelerationIndex : ℕ := 0x60C6

/-- `SOFTWARE_POSITION_LIMIT_INDEX`. -/
def softwarePositionLimitIndex : ℕ := 0x607D

/-- `max(0, int(value))`. -/
def clampedInt (value : F) : Except PyExc ℤ := do pure (max 0 (← PyFloat.truncInt value))

/-- `write_motion_limits`: four objects, one after another. -/
def writeMotionLimits (sdo : TypedSdoAccess F D) (limits : DriveMotionLimits F) :
    Prog PyExc D Unit := do
  let positiveVelocity ← Prog.lift (clampedInt limits.positiveVelocity)
  sdo.writeUint32 maxProfileVelocityIndex 0 positiveVelocity
  sdo.writeFloat32 negativeVelocityLimitIndex negativeVelocityLimitSubindex
    (limits.negativeVelocity / 1000.0)
  let acceleration ← Prog.lift (clampedInt limits.acceleration)
  sdo.writeUint32 maxAccelerationIndex 0 acceleration
  let deceleration ← Prog.lift (clampedInt limits.deceleration)
  sdo.writeUint32 maxDecelerationIndex 0 deceleration

/-- `read_motion_limits`. -/
def readMotionLimits (sdo : TypedSdoAccess F D) : Prog PyExc D (DriveMotionLimits F) := do
  let positiveVelocity ← sdo.readUint32 maxProfileVelocityIndex 0
  let negativeVelocity ← sdo.readFloat32 negativeVelocityLimitIndex negativeVelocityLimitSubindex
  let acceleration ← sdo.readUint32 maxAccelerationIndex 0
  let deceleration ← sdo.readUint32 maxDecelerationIndex 0
  pure
    { positiveVelocity := PyFloat.ofInt positiveVelocity
      negativeVelocity := negativeVelocity * 1000.0
      acceleration := PyFloat.ofInt acceleration
      deceleration := PyFloat.ofInt deceleration }

/-- `write_software_position_limits`. -/
def writeSoftwarePositionLimits (sdo : TypedSdoAccess F D) (limits : ℤ × ℤ) : Prog PyExc D Unit := do
  sdo.writeInt32 softwarePositionLimitIndex 1 limits.1
  sdo.writeInt32 softwarePositionLimitIndex 2 limits.2

/-- `read_software_position_limits`. -/
def readSoftwarePositionLimits (sdo : TypedSdoAccess F D) : Prog PyExc D (ℤ × ℤ) := do
  let negativeLimit ← sdo.readInt32 softwarePositionLimitIndex 1
  let positiveLimit ← sdo.readInt32 softwarePositionLimitIndex 2
  pure (negativeLimit, positiveLimit)

/-! ## The copies of the server -/

/-- `isinstance(exception, PROFILE_ACCESS_ERRORS)`. -/
def PyExc.isProfileAccessError : PyExc → Bool
  | .motionServer _ | .osError | .connectionError | .attributeError | .typeError | .valueError
  | .unicodeDecodeError | .jsonDecodeError | .overflowError | .runtimeError | .recursionError =>
    true
  | .keyError | .indexError | .structError => false

/-- The copies of the limits of an axis. -/
structure AxisCopies (F : Type) where
  /-- `axis_parameters.motion_limits`. -/
  motionLimits : DriveMotionLimits F
  /-- `motion_server_motion_limits` of the slave. -/
  slaveMotionLimits : DriveMotionLimits F
  /-- `motion_limits` of the motion controller, in API units. -/
  controllerLimits : AxisMotionLimits F
  /-- `axis_parameters.software_position_limits`. -/
  softwarePositionLimits : ℤ × ℤ

/-- The drives of the axes and what the server keeps of them. -/
structure SettingsState (n : ℕ) (F D : Type) where
  devices : Fin n → D
  units : Fin n → AxisUnits
  copies : Fin n → AxisCopies F

/-- A run of accesses to the drive of an axis. -/
def onDevice {α : Type} (a : Fin n) (m : Prog PyExc D α) : Prog PyExc (SettingsState n F D) α :=
  fun s => ((m (s.devices a)).1,
    { s with devices := Function.update s.devices a (m (s.devices a)).2 })

/-- `try: write except PROFILE_ACCESS_ERRORS as exc: write_error = exc`. -/
def keepingError {σ : Type} (write : Prog PyExc σ Unit) : Prog PyExc σ (Option PyExc) :=
  tryCatch (do
    write
    pure none) fun e => if e.isProfileAccessError then pure (some e) else throw e

/-- The common course of both kinds of limits: what the write raised is raised after the copies are
those that were read back, or where the read-back fails too. -/
def reconcile {α : Type} (a : Fin n) (write : Prog PyExc D Unit) (read : Prog PyExc D α)
    (keep : AxisUnits → α → AxisCopies F → AxisCopies F) :
    Prog PyExc (SettingsState n F D) Unit := do
  let writeError ← keepingError (onDevice a write)
  let readback ← tryCatch (onDevice a read) fun e =>
    throw (if e.isProfileAccessError then writeError.getD e else e)
  Prog.modify fun s => { s with
    copies := Function.update s.copies a (keep (s.units a) readback (s.copies a)) }
  match writeError with
  | some e => throw e
  | none => pure ()

/-- `motion_limits_drive_to_api` and `set_axis_motion_limits`: the jerk stays. -/
def AxisMotionLimits.ofDrive (units : AxisUnits) (limits : DriveMotionLimits F)
    (current : AxisMotionLimits F) : AxisMotionLimits F where
  maxVelocity := pyMax (pyAbs (units.motionDriveToApi limits.positiveVelocity .velocity))
    (pyAbs (units.motionDriveToApi limits.negativeVelocity .velocity))
  acceleration := units.motionDriveToApi limits.acceleration .acceleration
  deceleration := units.motionDriveToApi limits.deceleration .deceleration
  jerk := current.jerk

/-- The copies that `update_axis_motion_limits` keeps. -/
def AxisCopies.withMotionLimits (units : AxisUnits) (readback : DriveMotionLimits F)
    (copies : AxisCopies F) : AxisCopies F :=
  { copies with
    motionLimits := readback
    slaveMotionLimits := readback
    controllerLimits := .ofDrive units readback copies.controllerLimits }

/-- `update_axis_motion_limits`. -/
def updateAxisMotionLimits (sdo : TypedSdoAccess F D) (a : Fin n)
    (requested : DriveMotionLimits F) : Prog PyExc (SettingsState n F D) Unit :=
  reconcile a (writeMotionLimits sdo requested) (readMotionLimits sdo) AxisCopies.withMotionLimits

/-- The copies that `set_software_position_limits` keeps. -/
def AxisCopies.withSoftwareLimits (_ : AxisUnits) (readback : ℤ × ℤ) (copies : AxisCopies F) :
    AxisCopies F :=
  { copies with softwarePositionLimits := readback }

/-- The part of `set_software_position_limits` from its write on. -/
def updateSoftwarePositionLimits (sdo : TypedSdoAccess F D) (a : Fin n) (requested : ℤ × ℤ) :
    Prog PyExc (SettingsState n F D) Unit :=
  reconcile a (writeSoftwarePositionLimits sdo requested) (readSoftwarePositionLimits sdo)
    AxisCopies.withSoftwareLimits

/-! ## Requests -/

/-- `message.get(key, message.get(key', ... default))` as a float: the first key that is there. -/
def firstFloat (message : Message F) (default : F) : List String → Except PyExc F
  | [] => .ok default
  | key :: keys => match message.get? key with
    | some value => value.toFloat
    | none => firstFloat message default keys

/-- The value of a limit that is requested, in drive units; what is not named stays. -/
def requestedLimit (units : AxisUnits) (message : Message F) (current : F) (kind : MotionKind)
    (keys : List String) : Except PyExc F := do
  let value ← firstFloat message (units.motionDriveToApi current kind) keys
  pure (units.motionApiToDrive value kind)

/-- The limits that `set_motion_limits` asks for at an axis. -/
def requestedMotionLimits (units : AxisUnits) (message : Message F)
    (current : DriveMotionLimits F) : Except PyExc (DriveMotionLimits F) := do
  let positiveVelocity ← requestedLimit units message current.positiveVelocity .velocity
    ["positive_velocity_limit", "max_profile_velocity_positive", "max_profile_velocity"]
  let negativeVelocity ← requestedLimit units message current.negativeVelocity .velocity
    ["negative_velocity_limit", "max_profile_velocity_negative"]
  let acceleration ← requestedLimit units message current.acceleration .acceleration
    ["max_acceleration", "acceleration"]
  let deceleration ← requestedLimit units message current.deceleration .deceleration
    ["max_deceleration", "deceleration"]
  pure ⟨positiveVelocity, negativeVelocity, acceleration, deceleration⟩

/-- The limits that `set_software_position_limits` asks for at an axis. -/
def requestedSoftwareLimits (units : AxisUnits) (message : Message F) (current : ℤ × ℤ) :
    Except PyExc (ℤ × ℤ) := do
  let negativeApi ← firstFloat message (units.positionDriveToApi (PyFloat.ofInt current.1))
    ["negative_limit", "negative_software_position_limit"]
  let positiveApi ← firstFloat message (units.positionDriveToApi (PyFloat.ofInt current.2))
    ["positive_limit", "positive_software_position_limit"]
  let negative ← PyFloat.roundInt (units.positionApiToDrive negativeApi)
  let positive ← PyFloat.roundInt (units.positionApiToDrive positiveApi)
  if positive < negative then throw .valueError else pure (negative, positive)

/-- `set_motion_limits`. -/
def setMotionLimits (sdo : TypedSdoAccess F D) (message : Message F) :
    Prog PyExc (SettingsState n F D) Unit :=
  tryCatch (do
    let axes ← Prog.lift (selectedAxes n message)
    axes.forM fun a => do
      let s ← Prog.get
      let requested ← Prog.lift
        (requestedMotionLimits (s.units a) message (s.copies a).motionLimits)
      updateAxisMotionLimits sdo a requested)
    fun _ => throw (operationRejected (commandName message))

/-- `set_software_position_limits`. -/
def setSoftwarePositionLimits (sdo : TypedSdoAccess F D) (message : Message F) :
    Prog PyExc (SettingsState n F D) Unit :=
  tryCatch (do
    let axes ← Prog.lift (selectedAxes n message)
    axes.forM fun a => do
      let s ← Prog.get
      let requested ← Prog.lift
        (requestedSoftwareLimits (s.units a) message (s.copies a).softwarePositionLimits)
      updateSoftwarePositionLimits sdo a requested)
    fun _ => throw (operationRejected (commandName message))

end MotionServer
