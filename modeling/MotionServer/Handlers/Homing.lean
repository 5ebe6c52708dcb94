import MotionServer.Handlers.Motion

/-!
# Homing and jogging

* `startHoming`, `finishHoming`, `updateHomingState`: a homing from its request to its end;
* `startJog`, `stopJog`: the jog handlers.
-/

namespace MotionServer

variable {n : ℕ} {F : Type} [PyFloat F]

/-! ## Homing -/

/-- `set_homing_start_bit`. -/
def setHomingStartBit (axes : List (Fin n)) (enabled : Bool) : Server n F Unit :=
  axes.forM fun a => Prog.modify fun w => w.setRxpdo a fun rx =>
    if enabled then rx.setBit homingStartBit else rx.clearBit homingStartBit

/-- The return of one axis to the mode it had before its homing. -/
def restoreOriginalMode (env : Env n F) (originalModes : Fin n → Option MotionMode)
    (axisIndex : Fin n) : Server n F Unit :=
  match originalModes axisIndex with
  | none => pure ()
  | some mode => Prog.onlyIf (mode.isMotionMode = true) do
    configureMotionMode env mode axisIndex
    Prog.modify fun w => w.setMotionMode axisIndex mode

/-- `finish_homing`. -/
def finishHoming (env : Env n F) (result : HomingStatus) : Server n F Unit := do
  let w ← Prog.get
  let homing := w.homing
  Prog.onlyIf (homing.axes ≠ []) do
    setHomingStartBit homing.axes false
    (exchange env).repeatN 2
    homing.axes.forM (restoreOriginalMode env homing.originalMotionModes)
    Prog.modify fun w => { w with homing := { w.homing with active := false, state := result } }

/-- `finish_homing` where a homing is active. -/
def finishActiveHoming (env : Env n F) (result : HomingStatus) : Server n F Unit := do
  let w ← Prog.get
  Prog.onlyIf (w.homing.active = true) (finishHoming env result)

/-- `start_homing`. -/
def startHoming (env : Env n F) (message : Message F) : Server n F Unit := do
  let axes ← Prog.lift (selectedAxes n message)
  let before ← Prog.get
  if before.disabledOperationAxes axes ≠ [] then
    Prog.modify fun w => { w with homing := inactiveHomingState .rejected }
    throw (.motionServer (.invalidState (commandName message) "axis_disabled"))
  else
    axes.forM fun a => do
      configureModeCode env .homing a
      Prog.modify fun w => w.setMotionMode a .homing
    setHomingStartBit axes false
    (exchange env).repeatN 2
    let initial ← Prog.get
    setHomingStartBit axes true
    (exchange env).repeatN 2
    let startTime ← access env.clock
    Prog.modify fun w => { w with
      homing :=
        { active := true
          state := .running
          axes := axes
          startTime := startTime
          originalMotionModes := fun a =>
            if a ∈ axes then some (before.motionModes a) else none
          referencedSeenLow := fun a => a ∈ axes && !(initial.txpdo a).referenced } }

/-- `update_homing_state`. -/
def updateHomingState (env : Env n F) : Server n F Unit := do
  let w ← Prog.get
  Prog.onlyIf (w.homing.active = true) do
    let axes := w.homing.axes
    let seenLow : Fin n → Bool := fun a =>
      w.homing.referencedSeenLow a || (a ∈ axes && !(w.txpdo a).referenced)
    Prog.modify fun w => { w with homing := { w.homing with referencedSeenLow := seenLow } }
    if ∃ a ∈ axes, (w.txpdo a).homingError = true then finishHoming env .error
    else
      let now ← access env.clock
      Prog.onlyIf (axes ≠ [] ∧ (0.05 : F) ≤ now - w.homing.startTime ∧
          ∀ a ∈ axes, (w.txpdo a).referenced = true ∧ seenLow a = true)
        (finishHoming env .complete)

/-! ## Jogging -/

/-- The directions of a jog. -/
inductive JogDirection
  | positive
  | negative
  deriving DecidableEq

/-- The speeds of a jog. -/
inductive JogSpeed
  | slow
  | fast
  | twoPhase
  deriving DecidableEq

def jogDirection (message : Message F) : Except PyExc JogDirection :=
  match lowerText message "direction" "" with
  | "positive" | "+" => .ok .positive
  | "negative" | "-" => .ok .negative
  | _ => .error .valueError

def jogSpeed (message : Message F) : Except PyExc JogSpeed :=
  match lowerText message "speed" "slow" with
  | "slow" => .ok .slow
  | "fast" => .ok .fast
  | "two_phase" => .ok .twoPhase
  | _ => .error .valueError

/-- The control word of a running jog. -/
def jogControlword (direction : JogDirection) (speed : JogSpeed) : ℤ :=
  0x000F + (match direction with | .positive => 0x10 | .negative => 0x20) +
    (match speed with | .slow => 0x800 | .fast => 0x1000 | .twoPhase => 0)

/-- The axis, direction and speed of a jog request. -/
def jogRequest (n : ℕ) (message : Message F) : Except PyExc (Fin n × JogDirection × JogSpeed) := do
  let axisIndex ← selectedSingleAxis n message
  let direction ← jogDirection message
  let speed ← jogSpeed message
  pure (axisIndex, direction, speed)

/-- The switch of an axis to jog mode. -/
def switchToJog (env : Env n F) (axisIndex : Fin n) : Server n F Unit := do
  requirePdoFieldsForMode .jog axisIndex
  let w ← Prog.get
  Prog.onlyIf (w.motionModes axisIndex ≠ .jog) do
    Prog.modify fun w => { w with
      jogPreviousModes :=
        Function.update w.jogPreviousModes axisIndex (some (w.motionModes axisIndex)) }
    holdAxisAtActualPosition axisIndex
    configureMotionMode env .jog axisIndex
    Prog.modify fun w => w.setMotionMode axisIndex .jog

/-- `start_jog`. -/
def startJog (env : Env n F) (message : Message F) : Server n F Unit := do
  let (axisIndex, direction, speed) ←
    rejecting (commandName message) (Prog.lift (jogRequest n message))
  rejectIfAnyAxisDisabled [axisIndex] (commandName message)
  rejecting (commandName message) (switchToJog env axisIndex)
  Prog.modify fun w => w.setRxpdo axisIndex fun rx => { rx with
    modeOfOperation := MotionMode.jog.code
    controlword := jogControlword direction speed }

/-- The return of an axis to the mode it had before it was jogged. -/
def restorePreviousMode (env : Env n F) (axisIndex : Fin n) (mode : MotionMode) :
    Server n F Unit := do
  holdAxisAtActualPosition axisIndex
  configureMotionMode env mode axisIndex
  Prog.modify fun w => w.setMotionMode axisIndex mode

/-- `state["jog_previous_modes"][axis_index] = None`. -/
def clearJogPreviousMode (axisIndex : Fin n) : Server n F Unit :=
  Prog.modify fun w => { w with
    jogPreviousModes := Function.update w.jogPreviousModes axisIndex none }

/-- `stop_jog`. -/
def stopJog (env : Env n F) (message : Message F) : Server n F Unit := do
  let axisIndex ← rejecting (commandName message) (Prog.lift (selectedSingleAxis n message))
  Prog.modify fun w => w.setRxpdo axisIndex fun rx => { rx with
    controlword := if w.disabledOperationAxes [axisIndex] ≠ [] then 0x0007 else 0x000F }
  (exchange env).repeatN 5
  let w ← Prog.get
  let previousMode := (w.jogPreviousModes axisIndex).getD .pp
  tryCatch (restorePreviousMode env axisIndex previousMode) fun _ => do
    clearJogPreviousMode axisIndex
    throw (operationRejected (commandName message))
  clearJogPreviousMode axisIndex

end MotionServer
