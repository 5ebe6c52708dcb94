import MotionServer.App.Server
import MotionServer.Diagnostic.Definitions
import MotionServer.Python.Numerals

/-!
# The gate of the active faults

A request that acts on axes is refused while one of them has an active fault. The gate reads the
axes from the request by itself, before the handler does.

* `GuardedCommand`: the requests that the gate refuses, `GuardedCommand.actedAxes` the axes their
  handlers read;
* `GuardedCommand.allowed`: the gate, over a diagnostic manager;
* **`GuardedCommand.ReadsAlike`**: the requests that gate and handler read alike.
-/

namespace MotionServer

variable {F : Type} {n : ℕ} {T : Type}

/-! ## Guarded requests -/

/-- The commands under `system/axis/` and `system/axes/` that are not in
`AXIS_FAULT_ALLOWED_COMMANDS`. `axes` tells the request of many axes from that of one. -/
inductive GuardedCommand
  | trajectory
  | trajectoryStop
  | enable (axes : Bool)
  | home
  | moveAbs (axes : Bool)
  | moveRel (axes : Bool)
  | moveVel (axes : Bool)
  | jogStart
  | jogStop
  | profile
  | motionLimits
  | softwarePositionLimits
  | mode
  | manualCW
  | paramWrite
  | paramSave
  deriving DecidableEq

/-- The guarded commands that move axes, as the router knows them. -/
def Command.guarded? : Command → Option GuardedCommand
  | .trajectory => some .trajectory
  | .trajectoryStop => some .trajectoryStop
  | .enable axes => some (.enable axes)
  | .home => some .home
  | .moveAbs axes => some (.moveAbs axes)
  | .moveRel axes => some (.moveRel axes)
  | .moveVel axes => some (.moveVel axes)
  | .jogStart => some .jogStart
  | .jogStop => some .jogStop
  | .mode => some .mode
  | .manualCW => some .manualCW
  | _ => none

namespace GuardedCommand

/-- The wrapper of the handler: `require_axes`, `require_single_axis` or none. -/
def requiresAxes? : GuardedCommand → Option Bool
  | trajectory | trajectoryStop => some true
  | enable axes | moveAbs axes | moveRel axes | moveVel axes => some axes
  | paramWrite | paramSave => none
  | _ => some false

/-- `require_single_axis` and `require_axes`. -/
def requireKey (message : Message F) (command : GuardedCommand) : Except PyExc Unit :=
  match command.requiresAxes? with
  | none => .ok ()
  | some axes =>
    if message.has "axes" = axes ∧ message.has "axis" = !axes then .ok ()
    else .error (.motionServer (.invalidRequest (commandName message)))

end GuardedCommand

/-- The axis of `parse_sdo_request`. -/
def sdoAxis (n : ℕ) (message : Message F) : Except PyExc (Fin n) :=
  match message.get? "axes", message.get? "axis" with
  | none, some axis => match axis.parseInt with
    | .error e =>
      if e.isTypeOrValueError then
        .error (.motionServer (.invalidArgument "axis" "must be an integer"))
      else .error e
    | .ok index => match toAxis n index with
      | some axis => .ok axis
      | none => .error (.motionServer (.resourceNotFound "axis" index))
  | _, _ => .error (.motionServer (.invalidRequest (commandName message)))

/-- `selected_single_axis` of the parameter handlers. -/
def parameterAxis (n : ℕ) (message : Message F) : Except PyExc (Fin n) := do
  match ← rawAxisIndices n message with
  | [index] => match toAxis n index with
    | some axis => pure axis
    | none => throw .valueError
  | _ => throw .valueError

variable [PyFloat F]

/-- The axes of a trajectory request. -/
def trajectoryRequestAxes (n : ℕ) (message : Message F) : Except PyExc (List (Fin n)) := do
  match trajectoryAxes n (← messageAxes n (message.getD "axes" (.list []))) with
  | some axes => pure axes
  | none => throw (operationRejected "system/axes/trajectory")

namespace GuardedCommand

/-- The axes that the handler reads. -/
def handlerAxes (n : ℕ) (message : Message F) : GuardedCommand → Except PyExc (List (Fin n))
  | trajectory => trajectoryRequestAxes n message
  | jogStart | jogStop => do pure [← selectedSingleAxis n message]
  | mode => do pure (← modeRequest n message).2
  | manualCW => controlwordAxes n message
  | paramWrite => do pure [← sdoAxis n message]
  | paramSave => do pure [← parameterAxis n message]
  | _ => selectedAxes n message

/-- The axes that a request acts on. None where the handler rejects the request, or ignores it as
that of `manualCW` does with an axis that does not exist. -/
def actedAxes (n : ℕ) (message : Message F) (command : GuardedCommand) : Option (List (Fin n)) :=
  match command.requireKey message, command.handlerAxes n message with
  | .ok (), .ok axes => if command = manualCW ∧ axes = [] then none else some axes
  | _, _ => none

/-- `command_allowed_by_runtime_state`. -/
def allowed (message : Message F) (runtimeState : RuntimeState) (manager : DiagnosticManager T)
    (command : GuardedCommand) : Except PyExc Bool :=
  if command = paramWrite ∧ runtimeState = .busDisconnected then .ok false
  else if runtimeState = .fault ∨ runtimeState = .busDisconnected then .ok false
  else do
    let indices ← selectedAxisIndices message
    pure !((indices.filter (0 ≤ ·)).any fun index =>
      manager.hasActiveFault (.source (axisSource index.toNat)))

end GuardedCommand

/-! ## What gate and handler read alike -/

omit [PyFloat F] in
/-- A text that `parse_int` reads in another base than ten. -/
def Value.hasBasePrefix : Value F → Bool
  | .str s => MotionServer.hasBasePrefix s
  | _ => false

/-- A text that is read alike as one number and digit by digit: a single digit or zeros. -/
def OneDigit (s : String) : Prop :=
  s.length = 1 ∨ s.length ≤ maxStrDigits ∧ ∀ c ∈ s.toList, digitValue c = some 0

instance (s : String) : Decidable (OneDigit s) := inferInstanceAs (Decidable (_ ∨ _))

/-- The values of `axes` that the gate reads as `selected_axes` does. -/
def Value.AxesReadAlike : Value F → Prop
  | .list items => ∀ item ∈ items, item.hasBasePrefix = false
  | .str s => OneDigit s
  | _ => False

/-- The values of `axes` that the gate reads as a trajectory request does. An empty selection is
all axes there, and no axis to the gate. -/
def Value.TrajectoryAxesReadAlike : Value F → Prop
  | .list items => items ≠ []
  | .str s => s ≠ "" ∧ OneDigit s
  | _ => False

/-- The requests that the gate reads as `parse_axis_indices` does. -/
def SelectionReadsAlike (message : Message F) : Prop :=
  match message.get? "axes", message.get? "axis" with
  | some axes, _ => axes.AxesReadAlike
  | none, some axis => axis.hasBasePrefix = false
  | none, none => False

/-- The accepted requests whose axes gate and handler read alike. -/
def GuardedCommand.ReadsAlike (n : ℕ) (message : Message F) : GuardedCommand → Prop
  | trajectory => n = 0 ∨ (message.getD "axes" (.list [])).TrajectoryAxesReadAlike
  | mode | manualCW => n = 0 ∨ ∃ axis, message.get? "axis" = some axis ∧ axis ≠ .null
  | _ => SelectionReadsAlike message

/-- The gate examines the axes, and no other axis there may be. -/
def Examines (message : Message F) (axes : List (Fin n)) : Prop :=
  ∃ indices, selectedAxisIndices message = .ok indices ∧
    ∀ index, 0 ≤ index → (index ∈ indices ↔ ∃ a ∈ axes, (a.val : ℤ) = index)

end MotionServer
