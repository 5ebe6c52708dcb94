import Mathlib.Data.Int.Bitwise
import Mathlib.Tactic.Common

/-!
# The state machine of a drive

* `CiA402State`, **`CiA402State.process`**: the state after a control word;
* `CiA402State.processAll`: the state after several of them, the latest first;
* **`processAll_replicate`**: a control word that is repeated acts once.
-/

namespace MotionServer

inductive CiA402State
  | switchOnDisabled
  | readyToSwitchOn
  | switchedOn
  | operationEnabled
  | fault
  deriving DecidableEq, Repr

namespace CiA402State

/-- `CiA402StateMachine.process`. -/
def process (state : CiA402State) (controlword : ℤ) : CiA402State :=
  let masked (mask : ℤ) : ℤ := Int.land controlword mask
  if masked 0x0080 ≠ 0 then if state = fault then switchOnDisabled else state
  else if masked 0x0087 = 0 then switchOnDisabled
  else match state with
    | switchOnDisabled => if masked 0x0087 = 0x0006 then readyToSwitchOn else state
    | readyToSwitchOn => if masked 0x008F = 0x0007 then switchedOn else state
    | switchedOn =>
      if masked 0x008F = 0x000F then operationEnabled
      else if masked 0x0087 = 0x0006 then readyToSwitchOn
      else state
    | operationEnabled =>
      if masked 0x008F = 0x0007 then switchedOn
      else if masked 0x0087 = 0x0006 then readyToSwitchOn
      else state
    | fault => state

/-- `get_statusword`. -/
def statusword : CiA402State → BitVec 16
  | switchOnDisabled => 0x0040
  | readyToSwitchOn => 0x0021
  | switchedOn => 0x0023
  | operationEnabled => 0x0027
  | fault => 0x0008

/-- The state after control words, the latest of which comes first. -/
def processAll (controlwords : List ℤ) (state : CiA402State) : CiA402State :=
  controlwords.foldr (fun controlword state => state.process controlword) state

/-- **A control word that is repeated acts once**, if the state it leads to is stable under it. -/
theorem processAll_replicate (state : CiA402State) (controlword : ℤ)
    (h : (state.process controlword).process controlword = state.process controlword) (k : ℕ) :
    processAll (List.replicate (k + 1) controlword) state = state.process controlword := by
  induction k with
  | zero => rfl
  | succ k ih =>
    rw [List.replicate_succ]
    change (processAll (List.replicate (k + 1) controlword) state).process controlword = _
    rw [ih, h]

/-- The startup: `0x0006`, `0x0007` and `0x000F` take a drive without a fault into operation. -/
example : ∀ state : CiA402State, state ≠ fault →
    processAll [0x000F, 0x0007, 0x0006] state = operationEnabled := by
  intro state h
  cases state <;> first | decide | exact absurd rfl h

end CiA402State

end MotionServer
