import MotionServer.Control.TrajectoryMessage

/-!
# Decoding requests

* `commandName`: the name a request asks for;
* `selectedAxes`, `selectedSingleAxis`: the axes it names, checked against the axes there are;
* `lowerText`: an option of a request, in lower case.
-/

namespace MotionServer

variable {F : Type} {n : ℕ}

/-- `command_name`. -/
def commandName (message : Message F) : String :=
  pyStrip (message.getD "cmd" (message.getD "type" (.str ""))).text

/-- `str(message.get(key, default)).strip().lower()`. -/
def lowerText (message : Message F) (key default : String) : String :=
  pyLower (pyStrip (message.getD key (.str default)).text)

/-- `parse_int`. -/
def Value.parseInt : Value F → Except PyExc ℤ
  | .int i => .ok i
  | .bool b => .ok b.toNat
  | value => match parseIntLiteral true value.text with
    | some i => .ok i
    | none => .error .valueError

/-- The integers that `parse_axis_indices` reads. -/
def rawAxisIndices (n : ℕ) (message : Message F) : Except PyExc (List ℤ) :=
  match message.get? "axes" with
  | some axes => do (← axes.iterate).mapM Value.parseInt
  | none => match message.get? "axis" with
    | some axis => do pure [← axis.parseInt]
    | none => .ok ((List.range n).map Int.ofNat)

/-- An axis index as an axis. -/
def toAxis (n : ℕ) (index : ℤ) : Option (Fin n) :=
  if h : 0 ≤ index ∧ index < n then some ⟨index.toNat, toNat_lt_of_mem h⟩ else none

/-- The axes of a list of indices, or the first index that is out of range. -/
def axesOf (n : ℕ) : List ℤ → Except PyExc (List (Fin n))
  | [] => .ok []
  | index :: rest => match toAxis n index with
    | some axis => do pure (axis :: (← axesOf n rest))
    | none => .error (.motionServer (.resourceNotFound "axis" index))

/-- `selected_axes`. -/
def selectedAxes (n : ℕ) (message : Message F) : Except PyExc (List (Fin n)) :=
  match rawAxisIndices n message with
  | .error e =>
    if e.isTypeOrValueError then
      .error (.motionServer (.invalidArgument "axes" "must contain integer indices"))
    else .error e
  | .ok [] => .error (.motionServer (.invalidArgument "axes" "requires at least one axis"))
  | .ok axes => axesOf n axes

/-- `selected_single_axis`. -/
def selectedSingleAxis (n : ℕ) (message : Message F) : Except PyExc (Fin n) := do
  match ← selectedAxes n message with
  | [axis] => pure axis
  | _ => throw (.motionServer (.invalidArgument "axis" "requires exactly one axis"))

end MotionServer
