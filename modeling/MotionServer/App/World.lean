import MotionServer.Control.TrajectoryMessage
import MotionServer.Device.Drive
import MotionServer.Lib.Prog

/-!
# The server and its axes

* `World`: the state of the server, of the motion controller and of the process data;
* `updateEach`: a write for each entry of a list of axes, in order;
* the operations of the runtime: `setTargetPositions`, `syncTrajectoryToActualPositions`,
  `holdAxes`, `setAxisTrajectories`, `completeTrajectory`, `trajectoryProgress`;
* the guards of the handlers: `faultedAxes`, `disabledOperationAxes`, `rejectIfAnyAxisDisabled`,
  `requirePdoFieldsForMode`.
-/

namespace MotionServer

instance decidableMemAxes {n : ℕ} (a : Fin n) (axes : List (Fin n)) : Decidable (a ∈ axes) :=
  inferInstance

/-- `trajectory["state"]`. -/
inductive TrajectoryStatus
  | idle
  | rejected
  | fault
  | running
  | complete
  | stopped
  | stopRejected
  | axisStop
  | axisDisable
  | axisRestart
  deriving DecidableEq, Repr

/-- `state["trajectory"]`. -/
structure TrajectoryState (n : ℕ) (F : Type) where
  active : Bool
  state : TrajectoryStatus
  m : ℕ
  axes : Fin m → Fin n
  segment : ℕ
  timeFromStart : F
  points : List (TrajectoryPoint F m)

/-- `inactive_trajectory_state`. -/
def inactiveTrajectoryState {n : ℕ} {F : Type} [PyFloat F] (result : TrajectoryStatus) :
    TrajectoryState n F where
  active := false
  state := result
  m := 0
  axes := Fin.elim0
  segment := 0
  timeFromStart := 0.0
  points := []

/-- `homing["state"]`. -/
inductive HomingStatus
  | idle
  | rejected
  | running
  | stopped
  | error
  | complete
  deriving DecidableEq, Repr

/-- `state["homing"]`. -/
structure HomingState (n : ℕ) (F : Type) where
  active : Bool
  state : HomingStatus
  axes : List (Fin n)
  startTime : F
  originalMotionModes : Fin n → Option MotionMode
  referencedSeenLow : Fin n → Bool

/-- `inactive_homing_state`. -/
def inactiveHomingState {n : ℕ} {F : Type} [PyFloat F] (result : HomingStatus) :
    HomingState n F where
  active := false
  state := result
  axes := []
  startTime := 0.0
  originalMotionModes := fun _ => none
  referencedSeenLow := fun _ => false

/-- Where the process data cycle of the master stands. -/
inductive ProcessdataPhase
  | idle
  | prepared
  | sent
  deriving DecidableEq, Repr

/-- `ServerRuntimeState` of a server that has a runtime. -/
inductive RuntimeState
  | normal
  | busDisconnected
  | fault
  deriving DecidableEq, Repr

/-- The state of a server with `n` axes. -/
structure World (n : ℕ) (F : Type) where
  generators : Fin n → CspTrajectoryGenerator F
  settings : MotionSettings n F
  cspVelocityOffsetByAxis : Fin n → Bool
  rxpdo : Fin n → RxPDO
  txpdo : Fin n → TxPDO
  connected : Bool
  phase : ProcessdataPhase
  units : Fin n → AxisUnits
  profileVelocity : Fin n → F
  targetPositions : Fin n → F
  motionModes : Fin n → MotionMode
  jogPreviousModes : Fin n → Option MotionMode
  trajectory : TrajectoryState n F
  homing : HomingState n F
  commandAuthorityOwner : Option ℕ
  advancedMode : Bool
  runtimeState : RuntimeState
  /-- Whether the server is in `run_bus_disconnected_loop`. -/
  disconnectedLoop : Bool
  /-- How many exchanges and how many other accesses to the outside were made. -/
  exchanges : ℕ
  accesses : ℕ
  /-- The process images that were sent, the latest first. -/
  sent : List (Fin n → RxPDO)

/-- A program of the server. -/
abbrev Server (n : ℕ) (F α : Type) : Type := Prog PyExc (World n F) α

section UpdateEach

variable {n m : ℕ} {α : Type}

/-- `f i` applied at the axis of each index `i`, in order. -/
def updateEach (axes : Fin m → Fin n) (f : Fin m → α → α) (v : Fin n → α) : Fin n → α :=
  (List.finRange m).foldl (fun v i => Function.update v (axes i) (f i (v (axes i)))) v

private theorem foldl_update_apply (axes : Fin m → Fin n) (f : Fin m → α → α) (a : Fin n)
    (P : α → Prop) (l : List (Fin m)) (v : Fin n → α)
    (h : ∀ i ∈ l, axes i = a → ∀ x, P (f i x)) (hv : P (v a) ∨ ∃ i ∈ l, axes i = a) :
    P (l.foldl (fun v i => Function.update v (axes i) (f i (v (axes i)))) v a) := by
  induction l generalizing v with
  | nil => exact hv.resolve_right (by simp)
  | cons i l ih =>
    refine ih (Function.update v (axes i) (f i (v (axes i))))
      (fun j hj => h j (List.mem_cons_of_mem _ hj)) ?_
    by_cases hi : axes i = a
    · subst hi
      rw [Function.update_self]
      exact Or.inl (h i List.mem_cons_self rfl _)
    · rw [Function.update_of_ne (Ne.symm hi)]
      refine hv.imp_right ?_
      rintro ⟨j, hj, rfl⟩
      rcases List.mem_cons.mp hj with rfl | hj
      · exact absurd rfl hi
      · exact ⟨j, hj, rfl⟩

/-- What every write at an axis establishes holds of an axis that is written. -/
theorem updateEach_of_mem {axes : Fin m → Fin n} {f : Fin m → α → α} {v : Fin n → α} {a : Fin n}
    {P : α → Prop} (ha : ∃ i, axes i = a) (h : ∀ i, axes i = a → ∀ x, P (f i x)) :
    P (updateEach axes f v a) := by
  refine foldl_update_apply axes f a P _ v (fun i _ => h i) (Or.inr ?_)
  obtain ⟨i, hi⟩ := ha
  exact ⟨i, List.mem_finRange i, hi⟩

/-- An axis that is not written keeps its value. -/
theorem updateEach_of_notMem {axes : Fin m → Fin n} {f : Fin m → α → α} {v : Fin n → α}
    {a : Fin n} (ha : ∀ i, axes i ≠ a) : updateEach axes f v a = v a :=
  foldl_update_apply axes f a (· = v a) _ v (fun i _ hi => absurd hi (ha i)) (Or.inl rfl)

end UpdateEach

variable {n : ℕ} {F : Type} [PyFloat F]

namespace World

/-- `actual_positions` at an axis. -/
def actualPosition (w : World n F) (axisIndex : Fin n) : F :=
  PyFloat.ofInt (w.txpdo axisIndex).actualPosition.toInt

omit [PyFloat F]

def setGenerator (w : World n F) (axisIndex : Fin n) (g : CspTrajectoryGenerator F) : World n F :=
  { w with generators := Function.update w.generators axisIndex g }

def setRxpdo (w : World n F) (axisIndex : Fin n) (f : RxPDO → RxPDO) : World n F :=
  { w with rxpdo := Function.update w.rxpdo axisIndex (f (w.rxpdo axisIndex)) }

@[simp] theorem setGenerator_self (w : World n F) (a : Fin n) (g : CspTrajectoryGenerator F) :
    (w.setGenerator a g).generators a = g := Function.update_self ..

theorem setGenerator_of_ne (w : World n F) {a b : Fin n} (g : CspTrajectoryGenerator F)
    (h : b ≠ a) : (w.setGenerator a g).generators b = w.generators b := Function.update_of_ne h ..

@[simp] theorem setRxpdo_self (w : World n F) (a : Fin n) (f : RxPDO → RxPDO) :
    (w.setRxpdo a f).rxpdo a = f (w.rxpdo a) := Function.update_self ..

theorem setRxpdo_of_ne (w : World n F) {a b : Fin n} (f : RxPDO → RxPDO) (h : b ≠ a) :
    (w.setRxpdo a f).rxpdo b = w.rxpdo b := Function.update_of_ne h ..

def setMotionMode (w : World n F) (axisIndex : Fin n) (mode : MotionMode) : World n F :=
  { w with motionModes := Function.update w.motionModes axisIndex mode }

/-- `faulted_axes`. -/
def faultedAxes (w : World n F) : List (Fin n) :=
  (List.finRange n).filter fun axisIndex => (w.txpdo axisIndex).faulted

/-- `operation_enabled_axes`. -/
def operationEnabledAxes (w : World n F) (axes : List (Fin n)) : List (Fin n) :=
  axes.filter fun axisIndex => (w.txpdo axisIndex).operationEnabled

/-- `disabled_operation_axes`. -/
def disabledOperationAxes (w : World n F) (axes : List (Fin n)) : List (Fin n) :=
  axes.filter fun axisIndex => axisIndex ∉ w.operationEnabledAxes axes

theorem disabledOperationAxes_eq_nil {w : World n F} {axes : List (Fin n)} :
    w.disabledOperationAxes axes = [] ↔ ∀ a ∈ axes, (w.txpdo a).operationEnabled = true := by
  simp only [disabledOperationAxes, operationEnabledAxes, List.filter_eq_nil_iff, List.mem_filter,
    decide_eq_true_eq, not_not]
  exact ⟨fun h a ha => (h a ha).2, fun h a ha => ⟨ha, h a ha⟩⟩

theorem faultedAxes_eq_nil {w : World n F} :
    w.faultedAxes = [] ↔ ∀ a, (w.txpdo a).faulted = false := by
  simp [faultedAxes, List.filter_eq_nil_iff]

end World

/-! ## The runtime -/

/-- `set_target_positions`: a new target for every generator. -/
def setTargetPositions (targetPositions : Fin n → F) : Server n F Unit :=
  Prog.modify fun w =>
    { w with generators := fun a => (w.generators a).setTargetPosition (targetPositions a) }

/-- `sync_trajectory_to_actual_positions`. -/
def syncTrajectoryToActualPositions : Server n F Unit :=
  Prog.modify fun w =>
    { w with generators := fun a => (w.generators a).reset (w.actualPosition a) }

/-- `AxisDeviceGroup.set_target_position`. -/
def setTargetPosition (axisIndex : Fin n) (targetPosition : F) : Server n F Unit := do
  let target ← Prog.lift (PyFloat.roundInt targetPosition)
  Prog.modify fun w => w.setRxpdo axisIndex fun rx => { rx with targetPosition := target }

/-- `state["target_positions"] = runtime.hold_axes(state["target_positions"], axes)`. -/
def holdAxes (axes : List (Fin n)) : Server n F Unit := do
  Prog.modify fun w => { w with
    generators := fun a =>
      if a ∈ axes then (w.generators a).reset (w.actualPosition a) else w.generators a }
  let w ← Prog.get
  axes.forM fun a => setTargetPosition a (w.actualPosition a)
  Prog.modify fun w => { w with
    targetPositions := fun a => if a ∈ axes then w.actualPosition a else w.targetPositions a }

/-- `hold_axis_at_actual_position`. -/
def holdAxisAtActualPosition (axisIndex : Fin n) : Server n F Unit := holdAxes [axisIndex]

/-- `hold_faulted_axes`. -/
def holdFaultedAxes : Server n F Unit := do
  let w ← Prog.get
  Prog.onlyIf (w.faultedAxes ≠ []) do
    holdAxes w.faultedAxes
    let w ← Prog.get
    setTargetPositions w.targetPositions

/-- `set_axis_trajectories`. -/
def setAxisTrajectories {m : ℕ} (axes : Fin m → Fin n) (points : List (TrajectoryPoint F m)) :
    Server n F Unit :=
  Prog.modify fun w => { w with
    generators := updateEach axes
      (fun localIndex g => g.setTrajectoryMove (axisTimedPoints points localIndex)) w.generators }

/-- One axis of `sync_velocity_command`. -/
def syncVelocityCommand (axisIndex : Fin n) (velocity : F) : Server n F Unit :=
  Prog.modify fun w => w.setGenerator axisIndex
    { w.generators axisIndex with
      commandVelocity := velocity
      targetPosition := w.actualPosition axisIndex
      commandPosition := w.actualPosition axisIndex }

/-- What `complete_trajectory` makes of a generator. -/
def CspTrajectoryGenerator.completeAt (g : CspTrajectoryGenerator F) (finalPosition : F) :
    CspTrajectoryGenerator F :=
  { g with
    commandPosition := finalPosition
    targetPosition := finalPosition
    commandVelocity := 0.0
    commandAcceleration := 0.0 }.clearTrajectoryMove

/-- `complete_trajectory`. -/
def completeTrajectory {m : ℕ} (axes : Fin m → Fin n) (finalPositions : Fin m → F) :
    Server n F Unit := do
  Prog.modify fun w => { w with
    generators := updateEach axes (fun localIndex g => g.completeAt (finalPositions localIndex))
      w.generators }
  (List.finRange m).forM fun localIndex =>
    setTargetPosition (axes localIndex) (finalPositions localIndex)

/-- `elapsed`, `segment` and `active` of `trajectory_progress`. -/
structure TrajectoryProgress (F : Type) where
  elapsed : F
  segment : ℕ
  active : Bool

/-- `trajectory_progress`. -/
def World.trajectoryProgress (w : World n F) {m : ℕ} (axes : Fin m → Fin n) :
    TrajectoryProgress F :=
  (List.finRange m).foldl (fun progress localIndex =>
    let g := w.generators (axes localIndex)
    { elapsed := pyMax progress.elapsed g.timedElapsed
      segment := max progress.segment g.timedSegment
      active := progress.active || g.timedActive })
    { elapsed := 0.0, segment := 0, active := false }

/-! ## Guards -/

/-- `raise_operation_rejected`. -/
def operationRejected (command : String) : PyExc := .motionServer (.operation command)

/-- `reject_if_any_axis_disabled`. -/
def rejectIfAnyAxisDisabled (axes : List (Fin n)) (command : String) : Server n F Unit := do
  let w ← Prog.get
  Prog.raiseIf (w.disabledOperationAxes axes ≠ []) (operationRejected command)

/-- `reject_if_pv_not_allowed`. -/
def rejectIfPvNotAllowed (axes : List (Fin n)) (command : String) : Server n F Unit := do
  let w ← Prog.get
  Prog.raiseIf (∃ a ∈ axes, (w.units a).pvAllowed = false) (operationRejected command)

/-- The fields that `require_pdo_fields_for_mode` asks for are all mapped. -/
def World.HasPdoFieldsForMode (w : World n F) (mode : MotionMode) (axisIndex : Fin n) : Prop :=
  ∀ f ∈ modeRxFields mode ++
      (if mode = .csp ∧ w.cspVelocityOffsetByAxis axisIndex then [.velocityOffset] else []),
    (w.rxpdo axisIndex).hasField f = true

instance (w : World n F) (mode : MotionMode) (axisIndex : Fin n) :
    Decidable (w.HasPdoFieldsForMode mode axisIndex) :=
  inferInstanceAs (Decidable (∀ _ ∈ _, _))

/-- `require_pdo_fields_for_mode`. -/
def requirePdoFieldsForMode (mode : MotionMode) (axisIndex : Fin n) : Server n F Unit := do
  let w ← Prog.get
  Prog.raiseIf (¬ w.HasPdoFieldsForMode mode axisIndex) .runtimeError

end MotionServer
