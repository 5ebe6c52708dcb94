import MotionServer.Device.ServoRuns
import MotionServer.Lib.Approach

/-!
# Profile-position moves of the virtual drive

* `Engaged`: a drive in the middle of a move, or before the cycle that starts it;
* `engaged_modelUpdate`: a cycle of an engaged drive is one step of its move;
* `Approaching`: the drive on one side of its target;
* `Approaching.ppStep`: in exact arithmetic a step is one of a mover, or it ends at the target;
* **`ppMove_arrives`**: every move stays on its side of the target, comes down to its velocity, and
  ends at the target.
-/

namespace MotionServer

namespace VirtualCiA402Servo

/-! ## Drives that move -/

section Frame

variable {F : Type} [PyFloat F] (profile : ServoProfile F) {servo : VirtualCiA402Servo F}

/-- The drive will move to the target: it is in operation, referenced and not halted, in profile
position, and it has the target or takes it in the next cycle. -/
structure Engaged (target : F) (servo : VirtualCiA402Servo F) : Prop where
  enabled : servo.sm = .operationEnabled
  stays : CiA402State.operationEnabled.process servo.od.controlword = .operationEnabled
  not_halted : servo.controlBit 8 = false
  referenced : servo.homingReferenced = true
  mode : servo.od.modeOfOperation = 1 ∧ servo.lastModeCommand = 1
  no_reset : servo.resetRequested = false
  /-- A new target of the dictionary is accepted. -/
  accepted : pyEq servo.od.targetPosition servo.lastTargetPositionCommand = false →
    servo.positionTargetIsWithinSoftwareLimits servo.od.targetPosition = true
  setpoint : servo.risingBit 4 = true → servo.od.targetPosition = target ∧
    (pyEq servo.od.targetPosition servo.lastTargetPositionCommand = true →
      servo.positionTargetRejected = false)
  active : servo.risingBit 4 = false → servo.ppActive = true ∧ servo.ppTargetPosition = target

/-- What the commands of a cycle leave as it is. -/
structure Kept (servo kept : VirtualCiA402Servo F) : Prop where
  command : kept.od.command = servo.od.command
  parameter : kept.od.parameter = servo.od.parameter
  sm : kept.sm = servo.sm
  position : kept.actualPosition = servo.actualPosition
  velocity : kept.actualVelocity = servo.actualVelocity
  active : kept.ppActive = servo.ppActive
  target : kept.ppTargetPosition = servo.ppTargetPosition
  referenced : kept.homingReferenced = servo.homingReferenced
  previous : kept.previousControlword = servo.previousControlword
  mode : kept.lastModeCommand = servo.lastModeCommand

omit [PyFloat F] in
theorem Kept.trans {first second third : VirtualCiA402Servo F} (h : Kept first second)
    (h' : Kept second third) : Kept first third :=
  ⟨h'.command.trans h.command, h'.parameter.trans h.parameter, h'.sm.trans h.sm,
    h'.position.trans h.position, h'.velocity.trans h.velocity, h'.active.trans h.active,
    h'.target.trans h.target, h'.referenced.trans h.referenced, h'.previous.trans h.previous,
    h'.mode.trans h.mode⟩

theorem positionTargetIsWithinSoftwareLimits_congr {kept : VirtualCiA402Servo F}
    (h : kept.od.parameter = servo.od.parameter) (position : F) :
    kept.positionTargetIsWithinSoftwareLimits position =
      servo.positionTargetIsWithinSoftwareLimits position := by
  have hlimits : kept.softwarePositionLimits = servo.softwarePositionLimits := by
    unfold softwarePositionLimits parameter
    rw [h]
  unfold positionTargetIsWithinSoftwareLimits
  rw [hlimits]

theorem kept_applyReset (h : servo.resetRequested = false) :
    servo.applyReset profile =
      { servo with lastDeviceResetCommand := servo.od.command .deviceResetCommand } := by
  unfold applyReset
  rw [h]
  rfl

omit [PyFloat F] in
theorem kept_applyParameterSave (servo : VirtualCiA402Servo F) :
    Kept servo servo.applyParameterSave ∧
      servo.applyParameterSave.lastDeviceResetCommand = servo.lastDeviceResetCommand ∧
      servo.applyParameterSave.positionTargetRejected = servo.positionTargetRejected ∧
      servo.applyParameterSave.lastTargetPositionCommand = servo.lastTargetPositionCommand := by
  unfold applyParameterSave
  dsimp only
  split_ifs
  · exact ⟨⟨rfl, rfl, rfl, rfl, rfl, rfl, rfl, rfl, rfl, rfl⟩, rfl, rfl, rfl⟩
  · exact ⟨⟨rfl, rfl, rfl, rfl, rfl, rfl, rfl, rfl, rfl, rfl⟩, rfl, rfl, rfl⟩

theorem kept_acceptTarget (servo : VirtualCiA402Servo F) (previousTarget : F) :
    Kept servo (servo.acceptTarget servo.od.targetPosition previousTarget) := by
  refine ⟨rfl, ?_, rfl, rfl, rfl, rfl, rfl, rfl, rfl, rfl⟩
  exact Function.update_eq_self _ _

/-- The commands of the dictionary leave a move as it is, and accept a target that starts one. -/
theorem engaged_applyOdCommands {target : F} (h : servo.Engaged target) :
    Kept servo (servo.applyOdCommands profile) ∧
      (servo.applyOdCommands profile).lastDeviceResetCommand =
        servo.od.command .deviceResetCommand ∧
      (servo.risingBit 4 = true →
        (servo.applyOdCommands profile).positionTargetRejected = false) ∧
      (pyEq servo.od.targetPosition servo.lastTargetPositionCommand = true →
        (servo.applyOdCommands profile).lastTargetPositionCommand =
          servo.lastTargetPositionCommand) := by
  unfold applyOdCommands
  rw [kept_applyReset profile h.no_reset]
  set answered := { servo with lastDeviceResetCommand := servo.od.command .deviceResetCommand }
  obtain ⟨hkept, hreset, hrejected, hlast⟩ := kept_applyParameterSave answered
  set saved := answered.applyParameterSave
  have hmode : saved.applyMode = saved := by
    refine if_neg (not_not.mpr ?_)
    have hcommand : saved.od.modeOfOperation = servo.od.modeOfOperation :=
      congrFun hkept.command .modeOfOperation
    rw [hcommand, hkept.mode, h.mode.1]
    exact h.mode.2.symm
  have htarget : saved.od.targetPosition = servo.od.targetPosition :=
    congrFun hkept.parameter .targetPosition
  have hanswered : Kept servo answered := ⟨rfl, rfl, rfl, rfl, rfl, rfl, rfl, rfl, rfl, rfl⟩
  have hsaved : Kept servo saved := hanswered.trans hkept
  rw [applyModeAndTarget, hmode, applyTarget, htarget, hlast]
  cases hsame : pyEq servo.od.targetPosition servo.lastTargetPositionCommand with
  | true =>
    rw [if_pos rfl]
    exact ⟨hsaved, hreset, fun hrising => hrejected.trans ((h.setpoint hrising).2 hsame),
      fun _ => hlast⟩
  | false =>
    have hreferenced : ¬ (saved.positionCommandRequiresReference ∧
        saved.homingReferenced = false) := by
      rw [hsaved.referenced, h.referenced]
      exact fun hnot => Bool.noConfusion hnot.2
    have hwithin :
        ¬ saved.positionTargetIsWithinSoftwareLimits servo.od.targetPosition = false := by
      have heq : saved.positionTargetIsWithinSoftwareLimits servo.od.targetPosition =
          servo.positionTargetIsWithinSoftwareLimits servo.od.targetPosition :=
        positionTargetIsWithinSoftwareLimits_congr hsaved.parameter _
      rw [heq, h.accepted hsame]
      exact Bool.noConfusion
    rw [if_neg Bool.false_ne_true, setTargetPosition, if_neg hreferenced, if_neg hwithin]
    have haccept := kept_acceptTarget saved answered.lastTargetPositionCommand
    rw [htarget] at haccept
    exact ⟨hsaved.trans haccept, hreset, fun _ => rfl, nofun⟩

/-- A drive in the cycle of a move, before the motion. -/
structure Ready (target : F) (servo ready : VirtualCiA402Servo F) : Prop where
  command : ready.od.command = servo.od.command
  parameter : ready.od.parameter = servo.od.parameter
  position : ready.actualPosition = servo.actualPosition
  velocity : ready.actualVelocity = servo.actualVelocity
  enabled : ready.sm = .operationEnabled
  referenced : ready.homingReferenced = true
  mode : ready.lastModeCommand = 1
  reset : ready.lastDeviceResetCommand = servo.od.command .deviceResetCommand
  last : pyEq servo.od.targetPosition servo.lastTargetPositionCommand = true →
    ready.lastTargetPositionCommand = servo.lastTargetPositionCommand
  active : ready.ppActive = true
  target : ready.ppTargetPosition = target

/-- **A cycle of an engaged drive** is one of its move. -/
theorem engaged_afterMotion {target : F} (h : servo.Engaged target) :
    ∃ ready, Ready target servo ready ∧ servo.afterMotion profile = ready.ppMove profile := by
  obtain ⟨hkept, hreset, hrejected, hlast⟩ := engaged_applyOdCommands profile h
  set applied := servo.applyOdCommands profile with happlied
  have hcontrolword : applied.od.controlword = servo.od.controlword :=
    congrFun hkept.command .controlword
  have hrising : applied.risingBit 4 = servo.risingBit 4 := by
    rw [risingBit, risingBit, controlBit, controlBit, hcontrolword, hkept.previous]
  have htaken : servo.taken profile =
      { applied with haltActive := false, sm := .operationEnabled } := by
    have hbit : applied.controlBit 8 = false := by
      rw [controlBit, hcontrolword]
      exact h.not_halted
    have hsm : applied.sm.process applied.od.controlword = .operationEnabled := by
      rw [hkept.sm, hcontrolword, h.enabled]
      exact h.stays
    unfold VirtualCiA402Servo.taken processControlword
    rw [← happlied, hbit, hsm]
    exact if_neg fun hnot => Bool.noConfusion hnot.2
  set start := servo.taken profile with hstart
  have hmode : start.od.modeOfOperation = 1 := by
    rw [htaken]
    exact (congrFun hkept.command .modeOfOperation).trans h.mode.1
  have hreferenced : start.homingReferenced = true := by
    rw [htaken]
    exact hkept.referenced.trans h.referenced
  have hstartRising : start.risingBit 4 = servo.risingBit 4 := by
    rw [htaken]
    exact hrising
  have hsetpoint : ¬ (start.risingBit 4 ∧ start.positionTargetRejected) := by
    rw [hstartRising, htaken]
    rintro ⟨hbit, hnot⟩
    rw [show applied.positionTargetRejected = _ from hrejected hbit] at hnot
    exact Bool.noConfusion hnot
  have hready : Ready target servo start.acceptSetpoint := by
    rw [acceptSetpoint, hstartRising, htaken]
    cases hbit : servo.risingBit 4 with
    | true =>
      rw [if_pos rfl]
      exact ⟨hkept.command, hkept.parameter, hkept.position, hkept.velocity, rfl,
        hkept.referenced.trans h.referenced, hkept.mode.trans h.mode.2, hreset, hlast, rfl,
        (congrFun hkept.parameter .targetPosition).trans (h.setpoint hbit).1⟩
    | false =>
      rw [if_neg Bool.false_ne_true]
      exact ⟨hkept.command, hkept.parameter, hkept.position, hkept.velocity, rfl,
        hkept.referenced.trans h.referenced, hkept.mode.trans h.mode.2, hreset, hlast,
        hkept.active.trans (h.active hbit).1, hkept.target.trans (h.active hbit).2⟩
  refine ⟨start.acceptSetpoint, hready, ?_⟩
  have henabled : start.operationEnabled = true := by
    rw [htaken]
    rfl
  have hhalt : start.haltActive = false := by rw [htaken]
  rw [VirtualCiA402Servo.afterMotion, ← hstart, if_pos henabled, processMode, if_pos hmode,
    processPp, hhalt, if_neg Bool.false_ne_true, hreferenced, if_neg Bool.noConfusion,
    if_neg hsetpoint, ppContinue]
  exact if_neg (by rw [hready.active]; exact Bool.noConfusion)

/-- What the motion of a move leaves as it is. -/
structure MoveFrame (ready moved : VirtualCiA402Servo F) : Prop where
  command : moved.od.command = ready.od.command
  parameter : moved.od.parameter = ready.od.parameter
  sm : moved.sm = ready.sm
  referenced : moved.homingReferenced = ready.homingReferenced
  mode : moved.lastModeCommand = ready.lastModeCommand
  reset : moved.lastDeviceResetCommand = ready.lastDeviceResetCommand
  last : moved.lastTargetPositionCommand = ready.lastTargetPositionCommand
  target : moved.ppTargetPosition = ready.ppTargetPosition

/-- The motion of a move without what it reports. -/
def ppStep (profile : ServoProfile F) (ready : VirtualCiA402Servo F) : VirtualCiA402Servo F :=
  if ready.ppInWindow profile then ready.arrive
  else
    let next := ready.advance profile (ready.ppVelocity profile ready.ppTargetPosition)
    let remaining := ready.ppTargetPosition - ready.actualPosition
    if pyEq remaining 0.0 ∨ remaining * (ready.ppTargetPosition - next.actualPosition) ≤ 0.0 then
      ready.arrive
    else next

theorem updateTargetReached_eq (servo : VirtualCiA402Servo F) :
    ∃ counter reached, servo.updateTargetReached profile =
      { servo with windowCounter := counter, targetReached := reached } := by
  unfold updateTargetReached
  dsimp only
  split_ifs
  all_goals exact ⟨_, _, rfl⟩

theorem ppStep_frame (ready : VirtualCiA402Servo F) : MoveFrame ready (ready.ppStep profile) := by
  unfold ppStep
  dsimp only
  split_ifs
  all_goals exact ⟨rfl, rfl, rfl, rfl, rfl, rfl, rfl, rfl⟩

/-- A motion reports where it led. -/
theorem ppMove_eq (ready : VirtualCiA402Servo F) :
    MoveFrame ready (ready.ppMove profile) ∧
      (ready.ppMove profile).actualPosition = (ready.ppStep profile).actualPosition ∧
      (ready.ppMove profile).actualVelocity = (ready.ppStep profile).actualVelocity ∧
      (ready.ppMove profile).ppActive = (ready.ppStep profile).ppActive := by
  obtain ⟨counter, reached, heq⟩ :=
    updateTargetReached_eq profile (ready.ppStep profile).writeActualFeedback
  have hmove : ready.ppMove profile = _ := heq
  obtain ⟨hcommand, hparameter, hsm, hreferenced, hmode, hreset, hlast, htarget⟩ :=
    ppStep_frame profile ready
  rw [hmove]
  exact ⟨⟨hcommand, hparameter, hsm, hreferenced, hmode, hreset, hlast, htarget⟩, rfl, rfl, rfl⟩

/-- **A cycle of an engaged drive** moves it by one step of its move, and it stays engaged while the
move is active. -/
theorem engaged_modelUpdate {target : F} (h : servo.Engaged target) :
    let next := servo.modelUpdate profile
    next.od.command = servo.od.command ∧ next.od.parameter = servo.od.parameter ∧
      (next.ppActive = true → next.Engaged target) ∧
      ∃ ready, Ready target servo ready ∧
        next.actualPosition = (ready.ppStep profile).actualPosition ∧
        next.actualVelocity = (ready.ppStep profile).actualVelocity ∧
        next.ppActive = (ready.ppStep profile).ppActive := by
  intro next
  obtain ⟨ready, hready, hmotion⟩ := engaged_afterMotion profile h
  obtain ⟨hframe, hposition, hvelocity, hactive⟩ := ppMove_eq profile ready
  obtain ⟨hkept, -⟩ := engaged_applyOdCommands profile h
  have hnext : next = _ := modelUpdate_eq servo
  rw [hmotion] at hnext
  have hcommand : next.od.command = servo.od.command := by
    rw [hnext]
    exact hframe.command.trans hready.command
  have hparameter : next.od.parameter = servo.od.parameter := by
    rw [hnext]
    exact hframe.parameter.trans hready.parameter
  have hcontrolword : next.od.controlword = servo.od.controlword := congrFun hcommand .controlword
  refine ⟨hcommand, hparameter, fun hmoving => ?_, ready, hready, ?_⟩
  · have hrising : next.risingBit 4 = false := by
      have hprevious : next.previousControlword = servo.od.controlword := by
        rw [hnext]
        exact congrFun hkept.command .controlword
      rw [risingBit, controlBit, hprevious, hcontrolword]
      exact Bool.and_not_self _
    have hlast : pyEq servo.od.targetPosition servo.lastTargetPositionCommand = true →
        next.lastTargetPositionCommand = servo.lastTargetPositionCommand := by
      intro hsame
      rw [hnext]
      exact hframe.last.trans (hready.last hsame)
    have htarget : next.od.targetPosition = servo.od.targetPosition :=
      congrFun hparameter .targetPosition
    refine ⟨?_, ?_, ?_, ?_, ⟨(congrFun hcommand _).trans h.mode.1, ?_⟩, ?_, fun hnew => ?_, ?_, ?_⟩
    · rw [hnext]
      exact hframe.sm.trans hready.enabled
    · rw [hcontrolword]
      exact h.stays
    · rw [controlBit, hcontrolword]
      exact h.not_halted
    · rw [hnext]
      exact hframe.referenced.trans hready.referenced
    · rw [hnext]
      exact hframe.mode.trans hready.mode
    · have hreset : next.lastDeviceResetCommand = servo.od.command .deviceResetCommand := by
        rw [hnext]
        exact hframe.reset.trans hready.reset
      rw [resetRequested, hreset, hcommand]
      exact decide_eq_false fun hnot => hnot.1 rfl
    · rw [htarget, positionTargetIsWithinSoftwareLimits_congr hparameter]
      refine h.accepted (Bool.eq_false_iff.mpr fun hsame => ?_)
      rw [htarget, hlast hsame, hsame] at hnew
      exact Bool.noConfusion hnew
    · rw [hrising]
      exact nofun
    · intro _
      refine ⟨hmoving, ?_⟩
      rw [hnext]
      exact hframe.target.trans hready.target
  · rw [hnext]
    exact ⟨hposition, hvelocity, hactive⟩

end Frame

/-! ## One cycle in exact arithmetic -/

section Real

open Approach

variable {profile : ServoProfile ℝ}

theorem moveTowards_real (current target : ℝ) {maxDelta : ℝ} (hpos : 0 < maxDelta) :
    moveTowards current target maxDelta = toward current target maxDelta := by
  have hmoves : ¬ maxDelta ≤ 0.0 := not_le.mpr (zero_literal ▸ hpos)
  rw [moveTowards, if_neg hmoves]
  simp only [pyAbs_real]
  by_cases hnear : |target - current| ≤ maxDelta
  · rw [if_pos hnear, toward_near hnear]
  · rw [if_neg hnear]
    obtain habove | hbelow := lt_abs.mp (not_le.mp hnear)
    · rw [if_pos (zero_literal ▸ hpos.trans habove), toward_above habove.le hpos.le]
      norm_num
    · rw [if_neg (by rw [zero_literal]; linarith), toward_below (by linarith) hpos.le]
      norm_num
      ring

theorem unitScale_pos (exponent : ℤ) : (0 : ℝ) < unitScale exponent := by
  rw [unitScale, pyMax_real]
  exact lt_max_of_lt_right (by norm_num)

/-- The settings of a move that takes its time. -/
structure PositiveSettings (profile : ServoProfile ℝ) (parameter : OdParameter → ℝ) : Prop where
  cycleTime : 0 < profile.cycleTime
  velocity : 0 < parameter .profileVelocity
  acceleration : 0 < parameter .profileAcceleration
  deceleration : 0 < parameter .profileDeceleration

/-- The effective profile velocity on one side of the target. -/
noncomputable def sideVelocity (parameter : OdParameter → ℝ) (side : ℝ) : ℝ :=
  let limit :=
    if side = -1 ∧ 0 < |parameter .negativeVelocityLimit * 1000.0| then
      |parameter .negativeVelocityLimit * 1000.0|
    else |parameter .positiveVelocityLimit|
  if 0 < limit then min |parameter .profileVelocity| limit else |parameter .profileVelocity|

theorem sideVelocity_pos {parameter : OdParameter → ℝ} (h : 0 < parameter .profileVelocity)
    (side : ℝ) : 0 < sideVelocity parameter side := by
  have hpos : 0 < |parameter .profileVelocity| := abs_pos.mpr h.ne'
  have hlimited : ∀ limit : ℝ, 0 < if 0 < limit then min |parameter .profileVelocity| limit else
      |parameter .profileVelocity| := by
    intro limit
    split_ifs with hlimit
    · exact lt_min hpos hlimit
    · exact hpos
  exact hlimited _

/-- What a velocity covers in a second, in units of the position. -/
noncomputable def positionRate (command : OdCommand → ℤ) : ℝ :=
  unitScale (command .velocityExponent) / unitScale (command .positionExponent)

/-- What an acceleration changes the velocity by in a cycle. -/
noncomputable def velocityDelta (profile : ServoProfile ℝ) (command : OdCommand → ℤ)
    (acceleration : ℝ) : ℝ :=
  |acceleration| * unitScale (command .accelerationExponent) /
    unitScale (command .velocityExponent) * profile.cycleTime

/-- The mover of a move. -/
noncomputable def ppMover (profile : ServoProfile ℝ) (command : OdCommand → ℤ)
    (parameter : OdParameter → ℝ) (side : ℝ) (h : PositiveSettings profile parameter) : Mover where
  accel := velocityDelta profile command (parameter .profileAcceleration)
  decel := velocityDelta profile command (parameter .profileDeceleration)
  top := sideVelocity parameter side
  rate := positionRate command * profile.cycleTime
  accel_pos := mul_pos (div_pos (mul_pos (abs_pos.mpr h.acceleration.ne') (unitScale_pos _))
    (unitScale_pos _)) h.cycleTime
  decel_pos := mul_pos (div_pos (mul_pos (abs_pos.mpr h.deceleration.ne') (unitScale_pos _))
    (unitScale_pos _)) h.cycleTime
  top_pos := sideVelocity_pos h.velocity side
  rate_pos := mul_pos (div_pos (unitScale_pos _) (unitScale_pos _)) h.cycleTime
  stopping w := max (w * positionRate command) 0 ^ 2 /
    (2.0 * (|parameter .profileDeceleration| * unitScale (command .accelerationExponent) /
      unitScale (command .positionExponent)))
  stopping_zero := by norm_num

/-- The drive is at the distance `r` from the target, and `w` is its speed toward it. -/
structure Approaching (target side r w : ℝ) (servo : VirtualCiA402Servo ℝ) : Prop where
  one_side : side = 1 ∨ side = -1
  distance : target - servo.actualPosition = side * r
  velocity : servo.actualVelocity = side * w

variable {servo : VirtualCiA402Servo ℝ} {target side r w : ℝ}

theorem Approaching.abs_distance (h : Approaching target side r w servo) (hr : 0 ≤ r) :
    |target - servo.actualPosition| = r := by
  rw [h.distance]
  rcases h.one_side with rfl | rfl
  · rw [one_mul, abs_of_nonneg hr]
  · rw [neg_one_mul, abs_neg, abs_of_nonneg hr]

theorem Approaching.abs_velocity (h : Approaching target side r w servo) :
    |servo.actualVelocity| = |w| := by
  rw [h.velocity]
  rcases h.one_side with rfl | rfl
  · rw [one_mul]
  · rw [neg_one_mul, abs_neg]

theorem Approaching.velocity_mul (h : Approaching target side r w servo) :
    servo.actualVelocity * side = w := by
  rw [h.velocity]
  rcases h.one_side with rfl | rfl <;> ring

theorem Approaching.maxVelocity (h : Approaching target side r w servo) (hr : 0 < r) :
    servo.maxVelocity target = sideVelocity servo.od.parameter side := by
  have hdistance := h.distance
  have hside : target < servo.actualPosition ↔ side = -1 := by
    rcases h.one_side with rfl | rfl
    · exact iff_of_false (by linarith) (by norm_num)
    · exact iff_of_true (by linarith) rfl
  simp only [VirtualCiA402Servo.maxVelocity, sideVelocity, positiveVelocityLimit,
    negativeVelocityLimit, parameter, pyAbs_real, pyMin_real, zero_literal, hside]

/-- **The velocity of a cycle** is that of the mover. -/
theorem Approaching.ppVelocity (h : Approaching target side r w servo) (hr : 0 < r)
    (hsettings : PositiveSettings profile servo.od.parameter) :
    servo.ppVelocity profile target =
      side * (ppMover profile servo.od.command servo.od.parameter side hsettings).speed r w := by
  set m := ppMover profile servo.od.command servo.od.parameter side hsettings with hm
  have hdirection : (if 0 ≤ side * r then 1.0 else -1.0 : ℝ) = side := by
    rcases h.one_side with rfl | rfl
    · rw [if_pos (by linarith)]
      norm_num
    · rw [if_neg (by linarith)]
      norm_num
  have haway : servo.actualVelocity * side = w := h.velocity_mul
  have hrate : servo.velocityToPositionRate servo.actualVelocity * side =
      w * positionRate servo.od.command := by
    rw [velocityToPositionRate, velocityScale, positionScale, positionRate, ← haway]
    ring
  have hdelta : ∀ limit : OdParameter,
      servo.accelerationToVelocityDelta profile |servo.parameter limit| =
        velocityDelta profile servo.od.command (servo.od.parameter limit) := fun _ => rfl
  have hdecel : 0 < servo.accelerationToPositionRate |servo.parameter .profileDeceleration| :=
    div_pos (mul_pos (abs_pos.mpr hsettings.deceleration.ne') (unitScale_pos _)) (unitScale_pos _)
  have hreach : |side * r| = r := by
    rw [← h.distance]
    exact h.abs_distance hr.le
  have hstopping : max (w * positionRate servo.od.command) 0 ^ 2 /
      (2.0 * servo.accelerationToPositionRate |servo.parameter .profileDeceleration|) =
        m.stopping w := rfl
  have hbrake : moveTowards servo.actualVelocity 0
      (velocityDelta profile servo.od.command (servo.od.parameter .profileDeceleration)) =
        side * toward w 0 m.decel := by
    show moveTowards servo.actualVelocity 0 m.decel = _
    rw [moveTowards_real _ _ m.decel_pos, h.velocity, ← toward_mul h.one_side _ _ m.decel_pos.le,
      mul_zero]
  have haccelerate : moveTowards servo.actualVelocity (side * servo.maxVelocity target)
      (velocityDelta profile servo.od.command (servo.od.parameter .profileAcceleration)) =
        side * toward w m.top m.accel := by
    show moveTowards servo.actualVelocity _ m.accel = _
    rw [moveTowards_real _ _ m.accel_pos, h.velocity, h.maxVelocity hr,
      ← toward_mul h.one_side _ _ m.accel_pos.le]
    rfl
  unfold VirtualCiA402Servo.ppVelocity
  simp only [h.distance, hdirection, haway, hrate, pyAbs_real, pyMax_real, zero_literal,
    hreach, hdelta, if_pos hdecel, hstopping, hbrake, haccelerate]
  unfold Mover.speed Mover.nextSpeed
  by_cases haway' : w < 0
  · rw [if_pos haway', if_pos haway']
  · rw [if_neg haway', if_neg haway']
    by_cases hstop : r ≤ m.stopping w
    · rw [if_pos hstop, if_pos hstop]
    · rw [if_neg hstop, if_neg hstop]

/-- The drive stands at the target, and its move has ended. -/
structure Arrived (target : ℝ) (servo : VirtualCiA402Servo ℝ) : Prop where
  position : servo.actualPosition = target
  velocity : servo.actualVelocity = 0
  inactive : servo.ppActive = false

theorem arrived_arrive (h : servo.ppTargetPosition = target) : Arrived target servo.arrive :=
  ⟨h, zero_literal, rfl⟩

/-- **A step of a move is one of its mover,** or it ends at the target. -/
theorem Approaching.ppStep (h : Approaching target side r w servo) (hr : 0 < r)
    (htarget : servo.ppTargetPosition = target)
    (hsettings : PositiveSettings profile servo.od.parameter) :
    let m := ppMover profile servo.od.command servo.od.parameter side hsettings
    let next := servo.ppStep profile
    Arrived target next ∨ next.ppActive = servo.ppActive ∧ 0 < r - m.speed r w * m.rate ∧
      Approaching target side (r - m.speed r w * m.rate) (m.speed r w) next := by
  intro m next
  have hspeed := h.ppVelocity hr hsettings
  have hposition :
      target - (servo.advance profile (servo.ppVelocity profile target)).actualPosition =
        side * (r - m.speed r w * m.rate) := by
    have hrate : servo.velocityToPositionRate (side * m.speed r w) * profile.cycleTime =
        side * (m.speed r w * m.rate) := by
      show side * m.speed r w * servo.velocityScale / servo.positionScale * profile.cycleTime =
        side * (m.speed r w * (servo.velocityScale / servo.positionScale * profile.cycleTime))
      ring
    show target - (servo.actualPosition + servo.velocityToPositionRate _ * profile.cycleTime) = _
    rw [hspeed, hrate, sub_add_eq_sub_sub, h.distance]
    ring
  have hproduct : (target - servo.actualPosition) *
      (target - (servo.advance profile (servo.ppVelocity profile target)).actualPosition) =
        r * (r - m.speed r w * m.rate) := by
    rw [hposition, h.distance]
    rcases h.one_side with rfl | rfl <;> ring
  show Arrived target (servo.ppStep profile) ∨ (servo.ppStep profile).ppActive = _ ∧ _ ∧
    Approaching target side _ _ (servo.ppStep profile)
  unfold VirtualCiA402Servo.ppStep
  rw [htarget]
  dsimp only
  rw [hproduct, zero_literal]
  split_ifs with hwindow hcross
  · exact .inl (arrived_arrive htarget)
  · exact .inl (arrived_arrive htarget)
  · have hbefore : 0 < r * (r - m.speed r w * m.rate) := not_le.mp (not_or.mp hcross).2
    exact .inr ⟨rfl, pos_of_mul_pos_right hbefore hr.le, h.one_side, hposition, hspeed⟩

/-- A drive at the target of its move ends it. -/
theorem arrived_ppStep (htarget : servo.ppTargetPosition = target)
    (hthere : target - servo.actualPosition = 0) : Arrived target (servo.ppStep profile) := by
  unfold VirtualCiA402Servo.ppStep
  rw [htarget, hthere]
  dsimp only
  split_ifs with hwindow hcross
  · exact arrived_arrive htarget
  · exact arrived_arrive htarget
  · exact absurd (.inl ((pyEq_real _ _).mpr zero_literal.symm)) hcross

/-! ## Cycles of a move -/

/-- Every drive is on one side of the target, or at it. -/
theorem exists_approaching (servo : VirtualCiA402Servo ℝ) (target : ℝ) :
    ∃ side r w, 0 ≤ r ∧ Approaching target side r w servo := by
  rcases le_total 0 (target - servo.actualPosition) with h | h
  · exact ⟨1, _, servo.actualVelocity, h, .inl rfl, (one_mul _).symm, (one_mul _).symm⟩
  · exact ⟨-1, -(target - servo.actualPosition), -servo.actualVelocity, neg_nonneg.mpr h, .inr rfl,
      by ring, by ring⟩

/-- A drive in a move whose objects do not change. -/
structure Underway (target : ℝ) (command : OdCommand → ℤ) (parameter : OdParameter → ℝ)
    (servo : VirtualCiA402Servo ℝ) : Prop where
  engaged : servo.Engaged target
  command : servo.od.command = command
  parameter : servo.od.parameter = parameter

variable {command : OdCommand → ℤ} {parameter : OdParameter → ℝ}
  (hsettings : PositiveSettings profile parameter)

/-- **A cycle at a distance from the target** is one of the mover, or it ends at the target. -/
theorem Underway.cycle (h : Underway target command parameter servo)
    (happroaching : Approaching target side r w servo) (hr : 0 < r) :
    let m := ppMover profile command parameter side hsettings
    let next := servo.modelUpdate profile
    Arrived target next ∨ Underway target command parameter next ∧ 0 < r - m.speed r w * m.rate ∧
      Approaching target side (r - m.speed r w * m.rate) (m.speed r w) next := by
  obtain ⟨hengaged, rfl, rfl⟩ := h
  intro m next
  obtain ⟨hcommand, hparameter, hstays, ready, hready, hposition, hvelocity, hactive⟩ :=
    engaged_modelUpdate profile hengaged
  have happroaching' : Approaching target side r w ready :=
    ⟨happroaching.one_side, by rw [hready.position]; exact happroaching.distance,
      hready.velocity.trans happroaching.velocity⟩
  have hsettings' : PositiveSettings profile ready.od.parameter := by rwa [hready.parameter]
  have hmover : ppMover profile ready.od.command ready.od.parameter side hsettings' = m := by
    simp only [hready.command, hready.parameter, m]
  obtain harrived | ⟨hmoving, hpos, hnext⟩ :=
    happroaching'.ppStep hr hready.target hsettings'
  · exact .inl ⟨hposition.trans harrived.position, hvelocity.trans harrived.velocity,
      hactive.trans harrived.inactive⟩
  · rw [hmover] at hpos hnext
    refine .inr ⟨⟨hstays ?_, hcommand, hparameter⟩, hpos, hnext.one_side, ?_, ?_⟩
    · exact (hactive.trans hmoving).trans hready.active
    · rw [hposition]
      exact hnext.distance
    · exact hvelocity.trans hnext.velocity

/-- A cycle at the target ends the move. -/
theorem Underway.cycle_at_target (h : Underway target command parameter servo)
    (hthere : target - servo.actualPosition = 0) : Arrived target (servo.modelUpdate profile) := by
  obtain ⟨-, -, -, ready, hready, hposition, hvelocity, hactive⟩ :=
    engaged_modelUpdate profile h.engaged
  have harrived : Arrived target (ready.ppStep profile) :=
    arrived_ppStep hready.target (by rw [hready.position]; exact hthere)
  exact ⟨hposition.trans harrived.position, hvelocity.trans harrived.velocity,
    hactive.trans harrived.inactive⟩

/-- What holds in each cycle of a move. -/
structure CycleSafe (target : ℝ) (servo next : VirtualCiA402Servo ℝ) : Prop where
  /-- The drive does not pass the target. -/
  same_side : 0 ≤ (target - servo.actualPosition) * (target - next.actualPosition)
  falls : servo.maxVelocity target < |servo.actualVelocity| →
    |next.actualVelocity| < |servo.actualVelocity|
  below : |servo.actualVelocity| ≤ servo.maxVelocity target →
    |next.actualVelocity| ≤ servo.maxVelocity target

theorem maxVelocity_nonneg (servo : VirtualCiA402Servo ℝ) (target : ℝ) :
    0 ≤ servo.maxVelocity target := by
  have hlimited : ∀ velocity limit : ℝ, 0 ≤ velocity →
      0 ≤ if 0.0 < limit then pyMin velocity limit else velocity := by
    intro velocity limit hvelocity
    split_ifs with hlimit
    · rw [pyMin_real]
      exact le_min hvelocity (zero_literal ▸ hlimit).le
    · exact hvelocity
  exact hlimited _ _ (by rw [pyAbs_real]; exact abs_nonneg _)

theorem CycleSafe.of_arrived {next : VirtualCiA402Servo ℝ} (h : Arrived target next) :
    CycleSafe target servo next where
  same_side := by rw [h.position, sub_self, mul_zero]
  falls hfast := by
    rw [h.velocity, abs_zero]
    exact (maxVelocity_nonneg servo target).trans_lt hfast
  below _ := by
    rw [h.velocity, abs_zero]
    exact maxVelocity_nonneg servo target

include hsettings in
/-- **Every cycle of a move** is safe, and ends the move or continues it. -/
theorem Underway.safe (h : Underway target command parameter servo) :
    let next := servo.modelUpdate profile
    CycleSafe target servo next ∧
      (Arrived target next ∨ Underway target command parameter next) := by
  intro next
  obtain ⟨side, r, w, hr, happroaching⟩ := exists_approaching servo target
  rcases hr.eq_or_lt with rfl | hpos
  · have harrived : Arrived target next := h.cycle_at_target (by
      rw [happroaching.distance, mul_zero])
    exact ⟨.of_arrived harrived, .inl harrived⟩
  · obtain harrived | ⟨hnext, hpos', happroaching'⟩ := h.cycle hsettings happroaching hpos
    · exact ⟨.of_arrived harrived, .inl harrived⟩
    · set m := ppMover profile command parameter side hsettings
      have hvelocity := happroaching.abs_velocity
      have hvelocity' := happroaching'.abs_velocity
      have htop : servo.maxVelocity target = m.top := by
        rw [happroaching.maxVelocity hpos, h.parameter]
        rfl
      refine ⟨⟨?_, ?_, ?_⟩, .inr hnext⟩
      · have hproduct : (target - servo.actualPosition) * (target - next.actualPosition) =
            r * (r - m.speed r w * m.rate) := by
          rw [happroaching.distance, happroaching'.distance]
          rcases happroaching.one_side with rfl | rfl <;> ring
        rw [hproduct]
        exact (mul_pos hpos hpos').le
      · rw [htop, hvelocity, hvelocity']
        exact m.abs_speed_lt hpos
      · rw [htop, hvelocity, hvelocity']
        exact m.abs_speed_le hpos

/-! ## Moves to their end -/

/-- The drive has turned toward the target, if it was moving away, no faster than `bound`. -/
def Forward (target : ℝ) (command : OdCommand → ℤ) (parameter : OdParameter → ℝ) (side bound : ℝ)
    (servo : VirtualCiA402Servo ℝ) : Prop :=
  Underway target command parameter servo ∧
    ∃ r w, Approaching target side r w servo ∧ 0 < r ∧ 0 ≤ w ∧ w ≤ bound

/-- The drive moves away from the target. -/
def Away (target : ℝ) (command : OdCommand → ℤ) (parameter : OdParameter → ℝ) (side : ℝ)
    (servo : VirtualCiA402Servo ℝ) : Prop :=
  Underway target command parameter servo ∧
    ∃ r w, Approaching target side r w servo ∧ 0 < r ∧ w < 0

include hsettings in
/-- A drive that moves toward the target arrives. -/
theorem exists_arrived_of_forward {bound : ℝ} (hbound : sideVelocity parameter side ≤ bound)
    (h : Forward target command parameter side bound servo) :
    ∃ k, Arrived target ((modelUpdate profile)^[k] servo) := by
  set m := ppMover profile command parameter side hsettings with hm
  refine exists_iterate (P := Forward target command parameter side bound)
    (fun servo => m.rank bound |target - servo.actualPosition| |servo.actualVelocity|) ?_ h
  rintro servo ⟨hunderway, r, w, happroaching, hr, hw, hle⟩
  obtain harrived | ⟨hnext, hpos, happroaching'⟩ := hunderway.cycle hsettings happroaching hr
  · exact .inl harrived
  · rw [← hm, m.speed_of_nonneg hw] at hpos happroaching'
    have hspeed := m.nextSpeed_nonneg hr hw
    refine .inr ⟨⟨hnext, _, _, happroaching', hpos, hspeed, ?_⟩, ?_⟩
    · exact (m.nextSpeed_le hr hw).trans (max_le hle hbound)
    · rw [happroaching.abs_distance hr.le, happroaching.abs_velocity, abs_of_nonneg hw,
        happroaching'.abs_distance hpos.le, happroaching'.abs_velocity, abs_of_nonneg hspeed]
      exact m.rank_lt hr hw hle hbound

include hsettings in
/-- A drive that moves away turns toward the target. -/
theorem exists_turned (h : Away target command parameter side servo) :
    ∃ k, Arrived target ((modelUpdate profile)^[k] servo) ∨
      ∃ bound, sideVelocity parameter side ≤ bound ∧
        Forward target command parameter side bound ((modelUpdate profile)^[k] servo) := by
  set m := ppMover profile command parameter side hsettings with hm
  refine exists_iterate (P := Away target command parameter side)
    (Q := fun servo => Arrived target servo ∨ ∃ bound, sideVelocity parameter side ≤ bound ∧
      Forward target command parameter side bound servo)
    (fun servo => m.awayRank (servo.actualVelocity * side)) ?_ h
  rintro servo ⟨hunderway, r, w, happroaching, hr, hw⟩
  obtain harrived | ⟨hnext, hpos, happroaching'⟩ := hunderway.cycle hsettings happroaching hr
  · exact .inl (.inl harrived)
  · rw [← hm] at hpos happroaching'
    rcases lt_or_ge (m.speed r w) 0 with hstill | hturned
    · refine .inr ⟨⟨hnext, _, _, happroaching', hpos, hstill⟩, ?_⟩
      rw [happroaching'.velocity_mul, happroaching.velocity_mul]
      exact m.awayRank_lt hw
    · exact .inl (.inr ⟨_, le_max_left _ (m.speed r w), hnext, _, _, happroaching', hpos, hturned,
        le_max_right _ _⟩)

include hsettings in
/-- **Every move arrives.** -/
theorem Underway.exists_arrived (h : Underway target command parameter servo) :
    ∃ k, Arrived target ((modelUpdate profile)^[k] servo) := by
  obtain ⟨side, r, w, hr, happroaching⟩ := exists_approaching servo target
  rcases hr.eq_or_lt with rfl | hpos
  · exact ⟨1, h.cycle_at_target (by rw [happroaching.distance, mul_zero])⟩
  rcases lt_or_ge w 0 with haway | htoward
  · obtain ⟨k, harrived | ⟨bound, hbound, hforward⟩⟩ :=
      exists_turned hsettings ⟨h, r, w, happroaching, hpos, haway⟩
    · exact ⟨k, harrived⟩
    · obtain ⟨j, harrived⟩ := exists_arrived_of_forward hsettings hbound hforward
      exact ⟨j + k, by rwa [Function.iterate_add_apply]⟩
  · exact exists_arrived_of_forward hsettings (le_max_left _ w)
      ⟨h, r, w, happroaching, hpos, htoward, le_max_right _ _⟩

include hsettings in
/-- The cycles up to the first one in which the drive arrives are safe. -/
theorem Underway.safe_until (h : Underway target command parameter servo) {k : ℕ}
    (hk : Arrived target ((modelUpdate profile)^[k] (servo.modelUpdate profile))) :
    ∃ n, Arrived target ((modelUpdate profile)^[n + 1] servo) ∧
      ∀ j ≤ n, CycleSafe target ((modelUpdate profile)^[j] servo)
        ((modelUpdate profile)^[j + 1] servo) := by
  induction k generalizing servo with
  | zero => exact ⟨0, hk, fun j hj => Nat.le_zero.mp hj ▸ (h.safe hsettings).1⟩
  | succ k ih =>
    obtain ⟨hsafe, harrived | hnext⟩ := h.safe hsettings
    · exact ⟨0, harrived, fun j hj => Nat.le_zero.mp hj ▸ hsafe⟩
    · obtain ⟨n, hn, hsafes⟩ := ih hnext hk
      refine ⟨n + 1, hn, fun j hj => ?_⟩
      cases j with
      | zero => exact hsafe
      | succ j => exact hsafes j (Nat.le_of_succ_le_succ hj)

end Real

/-- **A profile-position move** arrives after finitely many cycles, and each cycle until then is
safe. -/
theorem ppMove_arrives (profile : ServoProfile ℝ) {servo : VirtualCiA402Servo ℝ}
    (hsettings : PositiveSettings profile servo.od.parameter) {target : ℝ}
    (hengaged : servo.Engaged target) :
    ∃ n, Arrived target ((modelUpdate profile)^[n + 1] servo) ∧
      ∀ k ≤ n, CycleSafe target ((modelUpdate profile)^[k] servo)
        ((modelUpdate profile)^[k + 1] servo) := by
  have hunderway : Underway target servo.od.command servo.od.parameter servo :=
    ⟨hengaged, rfl, rfl⟩
  obtain ⟨-, harrived | hnext⟩ := hunderway.safe hsettings
  · exact hunderway.safe_until hsettings (k := 0) harrived
  · obtain ⟨k, hk⟩ := hnext.exists_arrived hsettings
    exact hunderway.safe_until hsettings hk

/-- A drive with a cycle time of one second. -/
noncomputable def unitProfile : ServoProfile ℝ := ⟨1, .profilePositionBasic, []⟩

/-- A drive at rest in front of the cycle that starts a move to `1`. -/
noncomputable def unitServo : VirtualCiA402Servo ℝ :=
  { init unitProfile with
    od := { (init unitProfile).od with
      command := fun object => match object with
        | .controlword => 0x001F
        | .modeOfOperation => 1
        | _ => 0
      parameter := fun _ => 1 }
    sm := .operationEnabled
    homingReferenced := true
    lastModeCommand := 1
    lastTargetPositionCommand := 1 }

theorem unitServo_engaged : unitServo.Engaged 1 where
  enabled := rfl
  stays := by decide
  not_halted := by decide
  referenced := rfl
  mode := ⟨rfl, rfl⟩
  no_reset := by decide
  accepted hnew := by
    rw [show pyEq unitServo.od.targetPosition unitServo.lastTargetPositionCommand = true from
      (pyEq_real _ _).mpr rfl] at hnew
    exact Bool.noConfusion hnew
  setpoint _ := ⟨rfl, fun _ => rfl⟩
  active hbit := absurd hbit (by decide)

theorem ppMove_arrives_unit : ∃ n, Arrived 1 ((modelUpdate unitProfile)^[n + 1] unitServo) ∧
    ∀ k ≤ n, CycleSafe 1 ((modelUpdate unitProfile)^[k] unitServo)
      ((modelUpdate unitProfile)^[k + 1] unitServo) :=
  ppMove_arrives unitProfile ⟨one_pos, one_pos, one_pos, one_pos⟩ unitServo_engaged

end VirtualCiA402Servo

end MotionServer
