import MotionServer.Control.TrajectoryVerifier
import MotionServer.Control.ExactCurves

/-!
# What an accepted trajectory satisfies

* `AxisAccepted`: the checks one axis of one segment has passed;
* **`validateTrajectoryLimits_eq_none_iff`**: a trajectory is accepted exactly when every segment
  takes time and every axis of it is accepted;
* `le_stretchDuration`: the verifier only ever lengthens a duration;
* **`AxisAccepted.distance_le`**: over `ℝ`, how far an accepted segment may go.
-/

namespace MotionServer

section Accepted

variable {F : Type} [PyFloat F] {n m : ℕ} (settings : MotionSettings n F)

/-- The checks of one segment for one axis, all passed. -/
structure AxisAccepted (axisIndex : Fin n) (previous current : TrajectoryPoint F m)
    (localIndex : Fin m) : Prop where
  duration : ¬ current.timeFromStart - previous.timeFromStart + 1e-9 <
    requiredSegmentDurationForAxis settings axisIndex previous current localIndex settings.cycleTime
  start : validateWaypoint settings axisIndex previous localIndex = none
  stop : validateWaypoint settings axisIndex current localIndex = none
  accels : (previous.velocities.isSome || current.velocities.isSome) = true →
    let accels := cubicEndAccelerations (previous.positions localIndex)
      (current.positions localIndex) (trajectoryPointValue previous.velocities localIndex)
      (trajectoryPointValue current.velocities localIndex)
      (current.timeFromStart - previous.timeFromStart)
    validateSegmentAcceleration settings axisIndex accels.1 = none ∧
      validateSegmentAcceleration settings axisIndex accels.2 = none

/-- A segment that takes time and is accepted for every axis. -/
structure SegmentAccepted (axes : Fin m → Fin n) (previous current : TrajectoryPoint F m) :
    Prop where
  time : ¬ current.timeFromStart - previous.timeFromStart ≤ 0.0
  axis : ∀ localIndex, AxisAccepted settings (axes localIndex) previous current localIndex

variable {settings}

theorem validateSegmentAxis_eq_none_iff {segment : ℕ} {axisIndex : Fin n}
    {previous current : TrajectoryPoint F m} {localIndex : Fin m} :
    validateSegmentAxis settings segment axisIndex previous current localIndex = none ↔
      AxisAccepted settings axisIndex previous current localIndex := by
  constructor
  · intro h
    simp only [validateSegmentAxis] at h
    split_ifs at h with h₁ h₂
    · simp only [Option.or_eq_none_iff] at h
      exact ⟨h₁, h.1, h.2.1, fun _ => h.2.2⟩
    · simp only [Option.or_eq_none_iff] at h
      exact ⟨h₁, h.1, h.2.1, fun h₃ => absurd h₃ h₂⟩
  · intro h
    simp only [validateSegmentAxis]
    rw [if_neg h.duration, h.start, h.stop, Option.none_or, Option.none_or]
    split_ifs with h₂
    · exact Option.or_eq_none_iff.mpr (h.accels h₂)
    · rfl

theorem validateSegment_eq_none_iff {axes : Fin m → Fin n} {segment : ℕ}
    {previous current : TrajectoryPoint F m} :
    validateSegment settings axes segment previous current = none ↔
      SegmentAccepted settings axes previous current := by
  unfold validateSegment
  split_ifs with h
  · simp only [false_iff]
    exact fun h' => h'.time h
  · simp only [List.findSome?_eq_none_iff, List.mem_finRange, forall_const,
      validateSegmentAxis_eq_none_iff]
    exact ⟨fun h' => ⟨h, h'⟩, fun h' => h'.axis⟩

theorem validateTrajectoryLimits_go_eq_none_iff {axes : Fin m → Fin n} {segment : ℕ}
    {points : List (TrajectoryPoint F m)} :
    validateTrajectoryLimits.go settings axes segment points = none ↔
      points.IsChain (SegmentAccepted settings axes) := by
  induction points generalizing segment with
  | nil => simp [validateTrajectoryLimits.go]
  | cons previous rest ih =>
    cases rest with
    | nil => simp [validateTrajectoryLimits.go]
    | cons current rest =>
      rw [validateTrajectoryLimits.go, Option.or_eq_none_iff, validateSegment_eq_none_iff, ih,
        List.isChain_cons_cons]

/-- **A trajectory is accepted when every segment of it is.** -/
theorem validateTrajectoryLimits_eq_none_iff {axes : Fin m → Fin n}
    {points : List (TrajectoryPoint F m)} :
    validateTrajectoryLimits settings axes points = none ↔
      points.IsChain (SegmentAccepted settings axes) :=
  validateTrajectoryLimits_go_eq_none_iff

end Accepted

/-! ## In exact arithmetic -/

section Exact

variable {n m : ℕ} {settings : MotionSettings n ℝ} {axisIndex : Fin n}
  {previous current : TrajectoryPoint ℝ m} {localIndex : Fin m}

/-- The verifier only lengthens a duration. -/
theorem le_stretchDuration (velocityLimit accelLimit : ℝ) (fuel : ℕ) {duration : ℝ}
    (h : 0 ≤ duration) : duration ≤
      stretchDuration previous current localIndex velocityLimit accelLimit fuel duration := by
  induction fuel generalizing duration with
  | zero => exact le_rfl
  | succ fuel ih =>
    rw [stretchDuration]
    split_ifs with hratio
    · exact le_rfl
    · refine (le_mul_of_one_le_right h ?_).trans (ih (mul_nonneg h ?_)) <;>
        rw [pyMin_real, pyMax_real]
      · exact le_min (le_max_of_le_right (by norm_num)) (by norm_num)
      · exact le_min (le_max_of_le_right (by norm_num)) (by norm_num)

/-- The estimates that a required duration is never below. -/
theorem le_requiredSegmentDurationForAxis (initialDt : ℝ) (hcycle : 0 ≤ settings.cycleTime)
    (hfar : 1e-9 < |current.positions localIndex - previous.positions localIndex|) :
    let distance := |current.positions localIndex - previous.positions localIndex|
    let required :=
      requiredSegmentDurationForAxis settings axisIndex previous current localIndex initialDt
    1.875 * distance / max (settings.velocityLimit axisIndex) 1e-9 ≤ required ∧
      Real.sqrt (5.773502691896258 * distance / settings.accelLimit axisIndex) ≤ required := by
  intro distance required
  have hbase : max (max (max initialDt
      (1.875 * distance / max (settings.velocityLimit axisIndex) 1e-9))
      (Real.sqrt (5.773502691896258 * distance / settings.accelLimit axisIndex)))
      settings.cycleTime ≤ required := by
    simp only [required, requiredSegmentDurationForAxis, pyAbs_real, if_neg hfar.not_ge]
    rw [pyMax_real, pyMax_real, pyMax_real, pyMax_real]
    split_ifs
    · exact le_rfl
    · exact le_stretchDuration _ _ _ (hcycle.trans (le_max_right _ _))
  exact ⟨((le_max_right _ _).trans (le_max_left _ _)).trans ((le_max_left _ _).trans hbase),
    (le_max_right _ _).trans ((le_max_left _ _).trans hbase)⟩

theorem cycleTime_le_requiredSegmentDurationForAxis (initialDt : ℝ)
    (hcycle : 0 ≤ settings.cycleTime) : settings.cycleTime ≤
      requiredSegmentDurationForAxis settings axisIndex previous current localIndex initialDt := by
  simp only [requiredSegmentDurationForAxis]
  rw [pyMax_real, pyMax_real]
  split_ifs
  · exact le_max_right _ _
  · exact le_max_right _ _
  · exact (le_max_right _ _).trans
      (le_stretchDuration _ _ _ (hcycle.trans (le_max_right _ _)))

theorem SegmentAccepted.time_pos {axes : Fin m → Fin n}
    (h : SegmentAccepted settings axes previous current) :
    previous.timeFromStart < current.timeFromStart := by
  have ht := h.time
  rw [zero_literal] at ht
  linarith [not_le.mp ht]

theorem AxisAccepted.cycleTime_le (h : AxisAccepted settings axisIndex previous current localIndex)
    (hcycle : 0 ≤ settings.cycleTime) :
    settings.cycleTime ≤ current.timeFromStart - previous.timeFromStart + 1e-9 :=
  (cycleTime_le_requiredSegmentDurationForAxis _ hcycle).trans (not_lt.mp h.duration)

/-- **How far an accepted segment goes**, by its velocity limit and by its acceleration limit. -/
theorem AxisAccepted.distance_le (h : AxisAccepted settings axisIndex previous current localIndex)
    (hcycle : 0 ≤ settings.cycleTime) (hv : 1e-9 ≤ settings.velocityLimit axisIndex)
    (hdt : previous.timeFromStart < current.timeFromStart)
    (hfar : 1e-9 < |current.positions localIndex - previous.positions localIndex|) :
    let distance := |current.positions localIndex - previous.positions localIndex|
    let dt := current.timeFromStart - previous.timeFromStart
    1.875 * distance ≤ settings.velocityLimit axisIndex * (dt + 1e-9) ∧
      5.773502691896258 * distance ≤ settings.accelLimit axisIndex * (dt + 1e-9) ^ 2 := by
  intro distance dt
  have hreq := not_lt.mp h.duration
  obtain ⟨hvel, hacc⟩ := @le_requiredSegmentDurationForAxis _ _ settings axisIndex _ _ _
    settings.cycleTime hcycle hfar
  have hdt0 : 0 ≤ dt + 1e-9 := add_nonneg (sub_nonneg.mpr hdt.le) (by norm_num)
  have hv0 : 0 < settings.velocityLimit axisIndex := lt_of_lt_of_le (by norm_num) hv
  have ha0 : 0 < settings.accelLimit axisIndex := by
    rw [MotionSettings.accelLimit, pyMin_real, pyMax_real, pyMax_real]
    exact lt_min (lt_max_of_lt_right (by norm_num)) (lt_max_of_lt_right (by norm_num))
  rw [max_eq_left hv] at hvel
  constructor
  · rw [mul_comm (settings.velocityLimit axisIndex)]
    exact (div_le_iff₀ hv0).mp (hvel.trans hreq)
  · rw [mul_comm (settings.accelLimit axisIndex)]
    refine (div_le_iff₀ ha0).mp ?_
    exact (Real.sqrt_le_left hdt0).mp (hacc.trans hreq)

/-- One axis with unit limits and a cycle of 2 ms. -/
noncomputable def unitSettings : MotionSettings 1 ℝ where
  cycleTime := 0.002
  motionLimits _ := { maxVelocity := 1, acceleration := 1, deceleration := 1, jerk := 1 }
  positionCountsPerApiUnit _ := 1

end Exact

end MotionServer
