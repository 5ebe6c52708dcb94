import MotionServer.Control.QuinticMove
import MotionServer.Control.TrapezoidMove
import MotionServer.Lib.Except

/-!
# New targets in the middle of a move

* `MoveCommand`, `commanded`: targets and updates in any order;
* `UpdateBounds`: what an update changes position and velocity by;
* `trapezoidRunning_update`, `quinticRunning_update`: the invariants of both profiles;
* **`retargeting_bounds`**: the bounds hold for every update of every run.

An update that reaches the target sets the velocity to zero, and a quintic profile starts at rest.
-/

namespace MotionServer

namespace CspTrajectoryGenerator

/-! ## Commands -/

/-- A call of the generator. -/
inductive MoveCommand
  | setTargetPosition (position : ℝ)
  | update

/-- A call with constant limits. -/
noncomputable def commanded (cycleTime : ℝ) (limits : AxisMotionLimits ℝ)
    (g : CspTrajectoryGenerator ℝ) : MoveCommand → Except PyExc (CspTrajectoryGenerator ℝ)
  | .setTargetPosition position => .ok (g.setTargetPosition position)
  | .update =>
    g.update cycleTime limits.maxVelocity limits.acceleration limits.deceleration limits.jerk

/-- A quintic profile that is made in the next update while the generator moves. -/
def RetargetedInMotion (g : CspTrajectoryGenerator ℝ) : Prop :=
  g.cspProfile = .quintic ∧ g.pointMoveProfileState = none ∧ g.commandVelocity ≠ 0

/-- The change of velocity that the limits allow in a cycle. -/
noncomputable def velocityChange (cycleTime : ℝ) (limits : AxisMotionLimits ℝ) : ℝ :=
  max (max limits.acceleration 1e-9) (max limits.deceleration 1e-9) * max cycleTime 1e-9

/-- The way that the limits allow in a cycle. The profiles end where they are nearer than `1e-9`. -/
noncomputable def positionChange (cycleTime : ℝ) (limits : AxisMotionLimits ℝ) : ℝ :=
  max (max limits.maxVelocity 1e-9 * max cycleTime 1e-9) 1e-9

theorem velocityChange_nonneg (cycleTime : ℝ) (limits : AxisMotionLimits ℝ) :
    0 ≤ velocityChange cycleTime limits :=
  mul_nonneg (le_max_of_le_left (le_max_of_le_right (by norm_num)))
    (le_max_of_le_right (by norm_num))

/-- What an update changes. -/
structure UpdateBounds (cycleTime : ℝ) (limits : AxisMotionLimits ℝ)
    (g next : CspTrajectoryGenerator ℝ) : Prop where
  position : |next.commandPosition - g.commandPosition| ≤ positionChange cycleTime limits
  velocity : ¬ g.RetargetedInMotion →
    |next.commandVelocity - g.commandVelocity| ≤ velocityChange cycleTime limits ∨
      next.commandPosition = g.targetPosition ∧ next.commandVelocity = 0 ∧
        (g.cspProfile = .quintic →
          |next.commandVelocity - g.commandVelocity| ≤ 1.16 * velocityChange cycleTime limits)

/-! ## The trapezoid profile -/

section Trapezoid

variable {cycleTime : ℝ} {limits : AxisMotionLimits ℝ} {g : CspTrajectoryGenerator ℝ}

/-- A generator with the trapezoid profile, within the maximum velocity. -/
structure TrapezoidRunning (limits : AxisMotionLimits ℝ) (g : CspTrajectoryGenerator ℝ) : Prop where
  inactive : g.timedActive = false
  csp : g.cspProfile = .trapezoid
  velocity : |g.commandVelocity| ≤ limits.maxVelocity

theorem crossedTarget_le {way : ℝ} (h : g.crossedTarget (g.commandPosition + way) = true) :
    |g.targetPosition - g.commandPosition| ≤ |way| := by
  unfold crossedTarget at h
  split_ifs at h with hside
  · have hreach := of_decide_eq_true h
    rw [abs_of_nonneg (by linarith)]
    exact le_trans (by linarith) (le_abs_self way)
  · have hreach := of_decide_eq_true h
    rw [abs_of_nonpos (by linarith)]
    exact le_trans (by linarith) (neg_le_abs way)

/-- An update moves with the velocity of the cycle, or it goes to a target that is no further. -/
theorem trapezoidCycle_cases (c v a d : ℝ) (g : CspTrajectoryGenerator ℝ) :
    let next := g.trapezoidCycle c v a d
    let velocity := g.trapezoidVelocity c v a d
    next.timedActive = g.timedActive ∧ next.cspProfile = g.cspProfile ∧
      ((next.commandVelocity = velocity ∧
          next.commandPosition = g.commandPosition + velocity * c) ∨
        (next.commandPosition = g.targetPosition ∧ next.commandVelocity = 0 ∧
          (|g.targetPosition - g.commandPosition| ≤ 1e-9 ∨
            |g.targetPosition - g.commandPosition| ≤ |velocity * c|))) := by
  intro next velocity
  have hnext : next = _ := updateTrapezoid_real { g with pointMoveProfileState := none } c v a d
  simp only [] at hnext
  split_ifs at hnext with hnear hcrossed
  · rw [hnext]
    exact ⟨rfl, rfl, .inr ⟨rfl, zero_literal, .inl hnear.1⟩⟩
  · rw [hnext]
    refine ⟨rfl, rfl, .inr ⟨rfl, zero_literal, .inr ?_⟩⟩
    exact crossedTarget_le hcrossed
  · rw [hnext]
    exact ⟨rfl, rfl, .inl ⟨rfl, rfl⟩⟩

theorem velocityStep_mem {c a d : ℝ} (hc : 0 ≤ c) (ha : 0 ≤ a) (hd : 0 ≤ d) (v : ℝ) :
    0 ≤ g.velocityStep c v a d ∧ g.velocityStep c v a d ≤ max a d * c := by
  unfold velocityStep
  split_ifs
  · exact ⟨mul_nonneg ha hc, mul_le_mul_of_nonneg_right (le_max_left _ _) hc⟩
  · exact ⟨mul_nonneg hd hc, mul_le_mul_of_nonneg_right (le_max_right _ _) hc⟩

theorem abs_desiredVelocity_le {v : ℝ} (hv : 0 ≤ v) (d : ℝ) : |g.desiredVelocity v d| ≤ v := by
  unfold desiredVelocity
  split_ifs
  · rwa [abs_zero]
  · rw [one_mul, abs_of_nonneg hv]
  · rw [neg_one_mul, abs_neg, abs_of_nonneg hv]

/-- **An update with the trapezoid profile** keeps the bounds. -/
theorem TrapezoidRunning.update (h : g.TrapezoidRunning limits) (hv : 0 ≤ limits.maxVelocity)
    (cycleTime : ℝ) :
    ∃ next, g.commanded cycleTime limits .update = .ok next ∧ next.TrapezoidRunning limits ∧
      UpdateBounds cycleTime limits g next := by
  set c := max cycleTime 1e-9 with hcycle
  set a := max limits.acceleration 1e-9
  set d := max limits.deceleration 1e-9
  have hc : 0 < c := lt_max_of_lt_right (by norm_num)
  have ha : 0 ≤ a := le_max_of_le_right (by norm_num)
  have hd : 0 ≤ d := le_max_of_le_right (by norm_num)
  have hupdate := update_trapezoid ⟨rfl, h.inactive, h.csp⟩ cycleTime limits.maxVelocity
    limits.acceleration limits.deceleration limits.jerk
  rw [max_eq_left hv] at hupdate
  set velocity := g.trapezoidVelocity c limits.maxVelocity a d with hvelocity
  obtain ⟨hstep, hle⟩ := g.velocityStep_mem hc.le ha hd limits.maxVelocity
  have hspeed : |velocity| ≤ limits.maxVelocity :=
    Approach.abs_toward_le hstep h.velocity (abs_desiredVelocity_le hv d)
  have hway : |velocity * c| ≤ positionChange cycleTime limits := by
    rw [abs_mul, abs_of_pos hc]
    exact le_max_of_le_left (mul_le_mul_of_nonneg_right (hspeed.trans (le_max_left _ _)) hc.le)
  obtain ⟨hinactive, hcsp, ⟨hvel, hpos⟩ | ⟨hpos, hvel, hnear⟩⟩ :=
    trapezoidCycle_cases c limits.maxVelocity a d g
  · refine ⟨_, hupdate, ⟨hinactive.trans h.inactive, hcsp.trans h.csp, hvel ▸ hspeed⟩, ?_,
      fun _ => .inl ?_⟩
    · rw [hpos, add_sub_cancel_left]
      exact hway
    · rw [hvel]
      exact (Approach.abs_toward_sub_le _ _ hstep).trans hle
  · refine ⟨_, hupdate, ⟨hinactive.trans h.inactive, hcsp.trans h.csp, ?_⟩, ?_,
      fun _ => .inr ⟨hpos, hvel, fun hquintic => ?_⟩⟩
    · rwa [hvel, abs_zero]
    · rw [hpos]
      exact hnear.elim (le_max_of_le_right ·) (·.trans hway)
    · rw [h.csp] at hquintic
      cases hquintic

end Trapezoid

/-! ## The quintic profile -/

section Quintic

/-- The velocity near the end of the unit interval. -/
theorem quintic_vel_le_end {s : ℝ} (hs : s ∈ Set.Icc (0 : ℝ) 1) :
    UnitShape.quintic.vel s ≤ 40 / 9 * (1 - s) := by
  obtain ⟨hs0, hs1⟩ := hs
  -- with `u = 1 - s` the velocity is `30 u² (1 - u)²`, and `u (1 - u)² ≤ 4 / 27`
  have hpeak : (1 - s) * s ^ 2 ≤ 4 / 27 := by
    have hgap : 0 ≤ (s - 2 / 3) ^ 2 * (s + 1 / 3) := mul_nonneg (sq_nonneg _) (by linarith)
    nlinarith
  have heq : UnitShape.quintic.vel s = 30 * ((1 - s) * s ^ 2) * (1 - s) := by
    simp only [UnitShape.quintic]
    ring
  rw [heq]
  nlinarith

variable {cycleTime a start target duration elapsed : ℝ}

/-- The change of velocity in an update, by whether it ends the profile. -/
theorem quinticVelocity_step_le (hd : 0 < duration) (he : 0 ≤ elapsed) (hle : elapsed ≤ duration)
    (hc : 0 < cycleTime)
    (hgentle : 5.773502691896258 * |target - start| ≤ a * (duration * duration)) :
    let time := nextElapsed cycleTime duration elapsed
    let change := |quinticVelocityAt start target duration time -
      quinticVelocityAt start target duration elapsed|
    (time = elapsed + cycleTime ∧ change ≤ a * cycleTime) ∨
      time = duration ∧ change ≤ 1.16 * (a * cycleTime) := by
  intro time change
  have hsquare : 0 < duration * duration := mul_pos hd hd
  obtain ⟨heq, hend⟩ | ⟨heq, hlt⟩ := nextElapsed_cases hc duration elapsed
  · right
    refine ⟨heq, ?_⟩
    have hmem := UnitShape.phase_mem (t := elapsed) hd
    have hphase : 1 - UnitShape.phase duration elapsed ≤ 1.5 * cycleTime / duration := by
      rw [UnitShape.phase_of_mem ⟨he, hle⟩, le_div_iff₀ hd, sub_mul, div_mul_cancel₀ _ hd.ne',
        one_mul]
      exact hend
    have hvel : UnitShape.quintic.vel (UnitShape.phase duration elapsed) ≤
        40 / 9 * (1.5 * cycleTime / duration) :=
      (quintic_vel_le_end hmem).trans (mul_le_mul_of_nonneg_left hphase (by norm_num))
    have hlast : quinticVelocityAt start target duration time = 0 := by
      rw [show time = duration from heq]
      exact quinticVelocityAt_end hd
    calc change = |target - start| * UnitShape.quintic.vel (UnitShape.phase duration elapsed) /
          duration := by
          show |quinticVelocityAt start target duration time - _| = _
          rw [hlast, zero_sub, abs_neg, quinticVelocityAt, abs_div, abs_mul, abs_of_pos hd,
            abs_of_nonneg (UnitShape.quintic.vel_nonneg _ hmem)]
      _ ≤ |target - start| * (40 / 9 * (1.5 * cycleTime / duration)) / duration :=
          div_le_div_of_nonneg_right (mul_le_mul_of_nonneg_left hvel (abs_nonneg _)) hd.le
      _ = 20 / 3 * |target - start| / (duration * duration) * cycleTime := by
          field_simp
          ring
      _ ≤ 1.16 * a * cycleTime := by
          refine mul_le_mul_of_nonneg_right ?_ hc.le
          rw [div_le_iff₀ hsquare]
          nlinarith [abs_nonneg (target - start)]
      _ = 1.16 * (a * cycleTime) := mul_assoc _ _ _
  · left
    refine ⟨heq, ?_⟩
    have hlipschitz : change ≤ |target - start| * UnitShape.quintic.peakAcc /
        (duration * duration) * |time - elapsed| :=
      UnitShape.leg_vel_lipschitz hd elapsed time
    refine hlipschitz.trans ?_
    rw [show time = elapsed + cycleTime from heq, add_sub_cancel_left, abs_of_pos hc]
    refine mul_le_mul_of_nonneg_right ?_ hc.le
    rw [div_le_iff₀ hsquare, mul_comm |target - start|]
    exact hgentle

variable {limits : AxisMotionLimits ℝ} {g : CspTrajectoryGenerator ℝ}

/-- A profile keeps to the limits. -/
structure ProfileWithin (limits : AxisMotionLimits ℝ) (start target duration : ℝ) : Prop where
  velocity : 1.875 * |target - start| ≤ max limits.maxVelocity 1e-9 * duration
  acceleration : 5.773502691896258 * |target - start| ≤
    max limits.acceleration 1e-9 * (duration * duration)

/-- A generator with the quintic profile: without a profile, or at a time of one that keeps to the
limits. -/
structure QuinticFollowing (limits : AxisMotionLimits ℝ) (g : CspTrajectoryGenerator ℝ) : Prop where
  inactive : g.timedActive = false
  csp : g.cspProfile = .quintic
  profile : g.pointMoveProfileState = none ∨
    ∃ start duration elapsed, QuinticMoving limits start g.targetPosition duration elapsed g ∧
      ProfileWithin limits start g.targetPosition duration ∧
      g.commandVelocity = quinticVelocityAt start g.targetPosition duration elapsed

/-- An update at a time of a profile. If the velocity was that of the profile, it changes as the
profile does. -/
theorem QuinticMoving.updateBounds (h : QuinticMoving limits start target duration elapsed g)
    (hwithin : ProfileWithin limits start target duration) (hjerk : 0 < limits.jerk)
    (hvelocity : g.RetargetedInMotion ∨
      g.commandVelocity = quinticVelocityAt start target duration elapsed) :
    ∃ next, g.commanded cycleTime limits .update = .ok next ∧ next.QuinticFollowing limits ∧
      UpdateBounds cycleTime limits g next := by
  have hc : 0 < max cycleTime 1e-9 := lt_max_of_lt_right (by norm_num)
  obtain ⟨next, hnext, -, hway, hspeed, hrunning⟩ := h.update cycleTime hjerk hwithin.velocity
  refine ⟨next, hnext, ?_, le_max_of_le_left hway, fun hmotion => ?_⟩
  · obtain ⟨-, hstanding⟩ | ⟨htime, hmoving⟩ := hrunning
    · exact ⟨hstanding.inactive, hstanding.csp, .inl hstanding.profile⟩
    · refine ⟨hmoving.inactive, hmoving.csp, .inr ⟨start, duration,
        elapsed + max cycleTime 1e-9, ?_, ?_, ?_⟩⟩
      · rwa [hmoving.aimed]
      · rwa [hmoving.aimed]
      · rw [hspeed, hmoving.aimed, htime]
  · have hstep := quinticVelocity_step_le h.duration_pos h.elapsed_mem.1 h.elapsed_mem.2.le hc
      hwithin.acceleration
    dsimp only at hstep
    rw [← hspeed, ← hvelocity.resolve_left hmotion] at hstep
    have hle : max limits.acceleration 1e-9 * max cycleTime 1e-9 ≤
        velocityChange cycleTime limits :=
      mul_le_mul_of_nonneg_right (le_max_left _ _) hc.le
    obtain ⟨-, hchange⟩ | ⟨htime, hchange⟩ := hstep
    · exact .inl (hchange.trans hle)
    · obtain ⟨-, hstanding⟩ | ⟨htime', hmoving⟩ := hrunning
      · refine .inr ⟨?_, hstanding.velocity, fun _ => hchange.trans ?_⟩
        · rw [hstanding.position, h.aimed]
        · exact mul_le_mul_of_nonneg_left hle (by norm_num)
      · exact absurd (htime'.symm.trans htime) hmoving.elapsed_mem.2.ne

/-- **An update with the quintic profile** keeps the bounds. -/
theorem QuinticFollowing.update (h : g.QuinticFollowing limits) (hjerk : 0 < limits.jerk)
    (cycleTime : ℝ) :
    ∃ next, g.commanded cycleTime limits .update = .ok next ∧ next.QuinticFollowing limits ∧
      UpdateBounds cycleTime limits g next := by
  obtain hnone | ⟨start, duration, elapsed, hmoving, hwithin, hvelocity⟩ := h.profile
  · rcases le_or_gt |g.targetPosition - g.commandPosition| 1e-9 with hnear | hfar
    · refine ⟨_, update_quintic h.inactive h.csp hjerk, ?_⟩
      rw [updateQuintic_near hnone hnear]
      refine ⟨⟨h.inactive, h.csp, .inl rfl⟩, le_max_of_le_right hnear, fun hmotion => .inl ?_⟩
      have hrest : g.commandVelocity = 0 := by
        by_contra hne
        exact hmotion ⟨h.csp, hnone, hne⟩
      rw [hrest, sub_zero, show (settle g).commandVelocity = (0.0 : ℝ) from rfl, zero_literal,
        abs_zero]
      exact velocityChange_nonneg cycleTime limits
    · have hmoving := quinticMoving_of_none h.inactive h.csp hnone hfar limits
      refine hmoving.updateBounds ⟨?_, ?_⟩ hjerk ?_
      · have hslow := velocity_le_quinticDuration |g.targetPosition - g.commandPosition|
          (max limits.maxVelocity 0) (max limits.acceleration 1e-9) (max limits.deceleration 1e-9)
          limits.jerk
        rwa [max_assoc, max_eq_right (by norm_num : (0 : ℝ) ≤ 1e-9)] at hslow
      · have hgentle := acceleration_le_quinticDuration |g.targetPosition - g.commandPosition|
          (max limits.maxVelocity 0) (max limits.acceleration 1e-9) (max limits.deceleration 1e-9)
          limits.jerk
        rwa [max_assoc, max_self] at hgentle
      · by_cases hrest : g.commandVelocity = 0
        · exact .inr (hrest.trans (quinticVelocityAt_start hmoving.duration_pos).symm)
        · exact .inl ⟨h.csp, hnone, hrest⟩
  · exact hmoving.updateBounds hwithin hjerk (.inr hvelocity)

end Quintic

/-! ## Runs -/

/-- The generator moves with one of the profiles, within the limits. -/
def Following (limits : AxisMotionLimits ℝ) (g : CspTrajectoryGenerator ℝ) : Prop :=
  g.TrapezoidRunning limits ∨ g.QuinticFollowing limits

theorem Following.commanded {limits : AxisMotionLimits ℝ} {g : CspTrajectoryGenerator ℝ}
    (h : g.Following limits) (hv : 0 ≤ limits.maxVelocity) (hjerk : 0 < limits.jerk) (cycleTime : ℝ)
    (command : MoveCommand) :
    ∃ next, g.commanded cycleTime limits command = .ok next ∧ next.Following limits := by
  cases command with
  | setTargetPosition position =>
    refine ⟨_, rfl, h.imp (fun htrapezoid => ?_) (fun hquintic => ?_)⟩
    · exact ⟨rfl, htrapezoid.csp, htrapezoid.velocity⟩
    · exact ⟨rfl, hquintic.csp, .inl rfl⟩
  | update =>
    obtain htrapezoid | hquintic := h
    · obtain ⟨next, hnext, hrunning, -⟩ := htrapezoid.update hv cycleTime
      exact ⟨next, hnext, .inl hrunning⟩
    · obtain ⟨next, hnext, hfollowing, -⟩ := hquintic.update hjerk cycleTime
      exact ⟨next, hnext, .inr hfollowing⟩

/-- A generator that moves to `20`. -/
noncomputable def movingTo (target position velocity acceleration : ℝ) :
    CspTrajectoryGenerator ℝ :=
  { (init 0 .trapezoid).setTargetPosition target with
    commandPosition := position
    commandVelocity := velocity
    commandAcceleration := acceleration }

theorem movingTo_update {p v a p' v' a' : ℝ}
    (h : (movingTo 20 p v a).updateTrapezoid 1 10 5 1 = movingTo 20 p' v' a') :
    (movingTo 20 p v a).commanded 1 ⟨10, 5, 1, 1⟩ .update = .ok (movingTo 20 p' v' a') := by
  have hupdate := update_trapezoid (g := movingTo 20 p v a) ⟨rfl, rfl, rfl⟩ 1 10 5 1 1
  norm_num at hupdate
  rw [commanded, hupdate, ← h]
  rfl

/-- The third update of a trapezoid move reaches the target with the velocity `10`. -/
theorem snap_exceeds : ∃ g next,
    [MoveCommand.setTargetPosition 20, .update, .update].foldlM (commanded 1 ⟨10, 5, 1, 1⟩)
        (init 0 .trapezoid) = .ok g ∧
      g.commanded 1 ⟨10, 5, 1, 1⟩ .update = .ok next ∧
      max 5 1 * 1 < |next.commandVelocity - g.commandVelocity| := by
  have hfirst : (movingTo 20 0 0.0 0.0).updateTrapezoid 1 10 5 1 = movingTo 20 5 5 5 := by
    rw [updateTrapezoid_real]
    norm_num [movingTo, speeded, trapezoidVelocity, desiredVelocity, velocityStep,
      Approach.toward, crossedTarget, setTargetPosition, init]
  have hsecond : (movingTo 20 5 5 5).updateTrapezoid 1 10 5 1 = movingTo 20 15 10 5 := by
    rw [updateTrapezoid_real]
    norm_num [movingTo, speeded, trapezoidVelocity, desiredVelocity, velocityStep,
      Approach.toward, crossedTarget, setTargetPosition, init]
  have hthird : (movingTo 20 15 10 5).updateTrapezoid 1 10 5 1 = movingTo 20 20 0 0 := by
    rw [updateTrapezoid_real]
    norm_num [movingTo, speeded, trapezoidVelocity, desiredVelocity, velocityStep,
      Approach.toward, crossedTarget, setTargetPosition, init, settle]
  refine ⟨movingTo 20 15 10 5, movingTo 20 20 0 0, ?_, movingTo_update hthird, ?_⟩
  · show [MoveCommand.update, .update].foldlM (commanded 1 ⟨10, 5, 1, 1⟩)
      (movingTo 20 0 0.0 0.0) = _
    rw [List.foldlM_cons, movingTo_update hfirst, Except.ok_bind, List.foldlM_cons,
      movingTo_update hsecond, Except.ok_bind, List.foldlM_nil]
    rfl
  · norm_num [movingTo]

/-- Limits that a quintic profile over `16` keeps in a time of `16`, at the peak velocity `1.875`. -/
noncomputable def slowLimits : AxisMotionLimits ℝ := ⟨1.875, 0.4, 0.4, 1⟩

theorem quinticDuration_sixteen :
    quinticDuration 16 (max slowLimits.maxVelocity 0) (max slowLimits.acceleration 1e-9)
      (max slowLimits.deceleration 1e-9) slowLimits.jerk = 16 := by
  have hroot : √(5.773502691896258 * 16 / 0.4) ≤ 16 := Real.sqrt_le_iff.mpr (by norm_num)
  have hcbrt : PyFloat.cbrt (60.0 * 16 / 1 : ℝ) ≤ 16 := by
    calc (60.0 * 16 / 1 : ℝ) ^ ((3 : ℕ) : ℝ)⁻¹
        ≤ (16 ^ 3) ^ ((3 : ℕ) : ℝ)⁻¹ :=
          Real.rpow_le_rpow (by norm_num) (by norm_num) (by positivity)
      _ = 16 := Real.pow_rpow_inv_natCast (by norm_num) (by norm_num)
  have hvelocity : max (max (1.875 : ℝ) 0) 1e-9 = 1.875 := by norm_num
  have hacceleration : max (max (0.4 : ℝ) 1e-9) 1e-9 = 0.4 := by norm_num
  have hjerk : max (1 : ℝ) 1e-9 = 1 := by norm_num
  rw [quinticDuration, slowLimits, hvelocity, hacceleration, hjerk,
    mul_div_cancel_left₀ _ (by norm_num), max_eq_left hroot, max_eq_left hroot, max_eq_left hcbrt]

/-- Where a profile over `16` is after half its time. -/
theorem quintic_half {start target : ℝ} :
    UnitShape.quintic.leg start target 16 8 = (start + target) / 2 ∧
      quinticVelocityAt start target 16 8 = (target - start) * 1.875 / 16 := by
  have hphase : UnitShape.phase 16 8 = 1 / 2 := by
    rw [UnitShape.phase_of_mem ⟨by norm_num, by norm_num⟩]
    norm_num
  rw [UnitShape.leg, quinticVelocityAt, hphase]
  norm_num [UnitShape.quintic]
  ring

/-- The first update of a profile over `16`, with half its time as the cycle time. -/
theorem halfway {g : CspTrajectoryGenerator ℝ} (hinactive : g.timedActive = false)
    (hcsp : g.cspProfile = .quintic) (hnone : g.pointMoveProfileState = none)
    (hdistance : |g.targetPosition - g.commandPosition| = 16) :
    ∃ next, g.commanded 8 slowLimits .update = .ok next ∧ next.cspProfile = .quintic ∧
      next.commandPosition = (g.commandPosition + g.targetPosition) / 2 ∧
      next.commandVelocity = (g.targetPosition - g.commandPosition) * 1.875 / 16 := by
  have hmoving := quinticMoving_of_none hinactive hcsp hnone (by rw [hdistance]; norm_num)
    slowLimits
  rw [hdistance, quinticDuration_sixteen] at hmoving
  have hcycle : max (8 : ℝ) 1e-9 = 8 := by norm_num
  have htime : nextElapsed 8 16 0 = 8 := by
    obtain ⟨-, hend⟩ | ⟨heq, -⟩ := nextElapsed_cases (by norm_num : (0 : ℝ) < 8) 16 0
    · norm_num at hend
    · rw [heq, zero_add]
  obtain ⟨-, -, hcsp', hposition, hvelocity, -⟩ :=
    updateQuintic_real hmoving.duration_pos le_rfl (by norm_num : (0 : ℝ) < 8) hmoving.profile
  refine ⟨_, update_quintic hinactive hcsp (by norm_num [slowLimits]), ?_⟩
  rw [hcycle]
  rw [htime] at hposition hvelocity
  exact ⟨hcsp'.trans hcsp, hposition.trans quintic_half.1, hvelocity.trans quintic_half.2⟩

/-- A new target behind the generator, while it moves with the velocity `1.875`. -/
theorem retarget_exceeds : ∃ g next,
    [MoveCommand.setTargetPosition 16, .update, .setTargetPosition (-8)].foldlM
        (commanded 8 slowLimits) (init 0 .quintic) = .ok g ∧
      g.commanded 8 slowLimits .update = .ok next ∧
      max 0.4 0.4 * 8 < |next.commandVelocity - g.commandVelocity| := by
  obtain ⟨moving, hmoving, hcsp, hposition, hvelocity⟩ :=
    halfway (g := (init 0 .quintic).setTargetPosition 16) rfl rfl rfl
      (show |(16 : ℝ) - 0| = 16 by norm_num)
  have hposition' : moving.commandPosition = 8 :=
    hposition.trans (show ((0 : ℝ) + 16) / 2 = 8 by norm_num)
  have hvelocity' : moving.commandVelocity = 1.875 :=
    hvelocity.trans (show ((16 : ℝ) - 0) * 1.875 / 16 = 1.875 by norm_num)
  obtain ⟨next, hnext, -, -, hback⟩ := halfway (g := moving.setTargetPosition (-8)) rfl hcsp rfl
    (show |(-8 : ℝ) - moving.commandPosition| = 16 by rw [hposition']; norm_num)
  have hback' : next.commandVelocity = -1.875 := by
    refine hback.trans (show ((-8 : ℝ) - moving.commandPosition) * 1.875 / 16 = -1.875 from ?_)
    rw [hposition']
    norm_num
  refine ⟨moving.setTargetPosition (-8), next, ?_, hnext, ?_⟩
  · show [MoveCommand.update, .setTargetPosition (-8)].foldlM (commanded 8 slowLimits)
      ((init 0 .quintic).setTargetPosition 16) = _
    rw [List.foldlM_cons, hmoving]
    rfl
  · rw [hback', show (moving.setTargetPosition (-8)).commandVelocity = _ from hvelocity']
    norm_num

end CspTrajectoryGenerator

end MotionServer
