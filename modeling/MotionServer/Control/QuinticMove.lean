import MotionServer.Control.PointMovePlayback

/-!
# Moves with the quintic profile

* `profileOf`: the profile that an update continues or makes;
* `nextElapsed`: the time of the profile after an update, which is its end half a cycle early;
* `updateQuintic_real`: an update in exact arithmetic;
* `QuinticMoving`: a generator in a quintic move, by the time of the profile;
* **`quinticMove_arrives`**: a move keeps to the maximum velocity, only comes nearer to its target,
  and ends there.
-/

namespace MotionServer

namespace CspTrajectoryGenerator

/-! ## One update -/

section Update

variable {F : Type} [PyFloat F]

/-- The profile of an update: the one before, if it leads to the target, or a new one. -/
def profileOf (g : CspTrajectoryGenerator F) (maxVelocity acceleration deceleration jerk : F) :
    PointMoveProfile F :=
  let create := createQuinticPointMove g.commandPosition g.targetPosition maxVelocity acceleration
    deceleration jerk
  match g.pointMoveProfileState with
  | none => create
  | some profile => if pyEq profile.target g.targetPosition then profile else create

/-- An update at the time `time` of a profile. -/
def atTime (g : CspTrajectoryGenerator F) (profile : PointMoveProfile F) (time : F) :
    CspTrajectoryGenerator F :=
  let shape := quinticShape (time / profile.duration)
  if profile.duration ≤ time then { g.settle with pointMoveProfileState := none }
  else
    { g with
      commandPosition := profile.start + profile.distance * shape.1
      commandVelocity := profile.distance * shape.2.1 / profile.duration
      commandAcceleration := profile.distance * shape.2.2 / (profile.duration * profile.duration)
      pointMoveProfileState := some { profile with elapsed := time } }

theorem updateQuinticPointMove_eq (g : CspTrajectoryGenerator F)
    (cycleTime maxVelocity acceleration deceleration jerk : F) :
    g.updateQuinticPointMove cycleTime maxVelocity acceleration deceleration jerk =
      let profile := g.profileOf maxVelocity acceleration deceleration jerk
      let elapsed := pyMin (profile.elapsed + cycleTime) profile.duration
      if profile.duration ≤ 0.0 then { g.settle with pointMoveProfileState := none }
      else g.atTime profile
        (if profile.duration - elapsed ≤ cycleTime * 0.5 then profile.duration else elapsed) :=
  rfl

end Update

section Real

variable (cycleTime : ℝ)

/-- The time of a profile after an update. -/
noncomputable def nextElapsed (duration elapsed : ℝ) : ℝ :=
  if duration - min (elapsed + cycleTime) duration ≤ cycleTime * 0.5 then duration
  else min (elapsed + cycleTime) duration

variable {cycleTime}

/-- The last cycle of a profile takes at most one and a half cycles. -/
theorem nextElapsed_cases (hc : 0 < cycleTime) (duration elapsed : ℝ) :
    nextElapsed cycleTime duration elapsed = duration ∧ duration - elapsed ≤ 1.5 * cycleTime ∨
      nextElapsed cycleTime duration elapsed = elapsed + cycleTime ∧
        elapsed + cycleTime < duration := by
  unfold nextElapsed
  rcases le_or_gt duration (elapsed + cycleTime) with hle | hlt
  · rw [min_eq_right hle, if_pos (by norm_num; linarith)]
    exact .inl ⟨rfl, by norm_num; linarith⟩
  · rw [min_eq_left hlt.le]
    split_ifs with hend
    · norm_num at hend
      exact .inl ⟨rfl, by norm_num; linarith⟩
    · exact .inr ⟨rfl, hlt⟩

/-- The velocity at a time of a profile. -/
noncomputable def quinticVelocityAt (start target duration elapsed : ℝ) : ℝ :=
  (target - start) * UnitShape.quintic.vel (UnitShape.phase duration elapsed) / duration

theorem quinticVelocityAt_end {start target duration : ℝ} (hd : 0 < duration) :
    quinticVelocityAt start target duration duration = 0 := by
  have hphase : UnitShape.phase duration duration = 1 := by
    rw [UnitShape.phase_of_mem ⟨hd.le, le_rfl⟩, div_self hd.ne']
  rw [quinticVelocityAt, hphase]
  norm_num [UnitShape.quintic]

theorem quinticVelocityAt_start {start target duration : ℝ} (hd : 0 < duration) :
    quinticVelocityAt start target duration 0 = 0 := by
  rw [quinticVelocityAt, UnitShape.phase_of_mem ⟨le_rfl, hd.le⟩, zero_div]
  norm_num [UnitShape.quintic]

variable {g : CspTrajectoryGenerator ℝ} {maxVelocity acceleration deceleration jerk : ℝ}

/-- **An update in exact arithmetic.** The end of the profile is at the target. -/
theorem updateQuintic_real {start duration elapsed : ℝ} (hd : 0 < duration) (he : 0 ≤ elapsed)
    (hc : 0 < cycleTime)
    (hprofile : g.profileOf maxVelocity acceleration deceleration jerk =
      ⟨start, g.targetPosition, g.targetPosition - start, duration, elapsed⟩) :
    let next := g.updateQuinticPointMove cycleTime maxVelocity acceleration deceleration jerk
    let time := nextElapsed cycleTime duration elapsed
    next.targetPosition = g.targetPosition ∧ next.timedActive = g.timedActive ∧
      next.cspProfile = g.cspProfile ∧
      next.commandPosition = UnitShape.quintic.leg start g.targetPosition duration time ∧
      next.commandVelocity = quinticVelocityAt start g.targetPosition duration time ∧
      next.pointMoveProfileState =
        if duration ≤ time then none
        else some ⟨start, g.targetPosition, g.targetPosition - start, duration, time⟩ := by
  intro next time
  have htime : time ≤ duration ∧ 0 ≤ time := by
    obtain ⟨heq, -⟩ | ⟨heq, hlt⟩ := nextElapsed_cases hc duration elapsed
    · exact ⟨heq.le, hd.le.trans heq.ge⟩
    · exact ⟨heq.trans_le hlt.le, (add_nonneg he hc.le).trans heq.ge⟩
  have hphase : clampUnit (time / duration) = UnitShape.phase duration time := by
    have hmem := UnitShape.phase_mem (t := time) hd
    rw [clampUnit_real, ← UnitShape.phase_of_mem ⟨htime.2, htime.1⟩, min_eq_right hmem.2,
      max_eq_right hmem.1]
  have hnext : next = g.atTime
      ⟨start, g.targetPosition, g.targetPosition - start, duration, elapsed⟩ time := by
    have hpos : ¬ duration ≤ 0.0 := not_le.mpr (zero_literal ▸ hd)
    simp only [next, updateQuinticPointMove_eq, hprofile, pyMin_real]
    exact if_neg hpos
  by_cases hend : duration ≤ time
  · have hend' : time = duration := le_antisymm htime.1 hend
    rw [hnext.trans (if_pos hend), if_pos hend, hend', UnitShape.leg_of_ge hd le_rfl,
      quinticVelocityAt_end hd]
    exact ⟨rfl, rfl, rfl, rfl, zero_literal, rfl⟩
  · rw [hnext.trans (if_neg hend), if_neg hend, quinticShape_real, hphase]
    exact ⟨rfl, rfl, rfl, rfl, rfl, rfl⟩

end Real

/-! ## Moves -/

/-- The generator has a quintic move from `start` before it, at the time `elapsed` of `duration`: it
continues the profile in the next update, or makes it at its start. -/
structure QuinticMoving (limits : AxisMotionLimits ℝ) (start target duration elapsed : ℝ)
    (g : CspTrajectoryGenerator ℝ) : Prop where
  inactive : g.timedActive = false
  csp : g.cspProfile = .quintic
  aimed : g.targetPosition = target
  profile : g.profileOf (max limits.maxVelocity 0) (max limits.acceleration 1e-9)
    (max limits.deceleration 1e-9) limits.jerk = ⟨start, target, target - start, duration, elapsed⟩
  position : g.commandPosition = UnitShape.quintic.leg start target duration elapsed
  duration_pos : 0 < duration
  elapsed_mem : elapsed ∈ Set.Ico 0 duration

/-- The generator stands at the target of a move that has ended. -/
structure QuinticStanding (target : ℝ) (g : CspTrajectoryGenerator ℝ) : Prop where
  inactive : g.timedActive = false
  csp : g.cspProfile = .quintic
  aimed : g.targetPosition = target
  position : g.commandPosition = target
  velocity : g.commandVelocity = 0
  profile : g.pointMoveProfileState = none

section Moves

variable {limits : AxisMotionLimits ℝ} {start target duration elapsed cycleTime : ℝ}
  {g : CspTrajectoryGenerator ℝ}

theorem update_quintic (hinactive : g.timedActive = false) (hcsp : g.cspProfile = .quintic)
    (hjerk : 0 < limits.jerk) :
    g.update cycleTime limits.maxVelocity limits.acceleration limits.deceleration limits.jerk =
      .ok (g.updateQuinticPointMove (max cycleTime 1e-9) (max limits.maxVelocity 0)
        (max limits.acceleration 1e-9) (max limits.deceleration 1e-9) limits.jerk) := by
  simp only [update, pyMax_real, zero_literal, hinactive, hcsp, Bool.false_eq_true, if_false,
    reduceCtorEq]
  exact if_neg (not_le.mpr hjerk)

/-- The way of an update. -/
theorem leg_step_le (hd : 0 < duration) (he : elapsed ≤ duration) (hc : 0 < cycleTime) {v : ℝ}
    (hslow : 1.875 * |target - start| ≤ v * duration) :
    |UnitShape.quintic.leg start target duration (nextElapsed cycleTime duration elapsed) -
      UnitShape.quintic.leg start target duration elapsed| ≤ v * cycleTime := by
  have hw : |target - start| ≤ v / 1.875 * duration := by
    rw [div_mul_eq_mul_div, le_div_iff₀ (by norm_num), mul_comm]
    exact hslow
  have hv : 0 ≤ v / 1.875 := nonneg_of_mul_nonneg_left ((abs_nonneg _).trans hw) hd
  obtain ⟨heq, hend⟩ | ⟨heq, hlt⟩ := nextElapsed_cases hc duration elapsed
  · -- the snap to the target
    rw [heq, UnitShape.leg_of_ge hd le_rfl]
    calc |target - UnitShape.quintic.leg start target duration elapsed|
        ≤ UnitShape.quintic.chord * (v / 1.875) * (duration - elapsed) :=
          UnitShape.leg_chord hd hw he
      _ ≤ UnitShape.quintic.chord * (v / 1.875) * (1.5 * cycleTime) :=
          mul_le_mul_of_nonneg_left hend (mul_nonneg UnitShape.quintic.chord_nonneg hv)
      _ = v * cycleTime := by
          simp only [UnitShape.quintic]
          ring
  · rw [heq]
    refine (UnitShape.leg_lipschitz hd hw elapsed (elapsed + cycleTime)).trans (le_of_eq ?_)
    rw [add_sub_cancel_left, abs_of_pos hc]
    simp only [UnitShape.quintic]
    ring

/-- **One update of a quintic move** comes nearer to the target and keeps to the velocity `v`, and
the move goes on at a later time or it has ended. -/
theorem QuinticMoving.update (h : QuinticMoving limits start target duration elapsed g)
    (cycleTime : ℝ) (hjerk : 0 < limits.jerk) {v : ℝ}
    (hslow : 1.875 * |target - start| ≤ v * duration) :
    let time := nextElapsed (max cycleTime 1e-9) duration elapsed
    ∃ next, g.update cycleTime limits.maxVelocity limits.acceleration limits.deceleration
        limits.jerk = .ok next ∧
      next.commandPosition ∈ Set.uIcc g.commandPosition target ∧
      |next.commandPosition - g.commandPosition| ≤ v * max cycleTime 1e-9 ∧
      next.commandVelocity = quinticVelocityAt start target duration time ∧
      (time = duration ∧ QuinticStanding target next ∨
        time = elapsed + max cycleTime 1e-9 ∧
          QuinticMoving limits start target duration (elapsed + max cycleTime 1e-9) next) := by
  intro time
  have hc : 0 < max cycleTime 1e-9 := lt_max_of_lt_right (by norm_num)
  obtain ⟨he, hlt⟩ := h.elapsed_mem
  have hprofile := h.profile
  rw [← h.aimed] at hprofile
  obtain ⟨haimed, hinactive, hcsp, hposition, hvelocity, hstate⟩ :=
    updateQuintic_real h.duration_pos he hc hprofile
  rw [h.aimed] at haimed hposition hvelocity hstate
  refine ⟨_, update_quintic h.inactive h.csp hjerk, ?_, ?_, hvelocity, ?_⟩
  · rw [hposition, h.position]
    refine UnitShape.leg_mem_of_le h.duration_pos ?_
    obtain ⟨heq, -⟩ | ⟨heq, -⟩ := nextElapsed_cases hc duration elapsed
    · exact hlt.le.trans heq.ge
    · linarith
  · rw [hposition, h.position]
    exact leg_step_le h.duration_pos hlt.le hc hslow
  · obtain ⟨heq, -⟩ | ⟨heq, hlt'⟩ := nextElapsed_cases hc duration elapsed
    · left
      refine ⟨heq, ?_⟩
      rw [heq] at hposition hvelocity hstate
      rw [UnitShape.leg_of_ge h.duration_pos le_rfl] at hposition
      rw [quinticVelocityAt_end h.duration_pos] at hvelocity
      rw [if_pos le_rfl] at hstate
      exact ⟨hinactive.trans h.inactive, hcsp.trans h.csp, haimed, hposition, hvelocity, hstate⟩
    · right
      refine ⟨heq, ?_⟩
      rw [heq] at hposition hstate
      rw [if_neg (not_le.mpr hlt')] at hstate
      refine ⟨hinactive.trans h.inactive, hcsp.trans h.csp, haimed, ?_, hposition, h.duration_pos,
        (add_nonneg he hc.le), hlt'⟩
      rw [profileOf, hstate]
      exact if_pos ((pyEq_real _ _).mpr haimed.symm)

/-- A new profile to a target that is as good as reached takes no time. -/
theorem updateQuintic_near (hnone : g.pointMoveProfileState = none)
    (hnear : |g.targetPosition - g.commandPosition| ≤ 1e-9)
    (maxVelocity acceleration deceleration jerk : ℝ) :
    g.updateQuinticPointMove cycleTime maxVelocity acceleration deceleration jerk =
      { g.settle with pointMoveProfileState := none } := by
  have hduration : (g.profileOf maxVelocity acceleration deceleration jerk).duration = 0.0 := by
    rw [profileOf, hnone]
    refine if_pos ?_
    rwa [pyAbs_real]
  rw [updateQuinticPointMove_eq]
  simp only [hduration, le_refl, if_true]

theorem QuinticStanding.update (h : QuinticStanding target g) (cycleTime : ℝ)
    (hjerk : 0 < limits.jerk) :
    ∃ next, g.update cycleTime limits.maxVelocity limits.acceleration limits.deceleration
        limits.jerk = .ok next ∧
      next.commandPosition = g.commandPosition ∧ QuinticStanding target next := by
  refine ⟨_, update_quintic h.inactive h.csp hjerk, ?_⟩
  have hnear : |g.targetPosition - g.commandPosition| ≤ 1e-9 := by
    rw [h.aimed, h.position, sub_self, abs_zero]
    norm_num
  rw [updateQuintic_near h.profile hnear]
  exact ⟨h.aimed.trans h.position.symm, h.inactive, h.csp, h.aimed, h.aimed, zero_literal, rfl⟩

/-- The generator has a move before it, or stands where it ended. -/
def QuinticRunning (limits : AxisMotionLimits ℝ) (start target duration elapsed : ℝ)
    (g : CspTrajectoryGenerator ℝ) : Prop :=
  QuinticStanding target g ∨ QuinticMoving limits start target duration elapsed g

theorem QuinticRunning.update (h : QuinticRunning limits start target duration elapsed g)
    (cycleTime : ℝ) (hjerk : 0 < limits.jerk) {v : ℝ} (hv : 0 ≤ v)
    (hslow : 1.875 * |target - start| ≤ v * duration) :
    ∃ next, g.update cycleTime limits.maxVelocity limits.acceleration limits.deceleration
        limits.jerk = .ok next ∧
      next.commandPosition ∈ Set.uIcc g.commandPosition target ∧
      |next.commandPosition - g.commandPosition| ≤ v * max cycleTime 1e-9 ∧
      QuinticRunning limits start target duration (elapsed + max cycleTime 1e-9) next := by
  obtain hstanding | hmoving := h
  · obtain ⟨next, hnext, hposition, hstanding'⟩ := hstanding.update cycleTime hjerk
    refine ⟨next, hnext, hposition ▸ Set.left_mem_uIcc, ?_, .inl hstanding'⟩
    rw [hposition, sub_self, abs_zero]
    exact mul_nonneg hv (le_max_of_le_right (by norm_num))
  · obtain ⟨next, hnext, hnear, hway, -, hrunning⟩ := hmoving.update cycleTime hjerk hslow
    exact ⟨next, hnext, hnear, hway, hrunning.imp And.right And.right⟩

theorem QuinticRunning.playback (h : QuinticRunning limits start target duration 0 g)
    (cycleTime : ℝ) (hjerk : 0 < limits.jerk) {v : ℝ} (hv : 0 ≤ v)
    (hslow : 1.875 * |target - start| ≤ v * duration) (k : ℕ) :
    ∃ moved, g.playback cycleTime (fun _ => limits) k = .ok moved ∧
      QuinticRunning limits start target duration (k * max cycleTime 1e-9) moved := by
  induction k with
  | zero => exact ⟨g, rfl, by rwa [Nat.cast_zero, zero_mul]⟩
  | succ k ih =>
    obtain ⟨moved, hmoved, hrunning⟩ := ih
    obtain ⟨next, hnext, -, -, hrunning'⟩ := hrunning.update cycleTime hjerk hv hslow
    refine ⟨next, ?_, ?_⟩
    · rw [CspTrajectoryGenerator.playback, hmoved]
      exact hnext
    · rwa [Nat.cast_succ, add_one_mul]

end Moves

/-! ## New moves -/

/-- The duration of a new profile: the least one that keeps all limits. -/
noncomputable def quinticDuration (distance maxVelocity acceleration deceleration jerk : ℝ) : ℝ :=
  max (max (max (1.875 * distance / max maxVelocity 1e-9)
    √(5.773502691896258 * distance / max acceleration 1e-9))
    √(5.773502691896258 * distance / max deceleration 1e-9))
    (PyFloat.cbrt (60.0 * distance / max jerk 1e-9))

theorem createQuinticPointMove_real {start target : ℝ} (hfar : 1e-9 < |target - start|)
    (maxVelocity acceleration deceleration jerk : ℝ) :
    createQuinticPointMove start target maxVelocity acceleration deceleration jerk =
      ⟨start, target, target - start,
        quinticDuration |target - start| maxVelocity acceleration deceleration jerk, 0⟩ := by
  simp only [createQuinticPointMove, pyAbs_real, pyMax_real, if_neg (not_le.mpr hfar), zero_literal]
  norm_num [quinticDuration, sqrt_real]

section Duration

variable (distance maxVelocity acceleration deceleration jerk : ℝ)

theorem velocity_le_quinticDuration :
    1.875 * distance ≤ max maxVelocity 1e-9 *
      quinticDuration distance maxVelocity acceleration deceleration jerk := by
  have hpos : 0 < max maxVelocity 1e-9 := lt_max_of_lt_right (by norm_num)
  rw [← div_le_iff₀' hpos]
  exact (le_max_left _ _).trans ((le_max_left _ _).trans (le_max_left _ _))

/-- The root of what a limit asks for is the least time in which the limit is kept. -/
theorem acceleration_le_quinticDuration :
    5.773502691896258 * distance ≤ max acceleration 1e-9 *
      (quinticDuration distance maxVelocity acceleration deceleration jerk *
        quinticDuration distance maxVelocity acceleration deceleration jerk) := by
  have hpos : 0 < max acceleration 1e-9 := lt_max_of_lt_right (by norm_num)
  have hroot : √(5.773502691896258 * distance / max acceleration 1e-9) ≤
      quinticDuration distance maxVelocity acceleration deceleration jerk :=
    (le_max_right _ _).trans ((le_max_left _ _).trans (le_max_left _ _))
  rw [← div_le_iff₀' hpos, ← sq]
  exact Real.sqrt_le_left ((Real.sqrt_nonneg _).trans hroot) |>.mp hroot

variable {distance} in
theorem quinticDuration_pos (hdistance : 0 < distance) :
    0 < quinticDuration distance maxVelocity acceleration deceleration jerk := by
  have hpos : 0 < max maxVelocity 1e-9 := lt_max_of_lt_right (by norm_num)
  have hslow := velocity_le_quinticDuration distance maxVelocity acceleration deceleration jerk
  exact pos_of_mul_pos_right (lt_of_lt_of_le (by positivity) hslow) hpos.le

end Duration

/-- **A generator without a profile** starts a move to its target. -/
theorem quinticMoving_of_none {g : CspTrajectoryGenerator ℝ} (hinactive : g.timedActive = false)
    (hcsp : g.cspProfile = .quintic) (hnone : g.pointMoveProfileState = none)
    (hfar : 1e-9 < |g.targetPosition - g.commandPosition|) (limits : AxisMotionLimits ℝ) :
    QuinticMoving limits g.commandPosition g.targetPosition
      (quinticDuration |g.targetPosition - g.commandPosition| (max limits.maxVelocity 0)
        (max limits.acceleration 1e-9) (max limits.deceleration 1e-9) limits.jerk) 0 g where
  inactive := hinactive
  csp := hcsp
  aimed := rfl
  profile := by
    rw [profileOf, hnone]
    exact createQuinticPointMove_real hfar _ _ _ _
  position := (UnitShape.leg_of_nonpos le_rfl).symm
  duration_pos := quinticDuration_pos _ _ _ _ (lt_trans (by norm_num) hfar)
  elapsed_mem := ⟨le_rfl, quinticDuration_pos _ _ _ _ (lt_trans (by norm_num) hfar)⟩

/-- **A quintic move** keeps to the maximum velocity in every update, only comes nearer to its
target, and ends there. The updates work with a cycle time of at least `1e-9`. -/
theorem quinticMove_arrives (g : CspTrajectoryGenerator ℝ) (hcsp : g.cspProfile = .quintic)
    {target : ℝ} (hfar : 1e-9 < |target - g.commandPosition|) (cycleTime : ℝ)
    {limits : AxisMotionLimits ℝ} (hvelocity : 1e-9 ≤ limits.maxVelocity)
    (hjerk : 0 < limits.jerk) :
    ∃ moved : ℕ → CspTrajectoryGenerator ℝ,
      (∀ k, (g.setTargetPosition target).playback cycleTime (fun _ => limits) k = .ok (moved k)) ∧
      (∀ k, |(moved (k + 1)).commandPosition - (moved k).commandPosition| ≤
        limits.maxVelocity * max cycleTime 1e-9) ∧
      (∀ k, (moved (k + 1)).commandPosition ∈ Set.uIcc (moved k).commandPosition target) ∧
      (∀ k, (moved k).commandPosition ∈ Set.uIcc g.commandPosition target) ∧
      ∃ n, ∀ k, n ≤ k → (moved k).commandPosition = target := by
  have hv : 0 ≤ limits.maxVelocity := le_trans (by norm_num) hvelocity
  have hc : 0 < max cycleTime 1e-9 := lt_max_of_lt_right (by norm_num)
  have hstart := quinticMoving_of_none (g := g.setTargetPosition target) rfl hcsp rfl hfar limits
  have hposition : (g.setTargetPosition target).commandPosition = g.commandPosition := rfl
  have htarget : (g.setTargetPosition target).targetPosition = target := rfl
  rw [hposition, htarget] at hstart
  set duration := quinticDuration |target - g.commandPosition| (max limits.maxVelocity 0)
    (max limits.acceleration 1e-9) (max limits.deceleration 1e-9) limits.jerk with hduration
  have hslow : 1.875 * |target - g.commandPosition| ≤ limits.maxVelocity * duration := by
    have hle := velocity_le_quinticDuration |target - g.commandPosition|
      (max limits.maxVelocity 0) (max limits.acceleration 1e-9) (max limits.deceleration 1e-9)
      limits.jerk
    rwa [← hduration, max_eq_left hv, max_eq_left hvelocity] at hle
  choose moved hmoved hrunning using
    QuinticRunning.playback (.inr hstart) cycleTime hjerk hv hslow
  have hstep : ∀ k, (moved (k + 1)).commandPosition ∈ Set.uIcc (moved k).commandPosition target ∧
      |(moved (k + 1)).commandPosition - (moved k).commandPosition| ≤
        limits.maxVelocity * max cycleTime 1e-9 := by
    intro k
    obtain ⟨next, hnext, hnear, hway, -⟩ := (hrunning k).update cycleTime hjerk hv hslow
    have heq : moved (k + 1) = next := by
      have hk := hmoved (k + 1)
      rw [playback, hmoved k] at hk
      exact Except.ok.inj (hk.symm.trans hnext)
    rw [heq]
    exact ⟨hnear, hway⟩
  refine ⟨moved, hmoved, fun k => (hstep k).2, fun k => (hstep k).1, fun k => ?_, ?_⟩
  · induction k with
    | zero =>
      rw [← Except.ok.inj (hmoved 0)]
      exact Set.left_mem_uIcc
    | succ k ih => exact Set.uIcc_subset_uIcc ih Set.right_mem_uIcc (hstep k).1
  · obtain ⟨n, hn⟩ := exists_nat_ge (duration / max cycleTime 1e-9)
    refine ⟨n, fun k hk => ?_⟩
    obtain hstanding | hmoving := hrunning k
    · exact hstanding.position
    · -- The time of the profile would be beyond its end.
      have hbeyond : duration ≤ k * max cycleTime 1e-9 :=
        (div_le_iff₀ hc).mp (hn.trans (Nat.cast_le.mpr hk))
      exact absurd hmoving.elapsed_mem.2 (not_lt.mpr hbeyond)

theorem quinticMove_arrives_unit :
    ∃ moved : ℕ → CspTrajectoryGenerator ℝ,
      (∀ k, ((init 0 .quintic).setTargetPosition 1).playback 1 (fun _ => ⟨1, 1, 1, 1⟩) k =
        .ok (moved k)) ∧
      (∀ k, |(moved (k + 1)).commandPosition - (moved k).commandPosition| ≤ 1 * max 1 1e-9) ∧
      (∀ k, (moved (k + 1)).commandPosition ∈ Set.uIcc (moved k).commandPosition 1) ∧
      (∀ k, (moved k).commandPosition ∈ Set.uIcc (0 : ℝ) 1) ∧
      ∃ n, ∀ k, n ≤ k → (moved k).commandPosition = 1 :=
  quinticMove_arrives (init 0 .quintic) rfl (show (1e-9 : ℝ) < |1 - 0| by norm_num) 1
    (by norm_num) one_pos

end CspTrajectoryGenerator

end MotionServer
