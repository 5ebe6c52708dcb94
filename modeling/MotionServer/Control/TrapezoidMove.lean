import MotionServer.Control.PointMovePlayback
import MotionServer.Lib.Approach

/-!
# Moves with the trapezoid profile

* `trapezoidVelocity`, `updateTrapezoid_real`: one cycle in exact arithmetic;
* `Approaching`: a generator on one side of its target, by its distance and its speed toward it;
* `approaching_updateTrapezoid`: a cycle is one of a mover, or it ends at the target;
* **`trapezoidMove_arrives`**: a move from rest stays between its start and its target, within the
  maximum velocity, and ends at the target.
-/

namespace MotionServer

namespace CspTrajectoryGenerator

open Approach

/-! ## One cycle -/

section Cycle

variable (g : CspTrajectoryGenerator ℝ) (cycleTime maxVelocity acceleration deceleration : ℝ)

/-- The velocity that a cycle goes toward. -/
noncomputable def desiredVelocity : ℝ :=
  if |g.targetPosition - g.commandPosition| ≤
      g.commandVelocity * g.commandVelocity / (2.0 * max deceleration 1e-9) then 0
  else (if 0 ≤ g.targetPosition - g.commandPosition then 1 else -1) * maxVelocity

/-- What the velocity may change by in a cycle. -/
noncomputable def velocityStep : ℝ :=
  (if |g.commandVelocity| < |g.desiredVelocity maxVelocity deceleration| then acceleration
    else deceleration) * cycleTime

/-- The velocity of a cycle that does not end at the target. -/
noncomputable def trapezoidVelocity : ℝ :=
  toward g.commandVelocity (g.desiredVelocity maxVelocity deceleration)
    (g.velocityStep cycleTime maxVelocity acceleration deceleration)

/-- The generator with the velocity of a cycle. -/
noncomputable def speeded : CspTrajectoryGenerator ℝ :=
  let velocity := g.trapezoidVelocity cycleTime maxVelocity acceleration deceleration
  { g with
    commandVelocity := velocity
    commandAcceleration := (velocity - g.commandVelocity) / cycleTime }

/-- **One cycle in exact arithmetic.** -/
theorem updateTrapezoid_real :
    g.updateTrapezoid cycleTime maxVelocity acceleration deceleration =
      let next := g.speeded cycleTime maxVelocity acceleration deceleration
      let position := g.commandPosition + next.commandVelocity * cycleTime
      if |g.targetPosition - g.commandPosition| ≤ 1e-9 ∧ |g.commandVelocity| ≤ 1e-9 then g.settle
      else if next.crossedTarget position then next.settle
      else { next with commandPosition := position } := by
  simp only [updateTrapezoid, speeded, trapezoidVelocity, velocityStep, desiredVelocity, toward,
    pyAbs_real, pyMax_real, pyMin_real, zero_literal]
  norm_num

end Cycle

/-! ## One side of the target -/

/-- The generator is at the distance `r` from its target, and `w` is its speed toward it. -/
structure Approaching (side r w : ℝ) (g : CspTrajectoryGenerator ℝ) : Prop where
  one_side : side = 1 ∨ side = -1
  distance : g.targetPosition - g.commandPosition = side * r
  velocity : g.commandVelocity = side * w

section Approaching

variable {side r w : ℝ} {g : CspTrajectoryGenerator ℝ}

theorem abs_side_mul (hside : side = 1 ∨ side = -1) (x : ℝ) : |side * x| = |x| := by
  rcases hside with rfl | rfl
  · rw [one_mul]
  · rw [neg_one_mul, abs_neg]

theorem Approaching.desiredVelocity (h : Approaching side r w g) (hr : 0 < r)
    (maxVelocity deceleration : ℝ) :
    g.desiredVelocity maxVelocity deceleration =
      side * if r ≤ w * w / (2.0 * max deceleration 1e-9) then 0 else maxVelocity := by
  have hsquare : side * w * (side * w) = w * w := by
    rcases h.one_side with rfl | rfl <;> ring
  have hdirection : (if 0 ≤ side * r then 1 else -1 : ℝ) = side := by
    rcases h.one_side with rfl | rfl
    · rw [if_pos (by linarith)]
    · rw [if_neg (by linarith)]
  unfold CspTrajectoryGenerator.desiredVelocity
  rw [h.distance, h.velocity, hsquare, hdirection, abs_side_mul h.one_side, abs_of_pos hr, mul_ite,
    mul_zero]

/-- Where the next position is beyond the target. -/
theorem Approaching.crossedTarget_iff (h : Approaching side r w g) (hr : 0 < r) (way : ℝ) :
    g.crossedTarget (g.commandPosition + side * way) = true ↔ r ≤ way := by
  have hdistance := h.distance
  unfold crossedTarget
  rcases h.one_side with rfl | rfl
  · rw [if_pos (by linarith), decide_eq_true_iff]
    constructor <;> intro <;> linarith
  · rw [if_neg (by linarith), decide_eq_true_iff]
    constructor <;> intro <;> linarith

end Approaching

/-! ## Moves from rest -/

section Move

variable (cycleTime maxVelocity acceleration deceleration : ℝ)

/-- The mover of a cycle. -/
noncomputable def trapezoidMover (hc : 0 < cycleTime) (hv : 0 < maxVelocity) (ha : 0 < acceleration)
    (hd : 0 < deceleration) : Mover where
  accel := acceleration * cycleTime
  decel := deceleration * cycleTime
  top := maxVelocity
  rate := cycleTime
  accel_pos := mul_pos ha hc
  decel_pos := mul_pos hd hc
  top_pos := hv
  rate_pos := hc
  stopping w := w * w / (2.0 * max deceleration 1e-9)
  stopping_zero := by rw [mul_zero, zero_div]

variable {cycleTime maxVelocity acceleration deceleration} (hc : 0 < cycleTime)
  (hv : 0 < maxVelocity) (ha : 0 < acceleration) (hd : 0 < deceleration)
  {side r w : ℝ} {g : CspTrajectoryGenerator ℝ}

/-- The velocity is that of the mover: at the maximum velocity both limits keep it. -/
theorem Approaching.trapezoidVelocity (h : Approaching side r w g) (hr : 0 < r) (hw : 0 ≤ w)
    (hle : w ≤ maxVelocity) :
    g.trapezoidVelocity cycleTime maxVelocity acceleration deceleration =
      side * (trapezoidMover cycleTime maxVelocity acceleration deceleration hc hv ha hd).nextSpeed
        r w := by
  unfold CspTrajectoryGenerator.trapezoidVelocity velocityStep Mover.nextSpeed
  rw [h.desiredVelocity hr, h.velocity, abs_side_mul h.one_side, abs_side_mul h.one_side,
    abs_of_nonneg hw]
  show _ = side * if r ≤ w * w / (2.0 * max deceleration 1e-9) then
    toward w 0 (deceleration * cycleTime) else toward w maxVelocity (acceleration * cycleTime)
  by_cases hbrake : r ≤ w * w / (2.0 * max deceleration 1e-9)
  · rw [if_pos hbrake, if_pos hbrake, abs_zero, if_neg hw.not_gt,
      toward_mul h.one_side _ _ (mul_pos hd hc).le]
  · rw [if_neg hbrake, if_neg hbrake, abs_of_pos hv]
    rcases hle.lt_or_eq with hlt | rfl
    · rw [if_pos hlt, toward_mul h.one_side _ _ (mul_pos ha hc).le]
    · rw [if_neg (lt_irrefl _), toward_mul h.one_side _ _ (mul_pos hd hc).le, toward_near,
        toward_near]
      · rw [sub_self, abs_zero]
        exact (mul_pos ha hc).le
      · rw [sub_self, abs_zero]
        exact (mul_pos hd hc).le

/-- The generator stands at its target. -/
structure Standing (g : CspTrajectoryGenerator ℝ) : Prop where
  position : g.commandPosition = g.targetPosition
  velocity : g.commandVelocity = 0

theorem standing_settle (g : CspTrajectoryGenerator ℝ) : g.settle.Standing := ⟨rfl, zero_literal⟩

theorem Standing.updateTrapezoid (h : g.Standing) :
    (g.updateTrapezoid cycleTime maxVelocity acceleration deceleration).Standing := by
  have hnear : |g.targetPosition - g.commandPosition| ≤ 1e-9 ∧ |g.commandVelocity| ≤ 1e-9 := by
    rw [h.position, h.velocity, sub_self, abs_zero]
    norm_num
  rw [updateTrapezoid_real]
  exact (if_pos hnear).symm ▸ standing_settle g

/-- **A cycle is one of the mover,** or it ends at the target. -/
theorem Approaching.updateTrapezoid (h : Approaching side r w g) (hr : 0 < r) (hw : 0 ≤ w)
    (hle : w ≤ maxVelocity) :
    let speed :=
      (trapezoidMover cycleTime maxVelocity acceleration deceleration hc hv ha hd).nextSpeed r w
    let next := g.updateTrapezoid cycleTime maxVelocity acceleration deceleration
    next.Standing ∨
      0 < r - speed * cycleTime ∧ Approaching side (r - speed * cycleTime) speed next := by
  intro speed next
  have hspeed : (g.speeded cycleTime maxVelocity acceleration deceleration).commandVelocity =
      side * speed := h.trapezoidVelocity hc hv ha hd hr hw hle
  have hspeeded : Approaching side r speed
      (g.speeded cycleTime maxVelocity acceleration deceleration) :=
    ⟨h.one_side, h.distance, hspeed⟩
  have hnext : next = _ := updateTrapezoid_real g cycleTime maxVelocity acceleration deceleration
  simp only [hspeed, mul_assoc] at hnext
  split_ifs at hnext with hnear hcrossed
  · exact .inl (hnext ▸ standing_settle _)
  · exact .inl (hnext ▸ standing_settle _)
  · right
    have hbefore := mt (hspeeded.crossedTarget_iff hr (speed * cycleTime)).mpr hcrossed
    refine ⟨by linarith, h.one_side, ?_, ?_⟩
    · rw [hnext]
      show g.targetPosition - (g.commandPosition + side * (speed * cycleTime)) = _
      rw [sub_add_eq_sub_sub, h.distance]
      ring
    · rw [hnext]

/-! ## Runs -/

variable (cycleTime maxVelocity acceleration deceleration) in
/-- One update with the trapezoid profile. -/
noncomputable def trapezoidCycle (g : CspTrajectoryGenerator ℝ) : CspTrajectoryGenerator ℝ :=
  { g with pointMoveProfileState := none }.updateTrapezoid cycleTime maxVelocity acceleration
    deceleration

/-- A generator that moves with the trapezoid profile. -/
structure TrapezoidMoving (target : ℝ) (g : CspTrajectoryGenerator ℝ) : Prop where
  target : g.targetPosition = target
  inactive : g.timedActive = false
  profile : g.cspProfile = .trapezoid

theorem trapezoidMoving_cycle {target : ℝ} (h : g.TrapezoidMoving target) :
    (g.trapezoidCycle cycleTime maxVelocity acceleration deceleration).TrapezoidMoving target := by
  unfold trapezoidCycle updateTrapezoid settle
  simp only []
  split_ifs
  all_goals exact ⟨h.target, h.inactive, h.profile⟩

theorem standing_cycle (h : g.Standing) :
    (g.trapezoidCycle cycleTime maxVelocity acceleration deceleration).Standing :=
  Standing.updateTrapezoid ⟨h.position, h.velocity⟩

/-- The generator is on its way to the target, no further than `reach` from it. -/
def Underway (side reach maxVelocity : ℝ) (g : CspTrajectoryGenerator ℝ) : Prop :=
  ∃ r w, g.Approaching side r w ∧ 0 < r ∧ r ≤ reach ∧ 0 ≤ w ∧ w ≤ maxVelocity

/-- The cycles that a move can still need. -/
noncomputable def trapezoidRank (g : CspTrajectoryGenerator ℝ) : ℕ :=
  (trapezoidMover cycleTime maxVelocity acceleration deceleration hc hv ha hd).rank maxVelocity
    |g.targetPosition - g.commandPosition| |g.commandVelocity|

theorem Approaching.rank_eq (h : Approaching side r w g) (hr : 0 < r) (hw : 0 ≤ w) :
    trapezoidRank hc hv ha hd g =
      (trapezoidMover cycleTime maxVelocity acceleration deceleration hc hv ha hd).rank maxVelocity
        r w := by
  rw [trapezoidRank, h.distance, h.velocity, abs_side_mul h.one_side, abs_side_mul h.one_side,
    abs_of_pos hr, abs_of_nonneg hw]

/-- **A cycle of a move** ends it, or the generator is still on its way, with fewer cycles to go. -/
theorem underway_cycle {reach : ℝ} (h : Underway side reach maxVelocity g) :
    let next := g.trapezoidCycle cycleTime maxVelocity acceleration deceleration
    next.Standing ∨
      Underway side reach maxVelocity next ∧
        trapezoidRank hc hv ha hd next < trapezoidRank hc hv ha hd g := by
  intro next
  obtain ⟨r, w, happroaching, hr, hreach, hw, hle⟩ := h
  set m := trapezoidMover cycleTime maxVelocity acceleration deceleration hc hv ha hd with hm
  have happroaching' : Approaching side r w { g with pointMoveProfileState := none } :=
    ⟨happroaching.one_side, happroaching.distance, happroaching.velocity⟩
  obtain hstanding | ⟨hpos, hnext⟩ := happroaching'.updateTrapezoid hc hv ha hd hr hw hle
  · exact .inl hstanding
  · have hspeed : 0 ≤ m.nextSpeed r w := m.nextSpeed_nonneg hr hw
    have htop : m.nextSpeed r w ≤ maxVelocity := (m.nextSpeed_le hr hw).trans (max_le hle le_rfl)
    refine .inr ⟨⟨_, _, hnext, hpos, ?_, hspeed, htop⟩, ?_⟩
    · linarith [mul_nonneg hspeed hc.le]
    · rw [happroaching.rank_eq hc hv ha hd hr hw]
      exact (hnext.rank_eq hc hv ha hd hpos hspeed).trans_lt (m.rank_lt hr hw hle le_rfl)

/-- The generator stands at its target or is underway to it. -/
def OnWay (side reach maxVelocity : ℝ) (g : CspTrajectoryGenerator ℝ) : Prop :=
  g.Standing ∨ g.Underway side reach maxVelocity

include hc hv ha hd in
theorem onWay_iterate {reach : ℝ} (h : OnWay side reach maxVelocity g) (k : ℕ) :
    OnWay side reach maxVelocity
      ((trapezoidCycle cycleTime maxVelocity acceleration deceleration)^[k] g) := by
  induction k generalizing g with
  | zero => exact h
  | succ k ih =>
    refine ih ?_
    obtain hstanding | hunderway := h
    · exact .inl (standing_cycle hstanding)
    · exact (underway_cycle hc hv ha hd hunderway).imp_right And.left

theorem standing_iterate (h : g.Standing) (k : ℕ) :
    ((trapezoidCycle cycleTime maxVelocity acceleration deceleration)^[k] g).Standing := by
  induction k generalizing g with
  | zero => exact h
  | succ k ih => exact ih (standing_cycle h)

include hc hv ha hd in
/-- **Every move ends,** and the generator stays where it ends. -/
theorem exists_standing {reach : ℝ} (h : OnWay side reach maxVelocity g) :
    ∃ n, ∀ k, n ≤ k →
      ((trapezoidCycle cycleTime maxVelocity acceleration deceleration)^[k] g).Standing := by
  obtain ⟨n, hn⟩ : ∃ n,
      ((trapezoidCycle cycleTime maxVelocity acceleration deceleration)^[n] g).Standing := by
    obtain hstanding | hunderway := h
    · exact ⟨0, hstanding⟩
    · exact exists_iterate (trapezoidRank hc hv ha hd)
        (fun _ hg => underway_cycle hc hv ha hd hg) hunderway
  refine ⟨n, fun k hk => ?_⟩
  obtain ⟨j, rfl⟩ := Nat.exists_eq_add_of_le' hk
  rw [Function.iterate_add_apply]
  exact standing_iterate hn j

theorem trapezoidMoving_iterate {target : ℝ} (h : g.TrapezoidMoving target) (k : ℕ) :
    ((trapezoidCycle cycleTime maxVelocity acceleration deceleration)^[k] g).TrapezoidMoving
      target := by
  induction k generalizing g with
  | zero => exact h
  | succ k ih => exact ih (trapezoidMoving_cycle h)

/-- A generator underway is between where it started and its target. -/
theorem OnWay.mem_uIcc {start target : ℝ} (h : OnWay side |target - start| maxVelocity g)
    (htarget : g.targetPosition = target) (hstart : target - start = side * |target - start|) :
    g.commandPosition ∈ Set.uIcc start target := by
  obtain hstanding | ⟨r, w, happroaching, hr, hreach, -, -⟩ := h
  · rw [hstanding.position, htarget]
    exact Set.right_mem_uIcc
  · have hdistance := happroaching.distance
    rw [htarget] at hdistance
    rcases happroaching.one_side with rfl | rfl
    · exact Set.mem_uIcc_of_le (by linarith) (by linarith)
    · exact Set.mem_uIcc_of_ge (by linarith) (by linarith)

theorem OnWay.abs_velocity_le {reach : ℝ} (h : OnWay side reach maxVelocity g)
    (hv : 0 ≤ maxVelocity) :
    |g.commandVelocity| ≤ maxVelocity := by
  obtain hstanding | ⟨r, w, happroaching, -, -, hw, hle⟩ := h
  · rwa [hstanding.velocity, abs_zero]
  · rwa [happroaching.velocity, abs_side_mul happroaching.one_side, abs_of_nonneg hw]

end Move

/-- A generator at rest is on its way, on one side of its target. -/
theorem exists_onWay {g : CspTrajectoryGenerator ℝ} {maxVelocity : ℝ}
    (hrest : g.commandVelocity = 0) (hv : 0 ≤ maxVelocity) :
    ∃ side, OnWay side |g.targetPosition - g.commandPosition| maxVelocity g ∧
      g.targetPosition - g.commandPosition = side * |g.targetPosition - g.commandPosition| := by
  set distance := g.targetPosition - g.commandPosition with hdistance
  obtain ⟨side, hside, heq⟩ :
      ∃ side : ℝ, (side = 1 ∨ side = -1) ∧ distance = side * |distance| := by
    rcases le_total 0 distance with h | h
    · exact ⟨1, .inl rfl, by rw [abs_of_nonneg h, one_mul]⟩
    · exact ⟨-1, .inr rfl, by rw [abs_of_nonpos h, neg_one_mul, neg_neg]⟩
  refine ⟨side, ?_, heq⟩
  rcases eq_or_ne distance 0 with hzero | hne
  · exact .inl ⟨(sub_eq_zero.mp hzero).symm, hrest⟩
  · refine .inr ⟨|distance|, 0, ⟨hside, heq, ?_⟩, abs_pos.mpr hne, le_rfl, le_rfl, hv⟩
    rw [hrest, mul_zero]

theorem update_trapezoid {g : CspTrajectoryGenerator ℝ} {target : ℝ} (h : g.TrapezoidMoving target)
    (cycleTime maxVelocity acceleration deceleration jerk : ℝ) :
    g.update cycleTime maxVelocity acceleration deceleration jerk =
      .ok (g.trapezoidCycle (max cycleTime 1e-9) (max maxVelocity 0) (max acceleration 1e-9)
        (max deceleration 1e-9)) := by
  simp only [update, trapezoidCycle, pyMax_real, zero_literal, h.inactive, h.profile, if_true,
    Bool.false_eq_true, if_false]

/-- Playing a generator that moves with the trapezoid profile. -/
theorem playback_trapezoid {g : CspTrajectoryGenerator ℝ} {target : ℝ}
    (h : g.TrapezoidMoving target) {cycleTime : ℝ} {limits : AxisMotionLimits ℝ} (k : ℕ) :
    g.playback cycleTime (fun _ => limits) k =
      .ok ((trapezoidCycle (max cycleTime 1e-9) (max limits.maxVelocity 0)
        (max limits.acceleration 1e-9) (max limits.deceleration 1e-9))^[k] g) := by
  induction k with
  | zero => rfl
  | succ k ih =>
    rw [playback, ih, Function.iterate_succ_apply']
    exact update_trapezoid (trapezoidMoving_iterate h k) _ _ _ _ _

/-- **A trapezoid move from rest** stays between its start and its target and within the maximum
velocity, and ends at the target. -/
theorem trapezoidMove_arrives (g : CspTrajectoryGenerator ℝ) (hprofile : g.cspProfile = .trapezoid)
    (hinactive : g.timedActive = false) (hrest : g.commandVelocity = 0) {cycleTime : ℝ}
    (hcycle : 0 < cycleTime) {limits : AxisMotionLimits ℝ} (hvelocity : 0 < limits.maxVelocity)
    (hacceleration : 0 < limits.acceleration) (hdeceleration : 0 < limits.deceleration) :
    ∃ moved : ℕ → CspTrajectoryGenerator ℝ,
      (∀ k, g.playback cycleTime (fun _ => limits) k = .ok (moved k)) ∧
      (∀ k, (moved k).commandPosition ∈ Set.uIcc g.commandPosition g.targetPosition ∧
        |(moved k).commandVelocity| ≤ limits.maxVelocity) ∧
      ∃ n, ∀ k, n ≤ k → (moved k).commandPosition = g.targetPosition ∧
        (moved k).commandVelocity = 0 := by
  have hmoving : g.TrapezoidMoving g.targetPosition := ⟨rfl, hinactive, hprofile⟩
  have hc : 0 < max cycleTime 1e-9 := lt_max_of_lt_left hcycle
  have hv : 0 < max limits.maxVelocity 0 := lt_max_of_lt_left hvelocity
  have ha : 0 < max limits.acceleration 1e-9 := lt_max_of_lt_left hacceleration
  have hd : 0 < max limits.deceleration 1e-9 := lt_max_of_lt_left hdeceleration
  obtain ⟨side, honWay, hside⟩ := exists_onWay hrest hv.le
  refine ⟨_, playback_trapezoid hmoving, fun k => ?_, ?_⟩
  · have hk := onWay_iterate hc hv ha hd honWay k
    refine ⟨hk.mem_uIcc (trapezoidMoving_iterate hmoving k).target hside, ?_⟩
    exact (hk.abs_velocity_le hv.le).trans (max_le le_rfl hvelocity.le)
  · obtain ⟨n, hn⟩ := exists_standing hc hv ha hd honWay
    refine ⟨n, fun k hk => ⟨?_, (hn k hk).velocity⟩⟩
    rw [(hn k hk).position, (trapezoidMoving_iterate hmoving k).target]

theorem trapezoidMove_arrives_unit :
    ∃ moved : ℕ → CspTrajectoryGenerator ℝ,
      (∀ k, playback ((init 0 .trapezoid).setTargetPosition 1) 1 (fun _ => ⟨1, 1, 1, 1⟩) k =
        .ok (moved k)) ∧
      (∀ k, (moved k).commandPosition ∈ Set.uIcc (0 : ℝ) 1 ∧ |(moved k).commandVelocity| ≤ 1) ∧
      ∃ n, ∀ k, n ≤ k → (moved k).commandPosition = 1 ∧ (moved k).commandVelocity = 0 :=
  trapezoidMove_arrives ((init 0 .trapezoid).setTargetPosition 1) rfl rfl zero_literal one_pos
    one_pos one_pos one_pos

end CspTrajectoryGenerator

end MotionServer
