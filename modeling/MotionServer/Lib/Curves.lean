import Mathlib
import MotionServer.Lib.Extremum

/-!
# Curves through waypoints

Polynomial segments with given boundary values:

* `Quintic`, a polynomial of degree at most five, `Quintic.pos_hasDeriv` to `Quintic.acc_hasDeriv`;
* **`Quintic.within_iff`**: bounds of the velocity and the acceleration on an interval hold when
  they do at its ends and where the acceleration, respectively the jerk, vanishes;
* `Quintic.hermite3`, `Quintic.hermite5`: the polynomials with given boundary values, and
  `hermite3_end`, `hermite5_end`: they have them;
* `Quintic.scale` with `hermite3_scale`, `hermite5_scale`: scaled boundary values give the scaled
  polynomial.

A unit shape goes from `0` at `0` to `1` at `1`. A leg moves from one waypoint to the next with a
shape stretched over its duration; a path is a chain of legs.

* `UnitShape`: position, velocity and acceleration with their peaks, and the bound of the chords
  that end in `1`;
* `UnitShape.quintic`, `UnitShape.trapezoid`;
* **`UnitShape.path_lipschitz`**: a path whose legs have an average speed up to `w` changes by at
  most `peakVel * w` times the time that passed;
* **`UnitShape.path_chord`**: what is left to the last waypoint is at most `chord * w` times the
  time that is left.
-/

/-! ## Polynomial segments -/

/-- The polynomial `c₀ + c₁ t + … + c₅ t⁵`. -/
@[ext]
structure Quintic where
  c₀ : ℝ
  c₁ : ℝ
  c₂ : ℝ
  c₃ : ℝ
  c₄ : ℝ
  c₅ : ℝ

namespace Quintic

variable (q : Quintic)

def pos (t : ℝ) : ℝ :=
  q.c₀ + q.c₁ * t + q.c₂ * t ^ 2 + q.c₃ * t ^ 3 + q.c₄ * t ^ 4 + q.c₅ * t ^ 5

def vel (t : ℝ) : ℝ :=
  q.c₁ + 2 * q.c₂ * t + 3 * q.c₃ * t ^ 2 + 4 * q.c₄ * t ^ 3 + 5 * q.c₅ * t ^ 4

def acc (t : ℝ) : ℝ := 2 * q.c₂ + 6 * q.c₃ * t + 12 * q.c₄ * t ^ 2 + 20 * q.c₅ * t ^ 3

def jerk (t : ℝ) : ℝ := 6 * q.c₃ + 24 * q.c₄ * t + 60 * q.c₅ * t ^ 2

/-! ## Derivatives -/

theorem pos_hasDeriv (t : ℝ) : HasDerivAt q.pos (q.vel t) t := by
  have h := (((((hasDerivAt_id t).const_mul q.c₁).const_add q.c₀).add
    ((hasDerivAt_pow 2 t).const_mul q.c₂)).add ((hasDerivAt_pow 3 t).const_mul q.c₃)).add
    ((hasDerivAt_pow 4 t).const_mul q.c₄) |>.add ((hasDerivAt_pow 5 t).const_mul q.c₅)
  refine h.congr_deriv ?_
  simp only [vel]
  push_cast
  ring

theorem vel_hasDeriv (t : ℝ) : HasDerivAt q.vel (q.acc t) t := by
  have h := ((((hasDerivAt_id t).const_mul (2 * q.c₂)).const_add q.c₁).add
    ((hasDerivAt_pow 2 t).const_mul (3 * q.c₃))).add ((hasDerivAt_pow 3 t).const_mul (4 * q.c₄))
    |>.add ((hasDerivAt_pow 4 t).const_mul (5 * q.c₅))
  refine h.congr_deriv ?_
  simp only [acc]
  push_cast
  ring

theorem acc_hasDeriv (t : ℝ) : HasDerivAt q.acc (q.jerk t) t := by
  have h := (((hasDerivAt_id t).const_mul (6 * q.c₃)).const_add (2 * q.c₂)).add
    ((hasDerivAt_pow 2 t).const_mul (12 * q.c₄)) |>.add
    ((hasDerivAt_pow 3 t).const_mul (20 * q.c₅))
  refine h.congr_deriv ?_
  simp only [jerk]
  push_cast
  ring

/-! ## Bounds -/

/-- **Velocity and acceleration are bounded on `[0, d]` when they are at the ends and where their
derivatives vanish.** -/
theorem within_iff {d v a : ℝ} (hd : 0 ≤ d) :
    (∀ t ∈ Set.Icc 0 d, |q.vel t| ≤ v ∧ |q.acc t| ≤ a) ↔
      (|q.vel 0| ≤ v ∧ |q.vel d| ≤ v ∧ ∀ t ∈ Set.Ioo 0 d, q.acc t = 0 → |q.vel t| ≤ v) ∧
        |q.acc 0| ≤ a ∧ |q.acc d| ≤ a ∧ ∀ t ∈ Set.Ioo 0 d, q.jerk t = 0 → |q.acc t| ≤ a := by
  rw [← Extremum.abs_le_on_Icc_iff hd q.vel_hasDeriv, ← Extremum.abs_le_on_Icc_iff hd q.acc_hasDeriv]
  exact ⟨fun h => ⟨fun t ht => (h t ht).1, fun t ht => (h t ht).2⟩,
    fun h t ht => ⟨h.1 t ht, h.2 t ht⟩⟩

/-! ## Boundary values -/

/-- The cubic from `p₀` to `p₁` in the time `d` with the velocities `v₀` and `v₁`. -/
noncomputable def hermite3 (p₀ p₁ v₀ v₁ d : ℝ) : Quintic where
  c₀ := p₀
  c₁ := v₀
  c₂ := (3 * (p₁ - p₀) - (2 * v₀ + v₁) * d) / d ^ 2
  c₃ := (2 * (p₀ - p₁) + (v₀ + v₁) * d) / d ^ 3
  c₄ := 0
  c₅ := 0

/-- The quintic from `p₀` to `p₁` in the time `d` with the given velocities and accelerations. -/
noncomputable def hermite5 (p₀ p₁ v₀ v₁ a₀ a₁ d : ℝ) : Quintic where
  c₀ := p₀
  c₁ := v₀
  c₂ := a₀ / 2
  c₃ := (20 * (p₁ - p₀) - (8 * v₁ + 12 * v₀) * d - (3 * a₀ - a₁) * d ^ 2) / (2 * d ^ 3)
  c₄ := (30 * (p₀ - p₁) + (14 * v₁ + 16 * v₀) * d + (3 * a₀ - 2 * a₁) * d ^ 2) / (2 * d ^ 4)
  c₅ := (12 * (p₁ - p₀) - (6 * v₁ + 6 * v₀) * d - (a₀ - a₁) * d ^ 2) / (2 * d ^ 5)

variable {p₀ p₁ v₀ v₁ a₀ a₁ d : ℝ}

theorem hermite3_start : (hermite3 p₀ p₁ v₀ v₁ d).pos 0 = p₀ ∧
    (hermite3 p₀ p₁ v₀ v₁ d).vel 0 = v₀ := by
  constructor <;> simp [hermite3, pos, vel]

theorem hermite3_end (hd : d ≠ 0) : (hermite3 p₀ p₁ v₀ v₁ d).pos d = p₁ ∧
    (hermite3 p₀ p₁ v₀ v₁ d).vel d = v₁ := by
  constructor <;> simp only [hermite3, pos, vel] <;> field_simp <;> ring

theorem hermite5_start : (hermite5 p₀ p₁ v₀ v₁ a₀ a₁ d).pos 0 = p₀ ∧
    (hermite5 p₀ p₁ v₀ v₁ a₀ a₁ d).vel 0 = v₀ ∧ (hermite5 p₀ p₁ v₀ v₁ a₀ a₁ d).acc 0 = a₀ := by
  refine ⟨?_, ?_, ?_⟩ <;> simp [hermite5, pos, vel, acc]
  ring

theorem hermite5_end (hd : d ≠ 0) : (hermite5 p₀ p₁ v₀ v₁ a₀ a₁ d).pos d = p₁ ∧
    (hermite5 p₀ p₁ v₀ v₁ a₀ a₁ d).vel d = v₁ ∧ (hermite5 p₀ p₁ v₀ v₁ a₀ a₁ d).acc d = a₁ := by
  refine ⟨?_, ?_, ?_⟩ <;> simp only [hermite5, pos, vel, acc] <;> field_simp <;> ring

/-! ## Scaling -/

/-- The polynomial in other units. -/
def scale (k : ℝ) : Quintic where
  c₀ := k * q.c₀
  c₁ := k * q.c₁
  c₂ := k * q.c₂
  c₃ := k * q.c₃
  c₄ := k * q.c₄
  c₅ := k * q.c₅

theorem scale_pos (k t : ℝ) : (q.scale k).pos t = k * q.pos t := by
  simp only [scale, pos]; ring

theorem scale_vel (k t : ℝ) : (q.scale k).vel t = k * q.vel t := by
  simp only [scale, vel]; ring

theorem scale_acc (k t : ℝ) : (q.scale k).acc t = k * q.acc t := by
  simp only [scale, acc]; ring

theorem hermite3_scale (k : ℝ) : hermite3 (k * p₀) (k * p₁) (k * v₀) (k * v₁) d =
    (hermite3 p₀ p₁ v₀ v₁ d).scale k := by
  ext <;> simp only [hermite3, scale] <;> ring

theorem hermite5_scale (k : ℝ) :
    hermite5 (k * p₀) (k * p₁) (k * v₀) (k * v₁) (k * a₀) (k * a₁) d =
      (hermite5 p₀ p₁ v₀ v₁ a₀ a₁ d).scale k := by
  ext <;> simp only [hermite5, scale] <;> ring

end Quintic

/-! ## Unit shapes -/

/-- A motion from `0` to `1` over the unit interval. -/
structure UnitShape where
  pos : ℝ → ℝ
  vel : ℝ → ℝ
  acc : ℝ → ℝ
  peakVel : ℝ
  peakAcc : ℝ
  chord : ℝ
  pos_zero : pos 0 = 0
  pos_one : pos 1 = 1
  hasDeriv : ∀ s ∈ Set.Icc (0 : ℝ) 1, HasDerivAt pos (vel s) s
  vel_nonneg : ∀ s ∈ Set.Icc (0 : ℝ) 1, 0 ≤ vel s
  vel_le : ∀ s ∈ Set.Icc (0 : ℝ) 1, vel s ≤ peakVel
  acc_le : ∀ s ∈ Set.Icc (0 : ℝ) 1, |acc s| ≤ peakAcc
  vel_lipschitz : ∀ s ∈ Set.Icc (0 : ℝ) 1, ∀ r ∈ Set.Icc (0 : ℝ) 1,
    |vel r - vel s| ≤ peakAcc * |r - s|
  chord_le : ∀ s ∈ Set.Icc (0 : ℝ) 1, 1 - pos s ≤ chord * (1 - s)

namespace UnitShape

/-! ## The two shapes -/

section Quintic

theorem quintic_hasDeriv (s : ℝ) :
    HasDerivAt (fun s : ℝ => 10 * s ^ 3 - 15 * s ^ 4 + 6 * s ^ 5)
      (30 * s ^ 2 - 60 * s ^ 3 + 30 * s ^ 4) s := by
  have h := (((hasDerivAt_pow 3 s).const_mul 10).sub ((hasDerivAt_pow 4 s).const_mul 15)).add
    ((hasDerivAt_pow 5 s).const_mul 6)
  refine h.congr_deriv ?_
  norm_num
  ring

theorem quintic_vel_hasDeriv (s : ℝ) :
    HasDerivAt (fun s : ℝ => 30 * s ^ 2 - 60 * s ^ 3 + 30 * s ^ 4)
      (60 * s - 180 * s ^ 2 + 120 * s ^ 3) s := by
  have h := (((hasDerivAt_pow 2 s).const_mul 30).sub ((hasDerivAt_pow 3 s).const_mul 60)).add
    ((hasDerivAt_pow 4 s).const_mul 30)
  refine h.congr_deriv ?_
  norm_num
  ring

/-- The velocity is `30 u²` with `u = s (1 - s) ≤ 1 / 4`. -/
theorem quintic_vel_le {s : ℝ} (hs : s ∈ Set.Icc (0 : ℝ) 1) :
    30 * s ^ 2 - 60 * s ^ 3 + 30 * s ^ 4 ≤ 1.875 := by
  have hu : s * (1 - s) ≤ 1 / 4 := by nlinarith [sq_nonneg (s - 1 / 2)]
  have hu0 : 0 ≤ s * (1 - s) := mul_nonneg hs.1 (by linarith [hs.2])
  nlinarith

/-- The square of the acceleration is `100 / 3` at its peak: with `x = (2 s - 1)²` it is
`900 (1 - x)² x`, and `(1 - x)² x ≤ 4 / 27`. -/
theorem quintic_acc_le {s : ℝ} (hs : s ∈ Set.Icc (0 : ℝ) 1) :
    |60 * s - 180 * s ^ 2 + 120 * s ^ 3| ≤ 5.773502691896258 := by
  apply abs_le_of_sq_le_sq _ (by norm_num)
  set x := (2 * s - 1) ^ 2 with hx
  have hx1 : x ≤ 1 := by nlinarith [hs.1, hs.2]
  have heq : (60 * s - 180 * s ^ 2 + 120 * s ^ 3) ^ 2 = 225 * ((1 - x) ^ 2 * x) := by
    rw [hx]; ring
  have hpeak : (1 - x) ^ 2 * x ≤ 4 / 27 := by
    have : 0 ≤ (x - 1 / 3) ^ 2 * (4 / 3 - x) :=
      mul_nonneg (sq_nonneg _) (by linarith)
    nlinarith
  rw [heq]
  norm_num
  linarith

theorem quintic_chord {s : ℝ} (hs : s ∈ Set.Icc (0 : ℝ) 1) :
    1 - (10 * s ^ 3 - 15 * s ^ 4 + 6 * s ^ 5) ≤ 1.25 * (1 - s) := by
  -- with `r = 1 - s` the claim is `r * (1.25 - 10 r² + 15 r³ - 6 r⁴) ≥ 0`
  obtain ⟨r, rfl⟩ : ∃ r, s = 1 - r := ⟨1 - s, by ring⟩
  have hr0 : 0 ≤ r := by linarith [hs.2]
  have hr1 : r ≤ 1 := by linarith [hs.1]
  have hpos : 0 ≤ 1.25 - 10 * r ^ 2 + 15 * r ^ 3 - 6 * r ^ 4 := by
    nlinarith [sq_nonneg (r ^ 2 - 5 / 4 * r + 2 / 5), mul_nonneg hr0 (sub_nonneg.mpr hr1),
      sq_nonneg (r - 18 / 25), mul_nonneg (mul_nonneg hr0 hr0) (sub_nonneg.mpr hr1)]
  nlinarith [mul_nonneg hr0 hpos]

/-- The quintic that starts and ends at rest with no acceleration. -/
def quintic : UnitShape where
  pos s := 10 * s ^ 3 - 15 * s ^ 4 + 6 * s ^ 5
  vel s := 30 * s ^ 2 - 60 * s ^ 3 + 30 * s ^ 4
  acc s := 60 * s - 180 * s ^ 2 + 120 * s ^ 3
  peakVel := 1.875
  peakAcc := 5.773502691896258
  chord := 1.25
  pos_zero := by norm_num
  pos_one := by norm_num
  hasDeriv s _ := quintic_hasDeriv s
  vel_nonneg s hs := by
    have hu0 : 0 ≤ s * (1 - s) := mul_nonneg hs.1 (by linarith [hs.2])
    nlinarith
  vel_le _ hs := quintic_vel_le hs
  acc_le _ hs := quintic_acc_le hs
  vel_lipschitz _ hs _ hr :=
    Extremum.abs_sub_le_of_deriv_le (fun t _ => quintic_vel_hasDeriv t)
      (fun _ ht => quintic_acc_le ht) hs hr
  chord_le _ hs := quintic_chord hs

end Quintic

section Trapezoid

/-- The trapezoid's position: a quarter of acceleration, half at the peak, a quarter of braking. -/
noncomputable def trapezoidPos (s : ℝ) : ℝ :=
  if s < 1 / 4 then 8 / 3 * s ^ 2
  else if s ≤ 3 / 4 then 4 / 3 * s - 1 / 6
  else 1 - 8 / 3 * (1 - s) ^ 2

noncomputable def trapezoidVel (s : ℝ) : ℝ :=
  if s < 1 / 4 then 16 / 3 * s else if s ≤ 3 / 4 then 4 / 3 else 16 / 3 * (1 - s)

noncomputable def trapezoidAcc (s : ℝ) : ℝ :=
  if s < 1 / 4 then 16 / 3 else if s ≤ 3 / 4 then 0 else -(16 / 3)

/-- The first-order error is at most `8 / 3` times the square of the step, also across a corner of
the velocity. -/
theorem trapezoid_taylor (s r : ℝ) :
    |trapezoidPos r - trapezoidPos s - trapezoidVel s * (r - s)| ≤ 8 / 3 * |r - s| ^ 2 := by
  rw [sq_abs, abs_le]
  unfold trapezoidPos trapezoidVel
  split_ifs with h₁ h₂ h₃ h₄ h₅ h₆ h₇ h₈ <;> constructor <;>
    nlinarith [sq_nonneg (r - s), sq_nonneg (r - 1 / 4), sq_nonneg (s - 1 / 4),
      sq_nonneg (r - 3 / 4), sq_nonneg (s - 3 / 4)]

theorem trapezoid_hasDeriv (s : ℝ) : HasDerivAt trapezoidPos (trapezoidVel s) s := by
  have hO : (fun r => trapezoidPos r - trapezoidPos s - trapezoidVel s * (r - s)) =O[nhds s]
      fun r => ‖r - s‖ ^ 2 := by
    refine Asymptotics.IsBigO.of_bound (8 / 3) (Filter.Eventually.of_forall fun r => ?_)
    simpa [Real.norm_eq_abs] using trapezoid_taylor s r
  have h := (hO.hasFDerivAt one_lt_two).hasDerivAt
  have h' := (h.add_const (trapezoidPos s)).add
    (((hasDerivAt_id s).sub_const s).const_mul (trapezoidVel s))
  refine (h'.congr_deriv (by simp)).congr_of_eventuallyEq
    (Filter.Eventually.of_forall fun r => ?_)
  simp only [Pi.add_apply, id_eq]
  ring

theorem trapezoid_vel_lipschitz (s r : ℝ) :
    |trapezoidVel r - trapezoidVel s| ≤ 16 / 3 * |r - s| := by
  rcases abs_cases (r - s) with ⟨h, h'⟩ | ⟨h, h'⟩ <;> rw [h, abs_le] <;>
    unfold trapezoidVel <;> split_ifs <;> constructor <;> linarith

/-- The trapezoid that accelerates for a quarter of the time and brakes for the last quarter. -/
noncomputable def trapezoid : UnitShape where
  pos := trapezoidPos
  vel := trapezoidVel
  acc := trapezoidAcc
  peakVel := 4 / 3
  peakAcc := 16 / 3
  chord := 1.25
  pos_zero := by norm_num [trapezoidPos]
  pos_one := by norm_num [trapezoidPos]
  hasDeriv s _ := trapezoid_hasDeriv s
  vel_nonneg s hs := by
    unfold trapezoidVel
    split_ifs <;> linarith [hs.1, hs.2]
  vel_le s _ := by
    unfold trapezoidVel
    split_ifs <;> linarith
  acc_le s _ := by
    unfold trapezoidAcc
    split_ifs <;> norm_num [abs_of_pos]
  vel_lipschitz s _ r _ := trapezoid_vel_lipschitz s r
  chord_le s hs := by
    unfold trapezoidPos
    split_ifs <;> nlinarith [hs.1, hs.2]

end Trapezoid

/-! ## Between the ends -/

section Bounds

variable (S : UnitShape) {s r : ℝ}

theorem peakVel_nonneg : 0 ≤ S.peakVel :=
  (S.vel_nonneg 0 ⟨le_rfl, zero_le_one⟩).trans (S.vel_le 0 ⟨le_rfl, zero_le_one⟩)

theorem chord_nonneg : 0 ≤ S.chord := by
  have h := S.chord_le 0 ⟨le_rfl, zero_le_one⟩
  rw [S.pos_zero] at h
  linarith

theorem pos_lipschitz (hs : s ∈ Set.Icc (0 : ℝ) 1) (hr : r ∈ Set.Icc (0 : ℝ) 1) :
    |S.pos r - S.pos s| ≤ S.peakVel * |r - s| :=
  Extremum.abs_sub_le_of_deriv_le S.hasDeriv
    (fun t ht => by rw [abs_of_nonneg (S.vel_nonneg t ht)]; exact S.vel_le t ht) hs hr

theorem pos_monotoneOn : MonotoneOn S.pos (Set.Icc 0 1) := by
  refine monotoneOn_of_hasDerivWithinAt_nonneg (convex_Icc 0 1)
    (fun t ht => (S.hasDeriv t ht).continuousAt.continuousWithinAt)
    (fun t ht => (S.hasDeriv t (interior_subset ht)).hasDerivWithinAt)
    (fun t ht => S.vel_nonneg t (interior_subset ht))

theorem pos_mem (hs : s ∈ Set.Icc (0 : ℝ) 1) : S.pos s ∈ Set.Icc (0 : ℝ) 1 := by
  have h0 : (0 : ℝ) ∈ Set.Icc (0 : ℝ) 1 := ⟨le_rfl, zero_le_one⟩
  have h1 : (1 : ℝ) ∈ Set.Icc (0 : ℝ) 1 := ⟨zero_le_one, le_rfl⟩
  constructor
  · rw [← S.pos_zero]
    exact S.pos_monotoneOn h0 hs hs.1
  · rw [← S.pos_one]
    exact S.pos_monotoneOn hs h1 hs.2

end Bounds

/-! ## Legs -/

section Leg

variable (S : UnitShape) (p₀ p₁ d t : ℝ)

/-- Time `t` as a fraction of the duration `d`, kept between the ends. -/
noncomputable def phase : ℝ := max 0 (min d t) / d

/-- The position of the leg from `p₀` to `p₁` of duration `d` at the time `t`. -/
noncomputable def leg : ℝ := p₀ + (p₁ - p₀) * S.pos (phase d t)

variable {S p₀ p₁ d t}

theorem phase_mem (hd : 0 < d) : phase d t ∈ Set.Icc (0 : ℝ) 1 := by
  constructor
  · exact div_nonneg (le_max_left _ _) hd.le
  · rw [phase, div_le_one hd]
    exact max_le hd.le (min_le_left _ _)

theorem phase_of_mem (ht : t ∈ Set.Icc 0 d) : phase d t = t / d := by
  rw [phase, min_eq_right ht.2, max_eq_right ht.1]

theorem leg_of_nonpos (ht : t ≤ 0) : S.leg p₀ p₁ d t = p₀ := by
  have h : max 0 (min d t) = 0 := max_eq_left ((min_le_right _ _).trans ht)
  rw [leg, phase, h, zero_div, S.pos_zero, mul_zero, add_zero]

theorem leg_of_ge (hd : 0 < d) (ht : d ≤ t) : S.leg p₀ p₁ d t = p₁ := by
  have h : max 0 (min d t) = d := by rw [min_eq_left ht, max_eq_right hd.le]
  rw [leg, phase, h, div_self hd.ne', S.pos_one]
  ring

/-- A leg stays between its waypoints. -/
theorem leg_mem (hd : 0 < d) : S.leg p₀ p₁ d t ∈ Set.uIcc p₀ p₁ := by
  have hq := S.pos_mem (phase_mem (t := t) hd)
  rcases le_total p₀ p₁ with h | h
  · rw [Set.uIcc_of_le h]
    constructor <;> unfold leg <;> nlinarith [hq.1, hq.2]
  · rw [Set.uIcc_of_ge h]
    constructor <;> unfold leg <;> nlinarith [hq.1, hq.2]

/-- A leg only comes nearer to its end. -/
theorem leg_mem_of_le (hd : 0 < d) {t' : ℝ} (ht : t ≤ t') :
    S.leg p₀ p₁ d t' ∈ Set.uIcc (S.leg p₀ p₁ d t) p₁ := by
  have hphase : phase d t ≤ phase d t' :=
    div_le_div_of_nonneg_right (max_le_max le_rfl (min_le_min le_rfl ht)) hd.le
  have hpos := S.pos_monotoneOn (phase_mem hd) (phase_mem hd) hphase
  have hend := (S.pos_mem (phase_mem (t := t') hd)).2
  unfold leg
  rcases le_total p₀ p₁ with h | h
  · exact Set.mem_uIcc_of_le (by nlinarith) (by nlinarith)
  · exact Set.mem_uIcc_of_ge (by nlinarith) (by nlinarith)

theorem leg_hasDerivAt (ht : t ∈ Set.Ioo 0 d) :
    HasDerivAt (S.leg p₀ p₁ d) ((p₁ - p₀) * S.vel (phase d t) / d) t := by
  have hd : 0 < d := ht.1.trans ht.2
  have hphase : HasDerivAt (phase d) (1 / d) t := by
    refine ((hasDerivAt_id t).div_const d).congr_of_eventuallyEq ?_
    filter_upwards [Ioo_mem_nhds ht.1 ht.2] with x hx
    exact phase_of_mem ⟨hx.1.le, hx.2.le⟩
  have h := (((S.hasDeriv _ (phase_mem hd)).comp t hphase).const_mul (p₁ - p₀)).const_add p₀
  refine h.congr_deriv ?_
  ring

theorem phase_lipschitz (hd : 0 < d) (t t' : ℝ) :
    |phase d t' - phase d t| ≤ |t' - t| / d := by
  rw [phase, phase, ← sub_div, abs_div, abs_of_pos hd]
  refine div_le_div_of_nonneg_right ?_ hd.le
  have hmax := abs_max_sub_max_le_max 0 (min d t') 0 (min d t)
  have hmin := abs_min_sub_min_le_max d t' d t
  simp only [sub_self, abs_zero, abs_nonneg, sup_of_le_right] at hmax hmin
  exact hmax.trans hmin

/-- The velocity of a leg changes at most at the peak acceleration. -/
theorem leg_vel_lipschitz (hd : 0 < d) (t t' : ℝ) :
    |(p₁ - p₀) * S.vel (phase d t') / d - (p₁ - p₀) * S.vel (phase d t) / d| ≤
      |p₁ - p₀| * S.peakAcc / (d * d) * |t' - t| := by
  have hvel := S.vel_lipschitz _ (phase_mem (t := t) hd) _ (phase_mem (t := t') hd)
  have hpeak : 0 ≤ S.peakAcc := (abs_nonneg _).trans (S.acc_le 0 ⟨le_rfl, zero_le_one⟩)
  rw [← sub_div, ← mul_sub, abs_div, abs_mul, abs_of_pos hd]
  calc |p₁ - p₀| * |S.vel (phase d t') - S.vel (phase d t)| / d
      ≤ |p₁ - p₀| * (S.peakAcc * (|t' - t| / d)) / d := by
        refine div_le_div_of_nonneg_right (mul_le_mul_of_nonneg_left (hvel.trans ?_)
          (abs_nonneg _)) hd.le
        exact mul_le_mul_of_nonneg_left (phase_lipschitz hd t t') hpeak
    _ = |p₁ - p₀| * S.peakAcc / (d * d) * |t' - t| := by field_simp

theorem leg_lipschitz {w : ℝ} (hd : 0 < d) (hw : |p₁ - p₀| ≤ w * d) (t t' : ℝ) :
    |S.leg p₀ p₁ d t' - S.leg p₀ p₁ d t| ≤ S.peakVel * w * |t' - t| := by
  have hpos := S.pos_lipschitz (phase_mem (t := t) hd) (phase_mem (t := t') hd)
  have heq : S.leg p₀ p₁ d t' - S.leg p₀ p₁ d t =
      (p₁ - p₀) * (S.pos (phase d t') - S.pos (phase d t)) := by
    unfold leg; ring
  rw [heq, abs_mul]
  calc |p₁ - p₀| * |S.pos (phase d t') - S.pos (phase d t)|
      ≤ w * d * (S.peakVel * (|t' - t| / d)) := by
        refine mul_le_mul hw (hpos.trans ?_) (abs_nonneg _) ((abs_nonneg _).trans hw)
        exact mul_le_mul_of_nonneg_left (phase_lipschitz hd t t') S.peakVel_nonneg
    _ = S.peakVel * w * |t' - t| := by field_simp

/-- What is left of a leg at a time that is not after its end. -/
theorem leg_chord {w : ℝ} (hd : 0 < d) (hw : |p₁ - p₀| ≤ w * d) (ht : t ≤ d) :
    |p₁ - S.leg p₀ p₁ d t| ≤ S.chord * w * (d - t) := by
  have hmem := phase_mem (t := t) hd
  have hleft : 0 ≤ 1 - S.pos (phase d t) := sub_nonneg.mpr (S.pos_mem hmem).2
  have hphase : 1 - phase d t ≤ (d - t) / d := by
    have hle : t ≤ max 0 (min d t) := by rw [min_eq_right ht]; exact le_max_right _ _
    rw [phase, sub_div, div_self hd.ne']
    exact sub_le_sub_left (div_le_div_of_nonneg_right hle hd.le) 1
  have heq : p₁ - S.leg p₀ p₁ d t = (p₁ - p₀) * (1 - S.pos (phase d t)) := by
    unfold leg; ring
  rw [heq, abs_mul, abs_of_nonneg hleft]
  calc |p₁ - p₀| * (1 - S.pos (phase d t))
      ≤ w * d * (S.chord * ((d - t) / d)) := by
        refine mul_le_mul hw ((S.chord_le _ hmem).trans ?_) hleft ((abs_nonneg _).trans hw)
        exact mul_le_mul_of_nonneg_left hphase S.chord_nonneg
    _ = S.chord * w * (d - t) := by field_simp

end Leg

/-! ## Paths -/

section Path

variable (S : UnitShape)

/-- The position at the time `τ` on the legs from `p` through the waypoints that follow. A waypoint
is a time and a position. -/
noncomputable def path : ℝ × ℝ → List (ℝ × ℝ) → ℝ → ℝ
  | p, [], _ => p.2
  | p, q :: rest, τ => if τ ≤ q.1 then S.leg p.2 q.2 (q.1 - p.1) (τ - p.1) else path q rest τ

/-- From `p` to the later `q` with an average speed of at most `w`. -/
def Reaches (w : ℝ) (p q : ℝ × ℝ) : Prop := p.1 < q.1 ∧ |q.2 - p.2| ≤ w * (q.1 - p.1)

variable {S} {w : ℝ}

theorem fst_le_last {p : ℝ × ℝ} {l : List (ℝ × ℝ)} (h : (p :: l).IsChain (Reaches w)) :
    p.1 ≤ (l.getLastD p).1 := by
  induction l generalizing p with
  | nil => rfl
  | cons q rest ih =>
    obtain ⟨hpq, hrest⟩ := List.isChain_cons_cons.mp h
    rw [List.getLastD_cons]
    exact hpq.1.le.trans (ih hrest)

theorem path_of_le {p : ℝ × ℝ} {l : List (ℝ × ℝ)} (h : (p :: l).IsChain (Reaches w)) {τ : ℝ}
    (hτ : τ ≤ p.1) : S.path p l τ = p.2 := by
  cases l with
  | nil => rfl
  | cons q rest =>
    have hpq := (List.isChain_cons_cons.mp h).1.1
    rw [path, if_pos (hτ.trans hpq.le), leg_of_nonpos (sub_nonpos.mpr hτ)]

/-- **A path moves at most at the peak speed of its legs.** -/
theorem path_lipschitz (hw : 0 ≤ w) {p : ℝ × ℝ} {l : List (ℝ × ℝ)}
    (h : (p :: l).IsChain (Reaches w)) {τ τ' : ℝ} (hτ : τ ≤ τ') :
    |S.path p l τ' - S.path p l τ| ≤ S.peakVel * w * (τ' - τ) := by
  have hpeak := mul_nonneg S.peakVel_nonneg hw
  induction l generalizing p τ with
  | nil =>
    simp only [path, sub_self, abs_zero]
    exact mul_nonneg hpeak (sub_nonneg.mpr hτ)
  | cons q rest ih =>
    obtain ⟨⟨hpq, hslow⟩, hrest⟩ := List.isChain_cons_cons.mp h
    have hleg := leg_lipschitz (S := S) (sub_pos.mpr hpq) hslow (τ - p.1)
    by_cases h₁ : τ ≤ q.1
    · by_cases h₂ : τ' ≤ q.1
      · rw [path, path, if_pos h₁, if_pos h₂]
        refine (hleg (τ' - p.1)).trans (le_of_eq ?_)
        rw [sub_sub_sub_cancel_right, abs_of_nonneg (sub_nonneg.mpr hτ)]
      · -- the waypoint `q` lies between the two times
        have hq := hleg (q.1 - p.1)
        rw [leg_of_ge (sub_pos.mpr hpq) le_rfl, sub_sub_sub_cancel_right,
          abs_of_nonneg (sub_nonneg.mpr h₁)] at hq
        have hlater := ih hrest (not_le.mp h₂).le
        rw [path_of_le hrest le_rfl] at hlater
        rw [path, path, if_pos h₁, if_neg h₂]
        refine (abs_sub_le _ q.2 _).trans ((add_le_add hlater hq).trans (le_of_eq ?_))
        ring
    · rw [path, path, if_neg h₁, if_neg (fun h => h₁ (hτ.trans h))]
      exact ih hrest hτ

/-- **What is left of a path is at most the chord of its legs.** -/
theorem path_chord (hw : 0 ≤ w) {p : ℝ × ℝ} {l : List (ℝ × ℝ)}
    (h : (p :: l).IsChain (Reaches w)) {τ : ℝ} (hτ : τ ≤ (l.getLastD p).1) :
    |(l.getLastD p).2 - S.path p l τ| ≤ S.chord * w * ((l.getLastD p).1 - τ) := by
  have hchord := mul_nonneg S.chord_nonneg hw
  induction l generalizing p τ with
  | nil =>
    simp only [path, List.getLastD_nil, sub_self, abs_zero]
    exact mul_nonneg hchord (sub_nonneg.mpr hτ)
  | cons q rest ih =>
    obtain ⟨⟨hpq, hslow⟩, hrest⟩ := List.isChain_cons_cons.mp h
    rw [List.getLastD_cons] at hτ ⊢
    by_cases h₁ : τ ≤ q.1
    · have hleg := leg_chord (S := S) (sub_pos.mpr hpq) hslow (sub_le_sub_right h₁ p.1)
      have hlater := ih hrest (fst_le_last hrest)
      rw [path_of_le hrest le_rfl] at hlater
      rw [path, if_pos h₁]
      refine (abs_sub_le _ q.2 _).trans ((add_le_add hlater hleg).trans (le_of_eq ?_))
      ring
    · rw [path, if_neg h₁]
      exact ih hrest hτ

end Path

end UnitShape
