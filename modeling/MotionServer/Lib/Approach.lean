import Mathlib.Algebra.Order.Floor.Semiring
import Mathlib.Algebra.Order.Archimedean.Real.Basic
import Mathlib.Logic.Function.Iterate
import Mathlib.Tactic.Linarith

/-!
# Approaching a target in cycles

A mover at a distance from its target has a speed toward it. In a cycle the speed goes toward the
top speed, or toward zero to brake, and then the mover covers the way of one cycle.

* `toward`: a speed after a cycle that may change it by no more than a given amount;
* `Mover.nextSpeed`: the braking decision, for any stopping distance;
* **`Mover.cycle_of_nextSpeed`**: a cycle brakes, or it covers a fixed part of the way;
* `Mover.speed`: a mover that moves away brakes first;
* **`Mover.abs_speed_lt`, `Mover.abs_speed_le`**: speeds come down to the top speed;
* **`Mover.rank_lt`**: the rank that falls in every cycle;
* **`exists_iterate`**: what is reached when a rank falls until it is.
-/

namespace Approach

/-! ## Ranks -/

/-- A rank that falls until `Q` holds leads to `Q`. -/
theorem exists_iterate {σ : Type*} {f : σ → σ} {P Q : σ → Prop} (rank : σ → ℕ)
    (hstep : ∀ s, P s → Q (f s) ∨ P (f s) ∧ rank (f s) < rank s) {s : σ} (hs : P s) :
    ∃ k, Q (f^[k] s) := by
  induction hrank : rank s using Nat.strong_induction_on generalizing s with
  | _ n ih =>
    obtain hQ | ⟨hP, hlt⟩ := hstep s hs
    · exact ⟨1, hQ⟩
    · obtain ⟨k, hk⟩ := ih (rank (f s)) (hrank ▸ hlt) hP rfl
      exact ⟨k + 1, hk⟩

theorem ceil_div_lt {x y δ : ℝ} (hδ : 0 < δ) (hx : 0 < x) (hy : y ≤ max (x - δ) 0) :
    ⌈y / δ⌉₊ < ⌈x / δ⌉₊ := by
  have hpos : 0 < ⌈x / δ⌉₊ := Nat.ceil_pos.mpr (div_pos hx hδ)
  rcases le_max_iff.mp hy with hy | hy
  · have hle : y / δ ≤ x / δ - 1 := by
      rw [div_sub_one hδ.ne']
      exact div_le_div_of_nonneg_right hy hδ.le
    have hceil := Nat.ceil_mono hle
    rw [Nat.ceil_sub_one] at hceil
    omega
  · rwa [Nat.ceil_eq_zero.mpr (div_nonpos_of_nonpos_of_nonneg hy hδ.le)]

/-! ## Speeds -/

/-- The speed that is nearest to `desired` and not further than `δ` from `w`. -/
def toward (w desired δ : ℝ) : ℝ := w + max (min (desired - w) δ) (-δ)

theorem toward_above {w desired δ : ℝ} (h : δ ≤ desired - w) (hδ : 0 ≤ δ) :
    toward w desired δ = w + δ := by
  rw [toward, min_eq_right h, max_eq_left (by linarith)]

theorem toward_near {w desired δ : ℝ} (h : |desired - w| ≤ δ) : toward w desired δ = desired := by
  rw [toward, min_eq_left (abs_le.mp h).2, max_eq_left (abs_le.mp h).1]
  ring

theorem toward_below {w desired δ : ℝ} (h : desired - w ≤ -δ) (hδ : 0 ≤ δ) :
    toward w desired δ = w - δ := by
  rw [toward, min_eq_left (by linarith), max_eq_right h, sub_eq_add_neg]

/-- The three ways a speed changes. -/
theorem toward_cases (w desired : ℝ) {δ : ℝ} (hδ : 0 ≤ δ) :
    (δ ≤ desired - w ∧ toward w desired δ = w + δ) ∨
      (|desired - w| ≤ δ ∧ toward w desired δ = desired) ∨
      (desired - w ≤ -δ ∧ toward w desired δ = w - δ) := by
  rcases le_total δ (desired - w) with habove | habove
  · exact .inl ⟨habove, toward_above habove hδ⟩
  · rcases le_total (desired - w) (-δ) with hbelow | hbelow
    · exact .inr (.inr ⟨hbelow, toward_below hbelow hδ⟩)
    · have hnear : |desired - w| ≤ δ := abs_le.mpr ⟨hbelow, habove⟩
      exact .inr (.inl ⟨hnear, toward_near hnear⟩)

theorem abs_toward_sub_le (w desired : ℝ) {δ : ℝ} (hδ : 0 ≤ δ) : |toward w desired δ - w| ≤ δ := by
  rw [toward, add_sub_cancel_left, abs_le]
  exact ⟨le_max_right _ _, max_le (min_le_right _ _) (by linarith)⟩

/-- A speed stays within what bounds it and the desired one. -/
theorem abs_toward_le {w desired δ bound : ℝ} (hδ : 0 ≤ δ) (hw : |w| ≤ bound)
    (hdesired : |desired| ≤ bound) : |toward w desired δ| ≤ bound := by
  rw [abs_le] at hw hdesired ⊢
  obtain ⟨h, heq⟩ | ⟨-, heq⟩ | ⟨h, heq⟩ := toward_cases w desired hδ
  · rw [heq]
    constructor <;> linarith
  · rw [heq]
    exact hdesired
  · rw [heq]
    constructor <;> linarith

theorem toward_neg (w desired : ℝ) {δ : ℝ} (hδ : 0 ≤ δ) :
    toward (-w) (-desired) δ = -toward w desired δ := by
  obtain ⟨h, heq⟩ | ⟨h, heq⟩ | ⟨h, heq⟩ := toward_cases w desired hδ
  · rw [heq, toward_below (by linarith) hδ]
    ring
  · rw [heq, toward_near]
    rwa [neg_sub_neg, abs_sub_comm]
  · rw [heq, toward_above (by linarith) hδ]
    ring

/-- The change is the same in both directions. -/
theorem toward_mul {side : ℝ} (hside : side = 1 ∨ side = -1) (w desired : ℝ) {δ : ℝ} (hδ : 0 ≤ δ) :
    toward (side * w) (side * desired) δ = side * toward w desired δ := by
  rcases hside with rfl | rfl
  · simp only [one_mul]
  · simp only [neg_one_mul, toward_neg w desired hδ]

/-- Braking. -/
theorem toward_zero {w δ : ℝ} (hw : 0 ≤ w) (hδ : 0 ≤ δ) : toward w 0 δ = max (w - δ) 0 := by
  obtain ⟨h, heq⟩ | ⟨h, heq⟩ | ⟨h, heq⟩ := toward_cases w 0 hδ
  · rw [heq, max_eq_right (by linarith)]
    linarith
  · rw [heq, max_eq_right (by linarith [(abs_le.mp h).1])]
  · rw [heq, max_eq_left (by linarith)]

/-- Toward the top speed, from any speed. -/
theorem toward_top (top : ℝ) {w δ : ℝ} (hw : 0 ≤ w) (hδ : 0 ≤ δ) :
    min δ top ≤ toward w top δ ∧ toward w top δ ≤ max w top := by
  obtain ⟨h, heq⟩ | ⟨h, heq⟩ | ⟨h, heq⟩ := toward_cases w top hδ
  · rw [heq]
    exact ⟨(min_le_left _ _).trans (by linarith), le_max_of_le_right (by linarith)⟩
  · rw [heq]
    exact ⟨min_le_right _ _, le_max_right _ _⟩
  · rw [heq]
    exact ⟨(min_le_right _ _).trans (by linarith), le_max_of_le_left (by linarith)⟩

/-! ## Movers -/

/-- What a mover can do in one cycle: it changes its speed by `accel` toward `top` or by `decel`
toward zero, and each unit of speed covers `rate`. -/
structure Mover where
  accel : ℝ
  decel : ℝ
  top : ℝ
  rate : ℝ
  accel_pos : 0 < accel
  decel_pos : 0 < decel
  top_pos : 0 < top
  rate_pos : 0 < rate
  /-- The way that the mover believes to need for a stop. -/
  stopping : ℝ → ℝ
  stopping_zero : stopping 0 = 0

namespace Mover

variable (m : Mover) {r w bound : ℝ}

/-- The braking decision. -/
noncomputable def nextSpeed (r w : ℝ) : ℝ :=
  if r ≤ m.stopping w then toward w 0 m.decel else toward w m.top m.accel

/-- What a cycle without braking covers at least. -/
noncomputable def least : ℝ := min m.accel m.top * m.rate

theorem least_pos : 0 < m.least := mul_pos (lt_min m.accel_pos m.top_pos) m.rate_pos

/-- **A cycle brakes, or it covers a part of the way that does not depend on the speed.** A mover at
rest does not brake. -/
theorem cycle_of_nextSpeed (hr : 0 < r) (hw : 0 ≤ w) :
    (0 < w ∧ m.nextSpeed r w = max (w - m.decel) 0) ∨
      (m.least ≤ m.nextSpeed r w * m.rate ∧ m.nextSpeed r w ≤ max w m.top) := by
  unfold nextSpeed
  by_cases hbrake : r ≤ m.stopping w
  · have hpos : 0 < w := by
      refine lt_of_le_of_ne hw fun hzero => ?_
      rw [← hzero, m.stopping_zero] at hbrake
      linarith
    rw [if_pos hbrake]
    exact .inl ⟨hpos, toward_zero hw m.decel_pos.le⟩
  · have htop := toward_top m.top hw m.accel_pos.le
    rw [if_neg hbrake]
    exact .inr ⟨mul_le_mul_of_nonneg_right htop.1 m.rate_pos.le, htop.2⟩

theorem nextSpeed_nonneg (hr : 0 < r) (hw : 0 ≤ w) : 0 ≤ m.nextSpeed r w := by
  obtain ⟨-, heq⟩ | ⟨hleast, -⟩ := m.cycle_of_nextSpeed hr hw
  · exact heq ▸ le_max_right _ _
  · exact (pos_of_mul_pos_left (m.least_pos.trans_le hleast) m.rate_pos.le).le

theorem nextSpeed_le (hr : 0 < r) (hw : 0 ≤ w) : m.nextSpeed r w ≤ max w m.top := by
  obtain ⟨-, heq⟩ | ⟨-, hle⟩ := m.cycle_of_nextSpeed hr hw
  · rw [heq]
    exact max_le_max (by linarith [m.decel_pos]) m.top_pos.le
  · exact hle

/-! ## Movers that move away -/

/-- The speed after a cycle. A mover that moves away brakes. -/
noncomputable def speed (r w : ℝ) : ℝ := if w < 0 then toward w 0 m.decel else m.nextSpeed r w

theorem speed_of_nonneg (hw : 0 ≤ w) : m.speed r w = m.nextSpeed r w := if_neg hw.not_gt

theorem speed_of_neg (hw : w < 0) : m.speed r w = -max (-w - m.decel) 0 := by
  rw [speed, if_pos hw, ← toward_zero (by linarith) m.decel_pos.le, ← toward_neg _ _ m.decel_pos.le,
    neg_neg, neg_zero]

/-- **Speeds above the top speed fall.** -/
theorem abs_speed_lt (hr : 0 < r) (hw : m.top < |w|) : |m.speed r w| < |w| := by
  have htop := m.top_pos
  have hdecel := m.decel_pos
  rcases lt_or_ge w 0 with hneg | hnonneg
  · rw [abs_of_neg hneg] at hw ⊢
    rw [m.speed_of_neg hneg, abs_neg, abs_of_nonneg (le_max_right _ _)]
    exact max_lt (by linarith) (by linarith)
  · rw [abs_of_nonneg hnonneg] at hw ⊢
    rw [m.speed_of_nonneg hnonneg, abs_of_nonneg (m.nextSpeed_nonneg hr hnonneg), nextSpeed]
    split_ifs
    · rw [toward_zero hnonneg hdecel.le]
      exact max_lt (by linarith) (by linarith)
    · obtain ⟨h, heq⟩ | ⟨-, heq⟩ | ⟨-, heq⟩ := toward_cases w m.top m.accel_pos.le
      · linarith [m.accel_pos]
      · rwa [heq]
      · rw [heq]
        linarith [m.accel_pos]

/-- **Speeds below the top speed stay below it.** -/
theorem abs_speed_le (hr : 0 < r) (hw : |w| ≤ m.top) : |m.speed r w| ≤ m.top := by
  rcases lt_or_ge w 0 with hneg | hnonneg
  · rw [abs_of_neg hneg] at hw
    rw [m.speed_of_neg hneg, abs_neg, abs_of_nonneg (le_max_right _ _)]
    exact max_le (by linarith [m.decel_pos]) m.top_pos.le
  · rw [abs_of_nonneg hnonneg] at hw
    rw [m.speed_of_nonneg hnonneg, abs_of_nonneg (m.nextSpeed_nonneg hr hnonneg)]
    exact (m.nextSpeed_le hr hnonneg).trans (max_le hw le_rfl)

/-- The cycles in which a mover still moves away. -/
noncomputable def awayRank (w : ℝ) : ℕ := ⌈-w / m.decel⌉₊

theorem awayRank_lt (hw : w < 0) : m.awayRank (m.speed r w) < m.awayRank w := by
  refine ceil_div_lt m.decel_pos (neg_pos.mpr hw) (le_of_eq ?_)
  rw [m.speed_of_neg hw, neg_neg]

/-! ## The rank -/

/-- The cycles that a mover with a bounded speed can still need: all braking, for each part of the
way. -/
noncomputable def rank (bound r w : ℝ) : ℕ :=
  ⌈r / m.least⌉₊ * (⌈bound / m.decel⌉₊ + 1) + ⌈w / m.decel⌉₊

/-- **The rank falls in every cycle.** -/
theorem rank_lt (hr : 0 < r) (hw : 0 ≤ w) (hbound : w ≤ bound) (htop : m.top ≤ bound) :
    m.rank bound (r - m.nextSpeed r w * m.rate) (m.nextSpeed r w) < m.rank bound r w := by
  have hdecel := m.decel_pos
  have hleast := m.least_pos
  unfold rank
  obtain ⟨hpos, heq⟩ | ⟨hadvance, hle⟩ := m.cycle_of_nextSpeed hr hw
  · have hway : ⌈(r - m.nextSpeed r w * m.rate) / m.least⌉₊ ≤ ⌈r / m.least⌉₊ := by
      refine Nat.ceil_mono (div_le_div_of_nonneg_right ?_ hleast.le)
      linarith [mul_nonneg (m.nextSpeed_nonneg hr hw) m.rate_pos.le]
    have hspeed : ⌈m.nextSpeed r w / m.decel⌉₊ < ⌈w / m.decel⌉₊ :=
      ceil_div_lt hdecel hpos heq.le
    exact Nat.add_lt_add_of_le_of_lt (Nat.mul_le_mul_right _ hway) hspeed
  · have hway : ⌈(r - m.nextSpeed r w * m.rate) / m.least⌉₊ + 1 ≤ ⌈r / m.least⌉₊ :=
      ceil_div_lt hleast hr (le_max_of_le_left (by linarith))
    have hspeed : ⌈m.nextSpeed r w / m.decel⌉₊ ≤ ⌈bound / m.decel⌉₊ :=
      Nat.ceil_mono (div_le_div_of_nonneg_right (hle.trans (max_le hbound htop)) hdecel.le)
    nlinarith

end Mover

end Approach
