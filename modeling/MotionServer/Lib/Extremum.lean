import Mathlib

/-!
# Bounds of a differentiable function on an interval

A differentiable function on `[a, b]` takes its largest and smallest values at an end or where its
derivative vanishes.

* **`abs_le_on_Icc_iff`**: `|f| ≤ M` on `[a, b]` exactly when it holds at the ends and at the
  stationary points in between;
* `abs_sub_le_of_deriv_le`: a bound of the derivative is a bound of the change.
-/

namespace Extremum

variable {f f' : ℝ → ℝ} {a b M : ℝ}

theorem le_on_Icc (hab : a ≤ b) (hf : ∀ t, HasDerivAt f (f' t) t) (ha : f a ≤ M) (hb : f b ≤ M)
    (hs : ∀ t ∈ Set.Ioo a b, f' t = 0 → f t ≤ M) : ∀ t ∈ Set.Icc a b, f t ≤ M := by
  have hcont : ContinuousOn f (Set.Icc a b) := fun t _ => (hf t).continuousAt.continuousWithinAt
  obtain ⟨x, hx, hmax⟩ := isCompact_Icc.exists_isMaxOn (Set.nonempty_Icc.mpr hab) hcont
  intro t ht
  refine (hmax ht).trans ?_
  rcases eq_or_lt_of_le hx.1 with rfl | hax
  · exact ha
  rcases eq_or_lt_of_le hx.2 with rfl | hxb
  · exact hb
  · have hloc : IsLocalMax f x := hmax.isLocalMax (Icc_mem_nhds hax hxb)
    exact hs x ⟨hax, hxb⟩ (hloc.hasDerivAt_eq_zero (hf x))

/-- **A bound at the ends and at the stationary points is a bound on the whole interval.** -/
theorem abs_le_on_Icc_iff (hab : a ≤ b) (hf : ∀ t, HasDerivAt f (f' t) t) :
    (∀ t ∈ Set.Icc a b, |f t| ≤ M) ↔
      |f a| ≤ M ∧ |f b| ≤ M ∧ ∀ t ∈ Set.Ioo a b, f' t = 0 → |f t| ≤ M := by
  constructor
  · intro h
    exact ⟨h a ⟨le_rfl, hab⟩, h b ⟨hab, le_rfl⟩, fun t ht _ => h t ⟨ht.1.le, ht.2.le⟩⟩
  · rintro ⟨ha, hb, hs⟩ t ht
    have hup : f t ≤ M := le_on_Icc hab hf (le_of_abs_le ha) (le_of_abs_le hb)
      (fun t ht h => le_of_abs_le (hs t ht h)) t ht
    have hneg : ∀ t, HasDerivAt (fun t => -f t) (-f' t) t := fun t => (hf t).neg
    have hdown : -f t ≤ M := le_on_Icc hab hneg (neg_le_of_abs_le ha |> neg_le.mp)
      (neg_le_of_abs_le hb |> neg_le.mp)
      (fun t ht h => neg_le.mp (neg_le_of_abs_le (hs t ht (neg_eq_zero.mp h)))) t ht
    exact abs_le.mpr ⟨neg_le.mp hdown, hup⟩

theorem abs_sub_le_of_deriv_le {s t : ℝ} (hf : ∀ t ∈ Set.Icc a b, HasDerivAt f (f' t) t)
    (hb : ∀ t ∈ Set.Icc a b, |f' t| ≤ M) (hs : s ∈ Set.Icc a b) (ht : t ∈ Set.Icc a b) :
    |f t - f s| ≤ M * |t - s| := by
  have h := (convex_Icc a b).norm_image_sub_le_of_norm_hasDerivWithin_le
    (fun x hx => (hf x hx).hasDerivWithinAt) (fun x hx => hb x hx) hs ht
  simpa only [Real.norm_eq_abs] using h

end Extremum
