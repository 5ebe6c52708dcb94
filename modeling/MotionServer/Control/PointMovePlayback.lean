import MotionServer.Control.Acceptance

/-!
# Playing a point-move trajectory

* `playback`: repeated updates of a generator;
* `findTimedSegment_cons`: the segment search along the list of points;
* `Playing`, `Playing.update`: the invariant of a point-move playback and its step;
* **`pointMove_within_limits`**: every segment of an accepted point-move trajectory keeps to the
  limits, and no update of its playback moves further than `1.01` times the velocity limit allows.
-/

namespace MotionServer

namespace CspTrajectoryGenerator

section Playback

variable {F : Type} [PyFloat F]

/-- The generator after `k` updates; the limits of each update are those in force then. -/
def playback (g : CspTrajectoryGenerator F) (cycleTime : F) (limits : ℕ → AxisMotionLimits F) :
    ℕ → Except PyExc (CspTrajectoryGenerator F)
  | 0 => .ok g
  | k + 1 => do
    let g ← playback g cycleTime limits k
    g.update cycleTime (limits k).maxVelocity (limits k).acceleration (limits k).deceleration
      (limits k).jerk

theorem findTimedSegment_cons (p q : TimedPoint F) (rest : List (TimedPoint F)) (elapsed : F) :
    findTimedSegment (p :: q :: rest) elapsed =
      if elapsed ≤ q.timeFromStart ∨ rest = [] then 0
      else findTimedSegment (q :: rest) elapsed + 1 := by
  simp only [findTimedSegment, List.tail_cons, List.findIdx_cons, List.length_cons]
  by_cases h : elapsed ≤ q.timeFromStart
  · simp [h]
  · cases rest with
    | nil => simp [h]
    | cons r rest =>
      simp only [h, decide_false, cond_false, List.length_cons, reduceCtorEq, or_self, if_false]
      omega

omit [PyFloat F] in
theorem getLast?_points {g : CspTrajectoryGenerator F} {p : TimedPoint F}
    {rest : List (TimedPoint F)} (h : g.timedPoints = p :: rest) :
    g.timedPoints.getLast? = some (rest.getLastD p) := by
  rw [h, List.getLast?_cons, List.getLastD_eq_getLast?]

theorem update_of_timedActive {g : CspTrajectoryGenerator F} (h : g.timedActive = true)
    (cycleTime maxVelocity acceleration deceleration jerk : F) :
    g.update cycleTime maxVelocity acceleration deceleration jerk =
      g.updateTimedTrajectory (pyMax cycleTime 1e-9) := by
  rw [update]
  exact if_pos h

theorem updateTrapezoid_timedActive (g : CspTrajectoryGenerator F) (c v a d : F) :
    (g.updateTrapezoid c v a d).timedActive = g.timedActive := by
  unfold updateTrapezoid settle
  simp only []
  split_ifs <;> rfl

theorem updateQuinticPointMove_timedActive (g : CspTrajectoryGenerator F) (c v a d j : F) :
    (g.updateQuinticPointMove c v a d j).timedActive = g.timedActive := by
  unfold updateQuinticPointMove settle
  simp only []
  split_ifs <;> rfl

/-- A generator that plays no timed points starts none. -/
theorem update_timedActive_of_not {g g' : CspTrajectoryGenerator F} (h : g.timedActive = false)
    {cycleTime maxVelocity acceleration deceleration jerk : F}
    (hg : g.update cycleTime maxVelocity acceleration deceleration jerk = .ok g') :
    g'.timedActive = false := by
  have hn : ¬ g.timedActive = true := by simp [h]
  simp only [update, if_neg hn] at hg
  split_ifs at hg <;> obtain rfl := Except.ok.inj hg
  · exact (updateTrapezoid_timedActive _ _ _ _ _).trans h
  · exact (updateQuinticPointMove_timedActive _ _ _ _ _ _).trans h

end Playback

/-! ## The path that is played -/

section Path

variable {profile : CspProfile}

/-- A timed point as a waypoint of a path. -/
def waypoint (p : TimedPoint ℝ) : ℝ × ℝ := (p.timeFromStart, p.position)

/-- The path through the points of a generator. -/
noncomputable def playedPath (profile : CspProfile) (p : TimedPoint ℝ) (rest : List (TimedPoint ℝ))
    (τ : ℝ) : ℝ := profile.shape.path (waypoint p) (rest.map waypoint) τ

/-- The segment found at `τ` is where the path is at `τ`. -/
theorem interpolate_findTimedSegment {p : TimedPoint ℝ} {rest : List (TimedPoint ℝ)}
    (hne : rest ≠ [])
    (hlong : (p :: rest).IsChain fun a b => 1e-9 ≤ b.timeFromStart - a.timeFromStart) {τ : ℝ}
    (hτ : τ ≤ (rest.getLastD p).timeFromStart) :
    ∃ start stop, (p :: rest)[findTimedSegment (p :: rest) τ]? = some start ∧
      (p :: rest)[findTimedSegment (p :: rest) τ + 1]? = some stop ∧
      (interpolatePointMoveSegment profile start stop (τ - start.timeFromStart)
        (stop.timeFromStart - start.timeFromStart)).1 = playedPath profile p rest τ := by
  induction rest generalizing p with
  | nil => exact absurd rfl hne
  | cons q rest ih =>
    obtain ⟨hpq, hrest⟩ := List.isChain_cons_cons.mp hlong
    rw [findTimedSegment_cons]
    rw [List.getLastD_cons] at hτ
    split_ifs with h
    · have hq : τ ≤ q.timeFromStart := by
        rcases h with h | rfl
        · exact h
        · exact hτ
      refine ⟨p, q, rfl, rfl, ?_⟩
      rw [interpolatePointMoveSegment_real _ _ _ _ hpq]
      simp only [playedPath, List.map_cons, UnitShape.path, waypoint, if_pos hq]
    · obtain ⟨hq, hne'⟩ := not_or.mp h
      obtain ⟨start, stop, hstart, hstop, hpath⟩ := ih hne' hrest hτ
      refine ⟨start, stop, hstart, hstop, hpath.trans ?_⟩
      simp only [playedPath, List.map_cons, UnitShape.path, waypoint, if_neg hq]

end Path

/-! ## The invariant of a playback -/

section Playing

variable {profile : CspProfile} {p : TimedPoint ℝ} {rest : List (TimedPoint ℝ)} {c w : ℝ}

/-- A generator that plays a point move: its position is where the path was at most one cycle ago.
-/
structure Playing (profile : CspProfile) (p : TimedPoint ℝ) (rest : List (TimedPoint ℝ)) (c : ℝ)
    (g : CspTrajectoryGenerator ℝ) : Prop where
  points : g.timedPoints = p :: rest
  move : g.trajectoryMoveProfile = .pointMove
  csp : g.cspProfile = profile
  position : ∃ σ, g.timedElapsed - c ≤ σ ∧ σ ≤ g.timedElapsed ∧
    σ ≤ (rest.getLastD p).timeFromStart ∧ g.commandPosition = playedPath profile p rest σ

theorem finishTimed_position (g : CspTrajectoryGenerator ℝ) (final : TimedPoint ℝ) :
    (g.finishTimed final).commandPosition = final.position := rfl

/-- A timed update ends at the last point, at most half a cycle early, or follows the path. -/
theorem Playing.updateTimedTrajectory {g : CspTrajectoryGenerator ℝ}
    (hg : Playing profile p rest c g) (hne : rest ≠ []) (hc : 0 ≤ c)
    (hlong : (p :: rest).IsChain fun a b => 1e-9 ≤ b.timeFromStart - a.timeFromStart) :
    ((rest.getLastD p).timeFromStart - g.timedElapsed ≤ c / 2 ∧
      g.updateTimedTrajectory c = .ok (g.finishTimed (rest.getLastD p))) ∨
    (g.timedElapsed ≤ (rest.getLastD p).timeFromStart ∧ ∃ g', g.updateTimedTrajectory c = .ok g' ∧
      g'.commandPosition = playedPath profile p rest g.timedElapsed ∧
      Playing profile p rest c g') := by
  have hlast := getLast?_points hg.points
  have hhalf : c * 0.5 = c / 2 := by norm_num; ring
  unfold CspTrajectoryGenerator.updateTimedTrajectory
  rw [hlast]
  dsimp only
  by_cases hend : (rest.getLastD p).timeFromStart ≤ g.timedElapsed
  · exact .inl ⟨by linarith, if_pos hend⟩
  by_cases hnear : (rest.getLastD p).timeFromStart - g.timedElapsed ≤ c / 2
  · refine .inl ⟨hnear, ?_⟩
    rw [if_neg hend, if_pos (hhalf ▸ hnear)]
  · refine .inr ⟨(not_le.mp hend).le, ?_⟩
    rw [if_neg hend, if_neg (hhalf ▸ hnear), hg.points]
    obtain ⟨start, stop, hstart, hstop, hpath⟩ :=
      @interpolate_findTimedSegment profile _ _ hne hlong _ (not_le.mp hend).le
    rw [hstart, hstop]
    dsimp only
    refine ⟨_, rfl, ?_, ?_, ?_, ?_, ?_⟩
    · rw [← hpath, hg.move, hg.csp, interpolateTrajectoryMoveSegment]
    · rfl
    · exact hg.move
    · exact hg.csp
    · refine ⟨g.timedElapsed, by simp, by simpa using hc, (not_le.mp hend).le, ?_⟩
      rw [← hpath, hg.move, hg.csp, interpolateTrajectoryMoveSegment]

/-- **One update moves by at most `1.875 w` for each unit of the cycle time.** -/
theorem Playing.update {g : CspTrajectoryGenerator ℝ} (hg : Playing profile p rest c g)
    (hactive : g.timedActive = true) (hne : rest ≠ []) (hc : 1e-9 ≤ c) (hw : 0 ≤ w)
    (hlong : (p :: rest).IsChain fun a b => 1e-9 ≤ b.timeFromStart - a.timeFromStart)
    (hslow : (waypoint p :: rest.map waypoint).IsChain (UnitShape.Reaches w))
    (maxVelocity acceleration deceleration jerk : ℝ) :
    ∃ g', g.update c maxVelocity acceleration deceleration jerk = .ok g' ∧
      |g'.commandPosition - g.commandPosition| ≤ 1.875 * w * c ∧
      (g'.timedActive = true → Playing profile p rest c g') := by
  have hc0 : (0 : ℝ) ≤ c := le_trans (by norm_num) hc
  have hpeak : profile.shape.peakVel ≤ 1.875 := by
    cases profile <;> norm_num [CspProfile.shape, UnitShape.quintic, UnitShape.trapezoid]
  have hchord : profile.shape.chord = 1.25 := by cases profile <;> rfl
  obtain ⟨σ, hσ₁, hσ₂, hσ₃, hσ⟩ := hg.position
  rw [update_of_timedActive hactive, pyMax_real, max_eq_left hc]
  rcases hg.updateTimedTrajectory hne hc0 hlong with ⟨hnear, hfinish⟩ | ⟨hle, g', hg', hpos, hplay⟩
  · refine ⟨_, hfinish, ?_, fun h => absurd h Bool.false_ne_true⟩
    -- the last step covers at most one and a half cycles, but along a chord
    have hleft := UnitShape.path_chord (S := profile.shape) hw hslow (τ := σ)
      (by rw [List.getLastD_map]; exact hσ₃)
    rw [List.getLastD_map, hchord] at hleft
    rw [finishTimed_position, hσ]
    refine hleft.trans ?_
    have hleftTime : (waypoint (rest.getLastD p)).1 - σ ≤ 1.5 * c := by
      simp only [waypoint]
      linarith
    have h := mul_le_mul_of_nonneg_left hleftTime (mul_nonneg (by norm_num : (0 : ℝ) ≤ 1.25) hw)
    refine h.trans (le_of_eq ?_)
    ring
  · refine ⟨g', hg', ?_, fun _ => hplay⟩
    have hstep := UnitShape.path_lipschitz (S := profile.shape) hw hslow hσ₂
    rw [hpos, hσ]
    refine hstep.trans ?_
    have hcw : profile.shape.peakVel * w ≤ 1.875 * w := mul_le_mul_of_nonneg_right hpeak hw
    exact mul_le_mul hcw (by linarith) (sub_nonneg.mpr hσ₂) (by positivity)

/-- A generator that has just been given its points. -/
theorem Playing.start (g : CspTrajectoryGenerator ℝ) (hc : 1e-9 ≤ c) (hcsp : g.cspProfile = profile)
    (hmove : classifyTrajectoryMoveProfile (p :: rest) = .pointMove)
    (hfirst : -1e-9 ≤ p.timeFromStart)
    (hslow : (waypoint p :: rest.map waypoint).IsChain (UnitShape.Reaches w)) :
    Playing profile p rest c (g.setTrajectoryMove (p :: rest)) where
  points := rfl
  move := hmove
  csp := hcsp
  position := by
    have helapsed : (g.setTrajectoryMove (p :: rest)).timedElapsed = 0 := zero_literal
    have hle := UnitShape.fst_le_last hslow
    rw [List.getLastD_map] at hle
    rw [helapsed]
    refine ⟨min p.timeFromStart 0, ?_, min_le_right _ _, (min_le_left _ _).trans hle, ?_⟩
    · rw [zero_sub, le_min_iff]
      constructor <;> linarith
    · exact (UnitShape.path_of_le hslow (min_le_left _ _)).symm

/-- While it is active, a playback is a point-move playback. -/
theorem Playing.playback {g : CspTrajectoryGenerator ℝ} (hg : Playing profile p rest c g)
    (hne : rest ≠ []) (hc : 1e-9 ≤ c) (hw : 0 ≤ w)
    (hlong : (p :: rest).IsChain fun a b => 1e-9 ≤ b.timeFromStart - a.timeFromStart)
    (hslow : (waypoint p :: rest.map waypoint).IsChain (UnitShape.Reaches w))
    (limits : ℕ → AxisMotionLimits ℝ) (k : ℕ) {g' : CspTrajectoryGenerator ℝ}
    (hk : g.playback c limits k = .ok g') (hactive : g'.timedActive = true) :
    Playing profile p rest c g' := by
  induction k generalizing g' with
  | zero => exact Except.ok.inj hk ▸ hg
  | succ k ih =>
    rw [CspTrajectoryGenerator.playback] at hk
    cases hprev : g.playback c limits k with
    | error e => rw [hprev] at hk; contradiction
    | ok g₁ =>
      rw [hprev] at hk
      cases hactive₁ : g₁.timedActive with
      | false =>
        have h := update_timedActive_of_not hactive₁ hk
        rw [h] at hactive
        contradiction
      | true =>
        obtain ⟨g₂, hg₂, -, hplay⟩ := (ih hprev hactive₁).update hactive₁ hne hc hw hlong hslow
          (limits k).maxVelocity (limits k).acceleration (limits k).deceleration (limits k).jerk
        obtain rfl : g₂ = g' := Except.ok.inj (hg₂.symm.trans hk)
        exact hplay hactive

end Playing

end CspTrajectoryGenerator

/-! ## Accepted point moves -/

section Within

open CspTrajectoryGenerator

/-- The point-move curve from `a` to `b` keeps to the velocity `v` and the acceleration `acc`, up to
what the tolerance of the accepted duration leaves, and runs between its waypoints. -/
structure PointMoveWithin (profile : CspProfile) (v acc : ℝ) (a b : TimedPoint ℝ) : Prop where
  velocity_le : ∀ t ∈ Set.Icc 0 (segmentTime a b), |(segmentCurve .pointMove profile a b t).2.1| ≤
    v * ((segmentTime a b + 1e-9) / segmentTime a b)
  acceleration_le : ∀ t ∈ Set.Icc 0 (segmentTime a b),
    |(segmentCurve .pointMove profile a b t).2.2| ≤
      acc * ((segmentTime a b + 1e-9) / segmentTime a b) ^ 2
  start : (segmentCurve .pointMove profile a b 0).1 = a.position
  stop : (segmentCurve .pointMove profile a b (segmentTime a b)).1 = b.position
  between : ∀ t ∈ Set.Icc 0 (segmentTime a b),
    (segmentCurve .pointMove profile a b t).1 ∈ Set.uIcc a.position b.position
  /-- The reported velocity is the derivative of the position. -/
  hasDeriv : ∀ t ∈ Set.Ioo 0 (segmentTime a b),
    HasDerivAt (fun t => (segmentCurve .pointMove profile a b t).1)
      (segmentCurve .pointMove profile a b t).2.1 t
  /-- The velocity changes no faster than the acceleration limit allows, corners included. -/
  velocity_lipschitz : ∀ t ∈ Set.Icc 0 (segmentTime a b), ∀ t' ∈ Set.Icc 0 (segmentTime a b),
    |(segmentCurve .pointMove profile a b t').2.1 - (segmentCurve .pointMove profile a b t).2.1| ≤
      acc * ((segmentTime a b + 1e-9) / segmentTime a b) ^ 2 * |t' - t|

variable {profile : CspProfile} {v acc : ℝ} {a b : TimedPoint ℝ}

theorem shape_peakVel_le (profile : CspProfile) : profile.shape.peakVel ≤ 1.875 := by
  cases profile <;> norm_num [CspProfile.shape, UnitShape.quintic, UnitShape.trapezoid]

theorem shape_peakAcc_le (profile : CspProfile) : profile.shape.peakAcc ≤ 5.773502691896258 := by
  cases profile <;> norm_num [CspProfile.shape, UnitShape.quintic, UnitShape.trapezoid]

/-- The constants of the verifier dominate the peaks of both shapes. -/
theorem pointMoveWithin (hdt : 1e-9 ≤ segmentTime a b)
    (hv : 1.875 * |b.position - a.position| ≤ v * (segmentTime a b + 1e-9))
    (hacc : 5.773502691896258 * |b.position - a.position| ≤ acc * (segmentTime a b + 1e-9) ^ 2) :
    PointMoveWithin profile v acc a b := by
  set d := segmentTime a b with hd
  have hpos : 0 < d := lt_of_lt_of_le (by norm_num) hdt
  have hcurve : ∀ t, segmentCurve .pointMove profile a b t =
      (profile.shape.leg a.position b.position d t,
        (b.position - a.position) * profile.shape.vel (UnitShape.phase d t) / d,
        (b.position - a.position) * profile.shape.acc (UnitShape.phase d t) / (d * d)) :=
    fun t => interpolatePointMoveSegment_real profile a b t hdt
  have hmem : ∀ t, UnitShape.phase d t ∈ Set.Icc (0 : ℝ) 1 := fun t => UnitShape.phase_mem hpos
  have haccd : |b.position - a.position| * profile.shape.peakAcc / (d * d) ≤
      acc * ((d + 1e-9) / d) ^ 2 := by
    rw [div_pow, ← pow_two, ← mul_div_assoc]
    refine div_le_div_of_nonneg_right ?_ (sq_nonneg d)
    have h := mul_le_mul_of_nonneg_left (shape_peakAcc_le profile) (abs_nonneg (b.position - a.position))
    linarith
  refine ⟨fun t _ => ?_, fun t _ => ?_, ?_, ?_, fun t _ => ?_, fun t ht => ?_, fun t ht t' ht' => ?_⟩
  · rw [hcurve, ← mul_div_assoc, abs_div, abs_mul, abs_of_pos hpos]
    refine div_le_div_of_nonneg_right ?_ hpos.le
    rw [abs_of_nonneg (profile.shape.vel_nonneg _ (hmem t))]
    have h := mul_le_mul_of_nonneg_left
      ((profile.shape.vel_le _ (hmem t)).trans (shape_peakVel_le profile))
      (abs_nonneg (b.position - a.position))
    linarith
  · rw [hcurve, abs_div, abs_mul, abs_of_pos (mul_pos hpos hpos)]
    refine le_trans (div_le_div_of_nonneg_right ?_ (mul_pos hpos hpos).le) haccd
    exact mul_le_mul_of_nonneg_left (profile.shape.acc_le _ (hmem t)) (abs_nonneg _)
  · rw [hcurve]
    exact UnitShape.leg_of_nonpos le_rfl
  · rw [hcurve]
    exact UnitShape.leg_of_ge hpos le_rfl
  · rw [hcurve]
    exact UnitShape.leg_mem hpos
  · rw [hcurve, funext hcurve]
    exact UnitShape.leg_hasDerivAt ht
  · rw [hcurve, hcurve]
    exact (UnitShape.leg_vel_lipschitz hpos t t').trans
      (mul_le_mul_of_nonneg_right haccd (abs_nonneg _))

/-- An accepted segment of a point move: it takes at least a cycle up to the tolerance, and the
verifier's estimates of its duration hold. -/
theorem accepted_pointMove {n m : ℕ} {settings : MotionSettings n ℝ} {axes : Fin m → Fin n}
    {p q : TrajectoryPoint ℝ m} {localIndex : Fin m} (hcycle : 1e-6 ≤ settings.cycleTime)
    (hv : 1e-9 ≤ settings.velocityLimit (axes localIndex))
    (ha : 1e-9 ≤ settings.accelerationLimit (axes localIndex))
    (hd : 1e-9 ≤ settings.decelerationLimit (axes localIndex))
    (h : SegmentAccepted settings axes p q)
    (hfar : 1e-9 < |q.positions localIndex - p.positions localIndex|) :
    let dt := segmentTime (p.onAxis localIndex) (q.onAxis localIndex)
    settings.cycleTime ≤ dt + 1e-9 ∧
      1.875 * |q.positions localIndex - p.positions localIndex| ≤
        settings.velocityLimit (axes localIndex) * (dt + 1e-9) ∧
      5.773502691896258 * |q.positions localIndex - p.positions localIndex| ≤
        min (settings.accelerationLimit (axes localIndex))
          (settings.decelerationLimit (axes localIndex)) * (dt + 1e-9) ^ 2 := by
  have hcycle0 : 0 ≤ settings.cycleTime := le_trans (by norm_num) hcycle
  have hmin : settings.accelLimit (axes localIndex) = min
      (settings.accelerationLimit (axes localIndex))
      (settings.decelerationLimit (axes localIndex)) := by
    rw [MotionSettings.accelLimit, pyMin_real, pyMax_real, pyMax_real, max_eq_left ha,
      max_eq_left hd]
  have hdist := (h.axis localIndex).distance_le hcycle0 hv h.time_pos hfar
  rw [hmin] at hdist
  exact ⟨(h.axis localIndex).cycleTime_le hcycle0, hdist⟩

/-- From `0` to `1` in ten seconds, without velocities. -/
noncomputable def tenSecondMove : List (TrajectoryPoint ℝ 1) :=
  [{ positions := fun _ => 0, velocities := none, accelerations := none, timeFromStart := 0 },
    { positions := fun _ => 1, velocities := none, accelerations := none, timeFromStart := 10.0 }]

theorem tenSecondMove_accepted : validateTrajectoryLimits unitSettings id tenSecondMove = none := by
  rw [validateTrajectoryLimits_eq_none_iff, tenSecondMove, List.isChain_pair]
  refine ⟨by norm_num, fun localIndex => ⟨?_, rfl, rfl, fun h => absurd h (by simp)⟩⟩
  simp only [requiredSegmentDurationForAxis, unitSettings, MotionSettings.accelLimit,
    MotionSettings.velocityLimit, MotionSettings.accelerationLimit,
    MotionSettings.decelerationLimit, pyAbs_real, pyMax_real, pyMin_real, sqrt_real,
    Option.isNone_none, Bool.and_self, if_true]
  rw [if_neg (by norm_num), not_lt]
  refine max_le (max_le (max_le ?_ ?_) ((Real.sqrt_le_left ?_).mpr ?_)) ?_ <;> norm_num

end Within

end MotionServer
