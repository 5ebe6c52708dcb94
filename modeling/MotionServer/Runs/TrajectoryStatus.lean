import MotionServer.Control.PointMovePlayback
import MotionServer.Runs.Requests

/-!
# The trajectory the server reports

A generator plays timed points; the server keeps which trajectory is active. The two agree when
every generator that plays does so for an axis and points of the active trajectory.

* `TrajectoryState.played`, `World.TrajectoryTruthful`: the agreement;
* `statusFrame`: what nearly every operation may do;
* `KeepsTruth`: the requests that keep the agreement, by what they meet;
* **`trajectory_truthful`**: it holds along every run of such requests and of cycles.
-/

namespace MotionServer

variable {n : ℕ} {F : Type} [PyFloat F]

/-- The axes and points of an active trajectory. -/
def TrajectoryState.played (trajectory : TrajectoryState n F) : Option (TrajectoryRequest n F) :=
  if trajectory.active then some { axes := trajectory.axes, points := trajectory.points } else none

/-- Every generator that plays timed points plays those of the active trajectory for its axis. -/
def World.TrajectoryTruthful (w : World n F) : Prop :=
  ∀ a, (w.generators a).timedActive = true → ∃ r ∈ w.trajectory.played,
    ∃ i, r.axes i = a ∧ (w.generators a).timedPoints = axisTimedPoints r.points i

omit [PyFloat F] in
theorem World.AtRest.trajectoryTruthful {w : World n F} (h : w.AtRest) : w.TrajectoryTruthful :=
  fun a ha => absurd ha (by simp [h a])

/-! ## The frame of the agreement -/

/-- The same trajectory is active, and no generator starts to play. -/
def statusFrame (n : ℕ) (F : Type) : Prog.Frame (World n F) where
  Rel w w' := w'.trajectory.played = w.trajectory.played ∧
    ∀ a, (w.generators a).Tame (w'.generators a)
  refl _ := ⟨rfl, fun _ h => ⟨h, rfl⟩⟩
  trans _ _ _ h₁ h₂ := ⟨h₂.1.trans h₁.1, fun a h =>
    have ha₂ := h₂.2 a h
    have ha₁ := h₁.2 a ha₂.1
    ⟨ha₁.1, ha₂.2.trans ha₁.2⟩⟩

section Generators

variable {g g' : CspTrajectoryGenerator F}

theorem CspTrajectoryGenerator.updateTimedTrajectory_tame {c : F}
    (h : g.updateTimedTrajectory c = .ok g') (hg : g.timedActive = true) : g.Tame g' := by
  unfold updateTimedTrajectory at h
  split at h
  · cases h
    exact tame_of_inactive rfl
  · split_ifs at h
    · cases h
      exact tame_of_inactive rfl
    · cases h
      exact tame_of_inactive rfl
    · dsimp only at h
      split at h
      · cases h
        exact fun _ => ⟨hg, rfl⟩
      · cases h

/-- An update starts nothing. -/
theorem CspTrajectoryGenerator.update_tame {c v a d j : F} (h : g.update c v a d j = .ok g') :
    g.Tame g' := by
  by_cases hg : g.timedActive = true
  · rw [update_of_timedActive hg] at h
    exact updateTimedTrajectory_tame h hg
  · refine tame_of_inactive ?_
    rw [Bool.not_eq_true] at hg
    unfold update at h
    dsimp only at h
    rw [if_neg (by simp [hg])] at h
    split_ifs at h
    · cases h
      rw [updateTrapezoid_timedActive]
      exact hg
    · cases h
      rw [updateQuinticPointMove_timedActive]
      exact hg

end Generators

omit [PyFloat F] in
theorem statusFrame_setGenerator {w : World n F} {a : Fin n} {g : CspTrajectoryGenerator F}
    (h : (w.generators a).Tame g) : (statusFrame n F).Rel w (w.setGenerator a g) := by
  refine ⟨rfl, fun b => ?_⟩
  by_cases hb : b = a
  · subst hb
    rw [World.setGenerator_self]
    exact h
  · rw [World.setGenerator_of_ne w g hb]
    exact fun h => ⟨h, rfl⟩

omit [PyFloat F] in
theorem statusFrame_of_eq {w w' : World n F} (ht : w'.trajectory = w.trajectory)
    (hg : w'.generators = w.generators) : (statusFrame n F).Rel w w' :=
  ⟨by rw [ht], fun a => by rw [hg]; exact fun h => ⟨h, rfl⟩⟩

/-- What does not end or start a trajectory stays in the frame. -/
theorem statusFrame_whole (env : Env n F) : Frame.Whole (statusFrame n F) env where
  inert w w' h := statusFrame_of_eq h.trajectory h.generators
  setHoming w homing := statusFrame_of_eq rfl rfl
  setGenerators w generators h := by
    refine ⟨rfl, fun a => ?_⟩
    rcases h a with ha | ha
    · change (w.generators a).Tame (generators a)
      rw [ha]
      exact fun h => ⟨h, rfl⟩
    · exact ha.2
  setRxpdo w a f _ := statusFrame_of_eq rfl rfl
  setTargets w _ _ := statusFrame_of_eq rfl rfl
  exchange := keeps_exchange (fun w w' h => statusFrame_of_eq h.trajectory h.generators)
    (fun w a g _ hg => statusFrame_setGenerator (CspTrajectoryGenerator.update_tame hg))
    (fun w a command => statusFrame_of_eq rfl rfl) (fun w => statusFrame_of_eq rfl rfl)
    (fun w phase sent => statusFrame_of_eq rfl rfl)
  setModes w _ _ := statusFrame_of_eq rfl rfl
  setSettings w settings := statusFrame_of_eq rfl rfl
  setRxpdos w rxpdo := statusFrame_of_eq rfl rfl
  close w := statusFrame_of_eq rfl rfl

omit [PyFloat F] in
theorem trajectoryTruthful_of_rel {w w' : World n F} (h : (statusFrame n F).Rel w w')
    (hw : w.TrajectoryTruthful) : w'.TrajectoryTruthful := fun a ha => by
  obtain ⟨hactive, hpoints⟩ := h.2 a ha
  rw [h.1, hpoints]
  exact hw a hactive

omit [PyFloat F] in
theorem atRest_of_rel {w w' : World n F} (h : (statusFrame n F).Rel w w') (hw : w.AtRest) :
    w'.AtRest := fun a => by
  by_contra ha
  rw [Bool.not_eq_false] at ha
  exact absurd (h.2 a ha).1 (by simp [hw a])

omit [PyFloat F] in
theorem Prog.Keeps.truthful {α : Type} {m : Server n F α} (h : Prog.Keeps (statusFrame n F) m) :
    Prog.Triple World.TrajectoryTruthful m (fun _ => World.TrajectoryTruthful)
      fun _ => World.TrajectoryTruthful :=
  (h.mono fun _ _ h => trajectoryTruthful_of_rel h : Prog.Keeps (.ofInv _) m).triple

omit [PyFloat F] in
theorem Prog.Keeps.atRest {α : Type} {m : Server n F α} (h : Prog.Keeps (statusFrame n F) m) :
    Prog.Triple World.AtRest m (fun _ => World.AtRest) fun _ => World.AtRest :=
  (h.mono fun _ _ h => atRest_of_rel h : Prog.Keeps (.ofInv _) m).triple

/-! ## Playing and completing -/

/-- Every generator that plays is that of one of the axes. -/
def World.Covers (w : World n F) {m : ℕ} (axes : Fin m → Fin n) : Prop :=
  ∀ a, (w.generators a).timedActive = true → ∃ i, axes i = a

omit [PyFloat F] in
theorem World.AtRest.covers {w : World n F} (h : w.AtRest) {m : ℕ} (axes : Fin m → Fin n) :
    w.Covers axes := fun a ha => absurd ha (by simp [h a])

omit [PyFloat F] in
theorem World.TrajectoryTruthful.covers {w : World n F} (h : w.TrajectoryTruthful)
    (hactive : w.trajectory.active = true) : w.Covers w.trajectory.axes := fun a ha => by
  obtain ⟨r, hr, i, hi, -⟩ := h a ha
  rw [TrajectoryState.played, if_pos hactive, Option.mem_some_iff] at hr
  subst hr
  exact ⟨i, hi⟩

theorem completeTrajectory_atRest {m : ℕ} (axes : Fin m → Fin n) (finalPositions : Fin m → F) :
    Prog.Triple (World.Covers · axes) (completeTrajectory axes finalPositions)
      (fun _ => World.AtRest) fun _ => World.AtRest := by
  refine Prog.Triple.bind (Q := fun _ => World.AtRest) (Prog.Triple.modify fun w hw a => ?_)
    fun _ => Prog.Keeps.atRest <| Prog.Keeps.forM fun _ _ => (Prog.Keeps.lift _).bind fun _ =>
      Prog.Keeps.modify fun _ => statusFrame_of_eq rfl rfl
  change (updateEach axes _ w.generators a).timedActive = false
  by_cases ha : ∃ i, axes i = a
  · exact updateEach_of_mem (P := fun g : CspTrajectoryGenerator F => g.timedActive = false) ha
      fun _ _ _ => rfl
  · rw [updateEach_of_notMem fun i hi => ha ⟨i, hi⟩]
    by_contra hactive
    exact ha (hw a (by simpa using hactive))

theorem updateActive_truthful :
    Prog.Triple World.TrajectoryTruthful (updateActive : Server n F Unit)
      (fun _ => World.TrajectoryTruthful) fun _ => World.TrajectoryTruthful := by
  refine Prog.Triple.get_bind fun w hw => Prog.Triple.onlyIf (fun hactive => ?_)
    fun _ w' hw' => hw' ▸ hw
  refine Prog.Triple.bind (Q := fun _ => (statusFrame n F).Rel w) (Prog.Triple.modify ?_) ?_
  · rintro _ rfl
    exact ⟨rfl, fun _ h => ⟨h, rfl⟩⟩
  · intro _
    cases w.trajectory.points.getLast? with
    | none => exact Prog.Triple.throw _ fun w' h => trajectoryTruthful_of_rel h hw
    | some final =>
      refine Prog.Triple.onlyIf (fun _ => ?_) fun _ w' h => trajectoryTruthful_of_rel h hw
      have hcomplete := completeTrajectory_atRest w.trajectory.axes final.positions
      refine Prog.Triple.bind (hcomplete.conseq ?_ (fun _ _ => id)
        fun _ _ h => h.trajectoryTruthful) fun _ => Prog.Triple.modify fun w' h =>
          World.AtRest.trajectoryTruthful h
      exact fun w' h a ha => hw.covers hactive a (h.2 a ha).1

/-! ## Trajectory requests -/

/-- The last stage of a trajectory request keeps the agreement: it repeats the target of the active
trajectory, or is refused while nothing plays, or covers every axis that plays. -/
def World.KeptInCsp (w : World n F) {m : ℕ} (axes : Fin m → Fin n)
    (points : List (TrajectoryPoint F m)) : Prop :=
  let points := expandSinglePoint w axes points
  w.trajectory.sameTarget axes points = true ∨
    if (validateTrajectoryLimits w.settings axes points).isSome then w.AtRest else w.Covers axes

/-- A request for checked axes and points keeps the agreement: a drive is faulted, so that all
generators are put to rest first, or a disabled axis refuses it while nothing plays, or an axis has
to be switched to CSP mode, which puts all generators to rest, or its last stage keeps it. -/
def World.KeptByRequest (w : World n F) (r : TrajectoryRequest n F) : Prop :=
  w.faultedAxes ≠ [] ∨
    if w.disabledOperationAxes (List.ofFn r.axes) ≠ [] then w.AtRest
    else (∃ i, w.motionModes (r.axes i) ≠ .csp) ∨ w.KeptInCsp r.axes r.points

/-- A trajectory request keeps the agreement: it cannot be read and changes nothing, or is refused
for its axes and points while nothing plays, or is kept from there. -/
def World.KeptByTrajectory (w : World n F) (message : Message F) : Prop :=
  ∀ converted, trajectoryMessageApiToDrive w.units message = .ok converted →
    match trajectoryRequest n converted with
    | .error _ => True
    | .ok none => w.AtRest
    | .ok (some r) => w.KeptByRequest r

/-- While nothing plays, every trajectory request keeps the agreement. -/
theorem World.AtRest.keptByTrajectory {w : World n F} (h : w.AtRest) (message : Message F) :
    w.KeptByTrajectory message := by
  have hcovers {m : ℕ} (axes : Fin m → Fin n) : w.Covers axes := fun a ha => absurd ha (by simp [h a])
  intro converted _
  cases trajectoryRequest n converted with
  | error e => trivial
  | ok r =>
    cases r with
    | none => exact h
    | some r =>
      refine Or.inr ?_
      split_ifs
      · exact h
      · refine Or.inr (Or.inr ?_)
        split_ifs
        · exact h
        · exact hcovers r.axes

theorem rejectTrajectory_truthful :
    Prog.Triple World.AtRest (rejectTrajectory : Server n F Unit)
      (fun _ => World.TrajectoryTruthful) fun _ => World.TrajectoryTruthful :=
  Prog.Triple.bind (Q := fun _ => World.AtRest) (Prog.Triple.modify fun _ h => h) fun _ =>
    Prog.Triple.throw _ fun _ h => World.AtRest.trajectoryTruthful h

theorem startTrajectory_truthful {m : ℕ} (axes : Fin m → Fin n)
    (points : List (TrajectoryPoint F m)) :
    Prog.Triple (World.Covers · axes) (startTrajectory axes points)
      (fun _ => World.TrajectoryTruthful) fun _ => World.TrajectoryTruthful := by
  let Loaded (w : World n F) : Prop := ∀ a, (w.generators a).timedActive = true →
    ∃ i, axes i = a ∧ (w.generators a).timedPoints = axisTimedPoints points i
  refine Prog.Triple.bind (Q := fun _ => Loaded) (Prog.Triple.modify fun w hw a ha => ?_) fun _ =>
    Prog.Triple.bind (Q := fun _ => Loaded)
      (Prog.Triple.forM fun _ _ => Prog.Triple.modify fun _ h => h) fun _ =>
    Prog.Triple.modify fun w h a ha => ?_
  · change (updateEach axes _ w.generators a).timedActive = true at ha
    change ∃ i, axes i = a ∧ (updateEach axes _ w.generators a).timedPoints = _
    by_cases hmem : ∃ i, axes i = a
    · refine updateEach_of_mem (P := fun g : CspTrajectoryGenerator F =>
        ∃ i, axes i = a ∧ g.timedPoints = axisTimedPoints points i) hmem fun i hi g => ⟨i, hi, ?_⟩
      unfold CspTrajectoryGenerator.setTrajectoryMove
      cases axisTimedPoints points i <;> rfl
    · rw [updateEach_of_notMem fun i hi => hmem ⟨i, hi⟩] at ha
      exact absurd (hw a ha) hmem
  · obtain ⟨i, hi, hpoints⟩ := h a ha
    exact ⟨_, rfl, i, hi, hpoints⟩

theorem moveInCsp_truthful {m : ℕ} (axes : Fin m → Fin n) (points : List (TrajectoryPoint F m)) :
    Prog.Triple (fun w => w.TrajectoryTruthful ∧ w.KeptInCsp axes points) (moveInCsp axes points)
      (fun _ => World.TrajectoryTruthful) fun _ => World.TrajectoryTruthful := by
  refine Prog.Triple.get_bind fun w ⟨hw, hkept⟩ => ?_
  unfold World.KeptInCsp at hkept
  dsimp only at hkept ⊢
  by_cases hsame : w.trajectory.sameTarget axes (expandSinglePoint w axes points) = true
  · rw [if_pos hsame]
    exact Prog.Triple.pure _ fun _ hw' => hw' ▸ hw
  · rw [if_neg hsame]
    replace hkept := hkept.resolve_left hsame
    split_ifs at hkept ⊢
    · refine Prog.Triple.bind (Q := fun _ => World.AtRest) (Prog.Triple.modify ?_) fun _ =>
        Prog.Triple.throw _ fun _ h => World.AtRest.trajectoryTruthful h
      rintro _ rfl
      exact hkept
    · refine (startTrajectory_truthful axes _).conseq ?_ (fun _ _ => id) fun _ _ => id
      rintro _ rfl
      exact hkept

theorem moveRequest_truthful [LawfulPyFloat F] {w : World n F} {r : TrajectoryRequest n F}
    (hw : w.TrajectoryTruthful) (hkept : w.KeptByRequest r) :
    (moveRequest r w).2.TrajectoryTruthful := by
  unfold moveRequest
  rw [Prog.bind_run_ok (Prog.get_run w)]
  by_cases hfault : w.faultedAxes = []
  · rw [if_neg (not_not.mpr hfault)]
    replace hkept := hkept.resolve_left (not_not.mpr hfault)
    split_ifs at hkept ⊢
    · exact rejectTrajectory_truthful.state hkept
    · by_cases hcsp : ∃ i, w.motionModes (r.axes i) ≠ .csp
      · obtain ⟨i, hi⟩ := hcsp
        obtain ⟨w', hrun, hrest⟩ := ensureCspMode_rest
          ⟨r.axes i, (List.mem_ofFn' _ _).mpr ⟨i, rfl⟩, hi⟩
        rw [Prog.bind_run_ok hrun]
        refine (moveInCsp_truthful r.axes r.points).state ⟨hrest.trajectoryTruthful, ?_⟩
        refine Or.inr ?_
        split_ifs
        · exact hrest
        · exact hrest.covers _
      · have hmodes : ∀ a ∈ List.ofFn r.axes, w.motionModes a = .csp := by
          intro a ha
          obtain ⟨i, rfl⟩ := (List.mem_ofFn' _ _).mp ha
          by_contra hne
          exact hcsp ⟨i, hne⟩
        rw [Prog.bind_run_ok (ensureCspMode_run hmodes)]
        exact (moveInCsp_truthful r.axes r.points).state ⟨hw, hkept.resolve_left hcsp⟩
  · rw [if_pos hfault, Prog.bind_run_ok (holdFaultedAxes_run hfault)]
    refine (Prog.Triple.bind (P := fun _ => True) (Q := fun _ => World.AtRest)
      (Prog.Triple.modify fun _ _ _ => rfl) fun _ => rejectTrajectory_truthful).state trivial

theorem moveApi_truthful [LawfulPyFloat F] {w : World n F} {message : Message F}
    (hw : w.TrajectoryTruthful) (hkept : w.KeptByTrajectory message) :
    (moveApi message w).2.TrajectoryTruthful := by
  unfold moveApi
  rw [Prog.bind_run_ok (Prog.get_run w), Prog.bind_run, Prog.lift_run]
  cases hconv : trajectoryMessageApiToDrive w.units message with
  | error e => exact hw
  | ok converted =>
    replace hkept := hkept converted hconv
    dsimp only
    unfold move
    rw [Prog.bind_run, Prog.lift_run]
    cases hr : trajectoryRequest n converted with
    | error e => exact hw
    | ok r =>
      rw [hr] at hkept
      cases r with
      | none => exact rejectTrajectory_truthful.state hkept
      | some r => exact moveRequest_truthful hw hkept

/-! ## Stops and disables -/

/-- A trajectory stop keeps the agreement: nothing plays, or it is not refused. -/
def World.KeptByTrajectoryStop (w : World n F) (message : Message F) : Prop :=
  w.AtRest ∨ lowerText message "mode" "controlled" = "controlled" ∧
    ∃ axes, selectedAxes n message = .ok axes ∧ w.disabledOperationAxes axes = []

theorem holdTrajectory_atRest [LawfulPyFloat F] (env : Env n F) (axes : List (Fin n)) :
    Prog.Triple (fun _ => True) (holdTrajectory (F := F) axes) (fun _ => World.AtRest)
      fun _ => World.AtRest := by
  have h := statusFrame_whole env
  refine Prog.Triple.bind (Q := fun _ _ => True) (fun w _ => ?_) fun _ =>
    Prog.Triple.get_bind fun w _ =>
    Prog.Triple.bind (Q := fun _ _ => True) (Prog.Triple.modify fun _ _ => trivial) fun _ =>
    Prog.Triple.bind (Q := fun _ => World.AtRest) (Prog.Triple.modify fun _ _ _ => rfl) fun _ =>
    (Prog.Keeps.atRest h.syncTrajectoryToActualPositions).bind fun _ =>
    Prog.Keeps.atRest (h.commandCspPositions _ axes)
  obtain ⟨w', hw'⟩ := ensureCspMode_ok w axes
  rw [hw']
  trivial

theorem trajectoryStop_truthful [LawfulPyFloat F] (env : Env n F) {w : World n F}
    {message : Message F} (hkept : w.KeptByTrajectoryStop message) :
    (trajectoryStop message w).2.TrajectoryTruthful := by
  have hreject (e : PyExc) : Prog.Triple World.AtRest (rejectStop e : Server n F Unit)
      (fun _ => World.TrajectoryTruthful) fun _ => World.TrajectoryTruthful :=
    Prog.Triple.bind (Q := fun _ => World.AtRest) (Prog.Triple.modify fun _ h => h) fun _ =>
      Prog.Triple.throw _ fun _ h => World.AtRest.trajectoryTruthful h
  have hhold (axes : List (Fin n)) := (holdTrajectory_atRest (F := F) env axes).conseq
    (P := fun _ => True) (fun _ h => h) (fun _ _ h => World.AtRest.trajectoryTruthful h)
    fun _ _ h => World.AtRest.trajectoryTruthful h
  unfold trajectoryStop
  split_ifs with hmode
  · exact (hreject _).state (hkept.resolve_right fun h => hmode h.1)
  · rw [Prog.bind_run_ok (Prog.modify_run _ w)]
    cases haxes : selectedAxes n message with
    | error e =>
      refine (hreject e).state (hkept.resolve_right fun h => ?_)
      obtain ⟨-, axes, hok, -⟩ := h
      rw [haxes] at hok
      cases hok
    | ok axes =>
      dsimp only
      let w₁ : World n F := { w with trajectory := inactiveTrajectoryState .stopped }
      by_cases hdisabled : w.disabledOperationAxes axes = []
      · rw [Prog.bind_run_ok (rejectIfAnyAxisDisabled_run (w := w₁) _ hdisabled)]
        exact (hhold axes).state trivial
      · rw [Prog.bind_run_error (rejectIfAnyAxisDisabled_run_of_ne (w := w₁) _ hdisabled)]
        refine World.AtRest.trajectoryTruthful (hkept.resolve_right fun h => ?_)
        obtain ⟨-, axes', hok, hnil⟩ := h
        rw [haxes] at hok
        cases hok
        exact hdisabled hnil

/-- A stop puts every generator to rest, and what it does after that leaves them at rest. -/
theorem stopAxes_truthful [LawfulPyFloat F] (env : Env n F) (message : Message F) :
    Prog.Triple World.TrajectoryTruthful (stopAxes env message)
      (fun _ => World.TrajectoryTruthful) fun _ => World.TrajectoryTruthful := by
  have h := statusFrame_whole env
  refine Prog.Triple.bind (Prog.Keeps.truthful <|
    (Prog.Keeps.rejecting _ (Prog.Keeps.lift _)).bind fun _ =>
      (keeps_rejectIfAnyAxisDisabled _ _).seq (Prog.Keeps.pure _)) fun axes => ?_
  refine Prog.Triple.bind (Prog.Keeps.truthful <| Prog.Keeps.get.bind fun _ =>
    Prog.Keeps.onlyIf (h.finishHoming _)) fun _ => ?_
  refine Prog.Triple.bind (Q := fun _ _ => True) (Prog.Triple.modify fun _ _ => trivial) fun _ => ?_
  refine Prog.Triple.bind (Q := fun _ => World.AtRest) (fun w _ => ?_) fun _ => ?_
  · unfold holdForStop
    rw [Prog.bind_run_ok (Prog.get_run w), Prog.bind_run_ok (forM_hold_run w axes)]
    exact fun _ => rfl
  · refine Prog.Triple.conseq (Prog.Keeps.atRest <| Prog.Keeps.get.bind fun _ =>
      Prog.Keeps.forM fun _ _ => Prog.Keeps.onlyIf (h.stopInMode _ _)) (fun _ => id)
      (fun _ _ h => World.AtRest.trajectoryTruthful h) fun _ _ h => World.AtRest.trajectoryTruthful h

/-- Where a disable ends a trajectory and a homing, it keeps the agreement when nothing plays or the
homing can be finished. -/
def World.KeptByDisable (env : Env n F) (w : World n F) (message : Message F) : Prop :=
  ∀ axes, selectedAxes n message = .ok axes →
    (w.trajectory.active = true ∧ ∃ i, w.trajectory.axes i ∈ axes) →
    (w.homing.active = true ∧ ∃ a ∈ w.homing.axes, a ∈ axes) →
      w.AtRest ∨ (finishHoming env .stopped
        { w with trajectory := inactiveTrajectoryState .axisDisable }).1 = .ok ()

theorem finishHoming_ends_truthful {env : Env n F} {w : World n F}
    (h : w.AtRest ∨ (finishHoming env .stopped w).1 = .ok ()) :
    Prog.Triple (· = w) (finishHoming env .stopped) (fun _ _ => True)
      fun _ => World.TrajectoryTruthful := by
  rintro s rfl
  have hstate := atRest_of_rel ((statusFrame_whole env).finishHoming .stopped s)
  cases hr : finishHoming env .stopped s with
  | mk r w₁ =>
    rw [hr] at hstate h
    cases r with
    | ok u => trivial
    | error e =>
      rcases h with hrest | hok
      · exact World.AtRest.trajectoryTruthful (hstate hrest)
      · cases hok

theorem disable_truthful [LawfulPyFloat F] {env : Env n F} {w : World n F} {message : Message F}
    (hw : w.TrajectoryTruthful) (hkept : w.KeptByDisable env message) :
    (disable env message w).2.TrajectoryTruthful := by
  have h := statusFrame_whole env
  unfold disable rejecting
  cases haxes : selectedAxes n message with
  | error e => exact hw
  | ok axes =>
    -- what follows the release of the axes puts every generator to rest
    have hrest : Prog.Triple (fun _ => True) (do
        axes.forM disableAxis
        let w ← Prog.get
        setTargetPositions w.targetPositions
        (exchange env).repeatN 3) (fun _ => World.AtRest) fun _ => World.AtRest := by
      refine Prog.Triple.bind (Q := fun _ _ => True) (Prog.Triple.forM fun a _ w _ => ?_) fun _ =>
        Prog.Triple.get_bind fun _ _ => Prog.Triple.bind (Q := fun _ => World.AtRest)
        (Prog.Triple.modify fun _ _ _ => rfl) fun _ => Prog.Keeps.atRest (h.exchanges 3)
      unfold disableAxis
      rw [Prog.bind_run_ok (holdAxisAtActualPosition_run w a)]
      trivial
    have hrelease : Prog.Triple (· = w) (releaseAxes env axes) (fun _ _ => True)
        fun _ => World.TrajectoryTruthful := by
      refine Prog.Triple.get_bind fun w' hw' => ?_
      subst hw'
      by_cases htraj : w'.trajectory.active = true ∧ ∃ i, w'.trajectory.axes i ∈ axes
      · refine Prog.Triple.bind
          (Q := fun _ s => s = { w' with trajectory := inactiveTrajectoryState .axisDisable })
          (Prog.Triple.onlyIf (fun _ => Prog.Triple.modify ?_) fun h => absurd htraj h) fun _ => ?_
        · rintro _ rfl
          rfl
        · exact Prog.Triple.onlyIf
            (fun hhoming => finishHoming_ends_truthful (hkept axes haxes htraj hhoming))
            fun _ _ _ => trivial
      · refine Prog.Triple.bind (Q := fun _ => World.TrajectoryTruthful)
          (Prog.Triple.onlyIf (fun h => absurd h htraj) ?_) fun _ => ?_
        · rintro _ _ rfl
          exact hw
        · exact Prog.Triple.onlyIf (fun _ => (Prog.Keeps.truthful (h.finishHoming .stopped)).conseq
            (fun _ => id) (fun _ _ _ => trivial) fun _ _ => id) fun _ _ _ => trivial
    refine (hrelease.bind fun _ => hrest.conseq (fun _ => id)
      (fun _ _ h => World.AtRest.trajectoryTruthful h)
      fun _ _ h => World.AtRest.trajectoryTruthful h).state rfl

/-- A restart puts every generator to rest before anything else can fail. -/
theorem prepareRestart_truthful [LawfulPyFloat F] (env : Env n F) :
    Prog.Triple World.TrajectoryTruthful (prepareRestart env) (fun _ => World.AtRest)
      fun _ => World.TrajectoryTruthful := by
  have h := statusFrame_whole env
  refine Prog.Triple.bind (Prog.Keeps.truthful <| Prog.Keeps.get.bind fun _ =>
    Prog.Keeps.onlyIf (h.finishHoming _)) fun _ => ?_
  refine Prog.Triple.get_bind fun w _ => ?_
  refine Prog.Triple.bind (Q := fun _ _ => True) (Prog.Triple.onlyIf
    (fun _ => Prog.Triple.modify fun _ _ => trivial) fun _ _ _ => trivial) fun _ => ?_
  refine Prog.Triple.bind (Q := fun _ => World.AtRest) (fun w _ => ?_) fun _ => ?_
  · unfold holdAll
    rw [Prog.bind_run_ok (holdEach_run w _)]
    exact fun _ => rfl
  · exact (Prog.Keeps.atRest h.restartHeld).conseq (fun _ => id) (fun _ _ h => h)
      fun _ _ h => World.AtRest.trajectoryTruthful h

theorem restartAxis_truthful [LawfulPyFloat F] (env : Env n F) (message : Message F) :
    Prog.Triple World.TrajectoryTruthful (restartAxis env message)
      (fun _ => World.TrajectoryTruthful) fun _ => World.TrajectoryTruthful := by
  have h := statusFrame_whole env
  have hthrow (e : PyExc) : Prog.Triple World.TrajectoryTruthful (throw e : Server n F Unit)
      (fun _ => World.TrajectoryTruthful) fun _ => World.TrajectoryTruthful :=
    Prog.Triple.throw _ fun _ => id
  have htry (a : Fin n) : Prog.Triple World.TrajectoryTruthful (tryRestartAxis env a)
      (fun _ => World.TrajectoryTruthful) fun _ => World.TrajectoryTruthful :=
    (prepareRestart_truthful env).bind fun _ =>
      (Prog.Keeps.atRest (h.restartAxisRuntime a)).conseq (fun _ => id)
        (fun _ _ h => World.AtRest.trajectoryTruthful h)
        fun _ _ h => World.AtRest.trajectoryTruthful h
  refine Prog.Triple.bind (Prog.Keeps.truthful (Prog.Keeps.rejecting _ (Prog.Keeps.lift _)))
    fun axes => ?_
  rcases axes with _ | ⟨a, _ | _⟩
  · exact hthrow _
  · exact (htry a).tryCatch fun _ => hthrow _
  · exact hthrow _

/-! ## Events -/

theorem losingBus_truthful (env : Env n F) {m : Server n F Unit}
    (hm : Prog.Triple World.TrajectoryTruthful m (fun _ => World.TrajectoryTruthful)
      fun _ => World.TrajectoryTruthful) :
    Prog.Triple World.TrajectoryTruthful (losingBus m) (fun _ => World.TrajectoryTruthful)
      fun _ => World.TrajectoryTruthful := by
  refine (hm.bind fun _ => Prog.Triple.pure _ fun _ => id).tryCatch fun e => ?_
  split_ifs
  · exact (Prog.Keeps.truthful (statusFrame_whole env).markBusDisconnected).bind fun _ =>
      (Prog.Keeps.truthful ((statusFrame_whole env).modify_inert fun _ => by
        constructor <;> rfl)).bind fun _ => Prog.Triple.pure _ fun _ => id
  · exact Prog.Triple.throw _ fun _ => id

theorem runCycle_truthful (env : Env n F) :
    Prog.Triple World.TrajectoryTruthful (runCycle env) (fun _ => World.TrajectoryTruthful)
      fun _ => World.TrajectoryTruthful := by
  have h := statusFrame_whole env
  refine Prog.Triple.bind (Prog.Keeps.truthful Prog.Keeps.get) fun _ => Prog.Triple.onlyIf
    (fun _ => ?_) fun _ _ => id
  refine (Prog.Keeps.truthful (h.modify_inert fun _ => by constructor <;> rfl)).bind fun _ => ?_
  refine (losingBus_truthful env ((Prog.Keeps.truthful h.holdFaultedAxes).bind fun _ =>
    updateActive_truthful.bind fun _ => Prog.Keeps.truthful h.exchange)).bind fun _ =>
    Prog.Triple.onlyIf (fun _ => ?_) fun _ _ => id
  refine (losingBus_truthful env (Prog.Keeps.truthful ?_)).bind fun _ =>
    Prog.Triple.onlyIf (fun _ => Prog.Keeps.truthful h.updateHomingState) fun _ _ => id
  exact ((h.access _).bind fun _ => Prog.Keeps.lift _).bind fun _ =>
    h.modify_inert fun _ => by constructor <;> rfl

/-- The event keeps the agreement: a cycle always does, a request when its handler is not reached or
does. Of the requests only those for a trajectory, its stop and a disable may break it. -/
def KeepsTruth (env : Env n F) (w : World n F) : Event F → Prop
  | .request client message => ∀ command, Reaches env w client message command →
    match command with
    | .trajectory => w.accessed.KeptByTrajectory message
    | .trajectoryStop => w.accessed.KeptByTrajectoryStop message
    | .disable _ => w.accessed.KeptByDisable env message
    | _ => True
  | _ => True

theorem handler_truthful [LawfulPyFloat F] {env : Env n F} {w : World n F} {client : ℕ}
    {message : Message F} (hw : w.TrajectoryTruthful) (command : Command)
    (hkept : match command with
      | .trajectory => w.KeptByTrajectory message
      | .trajectoryStop => w.KeptByTrajectoryStop message
      | .disable _ => w.KeptByDisable env message
      | _ => True) :
    (handler env client message command w).2.TrajectoryTruthful := by
  have h := statusFrame_whole env
  have hframe {m : Server n F Unit} (hm : Prog.Keeps (statusFrame n F) m) :
      (m w).2.TrajectoryTruthful := trajectoryTruthful_of_rel (hm w) hw
  cases command with
  | trajectory => exact moveApi_truthful hw hkept
  | trajectoryStop => exact trajectoryStop_truthful env hkept
  | stop axes => exact (stopAxes_truthful env message).state hw
  | enable axes => exact hframe (h.enable message)
  | disable axes => exact disable_truthful hw hkept
  | faultReset axes => exact hframe (h.faultResetAxes message)
  | home => exact hframe (h.startHoming message)
  | moveAbs axes => exact hframe (h.moveAbsolute message)
  | moveRel axes => exact hframe (h.moveRelative message)
  | moveVel axes => exact hframe (h.moveVelocity message)
  | jogStart => exact hframe (h.startJog message)
  | jogStop => exact hframe (h.stopJog message)
  | mode => exact hframe (h.setMode message)
  | manualCW => exact hframe (h.setControlword message)
  | axisRestart => exact (restartAxis_truthful env message).state hw
  | serverFaultReset => exact hframe (h.resetSource)
  | busFaultReset => exact hframe (h.resetSource)
  | busReconnect => exact hframe h.reconnectRuntime
  | authorityRequest =>
    exact hframe (keeps_authority (fun w owner => statusFrame_of_eq rfl rfl) client).1
  | authorityRelease =>
    exact hframe (keeps_authority (fun w owner => statusFrame_of_eq rfl rfl) client).2

theorem step_truthful [LawfulPyFloat F] {env : Env n F} {w : World n F} {event : Event F}
    (hw : w.TrajectoryTruthful) (hkept : KeepsTruth env w event) :
    (step env event w).2.TrajectoryTruthful := by
  cases event with
  | cycle => exact (runCycle_truthful env).state hw
  | request client message =>
    rcases step_request env w client message with h | h | ⟨command, hreach, h⟩
    · rw [h]
      exact hw
    · rw [h]
      exact hw
    · rw [h]
      exact handler_truthful (w := w.accessed) hw command (hkept command hreach)
  | disconnect client => exact hw

/-- **Along every run whose requests keep the agreement, what plays is what the server reports.** -/
theorem trajectory_truthful [LawfulPyFloat F] (env : Env n F) (w : World n F) (hw : w.AtRest)
    (events : List (Event F)) (hrun : Prog.AlongRun (step env) (KeepsTruth env) events w) :
    (run env events w).2.TrajectoryTruthful :=
  Prog.run_invariant (step env) (KeepsTruth env) (fun _ _ hw hkept => step_truthful hw hkept)
    events hw.trajectoryTruthful hrun

/-- A trajectory on a server at rest, and the first cycle of it. -/
theorem restingTrajectory_truthful :
    (run (Env.quiet fun _ => enabledDrive)
      [request "system/authority/request" [], restingTrajectory, .cycle]
      (unitServer 1)).2.TrajectoryTruthful := by
  refine trajectory_truthful _ _ (fun _ => rfl) _ ⟨fun command h => ?_, fun w hw => ?_⟩
  · obtain rfl : .authorityRequest = command := Option.some.inj h.known
    trivial
  · refine ⟨fun command h => ?_, fun _ _ => ⟨trivial, fun _ _ => trivial⟩⟩
    obtain rfl : .trajectory = command := Option.some.inj h.known
    refine World.AtRest.keptByTrajectory (w := w.accessed) (fun a => ?_) _
    obtain rfl : _ = w := congrArg Prod.snd hw
    rfl

/-- A trajectory, and one without points while it plays. -/
def refusedTrajectory : List (Event ExtRat) :=
  [request "system/authority/request" [], restingTrajectory,
    request "system/axes/trajectory" [("axes", .list [.int 0]), ("points", .list [])]]

/-- The refusal of the second trajectory reports the first one as rejected while it plays. -/
theorem refusedTrajectory_untruthful :
    ¬ (run (Env.quiet fun _ => enabledDrive) refusedTrajectory
      (unitServer 1)).2.TrajectoryTruthful := by
  intro h
  obtain ⟨r, hr, -⟩ := h 0 (by decide +kernel)
  have hidle : (run (Env.quiet fun _ => enabledDrive) refusedTrajectory
    (unitServer 1)).2.trajectory.active = false := by decide +kernel
  simp [TrajectoryState.played, hidle] at hr

end MotionServer
