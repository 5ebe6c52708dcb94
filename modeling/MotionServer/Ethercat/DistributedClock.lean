import MotionServer.Python.Float

/-!
# Cycles of the distributed clock

* `DcPhaseLock`, `DcPhaseLock.update`: the controller that keeps the cycle at its phase;
* `waitNs`, `absoluteCycleDeadline`: the wait to the next cycle;
* **`waitNs_spec`**, **`wrappedPhaseErrorNs_spec`**: the arithmetic modulo the cycle;
* `DcPhaseLock.Bounded`, **`bounded_run`**: what the controller keeps along a run;
* **`dcArithmetic_sound`**: the three together.
-/

namespace MotionServer

/-! ## The phase lock -/

/-- `DcPhaseLock`. -/
structure DcPhaseLock (F : Type) where
  enabled : Bool
  cycleTimeNs : ℤ
  phaseOffsetNs : ℤ
  kp : F
  ki : F
  maxCorrection : F
  integralError : F
  correctionS : F
  cycle_pos : 0 < cycleTimeNs

namespace DcPhaseLock

/-- `target_phase_ns`. -/
def targetPhaseNs {F : Type} (lock : DcPhaseLock F) : ℤ :=
  (lock.cycleTimeNs - lock.phaseOffsetNs) % lock.cycleTimeNs

/-- `_wrapped_phase_error_ns`. -/
def wrappedPhaseErrorNs {F : Type} (lock : DcPhaseLock F) (dcTimeNs : ℤ) : ℤ :=
  let actualPhase := dcTimeNs % lock.cycleTimeNs
  let error := actualPhase - lock.targetPhaseNs
  let halfCycle := lock.cycleTimeNs / 2
  if halfCycle < error then error - lock.cycleTimeNs
  else if error < -halfCycle then error + lock.cycleTimeNs
  else error

section Update

variable {F : Type} [PyFloat F]

/-- The constructor of `DcPhaseLock`. -/
def new (enabled : Bool) (cycleTime : F) (phaseOffsetNs : ℤ) (kp ki maxCorrection : F) :
    Except PyExc (DcPhaseLock F) := do
  let cycle ← PyFloat.roundInt (cycleTime * 1000000000.0)
  pure
    { enabled := enabled
      cycleTimeNs := max 1 cycle
      phaseOffsetNs := phaseOffsetNs
      kp := kp
      ki := ki
      maxCorrection := pyAbs maxCorrection
      integralError := 0.0
      correctionS := 0.0
      cycle_pos := lt_of_lt_of_le Int.one_pos (le_max_left 1 cycle) }

/-- `correction`. -/
def correction (lock : DcPhaseLock F) : F := if lock.enabled then lock.correctionS else 0.0

/-- `_clamp`. -/
def clamp (value minimum maximum : F) : F := pyMax minimum (pyMin maximum value)

/-- A phase error in seconds. -/
def phaseErrorS (lock : DcPhaseLock F) (dcTimeNs : ℤ) : F :=
  PyFloat.ofInt (lock.wrappedPhaseErrorNs dcTimeNs) / 1000000000.0

/-- `update`: the lock, and what it adds to the statistics of the cycle. -/
def update (lock : DcPhaseLock F) : (dcTimeNs : Option ℤ) → DcPhaseLock F × List (String × F)
  | none => (lock, [])
  | some dcTimeNs =>
    let phaseError := lock.phaseErrorS dcTimeNs
    if lock.enabled = false then
      ({ lock with integralError := 0.0, correctionS := 0.0 },
        [("dc_phase_error", phaseError), ("dc_phase_correction", 0.0)])
    else
      let integralError :=
        clamp (lock.integralError + phaseError) (-lock.maxCorrection) lock.maxCorrection
      let correctionS := clamp (-(lock.kp * phaseError + lock.ki * integralError))
        (-lock.maxCorrection) lock.maxCorrection
      ({ lock with integralError := integralError, correctionS := correctionS },
        [("dc_phase_error", phaseError), ("dc_phase_correction", correctionS)])

/-- The lock after the updates of a run. -/
def run (lock : DcPhaseLock F) (times : List (Option ℤ)) : DcPhaseLock F :=
  times.foldl (fun lock dcTimeNs => (lock.update dcTimeNs).1) lock

end Update

end DcPhaseLock

/-! ## The scheduler -/

/-- What the scheduler reads of the master. -/
structure DcMaster where
  lastRxMonotonicNs : Option ℤ
  lastRxDcTimeNs : ℤ
  lastTxMonotonicNs : Option ℤ
  dcTimeNs : ℤ

/-- `estimate_dc_time_ns`, at a monotonic time. -/
def estimateDcTimeNs (master : DcMaster) (monotonicNs : ℤ) : ℤ :=
  match master.lastRxMonotonicNs with
  | none => master.dcTimeNs
  | some lastRxMonotonicNs =>
    if master.lastRxDcTimeNs = 0 then master.dcTimeNs
    else master.lastRxDcTimeNs + monotonicNs - lastRxMonotonicNs

/-- `estimate_transmit_dc_time_ns`. -/
def estimateTransmitDcTimeNs (master : DcMaster) : ℤ :=
  match master.lastTxMonotonicNs with
  | none => master.dcTimeNs
  | some transmitMonotonicNs => estimateDcTimeNs master transmitMonotonicNs

section Scheduler

variable {F : Type} (lock : DcPhaseLock F)

/-- `wait_ns` of `absolute_cycle_deadline`. -/
def waitNs (dcNowNs : ℤ) : ℤ :=
  let phase := dcNowNs % lock.cycleTimeNs
  let wait := lock.targetPhaseNs - phase
  if wait ≤ 0 then wait + lock.cycleTimeNs else wait

/-- `absolute_cycle_deadline`: the deadline and the wait, in seconds. -/
def absoluteCycleDeadline [PyFloat F] (master : DcMaster) (nowMonotonicNs : ℤ) : F × F :=
  let wait := waitNs lock (estimateDcTimeNs master nowMonotonicNs)
  (PyFloat.ofInt (nowMonotonicNs + wait) / 1000000000.0, PyFloat.ofInt wait / 1000000000.0)

/-! ## Arithmetic modulo the cycle -/

theorem targetPhaseNs_nonneg : 0 ≤ lock.targetPhaseNs := Int.emod_nonneg _ lock.cycle_pos.ne'

theorem targetPhaseNs_lt : lock.targetPhaseNs < lock.cycleTimeNs := Int.emod_lt_of_pos _ lock.cycle_pos

/-- **The wait ends at the next time of the target phase.** -/
theorem waitNs_spec (dcNowNs : ℤ) :
    0 < waitNs lock dcNowNs ∧ waitNs lock dcNowNs ≤ lock.cycleTimeNs ∧
      (dcNowNs + waitNs lock dcNowNs) % lock.cycleTimeNs = lock.targetPhaseNs := by
  have hcycle := lock.cycle_pos
  have htarget := targetPhaseNs_nonneg lock
  have htarget' := targetPhaseNs_lt lock
  have hphase := Int.emod_nonneg dcNowNs hcycle.ne'
  have hphase' := Int.emod_lt_of_pos dcNowNs hcycle
  have hdiv := Int.emod_add_mul_ediv dcNowNs lock.cycleTimeNs
  unfold waitNs
  dsimp only
  split_ifs with h
  · refine ⟨by omega, by omega, ?_⟩
    have hsum : dcNowNs + (lock.targetPhaseNs - dcNowNs % lock.cycleTimeNs + lock.cycleTimeNs) =
        lock.targetPhaseNs + lock.cycleTimeNs * (dcNowNs / lock.cycleTimeNs + 1) := by
      rw [mul_add, mul_one]
      omega
    rw [hsum, Int.add_mul_emod_self_left, Int.emod_eq_of_lt htarget htarget']
  · refine ⟨by omega, by omega, ?_⟩
    have hsum : dcNowNs + (lock.targetPhaseNs - dcNowNs % lock.cycleTimeNs) =
        lock.targetPhaseNs + lock.cycleTimeNs * (dcNowNs / lock.cycleTimeNs) := by
      omega
    rw [hsum, Int.add_mul_emod_self_left, Int.emod_eq_of_lt htarget htarget']

/-- **The wrapped phase error is the error up to whole cycles,** at most half a cycle. -/
theorem wrappedPhaseErrorNs_spec (dcTimeNs : ℤ) :
    lock.wrappedPhaseErrorNs dcTimeNs ≡ dcTimeNs - lock.targetPhaseNs [ZMOD lock.cycleTimeNs] ∧
      2 * |lock.wrappedPhaseErrorNs dcTimeNs| ≤ lock.cycleTimeNs := by
  have hcycle := lock.cycle_pos
  have htarget := targetPhaseNs_nonneg lock
  have htarget' := targetPhaseNs_lt lock
  have hphase := Int.emod_nonneg dcTimeNs hcycle.ne'
  have hphase' := Int.emod_lt_of_pos dcTimeNs hcycle
  have herror : dcTimeNs % lock.cycleTimeNs - lock.targetPhaseNs ≡
      dcTimeNs - lock.targetPhaseNs [ZMOD lock.cycleTimeNs] := (Int.mod_modEq _ _).sub_right _
  unfold DcPhaseLock.wrappedPhaseErrorNs
  dsimp only
  split_ifs with hhigh hlow
  · refine ⟨?_, ?_⟩
    · have hwrap := herror.sub (Int.modEq_zero_iff_dvd.mpr (dvd_refl lock.cycleTimeNs))
      rwa [sub_zero] at hwrap
    · rw [← abs_of_pos (by decide : (0 : ℤ) < 2), ← abs_mul, abs_le]
      constructor <;> omega
  · refine ⟨?_, ?_⟩
    · have hwrap := herror.add (Int.modEq_zero_iff_dvd.mpr (dvd_refl lock.cycleTimeNs))
      rwa [add_zero] at hwrap
    · rw [← abs_of_pos (by decide : (0 : ℤ) < 2), ← abs_mul, abs_le]
      constructor <;> omega
  · refine ⟨herror, ?_⟩
    rw [← abs_of_pos (by decide : (0 : ℤ) < 2), ← abs_mul, abs_le]
    constructor <;> omega

end Scheduler

/-! ## The controller -/

theorem abs_clamp_le {value bound : ℝ} (h : 0 ≤ bound) :
    |DcPhaseLock.clamp value (-bound) bound| ≤ bound := by
  rw [DcPhaseLock.clamp, pyMax_real, pyMin_real, abs_le]
  exact ⟨le_max_left _ _, max_le (by linarith) (min_le_left _ _)⟩

namespace DcPhaseLock

/-- The integral term and the correction are within the bound of the lock. -/
structure Bounded (lock : DcPhaseLock ℝ) : Prop where
  integral : |lock.integralError| ≤ lock.maxCorrection
  correction : |lock.correctionS| ≤ lock.maxCorrection

theorem Bounded.nonneg {lock : DcPhaseLock ℝ} (h : lock.Bounded) : 0 ≤ lock.maxCorrection :=
  le_trans (abs_nonneg _) h.integral

theorem bounded_new {enabled : Bool} {cycleTime kp ki maxCorrection : ℝ} {phaseOffsetNs : ℤ}
    {lock : DcPhaseLock ℝ}
    (h : DcPhaseLock.new enabled cycleTime phaseOffsetNs kp ki maxCorrection = .ok lock) :
    lock.Bounded := by
  have hlock : lock.integralError = 0 ∧ lock.correctionS = 0 ∧ lock.maxCorrection = |maxCorrection| := by
    cases h
    exact ⟨zero_literal, zero_literal, pyAbs_real maxCorrection⟩
  obtain ⟨hintegral, hcorrection, hmax⟩ := hlock
  constructor
  · rw [hintegral, hmax, abs_zero]
    exact abs_nonneg _
  · rw [hcorrection, hmax, abs_zero]
    exact abs_nonneg _

/-- One update keeps the bound, which it does not change. -/
theorem Bounded.update {lock : DcPhaseLock ℝ} (h : lock.Bounded) (dcTimeNs : Option ℤ) :
    (lock.update dcTimeNs).1.Bounded ∧ (lock.update dcTimeNs).1.maxCorrection = lock.maxCorrection := by
  cases dcTimeNs with
  | none => exact ⟨h, rfl⟩
  | some dcTimeNs =>
    unfold DcPhaseLock.update
    dsimp only
    split_ifs with henabled
    · refine ⟨⟨?_, ?_⟩, rfl⟩
      · show |(0.0 : ℝ)| ≤ lock.maxCorrection
        rw [zero_literal, abs_zero]
        exact h.nonneg
      · show |(0.0 : ℝ)| ≤ lock.maxCorrection
        rw [zero_literal, abs_zero]
        exact h.nonneg
    · exact ⟨⟨abs_clamp_le h.nonneg, abs_clamp_le h.nonneg⟩, rfl⟩

/-- **Every run keeps the integral term and the correction within the bound.** -/
theorem bounded_run {lock : DcPhaseLock ℝ} (h : lock.Bounded) (times : List (Option ℤ)) :
    (lock.run times).Bounded ∧ (lock.run times).maxCorrection = lock.maxCorrection := by
  induction times generalizing lock with
  | nil => exact ⟨h, rfl⟩
  | cons dcTimeNs times ih =>
    obtain ⟨hstep, hmax⟩ := h.update dcTimeNs
    obtain ⟨hrun, hmax'⟩ := ih hstep
    exact ⟨hrun, hmax'.trans hmax⟩

/-- What is applied to the cycle is bounded too. -/
theorem Bounded.abs_correction_le {lock : DcPhaseLock ℝ} (h : lock.Bounded) :
    |lock.correction| ≤ lock.maxCorrection := by
  unfold DcPhaseLock.correction
  split_ifs
  · exact h.correction
  · rw [zero_literal, abs_zero]
    exact h.nonneg

end DcPhaseLock

/-! ## The clock along a run -/

/-- The schedule of a lock: where a wait ends, and how far a DC time is from the target phase. -/
structure ScheduleSound (lock : DcPhaseLock ℝ) : Prop where
  wait : ∀ master now, ∃ wait : ℤ,
    absoluteCycleDeadline lock master now =
        ((((now + wait : ℤ) : ℝ) / 1000000000, (wait : ℝ) / 1000000000) : ℝ × ℝ) ∧
      0 < wait ∧ wait ≤ lock.cycleTimeNs ∧
      (estimateDcTimeNs master now + wait) % lock.cycleTimeNs = lock.targetPhaseNs
  error : ∀ dcTimeNs,
    lock.wrappedPhaseErrorNs dcTimeNs ≡ dcTimeNs - lock.targetPhaseNs [ZMOD lock.cycleTimeNs] ∧
      2 * |lock.wrappedPhaseErrorNs dcTimeNs| ≤ lock.cycleTimeNs

theorem scheduleSound (lock : DcPhaseLock ℝ) : ScheduleSound lock where
  wait master now := by
    have hliteral : (1000000000.0 : ℝ) = 1000000000 := by norm_num
    refine ⟨waitNs lock (estimateDcTimeNs master now), ?_, waitNs_spec lock _⟩
    unfold absoluteCycleDeadline
    rw [hliteral]
    rfl
  error := wrappedPhaseErrorNs_spec lock

/-- **The arithmetic of the distributed clock,** for a lock that is made with any settings and after
any updates. -/
theorem dcArithmetic_sound (enabled : Bool) (cycleTime kp ki maxCorrection : ℝ) (phaseOffsetNs : ℤ) :
    ∃ lock, DcPhaseLock.new enabled cycleTime phaseOffsetNs kp ki maxCorrection = .ok lock ∧
      ∀ times, ScheduleSound (lock.run times) ∧
        |(lock.run times).integralError| ≤ |maxCorrection| ∧
        |(lock.run times).correctionS| ≤ |maxCorrection| ∧
        |(lock.run times).correction| ≤ |maxCorrection| := by
  obtain ⟨lock, hlock⟩ : ∃ lock,
      DcPhaseLock.new enabled cycleTime phaseOffsetNs kp ki maxCorrection = .ok lock := ⟨_, rfl⟩
  refine ⟨lock, hlock, fun times => ⟨scheduleSound _, ?_⟩⟩
  obtain ⟨hrun, hmax⟩ := DcPhaseLock.bounded_run (DcPhaseLock.bounded_new hlock) times
  have hbound : (lock.run times).maxCorrection = |maxCorrection| := by
    rw [hmax]
    cases hlock
    exact pyAbs_real maxCorrection
  rw [← hbound]
  exact ⟨hrun.integral, hrun.correction, hrun.abs_correction_le⟩

end MotionServer
