import MotionServer.Device.VirtualServo
import MotionServer.Lib.Runs

/-!
# Runs of the virtual drive

* `CommandsApplied`: what the commands of the dictionary leave as it is;
* `Moved`: what the motion of a cycle leaves as it is;
* `Resting`: a drive that is not in operation stands still;
* **`moves_only_enabled`**: in every run the drive moves in Operation Enabled only.
-/

namespace MotionServer

namespace VirtualCiA402Servo

variable {F : Type} [PyFloat F] {profile : ServoProfile F} {servo moved : VirtualCiA402Servo F}

/-! ## Commands of the dictionary -/

/-- The dictionary shows the position and the velocity of the drive. -/
structure Fed (servo : VirtualCiA402Servo F) : Prop where
  position : servo.od.actualPosition = servo.actualPosition
  velocity : servo.od.actualVelocity = servo.actualVelocity

/-- What commands of the dictionary leave as it is. They may only stop the drive. -/
structure CommandsApplied (servo applied : VirtualCiA402Servo F) : Prop where
  sm : applied.sm = servo.sm
  previousControlword : applied.previousControlword = servo.previousControlword
  actualPosition : applied.actualPosition = servo.actualPosition
  homingReferenced : applied.homingReferenced = servo.homingReferenced
  ppActive : applied.ppActive = true → servo.ppActive = true
  actualVelocity : applied.actualVelocity = servo.actualVelocity ∨ applied.actualVelocity = 0.0

theorem CommandsApplied.refl (servo : VirtualCiA402Servo F) : CommandsApplied servo servo :=
  ⟨rfl, rfl, rfl, rfl, id, Or.inl rfl⟩

theorem CommandsApplied.trans {first second third : VirtualCiA402Servo F}
    (h : CommandsApplied first second) (h' : CommandsApplied second third) :
    CommandsApplied first third where
  sm := h'.sm.trans h.sm
  previousControlword := h'.previousControlword.trans h.previousControlword
  actualPosition := h'.actualPosition.trans h.actualPosition
  homingReferenced := h'.homingReferenced.trans h.homingReferenced
  ppActive := h.ppActive ∘ h'.ppActive
  actualVelocity := by
    rcases h'.actualVelocity with hsame | hzero
    · rw [hsame]
      exact h.actualVelocity
    · exact Or.inr hzero

theorem applied_stopAtCurrentPosition (servo : VirtualCiA402Servo F) :
    CommandsApplied servo servo.stopAtCurrentPosition :=
  ⟨rfl, rfl, rfl, rfl, (fun h => nomatch h), Or.inr rfl⟩

theorem fed_stopAtCurrentPosition (servo : VirtualCiA402Servo F) : servo.stopAtCurrentPosition.Fed :=
  ⟨rfl, rfl⟩

theorem applied_setMode (mode previousMode : ℤ) :
    CommandsApplied servo (servo.setMode mode previousMode) := by
  unfold setMode
  split_ifs
  · exact ⟨rfl, rfl, rfl, rfl, (fun h => nomatch h), Or.inr rfl⟩
  · exact ⟨rfl, rfl, rfl, rfl, (fun h => nomatch h), Or.inr rfl⟩
  · exact ⟨rfl, rfl, rfl, rfl, id, Or.inl rfl⟩

theorem applied_setTargetPosition (position previousTarget : F) :
    CommandsApplied servo (servo.setTargetPosition position previousTarget) := by
  unfold setTargetPosition
  split_ifs
  · exact ⟨rfl, rfl, rfl, rfl, id, Or.inl rfl⟩
  · exact ⟨rfl, rfl, rfl, rfl, (fun h => nomatch h), Or.inr rfl⟩
  · exact ⟨rfl, rfl, rfl, rfl, id, Or.inl rfl⟩

theorem applied_applyModeAndTarget : CommandsApplied servo servo.applyModeAndTarget := by
  have hmode : CommandsApplied servo servo.applyMode := by
    unfold applyMode
    split_ifs
    · exact applied_setMode _ _
    · exact CommandsApplied.refl servo
  refine hmode.trans ?_
  show CommandsApplied _ (servo.applyMode.applyTarget servo.od.targetPosition)
  unfold applyTarget
  split_ifs
  · exact CommandsApplied.refl _
  · exact applied_setTargetPosition _ _

theorem applied_applyReset : CommandsApplied servo (servo.applyReset profile) := by
  unfold applyReset
  dsimp only
  split_ifs
  · exact ⟨rfl, rfl, rfl, rfl, id, Or.inl rfl⟩
  · exact ⟨rfl, rfl, rfl, rfl, id, Or.inl rfl⟩

theorem applied_applyParameterSave : CommandsApplied servo servo.applyParameterSave := by
  unfold applyParameterSave
  dsimp only
  split_ifs
  · exact ⟨rfl, rfl, rfl, rfl, id, Or.inl rfl⟩
  · exact ⟨rfl, rfl, rfl, rfl, id, Or.inl rfl⟩

/-- **The commands of the dictionary move nothing.** -/
theorem applied_applyOdCommands : CommandsApplied servo (servo.applyOdCommands profile) :=
  applied_applyReset.trans (applied_applyParameterSave.trans applied_applyModeAndTarget)

/-! ## The feedback after commands -/

/-- The dictionary shows the position, and the velocity unless a reset has cleared it together with
the control word. -/
structure FedOrReset (servo : VirtualCiA402Servo F) : Prop where
  position : servo.od.actualPosition = servo.actualPosition
  velocity : servo.od.actualVelocity = servo.actualVelocity ∨
    servo.od.actualVelocity = 0.0 ∧ servo.od.controlword = 0

theorem Fed.fedOrReset (h : servo.Fed) : servo.FedOrReset := ⟨h.position, Or.inl h.velocity⟩

theorem fedOrReset_setMode (h : servo.FedOrReset) (mode previousMode : ℤ) :
    (servo.setMode mode previousMode).FedOrReset := by
  unfold setMode
  split_ifs
  · exact ⟨rfl, Or.inl rfl⟩
  · exact ⟨rfl, Or.inl rfl⟩
  · refine ⟨h.position, h.velocity.imp id fun hreset => ⟨hreset.1, ?_⟩⟩
    show Function.update servo.od.command .modeOfOperation mode .controlword = 0
    rw [Function.update_of_ne (by decide)]
    exact hreset.2

theorem fedOrReset_setTargetPosition (h : servo.FedOrReset) (position previousTarget : F) :
    (servo.setTargetPosition position previousTarget).FedOrReset := by
  unfold setTargetPosition
  split_ifs
  · exact ⟨h.position, h.velocity⟩
  · exact ⟨rfl, Or.inl rfl⟩
  · exact ⟨h.position, h.velocity⟩

theorem fedOrReset_applyModeAndTarget (h : servo.FedOrReset) :
    servo.applyModeAndTarget.FedOrReset := by
  have hmode : servo.applyMode.FedOrReset := by
    unfold applyMode
    split_ifs
    · exact fedOrReset_setMode h _ _
    · exact h
  show (servo.applyMode.applyTarget servo.od.targetPosition).FedOrReset
  unfold applyTarget
  split_ifs
  · exact hmode
  · exact fedOrReset_setTargetPosition hmode _ _

theorem fedOrReset_applyReset (profile : ServoProfile F) (h : servo.Fed) : (servo.applyReset profile).FedOrReset := by
  unfold applyReset
  dsimp only
  split_ifs
  · exact ⟨h.position, Or.inr ⟨rfl, rfl⟩⟩
  · exact ⟨h.position, Or.inl h.velocity⟩

theorem fedOrReset_applyOdCommands (h : servo.Fed) :
    (servo.applyOdCommands profile).FedOrReset := by
  refine fedOrReset_applyModeAndTarget ?_
  have hreset := fedOrReset_applyReset profile h
  unfold applyParameterSave
  dsimp only
  split_ifs
  · exact ⟨hreset.position, hreset.velocity⟩
  · exact ⟨hreset.position, hreset.velocity⟩

/-! ## Motion -/

/-- What the motion of a cycle leaves as it is, homing apart. The dictionary shows where it led. -/
structure Moved (servo moved : VirtualCiA402Servo F) : Prop extends Fed moved where
  sm : moved.sm = servo.sm
  command : moved.od.command = servo.od.command
  display : moved.od.modeOfOperationDisplay = servo.od.modeOfOperationDisplay
  lastMode : moved.lastModeCommand = servo.lastModeCommand
  homingActive : moved.homingActive = servo.homingActive
  homingReferenced : moved.homingReferenced = servo.homingReferenced

/-- The counting of the target window changes two fields. -/
theorem moved_updateTargetReached (h : Moved servo moved) :
    Moved servo (moved.updateTargetReached profile) := by
  obtain ⟨⟨hposition, hvelocity⟩, hsm, hcommand, hdisplay, hlast, hactive, hreferenced⟩ := h
  unfold updateTargetReached
  dsimp only
  split_ifs
  · exact ⟨⟨hposition, hvelocity⟩, hsm, hcommand, hdisplay, hlast, hactive, hreferenced⟩
  · exact ⟨⟨hposition, hvelocity⟩, hsm, hcommand, hdisplay, hlast, hactive, hreferenced⟩
  · exact ⟨⟨hposition, hvelocity⟩, hsm, hcommand, hdisplay, hlast, hactive, hreferenced⟩
  · exact ⟨⟨hposition, hvelocity⟩, hsm, hcommand, hdisplay, hlast, hactive, hreferenced⟩

theorem moved_decelerate : Moved servo (servo.decelerateToStop profile).writeActualFeedback :=
  ⟨⟨rfl, rfl⟩, rfl, rfl, rfl, rfl, rfl, rfl⟩

theorem moved_endMove : Moved servo (servo.endMove profile) :=
  ⟨⟨rfl, rfl⟩, rfl, rfl, rfl, rfl, rfl, rfl⟩

theorem moved_ppMove : Moved servo (servo.ppMove profile) := by
  unfold ppMove
  refine moved_updateTargetReached ?_
  dsimp only
  split_ifs
  · exact ⟨⟨rfl, rfl⟩, rfl, rfl, rfl, rfl, rfl, rfl⟩
  · exact ⟨⟨rfl, rfl⟩, rfl, rfl, rfl, rfl, rfl, rfl⟩
  · exact ⟨⟨rfl, rfl⟩, rfl, rfl, rfl, rfl, rfl, rfl⟩

theorem moved_ppContinue : Moved servo (servo.ppContinue profile) := by
  have haccepted : servo.acceptSetpoint.sm = servo.sm ∧
      servo.acceptSetpoint.od = servo.od ∧
      servo.acceptSetpoint.lastModeCommand = servo.lastModeCommand ∧
      servo.acceptSetpoint.homingActive = servo.homingActive ∧
      servo.acceptSetpoint.homingReferenced = servo.homingReferenced := by
    unfold acceptSetpoint
    split_ifs
    · exact ⟨rfl, rfl, rfl, rfl, rfl⟩
    · exact ⟨rfl, rfl, rfl, rfl, rfl⟩
  obtain ⟨hsm, hod, hlast, hactive, hreferenced⟩ := haccepted
  have hmoved : Moved servo.acceptSetpoint (servo.ppContinue profile) := by
    unfold ppContinue
    dsimp only
    split_ifs
    · exact moved_updateTargetReached moved_decelerate
    · exact moved_ppMove
  exact ⟨hmoved.toFed, hmoved.sm.trans hsm, hmoved.command.trans (congrArg _ hod),
    hmoved.display.trans (congrArg _ hod), hmoved.lastMode.trans hlast, hmoved.homingActive.trans hactive,
    hmoved.homingReferenced.trans hreferenced⟩

theorem moved_processPp : Moved servo (servo.processPp profile) := by
  unfold processPp
  dsimp only
  split_ifs
  · exact ⟨⟨rfl, rfl⟩, rfl, rfl, rfl, rfl, rfl, rfl⟩
  · exact ⟨⟨rfl, rfl⟩, rfl, rfl, rfl, rfl, rfl, rfl⟩
  · exact moved_endMove
  · exact moved_ppContinue

theorem moved_processCsp : Moved servo (servo.processCsp profile) := by
  unfold processCsp
  dsimp only
  split_ifs
  · exact ⟨⟨rfl, rfl⟩, rfl, rfl, rfl, rfl, rfl, rfl⟩
  · exact ⟨⟨rfl, rfl⟩, rfl, rfl, rfl, rfl, rfl, rfl⟩
  · exact moved_updateTargetReached ⟨⟨rfl, rfl⟩, rfl, rfl, rfl, rfl, rfl, rfl⟩

theorem moved_processPv : Moved servo (servo.processPv profile) :=
  ⟨⟨rfl, rfl⟩, rfl, rfl, rfl, rfl, rfl, rfl⟩

theorem moved_processJog : Moved servo (servo.processJog profile) :=
  ⟨⟨rfl, rfl⟩, rfl, rfl, rfl, rfl, rfl, rfl⟩

/-- A cycle of homing leaves the machine and the commands as they are. -/
theorem processHoming_frame (h : servo.Fed) :
    (servo.processHoming profile).Fed ∧ (servo.processHoming profile).sm = servo.sm ∧
      (servo.processHoming profile).od.command = servo.od.command ∧
      (servo.processHoming profile).od.modeOfOperationDisplay =
        servo.od.modeOfOperationDisplay ∧
      (servo.processHoming profile).lastModeCommand = servo.lastModeCommand := by
  have hstarted : ∀ started : VirtualCiA402Servo F, started.Fed →
      (if started.homingActive = false then started
        else
          let counted := { started with homingCounter := started.homingCounter - 1 }
          if 0 < counted.homingCounter then counted else counted.finishHoming).Fed := by
    intro started hfed
    dsimp only
    split_ifs
    · exact hfed
    · exact ⟨hfed.position, hfed.velocity⟩
    · exact ⟨rfl, rfl⟩
  refine ⟨hstarted _ ?_, ?_⟩
  · split_ifs
    · exact ⟨rfl, rfl⟩
    · exact h
  · unfold processHoming
    dsimp only
    split_ifs <;> exact ⟨rfl, rfl, rfl, rfl⟩

/-- The motion of a cycle: other than homing, or homing. -/
theorem processMode_frame (profile : ServoProfile F) (h : servo.Fed) :
    (servo.processMode profile).Fed ∧ (servo.processMode profile).sm = servo.sm ∧
      (servo.processMode profile).od.command = servo.od.command ∧
      (servo.processMode profile).od.modeOfOperationDisplay = servo.od.modeOfOperationDisplay ∧
      (servo.processMode profile).lastModeCommand = servo.lastModeCommand := by
  have hof : ∀ {moved : VirtualCiA402Servo F}, Moved servo moved → moved.Fed ∧ moved.sm = servo.sm ∧
      moved.od.command = servo.od.command ∧
      moved.od.modeOfOperationDisplay = servo.od.modeOfOperationDisplay ∧
      moved.lastModeCommand = servo.lastModeCommand :=
    fun hmoved => ⟨hmoved.toFed, hmoved.sm, hmoved.command, hmoved.display, hmoved.lastMode⟩
  unfold processMode
  split_ifs
  · exact hof moved_processPp
  · exact hof moved_processPv
  · exact hof moved_processCsp
  · exact processHoming_frame h
  · exact hof moved_processJog
  · exact ⟨h, rfl, rfl, rfl, rfl⟩

/-! ## Runs -/

/-- A drive that is not in operation stands still, and the dictionary shows where. -/
structure Resting (servo : VirtualCiA402Servo F) : Prop extends Fed servo where
  still : servo.sm ≠ .operationEnabled → servo.actualVelocity = 0.0 ∧ servo.ppActive = false

/-- The control word is processed, and a drive that it takes out of operation is stopped. -/
theorem processControlword_cases (servo : VirtualCiA402Servo F) :
    servo.processControlword.sm = servo.sm.process servo.od.controlword ∧
      servo.processControlword.actualPosition = servo.actualPosition ∧
      (servo.processControlword.Fed ∧ servo.processControlword.actualVelocity = 0.0 ∧
          servo.processControlword.ppActive = false ∨
        (servo.processControlword.sm ≠ .operationEnabled → servo.sm ≠ .operationEnabled) ∧
          servo.processControlword = { servo with
            haltActive := servo.controlBit 8
            sm := servo.sm.process servo.od.controlword }) := by
  unfold processControlword
  dsimp only
  split_ifs with hleft
  · exact ⟨rfl, rfl, Or.inl ⟨⟨rfl, rfl⟩, rfl, rfl⟩⟩
  · refine ⟨rfl, rfl, Or.inr ⟨fun hout hin => hleft ⟨?_, ?_⟩, rfl⟩⟩
    · exact decide_eq_true hin
    · exact decide_eq_false hout

theorem process_zero (state : CiA402State) : state.process 0 = .switchOnDisabled := by
  cases state <;> rfl

/-- After the commands and the control word of a cycle, a drive that is not in operation is at
rest. -/
theorem resting_processControlword (profile : ServoProfile F) (h : servo.Resting) :
    (servo.applyOdCommands profile).processControlword.Resting := by
  have happlied : CommandsApplied servo (servo.applyOdCommands profile) := applied_applyOdCommands
  have hfed : (servo.applyOdCommands profile).FedOrReset := fedOrReset_applyOdCommands h.toFed
  generalize servo.applyOdCommands profile = applied at happlied hfed
  have hstill : applied.sm ≠ .operationEnabled →
      applied.actualVelocity = 0.0 ∧ applied.ppActive = false := by
    intro hout
    obtain ⟨hvelocity, hactive⟩ := h.still (happlied.sm ▸ hout)
    refine ⟨happlied.actualVelocity.elim (fun hsame => hsame.trans hvelocity) id, ?_⟩
    exact Bool.eq_false_iff.mpr fun htrue => by simp [happlied.ppActive htrue] at hactive
  obtain ⟨hsm, hposition, ⟨hstopped, hvelocity, hactive⟩ | ⟨hout, htaken⟩⟩ :=
    processControlword_cases applied
  · exact ⟨hstopped, fun _ => ⟨hvelocity, hactive⟩⟩
  · have hrest : applied.processControlword.sm ≠ .operationEnabled →
        applied.actualVelocity = 0.0 ∧ applied.ppActive = false := fun hne => hstill (hout hne)
    refine ⟨⟨?_, ?_⟩, fun hne => ?_⟩
    · rw [htaken]
      exact hfed.position
    · rcases hfed.velocity with hsame | ⟨hzero, hcontrolword⟩
      · rw [htaken]
        exact hsame
      · have hdisabled : applied.processControlword.sm ≠ .operationEnabled := by
          rw [hsm, hcontrolword, process_zero]
          exact fun heq => nomatch heq
        rw [htaken]
        exact hzero.trans (hrest hdisabled).1.symm
    · rw [htaken]
      exact hrest hne

/-- The drive after the commands and the control word of a cycle. -/
def taken (profile : ServoProfile F) (servo : VirtualCiA402Servo F) : VirtualCiA402Servo F :=
  (servo.applyOdCommands profile).processControlword

/-- The drive after the motion of a cycle. -/
def afterMotion (profile : ServoProfile F) (servo : VirtualCiA402Servo F) : VirtualCiA402Servo F :=
  if (servo.taken profile).operationEnabled then (servo.taken profile).processMode profile
  else servo.taken profile

/-- A cycle reports what the motion led to. -/
theorem modelUpdate_eq (servo : VirtualCiA402Servo F) :
    servo.modelUpdate profile = { servo.afterMotion profile with
      od := { (servo.afterMotion profile).od with
        statusword := (servo.afterMotion profile).reportedStatusword }
      previousControlword := (servo.applyOdCommands profile).od.controlword } := rfl

theorem afterMotion_sm (profile : ServoProfile F) (h : servo.Resting) :
    (servo.afterMotion profile).sm = (servo.taken profile).sm ∧
      (servo.afterMotion profile).Fed := by
  have htaken : (servo.taken profile).Fed := (resting_processControlword profile h).toFed
  unfold afterMotion
  split_ifs
  · exact ⟨(processMode_frame profile htaken).2.1, (processMode_frame profile htaken).1⟩
  · exact ⟨rfl, htaken⟩

/-- **A cycle keeps a drive at rest that is not in operation.** -/
theorem resting_modelUpdate (h : servo.Resting) : (servo.modelUpdate profile).Resting := by
  obtain ⟨hsm, hfed⟩ := afterMotion_sm profile h
  refine ⟨⟨hfed.position, hfed.velocity⟩, fun hne => ?_⟩
  have hout : (servo.taken profile).sm ≠ .operationEnabled := fun heq => hne (hsm.trans heq)
  have hmotion : servo.afterMotion profile = servo.taken profile :=
    if_neg (by simpa [operationEnabled] using hout)
  show (servo.afterMotion profile).actualVelocity = 0.0 ∧
    (servo.afterMotion profile).ppActive = false
  rw [hmotion]
  exact (resting_processControlword profile h).still hout

theorem resting_step (h : servo.Resting) (event : ServoEvent F) :
    (servo.step profile event).Resting := by
  cases event with
  | write entry => cases entry <;> exact ⟨⟨h.position, h.velocity⟩, h.still⟩
  | cycle => exact resting_modelUpdate h

theorem resting_init (profile : ServoProfile F) : (init profile).Resting :=
  ⟨⟨rfl, rfl⟩, fun _ => ⟨rfl, rfl⟩⟩

/-- The drive after events. -/
def after (profile : ServoProfile F) (events : List (ServoEvent F)) : VirtualCiA402Servo F :=
  Runs.run (step profile) (init profile) events

theorem resting_after (profile : ServoProfile F) (events : List (ServoEvent F)) :
    (after profile events).Resting :=
  Runs.invariant (P := Resting) (fun _ event h => resting_step h event) (resting_init profile) events

/-- Only one control word leads into operation, and from one state. -/
theorem enabled_of_process {state : CiA402State} {controlword : ℤ}
    (h : state.process controlword = .operationEnabled) :
    state = .operationEnabled ∨
      state = .switchedOn ∧ Int.land controlword 0x008F = 0x000F := by
  unfold CiA402State.process at h
  cases state with
  | switchedOn =>
    dsimp only at h
    split_ifs at h with _ _ _ henable
    exact Or.inr ⟨rfl, henable⟩
  | operationEnabled => exact Or.inl rfl
  | switchOnDisabled =>
    dsimp only at h
    split_ifs at h
  | readyToSwitchOn =>
    dsimp only at h
    split_ifs at h
  | fault =>
    dsimp only at h
    split_ifs at h

/-- **The drive moves in Operation Enabled only.** In every run, a cycle changes the position only if
the drive is in Operation Enabled after its control word; when it is not, the drive stands still
without a move; and Operation Enabled is entered from Switched On, by a control word that enables
it. -/
theorem moves_only_enabled (profile : ServoProfile F) (events : List (ServoEvent F)) :
    let servo := after profile events
    let next := servo.modelUpdate profile
    (next.actualPosition ≠ servo.actualPosition → next.sm = .operationEnabled) ∧
      (next.od.actualPosition ≠ servo.od.actualPosition → next.sm = .operationEnabled) ∧
      (next.sm ≠ .operationEnabled →
        next.actualVelocity = 0.0 ∧ next.od.actualVelocity = 0.0 ∧ next.ppActive = false) ∧
      (next.sm = .operationEnabled → servo.sm = .operationEnabled ∨ servo.sm = .switchedOn ∧
        Int.land (servo.applyOdCommands profile).od.controlword 0x008F = 0x000F) := by
  intro servo next
  have hrest : servo.Resting := resting_after profile events
  have hnext : next.Resting := resting_modelUpdate hrest
  have happlied : CommandsApplied servo (servo.applyOdCommands profile) := applied_applyOdCommands
  obtain ⟨hsm, hposition, -⟩ := processControlword_cases (servo.applyOdCommands profile)
  have hstate : next.sm = (servo.taken profile).sm := (afterMotion_sm profile hrest).1
  have hstays : next.sm ≠ .operationEnabled → next.actualPosition = servo.actualPosition := by
    intro hne
    have hout : (servo.taken profile).sm ≠ .operationEnabled := fun heq => hne (hstate.trans heq)
    have hmotion : servo.afterMotion profile = servo.taken profile :=
      if_neg (by simpa [operationEnabled] using hout)
    show (servo.afterMotion profile).actualPosition = _
    rw [hmotion]
    exact hposition.trans happlied.actualPosition
  refine ⟨fun hchange => ?_, fun hchange => ?_, fun hne => ?_, fun henabled => ?_⟩
  · by_contra hne
    exact hchange (hstays hne)
  · by_contra hne
    rw [hnext.position, hrest.position] at hchange
    exact hchange (hstays hne)
  · obtain ⟨hvelocity, hactive⟩ := hnext.still hne
    exact ⟨hvelocity, hnext.velocity.trans hvelocity, hactive⟩
  · rw [hstate] at henabled
    have hcases := enabled_of_process (hsm.symm.trans henabled)
    rwa [happlied.sm] at hcases

end VirtualCiA402Servo

end MotionServer
