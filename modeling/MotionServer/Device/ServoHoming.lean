import MotionServer.Device.ServoRuns
import MotionServer.Python.ExtRat

/-!
# Homing of the virtual drive

* `HomingSince`: homing mode in Operation Enabled, without interruption since the start bit rose;
* `Attains`: the cycles in which homing is attained;
* `KeepsHoming`: the steps that leave no homing run behind;
* **`homing_uninterrupted`**: in every run of such steps, homing needs continuous operation.
-/

namespace MotionServer

namespace VirtualCiA402Servo

variable {F : Type} [PyFloat F] {profile : ServoProfile F} {servo : VirtualCiA402Servo F}

/-- The drive is in homing mode, in Operation Enabled. -/
def InHoming (servo : VirtualCiA402Servo F) : Prop :=
  servo.sm = .operationEnabled ∧ servo.od.modeOfOperationDisplay = 6

/-- In the next cycle the start bit rises. -/
def StartRises (profile : ServoProfile F) (servo : VirtualCiA402Servo F) : Prop :=
  (servo.applyOdCommands profile).risingBit 4 = true

/-- In some cycle the start bit rose, and from then on the drive was in homing mode and in Operation
Enabled. -/
def HomingSince (profile : ServoProfile F) (events : List (ServoEvent F)) : Prop :=
  ∃ pre post, events = pre ++ .cycle :: post ∧ StartRises profile (after profile pre) ∧
    ∀ mid rest, post = mid ++ rest → InHoming (after profile (pre ++ .cycle :: mid))

/-- Homing is attained in a cycle: the drive becomes referenced, reports it, or takes another
position in homing mode. -/
def Attains (servo next : VirtualCiA402Servo F) : Prop :=
  (servo.homingReferenced = false ∧ next.homingReferenced = true) ∨
    (servo.od.statusword.getLsbD 15 = false ∧ next.od.statusword.getLsbD 15 = true) ∨
    (next.od.modeOfOperationDisplay = 6 ∧ next.actualPosition ≠ servo.actualPosition)

/-- A cycle that finds a homing run under way does not reset the device, and the control word does not
take the drive out of Operation Enabled while the mode is homing. -/
def KeepsHoming (servo : VirtualCiA402Servo F) : ServoEvent F → Prop
  | .write _ => True
  | .cycle => servo.homingActive = true → servo.resetRequested = false ∧
      (servo.od.modeOfOperation = 6 →
        servo.sm.process servo.od.controlword = .operationEnabled)

instance (servo : VirtualCiA402Servo F) : ∀ event, Decidable (servo.KeepsHoming event)
  | .write _ => inferInstanceAs (Decidable True)
  | .cycle => inferInstanceAs (Decidable (_ → _ ∧ (_ → _)))

/-! ## Modes -/

/-- The dictionary shows the mode that was commanded last. -/
def ModeShown (servo : VirtualCiA402Servo F) : Prop :=
  servo.od.modeOfOperationDisplay = servo.lastModeCommand

theorem applyTarget_frame (requestedTarget : F) :
    (servo.applyTarget requestedTarget).homingActive = servo.homingActive ∧
      (servo.applyTarget requestedTarget).od.command = servo.od.command ∧
      (servo.applyTarget requestedTarget).od.modeOfOperationDisplay =
        servo.od.modeOfOperationDisplay ∧
      (servo.applyTarget requestedTarget).lastModeCommand = servo.lastModeCommand := by
  unfold applyTarget setTargetPosition
  split_ifs <;> exact ⟨rfl, rfl, rfl, rfl⟩

/-- A new mode is shown, and one other than homing ends a homing run. -/
theorem applyMode_spec (h : servo.ModeShown) :
    servo.applyMode.od.controlword = servo.od.controlword ∧
      servo.applyMode.od.modeOfOperation = servo.od.modeOfOperation ∧
      servo.applyMode.od.modeOfOperationDisplay = servo.od.modeOfOperation ∧
      servo.applyMode.lastModeCommand = servo.od.modeOfOperation ∧
      (servo.applyMode.homingActive = true → servo.homingActive = true ∧
        (servo.od.modeOfOperation ≠ servo.lastModeCommand → servo.od.modeOfOperation = 6)) := by
  unfold applyMode
  split_ifs with hchange
  · unfold setMode
    split_ifs with hhoming
    · exact ⟨rfl, rfl, rfl, rfl, fun hactive => nomatch hactive⟩
    · exact ⟨rfl, rfl, rfl, rfl, fun hactive => ⟨hactive, fun _ => not_not.mp hhoming⟩⟩
  · have hsame : servo.od.modeOfOperation = servo.lastModeCommand := not_not.mp hchange
    exact ⟨rfl, rfl, h.trans hsame.symm, hsame.symm, fun hactive =>
      ⟨hactive, fun hne => absurd hsame hne⟩⟩

theorem applyReset_spec (profile : ServoProfile F) (h : servo.ModeShown) :
    (servo.applyReset profile).ModeShown ∧
      (servo.applyReset profile).homingActive = servo.homingActive ∧
      (servo.resetRequested = false → (servo.applyReset profile).od = servo.od ∧
        (servo.applyReset profile).lastModeCommand = servo.lastModeCommand) := by
  unfold applyReset
  dsimp only
  split_ifs with hreset
  · exact ⟨rfl, rfl, fun hnot => absurd hreset (by rw [hnot]; exact Bool.false_ne_true)⟩
  · exact ⟨h, rfl, fun _ => ⟨rfl, rfl⟩⟩

omit [PyFloat F] in
theorem applyParameterSave_frame :
    servo.applyParameterSave.od.command = servo.od.command ∧
      servo.applyParameterSave.od.modeOfOperationDisplay = servo.od.modeOfOperationDisplay ∧
      servo.applyParameterSave.lastModeCommand = servo.lastModeCommand ∧
      servo.applyParameterSave.homingActive = servo.homingActive := by
  unfold applyParameterSave
  dsimp only
  split_ifs <;> exact ⟨rfl, rfl, rfl, rfl⟩

/-- The commands of a cycle: the mode is shown, and a homing run that goes on is of the same mode and
control word unless the device was reset. -/
theorem applyOdCommands_homing (profile : ServoProfile F) (h : servo.ModeShown) :
    (servo.applyOdCommands profile).ModeShown ∧
      (servo.applyOdCommands profile).od.modeOfOperation =
        (servo.applyOdCommands profile).od.modeOfOperationDisplay ∧
      ((servo.applyOdCommands profile).homingActive = true → servo.homingActive = true ∧
        (servo.resetRequested = false → servo.lastModeCommand = 6 →
          servo.od.modeOfOperation = 6 ∧
          (servo.applyOdCommands profile).od.modeOfOperation = 6 ∧
          (servo.applyOdCommands profile).od.controlword = servo.od.controlword)) := by
  obtain ⟨hresetShown, hresetActive, hresetNot⟩ := applyReset_spec profile h
  obtain ⟨hsaveCommand, hsaveDisplay, hsaveMode, hsaveActive⟩ :=
    (servo.applyReset profile).applyParameterSave_frame
  have hshown : (servo.applyReset profile).applyParameterSave.ModeShown :=
    hsaveDisplay.trans (hresetShown.trans hsaveMode.symm)
  obtain ⟨hcontrol, hmode, hdisplay, hlast, hactive⟩ := applyMode_spec hshown
  obtain ⟨htargetActive, htargetCommand, htargetDisplay, htargetLast⟩ :=
    (servo.applyReset profile).applyParameterSave.applyMode.applyTarget_frame
      (servo.applyReset profile).applyParameterSave.od.targetPosition
  have hmodeApplied : (servo.applyOdCommands profile).od.modeOfOperation =
      (servo.applyReset profile).applyParameterSave.od.modeOfOperation :=
    (congrFun htargetCommand .modeOfOperation).trans hmode
  refine ⟨?_, ?_, fun happlied => ?_⟩
  · exact (htargetDisplay.trans hdisplay).trans (htargetLast.trans hlast).symm
  · exact hmodeApplied.trans (htargetDisplay.trans hdisplay).symm
  · obtain ⟨hwas, hhoming⟩ := hactive (htargetActive.symm.trans happlied)
    refine ⟨hresetActive.symm.trans (hsaveActive.symm.trans hwas), fun hreset hsix => ?_⟩
    obtain ⟨hod, hlastReset⟩ := hresetNot hreset
    have hcommand : (servo.applyReset profile).applyParameterSave.od.command = servo.od.command :=
      hsaveCommand.trans (congrArg ServoOd.command hod)
    have hlastSix : (servo.applyReset profile).applyParameterSave.lastModeCommand = 6 :=
      hsaveMode.trans (hlastReset.trans hsix)
    have hrequested : (servo.applyReset profile).applyParameterSave.od.modeOfOperation = 6 := by
      by_contra hne
      exact hne (hhoming (by rw [hlastSix]; exact hne))
    have hsame : servo.od.modeOfOperation =
        (servo.applyReset profile).applyParameterSave.od.modeOfOperation :=
      (congrFun hcommand .modeOfOperation).symm
    refine ⟨hsame.trans hrequested, hmodeApplied.trans hrequested, ?_⟩
    exact (congrFun htargetCommand .controlword).trans
      (hcontrol.trans (congrFun hcommand .controlword))

/-! ## Motion -/

/-- What the control word leaves as it is. -/
theorem processControlword_homing :
    servo.processControlword.homingActive = servo.homingActive ∧
      servo.processControlword.homingReferenced = servo.homingReferenced ∧
      servo.processControlword.od.command = servo.od.command ∧
      servo.processControlword.od.modeOfOperationDisplay = servo.od.modeOfOperationDisplay ∧
      servo.processControlword.lastModeCommand = servo.lastModeCommand ∧
      servo.processControlword.previousControlword = servo.previousControlword := by
  unfold processControlword
  dsimp only
  split_ifs <;> exact ⟨rfl, rfl, rfl, rfl, rfl, rfl⟩

/-- Without a homing run and a start, homing does nothing. -/
theorem processHoming_idle (hactive : servo.homingActive = false)
    (hrising : servo.risingBit 4 = false) : servo.processHoming profile = servo := by
  unfold processHoming
  dsimp only
  rw [hrising, if_neg Bool.false_ne_true, if_pos hactive]

/-- The motion of a cycle is homing with a run or a start, or it is none of homing. -/
theorem processMode_homing (profile : ServoProfile F) (servo : VirtualCiA402Servo F) :
    (servo.od.modeOfOperation = 6 ∧ (servo.homingActive = true ∨ servo.risingBit 4 = true)) ∨
      ((servo.processMode profile).homingActive = servo.homingActive ∧
        (servo.processMode profile).homingReferenced = servo.homingReferenced ∧
        (servo.od.modeOfOperation = 6 →
          (servo.processMode profile).actualPosition = servo.actualPosition)) := by
  by_cases hmode : servo.od.modeOfOperation = 6
  · by_cases hbusy : servo.homingActive = true ∨ servo.risingBit 4 = true
    · exact Or.inl ⟨hmode, hbusy⟩
    · simp only [not_or, Bool.not_eq_true] at hbusy
      have hidle : servo.processMode profile = servo := by
        unfold processMode
        rw [hmode, if_neg (by decide), if_neg (by decide), if_neg (by decide), if_pos rfl]
        exact processHoming_idle hbusy.1 hbusy.2
      rw [hidle]
      exact Or.inr ⟨rfl, rfl, fun _ => rfl⟩
  · have hmoved : Moved servo (servo.processMode profile) ∨ servo.processMode profile = servo := by
      unfold processMode
      split_ifs
      · exact Or.inl moved_processPp
      · exact Or.inl moved_processPv
      · exact Or.inl moved_processCsp
      · exact Or.inl moved_processJog
      · exact Or.inr rfl
    rcases hmoved with hmoved | hsame
    · exact Or.inr ⟨hmoved.homingActive, hmoved.homingReferenced, fun hsix => absurd hsix hmode⟩
    · rw [hsame]
      exact Or.inr ⟨rfl, rfl, fun _ => rfl⟩

/-- What a cycle of homing needs: a run under way, or a start in this cycle. -/
theorem cycle_homing (profile : ServoProfile F) (h : servo.Resting) (hshown : servo.ModeShown) :
    (InHoming (servo.modelUpdate profile) ∧
        ((servo.applyOdCommands profile).homingActive = true ∨ StartRises profile servo)) ∨
      ((servo.modelUpdate profile).homingActive = (servo.applyOdCommands profile).homingActive ∧
        (servo.modelUpdate profile).homingReferenced = servo.homingReferenced ∧
        ((servo.modelUpdate profile).od.modeOfOperationDisplay = 6 →
          (servo.modelUpdate profile).actualPosition = servo.actualPosition)) := by
  have happlied : CommandsApplied servo (servo.applyOdCommands profile) := applied_applyOdCommands
  have hmodes := (applyOdCommands_homing profile hshown).2.1
  obtain ⟨hactive, hreferenced, hcommand, hdisplay, -, hprevious⟩ :=
    (servo.applyOdCommands profile).processControlword_homing
  have hposition := (processControlword_cases (servo.applyOdCommands profile)).2.1
  have hshow : (servo.taken profile).od.modeOfOperationDisplay =
      (servo.taken profile).od.modeOfOperation :=
    hdisplay.trans (hmodes.symm.trans (congrFun hcommand .modeOfOperation).symm)
  by_cases henabled : (servo.taken profile).operationEnabled = true
  · have hmotion : servo.afterMotion profile = (servo.taken profile).processMode profile :=
      if_pos henabled
    obtain ⟨-, hsm, -, hframe, -⟩ :=
      processMode_frame profile (resting_processControlword profile h).toFed
    rcases processMode_homing profile (servo.taken profile) with
      ⟨hsix, hbusy⟩ | ⟨hsameActive, hsameReferenced, hsamePosition⟩
    · refine Or.inl ⟨⟨?_, ?_⟩, ?_⟩
      · show (servo.afterMotion profile).sm = .operationEnabled
        rw [hmotion]
        exact hsm.trans (of_decide_eq_true henabled)
      · show (servo.afterMotion profile).od.modeOfOperationDisplay = 6
        rw [hmotion]
        exact hframe.trans (hshow.trans hsix)
      · refine hbusy.imp (fun hrun => hactive.symm.trans hrun) fun hrising => ?_
        have hsameBit : (servo.taken profile).risingBit 4 =
            (servo.applyOdCommands profile).risingBit 4 := by
          unfold risingBit controlBit
          rw [show (servo.taken profile).od.controlword = _ from congrFun hcommand .controlword,
            show (servo.taken profile).previousControlword = _ from hprevious]
          rfl
        exact hsameBit.symm.trans hrising
    · refine Or.inr ⟨?_, ?_, fun hsix => ?_⟩
      · show (servo.afterMotion profile).homingActive = _
        rw [hmotion]
        exact hsameActive.trans hactive
      · show (servo.afterMotion profile).homingReferenced = _
        rw [hmotion]
        exact hsameReferenced.trans (hreferenced.trans happlied.homingReferenced)
      · have hsix : (servo.afterMotion profile).od.modeOfOperationDisplay = 6 := hsix
        show (servo.afterMotion profile).actualPosition = _
        rw [hmotion] at hsix ⊢
        refine (hsamePosition ?_).trans (hposition.trans happlied.actualPosition)
        exact hshow.symm.trans (hframe.symm.trans hsix)
  · have hmotion : servo.afterMotion profile = servo.taken profile := if_neg henabled
    refine Or.inr ⟨?_, ?_, fun _ => ?_⟩
    · show (servo.afterMotion profile).homingActive = _
      rw [hmotion]
      exact hactive
    · show (servo.afterMotion profile).homingReferenced = _
      rw [hmotion]
      exact hreferenced.trans happlied.homingReferenced
    · show (servo.afterMotion profile).actualPosition = _
      rw [hmotion]
      exact hposition.trans happlied.actualPosition

/-- A homing run goes on from the cycle in which the start bit rose. -/
theorem homingSince_snoc {events : List (ServoEvent F)} (event : ServoEvent F)
    (h : HomingSince profile events)
    (hhoming : InHoming (after profile (events ++ [event]))) :
    HomingSince profile (events ++ [event]) := by
  obtain ⟨pre, post, rfl, hrises, hmid⟩ := h
  refine ⟨pre, post ++ [event], by simp, hrises, fun mid rest hsplit => ?_⟩
  rcases List.eq_nil_or_concat rest with rfl | ⟨rest', last, rfl⟩
  · rw [List.append_nil] at hsplit
    rw [← hsplit]
    simpa using hhoming
  · refine hmid mid rest' ?_
    rw [List.concat_eq_append, ← List.append_assoc] at hsplit
    exact (List.append_inj' hsplit rfl).1

theorem homingSince_start {events : List (ServoEvent F)}
    (hrises : StartRises profile (after profile events))
    (hhoming : InHoming (after profile (events ++ [.cycle]))) :
    HomingSince profile (events ++ [.cycle]) := by
  refine ⟨events, [], rfl, hrises, fun mid rest hsplit => ?_⟩
  obtain ⟨rfl, rfl⟩ := List.append_eq_nil_iff.mp hsplit.symm
  exact hhoming

theorem inHoming_of_since {events : List (ServoEvent F)} (h : HomingSince profile events) :
    InHoming (after profile events) := by
  obtain ⟨pre, post, rfl, -, hmid⟩ := h
  exact hmid post [] (List.append_nil _).symm

/-- The start bit rose in the last cycle, or the drive was homing before it. -/
theorem homingSince_cases {events : List (ServoEvent F)} {event : ServoEvent F}
    (h : HomingSince profile (events ++ [event])) :
    StartRises profile (after profile events) ∨ InHoming (after profile events) := by
  obtain ⟨pre, post, hsplit, hrises, hmid⟩ := h
  rcases List.eq_nil_or_concat post with rfl | ⟨post', last, rfl⟩
  · obtain ⟨rfl, -⟩ := List.append_inj' hsplit rfl
    exact Or.inl hrises
  · have hevents : events = pre ++ .cycle :: post' := by
      rw [List.concat_eq_append, ← List.cons_append, ← List.append_assoc] at hsplit
      exact (List.append_inj' hsplit rfl).1
    rw [hevents]
    exact Or.inr (hmid post' [last] (List.concat_eq_append ..))

/-! ## Runs -/

/-- The status word reports a referenced drive. -/
theorem reportedStatusword_referenced (servo : VirtualCiA402Servo F) :
    servo.reportedStatusword.getLsbD 15 = servo.homingReferenced := by
  have hbit : ∀ (bit : ℕ) (set : Bool), bit < 15 → (statusBit bit set).getLsbD 15 = false := by
    intro bit set hlt
    unfold statusBit
    split_ifs
    · interval_cases bit <;> rfl
    · rfl
  have hstate : servo.sm.statusword.getLsbD 15 = false := by cases servo.sm <;> rfl
  have hreferenced : (statusBit 15 servo.homingReferenced).getLsbD 15 = servo.homingReferenced := by
    cases servo.homingReferenced <;> rfl
  unfold reportedStatusword
  simp only [BitVec.getLsbD_or, hstate, hreferenced, hbit 10 _ (by omega), hbit 12 _ (by omega),
    hbit 8 _ (by omega), hbit 7 _ (by omega), hbit 11 _ (by omega), hbit 3 _ (by omega),
    Bool.false_or, Bool.or_false]

/-- What holds of a drive at the end of a run that leaves no homing run behind. -/
structure Watched (profile : ServoProfile F) (events : List (ServoEvent F)) : Prop where
  resting : (after profile events).Resting
  shown : (after profile events).ModeShown
  reported : (after profile events).od.statusword.getLsbD 15 =
    (after profile events).homingReferenced
  since : (after profile events).homingActive = true → HomingSince profile events

theorem after_snoc (profile : ServoProfile F) (events : List (ServoEvent F))
    (event : ServoEvent F) :
    after profile (events ++ [event]) = (after profile events).step profile event :=
  Runs.run_append _ _ _ _

theorem step_cycle (servo : VirtualCiA402Servo F) :
    servo.step profile .cycle = servo.modelUpdate profile := rfl

theorem modeShown_modelUpdate (h : servo.ModeShown) (hrest : servo.Resting) :
    (servo.modelUpdate profile).ModeShown := by
  obtain ⟨hshown, -, -⟩ := applyOdCommands_homing profile h
  obtain ⟨-, -, -, hdisplay, hlast, -⟩ := (servo.applyOdCommands profile).processControlword_homing
  have htaken : (servo.taken profile).ModeShown := hdisplay.trans (hshown.trans hlast.symm)
  show (servo.afterMotion profile).ModeShown
  unfold afterMotion
  split_ifs
  · obtain ⟨-, -, -, hsameDisplay, hsameLast⟩ :=
      processMode_frame profile (resting_processControlword profile hrest).toFed
    exact hsameDisplay.trans (htaken.trans hsameLast.symm)
  · exact htaken

theorem watched_init (profile : ServoProfile F) : Watched profile [] where
  resting := resting_init profile
  shown := rfl
  reported := by
    show (0x0040 : BitVec 16).getLsbD 15 = false
    rfl
  since := fun h => nomatch h

/-- A write changes nothing of the drive. -/
theorem watched_write {events : List (ServoEvent F)} (h : Watched profile events)
    (entry : OdWrite F) : Watched profile (events ++ [.write entry]) := by
  have hsame : ∀ {P : VirtualCiA402Servo F → Prop},
      (∀ od : ServoOd F, od.modeOfOperationDisplay = (after profile events).od.modeOfOperationDisplay →
        od.statusword = (after profile events).od.statusword →
        od.actualPosition = (after profile events).od.actualPosition →
        od.actualVelocity = (after profile events).od.actualVelocity →
        P { after profile events with od := od }) → P (after profile (events ++ [.write entry])) := by
    intro P hP
    rw [after_snoc]
    cases entry <;> exact hP _ rfl rfl rfl rfl
  refine ⟨hsame fun od _ _ hposition hvelocity => ?_, hsame fun od hdisplay _ _ _ => ?_,
    hsame (P := fun servo => servo.od.statusword.getLsbD 15 = servo.homingReferenced)
      fun od _ hstatus _ _ => ?_, fun hactive => ?_⟩
  · exact ⟨⟨hposition.trans h.resting.position, hvelocity.trans h.resting.velocity⟩, h.resting.still⟩
  · exact hdisplay.trans h.shown
  · show od.statusword.getLsbD 15 = _
    rw [hstatus]
    exact h.reported
  · have hwas : (after profile events).homingActive = true := by
      rw [after_snoc] at hactive
      cases entry <;> exact hactive
    refine homingSince_snoc _ (h.since hwas) (hsame fun od hdisplay _ _ _ => ?_)
    obtain ⟨hsm, hsix⟩ := inHoming_of_since (h.since hwas)
    exact ⟨hsm, hdisplay.trans hsix⟩

/-- A homing run goes on through a cycle that keeps it. -/
theorem homingSince_cycle {events : List (ServoEvent F)} (h : Watched profile events)
    (hhoming : InHoming (after profile (events ++ [.cycle])))
    (hrun : ((after profile events).applyOdCommands profile).homingActive = true ∨
      StartRises profile (after profile events)) : HomingSince profile (events ++ [.cycle]) := by
  rcases hrun with hrun | hrises
  · have hwas := ((applyOdCommands_homing profile h.shown).2.2 hrun).1
    exact homingSince_snoc _ (h.since hwas) hhoming
  · exact homingSince_start hrises hhoming

/-- The state and the mode after a cycle come from the commands and the control word. -/
theorem modelUpdate_frame (profile : ServoProfile F) (hrest : servo.Resting) :
    (servo.modelUpdate profile).sm =
        (servo.applyOdCommands profile).sm.process (servo.applyOdCommands profile).od.controlword ∧
      (servo.modelUpdate profile).od.modeOfOperationDisplay =
        (servo.applyOdCommands profile).od.modeOfOperationDisplay := by
  obtain ⟨hsm, -, -⟩ := processControlword_cases (servo.applyOdCommands profile)
  obtain ⟨-, -, -, hdisplay, -⟩ := (servo.applyOdCommands profile).processControlword_homing
  refine ⟨(afterMotion_sm profile hrest).1.trans hsm, ?_⟩
  show (servo.afterMotion profile).od.modeOfOperationDisplay = _
  unfold afterMotion
  split_ifs
  · obtain ⟨-, -, -, hsame, -⟩ :=
      processMode_frame profile (resting_processControlword profile hrest).toFed
    exact hsame.trans hdisplay
  · exact hdisplay

/-- A homing run that a cycle keeps is one in homing mode and in operation. -/
theorem inHoming_of_kept {events : List (ServoEvent F)} (h : Watched profile events)
    (hkeeps : KeepsHoming (after profile events) .cycle)
    (hrun : ((after profile events).applyOdCommands profile).homingActive = true) :
    InHoming (after profile (events ++ [.cycle])) := by
  obtain ⟨-, hmodes, happlied⟩ := applyOdCommands_homing profile h.shown
  obtain ⟨hwas, hgoes⟩ := happlied hrun
  obtain ⟨hreset, henabled⟩ := hkeeps hwas
  have hsix : (after profile events).lastModeCommand = 6 :=
    h.shown.symm.trans (inHoming_of_since (h.since hwas)).2
  obtain ⟨hmode, hmodeApplied, hcontrolword⟩ := hgoes hreset hsix
  obtain ⟨hsm, hdisplay⟩ := modelUpdate_frame profile h.resting
  have happlied : CommandsApplied (after profile events)
      ((after profile events).applyOdCommands profile) := applied_applyOdCommands
  rw [after_snoc]
  refine ⟨hsm.trans ?_, hdisplay.trans (hmodes.symm.trans hmodeApplied)⟩
  rw [happlied.sm, hcontrolword]
  exact henabled hmode

/-- **A cycle that keeps a homing run** leaves every other one behind. -/
theorem watched_cycle {events : List (ServoEvent F)} (h : Watched profile events)
    (hkeeps : KeepsHoming (after profile events) .cycle) :
    Watched profile (events ++ [.cycle]) := by
  refine ⟨?_, ?_, ?_, fun hactive => ?_⟩
  · rw [after_snoc]
    exact resting_modelUpdate h.resting
  · rw [after_snoc]
    exact modeShown_modelUpdate h.shown h.resting
  · rw [after_snoc]
    exact reportedStatusword_referenced _
  · rcases cycle_homing profile h.resting h.shown with ⟨hhoming, hrun⟩ | ⟨hsame, -⟩
    · rw [← step_cycle, ← after_snoc] at hhoming
      exact homingSince_cycle h hhoming hrun
    · rw [after_snoc] at hactive
      have hrun := hsame.symm.trans hactive
      exact homingSince_cycle h (inHoming_of_kept h hkeeps hrun) (Or.inl hrun)

theorem watched_after (profile : ServoProfile F) {events : List (ServoEvent F)}
    (h : Runs.Allowed (step profile) KeepsHoming (init profile) events) :
    Watched profile events := by
  induction events using List.reverseRecOn with
  | nil => exact watched_init profile
  | append_singleton events event ih =>
    obtain ⟨hevents, hlast, -⟩ := Runs.allowed_append.mp h
    cases event with
    | write entry => exact watched_write (ih hevents) entry
    | cycle => exact watched_cycle (ih hevents) hlast

/-- **Homing needs continuous operation**, in every run that leaves no homing run behind: whenever a
cycle attains homing, the drive has been in homing mode and in Operation Enabled since the start bit
rose. -/
theorem homing_uninterrupted (profile : ServoProfile F) (events : List (ServoEvent F))
    (h : Runs.Allowed (step profile) KeepsHoming (init profile) events)
    (pre post : List (ServoEvent F)) (hsplit : events = pre ++ .cycle :: post)
    (hattains : Attains (after profile pre) (after profile (pre ++ [.cycle]))) :
    HomingSince profile (pre ++ [.cycle]) := by
  have hevents : events = (pre ++ [.cycle]) ++ post := by simpa using hsplit
  rw [hevents] at h
  have hpre : Watched profile pre :=
    watched_after profile (Runs.allowed_append.mp (Runs.allowed_append.mp h).1).1
  have hnext : Watched profile (pre ++ [.cycle]) :=
    watched_after profile (Runs.allowed_append.mp h).1
  rcases cycle_homing profile hpre.resting hpre.shown with
    ⟨hhoming, hrun⟩ | ⟨-, hreferenced, hposition⟩
  · rw [← step_cycle, ← after_snoc] at hhoming
    exact homingSince_cycle hpre hhoming hrun
  · rw [← step_cycle, ← after_snoc] at hreferenced hposition
    rcases hattains with ⟨hnot, hbecomes⟩ | ⟨hnot, hbecomes⟩ | ⟨hmode, hmoves⟩
    · rw [hreferenced, hnot] at hbecomes
      exact nomatch hbecomes
    · rw [hnext.reported, hreferenced, ← hpre.reported, hnot] at hbecomes
      exact nomatch hbecomes
    · exact absurd (hposition hmode) hmoves

/-! ## A homing run -/

/-- A drive whose homing takes two cycles. -/
def twoCycleHoming : ServoProfile ExtRat := ⟨0.05, .motionServerDefault, []⟩

/-- A control word and the cycle that takes it. -/
def commanded (controlword : ℤ) : List (ServoEvent ExtRat) :=
  [.write (.command .controlword controlword), .cycle]

/-- The drive is enabled in homing mode, and homing is started. -/
def startedHoming : List (ServoEvent ExtRat) :=
  [.write (.command .modeOfOperation 6)] ++ commanded 0x0006 ++ commanded 0x0007 ++
    commanded 0x000F ++ commanded 0x001F

theorem homing_uninterrupted_started :
    Attains (after twoCycleHoming startedHoming) (after twoCycleHoming (startedHoming ++ [.cycle])) ∧
      HomingSince twoCycleHoming (startedHoming ++ [.cycle]) := by
  have hattains : Attains (after twoCycleHoming startedHoming)
      (after twoCycleHoming (startedHoming ++ [.cycle])) := Or.inl (by decide +kernel)
  exact ⟨hattains, homing_uninterrupted twoCycleHoming (startedHoming ++ [.cycle]) (by decide +kernel)
    startedHoming [] rfl hattains⟩

/-- The drive is switched off while it homes, and then enabled without a start. -/
def interruptedHoming : List (ServoEvent ExtRat) :=
  startedHoming ++ commanded 0x0006 ++ commanded 0x0007 ++ [.write (.command .controlword 0x000F)]

/-- **A homing run outlives an interruption.** Enabling the drive again attains homing, although the
start bit has not risen since the drive was switched off. -/
theorem homing_resumed :
    Attains (after twoCycleHoming interruptedHoming)
        (after twoCycleHoming (interruptedHoming ++ [.cycle])) ∧
      ¬ HomingSince twoCycleHoming (interruptedHoming ++ [.cycle]) := by
  refine ⟨Or.inl (by decide +kernel), fun hsince => ?_⟩
  rcases homingSince_cases hsince with hrises | ⟨henabled, -⟩
  · have hstays : ((after twoCycleHoming interruptedHoming).applyOdCommands twoCycleHoming).risingBit 4 =
        false := by decide +kernel
    exact absurd hrises (by rw [StartRises, hstays]; exact Bool.false_ne_true)
  · have hoff : (after twoCycleHoming interruptedHoming).sm = .switchedOn := by decide +kernel
    rw [hoff] at henabled
    exact nomatch henabled

end VirtualCiA402Servo

end MotionServer
