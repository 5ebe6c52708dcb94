import MotionServer.Runs.Moves
import MotionServer.Lib.Writes

/-!
# What a move that is refused leaves behind

The handlers check a request in several stages, and write between them.

* `Unchanged`: what the claims about a refused request compare;
* `World.moveProfile`, `World.ProfileKept`: the profile velocities that a request writes before it
  is checked to the end, and when the axes have them already;
* `World.VelocityKept`: the velocities that are commanded before the first that is out of range;
* `AbsoluteInvalid`, `RelativeInvalid`, `VelocityInvalid`: the requests that are refused;
* **`refused_moves_unchanged_iff`**: when a refused request leaves everything as it was.
-/

namespace MotionServer

variable {n : ℕ} {F : Type} [PyFloat F]

omit [PyFloat F] in
/-- Targets, settings, process data, modes and generators are the same. -/
structure Unchanged (w w' : World n F) : Prop where
  targetPositions : w'.targetPositions = w.targetPositions
  profileVelocity : w'.profileVelocity = w.profileVelocity
  settings : w'.settings = w.settings
  units : w'.units = w.units
  rxpdo : w'.rxpdo = w.rxpdo
  motionModes : w'.motionModes = w.motionModes
  generators : w'.generators = w.generators

omit [PyFloat F] in
theorem Unchanged.refl (w : World n F) : Unchanged w w := ⟨rfl, rfl, rfl, rfl, rfl, rfl, rfl⟩

/-! ## Profile velocities -/

/-- A profile velocity of the API, in drive units. -/
def World.driveVelocity (w : World n F) (a : Fin n) (value : F) : F :=
  (w.units a).motionApiToDrive value .velocity

/-- The axis takes the profile velocity: its process data has no such field, or the value fits. -/
def World.takesProfileVelocity (w : World n F) (p : Fin n × F) : Bool :=
  !(w.rxpdo p.1).hasField .profileVelocity || (requireUint32 (w.driveVelocity p.1 p.2)).isOk

/-- The process data with a profile velocity that was taken. -/
def RxPDO.takeProfileVelocity (rx : RxPDO) (velocity : F) : RxPDO :=
  if rx.hasField .profileVelocity then
    { rx with profileVelocity := (requireUint32 velocity).toOption.getD 0 }
  else rx

/-- The state after the profile velocities of a request, up to the first that is refused. -/
def World.withProfileVelocities (w : World n F) (pairs : List (Fin n × F)) : World n F :=
  { w with
    profileVelocity := writeEach (fun a value _ => w.driveVelocity a value)
      (attempted w.takesProfileVelocity pairs) w.profileVelocity
    rxpdo := writeEach (fun a value rx => rx.takeProfileVelocity (w.driveVelocity a value))
      (pairs.takeWhile w.takesProfileVelocity) w.rxpdo }

/-- What is written last at each axis is what it has. -/
structure World.ProfileKept (w : World n F) (pairs : List (Fin n × F)) : Prop where
  setting : ∀ a value, lastWrite (attempted w.takesProfileVelocity pairs) a = some value →
    w.driveVelocity a value = w.profileVelocity a
  field : ∀ a value, lastWrite (pairs.takeWhile w.takesProfileVelocity) a = some value →
    (w.rxpdo a).hasField .profileVelocity = true →
      requireUint32 (w.driveVelocity a value) = .ok (w.rxpdo a).profileVelocity

theorem takeProfileVelocity_hasField (rx : RxPDO) (velocity : F) (f : RxField) :
    (rx.takeProfileVelocity velocity).hasField f = rx.hasField f := by
  unfold RxPDO.takeProfileVelocity
  split_ifs <;> rfl

theorem takeProfileVelocity_overwrites (rx : RxPDO) (v v' : F) :
    (rx.takeProfileVelocity v').takeProfileVelocity v = rx.takeProfileVelocity v := by
  unfold RxPDO.takeProfileVelocity
  by_cases h : rx.hasField .profileVelocity = true
  · rw [if_pos h, if_pos h]
    exact if_pos h
  · rw [if_neg h, if_neg h]

theorem takeProfileVelocity_eq_self_iff {rx : RxPDO} {velocity : F}
    (h : rx.hasField .profileVelocity = true → (requireUint32 velocity).isOk = true) :
    rx.takeProfileVelocity velocity = rx ↔
      (rx.hasField .profileVelocity = true → requireUint32 velocity = .ok rx.profileVelocity) := by
  unfold RxPDO.takeProfileVelocity
  by_cases hfield : rx.hasField .profileVelocity = true
  · rw [if_pos hfield]
    cases hvelocity : requireUint32 velocity with
    | error e => simp [hvelocity, hfield, Except.toBool] at h
    | ok i =>
      constructor
      · intro hrx _
        exact congrArg Except.ok (congrArg RxPDO.profileVelocity hrx)
      · intro hi
        obtain rfl := Except.ok.inj (hi hfield)
        rfl
  · rw [if_neg hfield]
    exact ⟨fun _ hc => absurd hc hfield, fun _ => rfl⟩

/-- **When the profile velocities of a request change nothing.** -/
theorem unchanged_withProfileVelocities_iff (w : World n F) (pairs : List (Fin n × F)) :
    Unchanged w (w.withProfileVelocities pairs) ↔ w.ProfileKept pairs := by
  have hsetting := writeEach_eq_self_iff (f := w.profileVelocity)
    (l := attempted w.takesProfileVelocity pairs)
    (g := fun a value _ => w.driveVelocity a value) fun _ _ _ _ => rfl
  have hfield := writeEach_eq_self_iff (f := w.rxpdo)
    (l := pairs.takeWhile w.takesProfileVelocity)
    (g := fun a value rx => rx.takeProfileVelocity (w.driveVelocity a value))
    fun _ _ _ rx => takeProfileVelocity_overwrites rx _ _
  have htaken : ∀ a value, lastWrite (pairs.takeWhile w.takesProfileVelocity) a = some value →
      (w.rxpdo a).hasField .profileVelocity = true →
        (requireUint32 (w.driveVelocity a value)).isOk = true := by
    intro a value hlast hmapped
    have htakes := List.mem_takeWhile_imp (mem_of_lastWrite hlast)
    simpa [World.takesProfileVelocity, hmapped] using htakes
  constructor
  · intro h
    refine ⟨hsetting.mp h.profileVelocity, fun a value hlast => ?_⟩
    exact (takeProfileVelocity_eq_self_iff (htaken a value hlast)).mp
      (hfield.mp h.rxpdo a value hlast)
  · intro h
    refine ⟨rfl, hsetting.mpr h.setting, rfl, rfl, hfield.mpr fun a value hlast => ?_, rfl, rfl⟩
    exact (takeProfileVelocity_eq_self_iff (htaken a value hlast)).mpr (h.field a value hlast)

/-! ## Applying them -/

/-- One axis of `apply_move_profile_velocity`. -/
def applyProfileVelocity (p : Fin n × F) : Server n F Unit := do
  let w ← Prog.get
  let velocity := w.driveVelocity p.1 p.2
  Prog.modify fun w => { w with profileVelocity := Function.update w.profileVelocity p.1 velocity }
  Prog.onlyIf ((w.rxpdo p.1).hasField .profileVelocity = true) do
    let profileVelocity ← Prog.lift (requireUint32 velocity)
    Prog.modify fun w => w.setRxpdo p.1 fun rx => { rx with profileVelocity := profileVelocity }

theorem applyMoveProfileVelocity_eq (message : Message F) (axes : List (Fin n)) :
    applyMoveProfileVelocity message axes = (do
      let values ← Prog.lift (requestProfileVelocities message axes)
      (axes.zip values).forM applyProfileVelocity) := rfl

theorem applyProfileVelocity_run (w : World n F) (p : Fin n × F) :
    (applyProfileVelocity p w).2 = w.withProfileVelocities [p] ∧
      ((applyProfileVelocity p w).1 = .ok () ↔ w.takesProfileVelocity p = true) := by
  unfold applyProfileVelocity
  rw [Prog.bind_run_ok (Prog.get_run w), Prog.bind_run_ok (Prog.modify_run _ _)]
  by_cases hfield : (w.rxpdo p.1).hasField .profileVelocity = true
  · rw [Prog.onlyIf_run hfield]
    cases hvelocity : requireUint32 (w.driveVelocity p.1 p.2) with
    | error e =>
      have htakes : w.takesProfileVelocity p = false := by
        simp [World.takesProfileVelocity, hfield, hvelocity, Except.toBool]
      refine ⟨?_, by simp [Prog.bind_run, htakes]⟩
      simp [Prog.bind_run, World.withProfileVelocities, htakes, attempted_cons_of_neg, writeEach_cons]
    | ok i =>
      have htakes : w.takesProfileVelocity p = true := by
        simp [World.takesProfileVelocity, hvelocity, Except.toBool]
      refine ⟨?_, by simp [Prog.bind_run, htakes]⟩
      simp [Prog.bind_run, World.withProfileVelocities, htakes, attempted_cons_of_pos,
        writeEach_cons, World.setRxpdo, RxPDO.takeProfileVelocity, hfield, hvelocity,
        Except.toOption]
  · have htakes : w.takesProfileVelocity p = true := by
      simp [World.takesProfileVelocity, hfield]
    rw [Prog.onlyIf_run_of_not hfield]
    refine ⟨?_, by simp [htakes]⟩
    simp [World.withProfileVelocities, htakes, attempted_cons_of_pos, writeEach_cons,
      RxPDO.takeProfileVelocity, hfield]

theorem takesProfileVelocity_after (w : World n F) (pairs : List (Fin n × F)) :
    (w.withProfileVelocities pairs).takesProfileVelocity = w.takesProfileVelocity := by
  have hfield : ∀ (l : List (Fin n × F)) (rxpdo : Fin n → RxPDO) (a : Fin n),
      (writeEach (fun a value rx => rx.takeProfileVelocity (w.driveVelocity a value)) l rxpdo a
        ).hasField .profileVelocity = (rxpdo a).hasField .profileVelocity := by
    intro l rxpdo a
    rw [writeEach_apply fun _ _ _ rx => takeProfileVelocity_overwrites rx _ _]
    cases lastWrite l a with
    | none => rfl
    | some value => exact takeProfileVelocity_hasField _ _ _
  funext p
  unfold World.takesProfileVelocity
  congr 2
  exact hfield _ _ p.1

theorem withProfileVelocities_cons {w : World n F} {p : Fin n × F} (pairs : List (Fin n × F))
    (h : w.takesProfileVelocity p = true) :
    (w.withProfileVelocities [p]).withProfileVelocities pairs =
      w.withProfileVelocities (p :: pairs) := by
  have hsetting : (w.withProfileVelocities [p]).profileVelocity =
      Function.update w.profileVelocity p.1 (w.driveVelocity p.1 p.2) := by
    simp [World.withProfileVelocities, attempted_cons_of_pos, h, writeEach_cons]
  have hrxpdo : (w.withProfileVelocities [p]).rxpdo = Function.update w.rxpdo p.1
      ((w.rxpdo p.1).takeProfileVelocity (w.driveVelocity p.1 p.2)) := by
    simp [World.withProfileVelocities, h, writeEach_cons]
  have hall : w.withProfileVelocities (p :: pairs) = { w with
      profileVelocity := writeEach (fun a value _ => w.driveVelocity a value)
        (attempted w.takesProfileVelocity pairs)
        (Function.update w.profileVelocity p.1 (w.driveVelocity p.1 p.2))
      rxpdo := writeEach (fun a value rx => rx.takeProfileVelocity (w.driveVelocity a value))
        (pairs.takeWhile w.takesProfileVelocity) (Function.update w.rxpdo p.1
          ((w.rxpdo p.1).takeProfileVelocity (w.driveVelocity p.1 p.2))) } := by
    simp [World.withProfileVelocities, attempted_cons_of_pos, h, writeEach_cons]
  rw [hall, World.withProfileVelocities, takesProfileVelocity_after, hsetting, hrxpdo]
  rfl

/-- **The profile velocities of a request are written up to the first that is refused.** -/
theorem forM_applyProfileVelocity (w : World n F) (pairs : List (Fin n × F)) :
    (pairs.forM applyProfileVelocity w).2 = w.withProfileVelocities pairs ∧
      ((pairs.forM applyProfileVelocity w).1 = .ok () ↔
        ∀ p ∈ pairs, w.takesProfileVelocity p = true) := by
  induction pairs generalizing w with
  | nil => exact ⟨rfl, by simp⟩
  | cons p pairs ih =>
    obtain ⟨hstate, hok⟩ := applyProfileVelocity_run w p
    have hcons : (p :: pairs).forM applyProfileVelocity =
        (applyProfileVelocity p >>= fun _ => pairs.forM applyProfileVelocity) := rfl
    rw [hcons]
    cases htakes : w.takesProfileVelocity p with
    | false =>
      cases hrun : applyProfileVelocity p w with
      | mk r w₁ =>
        rw [hrun] at hstate hok
        cases r with
        | ok u => exact absurd (hok.mp rfl) (by simp [htakes])
        | error e =>
          rw [Prog.bind_run_error hrun]
          refine ⟨?_, by simp [htakes]⟩
          rw [show w₁ = _ from hstate]
          simp [World.withProfileVelocities, attempted_cons_of_neg, htakes]
    | true =>
      have hrun := Prog.run_eta (hok.mpr htakes)
      rw [Prog.bind_run_ok hrun, hstate]
      obtain ⟨hrest, hall⟩ := ih (w.withProfileVelocities [p])
      rw [hrest, withProfileVelocities_cons pairs htakes, hall, takesProfileVelocity_after]
      exact ⟨rfl, by simp [htakes]⟩

/-! ## Position moves -/

section Positions

variable {α : Type}

/-- The profile velocities of a request whose axes and values can be read. -/
def moveProfile (message : Message F) (read : List (Fin n) → Except PyExc α) :
    Except PyExc (List (Fin n × F)) := do
  let axes ← selectedAxes n message
  let _ ← read axes
  let values ← requestProfileVelocities message axes
  pure (axes.zip values)

/-- `move_absolute` and `move_relative` up to their first checks of the axes. -/
def prepareMove (message : Message F) (read : List (Fin n) → Except PyExc α) :
    Server n F (List (Fin n) × α) := do
  let axes ← Prog.lift (selectedAxes n message)
  let values ← Prog.lift (read axes)
  applyMoveProfileVelocity message axes
  pure (axes, values)

/-- The request cannot be read, or an axis does not take its profile velocity. -/
def World.ProfileInvalid (w : World n F) (message : Message F)
    (read : List (Fin n) → Except PyExc α) : Prop :=
  ∀ pairs, moveProfile message read = .ok pairs → ∃ p ∈ pairs, w.takesProfileVelocity p = false

/-- What the request writes before its last check is what the axes have. -/
def World.MoveKept (w : World n F) (message : Message F) (read : List (Fin n) → Except PyExc α) :
    Prop :=
  ∀ pairs, moveProfile message read = .ok pairs → w.ProfileKept pairs

variable {message : Message F} {read : List (Fin n) → Except PyExc α} {w : World n F}

theorem prepareMove_of_error {e : PyExc} (h : moveProfile message read = .error e) :
    prepareMove message read w = (.error e, w) := by
  unfold moveProfile at h
  unfold prepareMove
  cases hselected : selectedAxes n message with
  | error e' =>
    rw [hselected] at h
    obtain rfl := Except.error.inj h
    rfl
  | ok axes =>
    rw [hselected, Except.ok_bind] at h
    cases hread : read axes with
    | error e' =>
      rw [hread] at h
      obtain rfl := Except.error.inj h
      rw [Prog.bind_run_ok (Prog.lift_run _ w), hread]
      rfl
    | ok values =>
      rw [hread, Except.ok_bind] at h
      rw [Prog.bind_run_ok (Prog.lift_run _ w), hread, Prog.bind_run_ok (Prog.lift_run _ w),
        applyMoveProfileVelocity_eq]
      cases hprofile : requestProfileVelocities message axes with
      | error e' =>
        rw [hprofile] at h
        obtain rfl := Except.error.inj h
        rfl
      | ok velocities =>
        rw [hprofile] at h
        cases h

theorem prepareMove_of_ok {pairs : List (Fin n × F)} (h : moveProfile message read = .ok pairs) :
    ∃ axes values, selectedAxes n message = .ok axes ∧ read axes = .ok values ∧
      prepareMove message read w = (do
        pairs.forM applyProfileVelocity
        pure (axes, values) : Server n F (List (Fin n) × α)) w := by
  obtain ⟨axes, hselected, h⟩ := Except.bind_eq_ok.mp h
  obtain ⟨values, hread, h⟩ := Except.bind_eq_ok.mp h
  obtain ⟨velocities, hvelocities, h⟩ := Except.bind_eq_ok.mp h
  obtain rfl := Except.ok.inj h
  refine ⟨axes, values, hselected, hread, ?_⟩
  unfold prepareMove
  rw [hselected, Prog.bind_run_ok (Prog.lift_run _ w), hread, Prog.bind_run_ok (Prog.lift_run _ w),
    applyMoveProfileVelocity_eq, hvelocities]
  rfl

/-- **A move that is refused leaves everything as it was exactly when the axes have the profile
velocities it writes.** -/
theorem refused_unchanged_iff (command : String) (rest : List (Fin n) × α → Server n F Unit)
    (h : w.ProfileInvalid message read ∨ ∀ axes values pairs, selectedAxes n message = .ok axes →
      read axes = .ok values → ∃ e, rest (axes, values) (w.withProfileVelocities pairs) =
        (.error e, w.withProfileVelocities pairs)) :
    ∃ e w', (rejecting command (prepareMove message read) >>= rest) w = (.error e, w') ∧
      (Unchanged w w' ↔ w.MoveKept message read) := by
  cases hprofile : moveProfile message read with
  | error e =>
    refine ⟨operationRejected command, w, ?_, ?_⟩
    · refine Prog.bind_run_error ?_
      rw [rejecting, Prog.tryCatch_run, prepareMove_of_error hprofile]
      rfl
    · refine ⟨fun _ pairs hpairs => ?_, fun _ => Unchanged.refl w⟩
      rw [hprofile] at hpairs
      cases hpairs
  | ok pairs =>
    obtain ⟨axes, values, hselected, hread, hprepare⟩ := prepareMove_of_ok (w := w) hprofile
    obtain ⟨hstate, hok⟩ := forM_applyProfileVelocity w pairs
    have hkept : Unchanged w (w.withProfileVelocities pairs) ↔ w.MoveKept message read := by
      rw [unchanged_withProfileVelocities_iff]
      refine ⟨fun hpairs pairs' h' => ?_, fun hall => hall pairs hprofile⟩
      obtain rfl := Except.ok.inj (hprofile.symm.trans h')
      exact hpairs
    cases hrun : pairs.forM applyProfileVelocity w with
    | mk r w₁ =>
      rw [hrun] at hstate hok
      dsimp only at hstate
      subst hstate
      cases r with
      | error e =>
        refine ⟨operationRejected command, _, Prog.bind_run_error ?_, hkept⟩
        rw [rejecting, Prog.tryCatch_run, hprepare, Prog.bind_run_error hrun]
        rfl
      | ok u =>
        have htaken := hok.mp rfl
        rcases h with hinvalid | hrest
        · obtain ⟨p, hp, hnot⟩ := hinvalid pairs hprofile
          rw [htaken p hp] at hnot
          cases hnot
        · obtain ⟨e, he⟩ := hrest axes values pairs hselected hread
          refine ⟨e, _, ?_, hkept⟩
          refine (Prog.bind_run_ok ?_).trans he
          rw [rejecting, Prog.tryCatch_run, hprepare, Prog.bind_run_ok hrun]
          rfl

end Positions

theorem rejectIfAnyDriveFaulted_run {w : World n F} (command : String) (h : w.faultedAxes = []) :
    rejectIfAnyDriveFaulted command w = (.ok (), w) := by
  unfold rejectIfAnyDriveFaulted
  rw [Prog.bind_run_ok (Prog.get_run w), Prog.onlyIf_run_of_not (not_not.mpr h)]

theorem commandPositionAxes_disabled (env : Env n F) {axes : List (Fin n)} {w : World n F}
    (positions : Fin n → F) (command : String) (hfault : w.faultedAxes = [])
    (hdisabled : w.disabledOperationAxes axes ≠ []) :
    commandPositionAxes env axes positions command w = (.error (operationRejected command), w) := by
  unfold commandPositionAxes
  rw [Prog.bind_run_ok (rejectIfAnyDriveFaulted_run command hfault)]
  exact Prog.bind_run_error (rejectIfAnyAxisDisabled_run_of_ne command hdisabled)

/-- An absolute move is refused: it cannot be read, or an axis does not take its profile velocity,
is not referenced or is not enabled. -/
def World.AbsoluteInvalid (w : World n F) (message : Message F) : Prop :=
  w.ProfileInvalid message (axisPositionsFromMessage w message) ∨
    ∀ axes, selectedAxes n message = .ok axes →
      (∃ a ∈ axes, (w.txpdo a).referenced = false) ∨ w.disabledOperationAxes axes ≠ []

/-- A relative move is refused: it cannot be read, or an axis does not take its profile velocity,
would leave the range of positions or is not enabled. -/
def World.RelativeInvalid (w : World n F) (message : Message F) : Prop :=
  w.ProfileInvalid message (axisDistancesFromMessage w message) ∨
    ∀ axes distances, selectedAxes n message = .ok axes →
      axisDistancesFromMessage w message axes = .ok distances →
        (∃ e, relativeTargets w axes distances = .error e) ∨ w.disabledOperationAxes axes ≠ []

theorem moveAbsolute_unchanged_iff (env : Env n F) {message : Message F} {w : World n F}
    (hfault : w.faultedAxes = []) (h : w.AbsoluteInvalid message) :
    ∃ e w', moveAbsolute env message w = (.error e, w') ∧
      (Unchanged w w' ↔ w.MoveKept message (axisPositionsFromMessage w message)) := by
  refine refused_unchanged_iff (commandName message) (fun moved => do
    let w ← Prog.get
    Prog.raiseIf (∃ a ∈ moved.1, (w.txpdo a).referenced = false)
      (operationRejected (commandName message))
    commandPositionAxes env moved.1 moved.2 (commandName message)) ?_
  refine h.imp_right fun hlate axes positions pairs hselected _ => ?_
  refine ⟨operationRejected (commandName message), ?_⟩
  dsimp only
  rw [Prog.bind_run_ok (Prog.get_run _)]
  by_cases hreferenced : ∃ a ∈ axes, (w.txpdo a).referenced = false
  · refine Prog.bind_run_error ?_
    rw [Prog.raiseIf_run]
    exact congrArg (·, _) (if_pos hreferenced)
  · have hpassed : Prog.raiseIf (∃ a ∈ axes, (w.txpdo a).referenced = false)
        (operationRejected (commandName message)) (w.withProfileVelocities pairs) =
          (.ok (), w.withProfileVelocities pairs) := by
      rw [Prog.raiseIf_run, if_neg hreferenced]
    refine (Prog.bind_run_ok hpassed).trans ?_
    exact commandPositionAxes_disabled env positions _ hfault
      ((hlate axes hselected).resolve_left hreferenced)

theorem moveRelative_unchanged_iff (env : Env n F) {message : Message F} {w : World n F}
    (hfault : w.faultedAxes = []) (h : w.RelativeInvalid message) :
    ∃ e w', moveRelative env message w = (.error e, w') ∧
      (Unchanged w w' ↔ w.MoveKept message (axisDistancesFromMessage w message)) := by
  refine refused_unchanged_iff (commandName message) (fun moved => do
    let w ← Prog.get
    let positions ← Prog.lift (relativeTargets w moved.1 moved.2)
    commandPositionAxes env moved.1 positions (commandName message)) ?_
  refine h.imp_right fun hlate axes distances pairs hselected hread => ?_
  dsimp only
  rw [Prog.bind_run_ok (Prog.get_run _)]
  have htargets : relativeTargets (w.withProfileVelocities pairs) axes distances =
      relativeTargets w axes distances := rfl
  cases hpositions : relativeTargets w axes distances with
  | error e =>
    refine ⟨e, Prog.bind_run_error ?_⟩
    rw [Prog.lift_run, htargets, hpositions]
  | ok positions =>
    refine ⟨operationRejected (commandName message), ?_⟩
    rw [htargets, hpositions, Prog.bind_run_ok (Prog.lift_run _ _)]
    refine commandPositionAxes_disabled env positions _ hfault ?_
    refine (hlate axes distances hselected hread).resolve_left ?_
    rintro ⟨e, he⟩
    rw [hpositions] at he
    cases he

/-! ## Velocity moves -/

/-- The velocity fits in its field. -/
def takesVelocity (p : Fin n × F) : Bool := (requireInt32 p.2).isOk

/-- The process data of an axis that is commanded to a velocity. -/
def RxPDO.commandVelocity (rx : RxPDO) (velocity : F) : RxPDO :=
  { rx with
    modeOfOperation := MotionMode.pv.code
    targetVelocity := (requireInt32 velocity).toOption.getD 0
    controlword := 0x000F }

/-- The generator of an axis that is commanded to a velocity. -/
def World.commandedGenerator (w : World n F) (a : Fin n) (velocity : F)
    (g : CspTrajectoryGenerator F) : CspTrajectoryGenerator F :=
  { g with
    commandVelocity := velocity
    targetPosition := w.actualPosition a
    commandPosition := w.actualPosition a }

/-- The state after velocities of axes that are in PV mode already. -/
def World.commanded (w : World n F) (pairs : List (Fin n × F)) : World n F :=
  { w with
    rxpdo := writeEach (fun _ velocity rx => rx.commandVelocity velocity) pairs w.rxpdo
    generators := writeEach w.commandedGenerator pairs w.generators }

/-- The velocities before the first that is out of range are those that the axes are commanded to
already. -/
def World.VelocityKept (w : World n F) (pairs : List (Fin n × F)) : Prop :=
  ∀ a velocity, lastWrite (pairs.takeWhile takesVelocity) a = some velocity →
    w.motionModes a = .pv ∧ (w.rxpdo a).commandVelocity velocity = w.rxpdo a ∧
      w.commandedGenerator a velocity (w.generators a) = w.generators a

/-- The step of `command_profile_velocities` for a pair. -/
def commandVelocityOf (env : Env n F) (p : Fin n × F) : Server n F Unit :=
  commandProfileVelocity env p.1 p.2

/-- Everything that a velocity command does before an axis is in PV mode keeps the modes. -/
theorem motionModes_calm (env : Env n F) :
    Frame.Calm (Prog.Frame.eqOn fun w : World n F => w.motionModes) env fun _ => True where
  inert _ _ h := h.motionModes
  setGenerators _ _ _ := rfl
  setRxpdo _ _ _ _ := rfl
  setTargets _ _ _ := rfl
  exchange := keeps_exchange (fun _ _ h => h.motionModes) (fun _ _ _ _ _ => rfl)
    (fun _ _ _ => rfl) (fun _ => rfl) fun _ _ _ => rfl

theorem switchToPv_modes {env : Env n F} {a : Fin n} {w w' : World n F}
    (h : switchToPv env a w = (.ok (), w')) :
    w'.motionModes = Function.update w.motionModes a .pv := by
  unfold switchToPv at h
  rw [Prog.bind_run_ok (Prog.get_run w)] at h
  by_cases hmode : w.motionModes a = .pv
  · rw [Prog.onlyIf_run_of_not (not_not.mpr hmode)] at h
    cases h
    rw [← hmode, Function.update_eq_self]
  · rw [Prog.onlyIf_run hmode] at h
    obtain ⟨_, w₁, hhold, h⟩ := Prog.bind_eq_ok.mp h
    obtain ⟨_, w₂, hconfigure, h⟩ := Prog.bind_eq_ok.mp h
    have h₁ := (motionModes_calm env).holdAxisAtActualPosition trivial (a := a) w
    have h₂ := (motionModes_calm env).configureMotionMode .pv trivial (a := a) w₁
    rw [hhold] at h₁
    rw [hconfigure] at h₂
    cases h
    show Function.update w₂.motionModes a .pv = _
    rw [show w₂.motionModes = w₁.motionModes from h₂, show w₁.motionModes = w.motionModes from h₁]

theorem switchToPv_pv (env : Env n F) {a : Fin n} {w : World n F} (h : w.motionModes a = .pv) :
    switchToPv env a w = (.ok (), w) := by
  unfold switchToPv
  rw [Prog.bind_run_ok (Prog.get_run _), Prog.onlyIf_run_of_not (not_not.mpr h)]

omit [PyFloat F] in
theorem requirePdoFieldsForMode_ok {mode : MotionMode} {a : Fin n} {w w' : World n F} {u : Unit}
    (h : requirePdoFieldsForMode mode a w = (.ok u, w')) :
    w.HasPdoFieldsForMode mode a ∧ w' = w := by
  unfold requirePdoFieldsForMode at h
  rw [Prog.bind_run_ok (Prog.get_run w)] at h
  obtain ⟨hfields, rfl⟩ := Prog.raiseIf_eq_ok.mp h
  exact ⟨not_not.mp hfields, rfl⟩

/-- The steps of a velocity that is commanded. -/
theorem commandVelocityOf_ok {env : Env n F} {p : Fin n × F} {w w' : World n F}
    (h : commandVelocityOf env p w = (.ok (), w')) :
    ∃ i w₁, requireInt32 p.2 = .ok i ∧
      switchToPv env p.1 (w.setRxpdo p.1 fun rx => { rx with targetVelocity := i }) = (.ok (), w₁) ∧
      w' = (w₁.setRxpdo p.1 fun rx => { rx with
        modeOfOperation := MotionMode.pv.code
        targetVelocity := i
        controlword := 0x000F }).setGenerator p.1
          (w₁.commandedGenerator p.1 p.2 (w₁.generators p.1)) := by
  unfold commandVelocityOf commandProfileVelocity at h
  obtain ⟨_, w₁, hfields, h₁⟩ := Prog.bind_eq_ok.mp h
  obtain ⟨-, rfl⟩ := requirePdoFieldsForMode_ok hfields
  obtain ⟨i, w₂, hlift, h₂⟩ := Prog.bind_eq_ok.mp h₁
  obtain ⟨hvelocity, rfl⟩ := Prog.lift_eq_ok.mp hlift
  rw [Prog.bind_run_ok (Prog.modify_run _ _)] at h₂
  obtain ⟨_, w₃, hswitch, h₃⟩ := Prog.bind_eq_ok.mp h₂
  rw [Prog.bind_run_ok (Prog.modify_run _ _)] at h₃
  cases h₃
  exact ⟨i, w₃, hvelocity, hswitch, rfl⟩

/-- A velocity that is commanded fits, and its axis is in PV mode then. -/
theorem commandVelocityOf_modes {env : Env n F} {p : Fin n × F} {w w' : World n F}
    (h : commandVelocityOf env p w = (.ok (), w')) :
    takesVelocity p = true ∧ w'.motionModes = Function.update w.motionModes p.1 .pv := by
  obtain ⟨i, w₁, hvelocity, hswitch, rfl⟩ := commandVelocityOf_ok h
  constructor
  · rw [takesVelocity, hvelocity]
    rfl
  · have hmodes := switchToPv_modes hswitch
    exact hmodes

/-- An axis that is in PV mode already is commanded without an exchange. -/
theorem commandVelocityOf_pv {env : Env n F} {p : Fin n × F} {w w' : World n F}
    (hmode : w.motionModes p.1 = .pv) (h : commandVelocityOf env p w = (.ok (), w')) :
    w' = w.commanded [p] := by
  obtain ⟨i, w₁, hvelocity, hswitch, rfl⟩ := commandVelocityOf_ok h
  have hstay := switchToPv_pv env (w := w.setRxpdo p.1 fun rx => { rx with targetVelocity := i })
    (a := p.1) hmode
  obtain rfl := congrArg Prod.snd (hstay.symm.trans hswitch)
  simp only [World.commanded, World.setRxpdo, World.setGenerator, RxPDO.commandVelocity,
    writeEach_cons, writeEach_nil, Function.update_self, Function.update_idem, hvelocity,
    Except.toOption, Option.getD_some]
  rfl

theorem commanded_cons (w : World n F) (p : Fin n × F) (pairs : List (Fin n × F)) :
    (w.commanded [p]).commanded pairs = w.commanded (p :: pairs) := rfl

/-- **Velocities that are commanded leave their axes in PV mode.** -/
theorem forM_commandVelocityOf_modes {env : Env n F} {pairs : List (Fin n × F)} {w w' : World n F}
    (h : pairs.forM (commandVelocityOf env) w = (.ok (), w')) :
    (∀ p ∈ pairs, takesVelocity p = true ∧ w'.motionModes p.1 = .pv) ∧
      ∀ a, w.motionModes a = .pv → w'.motionModes a = .pv := by
  induction pairs generalizing w with
  | nil =>
    cases h
    exact ⟨fun p hp => absurd hp List.not_mem_nil, fun _ ha => ha⟩
  | cons p pairs ih =>
    obtain ⟨_, w₁, hstep, hrest⟩ := Prog.bind_eq_ok.mp h
    obtain ⟨htakes, hmodes⟩ := commandVelocityOf_modes hstep
    obtain ⟨hall, hkept⟩ := ih hrest
    constructor
    · intro q hq
      rcases List.mem_cons.mp hq with rfl | hq
      · refine ⟨htakes, hkept q.1 ?_⟩
        rw [hmodes, Function.update_self]
      · exact hall q hq
    · intro a ha
      apply hkept
      rw [hmodes]
      by_cases hap : a = p.1
      · rw [hap, Function.update_self]
      · rw [Function.update_of_ne hap, ha]

theorem forM_commandVelocityOf_pv {env : Env n F} {pairs : List (Fin n × F)} {w w' : World n F}
    (hmodes : ∀ p ∈ pairs, w.motionModes p.1 = .pv)
    (h : pairs.forM (commandVelocityOf env) w = (.ok (), w')) : w' = w.commanded pairs := by
  induction pairs generalizing w with
  | nil =>
    cases h
    rfl
  | cons p pairs ih =>
    obtain ⟨_, w₁, hstep, hrest⟩ := Prog.bind_eq_ok.mp h
    obtain rfl := commandVelocityOf_pv (hmodes p List.mem_cons_self) hstep
    rw [ih (w := w.commanded [p]) (fun q hq => hmodes q (List.mem_cons_of_mem _ hq)) hrest,
      commanded_cons]

/-- A velocity move is refused: it cannot be read, an axis is not enabled or may not be moved so,
or the velocities before one that is out of range are commanded. -/
def World.VelocityInvalid (env : Env n F) (w : World n F) (message : Message F) : Prop :=
  ∀ axes velocities, selectedAxes n message = .ok axes →
    axisVelocitiesFromMessage w message axes = .ok velocities →
      w.disabledOperationAxes axes = [] → (∀ a ∈ axes, (w.units a).pvAllowed = true) →
        ∃ done p rest w₁, axes.zip velocities = done ++ p :: rest ∧
          done.forM (commandVelocityOf env) w = (.ok (), w₁) ∧
          w₁.HasPdoFieldsForMode .pv p.1 ∧ takesVelocity p = false

/-- What the request commands before its last check is commanded already. -/
def World.VelocityMoveKept (w : World n F) (message : Message F) : Prop :=
  ∀ axes velocities, selectedAxes n message = .ok axes →
    axisVelocitiesFromMessage w message axes = .ok velocities →
      w.disabledOperationAxes axes = [] → (∀ a ∈ axes, (w.units a).pvAllowed = true) →
        w.VelocityKept (axes.zip velocities)

theorem commandVelocity_overwrites (rx : RxPDO) (v v' : F) :
    (rx.commandVelocity v').commandVelocity v = rx.commandVelocity v := rfl

/-- **When velocities that were commanded change nothing.** -/
theorem unchanged_commandVelocityOf_iff {env : Env n F} {pairs : List (Fin n × F)}
    (rest : List (Fin n × F)) {p : Fin n × F} {w w' : World n F}
    (h : pairs.forM (commandVelocityOf env) w = (.ok (), w')) (hp : takesVelocity p = false) :
    Unchanged w w' ↔ w.VelocityKept (pairs ++ p :: rest) := by
  obtain ⟨hall, -⟩ := forM_commandVelocityOf_modes h
  have hdone : (pairs ++ p :: rest).takeWhile takesVelocity = pairs := by
    rw [List.takeWhile_append_of_pos fun q hq => (hall q hq).1,
      List.takeWhile_cons_of_neg (by simp [hp]), List.append_nil]
  have hrxpdo := writeEach_eq_self_iff (f := w.rxpdo) (l := pairs)
    (g := fun _ velocity rx => rx.commandVelocity velocity)
    fun _ _ _ rx => commandVelocity_overwrites rx _ _
  have hgenerators := writeEach_eq_self_iff (f := w.generators) (l := pairs)
    (g := w.commandedGenerator) fun _ _ _ _ => rfl
  unfold World.VelocityKept
  rw [hdone]
  constructor
  · intro hsame a velocity hlast
    have hmodes : ∀ q ∈ pairs, w.motionModes q.1 = .pv := by
      intro q hq
      rw [← hsame.motionModes]
      exact (hall q hq).2
    obtain rfl := forM_commandVelocityOf_pv hmodes h
    exact ⟨hmodes _ (mem_of_lastWrite hlast), hrxpdo.mp hsame.rxpdo a velocity hlast,
      hgenerators.mp hsame.generators a velocity hlast⟩
  · intro hkept
    have hmodes : ∀ q ∈ pairs, w.motionModes q.1 = .pv := by
      intro q hq
      obtain ⟨velocity, hlast⟩ := exists_lastWrite hq
      exact (hkept q.1 velocity hlast).1
    obtain rfl := forM_commandVelocityOf_pv hmodes h
    exact ⟨rfl, rfl, rfl, rfl, hrxpdo.mpr fun a velocity hlast => (hkept a velocity hlast).2.1, rfl,
      hgenerators.mpr fun a velocity hlast => (hkept a velocity hlast).2.2⟩

/-- The checks of a velocity move before any velocity is commanded. -/
theorem commandProfileVelocities_guarded (env : Env n F) {axes : List (Fin n)} {w : World n F}
    (velocities : List F) (command : String) (hfault : w.faultedAxes = [])
    (h : ¬ (w.disabledOperationAxes axes = [] ∧ ∀ a ∈ axes, (w.units a).pvAllowed = true)) :
    commandProfileVelocities env axes velocities command w =
      (.error (operationRejected command), w) := by
  unfold commandProfileVelocities
  rw [Prog.bind_run_ok (rejectIfAnyDriveFaulted_run command hfault)]
  by_cases hdisabled : w.disabledOperationAxes axes = []
  · rw [Prog.bind_run_ok (rejectIfAnyAxisDisabled_run command hdisabled)]
    refine Prog.bind_run_error ?_
    unfold rejectIfPvNotAllowed
    rw [Prog.bind_run_ok (Prog.get_run w), Prog.raiseIf_run, if_pos]
    by_contra hall
    refine h ⟨hdisabled, fun a ha => ?_⟩
    by_contra hnot
    exact hall ⟨a, ha, by simpa using hnot⟩
  · exact Prog.bind_run_error (rejectIfAnyAxisDisabled_run_of_ne command hdisabled)

/-- The velocities before one that is out of range are commanded. -/
theorem commandProfileVelocities_refused (env : Env n F) {axes : List (Fin n)} {w w₁ : World n F}
    {velocities : List F} {done rest : List (Fin n × F)} {p : Fin n × F} (command : String)
    (hfault : w.faultedAxes = []) (hdisabled : w.disabledOperationAxes axes = [])
    (hallowed : ∀ a ∈ axes, (w.units a).pvAllowed = true)
    (hpairs : axes.zip velocities = done ++ p :: rest)
    (hdone : done.forM (commandVelocityOf env) w = (.ok (), w₁))
    (hfields : w₁.HasPdoFieldsForMode .pv p.1) (hp : takesVelocity p = false) :
    ∃ e, commandProfileVelocities env axes velocities command w = (.error e, w₁) := by
  have hrefused : ∃ e, commandVelocityOf env p w₁ = (.error e, w₁) := by
    unfold takesVelocity at hp
    unfold commandVelocityOf commandProfileVelocity requirePdoFieldsForMode
    cases hvelocity : requireInt32 p.2 with
    | ok i => simp [hvelocity, Except.toBool] at hp
    | error e =>
      refine ⟨e, ?_⟩
      simp [Prog.bind_run, Prog.raiseIf_run, hfields]
  obtain ⟨e, hrefused⟩ := hrefused
  have hallowed' : ¬ ∃ a ∈ axes, (w.units a).pvAllowed = false := by
    rintro ⟨a, ha, hnot⟩
    rw [hallowed a ha] at hnot
    cases hnot
  refine ⟨e, ?_⟩
  unfold commandProfileVelocities
  rw [Prog.bind_run_ok (rejectIfAnyDriveFaulted_run command hfault),
    Prog.bind_run_ok (rejectIfAnyAxisDisabled_run command hdisabled)]
  have hpassed : rejectIfPvNotAllowed axes command w = (.ok (), w) := by
    unfold rejectIfPvNotAllowed
    rw [Prog.bind_run_ok (Prog.get_run w), Prog.raiseIf_run, if_neg hallowed']
  rw [Prog.bind_run_ok hpassed, hpairs]
  exact Prog.bind_run_error (Prog.forM_run_error hdone hrefused)

theorem moveVelocity_unchanged_iff (env : Env n F) {message : Message F} {w : World n F}
    (hfault : w.faultedAxes = []) (h : w.VelocityInvalid env message) :
    ∃ e w', moveVelocity env message w = (.error e, w') ∧
      (Unchanged w w' ↔ w.VelocityMoveKept message) := by
  have hrun : moveVelocity env message w = (rejecting (commandName message) (Prog.lift (do
      let axes ← selectedAxes n message
      pure (axes, ← axisVelocitiesFromMessage w message axes))) >>= fun moved =>
        commandProfileVelocities env moved.1 moved.2 (commandName message)) w := rfl
  rw [hrun]
  cases hselected : selectedAxes n message with
  | error e =>
    refine ⟨_, w, rfl, fun _ axes velocities h₁ => ?_, fun _ => Unchanged.refl w⟩
    rw [hselected] at h₁
    cases h₁
  | ok axes =>
    cases hvelocities : axisVelocitiesFromMessage w message axes with
    | error e =>
      refine ⟨operationRejected (commandName message), w, ?_, fun _ axes' velocities h₁ h₂ => ?_,
        fun _ => Unchanged.refl w⟩
      · refine Prog.bind_run_error ?_
        rw [rejecting, Prog.tryCatch_run, Prog.lift_run, Except.ok_bind, hvelocities]
        rfl
      · obtain rfl := Except.ok.inj (hselected.symm.trans h₁)
        rw [hvelocities] at h₂
        cases h₂
    | ok velocities =>
      have hmoved : rejecting (commandName message) (Prog.lift (do
          let axes ← (.ok axes : Except PyExc (List (Fin n)))
          pure (axes, ← axisVelocitiesFromMessage w message axes))) w =
            (.ok (axes, velocities), w) := by
        rw [rejecting, Prog.tryCatch_run, Prog.lift_run, Except.ok_bind, hvelocities]
        rfl
      rw [Prog.bind_run_ok hmoved]
      have honly : ∀ P : List (Fin n) → List F → Prop, (∀ axes velocities,
          selectedAxes n message = .ok axes →
            axisVelocitiesFromMessage w message axes = .ok velocities → P axes velocities) ↔
          P axes velocities := by
        intro P
        refine ⟨fun hall => hall axes velocities hselected hvelocities,
          fun hP axes' velocities' h₁ h₂ => ?_⟩
        obtain rfl := Except.ok.inj (hselected.symm.trans h₁)
        obtain rfl := Except.ok.inj (hvelocities.symm.trans h₂)
        exact hP
      by_cases hguards : w.disabledOperationAxes axes = [] ∧
          ∀ a ∈ axes, (w.units a).pvAllowed = true
      · obtain ⟨hdisabled, hallowed⟩ := hguards
        obtain ⟨done, p, rest, w₁, hpairs, hdone, hfields, hp⟩ :=
          h axes velocities hselected hvelocities hdisabled hallowed
        obtain ⟨e, he⟩ := commandProfileVelocities_refused env (commandName message) hfault hdisabled
          hallowed hpairs hdone hfields hp
        refine ⟨e, w₁, he, ?_⟩
        rw [unchanged_commandVelocityOf_iff rest hdone hp, ← hpairs]
        exact ⟨fun hkept => (honly _).mpr fun _ _ => hkept,
          fun hkept => (honly _).mp hkept hdisabled hallowed⟩
      · refine ⟨_, w, commandProfileVelocities_guarded env velocities _ hfault hguards, ?_⟩
        exact ⟨fun _ => (honly _).mpr fun h₁ h₂ => absurd ⟨h₁, h₂⟩ hguards,
          fun _ => Unchanged.refl w⟩

/-! ## All moves -/

/-- **What a refused move changes.** Where no drive is faulted, a move that its checks refuse leaves
targets, settings, process data, modes and generators as they were exactly when what it writes
before the check that fails is there already. -/
theorem refused_moves_unchanged_iff (env : Env n F) (message : Message F) (w : World n F)
    (hfault : w.faultedAxes = []) :
    (w.AbsoluteInvalid message → ∃ e w', moveAbsolute env message w = (.error e, w') ∧
      (Unchanged w w' ↔ w.MoveKept message (axisPositionsFromMessage w message))) ∧
    (w.RelativeInvalid message → ∃ e w', moveRelative env message w = (.error e, w') ∧
      (Unchanged w w' ↔ w.MoveKept message (axisDistancesFromMessage w message))) ∧
    (w.VelocityInvalid env message → ∃ e w', moveVelocity env message w = (.error e, w') ∧
      (Unchanged w w' ↔ w.VelocityMoveKept message)) :=
  ⟨moveAbsolute_unchanged_iff env hfault, moveRelative_unchanged_iff env hfault,
    moveVelocity_unchanged_iff env hfault⟩

/-- A request whose position cannot be moved to without a reference, whose distance is out of range
and whose velocity asks for a mode that the axis has not. -/
def unreferencedMove : Message ExtRat :=
  [("positions", .list [.int 0]), ("distances", .list [.int (2 ^ 40)]),
    ("velocities", .list [.int 5]), ("profile_velocity", .int 1)]

theorem refused_moves_unreferenced :
    (∃ e w', moveAbsolute (Env.quiet fun _ => enabledDrive) unreferencedMove (unitServer 1) =
      (.error e, w') ∧ (Unchanged (unitServer 1) w' ↔ (unitServer 1).MoveKept unreferencedMove
        (axisPositionsFromMessage (unitServer 1) unreferencedMove))) ∧
    (∃ e w', moveRelative (Env.quiet fun _ => enabledDrive) unreferencedMove (unitServer 1) =
      (.error e, w') ∧ (Unchanged (unitServer 1) w' ↔ (unitServer 1).MoveKept unreferencedMove
        (axisDistancesFromMessage (unitServer 1) unreferencedMove))) ∧
    ∃ e w', moveVelocity (Env.quiet fun _ => enabledDrive) unreferencedMove (unitServer 1) =
      (.error e, w') ∧
      (Unchanged (unitServer 1) w' ↔ (unitServer 1).VelocityMoveKept unreferencedMove) := by
  obtain ⟨habsolute, hrelative, hvelocity⟩ := refused_moves_unchanged_iff
    (Env.quiet fun _ => enabledDrive) unreferencedMove (unitServer 1) (by decide)
  have haxes : selectedAxes 1 unreferencedMove = .ok [0] := by decide +kernel
  refine ⟨habsolute (Or.inr fun axes h => Or.inl ?_), hrelative (Or.inl fun pairs h => ?_),
    hvelocity fun axes velocities h _ _ hallowed => ?_⟩
  · obtain rfl := Except.ok.inj (haxes.symm.trans h)
    exact ⟨0, List.mem_cons_self, by decide⟩
  · have hread : moveProfile unreferencedMove
        (axisDistancesFromMessage (unitServer 1) unreferencedMove) = .error .valueError := by
      decide +kernel
    rw [hread] at h
    cases h
  · obtain rfl := Except.ok.inj (haxes.symm.trans h)
    exact absurd (hallowed 0 List.mem_cons_self) (by decide)

/-- A machine of two rotary axes. -/
def rotaryServer : World 2 ExtRat :=
  { unitServer 2 with
    units := fun _ => { userPositionUnit := some 0x4100, convertingUnitExponents := none } }

/-- A request whose second velocity is out of range. -/
def overflowingMove : Message ExtRat := [("velocities", .list [.int 5, .int (2 ^ 40)])]

/-- A move that is refused for want of a reference has set the profile velocity, and one that is
refused for its second velocity has switched the first axis. -/
theorem refused_moves_change :
    ((moveAbsolute (Env.quiet fun _ => enabledDrive) unreferencedMove (unitServer 1)).1 =
        .error (operationRejected "") ∧
      ¬ Unchanged (unitServer 1)
        (moveAbsolute (Env.quiet fun _ => enabledDrive) unreferencedMove (unitServer 1)).2) ∧
    (moveVelocity (Env.quiet fun _ => enabledDrive) overflowingMove rotaryServer).1 =
        .error .valueError ∧
      ¬ Unchanged rotaryServer
        (moveVelocity (Env.quiet fun _ => enabledDrive) overflowingMove rotaryServer).2 := by
  refine ⟨⟨by decide +kernel, fun h => ?_⟩, by decide +kernel, fun h => ?_⟩
  · exact absurd (congrFun h.profileVelocity 0) (by decide +kernel)
  · exact absurd (congrFun h.motionModes 0) (by decide +kernel)

end MotionServer
