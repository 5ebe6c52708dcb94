import MotionServer.Runs.Requests

/-!
# Moves, step by step

* `rejectIfAnyDriveFaulted_ok`, `rejectIfAnyAxisDisabled_ok`: guards that pass change nothing;
* `prepareMoveAbsolute_ok`, `prepareMoveRelative_ok`: what a request is read as, before its
  profile velocity is applied;
* `keeps_applyMoveProfileVelocity`, `keeps_outputPositionAxes`: what both leave alone.
-/

namespace MotionServer

variable {n : ℕ} {F : Type} [PyFloat F]

/-! ## Guards -/

theorem rejectIfAnyDriveFaulted_ok {command : String} {w w' : World n F} {u : Unit}
    (h : rejectIfAnyDriveFaulted command w = (.ok u, w')) : w' = w := by
  unfold rejectIfAnyDriveFaulted at h
  rw [Prog.bind_run_ok (Prog.get_run w)] at h
  by_cases hfaulted : w.faultedAxes ≠ []
  · rw [Prog.onlyIf_run hfaulted] at h
    obtain ⟨_, w₁, -, h⟩ := Prog.bind_eq_ok.mp h
    exact absurd h Prog.bind_throw_ne_ok
  · rw [Prog.onlyIf_run_of_not hfaulted] at h
    cases h
    rfl

omit [PyFloat F] in
theorem rejectIfAnyAxisDisabled_ok {axes : List (Fin n)} {command : String} {w w' : World n F}
    {u : Unit} (h : rejectIfAnyAxisDisabled axes command w = (.ok u, w')) : w' = w := by
  unfold rejectIfAnyAxisDisabled at h
  rw [Prog.bind_run_ok (Prog.get_run w)] at h
  exact (Prog.raiseIf_eq_ok.mp h).2

/-! ## Requests -/

/-- The profile velocity of a move changes a setting and the process data. -/
theorem keeps_applyMoveProfileVelocity {α : Type} {f : World n F → α}
    (hprofile : ∀ w profileVelocity, f { w with profileVelocity := profileVelocity } = f w)
    (hrx : ∀ w rxpdo, f { w with rxpdo := rxpdo } = f w) (message : Message F)
    (axes : List (Fin n)) :
    Prog.Keeps (Prog.Frame.eqOn f) (applyMoveProfileVelocity message axes) :=
  (Prog.Keeps.lift _).bind fun _ => Prog.Keeps.forM fun _ _ => Prog.Keeps.get.bind fun _ =>
    Prog.Keeps.seq (Prog.Keeps.modify fun w => hprofile w _) <| Prog.Keeps.onlyIf <|
    (Prog.Keeps.lift _).bind fun _ => Prog.Keeps.modify fun w => hrx w _

theorem prepareMoveAbsolute_ok {message : Message F} {axes : List (Fin n)} {positions : Fin n → F}
    {w w' : World n F} (h : prepareMoveAbsolute message w = (.ok (axes, positions), w')) :
    selectedAxes n message = .ok axes ∧ axisPositionsFromMessage w message axes = .ok positions ∧
      applyMoveProfileVelocity message axes w = (.ok (), w') := by
  unfold prepareMoveAbsolute at h
  rw [Prog.bind_run_ok (Prog.get_run w)] at h
  obtain ⟨axes₁, w₁, hselect, h₁⟩ := Prog.bind_eq_ok.mp h
  obtain ⟨hselected, rfl⟩ := Prog.lift_eq_ok.mp hselect
  obtain ⟨positions₁, w₂, hposition, h₂⟩ := Prog.bind_eq_ok.mp h₁
  obtain ⟨hpositions, rfl⟩ := Prog.lift_eq_ok.mp hposition
  obtain ⟨_, w₃, hprofile, hpure⟩ := Prog.bind_eq_ok.mp h₂
  cases hpure
  exact ⟨hselected, hpositions, hprofile⟩

theorem prepareMoveRelative_ok {message : Message F} {axes : List (Fin n)} {distances : List ℤ}
    {w w' : World n F} (h : prepareMoveRelative message w = (.ok (axes, distances), w')) :
    selectedAxes n message = .ok axes ∧ axisDistancesFromMessage w message axes = .ok distances ∧
      applyMoveProfileVelocity message axes w = (.ok (), w') := by
  unfold prepareMoveRelative at h
  rw [Prog.bind_run_ok (Prog.get_run w)] at h
  obtain ⟨axes₁, w₁, hselect, h₁⟩ := Prog.bind_eq_ok.mp h
  obtain ⟨hselected, rfl⟩ := Prog.lift_eq_ok.mp hselect
  obtain ⟨distances₁, w₂, hdistance, h₂⟩ := Prog.bind_eq_ok.mp h₁
  obtain ⟨hdistances, rfl⟩ := Prog.lift_eq_ok.mp hdistance
  obtain ⟨_, w₃, hprofile, hpure⟩ := Prog.bind_eq_ok.mp h₂
  cases hpure
  exact ⟨hselected, hdistances, hprofile⟩

/-! ## Outputs -/

section Outputs

variable {α : Type} {f : World n F → α} {env : Env n F}

theorem keeps_commandCspPositions
    (hgenerators : ∀ w generators, f { w with generators := generators } = f w)
    (hrx : ∀ w rxpdo, f { w with rxpdo := rxpdo } = f w) (targets : Fin n → F)
    (axes : List (Fin n)) : Prog.Keeps (Prog.Frame.eqOn f) (commandCspPositions targets axes) :=
  (Prog.Keeps.lift _).bind fun _ =>
    (Prog.Keeps.forM fun _ _ => Prog.Keeps.modify fun w => hrx w _).seq
      (Prog.Keeps.modify fun w => hgenerators w _)

variable (hrx : ∀ w rxpdo, f { w with rxpdo := rxpdo } = f w)
  (hexchange : Prog.Keeps (Prog.Frame.eqOn f) (exchange env))
include hrx

omit [PyFloat F] in
theorem keeps_setControlwords (axes : List (Fin n)) (controlword : ℤ) :
    Prog.Keeps (Prog.Frame.eqOn f) (setControlwords axes controlword) :=
  Prog.Keeps.forM fun _ _ => Prog.Keeps.modify fun w => hrx w _

omit hrx in
include hexchange in
theorem keeps_waitPpSetpointAck (axes : List (Fin n)) (expected : Bool) :
    ∀ maxCycles, Prog.Keeps (Prog.Frame.eqOn f) (waitPpSetpointAck env axes expected maxCycles)
  | 0 => Prog.Keeps.pure _
  | maxCycles + 1 => hexchange.seq <| Prog.Keeps.get.bind fun _ =>
    (Prog.Keeps.pure _).ite (keeps_waitPpSetpointAck axes expected maxCycles)

include hexchange

theorem keeps_commandProfilePositions (targets : Fin n → F) (axes : List (Fin n)) :
    Prog.Keeps (Prog.Frame.eqOn f) (commandProfilePositions env targets axes) := by
  refine Prog.Keeps.seq ?_ ?_
  · exact Prog.Keeps.forM fun a _ => (keeps_requirePdoFieldsForMode .pp a).seq <|
      (Prog.Keeps.modify fun w => hrx w _).seq <| (Prog.Keeps.lift _).bind fun _ =>
      Prog.Keeps.modify fun w => hrx w _
  · have hwait := keeps_waitPpSetpointAck hexchange axes
    exact (keeps_setControlwords hrx axes _).seq <| (hwait false _).bind fun _ =>
      (keeps_setControlwords hrx axes _).seq <| (hwait true _).bind fun _ =>
      (keeps_setControlwords hrx axes _).seq <| (hwait false _).bind fun _ => Prog.Keeps.raiseIf _

/-- What is sent to the axes of a move changes the process data and the generators. -/
theorem keeps_outputPositionAxes
    (hgenerators : ∀ w generators, f { w with generators := generators } = f w)
    (axes : List (Fin n)) : Prog.Keeps (Prog.Frame.eqOn f) (outputPositionAxes env axes) :=
  Prog.Keeps.get.bind fun _ =>
    (Prog.Keeps.onlyIf (keeps_commandProfilePositions hrx hexchange _ _)).seq
      (Prog.Keeps.onlyIf (keeps_commandCspPositions hgenerators hrx _ _))

end Outputs

end MotionServer
