import MotionServer.Lib.Except
import MotionServer.Python.ExtRat
import MotionServer.Runs.Frames

/-!
# How requests run

* `World.held`, **`holdAxes_run`**: a hold never fails, and what it makes of the state;
* `ensureCspMode_run`, `ensureCspMode_rest`: axes in CSP mode are left alone, and one switch puts
  every generator to rest;
* `Reaches`, **`step_request`**: a request changes the state through its handler only;
* `unitServer`, `restingTrajectory`: a server and a request that can be run.
-/

namespace MotionServer

variable {n : ℕ} {F : Type} [PyFloat F]

/-- No generator plays timed points. -/
def World.AtRest (w : World n F) : Prop := ∀ a, (w.generators a).timedActive = false

/-! ## Holds -/

/-- The state after a hold of the axes. -/
def World.held (w : World n F) (axes : List (Fin n)) : World n F :=
  { w with
    generators := fun a =>
      if a ∈ axes then (w.generators a).reset (w.actualPosition a) else w.generators a
    rxpdo := fun a =>
      if a ∈ axes then { w.rxpdo a with targetPosition := (w.txpdo a).actualPosition.toInt }
      else w.rxpdo a
    targetPositions := fun a => if a ∈ axes then w.actualPosition a else w.targetPositions a }

theorem held_nil (w : World n F) : w.held [] = w := by
  simp [World.held]

theorem held_held (w : World n F) (l l' : List (Fin n)) : (w.held l).held l' = w.held (l ++ l') := by
  have h (a : Fin n) : (w.held l).actualPosition a = w.actualPosition a := rfl
  simp only [World.held, World.mk.injEq, true_and, and_true, List.mem_append]
  refine ⟨?_, ?_, ?_⟩ <;> funext a <;> by_cases h₁ : a ∈ l' <;> by_cases h₂ : a ∈ l <;>
    simp only [h₁, h₂, if_true, if_false, or_true, true_or, or_self] <;> rfl

section Lawful

variable [LawfulPyFloat F]

theorem roundInt_actualPosition (w : World n F) (a : Fin n) :
    PyFloat.roundInt (w.actualPosition a) = .ok (w.txpdo a).actualPosition.toInt :=
  LawfulPyFloat.roundInt_ofInt _ (by have := BitVec.le_toInt (w.txpdo a).actualPosition; omega)
    (by have := BitVec.toInt_lt (x := (w.txpdo a).actualPosition); omega)

theorem setTargetPosition_actual_run (w w' : World n F) (a : Fin n) :
    setTargetPosition a (w.actualPosition a) w' = (.ok (), w'.setRxpdo a fun rx =>
      { rx with targetPosition := (w.txpdo a).actualPosition.toInt }) := by
  refine (Prog.bind_run_ok (?_ : Prog.lift _ w' = (.ok _, w'))).trans rfl
  rw [Prog.lift_run, roundInt_actualPosition]

private theorem forM_setTargetPosition_run (w : World n F) (l : List (Fin n)) (w' : World n F) :
    (l.forM fun a => setTargetPosition a (w.actualPosition a)) w' = (.ok (), { w' with
      rxpdo := fun a =>
        if a ∈ l then { w'.rxpdo a with targetPosition := (w.txpdo a).actualPosition.toInt }
        else w'.rxpdo a }) := by
  induction l generalizing w' with
  | nil => simp
  | cons b l ih =>
    refine (Prog.bind_run_ok (setTargetPosition_actual_run w w' b)).trans ?_
    rw [ih]
    simp only [World.setRxpdo, Prod.mk.injEq, true_and, World.mk.injEq, and_true, List.mem_cons]
    funext a
    by_cases h₁ : a = b
    · subst h₁
      by_cases h₂ : a ∈ l <;> simp [h₂]
    · by_cases h₂ : a ∈ l <;> simp [h₁, h₂]

/-- **A hold never fails**, and leaves everything but its axes alone. -/
theorem holdAxes_run (w : World n F) (axes : List (Fin n)) :
    holdAxes axes w = (.ok (), w.held axes) := by
  unfold holdAxes
  rw [Prog.bind_run_ok (Prog.modify_run _ _), Prog.bind_run_ok (Prog.get_run _),
    Prog.bind_run_ok (forM_setTargetPosition_run _ _ _), Prog.modify_run]
  rfl

theorem holdAxisAtActualPosition_run (w : World n F) (a : Fin n) :
    holdAxisAtActualPosition a w = (.ok (), w.held [a]) := holdAxes_run w [a]

theorem forM_hold_run (w : World n F) (axes : List (Fin n)) :
    axes.forM holdAxisAtActualPosition w = (.ok (), w.held axes) := by
  induction axes generalizing w with
  | nil => rw [held_nil]; rfl
  | cons a axes ih =>
    refine (Prog.bind_run_ok (holdAxes_run w [a])).trans ?_
    rw [ih, held_held]
    rfl

theorem holdEach_run (w : World n F) (axes : List (Fin n)) :
    holdEach axes w = (.ok (), { w.held axes with
      generators := fun a => ((w.held axes).generators a).setTargetPosition
        ((w.held axes).targetPositions a) }) := by
  unfold holdEach
  rw [Prog.bind_run_ok (forM_hold_run w axes)]
  rfl

theorem holdFaultedAxes_run {w : World n F} (h : w.faultedAxes ≠ []) :
    holdFaultedAxes w = (.ok (), { w.held w.faultedAxes with
      generators := fun a => ((w.held w.faultedAxes).generators a).setTargetPosition
        ((w.held w.faultedAxes).targetPositions a) }) := by
  unfold holdFaultedAxes
  rw [Prog.bind_run_ok (Prog.get_run _), Prog.onlyIf_run h, Prog.bind_run_ok (holdAxes_run _ _)]
  rfl

omit [LawfulPyFloat F] in
theorem holdFaultedAxes_run_nil {w : World n F} (h : w.faultedAxes = []) :
    holdFaultedAxes w = (.ok (), w) := by
  unfold holdFaultedAxes
  rw [Prog.bind_run_ok (Prog.get_run _), Prog.onlyIf_run_of_not (not_not.mpr h)]

end Lawful

/-! ## Guards -/

omit [PyFloat F] in
theorem rejectIfAnyAxisDisabled_run {w : World n F} {axes : List (Fin n)} (command : String)
    (h : w.disabledOperationAxes axes = []) :
    rejectIfAnyAxisDisabled axes command w = (.ok (), w) := by
  unfold rejectIfAnyAxisDisabled
  rw [Prog.bind_run_ok (Prog.get_run _), Prog.raiseIf_run, if_neg (not_not.mpr h)]

omit [PyFloat F] in
theorem rejectIfAnyAxisDisabled_run_of_ne {w : World n F} {axes : List (Fin n)} (command : String)
    (h : w.disabledOperationAxes axes ≠ []) :
    rejectIfAnyAxisDisabled axes command w = (.error (operationRejected command), w) := by
  unfold rejectIfAnyAxisDisabled
  rw [Prog.bind_run_ok (Prog.get_run _), Prog.raiseIf_run, if_pos h]

omit [PyFloat F] in
theorem rejecting_eq_ok {α : Type} {command : String} {m : Server n F α} {w w' : World n F} {x : α} :
    rejecting command m w = (.ok x, w') ↔ m w = (.ok x, w') :=
  Prog.tryCatch_eq_ok fun _ _ h => nomatch h

omit [PyFloat F] in
theorem selectedSingleAxis_eq_ok {message : Message F} {a : Fin n} :
    selectedSingleAxis n message = .ok a ↔ selectedAxes n message = .ok [a] := by
  unfold selectedSingleAxis
  rw [Except.bind_eq_ok]
  constructor
  · rintro ⟨axes, haxes, h⟩
    rcases axes with _ | ⟨b, _ | _⟩
    · cases h
    · cases h
      exact haxes
    · cases h
  · intro h
    exact ⟨[a], h, rfl⟩

/-! ## The switch to CSP mode -/

theorem switchToCsp_run_csp {w : World n F} {a : Fin n} (h : w.motionModes a = .csp) :
    switchToCsp a w = (.ok false, w) := by
  unfold switchToCsp
  rw [Prog.bind_run_ok (Prog.get_run _), if_pos h]
  rfl

theorem mapM_switchToCsp_csp {w : World n F} {axes : List (Fin n)}
    (h : ∀ a ∈ axes, w.motionModes a = .csp) :
    axes.mapM switchToCsp w = (.ok (axes.map fun _ => false), w) := by
  induction axes with
  | nil => rfl
  | cons a axes ih =>
    rw [List.mapM_cons, Prog.bind_run_ok (switchToCsp_run_csp (h a List.mem_cons_self)),
      Prog.bind_run_ok (ih fun b hb => h b (List.mem_cons_of_mem _ hb))]
    rfl

/-- Axes in CSP mode are left alone. -/
theorem ensureCspMode_run {w : World n F} {axes : List (Fin n)}
    (h : ∀ a ∈ axes, w.motionModes a = .csp) : ensureCspMode axes w = (.ok (), w) := by
  unfold ensureCspMode
  rw [Prog.bind_run_ok (mapM_switchToCsp_csp h), if_neg (by simp)]
  rfl

theorem switchToCsp_run [LawfulPyFloat F] {w : World n F} {a : Fin n}
    (h : w.motionModes a ≠ .csp) : ∃ w', switchToCsp a w = (.ok true, w') := by
  unfold switchToCsp
  rw [Prog.bind_run_ok (Prog.get_run _), if_neg h,
    Prog.bind_run_ok (holdAxisAtActualPosition_run w a)]
  exact ⟨_, rfl⟩

theorem mapM_switchToCsp_run [LawfulPyFloat F] (w : World n F) (axes : List (Fin n)) :
    ∃ changed w', axes.mapM switchToCsp w = (.ok changed, w') ∧
      ((∃ a ∈ axes, w.motionModes a ≠ .csp) → changed.any id = true) := by
  induction axes generalizing w with
  | nil => exact ⟨[], w, rfl, by simp⟩
  | cons a axes ih =>
    by_cases ha : w.motionModes a = .csp
    · obtain ⟨changed, w', hrun, hany⟩ := ih w
      refine ⟨false :: changed, w', ?_, ?_⟩
      · rw [List.mapM_cons, Prog.bind_run_ok (switchToCsp_run_csp ha), Prog.bind_run_ok hrun]
        rfl
      · rintro ⟨b, hb, hne⟩
        rcases List.mem_cons.mp hb with rfl | hb
        · exact absurd ha hne
        · simpa using hany ⟨b, hb, hne⟩
    · obtain ⟨w₁, h₁⟩ := switchToCsp_run ha
      obtain ⟨changed, w', hrun, -⟩ := ih w₁
      refine ⟨true :: changed, w', ?_, fun _ => by simp⟩
      rw [List.mapM_cons, Prog.bind_run_ok h₁, Prog.bind_run_ok hrun]
      rfl

theorem ensureCspMode_ok [LawfulPyFloat F] (w : World n F) (axes : List (Fin n)) :
    ∃ w', ensureCspMode axes w = (.ok (), w') := by
  obtain ⟨changed, w', hrun, -⟩ := mapM_switchToCsp_run w axes
  unfold ensureCspMode
  rw [Prog.bind_run_ok hrun]
  split_ifs
  · exact ⟨_, rfl⟩
  · exact ⟨_, rfl⟩

/-- Where one of the axes is in another mode, every generator is put to rest. -/
theorem ensureCspMode_rest [LawfulPyFloat F] {w : World n F} {axes : List (Fin n)}
    (h : ∃ a ∈ axes, w.motionModes a ≠ .csp) :
    ∃ w', ensureCspMode axes w = (.ok (), w') ∧ w'.AtRest := by
  obtain ⟨changed, w', hrun, hany⟩ := mapM_switchToCsp_run w axes
  refine ⟨{ w' with
    generators := fun a => (w'.generators a).setTargetPosition (w'.targetPositions a) }, ?_,
    fun a => rfl⟩
  unfold ensureCspMode
  rw [Prog.bind_run_ok hrun, if_pos (hany h)]
  rfl

/-! ## Routing -/

/-- The request passes the gates of the router and reaches its handler. -/
structure Reaches (env : Env n F) (w : World n F) (client : ℕ) (message : Message F)
    (command : Command) : Prop where
  known : commandOf (commandName message) = some command
  gates : validateCommand w client command message (env.activeFault w.accesses) = .ok ()
  axisKey : requireAxisKey command message = .ok ()

/-- The state a handler starts in. -/
def World.accessed (w : World n F) : World n F := { w with accesses := w.accesses + 1 }

theorem routeMessage_state (env : Env n F) (w : World n F) (client : ℕ) (message : Message F) :
    (routeMessage env client message w).2 = (routeToHandler env client message w).2 := by
  unfold routeMessage
  rw [Prog.tryCatch_run, Prog.bind_run]
  cases routeToHandler env client message w with
  | mk r w' => cases r <;> rfl

theorem routeToHandler_run {env : Env n F} {w : World n F} {client : ℕ} {message : Message F}
    {command : Command} (h : Reaches env w client message command) :
    routeToHandler env client message w = handler env client message command w.accessed := by
  unfold routeToHandler
  rw [h.known]
  refine (Prog.bind_run_ok (Prog.get_run w)).trans ?_
  refine (Prog.bind_run_ok (?_ : access env.activeFault w =
    (.ok (env.activeFault w.accesses), w.accessed))).trans ?_
  · rfl
  refine (Prog.bind_run_ok (?_ : Prog.lift _ _ = (.ok (), w.accessed))).trans ?_
  · rw [Prog.lift_run, h.gates]
  refine (Prog.bind_run_ok (?_ : Prog.lift _ _ = (.ok (), w.accessed))).trans rfl
  rw [Prog.lift_run, h.axisKey]

theorem routeToHandler_refused {env : Env n F} {w : World n F} {client : ℕ} {message : Message F}
    (h : ∀ command, ¬ Reaches env w client message command) :
    (routeToHandler env client message w).2 = w ∨
      (routeToHandler env client message w).2 = w.accessed := by
  unfold routeToHandler
  cases hc : commandOf (commandName message) with
  | none => exact Or.inl rfl
  | some command =>
    right
    dsimp only
    rw [Prog.bind_run_ok (Prog.get_run w)]
    refine (congrArg Prod.snd (Prog.bind_run_ok (?_ : access env.activeFault w =
      (.ok (env.activeFault w.accesses), w.accessed)))).trans ?_
    · rfl
    cases hv : validateCommand w client command message (env.activeFault w.accesses) with
    | error e => rfl
    | ok u =>
      cases hk : requireAxisKey command message with
      | error e => rfl
      | ok u => exact absurd ⟨hc, hv, hk⟩ (h command)

/-- **A request changes the state through its handler only.** -/
theorem step_request (env : Env n F) (w : World n F) (client : ℕ) (message : Message F) :
    (step env (.request client message) w).2 = w ∨
      (step env (.request client message) w).2 = w.accessed ∨
      ∃ command, Reaches env w client message command ∧
        (step env (.request client message) w).2 =
          (handler env client message command w.accessed).2 := by
  have hstep : (step env (.request client message) w).2 =
      (routeToHandler env client message w).2 := by
    rw [← routeMessage_state, step, Prog.bind_run]
    cases routeMessage env client message w with
    | mk r w' => cases r <;> rfl
  by_cases h : ∃ command, Reaches env w client message command
  · obtain ⟨command, hc⟩ := h
    exact Or.inr (Or.inr ⟨command, hc, by rw [hstep, routeToHandler_run hc]⟩)
  · rw [hstep]
    rcases routeToHandler_refused (not_exists.mp h) with h' | h'
    · exact Or.inl h'
    · exact Or.inr (Or.inl h')

/-! ## A server to run -/

/-- A drive that is operation enabled at position 0. -/
def enabledDrive : TxPDO where
  statusword := 0x0027
  actualPosition := 0

/-- A server with `n` enabled axes of unit limits, in CSP mode with the trapezoid profile. -/
def unitServer (n : ℕ) : World n ExtRat :=
  World.initial
    { cycleTime := 0.01
      motionLimits := fun _ =>
        { maxVelocity := 1.0, acceleration := 1.0, deceleration := 1.0, jerk := 1.0 }
      positionCountsPerApiUnit := fun _ => 1.0 }
    (fun _ => { userPositionUnit := none, convertingUnitExponents := none })
    .csp .motionServerDefault .trapezoid fun _ => enabledDrive

/-- A request by its name and its other entries. -/
def request {F : Type} (name : String) (entries : Message F) : Event F :=
  .request 1 (("cmd", .str name) :: entries)

/-- A trajectory on the first axis that stays at position 0 for a second. -/
def restingTrajectory : Event ExtRat :=
  let point (time : ℤ) : Value ExtRat :=
    .dict [("positions", .list [.int 0]), ("time_from_start", .int time)]
  request "system/axes/trajectory" [("axes", .list [.int 0]), ("points", .list [point 0, point 1])]

end MotionServer
