import MotionServer.Device.StateMachine
import MotionServer.Runs.Images

/-!
# Enabling an axis

* `enable_sends`: an enable request sends three images with the control word `0x000F`;
* **`enable_operationEnabled_iff`**: which drives they take into operation.
-/

namespace MotionServer

variable {n : ℕ} {F : Type} [PyFloat F]

/-- The state of a drive after the images, the latest of which comes first. -/
def driveAfter (images : List (Fin n → RxPDO)) (a : Fin n) (state : CiA402State) : CiA402State :=
  CiA402State.processAll (images.map fun image => (image a).controlword) state

/-! ## The images of an enable request -/

omit [PyFloat F] in
theorem setControlwords_run (w : World n F) (axes : List (Fin n)) (controlword : ℤ) :
    setControlwords axes controlword w = (.ok (), { w with
      rxpdo := fun a =>
        if a ∈ axes then { w.rxpdo a with controlword := controlword } else w.rxpdo a }) := by
  induction axes generalizing w with
  | nil => simp [setControlwords]
  | cons b axes ih =>
    refine (Prog.bind_run_ok (Prog.modify_run _ w)).trans ?_
    change setControlwords axes controlword _ = _
    rw [ih]
    simp only [World.setRxpdo, Prod.mk.injEq, true_and, World.mk.injEq, and_true, List.mem_cons]
    funext a
    by_cases h₁ : a = b
    · subst h₁
      by_cases h₂ : a ∈ axes <;> simp [h₂]
    · by_cases h₂ : a ∈ axes <;> simp [h₁, h₂]

theorem enable_sends {env : Env n F} {w w' : World n F} {message : Message F} {axes : List (Fin n)}
    (haxes : selectedAxes n message = .ok axes) (h : enable env message w = (.ok (), w')) :
    ∃ images, images.length = 3 ∧ w'.sent = images ++ w.sent ∧
      ∀ image ∈ images, ∀ a ∈ axes, (image a).controlword = 0x000F := by
  unfold enable rejecting at h
  have hselect : (tryCatch (Prog.lift (selectedAxes n message)) fun _ =>
      throw (operationRejected (commandName message)) : Server n F (List (Fin n))) w =
        (.ok axes, w) := by
    rw [Prog.tryCatch_run, Prog.lift_run, haxes]
  rw [Prog.bind_run_ok hselect, Prog.bind_run_ok (setControlwords_run w axes _)] at h
  obtain ⟨images, hlength, hsends⟩ := repeatN_exchange_sends h
  refine ⟨images, hlength, hsends.sent, fun image himage a ha => ?_⟩
  rw [hsends.images image himage a]
  exact congrArg RxPDO.controlword (if_pos ha)

/-! ## What an enable request does to a drive -/

theorem process_enable (state : CiA402State) :
    (state.process 0x000F).process 0x000F = state.process 0x000F ∧
      (state.process 0x000F = .operationEnabled ↔
        state = .switchedOn ∨ state = .operationEnabled) := by
  cases state <;> decide

/-- **A successful enable request takes a drive into operation exactly when it was switched on or in
operation before.** -/
theorem enable_operationEnabled_iff {env : Env n F} {w w' : World n F} {client : ℕ}
    {message : Message F} {several : Bool} {axes : List (Fin n)} {a : Fin n}
    (hcommand : commandOf (commandName message) = some (.enable several))
    (hsuccess : routeMessage env client message w = (.ok (.ok ()), w'))
    (haxes : selectedAxes n message = .ok axes) (ha : a ∈ axes) (state : CiA402State) :
    ∃ images, w'.sent = images ++ w.sent ∧
      (driveAfter images a state = .operationEnabled ↔
        state = .switchedOn ∨ state = .operationEnabled) := by
  obtain ⟨command, hreach, hhandler⟩ := routeMessage_ok hsuccess
  obtain rfl : .enable several = command := Option.some.inj (hcommand.symm.trans hreach.known)
  obtain ⟨images, hlength, hsent, himages⟩ := enable_sends haxes hhandler
  refine ⟨images, hsent, ?_⟩
  have hwords : images.map (fun image => (image a).controlword) = List.replicate 3 0x000F := by
    rw [List.eq_replicate_iff, List.length_map]
    refine ⟨hlength, fun controlword hmem => ?_⟩
    obtain ⟨image, himage, rfl⟩ := List.mem_map.mp hmem
    exact himages image himage a ha
  unfold driveAfter
  rw [hwords, CiA402State.processAll_replicate _ _ (process_enable state).1 2]
  exact (process_enable state).2

/-- The enable request of the first axis. -/
def enableFirst : Message ExtRat := [("cmd", .str "system/axis/enable"), ("axis", .int 0)]

/-- The state after a client with the authority has sent the control word to the first axis, whose
drive shows the status word from then on. -/
def manualServer (controlword : ℤ) (state : CiA402State) : Env 1 ExtRat × World 1 ExtRat :=
  let env := Env.quiet fun _ => { statusword := state.statusword, actualPosition := 0 }
  (env, (run env [request "system/authority/request" [],
    request "system/axis/manualCW" [("axis", .int 0), ("controlword", .int controlword)], .cycle]
      (unitServer 1)).2)

/-- A drive that was switched on by hand is taken into operation. -/
theorem enable_operationEnabled_iff_switchedOn :
    ∃ images, (routeMessage (manualServer 7 .switchedOn).1 1 enableFirst
        (manualServer 7 .switchedOn).2).2.sent = images ++ (manualServer 7 .switchedOn).2.sent ∧
      (driveAfter images 0 .switchedOn = .operationEnabled ↔
        CiA402State.switchedOn = .switchedOn ∨ CiA402State.switchedOn = .operationEnabled) := by
  have hsuccess : (routeMessage (manualServer 7 .switchedOn).1 1 enableFirst
      (manualServer 7 .switchedOn).2).1 = .ok (.ok ()) := by decide +kernel
  have hcommand : commandOf (commandName enableFirst) = some (.enable false) := by rfl
  have haxes : selectedAxes 1 enableFirst = .ok [0] := by decide +kernel
  exact enable_operationEnabled_iff hcommand
    (Prod.ext hsuccess rfl) haxes (by decide) .switchedOn

/-- A drive that was disabled by hand stays disabled, and the enable request succeeds. -/
theorem enable_of_disabled :
    let env := (manualServer 0 .switchOnDisabled).1
    let w := (manualServer 0 .switchOnDisabled).2
    driveAfter w.sent 0 .operationEnabled = .switchOnDisabled ∧
      (routeMessage env 1 enableFirst w).1 = .ok (.ok ()) ∧
      driveAfter (routeMessage env 1 enableFirst w).2.sent 0 .operationEnabled =
        .switchOnDisabled := by
  decide +kernel

end MotionServer
