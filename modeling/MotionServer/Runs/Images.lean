import MotionServer.Runs.Requests

/-!
# The process images of a request

* `Sends`: the images that were sent while the control words stayed as they are;
* **`exchange_sends`, `repeatN_exchange_sends`**: what exchanges send;
* `routeMessage_ok`: a request that is answered with success has run its handler.
-/

namespace MotionServer

variable {n : ℕ} {F : Type} [PyFloat F]

/-- From `w` to `w'` the images were sent, all of them with the control words of `w` and `w'`. -/
structure Sends (images : List (Fin n → RxPDO)) (w w' : World n F) : Prop where
  sent : w'.sent = images ++ w.sent
  images : ∀ image ∈ images, ∀ a, (image a).controlword = (w.rxpdo a).controlword
  controlwords : ∀ a, (w'.rxpdo a).controlword = (w.rxpdo a).controlword

omit [PyFloat F] in
theorem Sends.trans {images images' : List (Fin n → RxPDO)} {w w' w'' : World n F}
    (h : Sends images w w') (h' : Sends images' w' w'') : Sends (images' ++ images) w w'' where
  sent := by rw [h'.sent, h.sent, List.append_assoc]
  images image hmem a := by
    rcases List.mem_append.mp hmem with hmem | hmem
    · rw [h'.images image hmem a, h.controlwords a]
    · exact h.images image hmem a
  controlwords a := (h'.controlwords a).trans (h.controlwords a)

/-- The preparation of an image sends nothing and keeps the control words. -/
theorem prepareProcessdata_sends (w : World n F) : Sends [] w (prepareProcessdata w).2 := by
  have hkeeps : Prog.Keeps (Prog.Frame.eqOn fun w : World n F =>
      (w.sent, fun a => (w.rxpdo a).controlword)) prepareProcessdata := by
    refine keeps_prepare (fun _ _ _ _ _ => rfl) (fun w a command => Prod.ext rfl ?_) fun _ => rfl
    funext b
    by_cases hb : b = a
    · subst hb
      change ((w.setRxpdo b _).rxpdo b).controlword = _
      rw [World.setRxpdo_self]
      rfl
    · change ((w.setRxpdo a _).rxpdo b).controlword = _
      rw [World.setRxpdo_of_ne _ _ hb]
  have h := hkeeps w
  refine ⟨congrArg Prod.fst h, fun _ hmem => absurd hmem List.not_mem_nil, fun a => ?_⟩
  exact congrFun (congrArg Prod.snd h) a

/-- **An exchange sends one image.** -/
theorem exchange_sends {env : Env n F} {w w' : World n F} (h : exchange env w = (.ok (), w')) :
    ∃ image, Sends [image] w w' := by
  have hprepare := prepareProcessdata_sends w
  unfold exchange at h
  rw [Prog.bind_run] at h
  cases hp : prepareProcessdata w with
  | mk r w₁ =>
    rw [hp] at h hprepare
    cases r with
    | error e => cases h
    | ok u =>
      change transferProcessdata env w₁ = _ at h
      unfold transferProcessdata at h
      rw [Prog.bind_run_ok (Prog.get_run w₁), Prog.bind_run_ok (Prog.modify_run _ w₁)] at h
      cases houtcome : env.exchange w₁.exchanges with
      | sendError e =>
        rw [houtcome] at h
        cases h
      | receiveError e =>
        rw [houtcome] at h
        cases h
      | received txpdo =>
        rw [houtcome] at h
        cases h
        let w₂ : World n F := { w₁ with
          exchanges := w₁.exchanges + 1
          txpdo := txpdo
          phase := .idle
          sent := w₁.rxpdo :: w₁.sent }
        have htransfer : Sends [w₁.rxpdo] w₁ w₂ := by
          refine ⟨rfl, fun image hmem a => ?_, fun a => rfl⟩
          rw [List.mem_singleton.mp hmem]
        have hboth : Sends ([w₁.rxpdo] ++ []) w w₂ := hprepare.trans htransfer
        exact ⟨w₁.rxpdo, hboth⟩

theorem repeatN_exchange_sends {env : Env n F} {w w' : World n F} {k : ℕ}
    (h : (exchange env).repeatN k w = (.ok (), w')) :
    ∃ images, images.length = k ∧ Sends images w w' := by
  induction k generalizing w with
  | zero =>
    cases h
    exact ⟨[], rfl, rfl, fun _ hmem => absurd hmem List.not_mem_nil, fun _ => rfl⟩
  | succ k ih =>
    rw [Prog.repeatN_succ, Prog.bind_run] at h
    cases he : exchange env w with
    | mk r w₁ =>
      rw [he] at h
      cases r with
      | error e => cases h
      | ok u =>
        obtain ⟨image, hsends⟩ := exchange_sends he
        obtain ⟨images, hlength, hsends'⟩ := ih h
        exact ⟨images ++ [image], by rw [List.length_append, hlength]; rfl, hsends.trans hsends'⟩

/-! ## Requests answered with success -/

/-- A request that is answered with success has run its handler to its end. -/
theorem routeMessage_ok {env : Env n F} {w w' : World n F} {client : ℕ} {message : Message F}
    (h : routeMessage env client message w = (.ok (.ok ()), w')) :
    ∃ command, Reaches env w client message command ∧
      handler env client message command w.accessed = (.ok (), w') := by
  have hroute : routeToHandler env client message w = (.ok (), w') := by
    unfold routeMessage at h
    rw [Prog.tryCatch_run, Prog.bind_run] at h
    cases hr : routeToHandler env client message w with
    | mk r w₁ =>
      rw [hr] at h
      cases r with
      | ok u =>
        cases h
        rfl
      | error e => cases h
  by_cases hreach : ∃ command, Reaches env w client message command
  · obtain ⟨command, hcommand⟩ := hreach
    exact ⟨command, hcommand, (routeToHandler_run hcommand).symm.trans hroute⟩
  · exfalso
    unfold routeToHandler at hroute
    cases hc : commandOf (commandName message) with
    | none =>
      rw [hc] at hroute
      cases hroute
    | some command =>
      rw [hc] at hroute
      dsimp only at hroute
      rw [Prog.bind_run_ok (Prog.get_run w)] at hroute
      have haccess : access env.activeFault w = (.ok (env.activeFault w.accesses), w.accessed) := rfl
      rw [Prog.bind_run_ok haccess, Prog.bind_run, Prog.lift_run] at hroute
      cases hv : validateCommand w client command message (env.activeFault w.accesses) with
      | error e =>
        rw [hv] at hroute
        cases hroute
      | ok u =>
        rw [hv] at hroute
        dsimp only at hroute
        rw [Prog.bind_run, Prog.lift_run] at hroute
        cases hk : requireAxisKey command message with
        | error e =>
          rw [hk] at hroute
          cases hroute
        | ok u => exact hreach ⟨command, hc, hv, hk⟩

end MotionServer
