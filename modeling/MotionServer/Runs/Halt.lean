import MotionServer.Runs.Enabling
import MotionServer.Runs.Exchanges
import MotionServer.Runs.Moves

/-!
# The halt bit

* `haltFrame`, `clearFrame`: the halt bit of an axis, in the images and in what is sent next;
* `startedAxes`, `startImages`, `HaltReleased`: the axes a request starts, and what starts them;
* **`halt_released_iff`**: the requests that start an axis without its halt bit.
-/

namespace MotionServer

variable {n : ℕ} {F : Type}

/-- The halt bit. -/
def RxPDO.halted (rx : RxPDO) : Bool := rx.controlword.testBit haltBit

theorem testBit_two_pow_of_ne {i j : ℕ} (h : i ≠ j) : (2 ^ i : ℤ).testBit j = false := by
  have hcast : (2 ^ i : ℤ) = ((2 ^ i : ℕ) : ℤ) := by push_cast; rfl
  rw [hcast]
  exact Nat.testBit_two_pow_of_ne h

theorem halted_setBit (rx : RxPDO) {bit : ℕ} (h : bit ≠ haltBit) :
    (rx.setBit bit).halted = rx.halted := by
  unfold RxPDO.halted RxPDO.setBit
  rw [Int.testBit_lor, testBit_two_pow_of_ne h, Bool.or_false]

theorem halted_clearBit (rx : RxPDO) {bit : ℕ} (h : bit ≠ haltBit) :
    (rx.clearBit bit).halted = rx.halted := by
  unfold RxPDO.halted RxPDO.clearBit
  rw [Int.testBit_ldiff, testBit_two_pow_of_ne h, Bool.not_false, Bool.and_true]

/-- The halt bit of the axis stays as it is, also in every image that is sent. -/
structure HaltKept (a : Fin n) (w w' : World n F) : Prop where
  images : ∃ images, w'.sent = images ++ w.sent ∧
    ∀ image ∈ images, (image a).halted = (w.rxpdo a).halted
  kept : (w'.rxpdo a).halted = (w.rxpdo a).halted

/-- A halt bit that is clear stays clear, also in every image that is sent. -/
structure HaltClear (a : Fin n) (w w' : World n F) : Prop where
  images : ∃ images, w'.sent = images ++ w.sent ∧
    ((w.rxpdo a).halted = false → ∀ image ∈ images, (image a).halted = false)
  clear : (w.rxpdo a).halted = false → (w'.rxpdo a).halted = false

theorem HaltKept.trans {a : Fin n} {w₁ w₂ w₃ : World n F} (h₁ : HaltKept a w₁ w₂)
    (h₂ : HaltKept a w₂ w₃) : HaltKept a w₁ w₃ := by
  obtain ⟨images₁, hsent₁, himages₁⟩ := h₁.images
  obtain ⟨images₂, hsent₂, himages₂⟩ := h₂.images
  refine ⟨⟨images₂ ++ images₁, ?_, fun image hmem => ?_⟩, h₂.kept.trans h₁.kept⟩
  · rw [hsent₂, hsent₁, List.append_assoc]
  · rcases List.mem_append.mp hmem with hmem | hmem
    · rw [himages₂ image hmem, h₁.kept]
    · exact himages₁ image hmem

theorem HaltClear.trans {a : Fin n} {w₁ w₂ w₃ : World n F} (h₁ : HaltClear a w₁ w₂)
    (h₂ : HaltClear a w₂ w₃) : HaltClear a w₁ w₃ := by
  obtain ⟨images₁, hsent₁, himages₁⟩ := h₁.images
  obtain ⟨images₂, hsent₂, himages₂⟩ := h₂.images
  refine ⟨⟨images₂ ++ images₁, ?_, fun hclear image hmem => ?_⟩, fun h => h₂.clear (h₁.clear h)⟩
  · rw [hsent₂, hsent₁, List.append_assoc]
  · rcases List.mem_append.mp hmem with hmem | hmem
    · exact himages₂ (h₁.clear hclear) image hmem
    · exact himages₁ hclear image hmem

theorem HaltKept.haltClear {a : Fin n} {w w' : World n F} (h : HaltKept a w w') :
    HaltClear a w w' := by
  obtain ⟨images, hsent, himages⟩ := h.images
  refine ⟨⟨images, hsent, fun hclear image hmem => ?_⟩, fun hclear => ?_⟩
  · rw [himages image hmem, hclear]
  · rw [h.kept, hclear]

def haltFrame (n : ℕ) (F : Type) (a : Fin n) : Prog.Frame (World n F) where
  Rel := HaltKept a
  refl _ := ⟨⟨[], rfl, fun _ hmem => absurd hmem List.not_mem_nil⟩, rfl⟩
  trans _ _ _ := HaltKept.trans

def clearFrame (n : ℕ) (F : Type) (a : Fin n) : Prog.Frame (World n F) where
  Rel := HaltClear a
  refl _ := ⟨⟨[], rfl, fun _ _ hmem => absurd hmem List.not_mem_nil⟩, id⟩
  trans _ _ _ := HaltClear.trans

section Writes

variable {a : Fin n} {w w' : World n F}

/-- A write that sends nothing and leaves the halt bit of the axis alone. -/
theorem haltKept_of_eq (hsent : w'.sent = w.sent)
    (h : (w'.rxpdo a).halted = (w.rxpdo a).halted) : HaltKept a w w' :=
  ⟨⟨[], hsent, fun _ hmem => absurd hmem List.not_mem_nil⟩, h⟩

theorem haltClear_of_eq (hsent : w'.sent = w.sent) (hrxpdo : w'.rxpdo = w.rxpdo) :
    HaltClear a w w' := (haltKept_of_eq hsent (by rw [hrxpdo])).haltClear

theorem haltKept_setRxpdo (b : Fin n) {f : RxPDO → RxPDO} (hf : ∀ rx, (f rx).halted = rx.halted) :
    HaltKept a w (w.setRxpdo b f) := by
  refine haltKept_of_eq rfl ?_
  by_cases hab : a = b
  · subst hab
    rw [World.setRxpdo_self, hf]
  · rw [World.setRxpdo_of_ne w f hab]

theorem haltClear_setRxpdo (b : Fin n) {f : RxPDO → RxPDO}
    (hf : ∀ rx, rx.halted = false → (f rx).halted = false) : HaltClear a w (w.setRxpdo b f) := by
  refine ⟨⟨[], rfl, fun _ _ hmem => absurd hmem List.not_mem_nil⟩, fun hclear => ?_⟩
  by_cases hab : a = b
  · subst hab
    rw [World.setRxpdo_self]
    exact hf _ hclear
  · rw [World.setRxpdo_of_ne w f hab]
    exact hclear

end Writes

variable [PyFloat F]

/-! ## Exchanges -/

theorem exchange_haltKept (env : Env n F) (a : Fin n) :
    Prog.Keeps (haltFrame n F a) (exchange env) := by
  intro w
  have hprepare := prepareProcessdata_sends w
  unfold exchange
  rw [Prog.bind_run]
  cases hp : prepareProcessdata w with
  | mk r w₁ =>
    rw [hp] at hprepare
    have hkept : HaltKept a w w₁ :=
      haltKept_of_eq hprepare.sent (congrArg (Int.testBit · haltBit) (hprepare.controlwords a))
    cases r with
    | error e => exact hkept
    | ok u =>
      refine hkept.trans ?_
      dsimp only
      have hsent {w' : World n F} (hs : w'.sent = w₁.rxpdo :: w₁.sent)
          (hrxpdo : w'.rxpdo = w₁.rxpdo) : HaltKept a w₁ w' := by
        refine ⟨⟨[w₁.rxpdo], hs, fun image hmem => ?_⟩, by rw [hrxpdo]⟩
        rw [List.mem_singleton.mp hmem]
      rcases transferProcessdata_cases env w₁ with ⟨e, -, hrun⟩ | ⟨e, -, hrun⟩ | ⟨txpdo, -, hrun⟩
      · rw [hrun]
        exact haltKept_of_eq rfl rfl
      · rw [hrun]
        exact hsent rfl rfl
      · rw [hrun]
        exact hsent rfl rfl

omit [PyFloat F] in
theorem haltFrame_still (a : Fin n) : Frame.Still (haltFrame n F a) where
  inert _ _ h := haltKept_of_eq h.sent (by rw [h.rxpdo])

/-! ## Homing -/

omit [PyFloat F] in
theorem setHomingStartBit_haltKept [PyFloat F] (a : Fin n) (axes : List (Fin n)) (enabled : Bool) :
    Prog.Keeps (haltFrame n F a) (setHomingStartBit axes enabled) := by
  refine Prog.Keeps.forM fun b _ => Prog.Keeps.modify fun w => haltKept_setRxpdo b fun rx => ?_
  cases enabled with
  | true => exact halted_setBit rx (by decide)
  | false => exact halted_clearBit rx (by decide)

theorem configureModeCode_haltKept (env : Env n F) (a : Fin n) (mode : MotionMode) (b : Fin n) :
    Prog.Keeps (haltFrame n F a) (configureModeCode env mode b) :=
  Prog.Keeps.seq (Prog.Keeps.modify fun _ => haltKept_setRxpdo b fun _ => by rfl) <|
    ((haltFrame_still a).writeSdo env).seq ((exchange_haltKept env a).repeatN 5)

/-- A homing request leaves the halt bits alone. -/
theorem startHoming_haltKept (env : Env n F) (a : Fin n) (message : Message F) :
    Prog.Keeps (haltFrame n F a) (startHoming env message) := by
  have hexchange := (exchange_haltKept env a).repeatN 2
  refine (Prog.Keeps.lift _).bind fun axes => Prog.Keeps.get.bind fun _ => Prog.Keeps.ite ?_ ?_
  · exact Prog.Keeps.seq (Prog.Keeps.modify fun _ => haltKept_of_eq rfl rfl) (Prog.Keeps.throw _)
  · refine Prog.Keeps.seq (Prog.Keeps.forM fun b _ => (configureModeCode_haltKept env a _ b).seq <|
      Prog.Keeps.modify fun _ => haltKept_of_eq rfl rfl) ?_
    exact (setHomingStartBit_haltKept a axes false).seq <| hexchange.seq <|
      Prog.Keeps.get.bind fun _ => (setHomingStartBit_haltKept a axes true).seq <| hexchange.seq <|
      ((haltFrame_still a).access _).bind fun _ => Prog.Keeps.modify fun _ => haltKept_of_eq rfl rfl

/-! ## Writes to the axes of a request -/

section Loops

variable {axes : List (Fin n)} {a : Fin n} {f : RxPDO → RxPDO}

omit [PyFloat F] in
/-- A loop that writes words without a halt bit clears those of its axes. -/
theorem forM_setRxpdo_clear (hf : ∀ rx, (f rx).halted = false) (ha : a ∈ axes)
    {w w' : World n F} {u : PUnit}
    (h : (axes.forM fun b => Prog.modify fun w => w.setRxpdo b f : Server n F PUnit) w =
      (.ok u, w')) : w'.sent = w.sent ∧ (w'.rxpdo a).halted = false := by
  have hclear : Prog.Triple (fun w : World n F => True)
      (axes.forM fun b => Prog.modify fun w => w.setRxpdo b f : Server n F PUnit)
      (fun _ w => True ∧ ∀ b ∈ axes, (w.rxpdo b).halted = false) fun _ _ => True := by
    refine Prog.Triple.forM_mem (fun b _ w _ => ⟨trivial, ?_⟩) fun b _ b' w hw => ?_
    · rw [World.setRxpdo_self, hf]
    · exact (haltClear_setRxpdo b fun rx _ => hf rx).clear hw
  have hsent : Prog.Keeps (Prog.Frame.eqOn World.sent)
      (axes.forM fun b => Prog.modify fun w => w.setRxpdo b f : Server n F PUnit) :=
    Prog.Keeps.forM fun _ _ => Prog.Keeps.modify fun _ => rfl
  have h₁ := hclear w trivial
  have h₂ := hsent w
  rw [h] at h₁ h₂
  exact ⟨h₂, h₁.2 a ha⟩

omit [PyFloat F] in
theorem forM_setRxpdo_haltClear (hf : ∀ rx, (f rx).halted = false) :
    Prog.Keeps (clearFrame n F a)
      (axes.forM fun b => Prog.modify fun w => w.setRxpdo b f : Server n F PUnit) :=
  Prog.Keeps.forM fun b _ => Prog.Keeps.modify fun _ => haltClear_setRxpdo b fun rx _ => hf rx

end Loops

theorem exchange_haltClear (env : Env n F) (a : Fin n) :
    Prog.Keeps (clearFrame n F a) (exchange env) :=
  (exchange_haltKept env a).mono fun _ _ h => h.haltClear

/-! ## Position moves -/

theorem waitPpSetpointAck_haltClear (env : Env n F) (a : Fin n) (axes : List (Fin n))
    (expected : Bool) :
    ∀ maxCycles, Prog.Keeps (clearFrame n F a) (waitPpSetpointAck env axes expected maxCycles)
  | 0 => Prog.Keeps.pure _
  | maxCycles + 1 => (exchange_haltClear env a).seq <| Prog.Keeps.get.bind fun _ =>
    (Prog.Keeps.pure _).ite (waitPpSetpointAck_haltClear env a axes expected maxCycles)

/-- The handshake clears the halt bit of its axes before it sends anything. -/
theorem ppSetpointHandshake_clear {env : Env n F} {axes : List (Fin n)} {a : Fin n} (ha : a ∈ axes)
    {w w' : World n F} (h : ppSetpointHandshake env axes w = (.ok (), w')) :
    ∃ w₁, w₁.sent = w.sent ∧ (w₁.rxpdo a).halted = false ∧ HaltClear a w₁ w' := by
  obtain ⟨u, w₁, hset, hrest⟩ := Prog.bind_eq_ok.mp h
  obtain ⟨hsent, hclear⟩ := forM_setRxpdo_clear (fun _ => by rfl) ha hset
  have hwait := waitPpSetpointAck_haltClear env a axes
  have hkeeps : Prog.Keeps (clearFrame n F a) (do
      let ackClearedBefore ← waitPpSetpointAck env axes false ppHandshakeMaxCycles
      setControlwords axes 0x003F
      let ackSet ← waitPpSetpointAck env axes true ppHandshakeMaxCycles
      setControlwords axes 0x000F
      let ackClearedAfter ← waitPpSetpointAck env axes false ppHandshakeMaxCycles
      Prog.raiseIf ((ackClearedBefore && ackSet && ackClearedAfter) = false) .runtimeError) :=
    (hwait false _).bind fun _ => (forM_setRxpdo_haltClear fun _ => by rfl).seq <|
    (hwait true _).bind fun _ => (forM_setRxpdo_haltClear fun _ => by rfl).seq <|
    (hwait false _).bind fun _ => Prog.Keeps.raiseIf _
  have hclear' := hkeeps w₁
  rw [hrest] at hclear'
  exact ⟨w₁, hsent, hclear, hclear'⟩

theorem commandProfilePositions_clear {env : Env n F} {targets : Fin n → F} {axes : List (Fin n)}
    {a : Fin n} (ha : a ∈ axes) {w w' : World n F}
    (h : commandProfilePositions env targets axes w = (.ok (), w')) :
    ∃ w₁, w₁.sent = w.sent ∧ (w₁.rxpdo a).halted = false ∧ HaltClear a w₁ w' := by
  obtain ⟨u, w₁, hset, hhandshake⟩ := Prog.bind_eq_ok.mp h
  have hsent : Prog.Keeps (Prog.Frame.eqOn World.sent) (axes.forM fun a => do
      requirePdoFieldsForMode .pp a
      Prog.modify fun w => w.setRxpdo a fun rx => { rx with modeOfOperation := MotionMode.pp.code }
      let target ← Prog.lift (requireInt32 (targets a))
      Prog.modify fun w => w.setRxpdo a fun rx => { rx with targetPosition := target } :
        Server n F Unit) :=
    Prog.Keeps.forM fun b _ => (keeps_requirePdoFieldsForMode _ b).seq <|
      Prog.Keeps.seq (Prog.Keeps.modify fun _ => rfl) <| (Prog.Keeps.lift _).bind fun _ =>
      Prog.Keeps.modify fun _ => rfl
  have hsent₁ := hsent w
  rw [hset] at hsent₁
  obtain ⟨w₂, hsent₂, hclear⟩ := ppSetpointHandshake_clear ha hhandshake
  exact ⟨w₂, hsent₂.trans hsent₁, hclear⟩

theorem commandCspPositions_haltClear (targets : Fin n → F) (axes : List (Fin n)) (a : Fin n) :
    Prog.Keeps (clearFrame n F a) (commandCspPositions targets axes) :=
  (Prog.Keeps.lift _).bind fun _ => (forM_setRxpdo_haltClear fun _ => by rfl).seq <|
    Prog.Keeps.modify fun _ => haltClear_of_eq rfl rfl

theorem commandCspPositions_clear {targets : Fin n → F} {axes : List (Fin n)} {a : Fin n}
    (ha : a ∈ axes) {w w' : World n F} (h : commandCspPositions targets axes w = (.ok (), w')) :
    w'.sent = w.sent ∧ (w'.rxpdo a).halted = false := by
  unfold commandCspPositions at h
  obtain ⟨checked, w₁, hchecked, hrest⟩ := Prog.bind_eq_ok.mp h
  obtain ⟨-, rfl⟩ := Prog.lift_eq_ok.mp hchecked
  obtain ⟨u, w₂, hset, htargets⟩ := Prog.bind_eq_ok.mp hrest
  cases htargets
  have hclear := forM_setRxpdo_clear (f := fun rx =>
    { rx with modeOfOperation := MotionMode.csp.code, controlword := 0x000F }) (fun _ => by rfl) ha hset
  exact hclear

/-- The images only grow in number. -/
def suffixFrame (n : ℕ) (F : Type) : Prog.Frame (World n F) where
  Rel w w' := w.sent <:+ w'.sent
  refl _ := List.suffix_rfl
  trans _ _ _ h₁ h₂ := h₁.trans h₂

theorem suffixFrame_total (env : Env n F) (a : Fin n) : Frame.Total (suffixFrame n F) env where
  inert _ _ h := ⟨[], h.sent.symm⟩
  setGenerators _ _ _ := List.suffix_rfl
  setRxpdo _ _ _ _ := List.suffix_rfl
  setTargets _ _ _ := List.suffix_rfl
  exchange w := by
    obtain ⟨images, hsent, -⟩ := (exchange_haltKept env a w).images
    exact ⟨images, hsent.symm⟩
  setHoming _ _ := List.suffix_rfl
  setModes _ _ _ := List.suffix_rfl
  setSettings _ _ := List.suffix_rfl
  setRxpdos _ _ := List.suffix_rfl
  close _ := List.suffix_rfl
  setTrajectory _ _ := List.suffix_rfl
  startGenerators _ _ := List.suffix_rfl

/-- The halt bit of an axis that a position move acts on: clear in all images of an axis in PP mode,
and in the next image of an axis in CSP mode. -/
theorem outputPositionAxes_clear {env : Env n F} {axes : List (Fin n)} {a : Fin n} (ha : a ∈ axes)
    {w w' : World n F} (h : outputPositionAxes env axes w = (.ok (), w')) :
    (w.motionModes a = .pp →
      ∃ w₁, w₁.sent = w.sent ∧ (w₁.rxpdo a).halted = false ∧ HaltClear a w₁ w') ∧
    (w.motionModes a = .csp → w.sent <:+ w'.sent ∧ (w'.rxpdo a).halted = false) := by
  unfold outputPositionAxes at h
  rw [Prog.bind_run_ok (Prog.get_run w)] at h
  obtain ⟨u, w₁, hpp, hcsp⟩ := Prog.bind_eq_ok.mp h
  constructor
  · intro hmode
    have hmem : a ∈ axes.filter (w.motionModes · = .pp) :=
      List.mem_filter.mpr ⟨ha, decide_eq_true hmode⟩
    rw [Prog.onlyIf_run (List.ne_nil_of_mem hmem)] at hpp
    obtain ⟨w₂, hsent, hclear, hrest⟩ := commandProfilePositions_clear hmem hpp
    have hlast := (commandCspPositions_haltClear w.targetPositions
      (axes.filter (w.motionModes · = .csp)) a).onlyIf
      (c := axes.filter (w.motionModes · = .csp) ≠ []) w₁
    rw [hcsp] at hlast
    exact ⟨w₂, hsent, hclear, hrest.trans hlast⟩
  · intro hmode
    have hmem : a ∈ axes.filter (w.motionModes · = .csp) :=
      List.mem_filter.mpr ⟨ha, decide_eq_true hmode⟩
    rw [Prog.onlyIf_run (List.ne_nil_of_mem hmem)] at hcsp
    have hpositions : Prog.Keeps (suffixFrame n F) (commandProfilePositions env w.targetPositions
        (axes.filter (w.motionModes · = .pp))) :=
      (suffixFrame_total env a).commandProfilePositions w.targetPositions fun _ _ => trivial
    have hgrow := hpositions.onlyIf (c := axes.filter (w.motionModes · = .pp) ≠ []) w
    rw [hpp] at hgrow
    obtain ⟨hsent, hclear⟩ := commandCspPositions_clear hmem hcsp
    refine ⟨?_, hclear⟩
    rw [hsent]
    exact hgrow

theorem commandPositionAxes_clear {env : Env n F} {axes : List (Fin n)} {positions : Fin n → F}
    {command : String} {a : Fin n} (ha : a ∈ axes) {w w' : World n F}
    (h : commandPositionAxes env axes positions command w = (.ok (), w')) :
    (w.motionModes a = .pp →
      ∃ w₁, w₁.sent = w.sent ∧ (w₁.rxpdo a).halted = false ∧ HaltClear a w₁ w') ∧
    (w.motionModes a = .csp → w.sent <:+ w'.sent ∧ (w'.rxpdo a).halted = false) := by
  unfold commandPositionAxes at h
  obtain ⟨_, w₁, hfaulted, h₁⟩ := Prog.bind_eq_ok.mp h
  obtain rfl := rejectIfAnyDriveFaulted_ok hfaulted
  obtain ⟨_, w₂, hdisabled, h₂⟩ := Prog.bind_eq_ok.mp h₁
  obtain rfl := rejectIfAnyAxisDisabled_ok hdisabled
  rw [Prog.bind_run_ok (Prog.modify_run _ _),
    Prog.tryCatch_eq_ok fun _ _ => Prog.bind_throw_ne_ok] at h₂
  have hclear := outputPositionAxes_clear ha h₂
  exact hclear

/-! ## Velocity moves -/

theorem holdAxes_haltKept (axes : List (Fin n)) (a : Fin n) :
    Prog.Keeps (haltFrame n F a) (holdAxes (F := F) axes) :=
  Prog.Keeps.seq (Prog.Keeps.modify fun _ => haltKept_of_eq rfl rfl) <|
    Prog.Keeps.get.bind fun _ => Prog.Keeps.seq
      (Prog.Keeps.forM fun b _ => (Prog.Keeps.lift _).bind fun _ =>
        Prog.Keeps.modify fun _ => haltKept_setRxpdo b fun _ => by rfl)
      (Prog.Keeps.modify fun _ => haltKept_of_eq rfl rfl)

theorem switchToPv_haltKept (env : Env n F) (a b : Fin n) :
    Prog.Keeps (haltFrame n F a) (switchToPv env b) :=
  Prog.Keeps.get.bind fun _ => Prog.Keeps.onlyIf <| (holdAxes_haltKept [b] a).seq <|
    ((keeps_requirePdoFieldsForMode _ b).seq (configureModeCode_haltKept env a _ b)).seq <|
    Prog.Keeps.modify fun _ => haltKept_of_eq rfl rfl

/-- A velocity move writes the control word of its axis last. -/
theorem commandProfileVelocity_clear (env : Env n F) (a b : Fin n) (velocity : F) :
    Prog.Keeps (clearFrame n F a) (commandProfileVelocity env b velocity) ∧
      ∀ w w' : World n F, commandProfileVelocity env b velocity w = (.ok (), w') →
        (w'.rxpdo b).halted = false := by
  constructor
  · exact (keeps_requirePdoFieldsForMode _ b).seq <| (Prog.Keeps.lift _).bind fun _ =>
      Prog.Keeps.seq (Prog.Keeps.modify fun _ => haltClear_setRxpdo b fun _ h => h) <|
      ((switchToPv_haltKept env a b).mono fun _ _ h => h.haltClear).seq <|
      Prog.Keeps.seq (Prog.Keeps.modify fun _ => haltClear_setRxpdo b fun _ _ => by rfl) <|
      Prog.Keeps.modify fun _ => haltClear_of_eq rfl rfl
  · intro w w' h
    unfold commandProfileVelocity at h
    obtain ⟨_, w₁, -, h₁⟩ := Prog.bind_eq_ok.mp h
    obtain ⟨target, w₂, -, h₂⟩ := Prog.bind_eq_ok.mp h₁
    obtain ⟨_, w₃, -, h₃⟩ := Prog.bind_eq_ok.mp h₂
    obtain ⟨_, w₄, -, h₄⟩ := Prog.bind_eq_ok.mp h₃
    rw [Prog.bind_run_ok (Prog.modify_run _ _)] at h₄
    cases h₄
    have hself := World.setRxpdo_self w₄ b fun rx => { rx with
      modeOfOperation := MotionMode.pv.code
      targetVelocity := target
      controlword := 0x000F }
    exact (congrArg RxPDO.halted hself).trans rfl

omit [PyFloat F] in
theorem rejectIfPvNotAllowed_ok {axes : List (Fin n)} {command : String} {w w' : World n F}
    {u : Unit} (h : rejectIfPvNotAllowed axes command w = (.ok u, w')) : w' = w := by
  unfold rejectIfPvNotAllowed at h
  rw [Prog.bind_run_ok (Prog.get_run w)] at h
  exact (Prog.raiseIf_eq_ok.mp h).2

/-- The velocities of all axes are written without a halt bit before the last two images. -/
theorem commandProfileVelocities_clear {env : Env n F} {axes : List (Fin n)} {velocities : List F}
    {command : String} {a : Fin n} (ha : a ∈ axes) (hlength : axes.length ≤ velocities.length)
    {w w' : World n F} (h : commandProfileVelocities env axes velocities command w = (.ok (), w')) :
    ∃ images before, w'.sent = images ++ before ∧ w.sent <:+ before ∧ images.length = 2 ∧
      (∀ image ∈ images, (image a).halted = false) ∧ (w'.rxpdo a).halted = false := by
  unfold commandProfileVelocities at h
  obtain ⟨_, w₁, hfaulted, h₁⟩ := Prog.bind_eq_ok.mp h
  obtain rfl := rejectIfAnyDriveFaulted_ok hfaulted
  obtain ⟨_, w₂, hdisabled, h₂⟩ := Prog.bind_eq_ok.mp h₁
  obtain rfl := rejectIfAnyAxisDisabled_ok hdisabled
  obtain ⟨_, w₃, hallowed, h₃⟩ := Prog.bind_eq_ok.mp h₂
  obtain rfl := rejectIfPvNotAllowed_ok hallowed
  obtain ⟨_, w₄, hset, hexchange⟩ := Prog.bind_eq_ok.mp h₃
  change ((axes.zip velocities).forM fun p => commandProfileVelocity env p.1 p.2) w₃ = _ at hset
  have hclear : Prog.Triple (fun w : World n F => True)
      ((axes.zip velocities).forM fun p => commandProfileVelocity env p.1 p.2)
      (fun _ w => True ∧ ∀ p ∈ axes.zip velocities, (w.rxpdo p.1).halted = false)
      fun _ _ => True := by
    refine Prog.Triple.forM_mem (R := fun (p : Fin n × F) (w : World n F) => (w.rxpdo p.1).halted = false)
      (fun p _ => ?_) fun p _ p' w hw => ?_
    · exact Prog.Triple.of_ok fun w _ w' _ hrun =>
        ⟨trivial, (commandProfileVelocity_clear env p.1 p.1 p.2).2 w w' hrun⟩
    · exact ((commandProfileVelocity_clear env p'.1 p.1 p.2).1 w).clear hw
  have hsuffix : Prog.Keeps (suffixFrame n F)
      ((axes.zip velocities).forM fun p => commandProfileVelocity env p.1 p.2) :=
    Prog.Keeps.forM fun p _ => (suffixFrame_total env a).commandProfileVelocity trivial p.2
  have hzero := hclear w₃ trivial
  have hgrow := hsuffix w₃
  rw [hset] at hzero hgrow
  obtain ⟨p, hmem, rfl⟩ : ∃ p ∈ axes.zip velocities, Prod.fst p = a := by
    rw [← List.mem_map, List.map_fst_zip hlength]
    exact ha
  obtain ⟨images, hlen, hsends⟩ := repeatN_exchange_sends hexchange
  have ha₄ : (w₄.rxpdo p.1).halted = false := hzero.2 p hmem
  refine ⟨images, w₄.sent, hsends.sent, hgrow, hlen, fun image himage => ?_, ?_⟩
  · rw [← ha₄]
    exact congrArg (Int.testBit · haltBit) (hsends.images image himage p.1)
  · rw [← ha₄]
    exact congrArg (Int.testBit · haltBit) (hsends.controlwords p.1)

/-! ## Trajectories -/

/-- The switch of the axis `b`: an axis that is in CSP mode stays as it is, and `b` loses its halt
bit where it is switched. -/
theorem switchToCsp_halted (a b : Fin n) {w w' : World n F} {changed : Bool}
    (h : switchToCsp b w = (.ok changed, w')) :
    (w.motionModes a = .csp →
      w'.motionModes a = .csp ∧ (w'.rxpdo a).halted = (w.rxpdo a).halted) ∧
    (w.motionModes a ≠ .csp → a = b → w'.motionModes a = .csp ∧ (w'.rxpdo a).halted = false) ∧
    (a ≠ b → w'.motionModes a = w.motionModes a) := by
  unfold switchToCsp at h
  rw [Prog.bind_run_ok (Prog.get_run w)] at h
  by_cases hmode : w.motionModes b = .csp
  · rw [if_pos hmode] at h
    cases h
    refine ⟨fun h => ⟨h, rfl⟩, ?_, fun _ => rfl⟩
    rintro hne rfl
    exact absurd hmode hne
  · rw [if_neg hmode] at h
    obtain ⟨_, w₁, hhold, hrest⟩ := Prog.bind_eq_ok.mp h
    have hmodes := keeps_holdAxes (f := World.motionModes) (fun _ _ => rfl) (fun _ _ => rfl)
      (fun _ _ => rfl) [b] w
    have hkept := holdAxes_haltKept [b] a w
    change (holdAxes [b] w).2.motionModes = w.motionModes at hmodes
    change holdAxes [b] w = _ at hhold
    rw [hhold] at hmodes hkept
    rw [Prog.bind_run_ok (Prog.modify_run _ _), Prog.bind_run_ok (Prog.modify_run _ _)] at hrest
    obtain rfl := (Prod.mk.inj hrest).2
    have hrx := World.setRxpdo_self w₁ b fun rx =>
      { rx with modeOfOperation := MotionMode.csp.code, controlword := 0x000F }
    by_cases hab : a = b
    · subst hab
      refine ⟨fun h => absurd h hmode, fun _ _ => ⟨Function.update_self .., ?_⟩,
        fun h => absurd rfl h⟩
      exact (congrArg RxPDO.halted hrx).trans rfl
    · have hmode_a : (w₁.setMotionMode b .csp).motionModes a = w.motionModes a :=
        (Function.update_of_ne hab ..).trans (congrFun hmodes a)
      refine ⟨fun h => ⟨hmode_a.trans h, ?_⟩, fun _ h => absurd h hab, fun _ => hmode_a⟩
      have hother := World.setRxpdo_of_ne w₁ (fun rx =>
        { rx with modeOfOperation := MotionMode.csp.code, controlword := 0x000F }) hab
      exact (congrArg RxPDO.halted hother).trans hkept.kept

theorem mapM_switchToCsp_halted (a : Fin n) {axes : List (Fin n)} {w w' : World n F}
    {changed : List Bool} (h : axes.mapM switchToCsp w = (.ok changed, w')) :
    (w.motionModes a = .csp → (w'.rxpdo a).halted = (w.rxpdo a).halted) ∧
    (w.motionModes a ≠ .csp → a ∈ axes → (w'.rxpdo a).halted = false) := by
  induction axes generalizing w changed with
  | nil =>
    cases h
    exact ⟨fun _ => rfl, fun _ hmem => absurd hmem List.not_mem_nil⟩
  | cons b axes ih =>
    rw [List.mapM_cons] at h
    obtain ⟨c, w₁, hb, hrest⟩ := Prog.bind_eq_ok.mp h
    obtain ⟨cs, w₂, haxes, hpure⟩ := Prog.bind_eq_ok.mp hrest
    cases hpure
    obtain ⟨hcsp, hself, hother⟩ := switchToCsp_halted a b hb
    obtain ⟨ih₁, ih₂⟩ := ih haxes
    constructor
    · intro hmode
      obtain ⟨hmode₁, hhalted⟩ := hcsp hmode
      exact (ih₁ hmode₁).trans hhalted
    · intro hmode hmem
      by_cases hab : a = b
      · obtain ⟨hmode₁, hhalted⟩ := hself hmode hab
        exact (ih₁ hmode₁).trans hhalted
      · refine ih₂ ?_ ((List.mem_cons.mp hmem).resolve_left hab)
        rw [hother hab]
        exact hmode

theorem ensureCspMode_halted (a : Fin n) {axes : List (Fin n)} {w w' : World n F}
    (h : ensureCspMode axes w = (.ok (), w')) :
    (w.motionModes a = .csp → (w'.rxpdo a).halted = (w.rxpdo a).halted) ∧
    (w.motionModes a ≠ .csp → a ∈ axes → (w'.rxpdo a).halted = false) := by
  obtain ⟨changed, w₁, hswitch, hrest⟩ := Prog.bind_eq_ok.mp h
  have hrx : w'.rxpdo = w₁.rxpdo := by
    by_cases hany : changed.any id = true
    · rw [if_pos hany] at hrest
      cases hrest
      rfl
    · rw [if_neg hany] at hrest
      cases hrest
      rfl
  rw [hrx]
  exact mapM_switchToCsp_halted a hswitch

theorem ensureCspMode_trajectory (axes : List (Fin n)) :
    Prog.Keeps (Prog.Frame.eqOn World.trajectory) (ensureCspMode (F := F) axes) := by
  have hhold (a : Fin n) := keeps_holdAxes (f := World.trajectory (n := n) (F := F))
    (fun _ _ => rfl) (fun _ _ => rfl) (fun _ _ => rfl) [a]
  refine (Prog.Keeps.mapM fun a _ => Prog.Keeps.get.bind fun _ =>
    (Prog.Keeps.pure _).ite ((hhold a).seq ?_)).bind fun _ =>
      (Prog.Keeps.get.bind fun _ => Prog.Keeps.modify fun _ => rfl).ite (Prog.Keeps.pure _)
  exact Prog.Keeps.seq (Prog.Keeps.modify fun _ => rfl) <|
    Prog.Keeps.seq (Prog.Keeps.modify fun _ => rfl) (Prog.Keeps.pure _)

/-- A single point is expanded to a move with its target. -/
theorem sameTarget_expandSinglePoint (trajectory : TrajectoryState n F) (w : World n F) {m : ℕ}
    (axes : Fin m → Fin n) (points : List (TrajectoryPoint F m)) :
    trajectory.sameTarget axes (expandSinglePoint w axes points) =
      trajectory.sameTarget axes points := by
  rcases points with _ | ⟨point, _ | ⟨point', points⟩⟩
  · rfl
  · unfold TrajectoryState.sameTarget expandSinglePoint
    cases trajectory.points.getLast? <;> rfl
  · rfl

theorem moveInCsp_halted {m : ℕ} {axes : Fin m → Fin n} {points : List (TrajectoryPoint F m)}
    {w w' : World n F} (h : moveInCsp axes points w = (.ok (), w')) :
    w.trajectory.sameTarget axes points = true ∧ w' = w ∨
      w.trajectory.sameTarget axes points = false ∧
        ∀ a ∈ List.ofFn axes, (w'.rxpdo a).halted = false := by
  unfold moveInCsp at h
  rw [Prog.bind_run_ok (Prog.get_run w), sameTarget_expandSinglePoint] at h
  by_cases hsame : w.trajectory.sameTarget axes points = true
  · rw [if_pos hsame] at h
    cases h
    exact Or.inl ⟨hsame, rfl⟩
  · right
    refine ⟨Bool.eq_false_of_not_eq_true hsame, fun a ha => ?_⟩
    rw [if_neg hsame] at h
    by_cases hlimits : (validateTrajectoryLimits w.settings axes (expandSinglePoint w axes points)).isSome
    · rw [if_pos hlimits] at h
      exact absurd h Prog.bind_throw_ne_ok
    · rw [if_neg hlimits] at h
      unfold startTrajectory at h
      obtain ⟨_, w₁, hgenerators, hrest⟩ := Prog.bind_eq_ok.mp h
      obtain ⟨_, w₂, hset, htrajectory⟩ := Prog.bind_eq_ok.mp hrest
      cases htrajectory
      obtain ⟨i, rfl⟩ := List.mem_ofFn.mp ha
      have hclear : Prog.Triple (fun w : World n F => True)
          ((List.finRange m).forM fun i => Prog.modify fun w => w.setRxpdo (axes i) fun rx =>
            { rx with modeOfOperation := MotionMode.csp.code, controlword := 0x000F } :
              Server n F PUnit)
          (fun _ w => True ∧ ∀ i ∈ List.finRange m, (w.rxpdo (axes i)).halted = false)
          fun _ _ => True := by
        refine Prog.Triple.forM_mem (R := fun (i : Fin m) (w : World n F) =>
          (w.rxpdo (axes i)).halted = false) (fun i _ w _ => ⟨trivial, ?_⟩) fun i _ i' w hw => ?_
        · rw [World.setRxpdo_self]
          rfl
        · exact (haltClear_setRxpdo (axes i) (f := fun rx =>
            { rx with modeOfOperation := MotionMode.csp.code, controlword := 0x000F })
            fun _ _ => by rfl).clear hw
      have hw₁ := hclear w₁ trivial
      rw [hset] at hw₁
      exact hw₁.2 i (List.mem_finRange i)

/-- The trajectory a request asks for, in drive units. -/
def requestedTrajectory (w : World n F) (message : Message F) :
    Except PyExc (Option (TrajectoryRequest n F)) := do
  trajectoryRequest n (← trajectoryMessageApiToDrive w.units message)

/-- An accepted trajectory clears the halt bits of its axes, unless it is the one that is active:
then it clears those of the axes that it switches to CSP mode. -/
theorem moveApi_halted {message : Message F} {w w' : World n F}
    (h : moveApi message w = (.ok (), w')) : ∃ request,
      requestedTrajectory w message = .ok (some request) ∧ ∀ a ∈ List.ofFn request.axes,
        ((w'.rxpdo a).halted = false ↔
          (w.trajectory.sameTarget request.axes request.points = true → w.motionModes a = .csp →
            (w.rxpdo a).halted = false)) := by
  unfold moveApi at h
  rw [Prog.bind_run_ok (Prog.get_run w)] at h
  obtain ⟨converted, w₁, hconvert, h₁⟩ := Prog.bind_eq_ok.mp h
  obtain ⟨hconverted, rfl⟩ := Prog.lift_eq_ok.mp hconvert
  unfold move at h₁
  obtain ⟨requested, w₂, hrequest, h₂⟩ := Prog.bind_eq_ok.mp h₁
  obtain ⟨hrequested, rfl⟩ := Prog.lift_eq_ok.mp hrequest
  have hreject (w₁ : World n F) : rejectTrajectory w₁ ≠ (.ok (), w') := Prog.bind_throw_ne_ok
  cases requested with
  | none => exact absurd h₂ (hreject _)
  | some request =>
    have hknown : requestedTrajectory w₂ message = .ok (some request) := by
      unfold requestedTrajectory
      rw [hconverted]
      exact hrequested
    refine ⟨request, hknown, fun a ha => ?_⟩
    change moveRequest request w₂ = _ at h₂
    unfold moveRequest at h₂
    rw [Prog.bind_run_ok (Prog.get_run w₂)] at h₂
    by_cases hfaulted : w₂.faultedAxes ≠ []
    · rw [if_pos hfaulted] at h₂
      obtain ⟨_, w₃, -, h₃⟩ := Prog.bind_eq_ok.mp h₂
      obtain ⟨_, w₄, -, h₄⟩ := Prog.bind_eq_ok.mp h₃
      exact absurd h₄ (hreject _)
    · rw [if_neg hfaulted] at h₂
      by_cases hdisabled : w₂.disabledOperationAxes (List.ofFn request.axes) ≠ []
      · rw [if_pos hdisabled] at h₂
        exact absurd h₂ (hreject _)
      · rw [if_neg hdisabled] at h₂
        obtain ⟨_, w₃, hensure, hmove⟩ := Prog.bind_eq_ok.mp h₂
        obtain ⟨hcsp, hother⟩ := ensureCspMode_halted a hensure
        have htrajectory := ensureCspMode_trajectory (List.ofFn request.axes) w₂
        rw [hensure] at htrajectory
        change w₃.trajectory = w₂.trajectory at htrajectory
        rcases moveInCsp_halted hmove with ⟨hsame, rfl⟩ | ⟨hdifferent, hclear⟩
        · rw [htrajectory] at hsame
          by_cases hmode : w₂.motionModes a = .csp
          · rw [hcsp hmode]
            exact ⟨fun h _ _ => h, fun h => h hsame hmode⟩
          · exact iff_of_true (hother hmode ha) fun _ h => absurd h hmode
        · rw [htrajectory] at hdifferent
          refine iff_of_true (hclear a ha) fun h => ?_
          rw [hdifferent] at h
          cases h

/-! ## Requests -/

/-- The axes that a request starts, those of a position move in the modes in which it acts. -/
def startedAxes (w : World n F) (message : Message F) : Command → Except PyExc (List (Fin n))
  | .trajectory => do
    match ← requestedTrajectory w message with
    | none => pure []
    | some request => pure (List.ofFn request.axes)
  | .home | .jogStart | .moveVel _ => selectedAxes n message
  | .moveAbs _ | .moveRel _ => do
    let axes ← selectedAxes n message
    pure (axes.filter fun a => w.motionModes a = .pp ∨ w.motionModes a = .csp)
  | _ => .ok []

/-- Of the images that a request sends, those with the start bit of the axis or its new setpoint. -/
def startImages (command : Command) (mode : MotionMode) (a : Fin n)
    (images : List (Fin n → RxPDO)) : List (Fin n → RxPDO) :=
  match command, mode with
  | .home, _ | .moveAbs _, .pp | .moveRel _, .pp =>
    images.filter fun image => (image a).controlword.testBit homingStartBit
  | .moveVel _, _ => images.take 2
  | _, _ => []

/-- A request starts the axis without its halt bit: it is clear in the images of the request that
start the axis, and in the next one. -/
structure HaltReleased (command : Command) (a : Fin n) (w w' : World n F) : Prop where
  images : ∃ images, w'.sent = images ++ w.sent ∧
    ∀ image ∈ startImages command (w.motionModes a) a images, (image a).halted = false
  next : (w'.rxpdo a).halted = false

/-- What clears the halt bit: any request that starts an axis but a homing, and a trajectory that is
active already. -/
def HaltCleared (w : World n F) (message : Message F) (a : Fin n) : Command → Prop
  | .home => (w.rxpdo a).halted = false
  | .trajectory => ∀ request, requestedTrajectory w message = .ok (some request) →
    w.trajectory.sameTarget request.axes request.points = true → w.motionModes a = .csp →
      (w.rxpdo a).halted = false
  | _ => True

section Handlers

variable {env : Env n F} {w w' : World n F} {message : Message F} {axes : List (Fin n)} {a : Fin n}

omit [PyFloat F] in
/-- The images after the start was written, and those before. -/
theorem haltReleased_of_clear {command : Command} {w₁ : World n F} (hsent : w₁.sent = w.sent)
    (hhalted : (w₁.rxpdo a).halted = false) (hclear : HaltClear a w₁ w') 
    (himages : ∀ images, ∀ image ∈ startImages command (w.motionModes a) a images, image ∈ images) :
    HaltReleased command a w w' := by
  obtain ⟨images, hgrow, hall⟩ := hclear.images
  rw [hsent] at hgrow
  exact ⟨⟨images, hgrow, fun image hmem => hall hhalted image (himages images image hmem)⟩,
    hclear.clear hhalted⟩

omit [PyFloat F] in
theorem haltReleased_of_suffix {command : Command} (hsuffix : w.sent <:+ w'.sent)
    (hhalted : (w'.rxpdo a).halted = false)
    (himages : ∀ images, startImages command (w.motionModes a) a images = []) :
    HaltReleased command a w w' := by
  obtain ⟨images, hsent⟩ := hsuffix
  refine ⟨⟨images, hsent.symm, fun image hmem => ?_⟩, hhalted⟩
  rw [himages] at hmem
  exact absurd hmem List.not_mem_nil

theorem startHoming_released (h : startHoming env message w = (.ok (), w')) :
    HaltReleased .home a w w' ↔ (w.rxpdo a).halted = false := by
  have hkept := startHoming_haltKept env a message w
  rw [h] at hkept
  refine ⟨fun hreleased => hkept.kept ▸ hreleased.next, fun hhalted => ?_⟩
  exact haltReleased_of_clear rfl hhalted hkept.haltClear fun _ _ => List.mem_of_mem_filter

theorem startJog_released (h : startJog env message w = (.ok (), w'))
    (haxes : selectedAxes n message = .ok axes) (ha : a ∈ axes) :
    HaltReleased .jogStart a w w' := by
  have hgrow := (suffixFrame_total env a).startJog message w
  rw [h] at hgrow
  refine haltReleased_of_suffix hgrow ?_ fun _ => rfl
  unfold startJog at h
  obtain ⟨⟨b, direction, speed⟩, w₁, hrequest, h₁⟩ := Prog.bind_eq_ok.mp h
  obtain ⟨_, w₂, -, h₂⟩ := Prog.bind_eq_ok.mp h₁
  obtain ⟨_, w₃, -, h₃⟩ := Prog.bind_eq_ok.mp h₂
  cases h₃
  obtain ⟨hrequest, -⟩ := Prog.lift_eq_ok.mp (rejecting_eq_ok.mp hrequest)
  obtain ⟨b', haxis, hrest⟩ := Except.bind_eq_ok.mp hrequest
  obtain ⟨direction', -, hrest⟩ := Except.bind_eq_ok.mp hrest
  obtain ⟨speed', -, hrest⟩ := Except.bind_eq_ok.mp hrest
  cases hrest
  obtain rfl : [b] = axes := Except.ok.inj ((selectedSingleAxis_eq_ok.mp haxis).symm.trans haxes)
  obtain rfl := List.mem_singleton.mp ha
  have hself := World.setRxpdo_self w₃ a fun rx => { rx with
    modeOfOperation := MotionMode.jog.code
    controlword := jogControlword direction speed }
  refine (congrArg RxPDO.halted hself).trans ?_
  unfold RxPDO.halted
  cases direction <;> cases speed <;> rfl

/-- A position move that acts on the axis. -/
theorem commandPositionAxes_released {command : Command} {name : String} {positions : Fin n → F}
    {w₁ : World n F} (hmodes : w₁.motionModes = w.motionModes) (hsent : w₁.sent = w.sent)
    (h : commandPositionAxes env axes positions name w₁ = (.ok (), w'))
    (hcommand : ∃ several, command = .moveAbs several ∨ command = .moveRel several)
    (ha : a ∈ axes.filter fun a => w.motionModes a = .pp ∨ w.motionModes a = .csp) :
    HaltReleased command a w w' := by
  obtain ⟨hmem, hmode⟩ := List.mem_filter.mp ha
  obtain ⟨hpp, hcsp⟩ := commandPositionAxes_clear hmem h
  rw [hmodes, hsent] at hpp hcsp
  obtain ⟨several, hcommand⟩ := hcommand
  rcases of_decide_eq_true hmode with hmode | hmode
  · obtain ⟨w₂, hsent₂, hhalted, hclear⟩ := hpp hmode
    refine haltReleased_of_clear hsent₂ hhalted hclear ?_
    rw [hmode]
    rcases hcommand with rfl | rfl
    · exact fun _ _ => List.mem_of_mem_filter
    · exact fun _ _ => List.mem_of_mem_filter
  · obtain ⟨hsuffix, hhalted⟩ := hcsp hmode
    refine haltReleased_of_suffix hsuffix hhalted fun images => ?_
    rw [hmode]
    rcases hcommand with rfl | rfl <;> rfl

omit [PyFloat F] in
theorem filter_of_map {p : Fin n → Bool} {axes' : List (Fin n)}
    (hselected : selectedAxes n message = .ok axes)
    (h : (do let axes ← selectedAxes n message
             pure (axes.filter p) : Except PyExc (List (Fin n))) = .ok axes') :
    axes' = axes.filter p := by
  rw [hselected] at h
  exact (Except.ok.inj h).symm

/-- The profile velocity of a move sends nothing. -/
theorem applyMoveProfileVelocity_sent (h : applyMoveProfileVelocity message axes w = (.ok (), w')) :
    w'.motionModes = w.motionModes ∧ w'.sent = w.sent := by
  have hkept := keeps_applyMoveProfileVelocity (f := fun w : World n F => (w.motionModes, w.sent))
    (fun _ _ => rfl) (fun _ _ => rfl) message axes w
  rw [h] at hkept
  exact ⟨congrArg Prod.fst hkept, congrArg Prod.snd hkept⟩

theorem moveAbsolute_released {several : Bool} (h : moveAbsolute env message w = (.ok (), w'))
    (haxes : startedAxes w message (.moveAbs several) = .ok axes) (ha : a ∈ axes) :
    HaltReleased (.moveAbs several) a w w' := by
  unfold moveAbsolute at h
  obtain ⟨⟨axes₁, positions⟩, w₁, hprepare, h₁⟩ := Prog.bind_eq_ok.mp h
  obtain ⟨hselected, -, hprofile⟩ := prepareMoveAbsolute_ok (rejecting_eq_ok.mp hprepare)
  obtain ⟨hmodes, hsent⟩ := applyMoveProfileVelocity_sent hprofile
  dsimp only at h₁
  rw [Prog.bind_run_ok (Prog.get_run w₁)] at h₁
  obtain ⟨_, w₂, hreferenced, h₂⟩ := Prog.bind_eq_ok.mp h₁
  obtain ⟨-, rfl⟩ := Prog.raiseIf_eq_ok.mp hreferenced
  obtain rfl := filter_of_map hselected haxes
  exact commandPositionAxes_released hmodes hsent h₂ ⟨several, Or.inl rfl⟩ ha

theorem moveRelative_released {several : Bool} (h : moveRelative env message w = (.ok (), w'))
    (haxes : startedAxes w message (.moveRel several) = .ok axes) (ha : a ∈ axes) :
    HaltReleased (.moveRel several) a w w' := by
  unfold moveRelative at h
  obtain ⟨⟨axes₁, distances⟩, w₁, hprepare, h₁⟩ := Prog.bind_eq_ok.mp h
  obtain ⟨hselected, -, hprofile⟩ := prepareMoveRelative_ok (rejecting_eq_ok.mp hprepare)
  obtain ⟨hmodes, hsent⟩ := applyMoveProfileVelocity_sent hprofile
  dsimp only at h₁
  rw [Prog.bind_run_ok (Prog.get_run w₁)] at h₁
  obtain ⟨positions, w₂, htargets, h₂⟩ := Prog.bind_eq_ok.mp h₁
  obtain ⟨-, rfl⟩ := Prog.lift_eq_ok.mp htargets
  obtain rfl := filter_of_map hselected haxes
  exact commandPositionAxes_released hmodes hsent h₂ ⟨several, Or.inr rfl⟩ ha

omit [PyFloat F] in
theorem axisVelocitiesFromMessage_length [PyFloat F] {velocities : List F}
    (h : axisVelocitiesFromMessage w message axes = .ok velocities) :
    axes.length ≤ velocities.length := by
  obtain ⟨values, -, hvalues⟩ := Except.bind_eq_ok.mp h
  by_cases hlength : values.length ≠ axes.length
  · rw [if_pos hlength] at hvalues
    cases hvalues
  · rw [if_neg hlength] at hvalues
    cases hvalues
    rw [List.length_map, List.length_zip, not_not.mp hlength, min_self]

theorem moveVelocity_released {several : Bool} (h : moveVelocity env message w = (.ok (), w'))
    (haxes : selectedAxes n message = .ok axes) (ha : a ∈ axes) :
    HaltReleased (.moveVel several) a w w' := by
  unfold moveVelocity at h
  rw [Prog.bind_run_ok (Prog.get_run w)] at h
  obtain ⟨⟨axes₁, velocities⟩, w₁, hprepare, h₁⟩ := Prog.bind_eq_ok.mp h
  obtain ⟨hprepared, rfl⟩ := Prog.lift_eq_ok.mp (rejecting_eq_ok.mp hprepare)
  obtain ⟨axes₂, hselected, hrest⟩ := Except.bind_eq_ok.mp hprepared
  obtain ⟨velocities₂, hvelocities, hpure⟩ := Except.bind_eq_ok.mp hrest
  cases hpure
  obtain rfl : axes₁ = axes := Except.ok.inj (hselected.symm.trans haxes)
  obtain ⟨images, before, hsent, ⟨rest, hbefore⟩, hlength, hclear, hhalted⟩ :=
    commandProfileVelocities_clear ha (axisVelocitiesFromMessage_length hvelocities) h₁
  refine ⟨⟨images ++ rest, ?_, fun image himage => hclear image ?_⟩, hhalted⟩
  · rw [hsent, ← hbefore, List.append_assoc]
  · change image ∈ (images ++ rest).take 2 at himage
    rw [← hlength, List.take_left] at himage
    exact himage

end Handlers

/-- **A request starts an axis without its halt bit exactly when it clears it**: a homing and the
repetition of the active trajectory do not. -/
theorem halt_released_iff {env : Env n F} {w w' : World n F} {client : ℕ} {message : Message F}
    {command : Command} {axes : List (Fin n)} {a : Fin n}
    (hcommand : commandOf (commandName message) = some command)
    (hsuccess : routeMessage env client message w = (.ok (.ok ()), w'))
    (haxes : startedAxes w message command = .ok axes) (ha : a ∈ axes) :
    HaltReleased command a w w' ↔ HaltCleared w message a command := by
  obtain ⟨command', hreach, hhandler⟩ := routeMessage_ok hsuccess
  obtain rfl : command = command' := Option.some.inj (hcommand.symm.trans hreach.known)
  have haccessed {c : Command} (h : HaltReleased c a w.accessed w') : HaltReleased c a w w' :=
    ⟨h.images, h.next⟩
  cases command with
  | trajectory =>
    obtain ⟨request, hrequested, hreleased⟩ := moveApi_halted hhandler
    have hrequested' : requestedTrajectory w message = .ok (some request) := hrequested
    have hmem : a ∈ List.ofFn request.axes := by
      unfold startedAxes at haxes
      rw [hrequested'] at haxes
      cases haxes
      exact ha
    have hiff := hreleased a hmem
    constructor
    · intro h request' hknown
      obtain rfl := Option.some.inj (Except.ok.inj (hrequested'.symm.trans hknown))
      exact hiff.mp h.next
    · intro h
      have hgrow := (suffixFrame_total env a).moveApi message w.accessed
      change moveApi message w.accessed = _ at hhandler
      rw [hhandler] at hgrow
      exact haccessed (haltReleased_of_suffix hgrow (hiff.mpr (h request hrequested')) fun _ => rfl)
  | home =>
    have hiff := startHoming_released (w := w.accessed) (a := a) hhandler
    exact ⟨fun h => hiff.mp ⟨h.images, h.next⟩, fun h => haccessed (hiff.mpr h)⟩
  | moveAbs several =>
    exact iff_of_true (haccessed (moveAbsolute_released hhandler haxes ha)) trivial
  | moveRel several =>
    exact iff_of_true (haccessed (moveRelative_released hhandler haxes ha)) trivial
  | moveVel several =>
    exact iff_of_true (haccessed (moveVelocity_released hhandler haxes ha)) trivial
  | jogStart => exact iff_of_true (haccessed (startJog_released hhandler haxes ha)) trivial
  | _ =>
    cases haxes
    exact absurd ha List.not_mem_nil

/-- The state after the authority request and the other requests. -/
def authorized (requests : List (Event ExtRat)) : World 1 ExtRat :=
  (run (Env.quiet fun _ => enabledDrive)
    (request "system/authority/request" [] :: requests) (unitServer 1)).2

/-- The homing request of the first axis. -/
def homeFirst : Message ExtRat := [("cmd", .str "system/axis/home"), ("axis", .int 0)]

/-- A homing of an axis that was not stopped before. -/
theorem halt_released_iff_home :
    HaltReleased .home (0 : Fin 1) (authorized [])
        (routeMessage (Env.quiet fun _ => enabledDrive) 1 homeFirst (authorized [])).2 ↔
      HaltCleared (authorized []) homeFirst 0 .home := by
  have hsuccess : (routeMessage (Env.quiet fun _ => enabledDrive) 1 homeFirst (authorized [])).1 =
      .ok (.ok ()) := by decide +kernel
  have haxes : startedAxes (authorized []) homeFirst .home = .ok [0] := by decide +kernel
  exact halt_released_iff (by rfl) (Prog.run_eta hsuccess) haxes (by decide)

/-- A homing after a stop is answered with success, and its start bit is sent with the halt bit. -/
theorem halt_of_home :
    let w := authorized [request "system/axis/stop" [("axis", .int 0)]]
    let r := routeMessage (Env.quiet fun _ => enabledDrive) 1 homeFirst w
    r.1 = .ok (.ok ()) ∧ (∃ image ∈ r.2.sent.head?,
      (image 0).controlword.testBit homingStartBit = true ∧ (image 0).halted = true) ∧
      (r.2.rxpdo 0).halted = true := by
  decide +kernel

end MotionServer
