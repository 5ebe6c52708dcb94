import MotionServer.Runs.Exchanges
import MotionServer.Runs.Enabling
import MotionServer.Runs.Moves

/-!
# The set-point handshake

A drive in PP mode takes a target over at a rising edge of a bit of its control word, and says so
with a bit of its status word.

* `Held`, **`exchange_held`**: outside CSP mode an exchange sends a drive what stands for it;
* `HandshakePhase`, `HandedOver`: the three phases of a handshake;
* `ppSetpointHandshake_ok`, `commandProfilePositions_ok`: a handshake that succeeds has all three;
* **`positionMove_handedOver`**: so has every position move that is accepted.
-/

namespace MotionServer

variable {n : ℕ} {F : Type} [PyFloat F]

/-! ## Exchanges outside CSP mode -/

/-- From `w` to `w'` the images were sent and answered; at the axes they were what stood there, which
nothing has changed. -/
structure Held (env : Env n F) (axes : List (Fin n)) (images : List (Fin n → RxPDO))
    (w w' : World n F) : Prop where
  sent : w'.sent = images ++ w.sent
  exchanges : w'.exchanges = w.exchanges + images.length
  rxpdo : ∀ a ∈ axes, w'.rxpdo a = w.rxpdo a
  received : images ≠ [] → env.exchange (w'.exchanges - 1) = .received w'.txpdo
  image : ∀ image ∈ images, ∀ a ∈ axes, image a = w.rxpdo a

omit [PyFloat F] in
theorem Held.trans {env : Env n F} {axes : List (Fin n)} {images images' : List (Fin n → RxPDO)}
    {w w' w'' : World n F} (h : Held env axes images w w') (h' : Held env axes images' w' w'')
    (hne : images' ≠ []) : Held env axes (images' ++ images) w w'' where
  sent := by rw [h'.sent, h.sent, List.append_assoc]
  exchanges := by
    rw [h'.exchanges, h.exchanges, List.length_append]
    omega
  rxpdo a ha := (h'.rxpdo a ha).trans (h.rxpdo a ha)
  image image hmem a ha := by
    rcases List.mem_append.mp hmem with hmem | hmem
    · exact (h'.image image hmem a ha).trans (h.rxpdo a ha)
    · exact h.image image hmem a ha
  received _ := h'.received hne

/-- **Outside CSP mode an exchange sends a drive what stands for it.** -/
theorem exchange_held {env : Env n F} {axes : List (Fin n)} {w w' : World n F}
    (hmode : ∀ a ∈ axes, (w.rxpdo a).modeOfOperation ≠ 8) (h : exchange env w = (.ok (), w')) :
    ∃ image, Held env axes [image] w w' := by
  obtain ⟨_, w₁, hprepare, htransfer⟩ := Prog.bind_eq_ok.mp h
  obtain ⟨⟨generators, rxpdo, rfl⟩, -, -, hprepared⟩ := prepareProcessdata_ok hprepare
  have hkept : ∀ a ∈ axes, rxpdo a = w.rxpdo a := fun a ha => ((hprepared a).other (hmode a ha)).2
  rcases transferProcessdata_cases env _ with ⟨e, -, hrun⟩ | ⟨e, -, hrun⟩ | ⟨txpdo, htx, hrun⟩
  · rw [hrun] at htransfer
    cases htransfer
  · rw [hrun] at htransfer
    cases htransfer
  · rw [hrun] at htransfer
    cases htransfer
    refine ⟨rxpdo, rfl, rfl, hkept, fun _ => htx, fun image hmem a ha => ?_⟩
    rw [List.mem_singleton.mp hmem]
    exact hkept a ha

/-- A wait that ends with its acknowledgement has exchanged, and its last exchange brought it. -/
theorem waitPpSetpointAck_ok {env : Env n F} {axes : List (Fin n)} {expected : Bool}
    {maxCycles : ℕ} {w w' : World n F} (hmode : ∀ a ∈ axes, (w.rxpdo a).modeOfOperation ≠ 8)
    (h : waitPpSetpointAck env axes expected maxCycles w = (.ok true, w')) :
    ∃ images, images ≠ [] ∧ images.length ≤ maxCycles ∧ Held env axes images w w' ∧
      ∀ a ∈ axes, (w'.txpdo a).setpointAck = expected := by
  induction maxCycles generalizing w with
  | zero => cases h
  | succ maxCycles ih =>
    obtain ⟨_, w₁, hexchange, h⟩ := Prog.bind_eq_ok.mp h
    obtain ⟨image, hheld⟩ := exchange_held hmode hexchange
    rw [Prog.bind_run_ok (Prog.get_run w₁)] at h
    split_ifs at h with hack
    · cases h
      exact ⟨[image], List.cons_ne_nil _ _, by simp, hheld, hack⟩
    · have hmode₁ : ∀ a ∈ axes, (w₁.rxpdo a).modeOfOperation ≠ 8 := by
        intro a ha
        rw [hheld.rxpdo a ha]
        exact hmode a ha
      obtain ⟨images, hne, hlength, hrest, hack'⟩ := ih hmode₁ h
      refine ⟨images ++ [image], by simp, ?_, hheld.trans hrest hne, hack'⟩
      rw [List.length_append, List.length_singleton]
      omega

/-! ## The phases -/

/-- One phase of a handshake, from the exchange `start` on: all its images hold the targets and the
control word, and its last exchange brought the acknowledgement. -/
structure HandshakePhase (env : Env n F) (axes : List (Fin n)) (target : Fin n → ℤ)
    (controlword : ℤ) (ack : Bool) (start : ℕ) (images : List (Fin n → RxPDO)) : Prop where
  nonempty : images ≠ []
  length_le : images.length ≤ ppHandshakeMaxCycles
  mode : ∀ image ∈ images, ∀ a ∈ axes, (image a).modeOfOperation = MotionMode.pp.code
  targets : ∀ image ∈ images, ∀ a ∈ axes, (image a).targetPosition = target a
  controlwords : ∀ image ∈ images, ∀ a ∈ axes, (image a).controlword = controlword
  answer : ∃ txpdo, env.exchange (start + images.length - 1) = .received txpdo ∧
    ∀ a ∈ axes, (txpdo a).setpointAck = ack

/-- The targets were handed over between `w` and `w'`: the acknowledgement was seen to be low, the
bit of the control word was raised until it was high, and lowered until it was low again. -/
def HandedOver (env : Env n F) (axes : List (Fin n)) (target : Fin n → ℤ) (w w' : World n F) :
    Prop :=
  ∃ cleared raised lowered, w'.sent = lowered ++ (raised ++ (cleared ++ w.sent)) ∧
    HandshakePhase env axes target 0x000F false w.exchanges cleared ∧
    HandshakePhase env axes target 0x003F true (w.exchanges + cleared.length) raised ∧
    HandshakePhase env axes target 0x000F false
      (w.exchanges + cleared.length + raised.length) lowered

/-- The axes stand in PP mode with their targets. -/
def World.StandsPp (w : World n F) (axes : List (Fin n)) (target : Fin n → ℤ) : Prop :=
  ∀ a ∈ axes, (w.rxpdo a).modeOfOperation = MotionMode.pp.code ∧
    (w.rxpdo a).targetPosition = target a

omit [PyFloat F] in
theorem World.StandsPp.mode_ne {w : World n F} {axes : List (Fin n)} {target : Fin n → ℤ}
    (h : w.StandsPp axes target) : ∀ a ∈ axes, (w.rxpdo a).modeOfOperation ≠ 8 := by
  intro a ha
  rw [(h a ha).1]
  decide

/-- A control word, and the wait for what the drives make of it. -/
theorem handshakePhase_ok {env : Env n F} {axes : List (Fin n)} {target : Fin n → ℤ}
    {controlword : ℤ} {ack : Bool} {w w' : World n F} (hstands : w.StandsPp axes target)
    (h : (do
      setControlwords axes controlword
      waitPpSetpointAck env axes ack ppHandshakeMaxCycles) w = (.ok true, w')) :
    ∃ images, w'.sent = images ++ w.sent ∧ w'.exchanges = w.exchanges + images.length ∧
      HandshakePhase env axes target controlword ack w.exchanges images ∧
      w'.StandsPp axes target := by
  rw [Prog.bind_run_ok (setControlwords_run w axes controlword)] at h
  set w₁ : World n F := { w with
    rxpdo := fun a =>
      if a ∈ axes then { w.rxpdo a with controlword := controlword } else w.rxpdo a } with hw₁
  have hrxpdo : ∀ a ∈ axes, w₁.rxpdo a = { w.rxpdo a with controlword := controlword } :=
    fun a ha => if_pos ha
  have hstands₁ : w₁.StandsPp axes target := by
    intro a ha
    rw [hrxpdo a ha]
    exact hstands a ha
  obtain ⟨images, hne, hlength, hheld, hack⟩ := waitPpSetpointAck_ok hstands₁.mode_ne h
  refine ⟨images, hheld.sent, hheld.exchanges, ?_, fun a ha => ?_⟩
  · have hanswer := hheld.received hne
    rw [hheld.exchanges] at hanswer
    refine ⟨hne, hlength, fun image hmem a ha => ?_, fun image hmem a ha => ?_,
      fun image hmem a ha => ?_, w'.txpdo, hanswer, hack⟩
    · rw [hheld.image image hmem a ha]
      exact (hstands₁ a ha).1
    · rw [hheld.image image hmem a ha]
      exact (hstands₁ a ha).2
    · rw [hheld.image image hmem a ha, hrxpdo a ha]
  · rw [hheld.rxpdo a ha]
    exact hstands₁ a ha

/-- **A handshake that succeeds has handed the targets over.** -/
theorem ppSetpointHandshake_ok {env : Env n F} {axes : List (Fin n)} {target : Fin n → ℤ}
    {w w' : World n F} (hstands : w.StandsPp axes target)
    (h : ppSetpointHandshake env axes w = (.ok (), w')) : HandedOver env axes target w w' := by
  unfold ppSetpointHandshake at h
  obtain ⟨_, w₁, hset₁, h⟩ := Prog.bind_eq_ok.mp h
  obtain ⟨ack₁, w₂, hwait₁, h⟩ := Prog.bind_eq_ok.mp h
  obtain ⟨_, w₃, hset₂, h⟩ := Prog.bind_eq_ok.mp h
  obtain ⟨ack₂, w₄, hwait₂, h⟩ := Prog.bind_eq_ok.mp h
  obtain ⟨_, w₅, hset₃, h⟩ := Prog.bind_eq_ok.mp h
  obtain ⟨ack₃, w₆, hwait₃, h⟩ := Prog.bind_eq_ok.mp h
  obtain ⟨hacks, rfl⟩ := Prog.raiseIf_eq_ok.mp h
  rw [Bool.not_eq_false, Bool.and_eq_true, Bool.and_eq_true] at hacks
  obtain ⟨⟨rfl, rfl⟩, rfl⟩ := hacks
  obtain ⟨cleared, hsent₁, hcount₁, hphase₁, hstands₁⟩ :=
    handshakePhase_ok hstands (Prog.bind_eq_ok.mpr ⟨_, _, hset₁, hwait₁⟩)
  obtain ⟨raised, hsent₂, hcount₂, hphase₂, hstands₂⟩ :=
    handshakePhase_ok hstands₁ (Prog.bind_eq_ok.mpr ⟨_, _, hset₂, hwait₂⟩)
  obtain ⟨lowered, hsent₃, hcount₃, hphase₃, -⟩ :=
    handshakePhase_ok hstands₂ (Prog.bind_eq_ok.mpr ⟨_, _, hset₃, hwait₃⟩)
  rw [hcount₁] at hcount₂ hphase₂
  rw [hcount₂] at hphase₃
  refine ⟨cleared, raised, lowered, ?_, hphase₁, hphase₂, hphase₃⟩
  rw [hsent₃, hsent₂, hsent₁]

/-! ## Position moves -/

/-- The axis stands in PP mode with its requested target. -/
def World.PpWritten (targets : Fin n → F) (a : Fin n) (w : World n F) : Prop :=
  (w.rxpdo a).modeOfOperation = MotionMode.pp.code ∧
    requireInt32 (targets a) = .ok (w.rxpdo a).targetPosition

/-- The loop that writes the targets: each axis it writes is given its mode and its target. -/
theorem ppWrite_triple (targets : Fin n → F) (axes : List (Fin n)) (w : World n F) :
    Prog.Triple (fun w' => w'.sent = w.sent ∧ w'.exchanges = w.exchanges)
      (axes.forM fun a => do
        requirePdoFieldsForMode .pp a
        Prog.modify fun w => w.setRxpdo a fun rx => { rx with modeOfOperation := MotionMode.pp.code }
        let target ← Prog.lift (requireInt32 (targets a))
        Prog.modify fun w => w.setRxpdo a fun rx => { rx with targetPosition := target } :
          Server n F Unit)
      (fun _ w' => (w'.sent = w.sent ∧ w'.exchanges = w.exchanges) ∧
        ∀ a ∈ axes, w'.PpWritten targets a) fun _ _ => True := by
  refine Prog.Triple.forM_mem (fun a _ => ?_) fun a _ b => ?_
  · refine Prog.Triple.of_ok fun w₁ _ w' hw₁ h => ?_
    obtain ⟨_, w₂, hfields, h₁⟩ := Prog.bind_eq_ok.mp h
    have hkept : (requirePdoFieldsForMode .pp a w₁).2 = w₁ :=
      (keeps_requirePdoFieldsForMode .pp a : Prog.Keeps (.eqOn id) _) w₁
    rw [hfields] at hkept
    obtain rfl : w₂ = w₁ := hkept
    rw [Prog.bind_run_ok (Prog.modify_run _ _)] at h₁
    obtain ⟨target, w₃, htarget, h₂⟩ := Prog.bind_eq_ok.mp h₁
    obtain ⟨hround, rfl⟩ := Prog.lift_eq_ok.mp htarget
    cases h₂
    refine ⟨hw₁, ?_, ?_⟩
    · rw [World.setRxpdo_self, World.setRxpdo_self]
    · rw [World.setRxpdo_self]
      exact hround
  · refine (keeps_requirePdoFieldsForMode .pp a).seq <| (Prog.Keeps.modify fun w₁ hw₁ => ?_).seq <|
      Prog.Keeps.lift_bind fun target htarget => Prog.Keeps.modify fun w₁ hw₁ => ?_
    · by_cases hba : b = a
      · subst hba
        rw [World.PpWritten, World.setRxpdo_self]
        exact ⟨rfl, hw₁.2⟩
      · rw [World.PpWritten, World.setRxpdo_of_ne _ _ hba]
        exact hw₁
    · by_cases hba : b = a
      · subst hba
        rw [World.PpWritten, World.setRxpdo_self]
        exact ⟨hw₁.1, htarget⟩
      · rw [World.PpWritten, World.setRxpdo_of_ne _ _ hba]
        exact hw₁

/-- The target of an axis on the wire. -/
def wireTarget (targets : Fin n → F) (a : Fin n) : ℤ :=
  match requireInt32 (targets a) with
  | .ok target => target
  | .error _ => 0

theorem commandProfilePositions_ok {env : Env n F} {targets : Fin n → F} {axes : List (Fin n)}
    {w w' : World n F} (h : commandProfilePositions env targets axes w = (.ok (), w')) :
    (∀ a ∈ axes, requireInt32 (targets a) = .ok (wireTarget targets a)) ∧
      HandedOver env axes (wireTarget targets) w w' := by
  obtain ⟨_, w₁, hwrite, hhandshake⟩ := Prog.bind_eq_ok.mp h
  have hwritten := ppWrite_triple targets axes w w ⟨rfl, rfl⟩
  rw [hwrite] at hwritten
  obtain ⟨⟨hsent, hexchanges⟩, hpp⟩ := hwritten
  have htarget : ∀ a ∈ axes, (w₁.rxpdo a).targetPosition = wireTarget targets a := by
    intro a ha
    rw [wireTarget, (hpp a ha).2]
  refine ⟨fun a ha => ?_, ?_⟩
  · rw [(hpp a ha).2, htarget a ha]
  · have hover := ppSetpointHandshake_ok (fun a ha => ⟨(hpp a ha).1, htarget a ha⟩) hhandshake
    unfold HandedOver at hover ⊢
    rw [hsent, hexchanges] at hover
    exact hover

omit [PyFloat F] in
/-- The images of a handshake and the number of its first exchange say all about it. -/
theorem HandedOver.congr {env : Env n F} {axes : List (Fin n)} {target : Fin n → ℤ}
    {w₁ w₁' w₂ w₂' : World n F} (h : HandedOver env axes target w₁ w₁')
    (hsent : w₂.sent = w₁.sent) (hexchanges : w₂.exchanges = w₁.exchanges)
    (hsent' : w₂'.sent = w₁'.sent) : HandedOver env axes target w₂ w₂' := by
  unfold HandedOver at h ⊢
  rw [hsent, hexchanges, hsent']
  exact h

/-- What an accepted position move has handed over to its axes in PP mode. -/
def PpHandedOver (env : Env n F) (axes : List (Fin n)) (w w' : World n F) : Prop :=
  axes.filter (w.motionModes · = .pp) ≠ [] → ∃ target : Fin n → ℤ,
    (∀ a ∈ axes.filter (w.motionModes · = .pp),
      requireInt32 (w'.targetPositions a) = .ok (target a)) ∧
    HandedOver env (axes.filter (w.motionModes · = .pp)) target w w'

theorem outputPositionAxes_handedOver {env : Env n F} {axes : List (Fin n)} {w w' : World n F}
    (h : outputPositionAxes env axes w = (.ok (), w')) : PpHandedOver env axes w w' := by
  have hexchange : Prog.Keeps (.eqOn fun w : World n F => w.targetPositions) (exchange env) :=
    keeps_exchange (fun _ _ h => h.targetPositions) (fun _ _ _ _ _ => rfl) (fun _ _ _ => rfl)
      (fun _ => rfl) fun _ _ _ => rfl
  have htargets := keeps_outputPositionAxes (fun _ _ => rfl) hexchange (fun _ _ => rfl) axes w
  rw [h] at htargets
  change w'.targetPositions = w.targetPositions at htargets
  unfold outputPositionAxes at h
  rw [Prog.bind_run_ok (Prog.get_run w)] at h
  obtain ⟨_, w₁, hpp, hcsp⟩ := Prog.bind_eq_ok.mp h
  intro hne
  rw [Prog.onlyIf_run hne] at hpp
  obtain ⟨hround, hover⟩ := commandProfilePositions_ok hpp
  refine ⟨wireTarget w.targetPositions, ?_, hover.congr rfl rfl ?_⟩
  · rw [htargets]
    exact hround
  · have hsent := (keeps_commandCspPositions (f := fun w : World n F => w.sent) (fun _ _ => rfl)
      (fun _ _ => rfl) w.targetPositions (axes.filter (w.motionModes · = .csp))).onlyIf
      (c := axes.filter (w.motionModes · = .csp) ≠ []) w₁
    rw [hcsp] at hsent
    exact hsent

theorem commandPositionAxes_handedOver {env : Env n F} {axes : List (Fin n)}
    {positions : Fin n → F} {command : String} {w w' : World n F}
    (h : commandPositionAxes env axes positions command w = (.ok (), w')) :
    PpHandedOver env axes w w' := by
  unfold commandPositionAxes at h
  obtain ⟨_, w₁, hfaulted, h₁⟩ := Prog.bind_eq_ok.mp h
  obtain rfl := rejectIfAnyDriveFaulted_ok hfaulted
  obtain ⟨_, w₂, hdisabled, h₂⟩ := Prog.bind_eq_ok.mp h₁
  obtain rfl := rejectIfAnyAxisDisabled_ok hdisabled
  rw [Prog.bind_run_ok (Prog.modify_run _ _),
    Prog.tryCatch_eq_ok fun _ _ => Prog.bind_throw_ne_ok] at h₂
  intro hne
  obtain ⟨target, htarget, hover⟩ := outputPositionAxes_handedOver h₂ hne
  exact ⟨target, htarget, hover.congr rfl rfl rfl⟩

/-- The profile velocity of a move changes neither modes nor what was exchanged. -/
theorem applyMoveProfileVelocity_exchanged {message : Message F} {axes : List (Fin n)}
    {w w' : World n F} (h : applyMoveProfileVelocity message axes w = (.ok (), w')) :
    w'.motionModes = w.motionModes ∧ w'.sent = w.sent ∧ w'.exchanges = w.exchanges := by
  have hkept := keeps_applyMoveProfileVelocity
    (f := fun w : World n F => (w.motionModes, w.sent, w.exchanges)) (fun _ _ => rfl)
    (fun _ _ => rfl) message axes w
  rw [h] at hkept
  simpa [Prog.Frame.eqOn] using hkept

theorem PpHandedOver.congr {env : Env n F} {axes : List (Fin n)} {w₁ w₂ w' : World n F}
    (h : PpHandedOver env axes w₁ w')
    (hkept : w₁.motionModes = w₂.motionModes ∧ w₁.sent = w₂.sent ∧ w₁.exchanges = w₂.exchanges) :
    PpHandedOver env axes w₂ w' := by
  obtain ⟨hmodes, hsent, hexchanges⟩ := hkept
  unfold PpHandedOver at h ⊢
  rw [← hmodes]
  intro hne
  obtain ⟨target, htarget, hover⟩ := h hne
  exact ⟨target, htarget, hover.congr hsent.symm hexchanges.symm rfl⟩

/-- A referenced drive in PP mode that acknowledges the set-point of its second exchange. -/
def acknowledgingDrive : Env 1 ExtRat :=
  { Env.quiet fun _ => enabledDrive with
    exchange := fun k => .received fun _ =>
      { statusword := if k = 1 then 0x9027 else 0x8027, actualPosition := 10 } }

/-- A server with the drive, for the client 1. -/
def ppServer : World 1 ExtRat :=
  { unitServer 1 with
    motionModes := fun _ => .pp
    txpdo := fun _ => { statusword := 0x8027, actualPosition := 10 }
    commandAuthorityOwner := some 1 }

end MotionServer
