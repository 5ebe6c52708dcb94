import MotionServer.App.Server

/-!
# What the operations leave alone

A frame says what a run may do to the state. Each operation is followed once, for every frame that
allows the writes it makes.

* `CspTrajectoryGenerator.Tame`: a generator that plays on, or plays nothing;
* `Inert`: the states agree in what the claims about runs look at; `Frame.Still` allows no more;
* `Frame.Calm`: setpoints at the axes in `P`, and exchanges: `Frame.Calm.holdAxes`, …;
* `Frame.Moded`: modes too: `Frame.Moded.switchToPv`, …;
* `Frame.Local`: homings too: **`Frame.Local.finishHoming_rel`**;
* `Frame.Recovering`, `Frame.Whole`: the recoveries too, the latter with homings;
* `Frame.Moving`, `Frame.Total`: trajectories too, so that **`Frame.Moving.handler`** holds of every
  command but the one that starts a homing, and **`Frame.Total.handler`** of that one too.
-/

namespace MotionServer

variable {n : ℕ} {F : Type}

/-- The generator starts no trajectory: what it plays it played before. -/
def CspTrajectoryGenerator.Tame (g g' : CspTrajectoryGenerator F) : Prop :=
  g'.timedActive = true → g.timedActive = true ∧ g'.timedPoints = g.timedPoints

theorem CspTrajectoryGenerator.tame_of_inactive {g g' : CspTrajectoryGenerator F}
    (h : g'.timedActive = false) : g.Tame g' := fun h' => absurd h' (by simp [h])

/-- The states agree but for what is read from the drives and the states of the recovery. -/
structure Inert (w w' : World n F) : Prop where
  generators : w'.generators = w.generators
  settings : w'.settings = w.settings
  rxpdo : w'.rxpdo = w.rxpdo
  targetPositions : w'.targetPositions = w.targetPositions
  trajectory : w'.trajectory = w.trajectory
  homing : w'.homing = w.homing
  motionModes : w'.motionModes = w.motionModes
  jogPreviousModes : w'.jogPreviousModes = w.jogPreviousModes
  commandAuthorityOwner : w'.commandAuthorityOwner = w.commandAuthorityOwner
  phase : w'.phase = w.phase
  exchanges : w'.exchanges = w.exchanges
  sent : w'.sent = w.sent

variable [PyFloat F]

omit [PyFloat F] in
/-- The frame allows what is read from the drives. -/
structure Frame.Still (Fr : Prog.Frame (World n F)) : Prop where
  inert : ∀ w w', Inert w w' → Fr.Rel w w'

/-- The frame allows setpoints at the axes in `P`, and exchanges. -/
structure Frame.Calm (Fr : Prog.Frame (World n F)) (env : Env n F) (P : Fin n → Prop) : Prop
    extends Frame.Still Fr where
  setGenerators : ∀ w generators,
    (∀ a, generators a = w.generators a ∨ P a ∧ (w.generators a).Tame (generators a)) →
      Fr.Rel w { w with generators := generators }
  setRxpdo : ∀ w a f, P a ∨ (∀ rx, (f rx).modeOfOperation = rx.modeOfOperation) →
    Fr.Rel w (w.setRxpdo a f)
  setTargets : ∀ w targetPositions,
    (∀ a, targetPositions a = w.targetPositions a ∨ P a) →
      Fr.Rel w { w with targetPositions := targetPositions }
  exchange : Prog.Keeps Fr (exchange env)

/-- The frame also allows the modes of the axes in `P` to change. -/
structure Frame.Moded (Fr : Prog.Frame (World n F)) (env : Env n F) (P : Fin n → Prop) : Prop
    extends Frame.Calm Fr env P where
  setModes : ∀ w motionModes jogPreviousModes,
    Fr.Rel w { w with motionModes := motionModes, jogPreviousModes := jogPreviousModes }

/-- The frame also allows their homing to change. -/
structure Frame.Local (Fr : Prog.Frame (World n F)) (env : Env n F) (P : Fin n → Prop) : Prop
    extends Frame.Moded Fr env P where
  setHoming : ∀ w homing, Fr.Rel w { w with homing := homing }

/-- The frame allows what a recovery writes. -/
structure Frame.Recovering (Fr : Prog.Frame (World n F)) (env : Env n F) : Prop
    extends Frame.Moded Fr env fun _ => True where
  setSettings : ∀ w settings, Fr.Rel w { w with settings := settings }
  setRxpdos : ∀ w rxpdo, Fr.Rel w { w with rxpdo := rxpdo }
  close : ∀ w, Fr.Rel w { w with connected := false, phase := .idle }

/-- The frame allows what an operation writes that does not end or start a trajectory. -/
structure Frame.Whole (Fr : Prog.Frame (World n F)) (env : Env n F) : Prop
    extends Frame.Local Fr env fun _ => True, Frame.Recovering Fr env

/-- The frame allows what a command writes that leaves the homing alone. -/
structure Frame.Moving (Fr : Prog.Frame (World n F)) (env : Env n F) : Prop
    extends Frame.Recovering Fr env where
  setTrajectory : ∀ w trajectory, Fr.Rel w { w with trajectory := trajectory }
  startGenerators : ∀ w generators, Fr.Rel w { w with generators := generators }

/-- The frame allows what any command writes. -/
structure Frame.Total (Fr : Prog.Frame (World n F)) (env : Env n F) : Prop
    extends Frame.Whole Fr env, Frame.Moving Fr env

section Guards

variable {Fr : Prog.Frame (World n F)}

omit [PyFloat F] in
theorem keeps_requirePdoFieldsForMode (mode : MotionMode) (a : Fin n) :
    Prog.Keeps Fr (requirePdoFieldsForMode mode a) :=
  Prog.Keeps.get.bind fun _ => Prog.Keeps.raiseIf _

omit [PyFloat F] in
theorem keeps_rejectIfAnyAxisDisabled (axes : List (Fin n)) (command : String) :
    Prog.Keeps Fr (rejectIfAnyAxisDisabled axes command) :=
  Prog.Keeps.get.bind fun _ => Prog.Keeps.raiseIf _

omit [PyFloat F] in
theorem keeps_rejectIfPvNotAllowed (axes : List (Fin n)) (command : String) :
    Prog.Keeps Fr (rejectIfPvNotAllowed axes command) :=
  Prog.Keeps.get.bind fun _ => Prog.Keeps.raiseIf _

omit [PyFloat F] in
theorem Prog.Keeps.rejecting {α : Type} (command : String) {m : Server n F α}
    (hm : Prog.Keeps Fr m) : Prog.Keeps Fr (rejecting command m) :=
  hm.tryCatch fun _ => Prog.Keeps.throw _

end Guards

/-- The part of an exchange before the master takes the process image. -/
theorem keeps_commands {Fr : Prog.Frame (World n F)}
    (hupdate : ∀ w a g, (w.rxpdo a).modeOfOperation = 8 → w.updateGenerator a = .ok g →
      Fr.Rel w (w.setGenerator a g))
    (happly : ∀ w a command, Fr.Rel w (w.setRxpdo a fun rx => rx.applyCommand command)) :
    Prog.Keeps Fr (updateCommands >>= applyCommands : Server n F Unit) := by
  refine (Prog.Keeps.mapM fun a _ => Prog.Keeps.bind ?_ fun _ => Prog.Keeps.pure _).bind
    fun commands => Prog.Keeps.forM fun (a, command) _ => ?_
  · refine Prog.keeps_get_bind fun w => ?_
    by_cases hmode : (w.rxpdo a).modeOfOperation = 8
    · rw [if_neg (not_not.mpr hmode)]
      cases hg : w.updateGenerator a with
      | error e => exact Fr.refl w
      | ok g =>
        refine Fr.trans _ _ _ (hupdate w a g hmode hg) ?_
        exact ((Prog.Keeps.lift _).bind fun _ => (Prog.Keeps.lift _).bind fun _ =>
          Prog.Keeps.pure _) (w.setGenerator a g)
    · rw [if_pos hmode]
      exact Fr.refl w
  · cases command with
    | none => exact Prog.Keeps.pure _
    | some command => exact Prog.Keeps.modify fun w => happly w a command

theorem prepareProcessdata_eq : (prepareProcessdata : Server n F Unit) =
    (updateCommands >>= applyCommands) >>= fun _ => prepareMaster := by
  rw [bind_assoc]
  rfl

theorem keeps_prepare {Fr : Prog.Frame (World n F)}
    (hupdate : ∀ w a g, (w.rxpdo a).modeOfOperation = 8 → w.updateGenerator a = .ok g →
      Fr.Rel w (w.setGenerator a g))
    (happly : ∀ w a command, Fr.Rel w (w.setRxpdo a fun rx => rx.applyCommand command))
    (hphase : ∀ w, Fr.Rel w { w with phase := .prepared }) :
    Prog.Keeps Fr (prepareProcessdata (n := n) (F := F)) := by
  rw [prepareProcessdata_eq]
  exact (keeps_commands hupdate happly).seq <| Prog.Keeps.get.bind fun _ =>
    (Prog.Keeps.raiseIf _).seq <| (Prog.Keeps.raiseIf _).seq <|
    (Prog.Keeps.forM fun _ _ => Prog.Keeps.lift _).seq (Prog.Keeps.modify hphase)

/-- A frame that allows the update of a generator, and what else an exchange writes. -/
theorem keeps_exchange {Fr : Prog.Frame (World n F)} {env : Env n F}
    (hinert : ∀ w w', Inert w w' → Fr.Rel w w')
    (hupdate : ∀ w a g, (w.rxpdo a).modeOfOperation = 8 → w.updateGenerator a = .ok g →
      Fr.Rel w (w.setGenerator a g))
    (happly : ∀ w a command, Fr.Rel w (w.setRxpdo a fun rx => rx.applyCommand command))
    (hcount : ∀ w, Fr.Rel w { w with exchanges := w.exchanges + 1 })
    (hphase : ∀ w phase sent, Fr.Rel w { w with phase := phase, sent := sent }) :
    Prog.Keeps Fr (exchange env) := by
  refine (keeps_prepare hupdate happly fun w => hphase w .prepared w.sent).seq ?_
  refine Prog.Keeps.get.bind fun w => (Prog.Keeps.modify hcount).seq ?_
  cases env.exchange w.exchanges with
  | sendError e => exact Prog.Keeps.throw e
  | receiveError e =>
    exact (Prog.Keeps.modify fun w => hphase w .sent (w.rxpdo :: w.sent)).seq (Prog.Keeps.throw e)
  | received txpdo =>
    exact Prog.Keeps.modify fun w => Fr.trans _ { w with txpdo := txpdo } _
      (hinert _ _ (by constructor <;> rfl)) (hphase _ .idle (w.rxpdo :: w.sent))

/-- A hold writes generators, process data and targets. -/
theorem keeps_holdAxes {α : Type} {f : World n F → α}
    (hg : ∀ w generators, f { w with generators := generators } = f w)
    (hrx : ∀ w rxpdo, f { w with rxpdo := rxpdo } = f w)
    (ht : ∀ w targets, f { w with targetPositions := targets } = f w) (axes : List (Fin n)) :
    Prog.Keeps (Prog.Frame.eqOn f) (holdAxes axes) :=
  Prog.Keeps.seq (Prog.Keeps.modify fun w => hg w _) <| Prog.Keeps.get.bind fun _ =>
    Prog.Keeps.seq (Prog.Keeps.forM fun _ _ => (Prog.Keeps.lift _).bind fun _ =>
      Prog.Keeps.modify fun w => hrx w _) (Prog.Keeps.modify fun w => ht w _)

/-! ## Accesses -/

namespace Frame.Still

variable {Fr : Prog.Frame (World n F)} (h : Frame.Still Fr)
include h

omit [PyFloat F]

theorem modify_inert {f : World n F → World n F} (hf : ∀ w, Inert w (f w)) :
    Prog.Keeps Fr (Prog.modify f : Server n F Unit) :=
  Prog.Keeps.modify fun w => h.inert w (f w) (hf w)

theorem access {α : Type} (answer : ℕ → α) : Prog.Keeps Fr (access (F := F) (n := n) answer) :=
  Prog.Keeps.get.bind fun _ =>
    (h.modify_inert fun _ => by constructor <;> rfl).seq (Prog.Keeps.pure _)

theorem blockingOperation (env : Env n F) : Prog.Keeps Fr (blockingOperation env) :=
  (h.access _).bind fun e => by
    cases e with
    | none => exact Prog.Keeps.pure _
    | some e => exact Prog.Keeps.throw e

theorem writeSdo (env : Env n F) : Prog.Keeps Fr (writeSdo env) :=
  Prog.Keeps.get.bind fun _ => (Prog.Keeps.raiseIf _).seq (h.blockingOperation env)

end Frame.Still

/-! ## Setpoints -/

namespace Frame.Calm

variable {Fr : Prog.Frame (World n F)} {env : Env n F} {P : Fin n → Prop}

section Axes

variable (h : Frame.Calm Fr env P)
include h

theorem exchanges (k : ℕ) : Prog.Keeps Fr ((MotionServer.exchange env).repeatN k) :=
  h.exchange.repeatN k

/-- A write that keeps the mode may be made at any axis. -/
theorem modify_rxpdo (a : Fin n) {f : World n F → RxPDO → RxPDO}
    (hf : ∀ w rx, (f w rx).modeOfOperation = rx.modeOfOperation) :
    Prog.Keeps Fr (Prog.modify fun w => w.setRxpdo a (f w) : Server n F Unit) :=
  Prog.Keeps.modify fun w => h.setRxpdo w a (f w) (Or.inr (hf w))

theorem modify_rxpdo_of {a : Fin n} (ha : P a) (f : World n F → RxPDO → RxPDO) :
    Prog.Keeps Fr (Prog.modify fun w => w.setRxpdo a (f w) : Server n F Unit) :=
  Prog.Keeps.modify fun w => h.setRxpdo w a (f w) (Or.inl ha)

theorem setTargetPosition (a : Fin n) (position : F) :
    Prog.Keeps Fr (setTargetPosition a position) :=
  (Prog.Keeps.lift _).bind fun _ => h.modify_rxpdo a fun _ _ => by rfl

theorem setControlwords (axes : List (Fin n)) (controlword : ℤ) :
    Prog.Keeps Fr (setControlwords (F := F) axes controlword) :=
  Prog.Keeps.forM fun a _ => h.modify_rxpdo a fun _ _ => by rfl

theorem setEachControlword (axes : List (Fin n)) (controlword : Fin n → ℤ) :
    Prog.Keeps Fr (setEachControlword (F := F) axes controlword) :=
  Prog.Keeps.forM fun a _ => h.modify_rxpdo a fun _ _ => by rfl

theorem setHomingStartBit (axes : List (Fin n)) (enabled : Bool) :
    Prog.Keeps Fr (setHomingStartBit (F := F) axes enabled) :=
  Prog.Keeps.forM fun a _ => h.modify_rxpdo a fun _ _ => by cases enabled <;> rfl

theorem holdAxes {axes : List (Fin n)} (hP : ∀ a ∈ axes, P a) :
    Prog.Keeps Fr (holdAxes (F := F) axes) := by
  refine (Prog.Keeps.modify fun w => h.setGenerators w _ fun a => ?_).seq <|
    Prog.Keeps.get.bind fun w => (Prog.Keeps.forM fun b _ => h.setTargetPosition b _).seq <|
    Prog.Keeps.modify fun w => h.setTargets w _ fun a => ?_
  · by_cases ha : a ∈ axes
    · rw [if_pos ha]
      exact Or.inr ⟨hP a ha, CspTrajectoryGenerator.tame_of_inactive rfl⟩
    · rw [if_neg ha]
      exact Or.inl rfl
  · by_cases ha : a ∈ axes
    · exact Or.inr (hP a ha)
    · exact Or.inl (if_neg ha)

theorem holdAxisAtActualPosition {a : Fin n} (ha : P a) :
    Prog.Keeps Fr (holdAxisAtActualPosition (F := F) a) :=
  h.holdAxes fun _ hb => (List.mem_singleton.mp hb).symm ▸ ha

theorem syncVelocityCommand {a : Fin n} (ha : P a) (velocity : F) :
    Prog.Keeps Fr (syncVelocityCommand a velocity) := by
  refine Prog.Keeps.modify fun w => h.setGenerators w _ ?_
  intro b
  by_cases hb : b = a
  · subst hb
    rw [Function.update_self]
    exact Or.inr ⟨ha, fun h' => ⟨h', rfl⟩⟩
  · exact Or.inl (Function.update_of_ne hb _ _)

theorem configureModeCode (mode : MotionMode) {a : Fin n} (ha : P a) :
    Prog.Keeps Fr (configureModeCode env mode a) :=
  (h.modify_rxpdo_of ha fun _ _ => _).seq ((h.writeSdo env).seq (h.exchanges 5))

theorem configureMotionMode (mode : MotionMode) {a : Fin n} (ha : P a) :
    Prog.Keeps Fr (configureMotionMode env mode a) :=
  (keeps_requirePdoFieldsForMode mode a).seq (h.configureModeCode mode ha)

theorem waitPpSetpointAck (axes : List (Fin n)) (expected : Bool) :
    ∀ maxCycles, Prog.Keeps Fr (waitPpSetpointAck env axes expected maxCycles)
  | 0 => Prog.Keeps.pure _
  | maxCycles + 1 => h.exchange.seq <| Prog.Keeps.get.bind fun _ =>
    (Prog.Keeps.pure _).ite (waitPpSetpointAck axes expected maxCycles)

theorem ppSetpointHandshake (axes : List (Fin n)) :
    Prog.Keeps Fr (ppSetpointHandshake env axes) :=
  (h.setControlwords axes 0x000F).seq <|
  (h.waitPpSetpointAck axes false ppHandshakeMaxCycles).bind fun _ =>
  (h.setControlwords axes 0x003F).seq <|
  (h.waitPpSetpointAck axes true ppHandshakeMaxCycles).bind fun _ =>
  (h.setControlwords axes 0x000F).seq <|
  (h.waitPpSetpointAck axes false ppHandshakeMaxCycles).bind fun _ =>
  Prog.Keeps.raiseIf _

theorem commandProfilePositions (targetPositions : Fin n → F) {axes : List (Fin n)}
    (hP : ∀ a ∈ axes, P a) : Prog.Keeps Fr (commandProfilePositions env targetPositions axes) :=
  (Prog.Keeps.forM fun a ha => (keeps_requirePdoFieldsForMode _ a).seq <|
    (h.modify_rxpdo_of (hP a ha) fun _ _ => _).seq <| (Prog.Keeps.lift _).bind fun _ =>
    h.modify_rxpdo a fun _ _ => by rfl).seq (h.ppSetpointHandshake axes)

theorem requestAxisHalt (a : Fin n) : Prog.Keeps Fr (requestAxisHalt (F := F) a) :=
  h.modify_rxpdo a fun _ _ => by rfl

theorem disableAxis {a : Fin n} (ha : P a) : Prog.Keeps Fr (disableAxis (F := F) a) :=
  (h.holdAxisAtActualPosition ha).seq (h.modify_rxpdo a fun _ _ => by rfl)

end Axes

section Machine

variable (h : Frame.Calm Fr env fun _ => True)
include h

theorem modify_targets (f : World n F → Fin n → F) :
    Prog.Keeps Fr (Prog.modify fun w => { w with targetPositions := f w } : Server n F Unit) :=
  Prog.Keeps.modify fun w => h.setTargets w _ fun _ => Or.inr trivial

theorem setTargetPositions (targetPositions : Fin n → F) :
    Prog.Keeps Fr (setTargetPositions targetPositions) :=
  Prog.Keeps.modify fun w => h.setGenerators w _ fun _ =>
    Or.inr ⟨trivial, CspTrajectoryGenerator.tame_of_inactive rfl⟩

theorem syncTrajectoryToActualPositions :
    Prog.Keeps Fr (syncTrajectoryToActualPositions : Server n F Unit) :=
  Prog.Keeps.modify fun w => h.setGenerators w _ fun _ =>
    Or.inr ⟨trivial, CspTrajectoryGenerator.tame_of_inactive rfl⟩

theorem holdFaultedAxes : Prog.Keeps Fr (holdFaultedAxes : Server n F Unit) :=
  Prog.Keeps.get.bind fun _ => Prog.Keeps.onlyIf <| (h.holdAxes fun _ _ => trivial).seq <|
    Prog.Keeps.get.bind fun _ => h.setTargetPositions _

theorem holdEach (axes : List (Fin n)) : Prog.Keeps Fr (holdEach (F := F) axes) :=
  (Prog.Keeps.forM fun _ _ => h.holdAxisAtActualPosition trivial).seq <|
    Prog.Keeps.get.bind fun _ => h.setTargetPositions _

theorem holdAll : Prog.Keeps Fr (holdAll : Server n F Unit) :=
  (h.holdEach _).seq h.syncTrajectoryToActualPositions

theorem rejectIfAnyDriveFaulted (command : String) :
    Prog.Keeps Fr (rejectIfAnyDriveFaulted (n := n) (F := F) command) :=
  Prog.Keeps.get.bind fun _ => Prog.Keeps.onlyIf <| h.holdFaultedAxes.seq <|
    h.syncTrajectoryToActualPositions.seq (Prog.Keeps.throw _)

theorem commandCspPositions (targetPositions : Fin n → F) (axes : List (Fin n)) :
    Prog.Keeps Fr (commandCspPositions targetPositions axes) :=
  (Prog.Keeps.lift _).bind fun _ =>
    (Prog.Keeps.forM fun _ _ => h.modify_rxpdo_of trivial fun _ _ => _).seq (h.setTargetPositions _)

theorem applyMoveProfileVelocity (message : Message F) (axes : List (Fin n)) :
    Prog.Keeps Fr (applyMoveProfileVelocity message axes) :=
  (Prog.Keeps.lift _).bind fun _ => Prog.Keeps.forM fun b _ => Prog.Keeps.get.bind fun _ =>
    (h.modify_inert fun _ => by constructor <;> rfl).seq <| Prog.Keeps.onlyIf <|
    (Prog.Keeps.lift _).bind fun _ => h.modify_rxpdo b.1 fun _ _ => by rfl

theorem rollbackPositionAxes (axes : List (Fin n)) :
    Prog.Keeps Fr (rollbackPositionAxes (F := F) axes) :=
  Prog.Keeps.get.bind fun _ => (Prog.Keeps.forM fun _ _ =>
    (h.modify_targets _).seq (h.holdAxisAtActualPosition trivial)).seq <|
    Prog.Keeps.get.bind fun _ => h.setTargetPositions _

theorem outputPositionAxes (axes : List (Fin n)) : Prog.Keeps Fr (outputPositionAxes env axes) :=
  Prog.Keeps.get.bind fun _ =>
    (Prog.Keeps.onlyIf (h.commandProfilePositions _ fun _ _ => trivial)).seq <|
    Prog.Keeps.onlyIf (h.commandCspPositions _ _)

theorem commandPositionAxes (axes : List (Fin n)) (positions : Fin n → F) (command : String) :
    Prog.Keeps Fr (commandPositionAxes env axes positions command) :=
  (h.rejectIfAnyDriveFaulted command).seq <| (keeps_rejectIfAnyAxisDisabled axes command).seq <|
    (h.modify_targets _).seq <|
    (h.outputPositionAxes axes).tryCatch fun _ =>
      (h.rollbackPositionAxes axes).seq (Prog.Keeps.throw _)

theorem moveAbsolute (message : Message F) : Prog.Keeps Fr (moveAbsolute env message) :=
  (Prog.Keeps.rejecting _ <| Prog.Keeps.get.bind fun _ => (Prog.Keeps.lift _).bind fun axes =>
    (Prog.Keeps.lift _).bind fun _ => (h.applyMoveProfileVelocity message axes).seq
      (Prog.Keeps.pure _)).bind fun _ => Prog.Keeps.get.bind fun _ =>
    (Prog.Keeps.raiseIf _).seq (h.commandPositionAxes _ _ _)

theorem moveRelative (message : Message F) : Prog.Keeps Fr (moveRelative env message) :=
  (Prog.Keeps.rejecting _ <| Prog.Keeps.get.bind fun _ => (Prog.Keeps.lift _).bind fun axes =>
    (Prog.Keeps.lift _).bind fun _ => (h.applyMoveProfileVelocity message axes).seq
      (Prog.Keeps.pure _)).bind fun _ => Prog.Keeps.get.bind fun _ =>
    (Prog.Keeps.lift _).bind fun _ => h.commandPositionAxes _ _ _

theorem setControlword (message : Message F) :
    Prog.Keeps Fr (setControlword (n := n) message) := by
  unfold MotionServer.setControlword
  cases parseIntLiteral true (message.getD "controlword" .null).text with
  | none => exact Prog.Keeps.pure _
  | some controlword => exact (Prog.Keeps.lift _).bind fun axes =>
      (h.setControlwords axes controlword).seq (Prog.Keeps.onlyIf (h.holdEach axes))

theorem enable (message : Message F) : Prog.Keeps Fr (enable env message) :=
  (Prog.Keeps.rejecting _ (Prog.Keeps.lift _)).bind fun axes =>
    (h.setControlwords axes _).seq (h.exchanges 3)

theorem faultResetAxes (message : Message F) : Prog.Keeps Fr (faultResetAxes env message) :=
  (Prog.Keeps.rejecting _ (Prog.Keeps.lift _)).bind fun axes => Prog.Keeps.get.bind fun _ =>
    (h.setEachControlword axes _).seq <| (h.exchanges 2).seq <|
    (h.setEachControlword axes _).seq <| (h.exchanges 2).seq <|
    (h.setEachControlword axes _).seq <| (h.exchanges 2).seq <|
    (h.setControlwords axes _).seq <| (h.exchanges 5).seq <|
    (h.setControlwords axes _).seq (h.exchanges 5)

theorem waitAxisNotOperationEnabled (a : Fin n) :
    ∀ maxCycles, Prog.Keeps Fr (waitAxisNotOperationEnabled env a maxCycles)
  | 0 => Prog.Keeps.pure _
  | maxCycles + 1 => h.exchange.seq <| Prog.Keeps.get.bind fun _ =>
    (Prog.Keeps.pure _).ite (waitAxisNotOperationEnabled a maxCycles)

theorem disableAll : Prog.Keeps Fr (disableAll env) :=
  (h.setControlwords _ _).seq <|
    (Prog.Keeps.mapM fun a _ => h.waitAxisNotOperationEnabled a 50).bind fun _ =>
    Prog.Keeps.raiseIf _

theorem resetSource : Prog.Keeps Fr (resetSource env) :=
  (h.access _).bind fun _ => h.modify_inert fun _ => by constructor <;> rfl

end Machine

end Frame.Calm

/-! ## Modes -/

namespace Frame.Moded

variable {Fr : Prog.Frame (World n F)} {env : Env n F} {P : Fin n → Prop}

section Axes

variable (h : Frame.Moded Fr env P)
include h

theorem setMotionMode (a : Fin n) (mode : MotionMode) :
    Prog.Keeps Fr (Prog.modify fun w => w.setMotionMode a mode : Server n F Unit) :=
  Prog.Keeps.modify fun w => h.setModes w _ _

theorem setJogPreviousModes (f : World n F → Fin n → Option MotionMode) :
    Prog.Keeps Fr (Prog.modify fun w => { w with jogPreviousModes := f w } : Server n F Unit) :=
  Prog.Keeps.modify fun w => h.setModes w _ _

theorem switchToCsp {a : Fin n} (ha : P a) : Prog.Keeps Fr (switchToCsp (F := F) a) :=
  Prog.Keeps.get.bind fun _ => (Prog.Keeps.pure _).ite <|
    (h.holdAxisAtActualPosition ha).seq <| (h.modify_rxpdo_of ha fun _ _ => _).seq <|
    (h.setMotionMode a _).seq (Prog.Keeps.pure _)

theorem switchToPv {a : Fin n} (ha : P a) : Prog.Keeps Fr (switchToPv env a) :=
  Prog.Keeps.get.bind fun _ => Prog.Keeps.onlyIf <| (h.holdAxisAtActualPosition ha).seq <|
    (h.configureMotionMode _ ha).seq (h.setMotionMode a _)

theorem commandProfileVelocity {a : Fin n} (ha : P a) (velocity : F) :
    Prog.Keeps Fr (commandProfileVelocity env a velocity) :=
  (keeps_requirePdoFieldsForMode _ a).seq <| (Prog.Keeps.lift _).bind fun _ =>
    (h.modify_rxpdo a fun _ _ => by rfl).seq <| (h.switchToPv ha).seq <|
    (h.modify_rxpdo_of ha fun _ _ => _).seq (h.syncVelocityCommand ha velocity)

theorem restoreOriginalMode (originalModes : Fin n → Option MotionMode) {a : Fin n} (ha : P a) :
    Prog.Keeps Fr (restoreOriginalMode env originalModes a) := by
  unfold MotionServer.restoreOriginalMode
  cases originalModes a with
  | none => exact Prog.Keeps.pure _
  | some mode => exact ((h.configureMotionMode mode ha).seq (h.setMotionMode a mode)).onlyIf

theorem switchToJog {a : Fin n} (ha : P a) : Prog.Keeps Fr (switchToJog env a) :=
  (keeps_requirePdoFieldsForMode _ a).seq <| Prog.Keeps.get.bind fun _ => Prog.Keeps.onlyIf <|
    (h.setJogPreviousModes _).seq <| (h.holdAxisAtActualPosition ha).seq <|
    (h.configureMotionMode _ ha).seq (h.setMotionMode a _)

theorem restorePreviousMode {a : Fin n} (ha : P a) (mode : MotionMode) :
    Prog.Keeps Fr (restorePreviousMode env a mode) :=
  (h.holdAxisAtActualPosition ha).seq <| (h.configureMotionMode mode ha).seq (h.setMotionMode a mode)

theorem clearJogPreviousMode (a : Fin n) : Prog.Keeps Fr (clearJogPreviousMode (F := F) a) :=
  h.setJogPreviousModes _

theorem switchMode (mode : MotionMode) {a : Fin n} (ha : P a) :
    Prog.Keeps Fr (switchMode env mode a) :=
  Prog.Keeps.get.bind fun _ => Prog.Keeps.tryCatch
    ((h.configureMotionMode mode ha).seq <| (h.setMotionMode a mode).seq (Prog.Keeps.pure _))
    fun _ => (h.modify_rxpdo_of ha fun _ _ => _).seq (Prog.Keeps.pure _)

end Axes

section Machine

variable (h : Frame.Moded Fr env fun _ => True)
include h

theorem ensureCspMode (axes : List (Fin n)) : Prog.Keeps Fr (ensureCspMode (F := F) axes) :=
  (Prog.Keeps.mapM fun _ _ => h.switchToCsp trivial).bind fun _ =>
    (Prog.Keeps.get.bind fun _ => h.setTargetPositions _).ite (Prog.Keeps.pure _)

theorem commandProfileVelocities (axes : List (Fin n)) (velocities : List F) (command : String) :
    Prog.Keeps Fr (commandProfileVelocities env axes velocities command) :=
  (h.rejectIfAnyDriveFaulted command).seq <| (keeps_rejectIfAnyAxisDisabled axes command).seq <|
    (keeps_rejectIfPvNotAllowed axes command).seq <|
    (Prog.Keeps.forM fun _ _ => h.commandProfileVelocity trivial _).seq (h.exchanges 2)

theorem moveVelocity (message : Message F) : Prog.Keeps Fr (moveVelocity env message) :=
  Prog.Keeps.get.bind fun _ => (Prog.Keeps.rejecting _ (Prog.Keeps.lift _)).bind fun _ =>
    h.commandProfileVelocities _ _ _

theorem startJog (message : Message F) : Prog.Keeps Fr (startJog env message) :=
  (Prog.Keeps.rejecting _ (Prog.Keeps.lift _)).bind fun request =>
    (keeps_rejectIfAnyAxisDisabled _ _).seq <|
    (Prog.Keeps.rejecting _ (h.switchToJog trivial)).seq <|
    h.modify_rxpdo_of (a := request.1) trivial fun _ _ => _

theorem stopJog (message : Message F) : Prog.Keeps Fr (stopJog env message) :=
  (Prog.Keeps.rejecting _ (Prog.Keeps.lift _)).bind fun a =>
    (h.modify_rxpdo a fun _ _ => by rfl).seq <| (h.exchanges 5).seq <| Prog.Keeps.get.bind fun _ =>
    Prog.Keeps.seq ((h.restorePreviousMode trivial _).tryCatch fun _ =>
      (h.clearJogPreviousMode a).seq (Prog.Keeps.throw _)) (h.clearJogPreviousMode a)

theorem stopInMode (command : String) (a : Fin n) : Prog.Keeps Fr (stopInMode env command a) :=
  Prog.Keeps.get.bind fun w => by
    cases w.motionModes a with
    | pp => exact h.requestAxisHalt a
    | csp => exact h.requestAxisHalt a
    | pv => exact h.commandProfileVelocities _ _ _
    | jog => exact h.modify_rxpdo a fun _ _ => by rfl
    | homing => exact Prog.Keeps.pure _

theorem setMode (message : Message F) : Prog.Keeps Fr (setMode env message) :=
  (Prog.Keeps.lift _).bind fun _ => Prog.Keeps.get.bind fun _ => Prog.Keeps.onlyIf <|
    Prog.Keeps.seq ((Prog.Keeps.onlyIf (keeps_rejectIfPvNotAllowed _ _)).seq
      (Prog.Keeps.rejecting _ (Prog.Keeps.forM fun _ _ => keeps_requirePdoFieldsForMode _ _))) <|
    (h.holdEach _).seq <| (Prog.Keeps.mapM fun _ _ => h.switchMode _ trivial).bind fun _ =>
    Prog.Keeps.raiseIf _

end Machine

end Frame.Moded

/-! ## Homings -/

namespace Frame.Local

variable {Fr : Prog.Frame (World n F)} {env : Env n F} {P : Fin n → Prop}

/-- A homing is finished within the frame when its axes are among those of the frame. -/
theorem finishHoming_rel (h : Frame.Local Fr env P) (result : HomingStatus) {w : World n F}
    (hP : ∀ a ∈ w.homing.axes, P a) : Fr.Rel w (finishHoming env result w).2 := by
  have hk : Prog.Keeps Fr (do
      MotionServer.setHomingStartBit w.homing.axes false
      (MotionServer.exchange env).repeatN 2
      w.homing.axes.forM (MotionServer.restoreOriginalMode env w.homing.originalMotionModes)
      Prog.modify fun w => { w with homing := { w.homing with active := false, state := result } }) :=
    (h.setHomingStartBit _ _).seq <| (h.exchanges 2).seq <|
      (Prog.Keeps.forM fun a ha => h.restoreOriginalMode _ (hP a ha)).seq <|
      Prog.Keeps.modify fun w => h.setHoming w _
  exact hk.onlyIf w

section Machine

variable (h : Frame.Local Fr env fun _ => True)
include h

theorem finishHoming (result : HomingStatus) : Prog.Keeps Fr (finishHoming env result) :=
  fun _ => h.finishHoming_rel result fun _ _ => trivial

theorem startHoming (message : Message F) : Prog.Keeps Fr (startHoming env message) :=
  (Prog.Keeps.lift _).bind fun axes => Prog.Keeps.get.bind fun _ => Prog.Keeps.ite
    ((Prog.Keeps.modify fun _ => h.setHoming _ _).seq (Prog.Keeps.throw _)) <|
    (Prog.Keeps.forM fun a _ => (h.configureModeCode _ trivial).seq (h.setMotionMode a _)).seq <|
    (h.setHomingStartBit axes false).seq <| (h.exchanges 2).seq <| Prog.Keeps.get.bind fun _ =>
    (h.setHomingStartBit axes true).seq <| (h.exchanges 2).seq <| (h.access _).bind fun _ =>
    Prog.Keeps.modify fun _ => h.setHoming _ _

theorem updateHomingState : Prog.Keeps Fr (updateHomingState env) :=
  Prog.Keeps.get.bind fun _ => Prog.Keeps.onlyIf <|
    (Prog.Keeps.modify fun _ => h.setHoming _ _).seq <| (h.finishHoming .error).ite <|
    (h.access _).bind fun _ => Prog.Keeps.onlyIf (h.finishHoming .complete)

end Machine

end Frame.Local

/-! ## Recoveries -/

namespace Frame.Recovering

variable {Fr : Prog.Frame (World n F)} {env : Env n F} (h : Frame.Recovering Fr env)
include h

theorem closeRuntime : Prog.Keeps Fr (closeRuntime : Server n F Unit) :=
  Prog.Keeps.modify h.close

theorem markBusDisconnected : Prog.Keeps Fr (markBusDisconnected : Server n F Unit) :=
  h.closeRuntime.seq (h.modify_inert fun _ => by constructor <;> rfl)

theorem refreshAxisParameters (a : Fin n) : Prog.Keeps Fr (refreshAxisParameters env a) :=
  (h.blockingOperation env).seq <| (h.access _).bind fun _ =>
    Prog.Keeps.seq (Prog.Keeps.modify fun w =>
      Fr.trans _ _ _ (h.setSettings w _) (h.inert _ _ (by constructor <;> rfl))) <|
    Prog.Keeps.get.bind fun _ => Prog.Keeps.onlyIf <| (Prog.Keeps.lift _).bind fun _ =>
    h.modify_rxpdo a fun _ _ => by rfl

theorem connectRuntime : Prog.Keeps Fr (connectRuntime env) :=
  (h.access _).bind fun _ =>
    Prog.Keeps.seq (Prog.Keeps.modify fun w =>
      Fr.trans _ _ _ (h.setRxpdos w _) (h.inert _ _ (by constructor <;> rfl))) <|
    (h.blockingOperation env).seq <| Prog.Keeps.modify fun w =>
      Fr.trans _ _ _ (h.setRxpdos w _) (h.inert _ _ (by constructor <;> rfl))

theorem restoreProcessImage (refreshAxes : List (Fin n)) :
    Prog.Keeps Fr (restoreProcessImage env refreshAxes) :=
  Prog.Keeps.seq ((Prog.Keeps.forM fun a _ =>
      (h.modify_rxpdo_of (a := a) trivial fun _ _ => _).seq (h.writeSdo env)).seq <|
    (Prog.Keeps.forM fun a _ => h.refreshAxisParameters a).seq <|
    Prog.Keeps.seq (Prog.Keeps.get.bind fun _ =>
      (Prog.Keeps.forM fun _ _ => Prog.Keeps.lift _).seq (h.blockingOperation env)) <|
    (h.access _).bind fun rounds => (h.exchanges rounds).seq (h.blockingOperation env))
    h.syncTrajectoryToActualPositions

theorem reconnectRuntime : Prog.Keeps Fr (reconnectRuntime env) :=
  Prog.Keeps.seq
    (Prog.Keeps.tryCatch
      (h.closeRuntime.seq <| h.connectRuntime.seq <|
        (h.restoreProcessImage _).seq (h.blockingOperation env))
      fun _ => h.markBusDisconnected.seq (Prog.Keeps.throw _)) <|
    (h.access _).bind fun _ => h.modify_inert fun _ => by constructor <;> rfl

theorem restartAxisRuntime (a : Fin n) : Prog.Keeps Fr (restartAxisRuntime env a) :=
  (h.modify_inert fun _ => by constructor <;> rfl).seq <|
    Prog.Keeps.seq (Prog.Keeps.tryCatch
      (h.closeRuntime.seq <| h.connectRuntime.seq (h.restoreProcessImage [a]))
      fun _ => h.markBusDisconnected.seq (Prog.Keeps.throw _)) <|
    ((h.blockingOperation env).tryCatch fun _ => Prog.Keeps.throw _).seq <|
    h.modify_inert fun _ => by constructor <;> rfl

/-- What a restart does between the hold of the axes and the recovery. -/
theorem restartHeld : Prog.Keeps Fr (do
    MotionServer.disableAll env
    keepPdoAlive env
    MotionServer.writeSdo env
    MotionServer.writeSdo env) :=
  h.disableAll.seq <| ((h.access _).bind fun rounds => h.exchanges rounds).seq <|
    (h.writeSdo env).seq (h.writeSdo env)

end Frame.Recovering

/-! ## Trajectories and commands -/

namespace Frame.Moving

variable {Fr : Prog.Frame (World n F)} {env : Env n F} (h : Frame.Moving Fr env)
include h

theorem stopTrajectory (result : TrajectoryStatus) : Prog.Keeps Fr
    (Prog.modify fun w => { w with trajectory := inactiveTrajectoryState result } :
      Server n F Unit) :=
  Prog.Keeps.modify fun w => h.setTrajectory w _

theorem rejectTrajectory : Prog.Keeps Fr (rejectTrajectory : Server n F Unit) :=
  (h.stopTrajectory _).seq (Prog.Keeps.throw _)

theorem startTrajectory {m : ℕ} (axes : Fin m → Fin n) (points : List (TrajectoryPoint F m)) :
    Prog.Keeps Fr (startTrajectory axes points) :=
  Prog.Keeps.seq (Prog.Keeps.modify fun w => h.startGenerators w _) <|
    (Prog.Keeps.forM fun _ _ => h.modify_rxpdo_of trivial fun _ _ => _).seq <|
    Prog.Keeps.modify fun w => h.setTrajectory w _

theorem moveInCsp {m : ℕ} (axes : Fin m → Fin n) (points : List (TrajectoryPoint F m)) :
    Prog.Keeps Fr (moveInCsp axes points) :=
  Prog.Keeps.get.bind fun _ => (Prog.Keeps.pure _).ite <|
    ((h.stopTrajectory .fault).seq (Prog.Keeps.throw _)).ite (h.startTrajectory axes _)

theorem moveRequest (request : TrajectoryRequest n F) : Prog.Keeps Fr (moveRequest request) :=
  Prog.Keeps.get.bind fun _ =>
    (h.holdFaultedAxes.seq <| h.syncTrajectoryToActualPositions.seq h.rejectTrajectory).ite <|
    h.rejectTrajectory.ite <| (h.ensureCspMode _).seq (h.moveInCsp _ _)

theorem moveApi (message : Message F) : Prog.Keeps Fr (moveApi (n := n) message) :=
  Prog.Keeps.get.bind fun _ => (Prog.Keeps.lift _).bind fun _ => (Prog.Keeps.lift _).bind fun r => by
    cases r with
    | none => exact h.rejectTrajectory
    | some request => exact h.moveRequest request

theorem holdTrajectory (axes : List (Fin n)) : Prog.Keeps Fr (holdTrajectory (F := F) axes) :=
  (h.ensureCspMode axes).seq <| Prog.Keeps.get.bind fun _ =>
    (h.modify_targets _).seq <| (h.setTargetPositions _).seq <|
    h.syncTrajectoryToActualPositions.seq (h.commandCspPositions _ axes)

theorem trajectoryStop (message : Message F) :
    Prog.Keeps Fr (trajectoryStop (n := n) message) := by
  have hreject (e : PyExc) : Prog.Keeps Fr (rejectStop e : Server n F Unit) :=
    (h.stopTrajectory _).seq (Prog.Keeps.throw _)
  refine (hreject _).ite ((h.stopTrajectory _).seq ?_)
  cases selectedAxes n message with
  | error e => exact hreject e
  | ok axes => exact (keeps_rejectIfAnyAxisDisabled _ _).seq (h.holdTrajectory axes)

theorem modify_played (targets : World n F → Fin n → F)
    (trajectory : World n F → TrajectoryState n F) :
    Prog.Keeps Fr (Prog.modify fun w => { w with
      targetPositions := targets w
      trajectory := trajectory w } : Server n F Unit) :=
  Prog.Keeps.modify fun w => Fr.trans _ { w with trajectory := trajectory w } _
    (h.setTrajectory w _) (h.setTargets _ _ fun _ => Or.inr trivial)

theorem updateActive : Prog.Keeps Fr (updateActive : Server n F Unit) := by
  refine Prog.Keeps.get.bind fun w => Prog.Keeps.onlyIf <| (h.modify_played _ _).seq ?_
  cases w.trajectory.points.getLast? with
  | none => exact Prog.Keeps.throw _
  | some final =>
    exact Prog.Keeps.onlyIf <| Prog.Keeps.seq (Prog.Keeps.seq
      (Prog.Keeps.modify fun w' => h.startGenerators w' _)
      (Prog.Keeps.forM fun _ _ => h.setTargetPosition _ _)) (h.modify_played _ _)

section Finish

variable (hfinish : ∀ result w, result ≠ .complete → w.homing.active = true →
  Fr.Rel w (finishHoming env result w).2)
include hfinish

omit h in
theorem finishActiveHoming {result : HomingStatus} (hresult : result ≠ .complete) :
    Prog.Keeps Fr (finishActiveHoming env result) := by
  refine Prog.keeps_get_bind fun w => ?_
  by_cases hactive : w.homing.active = true
  · rw [Prog.onlyIf_run hactive]
    exact hfinish result w hresult hactive
  · rw [Prog.onlyIf_run_of_not hactive]
    exact Fr.refl w

theorem releaseAxes (axes : List (Fin n)) : Prog.Keeps Fr (releaseAxes env axes) := by
  refine Prog.keeps_get_bind fun w => ?_
  have hrelease : ∀ w', w'.homing = w.homing → Fr.Rel w w' → Fr.Rel w (Prog.onlyIf
      (w.homing.active = true ∧ ∃ a ∈ w.homing.axes, a ∈ axes) (finishHoming env .stopped) w').2 := by
    intro w' hhoming hrel
    by_cases hc : w.homing.active = true ∧ ∃ a ∈ w.homing.axes, a ∈ axes
    · rw [Prog.onlyIf_run hc]
      have hactive : w'.homing.active = true := by
        rw [hhoming]
        exact hc.1
      exact Fr.trans _ _ _ hrel (hfinish _ w' (by decide) hactive)
    · rw [Prog.onlyIf_run_of_not hc]
      exact hrel
  by_cases hc : w.trajectory.active = true ∧ ∃ i, w.trajectory.axes i ∈ axes
  · rw [Prog.bind_run_ok ((Prog.onlyIf_run hc _ w).trans (Prog.modify_run _ w))]
    exact hrelease _ rfl (h.setTrajectory w _)
  · rw [Prog.bind_run_ok (Prog.onlyIf_run_of_not hc _ w)]
    exact hrelease w rfl (Fr.refl w)

theorem stopAxes (message : Message F) : Prog.Keeps Fr (stopAxes env message) := by
  refine Prog.Keeps.bind ((Prog.Keeps.rejecting _ (Prog.Keeps.lift _)).bind fun _ =>
    (keeps_rejectIfAnyAxisDisabled _ _).seq (Prog.Keeps.pure _)) fun axes => ?_
  refine (finishActiveHoming hfinish (by decide)).seq <| (h.stopTrajectory _).seq <|
    Prog.Keeps.seq ?_ <| Prog.Keeps.get.bind fun _ =>
    Prog.Keeps.forM fun _ _ => Prog.Keeps.onlyIf (h.stopInMode _ _)
  exact Prog.Keeps.get.bind fun _ =>
    (Prog.Keeps.forM fun _ _ => h.holdAxisAtActualPosition trivial).seq <|
    (h.modify_targets _).seq <| Prog.Keeps.get.bind fun _ =>
    (h.setTargetPositions _).seq h.syncTrajectoryToActualPositions

theorem disable (message : Message F) : Prog.Keeps Fr (disable env message) :=
  (Prog.Keeps.rejecting _ (Prog.Keeps.lift _)).bind fun _ =>
    (h.releaseAxes hfinish _).seq <|
    (Prog.Keeps.forM fun _ _ => h.disableAxis trivial).seq <| Prog.Keeps.get.bind fun _ =>
    (h.setTargetPositions _).seq (h.exchanges 3)

theorem prepareRestart : Prog.Keeps Fr (prepareRestart env) :=
  (finishActiveHoming hfinish (by decide)).seq <| Prog.Keeps.get.bind fun _ =>
    (Prog.Keeps.onlyIf (h.stopTrajectory _)).seq <| h.holdAll.seq h.restartHeld

theorem restartAxis (message : Message F) : Prog.Keeps Fr (restartAxis env message) := by
  refine (Prog.Keeps.rejecting _ (Prog.Keeps.lift _)).bind fun axes => ?_
  rcases axes with _ | ⟨a, _ | _⟩
  · exact Prog.Keeps.throw _
  · exact ((h.prepareRestart hfinish).seq (h.restartAxisRuntime a)).tryCatch fun _ => Prog.Keeps.throw _
  · exact Prog.Keeps.throw _

/-- **Every command but those for the authority and for a homing stays in the frame.** -/
theorem handler (client : ℕ) (message : Message F) {command : Command}
    (hcommand : command.isAuthority = false) (hhome : command ≠ .home) :
    Prog.Keeps Fr (handler env client message command) := by
  cases command with
  | trajectory => exact h.moveApi message
  | trajectoryStop => exact h.trajectoryStop message
  | stop axes => exact h.stopAxes hfinish message
  | enable axes => exact h.enable message
  | disable axes => exact h.disable hfinish message
  | faultReset axes => exact h.faultResetAxes message
  | home => exact absurd rfl hhome
  | moveAbs axes => exact h.moveAbsolute message
  | moveRel axes => exact h.moveRelative message
  | moveVel axes => exact h.moveVelocity message
  | jogStart => exact h.startJog message
  | jogStop => exact h.stopJog message
  | mode => exact h.setMode message
  | manualCW => exact h.setControlword message
  | axisRestart => exact h.restartAxis hfinish message
  | serverFaultReset => exact h.resetSource
  | busFaultReset => exact h.resetSource
  | busReconnect => exact h.reconnectRuntime
  | authorityRequest => cases hcommand
  | authorityRelease => cases hcommand

end Finish

theorem losingBus {m : Server n F Unit} (hm : Prog.Keeps Fr m) : Prog.Keeps Fr (losingBus m) :=
  (hm.seq (Prog.Keeps.pure _)).tryCatch fun _ =>
    (h.markBusDisconnected.seq <| (h.modify_inert fun _ => by constructor <;> rfl).seq
      (Prog.Keeps.pure _)).ite (Prog.Keeps.throw _)

end Frame.Moving

namespace Frame.Total

variable {Fr : Prog.Frame (World n F)} {env : Env n F} (h : Frame.Total Fr env)
include h

theorem prepareRestart : Prog.Keeps Fr (prepareRestart env) :=
  h.toMoving.prepareRestart fun result w _ _ => h.finishHoming result w

/-- **Every command but those for the authority stays in the frame.** -/
theorem handler (client : ℕ) (message : Message F) {command : Command}
    (hcommand : command.isAuthority = false) :
    Prog.Keeps Fr (handler env client message command) := by
  by_cases hhome : command = .home
  · subst hhome
    exact h.startHoming message
  · exact h.toMoving.handler (fun result w _ _ => h.finishHoming result w) client message hcommand hhome

/-- **A cycle stays in the frame.** -/
theorem runCycle : Prog.Keeps Fr (runCycle env) := by
  refine Prog.Keeps.get.bind fun _ => Prog.Keeps.onlyIf ?_
  refine (h.modify_inert fun _ => by constructor <;> rfl).seq ?_
  refine (h.losingBus (h.holdFaultedAxes.seq (h.updateActive.seq h.exchange))).bind fun _ =>
    Prog.Keeps.onlyIf ?_
  refine Prog.Keeps.bind (h.losingBus ?_) fun _ => Prog.Keeps.onlyIf h.updateHomingState
  exact ((h.access _).bind fun _ => Prog.Keeps.lift _).bind fun _ =>
    h.modify_inert fun _ => by constructor <;> rfl

end Frame.Total

/-! ## The authority -/

omit [PyFloat F] in
/-- The requests for the authority write its owner only. -/
theorem keeps_authority {Fr : Prog.Frame (World n F)}
    (h : ∀ w owner, Fr.Rel w { w with commandAuthorityOwner := owner }) (client : ℕ) :
    Prog.Keeps Fr (acquireAuthority client : Server n F Unit) ∧
      Prog.Keeps Fr (releaseAuthority client : Server n F Unit) := by
  constructor
  · refine Prog.Keeps.get.bind fun w => ?_
    cases w.commandAuthorityOwner with
    | none => exact Prog.Keeps.modify fun w => h w _
    | some owner => exact Prog.Keeps.raiseIf _
  · refine Prog.Keeps.get.bind fun w => ?_
    cases w.commandAuthorityOwner with
    | none => exact Prog.Keeps.throw _
    | some owner => exact (Prog.Keeps.raiseIf _).seq (Prog.Keeps.modify fun w => h w _)

end MotionServer
