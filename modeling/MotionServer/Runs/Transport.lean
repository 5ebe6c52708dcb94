import MotionServer.Runs.Enabling
import MotionServer.Runs.Exchanges

/-!
# Transport failures

The master takes a new process image only when the last one was received, or when it was closed.

* `Received`, `FailsWith`, **`exchange_cases`**: what becomes of an exchange;
* `phaseFrame`: where every exchange succeeds, the phase of the master stays idle;
* `Recovery`, `tryReconnect_idle`, `restartAxisRuntime_idle`: a recovery leaves the phase idle, also when it fails;
* **`transport_survived`**: the runs in which transport failures end nothing.
-/

namespace MotionServer

variable {n : ℕ} {F : Type}

/-- The exchange with the number `k` succeeds. -/
def Received (env : Env n F) (k : ℕ) : Prop := ∃ txpdo, env.exchange k = .received txpdo

/-- The exchange with the number `k` raises `e`. -/
def FailsWith (env : Env n F) (k : ℕ) (e : PyExc) : Prop :=
  env.exchange k = .sendError e ∨ env.exchange k = .receiveError e

theorem FailsWith.unique {env : Env n F} {k : ℕ} {e e' : PyExc} (h : FailsWith env k e)
    (h' : FailsWith env k e') : e = e' := by
  rcases h with h | h <;> rcases h' with h' | h' <;> cases h.symm.trans h' <;> rfl

theorem FailsWith.not_received {env : Env n F} {k : ℕ} {e : PyExc} (h : FailsWith env k e) :
    ¬ Received env k := by
  rintro ⟨txpdo, htx⟩
  rcases h with h | h <;> cases htx.symm.trans h

variable [PyFloat F]

/-! ## An exchange -/

omit [PyFloat F] in
theorem prepareMaster_triple (w : World n F) :
    Prog.Triple (· = w) (prepareMaster : Server n F Unit)
      (fun _ w' => w'.exchanges = w.exchanges) (fun _ w' => w' = w) := by
  refine Prog.Triple.get_bind fun w₁ hw₁ => ?_
  subst hw₁
  refine (Prog.Keeps.triple (Prog.Keeps.raiseIf _)).bind fun _ => ?_
  refine (Prog.Keeps.triple (Prog.Keeps.raiseIf _)).bind fun _ => ?_
  refine (Prog.Keeps.triple (Prog.Keeps.forM fun _ _ => Prog.Keeps.lift _)).bind fun _ => ?_
  refine Prog.Triple.modify fun w' hw' => ?_
  subst hw'
  rfl

/-- The preparation of an image makes no exchange, and leaves the phase alone where it fails. -/
theorem prepareProcessdata_phase {w w' : World n F} {r : Except PyExc Unit}
    (h : prepareProcessdata w = (r, w')) :
    w'.exchanges = w.exchanges ∧ ∀ e, r = .error e → w'.phase = w.phase := by
  have hcommands : Prog.Keeps (Prog.Frame.eqOn fun w : World n F => (w.phase, w.exchanges))
      (updateCommands >>= applyCommands) := keeps_commands (fun _ _ _ _ _ => rfl) fun _ _ _ => rfl
  have hw := hcommands w
  rw [prepareProcessdata_eq, Prog.bind_run] at h
  cases hc : (updateCommands >>= applyCommands : Server n F Unit) w with
  | mk r₁ w₁ =>
    rw [hc] at h hw
    have hphase : w₁.phase = w.phase := congrArg Prod.fst hw
    have hcount : w₁.exchanges = w.exchanges := congrArg Prod.snd hw
    cases r₁ with
    | error e =>
      cases h
      exact ⟨hcount, fun _ _ => hphase⟩
    | ok u =>
      have hmaster := prepareMaster_triple w₁ w₁ rfl
      change prepareMaster w₁ = (r, w') at h
      rw [h] at hmaster
      cases r with
      | ok u =>
        refine ⟨Eq.trans hmaster hcount, fun e he => ?_⟩
        cases he
      | error e =>
        obtain rfl : w' = w₁ := hmaster
        exact ⟨hcount, fun _ _ => hphase⟩

/-- **What becomes of an exchange**: it succeeds; or nothing is prepared; or it fails as the outside
says. -/
theorem exchange_cases (env : Env n F) (w : World n F) :
    (∃ w', exchange env w = (.ok (), w') ∧ w'.phase = .idle ∧ w'.exchanges = w.exchanges + 1 ∧
      Received env w.exchanges) ∨
    ∃ e w', exchange env w = (.error e, w') ∧
      (w'.phase = w.phase ∧ w'.exchanges = w.exchanges ∨
        w'.exchanges = w.exchanges + 1 ∧ FailsWith env w.exchanges e) := by
  unfold exchange
  rw [Prog.bind_run]
  cases hp : prepareProcessdata w with
  | mk r w₁ =>
    obtain ⟨hcount, hphase⟩ := prepareProcessdata_phase hp
    cases r with
    | error e => exact Or.inr ⟨e, w₁, rfl, Or.inl ⟨hphase e rfl, hcount⟩⟩
    | ok u =>
      dsimp only
      rw [← hcount]
      rcases transferProcessdata_cases env w₁ with ⟨e, he, hrun⟩ | ⟨e, he, hrun⟩ | ⟨txpdo, htx, hrun⟩
      · exact Or.inr ⟨e, _, hrun, Or.inr ⟨rfl, Or.inl he⟩⟩
      · exact Or.inr ⟨e, _, hrun, Or.inr ⟨rfl, Or.inr he⟩⟩
      · exact Or.inl ⟨_, hrun, rfl, rfl, txpdo, htx⟩

/-! ## The phase -/

/-- All exchanges from the number `i` on and before the number `j` succeed. -/
def AllReceived (env : Env n F) (i j : ℕ) : Prop := ∀ k, i ≤ k → k < j → Received env k

omit [PyFloat F] in
theorem AllReceived.sub {env : Env n F} {i j i' j' : ℕ} (h : AllReceived env i j) (hi : i ≤ i')
    (hj : j' ≤ j) : AllReceived env i' j' := fun k hk hk' => h k (hi.trans hk) (hk'.trans_le hj)

/-- Where every exchange succeeds, an idle master stays idle. -/
def phaseFrame (env : Env n F) : Prog.Frame (World n F) where
  Rel w w' := w.exchanges ≤ w'.exchanges ∧
    (AllReceived env w.exchanges w'.exchanges → w.phase = .idle → w'.phase = .idle)
  refl _ := ⟨le_rfl, fun _ h => h⟩
  trans _ _ _ h₁ h₂ := ⟨h₁.1.trans h₂.1, fun h hw =>
    h₂.2 (h.sub h₁.1 le_rfl) (h₁.2 (h.sub le_rfl h₂.1) hw)⟩

omit [PyFloat F] in
theorem phaseFrame_of_eq {env : Env n F} {w w' : World n F} (hphase : w'.phase = w.phase)
    (hcount : w'.exchanges = w.exchanges) : (phaseFrame env).Rel w w' :=
  ⟨hcount.ge, fun _ h => hphase.trans h⟩

theorem phaseFrame_exchange (env : Env n F) : Prog.Keeps (phaseFrame env) (exchange env) := by
  intro w
  rcases exchange_cases env w with ⟨w', hrun, hphase, hcount, -⟩ | ⟨e, w', hrun, h⟩
  · rw [hrun]
    exact ⟨by rw [hcount]; exact Nat.le_succ _, fun _ _ => hphase⟩
  · rw [hrun]
    change (phaseFrame env).Rel w w'
    rcases h with ⟨hphase, hcount⟩ | ⟨hcount, hfails⟩
    · exact phaseFrame_of_eq hphase hcount
    · refine ⟨by omega, fun hall _ => absurd ?_ hfails.not_received⟩
      exact hall w.exchanges le_rfl (by omega)

theorem phaseFrame_total (env : Env n F) : Frame.Total (phaseFrame env) env where
  inert _ _ h := phaseFrame_of_eq h.phase h.exchanges
  setGenerators _ _ _ := phaseFrame_of_eq rfl rfl
  setRxpdo _ _ _ _ := phaseFrame_of_eq rfl rfl
  setTargets _ _ _ := phaseFrame_of_eq rfl rfl
  exchange := phaseFrame_exchange env
  setHoming _ _ := phaseFrame_of_eq rfl rfl
  setModes _ _ _ := phaseFrame_of_eq rfl rfl
  setSettings _ _ := phaseFrame_of_eq rfl rfl
  setRxpdos _ _ := phaseFrame_of_eq rfl rfl
  close _ := ⟨le_rfl, fun _ _ => rfl⟩
  setTrajectory _ _ := phaseFrame_of_eq rfl rfl
  startGenerators _ _ := phaseFrame_of_eq rfl rfl

/-! ## Operations that let exceptions through -/

/-- Where the program raises nothing, an idle master stays idle. -/
def Idles {α : Type} (m : Server n F α) : Prop :=
  Prog.Triple (fun w => w.phase = .idle) m (fun _ w => w.phase = .idle) fun _ _ => True

section Idles

variable {α β : Type}

omit [PyFloat F] in
theorem Idles.of_keeps {m : Server n F α} (h : Prog.Keeps (Prog.Frame.eqOn World.phase) m) :
    Idles m := by
  have hidle : Prog.Keeps (Prog.Frame.ofInv fun w : World n F => w.phase = .idle) m :=
    fun w hw => (h w).trans hw
  exact hidle.triple.conseq (fun _ => id) (fun _ _ => id) fun _ _ _ => trivial

omit [PyFloat F] in
theorem Idles.bind {m : Server n F α} {f : α → Server n F β} (hm : Idles m)
    (hf : ∀ a, Idles (f a)) : Idles (m >>= f) := Prog.Triple.bind hm hf

omit [PyFloat F] in
theorem Idles.seq {m : Server n F α} {m' : Server n F β} (hm : Idles m) (hm' : Idles m') :
    Idles (m >>= fun _ => m') := hm.bind fun _ => hm'

omit [PyFloat F] in
theorem Idles.forM {l : List β} {f : β → Server n F Unit} (h : ∀ b ∈ l, Idles (f b)) :
    Idles (l.forM f) := Prog.Triple.forM h

omit [PyFloat F] in
theorem Idles.onlyIf {c : Prop} [Decidable c] {m : Server n F Unit} (h : Idles m) :
    Idles (Prog.onlyIf c m) := Prog.Triple.onlyIf (fun _ => h) fun _ _ => id

omit [PyFloat F] in
theorem Idles.get_bind {f : World n F → Server n F β} (h : ∀ w, Idles (f w)) :
    Idles (Prog.get >>= f) := (Idles.of_keeps Prog.Keeps.get).bind h

omit [PyFloat F] in
theorem Idles.repeatN {m : Server n F Unit} (h : Idles m) : ∀ k, Idles (m.repeatN k)
  | 0 => .of_keeps (Prog.Keeps.pure _)
  | k + 1 => h.seq (Idles.repeatN h k)

omit [PyFloat F] in
theorem Idles.modify {f : World n F → World n F} (h : ∀ w, (f w).phase = w.phase) :
    Idles (Prog.modify f : Server n F Unit) := .of_keeps (Prog.Keeps.modify h)

theorem exchange_idles (env : Env n F) : Idles (exchange env) := by
  intro w hw
  rcases exchange_cases env w with ⟨w', hrun, hphase, -⟩ | ⟨e, w', hrun, -⟩
  · rw [hrun]
    exact hphase
  · rw [hrun]
    trivial

omit [PyFloat F] in
theorem phase_still : Frame.Still (Prog.Frame.eqOn (World.phase (n := n) (F := F))) where
  inert _ _ h := h.phase

end Idles

/-! ## Recoveries -/

theorem refreshAxisParameters_idles (env : Env n F) (a : Fin n) :
    Idles (refreshAxisParameters env a) :=
  (Idles.of_keeps (phase_still.blockingOperation env)).seq <|
    (Idles.of_keeps (phase_still.access _)).bind fun _ =>
    (Idles.modify fun _ => by rfl).seq <| Idles.get_bind fun _ => Idles.onlyIf <|
    (Idles.of_keeps (Prog.Keeps.lift _)).bind fun _ => Idles.modify fun _ => by rfl

theorem restoreProcessImage_idles (env : Env n F) (axes : List (Fin n)) :
    Idles (restoreProcessImage env axes) := by
  have hmodes : Idles (do
      (List.finRange n).forM fun a => do
        Prog.modify fun w => w.setRxpdo a fun rx =>
          { rx with modeOfOperation := (w.motionModes a).code }
        writeSdo env : Server n F Unit) :=
    Idles.forM fun a _ => (Idles.modify fun _ => by rfl).seq
      (Idles.of_keeps (phase_still.writeSdo env))
  have hwait : Idles (waitForStableProcessdata env) :=
    (Idles.of_keeps (phase_still.access _)).bind fun rounds =>
      ((exchange_idles env).repeatN rounds).seq (Idles.of_keeps (phase_still.blockingOperation env))
  have hoperational : Idles (enterOperational env) :=
    Idles.get_bind fun _ => (Idles.forM fun _ _ => Idles.of_keeps (Prog.Keeps.lift _)).seq
      (Idles.of_keeps (phase_still.blockingOperation env))
  exact (hmodes.seq <| (Idles.forM fun a _ => refreshAxisParameters_idles env a).seq <|
    hoperational.seq hwait).seq (Idles.modify fun _ => by rfl)

omit [PyFloat F] in
theorem connectRuntime_idles (env : Env n F) : Idles (connectRuntime env) :=
  (Idles.of_keeps (phase_still.access _)).bind fun _ => (Idles.modify fun _ => by rfl).seq <|
    (Idles.of_keeps (phase_still.blockingOperation env)).seq (Idles.modify fun _ => by rfl)

/-- From any state, the program leaves an idle master, whether it raises or not. -/
def Settles {α : Type} (m : Server n F α) : Prop :=
  Prog.Triple (fun _ => True) m (fun _ w => w.phase = .idle) fun _ w => w.phase = .idle

omit [PyFloat F] in
/-- A recovery closes the master before anything else, and again where it fails. -/
theorem recovering_settles {m : Server n F Unit} (hm : Idles m) (e : PyExc) :
    Settles (tryCatch (do
        closeRuntime
        m)
      fun _ => do
        markBusDisconnected
        throw e) := by
  intro w _
  rw [Prog.tryCatch_run]
  have hidle := hm { w with connected := false, phase := .idle } rfl
  cases hr : (closeRuntime >>= fun _ => m) w with
  | mk r w' =>
    change m { w with connected := false, phase := .idle } = (r, w') at hr
    rw [hr] at hidle
    cases r with
    | ok u => exact hidle
    | error e' => rfl

omit [PyFloat F] in
theorem Settles.seq {α β : Type} {m : Server n F α} {m' : Server n F β} (hm : Settles m)
    (hm' : Prog.Keeps (Prog.Frame.eqOn World.phase) m') : Settles (m >>= fun _ => m') := by
  refine Prog.Triple.bind hm fun _ => Prog.Keeps.triple ?_
  exact fun w hw => (hm' w).trans hw

theorem reconnectRuntime_settles (env : Env n F) : Settles (reconnectRuntime env) := by
  refine (recovering_settles ?_ _).seq ?_
  · exact (connectRuntime_idles env).seq <| (restoreProcessImage_idles env _).seq <|
      Idles.of_keeps (phase_still.blockingOperation env)
  · exact (phase_still.access _).bind fun _ => Prog.Keeps.modify fun _ => rfl

theorem restartAxisRuntime_settles (env : Env n F) (a : Fin n) :
    Settles (restartAxisRuntime env a) := by
  refine Prog.Triple.bind (Q := fun _ _ => True) (Prog.Triple.modify fun _ _ => trivial) fun _ => ?_
  refine (recovering_settles ?_ _).seq ?_
  · exact (connectRuntime_idles env).seq (restoreProcessImage_idles env [a])
  · exact ((phase_still.blockingOperation env).tryCatch fun _ => Prog.Keeps.throw _).seq
      (Prog.Keeps.modify fun _ => rfl)

/-! ## Homings -/

theorem configureModeCode_idles (env : Env n F) (mode : MotionMode) (a : Fin n) :
    Idles (configureModeCode env mode a) :=
  (Idles.modify fun _ => by rfl).seq <| (Idles.of_keeps (phase_still.writeSdo env)).seq <|
    (exchange_idles env).repeatN 5

theorem finishHoming_idles (env : Env n F) (result : HomingStatus) :
    Idles (finishHoming env result) := by
  refine Idles.get_bind fun w => Idles.onlyIf ?_
  refine (Idles.forM fun _ _ => Idles.modify fun _ => by rfl).seq <|
    ((exchange_idles env).repeatN 2).seq <| (Idles.forM fun a _ => ?_).seq <|
    Idles.modify fun _ => by rfl
  unfold restoreOriginalMode
  cases w.homing.originalMotionModes a with
  | none => exact Idles.of_keeps (Prog.Keeps.pure _)
  | some mode =>
    exact Idles.onlyIf <| Idles.seq ((Idles.of_keeps (keeps_requirePdoFieldsForMode mode a)).seq
      (configureModeCode_idles env mode a)) (Idles.modify fun _ => by rfl)

theorem updateHomingState_idles (env : Env n F) : Idles (updateHomingState env) := by
  refine Idles.get_bind fun w => Idles.onlyIf <| (Idles.modify fun _ => by rfl).seq ?_
  dsimp only
  split_ifs
  · exact finishHoming_idles env .error
  · exact (Idles.of_keeps (phase_still.access _)).bind fun _ =>
      Idles.onlyIf (finishHoming_idles env .complete)

/-! ## Cycles -/

/-- The exchange with the number `k` fails with the transport. -/
def TransportFails (env : Env n F) (k : ℕ) : Prop := ∃ e, FailsWith env k e ∧ e.isCommunication = true

/-- How a program that started in `w` may end, so that no transport failure ends the server: where
it raises nothing the master is idle, and what it raises comes from elsewhere. -/
structure Survived (env : Env n F) (w : World n F) (r : Except PyExc Unit) (w' : World n F) :
    Prop where
  idle : r = .ok () → w'.phase = .idle
  raised : ∀ e, r = .error e → ∀ k, w.exchanges ≤ k → k < w'.exchanges → ¬ TransportFails env k

/-- The cycle has left the server waiting for the bus, or has completed its exchange. -/
def Resumed (env : Env n F) (w w' : World n F) : Prop :=
  w'.disconnectedLoop = true ∨ w.exchanges < w'.exchanges ∧ Received env w.exchanges

/-- The state after `mark_bus_disconnected` in the loop. -/
def World.lost (w : World n F) : World n F :=
  { w with
    connected := false
    phase := .idle
    runtimeState := .busDisconnected
    disconnectedLoop := true }

omit [PyFloat F] in
theorem losingBus_cases (m : Server n F Unit) (w : World n F) :
    (∃ w', m w = (.ok (), w') ∧ losingBus m w = (.ok true, w')) ∨
    (∃ e w', m w = (.error e, w') ∧ losingBus m w = (.ok false, w'.lost)) ∨
    ∃ e w', m w = (.error e, w') ∧ e.isCommunication = false ∧ losingBus m w = (.error e, w') := by
  unfold losingBus
  rw [Prog.tryCatch_run, Prog.bind_run]
  cases hr : m w with
  | mk r w' =>
    cases r with
    | ok u => exact Or.inl ⟨w', rfl, rfl⟩
    | error e =>
      right
      cases he : e.isCommunication with
      | true =>
        refine Or.inl ⟨e, w', rfl, ?_⟩
        dsimp only
        rw [if_pos he]
        rfl
      | false =>
        refine Or.inr ⟨e, w', rfl, he, ?_⟩
        dsimp only
        rw [if_neg (by simp [he])]
        rfl

/-- The part of a cycle before its exchange. -/
def beforeExchange : Server n F Unit := do
  holdFaultedAxes
  updateActive

theorem cycleProcessdata_eq (env : Env n F) :
    cycleProcessdata env = beforeExchange >>= fun _ => exchange env := by
  unfold beforeExchange
  rw [bind_assoc]
  rfl

theorem beforeExchange_keeps : Prog.Keeps
    (Prog.Frame.eqOn fun w : World n F => (w.phase, w.exchanges)) beforeExchange := by
  have hhold : Prog.Keeps
      (Prog.Frame.eqOn fun w : World n F => (w.phase, w.exchanges))
      holdFaultedAxes :=
    Prog.Keeps.get.bind fun w => Prog.Keeps.onlyIf <|
      (keeps_holdAxes (fun _ _ => rfl) (fun _ _ => rfl) (fun _ _ => rfl) _).seq <|
      Prog.Keeps.get.bind fun _ => Prog.Keeps.modify fun _ => rfl
  refine hhold.seq (Prog.Keeps.get.bind fun w => Prog.Keeps.onlyIf <|
    (Prog.Keeps.modify fun _ => by rfl).seq ?_)
  cases w.trajectory.points.getLast? with
  | none => exact Prog.Keeps.throw _
  | some final =>
    refine Prog.Keeps.onlyIf <| Prog.Keeps.seq (Prog.Keeps.seq (Prog.Keeps.modify fun _ => by rfl) <|
      Prog.Keeps.forM fun _ _ => ?_) (Prog.Keeps.modify fun _ => by rfl)
    exact (Prog.Keeps.lift _).bind fun _ => Prog.Keeps.modify fun _ => by rfl

theorem cycleProcessdata_cases (env : Env n F) (w : World n F) :
    (∃ w', cycleProcessdata env w = (.ok (), w') ∧ w'.phase = .idle ∧
      w'.exchanges = w.exchanges + 1 ∧ Received env w.exchanges) ∨
    ∃ e w', cycleProcessdata env w = (.error e, w') ∧
      (w'.exchanges = w.exchanges ∨ w'.exchanges = w.exchanges + 1 ∧ FailsWith env w.exchanges e) := by
  have hbefore := beforeExchange_keeps w
  rw [cycleProcessdata_eq, Prog.bind_run]
  cases hr : beforeExchange w with
  | mk r w₁ =>
    rw [hr] at hbefore
    have hcount : w₁.exchanges = w.exchanges := congrArg Prod.snd hbefore
    cases r with
    | error e => exact Or.inr ⟨e, w₁, rfl, Or.inl hcount⟩
    | ok u =>
      dsimp only
      rw [← hcount]
      rcases exchange_cases env w₁ with ⟨w', hrun, hphase, hnext, hreceived⟩ | ⟨e, w', hrun, h⟩
      · exact Or.inl ⟨w', hrun, hphase, hnext, hreceived⟩
      · exact Or.inr ⟨e, w', hrun, h.imp And.right id⟩

omit [PyFloat F] in
theorem losingBus_idles {m : Server n F Unit} (hm : Idles m) : Idles (losingBus m) := by
  intro w hw
  have hidle := hm w hw
  rcases losingBus_cases m w with ⟨w', hrun, hl⟩ | ⟨e, w', hrun, hl⟩ | ⟨e, w', hrun, -, hl⟩
  · rw [hrun] at hidle
    rw [hl]
    exact hidle
  · rw [hl]
    rfl
  · rw [hl]
    trivial

theorem runCycle_idles (env : Env n F) : Idles (runCycle env) := by
  refine Idles.get_bind fun _ => Idles.onlyIf <| (Idles.modify fun _ => by rfl).seq <|
    (losingBus_idles ?_).bind fun _ => Idles.onlyIf <| (losingBus_idles ?_).bind fun _ =>
    Idles.onlyIf (updateHomingState_idles env)
  · rw [cycleProcessdata_eq]
    exact (Idles.of_keeps fun w => congrArg Prod.fst (beforeExchange_keeps w)).seq
      (exchange_idles env)
  · exact Idles.of_keeps <| ((phase_still.access _).bind fun _ => Prog.Keeps.lift _).bind fun _ =>
      Prog.Keeps.modify fun _ => rfl

theorem afterExchange_keeps (env : Env n F) : Prog.Keeps (phaseFrame env) (do
    let diagnosed ← losingBus (updateDiagnostics env)
    Prog.onlyIf (diagnosed = true) (updateHomingState env)) := by
  have h := phaseFrame_total env
  refine (h.losingBus ?_).bind fun _ => Prog.Keeps.onlyIf h.updateHomingState
  exact ((h.access _).bind fun _ => Prog.Keeps.lift _).bind fun _ =>
    h.modify_inert fun _ => by constructor <;> rfl

/-- **A cycle survives the failure of its exchange.** -/
theorem runCycle_survived {env : Env n F} {w w' : World n F} {r : Except PyExc Unit}
    (hidle : w.phase = .idle) (h : runCycle env w = (r, w'))
    (hclean : ∀ k, w.exchanges < k → k < w'.exchanges → ¬ TransportFails env k) :
    Survived env w r w' ∧ (r = .ok () → Resumed env w w') := by
  have hok : r = .ok () → w'.phase = .idle := by
    have hphase := runCycle_idles env w hidle
    rw [h] at hphase
    rintro rfl
    exact hphase
  by_cases hrun : w.disconnectedLoop = false ∨ w.runtimeState ≠ .busDisconnected
  swap
  · unfold runCycle at h
    rw [Prog.bind_run_ok (Prog.get_run w), Prog.onlyIf_run_of_not hrun] at h
    cases h
    refine ⟨⟨hok, fun e he => nomatch he⟩, fun _ => Or.inl ?_⟩
    exact Bool.eq_true_of_not_eq_false (not_or.mp hrun).1
  let w₀ : World n F := { w with disconnectedLoop := false }
  unfold runCycle at h
  rw [Prog.bind_run_ok (Prog.get_run w), Prog.onlyIf_run hrun,
    Prog.bind_run_ok (Prog.modify_run _ w)] at h
  change (losingBus (cycleProcessdata env) >>= _) w₀ = _ at h
  have hcases := cycleProcessdata_cases env w₀
  rcases losingBus_cases (cycleProcessdata env) w₀ with
    ⟨w₁, hm, hl⟩ | ⟨e, w₁, hm, hl⟩ | ⟨e, w₁, hm, he, hl⟩
  · rw [Prog.bind_run_ok hl, Prog.onlyIf_run rfl] at h
    rw [hm] at hcases
    rcases hcases with ⟨w₂, heq, -, hcount, hreceived⟩ | ⟨e, w₂, hne, -⟩
    · cases heq
      have hmono : w₁.exchanges ≤ w'.exchanges := by
        have hrest := (afterExchange_keeps env w₁).1
        rw [h] at hrest
        exact hrest
      have hlt : w.exchanges < w'.exchanges := by
        rw [hcount] at hmono
        exact hmono
      refine ⟨⟨hok, fun e _ k hk hk' => ?_⟩, fun _ => Or.inr ⟨hlt, hreceived⟩⟩
      rcases hk.eq_or_lt with rfl | hk
      · rintro ⟨e', hfails, -⟩
        exact hfails.not_received hreceived
      · exact hclean k hk hk'
    · cases hne
  · rw [Prog.bind_run_ok hl, Prog.onlyIf_run_of_not (by decide)] at h
    cases h
    exact ⟨⟨hok, fun e he => nomatch he⟩, fun _ => Or.inl rfl⟩
  · rw [Prog.bind_run_error hl] at h
    cases h
    refine ⟨⟨hok, fun e' he' k hk hk' => ?_⟩, fun h => nomatch h⟩
    rw [hm] at hcases
    rcases hcases with ⟨_, hne, -⟩ | ⟨e₁, w₂, heq, hsame | ⟨hnext, hfails⟩⟩
    · cases hne
    · cases heq
      exact absurd hk' (by rw [hsame]; exact not_lt.mpr hk)
    · cases heq
      obtain rfl : k = w.exchanges := by
        rw [hnext] at hk'
        exact le_antisymm (Nat.lt_succ_iff.mp hk') hk
      rintro ⟨e₂, hfails₂, he₂⟩
      rw [← hfails.unique hfails₂, he] at he₂
      cases he₂

/-! ## Requests -/

/-- A restart whose exchanges before the recovery succeed leaves an idle master. -/
theorem restartAxis_idle {env : Env n F} {message : Message F} {w : World n F}
    (hidle : w.phase = .idle) (hclean : ∀ a, selectedAxes n message = .ok [a] →
      AllReceived env w.exchanges (prepareRestart env w).2.exchanges) :
    (restartAxis env message w).2.phase = .idle := by
  unfold restartAxis rejecting
  rw [Prog.bind_run, Prog.tryCatch_run, Prog.lift_run]
  cases haxes : selectedAxes n message with
  | error e => exact hidle
  | ok axes =>
    rcases axes with _ | ⟨a, _ | _⟩
    · exact hidle
    · have hprepare := (phaseFrame_total env).prepareRestart w
      change ((tryCatch (tryRestartAxis env a) fun _ =>
        throw (.motionServer (.deviceAccess "axis_restart"))) w).2.phase = .idle
      rw [Prog.tryCatch_throw_state]
      unfold tryRestartAxis
      rw [Prog.bind_run]
      have hclean := hclean a haxes
      cases hp : prepareRestart env w with
      | mk r w₁ =>
        rw [hp] at hprepare hclean
        cases r with
        | error e => exact hprepare.2 hclean hidle
        | ok u => exact (restartAxisRuntime_settles env a).state trivial
    · exact hidle

/-- No exchange that is not secured fails: not one of the homing completion, and none of a request
but those of a recovery. -/
def CleanStep (env : Env n F) (w : World n F) : Event F → Prop
  | .cycle => ∀ k, w.exchanges < k → k < (runCycle env w).2.exchanges → ¬ TransportFails env k
  | .request client message => ∀ command, Reaches env w client message command →
    match command with
    | .busReconnect => True
    | .axisRestart => ∀ a, selectedAxes n message = .ok [a] →
      AllReceived env w.exchanges (prepareRestart env w.accessed).2.exchanges
    | command => AllReceived env w.exchanges (handler env client message command w.accessed).2.exchanges
  | .disconnect _ => True

theorem request_idle {env : Env n F} {w : World n F} {client : ℕ} {message : Message F}
    (hidle : w.phase = .idle) (hclean : CleanStep env w (.request client message)) :
    (step env (.request client message) w).2.phase = .idle := by
  rcases step_request env w client message with h | h | ⟨command, hreach, h⟩
  · rw [h]
    exact hidle
  · rw [h]
    exact hidle
  · rw [h]
    have hclean := hclean command hreach
    have hidle' : w.accessed.phase = .idle := hidle
    have hframe (hcommand : command.isAuthority = false)
        (hall : AllReceived env w.exchanges
          (handler env client message command w.accessed).2.exchanges) :
        (handler env client message command w.accessed).2.phase = .idle :=
      ((phaseFrame_total env).handler client message hcommand w.accessed).2 hall hidle'
    cases command with
    | busReconnect => exact (reconnectRuntime_settles env).state trivial
    | axisRestart => exact restartAxis_idle hidle' hclean
    | authorityRequest =>
      have hkeeps : Prog.Keeps (Prog.Frame.eqOn World.phase)
          (acquireAuthority client : Server n F Unit) := (keeps_authority (fun _ _ => rfl) client).1
      exact (hkeeps w.accessed).trans hidle'
    | authorityRelease =>
      have hkeeps : Prog.Keeps (Prog.Frame.eqOn World.phase)
          (releaseAuthority client : Server n F Unit) := (keeps_authority (fun _ _ => rfl) client).2
      exact (hkeeps w.accessed).trans hidle'
    | _ => exact hframe rfl hclean

/-- A request never raises. -/
theorem request_ok (env : Env n F) (w : World n F) (client : ℕ) (message : Message F) :
    (step env (.request client message) w).1 = .ok () := by
  change ((routeMessage env client message >>= fun _ => pure ()) w).1 = .ok ()
  unfold routeMessage
  rw [Prog.bind_run, Prog.tryCatch_run]
  cases (do
      routeToHandler env client message
      pure (.ok ()) : Server n F (Except PyExc Unit)) w with
  | mk r w' => cases r <;> rfl

theorem step_survived {env : Env n F} {w : World n F} {event : Event F} (hidle : w.phase = .idle)
    (hclean : CleanStep env w event) : Survived env w (step env event w).1 (step env event w).2 := by
  cases event with
  | cycle => exact (runCycle_survived hidle rfl hclean).1
  | request client message =>
    refine ⟨fun _ => request_idle hidle hclean, fun e he => ?_⟩
    rw [request_ok] at he
    cases he
  | disconnect client => exact ⟨fun _ => hidle, fun e he => nomatch he⟩

/-- **Transport failures end nothing** in a run where every exchange of a request outside of a
recovery, and every exchange of a homing completion, succeeds: before each event the master takes a
new image, the event raises no transport failure, and a cycle completes its exchange or leaves the
server waiting for the bus. -/
theorem transport_survived {env : Env n F} {w₀ w : World n F} {events : List (Event F)}
    {event : Event F} (hstart : w₀.phase = .idle)
    (hrun : Prog.AlongRun (step env) (CleanStep env) events w₀)
    (hw : run env events w₀ = (.ok (), w)) (hclean : CleanStep env w event) :
    w.phase = .idle ∧ Survived env w (step env event w).1 (step env event w).2 ∧
      (event = .cycle → (step env event w).1 = .ok () → Resumed env w (step env event w).2) := by
  have hidle : w.phase = .idle :=
    Prog.run_invariant_ok (I := fun w => w.phase = .idle) (step env) (CleanStep env)
      (fun s e s' hs hc h => by
        have hs' := (step_survived hs hc).idle
        rw [h] at hs'
        exact hs' rfl) events hstart hrun hw
  refine ⟨hidle, step_survived hidle hclean, ?_⟩
  rintro rfl
  exact (runCycle_survived hidle rfl hclean).2

/-- An outside where the exchange with the number `k` is not sent. -/
def unsentExchange (k : ℕ) : Env 1 ExtRat :=
  { Env.quiet fun _ => enabledDrive with
    exchange := fun i =>
      if i = k then .sendError (communicationException "processdata_send")
      else .received fun _ => enabledDrive }

/-- The bus is lost in the first cycle, and the server waits for it in the second. -/
theorem transport_survived_lost :
    let env := unsentExchange 0
    let w := (run env [.cycle] (unitServer 1)).2
    w.phase = .idle ∧ Survived env w (step env .cycle w).1 (step env .cycle w).2 ∧
      (Event.cycle = Event.cycle (F := ExtRat) → (step env .cycle w).1 = .ok () →
        Resumed env w (step env .cycle w).2) := by
  have hcount : (runCycle (unsentExchange 0) (unitServer 1)).2.exchanges = 1 := by decide +kernel
  have hstart : (unitServer 1).exchanges = 0 := by rfl
  have hrun : run (unsentExchange 0) [.cycle] (unitServer 1) =
      (.ok (), (run (unsentExchange 0) [.cycle] (unitServer 1)).2) :=
    Prod.ext (by decide +kernel) rfl
  have hagain : (runCycle (unsentExchange 0)
      (run (unsentExchange 0) [.cycle] (unitServer 1)).2).2.exchanges = 1 := by decide +kernel
  have hcleanRun : Prog.AlongRun (step (unsentExchange 0)) (CleanStep (unsentExchange 0)) [.cycle]
      (unitServer 1) := by
    refine ⟨fun k hk hk' => ?_, fun _ _ => trivial⟩
    rw [hcount] at hk'
    omega
  have hphase : (unitServer 1).phase = .idle := by rfl
  refine transport_survived hphase hcleanRun hrun fun k hk hk' => ?_
  rw [hagain] at hk'
  omega

/-- An exchange of an enable request is not sent, and the next cycle ends the server. -/
theorem transport_of_enable :
    let env := unsentExchange 0
    let events := [request "system/authority/request" [], .request 1 enableFirst]
    (run env events (unitServer 1)).1 = .ok () ∧
      (run env events (unitServer 1)).2.phase = .prepared ∧
      (run env (events ++ [.cycle]) (unitServer 1)).1 = .error .runtimeError := by
  decide +kernel

end MotionServer
