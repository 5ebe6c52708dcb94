import MotionServer.Runs.Images

/-!
# What an exchange commands

* `CommandOf`: the command of an axis and the generator it leaves;
* `updateCommands_ok`, `applyCommands_run`: the commands of all axes, made and applied;
* **`prepareProcessdata_ok`**: the image that is prepared, axis by axis;
* `transferProcessdata_cases`: what becomes of it.
-/

namespace MotionServer

variable {n : ℕ} {F : Type} [PyFloat F]

/-! ## Commands -/

/-- The command `c` of the axis, and the generator `g` it leaves: an axis in CSP mode has its
generator updated and is sent its position, another one is left alone. -/
def CommandOf (w : World n F) (a : Fin n) (g : CspTrajectoryGenerator F) (c : Option AxisCommand) :
    Prop :=
  ((w.rxpdo a).modeOfOperation ≠ 8 ∧ c = none ∧ g = w.generators a) ∨
    ((w.rxpdo a).modeOfOperation = 8 ∧ w.updateGenerator a = .ok g ∧
      ∃ command, c = some command ∧ PyFloat.roundInt g.commandPosition = .ok command.targetPosition)

theorem updateCommand_ok {w w' : World n F} {a : Fin n} {c : Option AxisCommand}
    (h : updateCommand a w = (.ok c, w')) :
    ∃ g, w' = w.setGenerator a g ∧ CommandOf w a g c := by
  unfold updateCommand at h
  rw [Prog.bind_run_ok (Prog.get_run w)] at h
  by_cases hmode : (w.rxpdo a).modeOfOperation = 8
  · rw [if_neg (not_not.mpr hmode), Prog.bind_run, Prog.lift_run] at h
    cases hg : w.updateGenerator a with
    | error e =>
      rw [hg] at h
      cases h
    | ok g =>
      rw [hg] at h
      dsimp only at h
      rw [Prog.bind_run_ok (Prog.modify_run _ w), Prog.bind_run, Prog.lift_run] at h
      cases ht : PyFloat.roundInt g.commandPosition with
      | error e =>
        rw [ht] at h
        cases h
      | ok target =>
        rw [ht] at h
        dsimp only at h
        rw [Prog.bind_run, Prog.lift_run] at h
        cases ho : w.velocityOffset a g.commandVelocity with
        | error e =>
          rw [ho] at h
          cases h
        | ok offset =>
          rw [ho] at h
          cases h
          exact ⟨g, rfl, Or.inr ⟨hmode, hg, _, rfl, ht⟩⟩
  · rw [if_pos hmode] at h
    cases h
    refine ⟨w.generators a, ?_, Or.inl ⟨hmode, rfl, rfl⟩⟩
    unfold World.setGenerator
    rw [Function.update_eq_self]

/-- The commands of distinct axes are made one after the other; none depends on another. -/
theorem updateCommands_ok {l : List (Fin n)} (hl : l.Nodup) {w w' : World n F}
    {commands : List (Fin n × Option AxisCommand)}
    (h : (l.mapM fun a => do
      let command ← updateCommand a
      pure (a, command) : Server n F (List (Fin n × Option AxisCommand))) w = (.ok commands, w')) :
    (∃ generators, w' = { w with generators := generators }) ∧
      (∀ b, b ∉ l → w'.generators b = w.generators b) ∧ commands.map Prod.fst = l ∧
      ∀ b c, (b, c) ∈ commands → CommandOf w b (w'.generators b) c := by
  induction l generalizing w commands with
  | nil =>
    cases h
    exact ⟨⟨_, rfl⟩, fun _ _ => rfl, rfl, fun _ _ h => absurd h List.not_mem_nil⟩
  | cons a l ih =>
    obtain ⟨ha, hl⟩ := List.nodup_cons.mp hl
    rw [List.mapM_cons, bind_assoc, Prog.bind_run] at h
    cases hc : updateCommand a w with
    | mk r w₁ =>
      rw [hc] at h
      cases r with
      | error e => cases h
      | ok c =>
        obtain ⟨g, rfl, hg⟩ := updateCommand_ok hc
        dsimp only at h
        rw [pure_bind, Prog.bind_run] at h
        cases hrest : (l.mapM fun a => do
          let command ← updateCommand a
          pure (a, command) : Server n F (List (Fin n × Option AxisCommand)))
            (w.setGenerator a g) with
        | mk r w₂ =>
          rw [hrest] at h
          cases r with
          | error e => cases h
          | ok rest =>
            cases h
            obtain ⟨⟨generators, rfl⟩, hframe, hfst, hcommands⟩ := ih hl hrest
            have hself : generators a = g :=
              (hframe a ha).trans (World.setGenerator_self w a g)
            refine ⟨⟨generators, rfl⟩, fun b hb => ?_, by rw [List.map_cons, hfst], ?_⟩
            · rw [List.mem_cons, not_or] at hb
              exact (hframe b hb.2).trans (World.setGenerator_of_ne w g hb.1)
            · intro b c' hcons
              rcases List.mem_cons.mp hcons with heq | hmem
              · cases heq
                change CommandOf w a (generators a) c
                rw [hself]
                exact hg
              · have hne : b ≠ a := by
                  rintro rfl
                  exact ha (hfst ▸ List.mem_map_of_mem (f := Prod.fst) hmem)
                have hb := hcommands b c' hmem
                unfold CommandOf World.updateGenerator at hb ⊢
                rw [World.setGenerator_of_ne w g hne] at hb
                exact hb

/-- The receive process data of an axis with its command applied. -/
def RxPDO.applyOption (rx : RxPDO) : Option AxisCommand → RxPDO
  | none => rx
  | some command => rx.applyCommand command

omit [PyFloat F] in
theorem applyCommands_run {commands : List (Fin n × Option AxisCommand)}
    (hcommands : (commands.map Prod.fst).Nodup) (w : World n F) :
    ∃ rxpdo, applyCommands commands w = (.ok (), { w with rxpdo := rxpdo }) ∧
      (∀ b, b ∉ commands.map Prod.fst → rxpdo b = w.rxpdo b) ∧
      ∀ b c, (b, c) ∈ commands → rxpdo b = (w.rxpdo b).applyOption c := by
  induction commands generalizing w with
  | nil => exact ⟨w.rxpdo, rfl, fun _ _ => rfl, fun _ _ h => absurd h List.not_mem_nil⟩
  | cons command commands ih =>
    obtain ⟨a, c⟩ := command
    rw [List.map_cons, List.nodup_cons] at hcommands
    obtain ⟨ha, hcommands⟩ := hcommands
    let w₁ := w.setRxpdo a fun rx => rx.applyOption c
    have hself : w₁.rxpdo a = (w.rxpdo a).applyOption c := World.setRxpdo_self ..
    have hother {b : Fin n} (hb : b ≠ a) : w₁.rxpdo b = w.rxpdo b := World.setRxpdo_of_ne _ _ hb
    obtain ⟨rxpdo, hrun, hframe, hmem⟩ := ih hcommands w₁
    refine ⟨rxpdo, ?_, fun b hb => ?_, fun b c' hcons => ?_⟩
    · refine Eq.trans (b := applyCommands commands w₁) (Prog.bind_run_ok (a := ()) ?_) hrun
      cases c with
      | none =>
        change (Except.ok (), w) = (Except.ok (), w₁)
        unfold w₁ World.setRxpdo RxPDO.applyOption
        rw [Function.update_eq_self]
      | some command => rfl
    · rw [List.map_cons, List.mem_cons, not_or] at hb
      exact (hframe b hb.2).trans (hother hb.1)
    · rcases List.mem_cons.mp hcons with heq | hb
      · cases heq
        exact (hframe a ha).trans hself
      · have hfst : b ∈ commands.map Prod.fst := List.mem_map_of_mem (f := Prod.fst) hb
        have hne : b ≠ a := fun heq => ha (heq ▸ hfst)
        rw [hmem b c' hb, hother hne]

/-! ## The image -/

/-- What the preparation of an image makes of an axis. -/
structure Prepared (w w' : World n F) (a : Fin n) : Prop where
  other : (w.rxpdo a).modeOfOperation ≠ 8 →
    w'.generators a = w.generators a ∧ w'.rxpdo a = w.rxpdo a
  csp : (w.rxpdo a).modeOfOperation = 8 → ∃ command : AxisCommand,
    w.updateGenerator a = .ok (w'.generators a) ∧
      PyFloat.roundInt (w'.generators a).commandPosition = .ok command.targetPosition ∧
      w'.rxpdo a = (w.rxpdo a).applyCommand command

omit [PyFloat F] in
theorem prepareMaster_ok {w w' : World n F} (h : prepareMaster w = (.ok (), w')) :
    w' = { w with phase := .prepared } ∧ w.connected = true ∧ w.phase = .idle := by
  unfold prepareMaster at h
  rw [Prog.bind_run_ok (Prog.get_run w), Prog.bind_run, Prog.raiseIf_run] at h
  by_cases hconnected : w.connected = false
  · rw [if_pos hconnected] at h
    cases h
  · rw [if_neg hconnected] at h
    dsimp only at h
    rw [Prog.bind_run, Prog.raiseIf_run] at h
    by_cases hidle : w.phase = .idle
    · rw [if_neg (not_not.mpr hidle)] at h
      dsimp only at h
      have hencode : Prog.Keeps (Prog.Frame.eqOn id) ((List.finRange n).forM fun a =>
          Prog.lift (w.rxpdo a).encode : Server n F Unit) :=
        Prog.Keeps.forM fun _ _ => Prog.Keeps.lift _
      have hw := hencode w
      rw [Prog.bind_run] at h
      cases hr : ((List.finRange n).forM fun a =>
          Prog.lift (w.rxpdo a).encode : Server n F Unit) w with
      | mk r w₁ =>
        rw [hr] at h hw
        obtain rfl : w₁ = w := hw
        cases r with
        | error e => cases h
        | ok u =>
          cases h
          exact ⟨rfl, by simpa using hconnected, hidle⟩
    · rw [if_pos hidle] at h
      cases h

/-- **The image that is prepared**: the generators of the axes in CSP mode are updated and their
positions are what is sent to the axes; nothing else changes. -/
theorem prepareProcessdata_ok {w w' : World n F} (h : prepareProcessdata w = (.ok (), w')) :
    (∃ generators rxpdo, w' = { w with
      generators := generators
      rxpdo := rxpdo
      phase := .prepared }) ∧
      w.connected = true ∧ w.phase = .idle ∧ ∀ a, Prepared w w' a := by
  unfold prepareProcessdata updateCommands at h
  rw [Prog.bind_run] at h
  cases hc : ((List.finRange n).mapM fun a => do
      let command ← updateCommand a
      pure (a, command) : Server n F (List (Fin n × Option AxisCommand))) w with
  | mk r w₁ =>
    rw [hc] at h
    cases r with
    | error e => cases h
    | ok commands =>
      obtain ⟨⟨generators, rfl⟩, -, hfst, hcommands⟩ := updateCommands_ok (List.nodup_finRange n) hc
      have hnodup : (commands.map Prod.fst).Nodup := hfst ▸ List.nodup_finRange n
      obtain ⟨rxpdo, hrun, -, hrxpdo⟩ :=
        applyCommands_run hnodup { w with generators := generators }
      dsimp only at h
      rw [Prog.bind_run_ok hrun] at h
      obtain ⟨rfl, hconnected, hidle⟩ := prepareMaster_ok h
      refine ⟨⟨generators, rxpdo, rfl⟩, hconnected, hidle, fun a => ?_⟩
      obtain ⟨⟨b, c⟩, hmem, rfl⟩ : ∃ e ∈ commands, Prod.fst e = a := by
        rw [← List.mem_map, hfst]
        exact List.mem_finRange a
      have hb := hcommands b c hmem
      have hrx : rxpdo b = (w.rxpdo b).applyOption c := hrxpdo b c hmem
      constructor
      · intro hmode
        rcases hb with ⟨-, rfl, hg⟩ | ⟨hcsp, -⟩
        · exact ⟨hg, hrx⟩
        · exact absurd hcsp hmode
      · intro hmode
        rcases hb with ⟨hother, -⟩ | ⟨-, hg, command, rfl, ht⟩
        · exact absurd hmode hother
        · exact ⟨command, hg, ht, hrx⟩

omit [PyFloat F] in
/-- What becomes of a prepared image: it is not sent, or sent and not answered, or answered. -/
theorem transferProcessdata_cases (env : Env n F) (w : World n F) :
    (∃ e, env.exchange w.exchanges = .sendError e ∧
      transferProcessdata env w = (.error e, { w with exchanges := w.exchanges + 1 })) ∨
    (∃ e, env.exchange w.exchanges = .receiveError e ∧
      transferProcessdata env w = (.error e, { w with
        exchanges := w.exchanges + 1
        phase := .sent
        sent := w.rxpdo :: w.sent })) ∨
    ∃ txpdo, env.exchange w.exchanges = .received txpdo ∧
      transferProcessdata env w = (.ok (), { w with
        exchanges := w.exchanges + 1
        txpdo := txpdo
        phase := .idle
        sent := w.rxpdo :: w.sent }) := by
  unfold transferProcessdata
  rw [Prog.bind_run_ok (Prog.get_run w), Prog.bind_run_ok (Prog.modify_run _ w)]
  cases env.exchange w.exchanges with
  | sendError e => exact Or.inl ⟨e, rfl, rfl⟩
  | receiveError e => exact Or.inr (Or.inl ⟨e, rfl, rfl⟩)
  | received txpdo => exact Or.inr (Or.inr ⟨txpdo, rfl, rfl⟩)

end MotionServer
