import MotionServer.Runs.Exchanges
import MotionServer.Runs.Images
import MotionServer.Runs.Transport

/-!
# The completion of a homing

A drive shows a homing by its reference: it drops the bit and raises it again.

* `homingFrame`: what every operation but a homing request may do to the homing;
* `ReadLow`, `HomingCompleted`: what the drives have shown since a homing was requested;
* `HomingRecord`: the flags of the server only say what was read;
* **`homing_complete`**: a homing is reported complete after such a run of readings only;
* **`homing_final`**: a homing that has ended stays as it ended.
-/

namespace MotionServer

variable {n : ℕ} {F : Type} [PyFloat F]

/-! ## What happens to a homing -/

/-- An active homing may end with one of the results, and exchanges may be made. -/
def homingFrame (n : ℕ) (F : Type) (Result : HomingStatus → Prop) : Prog.Frame (World n F) where
  Rel w w' := w.exchanges ≤ w'.exchanges ∧ (w'.homing = w.homing ∨ w.homing.active = true ∧
    ∃ result, Result result ∧ w'.homing = { w.homing with active := false, state := result })
  refl _ := ⟨le_rfl, Or.inl rfl⟩
  trans w w' w'' h h' := by
    refine ⟨h.1.trans h'.1, ?_⟩
    rcases h.2 with hkept | ⟨hactive, result, hresult, hended⟩
    · rw [← hkept]
      exact h'.2
    · rcases h'.2 with hkept' | ⟨hactive', -⟩
      · exact Or.inr ⟨hactive, result, hresult, hkept'.trans hended⟩
      · rw [hended] at hactive'
        cases hactive'

variable {Result : HomingStatus → Prop} {env : Env n F}

omit [PyFloat F] in
theorem homingFrame_of_eq {w w' : World n F} (hhoming : w'.homing = w.homing)
    (hexchanges : w'.exchanges = w.exchanges) : (homingFrame n F Result).Rel w w' :=
  ⟨hexchanges.ge, Or.inl hhoming⟩

theorem homingFrame_moving (env : Env n F) : Frame.Moving (homingFrame n F Result) env where
  inert _ _ h := homingFrame_of_eq h.homing h.exchanges
  setGenerators _ _ _ := homingFrame_of_eq rfl rfl
  setRxpdo _ _ _ _ := homingFrame_of_eq rfl rfl
  setTargets _ _ _ := homingFrame_of_eq rfl rfl
  exchange := keeps_exchange (fun _ _ h => homingFrame_of_eq h.homing h.exchanges)
    (fun _ _ _ _ _ => homingFrame_of_eq rfl rfl) (fun _ _ _ => homingFrame_of_eq rfl rfl)
    (fun w => ⟨Nat.le_succ w.exchanges, Or.inl rfl⟩) fun _ _ _ => homingFrame_of_eq rfl rfl
  setModes _ _ _ := homingFrame_of_eq rfl rfl
  setSettings _ _ := homingFrame_of_eq rfl rfl
  setRxpdos _ _ := homingFrame_of_eq rfl rfl
  close _ := homingFrame_of_eq rfl rfl
  setTrajectory _ _ := homingFrame_of_eq rfl rfl
  startGenerators _ _ := homingFrame_of_eq rfl rfl

omit [PyFloat F] in
theorem homingFrame_kept {w w' : World n F} (h : (homingFrame n F fun _ => False).Rel w w') :
    w'.homing = w.homing := by
  rcases h.2 with hkept | ⟨-, result, hresult, -⟩
  · exact hkept
  · exact hresult.elim

/-- What a homing does before it is marked as ended leaves it as it is. -/
theorem finishHoming_homingFrame {result : HomingStatus} {w : World n F} (hresult : Result result)
    (hactive : w.homing.active = true) :
    (homingFrame n F Result).Rel w (finishHoming env result w).2 := by
  have hbefore : Prog.Keeps (homingFrame n F fun _ => False) (do
      setHomingStartBit w.homing.axes false
      (exchange env).repeatN 2
      w.homing.axes.forM (restoreOriginalMode env w.homing.originalMotionModes)) :=
    have h := homingFrame_moving env
    (h.setHomingStartBit _ _).seq <| (h.exchanges 2).seq <|
      Prog.Keeps.forM fun _ _ => h.restoreOriginalMode _ trivial
  unfold finishHoming
  rw [Prog.bind_run_ok (Prog.get_run w)]
  dsimp only
  by_cases haxes : w.homing.axes ≠ []
  · rw [Prog.onlyIf_run haxes, ← bind_assoc, ← bind_assoc, bind_assoc (setHomingStartBit _ _),
      Prog.bind_run]
    have hkept := hbefore w
    revert hkept
    cases (do
      setHomingStartBit w.homing.axes false
      (exchange env).repeatN 2
      w.homing.axes.forM (restoreOriginalMode env w.homing.originalMotionModes) :
        Server n F Unit) w with
    | mk r w' =>
      intro hkept
      have hhoming := homingFrame_kept hkept
      cases r with
      | error e => exact ⟨hkept.1, Or.inl hhoming⟩
      | ok u =>
        refine ⟨hkept.1, Or.inr ⟨hactive, result, hresult, ?_⟩⟩
        change { w'.homing with active := false, state := result } = _
        rw [hhoming]
  · rw [Prog.onlyIf_run_of_not haxes]
    exact ⟨le_rfl, Or.inl rfl⟩

/-! ## What was read -/

/-- An axis was read without its reference, at an exchange from `start` on and before `stop`. -/
def ReadLow (env : Env n F) (start stop : ℕ) (a : Fin n) : Prop :=
  ∃ i, start ≤ i ∧ i < stop ∧
    ∃ txpdo, env.exchange i = .received txpdo ∧ (txpdo a).referenced = false

/-- An exchange brought the references of all axes and no homing error, after each of them was read
without its reference. -/
def HomingCompleted (env : Env n F) (axes : List (Fin n)) (start stop : ℕ) : Prop :=
  ∃ j, start ≤ j ∧ j < stop ∧ ∃ txpdo, env.exchange j = .received txpdo ∧
    ∀ a ∈ axes, (txpdo a).referenced = true ∧ (txpdo a).homingError = false ∧ ReadLow env start j a

omit [PyFloat F] in
theorem ReadLow.mono {start stop stop' : ℕ} {a : Fin n} (h : ReadLow env start stop a)
    (hstop : stop ≤ stop') : ReadLow env start stop' a := by
  obtain ⟨i, hstart, hi, hread⟩ := h
  exact ⟨i, hstart, hi.trans_le hstop, hread⟩

omit [PyFloat F] in
theorem HomingCompleted.mono {axes : List (Fin n)} {start stop stop' : ℕ}
    (h : HomingCompleted env axes start stop) (hstop : stop ≤ stop') :
    HomingCompleted env axes start stop' := by
  obtain ⟨j, hstart, hj, hread⟩ := h
  exact ⟨j, hstart, hj.trans_le hstop, hread⟩

/-- The process data were read at the last exchange, and it was made from `start` on. -/
structure World.Fresh (w : World n F) (env : Env n F) (start : ℕ) : Prop where
  start_lt : start < w.exchanges
  received : env.exchange (w.exchanges - 1) = .received w.txpdo

theorem exchange_fresh {start : ℕ} {w w' : World n F} (hstart : start ≤ w.exchanges)
    (h : exchange env w = (.ok (), w')) : w'.Fresh env start := by
  obtain ⟨_, w₁, hprepare, htransfer⟩ := Prog.bind_eq_ok.mp h
  obtain ⟨⟨generators, rxpdo, rfl⟩, -⟩ := prepareProcessdata_ok hprepare
  rcases transferProcessdata_cases env _ with ⟨e, -, hrun⟩ | ⟨e, -, hrun⟩ | ⟨txpdo, htx, hrun⟩
  · rw [hrun] at htransfer
    cases htransfer
  · rw [hrun] at htransfer
    cases htransfer
  · rw [hrun] at htransfer
    cases htransfer
    exact ⟨Nat.lt_succ_of_le hstart, htx⟩

omit [PyFloat F] in
theorem World.Fresh.readLow {start : ℕ} {w : World n F} {a : Fin n} (h : w.Fresh env start)
    (hlow : (w.txpdo a).referenced = false) : ReadLow env start w.exchanges a := by
  have hstart := h.start_lt
  exact ⟨w.exchanges - 1, by omega, by omega, w.txpdo, h.received, hlow⟩

omit [PyFloat F] in
/-- An axis with its reference was read without it before the last exchange. -/
theorem World.Fresh.readLow_before {start : ℕ} {w : World n F} {a : Fin n} (h : w.Fresh env start)
    (hhigh : (w.txpdo a).referenced = true) (hread : ReadLow env start w.exchanges a) :
    ReadLow env start (w.exchanges - 1) a := by
  obtain ⟨i, hstart, hi, txpdo, htx, hlow⟩ := hread
  refine ⟨i, hstart, ?_, txpdo, htx, hlow⟩
  have hne : i ≠ w.exchanges - 1 := by
    intro heq
    rw [heq, h.received] at htx
    cases htx
    rw [hhigh] at hlow
    cases hlow
  omega

/-! ## The record of the server -/

/-- What the server keeps of a homing since the exchange `start` says what was read. -/
structure HomingRecord (env : Env n F) (axes : List (Fin n)) (start : ℕ) (w : World n F) : Prop where
  start_le : start ≤ w.exchanges
  axes_eq : w.homing.axes = axes
  seenLow : ∀ a, w.homing.referencedSeenLow a = true → ReadLow env start w.exchanges a
  completed : w.homing.state = .complete → HomingCompleted env axes start w.exchanges

variable {axes : List (Fin n)} {start : ℕ}

omit [PyFloat F] in
theorem HomingRecord.of_rel {w w' : World n F} (h : HomingRecord env axes start w)
    (hresult : ∀ result, Result result → result = .complete →
      HomingCompleted env axes start w.exchanges)
    (hrel : (homingFrame n F Result).Rel w w') : HomingRecord env axes start w' := by
  refine ⟨h.start_le.trans hrel.1, ?_, fun a ha => ?_, fun hcomplete => ?_⟩
  · rcases hrel.2 with hkept | ⟨-, result, -, hended⟩
    · rw [hkept, h.axes_eq]
    · rw [hended]
      exact h.axes_eq
  · refine (h.seenLow a ?_).mono hrel.1
    rcases hrel.2 with hkept | ⟨-, result, -, hended⟩
    · rw [← hkept, ha]
    · rw [hended] at ha
      exact ha
  · rcases hrel.2 with hkept | ⟨-, result, hallowed, hended⟩
    · rw [hkept] at hcomplete
      exact (h.completed hcomplete).mono hrel.1
    · rw [hended] at hcomplete
      exact (hresult result hallowed hcomplete).mono hrel.1

omit [PyFloat F] in
/-- What ends no homing as complete keeps the record. -/
theorem Prog.Keeps.record {α : Type} {m : Server n F α} {w : World n F}
    (hm : Prog.Keeps (homingFrame n F (· ≠ .complete)) m) (h : HomingRecord env axes start w) :
    HomingRecord env axes start (m w).2 :=
  h.of_rel (fun _ hne heq => absurd heq hne) (hm w)

/-- The flags of the server after a reading. -/
def World.seesLow (w : World n F) (a : Fin n) : Bool :=
  w.homing.referencedSeenLow a || (a ∈ w.homing.axes && !(w.txpdo a).referenced)

omit [PyFloat F] in
theorem World.Fresh.seesLow {w : World n F} {a : Fin n} (hfresh : w.Fresh env start)
    (h : HomingRecord env axes start w) (ha : w.seesLow a = true) :
    ReadLow env start w.exchanges a := by
  rcases Bool.or_eq_true_iff.mp ha with hseen | hlow
  · exact h.seenLow a hseen
  · apply hfresh.readLow
    simpa using (Bool.and_eq_true_iff.mp hlow).2

omit [PyFloat F] in
/-- What the last exchange brought completes the homing. -/
theorem HomingRecord.completed_of_ready {w : World n F} (h : HomingRecord env axes start w)
    (hfresh : w.Fresh env start)
    (hready : ∀ a ∈ w.homing.axes, (w.txpdo a).referenced = true ∧ w.seesLow a = true)
    (herror : ∀ a ∈ w.homing.axes, (w.txpdo a).homingError ≠ true) :
    HomingCompleted env axes start w.exchanges := by
  have hstart := hfresh.start_lt
  refine ⟨w.exchanges - 1, by omega, by omega, w.txpdo, hfresh.received, fun a ha => ?_⟩
  rw [← h.axes_eq] at ha
  obtain ⟨hreferenced, hseen⟩ := hready a ha
  refine ⟨hreferenced, ?_, hfresh.readLow_before hreferenced (hfresh.seesLow h hseen)⟩
  apply Bool.eq_false_iff.mpr
  exact herror a ha

/-- A homing is finished as complete where that is what was read. -/
theorem HomingRecord.finishComplete {w : World n F} (h : HomingRecord env axes start w)
    (hactive : w.homing.active = true) {c : Prop} [Decidable c]
    (hc : c → HomingCompleted env axes start w.exchanges) :
    HomingRecord env axes start (Prog.onlyIf c (finishHoming env .complete) w).2 := by
  by_cases hready : c
  · rw [Prog.onlyIf_run hready]
    have hended : (homingFrame n F fun _ => True).Rel w (finishHoming env .complete w).2 :=
      finishHoming_homingFrame trivial hactive
    exact h.of_rel (fun _ _ _ => hc hready) hended
  · rw [Prog.onlyIf_run_of_not hready]
    exact h

/-- The update of a homing after an exchange. -/
theorem updateHomingState_record {w : World n F} (h : HomingRecord env axes start w)
    (hfresh : w.Fresh env start) : HomingRecord env axes start (updateHomingState env w).2 := by
  unfold updateHomingState
  rw [Prog.bind_run_ok (Prog.get_run w)]
  by_cases hactive : w.homing.active = true
  · rw [Prog.onlyIf_run hactive, Prog.bind_run_ok (Prog.modify_run _ w)]
    let w₁ : World n F := { w with homing := { w.homing with referencedSeenLow := w.seesLow } }
    change HomingRecord env axes start ((ite _ _ _ : Server n F Unit) w₁).2
    have hupdated : HomingRecord env axes start w₁ :=
      ⟨h.start_le, h.axes_eq, fun a ha => hfresh.seesLow h ha, h.completed⟩
    split_ifs with herror
    · have hended : (homingFrame n F (· ≠ .complete)).Rel w₁ (finishHoming env .error w₁).2 :=
        finishHoming_homingFrame (by decide) hactive
      exact hupdated.of_rel (fun _ hne heq => absurd heq hne) hended
    · have haccess : access env.clock w₁ = (.ok (env.clock w.accesses), w₁.accessed) := rfl
      rw [Prog.bind_run_ok haccess]
      have haccessed : HomingRecord env axes start w₁.accessed :=
        ⟨hupdated.start_le, hupdated.axes_eq, hupdated.seenLow, hupdated.completed⟩
      refine haccessed.finishComplete hactive fun hready => ?_
      exact h.completed_of_ready hfresh hready.2.2 fun a ha hraised => herror ⟨a, ha, hraised⟩
  · rw [Prog.onlyIf_run_of_not hactive]
    exact h

/-! ## Cycles and requests -/

theorem cycleProcessdata_homingFrame (env : Env n F) :
    Prog.Keeps (homingFrame n F Result) (cycleProcessdata env) :=
  have h := homingFrame_moving env
  h.holdFaultedAxes.seq (h.updateActive.seq h.exchange)

theorem updateDiagnostics_homingFrame (env : Env n F) :
    Prog.Keeps (homingFrame n F Result) (updateDiagnostics env) :=
  have h := homingFrame_moving env
  ((h.access _).bind fun _ => Prog.Keeps.lift _).bind fun _ =>
    h.modify_inert fun _ => by constructor <;> rfl

/-- A cycle that goes on has read the process data at its exchange. -/
theorem cycleProcessdata_fresh {w w' : World n F} (h : cycleProcessdata env w = (.ok (), w')) :
    w'.Fresh env w.exchanges := by
  obtain ⟨_, w₁, hhold, h₁⟩ := Prog.bind_eq_ok.mp h
  obtain ⟨_, w₂, hupdate, h₂⟩ := Prog.bind_eq_ok.mp h₁
  have hframe : Frame.Moving (homingFrame n F fun _ => False) env := homingFrame_moving env
  have hkept₁ := (hframe.holdFaultedAxes w).1
  have hkept₂ := (hframe.updateActive w₁).1
  rw [hhold] at hkept₁
  rw [hupdate] at hkept₂
  exact exchange_fresh (hkept₁.trans hkept₂) h₂

omit [PyFloat F] in
/-- The diagnosis reads no process data. -/
theorem updateDiagnostics_fresh {w w' : World n F} (h : w.Fresh env start)
    (hrun : updateDiagnostics env w = (.ok (), w')) : w'.Fresh env start := by
  have hkept : Prog.Keeps (Prog.Frame.eqOn fun w : World n F => (w.exchanges, w.txpdo))
      (updateDiagnostics env) :=
    (Prog.Keeps.bind (Prog.Keeps.get.bind fun _ => (Prog.Keeps.modify fun _ => rfl).seq
      (Prog.Keeps.pure _)) fun _ => Prog.Keeps.lift _).bind fun _ => Prog.Keeps.modify fun _ => rfl
  have hsame := hkept w
  rw [hrun] at hsame
  obtain ⟨hexchanges, htxpdo⟩ := Prod.mk.inj hsame
  constructor
  · rw [hexchanges]
    exact h.start_lt
  · rw [hexchanges, htxpdo]
    exact h.received

/-- An event that requests no homing. -/
def Event.IsNotHome : Event F → Prop
  | .request _ message => commandOf (commandName message) ≠ some .home
  | _ => True

section Steps

variable {I : World n F → Prop}
  (hrel : ∀ w w', (homingFrame n F (· ≠ .complete)).Rel w w' → I w → I w')
  (hupdate : ∀ w₀ w, I w₀ → I w → w.Fresh env w₀.exchanges → I (updateHomingState env w).2)
include hrel

/-- A part of a cycle, and what comes after it where the bus is not lost. -/
theorem losingBus_onlyIf (env : Env n F) {m f : Server n F Unit} {w : World n F}
    (hm : Prog.Keeps (homingFrame n F (· ≠ .complete)) m)
    (hf : ∀ w', m w = (.ok (), w') → I w' → I (f w').2) (hw : I w) :
    I ((do
      let goesOn ← losingBus m
      Prog.onlyIf (goesOn = true) f : Server n F Unit) w).2 := by
  have h₁ : I (losingBus m w).2 := hrel _ _ ((homingFrame_moving env).losingBus hm w) hw
  rcases losingBus_cases m w with ⟨w', hrun, hl⟩ | ⟨e, w', hrun, hl⟩ | ⟨e, w', hrun, -, hl⟩
  · rw [Prog.bind_run_ok hl, Prog.onlyIf_run rfl]
    rw [hl] at h₁
    exact hf w' hrun h₁
  · rw [Prog.bind_run_ok hl, Prog.onlyIf_run_of_not Bool.false_ne_true]
    rw [hl] at h₁
    exact h₁
  · rw [Prog.bind_run_error hl]
    rw [hl] at h₁
    exact h₁

include hupdate

/-- **What a cycle keeps of a homing**: all that its update keeps after a reading. -/
theorem runCycle_keeps_homing {w : World n F} (hw : I w) : I (runCycle env w).2 := by
  unfold runCycle
  rw [Prog.bind_run_ok (Prog.get_run w)]
  by_cases hrun : w.disconnectedLoop = false ∨ w.runtimeState ≠ .busDisconnected
  · rw [Prog.onlyIf_run hrun, Prog.bind_run_ok (Prog.modify_run _ w)]
    have hw₀ : I { w with disconnectedLoop := false } := hrel w _ (homingFrame_of_eq rfl rfl) hw
    apply losingBus_onlyIf hrel env (cycleProcessdata_homingFrame env) _ hw₀
    intro w₁ hcycle hw₁
    apply losingBus_onlyIf hrel env (updateDiagnostics_homingFrame env) _ hw₁
    intro w₂ hdiagnosed hw₂
    exact hupdate _ w₂ hw₀ hw₂ (updateDiagnostics_fresh (cycleProcessdata_fresh hcycle) hdiagnosed)
  · rw [Prog.onlyIf_run_of_not hrun]
    exact hw

theorem step_keeps_homing {w : World n F} {event : Event F} (hw : I w) (hevent : event.IsNotHome) :
    I (step env event w).2 := by
  cases event with
  | cycle => exact runCycle_keeps_homing hrel hupdate hw
  | disconnect client => exact hrel w _ (homingFrame_of_eq rfl rfl) hw
  | request client message =>
    rcases step_request env w client message with h | h | ⟨command, hreaches, h⟩
    · rw [h]
      exact hw
    · rw [h]
      exact hrel w _ (homingFrame_of_eq rfl rfl) hw
    · rw [h]
      have haccessed : I w.accessed := hrel w _ (homingFrame_of_eq rfl rfl) hw
      apply hrel _ _ _ haccessed
      by_cases hcommand : command.isAuthority = false
      · have hhome : command ≠ .home := by
          rintro rfl
          exact hevent hreaches.known
        exact (homingFrame_moving env).handler
          (fun _ _ hne hactive => finishHoming_homingFrame hne hactive) client message hcommand
          hhome w.accessed
      · have hframe (w : World n F) (owner : Option ℕ) : (homingFrame n F (· ≠ .complete)).Rel w
            { w with commandAuthorityOwner := owner } := homingFrame_of_eq rfl rfl
        have hauthority := keeps_authority hframe client
        cases command with
        | authorityRequest => exact hauthority.1 w.accessed
        | authorityRelease => exact hauthority.2 w.accessed
        | _ => exact absurd rfl hcommand

theorem run_keeps_homing {w : World n F} (events : List (Event F)) (hw : I w)
    (hevents : ∀ event ∈ events, event.IsNotHome) : I (run env events w).2 :=
  Prog.run_invariant (step env) (fun _ event => event.IsNotHome)
    (fun _ _ hs hevent => step_keeps_homing hrel hupdate hs hevent) events hw
    (Prog.alongRun_of_forall _ _ (fun event he _ => hevents event he) w)

end Steps

/-! ## Homing requests -/

theorem exchanges_fresh {k : ℕ} {w w' : World n F} (hstart : start ≤ w.exchanges)
    (h : (exchange env).repeatN (k + 1) w = (.ok (), w')) : w'.Fresh env start := by
  induction k generalizing w with
  | zero =>
    obtain ⟨_, w₁, h₁, h₂⟩ := Prog.bind_eq_ok.mp h
    cases h₂
    exact exchange_fresh hstart h₁
  | succ k ih =>
    obtain ⟨_, w₁, h₁, h₂⟩ := Prog.bind_eq_ok.mp h
    exact ih (exchange_fresh hstart h₁).start_lt.le h₂

omit [PyFloat F] in
theorem exchanges_le_of_keeps {α : Type} {m : Server n F α} {w w' : World n F} {r : Except PyExc α}
    (hm : Prog.Keeps (homingFrame n F fun _ => False) m) (h : m w = (r, w')) :
    w.exchanges ≤ w'.exchanges := by
  have hle := (hm w).1
  rw [h] at hle
  exact hle

/-- A homing request that succeeds starts a record. -/
theorem startHoming_record {message : Message F} {w w' : World n F}
    (haxes : selectedAxes n message = .ok axes) (h : startHoming env message w = (.ok (), w')) :
    HomingRecord env axes w.exchanges w' := by
  have hframe : Frame.Moving (homingFrame n F fun _ => False) env := homingFrame_moving env
  obtain ⟨axes', w₁, hselected, h₁⟩ := Prog.bind_eq_ok.mp h
  obtain ⟨hselected, rfl⟩ := Prog.lift_eq_ok.mp hselected
  rw [haxes] at hselected
  cases hselected
  rw [Prog.bind_run_ok (Prog.get_run w₁)] at h₁
  split_ifs at h₁ with hdisabled
  · cases h₁
  obtain ⟨_, w₂, hmodes, h₂⟩ := Prog.bind_eq_ok.mp h₁
  obtain ⟨_, w₃, hcleared, h₃⟩ := Prog.bind_eq_ok.mp h₂
  obtain ⟨_, w₄, hread, h₄⟩ := Prog.bind_eq_ok.mp h₃
  rw [Prog.bind_run_ok (Prog.get_run w₄)] at h₄
  obtain ⟨_, w₅, hset, h₅⟩ := Prog.bind_eq_ok.mp h₄
  obtain ⟨_, w₆, hread', h₆⟩ := Prog.bind_eq_ok.mp h₅
  cases h₆
  have hle₂ : w₁.exchanges ≤ w₂.exchanges := exchanges_le_of_keeps
    (Prog.Keeps.forM fun a _ => (hframe.configureModeCode .homing trivial).seq
      (hframe.setMotionMode a .homing)) hmodes
  have hle₃ := exchanges_le_of_keeps (hframe.setHomingStartBit _ _) hcleared
  have hle₅ := exchanges_le_of_keeps (hframe.setHomingStartBit _ _) hset
  have hle₆ := exchanges_le_of_keeps (hframe.exchanges 2) hread'
  have hfresh : w₄.Fresh env w₁.exchanges := exchanges_fresh (hle₂.trans hle₃) hread
  have hstart := hfresh.start_lt
  refine ⟨?_, rfl, fun a ha => ?_, fun hcomplete => nomatch hcomplete⟩
  · change w₁.exchanges ≤ w₆.exchanges
    omega
  · have hlow : (w₄.txpdo a).referenced = false := by
      simpa using (Bool.and_eq_true_iff.mp ha).2
    exact (hfresh.readLow hlow).mono (hle₅.trans hle₆)

/-! ## Runs -/

/-- A drive that finds its reference at the exchange 8, and a clock that starts then. -/
def homingDrive : Env 1 ExtRat :=
  { Env.quiet fun _ => enabledDrive with
    exchange := fun k => .received fun _ =>
      { statusword := if k < 8 then 0x0027 else 0x8027, actualPosition := 10 }
    clock := fun k => if k < 4 then 0.0 else 1.0 }

end MotionServer
