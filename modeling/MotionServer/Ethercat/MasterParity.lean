import MotionServer.Ethercat.PdoProfiles
import MotionServer.Ethercat.ProcessDataCycle
import MotionServer.Lib.Lockstep

/-!
# The masters keep one cycle

* `MockMaster.Shows`, `PySOEMMaster.Shows`: a master shows a cycle;
* `MockMaster.shows_step`, `PySOEMMaster.shows_step`: one event of either master;
* **`masters_in_step`**: in every run both masters accept and refuse what the cycle does, and show it;
* **`inputs_together`**: all inputs arrive, or none;
* **`image_frozen`**: what is sent is the image that was prepared.
-/

namespace MotionServer

variable {Rx Tx : Type}

/-! ## What a master shows -/

/-- The mock master shows the cycle. Its endpoints got the image that it carried. -/
structure MockMaster.Shows (master : MockMaster Rx Tx) (cycle : ProcessDataCycle Rx Tx) : Prop
    extends Shown master.slaves master.connected master.outputsSent master.processdataPrepared cycle
    where
  state : master.state = .preop ↔ cycle.connected = true ∧ cycle.operational = false
  exchanged : cycle.phase ≠ .sent → ∀ image, cycle.carried = some image →
    master.exchanged.head? = some image

/-- The payloads of the image are those of the slaves. -/
def OutputImage.On (image : OutputImage) (outputs : ℕ → Payload) : Prop :=
  ∀ i payload, image[i]? = some (some payload) → outputs i = payload

/-- The PySOEM master shows the cycle. The bus carried the image. -/
structure PySOEMMaster.Shows (master : PySOEMMaster Rx Tx) (cycle : ProcessDataCycle Rx Tx) : Prop
    extends Shown master.slaves master.outputs.isSome master.processdataSent
      master.processdataPrepared cycle where
  sent : ∀ image, cycle.carried = some image →
    ∃ outputs, master.sent.head? = some outputs ∧ image.On outputs

/-! ## The mock master -/

namespace MockMaster

variable {master : MockMaster Rx Tx} {cycle : ProcessDataCycle Rx Tx}

theorem prepareProcessdata_run (master : MockMaster Rx Tx) : prepareProcessdata master =
    if master.connected = false then (.error transportDisconnected, master)
    else if master.outputsSent = true ∨ master.processdataPrepared = true then
      (.error .runtimeError, master)
    else match encodeOutputCandidates master.slaves with
      | .error e => (.error e, master)
      | .ok candidates => (.ok (), { master with
          slaves := commitEach MasterPdoRuntime.commitPreparedOutput master.slaves candidates
          processdataPrepared := true }) := by
  obtain ⟨slaves, sent, prepared, connected, state, exchanged⟩ := master
  cases connected
  · rfl
  · cases sent <;> cases prepared <;> try rfl
    show (Prog.lift (encodeOutputCandidates slaves) >>= _) _ = _
    rw [Prog.bind_run, Prog.lift_run]
    dsimp only
    cases encodeOutputCandidates slaves <;> rfl

theorem sendProcessdata_run (master : MockMaster Rx Tx) : sendProcessdata master =
    if master.connected = false then (.error transportDisconnected, master)
    else if master.outputsSent = true then (.error .runtimeError, master)
    else if master.processdataPrepared = false then (.error .runtimeError, master)
    else (.ok (), { master with
      slaves := commitEach MasterPdoRuntime.commitTransmittedOutput master.slaves
        (master.slaves.map MasterPdoRuntime.preparedOutput)
      outputsSent := true
      processdataPrepared := false }) := by
  obtain ⟨slaves, sent, prepared, connected, state, exchanged⟩ := master
  cases connected
  · rfl
  · cases sent <;> cases prepared <;> rfl

theorem receiveProcessdata_run (inputs : Except PyExc (ℕ → Payload)) (master : MockMaster Rx Tx) :
    receiveProcessdata inputs master =
      if master.connected = false then (.error transportDisconnected, master)
      else if master.outputsSent = false then (.error .runtimeError, master)
      else
        let called := { master with
          exchanged := master.slaves.map MasterPdoRuntime.transmittedOutput :: master.exchanged }
        match inputs with
        | .error e => (.error (ProcessDataCycle.receiveFailure e), called)
        | .ok input =>
          if AllAccept input 0 (master.slaves.map MasterPdoRuntime.toSlavePdos) then
            (.ok (), { called with
              slaves := (decodeInputs master.slaves (inputPayloads input 0 master.slaves)).2
              outputsSent := false })
          else (.error .valueError, called) := by
  obtain ⟨slaves, sent, prepared, connected, state, exchanged⟩ := master
  cases connected
  · rfl
  · cases sent
    · rfl
    · cases inputs with
      | error e => rfl
      | ok input =>
        show (Prog.lift (validateInputPayloads input 0 slaves) >>= _) _ = _
        rw [Prog.bind_run, Prog.lift_run, validateInputPayloads_eq]
        dsimp only
        by_cases haccept : AllAccept input 0 (slaves.map MasterPdoRuntime.toSlavePdos)
        · rw [if_pos haccept, if_pos haccept]
          dsimp only
          rw [Prog.bind_run_ok (Prog.modify_run _ _),
            Prog.bind_run_ok ((Prog.lift_run _ _).trans
              (congrArg (·, _) (decodeInputs_of_allAccept haccept).1))]
          rfl
        · rw [if_neg haccept, if_neg haccept]
          rfl

theorem connect_run (prepared : Except PyExc Unit) (master : MockMaster Rx Tx) :
    connect prepared master = match prepared with
      | .ok () => (.ok (), { master.resetProcessdataState with connected := true, state := .preop })
      | .error e => (.error e, resetProcessdataState
          { master.resetProcessdataState with connected := false, state := .closed }) := by
  cases prepared <;> rfl

/-- Slaves that were reset twice. -/
theorem resetProcessdata_twice (slaves : List (MasterPdoRuntime Rx Tx)) :
    (slaves.map MasterPdoRuntime.resetProcessdata).map MasterPdoRuntime.resetProcessdata =
      slaves.map MasterPdoRuntime.resetProcessdata := by
  rw [List.map_map]
  rfl

theorem shows_closed (h : master.Shows cycle) :
    (resetProcessdataState { master with connected := false, state := .closed }).Shows
      (cycle.restarted false) where
  toShown := h.toShown.reset false
  state := by
    constructor
    · intro hstate
      cases hstate
    · rintro ⟨hconnected, -⟩
      cases hconnected
  exchanged := fun _ _ hcarried => nomatch hcarried

theorem shows_connect (h : master.Shows cycle) (prepared : Except PyExc Unit) :
    (connect prepared master).1 = (ProcessDataCycle.step (.connect prepared) cycle).1 ∧
      (connect prepared master).2.Shows (ProcessDataCycle.step (.connect prepared) cycle).2 := by
  rw [connect_run]
  cases prepared with
  | error e =>
    refine ⟨rfl, ?_⟩
    have hclosed := shows_closed h
    unfold resetProcessdataState at hclosed ⊢
    rw [resetProcessdata_twice]
    exact hclosed
  | ok u =>
    refine ⟨rfl, h.toShown.reset true, ?_, fun _ _ hcarried => nomatch hcarried⟩
    exact iff_of_true rfl ⟨rfl, rfl⟩

theorem shows_prepare (h : master.Shows cycle) :
    (prepareProcessdata master).1 = (ProcessDataCycle.prepare cycle).1 ∧
      (prepareProcessdata master).2.Shows (ProcessDataCycle.prepare cycle).2 := by
  rw [prepareProcessdata_run]
  unfold ProcessDataCycle.prepare
  rw [h.image_eq]
  by_cases hconnected : cycle.connected = false
  · rw [if_pos (h.connected.trans hconnected), if_pos hconnected]
    exact ⟨rfl, h⟩
  · rw [if_neg (h.connected.trans_ne hconnected), if_neg hconnected]
    have hflags := h.flags
    cases hphase : cycle.phase with
    | idle =>
      rw [hphase] at hflags
      obtain ⟨hsent, hprepared⟩ := hflags
      rw [if_neg (by simp [hsent, hprepared])]
      cases hcandidates : encodeOutputCandidates master.slaves with
      | error e => exact ⟨rfl, h⟩
      | ok candidates =>
        refine ⟨rfl, ?_, h.state, fun _ => h.exchanged (by rw [hphase]; nofun)⟩
        dsimp only
        rw [hsent]
        exact h.toShown.prepare hcandidates
    | prepared image =>
      rw [hphase] at hflags
      rw [if_pos (Or.inr hflags.2.1)]
      exact ⟨rfl, h⟩
    | sent =>
      rw [hphase] at hflags
      rw [if_pos (Or.inl hflags.1)]
      exact ⟨rfl, h⟩

theorem shows_send (h : master.Shows cycle) :
    (sendProcessdata master).1 = (ProcessDataCycle.send cycle).1 ∧
      (sendProcessdata master).2.Shows (ProcessDataCycle.send cycle).2 := by
  rw [sendProcessdata_run]
  unfold ProcessDataCycle.send
  by_cases hconnected : cycle.connected = false
  · rw [if_pos (h.connected.trans hconnected), if_pos hconnected]
    exact ⟨rfl, h⟩
  · rw [if_neg (h.connected.trans_ne hconnected), if_neg hconnected]
    have hflags := h.flags
    cases hphase : cycle.phase with
    | idle =>
      rw [hphase] at hflags
      rw [if_neg (by simp [hflags.1]), if_pos hflags.2]
      exact ⟨rfl, h⟩
    | prepared image =>
      rw [hphase] at hflags
      obtain ⟨hsent, hprepared, houtputs⟩ := hflags
      rw [if_neg (by simp [hsent]), if_neg (by simp [hprepared]), houtputs]
      exact ⟨rfl, h.toShown.send houtputs, h.state, fun hne => absurd rfl hne⟩
    | sent =>
      rw [hphase] at hflags
      rw [if_pos hflags.1]
      exact ⟨rfl, h⟩

theorem shows_receive (h : master.Shows cycle) (inputs : Except PyExc (ℕ → Payload)) :
    (receiveProcessdata inputs master).1 = (ProcessDataCycle.receive inputs cycle).1 ∧
      (receiveProcessdata inputs master).2.Shows (ProcessDataCycle.receive inputs cycle).2 := by
  rw [receiveProcessdata_run]
  unfold ProcessDataCycle.receive
  rw [h.pdos]
  by_cases hconnected : cycle.connected = false
  · rw [if_pos (h.connected.trans hconnected), if_pos hconnected]
    exact ⟨rfl, h⟩
  · rw [if_neg (h.connected.trans_ne hconnected), if_neg hconnected]
    have hflags := h.flags
    cases hphase : cycle.phase with
    | idle =>
      rw [hphase] at hflags
      rw [if_pos hflags.1]
      exact ⟨rfl, h⟩
    | prepared image =>
      rw [hphase] at hflags
      rw [if_pos hflags.1]
      exact ⟨rfl, h⟩
    | sent =>
      rw [hphase] at hflags
      rw [if_neg (by simp [hflags.1])]
      -- The endpoints were called; the cycle goes on only if all inputs are accepted.
      cases inputs with
      | error e => exact ⟨rfl, h.toShown, h.state, fun hne => absurd hphase hne⟩
      | ok input =>
        dsimp only
        by_cases haccept : AllAccept input 0 cycle.slaves
        · rw [if_pos haccept, if_pos haccept]
          refine ⟨rfl, h.toShown.receive hflags.2 hphase haccept, h.state, ?_⟩
          intro _ image hcarried
          rw [← h.transmitted image hcarried]
          rfl
        · rw [if_neg haccept, if_neg haccept]
          exact ⟨rfl, h.toShown, h.state, fun hne => absurd hphase hne⟩

/-- **One event of the mock master.** -/
theorem shows_step (h : master.Shows cycle) {event : MasterEvent Rx} (hallowed : cycle.Allowed event) :
    (step event master).1 = (ProcessDataCycle.step event cycle).1 ∧
      (step event master).2.Shows (ProcessDataCycle.step event cycle).2 := by
  cases event with
  | write index fields => exact ⟨rfl, h.toShown.write index fields, h.state, h.exchanged⟩
  | connect prepared => exact shows_connect h prepared
  | enterOperational reached =>
    obtain ⟨hconnected, hoperational, hphase, -⟩ := hallowed
    have hstate := h.state.mpr ⟨hconnected, hoperational⟩
    have hrun : enterOperational master =
        (.ok (), { master with connected := true, state := .op }) := by
      unfold enterOperational
      simp [Prog.bind_run, Prog.raiseIf_run, hstate]
    show (enterOperational master).1 = _ ∧ (enterOperational master).2.Shows _
    rw [hrun]
    refine ⟨rfl, ⟨h.pdos, hconnected.symm, h.flags, nofun, ?_, nofun⟩, ?_, nofun⟩
    · intro hsent
      exact nomatch hphase.symm.trans hsent
    · constructor
      · intro hop
        cases hop
      · rintro ⟨-, hoperational'⟩
        cases hoperational'
  | prepare => exact shows_prepare h
  | send => exact shows_send h
  | receive inputs => exact shows_receive h inputs
  | close => exact ⟨rfl, shows_closed h⟩

theorem shows_init (slaves : List (SlavePdos Rx Tx)) :
    (init slaves).Shows (ProcessDataCycle.init slaves) where
  pdos := by
    show (slaves.map _).map _ = slaves
    rw [List.map_map]
    exact List.map_id slaves
  connected := rfl
  flags := ⟨rfl, rfl⟩
  transmitted := nofun
  carries := nofun
  untransmitted := by
    intro _ _ slave hslave
    obtain ⟨slave', -, rfl⟩ := List.mem_map.mp hslave
    rfl
  state := by
    constructor
    · intro hstate
      cases hstate
    · rintro ⟨hconnected, -⟩
      cases hconnected
  exchanged := nofun

end MockMaster

/-! ## The PySOEM master -/

namespace PySOEMMaster

variable {master : PySOEMMaster Rx Tx} {cycle : ProcessDataCycle Rx Tx}

theorem prepareProcessdata_run (master : PySOEMMaster Rx Tx) : prepareProcessdata master =
    if master.outputs.isSome = false then (.error transportDisconnected, master)
    else if master.processdataSent = true ∨ master.processdataPrepared = true then
      (.error .runtimeError, master)
    else match encodeOutputCandidates master.slaves with
      | .error e => (.error e, master)
      | .ok candidates => (.ok (), { master with
          slaves := commitEach MasterPdoRuntime.commitPreparedOutput master.slaves candidates
          processdataPrepared := true }) := by
  obtain ⟨slaves, prepared, sent, outputs, frames⟩ := master
  cases outputs
  · rfl
  · cases sent <;> cases prepared <;> try rfl
    show (tryCatch (Prog.lift (encodeOutputCandidates slaves)) _ >>= _) _ = _
    rw [Prog.bind_run, Prog.tryCatch_run, Prog.lift_run]
    dsimp only
    cases hcandidates : encodeOutputCandidates slaves with
    | ok candidates => rfl
    | error e =>
      have hsame : processdataException "processdata_prepare" e = e := by
        unfold processdataException
        rw [isOSError_of_encode hcandidates]
        cases e.isMotionServer <;> rfl
      dsimp only [Prog.throw_run]
      rw [hsame]
      rfl

theorem sendProcessdata_run (master : PySOEMMaster Rx Tx) : sendProcessdata master =
    match master.outputs with
    | none => (.error transportDisconnected, master)
    | some outputs =>
      if master.processdataSent = true then (.error .runtimeError, master)
      else if master.processdataPrepared = false then (.error .runtimeError, master)
      else
        let snapshots := master.slaves.map MasterPdoRuntime.preparedOutput
        (.ok (), { master with
          slaves := commitEach MasterPdoRuntime.commitTransmittedOutput master.slaves snapshots
          processdataPrepared := false
          processdataSent := true
          outputs := some (assignOutputSnapshots 0 snapshots outputs)
          sent := assignOutputSnapshots 0 snapshots outputs :: master.sent }) := by
  obtain ⟨slaves, prepared, sent, outputs, frames⟩ := master
  cases outputs
  · rfl
  · cases sent <;> cases prepared <;> rfl

theorem processdataException_receive (e : PyExc) :
    processdataException "processdata_receive" e = ProcessDataCycle.receiveFailure e := by
  cases e <;> rfl

theorem receiveProcessdata_run (inputs : Except PyExc (ℕ → Payload)) (master : PySOEMMaster Rx Tx) :
    receiveProcessdata inputs master =
      if master.outputs.isSome = false then (.error transportDisconnected, master)
      else if master.processdataSent = false then (.error .runtimeError, master)
      else match inputs with
        | .error e => (.error (ProcessDataCycle.receiveFailure e), master)
        | .ok input =>
          if AllAccept input 0 (master.slaves.map MasterPdoRuntime.toSlavePdos) then
            (.ok (), { master with
              slaves := (decodeInputs master.slaves (inputPayloads input 0 master.slaves)).2
              processdataSent := false })
          else (.error .valueError, master) := by
  obtain ⟨slaves, prepared, sent, outputs, frames⟩ := master
  cases outputs
  · rfl
  · cases sent
    · rfl
    · cases inputs with
      | error e =>
        show (Except.error (processdataException "processdata_receive" e), _) = _
        rw [processdataException_receive]
        rfl
      | ok input =>
        show (tryCatch (Prog.lift (validateInputPayloads input 0 slaves)) _ >>= _) _ = _
        rw [Prog.bind_run, Prog.tryCatch_run, Prog.lift_run, validateInputPayloads_eq]
        dsimp only
        by_cases haccept : AllAccept input 0 (slaves.map MasterPdoRuntime.toSlavePdos)
        · rw [if_pos haccept, if_pos haccept]
          dsimp only
          rw [Prog.bind_run_ok (Prog.modify_run _ _),
            Prog.bind_run_ok ((Prog.lift_run _ _).trans
              (congrArg (·, _) (decodeInputs_of_allAccept haccept).1))]
          rfl
        · rw [if_neg haccept, if_neg haccept]
          rfl

/-- The snapshots are on the slaves from the position `index` on. -/
theorem assignOutputSnapshots_apply (snapshots : OutputImage) (index : ℕ) (outputs : ℕ → Payload)
    {i : ℕ} {payload : Payload} (h : snapshots[i]? = some (some payload)) :
    assignOutputSnapshots index snapshots outputs (index + i) = payload := by
  have hbefore : ∀ (snapshots : OutputImage) (index : ℕ) (outputs : ℕ → Payload) (j : ℕ), j < index →
      assignOutputSnapshots index snapshots outputs j = outputs j := by
    intro snapshots
    induction snapshots with
    | nil => intros; rfl
    | cons snapshot snapshots ih =>
      intro index outputs j hj
      cases snapshot with
      | none => exact ih (index + 1) outputs j (by omega)
      | some payload =>
        rw [assignOutputSnapshots, ih _ _ _ (by omega), Function.update_of_ne (by omega)]
  induction snapshots generalizing index outputs i with
  | nil => simp at h
  | cons snapshot snapshots ih =>
    cases i with
    | zero =>
      rw [List.getElem?_cons_zero] at h
      obtain rfl := Option.some.inj h
      rw [assignOutputSnapshots, hbefore _ _ _ _ (by omega)]
      exact Function.update_self ..
    | succ i =>
      have hnext := fun outputs => ih (index + 1) outputs h
      cases snapshot with
      | none =>
        rw [assignOutputSnapshots, ← hnext outputs]
        congr 1
        omega
      | some payload' =>
        rw [assignOutputSnapshots, ← hnext (Function.update outputs index payload')]
        congr 1
        omega

theorem shows_closed (h : master.Shows cycle) :
    (resetProcessdataState { master with outputs := none }).Shows (cycle.restarted false) where
  toShown := h.toShown.reset false
  sent := nofun

theorem shows_connect (h : master.Shows cycle) (prepared : Except PyExc Unit) :
    (connect prepared master).1 = (ProcessDataCycle.step (.connect prepared) cycle).1 ∧
      (connect prepared master).2.Shows (ProcessDataCycle.step (.connect prepared) cycle).2 := by
  cases prepared with
  | error e =>
    refine ⟨rfl, ?_⟩
    have hclosed := shows_closed h
    show (resetProcessdataState { master.resetProcessdataState with outputs := none }).Shows _
    unfold resetProcessdataState at hclosed ⊢
    rw [MockMaster.resetProcessdata_twice]
    exact hclosed
  | ok u => exact ⟨rfl, h.toShown.reset true, nofun⟩

theorem shows_prepare (h : master.Shows cycle) :
    (prepareProcessdata master).1 = (ProcessDataCycle.prepare cycle).1 ∧
      (prepareProcessdata master).2.Shows (ProcessDataCycle.prepare cycle).2 := by
  rw [prepareProcessdata_run]
  unfold ProcessDataCycle.prepare
  rw [h.image_eq]
  by_cases hconnected : cycle.connected = false
  · rw [if_pos (h.connected.trans hconnected), if_pos hconnected]
    exact ⟨rfl, h⟩
  · rw [if_neg (h.connected.trans_ne hconnected), if_neg hconnected]
    have hflags := h.flags
    cases hphase : cycle.phase with
    | idle =>
      rw [hphase] at hflags
      obtain ⟨hsent, hprepared⟩ := hflags
      rw [if_neg (by simp [hsent, hprepared])]
      cases hcandidates : encodeOutputCandidates master.slaves with
      | error e => exact ⟨rfl, h⟩
      | ok candidates =>
        refine ⟨rfl, ?_, h.sent⟩
        dsimp only
        rw [hsent]
        exact h.toShown.prepare hcandidates
    | prepared image =>
      rw [hphase] at hflags
      rw [if_pos (Or.inr hflags.2.1)]
      exact ⟨rfl, h⟩
    | sent =>
      rw [hphase] at hflags
      rw [if_pos (Or.inl hflags.1)]
      exact ⟨rfl, h⟩

theorem shows_send (h : master.Shows cycle) :
    (sendProcessdata master).1 = (ProcessDataCycle.send cycle).1 ∧
      (sendProcessdata master).2.Shows (ProcessDataCycle.send cycle).2 := by
  rw [sendProcessdata_run]
  unfold ProcessDataCycle.send
  have hopened := h.connected
  cases houtputs : master.outputs with
  | none =>
    rw [houtputs] at hopened
    have hclosed : cycle.connected = false := hopened.symm
    rw [if_pos hclosed]
    exact ⟨rfl, h⟩
  | some outputs =>
    rw [houtputs] at hopened
    have hconnected : ¬ cycle.connected = false := by simp [← hopened]
    rw [if_neg hconnected]
    have hflags := h.flags
    cases hphase : cycle.phase with
    | idle =>
      rw [hphase] at hflags
      dsimp only
      rw [if_neg (by simp [hflags.1]), if_pos hflags.2]
      exact ⟨rfl, h⟩
    | prepared image =>
      rw [hphase] at hflags
      obtain ⟨hsent, hprepared, hprepare⟩ := hflags
      dsimp only
      rw [if_neg (by simp [hsent]), if_neg (by simp [hprepared]), hprepare]
      have hshown := h.toShown.send hprepare
      rw [houtputs] at hshown
      refine ⟨rfl, hshown, ?_⟩
      intro image' himage
      obtain rfl := Option.some.inj himage
      refine ⟨_, rfl, fun i payload hi => ?_⟩
      rw [← assignOutputSnapshots_apply image 0 outputs hi, Nat.zero_add]
    | sent =>
      rw [hphase] at hflags
      dsimp only
      rw [if_pos hflags.1]
      exact ⟨rfl, h⟩

theorem shows_receive (h : master.Shows cycle) (inputs : Except PyExc (ℕ → Payload)) :
    (receiveProcessdata inputs master).1 = (ProcessDataCycle.receive inputs cycle).1 ∧
      (receiveProcessdata inputs master).2.Shows (ProcessDataCycle.receive inputs cycle).2 := by
  rw [receiveProcessdata_run]
  unfold ProcessDataCycle.receive
  rw [h.pdos]
  by_cases hconnected : cycle.connected = false
  · rw [if_pos (h.connected.trans hconnected), if_pos hconnected]
    exact ⟨rfl, h⟩
  · rw [if_neg (h.connected.trans_ne hconnected), if_neg hconnected]
    have hflags := h.flags
    cases hphase : cycle.phase with
    | idle =>
      rw [hphase] at hflags
      rw [if_pos hflags.1]
      exact ⟨rfl, h⟩
    | prepared image =>
      rw [hphase] at hflags
      rw [if_pos hflags.1]
      exact ⟨rfl, h⟩
    | sent =>
      rw [hphase] at hflags
      rw [if_neg (by simp [hflags.1])]
      cases inputs with
      | error e => exact ⟨rfl, h⟩
      | ok input =>
        dsimp only
        by_cases haccept : AllAccept input 0 cycle.slaves
        · rw [if_pos haccept, if_pos haccept]
          exact ⟨rfl, h.toShown.receive hflags.2 hphase haccept, h.sent⟩
        · rw [if_neg haccept, if_neg haccept]
          exact ⟨rfl, h⟩

/-- What the start of the operation leaves alone. -/
structure SameCycle (master master' : PySOEMMaster Rx Tx) : Prop where
  pdos : master'.slaves.map MasterPdoRuntime.toSlavePdos =
    master.slaves.map MasterPdoRuntime.toSlavePdos
  opened : master'.outputs.isSome = master.outputs.isSome
  processdataPrepared : master'.processdataPrepared = master.processdataPrepared
  processdataSent : master'.processdataSent = master.processdataSent

theorem SameCycle.trans {master' master'' : PySOEMMaster Rx Tx} (h : master.SameCycle master')
    (h' : master'.SameCycle master'') : master.SameCycle master'' where
  pdos := h'.pdos.trans h.pdos
  opened := h'.opened.trans h.opened
  processdataPrepared := h'.processdataPrepared.trans h.processdataPrepared
  processdataSent := h'.processdataSent.trans h.processdataSent

theorem SameCycle.candidates {master' : PySOEMMaster Rx Tx} (h : master.SameCycle master') :
    encodeOutputCandidates master'.slaves = encodeOutputCandidates master.slaves := by
  rw [encodeOutputCandidates_eq, encodeOutputCandidates_eq, h.pdos]

/-- Snapshots that are assigned, sent `times` and committed. -/
theorem sameCycle_exchange (master : PySOEMMaster Rx Tx) (snapshots : OutputImage) (times : ℕ) :
    ((do assign snapshots; Prog.repeatN busSend times; commitTransmitted snapshots) master).1 =
        .ok () ∧
      master.SameCycle
        ((do assign snapshots; Prog.repeatN busSend times; commitTransmitted snapshots) master).2 := by
  have hsend : ∀ (times : ℕ) (master : PySOEMMaster Rx Tx), ∃ frames,
      Prog.repeatN busSend times master = (.ok (), { master with sent := frames }) := by
    intro times
    induction times with
    | zero => exact fun master => ⟨master.sent, rfl⟩
    | succ times ih =>
      intro master
      obtain ⟨frames, hframes⟩ := ih { master with sent := master.outputs.toList ++ master.sent }
      exact ⟨frames, hframes⟩
  obtain ⟨frames, hframes⟩ := hsend times
    { master with outputs := master.outputs.map (assignOutputSnapshots 0 snapshots) }
  rw [assign, Prog.bind_run_ok (Prog.modify_run _ _), Prog.bind_run_ok hframes]
  refine ⟨rfl, toSlavePdos_commitTransmitted _ _, ?_, rfl, rfl⟩
  exact Option.isSome_map

/-- The loop ends at the first attempt that finds the slaves operational. -/
theorem requestOperationalFrom_ok {reached : ℕ → Bool} {image : OutputImage}
    {remaining attempt : ℕ} (hreached : ∃ k < remaining, reached (attempt + k) = true)
    (himage : encodeOutputCandidates master.slaves = .ok image) :
    (requestOperationalFrom reached remaining attempt master).1 = .ok () ∧
      master.SameCycle (requestOperationalFrom reached remaining attempt master).2 := by
  induction remaining generalizing attempt master with
  | zero =>
    obtain ⟨k, hk, -⟩ := hreached
    cases hk
  | succ remaining ih =>
    obtain ⟨hok, hsame⟩ := sameCycle_exchange master image 1
    have hrun := Prog.run_eta hok
    generalize ((do assign image; Prog.repeatN busSend 1; commitTransmitted image) master).2 =
      master' at hrun hsame
    have hstep : requestOperationalFrom reached (remaining + 1) attempt master =
        (if reached attempt then pure ()
          else requestOperationalFrom reached remaining (attempt + 1)) master' := by
      show (Prog.lift (encodeOutputCandidates master.slaves) >>= _) master = _
      rw [Prog.bind_run_ok ((Prog.lift_run _ _).trans (congrArg (·, master) himage))]
      show (((do assign image; Prog.repeatN busSend 1; commitTransmitted image) >>= fun _ =>
        (if reached attempt then pure ()
          else requestOperationalFrom reached remaining (attempt + 1))) :
            Prog PyExc (PySOEMMaster Rx Tx) Unit) master = _
      exact Prog.bind_run_ok hrun
    rw [hstep]
    cases hcheck : reached attempt with
    | true => exact ⟨rfl, hsame⟩
    | false =>
      obtain ⟨k, hk, hcheck'⟩ := hreached
      cases k with
      | zero => exact nomatch hcheck.symm.trans hcheck'
      | succ k =>
        have hlater : ∃ k < remaining, reached (attempt + 1 + k) = true := by
          refine ⟨k, Nat.lt_of_succ_lt_succ hk, ?_⟩
          rw [Nat.add_right_comm]
          exact hcheck'
        have hrest := ih hlater (hsame.candidates.trans himage)
        exact ⟨hrest.1, hsame.trans hrest.2⟩

/-- A master becomes operational and keeps its cycle. -/
theorem enterOperational_ok {reached : ℕ → Bool} {image : OutputImage}
    (hopened : master.outputs.isSome = true)
    (himage : encodeOutputCandidates master.slaves = .ok image)
    (hreached : ∃ attempt < 100, reached attempt = true) :
    (enterOperational reached master).1 = .ok () ∧
      master.SameCycle (enterOperational reached master).2 := by
  obtain ⟨hok, hsame⟩ := sameCycle_exchange master image 10
  have hrun := Prog.run_eta hok
  generalize ((do assign image; Prog.repeatN busSend 10; commitTransmitted image) master).2 =
    master' at hrun hsame
  have hstep : enterOperational reached master = requestOperational reached master' := by
    unfold enterOperational requireConnected
    obtain ⟨outputs, houtputs⟩ := Option.isSome_iff_exists.mp hopened
    have hconnected : (do let master ← Prog.get
                          Prog.raiseIf (master.outputs.isNone = true) transportDisconnected :
        Prog PyExc (PySOEMMaster Rx Tx) Unit) master = (.ok (), master) := by
      show Prog.raiseIf (master.outputs.isNone = true) transportDisconnected master = _
      rw [Prog.raiseIf_run, houtputs]
      rfl
    have hprimed : primeOutputs master = (.ok (), master') := by
      show (Prog.lift (encodeOutputCandidates master.slaves) >>= _) master = _
      rw [Prog.bind_run_ok ((Prog.lift_run _ _).trans (congrArg (·, master) himage))]
      exact hrun
    rw [Prog.bind_run_ok hconnected, Prog.bind_run_ok hprimed]
  rw [hstep]
  obtain ⟨attempt, hattempt, hcheck⟩ := hreached
  have hfirst : ∃ k < 100, reached (0 + k) = true :=
    ⟨attempt, hattempt, by rw [Nat.zero_add]; exact hcheck⟩
  obtain ⟨hdone, hkept⟩ := requestOperationalFrom_ok hfirst (hsame.candidates.trans himage)
  exact ⟨hdone, hsame.trans hkept⟩

/-- **One event of the PySOEM master.** -/
theorem shows_step (h : master.Shows cycle) {event : MasterEvent Rx} (hallowed : cycle.Allowed event) :
    (step event master).1 = (ProcessDataCycle.step event cycle).1 ∧
      (step event master).2.Shows (ProcessDataCycle.step event cycle).2 := by
  cases event with
  | write index fields => exact ⟨rfl, h.toShown.write index fields, h.sent⟩
  | connect prepared => exact shows_connect h prepared
  | enterOperational reached =>
    obtain ⟨hconnected, hoperational, hphase, ⟨image, himage⟩, hreached⟩ := hallowed
    rw [h.image_eq] at himage
    obtain ⟨hok, hsame⟩ := enterOperational_ok (h.connected.trans hconnected) himage hreached
    refine ⟨hok, ⟨hsame.pdos.trans h.pdos, hsame.opened.trans h.connected, ?_, nofun, ?_, nofun⟩,
      nofun⟩
    · have hflags := h.flags
      rw [hphase] at hflags
      show CyclePhase.Flags _ _ _ cycle.phase
      rw [hphase]
      exact ⟨hsame.processdataSent.trans hflags.1, hsame.processdataPrepared.trans hflags.2⟩
    · intro hsent
      exact nomatch hphase.symm.trans hsent
  | prepare => exact shows_prepare h
  | send => exact shows_send h
  | receive inputs => exact shows_receive h inputs
  | close => exact ⟨rfl, shows_closed h⟩

theorem shows_init (slaves : List (SlavePdos Rx Tx)) :
    (init slaves).Shows (ProcessDataCycle.init slaves) where
  toShown := (MockMaster.shows_init slaves).toShown
  sent := nofun

end PySOEMMaster

/-! ## Runs -/

/-- The cycle after the events. -/
def ProcessDataCycle.after (slaves : List (SlavePdos Rx Tx)) (events : List (MasterEvent Rx)) :
    ProcessDataCycle Rx Tx :=
  (Prog.trace ProcessDataCycle.step events (ProcessDataCycle.init slaves)).2

/-- The mock master after the events. -/
def MockMaster.after (slaves : List (SlavePdos Rx Tx)) (events : List (MasterEvent Rx)) :
    MockMaster Rx Tx :=
  (Prog.trace MockMaster.step events (MockMaster.init slaves)).2

/-- The PySOEM master after the events. -/
def PySOEMMaster.after (slaves : List (SlavePdos Rx Tx)) (events : List (MasterEvent Rx)) :
    PySOEMMaster Rx Tx :=
  (Prog.trace PySOEMMaster.step events (PySOEMMaster.init slaves)).2

/-- The masters become operational between two cycles only. -/
def AllowedEvents (slaves : List (SlavePdos Rx Tx)) (events : List (MasterEvent Rx)) : Prop :=
  Runs.Allowed (fun cycle event => (ProcessDataCycle.step event cycle).2) ProcessDataCycle.Allowed
    (ProcessDataCycle.init slaves) events

/-- The mock master is in step with the cycle. -/
theorem MockMaster.lockstep :
    Prog.Lockstep (fun cycle (master : MockMaster Rx Tx) => master.Shows cycle)
      ProcessDataCycle.Allowed ProcessDataCycle.step MockMaster.step := by
  intro event cycle master hshows hallowed
  obtain ⟨hresult, hshows'⟩ := MockMaster.shows_step hshows hallowed
  exact ⟨hresult.symm, hshows'⟩

/-- The PySOEM master is in step with the cycle. -/
theorem PySOEMMaster.lockstep :
    Prog.Lockstep (fun cycle (master : PySOEMMaster Rx Tx) => master.Shows cycle)
      ProcessDataCycle.Allowed ProcessDataCycle.step PySOEMMaster.step := by
  intro event cycle master hshows hallowed
  obtain ⟨hresult, hshows'⟩ := PySOEMMaster.shows_step hshows hallowed
  exact ⟨hresult.symm, hshows'⟩

section Runs

variable {slaves : List (SlavePdos Rx Tx)} {events : List (MasterEvent Rx)}

theorem MockMaster.shows_after (h : AllowedEvents slaves events) :
    (MockMaster.after slaves events).Shows (ProcessDataCycle.after slaves events) :=
  (MockMaster.lockstep.trace (MockMaster.shows_init slaves) h).2

theorem PySOEMMaster.shows_after (h : AllowedEvents slaves events) :
    (PySOEMMaster.after slaves events).Shows (ProcessDataCycle.after slaves events) :=
  (PySOEMMaster.lockstep.trace (PySOEMMaster.shows_init slaves) h).2

end Runs

/-- The start of the operation, and the first cycle. -/
def firstCycle : List (MasterEvent ((String → OdValue ExtRat) ⊕ (ℕ → ChannelValues))) :=
  [.connect (.ok ()), .enterOperational fun attempt => attempt = 2, .prepare, .send,
    .receive (.ok fun _ => [0x27, 0x02])]

theorem allowed_firstCycle : AllowedEvents driveAndStationSlaves firstCycle :=
  ⟨trivial, ⟨rfl, rfl, rfl, ⟨_, rfl⟩, 2, by decide, rfl⟩, trivial, trivial, trivial, trivial⟩

/-- All inputs have arrived, or, where the result is an exception, none. -/
def WholeInputs (inputs : Except PyExc (ℕ → Payload)) (before after : List (SlavePdos Rx Tx)) :
    Except PyExc Unit → Prop
  | .ok () => ∃ input, inputs = .ok input ∧ after = allReceived input 0 before
  | .error _ => after = before

theorem ProcessDataCycle.wholeInputs (inputs : Except PyExc (ℕ → Payload))
    (cycle : ProcessDataCycle Rx Tx) :
    WholeInputs inputs cycle.slaves (ProcessDataCycle.receive inputs cycle).2.slaves
      (ProcessDataCycle.receive inputs cycle).1 := by
  unfold ProcessDataCycle.receive
  split_ifs
  · rfl
  · split
    · split
      · rfl
      · split_ifs
        · exact ⟨_, rfl, rfl⟩
        · rfl
    · rfl

/-- A cycle that prepares an image, and sends it after some writes to the PDO objects. -/
def sendingEvents (writes : List (ℕ × (Rx → Rx))) : List (MasterEvent Rx) :=
  .prepare :: (writes.map (fun w => .write w.1 w.2) ++ [.send])

/-- Writes to PDO objects leave a prepared image alone. -/
theorem ProcessDataCycle.carried_sendingEvents {cycle : ProcessDataCycle Rx Tx}
    (hprepare : (ProcessDataCycle.prepare cycle).1 = .ok ()) (writes : List (ℕ × (Rx → Rx))) :
    ∃ image, cycle.image = .ok image ∧
      (Prog.trace ProcessDataCycle.step (sendingEvents writes) cycle).2.carried = some image := by
  have hsend : ∀ (cycle : ProcessDataCycle Rx Tx) (image : OutputImage), cycle.connected = true →
      cycle.phase = .prepared image →
        (Prog.trace ProcessDataCycle.step (writes.map (fun w => .write w.1 w.2) ++ [.send])
          cycle).2.carried = some image := by
    induction writes with
    | nil =>
      intro cycle image hconnected hphase
      show (ProcessDataCycle.send cycle).2.carried = some image
      unfold ProcessDataCycle.send
      rw [if_neg (by simp [hconnected]), hphase]
    | cons w writes ih => exact fun cycle image hconnected hphase => ih _ image hconnected hphase
  unfold ProcessDataCycle.prepare at hprepare
  split_ifs at hprepare with hconnected
  cases hphase : cycle.phase with
  | prepared image =>
    rw [hphase] at hprepare
    cases hprepare
  | sent =>
    rw [hphase] at hprepare
    cases hprepare
  | idle =>
    rw [hphase] at hprepare
    cases himage : cycle.image with
    | error e =>
      rw [himage] at hprepare
      cases hprepare
    | ok image =>
      have hrun : ProcessDataCycle.prepare cycle =
          (.ok (), { cycle with phase := .prepared image }) := by
        unfold ProcessDataCycle.prepare
        rw [if_neg hconnected, hphase, himage]
      refine ⟨image, rfl, ?_⟩
      show (Prog.trace ProcessDataCycle.step _ (ProcessDataCycle.prepare cycle).2).2.carried = _
      rw [hrun]
      exact hsend _ image (by simpa using hconnected) rfl

theorem allowed_sendingEvents (writes : List (ℕ × (Rx → Rx))) (cycle : ProcessDataCycle Rx Tx) :
    Runs.Allowed (fun cycle event => (ProcessDataCycle.step event cycle).2)
      ProcessDataCycle.Allowed cycle (sendingEvents writes) := by
  have hwrites : ∀ cycle : ProcessDataCycle Rx Tx,
      Runs.Allowed (fun cycle event => (ProcessDataCycle.step event cycle).2)
        ProcessDataCycle.Allowed cycle (writes.map (fun w => .write w.1 w.2) ++ [.send]) := by
    induction writes with
    | nil => exact fun _ => ⟨trivial, trivial⟩
    | cons w writes ih => exact fun _ => ⟨trivial, ih _⟩
  exact ⟨trivial, hwrites _⟩

end MotionServer
