import MotionServer.Ethercat.Masters

/-!
# The process-data cycle

* `ProcessDataCycle`: what a master is for. An image is made of the PDO objects, the bus carries it,
  and the inputs of all slaves arrive, or none does;
* `Shown`: the slaves and the flags of a master show a cycle;
* `Shown.write`, `Shown.reset`, `Shown.prepare`, `Shown.send`, `Shown.receive`: what the masters do
  to their slaves keeps showing it.
-/

namespace MotionServer

variable {Rx Tx : Type}

/-! ## The cycle -/

/-- The outputs of all slaves. -/
abbrev OutputImage := List (Option Payload)

/-- Where a cycle stands. -/
inductive CyclePhase
  | idle
  | prepared (image : OutputImage)
  | sent

/-- A process-data cycle: `carried` is the image that the bus carried last since the master was
connected, or since it became operational. -/
structure ProcessDataCycle (Rx Tx : Type) where
  slaves : List (SlavePdos Rx Tx)
  connected : Bool
  operational : Bool
  phase : CyclePhase
  carried : Option OutputImage

namespace ProcessDataCycle

def init (slaves : List (SlavePdos Rx Tx)) : ProcessDataCycle Rx Tx :=
  ⟨slaves, false, false, .idle, none⟩

/-- The image of the PDO objects. -/
def image (cycle : ProcessDataCycle Rx Tx) : Except PyExc OutputImage :=
  cycle.slaves.mapM fun slave => slave.profile.encodeRxpdo slave.rxpdo

/-- A cycle that starts anew. -/
def restarted (cycle : ProcessDataCycle Rx Tx) (connected : Bool) : ProcessDataCycle Rx Tx :=
  ⟨cycle.slaves.map SlavePdos.forgotten, connected, false, .idle, none⟩

/-- `CommunicationException` for what the bus raises. -/
def receiveFailure (e : PyExc) : PyExc :=
  if e.isOSError then .motionServer (.communication "processdata_receive") else e

/-- The image is prepared. -/
def prepare : Prog PyExc (ProcessDataCycle Rx Tx) Unit := fun cycle =>
  if cycle.connected = false then (.error transportDisconnected, cycle)
  else match cycle.phase with
    | .idle => match cycle.image with
      | .error e => (.error e, cycle)
      | .ok image => (.ok (), { cycle with phase := .prepared image })
    | _ => (.error .runtimeError, cycle)

/-- The prepared image is sent. -/
def send : Prog PyExc (ProcessDataCycle Rx Tx) Unit := fun cycle =>
  if cycle.connected = false then (.error transportDisconnected, cycle)
  else match cycle.phase with
    | .prepared image => (.ok (), { cycle with phase := .sent, carried := some image })
    | _ => (.error .runtimeError, cycle)

/-- All inputs arrive, or none. -/
def receive (inputs : Except PyExc (ℕ → Payload)) : Prog PyExc (ProcessDataCycle Rx Tx) Unit :=
  fun cycle =>
    if cycle.connected = false then (.error transportDisconnected, cycle)
    else match cycle.phase with
      | .sent => match inputs with
        | .error e => (.error (receiveFailure e), cycle)
        | .ok input =>
          if AllAccept input 0 cycle.slaves then
            (.ok (), { cycle with slaves := allReceived input 0 cycle.slaves, phase := .idle })
          else (.error .valueError, cycle)
      | _ => (.error .runtimeError, cycle)

/-- One event. -/
def step : MasterEvent Rx → Prog PyExc (ProcessDataCycle Rx Tx) Unit
  | .write index fields =>
    Prog.modify fun cycle =>
      { cycle with
        slaves := cycle.slaves.modify index fun slave =>
          { slave with rxpdo := fields slave.rxpdo } }
  | .connect (.ok ()) => Prog.modify fun cycle => cycle.restarted true
  | .connect (.error e) => fun cycle => (.error e, cycle.restarted false)
  | .enterOperational _ =>
    Prog.modify fun cycle => { cycle with operational := true, carried := none }
  | .prepare => prepare
  | .send => send
  | .receive inputs => receive inputs
  | .close => Prog.modify fun cycle => cycle.restarted false

/-- A master becomes operational between two cycles, once, with outputs that can be encoded, and the
slaves get there in time. -/
def Allowed (cycle : ProcessDataCycle Rx Tx) : MasterEvent Rx → Prop
  | .enterOperational reached =>
    cycle.connected = true ∧ cycle.operational = false ∧ cycle.phase = .idle ∧
      (∃ image, cycle.image = .ok image) ∧ ∃ attempt < 100, reached attempt = true
  | _ => True

end ProcessDataCycle

/-! ## What a master shows -/

/-- The flags and the prepared outputs of a master in a phase. -/
def CyclePhase.Flags (sent prepared : Bool) (outputs : OutputImage) : CyclePhase → Prop
  | .idle => sent = false ∧ prepared = false
  | .prepared image => sent = false ∧ prepared = true ∧ outputs = image
  | .sent => sent = true ∧ prepared = false

/-- The slaves and the flags of a master show the cycle. -/
structure Shown (slaves : List (MasterPdoRuntime Rx Tx)) (connected sent prepared : Bool)
    (cycle : ProcessDataCycle Rx Tx) : Prop where
  pdos : slaves.map MasterPdoRuntime.toSlavePdos = cycle.slaves
  connected : connected = cycle.connected
  flags : cycle.phase.Flags sent prepared (slaves.map MasterPdoRuntime.preparedOutput)
  transmitted : ∀ image, cycle.carried = some image →
    slaves.map MasterPdoRuntime.transmittedOutput = image
  carries : cycle.phase = .sent → ∃ image, cycle.carried = some image
  untransmitted : cycle.carried = none → cycle.operational = false →
    ∀ slave ∈ slaves, slave.transmittedOutput = none

/-! ## Loops that commit -/

theorem map_commitEach {α β : Type} {commit : MasterPdoRuntime Rx Tx → α → MasterPdoRuntime Rx Tx}
    {f : MasterPdoRuntime Rx Tx → β} (h : ∀ slave payload, f (commit slave payload) = f slave)
    (slaves : List (MasterPdoRuntime Rx Tx)) (payloads : List α) :
    (commitEach commit slaves payloads).map f = slaves.map f := by
  induction slaves generalizing payloads with
  | nil => rfl
  | cons slave slaves ih =>
    cases payloads with
    | nil => rfl
    | cons payload payloads =>
      rw [commitEach, List.map_cons, List.map_cons, h, ih]

theorem toSlavePdos_commitPrepared (slaves : List (MasterPdoRuntime Rx Tx)) (image : OutputImage) :
    (commitEach MasterPdoRuntime.commitPreparedOutput slaves image).map
      MasterPdoRuntime.toSlavePdos = slaves.map MasterPdoRuntime.toSlavePdos := by
  apply map_commitEach
  intro _ _
  rfl

theorem transmittedOutput_commitPrepared (slaves : List (MasterPdoRuntime Rx Tx))
    (image : OutputImage) :
    (commitEach MasterPdoRuntime.commitPreparedOutput slaves image).map
      MasterPdoRuntime.transmittedOutput = slaves.map MasterPdoRuntime.transmittedOutput := by
  apply map_commitEach
  intro _ _
  rfl

theorem toSlavePdos_commitTransmitted (slaves : List (MasterPdoRuntime Rx Tx))
    (image : OutputImage) :
    (commitEach MasterPdoRuntime.commitTransmittedOutput slaves image).map
      MasterPdoRuntime.toSlavePdos = slaves.map MasterPdoRuntime.toSlavePdos := by
  apply map_commitEach
  intro _ _
  rfl

theorem map_commitEach_of_length {α : Type}
    {commit : MasterPdoRuntime Rx Tx → α → MasterPdoRuntime Rx Tx}
    {f : MasterPdoRuntime Rx Tx → α} (h : ∀ slave payload, f (commit slave payload) = payload)
    {slaves : List (MasterPdoRuntime Rx Tx)} {payloads : List α}
    (hlength : payloads.length = slaves.length) :
    (commitEach commit slaves payloads).map f = payloads := by
  induction slaves generalizing payloads with
  | nil => exact (List.eq_nil_of_length_eq_zero hlength).symm
  | cons slave slaves ih =>
    cases payloads with
    | nil => cases hlength
    | cons payload payloads =>
      rw [commitEach, List.map_cons, h, ih (Nat.succ.inj hlength)]

theorem encodeOutputCandidates_eq (slaves : List (MasterPdoRuntime Rx Tx)) :
    encodeOutputCandidates slaves =
      (slaves.map MasterPdoRuntime.toSlavePdos).mapM fun slave =>
        slave.profile.encodeRxpdo slave.rxpdo := by
  unfold encodeOutputCandidates
  rw [List.mapM_map]
  rfl

/-- Encoding fails with no error of the operating system. -/
theorem isOSError_of_encode {slaves : List (MasterPdoRuntime Rx Tx)} {e : PyExc}
    (h : encodeOutputCandidates slaves = .error e) : e.isOSError = false := by
  have hfails : (encodeOutputCandidates slaves).OnlyFails fun e => e.isOSError = false :=
    Except.OnlyFails.mapM (fun slave e he => slave.profile.encode_error _ e he) slaves
  exact hfails e h

theorem map_writeFields {β : Type} {f : MasterPdoRuntime Rx Tx → β}
    (h : ∀ (slave : MasterPdoRuntime Rx Tx) rxpdo, f { slave with rxpdo := rxpdo } = f slave)
    (index : ℕ) (fields : Rx → Rx) (slaves : List (MasterPdoRuntime Rx Tx)) :
    (writeFields index fields slaves).map f = slaves.map f := by
  unfold writeFields
  induction slaves generalizing index with
  | nil => simp
  | cons slave slaves ih =>
    cases index with
    | zero => simp [h]
    | succ index => simp [ih]

theorem toSlavePdos_writeFields (index : ℕ) (fields : Rx → Rx)
    (slaves : List (MasterPdoRuntime Rx Tx)) :
    (writeFields index fields slaves).map MasterPdoRuntime.toSlavePdos =
      (slaves.map MasterPdoRuntime.toSlavePdos).modify index fun slave =>
        { slave with rxpdo := fields slave.rxpdo } := by
  unfold writeFields
  induction slaves generalizing index with
  | nil => simp
  | cons slave slaves ih =>
    cases index with
    | zero => simp
    | succ index => simp [ih]

/-! ## The steps of the slaves -/

namespace Shown

variable {slaves : List (MasterPdoRuntime Rx Tx)} {connected sent prepared : Bool}
  {cycle : ProcessDataCycle Rx Tx}

theorem write (h : Shown slaves connected sent prepared cycle) (index : ℕ) (fields : Rx → Rx) :
    Shown (writeFields index fields slaves) connected sent prepared
      { cycle with
        slaves := cycle.slaves.modify index fun slave =>
          { slave with rxpdo := fields slave.rxpdo } } where
  pdos := by rw [toSlavePdos_writeFields, h.pdos]
  connected := h.connected
  flags := by
    rw [map_writeFields fun _ _ => rfl]
    exact h.flags
  transmitted := by
    intro image hcarried
    rw [map_writeFields fun _ _ => rfl]
    exact h.transmitted image hcarried
  carries := h.carries
  untransmitted := by
    intro hcarried hoperational slave hslave
    have hmem := List.mem_map_of_mem (f := MasterPdoRuntime.transmittedOutput) hslave
    rw [map_writeFields fun _ _ => rfl] at hmem
    obtain ⟨slave', hslave', hsame⟩ := List.mem_map.mp hmem
    rw [← hsame]
    exact h.untransmitted hcarried hoperational slave' hslave'

/-- Slaves that are reset show a cycle that starts anew. -/
theorem reset (h : Shown slaves connected sent prepared cycle) (connected' : Bool) :
    Shown (slaves.map MasterPdoRuntime.resetProcessdata) connected' false false
      (cycle.restarted connected') where
  pdos := by
    show _ = cycle.slaves.map SlavePdos.forgotten
    rw [← h.pdos, List.map_map, List.map_map]
    rfl
  connected := rfl
  flags := ⟨rfl, rfl⟩
  transmitted := fun _ himage => nomatch himage
  carries := fun hphase => nomatch hphase
  untransmitted := by
    intro _ _ slave hslave
    obtain ⟨slave', -, rfl⟩ := List.mem_map.mp hslave
    rfl

/-- The candidates are the image of the cycle. -/
theorem image_eq (h : Shown slaves connected sent prepared cycle) :
    cycle.image = encodeOutputCandidates slaves := by
  rw [encodeOutputCandidates_eq, h.pdos]
  rfl

theorem prepare (h : Shown slaves connected sent prepared cycle) {candidates : OutputImage}
    (hcandidates : encodeOutputCandidates slaves = .ok candidates) :
    Shown (commitEach MasterPdoRuntime.commitPreparedOutput slaves candidates) connected false true
      { cycle with phase := .prepared candidates } where
  pdos := (toSlavePdos_commitPrepared slaves candidates).trans h.pdos
  connected := h.connected
  flags := by
    refine ⟨rfl, rfl, ?_⟩
    exact map_commitEach_of_length (fun _ _ => rfl) (Except.length_of_mapM hcandidates)
  transmitted := by
    intro image hcarried
    rw [transmittedOutput_commitPrepared]
    exact h.transmitted image hcarried
  carries := fun hphase => nomatch hphase
  untransmitted := by
    intro hcarried hoperational slave hslave
    have hmem := List.mem_map_of_mem (f := MasterPdoRuntime.transmittedOutput) hslave
    rw [transmittedOutput_commitPrepared] at hmem
    obtain ⟨slave', hslave', hsame⟩ := List.mem_map.mp hmem
    rw [← hsame]
    exact h.untransmitted hcarried hoperational slave' hslave'

theorem send (h : Shown slaves connected sent prepared cycle) {image : OutputImage}
    (hprepared : slaves.map MasterPdoRuntime.preparedOutput = image) :
    Shown (commitEach MasterPdoRuntime.commitTransmittedOutput slaves image) connected true false
      { cycle with phase := .sent, carried := some image } where
  pdos := (toSlavePdos_commitTransmitted slaves image).trans h.pdos
  connected := h.connected
  flags := ⟨rfl, rfl⟩
  transmitted := by
    intro image' hcarried
    obtain rfl := Option.some.inj hcarried
    exact map_commitEach_of_length (fun _ _ => rfl) (by rw [← hprepared, List.length_map])
  carries := fun _ => ⟨image, rfl⟩
  untransmitted := fun hcarried => nomatch hcarried

theorem receive (h : Shown slaves connected sent prepared cycle) {input : ℕ → Payload}
    (hprepared : prepared = false) (hphase : cycle.phase = .sent)
    (haccept : AllAccept input 0 cycle.slaves) :
    Shown (decodeInputs slaves (inputPayloads input 0 slaves)).2 connected false prepared
      { cycle with slaves := allReceived input 0 cycle.slaves, phase := .idle } := by
  rw [← h.pdos] at haccept
  obtain ⟨-, hreceived, -, htransmitted⟩ := decodeInputs_of_allAccept haccept
  constructor
  · rw [hreceived, h.pdos]
  · exact h.connected
  · exact ⟨rfl, hprepared⟩
  · intro image hcarried
    rw [htransmitted]
    exact h.transmitted image hcarried
  · intro hidle
    cases hidle
  · intro hcarried
    obtain ⟨image, himage⟩ := h.carries hphase
    exact nomatch himage.symm.trans hcarried

end Shown

end MotionServer
