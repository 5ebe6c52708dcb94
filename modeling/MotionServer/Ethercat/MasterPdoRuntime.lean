import MotionServer.Device.CpxStation
import MotionServer.Lib.Prog
import MotionServer.Python.Exception

/-!
# The process data of a slave

* `PdoProfile`: the codec of a slave, sound by its fields; `PdoProfile.sum`, a bus of two kinds;
* `MasterPdoRuntime`: the PDO objects of a slave, and the payloads of a cycle;
* the loops of the masters: `encodeOutputCandidates`, `commitEach`, `validateInputPayloads`,
  `decodeInputs`, and **what becomes of the inputs of a cycle**: all arrive, or none.
-/

namespace MotionServer

/-- The bytes of a PDO. -/
abbrev Payload := List Byte

/-- `pdo_codec`, and `mapping_size` of the TxPDO. Encoding fails with no error of the operating
system, and decoding takes every payload that is long enough. -/
structure PdoProfile (Rx Tx : Type) where
  encodeRxpdo : Rx → Except PyExc (Option Payload)
  decodeTxpdo : Payload → Prog PyExc Tx Unit
  mappingSize : Tx → Option ℕ
  encode_error : ∀ rxpdo e, encodeRxpdo rxpdo = .error e → e.isOSError = false
  decode_ok : ∀ payload txpdo, (∀ size ∈ mappingSize txpdo, size ≤ payload.length) →
    (decodeTxpdo payload txpdo).1 = .ok ()

/-- Slaves of two kinds on one bus. -/
def PdoProfile.sum {Rx Tx Rx' Tx' : Type} (p : PdoProfile Rx Tx) (p' : PdoProfile Rx' Tx') :
    PdoProfile (Rx ⊕ Rx') (Tx ⊕ Tx') where
  encodeRxpdo
    | .inl rxpdo => p.encodeRxpdo rxpdo
    | .inr rxpdo => p'.encodeRxpdo rxpdo
  decodeTxpdo payload
    | .inl txpdo => ((p.decodeTxpdo payload txpdo).1, .inl (p.decodeTxpdo payload txpdo).2)
    | .inr txpdo => ((p'.decodeTxpdo payload txpdo).1, .inr (p'.decodeTxpdo payload txpdo).2)
  mappingSize
    | .inl txpdo => p.mappingSize txpdo
    | .inr txpdo => p'.mappingSize txpdo
  encode_error rxpdo e h := by
    cases rxpdo with
    | inl rxpdo => exact p.encode_error rxpdo e h
    | inr rxpdo => exact p'.encode_error rxpdo e h
  decode_ok payload txpdo h := by
    cases txpdo with
    | inl txpdo => exact p.decode_ok payload txpdo h
    | inr txpdo => exact p'.decode_ok payload txpdo h

/-- The PDO objects of a slave and the input that was received last. -/
structure SlavePdos (Rx Tx : Type) where
  profile : PdoProfile Rx Tx
  rxpdo : Rx
  txpdo : Tx
  receivedInput : Option Payload

/-- `MasterPdoRuntime`. -/
structure MasterPdoRuntime (Rx Tx : Type) extends SlavePdos Rx Tx where
  preparedOutput : Option Payload
  transmittedOutput : Option Payload

variable {Rx Tx : Type}

namespace MasterPdoRuntime

variable (slave : MasterPdoRuntime Rx Tx)

/-- `encode_output_candidate`. -/
def encodeOutputCandidate : Except PyExc (Option Payload) :=
  slave.profile.encodeRxpdo slave.rxpdo

/-- `commit_prepared_output`. -/
def commitPreparedOutput (payload : Option Payload) : MasterPdoRuntime Rx Tx :=
  { slave with preparedOutput := payload }

/-- `transmitted_output_candidate`. -/
def transmittedOutputCandidate : Option Payload := slave.preparedOutput

/-- `commit_transmitted_output`. -/
def commitTransmittedOutput (payload : Option Payload) : MasterPdoRuntime Rx Tx :=
  { slave with transmittedOutput := payload, preparedOutput := none }

/-- `validate_input_payload`. -/
def validateInputPayload (payload : Payload) : Except PyExc Payload :=
  match slave.profile.mappingSize slave.txpdo with
  | none => .ok payload
  | some expectedSize =>
    if payload.length < expectedSize then .error .valueError else .ok payload

/-- `decode_input`. -/
def decodeInput (payload : Payload) : Except PyExc Unit × MasterPdoRuntime Rx Tx :=
  match slave.profile.decodeTxpdo payload slave.txpdo with
  | (.error e, txpdo) => (.error e, { slave with txpdo := txpdo })
  | (.ok (), txpdo) => (.ok (), { slave with txpdo := txpdo, receivedInput := some payload })

/-- `reset_processdata`. -/
def resetProcessdata : MasterPdoRuntime Rx Tx :=
  { slave with preparedOutput := none, transmittedOutput := none, receivedInput := none }

end MasterPdoRuntime

/-! ## The loops of the masters -/

/-- `_encode_output_candidates`. -/
def encodeOutputCandidates (slaves : List (MasterPdoRuntime Rx Tx)) :
    Except PyExc (List (Option Payload)) :=
  slaves.mapM MasterPdoRuntime.encodeOutputCandidate

/-- A loop over the slaves and their payloads that commits each of them. -/
def commitEach {α : Type} (commit : MasterPdoRuntime Rx Tx → α → MasterPdoRuntime Rx Tx) :
    List (MasterPdoRuntime Rx Tx) → List α → List (MasterPdoRuntime Rx Tx)
  | slave :: slaves, payload :: payloads => commit slave payload :: commitEach commit slaves payloads
  | slaves, _ => slaves

/-- `_validate_input_payloads`, from the slave of the position `index`. -/
def validateInputPayloads (input : ℕ → Payload) :
    (index : ℕ) → List (MasterPdoRuntime Rx Tx) → Except PyExc (List Payload)
  | _, [] => .ok []
  | index, slave :: slaves => do
    let payload ← slave.validateInputPayload (input index)
    let payloads ← validateInputPayloads input (index + 1) slaves
    pure (payload :: payloads)

/-- `_decode_inputs`. -/
def decodeInputs : List (MasterPdoRuntime Rx Tx) → List Payload →
    Except PyExc Unit × List (MasterPdoRuntime Rx Tx)
  | slave :: slaves, payload :: payloads =>
    match slave.decodeInput payload with
    | (.error e, slave) => (.error e, slave :: slaves)
    | (.ok (), slave) =>
      ((decodeInputs slaves payloads).1, slave :: (decodeInputs slaves payloads).2)
  | slaves, _ => (.ok (), slaves)

/-! ## The inputs of a cycle -/

namespace SlavePdos

variable (slave : SlavePdos Rx Tx)

/-- The payload is long enough. -/
def Accepts (payload : Payload) : Prop :=
  ∀ size ∈ slave.profile.mappingSize slave.txpdo, size ≤ payload.length

instance decidableAccepts (payload : Payload) : Decidable (slave.Accepts payload) :=
  inferInstanceAs (Decidable (∀ size ∈ slave.profile.mappingSize slave.txpdo, _))

/-- The slave after the payload. -/
def received (payload : Payload) : SlavePdos Rx Tx :=
  { slave with
    txpdo := (slave.profile.decodeTxpdo payload slave.txpdo).2
    receivedInput := some payload }

/-- The slave without inputs. -/
def forgotten : SlavePdos Rx Tx := { slave with receivedInput := none }

end SlavePdos

theorem MasterPdoRuntime.validateInputPayload_eq (slave : MasterPdoRuntime Rx Tx)
    (payload : Payload) : slave.validateInputPayload payload =
      if slave.Accepts payload then .ok payload else .error .valueError := by
  unfold validateInputPayload
  by_cases h : slave.Accepts payload
  · rw [if_pos h]
    cases hsize : slave.profile.mappingSize slave.txpdo with
    | none => rfl
    | some size => exact if_neg (Nat.not_lt.mpr (h size hsize))
  · rw [if_neg h]
    cases hsize : slave.profile.mappingSize slave.txpdo with
    | none =>
      refine absurd ?_ h
      intro size hmem
      simp [hsize] at hmem
    | some size =>
      refine if_pos (Nat.lt_of_not_le fun hle => h ?_)
      intro size' hmem
      obtain rfl := Option.some.inj (hsize.symm.trans hmem)
      exact hle

/-- A payload that is long enough is decoded. -/
theorem MasterPdoRuntime.decodeInput_of_accepts {slave : MasterPdoRuntime Rx Tx} {payload : Payload}
    (h : slave.Accepts payload) : slave.decodeInput payload =
      (.ok (), { slave with toSlavePdos := slave.toSlavePdos.received payload }) := by
  have hok := slave.profile.decode_ok payload slave.txpdo h
  unfold decodeInput SlavePdos.received
  cases hrun : slave.profile.decodeTxpdo payload slave.txpdo with
  | mk result txpdo =>
    rw [hrun] at hok
    obtain rfl := hok
    rfl

/-- Each slave accepts its input. -/
def AllAccept (input : ℕ → Payload) : (index : ℕ) → List (SlavePdos Rx Tx) → Prop
  | _, [] => True
  | index, slave :: slaves => slave.Accepts (input index) ∧ AllAccept input (index + 1) slaves

instance decidableAllAccept (input : ℕ → Payload) :
    ∀ (index : ℕ) (slaves : List (SlavePdos Rx Tx)), Decidable (AllAccept input index slaves)
  | _, [] => inferInstanceAs (Decidable True)
  | index, slave :: slaves =>
    have := decidableAllAccept input (index + 1) slaves
    inferInstanceAs (Decidable (slave.Accepts (input index) ∧ AllAccept input (index + 1) slaves))

/-- The payloads of the slaves from the position `index`. -/
def inputPayloads (input : ℕ → Payload) : (index : ℕ) → List (MasterPdoRuntime Rx Tx) → List Payload
  | _, [] => []
  | index, _ :: slaves => input index :: inputPayloads input (index + 1) slaves

/-- The slaves after their inputs. -/
def allReceived (input : ℕ → Payload) :
    (index : ℕ) → List (SlavePdos Rx Tx) → List (SlavePdos Rx Tx)
  | _, [] => []
  | index, slave :: slaves =>
    slave.received (input index) :: allReceived input (index + 1) slaves

/-- The payloads are validated exactly when each slave accepts its own. -/
theorem validateInputPayloads_eq (input : ℕ → Payload) (index : ℕ)
    (slaves : List (MasterPdoRuntime Rx Tx)) : validateInputPayloads input index slaves =
      if AllAccept input index (slaves.map MasterPdoRuntime.toSlavePdos) then
        .ok (inputPayloads input index slaves) else .error .valueError := by
  induction slaves generalizing index with
  | nil => rfl
  | cons slave slaves ih =>
    have hsplit : AllAccept input index ((slave :: slaves).map MasterPdoRuntime.toSlavePdos) ↔
        slave.Accepts (input index) ∧
          AllAccept input (index + 1) (slaves.map MasterPdoRuntime.toSlavePdos) := Iff.rfl
    rw [validateInputPayloads, slave.validateInputPayload_eq, ih]
    simp only [hsplit]
    by_cases hhead : slave.Accepts (input index)
    · by_cases hrest : AllAccept input (index + 1) (slaves.map MasterPdoRuntime.toSlavePdos)
      · simp only [hhead, hrest, and_self, if_true]
        rfl
      · simp only [hhead, hrest, and_false, if_true, if_false]
        rfl
    · simp only [hhead, false_and, if_false]
      rfl

/-- **Inputs that are accepted arrive in every slave.** -/
theorem decodeInputs_of_allAccept {input : ℕ → Payload} {index : ℕ}
    {slaves : List (MasterPdoRuntime Rx Tx)}
    (h : AllAccept input index (slaves.map MasterPdoRuntime.toSlavePdos)) :
    (decodeInputs slaves (inputPayloads input index slaves)).1 = .ok () ∧
      (decodeInputs slaves (inputPayloads input index slaves)).2.map
          MasterPdoRuntime.toSlavePdos =
        allReceived input index (slaves.map MasterPdoRuntime.toSlavePdos) ∧
      (decodeInputs slaves (inputPayloads input index slaves)).2.map
          MasterPdoRuntime.preparedOutput = slaves.map MasterPdoRuntime.preparedOutput ∧
      (decodeInputs slaves (inputPayloads input index slaves)).2.map
          MasterPdoRuntime.transmittedOutput = slaves.map MasterPdoRuntime.transmittedOutput := by
  induction slaves generalizing index with
  | nil => exact ⟨rfl, rfl, rfl, rfl⟩
  | cons slave slaves ih =>
    rw [List.map_cons] at h
    obtain ⟨hok, hreceived, hprepared, htransmitted⟩ := ih h.2
    rw [inputPayloads, decodeInputs, MasterPdoRuntime.decodeInput_of_accepts h.1]
    refine ⟨hok, ?_, ?_, ?_⟩
    · rw [List.map_cons, hreceived, List.map_cons, allReceived]
    · rw [List.map_cons, hprepared, List.map_cons]
    · rw [List.map_cons, htransmitted, List.map_cons]

end MotionServer
