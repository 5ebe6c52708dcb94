import MotionServer.Ethercat.MasterPdoRuntime

/-!
# The two masters

The mock master exchanges process data with virtual slaves, the PySOEM master with a bus. Each event
carries what comes from outside: the result of the preparation of the slaves, and the inputs.

* `MasterEvent`: the operations of a master, and the writes to the PDO objects between them;
* `MockMaster`: `connect`, `enterOperational`, `prepareProcessdata`, `sendProcessdata`,
  `receiveProcessdata`, `close`;
* `PySOEMMaster`: the same operations over the slaves of the library, whose calls succeed.
-/

namespace MotionServer

variable {Rx Tx : Type}

/-- The operations of a master. The inputs are the payloads of the slaves by their positions, or
what the bus raises. `reached` tells the checks that find the slaves operational. -/
inductive MasterEvent (Rx : Type)
  | write (slave : ℕ) (fields : Rx → Rx)
  | connect (prepared : Except PyExc Unit)
  | enterOperational (reached : ℕ → Bool)
  | prepare
  | send
  | receive (inputs : Except PyExc (ℕ → Payload))
  | close

/-- `CommunicationException("bus_transport_disconnected")`. -/
def transportDisconnected : PyExc := .motionServer (.communication "bus_transport_disconnected")

/-- The application writes the PDO object of a slave. -/
def writeFields (index : ℕ) (fields : Rx → Rx) (slaves : List (MasterPdoRuntime Rx Tx)) :
    List (MasterPdoRuntime Rx Tx) :=
  slaves.modify index fun slave => { slave with rxpdo := fields slave.rxpdo }

/-! ## The mock master -/

/-- `_state`. -/
inductive MockMasterState
  | closed
  | preop
  | op
  deriving DecidableEq

/-- `MockMaster`. `exchanged` are the outputs that its endpoints got, the latest first. -/
structure MockMaster (Rx Tx : Type) where
  slaves : List (MasterPdoRuntime Rx Tx)
  outputsSent : Bool
  processdataPrepared : Bool
  connected : Bool
  state : MockMasterState
  exchanged : List (List (Option Payload))

namespace MockMaster

/-- A new master. -/
def init (slaves : List (SlavePdos Rx Tx)) : MockMaster Rx Tx where
  slaves := slaves.map fun slave => { slave with preparedOutput := none, transmittedOutput := none }
  outputsSent := false
  processdataPrepared := false
  connected := false
  state := .closed
  exchanged := []

/-- `_require_connected`. -/
def requireConnected : Prog PyExc (MockMaster Rx Tx) Unit := do
  let master ← Prog.get
  Prog.raiseIf (master.connected = false) transportDisconnected

/-- `_require_processdata_phase("idle", ..)`. -/
def requireIdle : Prog PyExc (MockMaster Rx Tx) Unit := do
  let master ← Prog.get
  Prog.raiseIf (master.outputsSent = true ∨ master.processdataPrepared = true) .runtimeError

/-- `_reset_processdata_state`. -/
def resetProcessdataState (master : MockMaster Rx Tx) : MockMaster Rx Tx :=
  { master with
    outputsSent := false
    processdataPrepared := false
    slaves := master.slaves.map MasterPdoRuntime.resetProcessdata }

/-- `close`. -/
def close : Prog PyExc (MockMaster Rx Tx) Unit :=
  Prog.modify fun master =>
    resetProcessdataState { master with connected := false, state := .closed }

/-- `connect` to PRE-OP. -/
def connect (prepared : Except PyExc Unit) : Prog PyExc (MockMaster Rx Tx) Unit := do
  Prog.modify fun master =>
    { master.resetProcessdataState with connected := true, state := .preop }
  tryCatch (Prog.lift prepared) fun e => do
    close
    throw e

/-- `enter_operational`. -/
def enterOperational : Prog PyExc (MockMaster Rx Tx) Unit := do
  let master ← Prog.get
  Prog.raiseIf (master.state ≠ .preop) .runtimeError
  Prog.modify fun master => { master with connected := true, state := .op }

/-- `prepare_processdata`. -/
def prepareProcessdata : Prog PyExc (MockMaster Rx Tx) Unit := do
  requireConnected
  requireIdle
  let master ← Prog.get
  let candidates ← Prog.lift (encodeOutputCandidates master.slaves)
  Prog.modify fun master =>
    { master with
      slaves := commitEach MasterPdoRuntime.commitPreparedOutput master.slaves candidates
      processdataPrepared := true }

/-- `send_processdata`. -/
def sendProcessdata : Prog PyExc (MockMaster Rx Tx) Unit := do
  requireConnected
  let master ← Prog.get
  Prog.raiseIf (master.outputsSent = true) .runtimeError
  Prog.raiseIf (master.processdataPrepared = false) .runtimeError
  let snapshots := master.slaves.map MasterPdoRuntime.transmittedOutputCandidate
  Prog.modify fun master =>
    { master with
      slaves := commitEach MasterPdoRuntime.commitTransmittedOutput master.slaves snapshots
      outputsSent := true
      processdataPrepared := false }

/-- `receive_processdata`. -/
def receiveProcessdata (inputs : Except PyExc (ℕ → Payload)) :
    Prog PyExc (MockMaster Rx Tx) Unit := do
  requireConnected
  let master ← Prog.get
  Prog.raiseIf (master.outputsSent = false) .runtimeError
  Prog.modify fun master =>
    { master with
      exchanged := master.slaves.map MasterPdoRuntime.transmittedOutput :: master.exchanged }
  let input ← tryCatch (Prog.lift inputs) fun e =>
    throw (if e.isOSError then .motionServer (.communication "processdata_receive") else e)
  let payloads ← Prog.lift (validateInputPayloads input 0 master.slaves)
  Prog.modify fun master => { master with slaves := (decodeInputs master.slaves payloads).2 }
  Prog.lift (decodeInputs master.slaves payloads).1
  Prog.modify fun master => { master with outputsSent := false }

/-- One operation. -/
def step : MasterEvent Rx → Prog PyExc (MockMaster Rx Tx) Unit
  | .write slave fields =>
    Prog.modify fun master => { master with slaves := writeFields slave fields master.slaves }
  | .connect prepared => connect prepared
  | .enterOperational _ => enterOperational
  | .prepare => prepareProcessdata
  | .send => sendProcessdata
  | .receive inputs => receiveProcessdata inputs
  | .close => close

end MockMaster

/-! ## The PySOEM master -/

/-- `PySOEMMaster`. `outputs` are those of the slaves of the library, once it is opened, and `sent`
what was sent of them, the latest first. -/
structure PySOEMMaster (Rx Tx : Type) where
  slaves : List (MasterPdoRuntime Rx Tx)
  processdataPrepared : Bool
  processdataSent : Bool
  outputs : Option (ℕ → Payload)
  sent : List (ℕ → Payload)

namespace PySOEMMaster

/-- A new master. -/
def init (slaves : List (SlavePdos Rx Tx)) : PySOEMMaster Rx Tx where
  slaves := slaves.map fun slave => { slave with preparedOutput := none, transmittedOutput := none }
  processdataPrepared := false
  processdataSent := false
  outputs := none
  sent := []

/-- `_require_connected`. -/
def requireConnected : Prog PyExc (PySOEMMaster Rx Tx) Unit := do
  let master ← Prog.get
  Prog.raiseIf (master.outputs.isNone = true) transportDisconnected

/-- `_require_processdata_phase("idle", ..)`. -/
def requireIdle : Prog PyExc (PySOEMMaster Rx Tx) Unit := do
  let master ← Prog.get
  Prog.raiseIf (master.processdataSent = true ∨ master.processdataPrepared = true) .runtimeError

/-- `_reset_processdata_state`. -/
def resetProcessdataState (master : PySOEMMaster Rx Tx) : PySOEMMaster Rx Tx :=
  { master with
    processdataPrepared := false
    processdataSent := false
    slaves := master.slaves.map MasterPdoRuntime.resetProcessdata }

/-- `close`. -/
def close : Prog PyExc (PySOEMMaster Rx Tx) Unit :=
  Prog.modify fun master => resetProcessdataState { master with outputs := none }

/-- `connect` to PRE-OP. The slaves of a library that was just opened have no outputs. -/
def connect (prepared : Except PyExc Unit) : Prog PyExc (PySOEMMaster Rx Tx) Unit := do
  Prog.modify fun master => { master.resetProcessdataState with outputs := some fun _ => [] }
  tryCatch (Prog.lift prepared) fun e => do
    close
    throw e

/-- `_raise_processdata_exception`. -/
def processdataException (operation : String) (e : PyExc) : PyExc :=
  if e.isMotionServer then e
  else if e.isOSError then .motionServer (.communication operation)
  else e

/-- `_assign_output_snapshots`, from the slave of the position `index`. -/
def assignOutputSnapshots : (index : ℕ) → List (Option Payload) → (ℕ → Payload) → ℕ → Payload
  | _, [], outputs => outputs
  | index, none :: snapshots, outputs => assignOutputSnapshots (index + 1) snapshots outputs
  | index, some payload :: snapshots, outputs =>
    assignOutputSnapshots (index + 1) snapshots (Function.update outputs index payload)

/-- The snapshots are assigned. -/
def assign (snapshots : List (Option Payload)) : Prog PyExc (PySOEMMaster Rx Tx) Unit :=
  Prog.modify fun master =>
    { master with outputs := master.outputs.map (assignOutputSnapshots 0 snapshots) }

/-- `self._master.send_processdata()`. -/
def busSend : Prog PyExc (PySOEMMaster Rx Tx) Unit :=
  Prog.modify fun master => { master with sent := master.outputs.toList ++ master.sent }

/-- The snapshots are committed as transmitted. -/
def commitTransmitted (snapshots : List (Option Payload)) :
    Prog PyExc (PySOEMMaster Rx Tx) Unit :=
  Prog.modify fun master =>
    { master with
      slaves := commitEach MasterPdoRuntime.commitTransmittedOutput master.slaves snapshots }

/-- `_prime_outputs`. -/
def primeOutputs : Prog PyExc (PySOEMMaster Rx Tx) Unit := do
  let master ← Prog.get
  let snapshots ← Prog.lift (encodeOutputCandidates master.slaves)
  assign snapshots
  Prog.repeatN busSend 10
  commitTransmitted snapshots

/-- The loop of `_request_operational` from an attempt on. -/
def requestOperationalFrom (reached : ℕ → Bool) :
    (remaining attempt : ℕ) → Prog PyExc (PySOEMMaster Rx Tx) Unit
  | 0, _ => throw .runtimeError
  | remaining + 1, attempt => do
    let master ← Prog.get
    let snapshots ← Prog.lift (encodeOutputCandidates master.slaves)
    assign snapshots
    busSend
    commitTransmitted snapshots
    if reached attempt then pure () else requestOperationalFrom reached remaining (attempt + 1)

/-- `_request_operational`. -/
def requestOperational (reached : ℕ → Bool) : Prog PyExc (PySOEMMaster Rx Tx) Unit :=
  requestOperationalFrom reached 100 0

/-- `enter_operational`. -/
def enterOperational (reached : ℕ → Bool) : Prog PyExc (PySOEMMaster Rx Tx) Unit := do
  requireConnected
  primeOutputs
  requestOperational reached

/-- `prepare_processdata`. -/
def prepareProcessdata : Prog PyExc (PySOEMMaster Rx Tx) Unit := do
  requireConnected
  requireIdle
  let master ← Prog.get
  let candidates ← tryCatch (Prog.lift (encodeOutputCandidates master.slaves)) fun e =>
    throw (processdataException "processdata_prepare" e)
  Prog.modify fun master =>
    { master with
      slaves := commitEach MasterPdoRuntime.commitPreparedOutput master.slaves candidates
      processdataPrepared := true }

/-- `send_processdata`. -/
def sendProcessdata : Prog PyExc (PySOEMMaster Rx Tx) Unit := do
  requireConnected
  let master ← Prog.get
  Prog.raiseIf (master.processdataSent = true) .runtimeError
  Prog.raiseIf (master.processdataPrepared = false) .runtimeError
  let snapshots := master.slaves.map MasterPdoRuntime.transmittedOutputCandidate
  assign snapshots
  busSend
  commitTransmitted snapshots
  Prog.modify fun master => { master with processdataPrepared := false, processdataSent := true }

/-- `receive_processdata`. -/
def receiveProcessdata (inputs : Except PyExc (ℕ → Payload)) :
    Prog PyExc (PySOEMMaster Rx Tx) Unit := do
  requireConnected
  let master ← Prog.get
  Prog.raiseIf (master.processdataSent = false) .runtimeError
  let input ← tryCatch (Prog.lift inputs) fun e =>
    throw (processdataException "processdata_receive" e)
  let payloads ← tryCatch (Prog.lift (validateInputPayloads input 0 master.slaves)) fun e =>
    throw (processdataException "processdata_receive" e)
  Prog.modify fun master => { master with slaves := (decodeInputs master.slaves payloads).2 }
  Prog.lift (decodeInputs master.slaves payloads).1
  Prog.modify fun master => { master with processdataSent := false }

/-- One operation. -/
def step : MasterEvent Rx → Prog PyExc (PySOEMMaster Rx Tx) Unit
  | .write slave fields =>
    Prog.modify fun master => { master with slaves := writeFields slave fields master.slaves }
  | .connect prepared => connect prepared
  | .enterOperational reached => enterOperational reached
  | .prepare => prepareProcessdata
  | .send => sendProcessdata
  | .receive inputs => receiveProcessdata inputs
  | .close => close

end PySOEMMaster

end MotionServer
