import MotionServer.Device.GatewayStation
import MotionServer.Handlers.PayloadRoundTrip
import MotionServer.Lib.Lockstep

/-!
# Parameters of the modules and of the IO-Link devices

The server reads and writes them through the access objects of a station: it writes the address, then
the direction, waits for the status and takes the data.

* `AccessTransport`, `GatewayClient`: what the accesses of both gateways share;
* `readApParameter`, `writeApParameter`, `readIolParameter`, `writeIolParameter`: the commands;
* `GatewayBus`, `mockMachine`: the stations of a bus, behind the mock master;
* `DirectStation`, `directMachine`: the same commands, where the gateways are called.
-/

namespace MotionServer

variable {F G D : Type}

/-! ## Transfers -/

/-- The raw accesses of a master to a slave, in a state `D`. -/
structure AccessTransport (D : Type) where
  writeSdo (index subindex : ℕ) (payload : List Byte) : Prog AccessFailure D Unit
  readSdo (index subindex size : ℕ) : Prog AccessFailure D (List Byte)

namespace AccessTransport

variable (sdo : AccessTransport D) (width index subindex : ℕ)

/-- `write_uint8`, `write_uint16` and `write_uint32`. -/
def writeUint (value : ℤ) : Prog AccessFailure D Unit := do
  Prog.raiseIf (¬ Bytes.Fits false width value) (.python .structError)
  sdo.writeSdo index subindex (Bytes.ofIntLE width value)

/-- `read_uint8` and `read_uint16`. -/
def readUint : Prog AccessFailure D ℤ := do
  let payload ← sdo.readSdo index subindex width
  Prog.raiseIf (payload.length < width)
    (.python (.motionServer (.deviceAccess "sdo_read_short_payload")))
  pure (Bytes.toInt false (payload.take width))

end AccessTransport

/-- What differs between the accesses of `ap.py` and `iol.py`: the codec with its limit, the name of
the operation, and the bytes of the fields that are written. -/
structure GatewayClient where
  gateway : PayloadGateway
  operation : String
  first : ℕ
  second : ℕ
  third : ℕ
  length : ℕ

def apClient : GatewayClient := ⟨apGateway, "ap_parameter_access", 2, 4, 2, 2⟩

def isduClient : GatewayClient := ⟨isduGateway, "iolink_isdu_access", 1, 2, 1, 1⟩

/-- An access object, and the address of a parameter behind it. -/
structure AccessTarget where
  index : ℕ
  first : ℤ
  second : ℤ
  third : ℤ

/-- What a read brings. -/
structure AccessReading where
  status : ℤ
  length : ℤ
  data : List Byte

/-- `write_ap_access_header` and `write_isdu_header`. -/
def writeAccessHeader (client : GatewayClient) (sdo : AccessTransport D) (target : AccessTarget)
    (length direction : Option ℤ) : Prog AccessFailure D Unit := do
  sdo.writeUint client.first target.index 2 target.first
  sdo.writeUint client.second target.index 3 target.second
  sdo.writeUint client.third target.index 4 target.third
  length.elim (pure ()) fun length => sdo.writeUint client.length target.index 6 length
  direction.elim (pure ()) fun direction => sdo.writeUint 1 target.index 1 direction

/-- `poll_ap_status` and `poll_isdu_status`. The deadline is over after `polls` readings more. -/
def pollStatus (sdo : AccessTransport D) (index : ℕ) : (polls : ℕ) → Prog AccessFailure D ℤ
  | 0 => sdo.readUint 2 index 5
  | polls + 1 => do
    let status ← sdo.readUint 2 index 5
    if status ≠ 0xFFFF then pure status else pollStatus sdo index polls

/-- `require_ap_success` and `require_isdu_success`. -/
def requireSuccess (operation : String) (status : ℤ) : Except AccessFailure Unit :=
  if status = 0 then .ok ()
  else if status = 0xFFFF then .error (.timedOut operation)
  else .error (.rejected operation (some status))

/-- The transfers of `_read_ap_parameter` and `_read_iol_parameter`. -/
def readAccess (client : GatewayClient) (sdo : AccessTransport D) (polls : ℕ)
    (target : AccessTarget) (length : ℤ) : Prog AccessFailure D AccessReading := do
  writeAccessHeader client sdo target none (some 0)
  let status ← pollStatus sdo target.index polls
  Prog.lift (requireSuccess client.operation status)
  let dataLength ← sdo.readUint client.length target.index 6
  let payload ← sdo.readSdo target.index 7 client.gateway.maxDataBytes
  pure ⟨status, dataLength,
    payload.take (min (min length (max 0 dataLength)) client.gateway.maxDataBytes).toNat⟩

/-- The transfers of `_write_ap_parameter` and `_write_iol_parameter`. -/
def writeAccess (client : GatewayClient) (sdo : AccessTransport D) (polls : ℕ)
    (target : AccessTarget) (payload : List Byte) : Prog AccessFailure D ℤ := do
  writeAccessHeader client sdo target (some payload.length) none
  sdo.writeSdo target.index 7
    (payload ++ List.replicate (client.gateway.maxDataBytes - payload.length) 0)
  sdo.writeUint 1 target.index 1 1
  let status ← pollStatus sdo target.index polls
  Prog.lift (requireSuccess client.operation status)
  pure status

/-! ## The commands -/

variable [PyFloat F]

/-- The stations of a bus. -/
structure GatewayBus (F G : Type) [PyFloat F] where
  slaves : List BusSlave
  station : ℕ → StationConfig F G

/-- What the commands and the cycle do to the slaves of a bus. -/
structure GatewayMachine (D : Type) where
  read (polls : ℕ) (client : GatewayClient) (slaveIndex : ℕ) (target : AccessTarget) (length : ℤ) :
    Prog AccessFailure D AccessReading
  write (polls : ℕ) (client : GatewayClient) (slaveIndex : ℕ) (target : AccessTarget)
    (payload : List Byte) : Prog AccessFailure D ℤ
  exchange (slaveIndex : ℕ) (payload : List Byte) : Prog AccessFailure D (List Byte)
  setInputs (slaveIndex : ℕ) (inputs : ℕ → ChannelValues) : Prog AccessFailure D Unit

/-- `ap_parameter_data` and `isdu_data`. -/
structure GatewayReply (R F : Type) where
  request : R
  objectIndex : ℕ
  status : ℤ
  length : ℤ
  data : List Byte
  value : Option (Value F)

/-- `selected_device(slave_index=…)`. -/
def selectedDeviceAt (slaves : List BusSlave) (slaveIndex : ℕ) : Except PyExc IoDevice :=
  match (ioDevices slaves).find? fun d => d.slaveIndex == slaveIndex with
  | some d => .ok d
  | none => .error .valueError

/-- `validate_ap_target`. -/
def validateApTarget (bus : GatewayBus F G) (repr : Value F → String) (request : ApRequest F) :
    Except PyExc ℕ := do
  let slaveIndex ← validateIoSelector repr bus.slaves request.io
  match selectedDeviceAt bus.slaves slaveIndex with
  | .error e =>
    if e.isTypeOrValueError then
      .error (.motionServer (.resourceMissing "io" (request.io.pyStr repr)))
    else .error e
  | .ok device =>
    if request.module.val = 0 ∨
        ∃ m ∈ (bus.station device.slaveIndex).modules, m.slot = request.module.val then
      .ok slaveIndex
    else
      .error (.motionServer (.resourceMissing "ap_module"
        (request.io.pyStr repr ++ ":" ++ toString request.module.val)))

omit [PyFloat F] in
/-- The address of an AP parameter. -/
def ApRequest.target (request : ApRequest F) : AccessTarget :=
  ⟨0x27F0, request.apAccessModule, request.parameterId.val, request.inst.val⟩

omit [PyFloat F] in
/-- The address of an IO-Link parameter. -/
def IsduRequest.target (request : IsduRequest F) (objectIndex : ℕ) : AccessTarget :=
  ⟨objectIndex, request.port.val, request.index.val, request.subindex.val⟩

section Commands

variable (machine : GatewayMachine D) (bus : GatewayBus F G) (codec : Float32Codec F)
  (repr : Value F → String) (polls : ℕ) (message : Message F)

/-- `read_ap_parameter`. -/
def readApParameter : Prog AccessFailure D (GatewayReply (ApRequest F) F) := do
  let request ← Prog.lift (inAccess (parseApParameterRequest repr message false))
  let slaveIndex ← Prog.lift (inAccess (validateApTarget bus repr request))
  let reading ← machine.read polls apClient slaveIndex request.target request.length.val
  let value ← Prog.lift (inAccess (decodeApPayload codec reading.data request.dataType))
  pure ⟨request, 0x27F0, reading.status, reading.length, reading.data, some value⟩

/-- `write_ap_parameter`. -/
def writeApParameter : Prog AccessFailure D (GatewayReply (ApRequest F) F) := do
  let request ← Prog.lift (inAccess (parseApParameterRequest repr message true))
  let slaveIndex ← Prog.lift (inAccess (validateApTarget bus repr request))
  let payload ← Prog.lift
    (inAccess (encodeApPayload codec repr (message.getD "value" .null) request.dataType))
  Prog.raiseIf (apGateway.maxDataBytes < payload.length)
    (.python (.motionServer (.invalidArgument "value" apGateway.overLimit)))
  let payload ← Prog.lift
    (inAccess (fitPayload apGateway message request.dataType request.length payload))
  let status ← machine.write polls apClient slaveIndex request.target payload
  pure ⟨{ request with length := .int payload.length }, 0x27F0, status, payload.length, payload, none⟩

/-- `read_iol_parameter`. -/
def readIolParameter : Prog AccessFailure D (GatewayReply (IsduRequest F) F) := do
  let request ← Prog.lift (inAccess (parseIsduRequest repr message false))
  Prog.lift (inAccess (validateIsduRequestAgainstIodd repr bus.slaves request false))
  let config ← Prog.lift (inAccess (ioConfigForRequest repr bus.slaves request.io))
  let objectIndex :=
    (isduAccessObjectIndex request.module.val config.modulePdoIndexStride).toNat
  let slaveIndex ← Prog.lift (inAccess (validateIoSelector repr bus.slaves request.io))
  let reading ← machine.read polls isduClient slaveIndex (request.target objectIndex)
    request.length.val
  let value ← Prog.lift (inAccess (decodeIsduPayload codec reading.data request.dataType))
  pure ⟨request, objectIndex, reading.status, reading.length, reading.data, some value⟩

/-- `write_iol_parameter`. -/
def writeIolParameter : Prog AccessFailure D (GatewayReply (IsduRequest F) F) := do
  let request ← Prog.lift (inAccess (parseIsduRequest repr message true))
  Prog.lift (inAccess (validateIsduRequestAgainstIodd repr bus.slaves request true))
  let config ← Prog.lift (inAccess (ioConfigForRequest repr bus.slaves request.io))
  let objectIndex :=
    (isduAccessObjectIndex request.module.val config.modulePdoIndexStride).toNat
  let slaveIndex ← Prog.lift (inAccess (validateIoSelector repr bus.slaves request.io))
  let payload ← Prog.lift
    (inAccess (encodeIsduPayload codec repr (message.getD "value" .null) request.dataType))
  Prog.raiseIf (isduGateway.maxDataBytes < payload.length)
    (.python (.motionServer (.invalidArgument "value" isduGateway.overLimit)))
  let payload ← Prog.lift (inAccess (isduWritePayload message request payload))
  let status ← machine.write polls isduClient slaveIndex (request.target objectIndex) payload
  pure ⟨{ request with length := .int payload.length }, objectIndex, status, payload.length, payload,
    none⟩

end Commands

/-- A command to the gateways, an exchange of process data with a slave, or other inputs of its
modules. -/
inductive GatewayEvent (F : Type)
  | readAp (polls : ℕ) (message : Message F)
  | writeAp (polls : ℕ) (message : Message F)
  | readIol (polls : ℕ) (message : Message F)
  | writeIol (polls : ℕ) (message : Message F)
  | exchange (slaveIndex : ℕ) (payload : List Byte)
  | setInputs (slaveIndex : ℕ) (inputs : ℕ → ChannelValues)

inductive GatewayResult (F : Type)
  | ap (reply : GatewayReply (ApRequest F) F)
  | iol (reply : GatewayReply (IsduRequest F) F)
  | exchanged (payload : List Byte)
  | done

/-- One event. -/
def gatewayStep (machine : GatewayMachine D) (bus : GatewayBus F G) (codec : Float32Codec F)
    (repr : Value F → String) : GatewayEvent F → Prog AccessFailure D (GatewayResult F)
  | .readAp polls message => .ap <$> readApParameter machine bus codec repr polls message
  | .writeAp polls message => .ap <$> writeApParameter machine bus codec repr polls message
  | .readIol polls message => .iol <$> readIolParameter machine bus codec repr polls message
  | .writeIol polls message => .iol <$> writeIolParameter machine bus codec repr polls message
  | .exchange slaveIndex payload => .exchanged <$> machine.exchange slaveIndex payload
  | .setInputs slaveIndex inputs => do
    machine.setInputs slaveIndex inputs
    pure .done

/-! ## The mock master -/

/-- `_raise_sdo_exception`. -/
def raiseSdoException (operation : String) : AccessFailure → AccessFailure
  | .python e =>
    if e.isOSError then .python (.motionServer (.communication operation)) else .python e
  | failure => failure

/-- The accesses of the mock master to a station. -/
def mockTransport (c : StationConfig F G) : AccessTransport (GatewayStation F G) where
  writeSdo index subindex payload :=
    tryCatch (stationWriteSdo c index subindex payload)
      fun failure => throw (raiseSdoException "sdo_write" failure)
  readSdo index subindex size :=
    tryCatch (stationReadSdo c index subindex size)
      fun failure => throw (raiseSdoException "sdo_read" failure)

/-- The stations behind the mock master. -/
def mockMachine (bus : GatewayBus F G) : GatewayMachine (ℕ → GatewayStation F G) where
  read polls client slaveIndex target length := Prog.atIndex slaveIndex
    (readAccess client (mockTransport (bus.station slaveIndex)) polls target length)
  write polls client slaveIndex target payload := Prog.atIndex slaveIndex
    (writeAccess client (mockTransport (bus.station slaveIndex)) polls target payload)
  exchange slaveIndex payload := Prog.atIndex slaveIndex
    (stationExchange (bus.station slaveIndex) payload)
  setInputs slaveIndex inputs := Prog.atIndex slaveIndex
    (Prog.modify fun s => { s with inputs := inputs })

/-! ## The gateways without the objects -/

/-- The modules of a station, the bytes that the last access left for each access object, and what
is behind the gateways. -/
structure DirectStation (G : Type) where
  inputs : ℕ → ChannelValues
  outputs : ℕ → ChannelValues
  buffers : ℕ → List Byte
  outside : G

namespace DirectStation

/-- The access object with the index. -/
def findObject (c : StationConfig F G) (index : ℕ) : Except AccessFailure AccessObject :=
  match c.objects.find? fun o => o.index = index with
  | some o => .ok o
  | none => .error (.objectNotFound index 2)

/-- What the gateway answers. -/
def respond (c : StationConfig F G) (request : GatewayRequest) :
    Prog AccessFailure (DirectStation G) (ℤ × List Byte) := fun t =>
  let response := c.respond request t.outside
  (response.1.mapError fun e => raiseSdoException "sdo_write" (.python e),
    { t with outside := response.2 })

/-- **One call of the gateway:** it gets the bytes that are left for the object, and leaves others. -/
def call (c : StationConfig F G) (o : AccessObject) (target : AccessTarget) (direction : ℤ) :
    Prog AccessFailure (DirectStation G) ℤ := do
  let t ← Prog.get
  let buffer := t.buffers o.index
  let response ← respond c
    (o.request ⟨direction, target.first, target.second, target.third, buffer.length, buffer⟩)
  Prog.raiseIf (o.dataBytes < response.2.length) (.python .valueError)
  Prog.modify fun t => { t with buffers := Function.update t.buffers o.index response.2 }
  Prog.raiseIf (¬ Bytes.Fits false 2 response.1) (.python .structError)
  pure response.1

/-- A read is a call. -/
def read (c : StationConfig F G) (client : GatewayClient) (target : AccessTarget) (length : ℤ) :
    Prog AccessFailure (DirectStation G) AccessReading := do
  let o ← Prog.lift (findObject c target.index)
  let status ← call c o target 0
  Prog.lift (requireSuccess client.operation status)
  let t ← Prog.get
  let buffer := t.buffers o.index
  pure ⟨status, buffer.length, buffer.take length.toNat⟩

/-- A write leaves its bytes for the object, and is a call. -/
def write (c : StationConfig F G) (client : GatewayClient) (target : AccessTarget)
    (payload : List Byte) : Prog AccessFailure (DirectStation G) ℤ := do
  let o ← Prog.lift (findObject c target.index)
  Prog.modify fun t => { t with buffers := Function.update t.buffers o.index payload }
  let status ← call c o target 1
  Prog.lift (requireSuccess client.operation status)
  pure status

/-- The outputs go to the modules, and their inputs are the reply. -/
def exchange (c : StationConfig F G) (payload : List Byte) :
    Prog AccessFailure (DirectStation G) (List Byte) := do
  Prog.modify fun t => { t with
    outputs := readModules CPXApModule.outputRegion payload c.modules t.outputs }
  let t ← Prog.get
  Prog.lift (inAccess (publishInputImages c.tx.byteSize c.modules t.inputs))

end DirectStation

/-- The gateways without the objects. -/
def directMachine (bus : GatewayBus F G) : GatewayMachine (ℕ → DirectStation G) where
  read _ client slaveIndex target length := Prog.atIndex slaveIndex
    (DirectStation.read (bus.station slaveIndex) client target length)
  write _ client slaveIndex target payload := Prog.atIndex slaveIndex
    (DirectStation.write (bus.station slaveIndex) client target payload)
  exchange slaveIndex payload := Prog.atIndex slaveIndex
    (DirectStation.exchange (bus.station slaveIndex) payload)
  setInputs slaveIndex inputs := Prog.atIndex slaveIndex
    (Prog.modify fun t => { t with inputs := inputs })

end MotionServer
