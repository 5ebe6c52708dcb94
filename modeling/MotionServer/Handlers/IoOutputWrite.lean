import MotionServer.Device.CpxCodec
import MotionServer.Device.IoDevices
import MotionServer.Handlers.ParameterPayload
import MotionServer.Lib.Prog

/-!
# Writing outputs

* `OutputImages`: the outputs of all stations, channel by channel;
* `selectedOutputDevice`: the station that a write names;
* `parseOutput`: the slot, the channel and the value of a write;
* `setModuleDigitalOutput`, `setModuleAnalogOutput`, `setIoLinkOutput`: the three kinds of outputs;
* `writeOutputTarget`: one write, **`writeOutputs`**: the handler, for one write or a list of them.
-/

namespace MotionServer

variable {F : Type} [PyFloat F]

/-! ## Images -/

/-- `rxpdo.module_outputs` of each slave: the values of a module by its slot. -/
abbrev OutputImages := ℕ → ℤ → Option ChannelValues

/-- The values of a module are replaced. -/
def OutputImages.replace (images : OutputImages) (station : ℕ) (slot : ℤ) (values : ChannelValues) :
    OutputImages :=
  Function.update images station (Function.update (images station) slot (some values))

/-- `self.module_outputs[int(slot)]`, with the slot. -/
def moduleOutput (station : ℕ) (slot : Value F) : Prog PyExc OutputImages (ℤ × ChannelValues) := do
  let slot ← Prog.lift slot.toInt
  match (← Prog.get) station slot with
  | some values => pure (slot, values)
  | none => throw .keyError

omit [PyFloat F] in
/-- `output_channel`. -/
def outputChannel (count : ℕ) : Value F → Except PyExc ℕ
  | .int i => if i < 0 ∨ count ≤ i then .error .valueError else .ok i.toNat
  | _ => .error .typeError

/-- `CPXRxPDO.set_module_digital_output`. -/
def setModuleDigitalOutput (station : ℕ) (slot channel : Value F) (value : Bool) :
    Prog PyExc OutputImages Unit := do
  let (slot, values) ← moduleOutput station slot
  let index ← Prog.lift (outputChannel values.digital.length channel)
  Prog.modify (·.replace station slot { values with digital := values.digital.set index value })

/-- `module_by_slot`. -/
def moduleBySlot (modules : List CPXApModule) (slot : Value F) : Except PyExc CPXApModule := do
  let slot ← slot.toInt
  match modules.find? fun m => (m.slot : ℤ) = slot with
  | some m => .ok m
  | none => .error .keyError

/-- `CPXRxPDO.set_module_analog_output`. -/
def setModuleAnalogOutput (modules : List CPXApModule) (station : ℕ) (slot channel : Value F)
    (value : ℤ) : Prog PyExc OutputImages Unit := do
  let m ← Prog.lift (moduleBySlot modules slot)
  let (slot, values) ← moduleOutput station slot
  let index ← Prog.lift (outputChannel values.analog.length channel)
  let value ← Prog.lift (validateAnalogValue m value)
  Prog.modify (·.replace station slot { values with analog := values.analog.set index value })

/-- `CPXRxPDO.set_io_link_output`. -/
def setIoLinkOutput (station : ℕ) (slot : Value F) (payload : List Byte) :
    Prog PyExc OutputImages Unit := do
  let (slot, values) ← moduleOutput station slot
  Prog.raiseIf (payload.length ≠ values.ioLink.length) .valueError
  Prog.modify (·.replace station slot { values with ioLink := payload })

/-! ## Requests -/

/-- The loop of `selected_device`. The position is read anew for each device. -/
def findOutputDevice (repr : Value F → String) (ioId slaveIndex : Value F) :
    List IoDevice → Except PyExc IoDevice
  | [] => .error .valueError
  | device :: devices =>
    if ioId.isNull = false ∧ device.id = ioId.pyStr repr then .ok device
    else if slaveIndex.isNull then findOutputDevice repr ioId slaveIndex devices
    else do
      let i ← slaveIndex.toInt
      if (device.slaveIndex : ℤ) = i then .ok device
      else findOutputDevice repr ioId slaveIndex devices

/-- `selected_io_device`: `selected_device` with an id and a position. -/
def selectedOutputDevice (repr : Value F → String) (slaves : List BusSlave)
    (ioId slaveIndex : Value F) : Except PyExc IoDevice :=
  if ioId.isNull ∧ slaveIndex.isNull then match ioDevices slaves with
    | [device] => .ok device
    | _ => .error .valueError
  else findOutputDevice repr ioId slaveIndex (ioDevices slaves)

omit [PyFloat F] in
/-- `require_field`. -/
def requiredField (message : Message F) (field : String) : Except PyExc (Value F) :=
  match message.get? field with
  | some value => .ok value
  | none => .error (.motionServer (.invalidArgument field "is required"))

/-- `s.strip().lower()`, where the Kelvin sign is lowered to a letter too. -/
def lowerKind (s : String) : String :=
  pyLower (String.ofList ((stripChars s.toList).map fun c => if c.toNat = 0x212A then 'k' else c))

/-- `parse_bool`. -/
def parseOutputBool : Value F → Except PyExc Bool
  | .str s =>
    let normalized := pyLower (pyStrip s)
    if normalized ∈ ["1", "true", "on", "yes"] then .ok true
    else if normalized ∈ ["0", "false", "off", "no"] then .ok false
    else .error (.motionServer (.invalidArgument "value" "must be boolean"))
  | value => .ok value.truthy

/-- `parse_output_payload`. -/
def parseOutputPayload : Value F → Except PyExc (List Byte)
  | .str s => match fromHex (hexDigitsText s) with
    | some payload => .ok payload
    | none => .error .valueError
  | value => do
    let items ← value.iterate
    bytesOfItems items

/-- What a write sets. -/
inductive OutputOrder (F : Type)
  | digital (channel : Value F) (value : Bool)
  | analog (channel : Value F) (value : ℤ)
  | ioLink (payload : List Byte)

/-- `apply_output_write` up to the output that it sets: the slot, and what is set there. -/
def parseOutput (repr : Value F → String) (message : Message F) :
    Except PyExc (Value F × OutputOrder F) := do
  let slot ← requiredField message "slot"
  let kind := lowerKind
    ((message.getD "kind" (message.getD "output_type" (.str ""))).pyStr repr)
  if kind ∈ ["do", "digital", "digital_output"] then do
    let channel ← requiredField message "channel"
    let value ← requiredField message "value"
    let value ← parseOutputBool value
    pure (slot, .digital channel value)
  else if kind ∈ ["ao", "analog", "analog_output"] then do
    let channel ← requiredField message "channel"
    let value ← requiredField message "value"
    let value ← value.toInt
    pure (slot, .analog channel value)
  else if kind ∈ ["iol", "io_link", "iolink"] then do
    let payload ← parseOutputPayload (message.getD "payload" (message.getD "data" (.str "")))
    pure (slot, .ioLink payload)
  else .error .valueError

/-- The setter that `apply_output_write` calls. -/
def setOutput (modules : List CPXApModule) (station : ℕ) (slot : Value F) :
    OutputOrder F → Prog PyExc OutputImages Unit
  | .digital channel value => setModuleDigitalOutput station slot channel value
  | .analog channel value => setModuleAnalogOutput modules station slot channel value
  | .ioLink payload => setIoLinkOutput station slot payload

/-- `apply_output_write`. -/
def applyOutputWrite (repr : Value F → String) (modules : List CPXApModule) (station : ℕ)
    (message : Message F) : Prog PyExc OutputImages Unit := do
  let (slot, order) ← Prog.lift (parseOutput repr message)
  setOutput modules station slot order

/-- What `write_output_target` makes of an exception of `apply_output_write`. -/
def outputFailure (e : PyExc) : PyExc :=
  match e with
  | .motionServer (.invalidArgument field reason) => .motionServer (.invalidArgument field reason)
  | e =>
    if e = .attributeError ∨ e.isOSError then .motionServer (.deviceAccess "io_output_write")
    else if e.isTypeOrValueError then
      .motionServer (.invalidArgument "output" "is invalid for the selected I/O target")
    else e

/-- The stations of the bus: their slaves, and the modules of each. -/
structure OutputStations where
  slaves : List BusSlave
  modules : ℕ → List CPXApModule

/-- `write_output_target`. -/
def writeOutputTarget (repr : Value F → String) (stations : OutputStations) (message : Message F) :
    Prog PyExc OutputImages Unit :=
  let selector := message.getD "io" (message.getD "id" .null)
  match selectedOutputDevice repr stations.slaves selector (message.getD "slave_index" .null) with
  | .error e =>
    throw (if e.isTypeOrValueError then .motionServer (.resourceMissing "io" (selector.pyStr repr))
      else e)
  | .ok device =>
    tryCatch
      (applyOutputWrite repr (stations.modules device.slaveIndex) device.slaveIndex message)
      fun e => throw (outputFailure e)

/-! ## Lists of writes -/

/-- `output_target`: what a report calls an item. -/
structure OutputTarget (F : Type) where
  io : Value F
  slot : Value F
  channel : Option (Value F)

omit [PyFloat F] in
/-- `output_target`. -/
def outputTarget (message : Message F) (index : ℕ) : OutputTarget F where
  io :=
    let io := message.getD "io" (message.getD "id" .null)
    if io.isNull then .int index else io
  slot := message.getD "slot" .null
  channel := message.get? "channel"

omit [PyFloat F] in
/-- The request of an item: the fields of the message, and those of the item. -/
def itemRequest (message : Message F) (item : Message F) : Message F :=
  item.foldl (fun request entry => request.set entry.1 entry.2)
    (message.filter fun entry => entry.1 ∉ ["writes", "request_id"])

omit [PyFloat F] in
/-- The requests of all items. -/
def itemRequests (message : Message F) (writes : List (Value F)) :
    Except PyExc (List (Message F)) :=
  writes.zipIdx.mapM fun entry => match entry.1 with
    | .dict item => .ok (itemRequest message item)
    | _ => .error (.motionServer
      (.invalidArgument "writes" ("item " ++ toString entry.2 ++ " must be an object")))

/-- The outcome of an item: nothing, or the failure that is reported. -/
def attemptOutput (repr : Value F → String) (stations : OutputStations) (request : Message F) :
    Prog PyExc OutputImages (Option MotionServerException) :=
  tryCatch
    (do
      writeOutputTarget repr stations request
      pure none)
    fun e => match e with
      | .motionServer e => pure (some e)
      | e => throw e

/-- The loop of `write_outputs`: the targets that succeeded, and those that failed. -/
def attemptOutputs (repr : Value F → String) (stations : OutputStations) :
    List (OutputTarget F × Message F) →
      Prog PyExc OutputImages
        (List (OutputTarget F) × List (OutputTarget F × MotionServerException))
  | [] => pure ([], [])
  | (target, request) :: items => do
    let outcome ← attemptOutput repr stations request
    let (succeeded, failed) ← attemptOutputs repr stations items
    match outcome with
    | none => pure (target :: succeeded, failed)
    | some e => pure (succeeded, (target, e) :: failed)

/-- What `write_outputs` returns: for one write its target, for a list the targets of its items. -/
inductive OutputReport (F : Type)
  | single
  | targets (succeeded : List (OutputTarget F))
  | partialFailure (succeeded : List (OutputTarget F))
    (failed : List (OutputTarget F × MotionServerException))

omit [PyFloat F] in
/-- The end of `write_outputs`. -/
def reportOutputs :
    List (OutputTarget F) × List (OutputTarget F × MotionServerException) →
      Except PyExc (OutputReport F)
  | (succeeded, []) => .ok (.targets succeeded)
  | ([], (_, e) :: _) => .error (.motionServer e)
  | (succeeded, failed) => .ok (.partialFailure succeeded failed)

/-- `write_outputs`. -/
def writeOutputs (repr : Value F → String) (stations : OutputStations) (message : Message F) :
    Prog PyExc OutputImages (OutputReport F) :=
  match message.getD "writes" .null with
  | .null => do
    writeOutputTarget repr stations message
    pure .single
  | .list (item :: items) => do
    let requests ← Prog.lift (itemRequests message (item :: items))
    let targets := requests.zipIdx.map fun entry => outputTarget entry.1 entry.2
    let outcomes ← attemptOutputs repr stations (targets.zip requests)
    Prog.lift (reportOutputs outcomes)
  | _ => throw (.motionServer (.invalidArgument "writes" "must be a non-empty list"))

end MotionServer
