import MotionServer.Handlers.ParameterAccess
import MotionServer.Lib.Bytes

/-!
# IO-Link parameters through the ISDU gateway

A CPX-AP station has one gateway object for each of its modules.

* `isduAccessObjectIndex`: the index of the gateway object;
* `parseIsduRequest`, `validateIsduRequestAgainstIodd`: the requests and what the IODD allows;
* `writeIolTransfers`: the writes to the station that a write request leads to;
* **`writeIolTransfers_ok`**: the device they were validated for, and the slave they go to.
-/

namespace MotionServer

variable {F : Type} [PyFloat F]

/-- `isdu_access_object_index`. -/
def isduAccessObjectIndex (module indexStride : ℤ) : ℤ := 0x2001 + module * indexStride

/-! ## Requests -/

/-- A parsed ISDU request. -/
structure IsduRequest (F : Type) where
  io : Value F
  module : PyInt
  port : PyInt
  index : PyInt
  subindex : PyInt
  length : PyInt
  dataType : String

/-- The sizes of `ISDU_DATA_FORMATS`. -/
def isduDataSize : String → Option ℕ
  | "int8" | "uint8" => some 1
  | "uint16" | "int16" => some 2
  | "int32" | "uint32" | "udint" | "float32" => some 4
  | _ => none

/-- The data types without a size of their own. -/
def isRawIsduType (dataType : String) : Bool :=
  dataType ∈ ["bytes", "hex", "byte_array", "char", "string", "ascii"]

def isduMaxDataBytes : ℕ := 238

omit [PyFloat F] in
/-- `parse_isdu_length`. -/
def parseIsduLength (repr : Value F → String) (message : Message F) (dataType : String) :
    Except PyExc PyInt :=
  if message.has "length" then parseSdoInt repr message "length" none
  else .ok (.int ((isduDataSize dataType).getD 0))

/-- A field outside its range. -/
def requireRange (field reason : String) (low high : ℤ) (value : PyInt) : Except PyExc Unit :=
  if value.val < low ∨ high < value.val then
    .error (.motionServer (.invalidArgument field reason))
  else .ok ()

/-- `validate_isdu_length`. -/
def validateIsduLength (dataType : String) (length : PyInt) : Except PyExc Unit :=
  match isduDataSize dataType with
  | none => .ok ()
  | some size =>
    if length.val ≠ size then
      .error (.motionServer (.invalidArgument "length"
        ("must be " ++ toString size ++ " for " ++ dataType)))
    else .ok ()

omit [PyFloat F] in
/-- `validate_raw_isdu_length`. -/
def validateRawIsduLength (message : Message F) (dataType : String) (length : PyInt) :
    Except PyExc Unit :=
  if isRawIsduType dataType = false then .ok ()
  else if message.has "length" = false ∧ message.has "value" = false then
    .error (.motionServer (.invalidArgument "length" "is required for raw ISDU reads"))
  else if length.val ≤ 0 ∧ message.has "value" = false then
    .error (.motionServer (.invalidArgument "length" "must be greater than 0"))
  else .ok ()

omit [PyFloat F] in
/-- A field that a request must have. -/
def requireField (message : Message F) (field : String) : Except PyExc Unit :=
  if message.has field then .ok ()
  else .error (.motionServer (.invalidArgument field "is required"))

omit [PyFloat F] in
/-- `parse_isdu_request`. -/
def parseIsduRequest (repr : Value F → String) (message : Message F) (requireValue : Bool) :
    Except PyExc (IsduRequest F) :=
  match message.get? "io" with
  | none => .error (.motionServer (.invalidRequest "IO-Link ISDU commands require io"))
  | some io => do
    requireField message "module"
    requireField message "port"
    requireField message "index"
    (if requireValue then requireField message "value" else .ok ())
    let dataType := pyLower (pyStrip ((message.getD "data_type" (.str "bytes")).pyStr repr))
    let module ← parseSdoInt repr message "module" none
    let port ← parseSdoInt repr message "port" none
    let index ← parseSdoInt repr message "index" none
    let subindex ← parseSdoInt repr message "subindex" (some 0)
    let length ← parseIsduLength repr message dataType
    requireRange "module" "must be in range 1..255" 1 0xFF module
    requireRange "port" "is outside uint8 range" 0 0xFF port
    requireRange "index" "is outside uint16 range" 0 0xFFFF index
    requireRange "subindex" "is outside uint8 range" 0 0xFF subindex
    requireRange "length" "is outside the ISDU payload range" 0 isduMaxDataBytes length
    validateIsduLength dataType length
    validateRawIsduLength message dataType length
    pure ⟨io, module, port, index, subindex, length, dataType⟩

/-! ## What the IODD allows -/

omit [PyFloat F] in
/-- `io_config_for_request`. -/
def ioConfigForRequest (repr : Value F → String) (slaves : List BusSlave) (io : Value F) :
    Except PyExc CpxIoConfig :=
  match selectedDevice repr slaves io with
  | .error e =>
    if e.isTypeOrValueError then .error (.motionServer (.resourceMissing "io" (io.pyStr repr)))
    else .error e
  | .ok device => match device.slave.config with
    | some config => .ok config
    | none => .error (.motionServer (.resourceMissing "io_configuration" (io.pyStr repr)))

omit [PyFloat F] in
/-- `iodd_binding_for_request`, for the configuration of the device. -/
def ioddBindingForRequest (config : CpxIoConfig) (request : IsduRequest F) :
    Except PyExc IoLinkDeviceBinding :=
  match config.ioLinkDevices.find? fun binding =>
    binding.module == request.module.val && binding.port == request.port.val with
  | some binding => .ok binding
  | none => .error (.motionServer (.resourceMissing "iolink_port_binding"
      (toString request.module.val ++ ":" ++ toString request.port.val)))

/-- `iodd_variable_for_index`. -/
def ioddVariableForIndex (binding : IoLinkDeviceBinding) (index : ℤ) : Except PyExc IoddVariable :=
  match binding.ioddVariables.find? fun v => v.index == index with
  | some v => .ok v
  | none => .error (.motionServer (.resourceNotFound "iolink_parameter" index))

/-- The rights of a variable have the letter. -/
def IoddVariable.grants (v : IoddVariable) (right : Char) : Bool :=
  right ∈ (pyLower (pyStrip v.access)).toList

/-- `validate_iodd_variable_access`. -/
def validateIoddVariableAccess (v : IoddVariable) (write : Bool) : Except PyExc Unit :=
  if v.grants (if write then 'w' else 'r') then .ok ()
  else .error (.motionServer (.permissionDenied
    (if write then "iolink_isdu_write" else "iolink_isdu_read")))

/-- `validate_iodd_subindex`. -/
def validateIoddSubindex (v : IoddVariable) (subindex : ℤ) : Except PyExc Unit :=
  if subindex = 0 ∨ subindex ∈ v.subindices then .ok ()
  else .error (.motionServer (.resourceMissing "iolink_subindex"
    (toString v.index ++ ":" ++ toString subindex)))

omit [PyFloat F] in
/-- `validate_isdu_request_against_iodd`. -/
def validateIsduRequestAgainstIodd (repr : Value F → String) (slaves : List BusSlave)
    (request : IsduRequest F) (write : Bool) : Except PyExc Unit := do
  let config ← ioConfigForRequest repr slaves request.io
  let binding ← ioddBindingForRequest config request
  let v ← ioddVariableForIndex binding request.index.val
  validateIoddVariableAccess v write
  validateIoddSubindex v request.subindex.val

/-! ## The transfers of a write -/

/-- What is written to an object. -/
inductive SdoData
  | uint8 (i : ℤ)
  | uint16 (i : ℤ)
  | bytes (payload : List Byte)

/-- A write to an object of a slave. -/
structure SdoTransfer where
  slaveIndex : ℕ
  index : ℤ
  subindex : ℕ
  data : SdoData

omit [PyFloat F] in
/-- `isdu_write_payload`. -/
def isduWritePayload (message : Message F) (request : IsduRequest F) (payload : List Byte) :
    Except PyExc (List Byte) :=
  if isRawIsduType request.dataType = true ∧ message.has "length" = true then
    let length := request.length.val.toNat
    if length < payload.length then
      .error (.motionServer (.invalidArgument "value"
        "is longer than the requested ISDU payload length"))
    else .ok (payload ++ List.replicate (length - payload.length) 0)
  else .ok payload

omit [PyFloat F] in
/-- `write_isdu_header`, `write_isdu_data_payload` and the direction: the writes in their order. The
first that fails is the last. -/
def isduWriteTransfers (request : IsduRequest F) (slaveIndex : ℕ) (objectIndex : ℤ)
    (payload : List Byte) : List SdoTransfer :=
  [⟨slaveIndex, objectIndex, 2, .uint8 request.port.val⟩,
    ⟨slaveIndex, objectIndex, 3, .uint16 request.index.val⟩,
    ⟨slaveIndex, objectIndex, 4, .uint8 request.subindex.val⟩,
    ⟨slaveIndex, objectIndex, 6, .uint8 payload.length⟩,
    ⟨slaveIndex, objectIndex, 7,
      .bytes (payload ++ List.replicate (isduMaxDataBytes - payload.length) 0)⟩,
    ⟨slaveIndex, objectIndex, 1, .uint8 1⟩]

omit [PyFloat F] in
/-- `_write_iol_parameter` up to its transfers. `encode` is `encode_isdu_payload`. -/
def writeIolTransfers (repr : Value F → String)
    (encode : Value F → String → Except PyExc (List Byte)) (slaves : List BusSlave)
    (message : Message F) : Except PyExc (List SdoTransfer) := do
  let request ← parseIsduRequest repr message true
  validateIsduRequestAgainstIodd repr slaves request true
  let config ← ioConfigForRequest repr slaves request.io
  let objectIndex := isduAccessObjectIndex request.module.val config.modulePdoIndexStride
  let slaveIndex ← validateIoSelector repr slaves request.io
  let payload ← encode (message.getD "value" .null) request.dataType
  if isduMaxDataBytes < payload.length then
    throw (.motionServer (.invalidArgument "value" "exceeds the ISDU payload limit"))
  else
    let payload ← isduWritePayload message request payload
    pure (isduWriteTransfers request slaveIndex objectIndex payload)

/-! ## Where a write goes -/

/-- The IODD of the device at the port grants writes to the variable. -/
def IoDevice.AllowsWrite (device : IoDevice) (request : IsduRequest F) : Prop :=
  ∃ config, device.slave.config = some config ∧
    ∃ binding ∈ config.ioLinkDevices, binding.module = request.module.val ∧
      binding.port = request.port.val ∧
      ∃ v ∈ binding.ioddVariables, v.index = request.index.val ∧ v.grants 'w' = true

theorem requireRange_eq_ok {field reason : String} {low high : ℤ} {value : PyInt} {u : Unit}
    (h : requireRange field reason low high value = .ok u) : low ≤ value.val ∧ value.val ≤ high := by
  unfold requireRange at h
  split_ifs at h with hrange
  omega

omit [PyFloat F] in
theorem parseIsduRequest_ok {repr : Value F → String} {message : Message F} {requireValue : Bool}
    {request : IsduRequest F} (h : parseIsduRequest repr message requireValue = .ok request) :
    message.get? "io" = some request.io ∧ 1 ≤ request.module.val ∧ request.module.val ≤ 0xFF := by
  unfold parseIsduRequest at h
  split at h
  · cases h
  · rename_i io hio
    obtain ⟨_, -, h⟩ := Except.bind_eq_ok.mp h
    obtain ⟨_, -, h⟩ := Except.bind_eq_ok.mp h
    obtain ⟨_, -, h⟩ := Except.bind_eq_ok.mp h
    obtain ⟨_, -, h⟩ := Except.bind_eq_ok.mp h
    obtain ⟨module, -, h⟩ := Except.bind_eq_ok.mp h
    obtain ⟨_, -, h⟩ := Except.bind_eq_ok.mp h
    obtain ⟨_, -, h⟩ := Except.bind_eq_ok.mp h
    obtain ⟨_, -, h⟩ := Except.bind_eq_ok.mp h
    obtain ⟨_, -, h⟩ := Except.bind_eq_ok.mp h
    obtain ⟨_, hmodule, h⟩ := Except.bind_eq_ok.mp h
    obtain ⟨_, -, h⟩ := Except.bind_eq_ok.mp h
    obtain ⟨_, -, h⟩ := Except.bind_eq_ok.mp h
    obtain ⟨_, -, h⟩ := Except.bind_eq_ok.mp h
    obtain ⟨_, -, h⟩ := Except.bind_eq_ok.mp h
    obtain ⟨_, -, h⟩ := Except.bind_eq_ok.mp h
    obtain ⟨_, -, h⟩ := Except.bind_eq_ok.mp h
    obtain rfl := Except.ok.inj h
    exact ⟨hio, requireRange_eq_ok hmodule⟩

omit [PyFloat F] in
theorem ioConfigForRequest_ok {repr : Value F → String} {slaves : List BusSlave} {io : Value F}
    {config : CpxIoConfig} (h : ioConfigForRequest repr slaves io = .ok config) :
    ∃ device, selectedDevice repr slaves io = .ok device ∧ device.slave.config = some config := by
  unfold ioConfigForRequest at h
  split at h
  · split_ifs at h
  · rename_i device hdevice
    split at h
    · rename_i config' hconfig
      obtain rfl := Except.ok.inj h
      exact ⟨device, hdevice, hconfig⟩
    · cases h

omit [PyFloat F] in
theorem validateIoSelector_ok {repr : Value F → String} {slaves : List BusSlave} {io : Value F}
    {k : ℕ} (h : validateIoSelector repr slaves io = .ok k) : slaveIndex repr slaves io = .ok k := by
  unfold validateIoSelector at h
  split at h
  · split_ifs at h
  · rename_i k' hk
    rwa [hk]

omit [PyFloat F] in
theorem ioddBindingForRequest_ok {config : CpxIoConfig} {request : IsduRequest F}
    {binding : IoLinkDeviceBinding} (h : ioddBindingForRequest config request = .ok binding) :
    binding ∈ config.ioLinkDevices ∧ binding.module = request.module.val ∧
      binding.port = request.port.val := by
  unfold ioddBindingForRequest at h
  split at h
  · rename_i found hfind
    obtain rfl := Except.ok.inj h
    have hport := List.find?_some hfind
    simp only [Bool.and_eq_true, beq_iff_eq] at hport
    exact ⟨List.mem_of_find?_eq_some hfind, hport⟩
  · cases h

theorem ioddVariableForIndex_ok {binding : IoLinkDeviceBinding} {index : ℤ} {v : IoddVariable}
    (h : ioddVariableForIndex binding index = .ok v) :
    v ∈ binding.ioddVariables ∧ v.index = index := by
  unfold ioddVariableForIndex at h
  split at h
  · rename_i found hfind
    obtain rfl := Except.ok.inj h
    exact ⟨List.mem_of_find?_eq_some hfind, by simpa using List.find?_some hfind⟩
  · cases h

theorem validateIoddVariableAccess_ok {v : IoddVariable} {u : Unit}
    (h : validateIoddVariableAccess v true = .ok u) : v.grants 'w' = true := by
  by_contra hgrants
  rw [validateIoddVariableAccess, if_pos rfl, if_neg hgrants] at h
  cases h

omit [PyFloat F] in
/-- The device that a request is validated for. -/
theorem validateIsduRequestAgainstIodd_ok {repr : Value F → String} {slaves : List BusSlave}
    {request : IsduRequest F} {u : Unit}
    (h : validateIsduRequestAgainstIodd repr slaves request true = .ok u) :
    ∃ device, selectedDevice repr slaves request.io = .ok device ∧ device.AllowsWrite request := by
  obtain ⟨config, hconfig, h⟩ := Except.bind_eq_ok.mp h
  obtain ⟨binding, hbinding, h⟩ := Except.bind_eq_ok.mp h
  obtain ⟨v, hv, h⟩ := Except.bind_eq_ok.mp h
  obtain ⟨_, haccess, -⟩ := Except.bind_eq_ok.mp h
  obtain ⟨device, hdevice, hdeviceConfig⟩ := ioConfigForRequest_ok hconfig
  obtain ⟨hmem, hmodule, hport⟩ := ioddBindingForRequest_ok hbinding
  obtain ⟨hmemV, hindex⟩ := ioddVariableForIndex_ok hv
  exact ⟨device, hdevice, config, hdeviceConfig, binding, hmem, hmodule, hport, v, hmemV, hindex,
    validateIoddVariableAccess_ok haccess⟩

omit [PyFloat F] in
/-- **A write is validated for the device that one resolver selects, and sent to the slave that the
other one names.** -/
theorem writeIolTransfers_ok {repr : Value F → String}
    {encode : Value F → String → Except PyExc (List Byte)} {slaves : List BusSlave}
    {message : Message F} {transfers : List SdoTransfer}
    (h : writeIolTransfers repr encode slaves message = .ok transfers) :
    ∃ request device k, message.get? "io" = some request.io ∧
      selectedDevice repr slaves request.io = .ok device ∧ device.AllowsWrite request ∧
      slaveIndex repr slaves request.io = .ok k ∧ ∀ t ∈ transfers, t.slaveIndex = k := by
  obtain ⟨request, hrequest, h⟩ := Except.bind_eq_ok.mp h
  obtain ⟨_, hvalid, h⟩ := Except.bind_eq_ok.mp h
  obtain ⟨config, -, h⟩ := Except.bind_eq_ok.mp h
  obtain ⟨k, hk, h⟩ := Except.bind_eq_ok.mp h
  obtain ⟨payload, -, h⟩ := Except.bind_eq_ok.mp h
  obtain ⟨device, hdevice, hallows⟩ := validateIsduRequestAgainstIodd_ok hvalid
  refine ⟨request, device, k, (parseIsduRequest_ok hrequest).1, hdevice, hallows,
    validateIoSelector_ok hk, ?_⟩
  split_ifs at h
  obtain ⟨padded, -, h⟩ := Except.bind_eq_ok.mp h
  obtain rfl := Except.ok.inj h
  intro t ht
  simp only [isduWriteTransfers, List.mem_cons, List.not_mem_nil, or_false] at ht
  rcases ht with rfl | rfl | rfl | rfl | rfl | rfl <;> rfl

omit [PyFloat F] in
/-- The writes go to the gateway object of the module, one of `1..255`. -/
theorem index_of_mem_writeIolTransfers {repr : Value F → String}
    {encode : Value F → String → Except PyExc (List Byte)} {slaves : List BusSlave}
    {message : Message F} {transfers : List SdoTransfer}
    (h : writeIolTransfers repr encode slaves message = .ok transfers) :
    ∃ (module : ℤ) (config : CpxIoConfig), 1 ≤ module ∧ module ≤ 0xFF ∧
      ∀ t ∈ transfers, t.index = isduAccessObjectIndex module config.modulePdoIndexStride := by
  obtain ⟨request, hrequest, h⟩ := Except.bind_eq_ok.mp h
  obtain ⟨_, -, h⟩ := Except.bind_eq_ok.mp h
  obtain ⟨config, -, h⟩ := Except.bind_eq_ok.mp h
  obtain ⟨k, -, h⟩ := Except.bind_eq_ok.mp h
  obtain ⟨payload, -, h⟩ := Except.bind_eq_ok.mp h
  obtain ⟨-, hlow, hhigh⟩ := parseIsduRequest_ok hrequest
  refine ⟨request.module.val, config, hlow, hhigh, ?_⟩
  split_ifs at h
  obtain ⟨padded, -, h⟩ := Except.bind_eq_ok.mp h
  obtain rfl := Except.ok.inj h
  intro t ht
  simp only [isduWriteTransfers, List.mem_cons, List.not_mem_nil, or_false] at ht
  rcases ht with rfl | rfl | rfl | rfl | rfl | rfl <;> rfl

end MotionServer
