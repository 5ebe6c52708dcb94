import MotionServer.App.RuntimeParameters
import MotionServer.Device.IoDevices

/-!
# Reading and writing device parameters

* `parseSdoRequest`, `parseIoSdoRequest`: the object that a request names;
* `isCpxIsduAccessObject`, `validateIoParameterAccess`: the objects that only an expert may access;
* `axisSdoCall`, `ioSdoCall`: the access to the device that a request leads to, or why there is none;
* `ParameterRequest.access`, `ParameterAccess.perform`: the access and its record in the cache.
-/

namespace MotionServer

variable {F : Type} [PyFloat F]

/-! ## Requests -/

/-- The errors that a conversion turns into `InvalidArgumentException`. -/
def asInvalidArgument {α : Type} (field reason : String) : Except PyExc α → Except PyExc α
  | .error e =>
    if e.isTypeOrValueError then .error (.motionServer (.invalidArgument field reason)) else .error e
  | .ok a => .ok a

omit [PyFloat F] in
/-- `parse_sdo_int`. -/
def parseSdoInt (repr : Value F → String) (message : Message F) (field : String)
    (default : Option ℤ) : Except PyExc PyInt :=
  match message.get? field with
  | none => match default with
    | some i => .ok (.int i)
    | none => .error (.motionServer (.invalidArgument field "is required"))
  | some value => asInvalidArgument field "must be an integer" (value.parsePyInt repr)

/-- `normalize_sdo_data_type`. -/
def normalizeSdoDataType (repr : Value F → String) (dataType : Value F) : String :=
  let text := pyLower (pyStrip (if dataType.truthy then dataType.pyStr repr else "uint32"))
  if "string(".toList.isPrefixOf text.toList then "string"
  else if text ∈ ["stringt", "visible-string", "visible_string"] then "string"
  else if text ∈ ["char", "string", "ascii", "visible_string"] then "string"
  else text

omit [PyFloat F] in
/-- The length in `string(length)`. -/
def parseStringLength (rawType : List Char) : Except PyExc PyInt :=
  match parseIntLiteral true (String.ofList (rawType.drop 7).dropLast) with
  | none =>
    .error (.motionServer (.invalidArgument "data_type" "contains an invalid string length"))
  | some length =>
    if length ≤ 0 then
      .error (.motionServer (.invalidArgument "data_type" "string length must be greater than 0"))
    else .ok (.int length)

omit [PyFloat F] in
/-- `parse_sdo_length`. -/
def parseSdoLength (repr : Value F → String) (message : Message F) (dataType : String) :
    Except PyExc (Option PyInt) :=
  if dataType ≠ "string" then .ok none
  else if message.has "length" then do
    let length ← parseSdoInt repr message "length" none
    if length.val ≤ 0 then
      throw (.motionServer (.invalidArgument "length" "must be greater than 0"))
    else pure (some length)
  else
    let rawType := (pyLower (pyStrip ((message.getD "data_type" (.str "")).pyStr repr))).toList
    if "string(".toList.isPrefixOf rawType ∧ rawType.getLast? = some ')' then do
      pure (some (← parseStringLength rawType))
    else .error (.motionServer (.invalidArgument "length" "is required for string SDO access"))

/-- The device that an access goes to. -/
inductive SdoTarget
  | axis (axisIndex : PyInt)
  | slave (slaveIndex : ℕ)
  deriving DecidableEq

/-- What the parser of a request makes: its target, and the object. -/
structure SdoRequest (α : Type) where
  target : α
  index : PyInt
  subindex : PyInt
  dataType : String
  length : Option PyInt

/-- `parse_sdo_request`. -/
def parseSdoRequest (repr : Value F → String) (axisCount : ℕ) (message : Message F) :
    Except PyExc (SdoRequest PyInt) := do
  let dataType := normalizeSdoDataType repr (message.getD "data_type" (.str "uint32"))
  if message.has "axes" = true ∨ message.has "axis" = false then
    throw (.motionServer
      (.invalidRequest "Parameter commands require axis and do not accept axes"))
  else
    let axisIndex ← parseSdoInt repr message "axis" none
    let index ← parseSdoInt repr message "index" none
    let subindex ← parseSdoInt repr message "subindex" (some 0)
    if axisIndex.val < 0 ∨ axisCount ≤ axisIndex.val then
      throw (.motionServer (.resourceNotFound "axis" axisIndex.val))
    else
      let length ← parseSdoLength repr message dataType
      pure ⟨axisIndex, index, subindex, dataType, length⟩

/-- `parse_io_sdo_request`. -/
def parseIoSdoRequest (repr : Value F → String) (message : Message F) :
    Except PyExc (SdoRequest (Value F)) := do
  let dataType := normalizeSdoDataType repr (message.getD "data_type" (.str "uint32"))
  match message.get? "io" with
  | none => throw (.motionServer (.invalidRequest "I/O parameter commands require io"))
  | some ioSelector =>
    let index ← parseSdoInt repr message "index" none
    let subindex ← parseSdoInt repr message "subindex" (some 0)
    let length ← parseSdoLength repr message dataType
    pure ⟨ioSelector, index, subindex, dataType, length⟩

/-! ## The objects of the ISDU gateway -/

/-- `is_cpx_isdu_access_object`. -/
def isCpxIsduAccessObject (index : ℤ) : Bool :=
  0x2001 ≤ index && index ≤ 0x2FF1 && (index - 0x2001) % 0x10 == 0

/-- `validate_io_parameter_access`. -/
def validateIoParameterAccess (expertMode : Bool) (index : PyInt) : Except PyExc Unit :=
  if isCpxIsduAccessObject index.val = true ∧ expertMode = false then
    .error (.motionServer (.unsupportedOperation "io_ethercat_parameter_access"
      "Use the dedicated IO-Link ISDU command for this object"))
  else .ok ()

omit [PyFloat F] in
/-- `validate_io_selector`. -/
def validateIoSelector (repr : Value F → String) (slaves : List BusSlave) (ioSelector : Value F) :
    Except PyExc ℕ :=
  match slaveIndex repr slaves ioSelector with
  | .error e =>
    if e.isTypeOrValueError then
      .error (.motionServer (.resourceMissing "io" (ioSelector.pyStr repr)))
    else .error e
  | .ok slaveIndex => .ok slaveIndex

/-! ## Accesses to a device -/

/-- The names in `SDO_READERS` and `SDO_WRITERS`, and strings. -/
inductive SdoFormat
  | uint8
  | int8
  | uint16
  | int16
  | int32
  | uint32
  | float32
  | string
  deriving DecidableEq

/-- The format of a data type, if it is supported. -/
def sdoFormat : String → Except PyExc SdoFormat
  | "uint8" => .ok .uint8
  | "int8" => .ok .int8
  | "uint16" => .ok .uint16
  | "int16" => .ok .int16
  | "int32" => .ok .int32
  | "uint32" => .ok .uint32
  | "udint" => .ok .uint32
  | "float32" => .ok .float32
  | "string" => .ok .string
  | _ => .error (.motionServer (.invalidArgument "data_type" "is not a supported SDO data type"))

/-- A value of a format. -/
inductive SdoValue (F : Type)
  | int (i : ℤ)
  | float (x : F)
  | string (s : String)

/-- The value in a reply. -/
def SdoValue.toValue : SdoValue F → Value F
  | int i => .int i
  | float x => .float x
  | string s => .str s

/-- One access to an object of a device: a read, or a write of a value. -/
structure SdoCall (F : Type) where
  target : SdoTarget
  index : PyInt
  subindex : PyInt
  format : SdoFormat
  length : Option PyInt
  written : Option (SdoValue F)

/-- The devices: what they answer to an access, or the exception it ends with. The value of a
write is not used. -/
abbrev SdoAccess (F : Type) := SdoCall F → Except PyExc (SdoValue F)

/-- The value that `write_sdo_value` writes. -/
def sdoWriteValue (repr : Value F → String) (dataType : String) (format : SdoFormat)
    (rawValue : Value F) : Except PyExc (SdoValue F) :=
  let invalid : PyExc := .motionServer (.invalidArgument "value" ("is invalid for " ++ dataType))
  match format with
  | .string => .ok (.string (rawValue.pyStr repr))
  | .float32 => match rawValue.toFloat with
    | .ok x => .ok (.float x)
    | .error e => .error (if e.isTypeOrValueError ∨ e = .overflowError then invalid else e)
  | _ => match parseIntLiteral true (rawValue.pyStr repr) with
    | some i => .ok (.int i)
    | none => .error invalid

omit [PyFloat F] in
/-- `required_sdo_write_value`. -/
def requiredSdoWriteValue (message : Message F) : Except PyExc (Value F) :=
  match message.get? "value" with
  | some value => .ok value
  | none => .error (.motionServer (.invalidArgument "value" "is required"))

/-- The value of a write, in its format. -/
def writtenValue (repr : Value F → String) (dataType : String) (format : SdoFormat) :
    Option (Value F) → Except PyExc (Option (SdoValue F))
  | some rawValue => do pure (some (← sdoWriteValue repr dataType format rawValue))
  | none => pure none

/-- The access of a parsed request. -/
def sdoCall {α : Type} (repr : Value F → String) (request : SdoRequest α) (target : SdoTarget)
    (rawValue : Option (Value F)) : Except PyExc (SdoCall F) := do
  let format ← sdoFormat request.dataType
  let written ← writtenValue repr request.dataType format rawValue
  pure ⟨target, request.index, request.subindex, format,
    if rawValue.isSome then none else request.length, written⟩

/-- The value that a write request carries. -/
def rawWriteValue (write : Bool) (message : Message F) : Except PyExc (Option (Value F)) :=
  if write then do pure (some (← requiredSdoWriteValue message)) else pure none

/-- The access of a request on an axis. -/
def axisSdoCall (repr : Value F → String) (axisCount : ℕ) (write : Bool) (message : Message F) :
    Except PyExc (SdoRequest PyInt × SdoCall F) := do
  let request ← parseSdoRequest repr axisCount message
  let rawValue ← rawWriteValue write message
  let call ← sdoCall repr request (.axis request.target) rawValue
  pure (request, call)

/-- The access of a request on an I/O device. -/
def ioSdoCall (repr : Value F → String) (slaves : List BusSlave) (expertMode write : Bool)
    (message : Message F) : Except PyExc (SdoRequest (Value F) × ℕ × SdoCall F) := do
  let request ← parseIoSdoRequest repr message
  let slaveIndex ← validateIoSelector repr slaves request.target
  validateIoParameterAccess expertMode request.index
  let rawValue ← rawWriteValue write message
  let call ← sdoCall repr request (.slave slaveIndex) rawValue
  pure (request, slaveIndex, call)

/-! ## Replies -/

/-- `"0x" + str(value).encode("ascii", errors="replace").hex()`. -/
def asciiHex (s : String) : String :=
  "0x" ++ String.join (s.toList.map fun c =>
    String.ofList ((Nat.toDigits 16 (if c.toNat < 128 then c.toNat else 0x3F)).leftpad 2 '0'))

/-- `sdo_value_response`. -/
def sdoValueResponse : SdoValue F → Message F
  | .string s => [("value", .str s), ("hex", .str (asciiHex s))]
  | .float x => [("value", .float x), ("hex", .null)]
  | .int i => [("value", .int i), ("hex", .str ("0x" ++ hexText 8 (i % 2 ^ 32).toNat))]

/-- `_parameter_data`. A read adds the length it asked for. -/
def parameterData {α : Type} (targetName : String) (target : Value F) (request : SdoRequest α)
    (write : Bool) (value : SdoValue F) : Message F :=
  [(targetName, target), ("index", request.index.toValue), ("subindex", request.subindex.toValue),
    ("data_type", .str request.dataType)] ++ sdoValueResponse value ++
    if write then [] else [("length", (request.length.map PyInt.toValue).getD .null)]

/-- `io_source_index` for a selector that names a slave: the search for it succeeds. -/
def ioSourceIndex (repr : Value F → String) (slaves : List BusSlave) (ioSelector : Value F)
    (slaveIndex : ℕ) : PyInt :=
  .int (((ioDevices slaves).findIdx? fun d =>
    d.id == ioSelector.pyStr repr || d.slaveIndex == slaveIndex).getD 0)

/-! ## Accesses and their records -/

/-- What an accepted access reports: the value, its raw bytes and the response. -/
structure ParameterReply (F : Type) where
  value : Value F
  rawValue : Option String
  data : Message F

/-- An access that was made: the arguments of its record, and what the device said. -/
structure ParameterAccess (F : Type) where
  arguments : AddressArguments
  dataType : String
  source : String
  reply : Except PyExc (ParameterReply F)

/-- The requests that access parameters. A gateway request is one for a module or an IO-Link device,
after its transfers. -/
inductive ParameterRequest (F : Type)
  | axis (write : Bool) (message : Message F)
  | io (write : Bool) (message : Message F)
  | gateway (access : ParameterAccess F)

/-- What the requests are served with. -/
structure ParameterTarget (F : Type) where
  repr : Value F → String
  axisCount : ℕ
  slaves : List BusSlave
  expertMode : Bool

/-- The source of a recorded value. -/
def accessSource (write : Bool) : String := if write then "device_write" else "device_readback"

/-- The reply to an access: what was written, or what the device answered. -/
def sdoReply {α : Type} (targetName : String) (target : Value F) (request : SdoRequest α)
    (call : SdoCall F) (sdo : SdoAccess F) : Except PyExc (ParameterReply F) :=
  match sdo call with
  | .error e => .error e
  | .ok answer =>
    let value := call.written.getD answer
    .ok ⟨value.toValue, none, parameterData targetName target request call.written.isSome value⟩

/-- The access of a request, or the error that it ends with before any device is accessed. -/
def ParameterRequest.access (target : ParameterTarget F) (sdo : SdoAccess F) :
    ParameterRequest F → Except PyExc (ParameterAccess F)
  | .axis write message => do
    let parsed ← axisSdoCall target.repr target.axisCount write message
    let request := parsed.1
    pure
      { arguments :=
          { sourceType := .axis
            sourceIndex := request.target
            domain := .ethercatOd
            index := some request.index
            subindex := some request.subindex }
        dataType := request.dataType
        source := accessSource write
        reply := sdoReply "axis" request.target.toValue request parsed.2 sdo }
  | .io write message => do
    let parsed ← ioSdoCall target.repr target.slaves target.expertMode write message
    let request := parsed.1
    pure
      { arguments :=
          { sourceType := .io
            sourceIndex := ioSourceIndex target.repr target.slaves request.target parsed.2.1
            domain := .ethercatOd
            index := some request.index
            subindex := some request.subindex }
        dataType := request.dataType
        source := accessSource write
        reply := sdoReply "io" request.target request parsed.2.2 sdo }
  | .gateway access => pure access

/-- The record of an access that was made. -/
def ParameterAccess.perform (access : ParameterAccess F) (cache : RuntimeParameterCache F) :
    Except PyExc (Message F) × RuntimeParameterCache F :=
  match access.reply with
  | .error e => (.error e, cache)
  | .ok reply =>
    match updateRuntimeParameterCache cache access.arguments reply.value access.dataType
      reply.rawValue access.source with
    | .error e => (.error e, cache)
    | .ok recorded => (.ok reply.data, recorded)

/-- `_read_axis_parameter`, `_write_axis_parameter`, `_read_io_parameter`, `_write_io_parameter`
and the gateway requests. -/
def ParameterRequest.handle (target : ParameterTarget F) (sdo : SdoAccess F)
    (request : ParameterRequest F) (cache : RuntimeParameterCache F) :
    Except PyExc (Message F) × RuntimeParameterCache F :=
  match request.access target sdo with
  | .error e => (.error e, cache)
  | .ok access => access.perform cache

omit [PyFloat F] in
/-- The response shows the value. -/
theorem get?_value_of_sdoReply {α : Type} {targetName : String} {target : Value F}
    {request : SdoRequest α} {call : SdoCall F} {sdo : SdoAccess F} {reply : ParameterReply F}
    (hname : targetName ≠ "value") (h : sdoReply targetName target request call sdo = .ok reply) :
    reply.data.get? "value" = some reply.value := by
  unfold sdoReply at h
  split at h
  · cases h
  · cases h
    rename_i answer _
    cases call.written.getD answer <;>
      simp [parameterData, sdoValueResponse, Message.get?, hname, SdoValue.toValue]

end MotionServer
