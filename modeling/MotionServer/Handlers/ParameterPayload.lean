import Mathlib.Data.List.DropRight
import MotionServer.Device.OdValueCodec
import MotionServer.Handlers.IsduAccess
import MotionServer.Python.HexText

/-!
# The payloads of parameter writes

A CPX-AP station has a gateway to the parameters of its modules and one to those of its IO-Link
devices. Both encode a value by the name of its type.

* `PayloadGateway`, `apGateway`, `isduGateway`: what differs between the two;
* `encodePayload`, `fitPayload`, `decodePayload`: the codec of both;
* `writtenPayload`: what a write request sends;
* **`writeApPayload_ok`**, **`writeIolTransfers_payload`**: the writes of both gateways send it;
* `Refuses`, **`refuses_writtenPayload`**: a write that makes no payload is refused;
* **`writtenPayload_ok`**, `exists_writtenPayload`: the writes that make one.
-/

namespace MotionServer

variable {F : Type} [PyFloat F]

/-! ## The gateways -/

/-- The limit and the texts of a gateway. -/
structure PayloadGateway where
  maxDataBytes : ℕ
  outsideRange : String
  unsupportedType : String
  overLimit : String
  overLength : String
  shortPayload : String

/-- The gateway to AP parameters: `AP_MAX_DATA_BYTES` and the texts of `ap.py`. -/
def apGateway : PayloadGateway where
  maxDataBytes := 512
  outsideRange := "is outside the AP payload range"
  unsupportedType := "is not a supported AP parameter data type"
  overLimit := "exceeds the AP payload limit"
  overLength := "is longer than the requested AP payload length"
  shortPayload := "ap_parameter_short_payload"

/-- The gateway to IO-Link parameters: `ISDU_MAX_DATA_BYTES` and the texts of `iol.py`. -/
def isduGateway : PayloadGateway where
  maxDataBytes := isduMaxDataBytes
  outsideRange := "is outside the ISDU payload range"
  unsupportedType := "is not a supported ISDU data type"
  overLimit := "exceeds the ISDU payload limit"
  overLength := "is longer than the requested ISDU payload length"
  shortPayload := "iolink_isdu_short_payload"

/-! ## The codec -/

/-- `AP_DATA_FORMATS` and `ISDU_DATA_FORMATS`, which are the same. -/
def payloadFormat : String → Option StructFormat
  | "int8" => some (.integer true 1)
  | "uint8" => some (.integer false 1)
  | "uint16" => some (.integer false 2)
  | "int16" => some (.integer true 2)
  | "int32" => some (.integer true 4)
  | "uint32" => some (.integer false 4)
  | "udint" => some (.integer false 4)
  | "float32" => some .float
  | _ => none

/-- The types of bytes. -/
def isBytesType (dataType : String) : Bool := dataType ∈ ["bytes", "hex", "byte_array"]

/-- The types of texts. -/
def isTextType (dataType : String) : Bool := dataType ∈ ["char", "string", "ascii"]

/-- `bytes(int(item) & 0xFF for item in value)`. -/
def bytesOfItems (items : List (Value F)) : Except PyExc (List Byte) :=
  items.mapM fun item => BitVec.ofInt 8 <$> item.toInt

/-- The text without blanks around it and without a prefix `0x`. -/
def hexDigitsText (s : String) : List Char :=
  let text := stripChars s.toList
  if ['0', 'x'].isPrefixOf text then text.drop 2 else text

/-- `parse_hex_payload`. -/
def parseHexPayload : Value F → Except PyExc (List Byte)
  | .str s =>
    let text := hexDigitsText s
    match fromHex (if text.length % 2 = 0 then text else '0' :: text) with
    | some payload => .ok payload
    | none => .error .valueError
  | value => do
    let items ← value.iterate
    bytesOfItems items

/-- `s.encode("ascii")`. -/
def encodeAscii (s : String) : Except PyExc (List Byte) :=
  if s.toList.all fun c => c.toNat < 128 then .ok (asciiBytes s) else .error .valueError

/-- The exceptions that an encoder takes for an invalid value. -/
def PyExc.isEncodingError (e : PyExc) : Bool :=
  e.isTypeOrValueError || e == .overflowError || e == .structError

/-- The bytes of a value by its type, with the exceptions as they are raised. -/
def packPayload (g : PayloadGateway) (codec : Float32Codec F) (repr : Value F → String)
    (value : Value F) (dataType : String) : Except PyExc (List Byte) :=
  if isBytesType dataType then parseHexPayload value
  else if isTextType dataType then encodeAscii (value.pyStr repr)
  else match payloadFormat dataType with
    | none => .error (.motionServer (.invalidArgument "data_type" g.unsupportedType))
    | some .float => do
      let x ← value.toFloat
      structPack codec .float (.float x)
    | some format => match parseIntLiteral true (value.pyStr repr) with
      | some i => structPack codec format (.int i)
      | none => .error .valueError

/-- An encoder's `except` clauses. -/
def asInvalidValue {α : Type} (dataType : String) : Except PyExc α → Except PyExc α
  | .ok a => .ok a
  | .error e =>
    if e.isEncodingError then
      .error (.motionServer (.invalidArgument "value" ("is invalid for " ++ dataType)))
    else .error e

/-- `encode_ap_payload` and `encode_isdu_payload`. -/
def encodePayload (g : PayloadGateway) (codec : Float32Codec F) (repr : Value F → String)
    (value : Value F) (dataType : String) : Except PyExc (List Byte) :=
  asInvalidValue dataType (packPayload g codec repr value dataType)

omit [PyFloat F] in
/-- `ap_write_payload` and `isdu_write_payload`. -/
def fitPayload (g : PayloadGateway) (message : Message F) (dataType : String) (length : PyInt)
    (payload : List Byte) : Except PyExc (List Byte) :=
  if isRawIsduType dataType = true ∧ message.has "length" = true then
    let length := length.val.toNat
    if length < payload.length then
      .error (.motionServer (.invalidArgument "value" g.overLength))
    else .ok (payload ++ List.replicate (length - payload.length) 0)
  else .ok payload

omit [PyFloat F] in
/-- What `struct.unpack` gives, as a value of a reply. -/
def OdValue.toValue : OdValue F → Value F
  | int i => .int i
  | float x => .float x

/-- `decode_ap_payload` and `decode_isdu_payload`. -/
def decodePayload (g : PayloadGateway) (codec : Float32Codec F) (payload : List Byte)
    (dataType : String) : Except PyExc (Value F) :=
  if isBytesType dataType then .ok (.str (String.ofList (Hex.chars payload)))
  else if isTextType dataType then .ok (.str (asciiText (payload.rdropWhile (· = 0))))
  else match payloadFormat dataType with
    | none => .error (.motionServer (.invalidArgument "data_type" g.unsupportedType))
    | some format =>
      if payload.length < format.size then
        .error (.motionServer (.deviceAccess g.shortPayload))
      else OdValue.toValue <$> structUnpack codec format (payload.take format.size)

def encodeApPayload (codec : Float32Codec F) (repr : Value F → String) (value : Value F)
    (dataType : String) : Except PyExc (List Byte) :=
  encodePayload apGateway codec repr value dataType

def encodeIsduPayload (codec : Float32Codec F) (repr : Value F → String) (value : Value F)
    (dataType : String) : Except PyExc (List Byte) :=
  encodePayload isduGateway codec repr value dataType

def decodeApPayload (codec : Float32Codec F) (payload : List Byte) (dataType : String) :
    Except PyExc (Value F) :=
  decodePayload apGateway codec payload dataType

def decodeIsduPayload (codec : Float32Codec F) (payload : List Byte) (dataType : String) :
    Except PyExc (Value F) :=
  decodePayload isduGateway codec payload dataType

/-! ## Write requests -/

omit [PyFloat F] in
/-- The type that a request names. -/
def payloadType (repr : Value F → String) (message : Message F) : String :=
  pyLower (pyStrip ((message.getD "data_type" (.str "bytes")).pyStr repr))

/-- The part of `_write_ap_parameter` and `_write_iol_parameter` that makes the payload: the value,
the type and the length of the request, without its address. -/
def writtenPayload (g : PayloadGateway) (codec : Float32Codec F) (repr : Value F → String)
    (message : Message F) : Except PyExc (List Byte) := do
  requireField message "value"
  let dataType := payloadType repr message
  let length ← parseIsduLength repr message dataType
  requireRange "length" g.outsideRange 0 g.maxDataBytes length
  validateIsduLength dataType length
  let payload ← encodePayload g codec repr (message.getD "value" .null) dataType
  if g.maxDataBytes < payload.length then
    throw (.motionServer (.invalidArgument "value" g.overLimit))
  else fitPayload g message dataType length payload

/-! ## The requests of both gateways -/

/-- A parsed request of the AP gateway. -/
structure ApRequest (F : Type) where
  io : Value F
  module : PyInt
  apAccessModule : ℤ
  parameterId : PyInt
  inst : PyInt
  length : PyInt
  dataType : String

omit [PyFloat F] in
/-- `parse_ap_int`, where `alternative` is its `alias`. -/
def parseApInt (repr : Value F → String) (message : Message F) (field : String)
    (alternative : Option String) (default : Option ℤ) : Except PyExc PyInt :=
  match (if message.has field then some field else alternative).bind message.get? with
  | none => match default with
    | some i => .ok (.int i)
    | none => .error (.motionServer (.invalidArgument field "is required"))
  | some value => asInvalidArgument field "must be an integer" (value.parsePyInt repr)

omit [PyFloat F] in
/-- `parse_ap_length`, which does what `parse_isdu_length` does. -/
def parseApLength (repr : Value F → String) (message : Message F) (dataType : String) :
    Except PyExc PyInt := parseIsduLength repr message dataType

/-- `validate_ap_length`, which does what `validate_isdu_length` does. -/
def validateApLength (dataType : String) (length : PyInt) : Except PyExc Unit :=
  validateIsduLength dataType length

omit [PyFloat F] in
/-- `validate_raw_ap_length`. -/
def validateRawApLength (message : Message F) (dataType : String) (length : PyInt) :
    Except PyExc Unit :=
  if isRawIsduType dataType = false then .ok ()
  else if message.has "length" = false ∧ message.has "value" = false then
    .error (.motionServer (.invalidArgument "length" "is required for raw AP reads"))
  else if length.val ≤ 0 ∧ message.has "value" = false then
    .error (.motionServer (.invalidArgument "length" "must be greater than 0"))
  else .ok ()

omit [PyFloat F] in
/-- `parse_ap_parameter_request`. -/
def parseApParameterRequest (repr : Value F → String) (message : Message F)
    (requireValue : Bool) : Except PyExc (ApRequest F) :=
  match message.get? "io" with
  | none => .error (.motionServer (.invalidRequest "AP parameter commands require io"))
  | some io =>
    if message.has "module" = false ∧ message.has "slot" = false then
      .error (.motionServer (.invalidRequest "AP parameter commands require module"))
    else do
      requireField message "parameter_id"
      (if requireValue then requireField message "value" else .ok ())
      let dataType := payloadType repr message
      let module ← parseApInt repr message "module" (some "slot") none
      let parameterId ← parseApInt repr message "parameter_id" none none
      let inst ← parseApInt repr message "instance" none (some 0)
      let length ← parseApLength repr message dataType
      requireRange "module" "is outside uint16 range" 0 0xFFFF module
      requireRange "parameter_id" "is outside uint32 range" 0 0xFFFFFFFF parameterId
      requireRange "instance" "is outside uint16 range" 0 0xFFFF inst
      requireRange "length" apGateway.outsideRange 0 apGateway.maxDataBytes length
      validateApLength dataType length
      validateRawApLength message dataType length
      pure ⟨io, module, module.val + 1, parameterId, inst, length, dataType⟩

/-- `_write_ap_parameter` up to its payload, but for the check that the target exists. -/
def writeApPayload (codec : Float32Codec F) (repr : Value F → String) (message : Message F) :
    Except PyExc (ApRequest F × List Byte) := do
  let request ← parseApParameterRequest repr message true
  let payload ← encodeApPayload codec repr (message.getD "value" .null) request.dataType
  if apGateway.maxDataBytes < payload.length then
    throw (.motionServer (.invalidArgument "value" apGateway.overLimit))
  else
    let payload ← fitPayload apGateway message request.dataType request.length payload
    pure ({ request with length := .int payload.length }, payload)

/-- The parsed fields of a request that its payload depends on. -/
theorem writtenPayload_of_fields {g : PayloadGateway} {codec : Float32Codec F}
    {repr : Value F → String} {message : Message F} {length : PyInt} {packed payload : List Byte}
    (hvalue : requireField message "value" = .ok ())
    (hlength : parseIsduLength repr message (payloadType repr message) = .ok length)
    (hrange : requireRange "length" g.outsideRange 0 g.maxDataBytes length = .ok ())
    (hvalid : validateIsduLength (payloadType repr message) length = .ok ())
    (hencode : encodePayload g codec repr (message.getD "value" .null) (payloadType repr message) =
      .ok packed)
    (hlimit : ¬ g.maxDataBytes < packed.length)
    (hfit : fitPayload g message (payloadType repr message) length packed = .ok payload) :
    writtenPayload g codec repr message = .ok payload := by
  unfold writtenPayload
  dsimp only
  rw [hvalue, Except.ok_bind, hlength, Except.ok_bind, hrange, Except.ok_bind, hvalid,
    Except.ok_bind, hencode, Except.ok_bind, if_neg hlimit, hfit]

/-- **A write of the AP gateway sends the payload of its request.** -/
theorem writeApPayload_ok {codec : Float32Codec F} {repr : Value F → String} {message : Message F}
    {request : ApRequest F} {payload : List Byte}
    (h : writeApPayload codec repr message = .ok (request, payload)) :
    writtenPayload apGateway codec repr message = .ok payload ∧
      request.length = .int payload.length := by
  obtain ⟨parsed, hparsed, h⟩ := Except.bind_eq_ok.mp h
  obtain ⟨packed, hencode, h⟩ := Except.bind_eq_ok.mp h
  unfold parseApParameterRequest at hparsed
  split at hparsed
  · cases hparsed
  split at hparsed
  · cases hparsed
  obtain ⟨_, -, hparsed⟩ := Except.bind_eq_ok.mp hparsed
  obtain ⟨_, hvalue, hparsed⟩ := Except.bind_eq_ok.mp hparsed
  obtain ⟨module, -, hparsed⟩ := Except.bind_eq_ok.mp hparsed
  obtain ⟨parameterId, -, hparsed⟩ := Except.bind_eq_ok.mp hparsed
  obtain ⟨inst, -, hparsed⟩ := Except.bind_eq_ok.mp hparsed
  obtain ⟨length, hlength, hparsed⟩ := Except.bind_eq_ok.mp hparsed
  obtain ⟨_, -, hparsed⟩ := Except.bind_eq_ok.mp hparsed
  obtain ⟨_, -, hparsed⟩ := Except.bind_eq_ok.mp hparsed
  obtain ⟨_, -, hparsed⟩ := Except.bind_eq_ok.mp hparsed
  obtain ⟨_, hrange, hparsed⟩ := Except.bind_eq_ok.mp hparsed
  obtain ⟨_, hvalid, hparsed⟩ := Except.bind_eq_ok.mp hparsed
  obtain ⟨_, -, hparsed⟩ := Except.bind_eq_ok.mp hparsed
  obtain rfl := Except.ok.inj hparsed
  split_ifs at h with hlimit
  obtain ⟨payload', hfit, h⟩ := Except.bind_eq_ok.mp h
  have hpair := Except.ok.inj h
  simp only [Prod.mk.injEq] at hpair
  obtain ⟨rfl, rfl⟩ := hpair
  exact ⟨writtenPayload_of_fields hvalue hlength hrange hvalid hencode hlimit hfit, rfl⟩

/-- **A write of the ISDU gateway sends the payload of its request.** -/
theorem writeIolTransfers_payload {codec : Float32Codec F} {repr : Value F → String}
    {slaves : List BusSlave} {message : Message F} {transfers : List SdoTransfer}
    (h : writeIolTransfers repr (encodeIsduPayload codec repr) slaves message = .ok transfers) :
    ∃ (request : IsduRequest F) (slaveIndex : ℕ) (objectIndex : ℤ) (payload : List Byte),
      writtenPayload isduGateway codec repr message = .ok payload ∧
      transfers = isduWriteTransfers request slaveIndex objectIndex payload := by
  obtain ⟨request, hparsed, h⟩ := Except.bind_eq_ok.mp h
  obtain ⟨_, -, h⟩ := Except.bind_eq_ok.mp h
  obtain ⟨config, -, h⟩ := Except.bind_eq_ok.mp h
  obtain ⟨slaveIndex, -, h⟩ := Except.bind_eq_ok.mp h
  obtain ⟨packed, hencode, h⟩ := Except.bind_eq_ok.mp h
  split_ifs at h with hlimit
  obtain ⟨payload, hfit, h⟩ := Except.bind_eq_ok.mp h
  refine ⟨request, slaveIndex, isduAccessObjectIndex request.module.val config.modulePdoIndexStride,
    payload, ?_, (Except.ok.inj h).symm⟩
  unfold parseIsduRequest at hparsed
  split at hparsed
  · cases hparsed
  obtain ⟨_, -, hparsed⟩ := Except.bind_eq_ok.mp hparsed
  obtain ⟨_, -, hparsed⟩ := Except.bind_eq_ok.mp hparsed
  obtain ⟨_, -, hparsed⟩ := Except.bind_eq_ok.mp hparsed
  obtain ⟨_, hvalue, hparsed⟩ := Except.bind_eq_ok.mp hparsed
  obtain ⟨module, -, hparsed⟩ := Except.bind_eq_ok.mp hparsed
  obtain ⟨port, -, hparsed⟩ := Except.bind_eq_ok.mp hparsed
  obtain ⟨index, -, hparsed⟩ := Except.bind_eq_ok.mp hparsed
  obtain ⟨subindex, -, hparsed⟩ := Except.bind_eq_ok.mp hparsed
  obtain ⟨length, hlength, hparsed⟩ := Except.bind_eq_ok.mp hparsed
  obtain ⟨_, -, hparsed⟩ := Except.bind_eq_ok.mp hparsed
  obtain ⟨_, -, hparsed⟩ := Except.bind_eq_ok.mp hparsed
  obtain ⟨_, -, hparsed⟩ := Except.bind_eq_ok.mp hparsed
  obtain ⟨_, -, hparsed⟩ := Except.bind_eq_ok.mp hparsed
  obtain ⟨_, hrange, hparsed⟩ := Except.bind_eq_ok.mp hparsed
  obtain ⟨_, hvalid, hparsed⟩ := Except.bind_eq_ok.mp hparsed
  obtain ⟨_, -, hparsed⟩ := Except.bind_eq_ok.mp hparsed
  obtain rfl := Except.ok.inj hparsed
  exact writtenPayload_of_fields hvalue hlength hrange hvalid hencode hlimit hfit

/-! ## Refusals -/

/-- A float that `int` does not take raises `ValueError` or `OverflowError`. -/
class TruncRaises (F : Type) [PyFloat F] : Prop where
  truncInt_error : ∀ (x : F) (e : PyExc), PyFloat.truncInt x = .error e →
    e = .valueError ∨ e = .overflowError

instance : TruncRaises ExtRat where
  truncInt_error x e h := by
    cases x <;> cases h
    · exact Or.inl rfl
    · exact Or.inr rfl
    · exact Or.inr rfl

/-- `InvalidArgument`. -/
def PyExc.IsInvalidArgument (e : PyExc) : Prop :=
  ∃ field reason, e = .motionServer (.invalidArgument field reason)

/-- The computation fails with `InvalidArgument` only. -/
abbrev Refuses {α : Type} (x : Except PyExc α) : Prop := x.OnlyFails PyExc.IsInvalidArgument

/-- The computation fails in a way that an encoder takes for an invalid value, or as a refusal. -/
abbrev Encodes {α : Type} (x : Except PyExc α) : Prop :=
  x.OnlyFails fun e => e.isEncodingError = true ∨ e.IsInvalidArgument

theorem refuses_invalidArgument {α : Type} (field reason : String) :
    Refuses (.error (.motionServer (.invalidArgument field reason)) : Except PyExc α) :=
  Except.onlyFails_error ⟨field, reason, rfl⟩

theorem encodes_error {α : Type} {e : PyExc} (he : e.isEncodingError = true) :
    Encodes (.error e : Except PyExc α) := Except.onlyFails_error (Or.inl he)

/-- **An encoder refuses** what it does not encode. -/
theorem refuses_asInvalidValue {α : Type} {x : Except PyExc α} (hx : Encodes x)
    (dataType : String) : Refuses (asInvalidValue dataType x) := by
  cases x with
  | ok a => exact Except.onlyFails_ok a
  | error e =>
    show Refuses (if e.isEncodingError then _ else _)
    rcases hx e rfl with he | ⟨field, reason, rfl⟩
    · rw [if_pos he]
      exact refuses_invalidArgument _ _
    · exact refuses_invalidArgument field reason

theorem encodes_toInt [TruncRaises F] (value : Value F) : Encodes value.toInt := by
  cases value with
  | float x =>
    intro e h
    rcases TruncRaises.truncInt_error x e h with rfl | rfl <;> exact Or.inl rfl
  | str s =>
    unfold Value.toInt
    dsimp only
    split
    · exact Except.onlyFails_ok _
    · exact encodes_error rfl
  | bool b => exact Except.onlyFails_ok _
  | int i => exact Except.onlyFails_ok i
  | null => exact encodes_error rfl
  | list items => exact encodes_error rfl
  | dict entries => exact encodes_error rfl

theorem encodes_parseHexPayload [TruncRaises F] (value : Value F) :
    Encodes (parseHexPayload value) := by
  have hitems : ∀ items : List (Value F), Encodes (bytesOfItems items) :=
    Except.OnlyFails.mapM fun item => (encodes_toInt item).map _
  cases value with
  | str s =>
    unfold parseHexPayload
    dsimp only
    split
    · exact Except.onlyFails_ok _
    · exact encodes_error rfl
  | list items => exact hitems items
  | dict entries => exact hitems _
  | null => exact encodes_error rfl
  | bool b => exact encodes_error rfl
  | int i => exact encodes_error rfl
  | float x => exact encodes_error rfl

theorem payloadFormat_eq_float {dataType : String} (h : payloadFormat dataType = some .float) :
    dataType = "float32" := by
  unfold payloadFormat at h
  split at h <;> first | rfl | cases h

theorem encodes_structPack (codec : Float32Codec F) {format : StructFormat}
    (hformat : format ≠ .float) (i : ℤ) : Encodes (structPack codec format (.int i)) := by
  cases format with
  | bool => exact Except.onlyFails_ok _
  | integer signed bytes =>
    show Encodes (if Bytes.Fits signed bytes i then _ else _)
    split_ifs
    · exact Except.onlyFails_ok _
    · exact encodes_error rfl
  | float => exact absurd rfl hformat

theorem encodes_packPayload [TruncRaises F] (g : PayloadGateway) (codec : Float32Codec F)
    (repr : Value F → String) (value : Value F) {dataType : String}
    (hfloat : dataType ≠ "float32") :
    Encodes (packPayload g codec repr value dataType) := by
  unfold packPayload
  split_ifs
  · exact encodes_parseHexPayload value
  · unfold encodeAscii
    split_ifs
    · exact Except.onlyFails_ok _
    · exact encodes_error rfl
  · split
    · exact (refuses_invalidArgument _ _).mono fun e he => Or.inr he
    · rename_i hformat
      exact absurd (payloadFormat_eq_float hformat) hfloat
    · rename_i format hnot hformat
      split
      · exact encodes_structPack codec hnot _
      · exact encodes_error rfl

omit [PyFloat F] in
theorem parseSdoInt_of_get {repr : Value F → String} {message : Message F} {field : String}
    {value : Value F} (h : message.get? field = some value) :
    parseSdoInt repr message field none =
      asInvalidArgument field "must be an integer" (value.parsePyInt repr) := by
  rw [parseSdoInt, h]

omit [PyFloat F] in
theorem refuses_parseIsduLength (repr : Value F → String) (message : Message F)
    (dataType : String) : Refuses (parseIsduLength repr message dataType) := by
  unfold parseIsduLength
  split_ifs
  · cases hvalue : message.get? "length" with
    | none =>
      rw [parseSdoInt, hvalue]
      exact refuses_invalidArgument _ _
    | some value =>
      rw [parseSdoInt_of_get hvalue, Value.parsePyInt]
      split
      · exact Except.onlyFails_ok _
      · split
        · exact Except.onlyFails_ok _
        · exact refuses_invalidArgument _ _
  · exact Except.onlyFails_ok _

theorem refuses_requireRange (field reason : String) (low high : ℤ) (value : PyInt) :
    Refuses (requireRange field reason low high value) := by
  unfold requireRange
  split_ifs
  · exact refuses_invalidArgument _ _
  · exact Except.onlyFails_ok _

theorem refuses_validateIsduLength (dataType : String) (length : PyInt) :
    Refuses (validateIsduLength dataType length) := by
  unfold validateIsduLength
  split
  · exact Except.onlyFails_ok _
  · split_ifs
    · exact refuses_invalidArgument _ _
    · exact Except.onlyFails_ok _

omit [PyFloat F] in
theorem refuses_requireField (message : Message F) (field : String) :
    Refuses (requireField message field) := by
  unfold requireField
  split_ifs
  · exact Except.onlyFails_ok _
  · exact refuses_invalidArgument _ _

omit [PyFloat F] in
theorem refuses_fitPayload (g : PayloadGateway) (message : Message F) (dataType : String)
    (length : PyInt) (payload : List Byte) :
    Refuses (fitPayload g message dataType length payload) := by
  unfold fitPayload
  split_ifs
  · dsimp only
    split_ifs
    · exact refuses_invalidArgument _ _
    · exact Except.onlyFails_ok _
  · exact Except.onlyFails_ok _

/-- **A write that makes no payload is refused.** -/
theorem refuses_writtenPayload [TruncRaises F] (g : PayloadGateway) (codec : Float32Codec F)
    {repr : Value F → String} {message : Message F}
    (hfloat : payloadType repr message ≠ "float32") :
    Refuses (writtenPayload g codec repr message) := by
  refine (refuses_requireField message "value").bind fun _ _ => ?_
  refine (refuses_parseIsduLength repr message _).bind fun length _ => ?_
  refine (refuses_requireRange _ _ _ _ _).bind fun _ _ => ?_
  refine (refuses_validateIsduLength _ _).bind fun _ _ => ?_
  have hencode := encodes_packPayload g codec repr (message.getD "value" .null) hfloat
  refine (refuses_asInvalidValue hencode _).bind fun payload _ => ?_
  split_ifs
  · exact refuses_invalidArgument _ _
  · exact refuses_fitPayload g message _ length payload

/-! ## Payloads -/

/-- The request gives no length, or one that the gateway allows and `size` bytes fit in. -/
def AdmitsSize (g : PayloadGateway) (repr : Value F → String) (message : Message F) (size : ℕ) :
    Prop :=
  size ≤ g.maxDataBytes ∧ ∀ value, message.get? "length" = some value →
    ∃ length, value.parsePyInt repr = .ok length ∧ size ≤ length.val ∧ length.val ≤ g.maxDataBytes

omit [PyFloat F] in
theorem asInvalidArgument_eq_ok {α : Type} {field reason : String} {x : Except PyExc α} {a : α} :
    asInvalidArgument field reason x = .ok a ↔ x = .ok a := by
  cases x with
  | ok b => exact Iff.rfl
  | error e =>
    unfold asInvalidArgument
    dsimp only
    split_ifs <;> simp

theorem asInvalidValue_eq_ok {α : Type} {dataType : String} {x : Except PyExc α} {a : α} :
    asInvalidValue dataType x = .ok a ↔ x = .ok a := by
  cases x with
  | ok b => exact Iff.rfl
  | error e =>
    unfold asInvalidValue
    dsimp only
    split_ifs <;> simp

omit [PyFloat F] in
/-- A length that is given is the one that is parsed. -/
theorem parseIsduLength_of_get {repr : Value F → String} {message : Message F} {dataType : String}
    {value : Value F} (h : message.get? "length" = some value) {length : PyInt} :
    parseIsduLength repr message dataType = .ok length ↔ value.parsePyInt repr = .ok length := by
  have hhas : message.has "length" = true := by rw [Message.has, h, Option.isSome_some]
  rw [parseIsduLength, if_pos hhas, parseSdoInt_of_get h, asInvalidArgument_eq_ok]

theorem requireRange_eq_ok_iff {field reason : String} {low high : ℤ} {value : PyInt} :
    requireRange field reason low high value = .ok () ↔ low ≤ value.val ∧ value.val ≤ high := by
  refine ⟨requireRange_eq_ok, fun ⟨hlow, hhigh⟩ => ?_⟩
  rw [requireRange, if_neg (by omega)]

omit [PyFloat F] in
/-- The payload of a type of bytes or texts has the length that is asked for. -/
theorem fitPayload_raw {g : PayloadGateway} {message : Message F} {dataType : String}
    {length : PyInt} {packed payload : List Byte} (hnonneg : 0 ≤ length.val)
    (hraw : isRawIsduType dataType = true) (hhas : message.has "length" = true) :
    fitPayload g message dataType length packed = .ok payload ↔
      packed.length ≤ length.val ∧
        payload = packed ++ List.replicate (length.val.toNat - packed.length) 0 := by
  rw [fitPayload, if_pos ⟨hraw, hhas⟩]
  dsimp only
  split_ifs with hlong
  · constructor
    · intro h
      cases h
    · rintro ⟨hle, -⟩
      omega
  · rw [Except.ok.injEq, eq_comm]
    exact ⟨fun h => ⟨by omega, h⟩, fun h => h.2⟩

omit [PyFloat F] in
theorem fitPayload_of_not {g : PayloadGateway} {message : Message F} {dataType : String}
    {length : PyInt} (packed : List Byte)
    (h : ¬ (isRawIsduType dataType = true ∧ message.has "length" = true)) :
    fitPayload g message dataType length packed = .ok packed := by
  rw [fitPayload, if_neg h]

/-- **What a write sends**: the bytes of the value, and zeros. -/
theorem writtenPayload_ok {g : PayloadGateway} {codec : Float32Codec F} {repr : Value F → String}
    {message : Message F} {payload : List Byte}
    (h : writtenPayload g codec repr message = .ok payload) :
    ∃ packed, packPayload g codec repr (message.getD "value" .null) (payloadType repr message) =
        .ok packed ∧
      payload.length ≤ g.maxDataBytes ∧ packed.length ≤ payload.length ∧
      payload = packed ++ List.replicate (payload.length - packed.length) 0 ∧
      (isRawIsduType (payloadType repr message) = false → payload = packed) ∧
      (isRawIsduType (payloadType repr message) = true → AdmitsSize g repr message packed.length ∧
        ∀ value, message.get? "length" = some value →
          ∃ length, value.parsePyInt repr = .ok length ∧ payload.length = length.val) := by
  obtain ⟨_, -, h⟩ := Except.bind_eq_ok.mp h
  obtain ⟨length, hlength, h⟩ := Except.bind_eq_ok.mp h
  obtain ⟨_, hrange, h⟩ := Except.bind_eq_ok.mp h
  obtain ⟨_, -, h⟩ := Except.bind_eq_ok.mp h
  obtain ⟨packed, hpacked, h⟩ := Except.bind_eq_ok.mp h
  obtain ⟨hnonneg, hmax⟩ := requireRange_eq_ok hrange
  refine ⟨packed, asInvalidValue_eq_ok.mp hpacked, ?_⟩
  split_ifs at h with hlimit
  rw [not_lt] at hlimit
  by_cases hboth : isRawIsduType (payloadType repr message) = true ∧ message.has "length" = true
  · obtain ⟨hraw, hhas⟩ := hboth
    obtain ⟨hfits, hpayload⟩ := (fitPayload_raw hnonneg hraw hhas).mp h
    have hsize : (payload.length : ℤ) = length.val := by
      rw [hpayload, List.length_append, List.length_replicate]
      omega
    refine ⟨by omega, by omega, ?_, fun hnot => by simp [hraw] at hnot, fun _ => ⟨⟨hlimit, ?_⟩, ?_⟩⟩
    · rw [show payload.length - packed.length = length.val.toNat - packed.length by omega]
      exact hpayload
    · intro value hvalue
      exact ⟨length, (parseIsduLength_of_get hvalue).mp hlength, hfits, hmax⟩
    · intro value hvalue
      exact ⟨length, (parseIsduLength_of_get hvalue).mp hlength, hsize⟩
  · rw [fitPayload_of_not packed hboth] at h
    obtain rfl := Except.ok.inj h
    have hnone : isRawIsduType (payloadType repr message) = true →
        message.get? "length" = none := by
      intro hraw
      by_contra hne
      exact hboth ⟨hraw, Option.isSome_iff_ne_none.mpr hne⟩
    refine ⟨hlimit, le_rfl, by simp, fun _ => rfl, fun hraw => ⟨⟨hlimit, ?_⟩, ?_⟩⟩
    · intro value hvalue
      rw [hnone hraw] at hvalue
      cases hvalue
    · intro value hvalue
      rw [hnone hraw] at hvalue
      cases hvalue

/-- A type of bytes or texts has no size of its own. -/
theorem isduDataSize_of_raw {dataType : String} (h : isRawIsduType dataType = true) :
    isduDataSize dataType = none := by
  simp only [isRawIsduType, List.mem_cons, List.not_mem_nil, or_false, decide_eq_true_eq] at h
  rcases h with rfl | rfl | rfl | rfl | rfl | rfl <;> rfl

omit [PyFloat F] in
/-- The length of a request that admits the payload. -/
theorem AdmitsSize.exists_length {g : PayloadGateway} {repr : Value F → String}
    {message : Message F} {size : ℕ} (h : AdmitsSize g repr message size) {dataType : String}
    (hraw : isRawIsduType dataType = true) :
    ∃ length, parseIsduLength repr message dataType = .ok length ∧ 0 ≤ length.val ∧
      length.val ≤ g.maxDataBytes ∧ (message.has "length" = true → size ≤ length.val) := by
  obtain ⟨hlimit, hlength⟩ := h
  cases hget : message.get? "length" with
  | none =>
    have hhas : message.has "length" = false := by rw [Message.has, hget, Option.isSome_none]
    refine ⟨.int 0, ?_, le_rfl, Int.natCast_nonneg _, fun h => by simp [hhas] at h⟩
    rw [parseIsduLength, hhas, if_neg Bool.false_ne_true, isduDataSize_of_raw hraw]
    rfl
  | some value =>
    obtain ⟨length, hparse, hsize, hmax⟩ := hlength value hget
    exact ⟨length, (parseIsduLength_of_get hget).mpr hparse, by omega, hmax, fun _ => hsize⟩

/-- Bytes and texts of an admitted size are sent. -/
theorem exists_writtenPayload {g : PayloadGateway} {codec : Float32Codec F}
    {repr : Value F → String} {message : Message F} {packed : List Byte}
    (hvalue : message.has "value" = true)
    (hraw : isRawIsduType (payloadType repr message) = true)
    (hpacked : packPayload g codec repr (message.getD "value" .null) (payloadType repr message) =
      .ok packed)
    (hsize : AdmitsSize g repr message packed.length) :
    ∃ payload, writtenPayload g codec repr message = .ok payload := by
  obtain ⟨length, hlength, hnonneg, hmax, hfits⟩ := hsize.exists_length hraw
  have hfield : requireField message "value" = .ok () := by rw [requireField, if_pos hvalue]
  have hrange : requireRange "length" g.outsideRange 0 g.maxDataBytes length = .ok () :=
    requireRange_eq_ok_iff.mpr ⟨hnonneg, hmax⟩
  have hvalid : validateIsduLength (payloadType repr message) length = .ok () := by
    rw [validateIsduLength, isduDataSize_of_raw hraw]
  have hencode : encodePayload g codec repr (message.getD "value" .null)
      (payloadType repr message) = .ok packed := asInvalidValue_eq_ok.mpr hpacked
  have hfit : ∃ payload, fitPayload g message (payloadType repr message) length packed =
      .ok payload := by
    by_cases hhas : message.has "length" = true
    · exact ⟨_, (fitPayload_raw hnonneg hraw hhas).mpr ⟨hfits hhas, rfl⟩⟩
    · exact ⟨packed, fitPayload_of_not packed fun h => hhas h.2⟩
  obtain ⟨payload, hfit⟩ := hfit
  exact ⟨payload, writtenPayload_of_fields hfield hlength hrange hvalid hencode
    (not_lt.mpr hsize.1) hfit⟩

/-- A payload is sent for a value only. -/
theorem has_value_of_writtenPayload {g : PayloadGateway} {codec : Float32Codec F}
    {repr : Value F → String} {message : Message F} {payload : List Byte}
    (h : writtenPayload g codec repr message = .ok payload) : message.has "value" = true := by
  obtain ⟨_, hfield, -⟩ := Except.bind_eq_ok.mp h
  unfold requireField at hfield
  split_ifs at hfield with hhas
  exact hhas

end MotionServer
