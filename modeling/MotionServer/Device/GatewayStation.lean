import MotionServer.Device.CpxStation
import MotionServer.Device.OdValueCodec
import MotionServer.Lib.Prog

/-!
# The gateways of a virtual station

A CPX-AP station passes parameter accesses on to its modules and to their IO-Link devices. An access
object takes the fields of a request one by one; a write of its direction runs the request.

* `AccessObject`, `apObject`, `isduObject`: the access objects, as the ESI file types them;
* `dispatchGatewayRequest`, `stationModelUpdate`: what a write of the station leads to;
* `stationWriteSdo`, `stationReadSdo`, `stationExchange`: the accesses of a master;
* `AccessView`, `Carries`: what an access object holds;
* **`stationWriteSdo_field`**, **`stationWriteSdo_direction`**: what its writes do.
-/

namespace MotionServer

/-! ## Access objects -/

/-- The unsigned types of the fields of an access object. -/
inductive UintWidth
  | usint
  | uint
  | udint
  deriving DecidableEq

namespace UintWidth

def bytes : UintWidth → ℕ
  | usint => 1
  | uint => 2
  | udint => 4

def name : UintWidth → String
  | usint => "USINT"
  | uint => "UINT"
  | udint => "UDINT"

end UintWidth

/-- What an access object holds when its direction is written. -/
structure AccessFields where
  direction : ℤ
  first : ℤ
  second : ℤ
  third : ℤ
  length : ℤ
  data : List Byte

/-- The request that a gateway gets. -/
inductive GatewayRequest
  | ap (direction apAccessModule module parameterId inst length : ℤ) (data : List Byte)
  | isdu (direction module port index subindex length : ℤ) (data : List Byte)
  deriving DecidableEq

/-- An access object of the station: its subindices 2 to 4 address a parameter, 6 and 7 hold the
length and the data, 1 is the direction and 5 the status. -/
structure AccessObject where
  index : ℕ
  first : UintWidth
  second : UintWidth
  third : UintWidth
  length : UintWidth
  dataType : String
  dataBytes : ℕ
  request : AccessFields → GatewayRequest
  isByteArray : isByteArrayType (normalizeOdDataType dataType) = true
  dataBytes_lt : dataBytes < 256 ^ length.bytes

/-- `AP_ACCESS_INDEX`, and `_dispatch_ap_request`. -/
def apObject : AccessObject where
  index := 0x27F0
  first := .uint
  second := .udint
  third := .uint
  length := .uint
  dataType := "ARRAY [0..511] OF BYTE"
  dataBytes := 512
  request f := .ap f.direction f.first (max 0 (f.first - 1)) f.second f.third f.length f.data
  isByteArray := by decide +kernel
  dataBytes_lt := by decide

/-- `isdu_access_object_index`, and `_dispatch_isdu_request`. -/
def isduObject (indexStride slot : ℕ) : AccessObject where
  index := 0x2001 + slot * indexStride
  first := .usint
  second := .uint
  third := .usint
  length := .usint
  dataType := "ARRAY [0..237] OF BYTE"
  dataBytes := 238
  request f := .isdu f.direction slot f.first f.second f.third f.length f.data
  isByteArray := by decide +kernel
  dataBytes_lt := by decide

namespace AccessObject

variable (o : AccessObject)

/-- The type of a subindex in the ESI file. -/
def typeName : ℕ → String
  | 1 => "DT0848EN08"
  | 2 => o.first.name
  | 3 => o.second.name
  | 4 => o.third.name
  | 5 => "UINT"
  | 6 => o.length.name
  | _ => o.dataType

/-- The bytes of a field. -/
def width : ℕ → ℕ
  | 2 => o.first.bytes
  | 3 => o.second.bytes
  | 4 => o.third.bytes
  | 5 => 2
  | 6 => o.length.bytes
  | _ => 1

def definition (subindex : ℕ) : VirtualOdDefinition :=
  ⟨o.typeName subindex, if subindex = 5 then "ro" else "rw"⟩

end AccessObject

/-! ## The station -/

variable {F G : Type} [PyFloat F]

/-- What an access to a device ends with: a Python exception, or one of the failures of the device. -/
inductive AccessFailure
  | python (e : PyExc)
  | objectNotFound (index subindex : ℕ)
  | rejected (operation : String) (deviceCode : Option ℤ)
  | timedOut (operation : String)
  deriving DecidableEq

def AccessFailure.ofSdo : SdoFailure → AccessFailure
  | .objectNotFound index subindex => .objectNotFound index subindex
  | .rejected operation => .rejected operation none
  | .python e => .python e

/-- An exception of Python in an access. -/
def inAccess {α : Type} : Except PyExc α → Except AccessFailure α
  | .ok a => .ok a
  | .error e => .error (.python e)

/-- What a gateway answers. -/
structure GatewayResponse where
  status : Option ℤ
  data : Option (List Byte)

/-- The configuration of a station, and the gateways that are set up for it: outside the program. -/
structure StationConfig (F G : Type) [PyFloat F] where
  codec : Float32Codec F
  repr : OdEntryValue F → String
  modules : List CPXApModule
  rx : FixedPdo
  tx : FixedPdo
  indexStride : ℕ
  answer : GatewayRequest → Prog PyExc G (Option GatewayResponse)

/-- `_gateway_response` of a station without a gateway. -/
def noGateway (_ : GatewayRequest) : Prog PyExc G (Option GatewayResponse) :=
  pure (some ⟨some 0, some []⟩)

/-- The access objects, in the order in which a write is looked up among them. -/
def StationConfig.objects (c : StationConfig F G) : List AccessObject :=
  apObject :: (c.modules.filter fun m => m.moduleType = .iol).map fun m =>
    isduObject c.indexStride m.slot

/-- `VirtualCpxApDevice` with its object dictionary, its modules, and what is behind its gateways. -/
structure GatewayStation (F G : Type) where
  od : VirtualOd F
  lastWriteKey : Option (ℕ × ℕ)
  inputs : ℕ → ChannelValues
  outputs : ℕ → ChannelValues
  outside : G

/-- A program of the station. -/
abbrev Station (F G α : Type) := Prog AccessFailure (GatewayStation F G) α

/-- `od.read`. -/
def readOd (index subindex : ℕ) : Station F G (OdEntryValue F) := do
  let s ← Prog.get
  match s.od (index, subindex) with
  | some (_, value) => pure value
  | none => throw (.python .keyError)

/-- `int(od.read(...))`. -/
def readOdInt (index subindex : ℕ) : Station F G ℤ := do
  let value ← readOd index subindex
  Prog.lift (inAccess value.toInt)

/-- `bytes(od.read(...))`. -/
def readOdBytes (index subindex : ℕ) : Station F G (List Byte) := do
  let value ← readOd index subindex
  Prog.lift (inAccess value.toBytes)

/-- `od.write_internal`. -/
def writeInternal (index subindex : ℕ) (value : OdEntryValue F) : Station F G Unit := do
  let s ← Prog.get
  match s.od (index, subindex) with
  | some (definition, _) => Prog.modify fun s => { s with
      od := Function.update s.od (index, subindex) (some (definition, value)) }
  | none => throw (.python .keyError)

/-- `data[:length]`. -/
def takeTo (data : List Byte) (length : ℤ) : List Byte :=
  data.take (if 0 ≤ length then length else data.length + length).toNat

/-- The fields of a request, in the order in which they are read. -/
def readFields (o : AccessObject) : Station F G AccessFields := do
  let length ← readOdInt o.index 6
  let direction ← readOdInt o.index 1
  let first ← readOdInt o.index 2
  let second ← readOdInt o.index 3
  let third ← readOdInt o.index 4
  let data ← readOdBytes o.index 7
  pure ⟨direction, first, second, third, length, takeTo data length⟩

/-- `_gateway_response`. -/
def gatewayResponse (c : StationConfig F G) (request : GatewayRequest) :
    Station F G GatewayResponse := fun s =>
  let response := (c.answer request s.outside).1
  (inAccess (response.map fun r => r.getD ⟨none, none⟩),
    { s with outside := (c.answer request s.outside).2 })

/-- `_apply_gateway_response`. -/
def applyGatewayResponse (o : AccessObject) (response : GatewayResponse) : Station F G Unit := do
  let payload := response.data.getD []
  let current ← readOdBytes o.index 7
  Prog.raiseIf (current.length < payload.length) (.python .valueError)
  writeInternal o.index 5 (.number (.int (response.status.getD 0)))
  writeInternal o.index 6 (.number (.int payload.length))
  writeInternal o.index 7
    (.bytes (payload ++ List.replicate (current.length - payload.length) 0))

/-- `_dispatch_gateway_request`. -/
def dispatchGatewayRequest (c : StationConfig F G) : Station F G Unit := do
  let s ← Prog.get
  match c.objects.find? fun o => s.lastWriteKey = some (o.index, 1) with
  | none => pure ()
  | some o =>
    let fields ← readFields o
    let response ← gatewayResponse c (o.request fields)
    applyGatewayResponse o response

/-- The bytes of the objects. -/
def odBytes (od : VirtualOd F) (key : ℕ × ℕ) : List Byte :=
  match od key with
  | some (_, .bytes payload) => payload
  | _ => []

/-- The object dictionary with other bytes in some blocks. -/
def withBlocks (od : VirtualOd F) (blocks : List CPXPdoBlock) (image : ℕ × ℕ → List Byte) :
    VirtualOd F := fun key =>
  if key ∈ blocks.map CPXPdoBlock.key then
    (od key).map fun entry => (entry.1, .bytes (image key))
  else od key

/-- `model_update`. -/
def stationModelUpdate (c : StationConfig F G) : Station F G Unit := do
  dispatchGatewayRequest c
  Prog.modify fun s => { s with
    outputs := readModules CPXApModule.outputRegion
      (readProcessImage c.rx.blocks (odBytes s.od)) c.modules s.outputs }
  let s ← Prog.get
  let inputImage ← Prog.lift (inAccess (publishInputImages c.tx.byteSize c.modules s.inputs))
  Prog.modify fun s => { s with
    od := withBlocks s.od c.tx.blocks
      (writeProcessImage inputImage c.tx.blocks (odBytes s.od)) }

/-- `MockSlave.write_sdo`. -/
def stationWriteSdo (c : StationConfig F G) (index subindex : ℕ) (payload : List Byte) :
    Station F G Unit := do
  let s ← Prog.get
  match VirtualOdBridge.writeSdo c.codec s.od index subindex payload with
  | .error e => throw (.ofSdo e)
  | .ok od =>
    Prog.modify fun s => { s with
      od := od
      lastWriteKey := some (index, subindex) }
    stationModelUpdate c

/-- `MockSlave.read_sdo`. -/
def stationReadSdo (c : StationConfig F G) (index subindex size : ℕ) :
    Station F G (List Byte) := do
  let s ← Prog.get
  match VirtualOdBridge.readSdo c.codec c.repr s.od index subindex size with
  | .error e => throw (.ofSdo e)
  | .ok payload => pure payload

/-- `rxpdo_payload_to_od`, for blocks. -/
def writeRxBlocks : (payload : List Byte) → List CPXPdoBlock → Station F G Unit
  | _, [] => pure ()
  | payload, block :: blocks => do
    Prog.raiseIf (payload.length < block.byteLength) (.python .valueError)
    writeInternal block.index block.subindex (.bytes (payload.take block.byteLength))
    Prog.modify fun s => { s with lastWriteKey := some block.key }
    writeRxBlocks (payload.drop block.byteLength) blocks

/-- `MockSlave.exchange_processdata`. -/
def stationExchange (c : StationConfig F G) (outputPayload : List Byte) :
    Station F G (List Byte) := do
  writeRxBlocks outputPayload c.rx.blocks
  stationModelUpdate c
  let s ← Prog.get
  pure (odToTxpdoBlocks c.tx.blocks (odBytes s.od))

/-! ## What an access object holds -/

/-- The values of an access object. -/
structure AccessView where
  direction : ℤ
  first : ℤ
  second : ℤ
  third : ℤ
  status : ℤ
  length : ℤ
  data : List Byte

namespace AccessView

variable (v : AccessView)

def entry : ℕ → OdEntryValue F
  | 1 => .number (.int v.direction)
  | 2 => .number (.int v.first)
  | 3 => .number (.int v.second)
  | 4 => .number (.int v.third)
  | 5 => .number (.int v.status)
  | 6 => .number (.int v.length)
  | _ => .bytes v.data

/-- The values after a write of a number. -/
def set (subindex : ℕ) (i : ℤ) : AccessView :=
  match subindex with
  | 1 => { v with direction := i }
  | 2 => { v with first := i }
  | 3 => { v with second := i }
  | 4 => { v with third := i }
  | 5 => { v with status := i }
  | 6 => { v with length := i }
  | _ => v

/-- The fields of the request that a write of the direction runs. -/
def fields : AccessFields :=
  ⟨v.direction, v.first, v.second, v.third, v.length, takeTo v.data v.length⟩

end AccessView

/-- The object dictionary has the access object, with the values. -/
def Carries (od : VirtualOd F) (o : AccessObject) (v : AccessView) : Prop :=
  ∀ subindex, 1 ≤ subindex → subindex ≤ 7 →
    od (o.index, subindex) = some (o.definition subindex, v.entry subindex)

section Carries

variable {od od' : VirtualOd F} {o o' : AccessObject} {v v' : AccessView} {subindex : ℕ}

omit [PyFloat F]

/-- A write of one subindex. -/
theorem Carries.update (h : Carries od o v) {value : OdEntryValue F} (hvalue : v'.entry subindex = value)
    (hkept : ∀ k, k ≠ subindex → 1 ≤ k → k ≤ 7 → v'.entry (F := F) k = v.entry k) :
    Carries (Function.update od (o.index, subindex) (some (o.definition subindex, value))) o v' := by
  intro k hlow hhigh
  by_cases hk : k = subindex
  · rw [hk, Function.update_self, hvalue]
  · have hne : (o.index, k) ≠ (o.index, subindex) := fun heq => hk (Prod.mk.inj heq).2
    rw [Function.update_of_ne hne, h k hlow hhigh, hkept k hk hlow hhigh]

theorem Carries.set (h : Carries od o v) (hlow : 1 ≤ subindex) (hhigh : subindex ≤ 6) (i : ℤ) :
    Carries (Function.update od (o.index, subindex)
      (some (o.definition subindex, .number (.int i)))) o (v.set subindex i) := by
  apply h.update
  · interval_cases subindex <;> rfl
  · intro k hk hlow' hhigh'
    interval_cases subindex <;> interval_cases k <;> first | rfl | exact absurd rfl hk

theorem Carries.setData (h : Carries od o v) (data : List Byte) :
    Carries (Function.update od (o.index, 7) (some (o.definition 7, .bytes data))) o
      { v with data := data } := by
  apply h.update
  · rfl
  · intro k hk hlow hhigh
    interval_cases k <;> first | rfl | exact absurd rfl hk

theorem Carries.congr (h : Carries od o v) (hkept : ∀ k, od' (o.index, k) = od (o.index, k)) :
    Carries od' o v := by
  intro k hlow hhigh
  rw [hkept k]
  exact h k hlow hhigh

end Carries

/-! ## The types of the fields -/

/-- An integer type of a width, unsigned. -/
def UnsignedName (dataType : String) (width : ℕ) : Prop :=
  IntegerName dataType ∧ 0 < width ∧
    ∀ type ∈ DataType.ofName? (normalizeOdDataType dataType), type.format = .integer false width

instance (dataType : String) (width : ℕ) : Decidable (UnsignedName dataType width) :=
  inferInstanceAs (Decidable (_ ∧ _ ∧ _))

theorem UintWidth.unsignedName (width : UintWidth) : UnsignedName width.name width.bytes := by
  cases width <;> decide +kernel

/-- **A number in range goes through the codec and back.** -/
theorem UnsignedName.codec (codec : Float32Codec F) (repr : OdEntryValue F → String)
    {dataType : String} {width : ℕ} (h : UnsignedName dataType width) {i : ℤ}
    (hi : Bytes.Fits false width i) :
    encodeNamedValue codec repr dataType (.number (.int i)) (some width) =
        .ok (Bytes.ofIntLE width i) ∧
      decodeNamedValue codec dataType (Bytes.ofIntLE width i) = .ok (.number (.int i)) := by
  obtain ⟨hname, hpos, htype⟩ := h
  have hread : Bytes.toInt false (Bytes.ofIntLE width i) = i := Bytes.toInt_ofIntLE hpos hi
  cases hformat : DataType.ofName? (normalizeOdDataType dataType) with
  | some type =>
    have hwidth := htype type hformat
    have hrange : InRange codec type (.int i) := by
      unfold InRange
      rw [hwidth]
      exact hi
    obtain ⟨bytes, hencode, -, hdecode⟩ := decode_encode hrange
    have hbytes : Bytes.ofIntLE width i = bytes := by
      unfold encodeOdValue structPack at hencode
      rw [hwidth] at hencode
      dsimp only at hencode
      rw [OdValue.toInt, Except.ok_bind, if_pos hi] at hencode
      exact Except.ok.inj hencode
    rw [hbytes]
    constructor
    · rw [encode_integer hname, hformat, encodeNumber_width, hencode]
    · rw [decode_width hname hformat, hdecode]
      rfl
  | none =>
    have hneg : ¬ i < 0 := not_lt.mpr hi.1
    constructor
    · rw [encode_integer hname, hformat]
      show intToBytes width i = _
      unfold intToBytes
      rw [decide_eq_false hneg, if_pos hi]
    · rw [decode_fallback hname hformat]
      change Except.ok (OdEntryValue.number (OdValue.int (Bytes.toInt false _))) = _
      rw [hread]

theorem AccessObject.unsignedName (o : AccessObject) {subindex : ℕ} (hlow : 1 ≤ subindex)
    (hhigh : subindex ≤ 6) : UnsignedName (o.typeName subindex) (o.width subindex) := by
  interval_cases subindex
  · exact (by decide +kernel : UnsignedName "DT0848EN08" 1)
  · exact o.first.unsignedName
  · exact o.second.unsignedName
  · exact o.third.unsignedName
  · exact UintWidth.uint.unsignedName
  · exact o.length.unsignedName

/-! ## Requests of the station -/

section Requests

variable {c : StationConfig F G} {o : AccessObject} {v : AccessView} {s : GatewayStation F G}

theorem readOdInt_run (h : Carries s.od o v) {subindex : ℕ} (hlow : 1 ≤ subindex)
    (hhigh : subindex ≤ 7) {i : ℤ} (hentry : v.entry (F := F) subindex = .number (.int i)) :
    readOdInt o.index subindex s = (.ok i, s) := by
  unfold readOdInt readOd
  rw [Prog.bind_run, Prog.bind_run_ok (Prog.get_run s), h subindex hlow hhigh, hentry]
  rfl

omit [PyFloat F] in
theorem readOdBytes_run (h : Carries s.od o v) : readOdBytes o.index 7 s = (.ok v.data, s) := by
  unfold readOdBytes readOd
  rw [Prog.bind_run, Prog.bind_run_ok (Prog.get_run s), h 7 (by decide) (by decide)]
  rfl

/-- The fields of a request are those that the object holds. -/
theorem readFields_run (h : Carries s.od o v) : readFields o s = (.ok v.fields, s) := by
  unfold readFields
  rw [Prog.bind_run_ok (readOdInt_run h (by decide) (by decide) rfl),
    Prog.bind_run_ok (readOdInt_run h (by decide) (by decide) rfl),
    Prog.bind_run_ok (readOdInt_run h (by decide) (by decide) rfl),
    Prog.bind_run_ok (readOdInt_run h (by decide) (by decide) rfl),
    Prog.bind_run_ok (readOdInt_run h (by decide) (by decide) rfl),
    Prog.bind_run_ok (readOdBytes_run h)]
  rfl

omit [PyFloat F] in
theorem writeInternal_run {index subindex : ℕ} {definition : VirtualOdDefinition}
    {old value : OdEntryValue F} (h : s.od (index, subindex) = some (definition, old)) :
    writeInternal index subindex value s = (.ok (), { s with
      od := Function.update s.od (index, subindex) (some (definition, value)) }) := by
  unfold writeInternal
  rw [Prog.bind_run_ok (Prog.get_run s), h]
  rfl

/-- The values after a response. -/
def AccessView.answered (v : AccessView) (status : ℤ) (payload : List Byte) : AccessView :=
  { v with
    status := status
    length := payload.length
    data := payload ++ List.replicate (v.data.length - payload.length) 0 }

omit [PyFloat F] in
/-- A response that has room in the object is written to it, and to no other object. -/
theorem applyGatewayResponse_run (h : Carries s.od o v) {response : GatewayResponse}
    (hroom : (response.data.getD []).length ≤ v.data.length) :
    ∃ od, applyGatewayResponse o response s = (.ok (), { s with od := od }) ∧
      Carries od o (v.answered (response.status.getD 0) (response.data.getD [])) ∧
      ∀ key, key.1 ≠ o.index → od key = s.od key := by
  have h₅ := h.set (by decide : 1 ≤ 5) (by decide) (response.status.getD 0)
  have h₆ := h₅.set (by decide : 1 ≤ 6) (by decide) (response.data.getD []).length
  refine ⟨_, ?_, h₆.setData (response.data.getD [] ++
    List.replicate (v.data.length - (response.data.getD []).length) 0), ?_⟩
  · unfold applyGatewayResponse
    rw [Prog.bind_run_ok (readOdBytes_run h),
      Prog.bind_run_ok (Prog.raiseIf_eq_ok (u := ()) |>.mpr ⟨not_lt.mpr hroom, rfl⟩),
      Prog.bind_run_ok (writeInternal_run (h 5 (by decide) (by decide))),
      Prog.bind_run_ok (writeInternal_run (h₅ 6 (by decide) (by decide)))]
    exact writeInternal_run (h₆ 7 (by decide) (by decide))
  · intro key hkey
    have hne : ∀ k, key ≠ (o.index, k) := fun k heq => hkey (congrArg Prod.fst heq)
    rw [Function.update_of_ne (hne 7), Function.update_of_ne (hne 6), Function.update_of_ne (hne 5)]

omit [PyFloat F] in
/-- A response without room is refused. -/
theorem applyGatewayResponse_overlong (h : Carries s.od o v) {response : GatewayResponse}
    (hlong : v.data.length < (response.data.getD []).length) :
    applyGatewayResponse o response s = (.error (.python .valueError), s) := by
  unfold applyGatewayResponse
  rw [Prog.bind_run_ok (readOdBytes_run h), Prog.bind_run, Prog.raiseIf_run, if_pos hlong]

/-- The station with its modules brought up to date. -/
def GatewayStation.refreshed (s : GatewayStation F G) (c : StationConfig F G) (image : List Byte) :
    GatewayStation F G :=
  { s with
    outputs := readModules CPXApModule.outputRegion
      (readProcessImage c.rx.blocks (odBytes s.od)) c.modules s.outputs
    od := withBlocks s.od c.tx.blocks (writeProcessImage image c.tx.blocks (odBytes s.od)) }

theorem stationModelUpdate_run {s₁ : GatewayStation F G} {image : List Byte}
    (hdispatch : dispatchGatewayRequest c s = (.ok (), s₁))
    (himage : publishInputImages c.tx.byteSize c.modules s₁.inputs = .ok image) :
    stationModelUpdate c s = (.ok (), s₁.refreshed c image) := by
  unfold stationModelUpdate
  rw [Prog.bind_run_ok hdispatch, Prog.bind_run_ok (Prog.modify_run _ s₁),
    Prog.bind_run_ok (Prog.get_run _)]
  dsimp only
  rw [himage]
  rfl

theorem stationModelUpdate_error {s₁ : GatewayStation F G} {e : AccessFailure}
    (hdispatch : dispatchGatewayRequest c s = (.error e, s₁)) :
    stationModelUpdate c s = (.error e, s₁) := by
  unfold stationModelUpdate
  rw [Prog.bind_run_error hdispatch]

/-- A write of anything but a direction runs no request. -/
theorem dispatchGatewayRequest_run_of_ne
    (h : ∀ o ∈ c.objects, s.lastWriteKey ≠ some (o.index, 1)) :
    dispatchGatewayRequest c s = (.ok (), s) := by
  have hnone : c.objects.find? (fun o => s.lastWriteKey = some (o.index, 1)) = none := by
    apply List.find?_eq_none.mpr
    intro o ho
    rw [decide_eq_true_eq]
    exact h o ho
  unfold dispatchGatewayRequest
  rw [Prog.bind_run_ok (Prog.get_run s), hnone]
  rfl

/-- A write of the direction of an object runs the request of the object. -/
theorem dispatchGatewayRequest_run (hindices : (c.objects.map (·.index)).Nodup)
    (ho : o ∈ c.objects) (hkey : s.lastWriteKey = some (o.index, 1)) (h : Carries s.od o v) :
    dispatchGatewayRequest c s = (do
      let response ← gatewayResponse c (o.request v.fields)
      applyGatewayResponse o response : Station F G Unit) s := by
  have hfind : c.objects.find? (fun o => s.lastWriteKey = some (o.index, 1)) = some o := by
    cases hfound : c.objects.find? (fun o => s.lastWriteKey = some (o.index, 1)) with
    | none =>
      have hne := List.find?_eq_none.mp hfound o ho
      rw [decide_eq_true_eq] at hne
      exact absurd hkey hne
    | some o' =>
      have hkey' := List.find?_some hfound
      rw [decide_eq_true_eq, hkey] at hkey'
      have hindex : o'.index = o.index := (Prod.mk.inj (Option.some.inj hkey')).1.symm
      rw [List.inj_on_of_nodup_map hindices (List.mem_of_find?_eq_some hfound) ho hindex]
  unfold dispatchGatewayRequest
  rw [Prog.bind_run_ok (Prog.get_run s), hfind]
  exact Prog.bind_run_ok (readFields_run h)

end Requests

/-! ## Writes of a master -/

/-- The modules and the access objects are apart from one another, the access objects from the
process image, and its outputs from its inputs; there are outputs. -/
structure StationConfig.Sound (c : StationConfig F G) : Prop where
  slots_nodup : (c.modules.map CPXApModule.slot).Nodup
  indices_nodup : (c.objects.map (·.index)).Nodup
  blocks_apart : ∀ o ∈ c.objects, ∀ block ∈ c.rx.blocks ++ c.tx.blocks, block.index ≠ o.index
  images_apart : ∀ block ∈ c.rx.blocks, block.key ∉ c.tx.blocks.map CPXPdoBlock.key
  rx_ne : c.rx.blocks ≠ []

/-- The modules can publish their inputs. -/
def StationConfig.Publishes (c : StationConfig F G) (inputs : ℕ → ChannelValues) : Prop :=
  ∃ image, publishInputImages c.tx.byteSize c.modules inputs = .ok image ∧
    image.length = c.tx.byteSize

/-- The image of the outputs. -/
def GatewayStation.rxImage (s : GatewayStation F G) (c : StationConfig F G) : List Byte :=
  readProcessImage c.rx.blocks (odBytes s.od)

/-- The modules have the outputs of the image. -/
def GatewayStation.Settled (s : GatewayStation F G) (c : StationConfig F G) : Prop :=
  readModules CPXApModule.outputRegion (s.rxImage c) c.modules s.outputs = s.outputs

/-- The object is an array of bytes. -/
def HasBytes (od : VirtualOd F) (key : ℕ × ℕ) : Prop :=
  ∃ definition payload, od key = some (definition, .bytes payload)

/-- The states differ in one access object, in what the modules publish, and outside. -/
structure Beside (c : StationConfig F G) (o : AccessObject) (s s' : GatewayStation F G) : Prop where
  inputs : s'.inputs = s.inputs
  outputs : s.Settled c → s'.outputs = s.outputs
  od : ∀ key, key.1 ≠ o.index → key ∉ c.tx.blocks.map CPXPdoBlock.key → s'.od key = s.od key
  hasBytes : ∀ key, key.1 ≠ o.index → HasBytes s.od key → HasBytes s'.od key
  none : ∀ key, key.1 ≠ o.index → s.od key = none → s'.od key = none

omit [PyFloat F] in
theorem withBlocks_of_notMem {od : VirtualOd F} {blocks : List CPXPdoBlock}
    {image : ℕ × ℕ → List Byte} {key : ℕ × ℕ} (h : key ∉ blocks.map CPXPdoBlock.key) :
    withBlocks od blocks image key = od key := if_neg h

section Writes

variable {c : StationConfig F G} {o : AccessObject} {v : AccessView} {s s' s'' : GatewayStation F G}

omit [PyFloat F] in
theorem readProcessImage_congr {blocks : List CPXPdoBlock} {od od' : VirtualOd F}
    (h : ∀ block ∈ blocks, od' block.key = od block.key) :
    readProcessImage blocks (odBytes od') = readProcessImage blocks (odBytes od) := by
  unfold readProcessImage
  apply List.flatMap_congr
  intro block hblock
  unfold odBytes
  rw [h block hblock]

theorem Beside.rxImage (h : Beside c o s s') (hc : c.Sound) (ho : o ∈ c.objects) :
    s'.rxImage c = s.rxImage c := by
  apply readProcessImage_congr
  intro block hblock
  apply h.od
  · exact hc.blocks_apart o ho block (List.mem_append_left _ hblock)
  · exact hc.images_apart block hblock

theorem Beside.settled (h : Beside c o s s') (hc : c.Sound) (ho : o ∈ c.objects)
    (hsettled : s.Settled c) : s'.Settled c := by
  unfold GatewayStation.Settled
  rw [h.rxImage hc ho, h.outputs hsettled]
  exact hsettled

theorem Beside.trans (h : Beside c o s s') (hc : c.Sound) (ho : o ∈ c.objects)
    (h' : Beside c o s' s'') : Beside c o s s'' where
  inputs := h'.inputs.trans h.inputs
  outputs hsettled := (h'.outputs (h.settled hc ho hsettled)).trans (h.outputs hsettled)
  od key hindex hblock := (h'.od key hindex hblock).trans (h.od key hindex hblock)
  hasBytes key hindex hbytes := h'.hasBytes key hindex (h.hasBytes key hindex hbytes)
  none key hindex hnone := h'.none key hindex (h.none key hindex hnone)

theorem Beside.refl (c : StationConfig F G) (o : AccessObject) (s : GatewayStation F G) :
    Beside c o s s where
  inputs := rfl
  outputs _ := rfl
  od _ _ _ := rfl
  hasBytes _ _ hbytes := hbytes
  none _ _ hnone := hnone

/-- Other objects are the same. -/
theorem Beside.of_frame (h : Beside c o s s') (hinputs : s''.inputs = s'.inputs)
    (houtputs : s''.outputs = s'.outputs)
    (hod : ∀ key, key.1 ≠ o.index → s''.od key = s'.od key) : Beside c o s s'' where
  inputs := hinputs.trans h.inputs
  outputs hsettled := houtputs.trans (h.outputs hsettled)
  od key hindex hblock := (hod key hindex).trans (h.od key hindex hblock)
  hasBytes key hindex hbytes := by
    unfold HasBytes
    rw [hod key hindex]
    exact h.hasBytes key hindex hbytes
  none key hindex hnone := (hod key hindex).trans (h.none key hindex hnone)

/-- The entries of an access object are no blocks of the process image. -/
theorem StationConfig.Sound.notMem (hc : c.Sound) (ho : o ∈ c.objects) (subindex : ℕ) :
    (o.index, subindex) ∉ c.tx.blocks.map CPXPdoBlock.key := by
  intro hmem
  obtain ⟨block, hblock, hkey⟩ := List.mem_map.mp hmem
  exact hc.blocks_apart o ho block (List.mem_append_right _ hblock) (congrArg Prod.fst hkey)

/-- Another access object holds what it held. -/
theorem Beside.carries {o' : AccessObject} {v' : AccessView} (h : Beside c o s s') (hc : c.Sound)
    (ho : o ∈ c.objects) (ho' : o' ∈ c.objects) (hne : o' ≠ o) (hcarries : Carries s.od o' v') :
    Carries s'.od o' v' := by
  refine hcarries.congr fun k => h.od _ (fun hindex => hne ?_) (hc.notMem ho' k)
  exact List.inj_on_of_nodup_map hc.indices_nodup ho' ho hindex

theorem carries_refreshed (hc : c.Sound) (ho : o ∈ c.objects) (h : Carries s.od o v)
    (image : List Byte) : Carries (s.refreshed c image).od o v :=
  h.congr fun k => withBlocks_of_notMem (hc.notMem ho k)

theorem beside_refreshed (c : StationConfig F G) (o : AccessObject) (s : GatewayStation F G)
    (image : List Byte) : Beside c o s (s.refreshed c image) where
  inputs := rfl
  outputs hsettled := hsettled
  od _ _ hblock := withBlocks_of_notMem hblock
  hasBytes key _ hbytes := by
    by_cases hblock : key ∈ c.tx.blocks.map CPXPdoBlock.key
    · obtain ⟨definition, payload, hentry⟩ := hbytes
      refine ⟨definition, writeProcessImage image c.tx.blocks (odBytes s.od) key, ?_⟩
      change withBlocks s.od c.tx.blocks _ key = _
      unfold withBlocks
      rw [if_pos hblock, hentry]
      rfl
    · unfold HasBytes
      rw [show (s.refreshed c image).od key = s.od key from withBlocks_of_notMem hblock]
      exact hbytes
  none key _ hnone := by
    change withBlocks s.od c.tx.blocks _ key = _
    unfold withBlocks
    split_ifs
    · rw [hnone]
      rfl
    · exact hnone

/-- The state of a station after a write to its object dictionary. -/
def GatewayStation.wrote (s : GatewayStation F G) (o : AccessObject) (subindex : ℕ)
    (value : OdEntryValue F) : GatewayStation F G :=
  { s with
    od := Function.update s.od (o.index, subindex) (some (o.definition subindex, value))
    lastWriteKey := some (o.index, subindex) }

theorem beside_wrote (c : StationConfig F G) (o : AccessObject) (s : GatewayStation F G)
    (subindex : ℕ) (value : OdEntryValue F) : Beside c o s (s.wrote o subindex value) :=
  (Beside.refl c o s).of_frame rfl rfl fun _ hindex =>
    Function.update_of_ne (fun heq => hindex (congrArg Prod.fst heq)) _ _

/-- A write to an access object, up to what follows from it. -/
theorem stationWriteSdo_eq (h : Carries s.od o v) {subindex : ℕ} (hlow : 1 ≤ subindex)
    (hhigh : subindex ≤ 7) (hwritable : subindex ≠ 5) {payload : List Byte} {value : OdEntryValue F}
    (hdecode : decodeNamedValue c.codec (o.typeName subindex) payload = .ok value) :
    stationWriteSdo c o.index subindex payload s =
      stationModelUpdate c (s.wrote o subindex value) := by
  have haccess : pyLower (o.definition subindex).access ≠ "ro" := by
    rw [AccessObject.definition, if_neg hwritable]
    exact (by decide +kernel : pyLower "rw" ≠ "ro")
  have hwrite : VirtualOdBridge.writeSdo c.codec s.od o.index subindex payload =
      .ok (s.wrote o subindex value).od := by
    unfold VirtualOdBridge.writeSdo
    rw [h subindex hlow hhigh]
    dsimp only
    rw [if_neg haccess, AccessObject.definition, hdecode]
    rfl
  unfold stationWriteSdo
  rw [Prog.bind_run_ok (Prog.get_run s), hwrite]
  rfl

/-- What a write that runs no request leads to. -/
theorem stationWriteSdo_quiet (hc : c.Sound) (ho : o ∈ c.objects) (hpublishes : c.Publishes s.inputs)
    (h : Carries s.od o v) {subindex : ℕ} (hlow : 2 ≤ subindex) (hhigh : subindex ≤ 7)
    (hwritable : subindex ≠ 5) {payload : List Byte} {value : OdEntryValue F}
    (hdecode : decodeNamedValue c.codec (o.typeName subindex) payload = .ok value) {v' : AccessView}
    (hv' : Carries (s.wrote o subindex value).od o v') :
    ∃ s', stationWriteSdo c o.index subindex payload s = (.ok (), s') ∧ Carries s'.od o v' ∧
      Beside c o s s' ∧ s'.outside = s.outside := by
  obtain ⟨image, himage, -⟩ := hpublishes
  rw [stationWriteSdo_eq h (by omega) hhigh hwritable hdecode]
  have hquiet : dispatchGatewayRequest c (s.wrote o subindex value) =
      (.ok (), s.wrote o subindex value) := by
    apply dispatchGatewayRequest_run_of_ne
    rintro o' - hkey
    have hsubindex : subindex = 1 := congrArg Prod.snd (Option.some.inj hkey)
    omega
  refine ⟨_, stationModelUpdate_run hquiet himage, carries_refreshed hc ho hv' image, ?_, rfl⟩
  exact (beside_wrote c o s subindex value).trans hc ho (beside_refreshed c o _ image)

/-- **A number that is written to a field is there.** -/
theorem stationWriteSdo_field (hc : c.Sound) (ho : o ∈ c.objects) (hpublishes : c.Publishes s.inputs)
    (h : Carries s.od o v) {subindex : ℕ} (hlow : 2 ≤ subindex) (hhigh : subindex ≤ 6)
    (hwritable : subindex ≠ 5) {i : ℤ} (hi : Bytes.Fits false (o.width subindex) i) :
    ∃ s', stationWriteSdo c o.index subindex (Bytes.ofIntLE (o.width subindex) i) s = (.ok (), s') ∧
      Carries s'.od o (v.set subindex i) ∧ Beside c o s s' ∧ s'.outside = s.outside :=
  stationWriteSdo_quiet hc ho hpublishes h hlow (by omega) hwritable
    ((o.unsignedName (by omega) hhigh).codec c.codec c.repr hi).2 (h.set (by omega) hhigh i)

/-- **Data that are written are there.** -/
theorem stationWriteSdo_data (hc : c.Sound) (ho : o ∈ c.objects) (hpublishes : c.Publishes s.inputs)
    (h : Carries s.od o v) (data : List Byte) :
    ∃ s', stationWriteSdo c o.index 7 data s = (.ok (), s') ∧
      Carries s'.od o { v with data := data } ∧ Beside c o s s' ∧ s'.outside = s.outside := by
  have hdecode : decodeNamedValue c.codec (o.typeName 7) data = .ok (.bytes data) := by
    unfold decodeNamedValue
    exact if_pos o.isByteArray
  exact stationWriteSdo_quiet hc ho hpublishes h (by decide) (by decide) (by decide) hdecode
    (h.setData data)

/-- What a gateway answers to a request, with the defaults of a missing answer. -/
def StationConfig.respond (c : StationConfig F G) (request : GatewayRequest) :
    Prog PyExc G (ℤ × List Byte) := do
  let response ← c.answer request
  let response := response.getD ⟨none, none⟩
  pure (response.status.getD 0, response.data.getD [])

/-- What the direction of an access object is written for: one request to the gateway, whose
response is held by the object afterwards. -/
inductive Answered (c : StationConfig F G) (o : AccessObject) (v : AccessView)
    (s s' : GatewayStation F G) : Except AccessFailure Unit → Prop
  | raised {e : PyExc} (hanswer : c.respond (o.request v.fields) s.outside = (.error e, s'.outside))
      (hcarries : Carries s'.od o v) : Answered c o v s s' (.error (.python e))
  | overlong {status : ℤ} {payload : List Byte}
      (hanswer : c.respond (o.request v.fields) s.outside = (.ok (status, payload), s'.outside))
      (hlong : v.data.length < payload.length) (hcarries : Carries s'.od o v) :
      Answered c o v s s' (.error (.python .valueError))
  | answered {status : ℤ} {payload : List Byte}
      (hanswer : c.respond (o.request v.fields) s.outside = (.ok (status, payload), s'.outside))
      (hroom : payload.length ≤ v.data.length)
      (hcarries : Carries s'.od o (v.answered status payload)) : Answered c o v s s' (.ok ())

/-- **A write of the direction runs one request,** with the fields that the object holds. -/
theorem stationWriteSdo_direction (hc : c.Sound) (ho : o ∈ c.objects)
    (hpublishes : c.Publishes s.inputs) (h : Carries s.od o v) {i : ℤ} (hi : Bytes.Fits false 1 i) :
    ∃ r s', stationWriteSdo c o.index 1 (Bytes.ofIntLE 1 i) s = (r, s') ∧
      Answered c o (v.set 1 i) s s' r ∧ Beside c o s s' := by
  obtain ⟨image, himage, -⟩ := hpublishes
  have hname : UnsignedName (o.typeName 1) 1 := o.unsignedName le_rfl (by decide)
  rw [stationWriteSdo_eq h le_rfl (by decide) (by decide)
    (hname.codec c.codec c.repr hi).2]
  let s₁ := s.wrote o 1 (.number (.int i))
  change ∃ r s', stationModelUpdate c s₁ = _ ∧ _
  have hset : Carries s₁.od o (v.set 1 i) := h.set le_rfl (by decide) i
  have hbeside : Beside c o s s₁ := beside_wrote c o s 1 (.number (.int i))
  have hdispatch := dispatchGatewayRequest_run hc.indices_nodup ho rfl hset
  cases hanswer : c.answer (o.request (v.set 1 i).fields) s.outside with
  | mk r g =>
    have hbeside₁ : Beside c o s { s₁ with outside := g } :=
      hbeside.of_frame rfl rfl fun _ _ => rfl
    cases r with
    | error e =>
      have hresponse : gatewayResponse c (o.request (v.set 1 i).fields) s₁ =
          (.error (.python e), { s₁ with outside := g }) := by
        unfold gatewayResponse
        change (inAccess ((c.answer _ s.outside).1.map _),
          { s₁ with outside := (c.answer _ s.outside).2 }) = _
        rw [hanswer]
        rfl
      rw [Prog.bind_run_error hresponse] at hdispatch
      refine ⟨_, _, stationModelUpdate_error hdispatch, .raised ?_ hset, hbeside₁⟩
      unfold StationConfig.respond
      rw [Prog.bind_run_error hanswer]
    | ok answer =>
      let response := answer.getD ⟨none, none⟩
      have hresponse : gatewayResponse c (o.request (v.set 1 i).fields) s₁ =
          (.ok response, { s₁ with outside := g }) := by
        unfold gatewayResponse
        change (inAccess ((c.answer _ s.outside).1.map _),
          { s₁ with outside := (c.answer _ s.outside).2 }) = _
        rw [hanswer]
        rfl
      have hrespond : c.respond (o.request (v.set 1 i).fields) s.outside =
          (.ok (response.status.getD 0, response.data.getD []), g) := by
        unfold StationConfig.respond
        rw [Prog.bind_run_ok hanswer]
        rfl
      have hset₁ : Carries { s₁ with outside := g }.od o (v.set 1 i) := hset
      rw [Prog.bind_run_ok hresponse] at hdispatch
      rcases lt_or_ge v.data.length (response.data.getD []).length with hlong | hroom
      · rw [applyGatewayResponse_overlong hset₁ hlong] at hdispatch
        exact ⟨_, _, stationModelUpdate_error hdispatch, .overlong hrespond hlong hset, hbeside₁⟩
      · obtain ⟨od, hrun, hcarries, hframe⟩ := applyGatewayResponse_run hset₁ hroom
        rw [hrun] at hdispatch
        have hbeside₂ : Beside c o s { s₁ with od := od, outside := g } :=
          hbeside.of_frame rfl rfl hframe
        exact ⟨_, _, stationModelUpdate_run hdispatch himage,
          .answered hrespond hroom (carries_refreshed hc ho hcarries image),
          hbeside₂.trans hc ho (beside_refreshed c o _ image)⟩

end Writes

/-! ## Reads of a master -/

section Reads

variable {c : StationConfig F G} {o : AccessObject} {v : AccessView} {s : GatewayStation F G}

/-- What the codec makes of an entry is what is read. -/
theorem stationReadSdo_eq (h : Carries s.od o v) {subindex : ℕ} (hlow : 1 ≤ subindex)
    (hhigh : subindex ≤ 7) (size : ℕ) :
    stationReadSdo c o.index subindex size s =
      (inAccess (encodeNamedValue c.codec c.repr (o.typeName subindex) (v.entry subindex)
        (some size)), s) := by
  unfold stationReadSdo VirtualOdBridge.readSdo
  rw [Prog.bind_run_ok (Prog.get_run s), h subindex hlow hhigh]
  dsimp only [AccessObject.definition]
  cases encodeNamedValue c.codec c.repr (o.typeName subindex) (v.entry subindex) (some size) <;> rfl

/-- **A number in range is read as it is held.** -/
theorem stationReadSdo_field (h : Carries s.od o v) {subindex : ℕ} (hlow : 1 ≤ subindex)
    (hhigh : subindex ≤ 6) {i : ℤ} (hentry : v.entry (F := F) subindex = .number (.int i))
    (hi : Bytes.Fits false (o.width subindex) i) :
    stationReadSdo c o.index subindex (o.width subindex) s =
      (.ok (Bytes.ofIntLE (o.width subindex) i), s) := by
  rw [stationReadSdo_eq h hlow (by omega), hentry, ((o.unsignedName hlow hhigh).codec c.codec c.repr hi).1]
  rfl

/-- A status out of range cannot be read. -/
theorem stationReadSdo_status (h : Carries s.od o v) (hstatus : ¬ Bytes.Fits false 2 v.status) :
    stationReadSdo c o.index 5 2 s = (.error (.python .structError), s) := by
  have hformat : DataType.ofName? (normalizeOdDataType "UINT") = some .uint16 := by decide +kernel
  have hencode : encodeNamedValue c.codec c.repr "UINT" (.number (.int v.status)) (some 2) =
      .error .structError := by
    rw [encode_integer (by decide +kernel), hformat, encodeNumber_width]
    exact if_neg hstatus
  rw [stationReadSdo_eq h (by decide) (by decide)]
  change (inAccess (encodeNamedValue c.codec c.repr "UINT" (.number (.int v.status)) (some 2)), s) = _
  rw [hencode]
  rfl

/-- **The data are read as they are held.** -/
theorem stationReadSdo_data (h : Carries s.od o v) (hlength : v.data.length = o.dataBytes) :
    stationReadSdo c o.index 7 o.dataBytes s = (.ok v.data, s) := by
  have hencode : encodeNamedValue c.codec c.repr o.dataType (.bytes v.data) (some o.dataBytes) =
      .ok v.data := by
    unfold encodeNamedValue
    rw [if_pos o.isByteArray]
    change Except.ok (v.data.take o.dataBytes ++ List.replicate (o.dataBytes - v.data.length) 0) = _
    rw [List.take_of_length_le hlength.le, hlength, Nat.sub_self, List.replicate_zero,
      List.append_nil]
  rw [stationReadSdo_eq h (by decide) (by decide)]
  change (inAccess (encodeNamedValue c.codec c.repr o.dataType (.bytes v.data) (some o.dataBytes)),
    s) = _
  rw [hencode]
  rfl

end Reads

/-! ## Exchanges of a master -/

/-- The blocks of the process image are arrays of bytes. -/
def GatewayStation.HasImage (s : GatewayStation F G) (c : StationConfig F G) : Prop :=
  ∀ block ∈ c.rx.blocks ++ c.tx.blocks, HasBytes s.od block.key

section Exchanges

variable {c : StationConfig F G} {s : GatewayStation F G}

omit [PyFloat F] in
theorem odBytes_update (od : VirtualOd F) (key : ℕ × ℕ) (definition : VirtualOdDefinition)
    (payload : List Byte) :
    odBytes (Function.update od key (some (definition, .bytes payload))) =
      Function.update (odBytes od) key payload := by
  funext key'
  unfold odBytes
  by_cases hkey : key' = key
  · subst hkey
    rw [Function.update_self, Function.update_self]
  · rw [Function.update_of_ne hkey, Function.update_of_ne hkey]

omit [PyFloat F] in
theorem HasBytes.update {od : VirtualOd F} {key : ℕ × ℕ} (h : HasBytes od key) (key' : ℕ × ℕ)
    (definition : VirtualOdDefinition) (payload : List Byte) :
    HasBytes (Function.update od key' (some (definition, .bytes payload))) key := by
  by_cases hkey : key = key'
  · subst hkey
    exact ⟨definition, payload, Function.update_self ..⟩
  · unfold HasBytes
    rw [Function.update_of_ne hkey]
    exact h

omit [PyFloat F] in
/-- A payload with room for the blocks is written to them, and the last of them is the last write. -/
theorem writeRxBlocks_run {blocks : List CPXPdoBlock} {payload : List Byte}
    (hbytes : ∀ block ∈ blocks, HasBytes s.od block.key)
    (hlength : (blocks.map CPXPdoBlock.byteLength).sum ≤ payload.length) :
    ∃ od key, writeRxBlocks payload blocks s = (.ok (), { s with
        od := od
        lastWriteKey := key }) ∧
      odBytes od = writeProcessImage payload blocks (odBytes s.od) ∧
      (∀ k, k ∉ blocks.map CPXPdoBlock.key → od k = s.od k) ∧
      (∀ k, HasBytes s.od k → HasBytes od k) ∧
      (key = s.lastWriteKey ∧ blocks = [] ∨ ∃ block ∈ blocks, key = some block.key) := by
  induction blocks generalizing payload s with
  | nil => exact ⟨s.od, s.lastWriteKey, rfl, rfl, fun _ _ => rfl, fun _ h => h, Or.inl ⟨rfl, rfl⟩⟩
  | cons block blocks ih =>
    rw [List.map_cons, List.sum_cons] at hlength
    obtain ⟨definition, old, hentry⟩ := hbytes block List.mem_cons_self
    let written := payload.take block.byteLength
    let s₁ : GatewayStation F G := { s with
      od := Function.update s.od block.key (some (definition, .bytes written))
      lastWriteKey := some block.key }
    have hbytes₁ : ∀ k, HasBytes s.od k → HasBytes s₁.od k := fun k hk => hk.update ..
    have hrest : (blocks.map CPXPdoBlock.byteLength).sum ≤
        (payload.drop block.byteLength).length := by
      rw [List.length_drop]
      omega
    obtain ⟨od, key, hrun, himage, hframe, hkept, hkey⟩ := ih (s := s₁)
      (fun block' hblock' => hbytes₁ _ (hbytes block' (List.mem_cons_of_mem _ hblock'))) hrest
    refine ⟨od, key, ?_, ?_, ?_, fun k hk => hkept k (hbytes₁ k hk), Or.inr ?_⟩
    · unfold writeRxBlocks
      rw [Prog.bind_run_ok (Prog.raiseIf_eq_ok (u := ()) |>.mpr ⟨by omega, rfl⟩),
        Prog.bind_run_ok (writeInternal_run hentry), Prog.bind_run_ok (Prog.modify_run _ _)]
      exact hrun
    · rw [himage, writeProcessImage, odBytes_update]
    · intro k hk
      rw [List.map_cons, List.mem_cons, not_or] at hk
      rw [hframe k hk.2]
      exact Function.update_of_ne hk.1 ..
    · rcases hkey with ⟨rfl, rfl⟩ | ⟨block', hblock', rfl⟩
      · exact ⟨block, List.mem_cons_self, rfl⟩
      · exact ⟨block', List.mem_cons_of_mem _ hblock', rfl⟩

/-- What an exchange does: the modules get the outputs of the payload, and no gateway a request. -/
structure Exchanged (c : StationConfig F G) (payload : List Byte) (s s' : GatewayStation F G) :
    Prop where
  inputs : s'.inputs = s.inputs
  outputs : s'.outputs = readModules CPXApModule.outputRegion payload c.modules s.outputs
  outside : s'.outside = s.outside
  rxImage : s'.rxImage c = payload
  od : ∀ key, key ∉ (c.rx.blocks ++ c.tx.blocks).map CPXPdoBlock.key → s'.od key = s.od key
  hasImage : s'.HasImage c

omit [PyFloat F] in
/-- The blocks have the bytes of the image that is written to them. -/
theorem odBytes_withBlocks {od : VirtualOd F} {blocks : List CPXPdoBlock}
    {image : ℕ × ℕ → List Byte} {block : CPXPdoBlock} (hblock : block ∈ blocks)
    (h : HasBytes od block.key) :
    odBytes (withBlocks od blocks image) block.key = image block.key ∧
      HasBytes (withBlocks od blocks image) block.key := by
  obtain ⟨definition, payload, hentry⟩ := h
  have hmem : block.key ∈ blocks.map CPXPdoBlock.key := List.mem_map_of_mem hblock
  have hentry' : withBlocks od blocks image block.key = some (definition, .bytes (image block.key)) := by
    unfold withBlocks
    rw [if_pos hmem, hentry]
    rfl
  refine ⟨?_, definition, image block.key, hentry'⟩
  unfold odBytes
  rw [hentry']

/-- **An exchange brings the inputs and runs no request.** -/
theorem stationExchange_run (hc : c.Sound) {image payload : List Byte}
    (himage : publishInputImages c.tx.byteSize c.modules s.inputs = .ok image)
    (hsize : image.length = c.tx.byteSize) (hbytes : s.HasImage c)
    (hlength : payload.length = c.rx.byteSize) :
    ∃ s', stationExchange c payload s = (.ok image, s') ∧ Exchanged c payload s s' := by
  have hsum : (c.rx.blocks.map CPXPdoBlock.byteLength).sum = payload.length :=
    c.rx.sum_blocks.trans hlength.symm
  obtain ⟨od, key, hwrite, hod, hframe, hkept, hkey⟩ := writeRxBlocks_run (s := s)
    (fun block hblock => hbytes block (List.mem_append_left _ hblock)) hsum.le
  let s₁ : GatewayStation F G := { s with
    od := od
    lastWriteKey := key }
  have hrx : s₁.rxImage c = payload := by
    unfold GatewayStation.rxImage
    rw [hod]
    exact (readProcessImage_write payload _ c.rx.blocks_nodup hsum).1
  have hquiet : dispatchGatewayRequest c s₁ = (.ok (), s₁) := by
    apply dispatchGatewayRequest_run_of_ne
    intro o ho heq
    rcases hkey with ⟨-, hnil⟩ | ⟨block, hblock, hlast⟩
    · exact hc.rx_ne hnil
    · have hindex : (block.index, block.subindex) = (o.index, 1) :=
        Option.some.inj (hlast.symm.trans heq)
      exact hc.blocks_apart o ho block (List.mem_append_left _ hblock) (Prod.mk.inj hindex).1
  have hbytes₁ : ∀ block ∈ c.rx.blocks ++ c.tx.blocks, HasBytes s₁.od block.key :=
    fun block hblock => hkept _ (hbytes block hblock)
  let txImage := writeProcessImage image c.tx.blocks (odBytes s₁.od)
  have hblocks (block : CPXPdoBlock) (hblock : block ∈ c.tx.blocks) :
      odBytes (withBlocks s₁.od c.tx.blocks txImage) block.key = txImage block.key ∧
        HasBytes (withBlocks s₁.od c.tx.blocks txImage) block.key :=
    odBytes_withBlocks hblock (hbytes₁ block (List.mem_append_right _ hblock))
  refine ⟨s₁.refreshed c image, ?_, rfl, ?_, rfl, ?_, ?_, ?_⟩
  · have htx : odToTxpdoBlocks c.tx.blocks (odBytes (s₁.refreshed c image).od) = image := by
      refine Eq.trans ?_ (readProcessImage_write image (odBytes s₁.od) c.tx.blocks_nodup
        (c.tx.sum_blocks.trans hsize.symm)).2
      unfold odToTxpdoBlocks
      apply List.flatMap_congr
      intro block hblock
      rw [show (s₁.refreshed c image).od = withBlocks s₁.od c.tx.blocks _ from rfl,
        (hblocks block hblock).1]
    unfold stationExchange
    rw [Prog.bind_run_ok hwrite, Prog.bind_run_ok (stationModelUpdate_run hquiet himage),
      Prog.bind_run_ok (Prog.get_run _), htx]
    rfl
  · change readModules _ (s₁.rxImage c) c.modules s.outputs = _
    rw [hrx]
  · rw [← hrx]
    apply readProcessImage_congr
    intro block hblock
    exact withBlocks_of_notMem (hc.images_apart block hblock)
  · intro k hk
    rw [List.map_append, List.mem_append, not_or] at hk
    exact (withBlocks_of_notMem hk.2).trans (hframe k hk.1)
  · intro block hblock
    by_cases htx : block ∈ c.tx.blocks
    · exact (hblocks block htx).2
    · have hrx : block ∈ c.rx.blocks := (List.mem_append.mp hblock).resolve_right htx
      unfold HasBytes
      rw [show (s₁.refreshed c image).od block.key = s₁.od block.key from
        withBlocks_of_notMem (hc.images_apart block hrx)]
      exact hbytes₁ block hblock

omit [PyFloat F] in
theorem readRegion_readRegion (payload : List Byte) (r : Region) (old : ChannelValues) :
    readRegion payload r (readRegion payload r old) = readRegion payload r old := by
  unfold readRegion
  cases r.offset with
  | none => rfl
  | some offset =>
    dsimp only
    split_ifs <;> rfl

omit [PyFloat F] in
theorem readModules_of_notMem {region : CPXApModule → Region} {payload : List Byte}
    {modules : List CPXApModule} {slot : ℕ} (values : ℕ → ChannelValues)
    (h : slot ∉ modules.map CPXApModule.slot) :
    readModules region payload modules values slot = values slot := by
  induction modules generalizing values with
  | nil => rfl
  | cons m modules ih =>
    rw [List.map_cons, List.mem_cons, not_or] at h
    rw [readModules, ih _ h.2, Function.update_of_ne h.1]

omit [PyFloat F] in
/-- The modules read an image once. -/
theorem readModules_readModules {region : CPXApModule → Region} {payload : List Byte}
    {modules : List CPXApModule} (values : ℕ → ChannelValues)
    (hnodup : (modules.map CPXApModule.slot).Nodup) :
    readModules region payload modules (readModules region payload modules values) =
      readModules region payload modules values := by
  funext slot
  by_cases hslot : slot ∈ modules.map CPXApModule.slot
  · obtain ⟨m, hm, rfl⟩ := List.mem_map.mp hslot
    rw [readModules_apply _ hnodup hm, readModules_apply _ hnodup hm, readRegion_readRegion]
  · rw [readModules_of_notMem _ hslot]

theorem Exchanged.settled {payload : List Byte} {s' : GatewayStation F G}
    (h : Exchanged c payload s s') (hc : c.Sound) : s'.Settled c := by
  unfold GatewayStation.Settled
  rw [h.rxImage, h.outputs]
  exact readModules_readModules _ hc.slots_nodup

end Exchanges

end MotionServer
