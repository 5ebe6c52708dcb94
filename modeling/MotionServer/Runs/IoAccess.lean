import MotionServer.Handlers.IsduAccess
import MotionServer.Python.ExtRat

/-!
# Which I/O device a request means

The `io` of a request is resolved to a slave by `slave_index` and to a device by `selected_device`.

* `SelectionAgrees`: both resolvers refuse a selector, or they mean the same slave;
* `SelectsAlike`: the selectors for which they do, by the ids of the configuration;
* **`selection_agrees_iff`**: the two resolvers, and the writes to IO-Link devices;
* **`isduGuard_complete_iff`**: the gateway objects that the guard of the raw accesses knows.
-/

namespace MotionServer

variable {F : Type} [PyFloat F]

/-! ## Two resolvers -/

/-- Both resolvers refuse the selector, or they mean the same slave. -/
def SelectionAgrees (repr : Value F → String) (slaves : List BusSlave) (selector : Value F) : Prop :=
  (slaveIndex repr slaves selector).toOption =
    (selectedDevice repr slaves selector).toOption.map IoDevice.slaveIndex

/-- A write to an IO-Link device is sent to the device that it was validated for. -/
def WritesWhereValidated (repr : Value F → String)
    (encode : Value F → String → Except PyExc (List Byte)) (slaves : List BusSlave)
    (message : Message F) : Prop :=
  ∀ transfers, writeIolTransfers repr encode slaves message = .ok transfers →
    ∃ request device, message.get? "io" = some request.io ∧
      selectedDevice repr slaves request.io = .ok device ∧ device.AllowsWrite request ∧
      ∀ t ∈ transfers, t.slaveIndex = device.slaveIndex

/-- The first device with the id is at the position, or there is neither. -/
def OrdinalIsId (ids : List String) (ordinal : ℤ) (id : String) : Prop :=
  (0 ≤ ordinal ∧ ids[ordinal.toNat]? = some id ∧ id ∉ ids.take ordinal.toNat) ∨
    ((ordinal < 0 ∨ ids.length ≤ ordinal) ∧ id ∉ ids)

/-- The texts that both resolvers read alike: an id, or the decimal number of a position. -/
def TextSelectsAlike (ids : List String) (text : String) : Prop :=
  if isDigitText (pyStrip text) = true then
    match parseIntLiteral false (pyStrip text) with
    | some i => OrdinalIsId ids i text
    | none => text ∉ ids
  else pyStrip text = text ∨ pyStrip text ∉ ids

/-- The selectors that both resolvers read alike: none, an integer or a text. -/
def SelectsAlike (repr : Value F → String) (ids : List String) (selector : Value F) : Prop :=
  if selector.isNull then ids.length ≠ 1
  else match selector.asInt? with
    | some i => OrdinalIsId ids i.val (selector.pyStr repr)
    | none => TextSelectsAlike ids (selector.pyStr repr)

/-! ## Positions and ids -/

theorem idxOf_eq_iff {ids : List String} {id : String} {k : ℕ} (hk : k < ids.length) :
    ids.idxOf id = k ↔ ids[k]? = some id ∧ id ∉ ids.take k := by
  constructor
  · rintro rfl
    refine ⟨by rw [List.getElem?_eq_getElem hk, List.getElem_idxOf hk], fun htake => ?_⟩
    have hlt := (List.mem_take_iff_idxOf_lt (List.mem_of_mem_take htake)).mp htake
    omega
  · rintro ⟨hget, htake⟩
    have hmem : id ∈ ids := List.mem_of_getElem? hget
    have hge : ¬ ids.idxOf id < k := fun hlt =>
      htake ((List.mem_take_iff_idxOf_lt hmem).mpr hlt)
    have hlt : ids.idxOf id < k + 1 := by
      refine (List.mem_take_iff_idxOf_lt hmem).mp ?_
      rw [List.take_add_one, hget]
      simp
    omega

omit [PyFloat F] in
/-- **A position and an id mean the same device.** -/
theorem ordinal_agrees_iff (slaves : List BusSlave) (ordinal : ℤ) (id : String) :
    (slaveIndexByIoIndex slaves ordinal).toOption =
        ((ioDevices slaves).find? fun d => d.id == id).map IoDevice.slaveIndex ↔
      OrdinalIsId ((ioDevices slaves).map IoDevice.id) ordinal id := by
  have hnodup := nodup_slaveIndex_ioDevices slaves
  rw [toOption_slaveIndexByIoIndex, find?_id_eq]
  generalize ioDevices slaves = devices at hnodup ⊢
  have hlength : (devices.map IoDevice.id).length = devices.length := List.length_map _
  have habsent : devices[(devices.map IoDevice.id).idxOf id]? = none ↔
      id ∉ devices.map IoDevice.id := by
    rw [List.getElem?_eq_none_iff, ← hlength, ← not_lt, List.idxOf_lt_length_iff]
  unfold OrdinalIsId
  by_cases hneg : ordinal < 0
  · rw [if_pos hneg, eq_comm, Option.map_eq_none_iff, habsent]
    constructor
    · exact fun h => Or.inr ⟨Or.inl hneg, h⟩
    · rintro (⟨h0, -⟩ | ⟨-, h⟩)
      · omega
      · exact h
  · rw [if_neg hneg]
    by_cases hk : ordinal.toNat < devices.length
    · rw [← List.getElem?_map, ← List.getElem?_map,
        List.getElem?_inj (by rwa [List.length_map]) hnodup, eq_comm, idxOf_eq_iff (by rwa [hlength])]
      constructor
      · exact fun h => Or.inl ⟨by omega, h⟩
      · rintro (⟨-, h⟩ | ⟨hout, -⟩)
        · exact h
        · omega
    · rw [List.getElem?_eq_none (by omega), Option.map_none, eq_comm, Option.map_eq_none_iff, habsent]
      constructor
      · exact fun h => Or.inr ⟨Or.inr (by omega), h⟩
      · rintro (⟨-, hget, -⟩ | ⟨-, h⟩)
        · rw [List.getElem?_eq_none (by omega)] at hget
          cases hget
        · exact h

omit [PyFloat F] in
theorem toOption_selectedDevice (repr : Value F → String) (slaves : List BusSlave)
    {selector : Value F} (h : selector.isNull = false) :
    (selectedDevice repr slaves selector).toOption =
      (ioDevices slaves).find? fun d => d.id == selector.pyStr repr := by
  rw [← toOption_deviceWithId]
  cases selector <;> first | rfl | exact absurd h (by simp [Value.isNull])

omit [PyFloat F] in
/-- A selector that is left out means the only device. -/
theorem toOption_selectedDevice_null (repr : Value F → String) (slaves : List BusSlave) :
    (selectedDevice repr slaves .null).toOption = none ↔ (ioDevices slaves).length ≠ 1 := by
  rw [selectedDevice]
  rcases ioDevices slaves with _ | ⟨d, _ | ⟨d', rest⟩⟩ <;> simp [Except.toOption]

theorem find?_id_eq_none_iff {devices : List IoDevice} {id : String} :
    (devices.find? fun d => d.id == id) = none ↔ id ∉ devices.map IoDevice.id := by
  rw [find?_id_eq, List.getElem?_eq_none_iff, ← List.length_map IoDevice.id, ← not_lt,
    List.idxOf_lt_length_iff]

/-- The id `None` is no logical id. -/
theorem none_notMem_ioIds (config : BusConfig) : "None" ∉ config.ioIds := by
  intro h
  have hupper := (BusConfig.isLogicalId_of_mem h).not_upper 'N' (by decide)
  exact absurd hupper (by decide)

section Selection

variable (config : BusConfig) (station : BusDevice → CpxStation)

/-- A text and the same text stripped. -/
theorem stripped_agrees_iff (text : String) :
    ((ioDevices (config.slaves station)).find? fun d => d.id == pyStrip text).map
        IoDevice.slaveIndex =
      ((ioDevices (config.slaves station)).find? fun d => d.id == text).map IoDevice.slaveIndex ↔
    pyStrip text = text ∨ pyStrip text ∉ config.ioIds := by
  have hids := map_id_ioDevices_slaves config station
  by_cases hstrip : pyStrip text = text
  · rw [hstrip]
    exact ⟨fun _ => Or.inl rfl, fun _ => rfl⟩
  · have htext : text ∉ config.ioIds := fun h =>
      hstrip (BusConfig.isLogicalId_of_mem h).stripped
    have hnone := find?_id_eq_none_iff.mpr (hids.symm ▸ htext :
      text ∉ (ioDevices (config.slaves station)).map IoDevice.id)
    rw [hnone, Option.map_none, Option.map_eq_none_iff, find?_id_eq_none_iff, hids]
    exact (or_iff_right hstrip).symm

/-- What `slave_index` makes of a text. -/
theorem text_agrees_iff (text : String) :
    (slaveIndexOfText (config.slaves station) (pyStrip text)).toOption =
      ((ioDevices (config.slaves station)).find? fun d => d.id == text).map IoDevice.slaveIndex ↔
    TextSelectsAlike config.ioIds text := by
  have hids := map_id_ioDevices_slaves config station
  unfold slaveIndexOfText TextSelectsAlike
  split_ifs with hdigit
  · cases parseIntLiteral false (pyStrip text) with
    | some i =>
      dsimp only
      rw [ordinal_agrees_iff, hids]
    | none =>
      dsimp only
      rw [← hids, ← find?_id_eq_none_iff, ← Option.map_eq_none_iff (f := IoDevice.slaveIndex)]
      exact eq_comm
  · rw [← stripped_agrees_iff config station, ← toOption_deviceWithId _ (pyStrip text)]
    cases deviceWithId (config.slaves station) (pyStrip text) <;> rfl

omit [PyFloat F] in
/-- **The two resolvers agree on a selector exactly when they read it alike.** -/
theorem selectionAgrees_iff (repr : Value F → String) (selector : Value F) :
    SelectionAgrees repr (config.slaves station) selector ↔
      SelectsAlike repr config.ioIds selector := by
  have hids := map_id_ioDevices_slaves config station
  unfold SelectionAgrees SelectsAlike
  cases hnull : selector.isNull with
  | true =>
    obtain rfl : selector = .null := by cases selector <;> first | rfl | cases hnull
    have htext : slaveIndex repr (config.slaves station) (.null : Value F) =
        slaveIndexOfText (config.slaves station) (pyStrip "None") := rfl
    have hstrip : pyStrip "None" = "None" := by decide +kernel
    have hdigit : isDigitText "None" = false := by decide +kernel
    have hnone : deviceWithId (config.slaves station) "None" = .error .valueError := by
      have h := find?_id_eq_none_iff.mpr (hids.symm ▸ none_notMem_ioIds config :
        "None" ∉ (ioDevices (config.slaves station)).map IoDevice.id)
      rw [deviceWithId, h]
    rw [htext, hstrip, slaveIndexOfText, if_neg (by simp [hdigit]), hnone, if_pos rfl, ← hids,
      List.length_map, ← toOption_selectedDevice_null repr, eq_comm, Option.map_eq_none_iff.symm]
    rfl
  | false =>
    rw [toOption_selectedDevice repr _ hnull, slaveIndex, if_neg (by decide)]
    cases selector.asInt? with
    | some i =>
      dsimp only
      rw [ordinal_agrees_iff, hids]
    | none => exact text_agrees_iff config station _

omit [PyFloat F] in
/-- **The two resolvers agree on a selector, and the writes to IO-Link devices go where they were
validated, exactly when the selector is read alike.** -/
theorem ioSelection_agrees_iff (repr : Value F → String)
    (encode : Value F → String → Except PyExc (List Byte)) (selector : Value F) :
    (SelectionAgrees repr (config.slaves station) selector ∧
      ∀ message : Message F, message.get? "io" = some selector →
        WritesWhereValidated repr encode (config.slaves station) message) ↔
      SelectsAlike repr config.ioIds selector := by
  rw [← selectionAgrees_iff config station]
  refine ⟨And.left, fun hagrees => ⟨hagrees, fun message hio transfers htransfers => ?_⟩⟩
  obtain ⟨request, device, k, hrequest, hdevice, hallows, hk, hslaves⟩ :=
    writeIolTransfers_ok htransfers
  refine ⟨request, device, hrequest, hdevice, hallows, fun t ht => ?_⟩
  rw [hio] at hrequest
  obtain rfl := Option.some.inj hrequest
  rw [SelectionAgrees, hk, hdevice] at hagrees
  rw [hslaves t ht]
  exact Option.some.inj hagrees

end Selection

/-! ### Ids that are positions -/

/-- Two stations: the first has the id `1`, the second the id `0`. -/
def swappedIds : BusConfig where
  devices := [⟨0, .io, "cpx_ap_i_ec", some "1"⟩, ⟨1, .io, "cpx_ap_i_ec", some "0"⟩]
  named := by
    intro d hd _
    simp only [List.mem_cons, List.not_mem_nil, or_false] at hd
    rcases hd with rfl | rfl
    · exact ⟨"1", rfl, by decide, by decide +kernel, by simp [isUpperChar]⟩
    · exact ⟨"0", rfl, by decide, by decide +kernel, by simp [isUpperChar]⟩

/-- A station whose first port has a device with one variable that may be written. -/
def writableStation : CpxStation := ⟨[⟨1, 0, [⟨24, "rw", []⟩]⟩], 1, by decide⟩

/-- A write to the IO-Link device of `1`. -/
def writeToOne : Message ExtRat :=
  [("io", .str "1"), ("module", .int 1), ("port", .int 0), ("index", .int 24),
    ("data_type", .str "uint8"), ("value", .int 5)]

/-- The write is validated for the first station and sent to the second. -/
theorem swappedIds_disagree :
    parseBusConfig none "io:cpx_ap_i_ec:1,io:cpx_ap_i_ec:0" = .ok swappedIds ∧
      (selectedDevice Value.text (swappedIds.slaves fun _ => writableStation)
        (.str "1" : Value ExtRat)).toOption.map IoDevice.slaveIndex = some 0 ∧
      (writeIolTransfers Value.text (fun _ _ => .ok [5]) (swappedIds.slaves fun _ => writableStation)
        writeToOne).toOption.map (List.map SdoTransfer.slaveIndex) = some [1, 1, 1, 1, 1, 1] := by
  refine ⟨parseBusConfig_of_parseDevices (by decide +kernel), ?_, ?_⟩
  · decide +kernel
  · decide +kernel

/-! ## The guard of the gateway objects -/

/-- A raw access of a client without expert mode that is sent to a station with the stride is not to
the gateway object of the module. -/
def RawAccessAvoids (F : Type) [PyFloat F] (module stride : ℤ) : Prop :=
  ∀ (repr : Value F → String) (slaves : List BusSlave) (write : Bool) (message : Message F)
    (request : SdoRequest (Value F)) (k : ℕ) (call : SdoCall F) (config : CpxIoConfig),
    ioSdoCall repr slaves false write message = .ok (request, k, call) →
      (slaves[k]?).bind BusSlave.config = some config → config.modulePdoIndexStride = stride →
        call.index.val ≠ isduAccessObjectIndex module stride

theorem isCpxIsduAccessObject_iff {index : ℤ} : isCpxIsduAccessObject index = true ↔
    0x2001 ≤ index ∧ index ≤ 0x2FF1 ∧ (index - 0x2001) % 0x10 = 0 := by
  simp [isCpxIsduAccessObject, and_assoc]

/-- The gateway objects that the guard recognises. -/
theorem isCpxIsduAccessObject_gateway_iff {module stride : ℤ} (hmodule : 1 ≤ module)
    (hstride : 1 ≤ stride) :
    isCpxIsduAccessObject (isduAccessObjectIndex module stride) = true ↔
      16 ∣ module * stride ∧ module * stride ≤ 0xFF0 := by
  have hpos : 0 < module * stride := by positivity
  rw [isCpxIsduAccessObject_iff, isduAccessObjectIndex]
  omega

/-- A raw access without expert mode is to an object that the guard does not recognise. -/
theorem not_isCpxIsduAccessObject_of_ioSdoCall {repr : Value F → String} {slaves : List BusSlave}
    {write : Bool} {message : Message F} {request : SdoRequest (Value F)} {k : ℕ} {call : SdoCall F}
    (h : ioSdoCall repr slaves false write message = .ok (request, k, call)) :
    isCpxIsduAccessObject call.index.val = false := by
  obtain ⟨request', -, h⟩ := Except.bind_eq_ok.mp h
  obtain ⟨k', -, h⟩ := Except.bind_eq_ok.mp h
  obtain ⟨_, hguard, h⟩ := Except.bind_eq_ok.mp h
  obtain ⟨rawValue, -, h⟩ := Except.bind_eq_ok.mp h
  obtain ⟨call', hcall, h⟩ := Except.bind_eq_ok.mp h
  cases h
  obtain ⟨format, -, hcall⟩ := Except.bind_eq_ok.mp hcall
  obtain ⟨written, -, hcall⟩ := Except.bind_eq_ok.mp hcall
  cases hcall
  by_contra hrecognised
  rw [validateIoParameterAccess, if_pos ⟨eq_true_of_ne_false hrecognised, rfl⟩] at hguard
  cases hguard

/-- A read of the object from the first I/O device. -/
def rawRead (F : Type) (index : ℤ) : Message F := [("io", .int 0), ("index", .int index)]

/-- A bus with one station, which has the stride. -/
def oneStation (stride : ℤ) (h : 1 ≤ stride) : List BusSlave :=
  [⟨false, some ⟨⟨[], stride, h⟩, "io0"⟩⟩]

/-- A raw read reaches every object that the guard does not recognise. -/
theorem ioSdoCall_rawRead (repr : Value F → String) {index stride : ℤ} (hstride : 1 ≤ stride)
    (h : isCpxIsduAccessObject index = false) :
    ioSdoCall repr (oneStation stride hstride) false false (rawRead F index) =
      .ok (⟨.int 0, .int index, .int 0, "uint32", none⟩, 0,
        ⟨.slave 0, .int index, .int 0, .uint32, none, none⟩) := by
  have htext : pyLower (pyStrip "uint32") = "uint32" := by decide +kernel
  have htype : normalizeSdoDataType repr (.str "uint32" : Value F) = "uint32" := by
    have hdefault : (if (Value.str "uint32" : Value F).truthy = true then
        (Value.str "uint32" : Value F).pyStr repr else "uint32") = "uint32" := by
      split_ifs <;> rfl
    rw [normalizeSdoDataType, hdefault, htext]
    decide +kernel
  have hparse : parseIoSdoRequest repr (rawRead F index) =
      .ok ⟨.int 0, .int index, .int 0, "uint32", none⟩ := by
    have hdefault : (rawRead F index).getD "data_type" (.str "uint32") = .str "uint32" := rfl
    rw [parseIoSdoRequest, hdefault, htype]
    rfl
  have hslave : validateIoSelector repr (oneStation stride hstride) (.int 0 : Value F) = .ok 0 :=
    rfl
  have hguard : validateIoParameterAccess false (.int index) = .ok () := by
    rw [validateIoParameterAccess, if_neg]
    rintro ⟨hrecognised, -⟩
    exact absurd hrecognised (by simp [PyInt.val, h])
  rw [ioSdoCall, hparse]
  show (do
    let slaveIndex ← validateIoSelector repr (oneStation stride hstride) (.int 0 : Value F)
    validateIoParameterAccess false (.int index)
    _) = _
  rw [hslave, hguard]
  rfl

/-- The accesses that the guard refuses are those to the objects that it recognises. -/
theorem rawAccessAvoids_iff {module stride : ℤ} (hstride : 1 ≤ stride) :
    RawAccessAvoids F module stride ↔
      isCpxIsduAccessObject (isduAccessObjectIndex module stride) = true := by
  constructor
  · intro havoids
    by_contra hrecognised
    have hcall := ioSdoCall_rawRead (F := F) Value.text hstride (eq_false_of_ne_true hrecognised)
    exact havoids _ _ _ _ _ _ _ _ hcall rfl rfl rfl
  · intro hrecognised repr slaves write message request k call config hcall _ _ hindex
    have hfalse := not_isCpxIsduAccessObject_of_ioSdoCall hcall
    rw [hindex, hrecognised] at hfalse
    cases hfalse

/-- **The guard knows the gateway object of a module, and no raw access without expert mode reaches
it, exactly when its offset is a multiple of 16 and at most `0xFF0`.** -/
theorem isduGuard_complete_iff (F : Type) [PyFloat F] (module stride : ℤ) (hmodule : 1 ≤ module)
    (hstride : 1 ≤ stride) :
    (isCpxIsduAccessObject (isduAccessObjectIndex module stride) = true ∧
      RawAccessAvoids F module stride) ↔ 16 ∣ module * stride ∧ module * stride ≤ 0xFF0 := by
  rw [rawAccessAvoids_iff hstride, and_self]
  exact isCpxIsduAccessObject_gateway_iff hmodule hstride

/-- With a stride of 16 the guard knows the object of the last module. -/
theorem isduGuard_complete_last : isCpxIsduAccessObject (isduAccessObjectIndex 255 16) = true ∧
    RawAccessAvoids ExtRat 255 16 :=
  (isduGuard_complete_iff ExtRat 255 16 (by decide) (by decide)).mpr (by decide)

/-- With the default stride the guard does not know the object of the first module. -/
theorem isduGuard_incomplete_default :
    isCpxIsduAccessObject (isduAccessObjectIndex 1 1) = false ∧ ¬ RawAccessAvoids ExtRat 1 1 := by
  have hunknown : isCpxIsduAccessObject (isduAccessObjectIndex 1 1) = false := by decide
  refine ⟨hunknown, fun havoids => ?_⟩
  have hcall := ioSdoCall_rawRead (F := ExtRat) Value.text (le_refl 1) hunknown
  exact havoids _ _ _ _ _ _ _ _ hcall rfl rfl rfl

end MotionServer
