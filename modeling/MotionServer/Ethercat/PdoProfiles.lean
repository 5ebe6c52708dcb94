import MotionServer.Ethercat.MasterPdoRuntime
import MotionServer.Handlers.ParameterPayload

/-!
# The codecs of the slaves

* `drivePdoProfile`: a drive, whose payloads are those of its mappings;
* `stationPdoProfile`: an I/O station, whose payloads are images of its modules;
* `PdoProfile.sum` puts both on one bus.
-/

namespace MotionServer

variable {F : Type} [PyFloat F]

/-! ## Drives -/

/-- No error of the operating system. -/
abbrev PlainlyFails {α : Type} (x : Except PyExc α) : Prop := x.OnlyFails fun e => e.isOSError = false

theorem plainlyFails_toInt [TruncRaises F] (value : OdValue F) : PlainlyFails value.toInt := by
  cases value with
  | int i => exact Except.onlyFails_ok i
  | float x =>
    intro e h
    rcases TruncRaises.truncInt_error x e h with rfl | rfl <;> rfl

theorem plainlyFails_toFloat (value : OdValue F) : PlainlyFails value.toFloat := by
  cases value with
  | int i =>
    show PlainlyFails (if PyFloat.intFits F i then _ else _)
    split_ifs
    · exact Except.onlyFails_ok _
    · exact Except.onlyFails_error rfl
  | float x => exact Except.onlyFails_ok x

theorem plainlyFails_encodeOdValue [TruncRaises F] {codec : Float32Codec F}
    (hpack : ∀ x, PlainlyFails (codec.pack x)) (type : DataType) (value : OdValue F) :
    PlainlyFails (encodeOdValue codec type value) := by
  unfold encodeOdValue
  cases type.format with
  | bool => exact (plainlyFails_toInt value).map _
  | integer signed bytes =>
    refine (plainlyFails_toInt value).bind fun i _ => ?_
    show PlainlyFails (if Bytes.Fits signed bytes i then _ else _)
    split_ifs
    · exact Except.onlyFails_ok _
    · exact Except.onlyFails_error rfl
  | float =>
    exact (plainlyFails_toFloat value).bind fun x _ =>
      (hpack x).bind fun bits _ => Except.onlyFails_ok _

theorem plainlyFails_encodeMapping [TruncRaises F] {codec : Float32Codec F}
    (hpack : ∀ x, PlainlyFails (codec.pack x)) (objects : List (PdoObject F))
    (source : String → OdValue F) : PlainlyFails (encodeMapping codec objects source) := by
  unfold encodeMapping
  induction objects with
  | nil => exact Except.onlyFails_ok []
  | cons obj objects ih =>
    rw [encodeObjects]
    cases obj.item? with
    | none => exact ih.bind fun _ _ => Except.onlyFails_ok _
    | some item =>
      exact (plainlyFails_encodeOdValue hpack item.dataType _).bind fun _ _ =>
        ih.bind fun _ _ => Except.onlyFails_ok _

/-- A payload that is long enough is decoded. -/
theorem decodeMapping_of_length (codec : Float32Codec F) {objects : List (PdoObject F)}
    {payload : List Byte} (target : String → OdValue F)
    (h : mappingSize objects ≤ payload.length) :
    (decodeMapping codec payload objects target).2 = .ok () := by
  induction objects generalizing payload target with
  | nil => rfl
  | cons obj objects ih =>
    have hsize : mappingSize (obj :: objects) = obj.byteLength + mappingSize objects := rfl
    have hrest : mappingSize objects ≤ (payload.drop obj.byteLength).length := by
      rw [List.length_drop]
      omega
    rw [decodeMapping]
    cases hitem : obj.item? with
    | none => exact ih target hrest
    | some item =>
      have hlength : (payload.take obj.byteLength).length = item.dataType.format.size := by
        rw [List.length_take_of_le (by omega), byteLength_of_item? hitem]
      obtain ⟨value, hvalue⟩ := decodeOdValue_of_length codec hlength
      dsimp only
      rw [hvalue]
      exact ih _ hrest

/-- The PDOs of a drive. -/
def drivePdoProfile [TruncRaises F] (codec : Float32Codec F)
    (hpack : ∀ x, PlainlyFails (codec.pack x)) (rxpdo txpdo : PdoMapping F) :
    PdoProfile (String → OdValue F) (String → OdValue F) where
  encodeRxpdo source := some <$> encodeMapping codec rxpdo.objects source
  decodeTxpdo payload target :=
    ((decodeTxpdo codec payload txpdo.objects target).2,
      (decodeTxpdo codec payload txpdo.objects target).1)
  mappingSize _ := some (mappingSize txpdo.objects)
  encode_error source := (plainlyFails_encodeMapping hpack rxpdo.objects source).map some
  decode_ok payload target h := by
    have hlength := h _ rfl
    show (decodeTxpdo codec payload txpdo.objects target).2 = .ok ()
    unfold decodeTxpdo
    rw [if_neg (Nat.not_lt.mpr hlength)]
    exact decodeMapping_of_length codec _ hlength

/-! ## Stations -/

theorem plainlyFails_writeRegion (payload : List Byte) (r : Region) (values : ChannelValues) :
    PlainlyFails (writeRegion payload r values) := by
  have hanalog : ∀ (byteOffset remaining index : ℕ) (payload : List Byte),
      PlainlyFails (writeAnalogFrom values.analog byteOffset r.width r.signed remaining index
        payload) := by
    intro byteOffset remaining
    induction remaining with
    | zero => exact fun _ payload => Except.onlyFails_ok payload
    | succ remaining ih =>
      intro index payload
      rw [writeAnalogFrom]
      split_ifs
      · exact Except.onlyFails_ok _
      · exact ih _ _
      · exact Except.onlyFails_error rfl
  unfold writeRegion
  split
  · exact Except.onlyFails_ok _
  · refine Except.OnlyFails.map ?_ _
    by_cases hcount : r.analog ≠ 0
    · rw [if_pos hcount]
      exact hanalog _ _ _ _
    · rw [if_neg hcount]
      exact Except.onlyFails_ok _

theorem plainlyFails_writeRegions (entries : List (Region × ChannelValues)) (payload : List Byte) :
    PlainlyFails (writeRegions payload entries) := by
  induction entries generalizing payload with
  | nil => exact Except.onlyFails_ok payload
  | cons entry entries ih =>
    exact (plainlyFails_writeRegion payload entry.1 entry.2).bind fun payload _ => ih payload

/-- The PDOs of a station. Its TxPDO has the size of the payload that it got last. -/
def stationPdoProfile (outputBytes : ℕ) (modules : List CPXApModule) :
    PdoProfile (ℕ → ChannelValues) (ℕ × (ℕ → ChannelValues)) where
  encodeRxpdo outputs := some <$> encodeRxpdo outputBytes modules outputs
  decodeTxpdo payload txpdo :=
    (.ok (), payload.length, decodeCpxTxpdo payload modules txpdo.2)
  mappingSize txpdo := some txpdo.1
  encode_error _ := (plainlyFails_writeRegions _ _).map some
  decode_ok _ _ _ := rfl

/-! ## A bus of a drive and a station -/

/-- A TxPDO with a statusword only. -/
def statuswordTxpdo : PdoMapping ExtRat where
  objects := [.role ⟨"statusword", 0x6041, 0, .uint16, .int 0⟩]
  index_ne_zero := by decide
  fields_nodup := by decide
  keys_nodup := by decide

theorem plainlyFails_withoutFloats (x : ExtRat) : PlainlyFails (withoutFloats.pack x) :=
  Except.onlyFails_ok 0

/-- A drive, and a station without modules. -/
def driveAndStation : PdoProfile ((String → OdValue ExtRat) ⊕ (ℕ → ChannelValues))
    ((String → OdValue ExtRat) ⊕ (ℕ × (ℕ → ChannelValues))) :=
  (drivePdoProfile withoutFloats plainlyFails_withoutFloats cspBasicRxpdo statuswordTxpdo).sum
    (stationPdoProfile 1 [])

/-- The two slaves, before the first process data. -/
def driveAndStationSlaves : List (SlavePdos ((String → OdValue ExtRat) ⊕ (ℕ → ChannelValues))
    ((String → OdValue ExtRat) ⊕ (ℕ × (ℕ → ChannelValues)))) :=
  [⟨driveAndStation, .inl fun _ => .int 0, .inl fun _ => .int 0, none⟩,
    ⟨driveAndStation, .inr fun _ => ⟨[], [], []⟩, .inr (1, fun _ => ⟨[], [], []⟩), none⟩]

end MotionServer
