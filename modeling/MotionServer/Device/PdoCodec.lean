import MotionServer.Lib.Bytes
import MotionServer.Lib.Except
import MotionServer.Python.Float

/-!
# The PDO codec of a drive

* `DataType`, `StructFormat`: the data types of objects and their formats in `struct`;
* `encodeOdValue`, `decodeOdValue`: one value, and **what comes back of a value in range**;
* `PdoMapping`: the objects of a PDO, each of them once;
* `encodeObjects`, `decodeMapping`: all objects of a mapping.
-/

namespace MotionServer

/-! ## Values of objects -/

/-- A value of an object. A boolean is the integer that it equals. -/
inductive OdValue (F : Type)
  | int (i : ℤ)
  | float (x : F)
  deriving DecidableEq

/-- The data types of `DATA_TYPE_FORMATS`. -/
inductive DataType
  | bool
  | uint8
  | int8
  | uint16
  | int16
  | uint32
  | int32
  | uint64
  | int64
  | float32
  deriving DecidableEq

/-- A format of `struct`, little endian. -/
inductive StructFormat
  | bool
  | integer (signed : Bool) (bytes : ℕ)
  | float
  deriving DecidableEq

/-- `DATA_TYPE_FORMATS`. -/
def DataType.format : DataType → StructFormat
  | bool => .bool
  | uint8 => .integer false 1
  | int8 => .integer true 1
  | uint16 => .integer false 2
  | int16 => .integer true 2
  | uint32 => .integer false 4
  | int32 => .integer true 4
  | uint64 => .integer false 8
  | int64 => .integer true 8
  | float32 => .float

/-- `struct.calcsize`. -/
def StructFormat.size : StructFormat → ℕ
  | bool => 1
  | integer _ bytes => bytes
  | float => 4

theorem DataType.size_pos (type : DataType) : 0 < type.format.size := by
  cases type <;> decide

section Codec

variable {F : Type} [PyFloat F]

/-- What `struct` does with the format `<f`: a float of 32 bits survives, and a finite float from
`limit` on overflows. -/
structure Float32Codec (F : Type) [PyFloat F] where
  pack : F → Except PyExc (BitVec 32)
  unpack : BitVec 32 → F
  limit : F
  pack_unpack : ∀ bits, ∃ bits', pack (unpack bits) = .ok bits' ∧ unpack bits' = unpack bits
  pack_error_iff : ∀ x, (∃ e, pack x = .error e) ↔
    (PyFloat.truncInt x).toOption.isSome = true ∧ limit ≤ pyAbs x

/-- `int(value)`. -/
def OdValue.toInt : OdValue F → Except PyExc ℤ
  | int i => .ok i
  | float x => PyFloat.truncInt x

/-- `float(value)`. -/
def OdValue.toFloat : OdValue F → Except PyExc F
  | int i => floatOfInt i
  | float x => .ok x

/-- The bytes of a word, the lowest first. -/
def wordBytes (bits : BitVec 32) : List Byte := Bytes.ofNatLE 4 bits.toNat

/-- `struct.pack`. -/
def structPack (codec : Float32Codec F) (format : StructFormat) (value : OdValue F) :
    Except PyExc (List Byte) :=
  match format with
  | .bool => (fun i => [if i = 0 then 0 else 1]) <$> value.toInt
  | .integer signed bytes => do
    let i ← value.toInt
    if Bytes.Fits signed bytes i then pure (Bytes.ofIntLE bytes i) else throw .structError
  | .float => do
    let x ← value.toFloat
    let bits ← codec.pack x
    pure (wordBytes bits)

/-- `struct.unpack`. -/
def structUnpack (codec : Float32Codec F) (format : StructFormat) (payload : List Byte) :
    Except PyExc (OdValue F) :=
  if payload.length ≠ format.size then .error .structError
  else match format with
    | .bool => .ok (.int (if payload = [0] then 0 else 1))
    | .integer signed _ => .ok (.int (Bytes.toInt signed payload))
    | .float => .ok (.float (codec.unpack (BitVec.ofNat 32 (Bytes.toNatLE payload))))

/-- `encode_od_value` of a data type with a format. A value of an integer type goes through `int`,
which `structPack` does for its integers. -/
def encodeOdValue (codec : Float32Codec F) (type : DataType) (value : OdValue F) :
    Except PyExc (List Byte) :=
  structPack codec type.format value

/-- `decode_od_value` of a data type with a format. -/
def decodeOdValue (codec : Float32Codec F) (type : DataType) (payload : List Byte) :
    Except PyExc (OdValue F) :=
  structUnpack codec type.format (payload.take type.format.size)

/-! ## Ranges -/

/-- The values of a data type. -/
def InRange (codec : Float32Codec F) (type : DataType) (value : OdValue F) : Prop :=
  match type.format, value with
  | .bool, .int i => i = 0 ∨ i = 1
  | .integer signed bytes, .int i => Bytes.Fits signed bytes i
  | .float, .float x => ∃ bits, codec.unpack bits = x
  | _, _ => False

/-- The value is of no integer, or float, that is in the range of the data type. -/
def OutOfRange (codec : Float32Codec F) (type : DataType) (value : OdValue F) : Prop :=
  match type.format with
  | .bool => ∀ i, value.toInt = .ok i → i ≠ 0 ∧ i ≠ 1
  | .integer signed bytes => ∀ i, value.toInt = .ok i → ¬ Bytes.Fits signed bytes i
  | .float => ∀ x, value.toFloat = .ok x →
    (PyFloat.truncInt x).toOption.isSome = true ∧ codec.limit ≤ pyAbs x

/-- A boolean object whose value is an integer other than `0` and `1`. -/
def WideBoolean (type : DataType) (value : OdValue F) : Prop :=
  type = .bool ∧ ∃ i, value.toInt = .ok i ∧ i ≠ 0 ∧ i ≠ 1

theorem format_eq_bool_iff {type : DataType} : type.format = .bool ↔ type = .bool := by
  cases type <;> decide

theorem format_bytes_pos {type : DataType} {signed : Bool} {bytes : ℕ}
    (h : type.format = .integer signed bytes) : 0 < bytes := by
  have hpos := type.size_pos
  rw [h] at hpos
  exact hpos

/-- **A value in range comes back.** -/
theorem decode_encode {codec : Float32Codec F} {type : DataType} {value : OdValue F}
    (h : InRange codec type value) : ∃ bytes, encodeOdValue codec type value = .ok bytes ∧
      bytes.length = type.format.size ∧ decodeOdValue codec type bytes = .ok value := by
  unfold InRange at h
  unfold encodeOdValue decodeOdValue
  have hbytes : ∀ {signed : Bool} {bytes : ℕ}, type.format = .integer signed bytes → 0 < bytes :=
    format_bytes_pos
  generalize type.format = format at h hbytes
  match format, value with
  | .bool, .int i =>
    refine ⟨[if i = 0 then 0 else 1], rfl, rfl, ?_⟩
    rcases h with rfl | rfl <;> rfl
  | .integer signed bytes, .int i =>
    have hfits : Bytes.Fits signed bytes i := h
    have hlength : (Bytes.ofIntLE bytes i).length = bytes := Bytes.length_ofIntLE bytes i
    refine ⟨Bytes.ofIntLE bytes i, ?_, hlength, ?_⟩
    · show (if Bytes.Fits signed bytes i then _ else _) = _
      rw [if_pos hfits]
      rfl
    · have htake : (Bytes.ofIntLE bytes i).take (StructFormat.integer signed bytes).size =
          Bytes.ofIntLE bytes i := List.take_of_length_le hlength.le
      rw [htake]
      unfold structUnpack
      rw [if_neg (fun hne => hne hlength)]
      show Except.ok (OdValue.int (Bytes.toInt signed (Bytes.ofIntLE bytes i))) = _
      rw [Bytes.toInt_ofIntLE (hbytes rfl) hfits]
  | .float, .float x =>
    obtain ⟨bits, rfl⟩ := h
    obtain ⟨bits', hpack, hunpack⟩ := codec.pack_unpack bits
    have hlength : (wordBytes bits').length = 4 := Bytes.length_ofNatLE 4 _
    refine ⟨wordBytes bits', ?_, hlength, ?_⟩
    · show (codec.pack (codec.unpack bits) >>= fun bits => pure (wordBytes bits)) = _
      rw [hpack]
      rfl
    · have htake : (wordBytes bits').take StructFormat.float.size = wordBytes bits' :=
        List.take_of_length_le hlength.le
      have hword : Bytes.toNatLE (wordBytes bits') = bits'.toNat :=
        Bytes.toNatLE_ofNatLE_of_lt bits'.isLt
      rw [htake]
      unfold structUnpack
      rw [if_neg (fun hne => hne hlength)]
      show Except.ok (OdValue.float (codec.unpack (BitVec.ofNat 32 _))) = _
      rw [hword, BitVec.ofNat_toNat, BitVec.setWidth_eq, hunpack]

/-- **Packing fails for a value out of range, unless it is a boolean that `struct` takes as a truth
value.** -/
theorem encodeOdValue_error_iff {codec : Float32Codec F} {type : DataType} {value : OdValue F} :
    (∃ e, encodeOdValue codec type value = .error e) ↔
      OutOfRange codec type value ∧ ¬ WideBoolean type value := by
  unfold encodeOdValue OutOfRange WideBoolean
  rw [← format_eq_bool_iff]
  generalize type.format = format
  cases format with
  | bool =>
    unfold structPack
    dsimp only
    cases value.toInt with
    | error e =>
      refine ⟨fun _ => ⟨?_, ?_⟩, fun _ => ⟨e, rfl⟩⟩
      · intro i hi
        exact nomatch hi
      · rintro ⟨-, i, hi, -⟩
        exact nomatch hi
    | ok i =>
      constructor
      · rintro ⟨e, he⟩
        exact nomatch he
      · rintro ⟨hout, hwide⟩
        exact absurd ⟨rfl, i, rfl, hout i rfl⟩ hwide
  | integer signed bytes =>
    have hwide : ¬ (StructFormat.integer signed bytes = .bool ∧
        ∃ i, value.toInt = .ok i ∧ i ≠ 0 ∧ i ≠ 1) := fun h => nomatch h.1
    rw [iff_true_intro hwide, and_true]
    unfold structPack
    dsimp only
    cases value.toInt with
    | error e =>
      refine ⟨fun _ => ?_, fun _ => ⟨e, rfl⟩⟩
      intro i hi
      exact nomatch hi
    | ok i =>
      rw [Except.ok_bind]
      by_cases hfits : Bytes.Fits signed bytes i
      · rw [if_pos hfits]
        constructor
        · rintro ⟨e, he⟩
          exact nomatch he
        · intro hout
          exact absurd hfits (hout i rfl)
      · rw [if_neg hfits]
        refine ⟨fun _ => ?_, fun _ => ⟨_, rfl⟩⟩
        intro j hj
        rw [← Except.ok.inj hj]
        exact hfits
  | float =>
    have hwide : ¬ (StructFormat.float = .bool ∧ ∃ i, value.toInt = .ok i ∧ i ≠ 0 ∧ i ≠ 1) :=
      fun h => nomatch h.1
    rw [iff_true_intro hwide, and_true]
    unfold structPack
    dsimp only
    cases value.toFloat with
    | error e =>
      refine ⟨fun _ => ?_, fun _ => ⟨e, rfl⟩⟩
      intro x hx
      exact nomatch hx
    | ok x =>
      have hpack := codec.pack_error_iff x
      rw [Except.ok_bind]
      cases hresult : codec.pack x with
      | error e =>
        rw [hresult] at hpack
        refine ⟨fun _ => ?_, fun _ => ⟨e, rfl⟩⟩
        intro y hy
        rw [← Except.ok.inj hy]
        exact hpack.mp ⟨e, rfl⟩
      | ok bits =>
        rw [hresult] at hpack
        constructor
        · rintro ⟨e, he⟩
          exact nomatch he
        · intro hout
          obtain ⟨e, he⟩ := hpack.mpr (hout x rfl)
          exact nomatch he

theorem decodeOdValue_of_length (codec : Float32Codec F) {type : DataType} {payload : List Byte}
    (h : payload.length = type.format.size) : ∃ value, decodeOdValue codec type payload = .ok value := by
  have htake : payload.take type.format.size = payload := List.take_of_length_le h.le
  unfold decodeOdValue structUnpack
  rw [htake, if_neg (fun hne => hne h)]
  cases type.format <;> exact ⟨_, rfl⟩

/-! ## Mappings -/

/-- `PdoOdRole`. Its role is the field of a PDO that holds the value of the object. -/
structure PdoOdRole (F : Type) where
  role : String
  index : ℕ
  subindex : ℕ
  dataType : DataType
  default : OdValue F

/-- An object of a PDO: what `padding_object` and `object_entry` make of an item. -/
inductive PdoObject (F : Type)
  | padding (bitLength : ℕ)
  | role (item : PdoOdRole F)

/-- `byte_length`. -/
def PdoObject.byteLength : PdoObject F → ℕ
  | padding bitLength => bitLength / 8
  | role item => item.dataType.format.size

/-- `mapping_size`. -/
def mappingSize (objects : List (PdoObject F)) : ℕ := (objects.map PdoObject.byteLength).sum

/-- The role of an object that has a field. -/
def PdoObject.item? : PdoObject F → Option (PdoOdRole F)
  | padding _ => none
  | role item => some item

/-- The roles of the objects that have a field. -/
def mappedItems (objects : List (PdoObject F)) : List (PdoOdRole F) :=
  objects.filterMap PdoObject.item?

/-- A mapping of distinct fields and distinct objects. -/
structure PdoMapping (F : Type) where
  objects : List (PdoObject F)
  index_ne_zero : ∀ item ∈ mappedItems objects, item.index ≠ 0
  fields_nodup : ((mappedItems objects).map PdoOdRole.role).Nodup
  keys_nodup : ((mappedItems objects).map fun item => (item.index, item.subindex)).Nodup

/-- The loops that encode a payload: zeros for an object without a value, which `value` tells. -/
def encodeObjects (codec : Float32Codec F)
    (value : PdoObject F → Option (DataType × Except PyExc (OdValue F))) :
    List (PdoObject F) → Except PyExc (List Byte)
  | [] => .ok []
  | obj :: objects => match value obj with
    | none => do
      let payload ← encodeObjects codec value objects
      pure (List.replicate obj.byteLength 0 ++ payload)
    | some (type, result) => do
      let value' ← result
      let bytes ← encodeOdValue codec type value'
      let payload ← encodeObjects codec value objects
      pure (bytes ++ payload)

/-- `encode_mapping`. `source` are the fields of the PDO. -/
def encodeMapping (codec : Float32Codec F) (objects : List (PdoObject F))
    (source : String → OdValue F) : Except PyExc (List Byte) :=
  encodeObjects codec (fun obj => obj.item?.map fun item => (item.dataType, .ok (source item.role)))
    objects

/-- `decode_mapping`: the fields of the PDO, and whether a value raised. -/
def decodeMapping (codec : Float32Codec F) :
    (payload : List Byte) → List (PdoObject F) → (target : String → OdValue F) →
      (String → OdValue F) × Except PyExc Unit
  | _, [], target => (target, .ok ())
  | payload, obj :: objects, target =>
    let rawValue := payload.take obj.byteLength
    let rest := payload.drop obj.byteLength
    match obj.item? with
    | none => decodeMapping codec rest objects target
    | some item => match decodeOdValue codec item.dataType rawValue with
      | .error e => (target, .error e)
      | .ok value => decodeMapping codec rest objects (Function.update target item.role value)

/-- `decode_rxpdo`. -/
def decodeRxpdo (codec : Float32Codec F) (payload : List Byte) (objects : List (PdoObject F))
    (rxpdo : String → OdValue F) : (String → OdValue F) × Except PyExc Unit :=
  if payload.length < mappingSize objects then (rxpdo, .error .valueError)
  else decodeMapping codec payload objects rxpdo

/-- `reset_mapped_values`. -/
def resetMappedValues : List (PdoOdRole F) → (String → OdValue F) → String → OdValue F
  | [], txpdo => txpdo
  | item :: items, txpdo => resetMappedValues items (Function.update txpdo item.role item.default)

/-- `decode_txpdo`. -/
def decodeTxpdo (codec : Float32Codec F) (payload : List Byte) (objects : List (PdoObject F))
    (txpdo : String → OdValue F) : (String → OdValue F) × Except PyExc Unit :=
  if payload.length < mappingSize objects then (txpdo, .error .valueError)
  else decodeMapping codec payload objects (resetMappedValues (mappedItems objects) txpdo)

/-! ## What comes back of a mapping -/

/-- Each object of a payload holds its value. -/
def Holds (codec : Float32Codec F) (value : PdoOdRole F → OdValue F) :
    List (PdoObject F) → List Byte → Prop
  | [], _ => True
  | obj :: objects, payload =>
    (∀ item, obj.item? = some item →
      decodeOdValue codec item.dataType (payload.take obj.byteLength) = .ok (value item)) ∧
      Holds codec value objects (payload.drop obj.byteLength)

omit [PyFloat F] in
theorem mem_mappedItems {objects : List (PdoObject F)} {obj : PdoObject F} {item : PdoOdRole F}
    (hobj : obj ∈ objects) (hitem : obj.item? = some item) : item ∈ mappedItems objects :=
  List.mem_filterMap.mpr ⟨obj, hobj, hitem⟩

omit [PyFloat F] in
theorem byteLength_of_item? {obj : PdoObject F} {item : PdoOdRole F} (h : obj.item? = some item) :
    obj.byteLength = item.dataType.format.size := by
  cases obj with
  | padding bitLength => exact nomatch h
  | role item' =>
    obtain rfl := Option.some.inj h
    rfl

/-- **Values in range are encoded in the size of the mapping, each where its object is.** -/
theorem encodeObjects_holds {codec : Float32Codec F} (value : PdoOdRole F → OdValue F)
    {objects : List (PdoObject F)}
    (h : ∀ item ∈ mappedItems objects, InRange codec item.dataType (value item)) :
    ∃ payload, encodeObjects codec
        (fun obj => obj.item?.map fun item => (item.dataType, .ok (value item))) objects = .ok payload ∧
      payload.length = mappingSize objects ∧ Holds codec value objects payload := by
  induction objects with
  | nil => exact ⟨[], rfl, rfl, trivial⟩
  | cons obj objects ih =>
    have hrest : ∀ item ∈ mappedItems objects, InRange codec item.dataType (value item) := by
      intro item hitem
      obtain ⟨obj', hobj', hitem'⟩ := List.mem_filterMap.mp hitem
      exact h item (mem_mappedItems (List.mem_cons_of_mem _ hobj') hitem')
    obtain ⟨payload, hpayload, hlength, hholds⟩ := ih hrest
    have hassemble : ∀ bytes : List Byte, bytes.length = obj.byteLength →
        (∀ item, obj.item? = some item → decodeOdValue codec item.dataType bytes = .ok (value item)) →
        (bytes ++ payload).length = mappingSize (obj :: objects) ∧
          Holds codec value (obj :: objects) (bytes ++ payload) := by
      intro bytes hbytes hdecode
      refine ⟨?_, ?_⟩
      · rw [List.length_append, hbytes, hlength]
        rfl
      · unfold Holds
        rw [← hbytes, List.take_left, List.drop_left]
        exact ⟨hdecode, hholds⟩
    rw [encodeObjects, hpayload]
    cases hitem : obj.item? with
    | none =>
      refine ⟨_, rfl, hassemble _ (List.length_replicate) ?_⟩
      intro item hsome
      rw [hitem] at hsome
      exact nomatch hsome
    | some item =>
      obtain ⟨bytes, hencode, hbytes, hdecode⟩ :=
        decode_encode (h item (mem_mappedItems (List.mem_cons_self ..) hitem))
      refine ⟨bytes ++ payload, ?_, hassemble bytes (hbytes.trans (byteLength_of_item? hitem).symm) ?_⟩
      · show (encodeOdValue codec item.dataType (value item) >>= fun bytes => _) = _
        rw [hencode]
        rfl
      · intro item' hsome
        obtain rfl := Option.some.inj (hitem.symm.trans hsome)
        exact hdecode

/-- **A payload is refused exactly for a value that is.** -/
theorem encodeObjects_error_iff {codec : Float32Codec F} {value : PdoOdRole F → OdValue F}
    {objects : List (PdoObject F)} :
    (∃ e, encodeObjects codec
        (fun obj => obj.item?.map fun item => (item.dataType, .ok (value item))) objects = .error e) ↔
      ∃ item ∈ mappedItems objects, OutOfRange codec item.dataType (value item) ∧
        ¬ WideBoolean item.dataType (value item) := by
  induction objects with
  | nil =>
    constructor
    · rintro ⟨e, he⟩
      exact nomatch he
    · rintro ⟨item, hitem, -⟩
      exact nomatch hitem
  | cons obj objects ih =>
    rw [encodeObjects]
    cases hitem : obj.item? with
    | none =>
      have hitems : mappedItems (obj :: objects) = mappedItems objects :=
        List.filterMap_cons_none hitem
      rw [hitems, ← ih]
      show (∃ e, (encodeObjects codec _ objects >>= fun payload => _) = .error e) ↔ _
      cases encodeObjects codec _ objects with
      | error e => exact Iff.rfl
      | ok payload =>
        constructor
        · rintro ⟨e, he⟩
          exact nomatch he
        · rintro ⟨e, he⟩
          exact nomatch he
    | some item =>
      have hitems : mappedItems (obj :: objects) = item :: mappedItems objects :=
        List.filterMap_cons_some hitem
      rw [hitems, List.exists_mem_cons_iff, ← ih, ← encodeOdValue_error_iff]
      show (∃ e, (encodeOdValue codec item.dataType (value item) >>= fun bytes => _) = .error e) ↔ _
      cases encodeOdValue codec item.dataType (value item) with
      | error e => exact ⟨fun _ => Or.inl ⟨e, rfl⟩, fun _ => ⟨e, rfl⟩⟩
      | ok bytes =>
        rw [Except.ok_bind]
        cases encodeObjects codec _ objects with
        | error e => exact ⟨fun _ => Or.inr ⟨e, rfl⟩, fun _ => ⟨e, rfl⟩⟩
        | ok payload =>
          constructor
          · rintro ⟨e, he⟩
            exact nomatch he
          · rintro (⟨e, he⟩ | ⟨e, he⟩)
            · exact nomatch he
            · exact nomatch he

/-- **Decoding a payload sets each field to the value that it holds,** and no other field. -/
theorem decodeMapping_of_holds {codec : Float32Codec F} {value : PdoOdRole F → OdValue F}
    {objects : List (PdoObject F)} {payload : List Byte} (target : String → OdValue F)
    (hnodup : ((mappedItems objects).map PdoOdRole.role).Nodup)
    (h : Holds codec value objects payload) :
    ∃ target', decodeMapping codec payload objects target = (target', .ok ()) ∧
      (∀ item ∈ mappedItems objects, target' item.role = value item) ∧
      ∀ field, field ∉ (mappedItems objects).map PdoOdRole.role → target' field = target field := by
  induction objects generalizing payload target with
  | nil => exact ⟨target, rfl, fun item hitem => (nomatch hitem), fun field _ => rfl⟩
  | cons obj objects ih =>
    obtain ⟨hdecode, hrest⟩ := h
    rw [decodeMapping]
    cases hitem : obj.item? with
    | none =>
      have hitems : mappedItems (obj :: objects) = mappedItems objects :=
        List.filterMap_cons_none hitem
      rw [hitems] at hnodup ⊢
      exact ih target hnodup hrest
    | some item =>
      have hitems : mappedItems (obj :: objects) = item :: mappedItems objects :=
        List.filterMap_cons_some hitem
      rw [hitems, List.map_cons, List.nodup_cons] at hnodup
      obtain ⟨target', hresult, hset, hframe⟩ :=
        ih (Function.update target item.role (value item)) hnodup.2 hrest
      dsimp only
      rw [hdecode item hitem, hitems]
      refine ⟨target', hresult, ?_, ?_⟩
      · rintro item' (_ | ⟨_, hitem'⟩)
        · rw [hframe item.role hnodup.1, Function.update_self]
        · exact hset item' hitem'
      · intro field hfield
        rw [List.map_cons, List.mem_cons, not_or] at hfield
        rw [hframe field hfield.2, Function.update_of_ne hfield.1]

end Codec

end MotionServer
