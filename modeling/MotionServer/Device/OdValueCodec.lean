import MotionServer.Device.VirtualOdBridge
import MotionServer.Python.Value
import Mathlib.Data.List.Infix
import Mathlib.Logic.Function.Basic

/-!
# Values of objects by the names of their types

* `normalizeOdDataType`: the names of data types and their aliases;
* `OdEntryValue`, `encodeNamedValue`, `decodeNamedValue`: the codec for every name;
* `VirtualOd`, `readSdo`, `writeSdo`: the objects of a virtual device, as SDO accesses see them;
* `NamedWidth`, `FallbackName`: the names of integers, with a width of their own and without one;
* **`integerExact_iff`**: which integers come back.
-/

namespace MotionServer

/-! ## Names of data types -/

/-- `s.upper()`, as far as the result has letters that are compared with an alias. -/
def pyUpper (s : String) : String :=
  String.ofList (s.toList.map fun c =>
    if 'a' ≤ c ∧ c ≤ 'z' then Char.ofNat (c.toNat - 32)
    else if c.toNat = 0x131 then 'I' else if c.toNat = 0x17F then 'S' else c)

/-- `_DATA_TYPE_ALIASES`. -/
def dataTypeAliases : List (String × String) :=
  [("BOOL", "bool"), ("USINT", "uint8"), ("BYTE", "uint8"), ("SINT", "int8"), ("UINT", "uint16"),
    ("WORD", "uint16"), ("INT", "int16"), ("UDINT", "uint32"), ("DWORD", "uint32"),
    ("DINT", "int32"), ("ULINT", "uint64"), ("LINT", "int64"), ("REAL", "float32")]

/-- `normalize_od_data_type`. -/
def normalizeOdDataType (dataType : String) : String :=
  let name := pyStrip dataType
  (dataTypeAliases.lookup (pyUpper name)).getD (pyLower name)

/-- `DATA_TYPE_FORMATS.get`. -/
def DataType.ofName? : String → Option DataType
  | "bool" => some bool
  | "uint8" => some uint8
  | "int8" => some int8
  | "uint16" => some uint16
  | "int16" => some int16
  | "uint32" => some uint32
  | "int32" => some int32
  | "uint64" => some uint64
  | "int64" => some int64
  | "float32" => some float32
  | _ => none

/-- `part in text`. -/
def hasPart (text part : String) : Bool := decide (part.toList <:+: text.toList)

/-- `is_byte_array_type`. -/
def isByteArrayType (normalized : String) : Bool :=
  normalized ∈ ["byte_array", "octet_string"] ||
    (hasPart normalized "array" && hasPart normalized "byte")

/-! ## The codec -/

/-- A value in the object dictionary. -/
inductive OdEntryValue (F : Type)
  | number (value : OdValue F)
  | text (s : String)
  | bytes (payload : List Byte)
  deriving DecidableEq

section Codec

variable {F : Type} [PyFloat F]

/-- `int(payload)`: ASCII digits, with ASCII blanks around them. -/
def parseIntBytes (payload : List Byte) : Option ℤ :=
  let isBlank (b : Byte) : Bool := b = 0x20 || (0x09 ≤ b && b ≤ 0x0D)
  let stripped := ((payload.dropWhile isBlank).reverse.dropWhile isBlank).reverse
  if stripped.all fun b => b.toNat < 128 then
    parseSigned parseDecimalDigits (stripped.map fun b => Char.ofNat b.toNat)
  else none

/-- `int(value)`. -/
def OdEntryValue.toInt : OdEntryValue F → Except PyExc ℤ
  | number value => value.toInt
  | text s => match parseIntLiteral false s with
    | some i => .ok i
    | none => .error .valueError
  | bytes payload => match parseIntBytes payload with
    | some i => .ok i
    | none => .error .valueError

omit [PyFloat F] in
/-- `bytes(value)`. -/
def OdEntryValue.toBytes : OdEntryValue F → Except PyExc (List Byte)
  | number (.int i) => if i < 0 then .error .valueError else .ok (List.replicate i.toNat 0)
  | bytes payload => .ok payload
  | _ => .error .typeError

omit [PyFloat F] in
/-- `str(value)`. `repr` gives the texts of floats and of bytes. -/
def OdEntryValue.pyStr (repr : OdEntryValue F → String) : OdEntryValue F → String
  | number (.int i) => toString i
  | text s => s
  | value => repr value

/-- `s.encode("ascii", errors="replace")`. -/
def asciiBytes (s : String) : List Byte :=
  s.toList.map fun c => BitVec.ofNat 8 (if c.toNat < 128 then c.toNat else 0x3F)

/-- `payload.decode("ascii", errors="replace")`. -/
def asciiText (payload : List Byte) : String :=
  String.ofList (payload.map fun b => Char.ofNat (if b.toNat < 128 then b.toNat else 0xFFFD))

/-- `i.to_bytes(size, "little", signed=i < 0)`. -/
def intToBytes (size : ℕ) (i : ℤ) : Except PyExc (List Byte) :=
  if Bytes.Fits (decide (i < 0)) size i then .ok (Bytes.ofIntLE size i) else .error .overflowError

/-- The bytes of a number: in the format of its type, or as many as are asked for. -/
def encodeNumber (codec : Float32Codec F) :
    Option DataType → OdEntryValue F → (size : Option ℕ) → Except PyExc (List Byte)
  | some .float32, .number value, _ => encodeOdValue codec .float32 value
  | some .float32, _, _ => .error .structError
  | some type, value, _ => do
    let i ← value.toInt
    encodeOdValue codec type (.int i)
  | none, _, none => .error .valueError
  | none, value, some size => do
    let i ← value.toInt
    intToBytes size i

/-- `encode_od_value`. -/
def encodeNamedValue (codec : Float32Codec F) (repr : OdEntryValue F → String) (dataType : String)
    (value : OdEntryValue F) (size : Option ℕ) : Except PyExc (List Byte) :=
  let normalized := normalizeOdDataType dataType
  if isByteArrayType normalized then do
    let payload ← value.toBytes
    match size with
    | none => pure payload
    | some size => pure (payload.take size ++ List.replicate (size - payload.length) 0)
  else if hasPart normalized "string" then
    let payload := asciiBytes (value.pyStr repr)
    .ok (size.elim payload payload.take)
  else encodeNumber codec (DataType.ofName? normalized) value size

/-- `decode_od_value`. -/
def decodeNamedValue (codec : Float32Codec F) (dataType : String) (payload : List Byte) :
    Except PyExc (OdEntryValue F) :=
  let normalized := normalizeOdDataType dataType
  if isByteArrayType normalized then .ok (.bytes payload)
  else if hasPart normalized "string" then .ok (.text (asciiText (payload.takeWhile (· ≠ 0))))
  else match DataType.ofName? normalized with
    | some type => .number <$> decodeOdValue codec type payload
    | none => .ok (.number (.int (Bytes.toNatLE payload)))

end Codec

/-! ## The objects of a virtual device -/

/-- What a `VirtualOdDefinition` says of SDO accesses. -/
structure VirtualOdDefinition where
  dataType : String
  access : String

/-- The entries of a `VirtualOdModel`, by index and subindex. -/
abbrev VirtualOd (F : Type) := ℕ × ℕ → Option (VirtualOdDefinition × OdEntryValue F)

/-- How an SDO access of the bridge fails. -/
inductive SdoFailure
  | objectNotFound (index subindex : ℕ)
  | rejected (operation : String)
  | python (e : PyExc)
  deriving DecidableEq

section Bridge

variable {F : Type} [PyFloat F]

/-- An exception of the codec goes through the bridge. -/
def raised {α : Type} : Except PyExc α → Except SdoFailure α
  | .ok a => .ok a
  | .error e => .error (.python e)

/-- `VirtualOdBridge.read_sdo`. -/
def VirtualOdBridge.readSdo (codec : Float32Codec F) (repr : OdEntryValue F → String) (od : VirtualOd F)
    (index subindex size : ℕ) : Except SdoFailure (List Byte) :=
  match od (index, subindex) with
  | none => .error (.objectNotFound index subindex)
  | some (definition, value) =>
    raised (encodeNamedValue codec repr definition.dataType value (some size))

/-- `VirtualOdBridge.write_sdo`. -/
def VirtualOdBridge.writeSdo (codec : Float32Codec F) (od : VirtualOd F) (index subindex : ℕ)
    (payload : List Byte) : Except SdoFailure (VirtualOd F) :=
  match od (index, subindex) with
  | none => .error (.objectNotFound index subindex)
  | some (definition, _) =>
    if pyLower definition.access = "ro" then .error (.rejected "sdo_write")
    else (raised (decodeNamedValue codec definition.dataType payload)).map fun value =>
      Function.update od (index, subindex) (some (definition, value))

end Bridge

/-! ## Names of integers -/

/-- The name is that of an integer type: it is read as no text, no bytes and no float. -/
structure IntegerName (dataType : String) : Prop where
  not_bytes : isByteArrayType (normalizeOdDataType dataType) = false
  not_text : hasPart (normalizeOdDataType dataType) "string" = false
  not_float : DataType.ofName? (normalizeOdDataType dataType) ≠ some .float32

instance : DecidablePred IntegerName := fun dataType =>
  decidable_of_iff (isByteArrayType (normalizeOdDataType dataType) = false ∧
      hasPart (normalizeOdDataType dataType) "string" = false ∧
      DataType.ofName? (normalizeOdDataType dataType) ≠ some .float32)
    ⟨fun ⟨h₁, h₂, h₃⟩ => ⟨h₁, h₂, h₃⟩, fun h => ⟨h.1, h.2, h.3⟩⟩

/-- The name has no format of its own: its values have the size that is asked for. -/
def FallbackName (dataType : String) : Prop :=
  DataType.ofName? (normalizeOdDataType dataType) = none

/-- The name is one of the booleans. -/
def BooleanName (dataType : String) : Prop :=
  DataType.ofName? (normalizeOdDataType dataType) = some .bool

section Exact

variable {F : Type} [PyFloat F] (codec : Float32Codec F) (repr : OdEntryValue F → String)

/-- An integer that the codec accepts comes back, from its bytes and from an object of the type that
it is written to. -/
def IntegerExact (dataType : String) (size : ℕ) (i : ℤ) : Prop :=
  ∀ payload, encodeNamedValue codec repr dataType (.number (.int i)) (some size) = .ok payload →
    decodeNamedValue codec dataType payload = .ok (.number (.int i)) ∧
    ∀ (od : VirtualOd F) (index subindex : ℕ) (definition : VirtualOdDefinition)
      (old : OdEntryValue F), od (index, subindex) = some (definition, old) →
      definition.dataType = dataType → pyLower definition.access ≠ "ro" →
      ∃ od', VirtualOdBridge.writeSdo codec od index subindex payload = .ok od' ∧
        od' (index, subindex) = some (definition, .number (.int i)) ∧
        VirtualOdBridge.readSdo codec repr od' index subindex size = .ok payload

variable {codec repr}

/-- What is decoded is what the object has and what is read back. -/
theorem integerExact_iff_decode {dataType : String} {size : ℕ} {i : ℤ} :
    IntegerExact codec repr dataType size i ↔ ∀ payload,
      encodeNamedValue codec repr dataType (.number (.int i)) (some size) = .ok payload →
        decodeNamedValue codec dataType payload = .ok (.number (.int i)) := by
  constructor
  · intro h payload hencode
    exact (h payload hencode).1
  · intro h payload hencode
    have hdecode := h payload hencode
    refine ⟨hdecode, ?_⟩
    rintro od index subindex definition old hod rfl haccess
    refine ⟨Function.update od (index, subindex) (some (definition, .number (.int i))), ?_, ?_, ?_⟩
    · simp only [VirtualOdBridge.writeSdo, hod, if_neg haccess, hdecode, raised]
      rfl
    · exact Function.update_self ..
    · rw [VirtualOdBridge.readSdo, Function.update_self]
      simp only [hencode, raised]

/-! ## The codec of an integer -/

theorem encode_integer {dataType : String} (hname : IntegerName dataType) (size : ℕ) (i : ℤ) :
    encodeNamedValue codec repr dataType (.number (.int i)) (some size) =
      encodeNumber codec (DataType.ofName? (normalizeOdDataType dataType)) (.number (.int i))
        (some size) := by
  unfold encodeNamedValue
  dsimp only
  rw [hname.not_bytes, if_neg Bool.false_ne_true, hname.not_text, if_neg Bool.false_ne_true]

theorem decode_width {dataType : String} (hname : IntegerName dataType) {type : DataType}
    (htype : DataType.ofName? (normalizeOdDataType dataType) = some type) (payload : List Byte) :
    decodeNamedValue codec dataType payload = .number <$> decodeOdValue codec type payload := by
  unfold decodeNamedValue
  dsimp only
  rw [hname.not_bytes, if_neg Bool.false_ne_true, hname.not_text, if_neg Bool.false_ne_true, htype]

theorem decode_fallback {dataType : String} (hname : IntegerName dataType)
    (htype : FallbackName dataType) (payload : List Byte) :
    decodeNamedValue codec dataType payload =
      .ok (.number (.int (Bytes.toNatLE payload : ℤ))) := by
  unfold FallbackName at htype
  unfold decodeNamedValue
  dsimp only
  rw [hname.not_bytes, if_neg Bool.false_ne_true, hname.not_text, if_neg Bool.false_ne_true, htype]

/-- A type with a width encodes as it does without its name. -/
theorem encodeNumber_width (type : DataType) (size : ℕ) (i : ℤ) :
    encodeNumber codec (some type) (.number (.int i)) (some size) =
      encodeOdValue codec type (.int i) := by
  cases type <;> rfl

/-! ## Integers that come back -/

/-- A type with a width gives back what it accepts, unless it takes an integer for a truth value. -/
theorem exact_width_iff {dataType : String} (hname : IntegerName dataType) {type : DataType}
    (htype : DataType.ofName? (normalizeOdDataType dataType) = some type) (size : ℕ) (i : ℤ) :
    IntegerExact codec repr dataType size i ↔ (type = .bool → i = 0 ∨ i = 1) := by
  rw [integerExact_iff_decode, encode_integer hname, htype, encodeNumber_width]
  constructor
  · rintro h rfl
    have hdecode := h _ rfl
    rw [decode_width hname htype] at hdecode
    by_cases hi : i = 0
    · exact Or.inl hi
    · right
      -- the only other truth value is decoded to one
      dsimp only at hdecode
      rw [if_neg hi] at hdecode
      have hone : (1 : ℤ) = i := by
        obtain ⟨value, hvalue, heq⟩ := Except.map_eq_ok.mp hdecode
        cases hvalue
        cases heq
        rfl
      exact hone.symm
  · intro h payload hencode
    have hrange : InRange codec type (.int i) := by
      unfold encodeOdValue structPack at hencode
      unfold InRange
      cases hformat : type.format with
      | bool => exact h (format_eq_bool_iff.mp hformat)
      | integer signed bytes =>
        rw [hformat] at hencode
        obtain ⟨j, hj, hpack⟩ := Except.bind_eq_ok.mp hencode
        obtain rfl := Except.ok.inj hj
        by_cases hfits : Bytes.Fits signed bytes i
        · exact hfits
        · rw [if_neg hfits] at hpack
          cases hpack
      | float =>
        have hfloat : type = .float32 := by cases type <;> first | rfl | cases hformat
        exact absurd (hfloat ▸ htype) hname.not_float
    obtain ⟨payload', hencode', -, hdecode⟩ := decode_encode hrange
    rw [hencode] at hencode'
    obtain rfl := Except.ok.inj hencode'
    rw [decode_width hname htype, hdecode]
    rfl

/-- The negative integers of a size. -/
def NegativeOfSize (size : ℕ) (i : ℤ) : Prop := i < 0 ∧ -(256 ^ size : ℕ) ≤ 2 * i

/-- A type without a width gives back what it accepts, but no negative integer. -/
theorem exact_fallback_iff {dataType : String} (hname : IntegerName dataType)
    (htype : FallbackName dataType) (size : ℕ) (i : ℤ) :
    IntegerExact codec repr dataType size i ↔ ¬ NegativeOfSize size i := by
  have hformat : DataType.ofName? (normalizeOdDataType dataType) = none := htype
  rw [integerExact_iff_decode, encode_integer hname, hformat]
  show (∀ payload, intToBytes size i = .ok payload → _) ↔ _
  unfold intToBytes
  by_cases hneg : i < 0
  · have hfits : Bytes.Fits (decide (i < 0)) size i ↔ -(256 ^ size : ℕ) ≤ 2 * i := by
      have hpos : (0 : ℤ) < (256 ^ size : ℕ) := by positivity
      simp only [hneg, decide_true, Bytes.Fits, if_true]
      omega
    constructor
    · rintro h ⟨-, hlow⟩
      -- the bytes of a negative integer are read as one that is not
      rw [if_pos (hfits.mpr hlow)] at h
      have hdecode := h _ rfl
      rw [decode_fallback hname htype] at hdecode
      simp only [Except.ok.injEq, OdEntryValue.number.injEq, OdValue.int.injEq] at hdecode
      omega
    · intro h payload hencode
      rw [if_neg fun hf => h ⟨hneg, hfits.mp hf⟩] at hencode
      cases hencode
  · refine ⟨fun _ h => hneg h.1, ?_⟩
    intro _ payload hencode
    rw [decide_eq_false hneg] at hencode
    by_cases hfits : Bytes.Fits false size i
    · rw [if_pos hfits] at hencode
      obtain rfl := Except.ok.inj hencode
      have hread : (Bytes.toNatLE (Bytes.ofIntLE size i) : ℤ) = i := by
        rcases Nat.eq_zero_or_pos size with rfl | hsize
        · obtain ⟨hlow, hhigh⟩ := hfits
          have hzero : i = 0 := by omega
          rw [hzero]
          rfl
        · exact Bytes.toInt_ofIntLE hsize hfits
      rw [decode_fallback hname htype, hread]
    · rw [if_neg hfits] at hencode
      cases hencode

/-- **An integer that is accepted comes back exactly when** it is a truth value, where its type is
boolean, and not negative, where its type has no width of its own. -/
theorem integerExact_iff {dataType : String} (hname : IntegerName dataType) (size : ℕ) (i : ℤ) :
    IntegerExact codec repr dataType size i ↔
      (BooleanName dataType → i = 0 ∨ i = 1) ∧
        (FallbackName dataType → ¬ NegativeOfSize size i) := by
  cases htype : DataType.ofName? (normalizeOdDataType dataType) with
  | some type =>
    have hfallback : ¬ FallbackName dataType := by
      intro h
      rw [FallbackName, htype] at h
      cases h
    have hboolean : BooleanName dataType ↔ type = .bool := by
      rw [BooleanName, htype, Option.some.injEq]
    rw [exact_width_iff hname htype, hboolean, iff_true_intro fun h => absurd h hfallback, and_true]
  | none =>
    have hboolean : ¬ BooleanName dataType := by
      intro h
      rw [BooleanName, htype] at h
      cases h
    rw [exact_fallback_iff hname htype, iff_true_intro fun h => absurd h hboolean, true_and]
    exact ⟨fun h _ => h, fun h => h htype⟩

end Exact

theorem integerExact_iff_dint :
    IntegerExact withoutFloats (fun _ => "") " dInt" 4 (-2147483648) ↔
      (BooleanName " dInt" → (-2147483648 : ℤ) = 0 ∨ (-2147483648 : ℤ) = 1) ∧
        (FallbackName " dInt" → ¬ NegativeOfSize 4 (-2147483648)) :=
  integerExact_iff (by decide +kernel) 4 (-2147483648)

/-- A negative integer of a type without a width comes back as another one. -/
theorem int24_not_exact :
    IntegerName "int24" ∧
      encodeNamedValue withoutFloats (fun _ => "") "int24" (.number (.int (-1))) (some 3) =
        .ok [0xFF, 0xFF, 0xFF] ∧
      decodeNamedValue withoutFloats "int24" [0xFF, 0xFF, 0xFF] =
        .ok (.number (.int 16777215)) ∧
      ¬ IntegerExact withoutFloats (fun _ => "") "int24" 3 (-1) := by
  have hname : IntegerName "int24" := by decide +kernel
  have hfallback : FallbackName "int24" := by
    unfold FallbackName
    decide +kernel
  refine ⟨hname, by decide +kernel, by decide +kernel, ?_⟩
  rw [exact_fallback_iff hname hfallback, not_not]
  exact ⟨by decide, by decide⟩

end MotionServer
