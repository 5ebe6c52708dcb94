import MotionServer.Lib.BitFields
import MotionServer.Lib.Bytes
import MotionServer.Python.Float

/-!
# Decoding IO-Link process data

* `ProcessDataField`, `ProcessDataLayout`: the compiled fields of the input of a device;
* `decodeProcessData`: the values of the fields in a payload;
* `payloadBit`: a bit of a payload, counted from the end of the bytes of the profile.
-/

namespace MotionServer

variable {F : Type} [PyFloat F]

/-- The data types that the compiler supports. -/
inductive FieldType
  | boolean
  | integer
  | uinteger
  | float32
  deriving DecidableEq

/-- `ProcessDataField`. The bits of the field are its offset and length. -/
structure ProcessDataField (F : Type) where
  subindex : ℤ
  name : String
  datatype : FieldType
  bits : BitFields.Field
  unit : Option String
  gradient : F
  offset : F
  deriving DecidableEq

/-- `ProcessDataLayout`. -/
structure ProcessDataLayout (F : Type) where
  name : String
  bitLength : ℕ
  fields : List (ProcessDataField F)
  unsupportedReason : Option String
  deriving DecidableEq

/-- `IoddProcessDataInfo`. -/
structure IoddProcessDataInfo (F : Type) where
  profileId : String
  inputBytes : ℕ
  outputBytes : ℕ
  conditionValue : Option ℤ
  inputLayout : Option (ProcessDataLayout F)
  deriving DecidableEq

/-- A value of a field. -/
inductive ProcessValue (F : Type)
  | int (i : ℤ)
  | float (x : F)

/-- An entry of `values`. -/
structure DecodedValue (F : Type) where
  subindex : ℤ
  name : String
  value : ProcessValue F
  unit : Option String

/-- An entry of `status_bits`. -/
structure StatusBit where
  subindex : ℤ
  bitOffset : ℕ
  name : String
  active : Bool

/-- The decoded inputs. -/
structure DecodedInputs (F : Type) where
  profile : Option ℤ
  profileName : String
  values : List (DecodedValue F)
  statusBits : List StatusBit

/-- What `decode_process_data` returns. -/
inductive DecodeResult (F : Type)
  | notConfigured
  | invalidData
  | unsupported
  | ok (decoded : DecodedInputs F)

/-- `math.isfinite`: an infinity or a NaN is no integer. -/
def isFinite (x : F) : Bool := (PyFloat.truncInt x).toOption.isSome

/-- The field has no conversion: `gradient == 1.0` and `offset == 0.0`. -/
def ProcessDataField.unscaled (field : ProcessDataField F) : Bool :=
  pyEq field.gradient 1.0 && pyEq field.offset 0.0

/-- The integer of a field that is no float. -/
def ProcessDataField.rawValue (field : ProcessDataField F) (raw : ℕ) : ℤ :=
  let bits := field.bits.extract raw
  match field.datatype with
  | .integer => BitFields.signed field.bits.length bits
  | _ => bits

/-- The value of a field that is no boolean. `unpackFloat` is `struct.unpack(">f", …)`. -/
def ProcessDataField.value (unpackFloat : ℕ → F) (field : ProcessDataField F) (raw : ℕ) :
    ProcessValue F :=
  match field.datatype, field.unscaled with
  | .float32, true => .float (unpackFloat (field.bits.extract raw))
  | .float32, false =>
    .float (unpackFloat (field.bits.extract raw) * field.gradient + field.offset)
  | _, true => .int (field.rawValue raw)
  | _, false => .float (PyFloat.ofInt (field.rawValue raw) * field.gradient + field.offset)

/-- An integer, or a float that is finite. -/
def ProcessValue.isFinite : ProcessValue F → Bool
  | int _ => true
  | float x => MotionServer.isFinite x

/-- The loop of `decode_process_data`: the values and the status bits, unless a value is not
finite. -/
def decodeFields (unpackFloat : ℕ → F) (raw : ℕ) :
    List (ProcessDataField F) → Option (List (DecodedValue F) × List StatusBit)
  | [] => some ([], [])
  | field :: fields =>
    if field.datatype = .boolean then do
      let rest ← decodeFields unpackFloat raw fields
      let active := decide (field.bits.extract raw ≠ 0)
      pure (rest.1, ⟨field.subindex, field.bits.offset, field.name, active⟩ :: rest.2)
    else
      let value := field.value unpackFloat raw
      if value.isFinite then do
        let rest ← decodeFields unpackFloat raw fields
        pure (⟨field.subindex, field.name, value, field.unit⟩ :: rest.1, rest.2)
      else none

/-- `decode_process_data`. -/
def decodeProcessData (unpackFloat : ℕ → F) (profile : Option (IoddProcessDataInfo F))
    (payload : List Byte) (dataValid : Bool) : DecodeResult F :=
  match profile with
  | none => .notConfigured
  | some profile =>
    if dataValid = false ∨ payload.length < profile.inputBytes then .invalidData
    else match profile.inputLayout.filter fun layout => layout.unsupportedReason.isNone with
      | none => .unsupported
      | some layout =>
        let raw := Bytes.toNatBE (payload.take profile.inputBytes)
        match decodeFields unpackFloat raw layout.fields with
        | some decoded => .ok ⟨profile.conditionValue, layout.name, decoded.1, decoded.2⟩
        | none => .invalidData

/-! ## What is decoded -/

/-- The fields whose values are listed, and the fields whose bits are. -/
def numericFields (fields : List (ProcessDataField F)) : List (ProcessDataField F) :=
  fields.filter fun field => field.datatype ≠ .boolean

def booleanFields (fields : List (ProcessDataField F)) : List (ProcessDataField F) :=
  fields.filter fun field => field.datatype = .boolean

/-- A field whose value is its integer: no float and not converted. -/
def ProcessDataField.plain (field : ProcessDataField F) : Bool :=
  field.unscaled && field.datatype ≠ .float32

/-- The entry of `values` for a field. -/
def decodedValue (unpackFloat : ℕ → F) (raw : ℕ) (field : ProcessDataField F) : DecodedValue F :=
  ⟨field.subindex, field.name, field.value unpackFloat raw, field.unit⟩

omit [PyFloat F] in
/-- The entry of `status_bits` for a field. -/
def statusBit (raw : ℕ) (field : ProcessDataField F) : StatusBit :=
  ⟨field.subindex, field.bits.offset, field.name, decide (field.bits.extract raw ≠ 0)⟩

/-- **The loop lists every field, unless a value is not finite.** -/
theorem decodeFields_eq (unpackFloat : ℕ → F) (raw : ℕ) (fields : List (ProcessDataField F)) :
    decodeFields unpackFloat raw fields =
      if ∀ field ∈ numericFields fields, (field.value unpackFloat raw).isFinite = true then
        some ((numericFields fields).map (decodedValue unpackFloat raw),
          (booleanFields fields).map (statusBit raw))
      else none := by
  induction fields with
  | nil => simp [decodeFields, numericFields, booleanFields]
  | cons field fields ih =>
    rw [decodeFields, ih]
    by_cases hboolean : field.datatype = .boolean
    · have hnumeric : numericFields (field :: fields) = numericFields fields :=
        List.filter_cons_of_neg (by simpa using hboolean)
      have hbits : booleanFields (field :: fields) = field :: booleanFields fields :=
        List.filter_cons_of_pos (by simpa using hboolean)
      rw [if_pos hboolean, hnumeric, hbits]
      split_ifs <;> rfl
    · have hnumeric : numericFields (field :: fields) = field :: numericFields fields :=
        List.filter_cons_of_pos (by simpa using hboolean)
      have hbits : booleanFields (field :: fields) = booleanFields fields :=
        List.filter_cons_of_neg (by simpa using hboolean)
      rw [if_neg hboolean, hnumeric, hbits]
      dsimp only
      by_cases hfinite : (field.value unpackFloat raw).isFinite = true
      · rw [if_pos hfinite]
        simp only [List.forall_mem_cons, hfinite, true_and]
        split_ifs <;> rfl
      · rw [if_neg hfinite, if_neg (fun h => hfinite (h field (List.mem_cons_self ..)))]

/-- A supported layout in a payload that is long enough: the result is that of the loop. -/
theorem decodeProcessData_of_supported (unpackFloat : ℕ → F)
    {profile : IoddProcessDataInfo F} {layout : ProcessDataLayout F} {payload : List Byte}
    (hlayout : profile.inputLayout = some layout) (hsupported : layout.unsupportedReason = none)
    (hlength : profile.inputBytes ≤ payload.length) :
    decodeProcessData unpackFloat (some profile) payload true =
      match decodeFields unpackFloat (Bytes.toNatBE (payload.take profile.inputBytes))
          layout.fields with
      | some decoded => .ok ⟨profile.conditionValue, layout.name, decoded.1, decoded.2⟩
      | none => .invalidData := by
  have hfilter : (profile.inputLayout.filter fun layout => layout.unsupportedReason.isNone) =
      some layout := by
    rw [hlayout, Option.filter_some, if_pos (by rw [hsupported]; rfl)]
  unfold decodeProcessData
  dsimp only
  rw [if_neg (by simp [hlength]), hfilter]

theorem value_of_plain {unpackFloat : ℕ → F} {field : ProcessDataField F} (raw : ℕ)
    (h : field.plain = true) : field.value unpackFloat raw = .int (field.rawValue raw) := by
  rw [ProcessDataField.plain, Bool.and_eq_true] at h
  obtain ⟨hunscaled, htype⟩ := h
  unfold ProcessDataField.value
  rw [hunscaled]
  cases hdatatype : field.datatype <;> first | rfl | simp [hdatatype] at htype

/-- The range of the integers of a field. -/
def ProcessDataField.InRange (field : ProcessDataField F) (i : ℤ) : Prop :=
  if field.datatype = .integer then
    -2 ^ (field.bits.length - 1) ≤ i ∧ i < 2 ^ (field.bits.length - 1)
  else 0 ≤ i ∧ i < 2 ^ field.bits.length

omit [PyFloat F] in
/-- **The integer of a field is in its range, and its low bits are those of the field.** -/
theorem rawValue_spec {field : ProcessDataField F} (hlength : 0 < field.bits.length) (raw : ℕ) :
    field.InRange (field.rawValue raw) ∧
      (field.rawValue raw % 2 ^ field.bits.length).toNat = field.bits.extract raw := by
  have hlt := field.bits.extract_lt raw
  have hlt' : (field.bits.extract raw : ℤ) < 2 ^ field.bits.length := by exact_mod_cast hlt
  unfold ProcessDataField.InRange ProcessDataField.rawValue
  by_cases hinteger : field.datatype = .integer
  · obtain ⟨hlow, hhigh, hmod⟩ := BitFields.signed_spec hlength hlt
    rw [if_pos hinteger, hinteger]
    exact ⟨⟨hlow, hhigh⟩, by rw [hmod]; rfl⟩
  · rw [if_neg hinteger]
    have hmod : (field.bits.extract raw : ℤ) % 2 ^ field.bits.length = field.bits.extract raw :=
      Int.emod_eq_of_lt (by omega) hlt'
    cases hdatatype : field.datatype with
    | integer => exact absurd hdatatype hinteger
    | boolean => exact ⟨⟨Int.natCast_nonneg _, hlt'⟩, by rw [hmod]; rfl⟩
    | uinteger => exact ⟨⟨Int.natCast_nonneg _, hlt'⟩, by rw [hmod]; rfl⟩
    | float32 => exact ⟨⟨Int.natCast_nonneg _, hlt'⟩, by rw [hmod]; rfl⟩

/-! ## The bits of a payload -/

/-- Bit `i` of the bytes of the profile, counted from the end of the last byte. -/
def payloadBit (payload : List Byte) (inputBytes i : ℕ) : Bool :=
  (payload[inputBytes - 1 - i / 8]?.getD 0).getLsbD (i % 8)

theorem testBit_payload {payload : List Byte} {inputBytes i : ℕ}
    (hlength : inputBytes ≤ payload.length) (hi : i < 8 * inputBytes) :
    (Bytes.toNatBE (payload.take inputBytes)).testBit i = payloadBit payload inputBytes i := by
  have htake : (payload.take inputBytes).length = inputBytes := List.length_take_of_le hlength
  rw [Bytes.testBit_toNatBE (by rw [htake]; exact hi), htake, payloadBit,
    List.getElem?_take_of_lt (by omega)]

end MotionServer
