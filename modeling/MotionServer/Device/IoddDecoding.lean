import MotionServer.Device.IoddCompiler
import MotionServer.Python.ExtRat

/-!
# Decoding with a compiled profile

* `repacked`: the integers and booleans of a decoded input, put back at their offsets;
* **`repacked_eq`**: these are the bits of the payload that their fields cover;
* **`decode_supported`**: what decoding gives for every supported layout and every payload.
-/

namespace MotionServer

variable {F : Type} [PyFloat F]

/-! ## Putting the values back -/

/-- The bits of an integer in a field. -/
def ProcessValue.rawBits (length : ℕ) : ProcessValue F → ℕ
  | int i => (i % 2 ^ length).toNat
  | float _ => 0

/-- The integers and booleans of decoded inputs at the offsets of their fields. -/
def repacked (layout : ProcessDataLayout F) (decoded : DecodedInputs F) : ℕ :=
  let numeric := (numericFields layout.fields).zip decoded.values
  let boolean := (booleanFields layout.fields).zip decoded.statusBits
  BitFields.pack ((numeric.filter fun entry => entry.1.plain).map
      (fun entry => (entry.1.bits, entry.2.value.rawBits entry.1.bits.length)) ++
    boolean.map fun entry => (entry.1.bits, if entry.2.active then 1 else 0))

/-- The fields of integers and booleans without a conversion. -/
def plainFields (fields : List (ProcessDataField F)) : List (ProcessDataField F) :=
  (numericFields fields).filter ProcessDataField.plain ++ booleanFields fields

theorem mem_plainFields {fields : List (ProcessDataField F)}
    (hsized : ∀ field ∈ fields, IoddProcessDataCompiler.WellSized field)
    (field : ProcessDataField F) :
    field ∈ plainFields fields ↔ field ∈ fields ∧ field.plain = true := by
  unfold plainFields numericFields booleanFields
  simp only [List.mem_append, List.mem_filter, decide_eq_true_eq, ne_eq]
  constructor
  · rintro (⟨⟨hmem, -⟩, hplain⟩ | ⟨hmem, hboolean⟩)
    · exact ⟨hmem, hplain⟩
    · refine ⟨hmem, ?_⟩
      unfold ProcessDataField.plain
      rw [((hsized field hmem).2 hboolean).2, hboolean]
      rfl
  · rintro ⟨hmem, hplain⟩
    by_cases hboolean : field.datatype = .boolean
    · exact Or.inr ⟨hmem, hboolean⟩
    · exact Or.inl ⟨⟨hmem, hboolean⟩, hplain⟩

/-- **The values put back are the bits that their fields cover.** -/
theorem repacked_eq (unpackFloat : ℕ → F) (raw : ℕ) {layout : ProcessDataLayout F}
    (hsized : ∀ field ∈ layout.fields, IoddProcessDataCompiler.WellSized field)
    (profile : Option ℤ) (name : String) :
    repacked layout ⟨profile, name, (numericFields layout.fields).map (decodedValue unpackFloat raw),
        (booleanFields layout.fields).map (statusBit raw)⟩ =
      raw &&& BitFields.cover ((plainFields layout.fields).map ProcessDataField.bits) := by
  have hnumeric : ∀ field ∈ (numericFields layout.fields).filter ProcessDataField.plain,
      (decodedValue unpackFloat raw field).value.rawBits field.bits.length =
        field.bits.extract raw := by
    intro field hfield
    obtain ⟨hmem, hplain⟩ := List.mem_filter.mp hfield
    have hpos := (hsized field (List.mem_of_mem_filter hmem)).1
    show ProcessValue.rawBits _ (field.value unpackFloat raw) = _
    rw [value_of_plain raw hplain]
    exact (rawValue_spec hpos raw).2
  have hboolean : ∀ field ∈ booleanFields layout.fields,
      (if (statusBit raw field).active then 1 else 0) = field.bits.extract raw := by
    intro field hfield
    obtain ⟨hmem, htype⟩ := List.mem_filter.mp hfield
    have hone := ((hsized field hmem).2 (of_decide_eq_true htype)).1
    have hlt := field.bits.extract_lt raw
    rw [hone] at hlt
    by_cases hzero : field.bits.extract raw = 0
    · simp [statusBit, hzero]
    · have hactive : (statusBit raw field).active = true := decide_eq_true hzero
      rw [if_pos hactive]
      omega
  have hzip : ∀ {α β : Type} (g : α → β) (l : List α), l.zip (l.map g) = l.map fun a => (a, g a) := by
    intro α β g l
    induction l with
    | nil => rfl
    | cons a l ih => rw [List.map_cons, List.zip_cons_cons, ih, List.map_cons]
  unfold repacked plainFields
  dsimp only
  rw [hzip, hzip, List.filter_map, List.map_map, List.map_map, List.map_append, ← BitFields.pack_extract,
    List.map_append, List.map_map, List.map_map]
  congr 2
  · exact List.map_congr_left fun field hfield => Prod.ext rfl (hnumeric field hfield)
  · exact List.map_congr_left fun field hfield => Prod.ext rfl (hboolean field hfield)

/-! ## What is decoded -/

theorem decodeFields_congr (unpackFloat : ℕ → F) {raw raw' : ℕ} {fields : List (ProcessDataField F)}
    (h : ∀ field ∈ fields, field.bits.extract raw' = field.bits.extract raw) :
    decodeFields unpackFloat raw' fields = decodeFields unpackFloat raw fields := by
  induction fields with
  | nil => rfl
  | cons field fields ih =>
    have hfield := h field (List.mem_cons_self ..)
    have hvalue : field.value unpackFloat raw' = field.value unpackFloat raw := by
      unfold ProcessDataField.value ProcessDataField.rawValue
      rw [hfield]
    rw [decodeFields, decodeFields, ih (fun field' hmem => h field' (List.mem_cons_of_mem _ hmem)),
      hfield, hvalue]

/-- What the decoded inputs say of the bits of a payload. -/
structure DecodesBits (layout : ProcessDataLayout F) (bit : ℕ → Bool) (decoded : DecodedInputs F) :
    Prop where
  /-- Every integer without a conversion is in the range of its field. -/
  inRange : List.Forall₂ (fun field value => value.subindex = field.subindex ∧
    (field.plain = true → ∃ i, value.value = .int i ∧ field.InRange i))
    (numericFields layout.fields) decoded.values
  /-- Every boolean has its status bit. -/
  status : List.Forall₂ (fun field status => status.subindex = field.subindex ∧
    status.bitOffset = field.bits.offset ∧ status.active = bit field.bits.offset)
    (booleanFields layout.fields) decoded.statusBits
  /-- Put back, the values are the bits that they cover. -/
  covered : ∀ i, (repacked layout decoded).testBit i = true ↔
    (∃ field ∈ layout.fields, field.plain = true ∧ field.bits.offset ≤ i ∧
      i < field.bits.offset + field.bits.length) ∧ bit i = true

theorem decodesBits_of_fields (unpackFloat : ℕ → F) {raw : ℕ} {bit : ℕ → Bool}
    {layout : ProcessDataLayout F} (hlaid : IoddProcessDataCompiler.LaidOut layout)
    (hbit : ∀ field ∈ layout.fields, ∀ i, i < field.bits.offset + field.bits.length →
      raw.testBit i = bit i) (profile : Option ℤ) (name : String) :
    DecodesBits layout bit ⟨profile, name,
      (numericFields layout.fields).map (decodedValue unpackFloat raw),
      (booleanFields layout.fields).map (statusBit raw)⟩ := by
  refine ⟨?_, ?_, ?_⟩
  · rw [List.forall₂_map_right_iff, List.forall₂_same]
    intro field hfield
    refine ⟨rfl, fun hplain => ⟨field.rawValue raw, value_of_plain raw hplain, ?_⟩⟩
    exact (rawValue_spec (hlaid.sized field (List.mem_of_mem_filter hfield)).1 raw).1
  · rw [List.forall₂_map_right_iff, List.forall₂_same]
    intro field hfield
    obtain ⟨hmem, htype⟩ := List.mem_filter.mp hfield
    have hone := ((hlaid.sized field hmem).2 (of_decide_eq_true htype)).1
    refine ⟨rfl, rfl, ?_⟩
    -- the field has one bit, so that it is zero exactly when its bit is not set
    have hlt := field.bits.extract_lt raw
    have hzero := field.bits.testBit_extract raw 0
    rw [hone, pow_one] at hlt
    rw [hone, Nat.add_zero, decide_eq_true one_pos, Bool.true_and,
      hbit field hmem _ (by omega)] at hzero
    show decide (field.bits.extract raw ≠ 0) = _
    rw [← hzero]
    obtain h | h : field.bits.extract raw = 0 ∨ field.bits.extract raw = 1 := by omega
    · rw [h]
      rfl
    · rw [h]
      rfl
  · intro i
    rw [repacked_eq unpackFloat raw hlaid.sized, Nat.testBit_and, Bool.and_eq_true,
      BitFields.testBit_cover]
    constructor
    · rintro ⟨hraw, bits, hbits, hlow, hhigh⟩
      obtain ⟨field, hfield, rfl⟩ := List.mem_map.mp hbits
      obtain ⟨hmem, hplain⟩ := (mem_plainFields hlaid.sized field).mp hfield
      exact ⟨⟨field, hmem, hplain, hlow, hhigh⟩, (hbit field hmem i hhigh) ▸ hraw⟩
    · rintro ⟨⟨field, hmem, hplain, hlow, hhigh⟩, hset⟩
      refine ⟨(hbit field hmem i hhigh).trans hset, field.bits, ?_, hlow, hhigh⟩
      exact List.mem_map_of_mem ((mem_plainFields hlaid.sized field).mpr ⟨hmem, hplain⟩)

/-- Every supported layout lies in the bytes of its profile, and every payload that has these bytes
is decoded, if only the floats and the converted values are finite. The result says of the integers
and booleans what the covered bits are, and no other bit matters. -/
theorem decode_supported {compiler : IoddProcessDataCompiler} {processData : XmlElement}
    {profile : IoddProcessDataInfo F} {layout : ProcessDataLayout F}
    (hprofile : IoddProcessDataCompiler.parseProcessDataProfile compiler processData = .ok profile)
    (hlayout : profile.inputLayout = some layout) (hsupported : layout.unsupportedReason = none) :
    (layout.fields.map ProcessDataField.bits).Pairwise BitFields.Field.Disjoint ∧
      (∀ field ∈ layout.fields,
        field.bits.offset + field.bits.length ≤ 8 * profile.inputBytes) ∧
      ∀ (unpackFloat : ℕ → F) (payload : List Byte), profile.inputBytes ≤ payload.length →
        (∀ field ∈ layout.fields, field.plain = false → (field.value unpackFloat
          (Bytes.toNatBE (payload.take profile.inputBytes))).isFinite = true) →
        (∃ decoded, decodeProcessData unpackFloat (some profile) payload true = .ok decoded ∧
          DecodesBits layout (payloadBit payload profile.inputBytes) decoded) ∧
        ∀ payload' : List Byte, profile.inputBytes ≤ payload'.length →
          (∀ field ∈ layout.fields, ∀ i, field.bits.offset ≤ i →
            i < field.bits.offset + field.bits.length →
            payloadBit payload' profile.inputBytes i = payloadBit payload profile.inputBytes i) →
          decodeProcessData unpackFloat (some profile) payload' true =
            decodeProcessData unpackFloat (some profile) payload true := by
  obtain ⟨hlaid, hbytes⟩ :=
    IoddProcessDataCompiler.inputBytes_of_supported hprofile hlayout hsupported
  have hinside : ∀ field ∈ layout.fields,
      field.bits.offset + field.bits.length ≤ 8 * profile.inputBytes := by
    intro field hfield
    have hle := hlaid.inside field hfield
    omega
  refine ⟨hlaid.disjoint, hinside, ?_⟩
  intro unpackFloat payload hlength hfinite
  have hbit : ∀ payload' : List Byte, profile.inputBytes ≤ payload'.length →
      ∀ field ∈ layout.fields, ∀ i, i < field.bits.offset + field.bits.length →
        (Bytes.toNatBE (payload'.take profile.inputBytes)).testBit i =
          payloadBit payload' profile.inputBytes i := by
    intro payload' hlength' field hfield i hi
    have hle := hinside field hfield
    exact testBit_payload hlength' (by omega)
  refine ⟨?_, ?_⟩
  · refine ⟨_, ?_, decodesBits_of_fields unpackFloat hlaid (hbit payload hlength)
      profile.conditionValue layout.name⟩
    rw [decodeProcessData_of_supported unpackFloat hlayout hsupported hlength, decodeFields_eq,
      if_pos]
    intro field hfield
    by_cases hplain : field.plain = true
    · rw [value_of_plain _ hplain]
      rfl
    · exact hfinite field (List.mem_of_mem_filter hfield) (eq_false_of_ne_true hplain)
  · intro payload' hlength' hsame
    have hextract : ∀ field ∈ layout.fields,
        field.bits.extract (Bytes.toNatBE (payload'.take profile.inputBytes)) =
          field.bits.extract (Bytes.toNatBE (payload.take profile.inputBytes)) := by
      intro field hfield
      apply Nat.eq_of_testBit_eq
      intro i
      rw [BitFields.Field.testBit_extract, BitFields.Field.testBit_extract]
      by_cases hi : i < field.bits.length
      · have hlt : field.bits.offset + i < field.bits.offset + field.bits.length := by omega
        rw [hbit payload hlength field hfield _ hlt, hbit payload' hlength' field hfield _ hlt,
          hsame field hfield _ (Nat.le_add_right _ _) hlt]
      · rw [decide_eq_false hi, Bool.false_and, Bool.false_and]
    rw [decodeProcessData_of_supported unpackFloat hlayout hsupported hlength,
      decodeProcessData_of_supported unpackFloat hlayout hsupported hlength',
      decodeFields_congr unpackFloat hextract]

/-! ## A record of two fields -/

/-- A boolean in the lowest bit, and an integer in the other seven. -/
def switchedProcessData : XmlElement :=
  let schemaType := "\x7bhttp://www.w3.org/2001/XMLSchema-instance\x7dtype"
  let item (subindex bitOffset type bitLength : String) : XmlElement :=
    .element "RecordItem" [("subindex", subindex), ("bitOffset", bitOffset)]
      [.element "SimpleDatatype" [(schemaType, type), ("bitLength", bitLength)] []]
  .element "ProcessData" [("id", "P_Switched")]
    [.element "ProcessDataIn" [("id", "PI_Switched"), ("bitLength", "8")]
      [.element "Datatype" [(schemaType, "RecordT"), ("bitLength", "8")]
        [item "1" "0" "BooleanT" "1", item "2" "1" "IntegerT" "7"]]]

def switchedLayout : ProcessDataLayout ExtRat :=
  ⟨"P_Switched", 8, [⟨1, "subindex_1", .boolean, ⟨0, 1⟩, none, .fin 1, .fin 0⟩,
    ⟨2, "subindex_2", .integer, ⟨1, 7⟩, none, .fin 1, .fin 0⟩], none⟩

theorem switchedProfile : IoddProcessDataCompiler.parseProcessDataProfile
    ⟨fun _ => [], fun _ => [], fun _ => none⟩ switchedProcessData =
      .ok ⟨"P_Switched", 1, 0, none, some switchedLayout⟩ := by
  decide +kernel

theorem decode_supported_switched : ∃ decoded,
    decodeProcessData (fun _ => ExtRat.nan) (some ⟨"P_Switched", 1, 0, none, some switchedLayout⟩)
        [0x83] true = .ok decoded ∧
      DecodesBits switchedLayout (payloadBit [0x83] 1) decoded :=
  ((decode_supported switchedProfile rfl rfl).2.2 (fun _ => ExtRat.nan) [0x83] (by decide)
    (by decide +kernel)).1

end MotionServer
