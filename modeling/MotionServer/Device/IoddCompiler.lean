import MotionServer.Device.ProcessData
import MotionServer.Lib.Except
import MotionServer.Python.Numerals
import MotionServer.Python.Value

/-!
# Compiling the process data of an IODD

* `XmlElement`: an element of the device description;
* `IoddProcessDataCompiler.field`, `compile`: the fields of an input, or why it is not supported;
* `parseProcessDataProfile`: the profile of a `ProcessData` element;
* **`compile_supported`**: what holds of the fields of a layout that is supported;
* `inputBytes_of_supported`: the bytes of a profile are those of its layout.
-/

namespace MotionServer

variable {F : Type} [PyFloat F]

/-! ## Elements -/

/-- An element of an XML document. -/
inductive XmlElement
  | element (tag : String) (attributes : List (String × String)) (children : List XmlElement)

namespace XmlElement

def tag : XmlElement → String
  | element tag _ _ => tag

def attributes : XmlElement → List (String × String)
  | element _ attributes _ => attributes

def children : XmlElement → List XmlElement
  | element _ _ children => children

/-- `element.get(key)`. -/
def get? (e : XmlElement) (key : String) : Option String :=
  (e.attributes.find? fun entry => entry.1 == key).map (·.2)

/-- `element.get(key, default)`. -/
def getD (e : XmlElement) (key default : String) : String := (e.get? key).getD default

end XmlElement

/-- What follows the last separator: `text.split(separator)[-1]`. -/
def afterLast (separator : Char) (text : String) : String :=
  String.ofList (text.toList.reverse.takeWhile (· ≠ separator)).reverse

/-- `_local`. -/
def localTag (e : XmlElement) : String := afterLast '\x7d' e.tag

/-- `_child`. -/
def childNamed (e : XmlElement) (name : String) : Option XmlElement :=
  e.children.find? fun item => localTag item == name

/-- `_type`. -/
def elementType (e : XmlElement) : String :=
  afterLast ':' (e.getD "\x7bhttp://www.w3.org/2001/XMLSchema-instance\x7dtype" "")

/-! ## The compiler -/

/-- `IoddProcessDataCompiler`: the data types and conversions by id, and the texts. -/
structure IoddProcessDataCompiler where
  datatypes : Option String → List XmlElement
  references : Option String → List XmlElement
  texts : String → Option String

/-- `UNIT_SYMBOLS`. -/
def unitSymbol (code : ℤ) : Option String :=
  if code = 1001 then some "°C"
  else if code = 1062 then some "mm/s"
  else if code = 1658 then some "g"
  else none

/-- `int(text)` of an attribute. -/
def attributeInt (text : String) : Except String ℤ :=
  match parseIntLiteral false text with
  | some i => .ok i
  | none => .error "invalid literal for int()"

/-- `float(text)` of an attribute. -/
def attributeFloat (text : String) : Except String F :=
  match parseFloatLiteral text with
  | some literal => .ok (PyFloat.ofLiteral literal)
  | none => .error "could not convert string to float"

namespace IoddProcessDataCompiler

/-- `name`. -/
def name (compiler : IoddProcessDataCompiler) (element : Option XmlElement) (fallback : String) :
    String :=
  match element.bind (childNamed · "Name") with
  | none => fallback
  | some name =>
    let textId := name.getD "textId" ""
    let text := (compiler.texts textId).getD textId
    if text = "" then fallback else text

/-- `datatype`. -/
def datatype (compiler : IoddProcessDataCompiler) (element : XmlElement) :
    Except String XmlElement :=
  let inline := (childNamed element "Datatype").or (childNamed element "SimpleDatatype")
  let missing := "Missing or ambiguous Datatype/DatatypeRef"
  match inline, childNamed element "DatatypeRef" with
  | some datatype, none => .ok datatype
  | none, some reference => match compiler.datatypes (reference.get? "datatypeId") with
    | [datatype] => .ok datatype
    | _ => .error missing
  | _, _ => .error missing

/-- The data type and the bits that `field` reads from the type of a field. -/
def fieldType (datatype : XmlElement) : Except String (FieldType × ℕ) :=
  let integerBits (type : FieldType) : Except String (FieldType × ℕ) := do
    let bits ← attributeInt (datatype.getD "bitLength" "0")
    if 1 ≤ bits ∧ bits ≤ 64 then pure (type, bits.toNat) else throw "Unsupported integer width"
  let kind := elementType datatype
  if kind = "BooleanT" then .ok (.boolean, 1)
  else if kind = "Float32T" then .ok (.float32, 32)
  else if kind = "IntegerT" then integerBits .integer
  else if kind = "UIntegerT" then integerBits .uinteger
  else .error ("Unsupported datatype: " ++ kind)

/-- A field before its offset is checked. -/
structure RawField (F : Type) where
  bitOffset : ℤ
  field : ProcessDataField F
  offset_eq : field.bits.offset = bitOffset.toNat

/-- `field`. -/
def field (datatype : XmlElement) (subindex bitOffset : ℤ) (name : String)
    (info : Option XmlElement) : Except String (RawField F) := do
  let type ← fieldType datatype
  let conversion (key default : String) := (info.bind (·.get? key)).getD default
  let gradient : F ← attributeFloat (conversion "gradient" "1")
  let offset : F ← attributeFloat (conversion "offset" "0")
  if isFinite gradient = false ∨ isFinite offset = false then throw "Non-finite conversion metadata"
  else if type.1 = .boolean ∧ (pyEq gradient 1.0 && pyEq offset 0.0) = false then
    throw "Boolean conversion is unsupported"
  else
    let unitCode ← attributeInt (conversion "unitCode" "0")
    pure ⟨bitOffset, ⟨subindex, name, type.1, ⟨bitOffset.toNat, type.2⟩, unitSymbol unitCode,
      gradient, offset⟩, rfl⟩

/-- The conversions of a reference by their subindices. -/
def conversionInfo : List (ℤ × XmlElement) → List XmlElement → Except String (List (ℤ × XmlElement))
  | info, [] => .ok info
  | info, item :: items =>
    if localTag item ∈ ["ProcessDataInfo", "ProcessDataRecordItemInfo"] then do
      let subindex ← attributeInt (item.getD "subindex" "0")
      if subindex ∈ info.map Prod.fst then throw "Duplicate conversion metadata"
      else conversionInfo (info ++ [(subindex, item)]) items
    else .error "Unsupported conversion metadata"

/-- `info.get(subindex)`. -/
def infoFor (info : List (ℤ × XmlElement)) (subindex : ℤ) : Option XmlElement :=
  (info.find? fun entry => entry.1 == subindex).map (·.2)

/-- The field of an item of a record. -/
def recordField (compiler : IoddProcessDataCompiler) (info : List (ℤ × XmlElement))
    (item : XmlElement) : Except String (RawField F) :=
  if localTag item ≠ "RecordItem" then .error "Unsupported Record structure"
  else do
    let subindex ← attributeInt (item.getD "subindex" "0")
    if 1 ≤ subindex ∧ subindex ≤ 255 then
      let datatype ← compiler.datatype item
      let bitOffset ← attributeInt (item.getD "bitOffset" "-1")
      field datatype subindex bitOffset
        (compiler.name (some item) ("subindex_" ++ toString subindex)) (infoFor info subindex)
    else throw "Invalid record subindex"

/-- The fields of a record, or the field of a scalar. -/
def inputFields (compiler : IoddProcessDataCompiler) (info : List (ℤ × XmlElement)) (bits : ℤ)
    (name : String) (datatype : XmlElement) : Except String (List (RawField F)) :=
  if elementType datatype = "RecordT" then do
    let recordBits ← attributeInt (datatype.getD "bitLength" "0")
    if recordBits = bits then datatype.children.mapM (recordField compiler info)
    else throw "Record and ProcessDataIn lengths differ"
  else do
    let field ← field datatype 0 0 name (infoFor info 0)
    if (field.field.bits.length : ℤ) = bits then pure [field]
    else throw "Scalar and ProcessDataIn lengths differ"

/-- The loop that checks the fields: their bounds, the bits used so far, and their subindices. -/
def checkFields (bits : ℤ) : (usedBits : ℕ) → (subindices : List ℤ) → List (RawField F) →
    Except String (List ℤ)
  | _, subindices, [] => .ok subindices
  | usedBits, subindices, raw :: fields =>
    let field := raw.field
    if raw.bitOffset < 0 ∨ bits < raw.bitOffset + field.bits.length then
      .error "Record field exceeds input bounds"
    else if usedBits &&& field.bits.mask ≠ 0 ∨ field.subindex ∈ subindices then
      .error "Overlapping fields or duplicate subindices"
    else checkFields bits (usedBits ||| field.bits.mask) (field.subindex :: subindices) fields

/-- The body of `compile`. -/
def compileInput (compiler : IoddProcessDataCompiler) (name : String) (input : XmlElement) :
    Except String (ProcessDataLayout F) := do
  let bits ← attributeInt (input.getD "bitLength" "0")
  if 1 ≤ bits ∧ bits ≤ 256 then
    let datatype ← compiler.datatype input
    let references := compiler.references (input.get? "id")
    if references.length ≤ 1 then
      let info ← conversionInfo [] ((references.head?.map XmlElement.children).getD [])
      let fields ← inputFields compiler info bits name datatype
      let subindices ← checkFields bits 0 [] fields
      if fields = [] ∨ ∃ entry ∈ info, entry.1 ∉ subindices then
        throw "Missing field or unmatched conversion metadata"
      else pure ⟨name, bits.toNat, fields.map RawField.field, none⟩
    else throw "Ambiguous ProcessDataRef"
  else throw "Unsupported input bit length"

/-- `compile`. -/
def compile (compiler : IoddProcessDataCompiler) (input : Option XmlElement) (fallback : String) :
    ProcessDataLayout F :=
  let name := compiler.name input fallback
  match input with
  | none => ⟨name, 0, [], some "No ProcessDataIn"⟩
  | some input => match compileInput compiler name input with
    | .ok layout => layout
    | .error reason => ⟨name, 0, [], some reason⟩

/-- `attribute`. -/
def attributeText (element : Option XmlElement) (key : String) : String :=
  (element.bind (·.get? key)).getD ""

/-- `parse_int`. -/
def parseInt (value : String) : Except String ℤ :=
  if stripChars value.toList = [] then .ok 0
  else match parseIntLiteral true value with
    | some i => .ok i
    | none => .error "invalid literal for int() with base 0"

/-- `bits_to_bytes`, where no byte is left of a negative length. -/
def bitsToBytes (bitLength : String) : Except String ℕ := do
  let bits ← parseInt bitLength
  pure ((bits + 7) / 8).toNat

/-- `int(condition_value, 10) if condition_value else None`. -/
def conditionValue (value : String) : Except String (Option ℤ) :=
  if value = "" then .ok none else some <$> attributeInt value

/-- The profile of one element in `parse_process_data_profiles`. -/
def parseProcessDataProfile (compiler : IoddProcessDataCompiler) (processData : XmlElement) :
    Except String (IoddProcessDataInfo F) := do
  let input := childNamed processData "ProcessDataIn"
  let output := childNamed processData "ProcessDataOut"
  let condition := childNamed processData "Condition"
  let profileId := attributeText (some processData) "id"
  let inputBytes ← bitsToBytes (attributeText input "bitLength")
  let outputBytes ← bitsToBytes (attributeText output "bitLength")
  let value ← conditionValue (attributeText condition "value")
  pure ⟨profileId, inputBytes, outputBytes, value, some (compile compiler input profileId)⟩

/-! ## The fields of a supported layout -/

/-- What holds of a field: it has bits, and a boolean has one bit and no conversion. -/
def WellSized (field : ProcessDataField F) : Prop :=
  0 < field.bits.length ∧
    (field.datatype = .boolean → field.bits.length = 1 ∧ field.unscaled = true)

theorem fieldType_spec {datatype : XmlElement} {type : FieldType × ℕ}
    (h : fieldType datatype = .ok type) : 0 < type.2 ∧ (type.1 = .boolean → type.2 = 1) := by
  have hinteger (t : FieldType) (ht : t ≠ .boolean)
      (hbits : (do
        let bits ← attributeInt (datatype.getD "bitLength" "0")
        if 1 ≤ bits ∧ bits ≤ 64 then pure (t, bits.toNat) else throw "Unsupported integer width" :
          Except String (FieldType × ℕ)) = .ok type) :
      0 < type.2 ∧ (type.1 = .boolean → type.2 = 1) := by
    obtain ⟨bits, -, hif⟩ := Except.bind_eq_ok.mp hbits
    split_ifs at hif with hrange
    obtain rfl := Except.ok.inj hif
    exact ⟨by show 0 < bits.toNat; omega, fun h => absurd h ht⟩
  unfold fieldType at h
  dsimp only at h
  split_ifs at h
  · obtain rfl := Except.ok.inj h
    exact ⟨one_pos, fun _ => rfl⟩
  · obtain rfl := Except.ok.inj h
    exact ⟨by norm_num, fun hboolean => nomatch hboolean⟩
  · exact hinteger .integer (fun h => nomatch h) h
  · exact hinteger .uinteger (fun h => nomatch h) h

theorem field_spec {datatype : XmlElement} {subindex bitOffset : ℤ} {name : String}
    {info : Option XmlElement} {raw : RawField F}
    (h : field datatype subindex bitOffset name info = .ok raw) : WellSized raw.field := by
  unfold field at h
  obtain ⟨type, htype, h⟩ := Except.bind_eq_ok.mp h
  obtain ⟨gradient, -, h⟩ := Except.bind_eq_ok.mp h
  obtain ⟨offset, -, h⟩ := Except.bind_eq_ok.mp h
  split_ifs at h with hfinite hscaled
  obtain ⟨unitCode, -, h⟩ := Except.bind_eq_ok.mp h
  obtain rfl := Except.ok.inj h
  obtain ⟨hpos, hone⟩ := fieldType_spec htype
  refine ⟨hpos, fun hboolean => ⟨hone hboolean, ?_⟩⟩
  by_contra hne
  exact hscaled ⟨hboolean, eq_false_of_ne_true hne⟩

theorem recordField_spec {compiler : IoddProcessDataCompiler} {info : List (ℤ × XmlElement)}
    {item : XmlElement} {raw : RawField F} (h : recordField compiler info item = .ok raw) :
    WellSized raw.field := by
  unfold recordField at h
  split_ifs at h
  obtain ⟨subindex, -, h⟩ := Except.bind_eq_ok.mp h
  split_ifs at h
  obtain ⟨datatype, -, h⟩ := Except.bind_eq_ok.mp h
  obtain ⟨bitOffset, -, h⟩ := Except.bind_eq_ok.mp h
  exact field_spec h

theorem inputFields_spec {compiler : IoddProcessDataCompiler} {info : List (ℤ × XmlElement)}
    {bits : ℤ} {name : String} {datatype : XmlElement} {fields : List (RawField F)}
    (h : inputFields compiler info bits name datatype = .ok fields) :
    ∀ raw ∈ fields, WellSized raw.field := by
  unfold inputFields at h
  intro raw hmem
  split_ifs at h
  · obtain ⟨recordBits, -, h⟩ := Except.bind_eq_ok.mp h
    split_ifs at h
    obtain ⟨item, -, hitem⟩ := Except.exists_of_mem_mapM h hmem
    exact recordField_spec hitem
  · obtain ⟨scalar, hscalar, h⟩ := Except.bind_eq_ok.mp h
    split_ifs at h
    obtain rfl := Except.ok.inj h
    obtain rfl := List.mem_singleton.mp hmem
    exact field_spec hscalar

/-- **The fields that pass the loop are inside the input, and share no bit with each other or with
the bits used before.** The induction is on the fields; the used bits carry the masks of the fields
before. -/
theorem checkFields_spec {bits : ℤ} {fields : List (RawField F)} {usedBits : ℕ}
    {subindices subindices' : List ℤ} (hsized : ∀ raw ∈ fields, WellSized raw.field)
    (h : checkFields bits usedBits subindices fields = .ok subindices') :
    (fields.map fun raw => raw.field.bits).Pairwise BitFields.Field.Disjoint ∧
      (∀ raw ∈ fields, raw.field.bits.offset + raw.field.bits.length ≤ bits.toNat) ∧
      ∀ raw ∈ fields, usedBits &&& raw.field.bits.mask = 0 := by
  induction fields generalizing usedBits subindices with
  | nil => exact ⟨List.Pairwise.nil, fun _ h => (nomatch h), fun _ h => (nomatch h)⟩
  | cons raw fields ih =>
    unfold checkFields at h
    dsimp only at h
    split_ifs at h with hbounds hused
    obtain ⟨hpairwise, hinside, hfree⟩ :=
      ih (fun raw' hraw' => hsized raw' (List.mem_cons_of_mem _ hraw')) h
    have hoffset := raw.offset_eq
    have hzero : usedBits &&& raw.field.bits.mask = 0 := by
      by_contra hne
      exact hused (Or.inl hne)
    have hlater : ∀ raw' ∈ fields, usedBits &&& raw'.field.bits.mask = 0 ∧
        raw.field.bits.mask &&& raw'.field.bits.mask = 0 := by
      intro raw' hraw'
      have hor := hfree raw' hraw'
      rw [Nat.and_or_distrib_right, Nat.or_eq_zero_iff] at hor
      exact hor
    refine ⟨?_, ?_, ?_⟩
    · rw [List.map_cons, List.pairwise_cons]
      refine ⟨?_, hpairwise⟩
      intro bits' hbits'
      obtain ⟨raw', hraw', rfl⟩ := List.mem_map.mp hbits'
      exact BitFields.Field.disjoint_of_and_mask (hsized raw (List.mem_cons_self ..)).1
        (hsized raw' (List.mem_cons_of_mem _ hraw')).1 (hlater raw' hraw').2
    · rintro raw' (_ | ⟨_, hraw'⟩)
      · omega
      · exact hinside raw' hraw'
    · rintro raw' (_ | ⟨_, hraw'⟩)
      · exact hzero
      · exact (hlater raw' hraw').1

/-- The bits of the fields are disjoint and inside the input, and the fields are well sized. -/
structure LaidOut (layout : ProcessDataLayout F) : Prop where
  disjoint : (layout.fields.map ProcessDataField.bits).Pairwise BitFields.Field.Disjoint
  inside : ∀ field ∈ layout.fields, field.bits.offset + field.bits.length ≤ layout.bitLength
  sized : ∀ field ∈ layout.fields, WellSized field

theorem compileInput_spec {compiler : IoddProcessDataCompiler} {name : String} {input : XmlElement}
    {layout : ProcessDataLayout F} (h : compileInput compiler name input = .ok layout) :
    LaidOut layout ∧ ∃ bits, attributeInt (input.getD "bitLength" "0") = .ok bits ∧ 1 ≤ bits ∧
      layout.bitLength = bits.toNat := by
  unfold compileInput at h
  obtain ⟨bits, hbits, h⟩ := Except.bind_eq_ok.mp h
  split_ifs at h with hrange
  obtain ⟨datatype, -, h⟩ := Except.bind_eq_ok.mp h
  dsimp only at h
  split_ifs at h
  obtain ⟨info, -, h⟩ := Except.bind_eq_ok.mp h
  obtain ⟨fields, hfields, h⟩ := Except.bind_eq_ok.mp h
  obtain ⟨subindices, hcheck, h⟩ := Except.bind_eq_ok.mp h
  split_ifs at h
  obtain rfl := Except.ok.inj h
  have hsized := inputFields_spec hfields
  obtain ⟨hpairwise, hinside, -⟩ := checkFields_spec hsized hcheck
  refine ⟨⟨?_, ?_, ?_⟩, bits, hbits, hrange.1, rfl⟩
  · show ((fields.map RawField.field).map ProcessDataField.bits).Pairwise _
    rw [List.map_map]
    exact hpairwise
  · intro field hfield
    obtain ⟨raw, hraw, rfl⟩ := List.mem_map.mp hfield
    exact hinside raw hraw
  · intro field hfield
    obtain ⟨raw, hraw, rfl⟩ := List.mem_map.mp hfield
    exact hsized raw hraw

/-- **A layout that is supported is laid out.** -/
theorem compile_supported {compiler : IoddProcessDataCompiler} {input : Option XmlElement}
    {fallback : String} (h : (compile compiler input fallback : ProcessDataLayout F).unsupportedReason
      = none) :
    LaidOut (compile compiler input fallback : ProcessDataLayout F) ∧
      ∃ element bits, input = some element ∧
        attributeInt (element.getD "bitLength" "0") = .ok bits ∧ 1 ≤ bits ∧
        (compile compiler input fallback : ProcessDataLayout F).bitLength = bits.toNat := by
  cases input with
  | none => exact nomatch h
  | some element =>
    unfold compile at h ⊢
    dsimp only at h ⊢
    cases hcompile : (compileInput compiler (compiler.name (some element) fallback) element :
        Except String (ProcessDataLayout F)) with
    | error reason =>
      rw [hcompile] at h
      exact nomatch h
    | ok layout =>
      obtain ⟨hlaid, bits, hbits⟩ := compileInput_spec hcompile
      exact ⟨hlaid, element, bits, rfl, hbits⟩

/-- `parse_int` and `int` read different numerals, but one that both read is one number. -/
theorem parseInt_unique {text : String} {i j : ℤ} (hi : parseInt text = .ok i)
    (hj : attributeInt text = .ok j) : i = j := by
  unfold parseInt at hi
  unfold attributeInt at hj
  split_ifs at hi with hblank
  · have hliteral : parseIntLiteral false text = none := by
      rw [parseIntLiteral, hblank]
      rfl
    rw [hliteral] at hj
    cases hj
  · cases hany : parseIntLiteral true text with
    | none =>
      rw [hany] at hi
      cases hi
    | some k =>
      rw [hany] at hi
      rw [parseIntLiteral_of_parseIntLiteral hany] at hj
      obtain rfl := Except.ok.inj hi
      by_cases hbase : hasBasePrefix text = true
      · rw [if_pos hbase] at hj
        cases hj
      · rw [if_neg hbase] at hj
        exact Except.ok.inj hj

/-- **The bytes of a profile are those of its layout.** -/
theorem inputBytes_of_supported {compiler : IoddProcessDataCompiler} {processData : XmlElement}
    {profile : IoddProcessDataInfo F} {layout : ProcessDataLayout F}
    (hprofile : parseProcessDataProfile compiler processData = .ok profile)
    (hlayout : profile.inputLayout = some layout) (hsupported : layout.unsupportedReason = none) :
    LaidOut layout ∧ profile.inputBytes = (layout.bitLength + 7) / 8 := by
  unfold parseProcessDataProfile at hprofile
  dsimp only at hprofile
  obtain ⟨inputBytes, hinput, hprofile⟩ := Except.bind_eq_ok.mp hprofile
  obtain ⟨outputBytes, -, hprofile⟩ := Except.bind_eq_ok.mp hprofile
  obtain ⟨value, -, hprofile⟩ := Except.bind_eq_ok.mp hprofile
  obtain rfl := Except.ok.inj hprofile
  obtain rfl := Option.some.inj hlayout
  obtain ⟨hlaid, element, bits, helement, hbits, hone, hbitLength⟩ := compile_supported hsupported
  refine ⟨hlaid, ?_⟩
  rw [hbitLength]
  show inputBytes = (bits.toNat + 7) / 8
  unfold bitsToBytes at hinput
  obtain ⟨parsed, hparsed, hinput⟩ := Except.bind_eq_ok.mp hinput
  obtain rfl := Except.ok.inj hinput
  have hsame : parsed = bits := by
    rw [helement] at hparsed
    replace hparsed : parseInt ((element.get? "bitLength").getD "") = .ok parsed := hparsed
    replace hbits : attributeInt ((element.get? "bitLength").getD "0") = .ok bits := hbits
    generalize element.get? "bitLength" = text at hparsed hbits
    cases text with
    | none =>
      -- without the attribute, the input has no bits and is not supported
      have hliteral : attributeInt "0" = .ok 0 := by decide +kernel
      have hzero : bits = 0 := (Except.ok.inj (hliteral.symm.trans hbits)).symm
      omega
    | some text => exact parseInt_unique hparsed hbits
  rw [hsame]
  omega

end IoddProcessDataCompiler

end MotionServer
