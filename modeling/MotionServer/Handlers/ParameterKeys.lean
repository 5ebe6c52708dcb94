import MotionServer.Handlers.ParameterAccess

/-!
# Keys of device parameters

* `axisParameterKey`, `axisParameterDefinitions`: the parameters that the server reads of each axis;
* `DeviceParameter`: the parameters that requests access, and their addresses;
* `hexText_injective`, `intercalate_dot_injective`: the parts of a key, and how they are joined;
* **`deviceParameter_keys_distinct`**: no two of these parameters have the same key;
* `AddressArguments.OfRequest`, **`exists_deviceParameter`**: the handlers access no others.
-/

namespace MotionServer

/-! ## Parameters of an axis -/

/-- `AXIS_PARAMETER_FIELDS`. -/
inductive AxisParameterField
  | userPositionUnit
  | convertingUnitExponents
  | softwarePositionLimits
  | profileSettings
  | motionLimits
  | axisMetadata
  deriving DecidableEq

def AxisParameterField.text : AxisParameterField → String
  | userPositionUnit => "user_position_unit"
  | convertingUnitExponents => "converting_unit_exponents"
  | softwarePositionLimits => "software_position_limits"
  | profileSettings => "profile_settings"
  | motionLimits => "motion_limits"
  | axisMetadata => "axis_metadata"

/-- `axis_parameter_key`. -/
def axisParameterKey (axisIndex : ℤ) (field : AxisParameterField) : String :=
  "axis." ++ toString axisIndex ++ "." ++ field.text

/-- A definition of `axis_parameter_definitions`: its role is the name of its field. -/
def axisParameterDefinition (axisIndex : ℕ) (field : AxisParameterField) (domain : ParameterDomain)
    (index subindex : Option ℕ) (name dataType : String) (required : Bool) (usedBy : List String) :
    RuntimeParameterDefinition where
  key := axisParameterKey axisIndex field
  address := ⟨.axis, axisIndex, domain, index, subindex, none, none, none, none, some field.text⟩
  name := name
  dataType := dataType
  required := required
  access := .readWrite
  refreshOnStartup := true
  refreshOnRecovery := true
  usedBy := usedBy

/-- `axis_parameter_definitions`. -/
def axisParameterDefinitions (axisIndex : ℕ) : List RuntimeParameterDefinition :=
  [axisParameterDefinition axisIndex .userPositionUnit .ethercatOd (some 0x216E) (some 1)
      "User position unit" "uint16" true ["unit_conversion", "status"],
    axisParameterDefinition axisIndex .convertingUnitExponents .ethercatOdGroup (some 0x2194) none
      "Converting unit exponents" "int8[]" true ["unit_conversion", "status"],
    axisParameterDefinition axisIndex .softwarePositionLimits .ethercatOdGroup (some 0x607D) none
      "Software position limits" "int32[]" false ["software_limit", "status"],
    axisParameterDefinition axisIndex .profileSettings .ethercatOdGroup none none
      "Profile settings" "float[]" false ["command_default", "status", "rxpdo_projection"],
    axisParameterDefinition axisIndex .motionLimits .ethercatOdGroup none none
      "Motion limits" "float[]" false ["motion_controller", "status"],
    axisParameterDefinition axisIndex .axisMetadata .axisProjection none none
      "Axis unit metadata" "object" false ["unit_conversion", "status"]]

/-! ## Parameters of a request -/

/-- A parameter that requests access: an object of an axis or an I/O device, a parameter of a module
or of an IO-Link device. -/
inductive DeviceParameter
  | axisObject (axis index subindex : ℕ)
  | ioObject (io index subindex : ℕ)
  | apParameter (io module parameterId parameterInstance : ℕ)
  | isdu (io module port index subindex : ℕ)
  deriving DecidableEq

/-- The address that the handlers build for the parameter. -/
def DeviceParameter.address : DeviceParameter → RuntimeParameterAddress
  | axisObject axis index subindex =>
    ⟨.axis, axis, .ethercatOd, some index, some subindex, none, none, none, none, none⟩
  | ioObject io index subindex =>
    ⟨.io, io, .ethercatOd, some index, some subindex, none, none, none, none, none⟩
  | apParameter io module parameterId parameterInstance =>
    ⟨.io, io, .apParameter, none, none, some module, none, some parameterId,
      some parameterInstance, none⟩
  | isdu io module port index subindex =>
    ⟨.io, io, .iolIsdu, none, some subindex, some module, some port, some index, none, none⟩

/-- The parts of the key. -/
def DeviceParameter.keyParts : DeviceParameter → List String
  | axisObject axis index subindex =>
    ["axis", toString axis, "ethercat_od", "0x" ++ hexText 4 index, "0x" ++ hexText 2 subindex]
  | ioObject io index subindex =>
    ["io", toString io, "ethercat_od", "0x" ++ hexText 4 index, "0x" ++ hexText 2 subindex]
  | apParameter io module parameterId parameterInstance =>
    ["io", toString io, "ap_parameter", "module" ++ toString module,
      "parameter0x" ++ hexText 8 parameterId, "instance" ++ toString parameterInstance]
  | isdu io module port index subindex =>
    ["io", toString io, "iol_isdu", "module" ++ toString module, "port" ++ toString port,
      "parameter0x" ++ hexText 4 index, "subindex0x" ++ hexText 2 subindex]

theorem runtimeParameterKey_address (p : DeviceParameter) :
    runtimeParameterKey p.address = String.intercalate "." p.keyParts := by
  cases p <;> rfl

theorem axisParameterKey_eq (axisIndex : ℤ) (field : AxisParameterField) :
    axisParameterKey axisIndex field =
      String.intercalate "." ["axis", toString axisIndex, field.text] := by
  apply String.toList_injective
  simp [axisParameterKey]

/-! ## Numbers of a key -/

/-- The number that hexadecimal digits make after `value`. -/
def hexValue (value : ℕ) (digits : List Char) : ℕ :=
  digits.foldl (fun value c => value * 16 + (digitValue c).getD 0) value

theorem hexValue_append (value : ℕ) (l l' : List Char) :
    hexValue value (l ++ l') = hexValue (hexValue value l) l' := List.foldl_append

theorem hexValue_replicate_zero (n : ℕ) : hexValue 0 (List.replicate n '0') = 0 := by
  induction n with
  | zero => rfl
  | succ n ih => exact ih

theorem hexValue_toDigits (n : ℕ) : hexValue 0 ((Nat.toDigits 16 n).map Char.toUpper) = n := by
  induction n using Nat.strongRecOn with
  | ind n ih =>
    by_cases h : n < 16
    · rw [Nat.toDigits_of_lt_base h]
      interval_cases n <;> rfl
    · rw [Nat.toDigits_of_base_le (by decide) (by omega), List.map_append, hexValue_append,
        ih (n / 16) (by omega)]
      have hlast : ∀ d < 16, (digitValue (Nat.digitChar d).toUpper).getD 0 = d := by decide
      have hmod := hlast (n % 16) (by omega)
      show n / 16 * 16 + (digitValue (Nat.digitChar (n % 16)).toUpper).getD 0 = n
      rw [hmod]
      omega

theorem toList_hexText (width n : ℕ) :
    (hexText width n).toList =
      List.replicate (width - (Nat.toDigits 16 n).length) '0' ++
        (Nat.toDigits 16 n).map Char.toUpper := by
  rw [hexText, String.toList_ofList, List.leftpad, List.length_map]

/-- **A number is read off its hexadecimal text,** also where it is wider than the field. -/
theorem hexText_injective (width : ℕ) : Function.Injective (hexText width) := by
  intro n n' h
  have hvalue : ∀ n, hexValue 0 (hexText width n).toList = n := by
    intro n
    rw [toList_hexText, hexValue_append, hexValue_replicate_zero, hexValue_toDigits]
  rw [← hvalue n, h, hvalue n']

theorem toString_nat_injective : Function.Injective (toString : ℕ → String) := by
  intro n n' h
  have hdigits : Nat.toDigits 10 n = Nat.toDigits 10 n' := by
    simpa [Nat.toList_repr] using congrArg String.toList h
  have hvalue := congrArg (fun digits => Nat.ofDigitChars 10 digits 0) hdigits
  simpa using hvalue

theorem append_left_injective (s : String) : Function.Injective (s ++ ·) := by
  intro t t' h
  apply String.toList_injective
  have hlist := congrArg String.toList h
  simpa using hlist

/-! ## Parts without dots -/

/-- The text can be a part of a key: it has no dot. -/
def DotFree (s : String) : Prop := '.' ∉ s.toList

instance : DecidablePred DotFree := fun s => inferInstanceAs (Decidable ('.' ∉ s.toList))

theorem DotFree.append {s t : String} (hs : DotFree s) (ht : DotFree t) : DotFree (s ++ t) := by
  unfold DotFree at *
  rw [String.toList_append, List.mem_append]
  exact not_or.mpr ⟨hs, ht⟩

theorem dotFree_toString (n : ℕ) : DotFree (toString n) := by
  intro h
  have hdigit : '.' ∈ Nat.toDigits 10 n := by simpa [Nat.toList_repr] using h
  exact absurd (Nat.isDigit_of_mem_toDigits (by decide) (by decide) hdigit) (by decide)

theorem dotFree_toString_int (i : ℤ) : DotFree (toString i) := by
  cases i with
  | ofNat n => exact dotFree_toString n
  | negSucc n =>
    have h : toString (Int.negSucc n) = "-" ++ toString (n + 1) := rfl
    rw [h]
    exact DotFree.append (by decide) (dotFree_toString (n + 1))

theorem dotFree_hexText (width n : ℕ) : DotFree (hexText width n) := by
  unfold DotFree
  rw [toList_hexText, List.mem_append, not_or]
  refine ⟨fun h => absurd (List.eq_of_mem_replicate h) (by decide), ?_⟩
  have hdigits : ∀ n, '.' ∉ (Nat.toDigits 16 n).map Char.toUpper := by
    intro n
    induction n using Nat.strongRecOn with
    | ind n ih =>
      by_cases h : n < 16
      · rw [Nat.toDigits_of_lt_base h]
        interval_cases n <;> decide
      · rw [Nat.toDigits_of_base_le (by decide) (by omega), List.map_append, List.mem_append,
          not_or]
        have hlast : ∀ d < 16, '.' ∉ [(Nat.digitChar d)].map Char.toUpper := by decide
        exact ⟨ih (n / 16) (by omega), hlast (n % 16) (by omega)⟩
  exact hdigits n

/-- **Parts without dots are read off the joined text.** -/
theorem intercalate_dot_injective {parts parts' : List String} (h : ∀ p ∈ parts, DotFree p)
    (h' : ∀ p ∈ parts', DotFree p) (hne : parts ≠ []) (hne' : parts' ≠ [])
    (heq : String.intercalate "." parts = String.intercalate "." parts') : parts = parts' := by
  have hsplit : ∀ parts : List String, (∀ p ∈ parts, DotFree p) → parts ≠ [] →
      (String.intercalate "." parts).toList.splitOn '.' = parts.map String.toList := by
    intro parts hparts hne
    rw [String.toList_intercalate]
    refine List.splitOn_intercalate '.' ?_ (by simpa using hne)
    intro l hl
    obtain ⟨p, hp, rfl⟩ := List.mem_map.mp hl
    exact hparts p hp
  have hmap : parts.map String.toList = parts'.map String.toList := by
    rw [← hsplit parts h hne, heq, hsplit parts' h' hne']
  exact List.map_injective_iff.mpr (fun _ _ => String.toList_injective) hmap

/-! ## Keys -/

theorem DeviceParameter.dotFree_keyParts (p : DeviceParameter) :
    ∀ part ∈ p.keyParts, DotFree part := by
  have hhex : ∀ (word : String), DotFree word → ∀ width n, DotFree (word ++ hexText width n) :=
    fun _ hword width n => hword.append (dotFree_hexText width n)
  have hdecimal : ∀ (word : String), DotFree word → ∀ n : ℕ, DotFree (word ++ toString n) :=
    fun _ hword n => hword.append (dotFree_toString n)
  cases p with
  | axisObject axis index subindex =>
    simp only [keyParts, List.forall_mem_cons]
    exact ⟨by decide, dotFree_toString axis, by decide, hhex "0x" (by decide) 4 index,
      hhex "0x" (by decide) 2 subindex, by simp⟩
  | ioObject io index subindex =>
    simp only [keyParts, List.forall_mem_cons]
    exact ⟨by decide, dotFree_toString io, by decide, hhex "0x" (by decide) 4 index,
      hhex "0x" (by decide) 2 subindex, by simp⟩
  | apParameter io module parameterId parameterInstance =>
    simp only [keyParts, List.forall_mem_cons]
    exact ⟨by decide, dotFree_toString io, by decide, hdecimal "module" (by decide) module,
      hhex "parameter0x" (by decide) 8 parameterId,
      hdecimal "instance" (by decide) parameterInstance, by simp⟩
  | isdu io module port index subindex =>
    simp only [keyParts, List.forall_mem_cons]
    exact ⟨by decide, dotFree_toString io, by decide, hdecimal "module" (by decide) module,
      hdecimal "port" (by decide) port, hhex "parameter0x" (by decide) 4 index,
      hhex "subindex0x" (by decide) 2 subindex, by simp⟩

theorem dotFree_axisParts (axisIndex : ℤ) (field : AxisParameterField) :
    ∀ part ∈ ["axis", toString axisIndex, field.text], DotFree part := by
  simp only [List.forall_mem_cons]
  exact ⟨by decide, dotFree_toString_int axisIndex, by cases field <;> decide, by simp⟩

theorem DeviceParameter.keyParts_injective : Function.Injective keyParts := by
  intro p q h
  cases p <;> cases q <;> simp only [keyParts, List.cons.injEq] at h
  case axisObject.axisObject =>
    obtain ⟨-, haxis, -, hindex, hsubindex, -⟩ := h
    rw [toString_nat_injective haxis, hexText_injective 4 (append_left_injective _ hindex),
      hexText_injective 2 (append_left_injective _ hsubindex)]
  case ioObject.ioObject =>
    obtain ⟨-, hio, -, hindex, hsubindex, -⟩ := h
    rw [toString_nat_injective hio, hexText_injective 4 (append_left_injective _ hindex),
      hexText_injective 2 (append_left_injective _ hsubindex)]
  case apParameter.apParameter =>
    obtain ⟨-, hio, -, hmodule, hid, hinstance, -⟩ := h
    rw [toString_nat_injective hio, toString_nat_injective (append_left_injective _ hmodule),
      hexText_injective 8 (append_left_injective _ hid),
      toString_nat_injective (append_left_injective _ hinstance)]
  case isdu.isdu =>
    obtain ⟨-, hio, -, hmodule, hport, hindex, hsubindex, -⟩ := h
    rw [toString_nat_injective hio, toString_nat_injective (append_left_injective _ hmodule),
      toString_nat_injective (append_left_injective _ hport),
      hexText_injective 4 (append_left_injective _ hindex),
      hexText_injective 2 (append_left_injective _ hsubindex)]
  all_goals
    -- the sources or the domains of the two keys differ
    simp at h

/-- **No two parameters of devices share a key,** and none has the key of a parameter that the
server reads of an axis. -/
theorem deviceParameter_keys_distinct :
    (∀ p q : DeviceParameter,
      runtimeParameterKey p.address = runtimeParameterKey q.address → p.address = q.address) ∧
    ∀ (p : DeviceParameter) (axisIndex : ℤ) (field : AxisParameterField),
      runtimeParameterKey p.address ≠ axisParameterKey axisIndex field := by
  have hne : ∀ p : DeviceParameter, p.keyParts ≠ [] := by
    intro p
    cases p <;> simp [DeviceParameter.keyParts]
  constructor
  · intro p q h
    rw [runtimeParameterKey_address, runtimeParameterKey_address] at h
    have hparts := intercalate_dot_injective p.dotFree_keyParts q.dotFree_keyParts (hne p) (hne q) h
    rw [DeviceParameter.keyParts_injective hparts]
  · intro p axisIndex field h
    rw [runtimeParameterKey_address, axisParameterKey_eq] at h
    have hparts := intercalate_dot_injective p.dotFree_keyParts (dotFree_axisParts axisIndex field)
      (hne p) (by simp) h
    -- the keys of an axis have three parts
    have hlength := congrArg List.length hparts
    cases p <;> simp [DeviceParameter.keyParts] at hlength

/-- The keys of an axis are its own, one for each field. -/
theorem axisParameterKey_injective {i i' : ℤ} {field field' : AxisParameterField}
    (h : axisParameterKey i field = axisParameterKey i' field') :
    toString i = toString i' ∧ field = field' := by
  rw [axisParameterKey_eq, axisParameterKey_eq] at h
  have hparts := intercalate_dot_injective (dotFree_axisParts i field) (dotFree_axisParts i' field')
    (by simp) (by simp) h
  simp only [List.cons.injEq, true_and, and_true] at hparts
  refine ⟨hparts.1, ?_⟩
  have htext := hparts.2
  cases field <;> cases field' <;> first | rfl | exact absurd htext (by decide)

theorem key_of_mem_axisParameterDefinitions {axisIndex : ℕ} {definition : RuntimeParameterDefinition}
    (h : definition ∈ axisParameterDefinitions axisIndex) :
    ∃ field, definition.key = axisParameterKey axisIndex field := by
  simp only [axisParameterDefinitions, List.mem_cons, List.not_mem_nil, or_false] at h
  rcases h with rfl | rfl | rfl | rfl | rfl | rfl <;> exact ⟨_, rfl⟩

/-! ## The addresses of the handlers -/

/-- `ap_runtime_parameter_address`. -/
def apRuntimeParameterAddress (sourceIndex module parameterId parameterInstance : PyInt) :
    AddressArguments where
  sourceType := .io
  sourceIndex := sourceIndex
  domain := .apParameter
  module := some module
  parameterId := some parameterId
  parameterInstance := some parameterInstance

/-- `iol_runtime_parameter_address`. -/
def iolRuntimeParameterAddress (sourceIndex module port index subindex : PyInt) :
    AddressArguments where
  sourceType := .io
  sourceIndex := sourceIndex
  domain := .iolIsdu
  module := some module
  port := some port
  parameterId := some index
  subindex := some subindex

/-- The arguments that a request on an object leads to. -/
def objectArguments (sourceType : ParameterSource) (sourceIndex index subindex : PyInt) :
    AddressArguments where
  sourceType := sourceType
  sourceIndex := sourceIndex
  domain := .ethercatOd
  index := some index
  subindex := some subindex

/-- The arguments that the handlers build. -/
inductive AddressArguments.OfRequest : AddressArguments → Prop
  | axisObject (axis index subindex : PyInt) : OfRequest (objectArguments .axis axis index subindex)
  | ioObject (io index subindex : PyInt) : OfRequest (objectArguments .io io index subindex)
  | apParameter (io module parameterId parameterInstance : PyInt) :
    OfRequest (apRuntimeParameterAddress io module parameterId parameterInstance)
  | isdu (io module port index subindex : PyInt) :
    OfRequest (iolRuntimeParameterAddress io module port index subindex)

theorem ofRequest_of_access {F : Type} [PyFloat F] {target : ParameterTarget F} {sdo : SdoAccess F}
    {request : ParameterRequest F} {access : ParameterAccess F}
    (hgateway : ∀ access, request = .gateway access → access.arguments.OfRequest)
    (h : request.access target sdo = .ok access) : access.arguments.OfRequest := by
  cases request with
  | axis write message =>
    obtain ⟨parsed, -, h⟩ := Except.bind_eq_ok.mp h
    obtain rfl := Except.ok.inj h
    exact .axisObject parsed.1.target parsed.1.index parsed.1.subindex
  | io write message =>
    obtain ⟨parsed, -, h⟩ := Except.bind_eq_ok.mp h
    obtain rfl := Except.ok.inj h
    exact .ioObject _ parsed.1.index parsed.1.subindex
  | gateway access' =>
    obtain rfl := Except.ok.inj h
    exact hgateway access' rfl

theorem addressField_some_ok {i : PyInt} {field : Option ℕ} (h : addressField (some i) = .ok field) :
    ∃ n, field = some n := by
  cases i with
  | bool b => cases h
  | int i =>
    rw [addressField] at h
    split_ifs at h
    exact ⟨_, (Except.ok.inj h).symm⟩

/-- **What the handlers validate are addresses of device parameters.** -/
theorem exists_deviceParameter {arguments : AddressArguments} {address : RuntimeParameterAddress}
    (hrequest : arguments.OfRequest) (h : arguments.validate = .ok address) :
    ∃ p : DeviceParameter, address = p.address := by
  unfold AddressArguments.validate at h
  obtain ⟨sourceIndex, -, h⟩ := Except.bind_eq_ok.mp h
  obtain ⟨index, hindex, h⟩ := Except.bind_eq_ok.mp h
  obtain ⟨subindex, hsubindex, h⟩ := Except.bind_eq_ok.mp h
  obtain ⟨module, hmodule, h⟩ := Except.bind_eq_ok.mp h
  obtain ⟨port, hport, h⟩ := Except.bind_eq_ok.mp h
  obtain ⟨parameterId, hid, h⟩ := Except.bind_eq_ok.mp h
  obtain ⟨parameterInstance, hinstance, h⟩ := Except.bind_eq_ok.mp h
  obtain rfl := Except.ok.inj h
  cases hrequest with
  | axisObject axis index subindex =>
    obtain ⟨n, rfl⟩ := addressField_some_ok hindex
    obtain ⟨k, rfl⟩ := addressField_some_ok hsubindex
    cases hmodule; cases hport; cases hid; cases hinstance
    exact ⟨.axisObject sourceIndex n k, rfl⟩
  | ioObject io index subindex =>
    obtain ⟨n, rfl⟩ := addressField_some_ok hindex
    obtain ⟨k, rfl⟩ := addressField_some_ok hsubindex
    cases hmodule; cases hport; cases hid; cases hinstance
    exact ⟨.ioObject sourceIndex n k, rfl⟩
  | apParameter io module parameterId parameterInstance =>
    obtain ⟨m, rfl⟩ := addressField_some_ok hmodule
    obtain ⟨n, rfl⟩ := addressField_some_ok hid
    obtain ⟨k, rfl⟩ := addressField_some_ok hinstance
    cases hindex; cases hsubindex; cases hport
    exact ⟨.apParameter sourceIndex m n k, rfl⟩
  | isdu io module port index subindex =>
    obtain ⟨m, rfl⟩ := addressField_some_ok hmodule
    obtain ⟨k, rfl⟩ := addressField_some_ok hport
    obtain ⟨n, rfl⟩ := addressField_some_ok hid
    obtain ⟨j, rfl⟩ := addressField_some_ok hsubindex
    cases hindex; cases hinstance
    exact ⟨.isdu sourceIndex m k n j, rfl⟩

end MotionServer
