import MotionServer.Lib.Dict
import MotionServer.Lib.Except
import MotionServer.Python.Text

/-!
# The cache of runtime parameters

* `RuntimeParameterAddress`, `AddressArguments.validate`: where a parameter lives on a device;
* `runtimeParameterKey`, `runtimeParameterDefinition`: how the cache names a parameter;
* `RuntimeParameterCache.register`, `update`, `updateRuntimeParameterCache`;
* **`updateRuntimeParameterCache_ok_iff`**: when a value is recorded, and what the cache is then.
-/

namespace MotionServer

variable {F : Type}

/-! ## Addresses -/

/-- `SOURCE_TYPES`. -/
inductive ParameterSource
  | server
  | bus
  | axis
  | io
  deriving DecidableEq

/-- `PARAMETER_DOMAINS`. -/
inductive ParameterDomain
  | ethercatOd
  | ethercatOdGroup
  | axisProjection
  | apParameter
  | iolIsdu
  deriving DecidableEq

def ParameterSource.text : ParameterSource → String
  | server => "server"
  | bus => "bus"
  | axis => "axis"
  | io => "io"

def ParameterDomain.text : ParameterDomain → String
  | ethercatOd => "ethercat_od"
  | ethercatOdGroup => "ethercat_od_group"
  | axisProjection => "axis_projection"
  | apParameter => "ap_parameter"
  | iolIsdu => "iol_isdu"

/-- `RuntimeParameterAddress`. -/
structure RuntimeParameterAddress where
  sourceType : ParameterSource
  sourceIndex : ℕ
  domain : ParameterDomain
  index : Option ℕ
  subindex : Option ℕ
  module : Option ℕ
  port : Option ℕ
  parameterId : Option ℕ
  parameterInstance : Option ℕ
  role : Option String
  deriving DecidableEq

/-- The arguments of `RuntimeParameterAddress`. -/
structure AddressArguments where
  sourceType : ParameterSource
  sourceIndex : PyInt
  domain : ParameterDomain
  index : Option PyInt := none
  subindex : Option PyInt := none
  module : Option PyInt := none
  port : Option PyInt := none
  parameterId : Option PyInt := none
  parameterInstance : Option PyInt := none
  role : Option String := none

/-- A field of an address: an integer that is no boolean and not negative. -/
def addressField : Option PyInt → Except PyExc (Option ℕ)
  | none => .ok none
  | some (.int i) => if i < 0 then .error .valueError else .ok (some i.toNat)
  | some (.bool _) => .error .valueError

/-- The source index of an address. -/
def addressSourceIndex : PyInt → Except PyExc ℕ
  | .int i => if i < 0 then .error .valueError else .ok i.toNat
  | .bool _ => .error .typeError

/-- `RuntimeParameterAddress.__post_init__`. -/
def AddressArguments.validate (arguments : AddressArguments) :
    Except PyExc RuntimeParameterAddress := do
  let sourceIndex ← addressSourceIndex arguments.sourceIndex
  let index ← addressField arguments.index
  let subindex ← addressField arguments.subindex
  let module ← addressField arguments.module
  let port ← addressField arguments.port
  let parameterId ← addressField arguments.parameterId
  let parameterInstance ← addressField arguments.parameterInstance
  pure
    { sourceType := arguments.sourceType
      sourceIndex := sourceIndex
      domain := arguments.domain
      index := index
      subindex := subindex
      module := module
      port := port
      parameterId := parameterId
      parameterInstance := parameterInstance
      role := arguments.role }

/-! ## Definitions -/

/-- A part of a key, where the address has the field. -/
def keyPart (text : ℕ → String) (field : Option ℕ) : List String := (field.map text).toList

/-- `runtime_parameter_key`. -/
def runtimeParameterKey (address : RuntimeParameterAddress) : String :=
  let module := keyPart (fun n => "module" ++ toString n) address.module
  let port := keyPart (fun n => "port" ++ toString n) address.port
  let parameterInstance := keyPart (fun n => "instance" ++ toString n) address.parameterInstance
  let parameterId (width : ℕ) :=
    keyPart (fun n => "parameter0x" ++ hexText width n) address.parameterId
  let fields := match address.domain with
    | .iolIsdu => module ++ port ++ parameterId 4 ++
        keyPart (fun n => "subindex0x" ++ hexText 2 n) address.subindex
    | .apParameter => module ++ parameterId 8 ++ parameterInstance
    | _ => keyPart (fun n => "0x" ++ hexText 4 n) address.index ++
        keyPart (fun n => "0x" ++ hexText 2 n) address.subindex ++ module ++ port ++
        parameterId 8 ++ parameterInstance
  let role := (address.role.filter (· ≠ "")).toList
  String.intercalate "." ([address.sourceType.text, toString address.sourceIndex,
    address.domain.text] ++ fields ++ role)

/-- `str(field)` of a field that may be missing. -/
def fieldText (text : ℕ → String) : Option ℕ → String
  | some n => text n
  | none => "None"

/-- The role, or else the domain, as a text. -/
def roleOrDomain (address : RuntimeParameterAddress) : String :=
  (address.role.filter (· ≠ "")).getD address.domain.text

/-- `runtime_parameter_name`. The gateway parameters have their ids. -/
def runtimeParameterName (address : RuntimeParameterAddress) : String :=
  match address.domain with
  | .ethercatOd | .ethercatOdGroup => match address.index, address.subindex with
    | none, _ => roleOrDomain address
    | some index, none => "EtherCAT OD 0x" ++ hexText 4 index
    | some index, some subindex =>
      "EtherCAT OD 0x" ++ hexText 4 index ++ ":0x" ++ hexText 2 subindex
  | .apParameter => "AP parameter module " ++ fieldText toString address.module ++ " id 0x" ++
      hexText 8 (address.parameterId.getD 0) ++ " instance " ++
      fieldText toString address.parameterInstance
  | .iolIsdu => "IO-Link ISDU module " ++ fieldText toString address.module ++ " port " ++
      fieldText toString address.port ++ " index 0x" ++ hexText 4 (address.parameterId.getD 0) ++
      ":0x" ++ hexText 2 (address.subindex.getD 0)
  | .axisProjection => roleOrDomain address

/-- `ACCESS_TYPES`. -/
inductive ParameterAccessType
  | readOnly
  | writeOnly
  | readWrite
  deriving DecidableEq

/-- `RuntimeParameterDefinition`. -/
structure RuntimeParameterDefinition where
  key : String
  address : RuntimeParameterAddress
  name : String
  dataType : String
  required : Bool
  access : ParameterAccessType
  refreshOnStartup : Bool
  refreshOnRecovery : Bool
  usedBy : List String
  deriving DecidableEq

/-- `runtime_parameter_definition` with its defaults, as the accesses by request call it. -/
def runtimeParameterDefinition (address : RuntimeParameterAddress) (dataType : String) :
    Except PyExc RuntimeParameterDefinition :=
  let key := runtimeParameterKey address
  let name := runtimeParameterName address
  if pyStrip key = "" ∨ pyStrip name = "" ∨ pyStrip dataType = "" then .error .valueError
  else .ok
    { key := key
      address := address
      name := name
      dataType := dataType
      required := false
      access := .readWrite
      refreshOnStartup := false
      refreshOnRecovery := false
      usedBy := [] }

/-! ## The cache -/

/-- `RuntimeParameterValue`. -/
structure RuntimeParameterValue (F : Type) where
  definition : RuntimeParameterDefinition
  value : Value F
  rawValue : Option String
  valid : Bool
  source : String
  lastError : Option String

/-- `RuntimeParameterCache`. -/
structure RuntimeParameterCache (F : Type) where
  definitions : Dict String RuntimeParameterDefinition
  values : Dict String (RuntimeParameterValue F)

namespace RuntimeParameterCache

/-- The cache of a server that has no parameters yet. -/
def empty : RuntimeParameterCache F := ⟨Dict.empty, Dict.empty⟩

/-- `register`. -/
def register (cache : RuntimeParameterCache F) (definition : RuntimeParameterDefinition) :
    Except PyExc (RuntimeParameterCache F) :=
  let registered : RuntimeParameterCache F :=
    { cache with definitions := cache.definitions.set definition.key definition }
  match cache.definitions.get? definition.key with
  | some existing => if existing ≠ definition then .error .valueError else .ok registered
  | none => .ok registered

/-- `definition`. -/
def definition (cache : RuntimeParameterCache F) (key : String) :
    Except PyExc RuntimeParameterDefinition :=
  match cache.definitions.get? key with
  | some definition => .ok definition
  | none => .error .keyError

/-- `update`. -/
def update (cache : RuntimeParameterCache F) (key : String) (value : Value F)
    (rawValue : Option String) (source : String) : Except PyExc (RuntimeParameterCache F) := do
  let definition ← cache.definition key
  let cached : RuntimeParameterValue F :=
    { definition := definition
      value := value
      rawValue := rawValue
      valid := true
      source := source
      lastError := none }
  pure { cache with values := cache.values.set definition.key cached }

end RuntimeParameterCache

/-- The definition of an access: its address is built by the caller of
`update_runtime_parameter_cache`. -/
def AddressArguments.definition (arguments : AddressArguments) (dataType : String) :
    Except PyExc RuntimeParameterDefinition := do
  let address ← arguments.validate
  runtimeParameterDefinition address dataType

/-- `update_runtime_parameter_cache`. -/
def updateRuntimeParameterCache (cache : RuntimeParameterCache F) (arguments : AddressArguments)
    (value : Value F) (dataType : String) (rawValue : Option String) (source : String) :
    Except PyExc (RuntimeParameterCache F) := do
  let definition ← arguments.definition dataType
  let cache ← cache.register definition
  cache.update definition.key value rawValue source

/-! ## What a record does -/

namespace RuntimeParameterCache

/-- No other definition is registered for the key. -/
def Admits (cache : RuntimeParameterCache F) (definition : RuntimeParameterDefinition) : Prop :=
  ∀ existing, cache.definitions.get? definition.key = some existing → existing = definition

/-- The cache with a value from a device. -/
def record (cache : RuntimeParameterCache F) (cached : RuntimeParameterValue F) :
    RuntimeParameterCache F where
  definitions := cache.definitions.set cached.definition.key cached.definition
  values := cache.values.set cached.definition.key cached

theorem register_ok_iff {cache cache' : RuntimeParameterCache F}
    {definition : RuntimeParameterDefinition} :
    cache.register definition = .ok cache' ↔ cache.Admits definition ∧
      cache' = { cache with definitions := cache.definitions.set definition.key definition } := by
  unfold register Admits
  cases h : cache.definitions.get? definition.key with
  | none => simp [eq_comm]
  | some existing =>
    by_cases hne : existing = definition
    · simp [hne, eq_comm]
    · simp [hne]

/-- Only the key of the definition is written. -/
theorem get?_values_record (cache : RuntimeParameterCache F) (cached : RuntimeParameterValue F)
    (key : String) : (cache.record cached).values.get? key =
      if key = cached.definition.key then some cached else cache.values.get? key :=
  Dict.get?_set _ _ _ _

theorem admits_record_iff {cache : RuntimeParameterCache F} {cached : RuntimeParameterValue F}
    {definition : RuntimeParameterDefinition} (h : cache.Admits cached.definition) :
    (cache.record cached).Admits definition ↔ cache.Admits definition ∧
      (definition.key = cached.definition.key → definition = cached.definition) := by
  unfold Admits record
  rw [Dict.get?_set]
  split_ifs with hkey
  · constructor
    · intro hrecorded
      obtain rfl := hrecorded _ rfl
      exact ⟨h, fun _ => rfl⟩
    · rintro ⟨-, hsame⟩ existing hexisting
      rw [← Option.some.inj hexisting, hsame hkey]
  · simp [hkey]

end RuntimeParameterCache

/-- **A value is recorded exactly when its address is valid and no other definition has its key.** -/
theorem updateRuntimeParameterCache_ok_iff {cache cache' : RuntimeParameterCache F}
    {arguments : AddressArguments} {value : Value F} {dataType source : String}
    {rawValue : Option String} :
    updateRuntimeParameterCache cache arguments value dataType rawValue source = .ok cache' ↔
      ∃ definition, arguments.definition dataType = .ok definition ∧ cache.Admits definition ∧
        cache' = cache.record ⟨definition, value, rawValue, true, source, none⟩ := by
  unfold updateRuntimeParameterCache
  rw [Except.bind_eq_ok]
  refine exists_congr fun definition => and_congr_right fun _ => ?_
  rw [Except.bind_eq_ok]
  constructor
  · rintro ⟨registered, hregister, hupdate⟩
    obtain ⟨hadmits, rfl⟩ := RuntimeParameterCache.register_ok_iff.mp hregister
    refine ⟨hadmits, ?_⟩
    rw [RuntimeParameterCache.update, RuntimeParameterCache.definition, Dict.get?_set,
      if_pos rfl] at hupdate
    exact (Except.ok.inj hupdate).symm
  · rintro ⟨hadmits, rfl⟩
    refine ⟨_, RuntimeParameterCache.register_ok_iff.mpr ⟨hadmits, rfl⟩, ?_⟩
    rw [RuntimeParameterCache.update, RuntimeParameterCache.definition, Dict.get?_set, if_pos rfl]
    rfl

end MotionServer
