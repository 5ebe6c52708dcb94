import MotionServer.Lib.Bytes
import MotionServer.Python.Exception

/-!
# Modules of an I/O station

* `ModuleSpec`, `CPXApModule`: the channels of a module and its parts of the process image;
* `assignProcessImageOffsets`: the parts of the modules, one after the other;
* `validateAnalogValue`: the values of an analog channel;
* `Region`: the channels of a module in one direction, and where they are;
* **`cumulative_assign`**: the regions of a layout follow one another.
-/

namespace MotionServer

/-! ## Modules -/

/-- The bits of an analog channel. -/
structure AnalogBits where
  bits : ℕ
  supported : bits = 8 ∨ bits = 16 ∨ bits = 32
  deriving DecidableEq

/-- The analog bits of a declaration. -/
def defaultAnalogBits : AnalogBits := ⟨16, by decide⟩

/-- `analog_bytes`. -/
def AnalogBits.bytes (width : AnalogBits) : ℕ := width.bits / 8

theorem AnalogBits.bits_eq (width : AnalogBits) : width.bits = 8 * width.bytes := by
  obtain ⟨bits, rfl | rfl | rfl⟩ := width <;> rfl

theorem AnalogBits.bytes_pos (width : AnalogBits) : 0 < width.bytes := by
  obtain ⟨bits, rfl | rfl | rfl⟩ := width <;> decide

/-- `DigitalModuleSpec`, `AnalogModuleSpec` or `IoLinkModuleSpec`. -/
inductive ModuleSpec
  | digital (digitalInputs digitalOutputs : ℕ)
  | analog (analogInputs analogOutputs : ℕ) (analogBits : AnalogBits) (analogSigned : Bool)
  | ioLink (ports inputDataBytes outputDataBytes : ℕ)
  deriving DecidableEq

/-- `SUPPORTED_MODULE_TYPES`. -/
inductive ModuleType
  | di
  | do_
  | dio
  | ai
  | ao
  | aio
  | iol
  deriving DecidableEq

def ModuleSpec.isIoLink : ModuleSpec → Bool
  | ioLink .. => true
  | _ => false

/-- `CPXApModule`. A module is of the type `iol` exactly when its channels are. -/
structure CPXApModule where
  slot : ℕ
  moduleType : ModuleType
  raw : String
  spec : ModuleSpec
  inputOffset : Option ℕ
  outputOffset : Option ℕ
  inputBytes : ℕ
  outputBytes : ℕ
  type_eq : decide (moduleType = .iol) = spec.isIoLink
  deriving DecidableEq

namespace CPXApModule

variable (m : CPXApModule)

def digitalInputs : ℕ := match m.spec with
  | .digital inputs _ => inputs
  | _ => 0

def digitalOutputs : ℕ := match m.spec with
  | .digital _ outputs => outputs
  | _ => 0

def analogInputs : ℕ := match m.spec with
  | .analog inputs _ _ _ => inputs
  | _ => 0

def analogOutputs : ℕ := match m.spec with
  | .analog _ outputs _ _ => outputs
  | _ => 0

def analogBits : ℕ := match m.spec with
  | .analog _ _ width _ => width.bits
  | _ => 0

def analogSigned : Bool := match m.spec with
  | .analog _ _ _ signed => signed
  | _ => true

def analogBytes : ℕ := match m.spec with
  | .analog _ _ width _ => width.bytes
  | _ => 0

def ioLinkPorts : ℕ := match m.spec with
  | .ioLink ports _ _ => ports
  | _ => 0

end CPXApModule

/-- `assign_process_image_offsets`, from the offsets reached so far. -/
def assignProcessImageOffsets : (inputOffset outputOffset : ℕ) → List CPXApModule → List CPXApModule
  | _, _, [] => []
  | inputOffset, outputOffset, m :: modules =>
    { m with
      inputOffset := if m.inputBytes ≠ 0 then some inputOffset else none
      outputOffset := if m.outputBytes ≠ 0 then some outputOffset else none } ::
      assignProcessImageOffsets (inputOffset + m.inputBytes) (outputOffset + m.outputBytes) modules

/-- `bytes_for_bits` of a count. -/
def bytesForBits (bitCount : ℕ) : ℕ := (bitCount + 7) / 8

/-- `validate_analog_value` of an integer. -/
def validateAnalogValue (m : CPXApModule) (value : ℤ) : Except PyExc ℤ :=
  let minimum : ℤ := if m.analogSigned then -(1 <<< (m.analogBits - 1) : ℕ) else 0
  let maximum : ℤ := if m.analogSigned then (1 <<< (m.analogBits - 1) : ℕ) - 1
    else (1 <<< m.analogBits : ℕ) - 1
  if value < minimum ∨ maximum < value then .error .valueError else .ok value

/-! ## Regions -/

/-- The channels of a module in one direction, and where they are in the image. -/
structure Region where
  offset : Option ℕ
  bytes : ℕ
  digital : ℕ
  analog : ℕ
  width : ℕ
  signed : Bool
  ioLink : Bool

/-- The channels of a module are of one kind. -/
def Region.OneKind (r : Region) : Prop :=
  (r.analog = 0 ∧ r.ioLink = false) ∨ (r.digital = 0 ∧ r.ioLink = false ∧ 0 < r.width) ∨
    (r.digital = 0 ∧ r.analog = 0 ∧ r.ioLink = true)

/-- The bytes that the codec reads and writes for the channels. -/
def Region.footprint (r : Region) : ℕ :=
  if r.ioLink then r.bytes else bytesForBits r.digital + r.analog * r.width

def CPXApModule.outputRegion (m : CPXApModule) : Region :=
  ⟨m.outputOffset, m.outputBytes, m.digitalOutputs, m.analogOutputs, m.analogBytes, m.analogSigned,
    m.moduleType = .iol⟩

def CPXApModule.inputRegion (m : CPXApModule) : Region :=
  ⟨m.inputOffset, m.inputBytes, m.digitalInputs, m.analogInputs, m.analogBytes, m.analogSigned,
    m.moduleType = .iol⟩

theorem oneKind_outputRegion (m : CPXApModule) : m.outputRegion.OneKind := by
  have htype := m.type_eq
  unfold Region.OneKind CPXApModule.outputRegion CPXApModule.digitalOutputs
    CPXApModule.analogOutputs CPXApModule.analogBytes
  cases hspec : m.spec with
  | digital inputs outputs =>
    rw [hspec] at htype
    exact Or.inl ⟨rfl, htype⟩
  | analog inputs outputs width signed =>
    rw [hspec] at htype
    exact Or.inr (Or.inl ⟨rfl, htype, width.bytes_pos⟩)
  | ioLink ports inputs outputs =>
    rw [hspec] at htype
    exact Or.inr (Or.inr ⟨rfl, rfl, htype⟩)

theorem oneKind_inputRegion (m : CPXApModule) : m.inputRegion.OneKind := by
  have htype := m.type_eq
  unfold Region.OneKind CPXApModule.inputRegion CPXApModule.digitalInputs
    CPXApModule.analogInputs CPXApModule.analogBytes
  cases hspec : m.spec with
  | digital inputs outputs =>
    rw [hspec] at htype
    exact Or.inl ⟨rfl, htype⟩
  | analog inputs outputs width signed =>
    rw [hspec] at htype
    exact Or.inr (Or.inl ⟨rfl, htype, width.bytes_pos⟩)
  | ioLink ports inputs outputs =>
    rw [hspec] at htype
    exact Or.inr (Or.inr ⟨rfl, rfl, htype⟩)

/-- The regions follow one another, and one without bytes is nowhere. -/
def Cumulative : (base : ℕ) → List Region → Prop
  | _, [] => True
  | base, r :: regions =>
    r.offset = (if r.bytes ≠ 0 then some base else none) ∧ Cumulative (base + r.bytes) regions

/-- **The regions of a layout follow one another,** in both directions. -/
theorem cumulative_assign (inputOffset outputOffset : ℕ) (modules : List CPXApModule) :
    Cumulative outputOffset
        ((assignProcessImageOffsets inputOffset outputOffset modules).map CPXApModule.outputRegion) ∧
      Cumulative inputOffset
        ((assignProcessImageOffsets inputOffset outputOffset modules).map CPXApModule.inputRegion) := by
  induction modules generalizing inputOffset outputOffset with
  | nil => exact ⟨trivial, trivial⟩
  | cons m modules ih =>
    obtain ⟨houtput, hinput⟩ := ih (inputOffset + m.inputBytes) (outputOffset + m.outputBytes)
    exact ⟨⟨rfl, houtput⟩, ⟨rfl, hinput⟩⟩

/-! ## Bytes of an image -/

/-- The byte is one of the region. -/
def Region.Contains (r : Region) (i : ℕ) : Prop :=
  ∃ base, r.offset = some base ∧ base ≤ i ∧ i < base + r.bytes

/-- The codec reads or writes the byte for the channels of the region. -/
def Region.Touches (r : Region) (i : ℕ) : Prop :=
  ∃ base, r.offset = some base ∧ base ≤ i ∧ i < base + r.footprint

/-- The codec stays in the region. -/
def Region.Inside (r : Region) : Prop := ∀ i, r.Touches i → r.Contains i

/-- The regions have no byte in common. -/
def Region.Disjoint (r r' : Region) : Prop := ∀ i, r.Contains i → ¬ r'.Contains i

theorem Region.inside_of_le {r : Region} (h : r.footprint ≤ r.bytes) : r.Inside := by
  rintro i ⟨base, hoffset, hbase, hi⟩
  exact ⟨base, hoffset, hbase, by omega⟩

theorem le_of_contains {regions : List Region} {base i : ℕ} (h : Cumulative base regions)
    {r : Region} (hr : r ∈ regions) (hi : r.Contains i) : base ≤ i := by
  induction regions generalizing base with
  | nil => exact nomatch hr
  | cons first regions ih =>
    obtain ⟨hoffset, hrest⟩ := h
    rcases List.mem_cons.mp hr with rfl | hr
    · obtain ⟨start, hstart, hle, -⟩ := hi
      rw [hstart] at hoffset
      split_ifs at hoffset
      obtain rfl := Option.some.inj hoffset
      exact hle
    · have hbase := ih hrest hr
      omega

/-- **Regions that follow one another are apart.** -/
theorem pairwise_disjoint_of_cumulative {regions : List Region} {base : ℕ}
    (h : Cumulative base regions) : regions.Pairwise Region.Disjoint := by
  induction regions generalizing base with
  | nil => exact List.Pairwise.nil
  | cons r regions ih =>
    obtain ⟨hoffset, hrest⟩ := h
    refine List.pairwise_cons.mpr ⟨fun r' hr' i hi hi' => ?_, ih hrest⟩
    have hbase : base + r.bytes ≤ i := le_of_contains hrest hr' hi'
    obtain ⟨start, hstart, -, hlt⟩ := hi
    rw [hstart] at hoffset
    split_ifs at hoffset
    obtain rfl := Option.some.inj hoffset
    omega

end MotionServer
