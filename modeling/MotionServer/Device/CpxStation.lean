import MotionServer.Device.CpxCodec
import Mathlib.Data.List.Sort
import Mathlib.Logic.Function.Basic

/-!
# The virtual I/O station

* `FixedPdo`: the blocks of a fixed process image;
* `encodeRxpdo`, `decodeTxpdo`: the process image on the side of the master;
* `VirtualCpxApDevice`, `exchangeProcessdata`: the blocks in the object dictionary, and the station;
* **`exchange_roundTrip`**: each module gets the values written for it, and its own inputs arrive.
-/

namespace MotionServer

open Slices (slice)

/-! ## Blocks -/

/-- `EsiPdoEntryInfo`. -/
structure EsiPdoEntryInfo where
  index : ℕ
  subindex : ℕ
  bitLength : ℕ

/-- `byte_size`. -/
def pdoByteSize (entries : List EsiPdoEntryInfo) : ℕ := ((entries.map (·.bitLength)).sum + 7) / 8

/-- `CPXPdoBlock`. -/
structure CPXPdoBlock where
  index : ℕ
  subindex : ℕ
  byteLength : ℕ

def CPXPdoBlock.key (block : CPXPdoBlock) : ℕ × ℕ := (block.index, block.subindex)

/-- `pdo_blocks`. -/
def pdoBlocks (entries : List EsiPdoEntryInfo) : List CPXPdoBlock :=
  (entries.filter fun entry => entry.index ≠ 0).map fun entry =>
    ⟨entry.index, entry.subindex, (entry.bitLength + 7) / 8⟩

/-- The entries of a fixed PDO: blocks of whole bytes, each of them once. -/
structure FixedPdo where
  entries : List EsiPdoEntryInfo
  index_ne_zero : ∀ entry ∈ entries, entry.index ≠ 0
  whole_bytes : ∀ entry ∈ entries, 8 ∣ entry.bitLength
  keys_nodup : (entries.map fun entry => (entry.index, entry.subindex)).Nodup

namespace FixedPdo

variable (pdo : FixedPdo)

def byteSize : ℕ := pdoByteSize pdo.entries

def blocks : List CPXPdoBlock := pdoBlocks pdo.entries

theorem blocks_eq : pdo.blocks =
    pdo.entries.map fun entry => ⟨entry.index, entry.subindex, (entry.bitLength + 7) / 8⟩ := by
  rw [blocks, pdoBlocks, List.filter_eq_self.mpr]
  intro entry hentry
  exact decide_eq_true (pdo.index_ne_zero entry hentry)

theorem blocks_nodup : (pdo.blocks.map CPXPdoBlock.key).Nodup := by
  rw [blocks_eq, List.map_map]
  exact pdo.keys_nodup

/-- **The blocks are as long as the image.** -/
theorem sum_blocks : (pdo.blocks.map CPXPdoBlock.byteLength).sum = pdo.byteSize := by
  have hsum : ∀ entries : List EsiPdoEntryInfo, (∀ entry ∈ entries, 8 ∣ entry.bitLength) →
      8 * (entries.map fun entry => (entry.bitLength + 7) / 8).sum =
        (entries.map (·.bitLength)).sum := by
    intro entries hwhole
    induction entries with
    | nil => rfl
    | cons entry entries ih =>
      obtain ⟨k, hk⟩ := hwhole entry (List.mem_cons_self ..)
      have hrest := ih fun entry' h => hwhole entry' (List.mem_cons_of_mem _ h)
      rw [List.map_cons, List.map_cons, List.sum_cons, List.sum_cons, hk]
      omega
  have h := hsum pdo.entries pdo.whole_bytes
  rw [blocks_eq, List.map_map, byteSize, pdoByteSize, ← h]
  show (pdo.entries.map fun entry => (entry.bitLength + 7) / 8).sum = _
  omega

end FixedPdo

/-- `selected_fixed_pdo`: the smallest of the fixed PDOs that has room. -/
def selectedFixedPdo (candidates : List FixedPdo) (requiredBytes : ℕ) : Except PyExc FixedPdo :=
  let sorted := candidates.insertionSort fun a b => a.byteSize ≤ b.byteSize
  match sorted.find? fun candidate => max 1 requiredBytes ≤ candidate.byteSize with
  | some candidate => .ok candidate
  | none => .error .valueError

/-- The selected PDO has room for the modules and for the station. -/
theorem le_byteSize_of_selected {candidates : List FixedPdo} {modules station : ℕ} {pdo : FixedPdo}
    (h : selectedFixedPdo candidates (modules + station) = .ok pdo) : modules ≤ pdo.byteSize := by
  unfold selectedFixedPdo at h
  dsimp only at h
  split at h
  · rename_i candidate hfind
    obtain rfl := Except.ok.inj h
    have hroom : max 1 (modules + station) ≤ candidate.byteSize := by
      simpa using List.find?_some hfind
    omega
  · exact nomatch h

/-- `rxpdo_payload_to_od` for blocks, which are arrays of bytes. -/
def rxpdoBlocksToOd : (payload : List Byte) → List CPXPdoBlock → (od : ℕ × ℕ → List Byte) →
    (ℕ × ℕ → List Byte) × Except PyExc Unit
  | _, [], od => (od, .ok ())
  | payload, block :: blocks, od =>
    if payload.length < block.byteLength then (od, .error .valueError)
    else rxpdoBlocksToOd (payload.drop block.byteLength) blocks
      (Function.update od block.key (payload.take block.byteLength))

/-- `_read_process_image`. -/
def readProcessImage (blocks : List CPXPdoBlock) (od : ℕ × ℕ → List Byte) : List Byte :=
  blocks.flatMap fun block => od block.key

/-- `_write_process_image`. -/
def writeProcessImage : (payload : List Byte) → List CPXPdoBlock → (od : ℕ × ℕ → List Byte) →
    ℕ × ℕ → List Byte
  | _, [], od => od
  | payload, block :: blocks, od => writeProcessImage (payload.drop block.byteLength) blocks
      (Function.update od block.key (payload.take block.byteLength))

/-- `od_to_txpdo_payload` for blocks. -/
def odToTxpdoBlocks (blocks : List CPXPdoBlock) (od : ℕ × ℕ → List Byte) : List Byte :=
  blocks.flatMap fun block =>
    (od block.key).take block.byteLength ++
      List.replicate (block.byteLength - (od block.key).length) 0

/-- A payload with room for the blocks is written as it is written by the station. -/
theorem rxpdoBlocksToOd_eq (payload : List Byte) {blocks : List CPXPdoBlock}
    (od : ℕ × ℕ → List Byte) (h : (blocks.map CPXPdoBlock.byteLength).sum ≤ payload.length) :
    rxpdoBlocksToOd payload blocks od = (writeProcessImage payload blocks od, .ok ()) := by
  induction blocks generalizing payload od with
  | nil => rfl
  | cons block blocks ih =>
    rw [List.map_cons, List.sum_cons] at h
    rw [rxpdoBlocksToOd, if_neg (by omega), ih _ _ (by rw [List.length_drop]; omega),
      writeProcessImage]

theorem writeProcessImage_of_notMem {payload : List Byte} {blocks : List CPXPdoBlock}
    (od : ℕ × ℕ → List Byte) {key : ℕ × ℕ} (h : key ∉ blocks.map CPXPdoBlock.key) :
    writeProcessImage payload blocks od key = od key := by
  induction blocks generalizing payload od with
  | nil => rfl
  | cons block blocks ih =>
    rw [List.map_cons, List.mem_cons, not_or] at h
    rw [writeProcessImage, ih _ h.2, Function.update_of_ne h.1]

/-- **The image of the blocks is the payload,** in pieces of their lengths. -/
theorem readProcessImage_write (payload : List Byte) {blocks : List CPXPdoBlock}
    (od : ℕ × ℕ → List Byte) (hnodup : (blocks.map CPXPdoBlock.key).Nodup)
    (h : (blocks.map CPXPdoBlock.byteLength).sum = payload.length) :
    readProcessImage blocks (writeProcessImage payload blocks od) = payload ∧
      odToTxpdoBlocks blocks (writeProcessImage payload blocks od) = payload := by
  induction blocks generalizing payload od with
  | nil =>
    have hnil : payload = [] := List.eq_nil_of_length_eq_zero h.symm
    rw [hnil]
    exact ⟨rfl, rfl⟩
  | cons block blocks ih =>
    rw [List.map_cons, List.sum_cons] at h
    rw [List.map_cons, List.nodup_cons] at hnodup
    obtain ⟨hread, htx⟩ := ih (payload.drop block.byteLength)
      (Function.update od block.key (payload.take block.byteLength)) hnodup.2
      (by rw [List.length_drop]; omega)
    have hlength : (payload.take block.byteLength).length = block.byteLength :=
      List.length_take_of_le (by omega)
    have hblock : writeProcessImage payload (block :: blocks) od block.key =
        payload.take block.byteLength := by
      rw [writeProcessImage, writeProcessImage_of_notMem _ hnodup.1, Function.update_self]
    unfold readProcessImage at hread ⊢
    unfold odToTxpdoBlocks at htx ⊢
    rw [List.flatMap_cons, List.flatMap_cons, hblock, hlength, Nat.sub_self, List.replicate_zero,
      List.append_nil, List.take_of_length_le hlength.le, writeProcessImage, hread, htx,
      List.take_append_drop]
    exact ⟨rfl, rfl⟩

/-! ## Master and station -/

/-- The modules that read their region, one after the other. -/
def readModules (region : CPXApModule → Region) (payload : List Byte) :
    List CPXApModule → (ℕ → ChannelValues) → ℕ → ChannelValues
  | [], values => values
  | m :: modules, values => readModules region payload modules
      (Function.update values m.slot (readRegion payload (region m) (values m.slot)))

/-- `encode_rxpdo`. -/
def encodeRxpdo (mappingSize : ℕ) (modules : List CPXApModule) (moduleOutputs : ℕ → ChannelValues) :
    Except PyExc (List Byte) :=
  writeRegions (List.replicate mappingSize 0)
    (modules.map fun m => (m.outputRegion, moduleOutputs m.slot))

/-- `decode_txpdo`. -/
def decodeCpxTxpdo (payload : List Byte) (modules : List CPXApModule)
    (moduleInputs : ℕ → ChannelValues) : ℕ → ChannelValues :=
  readModules CPXApModule.inputRegion payload modules moduleInputs

/-- `VirtualCpxApDevice`: the blocks in its object dictionary, and the channels of its modules. -/
structure VirtualCpxApDevice where
  od : ℕ × ℕ → List Byte
  inputs : ℕ → ChannelValues
  outputs : ℕ → ChannelValues

/-- The images of the modules that publish their inputs. -/
def publishInputImages (inputBytes : ℕ) (modules : List CPXApModule) (inputs : ℕ → ChannelValues) :
    Except PyExc (List Byte) :=
  writeRegions (List.replicate inputBytes 0) (modules.map fun m => (m.inputRegion, inputs m.slot))

/-- `model_update`, without the requests of the gateways. -/
def modelUpdate (modules : List CPXApModule) (rx tx : FixedPdo) (device : VirtualCpxApDevice) :
    Except PyExc VirtualCpxApDevice := do
  let outputImage := readProcessImage rx.blocks device.od
  let outputs := readModules CPXApModule.outputRegion outputImage modules device.outputs
  let inputImage ← publishInputImages tx.byteSize modules device.inputs
  pure ⟨writeProcessImage inputImage tx.blocks device.od, device.inputs, outputs⟩

/-- `exchange_processdata`. -/
def exchangeProcessdata (modules : List CPXApModule) (rx tx : FixedPdo) (device : VirtualCpxApDevice)
    (outputPayload : List Byte) : Except PyExc (VirtualCpxApDevice × List Byte) := do
  let received := rxpdoBlocksToOd outputPayload rx.blocks device.od
  received.2
  let device ← modelUpdate modules rx tx { device with od := received.1 }
  pure (device, odToTxpdoBlocks tx.blocks device.od)

/-! ## Values in range -/

/-- Values of the channels, each of them accepted by `validate_analog_value`. -/
structure CPXApModule.Accepts (m : CPXApModule) (r : Region) (values : ChannelValues) : Prop
    extends r.Shaped values where
  valid : ∀ value ∈ values.analog, validateAnalogValue m value = .ok value

/-- **What `validate_analog_value` accepts fits in the bytes of the channel.** -/
theorem fits_of_validate {m : CPXApModule} {value : ℤ} (hwidth : 0 < m.analogBytes)
    (h : validateAnalogValue m value = .ok value) :
    Bytes.Fits m.analogSigned m.analogBytes value := by
  unfold validateAnalogValue CPXApModule.analogSigned CPXApModule.analogBits at h
  unfold CPXApModule.analogSigned CPXApModule.analogBytes Bytes.Fits
  unfold CPXApModule.analogBytes at hwidth
  cases hspec : m.spec with
  | digital inputs outputs =>
    rw [hspec] at hwidth
    exact absurd hwidth (Nat.lt_irrefl 0)
  | ioLink ports inputs outputs =>
    rw [hspec] at hwidth
    exact absurd hwidth (Nat.lt_irrefl 0)
  | analog inputs outputs width signed =>
    rw [hspec] at h
    dsimp only at h ⊢
    obtain ⟨bits, rfl | rfl | rfl⟩ := width <;> cases signed <;>
      simp [AnalogBits.bytes, Nat.shiftLeft_eq] at h ⊢ <;> omega

theorem CPXApModule.Accepts.inRange {m : CPXApModule} {r : Region} {values : ChannelValues}
    (hkind : r.OneKind) (hsigned : r.signed = m.analogSigned) (hwidth : r.width = m.analogBytes)
    (h : m.Accepts r values) : r.InRange values := by
  refine ⟨h.toShaped, fun value hvalue => ?_⟩
  have hanalog : r.analog ≠ 0 := by
    intro hzero
    rw [List.eq_nil_of_length_eq_zero (h.analog.trans hzero)] at hvalue
    exact nomatch hvalue
  have hpos : 0 < r.width := by
    rcases hkind with ⟨hzero, -⟩ | ⟨-, -, hpos⟩ | ⟨-, hzero, -⟩
    · exact absurd hzero hanalog
    · exact hpos
    · exact absurd hzero hanalog
  rw [hsigned, hwidth]
  rw [hwidth] at hpos
  exact fits_of_validate hpos (h.valid value hvalue)

/-! ## The exchange -/

/-- Modules of different slots whose channels fit in their bytes. -/
structure FittingModules where
  modules : List CPXApModule
  slots_nodup : (modules.map CPXApModule.slot).Nodup
  outputs_fit : ∀ m ∈ modules, m.outputRegion.footprint ≤ m.outputBytes
  inputs_fit : ∀ m ∈ modules, m.inputRegion.footprint ≤ m.inputBytes

/-- The modules with their offsets. -/
def FittingModules.layout (configured : FittingModules) : List CPXApModule :=
  assignProcessImageOffsets 0 0 configured.modules

theorem slots_assign (inputOffset outputOffset : ℕ) (modules : List CPXApModule) :
    (assignProcessImageOffsets inputOffset outputOffset modules).map CPXApModule.slot =
      modules.map CPXApModule.slot := by
  induction modules generalizing inputOffset outputOffset with
  | nil => rfl
  | cons m modules ih => rw [assignProcessImageOffsets, List.map_cons, List.map_cons, ih]

/-- A module of a layout is a configured one with offsets. -/
theorem mem_assign {inputOffset outputOffset : ℕ} {modules : List CPXApModule} {m : CPXApModule}
    (h : m ∈ assignProcessImageOffsets inputOffset outputOffset modules) :
    ∃ m' ∈ modules, m.spec = m'.spec ∧ m.moduleType = m'.moduleType ∧
      m.inputBytes = m'.inputBytes ∧ m.outputBytes = m'.outputBytes := by
  induction modules generalizing inputOffset outputOffset with
  | nil => exact nomatch h
  | cons first modules ih =>
    rcases List.mem_cons.mp h with rfl | htail
    · exact ⟨first, List.mem_cons_self .., rfl, rfl, rfl, rfl⟩
    · obtain ⟨m', hm', hsame⟩ := ih htail
      exact ⟨m', List.mem_cons_of_mem _ hm', hsame⟩

theorem FittingModules.sound (configured : FittingModules) {m : CPXApModule}
    (hm : m ∈ configured.layout) : m.outputRegion.Sound ∧ m.inputRegion.Sound := by
  obtain ⟨m', hm', hspec, htype, hinput, houtput⟩ := mem_assign hm
  have houtputs := configured.outputs_fit m' hm'
  have hinputs := configured.inputs_fit m' hm'
  refine ⟨⟨oneKind_outputRegion m, ?_⟩, ⟨oneKind_inputRegion m, ?_⟩⟩
  · unfold Region.footprint CPXApModule.outputRegion CPXApModule.digitalOutputs
      CPXApModule.analogOutputs CPXApModule.analogBytes at houtputs ⊢
    rw [hspec, htype, houtput]
    exact houtputs
  · unfold Region.footprint CPXApModule.inputRegion CPXApModule.digitalInputs
      CPXApModule.analogInputs CPXApModule.analogBytes at hinputs ⊢
    rw [hspec, htype, hinput]
    exact hinputs

/-- **Each module reads its own region.** -/
theorem readModules_apply {region : CPXApModule → Region} {payload : List Byte}
    {modules : List CPXApModule} (values : ℕ → ChannelValues)
    (hnodup : (modules.map CPXApModule.slot).Nodup) {m : CPXApModule} (hm : m ∈ modules) :
    readModules region payload modules values m.slot =
      readRegion payload (region m) (values m.slot) := by
  have hframe : ∀ (modules : List CPXApModule) (values : ℕ → ChannelValues) (slot : ℕ),
      slot ∉ modules.map CPXApModule.slot →
        readModules region payload modules values slot = values slot := by
    intro modules
    induction modules with
    | nil => exact fun _ _ _ => rfl
    | cons first modules ih =>
      intro values slot hslot
      rw [List.map_cons, List.mem_cons, not_or] at hslot
      rw [readModules, ih _ slot hslot.2, Function.update_of_ne hslot.1]
  induction modules generalizing values with
  | nil => exact nomatch hm
  | cons first modules ih =>
    rw [List.map_cons, List.nodup_cons] at hnodup
    rw [readModules]
    rcases List.mem_cons.mp hm with rfl | htail
    · rw [hframe modules _ _ hnodup.1, Function.update_self]
    · have hne : m.slot ≠ first.slot := fun heq => hnodup.1 (heq ▸ List.mem_map_of_mem htail)
      rw [ih _ hnodup.2 htail, Function.update_of_ne hne]

/-- What an image of the modules is: it is written, each module reads its values in it, and its
region holds these values alone. -/
theorem image_of_modules {region : CPXApModule → Region} {modules : List CPXApModule} {size : ℕ}
    {values : ℕ → ChannelValues} (hsound : ∀ m ∈ modules, (region m).Sound)
    (hvalues : ∀ m ∈ modules, (region m).InRange (values m.slot))
    (hcumulative : Cumulative 0 (modules.map region))
    (hsize : (modules.map fun m => (region m).bytes).sum ≤ size) :
    ∃ image, writeRegions (List.replicate size 0) (modules.map fun m => (region m, values m.slot)) =
        .ok image ∧ image.length = size ∧
      ∀ m ∈ modules,
        (∀ old, (region m).Shaped old → readRegion image (region m) old = values m.slot) ∧
        ∀ offset, (region m).offset = some offset →
          slice image offset (region m).bytes = regionBytes (region m) (values m.slot) := by
  let entries := modules.map fun m => (region m, values m.slot)
  have hentries : ∀ entry ∈ entries, entry.1.Sound ∧ entry.1.InRange entry.2 := by
    intro entry hentry
    obtain ⟨m, hm, rfl⟩ := List.mem_map.mp hentry
    exact ⟨hsound m hm, hvalues m hm⟩
  have hmap : entries.map Prod.fst = modules.map region := by
    rw [List.map_map]
    rfl
  have htotal : totalBytes entries = (modules.map fun m => (region m).bytes).sum := by
    rw [totalBytes, List.map_map]
    rfl
  have hwrite := writeRegions_append [] (fun entry h => (hentries entry h).1)
    (fun entry h => (hentries entry h).2) (by rw [hmap]; exact hcumulative) (htotal ▸ hsize)
  rw [List.nil_append, List.nil_append] at hwrite
  have hlength : (imageBytes entries).length = totalBytes entries := by
    rw [imageBytes, List.length_flatMap, totalBytes]
    congr 1
    exact List.map_congr_left fun entry h =>
      length_regionBytes (hentries entry h).1 (hentries entry h).2.toShaped
  refine ⟨_, hwrite, ?_, ?_⟩
  · rw [List.length_append, hlength, List.length_replicate]
    omega
  · intro m hm
    have hentry : (region m, values m.slot) ∈ entries := List.mem_map_of_mem hm
    obtain ⟨pre, post, hsplit, hoffset⟩ := imageBytes_split (fun entry h => (hentries entry h).1)
      (fun entry h => (hentries entry h).2) (by rw [hmap]; exact hcumulative) hentry
    rw [hsplit, List.append_assoc]
    rw [Nat.zero_add] at hoffset
    refine ⟨?_, ?_⟩
    · intro old hold
      exact readRegion_append (hsound m hm) (hvalues m hm) hold pre _ hoffset
    · intro offset hsome
      have hbytes := length_regionBytes (hsound m hm) (hvalues m hm).toShaped
      have hmiddle := Slices.slice_middle pre (regionBytes (region m) (values m.slot))
        (post ++ List.replicate (size - totalBytes entries) 0)
      rw [hbytes] at hmiddle
      dsimp only at hoffset
      rw [hsome] at hoffset
      split_ifs at hoffset
      rw [Option.some.inj hoffset]
      exact hmiddle

/-- The bytes of a module are the same in two images. -/
def SameBytes (r : Region) (image image' : List Byte) : Prop :=
  ∀ offset, r.offset = some offset → slice image offset r.bytes = slice image' offset r.bytes

/-- **Values of one module change the bytes of no other module.** -/
theorem sameBytes_of_other {region : CPXApModule → Region} {modules : List CPXApModule} {size : ℕ}
    {values values' : ℕ → ChannelValues} {image image' : List Byte}
    (hsound : ∀ m ∈ modules, (region m).Sound)
    (hvalues : ∀ m ∈ modules, (region m).InRange (values m.slot))
    (hvalues' : ∀ m ∈ modules, (region m).InRange (values' m.slot))
    (hcumulative : Cumulative 0 (modules.map region))
    (hsize : (modules.map fun m => (region m).bytes).sum ≤ size)
    (himage : writeRegions (List.replicate size 0)
      (modules.map fun m => (region m, values m.slot)) = .ok image)
    (himage' : writeRegions (List.replicate size 0)
      (modules.map fun m => (region m, values' m.slot)) = .ok image')
    {m : CPXApModule} (hm : m ∈ modules) (hsame : values' m.slot = values m.slot) :
    SameBytes (region m) image' image := by
  obtain ⟨_, hwrite, -, hregions⟩ := image_of_modules hsound hvalues hcumulative hsize
  obtain ⟨_, hwrite', -, hregions'⟩ := image_of_modules hsound hvalues' hcumulative hsize
  obtain rfl := Except.ok.inj (hwrite.symm.trans himage)
  obtain rfl := Except.ok.inj (hwrite'.symm.trans himage')
  intro offset hoffset
  rw [(hregions m hm).2 offset hoffset, (hregions' m hm).2 offset hoffset, hsame]

/-- One exchange. The values that the master has for the outputs arrive in each module, the inputs of
each module arrive in the master, and in both images the bytes of a module depend on its own values
only. -/
theorem exchange_roundTrip (configured : FittingModules) (rx tx : FixedPdo)
    {rxCandidates txCandidates : List FixedPdo} {stationOutputs stationInputs : ℕ}
    (hrx : selectedFixedPdo rxCandidates
      ((configured.layout.map CPXApModule.outputBytes).sum + stationOutputs) = .ok rx)
    (htx : selectedFixedPdo txCandidates
      ((configured.layout.map CPXApModule.inputBytes).sum + stationInputs) = .ok tx)
    (moduleOutputs moduleInputs : ℕ → ChannelValues) (device : VirtualCpxApDevice)
    (houtputs : ∀ m ∈ configured.layout, m.Accepts m.outputRegion (moduleOutputs m.slot))
    (hinputs : ∀ m ∈ configured.layout, m.Accepts m.inputRegion (device.inputs m.slot))
    (hold : ∀ m ∈ configured.layout, m.outputRegion.Shaped (device.outputs m.slot) ∧
      m.inputRegion.Shaped (moduleInputs m.slot)) :
    ∃ payload device' reply,
      encodeRxpdo rx.byteSize configured.layout moduleOutputs = .ok payload ∧
      exchangeProcessdata configured.layout rx tx device payload = .ok (device', reply) ∧
      (∀ m ∈ configured.layout, device'.outputs m.slot = moduleOutputs m.slot) ∧
      (∀ m ∈ configured.layout,
        decodeCpxTxpdo reply configured.layout moduleInputs m.slot = device.inputs m.slot) ∧
      (∀ (moduleOutputs' : ℕ → ChannelValues) (payload' : List Byte),
        (∀ m ∈ configured.layout, m.Accepts m.outputRegion (moduleOutputs' m.slot)) →
        encodeRxpdo rx.byteSize configured.layout moduleOutputs' = .ok payload' →
        ∀ m ∈ configured.layout, moduleOutputs' m.slot = moduleOutputs m.slot →
          SameBytes m.outputRegion payload' payload) ∧
      ∀ (inputs' : ℕ → ChannelValues) (reply' : List Byte),
        (∀ m ∈ configured.layout, m.Accepts m.inputRegion (inputs' m.slot)) →
        publishInputImages tx.byteSize configured.layout inputs' = .ok reply' →
        ∀ m ∈ configured.layout, inputs' m.slot = device.inputs m.slot →
          SameBytes m.inputRegion reply' reply := by
  replace hrx := le_byteSize_of_selected hrx
  replace htx := le_byteSize_of_selected htx
  have hout : ∀ (values : ℕ → ChannelValues),
      (∀ m ∈ configured.layout, m.Accepts m.outputRegion (values m.slot)) →
        ∀ m ∈ configured.layout, m.outputRegion.InRange (values m.slot) :=
    fun values h m hm => (h m hm).inRange (oneKind_outputRegion m) rfl rfl
  have hin : ∀ (values : ℕ → ChannelValues),
      (∀ m ∈ configured.layout, m.Accepts m.inputRegion (values m.slot)) →
        ∀ m ∈ configured.layout, m.inputRegion.InRange (values m.slot) :=
    fun values h m hm => (h m hm).inRange (oneKind_inputRegion m) rfl rfl
  have hnodup : (configured.layout.map CPXApModule.slot).Nodup := by
    rw [FittingModules.layout, slots_assign]
    exact configured.slots_nodup
  obtain ⟨hcumulative, hcumulative'⟩ := cumulative_assign 0 0 configured.modules
  have hsoundOut := fun m hm => (configured.sound (m := m) hm).1
  have hsoundIn := fun m hm => (configured.sound (m := m) hm).2
  obtain ⟨payload, hencode, hpayload, hmodules⟩ :=
    image_of_modules hsoundOut (hout _ houtputs) hcumulative hrx
  obtain ⟨image, hpublish, himage, hmodules'⟩ :=
    image_of_modules hsoundIn (hin _ hinputs) hcumulative' htx
  -- the blocks carry the two images
  obtain ⟨hreadRx, -⟩ := readProcessImage_write payload device.od rx.blocks_nodup
    (rx.sum_blocks.trans hpayload.symm)
  have hreceived := rxpdoBlocksToOd_eq payload device.od
    (rx.sum_blocks.trans hpayload.symm).le
  obtain ⟨-, hreadTx⟩ := readProcessImage_write image
    (writeProcessImage payload rx.blocks device.od) tx.blocks_nodup
    (tx.sum_blocks.trans himage.symm)
  have hupdate : exchangeProcessdata configured.layout rx tx device payload =
      .ok (⟨writeProcessImage image tx.blocks (writeProcessImage payload rx.blocks device.od),
        device.inputs, readModules CPXApModule.outputRegion payload configured.layout
          device.outputs⟩, image) := by
    unfold exchangeProcessdata modelUpdate publishInputImages
    rw [hreceived]
    dsimp only
    rw [Except.ok_bind, hreadRx, hpublish]
    show Except.ok (_, odToTxpdoBlocks tx.blocks _) = _
    rw [hreadTx]
  refine ⟨payload, _, image, hencode, hupdate, ?_, ?_, ?_, ?_⟩
  · intro m hm
    show readModules CPXApModule.outputRegion payload configured.layout device.outputs m.slot = _
    rw [readModules_apply _ hnodup hm]
    exact (hmodules m hm).1 _ (hold m hm).1
  · intro m hm
    rw [decodeCpxTxpdo, readModules_apply _ hnodup hm]
    exact (hmodules' m hm).1 _ (hold m hm).2
  · intro moduleOutputs' payload' hvalues' hencode' m hm hsame
    exact sameBytes_of_other hsoundOut (hout _ houtputs) (hout _ hvalues') hcumulative hrx hencode
      hencode' hm hsame
  · intro inputs' reply' hvalues' hpublish' m hm hsame
    exact sameBytes_of_other hsoundIn (hin _ hinputs) (hin _ hvalues') hcumulative' htx hpublish
      hpublish' hm hsame

/-! ## A station of two modules -/

/-- Four digital inputs and outputs, and one analog input and output. -/
def mixedModules : FittingModules where
  modules := [⟨1, .dio, "dio:4:4", .digital 4 4, none, none, 1, 1, by decide⟩,
    ⟨2, .aio, "aio:1:1", .analog 1 1 defaultAnalogBits true, none, none, 2, 2, by decide⟩]
  slots_nodup := by decide
  outputs_fit := by decide
  inputs_fit := by decide

/-- Blocks of 16 bytes. -/
def staticBlocks (index : ℕ) (h : index ≠ 0) : FixedPdo where
  entries := [⟨index, 1, 128⟩]
  index_ne_zero entry hentry := by
    obtain rfl := List.mem_singleton.mp hentry
    exact h
  whole_bytes entry hentry := by
    obtain rfl := List.mem_singleton.mp hentry
    exact ⟨16, rfl⟩
  keys_nodup := List.nodup_singleton _

def mixedValues : ℕ → ChannelValues
  | 1 => ⟨[true, false, true, false], [], []⟩
  | _ => ⟨[], [-5], []⟩

def mixedZeros : ℕ → ChannelValues
  | 1 => ⟨[false, false, false, false], [], []⟩
  | _ => ⟨[], [0], []⟩

theorem exchange_roundTrip_mixed : ∃ payload device' reply,
    encodeRxpdo 16 mixedModules.layout mixedValues = .ok payload ∧
      exchangeProcessdata mixedModules.layout (staticBlocks 0x6F00 (by decide))
        (staticBlocks 0x7F00 (by decide)) ⟨fun _ => [], mixedValues, mixedZeros⟩ payload =
          .ok (device', reply) := by
  have hrx : selectedFixedPdo [staticBlocks 0x6F00 (by decide)]
      ((mixedModules.layout.map CPXApModule.outputBytes).sum + 0) =
        .ok (staticBlocks 0x6F00 (by decide)) := by rfl
  have htx : selectedFixedPdo [staticBlocks 0x7F00 (by decide)]
      ((mixedModules.layout.map CPXApModule.inputBytes).sum + 0) =
        .ok (staticBlocks 0x7F00 (by decide)) := by rfl
  obtain ⟨payload, device', reply, hencode, hexchange, -⟩ :=
    exchange_roundTrip mixedModules (staticBlocks 0x6F00 (by decide))
      (staticBlocks 0x7F00 (by decide)) hrx htx mixedValues mixedZeros
      ⟨fun _ => [], mixedValues, mixedZeros⟩
      (List.forall_mem_cons.mpr ⟨⟨⟨rfl, rfl, rfl⟩, by decide⟩,
        List.forall_mem_cons.mpr ⟨⟨⟨rfl, rfl, rfl⟩, by decide⟩, fun _ h => nomatch h⟩⟩)
      (List.forall_mem_cons.mpr ⟨⟨⟨rfl, rfl, rfl⟩, by decide⟩,
        List.forall_mem_cons.mpr ⟨⟨⟨rfl, rfl, rfl⟩, by decide⟩, fun _ h => nomatch h⟩⟩)
      (List.forall_mem_cons.mpr ⟨⟨⟨rfl, rfl, rfl⟩, ⟨rfl, rfl, rfl⟩⟩,
        List.forall_mem_cons.mpr ⟨⟨⟨rfl, rfl, rfl⟩, ⟨rfl, rfl, rfl⟩⟩, fun _ h => nomatch h⟩⟩)
  exact ⟨payload, device', reply, hencode, hexchange⟩

end MotionServer
