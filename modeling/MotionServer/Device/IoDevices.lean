import MotionServer.Configuration.Bus

/-!
# The I/O devices of the bus

* `CpxIoConfig`: what the configuration of a CPX-AP station says of its IO-Link devices;
* `ioDevices`: the slaves that are no motion axes, `BusConfig.slaves` the slaves of a configuration;
* `slaveIndex`, `selectedDevice`: the two readings of the `io` of a request;
* **`ioDevices_slaves`**: the devices have the ids of the configuration, in its order.
-/

namespace MotionServer

variable {F : Type}

/-! ## Stations -/

/-- A variable of an IODD. -/
structure IoddVariable where
  index : ℤ
  access : String
  subindices : List ℤ

/-- `IoLinkDeviceBinding`: the IO-Link device at a port. -/
structure IoLinkDeviceBinding where
  module : ℤ
  port : ℤ
  ioddVariables : List IoddVariable

/-- What the configuration sets of a station besides its id. -/
structure CpxStation where
  ioLinkDevices : List IoLinkDeviceBinding
  modulePdoIndexStride : ℤ
  one_le_stride : 1 ≤ modulePdoIndexStride

/-- `CPXIoConfig`. -/
structure CpxIoConfig extends CpxStation where
  ioId : String

/-- A slave of the master: its profile is that of an axis or of an I/O station. -/
structure BusSlave where
  isMotionAxis : Bool
  config : Option CpxIoConfig

/-- The slave that a device of the bus is. `station` is what the configuration sets for it. -/
def slaveOf (station : BusDevice → CpxStation) (d : BusDevice) : BusSlave :=
  match d.role with
  | .axis => ⟨true, none⟩
  | .io => ⟨false, some { station d with ioId := pyStrip (d.logicalId.getD "") }⟩

/-- The slaves of a configuration. -/
def BusConfig.slaves (config : BusConfig) (station : BusDevice → CpxStation) : List BusSlave :=
  config.devices.map (slaveOf station)

/-! ## I/O devices -/

/-- An entry of `IoDeviceGroup.devices`. -/
structure IoDevice where
  id : String
  slaveIndex : ℕ
  slave : BusSlave

/-- `_io_slaves`. -/
def ioSlaves (slaves : List BusSlave) : List (BusSlave × ℕ) :=
  slaves.zipIdx.filter fun entry => !entry.1.isMotionAxis

/-- `device_info`. -/
def deviceInfo (slave : BusSlave) (slaveIndex ioIndex : ℕ) : IoDevice where
  id := match slave.config with
    | some config => config.ioId
    | none => defaultIoId ioIndex
  slaveIndex := slaveIndex
  slave := slave

/-- `IoDeviceGroup.devices`. -/
def ioDevices (slaves : List BusSlave) : List IoDevice :=
  (ioSlaves slaves).zipIdx.map fun entry => deviceInfo entry.1.1 entry.1.2 entry.2

/-- `_slave_index_by_io_index`. -/
def slaveIndexByIoIndex (slaves : List BusSlave) (ioIndex : ℤ) : Except PyExc ℕ :=
  if ioIndex < 0 then .error .valueError
  else match (ioSlaves slaves)[ioIndex.toNat]? with
    | some entry => .ok entry.2
    | none => .error .valueError

/-- The loops of both resolvers: the first device with the id. -/
def deviceWithId (slaves : List BusSlave) (id : String) : Except PyExc IoDevice :=
  match (ioDevices slaves).find? fun d => d.id == id with
  | some d => .ok d
  | none => .error .valueError

/-- `IoDeviceGroup.slave_index` for a selector that is no integer. -/
def slaveIndexOfText (slaves : List BusSlave) (text : String) : Except PyExc ℕ :=
  if isDigitText text then
    match parseIntLiteral false text with
    | some i => slaveIndexByIoIndex slaves i
    | none => .error .valueError
  else do
    let device ← deviceWithId slaves text
    pure device.slaveIndex

/-- `IoDeviceGroup.slave_index`. -/
def slaveIndex (repr : Value F → String) (slaves : List BusSlave) (selector : Value F) :
    Except PyExc ℕ :=
  match selector.asInt? with
  | some i => slaveIndexByIoIndex slaves i.val
  | none => slaveIndexOfText slaves (pyStrip (selector.pyStr repr))

/-- `IoDeviceGroup.selected_device(io_id=…)`. -/
def selectedDevice (repr : Value F → String) (slaves : List BusSlave) :
    (ioId : Value F) → Except PyExc IoDevice
  | .null => match ioDevices slaves with
    | [d] => .ok d
    | _ => .error .valueError
  | ioId => deviceWithId slaves (ioId.pyStr repr)

/-! ## Positions and ids -/

theorem map_slaveIndex_ioDevices (slaves : List BusSlave) :
    (ioDevices slaves).map IoDevice.slaveIndex = (ioSlaves slaves).map Prod.snd := by
  have h : (ioDevices slaves).map IoDevice.slaveIndex =
      ((ioSlaves slaves).zipIdx.map Prod.fst).map Prod.snd := by
    rw [ioDevices, List.map_map, List.map_map]
    rfl
  rw [h, List.zipIdx_map_fst]

/-- No slave is two devices. -/
theorem nodup_slaveIndex_ioDevices (slaves : List BusSlave) :
    ((ioDevices slaves).map IoDevice.slaveIndex).Nodup := by
  rw [map_slaveIndex_ioDevices]
  have hsub : ((ioSlaves slaves).map Prod.snd).Sublist (slaves.zipIdx.map Prod.snd) :=
    List.filter_sublist.map _
  refine List.Nodup.sublist hsub ?_
  rw [List.zipIdx_map_snd]
  exact List.nodup_range'

theorem toOption_slaveIndexByIoIndex (slaves : List BusSlave) (ioIndex : ℤ) :
    (slaveIndexByIoIndex slaves ioIndex).toOption =
      if ioIndex < 0 then none
      else (ioDevices slaves)[ioIndex.toNat]?.map IoDevice.slaveIndex := by
  rw [← List.getElem?_map, map_slaveIndex_ioDevices, List.getElem?_map, slaveIndexByIoIndex]
  split_ifs
  · rfl
  · cases (ioSlaves slaves)[ioIndex.toNat]? <;> rfl

theorem toOption_deviceWithId (slaves : List BusSlave) (id : String) :
    (deviceWithId slaves id).toOption = (ioDevices slaves).find? fun d => d.id == id := by
  rw [deviceWithId]
  cases (ioDevices slaves).find? fun d => d.id == id <;> rfl

/-- The first device with an id, by the position of the id. -/
theorem find?_id_eq (devices : List IoDevice) (id : String) :
    (devices.find? fun d => d.id == id) = devices[(devices.map IoDevice.id).idxOf id]? := by
  induction devices with
  | nil => rfl
  | cons d devices ih =>
    rw [List.map_cons, List.idxOf_cons]
    by_cases h : d.id = id
    · have hbeq : (d.id == id) = true := by simpa using h
      rw [List.find?_cons_of_pos (by simpa using h), hbeq]
      rfl
    · have hbeq : (d.id == id) = false := by simpa using h
      rw [List.find?_cons_of_neg (by simpa using h), hbeq, ih]
      rfl

/-- The ids of the slaves that are no axes. -/
def configuredIds (slaves : List BusSlave) : List String :=
  (slaves.filter fun slave => !slave.isMotionAxis).map fun slave =>
    (slave.config.map CpxIoConfig.ioId).getD ""

theorem map_id_ioDevices {slaves : List BusSlave}
    (h : ∀ slave ∈ slaves, slave.isMotionAxis = false → slave.config.isSome = true) :
    (ioDevices slaves).map IoDevice.id = configuredIds slaves := by
  have hids : (ioDevices slaves).map IoDevice.id =
      ((ioSlaves slaves).zipIdx.map Prod.fst).map
        fun entry => (entry.1.config.map CpxIoConfig.ioId).getD "" := by
    rw [ioDevices, List.map_map, List.map_map]
    refine List.map_congr_left fun entry hentry => ?_
    have hmem : entry.1 ∈ ioSlaves slaves := List.fst_mem_of_mem_zipIdx hentry
    obtain ⟨hslave, haxis⟩ := List.mem_filter.mp hmem
    have hsome := h entry.1.1 (List.fst_mem_of_mem_zipIdx hslave) (by simpa using haxis)
    obtain ⟨config, hconfig⟩ := Option.isSome_iff_exists.mp hsome
    show (deviceInfo entry.1.1 entry.1.2 entry.2).id = _
    rw [deviceInfo]
    simp only [hconfig, Function.comp, Option.map_some, Option.getD_some]
  rw [hids, List.zipIdx_map_fst, ioSlaves, configuredIds]
  have hfilter : (slaves.zipIdx.filter fun entry => !entry.1.isMotionAxis).map Prod.fst =
      (slaves.zipIdx.map Prod.fst).filter fun slave => !slave.isMotionAxis := by
    rw [List.filter_map]
    rfl
  rw [List.zipIdx_map_fst] at hfilter
  rw [← hfilter, List.map_map]
  rfl

/-- **The devices have the ids of the configuration.** -/
theorem map_id_ioDevices_slaves (config : BusConfig) (station : BusDevice → CpxStation) :
    (ioDevices (config.slaves station)).map IoDevice.id = config.ioIds := by
  have hsome : ∀ slave ∈ config.slaves station,
      slave.isMotionAxis = false → slave.config.isSome = true := by
    intro slave hslave haxis
    obtain ⟨d, -, rfl⟩ := List.mem_map.mp hslave
    cases hrole : d.role <;> simp [slaveOf, hrole] at haxis ⊢
  rw [map_id_ioDevices hsome, configuredIds, BusConfig.slaves, BusConfig.ioIds]
  obtain ⟨devices, hnamed⟩ := config
  dsimp only
  clear hsome
  induction devices with
  | nil => rfl
  | cons d devices ih =>
    have ih := ih fun d hd => hnamed d (List.mem_cons_of_mem _ hd)
    rw [List.map_cons]
    cases hrole : d.role with
    | axis =>
      rw [List.filter_cons_of_neg (by simp [slaveOf, hrole]),
        List.filterMap_cons_none (by simp [hrole])]
      exact ih
    | io =>
      obtain ⟨id, hid, hlogical⟩ := hnamed d (by simp) hrole
      rw [List.filter_cons_of_pos (by simp [slaveOf, hrole]),
        List.filterMap_cons_some (b := id) (by simp [hrole, hid]), List.map_cons, ih]
      simp [slaveOf, hrole, hid, hlogical.stripped]

end MotionServer
