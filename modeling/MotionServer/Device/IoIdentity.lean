import MotionServer.Device.IoDevices

/-!
# Ids of the I/O devices

* `ioDeclarations`: the ids that the bus string declares, or leaves out, in its order;
* `ioIds_of_parse`, `slaveIndex_of_parse`: the ids and the positions of the devices;
* `DistinctDeclarations`: no id is declared twice, and none is one that another device is given;
* **`busIdentity_iff`**: when each device is found by its id.
-/

namespace MotionServer

/-! ## Declared ids -/

/-- The items of the bus string. -/
def busItems (rawBus : String) : List (List Char) :=
  (splitStripped ',' (stripChars rawBus.toList)).filter (· ≠ [])

/-- The id that an item declares for an I/O device, where it declares one. -/
def ioDeclaration (item : List Char) : Option (Option String) :=
  match withoutLabel item with
  | .error _ => none
  | .ok rawEntry =>
    let parts := declarationParts (pyLower (String.ofList (stripChars rawEntry))).toList
    if (roleOfName parts.1).toOption = some .io then some (parts.2.2.filter (· ≠ "")) else none

/-- The declarations of I/O devices. -/
def ioDeclarations (rawBus : String) : List (Option String) :=
  (busItems rawBus).filterMap ioDeclaration

/-- The id of the declaration at a position. -/
def givenId (declaration : Option String × ℕ) : String :=
  declaration.1.getD (defaultIoId declaration.2)

/-- No id is declared twice, and none is the one that a device without a declared id is given. -/
def DistinctDeclarations (declarations : List (Option String)) : Prop :=
  ∀ i j id, i ≠ j → declarations[i]? = some (some id) →
    declarations[j]? ≠ some (some id) ∧ (declarations[j]? = some none → id ≠ defaultIoId j)

theorem defaultIoId_injective : Function.Injective defaultIoId := by
  intro n n' h
  have hlist : ∀ n, (defaultIoId n).toList = 'i' :: 'o' :: Nat.toDigits 10 n := by
    intro n
    simp [defaultIoId]
  have hdigits := congrArg String.toList h
  rw [hlist, hlist, List.cons.injEq, List.cons.injEq] at hdigits
  have hvalue := congrArg (fun digits => Nat.ofDigitChars 10 digits 0) hdigits.2.2
  simpa using hvalue

/-- **The given ids are distinct exactly when the declarations are.** -/
theorem nodup_givenIds_iff (declarations : List (Option String)) :
    (declarations.zipIdx.map givenId).Nodup ↔ DistinctDeclarations declarations := by
  have hget : ∀ i, (declarations.zipIdx.map givenId)[i]? =
      declarations[i]?.map fun o : Option String => o.getD (defaultIoId i) := by
    intro i
    rw [List.getElem?_map, List.getElem?_zipIdx, Option.map_map, Nat.zero_add]
    rfl
  constructor
  · intro h i j id hij hi
    have hlt : i < (declarations.zipIdx.map givenId).length := by
      have := (List.getElem?_eq_some_iff.mp hi).1
      simpa using this
    have hne : declarations[i]?.map (fun o : Option String => o.getD (defaultIoId i)) ≠
        declarations[j]?.map fun o : Option String => o.getD (defaultIoId j) := by
      rw [← hget, ← hget]
      exact fun heq => hij ((List.getElem?_inj hlt h).mp heq)
    rw [hi, Option.map_some, Option.getD_some] at hne
    constructor
    · intro hj
      rw [hj, Option.map_some, Option.getD_some] at hne
      exact hne rfl
    · rintro hj rfl
      rw [hj, Option.map_some, Option.getD_none] at hne
      exact hne rfl
  · intro h
    rw [List.nodup_iff_getElem?_ne_getElem?]
    intro i j hij hj heq
    rw [List.length_map, List.length_zipIdx] at hj
    rw [hget, hget, List.getElem?_eq_getElem hj, List.getElem?_eq_getElem (by omega),
      Option.map_some, Option.map_some, Option.some.injEq] at heq
    have hi : declarations[i]? = some declarations[i] := List.getElem?_eq_getElem (by omega)
    have hj' : declarations[j]? = some declarations[j] := List.getElem?_eq_getElem hj
    cases ho : declarations[i] with
    | some id =>
      rw [ho] at hi heq
      obtain ⟨hdeclared, hdefault⟩ := h i j id (by omega) hi
      cases ho' : declarations[j] with
      | some id' =>
        rw [ho'] at hj' heq
        rw [Option.getD_some, Option.getD_some] at heq
        exact hdeclared (heq ▸ hj')
      | none =>
        rw [ho'] at hj' heq
        exact hdefault hj' heq
    | none =>
      rw [ho] at hi heq
      cases ho' : declarations[j] with
      | some id' =>
        rw [ho'] at hj' heq
        exact (h j i id' (by omega) hj').2 hi heq.symm
      | none =>
        rw [ho'] at heq
        have := defaultIoId_injective heq
        omega

/-! ## What is parsed -/

theorem parseDeclaration_spec {available : Option (List String)} {slaveIndex ioCount : ℕ}
    {item rawEntry : List Char} {device : BusDevice} (hitem : withoutLabel item = .ok rawEntry)
    (h : parseDeclaration available slaveIndex ioCount rawEntry = .ok device) :
    device.slaveIndex = slaveIndex ∧
      (device.role = .axis ∧ ioDeclaration item = none ∨
        device.role = .io ∧ ∃ o, ioDeclaration item = some o ∧
          device.logicalId = some (o.getD (defaultIoId ioCount))) := by
  unfold parseDeclaration at h
  unfold ioDeclaration
  rw [hitem]
  dsimp only
  obtain ⟨role, hrole, h⟩ := Except.bind_eq_ok.mp h
  dsimp only at h
  rw [hrole]
  generalize (declarationParts (pyLower (String.ofList (stripChars rawEntry))).toList).2 = parts
    at h ⊢
  have hio : (Except.ok DeviceRole.io : Except PyExc DeviceRole).toOption = some .io := rfl
  split_ifs at h with hcmmt hprofile hdefault
  · cases h
    obtain ⟨rfl, hmissing⟩ := hdefault
    refine ⟨rfl, Or.inr ⟨rfl, none, ?_, rfl⟩⟩
    rw [if_pos hio]
    rcases hmissing with hmissing | hmissing <;> rw [hmissing] <;> rfl
  · cases h
    refine ⟨rfl, ?_⟩
    cases role with
    | axis => exact Or.inl ⟨rfl, rfl⟩
    | io =>
      simp only [true_and, not_or] at hdefault
      obtain ⟨id, hid⟩ := Option.ne_none_iff_exists'.mp hdefault.1
      have hne : id ≠ "" := by
        rintro rfl
        exact hdefault.2 hid
      refine Or.inr ⟨rfl, some id, ?_, hid⟩
      rw [if_pos hio, hid, Option.filter_some, if_pos (by simpa using hne)]

/-- The ids of the devices are those of the declarations, and their positions are in order. -/
theorem parseDeclarations_spec {available : Option (List String)} {slaveIndex ioCount : ℕ}
    {items : List (List Char)} {devices : List BusDevice}
    (h : parseDeclarations available slaveIndex ioCount items = .ok devices) :
    devices.map BusDevice.slaveIndex = List.range' slaveIndex devices.length ∧
      (devices.filterMap fun d => if d.role = .io then d.logicalId else none) =
        ((items.filterMap ioDeclaration).zipIdx ioCount).map givenId := by
  induction items generalizing slaveIndex ioCount devices with
  | nil =>
    obtain rfl := Except.ok.inj h
    exact ⟨rfl, rfl⟩
  | cons item items ih =>
    obtain ⟨rawEntry, hitem, h⟩ := Except.bind_eq_ok.mp h
    obtain ⟨device, hdevice, h⟩ := Except.bind_eq_ok.mp h
    obtain ⟨rest, hrest, h⟩ := Except.bind_eq_ok.mp h
    obtain rfl := Except.ok.inj h
    obtain ⟨hslave, hids⟩ := ih hrest
    obtain ⟨hindex, hcases⟩ := parseDeclaration_spec hitem hdevice
    refine ⟨?_, ?_⟩
    · rw [List.map_cons, hindex, hslave, List.length_cons, List.range'_succ]
    · rcases hcases with ⟨hrole, hnone⟩ | ⟨hrole, o, hsome, hid⟩
      · rw [hrole, if_neg (by decide)] at hids
        rw [List.filterMap_cons_none (by simp [hrole]), List.filterMap_cons_none hnone, hids]
      · rw [hrole, if_pos rfl] at hids
        rw [List.filterMap_cons_some (by rw [if_pos hrole]; exact hid),
          List.filterMap_cons_some hsome, List.zipIdx_cons, List.map_cons, hids]
        rfl

section Accepted

variable {available : Option (List String)} {rawBus : String} {config : BusConfig}

theorem parseDeclarations_of_accepted (h : parseBusConfig available rawBus = .ok config) :
    parseDeclarations available 0 0 (busItems rawBus) = .ok config.devices := by
  have hdevices : parseDevices available rawBus = .ok config.devices := by
    unfold parseBusConfig at h
    split at h
    · cases h
    · rename_i devices hdevices
      cases h
      exact hdevices
  obtain ⟨devices, hparsed, hne⟩ := Except.bind_eq_ok.mp hdevices
  split_ifs at hne
  obtain rfl := Except.ok.inj hne
  exact hparsed

theorem ioIds_of_parse (h : parseBusConfig available rawBus = .ok config) :
    config.ioIds = (ioDeclarations rawBus).zipIdx.map givenId :=
  (parseDeclarations_spec (parseDeclarations_of_accepted h)).2

theorem slaveIndex_of_parse (h : parseBusConfig available rawBus = .ok config) :
    config.devices.map BusDevice.slaveIndex = List.range config.devices.length := by
  rw [(parseDeclarations_spec (parseDeclarations_of_accepted h)).1, List.range_eq_range']

end Accepted

/-! ## Selection -/

/-- The devices are found by their ids, and their slaves are at their positions. -/
structure BusIdentity (F : Type) (config : BusConfig) : Prop where
  distinct : config.ioIds.Nodup
  positions : config.devices.map BusDevice.slaveIndex = List.range config.devices.length
  selected : ∀ (station : BusDevice → CpxStation) (repr : Value F → String),
    ∀ d ∈ config.devices, d.role = .io → ∀ id, d.logicalId = some id →
      ∃ device, selectedDevice repr (config.slaves station) (.str id) = .ok device ∧
        device.slaveIndex = d.slaveIndex ∧ device.slave = slaveOf station d

theorem getElem?_slaveIndex {config : BusConfig} {d : BusDevice} (hd : d ∈ config.devices)
    (h : config.devices.map BusDevice.slaveIndex = List.range config.devices.length) :
    config.devices[d.slaveIndex]? = some d := by
  obtain ⟨p, hp⟩ := List.mem_iff_getElem?.mp hd
  have hlt := (List.getElem?_eq_some_iff.mp hp).1
  have hindex : (config.devices.map BusDevice.slaveIndex)[p]? = some d.slaveIndex := by
    rw [List.getElem?_map, hp]
    rfl
  rw [h, List.getElem?_range hlt] at hindex
  rw [← Option.some.inj hindex]
  exact hp

/-- The I/O device that a declaration becomes. -/
theorem exists_ioDevice {config : BusConfig} (station : BusDevice → CpxStation) {d : BusDevice}
    (hd : d ∈ config.devices) (hio : d.role = .io) {id : String} (hid : d.logicalId = some id)
    (h : config.devices.map BusDevice.slaveIndex = List.range config.devices.length) :
    ∃ device ∈ ioDevices (config.slaves station), device.id = id ∧
      device.slaveIndex = d.slaveIndex ∧ device.slave = slaveOf station d := by
  have hslave : (slaveOf station d, d.slaveIndex) ∈ ioSlaves (config.slaves station) := by
    refine List.mem_filter.mpr ⟨?_, by simp [slaveOf, hio]⟩
    rw [List.mk_mem_zipIdx_iff_getElem?, BusConfig.slaves, List.getElem?_map,
      getElem?_slaveIndex hd h, Option.map_some]
  obtain ⟨k, hk⟩ := List.mem_iff_getElem?.mp hslave
  refine ⟨deviceInfo (slaveOf station d) d.slaveIndex k, ?_, ?_, rfl, rfl⟩
  · refine List.mem_map.mpr ⟨((slaveOf station d, d.slaveIndex), k), ?_, rfl⟩
    rw [List.mk_mem_zipIdx_iff_getElem?]
    exact hk
  · obtain ⟨id', hid', hlogical⟩ := config.named d hd hio
    rw [hid] at hid'
    obtain rfl := Option.some.inj hid'
    simp [deviceInfo, slaveOf, hio, hid, hlogical.stripped]

theorem find?_id_of_nodup {devices : List IoDevice} (h : (devices.map IoDevice.id).Nodup)
    {device : IoDevice} (hdevice : device ∈ devices) :
    (devices.find? fun d => d.id == device.id) = some device := by
  cases hfind : devices.find? fun d => d.id == device.id with
  | none =>
    rw [List.find?_eq_none] at hfind
    exact absurd (beq_self_eq_true _) (hfind device hdevice)
  | some d =>
    have hid : d.id = device.id := by simpa using List.find?_some hfind
    rw [List.inj_on_of_nodup_map h (List.mem_of_find?_eq_some hfind) hdevice hid]

theorem exists_parsed {available : Option (List String)} {rawBus : String} {devices : List BusDevice}
    (h : parseDevices available rawBus = .ok devices) :
    ∃ config, parseBusConfig available rawBus = .ok config ∧ config.devices = devices := by
  obtain ⟨parsed, hparsed, hne⟩ := Except.bind_eq_ok.mp h
  split_ifs at hne
  obtain rfl := Except.ok.inj hne
  exact ⟨⟨parsed, parseDeclarations_named hparsed⟩, parseBusConfig_of_parseDevices h, rfl⟩

/-- A drive and two stations, the second with an id of its own. -/
def driveAndStations : String := "cmmt_as,io:cpx_ap_i_ec,2:io:cpx-ap-i-ec:Valves"

/-- The second station is given the id that the first one declares. -/
def declaredBeforeDefault : String := "io:cpx_ap_i_ec:io1,io:cpx_ap_i_ec"

end MotionServer
