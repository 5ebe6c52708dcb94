import MotionServer.Lib.Except
import MotionServer.Python.Text

/-!
# The bus configuration

* `LogicalId`: the id of an I/O device, without outer blanks and capital letters;
* `parseBusConfig`: the devices that `MOTION_SERVER_BUS` declares;
* `BusConfig.ioIds`: the ids of its I/O devices, in the order of the bus.
-/

namespace MotionServer

/-! ## Stripping -/

theorem getLast?_dropWhile {l : List Char} {p : Char → Bool}
    (h : ∀ c, l.getLast? = some c → p c = false) :
    ∀ c, (l.dropWhile p).getLast? = some c → p c = false := by
  intro c hc
  refine h c ?_
  obtain ⟨pre, hpre⟩ := l.dropWhile_suffix p
  rw [← hpre, List.getLast?_append, hc]
  rfl

theorem dropWhile_eq_self_of_head? {l : List Char} {p : Char → Bool}
    (h : ∀ c, l.head? = some c → p c = false) : l.dropWhile p = l := by
  cases l with
  | nil => rfl
  | cons c l => rw [List.dropWhile_cons_of_neg (by simp [h c rfl])]

theorem head?_dropWhile_not {l : List Char} {p : Char → Bool} {c : Char}
    (h : (l.dropWhile p).head? = some c) : p c = false := by
  have hne := List.head?_dropWhile_not p l
  rw [h] at hne
  simpa using hne

/-- Nothing is left to strip. -/
theorem stripChars_stripChars (l : List Char) : stripChars (stripChars l) = stripChars l := by
  have hlast : ∀ c, (stripChars l).getLast? = some c → isPySpace c = false := by
    intro c hc
    rw [stripChars, List.getLast?_reverse] at hc
    exact head?_dropWhile_not hc
  have hhead : ∀ c, (stripChars l).head? = some c → isPySpace c = false := by
    intro c hc
    rw [stripChars, List.head?_reverse] at hc
    refine getLast?_dropWhile (l := (l.dropWhile isPySpace).reverse) ?_ c hc
    intro c' hc'
    rw [List.getLast?_reverse] at hc'
    exact head?_dropWhile_not hc'
  have hdrop : (stripChars l).dropWhile isPySpace = stripChars l := dropWhile_eq_self_of_head? hhead
  have hrev : (stripChars l).reverse.dropWhile isPySpace = (stripChars l).reverse := by
    refine dropWhile_eq_self_of_head? fun c hc => hlast c ?_
    rwa [List.head?_reverse] at hc
  show (((stripChars l).dropWhile isPySpace).reverse.dropWhile isPySpace).reverse = stripChars l
  rw [hdrop, hrev, List.reverse_reverse]

theorem stripChars_sublist (l : List Char) : (stripChars l).Sublist l := by
  refine List.reverse_sublist.mp ?_
  rw [stripChars, List.reverse_reverse]
  exact (List.dropWhile_sublist _).trans (List.reverse_sublist.mpr (List.dropWhile_sublist _))

theorem stripChars_of_forall {l : List Char} (h : ∀ c ∈ l, isPySpace c = false) :
    stripChars l = l := by
  have hdrop : l.dropWhile isPySpace = l :=
    dropWhile_eq_self_of_head? fun c hc => h c (List.mem_of_head? hc)
  have hrev : l.reverse.dropWhile isPySpace = l.reverse := by
    refine dropWhile_eq_self_of_head? fun c hc => h c ?_
    exact List.mem_reverse.mp (List.mem_of_head? hc)
  rw [stripChars, hdrop, hrev, List.reverse_reverse]

/-! ## Ids -/

/-- A capital letter of ASCII. -/
def isUpperChar (c : Char) : Bool := 'A' ≤ c && c ≤ 'Z'

/-- The ids that I/O devices are given. Two devices may have the same one. -/
structure IsLogicalId (id : String) : Prop where
  ne_empty : id ≠ ""
  stripped : pyStrip id = id
  not_upper : ∀ c ∈ id.toList, isUpperChar c = false

theorem isLogicalId_ofList {l : List Char} (hne : stripChars l ≠ [])
    (h : ∀ c ∈ l, isUpperChar c = false) : IsLogicalId (String.ofList (stripChars l)) where
  ne_empty := by
    intro heq
    exact hne (by simpa using congrArg String.toList heq)
  stripped := by rw [pyStrip, String.toList_ofList, stripChars_stripChars]
  not_upper := by
    rw [String.toList_ofList]
    exact fun c hc => h c ((stripChars_sublist l).subset hc)

theorem of_isDigit {c : Char} (h : c.isDigit = true) :
    isPySpace c = false ∧ isUpperChar c = false := by
  have hrange : 48 ≤ c.toNat ∧ c.toNat ≤ 57 := by
    simpa [Char.isDigit, UInt32.le_iff_toNat_le] using h
  constructor
  · simp [isPySpace]
    omega
  · have hA : ¬ 'A' ≤ c := by
      rw [Char.le_def, UInt32.le_iff_toNat_le]
      show ¬ 65 ≤ c.toNat
      omega
    simp [isUpperChar, hA]

/-- `f"io{io_count}"`: the id of a device that is declared without one. -/
def defaultIoId (ioCount : ℕ) : String := "io" ++ toString ioCount

theorem isLogicalId_defaultIoId (ioCount : ℕ) : IsLogicalId (defaultIoId ioCount) := by
  have hlist : (defaultIoId ioCount).toList = 'i' :: 'o' :: Nat.toDigits 10 ioCount := by
    simp [defaultIoId]
  have hmem : ∀ c ∈ (defaultIoId ioCount).toList,
      isPySpace c = false ∧ isUpperChar c = false := by
    intro c hc
    rw [hlist, List.mem_cons, List.mem_cons] at hc
    rcases hc with rfl | rfl | hc
    · decide
    · decide
    · exact of_isDigit (Nat.isDigit_of_mem_toDigits (by decide) (by decide) hc)
  have hstrip : stripChars (defaultIoId ioCount).toList = (defaultIoId ioCount).toList :=
    stripChars_of_forall fun c hc => (hmem c hc).1
  have h := isLogicalId_ofList (l := (defaultIoId ioCount).toList) (by rw [hstrip, hlist]; simp)
    fun c hc => (hmem c hc).2
  rwa [hstrip, String.ofList_toList] at h

/-- A lowered text has no capital letter. -/
theorem isUpperChar_of_mem_pyLower {s : String} {c : Char} (h : c ∈ (pyLower s).toList) :
    isUpperChar c = false := by
  rw [pyLower, String.toList_ofList, List.mem_map] at h
  obtain ⟨c', -, rfl⟩ := h
  split_ifs with hupper
  · obtain ⟨hA, hZ⟩ := hupper
    rw [Char.le_def, UInt32.le_iff_toNat_le] at hA hZ
    have hA : 65 ≤ c'.toNat := hA
    have hZ : c'.toNat ≤ 90 := hZ
    have hval : (Char.ofNat (c'.toNat + 32)).toNat = c'.toNat + 32 :=
      by rw [Char.toNat_ofNat, if_pos (Or.inl (by omega))]
    have hZ : ¬ Char.ofNat (c'.toNat + 32) ≤ 'Z' := by
      rw [Char.le_def, UInt32.le_iff_toNat_le]
      show ¬ (Char.ofNat (c'.toNat + 32)).toNat ≤ 90
      omega
    simp [isUpperChar, hZ]
  · simpa [isUpperChar] using hupper

/-! ## Declarations -/

/-- The role of a device on the bus. -/
inductive DeviceRole
  | axis
  | io
  deriving DecidableEq

/-- `BusDevice`. The slave index is its position on the bus. -/
structure BusDevice where
  slaveIndex : ℕ
  role : DeviceRole
  profile : String
  logicalId : Option String
  deriving DecidableEq

/-- `BusConfig`, whose I/O devices have ids. -/
structure BusConfig where
  devices : List BusDevice
  named : ∀ d ∈ devices, d.role = .io → ∃ id, d.logicalId = some id ∧ IsLogicalId id

/-- The parts of a text between separators, stripped. -/
def splitStripped (separator : Char) (l : List Char) : List (List Char) :=
  (l.splitOn separator).map stripChars

/-- The items of `split_indexed_config_list`, without their labels. -/
def withoutLabel (item : List Char) : Except PyExc (List Char) :=
  let digits := item.takeWhile isDecimalChar
  match (item.drop digits.length).dropWhile isPySpace with
  | ':' :: rest =>
    let value := rest.dropWhile isPySpace
    if digits ≠ [] ∧ value ≠ [] ∧ '\n' ∉ value then
      if digits.length ≤ maxStrDigits then .ok (stripChars value) else .error .valueError
    else .ok item
  | _ => .ok item

/-- `"-"` as `"_"` in the name of a profile. -/
def profileName (l : List Char) : String := String.ofList (l.map fun c => if c = '-' then '_' else c)

/-- The role that a declaration names. -/
def roleOfName (name : List Char) : Except PyExc DeviceRole :=
  if name = "axis".toList ∨ name = "drive".toList then .ok .axis
  else if name = "io".toList ∨ name = "device".toList ∨ name = "slave".toList then .ok .io
  else .error .valueError

/-- The name of a role, the profile and the id in a declaration. -/
def declarationParts (entry : List Char) : List Char × String × Option String :=
  if ':' ∈ entry then
    let parts := splitStripped ':' entry
    (parts.headD [], profileName (parts.getD 1 []), parts[2]?.map String.ofList)
  else ("axis".toList, profileName entry, none)

/-- One declaration of `parse_bus_config`. -/
def parseDeclaration (available : Option (List String)) (slaveIndex ioCount : ℕ)
    (rawEntry : List Char) : Except PyExc BusDevice := do
  let entry := (pyLower (String.ofList (stripChars rawEntry))).toList
  let parts := declarationParts entry
  let role ← roleOfName parts.1
  let profile := parts.2.1
  let logicalId :=
    if role = .io ∧ (parts.2.2 = none ∨ parts.2.2 = some "") then some (defaultIoId ioCount)
    else parts.2.2
  if role = .axis ∧ profile = "cmmt" then throw .valueError
  else if available.any fun names => profile ∉ names then throw .valueError
  else pure ⟨slaveIndex, role, profile, logicalId⟩

/-- The loop of `parse_bus_config`. -/
def parseDeclarations (available : Option (List String)) :
    (slaveIndex ioCount : ℕ) → List (List Char) → Except PyExc (List BusDevice)
  | _, _, [] => .ok []
  | slaveIndex, ioCount, item :: items => do
    let rawEntry ← withoutLabel item
    let device ← parseDeclaration available slaveIndex ioCount rawEntry
    let ioCount := if device.role = .io then ioCount + 1 else ioCount
    let devices ← parseDeclarations available (slaveIndex + 1) ioCount items
    pure (device :: devices)

/-- The devices of `parse_bus_config`. -/
def parseDevices (available : Option (List String)) (rawBus : String) :
    Except PyExc (List BusDevice) := do
  let items := (splitStripped ',' (stripChars rawBus.toList)).filter (· ≠ [])
  let devices ← parseDeclarations available 0 0 items
  if devices = [] then throw .valueError else pure devices

/-! ## Accepted configurations -/

theorem sublist_intercalate {parts : List (List Char)} {part : List Char} (separator : List Char)
    (h : part ∈ parts) : part.Sublist (separator.intercalate parts) := by
  induction parts with
  | nil => simp at h
  | cons first rest ih =>
    by_cases hrest : rest = []
    · subst hrest
      obtain rfl := List.mem_singleton.mp h
      simp
    · rw [List.intercalate_cons_of_ne_nil hrest, List.append_assoc]
      rcases List.mem_cons.mp h with rfl | h
      · exact List.sublist_append_left _ _
      · exact ((ih h).trans (List.sublist_append_right _ _)).trans (List.sublist_append_right _ _)

theorem isLogicalId_of_declarationParts {entry : List Char} {id : String}
    (hentry : ∀ c ∈ entry, isUpperChar c = false) (h : (declarationParts entry).2.2 = some id)
    (hne : id ≠ "") : IsLogicalId id := by
  unfold declarationParts at h
  split_ifs at h
  obtain ⟨part, hpart, rfl⟩ := Option.map_eq_some_iff.mp h
  obtain ⟨raw, hraw, rfl⟩ := List.mem_map.mp (List.mem_of_getElem? hpart)
  have hsub := sublist_intercalate [':'] hraw
  rw [List.intercalate_splitOn] at hsub
  refine isLogicalId_ofList (fun hnil => hne ?_) fun c hc => hentry c (hsub.subset hc)
  rw [hnil]

theorem parseDeclaration_named {available : Option (List String)} {slaveIndex ioCount : ℕ}
    {rawEntry : List Char} {device : BusDevice}
    (h : parseDeclaration available slaveIndex ioCount rawEntry = .ok device)
    (hio : device.role = .io) : ∃ id, device.logicalId = some id ∧ IsLogicalId id := by
  unfold parseDeclaration at h
  have hentry : ∀ c ∈ (pyLower (String.ofList (stripChars rawEntry))).toList,
      isUpperChar c = false := fun c hc => isUpperChar_of_mem_pyLower hc
  generalize (pyLower (String.ofList (stripChars rawEntry))).toList = entry at h hentry
  obtain ⟨role, -, h⟩ := Except.bind_eq_ok.mp h
  dsimp only at h
  split_ifs at h with hcmmt hprofile hdefault
  · cases h
    exact ⟨_, rfl, isLogicalId_defaultIoId ioCount⟩
  · cases h
    obtain rfl : role = .io := hio
    simp only [true_and, not_or] at hdefault
    obtain ⟨id, hid⟩ := Option.ne_none_iff_exists'.mp hdefault.1
    refine ⟨id, hid, isLogicalId_of_declarationParts hentry hid ?_⟩
    rintro rfl
    exact hdefault.2 hid

theorem parseDeclarations_named {available : Option (List String)} {slaveIndex ioCount : ℕ}
    {items : List (List Char)} {devices : List BusDevice}
    (h : parseDeclarations available slaveIndex ioCount items = .ok devices) :
    ∀ d ∈ devices, d.role = .io → ∃ id, d.logicalId = some id ∧ IsLogicalId id := by
  induction items generalizing slaveIndex ioCount devices with
  | nil =>
    obtain rfl := Except.ok.inj h
    simp
  | cons item items ih =>
    obtain ⟨rawEntry, -, h⟩ := Except.bind_eq_ok.mp h
    obtain ⟨device, hdevice, h⟩ := Except.bind_eq_ok.mp h
    obtain ⟨rest, hrest, h⟩ := Except.bind_eq_ok.mp h
    obtain rfl := Except.ok.inj h
    intro d hd
    rcases List.mem_cons.mp hd with rfl | hd
    · exact parseDeclaration_named hdevice
    · exact ih hrest d hd

/-- `parse_bus_config`. -/
def parseBusConfig (available : Option (List String)) (rawBus : String) : Except PyExc BusConfig :=
  match h : parseDevices available rawBus with
  | .error e => .error e
  | .ok devices => .ok
    { devices := devices
      named := by
        obtain ⟨parsed, hparsed, h⟩ := Except.bind_eq_ok.mp h
        split_ifs at h
        obtain rfl := Except.ok.inj h
        exact parseDeclarations_named hparsed }

theorem parseBusConfig_of_parseDevices {available : Option (List String)} {rawBus : String}
    {config : BusConfig} (h : parseDevices available rawBus = .ok config.devices) :
    parseBusConfig available rawBus = .ok config := by
  obtain ⟨devices, named⟩ := config
  unfold parseBusConfig
  split
  · rename_i e he
    rw [he] at h
    cases h
  · rename_i devices' hdevices
    rw [hdevices] at h
    cases h
    rfl

/-- The ids of `BusConfig.io_devices`. -/
def BusConfig.ioIds (config : BusConfig) : List String :=
  config.devices.filterMap fun d => if d.role = .io then d.logicalId else none

theorem BusConfig.isLogicalId_of_mem {config : BusConfig} {id : String} (h : id ∈ config.ioIds) :
    IsLogicalId id := by
  obtain ⟨d, hd, hid⟩ := List.mem_filterMap.mp h
  split_ifs at hid with hio
  obtain ⟨id', hid', hlogical⟩ := config.named d hd hio
  rw [hid] at hid'
  obtain rfl := Option.some.inj hid'
  exact hlogical

end MotionServer
