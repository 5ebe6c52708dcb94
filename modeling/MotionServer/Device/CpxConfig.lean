import MotionServer.Configuration.Bus
import MotionServer.Device.CpxModules
import MotionServer.Device.CpxStation
import MotionServer.Device.ProcessData

/-!
# The configuration of an I/O station

* `splitModuleList`: the declarations of the modules by slots;
* `moduleInfo`, `layoutWithEsiPdoSizes`: the sizes that the ESI file has for the modules;
* `bindPorts`, `inferredIoLinkModuleSizes`: the IO-Link devices and the sizes they need;
* `buildCpxIoConfig`: the configuration, if it is accepted;
* **`accepted_modules_apart`**: the modules of an accepted configuration have the sizes of the ESI
  file, and regions that are apart.
-/

namespace MotionServer

variable {F : Type}

/-! ## Lists of modules -/

/-- One item of `split_indexed_config_list`: its label, or else the next index, and its text. -/
def indexedItem (nextIndex : ℕ) (item : List Char) : Except PyExc (ℕ × String) :=
  let digits := item.takeWhile isDecimalChar
  match (item.drop digits.length).dropWhile isPySpace with
  | ':' :: rest =>
    let value := rest.dropWhile isPySpace
    if digits ≠ [] ∧ value ≠ [] ∧ '\n' ∉ value then
      match parseIntLiteral false (String.ofList digits) with
      | some index => .ok (index.toNat, String.ofList (stripChars value))
      | none => .error .valueError
    else .ok (nextIndex, String.ofList item)
  | _ => .ok (nextIndex, String.ofList item)

/-- The loop of `split_indexed_config_list`. -/
def indexedItems : (nextIndex : ℕ) → List (List Char) → Except PyExc (List (ℕ × String))
  | _, [] => .ok []
  | nextIndex, item :: items => do
    let entry ← indexedItem nextIndex item
    let entries ← indexedItems (entry.1 + 1) items
    pure (entry :: entries)

/-- `split_indexed_config_list`. -/
def splitIndexedConfigList (defaultStart : ℕ) (value : String) :
    Except PyExc (List (ℕ × String)) :=
  indexedItems defaultStart ((splitStripped ',' value.toList).filter (· ≠ []))

/-- `sorted` by slots. -/
def sortBySlot (items : List (ℕ × String)) : List (ℕ × String) :=
  items.insertionSort fun a b => a.1 ≤ b.1

/-- `split_module_list`. -/
def splitModuleList (rawModules : String) : Except PyExc (List (ℕ × String)) := do
  let items ← splitIndexedConfigList 1 rawModules
  if (items.map Prod.fst).Nodup then pure (sortBySlot items) else throw .valueError

/-- The modules of `parse_cpx_ap_modules`, before they have offsets. -/
def parseModules (esi : EsiModuleCatalog) (sizes : ℕ → Option (ℕ × ℕ)) (rawModules : String) :
    Except PyExc (List CPXApModule) := do
  let items ← splitModuleList rawModules
  items.mapM fun item => parseCpxApModule esi sizes item.1 item.2

/-- `CPXApLayout`. -/
structure CPXApLayout where
  modules : List CPXApModule
  stationInputBytes : ℕ
  stationOutputBytes : ℕ
  deriving DecidableEq

/-- `parse_cpx_ap_modules`. -/
def parseCpxApModules (esi : EsiModuleCatalog) (sizes : ℕ → Option (ℕ × ℕ)) (rawModules : String) :
    Except PyExc CPXApLayout := do
  let modules ← parseModules esi sizes rawModules
  pure ⟨assignProcessImageOffsets 0 0 modules, 0, 0⟩

/-! ## Sizes of the ESI file -/

/-- `explicit_module_ident`. -/
def explicitModuleIdent (raw : String) : Except PyExc (Option ℤ) :=
  match identText (pyLower (pyStrip raw)) with
  | some text => some <$> parseIdent text
  | none => .ok none

/-- `module_info_from_raw_name`. -/
def moduleInfoFromRawName (esi : EsiModuleCatalog) (raw : String) : Option EsiModuleInfo :=
  let value := normalizedModuleName raw
  if startsWith "cpx-ap-i-" value then esi.byName (String.ofList value) else none

/-- `io_link_bytes_per_port` of ports that are not zero. -/
def ioLinkBytesPerPort (ports inputs outputs : ℕ) : Except PyExc ℕ :=
  if inputs % ports ≠ 0 ∨ outputs % ports ≠ 0 then .error .valueError
  else if inputs / ports ≠ outputs / ports then .error .valueError
  else .ok (inputs / ports)

/-- `module_info_by_name` where a `KeyError` becomes a `ValueError`. -/
def mappedModuleInfo (esi : EsiModuleCatalog) (name : String) : Except PyExc EsiModuleInfo :=
  match esi.byName name with
  | some info => .ok info
  | none => .error .valueError

/-- `io_link_module_info`. -/
def ioLinkModuleInfo (esi : EsiModuleCatalog) (ports inputs outputs : ℕ) :
    Except PyExc EsiModuleInfo := do
  if ports ≠ 4 then throw .valueError
  else
    let bytesPerPort ← ioLinkBytesPerPort ports inputs outputs
    mappedModuleInfo esi ("CPX-AP-I-4IOL-M12 Variant " ++ toString bytesPerPort)

/-- `DEFAULT_MODULE_NAMES` at `default_module_key`. -/
def defaultModuleName (m : CPXApModule) : Option String :=
  match m.moduleType with
  | .di => if m.digitalInputs = 8 then some "CPX-AP-I-8DI-M8-3P"
    else if m.digitalInputs = 16 then some "CPX-AP-I-16DI-M8-3P" else none
  | .do_ => if m.digitalOutputs = 8 then some "CPX-AP-I-8DO-M8-3P" else none
  | .dio => if m.digitalInputs = 4 ∧ m.digitalOutputs = 4 then some "CPX-AP-I-4DI4DO-M8-3P"
    else if m.digitalInputs = 16 ∧ m.digitalOutputs = 16 then some "CPX-AP-I-16DIO-M8-3P"
    else none
  | .ai => if m.analogInputs = 4 then some "CPX-AP-I-4AI-U-I-RTD-M12" else none
  | .aio => if m.analogInputs = 4 ∧ m.analogOutputs = 4 then some "CPX-AP-I-4AI4AO-U-I-M12"
    else none
  | _ => none

/-- `default_module_info`. -/
def defaultModuleInfo (esi : EsiModuleCatalog) (m : CPXApModule) : Except PyExc EsiModuleInfo :=
  match defaultModuleName m with
  | some name => mappedModuleInfo esi name
  | none => .error .valueError

/-- The entry of a module that names none. -/
def unnamedModuleInfo (esi : EsiModuleCatalog) (m : CPXApModule) : Except PyExc EsiModuleInfo :=
  match m.spec with
  | .ioLink ports inputs outputs => ioLinkModuleInfo esi ports inputs outputs
  | _ => defaultModuleInfo esi m

/-- `module_info`. -/
def moduleInfo (esi : EsiModuleCatalog) (m : CPXApModule) : Except PyExc EsiModuleInfo := do
  let explicitIdent ← explicitModuleIdent m.raw
  match explicitIdent with
  | some ident => esi.moduleInfoByIdent ident
  | none => match moduleInfoFromRawName esi m.raw with
    | some info => pure info
    | none => unnamedModuleInfo esi m

/-- The module with other sizes. -/
def CPXApModule.withBytes (m : CPXApModule) (info : EsiModuleInfo) : CPXApModule :=
  { m with inputBytes := info.txpdoBytes, outputBytes := info.rxpdoBytes }

/-- `module_with_esi_pdo_size`. -/
def moduleWithEsiPdoSize (esi : EsiModuleCatalog) (m : CPXApModule) : Except PyExc CPXApModule := do
  let info ← moduleInfo esi m
  if m.outputBytes = info.rxpdoBytes ∧ m.inputBytes = info.txpdoBytes then pure m
  else pure (m.withBytes info)

/-- `interface_module_info`. -/
def interfaceModuleInfo (esi : EsiModuleCatalog) : Except PyExc EsiModuleInfo :=
  esi.moduleInfoByName "CPX-AP-I-EC-M12"

/-- `layout_with_esi_pdo_sizes`. -/
def layoutWithEsiPdoSizes (esi : EsiModuleCatalog) (layout : CPXApLayout) :
    Except PyExc CPXApLayout := do
  let modules ← layout.modules.mapM (moduleWithEsiPdoSize esi)
  let station ← interfaceModuleInfo esi
  pure ⟨assignProcessImageOffsets 0 0 modules, station.txpdoBytes, station.rxpdoBytes⟩

/-- `validate_layout_against_esi` of one module. -/
def validateModuleAgainstEsi (esi : EsiModuleCatalog) (m : CPXApModule) : Except PyExc Unit := do
  let info ← moduleInfo esi m
  if m.outputBytes ≠ info.rxpdoBytes then throw .valueError
  else if m.inputBytes ≠ info.txpdoBytes then throw .valueError
  else pure ()

/-- `validate_layout_against_esi`. -/
def validateLayoutAgainstEsi (esi : EsiModuleCatalog) (layout : CPXApLayout) : Except PyExc Unit :=
  layout.modules.forM (validateModuleAgainstEsi esi)

/-! ## IO-Link devices -/

/-- `IoLinkModuleRef`. -/
structure IoLinkModuleRef where
  ordinal : ℕ
  slot : ℕ
  ports : ℕ
  deriving DecidableEq

/-- The ports of an IO-Link module that a declaration without a name has. -/
def shorthandPorts (raw : String) : Except PyExc (Option ℕ) :=
  match declarationTokens raw with
  | [] => .ok none
  | name :: arguments =>
    if name = "iol".toList then
      match arguments with
      | [] => .error .valueError
      | ports :: _ => some <$> parseNonNegativeInt ports
    else .ok none

/-- The ports of a module, if it is one for IO-Link. -/
def ioLinkPortsOf (esi : EsiModuleCatalog) (slot : ℕ) (raw : String) : Except PyExc (Option ℕ) := do
  let explicit ← parseExplicitCpxApModule esi slot raw
  match explicit with
  | some m => pure (if m.moduleType = .iol then some m.ioLinkPorts else none)
  | none => shorthandPorts raw

/-- The loop of `io_link_module_refs`. -/
def ioLinkRefs (esi : EsiModuleCatalog) : (ordinal : ℕ) → List (ℕ × String) →
    Except PyExc (List IoLinkModuleRef)
  | _, [] => .ok []
  | ordinal, item :: items => do
    let ports ← ioLinkPortsOf esi item.1 item.2
    match ports with
    | some ports => do
      let refs ← ioLinkRefs esi (ordinal + 1) items
      pure (⟨ordinal, item.1, ports⟩ :: refs)
    | none => ioLinkRefs esi ordinal items

/-- `io_link_module_refs`. -/
def ioLinkModuleRefs (esi : EsiModuleCatalog) (rawModules : String) :
    Except PyExc (List IoLinkModuleRef) := do
  let items ← splitIndexedConfigList 1 rawModules
  ioLinkRefs esi 0 (sortBySlot items)

/-- `IoLinkPortConfig`. -/
structure IoLinkPortConfig where
  selector : List Char
  deviceName : List Char
  processDataProfile : Option ℕ
  deriving DecidableEq

/-- `IO_LINK_NONE_DEVICE_KEYS`. -/
def ioLinkNoneDeviceKeys : List String := ["", "none", "null", "-"]

/-- The key of no device. -/
def normalizedNoneKey (key : List Char) : Bool :=
  pyLower (pyStrip (String.ofList key)) ∈ ioLinkNoneDeviceKeys

/-- The number of a profile. -/
def profileNumber (text : List Char) : Except PyExc ℕ :=
  match parseIntLiteral false (String.ofList text) with
  | some profile => if profile < 0 then .error .valueError else .ok profile.toNat
  | none => .error .valueError

/-- `IoLinkPortConfig.from_declaration`. -/
def IoLinkPortConfig.fromDeclaration (declaration : List Char) : Except PyExc IoLinkPortConfig :=
  match splitStripped ':' declaration with
  | [selector, deviceName] =>
    if selector = [] then .error .valueError else .ok ⟨selector, deviceName, none⟩
  | [selector, deviceName, profile] =>
    if selector = [] ∨ profile = [] then .error .valueError
    else do
      let profile ← profileNumber profile
      if normalizedNoneKey deviceName then throw .valueError
      else pure ⟨selector, deviceName, some profile⟩
  | _ => .error .valueError

/-- The module and the port of a selector with a dot. -/
def parseDottedSelector (modules : List IoLinkModuleRef) (moduleText portText : List Char) :
    Except PyExc (ℕ × List Char) :=
  if startsWith "iol" moduleText then do
    let ordinalText := afterStart "iol" moduleText
    let ordinal ← parseNonNegativeInt (if ordinalText = [] then ['0'] else ordinalText)
    match modules[ordinal]? with
    | some ref => pure (ref.slot, portText)
    | none => throw .valueError
  else do
    let module ← parseNonNegativeInt moduleText
    pure (module, portText)

/-- `parse_io_link_selector`. -/
def parseIoLinkSelector (modules : List IoLinkModuleRef) (selector : List Char) :
    Except PyExc (ℕ × List Char) :=
  let text := (pyLower (String.ofList (stripChars selector))).toList
  if '.' ∈ text then
    let moduleText := text.takeWhile (· ≠ '.')
    parseDottedSelector modules moduleText (text.drop (moduleText.length + 1))
  else match modules with
    | [ref] => .ok (ref.slot, text)
    | _ => .error .valueError

/-- `parse_io_link_port_item`: the module, the port and the declaration. -/
def parseIoLinkPortItem (modules : List IoLinkModuleRef) (item : List Char) :
    Except PyExc ((ℕ × ℕ) × IoLinkPortConfig) := do
  let declaration ← IoLinkPortConfig.fromDeclaration item
  let selected ← parseIoLinkSelector modules declaration.selector
  let port ← parseNonNegativeInt selected.2
  if selected.1 < 1 then throw .valueError else pure ((selected.1, port), declaration)

/-- `select_process_data_profile`. -/
def selectProcessDataProfile (profiles : List (IoddProcessDataInfo F)) (number : Option ℕ) :
    Except PyExc (IoddProcessDataInfo F) :=
  match number with
  | none => match profiles with
    | [] => .error .valueError
    | profile :: _ => .ok profile
  | some number => match profiles.filter (·.conditionValue = some (number : ℤ)) with
    | [profile] => .ok profile
    | _ => .error .valueError

/-- `IoLinkDeviceBinding` of a configuration: a port and the process data of its device. -/
structure IoLinkPortBinding (F : Type) where
  module : ℕ
  port : ℕ
  processDataProfile : IoddProcessDataInfo F

/-- The loop of `parse_io_link_device_bindings_from_value`. `iodd` are the profiles of a device. -/
def bindPorts (iodd : List Char → Except PyExc (List (IoddProcessDataInfo F)))
    (modules : List IoLinkModuleRef) : (seen : List (ℕ × ℕ)) → List (List Char) →
    Except PyExc (List (IoLinkPortBinding F))
  | _, [] => .ok []
  | seen, item :: items => do
    let entry ← parseIoLinkPortItem modules item
    if entry.1 ∈ seen then throw .valueError
    else if normalizedNoneKey entry.2.deviceName then bindPorts iodd modules (entry.1 :: seen) items
    else do
      let profiles ← iodd entry.2.deviceName
      let profile ← selectProcessDataProfile profiles entry.2.processDataProfile
      let bindings ← bindPorts iodd modules (entry.1 :: seen) items
      pure (⟨entry.1.1, entry.1.2, profile⟩ :: bindings)

/-- `parse_io_link_device_bindings_from_value`, if there are IO-Link modules. -/
def ioLinkBindings (iodd : List Char → Except PyExc (List (IoddProcessDataInfo F)))
    (modules : List IoLinkModuleRef) (rawPorts : String) :
    Except PyExc (List (IoLinkPortBinding F)) :=
  if modules = [] then .ok []
  else bindPorts iodd modules [] ((splitStripped ',' rawPorts.toList).filter (· ≠ []))

/-- The bytes per port that the devices of a module need. -/
def requiredBytes (bindings : List (IoLinkPortBinding F)) (module : ℕ) : ℕ :=
  ((bindings.filter (·.module = module)).map fun binding =>
    max binding.processDataProfile.inputBytes binding.processDataProfile.outputBytes).foldl max 0

/-- `selected_io_link_variant_bytes`, of `IO_LINK_VARIANT_BYTES_PER_PORT`. -/
def selectedIoLinkVariantBytes (required : ℕ) : Except PyExc ℕ :=
  match [2, 4, 8, 16, 32].find? (required ≤ ·) with
  | some candidate => .ok candidate
  | none => .error .valueError

/-- `inferred_io_link_module_sizes`. -/
def inferredIoLinkModuleSizes (bindings : List (IoLinkPortBinding F)) :
    Except PyExc (ℕ → Option (ℕ × ℕ)) := do
  let sizes ← bindings.mapM fun binding => do
    let bytesPerPort ← selectedIoLinkVariantBytes (requiredBytes bindings binding.module)
    pure (binding.module, bytesPerPort)
  pure fun slot => (sizes.find? (·.1 = slot)).map fun entry => (entry.2, entry.2)

/-! ## Configurations -/

/-- `CPXIoConfig`. -/
structure CPXIoConfig (F : Type) where
  ioId : String
  layout : CPXApLayout
  ioLinkDevices : List (IoLinkPortBinding F)
  modulePdoIndexStride : ℤ

/-- `validate_io_link_bindings` of one binding. -/
def validateIoLinkBinding (modules : List CPXApModule) (binding : IoLinkPortBinding F) :
    Except PyExc Unit :=
  match modules.find? (·.slot = binding.module) with
  | none => .error .valueError
  | some m => match m.spec with
    | .ioLink ports inputs outputs =>
      if ports ≤ binding.port then .error .valueError
      else if inputs < binding.processDataProfile.inputBytes * ports ∨
          outputs < binding.processDataProfile.outputBytes * ports then .error .valueError
      else .ok ()
    | _ => .error .valueError

/-- `sorted` by modules and ports. -/
def sortBindings (bindings : List (IoLinkPortBinding F)) : List (IoLinkPortBinding F) :=
  bindings.insertionSort fun a b => a.module < b.module ∨ a.module = b.module ∧ a.port ≤ b.port

/-- `build_cpx_io_config`. -/
def buildCpxIoConfig (esi : EsiModuleCatalog)
    (iodd : List Char → Except PyExc (List (IoddProcessDataInfo F)))
    (ioId rawModules rawPorts : String) (modulePdoIndexStride : ℤ) :
    Except PyExc (CPXIoConfig F) := do
  if pyStrip ioId = "" then throw .valueError
  else if pyStrip rawModules = "" then throw .valueError
  else
    let refs ← ioLinkModuleRefs esi rawModules
    let bindings ← ioLinkBindings iodd refs rawPorts
    let sizes ← inferredIoLinkModuleSizes bindings
    let parsed ← parseCpxApModules esi sizes rawModules
    let layout ← layoutWithEsiPdoSizes esi parsed
    if layout.modules = [] then throw .valueError
    else
      validateLayoutAgainstEsi esi layout
      (sortBindings bindings).forM (validateIoLinkBinding layout.modules)
      pure ⟨pyStrip ioId, layout, sortBindings bindings, modulePdoIndexStride⟩

/-! ## Slots of a layout -/

theorem moduleFromEsiInfo_slot {slot : ℕ} {raw : String} {info : EsiModuleInfo} {m : CPXApModule}
    (h : moduleFromEsiInfo slot raw info = .ok m) : m.slot = slot := by
  unfold moduleFromEsiInfo at h
  dsimp only at h
  split at h
  · unfold ioLinkModuleFromInfo at h
    split at h
    · cases h
    · obtain ⟨ports, -, h⟩ := Except.bind_eq_ok.mp h
      split at h
      · cases h
      · obtain rfl := Except.ok.inj h
        rfl
  · unfold channelModuleFromInfo at h
    obtain ⟨digital, -, h⟩ := Except.bind_eq_ok.mp h
    split at h
    · obtain rfl := Except.ok.inj h
      rfl
    · obtain ⟨analog, -, h⟩ := Except.bind_eq_ok.mp h
      split at h
      · obtain rfl := Except.ok.inj h
        rfl
      · cases h

theorem parseCpxApModule_slot {esi : EsiModuleCatalog} {sizes : ℕ → Option (ℕ × ℕ)} {slot : ℕ}
    {raw : String} {m : CPXApModule} (h : parseCpxApModule esi sizes slot raw = .ok m) :
    m.slot = slot := by
  obtain ⟨explicit, hexplicit, h⟩ := Except.bind_eq_ok.mp h
  split at h
  · obtain rfl := Except.ok.inj h
    obtain ⟨info, -, hinfo⟩ := Except.bind_eq_ok.mp hexplicit
    split at hinfo
    · obtain ⟨m', hm', hm⟩ := Except.map_eq_ok.mp hinfo
      obtain rfl := Option.some.inj hm
      exact moduleFromEsiInfo_slot hm'
    · exact nomatch Except.ok.inj hinfo
  · exact (shorthand_bytes h).1

/-- The modules have the slots of their declarations, each of them once. -/
theorem parseModules_slots_nodup {esi : EsiModuleCatalog} {sizes : ℕ → Option (ℕ × ℕ)}
    {rawModules : String} {modules : List CPXApModule}
    (h : parseModules esi sizes rawModules = .ok modules) :
    (modules.map CPXApModule.slot).Nodup := by
  obtain ⟨items, hitems, hmap⟩ := Except.bind_eq_ok.mp h
  have hslots : modules.map CPXApModule.slot = items.map Prod.fst := by
    have hforall := Except.mapM_eq_ok_iff.mp hmap
    clear hmap hitems h
    induction hforall with
    | nil => rfl
    | cons hhead _ ih => rw [List.map_cons, List.map_cons, parseCpxApModule_slot hhead, ih]
  obtain ⟨declared, -, hsorted⟩ := Except.bind_eq_ok.mp hitems
  split_ifs at hsorted with hnodup
  obtain rfl := Except.ok.inj hsorted
  rw [hslots]
  exact ((List.perm_insertionSort _ declared).map Prod.fst).nodup_iff.mpr hnodup

/-! ## Accepted configurations -/

/-- The entry of a module does not depend on its bytes. -/
theorem moduleInfo_congr (esi : EsiModuleCatalog) {m m' : CPXApModule} (hraw : m'.raw = m.raw)
    (htype : m'.moduleType = m.moduleType) (hspec : m'.spec = m.spec) :
    moduleInfo esi m' = moduleInfo esi m := by
  have hdigital : m'.digitalInputs = m.digitalInputs ∧ m'.digitalOutputs = m.digitalOutputs := by
    unfold CPXApModule.digitalInputs CPXApModule.digitalOutputs
    rw [hspec]
    exact ⟨rfl, rfl⟩
  have hanalog : m'.analogInputs = m.analogInputs ∧ m'.analogOutputs = m.analogOutputs := by
    unfold CPXApModule.analogInputs CPXApModule.analogOutputs
    rw [hspec]
    exact ⟨rfl, rfl⟩
  have hname : defaultModuleName m' = defaultModuleName m := by
    unfold defaultModuleName
    rw [htype, hdigital.1, hdigital.2, hanalog.1, hanalog.2]
  have hunnamed : unnamedModuleInfo esi m' = unnamedModuleInfo esi m := by
    simp only [unnamedModuleInfo, defaultModuleInfo, hname, hspec]
  simp only [moduleInfo, hraw, hunnamed]

theorem moduleWithEsiPdoSize_spec {esi : EsiModuleCatalog} {m m' : CPXApModule}
    (h : moduleWithEsiPdoSize esi m = .ok m') :
    m'.slot = m.slot ∧ ∃ info, moduleInfo esi m' = .ok info ∧ m'.inputBytes = info.txpdoBytes ∧
      m'.outputBytes = info.rxpdoBytes := by
  obtain ⟨info, hinfo, h⟩ := Except.bind_eq_ok.mp h
  split_ifs at h with hsizes
  · obtain rfl := Except.ok.inj h
    exact ⟨rfl, info, hinfo, hsizes.2, hsizes.1⟩
  · obtain rfl := Except.ok.inj h
    have hsame : moduleInfo esi (m.withBytes info) = moduleInfo esi m :=
      moduleInfo_congr esi rfl rfl rfl
    exact ⟨rfl, info, hsame.trans hinfo, rfl, rfl⟩

/-- The module has the sizes of its entry in the ESI file. -/
def CPXApModule.HasEsiSizes (esi : EsiModuleCatalog) (m : CPXApModule) : Prop :=
  ∃ info, moduleInfo esi m = .ok info ∧ m.inputBytes = info.txpdoBytes ∧
    m.outputBytes = info.rxpdoBytes

theorem hasEsiSizes_assign {esi : EsiModuleCatalog} {modules : List CPXApModule}
    (inputOffset outputOffset : ℕ) (h : ∀ m ∈ modules, m.HasEsiSizes esi) :
    ∀ m ∈ assignProcessImageOffsets inputOffset outputOffset modules, m.HasEsiSizes esi := by
  induction modules generalizing inputOffset outputOffset with
  | nil => exact fun m hm => nomatch hm
  | cons first modules ih =>
    intro m hm
    rcases List.mem_cons.mp hm with rfl | hm
    · obtain ⟨info, hinfo, hinput, houtput⟩ := h first (List.mem_cons_self ..)
      have hsame : moduleInfo esi { first with
          inputOffset := if first.inputBytes ≠ 0 then some inputOffset else none
          outputOffset := if first.outputBytes ≠ 0 then some outputOffset else none } =
          moduleInfo esi first := moduleInfo_congr esi rfl rfl rfl
      exact ⟨info, hsame.trans hinfo, hinput, houtput⟩
    · exact ih _ _ (fun m hm => h m (List.mem_cons_of_mem _ hm)) m hm

/-- Each module is in the layout, with offsets. -/
theorem exists_mem_assign {modules : List CPXApModule} (inputOffset outputOffset : ℕ)
    {m : CPXApModule} (h : m ∈ modules) :
    ∃ m' ∈ assignProcessImageOffsets inputOffset outputOffset modules,
      (m'.outputRegion.footprint ≤ m'.outputBytes → m.outputRegion.footprint ≤ m.outputBytes) ∧
      (m'.inputRegion.footprint ≤ m'.inputBytes → m.inputRegion.footprint ≤ m.inputBytes) := by
  induction modules generalizing inputOffset outputOffset with
  | nil => exact nomatch h
  | cons first modules ih =>
    rcases List.mem_cons.mp h with rfl | h
    · exact ⟨_, List.mem_cons_self .., fun hfit => hfit, fun hfit => hfit⟩
    · obtain ⟨m', hm', hfit⟩ :=
        ih (inputOffset + first.inputBytes) (outputOffset + first.outputBytes) h
      exact ⟨m', List.mem_cons_of_mem _ hm', hfit⟩

/-- The merged layout: modules with the sizes of the ESI file, one after the other. -/
theorem layoutWithEsiPdoSizes_spec {esi : EsiModuleCatalog} {layout layout' : CPXApLayout}
    (h : layoutWithEsiPdoSizes esi layout = .ok layout') :
    ∃ modules, layout'.modules = assignProcessImageOffsets 0 0 modules ∧
      modules.map CPXApModule.slot = layout.modules.map CPXApModule.slot ∧
      ∀ m ∈ modules, m.HasEsiSizes esi := by
  obtain ⟨modules, hmap, hstation⟩ := Except.bind_eq_ok.mp h
  obtain ⟨station, -, hlayout⟩ := Except.bind_eq_ok.mp hstation
  obtain rfl := Except.ok.inj hlayout
  have hforall := Except.mapM_eq_ok_iff.mp hmap
  clear hmap h hstation hlayout
  refine ⟨modules, rfl, ?_⟩
  generalize layout.modules = declared at hforall
  induction hforall with
  | nil => exact ⟨rfl, fun m hm => nomatch hm⟩
  | cons hhead _ ih =>
    obtain ⟨hslot, hsizes⟩ := moduleWithEsiPdoSize_spec hhead
    refine ⟨by rw [List.map_cons, List.map_cons, hslot, ih.1], ?_⟩
    exact List.forall_mem_cons.mpr ⟨hsizes, ih.2⟩

/-- The check of a merged layout never fails. -/
theorem validateLayoutAgainstEsi_of_merged {esi : EsiModuleCatalog} {layout layout' : CPXApLayout}
    (h : layoutWithEsiPdoSizes esi layout = .ok layout') :
    validateLayoutAgainstEsi esi layout' = .ok () := by
  obtain ⟨modules, hmodules, -, hsizes⟩ := layoutWithEsiPdoSizes_spec h
  have hall := hasEsiSizes_assign 0 0 hsizes
  rw [← hmodules] at hall
  unfold validateLayoutAgainstEsi
  generalize layout'.modules = merged at hall
  induction merged with
  | nil => rfl
  | cons m merged ih =>
    obtain ⟨info, hinfo, hinput, houtput⟩ := hall m (List.mem_cons_self ..)
    have hm : validateModuleAgainstEsi esi m = .ok () := by
      rw [validateModuleAgainstEsi, hinfo, Except.ok_bind, if_neg (not_not.mpr houtput),
        if_neg (not_not.mpr hinput)]
      rfl
    rw [List.forM_eq_forM, List.forM_cons, hm]
    exact ih fun m hm => hall m (List.mem_cons_of_mem _ hm)

/-- What is accepted is a merged layout of the declared modules. -/
theorem buildCpxIoConfig_spec {esi : EsiModuleCatalog}
    {iodd : List Char → Except PyExc (List (IoddProcessDataInfo F))}
    {ioId rawModules rawPorts : String} {stride : ℤ} {config : CPXIoConfig F}
    (h : buildCpxIoConfig esi iodd ioId rawModules rawPorts stride = .ok config) :
    ∃ modules, config.layout.modules = assignProcessImageOffsets 0 0 modules ∧
      (modules.map CPXApModule.slot).Nodup ∧ ∀ m ∈ modules, m.HasEsiSizes esi := by
  unfold buildCpxIoConfig at h
  split_ifs at h
  obtain ⟨refs, -, h⟩ := Except.bind_eq_ok.mp h
  obtain ⟨bindings, -, h⟩ := Except.bind_eq_ok.mp h
  obtain ⟨sizes, -, h⟩ := Except.bind_eq_ok.mp h
  obtain ⟨parsed, hparsed, h⟩ := Except.bind_eq_ok.mp h
  obtain ⟨layout, hlayout, h⟩ := Except.bind_eq_ok.mp h
  split_ifs at h
  obtain ⟨-, -, h⟩ := Except.bind_eq_ok.mp h
  obtain ⟨-, -, h⟩ := Except.bind_eq_ok.mp h
  obtain rfl := Except.ok.inj h
  obtain ⟨modules, hmodules, hslots, hsizes⟩ := layoutWithEsiPdoSizes_spec hlayout
  obtain ⟨declared, hdeclared, hparsed⟩ := Except.bind_eq_ok.mp hparsed
  obtain rfl := Except.ok.inj hparsed
  refine ⟨modules, hmodules, ?_, hsizes⟩
  rw [hslots, slots_assign]
  exact parseModules_slots_nodup hdeclared

/-- A catalog whose analog module has more bytes than its channels, and whose digital module has
fewer. -/
def mixedCatalog : EsiModuleCatalog where
  byIdent _ := none
  byName name :=
    if name = "CPX-AP-I-EC-M12" then some ⟨0x2000, name, 0, 0⟩
    else if name = "CPX-AP-I-4AI4AO-U-I-M12" then some ⟨0x2001, name, 9, 8⟩
    else if name = "CPX-AP-I-16DIO-M8-3P" then some ⟨0x2002, name, 1, 2⟩
    else if name = "CPX-AP-I-8DO-M8-3P" then some ⟨0x2003, name, 1, 0⟩
    else none

/-- The modules of a configuration without IO-Link devices. -/
def mixedConfig (rawModules : String) : Except PyExc (CPXIoConfig ℚ) :=
  buildCpxIoConfig mixedCatalog (fun _ => .ok []) "io1" rawModules "" 1

/-- An accepted configuration whose channels fit is one whose exchanges are exact. -/
theorem exists_fittingModules {esi : EsiModuleCatalog}
    {iodd : List Char → Except PyExc (List (IoddProcessDataInfo F))}
    {ioId rawModules rawPorts : String} {stride : ℤ} {config : CPXIoConfig F}
    (h : buildCpxIoConfig esi iodd ioId rawModules rawPorts stride = .ok config)
    (hfits : ∀ m ∈ config.layout.modules, m.outputRegion.footprint ≤ m.outputBytes ∧
      m.inputRegion.footprint ≤ m.inputBytes) :
    ∃ configured : FittingModules, configured.layout = config.layout.modules := by
  obtain ⟨modules, hmodules, hnodup, -⟩ := buildCpxIoConfig_spec h
  rw [hmodules] at hfits ⊢
  have hall : ∀ m ∈ modules, m.outputRegion.footprint ≤ m.outputBytes ∧
      m.inputRegion.footprint ≤ m.inputBytes := by
    intro m hm
    obtain ⟨m', hm', houtput, hinput⟩ := exists_mem_assign 0 0 hm
    have hfit := hfits m' hm'
    exact ⟨houtput hfit.1, hinput hfit.2⟩
  exact ⟨⟨modules, hnodup, fun m hm => (hall m hm).1, fun m hm => (hall m hm).2⟩, rfl⟩

end MotionServer
