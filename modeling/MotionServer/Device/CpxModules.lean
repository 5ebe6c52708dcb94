import MotionServer.Device.CpxLayout
import MotionServer.Lib.Except
import MotionServer.Python.Text
import Mathlib.Data.List.Infix
import Mathlib.Data.List.Sort

/-!
# Declarations of I/O modules

* `EsiModuleCatalog`, `EsiModuleInfo`: the modules of the ESI file;
* `moduleFromEsiInfo`: a module from the name of its ESI entry;
* `parseCpxApModule`: a module from a declaration such as `di:8`, or from a name;
* **`shorthand_bytes`**: a declaration without a name has the bytes of its channels.
-/

namespace MotionServer

/-! ## Texts -/

/-- The text begins with a prefix. -/
def startsWith (start : String) (l : List Char) : Bool := start.toList.isPrefixOf l

/-- The text without a prefix of the length of `start`. -/
def afterStart (start : String) (l : List Char) : List Char := l.drop start.toList.length

/-- The digits of a text, each time as many as there are, and what follows them. -/
def digitRunsFrom (run : List Char) : List Char → List (List Char × List Char)
  | [] => if run = [] then [] else [(run.reverse, [])]
  | c :: rest =>
    if isDecimalChar c then digitRunsFrom (c :: run) rest
    else if run = [] then digitRunsFrom [] rest
    else (run.reverse, c :: rest) :: digitRunsFrom [] rest

/-- `re.search(r"(\d+)…")`: the first digits that are followed by `suffix`. -/
def searchCount (suffix : String) (name : List Char) : Option (List Char) :=
  ((digitRunsFrom [] name).find? fun entry => startsWith suffix entry.2).map (·.1)

/-- The digits after a first count, if `suffix` follows them. -/
def secondCount (between suffix : String) (rest : List Char) : Option (List Char) :=
  let after := afterStart between rest
  let digits := after.takeWhile isDecimalChar
  if startsWith between rest ∧ digits ≠ [] ∧ startsWith suffix (after.drop digits.length) then
    some digits
  else none

/-- `re.search(r"(\d+)…(\d+)…")`. -/
def searchCounts (between suffix : String) (name : List Char) : Option (List Char × List Char) :=
  (digitRunsFrom [] name).findSome? fun entry =>
    (secondCount between suffix entry.2).map fun digits => (entry.1, digits)

/-- `parse_non_negative_int`. -/
def parseNonNegativeInt (value : List Char) : Except PyExc ℕ :=
  match parseIntLiteral true (String.ofList value) with
  | some i => if i < 0 then .error .valueError else .ok i.toNat
  | none => .error .valueError

/-- `normalized_module_name`. -/
def normalizedModuleName (raw : String) : List Char :=
  (pyLower (pyStrip raw)).toList.map fun c => if c = '_' ∨ c = ' ' then '-' else c

/-! ## The ESI catalog -/

/-- `EsiModuleInfo`, as far as a layout uses it. -/
structure EsiModuleInfo where
  ident : ℤ
  typeName : String
  rxpdoBytes : ℕ
  txpdoBytes : ℕ
  deriving DecidableEq

/-- The ESI catalog by names and by idents. -/
structure EsiModuleCatalog where
  byName : String → Option EsiModuleInfo
  byIdent : ℤ → Option EsiModuleInfo

/-- `module_info_by_name`. -/
def EsiModuleCatalog.moduleInfoByName (esi : EsiModuleCatalog) (name : String) :
    Except PyExc EsiModuleInfo :=
  match esi.byName name with
  | some info => .ok info
  | none => .error .keyError

/-- `module_info_by_ident`. -/
def EsiModuleCatalog.moduleInfoByIdent (esi : EsiModuleCatalog) (ident : ℤ) :
    Except PyExc EsiModuleInfo :=
  match esi.byIdent ident with
  | some info => .ok info
  | none => .error .keyError

/-- The text after `ident:` or `module_ident:`. -/
def identText (raw : String) : Option (List Char) :=
  let value := (pyStrip raw).toList
  let lowered := (pyLower (pyStrip raw)).toList
  if startsWith "ident:" lowered then some (afterStart "ident:" value)
  else if startsWith "module_ident:" lowered then some (afterStart "module_ident:" value)
  else none

/-- `int(text, 0)` of an ident. -/
def parseIdent (text : List Char) : Except PyExc ℤ :=
  match parseIntLiteral true (String.ofList text) with
  | some ident => .ok ident
  | none => .error .valueError

/-- `explicit_module_info`. -/
def explicitModuleInfo (esi : EsiModuleCatalog) (raw : String) : Except PyExc (Option EsiModuleInfo) :=
  match identText raw with
  | some text => do
    let ident ← parseIdent text
    some <$> esi.moduleInfoByIdent ident
  | none =>
    if startsWith "cpx-ap-i-" (normalizedModuleName raw) then
      some <$> esi.moduleInfoByName (pyStrip raw)
    else .ok none

/-! ## Modules from names -/

/-- The type of digital channels. -/
def digitalType (inputs outputs : ℕ) : ModuleType :=
  if inputs ≠ 0 ∧ outputs = 0 then .di else if outputs ≠ 0 ∧ inputs = 0 then .do_ else .dio

/-- The type of analog channels. -/
def analogType (inputs outputs : ℕ) : ModuleType :=
  if inputs ≠ 0 ∧ outputs = 0 then .ai else if outputs ≠ 0 ∧ inputs = 0 then .ao else .aio

theorem digitalType_ne_iol (inputs outputs : ℕ) :
    decide (digitalType inputs outputs = .iol) = false := by
  unfold digitalType
  split_ifs <;> rfl

theorem analogType_ne_iol (inputs outputs : ℕ) :
    decide (analogType inputs outputs = .iol) = false := by
  unfold analogType
  split_ifs <;> rfl

/-- `digital_spec_from_name`: the inputs and outputs. -/
def digitalSpecFromName (name : List Char) : Except PyExc (Option (ℕ × ℕ)) :=
  match searchCounts "di" "do" name with
  | some counts => do
    let inputs ← parseNonNegativeInt counts.1
    let outputs ← parseNonNegativeInt counts.2
    pure (some (inputs, outputs))
  | none => match searchCount "dio" name with
    | some points => do
      let points ← parseNonNegativeInt points
      pure (some (points, points))
    | none => match searchCount "di" name with
      | some inputs => do
        let inputs ← parseNonNegativeInt inputs
        pure (some (inputs, 0))
      | none => match searchCount "do" name with
        | some outputs => do
          let outputs ← parseNonNegativeInt outputs
          pure (some (0, outputs))
        | none => .ok none

/-- `analog_byte_width` and the widths that `analog_bits_from_pdo_size` accepts. -/
def analogBitsOf (bits : ℕ) : Except PyExc AnalogBits :=
  if h : bits = 8 ∨ bits = 16 ∨ bits = 32 then .ok ⟨bits, h⟩ else .error .valueError

/-- `analog_bits_from_pdo_size`; none is the width `0`. -/
def analogBitsFromPdoSize (byteCount channels : ℕ) : Except PyExc (Option AnalogBits) :=
  if channels = 0 then .ok none else some <$> analogBitsOf (byteCount * 8 / channels)

/-- The count that a name has for a suffix, or zero. -/
def countOrZero (suffix : String) (name : List Char) : Except PyExc ℕ :=
  match searchCount suffix name with
  | some count => parseNonNegativeInt count
  | none => .ok 0

/-- The analog inputs and outputs of a name. -/
def analogCounts (name : List Char) : Except PyExc (ℕ × ℕ) :=
  match searchCounts "ai" "ao" name with
  | some counts => do
    let inputs ← parseNonNegativeInt counts.1
    let outputs ← parseNonNegativeInt counts.2
    pure (inputs, outputs)
  | none => do
    let inputs ← countOrZero "ai" name
    let outputs ← countOrZero "ao" name
    pure (inputs, outputs)

/-- `analog_spec_from_name`. -/
def analogSpecFromName (name : List Char) (info : EsiModuleInfo) :
    Except PyExc (Option (ℕ × ℕ × AnalogBits)) := do
  let counts ← analogCounts name
  if counts.1 = 0 ∧ counts.2 = 0 then pure none
  else
    let inputBits ← analogBitsFromPdoSize info.txpdoBytes counts.1
    let outputBits ← analogBitsFromPdoSize info.rxpdoBytes counts.2
    let analogBits := (inputBits.or outputBits).getD defaultAnalogBits
    if inputBits ≠ none ∧ outputBits ≠ none ∧ inputBits ≠ outputBits then throw .valueError
    else pure (some (counts.1, counts.2, analogBits))

/-- The module of an IO-Link name. -/
def ioLinkModuleFromInfo (slot : ℕ) (raw : String) (info : EsiModuleInfo) (name : List Char) :
    Except PyExc CPXApModule :=
  match searchCount "iol" name with
  | none => .error .valueError
  | some count => do
    let ports ← parseNonNegativeInt count
    if info.txpdoBytes < ports then throw .valueError
    else pure ⟨slot, .iol, raw, .ioLink ports (info.txpdoBytes - ports) info.rxpdoBytes, none, none,
      info.txpdoBytes, info.rxpdoBytes, rfl⟩

/-- The module of a digital or analog name. -/
def channelModuleFromInfo (slot : ℕ) (raw : String) (info : EsiModuleInfo) (name : List Char) :
    Except PyExc CPXApModule := do
  match ← digitalSpecFromName name with
  | some counts => pure ⟨slot, digitalType counts.1 counts.2, raw, .digital counts.1 counts.2, none,
      none, info.txpdoBytes, info.rxpdoBytes, digitalType_ne_iol counts.1 counts.2⟩
  | none => match ← analogSpecFromName name info with
    | some spec => pure ⟨slot, analogType spec.1 spec.2.1, raw,
        .analog spec.1 spec.2.1 spec.2.2 true, none, none, info.txpdoBytes, info.rxpdoBytes,
        analogType_ne_iol spec.1 spec.2.1⟩
    | none => throw .valueError

/-- `module_from_esi_info`. -/
def moduleFromEsiInfo (slot : ℕ) (raw : String) (info : EsiModuleInfo) : Except PyExc CPXApModule :=
  let name := normalizedModuleName info.typeName
  if "iol".toList <:+: name then ioLinkModuleFromInfo slot raw info name
  else channelModuleFromInfo slot raw info name

/-- `parse_explicit_cpx_ap_module`. -/
def parseExplicitCpxApModule (esi : EsiModuleCatalog) (slot : ℕ) (raw : String) :
    Except PyExc (Option CPXApModule) := do
  match ← explicitModuleInfo esi raw with
  | some info => some <$> moduleFromEsiInfo slot raw info
  | none => pure none

/-! ## Shorthand declarations -/

/-- The parts of a declaration that are not blank, in lower case. -/
def declarationTokens (raw : String) : List (List Char) :=
  ((raw.toList.splitOn ':').map fun part => (pyLower (String.ofList (stripChars part))).toList).filter
    (· ≠ [])

/-- `SUPPORTED_MODULE_TYPES`, by name. -/
def moduleTypeOfName (name : List Char) : Option ModuleType :=
  if name = "di".toList then some .di
  else if name = "do".toList then some .do_
  else if name = "dio".toList then some .dio
  else if name = "ai".toList then some .ai
  else if name = "ao".toList then some .ao
  else if name = "aio".toList then some .aio
  else if name = "iol".toList then some .iol
  else none

/-- `parse_io_count` with the prefixes of a direction. -/
def parseIoCount (token : List Char) (long short : String) : Except PyExc ℕ :=
  let text := stripChars token
  if startsWith short text then parseNonNegativeInt (afterStart short text)
  else if startsWith long text then parseNonNegativeInt (afterStart long text)
  else parseNonNegativeInt text

/-- The bytes of the channels: inputs and outputs. An IO-Link port has a byte of status. -/
def ModuleSpec.bytes : ModuleSpec → ℕ × ℕ
  | digital inputs outputs => (bytesForBits inputs, bytesForBits outputs)
  | analog inputs outputs width _ => (inputs * width.bytes, outputs * width.bytes)
  | ioLink ports inputs outputs => (inputs + ports, outputs)

/-- A module that has the bytes of its channels. -/
def shorthandModule (slot : ℕ) (type : ModuleType) (raw : String) (spec : ModuleSpec)
    (h : decide (type = .iol) = spec.isIoLink) : CPXApModule :=
  ⟨slot, type, raw, spec, none, none, spec.bytes.1, spec.bytes.2, h⟩

/-- The bytes after `in` and `out` in an IO-Link declaration, from those read before. -/
def parseIoLinkTokens : (inputs outputs : Option ℕ) → List (List Char) →
    Except PyExc (Option ℕ × Option ℕ)
  | inputs, outputs, [] => .ok (inputs, outputs)
  | inputs, outputs, token :: tokens =>
    if startsWith "in" token then do
      let inputs ← parseNonNegativeInt (afterStart "in" token)
      parseIoLinkTokens (some inputs) outputs tokens
    else if startsWith "out" token then do
      let outputs ← parseNonNegativeInt (afterStart "out" token)
      parseIoLinkTokens inputs (some outputs) tokens
    else .error .valueError

/-- `io_link_module`. -/
def ioLinkModule (sizes : ℕ → Option (ℕ × ℕ)) (slot : ℕ) (raw : String)
    (arguments : List (List Char)) : Except PyExc CPXApModule :=
  match arguments with
  | [ports] => do
    let ports ← parseNonNegativeInt ports
    match sizes slot with
    | none => throw .valueError
    | some size => pure (shorthandModule slot .iol raw
        (.ioLink ports (size.1 * ports) (size.2 * ports)) rfl)
  | ports :: first :: second :: tokens => do
    let ports ← parseNonNegativeInt ports
    let read ← parseIoLinkTokens none none (first :: second :: tokens)
    match read.1, read.2 with
    | some inputs, some outputs => pure (shorthandModule slot .iol raw
        (.ioLink ports inputs outputs) rfl)
    | _, _ => throw .valueError
  | _ => .error .valueError

/-- `parse_cpx_ap_module` of a declaration that names no module. -/
def parseShorthand (sizes : ℕ → Option (ℕ × ℕ)) (slot : ℕ) (raw : String) :
    Except PyExc CPXApModule :=
  match declarationTokens raw with
  | [] => .error .valueError
  | name :: arguments => match moduleTypeOfName name, arguments with
    | some .di, [points] => do
      let points ← parseNonNegativeInt points
      pure (shorthandModule slot .di raw (.digital points 0) rfl)
    | some .do_, [points] => do
      let points ← parseNonNegativeInt points
      pure (shorthandModule slot .do_ raw (.digital 0 points) rfl)
    | some .dio, [inputs, outputs] => do
      let inputs ← parseIoCount inputs "in" "i"
      let outputs ← parseIoCount outputs "out" "o"
      pure (shorthandModule slot .dio raw (.digital inputs outputs) rfl)
    | some .ai, [channels] => do
      let channels ← parseNonNegativeInt channels
      pure (shorthandModule slot .ai raw (.analog channels 0 defaultAnalogBits true) rfl)
    | some .ao, [channels] => do
      let channels ← parseNonNegativeInt channels
      pure (shorthandModule slot .ao raw (.analog 0 channels defaultAnalogBits true) rfl)
    | some .aio, [inputs, outputs] => do
      let inputs ← parseIoCount inputs "in" "i"
      let outputs ← parseIoCount outputs "out" "o"
      pure (shorthandModule slot .aio raw (.analog inputs outputs defaultAnalogBits true) rfl)
    | some .iol, arguments => ioLinkModule sizes slot raw arguments
    | _, _ => .error .valueError

/-- `parse_cpx_ap_module`. -/
def parseCpxApModule (esi : EsiModuleCatalog) (sizes : ℕ → Option (ℕ × ℕ)) (slot : ℕ)
    (raw : String) : Except PyExc CPXApModule := do
  match ← parseExplicitCpxApModule esi slot raw with
  | some m => pure m
  | none => parseShorthand sizes slot raw

/-- The module has the bytes of its channels. -/
def CPXApModule.Exact (m : CPXApModule) : Prop := (m.inputBytes, m.outputBytes) = m.spec.bytes

theorem ioLinkModule_spec {sizes : ℕ → Option (ℕ × ℕ)} {slot : ℕ} {raw : String}
    {arguments : List (List Char)} {m : CPXApModule}
    (h : ioLinkModule sizes slot raw arguments = .ok m) : m.slot = slot ∧ m.Exact := by
  unfold ioLinkModule at h
  split at h
  · obtain ⟨ports, -, h⟩ := Except.bind_eq_ok.mp h
    split at h
    · exact nomatch h
    · obtain rfl := Except.ok.inj h
      exact ⟨rfl, rfl⟩
  · obtain ⟨ports, -, h⟩ := Except.bind_eq_ok.mp h
    obtain ⟨read, -, h⟩ := Except.bind_eq_ok.mp h
    split at h
    · obtain rfl := Except.ok.inj h
      exact ⟨rfl, rfl⟩
    · exact nomatch h
  · exact nomatch h

/-- **A declaration without a name has the bytes of its channels,** and its slot. -/
theorem shorthand_bytes {sizes : ℕ → Option (ℕ × ℕ)} {slot : ℕ} {raw : String} {m : CPXApModule}
    (h : parseShorthand sizes slot raw = .ok m) : m.slot = slot ∧ m.Exact := by
  unfold parseShorthand at h
  split at h
  · exact nomatch h
  · split at h
    · obtain ⟨points, -, h⟩ := Except.bind_eq_ok.mp h
      obtain rfl := Except.ok.inj h
      exact ⟨rfl, rfl⟩
    · obtain ⟨points, -, h⟩ := Except.bind_eq_ok.mp h
      obtain rfl := Except.ok.inj h
      exact ⟨rfl, rfl⟩
    · obtain ⟨inputs, -, h⟩ := Except.bind_eq_ok.mp h
      obtain ⟨outputs, -, h⟩ := Except.bind_eq_ok.mp h
      obtain rfl := Except.ok.inj h
      exact ⟨rfl, rfl⟩
    · obtain ⟨channels, -, h⟩ := Except.bind_eq_ok.mp h
      obtain rfl := Except.ok.inj h
      exact ⟨rfl, rfl⟩
    · obtain ⟨channels, -, h⟩ := Except.bind_eq_ok.mp h
      obtain rfl := Except.ok.inj h
      exact ⟨rfl, rfl⟩
    · obtain ⟨inputs, -, h⟩ := Except.bind_eq_ok.mp h
      obtain ⟨outputs, -, h⟩ := Except.bind_eq_ok.mp h
      obtain rfl := Except.ok.inj h
      exact ⟨rfl, rfl⟩
    · exact ioLinkModule_spec h
    · exact nomatch h

end MotionServer
