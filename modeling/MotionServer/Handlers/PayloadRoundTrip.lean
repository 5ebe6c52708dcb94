import MotionServer.Handlers.ParameterPayload

/-!
# What parameter payloads say

* `Value.bytes?`, `Value.integer?`: what a value denotes as bytes and as an integer;
* `Says`, `WriteHolds`: the payload of a write is decoded to what the value denotes;
* `Agrees`, `GatewaysAgree`: both gateways treat a value alike;
* `LosesData`: bytes of numbers that are none, and bytes of an object;
* **`payloadsHold_iff`**: the writes that lose a part of the value.
-/

namespace MotionServer

variable {F : Type} [PyFloat F]

/-! ## What a value denotes -/

/-- The byte that an item of a list denotes: an integer in `0..255`. -/
def Value.byte? (item : Value F) : Option Byte :=
  match item.toInt with
  | .error _ => none
  | .ok i =>
    let exact : Bool := match item with
      | .float x => pyEq (PyFloat.ofInt i) x
      | _ => true
    if exact = true ∧ 0 ≤ i ∧ i < 256 then some (BitVec.ofInt 8 i) else none

/-- The bytes of the digits of a text, where blanks count for nothing. -/
def hexBytes? (s : String) : Option (List Byte) :=
  (((hexDigitsText s).filter fun c => !isAsciiSpace c).mapM Hex.digit?).map Hex.ofNibbles

/-- The bytes that a value denotes: the digits of a text, or the items of a list. -/
def Value.bytes? : Value F → Option (List Byte)
  | .str s => hexBytes? s
  | .list items => items.mapM Value.byte?
  | _ => none

omit [PyFloat F] in
/-- The integer that a value denotes. -/
def Value.integer? (repr : Value F → String) : Value F → Option ℤ
  | .int i => some i
  | .bool _ => none
  | value => parseIntLiteral true (value.pyStr repr)

/-- The decoded value of a payload of `size` bytes says what the value denotes: the bytes, with
zeros up to the size; the text, without NULs at its end; the integer. -/
def Says (repr : Value F → String) (dataType : String) (value : Value F) (size : ℕ)
    (decoded : Value F) : Prop :=
  if isBytesType dataType then
    ∃ bytes, value.bytes? = some bytes ∧ bytes.length ≤ size ∧
      decoded = .str (String.ofList (Hex.chars (bytes ++ List.replicate (size - bytes.length) 0)))
  else if isTextType dataType then
    decoded = .str (String.ofList ((value.pyStr repr).toList.rdropWhile fun c => c.toNat = 0))
  else ∃ i, value.integer? repr = some i ∧ decoded = .int i

/-- A write is refused, or its payload is within the limit, has the length that is asked for and is
decoded to what the value denotes. -/
structure WriteHolds (g : PayloadGateway) (codec : Float32Codec F) (repr : Value F → String)
    (message : Message F) : Prop where
  refuses : Refuses (writtenPayload g codec repr message)
  limit : ∀ payload, writtenPayload g codec repr message = .ok payload →
    payload.length ≤ g.maxDataBytes
  length : ∀ payload, writtenPayload g codec repr message = .ok payload →
    isRawIsduType (payloadType repr message) = true →
    ∀ value, message.get? "length" = some value →
      ∃ length, value.parsePyInt repr = .ok length ∧ payload.length = length.val
  decodes : ∀ payload, writtenPayload g codec repr message = .ok payload →
    ∃ decoded, decodePayload g codec payload (payloadType repr message) = .ok decoded ∧
      Says repr (payloadType repr message) (message.getD "value" .null) payload.length decoded

/-! ## What is lost -/

/-- A list or an object that is taken for bytes although it denotes none: the items of the list all
make integers, but one is no byte; the keys of the object all make integers, but they have values. -/
inductive LosesData : Value F → ℕ → Prop
  | list (items : List (Value F)) (converts : ∀ item ∈ items, ∃ i, item.toInt = .ok i)
    (item : Value F) (mem : item ∈ items) (no_byte : item.byte? = none) :
    LosesData (.list items) items.length
  | dict (entries : List (String × Value F))
    (converts : ∀ entry ∈ entries, ∃ i, parseIntLiteral false entry.1 = some i) :
    LosesData (.dict entries) entries.length

/-- The write of such bytes, as many as the request admits. -/
def LossyWrite (g : PayloadGateway) (repr : Value F → String) (message : Message F) : Prop :=
  isBytesType (payloadType repr message) = true ∧
    ∃ size, LosesData (message.getD "value" .null) size ∧ AdmitsSize g repr message size

/-! ## Bytes -/

theorem toInt_of_byte {item : Value F} {b : Byte} (h : item.byte? = some b) :
    BitVec.ofInt 8 <$> item.toInt = .ok b := by
  unfold Value.byte? at h
  split at h
  · cases h
  · rename_i i hi
    dsimp only at h
    split_ifs at h
    obtain rfl := Option.some.inj h
    rw [hi]
    rfl

theorem toInt_str_eq_ok {s : String} {i : ℤ} :
    (Value.str s : Value F).toInt = .ok i ↔ parseIntLiteral false s = some i := by
  unfold Value.toInt
  dsimp only
  cases parseIntLiteral false s with
  | none => simp
  | some j => simp

/-- A list is not mapped when one of its elements is not. -/
theorem mapM_eq_none_iff {α β : Type} {f : α → Option β} {l : List α} :
    l.mapM f = none ↔ ∃ a ∈ l, f a = none := by
  induction l with
  | nil => simp
  | cons a l ih =>
    rw [List.mapM_cons]
    cases ha : f a with
    | none => simp [ha]
    | some b =>
      cases hl : l.mapM f with
      | none =>
        obtain ⟨a', ha', hnone⟩ := ih.mp hl
        exact iff_of_true rfl ⟨a', List.mem_cons_of_mem _ ha', hnone⟩
      | some l' =>
        have hall : ¬ ∃ a ∈ l, f a = none := fun h => by simp [ih.mpr h] at hl
        refine iff_of_false (by simp) ?_
        rintro ⟨a', ha', hnone⟩
        rcases List.mem_cons.mp ha' with rfl | ha'
        · simp [ha] at hnone
        · exact hall ⟨a', ha', hnone⟩

/-- Items that denote bytes make them. -/
theorem bytesOfItems_of_bytes {items : List (Value F)} {bytes : List Byte}
    (h : items.mapM Value.byte? = some bytes) : bytesOfItems items = .ok bytes := by
  induction items generalizing bytes with
  | nil =>
    obtain rfl := Option.some.inj h
    rfl
  | cons item items ih =>
    rw [List.mapM_cons] at h
    obtain ⟨b, hb, h⟩ := Option.bind_eq_some_iff.mp h
    obtain ⟨rest, hrest, h⟩ := Option.bind_eq_some_iff.mp h
    obtain rfl := Option.some.inj h
    unfold bytesOfItems at ih ⊢
    rw [List.mapM_cons, toInt_of_byte hb, Except.ok_bind, ih hrest, Except.ok_bind]
    rfl

/-- **A text makes the bytes of its digits.** -/
theorem hexBytes_of_fromHex {s : String} {payload : List Byte}
    (h : parseHexPayload (.str s : Value F) = .ok payload) : hexBytes? s = some payload := by
  unfold parseHexPayload at h
  dsimp only at h
  split at h
  · rename_i payload' hhex
    obtain rfl := Except.ok.inj h
    have hdigits := fromHex_digits hhex
    unfold hexBytes?
    split_ifs at hdigits with heven
    · rw [hdigits, Option.map_some, Hex.ofNibbles_nibbles]
    · -- the zero in front is the first digit
      rw [List.filter_cons_of_pos (by decide), List.mapM_cons] at hdigits
      obtain ⟨_, hzero, hdigits⟩ := Option.bind_eq_some_iff.mp hdigits
      obtain rfl := Option.some.inj hzero
      obtain ⟨digits, hrest, hdigits⟩ := Option.bind_eq_some_iff.mp hdigits
      rw [hrest, Option.map_some, Hex.ofNibbles_of_cons (Option.some.inj hdigits)]
  · cases h

theorem packPayload_bytes {g : PayloadGateway} {codec : Float32Codec F} {repr : Value F → String}
    {value : Value F} {dataType : String} (h : isBytesType dataType = true) :
    packPayload g codec repr value dataType = parseHexPayload value := by
  rw [packPayload, if_pos h]

/-- What is taken for bytes denotes them, or loses data. -/
theorem bytes_or_losesData {value : Value F} {packed : List Byte}
    (h : parseHexPayload value = .ok packed) :
    value.bytes? = some packed ∨ LosesData value packed.length := by
  have hconverts : ∀ items : List (Value F), bytesOfItems items = .ok packed →
      ∀ item ∈ items, ∃ i, item.toInt = .ok i := by
    intro items hitems item hitem
    obtain ⟨b, hb⟩ := Except.exists_mapM_iff.mp ⟨packed, hitems⟩ item hitem
    obtain ⟨i, hi, -⟩ := Except.map_eq_ok.mp hb
    exact ⟨i, hi⟩
  cases value with
  | str s => exact Or.inl (hexBytes_of_fromHex h)
  | list items =>
    have hitems : bytesOfItems items = .ok packed := h
    rw [Except.length_of_mapM hitems]
    cases hbytes : items.mapM Value.byte? with
    | some bytes =>
      have heq := bytesOfItems_of_bytes hbytes
      rw [hitems] at heq
      rw [Except.ok.inj heq]
      exact Or.inl hbytes
    | none =>
      obtain ⟨item, hitem, hno⟩ := mapM_eq_none_iff.mp hbytes
      exact Or.inr (.list items (hconverts items hitems) item hitem hno)
  | dict entries =>
    have hkeys : bytesOfItems (entries.map fun entry => (.str entry.1 : Value F)) = .ok packed := h
    have hlength := Except.length_of_mapM hkeys
    rw [List.length_map] at hlength
    rw [hlength]
    refine Or.inr (.dict entries fun entry hentry => ?_)
    obtain ⟨i, hi⟩ := hconverts _ hkeys _ (List.mem_map_of_mem hentry)
    exact ⟨i, toInt_str_eq_ok.mp hi⟩
  | _ => cases h

/-- What loses data is taken for bytes, and denotes none. -/
theorem LosesData.exists_packed {value : Value F} {size : ℕ} (h : LosesData value size) :
    (∃ packed, parseHexPayload value = .ok packed ∧ packed.length = size) ∧
      value.bytes? = none := by
  cases h with
  | list items converts item mem no_byte =>
    have hbytes : ∃ packed, bytesOfItems items = .ok packed := by
      refine Except.exists_mapM_iff.mpr fun item hitem => ?_
      obtain ⟨i, hi⟩ := converts item hitem
      exact ⟨BitVec.ofInt 8 i, Except.map_eq_ok.mpr ⟨i, hi, rfl⟩⟩
    obtain ⟨packed, hpacked⟩ := hbytes
    have hnone : items.mapM Value.byte? = none := mapM_eq_none_iff.mpr ⟨item, mem, no_byte⟩
    exact ⟨⟨packed, hpacked, Except.length_of_mapM hpacked⟩, hnone⟩
  | dict entries converts =>
    have hbytes : ∃ packed,
        bytesOfItems (entries.map fun entry => (.str entry.1 : Value F)) = .ok packed := by
      refine Except.exists_mapM_iff.mpr fun item hitem => ?_
      obtain ⟨entry, hentry, rfl⟩ := List.mem_map.mp hitem
      obtain ⟨i, hi⟩ := converts entry hentry
      exact ⟨BitVec.ofInt 8 i, Except.map_eq_ok.mpr ⟨i, toInt_str_eq_ok.mpr hi, rfl⟩⟩
    obtain ⟨packed, hpacked⟩ := hbytes
    have hlength := Except.length_of_mapM hpacked
    rw [List.length_map] at hlength
    exact ⟨⟨packed, hpacked, hlength⟩, rfl⟩

/-! ## Texts -/

/-- The byte of an ASCII character. -/
theorem asciiText_asciiBytes {l : List Char} (h : ∀ c ∈ l, c.toNat < 128) :
    asciiText (asciiBytes (String.ofList l)) = String.ofList l := by
  have hback : ∀ c ∈ l, Char.ofNat (if
      (BitVec.ofNat 8 (if c.toNat < 128 then c.toNat else 0x3F)).toNat < 128 then
      (BitVec.ofNat 8 (if c.toNat < 128 then c.toNat else 0x3F)).toNat else 0xFFFD) = c := by
    intro c hc
    have hlt := h c hc
    have hnat : (BitVec.ofNat 8 c.toNat).toNat = c.toNat := by
      rw [BitVec.toNat_ofNat]
      omega
    rw [if_pos hlt, hnat, if_pos hlt, Char.ofNat_toNat]
  rw [asciiText, asciiBytes, String.toList_ofList, List.map_map]
  congr 1
  conv_rhs => rw [← List.map_id l]
  exact List.map_congr_left hback

/-- The zeros at the end of a payload are the NULs at the end of its text. -/
theorem rdropWhile_asciiBytes {l : List Char} (h : ∀ c ∈ l, c.toNat < 128) :
    (asciiBytes (String.ofList l)).rdropWhile (· = 0) =
      asciiBytes (String.ofList (l.rdropWhile fun c => c.toNat = 0)) := by
  induction l using List.reverseRecOn with
  | nil => rfl
  | append_singleton l c ih =>
    have hc : c.toNat < 128 := h c (by simp)
    have hzero : BitVec.ofNat 8 (if c.toNat < 128 then c.toNat else 0x3F) = 0 ↔ c.toNat = 0 := by
      rw [if_pos hc, ← BitVec.toNat_inj, BitVec.toNat_ofNat]
      show c.toNat % 256 = 0 ↔ _
      omega
    have happend : asciiBytes (String.ofList (l ++ [c])) = asciiBytes (String.ofList l) ++
        [BitVec.ofNat 8 (if c.toNat < 128 then c.toNat else 0x3F)] := by
      simp [asciiBytes]
    rw [happend, List.rdropWhile_concat, List.rdropWhile_concat]
    by_cases hnul : c.toNat = 0
    · rw [if_pos (decide_eq_true (hzero.mpr hnul)), if_pos (decide_eq_true hnul)]
      exact ih fun c hc => h c (List.mem_append_left _ hc)
    · rw [if_neg (mt of_decide_eq_true (mt hzero.mp hnul)), if_neg (mt of_decide_eq_true hnul),
        happend]

theorem rdropWhile_append_replicate (l : List Byte) (n : ℕ) :
    (l ++ List.replicate n 0).rdropWhile (· = 0) = l.rdropWhile (· = 0) := by
  induction n with
  | zero => rw [List.replicate_zero, List.append_nil]
  | succ n ih =>
    rw [List.replicate_succ', ← List.append_assoc, List.rdropWhile_concat_pos _ _ _ (by simp), ih]

/-- **A padded text is read back**, without NULs at its end. -/
theorem asciiText_of_encodeAscii {s : String} {packed : List Byte} (h : encodeAscii s = .ok packed)
    (n : ℕ) : asciiText ((packed ++ List.replicate n 0).rdropWhile (· = 0)) =
      String.ofList (s.toList.rdropWhile fun c => c.toNat = 0) := by
  unfold encodeAscii at h
  split_ifs at h with hascii
  have hall : ∀ c ∈ s.toList, c.toNat < 128 := by simpa using hascii
  have hs : asciiBytes (String.ofList s.toList) = packed := by
    rw [String.ofList_toList]
    exact Except.ok.inj h
  rw [rdropWhile_append_replicate, ← hs, rdropWhile_asciiBytes hall]
  apply asciiText_asciiBytes
  intro c hc
  exact hall c ((List.rdropWhile_prefix _ _).subset hc)

/-! ## Integers -/

theorem payloadFormat_integer {dataType : String} {format : StructFormat}
    (h : payloadFormat dataType = some format) (hfloat : dataType ≠ "float32") :
    ∃ signed bytes, 0 < bytes ∧ format = .integer signed bytes := by
  unfold payloadFormat at h
  split at h
  case h_8 => exact absurd rfl hfloat
  case h_9 => cases h
  all_goals
    obtain rfl := Option.some.inj h
    exact ⟨_, _, by decide, rfl⟩

omit [PyFloat F] in
/-- The integer that the text of a value is read as. -/
theorem integer_of_parseIntLiteral {repr : Value F → String} {value : Value F} {i : ℤ}
    (h : parseIntLiteral true (value.pyStr repr) = some i) : value.integer? repr = some i := by
  cases value with
  | int j => exact congrArg some (parseIntLiteral_toString h).symm
  | bool b =>
    have htrue : parseIntLiteral true "True" = none := by decide +kernel
    have hfalse : parseIntLiteral true "False" = none := by decide +kernel
    cases b with
    | true => cases htrue.symm.trans h
    | false => cases hfalse.symm.trans h
  | _ => exact h

/-- **An integer is read back.** -/
theorem decodePayload_integer {g : PayloadGateway} {codec : Float32Codec F}
    {repr : Value F → String} {value : Value F} {dataType : String} {packed : List Byte}
    (hbytes : isBytesType dataType = false) (htext : isTextType dataType = false)
    (hfloat : dataType ≠ "float32") (h : packPayload g codec repr value dataType = .ok packed) :
    ∃ i, value.integer? repr = some i ∧
      decodePayload g codec packed dataType = .ok (.int i) := by
  rw [packPayload, hbytes, if_neg Bool.false_ne_true, htext, if_neg Bool.false_ne_true] at h
  cases hformat : payloadFormat dataType with
  | none =>
    rw [hformat] at h
    cases h
  | some format =>
    obtain ⟨signed, bytes, hpos, rfl⟩ := payloadFormat_integer hformat hfloat
    rw [hformat] at h
    dsimp only at h
    split at h
    · rename_i i hi
      refine ⟨i, integer_of_parseIntLiteral hi, ?_⟩
      obtain ⟨j, hj, h⟩ := Except.bind_eq_ok.mp h
      obtain rfl := Except.ok.inj hj
      split_ifs at h with hfits
      obtain rfl := Except.ok.inj h
      have hlength : (Bytes.ofIntLE bytes i).length = (StructFormat.integer signed bytes).size :=
        Bytes.length_ofIntLE bytes i
      rw [decodePayload, hbytes, if_neg Bool.false_ne_true, htext, if_neg Bool.false_ne_true,
        hformat]
      dsimp only
      rw [if_neg (by omega), ← hlength, List.take_length, structUnpack,
        if_neg (not_not.mpr hlength)]
      rw [Bytes.toInt_ofIntLE hpos hfits]
      rfl
    · cases h

/-! ## Writes -/

theorem raw_iff {dataType : String} :
    isRawIsduType dataType = true ↔ isBytesType dataType = true ∨ isTextType dataType = true := by
  simp [isRawIsduType, isBytesType, isTextType, or_assoc]

/-- What is packed is decoded to what the value denotes, unless data is lost. -/
theorem decodes_packed {g : PayloadGateway} {codec : Float32Codec F} {repr : Value F → String}
    {value : Value F} {dataType : String} {packed : List Byte} {size : ℕ}
    (hfloat : dataType ≠ "float32") (hpacked : packPayload g codec repr value dataType = .ok packed)
    (hsize : packed.length ≤ size) (hexact : isRawIsduType dataType = false → size = packed.length)
    (hloses : isBytesType dataType = true → ¬ LosesData value packed.length) :
    ∃ decoded, decodePayload g codec (packed ++ List.replicate (size - packed.length) 0) dataType =
      .ok decoded ∧ Says repr dataType value size decoded := by
  cases hbytes : isBytesType dataType with
  | true =>
    rw [packPayload_bytes hbytes] at hpacked
    have hdenotes := (bytes_or_losesData hpacked).resolve_right (hloses hbytes)
    refine ⟨_, by rw [decodePayload, if_pos hbytes], ?_⟩
    rw [Says, if_pos hbytes]
    exact ⟨packed, hdenotes, hsize, rfl⟩
  | false =>
    cases htext : isTextType dataType with
    | true =>
      rw [packPayload, hbytes, if_neg Bool.false_ne_true, if_pos htext] at hpacked
      refine ⟨_, by rw [decodePayload, hbytes, if_neg Bool.false_ne_true, if_pos htext], ?_⟩
      rw [Says, hbytes, if_neg Bool.false_ne_true, if_pos htext, asciiText_of_encodeAscii hpacked]
    | false =>
      have hraw : isRawIsduType dataType = false := by
        by_contra hraw
        rcases raw_iff.mp (by simpa using hraw) with h | h
        · rw [hbytes] at h
          cases h
        · rw [htext] at h
          cases h
      obtain ⟨i, hi, hdecode⟩ := decodePayload_integer hbytes htext hfloat hpacked
      refine ⟨.int i, ?_, ?_⟩
      · rw [hexact hraw, Nat.sub_self, List.replicate_zero, List.append_nil, hdecode]
      · rw [Says, hbytes, if_neg Bool.false_ne_true, htext, if_neg Bool.false_ne_true]
        exact ⟨i, hi, rfl⟩

theorem exists_bytes_of_says {repr : Value F → String} {dataType : String} {value : Value F}
    {size : ℕ} {x : Except PyExc (Value F)} (hbytes : isBytesType dataType = true)
    (h : ∃ decoded, x = .ok decoded ∧ Says repr dataType value size decoded) :
    ∃ bytes, value.bytes? = some bytes := by
  obtain ⟨decoded, -, hsays⟩ := h
  rw [Says, if_pos hbytes] at hsays
  obtain ⟨bytes, hsome, -⟩ := hsays
  exact ⟨bytes, hsome⟩

/-- **A write is refused or says what its value denotes, unless it loses data.** -/
theorem writeHolds_iff [TruncRaises F] {g : PayloadGateway} {codec : Float32Codec F}
    {repr : Value F → String} {message : Message F}
    (hfloat : payloadType repr message ≠ "float32") :
    WriteHolds g codec repr message ↔ ¬ LossyWrite g repr message := by
  constructor
  · rintro hholds ⟨hbytes, size, hloses, hadmits⟩
    obtain ⟨⟨packed, hpacked, rfl⟩, hnone⟩ := hloses.exists_packed
    have hvalue : message.has "value" = true := by
      by_contra hmissing
      have hget : message.get? "value" = none := by
        simpa [Message.has, Option.not_isSome_iff_eq_none] using hmissing
      rw [Message.getD, hget, Option.getD_none] at hpacked
      cases hpacked
    rw [← @packPayload_bytes F _ g codec repr _ _ hbytes] at hpacked
    obtain ⟨payload, hpayload⟩ :=
      exists_writtenPayload hvalue (raw_iff.mpr (Or.inl hbytes)) hpacked hadmits
    obtain ⟨bytes, hsome⟩ := exists_bytes_of_says hbytes (hholds.decodes payload hpayload)
    cases hnone.symm.trans hsome
  · intro hlossy
    refine ⟨refuses_writtenPayload g codec hfloat, ?_, ?_, ?_⟩
    · intro payload hpayload
      obtain ⟨packed, -, hlimit, -⟩ := writtenPayload_ok hpayload
      exact hlimit
    · intro payload hpayload hraw
      obtain ⟨packed, -, -, -, -, -, hlength⟩ := writtenPayload_ok hpayload
      exact (hlength hraw).2
    · intro payload hpayload
      obtain ⟨packed, hpacked, -, hsize, hpadded, hexact, hraw⟩ := writtenPayload_ok hpayload
      rw [hpadded]
      have hsame : (packed ++ List.replicate (payload.length - packed.length) 0).length =
          payload.length := by rw [← hpadded]
      rw [hsame]
      refine decodes_packed hfloat hpacked hsize (fun h => by rw [hexact h]) ?_
      intro hbytes hloses
      exact hlossy ⟨hbytes, _, hloses, (hraw (raw_iff.mpr (Or.inl hbytes))).1⟩

/-! ## Both gateways -/

/-- Two results are the same, or failures of one kind: their texts may name their gateways. -/
inductive Agrees {α : Type} : Except PyExc α → Except PyExc α → Prop
  | same (x : Except PyExc α) : Agrees x x
  | invalidArgument (field reason reason' : String) :
    Agrees (.error (.motionServer (.invalidArgument field reason)))
      (.error (.motionServer (.invalidArgument field reason')))
  | deviceAccess (operation operation' : String) :
    Agrees (.error (.motionServer (.deviceAccess operation)))
      (.error (.motionServer (.deviceAccess operation')))

/-- What is within the limits of both gateways. -/
def sharedLimit : ℕ := min apGateway.maxDataBytes isduGateway.maxDataBytes

/-- The length that the request asks for, and its value, are within the limits of both gateways. -/
def WithinBoth (codec : Float32Codec F) (repr : Value F → String) (message : Message F) : Prop :=
  (∀ value length, message.get? "length" = some value → value.parsePyInt repr = .ok length →
    length.val ≤ sharedLimit) ∧
  ∀ packed, encodeApPayload codec repr (message.getD "value" .null) (payloadType repr message) =
    .ok packed → packed.length ≤ sharedLimit

/-- The gateways encode and decode alike, and write alike what is within the limits of both. -/
structure GatewaysAgree (codec : Float32Codec F) (repr : Value F → String) (message : Message F) :
    Prop where
  encode : ∀ value dataType, Agrees (encodeApPayload codec repr value dataType)
    (encodeIsduPayload codec repr value dataType)
  decode : ∀ payload dataType, Agrees (decodeApPayload codec payload dataType)
    (decodeIsduPayload codec payload dataType)
  write : WithinBoth codec repr message → Agrees (writtenPayload apGateway codec repr message)
    (writtenPayload isduGateway codec repr message)

theorem Agrees.bind {α β : Type} {x y : Except PyExc α} {f f' : α → Except PyExc β}
    (h : Agrees x y) (hf : ∀ a, x = .ok a → Agrees (f a) (f' a)) : Agrees (x >>= f) (y >>= f') := by
  cases h with
  | same x =>
    cases x with
    | error e => exact .same _
    | ok a => exact hf a rfl
  | invalidArgument field reason reason' => exact .invalidArgument field reason reason'
  | deviceAccess operation operation' => exact .deviceAccess operation operation'

theorem Agrees.asInvalidValue {α : Type} {x y : Except PyExc α} (h : Agrees x y)
    (dataType : String) : Agrees (asInvalidValue dataType x) (asInvalidValue dataType y) := by
  cases h with
  | same x => exact .same _
  | invalidArgument field reason reason' => exact .invalidArgument field reason reason'
  | deviceAccess operation operation' => exact .deviceAccess operation operation'

theorem agrees_encodePayload (g g' : PayloadGateway) (codec : Float32Codec F)
    (repr : Value F → String) (value : Value F) (dataType : String) :
    Agrees (encodePayload g codec repr value dataType)
      (encodePayload g' codec repr value dataType) := by
  refine Agrees.asInvalidValue ?_ dataType
  unfold packPayload
  split_ifs
  · exact .same _
  · exact .same _
  · cases payloadFormat dataType with
    | none => exact .invalidArgument _ _ _
    | some format => cases format <;> exact .same _

theorem agrees_decodePayload (g g' : PayloadGateway) (codec : Float32Codec F) (payload : List Byte)
    (dataType : String) :
    Agrees (decodePayload g codec payload dataType) (decodePayload g' codec payload dataType) := by
  unfold decodePayload
  split_ifs
  · exact .same _
  · exact .same _
  · cases payloadFormat dataType with
    | none => exact .invalidArgument _ _ _
    | some format =>
      dsimp only
      split_ifs
      · exact .deviceAccess _ _
      · exact .same _

omit [PyFloat F] in
theorem agrees_fitPayload (g g' : PayloadGateway) (message : Message F) (dataType : String)
    (length : PyInt) (payload : List Byte) :
    Agrees (fitPayload g message dataType length payload)
      (fitPayload g' message dataType length payload) := by
  unfold fitPayload
  dsimp only
  split_ifs
  · exact .invalidArgument _ _ _
  · exact .same _
  · exact .same _

theorem agrees_requireRange (field reason reason' : String) {low high high' : ℤ} {value : PyInt}
    (h : value.val ≤ high) (h' : value.val ≤ high') :
    Agrees (requireRange field reason low high value)
      (requireRange field reason' low high' value) := by
  unfold requireRange
  by_cases hlow : value.val < low
  · rw [if_pos (Or.inl hlow), if_pos (Or.inl hlow)]
    exact .invalidArgument _ _ _
  · rw [if_neg (by omega), if_neg (by omega)]
    exact .same _

omit [PyFloat F] in
/-- A length that is not given is that of the type. -/
theorem parseIsduLength_of_none {repr : Value F → String} {message : Message F} {dataType : String}
    (h : message.get? "length" = none) {length : PyInt}
    (hlength : parseIsduLength repr message dataType = .ok length) : length.val ≤ 4 := by
  have hhas : message.has "length" = false := by rw [Message.has, h, Option.isSome_none]
  rw [parseIsduLength, hhas, if_neg Bool.false_ne_true] at hlength
  obtain rfl := Except.ok.inj hlength
  show (((isduDataSize dataType).getD 0 : ℕ) : ℤ) ≤ 4
  unfold isduDataSize
  split <;> decide

/-- **Both gateways treat a value alike.** -/
theorem gatewaysAgree (codec : Float32Codec F) (repr : Value F → String) (message : Message F) :
    GatewaysAgree codec repr message where
  encode value dataType := agrees_encodePayload _ _ codec repr value dataType
  decode payload dataType := agrees_decodePayload _ _ codec payload dataType
  write := by
    rintro ⟨hlengths, hpayloads⟩
    refine Agrees.bind (.same _) fun _ _ => ?_
    refine Agrees.bind (.same _) fun length hlength => ?_
    have hwithin : length.val ≤ sharedLimit := by
      cases hget : message.get? "length" with
      | some value => exact hlengths value length hget ((parseIsduLength_of_get hget).mp hlength)
      | none => exact (parseIsduLength_of_none hget hlength).trans (by decide)
    have hlimits : (sharedLimit : ℤ) ≤ apGateway.maxDataBytes ∧
        (sharedLimit : ℤ) ≤ isduGateway.maxDataBytes := by decide
    refine (agrees_requireRange _ _ _ (by omega) (by omega)).bind fun _ _ => ?_
    refine Agrees.bind (.same _) fun _ _ => ?_
    refine (agrees_encodePayload _ _ codec repr _ _).bind fun packed hpacked => ?_
    have hshort := hpayloads packed hpacked
    rw [if_neg (by omega), if_neg (by omega)]
    exact agrees_fitPayload _ _ message _ length packed

/-! ## The claim of both gateways -/

/-- The writes of both gateways hold, and the gateways agree. -/
structure PayloadsHold (codec : Float32Codec F) (repr : Value F → String) (message : Message F) :
    Prop where
  ap : WriteHolds apGateway codec repr message
  isdu : WriteHolds isduGateway codec repr message
  agree : GatewaysAgree codec repr message

omit [PyFloat F] in
theorem AdmitsSize.mono {g g' : PayloadGateway} (hle : g.maxDataBytes ≤ g'.maxDataBytes)
    {repr : Value F → String} {message : Message F} {size : ℕ}
    (h : AdmitsSize g repr message size) : AdmitsSize g' repr message size := by
  refine ⟨h.1.trans hle, fun value hvalue => ?_⟩
  obtain ⟨length, hparse, hsize, hmax⟩ := h.2 value hvalue
  exact ⟨length, hparse, hsize, hmax.trans (by exact_mod_cast hle)⟩

/-- **Parameter payloads say what their values denote** but for lists of numbers that are no bytes,
which are wrapped or cut, and objects, whose keys are taken for bytes. -/
theorem payloadsHold_iff [TruncRaises F] (codec : Float32Codec F) (repr : Value F → String)
    (message : Message F) (hfloat : payloadType repr message ≠ "float32") :
    PayloadsHold codec repr message ↔ ¬ LossyWrite apGateway repr message := by
  constructor
  · intro h
    exact (writeHolds_iff hfloat).mp h.ap
  · intro h
    refine ⟨(writeHolds_iff hfloat).mpr h, (writeHolds_iff hfloat).mpr ?_,
      gatewaysAgree codec repr message⟩
    rintro ⟨hbytes, size, hloses, hadmits⟩
    exact h ⟨hbytes, size, hloses, hadmits.mono (by decide)⟩

theorem payloadsHold_iff_int16 :
    PayloadsHold withoutFloats (fun _ => "") [("data_type", .str " INT16"), ("value", .int (-2))] ↔
      ¬ LossyWrite apGateway (fun _ => "")
        [("data_type", .str " INT16"), ("value", (.int (-2) : Value ExtRat))] :=
  payloadsHold_iff withoutFloats (fun _ => "") _ (by decide +kernel)

/-- An integer that is no byte is wrapped: `[256]` is sent as the byte `0`. -/
theorem list_item_wrapped :
    payloadType (fun _ => "") [("value", (.list [.int 256] : Value ExtRat))] = "bytes" ∧
      writtenPayload apGateway withoutFloats (fun _ => "") [("value", .list [.int 256])] =
        .ok [0] ∧
      writtenPayload isduGateway withoutFloats (fun _ => "") [("value", .list [.int 256])] =
        .ok [0] ∧
      ¬ PayloadsHold withoutFloats (fun _ => "") [("value", .list [.int 256])] := by
  have hwritten : writtenPayload apGateway withoutFloats (fun _ => "")
      [("value", .list [.int 256])] = .ok [0] := by decide +kernel
  refine ⟨by decide +kernel, hwritten, by decide +kernel, ?_⟩
  intro h
  obtain ⟨bytes, hbytes⟩ := exists_bytes_of_says (by decide +kernel) (h.ap.decodes _ hwritten)
  cases hbytes

end MotionServer
