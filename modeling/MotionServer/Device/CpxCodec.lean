import MotionServer.Device.CpxLayout
import MotionServer.Lib.Except
import MotionServer.Lib.Slices

/-!
# The codec of the process image

* `writeDigitalBits`, `writeAnalogValues`, `writeBytes` and their readers: the channels of a module;
* `writeRegion`, `readRegion`: all channels of a module in one direction;
* `regionBytes`: the bytes of a region for its values;
* **`writeRegion_append`**, **`readRegion_append`**: a region is written and read where it is;
* **`writeRegions_append`**: regions that follow one another fill the image.
-/

namespace MotionServer

open Slices (slice)

/-! ## Digital channels -/

/-- `write_digital_bits`. -/
def writeDigitalBits (payload : List Byte) (values : List Bool) (byteOffset : ℕ) :
    (count : ℕ) → List Byte
  | 0 => payload
  | index + 1 =>
    let payload := writeDigitalBits payload values byteOffset index
    if values[index]?.getD false then
      payload.modify (byteOffset + index / 8) fun byte => byte ||| BitVec.twoPow 8 (index % 8)
    else payload

/-- The bit of a digital channel. -/
def digitalBit (payload : List Byte) (byteOffset index : ℕ) : Bool :=
  (payload[byteOffset + index / 8]?.getD 0).getLsbD (index % 8)

/-- `read_digital_bits`. -/
def readDigitalBits (payload : List Byte) (count byteOffset : ℕ) : List Bool :=
  (List.range count).map (digitalBit payload byteOffset)

theorem length_writeDigitalBits (payload : List Byte) (values : List Bool) (byteOffset count : ℕ) :
    (writeDigitalBits payload values byteOffset count).length = payload.length := by
  induction count with
  | zero => rfl
  | succ index ih =>
    rw [writeDigitalBits]
    split_ifs
    · rw [List.length_modify, ih]
    · exact ih

theorem writeDigitalBits_append (pre payload : List Byte) (values : List Bool) (count : ℕ) :
    writeDigitalBits (pre ++ payload) values pre.length count =
      pre ++ writeDigitalBits payload values 0 count := by
  induction count with
  | zero => rfl
  | succ index ih =>
    rw [writeDigitalBits, writeDigitalBits, ih]
    split_ifs
    · rw [Slices.modify_append_right, Nat.zero_add]
    · rfl

theorem writeDigitalBits_append_left {payload : List Byte} (post : List Byte) (values : List Bool)
    {count : ℕ} (h : bytesForBits count ≤ payload.length) :
    writeDigitalBits (payload ++ post) values 0 count =
      writeDigitalBits payload values 0 count ++ post := by
  induction count with
  | zero => rfl
  | succ index ih =>
    unfold bytesForBits at h ih
    rw [writeDigitalBits, writeDigitalBits, ih (by omega)]
    split_ifs
    · rw [Slices.modify_append_left post (by rw [length_writeDigitalBits]; omega)]
    · rfl

theorem readDigitalBits_append (pre : List Byte) {payload : List Byte} (post : List Byte) {count : ℕ}
    (h : bytesForBits count ≤ payload.length) :
    readDigitalBits (pre ++ payload ++ post) count pre.length = readDigitalBits payload count 0 := by
  unfold bytesForBits at h
  apply List.map_congr_left
  intro index hindex
  have hlt := List.mem_range.mp hindex
  unfold digitalBit
  rw [List.append_assoc, List.getElem?_append_right (by omega), Nat.add_sub_cancel_left,
    List.getElem?_append_left (by omega), Nat.zero_add]

/-- **A bit is set if it was, or by its channel.** -/
theorem digitalBit_writeDigitalBits {payload : List Byte} (values : List Bool) (count : ℕ) {k : ℕ}
    (h : k / 8 < payload.length) :
    digitalBit (writeDigitalBits payload values 0 count) 0 k =
      (digitalBit payload 0 k || (decide (k < count) && values[k]?.getD false)) := by
  induction count with
  | zero => simp [writeDigitalBits]
  | succ index ih =>
    have hlength : k / 8 < (writeDigitalBits payload values 0 index).length := by
      rw [length_writeDigitalBits]
      exact h
    rw [writeDigitalBits]
    by_cases hvalue : values[index]?.getD false = true
    · rw [if_pos hvalue]
      obtain ⟨byte, hget⟩ : ∃ byte, (writeDigitalBits payload values 0 index)[k / 8]? = some byte :=
        ⟨_, List.getElem?_eq_getElem hlength⟩
      unfold digitalBit at ih ⊢
      simp only [Nat.zero_add, List.getElem?_modify, hget, Option.map_eq_map, Option.map_some,
        Option.getD_some] at ih ⊢
      by_cases hbyte : index / 8 = k / 8
      · rw [if_pos hbyte, BitVec.getLsbD_or, ih, BitVec.getLsbD_twoPow]
        by_cases hk : k = index
        · have hlt : k % 8 < 8 := Nat.mod_lt k (by decide)
          subst hk
          simp [hvalue, hlt]
        · have hmod : index % 8 ≠ k % 8 := by omega
          have hlt : k < index + 1 ↔ k < index := by omega
          simp [hmod, hlt]
      · have hk : k < index + 1 ↔ k < index := by
          have hne : k ≠ index := fun heq => hbyte (by rw [heq])
          omega
        rw [if_neg hbyte, ih]
        simp only [hk]
    · rw [if_neg hvalue, ih]
      by_cases hk : k = index
      · subst hk
        simp [hvalue]
      · have hlt : k < index + 1 ↔ k < index := by omega
        simp [hlt]

/-- **The values of digital channels are read back,** from bytes that were zero. -/
theorem readDigitalBits_write {values : List Bool} {bytes : ℕ}
    (h : bytesForBits values.length ≤ bytes) :
    readDigitalBits (writeDigitalBits (List.replicate bytes 0) values 0 values.length)
      values.length 0 = values := by
  unfold bytesForBits at h
  apply List.ext_getElem?
  intro k
  rw [readDigitalBits, List.getElem?_map]
  by_cases hk : k < values.length
  · have hbyte : k / 8 < bytes := by omega
    have hzero : digitalBit (List.replicate bytes (0 : Byte)) 0 k = false := by
      rw [digitalBit, Nat.zero_add, List.getElem?_replicate, if_pos hbyte]
      exact BitVec.getLsbD_zero
    rw [List.getElem?_range hk, Option.map_some,
      digitalBit_writeDigitalBits values _ (by rw [List.length_replicate]; exact hbyte), hzero,
      decide_eq_true hk, List.getElem?_eq_getElem hk]
    rfl
  · rw [List.getElem?_eq_none (by rw [List.length_range]; omega), List.getElem?_eq_none (by omega)]
    rfl

/-! ## Analog channels -/

/-- The loop of `write_analog_values` from a channel on. -/
def writeAnalogFrom (values : List ℤ) (byteOffset byteWidth : ℕ) (signed : Bool) :
    (remaining index : ℕ) → (payload : List Byte) → Except PyExc (List Byte)
  | 0, _, payload => .ok payload
  | remaining + 1, index, payload =>
    let value := values[index]?.getD 0
    let start := byteOffset + index * byteWidth
    let stop := start + byteWidth
    if payload.length < stop then .ok payload
    else if Bytes.Fits signed byteWidth value then
      writeAnalogFrom values byteOffset byteWidth signed remaining (index + 1)
        (payload.take start ++ Bytes.ofIntLE byteWidth value ++ payload.drop stop)
    else .error .overflowError

/-- `write_analog_values`. -/
def writeAnalogValues (payload : List Byte) (values : List ℤ) (byteOffset count byteWidth : ℕ)
    (signed : Bool) : Except PyExc (List Byte) :=
  writeAnalogFrom values byteOffset byteWidth signed count 0 payload

/-- `read_analog_values`. -/
def readAnalogValues (payload : List Byte) (count byteOffset byteWidth : ℕ) (signed : Bool) :
    List ℤ :=
  (List.range count).map fun index =>
    let start := byteOffset + index * byteWidth
    if payload.length < start + byteWidth then 0
    else Bytes.toInt signed (slice payload start byteWidth)

/-- The bytes of analog channels. -/
def analogBytesOf (byteWidth : ℕ) (values : List ℤ) : List Byte :=
  values.flatMap (Bytes.ofIntLE byteWidth)

theorem length_analogBytesOf (byteWidth : ℕ) (values : List ℤ) :
    (analogBytesOf byteWidth values).length = values.length * byteWidth := by
  induction values with
  | nil => rw [analogBytesOf, List.flatMap_nil, List.length_nil, List.length_nil, Nat.zero_mul]
  | cons value values ih =>
    rw [analogBytesOf] at ih ⊢
    rw [List.flatMap_cons, List.length_append, Bytes.length_ofIntLE, ih, List.length_cons,
      Nat.succ_mul, Nat.add_comm]

/-- The loop replaces the bytes of the channels that remain. The induction is on these; what lies
before them in the payload grows. -/
theorem writeAnalogFrom_eq {values : List ℤ} {byteOffset byteWidth : ℕ} {signed : Bool}
    (hfits : ∀ value ∈ values, Bytes.Fits signed byteWidth value) (index : ℕ)
    (pre zeros post : List Byte)
    (hpre : pre.length = byteOffset + index * byteWidth)
    (hzeros : zeros.length = (values.length - index) * byteWidth) :
    writeAnalogFrom values byteOffset byteWidth signed (values.length - index) index
        (pre ++ zeros ++ post) =
      .ok (pre ++ analogBytesOf byteWidth (values.drop index) ++ post) := by
  generalize hremaining : values.length - index = remaining at hzeros ⊢
  induction remaining generalizing index pre zeros with
  | zero =>
    have hnil : zeros = [] := List.eq_nil_of_length_eq_zero (by omega)
    rw [List.drop_of_length_le (by omega), hnil]
    rfl
  | succ remaining ih =>
    have hindex : index < values.length := by omega
    have hmem : values[index] ∈ values := List.getElem_mem hindex
    rw [Nat.succ_mul] at hzeros
    have htake : (pre ++ zeros ++ post).take (byteOffset + index * byteWidth) = pre := by
      rw [← hpre, List.append_assoc, List.take_left]
    have hdrop : (pre ++ zeros ++ post).drop (byteOffset + index * byteWidth + byteWidth) =
        zeros.drop byteWidth ++ post := by
      rw [← hpre, List.append_assoc, ← List.drop_drop, List.drop_left,
        List.drop_append_of_le_length (by omega)]
    rw [writeAnalogFrom, if_neg (by simp only [List.length_append]; omega), List.getElem?_eq_getElem hindex,
      Option.getD_some, if_pos (hfits _ hmem), htake, hdrop, ← List.append_assoc]
    have hnext : (pre ++ Bytes.ofIntLE byteWidth values[index]).length =
        byteOffset + (index + 1) * byteWidth := by
      rw [List.length_append, Bytes.length_ofIntLE, hpre, Nat.succ_mul, Nat.add_assoc]
    rw [ih _ _ _ hnext (by omega) (by rw [List.length_drop]; omega)]
    rw [List.drop_eq_getElem_cons hindex, analogBytesOf, analogBytesOf, List.flatMap_cons,
      ← List.append_assoc]

/-- **The values of analog channels replace their bytes.** -/
theorem writeAnalogValues_eq {values : List ℤ} {byteWidth : ℕ} {signed : Bool}
    (hfits : ∀ value ∈ values, Bytes.Fits signed byteWidth value) (zeros : List Byte)
    (pre post : List Byte) (hzeros : zeros.length = values.length * byteWidth) :
    writeAnalogValues (pre ++ zeros ++ post) values pre.length values.length byteWidth signed =
      .ok (pre ++ analogBytesOf byteWidth values ++ post) := by
  have h := writeAnalogFrom_eq hfits 0 pre zeros post
    (by rw [Nat.zero_mul, Nat.add_zero]) hzeros
  rw [Nat.sub_zero, List.drop_zero] at h
  exact h

/-- **The values of analog channels are read back.** -/
theorem readAnalogValues_eq {values : List ℤ} {byteWidth : ℕ} {signed : Bool} (hwidth : 0 < byteWidth)
    (hfits : ∀ value ∈ values, Bytes.Fits signed byteWidth value) (pre post : List Byte) :
    readAnalogValues (pre ++ analogBytesOf byteWidth values ++ post) values.length pre.length byteWidth
      signed = values := by
  apply List.ext_getElem?
  intro k
  rw [readAnalogValues, List.getElem?_map]
  by_cases hk : k < values.length
  · have hchunk : slice (analogBytesOf byteWidth values) (k * byteWidth) byteWidth =
        Bytes.ofIntLE byteWidth values[k] :=
      Slices.slice_chunks (fun value _ => Bytes.length_ofIntLE byteWidth value)
        (List.getElem?_eq_getElem hk)
    have hstop : k * byteWidth + byteWidth ≤ (analogBytesOf byteWidth values).length := by
      rw [length_analogBytesOf, ← Nat.succ_mul]
      exact Nat.mul_le_mul_right byteWidth hk
    rw [List.getElem?_range hk, Option.map_some, List.getElem?_eq_getElem hk]
    rw [if_neg (by simp only [List.length_append]; omega), List.append_assoc,
      Slices.slice_append_right, Slices.slice_append_left post hstop, hchunk,
      Bytes.toInt_ofIntLE hwidth (hfits _ (List.getElem_mem hk))]
  · rw [List.getElem?_eq_none (by rw [List.length_range]; omega), List.getElem?_eq_none (by omega)]
    rfl

/-! ## Bytes -/

/-- `read_bytes`. -/
def readBytes (payload : List Byte) (byteOffset byteCount : ℕ) : List Byte :=
  if payload.length ≤ byteOffset then List.replicate byteCount 0
  else
    let data := slice payload byteOffset byteCount
    data ++ List.replicate (byteCount - data.length) 0

/-- `write_bytes`. -/
def writeBytes (payload values : List Byte) (byteOffset byteCount : ℕ) : List Byte :=
  let prefixed := values.take byteCount
  let source := prefixed ++ List.replicate (byteCount - prefixed.length) 0
  if payload.length ≤ byteOffset then payload
  else
    let writeEnd := min (byteOffset + byteCount) payload.length
    payload.take byteOffset ++ source.take (writeEnd - byteOffset) ++ payload.drop writeEnd

theorem writeBytes_eq (values zeros : List Byte) (pre post : List Byte)
    (hzeros : zeros.length = values.length) (hpos : 0 < values.length) :
    writeBytes (pre ++ zeros ++ post) values pre.length values.length = pre ++ values ++ post := by
  have hend : min (pre.length + values.length) (pre ++ zeros ++ post).length =
      pre.length + values.length := by
    simp only [List.length_append]
    omega
  have htake : (pre ++ zeros ++ post).take pre.length = pre := by
    rw [List.append_assoc, List.take_left]
  have hdrop : (pre ++ zeros ++ post).drop (pre.length + values.length) = post := by
    rw [← hzeros, ← List.length_append, List.drop_left]
  unfold writeBytes
  dsimp only
  rw [if_neg (by simp only [List.length_append]; omega), hend, htake, hdrop, List.take_length,
    Nat.sub_self, List.replicate_zero, List.append_nil, Nat.add_sub_cancel_left, List.take_length]

theorem readBytes_eq (values : List Byte) (pre post : List Byte) (hpos : 0 < values.length) :
    readBytes (pre ++ values ++ post) pre.length values.length = values := by
  unfold readBytes
  dsimp only
  rw [if_neg (by simp only [List.length_append]; omega), Slices.slice_middle, Nat.sub_self,
    List.replicate_zero, List.append_nil]

/-! ## Regions -/

/-- The values of the channels of a module in one direction. -/
structure ChannelValues where
  digital : List Bool
  analog : List ℤ
  ioLink : List Byte
  deriving DecidableEq

/-- What `encode_output_module` and `publish_input_image` do. -/
def writeRegion (payload : List Byte) (r : Region) (values : ChannelValues) :
    Except PyExc (List Byte) :=
  match r.offset with
  | none => .ok payload
  | some byteOffset =>
    let payload :=
      if r.digital ≠ 0 then writeDigitalBits payload values.digital byteOffset r.digital else payload
    let result :=
      if r.analog ≠ 0 then
        writeAnalogValues payload values.analog byteOffset r.analog r.width r.signed
      else .ok payload
    result.map fun payload =>
      if r.ioLink then writeBytes payload values.ioLink byteOffset r.bytes else payload

/-- What `decode_input_module` and `consume_output_image` do. -/
def readRegion (payload : List Byte) (r : Region) (old : ChannelValues) : ChannelValues :=
  match r.offset with
  | none => old
  | some byteOffset =>
    ⟨if r.digital ≠ 0 then readDigitalBits payload r.digital byteOffset else old.digital,
      if r.analog ≠ 0 then readAnalogValues payload r.analog byteOffset r.width r.signed
        else old.analog,
      if r.ioLink then readBytes payload byteOffset r.bytes else old.ioLink⟩

/-- The channels have as many values as there are. -/
structure Region.Shaped (r : Region) (values : ChannelValues) : Prop where
  digital : values.digital.length = r.digital
  analog : values.analog.length = r.analog
  ioLink : values.ioLink.length = if r.ioLink then r.bytes else 0

/-- The channels have values of their ranges. -/
structure Region.InRange (r : Region) (values : ChannelValues) : Prop extends r.Shaped values where
  fits : ∀ value ∈ values.analog, Bytes.Fits r.signed r.width value

/-- A region whose channels are of one kind and inside its bytes. -/
structure Region.Sound (r : Region) : Prop where
  kind : r.OneKind
  fits : r.footprint ≤ r.bytes

/-- The bytes of a region. -/
def regionBytes (r : Region) (values : ChannelValues) : List Byte :=
  if r.ioLink then values.ioLink
  else if r.analog ≠ 0 then
    analogBytesOf r.width values.analog ++ List.replicate (r.bytes - r.analog * r.width) 0
  else writeDigitalBits (List.replicate r.bytes 0) values.digital 0 r.digital

theorem length_regionBytes {r : Region} {values : ChannelValues} (hsound : r.Sound)
    (hvalues : r.Shaped values) : (regionBytes r values).length = r.bytes := by
  have hfits := hsound.fits
  unfold Region.footprint at hfits
  unfold regionBytes
  by_cases hioLink : r.ioLink = true
  · have hlength := hvalues.ioLink
    rw [if_pos hioLink] at hlength ⊢
    exact hlength
  · rw [if_neg hioLink] at hfits ⊢
    split_ifs
    · rw [List.length_append, length_analogBytesOf, hvalues.analog, List.length_replicate]
      omega
    · rw [length_writeDigitalBits, List.length_replicate]

/-- Without bytes there are no channels. -/
theorem channels_nil {r : Region} {values : ChannelValues} (hsound : r.Sound)
    (hvalues : r.Shaped values) (hbytes : r.bytes = 0) :
    values.digital = [] ∧ values.analog = [] ∧ values.ioLink = [] := by
  have hfits := hsound.fits
  have hioLink := hvalues.ioLink
  unfold Region.footprint bytesForBits at hfits
  rcases hsound.kind with ⟨hanalog, hkind⟩ | ⟨hdigital, hkind, hwidth⟩ | ⟨hdigital, hanalog, hkind⟩
  · rw [hkind] at hfits hioLink
    simp only [Bool.false_eq_true, if_false] at hfits hioLink
    refine ⟨?_, ?_, ?_⟩
    · exact List.eq_nil_of_length_eq_zero (by rw [hvalues.digital]; omega)
    · exact List.eq_nil_of_length_eq_zero (hvalues.analog.trans hanalog)
    · exact List.eq_nil_of_length_eq_zero hioLink
  · rw [hkind] at hfits hioLink
    simp only [Bool.false_eq_true, if_false] at hfits hioLink
    have hzero : r.analog * r.width = 0 := by omega
    have hanalog : r.analog = 0 := (Nat.mul_eq_zero.mp hzero).resolve_right hwidth.ne'
    refine ⟨?_, ?_, ?_⟩
    · exact List.eq_nil_of_length_eq_zero (hvalues.digital.trans hdigital)
    · exact List.eq_nil_of_length_eq_zero (hvalues.analog.trans hanalog)
    · exact List.eq_nil_of_length_eq_zero hioLink
  · rw [hkind, if_pos rfl] at hioLink
    refine ⟨?_, ?_, ?_⟩
    · exact List.eq_nil_of_length_eq_zero (hvalues.digital.trans hdigital)
    · exact List.eq_nil_of_length_eq_zero (hvalues.analog.trans hanalog)
    · exact List.eq_nil_of_length_eq_zero (hioLink.trans hbytes)

/-! ### The three kinds -/

section Kinds

variable {r : Region} {values old : ChannelValues} (pre post : List Byte)

theorem writeRegion_digital (hanalog : r.analog = 0) (hioLink : r.ioLink = false)
    (hfits : r.footprint ≤ r.bytes) (hoffset : r.offset = some pre.length) :
    writeRegion (pre ++ List.replicate r.bytes 0 ++ post) r values =
      .ok (pre ++ regionBytes r values ++ post) := by
  have hlength : bytesForBits r.digital ≤ (List.replicate r.bytes (0 : Byte)).length := by
    rw [Region.footprint, hioLink, hanalog] at hfits
    simpa using hfits
  have hbytes : regionBytes r values =
      writeDigitalBits (List.replicate r.bytes 0) values.digital 0 r.digital := by
    rw [regionBytes, hioLink, hanalog]
    rfl
  rw [writeRegion, hoffset, hbytes]
  simp only [hanalog, hioLink, ne_eq, not_true_eq_false, if_false, Bool.false_eq_true]
  show Except.ok _ = _
  by_cases hdigital : r.digital = 0
  · rw [if_neg (fun h => h hdigital), hdigital]
    rfl
  · rw [if_pos hdigital, List.append_assoc, writeDigitalBits_append,
      writeDigitalBits_append_left post _ hlength, ← List.append_assoc]

theorem writeRegion_analog (hdigital : r.digital = 0) (hioLink : r.ioLink = false)
    (hfits : r.footprint ≤ r.bytes) (hvalues : r.InRange values)
    (hoffset : r.offset = some pre.length) :
    writeRegion (pre ++ List.replicate r.bytes 0 ++ post) r values =
      .ok (pre ++ regionBytes r values ++ post) := by
  by_cases hanalog : r.analog = 0
  · exact writeRegion_digital pre post hanalog hioLink hfits hoffset
  · have hlength : r.analog * r.width ≤ r.bytes := by
      rw [Region.footprint, hioLink, hdigital] at hfits
      simp only [Bool.false_eq_true, if_false, bytesForBits] at hfits
      omega
    have hbytes : regionBytes r values = analogBytesOf r.width values.analog ++
        List.replicate (r.bytes - r.analog * r.width) 0 := by
      rw [regionBytes, hioLink, if_neg Bool.false_ne_true, if_pos hanalog]
    have hzeros : List.replicate r.bytes (0 : Byte) = List.replicate (r.analog * r.width) 0 ++
        List.replicate (r.bytes - r.analog * r.width) 0 := by
      rw [List.replicate_append_replicate, Nat.add_sub_cancel' hlength]
    have hwrite := writeAnalogValues_eq hvalues.fits (List.replicate (r.analog * r.width) 0)
      pre (List.replicate (r.bytes - r.analog * r.width) 0 ++ post)
      (by rw [List.length_replicate, hvalues.analog])
    rw [hvalues.analog] at hwrite
    simp only [List.append_assoc] at hwrite
    rw [writeRegion, hoffset, hbytes, hzeros]
    simp only [hdigital, hioLink, ne_eq, not_true_eq_false, if_false, Bool.false_eq_true,
      List.append_assoc]
    rw [if_pos hanalog, hwrite]
    rfl

theorem writeRegion_ioLink (hdigital : r.digital = 0) (hanalog : r.analog = 0)
    (hioLink : r.ioLink = true) (hbytes : r.bytes ≠ 0) (hvalues : r.Shaped values)
    (hoffset : r.offset = some pre.length) :
    writeRegion (pre ++ List.replicate r.bytes 0 ++ post) r values =
      .ok (pre ++ regionBytes r values ++ post) := by
  have hlength := hvalues.ioLink
  rw [if_pos hioLink] at hlength
  have hwrite := writeBytes_eq values.ioLink (List.replicate r.bytes 0) pre post
    (by rw [List.length_replicate, hlength]) (by omega)
  rw [hlength] at hwrite
  rw [writeRegion, hoffset, regionBytes, if_pos hioLink, ← hwrite]
  simp only [hdigital, hanalog, hioLink, ne_eq, not_true_eq_false, if_false, if_true]
  rfl

/-- Two lists without elements. -/
theorem eq_of_length_zero {α : Type} {l l' : List α} {n : ℕ} (hl : l.length = n) (hl' : l'.length = n)
    (hn : n = 0) : l' = l := by
  rw [List.eq_nil_of_length_eq_zero (hl.trans hn), List.eq_nil_of_length_eq_zero (hl'.trans hn)]

theorem readRegion_digital (hanalog : r.analog = 0) (hioLink : r.ioLink = false)
    (hfits : r.footprint ≤ r.bytes) (hvalues : r.Shaped values) (hold : r.Shaped old)
    (hoffset : r.offset = some pre.length) :
    readRegion (pre ++ regionBytes r values ++ post) r old = values := by
  have hlength : bytesForBits values.digital.length ≤ r.bytes := by
    rw [Region.footprint, hioLink, hanalog] at hfits
    rw [hvalues.digital]
    simpa using hfits
  have hbytes : regionBytes r values =
      writeDigitalBits (List.replicate r.bytes 0) values.digital 0 values.digital.length := by
    rw [regionBytes, hioLink, hanalog, hvalues.digital]
    rfl
  have hread : readDigitalBits (pre ++ regionBytes r values ++ post) r.digital pre.length =
      values.digital := by
    rw [hbytes, ← hvalues.digital, readDigitalBits_append pre post (by
      rw [length_writeDigitalBits, List.length_replicate]
      exact hlength), readDigitalBits_write hlength]
  have hanalog' : old.analog = values.analog := eq_of_length_zero hvalues.analog hold.analog hanalog
  have hioLink' : old.ioLink = values.ioLink :=
    eq_of_length_zero hvalues.ioLink hold.ioLink (if_neg (by rw [hioLink]; exact Bool.false_ne_true))
  rw [readRegion, hoffset]
  simp only [hanalog, hioLink, ne_eq, not_true_eq_false, if_false, Bool.false_eq_true, hread,
    hanalog', hioLink']
  by_cases hzero : r.digital = 0
  · rw [if_neg (fun h => h hzero), eq_of_length_zero hvalues.digital hold.digital hzero]
  · rw [if_pos hzero]

theorem readRegion_analog (hdigital : r.digital = 0) (hioLink : r.ioLink = false) (hwidth : 0 < r.width)
    (hfits : r.footprint ≤ r.bytes) (hvalues : r.InRange values) (hold : r.Shaped old)
    (hoffset : r.offset = some pre.length) :
    readRegion (pre ++ regionBytes r values ++ post) r old = values := by
  by_cases hanalog : r.analog = 0
  · exact readRegion_digital pre post hanalog hioLink hfits hvalues.toShaped hold hoffset
  · have hbytes : regionBytes r values = analogBytesOf r.width values.analog ++
        List.replicate (r.bytes - r.analog * r.width) 0 := by
      rw [regionBytes, hioLink, if_neg Bool.false_ne_true, if_pos hanalog]
    have hread := readAnalogValues_eq hwidth hvalues.fits pre
      (List.replicate (r.bytes - r.analog * r.width) 0 ++ post)
    rw [hvalues.analog] at hread
    have hdigital' : old.digital = values.digital :=
      eq_of_length_zero hvalues.digital hold.digital hdigital
    have hioLink' : old.ioLink = values.ioLink :=
      eq_of_length_zero hvalues.ioLink hold.ioLink (if_neg (by rw [hioLink]; exact Bool.false_ne_true))
    simp only [List.append_assoc] at hread
    rw [readRegion, hoffset, hbytes]
    simp only [hdigital, hioLink, ne_eq, not_true_eq_false, if_false, Bool.false_eq_true,
      List.append_assoc, hread, hdigital', hioLink']
    rw [if_pos hanalog]

theorem readRegion_ioLink (hdigital : r.digital = 0) (hanalog : r.analog = 0)
    (hioLink : r.ioLink = true) (hbytes : r.bytes ≠ 0) (hvalues : r.Shaped values)
    (hold : r.Shaped old) (hoffset : r.offset = some pre.length) :
    readRegion (pre ++ regionBytes r values ++ post) r old = values := by
  have hlength := hvalues.ioLink
  rw [if_pos hioLink] at hlength
  have hread := readBytes_eq values.ioLink pre post (by omega)
  rw [hlength] at hread
  have hdigital' : old.digital = values.digital :=
    eq_of_length_zero hvalues.digital hold.digital hdigital
  have hanalog' : old.analog = values.analog := eq_of_length_zero hvalues.analog hold.analog hanalog
  rw [readRegion, hoffset, regionBytes, if_pos hioLink]
  simp only [hdigital, hanalog, hioLink, ne_eq, not_true_eq_false, if_false, if_true, hread,
    hdigital', hanalog']

end Kinds

/-- **A region is written where it is,** into bytes that were zero. -/
theorem writeRegion_append {r : Region} {values : ChannelValues} (hsound : r.Sound)
    (hvalues : r.InRange values) (pre post : List Byte)
    (hoffset : r.offset = if r.bytes ≠ 0 then some pre.length else none) :
    writeRegion (pre ++ List.replicate r.bytes 0 ++ post) r values =
      .ok (pre ++ regionBytes r values ++ post) := by
  by_cases hbytes : r.bytes = 0
  · have hnil : regionBytes r values = [] := List.eq_nil_of_length_eq_zero
      ((length_regionBytes hsound hvalues.toShaped).trans hbytes)
    rw [writeRegion, hoffset, if_neg (fun h => h hbytes), hnil, hbytes]
    rfl
  · rw [if_pos hbytes] at hoffset
    rcases hsound.kind with ⟨hanalog, hioLink⟩ | ⟨hdigital, hioLink, -⟩ | ⟨hdigital, hanalog, hioLink⟩
    · exact writeRegion_digital pre post hanalog hioLink hsound.fits hoffset
    · exact writeRegion_analog pre post hdigital hioLink hsound.fits hvalues hoffset
    · exact writeRegion_ioLink pre post hdigital hanalog hioLink hbytes hvalues.toShaped hoffset

/-- **A region is read where it is.** -/
theorem readRegion_append {r : Region} {values old : ChannelValues} (hsound : r.Sound)
    (hvalues : r.InRange values) (hold : r.Shaped old) (pre post : List Byte)
    (hoffset : r.offset = if r.bytes ≠ 0 then some pre.length else none) :
    readRegion (pre ++ regionBytes r values ++ post) r old = values := by
  by_cases hbytes : r.bytes = 0
  · obtain ⟨hdigital, hanalog, hioLink⟩ := channels_nil hsound hvalues.toShaped hbytes
    obtain ⟨hdigital', hanalog', hioLink'⟩ := channels_nil hsound hold hbytes
    rw [readRegion, hoffset, if_neg (fun h => h hbytes)]
    cases values
    cases old
    simp only at hdigital hanalog hioLink hdigital' hanalog' hioLink'
    rw [hdigital, hanalog, hioLink, hdigital', hanalog', hioLink']
  · rw [if_pos hbytes] at hoffset
    rcases hsound.kind with ⟨hanalog, hioLink⟩ | ⟨hdigital, hioLink, hwidth⟩ |
      ⟨hdigital, hanalog, hioLink⟩
    · exact readRegion_digital pre post hanalog hioLink hsound.fits hvalues.toShaped hold hoffset
    · exact readRegion_analog pre post hdigital hioLink hwidth hsound.fits hvalues hold hoffset
    · exact readRegion_ioLink pre post hdigital hanalog hioLink hbytes hvalues.toShaped hold hoffset

/-! ## All regions -/

/-- The regions of an image with their values, written one after the other. -/
def writeRegions : (payload : List Byte) → List (Region × ChannelValues) → Except PyExc (List Byte)
  | payload, [] => .ok payload
  | payload, entry :: entries => do
    let payload ← writeRegion payload entry.1 entry.2
    writeRegions payload entries

/-- The bytes of all regions. -/
def imageBytes (entries : List (Region × ChannelValues)) : List Byte :=
  entries.flatMap fun entry => regionBytes entry.1 entry.2

def totalBytes (entries : List (Region × ChannelValues)) : ℕ :=
  (entries.map fun entry => entry.1.bytes).sum

/-- **Regions that follow one another fill the image.** The induction is on the regions; the bytes
of those already written grow. -/
theorem writeRegions_append {entries : List (Region × ChannelValues)} (pre : List Byte) {size : ℕ}
    (hsound : ∀ entry ∈ entries, entry.1.Sound)
    (hvalues : ∀ entry ∈ entries, entry.1.InRange entry.2)
    (hcumulative : Cumulative pre.length (entries.map Prod.fst)) (hsize : totalBytes entries ≤ size) :
    writeRegions (pre ++ List.replicate size 0) entries =
      .ok (pre ++ imageBytes entries ++ List.replicate (size - totalBytes entries) 0) := by
  induction entries generalizing pre size with
  | nil =>
    show Except.ok _ = _
    rw [imageBytes, List.flatMap_nil, List.append_nil]
    rfl
  | cons entry entries ih =>
    have htotal : totalBytes (entry :: entries) = entry.1.bytes + totalBytes entries := rfl
    have hhead := hsound entry (List.mem_cons_self ..)
    have hinRange := hvalues entry (List.mem_cons_self ..)
    have hlength := length_regionBytes hhead hinRange.toShaped
    obtain ⟨hoffset, hrest⟩ := hcumulative
    have hzeros : List.replicate size (0 : Byte) =
        List.replicate entry.1.bytes 0 ++ List.replicate (size - entry.1.bytes) 0 := by
      rw [List.replicate_append_replicate, Nat.add_sub_cancel' (by omega)]
    rw [writeRegions, hzeros, ← List.append_assoc, writeRegion_append hhead hinRange _ _ hoffset]
    have hnext : (pre ++ regionBytes entry.1 entry.2).length = pre.length + entry.1.bytes := by
      rw [List.length_append, hlength]
    rw [← hnext] at hrest
    rw [Except.ok_bind, ih _ (fun entry' h => hsound entry' (List.mem_cons_of_mem _ h))
      (fun entry' h => hvalues entry' (List.mem_cons_of_mem _ h)) hrest (by omega),
      htotal, Nat.sub_sub, imageBytes, imageBytes, List.flatMap_cons]
    simp only [List.append_assoc]

/-- **Each region is in the image where it is.** -/
theorem imageBytes_split {entries : List (Region × ChannelValues)} {base : ℕ}
    (hsound : ∀ entry ∈ entries, entry.1.Sound)
    (hvalues : ∀ entry ∈ entries, entry.1.InRange entry.2)
    (hcumulative : Cumulative base (entries.map Prod.fst)) {entry : Region × ChannelValues}
    (hentry : entry ∈ entries) :
    ∃ pre post, imageBytes entries = pre ++ regionBytes entry.1 entry.2 ++ post ∧
      entry.1.offset = if entry.1.bytes ≠ 0 then some (base + pre.length) else none := by
  induction entries generalizing base with
  | nil => exact nomatch hentry
  | cons first entries ih =>
    obtain ⟨hoffset, hrest⟩ := hcumulative
    have hlength := length_regionBytes (hsound first (List.mem_cons_self ..))
      (hvalues first (List.mem_cons_self ..)).toShaped
    rcases List.mem_cons.mp hentry with rfl | htail
    · refine ⟨[], imageBytes entries, ?_, hoffset⟩
      rw [imageBytes, List.flatMap_cons]
      rfl
    · obtain ⟨pre, post, hsplit, hwhere⟩ :=
        ih (fun entry' h => hsound entry' (List.mem_cons_of_mem _ h))
          (fun entry' h => hvalues entry' (List.mem_cons_of_mem _ h)) hrest htail
      refine ⟨regionBytes first.1 first.2 ++ pre, post, ?_, ?_⟩
      · rw [imageBytes] at hsplit ⊢
        rw [List.flatMap_cons, hsplit]
        simp only [List.append_assoc]
      · rw [hwhere, List.length_append, hlength, Nat.add_assoc]

end MotionServer
