import MotionServer.Device.PdoCodec
import MotionServer.Python.ExtRat

/-!
# PDOs on the side of the virtual device

* `VirtualOdModel`: the object dictionary of a virtual device;
* `rxpdoPayloadToOd`, `odToTxpdoPayload`: the two directions of its process data;
* `PdosExact`: what the two sides make of values and payloads;
* **`pdosExact_iff`**: exactly when they do.
-/

namespace MotionServer

variable {F : Type} [PyFloat F]

/-! ## The object dictionary -/

/-- `VirtualOdModel`: its values by index and subindex, and what its last write was. -/
structure VirtualOdModel (F : Type) where
  entries : ℕ × ℕ → Option (OdValue F)
  lastWriteKey : Option (ℕ × ℕ)
  writeGeneration : ℕ

/-- `read`. -/
def VirtualOdModel.read (od : VirtualOdModel F) (index subindex : ℕ) :
    Except PyExc (OdValue F) :=
  match od.entries (index, subindex) with
  | some value => .ok value
  | none => .error .keyError

/-- The object dictionary after a write. -/
def VirtualOdModel.written (od : VirtualOdModel F) (key : ℕ × ℕ) (value : OdValue F) :
    VirtualOdModel F :=
  ⟨Function.update od.entries key (some value), some key, od.writeGeneration + 1⟩

omit [PyFloat F] in
theorem VirtualOdModel.written_self (od : VirtualOdModel F) (key : ℕ × ℕ) (value : OdValue F) :
    (od.written key value).entries key = some value := Function.update_self ..

omit [PyFloat F] in
theorem VirtualOdModel.written_of_ne (od : VirtualOdModel F) {key key' : ℕ × ℕ}
    (value : OdValue F) (h : key' ≠ key) :
    (od.written key value).entries key' = od.entries key' := Function.update_of_ne h ..

/-- `write`. -/
def VirtualOdModel.write (od : VirtualOdModel F) (index : ℕ) (value : OdValue F) (subindex : ℕ) :
    Except PyExc (VirtualOdModel F) :=
  if (od.entries (index, subindex)).isSome then .ok (od.written (index, subindex) value)
  else .error .keyError

/-- The role of an object that is no padding for the bridge. -/
def PdoObject.mapped? (obj : PdoObject F) : Option (PdoOdRole F) :=
  obj.item?.filter fun item => item.index ≠ 0

/-- `rxpdo_payload_to_od`: the object dictionary, and whether an object raised. -/
def rxpdoPayloadToOd (codec : Float32Codec F) :
    (payload : List Byte) → List (PdoObject F) → (od : VirtualOdModel F) →
      VirtualOdModel F × Except PyExc Unit
  | _, [], od => (od, .ok ())
  | payload, obj :: objects, od =>
    if payload.length < obj.byteLength then (od, .error .valueError)
    else
      let rawValue := payload.take obj.byteLength
      let rest := payload.drop obj.byteLength
      match obj.mapped? with
      | none => rxpdoPayloadToOd codec rest objects od
      | some item =>
        match decodeOdValue codec item.dataType rawValue >>= fun value =>
          od.write item.index value item.subindex with
        | .error e => (od, .error e)
        | .ok od => rxpdoPayloadToOd codec rest objects od

/-- `od_to_txpdo_payload`. -/
def odToTxpdoPayload (codec : Float32Codec F) (objects : List (PdoObject F))
    (od : VirtualOdModel F) : Except PyExc (List Byte) :=
  encodeObjects codec
    (fun obj => obj.mapped?.map fun item => (item.dataType, od.read item.index item.subindex)) objects

/-! ## Writing the objects of a payload -/

/-- The object dictionary has the objects. -/
def VirtualOdModel.Defines (od : VirtualOdModel F) (objects : List (PdoObject F)) : Prop :=
  ∀ item ∈ mappedItems objects, (od.entries (item.index, item.subindex)).isSome = true

omit [PyFloat F] in
theorem mapped?_of_item? {obj : PdoObject F} {item : PdoOdRole F} (hitem : obj.item? = some item)
    (hindex : item.index ≠ 0) : obj.mapped? = some item := by
  rw [PdoObject.mapped?, hitem, Option.filter_some, if_pos (decide_eq_true hindex)]

omit [PyFloat F] in
theorem defines_written {od : VirtualOdModel F} {objects : List (PdoObject F)}
    (hdefines : od.Defines objects) (key : ℕ × ℕ) (value : OdValue F) :
    (od.written key value).Defines objects := by
  intro item hitem
  by_cases hkey : (item.index, item.subindex) = key
  · rw [hkey, od.written_self]
    rfl
  · rw [od.written_of_ne value hkey]
    exact hdefines item hitem

omit [PyFloat F] in
theorem defines_of_cons {od : VirtualOdModel F} {obj : PdoObject F} {objects : List (PdoObject F)}
    (h : od.Defines (obj :: objects)) : od.Defines objects := by
  intro item hitem
  obtain ⟨obj', hobj', hitem'⟩ := List.mem_filterMap.mp hitem
  exact h item (mem_mappedItems (List.mem_cons_of_mem _ hobj') hitem')

theorem rxpdoPayloadToOd_padding (codec : Float32Codec F) {payload : List Byte} {obj : PdoObject F}
    (objects : List (PdoObject F)) (od : VirtualOdModel F) (hlength : obj.byteLength ≤ payload.length)
    (hitem : obj.item? = none) :
    rxpdoPayloadToOd codec payload (obj :: objects) od =
      rxpdoPayloadToOd codec (payload.drop obj.byteLength) objects od := by
  have hmapped : obj.mapped? = none := by
    rw [PdoObject.mapped?, hitem]
    rfl
  rw [rxpdoPayloadToOd, if_neg (by omega)]
  dsimp only
  rw [hmapped]

/-- One object: its value is written. -/
theorem rxpdoPayloadToOd_item (codec : Float32Codec F) {payload : List Byte} {obj : PdoObject F}
    (objects : List (PdoObject F)) {od : VirtualOdModel F} {item : PdoOdRole F} {value : OdValue F}
    (hlength : obj.byteLength ≤ payload.length) (hitem : obj.item? = some item)
    (hindex : item.index ≠ 0) (hdefined : (od.entries (item.index, item.subindex)).isSome = true)
    (hdecode : decodeOdValue codec item.dataType (payload.take obj.byteLength) = .ok value) :
    rxpdoPayloadToOd codec payload (obj :: objects) od =
      rxpdoPayloadToOd codec (payload.drop obj.byteLength) objects
        (od.written (item.index, item.subindex) value) := by
  rw [rxpdoPayloadToOd, if_neg (by omega)]
  dsimp only
  rw [mapped?_of_item? hitem hindex]
  dsimp only
  rw [hdecode, Except.ok_bind, VirtualOdModel.write, if_pos hdefined]

/-- **A payload writes each object with the value that it holds,** and no other object. -/
theorem rxpdoPayloadToOd_of_holds {codec : Float32Codec F} {value : PdoOdRole F → OdValue F}
    {objects : List (PdoObject F)} {payload : List Byte} {od : VirtualOdModel F}
    (hindex : ∀ item ∈ mappedItems objects, item.index ≠ 0)
    (hnodup : ((mappedItems objects).map fun item => (item.index, item.subindex)).Nodup)
    (hdefines : od.Defines objects) (hlength : mappingSize objects ≤ payload.length)
    (h : Holds codec value objects payload) :
    ∃ od', rxpdoPayloadToOd codec payload objects od = (od', .ok ()) ∧
      (∀ item ∈ mappedItems objects, od'.read item.index item.subindex = .ok (value item)) ∧
      ∀ key, key ∉ (mappedItems objects).map (fun item => (item.index, item.subindex)) →
        od'.entries key = od.entries key := by
  induction objects generalizing payload od with
  | nil => exact ⟨od, rfl, fun item hitem => (nomatch hitem), fun key _ => rfl⟩
  | cons obj objects ih =>
    obtain ⟨hdecode, hrest⟩ := h
    have hsize : mappingSize (obj :: objects) = obj.byteLength + mappingSize objects := rfl
    have hdrop : mappingSize objects ≤ (payload.drop obj.byteLength).length := by
      rw [List.length_drop]
      omega
    have hobj : obj.byteLength ≤ payload.length := by omega
    cases hitem : obj.item? with
    | none =>
      have hitems : mappedItems (obj :: objects) = mappedItems objects :=
        List.filterMap_cons_none hitem
      rw [hitems] at hindex hnodup ⊢
      rw [rxpdoPayloadToOd_padding codec objects od hobj hitem]
      exact ih hindex hnodup (defines_of_cons hdefines) hdrop hrest
    | some item =>
      have hitems : mappedItems (obj :: objects) = item :: mappedItems objects :=
        List.filterMap_cons_some hitem
      rw [rxpdoPayloadToOd_item codec objects hobj hitem (hindex item (by rw [hitems]; simp))
        (hdefines item (by rw [hitems]; simp)) (hdecode item hitem)]
      rw [hitems, List.map_cons, List.nodup_cons] at hnodup
      obtain ⟨od', hresult, hread, hframe⟩ := ih
        (fun item' hitem' => hindex item' (by rw [hitems]; exact List.mem_cons_of_mem _ hitem'))
        hnodup.2 (defines_written (defines_of_cons hdefines) (item.index, item.subindex) (value item))
        hdrop hrest
      refine ⟨od', hresult, ?_, ?_⟩
      · rw [hitems]
        rintro item' (_ | ⟨_, hitem'⟩)
        · have hkey := hframe (item.index, item.subindex) hnodup.1
          rw [od.written_self] at hkey
          rw [VirtualOdModel.read, hkey]
        · exact hread item' hitem'
      · intro key hkey
        rw [hitems, List.map_cons, List.mem_cons, not_or] at hkey
        rw [hframe key hkey.2, od.written_of_ne _ hkey.1]

/-! ## Short payloads -/

/-- Where the first object with a field ends. -/
def firstItemEnd : List (PdoObject F) → Option ℕ
  | [] => none
  | obj :: objects =>
    if obj.item?.isSome then some obj.byteLength
    else (firstItemEnd objects).map (obj.byteLength + ·)

theorem rxpdoPayloadToOd_error_of_short (codec : Float32Codec F) {payload : List Byte}
    {objects : List (PdoObject F)} (od : VirtualOdModel F)
    (h : payload.length < mappingSize objects) :
    ∃ e, (rxpdoPayloadToOd codec payload objects od).2 = .error e := by
  induction objects generalizing payload od with
  | nil => exact absurd h (Nat.not_lt_zero _)
  | cons obj objects ih =>
    have hsize : mappingSize (obj :: objects) = obj.byteLength + mappingSize objects := rfl
    rw [rxpdoPayloadToOd]
    by_cases hlength : payload.length < obj.byteLength
    · rw [if_pos hlength]
      exact ⟨_, rfl⟩
    · have hdrop : (payload.drop obj.byteLength).length < mappingSize objects := by
        rw [List.length_drop]
        omega
      rw [if_neg hlength]
      dsimp only
      cases obj.mapped? with
      | none => exact ih od hdrop
      | some item =>
        dsimp only
        cases decodeOdValue codec item.dataType (payload.take obj.byteLength) >>= fun value =>
            od.write item.index value item.subindex with
        | error e => exact ⟨e, rfl⟩
        | ok od' => exact ih od' hdrop

/-- Writes are counted. -/
theorem writeGeneration_le (codec : Float32Codec F) (payload : List Byte)
    (objects : List (PdoObject F)) (od : VirtualOdModel F) :
    od.writeGeneration ≤ (rxpdoPayloadToOd codec payload objects od).1.writeGeneration := by
  induction objects generalizing payload od with
  | nil => exact le_rfl
  | cons obj objects ih =>
    rw [rxpdoPayloadToOd]
    by_cases hlength : payload.length < obj.byteLength
    · rw [if_pos hlength]
    · rw [if_neg hlength]
      dsimp only
      cases obj.mapped? with
      | none => exact ih _ od
      | some item =>
        dsimp only
        cases hwrite : (decodeOdValue codec item.dataType (payload.take obj.byteLength) >>=
            fun value => od.write item.index value item.subindex) with
        | error e => exact le_rfl
        | ok od' =>
          obtain ⟨value, -, hwrite⟩ := Except.bind_eq_ok.mp hwrite
          unfold VirtualOdModel.write at hwrite
          split_ifs at hwrite
          obtain rfl := Except.ok.inj hwrite
          exact (Nat.le_succ _).trans
            (ih (payload.drop obj.byteLength) (od.written (item.index, item.subindex) value))

/-- **A short payload leaves the object dictionary alone exactly when it ends before the first
object.** -/
theorem rxpdoPayloadToOd_unchanged_iff (codec : Float32Codec F) {payload : List Byte}
    {objects : List (PdoObject F)} {od : VirtualOdModel F}
    (hindex : ∀ item ∈ mappedItems objects, item.index ≠ 0) (hdefines : od.Defines objects)
    (h : payload.length < mappingSize objects) :
    (rxpdoPayloadToOd codec payload objects od).1 = od ↔
      ∀ e, firstItemEnd objects = some e → payload.length < e := by
  induction objects generalizing payload with
  | nil => exact absurd h (Nat.not_lt_zero _)
  | cons obj objects ih =>
    have hsize : mappingSize (obj :: objects) = obj.byteLength + mappingSize objects := rfl
    cases hitem : obj.item? with
    | none =>
      have hitems : mappedItems (obj :: objects) = mappedItems objects :=
        List.filterMap_cons_none hitem
      have hend : firstItemEnd (obj :: objects) =
          (firstItemEnd objects).map (obj.byteLength + ·) := by
        rw [firstItemEnd, hitem]
        rfl
      rw [hend]
      by_cases hlength : payload.length < obj.byteLength
      · rw [rxpdoPayloadToOd, if_pos hlength]
        refine ⟨fun _ e he => ?_, fun _ => rfl⟩
        obtain ⟨e', -, rfl⟩ := Option.map_eq_some_iff.mp he
        omega
      · have hdrop : (payload.drop obj.byteLength).length < mappingSize objects := by
          rw [List.length_drop]
          omega
        rw [rxpdoPayloadToOd_padding codec objects od (by omega) hitem,
          ih (hitems ▸ hindex) (defines_of_cons hdefines) hdrop, List.length_drop]
        constructor
        · intro hends e he
          obtain ⟨e', he', rfl⟩ := Option.map_eq_some_iff.mp he
          have := hends e' he'
          omega
        · intro hends e he
          have := hends (obj.byteLength + e) (by rw [he]; rfl)
          omega
    | some item =>
      have hitems : mappedItems (obj :: objects) = item :: mappedItems objects :=
        List.filterMap_cons_some hitem
      have hend : firstItemEnd (obj :: objects) = some obj.byteLength := by
        rw [firstItemEnd, hitem]
        rfl
      rw [hend]
      by_cases hlength : payload.length < obj.byteLength
      · rw [rxpdoPayloadToOd, if_pos hlength]
        refine ⟨fun _ e he => ?_, fun _ => rfl⟩
        obtain rfl := Option.some.inj he
        exact hlength
      · have htake : (payload.take obj.byteLength).length = item.dataType.format.size := by
          rw [List.length_take_of_le (by omega), byteLength_of_item? hitem]
        obtain ⟨value, hdecode⟩ := decodeOdValue_of_length codec htake
        rw [rxpdoPayloadToOd_item codec objects (by omega) hitem
          (hindex item (by rw [hitems]; simp)) (hdefines item (by rw [hitems]; simp)) hdecode]
        constructor
        · -- the first write is counted, so that the dictionary is another
          intro hsame
          have hcount := writeGeneration_le codec (payload.drop obj.byteLength) objects
            (od.written (item.index, item.subindex) value)
          rw [hsame] at hcount
          exact absurd hcount (Nat.not_succ_le_self _)
        · intro hends
          exact absurd (hends _ rfl) hlength

/-! ## Both directions -/

/-- The value of an object in the dictionary. -/
def VirtualOdModel.valueOf (od : VirtualOdModel F) (item : PdoOdRole F) : OdValue F :=
  (od.entries (item.index, item.subindex)).getD (.int 0)

omit [PyFloat F] in
theorem read_of_isSome {od : VirtualOdModel F} {item : PdoOdRole F}
    (h : (od.entries (item.index, item.subindex)).isSome = true) :
    od.read item.index item.subindex = .ok (od.valueOf item) := by
  obtain ⟨value, hvalue⟩ := Option.isSome_iff_exists.mp h
  rw [VirtualOdModel.read, VirtualOdModel.valueOf, hvalue]
  rfl

theorem encodeObjects_congr (codec : Float32Codec F)
    {value value' : PdoObject F → Option (DataType × Except PyExc (OdValue F))}
    {objects : List (PdoObject F)} (h : ∀ obj ∈ objects, value obj = value' obj) :
    encodeObjects codec value objects = encodeObjects codec value' objects := by
  induction objects with
  | nil => rfl
  | cons obj objects ih =>
    rw [encodeObjects, encodeObjects, h obj (List.mem_cons_self ..),
      ih fun obj' hobj' => h obj' (List.mem_cons_of_mem _ hobj')]

theorem odToTxpdoPayload_eq (codec : Float32Codec F) {objects : List (PdoObject F)}
    {od : VirtualOdModel F} (hindex : ∀ item ∈ mappedItems objects, item.index ≠ 0)
    (hdefines : od.Defines objects) :
    odToTxpdoPayload codec objects od =
      encodeObjects codec
        (fun obj => obj.item?.map fun item => (item.dataType, .ok (od.valueOf item))) objects := by
  apply encodeObjects_congr
  intro obj hobj
  cases hitem : obj.item? with
  | none =>
    rw [PdoObject.mapped?, hitem]
    rfl
  | some item =>
    have hmem := mem_mappedItems hobj hitem
    rw [mapped?_of_item? hitem (hindex item hmem), Option.map_some, Option.map_some,
      read_of_isSome (hdefines item hmem)]

/-- Every boolean that is an integer other than `0` and `1` stands beside a value out of range. -/
def BooleansNarrow (codec : Float32Codec F) (objects : List (PdoObject F))
    (value : PdoOdRole F → OdValue F) : Prop :=
  ∀ item ∈ mappedItems objects, WideBoolean item.dataType (value item) →
    ∃ item' ∈ mappedItems objects, OutOfRange codec item'.dataType (value item') ∧
      ¬ WideBoolean item'.dataType (value item')

theorem outOfRange_of_wideBoolean (codec : Float32Codec F) {type : DataType} {value : OdValue F}
    (h : WideBoolean type value) : OutOfRange codec type value := by
  obtain ⟨rfl, i, hi, hne⟩ := h
  intro j hj
  rw [← Except.ok.inj (hi.symm.trans hj)]
  exact hne

/-- **Values out of range are refused exactly when the booleans are narrow.** -/
theorem encodeObjects_refuses_iff (codec : Float32Codec F) (objects : List (PdoObject F))
    (value : PdoOdRole F → OdValue F) :
    ((∃ item ∈ mappedItems objects, OutOfRange codec item.dataType (value item)) →
      ∃ e, encodeObjects codec
        (fun obj => obj.item?.map fun item => (item.dataType, .ok (value item))) objects = .error e) ↔
      BooleansNarrow codec objects value := by
  rw [encodeObjects_error_iff]
  constructor
  · intro h item hitem hwide
    exact h ⟨item, hitem, outOfRange_of_wideBoolean codec hwide⟩
  · rintro hnarrow ⟨item, hitem, hout⟩
    by_cases hwide : WideBoolean item.dataType (value item)
    · exact hnarrow item hitem hwide
    · exact ⟨item, hitem, hout, hwide⟩

/-- What the two sides make of the fields of a PDO, of an object dictionary and of a payload. -/
structure PdosExact (codec : Float32Codec F) (mapping : PdoMapping F)
    (source target : String → OdValue F) (od : VirtualOdModel F) (payload : List Byte) : Prop where
  /-- Fields in range arrive in the dictionary. -/
  rxpdo : (∀ item ∈ mappedItems mapping.objects,
      InRange codec item.dataType (source item.role)) →
    ∃ bytes, encodeMapping codec mapping.objects source = .ok bytes ∧
      bytes.length = mappingSize mapping.objects ∧
      ∃ od', rxpdoPayloadToOd codec bytes mapping.objects od = (od', .ok ()) ∧
        ∀ item ∈ mappedItems mapping.objects,
          od'.read item.index item.subindex = .ok (source item.role)
  /-- Objects in range arrive in the fields. -/
  txpdo : (∀ item ∈ mappedItems mapping.objects,
      InRange codec item.dataType (od.valueOf item)) →
    ∃ bytes, odToTxpdoPayload codec mapping.objects od = .ok bytes ∧
      bytes.length = mappingSize mapping.objects ∧
      ∃ target', decodeTxpdo codec bytes mapping.objects target = (target', .ok ()) ∧
        ∀ item ∈ mappedItems mapping.objects,
          od.read item.index item.subindex = .ok (target' item.role)
  /-- A value out of range makes no payload, on either side. -/
  rxpdo_refuses : (∃ item ∈ mappedItems mapping.objects,
      OutOfRange codec item.dataType (source item.role)) →
    ∃ e, encodeMapping codec mapping.objects source = .error e
  txpdo_refuses : (∃ item ∈ mappedItems mapping.objects,
      OutOfRange codec item.dataType (od.valueOf item)) →
    ∃ e, odToTxpdoPayload codec mapping.objects od = .error e
  /-- A short payload raises and changes neither the dictionary nor the fields. -/
  short : payload.length < mappingSize mapping.objects →
    (∃ e, rxpdoPayloadToOd codec payload mapping.objects od = (od, .error e)) ∧
      (∃ e, decodeRxpdo codec payload mapping.objects target = (target, .error e)) ∧
      ∃ e, decodeTxpdo codec payload mapping.objects target = (target, .error e)

/-- The two sides agree on everything but two things: `struct` packs every integer as a boolean, and
a short payload is written object by object, up to where it ends. -/
theorem pdosExact_iff (codec : Float32Codec F) (mapping : PdoMapping F)
    (source target : String → OdValue F) {od : VirtualOdModel F} (payload : List Byte)
    (hdefines : od.Defines mapping.objects) :
    PdosExact codec mapping source target od payload ↔
      BooleansNarrow codec mapping.objects (fun item => source item.role) ∧
        BooleansNarrow codec mapping.objects od.valueOf ∧
        (mappingSize mapping.objects ≤ payload.length ∨
          ∀ e, firstItemEnd mapping.objects = some e → payload.length < e) := by
  have htx := odToTxpdoPayload_eq codec mapping.index_ne_zero hdefines
  constructor
  · intro h
    refine ⟨?_, ?_, ?_⟩
    · exact (encodeObjects_refuses_iff codec _ _).mp h.rxpdo_refuses
    · refine (encodeObjects_refuses_iff codec _ _).mp ?_
      rw [← htx]
      exact h.txpdo_refuses
    · by_cases hshort : payload.length < mappingSize mapping.objects
      · obtain ⟨⟨e, he⟩, -⟩ := h.short hshort
        refine Or.inr ((rxpdoPayloadToOd_unchanged_iff codec mapping.index_ne_zero hdefines
          hshort).mp ?_)
        rw [he]
      · exact Or.inl (not_lt.mp hshort)
  · rintro ⟨hsource, hod, hpayload⟩
    refine ⟨?_, ?_, ?_, ?_, ?_⟩
    · intro hrange
      obtain ⟨bytes, hbytes, hlength, hholds⟩ :=
        encodeObjects_holds (fun item => source item.role) hrange
      obtain ⟨od', hresult, hread, -⟩ := rxpdoPayloadToOd_of_holds mapping.index_ne_zero
        mapping.keys_nodup hdefines hlength.ge hholds
      exact ⟨bytes, hbytes, hlength, od', hresult, hread⟩
    · intro hrange
      obtain ⟨bytes, hbytes, hlength, hholds⟩ := encodeObjects_holds _ hrange
      obtain ⟨target', hresult, hset, -⟩ := decodeMapping_of_holds
        (resetMappedValues (mappedItems mapping.objects) target) mapping.fields_nodup hholds
      refine ⟨bytes, htx.trans hbytes, hlength, target', ?_, ?_⟩
      · rw [decodeTxpdo, if_neg (by omega)]
        exact hresult
      · intro item hitem
        rw [hset item hitem]
        exact read_of_isSome (hdefines item hitem)
    · exact (encodeObjects_refuses_iff codec _ _).mpr hsource
    · rw [htx]
      exact (encodeObjects_refuses_iff codec _ _).mpr hod
    · intro hshort
      refine ⟨?_, ⟨_, if_pos hshort⟩, ⟨_, if_pos hshort⟩⟩
      obtain ⟨e, he⟩ := rxpdoPayloadToOd_error_of_short codec od hshort
      have hsame := (rxpdoPayloadToOd_unchanged_iff codec mapping.index_ne_zero hdefines
        hshort).mpr (hpayload.resolve_left (by omega))
      exact ⟨e, Prod.ext hsame he⟩

/-! ## A payload of two bytes -/

/-- A codec for mappings without floats. -/
def withoutFloats : Float32Codec ExtRat where
  pack _ := .ok 0
  unpack _ := .fin 0
  limit := .nan
  pack_unpack bits := ⟨0, rfl, rfl⟩
  pack_error_iff x := by
    constructor
    · rintro ⟨e, he⟩
      exact nomatch he
    · rintro ⟨-, hle⟩
      exact absurd hle (by cases pyAbs x <;> exact Bool.false_ne_true)

/-- The RxPDO of `csp_basic`. -/
def cspBasicRxpdo : PdoMapping ExtRat where
  objects := [.role ⟨"controlword", 0x6040, 0, .uint16, .int 0⟩,
    .role ⟨"mode_of_operation", 0x6060, 0, .int8, .int 8⟩,
    .role ⟨"target_position", 0x607A, 0, .int32, .int 0⟩,
    .role ⟨"velocity_offset", 0x60B1, 0, .int32, .int 0⟩]
  index_ne_zero := by decide
  fields_nodup := by decide
  keys_nodup := by decide

/-- The dictionary before the first process data. -/
def cspBasicOd : VirtualOdModel ExtRat :=
  ⟨fun key => if key = (0x6060, 0) then some (.int 8) else some (.int 0), none, 0⟩

theorem cspBasicOd_defines : cspBasicOd.Defines cspBasicRxpdo.objects := by
  intro item _
  show (if _ then _ else _ : Option (OdValue ExtRat)).isSome = true
  split_ifs <;> rfl

theorem pdosExact_iff_csp_basic :
    PdosExact withoutFloats cspBasicRxpdo (fun _ => .int 0) (fun _ => .int 0) cspBasicOd [0x0F] ↔
      BooleansNarrow withoutFloats cspBasicRxpdo.objects (fun _ => .int 0) ∧
        BooleansNarrow withoutFloats cspBasicRxpdo.objects cspBasicOd.valueOf ∧
        (mappingSize cspBasicRxpdo.objects ≤ [(0x0F : Byte)].length ∨
          ∀ e, firstItemEnd cspBasicRxpdo.objects = some e → [(0x0F : Byte)].length < e) :=
  pdosExact_iff withoutFloats cspBasicRxpdo (fun _ => .int 0) (fun _ => .int 0) [0x0F]
    cspBasicOd_defines

/-- Two of eleven bytes raise, but the controlword has been written. -/
theorem controlword_written_of_short :
    ¬ PdosExact withoutFloats cspBasicRxpdo (fun _ => .int 0) (fun _ => .int 0) cspBasicOd
      [0x0F, 0x00] := by
  intro h
  obtain ⟨⟨e, he⟩, -⟩ := h.short (by decide)
  have hentry : (rxpdoPayloadToOd withoutFloats [0x0F, 0x00] cspBasicRxpdo.objects
      cspBasicOd).1.entries (0x6040, 0) = cspBasicOd.entries (0x6040, 0) := by rw [he]
  exact absurd hentry (by decide +kernel)

end MotionServer
