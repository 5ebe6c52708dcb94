import MotionServer.Handlers.GatewayAccess

/-!
# Accesses to gateways as calls

* `AccessView.Buffers`: an access object holds the bytes that the last access left;
* `GatewayClient.Serves`: a client writes the fields of an access object as the object has them;
* `Mirrors`: what a station has in common with its direct counterpart;
* **`agree_readAccess`**, **`agree_writeAccess`**: an access is one call of the gateway;
* **`gatewayRun_direct`**: in every run, all the commands have the results of the calls.
-/

namespace MotionServer

variable {F G D : Type} [PyFloat F]

/-! ## What an access leaves -/

/-- The bytes are left in the object, with zeros up to its size. -/
structure AccessView.Buffers (v : AccessView) (o : AccessObject) (buffer : List Byte) : Prop where
  length : v.length = buffer.length
  data : v.data = buffer ++ List.replicate (o.dataBytes - buffer.length) 0
  room : buffer.length ≤ o.dataBytes

section Buffers

variable {v : AccessView} {o : AccessObject} {buffer payload : List Byte}

theorem AccessView.Buffers.length_data (h : v.Buffers o buffer) : v.data.length = o.dataBytes := by
  have hroom := h.room
  rw [h.data, List.length_append, List.length_replicate]
  omega

/-- The request gets the bytes that are left. -/
theorem AccessView.Buffers.takeTo (h : v.Buffers o buffer) : takeTo v.data v.length = buffer := by
  unfold MotionServer.takeTo
  rw [h.length, if_pos (Int.natCast_nonneg _), Int.toNat_natCast, h.data, List.take_left]

theorem AccessView.Buffers.answered (h : v.Buffers o buffer) (status : ℤ)
    (hroom : payload.length ≤ v.data.length) : (v.answered status payload).Buffers o payload where
  length := rfl
  data := by rw [← h.length_data]; rfl
  room := h.length_data ▸ hroom

end Buffers

/-- The client writes the fields of the object with the bytes that they have. -/
structure GatewayClient.Serves (client : GatewayClient) (o : AccessObject) : Prop where
  first : client.first = o.first.bytes
  second : client.second = o.second.bytes
  third : client.third = o.third.bytes
  length : client.length = o.length.bytes
  maxDataBytes : client.gateway.maxDataBytes = o.dataBytes

theorem apClient_serves : apClient.Serves apObject := ⟨rfl, rfl, rfl, rfl, rfl⟩

theorem isduClient_serves (indexStride slot : ℕ) : isduClient.Serves (isduObject indexStride slot) :=
  ⟨rfl, rfl, rfl, rfl, rfl⟩

/-- The address has room in the fields. -/
structure AccessTarget.Fits (target : AccessTarget) (client : GatewayClient) : Prop where
  first : Bytes.Fits false client.first target.first
  second : Bytes.Fits false client.second target.second
  third : Bytes.Fits false client.third target.third

/-! ## Transfers of an access -/

section Transfers

variable {c : StationConfig F G} {o : AccessObject} {v : AccessView} {s s' : GatewayStation F G}
  {client : GatewayClient} {target : AccessTarget}

theorem writeUint_run (sdo : AccessTransport D) {width : ℕ} {i : ℤ} (hi : Bytes.Fits false width i)
    (index subindex : ℕ) : sdo.writeUint width index subindex i =
      sdo.writeSdo index subindex (Bytes.ofIntLE width i) := by
  funext d
  unfold AccessTransport.writeUint
  rw [Prog.bind_run_ok (Prog.raiseIf_eq_ok (u := ()) |>.mpr ⟨not_not.mpr hi, rfl⟩)]

/-- A number that is read as it was packed. -/
theorem readUint_run {sdo : AccessTransport D} {width index subindex : ℕ} {i : ℤ} {d d' : D}
    (hwidth : 0 < width) (hi : Bytes.Fits false width i)
    (h : sdo.readSdo index subindex width d = (.ok (Bytes.ofIntLE width i), d')) :
    sdo.readUint width index subindex d = (.ok i, d') := by
  have hlength : (Bytes.ofIntLE width i).length = width := Bytes.length_ofIntLE width i
  unfold AccessTransport.readUint
  rw [Prog.bind_run_ok h,
    Prog.bind_run_ok (Prog.raiseIf_eq_ok (u := ()) |>.mpr ⟨not_lt.mpr hlength.ge, rfl⟩),
    List.take_of_length_le hlength.le, Bytes.toInt_ofIntLE hwidth hi]
  rfl

theorem mockTransport_write {index subindex : ℕ} {payload : List Byte}
    {r : Except AccessFailure Unit} (h : stationWriteSdo c index subindex payload s = (r, s')) :
    (mockTransport c).writeSdo index subindex payload s =
      (r.mapError (raiseSdoException "sdo_write"), s') := by
  change (tryCatch (stationWriteSdo c index subindex payload) _) s = _
  rw [Prog.tryCatch_throw_run, h]

theorem mockTransport_read {index subindex size : ℕ} {r : Except AccessFailure (List Byte)}
    (h : stationReadSdo c index subindex size s = (r, s')) :
    (mockTransport c).readSdo index subindex size s =
      (r.mapError (raiseSdoException "sdo_read"), s') := by
  change (tryCatch (stationReadSdo c index subindex size) _) s = _
  rw [Prog.tryCatch_throw_run, h]

/-- A field of the address or the length is written. -/
theorem mockTransport_field (hc : c.Sound) (ho : o ∈ c.objects) (hpublishes : c.Publishes s.inputs)
    (h : Carries s.od o v) {subindex : ℕ} (hlow : 2 ≤ subindex) (hhigh : subindex ≤ 6)
    (hwritable : subindex ≠ 5) {width : ℕ} (hwidth : width = o.width subindex) {i : ℤ}
    (hi : Bytes.Fits false width i) :
    ∃ s', (mockTransport c).writeUint width o.index subindex i s = (.ok (), s') ∧
      Carries s'.od o (v.set subindex i) ∧ Beside c o s s' ∧ s'.outside = s.outside := by
  subst hwidth
  obtain ⟨s', hrun, hcarries, hbeside, houtside⟩ :=
    stationWriteSdo_field hc ho hpublishes h hlow hhigh hwritable hi
  refine ⟨s', ?_, hcarries, hbeside, houtside⟩
  rw [writeUint_run _ hi]
  exact mockTransport_write hrun

/-- The object after the header of an access. -/
def AccessView.addressed (v : AccessView) (target : AccessTarget) (length : Option ℤ) : AccessView :=
  { v with
    first := target.first
    second := target.second
    third := target.third
    length := length.getD v.length }

/-- **The header of an access writes the address,** the length if there is one, and then the
direction. -/
theorem writeAccessHeader_run (hc : c.Sound) (ho : o ∈ c.objects) (hpublishes : c.Publishes s.inputs)
    (h : Carries s.od o v) (hserves : client.Serves o) (htarget : target.index = o.index)
    (hfits : target.Fits client) (length direction : Option ℤ)
    (hlength : ∀ l ∈ length, Bytes.Fits false client.length l) :
    ∃ s', writeAccessHeader client (mockTransport c) target length direction s =
        (direction.elim (pure ()) fun direction =>
          (mockTransport c).writeUint 1 o.index 1 direction : Station F G Unit) s' ∧
      Carries s'.od o (v.addressed target length) ∧ Beside c o s s' ∧ s'.outside = s.outside := by
  obtain ⟨s₁, hfirst, h₁, hbeside₁, houtside₁⟩ := mockTransport_field hc ho hpublishes h
    (by decide : 2 ≤ 2) (by decide) (by decide) hserves.first hfits.first
  have hpublishes₁ : c.Publishes s₁.inputs := hbeside₁.inputs ▸ hpublishes
  obtain ⟨s₂, hsecond, h₂, hbeside₂, houtside₂⟩ := mockTransport_field hc ho hpublishes₁ h₁
    (by decide : 2 ≤ 3) (by decide) (by decide) hserves.second hfits.second
  have hpublishes₂ : c.Publishes s₂.inputs := hbeside₂.inputs ▸ hpublishes₁
  obtain ⟨s₃, hthird, h₃, hbeside₃, houtside₃⟩ := mockTransport_field hc ho hpublishes₂ h₂
    (by decide : 2 ≤ 4) (by decide) (by decide) hserves.third hfits.third
  have hbeside := (hbeside₁.trans hc ho hbeside₂).trans hc ho hbeside₃
  have houtside := houtside₃.trans (houtside₂.trans houtside₁)
  unfold writeAccessHeader
  rw [htarget, Prog.bind_run_ok hfirst, Prog.bind_run_ok hsecond, Prog.bind_run_ok hthird]
  cases length with
  | none => exact ⟨s₃, rfl, h₃, hbeside, houtside⟩
  | some l =>
    have hpublishes₃ : c.Publishes s₃.inputs := hbeside₃.inputs ▸ hpublishes₂
    obtain ⟨s₄, hwrite, h₄, hbeside₄, houtside₄⟩ := mockTransport_field hc ho hpublishes₃ h₃
      (by decide : 2 ≤ 6) le_rfl (by decide) hserves.length (hlength l rfl)
    refine ⟨s₄, ?_, h₄, hbeside.trans hc ho hbeside₄, houtside₄.trans houtside⟩
    exact Prog.bind_run_ok hwrite

/-- The status is read as the gateway left it. -/
theorem pollStatus_run (h : Carries s.od o v) (polls : ℕ) :
    pollStatus (mockTransport c) o.index polls s =
      (if Bytes.Fits false 2 v.status then .ok v.status else .error (.python .structError), s) := by
  have hread : (mockTransport c).readUint 2 o.index 5 s =
      (if Bytes.Fits false 2 v.status then .ok v.status else .error (.python .structError), s) := by
    by_cases hfits : Bytes.Fits false 2 v.status
    · rw [if_pos hfits]
      exact readUint_run (by decide) hfits (mockTransport_read
        (stationReadSdo_field h (by decide : 1 ≤ 5) (by decide) rfl hfits))
    · rw [if_neg hfits]
      exact Prog.bind_run_error (mockTransport_read (stationReadSdo_status h hfits))
  induction polls with
  | zero => exact hread
  | succ polls ih =>
    unfold pollStatus
    by_cases hfits : Bytes.Fits false 2 v.status
    · rw [if_pos hfits] at hread ih
      rw [Prog.bind_run_ok hread, if_pos hfits]
      split_ifs
      · rfl
      · exact ih
    · rw [if_neg hfits] at hread
      rw [if_neg hfits]
      exact Prog.bind_run_error hread

end Transfers

/-! ## Stations and their direct counterparts -/

/-- The station holds what the gateways left, has no access object with another of the indices that
are addressed, and its modules have the inputs and outputs of the counterpart. -/
structure Mirrors (addressed : ℕ → Prop) (c : StationConfig F G) (s : GatewayStation F G)
    (t : DirectStation G) : Prop where
  objects : ∀ o ∈ c.objects, ∃ v, Carries s.od o v ∧ v.Buffers o (t.buffers o.index)
  absent : ∀ index, addressed index → index ∉ c.objects.map (·.index) → s.od (index, 2) = none
  inputs : s.inputs = t.inputs
  outputs : s.outputs = t.outputs
  outside : s.outside = t.outside
  settled : s.Settled c
  hasImage : s.HasImage c
  publishes : c.Publishes s.inputs

section Mirrors

variable {addressed : ℕ → Prop} {c : StationConfig F G} {s s' : GatewayStation F G}
  {t : DirectStation G} {o : AccessObject} {v : AccessView} {client : GatewayClient}
  {target : AccessTarget}

/-- What an access to one object leaves. -/
theorem Mirrors.of_beside (h : Mirrors addressed c s t) (hc : c.Sound) (ho : o ∈ c.objects)
    (hbeside : Beside c o s s') {buffer : List Byte} (hcarries : Carries s'.od o v)
    (hbuffers : v.Buffers o buffer) : Mirrors addressed c s' { t with
      buffers := Function.update t.buffers o.index buffer
      outside := s'.outside } where
  objects o' ho' := by
    dsimp only
    by_cases heq : o' = o
    · subst heq
      rw [Function.update_self]
      exact ⟨v, hcarries, hbuffers⟩
    · have hindex : o'.index ≠ o.index := fun hindex =>
        heq (List.inj_on_of_nodup_map hc.indices_nodup ho' ho hindex)
      obtain ⟨v', hcarries', hbuffers'⟩ := h.objects o' ho'
      rw [Function.update_of_ne hindex]
      exact ⟨v', hbeside.carries hc ho ho' heq hcarries', hbuffers'⟩
  absent index haddressed hindex := by
    apply hbeside.none
    · rintro rfl
      exact hindex (List.mem_map_of_mem ho)
    · exact h.absent index haddressed hindex
  inputs := hbeside.inputs.trans h.inputs
  outputs := (hbeside.outputs h.settled).trans h.outputs
  outside := rfl
  settled := hbeside.settled hc ho h.settled
  hasImage block hblock :=
    hbeside.hasBytes _ (hc.blocks_apart o ho block hblock) (h.hasImage block hblock)
  publishes := hbeside.inputs ▸ h.publishes

/-- The gateway gets the same request in both. -/
theorem AccessView.fields_eq {buffer : List Byte} (hbuffers : v.Buffers o buffer) (direction : ℤ)
    (hfirst : v.first = target.first) (hsecond : v.second = target.second)
    (hthird : v.third = target.third) : (v.set 1 direction).fields =
      ⟨direction, target.first, target.second, target.third, buffer.length, buffer⟩ := by
  change AccessFields.mk direction v.first v.second v.third v.length (takeTo v.data v.length) = _
  rw [hfirst, hsecond, hthird, hbuffers.takeTo, hbuffers.length]

/-- **A write of the direction, and the status, are one call of the gateway.** -/
theorem agreeAt_call (h : Mirrors addressed c s t) (hc : c.Sound) (ho : o ∈ c.objects)
    (hcarries : Carries s.od o v) (hbuffers : v.Buffers o (t.buffers o.index))
    (hfirst : v.first = target.first) (hsecond : v.second = target.second)
    (hthird : v.third = target.third) {direction : ℤ} (hdirection : Bytes.Fits false 1 direction)
    (polls : ℕ) : Prog.AgreeAt (Mirrors addressed c) (do
      (mockTransport c).writeUint 1 o.index 1 direction
      pollStatus (mockTransport c) o.index polls) (DirectStation.call c o target direction) s t := by
  have hfields := AccessView.fields_eq hbuffers direction hfirst hsecond hthird
  have hset : (v.set 1 direction).Buffers o (t.buffers o.index) :=
    ⟨hbuffers.length, hbuffers.data, hbuffers.room⟩
  have hlength : v.data.length = o.dataBytes := hbuffers.length_data
  obtain ⟨r, s', hwrite, hanswered, hbeside⟩ :=
    stationWriteSdo_direction hc ho h.publishes hcarries hdirection
  have hmock : (mockTransport c).writeUint 1 o.index 1 direction s =
      (r.mapError (raiseSdoException "sdo_write"), s') := by
    rw [writeUint_run _ hdirection]
    exact mockTransport_write hwrite
  have hkept {v' : AccessView} {buffer : List Byte} (hcarries' : Carries s'.od o v')
      (hbuffers' : v'.Buffers o buffer) := h.of_beside hc ho hbeside hcarries' hbuffers'
  have hsame : Function.update t.buffers o.index (t.buffers o.index) = t.buffers :=
    Function.update_eq_self ..
  unfold Prog.AgreeAt DirectStation.call
  rw [Prog.bind_run_ok (Prog.get_run t), ← hfields]
  cases hanswered with
  | @raised e hanswer hcarries' =>
    have hrespond : DirectStation.respond c (o.request (v.set 1 direction).fields) t =
        (.error (raiseSdoException "sdo_write" (.python e)), { t with outside := s'.outside }) := by
      unfold DirectStation.respond
      rw [← h.outside, hanswer]
      rfl
    rw [Prog.bind_run_error hmock, Prog.bind_run_error hrespond]
    have hmirrors := hkept hcarries' hset
    rw [hsame] at hmirrors
    exact ⟨rfl, hmirrors⟩
  | @overlong status payload hanswer hlong hcarries' =>
    have hrespond : DirectStation.respond c (o.request (v.set 1 direction).fields) t =
        (.ok (status, payload), { t with outside := s'.outside }) := by
      unfold DirectStation.respond
      rw [← h.outside, hanswer]
      rfl
    rw [Prog.bind_run_error hmock, Prog.bind_run_ok hrespond, Prog.bind_run, Prog.raiseIf_run,
      if_pos (hlength ▸ hlong)]
    have hmirrors := hkept hcarries' hset
    rw [hsame] at hmirrors
    exact ⟨rfl, hmirrors⟩
  | @answered status payload hanswer hroom hcarries' =>
    have hrespond : DirectStation.respond c (o.request (v.set 1 direction).fields) t =
        (.ok (status, payload), { t with outside := s'.outside }) := by
      unfold DirectStation.respond
      rw [← h.outside, hanswer]
      rfl
    have hmirrors := hkept hcarries' (hset.answered status hroom)
    rw [Prog.bind_run_ok hmock, pollStatus_run hcarries' polls, Prog.bind_run_ok hrespond,
      Prog.bind_run_ok (Prog.raiseIf_eq_ok (u := ()) |>.mpr ⟨hlength ▸ not_lt.mpr hroom, rfl⟩),
      Prog.bind_run_ok (Prog.modify_run _ _), Prog.bind_run, Prog.raiseIf_run]
    change (if Bytes.Fits false 2 status then _ else _) = _ ∧ _
    by_cases hfits : Bytes.Fits false 2 status
    · rw [if_pos hfits, if_neg (not_not.mpr hfits)]
      exact ⟨rfl, hmirrors⟩
    · rw [if_neg hfits, if_pos hfits]
      exact ⟨rfl, hmirrors⟩

/-! ## Reads and writes -/

/-- The target is an index that requests may name, and the client writes its fields as the object
with the index has them. -/
structure AccessTarget.Served (target : AccessTarget) (addressed : ℕ → Prop)
    (c : StationConfig F G) (client : GatewayClient) : Prop where
  serves : ∀ o ∈ c.objects, o.index = target.index → client.Serves o
  fits : target.Fits client
  known : target.index ∉ c.objects.map (·.index) → addressed target.index

omit [PyFloat F] in
theorem findObject_cases [PyFloat F] (c : StationConfig F G) (index : ℕ) :
    (∃ o ∈ c.objects, o.index = index ∧ DirectStation.findObject c index = .ok o) ∨
      index ∉ c.objects.map (·.index) ∧
        DirectStation.findObject c index = .error (.objectNotFound index 2) := by
  unfold DirectStation.findObject
  cases hfind : c.objects.find? fun o => o.index = index with
  | some o =>
    have hindex := List.find?_some hfind
    rw [decide_eq_true_eq] at hindex
    exact Or.inl ⟨o, List.mem_of_find?_eq_some hfind, hindex, rfl⟩
  | none =>
    refine Or.inr ⟨fun hmem => ?_, rfl⟩
    obtain ⟨o, ho, hindex⟩ := List.mem_map.mp hmem
    have hne := List.find?_eq_none.mp hfind o ho
    rw [decide_eq_true_eq] at hne
    exact hne hindex

/-- An access to an object that is not there. -/
theorem writeAccessHeader_absent (hfits : target.Fits client) (habsent : s.od (target.index, 2) = none)
    (length direction : Option ℤ) :
    writeAccessHeader client (mockTransport c) target length direction s =
      (.error (.objectNotFound target.index 2), s) := by
  have hwrite : stationWriteSdo c target.index 2 (Bytes.ofIntLE client.first target.first) s =
      (.error (.objectNotFound target.index 2), s) := by
    unfold stationWriteSdo VirtualOdBridge.writeSdo
    rw [Prog.bind_run_ok (Prog.get_run s), habsent]
    rfl
  apply Prog.bind_run_error
  rw [writeUint_run _ hfits.first]
  exact mockTransport_write hwrite

theorem Mirrors.addressed_object (h : Mirrors addressed c s t) (hc : c.Sound) (ho : o ∈ c.objects)
    (hbeside : Beside c o s s') (houtside : s'.outside = s.outside) (hcarries : Carries s'.od o v)
    (hbuffers : v.Buffers o (t.buffers o.index)) : Mirrors addressed c s' t := by
  have hkept := h.of_beside hc ho hbeside hcarries hbuffers
  rw [Function.update_eq_self, houtside, h.outside] at hkept
  exact hkept

omit [PyFloat F] in
theorem take_buffer (buffer : List Byte) (length : ℤ) {size : ℕ} (hroom : buffer.length ≤ size) :
    (buffer ++ List.replicate (size - buffer.length) 0).take
      (min (min length (max 0 buffer.length)) size).toNat = buffer.take length.toNat := by
  have hle : (min (min length (max 0 (buffer.length : ℤ))) size).toNat ≤ buffer.length := by omega
  rw [List.take_append_of_le_length hle]
  rcases le_or_gt length buffer.length with hshort | hlong
  · congr 1
    omega
  · rw [List.take_of_length_le (by omega), List.take_of_length_le (by omega)]

/-- What a read does after the status. -/
theorem agree_readings (hc : client.Serves o) (ho : o ∈ c.objects) (length status : ℤ) : Prog.Agree (Mirrors addressed c) (do
      Prog.lift (requireSuccess client.operation status)
      let dataLength ← (mockTransport c).readUint client.length o.index 6
      let payload ← (mockTransport c).readSdo o.index 7 client.gateway.maxDataBytes
      pure (AccessReading.mk status dataLength (payload.take
        (min (min length (max 0 dataLength)) client.gateway.maxDataBytes).toNat))) (do
      Prog.lift (requireSuccess client.operation status)
      let t ← Prog.get
      let buffer := t.buffers o.index
      pure (AccessReading.mk status buffer.length (buffer.take length.toNat))) := by
  refine Prog.Agree.lift_bind fun _ _ s t h => ?_
  obtain ⟨v, hcarries, hbuffers⟩ := h.objects o ho
  let buffer := t.buffers o.index
  have hfits : Bytes.Fits false (o.width 6) buffer.length := by
    have hroom := hbuffers.room.trans_lt o.dataBytes_lt
    exact ⟨Int.natCast_nonneg _, Int.ofNat_lt.mpr hroom⟩
  have hpos : 0 < client.length := by
    rw [hc.length]
    cases o.length <;> decide
  have hlength : (mockTransport c).readUint client.length o.index 6 s =
      (.ok (buffer.length : ℤ), s) := by
    have hentry : v.entry (F := F) 6 = .number (.int buffer.length) :=
      congrArg (fun i => OdEntryValue.number (.int i)) hbuffers.length
    have hwidth : client.length = o.width 6 := hc.length
    rw [hwidth] at hpos ⊢
    exact readUint_run hpos hfits (mockTransport_read
      (stationReadSdo_field hcarries (by decide : 1 ≤ 6) le_rfl hentry hfits))
  have hdata : (mockTransport c).readSdo o.index 7 client.gateway.maxDataBytes s =
      (.ok v.data, s) := by
    rw [hc.maxDataBytes]
    exact mockTransport_read (stationReadSdo_data hcarries hbuffers.length_data)
  have htake := take_buffer buffer length hbuffers.room
  rw [← hbuffers.data] at htake
  unfold Prog.AgreeAt
  rw [Prog.bind_run_ok hlength, Prog.bind_run_ok hdata, Prog.bind_run_ok (Prog.get_run t),
    hc.maxDataBytes, htake]
  exact ⟨rfl, h⟩

/-- **A read of a parameter is one call of the gateway.** -/
theorem agree_readAccess (hc : c.Sound) (hserved : target.Served addressed c client)
    (polls : ℕ) (length : ℤ) : Prog.Agree (Mirrors addressed c)
      (readAccess client (mockTransport c) polls target length)
      (DirectStation.read c client target length) := by
  intro s t h
  rcases findObject_cases c target.index with ⟨o, ho, hindex, hfind⟩ | ⟨hindex, hfind⟩
  · have hserves := hserved.serves o ho hindex
    obtain ⟨v, hcarries, hbuffers⟩ := h.objects o ho
    obtain ⟨s₁, hheader, hcarries₁, hbeside, houtside⟩ := writeAccessHeader_run hc ho h.publishes
      hcarries hserves hindex.symm hserved.fits none (some 0) (fun l hl => nomatch hl)
    have hbuffers₁ : (v.addressed target none).Buffers o (t.buffers o.index) :=
      ⟨hbuffers.length, hbuffers.data, hbuffers.room⟩
    have h₁ := h.addressed_object hc ho hbeside houtside hcarries₁ hbuffers₁
    have hcall := (agreeAt_call h₁ hc ho hcarries₁ hbuffers₁ rfl rfl rfl (by decide : Bytes.Fits
      false 1 0) polls).bind (agree_readings hserves ho length)
    rw [bind_assoc] at hcall
    unfold Prog.AgreeAt at hcall ⊢
    unfold readAccess DirectStation.read
    rw [Prog.bind_run_congr hheader, hfind, ← hindex]
    exact hcall
  · have hheader := writeAccessHeader_absent (c := c) hserved.fits
      (h.absent _ (hserved.known hindex) hindex) none (some 0)
    unfold Prog.AgreeAt readAccess DirectStation.read
    rw [Prog.bind_run_error hheader, hfind]
    exact ⟨rfl, h⟩

/-- **A write of a parameter is one call of the gateway,** which gets the bytes. -/
theorem agree_writeAccess (hc : c.Sound) (hserved : target.Served addressed c client)
    (polls : ℕ) {payload : List Byte} (hpayload : payload.length ≤ client.gateway.maxDataBytes) :
    Prog.Agree (Mirrors addressed c) (writeAccess client (mockTransport c) polls target payload)
      (DirectStation.write c client target payload) := by
  intro s t h
  rcases findObject_cases c target.index with ⟨o, ho, hindex, hfind⟩ | ⟨hindex, hfind⟩
  · have hserves := hserved.serves o ho hindex
    have hroom : payload.length ≤ o.dataBytes := hserves.maxDataBytes ▸ hpayload
    have hlength : ∀ l ∈ some (payload.length : ℤ), Bytes.Fits false client.length l := by
      rintro l ⟨⟩
      rw [hserves.length]
      exact ⟨Int.natCast_nonneg _, Int.ofNat_lt.mpr (hroom.trans_lt o.dataBytes_lt)⟩
    obtain ⟨v, hcarries, hbuffers⟩ := h.objects o ho
    obtain ⟨s₁, hheader, hcarries₁, hbeside₁, houtside₁⟩ := writeAccessHeader_run hc ho h.publishes
      hcarries hserves hindex.symm hserved.fits (some payload.length) none hlength
    obtain ⟨s₂, hdata, hcarries₂, hbeside₂, houtside₂⟩ := stationWriteSdo_data hc ho
      (hbeside₁.inputs ▸ h.publishes) hcarries₁
      (payload ++ List.replicate (client.gateway.maxDataBytes - payload.length) 0)
    have hbeside := hbeside₁.trans hc ho hbeside₂
    let written : AccessView := { v.addressed target (some payload.length) with
      data := payload ++ List.replicate (client.gateway.maxDataBytes - payload.length) 0 }
    have hbuffers₂ : written.Buffers o payload :=
      ⟨rfl, by rw [← hserves.maxDataBytes], hroom⟩
    have h₂ := h.of_beside hc ho hbeside hcarries₂ hbuffers₂
    rw [houtside₂.trans houtside₁, h.outside] at h₂
    have hleft : written.Buffers o (Function.update t.buffers o.index payload o.index) := by
      rw [Function.update_self]
      exact hbuffers₂
    have hcall := (agreeAt_call h₂ hc ho hcarries₂ hleft rfl rfl rfl
      (by decide : Bytes.Fits false 1 1) polls).bind fun status => Prog.Agree.lift_bind
        (x := requireSuccess client.operation status) fun _ _ => Prog.Agree.pure status
    rw [bind_assoc] at hcall
    unfold Prog.AgreeAt at hcall ⊢
    unfold writeAccess DirectStation.write
    have hwritten : writeAccessHeader client (mockTransport c) target (some payload.length) none s =
        (.ok (), s₁) := hheader
    have hsent : (mockTransport c).writeSdo o.index 7
        (payload ++ List.replicate (client.gateway.maxDataBytes - payload.length) 0) s₁ =
        (.ok (), s₂) := mockTransport_write hdata
    rw [Prog.bind_run_ok hwritten, hfind, ← hindex, Prog.bind_run_ok hsent]
    exact hcall
  · have hheader := writeAccessHeader_absent (c := c) hserved.fits
      (h.absent _ (hserved.known hindex) hindex) (some payload.length) none
    unfold Prog.AgreeAt writeAccess DirectStation.write
    rw [Prog.bind_run_error hheader, hfind]
    exact ⟨rfl, h⟩

/-! ## Exchanges and inputs -/

/-- **An exchange brings the inputs of the modules,** and leaves the access objects alone. -/
theorem agree_exchange (hc : c.Sound) {payload : List Byte} (hlength : payload.length = c.rx.byteSize) :
    Prog.Agree (Mirrors addressed c) (stationExchange c payload)
      (DirectStation.exchange c payload) := by
  intro s t h
  obtain ⟨image, himage, hsize⟩ := h.publishes
  obtain ⟨s', hrun, hexchanged⟩ := stationExchange_run hc himage hsize h.hasImage hlength
  have hod : ∀ key, key ∉ (c.rx.blocks ++ c.tx.blocks).map CPXPdoBlock.key → s'.od key = s.od key :=
    hexchanged.od
  rw [h.inputs] at himage
  unfold Prog.AgreeAt DirectStation.exchange
  rw [hrun, Prog.bind_run_ok (Prog.modify_run _ t), Prog.bind_run_ok (Prog.get_run _), himage]
  refine ⟨rfl, ?_, ?_, ?_, ?_, ?_, hexchanged.settled hc, hexchanged.hasImage, ?_⟩
  · intro o ho
    obtain ⟨v, hcarries, hbuffers⟩ := h.objects o ho
    refine ⟨v, hcarries.congr fun k => hod _ fun hmem => ?_, hbuffers⟩
    obtain ⟨block, hblock, hkey⟩ := List.mem_map.mp hmem
    exact hc.blocks_apart o ho block hblock (congrArg Prod.fst hkey)
  · intro index haddressed hindex
    have habsent := h.absent index haddressed hindex
    rw [hod, habsent]
    intro hmem
    obtain ⟨block, hblock, hkey⟩ := List.mem_map.mp hmem
    obtain ⟨definition, old, hentry⟩ := h.hasImage block hblock
    rw [hkey, habsent] at hentry
    cases hentry
  · exact hexchanged.inputs.trans h.inputs
  · rw [hexchanged.outputs, h.outputs]
    rfl
  · exact hexchanged.outside.trans h.outside
  · rw [hexchanged.inputs]
    exact h.publishes

/-- The modules get other inputs. -/
theorem agree_setInputs {inputs : ℕ → ChannelValues} (hpublishes : c.Publishes inputs) :
    Prog.Agree (Mirrors addressed c)
      (Prog.modify fun s => { s with inputs := inputs } : Station F G Unit)
      (Prog.modify fun t => { t with inputs := inputs }) :=
  fun _ _ h => ⟨rfl, h.objects, h.absent, rfl, h.outputs, h.outside, h.settled, h.hasImage, hpublishes⟩

end Mirrors

/-! ## The bus -/

namespace GatewayBus

variable (bus : GatewayBus F G)

/-- The slave is an I/O station. -/
def IsStation (k : ℕ) : Prop := ∃ d ∈ ioDevices bus.slaves, d.slaveIndex = k

/-- The index that an IO-Link request for one of the modules `1..255` leads to. -/
def Addresses (index : ℕ) : Prop :=
  ∃ slave ∈ bus.slaves, ∃ config, slave.config = some config ∧ ∃ m : ℤ, 1 ≤ m ∧ m ≤ 0xFF ∧
    (isduAccessObjectIndex m config.modulePdoIndexStride).toNat = index

/-- The stations are set up apart from one another, and no IO-Link request is addressed to the
access object of the AP parameters. -/
structure Sound : Prop where
  station : ∀ k, bus.IsStation k → (bus.station k).Sound
  slots_lt : ∀ k, bus.IsStation k → ∀ m ∈ (bus.station k).modules, m.slot < 0xFFFF
  apart : ∀ index, bus.Addresses index → index ≠ apObject.index

/-- What the stations have in common with their direct counterparts. -/
def Mirrored : (ℕ → GatewayStation F G) → (ℕ → DirectStation G) → Prop :=
  Prog.Related bus.IsStation fun k => Mirrors bus.Addresses (bus.station k)

end GatewayBus

section Bus

variable {bus : GatewayBus F G} {codec : Float32Codec F} {repr : Value F → String}
  {message : Message F}

omit [PyFloat F] in
theorem inAccess_eq_ok {α : Type} {x : Except PyExc α} {a : α} (h : inAccess x = .ok a) :
    x = .ok a := by
  cases x with
  | ok b => exact congrArg Except.ok (Except.ok.inj h)
  | error e => cases h

omit [PyFloat F] in
theorem mem_ioDevices_of_entry {slaves : List BusSlave} {entry : BusSlave × ℕ}
    (h : entry ∈ ioSlaves slaves) : ∃ d ∈ ioDevices slaves, d.slaveIndex = entry.2 := by
  have hmem : entry.2 ∈ (ioDevices slaves).map IoDevice.slaveIndex := by
    rw [map_slaveIndex_ioDevices]
    exact List.mem_map_of_mem h
  exact List.mem_map.mp hmem

omit [PyFloat F] in
/-- A device that is selected is a slave of the bus. -/
theorem slave_mem_of_selectedDevice {slaves : List BusSlave} {io : Value F} {device : IoDevice}
    (h : selectedDevice repr slaves io = .ok device) : device.slave ∈ slaves := by
  have hslave {d : IoDevice} (hd : d ∈ ioDevices slaves) : d.slave ∈ slaves := by
    obtain ⟨entry, hentry, rfl⟩ := List.mem_map.mp hd
    have hio : entry.1 ∈ ioSlaves slaves := List.fst_mem_of_mem_zipIdx hentry
    exact List.fst_mem_of_mem_zipIdx (List.mem_filter.mp hio).1
  have hid {id : String} (hd : deviceWithId slaves id = .ok device) : device.slave ∈ slaves := by
    unfold deviceWithId at hd
    split at hd
    · rename_i d hfind
      obtain rfl := Except.ok.inj hd
      exact hslave (List.mem_of_find?_eq_some hfind)
    · cases hd
  unfold selectedDevice at h
  split at h
  · split at h
    · rename_i d hdevices
      obtain rfl := Except.ok.inj h
      exact hslave (hdevices ▸ List.mem_singleton_self d)
    · cases h
  · exact hid h

/-- A request goes to an I/O station. -/
theorem validateIoSelector_isStation {io : Value F} {k : ℕ}
    (h : validateIoSelector repr bus.slaves io = .ok k) : bus.IsStation k := by
  have hindex {i : ℤ} (hi : slaveIndexByIoIndex bus.slaves i = .ok k) : bus.IsStation k := by
    unfold slaveIndexByIoIndex at hi
    split_ifs at hi
    split at hi
    · rename_i entry hentry
      obtain rfl := Except.ok.inj hi
      exact mem_ioDevices_of_entry (List.mem_of_getElem? hentry)
    · cases hi
  have hk := validateIoSelector_ok h
  unfold slaveIndex at hk
  split at hk
  · exact hindex hk
  · unfold slaveIndexOfText at hk
    split_ifs at hk
    · split at hk
      · exact hindex hk
      · cases hk
    · obtain ⟨device, hdevice, hk⟩ := Except.bind_eq_ok.mp hk
      obtain rfl := Except.ok.inj hk
      unfold deviceWithId at hdevice
      split at hdevice
      · rename_i d hfind
        obtain rfl := Except.ok.inj hdevice
        exact ⟨d, List.mem_of_find?_eq_some hfind, rfl⟩
      · cases hdevice

theorem validateApTarget_ok {request : ApRequest F} {k : ℕ}
    (h : validateApTarget bus repr request = .ok k) : bus.IsStation k ∧
      (request.module.val = 0 ∨ ∃ m ∈ (bus.station k).modules, m.slot = request.module.val) := by
  obtain ⟨k', hk', h⟩ := Except.bind_eq_ok.mp h
  cases hdevice : selectedDeviceAt bus.slaves k' with
  | error e =>
    rw [hdevice] at h
    dsimp only at h
    split_ifs at h
  | ok device =>
    rw [hdevice] at h
    dsimp only at h
    split_ifs at h with hmodule
    obtain rfl := Except.ok.inj h
    have hindex : device.slaveIndex = k' := by
      unfold selectedDeviceAt at hdevice
      split at hdevice
      · rename_i d hfind
        obtain rfl := Except.ok.inj hdevice
        simpa using List.find?_some hfind
      · cases hdevice
    exact ⟨validateIoSelector_isStation hk', hindex ▸ hmodule⟩

omit [PyFloat F] in
/-- The fields of a parsed AP request are in range. -/
theorem parseApParameterRequest_ok [PyFloat F] {requireValue : Bool} {request : ApRequest F}
    (h : parseApParameterRequest repr message requireValue = .ok request) :
    request.apAccessModule = request.module.val + 1 ∧
      (0 ≤ request.module.val ∧ request.module.val ≤ 0xFFFF) ∧
      (0 ≤ request.parameterId.val ∧ request.parameterId.val ≤ 0xFFFFFFFF) ∧
      (0 ≤ request.inst.val ∧ request.inst.val ≤ 0xFFFF) ∧
      (0 ≤ request.length.val ∧ request.length.val ≤ apGateway.maxDataBytes) := by
  unfold parseApParameterRequest at h
  split at h
  · cases h
  split at h
  · cases h
  obtain ⟨_, -, h⟩ := Except.bind_eq_ok.mp h
  obtain ⟨_, -, h⟩ := Except.bind_eq_ok.mp h
  obtain ⟨module, -, h⟩ := Except.bind_eq_ok.mp h
  obtain ⟨parameterId, -, h⟩ := Except.bind_eq_ok.mp h
  obtain ⟨inst, -, h⟩ := Except.bind_eq_ok.mp h
  obtain ⟨length, -, h⟩ := Except.bind_eq_ok.mp h
  obtain ⟨_, hmodule, h⟩ := Except.bind_eq_ok.mp h
  obtain ⟨_, hparameter, h⟩ := Except.bind_eq_ok.mp h
  obtain ⟨_, hinst, h⟩ := Except.bind_eq_ok.mp h
  obtain ⟨_, hlength, h⟩ := Except.bind_eq_ok.mp h
  obtain ⟨_, -, h⟩ := Except.bind_eq_ok.mp h
  obtain ⟨_, -, h⟩ := Except.bind_eq_ok.mp h
  obtain rfl := Except.ok.inj h
  exact ⟨rfl, requireRange_eq_ok hmodule, requireRange_eq_ok hparameter, requireRange_eq_ok hinst,
    requireRange_eq_ok hlength⟩

omit [PyFloat F] in
/-- The fields of a parsed IO-Link request are in range. -/
theorem parseIsduRequest_fits {requireValue : Bool} {request : IsduRequest F}
    (h : parseIsduRequest repr message requireValue = .ok request) :
    (1 ≤ request.module.val ∧ request.module.val ≤ 0xFF) ∧
      (0 ≤ request.port.val ∧ request.port.val ≤ 0xFF) ∧
      (0 ≤ request.index.val ∧ request.index.val ≤ 0xFFFF) ∧
      (0 ≤ request.subindex.val ∧ request.subindex.val ≤ 0xFF) ∧
      (0 ≤ request.length.val ∧ request.length.val ≤ isduGateway.maxDataBytes) := by
  unfold parseIsduRequest at h
  split at h
  · cases h
  obtain ⟨_, -, h⟩ := Except.bind_eq_ok.mp h
  obtain ⟨_, -, h⟩ := Except.bind_eq_ok.mp h
  obtain ⟨_, -, h⟩ := Except.bind_eq_ok.mp h
  obtain ⟨_, -, h⟩ := Except.bind_eq_ok.mp h
  obtain ⟨module, -, h⟩ := Except.bind_eq_ok.mp h
  obtain ⟨port, -, h⟩ := Except.bind_eq_ok.mp h
  obtain ⟨index, -, h⟩ := Except.bind_eq_ok.mp h
  obtain ⟨subindex, -, h⟩ := Except.bind_eq_ok.mp h
  obtain ⟨length, -, h⟩ := Except.bind_eq_ok.mp h
  obtain ⟨_, hmodule, h⟩ := Except.bind_eq_ok.mp h
  obtain ⟨_, hport, h⟩ := Except.bind_eq_ok.mp h
  obtain ⟨_, hindex, h⟩ := Except.bind_eq_ok.mp h
  obtain ⟨_, hsubindex, h⟩ := Except.bind_eq_ok.mp h
  obtain ⟨_, hlength, h⟩ := Except.bind_eq_ok.mp h
  obtain ⟨_, -, h⟩ := Except.bind_eq_ok.mp h
  obtain ⟨_, -, h⟩ := Except.bind_eq_ok.mp h
  obtain rfl := Except.ok.inj h
  exact ⟨requireRange_eq_ok hmodule, requireRange_eq_ok hport, requireRange_eq_ok hindex,
    requireRange_eq_ok hsubindex, requireRange_eq_ok hlength⟩

omit [PyFloat F] in
/-- A payload that fits is within the limit of the gateway. -/
theorem fitPayload_length {g : PayloadGateway} {dataType : String} {length : PyInt}
    {payload fitted : List Byte} (h : fitPayload g message dataType length payload = .ok fitted)
    (hlength : length.val ≤ g.maxDataBytes) (hpayload : payload.length ≤ g.maxDataBytes) :
    fitted.length ≤ g.maxDataBytes := by
  unfold fitPayload at h
  dsimp only at h
  split_ifs at h with hraw hlong
  · obtain rfl := Except.ok.inj h
    rw [List.length_append, List.length_replicate]
    omega
  · obtain rfl := Except.ok.inj h
    exact hpayload

/-- An AP request is served at the access object of the AP parameters. -/
theorem apTarget_served (hbus : bus.Sound) {requireValue : Bool} {request : ApRequest F} {k : ℕ}
    (hparse : parseApParameterRequest repr message requireValue = .ok request)
    (hvalid : validateApTarget bus repr request = .ok k) :
    request.target.Served bus.Addresses (bus.station k) apClient := by
  obtain ⟨hstation, hmodule⟩ := validateApTarget_ok hvalid
  obtain ⟨haccess, hrange, hparameter, hinst, -⟩ := parseApParameterRequest_ok hparse
  have hlt : request.module.val < 0xFFFF := by
    rcases hmodule with hzero | ⟨m, hm, hslot⟩
    · omega
    · have hslots := hbus.slots_lt k hstation m hm
      omega
  have hmem : apObject ∈ (bus.station k).objects := List.mem_cons_self
  constructor
  · intro o ho hindex
    have heq := List.inj_on_of_nodup_map (hbus.station k hstation).indices_nodup ho hmem hindex
    exact heq ▸ apClient_serves
  · constructor
    · change 0 ≤ request.apAccessModule ∧ request.apAccessModule < ((256 ^ 2 : ℕ) : ℤ)
      rw [haccess]
      omega
    · change 0 ≤ request.parameterId.val ∧ request.parameterId.val < ((256 ^ 4 : ℕ) : ℤ)
      omega
    · change 0 ≤ request.inst.val ∧ request.inst.val < ((256 ^ 2 : ℕ) : ℤ)
      omega
  · exact fun hindex => absurd (List.mem_map_of_mem hmem) hindex

/-- An IO-Link request is served at the access object of the module, if there is one. -/
theorem isduTarget_served (hbus : bus.Sound) {requireValue : Bool} {request : IsduRequest F}
    {config : CpxIoConfig} (hparse : parseIsduRequest repr message requireValue = .ok request)
    (hconfig : ioConfigForRequest repr bus.slaves request.io = .ok config) (k : ℕ) :
    (request.target
      (isduAccessObjectIndex request.module.val config.modulePdoIndexStride).toNat).Served
        bus.Addresses (bus.station k) isduClient := by
  obtain ⟨hmodule, hport, hindex, hsubindex, -⟩ := parseIsduRequest_fits hparse
  obtain ⟨device, hdevice, hdeviceConfig⟩ := ioConfigForRequest_ok hconfig
  have hslave : device.slave ∈ bus.slaves := slave_mem_of_selectedDevice hdevice
  have haddresses : bus.Addresses
      (isduAccessObjectIndex request.module.val config.modulePdoIndexStride).toNat :=
    ⟨device.slave, hslave, config, hdeviceConfig, request.module.val, hmodule.1, hmodule.2, rfl⟩
  constructor
  · intro o ho hobject
    rcases List.mem_cons.mp ho with rfl | ho
    · exact absurd hobject.symm (hbus.apart _ haddresses)
    · obtain ⟨m, -, rfl⟩ := List.mem_map.mp ho
      exact isduClient_serves _ _
  · constructor
    · change 0 ≤ request.port.val ∧ request.port.val < ((256 ^ 1 : ℕ) : ℤ)
      omega
    · change 0 ≤ request.index.val ∧ request.index.val < ((256 ^ 2 : ℕ) : ℤ)
      omega
    · change 0 ≤ request.subindex.val ∧ request.subindex.val < ((256 ^ 1 : ℕ) : ℤ)
      omega
  · exact fun _ => haddresses

/-! ## Commands -/

section Commands

variable (hbus : bus.Sound) (codec : Float32Codec F) (repr : Value F → String) (polls : ℕ)
  (message : Message F)

include hbus

theorem agree_readApParameter : Prog.Agree bus.Mirrored
    (readApParameter (mockMachine bus) bus codec repr polls message)
    (readApParameter (directMachine bus) bus codec repr polls message) := by
  refine Prog.Agree.lift_bind fun request hrequest => Prog.Agree.lift_bind fun k hk => ?_
  have hvalid := inAccess_eq_ok hk
  have hstation := (validateApTarget_ok hvalid).1
  have hserved := apTarget_served hbus (inAccess_eq_ok hrequest) hvalid
  have hread := agree_readAccess (hbus.station k hstation) hserved polls request.length.val
  exact (hread.atIndex hstation).bind fun reading =>
    Prog.Agree.lift_bind fun value _ => Prog.Agree.pure _

theorem agree_writeApParameter : Prog.Agree bus.Mirrored
    (writeApParameter (mockMachine bus) bus codec repr polls message)
    (writeApParameter (directMachine bus) bus codec repr polls message) := by
  refine Prog.Agree.lift_bind fun request hrequest => Prog.Agree.lift_bind fun k hk =>
    Prog.Agree.lift_bind fun packed _ => Prog.Agree.raiseIf_bind fun hlimit =>
      Prog.Agree.lift_bind fun payload hpayload => ?_
  have hvalid := inAccess_eq_ok hk
  have hstation := (validateApTarget_ok hvalid).1
  have hserved := apTarget_served hbus (inAccess_eq_ok hrequest) hvalid
  have hlength := (parseApParameterRequest_ok (inAccess_eq_ok hrequest)).2.2.2.2.2
  have hfits := fitPayload_length (inAccess_eq_ok hpayload) hlength (not_lt.mp hlimit)
  have hwrite := agree_writeAccess (hbus.station k hstation) hserved polls hfits
  exact (hwrite.atIndex hstation).bind fun status => Prog.Agree.pure _

theorem agree_readIolParameter : Prog.Agree bus.Mirrored
    (readIolParameter (mockMachine bus) bus codec repr polls message)
    (readIolParameter (directMachine bus) bus codec repr polls message) := by
  refine Prog.Agree.lift_bind fun request hrequest => Prog.Agree.lift_bind fun _ _ =>
    Prog.Agree.lift_bind fun config hconfig => Prog.Agree.lift_bind fun k hk => ?_
  have hstation : bus.IsStation k := validateIoSelector_isStation (inAccess_eq_ok hk)
  have hserved := isduTarget_served hbus (inAccess_eq_ok hrequest) (inAccess_eq_ok hconfig) k
  have hread := agree_readAccess (hbus.station k hstation) hserved polls request.length.val
  exact (hread.atIndex hstation).bind fun reading =>
    Prog.Agree.lift_bind fun value _ => Prog.Agree.pure _

theorem agree_writeIolParameter : Prog.Agree bus.Mirrored
    (writeIolParameter (mockMachine bus) bus codec repr polls message)
    (writeIolParameter (directMachine bus) bus codec repr polls message) := by
  refine Prog.Agree.lift_bind fun request hrequest => Prog.Agree.lift_bind fun _ _ =>
    Prog.Agree.lift_bind fun config hconfig => Prog.Agree.lift_bind fun k hk =>
      Prog.Agree.lift_bind fun packed _ => Prog.Agree.raiseIf_bind fun hlimit =>
        Prog.Agree.lift_bind fun payload hpayload => ?_
  have hstation : bus.IsStation k := validateIoSelector_isStation (inAccess_eq_ok hk)
  have hserved := isduTarget_served hbus (inAccess_eq_ok hrequest) (inAccess_eq_ok hconfig) k
  have hlength := (parseIsduRequest_fits (inAccess_eq_ok hrequest)).2.2.2.2.2
  have hfitted : fitPayload isduGateway message request.dataType request.length packed = .ok payload :=
    inAccess_eq_ok hpayload
  have hfits := fitPayload_length hfitted hlength (not_lt.mp hlimit)
  have hwrite := agree_writeAccess (hbus.station k hstation) hserved polls hfits
  exact (hwrite.atIndex hstation).bind fun status => Prog.Agree.pure _

end Commands

/-- An exchange has a payload of the size of the process image; inputs can be published. -/
def GatewayBus.Admits (bus : GatewayBus F G) : GatewayEvent F → Prop
  | .exchange k payload => bus.IsStation k ∧ payload.length = (bus.station k).rx.byteSize
  | .setInputs k inputs => bus.IsStation k ∧ (bus.station k).Publishes inputs
  | _ => True

/-- One event has the same result in both. -/
theorem agree_gatewayStep (hbus : bus.Sound) {event : GatewayEvent F} (hevent : bus.Admits event) :
    Prog.Agree bus.Mirrored (gatewayStep (mockMachine bus) bus codec repr event)
      (gatewayStep (directMachine bus) bus codec repr event) := by
  cases event with
  | readAp polls message => exact (agree_readApParameter hbus codec repr polls message).map _
  | writeAp polls message => exact (agree_writeApParameter hbus codec repr polls message).map _
  | readIol polls message => exact (agree_readIolParameter hbus codec repr polls message).map _
  | writeIol polls message => exact (agree_writeIolParameter hbus codec repr polls message).map _
  | exchange k payload =>
    have hexchange : Prog.Agree (Mirrors bus.Addresses (bus.station k))
        (stationExchange (bus.station k) payload) (DirectStation.exchange (bus.station k) payload) :=
      agree_exchange (hbus.station k hevent.1) hevent.2
    exact (hexchange.atIndex hevent.1).map _
  | setInputs k inputs =>
    have hset : Prog.Agree (Mirrors bus.Addresses (bus.station k)) _ _ := agree_setInputs hevent.2
    exact (hset.atIndex hevent.1).bind fun _ => Prog.Agree.pure _

/-- **In every run, all commands to the gateways and all exchanges have the results of the calls,**
and what is behind the gateways is the same. -/
theorem gatewayRun_direct (hbus : bus.Sound) {events : List (GatewayEvent F)}
    (hevents : ∀ event ∈ events, bus.Admits event) {s : ℕ → GatewayStation F G}
    {t : ℕ → DirectStation G} (hst : bus.Mirrored s t) :
    (Prog.trace (gatewayStep (mockMachine bus) bus codec repr) events s).1 =
        (Prog.trace (gatewayStep (directMachine bus) bus codec repr) events t).1 ∧
      bus.Mirrored (Prog.trace (gatewayStep (mockMachine bus) bus codec repr) events s).2
        (Prog.trace (gatewayStep (directMachine bus) bus codec repr) events t).2 := by
  have hstep : Prog.Lockstep bus.Mirrored (fun _ => bus.Admits)
      (gatewayStep (mockMachine bus) bus codec repr)
      (gatewayStep (directMachine bus) bus codec repr) :=
    fun _ s t h hevent => agree_gatewayStep hbus hevent s t h
  apply hstep.trace hst
  apply Runs.allowed_iff_forall.mpr
  rintro before event after rfl
  exact hevents event (by simp)

end Bus

end MotionServer
