import MotionServer.Handlers.IoOutputWrite
import MotionServer.Lib.Writes

/-!
# What a list of output writes reports

* `OutputAddress`, `OutputImages.read`: one output, and its value in the images;
* `AsksFor`: the output that a write names, and the value for it;
* `Escapes`: the writes that raise an exception which no report knows;
* `writeOutputTarget_outcome`: a write is done, refused, or it escapes;
* `Accounted`: every item is attempted in order, and the report tells what the images have;
* **`outputs_accounted_iff`**: the lists of which this holds.
-/

namespace MotionServer

variable {F : Type} [PyFloat F]

/-! ## Outputs -/

/-- An output of a module. -/
inductive OutputChannel
  | digital (k : ℕ)
  | analog (k : ℕ)
  | ioLink
  deriving DecidableEq

/-- An output of a station. -/
structure OutputAddress where
  station : ℕ
  slot : ℤ
  channel : OutputChannel
  deriving DecidableEq

/-- The value of an output. -/
inductive OutputValue
  | digital (b : Bool)
  | analog (i : ℤ)
  | ioLink (payload : List Byte)
  deriving DecidableEq

/-- The value of an output of a module. -/
def ChannelValues.read (values : ChannelValues) : OutputChannel → Option OutputValue
  | .digital k => values.digital[k]?.map .digital
  | .analog k => values.analog[k]?.map .analog
  | .ioLink => some (.ioLink values.ioLink)

/-- The value of an output, if there is such an output. -/
def OutputImages.read (images : OutputImages) (a : OutputAddress) : Option OutputValue :=
  (images a.station a.slot).bind (·.read a.channel)

/-- One output has a new value, and the modules are the same. -/
structure Written (images : OutputImages) (a : OutputAddress) (v : OutputValue)
    (images' : OutputImages) : Prop where
  read : ∀ b, images'.read b = if b = a then some v else images.read b
  modules : ∀ station slot, (images' station slot).isSome = (images station slot).isSome

theorem written_replace {images : OutputImages} {station : ℕ} {slot : ℤ}
    {values values' : ChannelValues} (hvalues : images station slot = some values)
    {channel : OutputChannel} {v : OutputValue}
    (hread : ∀ c, values'.read c = if c = channel then some v else values.read c) :
    Written images ⟨station, slot, channel⟩ v (images.replace station slot values') := by
  have hself : (images.replace station slot values') station slot = some values' := by
    rw [OutputImages.replace, Function.update_self, Function.update_self]
  have hother : ∀ station' slot', ¬ (station' = station ∧ slot' = slot) →
      (images.replace station slot values') station' slot' = images station' slot' := by
    intro station' slot' hne
    by_cases hstation : station' = station
    · subst hstation
      rw [OutputImages.replace, Function.update_self, Function.update_of_ne fun h => hne ⟨rfl, h⟩]
    · rw [OutputImages.replace, Function.update_of_ne hstation]
  constructor
  · rintro ⟨station', slot', channel'⟩
    unfold OutputImages.read
    dsimp only
    by_cases hat : station' = station ∧ slot' = slot
    · obtain ⟨rfl, rfl⟩ := hat
      rw [hself, hvalues]
      simp only [Option.bind_some, hread, OutputAddress.mk.injEq, true_and]
    · rw [hother _ _ hat, if_neg fun h => hat ?_]
      simp only [OutputAddress.mk.injEq] at h
      exact ⟨h.1, h.2.1⟩
  · intro station' slot'
    by_cases hat : station' = station ∧ slot' = slot
    · obtain ⟨rfl, rfl⟩ := hat
      rw [hself, hvalues]
      rfl
    · rw [hother _ _ hat]

/-! ## What a write asks for -/

/-- The channel and the value of an order. -/
def OutputOrder.Asks : OutputOrder F → OutputChannel → OutputValue → Prop
  | .digital channel value, c, v => ∃ k : ℕ, channel = .int k ∧ c = .digital k ∧ v = .digital value
  | .analog channel value, c, v => ∃ k : ℕ, channel = .int k ∧ c = .analog k ∧ v = .analog value
  | .ioLink payload, c, v => c = .ioLink ∧ v = .ioLink payload

/-- There is no module with outputs at the slot, or the slot is infinite. -/
def UnknownSlot (modules : List CPXApModule) (outputs : ℤ → Option ChannelValues) (slot : Value F) :
    OutputOrder F → Prop
  | .analog _ _ => slot.toInt = .error .overflowError ∨ ∃ i, slot.toInt = .ok i ∧
      (outputs i = none ∨ ∀ m ∈ modules, (m.slot : ℤ) ≠ i)
  | _ => slot.toInt = .error .overflowError ∨ ∃ i, slot.toInt = .ok i ∧ outputs i = none

/-- The device that a write names. -/
def outputDevice (repr : Value F → String) (stations : OutputStations) (request : Message F) :
    Except PyExc IoDevice :=
  selectedOutputDevice repr stations.slaves (request.getD "io" (request.getD "id" .null))
    (request.getD "slave_index" .null)

/-- The write names the output, and asks for the value. -/
def AsksFor (repr : Value F → String) (stations : OutputStations) (request : Message F)
    (a : OutputAddress) (v : OutputValue) : Prop :=
  ∃ device slot order, outputDevice repr stations request = .ok device ∧
    parseOutput repr request = .ok (slot, order) ∧ a.station = device.slaveIndex ∧
    slot.toInt = .ok a.slot ∧ order.Asks a.channel v

/-- The write has an infinite number where an integer is read, or names a slot without outputs. -/
inductive Escapes (repr : Value F → String) (stations : OutputStations) (images : OutputImages)
    (request : Message F) : Prop
  | position (h : outputDevice repr stations request = .error .overflowError)
  | value (device : IoDevice) (hdevice : outputDevice repr stations request = .ok device)
    (h : parseOutput repr request = .error .overflowError)
  | slot (device : IoDevice) (slot : Value F) (order : OutputOrder F)
    (hdevice : outputDevice repr stations request = .ok device)
    (hparse : parseOutput repr request = .ok (slot, order))
    (h : UnknownSlot (stations.modules device.slaveIndex) (images device.slaveIndex) slot order)

/-! ## One write -/

/-- What becomes of a write: it is done, it is refused, or it escapes. -/
inductive WriteOutcome (escapes : Prop) (asks : OutputAddress → OutputValue → Prop)
    (refusal : PyExc → Prop) (images : OutputImages) : Except PyExc Unit × OutputImages → Prop
  | done (a : OutputAddress) (v : OutputValue) (images' : OutputImages) (hasks : asks a v)
    (hwritten : Written images a v images') (hstays : ¬ escapes) :
    WriteOutcome escapes asks refusal images (.ok (), images')
  | refused (e : PyExc) (he : refusal e) (hstays : ¬ escapes) :
    WriteOutcome escapes asks refusal images (.error e, images)
  | escaped (e : PyExc) (he : e = .keyError ∨ e = .overflowError) (hescapes : escapes) :
    WriteOutcome escapes asks refusal images (.error e, images)

/-- What `int` raises of a value. -/
theorem toInt_error [TruncRaises F] {value : Value F} {e : PyExc} (h : value.toInt = .error e) :
    e = .typeError ∨ e = .valueError ∨ e = .overflowError := by
  cases value with
  | float x => exact Or.inr (TruncRaises.truncInt_error x e h)
  | str s =>
    unfold Value.toInt at h
    dsimp only at h
    split at h
    · cases h
    · cases h
      exact Or.inr (Or.inl rfl)
  | bool b => cases h
  | int i => cases h
  | null => cases h; exact Or.inl rfl
  | list items => cases h; exact Or.inl rfl
  | dict entries => cases h; exact Or.inl rfl

/-- The refusals of the setters. -/
def IsValueRefusal (e : PyExc) : Prop := e = .typeError ∨ e = .valueError

theorem moduleOutput_run {station : ℕ} {slot : Value F} {images : OutputImages} {i : ℤ}
    {values : ChannelValues} (hslot : slot.toInt = .ok i) (hvalues : images station i = some values) :
    moduleOutput station slot images = (.ok (i, values), images) := by
  unfold moduleOutput
  rw [hslot, Prog.bind_run_ok (Prog.lift_run _ _), Prog.bind_run_ok (Prog.get_run _), hvalues]
  rfl

/-- The slot is infinite, or it has no outputs. -/
def NoOutputs (outputs : ℤ → Option ChannelValues) (slot : Value F) : Prop :=
  slot.toInt = .error .overflowError ∨ ∃ i, slot.toInt = .ok i ∧ outputs i = none

/-- **A setter reads the outputs of the slot first.** -/
theorem moduleOutput_outcome [TruncRaises F] {station : ℕ} {slot : Value F} {images : OutputImages}
    {unknown : Prop} {asks : OutputAddress → OutputValue → Prop}
    {rest : ℤ × ChannelValues → Prog PyExc OutputImages Unit}
    (hunknown : NoOutputs (images station) slot → unknown)
    (hknown : unknown → slot.toInt = .error .overflowError ∨ ∃ i, slot.toInt = .ok i)
    (hrest : ∀ i values, slot.toInt = .ok i → images station i = some values →
      WriteOutcome unknown asks IsValueRefusal images (rest (i, values) images)) :
    WriteOutcome unknown asks IsValueRefusal images ((moduleOutput station slot >>= rest) images) := by
  cases hslot : slot.toInt with
  | error e =>
    have hrun : moduleOutput station slot images = (.error e, images) := by
      unfold moduleOutput
      rw [hslot, Prog.bind_run_error (Prog.lift_run _ _)]
    rw [Prog.bind_run_error hrun]
    have hint : e ≠ .overflowError → ¬ unknown := by
      intro hne h
      rcases hknown h with h | ⟨i, h⟩
      · rw [hslot] at h
        exact hne (Except.error.inj h)
      · rw [hslot] at h
        cases h
    rcases toInt_error hslot with rfl | rfl | rfl
    · exact .refused _ (Or.inl rfl) (hint (by decide))
    · exact .refused _ (Or.inr rfl) (hint (by decide))
    · exact .escaped _ (Or.inr rfl) (hunknown (Or.inl hslot))
  | ok i =>
    cases hvalues : images station i with
    | some values =>
      rw [Prog.bind_run_ok (moduleOutput_run hslot hvalues)]
      exact hrest i values hslot hvalues
    | none =>
      have hrun : moduleOutput station slot images = (.error .keyError, images) := by
        unfold moduleOutput
        rw [hslot, Prog.bind_run_ok (Prog.lift_run _ _), Prog.bind_run_ok (Prog.get_run _), hvalues]
        rfl
      rw [Prog.bind_run_error hrun]
      exact .escaped _ (Or.inl rfl) (hunknown (Or.inr ⟨i, hslot, hvalues⟩))

omit [PyFloat F] in
theorem outputChannel_cases (count : ℕ) (channel : Value F) :
    (∃ e, IsValueRefusal e ∧ outputChannel count channel = .error e) ∨
      ∃ k : ℕ, k < count ∧ channel = .int k ∧ outputChannel count channel = .ok k := by
  cases channel with
  | int i =>
    unfold outputChannel
    dsimp only
    split_ifs with h
    · exact Or.inl ⟨_, Or.inr rfl, rfl⟩
    · refine Or.inr ⟨i.toNat, by omega, ?_, rfl⟩
      rw [Int.toNat_of_nonneg (by omega)]
  | _ => exact Or.inl ⟨_, Or.inl rfl, rfl⟩

theorem read_digital {values : ChannelValues} {k : ℕ} (hk : k < values.digital.length) (b : Bool)
    (c : OutputChannel) : ChannelValues.read { values with digital := values.digital.set k b } c =
      if c = .digital k then some (.digital b) else values.read c := by
  cases c with
  | digital j =>
    by_cases hj : j = k
    · subst hj
      simp [ChannelValues.read, hk]
    · simp [ChannelValues.read, Ne.symm hj, hj]
  | analog j => simp [ChannelValues.read]
  | ioLink => simp [ChannelValues.read]

theorem read_analog {values : ChannelValues} {k : ℕ} (hk : k < values.analog.length) (i : ℤ)
    (c : OutputChannel) : ChannelValues.read { values with analog := values.analog.set k i } c =
      if c = .analog k then some (.analog i) else values.read c := by
  cases c with
  | digital j => simp [ChannelValues.read]
  | analog j =>
    by_cases hj : j = k
    · subst hj
      simp [ChannelValues.read, hk]
    · simp [ChannelValues.read, Ne.symm hj, hj]
  | ioLink => simp [ChannelValues.read]

theorem read_ioLink (values : ChannelValues) (payload : List Byte) (c : OutputChannel) :
    ChannelValues.read { values with ioLink := payload } c =
      if c = .ioLink then some (.ioLink payload) else values.read c := by
  cases c <;> simp [ChannelValues.read]

theorem noOutputs_of_some {outputs : ℤ → Option ChannelValues} {slot : Value F} {i : ℤ}
    {values : ChannelValues} (hslot : slot.toInt = .ok i) (hvalues : outputs i = some values) :
    ¬ NoOutputs outputs slot := by
  rintro (h | ⟨j, hj, hnone⟩)
  · rw [hslot] at h
    cases h
  · rw [hslot] at hj
    obtain rfl := Except.ok.inj hj
    rw [hvalues] at hnone
    cases hnone

theorem noOutputs_slot {outputs : ℤ → Option ChannelValues} {slot : Value F}
    (h : NoOutputs outputs slot) :
    slot.toInt = .error .overflowError ∨ ∃ i, slot.toInt = .ok i := by
  rcases h with h | ⟨i, hi, -⟩
  · exact Or.inl h
  · exact Or.inr ⟨i, hi⟩

/-- What a setter is asked for. -/
def SetterAsks (station : ℕ) (slot : Value F) (order : OutputOrder F) (a : OutputAddress)
    (v : OutputValue) : Prop :=
  a.station = station ∧ slot.toInt = .ok a.slot ∧ order.Asks a.channel v

theorem setModuleDigitalOutput_outcome [TruncRaises F] (modules : List CPXApModule) (station : ℕ)
    (slot channel : Value F) (value : Bool) (images : OutputImages) :
    WriteOutcome (UnknownSlot modules (images station) slot (.digital channel value))
      (SetterAsks station slot (.digital channel value)) IsValueRefusal images
      (setModuleDigitalOutput station slot channel value images) := by
  refine moduleOutput_outcome id noOutputs_slot fun i values hslot hvalues => ?_
  have hstays := noOutputs_of_some hslot hvalues
  dsimp only
  rcases outputChannel_cases values.digital.length channel with
    ⟨e, he, hchannel⟩ | ⟨k, hk, rfl, hchannel⟩
  · rw [hchannel, Prog.bind_run_error (Prog.lift_run _ _)]
    exact .refused e he hstays
  · rw [hchannel, Prog.bind_run_ok (Prog.lift_run _ _), Prog.modify_run]
    exact .done ⟨station, i, .digital k⟩ (.digital value) _ ⟨rfl, hslot, k, rfl, rfl, rfl⟩
      (written_replace hvalues (read_digital hk value)) hstays

theorem setIoLinkOutput_outcome [TruncRaises F] (modules : List CPXApModule) (station : ℕ)
    (slot : Value F) (payload : List Byte) (images : OutputImages) :
    WriteOutcome (UnknownSlot modules (images station) slot (.ioLink payload))
      (SetterAsks station slot (.ioLink payload)) IsValueRefusal images
      (setIoLinkOutput station slot payload images) := by
  refine moduleOutput_outcome id noOutputs_slot fun i values hslot hvalues => ?_
  have hstays := noOutputs_of_some hslot hvalues
  dsimp only
  by_cases hlength : payload.length ≠ values.ioLink.length
  · have hrun : (Prog.raiseIf (payload.length ≠ values.ioLink.length) .valueError :
        Prog PyExc OutputImages Unit) images = (.error .valueError, images) := by
      rw [Prog.raiseIf_run, if_pos hlength]
    rw [Prog.bind_run_error hrun]
    exact .refused _ (Or.inr rfl) hstays
  · have hrun : (Prog.raiseIf (payload.length ≠ values.ioLink.length) .valueError :
        Prog PyExc OutputImages Unit) images = (.ok (), images) := by
      rw [Prog.raiseIf_run, if_neg hlength]
    rw [Prog.bind_run_ok hrun, Prog.modify_run]
    exact .done ⟨station, i, .ioLink⟩ (.ioLink payload) _ ⟨rfl, hslot, rfl, rfl⟩
      (written_replace hvalues (read_ioLink values payload)) hstays

theorem validateAnalogValue_cases (m : CPXApModule) (value : ℤ) :
    validateAnalogValue m value = .error .valueError ∨ validateAnalogValue m value = .ok value := by
  unfold validateAnalogValue
  dsimp only
  split_ifs <;> simp

/-- An analog output is looked up among the modules too. -/
theorem moduleBySlot_cases (modules : List CPXApModule) {slot : Value F} {i : ℤ}
    (hslot : slot.toInt = .ok i) :
    (moduleBySlot modules slot = .error .keyError ∧ ∀ m ∈ modules, (m.slot : ℤ) ≠ i) ∨
      ∃ m ∈ modules, (m.slot : ℤ) = i ∧ moduleBySlot modules slot = .ok m := by
  unfold moduleBySlot
  rw [hslot, Except.ok_bind]
  cases hfind : modules.find? fun m => (m.slot : ℤ) = i with
  | none =>
    refine Or.inl ⟨rfl, fun m hm heq => ?_⟩
    exact absurd (decide_eq_true heq) (List.find?_eq_none.mp hfind m hm)
  | some m =>
    exact Or.inr ⟨m, List.mem_of_find?_eq_some hfind, of_decide_eq_true (List.find?_some hfind :), rfl⟩

theorem setModuleAnalogOutput_outcome [TruncRaises F] (modules : List CPXApModule) (station : ℕ)
    (slot channel : Value F) (value : ℤ) (images : OutputImages) :
    WriteOutcome (UnknownSlot modules (images station) slot (.analog channel value))
      (SetterAsks station slot (.analog channel value)) IsValueRefusal images
      (setModuleAnalogOutput modules station slot channel value images) := by
  have hknown : UnknownSlot modules (images station) slot (.analog channel value) →
      slot.toInt = .error .overflowError ∨ ∃ i, slot.toInt = .ok i := by
    rintro (h | ⟨i, hi, -⟩)
    · exact Or.inl h
    · exact Or.inr ⟨i, hi⟩
  have hunknown : NoOutputs (images station) slot →
      UnknownSlot modules (images station) slot (.analog channel value) := by
    rintro (h | ⟨i, hi, hnone⟩)
    · exact Or.inl h
    · exact Or.inr ⟨i, hi, Or.inl hnone⟩
  unfold setModuleAnalogOutput
  cases hslot : slot.toInt with
  | error e =>
    -- the module is looked up by the same integer as the outputs
    have hmodule : moduleBySlot modules slot = .error e := by
      unfold moduleBySlot
      rw [hslot]
      rfl
    rw [hmodule, Prog.bind_run_error (Prog.lift_run _ _)]
    rcases toInt_error hslot with rfl | rfl | rfl
    · refine .refused _ (Or.inl rfl) fun h => ?_
      rcases hknown h with h | ⟨i, h⟩ <;> rw [hslot] at h <;> cases h
    · refine .refused _ (Or.inr rfl) fun h => ?_
      rcases hknown h with h | ⟨i, h⟩ <;> rw [hslot] at h <;> cases h
    · exact .escaped _ (Or.inr rfl) (Or.inl hslot)
  | ok i =>
    rcases moduleBySlot_cases modules hslot with ⟨hmodule, hno⟩ | ⟨m, hm, hat, hmodule⟩
    · rw [hmodule, Prog.bind_run_error (Prog.lift_run _ _)]
      exact .escaped _ (Or.inl rfl) (Or.inr ⟨i, hslot, Or.inr hno⟩)
    rw [hmodule, Prog.bind_run_ok (Prog.lift_run _ _)]
    refine moduleOutput_outcome hunknown hknown fun j values hj hvalues => ?_
    rw [hslot] at hj
    obtain rfl := Except.ok.inj hj
    have hstays : ¬ UnknownSlot modules (images station) slot (.analog channel value) := by
      rintro (h | ⟨j, hj, hnone | hno⟩)
      · rw [hslot] at h
        cases h
      · exact noOutputs_of_some hslot hvalues (Or.inr ⟨j, hj, hnone⟩)
      · rw [hslot] at hj
        obtain rfl := Except.ok.inj hj
        exact hno m hm hat
    dsimp only
    rcases outputChannel_cases values.analog.length channel with
      ⟨e, he, hchannel⟩ | ⟨k, hk, rfl, hchannel⟩
    · rw [hchannel, Prog.bind_run_error (Prog.lift_run _ _)]
      exact .refused e he hstays
    rw [hchannel, Prog.bind_run_ok (Prog.lift_run _ _)]
    rcases validateAnalogValue_cases m value with hvalue | hvalue
    · rw [hvalue, Prog.bind_run_error (Prog.lift_run _ _)]
      exact .refused _ (Or.inr rfl) hstays
    · rw [hvalue, Prog.bind_run_ok (Prog.lift_run _ _), Prog.modify_run]
      exact .done ⟨station, i, .analog k⟩ (.analog value) _ ⟨rfl, hslot, k, rfl, rfl, rfl⟩
        (written_replace hvalues (read_analog hk value)) hstays

theorem setOutput_outcome [TruncRaises F] (modules : List CPXApModule) (station : ℕ)
    (slot : Value F) (order : OutputOrder F) (images : OutputImages) :
    WriteOutcome (UnknownSlot modules (images station) slot order) (SetterAsks station slot order)
      IsValueRefusal images (setOutput modules station slot order images) := by
  cases order with
  | digital channel value => exact setModuleDigitalOutput_outcome ..
  | analog channel value => exact setModuleAnalogOutput_outcome ..
  | ioLink payload => exact setIoLinkOutput_outcome ..

/-- The exceptions of reading a request: refusals, and integers that are none. -/
def IsRequestError (e : PyExc) : Prop :=
  e = .typeError ∨ e = .valueError ∨ e = .overflowError ∨ e.IsInvalidArgument

theorem onlyFails_toInt [TruncRaises F] (value : Value F) :
    value.toInt.OnlyFails IsRequestError := by
  intro e h
  rcases toInt_error h with rfl | rfl | rfl
  · exact Or.inl rfl
  · exact Or.inr (Or.inl rfl)
  · exact Or.inr (Or.inr (Or.inl rfl))

omit [PyFloat F] in
theorem onlyFails_requiredField (message : Message F) (field : String) :
    (requiredField message field).OnlyFails IsRequestError := by
  unfold requiredField
  split
  · exact Except.onlyFails_ok _
  · exact Except.onlyFails_error (Or.inr (Or.inr (Or.inr ⟨_, _, rfl⟩)))

theorem onlyFails_parseOutputBool (value : Value F) :
    (parseOutputBool value).OnlyFails IsRequestError := by
  unfold parseOutputBool
  split
  · dsimp only
    split_ifs
    · exact Except.onlyFails_ok _
    · exact Except.onlyFails_ok _
    · exact Except.onlyFails_error (Or.inr (Or.inr (Or.inr ⟨_, _, rfl⟩)))
  · exact Except.onlyFails_ok _

theorem onlyFails_parseOutputPayload [TruncRaises F] (value : Value F) :
    (parseOutputPayload value).OnlyFails IsRequestError := by
  have hitems : ∀ items : List (Value F), (bytesOfItems items).OnlyFails IsRequestError :=
    Except.OnlyFails.mapM fun item => (onlyFails_toInt item).map _
  have htype : ∀ rest : List (Value F) → Except PyExc (List Byte),
      ((.error .typeError : Except PyExc (List (Value F))) >>= rest).OnlyFails IsRequestError :=
    fun rest => Except.onlyFails_error (Or.inl rfl)
  cases value with
  | str s =>
    unfold parseOutputPayload
    dsimp only
    split
    · exact Except.onlyFails_ok _
    · exact Except.onlyFails_error (Or.inr (Or.inl rfl))
  | list items => exact hitems items
  | dict entries => exact hitems _
  | _ => exact htype _

theorem onlyFails_parseOutput [TruncRaises F] (repr : Value F → String) (message : Message F) :
    (parseOutput repr message).OnlyFails IsRequestError := by
  refine (onlyFails_requiredField message "slot").bind fun slot _ => ?_
  dsimp only
  split_ifs
  · refine (onlyFails_requiredField message "channel").bind fun channel _ => ?_
    refine (onlyFails_requiredField message "value").bind fun value _ => ?_
    exact (onlyFails_parseOutputBool value).bind fun value _ => Except.onlyFails_ok _
  · refine (onlyFails_requiredField message "channel").bind fun channel _ => ?_
    refine (onlyFails_requiredField message "value").bind fun value _ => ?_
    exact (onlyFails_toInt value).bind fun value _ => Except.onlyFails_ok _
  · exact (onlyFails_parseOutputPayload _).bind fun payload _ => Except.onlyFails_ok _
  · exact Except.onlyFails_error (Or.inr (Or.inl rfl))

/-- A device that is not selected. -/
def IsSelectionError (e : PyExc) : Prop := e = .typeError ∨ e = .valueError ∨ e = .overflowError

theorem onlyFails_findOutputDevice [TruncRaises F] (repr : Value F → String)
    (ioId position : Value F) (devices : List IoDevice) :
    (findOutputDevice repr ioId position devices).OnlyFails IsSelectionError := by
  induction devices with
  | nil => exact Except.onlyFails_error (Or.inr (Or.inl rfl))
  | cons device devices ih =>
    unfold findOutputDevice
    split_ifs
    · exact Except.onlyFails_ok _
    · exact ih
    · have hint : position.toInt.OnlyFails IsSelectionError := fun e h => toInt_error h
      refine hint.bind fun i _ => ?_
      split_ifs
      · exact Except.onlyFails_ok _
      · exact ih

theorem onlyFails_outputDevice [TruncRaises F] (repr : Value F → String) (stations : OutputStations)
    (request : Message F) : (outputDevice repr stations request).OnlyFails IsSelectionError := by
  unfold outputDevice selectedOutputDevice
  split_ifs
  · split
    · exact Except.onlyFails_ok _
    · exact Except.onlyFails_error (Or.inr (Or.inl rfl))
  · exact onlyFails_findOutputDevice repr _ _ _

/-- A refusal of the handler. -/
def IsReported (e : PyExc) : Prop := ∃ failure, e = .motionServer failure

theorem isReported_outputFailure {e : PyExc} (he : IsRequestError e) (hne : e ≠ .overflowError) :
    IsReported (outputFailure e) := by
  rcases he with rfl | rfl | rfl | ⟨field, reason, rfl⟩
  · exact ⟨_, rfl⟩
  · exact ⟨_, rfl⟩
  · exact absurd rfl hne
  · exact ⟨_, rfl⟩

theorem writeOutputTarget_of_device_error {repr : Value F → String} {stations : OutputStations}
    {request : Message F} {e : PyExc} (h : outputDevice repr stations request = .error e)
    (images : OutputImages) :
    writeOutputTarget repr stations request images =
      (.error (if e.isTypeOrValueError then .motionServer (.resourceMissing "io"
        ((request.getD "io" (request.getD "id" .null)).pyStr repr)) else e), images) := by
  unfold outputDevice at h
  unfold writeOutputTarget
  simp only [h]
  rfl

theorem writeOutputTarget_of_device {repr : Value F → String} {stations : OutputStations}
    {request : Message F} {device : IoDevice}
    (h : outputDevice repr stations request = .ok device) :
    writeOutputTarget repr stations request =
      tryCatch
        (applyOutputWrite repr (stations.modules device.slaveIndex) device.slaveIndex request)
        fun e => throw (outputFailure e) := by
  unfold outputDevice at h
  unfold writeOutputTarget
  simp only [h]

/-- A write whose device and order are read escapes only by its slot. -/
theorem not_escapes_of_known {repr : Value F → String} {stations : OutputStations}
    {images : OutputImages} {request : Message F} {device : IoDevice} {slot : Value F}
    {order : OutputOrder F} (hdevice : outputDevice repr stations request = .ok device)
    (hparse : parseOutput repr request = .ok (slot, order))
    (hknown : ¬ UnknownSlot (stations.modules device.slaveIndex) (images device.slaveIndex)
      slot order) : ¬ Escapes repr stations images request := by
  rintro (h | ⟨device', -, h⟩ | ⟨device', slot', order', h, hparse', hslot⟩)
  · rw [hdevice] at h
    cases h
  · rw [hparse] at h
    cases h
  · rw [hdevice] at h
    rw [hparse] at hparse'
    obtain rfl := Except.ok.inj h
    obtain ⟨rfl, rfl⟩ := Prod.mk.inj (Except.ok.inj hparse')
    exact hknown hslot

/-- **A write is done, is refused with a failure that is reported, or escapes.** -/
theorem writeOutputTarget_outcome [TruncRaises F] (repr : Value F → String)
    (stations : OutputStations) (request : Message F) (images : OutputImages) :
    WriteOutcome (Escapes repr stations images request) (AsksFor repr stations request) IsReported
      images (writeOutputTarget repr stations request images) := by
  cases hselect : outputDevice repr stations request with
  | error e =>
    rw [writeOutputTarget_of_device_error hselect]
    have hstays : e ≠ .overflowError → ¬ Escapes repr stations images request := by
      rintro hne (h | ⟨device, h, -⟩ | ⟨device, slot, order, h, -, -⟩)
      · rw [hselect] at h
        exact hne (Except.error.inj h)
      · rw [hselect] at h
        cases h
      · rw [hselect] at h
        cases h
    rcases onlyFails_outputDevice repr stations request e hselect with rfl | rfl | rfl
    · exact .refused _ ⟨_, rfl⟩ (hstays (by decide))
    · exact .refused _ ⟨_, rfl⟩ (hstays (by decide))
    · exact .escaped _ (Or.inr rfl) (.position hselect)
  | ok device =>
    rw [writeOutputTarget_of_device hselect, Prog.tryCatch_run]
    unfold applyOutputWrite
    cases hparse : parseOutput repr request with
    | error e =>
      rw [Prog.bind_run_error (Prog.lift_run _ _)]
      show WriteOutcome _ _ _ images (.error (outputFailure e), images)
      have herror := onlyFails_parseOutput repr request e hparse
      by_cases hoverflow : e = .overflowError
      · subst hoverflow
        exact .escaped _ (Or.inr rfl) (.value device hselect hparse)
      · refine .refused _ (isReported_outputFailure herror hoverflow) ?_
        rintro (h | ⟨device', h, hvalue⟩ | ⟨device', slot, order, h, hok, -⟩)
        · rw [hselect] at h
          cases h
        · rw [hparse] at hvalue
          exact hoverflow (Except.error.inj hvalue)
        · rw [hparse] at hok
          cases hok
    | ok parsed =>
      obtain ⟨slot, order⟩ := parsed
      rw [Prog.bind_run_ok (Prog.lift_run _ _)]
      dsimp only
      have hstays : _ → ¬ Escapes repr stations images request :=
        not_escapes_of_known hselect hparse
      generalize hrun : setOutput (stations.modules device.slaveIndex) device.slaveIndex slot order
        images = result
      have houtcome := setOutput_outcome (stations.modules device.slaveIndex) device.slaveIndex slot
        order images
      rw [hrun] at houtcome
      cases houtcome with
      | done a v images' hasks hwritten hknown =>
        obtain ⟨hstation, hslot, horder⟩ := hasks
        exact .done a v images' ⟨device, slot, order, hselect, hparse, hstation, hslot, horder⟩
          hwritten (hstays hknown)
      | refused e he hknown =>
        refine .refused _ (isReported_outputFailure (e := e) ?_ ?_) (hstays hknown)
        · rcases he with rfl | rfl
          · exact Or.inl rfl
          · exact Or.inr (Or.inl rfl)
        · rcases he with rfl | rfl <;> decide
      | escaped e he hunknown =>
        have hsame : outputFailure e = e := by rcases he with rfl | rfl <;> rfl
        show WriteOutcome _ _ _ images (.error (outputFailure e), images)
        rw [hsame]
        exact .escaped e he (.slot device slot order hselect hparse hunknown)

/-! ## Lists of writes -/

/-- The stations have the same modules. -/
def SameModules (images images' : OutputImages) : Prop :=
  ∀ station slot, (images' station slot).isSome = (images station slot).isSome

/-- Which writes escape does not depend on the values. -/
theorem escapes_congr {repr : Value F → String} {stations : OutputStations}
    {images images' : OutputImages} (h : SameModules images images') {request : Message F} :
    Escapes repr stations images' request ↔ Escapes repr stations images request := by
  have hnone : ∀ station slot, images' station slot = none ↔ images station slot = none := by
    intro station slot
    rw [← Option.isNone_iff_eq_none, ← Option.isNone_iff_eq_none, ← Option.not_isSome,
      ← Option.not_isSome, h station slot]
  have hslot : ∀ modules station (slot : Value F) (order : OutputOrder F),
      UnknownSlot modules (images' station) slot order ↔
        UnknownSlot modules (images station) slot order := by
    intro modules station slot order
    cases order <;> simp only [UnknownSlot, hnone]
  constructor
  · rintro (h | ⟨device, h, hvalue⟩ | ⟨device, slot, order, h, hok, hunknown⟩)
    · exact .position h
    · exact .value device h hvalue
    · exact .slot device slot order h hok ((hslot _ _ _ _).mp hunknown)
  · rintro (h | ⟨device, h, hvalue⟩ | ⟨device, slot, order, h, hok, hunknown⟩)
    · exact .position h
    · exact .value device h hvalue
    · exact .slot device slot order h hok ((hslot _ _ _ _).mpr hunknown)

/-- Each request is attempted in order, from the images that the ones before have left. An attempt
that fails leaves them as they are. -/
inductive Attempted (repr : Value F → String) (stations : OutputStations) : OutputImages →
    List (Message F) → List (Option MotionServerException) → OutputImages → Prop
  | nil (images : OutputImages) : Attempted repr stations images [] [] images
  | done {images images' last : OutputImages} {request : Message F} {requests : List (Message F)}
    {outcomes : List (Option MotionServerException)}
    (hrun : writeOutputTarget repr stations request images = (.ok (), images'))
    (hrest : Attempted repr stations images' requests outcomes last) :
    Attempted repr stations images (request :: requests) (none :: outcomes) last
  | failed {images last : OutputImages} {request : Message F} {requests : List (Message F)}
    {outcomes : List (Option MotionServerException)} {e : MotionServerException}
    (hrun : writeOutputTarget repr stations request images = (.error (.motionServer e), images))
    (hrest : Attempted repr stations images requests outcomes last) :
    Attempted repr stations images (request :: requests) (some e :: outcomes) last

/-- The targets of the items that succeeded, and of those that failed. -/
def outcomeTargets : List (OutputTarget F) → List (Option MotionServerException) →
    List (OutputTarget F) × List (OutputTarget F × MotionServerException)
  | target :: targets, outcome :: outcomes =>
    let rest := outcomeTargets targets outcomes
    match outcome with
    | none => (target :: rest.1, rest.2)
    | some e => (rest.1, (target, e) :: rest.2)
  | _, _ => ([], [])

/-- The requests of the items that succeeded. -/
def doneRequests : List (Message F) → List (Option MotionServerException) → List (Message F)
  | request :: requests, outcome :: outcomes => match outcome with
    | none => request :: doneRequests requests outcomes
    | some _ => doneRequests requests outcomes
  | _, _ => []

/-- Every item is attempted in order. The items that are reported as succeeded are those whose values
the images have, unless a later one of them has written the same output, and nothing else has
changed. -/
structure Accounted (repr : Value F → String) (stations : OutputStations)
    (targets : List (OutputTarget F)) (requests : List (Message F)) (images : OutputImages)
    (result : Except PyExc (OutputReport F) × OutputImages) : Prop where
  accounted : ∃ outcomes writes, Attempted repr stations images requests outcomes result.2 ∧
    result.1 = reportOutputs (outcomeTargets targets outcomes) ∧
    List.Forall₂ (fun request write => AsksFor repr stations request write.1 write.2)
      (doneRequests requests outcomes) writes ∧
    ∀ a, result.2.read a = (lastWrite writes a).elim (images.read a) some

theorem attemptOutput_ok {repr : Value F → String} {stations : OutputStations}
    {request : Message F} {images images' : OutputImages}
    (h : writeOutputTarget repr stations request images = (.ok (), images')) :
    attemptOutput repr stations request images = (.ok none, images') := by
  unfold attemptOutput
  rw [Prog.tryCatch_run, Prog.bind_run_ok h]
  rfl

theorem attemptOutput_failed {repr : Value F → String} {stations : OutputStations}
    {request : Message F} {images : OutputImages} {e : MotionServerException}
    (h : writeOutputTarget repr stations request images = (.error (.motionServer e), images)) :
    attemptOutput repr stations request images = (.ok (some e), images) := by
  unfold attemptOutput
  rw [Prog.tryCatch_run, Prog.bind_run_error h]
  rfl

theorem attemptOutput_escaped {repr : Value F → String} {stations : OutputStations}
    {request : Message F} {images : OutputImages} {e : PyExc}
    (he : e = .keyError ∨ e = .overflowError)
    (h : writeOutputTarget repr stations request images = (.error e, images)) :
    attemptOutput repr stations request images = (.error e, images) := by
  unfold attemptOutput
  rw [Prog.tryCatch_run, Prog.bind_run_error h]
  rcases he with rfl | rfl <;> rfl

/-- **A list without a write that escapes** is attempted to its end. -/
theorem attemptOutputs_accounted [TruncRaises F] {repr : Value F → String}
    {stations : OutputStations} (items : List (OutputTarget F × Message F)) (images : OutputImages)
    (hstays : ∀ item ∈ items, ¬ Escapes repr stations images item.2) :
    ∃ outcomes writes last,
      attemptOutputs repr stations items images =
        (.ok (outcomeTargets (items.map Prod.fst) outcomes), last) ∧
      Attempted repr stations images (items.map Prod.snd) outcomes last ∧
      List.Forall₂ (fun request write => AsksFor repr stations request write.1 write.2)
        (doneRequests (items.map Prod.snd) outcomes) writes ∧
      ∀ a, last.read a = (lastWrite writes a).elim (images.read a) some := by
  induction items generalizing images with
  | nil => exact ⟨[], [], images, rfl, .nil images, .nil, fun a => rfl⟩
  | cons item items ih =>
    obtain ⟨target, request⟩ := item
    have hfirst := hstays (target, request) (List.mem_cons_self ..)
    have hrest := fun item hitem => hstays item (List.mem_cons_of_mem _ hitem)
    have houtcome := writeOutputTarget_outcome repr stations request images
    generalize hrun : writeOutputTarget repr stations request images = result at houtcome
    cases houtcome with
    | done a v images' hasks hwritten _ =>
      obtain ⟨outcomes, writes, last, hattempt, hattempted, hwrites, hread⟩ :=
        ih images' fun item hitem h =>
          hrest item hitem ((escapes_congr fun station slot => hwritten.modules station slot).mp h)
      refine ⟨none :: outcomes, (a, v) :: writes, last, ?_, .done hrun hattempted,
        .cons hasks hwrites, ?_⟩
      · unfold attemptOutputs
        rw [Prog.bind_run_ok (attemptOutput_ok hrun), Prog.bind_run_ok hattempt]
        rfl
      · intro b
        rw [hread b, hwritten.read b, lastWrite]
        cases lastWrite writes b with
        | some v' => rfl
        | none =>
          by_cases hb : b = a
          · subst hb
            simp
          · simp [hb, Ne.symm hb]
    | refused e he _ =>
      obtain ⟨failure, rfl⟩ := he
      obtain ⟨outcomes, writes, last, hattempt, hattempted, hwrites, hread⟩ := ih images hrest
      refine ⟨some failure :: outcomes, writes, last, ?_, .failed hrun hattempted, hwrites, hread⟩
      unfold attemptOutputs
      rw [Prog.bind_run_ok (attemptOutput_failed hrun), Prog.bind_run_ok hattempt]
      rfl
    | escaped e he hescapes => exact absurd hescapes hfirst

/-- A write that escapes ends the loop. -/
theorem attemptOutputs_escaped [TruncRaises F] {repr : Value F → String}
    {stations : OutputStations} (items : List (OutputTarget F × Message F)) (images : OutputImages)
    (hescapes : ∃ item ∈ items, Escapes repr stations images item.2) :
    ∃ e, (e = .keyError ∨ e = .overflowError) ∧
      (attemptOutputs repr stations items images).1 = .error e := by
  induction items generalizing images with
  | nil =>
    obtain ⟨item, hitem, -⟩ := hescapes
    cases hitem
  | cons item items ih =>
    obtain ⟨target, request⟩ := item
    have houtcome := writeOutputTarget_outcome repr stations request images
    generalize hrun : writeOutputTarget repr stations request images = result at houtcome
    have hlater : ∀ images', SameModules images images' →
        ¬ Escapes repr stations images request →
        ∃ item ∈ items, Escapes repr stations images' item.2 := by
      intro images' hsame hstays
      obtain ⟨item, hitem, h⟩ := hescapes
      rcases List.mem_cons.mp hitem with rfl | hitem
      · exact absurd h hstays
      · exact ⟨item, hitem, (escapes_congr hsame).mpr h⟩
    cases houtcome with
    | done a v images' _ hwritten hstays =>
      obtain ⟨e, he, hraise⟩ := ih images' (hlater images' hwritten.modules hstays)
      refine ⟨e, he, ?_⟩
      unfold attemptOutputs
      rw [Prog.bind_run_ok (attemptOutput_ok hrun), Prog.bind_run_error (Prog.run_eta hraise)]
    | refused e he hstays =>
      obtain ⟨failure, rfl⟩ := he
      obtain ⟨e, he, hraise⟩ := ih images (hlater images (fun _ _ => rfl) hstays)
      refine ⟨e, he, ?_⟩
      unfold attemptOutputs
      rw [Prog.bind_run_ok (attemptOutput_failed hrun), Prog.bind_run_error (Prog.run_eta hraise)]
    | escaped e he _ =>
      refine ⟨e, he, ?_⟩
      unfold attemptOutputs
      rw [Prog.bind_run_error (attemptOutput_escaped he hrun)]

/-! ## The handler -/

omit [PyFloat F] in
/-- What the report calls the items of a list. -/
def itemTargets (requests : List (Message F)) : List (OutputTarget F) :=
  requests.zipIdx.map fun entry => outputTarget entry.1 entry.2

theorem writeOutputs_list {repr : Value F → String} {stations : OutputStations}
    {message : Message F} {item : Value F} {items : List (Value F)} {requests : List (Message F)}
    (hwrites : message.getD "writes" .null = .list (item :: items))
    (hrequests : itemRequests message (item :: items) = .ok requests) (images : OutputImages) :
    writeOutputs repr stations message images =
      (attemptOutputs repr stations ((itemTargets requests).zip requests) >>= fun outcomes =>
        Prog.lift (reportOutputs outcomes)) images := by
  unfold writeOutputs
  rw [hwrites]
  dsimp only
  rw [hrequests, Prog.bind_run_ok (Prog.lift_run _ _)]
  rfl

/-- A list with an item that is no object is refused before any attempt. -/
theorem writeOutputs_malformed {repr : Value F → String} {stations : OutputStations}
    {message : Message F} {item : Value F} {items : List (Value F)} {e : PyExc}
    (hwrites : message.getD "writes" .null = .list (item :: items))
    (hrequests : itemRequests message (item :: items) = .error e) (images : OutputImages) :
    writeOutputs repr stations message images = (.error e, images) := by
  unfold writeOutputs
  rw [hwrites]
  dsimp only
  rw [hrequests, Prog.bind_run_error (Prog.lift_run _ _)]

omit [PyFloat F] in
theorem zip_itemTargets (requests : List (Message F)) :
    ((itemTargets requests).zip requests).map Prod.fst = itemTargets requests ∧
      ((itemTargets requests).zip requests).map Prod.snd = requests := by
  have hlength : (itemTargets requests).length = requests.length := by
    rw [itemTargets, List.length_map, List.length_zipIdx]
  exact ⟨List.map_fst_zip hlength.le, List.map_snd_zip hlength.ge⟩

omit [PyFloat F] in
/-- A report is no exception that escapes. -/
theorem reportOutputs_ne
    {outcomes : List (OutputTarget F) × List (OutputTarget F × MotionServerException)} {e : PyExc}
    (he : e = .keyError ∨ e = .overflowError) : reportOutputs outcomes ≠ .error e := by
  unfold reportOutputs
  rcases he with rfl | rfl <;> split <;> simp

/-- A station with a module of two digital outputs. -/
def twoOutputs : OutputImages :=
  fun station slot => if station = 0 ∧ slot = 1 then some ⟨[false, false], [], []⟩ else none

/-- A bus with this station only. -/
def outputStation : OutputStations := ⟨[⟨false, none⟩], fun _ => []⟩

/-- A write of the first digital output of a slot. -/
def firstOutput (slot : ℤ) : Value ExtRat :=
  .dict [("kind", .str "digital"), ("slot", .int slot), ("channel", .int 0), ("value", .bool true)]

end MotionServer
