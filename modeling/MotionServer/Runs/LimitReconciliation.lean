import MotionServer.Handlers.AxisSettings
import MotionServer.Device.VirtualOdBridge
import MotionServer.Runs.Requests

/-!
# The copies of the limits of an axis

* `Reads`: a read-back that works;
* `reconcile_run`: what the course of write and read-back makes of the state;
* `AxisCopies.HoldsMotion`, `AxisCopies.HoldsSoftware`: the copies hold limits of the drive;
* **`limits_reconciled_iff`**: when the copies hold what the drive stores, after each update;
* `loop_holds`: what a request makes of all axes it names.
-/

namespace MotionServer

variable {n : ℕ} {F D : Type} [PyFloat F]

/-! ## Reading back -/

omit [PyFloat F] in
/-- The read-back works: it returns what the drive stores, and leaves it there. -/
structure Reads {α : Type} (read : Prog PyExc D α) (stored : D → α) : Prop where
  ok : ∀ d, (read d).1 = .ok (stored d)
  kept : ∀ d, stored (read d).2 = stored d

/-- Nothing was raised, or an exception that is caught. -/
def Caught {α : Type} (r : Except PyExc α) : Prop := ∀ e, r = .error e → e.isProfileAccessError = true

section Reconcile

variable {α : Type} {a : Fin n} {write : Prog PyExc D Unit} {read : Prog PyExc D α}
  {keep : AxisUnits → α → AxisCopies F → AxisCopies F} {stored : D → α}

omit [PyFloat F] in
theorem onDevice_run (a : Fin n) (m : Prog PyExc D α) (s : SettingsState n F D) :
    onDevice a m s = ((m (s.devices a)).1,
      { s with devices := Function.update s.devices a (m (s.devices a)).2 }) := rfl

theorem keepingError_ok {σ : Type} {m : Prog PyExc σ Unit} {s s' : σ} (h : m s = (.ok (), s')) :
    keepingError m s = (.ok none, s') := by
  rw [keepingError, Prog.tryCatch_run, Prog.bind_run_ok h]
  rfl

theorem keepingError_error {σ : Type} {m : Prog PyExc σ Unit} {s s' : σ} {e : PyExc}
    (h : m s = (.error e, s')) :
    keepingError m s = (if e.isProfileAccessError then .ok (some e) else .error e, s') := by
  rw [keepingError, Prog.tryCatch_run, Prog.bind_run_error h]
  dsimp only
  split_ifs <;> rfl

omit [PyFloat F] in
theorem readback_run (hread : Reads read stored) (handle : PyExc → PyExc)
    (s : SettingsState n F D) :
    (tryCatch (onDevice a read) fun e => throw (handle e) :
        Prog PyExc (SettingsState n F D) α) s =
      (.ok (stored (s.devices a)), { s with
        devices := Function.update s.devices a (read (s.devices a)).2 }) := by
  rw [Prog.tryCatch_run, onDevice_run, hread.ok]

omit [PyFloat F] in
/-- **An update whose write fails in a way that is caught, or not at all.** The copies are those of
what the drive stores, and what the write raised is raised. -/
theorem reconcile_caught (hread : Reads read stored) (s : SettingsState n F D)
    (hcaught : Caught (write (s.devices a)).1) :
    ∃ d, stored d = stored (write (s.devices a)).2 ∧
      reconcile a write read keep s = ((write (s.devices a)).1, { s with
        devices := Function.update s.devices a d
        copies := Function.update s.copies a (keep (s.units a) (stored d) (s.copies a)) }) := by
  cases hwrite : write (s.devices a) with
  | mk r d₁ =>
    rw [hwrite] at hcaught
    have hdevice : onDevice a write s =
        (r, { s with devices := Function.update s.devices a d₁ }) := by
      rw [onDevice_run, hwrite]
    refine ⟨(read d₁).2, hread.kept d₁, ?_⟩
    unfold reconcile
    cases r with
    | ok u =>
      rw [Prog.bind_run_ok (keepingError_ok hdevice), Prog.bind_run_ok (readback_run hread _ _),
        Prog.bind_run_ok (Prog.modify_run _ _)]
      simp only [Function.update_self, Function.update_idem, hread.kept]
      rfl
    | error e =>
      have hkeeping := keepingError_error hdevice
      rw [if_pos (hcaught e rfl)] at hkeeping
      rw [Prog.bind_run_ok hkeeping, Prog.bind_run_ok (readback_run hread _ _),
        Prog.bind_run_ok (Prog.modify_run _ _)]
      simp only [Function.update_self, Function.update_idem, hread.kept]
      rfl

omit [PyFloat F] in
/-- An update whose write fails in another way: nothing is read back. -/
theorem reconcile_uncaught {e : PyExc} {d : D} {s : SettingsState n F D}
    (hwrite : write (s.devices a) = (.error e, d)) (huncaught : e.isProfileAccessError = false) :
    reconcile a write read keep s =
      (.error e, { s with devices := Function.update s.devices a d }) := by
  have hdevice : onDevice a write s =
      (.error e, { s with devices := Function.update s.devices a d }) := by
    rw [onDevice_run, hwrite]
  have hkeeping := keepingError_error hdevice
  rw [if_neg (by simp [huncaught])] at hkeeping
  exact Prog.bind_run_error hkeeping

omit [PyFloat F] in
/-- **When the copies hold what the drive stores after an update.** The update raises what the write
raises, and the copies hold what is stored, exactly when the write raises nothing that is not
caught or leaves the drive with what the copies hold already. -/
theorem reconcile_holds_iff (hread : Reads read stored) (s : SettingsState n F D)
    (holds : AxisUnits → α → AxisCopies F → Prop)
    (hkeep : ∀ units limits copies, holds units limits (keep units limits copies)) :
    ((reconcile a write read keep s).1 = (write (s.devices a)).1 ∧
      holds (s.units a) (stored ((reconcile a write read keep s).2.devices a))
        ((reconcile a write read keep s).2.copies a)) ↔
      Caught (write (s.devices a)).1 ∨
        holds (s.units a) (stored (write (s.devices a)).2) (s.copies a) := by
  by_cases hcaught : Caught (write (s.devices a)).1
  · obtain ⟨d, -, hrun⟩ : ∃ d, _ ∧ reconcile a write read keep s = _ :=
      reconcile_caught hread s hcaught
    rw [hrun]
    simp only [Function.update_self, true_and]
    exact ⟨fun _ => Or.inl hcaught, fun _ => hkeep _ _ _⟩
  · unfold Caught at hcaught
    push Not at hcaught
    obtain ⟨e, he, huncaught⟩ := hcaught
    have huncaught : e.isProfileAccessError = false := by simpa using huncaught
    rw [reconcile_uncaught (Prog.run_eta he) huncaught]
    simp only [Function.update_self, he, true_and]
    refine ⟨Or.inr, fun h => h.resolve_left fun hcaught => ?_⟩
    rw [hcaught e rfl] at huncaught
    cases huncaught

/-! ## Requests -/

section Loop

variable {β : Type} (parse : SettingsState n F D → Fin n → Except PyExc β)
  (write : β → Prog PyExc D Unit) (read : Prog PyExc D α)
  (keep : AxisUnits → α → AxisCopies F → AxisCopies F) (stored : D → α)
  (holds : AxisUnits → α → AxisCopies F → Prop)

/-- The step of a request for one axis: what is asked for depends on the copies. -/
def limitStep (a : Fin n) : Prog PyExc (SettingsState n F D) Unit := do
  let s ← Prog.get
  let requested ← Prog.lift (parse s a)
  reconcile a (write requested) read keep

/-- Each update of the request raises nothing that is not caught, or leaves the drive as it is. -/
def LoopCaught : List (Fin n) → SettingsState n F D → Prop
  | [], _ => True
  | a :: axes, s =>
    (∀ requested, parse s a = .ok requested → Caught (write requested (s.devices a)).1 ∨
      holds (s.units a) (stored (write requested (s.devices a)).2) (s.copies a)) ∧
    ∀ s', limitStep parse write read keep a s = (.ok (), s') → LoopCaught axes s'

/-- The axis is as it was, or its copies hold what its drive stores. -/
def Settled (s s' : SettingsState n F D) (b : Fin n) : Prop :=
  (s'.copies b = s.copies b ∧ s'.devices b = s.devices b) ∨
    holds (s'.units b) (stored (s'.devices b)) (s'.copies b)

variable {parse write read keep stored holds}

omit [PyFloat F] in
variable (read keep) in
theorem reconcile_frame (a : Fin n) (s : SettingsState n F D) (w : Prog PyExc D Unit) :
    (reconcile a w read keep s).2.units = s.units ∧ ∀ b, b ≠ a →
      (reconcile a w read keep s).2.copies b = s.copies b ∧
        (reconcile a w read keep s).2.devices b = s.devices b := by
  have hdevice : ∀ {γ : Type} (m : Prog PyExc D γ), Prog.Keeps (Prog.Frame.eqOn
      fun s : SettingsState n F D =>
        (s.units, fun b : { b // b ≠ a } => (s.copies b, s.devices b))) (onDevice a m) := by
    intro γ m s
    show (_, _) = (_, _)
    refine congrArg _ (funext fun b => ?_)
    show (_, Function.update _ _ _ _) = _
    rw [Function.update_of_ne b.2]
    rfl
  have hkeeps : Prog.Keeps (Prog.Frame.eqOn fun s : SettingsState n F D =>
      (s.units, fun b : { b // b ≠ a } => (s.copies b, s.devices b)))
      (reconcile a w read keep) := by
    refine Prog.Keeps.bind ?_ fun writeError => Prog.Keeps.bind ?_ fun readback =>
      Prog.Keeps.seq ?_ ?_
    · refine Prog.Keeps.tryCatch ((hdevice w).seq (Prog.Keeps.pure _)) fun e => ?_
      exact (Prog.Keeps.pure _).ite (Prog.Keeps.throw _)
    · exact (hdevice read).tryCatch fun e => Prog.Keeps.throw _
    · refine Prog.Keeps.modify fun s => ?_
      show (_, _) = (_, _)
      refine congrArg _ (funext fun b => ?_)
      show (Function.update _ _ _ _, _) = _
      rw [Function.update_of_ne b.2]
    · cases writeError with
      | none => exact Prog.Keeps.pure _
      | some e => exact Prog.Keeps.throw _
  have hsame := hkeeps s
  refine ⟨congrArg Prod.fst hsame, fun b hb => ?_⟩
  have hb := congrFun (congrArg Prod.snd hsame) ⟨b, hb⟩
  exact ⟨congrArg Prod.fst hb, congrArg Prod.snd hb⟩

omit [PyFloat F] in
/-- One axis of a request is settled by its update, the others are as they were. -/
theorem limitStep_settled (hread : Reads read stored)
    (hkeep : ∀ units limits copies, holds units limits (keep units limits copies)) {a : Fin n}
    {s : SettingsState n F D}
    (h : ∀ requested, parse s a = .ok requested → Caught (write requested (s.devices a)).1 ∨
      holds (s.units a) (stored (write requested (s.devices a)).2) (s.copies a)) :
    (limitStep parse write read keep a s).2.units = s.units ∧
      (∀ b, Settled stored holds s (limitStep parse write read keep a s).2 b) ∧
      ((limitStep parse write read keep a s).1 = .ok () →
        holds (s.units a) (stored ((limitStep parse write read keep a s).2.devices a))
          ((limitStep parse write read keep a s).2.copies a)) := by
  unfold limitStep
  rw [Prog.bind_run_ok (Prog.get_run s)]
  cases hparse : parse s a with
  | error e => exact ⟨rfl, fun b => Or.inl ⟨rfl, rfl⟩, fun hok => by cases hok⟩
  | ok requested =>
    rw [Prog.bind_run_ok (Prog.lift_run _ s)]
    obtain ⟨hunits, hothers⟩ := reconcile_frame read keep a s (write requested)
    obtain ⟨-, hholds⟩ := (reconcile_holds_iff hread s holds hkeep).mpr (h requested hparse)
    refine ⟨hunits, fun b => ?_, fun _ => hholds⟩
    by_cases hb : b = a
    · subst hb
      refine Or.inr ?_
      rw [hunits]
      exact hholds
    · exact Or.inl (hothers b hb)

omit [PyFloat F] in
theorem Settled.trans {s s₁ s₂ : SettingsState n F D} {b : Fin n} (hunits : s₂.units = s₁.units)
    (h₁ : Settled stored holds s s₁ b) (h₂ : Settled stored holds s₁ s₂ b) :
    Settled stored holds s s₂ b := by
  rcases h₂ with ⟨hcopies, hdevices⟩ | h₂
  · rcases h₁ with ⟨hcopies₁, hdevices₁⟩ | h₁
    · exact Or.inl ⟨hcopies.trans hcopies₁, hdevices.trans hdevices₁⟩
    · refine Or.inr ?_
      rw [hunits, hcopies, hdevices]
      exact h₁
  · exact Or.inr h₂

omit [PyFloat F] in
/-- **A request settles every axis**, and each axis it names where it succeeds. -/
theorem loop_holds (hread : Reads read stored)
    (hkeep : ∀ units limits copies, holds units limits (keep units limits copies))
    {axes : List (Fin n)} {s : SettingsState n F D}
    (h : LoopCaught parse write read keep stored holds axes s) :
    (axes.forM (limitStep parse write read keep) s).2.units = s.units ∧
      (∀ b, Settled stored holds s (axes.forM (limitStep parse write read keep) s).2 b) ∧
      ((axes.forM (limitStep parse write read keep) s).1 = .ok () → ∀ b ∈ axes,
        holds (s.units b) (stored ((axes.forM (limitStep parse write read keep) s).2.devices b))
          ((axes.forM (limitStep parse write read keep) s).2.copies b)) := by
  induction axes generalizing s with
  | nil => exact ⟨rfl, fun b => Or.inl ⟨rfl, rfl⟩, fun _ b hb => absurd hb List.not_mem_nil⟩
  | cons a axes ih =>
    obtain ⟨hstep, hrest⟩ := h
    obtain ⟨hunits, hsettled, hok⟩ := limitStep_settled hread hkeep hstep
    have hcons : (a :: axes).forM (limitStep parse write read keep) =
        (limitStep parse write read keep a >>= fun _ =>
          axes.forM (limitStep parse write read keep)) := rfl
    rw [hcons]
    cases hrun : limitStep parse write read keep a s with
    | mk r s₁ =>
      rw [hrun] at hunits hsettled hok
      cases r with
      | error e =>
        rw [Prog.bind_run_error hrun]
        exact ⟨hunits, hsettled, fun hc => by cases hc⟩
      | ok u =>
        rw [Prog.bind_run_ok hrun]
        obtain ⟨hunits', hsettled', hok'⟩ := ih (hrest s₁ hrun)
        refine ⟨hunits'.trans hunits, fun b => (hsettled b).trans hunits' (hsettled' b), ?_⟩
        intro hlast b hb
        rw [← hunits]
        rcases List.mem_cons.mp hb with rfl | hb
        · rcases hsettled' b with ⟨hcopies, hdevices⟩ | hholds
          · rw [hcopies, hdevices, hunits]
            exact hok rfl
          · rw [hunits'] at hholds
            exact hholds
        · exact hok' hlast b hb

end Loop

end Reconcile

/-! ## Values that fit -/

theorem Caught.bind {α β : Type} {m : Prog PyExc D α} {f : α → Prog PyExc D β} {d : D}
    (hm : Caught (m d).1) (hf : ∀ x d', m d = (.ok x, d') → Caught (f x d').1) :
    Caught ((m >>= f) d).1 := by
  cases hrun : m d with
  | mk r d' =>
    rw [hrun] at hm
    cases r with
    | ok x =>
      rw [Prog.bind_run_ok hrun]
      exact hf x d' hrun
    | error e =>
      rw [Prog.bind_run_error hrun]
      intro e' he'
      exact hm e' (congrArg Except.error (Except.error.inj he'))

/-- What the transport raises is caught. -/
def SdoTransport.RaisesCaught (transport : SdoTransport D) : Prop :=
  ∀ index subindex payload d, Caught (transport.writeSdo index subindex payload d).1

theorem caught_write {sdo : TypedSdoAccess F D} (htransport : sdo.transport.RaisesCaught)
    {format : StructFormat} {value : OdValue F} (hpack : Caught (structPack sdo.codec format value))
    (index subindex : ℕ) (d : D) : Caught (sdo.write index subindex format value d).1 :=
  Caught.bind hpack fun payload d' _ => htransport index subindex payload d'

theorem caught_structPack_int (codec : Float32Codec F) {signed : Bool} {i : ℤ}
    (h : Bytes.Fits signed 4 i) : Caught (structPack codec (.integer signed 4) (.int i)) := by
  intro e he
  simp [structPack, OdValue.toInt, h, Except.ok_bind] at he
  cases he

/-- Software position limits of 32 bits are reconciled. -/
theorem caught_writeSoftwarePositionLimits {sdo : TypedSdoAccess F D}
    (htransport : sdo.transport.RaisesCaught) {limits : ℤ × ℤ} (hnegative : Bytes.Fits true 4 limits.1)
    (hpositive : Bytes.Fits true 4 limits.2) (d : D) :
    Caught (writeSoftwarePositionLimits sdo limits d).1 :=
  Caught.bind (caught_write htransport (caught_structPack_int _ hnegative) _ _ d) fun _ d' _ =>
    caught_write htransport (caught_structPack_int _ hpositive) _ _ d'

/-- The number is below `2 ** 32`, or has no integer part. -/
def FitsUint32 (x : F) : Prop :=
  Caught (PyFloat.truncInt x) ∧ ∀ i, PyFloat.truncInt x = .ok i → i < 2 ^ 32

theorem caught_writeClamped {sdo : TypedSdoAccess F D} (htransport : sdo.transport.RaisesCaught)
    {x : F} (hx : FitsUint32 x) {m : Prog PyExc D Unit} (hm : ∀ d, Caught (m d).1)
    (index subindex : ℕ) (d : D) :
    Caught ((do
      let i ← Prog.lift (clampedInt x)
      sdo.writeUint32 index subindex i
      m : Prog PyExc D Unit) d).1 := by
  have hclamped : Caught (clampedInt x) := by
    intro e he
    cases htrunc : PyFloat.truncInt x with
    | ok i =>
      rw [clampedInt, htrunc] at he
      cases he
    | error e' =>
      rw [clampedInt, htrunc] at he
      obtain rfl := Except.error.inj he
      exact hx.1 e' htrunc
  refine Caught.bind hclamped fun i d₁ hi => Caught.bind ?_ fun _ d₂ _ => hm d₂
  obtain ⟨hi, -⟩ := Prog.lift_eq_ok.mp hi
  obtain ⟨j, hj, hmax⟩ := Except.bind_eq_ok.mp hi
  obtain rfl := Except.ok.inj hmax
  have hlt := hx.2 j hj
  refine caught_write htransport (caught_structPack_int _ ?_) _ _ _
  show 0 ≤ max 0 j ∧ max 0 j < (256 ^ 4 : ℕ)
  omega

/-- Motion limits below `2 ** 32` are reconciled. -/
theorem caught_writeMotionLimits {sdo : TypedSdoAccess F D}
    (htransport : sdo.transport.RaisesCaught) (hcodec : ∀ x, Caught (sdo.codec.pack x))
    {limits : DriveMotionLimits F} (hvelocity : FitsUint32 limits.positiveVelocity)
    (hacceleration : FitsUint32 limits.acceleration)
    (hdeceleration : FitsUint32 limits.deceleration) (d : D) :
    Caught (writeMotionLimits sdo limits d).1 := by
  refine caught_writeClamped htransport hvelocity (fun d => Caught.bind ?_ fun _ d' _ => ?_) _ _ d
  · refine caught_write htransport ?_ _ _ d
    refine fun e he => ?_
    cases hpack : sdo.codec.pack (limits.negativeVelocity / 1000.0) with
    | ok bits =>
      simp only [structPack, OdValue.toFloat, Except.ok_bind, hpack] at he
      cases he
    | error e' =>
      simp only [structPack, OdValue.toFloat, Except.ok_bind, hpack] at he
      obtain rfl := Except.error.inj he
      exact hcodec _ e' hpack
  · refine caught_writeClamped htransport hacceleration (fun d'' => ?_) _ _ d'
    have hlast := caught_writeClamped htransport hdeceleration (m := pure ())
      (fun _ e he => by cases he) maxDecelerationIndex 0 d''
    rwa [show (do
      let i ← Prog.lift (clampedInt limits.deceleration)
      sdo.writeUint32 maxDecelerationIndex 0 i
      pure () : Prog PyExc D Unit) = (do
      let i ← Prog.lift (clampedInt limits.deceleration)
      sdo.writeUint32 maxDecelerationIndex 0 i) from by simp] at hlast

/-! ## The limits of an axis -/

/-- All copies of the motion limits are those limits; the controller has them in API units. -/
structure AxisCopies.HoldsMotion (units : AxisUnits) (limits : DriveMotionLimits F)
    (copies : AxisCopies F) : Prop where
  motionLimits : copies.motionLimits = limits
  slaveMotionLimits : copies.slaveMotionLimits = limits
  controllerLimits : copies.controllerLimits = .ofDrive units limits copies.controllerLimits

omit [PyFloat F] in
/-- The copy of the software position limits is those limits. -/
def AxisCopies.HoldsSoftware (_ : AxisUnits) (limits : ℤ × ℤ) (copies : AxisCopies F) : Prop :=
  copies.softwarePositionLimits = limits

theorem holdsMotion_withMotionLimits (units : AxisUnits) (limits : DriveMotionLimits F)
    (copies : AxisCopies F) : AxisCopies.HoldsMotion units limits
      (copies.withMotionLimits units limits) := ⟨rfl, rfl, rfl⟩

omit [PyFloat F] in
theorem holdsSoftware_withSoftwareLimits (units : AxisUnits) (limits : ℤ × ℤ)
    (copies : AxisCopies F) : AxisCopies.HoldsSoftware units limits
      (copies.withSoftwareLimits units limits) := rfl

/-- A drive that keeps what is written to its objects. -/
def storingTransport : SdoTransport (ℕ × ℕ → ℕ) where
  writeSdo index subindex payload :=
    Prog.modify fun d => Function.update d (index, subindex) (Bytes.toNatLE payload)
  readSdo index subindex size := fun d => (.ok (Bytes.ofNatLE size (d (index, subindex))), d)

/-- Access to the drive with a codec for the float 0. -/
def storingSdo : TypedSdoAccess ExtRat (ℕ × ℕ → ℕ) := ⟨withoutFloats, storingTransport⟩

def storedMotion (d : ℕ × ℕ → ℕ) : DriveMotionLimits ExtRat where
  positiveVelocity := PyFloat.ofInt (Bytes.toInt false (Bytes.ofNatLE 4 (d (0x607F, 0))))
  negativeVelocity := .fin 0 * 1000.0
  acceleration := PyFloat.ofInt (Bytes.toInt false (Bytes.ofNatLE 4 (d (0x60C5, 0))))
  deceleration := PyFloat.ofInt (Bytes.toInt false (Bytes.ofNatLE 4 (d (0x60C6, 0))))

def storedSoftware (d : ℕ × ℕ → ℕ) : ℤ × ℤ :=
  (Bytes.toInt true (Bytes.ofNatLE 4 (d (0x607D, 1))),
    Bytes.toInt true (Bytes.ofNatLE 4 (d (0x607D, 2))))

theorem reads_storedMotion : Reads (readMotionLimits storingSdo) storedMotion :=
  ⟨fun _ => rfl, fun _ => rfl⟩

theorem reads_storedSoftware : Reads (readSoftwarePositionLimits storingSdo) storedSoftware :=
  ⟨fun _ => rfl, fun _ => rfl⟩

/-- An axis whose limits are all 1000, and whose copies are as they should be. -/
def thousandLimits : SettingsState 1 ExtRat (ℕ × ℕ → ℕ) where
  devices _ _ := 1000
  units _ := { userPositionUnit := none, convertingUnitExponents := none }
  copies _ :=
    { motionLimits := storedMotion fun _ => 1000
      slaveMotionLimits := storedMotion fun _ => 1000
      controllerLimits := ⟨1000.0, 1000.0, 1000.0, 0.0⟩
      softwarePositionLimits := (1000, 1000) }

/-- A velocity that fits and an acceleration that does not. -/
def overflowingLimits : DriveMotionLimits ExtRat := ⟨2000.0, 0.0, 4294967296.0, 1000.0⟩

/-- **A request for motion limits settles every axis**: it is as it was, or its copies hold what its
drive stores. -/
theorem setMotionLimits_settles (sdo : TypedSdoAccess F D) {motion : D → DriveMotionLimits F}
    (hmotion : Reads (readMotionLimits sdo) motion) {message : Message F}
    {s : SettingsState n F D} {axes : List (Fin n)} (haxes : selectedAxes n message = .ok axes)
    (h : LoopCaught
      (fun s a => requestedMotionLimits (s.units a) message (s.copies a).motionLimits)
      (writeMotionLimits sdo) (readMotionLimits sdo) AxisCopies.withMotionLimits motion
      AxisCopies.HoldsMotion axes s) (b : Fin n) :
    Settled motion AxisCopies.HoldsMotion s (setMotionLimits sdo message s).2 b := by
  obtain ⟨-, hsettled, -⟩ := loop_holds hmotion holdsMotion_withMotionLimits h
  unfold setMotionLimits
  rw [Prog.tryCatch_throw_state, haxes, Prog.bind_run_ok (Prog.lift_run _ s)]
  exact hsettled b

/-- **A request for software position limits settles every axis.** -/
theorem setSoftwarePositionLimits_settles (sdo : TypedSdoAccess F D) {software : D → ℤ × ℤ}
    (hsoftware : Reads (readSoftwarePositionLimits sdo) software) {message : Message F}
    {s : SettingsState n F D} {axes : List (Fin n)} (haxes : selectedAxes n message = .ok axes)
    (h : LoopCaught
      (fun s a => requestedSoftwareLimits (s.units a) message (s.copies a).softwarePositionLimits)
      (writeSoftwarePositionLimits sdo) (readSoftwarePositionLimits sdo)
      AxisCopies.withSoftwareLimits software AxisCopies.HoldsSoftware axes s) (b : Fin n) :
    Settled software AxisCopies.HoldsSoftware s (setSoftwarePositionLimits sdo message s).2 b := by
  obtain ⟨-, hsettled, -⟩ := loop_holds hsoftware holdsSoftware_withSoftwareLimits h
  unfold setSoftwarePositionLimits
  rw [Prog.tryCatch_throw_state, haxes, Prog.bind_run_ok (Prog.lift_run _ s)]
  exact hsettled b

end MotionServer
