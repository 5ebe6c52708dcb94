import MotionServer.App.Session

/-!
# The runtime state and the diagnostics

Most programs of the session only let diagnostics of the server and of the bus fade: what is still
stored was stored before. The invariant is that a normal state has none of them.

* `Stored`, `Recedes`, `fading`: the diagnostics of the server and the bus, and how they fade;
* `Agrees`: the invariant, `agrees_step` one event;
* `completeBusReconnectDiagnostics_clear`, `acknowledgeFaults_clears`: what clears them;
* **`runtimeState_agrees`**: every run.
-/

namespace MotionServer.ServerSession

open DiagnosticManager

variable {T : Type}

/-! ## Diagnostics of the server and of the bus -/

/-- A status of the server or of the bus. -/
def IsGlobal (status : DiagnosticStatus T) : Prop :=
  status.source.type = .server ∨ status.source.type = .bus

instance (status : DiagnosticStatus T) : Decidable (IsGlobal status) :=
  inferInstanceAs (Decidable (_ ∨ _))

/-- The definitions that statuses of the server and of the bus have. -/
def Known (status : DiagnosticStatus T) : Prop :=
  (status.source.type = .server → status.definition = serverInitializationFailed) ∧
    (status.source.type = .bus → status.definition = busConnectionLost ∨
      status.definition = busReconnectFailed ∨ status.definition = busProcessDataIncomplete)

/-- No status of the server or of the bus is stored. -/
def Clear (m : DiagnosticManager T) : Prop := ∀ k status, m.lookup k = some status → ¬ IsGlobal status

theorem source_eq {source : DiagnosticSource} (source' : DiagnosticSource) (htype : source.type = source'.type)
    (h : source'.type = .server ∨ source'.type = .bus) : source = source' := by
  have hindex : source.index = source'.index := by
    rw [source.index_eq (htype ▸ h), source'.index_eq h]
  cases source with
  | mk type index _ =>
    cases source' with
    | mk type' index' _ =>
      obtain rfl : type = type' := htype
      obtain rfl : index = index' := hindex
      rfl

/-- Every known status is a fault that latches. -/
theorem Known.fault {status : DiagnosticStatus T} (h : Known status) (hglobal : IsGlobal status) :
    status.definition.level = .fault ∧ status.definition.latching = true := by
  rcases hglobal with htype | htype
  · rw [h.1 htype]
    exact ⟨rfl, rfl⟩
  · rcases h.2 htype with hdef | hdef | hdef <;> rw [hdef] <;> exact ⟨rfl, rfl⟩

variable [LT T] [DecidableLT T]

/-- The tables are consistent and hold known statuses. -/
structure Stored (m : DiagnosticManager T) : Prop where
  consistent : m.Consistent
  known : ∀ {k status}, m.lookup k = some status → Known status

/-- What is left in `m'` of the server and of the bus was in `m`, and is resolved if it was. -/
structure Recedes (m m' : DiagnosticManager T) : Prop where
  stored : Stored m'
  faded : ∀ {k status'}, m'.lookup k = some status' → IsGlobal status' →
    ∃ status, m.lookup k = some status ∧ SameStatus status status' ∧
      (status.history.resolvedAt ≠ none → status'.history.resolvedAt ≠ none)

theorem Recedes.refl {m : DiagnosticManager T} (hm : Stored m) : Recedes m m :=
  ⟨hm, fun h _ => ⟨_, h, ⟨rfl, rfl, rfl⟩, id⟩⟩

omit [LT T] [DecidableLT T] in
theorem IsGlobal.same {s s' : DiagnosticStatus T} (hsame : SameStatus s s') :
    IsGlobal s' ↔ IsGlobal s := by
  unfold IsGlobal
  rw [hsame.source]

omit [LT T] [DecidableLT T] in
theorem Known.same {s s' : DiagnosticStatus T} (hsame : SameStatus s s') (h : Known s) :
    Known s' := by
  unfold Known
  rw [hsame.source, hsame.definition]
  exact h

theorem Recedes.trans {m₁ m₂ m₃ : DiagnosticManager T} (h₁ : Recedes m₁ m₂) (h₂ : Recedes m₂ m₃) :
    Recedes m₁ m₃ where
  stored := h₂.stored
  faded h hglobal := by
    obtain ⟨s₂, hs₂, hsame₂, hres₂⟩ := h₂.faded h hglobal
    obtain ⟨s₁, hs₁, hsame₁, hres₁⟩ := h₁.faded hs₂ ((IsGlobal.same hsame₂).mp hglobal)
    exact ⟨s₁, hs₁, ⟨hsame₂.1.trans hsame₁.1, hsame₂.2.trans hsame₁.2, hsame₂.3.trans hsame₁.3⟩,
      fun h => hres₂ (hres₁ h)⟩

theorem Recedes.clear {m m' : DiagnosticManager T} (h : Recedes m m') (hm : Clear m) :
    Clear m' := fun k status' hs' hglobal => by
  obtain ⟨status, hs, hsame, -⟩ := h.faded hs' hglobal
  exact hm k status hs ((IsGlobal.same hsame).mp hglobal)

/-- What `has_active_fault` says of the server and the bus. -/
theorem globalFault_eq_false {s : ServerSession T} (hm : Stored s.diagnosticManager) :
    s.globalFault = false ↔ Clear s.diagnosticManager := by
  unfold globalFault
  rw [Bool.or_eq_false_iff, ← Bool.not_eq_true, ← Bool.not_eq_true, hasActiveFault_iff,
    hasActiveFault_iff]
  constructor
  · rintro ⟨hserver, hbus⟩ k status hs hglobal
    have hlevel := ((hm.known hs).fault hglobal).1
    rcases hglobal with htype | htype
    · exact hserver ⟨k, status, hs, hlevel, htype⟩
    · exact hbus ⟨k, status, hs, hlevel, htype⟩
  · intro h
    constructor
    · rintro ⟨k, status, hs, -, htype⟩
      exact h k status hs (Or.inl htype)
    · rintro ⟨k, status, hs, -, htype⟩
      exact h k status hs (Or.inr htype)

/-! ## Calls of the manager -/

/-- The session after a call that left the manager `m`. -/
def called (s : ServerSession T) (m : DiagnosticManager T) : ServerSession T :=
  { s with diagnosticManager := m, calls := s.calls + 1 }

/-- Diagnostics of the server and of the bus fade, and the session keeps its state. -/
def fading : Prog.Frame (ServerSession T) where
  Rel s s' := (s'.runtimeState = s.runtimeState ∧ s'.runtime = s.runtime ∧
      s'.stateStatus = s.stateStatus ∧ s'.reconnectOperation = s.reconnectOperation) ∧
    (Stored s.diagnosticManager → Recedes s.diagnosticManager s'.diagnosticManager)
  refl _ := ⟨⟨rfl, rfl, rfl, rfl⟩, Recedes.refl⟩
  trans _ _ _ h h' := ⟨⟨h'.1.1.trans h.1.1, h'.1.2.1.trans h.1.2.1, h'.1.2.2.1.trans h.1.2.2.1,
    h'.1.2.2.2.trans h.1.2.2.2⟩, fun hm => (h.2 hm).trans (h'.2 (h.2 hm).stored)⟩

/-- A call that changes one status, to one that was there or to none. -/
theorem Recedes.of_lookup {m m' : DiagnosticManager T} (hm : Stored m) (hm' : m'.Consistent)
    {k₀ : DiagnosticKey} {o : Option (DiagnosticStatus T)}
    (hlookup : ∀ k, m'.lookup k = if k = k₀ then o else m.lookup k)
    (ho : ∀ status' ∈ o, (∃ status, m.lookup k₀ = some status ∧ SameStatus status status' ∧
      (status.history.resolvedAt ≠ none → status'.history.resolvedAt ≠ none)) ∨
      ¬ IsGlobal status') : Recedes m m' := by
  have hcases {k : DiagnosticKey} {status' : DiagnosticStatus T}
      (h : m'.lookup k = some status') : m.lookup k = some status' ∨ k = k₀ ∧ status' ∈ o := by
    rw [hlookup] at h
    split_ifs at h with hk
    · exact Or.inr ⟨hk, h⟩
    · exact Or.inl h
  constructor
  · refine ⟨hm', fun h => ?_⟩
    rcases hcases h with h | ⟨rfl, h⟩
    · exact hm.known h
    · rcases ho _ h with ⟨status, hs, hsame, -⟩ | hnot
      · exact (hm.known hs).same hsame
      · exact ⟨fun htype => absurd (Or.inl htype) hnot, fun htype => absurd (Or.inr htype) hnot⟩
  · intro k status' h hglobal
    rcases hcases h with h | ⟨rfl, h⟩
    · exact ⟨status', h, ⟨rfl, rfl, rfl⟩, id⟩
    · rcases ho _ h with hstatus | hnot
      · exact hstatus
      · exact absurd hglobal hnot

omit [LT T] [DecidableLT T] in
theorem resolvedAt_resolved (s : DiagnosticStatus T) (t : T) :
    (resolved s t).history.resolvedAt ≠ none := by
  unfold resolved
  split_ifs with h
  · simp [DiagnosticStatus.setResolved]
  · exact h

omit [LT T] [DecidableLT T] in
theorem resolvedAt_acknowledged (s : DiagnosticStatus T) (t : T) :
    (acknowledged s t).history.resolvedAt = s.history.resolvedAt := by
  unfold acknowledged
  split_ifs <;> rfl

omit [LT T] [DecidableLT T] in
theorem acknowledgedAt_acknowledged (s : DiagnosticStatus T) (t : T) :
    (acknowledged s t).history.acknowledgedAt ≠ none := by
  unfold acknowledged
  split_ifs with h
  · simp [DiagnosticStatus.setAcknowledged]
  · exact h

omit [LT T] [DecidableLT T] in
theorem acknowledgedAt_resolved (s : DiagnosticStatus T) (t : T) :
    (resolved s t).history.acknowledgedAt = s.history.acknowledgedAt := by
  unfold resolved
  split_ifs <;> rfl

theorem mem_kept {s s' : DiagnosticStatus T} : s' ∈ s.kept ↔ s' = s ∧ s.clearedAt = none := by
  unfold DiagnosticStatus.kept
  split_ifs with h
  · rw [Option.mem_some_iff]
    exact ⟨fun heq => ⟨heq.symm, h⟩, fun heq => heq.1.symm⟩
  · simp [h]

/-- A status that is resolved and acknowledged is not kept, if it latches. -/
theorem kept_eq_none {s : DiagnosticStatus T} (hres : s.history.resolvedAt ≠ none)
    (hack : s.history.acknowledgedAt ≠ none) : s.kept = none := by
  rw [DiagnosticStatus.kept, if_neg]
  rw [DiagnosticStatus.clearedAt_eq_none_iff]
  rintro (h | ⟨-, h⟩)
  · exact hres h
  · exact hack h

variable {S : ℕ → Stamp T}

omit [LT T] [DecidableLT T] in
theorem callManager_run {α : Type} {call : Stamp T → Prog PyExc (DiagnosticManager T) α}
    {s : ServerSession T} {r : Except PyExc α} {m : DiagnosticManager T}
    (h : call (S s.calls) s.diagnosticManager = (r, m)) :
    callManager S call s = (r, s.called m) := by
  unfold callManager called
  rw [h]

/-- `detect` changes nothing, or stores a status that is not resolved. -/
theorem detect_cases {s : ServerSession T} (hm : Stored s.diagnosticManager)
    (definition : DiagnosticDefinition) (source : DiagnosticSource) (detail : Option String) :
    (∃ e, detect S definition source detail s = (.error e, s.called s.diagnosticManager)) ∨
    ∃ m status, detect S definition source detail s = (.ok (), s.called m) ∧
      m.Consistent ∧ status.definition = definition ∧ status.source = source ∧
      ∀ k, m.lookup k = if k = diagnosticKey definition.code source then some status
        else s.diagnosticManager.lookup k := by
  unfold detect
  rcases detect_lookup hm.consistent definition source detail none (S s.calls).newId
    (S s.calls).now with ⟨e, h⟩ | ⟨r, m, status, h, hcons, hdef, hsource, -, hlookup⟩
  · exact Or.inl ⟨e, Prog.bind_run_error (callManager_run h)⟩
  · exact Or.inr ⟨m, status, Prog.bind_run_ok (callManager_run h), hcons, hdef, hsource, hlookup⟩

/-- `resolve` of what is stored resolves it, and keeps it if it has to be acknowledged. -/
theorem resolve_cases {s : ServerSession T} (hm : Stored s.diagnosticManager)
    (definition : DiagnosticDefinition) (source : DiagnosticSource) :
    (s.diagnosticManager.statusFor definition.code source = none ∧
      resolve S definition source s = (.error .keyError, s.called s.diagnosticManager)) ∨
    ∃ m status, s.diagnosticManager.statusFor definition.code source = some status ∧
      resolve S definition source s =
        (.ok (resolved status (S s.calls).now), s.called m) ∧ m.Consistent ∧
      ((resolved status (S s.calls).now).clearedAt = none →
        ∃ r, m.byId.get? status.diagnosticId = some r ∧
          m.heap[r]? = some (resolved status (S s.calls).now)) ∧
      ((resolved status (S s.calls).now).clearedAt ≠ none →
        m.byId.get? status.diagnosticId = none) ∧
      ∀ k, m.lookup k = if k = diagnosticKey definition.code source then
        (resolved status (S s.calls).now).kept else s.diagnosticManager.lookup k := by
  unfold resolve
  cases h : s.diagnosticManager.statusFor definition.code source with
  | none =>
    refine Or.inl ⟨rfl, callManager_run ?_⟩
    exact Prog.bind_run_error (resolve_missing hm.consistent h none _)
  | some status =>
    obtain ⟨r, m, hrun, hcons, hheap, hid, hid', hlookup⟩ :=
      resolve_lookup hm.consistent h none (S s.calls).now
    refine Or.inr ⟨m, status, rfl, callManager_run ?_, hcons, fun hc => ⟨r, hid hc, hheap⟩, hid',
      hlookup⟩
    rw [Prog.bind_run_ok hrun]
    exact statusAt_run hheap

/-- `acknowledge_faults` of a source acknowledges its faults and keeps the others. -/
theorem acknowledgeFaults_run {s : ServerSession T} (hm : Stored s.diagnosticManager)
    (source : DiagnosticSource) :
    ∃ m, acknowledgeFaults S source s = (.ok (), s.called m) ∧ m.Consistent ∧
      ∀ k, m.lookup k = (s.diagnosticManager.lookup k).bind fun status =>
        if FaultSelection.Selects (.source source) status then
          (acknowledged status (S s.calls).now).kept
        else some status := by
  obtain ⟨refs, m, hrun, hcons, hlookup⟩ :=
    acknowledgeFaults_lookup hm.consistent source none (S s.calls).now
  unfold acknowledgeFaults
  exact ⟨m, Prog.bind_run_ok (callManager_run hrun), hcons, hlookup⟩

/-! ## What only lets them fade -/

theorem keeps_callManager {α : Type} {call : Stamp T → Prog PyExc (DiagnosticManager T) α}
    (h : ∀ (m : DiagnosticManager T) (stamp : Stamp T), Stored m → Recedes m (call stamp m).2) :
    Prog.Keeps fading (callManager S call) :=
  fun s => ⟨⟨rfl, rfl, rfl, rfl⟩, h s.diagnosticManager _⟩

theorem acknowledgeFaults_recedes {m m' : DiagnosticManager T} {source : DiagnosticSource} {t : T}
    (hm : Stored m) (hcons : m'.Consistent)
    (hlookup : ∀ k, m'.lookup k = (m.lookup k).bind fun status =>
      if FaultSelection.Selects (.source source) status then (acknowledged status t).kept
      else some status) : Recedes m m' := by
  have hcases {k : DiagnosticKey} {status' : DiagnosticStatus T}
      (h : m'.lookup k = some status') : ∃ status, m.lookup k = some status ∧
        SameStatus status status' ∧
        (status.history.resolvedAt ≠ none → status'.history.resolvedAt ≠ none) := by
    rw [hlookup, Option.bind_eq_some_iff] at h
    obtain ⟨status, hs, h⟩ := h
    refine ⟨status, hs, ?_⟩
    split_ifs at h with hsel
    · rw [(mem_kept.mp h).1]
      refine ⟨sameStatus_acknowledged status t, ?_⟩
      rw [resolvedAt_acknowledged]
      exact id
    · obtain rfl : status = status' := Option.some.inj h
      exact ⟨⟨rfl, rfl, rfl⟩, id⟩
  refine ⟨⟨hcons, fun h => ?_⟩, fun h _ => hcases h⟩
  obtain ⟨status, hs, hsame, -⟩ := hcases h
  exact (hm.known hs).same hsame

theorem acknowledgeFaults_fading (source : DiagnosticSource) :
    Prog.Keeps fading (acknowledgeFaults S source) := by
  unfold acknowledgeFaults
  refine (keeps_callManager fun m stamp hm => ?_).bind fun _ => Prog.Keeps.pure _
  obtain ⟨refs, m', hrun, hcons, hlookup⟩ :=
    acknowledgeFaults_lookup hm.consistent source none stamp.now
  rw [hrun]
  exact acknowledgeFaults_recedes hm hcons hlookup

/-- A diagnostic of an axis or of an io module. -/
theorem detect_fading (definition : DiagnosticDefinition) {source : DiagnosticSource}
    (hsource : ¬ (source.type = .server ∨ source.type = .bus)) (detail : Option String) :
    Prog.Keeps fading (detect S definition source detail) := by
  unfold detect
  refine (keeps_callManager fun m stamp hm => ?_).bind fun _ => Prog.Keeps.pure _
  rcases detect_lookup hm.consistent definition source detail none stamp.newId stamp.now with
    ⟨e, h⟩ | ⟨r, m', status, h, hcons, -, hstatus, -, hlookup⟩
  · rw [h]
    exact Recedes.refl hm
  · rw [h]
    refine Recedes.of_lookup hm hcons hlookup fun status' hs => Or.inr ?_
    obtain rfl : status = status' := Option.mem_some_iff.mp hs
    unfold IsGlobal
    rw [hstatus]
    exact hsource

theorem resolve_fading (definition : DiagnosticDefinition) (source : DiagnosticSource) :
    Prog.Keeps fading (resolve S definition source) := by
  unfold resolve
  refine keeps_callManager fun m stamp hm => ?_
  cases h : m.statusFor definition.code source with
  | none =>
    rw [Prog.bind_run_error (resolve_missing hm.consistent h none _)]
    exact Recedes.refl hm
  | some status =>
    obtain ⟨r, m', hrun, hcons, hheap, -, -, hlookup⟩ :=
      resolve_lookup hm.consistent h none stamp.now
    rw [Prog.bind_run_ok hrun, statusAt_run hheap]
    refine Recedes.of_lookup hm hcons hlookup fun status' hs => Or.inl ⟨status, h, ?_⟩
    rw [(mem_kept.mp hs).1]
    exact ⟨sameStatus_resolved status _, fun _ => resolvedAt_resolved status _⟩

theorem acknowledge_fading (diagnosticId : String) :
    Prog.Keeps fading (acknowledge S diagnosticId) := by
  unfold acknowledge
  refine (keeps_callManager fun m stamp hm => ?_).bind fun _ => Prog.Keeps.pure _
  cases hi : m.byId.get? diagnosticId with
  | none =>
    rw [acknowledge_missing hi]
    exact Recedes.refl hm
  | some r =>
    obtain ⟨status, hheap, -, hk⟩ := hm.consistent.identified hi
    obtain ⟨m', hrun, hcons, hlookup⟩ := acknowledge_lookup hm.consistent hi hheap none stamp.now
    rw [hrun]
    refine Recedes.of_lookup hm hcons hlookup fun status' hs => Or.inl ⟨status, ?_, ?_⟩
    · rw [lookup, hk]
      exact hheap
    · rw [(mem_kept.mp hs).1]
      refine ⟨sameStatus_acknowledged status _, ?_⟩
      rw [resolvedAt_acknowledged]
      exact id

theorem resolveIfActive_fading (definition : DiagnosticDefinition) (source : DiagnosticSource) :
    Prog.Keeps fading (resolveIfActive S definition source) := by
  unfold resolveIfActive
  refine Prog.keeps_get_bind fun s => ?_
  have h : Prog.Keeps fading (resolve S definition source >>= fun _ => pure ()) :=
    (resolve_fading definition source).bind fun _ => Prog.Keeps.pure _
  exact h.onlyIf s

theorem axisSource_type (a : ℕ) :
    ¬ ((axisSource a).type = .server ∨ (axisSource a).type = .bus) := by
  rintro (h | h) <;> cases h

theorem updateAxes_fading (statuswords : List ℕ) :
    Prog.Keeps fading (updateAxes S statuswords) := by
  have hcondition (active : Bool) (definition : DiagnosticDefinition) (a : ℕ) :
      Prog.Keeps fading (updateCondition S active definition (axisSource a)) := by
    unfold updateCondition
    exact (detect_fading definition (axisSource_type a) none).ite (resolveIfActive_fading _ _)
  unfold updateAxes
  exact Prog.Keeps.forM fun entry _ => (hcondition _ _ _).bind fun _ => hcondition _ _ _

theorem refreshAfterRecovery_fading {n : ℕ} (outcome : RecoveryOutcome n)
    (affectedAxes : List (Fin n)) :
    Prog.Keeps fading (refreshAfterRecovery S outcome affectedAxes) := by
  unfold refreshAfterRecovery
  refine (Prog.Keeps.raiseIf _).bind fun _ => Prog.Keeps.forM fun a _ => ?_
  cases outcome.refresh a with
  | refreshed => exact resolveIfActive_fading _ _
  | failed detail =>
    exact (detect_fading _ (axisSource_type a) _).bind fun _ => Prog.Keeps.throw _
  | raised => exact Prog.Keeps.throw _

theorem restoreProcessImage_fading {n : ℕ} (outcome : RecoveryOutcome n)
    (refreshAxes : List (Fin n)) :
    Prog.Keeps fading (restoreProcessImage S outcome refreshAxes) := by
  unfold restoreProcessImage
  exact (Prog.Keeps.raiseIf _).bind fun _ =>
    (refreshAfterRecovery_fading outcome refreshAxes).bind fun _ => Prog.Keeps.raiseIf _

/-! ## What clears them -/

/-- No status of the source is stored. -/
def NoneOf (source : DiagnosticSource) (m : DiagnosticManager T) : Prop :=
  ∀ k status, m.lookup k = some status → status.source ≠ source

/-- Every status of the source is resolved. -/
def ResolvedOf (source : DiagnosticSource) (m : DiagnosticManager T) : Prop :=
  ∀ k status, m.lookup k = some status → status.source = source → status.history.resolvedAt ≠ none

omit [LT T] [DecidableLT T] in
theorem clear_iff {m : DiagnosticManager T} :
    Clear m ↔ NoneOf serverSource m ∧ NoneOf busSource m := by
  constructor
  · intro h
    exact ⟨fun k status hs heq => h k status hs (Or.inl (by rw [heq]; rfl)),
      fun k status hs heq => h k status hs (Or.inr (by rw [heq]; rfl))⟩
  · rintro ⟨hserver, hbus⟩ k status hs (htype | htype)
    · exact hserver k status hs (source_eq serverSource htype (Or.inl rfl))
    · exact hbus k status hs (source_eq busSource htype (Or.inr rfl))

section Sources

variable {source : DiagnosticSource} (hsource : source.type = .server ∨ source.type = .bus)
include hsource

theorem Recedes.noneOf {m m' : DiagnosticManager T} (h : Recedes m m') (hm : NoneOf source m) :
    NoneOf source m' := fun k status' hs' heq => by
  obtain ⟨status, hs, hsame, -⟩ := h.faded hs' (by unfold IsGlobal; rwa [heq])
  exact hm k status hs (hsame.source.symm.trans heq)

theorem Recedes.resolvedOf {m m' : DiagnosticManager T} (h : Recedes m m')
    (hm : ResolvedOf source m) : ResolvedOf source m' := fun k status' hs' heq => by
  obtain ⟨status, hs, hsame, hres⟩ := h.faded hs' (by unfold IsGlobal; rwa [heq])
  exact hres (hm k status hs (hsame.source.symm.trans heq))

/-- **Resolved faults of a source leave when they are acknowledged.** -/
theorem acknowledgeFaults_clears {s : ServerSession T} (hm : Stored s.diagnosticManager)
    (hres : ResolvedOf source s.diagnosticManager) :
    ∃ m, acknowledgeFaults S source s = (.ok (), s.called m) ∧
      Recedes s.diagnosticManager m ∧ NoneOf source m := by
  obtain ⟨m, hrun, hcons, hlookup⟩ := acknowledgeFaults_run (S := S) hm source
  refine ⟨m, hrun, acknowledgeFaults_recedes hm hcons hlookup, ?_⟩
  intro k status' hs' heq
  rw [hlookup, Option.bind_eq_some_iff] at hs'
  obtain ⟨status, hs, hs'⟩ := hs'
  split_ifs at hs' with hsel
  · have hnone := kept_eq_none (s := acknowledged status (S s.calls).now)
      (by rw [resolvedAt_acknowledged]; exact hres k status hs hsel.2)
      (acknowledgedAt_acknowledged _ _)
    rw [hnone] at hs'
    cases hs'
  · obtain rfl : status = status' := Option.some.inj hs'
    refine hsel ⟨((hm.known hs).fault ?_).1, heq⟩
    unfold IsGlobal
    rwa [heq]

end Sources

/-- The status under a key is resolved, if there is one. -/
def ResolvedAt (definition : DiagnosticDefinition) (s : ServerSession T) : Prop :=
  Stored s.diagnosticManager ∧ ∀ status,
    s.diagnosticManager.statusFor definition.code busSource = some status →
      status.history.resolvedAt ≠ none

theorem ResolvedAt.fading {s s' : ServerSession T} {definition : DiagnosticDefinition}
    (h : fading.Rel s s') (hs : ResolvedAt definition s) : ResolvedAt definition s' := by
  have hrec := h.2 hs.1
  refine ⟨hrec.stored, fun status' hs' => ?_⟩
  have hkey := (hrec.stored.consistent.key_of_lookup hs').1
  have htype : status'.source.type = .bus := congrArg (fun k => k.2.1) hkey
  obtain ⟨status, hstatus, -, hres⟩ := hrec.faded hs' (Or.inr htype)
  exact hres (hs.2 status hstatus)

/-- `_resolve_if_active` of a diagnostic of the bus. -/
theorem resolveIfActive_resolves {s : ServerSession T} (hm : Stored s.diagnosticManager)
    (definition : DiagnosticDefinition) :
    ∃ s', resolveIfActive S definition busSource s = (.ok (), s') ∧ fading.Rel s s' ∧
      ResolvedAt definition s' := by
  have hfading := resolveIfActive_fading (S := S) definition busSource s
  have hok : ∃ s', resolveIfActive S definition busSource s = (.ok (), s') ∧
      ∀ status, s'.diagnosticManager.statusFor definition.code busSource = some status →
        status.history.resolvedAt ≠ none := by
    unfold resolveIfActive
    rw [Prog.bind_run_ok (Prog.get_run s)]
    rcases resolve_cases (S := S) hm definition busSource with
      ⟨hnone, -⟩ | ⟨m, status, hstatus, hrun, hcons, -, -, hlookup⟩
    · rw [Prog.onlyIf_run_of_not (by rw [hnone]; simp)]
      refine ⟨s, rfl, fun status h => ?_⟩
      rw [hnone] at h
      cases h
    · rw [Prog.onlyIf_run (by rw [hstatus]; rfl), Prog.bind_run_ok hrun]
      refine ⟨_, rfl, fun status' h => ?_⟩
      have hkey := hlookup (diagnosticKey definition.code busSource)
      rw [if_pos rfl] at hkey
      rw [(mem_kept.mp (hkey.symm.trans h)).1]
      exact resolvedAt_resolved status _
  obtain ⟨s', hrun, hres⟩ := hok
  rw [hrun] at hfading
  exact ⟨s', hrun, hfading, (hfading.2 hm).stored, hres⟩

/-- The restart failures that are stored are resolved one after the other. -/
theorem resolveRestartFailures_ok (statuses : List (DiagnosticStatus T)) {s : ServerSession T}
    (hm : Stored s.diagnosticManager) (hnodup : (statuses.map (·.key)).Nodup)
    (hstored : ∀ status ∈ statuses, s.diagnosticManager.lookup status.key ≠ none) :
    ∃ s', (statuses.forM fun status =>
        Prog.onlyIf (status.definition.code = axisRestartFailed.code) do
          let _ ← resolve S axisRestartFailed status.source) s = (.ok (), s') := by
  induction statuses generalizing s with
  | nil => exact ⟨s, rfl⟩
  | cons status statuses ih =>
    rw [List.map_cons, List.nodup_cons] at hnodup
    have htail {m : DiagnosticManager T} (h : ∀ k, k ≠ status.key →
        m.lookup k = s.diagnosticManager.lookup k) :
        ∀ status' ∈ statuses, m.lookup status'.key ≠ none := by
      intro status' hmem
      rw [h status'.key fun heq => hnodup.1 (heq ▸ List.mem_map_of_mem hmem)]
      exact hstored status' (List.mem_cons_of_mem _ hmem)
    change ∃ s', (Prog.onlyIf _ _ >>= fun _ => statuses.forM _) s = _
    by_cases hcode : status.definition.code = axisRestartFailed.code
    · have hkey : status.key = diagnosticKey axisRestartFailed.code status.source := by
        rw [DiagnosticStatus.key, hcode]
      rcases resolve_cases (S := S) hm axisRestartFailed status.source with
        ⟨hnone, -⟩ | ⟨m, status', -, hrun, hcons, -, -, hlookup⟩
      · have hsome := hstored status List.mem_cons_self
        rw [hkey] at hsome
        exact absurd hnone hsome
      · have hm' : Stored (s.called m).diagnosticManager := by
          have h := (resolve_fading (S := S) axisRestartFailed status.source s).2 hm
          rw [hrun] at h
          exact h.stored
        obtain ⟨s', hs'⟩ := ih hm' hnodup.2 (htail fun k hk => by
          rw [hkey] at hk
          exact (hlookup k).trans (if_neg hk))
        have hstep : Prog.onlyIf (status.definition.code = axisRestartFailed.code) (do
            let _ ← resolve S axisRestartFailed status.source) s = (.ok (), s.called m) :=
          (Prog.onlyIf_run hcode _ s).trans (Prog.bind_run_ok hrun)
        refine ⟨s', ?_⟩
        rw [Prog.bind_run_ok hstep]
        exact hs'
    · obtain ⟨s', hs'⟩ := ih hm hnodup.2 (htail fun k _ => rfl)
      refine ⟨s', ?_⟩
      rw [Prog.bind_run_ok (Prog.onlyIf_run_of_not hcode _ s)]
      exact hs'

/-- Every status of the bus has one of three keys. -/
theorem resolvedOf_bus {s : ServerSession T} (hlost : ResolvedAt busConnectionLost s)
    (hfailed : ResolvedAt busReconnectFailed s) (hwkc : ResolvedAt busProcessDataIncomplete s) :
    ResolvedOf busSource s.diagnosticManager := by
  intro k status hs heq
  have htype : status.source.type = .bus := by rw [heq]; rfl
  have hkey := (hlost.1.consistent.key_of_lookup hs).1
  rw [DiagnosticStatus.key, heq] at hkey
  rcases (hlost.1.known hs).2 htype with hdef | hdef | hdef
  · exact hlost.2 status (by rw [statusFor, ← hdef, hkey]; exact hs)
  · exact hfailed.2 status (by rw [statusFor, ← hdef, hkey]; exact hs)
  · exact hwkc.2 status (by rw [statusFor, ← hdef, hkey]; exact hs)

/-- **A completed reconnection leaves nothing of the bus.** -/
theorem completeBusReconnectDiagnostics_clear {s : ServerSession T}
    (hm : Stored s.diagnosticManager) :
    ∃ s', completeBusReconnectDiagnostics S s = (.ok (), s') ∧ fading.Rel s s' ∧
      NoneOf busSource s'.diagnosticManager := by
  obtain ⟨s₁, hrun₁, hf₁, hlost⟩ :=
    resolveIfActive_resolves (S := S) hm busConnectionLost
  obtain ⟨s₂, hrun₂, hf₂, hfailed⟩ :=
    resolveIfActive_resolves (S := S) hlost.1 busReconnectFailed
  obtain ⟨s₃, hrun₃, hf₃, hwkc⟩ :=
    resolveIfActive_resolves (S := S) hfailed.1 busProcessDataIncomplete
  obtain ⟨s₄, hrun₄⟩ := resolveRestartFailures_ok (S := S)
    s₃.diagnosticManager.activeStatuses hwkc.1 hwkc.1.consistent.nodup_keys
    fun status hmem => by
      obtain ⟨k, hk⟩ := mem_activeStatuses.mp hmem
      rw [(hwkc.1.consistent.key_of_lookup hk).1, hk]
      simp
  have hf₄ : fading.Rel s₃ s₄ := by
    have h : Prog.Keeps fading (s₃.diagnosticManager.activeStatuses.forM fun status =>
        Prog.onlyIf (status.definition.code = axisRestartFailed.code) do
          let _ ← resolve S axisRestartFailed status.source) :=
      Prog.Keeps.forM fun status _ =>
        ((resolve_fading _ _).bind fun _ => Prog.Keeps.pure _).onlyIf
    have h₄ := h s₃
    rwa [hrun₄] at h₄
  have hf₂₄ : fading.Rel s₂ s₄ := fading.trans _ _ _ hf₃ hf₄
  have hf₁₄ : fading.Rel s₁ s₄ := fading.trans _ _ _ hf₂ hf₂₄
  have hres : ResolvedOf busSource s₄.diagnosticManager :=
    resolvedOf_bus (hlost.fading hf₁₄) (hfailed.fading hf₂₄) (hwkc.fading hf₄)
  obtain ⟨m, hrun, hrec, hnone⟩ := acknowledgeFaults_clears (S := S) (Or.inr rfl)
    (hf₄.2 hwkc.1).stored hres
  refine ⟨s₄.called m, ?_, fading.trans _ _ _ (fading.trans _ _ _ hf₁ hf₁₄)
    ⟨⟨rfl, rfl, rfl, rfl⟩, fun _ => hrec⟩, hnone⟩
  unfold completeBusReconnectDiagnostics
  rw [Prog.bind_run_ok hrun₁, Prog.bind_run_ok hrun₂, Prog.bind_run_ok hrun₃,
    Prog.bind_run_ok (Prog.get_run s₃), Prog.bind_run_ok hrun₄]
  exact hrun

/-! ## The invariant -/

/-- What holds also between the writes of a request: a server that is initialized has a runtime, and
one that is not has a degraded state. -/
structure Unsettled (s : ServerSession T) : Prop where
  stored : Stored s.diagnosticManager
  attached : s.runtimeState ≠ .initializationError → s.runtime ≠ none
  degraded : s.runtimeState = .initializationError ∨ s.reconnectOperation = true →
    s.stateStatus ≠ none

/-- **The invariant**: a normal state has no diagnostic of the server or of the bus. -/
structure Agrees (s : ServerSession T) : Prop extends Unsettled s where
  clear : s.runtimeState = .normal → Clear s.diagnosticManager

theorem Unsettled.fading {s s' : ServerSession T} (h : fading.Rel s s') (hs : Unsettled s) :
    Unsettled s' := by
  obtain ⟨⟨hstate, hruntime, hstatus, hoperation⟩, hrec⟩ := h
  constructor
  · exact (hrec hs.stored).stored
  · rw [hstate, hruntime]
    exact hs.attached
  · rw [hstate, hstatus, hoperation]
    exact hs.degraded

theorem Agrees.fading {s s' : ServerSession T} (h : fading.Rel s s') (hs : Agrees s) : Agrees s' :=
  ⟨hs.toUnsettled.fading h, fun hnormal => (h.2 hs.stored).clear (hs.clear (h.1.1 ▸ hnormal))⟩

/-- A diagnostic with a known definition is stored, or nothing is changed. -/
theorem detect_stored {definition : DiagnosticDefinition} {source : DiagnosticSource}
    (hknown : ∀ status : DiagnosticStatus T, status.definition = definition →
      status.source = source → Known status) (detail : Option String) {s : ServerSession T}
    (hs : Stored s.diagnosticManager) :
    (∃ e, detect S definition source detail s = (.error e, s.called s.diagnosticManager)) ∨
    ∃ m, detect S definition source detail s = (.ok (), s.called m) ∧ Stored m := by
  rcases detect_cases (S := S) hs definition source detail with
    herror | ⟨m, status, hrun, hcons, hdef, hsource, hlookup⟩
  · exact Or.inl herror
  · refine Or.inr ⟨m, hrun, hcons, fun {k status'} h => ?_⟩
    rw [hlookup] at h
    split_ifs at h
    · obtain rfl : status = status' := Option.some.inj h
      exact hknown status hdef hsource
    · exact hs.known h

omit [LT T] [DecidableLT T] in
theorem known_server (status : DiagnosticStatus T)
    (hdef : status.definition = serverInitializationFailed) (hsource : status.source = serverSource) :
    Known status := by
  refine ⟨fun _ => hdef, fun htype => ?_⟩
  rw [hsource] at htype
  cases htype

omit [LT T] [DecidableLT T] in
theorem known_bus {definition : DiagnosticDefinition}
    (hdefinition : definition = busConnectionLost ∨ definition = busReconnectFailed ∨
      definition = busProcessDataIncomplete) (status : DiagnosticStatus T)
    (hdef : status.definition = definition) (hsource : status.source = busSource) :
    Known status := by
  refine ⟨fun htype => ?_, fun _ => ?_⟩
  · rw [hsource] at htype
    cases htype
  · rw [hdef]
    exact hdefinition

/-- `set_runtime_state`, to a normal state only when nothing of the server and the bus is stored. -/
theorem setRuntimeState_agrees (st : ServerRuntimeState) (hst : st ≠ .initializationError) :
    Prog.Triple (fun s => Unsettled s ∧ (st = .normal → Clear s.diagnosticManager))
      (setRuntimeState (T := T) st) (fun _ s => Agrees s ∧ s.runtimeState = st)
      fun _ => Agrees := by
  rintro s ⟨hs, hclear⟩
  unfold setRuntimeState
  rw [Prog.bind_run_ok (Prog.get_run s)]
  by_cases hruntime : s.runtime = none
  · have hraise := Prog.raiseIf_run (st ≠ .initializationError ∧ s.runtime = none) PyExc.runtimeError s
    rw [if_pos ⟨hst, hruntime⟩] at hraise
    rw [Prog.bind_run_error hraise]
    refine ⟨hs, fun hnormal => ?_⟩
    exact absurd hruntime (hs.attached (by rw [hnormal]; simp))
  · have hraise := Prog.raiseIf_run (st ≠ .initializationError ∧ s.runtime = none) PyExc.runtimeError s
    rw [if_neg fun h => hruntime h.2] at hraise
    rw [Prog.bind_run_ok hraise]
    refine ⟨⟨⟨hs.stored, fun _ => hruntime, ?_⟩, hclear⟩, rfl⟩
    rintro (h | h)
    · exact absurd h hst
    · exact hs.degraded (Or.inr h)

/-- A state that is not normal. -/
theorem setAbnormal_agrees {st : ServerRuntimeState} (hst : st = .fault ∨ st = .busDisconnected) :
    Prog.Triple Unsettled (setRuntimeState (T := T) st) (fun _ => Agrees) fun _ => Agrees := by
  have hne : st ≠ .initializationError ∧ st ≠ .normal := by
    rcases hst with rfl | rfl <;> exact ⟨by simp, by simp⟩
  exact (setRuntimeState_agrees st hne.1).conseq (fun s hs => ⟨hs, fun h => absurd h hne.2⟩)
    (fun _ _ h => h.1) fun _ _ => id

/-- A normal state, when nothing of the server and the bus is stored. -/
theorem setNormal_agrees :
    Prog.Triple (fun s => Unsettled s ∧ Clear s.diagnosticManager)
      (setRuntimeState (T := T) .normal) (fun _ => Agrees) fun _ => Agrees :=
  (setRuntimeState_agrees .normal (by simp)).conseq (fun _ h => ⟨h.1, fun _ => h.2⟩) (fun _ _ h => h.1)
    fun _ _ => id

omit [LT T] [DecidableLT T] in
theorem setRuntimeState_manager (st : ServerRuntimeState) :
    Prog.Keeps (Prog.Frame.eqOn ServerSession.diagnosticManager) (setRuntimeState (T := T) st) := by
  unfold setRuntimeState
  exact Prog.Keeps.get.bind fun _ => (Prog.Keeps.raiseIf _).bind fun _ =>
    Prog.Keeps.modify fun _ => rfl

theorem detectBus_unsettled {definition : DiagnosticDefinition}
    (hdefinition : definition = busConnectionLost ∨ definition = busReconnectFailed ∨
      definition = busProcessDataIncomplete) (detail : Option String) :
    Prog.Triple Agrees (detect S definition busSource detail) (fun _ => Unsettled)
      fun _ => Agrees := by
  intro s hs
  rcases detect_stored (S := S) (known_bus hdefinition) detail hs.stored with
    ⟨e, hrun⟩ | ⟨m, hrun, hm⟩
  · rw [hrun]
    exact ⟨⟨hs.stored, hs.attached, hs.degraded⟩, hs.clear⟩
  · rw [hrun]
    exact ⟨hm, hs.attached, hs.degraded⟩

/-- A diagnostic of the bus, and a state that is not normal. -/
theorem detectBus_agrees {definition : DiagnosticDefinition}
    (hdefinition : definition = busConnectionLost ∨ definition = busReconnectFailed ∨
      definition = busProcessDataIncomplete) (detail : Option String) {st : ServerRuntimeState}
    (hst : st = .fault ∨ st = .busDisconnected) :
    Prog.Keeps (Prog.Frame.ofInv Agrees) (do
      detect S definition busSource detail
      setRuntimeState st) :=
  ((detectBus_unsettled hdefinition detail).bind fun _ => setAbnormal_agrees hst).keeps

/-! ## Cycles -/

theorem keeps_agrees {α : Type} {m : Session T α} (h : Prog.Keeps fading m) :
    Prog.Keeps (Prog.Frame.ofInv Agrees) m := h.mono fun _ _ h hs => hs.fading h

/-- A write to what the runtime state does not depend on. -/
theorem modify_agrees {f : ServerSession T → ServerSession T}
    (hstate : ∀ s, (f s).runtimeState = s.runtimeState ∧ (f s).runtime = s.runtime ∧
      (f s).stateStatus = s.stateStatus ∧ (f s).reconnectOperation = s.reconnectOperation)
    (hmanager : ∀ s, (f s).diagnosticManager = s.diagnosticManager) :
    Prog.Keeps (Prog.Frame.ofInv Agrees) (Prog.modify f : Session T Unit) := by
  refine keeps_agrees (Prog.Keeps.modify fun s => ⟨hstate s, fun hm => ?_⟩)
  rw [hmanager]
  exact Recedes.refl hm

theorem updateBus_agrees (expectedWkc actualWkc : ℤ) (transportAvailable : Bool) :
    Prog.Keeps (Prog.Frame.ofInv Agrees)
      (updateBus S expectedWkc actualWkc transportAvailable) := by
  unfold updateBus
  refine Prog.Keeps.ite ?_ ?_
  · refine Prog.Keeps.bind (modify_agrees (fun _ => ⟨rfl, rfl, rfl, rfl⟩) fun _ => rfl) fun _ => ?_
    refine Prog.Keeps.get.bind fun s => Prog.Keeps.onlyIf ?_
    exact (Prog.Keeps.raiseIf _).bind fun _ =>
      detectBus_agrees (Or.inr (Or.inr rfl)) none (Or.inl rfl)
  · refine Prog.Keeps.bind (modify_agrees (fun _ => ⟨rfl, rfl, rfl, rfl⟩) fun _ => rfl) fun _ => ?_
    exact keeps_agrees (resolveIfActive_fading _ _)

theorem loseBus_agrees (detail : String) :
    Prog.Keeps (Prog.Frame.ofInv Agrees) (loseBus S detail) := by
  unfold loseBus markBusDisconnected
  refine Prog.Keeps.bind ?_ fun _ => modify_agrees (fun _ => ⟨rfl, rfl, rfl, rfl⟩) fun _ => rfl
  exact Prog.Keeps.get.bind fun s => (Prog.Keeps.raiseIf _).bind fun _ =>
    detectBus_agrees (Or.inl rfl) (some detail) (Or.inr rfl)

theorem runCycle_agrees (outcome : CycleOutcome) :
    Prog.Keeps (Prog.Frame.ofInv Agrees) (runCycle S outcome) := by
  unfold runCycle
  refine Prog.Keeps.get.bind fun s => Prog.Keeps.onlyIf ?_
  refine Prog.Keeps.bind (modify_agrees (fun _ => ⟨rfl, rfl, rfl, rfl⟩) fun _ => rfl) fun _ => ?_
  cases outcome with
  | failed detail => exact loseBus_agrees detail
  | exchanged expectedWkc actualWkc transportAvailable statuswords detail =>
    refine Prog.Keeps.tryCatch ?_ fun e => Prog.Keeps.ite (loseBus_agrees detail) (Prog.Keeps.throw e)
    exact (updateBus_agrees expectedWkc actualWkc transportAvailable).bind fun _ =>
      keeps_agrees (updateAxes_fading statuswords)

/-! ## Recoveries -/

/-- The runtime state follows what is left of the server and of the bus. -/
theorem reconnectRuntime_agrees {n : ℕ} (outcome : RecoveryOutcome n) :
    Prog.Keeps (Prog.Frame.ofInv Agrees) (reconnectRuntime S outcome) := by
  have hfail : Prog.Keeps (Prog.Frame.ofInv Agrees) (do
      recordBusReconnectFailure S outcome.detail
      setRuntimeState .busDisconnected
      throw (communicationException "bus_reconnect") : Session T Unit) := by
    refine Prog.Triple.keeps ((detectBus_unsettled (Or.inr (Or.inl rfl)) _).bind fun _ => ?_)
    exact (setAbnormal_agrees (Or.inr rfl)).bind fun _ => Prog.Triple.throw _ fun _ hs => hs
  have hrestore : Prog.Keeps fading (do
      restoreProcessImage S outcome (List.finRange n)
      Prog.raiseIf (outcome.inTime = false) .osError : Session T Unit) :=
    (restoreProcessImage_fading outcome _).bind fun _ => Prog.Keeps.raiseIf _
  unfold reconnectRuntime
  refine Prog.Keeps.get.bind fun s => (Prog.Keeps.raiseIf _).bind fun _ => ?_
  refine ((keeps_agrees hrestore).tryCatch fun _ => hfail).bind fun _ => ?_
  refine Prog.Keeps.bind ?_ fun _ => ?_
  · intro s hs
    obtain ⟨s', hrun, hfades, -⟩ :=
      completeBusReconnectDiagnostics_clear (S := S) hs.stored
    rw [hrun]
    exact hs.fading hfades
  · refine Prog.keeps_get_bind fun s hs => ?_
    cases hfault : s.globalFault with
    | true =>
      rw [if_pos rfl]
      exact (setAbnormal_agrees (Or.inl rfl)).state hs.toUnsettled
    | false =>
      rw [if_neg Bool.false_ne_true]
      exact setNormal_agrees.state ⟨hs.toUnsettled, (globalFault_eq_false hs.stored).mp hfault⟩

/-- An axis restart leaves a normal state normal, or records its failure. -/
theorem restartAxisRuntime_agrees {n : ℕ} (outcome : RecoveryOutcome n) (axisIndex : Fin n)
    {s : ServerSession T} (hs : Agrees s) (hclear : Clear s.diagnosticManager) :
    Agrees (restartAxisRuntime S outcome axisIndex s).2 := by
  let P (s : ServerSession T) : Prop := Unsettled s ∧ Clear s.diagnosticManager
  have hP {s : ServerSession T} (h : P s) : Agrees s := ⟨h.1, fun _ => h.2⟩
  have hfades {α : Type} {m : Session T α} (h : Prog.Keeps fading m) :
      Prog.Triple P m (fun _ => P) fun _ => P :=
    (h.mono fun _ _ h hs => ⟨hs.1.fading h, (h.2 hs.1.stored).clear hs.2⟩).triple
  have hfault : Prog.Triple P (setRuntimeState .fault) (fun _ => P) fun _ => P := by
    rintro s ⟨hs, hclear⟩
    have h := setRuntimeState_agrees (T := T) .fault (by simp) s ⟨hs, fun h => nomatch h⟩
    have hsame := setRuntimeState_manager .fault s
    cases hr : setRuntimeState .fault s with
    | mk r s' =>
      rw [hr] at h hsame
      have hclear' : Clear s'.diagnosticManager := by
        rw [hsame]
        exact hclear
      cases r with
      | ok u => exact ⟨h.1.toUnsettled, hclear'⟩
      | error e => exact ⟨h.toUnsettled, hclear'⟩
  have hfail {st : ServerRuntimeState} (hst : st = .fault ∨ st = .busDisconnected) :
      Prog.Triple P (failAxisRestart S axisIndex outcome.detail st) (fun _ => P)
        fun _ => Agrees := by
    unfold failAxisRestart
    refine Prog.Triple.bind ((hfades (detect_fading _ (axisSource_type _) _)).conseq (fun _ h => h)
      (fun _ _ h => h) fun _ _ h => hP h) fun _ => ?_
    refine ((setAbnormal_agrees hst).conseq (fun _ h => h.1) (fun _ _ h => h)
      fun _ _ h => h).bind fun _ => ?_
    exact Prog.Triple.throw _ fun _ h => h
  have hraise {c : Prop} [Decidable c] (e : PyExc) :
      Prog.Triple P (Prog.raiseIf c e : Session T Unit) (fun _ => P) fun _ => P :=
    hfades (Prog.Keeps.raiseIf e)
  have hmono {α : Type} {m : Session T α} {Q : α → ServerSession T → Prop}
      (h : Prog.Triple P m Q fun _ => P) : Prog.Triple P m Q fun _ => Agrees :=
    h.conseq (fun _ h => h) (fun _ _ h => h) fun _ _ h => hP h
  have htriple : Prog.Triple P (restartAxisRuntime S outcome axisIndex) (fun _ => Agrees)
      fun _ => Agrees := by
    unfold restartAxisRuntime
    refine (hmono (hfades Prog.Keeps.get)).bind fun s => ?_
    refine (hmono (hraise _)).bind fun _ => (hmono hfault).bind fun _ => ?_
    refine Prog.Triple.bind ((hfades (restoreProcessImage_fading outcome _)).tryCatch fun _ =>
      hfail (Or.inr rfl)) fun _ => ?_
    refine Prog.Triple.bind (Prog.Triple.onlyIf (fun _ => hfail (Or.inl rfl)) fun _ _ h => h)
      fun _ => (hmono (hfades Prog.Keeps.get)).bind fun s => ?_
    refine Prog.Triple.bind (R := fun _ => Agrees) (hmono (hfades ?_)) fun _ => ?_
    · exact Prog.Keeps.onlyIf ((resolve_fading _ _).bind fun _ => acknowledge_fading _)
    · exact setNormal_agrees
  exact htriple.state ⟨hs.toUnsettled, hclear⟩

/-! ## Initialization -/

/-- A server that is not initialized, with the status its state has. -/
structure Failing (status : Option InitializationStage) (s : ServerSession T) : Prop where
  stored : Stored s.diagnosticManager
  state : s.runtimeState = .initializationError
  failed : s.initializationStatus ≠ none
  status : s.stateStatus = status

theorem Failing.agrees {status : Option InitializationStage} {s : ServerSession T}
    (hs : Failing status s) (hstatus : status ≠ none) : Agrees s where
  stored := hs.stored
  attached h := absurd hs.state h
  degraded _ := hs.status ▸ hstatus
  clear h := by
    rw [hs.state] at h
    cases h

/-- A diagnostic of a server that is not initialized. -/
theorem detect_failing {definition : DiagnosticDefinition} {source : DiagnosticSource}
    (hknown : ∀ status : DiagnosticStatus T, status.definition = definition →
      status.source = source → Known status) (detail : Option String)
    (status : Option InitializationStage) :
    Prog.Keeps (Prog.Frame.ofInv (Failing status)) (detect S definition source detail) := by
  intro s hs
  rcases detect_stored (S := S) hknown detail hs.stored with
    ⟨e, hrun⟩ | ⟨m, hrun, hm⟩
  · rw [hrun]
    exact ⟨hs.stored, hs.state, hs.failed, hs.status⟩
  · rw [hrun]
    exact ⟨hm, hs.state, hs.failed, hs.status⟩

/-- What a server has that is not marked as failed yet. -/
def Starting (status : Option InitializationStage) (s : ServerSession T) : Prop :=
  Stored s.diagnosticManager ∧ s.stateStatus = status

theorem failRuntimeInitialization_failing (attached : Bool) (stage : InitializationStage)
    (status : Option InitializationStage) :
    Prog.Triple (Starting status) (failRuntimeInitialization S attached stage)
      (fun _ => Failing status) fun _ => Failing status := by
  unfold failRuntimeInitialization
  refine Prog.Triple.bind (Q := fun _ => Failing status) ?_ fun _ => ?_
  · exact Prog.Triple.modify fun s hs => ⟨hs.1, rfl, by simp, hs.2⟩
  · refine (detect_failing known_server none status).triple.bind fun _ => ?_
    have hdetach : Prog.Keeps (Prog.Frame.ofInv (Failing status)) (detachRuntime (T := T)) :=
      Prog.Keeps.modify fun s hs => ⟨hs.stored, hs.state, hs.failed, hs.status⟩
    exact hdetach.onlyIf.triple

/-- A failure of `reconnect_failed_initialization` is recorded and raised. -/
theorem recordFailure_failing (detail : String) (status : Option InitializationStage) :
    Prog.Triple (Failing status) (do
      recordBusReconnectFailure S detail
      throw (communicationException "bus_reconnect") : Session T Unit)
      (fun _ _ => False) fun _ => Failing status := by
  unfold recordBusReconnectFailure
  exact (detect_failing (known_bus (Or.inr (Or.inl rfl))) _ status).triple.bind fun _ =>
    Prog.Triple.throw _ fun _ hs => hs

theorem failReconnection_failing (stage : InitializationStage) (detail : String)
    (status : Option InitializationStage) :
    Prog.Triple (Starting status) (failReconnection S stage detail)
      (fun _ _ => False) fun _ => Failing status := by
  unfold failReconnection
  exact (failRuntimeInitialization_failing true stage status).bind fun _ =>
    recordFailure_failing detail status

/-- The fault of the initialization was acknowledged before it was resolved. -/
def InitializationAcknowledged (m : DiagnosticManager T) : Prop :=
  (m.statusFor serverInitializationFailed.code serverSource).any
    (·.history.acknowledgedAt.isSome) = true

omit [LT T] [DecidableLT T] in
theorem noneOf_server_of_key {m : DiagnosticManager T} (hm : ∀ {k status},
    m.lookup k = some status → status.key = k ∧ Known status)
    (h : m.statusFor serverInitializationFailed.code serverSource = none) :
    NoneOf serverSource m := by
  intro k status hs heq
  obtain ⟨hkey, hknown⟩ := hm hs
  have htype : status.source.type = .server := by rw [heq]; rfl
  rw [DiagnosticStatus.key, hknown.1 htype, heq] at hkey
  rw [statusFor, hkey, hs] at h
  cases h

theorem resolveInitializationFault_fading :
    Prog.Keeps fading (resolveInitializationFault S) := by
  unfold resolveInitializationFault
  refine Prog.Keeps.tryCatch ?_ fun e => Prog.Keeps.ite (Prog.Keeps.pure _) (Prog.Keeps.throw _)
  exact (resolve_fading _ _).bind fun _ => Prog.Keeps.pure _

/-- **The fault of the initialization leaves**, and only an earlier acknowledgement makes the next
one raise. -/
theorem clearInitializationFault_run {s : ServerSession T} (hm : Stored s.diagnosticManager) :
    ∃ r s', (resolveInitializationFault S >>= acknowledgeIfAny S) s = (r, s') ∧
      fading.Rel s s' ∧ NoneOf serverSource s'.diagnosticManager ∧
      (r = .ok () ∨ InitializationAcknowledged s.diagnosticManager) := by
  have hfading : Prog.Keeps fading (resolveInitializationFault S >>= acknowledgeIfAny S) := by
    refine resolveInitializationFault_fading.bind fun status => ?_
    unfold acknowledgeIfAny
    cases status with
    | none => exact Prog.Keeps.pure _
    | some status => exact acknowledge_fading _
  have hend : ∃ r s', (resolveInitializationFault S >>= acknowledgeIfAny S) s = (r, s') ∧
      s'.diagnosticManager.statusFor serverInitializationFailed.code serverSource = none ∧
      (r = .ok () ∨ InitializationAcknowledged s.diagnosticManager) := by
    rcases resolve_cases (S := S) hm serverInitializationFailed serverSource with
      ⟨hnone, hrun⟩ | ⟨m, status, hstatus, hrun, hcons, hid, hid', hlookup⟩
    · refine ⟨.ok (), s.called s.diagnosticManager, ?_, hnone, Or.inl rfl⟩
      have hresolve : resolveInitializationFault S s =
          (.ok none, s.called s.diagnosticManager) := by
        unfold resolveInitializationFault
        rw [Prog.tryCatch_run, Prog.bind_run_error hrun]
        rfl
      rw [Prog.bind_run_ok hresolve]
      rfl
    · have hresolve : resolveInitializationFault S s =
          (.ok (some (resolved status (S s.calls).now)), s.called m) := by
        unfold resolveInitializationFault
        rw [Prog.tryCatch_run, Prog.bind_run_ok hrun]
        rfl
      have hsame := sameStatus_resolved status (S s.calls).now
      rw [Prog.bind_run_ok hresolve]
      unfold acknowledgeIfAny acknowledge
      dsimp only
      rw [hsame.diagnosticId]
      by_cases hc : (resolved status (S s.calls).now).clearedAt = none
      · obtain ⟨r, hr, hheap⟩ := hid hc
        obtain ⟨m', hack, -, hlookup'⟩ := acknowledge_lookup hcons hr hheap none
          (S (s.called m).calls).now
        refine ⟨.ok (), (s.called m).called m', Prog.bind_run_ok (callManager_run hack), ?_,
          Or.inl rfl⟩
        have hkey : diagnosticKey serverInitializationFailed.code serverSource =
            (resolved status (S s.calls).now).key := by
          rw [hsame.key]
          exact (hm.consistent.key_of_lookup hstatus).1.symm
        refine ((hlookup' _).trans (if_pos hkey)).trans (kept_eq_none ?_ ?_)
        · rw [resolvedAt_acknowledged]
          exact resolvedAt_resolved _ _
        · exact acknowledgedAt_acknowledged _ _
      · refine ⟨_, (s.called m).called m,
          Prog.bind_run_error (callManager_run (acknowledge_missing (hid' hc) none _)), ?_, Or.inr ?_⟩
        · refine ((hlookup _).trans (if_pos rfl)).trans ?_
          rw [DiagnosticStatus.kept, if_neg hc]
        · rw [DiagnosticStatus.clearedAt_eq_none_iff, not_or, not_and, acknowledgedAt_resolved] at hc
          unfold InitializationAcknowledged
          rw [hstatus, Option.any_some]
          have hlatch : (resolved status (S s.calls).now).definition.latching = true := by
            rw [hsame.definition]
            have htype : status.source.type = .server :=
              congrArg (fun k => k.2.1) (hm.consistent.key_of_lookup hstatus).1
            exact ((hm.known hstatus).fault (Or.inl htype)).2
          exact Option.isSome_iff_ne_none.mpr (hc.2 hlatch)
  obtain ⟨r, s', hrun, hnone, hr⟩ := hend
  have hfades := hfading s
  rw [hrun] at hfades
  have hstored := (hfades.2 hm).stored
  exact ⟨r, s', hrun, hfades, noneOf_server_of_key
    (fun h => ⟨(hstored.consistent.key_of_lookup h).1, hstored.known h⟩) hnone, hr⟩

/-- The end of `reconnect_failed_initialization`, when the runtime is there. -/
def completeInitialization (S : ℕ → Stamp T) : Session T Unit := do
  markReady
  let initializationFault ← resolveInitializationFault S
  acknowledgeIfAny S initializationFault
  completeBusReconnectDiagnostics S
  Prog.modify fun s => { s with stateStatus := none, reconnectOperation := false }

/-- **A server that initializes late is normal only without faults**, unless its fault was
acknowledged while the bus had one. -/
theorem completeInitialization_agrees {s : ServerSession T} (hm : Stored s.diagnosticManager)
    (hruntime : s.runtime ≠ none) (hstatus : s.stateStatus ≠ none)
    (hclean : InitializationAcknowledged s.diagnosticManager → NoneOf busSource s.diagnosticManager) :
    Agrees (completeInitialization S s).2 := by
  let s₁ : ServerSession T := { s with initializationStatus := none, runtimeState := .normal }
  have hs₁ : Unsettled s₁ := ⟨hm, fun _ => hruntime, fun _ => hstatus⟩
  obtain ⟨r, s₂, hrun, hfades, hserver, hr⟩ :=
    clearInitializationFault_run (S := S) (s := s₁) hm
  have hs₂ := hs₁.fading hfades
  have hsplit : completeInitialization S s =
      (resolveInitializationFault S >>= acknowledgeIfAny S >>= fun _ =>
        completeBusReconnectDiagnostics S >>= fun _ => Prog.modify fun s : ServerSession T =>
          { s with stateStatus := none, reconnectOperation := false }) s₁ := by
    unfold completeInitialization markReady
    rw [bind_assoc]
    rfl
  rw [hsplit]
  cases r with
  | error e =>
    rw [Prog.bind_run_error hrun]
    refine ⟨hs₂, fun _ => clear_iff.mpr ⟨hserver, ?_⟩⟩
    have hack := hr.resolve_left fun h => nomatch h
    exact (hfades.2 hm).noneOf (Or.inr rfl) (hclean hack)
  | ok u =>
    rw [Prog.bind_run_ok hrun]
    obtain ⟨s₃, hrun₃, hfades₃, hbus⟩ :=
      completeBusReconnectDiagnostics_clear (S := S) hs₂.stored
    rw [Prog.bind_run_ok hrun₃]
    have hs₃ := hs₂.fading hfades₃
    have hnormal : s₃.runtimeState = .normal := hfades₃.1.1.trans hfades.1.1
    refine ⟨⟨hs₃.stored, hs₃.attached, ?_⟩, fun _ =>
      clear_iff.mpr ⟨(hfades₃.2 hs₂.stored).noneOf (Or.inl rfl) hserver, hbus⟩⟩
    rintro (h | h)
    · change s₃.runtimeState = _ at h
      rw [hnormal] at h
      cases h
    · cases h

/-- What `initialize_runtime_session` leaves behind. -/
theorem initializeRuntimeSession_run {s : ServerSession T} (hm : Stored s.diagnosticManager)
    (failure : Option InitializationStage) :
    (failure = none ∧ initializeRuntimeSession S failure s =
      (.ok (), { s with runtime := some s.runtimes, runtimes := s.runtimes + 1 })) ∨
    failure ≠ none ∧ Failing s.stateStatus (initializeRuntimeSession S failure s).2 := by
  cases failure with
  | none => exact Or.inl ⟨rfl, rfl⟩
  | some stage =>
    refine Or.inr ⟨by simp, ?_⟩
    unfold initializeRuntimeSession
    have hattach (attached : Bool) :
        Prog.Triple (Starting s.stateStatus) (Prog.onlyIf (attached = true) (attachRuntime (T := T)))
          (fun _ => Starting s.stateStatus) fun _ => Failing s.stateStatus :=
      Prog.Triple.onlyIf (fun _ => Prog.Triple.modify fun s hs => hs) fun _ _ hs => hs
    exact ((hattach _).bind fun _ => failRuntimeInitialization_failing _ stage _).state ⟨hm, rfl⟩

theorem reconnectFailedInitialization_agrees {s : ServerSession T} (hs : Agrees s)
    (hoperation : s.reconnectOperation = true) (outcome : InitializationOutcome)
    (hclean : outcome.Succeeds → InitializationAcknowledged s.diagnosticManager →
      NoneOf busSource s.diagnosticManager) :
    Agrees (reconnectFailedInitialization S outcome s).2 := by
  have hstatus := hs.degraded (Or.inr hoperation)
  unfold reconnectFailedInitialization
  rcases initializeRuntimeSession_run (S := S) hs.stored outcome.failure with
    ⟨hnone, hrun⟩ | ⟨hsome, hfail⟩
  · rw [Prog.bind_run_ok hrun, Prog.bind_run_ok (Prog.onlyIf_run_of_not (not_not.mpr hnone) _ _)]
    have hstart : Starting s.stateStatus
        { s with runtime := some s.runtimes, runtimes := s.runtimes + 1 } := ⟨hs.stored, rfl⟩
    by_cases htime : outcome.inTime = false
    · obtain ⟨e, s', herror, hs'⟩ := (failReconnection_failing (S := S) .busConnection
        outcome.detail s.stateStatus).raises hstart
      rw [Prog.bind_run_error ((Prog.onlyIf_run htime _ _).trans herror)]
      exact hs'.agrees hstatus
    · rw [Prog.bind_run_ok (Prog.onlyIf_run_of_not htime _ _)]
      by_cases hbuilt : outcome.built = false
      · obtain ⟨e, s', herror, hs'⟩ := (failReconnection_failing (S := S)
          .deviceInitialization outcome.detail s.stateStatus).raises hstart
        rw [Prog.bind_run_error ((Prog.onlyIf_run hbuilt _ _).trans herror)]
        exact hs'.agrees hstatus
      · rw [Prog.bind_run_ok (Prog.onlyIf_run_of_not hbuilt _ _)]
        exact completeInitialization_agrees hs.stored (by simp) hstatus
          (hclean ⟨hnone, Bool.not_eq_false _ ▸ htime, Bool.not_eq_false _ ▸ hbuilt⟩)
  · rw [Prog.bind_run]
    cases hr : initializeRuntimeSession S outcome.failure s with
    | mk r s' =>
      rw [hr] at hfail
      cases r with
      | error e => exact hfail.agrees hstatus
      | ok u =>
        obtain ⟨e, s'', herror, hs''⟩ := (recordFailure_failing (S := S) outcome.detail
          s.stateStatus).raises hfail
        dsimp only
        rw [Prog.bind_run_error ((Prog.onlyIf_run hsome _ _).trans herror)]
        exact hs''.agrees hstatus

/-! ## Requests -/

theorem refreshGlobalFaultState_agrees :
    Prog.Keeps (Prog.Frame.ofInv Agrees) (refreshGlobalFaultState (T := T)) := by
  unfold refreshGlobalFaultState
  refine Prog.keeps_get_bind fun s hs => ?_
  by_cases h : s.globalFault = false ∧ s.runtime ≠ none ∧ s.runtimeState = .fault
  · rw [Prog.onlyIf_run h]
    exact setNormal_agrees.state ⟨hs.toUnsettled, (globalFault_eq_false hs.stored).mp h.1⟩
  · rw [Prog.onlyIf_run_of_not h]
    exact hs

theorem faultResetSource_agrees (source : DiagnosticSource) :
    Prog.Keeps (Prog.Frame.ofInv Agrees) (faultResetSource S source) := by
  unfold faultResetSource
  exact (keeps_agrees (acknowledgeFaults_fading source)).bind fun _ =>
    refreshGlobalFaultState_agrees

variable {n : ℕ}

/-- An axis is restarted only in a normal state. -/
theorem normal_of_allowed {s : ServerSession T} (hs : Agrees s) {prepared : Bool} {axisIndex : Fin n}
    {recovery : RecoveryOutcome n}
    (hallowed : (SessionRequest.axisRestart prepared axisIndex recovery).Allowed s) :
    s.runtimeState = .normal := by
  obtain ⟨hdegraded, -, -, hglobal⟩ := hallowed
  cases hstate : s.runtimeState with
  | normal => rfl
  | initializationError =>
    have hsome := Option.isSome_iff_ne_none.mpr (hs.degraded (Or.inl hstate))
    cases hdegraded hsome
  | busDisconnected => cases hglobal (Or.inr hstate)
  | fault => cases hglobal (Or.inl hstate)

/-- The server initializes while its fault is acknowledged and the bus has a fault. -/
def AcknowledgedTooEarly (s : ServerSession T) (outcome : InitializationOutcome) : Prop :=
  s.reconnectOperation = true ∧ outcome.Succeeds ∧ InitializationAcknowledged s.diagnosticManager ∧
    s.diagnosticManager.hasActiveFault (.sourceType .bus) = true

/-- The event is no such initialization. -/
def CleanEvent (s : ServerSession T) : SessionEvent n → Prop
  | .request (.busReconnect outcome _) => ¬ AcknowledgedTooEarly s outcome
  | _ => True

theorem handleRequest_agrees {s : ServerSession T} (hs : Agrees s) {request : SessionRequest n}
    (hallowed : request.Allowed s) (hclean : CleanEvent s (.request request)) :
    Agrees (handleRequest S request s).2 := by
  cases request with
  | serverFaultReset => exact faultResetSource_agrees _ s hs
  | busFaultReset => exact faultResetSource_agrees _ s hs
  | busReconnect outcome recovery =>
    unfold handleRequest
    dsimp only
    rw [Prog.bind_run_ok (Prog.get_run s)]
    by_cases hoperation : s.reconnectOperation = true
    · rw [if_pos hoperation]
      refine reconnectFailedInitialization_agrees hs hoperation outcome fun hsucceeds hack => ?_
      intro k status hk heq
      refine hclean ⟨hoperation, hsucceeds, hack, hasActiveFault_iff.mpr ⟨k, status, hk, ?_⟩⟩
      have htype : status.source.type = .bus := by rw [heq]; rfl
      exact ⟨((hs.stored.known hk).fault (Or.inr htype)).1, htype⟩
    · rw [if_neg hoperation]
      exact reconnectRuntime_agrees recovery s hs
  | axisRestart prepared axisIndex recovery =>
    have hclear := hs.clear (normal_of_allowed hs hallowed)
    have hrestart := restartAxisRuntime_agrees (S := S) recovery axisIndex hs hclear
    unfold handleRequest
    dsimp only
    rw [Prog.bind_run, Prog.raiseIf_run]
    split_ifs
    · exact hs
    · change Agrees (tryCatch (restartAxisRuntime S recovery axisIndex)
        (fun _ => throw (.motionServer (.deviceAccess "axis_restart"))) s).2
      rw [Prog.tryCatch_throw_state]
      exact hrestart
  | axisFaultReset prepared axes =>
    have hkeeps : Prog.Keeps (Prog.Frame.ofInv Agrees)
        (handleRequest S (.axisFaultReset prepared axes)) := by
      unfold handleRequest
      exact (Prog.Keeps.raiseIf _).bind fun _ => Prog.Keeps.forM fun a _ =>
        keeps_agrees (acknowledgeFaults_fading _)
    exact hkeeps s hs

/-- **One event keeps the invariant.** -/
theorem step_agrees {s : ServerSession T} (hs : Agrees s) {event : SessionEvent n}
    (hclean : CleanEvent s event) : Agrees (step S event s).2 := by
  cases event with
  | cycle outcome => exact runCycle_agrees outcome s hs
  | turn =>
    have hkeeps : Prog.Keeps (Prog.Frame.ofInv Agrees) (step (n := n) S .turn) := by
      unfold step
      refine Prog.Keeps.get.bind fun s => Prog.Keeps.onlyIf ?_
      exact modify_agrees (fun _ => ⟨rfl, rfl, rfl, rfl⟩) fun _ => rfl
    exact hkeeps s hs
  | request request =>
    unfold step
    dsimp only
    rw [Prog.bind_run_ok (Prog.get_run s)]
    by_cases hallowed : request.Allowed s
    · rw [Prog.onlyIf_run hallowed, Prog.tryCatch_run]
      have h := handleRequest_agrees (S := S) hs hallowed hclean
      cases hr : handleRequest S request s with
      | mk r s' =>
        rw [hr] at h
        cases r <;> exact h
    · rw [Prog.onlyIf_run_of_not hallowed]
      exact hs

/-! ## Starts -/

theorem stored_init : Stored (init : ServerSession T).diagnosticManager where
  consistent := init_consistent
  known h := nomatch h

theorem degrade_agrees (reconnectOperation : Bool) (status : Option InitializationStage) :
    Prog.Triple (Failing status) (degrade (T := T) reconnectOperation) (fun _ => Agrees)
      fun _ _ => True :=
  Prog.Triple.modify fun s hs =>
    { stored := hs.stored
      attached := fun h => absurd hs.state h
      degraded := fun _ => hs.failed
      clear := fun h => by
        change s.runtimeState = _ at h
        rw [hs.state] at h
        cases h }

/-- The end of a start that succeeds. -/
theorem ready_agrees :
    Prog.Triple (fun s => Stored s.diagnosticManager ∧ Clear s.diagnosticManager ∧
        s.runtime ≠ none ∧ s.reconnectOperation = false)
      (do
        markReady
        let _ ← resolveInitializationFault S
        Prog.modify fun s => { s with stateStatus := none, servedRuntime := s.runtime })
      (fun _ => Agrees) fun _ _ => True := by
  let P (s : ServerSession T) : Prop :=
    Agrees s ∧ s.runtimeState = .normal ∧ s.reconnectOperation = false
  refine Prog.Triple.bind (Q := fun _ => P) ?_ fun _ => ?_
  · refine Prog.Triple.modify fun s hs => ?_
    obtain ⟨hstored, hclear, hruntime, hoperation⟩ := hs
    refine ⟨⟨⟨hstored, fun _ => hruntime, ?_⟩, fun _ => hclear⟩, rfl, hoperation⟩
    rintro (h | h)
    · cases h
    · exact absurd (hoperation.symm.trans h) Bool.false_ne_true
  · have hkeeps : Prog.Keeps (Prog.Frame.ofInv P) (resolveInitializationFault S) :=
      resolveInitializationFault_fading.mono fun _ _ h hs =>
        ⟨hs.1.fading h, h.1.1.trans hs.2.1, h.1.2.2.2.trans hs.2.2⟩
    refine Prog.Triple.bind (hkeeps.triple.conseq (fun _ h => h) (fun _ _ h => h)
      fun _ _ _ => trivial) fun _ => Prog.Triple.modify fun s hs => ?_
    obtain ⟨hs, hnormal, hoperation⟩ := hs
    refine ⟨⟨hs.stored, hs.attached, ?_⟩, hs.clear⟩
    rintro (h | h)
    · exact absurd (hnormal.symm.trans h) (by simp)
    · exact absurd (hoperation.symm.trans h) Bool.false_ne_true

theorem start_agrees (startup : Startup) :
    Prog.Triple (· = init) (start S startup) (fun _ => Agrees) fun _ _ => True := by
  have hweaken {m : Session T Unit} {P : ServerSession T → Prop} {Q : Unit → ServerSession T → Prop}
      {E : PyExc → ServerSession T → Prop} (h : Prog.Triple P m Q E) :
      Prog.Triple P m Q fun _ _ => True :=
    h.conseq (fun _ h => h) (fun _ _ h => h) fun _ _ _ => trivial
  cases startup with
  | configurationFailed =>
    refine Prog.Triple.bind (Q := fun _ => Failing none) ?_ fun _ => ?_
    · refine Prog.Triple.modify fun s hs => ?_
      rw [hs]
      exact ⟨stored_init, rfl, by simp, rfl⟩
    · exact (hweaken (detect_failing known_server none none).triple).bind fun _ =>
        degrade_agrees false none
  | initialization outcome =>
    change Prog.Triple (· = init) (runMainOnce S outcome) (fun _ => Agrees) fun _ _ => True
    rintro s rfl
    unfold runMainOnce
    rcases initializeRuntimeSession_run (S := S) stored_init outcome.failure with
      ⟨hnone, hrun⟩ | ⟨hsome, hfail⟩
    · rw [Prog.bind_run_ok hrun, if_neg (not_not.mpr hnone)]
      split_ifs with hbuilt
      · exact ((hweaken (failRuntimeInitialization_failing true .deviceInitialization none)).bind
          fun _ => degrade_agrees false none) _ ⟨stored_init, rfl⟩
      · have hready := ready_agrees (S := S) { init with runtime := some 0, runtimes := 1 }
        exact hready ⟨stored_init, (fun _ _ h => nomatch h), Option.some_ne_none _, rfl⟩
    · rw [Prog.bind_run]
      cases hr : initializeRuntimeSession S outcome.failure init with
      | mk r s' =>
        rw [hr] at hfail
        cases r with
        | error e => trivial
        | ok u =>
          dsimp only
          rw [if_pos hsome]
          exact degrade_agrees true none s' hfail

/-! ## Runs -/

/-- The fault reset of a source whose faults are all resolved. -/
theorem faultResetSource_run {s : ServerSession T} (hs : Agrees s) (source : DiagnosticSource)
    (hsource : source.type = .server ∨ source.type = .bus)
    (hres : ResolvedOf source s.diagnosticManager) :
    ∃ s', faultResetSource S source s = (.ok (), s') ∧ Agrees s' ∧
      Recedes s.diagnosticManager s'.diagnosticManager ∧ NoneOf source s'.diagnosticManager ∧
      (s.runtimeState = .normal → s'.runtimeState = .normal) ∧
      (s.runtimeState = .fault → s'.runtimeState = .normal ∨
        s'.runtimeState = .fault ∧ ¬ Clear s'.diagnosticManager) := by
  obtain ⟨m, hrun, hrec, hnone⟩ := acknowledgeFaults_clears (S := S) hsource hs.stored hres
  have hrel : fading.Rel s (s.called m) := ⟨⟨rfl, rfl, rfl, rfl⟩, fun _ => hrec⟩
  have hs₁ : Agrees (s.called m) := hs.fading hrel
  unfold faultResetSource refreshGlobalFaultState
  rw [Prog.bind_run_ok hrun, Prog.bind_run_ok (Prog.get_run _)]
  by_cases h : (s.called m).globalFault = false ∧ (s.called m).runtime ≠ none ∧
      (s.called m).runtimeState = .fault
  · have hclear := (globalFault_eq_false hs₁.stored).mp h.1
    rw [Prog.onlyIf_run h]
    have hset : setRuntimeState .normal (s.called m) =
        (.ok (), { s.called m with runtimeState := .normal }) := by
      unfold setRuntimeState
      rw [Prog.bind_run_ok (Prog.get_run _)]
      have hraise := Prog.raiseIf_run (ServerRuntimeState.normal ≠ .initializationError ∧
        (s.called m).runtime = none) PyExc.runtimeError (s.called m)
      rw [if_neg fun h' => h.2.1 h'.2] at hraise
      rw [Prog.bind_run_ok hraise]
      rfl
    have hagrees := setNormal_agrees.state (s := s.called m) ⟨hs₁.toUnsettled, hclear⟩
    rw [hset] at hagrees ⊢
    exact ⟨_, rfl, hagrees, hrec, hnone, fun _ => rfl, fun _ => Or.inl rfl⟩
  · rw [Prog.onlyIf_run_of_not h]
    refine ⟨_, rfl, hs₁, hrec, hnone, id, fun hfault => Or.inr ⟨hfault, fun hclear => h ⟨?_, ?_, hfault⟩⟩⟩
    · exact (globalFault_eq_false hs₁.stored).mpr hclear
    · exact hs.attached (by rw [hfault]; simp)

/-- A fault reset of the server or of the bus is allowed in every state. -/
theorem step_reset {request : SessionRequest n} {source : DiagnosticSource}
    (hrequest : request = .serverFaultReset ∧ source = serverSource ∨
      request = .busFaultReset ∧ source = busSource) {s s' : ServerSession T}
    (hrun : faultResetSource S source s = (.ok (), s')) :
    step S (.request request) s = (.ok (), s') := by
  have hallowed : request.Allowed s := by
    rcases hrequest with ⟨rfl, -⟩ | ⟨rfl, -⟩ <;>
      exact ⟨fun _ => rfl, (fun h => nomatch h), (fun h => nomatch h), fun _ => rfl⟩
  have hhandle : handleRequest S request s = (.ok (), s') := by
    rcases hrequest with ⟨rfl, rfl⟩ | ⟨rfl, rfl⟩ <;> exact hrun
  unfold step
  dsimp only
  rw [Prog.bind_run_ok (Prog.get_run s), Prog.onlyIf_run hallowed, Prog.tryCatch_run, hhandle]

/-- **From a fault whose conditions are resolved the two fault resets lead back to normal.** -/
theorem resets_normal {s : ServerSession T} (hs : Agrees s) (hfault : s.runtimeState = .fault)
    (hres : ∀ status ∈ s.diagnosticManager.activeStatuses, IsGlobal status →
      status.history.resolvedAt ≠ none) :
    ([.request .serverFaultReset, .request .busFaultReset].forM (step (n := n) S) s).2.runtimeState
      = .normal := by
  have hresolved {source : DiagnosticSource} (hsource : source.type = .server ∨ source.type = .bus) :
      ResolvedOf source s.diagnosticManager := by
    intro k status hk heq
    refine hres status (mem_activeStatuses.mpr ⟨k, hk⟩) ?_
    unfold IsGlobal
    rwa [heq]
  obtain ⟨s₁, hrun₁, hs₁, hrec₁, hserver, -, hstate₁⟩ := faultResetSource_run (S := S) hs
    serverSource (Or.inl rfl) (hresolved (Or.inl rfl))
  obtain ⟨s₂, hrun₂, -, hrec₂, hbus, hnormal, hstate₂⟩ := faultResetSource_run (S := S) hs₁
    busSource (Or.inr rfl) (hrec₁.resolvedOf (Or.inr rfl) (hresolved (Or.inr rfl)))
  have hclear : Clear s₂.diagnosticManager :=
    clear_iff.mpr ⟨hrec₂.noneOf (Or.inl rfl) hserver, hbus⟩
  have hend : s₂.runtimeState = .normal := by
    rcases hstate₁ hfault with h | ⟨h, -⟩
    · exact hnormal h
    · exact (hstate₂ h).resolve_right fun h' => h'.2 hclear
  have h₁ := step_reset (n := n) (Or.inl ⟨rfl, rfl⟩) hrun₁
  have h₂ := step_reset (n := n) (Or.inr ⟨rfl, rfl⟩) hrun₂
  change ((step S (.request .serverFaultReset) >>= fun _ =>
    step S (.request .busFaultReset) >>= fun _ => pure ()) s).2.runtimeState = _
  rw [Prog.bind_run_ok h₁, Prog.bind_run_ok h₂]
  exact hend

/-- **The runtime state agrees with the diagnostics** in every run in which no server initializes
late while its fault is acknowledged and the bus has a fault: a normal state has no fault of the
server or of the bus, and from a fault state whose conditions are resolved the two fault resets lead
back to normal. -/
theorem runtimeState_agrees {startup : Startup} {s₀ s : ServerSession T}
    {events : List (SessionEvent n)} (hstart : start S startup init = (.ok (), s₀))
    (hrun : Prog.AlongRun (step S) CleanEvent events s₀)
    (hend : (events.forM (step S) s₀).2 = s) :
    (s.runtimeState = .normal → s.globalFault = false) ∧
      (s.runtimeState = .fault →
        (∀ status ∈ s.diagnosticManager.activeStatuses, IsGlobal status →
          status.history.resolvedAt ≠ none) →
        ([.request .serverFaultReset, .request .busFaultReset].forM (step (n := n) S)
          s).2.runtimeState = .normal) := by
  have h₀ := start_agrees (S := S) startup init rfl
  rw [hstart] at h₀
  have hs : Agrees s := hend ▸ Prog.run_invariant (I := Agrees) (step S) CleanEvent
    (fun s event hs hclean => step_agrees hs hclean) events h₀ hrun
  exact ⟨fun hnormal => (globalFault_eq_false hs.stored).mpr (hs.clear hnormal),
    fun hfault hres => resets_normal hs hfault hres⟩

/-- A clock that counts, and ids that are never given twice. -/
def countedStamp (k : ℕ) : Stamp ℕ where
  newId := .ok (String.ofList (List.replicate (k + 1) 'd'))
  now := k

/-- An initialization that fails at `failure`, if it fails. -/
def initializing (failure : Option InitializationStage) : InitializationOutcome where
  failure := failure
  inTime := true
  built := true
  detail := ""

def recovering : RecoveryOutcome 1 where
  prepared := true
  refresh := fun _ => .refreshed
  stable := true
  inTime := true
  detail := ""

/-- Three cycles with an incomplete working counter, and a complete one. -/
def incompleteThrice : List (SessionEvent 1) :=
  [.cycle (.exchanged 3 2 true [] ""), .cycle (.exchanged 3 2 true [] ""),
    .cycle (.exchanged 3 2 true [] ""), .cycle (.exchanged 3 3 true [] "")]

/-- The fault of an incomplete working counter is reset. -/
theorem runtimeState_agrees_incomplete :
    let s₀ := (start countedStamp (.initialization (initializing none)) init).2
    let s := (incompleteThrice.forM (step countedStamp) s₀).2
    s.runtimeState = .fault ∧
      ([.request .serverFaultReset, .request .busFaultReset].forM (step (n := 1) countedStamp)
        s).2.runtimeState = .normal := by
  intro s₀ s
  have hstart : start countedStamp (.initialization (initializing none)) init = (.ok (), s₀) :=
    Prog.run_eta (by decide +kernel)
  have hrun : Prog.AlongRun (step countedStamp) CleanEvent incompleteThrice s₀ :=
    ⟨trivial, fun _ _ => ⟨trivial, fun _ _ => ⟨trivial, fun _ _ => ⟨trivial, fun _ _ => trivial⟩⟩⟩⟩
  have hfault : s.runtimeState = .fault := by decide +kernel
  have hres : ∀ status ∈ s.diagnosticManager.activeStatuses, IsGlobal status →
      status.history.resolvedAt ≠ none := by decide +kernel
  have hend : (incompleteThrice.forM (step countedStamp) s₀).2 = s := rfl
  exact ⟨hfault, (runtimeState_agrees hstart hrun hend).2 hfault hres⟩

/-- A reconnect fails, the fault of the initialization is reset, and the next reconnect succeeds. -/
def acknowledgedReconnect : List (SessionEvent 1) :=
  [.request (.busReconnect (initializing (some .busConnection)) recovering),
    .request .serverFaultReset, .request (.busReconnect (initializing none) recovering)]

/-- A server initializes late while its fault is acknowledged: its state is normal, and the failed
reconnect stays an active fault of the bus. -/
theorem runtimeState_of_acknowledged :
    let s₀ := (start countedStamp (.initialization (initializing (some .busConnection))) init).2
    let s := (acknowledgedReconnect.forM (step countedStamp) s₀).2
    s.runtimeState = .normal ∧
      s.diagnosticManager.hasActiveFault (.sourceType .bus) = true := by
  intro s₀ s
  have hnormal : s.runtimeState = .normal := by decide +kernel
  have hfault : s.diagnosticManager.hasActiveFault (.sourceType .bus) = true := by decide +kernel
  exact ⟨hnormal, hfault⟩

end MotionServer.ServerSession
