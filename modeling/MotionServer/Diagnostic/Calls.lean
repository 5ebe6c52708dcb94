import MotionServer.Diagnostic.Store

/-!
# Runs of the diagnostic manager

* `Occurrence`: what a call reports of a status; `Occurrence.ResolvedLast`;
* `DiagnosticManager.Sound`: the tables are consistent and every stored status follows the log;
* `DiagnosticCall`, `record`: the calls of a run with what they reported;
* **`diagnosticManager_sound`**: in every run the tables are consistent, a call that raises changes
  nothing, and a status leaves when it should.
-/

namespace MotionServer

variable {T : Type} [LT T] [DecidableLT T]

/-! ## What calls report -/

/-- What a call reports of a status. -/
inductive Occurrence
  | detected (r : ℕ)
  | acknowledged (r : ℕ)
  | resolved (r : ℕ)
  deriving DecidableEq

namespace Occurrence

/-- The status an occurrence is about. -/
def ref : Occurrence → ℕ
  | detected r | acknowledged r | resolved r => r

/-- The status was resolved, and not detected after that. The latest occurrence comes first. -/
def ResolvedLast (log : List Occurrence) (r : ℕ) : Prop :=
  log.find? (fun o => o = detected r ∨ o = resolved r) = some (resolved r)

theorem resolvedLast_cons_of_ne {o : Occurrence} {log : List Occurrence} {r : ℕ}
    (hd : o ≠ detected r) (hr : o ≠ resolved r) :
    ResolvedLast (o :: log) r ↔ ResolvedLast log r := by
  unfold ResolvedLast
  rw [List.find?_cons_of_neg (by simp [hd, hr])]

theorem resolvedLast_resolved (log : List Occurrence) (r : ℕ) :
    ResolvedLast (resolved r :: log) r := by
  unfold ResolvedLast
  rw [List.find?_cons_of_pos (by simp)]

theorem not_resolvedLast_detected (log : List Occurrence) (r : ℕ) :
    ¬ ResolvedLast (detected r :: log) r := by
  unfold ResolvedLast
  rw [List.find?_cons_of_pos (by simp)]
  simp

theorem ne_of_ref {o : Occurrence} {r : ℕ} (h : o.ref ≠ r) :
    o ≠ detected r ∧ o ≠ acknowledged r ∧ o ≠ resolved r := by
  refine ⟨?_, ?_, ?_⟩ <;> rintro rfl <;> exact h rfl

/-- What the occurrence does to the history of its status. -/
def Reports (s s' : DiagnosticStatus T) : Occurrence → Prop
  | detected _ => s'.history.acknowledgedAt = s.history.acknowledgedAt ∧
    s'.history.resolvedAt = none
  | acknowledged _ => s'.history.acknowledgedAt ≠ none ∧
    s'.history.resolvedAt = s.history.resolvedAt
  | resolved _ => s'.history.acknowledgedAt = s.history.acknowledgedAt ∧
    s'.history.resolvedAt ≠ none

end Occurrence

open Occurrence

/-- The times of a status are set as the log says. -/
structure FollowsLog (s : DiagnosticStatus T) (log : List Occurrence) (r : ℕ) : Prop where
  acknowledged : s.history.acknowledgedAt ≠ none ↔ Occurrence.acknowledged r ∈ log
  resolved : s.history.resolvedAt ≠ none ↔ ResolvedLast log r

omit [LT T] [DecidableLT T] in
theorem FollowsLog.cons_of_ref_ne {s : DiagnosticStatus T} {log : List Occurrence} {r : ℕ}
    (h : FollowsLog s log r) {o : Occurrence} (ho : o.ref ≠ r) : FollowsLog s (o :: log) r := by
  obtain ⟨hd, ha, hr⟩ := ne_of_ref ho
  constructor
  · rw [h.acknowledged, List.mem_cons]
    exact ⟨Or.inr, fun h => h.resolve_left (Ne.symm ha)⟩
  · rw [h.resolved, resolvedLast_cons_of_ne hd hr]

omit [LT T] [DecidableLT T] in
theorem FollowsLog.cons {s s' : DiagnosticStatus T} {log : List Occurrence} {o : Occurrence}
    (h : FollowsLog s log o.ref) (ho : o.Reports s s') : FollowsLog s' (o :: log) o.ref := by
  cases o with
  | detected r =>
    obtain ⟨hack, hres⟩ := ho
    constructor
    · rw [hack, h.acknowledged, List.mem_cons]
      simp [ref]
    · rw [hres]
      exact ⟨fun h => absurd rfl h, fun h => absurd h (not_resolvedLast_detected log r)⟩
  | acknowledged r =>
    obtain ⟨hack, hres⟩ := ho
    constructor
    · exact ⟨fun _ => List.mem_cons_self, fun _ => hack⟩
    · rw [hres, h.resolved]
      exact (resolvedLast_cons_of_ne (by simp) (by simp)).symm
  | resolved r =>
    obtain ⟨hack, hres⟩ := ho
    constructor
    · rw [hack, h.acknowledged, List.mem_cons]
      simp [ref]
    · exact ⟨fun _ => resolvedLast_resolved log r, fun _ => hres⟩

namespace DiagnosticManager

/-- The tables are consistent, and what they hold follows the log. -/
structure Sound (m : DiagnosticManager T) (log : List Occurrence) : Prop where
  consistent : m.Consistent
  follows : ∀ {k r s}, m.byKey.get? k = some r → m.heap[r]? = some s → FollowsLog s log r
  known : ∀ o ∈ log, o.ref < m.heap.length

section Update

variable {m : DiagnosticManager T} {log : List Occurrence} {k : DiagnosticKey} {r : ℕ}
  {s s' : DiagnosticStatus T}

/-- **One status is updated and reported.** -/
theorem Sound.update {o : Occurrence} (hm : m.Sound log) (hk : m.byKey.get? k = some o.ref)
    (hs : m.heap[o.ref]? = some s) (hsame : SameStatus s s') (ho : o.Reports s s') :
    (m.update o.ref s').Sound (o :: log) where
  consistent := hm.consistent.update hk hs hsame
  follows {k' r' s₀} hk' hs₀ := by
    obtain ⟨hk₀, -⟩ := (update_byKey hm.consistent hk hs hsame).mp hk'
    rw [update_heap, heap_set_getElem? hs] at hs₀
    split_ifs at hs₀ with hr
    · subst hr
      obtain rfl : s' = s₀ := Option.some.inj hs₀
      exact (hm.follows hk hs).cons ho
    · exact (hm.follows hk₀ hs₀).cons_of_ref_ne (Ne.symm hr)
  known o' h := by
    rw [update_heap, List.length_set]
    rcases List.mem_cons.mp h with rfl | h
    · exact (List.getElem?_eq_some_iff.mp hs).1
    · exact hm.known o' h

/-- What leaves the tables latches, and is acknowledged and resolved. -/
def LeavesCleared (m m' : DiagnosticManager T) (log' : List Occurrence) : Prop :=
  ∀ k r s, m.byKey.get? k = some r → m.heap[r]? = some s → m'.byKey.get? k ≠ some r →
    s.definition.latching = true ∧ Occurrence.acknowledged r ∈ log' ∧ ResolvedLast log' r

/-- The status that an update clears was the updated one, and follows its log. -/
theorem Sound.update_leaves {o : Occurrence} (hm : m.Sound log)
    (hk : m.byKey.get? k = some o.ref) (hs : m.heap[o.ref]? = some s) (hsame : SameStatus s s')
    (ho : o.Reports s s') {k' : DiagnosticKey} {r' : ℕ} (hk' : m.byKey.get? k' = some r')
    (hleft : (m.update o.ref s').byKey.get? k' ≠ some r') :
    r' = o.ref ∧ ResolvedLast (o :: log) o.ref ∧
      (s.definition.latching = true → Occurrence.acknowledged o.ref ∈ o :: log) := by
  rw [Ne, update_byKey hm.consistent hk hs hsame] at hleft
  have hr : r' = o.ref := by
    by_contra hne
    exact hleft ⟨hk', fun h => absurd h hne⟩
  have hc : s'.clearedAt ≠ none := fun hc => hleft ⟨hk', fun _ => hc⟩
  rw [Ne, DiagnosticStatus.clearedAt_eq_none_iff, not_or, not_and, hsame.definition] at hc
  have hlog := (hm.follows hk hs).cons ho
  exact ⟨hr, hlog.resolved.mp hc.1, fun hlatch => hlog.acknowledged.mp (hc.2 hlatch)⟩

end Update

omit [LT T] [DecidableLT T] in
theorem reports_acknowledged (s : DiagnosticStatus T) (t : T) (r : ℕ) :
    (Occurrence.acknowledged r).Reports s (acknowledged s t) := by
  unfold acknowledged
  split_ifs with h
  · exact ⟨by simp [DiagnosticStatus.setAcknowledged], rfl⟩
  · exact ⟨h, rfl⟩

omit [LT T] [DecidableLT T] in
theorem reports_resolved (s : DiagnosticStatus T) (t : T) (r : ℕ) :
    (Occurrence.resolved r).Reports s (resolved s t) := by
  unfold resolved
  split_ifs with h
  · exact ⟨rfl, by simp [DiagnosticStatus.setResolved]⟩
  · exact ⟨rfl, h⟩

/-- A stored status that does not latch is not resolved. -/
theorem Consistent.resolvedAt_eq_none {m : DiagnosticManager T} (hm : m.Consistent)
    {k : DiagnosticKey} {r : ℕ} {s : DiagnosticStatus T} (hk : m.byKey.get? k = some r)
    (hs : m.heap[r]? = some s) (hlatch : s.definition.latching = false) :
    s.history.resolvedAt = none := by
  have hc := (hm.stored hk hs).2.2
  rw [DiagnosticStatus.clearedAt_eq_none_iff, hlatch] at hc
  simpa using hc

/-- An acknowledgement clears nothing that does not latch. -/
theorem Sound.acknowledge_leaves {m : DiagnosticManager T} {log : List Occurrence}
    (hm : m.Sound log) {k : DiagnosticKey} {r : ℕ} {s : DiagnosticStatus T}
    (hk : m.byKey.get? k = some r) (hs : m.heap[r]? = some s) (t : T) :
    m.LeavesCleared (m.update r (acknowledged s t)) (.acknowledged r :: log) := by
  intro k' r' s₀ hk' hs₀ hleft
  obtain ⟨rfl, hres, hack⟩ := hm.update_leaves (o := .acknowledged r) hk hs
    (sameStatus_acknowledged s t) (reports_acknowledged s t r) hk' hleft
  obtain rfl : s = s₀ := Option.some.inj (hs.symm.trans hs₀)
  have hlatch : s.definition.latching = true := by
    by_contra hlatch
    rw [Bool.not_eq_true] at hlatch
    have hlog := (hm.follows hk hs).resolved
    rw [hm.consistent.resolvedAt_eq_none hk hs hlatch] at hlog
    rw [resolvedLast_cons_of_ne (by simp) (by simp)] at hres
    exact hlog.mpr hres rfl
  exact ⟨hlatch, hack hlatch, hres⟩

/-! ## First detections and several acknowledgements -/

theorem Sound.withNew {m : DiagnosticManager T} {log : List Occurrence}
    {s : DiagnosticStatus T} (hm : m.Sound log) (hk : m.byKey.get? s.key = none)
    (hid : s.diagnosticId ∉ m.usedIds) (hack : s.history.acknowledgedAt = none)
    (hres : s.history.resolvedAt = none) :
    (m.withNew s).Sound (.detected m.heap.length :: log) where
  consistent := hm.consistent.withNew hk hid
    (DiagnosticStatus.clearedAt_eq_none_iff.mpr (Or.inl hres))
  follows {k r s₀} h hs₀ := by
    unfold DiagnosticManager.withNew at h hs₀
    dsimp only at h hs₀
    rw [Dict.get?_set] at h
    split_ifs at h with hkey
    · obtain rfl : m.heap.length = r := Option.some.inj h
      rw [List.getElem?_append_right le_rfl, Nat.sub_self] at hs₀
      obtain rfl : s = s₀ := Option.some.inj hs₀
      constructor
      · rw [hack]
        refine ⟨fun h => absurd rfl h, fun h => ?_⟩
        rcases List.mem_cons.mp h with h | h
        · cases h
        · exact absurd (hm.known _ h) (lt_irrefl _)
      · rw [hres]
        exact ⟨fun h => absurd rfl h, fun h => absurd h (not_resolvedLast_detected _ _)⟩
    · obtain ⟨s₁, hs₁, -⟩ := hm.consistent.keyed h
      obtain ⟨happ, hne⟩ := heap_append_getElem? (s := s) hs₁
      obtain rfl : s₁ = s₀ := Option.some.inj (happ.symm.trans hs₀)
      exact (hm.follows h hs₁).cons_of_ref_ne (Ne.symm hne)
  known o h := by
    change o.ref < (m.heap ++ [s]).length
    rw [List.length_append, List.length_singleton]
    rcases List.mem_cons.mp h with rfl | h
    · exact Nat.lt_succ_self _
    · exact (hm.known o h).trans (Nat.lt_succ_self _)

/-- The log after the acknowledgements of `refs`, one after the other. -/
def acknowledgements (refs : List ℕ) (log : List Occurrence) : List Occurrence :=
  (refs.map Occurrence.acknowledged).reverse ++ log

omit [LT T] [DecidableLT T] in
theorem acknowledgements_cons (r : ℕ) (refs : List ℕ) (log : List Occurrence) :
    acknowledgements (r :: refs) log = acknowledgements refs (.acknowledged r :: log) := by
  unfold acknowledgements
  rw [List.map_cons, List.reverse_cons, List.append_assoc]
  rfl

theorem resolvedLast_acknowledgements {refs : List ℕ} {log : List Occurrence} {r : ℕ} :
    ResolvedLast (acknowledgements refs log) r ↔ ResolvedLast log r := by
  induction refs generalizing log with
  | nil => exact Iff.rfl
  | cons r' refs ih =>
    rw [acknowledgements_cons, ih]
    exact resolvedLast_cons_of_ne (by simp) (by simp)

theorem mem_acknowledgements {refs : List ℕ} {log : List Occurrence} {o : Occurrence}
    (h : o ∈ log) : o ∈ acknowledgements refs log :=
  List.mem_append_right _ h

/-- **The statuses of `refs` are acknowledged one after the other.** -/
theorem Sound.acknowledgeRefs (at? : Option T) (now : T) {refs : List ℕ} (hrefs : refs.Nodup)
    {m : DiagnosticManager T} {log : List Occurrence} (hm : m.Sound log)
    (hstored : ∀ r ∈ refs, ∃ k, m.byKey.get? k = some r) :
    ∃ m', refs.forM (acknowledgeRef at? now) m = (.ok (), m') ∧
      m'.Sound (acknowledgements refs log) ∧ m.LeavesCleared m' (acknowledgements refs log) := by
  induction refs generalizing m log with
  | nil => exact ⟨m, rfl, hm, fun k r s hk _ hleft => absurd hk hleft⟩
  | cons r refs ih =>
    obtain ⟨hr, hrefs⟩ := List.nodup_cons.mp hrefs
    obtain ⟨k, hk⟩ := hstored r List.mem_cons_self
    obtain ⟨s, hs, -⟩ := hm.consistent.keyed hk
    let s' := acknowledged s (at?.getD now)
    have hsame : SameStatus s s' := sameStatus_acknowledged s _
    have hstep : (m.update r s').Sound (.acknowledged r :: log) :=
      hm.update (o := .acknowledged r) hk hs hsame (reports_acknowledged s _ r)
    have hleaves := hm.acknowledge_leaves hk hs (at?.getD now)
    have hstays {k' : DiagnosticKey} {r' : ℕ} (hk' : m.byKey.get? k' = some r') (hne : r' ≠ r) :
        (m.update r s').byKey.get? k' = some r' := by
      rw [update_byKey hm.consistent hk hs hsame]
      exact ⟨hk', fun h => absurd h hne⟩
    obtain ⟨m', hrun, hsound, hleaves'⟩ := ih hrefs hstep fun r' hr' => by
      obtain ⟨k', hk'⟩ := hstored r' (List.mem_cons_of_mem _ hr')
      refine ⟨k', hstays hk' ?_⟩
      rintro rfl
      exact hr hr'
    refine ⟨m', ?_, ?_, ?_⟩
    · change (acknowledgeRef at? now r >>= fun _ => refs.forM (acknowledgeRef at? now)) m = _
      rw [Prog.bind_run_ok (acknowledgeRef_run hm.consistent hk hs at? now)]
      exact hrun
    · rw [acknowledgements_cons]
      exact hsound
    · rw [acknowledgements_cons]
      intro k' r' s₀ hk' hs₀ hleft
      by_cases hmid : (m.update r s').byKey.get? k' = some r'
      · obtain ⟨s₁, hs₁, -⟩ := hstep.consistent.keyed hmid
        obtain ⟨hlatch, h⟩ := hleaves' k' r' s₁ hmid hs₁ hleft
        refine ⟨?_, h⟩
        rw [update_heap, heap_set_getElem? hs] at hs₁
        split_ifs at hs₁ with heq
        · subst heq
          obtain rfl : s' = s₁ := Option.some.inj hs₁
          obtain rfl : s = s₀ := Option.some.inj (hs.symm.trans hs₀)
          rwa [hsame.definition] at hlatch
        · obtain rfl : s₁ = s₀ := Option.some.inj (hs₁.symm.trans hs₀)
          exact hlatch
      · obtain ⟨hlatch, hack, hres⟩ := hleaves k' r' s₀ hk' hs₀ hmid
        exact ⟨hlatch, mem_acknowledgements hack, resolvedLast_acknowledgements.mpr hres⟩

theorem Sound.acknowledgeFaults {m : DiagnosticManager T} {log : List Occurrence}
    (hm : m.Sound log) (source : Option DiagnosticSource)
    (sourceType : Option DiagnosticSourceType) (at? : Option T) (now : T) :
    (∃ e, DiagnosticManager.acknowledgeFaults source sourceType at? now m = (.error e, m)) ∨
    ∃ refs m', DiagnosticManager.acknowledgeFaults source sourceType at? now m = (.ok refs, m') ∧
      m'.Sound (acknowledgements refs log) ∧ m.LeavesCleared m' (acknowledgements refs log) := by
  have hselection (selection : FaultSelection) : ∃ m',
      ((m.selectedRefs selection).forM (acknowledgeRef at? now) >>= fun _ =>
        pure (m.selectedRefs selection) : Prog PyExc (DiagnosticManager T) (List ℕ)) m =
          (.ok (m.selectedRefs selection), m') ∧
      m'.Sound (acknowledgements (m.selectedRefs selection) log) ∧
      m.LeavesCleared m' (acknowledgements (m.selectedRefs selection) log) := by
    obtain ⟨hnodup, hstored⟩ := hm.consistent.selectedRefs selection
    obtain ⟨m', hrun, hsound, hleaves⟩ := hm.acknowledgeRefs at? now hnodup
      hstored
    exact ⟨m', by rw [Prog.bind_run_ok hrun]; rfl, hsound, hleaves⟩
  unfold DiagnosticManager.acknowledgeFaults
  rw [Prog.bind_run_ok (Prog.get_run m)]
  cases source with
  | none =>
    cases sourceType with
    | none => exact Or.inr ⟨_, hselection .all⟩
    | some type => exact Or.inr ⟨_, hselection (.sourceType type)⟩
  | some source =>
    cases sourceType with
    | none => exact Or.inr ⟨_, hselection (.source source)⟩
    | some type => exact Or.inl ⟨.valueError, rfl⟩

end DiagnosticManager

/-! ## Calls -/

/-- A call of the manager, with what the id factory and the clock give to it. -/
inductive DiagnosticCall (T : Type)
  | detect (definition : DiagnosticDefinition) (source : DiagnosticSource)
      (detail : Option String) (at? : Option T) (newId : Except PyExc String) (now : T)
  | acknowledge (diagnosticId : String) (at? : Option T) (now : T)
  | acknowledgeFaults (source : Option DiagnosticSource)
      (sourceType : Option DiagnosticSourceType) (at? : Option T) (now : T)
  | resolve (code : String) (source : DiagnosticSource) (at? : Option T) (now : T)

namespace DiagnosticCall

open DiagnosticManager

/-- The call, with what it reports. -/
def perform : DiagnosticCall T → Prog PyExc (DiagnosticManager T) (List Occurrence)
  | detect definition source detail at? newId now => do
    let r ← DiagnosticManager.detect definition source detail at? newId now
    pure [.detected r]
  | acknowledge diagnosticId at? now => do
    let r ← DiagnosticManager.acknowledge diagnosticId at? now
    pure [.acknowledged r]
  | acknowledgeFaults source sourceType at? now => do
    let refs ← DiagnosticManager.acknowledgeFaults source sourceType at? now
    pure (acknowledgements refs [])
  | resolve code source at? now => do
    let r ← DiagnosticManager.resolve code source at? now
    pure [.resolved r]

/-- The call resolves what is stored under the key. -/
def Resolves (k : DiagnosticKey) : DiagnosticCall T → Prop
  | resolve code source _ _ => diagnosticKey code source = k
  | _ => False

/-- The manager and the log after the call. An exception ends the call with what was written. -/
def after (state : DiagnosticManager T × List Occurrence) (call : DiagnosticCall T) :
    DiagnosticManager T × List Occurrence :=
  match call.perform state.1 with
  | (.ok occurrences, m) => (m, occurrences ++ state.2)
  | (.error _, m) => (m, state.2)

/-- The manager and the log after a run of calls. -/
def record (calls : List (DiagnosticCall T)) : DiagnosticManager T × List Occurrence :=
  calls.foldl after (DiagnosticManager.init, [])

/-- What a call must do: a call that raises changes nothing, a status that latches leaves when it is
acknowledged and resolved, another one when a call resolves it. -/
structure Lawful (call : DiagnosticCall T) (m : DiagnosticManager T) (log : List Occurrence)
    (m' : DiagnosticManager T) (log' : List Occurrence) : Prop where
  raises : ∀ e, (call.perform m).1 = .error e → m' = m ∧ log' = log
  latching : ∀ k r s, m.byKey.get? k = some r → m.heap[r]? = some s →
    s.definition.latching = true → m'.byKey.get? k ≠ some r →
    .acknowledged r ∈ log' ∧ ResolvedLast log' r
  nonLatching : ∀ k r s, m.byKey.get? k = some r → m.heap[r]? = some s →
    s.definition.latching = false → (m'.byKey.get? k ≠ some r ↔ call.Resolves k)

variable {m m' : DiagnosticManager T} {log : List Occurrence} {call : DiagnosticCall T}

/-- A call that raised. -/
theorem after_raised {e : PyExc} (hm : m.Sound log) (hrun : call.perform m = (.error e, m))
    (hnot : ∀ k r s, m.byKey.get? k = some r → m.heap[r]? = some s → ¬ call.Resolves k) :
    (after (m, log) call).1.Sound (after (m, log) call).2 ∧
      call.Lawful m log (after (m, log) call).1 (after (m, log) call).2 := by
  have hafter : after (m, log) call = (m, log) := by
    unfold after
    dsimp only
    rw [hrun]
  rw [hafter]
  refine ⟨hm, fun _ _ => ⟨rfl, rfl⟩, fun k r s hk _ _ hleft => absurd hk hleft, ?_⟩
  intro k r s hk hs _
  exact ⟨fun hleft => absurd hk hleft, fun h => absurd h (hnot k r s hk hs)⟩

/-- A call that returned without resolving anything. -/
theorem after_returned {os : List Occurrence} (hrun : call.perform m = (.ok os, m'))
    (hm' : m'.Sound (os ++ log)) (hleaves : m.LeavesCleared m' (os ++ log))
    (hnot : ∀ k, ¬ call.Resolves k) :
    (after (m, log) call).1.Sound (after (m, log) call).2 ∧
      call.Lawful m log (after (m, log) call).1 (after (m, log) call).2 := by
  have hafter : after (m, log) call = (m', os ++ log) := by
    unfold after
    dsimp only
    rw [hrun]
  rw [hafter]
  refine ⟨hm', fun e he => ?_, fun k r s hk hs _ hleft => (hleaves k r s hk hs hleft).2, ?_⟩
  · rw [hrun] at he
    cases he
  · intro k r s hk hs hlatch
    refine ⟨fun hleft => ?_, fun h => absurd h (hnot k)⟩
    have h := (hleaves k r s hk hs hleft).1
    rw [hlatch] at h
    cases h

theorem after_detect (hm : m.Sound log) (definition : DiagnosticDefinition)
    (source : DiagnosticSource) (detail : Option String) (at? : Option T)
    (newId : Except PyExc String) (now : T) :
    let call := detect definition source detail at? newId now
    (after (m, log) call).1.Sound (after (m, log) call).2 ∧
      call.Lawful m log (after (m, log) call).1 (after (m, log) call).2 := by
  cases hk : m.byKey.get? (diagnosticKey definition.code source) with
  | some r =>
    obtain ⟨s, hs, -⟩ := hm.consistent.keyed hk
    have hdetect := detect_run hk hs detail at? newId now
    by_cases hdef : s.definition ≠ definition
    · rw [if_pos hdef] at hdetect
      exact after_raised hm (Prog.bind_run_error hdetect) fun _ _ _ _ _ h => h
    · rw [if_neg hdef] at hdetect
      have hsame : SameStatus s (s.setResolved none) := ⟨rfl, rfl, rfl⟩
      have ho : (Occurrence.detected r).Reports s (s.setResolved none) := ⟨rfl, rfl⟩
      refine after_returned (Prog.bind_run_ok hdetect)
        (hm.update (o := .detected r) hk hs hsame ho) ?_ fun _ h => h
      intro k' r' s' hk' _ hleft
      have hres := (hm.update_leaves (o := .detected r) hk hs hsame ho hk' hleft).2.1
      exact absurd hres (not_resolvedLast_detected log r)
  | none =>
    have hdetect : DiagnosticManager.detect definition source detail at? newId now m =
        create definition source detail at? newId now m := by
      unfold DiagnosticManager.detect
      rw [Prog.bind_run_ok (Prog.get_run m), hk]
    rcases create_run m definition source detail at? newId now with ⟨e, hrun⟩ | ⟨i, hi, hrun⟩
    · exact after_raised hm (Prog.bind_run_error (hdetect.trans hrun)) fun _ _ _ _ _ h => h
    · refine after_returned (Prog.bind_run_ok (hdetect.trans hrun))
        (hm.withNew hk hi rfl rfl) ?_ fun _ h => h
      intro k' r' s' hk' hs' hleft
      refine absurd ?_ hleft
      change (m.byKey.set (diagnosticKey definition.code source) m.heap.length).get? k' = some r'
      rw [Dict.get?_set, if_neg ?_]
      · exact hk'
      · rintro rfl
        rw [hk] at hk'
        cases hk'

theorem after_acknowledge (hm : m.Sound log) (diagnosticId : String) (at? : Option T) (now : T) :
    let call := acknowledge diagnosticId at? now
    (after (m, log) call).1.Sound (after (m, log) call).2 ∧
      call.Lawful m log (after (m, log) call).1 (after (m, log) call).2 := by
  cases hi : m.byId.get? diagnosticId with
  | none =>
    have hrun : DiagnosticManager.acknowledge diagnosticId at? now m = (.error .keyError, m) := by
      unfold DiagnosticManager.acknowledge
      rw [Prog.bind_run_ok (Prog.get_run m), hi]
      rfl
    exact after_raised hm (Prog.bind_run_error hrun) fun _ _ _ _ _ h => h
  | some r =>
    obtain ⟨s, hs, -, hk⟩ := hm.consistent.identified hi
    exact after_returned (Prog.bind_run_ok (acknowledge_run hi hs at? now))
      (hm.update (o := .acknowledged r) hk hs (sameStatus_acknowledged s _)
        (reports_acknowledged s _ r))
      (hm.acknowledge_leaves hk hs _) fun _ h => h

theorem after_acknowledgeFaults (hm : m.Sound log) (source : Option DiagnosticSource)
    (sourceType : Option DiagnosticSourceType) (at? : Option T) (now : T) :
    let call := acknowledgeFaults source sourceType at? now
    (after (m, log) call).1.Sound (after (m, log) call).2 ∧
      call.Lawful m log (after (m, log) call).1 (after (m, log) call).2 := by
  rcases hm.acknowledgeFaults source sourceType at? now with
    ⟨e, hrun⟩ | ⟨refs, m', hrun, hsound, hleaves⟩
  · exact after_raised hm (Prog.bind_run_error hrun) fun _ _ _ _ _ h => h
  · have hlog : acknowledgements refs log = acknowledgements refs [] ++ log := by
      unfold acknowledgements
      rw [List.append_nil]
    rw [hlog] at hsound hleaves
    exact after_returned (Prog.bind_run_ok hrun) hsound hleaves fun _ h => h

theorem after_resolve (hm : m.Sound log) (code : String) (source : DiagnosticSource)
    (at? : Option T) (now : T) :
    let call := resolve code source at? now
    (after (m, log) call).1.Sound (after (m, log) call).2 ∧
      call.Lawful m log (after (m, log) call).1 (after (m, log) call).2 := by
  intro call
  cases hk : m.byKey.get? (diagnosticKey code source) with
  | none =>
    have hrun : DiagnosticManager.resolve code source at? now m = (.error .keyError, m) := by
      unfold DiagnosticManager.resolve
      rw [Prog.bind_run_ok (Prog.get_run m), hk]
      rfl
    refine after_raised hm (Prog.bind_run_error hrun) ?_
    rintro k r s hk' - rfl
    rw [hk] at hk'
    cases hk'
  | some r =>
    obtain ⟨s, hs, -⟩ := hm.consistent.keyed hk
    let s' := resolved s (at?.getD now)
    have hsame : SameStatus s s' := sameStatus_resolved s _
    have ho : (Occurrence.resolved r).Reports s s' := reports_resolved s _ r
    have hrun : call.perform m = (.ok [.resolved r], m.update r s') :=
      Prog.bind_run_ok (resolve_run hk hs at? now)
    have hafter : after (m, log) call = (m.update r s', .resolved r :: log) := by
      unfold after
      dsimp only
      rw [hrun]
      rfl
    rw [hafter]
    refine ⟨hm.update (o := .resolved r) hk hs hsame ho, fun e he => ?_, ?_, ?_⟩
    · rw [hrun] at he
      cases he
    · intro k' r' s₀ hk' hs₀ hlatch hleft
      obtain ⟨rfl, hres, hack⟩ := hm.update_leaves (o := .resolved r) hk hs hsame ho hk' hleft
      obtain rfl : s = s₀ := Option.some.inj (hs.symm.trans hs₀)
      exact ⟨hack hlatch, hres⟩
    · intro k' r' s₀ hk' hs₀ hlatch
      rw [Ne, update_byKey hm.consistent hk hs hsame]
      constructor
      · intro hleft
        have hr : r' = r := by
          by_contra hne
          exact hleft ⟨hk', fun h => absurd h hne⟩
        subst hr
        exact hm.consistent.key_eq hk' hk
      · intro hkey
        change diagnosticKey code source = k' at hkey
        subst hkey
        obtain rfl : r = r' := Option.some.inj (hk.symm.trans hk')
        obtain rfl : s = s₀ := Option.some.inj (hs.symm.trans hs₀)
        rintro ⟨-, hc⟩
        have hcleared := hc rfl
        rw [DiagnosticStatus.clearedAt_eq_none_iff, hsame.definition, hlatch] at hcleared
        exact ho.2 (hcleared.resolve_right fun h => Bool.false_ne_true h.1)

/-- **One call.** -/
theorem after_sound (hm : m.Sound log) (call : DiagnosticCall T) :
    (after (m, log) call).1.Sound (after (m, log) call).2 ∧
      call.Lawful m log (after (m, log) call).1 (after (m, log) call).2 := by
  cases call with
  | detect => exact after_detect hm ..
  | acknowledge => exact after_acknowledge hm ..
  | acknowledgeFaults => exact after_acknowledgeFaults hm ..
  | resolve => exact after_resolve hm ..

theorem foldl_after_sound (calls : List (DiagnosticCall T)) (hm : m.Sound log) :
    (calls.foldl after (m, log)).1.Sound (calls.foldl after (m, log)).2 := by
  induction calls generalizing m log with
  | nil => exact hm
  | cons call calls ih => exact ih (after_sound hm call).1

theorem record_sound (calls : List (DiagnosticCall T)) : (record calls).1.Sound (record calls).2 :=
  foldl_after_sound calls
    ⟨init_consistent, fun h => by simp [init, Dict.empty, Dict.get?] at h, by simp⟩

end DiagnosticCall

open DiagnosticCall in
/-- **The store invariant**: after every run of calls the tables are consistent, and every further
call lets a status leave only when it should and changes nothing when it raises. -/
theorem diagnosticManager_sound (calls : List (DiagnosticCall T)) (call : DiagnosticCall T) :
    (record calls).1.Consistent ∧
      call.Lawful (record calls).1 (record calls).2 (record (calls ++ [call])).1
        (record (calls ++ [call])).2 := by
  have hsound := record_sound calls
  have hlast : record (calls ++ [call]) = after (record calls) call := by
    unfold record
    rw [List.foldl_append]
    rfl
  rw [hlast]
  exact ⟨hsound.consistent, (after_sound hsound call).2⟩

end MotionServer
