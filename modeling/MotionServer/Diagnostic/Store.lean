import MotionServer.Diagnostic.Manager

/-!
# The tables of the diagnostic manager

* `DiagnosticManager.Consistent`: the two tables refer to the same statuses, none of them cleared,
  and no id is ever given twice;
* `DiagnosticManager.update`: what every call but a first detection does to one status,
  `acknowledge_run`, `resolve_run`, `detect_run`, `create_run`;
* **`DiagnosticManager.Consistent.update`, `DiagnosticManager.Consistent.withNew`**: calls keep the
  tables consistent.
-/

namespace MotionServer

variable {T : Type} [LT T] [DecidableLT T]

namespace DiagnosticManager

/-- The tables refer to the same uncleared statuses, and ids are never reused. -/
structure Consistent (m : DiagnosticManager T) : Prop where
  keyed : ∀ {k r}, m.byKey.get? k = some r → ∃ s, m.heap[r]? = some s ∧ s.key = k ∧
    m.byId.get? s.diagnosticId = some r ∧ s.clearedAt = none
  identified : ∀ {i r}, m.byId.get? i = some r → ∃ s, m.heap[r]? = some s ∧ s.diagnosticId = i ∧
    m.byKey.get? s.key = some r
  distinct : (m.heap.map (·.diagnosticId)).Nodup
  used : ∀ s ∈ m.heap, s.diagnosticId ∈ m.usedIds

theorem init_consistent : (init : DiagnosticManager T).Consistent where
  keyed h := by simp [init, Dict.empty, Dict.get?] at h
  identified h := by simp [init, Dict.empty, Dict.get?] at h
  distinct := List.nodup_nil
  used _ h := absurd h List.not_mem_nil

/-! ## What a call does to one status -/

/-- The status becomes `s'`, and leaves the tables if that is cleared. -/
def update (m : DiagnosticManager T) (r : ℕ) (s' : DiagnosticStatus T) : DiagnosticManager T :=
  if s'.clearedAt = none then { m with heap := m.heap.set r s' }
  else
    { m with
      heap := m.heap.set r s'
      byKey := m.byKey.erase s'.key
      byId := m.byId.erase s'.diagnosticId }

@[simp] theorem update_heap (m : DiagnosticManager T) (r : ℕ) (s' : DiagnosticStatus T) :
    (m.update r s').heap = m.heap.set r s' := by
  unfold update
  split_ifs <;> rfl

@[simp] theorem update_usedIds (m : DiagnosticManager T) (r : ℕ) (s' : DiagnosticStatus T) :
    (m.update r s').usedIds = m.usedIds := by
  unfold update
  split_ifs <;> rfl

omit [LT T] [DecidableLT T] in
theorem statusAt_run {m : DiagnosticManager T} {r : ℕ} {s : DiagnosticStatus T}
    (h : m.heap[r]? = some s) : statusAt r m = (.ok s, m) := by
  unfold statusAt
  rw [Prog.bind_run_ok (Prog.get_run m)]
  rw [h]
  rfl

/-- A write of `s'` followed by the test whether it is cleared. -/
theorem clearIfReady_run {m : DiagnosticManager T} {r : ℕ} {s : DiagnosticStatus T}
    (h : m.heap[r]? = some s) (s' : DiagnosticStatus T) :
    clearIfReady r { m with heap := m.heap.set r s' } = (.ok r, m.update r s') := by
  have hlt : r < m.heap.length := (List.getElem?_eq_some_iff.mp h).1
  have hs' : (m.heap.set r s')[r]? = some s' := by
    rw [List.getElem?_set_self hlt]
  let m' : DiagnosticManager T := { m with heap := m.heap.set r s' }
  unfold clearIfReady update
  rw [Prog.bind_run_ok (statusAt_run (m := m') hs')]
  by_cases hc : s'.clearedAt = none
  · rw [if_pos hc, if_pos hc]
    rfl
  · rw [if_neg hc, if_neg hc]
    rfl

omit [LT T] [DecidableLT T] in
theorem writeStatus_run {m : DiagnosticManager T} {r : ℕ} {s : DiagnosticStatus T}
    (h : m.heap[r]? = some s) (f : DiagnosticStatus T → DiagnosticStatus T) :
    writeStatus r f m = (.ok (), { m with heap := m.heap.set r (f s) }) := by
  have hmodify : m.heap.modify r f = m.heap.set r (f s) := by
    have : Inhabited (DiagnosticStatus T) := ⟨s⟩
    rw [List.modify_eq_set, h, Option.getD_some]
  rw [← hmodify]
  rfl

omit [LT T] [DecidableLT T] in
theorem heap_set_self {m : DiagnosticManager T} {r : ℕ} {s : DiagnosticStatus T}
    (h : m.heap[r]? = some s) : { m with heap := m.heap.set r s } = m := by
  obtain ⟨hlt, rfl⟩ := List.getElem?_eq_some_iff.mp h
  rw [List.set_getElem_self]

/-- What an acknowledgement makes of a status. -/
def acknowledged (s : DiagnosticStatus T) (t : T) : DiagnosticStatus T :=
  if s.history.acknowledgedAt = none then s.setAcknowledged t else s

/-- What a resolution makes of a status. -/
def resolved (s : DiagnosticStatus T) (t : T) : DiagnosticStatus T :=
  if s.history.resolvedAt = none then s.setResolved (some t) else s

theorem acknowledge_run {m : DiagnosticManager T} {i : String} {r : ℕ} {s : DiagnosticStatus T}
    (hi : m.byId.get? i = some r) (hs : m.heap[r]? = some s) (at? : Option T) (now : T) :
    acknowledge i at? now m = (.ok r, m.update r (acknowledged s (at?.getD now))) := by
  unfold acknowledge
  rw [Prog.bind_run_ok (Prog.get_run m), hi]
  dsimp only
  rw [Prog.bind_run_ok (statusAt_run hs)]
  by_cases hack : s.history.acknowledgedAt = none
  · rw [Prog.bind_run_ok ((Prog.onlyIf_run hack _ m).trans (writeStatus_run hs _)),
      clearIfReady_run hs _, acknowledged, if_pos hack]
  · have hrun := clearIfReady_run hs s
    rw [heap_set_self hs] at hrun
    rw [Prog.bind_run_ok (Prog.onlyIf_run_of_not hack _ m), hrun, acknowledged, if_neg hack]

theorem resolve_run {m : DiagnosticManager T} {code : String} {source : DiagnosticSource} {r : ℕ}
    {s : DiagnosticStatus T} (hk : m.byKey.get? (diagnosticKey code source) = some r)
    (hs : m.heap[r]? = some s) (at? : Option T) (now : T) :
    resolve code source at? now m = (.ok r, m.update r (resolved s (at?.getD now))) := by
  unfold resolve
  rw [Prog.bind_run_ok (Prog.get_run m), hk]
  dsimp only
  rw [Prog.bind_run_ok (statusAt_run hs)]
  by_cases hres : s.history.resolvedAt = none
  · rw [Prog.bind_run_ok ((Prog.onlyIf_run hres _ m).trans (writeStatus_run hs _)),
      clearIfReady_run hs _, resolved, if_pos hres]
  · have hrun := clearIfReady_run hs s
    rw [heap_set_self hs] at hrun
    rw [Prog.bind_run_ok (Prog.onlyIf_run_of_not hres _ m), hrun, resolved, if_neg hres]

theorem detect_run {m : DiagnosticManager T} {definition : DiagnosticDefinition}
    {source : DiagnosticSource} {r : ℕ} {s : DiagnosticStatus T}
    (hk : m.byKey.get? (diagnosticKey definition.code source) = some r)
    (hs : m.heap[r]? = some s) (detail : Option String) (at? : Option T)
    (newId : Except PyExc String) (now : T) :
    detect definition source detail at? newId now m =
      if s.definition ≠ definition then (.error .valueError, m)
      else (.ok r, m.update r (s.setResolved none)) := by
  unfold detect
  rw [Prog.bind_run_ok (Prog.get_run m), hk]
  dsimp only
  rw [Prog.bind_run_ok (statusAt_run hs)]
  split_ifs with hdef
  · rfl
  · rw [Prog.bind_run_ok (writeStatus_run hs _), update,
      if_pos (DiagnosticStatus.clearedAt_eq_none_iff.mpr (Or.inl rfl))]
    rfl

/-! ## Consistency -/

/-- `s'` is `s` with another history. -/
structure SameStatus (s s' : DiagnosticStatus T) : Prop where
  diagnosticId : s'.diagnosticId = s.diagnosticId
  definition : s'.definition = s.definition
  source : s'.source = s.source

omit [LT T] [DecidableLT T] in
theorem SameStatus.key {s s' : DiagnosticStatus T} (h : SameStatus s s') : s'.key = s.key := by
  rw [DiagnosticStatus.key, DiagnosticStatus.key, h.definition, h.source]

omit [LT T] [DecidableLT T] in
theorem sameStatus_acknowledged (s : DiagnosticStatus T) (t : T) :
    SameStatus s (acknowledged s t) := by
  unfold acknowledged
  split_ifs <;> exact ⟨rfl, rfl, rfl⟩

omit [LT T] [DecidableLT T] in
theorem sameStatus_resolved (s : DiagnosticStatus T) (t : T) : SameStatus s (resolved s t) := by
  unfold resolved
  split_ifs <;> exact ⟨rfl, rfl, rfl⟩

section Update

variable {m : DiagnosticManager T} {k : DiagnosticKey} {r : ℕ} {s s' : DiagnosticStatus T}

theorem Consistent.stored (hm : m.Consistent) (hk : m.byKey.get? k = some r)
    (hs : m.heap[r]? = some s) :
    s.key = k ∧ m.byId.get? s.diagnosticId = some r ∧ s.clearedAt = none := by
  obtain ⟨s₀, hs₀, h⟩ := hm.keyed hk
  obtain rfl : s₀ = s := Option.some.inj (hs₀.symm.trans hs)
  exact h

/-- The keys a reference is stored under are the same. -/
theorem Consistent.key_eq (hm : m.Consistent) {k' : DiagnosticKey}
    (hk : m.byKey.get? k = some r) (hk' : m.byKey.get? k' = some r) : k' = k := by
  obtain ⟨s, hs, hkey, -⟩ := hm.keyed hk
  exact (hm.stored hk' hs).1.symm.trans hkey

/-- What is stored after an update: all that was, but a status that is cleared now. -/
theorem update_byKey (hm : m.Consistent) (hk : m.byKey.get? k = some r) (hs : m.heap[r]? = some s)
    (hsame : SameStatus s s') {k' : DiagnosticKey} {r' : ℕ} :
    (m.update r s').byKey.get? k' = some r' ↔
      m.byKey.get? k' = some r' ∧ (r' = r → s'.clearedAt = none) := by
  have hkey : s'.key = k := hsame.key.trans (hm.stored hk hs).1
  unfold update
  split_ifs with hc
  · exact ⟨fun h => ⟨h, fun _ => hc⟩, fun h => h.1⟩
  · dsimp only
    rw [Dict.get?_erase, hkey]
    split_ifs with hk'
    · subst hk'
      constructor
      · intro h
        cases h
      · rintro ⟨h, hr⟩
        exact absurd (hr (Option.some.inj (h.symm.trans hk))) hc
    · constructor
      · intro h
        refine ⟨h, ?_⟩
        rintro rfl
        exact absurd (hm.key_eq hk h) hk'
      · exact fun h => h.1

theorem update_byId (hm : m.Consistent) (hk : m.byKey.get? k = some r) (hs : m.heap[r]? = some s)
    (hsame : SameStatus s s') {i : String} {r' : ℕ} :
    (m.update r s').byId.get? i = some r' ↔
      m.byId.get? i = some r' ∧ (r' = r → s'.clearedAt = none) := by
  have hid : m.byId.get? s'.diagnosticId = some r := by
    rw [hsame.diagnosticId]
    exact (hm.stored hk hs).2.1
  unfold update
  split_ifs with hc
  · exact ⟨fun h => ⟨h, fun _ => hc⟩, fun h => h.1⟩
  · dsimp only
    rw [Dict.get?_erase]
    split_ifs with hi
    · subst hi
      constructor
      · intro h
        cases h
      · rintro ⟨h, hr⟩
        exact absurd (hr (Option.some.inj (h.symm.trans hid))) hc
    · constructor
      · intro h
        refine ⟨h, ?_⟩
        rintro rfl
        obtain ⟨s₀, hs₀, hid₀, -⟩ := hm.identified h
        obtain rfl : s₀ = s := Option.some.inj (hs₀.symm.trans hs)
        exact absurd (hid₀.symm.trans hsame.diagnosticId.symm) hi
      · exact fun h => h.1

omit [LT T] [DecidableLT T] in
theorem heap_set_getElem? (hs : m.heap[r]? = some s) (r' : ℕ) :
    (m.heap.set r s')[r']? = if r' = r then some s' else m.heap[r']? := by
  have hlt : r < m.heap.length := (List.getElem?_eq_some_iff.mp hs).1
  rw [List.getElem?_set]
  by_cases h : r = r'
  · subst h
    rw [if_pos rfl, if_pos hlt, if_pos rfl]
  · rw [if_neg h, if_neg (Ne.symm h)]

omit [LT T] [DecidableLT T] in
/-- A status that is written keeps its id in the heap. -/
theorem map_id_set (hs : m.heap[r]? = some s) (hsame : SameStatus s s') :
    (m.heap.set r s').map (·.diagnosticId) = m.heap.map (·.diagnosticId) := by
  rw [List.map_set]
  obtain ⟨hlt, rfl⟩ := List.getElem?_eq_some_iff.mp hs
  rw [hsame.diagnosticId]
  have hlt' : r < (m.heap.map (·.diagnosticId)).length := by rwa [List.length_map]
  have hget : (m.heap.map (·.diagnosticId))[r] = m.heap[r].diagnosticId := List.getElem_map ..
  rw [← hget, List.set_getElem_self]

theorem Consistent.update (hm : m.Consistent) (hk : m.byKey.get? k = some r)
    (hs : m.heap[r]? = some s) (hsame : SameStatus s s') : (m.update r s').Consistent where
  keyed {k' r'} h := by
    obtain ⟨hk', hr'⟩ := (update_byKey hm hk hs hsame).mp h
    obtain ⟨s₀, hs₀, hkey₀, hid₀, hc₀⟩ := hm.keyed hk'
    rw [update_heap, heap_set_getElem? hs]
    by_cases hr : r' = r
    · subst hr
      obtain rfl : s₀ = s := Option.some.inj (hs₀.symm.trans hs)
      refine ⟨s', if_pos rfl, hsame.key.trans hkey₀, ?_, hr' rfl⟩
      rw [update_byId hm hk hs hsame, hsame.diagnosticId]
      exact ⟨hid₀, hr'⟩
    · refine ⟨s₀, (if_neg hr).trans hs₀, hkey₀, ?_, hc₀⟩
      rw [update_byId hm hk hs hsame]
      exact ⟨hid₀, hr'⟩
  identified {i r'} h := by
    obtain ⟨hi, hr'⟩ := (update_byId hm hk hs hsame).mp h
    obtain ⟨s₀, hs₀, hid₀, hk₀⟩ := hm.identified hi
    rw [update_heap, heap_set_getElem? hs]
    by_cases hr : r' = r
    · subst hr
      obtain rfl : s₀ = s := Option.some.inj (hs₀.symm.trans hs)
      refine ⟨s', if_pos rfl, hsame.diagnosticId.trans hid₀, ?_⟩
      rw [update_byKey hm hk hs hsame, hsame.key]
      exact ⟨hk₀, hr'⟩
    · refine ⟨s₀, (if_neg hr).trans hs₀, hid₀, ?_⟩
      rw [update_byKey hm hk hs hsame]
      exact ⟨hk₀, hr'⟩
  distinct := by
    rw [update_heap, map_id_set hs hsame]
    exact hm.distinct
  used s₀ h := by
    rw [update_heap] at h
    rw [update_usedIds]
    have hmem : s₀.diagnosticId ∈ (m.heap.set r s').map (·.diagnosticId) :=
      List.mem_map_of_mem h
    rw [map_id_set hs hsame] at hmem
    obtain ⟨s₁, hs₁, hid⟩ := List.mem_map.mp hmem
    rw [← hid]
    exact hm.used s₁ hs₁

end Update

/-! ## First detections -/

/-- The manager with a new status. -/
def withNew (m : DiagnosticManager T) (s : DiagnosticStatus T) : DiagnosticManager T where
  heap := m.heap ++ [s]
  byKey := m.byKey.set s.key m.heap.length
  byId := m.byId.set s.diagnosticId m.heap.length
  usedIds := s.diagnosticId :: m.usedIds

omit [LT T] [DecidableLT T] in
theorem heap_append_getElem? {m : DiagnosticManager T} {s s₀ : DiagnosticStatus T} {r : ℕ}
    (h : m.heap[r]? = some s₀) : (m.heap ++ [s])[r]? = some s₀ ∧ r ≠ m.heap.length := by
  have hlt : r < m.heap.length := (List.getElem?_eq_some_iff.mp h).1
  rw [List.getElem?_append_left hlt]
  exact ⟨h, hlt.ne⟩

theorem Consistent.withNew {m : DiagnosticManager T} {s : DiagnosticStatus T}
    (hm : m.Consistent) (hk : m.byKey.get? s.key = none) (hid : s.diagnosticId ∉ m.usedIds)
    (hc : s.clearedAt = none) : (m.withNew s).Consistent := by
  have hnew (s₀ : DiagnosticStatus T) (h : s₀ ∈ m.heap) : s₀.diagnosticId ≠ s.diagnosticId :=
    fun heq => hid (heq ▸ hm.used s₀ h)
  constructor
  · intro k r h
    unfold DiagnosticManager.withNew at h ⊢
    dsimp only at h ⊢
    rw [Dict.get?_set] at h
    split_ifs at h with hkey
    · obtain rfl : m.heap.length = r := Option.some.inj h
      refine ⟨s, by rw [List.getElem?_append_right le_rfl]; simp, hkey.symm, ?_, hc⟩
      rw [Dict.get?_set, if_pos rfl]
    · obtain ⟨s₀, hs₀, hkey₀, hid₀, hc₀⟩ := hm.keyed h
      obtain ⟨happ, -⟩ := heap_append_getElem? (s := s) hs₀
      refine ⟨s₀, happ, hkey₀, ?_, hc₀⟩
      rw [Dict.get?_set, if_neg (hnew s₀ (List.mem_of_getElem? hs₀))]
      exact hid₀
  · intro i r h
    unfold DiagnosticManager.withNew at h ⊢
    dsimp only at h ⊢
    rw [Dict.get?_set] at h
    split_ifs at h with hi
    · obtain rfl : m.heap.length = r := Option.some.inj h
      refine ⟨s, by rw [List.getElem?_append_right le_rfl]; simp, hi.symm, ?_⟩
      rw [Dict.get?_set, if_pos rfl]
    · obtain ⟨s₀, hs₀, hid₀, hk₀⟩ := hm.identified h
      obtain ⟨happ, -⟩ := heap_append_getElem? (s := s) hs₀
      refine ⟨s₀, happ, hid₀, ?_⟩
      rw [Dict.get?_set, if_neg ?_]
      · exact hk₀
      · intro heq
        rw [heq, hk] at hk₀
        cases hk₀
  · change ((m.heap ++ [s]).map (·.diagnosticId)).Nodup
    rw [List.map_append, List.nodup_append]
    refine ⟨hm.distinct, List.nodup_singleton _, fun a ha b hb => ?_⟩
    obtain ⟨s₀, hs₀, rfl⟩ := List.mem_map.mp ha
    obtain rfl : b = s.diagnosticId := by simpa using hb
    exact hnew s₀ hs₀
  · intro s₀ h
    change s₀ ∈ m.heap ++ [s] at h
    change s₀.diagnosticId ∈ s.diagnosticId :: m.usedIds
    rcases List.mem_append.mp h with h | h
    · exact List.mem_cons_of_mem _ (hm.used s₀ h)
    · rw [List.mem_singleton.mp h]
      exact List.mem_cons_self

/-- The status of a first detection. -/
def firstStatus (definition : DiagnosticDefinition) (source : DiagnosticSource)
    (detail : Option String) (t : T) (diagnosticId : String) : DiagnosticStatus T where
  diagnosticId := diagnosticId
  definition := definition
  source := source
  history := { occurredAt := t, acknowledgedAt := none, resolvedAt := none }
  detail := detail

omit [LT T] [DecidableLT T] in
theorem create_run (m : DiagnosticManager T) (definition : DiagnosticDefinition)
    (source : DiagnosticSource) (detail : Option String) (at? : Option T)
    (newId : Except PyExc String) (now : T) :
    (∃ e, create definition source detail at? newId now m = (.error e, m)) ∨
    ∃ i, i ∉ m.usedIds ∧ create definition source detail at? newId now m =
      (.ok m.heap.length, m.withNew (firstStatus definition source detail (at?.getD now) i)) := by
  unfold create
  cases newId with
  | error e => exact Or.inl ⟨e, rfl⟩
  | ok i =>
    rw [Prog.bind_run_ok (Prog.lift_run (.ok i) m), Prog.bind_run_ok (Prog.get_run m)]
    by_cases hi : i = "" ∨ i ∈ m.usedIds
    · rw [if_pos hi]
      exact Or.inl ⟨.valueError, rfl⟩
    · rw [if_neg hi]
      exact Or.inr ⟨i, fun h => hi (Or.inr h), rfl⟩

theorem acknowledgeRef_run {m : DiagnosticManager T} (hm : m.Consistent) {k : DiagnosticKey}
    {r : ℕ} {s : DiagnosticStatus T} (hk : m.byKey.get? k = some r) (hs : m.heap[r]? = some s)
    (at? : Option T) (now : T) :
    acknowledgeRef at? now r m = (.ok (), m.update r (acknowledged s (at?.getD now))) := by
  unfold acknowledgeRef
  rw [Prog.bind_run_ok (statusAt_run hs),
    Prog.bind_run_ok (acknowledge_run (hm.stored hk hs).2.1 hs at? now)]
  rfl

/-- The statuses that are selected are stored, each once. -/
theorem Consistent.selectedRefs {m : DiagnosticManager T} (hm : m.Consistent)
    (selection : FaultSelection) : (m.selectedRefs selection).Nodup ∧
      ∀ r ∈ m.selectedRefs selection, ∃ k, m.byKey.get? k = some r := by
  constructor
  · exact (Dict.nodup_values fun _ _ _ h h' => hm.key_eq h' h).filter _
  · intro r hr
    obtain ⟨k, hk⟩ := Dict.mem_values.mp (List.mem_filter.mp hr).1
    exact ⟨k, Dict.get?_eq_some_iff.mpr hk⟩

end DiagnosticManager

end MotionServer
