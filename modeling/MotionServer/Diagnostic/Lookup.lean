import MotionServer.Diagnostic.Store

/-!
# What is stored for a key

Seen from outside the manager maps keys to statuses. Each call changes this map at the keys it is
about.

* `DiagnosticManager.lookup`, `statusFor`;
* `lookup_update`, `resolve_lookup`, `detect_lookup`, **`acknowledgeFaults_lookup`**;
* `hasActiveFault_iff`: what the gates ask is a question about the map.
-/

namespace MotionServer

variable {T : Type}

/-- What is stored under a key. -/
def DiagnosticManager.lookup (m : DiagnosticManager T) (k : DiagnosticKey) :
    Option (DiagnosticStatus T) :=
  (m.byKey.get? k).bind fun r => m.heap[r]?

/-- `status_for`. -/
def DiagnosticManager.statusFor (m : DiagnosticManager T) (code : String)
    (source : DiagnosticSource) : Option (DiagnosticStatus T) :=
  m.lookup (diagnosticKey code source)

variable [LT T] [DecidableLT T]

/-- What stays stored of a status that was written. -/
def DiagnosticStatus.kept (s : DiagnosticStatus T) : Option (DiagnosticStatus T) :=
  if s.clearedAt = none then some s else none

namespace DiagnosticManager

variable {m : DiagnosticManager T} {k : DiagnosticKey} {r : ℕ} {s s' : DiagnosticStatus T}

theorem Consistent.lookup_eq (hm : m.Consistent) (hk : m.byKey.get? k = some r) :
    ∃ s, m.heap[r]? = some s ∧ m.lookup k = some s := by
  obtain ⟨s, hs, -⟩ := hm.keyed hk
  refine ⟨s, hs, ?_⟩
  rw [lookup, hk]
  exact hs

omit [LT T] [DecidableLT T] in
theorem lookup_eq_some (h : m.lookup k = some s) :
    ∃ r, m.byKey.get? k = some r ∧ m.heap[r]? = some s := by
  rw [lookup, Option.bind_eq_some_iff] at h
  exact h

theorem Consistent.lookup_eq_none (hm : m.Consistent) :
    m.lookup k = none ↔ m.byKey.get? k = none := by
  constructor
  · intro h
    cases hk : m.byKey.get? k with
    | none => rfl
    | some r =>
      obtain ⟨s, -, hs⟩ := hm.lookup_eq hk
      rw [h] at hs
      cases hs
  · intro h
    rw [lookup, h]
    rfl

/-- A status is stored under its own key, and is not cleared. -/
theorem Consistent.key_of_lookup (hm : m.Consistent) (h : m.lookup k = some s) :
    s.key = k ∧ s.clearedAt = none := by
  obtain ⟨r, hk, hs⟩ := lookup_eq_some h
  exact ⟨(hm.stored hk hs).1, (hm.stored hk hs).2.2⟩

/-- **A status that is written is stored as it is kept, and the others stay.** -/
theorem lookup_update (hm : m.Consistent) (hk : m.byKey.get? k = some r)
    (hs : m.heap[r]? = some s) (hsame : SameStatus s s') (k' : DiagnosticKey) :
    (m.update r s').lookup k' = if k' = k then s'.kept else m.lookup k' := by
  have hm' := hm.update hk hs hsame
  have hlt : r < m.heap.length := (List.getElem?_eq_some_iff.mp hs).1
  by_cases hk' : k' = k
  · subst hk'
    rw [if_pos rfl, DiagnosticStatus.kept]
    split_ifs with hc
    · have h : (m.update r s').byKey.get? k' = some r :=
        (update_byKey hm hk hs hsame).mpr ⟨hk, fun _ => hc⟩
      rw [lookup, h, Option.bind_some, update_heap, List.getElem?_set_self hlt]
    · rw [hm'.lookup_eq_none]
      cases h : (m.update r s').byKey.get? k' with
      | none => rfl
      | some r' =>
        obtain ⟨hr', hc'⟩ := (update_byKey hm hk hs hsame).mp h
        exact absurd (hc' (Option.some.inj (hr'.symm.trans hk))) hc
  · rw [if_neg hk']
    cases h : m.byKey.get? k' with
    | none =>
      rw [hm.lookup_eq_none.mpr h, hm'.lookup_eq_none]
      cases h' : (m.update r s').byKey.get? k' with
      | none => rfl
      | some r' =>
        rw [((update_byKey hm hk hs hsame).mp h').1] at h
        cases h
    | some r' =>
      have hne : r' ≠ r := by
        rintro rfl
        exact hk' (hm.key_eq hk h)
      have h' : (m.update r s').byKey.get? k' = some r' :=
        (update_byKey hm hk hs hsame).mpr ⟨h, fun heq => absurd heq hne⟩
      rw [lookup, lookup, h, h', Option.bind_some, Option.bind_some, update_heap,
        heap_set_getElem? hs, if_neg hne]

/-- `resolve` of what is stored. -/
theorem resolve_lookup (hm : m.Consistent) {code : String} {source : DiagnosticSource}
    (hs : m.statusFor code source = some s) (at? : Option T) (now : T) :
    ∃ r m', resolve code source at? now m = (.ok r, m') ∧ m'.Consistent ∧
      m'.heap[r]? = some (resolved s (at?.getD now)) ∧
      ((resolved s (at?.getD now)).clearedAt = none →
        m'.byId.get? s.diagnosticId = some r) ∧
      ((resolved s (at?.getD now)).clearedAt ≠ none → m'.byId.get? s.diagnosticId = none) ∧
      ∀ k, m'.lookup k =
        if k = diagnosticKey code source then (resolved s (at?.getD now)).kept
        else m.lookup k := by
  obtain ⟨r, hk, hr⟩ := lookup_eq_some hs
  have hsame := sameStatus_resolved s (at?.getD now)
  have hlt : r < m.heap.length := (List.getElem?_eq_some_iff.mp hr).1
  have hid := (hm.stored hk hr).2.1
  refine ⟨r, _, resolve_run hk hr at? now, hm.update hk hr hsame, ?_, ?_, ?_,
    lookup_update hm hk hr hsame⟩
  · rw [update_heap, List.getElem?_set_self hlt]
  · exact fun hc => (update_byId hm hk hr hsame).mpr ⟨hid, fun _ => hc⟩
  · intro hc
    rw [update, if_neg hc]
    dsimp only
    rw [Dict.get?_erase, if_pos hsame.diagnosticId.symm]

/-- `resolve` of what is not stored. -/
theorem resolve_missing (hm : m.Consistent) {code : String} {source : DiagnosticSource}
    (hs : m.statusFor code source = none) (at? : Option T) (now : T) :
    resolve code source at? now m = (.error .keyError, m) := by
  unfold resolve
  rw [Prog.bind_run_ok (Prog.get_run m), hm.lookup_eq_none.mp hs]
  rfl

/-- `detect` either changes nothing, or the status it stores is not resolved. -/
theorem detect_lookup (hm : m.Consistent) (definition : DiagnosticDefinition)
    (source : DiagnosticSource) (detail : Option String) (at? : Option T)
    (newId : Except PyExc String) (now : T) :
    (∃ e, detect definition source detail at? newId now m = (.error e, m)) ∨
    ∃ r m' s', detect definition source detail at? newId now m = (.ok r, m') ∧ m'.Consistent ∧
      s'.definition = definition ∧ s'.source = source ∧ s'.history.resolvedAt = none ∧
      ∀ k, m'.lookup k =
        if k = diagnosticKey definition.code source then some s' else m.lookup k := by
  cases hk : m.byKey.get? (diagnosticKey definition.code source) with
  | some r =>
    obtain ⟨s, hs, hkey, -⟩ := hm.keyed hk
    have hrun := detect_run hk hs detail at? newId now
    by_cases hdef : s.definition ≠ definition
    · rw [if_pos hdef] at hrun
      exact Or.inl ⟨.valueError, hrun⟩
    · rw [if_neg hdef] at hrun
      rw [not_not] at hdef
      have hsame : SameStatus s (s.setResolved none) := ⟨rfl, rfl, rfl⟩
      have hc : (s.setResolved none).clearedAt = none :=
        DiagnosticStatus.clearedAt_eq_none_iff.mpr (Or.inl rfl)
      have hsource : s.source = source := by
        rw [DiagnosticStatus.key, diagnosticKey, diagnosticKey, Prod.mk.injEq, Prod.mk.injEq] at hkey
        cases hx : s.source with
        | mk type index index_eq =>
          rw [hx] at hkey
          cases source with
          | mk type' index' index_eq' =>
            obtain ⟨-, rfl, rfl⟩ := hkey
            rfl
      refine Or.inr ⟨r, _, s.setResolved none, hrun, hm.update hk hs hsame, hdef, hsource, rfl, ?_⟩
      intro k
      rw [lookup_update hm hk hs hsame, DiagnosticStatus.kept, if_pos hc]
  | none =>
    have hrun : detect definition source detail at? newId now m =
        create definition source detail at? newId now m := by
      unfold detect
      rw [Prog.bind_run_ok (Prog.get_run m), hk]
    rcases create_run m definition source detail at? newId now with ⟨e, h⟩ | ⟨i, hi, h⟩
    · exact Or.inl ⟨e, hrun.trans h⟩
    · let s' : DiagnosticStatus T := firstStatus definition source detail (at?.getD now) i
      have hc : s'.clearedAt = none := DiagnosticStatus.clearedAt_eq_none_iff.mpr (Or.inl rfl)
      refine Or.inr ⟨_, m.withNew s', s', hrun.trans h, hm.withNew hk hi hc, rfl, rfl, rfl, ?_⟩
      intro k
      have hget : (m.withNew s').byKey.get? k =
          if k = diagnosticKey definition.code source then some m.heap.length
          else m.byKey.get? k := Dict.get?_set ..
      rw [lookup, hget]
      by_cases hk' : k = diagnosticKey definition.code source
      · rw [if_pos hk', if_pos hk', Option.bind_some]
        change (m.heap ++ [s'])[m.heap.length]? = some s'
        rw [List.getElem?_append_right le_rfl, Nat.sub_self]
        rfl
      · rw [if_neg hk', if_neg hk', lookup]
        cases h' : m.byKey.get? k with
        | none => rfl
        | some r =>
          obtain ⟨s₀, hs₀, -⟩ := hm.keyed h'
          rw [Option.bind_some, Option.bind_some, hs₀]
          exact (heap_append_getElem? hs₀).1

/-- `acknowledge` of a status whose id is stored. -/
theorem acknowledge_lookup (hm : m.Consistent) {i : String} (hi : m.byId.get? i = some r)
    (hs : m.heap[r]? = some s) (at? : Option T) (now : T) :
    ∃ m', acknowledge i at? now m = (.ok r, m') ∧ m'.Consistent ∧
      ∀ k, m'.lookup k =
        if k = s.key then (acknowledged s (at?.getD now)).kept else m.lookup k := by
  obtain ⟨s₀, hs₀, -, hk⟩ := hm.identified hi
  obtain rfl : s₀ = s := Option.some.inj (hs₀.symm.trans hs)
  have hsame := sameStatus_acknowledged s₀ (at?.getD now)
  exact ⟨_, acknowledge_run hi hs at? now, hm.update hk hs hsame, lookup_update hm hk hs hsame⟩

omit [LT T] [DecidableLT T] in
/-- `acknowledge` of an id that is not stored. -/
theorem acknowledge_missing [LT T] [DecidableLT T] {i : String} (hi : m.byId.get? i = none)
    (at? : Option T) (now : T) : acknowledge i at? now m = (.error .keyError, m) := by
  unfold acknowledge
  rw [Prog.bind_run_ok (Prog.get_run m), hi]
  rfl

/-- What the acknowledgement of some statuses leaves of the one under a key. -/
private def keptOf (m : DiagnosticManager T) (refs : List ℕ) (t : T) (k : DiagnosticKey) :
    Option (DiagnosticStatus T) :=
  if ∃ r ∈ refs, m.byKey.get? k = some r then (m.lookup k).bind fun s => (acknowledged s t).kept
  else m.lookup k

private theorem acknowledgeRefs_lookup {refs : List ℕ} (hrefs : refs.Nodup)
    (hm : m.Consistent) (hstored : ∀ r ∈ refs, ∃ k, m.byKey.get? k = some r) (at? : Option T)
    (now : T) :
    ∃ m', refs.forM (acknowledgeRef at? now) m = (.ok (), m') ∧ m'.Consistent ∧
      ∀ k, m'.lookup k = keptOf m refs (at?.getD now) k := by
  induction refs generalizing m with
  | nil =>
    refine ⟨m, rfl, hm, fun k => ?_⟩
    rw [keptOf, if_neg]
    rintro ⟨r, hr, -⟩
    exact absurd hr List.not_mem_nil
  | cons r refs ih =>
    obtain ⟨hr, hrefs⟩ := List.nodup_cons.mp hrefs
    obtain ⟨k₀, hk₀⟩ := hstored r List.mem_cons_self
    obtain ⟨s, hs, hkey, -⟩ := hm.keyed hk₀
    let s' := acknowledged s (at?.getD now)
    have hsame : SameStatus s s' := sameStatus_acknowledged s _
    have hne {k : DiagnosticKey} {r' : ℕ} (hr' : r' ∈ refs) (hk : m.byKey.get? k = some r') :
        k ≠ k₀ := by
      rintro rfl
      rw [Option.some.inj (hk₀.symm.trans hk)] at hr
      exact hr hr'
    have hkept {k : DiagnosticKey} {r' : ℕ} (hr' : r' ∈ refs) :
        (m.update r s').byKey.get? k = some r' ↔ m.byKey.get? k = some r' := by
      rw [update_byKey hm hk₀ hs hsame]
      refine ⟨fun h => h.1, fun h => ⟨h, ?_⟩⟩
      rintro rfl
      exact absurd hr' hr
    obtain ⟨m', hrun, hm', hlookup⟩ := ih hrefs (hm.update hk₀ hs hsame) fun r' hr' => by
      obtain ⟨k, hk⟩ := hstored r' (List.mem_cons_of_mem _ hr')
      exact ⟨k, (hkept hr').mpr hk⟩
    refine ⟨m', ?_, hm', fun k => ?_⟩
    · change (acknowledgeRef at? now r >>= fun _ => refs.forM (acknowledgeRef at? now)) m = _
      rw [Prog.bind_run_ok (acknowledgeRef_run hm hk₀ hs at? now)]
      exact hrun
    · rw [hlookup, keptOf, keptOf, lookup_update hm hk₀ hs hsame]
      by_cases hk : k = k₀
      · subst hk
        rw [if_pos rfl, if_neg, if_pos ⟨r, List.mem_cons_self, hk₀⟩]
        · rw [lookup, hk₀, Option.bind_some, hs, Option.bind_some]
        · rintro ⟨r', hr', h⟩
          exact hne hr' ((hkept hr').mp h) rfl
      · rw [if_neg hk]
        have hany : (∃ r' ∈ refs, (m.update r s').byKey.get? k = some r') ↔
            ∃ r' ∈ r :: refs, m.byKey.get? k = some r' := by
          constructor
          · rintro ⟨r', hr', h⟩
            exact ⟨r', List.mem_cons_of_mem _ hr', (hkept hr').mp h⟩
          · rintro ⟨r', hr', h⟩
            rcases List.mem_cons.mp hr' with rfl | hr'
            · exact absurd (hm.key_eq hk₀ h) hk
            · exact ⟨r', hr', (hkept hr').mpr h⟩
        by_cases h : ∃ r' ∈ r :: refs, m.byKey.get? k = some r'
        · rw [if_pos (hany.mpr h), if_pos h]
        · rw [if_neg (fun h' => h (hany.mp h')), if_neg h]

/-- **`acknowledge_faults` of a source** acknowledges every fault of the source and keeps the
others. -/
theorem acknowledgeFaults_lookup (hm : m.Consistent) (source : DiagnosticSource) (at? : Option T)
    (now : T) :
    ∃ refs m', acknowledgeFaults (some source) none at? now m = (.ok refs, m') ∧ m'.Consistent ∧
      ∀ k, m'.lookup k = (m.lookup k).bind fun s =>
        if FaultSelection.Selects (.source source) s then (acknowledged s (at?.getD now)).kept
        else some s := by
  obtain ⟨hnodup, hstored⟩ := hm.selectedRefs (.source source)
  obtain ⟨m', hrun, hm', hlookup⟩ := acknowledgeRefs_lookup hnodup hm hstored at? now
  refine ⟨m.selectedRefs (.source source), m', ?_, hm', fun k => ?_⟩
  · unfold acknowledgeFaults
    rw [Prog.bind_run_ok (Prog.get_run m)]
    dsimp only
    rw [Prog.bind_run_ok hrun]
    rfl
  · rw [hlookup, keptOf]
    cases hk : m.byKey.get? k with
    | none =>
      rw [hm.lookup_eq_none.mpr hk, if_neg]
      · rfl
      · rintro ⟨r, -, h⟩
        cases h
    | some r =>
      obtain ⟨s, hs, hlook⟩ := hm.lookup_eq hk
      have hmem : r ∈ m.selectedRefs (.source source) ↔
          FaultSelection.Selects (.source source) s := by
        unfold selectedRefs
        rw [List.mem_filter, hs]
        simp only [Option.any_some, decide_eq_true_eq]
        exact ⟨fun h => h.2, fun h => ⟨Dict.mem_values_of_get? hk, h⟩⟩
      rw [hlook, Option.bind_some, Option.bind_some]
      by_cases h : FaultSelection.Selects (.source source) s
      · rw [if_pos ⟨r, hmem.mpr h, rfl⟩, if_pos h]
      · rw [if_neg, if_neg h]
        rintro ⟨r', hr', heq⟩
        rw [← Option.some.inj heq] at hr'
        exact h (hmem.mp hr')

omit [LT T] [DecidableLT T] in
/-- `active_statuses`. -/
theorem mem_activeStatuses : s ∈ m.activeStatuses ↔ ∃ k, m.lookup k = some s := by
  unfold activeStatuses
  rw [List.mem_filterMap]
  constructor
  · rintro ⟨r, hr, hget⟩
    obtain ⟨k, hk⟩ := Dict.mem_values.mp hr
    refine ⟨k, ?_⟩
    rw [lookup, Dict.get?_eq_some_iff.mpr hk]
    exact hget
  · rintro ⟨k, hs⟩
    obtain ⟨r, hk, hget⟩ := lookup_eq_some hs
    exact ⟨r, Dict.mem_values_of_get? hk, hget⟩

/-- The active statuses have the keys they are stored under, each once. -/
theorem Consistent.nodup_keys (hm : m.Consistent) : (m.activeStatuses.map (·.key)).Nodup := by
  have hkeys (l : List (DiagnosticKey × ℕ))
      (hl : ∀ e ∈ l, ∃ s, m.heap[e.2]? = some s ∧ s.key = e.1) :
      (((l.map Prod.snd).filterMap fun r => m.heap[r]?).map (·.key)) = l.map Prod.fst := by
    induction l with
    | nil => rfl
    | cons e l ih =>
      obtain ⟨s, hs, hkey⟩ := hl e List.mem_cons_self
      rw [List.map_cons, List.filterMap_cons_some hs, List.map_cons, List.map_cons, hkey,
        ih fun e' he' => hl e' (List.mem_cons_of_mem _ he')]
  change (((m.byKey.entries.map Prod.snd).filterMap fun r => m.heap[r]?).map (·.key)).Nodup
  rw [hkeys m.byKey.entries]
  · exact m.byKey.nodup
  · intro e he
    obtain ⟨s, hs, hkey, -⟩ := hm.keyed (Dict.get?_eq_some_iff.mpr he)
    exact ⟨s, hs, hkey⟩

omit [LT T] [DecidableLT T] in
/-- `has_active_fault`. -/
theorem hasActiveFault_iff {selection : FaultSelection} :
    m.hasActiveFault selection = true ↔ ∃ k s, m.lookup k = some s ∧ selection.Selects s := by
  unfold hasActiveFault
  rw [List.any_eq_true]
  constructor
  · rintro ⟨s, hs, hsel⟩
    obtain ⟨k, hk⟩ := mem_activeStatuses.mp hs
    exact ⟨k, s, hk, of_decide_eq_true hsel⟩
  · rintro ⟨k, s, hs, hsel⟩
    exact ⟨s, mem_activeStatuses.mpr ⟨k, hs⟩, decide_eq_true hsel⟩

end DiagnosticManager

end MotionServer
