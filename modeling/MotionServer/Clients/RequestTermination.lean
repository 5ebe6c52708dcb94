import MotionServer.Clients.RequestCompletion

/-!
# The end of each request of the Python client

* `calls_step`, `tasks_effect`: a call takes its steps itself, a thread works its own list off;
* `leadsTo_of_phase`, `leadsTo_of_disconnecting`, `leadsTo_of_late`: what comes after each phase;
* **`requests_complete`**: answers go to the request they name, no two requests share one, nothing
  stays behind, and in a fair run each request ends, once.
-/

namespace MotionServer

variable {F : Type}

namespace MotionServerClient

variable {setup : ClientSetup F} {client next : MotionServerClient F}
  {names : Message F → ℕ → Prop} {table table' : Requests F} {calls calls' : ℕ → Call F}
  {mover : Option ℕ}

/-! ## Steps that leave a call or a task as it is -/

theorem step_call {c id sock : ℕ} {phase : Phase} (hcall : client.calls c = .running id sock phase)
    (step : CallStep) : client.act setup (.call c step) = client.actCall c id sock phase step := by
  simp only [act, hcall]

/-- A call takes its steps itself. -/
theorem calls_effect (heffect : Effect names table calls mover table' calls') {c : ℕ}
    (hmover : mover ≠ some c) : calls' c = calls c := by
  have hne : ∀ {c'}, some c' ≠ some c → c ≠ c' := fun h heq => h (congrArg some heq.symm)
  cases heffect with
  | quiet | answer | failAll | work => rfl
  | refuse | skip | register | advance | miss | withdraw | wake | raise | failCall =>
    exact Function.update_of_ne (hne hmover) _ _

/-- A thread works its list off itself, or it starts one. -/
theorem tasks_effect (heffect : Effect names table calls mover table' calls') (caller : Caller) :
    table'.tasks caller = table.tasks caller ∨ table' = table.work caller ∨
      table.tasks caller = .free ∧ (∀ c, caller ≠ .call c) ∨
        ∃ c id sock error, caller = .call c ∧ calls c = .running id sock (.sendFailed error) := by
  cases heffect with
  | quiet | refuse | skip | register | advance | miss | withdraw | wake | raise =>
    exact Or.inl rfl
  | answer id message hfree =>
    by_cases hcaller : caller = .loop
    · subst hcaller
      exact Or.inr (Or.inr (Or.inl ⟨hfree, fun c hc => nomatch hc⟩))
    · exact Or.inl (Function.update_of_ne hcaller _ _)
  | failAll caller' error hfree hcall =>
    by_cases hcaller : caller = caller'
    · subst hcaller
      exact Or.inr (Or.inr (Or.inl ⟨hfree, hcall⟩))
    · exact Or.inl (Function.update_of_ne hcaller _ _)
  | failCall c id sock error hcall =>
    by_cases hcaller : caller = .call c
    · exact Or.inr (Or.inr (Or.inr ⟨c, id, sock, error, hcaller, hcall⟩))
    · exact Or.inl (Function.update_of_ne hcaller _ _)
  | work caller' =>
    by_cases hcaller : caller = caller'
    · subst hcaller
      exact Or.inr (Or.inl rfl)
    · exact Or.inl (PendingTable.tasks_work_of_ne hcaller)

/-- A thread that has a task keeps it until it takes a step. -/
theorem tasks_effect_of_busy (h : Coherent names table calls)
    (heffect : Effect names table calls mover table' calls') {caller : Caller}
    (hbusy : table.tasks caller ≠ .free) :
    table'.tasks caller = table.tasks caller ∨ table' = table.work caller := by
  rcases tasks_effect heffect caller with hsame | hwork | ⟨hfree, -⟩ | ⟨c, id, sock, error, rfl, hcall⟩
  · exact Or.inl hsame
  · exact Or.inr hwork
  · exact absurd hfree hbusy
  · obtain ⟨id', sock', error', hcall'⟩ := h.busy c hbusy
    rw [hcall] at hcall'
    cases hcall'

/-- A set event stays set. -/
theorem event_effect (heffect : Effect names table calls mover table' calls') {id : ℕ}
    (hle : id ≤ table.sequence) (hevent : (table.requests id).event = true) :
    (table'.requests id).event = true := by
  cases heffect with
  | quiet | refuse | skip | advance | miss | withdraw | wake | raise | answer | failAll | failCall =>
    exact hevent
  | register =>
    have hne : id ≠ table.sequence + 1 := by omega
    simpa [PendingTable.register, Function.update_of_ne hne] using hevent
  | work => exact PendingTable.event_work _ hevent

/-! ## Each request ends -/

/-- The call runs, in such a phase. -/
def At (c : ℕ) (p : Phase → Prop) (client : MotionServerClient F) : Prop :=
  ∃ id sock phase, client.calls c = .running id sock phase ∧ p phase

/-- The call has ended. -/
def Ended (c : ℕ) (client : MotionServerClient F) : Prop :=
  ∃ id outcome, client.calls c = .ended id outcome

/-- The invariant of a run. -/
def Consistent (setup : ClientSetup F) (client : MotionServerClient F) : Prop :=
  Coherent (Names setup) client.table client.calls

variable {r : FairRun (schedule setup) (init : MotionServerClient F)}

theorem consistent_state (i : ℕ) : Consistent setup (r.state i) := by
  obtain ⟨events, hevents⟩ := r.reached i
  rw [hevents]
  exact coherent_run setup events

theorem step_of_act {event : ClientEvent F} (h : client.act setup event = some next) :
    client.step setup event = next := by
  rw [step, h]
  rfl

theorem step_of_act_eq_none {event : ClientEvent F} (h : client.act setup event = none) :
    client.step setup event = client := by
  rw [step, h]
  rfl

theorem mover_ne {event : ClientEvent F} {c id sock : ℕ} {phase : Phase}
    (hcall : client.calls c = .running id sock phase) (hevent : ∀ step, event ≠ .call c step)
    (hact : (client.act setup event).isSome) : event.mover ≠ some c := by
  intro hmover
  cases event with
  | request c' submission =>
    obtain rfl : c' = c := Option.some.inj hmover
    simp [act, hcall] at hact
  | call c' step =>
    obtain rfl : c' = c := Option.some.inj hmover
    exact hevent step rfl
  | work | loop | start | stop | stopDisconnect => cases hmover

/-- **A call goes on by its own steps only.** -/
theorem calls_step {c id sock : ℕ} {phase : Phase} (hcall : client.calls c = .running id sock phase)
    {event : ClientEvent F} (hevent : ∀ step, event ≠ .call c step) :
    (client.step setup event).calls c = .running id sock phase := by
  cases hact : client.act setup event with
  | none => rw [step_of_act_eq_none hact, hcall]
  | some next =>
    rw [step_of_act hact, ← hcall]
    exact calls_effect (effect_act hact) (mover_ne hcall hevent (by rw [hact]; rfl))

/-- The steps of a call in `_disconnect` or in its last wait are few: what a call does in the other
phases does not wait for anybody. -/
theorem leadsTo_of_phase {c : ℕ} {p : Phase → Prop} {Q : MotionServerClient F → Prop}
    (hp : ∀ phase, p phase → phase.MayPend)
    (hstep : ∀ client id sock phase step next, p phase →
      MotionServerClient.calls client c = .running id sock phase →
      client.actCall c id sock phase step = some next → Q next) :
    r.LeadsTo (At c p) Q := by
  refine FairRun.leadsTo_of_ensures (I := Consistent setup) (.call c) consistent_state ?_ ?_ ?_
  · rintro client event - ⟨id, sock, phase, hcall, hphase⟩
    by_cases hevent : ∃ step, event = .call c step
    · obtain ⟨step, rfl⟩ := hevent
      cases hact : client.act setup (.call c step) with
      | none =>
        left
        show At c p (client.step setup _)
        rw [step_of_act_eq_none hact]
        exact ⟨id, sock, phase, hcall, hphase⟩
      | some next =>
        right
        show Q (client.step setup _)
        rw [step_of_act hact]
        exact hstep client id sock phase step next hphase hcall (step_call hcall step ▸ hact)
    · push Not at hevent
      exact Or.inl ⟨id, sock, phase, calls_step hcall hevent, hphase⟩
  · rintro client - ⟨id, sock, phase, hcall, hphase⟩
    refine Or.inr ⟨c, id, sock, phase, rfl, hcall, ?_⟩
    rintro rfl
    exact (hp _ hphase).elim
  · rintro client event hconsistent ⟨id, sock, phase, hcall, hphase⟩ hhappens hactor
    obtain ⟨next, hact⟩ := Option.isSome_iff_exists.mp hhappens
    show Q (client.step setup _)
    rw [step_of_act hact]
    cases event with
    | call c' step =>
      obtain rfl : c' = c := by simpa [schedule, caller] using hactor
      exact hstep client id sock phase step next hphase hcall (step_call hcall step ▸ hact)
    | work caller' =>
      obtain rfl : caller' = .call c := by simpa [schedule, caller] using hactor
      -- Only a call in `_disconnect` has a task.
      have hfree : client.table.tasks (.call c) = .free := by
        refine free_of_call hconsistent fun _ _ _ hc => ?_
        rw [hcall] at hc
        cases hc
        exact hp _ hphase
      simp [act, hfree] at hact
    | request | loop | start | stop | stopDisconnect => cases hactor

theorem act_work {caller : Caller} (h : client.act setup (.work caller) = some next) :
    client.table.tasks caller ≠ .free ∧ next = { client with table := client.table.work caller } := by
  simp only [act] at h
  split at h
  · cases h
  · rename_i hbusy
    exact ⟨hbusy, (Option.some.inj h).symm⟩

theorem not_mayPend_late : ¬ Phase.late.MayPend := fun hmay => hmay

theorem not_mayPend_disconnecting (error : String) : ¬ (Phase.disconnecting error).MayPend :=
  fun hmay => hmay

/-- A call in `_disconnect` can only raise, one in its last wait can only wake. -/
theorem ended_of_actCall {c id sock : ℕ} {phase : Phase} {step : CallStep}
    (hphase : ¬ phase.MayPend) (h : client.actCall c id sock phase step = some next) :
    Ended c next := by
  have hended : ∀ outcome, Ended c (client.setCall c (.ended (some id) outcome)) :=
    fun outcome => ⟨some id, outcome, Function.update_self _ _ _⟩
  unfold actCall at h
  split at h
  · exact absurd trivial hphase
  · exact absurd trivial hphase
  · exact absurd trivial hphase
  · split at h
    · cases h
      exact hended _
    · cases h
  · exact absurd trivial hphase
  · split at h
    · cases h
      exact hended _
    · cases h
  · exact absurd trivial hphase
  · exact absurd trivial hphase
  · cases h

/-- A step of somebody else leaves a call that does not run on its own where it is. -/
theorem calls_or_ended (setup : ClientSetup F) {c id sock : ℕ} {phase : Phase} (hphase : ¬ phase.MayPend)
    (hcall : client.calls c = .running id sock phase) (event : ClientEvent F) :
    (client.step setup event).calls c = .running id sock phase ∨
      Ended c (client.step setup event) := by
  by_cases hevent : ∃ step, event = .call c step
  · obtain ⟨step, rfl⟩ := hevent
    cases hact : client.act setup (.call c step) with
    | none =>
      rw [step_of_act_eq_none hact]
      exact Or.inl hcall
    | some next =>
      rw [step_of_act hact]
      exact Or.inr (ended_of_actCall hphase (step_call hcall step ▸ hact))
  · push Not at hevent
    exact Or.inl (calls_step hcall hevent)

/-- The tasks after a step, of a thread that is not about to call `_disconnect`. -/
theorem tasks_step {caller : Caller} (event : ClientEvent F)
    (hsame : client.table.tasks caller = .free → ∃ c id sock error, caller = .call c ∧
      client.calls c = .running id sock (.disconnecting error))
    (hconsistent : Consistent setup client) :
    (client.step setup event).table.tasks caller = client.table.tasks caller ∨
      (client.step setup event).table = client.table.work caller := by
  by_cases hfree : client.table.tasks caller = .free
  · obtain ⟨c, id, sock, error, rfl, hcall⟩ := hsame hfree
    rcases tasks_effect (effect_step setup client event) (.call c) with
      h | h | ⟨-, hcaller⟩ | ⟨c', id', sock', error', hc, hcall'⟩
    · exact Or.inl h
    · exact Or.inr h
    · exact absurd rfl (hcaller c)
    · cases hc
      rw [hcall] at hcall'
      cases hcall'
  · exact tasks_effect_of_busy hconsistent (effect_step setup client event) hfree

/-- A call in `_disconnect` fails the requests it has taken and raises. -/
theorem leadsTo_of_disconnecting (c : ℕ) :
    r.LeadsTo (At c fun phase => ∃ error, phase = .disconnecting error) (Ended c) := by
  refine FairRun.leadsTo_of_rank (fun client => (client.table.tasks (.call c)).remaining) fun k => ?_
  refine FairRun.leadsTo_of_ensures (I := Consistent setup) (.call c) consistent_state ?_ ?_ ?_
  · rintro client event hconsistent ⟨⟨id, sock, _, hcall, error, rfl⟩, hk⟩
    rcases calls_or_ended setup (not_mayPend_disconnecting error) hcall event with hcall' | hended
    · have hat : At c (fun phase => ∃ error, phase = .disconnecting error)
          (client.step setup event) := ⟨id, sock, _, hcall', error, rfl⟩
      rcases tasks_step event (fun _ => ⟨c, id, sock, error, rfl, hcall⟩) hconsistent with
        hsame | hwork
      · exact Or.inl ⟨hat, (congrArg PendingTask.remaining hsame).trans hk⟩
      · by_cases hfree : client.table.tasks (.call c) = .free
        · rw [PendingTable.work_of_free hfree] at hwork
          refine Or.inl ⟨hat, ?_⟩
          show ((client.step setup event).table.tasks (.call c)).remaining = k
          rw [hwork, hk]
        · right
          left
          refine ⟨hat, ?_⟩
          have hless := PendingTable.remaining_work hfree
          show ((client.step setup event).table.tasks (.call c)).remaining < k
          rw [hwork]
          omega
    · exact Or.inr (Or.inr hended)
  · rintro client - ⟨⟨id, sock, _, hcall, error, rfl⟩, -⟩
    exact Or.inr ⟨c, id, sock, _, rfl, hcall, fun hlate => nomatch hlate⟩
  · rintro client event - ⟨⟨id, sock, _, hcall, error, rfl⟩, hk⟩ hhappens hactor
    obtain ⟨next, hact⟩ := Option.isSome_iff_exists.mp hhappens
    show At c _ (client.step setup event) ∧
      ((client.step setup event).table.tasks (.call c)).remaining < k ∨
        Ended c (client.step setup event)
    rw [step_of_act hact]
    cases event with
    | call c' step =>
      obtain rfl : c' = c := by simpa [schedule, caller] using hactor
      exact Or.inr (ended_of_actCall (not_mayPend_disconnecting error) (step_call hcall step ▸ hact))
    | work caller' =>
      obtain rfl : caller' = .call c := by simpa [schedule, caller] using hactor
      obtain ⟨hbusy, rfl⟩ := act_work hact
      have hless := PendingTable.remaining_work hbusy
      refine Or.inl ⟨⟨id, sock, _, hcall, error, rfl⟩, ?_⟩
      dsimp only
      omega
    | request | loop | start | stop | stopDisconnect => cases hactor

/-- A request in the hands of a thread is settled. -/
theorem leadsTo_of_taken (c id : ℕ) (caller : Caller) :
    r.LeadsTo
      (fun client => (∃ sock, client.calls c = .running id sock .late) ∧
        id ∈ (client.table.tasks caller).ids)
      (fun client => (∃ sock, client.calls c = .running id sock .late) ∧
        (client.table.requests id).event = true ∨ Ended c client) := by
  have hbusy : ∀ {task : PendingTask (ℕ × Message F) ClientError}, id ∈ task.ids → task ≠ .free := by
    rintro _ hid rfl
    exact absurd hid List.not_mem_nil
  have hwork : ∀ {table table' : Requests F}, id ∈ (table.tasks caller).ids →
      table' = table.work caller →
      (table'.tasks caller).remaining < (table.tasks caller).remaining ∧
        (id ∈ (table'.tasks caller).ids ∨ (table'.requests id).event = true) := by
    rintro table _ hid rfl
    have hless := PendingTable.remaining_work (hbusy hid)
    exact ⟨by omega, PendingTable.ids_work hid⟩
  refine FairRun.leadsTo_of_rank (fun client => (client.table.tasks caller).remaining) fun k => ?_
  refine FairRun.leadsTo_of_ensures (I := Consistent setup) caller consistent_state ?_ ?_ ?_
  · rintro client event hconsistent ⟨⟨⟨sock, hcall⟩, hid⟩, hk⟩
    rcases calls_or_ended setup not_mayPend_late hcall event with hcall' | hended
    · rcases tasks_step event (fun hfree => absurd hfree (hbusy hid)) hconsistent with
        hsame | htable
      · left
        refine ⟨⟨⟨sock, hcall'⟩, ?_⟩, ?_⟩
        · show id ∈ ((client.step setup event).table.tasks caller).ids
          rwa [hsame]
        · show ((client.step setup event).table.tasks caller).remaining = k
          rw [hsame, hk]
      · right
        obtain ⟨hless, hid' | hevent⟩ := hwork hid htable
        · exact Or.inl ⟨⟨⟨sock, hcall'⟩, hid'⟩, hk ▸ hless⟩
        · exact Or.inr (Or.inl ⟨⟨sock, hcall'⟩, hevent⟩)
    · exact Or.inr (Or.inr (Or.inr hended))
  · rintro client - ⟨⟨-, hid⟩, -⟩
    exact Or.inl (hbusy hid)
  · rintro client event hconsistent ⟨⟨⟨sock, hcall⟩, hid⟩, hk⟩ hhappens hactor
    obtain ⟨next, hact⟩ := Option.isSome_iff_exists.mp hhappens
    cases event with
    | call c' step =>
      obtain rfl : .call c' = caller := by simpa [schedule, MotionServerClient.caller] using hactor
      -- A call with a task is in `_disconnect`, and can not raise before the task is done.
      obtain ⟨id', sock', error, hcall'⟩ := hconsistent.busy c' (hbusy hid)
      rw [step_call hcall'] at hact
      cases step with
      | raise =>
        simp only [actCall] at hact
        split at hact
        · rename_i hfree
          exact absurd hfree (hbusy hid)
        · cases hact
      | _ => cases hact
    | work caller' =>
      obtain rfl : caller' = caller := by simpa [schedule, MotionServerClient.caller] using hactor
      obtain ⟨-, rfl⟩ := act_work hact
      have hstep := step_of_act hact
      have hcall' : (client.step setup (.work caller')).calls c = .running id sock .late := by
        rw [hstep]
        exact hcall
      obtain ⟨hless, hid' | hevent⟩ := hwork hid (congrArg table hstep)
      · exact Or.inl ⟨⟨⟨sock, hcall'⟩, hid'⟩, hk ▸ hless⟩
      · exact Or.inr (Or.inl ⟨⟨sock, hcall'⟩, hevent⟩)
    | request | loop | start | stop | stopDisconnect => cases hactor

/-- A call whose event is set wakes. -/
theorem leadsTo_of_event (c id : ℕ) :
    r.LeadsTo
      (fun client => (∃ sock, client.calls c = .running id sock .late) ∧
        (client.table.requests id).event = true)
      (Ended c) := by
  refine FairRun.leadsTo_of_ensures (I := Consistent setup) (.call c) consistent_state ?_ ?_ ?_
  · rintro client event hconsistent ⟨⟨sock, hcall⟩, hevent⟩
    rcases calls_or_ended setup not_mayPend_late hcall event with hcall' | hended
    · refine Or.inl ⟨⟨sock, hcall'⟩, event_effect (effect_step setup client event) ?_ hevent⟩
      exact hconsistent.le_sequence c id (by rw [hcall]; rfl)
    · exact Or.inr hended
  · rintro client - ⟨⟨sock, hcall⟩, hevent⟩
    exact Or.inr ⟨c, id, sock, .late, rfl, hcall, fun _ => hevent⟩
  · rintro client event hconsistent ⟨⟨sock, hcall⟩, -⟩ hhappens hactor
    obtain ⟨next, hact⟩ := Option.isSome_iff_exists.mp hhappens
    show Ended c (client.step setup event)
    rw [step_of_act hact]
    cases event with
    | call c' step =>
      obtain rfl : c' = c := by simpa [schedule, caller] using hactor
      exact ended_of_actCall not_mayPend_late (step_call hcall step ▸ hact)
    | work caller' =>
      obtain rfl : caller' = .call c := by simpa [schedule, caller] using hactor
      have hfree : client.table.tasks (.call c) = .free :=
        free_of_call hconsistent fun _ _ _ hc => by rw [hcall] at hc; cases hc
      exact absurd hfree (act_work hact).1
    | request | loop | start | stop | stopDisconnect => cases hactor

/-- A request that somebody else has taken is settled, and its call wakes. -/
theorem leadsTo_of_late (c : ℕ) : r.LeadsTo (At c fun phase => phase = .late) (Ended c) := by
  intro i
  rintro ⟨id, sock, _, hcall, rfl⟩
  have hconsistent : Consistent setup (r.state i) := consistent_state i
  have hset : ∀ j, ((∃ sock, (r.state j).calls c = .running id sock .late) ∧
      ((r.state j).table.requests id).event = true ∨ Ended c (r.state j)) →
      ∃ k, j ≤ k ∧ Ended c (r.state k) := by
    rintro j (hevent | hended)
    · exact leadsTo_of_event c id j hevent
    · exact ⟨j, le_rfl, hended⟩
  rcases hconsistent.live hcall with hpending | ⟨caller, hid⟩ | hevent
  · exact absurd hpending (hconsistent.taken hcall not_mayPend_late)
  · obtain ⟨j, hij, hj⟩ := leadsTo_of_taken c id caller i ⟨⟨sock, hcall⟩, hid⟩
    obtain ⟨k, hjk, hk⟩ := hset j hj
    exact ⟨k, hij.trans hjk, hk⟩
  · exact hset i (Or.inl ⟨⟨sock, hcall⟩, hevent⟩)

/-- **Each call ends.** -/
theorem leadsTo_ended (c : ℕ) : r.LeadsTo (fun client => client.calls c ≠ .idle) (Ended c) := by
  have hlate : r.LeadsTo (fun client => At c (fun phase => phase = .late) client ∨ Ended c client)
      (Ended c) := (leadsTo_of_late c).or (FairRun.LeadsTo.of_imp fun _ h => h)
  have htimedOut : r.LeadsTo (At c fun phase => phase = .timedOut) (Ended c) := by
    refine (leadsTo_of_phase ?_ ?_).trans hlate
    · rintro _ rfl
      trivial
    · rintro client id sock _ step next rfl hcall hact
      cases step <;> simp only [actCall, reduceCtorEq] at hact
      split at hact <;> cases hact
      · exact Or.inr ⟨some id, _, Function.update_self _ _ _⟩
      · exact Or.inl ⟨id, sock, _, Function.update_self _ _ _, rfl⟩
  have hwaiting : r.LeadsTo (At c fun phase => phase = .waiting) (Ended c) := by
    refine (leadsTo_of_phase (Q := fun client =>
      At c (fun phase => phase = .timedOut) client ∨ Ended c client) ?_ ?_).trans
        (htimedOut.or (FairRun.LeadsTo.of_imp fun _ h => h))
    · rintro _ rfl
      trivial
    · rintro client id sock _ step next rfl hcall hact
      cases step with
      | wake =>
        simp only [actCall] at hact
        split at hact <;> cases hact
        exact Or.inr ⟨some id, _, Function.update_self _ _ _⟩
      | expire =>
        cases hact
        exact Or.inl ⟨id, sock, _, Function.update_self _ _ _, rfl⟩
      | _ => cases hact
  have hsendFailed : r.LeadsTo (At c fun phase => ∃ error, phase = .sendFailed error) (Ended c) := by
    refine (leadsTo_of_phase ?_ ?_).trans (leadsTo_of_disconnecting c)
    · rintro _ ⟨error, rfl⟩
      trivial
    · rintro client id sock _ step next ⟨error, rfl⟩ hcall hact
      cases step <;> cases hact
      exact ⟨id, sock, _, Function.update_self _ _ _, error, rfl⟩
  have hsending : r.LeadsTo (At c fun phase => phase = .sending) (Ended c) := by
    refine (leadsTo_of_phase ?_ ?_).trans (hwaiting.or hsendFailed)
    · rintro _ rfl
      trivial
    · rintro client id sock _ step next rfl hcall hact
      cases step with
      | sent error =>
        cases error with
        | none =>
          cases hact
          exact Or.inl ⟨id, sock, _, Function.update_self _ _ _, rfl⟩
        | some error =>
          cases hact
          exact Or.inr ⟨id, sock, _, Function.update_self _ _ _, _, rfl⟩
      | _ => cases hact
  intro i hcalled
  cases hcall : (r.state i).calls c with
  | idle => exact absurd hcall hcalled
  | ended id outcome => exact ⟨i, le_rfl, id, outcome, hcall⟩
  | running id sock phase =>
    have hat : ∀ p : Phase → Prop, p phase → At c p (r.state i) :=
      fun p hp => ⟨id, sock, phase, hcall, hp⟩
    cases phase with
    | sending => exact hsending i (hat _ rfl)
    | sendFailed error => exact hsendFailed i (hat _ ⟨error, rfl⟩)
    | disconnecting error => exact leadsTo_of_disconnecting c i (hat _ ⟨error, rfl⟩)
    | waiting => exact hwaiting i (hat _ rfl)
    | timedOut => exact htimedOut i (hat _ rfl)
    | late => exact leadsTo_of_late c i (hat _ rfl)

/-! ## Ends are final -/

theorem id?_step (event : ClientEvent F) {c id : ℕ}
    (hid : (client.calls c).id? = some id) :
    ((client.step setup event).calls c).id? = some id := by
  rcases id?_effect (effect_step setup client event) with
    ⟨hsame, -⟩ | ⟨-, c₀, hnone, -, hsame⟩
  · rw [hsame, hid]
  · by_cases hc : c = c₀
    · subst hc
      rw [hnone] at hid
      cases hid
    · rw [hsame c hc, hid]

/-- A call that has ended takes no step. -/
theorem ended_step {c : ℕ} {id : Option ℕ} {outcome : Outcome F}
    (h : client.calls c = .ended id outcome) (event : ClientEvent F) :
    (client.step setup event).calls c = .ended id outcome := by
  cases hact : client.act setup event with
  | none => rw [step_of_act_eq_none hact, h]
  | some next =>
    rw [step_of_act hact, ← h]
    refine calls_effect (effect_act hact) fun hmover => ?_
    cases event with
    | request c' submission =>
      obtain rfl : c' = c := Option.some.inj hmover
      simp [act, h] at hact
    | call c' step =>
      obtain rfl : c' = c := Option.some.inj hmover
      simp [act, h] at hact
    | work | loop | start | stop | stopDisconnect => cases hmover

theorem ended_run {c : ℕ} {id : Option ℕ} {outcome : Outcome F}
    (h : client.calls c = .ended id outcome) (events : List (ClientEvent F)) :
    (Runs.run (step setup) client events).calls c = .ended id outcome :=
  Runs.invariant (P := fun client : MotionServerClient F => client.calls c = .ended id outcome)
    (fun _ event h => ended_step h event) h events

theorem id?_run {c id : ℕ} (hid : (client.calls c).id? = some id) (events : List (ClientEvent F)) :
    ((Runs.run (step setup) client events).calls c).id? = some id :=
  Runs.invariant (P := fun client : MotionServerClient F => (client.calls c).id? = some id)
    (fun _ event h => id?_step event h) hid events

/-- A client that connects, and a request that is answered. -/
def answeredEvents : List (ClientEvent Unit) :=
  [.start, .loop .proceed, .loop .connected, .loop .proceed, .request 0 .valid,
    .call 0 (.sent none), .loop .proceed, .loop .proceed, .loop .received,
    .loop (.message [("request_id", .str "python-0-1")]), .work .loop, .work .loop, .call 0 .wake]

/-- A fair run in which a request is answered. -/
example : ∃ r : FairRun (schedule (.ofToken "0")) init, ∃ i message,
    (r.state i).calls 0 = .ended (some 1) (.response 0 message) := by
  have hend : ∃ message, (Runs.run (step (.ofToken "0")) init answeredEvents).calls 0 =
      .ended (some 1) (.response 0 message) := ⟨_, by rfl⟩
  have hfree : (Runs.run (step (.ofToken "0")) init answeredEvents).table.tasks .loop = .free := by rfl
  have hidle : step (.ofToken "0") (Runs.run (step (.ofToken "0")) init answeredEvents)
      (.work .loop) = Runs.run (step (.ofToken "0")) init answeredEvents := by
    simp only [step, act, hfree, Option.getD_none]
  refine ⟨FairRun.ofQuiet (schedule (.ofToken "0")) init answeredEvents (.work .loop) hidle ?_,
    answeredEvents.length, hend⟩
  rintro caller (hbusy | ⟨c, id, sock, phase, rfl, hcall, -⟩)
  · cases caller <;> exact hbusy rfl
  · cases c <;> cases hcall

end MotionServerClient

end MotionServer
