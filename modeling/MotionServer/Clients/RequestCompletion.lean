import MotionServer.Clients.PythonClient

/-!
# Requests of the Python client

* `Effect`: what a step does to the table and to the calls;
* **`effect_step`**: each step of each thread has one of these effects;
* `Coherent`: the calls and the table agree;
* **`coherent_run`**: they agree after every run.
-/

namespace MotionServer

variable {F : Type}

/-- The call may have an entry in the table. -/
def Phase.MayPend : Phase → Prop
  | .sending | .sendFailed _ | .waiting | .timedOut => True
  | .disconnecting _ | .late => False

/-- The number under which a call is registered. -/
def Call.id? : Call F → Option ℕ
  | .idle => none
  | .running id _ _ => some id
  | .ended id _ => id

namespace MotionServerClient

/-- The pending requests of the client, with their threads. -/
abbrev Requests (F : Type) := PendingTable Caller (Message F) ClientError

/-! ## What a step does -/

/-- What a step does to the table and to the calls. The mover is the call that takes it, if one does. -/
inductive Effect (names : Message F → ℕ → Prop) (table : Requests F) (calls : ℕ → Call F) :
    Option ℕ → Requests F → (ℕ → Call F) → Prop
  | quiet {mover : Option ℕ} : Effect names table calls mover table calls
  | refuse (c : ℕ) (error : ClientError) (hidle : calls c = .idle) :
    Effect names table calls (some c) table (Function.update calls c (.ended none (.raised error)))
  | skip (c : ℕ) (error : ClientError) (hidle : calls c = .idle) :
    Effect names table calls (some c) table.skip (Function.update calls c (.ended none (.raised error)))
  | register (c sock : ℕ) (hidle : calls c = .idle) :
    Effect names table calls (some c) table.register
      (Function.update calls c (.running (table.sequence + 1) sock .sending))
  | advance (c id sock : ℕ) (phase phase' : Phase) (hcall : calls c = .running id sock phase)
      (hphase : phase.MayPend) (hphase' : phase'.MayPend) :
    Effect names table calls (some c) table (Function.update calls c (.running id sock phase'))
  | miss (c id sock : ℕ) (hcall : calls c = .running id sock .timedOut)
      (hmissing : id ∉ table.pending) :
    Effect names table calls (some c) table (Function.update calls c (.running id sock .late))
  | withdraw (c id sock : ℕ) (hcall : calls c = .running id sock .timedOut) :
    Effect names table calls (some c) (table.withdraw id)
      (Function.update calls c (.ended (some id) (.raised .requestTimeout)))
  | wake (c id sock : ℕ) (phase : Phase) (outcome : Outcome F)
      (hcall : calls c = .running id sock phase)
      (hphase : ∀ error, phase ≠ .disconnecting error)
      (hevent : (table.requests id).event = true)
      (houtcome : ∀ number message, outcome = .response number message →
        (table.requests id).response = some (number, message)) :
    Effect names table calls (some c) table (Function.update calls c (.ended (some id) outcome))
  | raise (c id sock : ℕ) (error : String)
      (hcall : calls c = .running id sock (.disconnecting error))
      (hfree : table.tasks (.call c) = .free) :
    Effect names table calls (some c) table
      (Function.update calls c (.ended (some id) (.raised (.connectionLost error))))
  | answer (id : ℕ) (message : Message F) (hfree : table.tasks .loop = .free)
      (hpending : id ∈ table.pending) (hnames : names message id) :
    Effect names table calls none (table.answer .loop id message) calls
  | failAll (caller : Caller) (error : ClientError) (hfree : table.tasks caller = .free)
      (hcaller : ∀ c, caller ≠ .call c) :
    Effect names table calls none (table.failAll caller error) calls
  | failCall (c id sock : ℕ) (error : String) (hcall : calls c = .running id sock (.sendFailed error)) :
    Effect names table calls (some c) (table.failAll (.call c) (.connectionLost error))
      (Function.update calls c (.running id sock (.disconnecting error)))
  | work (caller : Caller) : Effect names table calls none (table.work caller) calls

variable {setup : ClientSetup F} {client next : MotionServerClient F}

theorem effect_request {c : ℕ} {submission : Submission} (hidle : client.calls c = .idle) :
    Effect (Names setup) client.table client.calls (some c)
      (client.request c submission).table (client.request c submission).calls := by
  unfold request
  split
  · exact .refuse c _ hidle
  split
  · split
    · exact .skip c _ hidle
    · exact .register c _ hidle
  · exact .refuse c _ hidle

theorem response_of_outcome {id number : ℕ} {message : Message F}
    (h : client.outcome id = .response number message) :
    (client.table.requests id).response = some (number, message) := by
  unfold outcome at h
  split at h
  · cases h
  · cases h
  · rename_i response _ hresponse
    rw [hresponse]
    cases h
    rfl

theorem effect_actCall {c id sock : ℕ} {phase : Phase} {step : CallStep}
    (hcall : client.calls c = .running id sock phase)
    (h : client.actCall c id sock phase step = some next) :
    Effect (Names setup) client.table client.calls (some c) next.table next.calls := by
  unfold actCall at h
  split at h
  · cases h
    exact .advance c id sock _ _ hcall trivial trivial
  · cases h
    exact .advance c id sock _ _ hcall trivial trivial
  · cases h
    exact .failCall c id sock _ hcall
  · split at h
    · rename_i hfree
      cases h
      exact .raise c id sock _ hcall hfree
    · cases h
  · split at h
    · rename_i hevent
      cases h
      exact .wake c id sock _ _ hcall (fun _ hcontra => nomatch hcontra) hevent fun _ _ => response_of_outcome
    · cases h
  · split at h
    · rename_i hevent
      cases h
      exact .wake c id sock _ _ hcall (fun _ hcontra => nomatch hcontra) hevent fun _ _ => response_of_outcome
    · cases h
  · cases h
    exact .advance c id sock _ _ hcall trivial trivial
  · split at h
    · cases h
      exact .withdraw c id sock hcall
    · rename_i hmissing
      cases h
      exact .miss c id sock hcall hmissing
  · cases h

theorem effect_proceed (hfree : client.table.tasks .loop = .free) (h : client.proceed = some next) :
    Effect (Names setup) client.table client.calls none next.table next.calls := by
  have hcaller : ∀ c, Caller.loop ≠ .call c := fun c hc => nomatch hc
  unfold proceed at h
  split at h
  · cases h
    exact .quiet
  · split at h
    · cases h
      exact .quiet
    · cases h
      exact .quiet
  · cases h
    exact .quiet
  · cases h
    exact .quiet
  · cases h
    exact .failAll .loop _ hfree hcaller
  · cases h
    exact .quiet
  · cases h
    exact .failAll .loop _ hfree hcaller
  · cases h
    exact .quiet
  · cases h

theorem effect_routeMessage {message : Message F} (hfree : client.table.tasks .loop = .free) :
    Effect (Names setup) client.table client.calls none
      (client.routeMessage setup message).table (client.routeMessage setup message).calls := by
  unfold routeMessage
  split
  · rename_i id hid
    obtain ⟨hpending, hnames⟩ := answered_eq_some_iff.mp hid
    exact .answer id message hfree hpending hnames
  · exact .quiet

theorem effect_actLoop {step : LoopStep F} (hfree : client.table.tasks .loop = .free)
    (h : client.actLoop setup step = some next) :
    Effect (Names setup) client.table client.calls none next.table next.calls := by
  cases step with
  | proceed => exact effect_proceed hfree h
  | message message =>
    simp only [actLoop] at h
    split at h
    · cases h
      exact effect_routeMessage hfree
    · cases h
  | connected | connectFails _ | received | receiveFails _ | chunkDone | protocolError _ | crash =>
    simp only [actLoop] at h
    split at h
    · cases h
      exact .quiet
    · cases h

/-- The call that takes a step. -/
def ClientEvent.mover : ClientEvent F → Option ℕ
  | .request c _ | .call c _ => some c
  | _ => none

/-- **Each step of each thread has one of the effects.** -/
theorem effect_act {event : ClientEvent F} (h : client.act setup event = some next) :
    Effect (Names setup) client.table client.calls event.mover next.table next.calls := by
  unfold act at h
  split at h
  · split at h
    · rename_i hidle
      cases h
      exact effect_request hidle
    · cases h
  · split at h
    · rename_i hcall
      exact effect_actCall hcall h
    · cases h
  · split at h
    · cases h
    · cases h
      exact .work _
  · split at h
    · rename_i hfree
      exact effect_actLoop hfree h
    · cases h
  · split at h
    · cases h
      exact .quiet
    · cases h
  · cases h
    exact .quiet
  · split at h
    · rename_i hfree _
      cases h
      exact .failAll _ _ hfree fun c hc => nomatch hc
    · cases h

theorem effect_step (setup : ClientSetup F) (client : MotionServerClient F) (event : ClientEvent F) :
    Effect (Names setup) client.table client.calls event.mover
      (client.step setup event).table (client.step setup event).calls := by
  unfold step
  cases h : client.act setup event with
  | none => exact .quiet
  | some next => exact effect_act h

/-! ## The calls and the table agree -/

/-- The answer is given to the request, or the request has ended with it. -/
def Given (table : Requests F) (calls : ℕ → Call F) (id : ℕ) (response : ℕ × Message F) : Prop :=
  table.Carries id response ∨ ∃ c, calls c = .ended (some id) (.response response.1 response.2)

/-- The calls and the table agree. -/
structure Coherent (names : Message F → ℕ → Prop) (table : Requests F) (calls : ℕ → Call F) :
    Prop where
  sound : table.Sound
  ledger : PendingTable.Ledger names table.answers (Given table calls)
  busy : ∀ c, table.tasks (.call c) ≠ .free →
    ∃ id sock error, calls c = .running id sock (.disconnecting error)
  live : ∀ {c id sock phase}, calls c = .running id sock phase → table.Live id
  le_sequence : ∀ c id, (calls c).id? = some id → id ≤ table.sequence
  distinct : ∀ c c' id, (calls c).id? = some id → (calls c').id? = some id → c = c'
  owned : ∀ id ∈ table.pending, ∃ c sock phase, calls c = .running id sock phase ∧ phase.MayPend
  taken : ∀ {c id sock phase}, calls c = .running id sock phase → ¬ phase.MayPend →
    id ∉ table.pending
  refused : ∀ {c outcome}, calls c = .ended none outcome → ∃ error, outcome = .raised error

variable {names : Message F → ℕ → Prop} {table table' : Requests F} {calls calls' : ℕ → Call F}
  {mover : Option ℕ}

theorem update_cases {α : Type} [DecidableEq α] {β : Type} {f : α → β} {a b : α} {v w : β}
    (h : Function.update f a v b = w) : b = a ∧ v = w ∨ b ≠ a ∧ f b = w := by
  by_cases hba : b = a
  · subst hba
    exact Or.inl ⟨rfl, by rwa [Function.update_self] at h⟩
  · exact Or.inr ⟨hba, by rwa [Function.update_of_ne hba] at h⟩

theorem coherent_init : Coherent names (PendingTable.empty : Requests F) fun _ => .idle where
  sound := PendingTable.sound_empty
  ledger := by
    have hnone : ∀ {id response}, ¬ Given (PendingTable.empty : Requests F) (fun _ => .idle) id
        response := by
      intro id response hg
      simp [Given, PendingTable.Carries, PendingTable.empty, PendingRequest.untouched] at hg
    exact ⟨fun hg => absurd hg hnone, fun hg => absurd hg hnone, fun hg => absurd hg hnone⟩
  busy c h := absurd rfl h
  live h := nomatch h
  le_sequence _ _ h := nomatch h
  distinct _ _ _ h := nomatch h
  owned _ h := absurd h List.not_mem_nil
  taken h := nomatch h
  refused h := nomatch h

theorem sound_effect (h : Coherent names table calls)
    (heffect : Effect names table calls mover table' calls') : table'.Sound := by
  cases heffect with
  | quiet | refuse | advance | miss | wake | raise => exact h.sound
  | skip => exact h.sound.skip
  | register => exact h.sound.register
  | withdraw => exact h.sound.withdraw _
  | answer id message _ hpending => exact h.sound.answer _ hpending _
  | failAll | failCall => exact h.sound.failAll _ _
  | work => exact h.sound.work _

/-- A call that goes on without an answer gives none. -/
theorem given_of_update {c id : ℕ} {call : Call F} {response : ℕ × Message F}
    (hcall : ∀ id number message, call ≠ .ended (some id) (.response number message))
    (hg : Given table (Function.update calls c call) id response) : Given table calls id response := by
  refine hg.imp_right ?_
  rintro ⟨c', hc'⟩
  rcases update_cases hc' with ⟨-, hcontra⟩ | ⟨-, hold⟩
  · exact absurd hcontra (hcall _ _ _)
  · exact ⟨c', hold⟩

theorem ledger_effect (h : Coherent names table calls)
    (heffect : Effect names table calls mover table' calls') :
    PendingTable.Ledger names table'.answers (Given table' calls') := by
  cases heffect with
  | quiet => exact h.ledger
  | refuse | skip | advance | miss | withdraw | raise =>
    exact h.ledger.of_subset (given_of_update (by simp))
  | register =>
    refine h.ledger.of_subset fun hg => ?_
    exact (given_of_update (by simp) hg).imp_left
      PendingTable.carries_of_register
  | wake c id sock phase outcome hcall hphase hevent houtcome =>
    refine h.ledger.of_subset ?_
    rintro id' response (hcarries | ⟨c', hc'⟩)
    · exact Or.inl hcarries
    · rcases update_cases hc' with ⟨-, hended⟩ | ⟨-, hold⟩
      · cases hended
        exact Or.inl (Or.inl (houtcome _ _ rfl))
      · exact Or.inr ⟨c', hold⟩
  | answer id message hfree hpending hnames =>
    refine h.ledger.add hnames ?_
    rintro id' response (hcarries | hended)
    · exact (PendingTable.carries_of_answer hcarries).imp_right Or.inl
    · exact Or.inr (Or.inr hended)
  | failAll => exact h.ledger.of_subset fun hg => hg.imp_left PendingTable.carries_of_failAll
  | failCall =>
    refine h.ledger.of_subset fun hg => ?_
    exact (given_of_update (by simp) hg).imp_left
      PendingTable.carries_of_failAll
  | work caller =>
    rw [PendingTable.answers_work]
    exact h.ledger.of_subset fun hg => hg.imp_left PendingTable.carries_of_work

/-- A call that is not in `_disconnect` has nothing to do. -/
theorem free_of_call (h : Coherent names table calls) {c : ℕ}
    (hc : ∀ id sock error, calls c ≠ .running id sock (.disconnecting error)) :
    table.tasks (.call c) = .free := by
  by_contra hbusy
  obtain ⟨id, sock, error, hcall⟩ := h.busy c hbusy
  exact hc id sock error hcall

theorem busy_effect (h : Coherent names table calls)
    (heffect : Effect names table calls mover table' calls') (c' : ℕ)
    (hbusy : table'.tasks (.call c') ≠ .free) :
    ∃ id sock error, calls' c' = .running id sock (.disconnecting error) := by
  have hother : ∀ c call, c' ≠ c → table.tasks (.call c') ≠ .free →
      ∃ id sock error, Function.update calls c call c' = .running id sock (.disconnecting error) := by
    intro c call hne hbusy
    rw [Function.update_of_ne hne]
    exact h.busy c' hbusy
  cases heffect with
  | quiet => exact h.busy c' hbusy
  | refuse c _ hcall | skip c _ hcall | register c _ hcall | miss c _ _ hcall
  | withdraw c _ _ hcall =>
    refine hother c _ ?_ hbusy
    rintro rfl
    exact hbusy (free_of_call h fun _ _ _ hc => by rw [hcall] at hc; cases hc)
  | advance c id sock phase phase' hcall hphase =>
    refine hother c _ ?_ hbusy
    rintro rfl
    refine hbusy (free_of_call h fun _ _ _ hc => ?_)
    rw [hcall] at hc
    cases hc
    exact hphase
  | wake c id sock phase outcome hcall hphase =>
    refine hother c _ ?_ hbusy
    rintro rfl
    refine hbusy (free_of_call h fun _ _ error hc => ?_)
    rw [hcall] at hc
    cases hc
    exact hphase error rfl
  | raise c id sock error hcall hfree =>
    refine hother c _ ?_ hbusy
    rintro rfl
    exact hbusy hfree
  | answer =>
    refine h.busy c' ?_
    simpa [PendingTable.answer] using hbusy
  | failAll caller error hfree hcaller =>
    refine h.busy c' ?_
    simpa [PendingTable.failAll, Function.update_of_ne (hcaller c').symm] using hbusy
  | failCall c id sock error hcall =>
    by_cases hc : c' = c
    · subst hc
      exact ⟨id, sock, error, Function.update_self _ _ _⟩
    · refine hother c _ hc ?_
      simpa [PendingTable.failAll, Function.update_of_ne, hc] using hbusy
  | work caller =>
    by_cases hc : Caller.call c' = caller
    · subst hc
      refine h.busy c' fun hfree => hbusy ?_
      simp [PendingTable.work, hfree]
    · rw [PendingTable.tasks_work_of_ne hc] at hbusy
      exact h.busy c' hbusy

theorem live_effect (h : Coherent names table calls)
    (heffect : Effect names table calls mover table' calls') {c' id' sock' : ℕ} {phase' : Phase}
    (hcall' : calls' c' = .running id' sock' phase') : table'.Live id' := by
  cases heffect with
  | quiet => exact h.live hcall'
  | refuse | skip | raise | wake =>
    rcases update_cases hcall' with ⟨-, hcontra⟩ | ⟨-, hold⟩
    · cases hcontra
    · exact h.live hold
  | register c sock =>
    rcases update_cases hcall' with ⟨-, hnew⟩ | ⟨-, hold⟩
    · cases hnew
      exact PendingTable.live_register_self
    · exact (h.live hold).register
  | advance c id sock phase phase' hcall =>
    rcases update_cases hcall' with ⟨-, hnew⟩ | ⟨-, hold⟩
    · cases hnew
      exact h.live hcall
    · exact h.live hold
  | miss c id sock hcall =>
    rcases update_cases hcall' with ⟨-, hnew⟩ | ⟨-, hold⟩
    · cases hnew
      exact h.live hcall
    · exact h.live hold
  | withdraw c id sock hcall =>
    rcases update_cases hcall' with ⟨-, hcontra⟩ | ⟨hne, hold⟩
    · cases hcontra
    · refine (h.live hold).withdraw ?_
      rintro rfl
      exact hne (h.distinct _ _ id' (by rw [hold]; rfl) (by rw [hcall]; rfl))
  | answer id message hfree => exact (h.live hcall').answer hfree _ _
  | failAll caller error hfree => exact (h.live hcall').failAll hfree _
  | failCall c id sock error hcall =>
    have hfree : table.tasks (.call c) = .free :=
      free_of_call h fun _ _ _ hc => by rw [hcall] at hc; cases hc
    rcases update_cases hcall' with ⟨-, hnew⟩ | ⟨-, hold⟩
    · cases hnew
      exact (h.live hcall).failAll hfree _
    · exact (h.live hold).failAll hfree _
  | work caller => exact (h.live hcall').work _

/-! ### Numbers -/

theorem id?_update {c : ℕ} {call : Call F} (h : call.id? = (calls c).id?) (c' : ℕ) :
    (Function.update calls c call c').id? = (calls c').id? := by
  by_cases hc : c' = c
  · subst hc
    rwa [Function.update_self]
  · rw [Function.update_of_ne hc]

/-- The numbers of the calls stay, but for a call that is registered now. -/
theorem id?_effect (heffect : Effect names table calls mover table' calls') :
    (∀ c, (calls' c).id? = (calls c).id?) ∧ table.sequence ≤ table'.sequence ∨
      table'.sequence = table.sequence + 1 ∧ ∃ c, (calls c).id? = none ∧
        (calls' c).id? = some (table.sequence + 1) ∧
          ∀ c', c' ≠ c → (calls' c').id? = (calls c').id? := by
  cases heffect with
  | quiet => exact Or.inl ⟨fun _ => rfl, le_rfl⟩
  | refuse c error hcall => exact Or.inl ⟨id?_update (by rw [hcall]; rfl), le_rfl⟩
  | skip c error hcall => exact Or.inl ⟨id?_update (by rw [hcall]; rfl), Nat.le_succ _⟩
  | register c sock hcall =>
    refine Or.inr ⟨rfl, c, by rw [hcall]; rfl, by rw [Function.update_self]; rfl, fun c' hc => ?_⟩
    rw [Function.update_of_ne hc]
  | advance c id sock phase phase' hcall => exact Or.inl ⟨id?_update (by rw [hcall]; rfl), le_rfl⟩
  | miss c id sock hcall => exact Or.inl ⟨id?_update (by rw [hcall]; rfl), le_rfl⟩
  | withdraw c id sock hcall => exact Or.inl ⟨id?_update (by rw [hcall]; rfl), le_rfl⟩
  | wake c id sock phase outcome hcall => exact Or.inl ⟨id?_update (by rw [hcall]; rfl), le_rfl⟩
  | raise c id sock error hcall => exact Or.inl ⟨id?_update (by rw [hcall]; rfl), le_rfl⟩
  | answer => exact Or.inl ⟨fun _ => rfl, le_rfl⟩
  | failAll => exact Or.inl ⟨fun _ => rfl, le_rfl⟩
  | failCall c id sock error hcall => exact Or.inl ⟨id?_update (by rw [hcall]; rfl), le_rfl⟩
  | work => exact Or.inl ⟨fun _ => rfl, (PendingTable.sequence_work _).ge⟩

theorem le_sequence_effect (h : Coherent names table calls)
    (heffect : Effect names table calls mover table' calls') (c id : ℕ)
    (hid : (calls' c).id? = some id) : id ≤ table'.sequence := by
  rcases id?_effect heffect with ⟨hsame, hle⟩ | ⟨hsequence, c₀, -, hnew, hsame⟩
  · rw [hsame] at hid
    exact (h.le_sequence c id hid).trans hle
  · rw [hsequence]
    by_cases hc : c = c₀
    · subst hc
      obtain rfl : table.sequence + 1 = id := Option.some.inj (hnew.symm.trans hid)
      exact le_rfl
    · rw [hsame c hc] at hid
      exact (h.le_sequence c id hid).trans (Nat.le_succ _)

theorem distinct_effect (h : Coherent names table calls)
    (heffect : Effect names table calls mover table' calls') (c c' id : ℕ)
    (hid : (calls' c).id? = some id) (hid' : (calls' c').id? = some id) : c = c' := by
  rcases id?_effect heffect with ⟨hsame, -⟩ | ⟨-, c₀, -, hnew, hsame⟩
  · rw [hsame] at hid hid'
    exact h.distinct c c' id hid hid'
  · -- The new number is larger than any other.
    have hfresh : ∀ d, d ≠ c₀ → (calls' d).id? ≠ some (table.sequence + 1) := by
      intro d hd hcontra
      rw [hsame d hd] at hcontra
      have := h.le_sequence _ _ hcontra
      omega
    by_cases hc : c = c₀ <;> by_cases hc' : c' = c₀
    · rw [hc, hc']
    · subst hc
      rw [hnew] at hid
      exact absurd (hid'.trans hid.symm) (hfresh c' hc')
    · subst hc'
      rw [hnew] at hid'
      exact absurd (hid.trans hid'.symm) (hfresh c hc)
    · rw [hsame c hc] at hid
      rw [hsame c' hc'] at hid'
      exact h.distinct c c' id hid hid'

/-! ### Entries -/

/-- The owner of an entry is not concerned by the change of another call. -/
theorem owned_update (h : Coherent names table calls) {c id : ℕ} {call : Call F}
    (hpending : id ∈ table.pending)
    (hcall : ∀ sock phase, calls c = .running id sock phase → phase.MayPend →
      ∃ sock phase, call = .running id sock phase ∧ phase.MayPend) :
    ∃ c' sock phase, Function.update calls c call c' = .running id sock phase ∧ phase.MayPend := by
  obtain ⟨c', sock, phase, howner, hphase⟩ := h.owned id hpending
  by_cases hc : c' = c
  · subst hc
    obtain ⟨sock', phase', hnew, hphase'⟩ := hcall sock phase howner hphase
    exact ⟨c', sock', phase', by rw [Function.update_self, hnew], hphase'⟩
  · exact ⟨c', sock, phase, by rw [Function.update_of_ne hc, howner], hphase⟩

theorem owned_effect (h : Coherent names table calls)
    (heffect : Effect names table calls mover table' calls') {id' : ℕ} (hpending : id' ∈ table'.pending) :
    ∃ c sock phase, calls' c = .running id' sock phase ∧ phase.MayPend := by
  cases heffect with
  | quiet => exact h.owned id' hpending
  | refuse c _ hcall | skip c _ hcall =>
    exact owned_update h hpending fun _ _ hc => by rw [hcall] at hc; cases hc
  | register c sock hcall =>
    rcases List.mem_append.mp hpending with hold | hnew
    · exact owned_update h hold fun _ _ hc => by rw [hcall] at hc; cases hc
    · rw [List.mem_singleton.mp hnew]
      exact ⟨c, sock, .sending, Function.update_self _ _ _, trivial⟩
  | advance c id sock phase phase' hcall _ hphase' =>
    refine owned_update h hpending fun _ _ hc _ => ?_
    rw [hcall] at hc
    cases hc
    exact ⟨sock, phase', rfl, hphase'⟩
  | miss c id sock hcall hmissing =>
    refine owned_update h hpending fun _ _ hc _ => ?_
    rw [hcall] at hc
    cases hc
    exact absurd hpending hmissing
  | withdraw c id sock hcall =>
    refine owned_update h (List.mem_of_mem_erase hpending) fun _ _ hc _ => ?_
    rw [hcall] at hc
    cases hc
    exact absurd hpending h.sound.nodup.not_mem_erase
  | wake c id sock phase outcome hcall _ hevent =>
    refine owned_update h hpending fun _ _ hc _ => ?_
    rw [hcall] at hc
    cases hc
    rw [h.sound.unsettled id' hpending] at hevent
    cases hevent
  | raise c id sock error hcall =>
    refine owned_update h hpending fun _ _ hc hphase => ?_
    rw [hcall] at hc
    cases hc
    exact hphase.elim
  | answer => exact h.owned id' (List.mem_of_mem_erase hpending)
  | failAll | failCall => exact absurd hpending List.not_mem_nil
  | work =>
    rw [PendingTable.pending_work] at hpending
    exact h.owned id' hpending

theorem taken_effect (h : Coherent names table calls)
    (heffect : Effect names table calls mover table' calls') {c' id' sock' : ℕ} {phase' : Phase}
    (hcall' : calls' c' = .running id' sock' phase') (hphase : ¬ phase'.MayPend) :
    id' ∉ table'.pending := by
  cases heffect with
  | quiet => exact h.taken hcall' hphase
  | refuse | skip | wake | raise =>
    rcases update_cases hcall' with ⟨-, hcontra⟩ | ⟨-, hold⟩
    · cases hcontra
    · exact h.taken hold hphase
  | register c sock =>
    rcases update_cases hcall' with ⟨-, hnew⟩ | ⟨-, hold⟩
    · cases hnew
      exact absurd trivial hphase
    · intro hmem
      rcases List.mem_append.mp hmem with hmem | hmem
      · exact h.taken hold hphase hmem
      · have hle := h.le_sequence c' id' (by rw [hold]; rfl)
        rw [List.mem_singleton.mp hmem] at hle
        omega
  | advance c id sock phase phase' hcall _ hphase' =>
    rcases update_cases hcall' with ⟨-, hnew⟩ | ⟨-, hold⟩
    · cases hnew
      exact absurd hphase' hphase
    · exact h.taken hold hphase
  | miss c id sock hcall hmissing =>
    rcases update_cases hcall' with ⟨-, hnew⟩ | ⟨-, hold⟩
    · cases hnew
      exact hmissing
    · exact h.taken hold hphase
  | withdraw c id sock hcall =>
    rcases update_cases hcall' with ⟨-, hcontra⟩ | ⟨-, hold⟩
    · cases hcontra
    · exact fun hmem => h.taken hold hphase (List.mem_of_mem_erase hmem)
  | answer => exact fun hmem => h.taken hcall' hphase (List.mem_of_mem_erase hmem)
  | failAll | failCall => exact List.not_mem_nil
  | work =>
    rw [PendingTable.pending_work]
    exact h.taken hcall' hphase

/-- A call that is not registered raises. -/
theorem refused_effect (h : Coherent names table calls)
    (heffect : Effect names table calls mover table' calls') {c' : ℕ} {outcome' : Outcome F}
    (hended : calls' c' = .ended none outcome') : ∃ error, outcome' = .raised error := by
  cases heffect with
  | quiet | answer | failAll | work => exact h.refused hended
  | refuse _ error | skip _ error =>
    rcases update_cases hended with ⟨-, hnew⟩ | ⟨-, hold⟩
    · cases hnew
      exact ⟨error, rfl⟩
    · exact h.refused hold
  | register | advance | miss | withdraw | wake | raise | failCall =>
    rcases update_cases hended with ⟨-, hcontra⟩ | ⟨-, hold⟩
    · cases hcontra
    · exact h.refused hold

/-- **The calls and the table agree after each step.** -/
theorem coherent_effect (h : Coherent names table calls)
    (heffect : Effect names table calls mover table' calls') : Coherent names table' calls' where
  sound := sound_effect h heffect
  ledger := ledger_effect h heffect
  busy := busy_effect h heffect
  live := live_effect h heffect
  le_sequence := le_sequence_effect h heffect
  distinct := distinct_effect h heffect
  owned _ := owned_effect h heffect
  taken := taken_effect h heffect
  refused := refused_effect h heffect

theorem coherent_step (h : Coherent (Names setup) client.table client.calls)
    (event : ClientEvent F) :
    Coherent (Names setup) (client.step setup event).table (client.step setup event).calls :=
  coherent_effect h (effect_step setup client event)

theorem coherent_run (setup : ClientSetup F) (events : List (ClientEvent F)) :
    Coherent (Names setup) (Runs.run (step setup) init events).table
      (Runs.run (step setup) init events).calls :=
  Runs.invariant (P := fun client : MotionServerClient F =>
    Coherent (Names setup) client.table client.calls) (fun _ event h => coherent_step h event)
    coherent_init events

end MotionServerClient

end MotionServer
