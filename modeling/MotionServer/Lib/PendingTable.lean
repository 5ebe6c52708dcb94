import Mathlib.Data.List.Basic
import Mathlib.Data.List.Nodup
import Mathlib.Order.Interval.Set.Basic
import Mathlib.Algebra.Order.Group.Nat
import Mathlib.Logic.Function.Basic
import Mathlib.Tactic.Common

/-!
# Tables of pending requests

Threads wait for the answers of requests that other threads settle. A request is registered under a
fresh number, and whoever takes it out of the table settles it: with an answer, or together with all
others with an error. The taker works its list off step by step, outside of the lock.

* `PendingTable`: the entries, the requests with their events, and what each actor still has to do;
* `register`, `answer`, `failAll`, `withdraw`, `work`: the operations;
* `Sound`, `Ledger`: distinct entries, and answers that go to one request each;
* **`PendingTable.Live`**: a request that is not withdrawn is pending, in some actor's hands, or
  settled;
* `PendingTask.remaining`: the steps that an actor still has to take;
* `Doomed`: a request that somebody fails.
-/

/-- A request that somebody waits for. `Δ` are the answers, `E` the errors. -/
structure PendingRequest (Δ E : Type) where
  event : Bool
  response : Option Δ
  error : Option E

/-- A request that nobody has touched. -/
def PendingRequest.untouched {Δ E : Type} : PendingRequest Δ E := ⟨false, none, none⟩

/-- What an actor has taken out of the table and not yet settled. -/
inductive PendingTask (Δ E : Type)
  | free
  /-- The answer is to be stored. -/
  | responding (id : ℕ) (response : Δ)
  /-- The answer is stored, the event is to be set. -/
  | responded (id : ℕ)
  /-- The error is to be stored in the first of these. -/
  | failing (error : E) (ids : List ℕ)
  /-- The error is stored in the first, its event is to be set. -/
  | failed (error : E) (id : ℕ) (rest : List ℕ)

namespace PendingTask

variable {Δ E : Type}

/-- The requests in the hands of the actor. -/
def ids : PendingTask Δ E → List ℕ
  | free => []
  | responding id _ | responded id => [id]
  | failing _ ids => ids
  | failed _ id rest => id :: rest

/-- The steps that are left. -/
def remaining : PendingTask Δ E → ℕ
  | free => 0
  | responding _ _ => 2
  | responded _ => 1
  | failing _ ids => 2 * ids.length + 1
  | failed _ _ rest => 2 * rest.length + 2

/-- The task is to fail this request. -/
def Fails : PendingTask Δ E → ℕ → Prop
  | failing _ ids, id => id ∈ ids
  | failed _ id' rest, id => id ∈ id' :: rest
  | _, _ => False

end PendingTask

/-- The table. `α` are the actors, `M` the messages. -/
structure PendingTable (α M E : Type) where
  sequence : ℕ
  pending : List ℕ
  requests : ℕ → PendingRequest (ℕ × M) E
  tasks : α → PendingTask (ℕ × M) E
  /-- The number of answers so far: an answer is known by its number. -/
  answers : ℕ

namespace PendingTable

variable {α M E : Type}

/-- The table at the beginning. -/
def empty : PendingTable α M E := ⟨0, [], fun _ => .untouched, fun _ => .free, 0⟩

/-- A number is taken and not used. -/
def skip (t : PendingTable α M E) : PendingTable α M E := { t with sequence := t.sequence + 1 }

/-- A new request under a fresh number. -/
def register (t : PendingTable α M E) : PendingTable α M E :=
  { t with
    sequence := t.sequence + 1
    pending := t.pending ++ [t.sequence + 1]
    requests := Function.update t.requests (t.sequence + 1) .untouched }

/-- The request is taken out and given up. -/
def withdraw (t : PendingTable α M E) (id : ℕ) : PendingTable α M E :=
  { t with pending := t.pending.erase id }

/-- Sets the event of a request. -/
def settle (t : PendingTable α M E) (id : ℕ) : ℕ → PendingRequest (ℕ × M) E :=
  Function.update t.requests id { t.requests id with event := true }

variable [DecidableEq α]

/-- The actor takes the request out, to answer it. -/
def answer (t : PendingTable α M E) (a : α) (id : ℕ) (message : M) : PendingTable α M E :=
  { t with
    pending := t.pending.erase id
    tasks := Function.update t.tasks a (.responding id (t.answers, message))
    answers := t.answers + 1 }

/-- The actor takes all requests out, to fail them. -/
def failAll (t : PendingTable α M E) (a : α) (error : E) : PendingTable α M E :=
  { t with pending := [], tasks := Function.update t.tasks a (.failing error t.pending) }

/-- One step of what the actor has to do. -/
def work (t : PendingTable α M E) (a : α) : PendingTable α M E :=
  match t.tasks a with
  | .free => t
  | .responding id response =>
    { t with
      requests := Function.update t.requests id { t.requests id with response := some response }
      tasks := Function.update t.tasks a (.responded id) }
  | .responded id =>
    { t with requests := t.settle id, tasks := Function.update t.tasks a .free }
  | .failing _ [] => { t with tasks := Function.update t.tasks a .free }
  | .failing error (id :: rest) =>
    { t with
      requests := Function.update t.requests id { t.requests id with error := some error }
      tasks := Function.update t.tasks a (.failed error id rest) }
  | .failed error id rest =>
    { t with requests := t.settle id, tasks := Function.update t.tasks a (.failing error rest) }

/-! ## Steps of an actor -/

variable {t : PendingTable α M E}

@[simp] theorem pending_work (a : α) : (t.work a).pending = t.pending := by
  unfold work
  split <;> rfl

@[simp] theorem sequence_work (a : α) : (t.work a).sequence = t.sequence := by
  unfold work
  split <;> rfl

@[simp] theorem answers_work (a : α) : (t.work a).answers = t.answers := by
  unfold work
  split <;> rfl

theorem tasks_work_of_ne {a b : α} (h : b ≠ a) : (t.work a).tasks b = t.tasks b := by
  unfold work
  split
  · rfl
  all_goals exact Function.update_of_ne h _ _

theorem work_of_free {a : α} (h : t.tasks a = .free) : t.work a = t := by
  simp only [work, h]

theorem remaining_work {a : α} (h : t.tasks a ≠ .free) :
    ((t.work a).tasks a).remaining + 1 = (t.tasks a).remaining := by
  unfold work
  split <;> rename_i htask
  · exact absurd htask h
  all_goals
    simp only [Function.update_self, htask, PendingTask.remaining, List.length_cons, List.length_nil]
    try omega

omit [DecidableEq α] in
@[simp] theorem settle_event_self (id : ℕ) : (t.settle id id).event = true := by simp [settle]

omit [DecidableEq α] in
theorem event_settle {id id' : ℕ} (h : (t.requests id).event = true) :
    (t.settle id' id).event = true := by
  unfold settle
  by_cases hid : id = id'
  · subst hid
    simp
  · rwa [Function.update_of_ne hid]

/-- A set event stays set. -/
theorem event_work {id : ℕ} (a : α) (h : (t.requests id).event = true) :
    ((t.work a).requests id).event = true := by
  unfold work
  split
  · exact h
  · rename_i id' _ _
    by_cases hid : id = id'
    · subst hid
      simpa using h
    · simpa [Function.update_of_ne hid] using h
  · exact event_settle h
  · exact h
  · rename_i id' _ _
    by_cases hid : id = id'
    · subst hid
      simpa using h
    · simpa [Function.update_of_ne hid] using h
  · exact event_settle h

/-- A request in the hands of the actor stays there or is settled. -/
theorem ids_work {id : ℕ} {a : α} (h : id ∈ (t.tasks a).ids) :
    id ∈ ((t.work a).tasks a).ids ∨ ((t.work a).requests id).event = true := by
  unfold work
  split <;> rename_i htask <;> rw [htask] at h
  · exact absurd h List.not_mem_nil
  · left
    simpa [PendingTask.ids] using h
  · right
    obtain rfl : id = _ := List.mem_singleton.mp h
    exact settle_event_self id
  · exact absurd h List.not_mem_nil
  · left
    simpa [PendingTask.ids] using h
  · rcases List.mem_cons.mp h with rfl | hrest
    · exact Or.inr (settle_event_self id)
    · left
      simpa [PendingTask.ids] using hrest

theorem ids_of_work {id : ℕ} {a b : α} (h : id ∈ ((t.work a).tasks b).ids) :
    id ∈ (t.tasks b).ids := by
  by_cases hba : b = a
  · subst hba
    unfold work at h
    split at h <;> rename_i htask
    · exact h
    · simpa [htask, PendingTask.ids] using h
    · simp [PendingTask.ids] at h
    · simp [PendingTask.ids] at h
    · simpa [htask, PendingTask.ids] using h
    · rw [htask]
      refine List.mem_cons_of_mem _ ?_
      simpa [PendingTask.ids] using h
  · rwa [tasks_work_of_ne hba] at h

/-- A step touches the requests of its actor only. -/
theorem event_work_of_not_mem {id : ℕ} {a : α} (h : id ∉ (t.tasks a).ids) :
    ((t.work a).requests id).event = (t.requests id).event := by
  unfold work
  split <;> rename_i htask <;> simp only [htask] at h
  · rfl
  · dsimp only
    rw [Function.update_of_ne (List.ne_of_not_mem_cons h)]
  · simp only [settle]
    rw [Function.update_of_ne (List.ne_of_not_mem_cons h)]
  · rfl
  · dsimp only
    rw [Function.update_of_ne (List.ne_of_not_mem_cons h)]
  · simp only [settle]
    rw [Function.update_of_ne (List.ne_of_not_mem_cons h)]

/-! ## A request that is not withdrawn is settled or on its way -/

/-- The request is pending, in the hands of an actor, or settled. -/
def Live (t : PendingTable α M E) (id : ℕ) : Prop :=
  id ∈ t.pending ∨ (∃ a, id ∈ (t.tasks a).ids) ∨ (t.requests id).event = true

omit [DecidableEq α] in
theorem live_register_self : t.register.Live (t.sequence + 1) := by
  left
  simp [register]

omit [DecidableEq α] in
theorem Live.skip {id : ℕ} (h : t.Live id) : t.skip.Live id := h

omit [DecidableEq α] in
theorem Live.register {id : ℕ} (h : t.Live id) : t.register.Live id := by
  by_cases hid : id = t.sequence + 1
  · rw [hid]
    exact live_register_self
  · rcases h with hpending | htask | hevent
    · exact Or.inl (List.mem_append_left _ hpending)
    · exact Or.inr (Or.inl htask)
    · refine Or.inr (Or.inr ?_)
      simpa [PendingTable.register, Function.update_of_ne hid] using hevent

theorem mem_ids_of_update {tasks : α → PendingTask (ℕ × M) E} {a b : α}
    {task : PendingTask (ℕ × M) E} {id : ℕ} (hfree : tasks a = .free) (h : id ∈ (tasks b).ids) :
    id ∈ (Function.update tasks a task b).ids := by
  have hne : b ≠ a := by
    rintro rfl
    rw [hfree] at h
    exact absurd h List.not_mem_nil
  rwa [Function.update_of_ne hne]

theorem Live.answer {id : ℕ} {a : α} (hfree : t.tasks a = .free) (h : t.Live id) (id' : ℕ)
    (message : M) : (t.answer a id' message).Live id := by
  rcases h with hpending | ⟨b, hb⟩ | hevent
  · by_cases hid : id = id'
    · refine Or.inr (Or.inl ⟨a, ?_⟩)
      simp [PendingTable.answer, PendingTask.ids, hid]
    · exact Or.inl ((List.mem_erase_of_ne hid).mpr hpending)
  · exact Or.inr (Or.inl ⟨b, mem_ids_of_update hfree hb⟩)
  · exact Or.inr (Or.inr hevent)

theorem Live.failAll {id : ℕ} {a : α} (hfree : t.tasks a = .free) (h : t.Live id) (error : E) :
    (t.failAll a error).Live id := by
  rcases h with hpending | ⟨b, hb⟩ | hevent
  · refine Or.inr (Or.inl ⟨a, ?_⟩)
    simpa [PendingTable.failAll, PendingTask.ids] using hpending
  · exact Or.inr (Or.inl ⟨b, mem_ids_of_update hfree hb⟩)
  · exact Or.inr (Or.inr hevent)

omit [DecidableEq α] in
theorem Live.withdraw {id id' : ℕ} (h : t.Live id) (hne : id ≠ id') : (t.withdraw id').Live id := by
  rcases h with hpending | hrest
  · exact Or.inl ((List.mem_erase_of_ne hne).mpr hpending)
  · exact Or.inr hrest

theorem Live.work {id : ℕ} (h : t.Live id) (a : α) : (t.work a).Live id := by
  rcases h with hpending | ⟨b, hb⟩ | hevent
  · left
    rwa [pending_work]
  · by_cases hba : b = a
    · subst hba
      exact Or.inr ((ids_work hb).imp_left fun h => ⟨b, h⟩)
    · refine Or.inr (Or.inl ⟨b, ?_⟩)
      rwa [tasks_work_of_ne hba]
  · exact Or.inr (Or.inr (event_work a hevent))

/-! ## Answers -/

/-- The answer is given to the request, or about to be. -/
def Carries (t : PendingTable α M E) (id : ℕ) (response : ℕ × M) : Prop :=
  (t.requests id).response = some response ∨ ∃ a, t.tasks a = .responding id response

/-- Requests are numbered, and one that is pending is nowhere else. -/
structure Sound (t : PendingTable α M E) : Prop where
  nodup : t.pending.Nodup
  le_sequence : ∀ id ∈ t.pending, id ≤ t.sequence
  tasks_le : ∀ a, ∀ id ∈ (t.tasks a).ids, id ≤ t.sequence
  apart : ∀ id ∈ t.pending, ∀ a, id ∉ (t.tasks a).ids
  unsettled : ∀ id ∈ t.pending, (t.requests id).event = false

omit [DecidableEq α] in
theorem sound_empty : (empty : PendingTable α M E).Sound where
  nodup := List.nodup_nil
  le_sequence _ h := absurd h List.not_mem_nil
  tasks_le _ _ h := absurd h List.not_mem_nil
  apart _ h := absurd h List.not_mem_nil
  unsettled _ h := absurd h List.not_mem_nil

omit [DecidableEq α] in
theorem Sound.skip (h : t.Sound) : t.skip.Sound where
  nodup := h.nodup
  le_sequence id hid := (h.le_sequence id hid).trans (Nat.le_succ _)
  tasks_le a id hid := (h.tasks_le a id hid).trans (Nat.le_succ _)
  apart := h.apart
  unsettled := h.unsettled

omit [DecidableEq α] in
theorem Sound.register (h : t.Sound) : t.register.Sound where
  nodup := by
    refine List.Nodup.append h.nodup (List.nodup_singleton _) ?_
    intro id hid hnew
    have hle := h.le_sequence id hid
    rw [List.mem_singleton.mp hnew] at hle
    omega
  le_sequence id hid := by
    rcases List.mem_append.mp hid with hold | hnew
    · exact (h.le_sequence id hold).trans (Nat.le_succ _)
    · exact (List.mem_singleton.mp hnew).le
  tasks_le a id hid := (h.tasks_le a id hid).trans (Nat.le_succ _)
  apart id hid a ha := by
    rcases List.mem_append.mp hid with hold | hnew
    · exact h.apart id hold a ha
    · have hle := h.tasks_le a id ha
      rw [List.mem_singleton.mp hnew] at hle
      omega
  unsettled id hid := by
    by_cases hnew : id = t.sequence + 1
    · subst hnew
      simp [PendingTable.register, PendingRequest.untouched]
    · have hold := (List.mem_append.mp hid).resolve_right fun h => hnew (List.mem_singleton.mp h)
      simpa [PendingTable.register, Function.update_of_ne hnew] using h.unsettled id hold

theorem Sound.answer (h : t.Sound) (a : α) {id : ℕ} (hid : id ∈ t.pending) (message : M) :
    (t.answer a id message).Sound where
  nodup := h.nodup.erase id
  le_sequence id' hid' := h.le_sequence id' (List.mem_of_mem_erase hid')
  tasks_le b id' hid' := by
    by_cases hba : b = a
    · subst hba
      have heq : id' = id := by simpa [PendingTable.answer, PendingTask.ids] using hid'
      exact heq ▸ h.le_sequence id hid
    · refine h.tasks_le b id' ?_
      simpa [PendingTable.answer, Function.update_of_ne hba] using hid'
  apart id' hid' b hb := by
    by_cases hba : b = a
    · subst hba
      have heq : id' = id := by simpa [PendingTable.answer, PendingTask.ids] using hb
      exact h.nodup.not_mem_erase (heq ▸ hid')
    · refine h.apart id' (List.mem_of_mem_erase hid') b ?_
      simpa [PendingTable.answer, Function.update_of_ne hba] using hb
  unsettled id' hid' := h.unsettled id' (List.mem_of_mem_erase hid')

theorem Sound.failAll (h : t.Sound) (a : α) (error : E) : (t.failAll a error).Sound where
  nodup := List.nodup_nil
  le_sequence _ hid := absurd hid List.not_mem_nil
  tasks_le b id hid := by
    by_cases hba : b = a
    · subst hba
      refine h.le_sequence id ?_
      simpa [PendingTable.failAll, PendingTask.ids] using hid
    · refine h.tasks_le b id ?_
      simpa [PendingTable.failAll, Function.update_of_ne hba] using hid
  apart _ hid := absurd hid List.not_mem_nil
  unsettled _ hid := absurd hid List.not_mem_nil

omit [DecidableEq α] in
theorem Sound.withdraw (h : t.Sound) (id : ℕ) : (t.withdraw id).Sound where
  nodup := h.nodup.erase id
  le_sequence id' hid := h.le_sequence id' (List.mem_of_mem_erase hid)
  tasks_le := h.tasks_le
  apart id' hid := h.apart id' (List.mem_of_mem_erase hid)
  unsettled id' hid := h.unsettled id' (List.mem_of_mem_erase hid)

theorem Sound.work (h : t.Sound) (a : α) : (t.work a).Sound where
  nodup := by
    rw [pending_work]
    exact h.nodup
  le_sequence := by
    rw [pending_work, sequence_work]
    exact h.le_sequence
  tasks_le b id hid := by
    rw [sequence_work]
    exact h.tasks_le b id (ids_of_work hid)
  apart id hid b hb := by
    rw [pending_work] at hid
    exact h.apart id hid b (ids_of_work hb)
  unsettled id hid := by
    rw [pending_work] at hid
    rw [event_work_of_not_mem (h.apart id hid a), h.unsettled id hid]

variable {names : M → ℕ → Prop}

/-- A ledger of given answers: each answer has a number of its own and goes to one request, which it
names. -/
structure Ledger (names : M → ℕ → Prop) (answers : ℕ) (given : ℕ → ℕ × M → Prop) : Prop where
  number_lt : ∀ {id response}, given id response → response.1 < answers
  number_inj : ∀ {id id' response response'}, given id response → given id' response' →
    response.1 = response'.1 → id = id'
  named : ∀ {id response}, given id response → names response.2 id

theorem Ledger.of_subset {answers : ℕ} {given given' : ℕ → ℕ × M → Prop}
    (h : Ledger names answers given)
    (hsubset : ∀ {id response}, given' id response → given id response) :
    Ledger names answers given' where
  number_lt hg := h.number_lt (hsubset hg)
  number_inj hg hg' := h.number_inj (hsubset hg) (hsubset hg')
  named hg := h.named (hsubset hg)

/-- One more answer, under the next number. -/
theorem Ledger.add {answers id : ℕ} {message : M} {given given' : ℕ → ℕ × M → Prop}
    (h : Ledger names answers given) (hnames : names message id)
    (hsubset : ∀ {id' response}, given' id' response →
      id' = id ∧ response = (answers, message) ∨ given id' response) :
    Ledger names (answers + 1) given' where
  number_lt hg := by
    rcases hsubset hg with ⟨-, rfl⟩ | hold
    · exact Nat.lt_succ_self _
    · exact (h.number_lt hold).trans (Nat.lt_succ_self _)
  number_inj hg hg' hnumber := by
    rcases hsubset hg with ⟨rfl, rfl⟩ | hold <;> rcases hsubset hg' with ⟨rfl, rfl⟩ | hold'
    · rfl
    · exact absurd hnumber (h.number_lt hold').ne'
    · exact absurd hnumber (h.number_lt hold).ne
    · exact h.number_inj hold hold' hnumber
  named hg := by
    rcases hsubset hg with ⟨rfl, rfl⟩ | hold
    · exact hnames
    · exact h.named hold

omit [DecidableEq α] in
theorem carries_of_register {id : ℕ} {response : ℕ × M} (hc : t.register.Carries id response) :
    t.Carries id response := by
  refine hc.imp_left fun hresponse => ?_
  by_cases hid : id = t.sequence + 1
  · subst hid
    simp [PendingTable.register, PendingRequest.untouched] at hresponse
  · simpa [PendingTable.register, Function.update_of_ne hid] using hresponse

theorem carries_of_failAll {a : α} {error : E} {id : ℕ} {response : ℕ × M}
    (hc : (t.failAll a error).Carries id response) : t.Carries id response := by
  refine hc.imp_right fun ⟨b, hb⟩ => ⟨b, ?_⟩
  by_cases hba : b = a
  · subst hba
    simp [PendingTable.failAll] at hb
  · simpa [PendingTable.failAll, Function.update_of_ne hba] using hb

theorem carries_of_answer {a : α} {id id' : ℕ} {message : M} {response : ℕ × M}
    (hc : (t.answer a id message).Carries id' response) :
    id' = id ∧ response = (t.answers, message) ∨ t.Carries id' response := by
  rcases hc with hresponse | ⟨b, hb⟩
  · exact Or.inr (Or.inl hresponse)
  · by_cases hba : b = a
    · subst hba
      left
      simp only [answer, Function.update_self, PendingTask.responding.injEq] at hb
      exact ⟨hb.1.symm, hb.2.symm⟩
    · right
      refine Or.inr ⟨b, ?_⟩
      simpa [answer, Function.update_of_ne hba] using hb

omit [DecidableEq α] in
theorem response_settle (id id' : ℕ) : (t.settle id' id).response = (t.requests id).response := by
  unfold settle
  by_cases hid : id = id'
  · subst hid
    simp
  · rw [Function.update_of_ne hid]

/-- A step gives no answer that was not on its way. -/
theorem carries_of_work {a : α} {id : ℕ} {response : ℕ × M} (hc : (t.work a).Carries id response) :
    t.Carries id response := by
  have hother : ∀ b, b ≠ a → (t.work a).tasks b = .responding id response → t.Carries id response :=
    fun b hba hb => Or.inr ⟨b, tasks_work_of_ne hba ▸ hb⟩
  rcases hc with hresponse | ⟨b, hb⟩
  · unfold work at hresponse
    split at hresponse <;> rename_i htask
    · exact Or.inl hresponse
    · rename_i id' response'
      by_cases hid : id = id'
      · subst hid
        simp only [Function.update_self, Option.some.injEq] at hresponse
        exact Or.inr ⟨a, hresponse ▸ htask⟩
      · left
        simpa [Function.update_of_ne hid] using hresponse
    · exact Or.inl (response_settle id _ ▸ hresponse)
    · exact Or.inl hresponse
    · rename_i id' _
      left
      by_cases hid : id = id'
      · subst hid
        simpa using hresponse
      · simpa [Function.update_of_ne hid] using hresponse
    · exact Or.inl (response_settle id _ ▸ hresponse)
  · by_cases hba : b = a
    · subst hba
      unfold work at hb
      split at hb <;> rename_i htask
      · exact Or.inr ⟨b, hb⟩
      all_goals simp at hb
    · exact hother b hba hb

/-! ## Failures -/

/-- Somebody fails the request, or has failed it. -/
def Doomed (t : PendingTable α M E) (id : ℕ) : Prop :=
  (∃ a, (t.tasks a).Fails id) ∨ (t.requests id).error ≠ none

omit [DecidableEq α] in
theorem error_settle (id id' : ℕ) : (t.settle id' id).error = (t.requests id).error := by
  unfold settle
  by_cases hid : id = id'
  · subst hid
    simp
  · rw [Function.update_of_ne hid]

/-- A step fails no request that was not about to fail. -/
theorem doomed_of_work {a : α} {id : ℕ} (h : (t.work a).Doomed id) : t.Doomed id := by
  have hstays : ∀ b, b ≠ a → ((t.work a).tasks b).Fails id → t.Doomed id := by
    intro b hba hb
    rw [tasks_work_of_ne hba] at hb
    exact Or.inl ⟨b, hb⟩
  rcases h with ⟨b, hb⟩ | herror
  · by_cases hba : b = a
    · subst hba
      unfold work at hb
      split at hb <;> rename_i htask
      · exact Or.inl ⟨b, hb⟩
      · simp [PendingTask.Fails] at hb
      · simp [PendingTask.Fails] at hb
      · simp [PendingTask.Fails] at hb
      · refine Or.inl ⟨b, ?_⟩
        rw [htask]
        simpa [PendingTask.Fails] using hb
      · refine Or.inl ⟨b, ?_⟩
        rw [htask]
        refine List.mem_cons_of_mem _ ?_
        simpa [PendingTask.Fails] using hb
    · exact hstays b hba hb
  · unfold work at herror
    split at herror <;> rename_i htask
    · exact Or.inr herror
    · rename_i id' _
      right
      by_cases hid : id = id'
      · subst hid
        simpa using herror
      · simpa [Function.update_of_ne hid] using herror
    · exact Or.inr (error_settle id _ ▸ herror)
    · exact Or.inr herror
    · rename_i id' _
      by_cases hid : id = id'
      · subst hid
        refine Or.inl ⟨a, ?_⟩
        rw [htask]
        exact List.mem_cons_self
      · right
        simpa [Function.update_of_ne hid] using herror
    · exact Or.inr (error_settle id _ ▸ herror)

end PendingTable
