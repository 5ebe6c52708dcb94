import Mathlib.Data.List.GetD
import Mathlib.Order.Interval.Set.Basic
import MotionServer.Lib.Runs

/-!
# Liveness under weak fairness

Actors take steps in any order. An actor that is ready from some time on takes a step at some later
time: no more is asked of a scheduler.

* `Schedule`: a step function, the actor that takes a step, and the actors that wait for nobody;
* `FairRun`: a run without an end in which no actor stays ready for ever without a step;
* `FairRun.LeadsTo`: whenever the one holds, the other holds then or later;
* **`FairRun.leadsTo_of_ensures`, `FairRun.leadsTo_of_rank`**: one step of a ready actor, and any
  number of them by a rank;
* `FairRun.ofQuiet`: a run to a state without ready actors, continued by standing still.
-/

/-- Actors that take steps. An event that can not happen in a state leaves it as it is. -/
structure Schedule (σ ε α : Type) where
  step : σ → ε → σ
  Happens : σ → ε → Prop
  actor : ε → Option α
  Ready : σ → α → Prop

variable {σ ε α : Type} {S : Schedule σ ε α} {s₀ : σ}

/-- A run without an end that starts in `s₀` and in which no actor stays ready for ever without
taking a step. -/
structure FairRun (S : Schedule σ ε α) (s₀ : σ) where
  state : ℕ → σ
  event : ℕ → ε
  start : state 0 = s₀
  next : ∀ i, state (i + 1) = S.step (state i) (event i)
  fair : ∀ a i, (∀ j, i ≤ j → S.Ready (state j) a) →
    ∃ j, i ≤ j ∧ S.Happens (state j) (event j) ∧ S.actor (event j) = some a

namespace FairRun

variable (r : FairRun S s₀) {P Q R I : σ → Prop}

/-- A later state of the run, by the events in between. -/
theorem exists_run {i j : ℕ} (hij : i ≤ j) :
    ∃ events, r.state j = Runs.run S.step (r.state i) events := by
  induction j, hij using Nat.le_induction with
  | base => exact ⟨[], rfl⟩
  | succ j hij ih =>
    obtain ⟨events, hevents⟩ := ih
    refine ⟨events ++ [r.event j], ?_⟩
    rw [r.next, hevents, Runs.run_append]
    rfl

/-- Each state of the run is reached by finitely many events. -/
theorem reached (i : ℕ) : ∃ events, r.state i = Runs.run S.step s₀ events := by
  obtain ⟨events, hevents⟩ := r.exists_run (Nat.zero_le i)
  exact ⟨events, by rw [hevents, r.start]⟩

/-- Whenever `P` holds, `Q` holds then or later. -/
def LeadsTo (P Q : σ → Prop) : Prop := ∀ i, P (r.state i) → ∃ j, i ≤ j ∧ Q (r.state j)

variable {r}

theorem LeadsTo.of_imp (h : ∀ s, P s → Q s) : r.LeadsTo P Q := fun i hi => ⟨i, le_rfl, h _ hi⟩

theorem LeadsTo.trans (hPQ : r.LeadsTo P Q) (hQR : r.LeadsTo Q R) : r.LeadsTo P R := by
  intro i hi
  obtain ⟨j, hij, hj⟩ := hPQ i hi
  obtain ⟨k, hjk, hk⟩ := hQR j hj
  exact ⟨k, hij.trans hjk, hk⟩

theorem LeadsTo.or (hP : r.LeadsTo P R) (hQ : r.LeadsTo Q R) :
    r.LeadsTo (fun s => P s ∨ Q s) R :=
  fun i hi => hi.elim (hP i) (hQ i)

theorem LeadsTo.exists {ι : Type} {P : ι → σ → Prop} (h : ∀ x, r.LeadsTo (P x) Q) :
    r.LeadsTo (fun s => ∃ x, P x s) Q := by
  rintro i ⟨x, hx⟩
  exact h x i hx

/-- **One step of a ready actor.** `P` stays until `Q` holds, the actor is ready as long as it does,
and its step makes `Q` hold. What holds in all states of the run may be used. -/
theorem leadsTo_of_ensures (a : α) (hI : ∀ i, I (r.state i))
    (hkeep : ∀ s e, I s → P s → P (S.step s e) ∨ Q (S.step s e))
    (hready : ∀ s, I s → P s → S.Ready s a)
    (hact : ∀ s e, I s → P s → S.Happens s e → S.actor e = some a → Q (S.step s e)) :
    r.LeadsTo P Q := by
  intro i hi
  by_contra hnever
  push Not at hnever
  have hstays : ∀ j, i ≤ j → P (r.state j) := by
    intro j hij
    induction j, hij using Nat.le_induction with
    | base => exact hi
    | succ j hij ih =>
      have hnot := hnever (j + 1) (by omega)
      rw [r.next] at hnot ⊢
      exact (hkeep _ _ (hI j) ih).resolve_right hnot
  obtain ⟨j, hij, hhappens, hactor⟩ := r.fair a i fun j hij => hready _ (hI j) (hstays j hij)
  apply hnever (j + 1) (by omega)
  rw [r.next]
  exact hact _ _ (hI j) (hstays j hij) hhappens hactor

/-- **Any number of steps.** A rank goes down until `Q` holds. -/
theorem leadsTo_of_rank (rank : σ → ℕ)
    (hdown : ∀ k, r.LeadsTo (fun s => P s ∧ rank s = k) fun s => P s ∧ rank s < k ∨ Q s) :
    r.LeadsTo P Q := by
  have hrank : ∀ k i, rank (r.state i) = k → P (r.state i) → ∃ j, i ≤ j ∧ Q (r.state j) := by
    intro k
    induction k using Nat.strong_induction_on with
    | _ k ih =>
      intro i hk hP
      obtain ⟨j, hij, ⟨hP', hless⟩ | hQ⟩ := hdown k i ⟨hP, hk⟩
      · obtain ⟨l, hjl, hQ⟩ := ih _ hless j rfl hP'
        exact ⟨l, hij.trans hjl, hQ⟩
      · exact ⟨j, hij, hQ⟩
  exact fun i hP => hrank _ i rfl hP

/-- A run to a state in which no actor is ready, continued by an event that changes nothing. -/
def ofQuiet (S : Schedule σ ε α) (s₀ : σ) (events : List ε) (idle : ε)
    (hidle : S.step (Runs.run S.step s₀ events) idle = Runs.run S.step s₀ events)
    (hquiet : ∀ a, ¬ S.Ready (Runs.run S.step s₀ events) a) : FairRun S s₀ where
  state i := Runs.run S.step s₀ (events.take i)
  event i := events.getD i idle
  start := by rw [List.take_zero, Runs.run_nil]
  next i := by
    by_cases hi : i < events.length
    · rw [List.take_add_one, List.getElem?_eq_getElem hi, List.getD_eq_getElem _ _ hi,
        Runs.run_append]
      rfl
    · rw [List.take_of_length_le (by omega), List.take_of_length_le (by omega),
        List.getD_eq_default _ _ (by omega), hidle]
  fair a i h := by
    have hready := h (max i events.length) (le_max_left _ _)
    rw [List.take_of_length_le (le_max_right _ _)] at hready
    exact absurd hready (hquiet a)

end FairRun
