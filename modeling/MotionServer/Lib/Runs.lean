import Mathlib.Data.List.Basic
import Mathlib.Tactic.Common

/-!
# Runs

A system takes one event after the other.

* `Runs.run`: the state after a list of events;
* `Runs.Allowed`: each event comes in a state that allows it;
* **`Runs.invariant_of_allowed`**: what every allowed step keeps holds at the end of an allowed run.
-/

namespace Runs

variable {σ ε : Type} (step : σ → ε → σ)

/-- The state after the events. -/
def run (s : σ) (events : List ε) : σ := events.foldl step s

@[simp] theorem run_nil (s : σ) : run step s [] = s := rfl

@[simp] theorem run_cons (s : σ) (e : ε) (events : List ε) :
    run step s (e :: events) = run step (step s e) events := rfl

@[simp] theorem run_append (s : σ) (events events' : List ε) :
    run step s (events ++ events') = run step (run step s events) events' :=
  List.foldl_append

/-- Each event comes in a state that allows it. -/
def Allowed (allowed : σ → ε → Prop) : σ → List ε → Prop
  | _, [] => True
  | s, e :: events => allowed s e ∧ Allowed allowed (step s e) events

instance decidableAllowed (allowed : σ → ε → Prop) [∀ s e, Decidable (allowed s e)] :
    ∀ (s : σ) (events : List ε), Decidable (Allowed step allowed s events)
  | _, [] => inferInstanceAs (Decidable True)
  | s, e :: events =>
    have := decidableAllowed allowed (step s e) events
    inferInstanceAs (Decidable (allowed s e ∧ Allowed step allowed (step s e) events))

variable {step}

@[simp] theorem allowed_append {allowed : σ → ε → Prop} {s : σ} {events events' : List ε} :
    Allowed step allowed s (events ++ events') ↔
      Allowed step allowed s events ∧ Allowed step allowed (run step s events) events' := by
  induction events generalizing s with
  | nil => exact ⟨fun h => ⟨trivial, h⟩, fun h => h.2⟩
  | cons e events ih =>
    show (allowed s e ∧ Allowed step allowed (step s e) (events ++ events')) ↔ _
    rw [ih, ← and_assoc]
    rfl

/-- An allowed run, event by event. -/
theorem allowed_iff_forall {allowed : σ → ε → Prop} {s : σ} {events : List ε} :
    Allowed step allowed s events ↔
      ∀ before e after, events = before ++ e :: after → allowed (run step s before) e := by
  constructor
  · rintro h before e after rfl
    exact (allowed_append.mp h).2.1
  · intro h
    induction events generalizing s with
    | nil => trivial
    | cons e events ih =>
      refine ⟨h [] e events rfl, ih fun before e' after heq => ?_⟩
      exact h (e :: before) e' after (congrArg (e :: ·) heq)

/-- Two conditions on the steps agree on runs if they do wherever the invariant holds. -/
theorem allowed_congr {P : σ → Prop} {allowed allowed' : σ → ε → Prop}
    (hstep : ∀ s e, P s → P (step s e)) (hiff : ∀ s e, P s → (allowed s e ↔ allowed' s e)) {s : σ}
    (hs : P s) (events : List ε) :
    Allowed step allowed s events ↔ Allowed step allowed' s events := by
  induction events generalizing s with
  | nil => exact Iff.rfl
  | cons e events ih => exact and_congr (hiff s e hs) (ih (hstep s e hs))

/-- **What every allowed step keeps** holds at the end of an allowed run. -/
theorem invariant_of_allowed {P : σ → Prop} {allowed : σ → ε → Prop}
    (hstep : ∀ s e, P s → allowed s e → P (step s e)) {s : σ} (hs : P s) {events : List ε}
    (hevents : Allowed step allowed s events) : P (run step s events) := by
  induction events generalizing s with
  | nil => exact hs
  | cons e events ih => exact ih (hstep s e hs hevents.1) hevents.2

/-- What every step keeps holds at the end of a run. -/
theorem invariant {P : σ → Prop} (hstep : ∀ s e, P s → P (step s e)) {s : σ} (hs : P s)
    (events : List ε) : P (run step s events) := by
  induction events generalizing s with
  | nil => exact hs
  | cons e events ih => exact ih (hstep s e hs)

end Runs
