import MotionServer.Lib.Prog
import MotionServer.Lib.Runs

/-!
# Systems in lockstep

Two systems take the same events, and a relation between their states tells what they have in common.

* `Prog.Agree`, `Prog.Agree.bind`: programs with the same result in related states;
* `Prog.atIndex`: a program of one component, in a family of them;
* `Prog.trace`: the results of a list of events, and the state after it;
* `Prog.Lockstep`: each event that the first system allows has the same result in both, and keeps the
  relation;
* **`Prog.Lockstep.trace`**: systems in lockstep have the same results in every run.
-/

namespace Prog

variable {ε σ τ α β ι κ : Type}

/-! ## Programs that agree -/

/-- From the two states, both programs have the same result and lead to related states. -/
def AgreeAt (R : σ → τ → Prop) (m : Prog ε σ α) (m' : Prog ε τ α) (s : σ) (t : τ) : Prop :=
  (m s).1 = (m' t).1 ∧ R (m s).2 (m' t).2

/-- The programs agree in all related states. -/
def Agree (R : σ → τ → Prop) (m : Prog ε σ α) (m' : Prog ε τ α) : Prop :=
  ∀ s t, R s t → AgreeAt R m m' s t

section Agree

variable {R : σ → τ → Prop} {m : Prog ε σ α} {m' : Prog ε τ α}

theorem Agree.pure (a : α) : Agree R (Pure.pure a : Prog ε σ α) (Pure.pure a) :=
  fun _ _ h => ⟨rfl, h⟩

theorem Agree.lift (x : Except ε α) : Agree R (lift x : Prog ε σ α) (lift x) :=
  fun _ _ h => ⟨rfl, h⟩

theorem AgreeAt.bind {f : α → Prog ε σ β} {f' : α → Prog ε τ β} {s : σ} {t : τ}
    (hm : AgreeAt R m m' s t) (hf : ∀ a, Agree R (f a) (f' a)) :
    AgreeAt R (m >>= f) (m' >>= f') s t := by
  obtain ⟨hresult, hrel⟩ := hm
  unfold AgreeAt
  rw [bind_run, bind_run]
  cases hs : m s with
  | mk r s' =>
    cases ht : m' t with
    | mk r' t' =>
      rw [hs, ht] at hresult hrel
      obtain rfl : r = r' := hresult
      cases r with
      | ok a => exact hf a s' t' hrel
      | error e => exact ⟨rfl, hrel⟩

theorem Agree.bind {f : α → Prog ε σ β} {f' : α → Prog ε τ β} (hm : Agree R m m')
    (hf : ∀ a, Agree R (f a) (f' a)) : Agree R (m >>= f) (m' >>= f') :=
  fun s t h => (hm s t h).bind hf

/-- What a pure computation makes is known to what follows. -/
theorem Agree.lift_bind {x : Except ε α} {f : α → Prog ε σ β} {f' : α → Prog ε τ β}
    (hf : ∀ a, x = .ok a → Agree R (f a) (f' a)) : Agree R (Prog.lift x >>= f) (Prog.lift x >>= f') := by
  cases x with
  | ok a => exact hf a rfl
  | error e => exact fun _ _ h => ⟨rfl, h⟩

/-- What follows depends on what came before through its end only. -/
theorem bind_run_congr {m m₁ : Prog ε σ α} {s s₁ : σ} (h : m s = m₁ s₁) (f : α → Prog ε σ β) :
    (m >>= f) s = (m₁ >>= f) s₁ := by rw [bind_run, bind_run, h]

/-- A handler that only raises another exception. -/
theorem tryCatch_throw_run (m : Prog ε σ α) (f : ε → ε) (s : σ) :
    (tryCatch m fun e => throw (f e)) s = ((m s).1.mapError f, (m s).2) := by
  rw [tryCatch_run]
  cases m s with
  | mk r s' => cases r <;> rfl

theorem Agree.map (f : α → β) (hm : Agree R m m') : Agree R (f <$> m) (f <$> m') := by
  rw [← bind_pure_comp, ← bind_pure_comp]
  exact hm.bind fun _ => Agree.pure _

/-- What follows knows that the condition does not hold. -/
theorem Agree.raiseIf_bind {c : Prop} [Decidable c] {e : ε} {f : Unit → Prog ε σ β}
    {f' : Unit → Prog ε τ β} (hf : ¬ c → Agree R (f ()) (f' ())) :
    Agree R (raiseIf c e >>= f) (raiseIf c e >>= f') := by
  intro s t h
  unfold AgreeAt
  rw [bind_run, bind_run, raiseIf_run, raiseIf_run]
  by_cases hc : c
  · rw [if_pos hc]
    exact ⟨rfl, h⟩
  · rw [if_neg hc]
    exact hf hc s t h

/-- The exceptions of both programs are translated alike. -/
theorem Agree.mapError (f : ε → ε) (hm : Agree R m m') :
    Agree R (tryCatch m fun e => throw (f e)) (tryCatch m' fun e => throw (f e)) := by
  intro s t h
  obtain ⟨hresult, hrel⟩ := hm s t h
  unfold AgreeAt
  rw [tryCatch_throw_run, tryCatch_throw_run]
  exact ⟨congrArg (Except.mapError f) hresult, hrel⟩

end Agree

/-! ## Families of components -/

section Families

variable [DecidableEq κ]

/-- The program of a component. -/
def atIndex (k : κ) (m : Prog ε σ α) : Prog ε (κ → σ) α := fun s =>
  ((m (s k)).1, Function.update s k (m (s k)).2)

/-- The components with an index in `P` are related. -/
def Related (P : κ → Prop) (R : κ → σ → τ → Prop) (s : κ → σ) (t : κ → τ) : Prop :=
  ∀ k, P k → R k (s k) (t k)

/-- **Programs that agree on a component agree on the family.** -/
theorem Agree.atIndex {P : κ → Prop} {R : κ → σ → τ → Prop} {k : κ} {m : Prog ε σ α}
    {m' : Prog ε τ α} (hk : P k) (h : Agree (R k) m m') :
    Agree (Related P R) (atIndex k m) (atIndex k m') := by
  intro s t hst
  obtain ⟨hresult, hrel⟩ := h (s k) (t k) (hst k hk)
  refine ⟨hresult, fun k' hk' => ?_⟩
  unfold Prog.atIndex
  dsimp only
  by_cases heq : k' = k
  · subst heq
    rw [Function.update_self, Function.update_self]
    exact hrel
  · rw [Function.update_of_ne heq, Function.update_of_ne heq]
    exact hst k' hk'

end Families

/-! ## Runs -/

/-- The results of the events, and the state after them. -/
def trace (step : ι → Prog ε σ α) : List ι → σ → List (Except ε α) × σ
  | [], s => ([], s)
  | event :: events, s =>
    ((step event s).1 :: (trace step events (step event s).2).1,
      (trace step events (step event s).2).2)

/-- The state after the events is that of the run. -/
theorem trace_snd (step : ι → Prog ε σ α) (events : List ι) (s : σ) :
    (trace step events s).2 = Runs.run (fun s event => (step event s).2) s events := by
  induction events generalizing s with
  | nil => rfl
  | cons event events ih => exact ih _

theorem trace_append_snd (step : ι → Prog ε σ α) (events events' : List ι) (s : σ) :
    (trace step (events ++ events') s).2 = (trace step events' (trace step events s).2).2 := by
  rw [trace_snd, trace_snd, trace_snd, Runs.run_append]

/-- An event that is allowed has the same result in related states, and leads to related states. -/
def Lockstep (R : σ → τ → Prop) (allowed : σ → ι → Prop) (step : ι → Prog ε σ α)
    (step' : ι → Prog ε τ α) : Prop :=
  ∀ event s t, R s t → allowed s event →
    (step event s).1 = (step' event t).1 ∧ R (step event s).2 (step' event t).2

/-- **Systems in lockstep have the same results** in every run whose events are allowed, and their
states stay related. -/
theorem Lockstep.trace {R : σ → τ → Prop} {allowed : σ → ι → Prop} {step : ι → Prog ε σ α}
    {step' : ι → Prog ε τ α} (h : Lockstep R allowed step step') {events : List ι} {s : σ} {t : τ}
    (hst : R s t) (hevents : Runs.Allowed (fun s event => (step event s).2) allowed s events) :
    (Prog.trace step events s).1 = (Prog.trace step' events t).1 ∧
      R (Prog.trace step events s).2 (Prog.trace step' events t).2 := by
  induction events generalizing s t with
  | nil => exact ⟨rfl, hst⟩
  | cons event events ih =>
    obtain ⟨hallowed, hrest⟩ := hevents
    obtain ⟨hresult, hrel⟩ := h event s t hst hallowed
    obtain ⟨hresults, hend⟩ := ih hrel hrest
    exact ⟨congrArg₂ List.cons hresult hresults, hend⟩

end Prog
