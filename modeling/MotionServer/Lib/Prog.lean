import Mathlib.Data.Nat.Notation
import Mathlib.Tactic.Common

/-!
# Programs with a state and exceptions

A program of type `Prog ε σ α` turns a state into a state and either a value or a raised exception.
A raised exception keeps the writes made before it, as in an imperative language.

* `Prog`, its monad, `throw`, `tryCatch`, `Prog.get`, `Prog.modify`, `Prog.lift`, `Prog.raiseIf`,
  `Prog.repeatN`;
* `Frame`: a preorder on states; **`Keeps F m`**: every run of `m` moves the state along `F`;
* **`Triple P m Q E`**: from `P`, a value ends in `Q` and an exception in `E`;
* the rules for `pure`, `bind`, `throw`, `tryCatch`, conditionals and loops;
* **`run_invariant`**, `run_invariant_ok`: what every step keeps holds at the end of a run.
-/

/-- A program over the state `σ` that may raise an `ε`. -/
def Prog (ε σ α : Type) : Type := σ → Except ε α × σ

namespace Prog

variable {ε σ α β : Type}

/-- Continue with `f` after a value; an exception skips `f`. -/
def bind (m : Prog ε σ α) (f : α → Prog ε σ β) : Prog ε σ β := fun s =>
  match m s with
  | (.ok a, s') => f a s'
  | (.error e, s') => (.error e, s')

instance : Monad (Prog ε σ) where
  pure a := fun s => (.ok a, s)
  bind := bind

theorem id_map_run (m : Prog ε σ α) : bind m (fun a => pure (id a)) = m := by
  funext s
  unfold bind
  cases m s with
  | mk r s' => cases r <;> rfl

theorem bind_bind {γ : Type} (m : Prog ε σ α) (f : α → Prog ε σ β) (g : β → Prog ε σ γ) :
    bind (bind m f) g = bind m fun a => bind (f a) g := by
  funext s
  unfold bind
  cases m s with
  | mk r s' => cases r <;> rfl

instance : LawfulMonad (Prog ε σ) :=
  LawfulMonad.mk' _ id_map_run (fun _ _ => rfl) bind_bind

instance : MonadExceptOf ε (Prog ε σ) where
  throw e := fun s => (.error e, s)
  tryCatch m h := fun s =>
    match m s with
    | (.ok a, s') => (.ok a, s')
    | (.error e, s') => h e s'

/-- Read the state. -/
def get : Prog ε σ σ := fun s => (.ok s, s)

/-- Write the state. -/
def modify (f : σ → σ) : Prog ε σ Unit := fun s => (.ok (), f s)

/-- A computation that does not touch the state. -/
def lift (x : Except ε α) : Prog ε σ α := fun s => (x, s)

/-- Run `m` when `c` holds. -/
def onlyIf (c : Prop) [Decidable c] (m : Prog ε σ Unit) : Prog ε σ Unit := if c then m else pure ()

/-- Raise `e` when `c` holds. -/
def raiseIf (c : Prop) [Decidable c] (e : ε) : Prog ε σ Unit := onlyIf c (throw e)

/-- Run `m` `n` times. -/
def repeatN (m : Prog ε σ Unit) : ℕ → Prog ε σ Unit
  | 0 => pure ()
  | n + 1 => do m; repeatN m n

@[simp] theorem pure_run (a : α) (s : σ) : (pure a : Prog ε σ α) s = (.ok a, s) := rfl

theorem bind_run (m : Prog ε σ α) (f : α → Prog ε σ β) (s : σ) : (m >>= f) s =
    match m s with
    | (.ok a, s') => f a s'
    | (.error e, s') => (.error e, s') := rfl

theorem run_eta {m : Prog ε σ α} {s : σ} {r : Except ε α} (h : (m s).1 = r) : m s = (r, (m s).2) := by
  rw [← h]

theorem bind_run_ok {m : Prog ε σ α} {f : α → Prog ε σ β} {s s' : σ} {a : α}
    (h : m s = (.ok a, s')) : (m >>= f) s = f a s' := by
  rw [bind_run, h]

theorem bind_run_error {m : Prog ε σ α} {f : α → Prog ε σ β} {s s' : σ} {e : ε}
    (h : m s = (.error e, s')) : (m >>= f) s = (.error e, s') := by
  rw [bind_run, h]

theorem bind_eq_ok {m : Prog ε σ α} {f : α → Prog ε σ β} {s s' : σ} {b : β} :
    (m >>= f) s = (.ok b, s') ↔ ∃ a s₁, m s = (.ok a, s₁) ∧ f a s₁ = (.ok b, s') := by
  constructor
  · intro h
    rw [bind_run] at h
    cases hm : m s with
    | mk r s₁ =>
      rw [hm] at h
      cases r with
      | ok a => exact ⟨a, s₁, rfl, h⟩
      | error e => cases h
  · rintro ⟨a, s₁, hm, hf⟩
    rw [bind_run_ok hm, hf]

@[simp] theorem throw_run (e : ε) (s : σ) : (throw e : Prog ε σ α) s = (.error e, s) := rfl

theorem tryCatch_run (m : Prog ε σ α) (h : ε → Prog ε σ α) (s : σ) : (tryCatch m h) s =
    match m s with
    | (.ok a, s') => (.ok a, s')
    | (.error e, s') => h e s' := rfl

/-- What a handler that always raises lets through has succeeded before. -/
theorem tryCatch_eq_ok {m : Prog ε σ α} {h : ε → Prog ε σ α} {s s' : σ} {a : α}
    (hh : ∀ e s₁, h e s₁ ≠ (.ok a, s')) : tryCatch m h s = (.ok a, s') ↔ m s = (.ok a, s') := by
  rw [tryCatch_run]
  cases m s with
  | mk r s₁ =>
    cases r with
    | ok b => exact Iff.rfl
    | error e =>
      refine ⟨fun hrun => absurd hrun (hh e s₁), fun hrun => ?_⟩
      cases hrun

theorem bind_throw_ne_ok {m : Prog ε σ α} {e : ε} {s s' : σ} {b : β} :
    (m >>= fun _ => throw e) s ≠ (.ok b, s') := by
  intro h
  obtain ⟨a, s₁, -, hthrow⟩ := bind_eq_ok.mp h
  cases hthrow

/-- A handler that only raises changes nothing. -/
theorem tryCatch_throw_state (m : Prog ε σ α) (f : ε → ε) (s : σ) :
    ((tryCatch m fun e => throw (f e)) s).2 = (m s).2 := by
  rw [tryCatch_run]
  cases m s with
  | mk r s' => cases r <;> rfl

@[simp] theorem get_run (s : σ) : (get : Prog ε σ σ) s = (.ok s, s) := rfl

@[simp] theorem modify_run (f : σ → σ) (s : σ) : (modify f : Prog ε σ Unit) s = (.ok (), f s) := rfl

@[simp] theorem lift_run (x : Except ε α) (s : σ) : (lift x : Prog ε σ α) s = (x, s) := rfl

theorem raiseIf_run (c : Prop) [Decidable c] (e : ε) (s : σ) :
    (raiseIf c e : Prog ε σ Unit) s = (if c then .error e else .ok (), s) := by
  unfold raiseIf onlyIf
  split_ifs <;> rfl

theorem raiseIf_eq_ok {c : Prop} [Decidable c] {e : ε} {s s' : σ} {u : Unit} :
    raiseIf c e s = (.ok u, s') ↔ ¬ c ∧ s' = s := by
  rw [raiseIf_run]
  by_cases hc : c
  · rw [if_pos hc]
    exact ⟨(fun h => nomatch h), fun h => absurd hc h.1⟩
  · rw [if_neg hc]
    constructor
    · rintro ⟨⟩
      exact ⟨hc, rfl⟩
    · rintro ⟨-, rfl⟩
      rfl

theorem lift_eq_ok {x : Except ε α} {s s' : σ} {a : α} :
    (lift x : Prog ε σ α) s = (.ok a, s') ↔ x = .ok a ∧ s' = s := by
  rw [lift_run, Prod.mk.injEq, eq_comm (a := s)]

theorem onlyIf_run {c : Prop} [Decidable c] (hc : c) (m : Prog ε σ Unit) (s : σ) :
    onlyIf c m s = m s := by
  rw [onlyIf, if_pos hc]

theorem onlyIf_run_of_not {c : Prop} [Decidable c] (hc : ¬ c) (m : Prog ε σ Unit) (s : σ) :
    onlyIf c m s = (.ok (), s) := by
  rw [onlyIf, if_neg hc]
  rfl

/-- A loop ends with the first element that raises. -/
theorem forM_run_error {l l' : List α} {a : α} {f : α → Prog ε σ PUnit} {s s₁ s₂ : σ} {e : ε}
    (hl : l.forM f s = (.ok ⟨⟩, s₁)) (ha : f a s₁ = (.error e, s₂)) :
    (l ++ a :: l').forM f s = (.error e, s₂) := by
  induction l generalizing s with
  | nil =>
    cases hl
    exact bind_run_error ha
  | cons b l ih =>
    obtain ⟨_, s', hb, hl⟩ := bind_eq_ok.mp hl
    exact (bind_run_ok hb).trans (ih hl)

theorem repeatN_succ (m : Prog ε σ Unit) (n : ℕ) : repeatN m (n + 1) = (do m; repeatN m n) := rfl

/-! ## Frames -/

/-- A preorder on states: what a run may do to the state. -/
structure Frame (σ : Type) where
  Rel : σ → σ → Prop
  refl : ∀ s, Rel s s
  trans : ∀ s₁ s₂ s₃, Rel s₁ s₂ → Rel s₂ s₃ → Rel s₁ s₃

/-- The frame of an invariant. -/
def Frame.ofInv (P : σ → Prop) : Frame σ where
  Rel s s' := P s → P s'
  refl _ h := h
  trans _ _ _ h₁ h₂ h := h₂ (h₁ h)

/-- The frame of a part of the state that stays as it is. -/
def Frame.eqOn (f : σ → α) : Frame σ where
  Rel s s' := f s' = f s
  refl _ := rfl
  trans _ _ _ h₁ h₂ := h₂.trans h₁

/-- **Every run of `m` moves the state along `F`**, whether it ends in a value or an exception. -/
def Keeps (F : Frame σ) (m : Prog ε σ α) : Prop := ∀ s, F.Rel s (m s).2

section Keeps

variable {F : Frame σ} {m : Prog ε σ α} {f : α → Prog ε σ β}

theorem Keeps.pure (a : α) : Keeps F (pure a : Prog ε σ α) := fun s => F.refl s

theorem Keeps.throw (e : ε) : Keeps F (throw e : Prog ε σ α) := fun s => F.refl s

theorem Keeps.get : Keeps F (get : Prog ε σ σ) := fun s => F.refl s

theorem Keeps.lift (x : Except ε α) : Keeps F (lift x : Prog ε σ α) := fun s => F.refl s

theorem Keeps.modify {g : σ → σ} (h : ∀ s, F.Rel s (g s)) : Keeps F (modify g : Prog ε σ Unit) := h

theorem Keeps.bind (hm : Keeps F m) (hf : ∀ a, Keeps F (f a)) : Keeps F (m >>= f) := fun s => by
  have h₁ := hm s
  rw [bind_run]
  cases h : m s with
  | mk r s' =>
    rw [h] at h₁
    cases r with
    | ok a => exact F.trans _ _ _ h₁ (hf a s')
    | error e => exact h₁

theorem Keeps.seq {m' : Prog ε σ β} (hm : Keeps F m) (hm' : Keeps F m') :
    Keeps F (m >>= fun _ => m') :=
  hm.bind fun _ => hm'

/-- The state read first decides what is run: the rest is checked in that state only. -/
theorem keeps_get_bind {f : σ → Prog ε σ α} (h : ∀ s, F.Rel s (f s s).2) :
    Keeps F (Prog.get >>= f) := h

/-- A computation on values that raises runs nothing after it. -/
theorem Keeps.lift_bind {x : Except ε α} (h : ∀ a, x = .ok a → Keeps F (f a)) :
    Keeps F (Prog.lift x >>= f) := fun s => by
  rw [bind_run, Prog.lift_run]
  cases x with
  | ok a => exact h a rfl s
  | error e => exact F.refl s

theorem Keeps.tryCatch {h : ε → Prog ε σ α} (hm : Keeps F m) (hh : ∀ e, Keeps F (h e)) :
    Keeps F (tryCatch m h) := fun s => by
  have h₁ := hm s
  rw [tryCatch_run]
  cases hr : m s with
  | mk r s' =>
    rw [hr] at h₁
    cases r with
    | ok a => exact h₁
    | error e => exact F.trans _ _ _ h₁ (hh e s')

theorem Keeps.ite {c : Prop} [Decidable c] {m' : Prog ε σ α} (hm : Keeps F m) (hm' : Keeps F m') :
    Keeps F (if c then m else m') := by
  split_ifs
  · exact hm
  · exact hm'

theorem Keeps.onlyIf {c : Prop} [Decidable c] {m : Prog ε σ Unit} (hm : Keeps F m) :
    Keeps F (onlyIf c m) :=
  hm.ite (Keeps.pure ())

theorem Keeps.raiseIf {c : Prop} [Decidable c] (e : ε) : Keeps F (raiseIf c e : Prog ε σ Unit) :=
  (Keeps.throw e).onlyIf

theorem Keeps.forM {l : List β} {g : β → Prog ε σ PUnit} (h : ∀ b ∈ l, Keeps F (g b)) :
    Keeps F (l.forM g) := by
  induction l with
  | nil => exact Keeps.pure _
  | cons b l ih =>
    exact (h b List.mem_cons_self).seq (ih fun b' hb' => h b' (List.mem_cons_of_mem _ hb'))

theorem Keeps.mapM {γ : Type} {l : List β} {g : β → Prog ε σ γ} (h : ∀ b ∈ l, Keeps F (g b)) :
    Keeps F (l.mapM g) := by
  induction l with
  | nil => exact Keeps.pure _
  | cons b l ih =>
    rw [List.mapM_cons]
    exact (h b List.mem_cons_self).bind fun _ =>
      (ih fun b' hb' => h b' (List.mem_cons_of_mem _ hb')).bind fun _ => Keeps.pure _

theorem Keeps.repeatN {m : Prog ε σ Unit} (h : Keeps F m) : ∀ n, Keeps F (m.repeatN n)
  | 0 => Keeps.pure _
  | n + 1 => h.seq (Keeps.repeatN h n)

/-- A finer frame implies a coarser one. -/
theorem Keeps.mono {F' : Frame σ} (h : Keeps F m) (hF : ∀ s s', F.Rel s s' → F'.Rel s s') :
    Keeps F' m := fun s => hF _ _ (h s)

end Keeps

/-! ## Triples -/

/-- **From `P`, a value of `m` ends in `Q` and an exception in `E`.** -/
def Triple (P : σ → Prop) (m : Prog ε σ α) (Q : α → σ → Prop) (E : ε → σ → Prop) : Prop :=
  ∀ s, P s → match m s with
    | (.ok a, s') => Q a s'
    | (.error e, s') => E e s'

section Triple

variable {P P' : σ → Prop} {m : Prog ε σ α} {Q Q' : α → σ → Prop} {E E' : ε → σ → Prop}

theorem Triple.pure (a : α) (h : ∀ s, P s → Q a s) : Triple P (pure a : Prog ε σ α) Q E :=
  fun s hs => h s hs

theorem Triple.throw (e : ε) (h : ∀ s, P s → E e s) : Triple P (throw e : Prog ε σ α) Q E :=
  fun s hs => h s hs

theorem Triple.modify {g : σ → σ} {Q : Unit → σ → Prop} (h : ∀ s, P s → Q () (g s)) :
    Triple P (modify g : Prog ε σ Unit) Q E := fun s hs => h s hs

/-- What holds where the program raises nothing. -/
theorem Triple.of_ok (h : ∀ s a s', P s → m s = (.ok a, s') → Q a s') :
    Triple P m Q fun _ _ => True := fun s hs => by
  cases hr : m s with
  | mk r s' =>
    cases r with
    | ok a => exact h s a s' hs hr
    | error e => trivial

/-- The state read first decides what is run. -/
theorem Triple.get_bind {f : σ → Prog ε σ α} (h : ∀ s, P s → Triple (· = s) (f s) Q E) :
    Triple P (Prog.get >>= f) Q E := fun s hs => h s hs s rfl

theorem Triple.lift (x : Except ε α) (hQ : ∀ a s, x = .ok a → P s → Q a s)
    (hE : ∀ e s, x = .error e → P s → E e s) : Triple P (lift x : Prog ε σ α) Q E :=
  fun s hs => by
    cases x with
    | ok a => exact hQ a s rfl hs
    | error e => exact hE e s rfl hs

theorem Triple.onlyIf {c : Prop} [Decidable c] {m : Prog ε σ Unit} {Q : Unit → σ → Prop}
    (hm : c → Triple P m Q E) (h : ¬ c → ∀ s, P s → Q () s) : Triple P (onlyIf c m) Q E := by
  unfold Prog.onlyIf
  split_ifs with hc
  · exact hm hc
  · exact Triple.pure () (h hc)

theorem Triple.bind {f : α → Prog ε σ β} {R : β → σ → Prop} (hm : Triple P m Q E)
    (hf : ∀ a, Triple (Q a) (f a) R E) : Triple P (m >>= f) R E := fun s hs => by
  have h₁ := hm s hs
  rw [bind_run]
  cases h : m s with
  | mk r s' =>
    rw [h] at h₁
    cases r with
    | ok a => exact hf a s' h₁
    | error e => exact h₁

theorem Triple.forM {l : List β} {g : β → Prog ε σ PUnit}
    (h : ∀ b ∈ l, Triple P (g b) (fun _ => P) E) : Triple P (l.forM g) (fun _ => P) E := by
  induction l with
  | nil => exact Triple.pure _ fun _ hs => hs
  | cons b l ih =>
    exact (h b List.mem_cons_self).bind fun _ => ih fun b' hb' => h b' (List.mem_cons_of_mem _ hb')

/-- A loop whose passes each establish a property of their element, and keep those of the others,
establishes it for all elements. -/
theorem Triple.forM_mem {l : List β} {g : β → Prog ε σ PUnit} {R : β → σ → Prop}
    (hself : ∀ b ∈ l, Triple P (g b) (fun _ s => P s ∧ R b s) E)
    (hkeep : ∀ b ∈ l, ∀ b', Keeps (Frame.ofInv (R b')) (g b)) :
    Triple P (l.forM g) (fun _ s => P s ∧ ∀ b ∈ l, R b s) E := by
  induction l with
  | nil => exact Triple.pure _ fun s hs => ⟨hs, fun _ hb => absurd hb List.not_mem_nil⟩
  | cons b l ih =>
    have hrest := ih (fun b' hb' => hself b' (List.mem_cons_of_mem _ hb'))
      fun b' hb' => hkeep b' (List.mem_cons_of_mem _ hb')
    refine (hself b List.mem_cons_self).bind fun _ s hs => ?_
    have hkept : Keeps (Frame.ofInv (R b)) (l.forM g) :=
      Keeps.forM fun b' hb' => hkeep b' (List.mem_cons_of_mem _ hb') b
    have h₁ := hrest s hs.1
    have h₂ := hkept s hs.2
    cases hr : l.forM g s with
    | mk r s' =>
      rw [hr] at h₁ h₂
      cases r with
      | ok u =>
        refine ⟨h₁.1, fun b' hb' => ?_⟩
        rcases List.mem_cons.mp hb' with rfl | hb'
        · exact h₂
        · exact h₁.2 b' hb'
      | error e => exact h₁

theorem Triple.tryCatch {h : ε → Prog ε σ α} (hm : Triple P m Q E)
    (hh : ∀ e, Triple (E e) (h e) Q E') : Triple P (tryCatch m h) Q E' := fun s hs => by
  have h₁ := hm s hs
  rw [tryCatch_run]
  cases hr : m s with
  | mk r s' =>
    rw [hr] at h₁
    cases r with
    | ok a => exact h₁
    | error e => exact hh e s' h₁

theorem Triple.conseq (h : Triple P' m Q' E') (hP : ∀ s, P s → P' s) (hQ : ∀ a s, Q' a s → Q a s)
    (hE : ∀ e s, E' e s → E e s) : Triple P m Q E := fun s hs => by
  have h₁ := h s (hP s hs)
  cases hr : m s with
  | mk r s' =>
    rw [hr] at h₁
    cases r with
    | ok a => exact hQ a s' h₁
    | error e => exact hE e s' h₁

/-- The state a triple ends in, where both ends agree. -/
theorem Triple.state {R : σ → Prop} (h : Triple P m (fun _ => R) (fun _ => R)) {s : σ} (hs : P s) :
    R (m s).2 := by
  have h₁ := h s hs
  cases hr : m s with
  | mk r s' =>
    rw [hr] at h₁
    cases r with
    | ok a => exact h₁
    | error e => exact h₁

/-- A program that never ends with a value raises. -/
theorem Triple.raises (h : Triple P m (fun _ _ => False) E) {s : σ} (hs : P s) :
    ∃ e s', m s = (.error e, s') ∧ E e s' := by
  have h₁ := h s hs
  cases hr : m s with
  | mk r s' =>
    rw [hr] at h₁
    cases r with
    | ok a => exact h₁.elim
    | error e => exact ⟨e, s', rfl, h₁⟩

/-- An invariant kept by every run is a triple. -/
theorem Keeps.triple (h : Keeps (Frame.ofInv P) m) :
    Triple P m (fun _ s => P s) (fun _ s => P s) := fun s hs => by
  have h₁ := h s hs
  cases hr : m s with
  | mk r s' =>
    rw [hr] at h₁
    cases r with
    | ok a => exact h₁
    | error e => exact h₁

theorem Triple.keeps (h : Triple P m (fun _ s => P s) (fun _ s => P s)) :
    Keeps (Frame.ofInv P) m := fun s hs => by
  have h₁ := h s hs
  cases hr : m s with
  | mk r s' =>
    rw [hr] at h₁
    cases r with
    | ok a => exact h₁
    | error e => exact h₁

end Triple

/-! ## Runs of steps -/

section Steps

variable {τ : Type} (step : τ → Prog ε σ Unit) (cond : σ → τ → Prop)

/-- Every step of the run meets the condition in the state it is taken in. -/
def AlongRun : List τ → σ → Prop
  | [], _ => True
  | e :: events, s => cond s e ∧ ∀ s', step e s = (.ok (), s') → AlongRun events s'

theorem alongRun_true (events : List τ) (s : σ) : AlongRun step (fun _ _ => True) events s := by
  induction events generalizing s with
  | nil => trivial
  | cons e events ih => exact ⟨trivial, fun s' _ => ih s'⟩

theorem alongRun_of_forall {events : List τ} (h : ∀ e ∈ events, ∀ s, cond s e) (s : σ) :
    AlongRun step cond events s := by
  induction events generalizing s with
  | nil => trivial
  | cons e events ih =>
    refine ⟨h e List.mem_cons_self s, fun s' _ => ih (fun e' he' => ?_) s'⟩
    exact h e' (List.mem_cons_of_mem e he')

/-- **What every step keeps where the condition is met holds at the end of the run**, also of a run
that an exception ends. -/
theorem run_invariant {I : σ → Prop} (hstep : ∀ s e, I s → cond s e → I (step e s).2)
    (events : List τ) {s : σ} (hs : I s) (hrun : AlongRun step cond events s) :
    I (events.forM step s).2 := by
  induction events generalizing s with
  | nil => exact hs
  | cons e events ih =>
    have h₁ := hstep s e hs hrun.1
    change I ((step e >>= fun _ => events.forM step) s).2
    rw [bind_run]
    cases hr : step e s with
    | mk r s' =>
      rw [hr] at h₁
      cases r with
      | ok a => exact ih h₁ (hrun.2 s' hr)
      | error e => exact h₁

/-- What every step that succeeds keeps holds at the end of a run that no exception ends. -/
theorem run_invariant_ok {I : σ → Prop}
    (hstep : ∀ s e s', I s → cond s e → step e s = (.ok (), s') → I s') (events : List τ) {s s' : σ}
    (hs : I s) (hrun : AlongRun step cond events s) (h : events.forM step s = (.ok (), s')) : I s' := by
  induction events generalizing s with
  | nil =>
    cases h
    exact hs
  | cons e events ih =>
    change (step e >>= fun _ => events.forM step) s = _ at h
    rw [bind_run] at h
    cases hr : step e s with
    | mk r s₁ =>
      rw [hr] at h
      cases r with
      | ok u => exact ih (hstep s e s₁ hs hrun.1 hr) (hrun.2 s₁ hr) h
      | error e => cases h

end Steps

end Prog
