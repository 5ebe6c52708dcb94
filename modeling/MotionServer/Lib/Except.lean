import Mathlib.Data.List.Forall2
import Mathlib.Tactic.Common

/-!
# Computations that may fail

* `Except.bind_eq_ok`: a computation that succeeds succeeds in both steps;
* **`Except.mapM_eq_ok_iff`**: a computation along a list succeeds exactly when it does for each
  element;
* `Except.exists_foldlM`: the invariant of a run whose steps succeed;
* `Except.exists_of_mem_mapM`, `Except.getElem?_of_mapM`: each result comes from an element;
* `Except.exists_mem_zip_of_mapM`: along a list of pairs, the results stand at the first components;
* `Except.exists_of_toOption_map`: a known part of a result tells that there is one;
* `Except.OnlyFails`: the errors that a computation can end in.
-/

namespace Except

variable {ε α β : Type}

@[simp] theorem ok_bind (a : α) (f : α → Except ε β) : (.ok a >>= f : Except ε β) = f a := rfl

theorem bind_eq_ok {x : Except ε α} {f : α → Except ε β} {b : β} :
    x >>= f = .ok b ↔ ∃ a, x = .ok a ∧ f a = .ok b := by
  cases x with
  | error e => simp [bind, Except.bind]
  | ok a => simp [bind, Except.bind]

theorem map_eq_ok {x : Except ε α} {f : α → β} {b : β} :
    f <$> x = .ok b ↔ ∃ a, x = .ok a ∧ f a = b := by
  cases x with
  | error e => simp [Functor.map, Except.map]
  | ok a => simp [Functor.map, Except.map]

/-- **A list is mapped when each of its elements is.** -/
theorem mapM_eq_ok_iff {f : α → Except ε β} {l : List α} {l' : List β} :
    l.mapM f = .ok l' ↔ List.Forall₂ (fun a b => f a = .ok b) l l' := by
  induction l generalizing l' with
  | nil =>
    rw [List.mapM_nil, List.forall₂_nil_left_iff]
    exact ⟨fun h => (Except.ok.inj h).symm, fun h => h ▸ rfl⟩
  | cons a l ih =>
    rw [List.mapM_cons, bind_eq_ok, List.forall₂_cons_left_iff]
    refine exists_congr fun b => ?_
    rw [bind_eq_ok]
    constructor
    · rintro ⟨hb, l'', h, hl⟩
      exact ⟨l'', hb, ih.mp h, (Except.ok.inj hl).symm⟩
    · rintro ⟨l'', hb, h, rfl⟩
      exact ⟨hb, l'', ih.mpr h, rfl⟩

/-- A run whose every step succeeds and keeps `P` succeeds and ends in `P`. -/
theorem exists_foldlM {f : β → α → Except ε β} {P : β → Prop}
    (hstep : ∀ b a, P b → ∃ b', f b a = .ok b' ∧ P b') (l : List α) {b : β} (hb : P b) :
    ∃ b', l.foldlM f b = .ok b' ∧ P b' := by
  induction l generalizing b with
  | nil => exact ⟨b, rfl, hb⟩
  | cons a l ih =>
    obtain ⟨b', hb', hP⟩ := hstep b a hb
    rw [List.foldlM_cons, hb']
    exact ih hP

theorem exists_of_mem_mapM {f : α → Except ε β} {l : List α} {l' : List β} (h : l.mapM f = .ok l')
    {b : β} (hb : b ∈ l') : ∃ a ∈ l, f a = .ok b := by
  have hforall := mapM_eq_ok_iff.mp h
  clear h
  induction hforall with
  | nil => exact nomatch hb
  | cons hhead _ ih =>
    rcases List.mem_cons.mp hb with rfl | htail
    · exact ⟨_, List.mem_cons_self .., hhead⟩
    · obtain ⟨a, ha, hf⟩ := ih htail
      exact ⟨a, List.mem_cons_of_mem _ ha, hf⟩

/-- A list is mapped to some list when each of its elements is mapped to something. -/
theorem exists_mapM_iff {f : α → Except ε β} {l : List α} :
    (∃ l', l.mapM f = .ok l') ↔ ∀ a ∈ l, ∃ b, f a = .ok b := by
  simp only [mapM_eq_ok_iff]
  induction l with
  | nil => simp
  | cons a l ih =>
    rw [List.forall_mem_cons, ← ih]
    constructor
    · rintro ⟨l', h⟩
      obtain ⟨b, l', hb, hl, -⟩ := List.forall₂_cons_left_iff.mp h
      exact ⟨⟨b, hb⟩, l', hl⟩
    · rintro ⟨⟨b, hb⟩, l', hl⟩
      exact ⟨b :: l', .cons hb hl⟩

theorem length_of_mapM {f : α → Except ε β} {l : List α} {l' : List β} (h : l.mapM f = .ok l') :
    l'.length = l.length := (mapM_eq_ok_iff.mp h).length_eq.symm

theorem getElem?_of_mapM {f : α → Except ε β} {l : List α} {l' : List β} (h : l.mapM f = .ok l')
    {i : ℕ} {a : α} (ha : l[i]? = some a) : ∃ b, l'[i]? = some b ∧ f a = .ok b := by
  have hforall := mapM_eq_ok_iff.mp h
  clear h
  induction hforall generalizing i with
  | nil => simp at ha
  | @cons _ b _ _ hhead _ ih =>
    cases i with
    | zero =>
      obtain rfl := Option.some.inj ha
      exact ⟨b, rfl, hhead⟩
    | succ i => exact ih ha

/-- The results for a list of pairs stand at the first components. -/
theorem exists_mem_zip_of_mapM {γ : Type} {f : α × β → Except ε γ} {as : List α} {bs : List β}
    {cs : List γ} (h : (as.zip bs).mapM f = .ok cs) {p : α × β} (hp : p ∈ as.zip bs) :
    ∃ c, f p = .ok c ∧ (p.1, c) ∈ as.zip cs := by
  induction as generalizing bs cs with
  | nil => simp at hp
  | cons a as ih =>
    cases bs with
    | nil => simp at hp
    | cons b bs =>
      obtain ⟨c, cs, hhead, htail, rfl⟩ :=
        List.forall₂_cons_left_iff.mp (mapM_eq_ok_iff.mp h)
      rcases List.mem_cons.mp hp with rfl | hp
      · exact ⟨c, hhead, List.mem_cons_self⟩
      · obtain ⟨c', hc', hmem⟩ := ih (mapM_eq_ok_iff.mpr htail) hp
        exact ⟨c', hc', List.mem_cons_of_mem _ hmem⟩

theorem exists_of_toOption_map {x : Except ε α} {f : α → β} {b : β}
    (h : x.toOption.map f = some b) : ∃ a, x = .ok a ∧ f a = b := by
  cases x with
  | error e => exact nomatch h
  | ok a => exact ⟨a, rfl, Option.some.inj h⟩

/-! ## Errors -/

/-- The computation fails, if at all, with an error in `P`. -/
def OnlyFails (P : ε → Prop) (x : Except ε α) : Prop := ∀ e, x = .error e → P e

section Errors

variable {P : ε → Prop}

theorem onlyFails_ok (a : α) : OnlyFails P (.ok a) := by
  intro e h
  cases h

theorem onlyFails_error {e : ε} (he : P e) : OnlyFails P (.error e : Except ε α) := by
  intro e' h
  cases h
  exact he

theorem OnlyFails.mono {Q : ε → Prop} {x : Except ε α} (hx : OnlyFails P x)
    (hPQ : ∀ e, P e → Q e) : OnlyFails Q x := fun e h => hPQ e (hx e h)

theorem OnlyFails.bind {x : Except ε α} {f : α → Except ε β} (hx : OnlyFails P x)
    (hf : ∀ a, x = .ok a → OnlyFails P (f a)) : OnlyFails P (x >>= f) := by
  cases x with
  | error e => exact onlyFails_error (hx e rfl)
  | ok a => exact hf a rfl

theorem OnlyFails.map {x : Except ε α} (hx : OnlyFails P x) (f : α → β) :
    OnlyFails P (f <$> x) := by
  cases x with
  | error e => exact onlyFails_error (hx e rfl)
  | ok a => exact onlyFails_ok (f a)

theorem OnlyFails.mapM {f : α → Except ε β} (hf : ∀ a, OnlyFails P (f a)) (l : List α) :
    OnlyFails P (l.mapM f) := by
  induction l with
  | nil => exact onlyFails_ok []
  | cons a l ih =>
    rw [List.mapM_cons]
    exact (hf a).bind fun b _ => ih.bind fun l' _ => onlyFails_ok _

end Errors

end Except
