import Mathlib.Data.List.Nodup
import Mathlib.Logic.Function.Basic
import Mathlib.Tactic.Common

/-!
# Writes along a list

A list of keys and operands changes a map, one pair after another.

* `writeEach`: the map after the writes of a list;
* `writeEach_of_notMem`, `writeEach_of_mem`: what becomes of a value that is written at most once;
* `lastWrite`, **`writeEach_eq_self_iff`**: writes that replace a value leave a map as it is exactly
  when the last one at each key does;
* `attempted`: the pairs that are tried when the first failure ends the loop.
-/

namespace MotionServer

section Writes

variable {α β γ : Type} [DecidableEq α]

/-- The map after each pair has changed the value at its key, in order. -/
def writeEach (g : α → β → γ → γ) (l : List (α × β)) (f : α → γ) : α → γ :=
  l.foldl (fun f p => Function.update f p.1 (g p.1 p.2 (f p.1))) f

variable {g : α → β → γ → γ} {l : List (α × β)} {f : α → γ} {a : α}

@[simp] theorem writeEach_nil : writeEach g ([] : List (α × β)) f = f := rfl

theorem writeEach_cons (p : α × β) : writeEach g (p :: l) f =
    writeEach g l (Function.update f p.1 (g p.1 p.2 (f p.1))) := rfl

theorem writeEach_of_notMem (h : ∀ b, (a, b) ∉ l) : writeEach g l f a = f a := by
  induction l generalizing f with
  | nil => rfl
  | cons p l ih =>
    have hp : a ≠ p.1 := by
      rintro rfl
      exact h p.2 List.mem_cons_self
    rw [writeEach_cons, ih fun b hb => h b (List.mem_cons_of_mem _ hb), Function.update_of_ne hp]

/-- Where no key is named twice, a value is written once. -/
theorem writeEach_of_mem {b : β} (hl : (l.map Prod.fst).Nodup) (h : (a, b) ∈ l) :
    writeEach g l f a = g a b (f a) := by
  induction l generalizing f with
  | nil => simp at h
  | cons p l ih =>
    rw [List.map_cons, List.nodup_cons] at hl
    rw [writeEach_cons]
    rcases List.mem_cons.mp h with rfl | h
    · have hrest : ∀ c, (a, c) ∉ l := fun _ hc => hl.1 (List.mem_map.mpr ⟨_, hc, rfl⟩)
      rw [writeEach_of_notMem hrest, Function.update_self]
    · have hp : a ≠ p.1 := by
        rintro rfl
        exact hl.1 (List.mem_map.mpr ⟨_, h, rfl⟩)
      rw [ih hl.2 h, Function.update_of_ne hp]

/-- The last operand of a key. -/
def lastWrite : List (α × β) → α → Option β
  | [], _ => none
  | p :: l, a => (lastWrite l a).or (if p.1 = a then some p.2 else none)

theorem mem_of_lastWrite {b : β} (h : lastWrite l a = some b) : (a, b) ∈ l := by
  induction l with
  | nil => simp [lastWrite] at h
  | cons p l ih =>
    rw [lastWrite, Option.or_eq_some_iff] at h
    rcases h with h | ⟨-, h⟩
    · exact List.mem_cons_of_mem _ (ih h)
    · split_ifs at h with hp
      subst hp
      obtain rfl := Option.some.inj h
      exact List.mem_cons_self

theorem exists_lastWrite {p : α × β} (h : p ∈ l) : ∃ b, lastWrite l p.1 = some b := by
  induction l with
  | nil => simp at h
  | cons q l ih =>
    rcases List.mem_cons.mp h with rfl | h
    · rw [lastWrite, if_pos rfl]
      cases lastWrite l p.1 with
      | none => exact ⟨p.2, rfl⟩
      | some b => exact ⟨b, rfl⟩
    · obtain ⟨b, hb⟩ := ih h
      exact ⟨b, by rw [lastWrite, hb, Option.some_or]⟩

/-- A write that replaces the value makes the ones before it at the same key forgotten. -/
theorem writeEach_apply (hg : ∀ a b b' x, g a b (g a b' x) = g a b x) (l : List (α × β)) (f : α → γ)
    (a : α) : writeEach g l f a = (lastWrite l a).elim (f a) (g a · (f a)) := by
  induction l generalizing f with
  | nil => rfl
  | cons p l ih =>
    rw [writeEach_cons, ih, lastWrite]
    by_cases hp : p.1 = a
    · subst hp
      rw [Function.update_self, if_pos rfl]
      cases lastWrite l p.1 with
      | none => rfl
      | some b => exact hg p.1 b p.2 (f p.1)
    · rw [Function.update_of_ne (Ne.symm hp), if_neg hp, Option.or_none]

/-- **Writes that replace a value leave a map as it is when the last at each key does.** -/
theorem writeEach_eq_self_iff (hg : ∀ a b b' x, g a b (g a b' x) = g a b x) :
    writeEach g l f = f ↔ ∀ a b, lastWrite l a = some b → g a b (f a) = f a := by
  constructor
  · intro h a b hb
    have ha := congrFun h a
    rwa [writeEach_apply hg, hb] at ha
  · intro h
    funext a
    rw [writeEach_apply hg]
    cases hb : lastWrite l a with
    | none => rfl
    | some b => exact h a b hb

end Writes

section Attempted

variable {α : Type} (p : α → Bool)

/-- The elements up to and including the first that fails the check. -/
def attempted (l : List α) : List α := l.take ((l.takeWhile p).length + 1)

@[simp] theorem attempted_nil : attempted p [] = [] := rfl

theorem attempted_cons_of_pos {x : α} (l : List α) (h : p x = true) :
    attempted p (x :: l) = x :: attempted p l := by
  simp [attempted, List.takeWhile_cons_of_pos h]

theorem attempted_cons_of_neg {x : α} (l : List α) (h : p x = false) :
    attempted p (x :: l) = [x] := by
  simp [attempted, h]

end Attempted

end MotionServer
