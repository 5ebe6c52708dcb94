import Mathlib.Tactic.Common

/-!
# Parts of a list at a position

* `slice`: the elements from a position on;
* `modify_append_left`, `modify_append_right`: a change of one element in a concatenation;
* **`slice_chunks`**: a slice of a list of chunks of one length is a chunk.
-/

namespace Slices

variable {α β : Type}

/-- The elements from a position on, `n` of them. -/
def slice (l : List α) (start n : ℕ) : List α := (l.drop start).take n

theorem slice_append_right (pre l : List α) (start n : ℕ) :
    slice (pre ++ l) (pre.length + start) n = slice l start n := by
  rw [slice, slice, List.drop_append, List.drop_of_length_le (by omega), List.nil_append,
    Nat.add_sub_cancel_left]

theorem slice_append_left {l : List α} (post : List α) {start n : ℕ} (h : start + n ≤ l.length) :
    slice (l ++ post) start n = slice l start n := by
  have hdrop : (l ++ post).drop start = l.drop start ++ post :=
    List.drop_append_of_le_length (by omega)
  rw [slice, hdrop, List.take_append_of_le_length (by rw [List.length_drop]; omega)]
  rfl

theorem slice_self (l : List α) : slice l 0 l.length = l := by
  rw [slice, List.drop_zero, List.take_length]

/-- A part between two others. -/
theorem slice_middle (pre l post : List α) : slice (pre ++ l ++ post) pre.length l.length = l := by
  have h := slice_append_right pre (l ++ post) 0 l.length
  rw [Nat.add_zero] at h
  rw [List.append_assoc, h, slice_append_left post (by omega), slice_self]

theorem modify_append_right (pre l : List α) (i : ℕ) (f : α → α) :
    (pre ++ l).modify (pre.length + i) f = pre ++ l.modify i f := by
  induction pre with
  | nil => rw [List.nil_append, List.nil_append, List.length_nil, Nat.zero_add]
  | cons a pre ih =>
    rw [List.cons_append, List.length_cons, Nat.add_right_comm, List.modify_succ_cons, ih,
      List.cons_append]

theorem modify_append_left {l : List α} (post : List α) {i : ℕ} (h : i < l.length) (f : α → α) :
    (l ++ post).modify i f = l.modify i f ++ post := by
  induction l generalizing i with
  | nil => exact absurd h (Nat.not_lt_zero i)
  | cons a l ih =>
    cases i with
    | zero => rfl
    | succ i =>
      rw [List.cons_append, List.modify_succ_cons, ih (Nat.lt_of_succ_lt_succ h),
        List.modify_succ_cons, List.cons_append]

/-- **A slice of chunks is a chunk.** -/
theorem slice_chunks {f : α → List β} {width : ℕ} {l : List α} (hwidth : ∀ a ∈ l, (f a).length = width)
    {i : ℕ} {a : α} (h : l[i]? = some a) : slice (l.flatMap f) (i * width) width = f a := by
  induction l generalizing i with
  | nil => exact nomatch h
  | cons b l ih =>
    have hb := hwidth b (List.mem_cons_self ..)
    rw [List.flatMap_cons]
    cases i with
    | zero =>
      rw [List.getElem?_cons_zero] at h
      obtain rfl := Option.some.inj h
      have hmiddle := slice_middle [] (f b) (l.flatMap f)
      rw [hb] at hmiddle
      rw [Nat.zero_mul]
      exact hmiddle
    | succ i =>
      rw [List.getElem?_cons_succ] at h
      have hstart : (i + 1) * width = (f b).length + i * width := by
        rw [hb, Nat.succ_mul, Nat.add_comm]
      rw [hstart, slice_append_right]
      exact ih (fun a' ha' => hwidth a' (List.mem_cons_of_mem _ ha')) h

end Slices
