import Mathlib.Data.List.Basic
import Mathlib.Tactic.Common

/-!
# Frames of a stream

A separator cuts a stream into frames. What follows the last separator is the residue.

* `frames`, `residue`: both, for the whole stream;
* `feed`: the stream comes in pieces, and the residue of one is put before the next;
* **`feed_eq`**: the frames and the residue do not depend on the pieces.
-/

namespace Framing

variable {α : Type} [BEq α] [LawfulBEq α] (separator : α)

/-- The frames that end in the stream. -/
def frames (stream : List α) : List (List α) := (stream.splitOn separator).dropLast

/-- What follows the last separator. -/
def residue (stream : List α) : List α :=
  (stream.splitOn separator).getLast (List.splitOn_ne_nil _ _)

theorem frames_of_notMem {stream : List α} (h : separator ∉ stream) : frames separator stream = [] := by
  rw [frames, List.splitOn_eq_singleton h]
  rfl

theorem residue_of_notMem {stream : List α} (h : separator ∉ stream) :
    residue separator stream = stream := by
  unfold residue
  simp only [List.splitOn_eq_singleton h, List.getLast_singleton]

variable {separator}

theorem frames_append_cons {frame : List α} (h : separator ∉ frame) (rest : List α) :
    frames separator (frame ++ separator :: rest) = frame :: frames separator rest := by
  rw [frames, List.splitOn_append_cons_self_of_not_mem h,
    List.dropLast_cons_of_ne_nil (List.splitOn_ne_nil _ _)]
  rfl

theorem residue_append_cons {frame : List α} (h : separator ∉ frame) (rest : List α) :
    residue separator (frame ++ separator :: rest) = residue separator rest := by
  unfold residue
  simp only [List.splitOn_append_cons_self_of_not_mem h]
  exact List.getLast_cons (List.splitOn_ne_nil _ _)

/-- A stream without a separator is a residue, any other one starts with a frame. -/
theorem induction_on_frames (separator : α) {motive : List α → Prop} (stream : List α)
    (hresidue : ∀ stream, separator ∉ stream → motive stream)
    (hframe : ∀ frame rest, separator ∉ frame → motive rest → motive (frame ++ separator :: rest)) :
    motive stream := by
  induction hlength : stream.length using Nat.strongRecOn generalizing stream with
  | ind n ih =>
    by_cases hmem : separator ∈ stream
    · obtain ⟨frame, rest, rfl, hnot⟩ := List.eq_append_cons_of_mem hmem
      refine hframe frame rest hnot (ih rest.length ?_ rest rfl)
      rw [← hlength, List.length_append, List.length_cons]
      omega
    · exact hresidue stream hmem

variable (separator)

/-- **The frames of a stream are those of its first part, then those of the residue and the rest.** -/
theorem frames_append (stream next : List α) : frames separator (stream ++ next) =
    frames separator stream ++ frames separator (residue separator stream ++ next) := by
  induction stream using induction_on_frames separator with
  | hresidue stream h => rw [frames_of_notMem separator h, residue_of_notMem separator h]; rfl
  | hframe frame rest h ih =>
    rw [List.append_assoc, List.cons_append, frames_append_cons h, frames_append_cons h,
      residue_append_cons h, ih, List.cons_append]

theorem residue_append (stream next : List α) : residue separator (stream ++ next) =
    residue separator (residue separator stream ++ next) := by
  induction stream using induction_on_frames separator with
  | hresidue stream h => rw [residue_of_notMem separator h]
  | hframe frame rest h ih =>
    rw [List.append_assoc, List.cons_append, residue_append_cons h, residue_append_cons h, ih]

/-- The frames and the residue of a stream that comes in pieces. -/
def feed : (buffer : List α) → List (List α) → List (List α) × List α
  | buffer, [] => ([], buffer)
  | buffer, piece :: pieces =>
    let rest := feed (residue separator (buffer ++ piece)) pieces
    (frames separator (buffer ++ piece) ++ rest.1, rest.2)

theorem separator_notMem_residue (stream : List α) : separator ∉ residue separator stream := by
  induction stream using induction_on_frames separator with
  | hresidue stream h => rwa [residue_of_notMem separator h]
  | hframe frame rest h ih => rwa [residue_append_cons h]

/-- **The frames and the residue do not depend on the pieces.** -/
theorem feed_eq {buffer : List α} (hbuffer : separator ∉ buffer) (pieces : List (List α)) :
    feed separator buffer pieces =
      (frames separator (buffer ++ pieces.flatten), residue separator (buffer ++ pieces.flatten)) := by
  induction pieces generalizing buffer with
  | nil =>
    rw [List.flatten_nil, List.append_nil, frames_of_notMem separator hbuffer,
      residue_of_notMem separator hbuffer]
    rfl
  | cons piece pieces ih =>
    rw [feed, ih (separator_notMem_residue separator _), List.flatten_cons, ← List.append_assoc,
      frames_append separator (buffer ++ piece), residue_append separator (buffer ++ piece)]

end Framing
