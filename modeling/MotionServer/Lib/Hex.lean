import Mathlib.Data.List.Basic
import Mathlib.Data.Option.Basic
import MotionServer.Lib.Bytes

/-!
# Bytes as hexadecimal digits

* `Hex.nibbles`, `Hex.ofNibbles`: the digits of bytes, and the bytes of digits;
* `Hex.digit?`, `Hex.chars`: digits as characters;
* **`mapM_digit_chars`**, **`ofNibbles_nibbles`**: written bytes are read back.
-/

namespace Hex

/-! ## Digits -/

/-- The digits of bytes, the higher digit of each first. -/
def nibbles (l : List Byte) : List ℕ := l.flatMap fun b => [b.toNat / 16, b.toNat % 16]

/-- The bytes of pairs of digits. -/
def pairs : List ℕ → List Byte
  | high :: low :: rest => BitVec.ofNat 8 (16 * high + low) :: pairs rest
  | _ => []

/-- The bytes of digits. A zero comes before an odd number of them. -/
def ofNibbles (digits : List ℕ) : List Byte :=
  pairs (if digits.length % 2 = 0 then digits else 0 :: digits)

theorem nibbles_cons (b : Byte) (l : List Byte) :
    nibbles (b :: l) = b.toNat / 16 :: b.toNat % 16 :: nibbles l := rfl

theorem length_nibbles (l : List Byte) : (nibbles l).length = 2 * l.length := by
  induction l with
  | nil => rfl
  | cons b l ih =>
    rw [nibbles_cons, List.length_cons, List.length_cons, ih, List.length_cons]
    omega

theorem pairs_nibbles (l : List Byte) : pairs (nibbles l) = l := by
  induction l with
  | nil => rfl
  | cons b l ih =>
    have hb := b.isLt
    have hbyte : BitVec.ofNat 8 (16 * (b.toNat / 16) + b.toNat % 16) = b := by
      apply BitVec.eq_of_toNat_eq
      rw [BitVec.toNat_ofNat]
      omega
    rw [nibbles_cons, pairs, hbyte, ih]

/-- **The bytes of their digits.** -/
theorem ofNibbles_nibbles (l : List Byte) : ofNibbles (nibbles l) = l := by
  rw [ofNibbles, length_nibbles, if_pos (by omega), pairs_nibbles]

/-- Digits that are those of bytes after a zero. -/
theorem ofNibbles_of_cons {digits : List ℕ} {l : List Byte} (h : 0 :: digits = nibbles l) :
    ofNibbles digits = l := by
  have hlength := congrArg List.length h
  rw [List.length_cons, length_nibbles] at hlength
  rw [ofNibbles, if_neg (by omega), h, pairs_nibbles]

/-! ## Characters -/

/-- The value of a hexadecimal digit. -/
def digit? (c : Char) : Option ℕ :=
  if '0' ≤ c ∧ c ≤ '9' then some (c.toNat - 48)
  else if 'a' ≤ c ∧ c ≤ 'f' then some (c.toNat - 87)
  else if 'A' ≤ c ∧ c ≤ 'F' then some (c.toNat - 55)
  else none

/-- The characters of bytes. -/
def chars (l : List Byte) : List Char := (nibbles l).map Nat.digitChar

theorem digit_digitChar : ∀ d < 16, digit? (Nat.digitChar d) = some d := by decide

theorem lt_of_mem_nibbles {l : List Byte} {d : ℕ} (h : d ∈ nibbles l) : d < 16 := by
  obtain ⟨b, -, hd⟩ := List.mem_flatMap.mp h
  have hb := b.isLt
  simp only [List.mem_cons, List.not_mem_nil, or_false] at hd
  omega

theorem digit_lt {c : Char} {d : ℕ} (h : digit? c = some d) : d < 16 := by
  unfold digit? at h
  split_ifs at h with h₁ h₂ h₃ <;> obtain rfl := Option.some.inj h
  · have : c.toNat ≤ '9'.toNat := h₁.2
    have : '9'.toNat = 57 := rfl
    omega
  · have : c.toNat ≤ 'f'.toNat := h₂.2
    have : 'f'.toNat = 102 := rfl
    omega
  · have : c.toNat ≤ 'F'.toNat := h₃.2
    have : 'F'.toNat = 70 := rfl
    omega

/-- **Written digits are read back.** -/
theorem mapM_digit_chars (l : List Byte) : (chars l).mapM digit? = some (nibbles l) := by
  have hmap : ∀ digits : List ℕ, (∀ d ∈ digits, d < 16) →
      (digits.map Nat.digitChar).mapM digit? = some digits := by
    intro digits h
    induction digits with
    | nil => rfl
    | cons d digits ih =>
      rw [List.map_cons, List.mapM_cons, digit_digitChar d (h d (by simp)),
        ih fun d hd => h d (List.mem_cons_of_mem _ hd)]
      rfl
  exact hmap _ fun d => lt_of_mem_nibbles

end Hex
