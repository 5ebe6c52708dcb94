import Mathlib.Data.BitVec
import Mathlib.Tactic.Positivity
import Mathlib.Tactic.Ring

/-!
# Numbers as bytes

* `ofNatLE`, `toNatLE`: unsigned numbers, the lowest byte first;
* `ofIntLE`, `toIntLE`: signed numbers in two's complement;
* **`toNatLE_ofNatLE`**, **`toIntLE_ofIntLE`**: a number in range is read back;
* `toNatBE`, **`testBit_toNatBE`**: the bits of a number, the highest byte first.
-/

/-- A byte. -/
abbrev Byte := BitVec 8

namespace Bytes

/-! ## Unsigned numbers -/

/-- The `k` lowest bytes of a number. -/
def ofNatLE : (k x : ℕ) → List Byte
  | 0, _ => []
  | k + 1, x => BitVec.ofNat 8 x :: ofNatLE k (x / 256)

/-- The number of the bytes, the lowest byte first. -/
def toNatLE : List Byte → ℕ
  | [] => 0
  | b :: l => b.toNat + 256 * toNatLE l

@[simp] theorem length_ofNatLE (k x : ℕ) : (ofNatLE k x).length = k := by
  induction k generalizing x with
  | zero => rfl
  | succ k ih => rw [ofNatLE, List.length_cons, ih]

theorem toNatLE_lt (l : List Byte) : toNatLE l < 256 ^ l.length := by
  induction l with
  | nil => decide
  | cons b l ih =>
    have hb := b.isLt
    rw [toNatLE, List.length_cons, pow_succ]
    omega

/-- **The low bytes of a number are the number up to their range.** -/
theorem toNatLE_ofNatLE (k x : ℕ) : toNatLE (ofNatLE k x) = x % 256 ^ k := by
  induction k generalizing x with
  | zero => rw [ofNatLE, toNatLE, pow_zero, Nat.mod_one]
  | succ k ih =>
    rw [ofNatLE, toNatLE, ih, BitVec.toNat_ofNat, pow_succ' 256 k, Nat.mod_mul]

theorem toNatLE_ofNatLE_of_lt {k x : ℕ} (h : x < 256 ^ k) : toNatLE (ofNatLE k x) = x := by
  rw [toNatLE_ofNatLE, Nat.mod_eq_of_lt h]

theorem ofNatLE_toNatLE (l : List Byte) : ofNatLE l.length (toNatLE l) = l := by
  induction l with
  | nil => rfl
  | cons b l ih =>
    have hb := b.isLt
    have hlow : BitVec.ofNat 8 (b.toNat + 256 * toNatLE l) = b := by
      apply BitVec.eq_of_toNat_eq
      rw [BitVec.toNat_ofNat]
      omega
    have hhigh : (b.toNat + 256 * toNatLE l) / 256 = toNatLE l := by omega
    rw [List.length_cons, toNatLE, ofNatLE, hlow, hhigh, ih]

/-! ## Signed numbers -/

/-- The `k` bytes of a number in two's complement. -/
def ofIntLE (k : ℕ) (x : ℤ) : List Byte := ofNatLE k (x % (256 ^ k : ℕ)).toNat

/-- The number of the bytes in two's complement. -/
def toIntLE (l : List Byte) : ℤ := (toNatLE l : ℤ).bmod (256 ^ l.length)

@[simp] theorem length_ofIntLE (k : ℕ) (x : ℤ) : (ofIntLE k x).length = k := length_ofNatLE k _

/-- **A signed number in range is read back.** -/
theorem toIntLE_ofIntLE {k : ℕ} {x : ℤ} (hk : 0 < k) (hlow : -(256 ^ k : ℕ) ≤ 2 * x)
    (hhigh : 2 * x < (256 ^ k : ℕ)) : toIntLE (ofIntLE k x) = x := by
  have hpos : (0 : ℤ) < (256 ^ k : ℕ) := by positivity
  have hmod : ((x % (256 ^ k : ℕ)).toNat : ℤ) = x % (256 ^ k : ℕ) :=
    Int.toNat_of_nonneg (Int.emod_nonneg x hpos.ne')
  have hlt : (x % (256 ^ k : ℕ)).toNat < 256 ^ k := by
    have := Int.emod_lt_of_pos x hpos
    omega
  have heven : (2 : ℤ) ∣ (256 ^ k : ℕ) := by
    exact_mod_cast dvd_pow (by decide : 2 ∣ 256) hk.ne'
  rw [toIntLE, length_ofIntLE, ofIntLE, toNatLE_ofNatLE_of_lt hlt, hmod, Int.emod_bmod]
  exact Int.bmod_eq_of_le (by omega) (by omega)

/-! ## Signed or unsigned -/

/-- The integers of `k` bytes. -/
def Fits (signed : Bool) (k : ℕ) (x : ℤ) : Prop :=
  if signed then -(256 ^ k : ℕ) ≤ 2 * x ∧ 2 * x < (256 ^ k : ℕ) else 0 ≤ x ∧ x < (256 ^ k : ℕ)

instance (signed : Bool) (k : ℕ) (x : ℤ) : Decidable (Fits signed k x) := by
  unfold Fits
  infer_instance

/-- The integer of the bytes. -/
def toInt (signed : Bool) (l : List Byte) : ℤ := if signed then toIntLE l else toNatLE l

/-- **An integer that fits is read back.** -/
theorem toInt_ofIntLE {signed : Bool} {k : ℕ} {x : ℤ} (hk : 0 < k) (h : Fits signed k x) :
    toInt signed (ofIntLE k x) = x := by
  cases signed with
  | true =>
    obtain ⟨hlow, hhigh⟩ := h
    exact toIntLE_ofIntLE hk hlow hhigh
  | false =>
    obtain ⟨hlow, hhigh⟩ := h
    have hmod : x % (256 ^ k : ℕ) = x := Int.emod_eq_of_lt hlow hhigh
    show (toNatLE (ofIntLE k x) : ℤ) = x
    rw [ofIntLE, hmod, toNatLE_ofNatLE_of_lt (by omega), Int.toNat_of_nonneg hlow]

/-! ## Bits -/

theorem testBit_toNatLE (l : List Byte) (i : ℕ) :
    (toNatLE l).testBit i = (l[i / 8]?.getD 0).getLsbD (i % 8) := by
  induction l generalizing i with
  | nil => simp [toNatLE]
  | cons b l ih =>
    have hb : b.toNat < 2 ^ 8 := b.isLt
    rw [toNatLE, show b.toNat + 256 * toNatLE l = 2 ^ 8 * toNatLE l + b.toNat by ring,
      Nat.testBit_two_pow_mul_add _ hb]
    by_cases hi : i < 8
    · rw [if_pos hi, Nat.div_eq_of_lt hi, Nat.mod_eq_of_lt hi]
      rfl
    · obtain ⟨j, rfl⟩ : ∃ j, i = j + 8 := ⟨i - 8, by omega⟩
      rw [if_neg hi, Nat.add_sub_cancel, ih, Nat.add_div_right j (by decide),
        Nat.add_mod_right, List.getElem?_cons_succ]

/-- The number of the bytes, the highest byte first. -/
def toNatBE (l : List Byte) : ℕ := toNatLE l.reverse

theorem toNatBE_lt (l : List Byte) : toNatBE l < 256 ^ l.length := by
  rw [toNatBE, ← List.length_reverse]
  exact toNatLE_lt l.reverse

/-- **Bits are counted from the end of the bytes.** -/
theorem testBit_toNatBE {l : List Byte} {i : ℕ} (h : i < 8 * l.length) :
    (toNatBE l).testBit i = (l[l.length - 1 - i / 8]?.getD 0).getLsbD (i % 8) := by
  rw [toNatBE, testBit_toNatLE, List.getElem?_reverse (by omega)]

end Bytes
