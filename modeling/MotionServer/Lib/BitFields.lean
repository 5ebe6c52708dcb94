import Mathlib.Data.Int.Bitwise
import Mathlib.Data.Nat.Bitwise
import Mathlib.Tactic.Common
import Mathlib.Tactic.Positivity

/-!
# Bit fields of a number

* `Field.extract`, `Field.mask`: the bits of a number in a field, and where they are;
* `signed`: the bits of a field in two's complement;
* `cover`, `pack`: the bits of several fields, and numbers put at their offsets;
* **`pack_extract`**: what is packed from a number are the bits of it that the fields cover.
-/

namespace BitFields

/-- A field of a number: `length` bits from `offset` on. -/
structure Field where
  offset : ℕ
  length : ℕ
  deriving DecidableEq

namespace Field

/-- The bits of a number in a field. -/
def extract (f : Field) (raw : ℕ) : ℕ := (raw >>> f.offset) &&& ((1 <<< f.length) - 1)

/-- The bits that a field covers. -/
def mask (f : Field) : ℕ := ((1 <<< f.length) - 1) <<< f.offset

/-- The fields have no bit in common. -/
def Disjoint (f g : Field) : Prop :=
  f.offset + f.length ≤ g.offset ∨ g.offset + g.length ≤ f.offset

theorem testBit_extract (f : Field) (raw i : ℕ) :
    (f.extract raw).testBit i = (decide (i < f.length) && raw.testBit (f.offset + i)) := by
  rw [extract, Nat.one_shiftLeft, Nat.testBit_and, Nat.testBit_shiftRight,
    Nat.testBit_two_pow_sub_one, Bool.and_comm]

theorem testBit_mask (f : Field) (i : ℕ) :
    f.mask.testBit i = (decide (f.offset ≤ i) && decide (i < f.offset + f.length)) := by
  rw [mask, Nat.one_shiftLeft, Nat.testBit_shiftLeft, Nat.testBit_two_pow_sub_one]
  by_cases h : f.offset ≤ i
  · have hlt : i - f.offset < f.length ↔ i < f.offset + f.length := by omega
    simp [h, hlt]
  · simp [h]

theorem extract_lt (f : Field) (raw : ℕ) : f.extract raw < 2 ^ f.length := by
  have hpos : 0 < 2 ^ f.length := Nat.two_pow_pos f.length
  have hle : f.extract raw ≤ (1 <<< f.length) - 1 := Nat.and_le_right
  rw [Nat.one_shiftLeft] at hle
  omega

/-- **The bits of a field, put back.** -/
theorem extract_shiftLeft (f : Field) (raw : ℕ) : f.extract raw <<< f.offset = raw &&& f.mask := by
  apply Nat.eq_of_testBit_eq
  intro i
  rw [Nat.testBit_shiftLeft, testBit_extract, Nat.testBit_and, testBit_mask]
  by_cases h : f.offset ≤ i
  · have hadd : f.offset + (i - f.offset) = i := by omega
    have hlt : i - f.offset < f.length ↔ i < f.offset + f.length := by omega
    simp [h, hadd, hlt, Bool.and_comm]
  · simp [h]

/-- A field depends only on the bits that it covers. -/
theorem extract_congr {f : Field} {raw raw' : ℕ} (h : raw &&& f.mask = raw' &&& f.mask) :
    f.extract raw = f.extract raw' := by
  have hshift := congrArg (· >>> f.offset) h
  simp only [← extract_shiftLeft, Nat.shiftLeft_shiftRight] at hshift
  exact hshift

/-- Masks without a common bit are those of disjoint fields. -/
theorem disjoint_of_and_mask {f g : Field} (hf : 0 < f.length) (hg : 0 < g.length)
    (h : f.mask &&& g.mask = 0) : f.Disjoint g := by
  by_contra hcommon
  unfold Disjoint at hcommon
  have hbit := congrArg (Nat.testBit · (max f.offset g.offset)) h
  simp only [Nat.testBit_and, testBit_mask, Nat.zero_testBit, Bool.and_eq_false_iff,
    decide_eq_false_iff_not] at hbit
  omega

end Field

/-! ## Several fields -/

/-- The bits that fields cover. -/
def cover : List Field → ℕ
  | [] => 0
  | f :: fields => f.mask ||| cover fields

/-- Numbers put at the offsets of their fields. -/
def pack : List (Field × ℕ) → ℕ
  | [] => 0
  | entry :: entries => entry.2 <<< entry.1.offset ||| pack entries

theorem testBit_cover (fields : List Field) (i : ℕ) : (cover fields).testBit i = true ↔
    ∃ f ∈ fields, f.offset ≤ i ∧ i < f.offset + f.length := by
  induction fields with
  | nil => simp [cover]
  | cons f fields ih =>
    rw [cover, Nat.testBit_or, Bool.or_eq_true, ih, Field.testBit_mask]
    simp

/-- **What is packed from a number are its bits that the fields cover.** -/
theorem pack_extract (raw : ℕ) (fields : List Field) :
    pack (fields.map fun f => (f, f.extract raw)) = raw &&& cover fields := by
  induction fields with
  | nil => rw [List.map_nil, pack, cover, Nat.and_zero]
  | cons f fields ih =>
    rw [List.map_cons, pack, cover, ih, Nat.and_or_distrib_left, Field.extract_shiftLeft]

theorem cover_append (fields fields' : List Field) :
    cover (fields ++ fields') = cover fields ||| cover fields' := by
  induction fields with
  | nil => rw [List.nil_append, cover, Nat.zero_or]
  | cons f fields ih => rw [List.cons_append, cover, cover, ih, Nat.or_assoc]

theorem pack_append (entries entries' : List (Field × ℕ)) :
    pack (entries ++ entries') = pack entries ||| pack entries' := by
  induction entries with
  | nil => rw [List.nil_append, pack, Nat.zero_or]
  | cons entry entries ih => rw [List.cons_append, pack, pack, ih, Nat.or_assoc]

theorem and_mask_of_and_cover {raw raw' : ℕ} {fields : List Field}
    (h : raw &&& cover fields = raw' &&& cover fields) {f : Field} (hf : f ∈ fields) :
    raw &&& f.mask = raw' &&& f.mask := by
  apply Nat.eq_of_testBit_eq
  intro i
  have hbit := congrArg (Nat.testBit · i) h
  simp only [Nat.testBit_and] at hbit ⊢
  by_cases hmask : f.mask.testBit i = true
  · have hcover : (cover fields).testBit i = true := by
      rw [Field.testBit_mask, Bool.and_eq_true, decide_eq_true_iff, decide_eq_true_iff] at hmask
      exact (testBit_cover fields i).mpr ⟨f, hf, hmask⟩
    simpa [hmask, hcover] using hbit
  · simp [hmask]

/-! ## Two's complement -/

/-- The bits of a field as a signed number. -/
def signed (length bits : ℕ) : ℤ :=
  if bits.testBit (length - 1) then bits - 2 ^ length else bits

/-- **A signed field is in the range of its length, and its low bits are those of the field.** -/
theorem signed_spec {length bits : ℕ} (hlength : 0 < length) (h : bits < 2 ^ length) :
    -2 ^ (length - 1) ≤ signed length bits ∧ signed length bits < 2 ^ (length - 1) ∧
      signed length bits % 2 ^ length = bits := by
  obtain ⟨k, rfl⟩ : ∃ k, length = k + 1 := ⟨length - 1, by omega⟩
  have hpow : (2 : ℤ) ^ (k + 1) = 2 * 2 ^ k := by rw [pow_succ, mul_comm]
  have hbits : (bits : ℤ) < 2 ^ (k + 1) := by exact_mod_cast h
  have hmod : (bits : ℤ) % 2 ^ (k + 1) = bits := Int.emod_eq_of_lt (by omega) hbits
  rw [Nat.add_sub_cancel, signed, Nat.add_sub_cancel]
  by_cases htop : bits.testBit k
  · have hge : (2 : ℤ) ^ k ≤ bits := by exact_mod_cast Nat.ge_two_pow_of_testBit htop
    rw [if_pos htop]
    refine ⟨by omega, by omega, ?_⟩
    rw [Int.sub_emod_right, hmod]
  · have hlt : (bits : ℤ) < 2 ^ k := by
      have hlow : bits < 2 ^ k := by
        by_contra hge
        exact htop (Nat.testBit_of_two_pow_le_and_two_pow_add_one_gt (not_lt.mp hge) h)
      exact_mod_cast hlow
    rw [if_neg htop]
    have hpos : (0 : ℤ) < 2 ^ k := by positivity
    exact ⟨by omega, hlt, hmod⟩

end BitFields
