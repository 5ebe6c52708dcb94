import Mathlib
import MotionServer.Python.Exception

/-!
# Python's `float`

The program is modelled over any type `F` with the operations it asks of Python's `float`. Nothing
is assumed of them, so that what is proved over any `F` holds of machine floats too.

* `PyFloat F`: the operations; `pyMax`, `pyMin`, `pyAbs`, `pyEq`, `orZero`: Python's built-ins;
* the instance on `ℝ`: exact arithmetic;
* `ExtRat`: the rationals with a NaN and two infinities, an instance that can be evaluated.
-/

namespace MotionServer

/-- What a numeral of a JSON text or a string denotes, before it is rounded to a float. -/
inductive FloatLiteral
  | rational (q : ℚ)
  | nan
  | infinity (negative : Bool)
  deriving DecidableEq

/-- The operations of Python's `float` that the program uses.
Every divisor in the program is positive or NaN, so that `/` raises nothing. -/
class PyFloat (F : Type) extends Add F, Sub F, Mul F, Div F, Neg F, LE F, LT F, OfScientific F,
    Pow F ℕ where
  decLE : DecidableLE F
  decLT : DecidableLT F
  /-- `math.sqrt` and `** 0.5`, on what is not negative. -/
  sqrt : F → F
  /-- `** (1.0 / 3.0)`, on what is not negative. -/
  cbrt : F → F
  /-- The float nearest to an integer. -/
  ofInt : ℤ → F
  /-- Whether `float(i)` raises no `OverflowError`. -/
  intFits : ℤ → Bool
  /-- `int(round(x))`: half to even; a NaN raises `ValueError`, an infinity `OverflowError`. -/
  roundInt : F → Except PyExc ℤ
  /-- `int(x)`: toward zero, with the same exceptions. -/
  truncInt : F → Except PyExc ℤ
  /-- The float nearest to a numeral. -/
  ofLiteral : FloatLiteral → F

attribute [reducible, instance] PyFloat.decLE PyFloat.decLT

section Builtins

variable {F : Type} [PyFloat F]

/-- `max(a, b)`: the first of the largest, so that a NaN stays where it comes first. -/
def pyMax (a b : F) : F := if a < b then b else a

/-- `min(a, b)`. -/
def pyMin (a b : F) : F := if b < a then b else a

/-- `abs(a)`. -/
def pyAbs (a : F) : F := if a < 0.0 then -a else a

/-- `a == b`, false of a NaN. -/
def pyEq (a b : F) : Bool := decide (a ≤ b) && decide (b ≤ a)

/-- `a or 0.0` of an optional float. -/
def orZero : Option F → F
  | none => 0.0
  | some a => if pyEq a 0.0 then 0.0 else a

/-- `float(i)` of an integer. -/
def floatOfInt (i : ℤ) : Except PyExc F :=
  if PyFloat.intFits F i then .ok (PyFloat.ofInt i) else .error .overflowError

end Builtins

/-- The integer nearest to `x`, half to even. -/
def roundHalfEven {K : Type} [Field K] [LinearOrder K] [FloorRing K] (x : K) : ℤ :=
  let f := ⌊x⌋
  if x - f < f + 1 - x then f
  else if f + 1 - x < x - f then f + 1
  else if f % 2 = 0 then f else f + 1

theorem abs_roundHalfEven_sub_le {K : Type} [Field K] [LinearOrder K] [IsStrictOrderedRing K]
    [FloorRing K] (x : K) : |(roundHalfEven x : K) - x| ≤ 1 / 2 := by
  have h₁ := Int.floor_le x
  have h₂ := Int.lt_floor_add_one x
  unfold roundHalfEven
  dsimp only
  split_ifs <;> rw [abs_le] <;> push_cast <;> constructor <;> linarith

/-! ## Exact arithmetic -/

noncomputable instance : PyFloat ℝ where
  decLE := Classical.decRel _
  decLT := Classical.decRel _
  sqrt := Real.sqrt
  cbrt x := x ^ ((3 : ℕ) : ℝ)⁻¹
  ofInt i := i
  intFits _ := true
  roundInt x := .ok (roundHalfEven x)
  truncInt x := .ok (if 0 ≤ x then ⌊x⌋ else ⌈x⌉)
  ofLiteral
    | .rational q => q
    | _ => 0

section Real

theorem pyMax_real (a b : ℝ) : pyMax a b = max a b := by
  unfold pyMax
  split_ifs with h
  · exact (max_eq_right h.le).symm
  · exact (max_eq_left (not_lt.mp h)).symm

theorem pyMin_real (a b : ℝ) : pyMin a b = min a b := by
  unfold pyMin
  split_ifs with h
  · exact (min_eq_right h.le).symm
  · exact (min_eq_left (not_lt.mp h)).symm

theorem zero_literal : (0.0 : ℝ) = 0 := by norm_num

theorem pyAbs_real (a : ℝ) : pyAbs a = |a| := by
  unfold pyAbs
  rw [zero_literal]
  split_ifs with h
  · exact (abs_of_neg h).symm
  · exact (abs_of_nonneg (not_lt.mp h)).symm

theorem pyEq_real (a b : ℝ) : pyEq a b = true ↔ a = b := by
  rw [pyEq, Bool.and_eq_true, decide_eq_true_iff, decide_eq_true_iff, le_antisymm_iff]

theorem orZero_real (v : Option ℝ) : orZero v = v.getD 0 := by
  cases v with
  | none => exact zero_literal
  | some a =>
    simp only [orZero, zero_literal, pyEq_real, Option.getD_some]
    split_ifs with h
    · exact h.symm
    · rfl

theorem sqrt_real (a : ℝ) : PyFloat.sqrt a = Real.sqrt a := rfl

theorem ofInt_real (i : ℤ) : (PyFloat.ofInt i : ℝ) = i := rfl

end Real

end MotionServer
