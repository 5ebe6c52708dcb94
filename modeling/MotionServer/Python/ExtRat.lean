import MotionServer.Python.Float

/-!
# Rationals with a NaN and infinities

* `LawfulPyFloat F`, `ExactIntegers F`: the laws of machine floats that the proofs rely on, also
  met by `ℝ`;
* `ExtRat`: rationals with the special values of a float, **an instance that can be evaluated**.
-/

namespace MotionServer

/-- What the proofs use of the operations of a float. -/
class LawfulPyFloat (F : Type) [PyFloat F] : Prop where
  le_trans : ∀ {a b c : F}, a ≤ b → b ≤ c → a ≤ c
  le_of_not_lt : ∀ {a b : F}, b ≤ b → a ≤ a → ¬ a < b → b ≤ a
  le_self_of_le : ∀ {a b : F}, a ≤ b → b ≤ b
  zero_le_add : ∀ {a b : F}, 0.0 ≤ a → 0.0 ≤ b → 0.0 ≤ a + b
  /-- A 32 bit integer survives the way through a float. -/
  roundInt_ofInt : ∀ i : ℤ, -2 ^ 31 ≤ i → i < 2 ^ 31 → PyFloat.roundInt (PyFloat.ofInt i : F) = .ok i

/-- Integers of 32 bits and their sums are floats. -/
class ExactIntegers (F : Type) [PyFloat F] : Prop where
  ofInt_add : ∀ i j : ℤ, i.natAbs ≤ 2 ^ 31 → j.natAbs ≤ 2 ^ 31 →
    (PyFloat.ofInt i + PyFloat.ofInt j : F) = PyFloat.ofInt (i + j)
  roundInt_sum : ∀ i : ℤ, i.natAbs ≤ 2 ^ 32 → PyFloat.roundInt (PyFloat.ofInt i : F) = .ok i

theorem roundHalfEven_intCast {K : Type} [Field K] [LinearOrder K] [IsStrictOrderedRing K]
    [FloorRing K] (i : ℤ) : roundHalfEven (i : K) = i := by
  unfold roundHalfEven
  simp only [Int.floor_intCast, sub_self]
  rw [if_pos (by norm_num)]

instance : LawfulPyFloat ℝ where
  le_trans := le_trans
  le_of_not_lt _ _ h := not_lt.mp h
  le_self_of_le _ := le_rfl
  zero_le_add ha hb := by
    rw [zero_literal] at *
    exact add_nonneg ha hb
  roundInt_ofInt i _ _ := congrArg Except.ok (roundHalfEven_intCast i)

instance : ExactIntegers ℝ where
  ofInt_add i j _ _ := (Int.cast_add i j).symm
  roundInt_sum i _ := congrArg Except.ok (roundHalfEven_intCast i)

/-- A rational, a NaN or an infinity. -/
inductive ExtRat
  | fin (q : ℚ)
  | nan
  | inf
  | ninf
  deriving DecidableEq

namespace ExtRat

def neg : ExtRat → ExtRat
  | fin q => fin (-q)
  | nan => nan
  | inf => ninf
  | ninf => inf

def add : ExtRat → ExtRat → ExtRat
  | fin a, fin b => fin (a + b)
  | nan, _ | _, nan | inf, ninf | ninf, inf => nan
  | inf, _ | _, inf => inf
  | ninf, _ | _, ninf => ninf

/-- An infinity with the sign of `q`; none for zero. -/
def signed (q : ℚ) : ExtRat := if 0 < q then inf else if q < 0 then ninf else nan

def mul : ExtRat → ExtRat → ExtRat
  | fin a, fin b => fin (a * b)
  | nan, _ | _, nan => nan
  | inf, fin q | fin q, inf => signed q
  | ninf, fin q | fin q, ninf => neg (signed q)
  | inf, inf | ninf, ninf => inf
  | inf, ninf | ninf, inf => ninf

def div : ExtRat → ExtRat → ExtRat
  | fin a, fin b => fin (a / b)
  | nan, _ | _, nan => nan
  | fin _, _ => fin 0
  | inf, fin q => if 0 ≤ q then inf else ninf
  | ninf, fin q => if 0 ≤ q then ninf else inf
  | _, _ => nan

def lt : ExtRat → ExtRat → Bool
  | fin a, fin b => a < b
  | fin _, inf | ninf, fin _ | ninf, inf => true
  | _, _ => false

def le : ExtRat → ExtRat → Bool
  | fin a, fin b => a ≤ b
  | fin _, inf | ninf, fin _ | ninf, inf | inf, inf | ninf, ninf => true
  | _, _ => false

/-- The square root from below, with the denominator of `q`. -/
def sqrt : ExtRat → ExtRat
  | fin q => fin ((Nat.sqrt (q.num.toNat * q.den) : ℚ) / q.den)
  | x => x

/-- The cube root from below, with the denominator of `q`. -/
def cbrt : ExtRat → ExtRat
  | fin q =>
    let cube := q.num.toNat * q.den ^ 2
    fin ((Nat.findGreatest (fun k => k ^ 3 ≤ cube) cube : ℚ) / q.den)
  | x => x

def roundInt : ExtRat → Except PyExc ℤ
  | fin q => .ok (roundHalfEven q)
  | nan => .error .valueError
  | _ => .error .overflowError

def truncInt : ExtRat → Except PyExc ℤ
  | fin q => .ok (if 0 ≤ q then ⌊q⌋ else ⌈q⌉)
  | nan => .error .valueError
  | _ => .error .overflowError

def ofLiteral : FloatLiteral → ExtRat
  | .rational q => fin q
  | .nan => nan
  | .infinity negative => if negative then ninf else inf

end ExtRat

instance : PyFloat ExtRat where
  add := .add
  sub a b := .add a (.neg b)
  mul := .mul
  div := .div
  neg := .neg
  lt a b := ExtRat.lt a b = true
  le a b := ExtRat.le a b = true
  ofScientific m s e := .fin (OfScientific.ofScientific m s e)
  pow x k := Nat.rec (.fin 1) (fun _ y => y.mul x) k
  decLE _ _ := inferInstanceAs (Decidable (_ = _))
  decLT _ _ := inferInstanceAs (Decidable (_ = _))
  sqrt := .sqrt
  cbrt := .cbrt
  ofInt i := .fin i
  intFits i := decide (i.natAbs < 2 ^ 1024)
  roundInt := ExtRat.roundInt
  truncInt := ExtRat.truncInt
  ofLiteral := .ofLiteral

namespace ExtRat

theorem zero_literal : (0.0 : ExtRat) = fin 0 := by
  change fin (OfScientific.ofScientific 0 true 1) = fin 0
  norm_num

theorem le_def (a b : ExtRat) : a ≤ b ↔ le a b = true := Iff.rfl

theorem lt_def (a b : ExtRat) : a < b ↔ lt a b = true := Iff.rfl

theorem add_def (a b : ExtRat) : a + b = add a b := rfl

end ExtRat

instance : LawfulPyFloat ExtRat where
  le_trans {a b c} h₁ h₂ := by
    simp only [ExtRat.le_def] at *
    cases a <;> cases b <;> cases c <;> simp_all [ExtRat.le]
    exact h₁.trans h₂
  le_of_not_lt {a b} hb ha h := by
    simp only [ExtRat.le_def, ExtRat.lt_def] at *
    cases a <;> cases b <;> simp_all [ExtRat.le, ExtRat.lt]
  le_self_of_le {a b} h := by
    simp only [ExtRat.le_def] at *
    cases a <;> cases b <;> simp_all [ExtRat.le]
  zero_le_add {a b} ha hb := by
    rw [ExtRat.zero_literal, ExtRat.le_def] at *
    rw [ExtRat.add_def]
    cases a <;> cases b <;> simp_all [ExtRat.le, ExtRat.add]
    exact add_nonneg ha hb
  roundInt_ofInt i _ _ := congrArg Except.ok (roundHalfEven_intCast (K := ℚ) i)

instance : ExactIntegers ExtRat where
  ofInt_add i j _ _ := congrArg ExtRat.fin (Int.cast_add i j).symm
  roundInt_sum i _ := congrArg Except.ok (roundHalfEven_intCast (K := ℚ) i)

end MotionServer
