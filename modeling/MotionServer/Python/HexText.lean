import MotionServer.Lib.Hex
import MotionServer.Python.Numerals

/-!
# Texts of bytes and of integers

* `fromHex`: `bytes.fromhex`;
* **`fromHex_digits`**: its bytes have the digits of the text;
* **`parseIntLiteral_toString`**: `int(str(i), 0)` is `i`, where it is an integer at all.
-/

namespace MotionServer

/-! ## Bytes -/

/-- `Py_ISSPACE`. -/
def isAsciiSpace (c : Char) : Bool := c = ' ' || (decide ('\t' ≤ c) && decide (c ≤ '\r'))

/-- `bytes.fromhex(s)`: blanks may stand between the bytes. -/
def fromHex : List Char → Option (List Byte)
  | [] => some []
  | [c] => if isAsciiSpace c then some [] else none
  | c :: c' :: rest =>
    if isAsciiSpace c then fromHex (c' :: rest)
    else match Hex.digit? c, Hex.digit? c' with
      | some high, some low => (fromHex rest).map (BitVec.ofNat 8 (16 * high + low) :: ·)
      | _, _ => none

theorem not_isAsciiSpace {c : Char} {d : ℕ} (h : Hex.digit? c = some d) :
    isAsciiSpace c = false := by
  by_contra hspace
  have hle : c.toNat ≤ 32 := by
    simp only [isAsciiSpace, Bool.not_eq_false, Bool.or_eq_true, decide_eq_true_eq,
      Bool.and_eq_true] at hspace
    rcases hspace with rfl | ⟨-, hc⟩
    · decide
    · have hc : c.toNat ≤ '\r'.toNat := hc
      exact le_trans hc (by decide)
  have habove : ∀ c' : Char, 32 < c'.toNat → ¬ c' ≤ c := by
    intro c' hlt hc
    have hc : c'.toNat ≤ c.toNat := hc
    omega
  have h0 := habove '0' (by decide)
  have ha := habove 'a' (by decide)
  have hA := habove 'A' (by decide)
  simp [Hex.digit?, h0, ha, hA] at h

/-- **The bytes have the digits of the text.** -/
theorem fromHex_digits {l : List Char} {payload : List Byte} (h : fromHex l = some payload) :
    (l.filter fun c => !isAsciiSpace c).mapM Hex.digit? = some (Hex.nibbles payload) := by
  induction l using fromHex.induct generalizing payload with
  | case1 =>
    obtain rfl := Option.some.inj h
    rfl
  | case2 c hspace =>
    rw [fromHex, if_pos hspace] at h
    obtain rfl := Option.some.inj h
    simp [hspace, Hex.nibbles]
  | case3 c hspace =>
    rw [fromHex, if_neg hspace] at h
    cases h
  | case4 c c' rest hspace ih =>
    rw [fromHex, if_pos hspace] at h
    rw [List.filter_cons_of_neg (by simp [hspace])]
    exact ih h
  | case5 c c' rest hspace high low hlow hhigh ih =>
    rw [fromHex, if_neg hspace, hhigh, hlow] at h
    obtain ⟨tail, htail, rfl⟩ := Option.map_eq_some_iff.mp h
    have hlt := Hex.digit_lt hhigh
    have hlt' := Hex.digit_lt hlow
    have hbyte : (BitVec.ofNat 8 (16 * high + low)).toNat = 16 * high + low := by
      rw [BitVec.toNat_ofNat]
      omega
    have hdiv : (16 * high + low) / 16 = high := by omega
    have hmod : (16 * high + low) % 16 = low := by omega
    rw [List.filter_cons_of_pos (by simp [hspace]),
      List.filter_cons_of_pos (by simp [not_isAsciiSpace hlow]), List.mapM_cons, List.mapM_cons,
      hhigh, hlow, ih htail, Hex.nibbles_cons, hbyte, hdiv, hmod]
    rfl
  | case6 c c' rest hspace hdigits =>
    rw [fromHex, if_neg hspace] at h
    split at h
    · rename_i high low hhigh hlow
      exact absurd hlow (hdigits high low hhigh)
    · cases h

/-- Written bytes are read back. -/
theorem fromHex_chars (l : List Byte) : fromHex (Hex.chars l) = some l := by
  induction l with
  | nil => rfl
  | cons b l ih =>
    have hb := b.isLt
    have hhigh := Hex.digit_digitChar (b.toNat / 16) (by omega)
    have hlow := Hex.digit_digitChar (b.toNat % 16) (by omega)
    have hbyte : BitVec.ofNat 8 (16 * (b.toNat / 16) + b.toNat % 16) = b := by
      apply BitVec.eq_of_toNat_eq
      rw [BitVec.toNat_ofNat]
      omega
    show fromHex (_ :: _ :: Hex.chars l) = _
    rw [fromHex, not_isAsciiSpace hhigh, if_neg Bool.false_ne_true, hhigh, hlow, ih]
    show some (_ :: l) = _
    rw [hbyte]

/-! ## Integers -/

theorem readsDigit_digitChar : ∀ d < 10, ReadsDigit (Nat.digitChar d) d := by
  intro d hd
  have hall : ∀ d < 10, isPySpace (Nat.digitChar d) = false ∧ Nat.digitChar d ≠ '-' ∧
      Nat.digitChar d ≠ '+' ∧ Nat.digitChar d ≠ '_' ∧ digitValue (Nat.digitChar d) = some d := by
    decide
  obtain ⟨hspace, hminus, hplus, hunderscore, hdigit⟩ := hall d hd
  exact ⟨hspace, hminus, hplus, hunderscore, hdigit, hd⟩

theorem decimalValue_append (value : ℕ) (digits digits' : List ℕ) :
    decimalValue value (digits ++ digits') = decimalValue (decimalValue value digits) digits' :=
  List.foldl_append

/-- The digits of a number. -/
theorem exists_digits (n : ℕ) : ∃ digits, List.Forall₂ ReadsDigit (Nat.toDigits 10 n) digits ∧
    decimalValue 0 digits = n := by
  induction n using Nat.strong_induction_on with
  | _ n ih =>
    by_cases h : n < 10
    · refine ⟨[n], ?_, ?_⟩
      · rw [Nat.toDigits_of_lt_base h]
        exact .cons (readsDigit_digitChar n h) .nil
      · simp [decimalValue]
    · obtain ⟨digits, hdigits, hvalue⟩ := ih (n / 10) (by omega)
      refine ⟨digits ++ [n % 10], ?_, ?_⟩
      · rw [Nat.toDigits_of_base_le (by decide) (by omega)]
        exact List.rel_append hdigits (.cons (readsDigit_digitChar _ (by omega)) .nil)
      · rw [decimalValue_append, hvalue]
        show n / 10 * 10 + n % 10 = n
        omega

/-- No digit is the letter of a base. -/
theorem startsWithBase_of_readsDigit {l : List Char} {digits : List ℕ}
    (h : List.Forall₂ ReadsDigit l digits) : startsWithBase l = false := by
  unfold startsWithBase
  split
  · rename_i c rest
    obtain ⟨_, _, _, hrest, -⟩ := List.forall₂_cons_left_iff.mp h
    obtain ⟨d, _, hd, -, -⟩ := List.forall₂_cons_left_iff.mp hrest
    rw [decide_eq_false_iff_not]
    intro hc
    have hlt := hd.lt_ten
    have hdigit := hd.digit
    simp only [List.mem_cons, List.not_mem_nil, or_false] at hc
    rcases hc with rfl | rfl | rfl | rfl | rfl | rfl <;> cases hdigit <;>
      exact absurd hlt (by decide)
  · rfl

/-- The number of digits, with or without a prefix that there is none of. -/
theorem parsePrefixedDigits_of_readsDigit {l : List Char} {digits : List ℕ} {value : ℕ}
    (h : List.Forall₂ ReadsDigit l digits) (hne : l ≠ [])
    (hvalue : parsePrefixedDigits l = some value) : value = decimalValue 0 digits := by
  have hdecimal :=
    parseDecimalDigits_of_parsePrefixedDigits hvalue (startsWithBase_of_readsDigit h)
  rw [parseDecimalDigits, parseDigits_of_readsDigit h 0 0 false (Or.inr hne)] at hdecimal
  dsimp only at hdecimal
  split_ifs at hdecimal
  exact (Option.some.inj hdecimal).symm

/-- **`int(str(i), 0)` is `i`**, where there are not too many digits. -/
theorem parseIntLiteral_toString {i j : ℤ} (h : parseIntLiteral true (toString i) = some j) :
    j = i := by
  cases i with
  | ofNat n =>
    obtain ⟨digits, hdigits, hdecimal⟩ := exists_digits n
    have hl : (toString (Int.ofNat n)).toList = Nat.toDigits 10 n := Nat.toList_repr
    obtain ⟨hafter, hhead⟩ := afterSign_of_readsDigit hdigits
    rw [parseIntLiteral, parseSigned_eq, if_pos rfl, hl, stripChars_of_readsDigit hdigits,
      hafter] at h
    obtain ⟨value, hvalue, rfl⟩ := Option.map_eq_some_iff.mp h
    rw [if_neg hhead, parsePrefixedDigits_of_readsDigit hdigits Nat.toDigits_ne_nil hvalue, hdecimal]
    rfl
  | negSucc n =>
    obtain ⟨digits, hdigits, hdecimal⟩ := exists_digits (n + 1)
    have hl : (toString (Int.negSucc n)).toList = '-' :: Nat.toDigits 10 (n + 1) := by
      simp [toString, Int.repr, String.toList_append, Nat.toList_repr]
    have hstrip : stripChars ('-' :: Nat.toDigits 10 (n + 1)) = '-' :: Nat.toDigits 10 (n + 1) := by
      apply stripChars_of_not_isPySpace
      intro c hc
      rcases List.mem_cons.mp hc with rfl | hc
      · decide
      · obtain ⟨d, hd⟩ := exists_readsDigit hdigits hc
        exact hd.not_space
    rw [parseIntLiteral, parseSigned_eq, if_pos rfl, hl, hstrip] at h
    obtain ⟨value, hvalue, rfl⟩ := Option.map_eq_some_iff.mp h
    rw [List.head?_cons, if_pos rfl,
      parsePrefixedDigits_of_readsDigit hdigits Nat.toDigits_ne_nil hvalue, hdecimal]
    rfl

end MotionServer
