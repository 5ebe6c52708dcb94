import MotionServer.Python.Value

/-!
# Two readings of an integer

`int(s)` and `int(s, 0)` read a text alike unless it has a base prefix. Of a text of digits, `int`
reads one number and a loop over its characters one digit each.

* `hasBasePrefix`, **`parseIntLiteral_of_parseIntLiteral`**: what `int(s)` makes of a text that
  `int(s, 0)` accepts;
* `ReadsDigit`, `parseIntLiteral_of_readsDigit`: texts of decimal digits;
* **`forall_eq_decimalValue_iff`**: the digits that all equal their number.
-/

namespace MotionServer

/-! ## Base prefixes -/

/-- What follows an optional sign. -/
def afterSign : List Char → List Char
  | '-' :: rest => rest
  | '+' :: rest => rest
  | l => l

/-- Digits that start with `0x`, `0o` or `0b`. -/
def startsWithBase : List Char → Bool
  | '0' :: c :: _ => c ∈ ['x', 'X', 'o', 'O', 'b', 'B']
  | _ => false

/-- A numeral in another base: `int(s, 0)` reads it, `int(s)` does not. -/
def hasBasePrefix (s : String) : Bool := startsWithBase (afterSign (stripChars s.toList))

theorem parseSigned_eq (digits : List Char → Option ℕ) (l : List Char) :
    parseSigned digits l =
      (digits (afterSign l)).map fun value : ℕ =>
        if l.head? = some '-' then -(value : ℤ) else (value : ℤ) := by
  unfold parseSigned afterSign
  split
  · rename_i rest
    show _ = Option.map _ (digits rest)
    cases digits rest <;> rfl
  · rename_i rest
    show _ = Option.map _ (digits rest)
    cases digits rest <;> rfl
  · rename_i h _
    have hne : l.head? ≠ some '-' := by
      intro hl
      obtain ⟨rest, rfl⟩ := List.head?_eq_some_iff.mp hl
      exact h rest rfl
    simp only [if_neg hne]
    cases digits l <;> rfl

theorem parseDecimalDigits_of_startsWithBase {l : List Char} (h : startsWithBase l = true) :
    parseDecimalDigits l = none := by
  unfold startsWithBase at h
  split at h
  · rename_i c rest
    have hdigits : parseDigits 10 false 0 0 ('0' :: c :: rest) = none := by
      have h0 : digitValue '0' = some 0 := by decide
      rw [parseDigits, if_neg (by decide), h0]
      simp only [List.mem_cons, List.not_mem_nil, or_false, decide_eq_true_eq] at h
      rcases h with rfl | rfl | rfl | rfl | rfl | rfl <;> rfl
    rw [parseDecimalDigits, hdigits]
  · exact absurd h (by decide)

theorem parseDecimalDigits_of_parsePrefixedDigits {l : List Char} {value : ℕ}
    (h : parsePrefixedDigits l = some value) (hbase : startsWithBase l = false) :
    parseDecimalDigits l = some value := by
  unfold parsePrefixedDigits at h
  split at h
  · rename_i c rest
    simp only [startsWithBase, List.mem_cons, List.not_mem_nil, or_false,
      decide_eq_false_iff_not, not_or] at hbase
    obtain ⟨hx, hX, ho, hO, hb, hB⟩ := hbase
    rw [if_neg (by simp [hx, hX]), if_neg (by simp [ho, hO]), if_neg (by simp [hb, hB])] at h
    exact (Option.filter_eq_some_iff.mp h).1
  · exact h

/-- **`int(s)` reads what `int(s, 0)` reads, but no numeral with a base prefix.** -/
theorem parseIntLiteral_of_parseIntLiteral {s : String} {i : ℤ}
    (h : parseIntLiteral true s = some i) :
    parseIntLiteral false s = if hasBasePrefix s = true then none else some i := by
  rw [parseIntLiteral, parseSigned_eq, if_pos rfl] at h
  rw [parseIntLiteral, parseSigned_eq, if_neg (by decide)]
  obtain ⟨value, hvalue, rfl⟩ := Option.map_eq_some_iff.mp h
  by_cases hbase : hasBasePrefix s = true
  · rw [if_pos hbase, parseDecimalDigits_of_startsWithBase hbase, Option.map_none]
  · rw [if_neg hbase, parseDecimalDigits_of_parsePrefixedDigits hvalue (eq_false_of_ne_true hbase),
      Option.map_some]

/-! ## Texts of digits -/

/-- `int` reads the character as a digit. -/
structure ReadsDigit (c : Char) (d : ℕ) : Prop where
  not_space : isPySpace c = false
  ne_minus : c ≠ '-'
  ne_plus : c ≠ '+'
  ne_underscore : c ≠ '_'
  digit : digitValue c = some d
  lt_ten : d < 10

/-- The number that decimal digits make after `value`. -/
def decimalValue (value : ℕ) (digits : List ℕ) : ℕ :=
  digits.foldl (fun value d => value * 10 + d) value

theorem parseDigits_single {c : Char} {count value : ℕ}
    (h : parseDigits 10 false 0 0 [c] = some (count, value)) :
    c ≠ '_' ∧ digitValue c = some value ∧ value < 10 ∧ count = 1 := by
  rw [parseDigits] at h
  split at h
  · exact absurd h (by simp)
  · rename_i hc
    split at h
    · rename_i d hd
      split at h
      · rename_i hlt
        simp only [parseDigits, if_true, Option.some.injEq, Prod.mk.injEq] at h
        obtain ⟨rfl, rfl⟩ := h
        exact ⟨hc, by simpa using hd, by simpa using hlt, rfl⟩
      · exact absurd h (by simp)
    · exact absurd h (by simp)

theorem parseDecimalDigits_single {c : Char} {value : ℕ} (h : parseDecimalDigits [c] = some value) :
    c ≠ '_' ∧ digitValue c = some value ∧ value < 10 := by
  unfold parseDecimalDigits at h
  split at h
  · rename_i count v hdigits
    obtain ⟨hc, hd, hlt, hcount⟩ := parseDigits_single hdigits
    rw [hcount, if_pos (by decide)] at h
    obtain rfl := Option.some.inj h
    exact ⟨hc, hd, hlt⟩
  · exact absurd h (by simp)

/-- A text of one character is read as a digit. -/
theorem readsDigit_of_parseIntLiteral {anyBase : Bool} {c : Char} {i : ℤ}
    (h : parseIntLiteral anyBase (String.ofList [c]) = some i) : ∃ d : ℕ, i = d ∧ ReadsDigit c d := by
  rw [parseIntLiteral, parseSigned_eq, String.toList_ofList] at h
  obtain ⟨value, hvalue, rfl⟩ := Option.map_eq_some_iff.mp h
  have hempty : ∀ l, afterSign (stripChars [c]) = l → l ≠ [] := by
    rintro l hl rfl
    rw [hl] at hvalue
    cases anyBase <;> cases hvalue
  have hspace : isPySpace c = false := by
    by_contra hs
    refine hempty _ rfl ?_
    have hstrip : stripChars [c] = [] := by
      simp [stripChars, List.dropWhile, eq_true_of_ne_false hs]
    rw [hstrip]
    rfl
  have hstrip : stripChars [c] = [c] := by simp [stripChars, List.dropWhile, hspace]
  rw [hstrip] at hempty hvalue ⊢
  have hminus : c ≠ '-' := fun hc => hempty [] (by rw [hc, afterSign]) rfl
  have hplus : c ≠ '+' := fun hc => hempty [] (by rw [hc, afterSign]) rfl
  have hafter : afterSign [c] = [c] := by
    unfold afterSign
    split
    · rename_i h; exact absurd (List.cons.inj h).1 hminus
    · rename_i h; exact absurd (List.cons.inj h).1 hplus
    · rfl
  rw [hafter] at hvalue
  have hdecimal : parseDecimalDigits [c] = some value := by
    cases anyBase with
    | false => exact hvalue
    | true =>
      have hvalue : parsePrefixedDigits [c] = some value := hvalue
      unfold parsePrefixedDigits at hvalue
      split at hvalue
      · rename_i h
        exact absurd (congrArg List.length h) (by simp)
      · exact hvalue
  obtain ⟨hunderscore, hdigit, hlt⟩ := parseDecimalDigits_single hdecimal
  refine ⟨value, ?_, hspace, hminus, hplus, hunderscore, hdigit, hlt⟩
  rw [List.head?_cons, if_neg (by simpa using hminus)]

/-- The digits read so far and those that follow. -/
theorem parseDigits_of_readsDigit {l : List Char} {digits : List ℕ}
    (h : List.Forall₂ ReadsDigit l digits) (count value : ℕ) (afterDigit : Bool)
    (hne : afterDigit = true ∨ l ≠ []) :
    parseDigits 10 afterDigit count value l =
      some (count + l.length, decimalValue value digits) := by
  induction h generalizing count value afterDigit with
  | nil => rw [parseDigits, if_pos (by simpa using hne)]; rfl
  | @cons c d l digits hd hrest ih =>
    rw [parseDigits, if_neg hd.ne_underscore, hd.digit]
    show (if d < 10 then _ else none) = _
    rw [if_pos hd.lt_ten, ih _ _ true (Or.inl rfl), List.length_cons]
    congr 2
    omega

/-- A text without blanks is not stripped. -/
theorem stripChars_of_not_isPySpace {l : List Char} (h : ∀ c ∈ l, isPySpace c = false) :
    stripChars l = l := by
  have hdrop : ∀ l : List Char, (∀ c ∈ l, isPySpace c = false) → l.dropWhile isPySpace = l := by
    intro l hl
    cases l with
    | nil => rfl
    | cons c l => rw [List.dropWhile_cons_of_neg (by simp [hl c (by simp)])]
  rw [stripChars, hdrop l h, hdrop _ (fun c hc => h c (List.mem_reverse.mp hc)),
    List.reverse_reverse]

theorem exists_readsDigit {l : List Char} {digits : List ℕ} (h : List.Forall₂ ReadsDigit l digits)
    {c : Char} (hc : c ∈ l) : ∃ d, ReadsDigit c d := by
  induction h with
  | nil => cases hc
  | cons hd _ ih =>
    rcases List.mem_cons.mp hc with rfl | hc
    · exact ⟨_, hd⟩
    · exact ih hc

theorem stripChars_of_readsDigit {l : List Char} {digits : List ℕ}
    (h : List.Forall₂ ReadsDigit l digits) : stripChars l = l := by
  apply stripChars_of_not_isPySpace
  intro c hc
  obtain ⟨d, hd⟩ := exists_readsDigit h hc
  exact hd.not_space

theorem afterSign_of_readsDigit {l : List Char} {digits : List ℕ}
    (h : List.Forall₂ ReadsDigit l digits) : afterSign l = l ∧ l.head? ≠ some '-' := by
  cases h with
  | nil => exact ⟨rfl, by simp⟩
  | @cons c d l digits hd _ =>
    refine ⟨?_, by simpa using hd.ne_minus⟩
    unfold afterSign
    split
    · rename_i h; exact absurd (List.cons.inj h).1 hd.ne_minus
    · rename_i h; exact absurd (List.cons.inj h).1 hd.ne_plus
    · rfl

/-- `int(s)` of a text of digits: their number, unless there are too many. -/
theorem parseIntLiteral_of_readsDigit {s : String} {digits : List ℕ}
    (h : List.Forall₂ ReadsDigit s.toList digits) (hne : digits ≠ []) :
    parseIntLiteral false s =
      if digits.length ≤ maxStrDigits then some (decimalValue 0 digits : ℤ) else none := by
  obtain ⟨hafter, hhead⟩ := afterSign_of_readsDigit h
  have hl : s.toList ≠ [] := fun hl => hne (List.forall₂_nil_left_iff.mp (hl ▸ h))
  rw [parseIntLiteral, parseSigned_eq, if_neg (by decide), stripChars_of_readsDigit h, hafter,
    parseDecimalDigits, parseDigits_of_readsDigit h 0 0 false (Or.inr hl), ← h.length_eq, zero_add]
  simp only [if_neg hhead]
  split_ifs <;> rfl

/-! ## Digits and their number -/

theorem le_decimalValue (digits : List ℕ) (value : ℕ) : value ≤ decimalValue value digits := by
  induction digits generalizing value with
  | nil => exact le_rfl
  | cons d digits ih => exact le_trans (by omega) (ih (value * 10 + d))

theorem decimalValue_eq_zero {digits : List ℕ} (h : ∀ d ∈ digits, d = 0) :
    decimalValue 0 digits = 0 := by
  induction digits with
  | nil => rfl
  | cons d digits ih =>
    rw [decimalValue, List.foldl_cons, h d (by simp)]
    exact ih fun d hd => h d (List.mem_cons_of_mem _ hd)

/-- **Digits that all equal their number**: there is one of them, or they are zeros. -/
theorem forall_eq_decimalValue_iff {digits : List ℕ} (hne : digits ≠ []) :
    (∀ d ∈ digits, d = decimalValue 0 digits) ↔ digits.length = 1 ∨ ∀ d ∈ digits, d = 0 := by
  constructor
  · intro h
    match digits, hne with
    | [d], _ => exact Or.inl rfl
    | d :: d' :: rest, _ =>
      right
      -- the first of two digits counts ten times
      have hle : (0 * 10 + d) * 10 + d' ≤ decimalValue 0 (d :: d' :: rest) := le_decimalValue rest _
      have hd := h d (by simp)
      have hzero : decimalValue 0 (d :: d' :: rest) = 0 := by omega
      rwa [hzero] at h
  · rintro (h | h)
    · obtain ⟨d, rfl⟩ := List.length_eq_one_iff.mp h
      intro d' hd'
      rw [List.mem_singleton.mp hd']
      exact (Nat.zero_add _).symm
    · rw [decimalValue_eq_zero h]
      exact h

end MotionServer
