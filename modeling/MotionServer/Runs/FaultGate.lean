import MotionServer.Api.FaultGate
import MotionServer.Lib.Except
import MotionServer.Runs.Requests

/-!
# What the gate of the active faults examines

* `examines_iff_of_digits`, **`examines_iff_of_raw`**: requests read by `parse_axis_indices`;
* `examines_iff_of_axis`, `examines_iff_of_trajectory`: requests that can mean all axes;
* **`GuardedCommand.gate_complete_iff`**: of the requests that gate and handler read alike, and of
  no other accepted request, the gate examines exactly the axes acted on.
-/

namespace MotionServer

variable {F : Type} [PyFloat F] {n : ℕ} {T : Type}

/-! ## The values the gate reads -/

/-- The values that `_selected_axis_indices` converts. -/
def gateValues (message : Message F) : List (Value F) :=
  match message.getD "axes" .null with
  | .null => (message.get? "axis").toList
  | .list values => values
  | value => [value]

/-- What the gate makes of the values it has converted. -/
def examinedIndices : Except PyExc (List ℤ) → Except PyExc (List ℤ)
  | .ok indices => .ok indices
  | .error e => if e.isTypeOrValueError then .ok [] else .error e

theorem selectedAxisIndices_eq (message : Message F) :
    selectedAxisIndices message =
      examinedIndices ((gateValues message).mapM Value.toInt) := rfl

omit [PyFloat F] in
theorem gateValues_of_axis {message : Message F} {axis : Value F}
    (haxes : message.get? "axes" = none) (haxis : message.get? "axis" = some axis) :
    gateValues message = [axis] := by
  rw [gateValues, Message.getD, haxes, haxis]
  rfl

omit [PyFloat F] in
theorem gateValues_of_list {message : Message F} {items : List (Value F)}
    (haxes : message.get? "axes" = some (.list items)) : gateValues message = items := by
  rw [gateValues, Message.getD, haxes]
  rfl

omit [PyFloat F] in
theorem gateValues_of_str {message : Message F} {s : String}
    (haxes : message.get? "axes" = some (.str s)) : gateValues message = [.str s] := by
  rw [gateValues, Message.getD, haxes]
  rfl

omit [PyFloat F] in
theorem gateValues_of_dict {message : Message F} {entries : List (String × Value F)}
    (haxes : message.get? "axes" = some (.dict entries)) :
    gateValues message = [.dict entries] := by
  rw [gateValues, Message.getD, haxes]
  rfl

/-- What the gate reads is what it examines. -/
theorem examines_iff_of_ok {message : Message F} {axes : List (Fin n)} {indices : List ℤ}
    (h : (gateValues message).mapM Value.toInt = .ok indices) :
    Examines message axes ↔
      ∀ index, 0 ≤ index → (index ∈ indices ↔ ∃ a ∈ axes, (a.val : ℤ) = index) := by
  rw [Examines, selectedAxisIndices_eq, h]
  constructor
  · rintro ⟨indices', hok, hall⟩
    rw [Except.ok.inj hok]
    exact hall
  · intro hall
    exact ⟨indices, rfl, hall⟩

/-- What the gate cannot read it does not examine. -/
theorem not_examines_of_error {message : Message F} {axes : List (Fin n)} {e : PyExc}
    (h : (gateValues message).mapM Value.toInt = .error e) (hne : axes ≠ []) :
    ¬ Examines message axes := by
  rintro ⟨indices, hok, hall⟩
  rw [selectedAxisIndices_eq, h, examinedIndices] at hok
  split at hok
  · obtain rfl := Except.ok.inj hok
    obtain ⟨a, ha⟩ := List.exists_mem_of_ne_nil axes hne
    exact absurd ((hall a.val (by omega)).mpr ⟨a, ha, rfl⟩) (List.not_mem_nil)
  · exact absurd hok (by simp)

/-! ## Numbers -/

/-- `int` of what `parse_int` has read. -/
theorem toInt_of_parseInt {value : Value F} {i : ℤ} (h : value.parseInt = .ok i) :
    value.toInt = if value.hasBasePrefix = true then .error .valueError else .ok i := by
  -- the texts of what is neither integer nor text are no numerals
  have hnone : parseIntLiteral true "None" = none := by decide
  have hfloat : parseIntLiteral true "0.0" = none := by decide
  have hlist : parseIntLiteral true "[]" = none := by decide
  have hdict : parseIntLiteral true "\x7b\x7d" = none := by decide
  cases value with
  | int j => exact h
  | bool b => exact h
  | str s =>
    unfold Value.parseInt at h
    simp only [Value.text] at h
    split at h
    · rename_i j hj
      rw [Value.toInt, parseIntLiteral_of_parseIntLiteral hj]
      obtain rfl := Except.ok.inj h
      show _ = if MotionServer.hasBasePrefix s = true then _ else _
      split_ifs <;> rfl
    · exact absurd h (by simp)
  | null => simp [Value.parseInt, Value.text, hnone] at h
  | float x => simp [Value.parseInt, Value.text, hfloat] at h
  | list items => simp [Value.parseInt, Value.text, hlist] at h
  | dict entries => simp [Value.parseInt, Value.text, hdict] at h

theorem mapM_toInt_of_plain {items : List (Value F)} {indices : List ℤ}
    (h : items.mapM Value.parseInt = .ok indices)
    (hplain : ∀ item ∈ items, item.hasBasePrefix = false) :
    items.mapM Value.toInt = .ok indices := by
  rw [Except.mapM_eq_ok_iff] at h ⊢
  induction h with
  | nil => exact .nil
  | cons hitem _ ih =>
    refine .cons ?_ (ih fun item hitem => hplain item (List.mem_cons_of_mem _ hitem))
    rw [toInt_of_parseInt hitem, if_neg (by simp [hplain _ (List.mem_cons_self ..)])]

theorem mapM_toInt_of_prefixed {items : List (Value F)} {indices : List ℤ}
    (h : items.mapM Value.parseInt = .ok indices)
    (hprefixed : ∃ item ∈ items, item.hasBasePrefix = true) :
    items.mapM Value.toInt = .error .valueError := by
  rw [Except.mapM_eq_ok_iff] at h
  induction h with
  | nil => exact absurd hprefixed (by simp)
  | @cons item i rest indices hitem _ ih =>
    rw [List.mapM_cons, toInt_of_parseInt hitem]
    by_cases hbase : item.hasBasePrefix = true
    · rw [if_pos hbase]
      rfl
    · obtain ⟨item', hmem, hitem'⟩ := hprefixed
      have hrest : item' ∈ rest := by
        rcases List.mem_cons.mp hmem with rfl | hrest
        · exact absurd hitem' hbase
        · exact hrest
      rw [if_neg hbase, ih ⟨item', hrest, hitem'⟩]
      rfl

omit [PyFloat F] in
/-- The characters of a text, each read as a digit. -/
theorem readsDigits_of_mapM {s : String} {indices : List ℤ} {read : Value F → Except PyExc ℤ}
    (hread : ∀ c i, read (.str (String.ofList [c])) = .ok i → ∃ d : ℕ, i = d ∧ ReadsDigit c d)
    (h : (s.toList.map fun c => Value.str (String.ofList [c])).mapM read = .ok indices) :
    ∃ digits : List ℕ, indices = digits.map (↑) ∧ List.Forall₂ ReadsDigit s.toList digits := by
  rw [Except.mapM_eq_ok_iff] at h
  generalize s.toList = l at h
  induction l generalizing indices with
  | nil =>
    rw [List.map_nil, List.forall₂_nil_left_iff] at h
    exact ⟨[], h, .nil⟩
  | cons c l ih =>
    rw [List.map_cons, List.forall₂_cons_left_iff] at h
    obtain ⟨i, rest, hi, hrest, rfl⟩ := h
    obtain ⟨d, rfl, hd⟩ := hread c i hi
    obtain ⟨digits, rfl, hdigits⟩ := ih hrest
    exact ⟨d :: digits, rfl, .cons hd hdigits⟩

omit [PyFloat F] in
theorem readsDigit_of_parseInt (c : Char) (i : ℤ)
    (h : (Value.str (String.ofList [c]) : Value F).parseInt = .ok i) :
    ∃ d : ℕ, i = d ∧ ReadsDigit c d := by
  unfold Value.parseInt at h
  simp only [Value.text] at h
  split at h
  · rename_i j hj
    obtain rfl := Except.ok.inj h
    exact readsDigit_of_parseIntLiteral hj
  · exact absurd h (by simp)

theorem readsDigit_of_toInt (c : Char) (i : ℤ)
    (h : (Value.str (String.ofList [c]) : Value F).toInt = .ok i) :
    ∃ d : ℕ, i = d ∧ ReadsDigit c d := by
  unfold Value.toInt at h
  simp only at h
  split at h
  · rename_i j hj
    obtain rfl := Except.ok.inj h
    exact readsDigit_of_parseIntLiteral hj
  · exact absurd h (by simp)

theorem oneDigit_iff {s : String} {digits : List ℕ}
    (h : List.Forall₂ ReadsDigit s.toList digits) :
    OneDigit s ↔ digits.length = 1 ∨ digits.length ≤ maxStrDigits ∧ ∀ d ∈ digits, d = 0 := by
  have hlength : s.length = digits.length := by rw [← h.length_eq, String.length_toList]
  have hzero : (∀ c ∈ s.toList, digitValue c = some 0) ↔ ∀ d ∈ digits, d = 0 := by
    clear hlength
    generalize s.toList = l at h
    induction h with
    | nil => simp
    | cons hd _ ih => simp only [List.forall_mem_cons, ih, hd.digit, Option.some.injEq]
  rw [OneDigit, hlength, hzero]

/-! ## Axes of indices -/

omit [PyFloat F] in
theorem val_of_toAxis {index : ℤ} {a : Fin n} (h : toAxis n index = some a) :
    (a.val : ℤ) = index := by
  unfold toAxis at h
  split at h
  · rename_i hrange
    obtain rfl := Option.some.inj h
    exact Int.toNat_of_nonneg hrange.1
  · exact absurd h (by simp)

theorem map_val_of_axesOf {indices : List ℤ} {axes : List (Fin n)}
    (h : axesOf n indices = .ok axes) : axes.map (fun a => (a.val : ℤ)) = indices := by
  induction indices generalizing axes with
  | nil =>
    obtain rfl := Except.ok.inj h
    rfl
  | cons index rest ih =>
    unfold axesOf at h
    split at h
    · rename_i a ha
      obtain ⟨axes', haxes', h⟩ := Except.bind_eq_ok.mp h
      obtain rfl := Except.ok.inj h
      rw [List.map_cons, val_of_toAxis ha, ih haxes']
    · exact absurd h (by simp)

theorem map_val_of_trajectoryAxes {indices : List ℤ} {axes : List (Fin n)}
    (h : trajectoryAxes n indices = some axes) : axes.map (fun a => (a.val : ℤ)) = indices := by
  unfold trajectoryAxes at h
  induction indices generalizing axes with
  | nil =>
    rw [List.mapM_nil] at h
    obtain rfl := Option.some.inj h
    rfl
  | cons index rest ih =>
    rw [List.mapM_cons, Option.bind_eq_bind, Option.bind_eq_some_iff] at h
    obtain ⟨a, ha, h⟩ := h
    rw [Option.bind_eq_bind, Option.bind_eq_some_iff] at h
    obtain ⟨axes', haxes', h⟩ := h
    obtain rfl := Option.some.inj h
    rw [List.map_cons, val_of_toAxis ha, ih haxes']

omit [PyFloat F] in
theorem selectedAxes_eq_ok {message : Message F} {axes : List (Fin n)}
    (h : selectedAxes n message = .ok axes) :
    rawAxisIndices n message = .ok (axes.map fun a => (a.val : ℤ)) ∧ axes ≠ [] := by
  unfold selectedAxes at h
  split at h
  · split at h <;> exact absurd h (by simp)
  · exact absurd h (by simp)
  · rename_i indices hne hraw
    rw [hraw, map_val_of_axesOf h]
    refine ⟨rfl, fun hnil => hne ?_⟩
    rw [← map_val_of_axesOf h, hnil]
    rfl

/-! ## Requests read by `parse_axis_indices` -/

theorem mem_map_val {axes : List (Fin n)} {index : ℤ} :
    index ∈ axes.map (fun a => (a.val : ℤ)) ↔ ∃ a ∈ axes, (a.val : ℤ) = index := List.mem_map

/-- The gate reads the indices of the axes. -/
theorem examines_of_ok {message : Message F} {axes : List (Fin n)}
    (h : (gateValues message).mapM Value.toInt = .ok (axes.map fun a => (a.val : ℤ))) :
    Examines message axes :=
  (examines_iff_of_ok h).mpr fun _ _ => mem_map_val

/-- What cannot be read is no axis. -/
theorem examines_nil_of_error {message : Message F} {e : PyExc}
    (h : (gateValues message).mapM Value.toInt = .error e) (he : e.isTypeOrValueError = true) :
    Examines message ([] : List (Fin n)) := by
  refine ⟨[], ?_, by simp⟩
  rw [selectedAxisIndices_eq, h, examinedIndices, if_pos he]

/-- A text of digits: the handler reads each of them, the gate their number. -/
theorem examines_iff_of_digits {message : Message F} {axes : List (Fin n)} {s : String}
    {digits : List ℕ} (haxes : message.get? "axes" = some (.str s))
    (hdigits : List.Forall₂ ReadsDigit s.toList digits)
    (hval : axes.map (fun a => (a.val : ℤ)) = digits.map (↑)) (hne : axes ≠ []) :
    Examines message axes ↔ OneDigit s := by
  have hdigits_ne : digits ≠ [] := by
    rintro rfl
    exact hne (List.map_eq_nil_iff.mp hval)
  have hread : (gateValues message).mapM Value.toInt =
      if digits.length ≤ maxStrDigits then .ok [(decimalValue 0 digits : ℤ)]
      else .error .valueError := by
    rw [gateValues_of_str haxes, List.mapM_cons, Value.toInt,
      parseIntLiteral_of_readsDigit hdigits hdigits_ne]
    split_ifs <;> rfl
  rw [oneDigit_iff hdigits]
  by_cases hlong : digits.length ≤ maxStrDigits
  · rw [if_pos hlong] at hread
    have hall : Examines message axes ↔ ∀ d ∈ digits, d = decimalValue 0 digits := by
      rw [examines_iff_of_ok hread]
      simp only [← mem_map_val, hval, List.mem_singleton, List.mem_map]
      constructor
      · intro h d hd
        exact_mod_cast (h d (by omega)).mpr ⟨d, hd, rfl⟩
      · intro h index _
        constructor
        · rintro rfl
          obtain ⟨d, hd⟩ := List.exists_mem_of_ne_nil digits hdigits_ne
          exact ⟨d, hd, by rw [h d hd]⟩
        · rintro ⟨d, hd, rfl⟩
          rw [h d hd]
    rw [hall, forall_eq_decimalValue_iff hdigits_ne]
    simp only [hlong, true_and]
  · rw [if_neg hlong] at hread
    have hone : digits.length ≠ 1 := fun h => hlong (h ▸ by decide)
    simp only [hlong, hone, false_and, or_false, iff_false]
    exact not_examines_of_error hread hne

theorem examines_iff_of_raw {message : Message F} {axes : List (Fin n)}
    (h : rawAxisIndices n message = .ok (axes.map fun a => (a.val : ℤ))) (hne : axes ≠ []) :
    Examines message axes ↔ SelectionReadsAlike message := by
  unfold rawAxisIndices at h
  unfold SelectionReadsAlike
  cases haxes : message.get? "axes" with
  | some value =>
    rw [haxes] at h
    obtain ⟨items, hitems, h⟩ := Except.bind_eq_ok.mp h
    cases value with
    | list items' =>
      obtain rfl := Except.ok.inj hitems
      show _ ↔ ∀ item ∈ items', item.hasBasePrefix = false
      by_cases hplain : ∀ item ∈ items', item.hasBasePrefix = false
      · refine iff_of_true (examines_of_ok ?_) hplain
        rw [gateValues_of_list haxes]
        exact mapM_toInt_of_plain h hplain
      · refine iff_of_false (not_examines_of_error (e := .valueError) ?_ hne) hplain
        rw [gateValues_of_list haxes]
        push Not at hplain
        exact mapM_toInt_of_prefixed h (by simpa using hplain)
    | str s =>
      obtain rfl := Except.ok.inj hitems
      obtain ⟨digits, hval, hdigits⟩ := readsDigits_of_mapM readsDigit_of_parseInt h
      exact examines_iff_of_digits haxes hdigits hval hne
    | dict entries =>
      refine iff_of_false (not_examines_of_error (e := .typeError) ?_ hne) (fun h => h)
      rw [gateValues_of_dict haxes]
      rfl
    | _ => exact absurd hitems (by simp [Value.iterate])
  | none =>
    rw [haxes] at h
    cases haxis : message.get? "axis" with
    | some axis =>
      rw [haxis] at h
      obtain ⟨i, hi, h⟩ := Except.bind_eq_ok.mp h
      have hval := Except.ok.inj h
      have hread : (gateValues message).mapM Value.toInt =
          if axis.hasBasePrefix = true then .error .valueError else .ok [i] := by
        rw [gateValues_of_axis haxes haxis, List.mapM_cons, toInt_of_parseInt hi]
        split_ifs <;> rfl
      show _ ↔ axis.hasBasePrefix = false
      by_cases hbase : axis.hasBasePrefix = true
      · rw [if_pos hbase] at hread
        exact iff_of_false (not_examines_of_error hread hne) (by simp [hbase])
      · rw [if_neg hbase, hval] at hread
        exact iff_of_true (examines_of_ok hread) (eq_false_of_ne_true hbase)
    | none =>
      refine iff_of_false ?_ (fun h => h)
      have hread : (gateValues message).mapM Value.toInt = .ok [] := by
        rw [gateValues, Message.getD, haxes, haxis]
        rfl
      rw [examines_iff_of_ok hread]
      intro hall
      obtain ⟨a, ha⟩ := List.exists_mem_of_ne_nil axes hne
      exact absurd ((hall a.val (by omega)).mpr ⟨a, ha, rfl⟩) List.not_mem_nil

/-! ## Requests that mean all axes -/

omit [PyFloat F] in
theorem eq_nil_of_no_axes (hn : n = 0) (axes : List (Fin n)) : axes = [] := by
  subst hn
  exact List.eq_nil_iff_forall_not_mem.mpr fun a _ => a.elim0

/-- An axis value that is read by `int`, or is `null` for all axes. -/
theorem examines_iff_of_axis {message : Message F} {axis : Value F} {axes : List (Fin n)}
    (haxes : message.get? "axes" = none) (haxis : message.get? "axis" = some axis)
    (hnull : axis = .null → axes = List.finRange n)
    (hint : axis ≠ .null → ∃ i a, axis.toInt = .ok i ∧ toAxis n i = some a ∧ axes = [a]) :
    Examines message axes ↔ n = 0 ∨ ∃ axis, message.get? "axis" = some axis ∧ axis ≠ .null := by
  have hvalues := gateValues_of_axis haxes haxis
  by_cases hisnull : axis = .null
  · have hread : (gateValues message).mapM Value.toInt = .error .typeError := by
      rw [hvalues, hisnull]
      rfl
    have hright : (n = 0 ∨ ∃ axis, message.get? "axis" = some axis ∧ axis ≠ .null) ↔ n = 0 := by
      simp [haxis, hisnull]
    rw [hright]
    by_cases hn : n = 0
    · refine iff_of_true ?_ hn
      rw [eq_nil_of_no_axes hn axes]
      exact examines_nil_of_error hread rfl
    · refine iff_of_false (not_examines_of_error hread ?_) hn
      rw [hnull hisnull]
      exact fun h => hn (by simpa using congrArg List.length h)
  · obtain ⟨i, a, hi, ha, rfl⟩ := hint hisnull
    refine iff_of_true (examines_of_ok ?_) (Or.inr ⟨axis, haxis, hisnull⟩)
    rw [hvalues, List.mapM_cons, hi, List.map_cons, val_of_toAxis ha]
    rfl

theorem examines_iff_of_trajectory {message : Message F} {axes : List (Fin n)}
    (hkey : message.has "axes" = true) (h : trajectoryRequestAxes n message = .ok axes) :
    Examines message axes ↔
      n = 0 ∨ (message.getD "axes" (.list [])).TrajectoryAxesReadAlike := by
  obtain ⟨value, haxes⟩ := Option.isSome_iff_exists.mp hkey
  have hgetD : message.getD "axes" (.list []) = value := by rw [Message.getD, haxes]; rfl
  rw [trajectoryRequestAxes, hgetD] at h
  rw [hgetD]
  obtain ⟨indices, hindices, h⟩ := Except.bind_eq_ok.mp h
  have hval : axes.map (fun a => (a.val : ℤ)) = indices := by
    split at h
    · rename_i axes' haxes'
      obtain rfl := Except.ok.inj h
      exact map_val_of_trajectoryAxes haxes'
    · exact absurd h (by simp [throw, throwThe, MonadExceptOf.throw])
  obtain ⟨items, hitems, hindices⟩ := Except.bind_eq_ok.mp hindices
  obtain ⟨read, hread, hindices⟩ := Except.bind_eq_ok.mp hindices
  have hindices := Except.ok.inj hindices
  have hlength := (Except.mapM_eq_ok_iff.mp hread).length_eq
  -- without items all axes are meant, and the gate reads none of them
  have hempty : items = [] → (axes = [] ↔ n = 0) := by
    rintro rfl
    obtain rfl := List.eq_nil_of_length_eq_zero hlength.symm
    rw [List.isEmpty_nil, if_pos rfl] at hindices
    constructor
    · rintro rfl
      rw [← hval] at hindices
      simpa using congrArg List.length hindices
    · exact fun hn => eq_nil_of_no_axes hn axes
  have hfull : items ≠ [] → axes.map (fun a => (a.val : ℤ)) = read ∧ axes ≠ [] ∧ n ≠ 0 := by
    intro hne
    have hread_ne : read ≠ [] := by
      rintro rfl
      exact hne (List.eq_nil_of_length_eq_zero hlength)
    rw [if_neg (by simpa using hread_ne)] at hindices
    have hax : axes ≠ [] := by
      rintro rfl
      exact hread_ne (hindices.trans hval.symm)
    exact ⟨hval.trans hindices.symm, hax, fun hn => hax (eq_nil_of_no_axes hn axes)⟩
  have hnone (hitems : items = []) {e : PyExc} (he : e.isTypeOrValueError = true)
      (hgate : (gateValues message).mapM Value.toInt = .error e) :
      Examines message axes ↔ n = 0 := by
    rw [← hempty hitems]
    constructor
    · intro hex
      by_contra hne
      exact not_examines_of_error hgate hne hex
    · rintro rfl
      exact examines_nil_of_error hgate he
  cases value with
  | list items' =>
    obtain rfl := Except.ok.inj hitems
    show _ ↔ n = 0 ∨ items' ≠ []
    have hgate := (congrArg (List.mapM Value.toInt) (gateValues_of_list haxes)).trans hread
    by_cases hne : items' = []
    · obtain rfl := hne
      obtain rfl := List.eq_nil_of_length_eq_zero hlength.symm
      simp only [ne_eq, not_true_eq_false, or_false]
      rw [← hempty rfl, examines_iff_of_ok hgate]
      constructor
      · intro hall
        by_contra hax
        obtain ⟨a, ha⟩ := List.exists_mem_of_ne_nil axes hax
        exact absurd ((hall a.val (by omega)).mpr ⟨a, ha, rfl⟩) List.not_mem_nil
      · rintro rfl
        simp
    · refine iff_of_true (examines_of_ok ?_) (Or.inr hne)
      rw [hgate, (hfull hne).1]
  | str s =>
    obtain rfl := Except.ok.inj hitems
    show _ ↔ n = 0 ∨ s ≠ "" ∧ OneDigit s
    by_cases hs : s = ""
    · subst hs
      simp only [ne_eq, not_true_eq_false, false_and, or_false]
      refine hnone rfl (e := .valueError) rfl ?_
      rw [gateValues_of_str haxes]
      rfl
    · have hne : (s.toList.map fun c => (Value.str (String.ofList [c]) : Value F)) ≠ [] := by
        simpa using hs
      obtain ⟨hax, haxne, hn⟩ := hfull hne
      obtain ⟨digits, hdig, hdigits⟩ := readsDigits_of_mapM readsDigit_of_toInt hread
      rw [examines_iff_of_digits haxes hdigits (hax.trans hdig) haxne]
      simp [hs, hn]
  | dict entries =>
    obtain rfl := Except.ok.inj hitems
    show _ ↔ n = 0 ∨ False
    have hgate : (gateValues message).mapM Value.toInt = .error .typeError := by
      rw [gateValues_of_dict haxes]
      rfl
    rw [or_false]
    by_cases hne : (entries.map fun entry => (Value.str entry.1 : Value F)) = []
    · exact hnone hne rfl hgate
    · exact iff_of_false (not_examines_of_error hgate (hfull hne).2.1) (hfull hne).2.2
  | _ => exact absurd hitems (by simp [Value.iterate])

/-! ## Completeness -/

namespace GuardedCommand

/-- A request that the gate lets pass names no axis with an active fault, as far as the gate
examines it. -/
theorem hasActiveFault_of_allowed {message : Message F} {runtimeState : RuntimeState}
    {manager : DiagnosticManager T} {command : GuardedCommand} {axes : List (Fin n)}
    (h : command.allowed message runtimeState manager = .ok true) (hex : Examines message axes)
    {a : Fin n} (ha : a ∈ axes) :
    manager.hasActiveFault (.source (axisSource a)) = false := by
  obtain ⟨indices, hok, hall⟩ := hex
  unfold allowed at h
  split at h
  · exact absurd h (by simp)
  split at h
  · exact absurd h (by simp)
  rw [hok] at h
  have h : (!((indices.filter (0 ≤ ·)).any fun index =>
      manager.hasActiveFault (.source (axisSource index.toNat)))) = true := Except.ok.inj h
  rw [Bool.not_eq_true', List.any_eq_false] at h
  have hmem : (a.val : ℤ) ∈ indices := (hall a.val (by omega)).mpr ⟨a, ha, rfl⟩
  simpa using h a.val (List.mem_filter.mpr ⟨hmem, by simp⟩)

omit [PyFloat F] in
/-- The keys that the wrappers of `mode` and `manualCW` demand. -/
theorem requireKey_single {message : Message F} {command : GuardedCommand}
    (hsingle : command.requiresAxes? = some false) (h : command.requireKey message = .ok ()) :
    message.get? "axes" = none ∧ ∃ axis, message.get? "axis" = some axis := by
  rw [requireKey, hsingle] at h
  simp only at h
  split at h
  · rename_i hkeys
    exact ⟨Option.isSome_eq_false_iff.mp hkeys.1 |> Option.isNone_iff_eq_none.mp,
      Option.isSome_iff_exists.mp hkeys.2⟩
  · exact absurd h (by simp)

theorem modeRequest_eq_ok {message : Message F} {mode : MotionMode} {axes : List (Fin n)}
    {axis : Value F} (h : modeRequest n message = .ok (mode, axes))
    (haxis : message.getD "axis" .null = axis) :
    (axis = .null → axes = List.finRange n) ∧
      (axis ≠ .null → ∃ i a, axis.toInt = .ok i ∧ toAxis n i = some a ∧ axes = [a]) := by
  unfold modeRequest at h
  rw [haxis] at h
  split at h
  · exact absurd h (by simp)
  split at h
  · obtain ⟨-, rfl⟩ := Prod.mk.inj (Except.ok.inj h)
    exact ⟨fun _ => rfl, fun hne => absurd rfl hne⟩
  · rename_i hne
    refine ⟨fun hnull => absurd hnull hne, fun _ => ?_⟩
    split at h
    · rename_i i hi
      split at h
      · rename_i a ha
        obtain ⟨-, rfl⟩ := Prod.mk.inj (Except.ok.inj h)
        exact ⟨i, a, hi, ha, rfl⟩
      · exact absurd h (by simp)
    · split at h <;> exact absurd h (by simp)

theorem controlwordAxes_eq_ok {message : Message F} {axes : List (Fin n)} {axis : Value F}
    (h : controlwordAxes n message = .ok axes) (haxis : message.getD "axis" .null = axis)
    (hne : axes ≠ []) :
    (axis = .null → axes = List.finRange n) ∧
      (axis ≠ .null → ∃ i a, axis.toInt = .ok i ∧ toAxis n i = some a ∧ axes = [a]) := by
  unfold controlwordAxes at h
  rw [haxis] at h
  split at h
  · obtain rfl := Except.ok.inj h
    exact ⟨fun _ => rfl, fun hne => absurd rfl hne⟩
  · rename_i hnull
    refine ⟨fun h => absurd h hnull, fun _ => ?_⟩
    split at h
    · rename_i i hi
      obtain rfl := Except.ok.inj h
      cases ha : toAxis n i with
      | none =>
        rw [ha] at hne
        exact absurd rfl hne
      | some a => exact ⟨i, a, hi, ha, rfl⟩
    · split at h
      · exact absurd (Except.ok.inj h).symm hne
      · exact absurd h (by simp)

omit [PyFloat F] in
theorem sdoAxis_eq_ok {message : Message F} {a : Fin n} (h : sdoAxis n message = .ok a) :
    rawAxisIndices n message = .ok ([a].map fun a => (a.val : ℤ)) := by
  unfold sdoAxis at h
  split at h
  · rename_i axis haxes haxis
    split at h
    · split at h <;> exact absurd h (by simp)
    · rename_i index hindex
      split at h
      · rename_i b hb
        obtain rfl := Except.ok.inj h
        rw [rawAxisIndices, haxes, haxis]
        show (do pure [← axis.parseInt]) = _
        rw [hindex, List.map_singleton, val_of_toAxis hb]
        rfl
      · exact absurd h (by simp)
  · exact absurd h (by simp)

omit [PyFloat F] in
theorem parameterAxis_eq_ok {message : Message F} {a : Fin n}
    (h : parameterAxis n message = .ok a) :
    rawAxisIndices n message = .ok ([a].map fun a => (a.val : ℤ)) := by
  obtain ⟨indices, hraw, h⟩ := Except.bind_eq_ok.mp h
  split at h
  · rename_i index
    split at h
    · rename_i b hb
      obtain rfl := Except.ok.inj h
      rw [hraw, List.map_singleton, val_of_toAxis hb]
    · exact absurd h (by simp [throw, throwThe, MonadExceptOf.throw])
  · exact absurd h (by simp [throw, throwThe, MonadExceptOf.throw])

theorem examines_iff {message : Message F} {command : GuardedCommand} {axes : List (Fin n)}
    (h : command.actedAxes n message = some axes) :
    Examines message axes ↔ command.ReadsAlike n message := by
  unfold actedAxes at h
  split at h
  swap
  · exact absurd h (by simp)
  rename_i axes' hkey haxes
  split at h
  · exact absurd h (by simp)
  rename_i hacts
  obtain rfl := Option.some.inj h
  have hselected (hsel : selectedAxes n message = .ok axes') :
      Examines message axes' ↔ SelectionReadsAlike message :=
    examines_iff_of_raw (selectedAxes_eq_ok hsel).1 (selectedAxes_eq_ok hsel).2
  have hsingle (hsel : (do pure [← selectedSingleAxis n message]) = Except.ok axes') :
      Examines message axes' ↔ SelectionReadsAlike message := by
    obtain ⟨a, ha, hone⟩ := Except.bind_eq_ok.mp hsel
    obtain rfl := Except.ok.inj hone
    exact hselected (selectedSingleAxis_eq_ok.mp ha)
  cases command with
  | trajectory =>
    have hkey : message.has "axes" = true := by
      unfold requireKey at hkey
      simp only [requiresAxes?] at hkey
      split at hkey
      · rename_i h
        exact h.1
      · exact absurd hkey (by simp)
    exact examines_iff_of_trajectory hkey haxes
  | mode =>
    obtain ⟨hnoaxes, axis, haxis⟩ := requireKey_single rfl hkey
    obtain ⟨⟨mode, axes⟩, hrequest, hval⟩ := Except.bind_eq_ok.mp haxes
    obtain rfl := Except.ok.inj hval
    have hgetD : message.getD "axis" .null = axis := by rw [Message.getD, haxis]; rfl
    obtain ⟨hnull, hint⟩ := modeRequest_eq_ok hrequest hgetD
    exact examines_iff_of_axis hnoaxes haxis hnull hint
  | manualCW =>
    obtain ⟨hnoaxes, axis, haxis⟩ := requireKey_single rfl hkey
    have hgetD : message.getD "axis" .null = axis := by rw [Message.getD, haxis]; rfl
    obtain ⟨hnull, hint⟩ := controlwordAxes_eq_ok haxes hgetD (fun hnil => hacts ⟨rfl, hnil⟩)
    exact examines_iff_of_axis hnoaxes haxis hnull hint
  | paramWrite =>
    obtain ⟨a, ha, hone⟩ := Except.bind_eq_ok.mp haxes
    obtain rfl := Except.ok.inj hone
    exact examines_iff_of_raw (sdoAxis_eq_ok ha) (List.cons_ne_nil _ _)
  | paramSave =>
    obtain ⟨a, ha, hone⟩ := Except.bind_eq_ok.mp haxes
    obtain rfl := Except.ok.inj hone
    exact examines_iff_of_raw (parameterAxis_eq_ok ha) (List.cons_ne_nil _ _)
  | jogStart => exact hsingle haxes
  | jogStop => exact hsingle haxes
  | _ => exact hselected haxes

/-- **The gate is complete for exactly the accepted requests that it reads as their handlers do**:
there it examines the axes acted on, and a request it lets pass acts on no axis with an active
fault. -/
theorem gate_complete_iff {message : Message F} {command : GuardedCommand} {axes : List (Fin n)}
    (h : command.actedAxes n message = some axes) :
    (Examines message axes ∧
      ∀ (runtimeState : RuntimeState) (manager : DiagnosticManager T),
        command.allowed message runtimeState manager = .ok true →
        ∀ a ∈ axes, manager.hasActiveFault (.source (axisSource a)) = false) ↔
      command.ReadsAlike n message := by
  rw [← examines_iff h]
  constructor
  · exact fun hcomplete => hcomplete.1
  · exact fun hex => ⟨hex, fun _ _ hallowed _ ha => hasActiveFault_of_allowed hallowed hex ha⟩

/-- The enabling of the first axis, its index written in base sixteen. -/
def enableHex : Message ExtRat :=
  [("cmd", .str "system/axis/enable"), ("axis", .str "0x0")]

/-- The enabling of two axes. -/
def enableBoth : Message ExtRat :=
  [("cmd", .str "system/axes/enable"), ("axes", .list [.int 0, .str " 1 "])]

/-- A manager with an active fault of the first axis. -/
def faultedManager : DiagnosticManager ℕ :=
  (DiagnosticManager.detect axisDriveFault (axisSource 0) none none (.ok "fault") 0 .init).2

theorem gate_complete_enableBoth :
    (enable true).actedAxes 2 enableBoth = some [0, 1] ∧ (enable true).ReadsAlike 2 enableBoth ∧
      Examines (n := 2) enableBoth [0, 1] := by
  have hacts : (enable true).actedAxes 2 enableBoth = some [0, 1] := by decide +kernel
  have hreads : (enable true).ReadsAlike 2 enableBoth := by
    show ∀ item ∈ [(.int 0 : Value ExtRat), .str " 1 "], item.hasBasePrefix = false
    decide +kernel
  exact ⟨hacts, hreads, ((gate_complete_iff (T := ℕ) hacts).mpr hreads).1⟩

/-- The gate does not read the index `0x0`: it lets the faulted axis be enabled. -/
theorem gate_incomplete_enableHex :
    (enable false).actedAxes 1 enableHex = some [0] ∧
      selectedAxisIndices enableHex = .ok [] ∧
      (enable false).allowed enableHex .normal faultedManager = .ok true ∧
      faultedManager.hasActiveFault (.source (axisSource 0)) = true := by
  have hacts : (enable false).actedAxes 1 enableHex = some [0] := by decide +kernel
  have hgate : selectedAxisIndices enableHex = .ok [] := by decide +kernel
  have hallowed : (enable false).allowed enableHex .normal faultedManager = .ok true := by
    decide +kernel
  exact ⟨hacts, hgate, hallowed, by decide +kernel⟩

end GuardedCommand

/-! ## The gate of the router -/

/-- The router lets a guarded command pass where the gate examines the axes acted on: none of them
has an active fault. -/
theorem activeFault_of_commandAllowed {message : Message F} {runtimeState : RuntimeState}
    {command : Command} {guarded : GuardedCommand} {activeFault : Option (Fin n) → Bool}
    {axes : List (Fin n)} (hguarded : command.guarded? = some guarded)
    (h : commandAllowedByRuntimeState command message runtimeState activeFault = .ok true)
    (hacts : guarded.actedAxes n message = some axes) (hreads : guarded.ReadsAlike n message) :
    runtimeState = .normal ∧ ∀ a ∈ axes, activeFault (some a) = false := by
  obtain ⟨indices, hok, hall⟩ := (GuardedCommand.examines_iff hacts).mpr hreads
  have hcommand : command.isAuthority = false ∧ command ≠ .busReconnect ∧
      command.globalFaultAllowed = false ∧ command.isAxisCommand = true ∧
      command.axisFaultAllowed = false := by
    cases command <;> cases hguarded <;> exact ⟨rfl, by simp, rfl, rfl, rfl⟩
  obtain ⟨hauthority, hreconnect, hglobal, haxis, hallowed⟩ := hcommand
  unfold commandAllowedByRuntimeState at h
  rw [if_neg (by simp [hauthority]), if_neg (by simp [hreconnect])] at h
  split at h
  · exact absurd h (by simp)
  rename_i hstate
  rw [if_neg (by simp [haxis, hallowed]), hok] at h
  have h := Except.ok.inj h
  rw [List.all_eq_true] at h
  refine ⟨by simpa [hglobal] using hstate, fun a ha => ?_⟩
  have hmem : (a.val : ℤ) ∈ indices := (hall a.val (by omega)).mpr ⟨a, ha, rfl⟩
  have htoAxis : toAxis n (a.val : ℤ) = some a := by
    rw [toAxis, dif_pos (by omega)]
    exact congrArg some (Fin.ext (Int.toNat_natCast _))
  simpa [htoAxis] using h a.val hmem

end MotionServer
