import MotionServer.Lib.Writes
import MotionServer.Runs.Moves
import Mathlib.Data.Fintype.Card

/-!
# Which axis a value of a move is for

* `World.absoluteTarget`, `World.relativeTarget`: the target that a value asks for at an axis;
* `Paired`: each axis of a request has the target its value asks for, the others keep theirs;
* `PairsInOrder`: where every axis is named, the values in the order of the machine ask for the
  same targets;
* **`moves_paired`**: a relative move always pairs, an absolute move exactly then.
-/

namespace MotionServer

variable {n : ℕ} {F : Type} [PyFloat F]

/-! ## Targets -/

/-- The target that an absolute move to `value` asks for. -/
def World.absoluteTarget (w : World n F) (a : Fin n) (value : F) : Except PyExc F := do
  pure (PyFloat.ofInt (← w.positionToDrive a value))

/-- The target that a relative move by `value` asks for. -/
def World.relativeTarget (w : World n F) (a : Fin n) (value : F) : Except PyExc F := do
  pure (PyFloat.ofInt ((w.txpdo a).actualPosition.toInt + (← w.positionToDrive a value)))

/-- Each axis of a request has the target that its value asks for, the others keep theirs. -/
structure Paired (w w' : World n F) (axes : List (Fin n)) (values : List F)
    (target : Fin n → F → Except PyExc F) : Prop where
  length : values.length = axes.length
  listed : ∀ p ∈ axes.zip values, target p.1 p.2 = .ok (w'.targetPositions p.1)
  unlisted : ∀ a, a ∉ axes → w'.targetPositions a = w.targetPositions a

/-- The selection leaves an axis out, or the values ask for the same targets when they are read in
the order of the machine. -/
def PairsInOrder (w : World n F) (axes : List (Fin n)) (values : List F) : Prop :=
  axes.length < n ∨ ∀ p ∈ axes.zip values, ∀ value, values[p.1.val]? = some value →
    w.absoluteTarget p.1 value = w.absoluteTarget p.1 p.2

omit [PyFloat F] in
theorem length_le_of_nodup {axes : List (Fin n)} (h : axes.Nodup) : axes.length ≤ n := by
  simpa using h.length_le_card

/-! ## Positions -/

theorem outputPositionAxes_targets (env : Env n F) (axes : List (Fin n)) (w : World n F) :
    (outputPositionAxes env axes w).2.targetPositions = w.targetPositions := by
  have hexchange : Prog.Keeps (Prog.Frame.eqOn (·.targetPositions)) (exchange env) :=
    keeps_exchange (fun _ _ h => h.targetPositions) (fun _ _ _ _ _ => rfl) (fun _ _ _ => rfl)
      (fun _ => rfl) fun _ _ _ => rfl
  exact keeps_outputPositionAxes (fun _ _ => rfl) hexchange (fun _ _ => rfl) axes w

/-- A move that succeeds gives its axes the positions it was called with. -/
theorem commandPositionAxes_targets {env : Env n F} {axes : List (Fin n)} {positions : Fin n → F}
    {command : String} {w w' : World n F}
    (h : commandPositionAxes env axes positions command w = (.ok (), w')) :
    w'.targetPositions = fun a => if a ∈ axes then positions a else w.targetPositions a := by
  unfold commandPositionAxes at h
  obtain ⟨_, w₁, hfaulted, h₁⟩ := Prog.bind_eq_ok.mp h
  obtain rfl := rejectIfAnyDriveFaulted_ok hfaulted
  obtain ⟨_, w₂, hdisabled, h₂⟩ := Prog.bind_eq_ok.mp h₁
  obtain rfl := rejectIfAnyAxisDisabled_ok hdisabled
  rw [Prog.bind_run_ok (Prog.modify_run _ _),
    Prog.tryCatch_eq_ok fun _ _ => Prog.bind_throw_ne_ok] at h₂
  have htargets := outputPositionAxes_targets env axes { w₂ with
    targetPositions := fun a => if a ∈ axes then positions a else w₂.targetPositions a }
  rw [h₂] at htargets
  exact htargets

/-- The profile velocity of a move changes no target and no process data that was received. -/
theorem applyMoveProfileVelocity_targets {message : Message F} {axes : List (Fin n)}
    {w w' : World n F} (h : applyMoveProfileVelocity message axes w = (.ok (), w')) :
    w'.targetPositions = w.targetPositions ∧ w'.txpdo = w.txpdo := by
  have hkept := keeps_applyMoveProfileVelocity
    (f := fun w : World n F => (w.targetPositions, w.txpdo))
    (fun _ _ => rfl) (fun _ _ => rfl) message axes w
  rw [h] at hkept
  exact ⟨congrArg Prod.fst hkept, congrArg Prod.snd hkept⟩

/-! ## Absolute moves -/

theorem absoluteTarget_of_ok {w : World n F} {a : Fin n} {value : F} {position : ℤ}
    (h : w.positionToDrive a value = .ok position) :
    w.absoluteTarget a value = .ok (PyFloat.ofInt position) := by
  rw [World.absoluteTarget, h]
  rfl

/-- Where every axis is named, the values are read in the order of the machine. -/
theorem axisPositionsFromMessage_full {w : World n F} {message : Message F} {axes : List (Fin n)}
    {values : List F} {positions : Fin n → F} (haxes : axes.length = n)
    (hvalues : requestFloats message "positions" "position" = .ok values)
    (h : axisPositionsFromMessage w message axes = .ok positions) :
    values.length = n ∧ ∀ a : Fin n, ∀ value, values[a.val]? = some value →
      w.absoluteTarget a value = .ok (positions a) := by
  unfold axisPositionsFromMessage at h
  rw [hvalues, Except.ok_bind] at h
  by_cases hlength : values.length = n
  · rw [if_pos ⟨hlength, haxes⟩] at h
    obtain ⟨read, hread, hpositions⟩ := Except.bind_eq_ok.mp h
    obtain rfl := Except.ok.inj hpositions
    refine ⟨hlength, fun a value hvalue => ?_⟩
    -- the pair of an axis and its value stands at the place of the axis
    have hat : ((List.finRange n).zip values)[a.val]? = some (a, value) := by
      rw [List.getElem?_zip_eq_some]
      exact ⟨by simp, hvalue⟩
    obtain ⟨position, hposition, hdrive⟩ := Except.getElem?_of_mapM hread hat
    rw [absoluteTarget_of_ok hdrive]
    show Except.ok _ = Except.ok ((read[a.val]?).elim _ _)
    rw [hposition]
    rfl
  · rw [if_neg (fun hc => hlength hc.1), if_pos (by omega)] at h
    cases h

/-- Where an axis is left out, the values are read in the order of the request. -/
theorem axisPositionsFromMessage_partial {w : World n F} {message : Message F}
    {axes : List (Fin n)} {values : List F} {positions : Fin n → F} (haxes : axes.length < n)
    (hnodup : axes.Nodup) (hvalues : requestFloats message "positions" "position" = .ok values)
    (h : axisPositionsFromMessage w message axes = .ok positions) :
    values.length = axes.length ∧
      ∀ p ∈ axes.zip values, w.absoluteTarget p.1 p.2 = .ok (positions p.1) := by
  unfold axisPositionsFromMessage at h
  rw [hvalues, Except.ok_bind, if_neg (by omega)] at h
  by_cases hlength : values.length = axes.length
  · rw [if_neg (not_not.mpr hlength)] at h
    obtain ⟨read, hread, hpositions⟩ := Except.bind_eq_ok.mp h
    obtain rfl := Except.ok.inj hpositions
    refine ⟨hlength, fun p hp => ?_⟩
    obtain ⟨position, hdrive, hmem⟩ := Except.exists_mem_zip_of_mapM hread hp
    have hkeys : ((axes.zip read).map Prod.fst).Nodup := by
      have hread_length := Except.length_of_mapM hread
      rw [List.length_zip, hlength, min_self] at hread_length
      rwa [List.map_fst_zip hread_length.ge]
    rw [absoluteTarget_of_ok hdrive]
    exact congrArg _ (writeEach_of_mem (g := fun _ position _ => PyFloat.ofInt position)
      (f := w.targetPositions) hkeys hmem).symm
  · rw [if_pos hlength] at h
    cases h

/-- **An absolute move pairs exactly when the order of the machine makes no difference.** -/
theorem moveAbsolute_paired_iff {env : Env n F} {message : Message F} {w w' : World n F}
    {axes : List (Fin n)} {values : List F} (haxes : selectedAxes n message = .ok axes)
    (hnodup : axes.Nodup) (hvalues : requestFloats message "positions" "position" = .ok values)
    (h : moveAbsolute env message w = (.ok (), w')) :
    Paired w w' axes values w.absoluteTarget ↔ PairsInOrder w axes values := by
  unfold moveAbsolute at h
  obtain ⟨⟨axes₁, positions⟩, w₁, hprepare, h₁⟩ := Prog.bind_eq_ok.mp h
  obtain ⟨hselected, hpositions, hprofile⟩ := prepareMoveAbsolute_ok (rejecting_eq_ok.mp hprepare)
  obtain ⟨htargets₁, -⟩ := applyMoveProfileVelocity_targets hprofile
  dsimp only at h₁
  rw [Prog.bind_run_ok (Prog.get_run w₁)] at h₁
  obtain ⟨_, w₂, hreferenced, h₂⟩ := Prog.bind_eq_ok.mp h₁
  obtain ⟨-, rfl⟩ := Prog.raiseIf_eq_ok.mp hreferenced
  obtain rfl := Except.ok.inj (haxes.symm.trans hselected)
  have htargets := commandPositionAxes_targets h₂
  have hlisted : ∀ p ∈ axes.zip values, w'.targetPositions p.1 = positions p.1 := by
    intro p hp
    rw [htargets]
    exact if_pos (List.of_mem_zip hp).1
  have hunlisted : ∀ a, a ∉ axes → w'.targetPositions a = w.targetPositions a := by
    intro a ha
    rw [htargets, ← htargets₁]
    exact if_neg ha
  rcases (length_le_of_nodup hnodup).lt_or_eq with hlt | hfull
  · obtain ⟨hlength, hpaired⟩ := axisPositionsFromMessage_partial hlt hnodup hvalues hpositions
    refine ⟨fun _ => Or.inl hlt, fun _ => ⟨hlength, fun p hp => ?_, hunlisted⟩⟩
    rw [hpaired p hp, hlisted p hp]
  · obtain ⟨hlength, hpaired⟩ := axisPositionsFromMessage_full hfull hvalues hpositions
    constructor
    · rintro ⟨-, hall, -⟩
      refine Or.inr fun p hp value hvalue => ?_
      rw [hpaired p.1 value hvalue, hall p hp, hlisted p hp]
    · rintro (hlt | hall)
      · omega
      · refine ⟨hlength.trans hfull.symm, fun p hp => ?_, hunlisted⟩
        obtain ⟨value, hvalue⟩ : ∃ value, values[p.1.val]? = some value :=
          ⟨_, List.getElem?_eq_getElem (by omega)⟩
        rw [← hall p hp value hvalue, hpaired p.1 value hvalue, hlisted p hp]

/-! ## Relative moves -/

/-- The targets of a relative move, axis by axis. -/
theorem foldlM_requireInt32 {axes : List (Fin n)} (hnodup : axes.Nodup) {f f' : Fin n → F}
    (h : axes.foldlM (fun positions a => do
      pure (Function.update positions a (PyFloat.ofInt (← requireInt32 (positions a))))) f
        = (.ok f' : Except PyExc (Fin n → F))) :
    (∀ a ∈ axes, ∃ i, requireInt32 (f a) = .ok i ∧ f' a = PyFloat.ofInt i) ∧
      ∀ a, a ∉ axes → f' a = f a := by
  induction axes generalizing f with
  | nil =>
    obtain rfl := Except.ok.inj h
    exact ⟨fun a ha => absurd ha List.not_mem_nil, fun _ _ => rfl⟩
  | cons b axes ih =>
    rw [List.nodup_cons] at hnodup
    rw [List.foldlM_cons] at h
    obtain ⟨f₁, hstep, h⟩ := Except.bind_eq_ok.mp h
    obtain ⟨i, hi, hstep⟩ := Except.bind_eq_ok.mp hstep
    obtain rfl := Except.ok.inj hstep
    obtain ⟨hlisted, hunlisted⟩ := ih hnodup.2 h
    constructor
    · intro a ha
      rcases List.mem_cons.mp ha with rfl | ha
      · refine ⟨i, hi, ?_⟩
        rw [hunlisted a hnodup.1, Function.update_self]
      · have hne : a ≠ b := fun hab => hnodup.1 (hab ▸ ha)
        obtain ⟨j, hj, htarget⟩ := hlisted a ha
        rw [Function.update_of_ne hne] at hj
        exact ⟨j, hj, htarget⟩
    · intro a ha
      rw [List.mem_cons, not_or] at ha
      rw [hunlisted a ha.2, Function.update_of_ne ha.1]

theorem natAbs_le_of_requireInt32 {value : F} {i : ℤ} (h : requireInt32 value = .ok i) :
    i.natAbs ≤ 2 ^ 31 := by
  obtain ⟨j, -, h⟩ := Except.bind_eq_ok.mp h
  split_ifs at h with hrange
  obtain rfl := Except.ok.inj h
  omega

/-- The sum of a position and a distance is exact. -/
theorem requireInt32_add [ExactIntegers F] {x : BitVec 32} {value : F} {d i : ℤ}
    (hd : requireInt32 value = .ok d)
    (h : requireInt32 (PyFloat.ofInt x.toInt + PyFloat.ofInt d : F) = .ok i) : i = x.toInt + d := by
  have hdistance := natAbs_le_of_requireInt32 hd
  have hlow := BitVec.le_toInt x
  have hhigh := BitVec.toInt_lt (x := x)
  rw [ExactIntegers.ofInt_add _ _ (by omega) hdistance] at h
  obtain ⟨j, hround, h⟩ := Except.bind_eq_ok.mp h
  rw [ExactIntegers.roundInt_sum _ (by omega)] at hround
  split_ifs at h
  rw [← Except.ok.inj h, ← Except.ok.inj hround]

/-- **A relative move pairs each axis with its value.** -/
theorem moveRelative_paired [ExactIntegers F] {env : Env n F} {message : Message F}
    {w w' : World n F} {axes : List (Fin n)} {values : List F}
    (haxes : selectedAxes n message = .ok axes) (hnodup : axes.Nodup)
    (hvalues : requestFloats message "distances" "distance" = .ok values)
    (h : moveRelative env message w = (.ok (), w')) :
    Paired w w' axes values w.relativeTarget := by
  unfold moveRelative at h
  obtain ⟨⟨axes₁, distances⟩, w₁, hprepare, h₁⟩ := Prog.bind_eq_ok.mp h
  obtain ⟨hselected, hdistances, hprofile⟩ := prepareMoveRelative_ok (rejecting_eq_ok.mp hprepare)
  obtain ⟨htargets₁, htxpdo⟩ := applyMoveProfileVelocity_targets hprofile
  dsimp only at h₁
  rw [Prog.bind_run_ok (Prog.get_run w₁)] at h₁
  obtain ⟨positions, w₂, hpositions, h₂⟩ := Prog.bind_eq_ok.mp h₁
  obtain ⟨hpositions, rfl⟩ := Prog.lift_eq_ok.mp hpositions
  obtain rfl := Except.ok.inj (haxes.symm.trans hselected)
  have htargets := commandPositionAxes_targets h₂
  obtain ⟨hlisted, -⟩ := foldlM_requireInt32 hnodup hpositions
  unfold axisDistancesFromMessage at hdistances
  rw [hvalues, Except.ok_bind] at hdistances
  split_ifs at hdistances with hlength
  have hlength := not_not.mp hlength
  refine ⟨hlength, fun p hp => ?_, fun a ha => ?_⟩
  · have hmem := (List.of_mem_zip hp).1
    obtain ⟨d, hread, hd⟩ := Except.exists_mem_zip_of_mapM hdistances hp
    have hdrive : w.positionToDrive p.1 p.2 = .ok d := hread
    obtain ⟨i, hround, htarget⟩ := hlisted p.1 hmem
    have hdistances_length := Except.length_of_mapM hdistances
    rw [List.length_zip, hlength, min_self] at hdistances_length
    have hsum : w₂.relativeTargetPositions axes distances p.1 =
        PyFloat.ofInt (w.txpdo p.1).actualPosition.toInt + PyFloat.ofInt d := by
      rw [← htxpdo]
      exact writeEach_of_mem (g := fun _ distance position => position + PyFloat.ofInt distance)
        (f := w₂.actualPosition) (by rwa [List.map_fst_zip hdistances_length.ge]) hd
    rw [hsum] at hround
    rw [htargets]
    dsimp only
    rw [if_pos hmem, htarget, requireInt32_add hdrive hround, World.relativeTarget, hdrive]
    rfl
  · rw [htargets, ← htargets₁]
    exact if_neg ha

/-- **Values and axes of position moves.** For axes that are named once, an accepted relative move
pairs each axis with its value, and an accepted absolute move does so exactly when an axis is left
out or the order of the machine makes no difference. -/
theorem moves_paired [ExactIntegers F] (env : Env n F) (message : Message F) (w : World n F)
    (axes : List (Fin n)) (values : List F) (haxes : selectedAxes n message = .ok axes)
    (hnodup : axes.Nodup) :
    (requestFloats message "positions" "position" = .ok values →
      (moveAbsolute env message w).1 = .ok () →
      (Paired w (moveAbsolute env message w).2 axes values w.absoluteTarget ↔
        PairsInOrder w axes values)) ∧
    (requestFloats message "distances" "distance" = .ok values →
      (moveRelative env message w).1 = .ok () →
      Paired w (moveRelative env message w).2 axes values w.relativeTarget) :=
  ⟨fun hvalues h => moveAbsolute_paired_iff haxes hnodup hvalues (Prog.run_eta h),
    fun hvalues h => moveRelative_paired haxes hnodup hvalues (Prog.run_eta h)⟩

/-- A drive that is operation enabled and referenced, at position 10. -/
def referencedDrive : TxPDO where
  statusword := 0x8027
  actualPosition := 10

/-- A server whose axes are all referenced. -/
def referencedServer (n : ℕ) : World n ExtRat :=
  { unitServer n with txpdo := fun _ => referencedDrive }

/-- A request that names the second axis first. -/
def swappedMove : Message ExtRat :=
  [("axes", .list [.int 1, .int 0]), ("positions", .list [.int 3, .int 5]),
    ("distances", .list [.int 3, .int 5])]

theorem moves_paired_two :
    (Paired (referencedServer 3)
        (moveAbsolute (Env.quiet fun _ => referencedDrive) swappedMove (referencedServer 3)).2
        [1, 0] [3.0, 5.0] (referencedServer 3).absoluteTarget ↔
      PairsInOrder (referencedServer 3) [1, 0] [3.0, 5.0]) ∧
    Paired (referencedServer 3)
      (moveRelative (Env.quiet fun _ => referencedDrive) swappedMove (referencedServer 3)).2
      [1, 0] [3.0, 5.0] (referencedServer 3).relativeTarget := by
  obtain ⟨habsolute, hrelative⟩ := moves_paired (Env.quiet fun _ => referencedDrive) swappedMove
    (referencedServer 3) [1, 0] [3.0, 5.0] (by decide +kernel) (by decide)
  exact ⟨habsolute (by decide +kernel) (by decide +kernel),
    hrelative (by decide +kernel) (by decide +kernel)⟩

/-- On a machine of two axes the first value goes to the first axis, though the request names the
second axis first. -/
theorem swapped_move_not_paired :
    selectedAxes 2 swappedMove = .ok [1, 0] ∧
      requestFloats swappedMove "positions" "position" = .ok [3.0, 5.0] ∧
      (moveAbsolute (Env.quiet fun _ => referencedDrive) swappedMove (referencedServer 2)).1
        = .ok () ∧
      ¬ Paired (referencedServer 2)
        (moveAbsolute (Env.quiet fun _ => referencedDrive) swappedMove (referencedServer 2)).2
        [1, 0] [3.0, 5.0] (referencedServer 2).absoluteTarget := by
  refine ⟨by decide +kernel, by decide +kernel, by decide +kernel, fun h => ?_⟩
  have hfirst := h.listed (1, 3.0) List.mem_cons_self
  exact absurd hfirst (by decide +kernel)

end MotionServer
