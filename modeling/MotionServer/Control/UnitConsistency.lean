import MotionServer.Control.Acceptance
import MotionServer.Control.TrajectoryMessage
import MotionServer.Lib.Except

/-!
# Units of a trajectory

The server converts the positions of a trajectory message to drive units.

* `ConvertedPoint`, **`trajectoryMessageApiToDrive_points`**: what the conversion does to the points;
* `publicPoint`: a stored point as the status shows it;
* `UnitConsistent`: positions, velocities and accelerations are all in drive units, the curves are
  those of the request in drive units, the limits compare alike, and the status shows the request;
* **`unitConsistent_iff`**: this is so exactly for axes of factor `1` and for points at rest.
-/

namespace MotionServer

variable {n m : ℕ}

/-! ## The conversion -/

section Conversion

theorem vectorOf_eq_ok {F : Type} {values : List F} {v : Fin m → F}
    (h : vectorOf m values = .ok v) :
    ∃ hm : m ≤ values.length, ∀ i : Fin m, v i = values.get ⟨i, i.isLt.trans_le hm⟩ := by
  unfold vectorOf at h
  split_ifs at h with hm
  exact ⟨hm, fun i => (congrFun (Except.ok.inj h) i).symm⟩

variable {F : Type} [PyFloat F] {units : Fin n → AxisUnits} {axesZ : List ℤ}
  {axes : Fin axesZ.length → Fin n}

/-- The point in drive units: each position is converted and rounded, the rest is copied. -/
structure ConvertedPoint (units : Fin n → AxisUnits) (axes : Fin m → Fin n)
    (api drive : TrajectoryPoint F m) : Prop where
  time : drive.timeFromStart = api.timeFromStart
  velocities : drive.velocities = api.velocities
  accelerations : drive.accelerations = api.accelerations
  positions : ∀ i, ∃ r, requireInt32 ((units (axes i)).positionApiToDrive (api.positions i)) = .ok r ∧
    floatOfInt r = .ok (drive.positions i)

theorem normalizePoint_eq_ok {raw : Value F} {point : TrajectoryPoint F m}
    (h : normalizePoint m raw = .ok point) : ∃ (entries : Message F) (items : List (Value F))
      (values : List F), raw = .dict entries ∧
      (entries.getD "positions" (.list [])).iterate = .ok items ∧
      items.mapM Value.toFloat = .ok values ∧ vectorOf m values = .ok point.positions ∧
      (entries.getD "time_from_start" (.float 0.0)).toFloat = .ok point.timeFromStart ∧
      normalizeOptional m (entries.get? "velocities") = .ok point.velocities ∧
      normalizeOptional m (entries.get? "accelerations") = .ok point.accelerations := by
  unfold normalizePoint at h
  obtain ⟨entries, hentries, h⟩ := Except.bind_eq_ok.mp h
  obtain ⟨items, hitems, h⟩ := Except.bind_eq_ok.mp h
  obtain ⟨values, hvalues, h⟩ := Except.bind_eq_ok.mp h
  obtain ⟨positions, hpositions, h⟩ := Except.bind_eq_ok.mp h
  obtain ⟨time, htime, h⟩ := Except.bind_eq_ok.mp h
  obtain ⟨velocities, hvelocities, h⟩ := Except.bind_eq_ok.mp h
  obtain ⟨accelerations, haccelerations, h⟩ := Except.bind_eq_ok.mp h
  obtain rfl := Except.ok.inj h
  cases raw <;> simp only [Value.asDict, reduceCtorEq, Except.ok.injEq] at hentries
  subst hentries
  exact ⟨_, items, values, rfl, hitems, hvalues, hpositions, htime, hvelocities, haccelerations⟩

theorem pointApiToDrive_eq_ok {raw converted : Value F}
    (h : pointApiToDrive units axesZ raw = .ok converted) : ∃ (entries : Message F)
      (items positions : List (Value F)), raw = .dict entries ∧ (entries.getD "positions" (.list [])).iterate = .ok items ∧
      positionsApiToDrive units axesZ items = .ok positions ∧
      converted = .dict (entries.set "positions" (.list positions)) := by
  unfold pointApiToDrive at h
  obtain ⟨entries, hentries, h⟩ := Except.bind_eq_ok.mp h
  obtain ⟨items, hitems, h⟩ := Except.bind_eq_ok.mp h
  obtain ⟨positions, hpositions, h⟩ := Except.bind_eq_ok.mp h
  have hraw : raw = .dict entries := by
    unfold Value.asPoint at hentries
    split at hentries <;> simp_all
  exact ⟨entries, items, positions, hraw, hitems, hpositions, (Except.ok.inj h).symm⟩

/-- One converted position: the request's, in drive units and rounded. -/
theorem positionsApiToDrive_get (haxes : ∀ i, pyIndex n (axesZ.get i) = .ok (axes i))
    {items positions : List (Value F)} {values : List F}
    (h : positionsApiToDrive units axesZ items = .ok positions)
    (hvalues : items.mapM Value.toFloat = .ok values) (i : Fin axesZ.length)
    (hi : i < values.length) (hi' : i < positions.length) :
    ∃ r, requireInt32 ((units (axes i)).positionApiToDrive (values.get ⟨i, hi⟩)) = .ok r ∧
      positions.get ⟨i, hi'⟩ = .int r := by
  have hitems := List.forall₂_iff_get.mp (Except.mapM_eq_ok_iff.mp hvalues)
  have hzip := List.forall₂_iff_get.mp (Except.mapM_eq_ok_iff.mp h)
  have hlen : i < items.length := hitems.1 ▸ hi
  have hzlen : i < (axesZ.zip items).length := hzip.1 ▸ hi'
  have hget := hzip.2 i hzlen hi'
  simp only [List.get_eq_getElem, List.getElem_zip] at hget
  obtain ⟨value, hvalue, h₁⟩ := Except.bind_eq_ok.mp hget
  obtain ⟨axis, haxis, h₂⟩ := Except.bind_eq_ok.mp h₁
  obtain ⟨r, hr, h₃⟩ := Except.bind_eq_ok.mp h₂
  have hvalue' : values.get ⟨i, hi⟩ = value := Except.ok.inj ((hitems.2 i hlen hi).symm.trans hvalue)
  have haxis' : axes i = axis := Except.ok.inj ((haxes i).symm.trans haxis)
  exact ⟨r, hvalue' ▸ haxis' ▸ hr, (Except.ok.inj h₃).symm⟩

theorem pointApiToDrive_converted (haxes : ∀ i, pyIndex n (axesZ.get i) = .ok (axes i))
    {raw converted : Value F} {api drive : TrajectoryPoint F axesZ.length}
    (hconv : pointApiToDrive units axesZ raw = .ok converted)
    (hapi : normalizePoint axesZ.length raw = .ok api)
    (hdrive : normalizePoint axesZ.length converted = .ok drive) :
    ConvertedPoint units axes api drive := by
  obtain ⟨entries, items, positions, rfl, hitems, hpositions, rfl⟩ := pointApiToDrive_eq_ok hconv
  obtain ⟨entries', items', values, hraw, hitems', hvalues, hvec, htime, hvel, hacc⟩ :=
    normalizePoint_eq_ok hapi
  obtain ⟨_, items₂, values₂, hraw₂, hitems₂, hvalues₂, hvec₂, htime₂, hvel₂, hacc₂⟩ :=
    normalizePoint_eq_ok hdrive
  obtain rfl := Value.dict.inj hraw
  obtain rfl := Value.dict.inj hraw₂
  obtain rfl : items = items' := Except.ok.inj (hitems.symm.trans hitems')
  rw [Message.getD, Message.get?_set_self, Option.getD_some] at hitems₂
  obtain rfl : positions = items₂ := Except.ok.inj hitems₂
  rw [Message.getD, Message.get?_set_of_ne _ _ (by decide)] at htime₂
  rw [Message.get?_set_of_ne _ _ (by decide)] at hvel₂ hacc₂
  refine ⟨Except.ok.inj (htime₂.symm.trans htime), Except.ok.inj (hvel₂.symm.trans hvel),
    Except.ok.inj (hacc₂.symm.trans hacc), fun i => ?_⟩
  obtain ⟨hm, hget⟩ := vectorOf_eq_ok hvec
  obtain ⟨hm₂, hget₂⟩ := vectorOf_eq_ok hvec₂
  have hfloat := List.forall₂_iff_get.mp (Except.mapM_eq_ok_iff.mp hvalues₂)
  have hi' : i < positions.length := hfloat.1 ▸ i.isLt.trans_le hm₂
  obtain ⟨r, hr, hpos⟩ := positionsApiToDrive_get haxes hpositions hvalues i (i.isLt.trans_le hm) hi'
  refine ⟨r, hget i ▸ hr, ?_⟩
  have h := hfloat.2 i hi' (i.isLt.trans_le hm₂)
  rw [hpos] at h
  rw [hget₂ i]
  exact h

theorem normalizeTrajectoryPoints_eq_ok {rawPoints : Value F} {raws : List (Value F)}
    {points : List (TrajectoryPoint F m)} (hraws : rawPoints.iterate = .ok raws)
    (h : normalizeTrajectoryPoints m rawPoints = .ok points) :
    List.Forall₂ (fun raw point => normalizePoint m raw = .ok point) raws points := by
  unfold normalizeTrajectoryPoints at h
  obtain ⟨_, hraws', h⟩ := Except.bind_eq_ok.mp h
  obtain rfl := Except.ok.inj (hraws.symm.trans hraws')
  obtain ⟨points', hpoints, h⟩ := Except.bind_eq_ok.mp h
  split_ifs at h
  obtain rfl := Except.ok.inj h
  exact Except.mapM_eq_ok_iff.mp hpoints

/-- **The points of a converted message**, against those of the request. -/
theorem trajectoryMessageApiToDrive_points {message converted : Message F}
    (hmsg : trajectoryMessageApiToDrive units message = .ok converted)
    (hZ : messageAxes n (message.getD "axes" (.list [])) = .ok axesZ)
    (haxes : ∀ i, pyIndex n (axesZ.get i) = .ok (axes i))
    {api drive : List (TrajectoryPoint F axesZ.length)}
    (hapi : normalizeTrajectoryPoints axesZ.length (message.getD "points" (.list [])) = .ok api)
    (hdrive : normalizeTrajectoryPoints axesZ.length (converted.getD "points" (.list [])) =
      .ok drive) :
    List.Forall₂ (ConvertedPoint units axes) api drive := by
  unfold trajectoryMessageApiToDrive at hmsg
  obtain ⟨_, hZ', hmsg⟩ := Except.bind_eq_ok.mp hmsg
  obtain rfl := Except.ok.inj (hZ.symm.trans hZ')
  obtain ⟨raws, hraws, hmsg⟩ := Except.bind_eq_ok.mp hmsg
  obtain ⟨points, hpoints, hmsg⟩ := Except.bind_eq_ok.mp hmsg
  obtain rfl := Except.ok.inj hmsg
  rw [Message.getD, Message.get?_set_self, Option.getD_some] at hdrive
  have hapi' := normalizeTrajectoryPoints_eq_ok hraws hapi
  have hdrive' := normalizeTrajectoryPoints_eq_ok
    (rfl : (Value.list points).iterate = .ok points) hdrive
  rw [List.forall₂_iff_get] at hapi' hdrive' ⊢
  have hconv := List.forall₂_iff_get.mp (Except.mapM_eq_ok_iff.mp hpoints)
  refine ⟨by omega, fun i h₁ h₂ => ?_⟩
  exact pointApiToDrive_converted haxes (hconv.2 i (by omega) (by omega)) (hapi'.2 i (by omega) h₁)
    (hdrive'.2 i (by omega) h₂)

end Conversion

/-! ## Consistency -/

section Consistent

variable (units : Fin n → AxisUnits) (axes : Fin m → Fin n)

/-- `public_trajectory_state` of one point. -/
def publicPoint {F : Type} [PyFloat F] (point : TrajectoryPoint F m) : TrajectoryPoint F m :=
  { point with positions := fun i => (units (axes i)).positionDriveToApi (point.positions i) }

/-- The factor of a local axis. -/
noncomputable def factor (i : Fin m) : ℝ := (units (axes i)).positionCountsPerApiUnit

/-- A point and what became of it in drive units. -/
structure PointConsistent (api drive : TrajectoryPoint ℝ m) : Prop where
  time : drive.timeFromStart = api.timeFromStart
  positions : ∀ i, |drive.positions i - factor units axes i * api.positions i| ≤ 1 / 2
  velocities : ∀ i, drive.velocities.map (· i) = api.velocities.map (factor units axes i * · i)
  accelerations : ∀ i,
    drive.accelerations.map (· i) = api.accelerations.map (factor units axes i * · i)
  /-- The verifier compares a velocity as the API compares it with the limit of the axis. -/
  velocity_limit : ∀ (settings : MotionSettings n ℝ) (i : Fin m),
    settings.positionCountsPerApiUnit (axes i) = factor units axes i →
    ∀ v' ∈ drive.velocities, ∀ v ∈ api.velocities,
      |v' i| ≤ settings.velocityLimit (axes i) ↔ |v i| ≤ (settings.motionLimits (axes i)).maxVelocity
  acceleration_limit : ∀ (settings : MotionSettings n ℝ) (i : Fin m),
    settings.positionCountsPerApiUnit (axes i) = factor units axes i →
    ∀ a' ∈ drive.accelerations, ∀ a ∈ api.accelerations,
      |a' i| ≤ settings.accelerationLimit (axes i) ↔
        |a i| ≤ (settings.motionLimits (axes i)).acceleration
  public_positions : ∀ i, |(publicPoint units axes drive).positions i - api.positions i| ≤
    1 / 2 / factor units axes i
  public_velocities : (publicPoint units axes drive).velocities = api.velocities
  public_accelerations : (publicPoint units axes drive).accelerations = api.accelerations

/-- The point on one axis in drive units, its position not rounded. -/
noncomputable def unroundedPoint (api drive : TrajectoryPoint ℝ m) (i : Fin m) : TimedPoint ℝ :=
  { drive.onAxis i with position := factor units axes i * api.positions i }

/-- Interpolating and then converting is converting and then interpolating. -/
def SegmentConsistent (start stop : TrajectoryPoint ℝ m × TrajectoryPoint ℝ m) : Prop :=
  ∀ (i : Fin m) (move : TrajectoryMoveProfile) (profile : CspProfile) (t : ℝ),
    let converted := segmentCurve move profile (unroundedPoint units axes start.1 start.2 i)
      (unroundedPoint units axes stop.1 stop.2 i) t
    let curve := segmentCurve move profile (start.1.onAxis i) (stop.1.onAxis i) t
    converted.1 = factor units axes i * curve.1 ∧ converted.2.1 = factor units axes i * curve.2.1 ∧
      converted.2.2 = factor units axes i * curve.2.2

/-- The points of a request and the loaded points are the same motion. -/
def UnitConsistent (api drive : List (TrajectoryPoint ℝ m)) : Prop :=
  List.Forall₂ (PointConsistent units axes) api drive ∧
    (api.zip drive).IsChain (SegmentConsistent units axes)

variable {units axes} {api drive : TrajectoryPoint ℝ m}

theorem factor_pos (i : Fin m) : 0 < factor units axes i := AxisUnits.positionCountsPerApiUnit_pos _

theorem requireInt32_real {x : ℝ} {r : ℤ} (h : requireInt32 x = .ok r) : r = roundHalfEven x := by
  obtain ⟨result, hresult, h⟩ := Except.bind_eq_ok.mp h
  split_ifs at h
  exact (Except.ok.inj h).symm.trans (Except.ok.inj hresult).symm

/-- A converted position is the request's up to rounding. -/
theorem ConvertedPoint.abs_sub_le (h : ConvertedPoint units axes api drive) (i : Fin m) :
    |drive.positions i - factor units axes i * api.positions i| ≤ 1 / 2 := by
  obtain ⟨r, hr, hpos⟩ := h.positions i
  have hdrive : (r : ℝ) = drive.positions i := by
    unfold floatOfInt at hpos
    split_ifs at hpos
    exact Except.ok.inj hpos
  rw [← hdrive, requireInt32_real hr, mul_comm]
  exact abs_roundHalfEven_sub_le _

/-- At factor `1`, or at rest, a value in drive units is the value itself. -/
theorem limit_iff {k v limit : ℝ} (hk : 0 < k) (h : k = 1 ∨ v = 0) :
    |v| ≤ limit * k ↔ |v| ≤ limit := by
  rcases h with rfl | rfl
  · rw [mul_one]
  · rw [abs_zero]
    exact ⟨fun h => nonneg_of_mul_nonneg_left h hk, fun h => mul_nonneg h hk.le⟩

/-- The values of an axis whose conversion by the factor is what the code does, nothing. -/
def AtRest (values : Option (Fin m → ℝ)) (i : Fin m) : Prop := ∀ v ∈ values, v i = 0

theorem map_factor_iff {values : Option (Fin m → ℝ)} {k : ℝ} {i : Fin m} :
    values.map (· i) = values.map (k * · i) ↔ k = 1 ∨ AtRest values i := by
  cases values with
  | none => simp [AtRest]
  | some v =>
    simp only [Option.map_some, Option.some.injEq, AtRest, Option.mem_def, forall_eq']
    rw [eq_comm, mul_left_eq_self₀]

/-- **A converted point is consistent exactly where its derivatives needed no conversion.** -/
theorem ConvertedPoint.pointConsistent_iff (h : ConvertedPoint units axes api drive) :
    PointConsistent units axes api drive ↔ ∀ i, factor units axes i = 1 ∨
      (AtRest api.velocities i ∧ AtRest api.accelerations i) := by
  constructor
  · intro hp i
    have hvel := hp.velocities i
    have hacc := hp.accelerations i
    rw [h.velocities, map_factor_iff] at hvel
    rw [h.accelerations, map_factor_iff] at hacc
    by_cases hk : factor units axes i = 1
    · exact .inl hk
    · exact .inr ⟨hvel.resolve_left hk, hacc.resolve_left hk⟩
  · intro hrest
    have hvel : ∀ i, factor units axes i = 1 ∨ AtRest api.velocities i := fun i =>
      (hrest i).imp_right And.left
    have hacc : ∀ i, factor units axes i = 1 ∨ AtRest api.accelerations i := fun i =>
      (hrest i).imp_right And.right
    refine ⟨h.time, h.abs_sub_le, fun i => ?_, fun i => ?_, fun settings i hs v' hv' v hv => ?_,
      fun settings i hs a' ha' a ha => ?_, fun i => ?_, h.velocities, h.accelerations⟩
    · rw [h.velocities]
      exact map_factor_iff.mpr (hvel i)
    · rw [h.accelerations]
      exact map_factor_iff.mpr (hacc i)
    · obtain rfl : v = v' := Option.mem_unique hv (h.velocities ▸ hv')
      rw [MotionSettings.velocityLimit, hs]
      exact limit_iff (factor_pos i) ((hvel i).imp_right fun hr => hr v hv)
    · obtain rfl : a = a' := Option.mem_unique ha (h.accelerations ▸ ha')
      rw [MotionSettings.accelerationLimit, hs]
      exact limit_iff (factor_pos i) ((hacc i).imp_right fun hr => hr a ha)
    · have hk : 0 < factor units axes i := factor_pos i
      have hsub : (publicPoint units axes drive).positions i - api.positions i =
          (drive.positions i - factor units axes i * api.positions i) / factor units axes i := by
        rw [sub_div, mul_div_cancel_left₀ _ hk.ne']
        rfl
      rw [hsub, abs_div, abs_of_pos hk]
      exact div_le_div_of_nonneg_right (h.abs_sub_le i) hk.le

theorem PointConsistent.unroundedPoint_eq (h : PointConsistent units axes api drive) (i : Fin m) :
    unroundedPoint units axes api drive i = (api.onAxis i).scale (factor units axes i) := by
  have hvel := h.velocities i
  have hacc := h.accelerations i
  simp only [unroundedPoint, TimedPoint.scale, TrajectoryPoint.onAxis, hvel, hacc, h.time,
    Option.map_map, Function.comp_def]

theorem segmentConsistent {start stop : TrajectoryPoint ℝ m × TrajectoryPoint ℝ m}
    (hstart : PointConsistent units axes start.1 start.2)
    (hstop : PointConsistent units axes stop.1 stop.2) :
    SegmentConsistent units axes start stop := by
  intro i move profile t
  rw [hstart.unroundedPoint_eq, hstop.unroundedPoint_eq]
  exact segmentCurve_scale move profile _ _ _ t

/-- **The units of a trajectory are consistent exactly for axes of factor `1` and for values at
rest**: the conversion leaves velocities and accelerations as they are. -/
theorem unitConsistent_iff {axesZ : List ℤ} {axes : Fin axesZ.length → Fin n}
    {message converted : Message ℝ} {api drive : List (TrajectoryPoint ℝ axesZ.length)}
    (hmsg : trajectoryMessageApiToDrive units message = .ok converted)
    (hZ : messageAxes n (message.getD "axes" (.list [])) = .ok axesZ)
    (haxes : ∀ i, pyIndex n (axesZ.get i) = .ok (axes i))
    (hapi : normalizeTrajectoryPoints axesZ.length (message.getD "points" (.list [])) = .ok api)
    (hdrive : normalizeTrajectoryPoints axesZ.length (converted.getD "points" (.list [])) =
      .ok drive) :
    UnitConsistent units axes api drive ↔ ∀ point ∈ api, ∀ i, factor units axes i = 1 ∨
      (AtRest point.velocities i ∧ AtRest point.accelerations i) := by
  have hconv := trajectoryMessageApiToDrive_points hmsg hZ haxes hapi hdrive
  have hiff : List.Forall₂ (PointConsistent units axes) api drive ↔ ∀ point ∈ api, ∀ i,
      factor units axes i = 1 ∨ (AtRest point.velocities i ∧ AtRest point.accelerations i) := by
    clear hapi hdrive
    induction hconv with
    | nil => simp
    | cons hpoint _ ih =>
      rw [List.forall₂_cons, hpoint.pointConsistent_iff, ih, List.forall_mem_cons]
  rw [UnitConsistent, ← hiff]
  refine ⟨And.left, fun h => ⟨h, ?_⟩⟩
  have hmem : ∀ x ∈ api.zip drive, PointConsistent units axes x.1 x.2 := by
    rw [List.forall₂_iff_zip] at h
    exact fun x hx => h.2 hx
  exact (List.isChain_isInfix _).imp fun x y hxy =>
    segmentConsistent (hmem x (hxy.subset (by simp))) (hmem y (hxy.subset (by simp)))

end Consistent

/-! ## A request in millimetres -/

section Millimetres

/-- A drive in metres that counts micrometres. -/
def micrometreUnits : Fin 1 → AxisUnits := fun _ =>
  { userPositionUnit := some 0x0100
    convertingUnitExponents := some { position := 6, velocity := 3, acceleration := 3, jerk := 3 } }

theorem micrometre_factor : factor micrometreUnits id 0 = 1000 := by
  simp only [factor, micrometreUnits, AxisUnits.positionCountsPerApiUnit, AxisUnits.isLinear,
    AxisUnits.isRotary, AxisUnits.apiToUserUnitFactor, AxisUnits.scaleFromExponent, pyMax_real,
    Option.any_some, Option.map_some]
  norm_num

/-- A point at the origin. -/
def originEntries (velocity time : ℤ) : Message ℝ :=
  [("positions", .list [.int 0]), ("velocities", .list [.int velocity]),
    ("time_from_start", .int time)]

/-- Through the origin at `velocity` millimetres per second. -/
def originMessage (velocity : ℤ) : Message ℝ :=
  [("axes", .list [.int 0]),
    ("points", .list [.dict (originEntries velocity 0), .dict (originEntries velocity 1)])]

/-- The points of `originMessage` as the verifier reads them. -/
noncomputable def originPoint (velocity time : ℤ) : TrajectoryPoint ℝ 1 where
  positions _ := ((0 : ℤ) : ℝ)
  velocities := some fun _ => (velocity : ℝ)
  accelerations := none
  timeFromStart := (time : ℝ)

/-- The converted point: its position is `0` again. -/
def originConverted (velocity time : ℤ) : Value ℝ :=
  .dict ((originEntries velocity time).set "positions" (.list [.int 0]))

theorem requireInt32_zero : requireInt32 (0 : ℝ) = .ok 0 := by
  have h : PyFloat.roundInt (0 : ℝ) = .ok 0 := by
    change Except.ok (roundHalfEven (0 : ℝ)) = _
    simp [roundHalfEven]
  rw [requireInt32, h]
  rfl

theorem originEntries_converted (velocity time : ℤ) :
    pointApiToDrive micrometreUnits [0] (.dict (originEntries velocity time)) =
      .ok (originConverted velocity time) := by
  have hdrive : (micrometreUnits 0).positionApiToDrive ((0 : ℤ) : ℝ) = 0 := by
    rw [Int.cast_zero]
    exact zero_mul _
  have hposition : positionsApiToDrive micrometreUnits [0] [(.int 0 : Value ℝ)] = .ok [.int 0] :=
    Except.mapM_eq_ok_iff.mpr <| .cons (Except.bind_eq_ok.mpr ⟨_, rfl, Except.bind_eq_ok.mpr
      ⟨0, rfl, Except.bind_eq_ok.mpr ⟨0, hdrive ▸ requireInt32_zero, rfl⟩⟩⟩) .nil
  exact Except.bind_eq_ok.mpr ⟨_, rfl, Except.bind_eq_ok.mpr ⟨_, rfl, Except.bind_eq_ok.mpr
    ⟨_, hposition, rfl⟩⟩⟩

theorem originMessage_converted (velocity : ℤ) :
    trajectoryMessageApiToDrive micrometreUnits (originMessage velocity) =
      .ok ((originMessage velocity).set "points"
        (.list [originConverted velocity 0, originConverted velocity 1])) :=
  Except.bind_eq_ok.mpr ⟨[0], rfl, Except.bind_eq_ok.mpr ⟨_, rfl, Except.bind_eq_ok.mpr
    ⟨_, Except.mapM_eq_ok_iff.mpr (.cons (originEntries_converted velocity 0)
      (.cons (originEntries_converted velocity 1) .nil)), rfl⟩⟩⟩

theorem vectorOf_singleton (x : ℝ) : vectorOf 1 [x] = .ok fun _ => x :=
  congrArg Except.ok (funext fun i => by fin_cases i; rfl)

theorem normalizePoint_origin (velocity time : ℤ) {entries : Message ℝ}
    (hpositions : entries.getD "positions" (.list []) = .list [.int 0])
    (hvelocities : entries.get? "velocities" = some (.list [.int velocity]))
    (haccelerations : entries.get? "accelerations" = none)
    (htime : entries.getD "time_from_start" (.float 0.0) = .int time) :
    normalizePoint 1 (.dict entries) = .ok (originPoint velocity time) := by
  have hvel : normalizeOptional 1 (some (.list [.int velocity])) =
      .ok (some fun _ => (velocity : ℝ)) := by
    change (some <$> vectorOf 1 [((velocity : ℤ) : ℝ)]) = _
    rw [vectorOf_singleton]
    rfl
  refine Except.bind_eq_ok.mpr ⟨entries, rfl, Except.bind_eq_ok.mpr ⟨[.int 0], hpositions ▸ rfl,
    Except.bind_eq_ok.mpr ⟨[((0 : ℤ) : ℝ)], rfl, Except.bind_eq_ok.mpr ⟨_, vectorOf_singleton _,
      Except.bind_eq_ok.mpr ⟨(time : ℝ), htime ▸ rfl, Except.bind_eq_ok.mpr ⟨_, hvelocities ▸ hvel,
        Except.bind_eq_ok.mpr ⟨none, haccelerations ▸ rfl, rfl⟩⟩⟩⟩⟩⟩⟩

theorem originPoints_monotonic (velocity : ℤ) :
    timesMonotonic (-1e-9) [originPoint velocity 0, originPoint velocity 1] = true := by
  norm_num [timesMonotonic, originPoint]

theorem originMessage_api (velocity : ℤ) :
    normalizeTrajectoryPoints 1 ((originMessage velocity).getD "points" (.list [])) =
      .ok [originPoint velocity 0, originPoint velocity 1] :=
  Except.bind_eq_ok.mpr ⟨_, rfl, Except.bind_eq_ok.mpr ⟨_, Except.mapM_eq_ok_iff.mpr
    (.cons (normalizePoint_origin velocity 0 rfl rfl rfl rfl)
      (.cons (normalizePoint_origin velocity 1 rfl rfl rfl rfl) .nil)),
    if_pos (originPoints_monotonic velocity)⟩⟩

theorem originMessage_drive (velocity : ℤ) :
    normalizeTrajectoryPoints 1 (((originMessage velocity).set "points"
        (.list [originConverted velocity 0, originConverted velocity 1])).getD "points" (.list [])) =
      .ok [originPoint velocity 0, originPoint velocity 1] :=
  Except.bind_eq_ok.mpr ⟨_, rfl, Except.bind_eq_ok.mpr ⟨_, Except.mapM_eq_ok_iff.mpr
    (.cons (normalizePoint_origin velocity 0 rfl rfl rfl rfl)
      (.cons (normalizePoint_origin velocity 1 rfl rfl rfl rfl) .nil)),
    if_pos (originPoints_monotonic velocity)⟩⟩

/-- **A request that is not converted as a whole**: a millimetre per second stays a micrometre per
second. -/
theorem originMessage_inconsistent :
    trajectoryMessageApiToDrive micrometreUnits (originMessage 1) =
        .ok ((originMessage 1).set "points" (.list [originConverted 1 0, originConverted 1 1])) ∧
      normalizeTrajectoryPoints 1 ((originMessage 1).getD "points" (.list [])) =
        .ok [originPoint 1 0, originPoint 1 1] ∧
      normalizeTrajectoryPoints 1 (((originMessage 1).set "points"
          (.list [originConverted 1 0, originConverted 1 1])).getD "points" (.list [])) =
        .ok [originPoint 1 0, originPoint 1 1] ∧
      ¬ UnitConsistent micrometreUnits id [originPoint 1 0, originPoint 1 1]
        [originPoint 1 0, originPoint 1 1] := by
  refine ⟨originMessage_converted 1, originMessage_api 1, originMessage_drive 1, fun h => ?_⟩
  have hvel := (List.forall₂_cons.mp h.1).1.velocities 0
  rw [micrometre_factor] at hvel
  norm_num [originPoint] at hvel

theorem originMessage_consistent_iff :
    UnitConsistent micrometreUnits (fun i : Fin [(0 : ℤ)].length => i)
        [originPoint 0 0, originPoint 0 1] [originPoint 0 0, originPoint 0 1] ↔
      ∀ point ∈ [originPoint 0 0, originPoint 0 1], ∀ i,
        factor micrometreUnits (fun i : Fin [(0 : ℤ)].length => i) i = 1 ∨
          (AtRest point.velocities i ∧ AtRest point.accelerations i) :=
  unitConsistent_iff (originMessage_converted 0)
    (rfl : messageAxes 1 ((originMessage 0).getD "axes" (.list [])) = .ok [0])
    (fun i => by fin_cases i; rfl) (originMessage_api 0) (originMessage_drive 0)

end Millimetres

end MotionServer
