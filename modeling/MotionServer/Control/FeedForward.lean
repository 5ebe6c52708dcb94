import MotionServer.App.Exchange
import MotionServer.Device.AxisUnits
import MotionServer.Python.ExtRat

/-!
# Position and velocity of one motion

* `countsPerSecond`, `countsPerSecondSquared`: what a velocity or an acceleration of a drive is in
  counts of its position;
* `velocityFeedForward`: the velocity offset that the server sends beside a position;
* `UnitsInverse`, `ScalesCoherent`, `FeedForwardCoherent`: the conversions fit together;
* **`unitsCoherent_iff`**: exactly when they do.
-/

namespace MotionServer

namespace AxisUnits

/-! ## Motions of a drive -/

section Drive

variable {F : Type} [PyFloat F] (units : AxisUnits)

/-- The scale of positions, as the drive reports it. -/
def positionScale : F := scaleFromExponent (units.convertingUnitExponents.map UnitExponents.position)

/-- The scale of velocities, as the drive reports it. -/
def velocityScale : F := scaleFromExponent (units.convertingUnitExponents.map UnitExponents.velocity)

/-- The scale of accelerations, as the drive reports it. -/
def accelerationScale : F := scaleFromExponent (units.convertingUnitExponents.map UnitExponents.acceleration)

/-- A velocity of the drive in counts of its position. -/
def countsPerSecond (velocity : F) : F := velocity * units.velocityScale / units.positionScale

/-- An acceleration of the drive in counts of its position. -/
def countsPerSecondSquared (acceleration : F) : F :=
  acceleration * units.accelerationScale / units.positionScale

/-- The velocity of the drive that is a number of counts per second. -/
def driveVelocity (counts : F) : F := counts * units.positionScale / units.velocityScale

/-- `velocity_offset` of `update_commands`, from the commanded velocity in counts. -/
def velocityFeedForward (counts : F) : Except PyExc ℤ :=
  PyFloat.roundInt (counts / pyMax units.positionCountsPerApiUnit 1e-9)

/-- It is what the server sends. -/
theorem velocityOffset_eq {n : ℕ} (w : World n F) (axisIndex : Fin n)
    (hunits : w.settings.positionCountsPerApiUnit axisIndex = units.positionCountsPerApiUnit)
    (henabled : w.cspVelocityOffsetByAxis axisIndex = true) (counts : F) :
    w.velocityOffset axisIndex counts = units.velocityFeedForward counts := by
  rw [World.velocityOffset, if_pos henabled, hunits]
  rfl

end Drive

/-- The two directions of each conversion undo each other. -/
structure UnitsInverse (units : AxisUnits) : Prop where
  position_api : ∀ x : ℝ, units.positionDriveToApi (units.positionApiToDrive x) = x
  position_drive : ∀ x : ℝ, units.positionApiToDrive (units.positionDriveToApi x) = x
  motion_api : ∀ (kind : MotionKind) (x : ℝ),
    units.motionDriveToApi (units.motionApiToDrive x kind) kind = x
  motion_drive : ∀ (kind : MotionKind) (x : ℝ),
    units.motionApiToDrive (units.motionDriveToApi x kind) kind = x

/-- A velocity or an acceleration of the drive, taken to API units and multiplied by the counts of an
API unit, is the same motion in counts. -/
structure ScalesCoherent (units : AxisUnits) : Prop where
  velocity : ∀ v : ℝ, units.motionDriveToApi v .velocity * units.positionCountsPerApiUnit =
    units.countsPerSecond v
  acceleration : ∀ a : ℝ,
    units.motionDriveToApi a .acceleration * units.positionCountsPerApiUnit =
      units.countsPerSecondSquared a
  deceleration : ∀ a : ℝ,
    units.motionDriveToApi a .deceleration * units.positionCountsPerApiUnit =
      units.countsPerSecondSquared a

/-- The velocity offset is the velocity of the drive that the positions have, up to rounding. -/
def FeedForwardCoherent (units : AxisUnits) : Prop :=
  ∀ counts : ℝ, units.velocityFeedForward counts = .ok (roundHalfEven (units.driveVelocity counts))

/-! ## Exponents -/

/-- The size of the exponent of positions. -/
def positionExponent (units : AxisUnits) : ℕ :=
  ((units.convertingUnitExponents.map UnitExponents.position).getD 0).natAbs

/-- The size of the exponent of velocities. -/
def velocityExponent (units : AxisUnits) : ℕ :=
  ((units.convertingUnitExponents.map UnitExponents.velocity).getD 0).natAbs

/-- The size of the exponent of accelerations. -/
def accelerationExponent (units : AxisUnits) : ℕ :=
  ((units.convertingUnitExponents.map UnitExponents.acceleration).getD 0).natAbs

/-- `motion_kind` is not `unknown`. -/
def unitKnown (units : AxisUnits) : Bool :=
  units.userPositionUnit.any fun unit => isLinear unit || isRotary unit

/-- The exponents fit together. Scales below `1e-12` are raised to it. -/
def ExponentsAgree (units : AxisUnits) : Prop :=
  if units.unitKnown then
    (units.positionExponent ≤ 12 ∧ units.velocityExponent ≤ 12 ∧ units.accelerationExponent ≤ 12) ∨
      (units.velocityExponent = units.positionExponent ∧
        units.accelerationExponent = units.positionExponent)
  else
    (units.positionExponent = 0 ∧ units.velocityExponent ≤ 12 ∧ units.accelerationExponent ≤ 12) ∨
      (units.velocityExponent = units.positionExponent + 12 ∧
        units.accelerationExponent = units.positionExponent + 12)

instance (units : AxisUnits) : Decidable units.ExponentsAgree := by
  unfold ExponentsAgree
  infer_instance

/-- A unit of velocity of the drive is an API unit per second. -/
def VelocitiesAgree (units : AxisUnits) : Prop :=
  (units.userPositionUnit = some 0x0100 ∧ units.velocityExponent = 3 ∧
      units.positionExponent ≤ 12) ∨
    (units.userPositionUnit = some 0x4100 ∧ units.velocityExponent = 0 ∧
      units.positionExponent ≤ 12) ∨
    (units.unitKnown = false ∧ units.velocityExponent = 0 ∧ units.positionExponent = 0)

instance (units : AxisUnits) : Decidable units.VelocitiesAgree := by
  unfold VelocitiesAgree
  infer_instance

theorem scaleFromExponent_real (exponent : Option ℤ) :
    (scaleFromExponent exponent : ℝ) = (1 / 10) ^ (exponent.getD 0).natAbs := by
  cases exponent with
  | none => norm_num [scaleFromExponent]
  | some exponent =>
    show (1.0 : ℝ) / 10.0 ^ exponent.natAbs = (1 / 10) ^ exponent.natAbs
    rw [one_div_pow]
    norm_num

/-- A scale that is not below `1e-12`. -/
theorem max_pow_eq (k : ℕ) : max ((1 / 10 : ℝ) ^ k) 1e-12 = (1 / 10) ^ min k 12 := by
  have hsmall : (1e-12 : ℝ) = (1 / 10) ^ 12 := by norm_num
  have hanti := pow_right_strictAnti₀ (by norm_num : (0 : ℝ) < 1 / 10) (by norm_num)
  rw [hsmall]
  exact (hanti.antitone.map_min).symm

theorem pow_inj {j k : ℕ} : (1 / 10 : ℝ) ^ j = (1 / 10) ^ k ↔ j = k :=
  (pow_right_strictAnti₀ (by norm_num : (0 : ℝ) < 1 / 10) (by norm_num)).injective.eq_iff

/-! ## Conversions in powers of ten -/

section Exponents

variable (units : AxisUnits)

theorem positionScale_eq : (units.positionScale : ℝ) = (1 / 10) ^ units.positionExponent :=
  scaleFromExponent_real _

theorem velocityScale_eq : (units.velocityScale : ℝ) = (1 / 10) ^ units.velocityExponent :=
  scaleFromExponent_real _

theorem accelerationScale_eq :
    (units.accelerationScale : ℝ) = (1 / 10) ^ units.accelerationExponent :=
  scaleFromExponent_real _

theorem motionScale_velocity :
    (units.motionScale .velocity : ℝ) = (1 / 10) ^ min units.velocityExponent 12 := by
  rw [motionScale, pyMax_real, scaleFromExponent_real]
  exact max_pow_eq _

theorem motionScale_acceleration :
    (units.motionScale .acceleration : ℝ) = (1 / 10) ^ min units.accelerationExponent 12 := by
  rw [motionScale, pyMax_real, scaleFromExponent_real]
  exact max_pow_eq _

theorem motionScale_pos (kind : MotionKind) : 0 < (units.motionScale kind : ℝ) := by
  rw [motionScale, pyMax_real]
  exact lt_max_of_lt_right (by norm_num)

/-- The conversions undo each other, whatever the units are. -/
theorem unitsInverse : UnitsInverse units := by
  have hposition : (units.positionCountsPerApiUnit : ℝ) ≠ 0 := (positionCountsPerApiUnit_pos units).ne'
  have hfactor : (apiToUserUnitFactor units.userPositionUnit : ℝ) ≠ 0 :=
    (apiToUserUnitFactor_pos _).ne'
  refine ⟨fun x => ?_, fun x => ?_, fun kind x => ?_, fun kind x => ?_⟩
  · exact mul_div_cancel_right₀ x hposition
  · exact div_mul_cancel₀ x hposition
  · have hscale := (motionScale_pos units kind).ne'
    rw [motionDriveToApi, motionApiToDrive, div_mul_cancel₀ _ hscale, mul_div_cancel_right₀ _ hfactor]
  · have hscale := (motionScale_pos units kind).ne'
    rw [motionDriveToApi, motionApiToDrive, div_mul_cancel₀ _ hfactor, mul_div_cancel_right₀ _ hscale]

/-- The counts of an API unit, for a known unit. -/
theorem counts_of_known (h : units.unitKnown = true) :
    (units.positionCountsPerApiUnit : ℝ) = apiToUserUnitFactor units.userPositionUnit /
      (1 / 10) ^ min units.positionExponent 12 := by
  have hknown : (units.userPositionUnit.any fun unit => isLinear unit || isRotary unit) = true := h
  rw [positionCountsPerApiUnit, if_pos hknown, pyMax_real, scaleFromExponent_real]
  exact congrArg _ (max_pow_eq _)

/-- An unknown unit is counted as it is. -/
theorem counts_of_unknown (h : units.unitKnown = false) :
    (units.positionCountsPerApiUnit : ℝ) = 1 := by
  rw [positionCountsPerApiUnit, if_neg (by rw [unitKnown] at h; simp [h])]
  norm_num

theorem factor_of_unknown (h : units.unitKnown = false) :
    (apiToUserUnitFactor units.userPositionUnit : ℝ) = 1 := by
  obtain ⟨unit, exponents⟩ := units
  cases unit with
  | none => norm_num [apiToUserUnitFactor]
  | some unit =>
    have hkinds : isLinear unit = false ∧ isRotary unit = false := by
      simpa [unitKnown] using h
    obtain ⟨hlinear, hrotary⟩ := hkinds
    simp [isRotary] at hrotary
    show (if isLinear unit then (0.001 : ℝ) else _) = 1
    rw [if_neg (by simp [hlinear]), if_neg hrotary.1.1, if_neg hrotary.1.2, if_neg hrotary.2]
    norm_num

/-- One motion in counts, of a known unit. -/
theorem motionCounts_of_known (h : units.unitKnown = true) (kind : MotionKind) (x : ℝ) :
    units.motionDriveToApi x kind * units.positionCountsPerApiUnit =
      x * (units.motionScale kind / (1 / 10) ^ min units.positionExponent 12) := by
  have hfactor := (apiToUserUnitFactor_pos units.userPositionUnit).ne'
  rw [motionDriveToApi, counts_of_known units h, div_mul_div_cancel₀ hfactor, mul_div_assoc]

/-- One motion in counts, of an unknown unit. -/
theorem motionCounts_of_unknown (h : units.unitKnown = false) (kind : MotionKind) (x : ℝ) :
    units.motionDriveToApi x kind * units.positionCountsPerApiUnit = x * units.motionScale kind := by
  rw [motionDriveToApi, counts_of_unknown units h, factor_of_unknown units h, mul_one, div_one]

/-- Two ratios of powers of ten. -/
theorem pow_div_inj {a b c d : ℕ} :
    (1 / 10 : ℝ) ^ a / (1 / 10) ^ b = (1 / 10) ^ c / (1 / 10) ^ d ↔ a + d = c + b := by
  rw [div_eq_div_iff (by positivity) (by positivity), ← pow_add, ← pow_add, pow_inj]

theorem pow_eq_div {a c d : ℕ} :
    (1 / 10 : ℝ) ^ a = (1 / 10) ^ c / (1 / 10) ^ d ↔ a + d = c := by
  rw [eq_div_iff (by positivity), ← pow_add, pow_inj]

theorem forall_mul_eq_iff {a b : ℝ} : (∀ x : ℝ, x * a = x * b) ↔ a = b :=
  ⟨fun h => by simpa using h 1, fun h x => by rw [h]⟩

/-- **The scales fit together exactly when the exponents do.** -/
theorem scalesCoherent_iff : ScalesCoherent units ↔ units.ExponentsAgree := by
  have hcoherent : ScalesCoherent units ↔
      (∀ v : ℝ, units.motionDriveToApi v .velocity * units.positionCountsPerApiUnit =
        v * (units.velocityScale / units.positionScale)) ∧
      ∀ a : ℝ, units.motionDriveToApi a .acceleration * units.positionCountsPerApiUnit =
        a * (units.accelerationScale / units.positionScale) := by
    simp only [← mul_div_assoc]
    exact ⟨fun h => ⟨h.velocity, h.acceleration⟩, fun h => ⟨h.1, h.2, h.2⟩⟩
  rw [hcoherent, velocityScale_eq, positionScale_eq, accelerationScale_eq, ExponentsAgree]
  cases h : units.unitKnown with
  | true =>
    simp only [motionCounts_of_known units h, forall_mul_eq_iff, motionScale_velocity,
      motionScale_acceleration, pow_div_inj]
    rw [if_pos trivial]
    omega
  | false =>
    simp only [motionCounts_of_unknown units h, forall_mul_eq_iff, motionScale_velocity,
      motionScale_acceleration, pow_eq_div]
    rw [if_neg Bool.false_ne_true]
    omega

/-! ## The velocity offset -/

/-- An API unit has many counts. -/
theorem velocityFeedForward_eq (counts : ℝ) :
    units.velocityFeedForward counts =
      .ok (roundHalfEven (counts * (1 / units.positionCountsPerApiUnit))) := by
  have hfactor : (0.001 : ℝ) ≤ apiToUserUnitFactor units.userPositionUnit := by
    unfold apiToUserUnitFactor
    split
    · norm_num
    · split_ifs <;> norm_num
  have hlarge : (1e-9 : ℝ) ≤ units.positionCountsPerApiUnit := by
    cases h : units.unitKnown with
    | true =>
      have hpow : (1 / 10 : ℝ) ^ min units.positionExponent 12 ≤ 1 :=
        pow_le_one₀ (by norm_num) (by norm_num)
      rw [counts_of_known units h, le_div_iff₀ (by positivity)]
      nlinarith
    | false =>
      rw [counts_of_unknown units h]
      norm_num
  rw [velocityFeedForward, pyMax_real, max_eq_left hlarge, mul_one_div]
  rfl

/-- Two factors that give the same integers are the same. -/
theorem eq_of_roundHalfEven {a b : ℝ}
    (h : ∀ x : ℝ, roundHalfEven (x * a) = roundHalfEven (x * b)) : a = b := by
  by_contra hne
  have hpos : 0 < |a - b| := abs_pos.mpr (sub_ne_zero.mpr hne)
  obtain ⟨k, hk⟩ := exists_nat_gt (1 / |a - b|)
  have hfar : 1 < (k : ℝ) * |a - b| := by rwa [div_lt_iff₀ hpos] at hk
  have ha := abs_roundHalfEven_sub_le ((k : ℝ) * a)
  have hb := abs_roundHalfEven_sub_le ((k : ℝ) * b)
  rw [h k] at ha
  have hclose : |(k : ℝ) * a - k * b| ≤ 1 := by
    rw [abs_le] at ha hb ⊢
    constructor <;> linarith
  rw [← mul_sub, abs_mul, Nat.abs_cast] at hclose
  linarith

/-- The velocity offset is the velocity of the drive when an API unit is one of the drive. -/
theorem feedForwardCoherent_iff : FeedForwardCoherent units ↔
    1 / (units.positionCountsPerApiUnit : ℝ) = units.positionScale / units.velocityScale := by
  unfold FeedForwardCoherent driveVelocity
  simp only [velocityFeedForward_eq, Except.ok.injEq, mul_div_assoc]
  exact ⟨eq_of_roundHalfEven, fun h counts => by rw [h]⟩

/-- The factors of the known units that are powers of ten. -/
theorem factor_eq_pow_iff (h : units.unitKnown = true) (k : ℕ) :
    apiToUserUnitFactor units.userPositionUnit = (1 / 10 : ℝ) ^ k ↔
      units.userPositionUnit = some 0x0100 ∧ k = 3 ∨ units.userPositionUnit = some 0x4100 ∧ k = 0 := by
  obtain ⟨unit, exponents⟩ := units
  have hbetween : ∀ {x : ℝ} (j : ℕ), (1 / 10) ^ (j + 1) < x → x < (1 / 10) ^ j →
      x ≠ (1 / 10) ^ k := by
    rintro x j hlow hhigh rfl
    have hanti := pow_right_strictAnti₀ (by norm_num : (0 : ℝ) < 1 / 10) (by norm_num)
    have hj : k < j + 1 := hanti.lt_iff_gt.mp hlow
    have hk : j < k := hanti.lt_iff_gt.mp hhigh
    omega
  cases unit with
  | none => simp [unitKnown] at h
  | some unit =>
    have hunit : unit = 0x0100 ∨ unit = 0x1000 ∨ unit = 0x4100 ∨ unit = 0xB400 := by
      simpa [unitKnown, isLinear, isRotary, or_assoc] using h
    rcases hunit with rfl | rfl | rfl | rfl
    · have hfactor : (apiToUserUnitFactor (some 0x0100) : ℝ) = (1 / 10) ^ 3 := by
        norm_num [apiToUserUnitFactor, isLinear]
      rw [hfactor, pow_inj]
      simp [eq_comm]
    · have hfactor := hbetween (x := apiToUserUnitFactor (some 0x1000)) 1
        (by norm_num [apiToUserUnitFactor, isLinear]) (by norm_num [apiToUserUnitFactor, isLinear])
      simpa using hfactor
    · have hfactor : (apiToUserUnitFactor (some 0x4100) : ℝ) = (1 / 10) ^ 0 := by
        norm_num [apiToUserUnitFactor, isLinear]
      rw [hfactor, pow_inj]
      simp [eq_comm]
    · have hfactor := hbetween (x := apiToUserUnitFactor (some 0xB400)) 2
        (by norm_num [apiToUserUnitFactor, isLinear]) (by norm_num [apiToUserUnitFactor, isLinear])
      simpa using hfactor

theorem feedForwardCoherent_of_known (h : units.unitKnown = true) (hagree : units.ExponentsAgree) :
    FeedForwardCoherent units ↔ units.VelocitiesAgree := by
  rw [ExponentsAgree, if_pos h] at hagree
  have hunknown : ¬ units.unitKnown = false := by simp [h]
  have hcross : 1 / (units.positionCountsPerApiUnit : ℝ) =
      (1 / 10) ^ units.positionExponent / (1 / 10) ^ units.velocityExponent ↔
      apiToUserUnitFactor units.userPositionUnit * (1 / 10 : ℝ) ^ units.positionExponent =
        (1 / 10) ^ (min units.positionExponent 12 + units.velocityExponent) := by
    rw [counts_of_known units h, one_div_div,
      div_eq_div_iff (apiToUserUnitFactor_pos _).ne' (by positivity), ← pow_add, eq_comm, mul_comm]
  rw [feedForwardCoherent_iff, positionScale_eq, velocityScale_eq, hcross, VelocitiesAgree]
  by_cases hp : units.positionExponent ≤ 12
  · rw [min_eq_left hp, pow_add, mul_comm ((1 / 10 : ℝ) ^ units.positionExponent),
      mul_left_inj' (by positivity), factor_eq_pow_iff units h]
    tauto
  · have hsame : units.velocityExponent = units.positionExponent := by omega
    rw [min_eq_right (by omega), hsame, pow_add, mul_left_inj' (by positivity),
      factor_eq_pow_iff units h]
    omega

theorem feedForwardCoherent_of_unknown (h : units.unitKnown = false)
    (hagree : units.ExponentsAgree) : FeedForwardCoherent units ↔ units.VelocitiesAgree := by
  have hmetre : units.userPositionUnit ≠ some 0x0100 := by
    intro hunit
    simp [unitKnown, hunit, isLinear] at h
  have hdegree : units.userPositionUnit ≠ some 0x4100 := by
    intro hunit
    simp [unitKnown, hunit, isRotary] at h
  rw [ExponentsAgree, if_neg (by rw [h]; exact Bool.false_ne_true)] at hagree
  have hcross := pow_eq_div (a := 0) (c := units.positionExponent) (d := units.velocityExponent)
  rw [pow_zero] at hcross
  rw [feedForwardCoherent_iff, positionScale_eq, velocityScale_eq, VelocitiesAgree,
    counts_of_unknown units h, div_one, hcross]
  simp only [hmetre, hdegree, h, false_and, false_or, true_and]
  omega

/-- **The conversions are coherent exactly when the exponents fit together,** and positions and
velocity offsets describe the same motion exactly when, besides, a unit of velocity of the drive is
an API unit per second. -/
theorem unitsCoherent_iff :
    (UnitsInverse units ∧ ScalesCoherent units ↔ units.ExponentsAgree) ∧
      (UnitsInverse units ∧ ScalesCoherent units ∧ FeedForwardCoherent units ↔
        units.ExponentsAgree ∧ units.VelocitiesAgree) := by
  have hinverse : UnitsInverse units := unitsInverse units
  have hfeed : units.ExponentsAgree → (FeedForwardCoherent units ↔ units.VelocitiesAgree) := by
    cases h : units.unitKnown with
    | true => exact feedForwardCoherent_of_known units h
    | false => exact feedForwardCoherent_of_unknown units h
  rw [scalesCoherent_iff]
  tauto

end Exponents

/-- A linear axis whose drive counts micrometres, and micrometres per second. -/
def micrometres : AxisUnits := ⟨some 0x0100, some ⟨-6, -6, -6, -6⟩⟩

/-- An axis of a unit that has no name, with the same exponents. -/
def unnamedUnit : AxisUnits := ⟨some 0x0500, some ⟨-6, -6, -6, -6⟩⟩

/-- **A velocity of one millimetre per second is sent as one micrometre per second,** and the scales
of positions and velocities of an unknown unit drift apart. -/
theorem micrometres_incoherent :
    ScalesCoherent micrometres ∧
      velocityFeedForward micrometres (1000 : ℝ) = .ok 1 ∧ driveVelocity micrometres (1000 : ℝ) = 1000 ∧
      ¬ FeedForwardCoherent micrometres ∧ ¬ ScalesCoherent unnamedUnit := by
  have hagree : micrometres.ExponentsAgree := by decide
  have hcounts : (micrometres.positionCountsPerApiUnit : ℝ) = 1000 := by
    rw [counts_of_known micrometres rfl]
    norm_num [micrometres, apiToUserUnitFactor, isLinear, positionExponent]
  have hsent : velocityFeedForward micrometres (1000 : ℝ) = .ok 1 := by
    rw [velocityFeedForward_eq, hcounts]
    have hround := roundHalfEven_intCast (K := ℝ) 1
    norm_num at hround ⊢
    exact hround
  have hdrive : driveVelocity micrometres (1000 : ℝ) = 1000 := by
    rw [driveVelocity, positionScale_eq, velocityScale_eq]
    norm_num [micrometres, positionExponent, velocityExponent]
  refine ⟨(scalesCoherent_iff _).mpr hagree, hsent, hdrive, fun h => ?_, fun h => ?_⟩
  · have hvelocities := (feedForwardCoherent_of_known micrometres rfl hagree).mp h
    exact absurd hvelocities (by decide)
  · exact absurd ((scalesCoherent_iff _).mp h) (by decide)

end AxisUnits

end MotionServer
