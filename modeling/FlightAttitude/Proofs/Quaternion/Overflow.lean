/-
# FlightAttitude.Proofs.Quaternion.Overflow — the scale to length one where numbers end

Over `Limited` numbers the sum of the squares of a quaternion may pass the limit though every
component is below it, and a component may be infinite from the start. The length is then infinite,
and its reciprocal is zero: a finite scale, which brings no quaternion to length one.

So there are four kinds of quaternions (`kinds`). With an undefined component, or too short for the
reciprocal of its length, the scale is not finite. With a sum of squares between the two limits the
scale is finite and the result is of length one. With a sum of squares that is too large the scale is
zero, which is finite, and what is left are zeros and, for infinite components, undefined numbers.
The result is of length one for the third kind only (`isUnit_normalize_iff`), while the scale is
finite for the last two (`isFinite_unitScale_iff`).
-/
import FlightAttitude.Proofs.Quaternion.Choice
import FlightAttitude.Proofs.Quaternion.Length
import FlightAttitude.Proofs.Scalar.Limited

namespace FlightAttitude

open Extended (confine finite total squared)

namespace Quaternion

variable {limit : ℝ} {q : Quaternion (Limited limit)}

/-! ## §1 Kinds -/

/-- **`values q`** — the components as extended numbers. -/
def values (q : Quaternion (Limited limit)) : Quaternion Extended := q.map Limited.value

/-- **`HasUndefined q`** — some component is no number. -/
def HasUndefined (q : Quaternion (Limited limit)) : Prop :=
  ∃ i, q.values.component i = .undefined

/-- **`extent q`** — the sum of the squares, however large; infinite with an infinite component. -/
noncomputable def extent (q : Quaternion (Limited limit)) : ENNReal :=
  squared q.x.value + squared q.y.value + squared q.z.value + squared q.w.value

/-- **`IsShort q`** — the length is zero, or its reciprocal reaches the limit. -/
def IsShort (q : Quaternion (Limited limit)) : Prop :=
  ¬ q.HasUndefined ∧ q.extent ≤ ENNReal.ofReal (limit⁻¹ ^ 2)

/-- **`IsScalable q`** — the sum of the squares lies between the two limits. -/
def IsScalable (q : Quaternion (Limited limit)) : Prop :=
  ¬ q.HasUndefined ∧ ENNReal.ofReal (limit⁻¹ ^ 2) < q.extent ∧ q.extent < ENNReal.ofReal limit

/-- **`IsLong q`** — the sum of the squares reaches the limit. -/
def IsLong (q : Quaternion (Limited limit)) : Prop :=
  ¬ q.HasUndefined ∧ ENNReal.ofReal limit ≤ q.extent

theorem kinds (q : Quaternion (Limited limit)) :
    (q.HasUndefined ∨ q.IsShort) ∨ q.IsScalable ∨ q.IsLong := by
  by_cases undefined : q.HasUndefined
  · exact .inl (.inl undefined)
  · rcases le_or_gt q.extent (ENNReal.ofReal (limit⁻¹ ^ 2)) with short | enough
    · exact .inl (.inr ⟨undefined, short⟩)
    · rcases lt_or_ge q.extent (ENNReal.ofReal limit) with below | long
      · exact .inr (.inl ⟨undefined, enough, below⟩)
      · exact .inr (.inr ⟨undefined, long⟩)

theorem IsScalable.not_isLong (h : q.IsScalable) : ¬ q.IsLong :=
  fun long => absurd h.2.2 (not_lt.mpr long.2)

/-! ## §2 The length -/

theorem value_normSq_of_undefined (h : q.HasUndefined) : q.normSq.value = .undefined := by
  obtain ⟨i, undefined⟩ := h
  match i with
  | 0 | 1 | 2 | 3 =>
    simp only [values, map, component] at undefined
    simp [normSq, Limited.value_add, Limited.value_mul, undefined]

/-- **The sum of the squares is the total**: no step of it is smaller than the one before. -/
theorem value_normSq (positive : 0 < limit) (h : ¬ q.HasUndefined) :
    q.normSq.value = total limit q.extent := by
  have defined (i : Fin 4) : q.values.component i ≠ .undefined := fun undefined => h ⟨i, undefined⟩
  have x := Extended.confine_mul_self positive (defined 0)
  have y := Extended.confine_mul_self positive (defined 1)
  have z := Extended.confine_mul_self positive (defined 2)
  have w := Extended.confine_mul_self positive (defined 3)
  simp only [values, map, component] at x y z w
  simp only [normSq, Limited.value_add, Limited.value_mul, Limited.value_zero, x, y, z, w,
    Extended.confine_zero positive, Extended.confine_total_add positive, zero_add, extent]

theorem value_norm_of_undefined (h : q.HasUndefined) : q.norm.value = .undefined := by
  rw [norm, Limited.value_sqrt, value_normSq_of_undefined h]
  rfl

theorem value_norm_of_long (positive : 0 < limit) (h : q.IsLong) : q.norm.value = .above := by
  rw [norm, Limited.value_sqrt, value_normSq positive h.1, Extended.total_of_le h.2]
  rfl

theorem value_norm_of_lt (beyond : 1 < limit) (h : ¬ q.HasUndefined)
    (less : q.extent < ENNReal.ofReal limit) :
    q.norm.value = finite (Real.sqrt q.extent.toReal) := by
  rw [norm, Limited.value_sqrt, value_normSq (zero_lt_one.trans beyond) h, Extended.total_of_lt less,
    Extended.confine_sqrt beyond less]

/-! ## §3 The scale -/

theorem value_unitScale (beyond : 1 < limit) (q : Quaternion (Limited limit)) :
    q.unitScale.value = (finite 1 / q.norm.value).confine limit := by
  rw [unitScale, Limited.value_div, Limited.value_one beyond]

theorem value_unitScale_of_undefined (beyond : 1 < limit) (h : q.HasUndefined) :
    q.unitScale.value = .undefined := by
  rw [value_unitScale beyond, value_norm_of_undefined h]
  rfl

/-- **An infinite length has a finite scale.** -/
theorem value_unitScale_of_long (beyond : 1 < limit) (h : q.IsLong) :
    q.unitScale.value = finite 0 := by
  have positive : 0 < limit := zero_lt_one.trans beyond
  rw [value_unitScale beyond, value_norm_of_long positive h]
  exact Extended.confine_finite (by rwa [abs_zero])

/-- The reciprocal of the limit is below the limit. -/
theorem inv_sq_lt (beyond : 1 < limit) : ENNReal.ofReal (limit⁻¹ ^ 2) < ENNReal.ofReal limit := by
  have positive : 0 < limit := zero_lt_one.trans beyond
  have less : limit⁻¹ ^ 2 < 1 := pow_lt_one₀ (inv_nonneg.mpr positive.le) (inv_lt_one_of_one_lt₀ beyond)
    two_ne_zero
  exact (ENNReal.ofReal_lt_ofReal_iff positive).mpr (less.trans beyond)

theorem value_unitScale_of_short (beyond : 1 < limit) (h : q.IsShort) :
    q.unitScale.value = .above := by
  have positive : 0 < limit := zero_lt_one.trans beyond
  have less : q.extent < ENNReal.ofReal limit := h.2.trans_lt (inv_sq_lt beyond)
  have length : Real.sqrt q.extent.toReal ≤ limit⁻¹ :=
    Real.sqrt_le_iff.mpr ⟨inv_nonneg.mpr positive.le,
      (ENNReal.le_ofReal_iff_toReal_le less.ne_top (sq_nonneg _)).mp h.2⟩
  rw [value_unitScale beyond, value_norm_of_lt beyond h.1 less]
  rcases (Real.sqrt_nonneg q.extent.toReal).eq_or_lt with zero | nonzero
  · have quotient : finite 1 / finite 0 = .above := by
      show (if (0 : ℝ) = 0 then Extended.infinite (SignType.sign 1) else finite (1 / 0)) = .above
      rw [if_pos rfl, sign_one]
      rfl
    rw [← zero, quotient, Extended.confine_above]
  · have reached : limit ≤ 1 / Real.sqrt q.extent.toReal := by
      rw [one_div]
      exact (le_inv_comm₀ positive nonzero).mpr length
    have sizes := positive.trans_le reached
    rw [Extended.finite_div nonzero.ne', confine, abs_of_pos sizes, if_pos reached, sign_pos sizes]
    rfl

/-! ## §4 Between the limits -/

theorem exists_eq_finite {x : Extended} (h : squared x ≠ ⊤) :
    ∃ r : ℝ, x = finite r ∧ squared x = ENNReal.ofReal (r * r) := by
  cases x with
  | finite r => exact ⟨r, rfl, rfl⟩
  | above | below | undefined => exact absurd rfl h

/-- With a finite sum of squares all components are real. -/
theorem exists_real (h : q.extent ≠ ⊤) :
    ∃ r : Quaternion ℝ, q.values = r.extend ∧ q.extent.toReal = r.normSq := by
  have parts := h
  simp only [extent, ENNReal.add_ne_top] at parts
  obtain ⟨x, hx, x_squared⟩ := exists_eq_finite parts.1.1.1
  obtain ⟨y, hy, y_squared⟩ := exists_eq_finite parts.1.1.2
  obtain ⟨z, hz, z_squared⟩ := exists_eq_finite parts.1.2
  obtain ⟨w, hw, w_squared⟩ := exists_eq_finite parts.2
  refine ⟨⟨x, y, z, w⟩, Quaternion.ext hx hy hz hw, ?_⟩
  have nonneg (a : ℝ) : 0 ≤ a * a := mul_self_nonneg a
  rw [extent, x_squared, y_squared, z_squared, w_squared, ← ENNReal.ofReal_add, ← ENNReal.ofReal_add,
    ← ENNReal.ofReal_add, ENNReal.toReal_ofReal, normSq, zero_add] <;>
    linarith [nonneg x, nonneg y, nonneg z, nonneg w]

/-- **Between the limits the scale is the one that it is over the reals.** -/
theorem value_unitScale_of_scalable (beyond : 1 < limit) (h : q.IsScalable) :
    ∃ r : Quaternion ℝ, r ≠ 0 ∧ q.values = r.extend ∧ q.unitScale.value = finite r.unitScale := by
  obtain ⟨defined, enough, less⟩ := h
  have positive : 0 < limit := zero_lt_one.trans beyond
  obtain ⟨r, real, square⟩ := exists_real less.ne_top
  have length : limit⁻¹ < r.norm := by
    rw [norm, sqrt_eq, Real.lt_sqrt (inv_nonneg.mpr positive.le), ← square]
    exact (ENNReal.ofReal_lt_iff_lt_toReal (sq_nonneg _) less.ne_top).mp enough
  have nonzero : 0 < r.norm := (inv_pos.mpr positive).trans length
  have scale : |1 / r.norm| < limit := by
    rw [abs_of_pos (one_div_pos.mpr nonzero), one_div]
    exact (inv_lt_comm₀ positive nonzero).mp length
  refine ⟨r, ?_, real, ?_⟩
  · rintro rfl
    rw [norm, normSq_eq_zero_iff.mpr rfl, sqrt_eq, Real.sqrt_zero] at nonzero
    exact nonzero.false
  · have root : Real.sqrt q.extent.toReal = r.norm := congrArg Real.sqrt square
    rw [value_unitScale beyond, value_norm_of_lt beyond defined less, root,
      Extended.finite_div nonzero.ne']
    exact Extended.confine_finite scale

theorem isFinite_unitScale (beyond : 1 < limit) (h : q.IsScalable ∨ q.IsLong) :
    FlightAttitude.isFinite q.unitScale = true := by
  rw [Limited.isFinite_eq]
  rcases h with scalable | long
  · obtain ⟨r, -, -, scale⟩ := value_unitScale_of_scalable beyond scalable
    rw [scale]
    rfl
  · rw [value_unitScale_of_long beyond long]
    rfl

theorem not_isFinite_unitScale (beyond : 1 < limit) (h : q.HasUndefined ∨ q.IsShort) :
    FlightAttitude.isFinite q.unitScale = false := by
  rw [Limited.isFinite_eq]
  rcases h with undefined | short
  · rw [value_unitScale_of_undefined beyond undefined]
    rfl
  · rw [value_unitScale_of_short beyond short]
    rfl

/-- **The scale is finite between the limits, and beyond the greater one.** -/
theorem isFinite_unitScale_iff (beyond : 1 < limit) :
    FlightAttitude.isFinite q.unitScale = true ↔ q.IsScalable ∨ q.IsLong := by
  refine ⟨fun scale => q.kinds.resolve_left fun lost => ?_, isFinite_unitScale beyond⟩
  rw [not_isFinite_unitScale beyond lost] at scale
  cases scale

theorem isFinite_unitScale_eq_false_iff (beyond : 1 < limit) :
    FlightAttitude.isFinite q.unitScale = false ↔ q.HasUndefined ∨ q.IsShort := by
  refine ⟨fun scale => q.kinds.resolve_right fun kept => ?_, not_isFinite_unitScale beyond⟩
  rw [isFinite_unitScale beyond kept] at scale
  cases scale

/-! ## §5 What comes out -/

/-- **`IsUnit q`** — all components are finite, and the length is one. -/
def IsUnit (q : Quaternion (Limited limit)) : Prop :=
  ∃ u : Quaternion ℝ, u.norm = 1 ∧ q.values = u.extend

theorem component_normalize (q : Quaternion (Limited limit)) (i : Fin 4) :
    q.normalize.values.component i =
      (q.values.component i * q.unitScale.value).confine limit := by
  match i with
  | 0 | 1 | 2 | 3 => rfl

theorem sq_component_le_normSq (r : Quaternion ℝ) (i : Fin 4) : r.component i ^ 2 ≤ r.normSq := by
  have x := sq_nonneg r.x
  have y := sq_nonneg r.y
  have z := sq_nonneg r.z
  have w := sq_nonneg r.w
  rw [normSq_eq]
  match i with
  | 0 => exact show r.x ^ 2 ≤ _ by linarith
  | 1 => exact show r.y ^ 2 ≤ _ by linarith
  | 2 => exact show r.z ^ 2 ≤ _ by linarith
  | 3 => exact show r.w ^ 2 ≤ _ by linarith

theorem abs_component_le_norm (r : Quaternion ℝ) (i : Fin 4) : |r.component i| ≤ r.norm := by
  rw [norm, sqrt_eq]
  exact Real.abs_le_sqrt (r.sq_component_le_normSq i)

theorem normalize_of_scalable (beyond : 1 < limit) (h : q.IsScalable) : q.normalize.IsUnit := by
  obtain ⟨r, nonzero, real, scale⟩ := value_unitScale_of_scalable beyond h
  have unit : r.normalize.norm = 1 := norm_normalize nonzero
  refine ⟨r.normalize, unit, ?_⟩
  have component (i : Fin 4) :
      q.normalize.values.component i = finite (r.normalize.component i) := by
    have size : |r.normalize.component i| < limit :=
      (unit ▸ r.normalize.abs_component_le_norm i).trans_lt beyond
    rw [component_normalize, real, scale, ← Extended.confine_finite size]
    match i with
    | 0 | 1 | 2 | 3 => rfl
  exact Quaternion.ext (component 0) (component 1) (component 2) (component 3)

/-- **Beyond the limit zeros are left**, and no number where a component is infinite. -/
theorem normalize_of_long (beyond : 1 < limit) (h : q.IsLong) (i : Fin 4) :
    q.normalize.values.component i =
      if FlightAttitude.isFinite (q.values.component i) then finite 0 else .undefined := by
  have positive : 0 < limit := zero_lt_one.trans beyond
  rw [component_normalize, value_unitScale_of_long beyond h]
  cases q.values.component i with
  | finite x =>
    rw [Extended.finite_mul, mul_zero, Extended.confine_finite (by rwa [abs_zero])]
    rfl
  | undefined =>
    rw [Extended.undefined_mul]
    rfl
  | above | below =>
    show (Extended.infinite (_ * SignType.sign (0 : ℝ))).confine limit = _
    rw [sign_zero, mul_zero]
    rfl

/-- **Between the limits, and only there, the result is of length one.** -/
theorem isUnit_normalize_iff (beyond : 1 < limit) : q.normalize.IsUnit ↔ q.IsScalable := by
  refine ⟨fun h => ?_, normalize_of_scalable beyond⟩
  obtain ⟨u, unit, real⟩ := h
  have component (i : Fin 4) : q.normalize.values.component i = finite (u.component i) := by
    rw [real]
    match i with
    | 0 | 1 | 2 | 3 => rfl
  by_cases scale : FlightAttitude.isFinite q.unitScale = true
  · refine ((isFinite_unitScale_iff beyond).mp scale).resolve_right fun long => ?_
    -- then every component is zero or undefined, and `u` would be zero
    have zero (i : Fin 4) : u.component i = 0 := by
      have left := normalize_of_long beyond long i
      rw [component] at left
      split_ifs at left with real
      · exact (Extended.finite.injEq ..).mp left
    have vanishes : u = 0 := Quaternion.ext (zero 0) (zero 1) (zero 2) (zero 3)
    rw [vanishes, norm, normSq_eq_zero_iff.mpr rfl, sqrt_eq, Real.sqrt_zero] at unit
    exact absurd unit zero_ne_one
  · have lost := Extended.isFinite_mul limit (q.values.component 0)
      (Bool.not_eq_true _ ▸ scale)
    rw [← component_normalize, component] at lost
    cases lost

end Quaternion

end FlightAttitude
