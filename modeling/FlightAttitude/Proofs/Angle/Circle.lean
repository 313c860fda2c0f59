/-
# FlightAttitude.Proofs.Angle.Circle — wrapped angles as points of the circle

`Angle.wrapUnsigned` chooses, of all angles that differ from its argument by whole turns, the one in
`[0, 360)`: it is `toIcoMod` of the library (`wrapUnsigned_eq_toIcoMod`), and so wrapping never moves
a point of the circle (`cos_wrapUnsigned`, `sin_wrapUnsigned`). `Angle.wrapSigned` chooses the one in
`(-180, 180]`, which is `toIocMod` (`wrapSigned_eq_toIocMod`).

`arctan2` reads an angle off a point of the plane. What it reads is, up to whole turns, the angle that
the point was built from (`wrapUnsigned_arctan2`), and the point can be built again from it
(`hypot_mul_cos_arctan2`, `hypot_mul_sin_arctan2`), the origin included.
-/
import Mathlib.Algebra.Order.ToIntervalMod
import FlightAttitude.Proofs.Scalar.Exact

namespace FlightAttitude

universe u

namespace Angle

/-! ## §1 The unsigned wrap -/

section Wrap

variable {K : Type u} [Field K] [LinearOrder K] [IsStrictOrderedRing K] [FloorRing K]

theorem turn_pos : (0 : K) < 360 := by norm_num

/-- The remainder by one turn is less than one turn in size, on either side of zero. -/
theorem remainder_turn_mem (a : K) : -360 < remainder a 360 ∧ remainder a 360 < 360 := by
  rw [remainder_eq, truncate]
  rcases le_or_gt 0 (a / 360) with hq | hq
  · have hlo : (⌊a / 360⌋ : K) * 360 ≤ a := (le_div_iff₀ turn_pos).mp (Int.floor_le _)
    have hhi : a < (⌊a / 360⌋ + 1 : K) * 360 := (div_lt_iff₀ turn_pos).mp (Int.lt_floor_add_one _)
    rw [if_pos hq]
    constructor <;> linarith
  · have hlo : a ≤ (⌈a / 360⌉ : K) * 360 := (div_le_iff₀ turn_pos).mp (Int.le_ceil _)
    have hhi : (⌈a / 360⌉ - 1 : K) * 360 < a :=
      (lt_div_iff₀ turn_pos).mp (by linarith [Int.ceil_lt_add_one (a / 360)])
    rw [if_neg (not_le.mpr hq)]
    constructor <;> linarith

theorem wrapUnsigned_of_nonneg {a : K} (h : 0 ≤ remainder a 360) :
    wrapUnsigned a = remainder a 360 := by
  have hfold : ¬ (360 ≤ remainder a 360 ∧ remainder a 360 ≤ 360) :=
    fun hturn => not_le.mpr (remainder_turn_mem a).2 hturn.1
  simp only [wrapUnsigned, fullTurn_eq, if_neg (not_lt.mpr h), if_neg hfold]

/-- The fold at the upper end is idle over exact numbers: what is negative stays below one turn. -/
theorem wrapUnsigned_of_neg {a : K} (h : remainder a 360 < 0) :
    wrapUnsigned a = remainder a 360 + 360 := by
  have hfold : ¬ (360 ≤ remainder a 360 + 360 ∧ remainder a 360 + 360 ≤ 360) :=
    fun hturn => by linarith [hturn.1]
  simp only [wrapUnsigned, fullTurn_eq, if_pos h, if_neg hfold]

theorem wrapUnsigned_mem (a : K) : 0 ≤ wrapUnsigned a ∧ wrapUnsigned a < 360 := by
  obtain ⟨hlo, hhi⟩ := remainder_turn_mem a
  rcases le_or_gt 0 (remainder a 360) with h | h
  · rw [wrapUnsigned_of_nonneg h]
    exact ⟨h, hhi⟩
  · rw [wrapUnsigned_of_neg h]
    constructor <;> linarith

/-- The wrap keeps the angle up to whole turns, whichever of its branches it takes. -/
theorem exists_wrapUnsigned_eq (a : K) : ∃ k : ℤ, a = wrapUnsigned a + k * 360 := by
  have hr : a = remainder a 360 + truncate (a / 360) * 360 := by
    rw [remainder_eq]
    ring
  rcases le_or_gt 0 (remainder a 360) with h | h
  · exact ⟨truncate (a / 360), by rw [wrapUnsigned_of_nonneg h, ← hr]⟩
  · refine ⟨truncate (a / 360) - 1, ?_⟩
    rw [wrapUnsigned_of_neg h]
    push_cast
    linarith

/-- **The unsigned wrap is the canonical residue modulo one turn.** -/
theorem wrapUnsigned_eq_toIcoMod (a : K) : wrapUnsigned a = toIcoMod turn_pos 0 a := by
  obtain ⟨k, hk⟩ := exists_wrapUnsigned_eq a
  symm
  rw [toIcoMod_eq_iff, zero_add]
  exact ⟨wrapUnsigned_mem a, k, by rwa [zsmul_eq_mul]⟩

theorem wrapUnsigned_eq_of_mem {a b : K} (h0 : 0 ≤ b) (h1 : b < 360) (k : ℤ)
    (h : a = b + k * 360) : wrapUnsigned a = b := by
  rw [wrapUnsigned_eq_toIcoMod, toIcoMod_eq_iff, zero_add]
  exact ⟨⟨h0, h1⟩, k, by rw [h, zsmul_eq_mul]⟩

theorem wrapUnsigned_add_int_mul (a : K) (k : ℤ) : wrapUnsigned (a + k * 360) = wrapUnsigned a := by
  rw [wrapUnsigned_eq_toIcoMod, wrapUnsigned_eq_toIcoMod, ← zsmul_eq_mul, toIcoMod_add_zsmul]

/-! ## §2 The signed wrap -/

omit [IsStrictOrderedRing K] in
theorem wrapSigned_eq (a : K) : wrapSigned a = a + 360 * (⌊(180 - a) / 360⌋ : ℤ) := by
  rw [wrapSigned, fullTurn_eq, halfTurn_eq]
  rfl

/-- The upper end is the closed one, since the floor counts the turns from there. -/
theorem wrapSigned_mem (a : K) : -180 < wrapSigned a ∧ wrapSigned a ≤ 180 := by
  have hlo : (⌊(180 - a) / 360⌋ : K) * 360 ≤ 180 - a :=
    (le_div_iff₀ turn_pos).mp (Int.floor_le _)
  have hhi : 180 - a < (⌊(180 - a) / 360⌋ + 1 : K) * 360 :=
    (div_lt_iff₀ turn_pos).mp (Int.lt_floor_add_one _)
  rw [wrapSigned_eq]
  constructor <;> linarith

omit [IsStrictOrderedRing K] in
theorem exists_wrapSigned_eq (a : K) : ∃ k : ℤ, a = wrapSigned a + k * 360 := by
  refine ⟨-⌊(180 - a) / 360⌋, ?_⟩
  rw [wrapSigned_eq]
  push_cast
  ring

/-- **The signed wrap is the canonical residue about zero.** -/
theorem wrapSigned_eq_toIocMod (a : K) : wrapSigned a = toIocMod turn_pos (-180) a := by
  obtain ⟨k, hk⟩ := exists_wrapSigned_eq a
  obtain ⟨hlo, hhi⟩ := wrapSigned_mem a
  symm
  rw [toIocMod_eq_iff]
  exact ⟨⟨hlo, by linarith⟩, k, by rwa [zsmul_eq_mul]⟩

theorem wrapSigned_eq_of_mem {a b : K} (h0 : -180 < b) (h1 : b ≤ 180) (k : ℤ)
    (h : a = b + k * 360) : wrapSigned a = b := by
  rw [wrapSigned_eq_toIocMod, toIocMod_eq_iff]
  exact ⟨⟨h0, by linarith⟩, k, by rw [h, zsmul_eq_mul]⟩

end Wrap

/-! ## §3 Degrees, radians and the circle -/

theorem toDegrees_eq (x : ℝ) : toDegrees x = x * (180 / Real.pi) := by
  simp [toDegrees]

theorem toRadians_eq (a : ℝ) : toRadians a = a * (Real.pi / 180) := by
  simp [toRadians]

@[simp] theorem toRadians_toDegrees (x : ℝ) : toRadians (toDegrees x) = x := by
  rw [toRadians_eq, toDegrees_eq]
  have := Real.pi_ne_zero
  field_simp

theorem toDegrees_toRadians (a : ℝ) : toDegrees (toRadians a) = a := by
  rw [toRadians_eq, toDegrees_eq]
  have := Real.pi_ne_zero
  field_simp

theorem toRadians_neg (a : ℝ) : toRadians (-a) = -toRadians a := by
  rw [toRadians_eq, toRadians_eq, neg_mul]

theorem toRadians_add_turns (a : ℝ) (k : ℤ) :
    toRadians (a + k * 360) = toRadians a + k * (2 * Real.pi) := by
  rw [toRadians_eq, toRadians_eq]
  ring

@[simp] theorem cos_wrapUnsigned (a : ℝ) :
    Real.cos (toRadians (wrapUnsigned a)) = Real.cos (toRadians a) := by
  obtain ⟨k, hk⟩ := exists_wrapUnsigned_eq a
  conv_rhs => rw [hk, toRadians_add_turns, Real.cos_add_int_mul_two_pi]

@[simp] theorem sin_wrapUnsigned (a : ℝ) :
    Real.sin (toRadians (wrapUnsigned a)) = Real.sin (toRadians a) := by
  obtain ⟨k, hk⟩ := exists_wrapUnsigned_eq a
  conv_rhs => rw [hk, toRadians_add_turns, Real.sin_add_int_mul_two_pi]

/-- A right angle, wrapped: the negative one comes out as three right angles. -/
theorem wrapUnsigned_right_angle : wrapUnsigned (toDegrees (Real.pi / 2)) = 90 ∧
    wrapUnsigned (toDegrees (-(Real.pi / 2))) = 270 := by
  have hpi := Real.pi_ne_zero
  constructor
  · refine wrapUnsigned_eq_of_mem (by norm_num) (by norm_num) 0 ?_
    rw [toDegrees_eq]
    field_simp
    norm_num
  · refine wrapUnsigned_eq_of_mem (by norm_num) (by norm_num) (-1) ?_
    rw [toDegrees_eq]
    field_simp
    norm_num

theorem arcsin_sin_toRadians {z : ℝ} (hlo : -90 ≤ z) (hhi : z ≤ 90) :
    Real.arcsin (Real.sin (toRadians z)) = toRadians z := by
  have hpi := Real.pi_pos
  rw [toRadians_eq]
  apply Real.arcsin_sin <;> nlinarith

theorem cos_toRadians_pos {z : ℝ} (hlo : -90 < z) (hhi : z < 90) :
    0 < Real.cos (toRadians z) := by
  have hpi := Real.pi_pos
  rw [toRadians_eq]
  apply Real.cos_pos_of_mem_Ioo
  constructor <;> nlinarith

/-! ## §4 The direction of a point -/

theorem norm_point (x y : ℝ) : ‖(⟨x, y⟩ : ℂ)‖ = Real.sqrt (x ^ 2 + y ^ 2) := by
  rw [Complex.norm_def, Complex.normSq_mk]
  ring_nf

theorem hypot_mul_cos_arctan2 (y x : ℝ) :
    Real.sqrt (x ^ 2 + y ^ 2) * Real.cos (arctan2 y x) = x := by
  rw [← norm_point, arctan2_eq, Complex.norm_mul_cos_arg]

theorem hypot_mul_sin_arctan2 (y x : ℝ) :
    Real.sqrt (x ^ 2 + y ^ 2) * Real.sin (arctan2 y x) = y := by
  rw [← norm_point, arctan2_eq, Complex.norm_mul_sin_arg]

/-- The direction of a point at distance `r` in the direction `t` is `t` up to whole turns. -/
theorem exists_arctan2_eq {r : ℝ} (hr : 0 < r) (t : ℝ) :
    ∃ k : ℤ, arctan2 (r * Real.sin t) (r * Real.cos t) = t + k * (2 * Real.pi) := by
  have hpoint : (⟨r * Real.cos t, r * Real.sin t⟩ : ℂ)
      = r * (Complex.cos t + Complex.sin t * Complex.I) := by
    apply Complex.ext <;> simp [Complex.cos_ofReal_re, Complex.sin_ofReal_re]
  refine ⟨⌊(Real.pi - t) / (2 * Real.pi)⌋, ?_⟩
  have h := Complex.arg_mul_cos_add_sin_mul_I_sub hr t
  rw [arctan2_eq, hpoint]
  linear_combination h

/-- **Reading an angle back.** The direction of the point built from `a`, wrapped, is `a` wrapped. -/
theorem wrapUnsigned_arctan2 {r : ℝ} (hr : 0 < r) (a : ℝ) :
    wrapUnsigned (toDegrees (arctan2 (r * Real.sin (toRadians a)) (r * Real.cos (toRadians a)))) =
      wrapUnsigned a := by
  obtain ⟨k, hk⟩ := exists_arctan2_eq hr (toRadians a)
  have hdeg : toDegrees (toRadians a + k * (2 * Real.pi)) = a + k * 360 := by
    rw [toRadians_eq, toDegrees_eq]
    have := Real.pi_ne_zero
    field_simp
    ring
  rw [hk, hdeg, wrapUnsigned_add_int_mul]

end Angle

end FlightAttitude
