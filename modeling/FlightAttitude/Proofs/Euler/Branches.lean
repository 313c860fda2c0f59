/-
# FlightAttitude.Proofs.Euler.Branches — what the two branches of the Euler angles read

Of a rotation the Euler angles read five entries. The first row and the second column are unit
vectors through the common entry `xy`, so the two pairs that are left over have the same length,
`√(1 - xy²)`, and away from gimbal lock it is not zero.

In the locked branch the pair in the third column is read instead: it has the length `√(1 - xz²)`,
which tends to one as the size of `xy` does.
-/
import FlightAttitude.Proofs.Angle.Circle
import FlightAttitude.Proofs.Mat3.Rotation

namespace FlightAttitude

open Angle (toDegrees wrapUnsigned)

theorem gimbalLockTolerance_eq : (gimbalLockTolerance : ℝ) = 1 / 10 ^ 12 := by
  norm_num [gimbalLockTolerance]

namespace Mat3

variable {m : Mat3 ℝ}

/-! ## §1 The pairs that are read -/

theorem IsRotation.first_row (h : m.IsRotation) : m.xx ^ 2 + m.xz ^ 2 = 1 - m.xy ^ 2 := by
  linear_combination h.rows.1.1

theorem IsRotation.second_column (h : m.IsRotation) : m.yy ^ 2 + m.zy ^ 2 = 1 - m.xy ^ 2 := by
  linear_combination h.columns.1.2.1

theorem IsRotation.third_column (h : m.IsRotation) : m.zz ^ 2 + m.yz ^ 2 = 1 - m.xz ^ 2 := by
  linear_combination h.columns.1.2.2

theorem IsRotation.abs_xy_le (h : m.IsRotation) : |m.xy| ≤ 1 := by
  rw [← sq_le_one_iff_abs_le_one]
  linarith [h.first_row, sq_nonneg m.xx, sq_nonneg m.xz]

/-- The sine of the middle angle is in range already: the clip is for rounded entries. -/
theorem IsRotation.middleSine_eq (h : m.IsRotation) : m.middleSine = -m.xy := by
  obtain ⟨hlo, hhi⟩ := abs_le.mp h.abs_xy_le
  exact clip_eq_self (by linarith) (by linarith)

/-! ## §2 Away from gimbal lock -/

theorem IsRotation.eulerAngles_of_free (h : m.IsRotation)
    (hfree : |m.xy| < 1 - gimbalLockTolerance) : m.eulerAngles =
      { aboutY := wrapUnsigned (toDegrees (arctan2 m.xz m.xx))
        aboutZ := wrapUnsigned (toDegrees (Real.arcsin (-m.xy)))
        aboutX := wrapUnsigned (toDegrees (arctan2 m.zy m.yy)) } := by
  have hread : m.eulerRadians =
      ⟨arctan2 m.xz m.xx, Real.arcsin (-m.xy), arctan2 m.zy m.yy⟩ := by
    simp only [eulerRadians, h.middleSine_eq, magnitude_eq_abs, abs_neg,
      if_neg (not_le.mpr hfree), arcsin_eq]
  rw [eulerAngles, hread, EulerAngles.map]

theorem IsRotation.first_row_pos (h : m.IsRotation)
    (hfree : |m.xy| < 1 - gimbalLockTolerance) : 0 < m.xx ^ 2 + m.xz ^ 2 := by
  have hlt : |m.xy| < 1 := by
    rw [gimbalLockTolerance_eq] at hfree
    linarith
  have hsq : m.xy ^ 2 < 1 := (sq_lt_one_iff_abs_lt_one _).mpr hlt
  linarith [h.first_row]

/-! ## §3 Within gimbal lock -/

theorem IsRotation.eulerAngles_of_locked (h : m.IsRotation)
    (hlocked : 1 - gimbalLockTolerance ≤ |m.xy|) : m.eulerAngles =
      { aboutY := 0
        aboutZ := if 0 < m.xy then 270 else 90
        aboutX := wrapUnsigned (toDegrees (arctan2 (-m.yz) m.zz)) } := by
  have hread : m.eulerRadians =
      ⟨0, if 0 < m.xy then -(Real.pi / 2) else Real.pi / 2, arctan2 (-m.yz) m.zz⟩ := by
    simp only [eulerRadians, h.middleSine_eq, magnitude_eq_abs, abs_neg, if_pos hlocked,
      neg_lt_zero, pi_eq, two_eq]
  have hzero : wrapUnsigned (toDegrees (0 : ℝ)) = 0 :=
    Angle.wrapUnsigned_eq_of_mem le_rfl Angle.turn_pos 0 (by simp [Angle.toDegrees_eq])
  rw [eulerAngles, hread, EulerAngles.map, hzero]
  split_ifs
  · rw [Angle.wrapUnsigned_right_angle.2]
  · rw [Angle.wrapUnsigned_right_angle.1]

end Mat3

end FlightAttitude
