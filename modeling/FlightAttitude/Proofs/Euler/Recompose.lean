/-
# FlightAttitude.Proofs.Euler.Recompose — turning by the Euler angles gives the rotation again

Away from gimbal lock the three turns make up the rotation exactly (`IsRotation.recompose_free`):
the five entries that the angles are read from agree by construction, and five entries fix a
rotation.

Within gimbal lock the middle turn is rounded to a right angle and the turn about y is dropped. How
far that moves an entry is a matter of `√(1 - xy²)`, the length of the pairs that lock makes short
(`IsRotation.abs_locked_sub_le`); at the lock itself nothing moves.
-/
import FlightAttitude.Proofs.Euler.Branches
import FlightAttitude.Proofs.Euler.Elementary

namespace FlightAttitude

open Angle (toRadians toDegrees wrapUnsigned)

namespace Mat3

variable {m : Mat3 ℝ}

/-! ## §1 Away from gimbal lock -/

/-- The cosine of the middle angle is the length of either pair that the outer angles are read from. -/
theorem IsRotation.cos_arcsin_xy (h : m.IsRotation) :
    Real.cos (Real.arcsin (-m.xy)) = Real.sqrt (m.xx ^ 2 + m.xz ^ 2) ∧
    Real.cos (Real.arcsin (-m.xy)) = Real.sqrt (m.yy ^ 2 + m.zy ^ 2) := by
  rw [Real.cos_arcsin, neg_sq, h.first_row, h.second_column]
  exact ⟨rfl, rfl⟩

theorem IsRotation.sin_arcsin_xy (h : m.IsRotation) :
    Real.sin (Real.arcsin (-m.xy)) = -m.xy := by
  obtain ⟨hlo, hhi⟩ := abs_le.mp h.abs_xy_le
  exact Real.sin_arcsin (by linarith) (by linarith)

/-- **The three turns make up the rotation.** -/
theorem IsRotation.recompose_free (h : m.IsRotation) (hfree : |m.xy| < 1 - gimbalLockTolerance) :
    aboutX m.eulerAngles.aboutX * aboutZ m.eulerAngles.aboutZ * aboutY m.eulerAngles.aboutY
      = m := by
  rw [h.eulerAngles_of_free hfree]
  simp only [aboutX_wrapUnsigned, aboutY_wrapUnsigned, aboutZ_wrapUnsigned]
  obtain ⟨hcosRow, hcosColumn⟩ := h.cos_arcsin_xy
  have hturns := turns_isRotation (toDegrees (arctan2 m.zy m.yy))
    (toDegrees (Real.arcsin (-m.xy))) (toDegrees (arctan2 m.xz m.xx))
  refine (h.eq_of_frame hturns (h.first_row_pos hfree).ne' ?_ ?_ ?_ ?_ ?_).symm <;>
    simp only [aboutX_mul_aboutZ_mul_aboutY, Angle.toRadians_toDegrees]
  · rw [hcosRow, Angle.hypot_mul_cos_arctan2]
  · rw [h.sin_arcsin_xy, neg_neg]
  · rw [hcosRow, Angle.hypot_mul_sin_arctan2]
  · rw [hcosColumn, mul_comm, Angle.hypot_mul_cos_arctan2]
  · rw [hcosColumn, mul_comm, Angle.hypot_mul_sin_arctan2]

/-! ## §2 Within gimbal lock -/

/-- **`lockedSine t`** — the sine of the right angle that stands in for the middle angle. -/
noncomputable def lockedSine (t : ℝ) : ℝ :=
  if 0 < t then -1 else 1

theorem abs_lockedSine (t : ℝ) : |lockedSine t| = 1 := by
  unfold lockedSine
  split_ifs <;> norm_num

theorem lockedSine_mul_abs (t : ℝ) : lockedSine t * |t| = -t := by
  unfold lockedSine
  split_ifs with ht
  · rw [abs_of_pos ht, neg_one_mul]
  · rw [abs_of_nonpos (not_lt.mp ht), one_mul]

/-- The turn about z is one by a right angle, and so the product has only five entries. -/
theorem aboutX_mul_aboutZ_locked (x t : ℝ) : aboutX x * aboutZ (if 0 < t then 270 else 90) =
    let cx := Real.cos (toRadians x); let sx := Real.sin (toRadians x)
    ⟨0, -lockedSine t, 0,
     cx * lockedSine t, 0, -sx,
     sx * lockedSine t, 0, cx⟩ := by
  obtain ⟨h90, h270⟩ := Angle.wrapUnsigned_right_angle
  have hturn : aboutZ (if 0 < t then 270 else 90) =
      ⟨0, -lockedSine t, 0, lockedSine t, 0, 0, 0, 0, 1⟩ := by
    unfold lockedSine
    split_ifs
    · rw [← h270, aboutZ_wrapUnsigned, aboutZ, Angle.toRadians_toDegrees, Real.cos_neg,
        Real.sin_neg, Real.cos_pi_div_two, Real.sin_pi_div_two]
    · rw [← h90, aboutZ_wrapUnsigned, aboutZ, Angle.toRadians_toDegrees,
        Real.cos_pi_div_two, Real.sin_pi_div_two]
  rw [hturn]
  ext <;> simp only [aboutX, mul_def, mul] <;> ring

/-- The four entries beside `xy` are no longer than `√(1 - xy²)`. -/
theorem IsRotation.abs_short_le (h : m.IsRotation) :
    |m.xx| ≤ Real.sqrt (1 - m.xy ^ 2) ∧ |m.xz| ≤ Real.sqrt (1 - m.xy ^ 2) ∧
    |m.yy| ≤ Real.sqrt (1 - m.xy ^ 2) ∧ |m.zy| ≤ Real.sqrt (1 - m.xy ^ 2) := by
  have hrow := h.first_row
  have hcolumn := h.second_column
  refine ⟨?_, ?_, ?_, ?_⟩ <;> apply Real.abs_le_sqrt
  · linarith [sq_nonneg m.xz]
  · linarith [sq_nonneg m.xx]
  · linarith [sq_nonneg m.zy]
  · linarith [sq_nonneg m.yy]

/-- **`lockedAngle m`** — the angle that the locked branch reads off the third column. -/
noncomputable def lockedAngle (m : Mat3 ℝ) : ℝ :=
  arctan2 (-m.yz) m.zz

/-- **`lockedLength m`** — the length of the pair that it is read from. -/
noncomputable def lockedLength (m : Mat3 ℝ) : ℝ :=
  Real.sqrt (1 - m.xz ^ 2)

theorem IsRotation.third_column_polar (h : m.IsRotation) :
    m.lockedLength * Real.cos m.lockedAngle = m.zz ∧
    m.lockedLength * Real.sin m.lockedAngle = -m.yz := by
  rw [lockedLength, ← h.third_column, ← neg_sq m.yz]
  exact ⟨Angle.hypot_mul_cos_arctan2 _ _, Angle.hypot_mul_sin_arctan2 _ _⟩

/-- The two entries outside the first row, the second and the third column are cofactors of these. -/
theorem IsRotation.corner_polar (h : m.IsRotation) :
    m.yx = Real.cos m.lockedAngle * lockedSine m.xy * (|m.xy| * m.lockedLength) + m.xz * m.zy ∧
    m.zx = Real.sin m.lockedAngle * lockedSine m.xy * (|m.xy| * m.lockedLength) - m.xz * m.yy := by
  obtain ⟨hcos, hsin⟩ := h.third_column_polar
  obtain ⟨-, ⟨hyx, -⟩, hzx, -⟩ := h.cofactors
  have hsine := lockedSine_mul_abs m.xy
  constructor
  · linear_combination hyx + m.xy * hcos
      - Real.cos m.lockedAngle * m.lockedLength * hsine
  · linear_combination hzx + m.xy * hsin
      - Real.sin m.lockedAngle * m.lockedLength * hsine

/-- A length just below one is at least as near to one as its square is. -/
theorem one_sub_le_of_sq {r e : ℝ} (h0 : 0 ≤ r) (h1 : r ≤ 1) (h : 1 - r ^ 2 ≤ e) : 1 - r ≤ e := by
  have hsq : r ^ 2 ≤ r := by
    rw [sq]
    exact mul_le_of_le_one_right h0 h1
  linarith

theorem IsRotation.one_sub_abs_xy_le (h : m.IsRotation) : 1 - |m.xy| ≤ 1 - m.xy ^ 2 :=
  one_sub_le_of_sq (abs_nonneg _) h.abs_xy_le (by rw [sq_abs])

theorem IsRotation.lockedLength_mem (h : m.IsRotation) :
    0 ≤ m.lockedLength ∧ m.lockedLength ≤ 1 ∧ 1 - m.lockedLength ≤ 1 - m.xy ^ 2 := by
  have h0 : 0 ≤ m.lockedLength := Real.sqrt_nonneg _
  have h1 : m.lockedLength ≤ 1 := Real.sqrt_le_one.mpr (by linarith [sq_nonneg m.xz])
  have hsq : m.lockedLength ^ 2 = 1 - m.xz ^ 2 := by
    rw [lockedLength, Real.sq_sqrt]
    linarith [h.first_row, sq_nonneg m.xx, sq_nonneg m.xy]
  refine ⟨h0, h1, one_sub_le_of_sq h0 h1 ?_⟩
  linarith [h.first_row, sq_nonneg m.xx]

theorem abs_unit_mul_le {u k e : ℝ} (hu : |u| ≤ 1) (h0 : 0 ≤ k) (h : k ≤ e) : |u * k| ≤ e :=
  calc |u * k| = |u| * k := by rw [abs_mul, abs_of_nonneg h0]
    _ ≤ k := mul_le_of_le_one_left h0 hu
    _ ≤ e := h

/-- Three entries lie along unit pairs that lock almost aligns: what that costs is of second order. -/
theorem IsRotation.abs_aligned_sub_le (h : m.IsRotation) :
    |-lockedSine m.xy - m.xy| ≤ 1 - m.xy ^ 2 ∧
    |-Real.sin m.lockedAngle - m.yz| ≤ 1 - m.xy ^ 2 ∧
    |Real.cos m.lockedAngle - m.zz| ≤ 1 - m.xy ^ 2 := by
  obtain ⟨hzz, hyz⟩ := h.third_column_polar
  obtain ⟨-, hr1, hr⟩ := h.lockedLength_mem
  have ha1 := h.abs_xy_le
  have ha := h.one_sub_abs_xy_le
  refine ⟨?_, ?_, ?_⟩
  · have hentry : -lockedSine m.xy - m.xy = -lockedSine m.xy * (1 - |m.xy|) := by
      linear_combination -lockedSine_mul_abs m.xy
    rw [hentry]
    exact abs_unit_mul_le (by rw [abs_neg, abs_lockedSine]) (by linarith) ha
  · have hentry : -Real.sin m.lockedAngle - m.yz =
        -Real.sin m.lockedAngle * (1 - m.lockedLength) := by linear_combination -hyz
    rw [hentry]
    exact abs_unit_mul_le (by rw [abs_neg]; exact Real.abs_sin_le_one _) (by linarith) hr
  · have hentry : Real.cos m.lockedAngle - m.zz =
        Real.cos m.lockedAngle * (1 - m.lockedLength) := by linear_combination hzz
    rw [hentry]
    exact abs_unit_mul_le (Real.abs_cos_le_one _) (by linarith) hr

theorem abs_unit_mul_add_le {u k v e : ℝ} (hu : |u| ≤ 1) (h0 : 0 ≤ k) (hk : k ≤ 2 * e)
    (hv : |v| ≤ e) : |u * k + v| ≤ 3 * e :=
  calc |u * k + v| ≤ |u * k| + |v| := abs_add_le _ _
    _ ≤ 2 * e + e := add_le_add (abs_unit_mul_le hu h0 hk) hv
    _ = 3 * e := by ring

/-- Two alignments one after the other cost no more than both. -/
theorem IsRotation.one_sub_mul_lockedLength (h : m.IsRotation) :
    0 ≤ 1 - |m.xy| * m.lockedLength ∧ 1 - |m.xy| * m.lockedLength ≤ 2 * (1 - m.xy ^ 2) := by
  obtain ⟨hr0, hr1, hr⟩ := h.lockedLength_mem
  have ha1 := h.abs_xy_le
  have ha := h.one_sub_abs_xy_le
  have hstep : |m.xy| * (1 - m.lockedLength) ≤ 1 - m.lockedLength :=
    mul_le_of_le_one_left (by linarith) ha1
  exact ⟨sub_nonneg.mpr (mul_le_one₀ ha1 hr0 hr1), by linarith⟩

/-- A product of two short entries is of second order. -/
theorem IsRotation.abs_short_mul_le (h : m.IsRotation) {u v : ℝ}
    (hu : |u| ≤ Real.sqrt (1 - m.xy ^ 2)) (hv : |v| ≤ Real.sqrt (1 - m.xy ^ 2)) :
    |u * v| ≤ 1 - m.xy ^ 2 := by
  have hnonneg : 0 ≤ 1 - m.xy ^ 2 := by
    rw [← h.first_row]
    positivity
  rw [abs_mul, ← Real.mul_self_sqrt hnonneg]
  exact mul_le_mul hu hv (abs_nonneg v) (Real.sqrt_nonneg _)

/-- The two cofactors: a product of two short entries on top of two alignments. -/
theorem IsRotation.abs_corner_sub_le (h : m.IsRotation) :
    |Real.cos m.lockedAngle * lockedSine m.xy - m.yx| ≤ 3 * (1 - m.xy ^ 2) ∧
    |Real.sin m.lockedAngle * lockedSine m.xy - m.zx| ≤ 3 * (1 - m.xy ^ 2) := by
  obtain ⟨-, hxz, hyy, hzy⟩ := h.abs_short_le
  obtain ⟨hyx, hzx⟩ := h.corner_polar
  obtain ⟨har0, har⟩ := h.one_sub_mul_lockedLength
  have hcos : |Real.cos m.lockedAngle * lockedSine m.xy| ≤ 1 := by
    rw [abs_mul, abs_lockedSine, mul_one]
    exact Real.abs_cos_le_one _
  have hsin : |Real.sin m.lockedAngle * lockedSine m.xy| ≤ 1 := by
    rw [abs_mul, abs_lockedSine, mul_one]
    exact Real.abs_sin_le_one _
  constructor
  · have hentry : Real.cos m.lockedAngle * lockedSine m.xy - m.yx =
        Real.cos m.lockedAngle * lockedSine m.xy * (1 - |m.xy| * m.lockedLength)
          + -(m.xz * m.zy) := by linear_combination -hyx
    rw [hentry]
    exact abs_unit_mul_add_le hcos har0 har (by rw [abs_neg]; exact h.abs_short_mul_le hxz hzy)
  · have hentry : Real.sin m.lockedAngle * lockedSine m.xy - m.zx =
        Real.sin m.lockedAngle * lockedSine m.xy * (1 - |m.xy| * m.lockedLength)
          + m.xz * m.yy := by linear_combination -hzx
    rw [hentry]
    exact abs_unit_mul_add_le hsin har0 har (h.abs_short_mul_le hxz hyy)

/-- **The locked branch moves no entry by more than `√(1 - xy²)`.** Four entries are that short and
are set to zero, the other five move by its square only. -/
theorem IsRotation.abs_locked_sub_le (h : m.IsRotation)
    (hshort : Real.sqrt (1 - m.xy ^ 2) ≤ 1 / 3) (i j : Fin 3) :
    |(aboutX (toDegrees m.lockedAngle) * aboutZ (if 0 < m.xy then 270 else 90)).entry i j
      - m.entry i j| ≤ Real.sqrt (1 - m.xy ^ 2) := by
  obtain ⟨hxx, hxz, hyy, hzy⟩ := h.abs_short_le
  obtain ⟨hxy, hyz, hzz⟩ := h.abs_aligned_sub_le
  obtain ⟨hyx, hzx⟩ := h.abs_corner_sub_le
  have hnonneg : 0 ≤ 1 - m.xy ^ 2 := (abs_nonneg _).trans hxy
  have hthree : 3 * (1 - m.xy ^ 2) ≤ Real.sqrt (1 - m.xy ^ 2) := by
    have hmul := mul_le_mul_of_nonneg_right hshort (Real.sqrt_nonneg (1 - m.xy ^ 2))
    rw [Real.mul_self_sqrt hnonneg] at hmul
    linarith
  have hone : 1 - m.xy ^ 2 ≤ Real.sqrt (1 - m.xy ^ 2) := by linarith
  rw [aboutX_mul_aboutZ_locked, Angle.toRadians_toDegrees]
  match i, j with
  | 0, 0 =>
    show |0 - m.xx| ≤ _
    rwa [zero_sub, abs_neg]
  | 0, 1 =>
    show |-lockedSine m.xy - m.xy| ≤ _
    exact hxy.trans hone
  | 0, 2 =>
    show |0 - m.xz| ≤ _
    rwa [zero_sub, abs_neg]
  | 1, 0 =>
    show |Real.cos m.lockedAngle * lockedSine m.xy - m.yx| ≤ _
    exact hyx.trans hthree
  | 1, 1 =>
    show |0 - m.yy| ≤ _
    rwa [zero_sub, abs_neg]
  | 1, 2 =>
    show |-Real.sin m.lockedAngle - m.yz| ≤ _
    exact hyz.trans hone
  | 2, 0 =>
    show |Real.sin m.lockedAngle * lockedSine m.xy - m.zx| ≤ _
    exact hzx.trans hthree
  | 2, 1 =>
    show |0 - m.zy| ≤ _
    rwa [zero_sub, abs_neg]
  | 2, 2 =>
    show |Real.cos m.lockedAngle - m.zz| ≤ _
    exact hzz.trans hone

theorem sqrt_le_of_locked (hlocked : 1 - gimbalLockTolerance ≤ |m.xy|) :
    Real.sqrt (1 - m.xy ^ 2) ≤ 2 / 10 ^ 6 := by
  rw [gimbalLockTolerance_eq] at hlocked
  have hsq : (1 - 1 / 10 ^ 12) ^ 2 ≤ m.xy ^ 2 := by
    rw [← sq_abs m.xy]
    exact pow_le_pow_left₀ (by norm_num) hlocked 2
  rw [Real.sqrt_le_left (by norm_num)]
  linarith

/-- **Two turns make up the rotation up to the lock.** -/
theorem IsRotation.recompose_locked (h : m.IsRotation)
    (hlocked : 1 - gimbalLockTolerance ≤ |m.xy|) (i j : Fin 3) :
    |(aboutX m.eulerAngles.aboutX * aboutZ m.eulerAngles.aboutZ).entry i j - m.entry i j|
      ≤ Real.sqrt (1 - m.xy ^ 2) := by
  have hshort : Real.sqrt (1 - m.xy ^ 2) ≤ 1 / 3 :=
    (sqrt_le_of_locked hlocked).trans (by norm_num)
  rw [h.eulerAngles_of_locked hlocked, aboutX_wrapUnsigned]
  exact h.abs_locked_sub_le hshort i j

/-- At the lock itself nothing is short of its place. -/
theorem IsRotation.recompose_lock (h : m.IsRotation) (hlock : |m.xy| = 1) :
    aboutX m.eulerAngles.aboutX * aboutZ m.eulerAngles.aboutZ = m := by
  have hlocked : 1 - gimbalLockTolerance ≤ |m.xy| := by
    rw [hlock, gimbalLockTolerance_eq]
    norm_num
  have hzero : Real.sqrt (1 - m.xy ^ 2) = 0 := by
    rw [← sq_abs, hlock, one_pow, sub_self, Real.sqrt_zero]
  refine ext_entry fun i j => sub_eq_zero.mp (abs_nonpos_iff.mp ?_)
  rw [← hzero]
  exact h.recompose_locked hlocked i j

end Mat3

/-! ## §3 Unit quaternions -/

namespace Quaternion

open Mat3 (aboutX aboutY aboutZ)

/-- **The Euler angles of a unit quaternion make up its matrix**: exactly away from gimbal lock, and
within it to two millionths in every entry, exactly at the lock itself. -/
theorem eulerAngles_recompose {q : Quaternion ℝ} (hq : q.norm = 1) :
    let e := q.eulerAngles
    let t := q.toMatrix
    (|t.xy| < 1 - gimbalLockTolerance → aboutX e.aboutX * aboutZ e.aboutZ * aboutY e.aboutY = t) ∧
    (1 - gimbalLockTolerance ≤ |t.xy| →
      e.aboutY = 0 ∧ (e.aboutZ = 90 ∨ e.aboutZ = 270) ∧
      (∀ i j, |(aboutX e.aboutX * aboutZ e.aboutZ).entry i j - t.entry i j| ≤ 2 / 10 ^ 6) ∧
      (|t.xy| = 1 → aboutX e.aboutX * aboutZ e.aboutZ = t)) := by
  have h : q.toMatrix.IsRotation := toMatrix_isRotation (norm_eq_one_iff.mp hq)
  refine ⟨h.recompose_free, fun hlocked => ⟨?_, ?_, fun i j => ?_, h.recompose_lock⟩⟩
  · rw [eulerAngles, h.eulerAngles_of_locked hlocked]
  · rw [eulerAngles, h.eulerAngles_of_locked hlocked]
    split_ifs
    · exact .inr rfl
    · exact .inl rfl
  · exact (h.recompose_locked hlocked i j).trans (Mat3.sqrt_le_of_locked hlocked)

/-- A turn with a free middle angle, and one whose middle angle is a right angle. -/
theorem eulerAngles_recompose_both_branches :
    (let q : Quaternion ℝ := ⟨1 / 2, 1 / 2, 1 / 2, 1 / 2⟩
     q.norm = 1 ∧ |q.toMatrix.xy| < 1 - gimbalLockTolerance ∧
     aboutX q.eulerAngles.aboutX * aboutZ q.eulerAngles.aboutZ * aboutY q.eulerAngles.aboutY
        = q.toMatrix) ∧
    (let q : Quaternion ℝ := ⟨1 / 2, -1 / 2, 1 / 2, 1 / 2⟩
     q.norm = 1 ∧ |q.toMatrix.xy| = 1 ∧ q.eulerAngles.aboutY = 0 ∧
     aboutX q.eulerAngles.aboutX * aboutZ q.eulerAngles.aboutZ = q.toMatrix) := by
  refine ⟨?_, ?_⟩ <;> intro q
  · have hq : q.norm = 1 := norm_eq_one_iff.mpr (by rw [normSq_eq]; norm_num [q])
    have hfree : |q.toMatrix.xy| < 1 - gimbalLockTolerance := by
      rw [toMatrix_eq, gimbalLockTolerance_eq]
      norm_num [q]
    exact ⟨hq, hfree, (eulerAngles_recompose hq).1 hfree⟩
  · have hq : q.norm = 1 := norm_eq_one_iff.mpr (by rw [normSq_eq]; norm_num [q])
    have hlock : |q.toMatrix.xy| = 1 := by
      rw [toMatrix_eq]
      norm_num [q]
    have hlocked : 1 - gimbalLockTolerance ≤ |q.toMatrix.xy| := by
      rw [hlock, gimbalLockTolerance_eq]
      norm_num
    obtain ⟨hy, -, -, heq⟩ := (eulerAngles_recompose hq).2 hlocked
    exact ⟨hq, hlock, hy, heq hlock⟩

end Quaternion

end FlightAttitude
