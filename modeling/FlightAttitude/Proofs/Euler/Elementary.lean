/-
# FlightAttitude.Proofs.Euler.Elementary — turns about the axes

`aboutX`, `aboutY` and `aboutZ` are the right handed turns about the fixed axes by an angle in
degrees. They are rotations, they do not see whole turns, and they are the matrices of the
quaternions built from an axis and an angle (`toMatrix_ofAxisAngle_x` and its companions).

A rotation is fixed by its first row and its second column (`IsRotation.eq_of_frame`), unless these
meet in an entry of size one: five entries give the other four.
-/
import FlightAttitude.Proofs.Quaternion.AxisAngle

namespace FlightAttitude

namespace Mat3

open Angle (toRadians toDegrees wrapUnsigned)

/-! ## §1 The three turns -/

/-- **`aboutX a`** — the turn about the x axis by `a` degrees: from y toward z. -/
noncomputable def aboutX (a : ℝ) : Mat3 ℝ :=
  ⟨1, 0, 0,
   0, Real.cos (toRadians a), -Real.sin (toRadians a),
   0, Real.sin (toRadians a), Real.cos (toRadians a)⟩

/-- **`aboutY a`** — the turn about the y axis by `a` degrees: from z toward x. -/
noncomputable def aboutY (a : ℝ) : Mat3 ℝ :=
  ⟨Real.cos (toRadians a), 0, Real.sin (toRadians a),
   0, 1, 0,
   -Real.sin (toRadians a), 0, Real.cos (toRadians a)⟩

/-- **`aboutZ a`** — the turn about the z axis by `a` degrees: from x toward y. -/
noncomputable def aboutZ (a : ℝ) : Mat3 ℝ :=
  ⟨Real.cos (toRadians a), -Real.sin (toRadians a), 0,
   Real.sin (toRadians a), Real.cos (toRadians a), 0,
   0, 0, 1⟩

@[simp] theorem aboutX_wrapUnsigned (a : ℝ) : aboutX (wrapUnsigned a) = aboutX a := by
  simp only [aboutX, Angle.cos_wrapUnsigned, Angle.sin_wrapUnsigned]

@[simp] theorem aboutY_wrapUnsigned (a : ℝ) : aboutY (wrapUnsigned a) = aboutY a := by
  simp only [aboutY, Angle.cos_wrapUnsigned, Angle.sin_wrapUnsigned]

@[simp] theorem aboutZ_wrapUnsigned (a : ℝ) : aboutZ (wrapUnsigned a) = aboutZ a := by
  simp only [aboutZ, Angle.cos_wrapUnsigned, Angle.sin_wrapUnsigned]

/-- A turn about y, then about z, then about x, entry by entry. -/
theorem aboutX_mul_aboutZ_mul_aboutY (x z y : ℝ) : aboutX x * aboutZ z * aboutY y =
    let cx := Real.cos (toRadians x); let sx := Real.sin (toRadians x)
    let cz := Real.cos (toRadians z); let sz := Real.sin (toRadians z)
    let cy := Real.cos (toRadians y); let sy := Real.sin (toRadians y)
    ⟨cz * cy, -sz, cz * sy,
     cx * sz * cy + sx * sy, cx * cz, cx * sz * sy - sx * cy,
     sx * sz * cy - cx * sy, sx * cz, sx * sz * sy + cx * cy⟩ := by
  ext <;> simp only [aboutX, aboutY, aboutZ, mul_def, mul] <;> ring

end Mat3

/-! ## §2 The turns as quaternions -/

/-- The three axes have length one already. -/
theorem Vec3.unit_axis : (⟨1, 0, 0⟩ : Vec3 ℝ).unit = ⟨1, 0, 0⟩ ∧
    (⟨0, 1, 0⟩ : Vec3 ℝ).unit = ⟨0, 1, 0⟩ ∧ (⟨0, 0, 1⟩ : Vec3 ℝ).unit = ⟨0, 0, 1⟩ := by
  refine ⟨unit_of_dot_self_eq_one ?_, unit_of_dot_self_eq_one ?_, unit_of_dot_self_eq_one ?_⟩ <;>
    simp [dot_eq]

namespace Quaternion

theorem toMatrix_ofAxisAngle_x (a : ℝ) : (ofAxisAngle ⟨1, 0, 0⟩ a).toMatrix = Mat3.aboutX a := by
  rw [toMatrix_ofAxisAngle (by simp [Vec3.zero_def]), Vec3.unit_axis.1]
  ext <;> simp [Mat3.aboutAxis, Mat3.aboutX]

theorem toMatrix_ofAxisAngle_y (a : ℝ) : (ofAxisAngle ⟨0, 1, 0⟩ a).toMatrix = Mat3.aboutY a := by
  rw [toMatrix_ofAxisAngle (by simp [Vec3.zero_def]), Vec3.unit_axis.2.1]
  ext <;> simp [Mat3.aboutAxis, Mat3.aboutY]

theorem toMatrix_ofAxisAngle_z (a : ℝ) : (ofAxisAngle ⟨0, 0, 1⟩ a).toMatrix = Mat3.aboutZ a := by
  rw [toMatrix_ofAxisAngle (by simp [Vec3.zero_def]), Vec3.unit_axis.2.2]
  ext <;> simp [Mat3.aboutAxis, Mat3.aboutZ]

end Quaternion

namespace Mat3

theorem aboutX_isRotation (a : ℝ) : (aboutX a).IsRotation := by
  rw [← Quaternion.toMatrix_ofAxisAngle_x]
  exact Quaternion.toMatrix_ofAxisAngle_isRotation (by simp [Vec3.zero_def]) a

theorem aboutY_isRotation (a : ℝ) : (aboutY a).IsRotation := by
  rw [← Quaternion.toMatrix_ofAxisAngle_y]
  exact Quaternion.toMatrix_ofAxisAngle_isRotation (by simp [Vec3.zero_def]) a

theorem aboutZ_isRotation (a : ℝ) : (aboutZ a).IsRotation := by
  rw [← Quaternion.toMatrix_ofAxisAngle_z]
  exact Quaternion.toMatrix_ofAxisAngle_isRotation (by simp [Vec3.zero_def]) a

theorem turns_isRotation (x z y : ℝ) : (aboutX x * aboutZ z * aboutY y).IsRotation :=
  ((aboutX_isRotation x).mul (aboutZ_isRotation z)).mul (aboutY_isRotation y)

/-! ## §3 A rotation from its first row and its second column -/

/-- The four entries outside the frame, each times the squared length of the frame's free part. -/
theorem IsRotation.outside_frame {m : Mat3 ℝ} (h : m.IsRotation) :
    m.yx * (m.xx ^ 2 + m.xz ^ 2) = m.zy * m.xz - m.xx * m.xy * m.yy ∧
    m.yz * (m.xx ^ 2 + m.xz ^ 2) = -(m.xy * m.xz * m.yy) - m.zy * m.xx ∧
    m.zx * (m.xx ^ 2 + m.xz ^ 2) = -(m.xx * m.xy * m.zy) - m.xz * m.yy ∧
    m.zz * (m.xx ^ 2 + m.xz ^ 2) = m.xx * m.yy - m.xz * m.xy * m.zy := by
  obtain ⟨-, hxy, hxz, -⟩ := h.rows
  obtain ⟨-, ⟨-, cyy, -⟩, -, czy, -⟩ := h.cofactors
  refine ⟨?_, ?_, ?_, ?_⟩
  · linear_combination m.xx * hxy - m.xz * czy
  · linear_combination m.xz * hxy + m.xx * czy
  · linear_combination m.xx * hxz + m.xz * cyy
  · linear_combination m.xz * hxz - m.xx * cyy

/-- **Five entries fix a rotation.** -/
theorem IsRotation.eq_of_frame {m n : Mat3 ℝ} (hm : m.IsRotation) (hn : n.IsRotation)
    (hne : m.xx ^ 2 + m.xz ^ 2 ≠ 0) (hxx : m.xx = n.xx) (hxy : m.xy = n.xy) (hxz : m.xz = n.xz)
    (hyy : m.yy = n.yy) (hzy : m.zy = n.zy) : m = n := by
  obtain ⟨myx, myz, mzx, mzz⟩ := hm.outside_frame
  obtain ⟨nyx, nyz, nzx, nzz⟩ := hn.outside_frame
  rw [← hxx, ← hxz, ← hxy, ← hyy, ← hzy] at nyx nyz nzx nzz
  have hyx : m.yx = n.yx := mul_right_cancel₀ hne (myx.trans nyx.symm)
  have hyz : m.yz = n.yz := mul_right_cancel₀ hne (myz.trans nyz.symm)
  have hzx : m.zx = n.zx := mul_right_cancel₀ hne (mzx.trans nzx.symm)
  have hzz : m.zz = n.zz := mul_right_cancel₀ hne (mzz.trans nzz.symm)
  exact Mat3.ext hxx hxy hxz hyx hyy hyz hzx hzy hzz

end Mat3

end FlightAttitude
