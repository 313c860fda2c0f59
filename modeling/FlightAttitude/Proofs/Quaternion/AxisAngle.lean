/-
# FlightAttitude.Proofs.Quaternion.AxisAngle — the quaternion of an axis and an angle

The half angle enters the quaternion and the double angle formulas take it out of the matrix again:
what is left is the turn about the axis by the whole angle, `cos I + (1 - cos) u uᵀ + sin [u ×]`
(`toMatrix_ofAxisAngle`).
-/
import FlightAttitude.Rotation.AxisAngle
import FlightAttitude.Proofs.Angle.Circle
import FlightAttitude.Proofs.Quaternion.Algebra
import FlightAttitude.Proofs.Vec3.Algebra

namespace FlightAttitude

open Angle (toRadians)

/-- **`Mat3.aboutAxis u a`** — the turn about the unit vector `u` by `a` degrees. -/
noncomputable def Mat3.aboutAxis (u : Vec3 ℝ) (a : ℝ) : Mat3 ℝ :=
  let c := Real.cos (toRadians a)
  let s := Real.sin (toRadians a)
  ⟨c + (1 - c) * (u.x * u.x), (1 - c) * (u.x * u.y) - s * u.z, (1 - c) * (u.x * u.z) + s * u.y,
   (1 - c) * (u.y * u.x) + s * u.z, c + (1 - c) * (u.y * u.y), (1 - c) * (u.y * u.z) - s * u.x,
   (1 - c) * (u.z * u.x) - s * u.y, (1 - c) * (u.z * u.y) + s * u.x, c + (1 - c) * (u.z * u.z)⟩

namespace Quaternion

theorem ofAxisAngle_eq (axis : Vec3 ℝ) (a : ℝ) : ofAxisAngle axis a =
    ofParts (axis.unit.scale (Real.sin (Angle.half a))) (Real.cos (Angle.half a)) := rfl

theorem toRadians_eq_two_mul_half (a : ℝ) : toRadians a = 2 * Angle.half a := by
  rw [Angle.half, two_eq]
  ring

theorem normSq_ofAxisAngle {axis : Vec3 ℝ} (h : axis ≠ 0) (a : ℝ) :
    (ofAxisAngle axis a).normSq = 1 := by
  have hunit := Vec3.dot_unit_self h
  rw [Vec3.dot_eq] at hunit
  rw [ofAxisAngle_eq, normSq_eq]
  simp only [ofParts, Vec3.scale_def]
  linear_combination
    Real.sin (Angle.half a) ^ 2 * hunit + Real.sin_sq_add_cos_sq (Angle.half a)

theorem toMatrix_ofAxisAngle {axis : Vec3 ℝ} (h : axis ≠ 0) (a : ℝ) :
    (ofAxisAngle axis a).toMatrix = Mat3.aboutAxis axis.unit a := by
  have hunit := Vec3.dot_unit_self h
  rw [Vec3.dot_eq] at hunit
  have hcircle := Real.sin_sq_add_cos_sq (Angle.half a)
  rw [ofAxisAngle_eq, toMatrix_eq]
  simp only [Mat3.aboutAxis, ofParts, Vec3.scale_def, toRadians_eq_two_mul_half,
    Real.cos_two_mul', Real.sin_two_mul]
  generalize axis.unit = u at hunit ⊢
  generalize Real.sin (Angle.half a) = s at hcircle ⊢
  generalize Real.cos (Angle.half a) = c at hcircle ⊢
  ext <;> dsimp only
  case xx => linear_combination -s ^ 2 * hunit + u.x ^ 2 * hcircle
  case yy => linear_combination -s ^ 2 * hunit + u.y ^ 2 * hcircle
  case zz => linear_combination -s ^ 2 * hunit + u.z ^ 2 * hcircle
  case xy | yx => linear_combination u.x * u.y * hcircle
  case xz | zx => linear_combination u.x * u.z * hcircle
  case yz | zy => linear_combination u.y * u.z * hcircle

theorem toMatrix_ofAxisAngle_isRotation {axis : Vec3 ℝ} (h : axis ≠ 0) (a : ℝ) :
    (ofAxisAngle axis a).toMatrix.IsRotation :=
  toMatrix_isRotation (normSq_ofAxisAngle h a)

end Quaternion

end FlightAttitude
