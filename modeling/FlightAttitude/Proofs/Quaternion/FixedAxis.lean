/-
# FlightAttitude.Proofs.Quaternion.FixedAxis — the turns about one axis

The turns about one axis are added by adding their angles (`ofAxisAngle_add`): the cross product of the
axis with itself is gone, and what is left are the addition formulas at the half angles. Turning back is
the inverse, and it is the same to turn by the opposite angle or about the opposite axis
(`inverse_ofAxisAngle`, `ofAxisAngle_neg_axis`). A whole turn is half a turn of the half angle: it gives
the opposite quaternion (`ofAxisAngle_add_turn`), of which the matrix sees nothing.

The axis may have any length but zero. It enters by its direction, and the length of that is used where
squares of it are taken: in the length of the quaternion, in the matrix, and in the scalar part of the
sum.
-/
import FlightAttitude.Proofs.Quaternion.AxisAngle
import FlightAttitude.Proofs.Stack.Matrices

namespace FlightAttitude

open Angle (toRadians)

/-! ## §1 Half angles -/

namespace Angle

theorem half_eq (a : ℝ) : half a = a * (Real.pi / 360) := by
  rw [half, toRadians_eq, two_eq]
  ring

theorem half_add (a b : ℝ) : half (a + b) = half a + half b := by
  rw [half_eq, half_eq, half_eq, add_mul]

theorem half_neg (a : ℝ) : half (-a) = -half a := by
  rw [half_eq, half_eq, neg_mul]

theorem half_add_turn (a : ℝ) : half (a + 360) = half a + Real.pi := by
  rw [half_eq, half_eq]
  ring

end Angle

/-! ## §2 Turns -/

namespace Quaternion

/-- **Angles about one axis are added.** -/
theorem ofAxisAngle_add {axis : Vec3 ℝ} (h : axis ≠ 0) (a b : ℝ) :
    ofAxisAngle axis (a + b) = ofAxisAngle axis a * ofAxisAngle axis b := by
  have hunit := Vec3.dot_unit_self h
  rw [Vec3.dot_eq] at hunit
  simp only [ofAxisAngle_eq, ofParts, Vec3.scale_def, mul_eq, Angle.half_add, Real.sin_add,
    Real.cos_add]
  ext <;> dsimp only
  case w =>
    linear_combination Real.sin (Angle.half a) * Real.sin (Angle.half b) * hunit
  all_goals ring

theorem inverse_ofAxisAngle (axis : Vec3 ℝ) (a : ℝ) :
    (ofAxisAngle axis a).inverse = ofAxisAngle axis (-a) := by
  simp only [ofAxisAngle_eq, ofParts, Vec3.scale_def, inverse, Angle.half_neg, Real.sin_neg,
    Real.cos_neg, mul_neg]

theorem ofAxisAngle_neg_axis (axis : Vec3 ℝ) (a : ℝ) :
    ofAxisAngle (-axis) a = ofAxisAngle axis (-a) := by
  rw [ofAxisAngle_eq, Vec3.unit_neg]
  simp only [ofAxisAngle_eq, ofParts, Vec3.scale_def, Vec3.neg_def, Angle.half_neg, Real.sin_neg,
    Real.cos_neg, neg_mul, mul_neg]

/-- A whole turn more, and the quaternion is the opposite one. -/
theorem ofAxisAngle_add_turn (axis : Vec3 ℝ) (a : ℝ) :
    ofAxisAngle axis (a + 360) = -ofAxisAngle axis a := by
  simp only [ofAxisAngle_eq, ofParts, Vec3.scale_def, neg_def, Angle.half_add_turn, Real.sin_add_pi,
    Real.cos_add_pi, mul_neg]

end Quaternion

/-! ## §3 The matrix -/

/-- Rodrigues' formula, entry by entry. -/
theorem Mat3.entry_aboutAxis (u : Vec3 ℝ) (a : ℝ) (i j : Fin 3) :
    (aboutAxis u a).entry i j =
      Real.cos (toRadians a) * (1 : Mat3 ℝ).entry i j +
        (1 - Real.cos (toRadians a)) * (u.component i * u.component j) +
        Real.sin (toRadians a) * (skew u).entry i j := by
  match i, j with
  | 0, 0 | 0, 1 | 0, 2 | 1, 0 | 1, 1 | 1, 2 | 2, 0 | 2, 1 | 2, 2 =>
    simp only [entry, row, Vec3.component, aboutAxis, one_def, skew]
    ring

namespace Quaternion

/-- **The turns about one axis.** Let `u` be the direction of an axis of any length but zero. The turn
about it by `t` degrees has length one, its matrix is `cos t I + (1 - cos t) u uᵀ + sin t [u ×]`, turns
by `s` and `t` make the turn by `s + t`, the inverse is the turn by `-t` and the turn about the opposite
axis, and a whole turn more gives the opposite quaternion and the same matrix. These are the functions
that arrays of one axis, one angle and one quaternion run. -/
theorem turns_about_axis {axis : Vec3 ℝ} (h : axis ≠ 0) (s t : ℝ) :
    let u := axis.scale (Real.sqrt (axis.x ^ 2 + axis.y ^ 2 + axis.z ^ 2))⁻¹
    let angle := t * (Real.pi / 180)
    (ofAxisAngle axis t).norm = 1 ∧
    (∀ i j, (ofAxisAngle axis t).toMatrix.entry i j =
      Real.cos angle * (1 : Mat3 ℝ).entry i j +
        (1 - Real.cos angle) * (u.component i * u.component j) +
        Real.sin angle * (Mat3.skew u).entry i j) ∧
    ofAxisAngle axis (s + t) = ofAxisAngle axis s * ofAxisAngle axis t ∧
    (ofAxisAngle axis t).inverse = ofAxisAngle axis (-t) ∧
    ofAxisAngle axis (-t) = ofAxisAngle (-axis) t ∧
    ofAxisAngle axis (t + 360) = -ofAxisAngle axis t ∧
    (ofAxisAngle axis (t + 360)).toMatrix = (ofAxisAngle axis t).toMatrix ∧
    (∀ (v : Vec3 ℝ) (a : ℝ),
      Stack.ofAxisAngles v.toGrid (Grid.scalar a) = .ok (ofAxisAngle v a).toGrid) ∧
    ∀ p q : Quaternion ℝ, Stack.multiply p.toGrid q.toGrid = .ok (p * q).toGrid ∧
      Stack.inverses q.toGrid = .ok q.inverse.toGrid ∧
      Stack.toMatrices q.toGrid = .ok q.toMatrix.toGrid := by
  intro u angle
  have hu : axis.unit = u := by
    rw [Vec3.unit_eq, Vec3.norm, sqrt_eq, Vec3.dot_eq, ← sq, ← sq, ← sq]
  have hangle : toRadians t = angle := Angle.toRadians_eq t
  have hturn := ofAxisAngle_add_turn axis t
  refine ⟨norm_eq_one_iff.mpr (normSq_ofAxisAngle h t), fun i j => ?_, ofAxisAngle_add h s t,
    inverse_ofAxisAngle axis t, (ofAxisAngle_neg_axis axis t).symm, hturn, ?_,
    Stack.ofAxisAngles_toGrid, fun p q => ?_⟩
  · rw [toMatrix_ofAxisAngle h, Mat3.entry_aboutAxis, hu, hangle]
  · rw [hturn, toMatrix_neg]
  · exact ⟨Stack.multiply_toGrid p q, Stack.inverses_toGrid q, Stack.toMatrices_toGrid q⟩

/-- The half turn about a space diagonal of length three, whose matrix is `2 u uᵀ - I`, and the turn by
a turn and a half. -/
theorem turns_about_axis_half_turn :
    let axis : Vec3 ℝ := ⟨1, 2, 2⟩
    axis ≠ 0 ∧
    (ofAxisAngle axis 180).toMatrix =
      ⟨-7 / 9, 4 / 9, 4 / 9, 4 / 9, -1 / 9, 8 / 9, 4 / 9, 8 / 9, -1 / 9⟩ ∧
    ofAxisAngle axis (180 + 180) = ofAxisAngle axis 180 * ofAxisAngle axis 180 ∧
    ofAxisAngle axis (180 + 360) = -ofAxisAngle axis 180 := by
  intro axis
  have haxis : axis ≠ 0 := by simp [axis, Vec3.zero_def]
  obtain ⟨-, hmatrix, hadd, -, -, hturn, -⟩ := turns_about_axis haxis 180 180
  have hlength : Real.sqrt (axis.x ^ 2 + axis.y ^ 2 + axis.z ^ 2) = 3 := by
    rw [show axis.x ^ 2 + axis.y ^ 2 + axis.z ^ 2 = 3 ^ 2 by norm_num [axis]]
    exact Real.sqrt_sq (by norm_num)
  have hangle : (180 : ℝ) * (Real.pi / 180) = Real.pi := by ring
  rw [hlength, hangle, Real.cos_pi, Real.sin_pi] at hmatrix
  refine ⟨haxis, Mat3.ext_entry fun i j => ?_, hadd, hturn⟩
  rw [hmatrix]
  match i, j with
  | 0, 0 | 0, 1 | 0, 2 | 1, 0 | 1, 1 | 1, 2 | 2, 0 | 2, 1 | 2, 2 =>
    simp only [Mat3.entry, Mat3.row, Vec3.component, Vec3.scale_def, Mat3.one_def, Mat3.skew, axis]
    norm_num

end Quaternion

end FlightAttitude
