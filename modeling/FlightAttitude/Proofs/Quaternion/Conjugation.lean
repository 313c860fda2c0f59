/-
# FlightAttitude.Proofs.Quaternion.Conjugation — three descriptions of a rotation

A quaternion turns a vector by its matrix, or by standing before and its inverse behind the vector;
two quaternions are composed by their product, or by the product of their matrices. Over every
commutative ring, and for quaternions of any length, the descriptions agree
(`Quaternion.mul_vector_mul_inverse`, `Quaternion.descriptions_agree`). Length one is needed only for
what makes the matrix a rotation: it then keeps inner products and cross products
(`Mat3.IsRotation.dot_apply`, `Mat3.IsRotation.apply_cross`).
-/
import FlightAttitude.Proofs.Quaternion.Algebra
import FlightAttitude.Proofs.Stack.Rotations
import FlightAttitude.Proofs.Vec3.Algebra

namespace FlightAttitude

universe u

/-! ## §1 Rotations keep the products of vectors -/

namespace Mat3

variable {α : Type u} [CommRing α]

theorem apply_eq (m : Mat3 α) (v : Vec3 α) : m.apply v =
    ⟨m.xx * v.x + m.xy * v.y + m.xz * v.z,
     m.yx * v.x + m.yy * v.y + m.yz * v.z,
     m.zx * v.x + m.zy * v.y + m.zz * v.z⟩ := by
  ext <;> simp only [apply, Vec3.ofComponents, row, Vec3.dot_eq]

/-- **Inner products are kept**: the columns are orthonormal. -/
theorem IsRotation.dot_apply {m : Mat3 α} (h : m.IsRotation) (v w : Vec3 α) :
    (m.apply v).dot (m.apply w) = v.dot w := by
  obtain ⟨⟨hx, hy, hz⟩, hxy, hxz, hyz⟩ := h.columns
  simp only [apply_eq, Vec3.dot_eq]
  linear_combination v.x * w.x * hx + v.y * w.y * hy + v.z * w.z * hz
    + (v.x * w.y + v.y * w.x) * hxy + (v.x * w.z + v.z * w.x) * hxz
    + (v.y * w.z + v.z * w.y) * hyz

/-- **Cross products are turned along**: every entry is its own cofactor. -/
theorem IsRotation.apply_cross {m : Mat3 α} (h : m.IsRotation) (v w : Vec3 α) :
    m.apply (v.cross w) = (m.apply v).cross (m.apply w) := by
  obtain ⟨⟨cxx, cxy, cxz⟩, ⟨cyx, cyy, cyz⟩, czx, czy, czz⟩ := h.cofactors
  ext <;> simp only [apply_eq, Vec3.cross]
  case x =>
    linear_combination (v.y * w.z - v.z * w.y) * cxx + (v.z * w.x - v.x * w.z) * cxy
      + (v.x * w.y - v.y * w.x) * cxz
  case y =>
    linear_combination (v.y * w.z - v.z * w.y) * cyx + (v.z * w.x - v.x * w.z) * cyy
      + (v.x * w.y - v.y * w.x) * cyz
  case z =>
    linear_combination (v.y * w.z - v.z * w.y) * czx + (v.z * w.x - v.x * w.z) * czy
      + (v.x * w.y - v.y * w.x) * czz

end Mat3

/-! ## §2 The vector between the quaternion and its inverse -/

namespace Quaternion

/-- The vector, taken as a quaternion without scalar part, comes out turned and without scalar part. -/
theorem mul_vector_mul_inverse {α : Type u} [CommRing α] (q : Quaternion α) (v : Vec3 α) :
    q * ofParts v 0 * q.inverse = ofParts (q.rotate v) 0 := by
  ext <;> simp only [rotate, Mat3.apply_eq, toMatrix_eq, mul_eq, inverse, ofParts] <;> ring

/-- **The descriptions agree.** Products of quaternions are products of matrices, the inverse is the
transposed matrix, and a vector is turned by the matrix as it is turned between the quaternion and its
inverse. The matrix of a quaternion of length one is a rotation, which keeps inner products and turns
cross products along. These are the functions that arrays of one quaternion and one vector run. -/
theorem descriptions_agree {α : Type} [CommRing α] :
    (∀ p q : Quaternion α, (p * q).toMatrix = p.toMatrix * q.toMatrix) ∧
    (∀ q : Quaternion α, q.inverse.toMatrix = q.toMatrix.transpose) ∧
    (∀ (q : Quaternion α) (v : Vec3 α), q * ofParts v 0 * q.inverse = ofParts (q.rotate v) 0) ∧
    (∀ q : Quaternion α, q.normSq = 1 →
      (q.toMatrix.transpose * q.toMatrix = 1 ∧ q.toMatrix * q.toMatrix.transpose = 1 ∧
        q.toMatrix.det = 1) ∧
      ∀ v w : Vec3 α, (q.rotate v).dot (q.rotate w) = v.dot w ∧
        q.rotate (v.cross w) = (q.rotate v).cross (q.rotate w)) ∧
    ∀ (p q : Quaternion α) (v : Vec3 α),
      Stack.multiply p.toGrid q.toGrid = .ok (p * q).toGrid ∧
      Stack.inverses q.toGrid = .ok q.inverse.toGrid ∧
      Stack.toMatrices q.toGrid = .ok q.toMatrix.toGrid ∧
      Stack.rotate q.toGrid v.toGrid = .ok (q.rotate v).toGrid := by
  refine ⟨toMatrix_mul, toMatrix_inverse, mul_vector_mul_inverse, ?_, ?_⟩
  · intro q hq
    have h := toMatrix_isRotation hq
    exact ⟨⟨h.transpose_mul_self, h.mul_transpose_self, h.det_eq_one⟩,
      fun v w => ⟨h.dot_apply v w, h.apply_cross v w⟩⟩
  · intro p q v
    exact ⟨Stack.multiply_toGrid p q, Stack.inverses_toGrid q, Stack.toMatrices_toGrid q,
      Stack.rotate_toGrid q v⟩

/-- A rational quaternion of length one with four different components. -/
theorem descriptions_agree_fifths :
    let q : Quaternion ℚ := ⟨1 / 5, 2 / 5, -2 / 5, 4 / 5⟩
    q.normSq = 1 ∧ q.toMatrix.det = 1 ∧
      ∀ v w : Vec3 ℚ, (q.rotate v).dot (q.rotate w) = v.dot w ∧
        q.rotate (v.cross w) = (q.rotate v).cross (q.rotate w) := by
  intro q
  have hq : q.normSq = 1 := by
    rw [normSq_eq]
    norm_num [q]
  obtain ⟨-, -, -, hunit, -⟩ := descriptions_agree (α := ℚ)
  exact ⟨hq, (hunit q hq).1.2.2, (hunit q hq).2⟩

end Quaternion

end FlightAttitude
