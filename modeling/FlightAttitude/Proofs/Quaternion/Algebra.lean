/-
# FlightAttitude.Proofs.Quaternion.Algebra — quaternions and their matrices over a commutative ring

`Quaternion.toMatrix` is quadratic in its argument and turns products into products
(`toMatrix_mul`), for quaternions of any length. A quaternion of length one therefore has a rotation
for its matrix (`toMatrix_isRotation`), and its negative has the same one (`toMatrix_neg`).

The six sums and differences of entries across the diagonal and the four expressions on it make up a
symmetric table, `Mat3.pairing`. On the matrix of a quaternion of length one it is four times the
table of products of two components (`pairing_toMatrix`), so the matrix determines the quaternion up
to its sign.
-/
import FlightAttitude.Proofs.Mat3.Rotation
import FlightAttitude.Proofs.Scalar.Exact

namespace FlightAttitude

universe u

namespace Quaternion

/-! ## §1 Components by name -/

section Parts

variable {α : Type u}

/-- **`part q p`** — the components by name. -/
def part (q : Quaternion α) : Part → α
  | .x => q.x
  | .y => q.y
  | .z => q.z
  | .w => q.w

theorem ext_part {p q : Quaternion α} (h : ∀ r, p.part r = q.part r) : p = q :=
  Quaternion.ext (h .x) (h .y) (h .z) (h .w)

end Parts

variable {α : Type u} [CommRing α]

/-! ## §2 Operations in closed form -/

/-- **`neg q`** — every component negated. -/
def neg (q : Quaternion α) : Quaternion α :=
  ⟨-q.x, -q.y, -q.z, -q.w⟩

instance : Neg (Quaternion α) := ⟨neg⟩

theorem neg_def (q : Quaternion α) : -q = ⟨-q.x, -q.y, -q.z, -q.w⟩ := rfl

instance : InvolutiveNeg (Quaternion α) where
  neg_neg q := by
    ext <;> simp only [neg_def, neg_neg]

theorem part_neg (q : Quaternion α) (p : Part) : (-q).part p = -q.part p := by
  cases p <;> rfl

theorem scale_def (k : α) (q : Quaternion α) : q.scale k = ⟨q.x * k, q.y * k, q.z * k, q.w * k⟩ :=
  rfl

theorem normSq_eq (q : Quaternion α) : q.normSq = q.x ^ 2 + q.y ^ 2 + q.z ^ 2 + q.w ^ 2 := by
  rw [normSq]
  ring

theorem norm_eq_one_iff {q : Quaternion ℝ} : q.norm = 1 ↔ q.normSq = 1 := by
  rw [norm, sqrt_eq, Real.sqrt_eq_one]

theorem mul_eq (p q : Quaternion α) : p * q =
    ⟨p.w * q.x + q.w * p.x + (p.y * q.z - p.z * q.y),
     p.w * q.y + q.w * p.y + (p.z * q.x - p.x * q.z),
     p.w * q.z + q.w * p.z + (p.x * q.y - p.y * q.x),
     p.w * q.w - (p.x * q.x + p.y * q.y + p.z * q.z)⟩ := by
  change mul p q = _
  simp only [mul, vector, Vec3.cross, Vec3.dot, zero_add]

theorem mul_identity (p : Quaternion α) : p * identity = p := by
  ext <;> simp [mul_eq, identity]

theorem identity_mul (p : Quaternion α) : identity * p = p := by
  ext <;> simp [mul_eq, identity]

theorem normSq_mul (p q : Quaternion α) : (p * q).normSq = p.normSq * q.normSq := by
  simp only [normSq_eq, mul_eq]
  ring

theorem normSq_neg (q : Quaternion α) : (-q).normSq = q.normSq := by
  simp only [normSq_eq, neg_def]
  ring

theorem normSq_scale (k : α) (q : Quaternion α) : (q.scale k).normSq = k ^ 2 * q.normSq := by
  simp only [normSq_eq, scale_def]
  ring

theorem normSq_inverse (q : Quaternion α) : q.inverse.normSq = q.normSq := by
  simp only [normSq_eq, inverse]
  ring

/-! ## §3 The matrix of a quaternion -/

theorem toMatrix_eq (q : Quaternion α) : q.toMatrix =
    ⟨q.w ^ 2 + q.x ^ 2 - q.y ^ 2 - q.z ^ 2, 2 * (q.x * q.y - q.w * q.z),
       2 * (q.x * q.z + q.w * q.y),
     2 * (q.x * q.y + q.w * q.z), q.w ^ 2 - q.x ^ 2 + q.y ^ 2 - q.z ^ 2,
       2 * (q.y * q.z - q.w * q.x),
     2 * (q.x * q.z - q.w * q.y), 2 * (q.y * q.z + q.w * q.x),
       q.w ^ 2 - q.x ^ 2 - q.y ^ 2 + q.z ^ 2⟩ := by
  ext <;> simp only [toMatrix, vector, Vec3.dot, Mat3.skew, two_eq] <;> ring

theorem toMatrix_mul (p q : Quaternion α) : (p * q).toMatrix = p.toMatrix * q.toMatrix := by
  ext <;> simp only [toMatrix_eq, mul_eq, Mat3.mul_def, Mat3.mul] <;> ring

theorem toMatrix_inverse (q : Quaternion α) : q.inverse.toMatrix = q.toMatrix.transpose := by
  ext <;> simp only [toMatrix_eq, inverse, Mat3.transpose] <;> ring

theorem toMatrix_neg (q : Quaternion α) : (-q).toMatrix = q.toMatrix := by
  ext <;> simp only [toMatrix_eq, neg_def] <;> ring

/-- The matrix is quadratic: a factor on the quaternion comes out squared. -/
theorem toMatrix_scale (k : α) (q : Quaternion α) :
    (q.scale k).toMatrix = q.toMatrix.scale (k ^ 2) := by
  ext <;> simp only [toMatrix_eq, scale_def, Mat3.scale] <;> ring

/-- **The matrix of a quaternion of length one is a rotation.** -/
theorem toMatrix_isRotation {q : Quaternion α} (hq : q.normSq = 1) : q.toMatrix.IsRotation where
  transpose_mul_self := by
    rw [normSq_eq] at hq
    ext <;> simp only [toMatrix_eq, Mat3.mul_def, Mat3.mul, Mat3.transpose, Mat3.one_def]
    case xx | yy | zz =>
      linear_combination (q.x ^ 2 + q.y ^ 2 + q.z ^ 2 + q.w ^ 2 + 1) * hq
    all_goals ring
  det_eq_one := by
    rw [normSq_eq] at hq
    -- the determinant is the third power of the squared length
    have hcube : q.toMatrix.det = (q.x ^ 2 + q.y ^ 2 + q.z ^ 2 + q.w ^ 2) ^ 3 := by
      simp only [toMatrix_eq, Mat3.det]
      ring
    rw [hcube, hq, one_pow]

end Quaternion

namespace Mat3

/-! ## §4 The table of products -/

variable {α : Type u} [CommRing α]

/-- **`pairing m p r`** — what `m` tells about four times the product of the components `p` and `r`. -/
def pairing (m : Mat3 α) : Quaternion.Part → Quaternion.Part → α
  | .x, .x => 1 + m.xx - m.yy - m.zz
  | .y, .y => 1 - m.xx + m.yy - m.zz
  | .z, .z => 1 - m.xx - m.yy + m.zz
  | .w, .w => 1 + m.xx + m.yy + m.zz
  | .x, .y | .y, .x => m.xy + m.yx
  | .x, .z | .z, .x => m.xz + m.zx
  | .y, .z | .z, .y => m.yz + m.zy
  | .x, .w | .w, .x => m.zy - m.yz
  | .y, .w | .w, .y => m.xz - m.zx
  | .z, .w | .w, .z => m.yx - m.xy

/-- The four expressions on the diagonal of the table always add up to four. -/
theorem sum_pairing (m : Mat3 α) :
    m.pairing .x .x + m.pairing .y .y + m.pairing .z .z + m.pairing .w .w = 4 := by
  simp only [pairing]
  ring

theorem pairing_toMatrix {q : Quaternion α} (hq : q.normSq = 1) (p r : Quaternion.Part) :
    q.toMatrix.pairing p r = 4 * (q.part p * q.part r) := by
  rw [Quaternion.normSq_eq] at hq
  cases p <;> cases r <;> simp only [pairing, Quaternion.part, Quaternion.toMatrix_eq]
  case x.x | y.y | z.z | w.w => linear_combination -hq
  all_goals ring

end Mat3

end FlightAttitude
