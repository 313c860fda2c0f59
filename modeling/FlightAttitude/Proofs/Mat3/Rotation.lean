/-
# FlightAttitude.Proofs.Mat3.Rotation — rotation matrices

A rotation is a matrix whose columns are orthonormal and whose determinant is one (`IsRotation`). Over
any commutative ring that makes the transpose equal to the adjugate, which yields what the two
defining equations do not show at sight: the rows are orthonormal too, and each entry is its own
cofactor (`IsRotation.cofactors`).

The library itself multiplies no matrices; the product, the transpose and the determinant stand here
because the statements about rotations need them.
-/
import Mathlib.Tactic.LinearCombination
import Mathlib.Tactic.Ring
import FlightAttitude.Mat3

namespace FlightAttitude

universe u

namespace Mat3

variable {α : Type u}

theorem ext_entry {m n : Mat3 α} (h : ∀ i j, m.entry i j = n.entry i j) : m = n := by
  rw [← ofEntries_entry m, ← ofEntries_entry n]
  exact congrArg ofEntries (funext fun i => funext (h i))

variable [CommRing α]

/-! ## §1 The monoid of matrices -/

/-- **`mul m n`** — the matrix product: turn by `n`, then by `m`. -/
def mul (m n : Mat3 α) : Mat3 α :=
  ⟨m.xx * n.xx + m.xy * n.yx + m.xz * n.zx,
   m.xx * n.xy + m.xy * n.yy + m.xz * n.zy,
   m.xx * n.xz + m.xy * n.yz + m.xz * n.zz,
   m.yx * n.xx + m.yy * n.yx + m.yz * n.zx,
   m.yx * n.xy + m.yy * n.yy + m.yz * n.zy,
   m.yx * n.xz + m.yy * n.yz + m.yz * n.zz,
   m.zx * n.xx + m.zy * n.yx + m.zz * n.zx,
   m.zx * n.xy + m.zy * n.yy + m.zz * n.zy,
   m.zx * n.xz + m.zy * n.yz + m.zz * n.zz⟩

instance : Mul (Mat3 α) := ⟨mul⟩

instance : One (Mat3 α) := ⟨⟨1, 0, 0, 0, 1, 0, 0, 0, 1⟩⟩

theorem one_def : (1 : Mat3 α) = ⟨1, 0, 0, 0, 1, 0, 0, 0, 1⟩ := rfl

theorem mul_def (m n : Mat3 α) : m * n = mul m n := rfl

instance : Monoid (Mat3 α) where
  mul_assoc a b c := by
    ext <;> simp only [mul_def, mul] <;> ring
  one_mul a := by
    ext <;> simp only [mul_def, mul, one_def] <;> ring
  mul_one a := by
    ext <;> simp only [mul_def, mul, one_def] <;> ring

/-! ## §2 Transpose, determinant, adjugate, multiples -/

/-- **`transpose m`** — rows for columns. -/
def transpose (m : Mat3 α) : Mat3 α :=
  ⟨m.xx, m.yx, m.zx, m.xy, m.yy, m.zy, m.xz, m.yz, m.zz⟩

/-- **`det m`** — the determinant, by the first row. -/
def det (m : Mat3 α) : α :=
  m.xx * (m.yy * m.zz - m.yz * m.zy) - m.xy * (m.yx * m.zz - m.yz * m.zx)
    + m.xz * (m.yx * m.zy - m.yy * m.zx)

/-- **`adjugate m`** — the transposed matrix of cofactors. -/
def adjugate (m : Mat3 α) : Mat3 α :=
  ⟨m.yy * m.zz - m.yz * m.zy, m.xz * m.zy - m.xy * m.zz, m.xy * m.yz - m.xz * m.yy,
   m.yz * m.zx - m.yx * m.zz, m.xx * m.zz - m.xz * m.zx, m.xz * m.yx - m.xx * m.yz,
   m.yx * m.zy - m.yy * m.zx, m.xy * m.zx - m.xx * m.zy, m.xx * m.yy - m.xy * m.yx⟩

/-- **`scale k m`** — every entry times `k`. -/
def scale (k : α) (m : Mat3 α) : Mat3 α :=
  ⟨m.xx * k, m.xy * k, m.xz * k, m.yx * k, m.yy * k, m.yz * k, m.zx * k, m.zy * k, m.zz * k⟩

theorem transpose_mul (m n : Mat3 α) : (m * n).transpose = n.transpose * m.transpose := by
  ext <;> simp only [mul_def, mul, transpose] <;> ring

theorem det_mul (m n : Mat3 α) : (m * n).det = m.det * n.det := by
  simp only [mul_def, mul, det]
  ring

theorem mul_adjugate {m : Mat3 α} (h : m.det = 1) : m * m.adjugate = 1 := by
  simp only [det] at h
  ext <;> simp only [mul_def, mul, adjugate, one_def]
  case xx | yy | zz => linear_combination h
  all_goals ring

/-! ## §3 Rotations -/

/-- **`IsRotation m`** — orthonormal columns, right handed. -/
structure IsRotation (m : Mat3 α) : Prop where
  transpose_mul_self : m.transpose * m = 1
  det_eq_one : m.det = 1

theorem IsRotation.mul {m n : Mat3 α} (hm : m.IsRotation) (hn : n.IsRotation) :
    (m * n).IsRotation where
  transpose_mul_self := by
    rw [transpose_mul, mul_assoc, ← mul_assoc m.transpose, hm.transpose_mul_self, one_mul,
      hn.transpose_mul_self]
  det_eq_one := by
    rw [det_mul, hm.det_eq_one, hn.det_eq_one, one_mul]

/-- The inverse of a rotation can be read off in two ways, so they agree. -/
theorem IsRotation.transpose_eq_adjugate {m : Mat3 α} (h : m.IsRotation) :
    m.transpose = m.adjugate :=
  calc m.transpose = m.transpose * (m * m.adjugate) := by rw [mul_adjugate h.det_eq_one, mul_one]
    _ = m.adjugate := by rw [← mul_assoc, h.transpose_mul_self, one_mul]

theorem IsRotation.mul_transpose_self {m : Mat3 α} (h : m.IsRotation) : m * m.transpose = 1 := by
  rw [h.transpose_eq_adjugate, mul_adjugate h.det_eq_one]

/-- **Columns.** The six equations of `mᵀ m = 1`. -/
theorem IsRotation.columns {m : Mat3 α} (h : m.IsRotation) :
    (m.xx * m.xx + m.yx * m.yx + m.zx * m.zx = 1 ∧ m.xy * m.xy + m.yy * m.yy + m.zy * m.zy = 1 ∧
      m.xz * m.xz + m.yz * m.yz + m.zz * m.zz = 1) ∧
    (m.xx * m.xy + m.yx * m.yy + m.zx * m.zy = 0 ∧ m.xx * m.xz + m.yx * m.yz + m.zx * m.zz = 0 ∧
      m.xy * m.xz + m.yy * m.yz + m.zy * m.zz = 0) := by
  have e := h.transpose_mul_self
  simp only [Mat3.ext_iff, mul_def, transpose, one_def] at e
  obtain ⟨hxx, hxy, hxz, -, hyy, hyz, -, -, hzz⟩ := e
  exact ⟨⟨hxx, hyy, hzz⟩, hxy, hxz, hyz⟩

/-- **Rows.** The six equations of `m mᵀ = 1`. -/
theorem IsRotation.rows {m : Mat3 α} (h : m.IsRotation) :
    (m.xx * m.xx + m.xy * m.xy + m.xz * m.xz = 1 ∧ m.yx * m.yx + m.yy * m.yy + m.yz * m.yz = 1 ∧
      m.zx * m.zx + m.zy * m.zy + m.zz * m.zz = 1) ∧
    (m.xx * m.yx + m.xy * m.yy + m.xz * m.yz = 0 ∧ m.xx * m.zx + m.xy * m.zy + m.xz * m.zz = 0 ∧
      m.yx * m.zx + m.yy * m.zy + m.yz * m.zz = 0) := by
  have e := h.mul_transpose_self
  simp only [Mat3.ext_iff, mul_def, transpose, one_def] at e
  obtain ⟨hxx, hxy, hxz, -, hyy, hyz, -, -, hzz⟩ := e
  exact ⟨⟨hxx, hyy, hzz⟩, hxy, hxz, hyz⟩

/-- **Cofactors.** Every entry of a rotation is its own cofactor, row by row. -/
theorem IsRotation.cofactors {m : Mat3 α} (h : m.IsRotation) :
    (m.xx = m.yy * m.zz - m.yz * m.zy ∧ m.xy = m.yz * m.zx - m.yx * m.zz ∧
      m.xz = m.yx * m.zy - m.yy * m.zx) ∧
    (m.yx = m.xz * m.zy - m.xy * m.zz ∧ m.yy = m.xx * m.zz - m.xz * m.zx ∧
      m.yz = m.xy * m.zx - m.xx * m.zy) ∧
    (m.zx = m.xy * m.yz - m.xz * m.yy ∧ m.zy = m.xz * m.yx - m.xx * m.yz ∧
      m.zz = m.xx * m.yy - m.xy * m.yx) := by
  have e := h.transpose_eq_adjugate
  simp only [Mat3.ext_iff, transpose, adjugate] at e
  obtain ⟨hxx, hyx, hzx, hxy, hyy, hzy, hxz, hyz, hzz⟩ := e
  exact ⟨⟨hxx, hxy, hxz⟩, ⟨hyx, hyy, hyz⟩, hzx, hzy, hzz⟩

end Mat3

end FlightAttitude
