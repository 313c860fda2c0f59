/-
# FlightAttitude.Proofs.Vec3.Algebra — products, lengths and directions of vectors

The laws of the inner and the cross product hold over every commutative ring; lengths and directions
are read over the reals. `Parallel` is linear dependence, so the zero vector is parallel to every
vector, and `parallel_iff_cross_eq_zero` reads it off the cross product.
-/
import Mathlib.Tactic.LinearCombination
import FlightAttitude.Proofs.Scalar.Exact

namespace FlightAttitude

universe u

namespace Vec3

/-! ## §1 Sums and multiples -/

section Operations

variable {α : Type u}

/-- **`add a b`** — the sum. -/
def add [Add α] (a b : Vec3 α) : Vec3 α :=
  ⟨a.x + b.x, a.y + b.y, a.z + b.z⟩

instance [Add α] : Add (Vec3 α) := ⟨add⟩

instance [Neg α] : Neg (Vec3 α) := ⟨map Neg.neg⟩

instance [Zero α] : Zero (Vec3 α) := ⟨⟨0, 0, 0⟩⟩

theorem zero_def [Zero α] : (0 : Vec3 α) = ⟨0, 0, 0⟩ := rfl

theorem add_def [Add α] (a b : Vec3 α) : a + b = ⟨a.x + b.x, a.y + b.y, a.z + b.z⟩ := rfl

theorem neg_def [Neg α] (v : Vec3 α) : -v = ⟨-v.x, -v.y, -v.z⟩ := rfl

theorem sub_def [Sub α] (a b : Vec3 α) : a - b = ⟨a.x - b.x, a.y - b.y, a.z - b.z⟩ := rfl

theorem scale_def [Mul α] (k : α) (v : Vec3 α) : v.scale k = ⟨v.x * k, v.y * k, v.z * k⟩ := rfl

end Operations

section Products

variable {α : Type u} [CommRing α]

theorem dot_eq (a b : Vec3 α) : a.dot b = a.x * b.x + a.y * b.y + a.z * b.z := by
  rw [dot, zero_add]

theorem scale_scale (j k : α) (v : Vec3 α) : (v.scale j).scale k = v.scale (j * k) := by
  ext <;> simp only [scale_def] <;> ring

theorem scale_one (v : Vec3 α) : v.scale 1 = v := by
  ext <;> simp only [scale_def, mul_one]

theorem dot_comm (a b : Vec3 α) : a.dot b = b.dot a := by
  simp only [dot_eq]
  ring

theorem dot_scale_left (k : α) (a b : Vec3 α) : (a.scale k).dot b = k * a.dot b := by
  simp only [dot_eq, scale_def]
  ring

theorem dot_scale_right (k : α) (a b : Vec3 α) : a.dot (b.scale k) = k * a.dot b := by
  rw [dot_comm, dot_scale_left, dot_comm]

theorem dot_add_left (a b c : Vec3 α) : (a + b).dot c = a.dot c + b.dot c := by
  simp only [dot_eq, add_def]
  ring

theorem dot_neg_neg (a b : Vec3 α) : (-a).dot (-b) = a.dot b := by
  simp only [dot_eq, neg_def]
  ring

theorem dot_sub_left (a b c : Vec3 α) : (a - b).dot c = a.dot c - b.dot c := by
  simp only [dot_eq, sub_def]
  ring

theorem cross_scale_left (k : α) (a b : Vec3 α) : (a.scale k).cross b = (a.cross b).scale k := by
  ext <;> simp only [cross, scale_def] <;> ring

/-- **Lagrange's identity.** -/
theorem dot_cross_self (a b : Vec3 α) :
    (a.cross b).dot (a.cross b) = a.dot a * b.dot b - a.dot b ^ 2 := by
  simp only [dot_eq, cross]
  ring

end Products

/-! ## §2 Lengths and directions -/

theorem dot_self_nonneg (v : Vec3 ℝ) : 0 ≤ v.dot v := by
  rw [dot_eq]
  nlinarith [mul_self_nonneg v.x, mul_self_nonneg v.y, mul_self_nonneg v.z]

theorem dot_self_eq_zero_iff {v : Vec3 ℝ} : v.dot v = 0 ↔ v = 0 := by
  constructor
  · intro h
    rw [dot_eq] at h
    have hx := mul_self_nonneg v.x
    have hy := mul_self_nonneg v.y
    have hz := mul_self_nonneg v.z
    ext
    · exact mul_self_eq_zero.mp (by linarith)
    · exact mul_self_eq_zero.mp (by linarith)
    · exact mul_self_eq_zero.mp (by linarith)
  · rintro rfl
    simp [dot_eq, zero_def]

theorem dot_self_pos {v : Vec3 ℝ} (h : v ≠ 0) : 0 < v.dot v :=
  lt_of_le_of_ne v.dot_self_nonneg fun h0 => h (dot_self_eq_zero_iff.mp h0.symm)

theorem norm_mul_self (v : Vec3 ℝ) : v.norm * v.norm = v.dot v :=
  Real.mul_self_sqrt v.dot_self_nonneg

theorem norm_pos {v : Vec3 ℝ} (h : v ≠ 0) : 0 < v.norm :=
  Real.sqrt_pos.mpr (dot_self_pos h)

theorem norm_scale {k : ℝ} (hk : 0 ≤ k) (v : Vec3 ℝ) : (v.scale k).norm = k * v.norm := by
  have hsq : (v.scale k).dot (v.scale k) = k ^ 2 * v.dot v := by
    rw [dot_scale_left, dot_scale_right]
    ring
  rw [norm, sqrt_eq, hsq, Real.sqrt_mul (sq_nonneg k), Real.sqrt_sq hk]
  rfl

theorem norm_of_dot_self_eq_one {v : Vec3 ℝ} (h : v.dot v = 1) : v.norm = 1 := by
  rw [norm, h, sqrt_eq, Real.sqrt_one]

theorem unit_eq (v : Vec3 ℝ) : v.unit = v.scale v.norm⁻¹ := by
  ext <;> simp only [unit, map, scale_def, div_eq_mul_inv]

theorem norm_neg (v : Vec3 ℝ) : (-v).norm = v.norm := by
  rw [norm, dot_neg_neg, ← norm]

/-- The opposite vector has the opposite direction. -/
theorem unit_neg (v : Vec3 ℝ) : (-v).unit = -v.unit := by
  rw [unit_eq, unit_eq, norm_neg]
  ext <;> simp only [neg_def, scale_def, neg_mul]

theorem dot_unit_self {v : Vec3 ℝ} (h : v ≠ 0) : v.unit.dot v.unit = 1 := by
  have hpos := norm_pos h
  rw [unit_eq, dot_scale_left, dot_scale_right, ← norm_mul_self]
  field_simp

theorem scale_norm_unit {v : Vec3 ℝ} (h : v ≠ 0) : v.unit.scale v.norm = v := by
  rw [unit_eq, scale_scale, inv_mul_cancel₀ (norm_pos h).ne', scale_one]

/-- A direction does not depend on the length of the vector. -/
theorem unit_scale {k : ℝ} (hk : 0 < k) (v : Vec3 ℝ) : (v.scale k).unit = v.unit := by
  rw [unit_eq, unit_eq, norm_scale hk.le, scale_scale, mul_inv, ← mul_assoc,
    mul_inv_cancel₀ hk.ne', one_mul]

theorem unit_of_dot_self_eq_one {v : Vec3 ℝ} (h : v.dot v = 1) : v.unit = v := by
  rw [unit_eq, norm_of_dot_self_eq_one h, inv_one, scale_one]

/-! ## §3 Parallel vectors -/

/-- **`Parallel a b`** — a multiple of `a` is a multiple of `b`, and not both factors are zero. The zero
vector is parallel to every vector. -/
def Parallel (a b : Vec3 ℝ) : Prop :=
  ∃ s t : ℝ, (s ≠ 0 ∨ t ≠ 0) ∧ a.scale s = b.scale t

theorem parallel_iff_cross_eq_zero {a b : Vec3 ℝ} : Parallel a b ↔ a.cross b = 0 := by
  constructor
  · rintro ⟨s, t, hst, h⟩
    simp only [Vec3.ext_iff, scale_def] at h
    obtain ⟨hx, hy, hz⟩ := h
    rcases hst with hs | ht
    · -- `s` times each component of the product is zero, by the equation for `a`
      ext <;> apply mul_left_cancel₀ hs <;> simp only [cross, zero_def]
      · linear_combination b.z * hy - b.y * hz
      · linear_combination b.x * hz - b.z * hx
      · linear_combination b.y * hx - b.x * hy
    · ext <;> apply mul_left_cancel₀ ht <;> simp only [cross, zero_def]
      · linear_combination a.z * hy - a.y * hz
      · linear_combination a.x * hz - a.z * hx
      · linear_combination a.y * hx - a.x * hy
  · intro h
    simp only [Vec3.ext_iff, cross, zero_def] at h
    obtain ⟨hx, hy, hz⟩ := h
    by_cases hb : b = 0
    · refine ⟨0, 1, Or.inr one_ne_zero, ?_⟩
      rw [hb]
      ext <;> simp only [scale_def, zero_def, mul_zero, zero_mul]
    · refine ⟨b.dot b, a.dot b, Or.inl (dot_self_pos hb).ne', ?_⟩
      ext <;> simp only [scale_def, dot_eq]
      · linear_combination b.y * hz - b.z * hy
      · linear_combination b.z * hx - b.x * hz
      · linear_combination b.x * hy - b.y * hx

theorem Parallel.symm {a b : Vec3 ℝ} (h : Parallel a b) : Parallel b a := by
  obtain ⟨s, t, hst, h⟩ := h
  exact ⟨t, s, hst.symm, h.symm⟩

theorem ne_zero_of_not_parallel {a b : Vec3 ℝ} (h : ¬ Parallel a b) : a ≠ 0 := by
  rintro rfl
  refine h (parallel_iff_cross_eq_zero.mpr ?_)
  ext <;> simp [cross, zero_def]

end Vec3

end FlightAttitude
