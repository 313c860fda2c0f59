/-
# FlightAttitude.Proofs.Quaternion.Length — quaternions brought to length one

`Quaternion.normalize` multiplies a quaternion by a positive number, and what comes out has length one
(`norm_normalize`) unless the quaternion is zero; one that has length one already stays as it is
(`normalize_of_norm_eq_one`). All that is left of a factor is its sign (`normalize_scale`), so the
multiples of a quaternion have two normal forms, each the negative of the other.

At length one `Quaternion.inverse` is the inverse (`mul_inverse_of_norm_eq_one`).
-/
import FlightAttitude.Proofs.Quaternion.Algebra

namespace FlightAttitude

universe u

namespace Quaternion

/-! ## §1 Multiples -/

instance {α : Type u} [Zero α] : Zero (Quaternion α) := ⟨⟨0, 0, 0, 0⟩⟩

theorem zero_def {α : Type u} [Zero α] : (0 : Quaternion α) = ⟨0, 0, 0, 0⟩ := rfl

section Multiples

variable {α : Type u} [CommRing α]

theorem scale_scale (j k : α) (q : Quaternion α) : (q.scale j).scale k = q.scale (j * k) := by
  ext <;> simp only [scale_def, mul_assoc]

theorem scale_one (q : Quaternion α) : q.scale 1 = q := by
  ext <;> simp only [scale_def, mul_one]

theorem scale_neg_one (q : Quaternion α) : q.scale (-1) = -q := by
  ext <;> simp only [scale_def, neg_def, mul_neg, mul_one]

theorem inverse_scale (k : α) (q : Quaternion α) : (q.scale k).inverse = q.inverse.scale k := by
  ext <;> simp only [inverse, scale_def, neg_mul]

/-- Before the inverse stands the squared length, and nothing else. -/
theorem mul_inverse (q : Quaternion α) : q * q.inverse = ⟨0, 0, 0, q.normSq⟩ := by
  ext <;> simp only [mul_eq, inverse, normSq_eq] <;> ring

end Multiples

/-! ## §2 Length -/

variable {q : Quaternion ℝ}

theorem normSq_nonneg (q : Quaternion ℝ) : 0 ≤ q.normSq := by
  rw [normSq_eq]
  positivity

theorem normSq_eq_zero_iff : q.normSq = 0 ↔ q = 0 := by
  constructor
  · intro h
    rw [normSq_eq] at h
    have hx := sq_nonneg q.x
    have hy := sq_nonneg q.y
    have hz := sq_nonneg q.z
    have hw := sq_nonneg q.w
    ext <;> refine pow_eq_zero_iff two_ne_zero |>.mp ?_ <;> linarith
  · rintro rfl
    simp [normSq_eq, zero_def]

theorem norm_pos (h : q ≠ 0) : 0 < q.norm :=
  Real.sqrt_pos.mpr (lt_of_le_of_ne q.normSq_nonneg fun h0 => h (normSq_eq_zero_iff.mp h0.symm))

theorem norm_scale (k : ℝ) (q : Quaternion ℝ) : (q.scale k).norm = |k| * q.norm := by
  rw [norm, sqrt_eq, normSq_scale, Real.sqrt_mul (sq_nonneg k), Real.sqrt_sq_eq_abs]
  rfl

theorem offUnit_eq (q : Quaternion ℝ) : q.offUnit = |q.norm - 1| :=
  magnitude_eq_abs _

/-! ## §3 The normal form -/

theorem normalize_eq (q : Quaternion ℝ) : q.normalize = q.scale q.norm⁻¹ := by
  rw [normalize, unitScale, one_div]

theorem norm_normalize (h : q ≠ 0) : q.normalize.norm = 1 := by
  have hpos := norm_pos h
  rw [normalize_eq, norm_scale, abs_of_pos (inv_pos.mpr hpos), inv_mul_cancel₀ hpos.ne']

theorem normalize_of_norm_eq_one (h : q.norm = 1) : q.normalize = q := by
  rw [normalize_eq, h, inv_one, scale_one]

/-- **Of a factor only its sign is left.** -/
theorem normalize_scale {k : ℝ} (hk : k ≠ 0) (q : Quaternion ℝ) :
    (q.scale k).normalize = q.normalize.scale (signum k) := by
  have hfactor : k * (|k| * q.norm)⁻¹ = q.norm⁻¹ * signum k := by
    have habs := abs_ne_zero.mpr hk
    have hsign : k = |k| * signum k := by rw [signum_eq_sign, abs_mul_sign]
    rw [mul_inv]
    calc k * (|k|⁻¹ * q.norm⁻¹) = |k| * signum k * (|k|⁻¹ * q.norm⁻¹) := by rw [← hsign]
      _ = q.norm⁻¹ * signum k := by field_simp
  rw [normalize_eq, normalize_eq, norm_scale, scale_scale, scale_scale, hfactor]

/-- The two normal forms of a line. -/
theorem normalize_scale_eq_or {k : ℝ} (hk : k ≠ 0) (q : Quaternion ℝ) :
    (q.scale k).normalize = q.normalize ∨ (q.scale k).normalize = -q.normalize := by
  rw [normalize_scale hk, signum_eq_sign]
  rcases lt_or_gt_of_ne hk with h | h
  · exact Or.inr (by rw [sign_neg h, SignType.coe_neg_one, scale_neg_one])
  · exact Or.inl (by rw [sign_pos h, SignType.coe_one, scale_one])

theorem mul_inverse_of_norm_eq_one (h : q.norm = 1) : q * q.inverse = identity := by
  rw [mul_inverse, norm_eq_one_iff.mp h]
  rfl

end Quaternion

end FlightAttitude
