/-
# FlightAttitude.Proofs.Vec3.GramSchmidt — orthonormal pairs

`Vec3.orthoNormalize` gives an orthonormal pair back from every pair of vectors that it spans with the
first vector along the first and the second on the positive side (`orthoNormalize_of_pair`): neither
the lengths nor the part of the second vector along the first matter. Every two vectors that are not
parallel are of this form (`exists_pair_of_not_parallel`).
-/
import FlightAttitude.Proofs.Vec3.Algebra

namespace FlightAttitude

namespace Vec3

/-- **`OrthonormalPair n t`** — two vectors of length one at a right angle. -/
structure OrthonormalPair (n t : Vec3 ℝ) : Prop where
  dot_self_left : n.dot n = 1
  dot_self_right : t.dot t = 1
  dot_eq_zero : t.dot n = 0

/-! ## §1 Taking away the part along a unit vector -/

theorem reject_def {α : Type} [Zero α] [Add α] [Sub α] [Mul α] (t n : Vec3 α) :
    t.reject n = t - n.scale (t.dot n) := rfl

theorem reject_scale (k : ℝ) (t n : Vec3 ℝ) : (t.scale k).reject n = (t.reject n).scale k := by
  rw [reject_def, reject_def, dot_scale_left]
  ext <;> simp only [sub_def, scale_def] <;> ring

theorem dot_reject {n : Vec3 ℝ} (hn : n.dot n = 1) (t : Vec3 ℝ) : (t.reject n).dot n = 0 := by
  rw [reject_def, dot_sub_left, dot_scale_left, hn, mul_one, sub_self]

theorem reject_add_scale (t n : Vec3 ℝ) : t.reject n + n.scale (t.dot n) = t := by
  ext <;> simp only [reject_def, sub_def, add_def, scale_def] <;> ring

/-- Without the division by the length: the part of `t` along any vector that is not zero. -/
theorem reject_unit {f : Vec3 ℝ} (hf : f ≠ 0) (t : Vec3 ℝ) :
    t.reject f.unit = t - f.scale (t.dot f / f.dot f) := by
  have hnorm := (norm_pos hf).ne'
  have hpart : f.norm⁻¹ * (f.norm⁻¹ * t.dot f) = t.dot f / f.dot f := by
    rw [← norm_mul_self]
    field_simp
  rw [reject_def, unit_eq, dot_scale_right, scale_scale, hpart]

/-- What is taken away is all that the second vector has along the first. -/
theorem reject_of_pair {n t : Vec3 ℝ} (h : OrthonormalPair n t) (b c : ℝ) :
    (t.scale b + n.scale c).reject n = t.scale b := by
  have hdot : (t.scale b + n.scale c).dot n = c := by
    rw [dot_add_left, dot_scale_left, dot_scale_left, h.dot_eq_zero, h.dot_self_left]
    ring
  rw [reject_def, hdot]
  ext <;> simp only [sub_def, add_def, scale_def] <;> ring

/-- The remainder vanishes only where the two vectors are parallel. -/
theorem reject_ne_zero {n t : Vec3 ℝ} (h : ¬ Parallel n t) : t.reject n ≠ 0 := by
  intro hzero
  refine h ⟨t.dot n, 1, Or.inr one_ne_zero, ?_⟩
  have hsum := reject_add_scale t n
  rw [hzero] at hsum
  rw [scale_one]
  conv_rhs => rw [← hsum]
  ext <;> simp only [add_def, zero_def, zero_add]

/-- What is left stands at a right angle to `n`, in the plane of both: a double cross product. -/
theorem reject_eq_cross {n : Vec3 ℝ} (hn : n.dot n = 1) (t : Vec3 ℝ) :
    t.reject n = (n.cross t).cross n := by
  rw [dot_eq] at hn
  ext <;> simp only [reject_def, sub_def, scale_def, dot_eq, cross]
  · linear_combination -t.x * hn
  · linear_combination -t.y * hn
  · linear_combination -t.z * hn

/-! ## §2 The orthonormal pair of two vectors -/

theorem reject_unit_left (t n : Vec3 ℝ) : t.unit.reject n = (t.reject n).scale t.norm⁻¹ := by
  rw [unit_eq, reject_scale]

/-- The length of the second vector cancels, so it need not be divided out first. -/
theorem orthoNormalize_eq {n t : Vec3 ℝ} (ht : t ≠ 0) :
    orthoNormalize n t = (n.unit, (t.reject n.unit).unit) := by
  rw [orthoNormalize, reject_unit_left, unit_scale (inv_pos.mpr (norm_pos ht))]

theorem Parallel.of_unit {n t : Vec3 ℝ} (h : Parallel n.unit t) : Parallel n t := by
  by_cases hn : n = 0
  · rw [hn, parallel_iff_cross_eq_zero]
    ext <;> simp [cross, zero_def]
  · rw [parallel_iff_cross_eq_zero] at h ⊢
    rw [← scale_norm_unit hn, cross_scale_left, h]
    ext <;> simp only [scale_def, zero_def, zero_mul]

theorem Parallel.unit {n t : Vec3 ℝ} (h : Parallel n t) : Parallel n.unit t := by
  rw [parallel_iff_cross_eq_zero] at h ⊢
  rw [unit_eq, cross_scale_left, h]
  ext <;> simp only [scale_def, zero_def, zero_mul]

/-- **Nothing is left exactly of a parallel vector**, whatever the lengths. -/
theorem reject_unit_eq_zero_iff {n t : Vec3 ℝ} (hn : n ≠ 0) (ht : t ≠ 0) :
    t.unit.reject n.unit = 0 ↔ Parallel n t := by
  have hlength : t.norm⁻¹ ≠ 0 := inv_ne_zero (norm_pos ht).ne'
  rw [reject_unit_left]
  constructor
  · intro hzero
    by_contra hparallel
    refine reject_ne_zero (fun h => hparallel h.of_unit) ?_
    simp only [Vec3.ext_iff, scale_def, zero_def, mul_eq_zero, hlength, or_false] at hzero ⊢
    exact hzero
  · intro hparallel
    rw [reject_eq_cross (dot_unit_self hn), parallel_iff_cross_eq_zero.mp hparallel.unit]
    ext <;> simp [scale_def, cross, zero_def]

/-- **Every two vectors that are not parallel are spanned by an orthonormal pair**: the direction of
the first, and the direction of what the second has at right angles to it. -/
theorem exists_pair_of_not_parallel {f u : Vec3 ℝ} (h : ¬ Parallel f u) :
    ∃ n t : Vec3 ℝ, OrthonormalPair n t ∧ n = f.unit ∧ t = (u.reject f.unit).unit ∧
      ∃ a b c : ℝ, 0 < a ∧ 0 < b ∧ f = n.scale a ∧ u = t.scale b + n.scale c := by
  have hf := ne_zero_of_not_parallel h
  have hunit := dot_unit_self hf
  have hrest := reject_ne_zero fun hp => h hp.of_unit
  refine ⟨f.unit, (u.reject f.unit).unit, ⟨hunit, dot_unit_self hrest, ?_⟩, rfl, rfl,
    f.norm, (u.reject f.unit).norm, u.dot f.unit, norm_pos hf, norm_pos hrest,
    (scale_norm_unit hf).symm, ?_⟩
  · rw [unit_eq (u.reject f.unit), dot_scale_left, dot_reject hunit, mul_zero]
  · rw [scale_norm_unit hrest, reject_add_scale]

/-- What an orthonormal pair spans, with a share of the second vector, is never parallel. -/
theorem not_parallel_of_pair {n t : Vec3 ℝ} (h : OrthonormalPair n t) {a b : ℝ} (ha : a ≠ 0)
    (hb : b ≠ 0) (c : ℝ) : ¬ Parallel (n.scale a) (t.scale b + n.scale c) := by
  intro hparallel
  have hcross : (n.scale a).cross (t.scale b + n.scale c) = (n.cross t).scale (a * b) := by
    ext <;> simp only [cross, scale_def, add_def] <;> ring
  have hlength : ((n.cross t).scale (a * b)).dot ((n.cross t).scale (a * b)) = (a * b) ^ 2 := by
    rw [dot_scale_left, dot_scale_right, dot_cross_self, h.dot_self_left, h.dot_self_right,
      dot_comm n t, h.dot_eq_zero]
    ring
  rw [← hcross, parallel_iff_cross_eq_zero.mp hparallel] at hlength
  have hzero : (0 : Vec3 ℝ).dot 0 = 0 := dot_self_eq_zero_iff.mpr rfl
  rw [hzero] at hlength
  exact pow_ne_zero 2 (mul_ne_zero ha hb) hlength.symm

/-- **Gram-Schmidt gives the pair back.** -/
theorem orthoNormalize_of_pair {n t : Vec3 ℝ} (h : OrthonormalPair n t) {a b : ℝ} (ha : 0 < a)
    (hb : 0 < b) (c : ℝ) : orthoNormalize (n.scale a) (t.scale b + n.scale c) = (n, t) := by
  have hn : (n.scale a).unit = n := by
    rw [unit_scale ha, unit_of_dot_self_eq_one h.dot_self_left]
  have hrest : ((t.scale b + n.scale c).reject n).unit = t := by
    rw [reject_of_pair h, unit_scale hb, unit_of_dot_self_eq_one h.dot_self_right]
  have hne : t.scale b + n.scale c ≠ 0 := by
    intro hzero
    have hdot : (t.scale b + n.scale c).dot t = b := by
      rw [dot_add_left, dot_scale_left, dot_scale_left, dot_comm n, h.dot_eq_zero,
        h.dot_self_right]
      ring
    rw [hzero] at hdot
    simp only [dot_eq, zero_def, zero_mul, add_zero] at hdot
    exact hb.ne hdot
  rw [orthoNormalize_eq hne, hn, hrest]

end Vec3

end FlightAttitude
