/-
# FlightAttitude.Proofs.Vec3.Degenerate — pairs of directions that cannot be made orthonormal

Making a pair orthonormal divides by three lengths. Over `Extended` numbers it shows where such a
length is zero. The first two are those of the vectors themselves; a vector that is zero has no
direction, and what is left of the tangent is then undefined (`reject_extend_undefined`). The third is
the length of what is left of the tangent, and nothing is left of it exactly where the two vectors are
parallel (`reject_extend_eq_zero_iff`). In all other cases every step is taken among finite numbers and
has the value that it has over the reals (`orthoNormalize_extend`).

So the pair comes out undefined, and the notice is given, for degenerate pairs and no others; what
comes out of the others is an orthonormal pair that depends on their plane and orientation alone
(`orthoNormalize_contract`).
-/
import FlightAttitude.Proofs.Scalar.Extended
import FlightAttitude.Proofs.Stack.Directions
import FlightAttitude.Proofs.Vec3.GramSchmidt

namespace FlightAttitude

open Extended (finite)

namespace Vec3

variable {n t v : Vec3 ℝ}

/-! ## §1 Real vectors among the extended ones -/

/-- **`extend v`** — the vector `v` with extended numbers for its components. -/
noncomputable def extend (v : Vec3 ℝ) : Vec3 Extended := v.map finite

/-- **`undefined`** — the vector of which no component is defined. -/
def undefined : Vec3 Extended := ⟨.undefined, .undefined, .undefined⟩

theorem zero_eq_extend : (0 : Vec3 Extended) = (0 : Vec3 ℝ).extend := rfl

theorem extend_inj : n.extend = t.extend ↔ n = t := by
  simp only [Vec3.ext_iff, extend, map, Extended.finite.injEq]

theorem extend_ne_undefined (v : Vec3 ℝ) : v.extend ≠ undefined := by
  simp [Vec3.ext_iff, extend, map, undefined]

theorem isFinite_extend (v : Vec3 ℝ) : v.extend.isFinite = true := rfl

theorem isFinite_undefined : undefined.isFinite = false := rfl

/-! ## §2 The steps -/

theorem dot_extend (n t : Vec3 ℝ) : n.extend.dot t.extend = finite (n.dot t) := rfl

theorem norm_extend (v : Vec3 ℝ) : v.extend.norm = finite v.norm := by
  rw [norm, dot_extend, Extended.sqrt_finite v.dot_self_nonneg]
  rfl

theorem unit_extend (h : v ≠ 0) : v.extend.unit = v.unit.extend := by
  have hlength : v.norm ≠ 0 := (norm_pos h).ne'
  show v.extend.map (· / v.extend.norm) = _
  rw [norm_extend]
  ext <;> simp only [unit, extend, map, Extended.finite_div hlength]

theorem unit_extend_zero : (0 : Vec3 ℝ).extend.unit = undefined := by
  have hlength : (0 : Vec3 ℝ).norm = 0 := by
    rw [norm, dot_self_eq_zero_iff.mpr rfl, sqrt_eq, Real.sqrt_zero]
  ext <;> simp only [unit, map, norm_extend, hlength] <;> exact Extended.zero_div_zero

theorem reject_extend (t n : Vec3 ℝ) : t.extend.reject n.extend = (t.reject n).extend := by
  rw [reject_def, dot_extend]
  ext <;> simp only [reject_def, scale_def, sub_def, extend, map, Extended.finite_mul,
    Extended.finite_sub]

/-- An undefined vector leaves nothing defined, on whichever side it stands. -/
theorem undefined_reject (n : Vec3 Extended) : undefined.reject n = undefined := by
  ext <;> simp [reject_def, sub_def, undefined]

theorem reject_undefined (t : Vec3 Extended) : t.reject undefined = undefined := by
  ext <;> simp [reject_def, sub_def, scale_def, undefined]

/-! ## §3 What is left of the tangent -/

theorem reject_extend_of_ne (hn : n ≠ 0) (ht : t ≠ 0) :
    t.extend.unit.reject n.extend.unit = (t.unit.reject n.unit).extend := by
  rw [unit_extend hn, unit_extend ht, reject_extend]

theorem reject_extend_undefined (h : n = 0 ∨ t = 0) :
    t.extend.unit.reject n.extend.unit = undefined := by
  rcases h with rfl | rfl
  · rw [unit_extend_zero, reject_undefined]
  · rw [unit_extend_zero, undefined_reject]

theorem reject_extend_eq_zero_iff (hn : n ≠ 0) (ht : t ≠ 0) :
    t.extend.unit.reject n.extend.unit = 0 ↔ Parallel n t := by
  rw [reject_extend_of_ne hn ht, zero_eq_extend, extend_inj, reject_unit_eq_zero_iff hn ht]

/-- **`Degenerate n t`** — one of the two is zero, or they are parallel. -/
def Degenerate (n t : Vec3 ℝ) : Prop := n = 0 ∨ t = 0 ∨ Parallel n t

theorem ne_zero_of_not_degenerate (h : ¬ Degenerate n t) : n ≠ 0 ∧ t ≠ 0 ∧ ¬ Parallel n t := by
  rwa [Degenerate, not_or, not_or] at h

theorem not_degenerate_of_not_parallel (h : ¬ Parallel n t) : ¬ Degenerate n t := by
  rintro (hn | ht | hparallel)
  · exact ne_zero_of_not_parallel h hn
  · exact ne_zero_of_not_parallel (mt Parallel.symm h) ht
  · exact h hparallel

/-- What the last division is by: it is zero or undefined for degenerate pairs, and for no others. -/
theorem reject_extend_degenerate_iff :
    (t.extend.unit.reject n.extend.unit = 0 ∨ t.extend.unit.reject n.extend.unit = undefined) ↔
      Degenerate n t := by
  constructor
  · intro hleft
    by_contra h
    obtain ⟨hn, ht, hparallel⟩ := ne_zero_of_not_degenerate h
    rcases hleft with hzero | hundefined
    · exact hparallel ((reject_extend_eq_zero_iff hn ht).mp hzero)
    · rw [reject_extend_of_ne hn ht] at hundefined
      exact extend_ne_undefined _ hundefined
  · intro h
    -- a zero vector is parallel to every vector, so it has to be asked for first
    by_cases hzero : n = 0 ∨ t = 0
    · exact Or.inr (reject_extend_undefined hzero)
    · obtain ⟨hn, ht⟩ := not_or.mp hzero
      exact Or.inl ((reject_extend_eq_zero_iff hn ht).mpr ((h.resolve_left hn).resolve_left ht))

/-! ## §4 The pair -/

theorem orthoNormalize_degenerate (h : Degenerate n t) :
    (orthoNormalize n.extend t.extend).2 = undefined := by
  show (t.extend.unit.reject n.extend.unit).unit = undefined
  rcases reject_extend_degenerate_iff.mpr h with hzero | hundefined
  · rw [hzero, zero_eq_extend, unit_extend_zero]
  · rw [hundefined]
    ext <;> exact Extended.undefined_div _

/-- **Where no length is zero, the pair is that of the reals.** -/
theorem orthoNormalize_extend (h : ¬ Parallel n t) :
    orthoNormalize n.extend t.extend =
      ((orthoNormalize n t).1.extend, (orthoNormalize n t).2.extend) := by
  obtain ⟨hn, ht, -⟩ := ne_zero_of_not_degenerate (not_degenerate_of_not_parallel h)
  have hleft : t.unit.reject n.unit ≠ 0 := mt (reject_unit_eq_zero_iff hn ht).mp h
  show (n.extend.unit, (t.extend.unit.reject n.extend.unit).unit) = _
  rw [reject_extend_of_ne hn ht, unit_extend hleft, unit_extend hn]
  rfl

end Vec3

namespace Stack

open Vec3 (Degenerate OrthonormalPair Parallel)

variable {n t : Vec3 ℝ}

/-! ## §5 What is answered -/

/-- The answer to a pair that an orthonormal pair spans is that pair, and nothing is said. -/
theorem orthoNormalize_span (pair : OrthonormalPair n t) {a b : ℝ} (ha : 0 < a) (hb : 0 < b)
    (c : ℝ) : orthoNormalize (n.scale a).extend.toGrid (t.scale b + n.scale c).extend.toGrid =
      ⟨[], .ok (n.extend.toGrid, t.extend.toGrid)⟩ := by
  rw [orthoNormalize_pair,
    Vec3.orthoNormalize_extend (Vec3.not_parallel_of_pair pair ha.ne' hb.ne' c),
    Vec3.orthoNormalize_of_pair pair ha hb, Vec3.isFinite_extend, if_pos rfl]

theorem orthoNormalize_of_degenerate (h : Degenerate n t) :
    orthoNormalize n.extend.toGrid t.extend.toGrid =
      ⟨[.parallelDirections], .ok (n.extend.unit.toGrid, Vec3.undefined.toGrid)⟩ := by
  rw [orthoNormalize_pair, Vec3.orthoNormalize_degenerate h, Vec3.isFinite_undefined,
    if_neg Bool.false_ne_true]
  rfl

/-- **Making a pair orthonormal.** What is left of the tangent before the last division is zero or
undefined exactly for degenerate pairs; for them alone the answer is not finite and the notice is
given. For every other pair the answer is an orthonormal pair: the direction of the normal, and a
vector in the plane of the two on the side of the tangent. It does not change with the lengths of the
two, nor with a part of the tangent along the normal, and it is its own answer. -/
theorem orthoNormalize_contract (n t : Vec3 ℝ) :
    ((t.extend.unit.reject n.extend.unit = 0 ∨
      t.extend.unit.reject n.extend.unit = Vec3.undefined) ↔ n = 0 ∨ t = 0 ∨ Parallel n t) ∧
    (∃ notices, ∃ normal tangent : Vec3 Extended,
      orthoNormalize n.extend.toGrid t.extend.toGrid =
        ⟨notices, .ok (normal.toGrid, tangent.toGrid)⟩ ∧
      ((normal.isFinite = false ∨ tangent.isFinite = false) ↔ n = 0 ∨ t = 0 ∨ Parallel n t) ∧
      (notices = [.parallelDirections] ↔ n = 0 ∨ t = 0 ∨ Parallel n t)) ∧
    (¬ (n = 0 ∨ t = 0 ∨ Parallel n t) → ∃ normal tangent : Vec3 ℝ,
      orthoNormalize n.extend.toGrid t.extend.toGrid =
        ⟨[], .ok (normal.extend.toGrid, tangent.extend.toGrid)⟩ ∧
      normal.norm = 1 ∧ tangent.norm = 1 ∧ normal.dot tangent = 0 ∧
      normal = n.scale n.norm⁻¹ ∧ 0 < tangent.dot t ∧
      (∃ a b, tangent = n.scale a + t.scale b) ∧
      (∀ a b c : ℝ, 0 < a → 0 < b →
        orthoNormalize (n.scale a).extend.toGrid (t.scale b + n.scale c).extend.toGrid =
          ⟨[], .ok (normal.extend.toGrid, tangent.extend.toGrid)⟩) ∧
      orthoNormalize normal.extend.toGrid tangent.extend.toGrid =
        ⟨[], .ok (normal.extend.toGrid, tangent.extend.toGrid)⟩) := by
  refine ⟨Vec3.reject_extend_degenerate_iff, ?_, ?_⟩
  · by_cases h : Degenerate n t
    · exact ⟨_, _, _, orthoNormalize_of_degenerate h,
        iff_of_true (Or.inr Vec3.isFinite_undefined) h, iff_of_true rfl h⟩
    · obtain ⟨-, -, hparallel⟩ := Vec3.ne_zero_of_not_degenerate h
      obtain ⟨e, f, pair, -, -, a, b, c, ha, hb, rfl, rfl⟩ :=
        Vec3.exists_pair_of_not_parallel hparallel
      refine ⟨_, _, _, orthoNormalize_span pair ha hb c, iff_of_false ?_ h, iff_of_false nofun h⟩
      simp [Vec3.isFinite_extend]
  · intro h
    obtain ⟨-, -, hparallel⟩ := Vec3.ne_zero_of_not_degenerate h
    obtain ⟨e, f, pair, hunit, -, a, b, c, ha, hb, rfl, rfl⟩ :=
      Vec3.exists_pair_of_not_parallel hparallel
    refine ⟨e, f, orthoNormalize_span pair ha hb c,
      Vec3.norm_of_dot_self_eq_one pair.dot_self_left,
      Vec3.norm_of_dot_self_eq_one pair.dot_self_right, ?_, ?_, ?_, ?_, ?_, ?_⟩
    · rw [Vec3.dot_comm, pair.dot_eq_zero]
    · rw [← Vec3.unit_eq]
      exact hunit
    · rw [Vec3.dot_comm, Vec3.dot_add_left, Vec3.dot_scale_left, Vec3.dot_scale_left,
        pair.dot_self_right, Vec3.dot_comm, pair.dot_eq_zero]
      linarith
    · -- the part along the normal is taken off again
      refine ⟨-(c / (a * b)), b⁻¹, ?_⟩
      ext <;> simp only [Vec3.add_def, Vec3.scale_def] <;> field_simp <;> ring
    · intro a' b' c' ha' hb'
      have hnormal : (e.scale a).scale a' = e.scale (a * a') := Vec3.scale_scale ..
      have htangent : (f.scale b + e.scale c).scale b' + (e.scale a).scale c' =
          f.scale (b * b') + e.scale (c * b' + a * c') := by
        ext <;> simp only [Vec3.add_def, Vec3.scale_def] <;> ring
      rw [hnormal, htangent]
      exact orthoNormalize_span pair (mul_pos ha ha') (mul_pos hb hb') _
    · have own := orthoNormalize_span pair one_pos one_pos 0
      have htangent : f.scale 1 + e.scale 0 = f := by
        ext <;> simp [Vec3.add_def, Vec3.scale_def]
      rwa [htangent, Vec3.scale_one] at own

/-- A tangent that leans toward the normal, and one that points against it. -/
theorem orthoNormalize_contract_leaning_opposite :
    (∃ normal tangent : Vec3 ℝ,
      orthoNormalize (⟨0, 0, 2⟩ : Vec3 ℝ).extend.toGrid (⟨0, 3, 1⟩ : Vec3 ℝ).extend.toGrid =
        ⟨[], .ok (normal.extend.toGrid, tangent.extend.toGrid)⟩ ∧
      normal.norm = 1 ∧ 0 < tangent.dot ⟨0, 3, 1⟩) ∧
    ∃ normal tangent : Vec3 Extended,
      orthoNormalize (⟨0, 0, 2⟩ : Vec3 ℝ).extend.toGrid (⟨0, 0, -1⟩ : Vec3 ℝ).extend.toGrid =
        ⟨[.parallelDirections], .ok (normal.toGrid, tangent.toGrid)⟩ := by
  constructor
  · have hleaning : ¬ ((⟨0, 0, 2⟩ : Vec3 ℝ) = 0 ∨ (⟨0, 3, 1⟩ : Vec3 ℝ) = 0 ∨
        Parallel ⟨0, 0, 2⟩ ⟨0, 3, 1⟩) := by
      rw [Vec3.parallel_iff_cross_eq_zero]
      simp [Vec3.zero_def, Vec3.cross]
    obtain ⟨normal, tangent, answer, hlength, -, -, -, hside, -⟩ :=
      (orthoNormalize_contract ⟨0, 0, 2⟩ ⟨0, 3, 1⟩).2.2 hleaning
    exact ⟨normal, tangent, answer, hlength, hside⟩
  · have hopposite : Parallel ⟨0, 0, 2⟩ ⟨0, 0, -1⟩ := by
      rw [Vec3.parallel_iff_cross_eq_zero]
      simp [Vec3.zero_def, Vec3.cross]
    obtain ⟨notices, normal, tangent, answer, -, hnotice⟩ :=
      (orthoNormalize_contract ⟨0, 0, 2⟩ ⟨0, 0, -1⟩).2.1
    rw [hnotice.mpr (Or.inr (Or.inr hopposite))] at answer
    exact ⟨normal, tangent, answer⟩

end Stack

end FlightAttitude
