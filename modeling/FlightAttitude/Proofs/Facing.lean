/-
# FlightAttitude.Proofs.Facing — the orientation that faces a direction

A unit quaternion turns the local axes into an orthonormal, right handed basis; `facingBasis` finds
that basis again from any two vectors that span it (`facingBasis_of_rotation`), and the robust way
turns it back into the quaternion. Since every two vectors that are not parallel span such a basis,
the robust way answers every such pair with a unit quaternion that turns the local z axis into the
forward direction and the local y axis into the direction of `up` at right angles to it.
-/
import FlightAttitude.Facing
import FlightAttitude.Proofs.Quaternion.Recovery
import FlightAttitude.Proofs.Vec3.GramSchmidt

namespace FlightAttitude

/-- **`localForward`** — the local z axis. -/
def localForward : Vec3 ℝ := ⟨0, 0, 1⟩

/-- **`localUp`** — the local y axis. -/
def localUp : Vec3 ℝ := ⟨0, 1, 0⟩

/-! ## §1 Right handed bases -/

namespace Mat3

theorem apply_localForward (m : Mat3 ℝ) : m.apply localForward = ⟨m.xz, m.yz, m.zz⟩ := by
  ext <;> simp [apply, Vec3.ofComponents, row, Vec3.dot_eq, localForward]

theorem apply_localUp (m : Mat3 ℝ) : m.apply localUp = ⟨m.xy, m.yy, m.zy⟩ := by
  ext <;> simp [apply, Vec3.ofComponents, row, Vec3.dot_eq, localUp]

theorem IsRotation.orthonormalPair {m : Mat3 ℝ} (h : m.IsRotation) :
    Vec3.OrthonormalPair (m.apply localForward) (m.apply localUp) := by
  obtain ⟨⟨-, hy, hz⟩, -, -, hyz⟩ := h.columns
  rw [apply_localForward, apply_localUp]
  constructor <;> simpa only [Vec3.dot_eq]

/-- The first column of a rotation is the cross product of the other two, in this order. -/
theorem IsRotation.ofColumns_eq {m : Mat3 ℝ} (h : m.IsRotation) :
    ofColumns ((m.apply localUp).cross (m.apply localForward)) (m.apply localUp)
      (m.apply localForward) = m := by
  obtain ⟨⟨hxx, -, -⟩, ⟨hyx, -, -⟩, hzx, -, -⟩ := h.cofactors
  rw [apply_localForward, apply_localUp]
  ext <;> simp only [ofColumns, Vec3.cross]
  case xx => linear_combination -hxx
  case yx => linear_combination -hyx
  case zx => linear_combination -hzx

theorem ofColumns_isRotation {n t : Vec3 ℝ} (h : Vec3.OrthonormalPair n t) :
    (ofColumns (t.cross n) t n).IsRotation := by
  obtain ⟨hn, ht, htn⟩ := h
  simp only [Vec3.dot_eq] at hn ht htn
  have hcross : (t.cross n).dot (t.cross n) = 1 := by
    rw [Vec3.dot_cross_self, Vec3.dot_eq, Vec3.dot_eq, Vec3.dot_eq, hn, ht, htn]
    norm_num
  simp only [Vec3.dot_eq, Vec3.cross] at hcross
  constructor
  · ext <;> simp only [ofColumns, Vec3.cross, transpose, mul_def, mul, one_def]
    case xx => linear_combination hcross
    case yy => linear_combination ht
    case zz => linear_combination hn
    case yz | zy => linear_combination htn
    all_goals ring
  · simp only [ofColumns, Vec3.cross, det]
    linear_combination hcross

end Mat3

/-! ## §2 The basis of two directions -/

theorem facingBasis_of_pair {n t : Vec3 ℝ} (h : Vec3.OrthonormalPair n t) {a b : ℝ} (ha : 0 < a)
    (hb : 0 < b) (c : ℝ) :
    facingBasis (n.scale a) (t.scale b + n.scale c) = .ofColumns (t.cross n) t n := by
  rw [facingBasis, Vec3.orthoNormalize_of_pair h ha hb]

/-- **The basis is found again.** -/
theorem facingBasis_of_rotation {m : Mat3 ℝ} (h : m.IsRotation) {a b : ℝ} (ha : 0 < a)
    (hb : 0 < b) (c : ℝ) :
    facingBasis ((m.apply localForward).scale a)
      ((m.apply localUp).scale b + (m.apply localForward).scale c) = m := by
  rw [facingBasis_of_pair h.orthonormalPair ha hb, h.ofColumns_eq]

theorem facing_robust_eq (forward up : Vec3 ℝ) :
    Quaternion.facing true forward up = .ofMatrix (facingBasis forward up) := rfl

/-! ## §3 The robust way -/

namespace Quaternion

/-- Whatever two vectors the axes of `q` span, the robust way answers `q` up to sign. -/
theorem facing_of_quaternion {q : Quaternion ℝ} (hq : q.normSq = 1) {a b : ℝ} (ha : 0 < a)
    (hb : 0 < b) (c : ℝ) :
    facing true ((q.rotate localForward).scale a)
      ((q.rotate localUp).scale b + (q.rotate localForward).scale c) = .ofMatrix q.toMatrix := by
  rw [facing_robust_eq, rotate, rotate,
    facingBasis_of_rotation (toMatrix_isRotation hq) ha hb]

/-- Every two directions that are not parallel are spanned by the axes of a unit quaternion. -/
theorem exists_span_of_not_parallel {f u : Vec3 ℝ} (h : ¬ Vec3.Parallel f u) :
    ∃ q : Quaternion ℝ, q.normSq = 1 ∧ q.rotate localForward = f.unit ∧
      q.rotate localUp = (u.reject f.unit).unit ∧
      ∃ a b c : ℝ, 0 < a ∧ 0 < b ∧ f = (q.rotate localForward).scale a ∧
        u = (q.rotate localUp).scale b + (q.rotate localForward).scale c := by
  obtain ⟨n, t, hpair, hn, ht, hspan⟩ := Vec3.exists_pair_of_not_parallel h
  obtain ⟨q, hq, hqm⟩ := (Mat3.ofColumns_isRotation hpair).exists_toMatrix_eq
  have hforward : q.rotate localForward = n := by
    rw [rotate, hqm, Mat3.apply_localForward]
    rfl
  have hup : q.rotate localUp = t := by
    rw [rotate, hqm, Mat3.apply_localUp]
    rfl
  refine ⟨q, hq, ?_⟩
  rw [hforward, hup]
  exact ⟨hn, ht, hspan⟩

/-- **The robust way**, from the quaternion and from the directions. Given directions that the axes of
a unit quaternion span, it answers that quaternion with the sign that leaves no negative scalar part.
Every two directions that are not parallel are of this kind; so the answer has length one, turns the
local axes as it should, and depends neither on the lengths nor on the part of `u` along `f`. -/
theorem facing_recovers_span :
    (∀ (q : Quaternion ℝ) (a b c : ℝ), q.norm = 1 → 0 < a → 0 < b →
      let Q := facing true ((q.rotate localForward).scale a)
        ((q.rotate localUp).scale b + (q.rotate localForward).scale c)
      (Q = q ∨ Q = -q) ∧ 0 ≤ Q.w) ∧
    (∀ f u : Vec3 ℝ, ¬ Vec3.Parallel f u →
      (∃ (q : Quaternion ℝ) (a b c : ℝ), q.norm = 1 ∧ 0 < a ∧ 0 < b ∧
        f = (q.rotate localForward).scale a ∧
        u = (q.rotate localUp).scale b + (q.rotate localForward).scale c) ∧
      (facing true f u).norm = 1 ∧
      (facing true f u).rotate localForward = f.unit ∧
      (facing true f u).rotate localUp = (u - f.scale (u.dot f / f.dot f)).unit ∧
      ∀ a b c : ℝ, 0 < a → 0 < b →
        facing true (f.scale a) (u.scale b + f.scale c) = facing true f u) := by
  constructor
  · intro q a b c hq ha hb
    rw [norm_eq_one_iff] at hq
    simp only [facing_of_quaternion hq ha hb]
    exact ⟨ofMatrix_toMatrix hq, w_ofMatrix_nonneg _⟩
  · intro f u h
    obtain ⟨q, hq, hforward, hup, a, b, c, ha, hb, hf, hu⟩ := exists_span_of_not_parallel h
    have hrotation := toMatrix_isRotation hq
    have hfacing : facing true f u = ofMatrix q.toMatrix := by
      conv_lhs => rw [hf, hu]
      exact facing_of_quaternion hq ha hb c
    refine ⟨⟨q, a, b, c, norm_eq_one_iff.mpr hq, ha, hb, hf, hu⟩, ?_, ?_, ?_, ?_⟩
    · rw [hfacing, norm_eq_one_iff, normSq_ofMatrix hrotation]
    · rw [hfacing, rotate, toMatrix_ofMatrix hrotation, ← hforward, rotate]
    · rw [hfacing, rotate, toMatrix_ofMatrix hrotation,
        ← Vec3.reject_unit (Vec3.ne_zero_of_not_parallel h), ← hup, rotate]
    · intro k l m hk hl
      -- the scaled directions are spanned by the same axes
      have hspan : u.scale l + f.scale m =
          (q.rotate localUp).scale (b * l) + (q.rotate localForward).scale (c * l + a * m) := by
        rw [hf, hu]
        ext <;> simp only [Vec3.add_def, Vec3.scale_def] <;> ring
      rw [hfacing, hspan, hf, Vec3.scale_scale]
      exact facing_of_quaternion hq (mul_pos ha hk) (mul_pos hb hl) _

/-- A third of a turn found again, and two directions at half a right angle. -/
theorem facing_recovers_span_diagonal :
    (let q : Quaternion ℝ := ⟨1 / 2, 1 / 2, 1 / 2, 1 / 2⟩
     let Q := facing true ((q.rotate localForward).scale 2)
       ((q.rotate localUp).scale 3 + (q.rotate localForward).scale (-1))
     q.norm = 1 ∧ (Q = q ∨ Q = -q) ∧ 0 ≤ Q.w) ∧
    (let f : Vec3 ℝ := ⟨1, 0, 0⟩
     let u : Vec3 ℝ := ⟨1, 1, 0⟩
     ¬ Vec3.Parallel f u ∧ (facing true f u).norm = 1 ∧
       (facing true f u).rotate localForward = f.unit ∧
       (facing true f u).rotate localUp = (u - f.scale (u.dot f / f.dot f)).unit) := by
  constructor
  · intro q Q
    have hq : q.norm = 1 := norm_eq_one_iff.mpr (by rw [normSq_eq]; norm_num [q])
    exact ⟨hq, facing_recovers_span.1 q 2 3 (-1) hq (by norm_num) (by norm_num)⟩
  · intro f u
    have h : ¬ Vec3.Parallel f u := by
      rw [Vec3.parallel_iff_cross_eq_zero]
      simp [f, u, Vec3.cross, Vec3.zero_def]
    obtain ⟨-, hnorm, hforward, hup, -⟩ := facing_recovers_span.2 f u h
    exact ⟨h, hnorm, hforward, hup⟩

end Quaternion

end FlightAttitude
