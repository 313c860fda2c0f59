/-
# FlightAttitude.Proofs.Facing.ClosedForm — the short way against the robust way

The short way of facing a direction starts from the scalar part alone: it is the fourth of the four
cases that the robust way chooses from, taken without a choice (`Mat3.ofMatrixTrace_eq_caseOf`). Its
radicand is four times the square of the scalar part (`Mat3.IsRotation.pairing_scalar_eq`), so it is
never negative, vanishes at half turns and nowhere else (`Quaternion.isHalfTurn_toMatrix_iff`), and
wherever it is positive both ways give the one quaternion with positive scalar part, whichever case the
robust way takes.
-/
import FlightAttitude.Proofs.Facing
import FlightAttitude.Proofs.Stack.Directions

namespace FlightAttitude

/-! ## §1 Half turns -/

/-- **`IsHalfTurn m`** — twice the same turn is none, though the turn itself is one. -/
def Mat3.IsHalfTurn (m : Mat3 ℝ) : Prop :=
  m * m = 1 ∧ m ≠ 1

theorem Mat3.pairing_one_self (p : Quaternion.Part) :
    (1 : Mat3 ℝ).pairing p p = if p = .w then 4 else 0 := by
  rw [Mat3.one_def]
  cases p <;> simp [Mat3.pairing]
  case w => norm_num

namespace Quaternion

theorem toMatrix_of_vector_eq_zero {q : Quaternion ℝ} (hq : q.normSq = 1) (hx : q.x = 0)
    (hy : q.y = 0) (hz : q.z = 0) : q.toMatrix = 1 := by
  have hw : q.w ^ 2 = 1 := by simpa [normSq_eq, hx, hy, hz] using hq
  rw [toMatrix_eq, Mat3.one_def]
  ext <;> simp [hx, hy, hz, hw]

theorem toMatrix_ne_one {q : Quaternion ℝ} (hq : q.normSq = 1) (hw : q.w = 0) : q.toMatrix ≠ 1 := by
  intro hone
  have hpair := Mat3.pairing_toMatrix hq .w .w
  rw [hone, Mat3.pairing_one_self, if_pos rfl, part, hw] at hpair
  norm_num at hpair

/-- **Half turns are the rotations without a scalar part.** -/
theorem isHalfTurn_toMatrix_iff {q : Quaternion ℝ} (hq : q.normSq = 1) :
    q.toMatrix.IsHalfTurn ↔ q.w = 0 := by
  have hsquare : (q * q).normSq = 1 := by rw [normSq_mul, hq, one_mul]
  constructor
  · rintro ⟨htwice, hne⟩
    rw [← toMatrix_mul] at htwice
    by_contra hw
    -- the vector part of `q * q` is `2 w v`, and no turn at all has no vector part
    have hzero {p : Part} (hp : p ≠ .w) : (q * q).part p = 0 := by
      have hpair := Mat3.pairing_toMatrix hsquare p p
      rw [htwice, Mat3.pairing_one_self, if_neg hp] at hpair
      exact mul_self_eq_zero.mp (by linarith)
    have hx := @hzero .x (by decide)
    have hy := @hzero .y (by decide)
    have hz := @hzero .z (by decide)
    simp only [mul_eq, part] at hx hy hz
    refine hne (toMatrix_of_vector_eq_zero hq ?_ ?_ ?_) <;>
      refine (mul_eq_zero.mp ?_).resolve_left hw <;> linarith
  · intro hw
    refine ⟨?_, toMatrix_ne_one hq hw⟩
    rw [← toMatrix_mul]
    apply toMatrix_of_vector_eq_zero hsquare <;> simp only [mul_eq, hw] <;> ring

end Quaternion

/-! ## §2 The two ways from one matrix -/

namespace Mat3

/-- The short way is the case of the scalar part. Below zero both take the square root to be zero. -/
theorem ofMatrixTrace_eq_caseOf (m : Mat3 ℝ) : Quaternion.ofMatrixTrace m = m.caseOf .w := by
  refine Quaternion.ext_part fun r => ?_
  rw [part_caseOf, part_sizes]
  cases r <;> simp [Quaternion.ofMatrixTrace, Quaternion.part, pairing, mul_comm]

theorem IsRotation.pairing_scalar_eq {m : Mat3 ℝ} (h : m.IsRotation) :
    m.pairing .w .w = 4 * ((Quaternion.ofMatrix m).w * (Quaternion.ofMatrix m).w) := by
  have hpair := pairing_toMatrix (Quaternion.normSq_ofMatrix h) .w .w
  rwa [Quaternion.toMatrix_ofMatrix h] at hpair

/-- **Where there is a scalar part, both ways agree**, sign included. -/
theorem IsRotation.ofMatrixTrace_eq_ofMatrix {m : Mat3 ℝ} (h : m.IsRotation)
    (hpos : 0 < m.pairing .w .w) : Quaternion.ofMatrixTrace m = .ofMatrix m := by
  have hne : (Quaternion.ofMatrix m).w ≠ 0 := by
    intro hzero
    rw [h.pairing_scalar_eq, hzero] at hpos
    norm_num at hpos
  have hw : 0 < (Quaternion.ofMatrix m).w :=
    lt_of_le_of_ne (Quaternion.w_ofMatrix_nonneg m) hne.symm
  have hcase := caseOf_toMatrix_of_pos (Quaternion.normSq_ofMatrix h) (p := .w) hw
  rw [ofMatrixTrace_eq_caseOf]
  rwa [Quaternion.toMatrix_ofMatrix h] at hcase

end Mat3

/-! ## §3 The two ways of facing -/

theorem facingBasis_isRotation {f u : Vec3 ℝ} (h : ¬ Vec3.Parallel f u) :
    (facingBasis f u).IsRotation := by
  obtain ⟨n, t, hpair, -, -, a, b, c, ha, hb, rfl, rfl⟩ := Vec3.exists_pair_of_not_parallel h
  rw [facingBasis_of_pair hpair ha hb]
  exact Mat3.ofColumns_isRotation hpair

namespace Quaternion

/-- **The short way of facing agrees with the robust way.** For directions that are not parallel the
radicand is never negative; it is zero just where the robust way has no scalar part, that is at half
turns; and where it is positive, both ways give the same quaternion. Arrays of one forward and one up
direction run these functions. -/
theorem facing_closed_eq_robust {f u : Vec3 ℝ} (h : ¬ Vec3.Parallel f u) :
    (let forward := (Vec3.orthoNormalize f u).1
     let up := (Vec3.orthoNormalize f u).2
     let right := up.cross forward
     let radicand := 1 + right.x + up.y + forward.z
     0 ≤ radicand ∧
       (radicand = 0 ↔ (facing true f u).w = 0) ∧
       (radicand = 0 ↔ (facing true f u).toMatrix.IsHalfTurn) ∧
       (0 < radicand → facing false f u = facing true f u)) ∧
    ∀ (_ : Finiteness ℝ) (robust : Bool),
      (Stack.facing (.ok robust) f.toGrid u.toGrid).result = .ok (facing robust f u).toGrid := by
  refine ⟨?_, fun _ robust => Stack.facing_toGrid robust f u⟩
  intro forward up right radicand
  have hrot := facingBasis_isRotation h
  have hrobust : facing true f u = .ofMatrix (facingBasis f u) := rfl
  have hradicand : radicand = 4 * ((facing true f u).w * (facing true f u).w) :=
    hrot.pairing_scalar_eq
  have hzero : radicand = 0 ↔ (facing true f u).w = 0 := by
    rw [hradicand]
    simp
  refine ⟨?_, hzero, ?_, ?_⟩
  · rw [hradicand]
    exact mul_nonneg (by norm_num) (mul_self_nonneg _)
  · rw [hzero, hrobust, isHalfTurn_toMatrix_iff (normSq_ofMatrix hrot)]
  · intro hpos
    exact hrot.ofMatrixTrace_eq_ofMatrix hpos

/-- Facing along the x axis, where the robust way starts from the y component, and facing against the
z axis, which takes a half turn. -/
theorem facing_closed_eq_robust_quarter_half :
    (let f : Vec3 ℝ := ⟨2, 0, 0⟩
     let u : Vec3 ℝ := ⟨1, 3, 0⟩
     ¬ Vec3.Parallel f u ∧ facing false f u = facing true f u) ∧
    (let f : Vec3 ℝ := ⟨0, 0, -1⟩
     let u : Vec3 ℝ := ⟨0, 1, 0⟩
     ¬ Vec3.Parallel f u ∧ (facing true f u).w = 0) := by
  constructor
  · intro f u
    have h : ¬ Vec3.Parallel f u := by
      rw [Vec3.parallel_iff_cross_eq_zero]
      simp [f, u, Vec3.cross, Vec3.zero_def]
    have hpair : Vec3.OrthonormalPair ⟨1, 0, 0⟩ ⟨0, 1, 0⟩ := by
      constructor <;> norm_num [Vec3.dot_eq]
    have hortho : Vec3.orthoNormalize f u = (⟨1, 0, 0⟩, ⟨0, 1, 0⟩) := by
      have hspan := Vec3.orthoNormalize_of_pair hpair two_pos three_pos 1
      simpa [Vec3.scale_def, Vec3.add_def] using hspan
    obtain ⟨⟨-, -, -, hagree⟩, -⟩ := facing_closed_eq_robust h
    refine ⟨h, hagree ?_⟩
    rw [hortho]
    norm_num [Vec3.cross]
  · intro f u
    have h : ¬ Vec3.Parallel f u := by
      rw [Vec3.parallel_iff_cross_eq_zero]
      simp [f, u, Vec3.cross, Vec3.zero_def]
    have hpair : Vec3.OrthonormalPair f u := by
      constructor <;> norm_num [f, u, Vec3.dot_eq]
    have hortho : Vec3.orthoNormalize f u = (f, u) := by
      have hspan := Vec3.orthoNormalize_of_pair hpair one_pos one_pos 0
      simpa [f, u, Vec3.scale_def, Vec3.add_def] using hspan
    obtain ⟨⟨-, hzero, -⟩, -⟩ := facing_closed_eq_robust h
    refine ⟨h, hzero.mp ?_⟩
    rw [hortho]
    norm_num [f, u, Vec3.cross]

end Quaternion

end FlightAttitude
