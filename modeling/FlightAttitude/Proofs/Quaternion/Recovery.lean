/-
# FlightAttitude.Proofs.Quaternion.Recovery — from the matrix back to the quaternion

Over the reals, unit quaternions and rotation matrices determine each other up to the sign of the
quaternion, and `Quaternion.ofMatrix` finds the quaternion whichever of its four cases it takes.

The argument runs through the quaternion and not through the entries. The component that is chosen has
at least a quarter of the squared length (`one_le_pairing_greatest`), for every matrix whatever. For a
rotation a half turn about its axis moves this component into the place of the scalar part, where the
quaternion can be written down; so every rotation is the matrix of some unit quaternion
(`IsRotation.exists_toMatrix_eq`). On such a matrix each of the four cases gives the quaternion back
up to sign, provided the component it divides by is not zero (`caseOf_toMatrix`).
-/
import FlightAttitude.Proofs.Quaternion.Algebra

namespace FlightAttitude

namespace Quaternion

/-! ## §1 The sign -/

theorem withScalarNonneg_of_nonneg {q : Quaternion ℝ} (h : 0 ≤ q.w) : q.withScalarNonneg = q := by
  rw [withScalarNonneg, if_neg (not_lt.mpr h)]
  ext <;> simp only [scale_def, mul_one]

theorem withScalarNonneg_of_neg {q : Quaternion ℝ} (h : q.w < 0) : q.withScalarNonneg = -q := by
  rw [withScalarNonneg, if_pos h]
  ext <;> simp only [scale_def, neg_def, mul_neg, mul_one]

theorem withScalarNonneg_eq_or (q : Quaternion ℝ) :
    q.withScalarNonneg = q ∨ q.withScalarNonneg = -q := by
  rcases le_or_gt 0 q.w with h | h
  · exact Or.inl (withScalarNonneg_of_nonneg h)
  · exact Or.inr (withScalarNonneg_of_neg h)

theorem w_withScalarNonneg_nonneg (q : Quaternion ℝ) : 0 ≤ q.withScalarNonneg.w := by
  rcases le_or_gt 0 q.w with h | h
  · rwa [withScalarNonneg_of_nonneg h]
  · rw [withScalarNonneg_of_neg h]
    exact neg_nonneg.mpr h.le

/-- **`ofPart p`** — the half turn about the axis of `p`; for the scalar part, no turn. -/
def ofPart : Part → Quaternion ℝ
  | .x => ⟨1, 0, 0, 0⟩
  | .y => ⟨0, 1, 0, 0⟩
  | .z => ⟨0, 0, 1, 0⟩
  | .w => ⟨0, 0, 0, 1⟩

theorem normSq_ofPart (p : Part) : (ofPart p).normSq = 1 := by
  cases p <;> simp [ofPart, normSq_eq]

end Quaternion

namespace Mat3

/-! ## §2 The choice of the case -/

/-- **`rank m p`** — the number by which the component `p` competes. -/
def rank (m : Mat3 ℝ) : Quaternion.Part → ℝ
  | .x => m.xx
  | .y => m.yy
  | .z => m.zz
  | .w => m.trace

theorem trace_eq (m : Mat3 ℝ) : m.trace = m.xx + m.yy + m.zz := by
  rw [trace, zero_add]

theorem rank_le_greatest (m : Mat3 ℝ) (p : Quaternion.Part) : m.rank p ≤ m.rank m.greatest := by
  simp only [greatest, exceeds_iff]
  split_ifs <;> cases p <;> simp only [rank] at * <;> linarith

/-- The ranks order the components as the diagonal of the table does. -/
theorem pairing_self_eq (m : Mat3 ℝ) (p : Quaternion.Part) :
    m.pairing p p = 1 + 2 * m.rank p - m.trace := by
  rw [trace_eq]
  cases p <;> simp only [pairing, rank, trace_eq] <;> ring

/-- **The chosen component is a large one.** It has at least the average of the four. -/
theorem one_le_pairing_greatest (m : Mat3 ℝ) : 1 ≤ m.pairing m.greatest m.greatest := by
  have hle (p : Quaternion.Part) : m.pairing p p ≤ m.pairing m.greatest m.greatest := by
    rw [pairing_self_eq, pairing_self_eq]
    linarith [m.rank_le_greatest p]
  linarith [m.sum_pairing, hle .x, hle .y, hle .z, hle .w]

/-! ## §3 Every rotation comes from a unit quaternion -/

/-- **`axial m`** — the column of the scalar part in the table of products: up to a factor the
quaternion of `m`, unless that factor is zero. -/
def axial (m : Mat3 ℝ) : Quaternion ℝ :=
  ⟨m.pairing .x .w, m.pairing .y .w, m.pairing .z .w, m.pairing .w .w⟩

theorem IsRotation.normSq_axial {m : Mat3 ℝ} (h : m.IsRotation) :
    m.axial.normSq = 4 * m.pairing .w .w := by
  obtain ⟨⟨hx, hy, hz⟩, -⟩ := h.columns
  obtain ⟨⟨cxx, -, -⟩, ⟨-, cyy, -⟩, -, -, czz⟩ := h.cofactors
  simp only [Quaternion.normSq_eq, axial, pairing]
  linear_combination hx + hy + hz - 2 * cxx - 2 * cyy - 2 * czz

theorem IsRotation.toMatrix_axial {m : Mat3 ℝ} (h : m.IsRotation) :
    m.axial.toMatrix = m.scale (4 * m.pairing .w .w) := by
  obtain ⟨⟨hx, hy, hz⟩, hxy, hxz, hyz⟩ := h.columns
  obtain ⟨⟨rx, ry, -⟩, rxy, rxz, ryz⟩ := h.rows
  obtain ⟨⟨cxx, cxy, cxz⟩, ⟨cyx, cyy, cyz⟩, czx, czy, czz⟩ := h.cofactors
  ext <;> simp only [Quaternion.toMatrix_eq, axial, pairing, scale]
  case xx => linear_combination -hx + hy + hz - 2 * rx - 2 * cxx + 2 * cyy + 2 * czz
  case yy => linear_combination hx - hy + hz - 2 * ry + 2 * cxx - 2 * cyy + 2 * czz
  case zz =>
    linear_combination -hx - hy - 3 * hz + 2 * rx + 2 * ry + 2 * cxx + 2 * cyy - 2 * czz
  case xy | yx => linear_combination -2 * hxy - 2 * rxy - 2 * cxy - 2 * cyx
  case xz | zx => linear_combination -2 * hxz - 2 * rxz - 2 * cxz - 2 * czx
  case yz | zy => linear_combination -2 * hyz - 2 * ryz - 2 * cyz - 2 * czy

/-- Where the scalar part has a share at all, the axial quaternion is brought to length one. -/
theorem IsRotation.exists_toMatrix_eq_of_pairing_pos {m : Mat3 ℝ} (h : m.IsRotation)
    (hw : 0 < m.pairing .w .w) : ∃ q : Quaternion ℝ, q.normSq = 1 ∧ q.toMatrix = m := by
  have hscale : (1 / (2 * Real.sqrt (m.pairing .w .w))) ^ 2 = 1 / (4 * m.pairing .w .w) := by
    rw [div_pow, mul_pow, Real.sq_sqrt hw.le]
    norm_num
  refine ⟨m.axial.scale (1 / (2 * Real.sqrt (m.pairing .w .w))), ?_, ?_⟩
  · rw [Quaternion.normSq_scale, h.normSq_axial, hscale]
    field_simp
  · rw [Quaternion.toMatrix_scale, h.toMatrix_axial, hscale]
    ext <;> simp only [scale] <;> field_simp

/-- A half turn moves the component of its axis into the place of the scalar part. -/
theorem pairing_ofPart_mul (m : Mat3 ℝ) (p : Quaternion.Part) :
    ((Quaternion.ofPart p).toMatrix * m).pairing .w .w = m.pairing p p := by
  cases p <;>
    simp only [Quaternion.ofPart, Quaternion.toMatrix_eq, pairing, mul_def, mul] <;> ring

/-- **Every rotation is the matrix of a unit quaternion.** -/
theorem IsRotation.exists_toMatrix_eq {m : Mat3 ℝ} (h : m.IsRotation) :
    ∃ q : Quaternion ℝ, q.normSq = 1 ∧ q.toMatrix = m := by
  have hp := Quaternion.normSq_ofPart m.greatest
  have hturn := Quaternion.toMatrix_isRotation hp
  obtain ⟨q, hq, hqm⟩ := (hturn.mul h).exists_toMatrix_eq_of_pairing_pos (by
    rw [pairing_ofPart_mul]
    linarith [m.one_le_pairing_greatest])
  -- the half turn is taken off again
  refine ⟨(Quaternion.ofPart m.greatest).inverse * q, ?_, ?_⟩
  · rw [Quaternion.normSq_mul, Quaternion.normSq_inverse, hp, hq, one_mul]
  · rw [Quaternion.toMatrix_mul, Quaternion.toMatrix_inverse, hqm, ← mul_assoc,
      hturn.transpose_mul_self, one_mul]

/-! ## §4 The four cases -/

/-- The sizes that a case starts from: half the square roots of the diagonal of the table. -/
theorem part_sizes (m : Mat3 ℝ) (p : Quaternion.Part) :
    m.sizes.part p = 1 / 2 * Real.sqrt (m.pairing p p) := by
  have hmax (t : ℝ) : Real.sqrt (max t 0) = Real.sqrt t := by
    rcases le_total 0 t with ht | ht
    · rw [max_eq_left ht]
    · rw [max_eq_right ht, Real.sqrt_zero, Real.sqrt_eq_zero_of_nonpos ht]
  rw [pairing_self_eq]
  cases p <;>
    simp only [Quaternion.part, sizes, squares, Quaternion.map, atLeastZero_eq_max, hmax, two_eq,
      sqrt_eq, rank]
  case w => rw [show 1 + 2 * m.trace - m.trace = 1 + m.trace by ring]

/-- **One rule for the four cases.** The component itself is its size; the others are entries of its
row in the table, divided by four times that size. -/
theorem part_caseOf (m : Mat3 ℝ) (p r : Quaternion.Part) :
    (m.caseOf p).part r =
      if r = p then m.sizes.part p else m.pairing p r * (1 / 4 / m.sizes.part p) := by
  cases p <;> cases r <;> simp [caseOf, Quaternion.part, pairing]

/-- On the matrix of a unit quaternion the sizes are the absolute values of its components. -/
theorem part_sizes_toMatrix {q : Quaternion ℝ} (hq : q.normSq = 1) (p : Quaternion.Part) :
    q.toMatrix.sizes.part p = |q.part p| := by
  have hsq : 4 * (q.part p * q.part p) = (2 * q.part p) ^ 2 := by ring
  rw [part_sizes, pairing_toMatrix hq, hsq, Real.sqrt_sq_eq_abs, abs_mul, abs_two]
  ring

/-- **Each case finds the quaternion** whose component it starts from is positive. -/
theorem caseOf_toMatrix_of_pos {q : Quaternion ℝ} (hq : q.normSq = 1) {p : Quaternion.Part}
    (hp : 0 < q.part p) : q.toMatrix.caseOf p = q := by
  refine Quaternion.ext_part fun r => ?_
  rw [part_caseOf, part_sizes_toMatrix hq, abs_of_pos hp, pairing_toMatrix hq]
  split_ifs with hr
  · rw [hr]
  · field_simp

theorem caseOf_toMatrix {q : Quaternion ℝ} (hq : q.normSq = 1) {p : Quaternion.Part}
    (hp : q.part p ≠ 0) : q.toMatrix.caseOf p = q ∨ q.toMatrix.caseOf p = -q := by
  rcases lt_or_gt_of_ne hp with hneg | hpos
  · right
    rw [← Quaternion.toMatrix_neg]
    refine caseOf_toMatrix_of_pos (by rwa [Quaternion.normSq_neg]) ?_
    rwa [Quaternion.part_neg, neg_pos]
  · exact Or.inl (caseOf_toMatrix_of_pos hq hpos)

end Mat3

/-! ## §5 Mutually inverse up to sign -/

namespace Quaternion

theorem w_ofMatrix_nonneg (m : Mat3 ℝ) : 0 ≤ (ofMatrix m).w :=
  w_withScalarNonneg_nonneg _

/-- The chosen case never starts from a component that is zero. -/
theorem part_greatest_toMatrix_ne {q : Quaternion ℝ} (hq : q.normSq = 1) :
    q.part q.toMatrix.greatest ≠ 0 := by
  intro hzero
  have hone := q.toMatrix.one_le_pairing_greatest
  rw [Mat3.pairing_toMatrix hq, hzero] at hone
  norm_num at hone

theorem ofMatrix_toMatrix {q : Quaternion ℝ} (hq : q.normSq = 1) :
    ofMatrix q.toMatrix = q ∨ ofMatrix q.toMatrix = -q := by
  rw [ofMatrix]
  rcases Mat3.caseOf_toMatrix hq (part_greatest_toMatrix_ne hq) with h | h
  · rw [h]
    exact withScalarNonneg_eq_or q
  · rw [h]
    rcases withScalarNonneg_eq_or (-q) with h' | h'
    · exact Or.inr h'
    · exact Or.inl (by rw [h', neg_neg])

theorem ofMatrix_toMatrix_of_pos {q : Quaternion ℝ} (hq : q.normSq = 1) (hw : 0 < q.w) :
    ofMatrix q.toMatrix = q := by
  rcases ofMatrix_toMatrix hq with h | h
  · exact h
  · have hnonneg := w_ofMatrix_nonneg q.toMatrix
    rw [h, neg_def] at hnonneg
    exact absurd hnonneg (not_le.mpr (neg_lt_zero.mpr hw))

theorem normSq_ofMatrix {m : Mat3 ℝ} (h : m.IsRotation) : (ofMatrix m).normSq = 1 := by
  obtain ⟨q, hq, rfl⟩ := h.exists_toMatrix_eq
  rcases ofMatrix_toMatrix hq with h | h <;> rw [h]
  · exact hq
  · rwa [normSq_neg]

theorem toMatrix_ofMatrix {m : Mat3 ℝ} (h : m.IsRotation) : (ofMatrix m).toMatrix = m := by
  obtain ⟨q, hq, rfl⟩ := h.exists_toMatrix_eq
  rcases ofMatrix_toMatrix hq with h | h <;> rw [h]
  exact toMatrix_neg q

/-- **Matrices and unit quaternions correspond up to sign.** A rotation matrix comes back from its
quaternion, which has length one and no negative scalar part; a unit quaternion comes back from its
matrix up to sign, and exactly where its scalar part is positive. -/
theorem ofMatrix_toMatrix_correspondence :
    (∀ m : Mat3 ℝ, m.transpose * m = 1 → m.det = 1 →
      (ofMatrix m).norm = 1 ∧ 0 ≤ (ofMatrix m).w ∧ (ofMatrix m).toMatrix = m) ∧
    (∀ q : Quaternion ℝ, q.norm = 1 →
      (ofMatrix q.toMatrix = q ∨ ofMatrix q.toMatrix = -q) ∧
        (0 < q.w → ofMatrix q.toMatrix = q)) := by
  constructor
  · intro m horth hdet
    have h : m.IsRotation := ⟨horth, hdet⟩
    exact ⟨norm_eq_one_iff.mpr (normSq_ofMatrix h), w_ofMatrix_nonneg m, toMatrix_ofMatrix h⟩
  · intro q hq
    rw [norm_eq_one_iff] at hq
    exact ⟨ofMatrix_toMatrix hq, ofMatrix_toMatrix_of_pos hq⟩

/-- A half turn, where the scalar part is zero and two components tie, and a third of a turn. -/
theorem ofMatrix_toMatrix_correspondence_half_turn :
    (let m : Mat3 ℝ := ⟨0, 1, 0, 1, 0, 0, 0, 0, -1⟩
     m.IsRotation ∧ (ofMatrix m).norm = 1 ∧ 0 ≤ (ofMatrix m).w ∧ (ofMatrix m).toMatrix = m) ∧
    (let q : Quaternion ℝ := ⟨1 / 2, -1 / 2, 1 / 2, 1 / 2⟩
     q.norm = 1 ∧ ofMatrix q.toMatrix = q) := by
  constructor
  · intro m
    have horth : m.transpose * m = 1 := by
      rw [Mat3.mul_def, Mat3.one_def]
      norm_num [m, Mat3.transpose, Mat3.mul]
    have hdet : m.det = 1 := by norm_num [m, Mat3.det]
    exact ⟨⟨horth, hdet⟩, ofMatrix_toMatrix_correspondence.1 m horth hdet⟩
  · intro q
    have hq : q.norm = 1 := norm_eq_one_iff.mpr (by rw [normSq_eq]; norm_num [q])
    exact ⟨hq, (ofMatrix_toMatrix_correspondence.2 q hq).2 (by norm_num [q])⟩

end Quaternion

end FlightAttitude
