/-
# FlightAttitude.Proofs.Quaternion.Choice — no division by zero in the case that is chosen

Each of the four cases divides by the size of its own component, and that size may be zero. The choice
looks at other numbers, the diagonal entries and the trace; but these order the components as their
squares do, and the four squares always sum to four. So the chosen one is at least one, its size at
least a half, and the bound at zero does nothing to it. None of this asks for a rotation.

Over `Extended` numbers, where a division by zero shows, the quaternion of a real matrix therefore has
the components that it has over the reals (`ofMatrix_extend`), whatever the matrix
(`ofMatrices_every_matrix`).
-/
import FlightAttitude.Proofs.Quaternion.Recovery
import FlightAttitude.Proofs.Scalar.Extended
import FlightAttitude.Proofs.Stack.Matrices

namespace FlightAttitude

open Extended (finite)

universe u

/-- **`Quaternion.extend q`** — the quaternion `q` with extended numbers for its components. -/
noncomputable def Quaternion.extend (q : Quaternion ℝ) : Quaternion Extended := q.map finite

namespace Mat3

/-! ## §1 The four squares -/

/-- **`rawSquares m`** — four times the square of each component, without the bound at zero. -/
noncomputable def rawSquares (m : Mat3 ℝ) : Quaternion ℝ :=
  ⟨1 + two * m.xx - m.trace, 1 + two * m.yy - m.trace, 1 + two * m.zz - m.trace, 1 + m.trace⟩

theorem squares_eq (m : Mat3 ℝ) : m.squares = m.rawSquares.map (max · 0) := by
  ext <;> simp only [squares, rawSquares, Quaternion.map, atLeastZero_eq_max]

theorem part_squares (m : Mat3 ℝ) (p : Quaternion.Part) :
    m.squares.part p = max (m.rawSquares.part p) 0 := by
  rw [squares_eq]
  cases p <;> rfl

theorem part_rawSquares (m : Mat3 ℝ) (p : Quaternion.Part) :
    m.rawSquares.part p = m.pairing p p := by
  rw [pairing_self_eq]
  cases p <;> simp only [rawSquares, Quaternion.part, rank, two_eq]
  case w => ring

theorem rawSquares_le_greatest (m : Mat3 ℝ) (p : Quaternion.Part) :
    m.rawSquares.part p ≤ m.rawSquares.part m.greatest := by
  rw [part_rawSquares, part_rawSquares, pairing_self_eq, pairing_self_eq]
  linarith [m.rank_le_greatest p]

theorem sum_rawSquares (m : Mat3 ℝ) :
    m.rawSquares.x + m.rawSquares.y + m.rawSquares.z + m.rawSquares.w = 4 := by
  simp only [rawSquares, trace_eq, two_eq]
  ring

theorem one_le_rawSquares_greatest (m : Mat3 ℝ) : 1 ≤ m.rawSquares.part m.greatest := by
  rw [part_rawSquares]
  exact m.one_le_pairing_greatest

/-- The bound at zero is idle where it would matter. -/
theorem part_squares_greatest (m : Mat3 ℝ) :
    m.squares.part m.greatest = m.rawSquares.part m.greatest := by
  rw [part_squares, max_eq_left]
  linarith [m.one_le_rawSquares_greatest]

theorem half_le_sizes_greatest (m : Mat3 ℝ) : 1 / 2 ≤ m.sizes.part m.greatest := by
  have hroot : 1 ≤ Real.sqrt (m.pairing m.greatest m.greatest) :=
    Real.one_le_sqrt.mpr m.one_le_pairing_greatest
  rw [part_sizes]
  linarith

/-! ## §2 The choice -/

/-- **`better best p x`** — the better of two candidates, the first of equals. -/
def better {α : Type u} [LE α] [DecidableLE α] (best : Quaternion.Part × α) (p : Quaternion.Part)
    (x : α) : Quaternion.Part × α :=
  if exceeds best.2 x then (p, x) else best

theorem greatest_eq {α : Type u} [Zero α] [Add α] [LE α] [DecidableLE α] (m : Mat3 α) :
    m.greatest =
      (better (better (better (.x, m.xx) .y m.yy) .z m.zz) .w m.trace).1 := rfl

theorem better_extend (best : Quaternion.Part × ℝ) (p : Quaternion.Part) (x : ℝ) :
    better (best.map id finite) p (finite x) = (better best p x).map id finite := by
  unfold better
  rw [Prod.map_snd, Extended.exceeds_finite]
  split_ifs <;> rfl

/-! ## §3 The steps over extended numbers -/

/-- **`extend m`** — the matrix `m` with extended numbers for its entries. -/
noncomputable def extend (m : Mat3 ℝ) : Mat3 Extended :=
  ⟨finite m.xx, finite m.xy, finite m.xz, finite m.yx, finite m.yy, finite m.yz, finite m.zx,
    finite m.zy, finite m.zz⟩

theorem trace_extend (m : Mat3 ℝ) : m.extend.trace = finite m.trace := rfl

theorem greatest_extend (m : Mat3 ℝ) : m.extend.greatest = m.greatest := by
  have start : (Quaternion.Part.x, m.extend.xx) = (Quaternion.Part.x, m.xx).map id finite := rfl
  rw [greatest_eq, greatest_eq, trace_extend, start]
  simp only [extend, better_extend]
  rfl

theorem squares_extend (m : Mat3 ℝ) : m.extend.squares = m.squares.extend := by
  unfold squares
  rw [trace_extend]
  ext <;> simp only [Quaternion.extend, Quaternion.map, extend, Extended.two_eq, two_eq,
    Extended.one_eq, Extended.finite_mul, Extended.finite_add, Extended.finite_sub,
    Extended.atLeastZero_finite]

/-- Roots are taken of what the bound at zero has passed, so all four sizes are finite. -/
theorem sizes_extend (m : Mat3 ℝ) : m.extend.sizes = m.sizes.extend := by
  have half : (1 / two : Extended) = finite (1 / 2) := by
    rw [Extended.two_eq, Extended.one_eq, Extended.finite_div two_ne_zero]
  have hsquares (p : Quaternion.Part) : 0 ≤ m.squares.part p := by
    rw [part_squares]
    exact le_max_right _ _
  have size (p : Quaternion.Part) :
      1 / two * sqrt (finite (m.squares.part p)) =
        finite (1 / two * sqrt (m.squares.part p)) := by
    rw [half, Extended.sqrt_finite (hsquares p), Extended.finite_mul, two_eq, sqrt_eq]
  unfold sizes
  rw [squares_extend]
  exact Quaternion.ext (size .x) (size .y) (size .z) (size .w)

/-- **A case is finite where its own component is not zero.** -/
theorem caseOf_extend {m : Mat3 ℝ} {p : Quaternion.Part} (h : m.sizes.part p ≠ 0) :
    m.extend.caseOf p = (m.caseOf p).extend := by
  have quarter : (1 / Nat.cast 4 : Extended) = finite (1 / Nat.cast 4) := by
    rw [Extended.natCast_eq, Extended.one_eq, Extended.finite_div (by norm_num)]
  unfold caseOf
  rw [sizes_extend]
  cases p <;>
    simp only [Quaternion.part] at h <;>
    simp only [Quaternion.extend, Quaternion.map, extend, quarter, Extended.finite_div h,
      Extended.finite_add, Extended.finite_sub, Extended.finite_mul]

end Mat3

namespace Quaternion

theorem withScalarNonneg_extend (q : Quaternion ℝ) :
    q.extend.withScalarNonneg = q.withScalarNonneg.extend := by
  have negative : q.extend.w < 0 ↔ q.w < 0 := Extended.finite_lt
  unfold withScalarNonneg
  by_cases h : q.w < 0
  · rw [if_pos (negative.mpr h), if_pos h]
    rfl
  · rw [if_neg (mt negative.mp h), if_neg h]
    rfl

/-- **The quaternion of a real matrix is finite**, whatever the matrix. -/
theorem ofMatrix_extend (m : Mat3 ℝ) : ofMatrix m.extend = (ofMatrix m).extend := by
  have hsize : 0 < m.sizes.part m.greatest := by
    linarith [m.half_le_sizes_greatest]
  unfold ofMatrix
  rw [Mat3.greatest_extend, Mat3.caseOf_extend hsize.ne', withScalarNonneg_extend]

/-! ## §4 Every matrix -/

/-- **No division by zero in the case that is chosen**, for every real matrix. The component that goes
with the greatest of the diagonal entries and the trace has the greatest square; the squares sum to
four; so the chosen one is left alone by the bound at zero and its size is at least a half. The choice
and the sizes are the same where a division by zero shows, all components of the answer are finite and
those of the real one, and the scalar part is not negative. -/
theorem ofMatrices_every_matrix (m : Mat3 ℝ) :
    (∀ p, m.rank p ≤ m.rank m.greatest) ∧
    (∀ p, m.rawSquares.part p ≤ m.rawSquares.part m.greatest) ∧
    m.rawSquares.x + m.rawSquares.y + m.rawSquares.z + m.rawSquares.w = 4 ∧
    m.squares.part m.greatest = m.rawSquares.part m.greatest ∧
    1 / 2 ≤ m.sizes.part m.greatest ∧
    (m.extend.greatest = m.greatest ∧ m.extend.sizes = m.sizes.extend) ∧
    Stack.ofMatrices m.extend.toGrid = .ok (ofMatrix m).extend.toGrid ∧ 0 ≤ (ofMatrix m).w := by
  refine ⟨m.rank_le_greatest, m.rawSquares_le_greatest, m.sum_rawSquares, m.part_squares_greatest,
    m.half_le_sizes_greatest, ⟨m.greatest_extend, m.sizes_extend⟩, ?_, w_ofMatrix_nonneg m⟩
  rw [Stack.ofMatrices_toGrid, ofMatrix_extend]

end Quaternion

end FlightAttitude
