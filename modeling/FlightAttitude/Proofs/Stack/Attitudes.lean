/-
# FlightAttitude.Proofs.Stack.Attitudes — angles and attitudes, column by column

Both branches at gimbal lock are computed for the whole array, and each angle is then taken from the
branch of its own matrix. So a matrix that is locked leaves the angles of all others as they are, and
they are those that `Mat3.eulerAngles` gives for each by itself (`eulerOf_matrices`). The flight
attitude chooses its branches in the same way (`attitudesOfEuler_vectors`).
-/
import FlightAttitude.Proofs.Stack.Matrices
import FlightAttitude.Stack.Attitudes

namespace FlightAttitude.Stack

variable {α : Type} {s : Shape}

/-! ## §1 Euler angles -/

section Angles

variable [NatCast α] [Zero α] [One α] [Add α] [Sub α] [Mul α] [Div α] [Neg α]
  [LT α] [DecidableLT α] [LE α] [DecidableLE α] [IntegerParts α] [Trigonometry α]

omit [NatCast α] [Zero α] [One α] [Add α] [Sub α] [Mul α] [Div α] [Neg α] [LT α] [DecidableLT α]
  [LE α] [DecidableLE α] [IntegerParts α] [Trigonometry α] in
theorem entries_matrices (m : Position s → Mat3 α) {i j : Nat} (hi : i < 3) (hj : j < 3) :
    Grid.entries i j ⟨s ++ [3, 3], .ofMatrices m⟩ =
      .ok ⟨s, .ofFn fun p => (m p).entry ⟨i, hi⟩ ⟨j, hj⟩⟩ := by
  rw [Grid.entries_append _ hi hj]
  refine congrArg (fun t => Except.ok (Grid.mk s t)) (Tensor.ext_get fun p => ?_)
  rw [Tensor.get_entries, Tensor.get_ofMatrices, Tensor.get_ofFn]

theorem eulerOf_matrices (m : Position s → Mat3 α) :
    eulerOf ⟨s ++ [3, 3], .ofMatrices m⟩ =
      .ok ⟨3 :: s, .ofVectors fun p => (m p).eulerAngles.toVec3⟩ := by
  unfold eulerOf
  simp (disch := decide) only [Fault.ok_bind, entries_matrices m, Grid.map_ofFn,
    Grid.zipWith_same, Grid.select_scalar, Grid.select_same, Tensor.get_ofFn]
  rw [Grid.stack_vectors]
  show Except.ok _ = _
  rw [Grid.map_ofVectors, Grid.map_ofVectors]
  refine congrArg (fun t => Except.ok (Grid.mk (3 :: s) (.ofVectors t))) (funext fun p => ?_)
  -- one test for each of the three angles, or one test for all of them
  by_cases locked : 1 - gimbalLockTolerance ≤ magnitude (m p).middleSine
  · have branch : (m p).eulerRadians = ⟨0, _, _⟩ := if_pos locked
    rw [Mat3.eulerAngles, branch]
    simp only [Mat3.middleSine] at locked
    simp only [Mat3.entry, Mat3.row, Vec3.component, locked, decide_true, if_true]
    rfl
  · have branch : (m p).eulerRadians = ⟨arctan2 (m p).xz (m p).xx, _, _⟩ := if_neg locked
    rw [Mat3.eulerAngles, branch]
    simp only [Mat3.middleSine] at locked
    simp only [Mat3.entry, Mat3.row, Vec3.component, locked, decide_false, Bool.false_eq_true, if_false]
    rfl

theorem eulerAngles_columns (few : s.length + 2 ≤ maxAxes) (q : Tensor α (4 :: s)) :
    eulerAngles (.order .yzx) (.ok ⟨4 :: s, q⟩) =
      .ok ⟨3 :: s, .ofVectors fun p => (q.column p).eulerAngles.toVec3⟩ := by
  show (toMatrices (.ok ⟨4 :: s, q⟩)).bind eulerOf = _
  rw [toMatrices_columns few, Except.bind, eulerOf_matrices]
  rfl

theorem eulerAngles_toGrid (q : Quaternion α) :
    eulerAngles (.order .yzx) q.toGrid = .ok q.eulerAngles.toVec3.toGrid := by
  have one := eulerAngles_columns (s := []) (by decide) (.ofColumns fun _ => q)
  simp only [Tensor.column_ofColumns] at one
  exact one

/-- Of a quaternion the angles read its matrix only, in whatever order they are asked for. -/
theorem eulerAngles_congr {p q : Quaternion α} (h : p.toMatrix = q.toMatrix) (order : Datum) :
    eulerAngles order (.ok p.toGrid) = eulerAngles order (.ok q.toGrid) := by
  unfold eulerAngles
  rw [toMatrices_toGrid, toMatrices_toGrid, h]

end Angles

/-! ## §2 Flight attitudes -/

/-- Stacked Euler angles, read position by position. -/
theorem attitudesOfEuler_vectors [NatCast α] [Sub α] [Neg α] [LT α] [DecidableLT α] [LE α]
    [DecidableLE α] (e : Position s → EulerAngles α) :
    attitudesOfEuler (.ok ⟨3 :: s, .ofVectors fun p => (e p).toVec3⟩) =
      .ok (attitudeParts ⟨s, .ofFn fun p => (e p).attitude⟩) := by
  unfold attitudesOfEuler
  simp only [Fault.ok_bind, Tensor.row_ofVectors, Grid.map_ofFn, Grid.select_same,
    Tensor.get_ofFn, decide_eq_true_eq]
  simp only [attitudeParts, Grid.map_ofFn]
  rfl

/-- Stacked Euler angles are read one by one, whatever the shape of the stack. -/
theorem attitudesOfEuler_stack [NatCast α] [Sub α] [Neg α] [LT α] [DecidableLT α] [LE α]
    [DecidableLE α] (es : Grid (EulerAngles α)) :
    attitudesOfEuler (.ok (.ofVectors (es.map EulerAngles.toVec3))) =
      .ok (attitudeParts (es.map EulerAngles.attitude)) := by
  obtain ⟨s, e⟩ := es
  rw [← Tensor.ofFn_get e, Grid.map_ofFn, Grid.map_ofFn, Grid.ofVectors_ofFn]
  exact attitudesOfEuler_vectors e.get

section Attitudes

variable [NatCast α] [Zero α] [One α] [Add α] [Sub α] [Mul α] [Div α] [Neg α]
  [LT α] [DecidableLT α] [LE α] [DecidableLE α] [IntegerParts α] [Trigonometry α]

theorem attitudes_columns (few : s.length + 2 ≤ maxAxes) (q : Tensor α (4 :: s)) :
    attitudes (.ok ⟨4 :: s, q⟩) =
      .ok (attitudeParts ⟨s, .ofFn fun p => (q.column p).attitude⟩) := by
  rw [attitudes, eulerAngles_columns few]
  exact attitudesOfEuler_vectors fun p => (q.column p).eulerAngles

theorem attitudes_toGrid (q : Quaternion α) :
    attitudes q.toGrid = .ok (attitudeParts (.scalar q.attitude)) := by
  have one := attitudes_columns (s := []) (by decide) (.ofColumns fun _ => q)
  simp only [Tensor.column_ofColumns] at one
  exact one

end Attitudes

end FlightAttitude.Stack
