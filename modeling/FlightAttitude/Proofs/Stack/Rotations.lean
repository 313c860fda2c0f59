/-
# FlightAttitude.Proofs.Stack.Rotations — rotations, column by column

The axis along which a stack is stacked stands last in a stack of quaternions or vectors and first in a
stack of matrices. Vectors are turned each by the quaternion in its column (`rotate_columns`) or all by
one (`rotate_vectors`): the columns of the vectors have to be told apart from their components before
the rows of the matrices are multiplied with them.

Together with the conversions this covers every way that a rotation takes from one form to another. The
formulas of one member are those of `Quaternion` and `Mat3`, over every number type; so each member has
its own case of the conversion from a matrix, its own sign and its own branch at gimbal lock
(`rotations_columnwise`).
-/
import FlightAttitude.Proofs.Stack.Attitudes

namespace FlightAttitude.Stack

variable {α : Type} {s : Shape} {n : Nat}

/-! ## §1 Turned vectors -/

/-- Rows times columns, written as an array, is each matrix applied to the vector in its column. -/
theorem ofFn_rowTimes [Zero α] [Add α] [Mul α] (m : Position s → Mat3 α) (v : Tensor α (3 :: s)) :
    (Tensor.ofFn fun (i, p) => rowTimes (m p) i fun j => v.get (j, p) : Tensor α (3 :: s)) =
      .ofVectors fun p => (m p).apply (v.vector p) := by
  rw [← Tensor.ofVectors_ofComponents]
  rfl

section Turned

variable [NatCast α] [Zero α] [One α] [Add α] [Sub α] [Mul α] [Neg α]

theorem rotate_columns (q : Tensor α [4, n]) (v : Tensor α [3, n]) :
    rotate (.ok ⟨[4, n], q⟩) (.ok ⟨[3, n], v⟩) =
      .ok ⟨[3, n], .ofVectors fun p => (q.column p).rotate (v.vector p)⟩ := by
  have axes : [n].length + 2 ≤ maxAxes := Nat.le_of_ble_eq_true rfl
  unfold rotate
  rw [matricesOf_columns axes]
  show turnColumns (.ofFn fun p => (q.column p).toMatrix) ⟨[3, n], v⟩ = _
  -- both axes of the vectors are as long as the matrices ask for, so nothing is stretched
  unfold turnColumns
  simp only [Shape.reading?_self, Shape.join_self, Tensor.get_ofFn]
  exact congrArg (fun t => Except.ok (Grid.mk [3, n] t))
    (ofFn_rowTimes (fun p => (q.column p).toMatrix) v)

/-- One vector. -/
theorem rotate_toGrid (q : Quaternion α) (v : Vec3 α) :
    rotate q.toGrid v.toGrid = .ok (q.rotate v).toGrid := by
  unfold rotate
  rw [matricesOf_toGrid]
  rfl

/-- All vectors of a stack, by one quaternion. -/
theorem rotate_vectors (q : Quaternion α) (v : Tensor α [3, n]) :
    rotate q.toGrid (.ok ⟨[3, n], v⟩) =
      .ok ⟨[3, n], .ofVectors fun p => q.rotate (v.vector p)⟩ := by
  unfold rotate
  rw [matricesOf_toGrid]
  show Except.ok (Grid.mk [3, n] (.ofFn fun (i, p) => rowTimes q.toMatrix i fun j => v.get (j, p))) = _
  rw [ofFn_rowTimes (fun _ => q.toMatrix) v]
  rfl

end Turned

/-! ## §2 Column by column -/

/-- **Rotations are treated column by column**, however many there are and whatever the other columns
hold. Each matrix, each triple of Euler angles, each flight attitude, each quaternion that is made of a
matrix and each turned vector of a stack is what the one member gives alone; and one quaternion turns
each vector of a stack as it turns that vector alone. -/
theorem rotations_columnwise [NatCast α] [Zero α] [One α] [Add α] [Sub α] [Mul α] [Div α] [Neg α]
    [LT α] [DecidableLT α] [LE α] [DecidableLE α] [SquareRoot α] [IntegerParts α] [Trigonometry α]
    (n : Nat) (q : Tensor α [4, n]) (m : Tensor α [n, 3, 3]) (v : Tensor α [3, n]) :
    (∃ r : Tensor α [n, 3, 3], toMatrices (.ok ⟨[4, n], q⟩) = .ok ⟨[n, 3, 3], r⟩ ∧
      ∀ k, toMatrices (q.column k).toGrid = .ok (Tensor.matrix (s := [n]) r k).toGrid) ∧
    (∃ e : Tensor α [3, n], eulerAngles (.order .yzx) (.ok ⟨[4, n], q⟩) = .ok ⟨[3, n], e⟩ ∧
      ∀ k, eulerAngles (.order .yzx) (q.column k).toGrid = .ok (e.vector k).toGrid) ∧
    (∃ pitch heading roll : Tensor α [n],
      attitudes (.ok ⟨[4, n], q⟩) = .ok ⟨⟨[n], pitch⟩, ⟨[n], heading⟩, ⟨[n], roll⟩⟩ ∧
      ∀ k, attitudes (q.column k).toGrid =
        .ok ⟨.scalar (pitch.get k), .scalar (heading.get k), .scalar (roll.get k)⟩) ∧
    (∃ r : Tensor α [4, n], ofMatrices (.ok ⟨[n, 3, 3], m⟩) = .ok ⟨[4, n], r⟩ ∧
      ∀ k, ofMatrices (Tensor.matrix (s := [n]) m k).toGrid = .ok (r.column k).toGrid) ∧
    (∃ r : Tensor α [3, n], rotate (.ok ⟨[4, n], q⟩) (.ok ⟨[3, n], v⟩) = .ok ⟨[3, n], r⟩ ∧
      ∀ k, rotate (q.column k).toGrid (v.vector k).toGrid = .ok (r.vector k).toGrid) ∧
    ∀ p : Quaternion α, ∃ r : Tensor α [3, n],
      rotate p.toGrid (.ok ⟨[3, n], v⟩) = .ok ⟨[3, n], r⟩ ∧
      ∀ k, rotate p.toGrid (v.vector k).toGrid = .ok (r.vector k).toGrid := by
  have axes : [n].length + 2 ≤ maxAxes := Nat.le_of_ble_eq_true rfl
  refine ⟨?_, ?_, ?_, ?_, ?_, ?_⟩
  · refine ⟨_, toMatrices_columns axes q, ?_⟩
    intro k
    rw [toMatrices_toGrid, Tensor.matrix_ofMatrices]
  · refine ⟨_, eulerAngles_columns axes q, ?_⟩
    intro k
    rw [eulerAngles_toGrid, Tensor.vector_ofVectors]
  · refine ⟨_, _, _, attitudes_columns axes q, ?_⟩
    intro k
    rw [attitudes_toGrid, Tensor.get_map, Tensor.get_map, Tensor.get_map, Tensor.get_ofFn]
    rfl
  · refine ⟨_, ofMatrices_columns m, ?_⟩
    intro k
    rw [ofMatrices_toGrid, Tensor.column_ofColumns]
  · refine ⟨_, rotate_columns q v, ?_⟩
    intro k
    rw [rotate_toGrid, Tensor.vector_ofVectors]
  · intro p
    refine ⟨_, rotate_vectors p v, ?_⟩
    intro k
    rw [rotate_toGrid, Tensor.vector_ofVectors]

end FlightAttitude.Stack
