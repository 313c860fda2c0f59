/-
# FlightAttitude.Grid.Components — stacks of vectors, quaternions and matrices as arrays

Vectors and quaternions keep their components on the **first** axis: an array of shape `3 :: s` is a
grid of shape `s` of vectors. Matrices keep rows and columns on the **last** two axes: a grid of
shape `s` of matrices is an array of shape `s ++ [3, 3]`. Writing a stack as an array and reading it
back gives the stack again (`Grid.vectors?_ofVectors`, `Grid.quaternions?_ofQuaternions`).
-/
import FlightAttitude.Grid
import FlightAttitude.Mat3
import FlightAttitude.Quaternion

namespace FlightAttitude.Grid

universe u

variable {α : Type u}

/-! ## §1 Vectors -/

/-- **`vectors? g`** — the stacked vectors, where the first axis is of length three. -/
def vectors? : Grid α → Option (Grid (Vec3 α))
  | ⟨3 :: s, t⟩ => some ⟨s, .ofFn fun p => .ofComponents fun i => t.get (i, p)⟩
  | _ => none

/-- **`ofVectors g`** — the array of a stack of vectors. -/
def ofVectors (g : Grid (Vec3 α)) : Grid α :=
  ⟨3 :: g.shape, .ofFn fun (i, p) => (g.cells.get p).component i⟩

/-- A stack whose first axis is of length three, component by component. -/
theorem vectors?_cons (s : Shape) (t : Tensor α (3 :: s)) :
    vectors? ⟨3 :: s, t⟩ = some ⟨s, .ofFn fun p => .ofComponents fun i => t.get (i, p)⟩ := rfl

theorem vectors?_ofVectors (g : Grid (Vec3 α)) : (ofVectors g).vectors? = some g := by
  rw [ofVectors, vectors?_cons]
  congr 2
  apply Tensor.ext_get
  intro p
  simp only [Tensor.get_ofFn]
  exact Vec3.ofComponents_component _

/-! ## §2 Quaternions -/

/-- **`quaternions? g`** — the stacked quaternions, where the first axis is of length four. -/
def quaternions? : Grid α → Option (Grid (Quaternion α))
  | ⟨4 :: s, t⟩ => some ⟨s, .ofFn fun p => .ofComponents fun i => t.get (i, p)⟩
  | _ => none

/-- **`quaternions g`** — the same, or the fault of a first axis of another length. -/
def quaternions (g : Grid α) : Except Fault (Grid (Quaternion α)) :=
  match g.quaternions? with
  | some q => .ok q
  | none => .error .firstAxisNotFour

/-- **`ofQuaternions g`** — the array of a stack of quaternions. -/
def ofQuaternions (g : Grid (Quaternion α)) : Grid α :=
  ⟨4 :: g.shape, .ofFn fun (i, p) => (g.cells.get p).component i⟩

/-- A stack whose first axis is of length four, component by component. -/
theorem quaternions?_cons (s : Shape) (t : Tensor α (4 :: s)) :
    quaternions? ⟨4 :: s, t⟩ = some ⟨s, .ofFn fun p => .ofComponents fun i => t.get (i, p)⟩ := rfl

theorem quaternions?_ofQuaternions (g : Grid (Quaternion α)) :
    (ofQuaternions g).quaternions? = some g := by
  rw [ofQuaternions, quaternions?_cons]
  congr 2
  apply Tensor.ext_get
  intro p
  simp only [Tensor.get_ofFn]
  exact Quaternion.ofComponents_component _

theorem quaternions_ofQuaternions (g : Grid (Quaternion α)) :
    (ofQuaternions g).quaternions = .ok g := by
  simp [quaternions, quaternions?_ofQuaternions]

/-! ## §3 Matrices -/

/-- **`ofMatrices g`** — the array of a stack of matrices. -/
def ofMatrices (g : Grid (Mat3 α)) : Grid α :=
  ⟨g.shape ++ [3, 3], .ofFn fun p =>
    let (k, i, j, _) := Position.split g.shape p
    (g.cells.get k).entry i j⟩

end FlightAttitude.Grid
